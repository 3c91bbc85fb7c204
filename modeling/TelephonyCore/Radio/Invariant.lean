import TelephonyCore.Radio.Phases

/-!
# `RadioProtocolController`: the invariant over runs

`Inv` holds along every run in which no message of an older session is counted for the running one
(`Label.Isolated`). For an answer without error it is enough that the modem puts the session id of
the request into it; the handlers compare that. An error carries no session id and is always
counted, so it must not come while a later session runs, except as the answer to an update, where
nothing is counted.
-/

namespace TelephonyCore.Radio

open Controller List

/-! ## What the handlers leave alone -/

theorem build_eq (c : Controller) (phase : RadioProtocolPhase) (status : RadioProtocolStatus) :
    ∃ oldRadioProtocol newRadioProtocol,
      c.buildRadioProtocolForCommunication phase status =
        { c with oldRadioProtocol, newRadioProtocol } := by
  unfold buildRadioProtocolForCommunication
  cases phase <;> dsimp only <;> first | exact ⟨_, _, rfl⟩ | (split <;> exact ⟨_, _, rfl⟩)

theorem build_frame (c : Controller) (phase : RadioProtocolPhase) (status : RadioProtocolStatus) :
    (c.buildRadioProtocolForCommunication phase status).radioProtocol = c.radioProtocol ∧
      (c.buildRadioProtocolForCommunication phase status).sessionId = c.sessionId := by
  obtain ⟨_, _, heq⟩ := build_eq c phase status
  rw [heq]
  exact ⟨rfl, rfl⟩

theorem send_frame (c : Controller) (l : List RadioProtocol) (eventId : EventId) :
    (c.sendRadioProtocolEvent l eventId).radioProtocol = c.radioProtocol ∧
      (c.sendRadioProtocolEvent l eventId).sessionId = c.sessionId := by
  unfold sendRadioProtocolEvent
  split
  · exact ⟨rfl, rfl⟩
  · split <;> exact ⟨rfl, rfl⟩

theorem executeUpdate_frame (c : Controller) :
    c.executeUpdateCommunication.radioProtocol = c.radioProtocol ∧
      c.executeUpdateCommunication.sessionId = c.sessionId := by
  unfold executeUpdateCommunication
  rw [(send_frame ..).1, (send_frame ..).2]
  exact build_frame ..

theorem executeComplete_frame (c : Controller) :
    c.executeCompleteCommunication.radioProtocol = c.radioProtocol ∧
      c.executeCompleteCommunication.sessionId = c.sessionId := by
  unfold executeCompleteCommunication
  rw [(send_frame ..).1, (send_frame ..).2]
  exact build_frame ..

theorem next_frame (kind : Await) (c : Controller) :
    (kind.next c).radioProtocol = c.radioProtocol ∧ (kind.next c).sessionId = c.sessionId := by
  cases kind with
  | check =>
    unfold Await.next
    dsimp only
    split
    · exact executeComplete_frame c
    · exact executeUpdate_frame c
  | notify => exact executeComplete_frame c
  | complete => exact ⟨rfl, rfl⟩

theorem countDown_frame (kind : Await) (c : Controller) :
    (c.countDown kind.next).radioProtocol = c.radioProtocol ∧
      (c.countDown kind.next).sessionId = c.sessionId := by
  unfold countDown
  dsimp only
  split
  · exact ⟨rfl, rfl⟩
  · exact next_frame kind _

/-- The kind of message an answer counts as, if it counts. -/
def EventId.kind : EventId → Option Await
  | .CHECK_RADIO_PROTOCOL => some .check
  | .UPDATE_RADIO_PROTOCOL => none
  | .SET_RADIO_PROTOCOL_COMPLETE => some .complete

def Controller.noted (c : Controller) (a : Answer) : Controller :=
  { c with communicationFailed := c.communicationFailed || !(decide (a ≠ .error)) }

variable {c : Controller} {a : Answer}

theorem noted_of_ne (h : a ≠ .error) : c.noted a = c := by
  unfold Controller.noted
  simp [h]

theorem processResponseInfoOfEvent_eq (c : Controller) (a : Answer) :
    c.processResponseInfoOfEvent a = (c.accepts a, c.noted a) := by
  cases a with
  | error | protocol p | nothing => simp [processResponseInfoOfEvent, Controller.noted]

theorem processAnswer_eq (c : Controller) (eventId : EventId) (a : Answer) :
    c.processAnswer eventId a =
      match eventId.kind with
      | some kind => if c.accepts a then (c.noted a).countDown kind.next else c
      | none => c.noted a := by
  have hr : c.accepts a = false → c.noted a = c := by
    intro h
    refine noted_of_ne (fun he => ?_)
    rw [he] at h
    cases h
  cases eventId with
  | UPDATE_RADIO_PROTOCOL =>
    show (c.processResponseInfoOfEvent a).2 = _
    rw [processResponseInfoOfEvent_eq]
    rfl
  | CHECK_RADIO_PROTOCOL =>
    show c.processCheckRadioProtocol a = _
    unfold processCheckRadioProtocol
    rw [processResponseInfoOfEvent_eq]
    cases h : c.accepts a with
    | true => rfl
    | false => exact hr h
  | SET_RADIO_PROTOCOL_COMPLETE =>
    show c.processSetRadioProtocolComplete a = _
    unfold processSetRadioProtocolComplete
    rw [processResponseInfoOfEvent_eq]
    cases h : c.accepts a with
    | true => rfl
    | false => exact hr h

theorem processAnswer_frame (c : Controller) (eventId : EventId) (a : Answer) :
    (c.processAnswer eventId a).radioProtocol = c.radioProtocol ∧
      (c.processAnswer eventId a).sessionId = c.sessionId := by
  rw [processAnswer_eq]
  split
  · split
    · exact countDown_frame _ _
    · exact ⟨rfl, rfl⟩
  · exact ⟨rfl, rfl⟩

theorem updateRadioProtocol_eq (c : Controller) (p : RadioProtocol) :
    ∃ radioProtocol, radioProtocol.length = c.radioProtocol.length ∧
      c.updateRadioProtocol p = { c with radioProtocol } := by
  unfold updateRadioProtocol
  split
  · exact ⟨_, length_modify .., rfl⟩
  · exact ⟨_, rfl, rfl⟩

def Controller.notified (c : Controller) (p : RadioProtocol) : Controller :=
  if p.status = .FAIL then { c with communicationFailed := true } else c.updateRadioProtocol p

theorem processRadioProtocolNotify_eq (c : Controller) (p : RadioProtocol) :
    c.processRadioProtocolNotify p =
      if p.sessionId ≠ c.sessionId then c else (c.notified p).countDown Await.notify.next :=
  rfl

theorem notified_eq (c : Controller) (p : RadioProtocol) :
    ∃ radioProtocol, radioProtocol.length = c.radioProtocol.length ∧
      c.notified p = { c with
        communicationFailed := c.communicationFailed || !(decide (p.status ≠ .FAIL))
        radioProtocol } := by
  unfold Controller.notified
  by_cases h : p.status = .FAIL
  · rw [if_pos h]
    exact ⟨_, rfl, by simp [h]⟩
  · rw [if_neg h]
    obtain ⟨radioProtocol, hl, heq⟩ := updateRadioProtocol_eq c p
    exact ⟨radioProtocol, hl, by rw [heq]; simp [h]⟩

/-! ## Messages that do not count -/

def FewerAwaited (s s₁ : State) : Prop :=
  ∀ kind : Await, (kind.slots s.controller.sessionId (s₁.pool kind)).Subperm (s.awaited kind)

variable {s : State} {kind : Await} {status : RadioProtocolStatus} {p q : RadioProtocol}
  {pre : List Entry} {done : List (Nat × Bool)}

theorem Active.keep (h : Active s kind status p q pre done) (s₁ : State) {failed : Bool}
    {radioProtocol : List RadioProtocol}
    (hfl : failed = false → s.controller.communicationFailed = false)
    (hs : s₁.session = s.session) (hfw : FewerAwaited s s₁) :
    Active (s₁.after { s.controller with communicationFailed := failed, radioProtocol } [])
      kind status p q pre done := by
  have hr := h.running
  refine ⟨{ hr with outbox := rfl }, h.count, h.more, ?_, ?_, ?_, ?_, h.before, fun hf => h.ok (hfl hf)⟩
  · rw [awaited_after]
    rw [hr.outbox]
    refine .trans ?_ h.tokens
    rw [show kind.slots s.controller.sessionId [] = [] from rfl, append_nil, subperm_append_right]
    exact hfw kind
  · intro kind' hne
    rw [awaited_after]
    rw [hr.outbox]
    have hnn := hfw kind'
    rw [h.others kind' hne, subperm_nil] at hnn
    rw [hnn]
    rfl
  · exact (congrArg Session.start hs).trans h.start
  · show s₁.session.log ++ ([] ++ .map _ s.controller.outbox) = _
    rw [hr.outbox, hs, h.log]
    simp
    rfl

/-- A handler ran outside of a session: no session, and no success, from it. -/
structure Rests (c c' : Controller) : Prop extends Ended c' where
  sessionId : c'.sessionId = c.sessionId
  result : c'.communicationResponseResult = true → c.communicationResponseResult = true

variable {s₁ : State} {k : Int} {eventId : EventId} {i : Nat} {n : RadioProtocol}

theorem Idle.keep (h : Idle s) {c' : Controller} (hrs : Rests s.controller c')
    (hss : s₁.session = s.session) (hf : FewerAwaited s s₁) : Idle (s₁.after c' []) := by
  refine ⟨{ hrs with outbox := rfl }, ?_, ?_⟩
  · intro kind
    have hn := hf kind
    rw [h.awaited, subperm_nil] at hn
    rw [awaited_after, hrs.sessionId, hn, hrs.outbox]
    rfl
  · intro hre
    have hsm : (s₁.after c' []).session = s.session := by
      unfold State.after
      rw [hrs.outbox, hss]
      simp
    rw [hsm]
    exact h.succeeded (hrs.result hre)

theorem Idle.rests (h : Idle s) (failed : Bool) (count : Int) :
    Rests s.controller { s.controller with
      communicationFailed := failed, communicatingSlotCount := count } :=
  ⟨{ h with }, rfl, id⟩

theorem Ended.next (h : Ended c) (kind : Await) : Ended (kind.next c) := by
  have hc : Ended c.executeCompleteCommunication := by
    rw [executeCompleteCommunication_nil h.slots h.old h.new]
    exact ⟨h.slots, rfl, rfl, rfl, rfl, h.outbox⟩
  cases kind with
  | check =>
    unfold Await.next
    dsimp only
    split
    · exact hc
    · rw [executeUpdateCommunication_nil h.slots h.old h.new]
      exact ⟨h.slots, rfl, rfl, rfl, rfl, h.outbox⟩
  | notify => exact hc
  | complete => exact ⟨h.slots, rfl, rfl, rfl, rfl, h.outbox⟩

theorem Ended.countDown (h : Ended c) (kind : Await) : Ended (c.countDown kind.next) := by
  have hl : Ended { c with communicatingSlotCount := c.communicatingSlotCount - 1 } := { h with }
  unfold Controller.countDown
  dsimp only
  split
  · exact hl
  · exact hl.next kind

theorem Ended.next_result (h : Ended c) (hf : c.communicationFailed) (kind : Await) :
    (kind.next c).communicationResponseResult = false := by
  have hc : c.executeCompleteCommunication.communicationResponseResult = false := by
    rw [executeCompleteCommunication_nil h.slots h.old h.new]
    rfl
  cases kind with
  | check =>
    unfold Await.next
    dsimp only
    rw [if_pos hf]
    exact hc
  | notify => exact hc
  | complete =>
    show (!c.communicationFailed) = false
    rw [hf]
    rfl

theorem Ended.countDown_rests (h : Ended c) (hf : c.communicationFailed)
    (kind : Await) : Rests c (c.countDown kind.next) := by
  refine ⟨h.countDown kind, (countDown_frame ..).2, ?_⟩
  have hl : Ended { c with communicatingSlotCount := c.communicatingSlotCount - 1 } := { h with }
  intro hr
  unfold Controller.countDown at hr
  dsimp only at hr
  split at hr
  · exact hr
  · rw [hl.next_result hf] at hr
    cases hr

theorem Idle.error_rests (h : Idle s) (kind : Await) :
    Rests s.controller (({ s.controller with communicationFailed := true }).countDown
      kind.next) := by
  have he : Ended { s.controller with communicationFailed := true } := { h with }
  have hr := he.countDown_rests rfl kind
  exact ⟨hr.toEnded, hr.sessionId, hr.result⟩

/-! ## The requests on their way -/

theorem countDown_outbox {phase : RadioProtocolPhase} (hrn : Running c phase status p q)
    (kind : Await) {r : Request} (hr : r ∈ (c.countDown kind.next).outbox) :
    r.protocol.sessionId = c.sessionId := by
  have hrn' : Running { c with communicatingSlotCount := c.communicatingSlotCount - 1 }
      phase status p q :=
    { hrn with }
  have hc : r ∈ { c with
      communicatingSlotCount := c.communicatingSlotCount - 1 }.executeCompleteCommunication.outbox →
      r.protocol.sessionId = c.sessionId := by
    intro hr
    rw [executeCompleteCommunication_eq hrn'.slots hrn'.ril hrn'.old hrn'.new] at hr
    rw [hrn.outbox, nil_append] at hr
    exact (mem_requests (show r ∈ Await.complete.requests _ _ _ _ from hr)).2.1
  unfold countDown at hr
  dsimp only at hr
  split at hr
  · rw [hrn.outbox] at hr
    cases hr
  · cases kind with
    | check =>
      unfold Await.next at hr
      dsimp only at hr
      split at hr
      · exact hc hr
      · rw [executeUpdateCommunication_eq hrn'.slots hrn'.ril hrn'.old hrn'.new] at hr
        rw [hrn.outbox, nil_append] at hr
        exact (mem_requestsTo hr).2.1
    | notify => exact hc hr
    | complete =>
      change r ∈ c.outbox at hr
      rw [hrn.outbox] at hr
      cases hr

/-- A handler leaves the requests on their way and adds some of its session. -/
structure Sends (s s₁ : State) (c : Controller) : Prop where
  id_le : s.controller.sessionId ≤ c.sessionId
  outstanding : s₁.outstanding ⊆ s.outstanding
  toNotify : s₁.toNotify ⊆ s.toNotify
  log : c.sessionId = s.controller.sessionId → s₁.session.log = s.session.log
  outbox : ∀ r ∈ c.outbox, r.protocol.sessionId ≤ c.sessionId

theorem Inv.after (hin : Inv s) (hs : Sends s s₁ c) {entries : List Entry}
    (ht : c.radioProtocol.length = 2) (hm : Idle (s₁.after c entries) ∨ ∃ kind status p q pre done,
      Active (s₁.after c entries) kind status p q pre done) : Inv (s₁.after c entries) := by
  refine ⟨ht, fun r hr => ?_, fun r hr => ?_, fun r hr hid => ?_, hm⟩
  · rcases hr with hr | hr
    · rcases mem_append.1 hr with hr | hr
      · exact le_trans (hin.ids r (.inl (hs.outstanding hr))) hs.id_le
      · exact hs.outbox r hr
    · rcases mem_append.1 hr with hr | hr
      · exact le_trans (hin.ids r (.inr (hs.toNotify hr))) hs.id_le
      · exact hs.outbox r (mem_of_mem_filter hr)
  · rcases mem_append.1 hr with hr | hr
    · exact hin.updates r (hs.toNotify hr)
    · simpa using (mem_filter.1 hr).2
  · rcases mem_append.1 hr with hr | hr
    · have hle := hin.ids r (.inr (hs.toNotify hr))
      have hid' : r.protocol.sessionId = c.sessionId := hid
      have hge := hs.id_le
      have heq : c.sessionId = s.controller.sessionId := by omega
      refine mem_append_left _ ?_
      rw [hs.log heq]
      exact hin.logged r (hs.toNotify hr) (hid'.trans heq)
    · refine mem_append_right _ (mem_append_right _ ?_)
      exact mem_map_of_mem (mem_of_mem_filter hr)

theorem slots_subperm {l l' : List Request} (h : l.Sublist l') (kind : Await) (k : Int) :
    (kind.slots k l).Subperm (kind.slots k l') :=
  ((h.filter _).map _).subperm

theorem fewer_outstanding (s : State) (i : Nat) :
    FewerAwaited s { s with outstanding := s.outstanding.eraseIdx i } := by
  intro kind
  cases kind with
  | notify => exact .refl _
  | check | complete => exact slots_subperm (eraseIdx_sublist ..) _ _

theorem fewer_toNotify (s : State) (i : Nat) :
    FewerAwaited s { s with toNotify := s.toNotify.eraseIdx i } := by
  intro kind
  cases kind with
  | notify => exact slots_subperm (eraseIdx_sublist ..) _ _
  | check | complete => exact .refl _

variable {r : Request}

theorem mem_awaited (hm : r ∈ s.pool kind) (ho : r.owes kind s.controller.sessionId) :
    r.slotId ∈ s.awaited kind := by
  refine mem_map.2 ⟨r, mem_filter.2 ⟨hm, ?_⟩, rfl⟩
  simpa [Request.owes] using ho

/-! ## One step -/

/-- An answer without an error has the session id of the request. -/
def Answer.Echoes (r : Request) : Answer → Prop
  | .protocol p => p.sessionId = r.protocol.sessionId
  | _ => True

/-- The messages of the modem have the session id of their request. -/
def Label.Echoes (s : State) : Label → Prop
  | .answer i a => ∀ r ∈ s.outstanding[i]?, a.Echoes r
  | .notify i p => ∀ r ∈ s.toNotify[i]?, p.sessionId = r.protocol.sessionId
  | _ => True

/-- An answer that is counted is for a request of the current session. -/
def State.Owns (s : State) (r : Request) (a : Answer) : Prop :=
  s.controller.accepts a = true → r.eventId ≠ .UPDATE_RADIO_PROTOCOL →
    (a = .error → s.controller.isCommunicating = true) →
    r.protocol.sessionId = s.controller.sessionId

/-- No message is counted for another session than its own. -/
def Label.Isolated (s : State) : Label → Prop
  | .answer i a => ∀ r ∈ s.outstanding[i]?, s.Owns r a
  | .notify i p => ∀ r ∈ s.toNotify[i]?, p.sessionId = s.controller.sessionId →
      r.protocol.sessionId = s.controller.sessionId
  | _ => True

theorem accepts_eq_false (her : a ≠ .error) (hec : a.Echoes r)
    (hid : r.protocol.sessionId ≠ c.sessionId) : c.accepts a = false := by
  cases a with
  | error => exact absurd rfl her
  | protocol p =>
    have hp : p.sessionId = r.protocol.sessionId := hec
    unfold Controller.accepts
    simp [hp, hid]
  | nothing => rfl

theorem setRadioProtocol_eq (hsl : c.slotCount = 2) (hr : c.telRilManager)
    (hst : c.radioProtocol = [p, q]) (ho : c.outbox = []) :
    c.setRadioProtocol = { c with
        communicationResponseResult := false
        communicationFailed := false
        sessionId := c.sessionId + 1
        isCommunicating := true
        timeouts := [c.sessionId + 1]
        oldRadioProtocol := pairOf (c.sessionId + 1) .CHECK .NONE p q
        newRadioProtocol := pairOf (c.sessionId + 1) .CHECK .NONE q p
        communicatingSlotCount := 2
        outbox := Await.check.requests (c.sessionId + 1) .NONE p q } := by
  unfold Controller.setRadioProtocol
  rw [executeCheckCommunication_eq (by exact hsl) (by exact hr) (by exact hst) rfl rfl]
  rw [ho]
  rfl

theorem executeCheckCommunication_no_ril (hr : c.telRilManager = false) :
    c.executeCheckCommunication = { c with
        sessionId := c.sessionId + 1
        communicatingSlotCount := c.slotCount }.failCommunication := by
  unfold executeCheckCommunication resetNextCommunicationSlotCount
  dsimp only
  obtain ⟨_, _, heq⟩ := build_eq { c with
    sessionId := c.sessionId + 1
    isCommunicating := true
    timeouts := c.timeouts ++ [c.sessionId + 1] } .CHECK .NONE
  rw [heq]
  unfold sendRadioProtocolEvent
  rw [if_pos (.inl hr)]
  rfl

theorem setRadioProtocol_no_ril (hr : c.telRilManager = false) :
    c.setRadioProtocol = { c with
        communicationResponseResult := false
        communicationFailed := false
        sessionId := c.sessionId + 1
        isCommunicating := false
        timeouts := []
        oldRadioProtocol := []
        newRadioProtocol := []
        communicatingSlotCount := c.slotCount } := by
  unfold Controller.setRadioProtocol
  rw [executeCheckCommunication_no_ril (by exact hr)]
  rfl

theorem Inv.stale (hin : Inv s) (hk : s.controller.sessionId < k) (kind : Await) :
    kind.slots k (s.pool kind) = [] := by
  refine slots_eq_nil (fun r hr => ?_)
  have hm : r ∈ s.outstanding ∨ r ∈ s.toNotify := by
    cases kind with
    | notify => exact .inr hr
    | check | complete => exact .inl hr
  exact lt_of_le_of_lt (hin.ids r hm) hk

theorem Inv.begin (hin : Inv s) (h : Idle s) :
    Inv (s.newSession.after s.controller.setRadioProtocol []) := by
  obtain ⟨p, q, hso⟩ := length_eq_two.1 hin.two
  have hst := hin.stale (Int.lt_add_one_of_le (le_refl s.controller.sessionId))
  have hnw : ∀ r ∈ Await.check.requests (s.controller.sessionId + 1) .NONE p q,
      r.protocol.sessionId ≤ s.controller.sessionId + 1 :=
    fun r hr => le_of_eq (mem_requests hr).2.1
  cases hrl : s.controller.telRilManager with
  | true =>
    rw [setRadioProtocol_eq h.slots hrl hso h.outbox]
    refine hin.after ?_ hin.two (.inr ⟨.check, .NONE, p, q, [], [], ?_⟩)
    · exact ⟨by dsimp only; omega, .refl _, .refl _, fun h => by dsimp only at h; omega, hnw⟩
    refine ⟨⟨h.slots, hrl, rfl, rfl, rfl, rfl, rfl, rfl⟩, rfl, by simp, ?_, ?_, hso, ?_,
      ⟨rfl, rfl⟩, fun _ => ⟨by simp, by simp⟩⟩
    · rw [awaited_after]
      rw [show s.newSession.pool .check = s.pool .check from rfl, hst,
        nil_append, map_nil, append_nil]
      exact (List.Perm.of_eq (slots_requestsTo ..)).subperm
    · intro kind hne
      rw [awaited_after]
      rw [show s.newSession.pool kind = s.pool kind by cases kind <;> rfl, hst, nil_append]
      refine (slots_requestsTo ..).trans (if_neg ?_)
      cases kind <;> simp_all [Await.eventId]
    · simp [State.after, State.newSession, Await.logged]
  | false =>
    rw [setRadioProtocol_no_ril hrl]
    refine hin.after ?_ hin.two
      (.inl ⟨⟨h.slots, rfl, rfl, rfl, rfl, rfl⟩, ?_, fun hr => by cases hr⟩)
    · exact ⟨by dsimp only; omega, .refl _, .refl _,
        fun h => by dsimp only at h; omega, by dsimp only; rw [h.outbox]; simp⟩
    intro kind
    rw [awaited_after]
    rw [show s.newSession.pool kind = s.pool kind by cases kind <;> rfl, hst, h.outbox]
    rfl

theorem timeout_eq (hsl : c.slotCount = 2) :
    c.processSetRadioProtocolTimeout c.sessionId = { c with
        communicationResponseResult := false
        isCommunicating := false
        timeouts := []
        communicationFailed := false
        oldRadioProtocol := []
        newRadioProtocol := []
        sessionId := c.sessionId + 1
        communicatingSlotCount := 2 } := by
  unfold processSetRadioProtocolTimeout
  rw [if_neg (by simp)]
  rw [executeCompleteCommunication_nil (by exact hsl) rfl rfl]
  rfl

theorem Inv.timeout (hin : Inv s) (h : Active s kind status p q pre done)
    (hc : c = { s.controller with timeouts := [] }) :
    Inv (s.after (c.processSetRadioProtocolTimeout c.sessionId) []) := by
  subst hc
  rw [timeout_eq (by exact h.running.slots)]
  refine hin.after ?_ hin.two
    (.inl ⟨⟨h.running.slots, rfl, rfl, rfl, rfl, rfl⟩, ?_, fun hr => by cases hr⟩)
  · exact ⟨by dsimp only; omega, .refl _, .refl _, fun _ => rfl,
      by dsimp only; rw [h.running.outbox]; simp⟩
  intro kind'
  rw [awaited_after]
  rw [hin.stale (Int.lt_add_one_of_le (le_refl _)) kind', h.running.outbox]
  rfl

theorem Active.kind_eq (h : Active s kind status p q pre done) (kind' : Await)
    (hm : r ∈ s.pool kind') (ho : r.owes kind' s.controller.sessionId) : kind' = kind := by
  by_contra hne
  have hs := mem_awaited hm ho
  rw [h.others kind' hne] at hs
  cases hs

theorem kind_owes (hk : r.eventId.kind = some kind) (hid : r.protocol.sessionId = k) :
    r.owes kind k := by
  refine ⟨?_, hid⟩
  cases hev : r.eventId <;> rw [hev] at hk <;> cases hk <;> rfl

theorem pool_of_kind (hk : eventId.kind = some kind) : s.pool kind = s.outstanding := by
  cases eventId <;> cases hk <;> rfl

theorem countsAnswer_of_kind (hk : r.eventId.kind = some kind)
    (hc : c.isCommunicating) (ha : c.accepts a) :
    c.countsAnswer r a = [.received kind r.slotId (decide (a ≠ .error))] := by
  unfold Controller.countsAnswer
  rw [hc, ha]
  cases hev : r.eventId <;> rw [hev] at hk <;> cases hk <;> rfl

theorem accepted_id (ho : s.Owns r a) (hk : r.eventId.kind = some kind)
    (ha : s.controller.accepts a) (he : a = .error → s.controller.isCommunicating) :
    r.protocol.sessionId = s.controller.sessionId := by
  refine ho ha ?_ he
  intro hu
  rw [hu] at hk
  cases hk

theorem countsAnswer_of_update (h : r.eventId = .UPDATE_RADIO_PROTOCOL) :
    c.countsAnswer r a = [] := by
  simp [Controller.countsAnswer, h]

theorem eventId_of_kind_none (h : eventId.kind = none) : eventId = .UPDATE_RADIO_PROTOCOL := by
  cases eventId <;> first | rfl | cases h

theorem Inv.answer_active (hin : Inv s) (h : Active s kind status p q pre done)
    (hg : s.outstanding[i]? = some r) (hon : s.Owns r a) :
    Inv ({ s with outstanding := s.outstanding.eraseIdx i }.after
      (s.controller.processAnswer r.eventId a) (s.controller.countsAnswer r a)) := by
  have hfr := processAnswer_frame s.controller r.eventId a
  have ht : (s.controller.processAnswer r.eventId a).radioProtocol.length = 2 := by
    rw [hfr.1]
    exact hin.two
  let s₁ : State := { s with outstanding := s.outstanding.eraseIdx i }
  have hs : ∀ c, c.sessionId = s.controller.sessionId →
      (∀ r ∈ c.outbox, r.protocol.sessionId ≤ c.sessionId) → Sends s s₁ c :=
    fun c hid hot => ⟨le_of_eq hid.symm, eraseIdx_subset, .refl _, fun _ => rfl, hot⟩
  rw [processAnswer_eq] at hfr ht ⊢
  cases hk : r.eventId.kind with
  | none =>
    -- the answer to an update: nothing but the flag
    rw [hk] at hfr ht
    rw [countsAnswer_of_update (eventId_of_kind_none hk)]
    refine hin.after (hs (s.controller.noted a) rfl
      (by show ∀ r ∈ s.controller.outbox, _; rw [h.running.outbox]; simp)) ht
      (.inr ⟨kind, status, p, q, pre, done, ?_⟩)
    refine h.keep s₁ ?_ rfl (fewer_outstanding s i)
    intro hfl
    exact (Bool.or_eq_false_iff.1 hfl).1
  | some kind' =>
    rw [hk] at hfr ht
    cases hac : s.controller.accepts a with
    | false =>
      rw [countsAnswer_of_refused hac]
      refine hin.after (hs s.controller rfl (by rw [h.running.outbox]; simp)) hin.two
        (.inr ⟨kind, status, p, q, pre, done, ?_⟩)
      exact h.keep s₁ id rfl (fewer_outstanding s i)
    | true =>
      rw [hac] at hfr ht
      have hid := accepted_id hon hk hac (fun _ => h.running.communicating)
      have hos := kind_owes hk hid
      have hp : s.pool kind' = s.outstanding := pool_of_kind hk
      obtain rfl := h.kind_eq kind' (by rw [hp]; exact mem_of_getElem? hg) hos
      rw [countsAnswer_of_kind hk h.running.communicating hac]
      have hrn : Running (s.controller.noted a) kind'.phase status p q := { h.running with }
      refine hin.after (hs ((s.controller.noted a).countDown kind'.next) hfr.2
        (fun r' hr' => le_of_eq ((countDown_outbox hrn kind' hr').trans hfr.2.symm))) ht ?_
      refine h.receive ⟨⟨_, rfl⟩, rfl, ?_, ?_⟩
      · unfold State.awaited
        rw [hp, pool_of_kind hk, ← slots_cons_owes hos]
        exact slots_erase hg _ _
      · intro kind'' hne
        have hfw := fewer_outstanding s i kind''
        rwa [h.others kind'' hne, subperm_nil] at hfw

theorem Inv.notify_owes (hin : Inv s) (hg : s.toNotify[i]? = some r)
    (hid : r.protocol.sessionId = s.controller.sessionId) : r.owes .notify s.controller.sessionId :=
  ⟨hin.updates r (mem_of_getElem? hg), hid⟩

theorem Inv.notify_active (hin : Inv s) (h : Active s kind status p q pre done)
    (hg : s.toNotify[i]? = some r) (hon : n.sessionId = s.controller.sessionId →
      r.protocol.sessionId = s.controller.sessionId) :
    Inv ({ s with toNotify := s.toNotify.eraseIdx i }.after
      (s.controller.processRadioProtocolNotify n) (s.controller.countsNotify r n)) := by
  let s₁ : State := { s with toNotify := s.toNotify.eraseIdx i }
  have hs : ∀ c, c.sessionId = s.controller.sessionId →
      (∀ r ∈ c.outbox, r.protocol.sessionId ≤ c.sessionId) → Sends s s₁ c :=
    fun c hid hot => ⟨le_of_eq hid.symm, .refl _, eraseIdx_subset, fun _ => rfl, hot⟩
  rw [processRadioProtocolNotify_eq]
  unfold Controller.countsNotify
  by_cases hid : n.sessionId = s.controller.sessionId
  · -- the notification of a slot of this session
    have hos := hin.notify_owes hg (hon hid)
    obtain rfl := h.kind_eq .notify (mem_of_getElem? hg) hos
    obtain ⟨radioProtocol, hl, heq⟩ := notified_eq s.controller n
    have hfr := countDown_frame .notify (s.controller.notified n)
    rw [if_neg (not_not.2 hid), hid, h.running.communicating, beq_self_eq_true, Bool.and_self,
      if_pos rfl]
    rw [heq] at hfr ⊢
    have hrn : Running { s.controller with
        communicationFailed := s.controller.communicationFailed || !(decide (n.status ≠ .FAIL))
        radioProtocol } Await.notify.phase status p q :=
      { h.running with }
    refine hin.after (hs _ hfr.2
      (fun r' hr' => le_of_eq ((countDown_outbox hrn .notify hr').trans hfr.2.symm))) ?_
      (h.receive ⟨⟨radioProtocol, rfl⟩, rfl, ?_, ?_⟩)
    · exact (congrArg List.length hfr.1).trans (hl.trans hin.two)
    · rw [← slots_cons_owes hos]
      exact slots_erase hg _ _
    · intro kind' hne
      have hfw := fewer_toNotify s i kind'
      rwa [h.others kind' hne, subperm_nil] at hfw
  · rw [if_pos hid, beq_false_of_ne hid, Bool.and_false, if_neg (by simp)]
    refine hin.after (hs s.controller rfl (by rw [h.running.outbox]; simp)) hin.two
      (.inr ⟨kind, status, p, q, pre, done, ?_⟩)
    exact h.keep s₁ id rfl (fewer_toNotify s i)

theorem Idle.not_owes (h : Idle s) (kind : Await) (hm : r ∈ s.pool kind) :
    ¬ r.owes kind s.controller.sessionId := by
  intro ho
  have hs := mem_awaited hm ho
  rw [h.awaited] at hs
  cases hs

theorem Idle.answer_rests (h : Idle s) (hg : s.outstanding[i]? = some r) (ho : s.Owns r a) :
    Rests s.controller (s.controller.processAnswer r.eventId a) := by
  rw [processAnswer_eq]
  cases hk : r.eventId.kind with
  | none => exact h.rests _ _
  | some kind =>
    cases hac : s.controller.accepts a with
    | false => exact h.rests _ _
    | true =>
      by_cases he : a = .error
      · subst he
        have hn : s.controller.noted .error =
            { s.controller with communicationFailed := true } := by
          simp [Controller.noted]
        rw [hn]
        exact h.error_rests kind
      · have hid := accepted_id ho hk hac (fun h => absurd h he)
        refine absurd (kind_owes hk hid) (h.not_owes kind ?_)
        rw [pool_of_kind hk]
        exact mem_of_getElem? hg

theorem Inv.answer_idle (hin : Inv s) (h : Idle s) (hg : s.outstanding[i]? = some r)
    (ho : s.Owns r a) :
    Inv ({ s with outstanding := s.outstanding.eraseIdx i }.after
      (s.controller.processAnswer r.eventId a) (s.controller.countsAnswer r a)) := by
  rw [countsAnswer_of_idle h.communicating]
  have hfr := processAnswer_frame s.controller r.eventId a
  have hr := h.answer_rests hg ho
  refine hin.after ?_ ((congrArg List.length hfr.1).trans hin.two) (.inl ?_)
  · exact ⟨le_of_eq hfr.2.symm, eraseIdx_subset, .refl _, fun _ => rfl, by rw [hr.outbox]; simp⟩
  · exact h.keep hr rfl (fewer_outstanding s i)

theorem Inv.notify_idle (hin : Inv s) (h : Idle s) (hg : s.toNotify[i]? = some r)
    (ho : n.sessionId = s.controller.sessionId → r.protocol.sessionId = s.controller.sessionId) :
    s.controller.processRadioProtocolNotify n = s.controller ∧
      Inv ({ s with toNotify := s.toNotify.eraseIdx i }.after
        (s.controller.processRadioProtocolNotify n) (s.controller.countsNotify r n)) := by
  have hid : n.sessionId ≠ s.controller.sessionId := fun hid =>
    h.not_owes .notify (mem_of_getElem? hg) (hin.notify_owes hg (ho hid))
  have hs : s.controller.processRadioProtocolNotify n = s.controller := by
    rw [processRadioProtocolNotify_eq, if_pos hid]
  refine ⟨hs, ?_⟩
  rw [hs, countsNotify_of_idle h.communicating]
  refine hin.after ?_ hin.two (.inl ?_)
  · exact ⟨le_refl _, .refl _, eraseIdx_subset, fun _ => rfl, by rw [h.outbox]; simp⟩
  · exact h.keep (h.rests _ _) rfl (fewer_toNotify s i)

theorem fewer_refl (s : State) : FewerAwaited s s := fun _ => .refl _

/-- **The phases are kept** by every isolated step. -/
theorem Stepped.inv {s' : State} {l : Label} (h : Stepped s l s') (hin : Inv s)
    (hio : l.Isolated s) : Inv s' := by
  cases h with
  | refuse hb => exact hin
  | begin hid =>
    rcases hin.mode with hmd | ⟨kind, status, p, q, pre, done, hmd⟩
    · exact hin.begin hmd
    · cases hid.symm.trans hmd.running.communicating
  | answer a hg =>
    rcases hin.mode with hmd | ⟨kind, status, p, q, pre, done, hmd⟩
    · exact hin.answer_idle hmd hg (hio _ hg)
    · exact hin.answer_active hmd hg (hio _ hg)
  | notify n hg =>
    rcases hin.mode with hmd | ⟨kind, status, p, q, pre, done, hmd⟩
    · exact (hin.notify_idle hmd hg (hio _ hg)).2
    · exact hin.notify_active hmd hg (hio _ hg)
  | timeout hmm =>
    rcases hin.mode with hmd | ⟨kind, status, p, q, pre, done, hmd⟩
    · rw [hmd.timeouts] at hmm
      cases hmm
    · rw [hmd.running.timeouts] at hmm
      obtain rfl := mem_singleton.1 hmm
      refine hin.timeout hmd ?_
      rw [hmd.running.timeouts]
      simp
  | getRadioProtocol n =>
    obtain ⟨radioProtocol, hl, heq⟩ := updateRadioProtocol_eq s.controller n
    rw [heq]
    have hs : s.controller.outbox = [] → Sends s s { s.controller with radioProtocol } :=
      fun hn => ⟨le_refl _, .refl _, .refl _, fun _ => rfl, by dsimp only; rw [hn]; simp⟩
    rcases hin.mode with hmd | ⟨kind, status, p, q, pre, done, hmd⟩
    · refine hin.after (hs hmd.outbox) (hl.trans hin.two)
        (.inl (hmd.keep ?_ rfl (fewer_refl s)))
      exact ⟨{ hmd with }, rfl, id⟩
    · exact hin.after (hs hmd.running.outbox) (hl.trans hin.two)
        (.inr ⟨kind, status, p, q, pre, done, hmd.keep s id rfl (fewer_refl s)⟩)
  | returns hg hf hw =>
    refine ⟨hin.two, hin.ids, hin.updates, hin.logged, ?_⟩
    rcases hin.mode with hmd | ⟨kind, status, p, q, pre, done, hmd⟩
    · exact .inl ⟨hmd.toEnded, hmd.awaited, hmd.succeeded⟩
    · exact .inr ⟨kind, status, p, q, pre, done, hmd.running, hmd.count, hmd.more,
        hmd.tokens, hmd.others, hmd.start, hmd.log, hmd.before, hmd.ok⟩

theorem Inv.outbox (h : Inv s) : s.controller.outbox = [] := by
  rcases h.mode with hm | ⟨_, _, p, q, _, _, hm⟩
  · exact hm.outbox
  · exact hm.running.outbox

theorem Inv.slotCount (h : Inv s) : s.controller.slotCount = 2 := by
  rcases h.mode with hm | ⟨_, _, p, q, _, _, hm⟩
  · exact hm.slots
  · exact hm.running.slots

theorem Inv.idle (h : Inv s) (hc : s.controller.isCommunicating = false) : Idle s := by
  rcases h.mode with hm | ⟨_, _, p, q, _, _, hm⟩
  · exact hm
  · cases hc.symm.trans hm.running.communicating

/-! ## The start of a run -/

/-- Two slots, and no session or anything of one on its way. -/
structure Fresh (s : State) : Prop where
  slots : s.controller.slotCount = 2
  two : s.controller.radioProtocol.length = 2
  communicating : s.controller.isCommunicating = false
  result : s.controller.communicationResponseResult = false
  old : s.controller.oldRadioProtocol = []
  new : s.controller.newRadioProtocol = []
  timeouts : s.controller.timeouts = []
  outbox : s.controller.outbox = []
  outstanding : s.outstanding = []
  toNotify : s.toNotify = []
  calls : s.calls = []

theorem Fresh.awaited (h : Fresh s) (kind : Await) : s.awaited kind = [] := by
  unfold State.awaited State.pool
  cases kind <;> simp [h.outstanding, h.toNotify, Await.slots]

theorem Fresh.inv (h : Fresh s) : Inv s where
  two := h.two
  ids := by simp [h.outstanding, h.toNotify]
  updates := by simp [h.toNotify]
  logged := by simp [h.toNotify]
  mode := .inl ⟨{ h with }, h.awaited, fun hr => absurd (h.result.symm.trans hr) (by simp)⟩

def twoSlots : State where
  controller :=
    { telRilManager := true
      slotCount := 2
      radioProtocol := [⟨0, 0, .INITIAL, 1, 10, .NONE⟩, ⟨1, 0, .INITIAL, 2, 20, .NONE⟩] }

theorem fresh_twoSlots : Fresh twoSlots := by
  constructor <;> rfl

end TelephonyCore.Radio
