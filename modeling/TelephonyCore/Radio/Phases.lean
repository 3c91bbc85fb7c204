import TelephonyCore.Radio.Session
import TelephonyCore.Lib.Transition

/-!
# `RadioProtocolController`: the phases of a session

While a session runs, it awaits one message of every slot, of one kind: answers to the check,
notifications, or answers to the complete request. `Active` ties together the members of the class,
the messages that are still to come, and the log of the session. Three facts in it carry the proofs:
the counter is two minus the number of messages counted; each slot owes or has sent one message
(`tokens`); and the log is exactly the requests and messages of the phases so far, in their order
(`log`, `Before`).
-/

namespace TelephonyCore.Radio

open Controller List

/-! ## What is awaited -/

def Await.phase : Await → RadioProtocolPhase
  | .check => .CHECK
  | .notify => .UPDATE
  | .complete => .COMPLETE

/-- The slots of requests of a session that await this kind of message. -/
def Await.slots (kind : Await) (sessionId : Int) (rs : List Request) : List Nat :=
  (rs.filter (fun r => r.eventId = kind.eventId ∧ r.protocol.sessionId = sessionId)).map
    Request.slotId

def State.pool (s : State) : Await → List Request
  | .notify => s.toNotify
  | _ => s.outstanding

/-- Of the current session. -/
def State.awaited (s : State) (kind : Await) : List Nat :=
  kind.slots s.controller.sessionId (s.pool kind)

theorem slots_append (kind : Await) (k : Int) (l l' : List Request) :
    kind.slots k (l ++ l') = kind.slots k l ++ kind.slots k l' := by
  unfold Await.slots
  rw [filter_append, map_append]

theorem slots_requestsTo (kind : Await) (k : Int) (phase : RadioProtocolPhase)
    (status : RadioProtocolStatus) (p q : RadioProtocol) (eventId : EventId) :
    kind.slots k (requestsTo eventId (pairOf k phase status p q)) =
      if eventId = kind.eventId then [0, 1] else [] := by
  unfold Await.slots requestsTo pairOf
  by_cases h : eventId = kind.eventId
  · simp [h]
  · simp [h]

theorem slots_completeVector (kind : Await) (k : Int) (status : RadioProtocolStatus)
    (p q : RadioProtocol) (eventId : EventId) :
    kind.slots k (requestsTo eventId (completeVector k status p q)) =
      if eventId = kind.eventId then [0, 1] else [] := by
  unfold completeVector
  split <;> exact slots_requestsTo ..

variable {kind : Await} {k : Int} {rs : List Request} {r : Request} {phase : RadioProtocolPhase}
  {done : List (Nat × Bool)} {d : Nat × Bool}

theorem slots_eq_nil (h : ∀ r ∈ rs, r.protocol.sessionId < k) : kind.slots k rs = [] := by
  unfold Await.slots
  rw [map_eq_nil_iff, filter_eq_nil_iff]
  intro r hr
  have := h r hr
  simp
  omega

def Request.owes (r : Request) (kind : Await) (k : Int) : Prop :=
  r.eventId = kind.eventId ∧ r.protocol.sessionId = k

theorem slots_erase {i : Nat} (hg : rs[i]? = some r) (kind : Await) (k : Int) :
    (kind.slots k rs).Perm (kind.slots k (r :: rs.eraseIdx i)) := by
  obtain ⟨hlt, rfl⟩ := List.getElem?_eq_some_iff.1 hg
  exact ((getElem_cons_eraseIdx_perm hlt).symm.filter _).map _

theorem slots_cons_owes (h : r.owes kind k) (rs : List Request) :
    kind.slots k (r :: rs) = r.slotId :: kind.slots k rs := by
  unfold Await.slots
  rw [filter_cons_of_pos (by simpa [Request.owes] using h)]
  rfl

theorem awaited_after (s : State) (c : Controller) (entries : List Entry) (kind : Await) :
    (s.after c entries).awaited kind =
      kind.slots c.sessionId (s.pool kind) ++ kind.slots c.sessionId c.outbox := by
  unfold State.awaited State.after
  cases kind with
  | notify =>
    show Await.slots .notify _ (s.toNotify ++ _) = _
    rw [slots_append]
    congr 1
    unfold Await.slots
    rw [filter_filter]
    congr 1
    apply filter_congr
    intro r _
    by_cases h : r.eventId = .UPDATE_RADIO_PROTOCOL <;> simp [h, Await.eventId]
  | check | complete => exact slots_append ..

/-! ## The phases -/

structure Running (c : Controller) (phase : RadioProtocolPhase) (status : RadioProtocolStatus)
    (p q : RadioProtocol) : Prop where
  slots : c.slotCount = 2
  ril : c.telRilManager = true
  communicating : c.isCommunicating = true
  result : c.communicationResponseResult = false
  old : c.oldRadioProtocol = pairOf c.sessionId phase status p q
  new : c.newRadioProtocol = pairOf c.sessionId phase status q p
  timeouts : c.timeouts = [c.sessionId]
  outbox : c.outbox = []

def Await.requests (kind : Await) (k : Int) (status : RadioProtocolStatus) (p q : RadioProtocol) :
    List Request :=
  match kind with
  | .check => requestsTo .CHECK_RADIO_PROTOCOL (pairOf k .CHECK status p q)
  | .notify => requestsTo .UPDATE_RADIO_PROTOCOL (pairOf k .UPDATE status q p)
  | .complete => requestsTo .SET_RADIO_PROTOCOL_COMPLETE (completeVector k status p q)

/-- A phase in the log: its requests, and the messages counted. -/
def Await.logged (kind : Await) (k : Int) (status : RadioProtocolStatus) (p q : RadioProtocol)
    (done : List (Nat × Bool)) : List Entry :=
  (kind.requests k status p q).map .sent ++ done.map (fun d => .received kind d.1 d.2)

/-- A phase in which every slot reported success, in some order. -/
def Await.passed (kind : Await) (k : Int) (status : RadioProtocolStatus) (p q : RadioProtocol)
    (order : List Nat) : List Entry :=
  kind.logged k status p q (order.map (·, true))

/-- What the log holds when the session comes to await a kind of message. -/
def Before (k : Int) (p q : RadioProtocol) (status : RadioProtocolStatus) (log : List Entry) :
    Await → Prop
  | .check => status = .NONE ∧ log = []
  | .notify => status = .NONE ∧ ∃ xs, xs.Perm [0, 1] ∧ log = Await.check.passed k .NONE p q xs
  | .complete =>
      (status = .SUCCESS ∧ ∃ xs ys, xs.Perm [0, 1] ∧ ys.Perm [0, 1] ∧
        log = Await.check.passed k .NONE p q xs ++ Await.notify.passed k .NONE p q ys) ∨
      (status = .FAIL ∧ ∀ r, .sent r ∈ log → r.protocol.phase ≠ .COMPLETE)

/-- `pre` is the log before this phase. -/
structure Active (s : State) (kind : Await) (status : RadioProtocolStatus) (p q : RadioProtocol)
    (pre : List Entry) (done : List (Nat × Bool)) : Prop where
  running : Running s.controller kind.phase status p q
  count : s.controller.communicatingSlotCount = 2 - done.length
  more : done.length < 2
  tokens : (s.awaited kind ++ done.map Prod.fst).Subperm [0, 1]
  others : ∀ kind', kind' ≠ kind → s.awaited kind' = []
  start : s.session.start = [p, q]
  log : s.session.log = pre ++ kind.logged s.controller.sessionId status p q done
  before : Before s.controller.sessionId p q status pre kind
  ok : s.controller.communicationFailed = false → status ≠ .FAIL ∧ ∀ d ∈ done, d.2 = true

/-- The session sent and received everything, in order and without failure. -/
def Session.Succeeded (session : Session) : Prop :=
  ∃ k p q xs ys zs, session.start = [p, q] ∧ xs.Perm [0, 1] ∧ ys.Perm [0, 1] ∧ zs.Perm [0, 1] ∧
    session.log = Await.check.passed k .NONE p q xs ++ Await.notify.passed k .NONE p q ys ++
      Await.complete.passed k .SUCCESS p q zs

structure Ended (c : Controller) : Prop where
  slots : c.slotCount = 2
  communicating : c.isCommunicating = false
  old : c.oldRadioProtocol = []
  new : c.newRadioProtocol = []
  timeouts : c.timeouts = []
  outbox : c.outbox = []

structure Idle (s : State) : Prop extends Ended s.controller where
  awaited : ∀ kind, s.awaited kind = []
  succeeded : s.controller.communicationResponseResult = true → s.session.Succeeded

structure Inv (s : State) : Prop where
  two : s.controller.radioProtocol.length = 2
  ids : ∀ r, r ∈ s.outstanding ∨ r ∈ s.toNotify → r.protocol.sessionId ≤ s.controller.sessionId
  updates : ∀ r ∈ s.toNotify, r.eventId = .UPDATE_RADIO_PROTOCOL
  logged : ∀ r ∈ s.toNotify, r.protocol.sessionId = s.controller.sessionId → .sent r ∈ s.session.log
  mode : Idle s ∨ ∃ kind status p q pre done, Active s kind status p q pre done

/-! ## Entering a phase -/

section Enter

variable {s : State} {c : Controller} {status : RadioProtocolStatus} {p q : RadioProtocol}
  {entries : List Entry}

/-- Nothing awaited is left. -/
structure Finished (s : State) (c : Controller) (p q : RadioProtocol) : Prop where
  none_left : ∀ kind : Await, kind.slots c.sessionId (s.pool kind) = []
  start : s.session.start = [p, q]

theorem enter_update (hr : Running c .CHECK status p q) (hf : Finished s c p q)
    (hb : Before c.sessionId p q .NONE (s.session.log ++ entries) .notify) :
    Active (s.after c.executeUpdateCommunication entries) .notify .NONE p q
      (s.session.log ++ entries) [] := by
  rw [executeUpdateCommunication_eq hr.slots hr.ril hr.old hr.new]
  refine ⟨{ hr with old := rfl, new := rfl, outbox := rfl },
    rfl, by simp, ?_, ?_, hf.start, ?_, hb, fun _ => ⟨by simp, by simp⟩⟩
  · rw [awaited_after, hf.none_left, hr.outbox, nil_append, nil_append, slots_requestsTo]
    exact .refl _
  · intro kind' hne
    rw [awaited_after, hf.none_left, hr.outbox, nil_append, nil_append, slots_requestsTo, if_neg]
    intro h
    cases kind' <;> simp_all [Await.eventId]
  · simp [State.after, Await.logged, Await.requests, hr.outbox]

theorem enter_complete (hr : Running c phase status p q) (hfn : Finished s c p q)
    (hb : Before c.sessionId p q c.completeStatus (s.session.log ++ entries) .complete) :
    Active (s.after c.executeCompleteCommunication entries) .complete c.completeStatus p q
      (s.session.log ++ entries) [] := by
  rw [executeCompleteCommunication_eq hr.slots hr.ril hr.old hr.new]
  refine ⟨{ hr with old := rfl, new := rfl, outbox := rfl },
    rfl, by simp, ?_, ?_, hfn.start, ?_, hb, ?_⟩
  · rw [awaited_after, hfn.none_left, hr.outbox, nil_append, nil_append, slots_completeVector]
    exact .refl _
  · intro kind' hne
    rw [awaited_after, hfn.none_left, hr.outbox, nil_append, nil_append,
      slots_completeVector, if_neg]
    intro h
    cases kind' <;> simp_all [Await.eventId]
  · simp [State.after, Await.logged, Await.requests, hr.outbox]
  · intro hfl
    have hfl' : c.communicationFailed = false := hfl
    refine ⟨?_, by simp⟩
    unfold completeStatus
    rw [hfl']
    simp

end Enter

/-! ## A message that counts -/

def Await.next : Await → Controller → Controller
  | .check => fun c => if c.communicationFailed then c.executeCompleteCommunication
      else c.executeUpdateCommunication
  | .notify => executeCompleteCommunication
  | .complete => fun c =>
      (c.processCommunicationResponse (!c.communicationFailed)).cleanUpCommunication

variable {status : RadioProtocolStatus} {p q : RadioProtocol}

theorem mem_requestsTo {eventId : EventId}
    (h : r ∈ requestsTo eventId (pairOf k phase status p q)) :
    r.eventId = eventId ∧ r.protocol.sessionId = k ∧ r.protocol.phase = phase ∧
      r.protocol.status = status := by
  simp only [requestsTo, pairOf, zipIdx_cons, zipIdx_nil, map_cons, map_nil,
    mem_cons, not_mem_nil, or_false] at h
  rcases h with rfl | rfl <;> exact ⟨rfl, rfl, rfl, rfl⟩

theorem mem_requests (h : r ∈ kind.requests k status p q) :
    r.eventId = kind.eventId ∧ r.protocol.sessionId = k ∧ r.protocol.phase = kind.phase ∧
      r.protocol.status = status := by
  cases kind with
  | check | notify => exact mem_requestsTo h
  | complete =>
    change r ∈ requestsTo _ (completeVector k status p q) at h
    unfold completeVector at h
    split at h <;> exact mem_requestsTo h

theorem mem_of_sent (h : .sent r ∈ kind.logged k status p q done) :
    r ∈ kind.requests k status p q := by
  rcases mem_append.1 h with h | h
  · obtain ⟨_, hr', heq⟩ := mem_map.1 h
    cases heq
    exact hr'
  · obtain ⟨d, -, heq⟩ := mem_map.1 h
    cases heq

theorem phase_of_sent (h : .sent r ∈ kind.logged k status p q done) :
    r.protocol.phase = kind.phase :=
  (mem_requests (mem_of_sent h)).2.2.1

theorem Before.phase_ne {pre : List Entry} (h : Before k p q status pre kind) :
    ∀ r, .sent r ∈ pre → r.protocol.phase ≠ .COMPLETE := by
  intro r hr
  cases kind with
  | check =>
    rw [h.2] at hr
    cases hr
  | notify =>
    obtain ⟨-, xs, -, rfl⟩ := h
    rw [phase_of_sent hr]
    simp [Await.phase]
  | complete =>
    rcases h with ⟨-, xs, _, -, -, rfl⟩ | ⟨-, hn⟩
    · rcases mem_append.1 hr with hr | hr
      · rw [phase_of_sent hr]
        simp [Await.phase]
      · rw [phase_of_sent hr]
        simp [Await.phase]
    · exact hn r hr

theorem logged_concat (kind : Await) (k : Int) (status : RadioProtocolStatus)
    (p q : RadioProtocol) (done : List (Nat × Bool)) (i : Nat) (ok : Bool) :
    kind.logged k status p q done ++ [.received kind i ok] =
      kind.logged k status p q (done ++ [(i, ok)]) := by
  simp [Await.logged]

theorem passed_pair (kind : Await) (k : Int) (status : RadioProtocolStatus)
    (p q : RadioProtocol) (d : Nat × Bool) (i : Nat) (hd : d.2) :
    kind.logged k status p q ([d] ++ [(i, true)]) = kind.passed k status p q [d.1, i] := by
  obtain ⟨j, b⟩ := d
  cases hd
  rfl

theorem last_order {l : List Nat} {i j : Nat} (h : (i :: l ++ [j]).Subperm [0, 1]) :
    l = [] ∧ [j, i].Perm [0, 1] := by
  have hl := h.length_le
  simp only [length_append, length_cons] at hl
  obtain rfl : l = [] := length_eq_zero_iff.1 (by omega)
  refine ⟨rfl, (List.Perm.swap _ _ _).trans ?_⟩
  exact h.perm_of_length_le (by simp)

section Receive

variable {s s₁ : State} {c₁ : Controller} {kind : Await} {status : RadioProtocolStatus}
  {p q : RadioProtocol} {pre : List Entry} {done : List (Nat × Bool)} {i : Nat} {ok : Bool}

/-- The request is off the list, and the flag and `radioProtocol_` are as the handler has set them.
-/
structure Counting (s s₁ : State) (c₁ : Controller) (kind : Await) (i : Nat) (ok : Bool) :
    Prop where
  controller : ∃ radioProtocol, c₁ = { s.controller with
    communicationFailed := s.controller.communicationFailed || !ok, radioProtocol }
  session : s₁.session = s.session
  token : (s.awaited kind).Perm (i :: kind.slots s.controller.sessionId (s₁.pool kind))
  others : ∀ kind', kind' ≠ kind → kind'.slots s.controller.sessionId (s₁.pool kind') = []

theorem Active.receive_more (h : Active s kind status p q pre [])
    (hc : Counting s s₁ c₁ kind i ok) :
    Active (s₁.after (c₁.countDown kind.next) [.received kind i ok]) kind status p q pre
      [(i, ok)] := by
  obtain ⟨⟨_, rfl⟩, hs, htn, hot⟩ := hc
  have hcn := h.count
  unfold Controller.countDown
  dsimp only
  rw [if_pos (by rw [hcn]; decide)]
  have hr := h.running
  refine ⟨{ hr with outbox := rfl }, ?_, by simp, ?_, ?_, ?_, ?_, h.before, ?_⟩
  · show s.controller.communicatingSlotCount - 1 = _
    rw [hcn]
    rfl
  · rw [awaited_after]
    rw [hr.outbox]
    have htk := h.tokens
    simp only [map_nil, append_nil] at htk
    refine .trans (List.Perm.subperm ?_) htk
    refine .trans ?_ htn.symm
    simp [Await.slots]
  · intro kind' hne
    rw [awaited_after]
    rw [hr.outbox, hot kind' hne]
    rfl
  · exact (congrArg Session.start hs).trans h.start
  · show s₁.session.log ++ _ = _
    rw [hs, h.log, hr.outbox, append_assoc]
    exact congrArg (pre ++ ·) (logged_concat ..)
  · intro hf
    obtain ⟨hf', hok⟩ : s.controller.communicationFailed = false ∧ ok := by
      simpa [State.after] using hf
    refine ⟨(h.ok hf').1, ?_⟩
    simp [hok]

/-- The last message of a phase, `entry` in the log, has come; `c` has not gone on yet. -/
structure PhaseOver (s : State) (c : Controller) (kind : Await) (status : RadioProtocolStatus)
    (p q : RadioProtocol) (pre : List Entry) (order : List Nat) (entry : Entry) : Prop where
  running : Running c kind.phase status p q
  finished : Finished s c p q
  before : Before c.sessionId p q status pre kind
  slots : order.Perm [0, 1]
  log : ∃ done, s.session.log ++ [entry] = pre ++ kind.logged c.sessionId status p q done
  /-- without a failure, both messages of the phase were good -/
  good : c.communicationFailed = false → status ≠ .FAIL ∧
    s.session.log ++ [entry] = pre ++ kind.passed c.sessionId status p q order

theorem Active.phaseOver (h : Active s kind status p q pre [d]) (hc : Counting s s₁ c₁ kind i ok) :
    ∃ c, c₁.countDown kind.next = kind.next c ∧
      PhaseOver s₁ c kind status p q pre [d.1, i] (.received kind i ok) := by
  obtain ⟨⟨radioProtocol, rfl⟩, hss, ht, hot⟩ := hc
  -- nothing of this kind is left, and the two messages are of the two slots
  obtain ⟨hlf, hor⟩ := last_order (((ht.append_right [d.1]).symm.subperm).trans h.tokens)
  have hr := h.running
  have hlg : s₁.session.log ++ [.received kind i ok] =
      pre ++ kind.logged s.controller.sessionId status p q ([d] ++ [(i, ok)]) := by
    rw [hss, h.log, append_assoc, logged_concat]
  refine ⟨{ s.controller with
    communicationFailed := s.controller.communicationFailed || !ok
    radioProtocol
    communicatingSlotCount := 0 }, ?_, ?_⟩
  · have hz : s.controller.communicatingSlotCount - 1 = 0 := (congrArg (· - 1) h.count).trans rfl
    unfold Controller.countDown
    simp only [hz, ne_eq, not_true_eq_false, if_false]
  · exact {
      running := { hr with }
      finished := by
        refine ⟨fun kind' => ?_, (congrArg Session.start hss).trans h.start⟩
        by_cases hk : kind' = kind
        · rw [hk]
          exact hlf
        · exact hot kind' hk
      before := h.before
      slots := hor
      log := ⟨_, hlg⟩
      good := by
        intro hf
        obtain ⟨hf', rfl⟩ : s.controller.communicationFailed = false ∧ ok := by
          simpa using hf
        obtain ⟨hst, hal⟩ := h.ok hf'
        refine ⟨hst, hlg.trans ?_⟩
        rw [passed_pair _ _ _ _ _ _ _ (hal d (mem_singleton.2 rfl))] }

section Over

variable {c : Controller} {order : List Nat} {entry : Entry}

theorem PhaseOver.phase_ne (h : PhaseOver s c kind status p q pre order entry)
    (hk : kind ≠ .complete) :
    ∀ r, .sent r ∈ s.session.log ++ [entry] → r.protocol.phase ≠ .COMPLETE := by
  intro r hr
  obtain ⟨_, hl⟩ := h.log
  rw [hl] at hr
  rcases mem_append.1 hr with hr | hr
  · exact h.before.phase_ne r hr
  · rw [phase_of_sent hr]
    cases kind <;> simp_all [Await.phase]

theorem PhaseOver.check (h : PhaseOver s c .check status p q pre order entry) :
    ∃ kind' status' pre',
      Active (s.after (Await.check.next c) [entry]) kind' status' p q pre' [] := by
  by_cases hf : c.communicationFailed
  · have hs : c.completeStatus = .FAIL := if_pos hf
    refine ⟨.complete, c.completeStatus, s.session.log ++ [entry], ?_⟩
    rw [show Await.check.next c = c.executeCompleteCommunication from if_pos hf]
    exact enter_complete h.running h.finished (.inr ⟨hs, h.phase_ne (by simp)⟩)
  · refine ⟨.notify, .NONE, s.session.log ++ [entry], ?_⟩
    rw [show Await.check.next c = c.executeUpdateCommunication from if_neg hf]
    refine enter_update h.running h.finished ⟨rfl, order, h.slots, ?_⟩
    obtain ⟨hs, hp⟩ := h.before
    rw [(h.good (Bool.eq_false_of_not_eq_true hf)).2, hp, hs]
    rfl

theorem PhaseOver.notify (h : PhaseOver s c .notify status p q pre order entry) :
    ∃ kind' status' pre',
      Active (s.after (Await.notify.next c) [entry]) kind' status' p q pre' [] := by
  refine ⟨.complete, c.completeStatus, _, enter_complete h.running h.finished ?_⟩
  by_cases hf : c.communicationFailed
  · exact .inr ⟨if_pos hf, h.phase_ne (by simp)⟩
  · obtain ⟨hs, xs, hxs, hp⟩ := h.before
    refine .inl ⟨if_neg hf, xs, order, hxs, h.slots, ?_⟩
    rw [(h.good (Bool.eq_false_of_not_eq_true hf)).2, hp, hs]

theorem PhaseOver.complete (h : PhaseOver s c .complete status p q pre order entry) :
    Idle (s.after (Await.complete.next c) [entry]) := by
  refine ⟨⟨h.running.slots, rfl, rfl, rfl, rfl, rfl⟩, ?_, ?_⟩
  · intro kind'
    rw [awaited_after]
    show kind'.slots c.sessionId _ ++ kind'.slots c.sessionId c.outbox = []
    rw [h.finished.none_left, h.running.outbox]
    rfl
  · intro hr
    have hf : c.communicationFailed = false := by
      simpa [State.after, Await.next, processCommunicationResponse, cleanUpCommunication]
        using hr
    obtain ⟨hst, hps⟩ := h.good hf
    rcases h.before with ⟨hsc, xs, ys, hxs, hys, hpr⟩ | ⟨hb, -⟩
    · refine ⟨c.sessionId, p, q, xs, ys, order, h.finished.start, hxs, hys, h.slots, ?_⟩
      show s.session.log ++ ([entry] ++ .map _ c.outbox) = _
      rw [h.running.outbox, map_nil, append_nil, hps, hpr, hsc]
    · exact absurd hb hst

end Over

theorem Active.receive_last (h : Active s kind status p q pre [d])
    (hc : Counting s s₁ c₁ kind i ok) :
    let s' := s₁.after (c₁.countDown kind.next) [.received kind i ok]
    Idle s' ∨ ∃ kind' status' pre', Active s' kind' status' p q pre' [] := by
  obtain ⟨c, hdw, ho⟩ := h.phaseOver hc
  rw [hdw]
  cases kind with
  | check => exact .inr ho.check
  | notify => exact .inr ho.notify
  | complete => exact .inl ho.complete

theorem Active.receive (h : Active s kind status p q pre done) (hc : Counting s s₁ c₁ kind i ok) :
    let s' := s₁.after (c₁.countDown kind.next) [.received kind i ok]
    Idle s' ∨ ∃ kind' status' p q pre' done', Active s' kind' status' p q pre' done' := by
  match done with
  | [] => exact .inr ⟨_, _, _, _, _, _, h.receive_more hc⟩
  | [d] =>
    refine h.receive_last hc |>.imp_right ?_
    rintro ⟨kind', status', pre', ha⟩
    exact ⟨_, _, _, _, _, _, ha⟩
  | _ :: _ :: _ => exact absurd h.more (by simp)

end Receive

end TelephonyCore.Radio
