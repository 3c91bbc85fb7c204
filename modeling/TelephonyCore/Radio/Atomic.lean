import TelephonyCore.Lib.Slots
import TelephonyCore.Radio.Stored

/-!
# `RadioProtocolController`: a failed session

A call of `SetRadioProtocol` that returns false should leave `radioProtocol_` as it was. But a slot
is written as soon as it notifies success, and nothing writes it back when the session fails after
that.

A session is all or nothing if failures and exchanges do not come together in it (`Label.Whole`), or
if the two slots have the same setting from the start (`swap_all_or_nothing`). The argument is
`Guarded`: while the session runs, the flag, and once it is over, a result of false, say that
nothing has been exchanged.
-/

namespace TelephonyCore.Radio

open Controller Lib List Controller

/-- To exchange the settings of the slots changes nothing. -/
def Session.Symmetric (session : Session) : Prop :=
  (settings session.start).reverse = settings session.start

/-- No slot has exchanged its setting, or none can. -/
def Session.Intact (session : Session) : Prop := session.Symmetric ∨ NoNotified session.log

instance (session : Session) : Decidable session.Symmetric :=
  inferInstanceAs (Decidable (_ = _))

instance (session : Session) : Decidable session.Intact := inferInstanceAs (Decidable (_ ∨ _))

/-- A failure finds nothing exchanged, and nothing is exchanged after a failure. -/
def Label.Whole (s : State) : Label → Prop
  | .answer _ .error => s.controller.isCommunicating = true → s.session.Intact
  | .notify _ n => s.controller.isCommunicating = true →
      if n.status = .FAIL then s.session.Intact
      else s.controller.communicationFailed = false ∨ s.session.Symmetric
  | .timeout _ => s.session.Intact
  | .returns _ _ => s.controller.isCommunicating = true → s.session.Intact
  | _ => True

instance (s : State) : (l : Label) → Decidable (l.Whole s)
  | .answer _ .error | .returns .. => inferInstanceAs (Decidable (_ → Session.Intact _))
  | .notify _ n => inferInstanceAs (Decidable (_ → if n.status = .FAIL then _ else _ ∨ _))
  | .timeout _ => inferInstanceAs (Decidable (Session.Intact _))
  | .answer _ (.protocol _) | .answer _ .nothing | .setRadioProtocol | .getRadioProtocol _ =>
    .isTrue trivial

/-- No answers to `GetRadioProtocol`, and successful notifications report what was sent. -/
def Label.OfSession (s : State) (l : Label) : Prop := l.StartsNone s ∧ l.NoGet ∧ l.Reports s

instance (l : Label) : Decidable l.NoGet := by
  unfold Label.NoGet
  split <;> infer_instance

instance (s : State) : (l : Label) → Decidable (l.Reports s)
  | .notify .. => inferInstanceAs (Decidable (∀ r ∈ _, _))
  | .setRadioProtocol | .answer .. | .timeout _ | .getRadioProtocol _ | .returns .. =>
    .isTrue trivial

instance (s : State) (l : Label) : Decidable (l.OfSession s) := inferInstanceAs (Decidable (_ ∧ _))

/-! ## Intact sessions -/

variable {s : State}

theorem Content.unchanged (h : Content s) (ht : s.session.start.length = 2)
    (hin : s.session.Intact) : settings s.controller.radioProtocol = settings s.session.start := by
  rcases hin with hsy | hn
  · obtain ⟨p, q, hst⟩ := length_eq_two.1 ht
    have hsm : q.setting = p.setting := by
      unfold Session.Symmetric at hsy
      rw [hst] at hsy
      exact (List.cons.inj hsy).1
    rw [show settings s.controller.radioProtocol = s.session.expected from h,
      expected_pair hst, hst, hsm, ite_self, ite_self]
    show _ = [p.setting, q.setting]
    rw [hsm]
  · rw [show settings s.controller.radioProtocol = s.session.expected from h]
    exact expected_of_none hn.notified

variable {s₁ : State} {a : Answer} {kind : Await} {pre : List Entry} {done : List (Nat × Bool)}
  {i : Nat} {r : Request} {l : Label} {initial : List RadioProtocol}

theorem Session.Intact.after (h : s.session.Intact) (hss : s₁.session = s.session)
    (c : Controller) {entries : List Entry} (he : NoNotified entries) :
    (s₁.after c entries).session.Intact := by
  rcases h with hsy | hn
  · left
    show (settings s₁.session.start).reverse = settings s₁.session.start
    rw [hss]
    exact hsy
  · right
    show NoNotified (s₁.session.log ++ (entries ++ c.outbox.map .sent))
    rw [hss]
    exact hn.append (he.append (noNotified_sent _))

/-- The flag of a session that runs, and the result of one that is over, tell a
failure only where nothing is exchanged; and after a success no late error can start the count
again. -/
structure Guarded (s : State) : Prop where
  running : s.controller.isCommunicating = true → s.controller.communicationFailed = true →
    s.session.Intact
  ended : s.controller.isCommunicating = false →
    s.controller.communicationResponseResult = false → s.session.Intact
  rests : s.controller.isCommunicating = false →
    s.controller.communicationResponseResult = true → s.controller.communicatingSlotCount ≤ 0

structure Settles (failed : Bool) (c : Controller) : Prop where
  running : c.isCommunicating = true → c.communicationFailed = failed
  ended : c.isCommunicating = false →
    c.communicationResponseResult = !failed ∧ c.communicatingSlotCount ≤ 0

theorem Settles.guarded {failed : Bool} (h : Settles failed s.controller)
    (hin : failed → s.session.Intact) : Guarded s := by
  refine ⟨fun hc hf => ?_, fun hc hr => ?_, fun hc _ => (h.ended hc).2⟩
  · exact hin ((h.running hc).symm.trans hf)
  · have hn := (h.ended hc).1.symm.trans hr
    exact hin (by simpa using hn)

/-! ## The flag and the result -/

variable {c : Controller} {phase : RadioProtocolPhase} {status : RadioProtocolStatus}
  {p q : RadioProtocol}

theorem Running.settles (h : Running c phase status p q) : Settles c.communicationFailed c := by
  refine ⟨fun _ => rfl, fun hc => ?_⟩
  cases h.communicating.symm.trans hc

theorem Running.next_settles (h : Running c phase status p q)
    (hcount : c.communicatingSlotCount ≤ 0) (kind : Await) : Settles c.communicationFailed (kind.next c) := by
  have hcp : Settles c.communicationFailed c.executeCompleteCommunication := by
    rw [executeCompleteCommunication_eq h.slots h.ril h.old h.new]
    exact ⟨fun _ => rfl, fun hcm => absurd (h.communicating.symm.trans hcm) (by simp)⟩
  cases kind with
  | check =>
    unfold Await.next
    dsimp only
    split
    · exact hcp
    · rw [executeUpdateCommunication_eq h.slots h.ril h.old h.new]
      exact ⟨fun _ => rfl, fun hcm => absurd (h.communicating.symm.trans hcm) (by simp)⟩
  | notify => exact hcp
  | complete =>
    refine ⟨fun hcm => ?_, fun _ => ⟨rfl, hcount⟩⟩
    cases (show false = true from hcm)

theorem Running.countDown_settles (h : Running c phase status p q) (kind : Await) :
    Settles c.communicationFailed (c.countDown kind.next) := by
  have hl : Running { c with communicatingSlotCount := c.communicatingSlotCount - 1 }
      phase status p q :=
    { h with }
  unfold countDown
  dsimp only
  split
  next => exact hl.settles
  next hz => exact hl.next_settles (le_of_eq (not_not.1 hz)) kind

theorem noted_of_rejected (h : c.accepts a = false) : c.noted a = c := by
  refine noted_of_ne (fun he => ?_)
  rw [he] at h
  cases h

theorem Running.answer_settles (h : Running c phase status p q) (eventId : EventId) (a : Answer) :
    Settles (c.noted a).communicationFailed (c.processAnswer eventId a) := by
  have hn : Running (c.noted a) phase status p q := { h with }
  rw [processAnswer_eq]
  split
  · cases hac : c.accepts a with
    | true => exact hn.countDown_settles _
    | false =>
      rw [noted_of_rejected hac]
      exact h.settles
  · exact hn.settles

variable {n : RadioProtocol}

theorem Running.notify_settles (h : Running c phase status p q) (hid : n.sessionId = c.sessionId) :
    Settles (c.communicationFailed || !(decide (n.status ≠ .FAIL)))
      (c.processRadioProtocolNotify n) := by
  obtain ⟨_, -, heq⟩ := notified_eq c n
  have hn : Running (c.notified n) phase status p q := by
    rw [heq]
    exact { h with }
  have hs := hn.countDown_settles .notify
  rw [processRadioProtocolNotify_eq, if_neg (not_not.2 hid)]
  rw [heq] at hs ⊢
  exact hs

/-! ## A session that runs -/

theorem Guarded.answer (h : Guarded s) (hm : Active s kind status p q pre done)
    (hwh : Label.Whole s (.answer i a)) :
    Guarded ({ s with outstanding := s.outstanding.eraseIdx i }.after
      (s.controller.processAnswer r.eventId a) (s.controller.countsAnswer r a)) := by
  have hc := hm.running.communicating
  obtain ⟨hr, hen⟩ := hm.running.answer_settles r.eventId a
  refine Settles.guarded ⟨hr, hen⟩ (fun hf => ?_)
  have hin : s.session.Intact := by
    by_cases her : a = .error
    · subst her
      exact hwh hc
    · rw [noted_of_ne her] at hf
      exact h.running hc hf
  exact hin.after rfl _ (noNotified_answer _ _ _)

theorem Guarded.notify (h : Guarded s) (hm : Active s kind status p q pre done)
    (hwh : Label.Whole s (.notify i n)) :
    Guarded ({ s with toNotify := s.toNotify.eraseIdx i }.after
      (s.controller.processRadioProtocolNotify n) (s.controller.countsNotify r n)) := by
  have hcm := hm.running.communicating
  by_cases hid : n.sessionId = s.controller.sessionId
  · obtain ⟨hr, he⟩ := hm.running.notify_settles hid
    refine Settles.guarded ⟨hr, he⟩ (fun hfl => ?_)
    have hwh' := hwh hcm
    by_cases hfa : n.status = .FAIL
    · -- a failure, and nothing is exchanged so far
      rw [if_pos hfa] at hwh'
      refine hwh'.after rfl _ ?_
      unfold countsNotify NoNotified
      split <;> simp [Entry.notifies, hfa]
    · rw [if_neg hfa] at hwh'
      rcases hwh' with hg | hsy
      · rw [hg] at hfl
        simp [hfa] at hfl
      · exact .inl hsy
  · have hsm : s.controller.processRadioProtocolNotify n = s.controller := by
      rw [processRadioProtocolNotify_eq, if_pos hid]
    have hcn : s.controller.countsNotify r n = [] := by
      unfold countsNotify
      rw [beq_false_of_ne hid, Bool.and_false]
      rfl
    rw [hsm, hcn]
    obtain ⟨hr, he⟩ := hm.running.settles
    refine Settles.guarded ⟨hr, he⟩ (fun hfl => ?_)
    exact (h.running hcm hfl).after rfl _ noNotified_nil

variable {s' : State}

theorem Stepped.guarded_active (hs : Stepped s l s') (hmd : Active s kind status p q pre done)
    (h : Guarded s) (ho : l.StartsNone s) (hn : l.NoGet) (hwh : l.Whole s) : Guarded s' := by
  cases hs with
  | refuse hb => exact h
  | begin hid => cases hid.symm.trans ho
  | answer a hg => exact h.answer hmd hwh
  | notify n hg => exact h.notify hmd hwh
  | timeout hmm =>
    have hin : s.session.Intact := hwh
    refine ⟨fun _ _ => hin.after rfl _ noNotified_nil,
      fun _ _ => hin.after rfl _ noNotified_nil, fun _ hr => ?_⟩
    rw [hmd.running.timeouts] at hmm
    obtain rfl := mem_singleton.1 hmm
    have heq := timeout_eq (c := { s.controller with
      timeouts := s.controller.timeouts.erase s.controller.sessionId }) hmd.running.slots
    rw [heq] at hr
    cases (show false = true from hr)
  | getRadioProtocol n => exact absurd hn id
  | returns hg hf hwn => exact ⟨h.running, h.ended, h.rests⟩

/-! ## A session that is over -/

/-- Below one the count never comes to zero. -/
theorem countDown_of_le (h : c.communicatingSlotCount ≤ 0) (next : Controller → Controller) :
    c.countDown next = { c with communicatingSlotCount := c.communicatingSlotCount - 1 } := by
  unfold countDown
  dsimp only
  rw [if_pos (by omega)]

/-- After a success the result stays, whatever late messages come. -/
theorem Stepped.result_eq (hs : Stepped s l s') (h : Inv s) (hio : l.Isolated s) (hil : Idle s)
    (hr : s.controller.communicationResponseResult)
    (hcount : s.controller.communicatingSlotCount ≤ 0) (ho : l.StartsNone s) :
    s'.controller.communicationResponseResult ∧ s'.controller.communicatingSlotCount ≤ 0 := by
  cases hs with
  | refuse hb => exact ⟨hr, hcount⟩
  | begin hc => cases hc.symm.trans ho
  | @answer i r a hg =>
    rw [processAnswer_eq]
    split
    · split
      · rw [countDown_of_le (c := s.controller.noted a) hcount]
        exact ⟨hr, le_trans (Int.sub_le_self _ (by decide)) hcount⟩
      · exact ⟨hr, hcount⟩
    · exact ⟨hr, hcount⟩
  | notify n hg =>
    rw [(h.notify_idle hil hg (hio _ hg)).1]
    exact ⟨hr, hcount⟩
  | timeout hm =>
    rw [hil.timeouts] at hm
    cases hm
  | getRadioProtocol n =>
    obtain ⟨_, -, heq⟩ := updateRadioProtocol_eq s.controller n
    rw [heq]
    exact ⟨hr, hcount⟩
  | returns hg hf hw => exact ⟨hr, hcount⟩

/-- What is stored is what the session started with, and no notification is left that would be
taken. -/
structure Kept (s : State) : Prop where
  ended : Ended s.controller
  others : ∀ r ∈ s.toNotify, r.protocol.sessionId ≠ s.controller.sessionId
  unchanged : settings s.controller.radioProtocol = settings s.session.start

theorem Kept.after (h : Kept s) (hss : s₁.session = s.session)
    (hn : s₁.toNotify ⊆ s.toNotify) (he : Ended c) (hid : c.sessionId = s.controller.sessionId)
    (hst : c.radioProtocol = s.controller.radioProtocol) : Kept (s₁.after c []) := by
  have haf : EndedWith s.session (s₁.after c []) := after_endedWith hss he
  refine ⟨haf.toEnded, fun r hr => ?_, ?_⟩
  · show r.protocol.sessionId ≠ c.sessionId
    rw [hid]
    have hr' : r ∈ s₁.toNotify ++ c.outbox.filter _ := hr
    rw [he.outbox, filter_nil, append_nil] at hr'
    exact h.others r (hn hr')
  · rw [haf.session]
    show settings c.radioProtocol = _
    rw [hst]
    exact h.unchanged

theorem Kept.notify (h : Kept s) (hgt : s.toNotify[i]? = some r) (hr : n.Reports r) :
    Kept ({ s with toNotify := s.toNotify.eraseIdx i }.after
      (s.controller.processRadioProtocolNotify n) (s.controller.countsNotify r n)) := by
  have hc : s.controller.countsNotify r n = [] := by
    unfold countsNotify
    rw [h.ended.communicating]
    rfl
  rw [hc]
  have hen := h.ended.processRadioProtocolNotify n
  refine h.after (by rfl) eraseIdx_subset hen ?_ ?_
  · rw [processRadioProtocolNotify_eq]
    split
    · rfl
    · obtain ⟨_, -, heq⟩ := notified_eq s.controller n
      rw [(countDown_frame ..).2, heq]
  · rw [processRadioProtocolNotify_eq]
    split
    · rfl
    next hid =>
      -- one that is taken is a failure, and writes nothing
      have hf : n.status = .FAIL := by
        by_contra hgd
        refine h.others r (mem_of_getElem? hgt) ?_
        exact (hr hgd).2.1.symm.trans (not_not.1 hid)
      rw [(countDown_frame ..).1]
      unfold notified
      rw [if_pos hf]

theorem Stepped.kept (hst : Stepped s l s') (h : Kept s) (hss : l.OfSession s) : Kept s' := by
  obtain ⟨ho, hn, hr⟩ := hss
  cases hst with
  | refuse hb => exact h
  | begin hid => cases hid.symm.trans ho
  | @answer i r a hg =>
    have hfr := processAnswer_frame s.controller r.eventId a
    rw [countsAnswer_of_idle h.ended.communicating]
    refine h.after ?_ ?_ (h.ended.processAnswer r.eventId a) hfr.2 hfr.1
    · rfl
    · exact .refl _
  | notify n hg => exact h.notify hg (hr _ hg)
  | timeout hm =>
    rw [h.ended.timeouts] at hm
    cases hm
  | getRadioProtocol n => exact absurd hn id
  | returns hg hfs hw => exact ⟨h.ended, h.others, h.unchanged⟩

/-! ## All or nothing -/

/-- A session whose state can be read off its log. -/
structure Tracked (s : State) : Prop where
  inv : Inv s
  content : Content s
  guarded : Guarded s
  start : s.session.start.length = 2

inductive AllOrNothing (s : State) : Prop where
  | tracked (h : Tracked s) (hwhen : s.controller.isCommunicating = true ∨
      s.controller.communicationResponseResult = true)
  | kept (h : Kept s)

theorem Tracked.allOrNothing (h : Tracked s) : AllOrNothing s := by
  by_cases hc : s.controller.isCommunicating
  · exact .tracked h (.inl hc)
  by_cases hrs : s.controller.communicationResponseResult
  · exact .tracked h (.inr hrs)
  have ho := Bool.eq_false_of_not_eq_true hc
  have hil := h.inv.idle ho
  refine .kept ⟨hil.toEnded, fun r hr hid => ?_, ?_⟩
  · exact hil.not_owes .notify hr ⟨h.inv.updates r hr, hid⟩
  · exact h.content.unchanged h.start
      (h.guarded.ended ho (Bool.eq_false_of_not_eq_true hrs))

theorem Stepped.start_eq (hs : Stepped s l s') (ho : l.StartsNone s) :
    s'.session.start = s.session.start := by
  cases hs with
  | begin hid => cases hid.symm.trans ho
  | _ => rfl

theorem Stepped.allOrNothing (hst : Stepped s l s') (h : AllOrNothing s)
    (hio : l.Isolated s) (hss : l.OfSession s) (hwh : l.Whole s) : AllOrNothing s' := by
  cases h with
  | kept h => exact .kept (hst.kept h hss)
  | tracked h hwn =>
    obtain ⟨ho, hn, hrp⟩ := hss
    refine Tracked.allOrNothing ⟨hst.inv h.inv hio, hst.content h.inv hio hrp hn ho h.content, ?_,
      (congrArg List.length (hst.start_eq ho)).trans h.start⟩
    rcases h.inv.mode with hm | ⟨_, _, p, q, _, _, hm⟩
    · have hrs : s.controller.communicationResponseResult :=
        hwn.resolve_left (by simp [hm.communicating])
      have he := hst.endedWith ⟨hm.toEnded, rfl⟩ ho
      obtain ⟨hrs', hcount⟩ := hst.result_eq h.inv hio hm hrs
        (h.guarded.rests hm.communicating hrs) ho
      exact ⟨fun hc => absurd (he.communicating.symm.trans hc) (by simp),
        fun _ hb => absurd (hrs'.symm.trans hb) (by simp), fun _ _ => hcount⟩
    · exact hst.guarded_active hm h.guarded ho hn hwh

structure Returned.Whole (initial : List RadioProtocol) (r : Returned) : Prop where
  unchanged : r.result = false → settings r.radioProtocol = settings initial
  modems : (r.radioProtocol.map RadioProtocol.modemId).Perm (initial.map RadioProtocol.modemId)

theorem modemIds_eq (l : List RadioProtocol) :
    l.map RadioProtocol.modemId = (settings l).map Prod.snd := by
  simp [settings, RadioProtocol.setting]

theorem whole_of_unchanged {r : Returned} (h : settings r.radioProtocol = settings initial) :
    r.Whole initial := by
  refine ⟨fun _ => h, ?_⟩
  rw [modemIds_eq, modemIds_eq, h]

theorem AllOrNothing.returned (h : AllOrNothing s)
    (hwh : s.controller.isCommunicating → s.session.Intact) : s.returned.Whole s.session.start := by
  cases h with
  | kept h => exact whole_of_unchanged h.unchanged
  | tracked h hwn =>
    rcases h.inv.mode with hm | ⟨_, _, p, q, _, _, hm⟩
    · have hr : s.controller.communicationResponseResult :=
        hwn.resolve_left (by simp [hm.communicating])
      have hs : settings s.controller.radioProtocol = (settings s.session.start).reverse :=
        .trans h.content (expected_of_succeeded (hm.succeeded hr))
      refine ⟨fun hf => absurd (hr.symm.trans hf) (by simp), ?_⟩
      show (s.controller.radioProtocol.map RadioProtocol.modemId).Perm _
      rw [modemIds_eq, modemIds_eq, hs]
      exact (reverse_perm _).map _
    · exact whole_of_unchanged
        (h.content.unchanged h.start (hwh hm.running.communicating))

/-- The session of the call with number `k`. -/
structure WholeRun (k : Nat) (initial : List RadioProtocol) (s : State) : Prop where
  start : s.session.start = initial
  now : AllOrNothing s
  returned : ∀ call, s.calls[k]? = some call → ∀ r ∈ call.returned, r.Whole initial

theorem Stepped.wholeRun {k : Nat} (hst : Stepped s l s') (h : WholeRun k initial s)
    (hio : l.Isolated s) (hss : l.OfSession s) (hwh : l.Whole s) : WholeRun k initial s' := by
  refine ⟨(hst.start_eq hss.1).trans h.start, hst.allOrNothing h.now hio hss hwh, ?_⟩
  cases hst with
  | begin hid => cases hid.symm.trans hss.1
  | returns hg hf hwn =>
    intro call hc r hr
    rcases getElem?_of_set hc with ⟨-, rfl⟩ | ⟨-, hc⟩
    · cases hr
      rw [← h.start]
      exact h.now.returned hwh
    · exact h.returned call hc r hr
  | _ => exact h.returned

theorem Inv.wholeRun (h : Inv s) (hidle : s.controller.isCommunicating = false)
    (hs : step s .setRadioProtocol = some s') :
    WholeRun s.calls.length s.controller.radioProtocol s' := by
  have hin := (step_stepped hs).inv h trivial
  cases step_stepped hs with
  | refuse hb => cases hidle.symm.trans hb
  | begin hid =>
    have hit : (s.newSession.after s.controller.setRadioProtocol []).session.Intact :=
      .inr (begin_log s)
    refine ⟨rfl, Tracked.allOrNothing ⟨hin, begin_content s,
      ⟨fun _ _ => hit, fun _ _ => hit, ?_⟩, h.two⟩, ?_⟩
    · intro hc hr
      obtain ⟨p, q, hpq⟩ := length_eq_two.1 h.two
      cases hrl : s.controller.telRilManager with
      | true =>
        rw [setRadioProtocol_eq h.slotCount hrl hpq h.outbox] at hc
        cases hc
      | false =>
        rw [setRadioProtocol_no_ril hrl] at hr
        cases hr
    intro call hc r hr
    have hc' : (s.calls ++ [{ session := s.session.number + 1 }])[s.calls.length]? = some call := hc
    rw [getElem?_concat_length] at hc'
    cases hc'
    cases hr

/-- **All or nothing**, for every session of a run in which no message is counted for another
session than its own. If no failure meets an exchange, the call finds the settings its session
started with if it returns false, and in any case the same modems, in some order. -/
theorem swap_all_or_nothing (s₀ s₁ s₂ s : State) (hfresh : Fresh s₀) (earlier ls : List Label)
    (hearlier : runLabels step s₀ earlier = some s₁)
    (hisolated : StepsMeet step (fun s l => l.Isolated s) s₀ earlier)
    (hidle : s₁.controller.isCommunicating = false)
    (hstart : step s₁ .setRadioProtocol = some s₂) (hrun : runLabels step s₂ ls = some s)
    (hmeet : StepsMeet step (fun s l => l.Isolated s ∧ l.OfSession s ∧ l.Whole s) s₂ ls) :
    ∀ call, s.calls[s₁.calls.length]? = some call → ∀ r ∈ call.returned,
      (r.result = false → settings r.radioProtocol = settings s₁.controller.radioProtocol) ∧
      (r.radioProtocol.map RadioProtocol.modemId).Perm
        (s₁.controller.radioProtocol.map RadioProtocol.modemId) := by
  have hin : Inv s₁ := invariant_run
    (fun hin hc hst => (step_stepped hst).inv hin hc) earlier hfresh.inv hisolated hearlier
  have hw : WholeRun s₁.calls.length s₁.controller.radioProtocol s := invariant_run
    (fun h hc hst => (step_stepped hst).wholeRun h hc.1 hc.2.1 hc.2.2) ls
    (hin.wholeRun hidle hstart) hmeet hrun
  intro call hcl r hr
  obtain ⟨hu, hmd⟩ := hw.returned call hcl r hr
  exact ⟨hu, hmd⟩

def failedCheck : List Label :=
  [.answer 0 (.protocol ⟨0, 1, .CHECK, 1, 10, .NONE⟩), .answer 0 .error,
    .answer 0 (.protocol ⟨0, 1, .COMPLETE, 1, 10, .FAIL⟩),
    .answer 0 (.protocol ⟨1, 1, .COMPLETE, 2, 20, .FAIL⟩), .returns 0 false]

theorem swap_all_or_nothing_failedCheck :
    ∃ s₁ s r, step twoSlots .setRadioProtocol = some s₁ ∧
      runLabels step s₁ failedCheck = some s ∧ s.calls = [⟨1, some r⟩] ∧ r.result = false ∧
      settings r.radioProtocol = [(1, 10), (2, 20)] := by
  refine ⟨_, _, _, rfl, rfl, rfl, rfl, ?_⟩
  exact (swap_all_or_nothing twoSlots _ _ _ fresh_twoSlots [] failedCheck rfl trivial rfl rfl rfl
    (by decide) _ rfl _ rfl).1 rfl

/-- Slot 0 notifies success and slot 1 failure. -/
def halfExchange : List Label :=
  [.answer 0 (.protocol ⟨0, 1, .CHECK, 1, 10, .NONE⟩),
    .answer 0 (.protocol ⟨1, 1, .CHECK, 2, 20, .NONE⟩),
    .notify 0 ⟨0, 1, .NOTIFY, 2, 20, .SUCCESS⟩, .notify 0 ⟨1, 1, .NOTIFY, 1, 10, .FAIL⟩,
    .answer 2 (.protocol ⟨0, 1, .COMPLETE, 1, 10, .FAIL⟩),
    .answer 2 (.protocol ⟨1, 1, .COMPLETE, 2, 20, .FAIL⟩), .returns 0 false]

/-- The call returns false, and both slots have the technology and the modem of slot 1. -/
theorem half_exchange_returns_false :
    ∃ s₁ s r, step twoSlots .setRadioProtocol = some s₁ ∧
      StepsMeet step (fun s l => l.OfSession s) s₁ halfExchange ∧
      runLabels step s₁ halfExchange = some s ∧ s.calls = [⟨1, some r⟩] ∧ r.result = false ∧
      settings twoSlots.controller.radioProtocol = [(1, 10), (2, 20)] ∧
      settings r.radioProtocol = [(2, 20), (2, 20)] ∧
      ¬ (r.radioProtocol.map RadioProtocol.modemId).Perm
        (twoSlots.controller.radioProtocol.map RadioProtocol.modemId) :=
  ⟨_, _, _, rfl, by decide, rfl, rfl, rfl, rfl, rfl, by decide⟩

end TelephonyCore.Radio
