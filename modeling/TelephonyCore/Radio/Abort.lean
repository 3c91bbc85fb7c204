import TelephonyCore.Radio.OneSession

/-!
# `RadioProtocolController`: the timeout of a session

When a session has not come to its end in time, `ProcessSetRadioProtocolTimeout` calls
`ExecuteCompleteCommunication` with the failure flag set, so that every slot is told to restore what
it had. But it has called `CleanUpCommunication` before, which empties the vectors the requests are
taken from, and `SendRadioProtocolEvent` gives up on an empty vector: the timeout sends nothing
(`timeout_eq`).
-/

namespace TelephonyCore.Radio

open Controller Lib List

/-- The entry is a request to a slot to restore what it had. -/
def Entry.aborts (i : Nat) : Entry → Bool
  | .sent r => r.slotId = i ∧ r.protocol.phase = .COMPLETE ∧ r.protocol.status = .FAIL
  | .received .. => false

/-- Every slot was sent one such request, with what it had at the start. -/
def Session.Aborted (session : Session) : Prop :=
  ∀ i p, session.start[i]? = some p →
    ∃ r, session.log.filter (Entry.aborts i) = [.sent r] ∧
      r.protocol.technology = p.technology ∧ r.protocol.modemId = p.modemId

theorem aborts_eq_nil {log : List Entry}
    (h : ∀ r, .sent r ∈ log → r.protocol.phase = .COMPLETE → r.protocol.status ≠ .FAIL)
    (i : Nat) : log.filter (Entry.aborts i) = [] := by
  rw [filter_eq_nil_iff]
  intro e he
  cases e with
  | sent r =>
    intro ha
    obtain ⟨-, hph, hs⟩ := of_decide_eq_true ha
    exact h r he hph hs
  | received kind slotId ok => simp [Entry.aborts]

variable {p q : RadioProtocol} {kind : Await} {status : RadioProtocolStatus} {pre : List Entry}
  {done : List (Nat × Bool)}

theorem not_aborted {session : Session} (hst : session.start = [p, q])
    (h : ∀ r, .sent r ∈ session.log → r.protocol.phase = .COMPLETE → r.protocol.status ≠ .FAIL) :
    ¬ session.Aborted := by
  intro ha
  obtain ⟨r, hr, -⟩ := ha 0 p (by rw [hst]; rfl)
  rw [aborts_eq_nil h] at hr
  cases hr

theorem aborts_logged (k : Int) (p q : RadioProtocol) (done : List (Nat × Bool)) (i : Nat) :
    (Await.complete.logged k .FAIL p q done).filter (Entry.aborts i) =
      (requestsTo .SET_RADIO_PROTOCOL_COMPLETE (pairOf k .COMPLETE .FAIL p q)).filterMap
        (fun r => if r.slotId = i then some (.sent r) else none) := by
  have hdn : (done.map (fun d => .received .complete d.1 d.2)).filter
      (Entry.aborts i) = [] := by
    rw [filter_eq_nil_iff]
    intro e he
    obtain ⟨d, -, rfl⟩ := mem_map.1 he
    simp [Entry.aborts]
  unfold Await.logged
  rw [filter_append, hdn, append_nil]
  by_cases h0 : i = 0
  · subst h0
    rfl
  · by_cases h1 : i = 1
    · subst h1
      rfl
    · have h0' : 0 ≠ i := fun h => h0 h.symm
      have h1' : 1 ≠ i := fun h => h1 h.symm
      simp [Await.requests, completeVector, pairOf, requestsTo, Entry.aborts, h0', h1']

theorem Active.aborted_iff {s : State} (h : Active s kind status p q pre done) :
    s.session.Aborted ↔
      ∀ p ∈ s.controller.oldRadioProtocol, p.phase = .COMPLETE ∧ p.status = .FAIL := by
  have hv : (∀ p ∈ s.controller.oldRadioProtocol, p.phase = .COMPLETE ∧ p.status = .FAIL) ↔
      kind.phase = .COMPLETE ∧ status = .FAIL := by
    rw [h.running.old]
    simp [pairOf]
  rw [hv]
  constructor
  · -- in any other phase no request of the log is one of these
    intro hab
    by_contra ho
    refine not_aborted h.start ?_ hab
    intro r hr hph hst
    rw [h.log] at hr
    rcases mem_append.1 hr with hr | hr
    · exact h.before.phase_ne r hr hph
    · obtain ⟨-, -, hp, hs⟩ := mem_requests (mem_of_sent hr)
      exact ho ⟨hp.symm.trans hph, hs.symm.trans hst⟩
  · rintro ⟨hph, rfl⟩
    obtain rfl : kind = .complete := by
      cases kind with
      | complete => rfl
      | _ => cases hph
    intro i p' hp'
    rw [h.log, filter_append, aborts_eq_nil
      (fun r hr hph _ => h.before.phase_ne r hr hph), nil_append, aborts_logged]
    rw [h.start] at hp'
    rcases i with _ | _ | _
    · cases hp'
      exact ⟨_, rfl, rfl, rfl⟩
    · cases hp'
      exact ⟨_, rfl, rfl, rfl⟩
    · cases hp'

theorem Active.timeout_ends {s s' : State} (h : Active s kind status p q pre done) {k : Int}
    (hs : step s (.timeout k) = some s') : EndedWith s.session s' := by
  cases step_stepped hs with
  | timeout hm =>
    rw [h.running.timeouts] at hm
    obtain rfl := mem_singleton.1 hm
    have heq := timeout_eq (c := { s.controller with
      timeouts := s.controller.timeouts.erase s.controller.sessionId }) h.running.slots
    rw [heq]
    exact after_endedWith rfl ⟨h.running.slots, rfl, rfl, rfl, rfl, h.running.outbox⟩

/-- **The timeout**, of any session of a run in which no message is counted for another session
than its own: the slots of a session that ends by its timeout are told to restore what they had
exactly if it was in the complete phase of a failure. -/
theorem timeout_aborts_iff (s₀ s₁ s₂ s s₃ s' : State) (hfresh : Fresh s₀)
    (earlier before after : List Label) (hearlier : runLabels step s₀ earlier = some s₁)
    (hisolated : StepsMeet step (fun s l => l.Isolated s) s₀ earlier)
    (hstart : step s₁ .setRadioProtocol = some s₂)
    (hbefore : runLabels step s₂ before = some s)
    (hone : StepsMeet step (fun s l => l.Isolated s ∧ l.StartsNone s) s₂ before) (k : Int)
    (htimeout : step s (.timeout k) = some s₃) (hafter : runLabels step s₃ after = some s')
    (hnone : StepsMeet step (fun s l => l.StartsNone s) s₃ after) :
    s'.session.Aborted ↔
      ∀ p ∈ s.controller.oldRadioProtocol, p.phase = .COMPLETE ∧ p.status = .FAIL := by
  have hs₁ : Inv s₁ := invariant_run
    (fun hin hc hst => (step_stepped hst).inv hin hc) earlier hfresh.inv hisolated hearlier
  have hs : Inv s := invariant_run (fun hin hc hst => (step_stepped hst).inv hin hc.1)
    before ((step_stepped hstart).inv hs₁ trivial) hone hbefore
  rcases hs.mode with hmd | ⟨_, status, p, q, _, _, hmd⟩
  · cases step_stepped htimeout with
    | timeout hmm =>
      rw [hmd.timeouts] at hmm
      cases hmm
  -- nothing is sent any more after the timeout
  have hs' : EndedWith s.session s' := invariant_run
    (fun ht hc hst => (step_stepped hst).endedWith ht hc) after (hmd.timeout_ends htimeout)
    hnone hafter
  rw [hs'.session]
  exact hmd.aborted_iff

/-- A session that ended by its timeout. -/
def timedOut : List Label := [.setRadioProtocol, .timeout 1, .returns 0 false]

/-- In the session after it both checks fail, and the timeout comes before the answers to the
complete requests. -/
theorem timeout_aborts_iff_failed :
    ∃ s₁ s₂ s s₃, runLabels step twoSlots timedOut = some s₁ ∧ step s₁ .setRadioProtocol = some s₂ ∧
      runLabels step s₂ [.answer 2 .error, .answer 2 .error] = some s ∧
      step s (.timeout 3) = some s₃ ∧ s₃.session.Aborted := by
  refine ⟨_, _, _, _, rfl, rfl, rfl, rfl, ?_⟩
  exact (timeout_aborts_iff twoSlots _ _ _ _ _ fresh_twoSlots timedOut
    [.answer 2 .error, .answer 2 .error] [] rfl (by decide) rfl rfl (by decide) 3 rfl rfl
    (by decide)).2 (by decide)

/-- The timeout of a session that waits for its checks: two requests were sent, and
none to restore. -/
theorem timeout_in_check_sends_nothing :
    ∃ s s', step twoSlots .setRadioProtocol = some s ∧ s.session.log.length = 2 ∧
      step s (.timeout 1) = some s' ∧ s'.session.log = s.session.log ∧
      s'.controller.isCommunicating = false ∧ ¬ s'.session.Aborted := by
  refine ⟨_, _, rfl, rfl, rfl, rfl, rfl, ?_⟩
  intro ha
  obtain ⟨r, hr, -⟩ := ha 0 _ rfl
  cases (show [] = [Entry.sent r] from hr)

end TelephonyCore.Radio
