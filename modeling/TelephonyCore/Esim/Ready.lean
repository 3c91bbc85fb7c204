import TelephonyCore.Lib.Transition
import Mathlib.Logic.Function.Basic
import Mathlib.Tactic.Cases

/-!
# `EsimFile`: waiting for the answer of the card

`ObtainEid`, `GetEuiccProfileInfoList`, `GetEuiccInfo` and `ListNotifications` have one shape: take
the channel, send the request, lock a mutex, clear a ready flag and wait on it; the handler of the
answer ends with `NotifyReady`, which sets the flag under the same mutex. The calling thread makes
one call after the other, and the event thread runs the handlers. A section under the mutex is one
step.

The flag is cleared only after the request was sent, so an answer faster than the caller sets it
first and the caller clears it. With `CallerWaits`, that is, no such answer, no call times out that
was answered in time.
-/

namespace TelephonyCore.Esim.Ready

open Lib

/-! ## The machine -/

inductive Fn where
  | obtainEid
  | getEuiccProfileInfoList
  | getEuiccInfo
  | listNotifications
deriving DecidableEq

inductive Outcome where
  /-- `ObtainEid` has `eid_` already -/
  | cached
  | noChannel
  | notEncoded
  | timeout
  | answered
deriving DecidableEq

inductive Pc where
  | idle
  | obtainChannel (f : Fn)
  | send (f : Fn)
  /-- the request is sent and the flag is not cleared yet -/
  | sent (f : Fn)
  | wait (f : Fn) (expired : Bool)
deriving DecidableEq

/-- What a call did, and whether `NotifyReady` ran for its answer during its wait. -/
structure Return where
  fn : Fn
  outcome : Outcome
  notified : Bool
deriving DecidableEq

structure State where
  hasEid : Bool := false
  /-- `isEidReady_`, `isAllProfileInfoReady_`, `isEuiccInfo1Ready_`,
  `isListNotificationsReady_` -/
  ready : Fn → Bool := fun _ => false
  pc : Pc := .idle
  pending : Bool := false
  notified : Bool := false
  /-- requests of calls that timed out -/
  late : List Fn := []
  returns : List Return := []

inductive Label where
  | call (f : Fn)
  | obtained (ok : Bool)
  | sends (ok : Bool)
  | clear
  | deadline
  | wake
  | answer (hasEid : Bool)
  | lateAnswer (f : Fn) (hasEid : Bool)
deriving DecidableEq

def State.return (s : State) (f : Fn) (outcome : Outcome) : State :=
  { s with
    pc := .idle
    pending := false
    notified := false
    late := if s.pending then s.late ++ [f] else s.late
    returns := s.returns ++ [⟨f, outcome, s.notified⟩] }

def State.notifyReady (s : State) (f : Fn) : State :=
  { s with ready := Function.update s.ready f true }

/-- `ProcessObtainEidDone` and the three like it, for an answer with all data: every path ends with
`NotifyReady`. After one that announces more (61xx) the call goes on waiting for the next. -/
def State.processDone (s : State) (f : Fn) (hasEid : Bool) : State :=
  { s with hasEid := s.hasEid || (f == Fn.obtainEid && hasEid) }.notifyReady f

/-- The request of the present call is sent and its wait is not over. -/
def Pc.inTime : Pc → Option Fn
  | .sent f | .wait f false => some f
  | _ => none

def Pc.calling : Pc → Option Fn
  | .sent f | .wait f _ => some f
  | _ => none

def step (s : State) : Label → Option State
  | .call f =>
    if s.pc = .idle then
      if f = .obtainEid ∧ s.hasEid then some (s.return f .cached)
      else some { s with pc := .obtainChannel f }
    else none
  | .obtained ok =>
    match s.pc with
    | .obtainChannel f => some (if ok then { s with pc := .send f } else s.return f .noChannel)
    | _ => none
  | .sends ok =>
    match s.pc with
    | .send f =>
      some (if ok then { s with pc := .sent f, pending := true } else s.return f .notEncoded)
    | _ => none
  | .clear =>
    match s.pc with
    | .sent f => some { s with pc := .wait f false, ready := Function.update s.ready f false }
    | _ => none
  | .deadline =>
    match s.pc with
    | .wait f false => some { s with pc := .wait f true }
    | _ => none
  | .wake =>
    match s.pc with
    | .wait f expired =>
      if s.ready f then some (s.return f .answered)
      else if expired then some (s.return f .timeout)
      else none
    | _ => none
  | .answer hasEid =>
    match s.pending, s.pc.calling with
    | true, some f =>
      some ({ s with
        pending := false
        notified := s.pc.inTime.isSome }.processDone f hasEid)
    | _, _ => none
  | .lateAnswer f hasEid =>
    if f ∈ s.late then some ({ s with late := s.late.erase f }.processDone f hasEid) else none

/-! ## The lost answer -/

/-- **An answer is lost** when its handler runs before the caller clears the flag: the
caller then waits to the end. -/
theorem fast_answer_times_out :
    ∃ ls s, runLabels step {} ls = some s ∧
      s.returns = [⟨.obtainEid, .timeout, true⟩] := by
  refine ⟨[.call .obtainEid, .obtained true, .sends true, .answer true, .clear, .deadline,
    .wake], ?_⟩
  exact ⟨_, rfl, rfl⟩

/-- The handler of an answer finds its caller waiting, or gone. -/
def CallerWaits (s : State) : Label → Prop
  | .answer _ => ∀ f, s.pc ≠ .sent f
  | _ => True

instance (s : State) (l : Label) : Decidable (CallerWaits s l) := by
  cases l with
  | answer hasEid =>
    cases hpc : s.pc with
    | sent f => exact .isFalse (fun h => h f hpc)
    | _ => exact .isTrue (by simp [CallerWaits, hpc])
  | _ => exact .isTrue trivial

/-! ## Answers in time -/

structure Inv (s : State) : Prop where
  /-- before its wait a call has had no answer -/
  early : s.notified → ∃ f expired, s.pc = .wait f expired ∧ s.ready f
  returns : ∀ r ∈ s.returns, r.notified → r.outcome ≠ .timeout

theorem inv_init : Inv {} where
  early := by simp
  returns := by simp

variable {s s' : State} {f : Fn}

theorem Inv.return {outcome : Outcome} (h : Inv s) (hoc : s.notified → outcome ≠ .timeout) :
    Inv (s.return f outcome) where
  early := by simp [State.return]
  returns := by
    intro r hr
    rcases List.mem_append.1 hr with hol | hn
    · exact h.returns r hol
    · obtain rfl := List.mem_singleton.1 hn
      exact hoc

theorem Inv.not_notified (h : Inv s) (hpc : ∀ f expired, s.pc ≠ .wait f expired) :
    ¬ s.notified := by
  intro hn
  obtain ⟨f, expired, hw, _⟩ := h.early hn
  exact hpc f expired hw

theorem Inv.before_wait (h : Inv s) (hpc : ∀ f expired, s.pc ≠ .wait f expired)
    (hnt : s'.notified = s.notified) (hr : s'.returns = s.returns) : Inv s' where
  early := by
    intro hn
    exact absurd (hnt ▸ hn) (h.not_notified hpc)
  returns := by
    rw [hr]
    exact h.returns

theorem Inv.ready_of_notified (h : Inv s) (hn : s.notified) {expired : Bool}
    (hpc : s.pc = .wait f expired) : s.ready f := by
  obtain ⟨g, _, hg, hr⟩ := h.early hn
  obtain ⟨rfl, _⟩ : f = g ∧ _ := by simpa using hpc.symm.trans hg
  exact hr

theorem State.ready_processDone {g : Fn} {hasEid : Bool} (h : f = g ∨ s.ready g) :
    (s.processDone f hasEid).ready g := by
  rcases eq_or_ne g f with rfl | hne
  · simp [State.processDone, State.notifyReady]
  · have hg : s.ready g := h.resolve_left (Ne.symm hne)
    simpa [State.processDone, State.notifyReady, Function.update_of_ne hne] using hg

theorem Inv.step {l : Label} (h : Inv s) (hw : CallerWaits s l) (hs : step s l = some s') :
    Inv s' := by
  cases l with
  | call f =>
    obtain ⟨hid, hs⟩ := Option.ite_none_right_eq_some.1 hs
    split at hs
    · cases hs
      exact h.return (fun _ => by simp)
    · cases hs
      exact h.before_wait (by simp [hid]) rfl rfl
  | obtained ok =>
    cases hpc : s.pc with
    | obtainChannel f =>
      simp only [Ready.step, hpc] at hs
      cases hs
      split
      · exact h.before_wait (by simp [hpc]) rfl rfl
      · exact h.return (fun _ => by simp)
    | _ => simp [Ready.step, hpc] at hs
  | sends ok =>
    cases hpc : s.pc with
    | send f =>
      simp only [Ready.step, hpc] at hs
      cases hs
      split
      · exact h.before_wait (by simp [hpc]) rfl rfl
      · exact h.return (fun _ => by simp)
    | _ => simp [Ready.step, hpc] at hs
  | clear =>
    cases hpc : s.pc with
    | sent f =>
      simp only [Ready.step, hpc] at hs
      cases hs
      exact h.before_wait (by simp [hpc]) rfl rfl
    | _ => simp [Ready.step, hpc] at hs
  | deadline =>
    cases hpc : s.pc with
    | wait f expired =>
      cases expired with
      | true => simp [Ready.step, hpc] at hs
      | false =>
        simp only [Ready.step, hpc] at hs
        cases hs
        exact {
          early := fun hn => ⟨f, true, rfl, h.ready_of_notified hn hpc⟩
          returns := h.returns }
    | _ => simp [Ready.step, hpc] at hs
  | wake =>
    cases hpc : s.pc with
    | wait f expired =>
      simp only [Ready.step, hpc] at hs
      split at hs
      next =>
        cases hs
        exact h.return (fun _ => by simp)
      next hu =>
        obtain ⟨_, ⟨⟩⟩ := Option.ite_none_right_eq_some.1 hs
        exact h.return (fun hn => absurd (h.ready_of_notified hn hpc) hu)
    | _ => simp [Ready.step, hpc] at hs
  | answer hasEid =>
    cases hp : s.pending <;> cases hpc : s.pc <;>
      simp only [Ready.step, hp, hpc, Pc.calling, reduceCtorEq] at hs
    next f => exact absurd hpc (hw f)
    next f expired =>
      cases hs
      exact {
        early := fun _ => ⟨f, expired, rfl, State.ready_processDone (.inl rfl)⟩
        returns := h.returns }
  | lateAnswer f hasEid =>
    obtain ⟨_, ⟨⟩⟩ := Option.ite_none_right_eq_some.1 hs
    refine { early := ?_, returns := h.returns }
    intro hn
    obtain ⟨g, expired, hg, hr⟩ := h.early hn
    exact ⟨g, expired, hg, State.ready_processDone (.inr hr)⟩

/-- **No answer in time is lost** in a run whose handlers never overtake the caller on
its way into the wait. -/
theorem answered_in_time {ls : List Label} {s : State}
    (hwaits : StepsMeet step CallerWaits {} ls) (hrun : runLabels step {} ls = some s) :
    ∀ r ∈ s.returns, r.notified → r.outcome ≠ .timeout :=
  (invariant_run .step ls inv_init hwaits hrun).returns

/-- The first call is never answered in time and its late answer comes during the second. -/
theorem answered_in_time_second_call :
    ∃ ls s, StepsMeet step CallerWaits {} ls ∧ runLabels step {} ls = some s ∧
      s.returns = [⟨.getEuiccInfo, .timeout, false⟩, ⟨.listNotifications, .answered, true⟩] ∧
      ∀ r ∈ s.returns, r.notified → r.outcome ≠ .timeout := by
  let ls : List Label :=
    [.call .getEuiccInfo, .obtained true, .sends true, .clear, .deadline, .wake,
      .call .listNotifications, .obtained true, .sends true, .clear,
      .lateAnswer .getEuiccInfo false, .answer false, .deadline, .wake]
  obtain ⟨s, hw, hrn, hrt⟩ : ∃ s, StepsMeet step CallerWaits {} ls ∧
      runLabels step {} ls = some s ∧ s.returns =
        [⟨.getEuiccInfo, .timeout, false⟩, ⟨.listNotifications, .answered, true⟩] :=
    exists_run_meeting _ (by decide +kernel)
  exact ⟨ls, s, hw, hrn, hrt, answered_in_time hw hrn⟩

end TelephonyCore.Esim.Ready
