import Mathlib.Data.List.Basic
import TelephonyCore.Lib.Transition

/-!
# `StkController`: delivering the commands of the SIM toolkit

A proactive command of the card is published as a common event. When publishing fails, the command
goes to `retryWantQueue_` and a delayed event (`RETRY_SEND_RIL_PROACTIVE_COMMAND`) tries the front
of the queue again, at most `MAX_RETRY_COUNT` times. A command that finds the queue not empty is put
behind the others. When the retries have run out, the end of the bundle scan (`OnReceiveBms`) may
start them again, but not once `isProactiveCommandSucc` is up, which the first success raises and
nothing lowers (`stuck_run`).

Every section runs under `retryQueueMutex_` and is one step.
-/

namespace TelephonyCore.Sim.StkController

open Lib List

def MAX_RETRY_COUNT : Int := 10

/-- `Command` is the text of a proactive command; the slot is the same for all of them. -/
structure Commands (Command : Type) where
  retryWantQueue : List Command := []
  remainTryCount : Int := 0
  isProactiveCommandSucc : Bool := false
  /-- `RETRY_SEND_RIL_PROACTIVE_COMMAND` events on their way -/
  retryEvents : Nat := 0
  /-- the commands to be published, in the order they came -/
  received : List Command := []
  /-- the commands `PublishStkEvent` has succeeded for -/
  published : List Command := []
deriving DecidableEq

namespace Commands

variable {Command : Type}

def onReceiveBms (s : Commands Command) : Commands Command :=
  if s.retryWantQueue ≠ [] ∧ ¬s.isProactiveCommandSucc then
    if s.remainTryCount = 0 then
      { s with remainTryCount := MAX_RETRY_COUNT, retryEvents := s.retryEvents + 1 }
    else { s with remainTryCount := MAX_RETRY_COUNT }
  else s

/-- From the lock on; `publishResult` is the answer of `PublishStkEvent`, where it is called. -/
def onSendRilProactiveCommand (s : Commands Command) (want : Command) (publishResult : Bool) :
    Commands Command :=
  let s := { s with received := s.received ++ [want] }
  if s.retryWantQueue ≠ [] then { s with retryWantQueue := s.retryWantQueue ++ [want] }
  else if !publishResult then
    { s with
      retryWantQueue := s.retryWantQueue ++ [want]
      remainTryCount := MAX_RETRY_COUNT
      retryEvents := s.retryEvents + 1 }
  else
    { s with
      isProactiveCommandSucc := true
      remainTryCount := 0
      published := s.published ++ [want] }

def retrySendRilProactiveCommand (s : Commands Command) (publishResult : Bool) :
    Commands Command :=
  match s.retryWantQueue with
  | [] => s
  | want :: rest =>
    let s := { s with remainTryCount := s.remainTryCount - 1 }
    if s.remainTryCount > 0 then
      if !publishResult then { s with retryEvents := s.retryEvents + 1 }
      else
        let s := { s with retryWantQueue := rest, published := s.published ++ [want] }
        if rest ≠ [] then
          { s with remainTryCount := MAX_RETRY_COUNT, retryEvents := s.retryEvents + 1 }
        else { s with isProactiveCommandSucc := true, remainTryCount := 0 }
    else s

inductive Label (Command : Type) where
  /-- an event with a command, or without data -/
  | proactiveCommand (stkData : Option Command) (publishResult : Bool)
  | retry (publishResult : Bool)
  | onReceiveBms

/-- `checIsVerifyBindCommand` are the commands for the eSIM, which are not published. -/
def step (checIsVerifyBindCommand : Command → Bool) (s : Commands Command) :
    Label Command → Option (Commands Command)
  | .proactiveCommand none _ => some s
  | .proactiveCommand (some cmdData) publishResult =>
    if checIsVerifyBindCommand cmdData then some s
    else some (s.onSendRilProactiveCommand cmdData publishResult)
  | .retry publishResult =>
    if 0 < s.retryEvents then
      some (({ s with retryEvents := s.retryEvents - 1 }).retrySendRilProactiveCommand
        publishResult)
    else none
  | .onReceiveBms => some s.onReceiveBms

def Label.want (checIsVerifyBindCommand : Command → Bool) : Label Command → Option Command
  | .proactiveCommand (some cmdData) _ =>
    if checIsVerifyBindCommand cmdData then none else some cmdData
  | _ => none

inductive Step (checIsVerifyBindCommand : Command → Bool) (s : Commands Command) :
    Label Command → Commands Command → Prop
  | ignored {l : Label Command} (hwant : l.want checIsVerifyBindCommand = none) :
    Step checIsVerifyBindCommand s l s
  | command {l : Label Command} (want : Command) (publishResult : Bool)
    (hwant : l.want checIsVerifyBindCommand = some want) :
    Step checIsVerifyBindCommand s l (s.onSendRilProactiveCommand want publishResult)
  | retry (publishResult : Bool) (hevent : 0 < s.retryEvents) :
    Step checIsVerifyBindCommand s (.retry publishResult)
      (({ s with retryEvents := s.retryEvents - 1 }).retrySendRilProactiveCommand publishResult)
  | onReceiveBms : Step checIsVerifyBindCommand s .onReceiveBms s.onReceiveBms

variable {bind : Command → Bool} {s s' : Commands Command} {l : Label Command}

theorem step_cases (hs : step bind s l = some s') : Step bind s l s' := by
  cases l with
  | proactiveCommand stkData publishResult =>
    cases stkData with
    | none =>
      cases hs
      exact .ignored rfl
    | some cmdData =>
      rw [step] at hs
      split at hs
      next hb =>
        cases hs
        exact .ignored (if_pos hb)
      next hb =>
        cases hs
        exact .command cmdData publishResult (if_neg hb)
  | retry publishResult =>
    obtain ⟨hev, ⟨⟩⟩ := Option.ite_none_right_eq_some.1 hs
    exact .retry publishResult hev
  | onReceiveBms =>
    cases hs
    exact .onReceiveBms

/-! ## Commands and events in every state -/

structure Inv (s : Commands Command) : Prop where
  order : s.published ++ s.retryWantQueue = s.received
  remain : 0 ≤ s.remainTryCount
  idle : s.retryWantQueue = [] → s.remainTryCount = 0
  /-- an event is pending while tries remain, and then one -/
  events : s.retryEvents = if 0 < s.remainTryCount then 1 else 0

theorem maxRetryCount_nonneg : 0 ≤ MAX_RETRY_COUNT := by decide

theorem maxRetryCount_ne_zero : MAX_RETRY_COUNT ≠ 0 := by decide

theorem inv_init : Inv ({} : Commands Command) :=
  ⟨rfl, Int.le_refl 0, fun _ => rfl, rfl⟩

theorem Inv.onReceiveBms (h : Inv s) : Inv s.onReceiveBms := by
  have he := h.events
  have hr := h.remain
  unfold Commands.onReceiveBms
  split
  next hq =>
    split
    next hz =>
      refine ⟨h.order, maxRetryCount_nonneg, fun hnl => absurd hnl hq.1, ?_⟩
      rw [hz] at he
      show s.retryEvents + 1 = 1
      rw [he]
      rfl
    next hne =>
      refine ⟨h.order, maxRetryCount_nonneg, fun hnl => absurd hnl hq.1, ?_⟩
      rw [if_pos (by omega)] at he
      exact he
  next => exact h

theorem Inv.onSendRilProactiveCommand (h : Inv s) (want : Command) (publishResult : Bool) :
    Inv (s.onSendRilProactiveCommand want publishResult) := by
  have he := h.events
  unfold Commands.onSendRilProactiveCommand
  simp only
  split
  next hq =>
    refine ⟨?_, h.remain, fun hn => absurd hn (by simp), he⟩
    rw [← append_assoc, h.order]
  next hq =>
    rw [ne_eq, not_not] at hq
    have hz := h.idle hq
    rw [hz, if_neg (by decide)] at he
    have ho : s.published = s.received := by
      rw [← h.order, hq, append_nil]
    split
    next =>
      refine ⟨?_, maxRetryCount_nonneg, fun hn => absurd hn (by simp), ?_⟩
      · rw [← append_assoc, h.order]
      · show s.retryEvents + 1 = 1
        rw [he]
    next =>
      refine ⟨?_, Int.le_refl 0, fun _ => rfl, he⟩
      show s.published ++ [want] ++ s.retryWantQueue = s.received ++ [want]
      rw [hq, append_nil, ho]

theorem Inv.of_event (h : Inv s) (hev : 0 < s.retryEvents) :
    0 < s.remainTryCount ∧ s.retryEvents = 1 := by
  have hes := h.events
  by_cases hp : 0 < s.remainTryCount
  · rw [if_pos hp] at hes
    exact ⟨hp, hes⟩
  · rw [if_neg hp] at hes
    omega

theorem Inv.retry (h : Inv s) (hev : 0 < s.retryEvents) (publishResult : Bool) :
    Inv (({ s with retryEvents := s.retryEvents - 1 }).retrySendRilProactiveCommand
      publishResult) := by
  obtain ⟨_, hon⟩ := h.of_event hev
  have hor := h.order
  unfold retrySendRilProactiveCommand
  simp only
  split
  next hq =>
    have hz := h.idle hq
    omega
  next want rest hq =>
    rw [hq] at hor
    split
    next hm =>
      split
      next =>
        refine ⟨by rw [hq]; exact hor, Int.le_of_lt hm, fun hn => ?_, ?_⟩
        · cases hq.symm.trans hn
        · show s.retryEvents - 1 + 1 = if 0 < s.remainTryCount - 1 then 1 else 0
          rw [if_pos hm, hon]
      next =>
        have hp : s.published ++ [want] ++ rest = s.received := by
          rw [append_assoc]
          exact hor
        split
        next hr =>
          refine ⟨hp, maxRetryCount_nonneg, fun hn => absurd hn hr, ?_⟩
          show s.retryEvents - 1 + 1 = 1
          rw [hon]
        next =>
          refine ⟨hp, Int.le_refl 0, fun _ => rfl, ?_⟩
          show s.retryEvents - 1 = 0
          rw [hon]
    next hl =>
      -- the last try is not made
      have hz : s.remainTryCount - 1 = 0 := by omega
      refine ⟨by rw [hq]; exact hor, ?_, fun _ => hz, ?_⟩
      · exact Int.le_of_eq hz.symm
      · show s.retryEvents - 1 = if 0 < s.remainTryCount - 1 then 1 else 0
        rw [hz, hon]
        rfl

/-! ## Every command is published, or tried again -/

theorem received_onSendRilProactiveCommand (s : Commands Command) (want : Command)
    (publishResult : Bool) :
    (s.onSendRilProactiveCommand want publishResult).received = s.received ++ [want] := by
  unfold onSendRilProactiveCommand
  simp only
  repeat' split
  all_goals rfl

theorem received_retrySendRilProactiveCommand (s : Commands Command) (publishResult : Bool) :
    (s.retrySendRilProactiveCommand publishResult).received = s.received := by
  unfold retrySendRilProactiveCommand
  simp only
  repeat' split
  all_goals rfl

theorem received_onReceiveBms (s : Commands Command) : s.onReceiveBms.received = s.received := by
  unfold onReceiveBms
  repeat' split
  all_goals rfl

theorem received_step (hs : step bind s l = some s') :
    s'.received = s.received ++ (l.want bind).toList := by
  cases step_cases hs with
  | ignored hw => rw [hw, Option.toList_none, append_nil]
  | command want publishResult hw =>
    rw [hw, received_onSendRilProactiveCommand, Option.toList_some]
  | retry publishResult =>
    rw [received_retrySendRilProactiveCommand]
    exact (append_nil _).symm
  | onReceiveBms =>
    rw [received_onReceiveBms]
    exact (append_nil _).symm

theorem received_run : ∀ run {s s' : Commands Command}, runLabels (step bind) s run = some s' →
      s'.received = s.received ++ run.filterMap (Label.want bind) := by
  intro run
  induction run with
  | nil =>
    intro s s' hrn
    cases hrn
    exact (append_nil _).symm
  | cons l run ih =>
    intro s s' hrn
    obtain ⟨_, hm, hrs⟩ := runLabels_cons hrn
    rw [ih hrs, received_step hm, append_assoc, filterMap_cons]
    cases l.want bind <;> rfl

/-- The tries of a command do not run out once a command has been published with none left. -/
def RunsOutBefore (s : Commands Command) : Label Command → Prop
  | .retry _ => s.remainTryCount = 1 → s.isProactiveCommandSucc = false
  | _ => True

instance (s : Commands Command) (l : Label Command) : Decidable (RunsOutBefore s l) := by
  unfold RunsOutBefore
  split <;> infer_instance

structure Served (s : Commands Command) : Prop where
  inv : Inv s
  /-- where the tries have run out, `OnReceiveBms` may start them again -/
  open_ : s.retryWantQueue ≠ [] → s.remainTryCount = 0 → s.isProactiveCommandSucc = false

theorem Served.onReceiveBms (h : Served s) : Served s.onReceiveBms := by
  refine ⟨h.inv.onReceiveBms, ?_⟩
  unfold Commands.onReceiveBms
  split
  next =>
    split
    next => exact fun _ hz => absurd hz maxRetryCount_ne_zero
    next => exact fun _ hz => absurd hz maxRetryCount_ne_zero
  next => exact h.open_

theorem Served.onSendRilProactiveCommand (h : Served s) (want : Command) (publishResult : Bool) :
    Served (s.onSendRilProactiveCommand want publishResult) := by
  refine ⟨h.inv.onSendRilProactiveCommand want publishResult, ?_⟩
  unfold Commands.onSendRilProactiveCommand
  simp only
  split
  next hq => exact fun _ => h.open_ hq
  next hq =>
    split
    next => exact fun _ hz => absurd hz maxRetryCount_ne_zero
    next => exact fun hne => absurd hne hq

theorem Served.retry (h : Served s) (hev : 0 < s.retryEvents) (publishResult : Bool)
    (hop : s.remainTryCount = 1 → s.isProactiveCommandSucc = false) :
    Served (({ s with retryEvents := s.retryEvents - 1 }).retrySendRilProactiveCommand
      publishResult) := by
  refine ⟨h.inv.retry hev publishResult, ?_⟩
  unfold retrySendRilProactiveCommand
  simp only
  split
  next hq => exact h.open_
  next want rest hq =>
    split
    next hm =>
      split
      next => exact fun _ hz => absurd hz (Int.ne_of_gt hm)
      next =>
        split
        next => exact fun _ hz => absurd hz maxRetryCount_ne_zero
        next hr => exact fun hne => absurd hne hr
    next =>
      intro _ hz
      have hon : s.remainTryCount - 1 = 0 := hz
      exact hop (by omega)

theorem Served.step (h : Served s) (hb : RunsOutBefore s l) (hs : step bind s l = some s') :
    Served s' := by
  cases step_cases hs with
  | ignored => exact h
  | command want publishResult => exact h.onSendRilProactiveCommand want publishResult
  | retry publishResult hev => exact h.retry hev publishResult hb
  | onReceiveBms => exact h.onReceiveBms

theorem Served.retried (h : Served s) (hq : s.retryWantQueue ≠ []) :
    0 < s.retryEvents ∨ 0 < s.onReceiveBms.retryEvents := by
  have he := h.inv.events
  by_cases hp : 0 < s.remainTryCount
  · left
    rw [he, if_pos hp]
    decide
  · right
    have hz : s.remainTryCount = 0 := Int.le_antisymm (Int.not_lt.1 hp) h.inv.remain
    have ho := h.open_ hq hz
    rw [Commands.onReceiveBms, if_pos ⟨hq, by simp [ho]⟩, if_pos hz]
    exact Nat.succ_pos _

/-- **Commands are published in the order they came, each at most once**: those published and then
those in the queue are the commands of the run. And a command in the queue is tried again, where no
command's tries run out after a success. -/
theorem commands_delivered (checIsVerifyBindCommand : Command → Bool) (run : List (Label Command))
    (s : Commands Command)
    (hbefore : StepsMeet (step checIsVerifyBindCommand) RunsOutBefore {} run)
    (hrun : runLabels (step checIsVerifyBindCommand) {} run = some s) :
    s.published ++ s.retryWantQueue = run.filterMap (Label.want checIsVerifyBindCommand) ∧
      (s.retryWantQueue ≠ [] → 0 < s.retryEvents ∨ 0 < s.onReceiveBms.retryEvents) := by
  have hin : Served ({} : Commands Command) := ⟨inv_init, fun hne => absurd rfl hne⟩
  have hs : Served s := invariant_run .step run hin hbefore hrun
  refine ⟨?_, hs.retried⟩
  rw [hs.inv.order, received_run run hrun]
  rfl

/-- The first command fails ten times; the second waits behind it. `OnReceiveBms` starts the tries
again and both are published. -/
def retriedRun : List (Label Nat) :=
  [.proactiveCommand (some 1) false] ++ List.replicate 9 (.retry false) ++
    [.proactiveCommand (some 2) true, .retry false, .onReceiveBms, .retry true, .retry true]

theorem commands_delivered_retried :
    ∃ s, StepsMeet (step fun _ => false) RunsOutBefore {} retriedRun ∧
      runLabels (step fun _ => false) {} retriedRun = some s ∧ s.retryWantQueue = [] ∧
      s.published = [1, 2] := by
  obtain ⟨s, hb, hr, hq⟩ : ∃ s, StepsMeet (step fun _ => false) RunsOutBefore {} retriedRun ∧
      runLabels (step fun _ => false) {} retriedRun = some s ∧ s.retryWantQueue = [] :=
    exists_run_meeting _ (by decide +kernel)
  have hdl := (commands_delivered (fun _ => false) retriedRun s hb hr).1
  rw [hq, append_nil] at hdl
  exact ⟨s, hb, hr, hq, hdl⟩

theorem Inv.step (h : Inv s) (hs : step bind s l = some s') : Inv s' := by
  cases step_cases hs with
  | ignored => exact h
  | command want publishResult => exact h.onSendRilProactiveCommand want publishResult
  | retry publishResult hev => exact h.retry hev publishResult
  | onReceiveBms => exact h.onReceiveBms

/-- **No command is lost, doubled or overtaken in any run**, also where tries run out: one retry
event is pending while tries remain and none otherwise, and no tries remain without a command. -/
theorem commands_in_order (checIsVerifyBindCommand : Command → Bool) (run : List (Label Command))
    (s : Commands Command) (hrun : runLabels (step checIsVerifyBindCommand) {} run = some s) :
    s.published ++ s.retryWantQueue = run.filterMap (Label.want checIsVerifyBindCommand) ∧
      s.retryEvents = (if 0 < s.remainTryCount then 1 else 0) ∧
      (0 < s.remainTryCount → s.retryWantQueue ≠ []) := by
  have h := invariant_every_run Inv.step run inv_init hrun
  refine ⟨?_, h.events, fun hr hq => ?_⟩
  · rw [h.order, received_run run hrun]
    rfl
  · rw [h.idle hq] at hr
    exact absurd hr (Int.lt_irrefl 0)

theorem commands_in_order_retried :
    ∃ s, runLabels (step fun _ => false) {} retriedRun = some s ∧
      s.published ++ s.retryWantQueue = [1, 2] := by
  obtain ⟨s, hr, -⟩ : ∃ s, runLabels (step fun _ => false) {} retriedRun = some s ∧ True :=
    exists_run _ (by decide +kernel)
  exact ⟨s, hr, (commands_in_order (fun _ => false) retriedRun s hr).1⟩

/-! ## Retries that run out after a success -/

structure Stuck (s : Commands Command) : Prop where
  queue : s.retryWantQueue ≠ []
  succ : s.isProactiveCommandSucc = true
  events : s.retryEvents = 0

theorem Stuck.step (h : Stuck s) (hs : step bind s l = some s') :
    Stuck s' ∧ s'.published = s.published := by
  cases step_cases hs with
  | ignored => exact ⟨h, rfl⟩
  | command want publishResult =>
    rw [onSendRilProactiveCommand]
    rw [if_pos h.queue]
    exact ⟨⟨by simp, h.succ, h.events⟩, rfl⟩
  | retry publishResult hev => exact absurd h.events (Nat.ne_of_gt hev)
  | onReceiveBms =>
    rw [Commands.onReceiveBms, if_neg (by simp [h.succ])]
    exact ⟨h, rfl⟩

theorem stuck_run : ∀ run
    {s s' : Commands Command}, Stuck s → runLabels (step bind) s run = some s' →
      Stuck s' ∧ s'.published = s.published := by
  intro run
  induction run with
  | nil =>
    intro s s' h hrn
    cases hrn
    exact ⟨h, rfl⟩
  | cons l run ih =>
    intro s s' h hrn
    obtain ⟨_, hm, hrs⟩ := runLabels_cons hrn
    obtain ⟨hs, hp⟩ := h.step hm
    obtain ⟨hs', hp'⟩ := ih hs hrs
    exact ⟨hs', hp'.trans hp⟩

/-- The first command is published. The retries of the second run out: no event is pending,
`OnReceiveBms` sends none, and nothing is published any more. -/
theorem second_command_stuck :
    ∃ run s, runLabels (step fun _ => false) ({} : Commands Nat) run = some s ∧
      s.retryWantQueue = [2] ∧ s.retryEvents = 0 ∧ s.onReceiveBms.retryEvents = 0 ∧
      ∀ more s', runLabels (step fun _ => false) s more = some s' → s'.published = [1] := by
  obtain ⟨s, hr, hq, hsc, he, hb, hp⟩ : ∃ s,
      runLabels (step fun _ => false) ({} : Commands Nat)
        ([.proactiveCommand (some 1) true, .proactiveCommand (some 2) false] ++
          .replicate 10 (.retry false)) = some s ∧
      s.retryWantQueue = [2] ∧ s.isProactiveCommandSucc = true ∧ s.retryEvents = 0 ∧
      s.onReceiveBms.retryEvents = 0 ∧ s.published = [1] :=
    exists_run _ (by decide +kernel)
  have hst : Stuck s := ⟨by simp [hq], hsc, he⟩
  refine ⟨_, s, hr, hq, he, hb, ?_⟩
  intro more s' hm
  exact (stuck_run more hst hm).2.trans hp

end Commands

end TelephonyCore.Sim.StkController
