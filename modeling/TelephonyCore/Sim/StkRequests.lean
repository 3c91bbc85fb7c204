import TelephonyCore.Lib.WaitingCalls

/-!
# `StkController`: requests that wait for the modem

`SendTerminalResponseCmd`, `SendEnvelopeCmd` and `SendCallSetupRequestResult` share the flag
`responseFinished_`. Each of them lowers it under `stkMutex_`, sends its request and waits two
seconds at a time; the handler of an answer, which runs without the mutex, writes the result of its
operation and then raises the flag.

The first two return success when the flag is up. They do not look at the result, so an answer with
an error is a success as well (`erroneous_answer_reported`). The third returns its result, and
raises the flag itself when it times out.
-/

namespace TelephonyCore.Sim.StkController.Requests

open Lib Lib.WaitingCalls List

inductive Cmd where
  | sendTerminalResponseCmd (strCmd : String)
  | sendEnvelopeCmd (strCmd : String)
  | sendCallSetupRequestResult (accept : Bool)
deriving DecidableEq

/-- `connected`: it has its event and a `telRilManager`. -/
structure Op where
  cmd : Cmd
  connected : Bool := true
deriving DecidableEq

/-- `TELEPHONY_SUCCESS`, `TELEPHONY_ERR_LOCAL_PTR_NULL`, `TELEPHONY_ERR_RIL_CMD_FAIL`,
`TELEPHONY_ERR_FAIL`. -/
inductive ErrCode where
  | success
  | localPtrNull
  | rilCmdFail
  | fail
deriving DecidableEq

/-- With the error of its `RadioResponseInfo` or without one. -/
inductive Answer where
  | response (error : Int)
  | noResponse
deriving DecidableEq

def NONE : Int := 0

structure Mem where
  terminalResponseResult : Bool := false
  envelopeResponseResult : Bool := false
  callSetupResponseResult : ErrCode := .success
  responseFinished : Bool := false
deriving DecidableEq

inductive Write where
  | terminalResponseResult (result : Bool)
  | envelopeResponseResult (result : Bool)
  | callSetupResponseResult (result : ErrCode)
  | responseFinished
deriving DecidableEq

def Write.perform : Write → Mem → Mem
  | .terminalResponseResult result, mem => { mem with terminalResponseResult := result }
  | .envelopeResponseResult result, mem => { mem with envelopeResponseResult := result }
  | .callSetupResponseResult result, mem => { mem with callSetupResponseResult := result }
  | .responseFinished, mem => { mem with responseFinished := true }

def Cmd.start : Cmd → Mem → Mem
  | .sendTerminalResponseCmd _, mem =>
    { mem with terminalResponseResult := false, responseFinished := false }
  | .sendEnvelopeCmd _, mem =>
    { mem with envelopeResponseResult := false, responseFinished := false }
  | .sendCallSetupRequestResult _, mem =>
    { mem with callSetupResponseResult := .fail, responseFinished := false }

def Cmd.refused : Cmd → ErrCode
  | .sendTerminalResponseCmd _ | .sendEnvelopeCmd _ => .localPtrNull
  | .sendCallSetupRequestResult _ => .fail

/-- `OnSendTerminalResponseResult`, `OnSendEnvelopeCmdResult`, `OnSendCallSetupRequestResult`. -/
def Cmd.writes (cmd : Cmd) : Answer → List Write
  | .noResponse => []
  | .response error =>
    match cmd with
    | .sendTerminalResponseCmd _ => [.terminalResponseResult (error = NONE), .responseFinished]
    | .sendEnvelopeCmd _ => [.envelopeResponseResult (error = NONE), .responseFinished]
    | .sendCallSetupRequestResult _ =>
      [.callSetupResponseResult (if error = NONE then .success else .fail), .responseFinished]

def Cmd.expire : Cmd → Mem → Mem
  | .sendCallSetupRequestResult _, mem => { mem with responseFinished := true }
  | _, mem => mem

def Cmd.finish : Cmd → Mem → ErrCode
  | .sendTerminalResponseCmd _, mem | .sendEnvelopeCmd _, mem =>
    if !mem.responseFinished then .rilCmdFail else .success
  | .sendCallSetupRequestResult _, mem => mem.callSetupResponseResult

def protocol : Protocol Op Answer Write Mem ErrCode where
  start op mem := if op.connected then (op.cmd.start mem, none) else (mem, some op.cmd.refused)
  accepts _ _ := true
  writes op := op.cmd.writes
  perform := Write.perform
  ready _ mem := mem.responseFinished
  expire op := op.cmd.expire
  finish op := op.cmd.finish

/-! ## What a call relies on -/

def Cmd.isCallSetup : Cmd → Bool
  | .sendCallSetupRequestResult _ => true
  | _ => false

/-- Every answer raises the flag; only one to a call setup request sets the result of such. -/
def answerTouches (other op : Op) : Bool := !op.cmd.isCallSetup || other.cmd.isCallSetup

def expireTouches (other op : Op) : Bool := !op.cmd.isCallSetup && other.cmd.isCallSetup

/-- The operations that ignore their result are not answered with an error. -/
def wakes (op : Op) (progress : Option (Progress Answer Write)) (_ : Mem) : Bool :=
  match progress with
  | some ⟨.response error, _⟩ => op.cmd.isCallSetup || error = NONE
  | _ => true

/-- The flag is up because of the answer to the call, or the result is that of its answer. -/
def Good (op : Op) (progress : Option (Progress Answer Write)) (mem : Mem) : Prop :=
  match op.cmd with
  | .sendCallSetupRequestResult _ =>
    mem.callSetupResponseResult = .success → ∃ rest, progress = some ⟨.response NONE, rest⟩
  | _ => mem.responseFinished = true → ∃ error, progress = some ⟨.response error, []⟩

theorem good_start (op : Op) (mem : Mem) : Good op none (op.cmd.start mem) := by
  obtain ⟨cmd, _⟩ := op
  cases cmd with
  | sendTerminalResponseCmd | sendEnvelopeCmd | sendCallSetupRequestResult =>
    intro h
    exact absurd h (by simp [Cmd.start])

variable {progress : Option (Progress Answer Write)} {mem : Mem}
  {op other : Op} {answer : Answer} {w : Write} {rest : List Write}

theorem Good.start_other (h : Good op progress mem) (other : Cmd) :
    Good op progress (other.start mem) := by
  obtain ⟨cmd, _⟩ := op
  cases cmd with
  | sendTerminalResponseCmd | sendEnvelopeCmd =>
    intro hup
    cases other <;> exact absurd hup (by simp [Cmd.start])
  | sendCallSetupRequestResult accept =>
    intro hs
    cases other with
    | sendTerminalResponseCmd | sendEnvelopeCmd => exact h hs
    | sendCallSetupRequestResult => exact absurd hs (by simp [Cmd.start])

theorem good_answer (answer : Answer) (h : Good op none mem) :
    Good op (some ⟨answer, op.cmd.writes answer⟩) mem := by
  obtain ⟨cmd, _⟩ := op
  cases cmd with
  | sendTerminalResponseCmd | sendEnvelopeCmd | sendCallSetupRequestResult =>
    intro hup
    obtain ⟨_, hn⟩ := h hup
    cases hn

theorem writes_suffix {cmd : Cmd} (h : (w :: rest).IsSuffix (cmd.writes answer)) :
    ∃ error, answer = .response error ∧
      (w = .responseFinished ∧ rest = [] ∨ cmd.writes answer = w :: rest) := by
  cases answer with
  | noResponse => cases suffix_nil.1 h
  | response error =>
    refine ⟨error, rfl, ?_⟩
    cases cmd with
    | sendTerminalResponseCmd | sendEnvelopeCmd | sendCallSetupRequestResult =>
      rcases suffix_cons_iff.1 h with heq | hs
      · exact .inr heq.symm
      · left
        rcases suffix_cons_iff.1 hs with heq | hn
        · exact List.cons.inj heq
        · cases suffix_nil.1 hn

theorem Good.write_own (hsf : (w :: rest).IsSuffix (op.cmd.writes answer))
    (h : Good op (some ⟨answer, w :: rest⟩) mem) :
    Good op (some ⟨answer, rest⟩) (w.perform mem) := by
  obtain ⟨error, rfl, hw⟩ := writes_suffix hsf
  obtain ⟨cmd, _⟩ := op
  rcases hw with ⟨rfl, rfl⟩ | hf
  · cases cmd with
    | sendTerminalResponseCmd | sendEnvelopeCmd => exact fun _ => ⟨error, rfl⟩
    | sendCallSetupRequestResult =>
      intro hsc
      obtain ⟨rest, hr⟩ := h hsc
      have he : error = NONE := Answer.response.inj (Progress.mk.inj (Option.some.inj hr)).1
      exact ⟨[], by rw [he]⟩
  · cases cmd with
    | sendTerminalResponseCmd | sendEnvelopeCmd =>
      cases hf
      intro hup
      obtain ⟨_, hdn⟩ := h hup
      cases hdn
    | sendCallSetupRequestResult =>
      cases hf
      intro hsc
      by_cases hn : error = NONE
      · subst hn
        exact ⟨_, rfl⟩
      · exact absurd hsc (by simp [Write.perform, hn])

theorem Good.write_other (ht : answerTouches other op = false)
    (hw : w ∈ other.cmd.writes answer) (h : Good op progress mem) :
    Good op progress (w.perform mem) := by
  obtain ⟨cmd, _⟩ := op
  obtain ⟨cmd', _⟩ := other
  cases cmd with
  | sendTerminalResponseCmd | sendEnvelopeCmd =>
    exact absurd ht (by simp [answerTouches, Cmd.isCallSetup])
  | sendCallSetupRequestResult =>
    cases answer with
    | noResponse => exact absurd hw (by simp [Cmd.writes])
    | response error =>
      cases cmd' with
      | sendTerminalResponseCmd | sendEnvelopeCmd =>
        -- neither of the two writes is the result of a call setup request
        rcases mem_cons.1 hw with rfl | hw
        · exact h
        · obtain rfl := mem_singleton.1 hw
          exact h
      | sendCallSetupRequestResult =>
        exact absurd ht (by simp [answerTouches, Cmd.isCallSetup])

theorem Good.expire_other (ht : expireTouches other op = false) (h : Good op progress mem) :
    Good op progress (other.cmd.expire mem) := by
  obtain ⟨cmd, _⟩ := op
  obtain ⟨cmd', _⟩ := other
  cases cmd' with
  | sendTerminalResponseCmd | sendEnvelopeCmd => exact h
  | sendCallSetupRequestResult =>
    cases cmd with
    | sendTerminalResponseCmd | sendEnvelopeCmd =>
      exact absurd ht (by simp [expireTouches, Cmd.isCallSetup])
    | sendCallSetupRequestResult => exact h

theorem rules : Rules answerTouches expireTouches protocol Good where
  start_own op mem hsn := by
    unfold protocol at hsn ⊢
    simp only at hsn ⊢
    split at hsn
    next hc =>
      rw [if_pos hc]
      exact good_start op mem
    next => cases hsn
  start_other op other progress mem h := by
    unfold protocol
    simp only
    split
    next => exact h.start_other other.cmd
    next => exact h
  answer_own _ answer _ _ h := good_answer answer h
  write_own _ _ _ _ _ hsf h := h.write_own hsf
  write_other _ _ _ _ _ _ ht hw h := h.write_other ht hw
  expire_other _ _ _ _ ht h := h.expire_other ht

/-! ## Whose answer a success is -/

theorem refused_ne_success (cmd : Cmd) : cmd.refused ≠ .success := by
  cases cmd <;> simp [Cmd.refused]

theorem Good.answer_of_success (h : Good op progress mem) (hwk : wakes op progress mem)
    (hs : op.cmd.finish mem = .success) : ∃ rest, progress = some ⟨.response NONE, rest⟩ := by
  obtain ⟨cmd, _⟩ := op
  cases cmd with
  | sendTerminalResponseCmd | sendEnvelopeCmd =>
    have hup : mem.responseFinished := by
      cases hf : mem.responseFinished with
      | true => rfl
      | false => exact absurd hs (by simp [Cmd.finish, hf])
    obtain ⟨error, rfl⟩ := h hup
    have hn : error = NONE := by simpa [wakes, Cmd.isCallSetup] using hwk
    exact ⟨[], by rw [hn]⟩
  | sendCallSetupRequestResult => exact h hs

theorem finish_expire_success (h : op.cmd.finish (op.cmd.expire mem) = .success) :
    op.cmd.finish mem = .success := by
  obtain ⟨cmd, _⟩ := op
  cases cmd <;> exact h

/-- A call that returns success had an answer without error to its own request. -/
theorem stk_result_own {run : List (Label Op Answer)} {s : State Op Answer Write Mem ErrCode}
    (hkept : StepsMeet (step protocol) (Undisturbed answerTouches expireTouches wakes) ⟨{}, [], none⟩
      run)
    (hrun : runLabels (step protocol) ⟨{}, [], none⟩ run = some s)
    {call : Call Op Answer Write ErrCode} (hcall : call ∈ s.calls)
    {progress : Option (Progress Answer Write)} (hreturned : call.pc = .returned .success progress) :
    ∃ rest, progress = some ⟨.response NONE, rest⟩ := by
  have hg := returned_good rules {} hkept hrun hcall hreturned
  unfold Returned at hg
  split at hg
  next =>
    obtain ⟨mem, hm, hw, ⟨-, hf⟩ | hf⟩ := hg
    · exact hm.answer_of_success hw hf.symm
    · exact hm.answer_of_success hw (finish_expire_success hf.symm)
  next =>
    obtain ⟨mem, hs⟩ := hg
    unfold protocol at hs
    simp only at hs
    split at hs
    next => cases hs
    next => exact absurd (Option.some.inj hs) (refused_ne_success _)

/-- The answer to a terminal response that timed out comes while a call setup request waits. -/
def overlapRun : List (Label Op Answer) :=
  [.call ⟨.sendCallSetupRequestResult true, true⟩, .answer 0 (.response 0), .write, .write, .write,
    .wake 0 false, .call ⟨.sendTerminalResponseCmd "8103", true⟩, .wake 1 true,
    .call ⟨.sendCallSetupRequestResult true, true⟩, .answer 1 (.response 0), .write, .write, .write,
    .answer 2 (.response 0), .write, .wake 2 false]

theorem stk_result_own_overlap :
    ∃ s call, StepsMeet (step protocol) (Undisturbed answerTouches expireTouches wakes) ⟨{}, [], none⟩
        overlapRun ∧
      runLabels (step protocol) ⟨{}, [], none⟩ overlapRun = some s ∧ s.calls[2]? = some call ∧
      ∃ rest, call.pc = .returned .success (some ⟨.response NONE, rest⟩) := by
  obtain ⟨s, hk, hr, hc⟩ : ∃ s,
      StepsMeet (step protocol) (Undisturbed answerTouches expireTouches wakes) ⟨{}, [], none⟩
        overlapRun ∧
      runLabels (step protocol) ⟨{}, [], none⟩ overlapRun = some s ∧
      s.calls.map (·.pc) = [.returned .success (some ⟨.response 0, []⟩),
        .returned .rilCmdFail none, .returned .success (some ⟨.response 0, [.responseFinished]⟩)] :=
    exists_run_meeting _ (by decide +kernel)
  obtain ⟨call, hg, hpc⟩ : ∃ call, s.calls[2]? = some call ∧
      call.pc = .returned .success (some ⟨.response 0, [.responseFinished]⟩) := by
    have h := congrArg (·[2]?) hc
    simpa using h
  obtain ⟨rest, ho⟩ := stk_result_own hk hr (mem_of_getElem? hg) hpc
  exact ⟨s, call, hk, hr, hg, rest, ho ▸ hpc⟩

/-- The modem answers the terminal response with an error: the call returns success. -/
theorem erroneous_answer_reported :
    ∃ run s call, runLabels (step protocol) ⟨{}, [], none⟩ run = some s ∧ call ∈ s.calls ∧
      call.pc = .returned .success (some ⟨.response 1, []⟩) := by
  obtain ⟨s, hr, call, hm, hpc⟩ : ∃ s,
      runLabels (step protocol) ⟨{}, [], none⟩
        [.call ⟨.sendTerminalResponseCmd "8103", true⟩, .answer 0 (.response 1), .write, .write,
          .wake 0 false] = some s ∧
      ∃ call ∈ s.calls, call.pc = .returned .success (some ⟨.response 1, []⟩) :=
    exists_run _ (by decide +kernel)
  exact ⟨_, s, call, hr, hm, hpc⟩

end TelephonyCore.Sim.StkController.Requests
