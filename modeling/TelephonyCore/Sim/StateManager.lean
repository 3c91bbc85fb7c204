import TelephonyCore.Lib.Slots
import TelephonyCore.Lib.Transition

/-!
# `SimStateManager`: calls that wait for the modem

Every operation does the same: under a mutex it lowers a flag, sends a request, and waits until the
flag is up or a deadline has passed; then it reads its result. `SimStateHandle` enters each answer
into a record and then, under the mutex, raises the flag. The records belong to the kinds of
operations, not to the calls, and all operations but `UnlockPin` share one flag.

The mutex is released during the wait: other calls may then lower the flag and send their own
requests, answers of calls that are over may come in, and the timer of the SIM matching raises the
flag as well. `FlagKept` and `RecordKept` exclude this while a call waits.
-/

namespace TelephonyCore.Sim.StateManager

open Lib List

/-! ## The records -/

def UNLOCK_SUCCESS : Int := 0
def UNLOCK_PASSWORD_ERR : Int := 1
def UNLOCK_PIN_PUK_INCORRECT : Int := 16
def SIM_AUTH_SUCCESS : Int := 0
def TELEPHONY_ERROR : Int := -1
def PIN_LOCK : Int := 1
def FDN_LOCK : Int := 2

/-- `UNLOCK_OK`, `UNLOCK_INCORRECT`, `UNLOCK_FAIL`. -/
inductive LockResult where
  | ok
  | incorrect
  | fail
deriving DecidableEq

inductive LockState where
  | off
  | on
  | error
deriving DecidableEq

structure UnlockData where
  result : Int := -2
  remain : Int := TELEPHONY_ERROR
  lockState : Int := 2
deriving DecidableEq

structure SimAuthenticationResponse where
  sw1 : Int := 0
  sw2 : Int := 0
  response : String := ""
deriving DecidableEq

structure Handle where
  unlockRespon : UnlockData := {}
  simlockRespon : UnlockData := {}
  simAuthRespon : SimAuthenticationResponse := {}
  simIoRespon : SimAuthenticationResponse := {}
deriving DecidableEq

inductive Op where
  | unlockPin
  | unlockPuk
  | alterPin
  | setLockState (lockType : Int) (lockState : Int)
  | getLockState (lockType : Int)
  | unlockPin2
  | unlockPuk2
  | alterPin2
  | refreshSimState
  | unlockSimLock
  | simAuthentication
  | getSimIo
deriving DecidableEq

/-- `responseReady_` and `responseUnlockPinReady_`. -/
inductive Flag where
  | cmd
  | unlockPin
deriving DecidableEq

def Op.flag : Op → Flag
  | .unlockPin => .unlockPin
  | _ => .cmd

/-- What an operation reads after its wait. -/
inductive Record where
  | unlock
  | lockState
  | simlock
  | simAuth
  | simIo
  | cardState
deriving DecidableEq

def Op.record : Op → Record
  | .unlockPin | .unlockPuk | .alterPin | .setLockState _ _ | .unlockPin2 | .unlockPuk2
  | .alterPin2 => .unlock
  | .getLockState _ => .lockState
  | .refreshSimState => .cardState
  | .unlockSimLock => .simlock
  | .simAuthentication => .simAuth
  | .getSimIo => .simIo

/-- `LockStatusResp`, an `int32_t`, `IccIoResultInfo`, `SimCardStatusInfo`, or `RadioResponseInfo`.
-/
inductive Answer where
  | lockStatus (result remain : Int)
  | lockState (param : Int)
  | iccIo (sw1 sw2 : Int) (response : String)
  | cardStatus
  | error (error : Int)
deriving DecidableEq

/-- An object of its kind or an error; `TelRilBase` reports errors other than `NONE` only. -/
def Record.accepts : Record → Answer → Bool
  | _, .error error => error ≠ 0
  | .unlock, .lockStatus _ _ | .simlock, .lockStatus _ _ => true
  | .lockState, .lockState _ => true
  | .simAuth, .iccIo _ _ _ | .simIo, .iccIo _ _ _ => true
  | .cardState, .cardStatus => true
  | _, _ => false

/-- `GetUnlockResult`, `GetSetLockResult` and `GetUnlockSimLockResult`. -/
def UnlockData.enter (data : UnlockData) : Answer → UnlockData
  | .lockStatus result remain => { data with result, remain }
  | .error error => { data with result := error }
  | _ => data

/-- `GetSimLockState`. -/
def UnlockData.enterLockState (data : UnlockData) : Answer → UnlockData
  | .lockState param => { data with lockState := param }
  | .error _ => { data with lockState := 2 }
  | _ => data

/-- `GetSimAuthenticationResult` and `GetSimIOResult`. -/
def SimAuthenticationResponse.enter (data : SimAuthenticationResponse) :
    Answer → SimAuthenticationResponse
  | .iccIo sw1 sw2 response => ⟨sw1, sw2, response⟩
  | _ => data

/-- `memberFuncMap_`: the answer is entered in the record of its operation. -/
def Handle.enter (handle : Handle) (record : Record) (answer : Answer) : Handle :=
  match record with
  | .unlock => { handle with unlockRespon := handle.unlockRespon.enter answer }
  | .lockState => { handle with unlockRespon := handle.unlockRespon.enterLockState answer }
  | .simlock => { handle with simlockRespon := handle.simlockRespon.enter answer }
  | .simAuth => { handle with simAuthRespon := handle.simAuthRespon.enter answer }
  | .simIo => { handle with simIoRespon := handle.simIoRespon.enter answer }
  | .cardState => handle

/-! ## What the operations return -/

inductive Returned where
  /-- `CORE_ERR_SIM_CARD_UPDATE_FAILED` or `CORE_ERR_SIM_CARD_LOAD_FAILED` -/
  | failed
  | argumentInvalid
  | lock (result : LockResult) (remain : Int)
  | lockState (lockState : LockState)
  | simState
  | io (ret : Int) (response : SimAuthenticationResponse)
deriving DecidableEq

def lockResult (unlockResult : Int) : LockResult :=
  if unlockResult = UNLOCK_SUCCESS then .ok
  else if unlockResult = UNLOCK_PASSWORD_ERR then .incorrect
  else .fail

def simlockResult (ret : Int) : LockResult :=
  if ret = UNLOCK_PIN_PUK_INCORRECT then .incorrect
  else if ret ≠ 0 then .fail
  else .ok

/-- The tests of `SetLockState` and `GetLockState` on their arguments. -/
def Op.valid : Op → Bool
  | .setLockState lockType lockState =>
    (lockType = PIN_LOCK || lockType = FDN_LOCK) && (lockState = 0 || lockState = 1)
  | .getLockState lockType => lockType = PIN_LOCK || lockType = FDN_LOCK
  | _ => true

/-- `ready` is the flag, and `ret` what sending the request returned. -/
def Op.finish (op : Op) (ready : Bool) (ret : Int) (handle : Handle) : Returned :=
  match op.record with
  | .unlock =>
    if ready then .lock (lockResult handle.unlockRespon.result) handle.unlockRespon.remain
    else .failed
  | .lockState =>
    if ready then
      .lockState
        (if handle.unlockRespon.lockState = 0 then .off
        else if handle.unlockRespon.lockState = 1 then .on
        else .error)
    else .failed
  | .simlock =>
    if ready then .lock (simlockResult handle.simlockRespon.result) handle.simlockRespon.remain
    else .failed
  | .simAuth => .io ret handle.simAuthRespon
  | .simIo => .io ret handle.simIoRespon
  | .cardState => .simState

/-! ## The machine -/

/-- `answer` is the answer that the request of the call had when it returned. -/
inductive Pc where
  | waiting
  | returned (value : Returned) (answer : Option Answer)
deriving DecidableEq

structure Call where
  op : Op
  /-- what sending the request returned -/
  ret : Int
  pc : Pc := .waiting
  /-- the answer to the request, once it has come -/
  answer : Option Answer := none
deriving DecidableEq

structure State where
  calls : List Call := []
  responseReady : Bool := false
  responseUnlockPinReady : Bool := false
  handle : Handle := {}
  /-- the call whose answer `ProcessEvent` has entered, and not yet raised the flag for -/
  handling : Option Nat := none
deriving DecidableEq

inductive Label where
  | call (op : Op) (ret : Int)
  /-- `ProcessEvent` enters the answer to the request of a call -/
  | answer (i : Nat) (answer : Answer)
  /-- `ProcessEvent` raises the flag: `SyncCmdResponse` or `SyncUnlockPinResponse` -/
  | sync
  /-- `EVENT_MATCH_SIM_TIMEOUT`, which `ProcessEvent` takes for an answer -/
  | matchSimTimeout
  /-- a waiting call finds its flag up, or its deadline passed -/
  | wake (i : Nat) (deadline : Bool)

def State.ready (s : State) : Flag → Bool
  | .cmd => s.responseReady
  | .unlockPin => s.responseUnlockPinReady

def State.setReady (s : State) (flag : Flag) (ready : Bool) : State :=
  match flag with
  | .cmd => { s with responseReady := ready }
  | .unlockPin => { s with responseUnlockPinReady := ready }

def State.begin (s : State) (op : Op) (ret : Int) : State :=
  if op.valid then { s.setReady op.flag false with calls := s.calls ++ [⟨op, ret, .waiting, none⟩] }
  else { s with calls := s.calls ++ [⟨op, ret, .returned .argumentInvalid none, none⟩] }

def Call.unanswered (call : Call) (answer : Answer) : Bool :=
  call.op.valid && call.answer = none && call.op.record.accepts answer

def step (s : State) : Label → Option State
  | .call op ret => some (s.begin op ret)
  | .answer i answer =>
    match s.handling, s.calls[i]? with
    | none, some call =>
      if call.unanswered answer then
        some { s with
          calls := s.calls.set i { call with answer := some answer }
          handle := s.handle.enter call.op.record answer
          handling := some i }
      else none
    | _, _ => none
  | .sync => do
    let i ← s.handling
    let call ← s.calls[i]?
    some { s.setReady call.op.flag true with handling := none }
  | .matchSimTimeout => if s.handling = none then some { s with responseReady := true } else none
  | .wake i deadline =>
    match s.calls[i]? with
    | some call =>
      if call.pc = .waiting ∧ (s.ready call.op.flag || deadline) then
        some { s with
          calls := s.calls.set i { call with
            pc := .returned (call.op.finish (s.ready call.op.flag) call.ret s.handle) call.answer } }
      else none
    | none => none

/-- An answer goes to no record that another call waits for. -/
def RecordKept (s : State) : Label → Prop
  | .answer j _ =>
    ∀ record ∈ (s.calls[j]?).map (·.op.record), ∀ call ∈ s.calls.eraseIdx j,
      call.pc = .waiting → call.op.record ≠ record
  | _ => True

/-- No call waits for a flag that is raised for another call, or by the timer. -/
def FlagKept (s : State) : Label → Prop
  | .sync =>
    ∀ j ∈ s.handling, ∀ flag ∈ (s.calls[j]?).map (·.op.flag), ∀ call ∈ s.calls.eraseIdx j,
      call.pc = .waiting → call.op.flag ≠ flag
  | .matchSimTimeout => ∀ call ∈ s.calls, call.pc = .waiting → call.op.flag ≠ .cmd
  | _ => True

instance (s : State) (l : Label) : Decidable (RecordKept s l) := by
  unfold RecordKept
  split <;> infer_instance

instance (s : State) (l : Label) : Decidable (FlagKept s l) := by
  unfold FlagKept
  split <;> infer_instance

/-! ## What a step can do -/

inductive Step (s : State) : Label → State → Prop
  | invalid (op : Op) (ret : Int) (hvalid : op.valid = false) :
    Step s (.call op ret)
      { s with calls := s.calls ++ [⟨op, ret, .returned .argumentInvalid none, none⟩] }
  | begin (op : Op) (ret : Int) (hvalid : op.valid = true) :
    Step s (.call op ret)
      { s.setReady op.flag false with calls := s.calls ++ [⟨op, ret, .waiting, none⟩] }
  | answer (i : Nat) (call : Call) (answer : Answer) (hcall : s.calls[i]? = some call)
    (hidle : s.handling = none) (hnone : call.answer = none)
    (haccepts : call.op.record.accepts answer = true) :
    Step s (.answer i answer)
      { s with
        calls := s.calls.set i { call with answer := some answer }
        handle := s.handle.enter call.op.record answer
        handling := some i }
  | sync (i : Nat) (call : Call) (hcall : s.calls[i]? = some call) (hhandling : s.handling = some i) :
    Step s .sync { s.setReady call.op.flag true with handling := none }
  | matchSimTimeout (hidle : s.handling = none) :
    Step s .matchSimTimeout { s with responseReady := true }
  | wake (i : Nat) (call : Call) (deadline : Bool) (hcall : s.calls[i]? = some call)
    (hwaiting : call.pc = .waiting) :
    Step s (.wake i deadline)
      { s with
        calls := s.calls.set i { call with
          pc := .returned (call.op.finish (s.ready call.op.flag) call.ret s.handle) call.answer } }

variable {s s' : State} {l : Label} {i : Nat} {call : Call}

theorem step_cases (h : step s l = some s') : Step s l s' := by
  cases l with
  | call op ret =>
    cases h
    rw [State.begin]
    split
    next hv => exact .begin op ret hv
    next hv => exact .invalid op ret (by simpa using hv)
  | answer i answer =>
    simp only [step] at h
    split at h
    next call hid hc =>
      obtain ⟨ho, ⟨⟩⟩ := Option.ite_none_right_eq_some.1 h
      simp only [Call.unanswered, Bool.and_eq_true, decide_eq_true_eq] at ho
      exact .answer i call answer hc hid ho.1.2 ho.2
    next => cases h
  | sync =>
    obtain ⟨i, hhg, h⟩ := Option.bind_eq_some_iff.1 h
    obtain ⟨call, hc, h⟩ := Option.bind_eq_some_iff.1 h
    cases h
    exact .sync i call hc hhg
  | matchSimTimeout =>
    obtain ⟨hid, ⟨⟩⟩ := Option.ite_none_right_eq_some.1 h
    exact .matchSimTimeout hid
  | wake i deadline =>
    simp only [step] at h
    split at h
    next call hc =>
      obtain ⟨⟨hw, -⟩, ⟨⟩⟩ := Option.ite_none_right_eq_some.1 h
      exact .wake i call deadline hc hw
    next => cases h

/-! ## The flag of a call that waits -/

@[simp] theorem setReady_calls (s : State) (flag : Flag) (ready : Bool) :
    (s.setReady flag ready).calls = s.calls := by
  cases flag <;> rfl

@[simp] theorem setReady_handling (s : State) (flag : Flag) (ready : Bool) :
    (s.setReady flag ready).handling = s.handling := by
  cases flag <;> rfl

@[simp] theorem setReady_handle (s : State) (flag : Flag) (ready : Bool) :
    (s.setReady flag ready).handle = s.handle := by
  cases flag <;> rfl

theorem ready_setReady (s : State) (flag other : Flag) (ready : Bool) :
    (s.setReady flag ready).ready other = if other = flag then ready else s.ready other := by
  cases flag <;> cases other <;> rfl

structure FlagInv (s : State) : Prop where
  handling : ∀ i, s.handling = some i → ∃ call, s.calls[i]? = some call ∧ call.answer ≠ none
  /-- only its own answer raises the flag of a call that waits -/
  ready : ∀ call ∈ s.calls, call.pc = .waiting → s.ready call.op.flag = true → call.answer ≠ none

theorem flagInv_init : FlagInv {} :=
  ⟨by simp, by simp⟩

theorem FlagInv.handling_append (h : FlagInv s) (new : Call) (i : Nat) (hi : s.handling = some i) :
    ∃ call, (s.calls ++ [new])[i]? = some call ∧ call.answer ≠ none := by
  obtain ⟨call, hc, han⟩ := h.handling i hi
  have hlt := (List.getElem?_eq_some_iff.1 hc).1
  exact ⟨call, (getElem?_append_left hlt).trans hc, han⟩

theorem FlagInv.begin (h : FlagInv s) (op : Op) (ret : Int) :
    FlagInv { s.setReady op.flag false with calls := s.calls ++ [⟨op, ret, .waiting, none⟩] } where
  handling := fun i hi => h.handling_append _ i ((setReady_handling s _ _).symm.trans hi)
  ready := by
    intro call hc hw hrd
    have hrs : (s.setReady op.flag false).ready call.op.flag := hrd
    rw [ready_setReady] at hrs
    -- the flag of the new call is down, so nobody who waits for it finds it up
    by_cases hf : call.op.flag = op.flag
    · rw [if_pos hf] at hrs
      cases hrs
    · rw [if_neg hf] at hrs
      rcases mem_concat.1 hc with ho | rfl
      · exact h.ready call ho hw hrs
      · exact absurd rfl hf

theorem FlagInv.answer (h : FlagInv s) (answer : Answer) (handle : Handle)
    (hc : s.calls[i]? = some call) :
    FlagInv { s with
      calls := s.calls.set i { call with answer := some answer }
      handle := handle
      handling := some i } where
  handling := by
    intro j hj
    cases hj
    have hlt := (List.getElem?_eq_some_iff.1 hc).1
    exact ⟨_, getElem?_set_self hlt, by simp⟩
  ready := by
    refine forall_mem_set h.ready ?_
    intro hw hr
    simp

theorem FlagInv.sync (h : FlagInv s) (hc : s.calls[i]? = some call) (hhg : s.handling = some i)
    (hk : ∀ other ∈ s.calls.eraseIdx i, other.pc = .waiting → other.op.flag ≠ call.op.flag) :
    FlagInv { s.setReady call.op.flag true with handling := none } where
  handling := fun i hi => absurd hi (by simp)
  ready := by
    intro other hot hw hrd
    rw [setReady_calls] at hot
    have hrs : (s.setReady call.op.flag true).ready other.op.flag := hrd
    obtain ⟨j, hj⟩ := getElem?_of_mem hot
    by_cases hji : j = i
    · subst hji
      obtain ⟨_, hon, han⟩ := h.handling j hhg
      cases hon.symm.trans hj
      exact han
    · have hne := hk other (mem_eraseIdx_iff_getElem?.2 ⟨j, hji, hj⟩) hw
      rw [ready_setReady, if_neg hne] at hrs
      exact h.ready other hot hw hrs

theorem FlagInv.matchSimTimeout (h : FlagInv s)
    (hk : ∀ call ∈ s.calls, call.pc = .waiting → call.op.flag ≠ .cmd) :
    FlagInv { s with responseReady := true } where
  handling := h.handling
  ready := by
    intro call hc hw hr
    have hf : call.op.flag = .unlockPin := by
      cases hop : call.op.flag with
      | cmd => exact absurd hop (hk call hc hw)
      | unlockPin => rfl
    exact h.ready call hc hw (hf ▸ hr)

theorem FlagInv.wake (h : FlagInv s) (value : Returned) (hc : s.calls[i]? = some call) :
    FlagInv { s with calls := s.calls.set i { call with pc := .returned value call.answer } } where
  handling := by
    intro j hj
    obtain ⟨own, ho, han⟩ := h.handling j hj
    by_cases hij : i = j
    · subst hij
      cases ho.symm.trans hc
      have hlt := (List.getElem?_eq_some_iff.1 hc).1
      exact ⟨_, getElem?_set_self hlt, han⟩
    · exact ⟨own, (getElem?_set_ne hij).trans ho, han⟩
  ready := by
    refine forall_mem_set h.ready ?_
    intro hw hr
    cases hw

theorem FlagInv.step (h : FlagInv s) (hk : FlagKept s l)
    (hs : StateManager.step s l = some s') : FlagInv s' := by
  cases step_cases hs with
  | invalid op ret =>
    refine ⟨h.handling_append _, ?_⟩
    refine forall_mem_concat h.ready ?_
    intro hw hr
    cases hw
  | begin op ret => exact h.begin op ret
  | answer i call answer hc => exact h.answer answer _ hc
  | sync i call hc hhg =>
    refine h.sync hc hhg ?_
    intro other ho hw
    exact hk i hhg call.op.flag (by simp [hc]) other ho hw
  | matchSimTimeout => exact h.matchSimTimeout hk
  | wake i call deadline hc => exact h.wake _ hc

/-! ## The record of a call that waits -/

/-- The error of a failed request is entered in the records of the unlocking operations only. -/
def UnlockData.Holds (data : UnlockData) : Answer → Prop
  | .lockStatus result remain => data.result = result ∧ data.remain = remain
  | .error error => data.result = error
  | _ => True

def SimAuthenticationResponse.Holds (data : SimAuthenticationResponse) : Answer → Prop
  | .iccIo sw1 sw2 response => data = ⟨sw1, sw2, response⟩
  | _ => True

def Handle.Holds (handle : Handle) (record : Record) (answer : Answer) : Prop :=
  match record with
  | .unlock => handle.unlockRespon.Holds answer
  | .simlock => handle.simlockRespon.Holds answer
  | .simAuth => handle.simAuthRespon.Holds answer
  | .simIo => handle.simIoRespon.Holds answer
  | .lockState | .cardState => True

theorem UnlockData.holds_enter (data : UnlockData) (answer : Answer) :
    (data.enter answer).Holds answer := by
  cases answer with
  | lockStatus result remain => exact ⟨rfl, rfl⟩
  | error error => rfl
  | lockState | iccIo | cardStatus => trivial

theorem SimAuthenticationResponse.holds_enter (data : SimAuthenticationResponse)
    (answer : Answer) : (data.enter answer).Holds answer := by
  cases answer with
  | iccIo sw1 sw2 response => rfl
  | lockStatus | lockState | cardStatus | error => trivial

theorem Handle.holds_enter (handle : Handle) (record : Record) (answer : Answer) :
    (handle.enter record answer).Holds record answer := by
  cases record with
  | unlock => exact handle.unlockRespon.holds_enter answer
  | simlock => exact handle.simlockRespon.holds_enter answer
  | simAuth => exact handle.simAuthRespon.holds_enter answer
  | simIo => exact handle.simIoRespon.holds_enter answer
  | lockState | cardState => trivial

/-- The lock state is no part of the record that it is a member of. -/
theorem UnlockData.Holds.enterLockState {data : UnlockData} {answer : Answer}
    (h : data.Holds answer) (entered : Answer) : (data.enterLockState entered).Holds answer := by
  cases entered with
  | lockState | error => cases answer <;> exact h
  | lockStatus | iccIo | cardStatus => exact h

theorem Handle.Holds.enter_of_ne {handle : Handle} {record other : Record} {answer : Answer}
    (h : handle.Holds record answer) (hne : record ≠ other) (entered : Answer) :
    (handle.enter other entered).Holds record answer := by
  cases other with
  | lockState =>
    cases record with
    | unlock => exact .enterLockState h entered
    | lockState | simlock | simAuth | simIo | cardState => exact h
  | unlock | simlock | simAuth | simIo =>
    cases record with
    | unlock | lockState | simlock | simAuth | simIo | cardState =>
      first
      | exact h
      | exact absurd rfl hne
  | cardState => exact h

structure RecordInv (s : State) : Prop where
  /-- an answer is of the kind of its operation -/
  accepts : ∀ call ∈ s.calls, ∀ answer, call.answer = some answer →
    call.op.record.accepts answer = true
  record : ∀ call ∈ s.calls, call.pc = .waiting → ∀ answer, call.answer = some answer →
    s.handle.Holds call.op.record answer

theorem recordInv_init : RecordInv {} :=
  ⟨by simp, by simp⟩

theorem RecordInv.append (h : RecordInv s) (s' : State) (new : Call) (ha : new.answer = none)
    (hcs : s'.calls = s.calls ++ [new]) (hh : s'.handle = s.handle) : RecordInv s' where
  accepts := by
    intro call hcl answer hs
    rw [hcs] at hcl
    rcases mem_concat.1 hcl with ho | rfl
    · exact h.accepts call ho answer hs
    · cases ha.symm.trans hs
  record := by
    intro call hcl hw answer hs
    rw [hcs] at hcl
    rw [hh]
    rcases mem_concat.1 hcl with ho | rfl
    · exact h.record call ho hw answer hs
    · cases ha.symm.trans hs

theorem RecordInv.answer (h : RecordInv s) {answer : Answer} (hac : call.op.record.accepts answer)
    (hk : ∀ other ∈ s.calls.eraseIdx i, other.pc = .waiting → other.op.record ≠ call.op.record) :
    RecordInv { s with
      calls := s.calls.set i { call with answer := some answer }
      handle := s.handle.enter call.op.record answer
      handling := some i } where
  accepts := by
    refine forall_mem_set h.accepts ?_
    intro got hg
    cases hg
    exact hac
  record := by
    intro other ho hw got hg
    rcases mem_eraseIdx_of_mem_set ho with rfl | hr
    · cases hg
      exact s.handle.holds_enter call.op.record answer
    · have hho := h.record other (mem_of_mem_eraseIdx hr) hw got hg
      exact hho.enter_of_ne (hk other hr hw) answer

theorem RecordInv.wake (h : RecordInv s) (value : Returned) (hc : s.calls[i]? = some call) :
    RecordInv { s with calls := s.calls.set i { call with pc := .returned value call.answer } } where
  accepts := forall_mem_set h.accepts (h.accepts call (mem_of_getElem? hc))
  record := by
    refine forall_mem_set h.record ?_
    intro hw answer hs
    cases hw

theorem RecordInv.step (h : RecordInv s) (hk : RecordKept s l)
    (hs : StateManager.step s l = some s') : RecordInv s' := by
  cases step_cases hs with
  | invalid op ret => exact h.append _ ⟨op, ret, .returned .argumentInvalid none, none⟩ rfl rfl rfl
  | begin op ret =>
    exact h.append _ ⟨op, ret, .waiting, none⟩ rfl rfl (setReady_handle s op.flag false)
  | answer i call answer hcl hid hn hac =>
    refine h.answer hac ?_
    intro other ho hw
    exact hk call.op.record (by simp [hcl]) other ho hw
  | sync i call =>
    have hcs := setReady_calls s call.op.flag true
    have hh := setReady_handle s call.op.flag true
    exact ⟨by simpa only [hcs] using h.accepts, by simpa only [hcs, hh] using h.record⟩
  | matchSimTimeout => exact ⟨h.accepts, h.record⟩
  | wake i call deadline hcl => exact h.wake _ hcl

end TelephonyCore.Sim.StateManager
