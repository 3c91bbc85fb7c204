import TelephonyCore.Lib.WaitingCalls

/-!
# `SimSmsController`: messages on the SIM

`UpdateSmsIcc`, `DelSmsIcc` and `AddSmsToIcc` share the flag `responseReady_`: they lower it, send
their request and return success when it is up after the wait. `ObtainAllSmsOfIcc` has a flag of its
own (`loadDone_`) and returns `smsList_`, which the answer to a read fills and nothing empties
before the next read. The answers are handled without the mutex.

A handler of a write raises `responseReady_` and then sets it to what the answer says, so that for
an answer with an error the flag is up for a moment.
-/

namespace TelephonyCore.Sim.SmsController

open Lib Lib.WaitingCalls List

inductive Cmd where
  | updateSmsIcc (index status : Int) (pduData smsc : String)
  | delSmsIcc (index : Int)
  | addSmsToIcc (status : Int) (pdu smsc : String)
  | obtainAllSmsOfIcc
deriving DecidableEq

/-- `telRilManager_` for a write, `fileManager_` and its `IccFileController` for a read. -/
inductive Link where
  | connected
  | noManager
  | noController
deriving DecidableEq

structure Op where
  cmd : Cmd
  link : Link := .connected
deriving DecidableEq

def Cmd.isRead : Cmd → Bool
  | .obtainAllSmsOfIcc => true
  | _ => false

/-- To a write a `RadioResponseInfo` or nothing; to a read a `ControllerToFileMsg`, a
`MultiRecordResult` or nothing. -/
inductive Answer where
  | response (error : Int)
  | noResponse
  | fileException
  | fileData
  | records (fileResults : List String)
  | recordsException
  | noRecords
deriving DecidableEq

def NONE : Int := 0

/-- `TELEPHONY_ERR_SUCCESS` and `CORE_ERR_SIM_CARD_UPDATE_FAILED` of a write, the list of a read. -/
inductive Value where
  | success
  | updateFailed
  | smsList (list : List String)
deriving DecidableEq

structure Mem where
  responseReady : Bool := false
  loadDone : Bool := false
  smsList : List String := []
deriving DecidableEq

inductive Write where
  | responseReady (ready : Bool)
  | loadDone
  | smsList (list : List String)
deriving DecidableEq

def Write.perform : Write → Mem → Mem
  | .responseReady ready, mem => { mem with responseReady := ready }
  | .loadDone, mem => { mem with loadDone := true }
  | .smsList list, mem => { mem with smsList := list }

/-- `UpdateSmsIcc`, `DelSmsIcc` and `AddSmsToIcc` up to their wait. -/
def startWrite (link : Link) (mem : Mem) : Mem × Option Value :=
  let mem := { mem with responseReady := false }
  match link with
  | .connected => (mem, none)
  | _ => (mem, some .updateFailed)

/-- `ObtainAllSmsOfIcc` up to its wait. -/
def startObtain (link : Link) (mem : Mem) : Mem × Option Value :=
  match link with
  | .noManager => ({ mem with smsList := [] }, some (.smsList []))
  | .noController => ({ mem with loadDone := false, smsList := [] }, some (.smsList []))
  | .connected => ({ mem with loadDone := false }, none)

/-- `ProcessUpdateDone`, `ProcessWriteDone` and `ProcessDeleteDone`. -/
def processWriteDone : Answer → List Write
  | .response error => [.responseReady true, .responseReady (error = NONE)]
  | _ => [.responseReady true]

def processLoadDone : Answer → List Write
  | .fileException => [.smsList [], .loadDone]
  | .records fileResults => [.smsList fileResults, .loadDone]
  | _ => [.loadDone]

def accepts (cmd : Cmd) : Answer → Bool
  | .response _ | .noResponse => !cmd.isRead
  | _ => cmd.isRead

def finish (cmd : Cmd) (mem : Mem) : Value :=
  if cmd.isRead then .smsList mem.smsList
  else if mem.responseReady then .success
  else .updateFailed

def protocol : Protocol Op Answer Write Mem Value where
  start op := if op.cmd.isRead then startObtain op.link else startWrite op.link
  accepts op := accepts op.cmd
  writes op := if op.cmd.isRead then processLoadDone else processWriteDone
  perform := Write.perform
  ready op mem := if op.cmd.isRead then mem.loadDone else mem.responseReady
  expire _ mem := mem
  finish op := finish op.cmd

/-! ## What a call relies on -/

def Answer.withoutError : Answer → Bool
  | .response error => error = NONE
  | _ => true

def Answer.list : Answer → Option (List String)
  | .fileException => some []
  | .records fileResults => some fileResults
  | _ => none

def answerTouches (other op : Op) : Bool := other.cmd.isRead = op.cmd.isRead

/-- A write does not return between the two writes of an answer with an error. A read returns when
its answer has filled the list, or the list is empty. -/
def wakes (op : Op) (progress : Option (Progress Answer Write)) (mem : Mem) : Bool :=
  if op.cmd.isRead then
    mem.smsList.isEmpty ||
      progress.any fun p => p.answer.list.isSome && (p.rest = [] || p.rest = [.loadDone])
  else progress.all fun p => p.rest ≠ [.responseReady false]

/-- The flag of a write is up because of its answer, which is without error, or about to be
lowered. -/
def GoodWrite (progress : Option (Progress Answer Write)) (mem : Mem) : Prop :=
  mem.responseReady = true →
    ∃ p, progress = some p ∧ (p.answer.withoutError = true ∨ p.rest = [.responseReady false])

/-- An answer that has filled the list is still there, unless the list was emptied. -/
def GoodRead (progress : Option (Progress Answer Write)) (mem : Mem) : Prop :=
  ∀ p, progress = some p → p.rest = [] ∨ p.rest = [.loadDone] → ∀ list, p.answer.list = some list →
    mem.smsList = list ∨ mem.smsList = []

def Good (op : Op) (progress : Option (Progress Answer Write)) (mem : Mem) : Prop :=
  if op.cmd.isRead then GoodRead progress mem else GoodWrite progress mem

variable {answer : Answer} {w : Write} {rest : List Write} {mem : Mem}
  {progress : Option (Progress Answer Write)} {op : Op}

theorem GoodWrite.write_own (hs : (w :: rest).IsSuffix (processWriteDone answer)) :
    GoodWrite (some ⟨answer, rest⟩) (w.perform mem) := by
  intro hup
  refine ⟨_, rfl, ?_⟩
  cases answer with
  | response error =>
    by_cases hnn : error = NONE
    · exact .inl (decide_eq_true hnn)
    · -- the flag goes up, then down
      rcases suffix_cons_iff.1 hs with heq | hs
      · cases heq
        exact .inr (by simp [hnn])
      · rcases suffix_cons_iff.1 hs with heq | hnl
        · cases heq
          exact absurd hup (by simp [Write.perform, hnn])
        · cases suffix_nil.1 hnl
  | noResponse | fileException | fileData | records | recordsException | noRecords =>
    exact .inl rfl

theorem GoodRead.write_own (hs : (w :: rest).IsSuffix (processLoadDone answer))
    (h : GoodRead (some ⟨answer, w :: rest⟩) mem) :
    GoodRead (some ⟨answer, rest⟩) (w.perform mem) := by
  intro p hp hr list hl
  cases hp
  cases answer with
  | fileException | records =>
    rcases suffix_cons_iff.1 hs with heq | hs
    · cases heq
      exact .inl (Option.some.inj hl)
    · rcases suffix_cons_iff.1 hs with heq | hn
      · cases heq
        exact h _ rfl (.inr rfl) list hl
      · cases suffix_nil.1 hn
  | response | noResponse | fileData | recordsException | noRecords =>
    exact absurd hl (by simp [Answer.list])

theorem goodRead_answer (answer : Answer) (mem : Mem) :
    GoodRead (some ⟨answer, processLoadDone answer⟩) mem := by
  intro p hp hr list hl
  cases hp
  cases answer with
  | fileException | records =>
    exact absurd hr (by simp [processLoadDone])
  | response | noResponse | fileData | recordsException | noRecords =>
    exact absurd hl (by simp [Answer.list])

theorem goodRead_start (link : Link) (h : GoodRead progress mem) :
    GoodRead progress (startObtain link mem).1 := by
  intro p hp hr list hl
  cases link with
  | connected => exact h p hp hr list hl
  | noManager | noController => exact .inr rfl

theorem mem_processWriteDone (h : w ∈ processWriteDone answer) :
    ∃ ready, w = .responseReady ready := by
  cases answer with
  | response error =>
    rcases mem_cons.1 h with rfl | h
    · exact ⟨_, rfl⟩
    · exact ⟨_, mem_singleton.1 h⟩
  | noResponse | fileException | fileData | records | recordsException | noRecords =>
    exact ⟨_, mem_singleton.1 h⟩

theorem mem_processLoadDone (h : w ∈ processLoadDone answer) :
    w = .loadDone ∨ ∃ list, w = .smsList list := by
  cases answer with
  | fileException | records =>
    rcases mem_cons.1 h with rfl | h
    · exact .inr ⟨_, rfl⟩
    · exact .inl (mem_singleton.1 h)
  | response | noResponse | fileData | recordsException | noRecords =>
    exact .inl (mem_singleton.1 h)

theorem rules : Rules answerTouches (fun _ _ => false) protocol Good where
  start_own op mem _ := by
    unfold Good protocol
    simp only
    split
    next => exact fun p hp => absurd hp (by simp)
    next =>
      intro hup
      cases hl : op.link <;> exact absurd hup (by simp [startWrite, hl])
  start_other op other progress mem h := by
    unfold Good at h ⊢
    unfold protocol
    simp only
    split at h
    next hr =>
      rw [if_pos hr]
      split
      next => exact goodRead_start other.link h
      next => cases hl : other.link <;> exact h
    next hr =>
      rw [if_neg hr]
      split
      next => cases hl : other.link <;> exact h
      next =>
        intro hup
        cases hl : other.link <;> exact absurd hup (by simp [startWrite, hl])
  answer_own op answer mem _ h := by
    unfold Good at h ⊢
    unfold protocol
    simp only
    split at h
    next hr =>
      rw [if_pos hr, if_pos hr]
      exact goodRead_answer answer mem
    next hr =>
      rw [if_neg hr]
      intro hup
      obtain ⟨p, hp, -⟩ := h hup
      cases hp
  write_own op answer w rest mem hs h := by
    unfold Good at h ⊢
    unfold protocol at hs ⊢
    simp only at hs ⊢
    split at h
    next hr =>
      rw [if_pos hr] at hs ⊢
      exact h.write_own hs
    next hr =>
      rw [if_neg hr] at hs ⊢
      exact .write_own hs
  write_other op other answer w progress mem ht hw h := by
    have hne : other.cmd.isRead ≠ op.cmd.isRead := by simpa [answerTouches] using ht
    unfold Good at h ⊢
    unfold protocol at hw ⊢
    simp only at hw ⊢
    split at h
    next hr =>
      rw [if_neg (by rw [hr] at hne; simpa using hne)] at hw
      rw [if_pos hr]
      obtain ⟨_, rfl⟩ := mem_processWriteDone hw
      exact h
    next hr =>
      rw [if_pos (by simpa [hr] using hne)] at hw
      rw [if_neg hr]
      rcases mem_processLoadDone hw with rfl | ⟨_, rfl⟩
      · exact h
      · exact h
  expire_other _ _ _ _ _ h := h

/-! ## Whose answer a call reports -/

/-- What a call reports is in the answer to its own request. -/
def Own (value : Value) (progress : Option (Progress Answer Write)) : Prop :=
  match value with
  | .success => ∃ p, progress = some p ∧ p.answer.withoutError = true
  | .updateFailed => True
  | .smsList list => list = [] ∨ ∃ rest, progress = some ⟨.records list, rest⟩

theorem Good.own (h : Good op progress mem) (hwk : wakes op progress mem) :
    Own (finish op.cmd mem) progress := by
  unfold Good at h
  unfold wakes at hwk
  unfold finish
  split at h
  next hrd =>
    rw [if_pos hrd] at hwk
    rw [if_pos hrd]
    by_cases hem : mem.smsList = []
    · exact .inl hem
    · -- the list is what the answer has filled it with
      rw [Bool.or_eq_true, List.isEmpty_iff, or_iff_right hem] at hwk
      obtain ⟨⟨answer, rest⟩, rfl, hf⟩ := (Option.any_eq_true _ _).1 hwk
      simp only [Bool.and_eq_true, Bool.or_eq_true, decide_eq_true_eq] at hf
      obtain ⟨list, hl⟩ := Option.isSome_iff_exists.1 hf.1
      have hm := (h _ rfl hf.2 list hl).resolve_right hem
      cases answer with
      | records fileResults =>
        cases hl
        exact .inr ⟨rest, by rw [hm]⟩
      | fileException => exact absurd (hm.trans (Option.some.inj hl).symm) hem
      | response | noResponse | fileData | recordsException | noRecords =>
        exact absurd hl (by simp [Answer.list])
  next hrd =>
    rw [if_neg hrd] at hwk
    rw [if_neg hrd]
    split
    next hup =>
      obtain ⟨p, rfl, her | hrs⟩ := h hup
      · exact ⟨p, rfl, her⟩
      · exact absurd hrs (by simpa using hwk)
    next => trivial

theorem own_start {value : Value} (h : (protocol.start op mem).2 = some value)
    (progress : Option (Progress Answer Write)) : Own value progress := by
  obtain ⟨_, link⟩ := op
  unfold protocol at h
  simp only at h
  split at h
  next =>
    cases link with
    | connected => exact absurd h (by simp [startObtain])
    | noManager | noController =>
      cases h
      exact .inl rfl
  next =>
    cases link with
    | connected => exact absurd h (by simp [startWrite])
    | noManager | noController =>
      cases h
      trivial

/-- A write that returns success had an answer without error to its own request; a read returns no
message, or those its own answer held. -/
theorem sms_result_own {run : List (Label Op Answer)} {s : State Op Answer Write Mem Value}
    (hkept : StepsMeet (step protocol) (Undisturbed answerTouches (fun _ _ => false) wakes)
      ⟨{}, [], none⟩ run)
    (hrun : runLabels (step protocol) ⟨{}, [], none⟩ run = some s)
    {call : Call Op Answer Write Value} (hcall : call ∈ s.calls) {value : Value}
    {progress : Option (Progress Answer Write)} (hreturned : call.pc = .returned value progress) :
    (value = .success → ∃ p, progress = some p ∧ p.answer.withoutError = true) ∧
      ∀ list, value = .smsList list → list = [] ∨ ∃ rest, progress = some ⟨.records list, rest⟩ := by
  have ho : Own value progress := by
    have hg := returned_good rules {} hkept hrun hcall hreturned
    unfold Returned at hg
    split at hg
    next =>
      obtain ⟨mem, hm, hw, ⟨-, rfl⟩ | rfl⟩ := hg
      · exact hm.own hw
      · exact hm.own hw
    next =>
      obtain ⟨mem, hs⟩ := hg
      exact own_start hs progress
  refine ⟨?_, ?_⟩
  · rintro rfl
    exact ho
  · rintro list rfl
    exact ho

/-- Each is answered while the other waits. -/
def overlapRun : List (Label Op Answer) :=
  [.call ⟨.delSmsIcc 1, .connected⟩, .call ⟨.obtainAllSmsOfIcc, .connected⟩,
    .answer 1 (.records ["0100"]), .write, .write, .write, .answer 0 (.response 0), .write, .write,
    .wake 1 false, .wake 0 false]

theorem sms_result_own_overlap :
    ∃ s call p, StepsMeet (step protocol) (Undisturbed answerTouches (fun _ _ => false) wakes)
        ⟨{}, [], none⟩ overlapRun ∧
      runLabels (step protocol) ⟨{}, [], none⟩ overlapRun = some s ∧ call ∈ s.calls ∧
      call.pc = .returned .success (some p) ∧ p.answer.withoutError = true := by
  obtain ⟨s, hk, hr, call, hm, hpc⟩ : ∃ s,
      StepsMeet (step protocol) (Undisturbed answerTouches (fun _ _ => false) wakes)
        ⟨{}, [], none⟩ overlapRun ∧
      runLabels (step protocol) ⟨{}, [], none⟩ overlapRun = some s ∧
      ∃ call ∈ s.calls, call.pc = .returned .success (some ⟨.response 0, []⟩) :=
    exists_run_meeting _ (by decide +kernel)
  obtain ⟨p, hp, he⟩ := (sms_result_own hk hr hm hpc).1 rfl
  exact ⟨s, call, p, hk, hr, hm, hp ▸ hpc, he⟩

/-- The answer to a deletion that timed out comes while an update waits, which returns success. And
a read that times out returns the message of an earlier read. -/
theorem earlier_results_reported :
    (∃ run s call, runLabels (step protocol) ⟨{}, [], none⟩ run = some s ∧ call ∈ s.calls ∧
      call.pc = .returned .success none) ∧
    ∃ run s call, runLabels (step protocol) ⟨{}, [], none⟩ run = some s ∧ call ∈ s.calls ∧
      call.pc = .returned (.smsList ["0100"]) none := by
  constructor
  · obtain ⟨s, hr, call, hm, hpc⟩ : ∃ s,
        runLabels (step protocol) ⟨{}, [], none⟩
          [.call ⟨.delSmsIcc 1, .connected⟩, .wake 0 true,
            .call ⟨.updateSmsIcc 2 1 "00" "", .connected⟩, .answer 0 (.response 0), .write, .write,
            .wake 1 false] = some s ∧
        ∃ call ∈ s.calls, call.pc = .returned .success none :=
      exists_run _ (by decide +kernel)
    exact ⟨_, s, call, hr, hm, hpc⟩
  · obtain ⟨s, hr, call, hm, hpc⟩ : ∃ s,
        runLabels (step protocol) ⟨{}, [], none⟩
          [.call ⟨.obtainAllSmsOfIcc, .connected⟩, .answer 0 (.records ["0100"]), .write, .write,
            .write, .wake 0 false, .call ⟨.obtainAllSmsOfIcc, .connected⟩, .wake 1 true] = some s ∧
        ∃ call ∈ s.calls, call.pc = .returned (.smsList ["0100"]) none :=
      exists_run _ (by decide +kernel)
    exact ⟨_, s, call, hr, hm, hpc⟩

end TelephonyCore.Sim.SmsController
