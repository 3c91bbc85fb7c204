import TelephonyCore.Phonebook.Cache
import TelephonyCore.Lib.Slots
import TelephonyCore.Lib.Transition

/-!
# `IccDiallingNumbersManager`: calls, answers and two flags

Any number of threads call the manager. A query, and the pre-load with which every write begins,
takes `queryMtx_` and `mtx_`, clears the result list, asks the cache for the file and waits for
`hasQueryEventDone_`. A write then takes `mtx_` again, lowers `hasEventDone_`, asks the cache for
the change and waits for the flag. Both waits give up `mtx_`; `queryMtx_` is held to the end of the
query.

The answers come on the event threads. A load goes from the card over the cache to the manager, a
change from the size of a record over its write to the cache and the manager; `stage` says how far
each is. `ProcessLoadDone` and the handlers of the changes take no lock: they fill the one result
list and set the one flag, whoever is waiting.

A state has no successor where the source throws or reads a null pointer.
-/

namespace TelephonyCore.Phonebook.Manager

open Codec Lib List Option

/-! ## Calls -/

def SIM_ADN : Int := 1
def SIM_FDN : Int := 2
def SIM_SDN : Int := 3

def isValidType (type : Int) : Bool := type = SIM_ADN || type = SIM_FDN || type = SIM_SDN

def getFileIdForType (fileType : Int) : FileId :=
  if fileType = SIM_ADN then ELEMENTARY_FILE_ADN
  else if fileType = SIM_FDN then ELEMENTARY_FILE_FDN
  else if fileType = SIM_SDN then ELEMENTARY_FILE_SDN
  else 0

def isValidParam (type : Int) (info : Contact) : Bool :=
  if type = SIM_FDN then !info.pin2.isEmpty else true

inductive Op where
  | query
  | preLoad
  | update
  | del
  | add
deriving DecidableEq

def Op.isWrite : Op → Bool
  | .query | .preLoad => false
  | _ => true

structure Call where
  op : Op
  type : Int
  /-- the contact of a write; the pointer may be null -/
  diallingNumber : Option Contact := none
deriving DecidableEq

inductive Outcome where
  | success
  | localPtrNull
  | noSimCard
  | argumentInvalid
  | loadFailed
  | updateFailed
deriving DecidableEq

/-- Where a call is. The points from `queryLock` to `collect` are in a query or a pre-load,
those from `writeLock` on in the rest of a write. -/
inductive Pc where
  | queryLock
  | lock
  | clearRecords
  | lowerQueryFlag
  | obtain
  | queryWait
  | collect (success : Bool)
  | writeLock
  | lowerFlag
  | writeToIcc
  | writeWait
  | writeReturn
  | returned (outcome : Outcome) (result : List Contact)
deriving DecidableEq

structure Thread where
  call : Call
  pc : Pc
deriving DecidableEq

/-- Where a call goes when its query or pre-load is over. A write goes on, whatever came
out of the pre-load. -/
def Call.loaded (call : Call) (outcome : Outcome) (list : List Contact) : Pc :=
  match call.op with
  | .query => .returned outcome list
  | .preLoad => .returned outcome []
  | _ => .writeLock

/-! ## Answers on their way -/

/-- A load is with the card, is answered to the cache, or is answered to the manager. -/
inductive LoadStage where
  | reading
  | details (list : Option (List Contact))
  | done (list : Option (List Contact))
deriving DecidableEq

structure Load where
  caller : Nat
  fileId : FileId
  stage : LoadStage
deriving DecidableEq

/-- A change waits for the size of a record, for the write, for the cache, or for the
manager. -/
inductive UpdateStage where
  | size (infor : UpdateInfor)
  | write (infor : UpdateInfor) (command : UpdateCommand)
  | change (fileId : FileId) (index : Int) (result : Except RadioError Contact)
  | done (exception : Option RadioError)

structure Update where
  caller : Nat
  stage : UpdateStage

/-! ## The machine -/

structure State where
  threads : List Thread := []
  queryMtx : Option Nat := none
  mtx : Option Nat := none
  hasQueryEventDone : Bool := false
  hasEventDone : Bool := false
  diallingNumbersList : List Contact := []
  cache : Cache := {}
  isUiccCard : Bool := false
  loads : List Load := []
  updates : List Update := []
  /-- `ProcessLoadDone` has filled the list for this call and not yet set the flag -/
  notifying : Option Nat := none
  /-- the writes that were sent to the card, by call -/
  cardWrites : List (Nat × UpdateCommand) := []
  /-- the calls whose write the card has answered without error -/
  answered : List Nat := []

def State.goto (s : State) (i : Nat) (call : Call) (pc : Pc) : State :=
  { s with threads := s.threads.set i ⟨call, pc⟩ }

def State.queryFileId (s : State) (type : Int) : FileId :=
  let fileId := getFileIdForType type
  if fileId = ELEMENTARY_FILE_ADN ∧ s.isUiccCard then ELEMENTARY_FILE_PBR else fileId

/-- The file a call loads: only a query asks whether the card is a UICC. -/
def State.loadFileId (s : State) (call : Call) : FileId :=
  if call.op = .query then s.queryFileId call.type else getFileIdForType call.type

def State.obtainAllDiallingNumberFiles (s : State) (caller : Nat) (fileId : FileId) : State :=
  let stage :=
    match s.cache.loadReadyDiallingNumbers fileId with
    | some result => .done (some result)
    | none => .reading
  { s with loads := s.loads ++ [⟨caller, fileId, stage⟩] }

/-- The index a write gives to `UpdateDiallingNumberToIcc`. -/
def Op.index (op : Op) (info : Contact) : Int := if op = .add then ADD_FLAG else info.index

def State.writeToIcc (s : State) (utf : Utf) (caller : Nat) (call : Call) (info : Contact) :
    State :=
  let fileId := getFileIdForType call.type
  let stage :=
    match s.cache.updateDiallingNumberToIcc utf fileId info (call.op.index info)
      (call.op = .del) with
    | .ok infor => .size infor
    | .error exception => .done (some exception)
  { s with updates := s.updates ++ [⟨caller, stage⟩] }

/-- `QueryIccDiallingNumbers` or `QueryIccDiallingNumbersPreLoad`. -/
def State.queryIccDiallingNumbers (s : State) (i : Nat) (call : Call)
    (hasSimCard deadline : Bool) : Pc → Option State
  | .queryLock =>
    if s.queryMtx = none then some ({ s with queryMtx := some i }.goto i call .lock) else none
  | .lock =>
    if s.mtx = none then
      if !hasSimCard then some ({ s with queryMtx := none }.goto i call (call.loaded .noSimCard []))
      else if !isValidType call.type then
        some ({ s with queryMtx := none }.goto i call (call.loaded .argumentInvalid []))
      else some ({ s with mtx := some i }.goto i call .clearRecords)
    else none
  | .clearRecords => some ({ s with diallingNumbersList := [] }.goto i call .lowerQueryFlag)
  | .lowerQueryFlag => some ({ s with hasQueryEventDone := false }.goto i call .obtain)
  | .obtain =>
    some ({ s.obtainAllDiallingNumberFiles i (s.loadFileId call) with mtx := none }.goto i call
      .queryWait)
  | .queryWait =>
    if s.mtx = none ∧ (s.hasQueryEventDone ∨ deadline) then
      some ({ s with mtx := some i }.goto i call (.collect s.hasQueryEventDone))
    else none
  | .collect success =>
    let outcome := if success then Outcome.success else .loadFailed
    some ({ s with mtx := none, queryMtx := none }.goto i call
      (call.loaded outcome s.diallingNumbersList))
  | _ => none

/-- The rest of `UpdateIccDiallingNumbers`, `DelIccDiallingNumbers` or `AddIccDiallingNumbers`. -/
def State.writeIccDiallingNumbers (s : State) (utf : Utf) (i : Nat) (call : Call)
    (hasSimCard deadline : Bool) : Pc → Option State
  | .writeLock =>
    if s.mtx = none then
      match call.diallingNumber with
      | none => some (s.goto i call (.returned .localPtrNull []))
      | some info =>
        if !hasSimCard then some (s.goto i call (.returned .noSimCard []))
        else if !isValidType call.type || !isValidParam call.type info then
          some (s.goto i call (.returned .argumentInvalid []))
        else some ({ s with mtx := some i }.goto i call .lowerFlag)
    else none
  | .lowerFlag => some ({ s with hasEventDone := false }.goto i call .writeToIcc)
  | .writeToIcc =>
    call.diallingNumber.map fun info =>
      { s.writeToIcc utf i call info with mtx := none }.goto i call .writeWait
  | .writeWait =>
    -- the loop ends when the flag is up or a wait has timed out
    if s.mtx = none ∧ (s.hasEventDone ∨ deadline) then
      some ({ s with mtx := some i }.goto i call .writeReturn)
    else none
  | .writeReturn =>
    let outcome := if s.hasEventDone then Outcome.success else .updateFailed
    some ({ s with mtx := none }.goto i call (.returned outcome []))
  | _ => none

def fillResults (diallingNumbersList listInfo : List Contact) : List Contact :=
  diallingNumbersList ++ listInfo.filter fun item => !item.isEmpty

/-- `ProcessUpdateDone`, `ProcessWriteDone` and `ProcessDeleteDone` are alike. -/
def processDone : Option RadioError → Bool
  | none => true
  | some exception => exception.error = 0

inductive SimState where
  | notPresent
  | ready
  | other
deriving DecidableEq

inductive Label where
  /-- a thread enters a call -/
  | call (call : Call)
  | caller (i : Nat) (hasSimCard deadline : Bool)
  /-- the handler has all records of a file, or an exception -/
  | allLoaded (k : Nat) (fileResults : Option (List StdString))
  /-- the USIM service answers everybody who waits for the phone book -/
  | pbrLoaded (list : List Contact) (success : Bool)
  /-- the cache takes the answer to a load -/
  | obtainDetailsDone (k : Nat)
  /-- the manager takes the answer to a load, -/
  | loadDone (k : Nat)
  /-- and sets the flag -/
  | notify
  /-- the handler has the size of the records -/
  | linearSizeDone (k : Nat) (answer : SizeAnswer)
  /-- the handler has the answer to a write -/
  | updateRecordDone (k : Nat) (exception : Option RadioError)
  /-- the cache takes the answer to a change -/
  | changeDone (k : Nat)
  /-- the manager takes the answer to a change -/
  | writeDone (k : Nat)
  | simStateChanged (state : SimState)

def State.stepLoad (s : State) (utf : Utf) : Label → Option State
  | .allLoaded k fileResults =>
    match s.loads[k]? with
    | some ⟨caller, fileId, .reading⟩ =>
      if fileId = ELEMENTARY_FILE_PBR then none
      else
        let list := fileResults.map (processDiallingNumber utf fileId)
        some { s with loads := s.loads.set k ⟨caller, fileId, .details list⟩ }
    | _ => none
  | .pbrLoaded list success =>
    some { s with
      loads := s.loads.map fun load =>
        if load.fileId = ELEMENTARY_FILE_PBR ∧ load.stage = .reading then
          { load with stage := .details (some list) }
        else load
      cache := { s.cache with
        isLoadDiallingNumSuccess := s.cache.isLoadDiallingNumSuccess && success } }
  | .obtainDetailsDone k =>
    match s.loads[k]? with
    | some ⟨caller, fileId, .details list⟩ =>
      some { s with
        loads := s.loads.set k ⟨caller, fileId, .done list⟩
        cache :=
          if fileId = ELEMENTARY_FILE_PBR then s.cache.processObtainPbrDetailsDone fileId list
          else s.cache.processObtainAdnDetailsDone fileId list }
    | _ => none
  | .loadDone k =>
    if s.notifying = none then
      match s.loads[k]? with
      | some ⟨caller, _, .done list⟩ =>
        some { s with
          loads := s.loads.eraseIdx k
          diallingNumbersList := fillResults s.diallingNumbersList (list.getD [])
          notifying := some caller }
      | _ => none
    else none
  | .notify =>
    if s.notifying = none then none
    else some { s with notifying := none, hasQueryEventDone := true }
  | _ => none

def State.stepUpdate (s : State) (utf : Utf) : Label → Option State
  | .linearSizeDone k answer =>
    match s.updates[k]? with
    | some ⟨caller, .size infor⟩ =>
      match processLinearSizeDone utf infor answer with
      | .ok (infor, command) =>
        some { s with
          updates := s.updates.set k ⟨caller, .write infor command⟩
          cardWrites := s.cardWrites ++ [(caller, command)] }
      | .error exception =>
        some { s with
          updates := s.updates.set k
            ⟨caller, .change infor.fileId infor.index (.error exception)⟩ }
    | _ => none
  | .updateRecordDone k exception =>
    match s.updates[k]? with
    | some ⟨caller, .write infor _⟩ =>
      some { s with
        updates := s.updates.set k
          ⟨caller, .change infor.fileId infor.index (processUpdateRecordDone infor exception)⟩
        answered := if exception = none then s.answered ++ [caller] else s.answered }
    | _ => none
  | .changeDone k =>
    match s.updates[k]? with
    | some ⟨caller, .change fileId index result⟩ =>
      (s.cache.processChangeDiallingNumbersDone fileId index result).map fun cache =>
        let exception :=
          match result with
          | .ok _ => none
          | .error exception => some exception
        { s with cache, updates := s.updates.set k ⟨caller, .done exception⟩ }
    | _ => none
  | .writeDone k =>
    if s.notifying = none then
      match s.updates[k]? with
      | some ⟨_, .done exception⟩ =>
        some { s with
          updates := s.updates.eraseIdx k
          hasEventDone := processDone exception }
      | _ => none
    else none
  | _ => none

/-- A card that is ready is queried on a thread of its own. -/
def State.processSimStateChanged (s : State) : SimState → State
  | .notPresent => { s with cache := s.cache.clearDiallingNumberCache }
  | .ready => { s with threads := s.threads ++ [⟨{ op := .query, type := SIM_ADN }, .queryLock⟩] }
  | .other => s

def step (utf : Utf) (s : State) : Label → Option State
  | .call call => some { s with threads := s.threads ++ [⟨call, .queryLock⟩] }
  | .caller i hasSimCard deadline =>
    match s.threads[i]? with
    | none => none
    | some ⟨call, pc⟩ =>
      (s.queryIccDiallingNumbers i call hasSimCard deadline pc).or
        (s.writeIccDiallingNumbers utf i call hasSimCard deadline pc)
  | .simStateChanged state =>
    if s.notifying = none then some (s.processSimStateChanged state) else none
  | l => (s.stepLoad utf l).or (s.stepUpdate utf l)

/-! ## What a call can do -/

/-- The points at which a call holds `queryMtx_`. -/
@[simp] def Pc.inQuery : Pc → Bool
  | .lock | .clearRecords | .lowerQueryFlag | .obtain | .queryWait | .collect _ => true
  | _ => false

/-- The points of a write behind its pre-load. -/
@[simp] def Pc.inWrite : Pc → Bool
  | .writeLock | .lowerFlag | .writeToIcc | .writeWait | .writeReturn => true
  | _ => false

/-- The points of a write behind the lowering of `hasEventDone_`. -/
@[simp] def Pc.flagLowered : Pc → Bool
  | .writeToIcc | .writeWait | .writeReturn => true
  | _ => false

inductive LoadStep (utf : Utf) (s : State) : Label → State → Prop where
  | allLoaded {k caller : Nat} {fileId : FileId} (fileResults : Option (List StdString))
      (hload : s.loads[k]? = some ⟨caller, fileId, .reading⟩)
      (hfile : fileId ≠ ELEMENTARY_FILE_PBR) :
      LoadStep utf s (.allLoaded k fileResults)
        { s with
          loads := s.loads.set k
            ⟨caller, fileId, .details (fileResults.map (processDiallingNumber utf fileId))⟩ }
  | pbrLoaded (list : List Contact) (success : Bool) :
      LoadStep utf s (.pbrLoaded list success)
        { s with
          loads := s.loads.map fun load =>
            if load.fileId = ELEMENTARY_FILE_PBR ∧ load.stage = .reading then
              { load with stage := .details (some list) }
            else load
          cache := { s.cache with
            isLoadDiallingNumSuccess := s.cache.isLoadDiallingNumSuccess && success } }
  | details {k caller : Nat} {fileId : FileId} {list : Option (List Contact)}
      (hload : s.loads[k]? = some ⟨caller, fileId, .details list⟩) :
      LoadStep utf s (.obtainDetailsDone k)
        { s with
          loads := s.loads.set k ⟨caller, fileId, .done list⟩
          cache :=
            if fileId = ELEMENTARY_FILE_PBR then s.cache.processObtainPbrDetailsDone fileId list
            else s.cache.processObtainAdnDetailsDone fileId list }
  | fill {k caller : Nat} {fileId : FileId} {list : Option (List Contact)}
      (hload : s.loads[k]? = some ⟨caller, fileId, .done list⟩) (hfree : s.notifying = none) :
      LoadStep utf s (.loadDone k)
        { s with
          loads := s.loads.eraseIdx k
          diallingNumbersList := fillResults s.diallingNumbersList (list.getD [])
          notifying := some caller }
  | notify {caller : Nat} (hfilled : s.notifying = some caller) :
      LoadStep utf s .notify { s with notifying := none, hasQueryEventDone := true }

inductive UpdateStep (utf : Utf) (s : State) : Label → State → Prop where
  | written {k caller : Nat} {infor infor' : UpdateInfor} {command : UpdateCommand}
      {answer : SizeAnswer} (hupdate : s.updates[k]? = some ⟨caller, .size infor⟩)
      (hok : processLinearSizeDone utf infor answer = .ok (infor', command)) :
      UpdateStep utf s (.linearSizeDone k answer)
        { s with
          updates := s.updates.set k ⟨caller, .write infor' command⟩
          cardWrites := s.cardWrites ++ [(caller, command)] }
  | refused {k caller : Nat} {infor : UpdateInfor} {answer : SizeAnswer} (exception : RadioError)
      (hupdate : s.updates[k]? = some ⟨caller, .size infor⟩) :
      UpdateStep utf s (.linearSizeDone k answer)
        { s with
          updates := s.updates.set k
            ⟨caller, .change infor.fileId infor.index (.error exception)⟩ }
  | answered {k caller : Nat} {infor : UpdateInfor} {command : UpdateCommand}
      (exception : Option RadioError)
      (hupdate : s.updates[k]? = some ⟨caller, .write infor command⟩) :
      UpdateStep utf s (.updateRecordDone k exception)
        { s with
          updates := s.updates.set k
            ⟨caller, .change infor.fileId infor.index (processUpdateRecordDone infor exception)⟩
          answered := if exception = none then s.answered ++ [caller] else s.answered }
  | changed {k caller : Nat} {fileId : FileId} {index : Int} {contact : Contact} {cache : Cache}
      (hupdate : s.updates[k]? = some ⟨caller, .change fileId index (.ok contact)⟩)
      (hcache : s.cache.processChangeDiallingNumbersDone fileId index (.ok contact) = some cache) :
      UpdateStep utf s (.changeDone k)
        { s with cache, updates := s.updates.set k ⟨caller, .done none⟩ }
  | failed {k caller : Nat} {fileId : FileId} {index : Int} {exception : RadioError}
      (hupdate : s.updates[k]? = some ⟨caller, .change fileId index (.error exception)⟩) :
      UpdateStep utf s (.changeDone k)
        { s with updates := s.updates.set k ⟨caller, .done (some exception)⟩ }
  | done {k caller : Nat} {exception : Option RadioError}
      (hupdate : s.updates[k]? = some ⟨caller, .done exception⟩) :
      UpdateStep utf s (.writeDone k)
        { s with updates := s.updates.eraseIdx k, hasEventDone := processDone exception }

inductive Step (utf : Utf) (s : State) : Label → State → Prop where
  | call (call : Call) :
      Step utf s (.call call) { s with threads := s.threads ++ [⟨call, .queryLock⟩] }
  | query {i : Nat} {hasSimCard deadline : Bool} {call : Call} {pc : Pc} {s' : State}
      (hthread : s.threads[i]? = some ⟨call, pc⟩)
      (hstep : s.queryIccDiallingNumbers i call hasSimCard deadline pc = some s') :
      Step utf s (.caller i hasSimCard deadline) s'
  | write {i : Nat} {hasSimCard deadline : Bool} {call : Call} {pc : Pc} {s' : State}
      (hthread : s.threads[i]? = some ⟨call, pc⟩)
      (hstep : s.writeIccDiallingNumbers utf i call hasSimCard deadline pc = some s') :
      Step utf s (.caller i hasSimCard deadline) s'
  | simState (state : SimState) :
      Step utf s (.simStateChanged state) (s.processSimStateChanged state)
  | load {l : Label} {s' : State} (hstep : LoadStep utf s l s') : Step utf s l s'
  | update {l : Label} {s' : State} (hstep : UpdateStep utf s l s') : Step utf s l s'

variable {s s' : State}
  {utf : Utf} {l : Label} {pc : Pc} {i j : Nat} {call : Call} {threads : List Thread}
  {thread : Thread}

theorem stepLoad_cases (hs : s.stepLoad utf l = some s') : LoadStep utf s l s' := by
  cases l with
  | allLoaded k fileResults =>
    rw [State.stepLoad] at hs
    split at hs
    next caller fileId hl =>
      obtain ⟨hfl, ⟨⟩⟩ := ite_none_left_eq_some.1 hs
      exact .allLoaded fileResults hl hfl
    next => cases hs
  | pbrLoaded list success =>
    cases hs
    exact .pbrLoaded list success
  | obtainDetailsDone k =>
    rw [State.stepLoad] at hs
    split at hs
    next hl =>
      cases hs
      exact .details hl
    next => cases hs
  | loadDone k =>
    obtain ⟨hfr, hs⟩ := ite_none_right_eq_some.1 hs
    split at hs
    next hl =>
      cases hs
      exact .fill hl hfr
    next => cases hs
  | notify =>
    obtain ⟨hfi, ⟨⟩⟩ := ite_none_left_eq_some.1 hs
    obtain ⟨caller, hc⟩ := ne_none_iff_exists'.1 hfi
    exact .notify hc
  | _ => exact absurd hs (by simp [State.stepLoad])

theorem stepUpdate_cases (hs : s.stepUpdate utf l = some s') : UpdateStep utf s l s' := by
  cases l with
  | linearSizeDone k answer =>
    rw [State.stepUpdate] at hs
    split at hs
    next hu =>
      split at hs
      next hok =>
        cases hs
        exact .written hu hok
      next exception _ =>
        cases hs
        exact .refused exception hu
    next => cases hs
  | updateRecordDone k exception =>
    rw [State.stepUpdate] at hs
    split at hs
    next hu =>
      cases hs
      exact .answered exception hu
    next => cases hs
  | changeDone k =>
    rw [State.stepUpdate] at hs
    split at hs
    next caller fileId index result hu =>
      obtain ⟨_, hca, rfl⟩ := map_eq_some_iff.1 hs
      cases result with
      | ok contact => exact .changed hu hca
      | error exception =>
        cases hca
        exact .failed hu
    next => cases hs
  | writeDone k =>
    obtain ⟨_, hs⟩ := ite_none_right_eq_some.1 hs
    split at hs
    next hu =>
      cases hs
      exact .done hu
    next => cases hs
  | _ => exact absurd hs (by simp [State.stepUpdate])

theorem step_cases (hs : step utf s l = some s') : Step utf s l s' := by
  have hev : (s.stepLoad utf l).or (s.stepUpdate utf l) = some s' → Step utf s l s' := by
    intro h
    rcases or_eq_some_iff.1 h with hl | ⟨_, hu⟩
    · exact .load (stepLoad_cases hl)
    · exact .update (stepUpdate_cases hu)
  cases l with
  | call call =>
    cases hs
    exact .call call
  | caller i hasSimCard deadline =>
    rw [step] at hs
    split at hs
    next => cases hs
    next call pc hth =>
      rcases or_eq_some_iff.1 hs with hqy | ⟨_, hwr⟩
      · exact .query hth hqy
      · exact .write hth hwr
  | simStateChanged state =>
    obtain ⟨_, ⟨⟩⟩ := ite_none_right_eq_some.1 hs
    exact .simState state
  | _ => exact hev hs

structure Call.Queried (call : Call) (pc : Pc) : Prop where
  flag : ¬ pc.flagLowered
  write : pc.inWrite → call.op.isWrite
  returned : call.op.isWrite → ∀ outcome list, pc ≠ .returned outcome list

theorem Call.queried_loaded (call : Call) (outcome : Outcome) (list : List Contact) :
    call.Queried (call.loaded outcome list) := by
  rw [Call.loaded]
  constructor
  all_goals cases call.op <;> simp [Op.isWrite]

theorem Call.queried_of_inQuery (call : Call) (hpc : pc.inQuery) : call.Queried pc := by
  constructor
  all_goals cases pc <;> simp_all

/-- It touches nothing that a change uses. -/
structure QueryFrame (s s' : State) (i : Nat) (call : Call) : Prop where
  hasEventDone : s'.hasEventDone = s.hasEventDone
  cache : s'.cache = s.cache
  updates : s'.updates = s.updates
  cardWrites : s'.cardWrites = s.cardWrites
  answered : s'.answered = s.answered
  thread : ∃ pc, s'.threads = s.threads.set i ⟨call, pc⟩ ∧ call.Queried pc

variable {hasSimCard deadline : Bool}

theorem queryFrame (hs : s.queryIccDiallingNumbers i call hasSimCard deadline pc = some s') :
    QueryFrame s s' i call := by
  cases pc with
  | queryLock | queryWait =>
    obtain ⟨_, ⟨⟩⟩ := ite_none_right_eq_some.1 hs
    exact ⟨rfl, rfl, rfl, rfl, rfl, _, rfl, call.queried_of_inQuery rfl⟩
  | lock =>
    obtain ⟨_, hs⟩ := ite_none_right_eq_some.1 hs
    split at hs
    · cases hs
      exact ⟨rfl, rfl, rfl, rfl, rfl, _, rfl, call.queried_loaded ..⟩
    · split at hs
      · cases hs
        exact ⟨rfl, rfl, rfl, rfl, rfl, _, rfl, call.queried_loaded ..⟩
      · cases hs
        exact ⟨rfl, rfl, rfl, rfl, rfl, _, rfl, call.queried_of_inQuery rfl⟩
  | clearRecords | lowerQueryFlag | obtain =>
    cases hs
    exact ⟨rfl, rfl, rfl, rfl, rfl, _, rfl, call.queried_of_inQuery rfl⟩
  | collect success =>
    cases hs
    exact ⟨rfl, rfl, rfl, rfl, rfl, _, rfl, call.queried_loaded ..⟩
  | _ => exact absurd hs (by simp [State.queryIccDiallingNumbers])

theorem writeLock_cases
    (hs : s.writeIccDiallingNumbers utf i call hasSimCard deadline .writeLock = some s') :
    s' = { s with mtx := some i }.goto i call .lowerFlag ∨
      ∃ outcome, outcome ≠ .success ∧ s' = s.goto i call (.returned outcome []) := by
  obtain ⟨_, hs⟩ := ite_none_right_eq_some.1 hs
  split at hs
  · exact .inr ⟨.localPtrNull, by simp, (some.inj hs).symm⟩
  · split at hs
    · exact .inr ⟨.noSimCard, by simp, (some.inj hs).symm⟩
    · split at hs
      · exact .inr ⟨.argumentInvalid, by simp, (some.inj hs).symm⟩
      · exact .inl (some.inj hs).symm

/-- Whatever the checks say, the call neither has lowered the flag nor succeeds. -/
theorem writeLock_step
    (hs : s.writeIccDiallingNumbers utf i call hasSimCard deadline .writeLock = some s') :
    ∃ mtx pc, s' = { s with mtx }.goto i call pc ∧ ¬ pc.flagLowered ∧
      ∀ list, pc ≠ .returned .success list := by
  rcases writeLock_cases hs with rfl | ⟨_, hf, rfl⟩
  · exact ⟨some i, _, rfl, by simp⟩
  · exact ⟨s.mtx, _, rfl, by simpa using hf⟩

/-- It adds at most a change, which nothing was done for yet. -/
structure WriteFrame (s s' : State) : Prop where
  cardWrites : s'.cardWrites = s.cardWrites
  answered : s'.answered = s.answered
  updates : ∀ update ∈ s'.updates, update ∈ s.updates ∨
    (∃ infor, update.stage = .size infor) ∨ ∃ exception, update.stage = .done (some exception)

theorem writeFrame (hst : s.writeIccDiallingNumbers utf i call hasSimCard deadline pc = some s') :
    WriteFrame s s' := by
  have hsm : ∀ {mtx : Option Nat} {hasEventDone : Bool} {pc' : Pc},
      WriteFrame s ({ s with mtx, hasEventDone }.goto i call pc') :=
    ⟨rfl, rfl, fun _ hm => .inl hm⟩
  cases pc with
  | writeLock =>
    obtain ⟨mtx, pc', rfl, _⟩ := writeLock_step hst
    exact hsm
  | lowerFlag | writeReturn =>
    cases hst
    exact hsm
  | writeToIcc =>
    obtain ⟨_, _, rfl⟩ := map_eq_some_iff.1 hst
    refine ⟨rfl, rfl, ?_⟩
    intro update hm
    refine (mem_append.1 hm).imp id (fun hn => ?_)
    rw [mem_singleton.1 hn]
    split
    next infor _ => exact .inl ⟨infor, rfl⟩
    next exception _ => exact .inr ⟨exception, rfl⟩
  | writeWait =>
    obtain ⟨_, ⟨⟩⟩ := ite_none_right_eq_some.1 hst
    exact hsm
  | _ => exact absurd hst (by simp [State.writeIccDiallingNumbers])

theorem threads_set {moved : Thread} (h : (threads.set i moved)[j]? = some thread) :
    (j = i ∧ thread = moved) ∨ (j ≠ i ∧ threads[j]? = some thread) := by
  by_cases hij : j = i
  · subst hij
    rw [getElem?_set_self'] at h
    obtain ⟨_, _, rfl⟩ := map_eq_some_iff.1 h
    exact .inl ⟨rfl, rfl⟩
  · rw [getElem?_set_ne (.symm hij)] at h
    exact .inr ⟨hij, h⟩

theorem threads_append (h : (threads ++ [⟨call, .queryLock⟩])[j]? = some thread) :
    thread = ⟨call, .queryLock⟩ ∨ threads[j]? = some thread := by
  by_cases hj : j < threads.length
  · rw [getElem?_append_left hj] at h
    exact .inr h
  · rw [getElem?_append_right (by omega), getElem?_singleton] at h
    obtain ⟨_, hth⟩ := ite_none_right_eq_some.1 h
    exact .inl (some.inj hth).symm

/-! ## Runs on small inputs -/

def emptyRecord : StdString := List.replicate 34 70

def contactAnn : Contact := { name := widen (ascii "Ann"), number := widen (ascii "123") }
def contactBob : Contact := { name := widen (ascii "Bob"), number := widen (ascii "456") }

/-- Call `i` takes `n` steps, with a card in the slot and in time. -/
def steps (i n : Nat) : List Label := List.replicate n (.caller i true false)

/-- The file has two empty records. -/
def firstLoad : List Label :=
  [.allLoaded 0 (some [emptyRecord, emptyRecord]), .obtainDetailsDone 0, .loadDone 0, .notify]

end TelephonyCore.Phonebook.Manager
