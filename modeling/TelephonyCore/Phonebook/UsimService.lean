import TelephonyCore.Phonebook.LoadRequests

/-!
# `UsimDiallingNumbersService`: loading the phone book of a USIM

The reference file PBR lists the files of the phone book, one set of files a record. A load reads it
and then goes through its records: the ADN file, the ANR file, and the IAP file where the ANR
numbers are found through it. A load is a chain of events that ends in `SendBackResult`, which
answers all callers.

`ObtainUsimElementaryFiles` puts a caller into the list and, in a second section of the mutex,
starts a load unless one is running. The event handler works without the mutex until
`SendBackResult`. `isLoadDiallingNumSuccess_` is one flag for all loads; `IccDiallingNumbersCache`
reads it with a result and sets it back. Every message carries, for the statements only, whether its
load has set the flag (`failed`).
-/

namespace TelephonyCore.Phonebook.Usim

open Codec Lib
open Phonebook.LoadRequests (extensionBCDConvertToString MAX_EXT_BCD_LENGTH)

/-! ## The phone book from its files -/

def MAX_RETRANSMIT_COUNT : Nat := 1
def TYPE1_FLAG : Nat := 168
def TYPE2_FLAG : Nat := 169
def MIN_ANR_RECORD_LENGTH_BYTES : Nat := 15
def INVALID_SIM_BYTE_VALUE : UInt8 := 0xff
def NUMBER_SPLIT : U16String := widen (ascii ";")

inductive Tag where
  | adn
  | iap
  | ext1
  | anr
deriving DecidableEq

/-- A record of the PBR file. -/
structure UsimDiallingNumberFile where
  fileIds : Tag → Option FileId
  /-- 0 where the map has no entry -/
  tagIndex : Tag → Nat := fun _ => 0
  parentTag : Tag → Nat := fun _ => 0

def fetchAnrContent (utf : Utf) (recordData : StdString) : U16String :=
  match hexStringConvertToBytes recordData with
  | none => []
  | some data =>
    if data.length < MIN_ANR_RECORD_LENGTH_BYTES then []
    else
      let length := min (data.getD 1 0).toNat MAX_EXT_BCD_LENGTH
      utf.str8ToStr16 (extensionBCDConvertToString data data.length 3 length)

def fetchIapContent (recordData : StdString) : List UInt8 :=
  (hexStringConvertToBytes recordData).getD []

def mergeNumber (adn : Contact) (anr : U16String) : Contact :=
  if anr.isEmpty then adn else { adn with number := adn.number ++ NUMBER_SPLIT ++ anr }

def mergeNumbers (adn : List Contact) (anr : List U16String) : List Contact :=
  adn.mapIdx fun i contact => mergeNumber contact (anr.getD i [])

/-- A 0 is an index beyond every file. -/
def anrOfIap (anrList : List U16String) (anrIndexOfIap : Nat) (mapping : List UInt8) :
    Option U16String := do
  let entry ← mapping[anrIndexOfIap]?
  if entry = INVALID_SIM_BYTE_VALUE ∨ entry = 0 then none else anrList[entry.toNat - 1]?

structure Files where
  adns : FileId → Option (List Contact) := fun _ => none
  anrs : FileId → Option (List U16String) := fun _ => none
  iaps : FileId → Option (List (List UInt8)) := fun _ => none

/-- The loop body of `ProcessQueryDone`: the contacts of the ADN file, as it leaves them, and
whether they go into the result. -/
def Files.assemble (files : Files) (pbr : UsimDiallingNumberFile) :
    Option (FileId × List Contact × Bool) := do
  let adn ← pbr.fileIds .adn
  let adnList ← files.adns adn
  match (pbr.fileIds .anr).bind files.anrs with
  | none => some (adn, adnList, true)
  | some anrList =>
    if pbr.parentTag .anr = TYPE1_FLAG then some (adn, mergeNumbers adnList anrList, true)
    else
      match (pbr.fileIds .iap).bind files.iaps with
      | none => some (adn, adnList, true)
      | some iapList =>
        if iapList.length ≠ adnList.length then some (adn, adnList, false)
        else
          some (adn, List.zipWith (fun contact mapping =>
            match anrOfIap anrList (pbr.tagIndex .anr) mapping with
            | none => contact
            | some anr => mergeNumber contact anr) adnList iapList, true)

/-- The result holds pointers to the contacts, so that it shows them as they are after the last
record. -/
def Files.processQueryDone (files : Files) (pbrFiles : List UsimDiallingNumberFile) :
    List Contact :=
  let assembled := pbrFiles.foldl (fun (files, order) pbr =>
    match files.assemble pbr with
    | none => (files, order)
    | some (adn, adnList, included) =>
      ({ files with adns := Function.update files.adns adn (some adnList) },
        if included then order ++ [adn] else order)) (files, ([] : List FileId))
  assembled.2.flatMap fun adn => (assembled.1.adns adn).getD []

/-! ## The event handler -/

structure Service where
  /-- whether the pointer is not null -/
  fileController : Bool := false
  diallingNumbersHandler : Bool := false
  pbrFiles : List UsimDiallingNumberFile := []
  isProcessingPbr : Bool := false
  files : Files := {}
  currentIndex : Nat := 0
  reLoadNum : Nat := 0

/-- What the service waits for: the answer to a request, or an event of `NextStep`. -/
inductive Request where
  | pbr
  | adn (fileId extFileId : FileId)
  | anr (fileId : FileId)
  | iap (fileId : FileId)
  | nextAdn
  | nextAnr
  | nextIap
deriving DecidableEq

/-- None of the expected type, the records of the PBR file (read), the result of
`IccDiallingNumbersHandler`, or the records of another file. -/
inductive Answer where
  | null
  | pbrRecords (exception : Bool) (pbrFiles : List UsimDiallingNumberFile)
  | numbers (exception : Option RadioError) (result : Option (List Contact))
  | records (fileResults : List StdString)

def Request.isAdn : Request → Bool
  | .adn _ _ => true
  | _ => false

def Request.accepts : Request → Answer → Bool
  | _, .null => true
  | .pbr, .pbrRecords _ _ => true
  | .adn _ _, .numbers _ _ => true
  | .anr _, .records _ | .iap _, .records _ => true
  | _, _ => false

inductive Next where
  | send (request : Request)
  | sendBackResult (diallingnumbers : List Contact)
  /-- nothing more -/
  | ends
deriving DecidableEq

structure Outcome where
  service : Service
  next : Next
  /-- `isLoadDiallingNumSuccess_` is set to false -/
  fails : Bool := false

namespace Service

variable (service : Service)

/-- An identifier of a file is not negative. -/
def loadDiallingNumberFiles (recId : Nat) : Outcome :=
  match service.pbrFiles[recId]? with
  | none =>
    { service, next := .sendBackResult (service.files.processQueryDone service.pbrFiles) }
  | some pbr =>
    match pbr.fileIds .ext1, pbr.fileIds .adn with
    | some extEf, some efId =>
      if service.diallingNumbersHandler then { service, next := .send (.adn efId extEf) }
      else { service, next := .send .nextAdn, fails := true }
    | _, _ => { service, next := .send .nextAdn, fails := true }

def loadDiallingNumber2Files (recId : Nat) : Outcome :=
  match service.pbrFiles[recId]?.bind (·.fileIds .anr), service.fileController with
  | some anr, true => { service, next := .send (.anr anr) }
  | _, _ => { service, next := .send .nextAnr }

def loadIapFiles (recId : Nat) : Outcome :=
  match service.pbrFiles[recId]?.bind (·.fileIds .iap), service.fileController with
  | some iap, true => { service, next := .send (.iap iap) }
  | _, _ => { service, next := .send .nextIap }

def startLoadByPbrFiles : Outcome :=
  if service.pbrFiles.isEmpty then { service, next := .sendBackResult [], fails := true }
  else { service with currentIndex := 0 }.loadDiallingNumberFiles 0

def reLoadPbrFile : Outcome :=
  let service := { service with reLoadNum := service.reLoadNum + 1 }
  if service.fileController then { service, next := .send .pbr }
  else { service := { service with isProcessingPbr := false }, next := .ends }

/-- `none` where `at` throws or the handler is null. -/
def reLoadAdnFile (recId : Nat) : Option Outcome :=
  let service := { service with reLoadNum := service.reLoadNum + 1 }
  match service.pbrFiles[recId]? with
  | none => some { service, next := .ends }
  | some pbr => do
    let extEf ← pbr.fileIds .ext1
    let efId ← pbr.fileIds .adn
    if service.diallingNumbersHandler then some { service, next := .send (.adn efId extEf) }
    else none

def processPbrLoadDone : Answer → Outcome
  | .pbrRecords exception pbrFiles =>
    if exception then service.startLoadByPbrFiles
    else { service with reLoadNum := 0, pbrFiles }.startLoadByPbrFiles
  | _ =>
    if service.reLoadNum < MAX_RETRANSMIT_COUNT then service.reLoadPbrFile
    else
      { service := { service with isProcessingPbr := false }
        next := .sendBackResult []
        fails := true }

def setAdn (fileId : FileId) (list : List Contact) : Service :=
  { service with
    files := { service.files with
      adns := Function.update service.files.adns fileId (some list) } }

def skipAdn : Outcome :=
  { service.loadDiallingNumber2Files service.currentIndex with fails := true }

/-- `fileId` is the one of the result. -/
def processDiallingNumberLoadDone (fileId : FileId) : Answer → Option Outcome
  | .numbers (some _) _ =>
    let service := service.setAdn fileId []
    if service.reLoadNum < MAX_RETRANSMIT_COUNT then service.reLoadAdnFile service.currentIndex
    else some service.skipAdn
  | .numbers none none => some (service.setAdn fileId []).skipAdn
  | .numbers none (some list) =>
    let service := { service.setAdn fileId list with reLoadNum := 0 }
    some (service.loadDiallingNumber2Files service.currentIndex)
  | _ => some service.skipAdn

/-- The last lines of `ProcessDiallingNumber2LoadDone` and `ProcessIapLoadDone`. -/
def nextRecord : Outcome :=
  let service := { service with currentIndex := service.currentIndex + 1 }
  service.loadDiallingNumberFiles service.currentIndex

/-- The parameter of the event is the file for a list of records, and 0 otherwise; `none` where
`pbrFiles_` is read beyond its end. -/
def processDiallingNumber2LoadDone (utf : Utf) (fileId : FileId) (answer : Answer) :
    Option Outcome :=
  let anrs :=
    match answer with
    | .records fileResults =>
      Function.update service.files.anrs fileId (some (fileResults.map (fetchAnrContent utf)))
    | _ => Function.update service.files.anrs 0 (some [])
  let service := { service with files := { service.files with anrs } }
  match service.pbrFiles[service.currentIndex]? with
  | none => none
  | some pbr =>
    some (if pbr.parentTag .anr = TYPE2_FLAG then service.loadIapFiles service.currentIndex
      else service.nextRecord)

def processIapLoadDone (fileId : FileId) (answer : Answer) : Outcome :=
  let iaps :=
    match answer with
    | .records fileResults =>
      Function.update service.files.iaps fileId (some (fileResults.map fetchIapContent))
    | _ => Function.update service.files.iaps 0 (some [])
  { service with files := { service.files with iaps } }.nextRecord

/-- `memberFuncMap_` -/
def memberFunc (utf : Utf) (request : Request) (answer : Answer) : Option Outcome :=
  match request with
  | .pbr => some (service.processPbrLoadDone answer)
  | .adn fileId _ => service.processDiallingNumberLoadDone fileId answer
  | .nextAdn => service.processDiallingNumberLoadDone 0 .null
  | .anr fileId => service.processDiallingNumber2LoadDone utf fileId answer
  | .nextAnr => service.processDiallingNumber2LoadDone utf 0 .null
  | .iap fileId => some (service.processIapLoadDone fileId answer)
  | .nextIap => some (service.processIapLoadDone 0 .null)

end Service

/-! ## The machine -/

structure Pending where
  request : Request
  failed : Bool
deriving DecidableEq

/-- `SendBackResult` is about to be called. -/
structure Sending where
  diallingnumbers : List Contact
  failed : Bool
deriving DecidableEq

structure Result (Caller : Type) where
  caller : Caller
  diallingnumbers : List Contact
  failed : Bool
deriving DecidableEq

structure State (Caller : Type) where
  service : Service := {}
  callers : List Caller := []
  /-- calls between the two sections of `ObtainUsimElementaryFiles` -/
  pushed : Nat := 0
  outstanding : List Pending := []
  sending : Option Sending := none
  sent : List Caller := []
  /-- the events of the results, in the queue of the cache -/
  results : List (Result Caller) := []
  cache : Cache := {}
  /-- the list in the cache is of a load that has failed -/
  pbrFailed : Bool := false

inductive Label (Caller : Type) where
  | setFileControllerAndDiallingNumberHandler (ctrl handler : Bool)
  /-- the first section of `ObtainUsimElementaryFiles` -/
  | obtainUsimElementaryFiles (caller : Caller)
  | loadPbrFiles
  /-- the event handler takes the answer to a request -/
  | event (k : Nat) (answer : Answer)
  /-- `IccDiallingNumbersHandler` drops the load of an ADN file: its own file controller is null, the
  answer of the card has no object, or the event for the service has none -/
  | drop (k : Nat)
  | sendBackResult
  /-- the cache takes a result -/
  | processObtainPbrDetailsDone
  | clearDiallingNumberCache

variable {Caller : Type}

namespace State

variable (s : State Caller)

def loadPbrFiles : State Caller :=
  if s.service.isProcessingPbr then s
  else
    { s with
      service := { s.service with isProcessingPbr := true }
      outstanding :=
        if s.service.fileController then s.outstanding ++ [⟨.pbr, false⟩] else s.outstanding }

def resume (outcome : Outcome) (failed : Bool) : State Caller :=
  let failed := failed || outcome.fails
  let s :=
    { s with
      service := outcome.service
      cache := { s.cache with
        isLoadDiallingNumSuccess := s.cache.isLoadDiallingNumSuccess && !outcome.fails } }
  match outcome.next with
  | .send request => { s with outstanding := s.outstanding ++ [⟨request, failed⟩] }
  | .sendBackResult diallingnumbers => { s with sending := some ⟨diallingnumbers, failed⟩ }
  | .ends => s

def sendBackResult (sending : Sending) : State Caller :=
  { s with
    service := { s.service with files := {}, isProcessingPbr := false }
    callers := []
    sending := none
    sent := s.sent ++ s.callers
    results := s.results ++ s.callers.map fun caller =>
      ⟨caller, sending.diallingnumbers, sending.failed⟩ }

def processObtainPbrDetailsDone (result : Result Caller) : State Caller :=
  { s with
    cache := s.cache.processObtainPbrDetailsDone ELEMENTARY_FILE_PBR
      (some result.diallingnumbers)
    pbrFailed := s.cache.isLoadDiallingNumSuccess && result.failed }

end State

def step (utf : Utf) (s : State Caller) : Label Caller → Option (State Caller)
  | .setFileControllerAndDiallingNumberHandler ctrl handler =>
    some { s with
      service := { s.service with fileController := ctrl, diallingNumbersHandler := handler } }
  | .obtainUsimElementaryFiles caller =>
    some { s with callers := s.callers ++ [caller], pushed := s.pushed + 1 }
  | .loadPbrFiles =>
    if s.pushed = 0 then none else some { s.loadPbrFiles with pushed := s.pushed - 1 }
  | .event k answer =>
    match s.sending, s.outstanding[k]? with
    | none, some pending =>
      if pending.request.accepts answer then
        (s.service.memberFunc utf pending.request answer).map fun outcome =>
          { s with outstanding := s.outstanding.eraseIdx k }.resume outcome pending.failed
      else none
    | _, _ => none
  | .drop k =>
    if s.outstanding[k]?.any (·.request.isAdn) then
      some { s with outstanding := s.outstanding.eraseIdx k }
    else none
  | .sendBackResult => s.sending.map s.sendBackResult
  | .processObtainPbrDetailsDone =>
    match s.results with
    | [] => none
    | result :: results => some { s.processObtainPbrDetailsDone result with results }
  | .clearDiallingNumberCache =>
    some { s with cache := s.cache.clearDiallingNumberCache, pbrFailed := false }

/-! ## What a step can do -/

inductive Step (utf : Utf) (s : State Caller) : Label Caller → State Caller → Prop
  | set (ctrl handler : Bool) :
    Step utf s (.setFileControllerAndDiallingNumberHandler ctrl handler) { s with
      service := { s.service with fileController := ctrl, diallingNumbersHandler := handler } }
  | obtain (caller : Caller) :
    Step utf s (.obtainUsimElementaryFiles caller)
      { s with callers := s.callers ++ [caller], pushed := s.pushed + 1 }
  | loading (hprocessing : s.service.isProcessingPbr = true) :
    Step utf s .loadPbrFiles { s with pushed := s.pushed - 1 }
  | start (hprocessing : s.service.isProcessingPbr = false) :
    Step utf s .loadPbrFiles { s with
      service := { s.service with isProcessingPbr := true }
      outstanding :=
        if s.service.fileController then s.outstanding ++ [⟨.pbr, false⟩] else s.outstanding
      pushed := s.pushed - 1 }
  | event (k : Nat) (answer : Answer) (pending : Pending) (outcome : Outcome)
    (hidle : s.sending = none) (hpending : s.outstanding[k]? = some pending)
    (houtcome : s.service.memberFunc utf pending.request answer = some outcome) :
    Step utf s (.event k answer)
      ({ s with outstanding := s.outstanding.eraseIdx k }.resume outcome pending.failed)
  | drop (k : Nat) (pending : Pending) (hpending : s.outstanding[k]? = some pending) :
    Step utf s (.drop k) { s with outstanding := s.outstanding.eraseIdx k }
  | sendBackResult (sending : Sending) (hsending : s.sending = some sending) :
    Step utf s .sendBackResult (s.sendBackResult sending)
  | result (result : Result Caller) (results : List (Result Caller))
    (hresults : s.results = result :: results) :
    Step utf s .processObtainPbrDetailsDone { s.processObtainPbrDetailsDone result with results }
  | clear : Step utf s .clearDiallingNumberCache
      { s with cache := s.cache.clearDiallingNumberCache, pbrFailed := false }

theorem step_cases {utf : Utf} {s s' : State Caller} {l : Label Caller}
    (h : step utf s l = some s') : Step utf s l s' := by
  cases l with
  | setFileControllerAndDiallingNumberHandler ctrl handler =>
    cases h
    exact .set ctrl handler
  | obtainUsimElementaryFiles caller =>
    cases h
    exact .obtain caller
  | loadPbrFiles =>
    simp only [step] at h
    split at h
    next => cases h
    next =>
      cases h
      rw [State.loadPbrFiles]
      split
      next hpr => exact .loading hpr
      next hpr => exact .start (by simpa using hpr)
  | event k answer =>
    simp only [step] at h
    split at h
    next pending hid hpn =>
      obtain ⟨-, h⟩ := Option.ite_none_right_eq_some.1 h
      obtain ⟨outcome, hoc, rfl⟩ := Option.map_eq_some_iff.1 h
      exact .event k answer pending outcome hid hpn hoc
    next => cases h
  | drop k =>
    obtain ⟨hk, ⟨⟩⟩ := Option.ite_none_right_eq_some.1 h
    obtain ⟨pending, hpn, -⟩ := (Option.any_eq_true _ _).1 hk
    exact .drop k pending hpn
  | sendBackResult =>
    obtain ⟨sending, hs, rfl⟩ := Option.map_eq_some_iff.1 h
    exact .sendBackResult sending hs
  | processObtainPbrDetailsDone =>
    simp only [step] at h
    split at h
    next => cases h
    next result results hr =>
      cases h
      exact .result result results hr
  | clearDiallingNumberCache =>
    cases h
    exact .clear

theorem State.resume_cases (s : State Caller) (outcome : Outcome) (failed : Bool) :
    (∃ request, outcome.next = .send request ∧ (s.resume outcome failed).outstanding =
        s.outstanding ++ [⟨request, failed || outcome.fails⟩] ∧
      (s.resume outcome failed).sending = s.sending) ∨
    (∃ list, outcome.next = .sendBackResult list ∧
      (s.resume outcome failed).outstanding = s.outstanding ∧
      (s.resume outcome failed).sending = some ⟨list, failed || outcome.fails⟩) ∨
    (outcome.next = .ends ∧ (s.resume outcome failed).outstanding = s.outstanding ∧
      (s.resume outcome failed).sending = s.sending) := by
  rw [State.resume]
  cases hn : outcome.next with
  | send request => exact .inl ⟨request, rfl, rfl, rfl⟩
  | sendBackResult list => exact .inr (.inl ⟨list, rfl, rfl, rfl⟩)
  | ends => exact .inr (.inr ⟨rfl, rfl, rfl⟩)

section

variable (s : State Caller) (outcome : Outcome) (failed : Bool)

@[simp] theorem resume_service : (s.resume outcome failed).service = outcome.service := by
  rw [State.resume]
  split <;> rfl

@[simp] theorem resume_callers : (s.resume outcome failed).callers = s.callers := by
  rw [State.resume]
  split <;> rfl

@[simp] theorem resume_pushed : (s.resume outcome failed).pushed = s.pushed := by
  rw [State.resume]
  split <;> rfl

@[simp] theorem resume_sent : (s.resume outcome failed).sent = s.sent := by
  rw [State.resume]
  split <;> rfl

@[simp] theorem resume_results : (s.resume outcome failed).results = s.results := by
  rw [State.resume]
  split <;> rfl

@[simp] theorem resume_pbrFailed : (s.resume outcome failed).pbrFailed = s.pbrFailed := by
  rw [State.resume]
  split <;> rfl

@[simp] theorem resume_isLoadDiallingNumSuccess :
    (s.resume outcome failed).cache.isLoadDiallingNumSuccess =
      (s.cache.isLoadDiallingNumSuccess && !outcome.fails) := by
  rw [State.resume]
  split <;> rfl

end

end TelephonyCore.Phonebook.Usim
