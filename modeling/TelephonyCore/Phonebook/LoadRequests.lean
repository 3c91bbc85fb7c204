import TelephonyCore.Lib.Slots
import TelephonyCore.Lib.Transition
import TelephonyCore.Phonebook.Cache

/-!
# `IccDiallingNumbersHandler`: the requests in `requestMap_`

A request of the handler takes one or two exchanges with the file controller: a record and perhaps
its extension record, all records of a file, or the size of a record and then the write.
`requestMap_` holds it under a serial number, which every message to the file controller carries.
After each answer `SendBackResult` answers the caller and erases the request, unless a write is
under way (`moreFileToGet`) or an extension record was asked for.

The one fact behind the result is `Waits`: a request in the map has a message under way, of the kind
that its fields tell. A request whose serial number is taken is not inserted, and the answers to its
messages go to the one that has the number.
-/

namespace TelephonyCore.Phonebook.LoadRequests

open Codec Lib List Option

/-! ## Extension records -/

def MAX_EXT_RECORD_LENGTH_BYTES : Nat := 13
def MAX_EXT_BCD_LENGTH : Nat := 10
def EXT_RECORD_TYPE_ADDITIONAL_DATA : UInt8 := 2

def extensionBCDConvertToString (bytesData : List UInt8) (dataLength offset length : Nat) :
    StdString :=
  if offset + length > dataLength then []
  else bcdSectionConvertToString .adn ((bytesData.drop offset).take length)

def fetchExtensionContent (utf : Utf) (diallingNumber : Contact) (recordData : StdString) :
    Contact :=
  match hexStringConvertToBytes recordData with
  | none => diallingNumber
  | some data =>
    if data.length ≠ MAX_EXT_RECORD_LENGTH_BYTES then diallingNumber
    else if data.getD 0 0 ≠ EXT_RECORD_TYPE_ADDITIONAL_DATA then diallingNumber
    else
      let length := min (data.getD 1 0).toNat MAX_EXT_BCD_LENGTH
      let extensionNumber := extensionBCDConvertToString data data.length 2 length
      { diallingNumber with
        number := diallingNumber.number ++ utf.str8ToStr16 extensionNumber }

/-! ## Requests and messages -/

inductive Result where
  | diallingNumber (contact : Contact)
  | diallingNumberList (list : List Contact)
deriving DecidableEq

structure LoadRequest (Caller : Type) where
  elementaryFileId : FileId
  extFileId : FileId
  index : Int
  pin2 : StdString
  loadId : Int32
  caller : Caller
  moreFileToGet : Int := 0
  isDelete : Bool := false
  result : Option Result := none
  exception : Option RadioError := none
  extensionRecord : UInt8 := 0
deriving DecidableEq

def INIT_COUNT : Int := 1

inductive Msg where
  | obtainAdnDone
  | obtainAllAdnDone
  | obtainLinearFileSizeDone
  | renewAdnDone
  | extRecordLoadDone
deriving DecidableEq

inductive FileCommand where
  | obtainLinearFixedFile (fileId : FileId) (path : StdString) (fileNum : Int)
  | obtainAllLinearFixedFile (fileId : FileId) (path : StdString)
  | obtainLinearFileSize (fileId : FileId) (path : StdString)
  | updateLinearFixedFile (command : UpdateCommand)
deriving DecidableEq

/-- A request to the file controller with what `BuildCallerInfo` puts into its event. -/
structure FileRequest where
  command : FileCommand
  msg : Msg
  loadId : Int32
  iccLoader : Option Contact := none
deriving DecidableEq

/-- `ControllerToFileMsg`, `MultiRecordResult`, and `EfLinearResult` with its first value. -/
inductive FileAnswer where
  | msg (exception : Option RadioError) (resultData : StdString)
  | records (exception : Option RadioError) (fileResults : List StdString)
  | size (exception : Option RadioError) (recordLength : Int)
deriving DecidableEq

def Msg.accepts : Msg → FileAnswer → Bool
  | _, .msg _ _ => true
  | .obtainAllAdnDone, .records _ _ => true
  | .obtainLinearFileSizeDone, .size _ _ => true
  | _, _ => false

variable {Caller : Type}

namespace LoadRequest

variable (request : LoadRequest Caller)

def hasCount : Bool := request.moreFileToGet ≠ 0

def hasExtendedRecord : Bool := request.extensionRecord ≠ 0 && request.extensionRecord ≠ 0xff

def processDiallingNumberLoadDone (utf : Utf) (exception : Option RadioError)
    (resultData : StdString) : LoadRequest Caller × Option FileRequest :=
  match exception with
  | some exception => ({ request with exception := some exception }, none)
  | none =>
    let content := fetchDiallingNumberContent utf ⟨[], []⟩ resultData (some request.extensionRecord)
    let diallingNumber : Contact :=
      { content.1 with elementaryFileId := request.elementaryFileId, index := request.index }
    let request :=
      { request with
        extensionRecord := content.2.getD request.extensionRecord
        result := some (.diallingNumber diallingNumber) }
    (request,
      if request.hasExtendedRecord then
        some {
          command := .obtainLinearFixedFile request.extFileId (getFilePath request.extFileId)
            request.extensionRecord.toNat
          msg := .extRecordLoadDone
          loadId := request.loadId }
      else none)

def processDiallingNumberAllLoadDone (utf : Utf) (exception : Option RadioError)
    (fileResults : List StdString) : LoadRequest Caller :=
  match exception with
  | some exception => { request with exception := some exception }
  | none =>
    { request with
      moreFileToGet := 0
      result := some (.diallingNumberList
        (processDiallingNumber utf request.elementaryFileId fileResults)) }

/-- `loadId` is the one of the event. -/
def processLinearSizeDone (utf : Utf) (loadId : Int32) (iccLoader : Option Contact)
    (exception : Option RadioError) (length : Int) : LoadRequest Caller × Option FileRequest :=
  match exception, iccLoader with
  | some _, _ => (request, none)
  | none, none => ({ request with exception := some parameterIncorrect }, none)
  | none, some diallingNumber =>
    match Phonebook.processLinearSizeDone utf
        { diallingNumber, fileId := request.elementaryFileId, index := request.index,
          pin2 := request.pin2, isDel := request.isDelete } (.size length) with
    | .error exception => ({ request with exception := some exception }, none)
    | .ok (infor, command) =>
      ({ request with moreFileToGet := INIT_COUNT },
        some {
          command := .updateLinearFixedFile command
          msg := .renewAdnDone
          loadId
          iccLoader := some infor.diallingNumber })

def processUpdateRecordDone (iccLoader : Option Contact) (exception : Option RadioError) :
    LoadRequest Caller :=
  match exception with
  | some exception => { request with moreFileToGet := 0, exception := some exception }
  | none =>
    { request with
      moreFileToGet := 0
      exception := none
      result := iccLoader.map Result.diallingNumber }

/-- The result is the contact of the first record, or null when that could not be read. -/
def processExtensionRecordNumbers (utf : Utf) (exception : Option RadioError)
    (resultData : StdString) : LoadRequest Caller :=
  match exception, request.result with
  | none, some (.diallingNumber contact) =>
    { request with
      result := some (.diallingNumber (fetchExtensionContent utf contact resultData)) }
  | _, _ => request

/-- The request as the handler leaves it, and the message it sends. -/
def memberFunc (utf : Utf) (file : FileRequest) :
    FileAnswer → LoadRequest Caller × Option FileRequest
  | .msg exception resultData =>
    match file.msg with
    | .obtainAdnDone => request.processDiallingNumberLoadDone utf exception resultData
    -- in place of the list or the size, the message is an error
    | .obtainAllAdnDone | .obtainLinearFileSizeDone => ({ request with exception }, none)
    | .renewAdnDone => (request.processUpdateRecordDone file.iccLoader exception, none)
    | .extRecordLoadDone =>
      (request.processExtensionRecordNumbers utf exception resultData, none)
  | .records exception fileResults =>
    (request.processDiallingNumberAllLoadDone utf exception fileResults, none)
  | .size exception recordLength =>
    request.processLinearSizeDone utf file.loadId file.iccLoader exception recordLength

end LoadRequest

/-! ## The machine -/

structure Creating where
  request : Nat
  isDelete : Bool
  file : FileRequest
deriving DecidableEq

/-- The event of `SendBackResult`; `request` tells which request it is for. -/
structure Answer (Caller : Type) where
  request : Nat
  caller : Caller
  result : Option Result
  exception : Option RadioError
deriving DecidableEq

/-- The objects that `requestMap_` points to are the elements of `requests`, which keeps all that
were ever made; `inserted` are those that were put into the map. -/
structure State (Caller : Type) where
  nextSerialId : Int32 := 1
  requests : List (LoadRequest Caller) := []
  requestMap : List (Int32 × Nat) := []
  inserted : List Nat := []
  creating : List Creating := []
  outstanding : List FileRequest := []
  answers : List (Answer Caller) := []
deriving DecidableEq

inductive Call where
  | getDiallingNumbers (ef exid : FileId) (index : Int)
  | getAllDiallingNumbers (ef exid : FileId)
  | updateDiallingNumbers (infor : UpdateInfor) (extFile : FileId)
deriving DecidableEq

inductive Label (Caller : Type) where
  /-- a call up to `CreateLoadRequest` -/
  | create (call : Call) (caller : Caller)
  /-- the rest of a call -/
  | send (k : Nat)
  /-- the handler takes the answer to a message -/
  | answer (k : Nat) (answer : FileAnswer)

namespace Call

def loadRequest (loadId : Int32) (caller : Caller) : Call → LoadRequest Caller
  | .getDiallingNumbers ef exid index =>
    { elementaryFileId := ef, extFileId := exid, index, pin2 := [], loadId, caller }
  | .getAllDiallingNumbers ef exid =>
    { elementaryFileId := ef, extFileId := exid, index := 0, pin2 := [], loadId, caller }
  | .updateDiallingNumbers infor extFile =>
    { elementaryFileId := infor.fileId, extFileId := extFile, index := infor.index,
      pin2 := infor.pin2, loadId, caller }

def fileRequest (loadId : Int32) : Call → FileRequest
  | .getDiallingNumbers ef _ index =>
    { command := .obtainLinearFixedFile ef (getFilePath ef) index, msg := .obtainAdnDone, loadId }
  | .getAllDiallingNumbers ef _ =>
    { command := .obtainAllLinearFixedFile ef (getFilePath ef), msg := .obtainAllAdnDone, loadId }
  | .updateDiallingNumbers infor _ =>
    { command := .obtainLinearFileSize infor.fileId (getFilePath infor.fileId)
      msg := .obtainLinearFileSizeDone
      loadId
      iccLoader := some infor.diallingNumber }

def isDelete : Call → Bool
  | .updateDiallingNumbers infor _ => infor.isDel
  | _ => false

end Call

namespace State

variable (s : State Caller)

def findLoadRequest (serial : Int32) : Option (Nat × LoadRequest Caller) := do
  let i ← s.requestMap.lookup serial
  let request ← s.requests[i]?
  some (i, request)

/-- With the event the call is going to send. `std::map::insert` keeps what is there. -/
def createLoadRequest (call : Call) (caller : Caller) : State Caller :=
  let loadId := s.nextSerialId
  let request := s.requests.length
  let free := (s.requestMap.lookup loadId).isNone
  { s with
    nextSerialId := loadId + 1
    requests := s.requests ++ [call.loadRequest loadId caller]
    requestMap := if free then (loadId, request) :: s.requestMap else s.requestMap
    inserted := if free then request :: s.inserted else s.inserted
    creating := s.creating ++ [⟨request, call.isDelete, call.fileRequest loadId⟩] }

def sendBackResult (loadId : Int32) (i : Nat) (request : LoadRequest Caller) : State Caller :=
  if request.hasCount then s
  else
    { s with
      answers := s.answers ++ [⟨i, request.caller, request.result, request.exception⟩]
      requestMap := s.requestMap.filter fun entry => entry.1 ≠ loadId }

def processEvent (utf : Utf) (file : FileRequest) (answer : FileAnswer) : State Caller :=
  match s.findLoadRequest file.loadId with
  | none => s
  | some (i, request) =>
    let (request, sent) := request.memberFunc utf file answer
    let s :=
      { s with
        requests := s.requests.set i request
        outstanding := s.outstanding ++ sent.toList }
    -- `IsAdnHasExtRecord`
    if file.msg = .obtainAdnDone ∧ request.hasExtendedRecord then s
    else s.sendBackResult file.loadId i request

end State

def step (utf : Utf) (s : State Caller) : Label Caller → Option (State Caller)
  | .create call caller => some (s.createLoadRequest call caller)
  | .send k => do
    let creating ← s.creating[k]?
    let request ← s.requests[creating.request]?
    some { s with
      requests := s.requests.set creating.request { request with isDelete := creating.isDelete }
      creating := s.creating.eraseIdx k
      outstanding := s.outstanding ++ [creating.file] }
  | .answer k answer =>
    match s.outstanding[k]? with
    | none => none
    | some file =>
      if file.msg.accepts answer then
        some ({ s with outstanding := s.outstanding.eraseIdx k }.processEvent utf file answer)
      else none

/-! ## What a step can do -/

inductive Step (utf : Utf) (s : State Caller) : Label Caller → State Caller → Prop
  | create (call : Call) (caller : Caller) :
    Step utf s (.create call caller) (s.createLoadRequest call caller)
  | send (k : Nat) (creating : Creating) (request : LoadRequest Caller)
    (hcreating : s.creating[k]? = some creating)
    (hrequest : s.requests[creating.request]? = some request) :
    Step utf s (.send k) { s with
      requests := s.requests.set creating.request { request with isDelete := creating.isDelete }
      creating := s.creating.eraseIdx k
      outstanding := s.outstanding ++ [creating.file] }
  /-- no request has the number of the message -/
  | stray (k : Nat) (answer : FileAnswer) (file : FileRequest)
    (hfile : s.outstanding[k]? = some file) (hfind : s.findLoadRequest file.loadId = none) :
    Step utf s (.answer k answer) { s with outstanding := s.outstanding.eraseIdx k }
  /-- the request goes on -/
  | kept (k : Nat) (answer : FileAnswer) (file : FileRequest) (i : Nat)
    (request : LoadRequest Caller) (hfile : s.outstanding[k]? = some file)
    (haccepts : file.msg.accepts answer = true)
    (hfind : s.findLoadRequest file.loadId = some (i, request))
    (hkept : file.msg = .obtainAdnDone ∧
        (request.memberFunc utf file answer).1.hasExtendedRecord = true ∨
      (request.memberFunc utf file answer).1.hasCount = true) :
    Step utf s (.answer k answer) { s with
      requests := s.requests.set i (request.memberFunc utf file answer).1
      outstanding := s.outstanding.eraseIdx k ++ (request.memberFunc utf file answer).2.toList }
  /-- the request is answered -/
  | answered (k : Nat) (answer : FileAnswer) (file : FileRequest) (i : Nat)
    (request request' : LoadRequest Caller) (hfile : s.outstanding[k]? = some file)
    (haccepts : file.msg.accepts answer = true)
    (hfind : s.findLoadRequest file.loadId = some (i, request))
    (hrequest' : (request.memberFunc utf file answer).1 = request') :
    Step utf s (.answer k answer) { s with
      requests := s.requests.set i request'
      outstanding := s.outstanding.eraseIdx k ++ (request.memberFunc utf file answer).2.toList
      answers := s.answers ++ [⟨i, request'.caller, request'.result, request'.exception⟩]
      requestMap := s.requestMap.filter fun entry => entry.1 ≠ file.loadId }

variable {utf : Utf} {s s' : State Caller} {l : Label Caller}
  {request request' : LoadRequest Caller} {file : FileRequest} {i j k : Nat} {creating : Creating}
  {out : LoadRequest Caller × Option FileRequest} {serial : Int32}

theorem step_cases (h : step utf s l = some s') : Step utf s l s' := by
  cases l with
  | create call caller =>
    cases h
    exact .create call caller
  | send k =>
    obtain ⟨creating, hcr, h⟩ := bind_eq_some_iff.1 h
    obtain ⟨request, hr, h⟩ := bind_eq_some_iff.1 h
    cases h
    exact .send k creating request hcr hr
  | answer k answer =>
    simp only [step] at h
    split at h
    next => cases h
    next file hfl =>
      obtain ⟨ha, ⟨⟩⟩ := ite_none_right_eq_some.1 h
      rw [State.processEvent]
      split
      next hfn => exact .stray k answer file hfl hfn
      next i request hfn =>
        simp only [State.sendBackResult]
        split
        next he => exact .kept k answer file i request hfl ha hfn (.inl he)
        next =>
          split
          next hcn => exact .kept k answer file i request hfl ha hfn (.inr hcn)
          next => exact .answered k answer file i request _ hfl ha hfn rfl

/-! ## What a request waits for -/

namespace LoadRequest

/-- The message whose answer is going to end the request, where its fields tell. -/
def awaited (request : LoadRequest Caller) : Option Msg :=
  if request.hasCount then some .renewAdnDone
  else if request.hasExtendedRecord then some .extRecordLoadDone
  else none

theorem awaited_of_hasCount (h : request.hasCount) : request.awaited = some .renewAdnDone := by
  rw [awaited, if_pos h]

theorem awaited_of_hasExtendedRecord (hc : ¬ request.hasCount) (h : request.hasExtendedRecord) :
    request.awaited = some .extRecordLoadDone := by
  rw [awaited, if_neg hc, if_pos h]

/-- A request that is not answered waits for an answer that was not the one at hand, or for the one
to the message just sent. -/
structure Handled (request : LoadRequest Caller) (file : FileRequest)
    (out : LoadRequest Caller × Option FileRequest) : Prop where
  loadId : out.1.loadId = request.loadId
  caller : out.1.caller = request.caller
  awaited : (file.msg = .obtainAdnDone ∧ out.1.hasExtendedRecord = true ∨ out.1.hasCount = true) →
    ∃ msg, out.1.awaited = some msg ∧
      ((∃ next, out.2 = some next ∧ next.msg = msg ∧ next.loadId = request.loadId) ∨
        request.awaited = some msg ∧ file.msg ≠ msg)

section

variable {request request' : LoadRequest Caller} {file : FileRequest}
  {sent : Option FileRequest}

theorem Handled.of_same (hl : request'.loadId = request.loadId)
    (hcl : request'.caller = request.caller) (hcn : request'.moreFileToGet = request.moreFileToGet)
    (he : request'.extensionRecord = request.extensionRecord)
    (hm : file.msg ≠ .renewAdnDone) : Handled request file (request', sent) where
  loadId := hl
  caller := hcl
  awaited := by
    have hcn' : request'.hasCount = request.hasCount := by rw [hasCount, hasCount, hcn]
    have he' : request'.hasExtendedRecord = request.hasExtendedRecord := by
      rw [hasExtendedRecord, hasExtendedRecord, he]
    intro hk
    simp only [hcn', he'] at hk
    by_cases hh : request.hasCount
    · exact ⟨_, awaited_of_hasCount (hcn'.trans hh), .inr ⟨awaited_of_hasCount hh, hm⟩⟩
    · obtain ⟨had, hr⟩ := hk.resolve_right hh
      have hh' : ¬ request'.hasCount := hcn' ▸ hh
      refine ⟨_, awaited_of_hasExtendedRecord hh' (he'.trans hr), .inr ⟨?_, ?_⟩⟩
      · exact awaited_of_hasExtendedRecord hh hr
      · rw [had]
        simp

theorem Handled.of_clear (hl : request'.loadId = request.loadId)
    (hcl : request'.caller = request.caller) (hcn : request'.moreFileToGet = 0)
    (hm : file.msg ≠ .obtainAdnDone) : Handled request file (request', sent) where
  loadId := hl
  caller := hcl
  awaited := by
    intro hk
    rcases hk with ⟨had, -⟩ | hh
    · exact absurd had hm
    · exact absurd hcn (by simpa [hasCount] using hh)

end

theorem processDiallingNumberLoadDone_handled (request : LoadRequest Caller) (utf : Utf)
    (file : FileRequest) (exception : Option RadioError) (resultData : StdString)
    (hm : file.msg = .obtainAdnDone) :
    Handled request file (request.processDiallingNumberLoadDone utf exception resultData) := by
  cases exception with
  | some exception => exact .of_same rfl rfl rfl rfl (by simp [hm])
  | none =>
    refine ⟨rfl, rfl, ?_⟩
    intro hk
    by_cases hh : request.hasCount
    · exact ⟨_, awaited_of_hasCount hh, .inr ⟨awaited_of_hasCount hh, by simp [hm]⟩⟩
    · -- the extension record has just been asked for
      have he := (hk.resolve_right hh).2
      exact ⟨_, awaited_of_hasExtendedRecord hh he, .inl ⟨_, if_pos he, rfl, rfl⟩⟩

theorem processLinearSizeDone_handled (request : LoadRequest Caller) (utf : Utf)
    (file : FileRequest) (exception : Option RadioError) (length : Int)
    (hm : file.msg = .obtainLinearFileSizeDone) (hid : file.loadId = request.loadId) :
    Handled request file
      (request.processLinearSizeDone utf file.loadId file.iccLoader exception length) := by
  have hne : file.msg ≠ .renewAdnDone := by simp [hm]
  rw [processLinearSizeDone.eq_def]
  split
  next => exact .of_same rfl rfl rfl rfl hne
  next => exact .of_same rfl rfl rfl rfl hne
  next =>
    split
    next => exact .of_same rfl rfl rfl rfl hne
    next =>
      refine ⟨rfl, rfl, fun _ => ⟨.renewAdnDone, ?_, .inl ⟨_, rfl, rfl, hid⟩⟩⟩
      exact awaited_of_hasCount rfl

theorem memberFunc_handled (request : LoadRequest Caller) (utf : Utf) {answer : FileAnswer}
    (hac : file.msg.accepts answer) (hid : file.loadId = request.loadId) :
    Handled request file (request.memberFunc utf file answer) := by
  cases answer with
  | msg exception resultData =>
    rw [memberFunc]
    split
    next hm => exact request.processDiallingNumberLoadDone_handled utf file _ _ hm
    next hm => exact .of_same rfl rfl rfl rfl (by simp [hm])
    next hm => exact .of_same rfl rfl rfl rfl (by simp [hm])
    next hm =>
      have hne : file.msg ≠ .obtainAdnDone := by simp [hm]
      cases exception with
      | none | some => exact .of_clear rfl rfl rfl hne
    next hm =>
      have hne : file.msg ≠ .renewAdnDone := by simp [hm]
      rw [processExtensionRecordNumbers.eq_def]
      split <;> exact .of_same rfl rfl rfl rfl hne
  | records exception fileResults =>
    have hm : file.msg = .obtainAllAdnDone := by
      cases hf : file.msg <;> simp_all [Msg.accepts]
    cases exception with
    | none => exact .of_clear rfl rfl rfl (by simp [hm])
    | some exception => exact .of_same rfl rfl rfl rfl (by simp [hm])
  | size exception recordLength =>
    have hm : file.msg = .obtainLinearFileSizeDone := by
      cases hf : file.msg <;> simp_all [Msg.accepts]
    exact request.processLinearSizeDone_handled utf file exception recordLength hm hid

end LoadRequest

/-! ## The invariant -/

/-- A message is under way for the request, or its call is about to send the first one. -/
def Waits (s : State Caller) (request : LoadRequest Caller) : Prop :=
  (∃ file ∈ s.outstanding, file.loadId = request.loadId ∧
      ∀ msg, request.awaited = some msg → file.msg = msg) ∨
    request.awaited = none ∧ ∃ creating ∈ s.creating, creating.file.loadId = request.loadId

structure Inv (s : State Caller) : Prop where
  entries : ∀ serial i, (serial, i) ∈ s.requestMap →
    ∃ request, s.requests[i]? = some request ∧ request.loadId = serial ∧ Waits s request
  keys : (s.requestMap.map Prod.fst).Nodup
  answers : ∀ answer ∈ s.answers, ∃ request, s.requests[answer.request]? = some request ∧
    request.caller = answer.caller
  once : (s.answers.map Answer.request).Nodup
  unanswered : ∀ serial i, (serial, i) ∈ s.requestMap → i ∉ s.answers.map Answer.request
  inserted : ∀ i ∈ s.inserted, i ∈ s.requestMap.map Prod.snd ∨ i ∈ s.answers.map Answer.request

theorem inv_init (serial : Int32) : Inv ({ nextSerialId := serial } : State Caller) :=
  ⟨by simp, by simp, by simp, by simp, by simp, by simp⟩

section

variable {s : State Caller} {request : LoadRequest Caller}

theorem Waits.mono (h : Waits s request) (ho : ∀ file ∈ s.outstanding, file ∈ s'.outstanding)
    (hcr : ∀ creating ∈ s.creating, creating ∈ s'.creating) : Waits s' request := by
  rcases h with ⟨file, hf, hw⟩ | ⟨hn, creating, hm, hid⟩
  · exact .inl ⟨file, ho file hf, hw⟩
  · exact .inr ⟨hn, creating, hcr creating hm, hid⟩

theorem Waits.send (h : Waits s request) (hcr : s.creating[k]? = some creating)
    (requests : List (LoadRequest Caller)) :
    Waits { s with
      requests := requests
      creating := s.creating.eraseIdx k
      outstanding := s.outstanding ++ [creating.file] } request := by
  rcases h with ⟨file, hf, hw⟩ | ⟨hn, other, hmm, hid⟩
  · exact .inl ⟨file, mem_append_left _ hf, hw⟩
  · by_cases ho : other = creating
    · subst ho
      refine .inl ⟨other.file, by simp, hid, ?_⟩
      intro msg hms
      cases hn.symm.trans hms
    · exact .inr ⟨hn, other, mem_eraseIdx_of_ne hcr hmm ho, hid⟩

theorem Waits.answer_of_ne (h : Waits s request) (hf : s.outstanding[k]? = some file)
    (hne : request.loadId ≠ file.loadId)
    (hot : ∀ file ∈ s.outstanding.eraseIdx k, file ∈ s'.outstanding)
    (hcr : s'.creating = s.creating) : Waits s' request := by
  rcases h with ⟨other, hoh, hid, hm⟩ | hnn
  · have hdf : other ≠ file := by
      rintro rfl
      exact hne hid.symm
    exact .inl ⟨other, hot other (mem_eraseIdx_of_ne hf hoh hdf), hid, hm⟩
  · rw [← hcr] at hnn
    exact .inr hnn

theorem Waits.kept (h : Waits s request) (hf : s.outstanding[k]? = some file)
    (hh : request.Handled file out)
    (hk : file.msg = .obtainAdnDone ∧ out.1.hasExtendedRecord ∨ out.1.hasCount)
    (requests : List (LoadRequest Caller)) :
    Waits { s with
      requests := requests
      outstanding := s.outstanding.eraseIdx k ++ out.2.toList } out.1 := by
  obtain ⟨msg, haw, hnx⟩ := hh.awaited hk
  have hm : ∀ other, out.1.awaited = some other → msg = other := by
    intro other ho
    exact some.inj (haw.symm.trans ho)
  rcases hnx with ⟨next, hs, rfl, hid⟩ | ⟨hb, hne⟩
  · exact .inl ⟨next, by simp [hs], hid.trans hh.loadId.symm, hm⟩
  · -- the message the request waits for is not the one that was answered
    rcases h with ⟨other, ho, hid, hat⟩ | ⟨hnn, -⟩
    · obtain rfl := hat msg hb
      have hdf : other ≠ file := by
        rintro rfl
        exact hne rfl
      refine .inl ⟨other, ?_, hid.trans hh.loadId.symm, hm⟩
      exact mem_append_left _ (mem_eraseIdx_of_ne hf ho hdf)
    · cases hnn.symm.trans hb

theorem Inv.mem_of_lookup (hl : s.requestMap.lookup serial = some i) :
    (serial, i) ∈ s.requestMap := by
  obtain ⟨_, _, hm, -⟩ := lookup_eq_some_iff.1 hl
  rw [hm]
  simp

theorem Inv.mem_of_find (h : Inv s) (hf : s.findLoadRequest serial = some (i, request)) :
    (serial, i) ∈ s.requestMap ∧ s.requests[i]? = some request ∧ request.loadId = serial ∧
      Waits s request := by
  obtain ⟨j, hl, hf⟩ := bind_eq_some_iff.1 hf
  obtain ⟨_, hg, hf⟩ := bind_eq_some_iff.1 hf
  obtain ⟨rfl, rfl⟩ := Prod.mk.inj (some.inj hf)
  have hm := Inv.mem_of_lookup hl
  obtain ⟨_, ho, hid, hw⟩ := h.entries serial j hm
  obtain rfl := some.inj (ho.symm.trans hg)
  exact ⟨hm, hg, hid, hw⟩

theorem Inv.ne_of_find_none (h : Inv s) {other : Int32} (hf : s.findLoadRequest serial = none)
    (hm : (other, i) ∈ s.requestMap) : other ≠ serial := by
  rintro rfl
  cases hl : s.requestMap.lookup other with
  | none =>
    have hne := lookup_eq_none_iff.1 hl _ hm
    simp at hne
  | some j =>
    obtain ⟨_, hr, -⟩ := h.entries other j (Inv.mem_of_lookup hl)
    rw [State.findLoadRequest, hl] at hf
    exact absurd hf (by simp [hr])

theorem Inv.entry_unique (h : Inv s) (hi : (serial, i) ∈ s.requestMap)
    (hj : (serial, j) ∈ s.requestMap) : i = j :=
  (Prod.mk.inj (inj_on_of_nodup_map h.keys hi hj rfl)).2

theorem Inv.answers_set (h : Inv s) (hg : s.requests[i]? = some request)
    (hc : request'.caller = request.caller) :
    ∀ answer ∈ s.answers, ∃ own, (s.requests.set i request')[answer.request]? = some own ∧
      own.caller = answer.caller := by
  intro answer han
  obtain ⟨own, ho, ho'⟩ := h.answers answer han
  by_cases hi : i = answer.request
  · subst hi
    cases ho.symm.trans hg
    have hlt := (List.getElem?_eq_some_iff.1 hg).1
    exact ⟨request', getElem?_set_self hlt, hc.trans ho'⟩
  · exact ⟨own, (getElem?_set_ne hi).trans ho, ho'⟩

/-! ### The steps -/

section Create

variable (call : Call) (caller : Caller)

theorem getElem?_createLoadRequest (hg : s.requests[i]? = some request) :
    (s.createLoadRequest call caller).requests[i]? = some request :=
  (getElem?_append_left (List.getElem?_eq_some_iff.1 hg).1).trans hg

theorem Inv.entries_create (h : Inv s) (serial : Int32) (i : Nat)
    (hm : (serial, i) ∈ s.requestMap) :
    ∃ request, (s.createLoadRequest call caller).requests[i]? = some request ∧
      request.loadId = serial ∧ Waits (s.createLoadRequest call caller) request := by
  obtain ⟨own, ho, hid, hw⟩ := h.entries serial i hm
  refine ⟨own, getElem?_createLoadRequest call caller ho, hid, hw.mono (fun file hf => hf) ?_⟩
  exact fun creating hcr => mem_append_left _ hcr

theorem Inv.answers_create (h : Inv s) (answer : Answer Caller) (ha : answer ∈ s.answers) :
    ∃ request, (s.createLoadRequest call caller).requests[answer.request]? = some request ∧
      request.caller = answer.caller := by
  obtain ⟨own, ho, hc⟩ := h.answers answer ha
  exact ⟨own, getElem?_createLoadRequest call caller ho, hc⟩

theorem Inv.not_answered_length (h : Inv s) : s.requests.length ∉ s.answers.map Answer.request := by
  intro han
  obtain ⟨answer, hans, hl⟩ := mem_map.1 han
  obtain ⟨_, ho, -⟩ := h.answers answer hans
  rw [hl] at ho
  exact absurd (List.getElem?_eq_some_iff.1 ho).1 (Nat.lt_irrefl _)

theorem Inv.create_free (h : Inv s) (hf : (s.requestMap.lookup s.nextSerialId).isNone) :
    Inv (s.createLoadRequest call caller) := by
  have hmp : (s.createLoadRequest call caller).requestMap =
      (s.nextSerialId, s.requests.length) :: s.requestMap := if_pos hf
  have hin : (s.createLoadRequest call caller).inserted =
      s.requests.length :: s.inserted := if_pos hf
  refine ⟨?_, ?_, h.answers_create call caller, h.once, ?_, ?_⟩
  · intro serial i hmm
    rw [hmp] at hmm
    rcases mem_cons.1 hmm with heq | hmm
    · cases heq
      refine ⟨_, getElem?_concat_length, by cases call <;> rfl, .inr ⟨?_, ?_⟩⟩
      · cases call <;> rfl
      · exact ⟨_, mem_append_right _ (mem_singleton.2 rfl), by cases call <;> rfl⟩
    · exact h.entries_create call caller serial i hmm
  · rw [hmp, map_cons, nodup_cons]
    refine ⟨?_, h.keys⟩
    intro hmm
    obtain ⟨entry, hen, hk⟩ := mem_map.1 hmm
    have hne := lookup_eq_none_iff.1 (isNone_iff_eq_none.1 hf) entry hen
    simp [hk] at hne
  · intro serial i hmm
    rw [hmp] at hmm
    rcases mem_cons.1 hmm with heq | hmm
    · cases heq
      exact h.not_answered_length
    · exact h.unanswered serial i hmm
  · intro i hi
    rw [hin] at hi
    rw [hmp, map_cons]
    rcases mem_cons.1 hi with rfl | hi
    · exact .inl mem_cons_self
    · exact (h.inserted i hi).imp_left (mem_cons_of_mem _)

theorem Inv.create (h : Inv s) : Inv (s.createLoadRequest call caller) := by
  by_cases hf : (s.requestMap.lookup s.nextSerialId).isNone
  · exact h.create_free call caller hf
  · -- `insert` keeps the entry that has the serial number
    have hm : (s.createLoadRequest call caller).requestMap = s.requestMap := if_neg hf
    have hin : (s.createLoadRequest call caller).inserted = s.inserted := if_neg hf
    refine ⟨?_, ?_, h.answers_create call caller, h.once, ?_, ?_⟩
    · rw [hm]
      exact h.entries_create call caller
    · rw [hm]
      exact h.keys
    · rw [hm]
      exact h.unanswered
    · rw [hm, hin]
      exact h.inserted

end Create

theorem Inv.send (h : Inv s) (hcr : s.creating[k]? = some creating)
    (hr : s.requests[creating.request]? = some request) :
    Inv { s with
      requests := s.requests.set creating.request { request with isDelete := creating.isDelete }
      creating := s.creating.eraseIdx k
      outstanding := s.outstanding ++ [creating.file] } := { h with
  entries := by
    intro serial i hm
    obtain ⟨own, ho, hid, hw⟩ := h.entries serial i hm
    by_cases hi : creating.request = i
    · subst hi
      cases ho.symm.trans hr
      have hlt := (List.getElem?_eq_some_iff.1 hr).1
      exact ⟨_, getElem?_set_self hlt, hid, hw.send hcr _⟩
    · exact ⟨own, (getElem?_set_ne hi).trans ho, hid, hw.send hcr _⟩
  answers := h.answers_set hr rfl }

theorem Inv.stray (h : Inv s) (hfl : s.outstanding[k]? = some file)
    (hfn : s.findLoadRequest file.loadId = none) :
    Inv { s with outstanding := s.outstanding.eraseIdx k } := { h with
  entries := by
    intro serial i hm
    obtain ⟨own, ho, hid, hw⟩ := h.entries serial i hm
    have hne : own.loadId ≠ file.loadId := hid ▸ h.ne_of_find_none hfn hm
    exact ⟨own, ho, hid, hw.answer_of_ne hfl hne (fun _ hm => hm) rfl⟩ }

theorem Inv.entry_of_ne (h : Inv s) (hfl : s.outstanding[k]? = some file)
    (hfn : (file.loadId, i) ∈ s.requestMap) (hm : (serial, j) ∈ s.requestMap) (hji : i ≠ j)
    (request' : LoadRequest Caller) (hr : s'.requests = s.requests.set i request')
    (hot : ∀ file ∈ s.outstanding.eraseIdx k, file ∈ s'.outstanding)
    (hcr : s'.creating = s.creating) :
    ∃ own, s'.requests[j]? = some own ∧ own.loadId = serial ∧ Waits s' own := by
  obtain ⟨own, hon, hid, hw⟩ := h.entries serial j hm
  have hne : own.loadId ≠ file.loadId := by
    intro heq
    rw [← heq, hid] at hfn
    exact hji (h.entry_unique hfn hm)
  refine ⟨own, ?_, hid, hw.answer_of_ne hfl hne hot hcr⟩
  rw [hr]
  exact (getElem?_set_ne hji).trans hon

theorem Inv.kept (h : Inv s) (hfl : s.outstanding[k]? = some file)
    (hfn : s.findLoadRequest file.loadId = some (i, request)) (hh : request.Handled file out)
    (hk : file.msg = .obtainAdnDone ∧ out.1.hasExtendedRecord ∨ out.1.hasCount) :
    Inv { s with
      requests := s.requests.set i out.1
      outstanding := s.outstanding.eraseIdx k ++ out.2.toList } := by
  obtain ⟨hm, hg, _, hw⟩ := h.mem_of_find hfn
  have hlt := (List.getElem?_eq_some_iff.1 hg).1
  exact { h with
    entries := by
      intro serial j hj
      by_cases hij : i = j
      · subst hij
        obtain ⟨_, ho, hs, -⟩ := h.entries serial i hj
        cases ho.symm.trans hg
        exact ⟨out.1, getElem?_set_self hlt, hh.loadId.trans hs, hw.kept hfl hh hk _⟩
      · exact h.entry_of_ne hfl hm hj hij out.1 rfl
          (fun _ hfl => mem_append_left _ hfl) rfl
    answers := h.answers_set hg hh.caller }

theorem Inv.answered (h : Inv s) (hfl : s.outstanding[k]? = some file)
    (hfn : s.findLoadRequest file.loadId = some (i, request)) (hh : request.Handled file out) :
    Inv { s with
      requests := s.requests.set i out.1
      outstanding := s.outstanding.eraseIdx k ++ out.2.toList
      answers := s.answers ++ [⟨i, out.1.caller, out.1.result, out.1.exception⟩]
      requestMap := s.requestMap.filter fun entry => entry.1 ≠ file.loadId } := by
  obtain ⟨hmm, hg, hid, _⟩ := h.mem_of_find hfn
  have hlt := (List.getElem?_eq_some_iff.1 hg).1
  -- what stays in the map is another request
  have hr : ∀ serial j, (serial, j) ∈ s.requestMap.filter (fun entry => entry.1 ≠ file.loadId) →
      (serial, j) ∈ s.requestMap ∧ i ≠ j := by
    intro serial j hj
    obtain ⟨hj, hne⟩ := mem_filter.1 hj
    refine ⟨hj, ?_⟩
    rintro rfl
    obtain ⟨_, hon, hs, -⟩ := h.entries serial i hj
    cases hon.symm.trans hg
    exact absurd (hs.symm.trans hid) (by simpa using hne)
  have hnw : i ∉ s.answers.map Answer.request := h.unanswered file.loadId i hmm
  exact {
    entries := by
      intro serial j hj
      obtain ⟨hj, hij⟩ := hr serial j hj
      exact h.entry_of_ne hfl hmm hj hij out.1 rfl
        (fun _ hfl => mem_append_left _ hfl) rfl
    keys := h.keys.sublist (filter_sublist.map Prod.fst)
    answers := by
      refine forall_mem_concat (h.answers_set hg hh.caller) ?_
      exact ⟨out.1, getElem?_set_self hlt, rfl⟩
    once := by
      rw [map_append, nodup_append]
      refine ⟨h.once, by simp, ?_⟩
      intro j hj last hls
      obtain rfl : last = i := by simpa using hls
      rintro rfl
      exact hnw hj
    unanswered := by
      intro serial j hj han
      obtain ⟨hj, hij⟩ := hr serial j hj
      rw [map_append] at han
      rcases mem_append.1 han with hol | hls
      · exact h.unanswered serial j hj hol
      · exact hij (by simpa using (mem_singleton.1 hls).symm)
    inserted := by
      intro j hj
      rw [map_append]
      by_cases hij : j = i
      · exact .inr (mem_append_right _ (by simp [hij]))
      · rcases h.inserted j hj with hmp | han
        · obtain ⟨⟨serial, j'⟩, he, rfl⟩ := mem_map.1 hmp
          refine .inl (mem_map.2 ⟨(serial, j'), mem_filter.2 ⟨he, ?_⟩, rfl⟩)
          have hne : serial ≠ file.loadId := by
            rintro rfl
            exact hij (h.entry_unique he hmm)
          simpa using hne
        · exact .inr (mem_append_left _ han) }

theorem Inv.step (h : Inv s) (hs : LoadRequests.step utf s l = some s') : Inv s' := by
  cases step_cases hs with
  | create call caller => exact h.create call caller
  | send k creating request hcr hr => exact h.send hcr hr
  | stray k answer file hfl hfn => exact h.stray hfl hfn
  | kept k answer file i request hfl ha hfn hk =>
    obtain ⟨-, -, hid, -⟩ := h.mem_of_find hfn
    exact h.kept hfl hfn (request.memberFunc_handled utf ha hid.symm) hk
  | answered k answer file i request request' hfl ha hfn hr' =>
    subst hr'
    obtain ⟨-, -, hid, -⟩ := h.mem_of_find hfn
    exact h.answered hfl hfn (request.memberFunc_handled utf ha hid.symm)

end

/-! ## The result -/

def callers (run : List (Label Caller)) : List Caller :=
  run.filterMap fun
    | .create _ caller => some caller
    | _ => none

theorem requests_callers_set (hg : s.requests[i]? = some request)
    (hc : request'.caller = request.caller) :
    (s.requests.set i request').map LoadRequest.caller = s.requests.map LoadRequest.caller := by
  obtain ⟨hlt, hg⟩ := List.getElem?_eq_some_iff.1 hg
  rw [map_set, hc, ← hg]
  apply ext_getElem?
  intro j
  by_cases hij : i = j
  · subst hij
    simp [hlt]
  · exact getElem?_set_ne hij

theorem requests_callers : ∀ run {s s' : State Caller},
    Inv s → runLabels (step utf) s run = some s' →
      s'.requests.map LoadRequest.caller = s.requests.map LoadRequest.caller ++ callers run := by
  intro run
  induction run with
  | nil =>
    intro s s' _ hrn
    cases hrn
    simp [callers]
  | cons l run ih =>
    intro s s' hin hrn
    obtain ⟨_, hm, hrs⟩ := runLabels_cons hrn
    rw [ih (hin.step hm) hrs]
    cases step_cases hm with
    | create call caller =>
      have hn : (call.loadRequest s.nextSerialId caller).caller = caller := by
        cases call <;> rfl
      simp [State.createLoadRequest, callers, hn]
    | send k creating request hcr hrq =>
      exact congrArg (· ++ callers run) (requests_callers_set hrq rfl)
    | stray => rfl
    | kept k answer file i request hfl hac hfn hk =>
      obtain ⟨-, hg, hid, -⟩ := hin.mem_of_find hfn
      have hcl := (request.memberFunc_handled utf hac hid.symm).caller
      exact congrArg (· ++ callers run) (requests_callers_set hg hcl)
    | answered k answer file i request request' hfl hac hfn hrq' =>
      subst hrq'
      obtain ⟨-, hg, hid, -⟩ := hin.mem_of_find hfn
      have hcl := (request.memberFunc_handled utf hac hid.symm).caller
      exact congrArg (· ++ callers run) (requests_callers_set hg hcl)

/-- **Every request is answered at most once and then forgotten**: an answer goes to the caller of
its request; a request that was inserted is in the map exactly as long as it has no answer; and when
nothing is under way the map is empty. -/
theorem requests_answered_once {utf : Utf} {serial : Int32} {run : List (Label Caller)}
    {s : State Caller} (hrun : runLabels (step utf) { nextSerialId := serial } run = some s) :
    (s.answers.map Answer.request).Nodup ∧
      (∀ answer ∈ s.answers, (callers run)[answer.request]? = some answer.caller) ∧
      (∀ i ∈ s.inserted, i ∈ s.requestMap.map Prod.snd ↔ i ∉ s.answers.map Answer.request) ∧
      (s.outstanding = [] → s.creating = [] → s.requestMap = []) := by
  have hin : Inv s := invariant_every_run .step run (inv_init serial) hrun
  have hcl := requests_callers run (inv_init serial) hrun
  refine ⟨hin.once, ?_, ?_, ?_⟩
  · intro answer han
    obtain ⟨request, hrq, hca⟩ := hin.answers answer han
    rw [map_nil, nil_append] at hcl
    rw [← hcl, getElem?_map, hrq, map_some, hca]
  · intro i hi
    constructor
    · intro hmp
      obtain ⟨⟨number, _⟩, he, rfl⟩ := mem_map.1 hmp
      exact hin.unanswered number _ he
    · exact (hin.inserted i hi).resolve_right
  · intro ho hcr
    apply eq_nil_iff_forall_not_mem.2
    rintro ⟨number, i⟩ he
    obtain ⟨request, -, -, hw⟩ := hin.entries number i he
    rcases hw with ⟨_, hf, -⟩ | ⟨-, creating, hmm, -⟩
    · rw [ho] at hf
      cases hf
    · rw [hcr] at hmm
      cases hmm

/-- A record with an extension record is read while a contact is deleted. -/
def readAndDelete : List (Label Nat) :=
  [.create (.getDiallingNumbers ELEMENTARY_FILE_ADN 0x6F4A 3) 100,
    .create (.updateDiallingNumbers ⟨⟨⟨[], []⟩, ELEMENTARY_FILE_ADN, 5, [], []⟩,
      ELEMENTARY_FILE_ADN, 5, [], true⟩ 0x6F4A) 200,
    .send 1, .send 0, .answer 0 (.size none 28),
    .answer 0 (.msg none (ascii "0000000000000000000000000001")),
    .answer 0 (.msg none []), .answer 0 (.msg (some loaderError) [])]

theorem requests_answered_once_crossed :
    ∃ s, runLabels (step basicUtf) { nextSerialId := 7 } readAndDelete = some s ∧
      s.answers.map Answer.request = [1, 0] ∧ s.inserted = [1, 0] ∧ s.requestMap = [] ∧
      ∀ answer ∈ s.answers, (callers readAndDelete)[answer.request]? = some answer.caller := by
  obtain ⟨s, hr, ha, hin, ho, hcr⟩ : ∃ s,
      runLabels (step basicUtf) { nextSerialId := 7 } readAndDelete = some s ∧
      s.answers.map Answer.request = [1, 0] ∧ s.inserted = [1, 0] ∧ s.outstanding = [] ∧
      s.creating = [] :=
    exists_run _ (by decide +kernel)
  obtain ⟨-, hcl, -, he⟩ := requests_answered_once hr
  exact ⟨s, hr, ha, hin, he ho hcr, hcl⟩

/-- **No request is stuck in the map**: in every state each has a message of the awaited kind under
way or about to be sent, under its own key, and no key is there twice. -/
theorem requests_wait {utf : Utf} {serial : Int32} {run : List (Label Caller)} {s : State Caller}
    (hrun : runLabels (step utf) { nextSerialId := serial } run = some s) :
    (∀ key i, (key, i) ∈ s.requestMap →
      ∃ request, s.requests[i]? = some request ∧ request.loadId = key ∧ Waits s request) ∧
      (s.requestMap.map Prod.fst).Nodup :=
  have h := invariant_every_run .step run (inv_init serial) hrun
  ⟨h.entries, h.keys⟩

theorem requests_wait_two :
    ∃ s, runLabels (step basicUtf) { nextSerialId := 7 } (readAndDelete.take 3) = some s ∧
      (∀ key i, (key, i) ∈ s.requestMap →
        ∃ request, s.requests[i]? = some request ∧ request.loadId = key ∧ Waits s request) ∧
      (s.requestMap.map Prod.fst).Nodup := by
  obtain ⟨s, hr⟩ := Option.isSome_iff_exists.1
    (show (runLabels (step basicUtf) { nextSerialId := 7 } (readAndDelete.take 3)).isSome by rfl)
  exact ⟨s, hr, requests_wait hr⟩

end TelephonyCore.Phonebook.LoadRequests
