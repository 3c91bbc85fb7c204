import TelephonyCore.Phonebook.DiallingNumbersHandler

/-!
# `IccDiallingNumbersCache`: the phone book in memory

The cache keeps, by file, the list of contacts that a load delivered. `UpdateDiallingNumberToIcc`
picks the record of a new contact, or checks the record of a change, in the cached list, and only
then asks `IccDiallingNumbersHandler` to write. When that is answered,
`ProcessChangeDiallingNumbersDone` puts the contact into the list. In a full list an addition gets
the index `ADD_FLAG`, and the request goes out for the record -1.

Contacts are values here; in the source they are shared pointers.
-/

namespace TelephonyCore.Phonebook

open Codec Option

/-! ## Contacts -/

abbrev FileId := Nat

def ELEMENTARY_FILE_ADN : FileId := 0x6F3A
def ELEMENTARY_FILE_FDN : FileId := 0x6F3B
def ELEMENTARY_FILE_SDN : FileId := 0x6F49
def ELEMENTARY_FILE_PBR : FileId := 0x4F30
def ADD_FLAG : Int := -1
def EMPTY_INDEX : Int := 0
def LOADER_ERROR : Nat := 200
def PARAMETER_INCORRECT : Nat := 201
def RECORD_LENGTH : Int := 28
def INVALID_LENGTH : Int := 49

structure Contact extends DiallingNumbersInfo where
  elementaryFileId : FileId := 0
  index : Int := EMPTY_INDEX
  emails : List U16String := []
  pin2 : U16String := []
deriving DecidableEq

def Contact.isEmpty (contact : Contact) : Bool :=
  contact.name.isEmpty && contact.number.isEmpty && contact.emails.isEmpty

/-- A `RadioResponseInfo` that is reported as an exception. Its error is not `ErrType::NONE`. -/
structure RadioError where
  error : Nat
  ne_none : error ≠ 0
deriving DecidableEq

def loaderError : RadioError := ⟨LOADER_ERROR, by decide⟩
def parameterIncorrect : RadioError := ⟨PARAMETER_INCORRECT, by decide⟩

/-! ## The cache -/

structure Cache where
  /-- `diallingNumberFileList_`; the pointer of an entry may be null -/
  diallingNumberFileList : FileId → Option (Option (List Contact)) := fun _ => none
  /-- of the USIM service -/
  isLoadDiallingNumSuccess : Bool := true

def Cache.clearDiallingNumberCache (cache : Cache) : Cache :=
  { cache with diallingNumberFileList := fun _ => none }

def Cache.loadReadyDiallingNumbers (cache : Cache) (fileId : FileId) : Option (List Contact) :=
  (cache.diallingNumberFileList fileId).join

def Cache.insert (cache : Cache) (fileId : FileId) (list : Option (List Contact)) : Cache :=
  { cache with
    diallingNumberFileList := Function.update cache.diallingNumberFileList fileId (some list) }

def Cache.processObtainAdnDetailsDone (cache : Cache) (fileId : FileId)
    (list : Option (List Contact)) : Cache :=
  cache.insert fileId list

/-- The list of a load that failed is not kept, and the flag of the failure is taken back. -/
def Cache.processObtainPbrDetailsDone (cache : Cache) (fileId : FileId)
    (list : Option (List Contact)) : Cache :=
  if !cache.isLoadDiallingNumSuccess then
    { diallingNumberFileList := Function.update cache.diallingNumberFileList fileId none
      isLoadDiallingNumSuccess := true }
  else cache.insert fileId list

/-- `none` where it reads a null list or `at` throws. -/
def Cache.processChangeDiallingNumbersDone (cache : Cache) (fileId : FileId) (index : Int) :
    Except RadioError Contact → Option Cache
  | .error _ => some cache
  | .ok contact =>
    match cache.diallingNumberFileList fileId with
    | none => some cache
    | some none => none
    | some (some list) =>
      if 1 ≤ index ∧ index ≤ list.length then
        some (cache.insert fileId (some (list.set (index - 1).toNat contact)))
      else none

def isDiallingNumberEqual (src dest : Contact) : Bool :=
  src.name == dest.name && src.number == dest.number && src.emails == dest.emails

/-- The last contact that is equal. -/
def searchIndexByNameAndNumber (list : List Contact) (info : Contact) (index : Int) : Int :=
  list.foldl (fun index item => if isDiallingNumberEqual info item then item.index else index) index

/-- The index to write to, `none` where it returns false. -/
def Cache.checkValueAndOperation (cache : Cache) (list : List Contact) (index : Int)
    (fileId : FileId) : Option Int :=
  if index = ADD_FLAG then
    match list.findIdx? Contact.isEmpty with
    | some count => some (count + 1)
    -- the loop ends without a position and the function still returns true
    | none => some index
  else
    let outOfRange :=
      match cache.loadReadyDiallingNumbers fileId with
      | none => false
      | some vc => index < 1 || (vc.length : Int) < index
    if outOfRange || list.any fun item => item.index == index && item.isEmpty then none
    else some index

structure UpdateInfor where
  diallingNumber : Contact
  fileId : FileId
  index : Int
  pin2 : StdString
  isDel : Bool
deriving DecidableEq

/-- The request to the handler, or the error that `SendExceptionResult` gives the caller. -/
def Cache.updateDiallingNumberToIcc (cache : Cache) (utf : Utf) (fileId : FileId)
    (info : Contact) (index : Int) (isDel : Bool) : Except RadioError UpdateInfor :=
  match cache.loadReadyDiallingNumbers fileId with
  | none => .error loaderError
  | some list =>
    let index :=
      if isDel && index == EMPTY_INDEX then searchIndexByNameAndNumber list info index else index
    match cache.checkValueAndOperation list index fileId with
    | none => .error loaderError
    | some index =>
      .ok {
        diallingNumber := { info with elementaryFileId := fileId, index := index, pin2 := [] }
        fileId
        index
        pin2 := if fileId = ELEMENTARY_FILE_ADN then [] else utf.str16ToStr8 info.pin2
        isDel }

/-! ## Requests of the handler -/

def getFilePath (elementaryFileId : FileId) : StdString :=
  if elementaryFileId = ELEMENTARY_FILE_ADN then ascii "3F007F10" else []

/-- The arguments of `UpdateLinearFixedFile`. -/
structure UpdateCommand where
  fileId : FileId
  path : StdString
  fileNum : Int
  data : StdString
  dataLength : Int
  pin2 : StdString
deriving DecidableEq

/-- A `ControllerToFileMsg` with the error, or an `EfLinearResult` without exception. -/
inductive SizeAnswer where
  | error (exception : RadioError)
  | size (recordLength : Int)
deriving DecidableEq

def sendUpdateCommand (utf : Utf) (infor : UpdateInfor) (length : Int) : Option UpdateCommand :=
  let dataLen := if length = INVALID_LENGTH then RECORD_LENGTH else length
  if dataLen > 0 then
    (createSavingSequence utf infor.diallingNumber.toDiallingNumbersInfo dataLen).map fun data =>
      { fileId := infor.fileId
        path := getFilePath infor.fileId
        fileNum := infor.index
        data := bytesConvertToHexString data
        dataLength := dataLen
        pin2 := infor.pin2 }
  else none

/-- The command and the request with the formatted contact, or the exception. -/
def processLinearSizeDone (utf : Utf) (infor : UpdateInfor) :
    SizeAnswer → Except RadioError (UpdateInfor × UpdateCommand)
  | .error exception => .error exception
  | .size length =>
    let formatted := formatNameAndNumber utf infor.diallingNumber.toDiallingNumbersInfo infor.isDel
    let infor :=
      { infor with
        diallingNumber := { infor.diallingNumber with toDiallingNumbersInfo := formatted.2 } }
    if !formatted.1 then .error parameterIncorrect
    else
      match sendUpdateCommand utf infor length with
      | none => .error parameterIncorrect
      | some command => .ok (infor, command)

/-- The contact is the result of a write without exception. -/
def processUpdateRecordDone (infor : UpdateInfor) : Option RadioError → Except RadioError Contact
  | none => .ok infor.diallingNumber
  | some exception => .error exception

def processDiallingNumber (utf : Utf) (fileId : FileId) (fileResults : List StdString) :
    List Contact :=
  fileResults.mapIdx fun i item =>
    { (fetchDiallingNumberContent utf ⟨[], []⟩ item none).1 with
      elementaryFileId := fileId
      index := i + 1 }

/-! ## What the functions give -/

@[simp] theorem Cache.loadReady_insert_self (cache : Cache) (fileId : FileId)
    (list : Option (List Contact)) :
    (cache.insert fileId list).loadReadyDiallingNumbers fileId = list := by
  simp [insert, loadReadyDiallingNumbers]

variable {fileId : FileId}
  {fileId' : FileId} {cache' : Cache} {contact info : Contact} {list : List Contact}
  {utf : Utf} {infor : UpdateInfor}

theorem Cache.loadReady_insert_of_ne (cache : Cache) (h : fileId ≠ fileId')
    (list : Option (List Contact)) : (cache.insert fileId' list).loadReadyDiallingNumbers fileId =
      cache.loadReadyDiallingNumbers fileId := by
  simp only [insert, loadReadyDiallingNumbers, Function.update_of_ne h]

theorem Cache.loadReady_processObtainPbrDetailsDone (cache : Cache) (h : fileId ≠ fileId')
    (list : Option (List Contact)) :
    (cache.processObtainPbrDetailsDone fileId' list).loadReadyDiallingNumbers fileId =
      cache.loadReadyDiallingNumbers fileId := by
  rw [processObtainPbrDetailsDone]
  split
  · simp only [loadReadyDiallingNumbers, Function.update_of_ne h]
  · exact cache.loadReady_insert_of_ne h list

variable {cache : Cache} {index : Int}

theorem Cache.processChangeDiallingNumbersDone_of_list
    (hl : cache.loadReadyDiallingNumbers fileId = some list)
    (h : cache.processChangeDiallingNumbersDone fileId index (.ok contact) = some cache') :
    1 ≤ index ∧ index ≤ list.length ∧
      cache' = cache.insert fileId (some (list.set (index - 1).toNat contact)) := by
  have he : cache.diallingNumberFileList fileId = some (some list) := join_eq_some_iff.1 hl
  simp only [processChangeDiallingNumbersDone, he] at h
  obtain ⟨⟨hf, hto⟩, ⟨⟩⟩ := ite_none_right_eq_some.1 h
  exact ⟨hf, hto, rfl⟩

theorem Cache.processChangeDiallingNumbersDone_ok {list' : List Contact}
    (h : cache.processChangeDiallingNumbersDone fileId index (.ok contact) = some cache')
    (hl : cache'.loadReadyDiallingNumbers fileId = some list') :
    ∃ list, cache.loadReadyDiallingNumbers fileId = some list ∧ 1 ≤ index ∧
      index ≤ list.length ∧ list' = list.set (index - 1).toNat contact := by
  cases hb : cache.loadReadyDiallingNumbers fileId with
  | none =>
    -- without an entry nothing changes, and a null list is read
    rw [processChangeDiallingNumbersDone] at h
    split at h
    next =>
      cases h
      cases hb.symm.trans hl
    next => cases h
    next list he =>
      cases hb.symm.trans (join_eq_some_iff.2 he)
  | some list =>
    obtain ⟨hf, hto, rfl⟩ := processChangeDiallingNumbersDone_of_list hb h
    rw [loadReady_insert_self] at hl
    exact ⟨list, rfl, hf, hto, (some.inj hl).symm⟩

theorem Cache.checkValueAndOperation_add
    (h : cache.checkValueAndOperation list ADD_FLAG fileId = some index) :
    index = ADD_FLAG ∨ ∃ (count : Nat) (contact : Contact), list[count]? = some contact ∧
      contact.isEmpty ∧ index = count + 1 := by
  rw [checkValueAndOperation, if_pos rfl] at h
  cases hf : list.findIdx? Contact.isEmpty with
  | none =>
    rw [hf] at h
    exact .inl (some.inj h).symm
  | some count =>
    rw [hf] at h
    obtain ⟨hlt, he, _⟩ := List.findIdx?_eq_some_iff_getElem.1 hf
    exact .inr ⟨count, list[count], List.getElem?_eq_getElem hlt, he, (some.inj h).symm⟩

theorem Cache.checkValueAndOperation_of_ne {index' : Int}
    (h : cache.checkValueAndOperation list index fileId = some index') (hne : index ≠ ADD_FLAG) :
    index' = index := by
  rw [checkValueAndOperation, if_neg hne] at h
  exact (some.inj (ite_none_left_eq_some.1 h).2).symm

theorem Cache.updateDiallingNumberToIcc_ok {isDel : Bool}
    (h : cache.updateDiallingNumberToIcc utf fileId info index isDel = .ok infor) :
    ∃ list, cache.loadReadyDiallingNumbers fileId = some list ∧
      cache.checkValueAndOperation list
        (if isDel && index == EMPTY_INDEX then searchIndexByNameAndNumber list info index
          else index) fileId = some infor.index ∧
      infor.fileId = fileId ∧ infor.isDel = isDel ∧
      infor.diallingNumber =
        { info with elementaryFileId := fileId, index := infor.index, pin2 := [] } := by
  rw [updateDiallingNumberToIcc] at h
  cases hl : cache.loadReadyDiallingNumbers fileId with
  | none =>
    rw [hl] at h
    cases h
  | some list =>
    simp only [hl] at h
    split at h
    next => cases h
    next hid =>
      obtain rfl := Except.ok.inj h
      exact ⟨list, rfl, hid, rfl, rfl, rfl⟩

theorem Cache.updateDiallingNumberToIcc_add
    (h : cache.updateDiallingNumberToIcc utf fileId info ADD_FLAG false = .ok infor) :
    ∃ list, cache.loadReadyDiallingNumbers fileId = some list ∧
      cache.checkValueAndOperation list ADD_FLAG fileId = some infor.index ∧
      infor.fileId = fileId ∧ infor.isDel = false ∧
      infor.diallingNumber.isEmpty = info.isEmpty := by
  obtain ⟨list, hl, hid, hf, hdl, hc⟩ := updateDiallingNumberToIcc_ok h
  exact ⟨list, hl, hid, hf, hdl, by rw [hc]; rfl⟩

theorem processLinearSizeDone_ok {infor' : UpdateInfor} {answer : SizeAnswer}
    {command : UpdateCommand} (h : processLinearSizeDone utf infor answer = .ok (infor', command)) :
    infor'.fileId = infor.fileId ∧ infor'.index = infor.index ∧ command.fileNum = infor.index ∧
      infor'.diallingNumber = { infor.diallingNumber with
          toDiallingNumbersInfo := infor'.diallingNumber.toDiallingNumbersInfo } ∧
      formatNameAndNumber utf infor.diallingNumber.toDiallingNumbersInfo infor.isDel =
        (true, infor'.diallingNumber.toDiallingNumbersInfo) := by
  cases answer with
  | error exception => exact absurd h (by simp [processLinearSizeDone])
  | size length =>
    simp only [processLinearSizeDone] at h
    split at h
    next => cases h
    next hf =>
      split at h
      next => cases h
      next hc =>
        obtain ⟨rfl, rfl⟩ := Prod.mk.inj (Except.ok.inj h)
        obtain ⟨_, hc⟩ := ite_none_right_eq_some.1 hc
        obtain ⟨_, _, rfl⟩ := map_eq_some_iff.1 hc
        exact ⟨rfl, rfl, rfl, rfl, Prod.ext (by simpa using hf) rfl⟩

end TelephonyCore.Phonebook
