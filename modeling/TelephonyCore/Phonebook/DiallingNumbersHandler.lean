import TelephonyCore.Phonebook.Names

/-!
# `IccDiallingNumbersHandler`: a contact as a record

A record of the phone book ends with fourteen bytes for the number: a length, the type of number,
ten bytes of digits and two file identifiers. What stands before them is the name, filled up with
FF. `FormatNameAndNumber` prepares a contact, `CreateSavingSequence` lays the record out and
`FetchDiallingNumberContent` reads one.
-/

namespace TelephonyCore.Phonebook

open Codec List

/-! ## The functions -/

def PRE_BYTES_NUM : Nat := 14
def MAX_NUMBER_SIZE_BYTES : Nat := 11
def MAX_NUMBER_CHAR : Nat := 20
def LENGTH_RATE : Nat := 2
def BCD_NUMBER_BYTES : Nat := 0
def TON_NPI_NUMBER : Nat := 1
def DIALING_NUMBERS_BEGIN : Nat := 2
def DIALING_NUMBERS_END : Nat := 11
def MORE_FILE_ID : Nat := 12
def EXTRA_FILE_ID : Nat := 13
def BYTE_VALUE : UInt8 := 0xFF

structure DiallingNumbersInfo where
  name : U16String
  number : U16String
deriving DecidableEq

/-- What `FormatNameAndNumber` does to the name. -/
def formatName (utf : Utf) (diallingNumber : DiallingNumbersInfo) : DiallingNumbersInfo :=
  let name := trim (utf.str16ToStr8 diallingNumber.name)
  let nameWide := utf.str8ToStr16 name
  let nameMaxNum := if isChineseString name then MAX_CHINESE_NAME else MAX_ENGLISH_NAME
  if nameWide.length > nameMaxNum then { diallingNumber with name := nameWide.take nameMaxNum }
  else diallingNumber

def formatNameAndNumber (utf : Utf) (diallingNumber : DiallingNumbersInfo) (isDel : Bool) :
    Bool × DiallingNumbersInfo :=
  if isDel then (true, ⟨[], []⟩)
  else
    let number := trim (utf.str16ToStr8 diallingNumber.number)
    let numberWide := utf.str8ToStr16 number
    let diallingNumber := formatName utf diallingNumber
    if numberWide.length > MAX_NUMBER_CHAR then
      let tempNum := number.take MAX_NUMBER_CHAR
      if isValidNumberString tempNum then
        (true, { diallingNumber with number := utf.str8ToStr16 tempNum })
      else (false, diallingNumber)
    else (isValidNumberString number, diallingNumber)

def createNameSequence (utf : Utf) (name : U16String) : Option (List UInt8) :=
  let tempTag := utf.str16ToStr8 name
  if isChineseString tempTag then hexStringConvertToBytes (charCodeToSequence16 name true)
  else hexStringConvertToBytes (charCodeToSequence8 tempTag false)

/-- Of a whole array, inside the bounds of the other. -/
def arrayCopy (src dest : List UInt8) (destPos : Nat) : List UInt8 :=
  dest.take destPos ++ src ++ dest.drop (destPos + src.length)

def fillNumberFiledForDiallingNumber (record : List UInt8) (number : StdString)
    (dataLength : Nat) : List UInt8 :=
  let offSet := dataLength - PRE_BYTES_NUM
  match numberConvertToBCD number false .adn with
  | none => record
  | some bcdCodes =>
    let record := arrayCopy bcdCodes record (offSet + TON_NPI_NUMBER)
    let record := record.set (offSet + BCD_NUMBER_BYTES) (UInt8.ofNat bcdCodes.length)
    let record := record.set (offSet + MORE_FILE_ID) BYTE_VALUE
    record.set (offSet + EXTRA_FILE_ID) BYTE_VALUE

/-- `CreateSavingSequence`; `none` where it returns no record. -/
def createSavingSequence (utf : Utf) (diallingNumber : DiallingNumbersInfo) (dataLength : Int) :
    Option (List UInt8) :=
  let offset := dataLength - PRE_BYTES_NUM
  if dataLength < 0 then none
  else
    let record := List.replicate dataLength.toNat BYTE_VALUE
    let maxNumberSize := (DIALING_NUMBERS_END - DIALING_NUMBERS_BEGIN + 1) * LENGTH_RATE
    if diallingNumber.number.length > maxNumberSize then none
    else
      let byteTag := (createNameSequence utf diallingNumber.name).getD []
      if byteTag.length ≤ offset then
        let tempNum := utf.str16ToStr8 diallingNumber.number
        let record := fillNumberFiledForDiallingNumber record tempNum dataLength.toNat
        some (if byteTag.length > 0 then arrayCopy byteTag record 0 else record)
      else none

/-- The contact and, for a load request, the number of its extension record. -/
def fetchDiallingNumberContent (utf : Utf) (diallingNumber : DiallingNumbersInfo)
    (recordData : StdString) (extensionRecord : Option UInt8) :
    DiallingNumbersInfo × Option UInt8 :=
  match hexStringConvertToBytes recordData with
  | none => (diallingNumber, extensionRecord)
  | some data =>
    let recordLen := data.length
    if recordLen < PRE_BYTES_NUM then (diallingNumber, extensionRecord)
    else
      let offset := recordLen - PRE_BYTES_NUM
      let name := utf.str8ToStr16 (diallingNumberStringFieldConvertToString utf data 0 offset)
      let length := min (data.getD offset 0).toNat MAX_NUMBER_SIZE_BYTES
      let number := utf.str8ToStr16 (bcdConvertToStringAt data recordLen (offset + 1) length .adn)
      (⟨name, number⟩, extensionRecord.map fun _ => data.getD (recordLen - 1) 0)

/-! ## The layout of a record -/

def numberField (number : StdString) : List UInt8 :=
  match numberConvertToBCD number false .adn with
  | none => List.replicate PRE_BYTES_NUM BYTE_VALUE
  | some bcdCodes =>
    UInt8.ofNat bcdCodes.length :: bcdCodes ++ List.replicate (13 - bcdCodes.length) BYTE_VALUE

/-- The packed number fits its place. -/
def NumberFits (number : StdString) : Prop :=
  ∀ bcdCodes, numberConvertToBCD number false .adn = some bcdCodes →
    bcdCodes.length ≤ MAX_NUMBER_SIZE_BYTES

variable {number : StdString}

theorem fillNumberFiledForDiallingNumber_eq (hf : NumberFits number) (offset : Nat) :
    fillNumberFiledForDiallingNumber (.replicate (offset + PRE_BYTES_NUM) BYTE_VALUE) number
        (offset + PRE_BYTES_NUM) = .replicate offset BYTE_VALUE ++ numberField number := by
  rw [fillNumberFiledForDiallingNumber, numberField]
  cases hcd : numberConvertToBCD number false .adn with
  | none => exact (replicate_append_replicate ..).symm
  | some bcdCodes =>
    have hl : bcdCodes.length ≤ 11 := hf bcdCodes hcd
    have hcp : arrayCopy bcdCodes (.replicate (offset + PRE_BYTES_NUM) BYTE_VALUE)
        (offset + 1) = .replicate offset BYTE_VALUE ++
          (BYTE_VALUE :: (bcdCodes ++ .replicate (13 - bcdCodes.length) BYTE_VALUE)) := by
      rw [arrayCopy, take_replicate, drop_replicate, PRE_BYTES_NUM,
        show min (offset + 1) (offset + 14) = offset + 1 by omega,
        show offset + 14 - (offset + 1 + bcdCodes.length) = 13 - bcdCodes.length by omega,
        replicate_succ', append_assoc, append_assoc]
      rfl
    -- the two file identifiers are already FF
    have hs : ∀ i, 12 ≤ i → ∀ b,
        (.replicate offset BYTE_VALUE ++
          (b :: (bcdCodes ++ .replicate (13 - bcdCodes.length) BYTE_VALUE))).set (offset + i)
            BYTE_VALUE = .replicate offset BYTE_VALUE ++
          (b :: (bcdCodes ++ .replicate (13 - bcdCodes.length) BYTE_VALUE)) := by
      intro i hi b
      obtain ⟨j, rfl⟩ : ∃ j, i = j + 1 := ⟨i - 1, by omega⟩
      rw [set_append_right _ _ (by simp), length_replicate,
        Nat.add_sub_cancel_left, set_cons_succ, set_append_right _ _ (by omega),
        set_replicate_self]
    simp only [TON_NPI_NUMBER, BCD_NUMBER_BYTES, MORE_FILE_ID, EXTRA_FILE_ID,
      Nat.add_sub_cancel, Nat.add_zero] at hcp ⊢
    rw [hcp, set_append_right _ _ (by simp), length_replicate, Nat.sub_self,
      set_cons_zero, hs 12 (by omega), hs 13 (by omega)]
    rfl

theorem createSavingSequence_eq {utf : Utf} {info : DiallingNumbersInfo} {dataLength : Int}
    {record : List UInt8} (hf : NumberFits (utf.str16ToStr8 info.number))
    (hrc : createSavingSequence utf info dataLength = some record) :
    ∃ n, record = (createNameSequence utf info.name).getD [] ++ .replicate n BYTE_VALUE ++
      numberField (utf.str16ToStr8 info.number) := by
  simp only [createSavingSequence] at hrc
  split at hrc
  next => cases hrc
  next hnn =>
    split at hrc
    next => cases hrc
    next =>
      set byteTag := (createNameSequence utf info.name).getD [] with ht
      split at hrc
      next hrm =>
        rw [PRE_BYTES_NUM] at hrm
        obtain ⟨offset, ho⟩ : ∃ offset, dataLength.toNat = offset + PRE_BYTES_NUM :=
          ⟨dataLength.toNat - 14, by rw [PRE_BYTES_NUM]; omega⟩
        have hle : byteTag.length ≤ offset := by rw [PRE_BYTES_NUM] at ho; omega
        rw [ho, fillNumberFiledForDiallingNumber_eq hf] at hrc
        refine ⟨offset - byteTag.length, ?_⟩
        have hc : arrayCopy byteTag (.replicate offset BYTE_VALUE ++
            numberField (utf.str16ToStr8 info.number)) 0 =
              byteTag ++ .replicate (offset - byteTag.length) BYTE_VALUE ++
                numberField (utf.str16ToStr8 info.number) := by
          rw [arrayCopy, take_zero, nil_append, Nat.zero_add,
            drop_append_of_le_length (by rw [length_replicate]; exact hle),
            drop_replicate, append_assoc]
        by_cases hp : byteTag.length > 0
        · rw [if_pos hp, hc] at hrc
          exact (Option.some.inj hrc).symm
        · rw [if_neg hp] at hrc
          have hnl : byteTag = [] := length_eq_zero_iff.1 (by omega)
          rw [hnl, nil_append, length_nil, Nat.sub_zero]
          exact (Option.some.inj hrc).symm
      next => cases hrc

theorem numberField_length (hf : NumberFits number) :
    (numberField number).length = PRE_BYTES_NUM := by
  rw [numberField]
  cases hc : numberConvertToBCD number false .adn with
  | none => exact length_replicate
  | some bcdCodes =>
    have hl : bcdCodes.length ≤ 11 := hf bcdCodes hc
    simp only [length_cons, length_append, length_replicate, PRE_BYTES_NUM]
    omega

def readNumber (number : StdString) : StdString :=
  match numberConvertToBCD number false .adn with
  | none => []
  | some bcdCodes => bcdConvertToString .adn bcdCodes

theorem bcdConvertToStringAt_append (front field : List UInt8) (hf : field.length = PRE_BYTES_NUM) :
    bcdConvertToStringAt (front ++ field) (front ++ field).length (front.length + 1)
        (min ((front ++ field).getD front.length 0).toNat MAX_NUMBER_SIZE_BYTES) .adn =
      bcdConvertToString .adn
        ((field.drop 1).take (min (field.getD 0 0).toNat MAX_NUMBER_SIZE_BYTES)) := by
  have hg : (front ++ field).getD front.length 0 = field.getD 0 0 := by
    simp [getElem?_append_right]
  have hr : ¬ front.length + 1 + min (field.getD 0 0).toNat MAX_NUMBER_SIZE_BYTES >
      (front ++ field).length := by
    rw [length_append, hf, PRE_BYTES_NUM, MAX_NUMBER_SIZE_BYTES]
    omega
  rw [hg, bcdConvertToStringAt, if_neg hr, drop_length_add_append]

theorem read_numberField (hf : NumberFits number) :
    bcdConvertToString .adn (((numberField number).drop 1).take
      (min ((numberField number).getD 0 0).toNat MAX_NUMBER_SIZE_BYTES)) = readNumber number := by
  rw [numberField, readNumber]
  cases hc : numberConvertToBCD number false .adn with
  | none => decide +kernel
  | some bcdCodes =>
    have hl : bcdCodes.length ≤ 11 := hf bcdCodes hc
    have hs : min (UInt8.ofNat bcdCodes.length).toNat MAX_NUMBER_SIZE_BYTES =
        bcdCodes.length := by
      rw [UInt8.toNat_ofNat', MAX_NUMBER_SIZE_BYTES]
      omega
    show bcdConvertToString .adn ((bcdCodes ++ _).take
      (min (UInt8.ofNat bcdCodes.length).toNat MAX_NUMBER_SIZE_BYTES)) = _
    rw [hs, take_left]

theorem fetchDiallingNumberContent_eq (utf : Utf) (hft : NumberFits number) (front : List UInt8)
    (info : DiallingNumbersInfo) (extensionRecord : Option UInt8) :
    (fetchDiallingNumberContent utf info
        (bytesConvertToHexString (front ++ numberField number)) extensionRecord).1 =
      ⟨utf.str8ToStr16 (diallingNumberStringFieldConvertToString utf
          (front ++ numberField number) 0 front.length),
        utf.str8ToStr16 (readNumber number)⟩ := by
  have hfl := numberField_length hft
  have hl : (front ++ numberField number).length = front.length + PRE_BYTES_NUM := by
    rw [length_append, hfl]
  have hne : front ++ numberField number ≠ [] := by
    intro hnl
    rw [hnl, length_nil, PRE_BYTES_NUM] at hl
    omega
  have ho : (front ++ numberField number).length - PRE_BYTES_NUM = front.length := by omega
  rw [fetchDiallingNumberContent, hexStringConvertToBytes_hex hne]
  simp only
  rw [if_neg (by omega)]
  simp only [ho]
  rw [bcdConvertToStringAt_append front _ hfl, read_numberField hft]

end TelephonyCore.Phonebook
