import TelephonyCore.Phonebook.DiallingNumbersHandler
import TelephonyCore.Lib.Faults

/-!
# What the name decoder reads

`DiallingNumberStringFieldConvertToString` is given a pointer and a length, for the name of a
contact (the record without its last fourteen bytes) and for the name of the service provider (EF
SPN without its first byte). Here it is written once more with every access to the field and to its
buffers; an access outside, or a string that is made of a null pointer, is a fault.

The accesses are inside. The null pointer is what `CharsConvertToChar16` returns for no bytes: a
field that has the flag 80 and less than two bytes behind it is a fault, and the only one.
-/

namespace TelephonyCore.Phonebook

open Codec (StdString)
open Lib Traced List

inductive BufferFault where
  | outside (i size : Nat)
  | nullString
deriving DecidableEq

/-- `src[i]` of an array of `size` bytes. -/
def readAt (src : List UInt8) (size i : Nat) : Traced BufferFault UInt8 := do
  check (i < size) (.outside i size)
  pure (src.getD i 0)

def readBytes (src : List UInt8) (size start n : Nat) : Traced BufferFault (List UInt8) :=
  each (readAt src size) (List.range' start n)

/-! ## The functions -/

/-- Of the bytes from `start` on. -/
def charsConvertToChar16Checked (charBytes : List UInt8) (size start charBytesLen : Nat)
    (bigEndian : Bool) : Traced BufferFault (Option U16String) :=
  if charBytesLen = 0 then pure none
  else if charBytesLen % 2 ≠ 0 then pure none
  else do
    -- charBytes[i] and charBytes[i + 1] for every second i
    let bytes ← readBytes charBytes size start charBytesLen
    pure (some (char16Loop bigEndian bytes))

def u16FromPointerChecked (cs : Option U16String) : Traced BufferFault U16String := do
  check (cs.isSome) .nullString
  pure (u16FromPointer cs)

/-- `new unsigned char[len * HALF_LEN]{ FF_DATA }` after the loop has written `chars`. -/
def dataUsc (len : Nat) (chars : List (UInt8 × UInt8)) : List UInt8 :=
  (chars.flatMap fun c => [c.1, c.2]) ++
    (0xFF :: List.replicate (len * 2 - 1) 0).drop (chars.length * 2)

/-- The loop over the characters, which `convert` makes of their bytes, and the string that is made
of them. -/
def ucsLoop (data : List UInt8) (length place len : Nat)
    (convert : UInt8 → Traced BufferFault (UInt8 × UInt8)) : Traced BufferFault U16String :=
  if len = 0 then pure []
  else do
    let bytes ← readBytes data length place (min len (length - place))
    let chars ← each convert bytes
    -- dataUsc[index] and dataUsc[index + 1]
    let _ ← each (fun i => check (2 * i + 1 < len * 2) (.outside (2 * i + 1) (len * 2)))
      (List.range chars.length)
    let cs ← charsConvertToChar16Checked (dataUsc len chars) (len * 2) 0 (len * 2) true
    -- cs is nullptr
    match cs with
    | none => pure []
    | some _ => u16FromPointerChecked cs

/-- The flag bit of a character of `UcsConvertToString` asks for it. -/
def ucsBase (data : List UInt8) (length offset : Nat) (b : UInt8) : Traced BufferFault Nat :=
  if b &&& 0x80 > 0 then do
    let base ← readAt data length (offset + 2)
    pure (base.toNat <<< 7)
  else pure 0

def ucsConvertToStringChecked (data : List UInt8) (length offset : Nat) :
    Traced BufferFault U16String :=
  if length ≤ offset + 1 then pure []
  else do
    let n ← readAt data length (offset + 1)
    let len := min n.toNat (length - START_POS)
    ucsLoop data length (offset + 3) len fun b => do
      let base ← ucsBase data length offset b
      let dataDouble := base + (b &&& 0x7F).toNat
      pure (UInt8.ofNat (dataDouble / 0x100), UInt8.ofNat (dataDouble % 0x100))

def ucsWideConvertToStringChecked (data : List UInt8) (length offset : Nat) :
    Traced BufferFault U16String :=
  if length ≤ offset + 1 then pure []
  else do
    let n ← readAt data length (offset + 1)
    let len := min n.toNat (length - END_POS)
    if len = 0 then pure []
    else
      let high ← readAt data length (offset + 2)
      let low ← readAt data length (offset + 3)
      let base := high.toNat <<< 8 + low.toNat
      ucsLoop data length (offset + 4) len fun b =>
        if b &&& 0x80 > 0 then
          let dataDouble := base + (b &&& 0x7F).toNat
          pure (UInt8.ofNat (dataDouble / 0x100), UInt8.ofNat (dataDouble % 0x100))
        else pure (0, b)

def chineseString (data : List UInt8) (length : Nat) (flag : UInt8) :
    Traced BufferFault U16String :=
  if flag = CHINESE_FLAG then do
    let cs ← charsConvertToChar16Checked data length 1 ((length - 1) / 2 * 2) true
    u16FromPointerChecked cs
  else pure []

def ucsString (data : List UInt8) (offset length : Nat) (flag : UInt8) :
    Traced BufferFault U16String := do
  let hs ← chineseString data length flag
  if length ≥ START_POS ∧ flag = UCS_FLAG then ucsConvertToStringChecked data length offset
  else if length ≥ END_POS ∧ flag = UCS_WIDE_FLAG then
    ucsWideConvertToStringChecked data length offset
  else pure hs

def diallingNumberStringFieldChecked (utf : Utf) (data : List UInt8) (offset length : Nat) :
    Traced BufferFault StdString :=
  if offset ≥ length then pure []
  else do
    let flag ← readAt data length offset
    let hs ← ucsString data offset length flag
    if hs ≠ [] then pure (utf.str16ToStr8 (hs.rdropWhile (· == FILLER)))
    else
      let bytes ← readBytes data length 0 length
      pure (cphs7bitConvertToString utf (bytesConvertToHexString bytes))

/-- Up to the name; `none` where it does not get there. -/
def fetchNameChecked (utf : Utf) (recordData : StdString) :
    Traced BufferFault (Option StdString) :=
  match hexStringConvertToBytes recordData with
  | none => pure none
  | some data =>
    if data.length < PRE_BYTES_NUM then pure none
    else do
      let name ← diallingNumberStringFieldChecked utf data 0 (data.length - PRE_BYTES_NUM)
      pure (some name)

inductive SpnStatus where
  | spnGeneral
  | operatorNameString
  | operatorNameShortForm
  | other
deriving DecidableEq

def INVALID_BYTES_NUM : Nat := 1

def parseSpnChecked (utf : Utf) (rawData : StdString) (spnStatus : SpnStatus) :
    Traced BufferFault StdString :=
  match hexStringConvertToBytes rawData with
  | none => pure []
  | some bytesRaw =>
    match spnStatus with
    | .spnGeneral =>
      diallingNumberStringFieldChecked utf (bytesRaw.drop INVALID_BYTES_NUM) 0
        (bytesRaw.length - INVALID_BYTES_NUM)
    | .operatorNameString | .operatorNameShortForm => pure (cphs7bitConvertToString utf rawData)
    | .other => pure []

/-! ## The accesses -/

theorem clean_readAt_iff {src : List UInt8} {size i : Nat} :
    (readAt src size i).Clean ↔ i < size := by
  rw [readAt, clean_bind_iff, clean_check_iff, and_iff_left (clean_pure _)]

theorem value_readAt (src : List UInt8) (size i : Nat) :
    (readAt src size i).value = src.getD i 0 := rfl

variable {data : List UInt8} {length start n : Nat}

theorem clean_readBytes (h : start + n ≤ length) : (readBytes data length start n).Clean := by
  rw [readBytes, clean_each_iff]
  intro i hi
  have hlt := (mem_range'_1.1 hi).2
  exact clean_readAt_iff.2 (by omega)

theorem clean_charsConvertToChar16Checked {bigEndian : Bool} (h : start + n ≤ length) :
    (charsConvertToChar16Checked data length start n bigEndian).Clean := by
  rw [charsConvertToChar16Checked]
  split
  · exact clean_pure none
  split
  · exact clean_pure none
  · exact clean_bind_iff.2 ⟨clean_readBytes h, clean_pure _⟩

theorem isSome_charsConvertToChar16Checked (data : List UInt8) (size start n : Nat)
    (bigEndian : Bool) :
    (charsConvertToChar16Checked data size start (n * 2) bigEndian).value.isSome ↔ n ≠ 0 := by
  rw [charsConvertToChar16Checked]
  by_cases hn : n = 0
  · rw [hn, if_pos rfl]
    exact iff_of_false (by simp) (by simp)
  · rw [if_neg (by omega), if_neg (by omega)]
    exact iff_of_true rfl hn

theorem clean_u16FromPointerChecked_iff {cs : Option U16String} :
    (u16FromPointerChecked cs).Clean ↔ cs.isSome := by
  rw [u16FromPointerChecked, clean_bind_iff, clean_check_iff, and_iff_left (clean_pure _)]

variable {len place : Nat} {convert : UInt8 → Traced BufferFault (UInt8 × UInt8)}

theorem clean_ucsLoop (hpl : place ≤ length) (hcn : ∀ b, (convert b).Clean) :
    (ucsLoop data length place len convert).Clean := by
  rw [ucsLoop]
  split
  · exact clean_pure []
  rw [clean_bind_iff, clean_bind_iff, clean_bind_iff, clean_bind_iff, clean_each_iff,
    clean_each_iff]
  refine ⟨clean_readBytes (by omega), fun b _ => hcn b, ?_,
    clean_charsConvertToChar16Checked (by omega), ?_⟩
  · intro i hi
    rw [value_each, length_map, readBytes, value_each, length_map, length_range', mem_range] at hi
    exact clean_check_iff.2 (by omega)
  · split
    next => exact clean_pure []
    next cs hcs => exact clean_u16FromPointerChecked_iff.2 (by rw [hcs]; rfl)

variable {offset : Nat}

theorem clean_ucsConvertToStringChecked (data : List UInt8) (hl : offset + 2 < length) :
    (ucsConvertToStringChecked data length offset).Clean := by
  rw [ucsConvertToStringChecked, if_neg (by omega), clean_bind_iff, clean_readAt_iff]
  refine ⟨by omega, clean_ucsLoop (by omega) fun b => ?_⟩
  rw [clean_bind_iff, and_iff_left (clean_pure _), ucsBase]
  split
  · exact clean_bind_iff.2 ⟨clean_readAt_iff.2 hl, clean_pure _⟩
  · exact clean_pure 0

theorem clean_ucsWideConvertToStringChecked (data : List UInt8) (hl : offset + 3 < length) :
    (ucsWideConvertToStringChecked data length offset).Clean := by
  rw [ucsWideConvertToStringChecked, if_neg (by omega), clean_bind_iff, clean_readAt_iff]
  refine ⟨by omega, ?_⟩
  simp only
  split
  · exact clean_pure []
  rw [clean_bind_iff, clean_bind_iff, clean_readAt_iff, clean_readAt_iff]
  refine ⟨by omega, hl, clean_ucsLoop (by omega) fun b => ?_⟩
  split <;> exact clean_pure _

theorem clean_ucsString_iff (data : List UInt8) (hp : 0 < length) (flag : UInt8) :
    (ucsString data 0 length flag).Clean ↔ ¬ (flag = CHINESE_FLAG ∧ (length - 1) / 2 = 0) := by
  have hr : (if length ≥ START_POS ∧ flag = UCS_FLAG then ucsConvertToStringChecked data length 0
    else if length ≥ END_POS ∧ flag = UCS_WIDE_FLAG then ucsWideConvertToStringChecked data length 0
    else pure (chineseString data length flag).value).Clean := by
    split
    next h => exact clean_ucsConvertToStringChecked data h.1
    split
    next h => exact clean_ucsWideConvertToStringChecked data h.1
    next => exact clean_pure _
  rw [ucsString, clean_bind_iff, and_iff_left hr, chineseString]
  by_cases hf : flag = CHINESE_FLAG
  · have hbs : (charsConvertToChar16Checked data length 1 ((length - 1) / 2 * 2) true).Clean :=
      clean_charsConvertToChar16Checked (by omega)
    rw [if_pos hf, clean_bind_iff, and_iff_right hbs,
      clean_u16FromPointerChecked_iff, isSome_charsConvertToChar16Checked]
    simp [hf]
  · rw [if_neg hf]
    exact iff_of_true (clean_pure _) (fun h => hf h.1)

/-- A field with the flag of the two-byte form that has no room for a character. -/
def NoRoomBehindFlag (field : List UInt8) : Prop :=
  ∃ rest, field = CHINESE_FLAG :: rest ∧ rest.length < 2

/-- **The accesses of a field** are inside, unless the flag of the two-byte form stands at its end.
-/
theorem clean_field_iff (utf : Utf) (data : List UInt8) (hln : length ≤ data.length) :
    (diallingNumberStringFieldChecked utf data 0 length).Clean ↔
      ¬ NoRoomBehindFlag (data.take length) := by
  rw [diallingNumberStringFieldChecked]
  cases length with
  | zero =>
    exact iff_of_true (clean_pure _) (by simp [NoRoomBehindFlag])
  | succ n =>
    obtain ⟨flag, rest, rfl⟩ := exists_cons_of_length_pos (show 0 < data.length by omega)
    rw [length_cons] at hln
    have hf : NoRoomBehindFlag ((flag :: rest).take (n + 1)) ↔
        flag = CHINESE_FLAG ∧ (n + 1 - 1) / 2 = 0 := by
      have hle : (rest.take n).length = n := by
        rw [length_take]
        omega
      constructor
      · rintro ⟨_, heq, hsh⟩
        cases heq
        exact ⟨rfl, by omega⟩
      · rintro ⟨rfl, hsh⟩
        exact ⟨_, rfl, by omega⟩
    rw [hf, if_neg (by omega), clean_bind_iff, clean_readAt_iff,
      and_iff_right (Nat.succ_pos n), clean_bind_iff, value_readAt, getD_cons_zero,
      clean_ucsString_iff _ (Nat.succ_pos n)]
    refine and_iff_left ?_
    split
    · exact clean_pure _
    · exact clean_bind_iff.2 ⟨clean_readBytes (by omega), clean_pure _⟩

/-! ## The string

The value is the one of `SimUtils.lean`, as long as the length is not more than the array has. -/

theorem value_readBytes (size : Nat) (h : start + n ≤ data.length) :
    (readBytes data size start n).value = (data.drop start).take n := by
  rw [readBytes, value_each]
  apply ext_getElem
  · simp only [length_map, length_range', length_take, length_drop]
    omega
  · intro i hi _
    rw [length_map, length_range'] at hi
    have hlt : start + i < data.length := by omega
    simp [value_readAt, hlt]

theorem value_charsConvertToChar16Checked (bigEndian : Bool) (size : Nat)
    (h : start + n ≤ data.length) :
    (charsConvertToChar16Checked data size start n bigEndian).value =
      charsConvertToChar16 ((data.drop start).take n) bigEndian := by
  have hl : ((data.drop start).take n).length = n := by
    rw [length_take, length_drop]
    omega
  rw [charsConvertToChar16Checked, charsConvertToChar16, value_ite, value_ite, value_bind,
    value_readBytes size h]
  simp only [← length_eq_zero_iff, hl]
  rfl

theorem dataUsc_eq {chars : List (UInt8 × UInt8)} (hl : chars.length = len) (hne : len ≠ 0) :
    dataUsc len chars = chars.flatMap fun c => [c.1, c.2] := by
  rw [dataUsc, drop_of_length_le, append_nil]
  rw [length_cons, length_replicate]
  omega

theorem value_ucsLoop (hle : len ≤ length - place) (hln : length ≤ data.length) :
    (ucsLoop data length place len convert).value =
      u16FromPointer (charsConvertToChar16 (((data.drop place).take len).flatMap
        fun b => [(convert b).value.1, (convert b).value.2]) true) := by
  rw [ucsLoop]
  by_cases hz : len = 0
  · rw [hz, if_pos rfl, take_zero]
    rfl
  · have hc : ((data.drop place).take len).length = len := by
      rw [length_take, length_drop]
      omega
    have hu : dataUsc len (((data.drop place).take len).map fun b => (convert b).value) =
        ((data.drop place).take len).flatMap
          fun b => [(convert b).value.1, (convert b).value.2] := by
      rw [dataUsc_eq (by rw [length_map, hc]) hz, flatMap_map]
    have hs : (((data.drop place).take len).flatMap
        fun b => [(convert b).value.1, (convert b).value.2]).length = len * 2 := by
      rw [length_flatMap]
      simp only [length_cons, length_nil, map_const', sum_replicate_nat, hc]
    rw [if_neg hz, Nat.min_eq_left hle]
    simp only [value_bind]
    rw [value_each, value_readBytes length (by omega), hu,
      value_charsConvertToChar16Checked true (len * 2) (by omega), drop_zero,
      take_of_length_le (by omega)]
    split
    next hn => rw [hn]; rfl
    next => rfl

theorem value_ucsBase (data : List UInt8) (length offset : Nat) (b : UInt8) :
    (ucsBase data length offset b).value =
      if b &&& 0x80 > 0 then (data.getD (offset + 2) 0).toNat <<< 7 else 0 := by
  rw [ucsBase]
  split <;> rfl

theorem value_ucsConvertToStringChecked (hl : length ≤ data.length) :
    (ucsConvertToStringChecked data length 0).value = ucsConvertToString data length 0 := by
  rw [ucsConvertToStringChecked, ucsConvertToString]
  split
  · rfl
  · rw [value_bind, value_readAt]
    refine (value_ucsLoop (Nat.min_le_right ..) hl).trans ?_
    simp only [value_bind, value_pure, value_ucsBase]
    rw [show length - (0 + 3) = length - START_POS from rfl,
      Nat.min_eq_left (Nat.min_le_right _ (length - START_POS))]

theorem value_ucsWideConvertToStringChecked (hl : length ≤ data.length) :
    (ucsWideConvertToStringChecked data length 0).value = ucsWideConvertToString data length 0 := by
  rw [ucsWideConvertToStringChecked, ucsWideConvertToString]
  split
  · rfl
  · rw [value_bind, value_readAt]
    simp only
    rw [show length - (0 + 4) = length - END_POS from rfl,
      Nat.min_eq_left (Nat.min_le_right _ (length - END_POS))]
    split
    next hz =>
      rw [hz, take_zero]
      rfl
    next =>
      refine (value_ucsLoop (Nat.min_le_right ..) hl).trans ?_
      refine congrArg (fun bytes => u16FromPointer (charsConvertToChar16 bytes true)) ?_
      refine flatMap_congr fun b _ => ?_
      split <;> rfl

theorem value_chineseString (hp : 0 < length) (hl : length ≤ data.length) (flag : UInt8) :
    (chineseString data length flag).value =
      if flag = CHINESE_FLAG then
        u16FromPointer (charsConvertToChar16 ((data.drop 1).take ((length - 1) / 2 * 2)) true)
      else [] := by
  rw [chineseString]
  split
  · rw [value_bind, value_charsConvertToChar16Checked true length (by omega)]
    rfl
  · rfl

theorem value_ucsString (hp : 0 < length) (hl : length ≤ data.length) (flag : UInt8) :
    (ucsString data 0 length flag).value =
      if length ≥ END_POS ∧ flag = UCS_WIDE_FLAG then ucsWideConvertToString data length 0
      else if length ≥ START_POS ∧ flag = UCS_FLAG then ucsConvertToString data length 0
      else if flag = CHINESE_FLAG then
        u16FromPointer (charsConvertToChar16 ((data.drop 1).take ((length - 1) / 2 * 2)) true)
      else [] := by
  rw [ucsString, value_bind, value_chineseString hp hl, value_ite,
    value_ite, value_ucsConvertToStringChecked hl,
    value_ucsWideConvertToStringChecked hl, value_pure]
  by_cases hu : length ≥ START_POS ∧ flag = UCS_FLAG
  · have hw : ¬ (length ≥ END_POS ∧ flag = UCS_WIDE_FLAG) := by
      rintro ⟨-, h⟩
      rw [h] at hu
      exact absurd hu.2 (by decide)
    rw [if_pos hu, if_neg hw, if_pos hu]
  · rw [if_neg hu, if_neg hu]

theorem value_diallingNumberStringFieldChecked (utf : Utf) (hl : length ≤ data.length) :
    (diallingNumberStringFieldChecked utf data 0 length).value =
      diallingNumberStringFieldConvertToString utf data 0 length := by
  rw [diallingNumberStringFieldChecked, diallingNumberStringFieldConvertToString]
  split
  · rfl
  next hp =>
    rw [value_bind, value_bind, value_readAt, value_ucsString (by omega) hl, value_ite,
      value_bind, value_readBytes length (by omega), drop_zero]
    rfl

/-! ## The two callers -/

def nameField (data : List UInt8) : List UInt8 := data.take (data.length - PRE_BYTES_NUM)

def spnField (bytesRaw : List UInt8) : List UInt8 := bytesRaw.drop INVALID_BYTES_NUM

theorem clean_fetchNameChecked_iff (utf : Utf) (recordData : StdString) :
    (fetchNameChecked utf recordData).Clean ↔
      ∀ data ∈ hexStringConvertToBytes recordData, ¬ NoRoomBehindFlag (nameField data) := by
  rw [fetchNameChecked]
  cases hexStringConvertToBytes recordData with
  | none => exact iff_of_true (clean_pure none) (by simp)
  | some data =>
    simp only [Option.mem_def, Option.some.injEq, forall_eq']
    split
    next hsh =>
      -- a record without a name field
      have hn : nameField data = [] := by
        rw [nameField, show data.length - PRE_BYTES_NUM = 0 by omega, take_zero]
      rw [hn]
      exact iff_of_true (clean_pure none) (by simp [NoRoomBehindFlag])
    next =>
      rw [clean_bind_iff, and_iff_left (clean_pure _),
        clean_field_iff utf data (Nat.sub_le _ _), nameField]

theorem clean_parseSpnChecked_iff (utf : Utf) (rawData : StdString) :
    (parseSpnChecked utf rawData .spnGeneral).Clean ↔
      ∀ bytesRaw ∈ hexStringConvertToBytes rawData, ¬ NoRoomBehindFlag (spnField bytesRaw) := by
  rw [parseSpnChecked]
  cases hexStringConvertToBytes rawData with
  | none => exact iff_of_true (clean_pure []) (by simp)
  | some bytesRaw =>
    simp only [Option.mem_def, Option.some.injEq, forall_eq']
    rw [← length_drop, clean_field_iff utf _ (Nat.le_refl _), take_length, spnField]

/-- **Text fields of a card.** A field is decoded from its own bytes exactly if it is not a flag of
the two-byte form with less than two bytes behind it. -/
theorem sim_text_fields_iff (utf : Utf) :
    (∀ recordData, (fetchNameChecked utf recordData).Clean ↔
      ∀ data ∈ hexStringConvertToBytes recordData, ¬ NoRoomBehindFlag (nameField data)) ∧
    (∀ rawData, (parseSpnChecked utf rawData .spnGeneral).Clean ↔
      ∀ bytesRaw ∈ hexStringConvertToBytes rawData, ¬ NoRoomBehindFlag (spnField bytesRaw)) :=
  ⟨clean_fetchNameChecked_iff utf, clean_parseSpnChecked_iff utf⟩

/-- A record of fifteen bytes whose name field is the flag alone, and EF SPN with nothing behind
the flag. -/
theorem flag_alone_is_null :
    BufferFault.nullString ∈ (fetchNameChecked basicUtf
        (bytesConvertToHexString (0x80 :: List.replicate 14 0xFF))).faults ∧
      BufferFault.nullString ∈ (parseSpnChecked basicUtf
        (bytesConvertToHexString [0x00, 0x80]) .spnGeneral).faults := by
  decide +kernel

end TelephonyCore.Phonebook
