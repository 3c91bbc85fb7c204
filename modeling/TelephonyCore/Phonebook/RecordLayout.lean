import TelephonyCore.Phonebook.ContactRoundTrip
import TelephonyCore.Lib.Writes

/-!
# The writes of `CreateSavingSequence`

Here the function is written once more over the buffer that it allocates, write by write, also where
it gives the buffer up. The number goes to fixed places from the end of the buffer, and nothing but
the length of the number in characters keeps its bytes inside: at most twenty, hence at most eleven
bytes with the type. This length is taken of the wide text and the bytes are made of the narrow one,
so the conversion between the two has a part in it (`Utf.KeepsAsciiLength`).
-/

namespace TelephonyCore.Phonebook

open Codec (StdString)
open Lib List Buffer

/-! ## The functions -/

def emptyRecord (dataLength : Nat) : Buffer UInt8 :=
  (Buffer.alloc (List.replicate dataLength 0)).writeList 0 (List.replicate dataLength BYTE_VALUE)

def fillNumberFiledWrites (record : Buffer UInt8) (number : StdString) (dataLength : Int) :
    Buffer UInt8 :=
  let offSet := dataLength - PRE_BYTES_NUM
  match numberConvertToBCD number false .adn with
  | none => record
  | some bcdCodes =>
    let record := record.writeList (offSet + TON_NPI_NUMBER) bcdCodes
    let record := record.write (offSet + BCD_NUMBER_BYTES) (UInt8.ofNat bcdCodes.length)
    let record := record.write (offSet + MORE_FILE_ID) BYTE_VALUE
    record.write (offSet + EXTRA_FILE_ID) BYTE_VALUE

/-- The buffer, if one is allocated, and whether it is returned. -/
def createSavingSequenceWrites (utf : Utf) (diallingNumber : DiallingNumbersInfo)
    (dataLength : Int) : Option (Buffer UInt8 × Bool) :=
  let offset := dataLength - PRE_BYTES_NUM
  if dataLength < 0 then none
  else
    let record := emptyRecord dataLength.toNat
    let maxNumberSize := (DIALING_NUMBERS_END - DIALING_NUMBERS_BEGIN + 1) * LENGTH_RATE
    if diallingNumber.number.length > maxNumberSize then some (record, false)
    else
      let byteTag := (createNameSequence utf diallingNumber.name).getD []
      if byteTag.length ≤ offset then
        let tempNum := utf.str16ToStr8 diallingNumber.number
        let record := fillNumberFiledWrites record tempNum dataLength
        some (if byteTag.length > 0 then record.writeList 0 byteTag else record, true)
      else some (record, false)

/-- Every character in ASCII comes from one. -/
def Utf.KeepsAsciiLength (utf : Utf) : Prop :=
  ∀ w, IsAscii (utf.str16ToStr8 w) → (utf.str16ToStr8 w).length ≤ w.length

theorem basicUtf_keepsAsciiLength : basicUtf.KeepsAsciiLength := by
  intro w hac
  have hb : basicUtf.str8ToStr16 (basicUtf.str16ToStr8 w) = w := Utf8.decode_encode w
  rw [basicUtf_faithful.str8ToStr16_ascii _ hac] at hb
  calc (basicUtf.str16ToStr8 w).length = (widen (basicUtf.str16ToStr8 w)).length := by
        rw [widen, length_map]
    _ ≤ w.length := by rw [hb]

/-! ## The bytes of a number fit -/

variable {number : StdString} {utf : Utf} {bcdCodes name : List UInt8} {offset : Nat}

theorem isAscii_of_hasCode (h : ∀ c ∈ digitsOf number, hasCode c) : IsAscii number := by
  have hch : ∀ c, hasCode c → c < 0x80 := forall_byte (by decide +kernel)
  intro c hc
  by_cases hp : c = PLUS
  · rw [hp]
    decide
  · exact hch c (h c (mem_filter.2 ⟨hc, by simpa using hp⟩))

theorem numberFits_of_keepsAsciiLength (hu : utf.KeepsAsciiLength) {number : U16String}
    (hl : number.length ≤ MAX_NUMBER_CHAR) : NumberFits (utf.str16ToStr8 number) := by
  intro bcdCodes hc
  have hac := isAscii_of_hasCode (hasCode_of_numberConvertToBCD hc)
  exact numberFits_of_length_le (Nat.le_trans (hu number hac) hl) bcdCodes hc

/-! ## The writes -/

section Fill

variable {record : Buffer UInt8} {number : StdString} {offset : Nat}

@[simp] theorem length_fillNumberFiledWrites (record : Buffer UInt8) (number : StdString)
    (dataLength : Int) :
    (fillNumberFiledWrites record number dataLength).content.length = record.content.length := by
  rw [fillNumberFiledWrites]
  cases numberConvertToBCD number false .adn with
  | none => rfl
  | some bcdCodes => simp only [length_write, length_writeList]

theorem offSet_add (offset k : Nat) :
    ((offset + PRE_BYTES_NUM : Nat) : Int) - PRE_BYTES_NUM + k = (offset + k : Nat) := by
  omega

theorem inside_fillNumberFiledWrites (hf : NumberFits number) (hin : record.Inside)
    (hln : record.content.length = offset + PRE_BYTES_NUM) :
    (fillNumberFiledWrites record number (offset + PRE_BYTES_NUM : Nat)).Inside := by
  rw [fillNumberFiledWrites]
  cases hc : numberConvertToBCD number false .adn with
  | none => exact hin
  | some bcdCodes =>
    have hbs : bcdCodes.length ≤ 11 := hf bcdCodes hc
    -- a place for a single byte is one of the last fourteen
    have hpl : ∀ {buffer : Buffer UInt8} k b, k < 14 → buffer.Inside →
        buffer.content.length = record.content.length →
        (buffer.write ((offset + k : Nat) : Int) b).Inside := by
      intro buffer k b hk hbf hs
      apply hbf.write b (Int.natCast_nonneg _)
      rw [hs, hln, PRE_BYTES_NUM]
      omega
    have hls : (record.writeList ((offset + TON_NPI_NUMBER : Nat) : Int) bcdCodes).Inside := by
      apply hin.writeList bcdCodes (Int.natCast_nonneg _)
      rw [hln, PRE_BYTES_NUM, TON_NPI_NUMBER]
      omega
    simp only [offSet_add]
    apply hpl EXTRA_FILE_ID _ (by decide)
    · apply hpl MORE_FILE_ID _ (by decide)
      · exact hpl BCD_NUMBER_BYTES _ (by decide) hls (by simp)
      · simp
    · simp

theorem content_fillNumberFiledWrites (hf : NumberFits number)
    (hl : record.content.length = offset + PRE_BYTES_NUM) :
    (fillNumberFiledWrites record number (offset + PRE_BYTES_NUM : Nat)).content =
      fillNumberFiledForDiallingNumber record.content number (offset + PRE_BYTES_NUM) := by
  rw [fillNumberFiledWrites, fillNumberFiledForDiallingNumber]
  cases hc : numberConvertToBCD number false .adn with
  | none => rfl
  | some bcdCodes =>
    have hbs : bcdCodes.length ≤ 11 := hf bcdCodes hc
    have hr : offset + TON_NPI_NUMBER + bcdCodes.length ≤ record.content.length := by
      rw [hl, TON_NPI_NUMBER, PRE_BYTES_NUM]
      omega
    simp only [offSet_add, content_write, content_writeList bcdCodes record _ hr]
    rfl

end Fill

theorem length_emptyRecord (n : Nat) : (emptyRecord n).content.length = n := by
  rw [emptyRecord, length_writeList]
  exact length_replicate

theorem inside_emptyRecord (n : Nat) : (emptyRecord n).Inside := by
  apply (inside_alloc _).writeList _ (le_refl 0)
  simp [alloc]

theorem content_emptyRecord (n : Nat) : (emptyRecord n).content = .replicate n BYTE_VALUE := by
  have h := content_writeList (.replicate n BYTE_VALUE) (.alloc
    (.replicate n 0)) 0 (by simp [alloc])
  rw [take_zero, nil_append, drop_of_length_le (by simp [alloc]), append_nil] at h
  exact h

theorem createSavingSequenceWrites_cases (utf : Utf) (info : DiallingNumbersInfo) {dataLength : Int}
    (hnn : 0 ≤ dataLength) :
    createSavingSequenceWrites utf info dataLength = some (emptyRecord dataLength.toNat, false) ∨
      ∃ offset, dataLength = (offset + PRE_BYTES_NUM : Nat) ∧ info.number.length ≤ MAX_NUMBER_CHAR ∧
        ((createNameSequence utf info.name).getD []).length ≤ offset ∧
        createSavingSequenceWrites utf info dataLength =
          some ((fillNumberFiledWrites (emptyRecord (offset + PRE_BYTES_NUM))
            (utf.str16ToStr8 info.number) dataLength).writeList 0
              ((createNameSequence utf info.name).getD []), true) := by
  rw [createSavingSequenceWrites]
  simp only
  rw [if_neg (not_lt.2 hnn)]
  split
  next => exact .inl rfl
  next hnu =>
  split
  next hnm =>
    obtain ⟨offset, rfl⟩ : ∃ offset, dataLength = (offset + PRE_BYTES_NUM : Nat) :=
      ⟨dataLength.toNat - PRE_BYTES_NUM, by omega⟩
    refine .inr ⟨offset, rfl, not_lt.1 hnu, by omega, ?_⟩
    cases (createNameSequence utf info.name).getD [] with
    | nil => rfl
    | cons first rest => rfl
  next => exact .inl rfl

theorem createSavingSequence_eq_content (hu : utf.KeepsAsciiLength) (info : DiallingNumbersInfo)
    (dataLength : Int) :
    createSavingSequence utf info dataLength =
      (createSavingSequenceWrites utf info dataLength).bind fun (record, returned) =>
        if returned then some record.content else none := by
  rw [createSavingSequence, createSavingSequenceWrites]
  simp only
  by_cases hng : dataLength < 0
  · rw [if_pos hng, if_pos hng]
    rfl
  by_cases hnu : info.number.length > (DIALING_NUMBERS_END - DIALING_NUMBERS_BEGIN + 1) *
      LENGTH_RATE
  · rw [if_neg hng, if_neg hng, if_pos hnu, if_pos hnu]
    rfl
  rw [if_neg hng, if_neg hng, if_neg hnu, if_neg hnu]
  by_cases hnm : (((createNameSequence utf info.name).getD []).length : Int) ≤
      dataLength - PRE_BYTES_NUM
  · rw [if_pos hnm, if_pos hnm]
    have hft := numberFits_of_keepsAsciiLength hu (not_lt.1 hnu)
    obtain ⟨offset, rfl⟩ : ∃ offset, dataLength = (offset + PRE_BYTES_NUM : Nat) :=
      ⟨dataLength.toNat - PRE_BYTES_NUM, by omega⟩
    have hfl := content_fillNumberFiledWrites hft
      (length_emptyRecord (offset + PRE_BYTES_NUM))
    rw [content_emptyRecord] at hfl
    rw [Int.toNat_natCast, Option.bind_some, if_pos rfl, ← hfl, Option.some.injEq]
    split
    · refine (content_writeList _ _ 0 ?_).symm
      rw [length_fillNumberFiledWrites, length_emptyRecord]
      omega
    · rfl
  · rw [if_neg hnm, if_neg hnm]
    rfl

structure RecordLayout (name bcdCodes record : List UInt8) (dataLength : Nat) : Prop where
  count_pos : 1 ≤ bcdCodes.length
  count_le : bcdCodes.length ≤ MAX_NUMBER_SIZE_BYTES
  name_le : name.length ≤ dataLength - PRE_BYTES_NUM
  layout : record = name ++ List.replicate (dataLength - PRE_BYTES_NUM - name.length) BYTE_VALUE ++
    UInt8.ofNat bcdCodes.length :: bcdCodes ++
      List.replicate (MAX_NUMBER_SIZE_BYTES - bcdCodes.length) BYTE_VALUE ++
        [BYTE_VALUE, BYTE_VALUE]

theorem numberConvertToBCD_ne_nil (h : numberConvertToBCD number false .adn = some bcdCodes) :
    1 ≤ bcdCodes.length := by
  rw [numberConvertToBCD_of_hasCode (hasCode_of_numberConvertToBCD h)] at h
  rw [← Option.some.inj h, length_cons]
  omega

theorem content_returned (hft : NumberFits number) (hn : name.length ≤ offset) :
    ((fillNumberFiledWrites (emptyRecord (offset + PRE_BYTES_NUM)) number
        (offset + PRE_BYTES_NUM : Nat)).writeList 0 name).content =
      name ++ .replicate (offset - name.length) BYTE_VALUE ++ numberField number := by
  have hl := length_emptyRecord (offset + PRE_BYTES_NUM)
  have hfl := content_fillNumberFiledWrites hft hl
  rw [content_emptyRecord, fillNumberFiledForDiallingNumber_eq hft] at hfl
  have hwn := content_writeList name (fillNumberFiledWrites
    (emptyRecord (offset + PRE_BYTES_NUM)) number (offset + PRE_BYTES_NUM : Nat)) 0
      (by rw [length_fillNumberFiledWrites, hl]; omega)
  rw [hfl, take_zero, nil_append, Nat.zero_add,
    drop_append_of_le_length (by rw [length_replicate]; exact hn),
    drop_replicate] at hwn
  rw [append_assoc]
  exact hwn

theorem recordLayout_of_some (hft : NumberFits number)
    (hc : numberConvertToBCD number false .adn = some bcdCodes) (hn : name.length ≤ offset) :
    RecordLayout name bcdCodes
      (name ++ .replicate (offset - name.length) BYTE_VALUE ++ numberField number)
      (offset + PRE_BYTES_NUM) := by
  have hbs := hft bcdCodes hc
  refine ⟨numberConvertToBCD_ne_nil hc, hbs, ?_, ?_⟩
  · rw [Nat.add_sub_cancel]
    exact hn
  · -- the two identifiers are the last two of the filler
    have hfl : .replicate (13 - bcdCodes.length) BYTE_VALUE =
        .replicate (MAX_NUMBER_SIZE_BYTES - bcdCodes.length) BYTE_VALUE ++
          [BYTE_VALUE, BYTE_VALUE] := by
      rw [MAX_NUMBER_SIZE_BYTES] at hbs ⊢
      rw [show 13 - bcdCodes.length = 11 - bcdCodes.length + 2 by omega, replicate_add]
      rfl
    rw [numberField, hc, Nat.add_sub_cancel]
    simp only [hfl, append_assoc]

/-- **The layout of a record.** Everything is written inside the buffer, which is the name, the
filler, and the number with its length and the two identifiers. -/
theorem record_layout (utf : Utf) (hutf : utf.KeepsAsciiLength) (info : DiallingNumbersInfo)
    (dataLength : Int) (hnonneg : 0 ≤ dataLength) :
    ∃ record returned, createSavingSequenceWrites utf info dataLength = some (record, returned) ∧
      record.content.length = dataLength ∧ record.Inside ∧
      ∀ bcdCodes, numberConvertToBCD (utf.str16ToStr8 info.number) false .adn = some bcdCodes →
        returned = true →
          RecordLayout ((createNameSequence utf info.name).getD []) bcdCodes record.content
            dataLength.toNat := by
  rcases createSavingSequenceWrites_cases utf info hnonneg with
    heq | ⟨offset, rfl, hnb, hnm, heq⟩
  · refine ⟨_, _, heq, ?_, inside_emptyRecord _, fun _ _ h => absurd h (by simp)⟩
    rw [length_emptyRecord]
    omega
  · have hf := numberFits_of_keepsAsciiLength hutf hnb
    have hl := length_emptyRecord (offset + PRE_BYTES_NUM)
    refine ⟨_, _, heq, ?_, ?_, ?_⟩
    · rw [length_writeList, length_fillNumberFiledWrites, hl]
    · apply (inside_fillNumberFiledWrites hf (inside_emptyRecord _) hl).writeList _ (le_refl 0)
      rw [length_fillNumberFiledWrites, hl]
      omega
    · intro bcdCodes hc _
      rw [content_returned hf hnm, Int.toNat_natCast]
      exact recordLayout_of_some hf hc hnm

theorem record_layout_plain :
    ∃ record, createSavingSequenceWrites basicUtf ⟨[0x41], [43, 0x31, 0x32]⟩ 28 =
        some (record, true) ∧ record.Inside ∧
      RecordLayout [0x41] [0x91, 0x21] record.content 28 := by
  obtain ⟨record, _, heq, -, hin, hl⟩ :=
    record_layout basicUtf basicUtf_keepsAsciiLength ⟨[0x41], [43, 0x31, 0x32]⟩ 28 (by decide)
  have hr : (createSavingSequenceWrites basicUtf ⟨[0x41], [43, 0x31, 0x32]⟩ 28).map
      Prod.snd = some true := by decide +kernel
  rw [heq, Option.map_some, Option.some.injEq] at hr
  obtain rfl := hr
  exact ⟨record, heq, hin, hl _ (by decide +kernel) rfl⟩

end TelephonyCore.Phonebook
