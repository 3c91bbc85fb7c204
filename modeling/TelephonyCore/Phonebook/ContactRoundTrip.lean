import TelephonyCore.Phonebook.DiallingNumbersHandler

/-!
# Contacts written and read back

`FormatNameAndNumber` trims the number and checks what is left, but stores the trimmed number only
when it has to be cut. Otherwise the number keeps its blanks, these are no digits to
`NumberConvertToBCD`, and the record is written without a number. This and the place of the `+` are
what can go wrong with a number. What can go wrong with a name is how its field is read
(`Names.lean`).
-/

namespace TelephonyCore.Phonebook

open Codec List
open Lib (forall_byte)

/-! ## What is stored of a number -/

variable {number : StdString} {c : UInt8} {info info' : DiallingNumbersInfo}

theorem bcdLoop_eq_none {bcdExtType : BcdExtType} (hm : c ∈ number) (hp : c ≠ PLUS)
    (hc : charToBCD c bcdExtType = none) :
    ∀ count bcdCodes, bcdLoop bcdExtType number count bcdCodes = none := by
  induction number with
  | nil => cases hm
  | cons num rest ih =>
    intro count bcdCodes
    rw [bcdLoop]
    rcases mem_cons.1 hm with rfl | hr
    · rw [if_neg hp, hc]
    · split
      · exact ih hr count bcdCodes
      · cases charToBCD num bcdExtType with
        | none => rfl
        | some code =>
          simp only
          split <;> exact ih hr _ _

theorem numberConvertToBCD_blank (hb : 32 ∈ number) :
    numberConvertToBCD number false .adn = none := by
  rw [numberConvertToBCD]
  simp only [bcdLoop_eq_none hb (by decide) (show charToBCD 32 .adn = none by decide)]

theorem mem_of_trim_ne {str : StdString} (h : trim str ≠ str) : 32 ∈ str := by
  by_contra hb
  have hno : ∀ c ∈ str, ¬ ((c == 32)) := by
    intro c hc h32
    exact hb (beq_iff_eq.1 h32 ▸ hc)
  refine h ?_
  rw [trim, rdropWhile_eq_self_iff.2 (fun hne => hno _ (getLast_mem hne)),
    dropWhile_eq_self_iff.2 (fun hp => hno _ (getElem_mem hp))]

theorem isAscii_of_isValidNumberString (h : isValidNumberString number) : IsAscii number := by
  have hch : ∀ c, isValidNumberChar c → c < 0x80 := forall_byte (by decide +kernel)
  exact fun c hc => hch c (all_eq_true.1 h c hc)

theorem hasCode_of_numberConvertToBCD {bcdCodes : List UInt8}
    (h : numberConvertToBCD number false .adn = some bcdCodes) :
    ∀ c ∈ digitsOf number, hasCode c := by
  intro c hc
  obtain ⟨hm, hp⟩ := mem_filter.1 hc
  by_contra hno
  have hnn : charToBCD c .adn = none := by simpa [hasCode] using hno
  rw [numberConvertToBCD] at h
  simp only [bcdLoop_eq_none hm (by simpa using hp) hnn] at h
  cases h

theorem numberFits_of_length_le (hl : number.length ≤ MAX_NUMBER_CHAR) : NumberFits number := by
  intro bcdCodes hc
  rw [numberConvertToBCD_of_hasCode (hasCode_of_numberConvertToBCD hc)] at hc
  cases hc
  have hdg : (digitsOf number).length ≤ number.length := length_filter_le ..
  rw [length_cons, pairCodes_length, length_map, MAX_NUMBER_SIZE_BYTES]
  rw [MAX_NUMBER_CHAR] at hl
  omega

theorem numberFits_of_blank (hb : 32 ∈ number) : NumberFits number := by
  intro bcdCodes hc
  rw [numberConvertToBCD_blank hb] at hc
  cases hc

/-- The valid start of the trimmed number if there is nothing to trim or something to cut, and else
the number with its blanks. -/
inductive Stored (number stored : StdString) : Prop
  | kept (hwhich : trim number = number ∨ MAX_NUMBER_CHAR < (trim number).length)
    (hstored : stored = (trim number).take MAX_NUMBER_CHAR)
  | blanks (htrim : trim number ≠ number) (hlen : (trim number).length ≤ MAX_NUMBER_CHAR)
    (hstored : stored = number)

@[simp] theorem formatName_number (utf : Utf) (info : DiallingNumbersInfo) :
    (formatName utf info).number = info.number := by
  rw [formatName]
  split <;> split <;> rfl

variable {utf : Utf}

theorem formatNameAndNumber_number (hu : utf.FaithfulOnAscii)
    (hf : formatNameAndNumber utf info false = (true, info')) :
    isValidNumberString ((trim (utf.str16ToStr8 info.number)).take MAX_NUMBER_CHAR) ∧
      Stored (utf.str16ToStr8 info.number) (utf.str16ToStr8 info'.number) := by
  set number := trim (utf.str16ToStr8 info.number) with hn
  -- of a valid number the wide form has the same length
  have hw : ∀ s, isValidNumberString s → utf.str8ToStr16 s = widen s :=
    fun s hs => hu.str8ToStr16_ascii s (isAscii_of_isValidNumberString hs)
  simp only [formatNameAndNumber, Bool.false_eq_true, if_false, ← hn] at hf
  split at hf
  next hl =>
    split at hf
    next hv =>
      obtain rfl := (Prod.mk.inj hf).2
      refine ⟨hv, .kept (.inr ?_) ?_⟩
      · by_contra hsh
        rw [← hn, not_lt] at hsh
        rw [take_of_length_le hsh] at hv
        rw [hw number hv, widen, length_map] at hl
        exact absurd hl (not_lt.2 hsh)
      · rw [hw _ hv, hu.str16ToStr8_widen _ (isAscii_of_isValidNumberString hv)]
    next => exact absurd (Prod.mk.inj hf).1 (by simp)
  next hsh =>
    obtain ⟨hv, rfl⟩ := Prod.mk.inj hf
    rw [hw number hv, widen, length_map, not_lt] at hsh
    have htk : number.take MAX_NUMBER_CHAR = number := take_of_length_le hsh
    refine ⟨by rw [htk]; exact hv, ?_⟩
    rw [formatName_number]
    by_cases htr : number = utf.str16ToStr8 info.number
    · exact .kept (.inl htr) (by rw [← hn, htk, htr])
    · exact .blanks htr hsh rfl

theorem Stored.numberFits {stored : StdString} (h : Stored number stored) : NumberFits stored := by
  cases h with
  | kept _ hs =>
    rw [hs]
    exact numberFits_of_length_le (length_take_le ..)
  | blanks ht _ hs =>
    rw [hs]
    exact numberFits_of_blank (mem_of_trim_ne ht)

/-! ## The number comes back -/

theorem mem_insertPlus {digits : StdString} (h : c ∈ insertPlus digits) :
    c = PLUS ∨ c ∈ digits := by
  rcases insertPlus_cases digits with heq | ⟨before, after, hs, heq⟩
  · exact .inr (heq ▸ h)
  · rw [heq] at h
    rw [hs]
    simp only [mem_append, mem_cons] at h ⊢
    tauto

theorem readNumber_of_valid (hv : isValidNumberString number) :
    readNumber number = if number.contains PLUS then insertPlus (digitsOf number) else number := by
  have hc := hasCode_of_mem_digitsOf hv
  rw [readNumber, numberConvertToBCD_of_hasCode hc]
  exact bcdConvertToString_of_hasCode hc

theorem isAscii_readNumber (hv : isValidNumberString number) : IsAscii (readNumber number) := by
  have hac := isAscii_of_isValidNumberString hv
  rw [readNumber_of_valid hv]
  split
  · intro c hc
    rcases mem_insertPlus hc with rfl | hm
    · decide
    · exact hac c (mem_of_mem_filter hm)
  · exact hac

theorem readNumber_eq_iff (hv : isValidNumberString number) :
    readNumber number = number ↔ PlusPlaced number := by
  rw [readNumber_of_valid hv]
  by_cases hp : number.contains PLUS
  · rw [if_pos hp]
    exact insertPlus_eq_iff hv (contains_iff_mem.1 hp)
  · rw [if_neg hp]
    exact iff_of_true rfl (.none fun h => hp (contains_iff_mem.2 h))

variable {s : StdString}

theorem str8ToStr16_inj (hu : utf.FaithfulOnAscii) {t : StdString} (hs : IsAscii s)
    (ht : IsAscii t) : utf.str8ToStr16 s = utf.str8ToStr16 t ↔ s = t := by
  rw [hu.str8ToStr16_ascii s hs, hu.str8ToStr16_ascii t ht]
  exact widen_injective.eq_iff

/-- The numbers that survive: nothing to trim, or nothing left, or something to cut; and a
`+` only where the decoder puts it. -/
def NumberSurvives (number : StdString) : Prop :=
  (trim number = number ∨ trim number = [] ∨ MAX_NUMBER_CHAR < (trim number).length) ∧
    PlusPlaced ((trim number).take MAX_NUMBER_CHAR)

/-- **A number comes back** from its record, trimmed and cut, exactly if it is one of
`NumberSurvives`. -/
theorem number_roundTrip_iff {utf : Utf} (hutf : utf.FaithfulOnAscii)
    {info info' : DiallingNumbersInfo} {dataLength : Int} {record : List UInt8}
    (hformat : formatNameAndNumber utf info false = (true, info'))
    (hrecord : createSavingSequence utf info' dataLength = some record)
    (start : DiallingNumbersInfo) (extensionRecord : Option UInt8) :
    (fetchDiallingNumberContent utf start (bytesConvertToHexString record)
        extensionRecord).1.number =
      utf.str8ToStr16 ((trim (utf.str16ToStr8 info.number)).take MAX_NUMBER_CHAR) ↔
      NumberSurvives (utf.str16ToStr8 info.number) := by
  obtain ⟨hv, hs⟩ := formatNameAndNumber_number hutf hformat
  have hft := hs.numberFits
  obtain ⟨n, rfl⟩ := createSavingSequence_eq hft hrecord
  rw [fetchDiallingNumberContent_eq utf hft]
  simp only
  cases hs with
  | kept hw hs =>
    rw [hs, str8ToStr16_inj hutf (isAscii_readNumber hv)
      (isAscii_of_isValidNumberString hv), readNumber_eq_iff hv, NumberSurvives]
    refine (and_iff_right ?_).symm
    exact hw.imp_right .inr
  | blanks ht hle hs =>
    -- nothing is stored, which is right when nothing was left
    have hrd : readNumber (utf.str16ToStr8 info.number) = [] := by
      rw [readNumber, numberConvertToBCD_blank (mem_of_trim_ne ht)]
    rw [hs, hrd, str8ToStr16_inj hutf (by simp [IsAscii])
      (isAscii_of_isValidNumberString hv), take_of_length_le hle, NumberSurvives,
      take_of_length_le hle]
    constructor
    · intro hn
      rw [← hn]
      exact ⟨.inr (.inl rfl), .none (by simp)⟩
    · rintro ⟨ho | hn | hln, _⟩
      · exact absurd ho ht
      · exact hn.symm
      · exact absurd hln (not_lt.2 hle)

def storedAndRead (utf : Utf) (info : DiallingNumbersInfo) (dataLength : Int) :
    Option DiallingNumbersInfo :=
  match formatNameAndNumber utf info false with
  | (false, _) => none
  | (true, info') =>
    (createSavingSequence utf info' dataLength).map fun record =>
      (fetchDiallingNumberContent utf ⟨[], []⟩ (bytesConvertToHexString record) none).1

/-- **A number with a blank in front is not stored.** -/
theorem number_with_blank_lost :
    basicUtf.FaithfulOnAscii ∧ trim (ascii " 123") = ascii "123" ∧
      storedAndRead basicUtf ⟨widen (ascii "Ann"), widen (ascii " 123")⟩ 28 =
        some ⟨widen (ascii "Ann"), []⟩ :=
  ⟨basicUtf_faithful.toFaithfulOnAscii, by decide +kernel, by decide +kernel⟩

/-- A `+` inside a number is read back in front of it. -/
example : storedAndRead basicUtf ⟨[], widen (ascii "12+3")⟩ 28 =
    some ⟨[], widen (ascii "+123")⟩ := by decide +kernel

theorem number_roundTrip_serviceCode :
    ∃ info' record,
      formatNameAndNumber basicUtf ⟨widen (ascii "Ann"), widen (ascii "*21*+4912")⟩ false =
        (true, info') ∧
      createSavingSequence basicUtf info' 28 = some record ∧
      (fetchDiallingNumberContent basicUtf ⟨[], []⟩ (bytesConvertToHexString record)
        none).1.number = widen (ascii "*21*+4912") := by
  let info : DiallingNumbersInfo := ⟨widen (ascii "Ann"), widen (ascii "*21*+4912")⟩
  have hf : formatNameAndNumber basicUtf info false = (true, info) := by decide +kernel
  have hr : createSavingSequence basicUtf info 28 =
      some ((createSavingSequence basicUtf info 28).getD []) := by decide +kernel
  have hp : (trim (basicUtf.str16ToStr8 info.number)).take MAX_NUMBER_CHAR =
      STAR :: ascii "21" ++ STAR :: PLUS :: ascii "4912" := by decide +kernel
  have hw : basicUtf.str8ToStr16 (STAR :: ascii "21" ++ STAR :: PLUS :: ascii "4912") =
      widen (ascii "*21*+4912") := by decide +kernel
  have hs : NumberSurvives (basicUtf.str16ToStr8 info.number) := by
    refine ⟨.inl (by decide +kernel), ?_⟩
    rw [hp]
    have hdg : ∀ d ∈ ascii "21", isNumber d := all_iff_forall_prop.1 (by decide)
    exact .data rfl hdg rfl (by decide) (by decide) (by decide)
  have hb := (number_roundTrip_iff basicUtf_faithful.toFaithfulOnAscii hf hr ⟨[], []⟩ none).2 hs
  rw [hp, hw] at hb
  exact ⟨info, _, hf, hr, hb⟩

/-! ## The name comes back -/

/-- A printable name of at most twelve characters, or one of at most six that is written in
two bytes a character. -/
inductive PlainName (utf : Utf) : U16String → Prop
  | english {s : StdString} (hprintable : ∀ c ∈ s, isPrintable c)
    (hlen : s.length ≤ MAX_ENGLISH_NAME) : PlainName utf (widen s)
  | chinese {w : U16String} (hchinese : isChineseString (utf.str16ToStr8 w))
    (hplane : BasicPlane w) (hlen : w.length ≤ MAX_CHINESE_NAME) : PlainName utf w

/-- In one byte a character, without those that the alphabet has elsewhere; in two, without a zero
and not ending like the filler. -/
def NameSurvives (utf : Utf) (name : U16String) : Prop :=
  if isChineseString (utf.str16ToStr8 name) then 0 ∉ name ∧ name.getLast? ≠ some FILLER
  else ∀ c ∈ gsmDiffers, c.toUInt16 ∉ name

theorem isAscii_of_isPrintable (hs : ∀ c ∈ s, isPrintable c) : IsAscii s := by
  have hch : ∀ c, isPrintable c → c < 0x80 := forall_byte (by decide +kernel)
  exact fun c hc => hch c (hs c hc)

theorem not_isChineseString_of_isAscii (hs : IsAscii s) : ¬ isChineseString s := by
  have hb : ∀ c : UInt8, c < 0x80 → c &&& CHINESE_FLAG = 0 := forall_byte (by decide +kernel)
  intro h
  obtain ⟨c, hc, hf⟩ := any_eq_true.1 h
  exact absurd (hb c (hs c hc)) (by simpa using hf)

theorem PlainName.basicPlane {name : U16String} (h : PlainName utf name) : BasicPlane name := by
  cases h with
  | english => exact basicPlane_widen _
  | chinese _ hp => exact hp

theorem formatName_eq_self (hu : utf.Faithful) (hn : PlainName utf info.name)
    (ht : trim (utf.str16ToStr8 info.name) = utf.str16ToStr8 info.name) :
    formatName utf info = info := by
  have hl : info.name.length ≤
      if isChineseString (utf.str16ToStr8 info.name) then MAX_CHINESE_NAME
      else MAX_ENGLISH_NAME := by
    generalize info.name = name at hn
    cases hn with
    | @english s hp hl =>
      have hac := isAscii_of_isPrintable hp
      rw [hu.str16ToStr8_widen s hac, if_neg (not_isChineseString_of_isAscii hac), widen,
        length_map]
      exact hl
    | chinese hc _ hl =>
      rw [if_pos hc]
      exact hl
  rw [formatName]
  simp only [ht, hu.str8ToStr16_str16ToStr8 _ hn.basicPlane]
  rw [if_neg (not_lt.2 hl)]

theorem formatNameAndNumber_name (hf : formatNameAndNumber utf info false = (true, info')) :
    info'.name = (formatName utf info).name := by
  simp only [formatNameAndNumber, Bool.false_eq_true, if_false] at hf
  split at hf
  · split at hf
    · rw [← (Prod.mk.inj hf).2]
    · exact absurd (Prod.mk.inj hf).1 (by simp)
  · rw [← (Prod.mk.inj hf).2]

theorem createNameSequence_english (hu : utf.FaithfulOnAscii) (hs : ∀ c ∈ s, isPrintable c)
    (hl : s.length ≤ MAX_ENGLISH_NAME) : (createNameSequence utf (widen s)).getD [] = s := by
  have hac := isAscii_of_isPrintable hs
  rw [createNameSequence]
  simp only [hu.str16ToStr8_widen s hac]
  rw [if_neg (not_isChineseString_of_isAscii hac), charCodeToSequence8_eq, take_of_length_le hl]
  by_cases hn : s = []
  · rw [hn]
    rfl
  · rw [hexStringConvertToBytes_hex hn]
    rfl

theorem createNameSequence_chinese {w : U16String}
    (hc : isChineseString (utf.str16ToStr8 w)) (hl : w.length ≤ MAX_CHINESE_NAME) :
    (createNameSequence utf w).getD [] = CHINESE_FLAG :: w.flatMap unitBytes := by
  rw [createNameSequence, if_pos hc, charCodeToSequence16_eq, take_of_length_le hl,
    hexStringConvertToBytes_hex (by simp)]
  rfl

/-- **A name comes back** from its record exactly if it is one of `NameSurvives`. -/
theorem name_roundTrip_iff {utf : Utf} (hutf : utf.Faithful)
    {info info' : DiallingNumbersInfo} {dataLength : Int} {record : List UInt8}
    (hname : PlainName utf info.name)
    (htrim : trim (utf.str16ToStr8 info.name) = utf.str16ToStr8 info.name)
    (hformat : formatNameAndNumber utf info false = (true, info'))
    (hrecord : createSavingSequence utf info' dataLength = some record)
    (start : DiallingNumbersInfo) (extensionRecord : Option UInt8) :
    (fetchDiallingNumberContent utf start (bytesConvertToHexString record)
        extensionRecord).1.name = info.name ↔ NameSurvives utf info.name := by
  obtain ⟨hv, hs⟩ := formatNameAndNumber_number hutf.toFaithfulOnAscii hformat
  have hft := hs.numberFits
  obtain ⟨n, rfl⟩ := createSavingSequence_eq hft hrecord
  have hk : info'.name = info.name := by
    rw [formatNameAndNumber_name hformat, formatName_eq_self hutf hname htrim]
  rw [fetchDiallingNumberContent_eq utf hft, hk]
  simp only
  generalize info.name = name at hname
  cases hname with
  | @english s hpr hl =>
    have hac := isAscii_of_isPrintable hpr
    rw [createNameSequence_english hutf.toFaithfulOnAscii hpr hl, length_append,
      length_replicate, NameSurvives, hutf.str16ToStr8_widen s hac,
      if_neg (not_isChineseString_of_isAscii hac)]
    refine (field_english_iff hutf hpr n _).trans ?_
    constructor
    · intro h c hc hm
      obtain ⟨d, hd, hdc⟩ := mem_map.1 hm
      obtain rfl : d = c := UInt8.toUInt16_inj.1 hdc
      exact h d hd hc
    · intro h c hc hdf
      exact h c hdf (mem_map_of_mem hc)
  | chinese hch hpl hl =>
    have hne : name ≠ [] := by
      rintro rfl
      have hnl : utf.str16ToStr8 [] = [] := hutf.str16ToStr8_widen [] (by simp [IsAscii])
      rw [hnl] at hch
      exact absurd hch (by simp [isChineseString])
    have hfr : ((CHINESE_FLAG :: name.flatMap unitBytes) ++
        List.replicate n BYTE_VALUE).length = 1 + 2 * name.length + n := chineseField_length name n
    rw [createNameSequence_chinese hch hl, hfr, NameSurvives, if_pos hch]
    exact field_chinese_iff hutf hpl hne n _

/-- **An underscore comes back as a section sign.** -/
theorem name_with_underscore_changed :
    basicUtf.Faithful ∧ (∀ c ∈ ascii "a_b", isPrintable c) ∧ trim (ascii "a_b") = ascii "a_b" ∧
      storedAndRead basicUtf ⟨widen (ascii "a_b"), widen (ascii "123")⟩ 28 =
        some ⟨[0x61, 0xA7, 0x62], widen (ascii "123")⟩ :=
  ⟨basicUtf_faithful, by decide +kernel, by decide +kernel, by decide +kernel⟩

theorem name_roundTrip_chinese :
    ∃ info' record,
      formatNameAndNumber basicUtf ⟨[0x5F20, 0x4E09], widen (ascii "123")⟩ false = (true, info') ∧
      createSavingSequence basicUtf info' 28 = some record ∧
      (fetchDiallingNumberContent basicUtf ⟨[], []⟩ (bytesConvertToHexString record)
        none).1.name = [0x5F20, 0x4E09] := by
  let info : DiallingNumbersInfo := ⟨[0x5F20, 0x4E09], widen (ascii "123")⟩
  have hf : formatNameAndNumber basicUtf info false = (true, info) := by decide +kernel
  have hr : createSavingSequence basicUtf info 28 =
      some ((createSavingSequence basicUtf info 28).getD []) := by decide +kernel
  have hp : BasicPlane info.name := all_iff_forall_prop.1 (by decide +kernel)
  have hn : PlainName basicUtf info.name := .chinese (by decide +kernel) hp (by decide +kernel)
  have hc : isChineseString (basicUtf.str16ToStr8 info.name) := by decide +kernel
  have hs : NameSurvives basicUtf info.name := by
    rw [NameSurvives, if_pos hc]
    decide +kernel
  exact ⟨info, _, hf, hr, (name_roundTrip_iff basicUtf_faithful hn
    (by decide +kernel) hf hr ⟨[], []⟩ none).2 hs⟩

end TelephonyCore.Phonebook
