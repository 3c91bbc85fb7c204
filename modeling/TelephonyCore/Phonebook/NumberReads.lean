import TelephonyCore.Phonebook.SimNumberDecode
import TelephonyCore.Lib.Reads

/-!
# What the number decoder reads

`BCDConvertToString` copies a part of an array into a vector, unpacks the vector, and puts a `+`
into the text with an iterator over it. Here it is written once more with the indices of the copy,
in the `int` arithmetic of the source, and with every position at which the text is dereferenced.

The guard of the copy adds `offset` and `length` in `int`, so that a sum beyond it is negative
(signed overflow is taken to wrap) and passes. The iterator is moved behind the first mark of the
text and dereferenced there, also if the mark is all there is.
-/

namespace TelephonyCore.Phonebook

open Codec (StdString)
open Lib Logged List

/-! ## The functions -/

def skipPlusNumbers (number : StdString) : Nat → Nat → Logged Nat
  | 0, numIt => pure numIt
  | left + 1, numIt => do
    let num ← read number numIt 0
    if isPlusNumber num then skipPlusNumbers number left (numIt + 1) else pure numIt

/-- The second half of `BCDConvertToString`; a read at the end of the text gives zero. -/
def insertPlusReads (number : StdString) : Logged StdString :=
  if number = [] ∨ !isValidNumberString number then pure number
  else do
    let front ← read number 0 0
    -- not start with [#*] just prepend '+'
    if !isSharpStar front then pure (PLUS :: number)
    else
      let second ← read number 1 0
      -- started with two [#*] ends with # ,just append a +
      if isSharpStar second ∧ number.getLast? = some SHARP then pure (number ++ [PLUS])
      else
        let numIt ← skipPlusNumbers number (number.length - 1) 1
        if numIt ≠ number.length ∧ numIt + 1 ≠ number.length then
          let mark ← read number numIt 0
          if isSharpStar mark then
            pure (number.take (numIt + 1) ++ PLUS :: number.drop (numIt + 1))
          else pure number
        else pure number

def copyIndices (offset length : Int32) : List Int32 :=
  (List.range length.toInt.toNat).map fun i => offset + Int32.ofNat i

def arrayElement (arr : List UInt8) (i : Int32) : UInt8 :=
  if 0 ≤ i.toInt then arr.getD i.toInt.toNat 0 else 0

/-- The indices read in the array, the text before the `+`, and the result with the positions
dereferenced in the text. -/
structure NumberDecoding where
  indices : List Int32
  text : StdString
  number : Logged StdString

def bcdConvertToStringReads (arr : List UInt8) (dataLength offset length : Int32)
    (bcdExtType : BcdExtType) : NumberDecoding :=
  if offset + length > dataLength then ⟨[], [], pure []⟩
  else
    let bcdCode := (copyIndices offset length).map (arrayElement arr)
    match bcdCode with
    | [] => ⟨copyIndices offset length, [], pure []⟩
    | flag :: codes =>
      let text := bcdSectionConvertToString bcdExtType codes
      ⟨copyIndices offset length, text,
        if flag = FLAG_INTERNATIONAL then insertPlusReads text else pure text⟩

/-- No access is outside: of the array, or of the text at its end or behind. -/
def NumberDecoding.Inside (arr : List UInt8) (decoding : NumberDecoding) : Prop :=
  (∀ i ∈ decoding.indices, 0 ≤ i.toInt ∧ i.toInt < arr.length) ∧
    decoding.number.Within 0 decoding.text.length

/-! ## The text -/

theorem value_skipPlusNumbers (number : StdString) :
    ∀ left numIt, numIt + left = number.length → (skipPlusNumbers number left numIt).value =
        numIt + ((number.drop numIt).takeWhile isPlusNumber).length
  | 0, numIt, he => by
    rw [drop_of_length_le (by omega)]
    rfl
  | left + 1, numIt, he => by
    have hlt : numIt < number.length := by omega
    have hr : number.getD numIt 0 = number[numIt] := by simp [hlt]
    rw [skipPlusNumbers, value_bind, value_read, hr, drop_eq_getElem_cons hlt, value_ite,
      value_skipPlusNumbers number left (numIt + 1) (by omega), value_pure]
    by_cases hn : isPlusNumber number[numIt]
    · rw [if_pos hn, takeWhile_cons_of_pos hn, length_cons]
      omega
    · rw [if_neg hn, takeWhile_cons_of_neg hn]
      rfl

theorem isSharpStar_getD (rest : StdString) :
    isSharpStar (rest.getD 0 0) = rest.head?.any isSharpStar := by
  cases rest with
  | nil => rfl
  | cons second rest => rfl

theorem value_insertPlusReads (number : StdString) :
    (insertPlusReads number).value = insertPlus number := by
  cases number with
  | nil => rfl
  | cons front rest =>
    rw [insertPlusReads, insertPlus]
    by_cases hv : isValidNumberString (front :: rest)
    · rw [if_neg (by simp [hv]), if_neg (by simp [hv]), value_bind,
        value_read, getD_cons_zero, value_ite]
      by_cases hf : isSharpStar front
      · rw [if_neg (by simp [hf]), if_neg (by simp [hf]), value_bind,
          value_read, getD_cons_succ, isSharpStar_getD, value_ite]
        refine if_congr .rfl rfl ?_
        rw [value_bind, value_skipPlusNumbers _ _ _ (by simp; omega), drop_one, tail_cons]
        -- the text behind the first mark: the digits, and what `numIt` stops at
        have hs : rest = rest.takeWhile isPlusNumber ++ rest.dropWhile isPlusNumber :=
          takeWhile_append_dropWhile.symm
        generalize rest.takeWhile isPlusNumber = digits at hs
        generalize rest.dropWhile isPlusNumber = behind at hs
        subst hs
        rcases behind with _ | ⟨mark, _ | ⟨next, data⟩⟩
        · rw [if_neg (by simp; omega)]; rfl
        · rw [if_neg (by simp; omega)]; rfl
        · rw [if_pos (by simp; omega), value_bind, value_read, Nat.add_comm,
            getD_cons_succ, value_ite]
          have hm : (digits ++ mark :: next :: data).getD digits.length 0 = mark := by simp
          rw [hm]
          refine if_congr .rfl ?_ rfl
          simp [take_length_add_append]
      · rw [if_pos (by simp [hf]), if_pos (by simp [hf])]
        rfl
    · rw [if_pos (.inr (by simpa using hv)), if_pos (by simpa using hv)]
      rfl

/-! ## The positions in the text -/

theorem within_skipPlusNumbers (number : StdString) {n : Nat} :
    ∀ left numIt, numIt + left ≤ n → (skipPlusNumbers number left numIt).Within 0 n
  | 0, numIt, _ => within_pure
  | left + 1, numIt, he => by
    apply Within.bind
    · exact within_read (Nat.zero_le numIt) (by omega)
    split
    · exact within_skipPlusNumbers number left (numIt + 1) (by omega)
    · exact within_pure

theorem value_skipPlusNumbers_le (number : StdString) (h : number ≠ []) :
    (skipPlusNumbers number (number.length - 1) 1).value ≤ number.length := by
  have hp := length_pos_iff.2 h
  have ht : ((number.drop 1).takeWhile isPlusNumber).length ≤ (number.drop 1).length :=
    (List.takeWhile_prefix isPlusNumber).length_le
  rw [length_drop] at ht
  rw [value_skipPlusNumbers number _ _ (by omega)]
  omega

def LoneMark (number : StdString) : Prop := ∃ mark, isSharpStar mark ∧ number = [mark]

theorem one_mem_reads_insertPlusReads {mark : UInt8} (hm : isSharpStar mark) :
    1 ∈ (insertPlusReads [mark]).reads := by
  have hv : isValidNumberString [mark] := by
    simp [isValidNumberString, isValidNumberChar, hm]
  rw [insertPlusReads, if_neg (by simp [hv]), reads_bind, value_read,
    getD_cons_zero, if_neg (by simp [hm]), reads_bind]
  simp

theorem insertPlusReads_within_iff (number : StdString) :
    (insertPlusReads number).Within 0 number.length ↔ ¬ LoneMark number := by
  constructor
  · rintro hw ⟨_, hm, rfl⟩
    exact absurd (hw 1 (one_mem_reads_insertPlusReads hm)).2 (by simp)
  · intro hln
    rw [insertPlusReads]
    split
    · exact within_pure
    next hnm =>
    have hne : number ≠ [] := fun h => hnm (.inl h)
    have hp := length_pos_iff.2 hne
    apply Within.bind
    · exact within_read (Nat.zero_le 0) hp
    split
    · exact within_pure
    next hf =>
    -- a second character, as the first is a mark that does not stand alone
    have hs : 1 < number.length := by
      cases number with
      | nil => exact absurd rfl hne
      | cons front rest =>
        cases rest with
        | nil => exact absurd ⟨front, by simpa using hf, rfl⟩ hln
        | cons second rest => simp
    apply Within.bind
    · exact within_read (Nat.zero_le 1) hs
    split
    · exact within_pure
    apply Within.bind
    · exact within_skipPlusNumbers number _ 1 (by omega)
    split
    next he =>
      have hle := value_skipPlusNumbers_le number hne
      apply Within.bind
      · exact within_read (Nat.zero_le _) (by omega)
      split <;> exact within_pure
    · exact within_pure

/-! ## The bytes of a lone mark -/

/-- The filler is no character anywhere, so that the last byte needs no case of its own. -/
theorem bcdSectionConvertToString_cons (bcdExtType : BcdExtType) (code : UInt8)
    (rest : List UInt8) :
    bcdSectionConvertToString bcdExtType (code :: rest) =
      match bcdToChar (code &&& LO_FOUR) bcdExtType with
      | none => []
      | some c =>
        match bcdToChar ((code >>> 4) &&& HALF_BYTE) bcdExtType with
        | none => [c]
        | some d => c :: d :: bcdSectionConvertToString bcdExtType rest := by
  have hf : bcdToChar HALF_BYTE bcdExtType = none := by cases bcdExtType <;> decide
  rw [bcdSectionConvertToString]
  cases bcdToChar (code &&& LO_FOUR) bcdExtType with
  | none => rfl
  | some c =>
    simp only
    split
    next hl =>
      rw [hl.1, hf]
    next => rfl

theorem lone_mark_byte (bcdExtType : BcdExtType) :
    ∀ code, ((bcdToChar (code &&& LO_FOUR) bcdExtType).any isSharpStar ∧
        bcdToChar ((code >>> 4) &&& HALF_BYTE) bcdExtType = none) ↔
      bcdExtType ≠ .other ∧ (code = 0xFA ∨ code = 0xFB) := by
  cases bcdExtType <;> exact forall_byte (by decide +kernel)

theorem loneMark_section_iff (bcdExtType : BcdExtType) (codes : List UInt8) :
    LoneMark (bcdSectionConvertToString bcdExtType codes) ↔
      bcdExtType ≠ .other ∧ ∃ b rest, codes = b :: rest ∧ (b = 0xFA ∨ b = 0xFB) := by
  cases codes with
  | nil => simp [LoneMark, bcdSectionConvertToString]
  | cons code rest =>
    have hc : (∃ b rest', code :: rest = b :: rest' ∧ (b = 0xFA ∨ b = 0xFB)) ↔
        code = 0xFA ∨ code = 0xFB := by
      constructor
      · rintro ⟨b, rest', h, _⟩
        rwa [(List.cons.inj h).1]
      · intro h
        exact ⟨code, rest, rfl, h⟩
    rw [hc, ← lone_mark_byte, bcdSectionConvertToString_cons]
    cases bcdToChar (code &&& LO_FOUR) bcdExtType with
    | none => simp [LoneMark]
    | some c =>
      cases bcdToChar ((code >>> 4) &&& HALF_BYTE) bcdExtType with
      | none => simp [LoneMark]
      | some d => simp [LoneMark]

/-- The type 0x91, and a first byte with the filler behind a mark. -/
def PacksLoneMark (bcdExtType : BcdExtType) (bcdCode : List UInt8) : Prop :=
  bcdExtType ≠ .other ∧ ∃ b rest, bcdCode = FLAG_INTERNATIONAL :: b :: rest ∧ (b = 0xFA ∨ b = 0xFB)

/-! ## The indices of the copy -/

theorem toInt_ofNat {i : Nat} (hi : i < 2 ^ 31) : (Int32.ofNat i).toInt = i :=
  Int32.toInt_ofNat_of_lt (by omega)

theorem bmod_of_nonneg {x : Int} (hnn : 0 ≤ x) (hlt : x < 2 ^ 32) :
    x.bmod (2 ^ 32) = if x < 2 ^ 31 then x else x - 2 ^ 32 := by
  have hm : x % 2 ^ 32 = x := Int.emod_eq_of_lt hnn hlt
  simp only [Int.bmod_def, Nat.cast_pow, Nat.cast_ofNat, hm]
  rfl

section Copy

variable {arr : List UInt8} {dataLength offset length : Int32}

theorem mem_copyIndices {i : Int32} (h : i ∈ copyIndices offset length) :
    ∃ k : Nat, (k : Int) < length.toInt ∧ i.toInt = (offset.toInt + k).bmod (2 ^ 32) := by
  obtain ⟨k, hk, rfl⟩ := mem_map.1 h
  have hlt : (k : Int) < length.toInt := by
    have := mem_range.1 hk
    omega
  have hm := Int32.toInt_lt length
  refine ⟨k, hlt, ?_⟩
  rw [Int32.toInt_add, toInt_ofNat (by omega)]

/-- The guard lets a sum beyond `int` pass, and then an index is outside whatever the size is. -/
theorem copyIndices_inside_iff (hdt : dataLength.toInt = arr.length)
    (hof : 0 ≤ offset.toInt) (hln : 0 ≤ length.toInt) (hac : ¬ offset + length > dataLength) :
    (∀ i ∈ copyIndices offset length, 0 ≤ i.toInt ∧ i.toInt < arr.length) ↔
      offset.toInt + length.toInt < 2 ^ 31 := by
  have hmO := Int32.toInt_lt offset
  have hmx := Int32.toInt_lt length
  have hmD := Int32.toInt_lt dataLength
  rw [gt_iff_lt, Int32.lt_iff_toInt_lt, Int32.toInt_add] at hac
  constructor
  · intro hin
    by_contra hov
    -- the last element
    have hls : offset + Int32.ofNat (length.toInt.toNat - 1) ∈ copyIndices offset length :=
      mem_map.2 ⟨_, mem_range.2 (by omega), rfl⟩
    have hrg := hin _ hls
    rw [Int32.toInt_add, toInt_ofNat (by omega), bmod_of_nonneg (by omega) (by omega)] at hrg
    split at hrg <;> omega
  · intro hs i hi
    obtain ⟨k, hk, hid⟩ := mem_copyIndices hi
    rw [bmod_of_nonneg (by omega) (by omega), if_pos (by omega)] at hac hid
    omega

theorem map_copyIndices (ho : 0 ≤ offset.toInt) (hl : 0 ≤ length.toInt)
    (hs : offset.toInt + length.toInt < 2 ^ 31) (he : offset.toInt + length.toInt ≤ arr.length) :
    (copyIndices offset length).map (arrayElement arr) =
      (arr.drop offset.toInt.toNat).take length.toInt.toNat := by
  apply ext_getElem
  · simp only [copyIndices, length_map, length_range, length_take, length_drop]
    omega
  · intro k hk _
    rw [length_map, copyIndices, length_map, length_range] at hk
    have hid : (offset + .ofNat k).toInt = offset.toInt + k := by
      rw [Int32.toInt_add, toInt_ofNat (by omega), bmod_of_nonneg (by omega) (by omega),
        if_pos (by omega)]
    have hpl : (offset.toInt + (k : Int)).toNat = offset.toInt.toNat + k := by omega
    simp only [copyIndices, getElem_map, getElem_range, getElem_take,
      getElem_drop, arrayElement, hid]
    rw [if_pos (by omega), hpl, getD_eq_getElem?_getD, getElem?_eq_getElem, Option.getD_some]

end Copy

/-! ## The whole call -/

section Call

variable {arr : List UInt8} {dataLength offset length : Int32} {bcdExtType : BcdExtType}

theorem indices_bcdConvertToStringReads (ha : ¬ offset + length > dataLength) :
    (bcdConvertToStringReads arr dataLength offset length bcdExtType).indices =
      copyIndices offset length := by
  rw [bcdConvertToStringReads, if_neg ha]
  simp only
  split <;> rfl

/-- The text is dereferenced outside exactly if it is a lone mark that is to get a `+`. -/
theorem within_bcdConvertToStringReads_iff (ha : ¬ offset + length > dataLength) :
    (bcdConvertToStringReads arr dataLength offset length bcdExtType).number.Within 0
        (bcdConvertToStringReads arr dataLength offset length bcdExtType).text.length ↔
      ¬ PacksLoneMark bcdExtType ((copyIndices offset length).map (arrayElement arr)) := by
  rw [bcdConvertToStringReads, if_neg ha]
  generalize (copyIndices offset length).map (arrayElement arr) = bcdCode
  cases bcdCode with
  | nil => exact iff_of_true within_pure (by simp [PacksLoneMark])
  | cons flag codes =>
    simp only
    by_cases hf : flag = FLAG_INTERNATIONAL
    · rw [if_pos hf, insertPlusReads_within_iff, loneMark_section_iff, hf]
      simp [PacksLoneMark]
    · rw [if_neg hf]
      refine iff_of_true within_pure ?_
      rintro ⟨-, b, _, hc, -⟩
      exact hf (List.cons.inj hc).1

theorem value_bcdConvertToStringReads (hdt : dataLength.toInt = arr.length)
    (ho : 0 ≤ offset.toInt) (hl : 0 ≤ length.toInt) (hs : offset.toInt + length.toInt < 2 ^ 31) :
    (bcdConvertToStringReads arr dataLength offset length bcdExtType).number.value =
      bcdConvertToStringAt arr arr.length offset.toInt.toNat length.toInt.toNat bcdExtType := by
  have hgd : offset + length > dataLength ↔
      offset.toInt.toNat + length.toInt.toNat > arr.length := by
    rw [gt_iff_lt, Int32.lt_iff_toInt_lt, Int32.toInt_add, bmod_of_nonneg (by omega) (by omega),
      if_pos (by omega)]
    omega
  rw [bcdConvertToStringReads, bcdConvertToStringAt]
  by_cases hac : offset + length > dataLength
  · rw [if_pos hac, if_pos (hgd.1 hac)]
    rfl
  · have hf := mt hgd.2 hac
    rw [if_neg hac, if_neg hf, map_copyIndices ho hl hs (by omega)]
    generalize (arr.drop offset.toInt.toNat).take length.toInt.toNat = bcdCode
    cases bcdCode with
    | nil => rfl
    | cons flag codes =>
      rw [value_ite, value_insertPlusReads]
      rfl

end Call

/-- **What a decoding reads** is inside exactly if the end of its part is an `int` and the part is
not a lone mark with type 0x91. -/
theorem number_reads_inside_iff (arr : List UInt8) (dataLength offset length : Int32)
    (bcdExtType : BcdExtType) (hdata : dataLength.toInt = arr.length) (hoffset : 0 ≤ offset.toInt)
    (hlength : 0 ≤ length.toInt) (haccepted : ¬ offset + length > dataLength) :
    (bcdConvertToStringReads arr dataLength offset length bcdExtType).Inside arr ↔
      offset.toInt + length.toInt < 2 ^ 31 ∧
        ¬ PacksLoneMark bcdExtType ((arr.drop offset.toInt.toNat).take length.toInt.toNat) := by
  rw [NumberDecoding.Inside, indices_bcdConvertToStringReads haccepted,
    copyIndices_inside_iff hdata hoffset hlength haccepted,
    within_bcdConvertToStringReads_iff haccepted]
  refine and_congr_right fun hs => ?_
  have he : offset.toInt + length.toInt ≤ arr.length := by
    rw [gt_iff_lt, Int32.lt_iff_toInt_lt, Int32.toInt_add, bmod_of_nonneg (by omega) (by omega),
      if_pos hs] at haccepted
    omega
  rw [map_copyIndices hoffset hlength hs he]

theorem number_reads_inside_plain :
    (bcdConvertToStringReads [0x02, 0x91, 0x12] 3 1 2 .adn).Inside [0x02, 0x91, 0x12] := by
  apply (number_reads_inside_iff [0x02, 0x91, 0x12] 3 1 2 .adn rfl (by decide) (by decide)
    (by decide)).2
  refine ⟨by decide, ?_⟩
  rintro ⟨-, b, _, hc, hb⟩
  have hby : (0x12 : UInt8) = b := (List.cons.inj (List.cons.inj hc).2).1
  subst hby
  exact absurd hb (by decide)

/-- The number `*` with type 0x91: the iterator is dereferenced at the end of the text. -/
theorem lone_star_read_outside :
    ¬ (2 : Int32) + 2 > 4 ∧
      (bcdConvertToStringReads [0x41, 0x02, 0x91, 0xFA] 4 2 2 .adn).text = [STAR] ∧
      1 ∈ (bcdConvertToStringReads [0x41, 0x02, 0x91, 0xFA] 4 2 2 .adn).number.reads ∧
      ¬ (bcdConvertToStringReads [0x41, 0x02, 0x91, 0xFA] 4 2 2 .adn).Inside
        [0x41, 0x02, 0x91, 0xFA] := by
  have ht : (bcdConvertToStringReads [0x41, 0x02, 0x91, 0xFA] 4 2 2 .adn).text = [STAR] := by
    decide
  have hr : 1 ∈ (bcdConvertToStringReads [0x41, 0x02, 0x91, 0xFA] 4 2 2 .adn).number.reads := by
    decide
  refine ⟨by decide, ht, hr, ?_⟩
  rintro ⟨-, hw⟩
  have he := (hw 1 hr).2
  exact absurd he (by decide)

end TelephonyCore.Phonebook
