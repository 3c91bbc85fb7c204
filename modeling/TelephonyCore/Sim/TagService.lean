import TelephonyCore.Codec.Asn1Utils

/-!
# `TagService`: the objects of a record

A reader of tag, length and value. `Next` moves to the next object, and `GetTagCode` and `GetValue`
give its parts. The tag is one byte, the length is one byte below 80, or 81 and one byte. `Next`
reads a field byte by byte.

What an object is for the specification is `CompleteTlv`. The loop over the length ends with the
data as well, and this is not taken for an error: behind a tag, a lone 81 at the end of the data is
an object without a value.
-/

namespace TelephonyCore.Sim

open List

open Codec (StdString hexVal strtolDigits)
open Lib (forall_byte)

structure TagService where
  length : UInt8 := 0
  tag : StdString := []
  offset : Nat := 0
  data : List UInt8
  dataOffset : Nat := 0
  hasNext : Bool := true
deriving DecidableEq

namespace TagService

/-! ## The functions -/

def ERR : Int := -1
def CHINESE_FLAG : UInt8 := 0x80
def UCS_FLAG : UInt8 := 0x81
def CHINESE_POS : Nat := 2
def FIRST : Nat := 0
def SECOND : Nat := 1
def BYTE_ZERO : UInt8 := 0
def UINT8_MAX : UInt8 := 0xFF
def BUFF_SIZE : Nat := 3
def INPUT_VALUE_LENGTH : Nat := 10
def INT32_MAX : Nat := 2 ^ 31 - 1

def bytesOfText : StdString → List UInt8
  -- `from_chars` into an unsigned type takes no sign, and without a digit `res` stays zero
  | hi :: lo :: rest => UInt8.ofNat (strtolDigits 0 [hi, lo]) :: bytesOfText rest
  | _ => []

def ofString (data : StdString) : TagService :=
  if data = [] ∨ data.length % CHINESE_POS ≠ 0 then { data := [] }
  else { data := bytesOfText data }

/-- Of telephony_common_utils.cpp:78, without the form `0x...`, which no tag has. -/
def isValidHexValue (inputValue : StdString) : Bool :=
  inputValue.length ≤ INPUT_VALUE_LENGTH && inputValue ≠ [] &&
    inputValue.all (fun c => (hexVal c).isSome) && strtolDigits 0 inputValue ≤ INT32_MAX

def getTagCode (s : TagService) : Int :=
  -- the text is in a buffer with zeros behind it
  let tagTemp := s.tag.takeWhile (· ≠ 0)
  if !isValidHexValue tagTemp then ERR
  else strtolDigits 0 s.tag

/-- The loop of `GetValue` over `n` bytes; `none` where `at` throws. -/
def valueLoop (data : List UInt8) : Nat → Nat → Option (List UInt8)
  | 0, _ => some []
  | n + 1, pos => do
    let b ← data[pos]?
    let result ← valueLoop data n (pos + 1)
    pure (b :: result)

def getValue (s : TagService) : Option (List UInt8) :=
  valueLoop s.data s.length.toNat s.dataOffset

/-- What a byte is for its field. -/
inductive Res where
  | CONTINUE
  | FINISH
  | ERROR
deriving DecidableEq

def lowerHexDigit (d : Nat) : UInt8 := if d < 10 then UInt8.ofNat (48 + d) else UInt8.ofNat (87 + d)

def toChars (arg : UInt8) : StdString :=
  if arg.toNat < 16 then [lowerHexDigit arg.toNat]
  else [lowerHexDigit (arg.toNat / 16), lowerHexDigit (arg.toNat % 16)]

/-- All characters of the buffer, the zeros too. -/
def tagBuffer (arg : UInt8) : StdString :=
  toChars arg ++ List.replicate (BUFF_SIZE - (toChars arg).length) BYTE_ZERO

def tagFunc (arg : UInt8) (order : Nat) (tag : StdString) : Res × StdString :=
  if order = FIRST then
    if arg = BYTE_ZERO ∨ arg = UINT8_MAX then (.ERROR, tag)
    else (.FINISH, tag ++ tagBuffer arg)
  else (.ERROR, tag)

def lengthFunc (arg : UInt8) (order : Nat) (len : UInt8) : Res × UInt8 :=
  if order = FIRST then
    if arg < CHINESE_FLAG then (.FINISH, arg)
    else if arg = UCS_FLAG then (.CONTINUE, BYTE_ZERO)
    else (.ERROR, len)
  else if order = SECOND then (.FINISH, arg)
  else (.ERROR, len)

/-- The field was not wrong, the offset and the field. -/
structure FieldEnd (α : Type) where
  ok : Bool
  offset : Nat
  field : α

def fieldLoop {α : Type} (func : UInt8 → Nat → α → Res × α) :
    List UInt8 → Nat → Nat → α → FieldEnd α
  -- the end of the data ends the loop, whether the field is complete or not
  | [], offset, _, field => ⟨true, offset, field⟩
  | arg :: rest, offset, order, field =>
    match func arg order field with
    | (.ERROR, field) => ⟨false, offset, field⟩
    | (.FINISH, field) => ⟨true, offset + 1, field⟩
    | (.CONTINUE, field) => fieldLoop func rest (offset + 1) (order + 1) field

def next (s : TagService) : Bool × TagService :=
  if !s.hasNext || s.data.length ≤ s.offset then (false, { s with hasNext := false })
  else
    let tagEnd := fieldLoop tagFunc (s.data.drop s.offset) s.offset 0 []
    let s := { s with offset := tagEnd.offset, tag := tagEnd.field }
    if !tagEnd.ok || s.data.length ≤ s.offset then (false, { s with hasNext := false })
    else
      let lengthEnd := fieldLoop lengthFunc (s.data.drop s.offset) s.offset 0 0
      let s := { s with offset := lengthEnd.offset, length := lengthEnd.field }
      if !lengthEnd.ok then (false, { s with hasNext := false })
      else
        let s := { s with dataOffset := s.offset, offset := s.offset + s.length.toNat }
        if s.data.length < s.offset then (false, { s with hasNext := false })
        else (s.hasNext, s)

/-- What they return, and the object behind them. -/
def calls (s : TagService) : Nat → List Bool × TagService
  | 0 => ([], s)
  | k + 1 =>
    let (results, s) := calls s k
    let (result, s) := s.next
    (results ++ [result], s)

/-! ## Complete objects -/

/-- A tag that is not a filler. -/
def IsTag (tag : UInt8) : Prop := tag ≠ 0x00 ∧ tag ≠ 0xFF

instance (tag : UInt8) : Decidable (IsTag tag) := inferInstanceAs (Decidable (_ ∧ _))

/-- `bytes` starts with a complete object, and `after` is behind it. -/
inductive CompleteTlv (bytes : List UInt8) (tag : UInt8) (value after : List UInt8) : Prop
  | short (htag : IsTag tag) {len : UInt8} (hlen : len < 0x80) (hvalue : value.length = len.toNat)
    (hbytes : bytes = tag :: len :: (value ++ after))
  | long (htag : IsTag tag) {len : UInt8} (hvalue : value.length = len.toNat)
    (hbytes : bytes = tag :: 0x81 :: len :: (value ++ after))

/-- A tag, and a length of which only the first of two bytes is there. -/
def TruncatedLength (bytes : List UInt8) (tag : UInt8) : Prop := IsTag tag ∧ bytes = [tag, 0x81]

/-! ## One call -/

variable {tag : UInt8}

theorem tagLoop_of_isTag (h : IsTag tag) (rest : List UInt8) (offset : Nat) :
    fieldLoop tagFunc (tag :: rest) offset 0 [] = ⟨true, offset + 1, tagBuffer tag⟩ := by
  have hf : tagFunc tag 0 [] = (.FINISH, tagBuffer tag) := (if_pos rfl).trans (if_neg (not_or.2 h))
  rw [fieldLoop, hf]

theorem tagLoop_of_not_isTag (h : ¬IsTag tag) (rest : List UInt8) (offset : Nat) :
    (fieldLoop tagFunc (tag :: rest) offset 0 []).ok = false := by
  have hf : tagFunc tag 0 [] = (.ERROR, []) :=
    (if_pos rfl).trans (if_pos (not_not.1 fun hne => h (not_or.1 hne)))
  rw [fieldLoop, hf]

variable {len : UInt8}

theorem lengthLoop_short (h : len < 0x80) (rest : List UInt8) (offset : Nat) :
    fieldLoop lengthFunc (len :: rest) offset 0 0 = ⟨true, offset + 1, len⟩ := by
  have hf : lengthFunc len 0 0 = (.FINISH, len) := (if_pos rfl).trans (if_pos h)
  rw [fieldLoop, hf]

theorem lengthLoop_long (len : UInt8) (rest : List UInt8) (offset : Nat) :
    fieldLoop lengthFunc (0x81 :: len :: rest) offset 0 0 = ⟨true, offset + 2, len⟩ := rfl

theorem lengthLoop_truncated (offset : Nat) :
    fieldLoop lengthFunc [0x81] offset 0 0 = ⟨true, offset + 1, 0⟩ := rfl

theorem lengthLoop_error (hsh : ¬len < 0x80) (hl : len ≠ 0x81) (rest : List UInt8)
    (offset : Nat) : (fieldLoop lengthFunc (len :: rest) offset 0 0).ok = false := by
  have hf : lengthFunc len 0 0 = (.ERROR, 0) := (if_pos rfl).trans ((if_neg hsh).trans (if_neg hl))
  rw [fieldLoop, hf]

variable {s : TagService}

def atValue (s : TagService) (tag : UInt8) (lengthEnd : FieldEnd UInt8) : TagService :=
  { s with
    tag := tagBuffer tag
    length := lengthEnd.field
    dataOffset := lengthEnd.offset
    offset := lengthEnd.offset + lengthEnd.field.toNat }

variable {bytes rest : List UInt8}

theorem offset_add_length (hbs : s.data.drop s.offset = tag :: rest) :
    s.offset + rest.length + 1 = s.data.length := by
  have hl := congrArg List.length hbs
  rw [length_drop, length_cons] at hl
  omega

theorem goes_on (hn : s.hasNext) (hbs : s.data.drop s.offset = tag :: rest) :
    (!s.hasNext || decide (s.data.length ≤ s.offset)) = false := by
  have hl := offset_add_length hbs
  rw [hn, Bool.not_true, Bool.false_or, decide_eq_false_iff_not]
  omega

theorem next_of_lone_tag (hn : s.hasNext) (hbs : s.data.drop s.offset = [tag])
    (ht : IsTag tag) : s.next.1 = false := by
  have he : decide (s.data.length ≤ s.offset + 1) := by
    rw [decide_eq_true_iff, ← offset_add_length hbs]
    exact Nat.le_refl _
  rw [next, goes_on hn hbs, hbs, tagLoop_of_isTag ht]
  simp only [he, Bool.or_true, if_true, Bool.false_eq_true, if_false]

variable {first : UInt8}

theorem next_of_isTag (hn : s.hasNext) (hbs : s.data.drop s.offset = tag :: first :: rest)
    (ht : IsTag tag) {lengthEnd : FieldEnd UInt8}
    (hlp : fieldLoop lengthFunc (first :: rest) (s.offset + 1) 0 0 = lengthEnd) :
    s.next.1 = (lengthEnd.ok && lengthEnd.offset + lengthEnd.field.toNat ≤ s.data.length) ∧
      (s.next.1 → s.next.2 = s.atValue tag lengthEnd) := by
  have hln := offset_add_length hbs
  rw [length_cons] at hln
  have hdr : s.data.drop (s.offset + 1) = first :: rest := by
    rw [← drop_drop, hbs, drop_one, tail_cons]
  have hbh : decide (s.data.length ≤ s.offset + 1) = false := by
    rw [decide_eq_false_iff_not]
    omega
  rw [next, goes_on hn hbs, hbs, tagLoop_of_isTag ht]
  simp only [hbh, hdr, hlp]
  cases hok : lengthEnd.ok with
  | false => simp
  | true =>
    by_cases hr : lengthEnd.offset + lengthEnd.field.toNat ≤ s.data.length
    · simp [hr, Nat.not_lt.2, hn, atValue]
    · simp [hr, Nat.lt_of_not_le]

theorem next_of_not_isTag (h : ∀ tag ∈ (s.data.drop s.offset).head?, ¬IsTag tag) :
    s.next.1 = false := by
  rw [next]
  split
  · rfl
  · cases hbs : s.data.drop s.offset with
    | nil =>
      rename_i hst
      have hl := congrArg List.length hbs
      simp at hl hst
      omega
    | cons tag rest =>
      have hw := tagLoop_of_not_isTag (h tag (by rw [hbs]; rfl)) rest s.offset
      simp [hw]

def moved (s : TagService) (tag : UInt8) (value after : List UInt8) : TagService :=
  { s with
    tag := tagBuffer tag
    length := UInt8.ofNat value.length
    dataOffset := s.data.length - (value.length + after.length)
    offset := s.data.length - after.length }

variable {value after : List UInt8}

theorem next_of_fields (hn : s.hasNext) (hbs : s.data.drop s.offset = tag :: first :: rest)
    (htg : IsTag tag) {lengthOffset : Nat}
    (hlp : fieldLoop lengthFunc (first :: rest) (s.offset + 1) 0 0 = ⟨true, lengthOffset, len⟩)
    (hva : value.length = len.toNat)
    (he : lengthOffset + (value.length + after.length) = s.data.length) :
    s.next = (true, s.moved tag value after) := by
  obtain ⟨hr, hob⟩ := next_of_isTag hn hbs htg hlp
  have htr : s.next.1 := by
    simp only [hr, Bool.true_and, decide_eq_true_iff]
    omega
  have hln : .ofNat value.length = len := by rw [hva, UInt8.ofNat_toNat]
  have hvl : s.data.length - (value.length + after.length) = lengthOffset := by omega
  have hof : s.data.length - after.length = lengthOffset + len.toNat := by omega
  apply Prod.ext
  · exact htr
  · rw [hob htr, moved, hln, hvl, hof, atValue]

/-- **A complete object** is found. -/
theorem next_of_complete (hn : s.hasNext) (h : CompleteTlv (s.data.drop s.offset) tag value after) :
    s.next = (true, s.moved tag value after) := by
  cases h with
  | short ht hl hv hbs =>
    have hal := offset_add_length hbs
    simp only [length_cons, length_append] at hal
    exact next_of_fields hn hbs ht (lengthLoop_short hl _ _) hv (by omega)
  | long ht hv hbs =>
    have hal := offset_add_length hbs
    simp only [length_cons, length_append] at hal
    exact next_of_fields hn hbs ht (lengthLoop_long _ _ _) hv (by omega)

/-- **A truncated length** is taken for a zero. -/
theorem next_of_truncated (hn : s.hasNext)
    (h : TruncatedLength (s.data.drop s.offset) tag) : s.next = (true, s.moved tag [] []) := by
  obtain ⟨ht, hbs⟩ := h
  exact next_of_fields hn hbs ht (lengthLoop_truncated _) rfl (offset_add_length hbs)

theorem exists_value (h : len.toNat ≤ rest.length) :
    ∃ value after, value.length = len.toNat ∧ rest = value ++ after :=
  ⟨rest.take len.toNat, rest.drop len.toNat, length_take_of_le h, (take_append_drop _ _).symm⟩

theorem room_of_next (hn : s.hasNext) (hbs : s.data.drop s.offset = tag :: first :: rest)
    (htg : IsTag tag) {lengthOffset : Nat}
    (hl : fieldLoop lengthFunc (first :: rest) (s.offset + 1) 0 0 = ⟨true, lengthOffset, len⟩)
    (htr : s.next.1) : lengthOffset + len.toNat ≤ s.data.length := by
  rw [(next_of_isTag hn hbs htg hl).1, Bool.true_and, decide_eq_true_iff] at htr
  exact htr

/-- **Nothing else** is found. -/
theorem object_of_next (hnx : s.hasNext) (htr : s.next.1) :
    (∃ tag value after, CompleteTlv (s.data.drop s.offset) tag value after) ∨
      ∃ tag, TruncatedLength (s.data.drop s.offset) tag := by
  have hh : ∃ tag ∈ (s.data.drop s.offset).head?, IsTag tag := by
    by_contra hnn
    rw [next_of_not_isTag fun tag hm htg => hnn ⟨tag, hm, htg⟩] at htr
    cases htr
  obtain ⟨tag, hm, htg⟩ := hh
  obtain ⟨rest, hbs⟩ := head?_eq_some_iff.1 hm
  cases rest with
  | nil =>
    rw [next_of_lone_tag hnx hbs htg] at htr
    cases htr
  | cons len rest =>
    have hal := offset_add_length hbs
    simp only [length_cons] at hal
    by_cases hsh : len < 0x80
    · have hr := room_of_next hnx hbs htg (lengthLoop_short hsh rest _) htr
      obtain ⟨value, after, hv, rfl⟩ := exists_value (show len.toNat ≤ rest.length by omega)
      exact .inl ⟨tag, value, after, .short htg hsh hv hbs⟩
    · by_cases hl : len = 0x81
      · subst hl
        cases rest with
        | nil => exact .inr ⟨tag, htg, hbs⟩
        | cons len rest =>
          have hr := room_of_next hnx hbs htg (lengthLoop_long len rest _) htr
          simp only [length_cons] at hal
          obtain ⟨value, after, hv, rfl⟩ := exists_value (show len.toNat ≤ rest.length by omega)
          exact .inl ⟨tag, value, after, .long htg hv hbs⟩
      · rw [(next_of_isTag hnx hbs htg rfl).1, lengthLoop_error hsh hl, Bool.false_and] at htr
        cases htr

/-! ## Any number of calls -/

theorem next_of_ended (h : s.hasNext = false) : s.next.1 = false := by
  rw [next, h, Bool.not_false, Bool.true_or, if_pos rfl]

theorem next_hasNext_data (s : TagService) :
    s.next.2.hasNext = s.next.1 ∧ s.next.2.data = s.data := by
  rw [next]
  split
  · exact ⟨rfl, rfl⟩
  simp only
  split
  · exact ⟨rfl, rfl⟩
  split
  · exact ⟨rfl, rfl⟩
  split <;> exact ⟨rfl, rfl⟩

theorem calls_hasNext_data (s : TagService) (hn : s.hasNext) (k : Nat) :
    ((s.calls k).2.hasNext ↔ false ∉ (s.calls k).1) ∧ (s.calls k).2.data = s.data := by
  induction k with
  | zero => exact ⟨iff_of_true hn not_mem_nil, rfl⟩
  | succ k ih =>
    obtain ⟨hr, hdt⟩ := next_hasNext_data (s.calls k).2
    refine ⟨?_, hdt.trans ih.2⟩
    show (s.calls k).2.next.2.hasNext ↔ false ∉ (s.calls k).1 ++ [(s.calls k).2.next.1]
    rw [hr, mem_append, mem_singleton, not_or, ← ih.1]
    constructor
    · intro ht
      refine ⟨?_, fun hf => Bool.false_ne_true (hf.trans ht)⟩
      by_contra he
      rw [next_of_ended (Bool.not_eq_true _ ▸ he)] at ht
      cases ht
    · exact fun h => (Bool.not_eq_false _).mp fun hf => h.2 hf.symm

theorem CompleteTlv.split (h : CompleteTlv bytes tag value after) : value.length < 256 ∧
    ∃ header, 2 ≤ header.length ∧ bytes = header ++ (value ++ after) := by
  cases h with
  | @short ht len hl hv hbs =>
    exact ⟨hv ▸ len.toNat_lt, [tag, len], Nat.le_refl 2, hbs⟩
  | @long ht len hv hbs =>
    exact ⟨hv ▸ len.toNat_lt, [tag, 0x81, len], Nat.le_succ 2, hbs⟩

theorem CompleteTlv.length (h : CompleteTlv bytes tag value after) :
    value.length < 256 ∧ value.length + after.length + 2 ≤ bytes.length ∧
      bytes.drop (bytes.length - (value.length + after.length)) = value ++ after := by
  obtain ⟨hlt, _, _, rfl⟩ := h.split
  rw [length_append, ← length_append, Nat.add_sub_cancel, drop_left]
  exact ⟨hlt, by omega, rfl⟩

theorem CompleteTlv.suffix (h : CompleteTlv bytes tag value after) : after <:+ bytes := by
  obtain ⟨-, header, -, rfl⟩ := h.split
  exact ⟨header ++ value, append_assoc ..⟩

theorem valueLoop_eq (data after : List UInt8) :
    ∀ value pos, data.drop pos = value ++ after → valueLoop data value.length pos = some value
  | [], _, _ => rfl
  | b :: value, pos, hdt => by
    have hb : data[pos]? = some b := by rw [← head?_drop, hdt]; rfl
    have hr : data.drop (pos + 1) = value ++ after := by
      rw [← drop_drop, hdt, drop_one, cons_append, tail_cons]
    rw [length_cons, valueLoop, hb, valueLoop_eq data after value (pos + 1) hr]
    rfl

theorem getValue_moved (h : CompleteTlv (s.data.drop s.offset) tag value after) :
    (s.moved tag value after).getValue = some value := by
  obtain ⟨hlt, hle, hdr⟩ := h.length
  rw [length_drop] at hle hdr
  have hdt : s.data.drop (s.data.length - (value.length + after.length)) = value ++ after := by
    rw [← hdr, drop_drop]
    congr 1
    omega
  have hln : (s.moved tag value after).length.toNat = value.length := UInt8.toNat_ofNat_of_lt' hlt
  rw [getValue, hln]
  exact valueLoop_eq s.data after value _ hdt

theorem drop_moved (tag : UInt8) (value : List UInt8) (h : after <:+ s.data) :
    (s.moved tag value after).data.drop (s.moved tag value after).offset = after :=
  (suffix_iff_eq_drop.1 h).symm

theorem getTagCode_moved (s : TagService) (tag : UInt8) (value after : List UInt8) :
    (s.moved tag value after).getTagCode = tag.toNat := by
  have ht : ∀ tag, isValidHexValue ((tagBuffer tag).takeWhile (· ≠ 0)) ∧
      strtolDigits 0 (tagBuffer tag) = tag.toNat := forall_byte (by decide +kernel)
  show (if !isValidHexValue ((tagBuffer tag).takeWhile (· ≠ 0)) then ERR
    else (strtolDigits 0 (tagBuffer tag) : Int)) = tag.toNat
  rw [(ht tag).1, (ht tag).2]
  rfl

theorem offset_lt_moved (h : s.offset + (value.length + after.length + 2) ≤ s.data.length) :
    s.offset < (s.moved tag value after).offset := by
  show s.offset < s.data.length - after.length
  omega

theorem offset_lt_next (hn : s.hasNext) (ht : s.next.1) : s.offset < s.next.2.offset := by
  obtain ⟨tag, _, _, h⟩ | ⟨tag, h⟩ := object_of_next hn ht
  · obtain ⟨-, hle, -⟩ := h.length
    rw [next_of_complete hn h]
    rw [length_drop] at hle
    exact offset_lt_moved (by omega)
  · have hle := congrArg List.length h.2
    rw [next_of_truncated hn h]
    simp only [length_drop, length_cons] at hle
    exact offset_lt_moved (by simp only [length_nil]; omega)

theorem le_calls_offset (s : TagService) (hn : s.hasNext) (k : Nat)
    (h : false ∉ (s.calls k).1) : k ≤ (s.calls k).2.offset := by
  induction k with
  | zero => exact Nat.zero_le _
  | succ k ih =>
    have hr : false ∉ (s.calls k).1 ∧ false ≠ (s.calls k).2.next.1 := by
      have h' : false ∉ (s.calls k).1 ++ [(s.calls k).2.next.1] := h
      rw [mem_append, mem_singleton, not_or] at h'
      exact h'
    obtain ⟨hb, hls⟩ := hr
    have hlt := offset_lt_next ((calls_hasNext_data s hn k).1.2 hb)
      ((Bool.not_eq_false _).mp hls.symm)
    exact Nat.lt_of_le_of_lt (ih hb) hlt

structure CallMeets (results : List Bool) (s : TagService) : Prop where
  accepts_iff : s.next.1 = true ↔
    (∃ tag value after, CompleteTlv (s.data.drop s.offset) tag value after) ∧ false ∉ results
  value_eq : s.next.1 = true → ∀ tag value after,
    CompleteTlv (s.data.drop s.offset) tag value after → s.next.2.getValue = some value
  advances : s.next.1 = true → s.offset < s.next.2.offset

theorem not_complete_of_truncated {tag' : UInt8} (h : TruncatedLength bytes tag) :
    ¬CompleteTlv bytes tag' value after := by
  obtain ⟨-, rfl⟩ := h
  intro hc
  cases hc with
  | short ht hl hv hbs =>
    obtain ⟨-, rfl, -⟩ := by simpa using hbs
    exact absurd hl (by decide)
  | long ht hv hbs => simp at hbs

theorem callMeets_iff {results : List Bool} (hr : s.hasNext ↔ false ∉ results) :
    CallMeets results s ↔
      ¬(false ∉ results ∧ ∃ tag, TruncatedLength (s.data.drop s.offset) tag) := by
  constructor
  · rintro hmt ⟨hnn, tag, htn⟩
    have htr : s.next.1 := by rw [next_of_truncated (hr.2 hnn) htn]
    obtain ⟨⟨_, _, _, hc⟩, -⟩ := hmt.accepts_iff.1 htr
    exact not_complete_of_truncated htn hc
  · intro hwh
    have hnx : s.next.1 → s.hasNext := by
      intro htr
      by_contra he
      rw [next_of_ended ((Bool.not_eq_true _).mp he)] at htr
      cases htr
    refine ⟨⟨?_, ?_⟩, ?_, fun htr => offset_lt_next (hnx htr) htr⟩
    · intro htr
      have hnn := hr.1 (hnx htr)
      obtain hc | htn := object_of_next (hnx htr) htr
      · exact ⟨hc, hnn⟩
      · exact absurd ⟨hnn, htn⟩ hwh
    · rintro ⟨⟨tag, value, after, hc⟩, hnn⟩
      rw [next_of_complete (hr.2 hnn) hc]
    · intro htr tag value after hc
      rw [next_of_complete (hnx htr) hc]
      exact getValue_moved hc

/-- **`Next` accepts exactly the complete objects**, except for a length that the data cuts off; and
the calls come to an end. -/
theorem next_accepts_iff (data : List UInt8) :
    (∀ k, CallMeets (calls { data } k).1 (calls { data } k).2 ↔ ¬(false ∉ (calls { data } k).1 ∧
        ∃ tag, TruncatedLength (data.drop (calls { data } k).2.offset) tag)) ∧
    ∃ k ≤ data.length, (calls { data } k).2.next.1 = false := by
  constructor
  · intro k
    obtain ⟨hr, hdt⟩ := calls_hasNext_data { data } rfl k
    have hif := callMeets_iff hr
    rw [hdt] at hif
    exact hif
  · obtain ⟨hr, hdt⟩ := calls_hasNext_data { data } rfl data.length
    refine ⟨data.length, Nat.le_refl _, ?_⟩
    by_cases hn : false ∈ (calls { data } data.length).1
    · -- one of them has ended already
      apply next_of_ended
      rw [← Bool.not_eq_true, hr]
      exact not_not.2 hn
    · apply next_of_not_isTag
      rw [hdt, drop_eq_nil_of_le (le_calls_offset { data } rfl data.length hn)]
      intro tag ht
      cases ht

/-- Behind the tag 80, the length 81 has no second byte. -/
theorem truncated_length_accepted :
    (next { data := [0x80, 0x81] }).1 = true ∧
      (¬∃ tag value after, CompleteTlv [0x80, 0x81] tag value after) ∧
      ¬CallMeets (calls { data := [0x80, 0x81] } 0).1 (calls { data := [0x80, 0x81] } 0).2 := by
  have hn : ¬∃ tag value after, CompleteTlv [0x80, 0x81] tag value after := by
    rintro ⟨tag, value, after, hc⟩
    exact not_complete_of_truncated ⟨⟨by decide, by decide⟩, rfl⟩ hc
  exact ⟨rfl, hn, fun hm => hn (hm.accepts_iff.1 rfl).1⟩

end TagService

end TelephonyCore.Sim
