import TelephonyCore.Phonebook.Names

/-!
# Names in the two one-byte forms of UCS2

A name can be coded with one byte a character: 81 or 82, the number of characters, a base of one or
two bytes, and the characters. One with bit 8 set is an offset from the base, one without is a
character of its own. What is read of a field is the string up to the first zero character, as it is
built from a pointer, and if nothing is left the whole field, flag and all, in the default alphabet.
-/

namespace TelephonyCore.Phonebook

open Codec (StdString)
open Lib List

/-! ## Fields -/

inductive UcsBase where
  | one (base : UInt8)
  | two (bh bl : UInt8)

def UcsBase.value : UcsBase → Nat
  | .one base => base.toNat <<< 7
  | .two bh bl => bh.toNat <<< 8 + bl.toNat

/-- `n` is the number of characters. -/
def UcsBase.header : UcsBase → UInt8 → List UInt8
  | .one base, n => [UCS_FLAG, n, base]
  | .two bh bl, n => [UCS_WIDE_FLAG, n, bh, bl]

def ucsCode (base : Nat) (c : UInt8) : Nat :=
  if c &&& 0x80 > 0 then base + (c &&& 0x7F).toNat else c.toNat

def ucsString16 (base : UcsBase) (cs : List UInt8) : U16String :=
  cs.map fun c => UInt16.ofNat (ucsCode base.value c)

def ucsField (base : UcsBase) (cs padding : List UInt8) : List UInt8 :=
  base.header (UInt8.ofNat cs.length) ++ cs ++ padding

/-- A conversion that loses nothing. -/
structure Utf.Lossless (utf : Utf) : Prop extends utf.Faithful where
  str16ToStr8_injective : Function.Injective utf.str16ToStr8

theorem basicUtf_lossless : basicUtf.Lossless where
  toFaithful := basicUtf_faithful
  str16ToStr8_injective := Function.LeftInverse.injective Utf8.decode_encode

/-! ## The bytes of the characters -/

theorem low_bits_of_clear : ∀ c : UInt8, ¬ (c &&& 0x80 > 0) → c &&& 0x7F = c :=
  forall_byte (by decide +kernel)

variable {code k : Nat} {base : UcsBase} {cs : List UInt8}

theorem unitBytes_ofNat (h : code < 0xFFFF) :
    unitBytes (UInt16.ofNat code) = [UInt8.ofNat (code / 0x100), UInt8.ofNat (code % 0x100)] := by
  have hc : (UInt16.ofNat code).toNat = code := by
    rw [UInt16.toNat_ofNat']
    omega
  rw [unitBytes, hc]

section Bytes

variable {base : Nat} {c : UInt8} (hsum : ucsCode base c < 0xFFFF)

include hsum

theorem unitBytes_one :
    unitBytes (UInt16.ofNat (ucsCode base c)) =
      [UInt8.ofNat (((if c &&& 0x80 > 0 then base else 0) + (c &&& 0x7F).toNat) / 0x100),
        UInt8.ofNat (((if c &&& 0x80 > 0 then base else 0) + (c &&& 0x7F).toNat) % 0x100)] := by
  have hcd : ucsCode base c = (if c &&& 0x80 > 0 then base else 0) + (c &&& 0x7F).toNat := by
    rw [ucsCode]
    split
    next => rfl
    next hcl => rw [low_bits_of_clear c hcl, Nat.zero_add]
  rw [unitBytes_ofNat hsum, hcd]

theorem unitBytes_two :
    unitBytes (UInt16.ofNat (ucsCode base c)) =
      if c &&& 0x80 > 0 then
        [UInt8.ofNat ((base + (c &&& 0x7F).toNat) / 0x100),
          UInt8.ofNat ((base + (c &&& 0x7F).toNat) % 0x100)]
      else [0, c] := by
  rw [unitBytes_ofNat hsum, ucsCode]
  split
  next => rfl
  next =>
    have hc := c.toNat_lt
    rw [Nat.div_eq_of_lt hc, Nat.mod_eq_of_lt hc, UInt8.ofNat_toNat]
    rfl

end Bytes

/-! ## What is read -/

theorem u16FromPointer_units (w : U16String) :
    u16FromPointer (charsConvertToChar16 (w.flatMap unitBytes) true) = w.takeWhile (· ≠ 0) := by
  by_cases hw : w = []
  · rw [hw]
    rfl
  · have h := charsConvertToChar16_field w hw 0
    rw [Nat.mul_zero, replicate_zero, append_nil, replicate_zero, append_nil] at h
    rw [h]
    rfl

theorem ucsField_length (base : UcsBase) (cs padding : List UInt8) :
    (ucsField base cs padding).length =
      (base.header (UInt8.ofNat cs.length)).length + (cs.length + padding.length) := by
  rw [ucsField, length_append, length_append, Nat.add_assoc]

section Field

variable {cs padding behind : List UInt8} (hn : cs.length < 256)

include hn

theorem field_chars (padding behind : List UInt8) {header : List UInt8} (hk : header.length = k) :
    ((header ++ cs ++ padding ++ behind).drop k).take
        (min (min (UInt8.ofNat cs.length).toNat ((k + (cs.length + padding.length)) - k))
          (k + (cs.length + padding.length) - k)) = cs := by
  have hc : (UInt8.ofNat cs.length).toNat = cs.length := by
    rw [UInt8.toNat_ofNat']
    omega
  rw [hc, Nat.add_sub_cancel_left, Nat.min_eq_left (Nat.le_add_right ..),
    Nat.min_eq_left (Nat.le_add_right ..), append_assoc, append_assoc,
    drop_left' hk, take_left]

theorem ucsConvertToString_field (base : UInt8)
    (hsum : ∀ c ∈ cs, ucsCode (base.toNat <<< 7) c < 0xFFFF) :
    ucsConvertToString (ucsField (.one base) cs padding ++ behind)
        (ucsField (.one base) cs padding).length 0 =
      (ucsString16 (.one base) cs).takeWhile (· ≠ 0) := by
  have hch := field_chars hn padding behind
    (show (UcsBase.header (.one base) (.ofNat cs.length)).length = 3 from rfl)
  rw [← u16FromPointer_units, ucsString16, flatMap_map, ucsConvertToString, ucsField_length,
    show (UcsBase.header (.one base) (.ofNat cs.length)).length = 3 from rfl,
    if_neg (by omega)]
  refine congrArg (fun bytes => u16FromPointer (charsConvertToChar16 bytes true)) ?_
  refine (congrArg (List.flatMap _) hch).trans ?_
  exact flatMap_congr fun c hc => (unitBytes_one (hsum c hc)).symm

theorem ucsWideConvertToString_field (bh bl : UInt8)
    (hsum : ∀ c ∈ cs, ucsCode (bh.toNat <<< 8 + bl.toNat) c < 0xFFFF) :
    ucsWideConvertToString (ucsField (.two bh bl) cs padding ++ behind)
        (ucsField (.two bh bl) cs padding).length 0 =
      (ucsString16 (.two bh bl) cs).takeWhile (· ≠ 0) := by
  have hch := field_chars hn padding behind
    (show (UcsBase.header (.two bh bl) (.ofNat cs.length)).length = 4 from rfl)
  rw [← u16FromPointer_units, ucsString16, flatMap_map, ucsWideConvertToString, ucsField_length,
    show (UcsBase.header (.two bh bl) (.ofNat cs.length)).length = 4 from rfl,
    if_neg (by omega)]
  refine congrArg (fun bytes => u16FromPointer (charsConvertToChar16 bytes true)) ?_
  refine (congrArg (List.flatMap _) hch).trans ?_
  exact flatMap_congr fun c hc => (unitBytes_two (hsum c hc)).symm

theorem field_ucs_eq (utf : Utf) (base : UcsBase) (hsum : ∀ c ∈ cs, ucsCode base.value c < 0xFFFF) :
    diallingNumberStringFieldConvertToString utf (ucsField base cs padding ++ behind) 0
        (ucsField base cs padding).length =
      if (ucsString16 base cs).takeWhile (· ≠ 0) ≠ [] then
        utf.str16ToStr8 (((ucsString16 base cs).takeWhile (· ≠ 0)).rdropWhile (· == FILLER))
      else cphs7bitConvertToString utf (bytesConvertToHexString (ucsField base cs padding)) := by
  have hl := ucsField_length base cs padding
  rw [diallingNumberStringFieldConvertToString, take_left]
  cases base with
  | one base =>
    rw [show (UcsBase.header (.one base) (.ofNat cs.length)).length = 3 from rfl] at hl
    have hf : (ucsField (.one base) cs padding ++ behind).getD 0 0 = UCS_FLAG := rfl
    have hr : (ucsField (.one base) cs padding).length ≥ START_POS := by
      rw [START_POS]
      omega
    rw [if_neg (by omega)]
    simp only [hf, hr, show UCS_FLAG ≠ UCS_WIDE_FLAG by decide, and_self, and_false, if_true,
      if_false]
    rw [ucsConvertToString_field hn base hsum]
  | two bh bl =>
    rw [show (UcsBase.header (.two bh bl) (.ofNat cs.length)).length = 4 from rfl] at hl
    have hf : (ucsField (.two bh bl) cs padding ++ behind).getD 0 0 = UCS_WIDE_FLAG := rfl
    have hr : (ucsField (.two bh bl) cs padding).length ≥ END_POS := by
      rw [END_POS]
      omega
    rw [if_neg (by omega)]
    simp only [hf, hr, and_self, if_true]
    rw [ucsWideConvertToString_field hn bh bl hsum]

end Field

/-! ## Names that come back -/

theorem cphsLoop_no_chars (base : UcsBase) (padding : List UInt8) :
    ∃ tail, cphsLoop (bytesConvertToHexString (ucsField base [] padding)) false = 0x40 :: tail := by
  cases base with
  | one base =>
    exact ⟨_, cphsLoop_byte 0 _ false⟩
  | two bh bl =>
    exact ⟨_, cphsLoop_byte 0 _ false⟩

theorem cphs7bitConvertToString_eq {utf : Utf} (hu : utf.Faithful) {bytes : List UInt8}
    (h : bytes ≠ []) :
    cphs7bitConvertToString utf (bytesConvertToHexString bytes) =
      utf.str16ToStr8 (cphsLoop (bytesConvertToHexString bytes) false) := by
  have hl := bytesConvertToHexString_length bytes
  have hp := length_pos_iff.2 h
  rw [cphs7bitConvertToString, if_neg, hu.toUtf8_eq _ (cphsLoop_basicPlane bytes false)]
  intro hnl
  rw [hnl, length_nil] at hl
  omega

theorem ucsField_ne_nil (base : UcsBase) (cs padding : List UInt8) :
    ucsField base cs padding ≠ [] := by
  cases base with
  | one base | two bh bl => exact cons_ne_nil _ _

theorem ofNat_eq_iff (h : code < 0xFFFF) (hk : k ≤ 0xFFFF) :
    UInt16.ofNat code = UInt16.ofNat k ↔ code = k := by
  rw [← UInt16.toNat_inj, UInt16.toNat_ofNat', UInt16.toNat_ofNat']
  omega

theorem zero_mem_ucsString16_iff (hsum : ∀ c ∈ cs, ucsCode base.value c < 0xFFFF) :
    0 ∈ ucsString16 base cs ↔ ∃ c ∈ cs, ucsCode base.value c = 0 := by
  rw [ucsString16, mem_map]
  exact exists_congr fun c => and_congr_right fun hc => ofNat_eq_iff (hsum c hc) (by decide)

theorem rdropWhile_ucsString16 (hsum : ∀ c ∈ cs, ucsCode base.value c < 0xFFFF) :
    (ucsString16 base cs).rdropWhile (· == FILLER) = ucsString16 base cs := by
  rw [rdropWhile_eq_self_iff]
  intro hne hls
  obtain ⟨c, hc, heq⟩ := mem_map.1 (getLast_mem hne)
  rw [← heq, beq_iff_eq] at hls
  have hf : ucsCode base.value c = 0xFFFF := (ofNat_eq_iff (hsum c hc) (le_refl _)).1 hls
  have hlt := hsum c hc
  omega

/-- **A name in one of the two forms** is read as it was coded exactly if it has characters and none
of them is zero. -/
theorem ucs_name_iff (utf : Utf) (hutf : utf.Lossless) (base : UcsBase)
    (cs padding behind : List UInt8) (hn : cs.length < 256)
    (hsum : ∀ c ∈ cs, ucsCode base.value c < 0xFFFF) :
    diallingNumberStringFieldConvertToString utf (ucsField base cs padding ++ behind) 0
        (ucsField base cs padding).length = utf.str16ToStr8 (ucsString16 base cs) ↔
      cs ≠ [] ∧ ∀ c ∈ cs, ucsCode base.value c ≠ 0 := by
  rw [field_ucs_eq hn utf base hsum,
    cphs7bitConvertToString_eq hutf.toFaithful (ucsField_ne_nil base cs padding), ← apply_ite,
    hutf.str16ToStr8_injective.eq_iff]
  have hz := zero_mem_ucsString16_iff hsum
  by_cases hem : cs = []
  · subst hem
    refine iff_of_false ?_ (fun h => h.1 rfl)
    obtain ⟨_, ht⟩ := cphsLoop_no_chars base padding
    rw [if_neg (by simp [ucsString16]), ht]
    exact cons_ne_nil _ _
  by_cases hm : 0 ∈ ucsString16 base cs
  · obtain ⟨c, hc, hcd⟩ := hz.1 hm
    refine iff_of_false ?_ (fun h => h.2 c hc hcd)
    intro heq
    -- the string ends before the zero, and there is none in the alphabet either
    rw [← heq] at hm
    split at hm
    · have hr := (List.rdropWhile_prefix (· == FILLER) _).subset hm
      cases mem_takeWhile_imp hr
    · exact (plainChar_cphsLoop _ _ 0 hm).1 rfl
  · have hsl : (ucsString16 base cs).takeWhile (· ≠ 0) = ucsString16 base cs := by
      rw [takeWhile_eq_self_iff]
      intro c hc
      have hne : c ≠ 0 := fun h => hm (h ▸ hc)
      simpa using hne
    have hne : ucsString16 base cs ≠ [] := by
      rw [ucsString16, ne_eq, map_eq_nil_iff]
      exact hem
    rw [hsl, if_pos hne, rdropWhile_ucsString16 hsum]
    refine iff_of_true rfl ⟨hem, ?_⟩
    intro c hc hcd
    exact hm (hz.2 ⟨c, hc, hcd⟩)

theorem ucs_name_plain :
    diallingNumberStringFieldConvertToString basicUtf [0x81, 0x02, 0x07, 0x41, 0xA9, 0xFF, 0xFF] 0 7
      = basicUtf.str16ToStr8 [0x41, 0x3A9] :=
  (ucs_name_iff basicUtf basicUtf_lossless (.one 0x07) [0x41, 0xA9] [0xFF, 0xFF] [] (by decide)
    (by decide +kernel)).2 ⟨by simp, by decide +kernel⟩

/-- A@B in the form 81 is read as A, and a name without characters as the bytes of its header. -/
theorem ucs_at_sign_ends_name :
    diallingNumberStringFieldConvertToString basicUtf [0x81, 0x03, 0x07, 0x41, 0x00, 0x42, 0xFF] 0 7
        = [0x41] ∧
      diallingNumberStringFieldConvertToString basicUtf [0x81, 0x03, 0x07, 0x41, 0x00, 0x42, 0xFF]
        0 7 ≠ basicUtf.str16ToStr8 [0x41, 0x00, 0x42] ∧
      diallingNumberStringFieldConvertToString basicUtf [0x81, 0x00, 0x41] 0 3 = [0x40, 0x41] ∧
      diallingNumberStringFieldConvertToString basicUtf [0x81, 0x00, 0x41] 0 3 ≠
        basicUtf.str16ToStr8 [] := by
  decide +kernel

end TelephonyCore.Phonebook
