import TelephonyCore.Phonebook.NameReads

/-!
# Network names in the default alphabet

`Gsm7bitConvertToString` unpacks the text of a network name, seven bits a character, the first
character in the low bits of the first byte. It takes as many characters as fit. The coding scheme
in front of the text says how many bits of the last byte are spare; if these are seven, one
character too many fits, and it is dropped again. The spare bits are the low three bits of the
coding scheme, and the code takes four: with "Add CI" set, the last character is not dropped
(`network_name_iff`).

The text is a number, and its bytes and its characters are the digits of this number to the bases
256 and 128.
-/

namespace TelephonyCore.Sim

open Codec (StdString)
open Phonebook Lib Traced List

/-! ## The function -/

def EXTRA_7BIT : UInt8 := 7

/-- `bytes[pos]`, of which `left` bits are left. -/
structure SeptetCursor where
  pos : Nat
  left : Nat
deriving DecidableEq

def gsm7bitStep (bytes : List UInt8) (byteLen : Nat) (cursor : SeptetCursor) :
    Traced BufferFault (UInt8 × SeptetCursor) :=
  let ⟨pos, left⟩ := cursor
  if left = 8 then do
    let b ← readAt bytes byteLen pos
    pure (b &&& ~~~((0xFF : UInt8) <<< 7), ⟨pos, left - 7⟩)
  else if left = 7 then do
    let b ← readAt bytes byteLen pos
    pure ((b &&& (0xFF <<< UInt8.ofNat (8 - left))) >>> UInt8.ofNat (8 - left), ⟨pos + 1, 8⟩)
  else do
    let b ← readAt bytes byteLen pos
    let next ← readAt bytes byteLen (pos + 1)
    let low := (b &&& (0xFF <<< UInt8.ofNat (8 - left))) >>> UInt8.ofNat (8 - left)
    let high := (next &&& ~~~(0xFF <<< UInt8.ofNat (7 - left))) <<< UInt8.ofNat left
    pure (low ||| high, ⟨pos + 1, 8 - (7 - left)⟩)

def gsm7bitLoop (bytes : List UInt8) (byteLen : Nat) :
    Nat → SeptetCursor → Traced BufferFault U16String
  | 0, _ => pure []
  | n + 1, cursor => do
    let (gsmVal, cursor) ← gsm7bitStep bytes byteLen cursor
    let rest ← gsm7bitLoop bytes byteLen n cursor
    -- 129 is gsm val index max
    pure (if gsmVal.toNat ≥ 129 then rest else LANGUAGE_TABLE.getD gsmVal.toNat 0 :: rest)

def gsm7bitConvertToString (utf : Utf) (bytes : List UInt8) (byteLen : Nat) (state : UInt8) :
    Traced BufferFault StdString := do
  let n := byteLen * 8 / 7
  let wideStr ← gsm7bitLoop bytes byteLen n ⟨0, 8⟩
  let extraBit := state &&& 0x0F
  pure (utf.toUtf8 (if extraBit = EXTRA_7BIT then wideStr.take (n - 1) else wideStr))

/-! ## One character -/

def textValue (bytes : List UInt8) : Nat := Nat.ofDigits 256 (bytes.map UInt8.toNat)

theorem textValue_drop (bytes : List UInt8) (pos : Nat) :
    textValue bytes / 256 ^ pos = textValue (bytes.drop pos) := by
  rw [textValue, textValue, map_drop]
  apply Nat.ofDigits_div_pow_eq_ofDigits_drop pos (by decide)
  intro d hd
  obtain ⟨b, -, rfl⟩ := mem_map.1 hd
  exact b.toNat_lt

theorem textValue_cons (b : UInt8) (bytes : List UInt8) :
    textValue (b :: bytes) = b.toNat + 256 * textValue bytes :=
  Nat.ofDigits_cons ..

variable {i j left m : Nat} {bytes septets : List UInt8}

theorem low_part (hlo : 1 ≤ left) (hhi : left ≤ 7) :
    ∀ b, ((b &&& (0xFF <<< UInt8.ofNat (8 - left))) >>> .ofNat (8 - left)).toNat =
      b.toNat / 2 ^ (8 - left) := by
  interval_cases left <;> exact forall_byte (by decide +kernel)

theorem high_part (hlo : 1 ≤ left) (hhi : left ≤ 6) :
    ∀ b, ((b &&& ~~~(0xFF <<< UInt8.ofNat (7 - left))) <<< .ofNat left).toNat =
      b.toNat % 2 ^ (7 - left) * 2 ^ left := by
  interval_cases left <;> exact forall_byte (by decide +kernel)

theorem parts_eq {b next : Nat} (rest : Nat) (hlo : 1 ≤ left) (hhi : left ≤ 6) (hb : b < 256) :
    b / 2 ^ (8 - left) + next % 2 ^ (7 - left) * 2 ^ left =
      (b + 256 * (next + 256 * rest)) / 2 ^ (8 - left) % 128 := by
  interval_cases left <;> omega

theorem toNat_or_parts {low high : UInt8} (hl : low.toNat < 2 ^ left)
    (hh : high.toNat = m * 2 ^ left) : (low ||| high).toNat = low.toNat + high.toNat := by
  rw [UInt8.toNat_or, hh, ← Nat.shiftLeft_eq, Nat.or_comm,
    ← Nat.shiftLeft_add_eq_or_of_lt hl, Nat.add_comm]

/-- `7 * i` bits are behind it. -/
def SeptetCursor.At (cursor : SeptetCursor) (i : Nat) : Prop :=
  1 ≤ cursor.left ∧ cursor.left ≤ 8 ∧ 8 * cursor.pos + (8 - cursor.left) = 7 * i

theorem SeptetCursor.at_mk {pos : Nat} (hlo : 1 ≤ left) (hhi : left ≤ 8)
    (hpl : 8 * pos + (8 - left) = 7 * i) : (⟨pos, left⟩ : SeptetCursor).At i :=
  ⟨hlo, hhi, hpl⟩

theorem gsm7bitStep_spec (bytes : List UInt8) {cursor : SeptetCursor} (hc : cursor.At i)
    (hrm : 7 * (i + 1) ≤ 8 * bytes.length) : (gsm7bitStep bytes bytes.length cursor).Clean ∧
      (gsm7bitStep bytes bytes.length cursor).value.1.toNat = textValue bytes / 128 ^ i % 128 ∧
      (gsm7bitStep bytes bytes.length cursor).value.2.At (i + 1) := by
  obtain ⟨pos, left⟩ := cursor
  obtain ⟨hlo, hhi, hpl⟩ := hc
  simp only at hlo hhi hpl
  have hps : pos < bytes.length := by omega
  have hv : textValue bytes / 128 ^ i =
      (bytes[pos].toNat + 256 * textValue (bytes.drop (pos + 1))) / 2 ^ (8 - left) := by
    rw [← textValue_cons, ← drop_eq_getElem_cons, ← textValue_drop, Nat.div_div_eq_div_mul]
    congr 1
    rw [show (128 : Nat) = 2 ^ 7 from rfl, show (256 : Nat) = 2 ^ 8 from rfl, ← pow_mul, ← pow_mul,
      ← pow_add, hpl]
  have hre : bytes.getD pos 0 = bytes[pos] := by simp [hps]
  have hb := bytes[pos].toNat_lt
  rw [gsm7bitStep]
  by_cases hf : left = 8
  · subst hf
    have hlw : ∀ b, (b &&& ~~~((0xFF : UInt8) <<< 7)).toNat = b.toNat % 128 :=
      forall_byte (by decide +kernel)
    rw [if_pos rfl, clean_bind_iff, clean_readAt_iff, and_iff_left (clean_pure _),
      value_bind, value_pure, value_readAt, hre, hv]
    refine ⟨hps, ?_, ?_⟩
    · rw [hlw]
      omega
    · exact SeptetCursor.at_mk (by omega) (by omega) (by omega)
  rw [if_neg hf]
  by_cases hls : left = 7
  · subst hls
    rw [if_pos rfl, clean_bind_iff, clean_readAt_iff, and_iff_left (clean_pure _),
      value_bind, value_pure, value_readAt, hre, hv]
    refine ⟨hps, ?_, ?_⟩
    · rw [low_part (by decide) (by decide)]
      omega
    · exact SeptetCursor.at_mk (by omega) (by omega) (by omega)
  · -- the character has its low bits in this byte and its high bits in the next
    have hn : pos + 1 < bytes.length := by omega
    have hrd : bytes.getD (pos + 1) 0 = bytes[pos + 1] := by simp [hn]
    rw [if_neg hls, clean_bind_iff, clean_readAt_iff, clean_bind_iff,
      clean_readAt_iff, and_iff_left (clean_pure _), value_bind, value_bind,
      value_pure, value_readAt, value_readAt, hre, hrd, hv,
      drop_eq_getElem_cons, textValue_cons, ← parts_eq _ hlo (by omega) hb]
    refine ⟨⟨hps, hn⟩, ?_, ?_⟩
    · have hlw := low_part hlo (by omega) bytes[pos]
      have hhg := high_part hlo (by omega) bytes[pos + 1]
      rw [toNat_or_parts ?_ hhg, hlw, hhg]
      interval_cases left <;> omega
    · exact SeptetCursor.at_mk (by omega) (by omega) (by omega)

/-! ## The text -/

def charsFrom (bytes : List UInt8) (i n : Nat) : U16String :=
  (List.range' i n).map fun j => LANGUAGE_TABLE.getD (textValue bytes / 128 ^ j % 128) 0

theorem gsm7bitLoop_spec (bytes : List UInt8) :
    ∀ n cursor i, cursor.At i →
      7 * (i + n) ≤ 8 * bytes.length → (gsm7bitLoop bytes bytes.length n cursor).Clean ∧
        (gsm7bitLoop bytes bytes.length n cursor).value = charsFrom bytes i n
  | 0, cursor, i, _, _ => ⟨Traced.clean_pure [], rfl⟩
  | n + 1, cursor, i, hcr, hrm => by
    obtain ⟨hcn, hv, hn⟩ := gsm7bitStep_spec bytes hcr (by omega)
    obtain ⟨hcl, hrs⟩ := gsm7bitLoop_spec bytes n _ (i + 1) hn (by omega)
    have hdg : textValue bytes / 128 ^ i % 128 < 129 := Nat.lt_succ_of_lt (Nat.mod_lt _ (by decide))
    rw [gsm7bitLoop, clean_bind_iff, clean_bind_iff, value_bind,
      value_bind, value_pure, hrs, hv, if_neg (Nat.not_le.2 hdg)]
    exact ⟨⟨hcn, hcl, clean_pure _⟩, rfl⟩

theorem gsm7bitConvertToString_eq (utf : Utf) (bytes : List UInt8) (state : UInt8) :
    (gsm7bitConvertToString utf bytes bytes.length state).Clean ∧
      (gsm7bitConvertToString utf bytes bytes.length state).value =
        utf.toUtf8 (charsFrom bytes 0
          (if state &&& 0x0F = EXTRA_7BIT then bytes.length * 8 / 7 - 1
            else bytes.length * 8 / 7)) := by
  obtain ⟨hc, hv⟩ := gsm7bitLoop_spec bytes (bytes.length * 8 / 7) ⟨0, 8⟩ 0
    ⟨by decide, by decide, rfl⟩ (by omega)
  rw [gsm7bitConvertToString]
  rw [clean_bind_iff, value_bind, value_pure, hv]
  refine ⟨⟨hc, clean_pure _⟩, ?_⟩
  split
  · -- all but the last
    rw [charsFrom, charsFrom, ← map_take, take_range'_of_length_ge (Nat.sub_le _ _)]
  · rfl

/-! ## Packed texts -/

/-- Packed as in TS 23.038: the same number to another base. The spare bits above it are arbitrary.
-/
structure PackedSeptets (septets bytes : List UInt8) : Prop where
  septet_lt : ∀ s ∈ septets, s.toNat < 128
  length_eq : bytes.length = (7 * septets.length + 7) / 8
  value_eq :
    textValue bytes % 128 ^ septets.length = Nat.ofDigits 128 (septets.map UInt8.toNat)

def septetChar (s : UInt8) : UInt16 := LANGUAGE_TABLE.getD s.toNat 0

theorem digit_of_mod (value : Nat) {k : Nat} (h : j < k) :
    value % 128 ^ k / 128 ^ j % 128 = value / 128 ^ j % 128 := by
  obtain ⟨m, rfl⟩ : ∃ m, k = j + (m + 1) := ⟨k - j - 1, by omega⟩
  rw [pow_add, Nat.mod_mul_right_div_self]
  exact Nat.mod_mod_of_dvd _ (Dvd.intro_left (128 ^ m) rfl)

theorem PackedSeptets.digit (h : PackedSeptets septets bytes) (hj : j < septets.length) :
    textValue bytes / 128 ^ j % 128 = septets[j].toNat := by
  have hlt : ∀ d ∈ septets.map UInt8.toNat, d < 128 := by
    intro d hd
    obtain ⟨s, hs, rfl⟩ := mem_map.1 hd
    exact h.septet_lt s hs
  have hdg : septets[j].toNat < 128 := h.septet_lt _ (getElem_mem hj)
  rw [← digit_of_mod _ hj, h.value_eq, Nat.ofDigits_div_pow_eq_ofDigits_drop j (by decide) _ hlt,
    drop_eq_getElem_cons (by rw [length_map]; exact hj), Nat.ofDigits_cons,
    getElem_map]
  omega

theorem PackedSeptets.charsFrom_eq (h : PackedSeptets septets bytes) :
    charsFrom bytes 0 septets.length = septets.map septetChar := by
  apply ext_getElem
  · rw [charsFrom, length_map, length_range', length_map]
  · intro j _ hj
    rw [length_map] at hj
    simp only [charsFrom, getElem_map, getElem_range', Nat.zero_add, Nat.one_mul, h.digit hj]
    rfl

theorem basicPlane_charsFrom (bytes : List UInt8) (i n : Nat) :
    BasicPlane (charsFrom bytes i n) := by
  intro c hc
  obtain ⟨j, -, rfl⟩ := mem_map.1 hc
  have hlt : textValue bytes / 128 ^ j % 128 < LANGUAGE_TABLE.length := Nat.mod_lt _ (by decide)
  rw [getD_eq_getElem?_getD, getElem?_eq_getElem]
  exact (plainChar_table _ (getElem_mem hlt)).2

theorem toUtf8_charsFrom_ne {utf : Utf} (hu : utf.Faithful) (bytes : List UInt8) {n : Nat}
    (h : n ≠ m) : utf.toUtf8 (charsFrom bytes 0 n) ≠ utf.toUtf8 (charsFrom bytes 0 m) := by
  intro heq
  have hn := basicPlane_charsFrom bytes 0 n
  have hm := basicPlane_charsFrom bytes 0 m
  rw [hu.toUtf8_eq _ hn, hu.toUtf8_eq _ hm] at heq
  have hb := congrArg utf.str8ToStr16 heq
  rw [hu.str8ToStr16_str16ToStr8 _ hn, hu.str8ToStr16_str16ToStr8 _ hm] at hb
  have hl := congrArg List.length hb
  rw [charsFrom, charsFrom, length_map, length_map, length_range', length_range'] at hl
  exact h hl

theorem extraBit_eq_iff : ∀ state,
    state &&& 0x0F = EXTRA_7BIT ↔ (state &&& 0x07).toNat = 7 ∧ state &&& 0x08 = 0 :=
  forall_byte (by decide +kernel)

/-- **A network name** is read from its own bytes, and is its characters exactly if not all of the
four bits are set. -/
theorem network_name_iff (utf : Utf) (hutf : utf.Faithful) (septets bytes : List UInt8)
    (hpacked : PackedSeptets septets bytes) (state : UInt8)
    (hspare : (state &&& 0x07).toNat = 8 * bytes.length - 7 * septets.length) :
    ((gsm7bitConvertToString utf bytes bytes.length state).Clean ∧
        (gsm7bitConvertToString utf bytes bytes.length state).value =
          utf.toUtf8 (septets.map septetChar)) ↔
      ¬ ((state &&& 0x07).toNat = 7 ∧ state &&& 0x08 ≠ 0) := by
  obtain ⟨hcl, hv⟩ := gsm7bitConvertToString_eq utf bytes state
  have hl := hpacked.length_eq
  rw [and_iff_right hcl, hv, ← hpacked.charsFrom_eq]
  by_cases hsv : (state &&& 0x07).toNat = 7
  · have hcn : bytes.length * 8 / 7 = septets.length + 1 := by omega
    by_cases had : state &&& 0x08 = 0
    · rw [if_pos ((extraBit_eq_iff state).2 ⟨hsv, had⟩), hcn]
      exact iff_of_true rfl (fun h => h.2 had)
    · -- one character too many
      rw [if_neg (fun h => had ((extraBit_eq_iff state).1 h).2), hcn]
      exact iff_of_false (toUtf8_charsFrom_ne hutf bytes (Nat.succ_ne_self _))
        (fun h => h ⟨hsv, had⟩)
  · have hcn : bytes.length * 8 / 7 = septets.length := by omega
    rw [if_neg (fun h => hsv ((extraBit_eq_iff state).1 h).1), hcn]
    exact iff_of_true rfl (fun h => hsv h.1)

theorem network_name_plain :
    (gsm7bitConvertToString basicUtf [0xC8, 0x34] 2 0x82).value = [0x48, 0x69] :=
  ((network_name_iff basicUtf basicUtf_faithful [0x48, 0x69] [0xC8, 0x34]
    ⟨by decide +kernel, rfl, by decide +kernel⟩ 0x82 rfl).2 (by decide)).2

/-- The name Telecom, with seven spare bits and Add CI set, is read with an `@` behind it. -/
theorem add_ci_keeps_spare_bits :
    PackedSeptets [0x54, 0x65, 0x6C, 0x65, 0x63, 0x6F, 0x6D]
        [0xD4, 0x32, 0xBB, 0x3C, 0x7E, 0xB7, 0x01] ∧
      ((0x8F : UInt8) &&& 0x07).toNat = 8 * 7 - 7 * 7 ∧
      (gsm7bitConvertToString basicUtf [0xD4, 0x32, 0xBB, 0x3C, 0x7E, 0xB7, 0x01] 7 0x8F).value =
        [0x54, 0x65, 0x6C, 0x65, 0x63, 0x6F, 0x6D, 0x40] ∧
      (gsm7bitConvertToString basicUtf [0xD4, 0x32, 0xBB, 0x3C, 0x7E, 0xB7, 0x01] 7 0x8F).value ≠
        basicUtf.toUtf8 ([0x54, 0x65, 0x6C, 0x65, 0x63, 0x6F, 0x6D].map septetChar) :=
  ⟨⟨by decide +kernel, rfl, by decide +kernel⟩, rfl, by decide +kernel, by decide +kernel⟩

end TelephonyCore.Sim
