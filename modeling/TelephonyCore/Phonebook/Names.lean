import TelephonyCore.Phonebook.SimNumberDecode
import TelephonyCore.Phonebook.SimUtils
import Mathlib.Data.Bool.AllAny

/-!
# Names: what the field holds and what is read from it

The encoder and the decoder agree on the two-byte form, except that the decoder stops at a zero
character and takes trailing FFFF for filler. They do not agree on the one-byte form: the encoder
writes character codes and the decoder reads positions of the GSM alphabet. `gsmDiffers` lists the
printable characters where the two do not coincide.
-/

namespace TelephonyCore.Phonebook

open Codec List
open Lib (digitsBE forall_byte)

/-! ## What the encoder writes -/

theorem byteHex_eq (b : UInt8) :
    [hexDigit ((b >>> 4) &&& 0x0f).toNat, hexDigit (b &&& 0x0f).toNat] =
      [b.toNat / 16, b.toNat % 16].map hexDigit := by
  have hn : ∀ b : UInt8, ((b >>> 4) &&& 0x0f).toNat = b.toNat / 16 ∧
      (b &&& 0x0f).toNat = b.toNat % 16 := forall_byte (by decide +kernel)
  rw [(hn b).1, (hn b).2]
  rfl

theorem charCodeToSequence8_eq (s : StdString) :
    charCodeToSequence8 s false = bytesConvertToHexString (s.take MAX_ENGLISH_NAME) := by
  refine flatMap_congr fun b _ => ?_
  rw [byteHex_eq]
  exact streamHex_byte b

def unitBytes (c : UInt16) : List UInt8 := [.ofNat (c.toNat / 256), .ofNat (c.toNat % 256)]

theorem streamHex_unit (c : UInt16) :
    streamHex 4 c.toNat = bytesConvertToHexString (unitBytes c) := by
  have hc := c.toNat_lt
  have hhi : (UInt8.ofNat (c.toNat / 256)).toNat = c.toNat / 256 := by
    rw [UInt8.toNat_ofNat']; omega
  have hlo : (UInt8.ofNat (c.toNat % 256)).toNat = c.toNat % 256 := by
    rw [UInt8.toNat_ofNat']; omega
  have hdg : digitsBE 16 4 c.toNat =
      [c.toNat / 256 / 16, c.toNat / 256 % 16] ++ [c.toNat % 256 / 16, c.toNat % 256 % 16] := by
    simp only [digitsBE, nil_append, cons_append, List.cons.injEq, and_true]
    omega
  rw [streamHex_eq (by decide) (by omega), hdg, bytesConvertToHexString, unitBytes,
    flatMap_cons, flatMap_cons, byteHex_eq, byteHex_eq, hhi, hlo]
  rfl

theorem bytesConvertToHexString_append (xs ys : List UInt8) :
    bytesConvertToHexString (xs ++ ys) =
      bytesConvertToHexString xs ++ bytesConvertToHexString ys := flatMap_append ..

theorem charCodeToSequence16_eq (w : U16String) :
    charCodeToSequence16 w true =
      bytesConvertToHexString (CHINESE_FLAG :: (w.take MAX_CHINESE_NAME).flatMap unitBytes) := by
  have hu : ∀ v : U16String, v.flatMap (fun c => streamHex 4 c.toNat) =
      bytesConvertToHexString (v.flatMap unitBytes) := by
    intro v
    induction v with
    | nil => rfl
    | cons c v ih =>
      rw [flatMap_cons, flatMap_cons, bytesConvertToHexString_append, ih, streamHex_unit]
  rw [charCodeToSequence16, if_pos rfl, if_pos rfl, hu]
  rfl

/-! ## The two-byte form -/

theorem unit_of_unitBytes (c : UInt16) :
    ((UInt8.ofNat (c.toNat / 256)).toUInt16 <<< 8) ||| (UInt8.ofNat (c.toNat % 256)).toUInt16 =
      c := by
  have hc := c.toNat_lt
  apply UInt16.toNat_inj.1
  have hhi : (UInt8.ofNat (c.toNat / 256)).toUInt16.toNat = c.toNat / 256 := by
    rw [UInt8.toNat_toUInt16, UInt8.toNat_ofNat']; omega
  have hlo : (UInt8.ofNat (c.toNat % 256)).toUInt16.toNat = c.toNat % 256 := by
    rw [UInt8.toNat_toUInt16, UInt8.toNat_ofNat']; omega
  rw [UInt16.toNat_or, UInt16.toNat_shiftLeft, hhi, hlo]
  have hs : (c.toNat / 256) <<< 8 % 2 ^ 16 = (c.toNat / 256) <<< 8 := by
    rw [Nat.shiftLeft_eq]; omega
  show (c.toNat / 256) <<< 8 % 2 ^ 16 ||| c.toNat % 256 = c.toNat
  rw [hs, ← Nat.shiftLeft_add_eq_or_of_lt (by omega), Nat.shiftLeft_eq]
  omega

theorem char16Loop_unitBytes (w : U16String) (rest : List UInt8) :
    char16Loop true (w.flatMap unitBytes ++ rest) = w ++ char16Loop true rest := by
  induction w with
  | nil => rfl
  | cons c w ih =>
    rw [flatMap_cons, unitBytes]
    simp only [cons_append, nil_append, char16Loop, if_true, ih, unit_of_unitBytes]

theorem char16Loop_filler (n : Nat) :
    char16Loop true (.replicate (2 * n) 0xFF) = .replicate n FILLER := by
  induction n with
  | zero => rfl
  | succ n ih =>
    rw [Nat.mul_succ, replicate_succ, replicate_succ, char16Loop, ih, replicate_succ]
    rfl

theorem unitBytes_length (w : U16String) : (w.flatMap unitBytes).length = 2 * w.length := by
  simp [unitBytes, Nat.mul_comm]

theorem charsConvertToChar16_field (w : U16String) (hw : w ≠ []) (n : Nat) :
    charsConvertToChar16 (w.flatMap unitBytes ++ .replicate (2 * n) 0xFF) true =
      some (w ++ .replicate n FILLER) := by
  have hl := unitBytes_length w
  have hp := length_pos_iff.2 hw
  rw [charsConvertToChar16, if_neg, if_neg, char16Loop_unitBytes, char16Loop_filler]
  · rw [length_append, hl, length_replicate]
    omega
  · intro hn
    have h0 := congrArg List.length hn
    rw [length_append, hl, length_nil] at h0
    omega

/-! ## The default alphabet -/

theorem gsmVal_byteHex :
    ∀ b : UInt8, (hexCharConvertToInt (hexDigit ((b >>> 4) &&& 0x0f).toNat)).toNat * 16 +
      (hexCharConvertToInt (hexDigit (b &&& 0x0f).toNat)).toNat = b.toNat :=
  forall_byte (by decide +kernel)

theorem cphsLoop_byte (b : UInt8) (rest : List UInt8) (escTag : Bool) :
    cphsLoop (bytesConvertToHexString (b :: rest)) escTag =
      match LANGUAGE_TABLE[b.toNat]? with
      | none => cphsLoop (bytesConvertToHexString rest) escTag
      | some c =>
        if !escTag && b.toNat == 0x1B then cphsLoop (bytesConvertToHexString rest) true
        else if escTag && b.toNat == 0x1B then
          32 :: cphsLoop (bytesConvertToHexString rest) false
        else if escTag then
          (LANGUAGE_EXT_TABLE_MAP b.toNat).getD c :: cphsLoop (bytesConvertToHexString rest) false
        else c :: cphsLoop (bytesConvertToHexString rest) false := by
  rw [← gsmVal_byteHex]
  exact cphsLoop.eq_def ..

theorem cphsLoop_filler (n : Nat) (escTag : Bool) :
    cphsLoop (bytesConvertToHexString (.replicate n 0xFF)) escTag = [] := by
  induction n with
  | zero => rfl
  | succ n ih =>
    exact ih

def isPrintable (c : UInt8) : Bool := 0x20 ≤ c && c ≤ 0x7E

def gsmChar (c : UInt8) : UInt16 := LANGUAGE_TABLE.getD c.toNat 0

theorem table_of_isPrintable :
    ∀ c, isPrintable c → LANGUAGE_TABLE[c.toNat]? = some (gsmChar c) ∧ c.toNat ≠ 0x1B :=
  forall_byte (by decide +kernel)

variable {s : StdString} {utf : Utf} {w : U16String}

theorem cphsLoop_printable (hs : ∀ c ∈ s, isPrintable c) (n : Nat) :
    cphsLoop (bytesConvertToHexString (s ++ .replicate n 0xFF)) false = s.map gsmChar := by
  induction s with
  | nil => exact cphsLoop_filler n false
  | cons c s ih =>
    obtain ⟨ht, he⟩ := table_of_isPrintable c (hs c (by simp))
    rw [cons_append, cphsLoop_byte, ht, ih (fun x hx => hs x (by simp [hx]))]
    simp [he]

/-- `$ @ [ \ ] ^ _ ` { | } ~`: another character has their place in the alphabet. -/
def gsmDiffers : List UInt8 :=
  [0x24, 0x40, 0x5B, 0x5C, 0x5D, 0x5E, 0x5F, 0x60, 0x7B, 0x7C, 0x7D, 0x7E]

theorem not_flag_of_isPrintable :
    ∀ c, isPrintable c → c ∉ [CHINESE_FLAG, UCS_FLAG, UCS_WIDE_FLAG] :=
  forall_byte (by decide +kernel)

theorem gsmChar_eq_iff : ∀ c, isPrintable c → (gsmChar c = c.toUInt16 ↔ c ∉ gsmDiffers) :=
  forall_byte (by decide +kernel)

theorem map_gsmChar_eq_iff (hs : ∀ c ∈ s, isPrintable c) :
    s.map gsmChar = widen s ↔ ∀ c ∈ s, c ∉ gsmDiffers := by
  rw [widen, map_inj_left]
  exact forall₂_congr fun c hc => gsmChar_eq_iff c (hs c hc)

/-- A character that is not zero and in the basic plane. -/
abbrev PlainChar (c : UInt16) : Prop := c ≠ 0 ∧ (c < 0xD800 ∨ 0xE000 ≤ c)

theorem plainChar_table : ∀ c ∈ LANGUAGE_TABLE, PlainChar c :=
  all_iff_forall_prop.1 (by decide +kernel)

theorem plainChar_extTable (n : Nat) : ∀ c ∈ LANGUAGE_EXT_TABLE_MAP n, PlainChar c := by
  intro c hc
  unfold LANGUAGE_EXT_TABLE_MAP at hc
  split at hc <;> simp only [Option.mem_def, Option.some.injEq, reduceCtorEq] at hc
  all_goals
    subst hc
    decide

theorem plainChar_cphsLoop : ∀ rest escTag,
    ∀ c ∈ cphsLoop (bytesConvertToHexString rest) escTag, PlainChar c
  | [], _ => by simp [bytesConvertToHexString, cphsLoop]
  | b :: rest, escTag => by
    have ih := plainChar_cphsLoop rest
    rw [cphsLoop_byte]
    split
    next => exact ih escTag
    next c hc =>
      have ht := plainChar_table c (mem_of_getElem? hc)
      split
      · exact ih true
      split
      · exact forall_mem_cons.2 ⟨by decide, ih false⟩
      split
      · refine forall_mem_cons.2 ⟨?_, ih false⟩
        cases he : LANGUAGE_EXT_TABLE_MAP b.toNat with
        | none => exact ht
        | some e => exact plainChar_extTable b.toNat e he
      · exact forall_mem_cons.2 ⟨ht, ih false⟩

theorem cphsLoop_basicPlane (rest : List UInt8) (escTag : Bool) :
    BasicPlane (cphsLoop (bytesConvertToHexString rest) escTag) :=
  fun c hc => (plainChar_cphsLoop rest escTag c hc).2

/-! ## Reading a field -/

theorem basicPlane_widen (s : StdString) : BasicPlane (widen s) := by
  intro c hc
  obtain ⟨b, _, rfl⟩ := mem_map.1 hc
  have hb := b.toNat_lt
  refine .inl (UInt16.lt_iff_toNat_lt.2 ?_)
  show b.toNat < 55296
  omega

theorem str8ToStr16_cphs (hu : utf.Faithful) {bytes : List UInt8} (h : bytes ≠ []) :
    utf.str8ToStr16 (cphs7bitConvertToString utf (bytesConvertToHexString bytes)) =
      cphsLoop (bytesConvertToHexString bytes) false := by
  have hl := bytesConvertToHexString_length bytes
  have hps := length_pos_iff.2 h
  have hpl := cphsLoop_basicPlane bytes false
  rw [cphs7bitConvertToString, if_neg, hu.toUtf8_eq _ hpl, hu.str8ToStr16_str16ToStr8 _ hpl]
  intro hn
  rw [hn, length_nil] at hl
  omega

/-- **A one-byte name comes back** exactly when the alphabet has all its characters in
their place. -/
theorem field_english_iff (hu : utf.Faithful) (hs : ∀ c ∈ s, isPrintable c) (n : Nat)
    (rest : List UInt8) :
    utf.str8ToStr16 (diallingNumberStringFieldConvertToString utf
        (s ++ .replicate n 0xFF ++ rest) 0 (s.length + n)) = widen s ↔
      ∀ c ∈ s, c ∉ gsmDiffers := by
  have hfl : (s ++ .replicate n 0xFF ++ rest).take (s.length + n) =
      s ++ .replicate n 0xFF := take_left' (by simp)
  by_cases he : s.length + n = 0
  · obtain rfl : s = [] := length_eq_zero_iff.1 (by omega)
    obtain rfl : n = 0 := by omega
    simp [diallingNumberStringFieldConvertToString, hu.str8ToStr16_ascii [] (by simp [IsAscii])]
  · have hfg : (s ++ .replicate n 0xFF ++ rest).getD 0 0 ∉
        [CHINESE_FLAG, UCS_FLAG, UCS_WIDE_FLAG] := by
      cases s with
      | nil =>
        obtain ⟨m, rfl⟩ : ∃ m, n = m + 1 := ⟨n - 1, by simp at he; omega⟩
        simp [CHINESE_FLAG, UCS_FLAG, UCS_WIDE_FLAG]
      | cons c s => exact not_flag_of_isPrintable c (hs c (by simp))
    have hne : s ++ .replicate n 0xFF ≠ [] := by
      intro hnl
      have h0 := congrArg List.length hnl
      rw [length_append, length_replicate, length_nil] at h0
      exact he h0
    simp only [mem_cons, not_or] at hfg
    rw [diallingNumberStringFieldConvertToString, if_neg (by omega)]
    simp only [hfg.1, hfg.2.1, hfg.2.2, and_false, if_false, ne_eq, not_true, hfl]
    rw [str8ToStr16_cphs hu hne, cphsLoop_printable hs, map_gsmChar_eq_iff hs]

theorem BasicPlane.takeWhile (hw : BasicPlane w) (p : UInt16 → Bool) :
    BasicPlane (w.takeWhile p) := fun c hc => hw c ((takeWhile_sublist p).subset hc)

theorem BasicPlane.rdropWhile (hw : BasicPlane w) (p : UInt16 → Bool) :
    BasicPlane (w.rdropWhile p) := fun c hc => hw c ((List.rdropWhile_prefix p w).subset hc)

theorem rdropWhile_filler (w : U16String) (n : Nat) :
    (w ++ .replicate n FILLER).rdropWhile (· == FILLER) = w.rdropWhile (· == FILLER) := by
  induction n with
  | zero => rw [replicate_zero, append_nil]
  | succ n ih =>
    rw [replicate_succ', ← append_assoc, rdropWhile_concat_pos _ _ _ (by simp), ih]

theorem rdropWhile_filler_eq_iff (w : U16String) :
    w.rdropWhile (· == FILLER) = w ↔ w.getLast? ≠ some FILLER := by
  rw [rdropWhile_eq_self_iff]
  constructor
  · intro h hl
    have hne : w ≠ [] := by
      rintro rfl
      simp at hl
    rw [getLast?_eq_some_getLast] at hl
    exact h hne (by simpa using hl)
  · intro h hne hl
    refine h ?_
    rw [getLast?_eq_some_getLast]
    simpa using hl

def chineseField (w : U16String) (n : Nat) : List UInt8 :=
  CHINESE_FLAG :: w.flatMap unitBytes ++ List.replicate n 0xFF

theorem chineseField_length (w : U16String) (n : Nat) :
    (chineseField w n).length = 1 + 2 * w.length + n := by
  rw [chineseField, length_append, length_cons, unitBytes_length, length_replicate]
  omega

/-- Before the filler is taken off. -/
def chineseChars (w : U16String) (n : Nat) : U16String :=
  (w ++ List.replicate (n / 2) FILLER).takeWhile (· ≠ 0)

theorem field_chinese_eq (utf : Utf) (hne : w ≠ []) (n : Nat) (rest : List UInt8) :
    diallingNumberStringFieldConvertToString utf (chineseField w n ++ rest) 0
        (1 + 2 * w.length + n) =
      if chineseChars w n ≠ [] then
        utf.str16ToStr8 ((chineseChars w n).rdropWhile (· == FILLER))
      else cphs7bitConvertToString utf (bytesConvertToHexString (chineseField w n)) := by
  have hch : ((chineseField w n ++ rest).drop 1).take ((1 + 2 * w.length + n - 1) / 2 * 2) =
      w.flatMap unitBytes ++ .replicate (2 * (n / 2)) 0xFF := by
    have hcn : (1 + 2 * w.length + n - 1) / 2 * 2 = (w.flatMap unitBytes).length + 2 * (n / 2) := by
      rw [unitBytes_length]
      omega
    have hm : min (2 * (n / 2)) n = 2 * (n / 2) := by omega
    rw [hcn, chineseField, cons_append, cons_append, drop_succ_cons,
      drop_zero, append_assoc, take_length_add_append,
      take_append_of_le_length (by rw [length_replicate]; omega), take_replicate,
      hm]
  have ht : (chineseField w n ++ rest).take (1 + 2 * w.length + n) = chineseField w n :=
    take_left' (chineseField_length w n)
  have hf : (chineseField w n ++ rest).getD 0 0 = CHINESE_FLAG := rfl
  rw [diallingNumberStringFieldConvertToString, if_neg (by omega)]
  simp only [hf, hch, charsConvertToChar16_field w hne, ht,
    show CHINESE_FLAG ≠ UCS_FLAG by decide, show CHINESE_FLAG ≠ UCS_WIDE_FLAG by decide, and_false]
  rfl

theorem chineseChars_of_zero_not_mem (h0 : 0 ∉ w) (n : Nat) :
    chineseChars w n = w ++ .replicate (n / 2) FILLER := by
  refine takeWhile_eq_self_iff.2 ?_
  intro c hc
  rcases mem_append.1 hc with hw | hf
  · have : c ≠ 0 := by
      rintro rfl
      exact h0 hw
    simpa using this
  · rw [eq_of_mem_replicate hf]
    decide

theorem chineseChars_length_lt (h0 : 0 ∈ w) (n : Nat) : (chineseChars w n).length < w.length := by
  obtain ⟨pre, _, rfl⟩ := append_of_mem h0
  rw [chineseChars, append_assoc, cons_append]
  refine Nat.lt_of_le_of_lt (m := pre.length) ?_ (by simp)
  induction pre with
  | nil => simp
  | cons c pre ih =>
    rw [cons_append, takeWhile_cons]
    split
    · simpa using ih (by simp)
    · simp

/-- A zero in front is read through the alphabet, where it is the place of `@`. -/
theorem cphsLoop_chineseField_zero (w : U16String) (n : Nat) :
    ∃ tail, cphsLoop (bytesConvertToHexString (chineseField (0 :: w) n)) false = 0x40 :: tail := by
  exact ⟨_, rfl⟩

/-- **A two-byte name comes back** exactly when it has no zero character and does not end
like the filler. -/
theorem field_chinese_iff (hu : utf.Faithful) (hw : BasicPlane w) (hne : w ≠ []) (n : Nat)
    (rest : List UInt8) :
    utf.str8ToStr16 (diallingNumberStringFieldConvertToString utf (chineseField w n ++ rest) 0
        (1 + 2 * w.length + n)) = w ↔ 0 ∉ w ∧ w.getLast? ≠ some FILLER := by
  rw [field_chinese_eq utf hne]
  by_cases h0 : 0 ∈ w
  · -- the characters stop at the zero, and are too few
    have hlt := chineseChars_length_lt h0 n
    refine iff_of_false ?_ (fun h => h.1 h0)
    intro heq
    split at heq
    next =>
      have hp : BasicPlane (chineseChars w n) := by
        refine .takeWhile ?_ _
        intro c hc
        rcases mem_append.1 hc with hm | hf
        · exact hw c hm
        · rw [eq_of_mem_replicate hf]
          exact .inr (by decide)
      rw [hu.str8ToStr16_str16ToStr8 _ (hp.rdropWhile _)] at heq
      have hle := (List.rdropWhile_prefix (· == FILLER) (chineseChars w n)).length_le
      rw [heq] at hle
      omega
    next hnl =>
      obtain ⟨c, w, rfl⟩ := exists_cons_of_ne_nil hne
      obtain rfl : c = 0 := by
        by_contra hc
        rw [chineseChars, cons_append, takeWhile_cons_of_pos (by simpa using hc)] at hnl
        simp at hnl
      obtain ⟨_, ht⟩ := cphsLoop_chineseField_zero w n
      rw [str8ToStr16_cphs hu (by simp [chineseField]), ht] at heq
      exact absurd (List.cons.inj heq).1 (by decide)
  · rw [chineseChars_of_zero_not_mem h0, if_pos (by simp [hne]), rdropWhile_filler,
      hu.str8ToStr16_str16ToStr8 _ (hw.rdropWhile _), rdropWhile_filler_eq_iff]
    simp [h0]

end TelephonyCore.Phonebook
