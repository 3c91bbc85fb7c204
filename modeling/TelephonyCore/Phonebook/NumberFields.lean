import TelephonyCore.Phonebook.SimNumberDecode

/-!
# A number field that is read and written back

A field of a card is read and written back. The type byte 0x91 becomes a `+` in the text, and the
`+` becomes the type byte again, so the field survives exactly if the decoder finds a place for the
`+`. It does not find one in a number that starts with `*` or `#` unless another of these follows,
and `insertPlus` then returns the number without it.
-/

namespace TelephonyCore.Phonebook

open List

open Codec (StdString)
open Lib (forall_byte)

/-! ## Canonical fields -/

/-- Codes 0 to 9, 10 for `*` and 11 for `#`, low nibble first, at least one. Only the last high
nibble may be the filler. -/
inductive CanonicalDigits : List UInt8 → Prop
  | odd {b : UInt8} (hlo : b.toNat % 16 < 12) (hhi : b.toNat / 16 = 15) : CanonicalDigits [b]
  | even {b : UInt8} (hlo : b.toNat % 16 < 12) (hhi : b.toNat / 16 < 12) : CanonicalDigits [b]
  | more {b : UInt8} {codes : List UInt8} (hlo : b.toNat % 16 < 12) (hhi : b.toNat / 16 < 12)
    (hcodes : CanonicalDigits codes) : CanonicalDigits (b :: codes)

/-- The numbers that the decoder has a place for a `+` in: in front of a digit, behind a code whose
second character is a mark and whose last is `#`, or behind the second mark if more follows it. -/
inductive HasPlusPlace : StdString → Prop
  | front {first : UInt8} {rest : StdString} (hfirst : isNumber first) :
    HasPlusPlace (first :: rest)
  | back {first second : UInt8} {rest : StdString} (hsecond : isSharpStar second)
    (hlast : (first :: second :: rest).getLast? = some SHARP) :
    HasPlusPlace (first :: second :: rest)
  | data {first mark : UInt8} {digits data : StdString} (hdigits : ∀ d ∈ digits, isNumber d)
    (hmark : isSharpStar mark) (hdata : data ≠ []) : HasPlusPlace (first :: digits ++ mark :: data)

/-! ## The digits of a field -/

theorem exists_bcdCode {n : Nat} (hn : n < 12) :
    ∃ c, isValidNumberChar c ∧ c ≠ PLUS ∧ bcdCode c = .ofNat n := by
  have h : ∀ n < 12, isValidNumberChar ((bcdToChar (.ofNat n) .adn).getD 0) ∧
      (bcdToChar (.ofNat n) .adn).getD 0 ≠ PLUS ∧
      bcdCode ((bcdToChar (.ofNat n) .adn).getD 0) = .ofNat n := by decide
  exact ⟨_, h n hn⟩

theorem or_nibbles : ∀ b, .ofNat (b.toNat % 16) ||| (UInt8.ofNat (b.toNat / 16) <<< 4) = b :=
  forall_byte (by decide +kernel)

variable {codes : List UInt8} {number : StdString}

theorem CanonicalDigits.exists_digits (h : CanonicalDigits codes) :
    ∃ digits : StdString, (∀ c ∈ digits, isValidNumberChar c ∧ c ≠ PLUS) ∧
      codes = pairCodes (digits.map bcdCode) := by
  induction h with
  | @odd b hlo hhi =>
    obtain ⟨c, hc, hp, hcd⟩ := exists_bcdCode hlo
    refine ⟨[c], by simp [hc, hp], ?_⟩
    have hb := or_nibbles b
    -- the filler is the high nibble that an odd digit is packed with
    rw [hhi] at hb
    rw [map_singleton, pairCodes, hcd, hiFour_eq]
    exact congrArg (fun b => [b]) hb.symm
  | @even b hlo hhi =>
    obtain ⟨c, hc, hcp, hcc⟩ := exists_bcdCode hlo
    obtain ⟨d, hd, hdp, hdc⟩ := exists_bcdCode hhi
    refine ⟨[c, d], by simp [hc, hcp, hd, hdp], ?_⟩
    rw [map_cons, map_singleton, pairCodes, hcc, hdc, or_nibbles]
    rfl
  | @more b codes hlo hhi _ ih =>
    obtain ⟨c, hc, hcp, hcc⟩ := exists_bcdCode hlo
    obtain ⟨d, hd, hdp, hdc⟩ := exists_bcdCode hhi
    obtain ⟨digits, hdigits, rfl⟩ := ih
    refine ⟨c :: d :: digits, ?_, ?_⟩
    · intro x hx
      rcases mem_cons.1 hx with rfl | hx
      · exact ⟨hc, hcp⟩
      rcases mem_cons.1 hx with rfl | hx
      · exact ⟨hd, hdp⟩
      · exact hdigits x hx
    · rw [map_cons, map_cons, pairCodes, hcc, hdc, or_nibbles]

/-! ## The place of the `+` -/

theorem digitsOf_insertPlus {digits : StdString} (hp : PLUS ∉ digits) :
    digitsOf (insertPlus digits) = digits := by
  have hsl := digitsOf_eq_self hp
  rcases insertPlus_cases digits with heq | ⟨_, _, hsp, heq⟩
  · rw [heq, hsl]
  · rw [heq, digitsOf_append, digitsOf_plus, ← digitsOf_append, ← hsp, hsl]

section PlusPlace

variable {digits : StdString} (hdigits : ∀ c ∈ digits, isValidNumberChar c ∧ c ≠ PLUS)

include hdigits

theorem plus_not_mem : PLUS ∉ digits := fun h => (hdigits PLUS h).2 rfl

theorem isValidNumberString_of_digitsOf (h : digitsOf number = digits) :
    isValidNumberString number := by
  apply all_eq_true.2
  intro c hc
  by_cases hp : c = PLUS
  · rw [hp]
    rfl
  · refine (hdigits c ?_).1
    rw [← h]
    exact mem_filter.2 ⟨hc, by simpa using hp⟩

theorem plus_mem_of_plusPlaced (hp : PlusPlaced number) (hm : PLUS ∈ number)
    (h : digitsOf number = digits) : PLUS ∈ insertPlus digits := by
  have hv := isValidNumberString_of_digitsOf hdigits h
  rw [← h, insertPlus_of_plusPlaced hv hm hp]
  exact hm

theorem hasPlusPlace_of_plus_mem (hmm : PLUS ∈ insertPlus digits) : HasPlusPlace digits := by
  have hpl := plusPlaced_insertPlus (plus_not_mem hdigits) hmm
  have hsl := digitsOf_insertPlus (plus_not_mem hdigits)
  generalize insertPlus digits = number at hpl hsl hmm
  subst hsl
  cases hpl with
  | none hnn => exact absurd hmm hnn
  | front hf hr =>
    rw [digitsOf_front hf hr]
    exact .front hf
  | back hf hsc hr hl =>
    rw [digitsOf_back hf hsc hr]
    exact .back hsc hl
  | data hf hnm hmr hdt hps _ =>
    rw [digitsOf_data hf hnm hmr hps]
    exact .data hnm hmr hdt

theorem plus_mem_of_hasPlusPlace (hpl : HasPlusPlace digits) : PLUS ∈ insertPlus digits := by
  have hps := plus_not_mem hdigits
  -- a number that starts with a digit has the `+` in front, whatever follows
  have hst : ∀ first rest, digits = first :: rest → isSharpStar first ∨
      PLUS ∈ insertPlus digits := by
    rintro first rest rfl
    obtain ⟨hv, hne⟩ := hdigits first (by simp)
    cases hm : isSharpStar first with
    | true => exact .inl rfl
    | false =>
      have hf := isNumber_of_isValidNumberChar first hv hne hm
      have hr : PLUS ∉ rest := fun h => hps (by simp [h])
      exact .inr (plus_mem_of_plusPlaced hdigits (.front hf hr) (by simp)
        (digitsOf_front hf hr))
  cases hpl with
  | @front first rest hf =>
    rcases hst first rest rfl with h | h
    · rw [(isNumber_facts first hf).2.1] at h
      cases h
    · exact h
  | @back first second rest hsc hl =>
    rcases hst first (second :: rest) rfl with hf | h
    · have hr : PLUS ∉ rest := fun h => hps (by simp [h])
      exact plus_mem_of_plusPlaced hdigits (.back hf hsc hr hl) (by simp)
        (digitsOf_back hf hsc hr)
    · exact h
  | @data first mark numbers data hnm hm hdt =>
    rcases hst first (numbers ++ mark :: data) rfl with hf | h
    · have hr : PLUS ∉ data := fun h => hps (by simp [h])
      by_cases hc : numbers = [] ∧ data.getLast? = some SHARP
      · -- two marks and a `#` at the end: the code takes the `+` behind itself
        obtain ⟨rfl, hl⟩ := hc
        have hl' : (first :: mark :: data).getLast? = some SHARP := by
          simp [getLast?_cons, hl]
        exact plus_mem_of_plusPlaced hdigits (.back hf hm hr hl') (by simp)
          (digitsOf_back hf hm hr)
      · exact plus_mem_of_plusPlaced hdigits (.data hf hnm hm hdt hr hc)
          (by simp) (digitsOf_data hf hnm hm hr)
    · exact h

theorem numberConvertToBCD_insertPlus :
    numberConvertToBCD (insertPlus digits) false .adn =
      some ((if PLUS ∈ insertPlus digits then FLAG_INTERNATIONAL else FLAG_UNKNOWN) ::
        pairCodes (digits.map bcdCode)) := by
  have hs := digitsOf_insertPlus (plus_not_mem hdigits)
  have hc := hasCode_of_mem_digitsOf (isValidNumberString_of_digitsOf hdigits hs)
  rw [numberConvertToBCD_of_hasCode hc, hs]
  simp only [contains_iff_mem]

end PlusPlace

/-! ## Reading a field and writing it back -/

theorem reencode_eq (flag : UInt8) (hcd : CanonicalDigits codes) :
    ∃ newFlag, numberConvertToBCD (bcdConvertToString .adn (flag :: codes)) false .adn
        = some (newFlag :: codes) ∧ (newFlag = FLAG_INTERNATIONAL ∧ flag = FLAG_INTERNATIONAL ∧
          HasPlusPlace (bcdSectionConvertToString .adn codes) ∨
        newFlag = FLAG_UNKNOWN ∧ ¬ (flag = FLAG_INTERNATIONAL ∧
          HasPlusPlace (bcdSectionConvertToString .adn codes))) := by
  obtain ⟨digits, hdigits, rfl⟩ := hcd.exists_digits
  have hsc := bcdSectionConvertToString_pairCodes digits
    fun c hc => hasCode_of_isValidNumberChar c (hdigits c hc).1 (hdigits c hc).2
  rw [bcdConvertToString, hsc]
  by_cases hf : flag = FLAG_INTERNATIONAL
  · rw [if_pos hf]
    refine ⟨_, numberConvertToBCD_insertPlus hdigits, ?_⟩
    by_cases hpl : HasPlusPlace digits
    · rw [if_pos (plus_mem_of_hasPlusPlace hdigits hpl)]
      exact .inl ⟨rfl, hf, hpl⟩
    · rw [if_neg (fun h => hpl (hasPlusPlace_of_plus_mem hdigits h))]
      exact .inr ⟨rfl, fun h => hpl h.2⟩
  · rw [if_neg hf]
    have hps := plus_not_mem hdigits
    have hsl := digitsOf_eq_self hps
    refine ⟨FLAG_UNKNOWN, ?_, .inr ⟨rfl, fun h => hf h.1⟩⟩
    have hcd := hasCode_of_mem_digitsOf (isValidNumberString_of_digitsOf hdigits hsl)
    rw [numberConvertToBCD_of_hasCode hcd, hsl]
    simp [hps]

/-- **A field that is read and written back** is the same exactly if its type is 0x81 or there is a
place for the `+` in its number. -/
theorem number_field_survives_iff (flag : UInt8) (codes : List UInt8)
    (hflag : flag = FLAG_UNKNOWN ∨ flag = FLAG_INTERNATIONAL) (hcodes : CanonicalDigits codes) :
    numberConvertToBCD (bcdConvertToString .adn (flag :: codes)) false .adn
        = some (flag :: codes) ↔
      flag = FLAG_UNKNOWN ∨ HasPlusPlace (bcdSectionConvertToString .adn codes) := by
  have hne : FLAG_UNKNOWN ≠ FLAG_INTERNATIONAL := by decide
  obtain ⟨_, hw, hnw⟩ := reencode_eq flag hcodes
  rw [hw, Option.some.injEq, List.cons.injEq, and_iff_left rfl]
  rcases hflag with rfl | rfl
  · rcases hnw with ⟨-, hflag, -⟩ | ⟨rfl, -⟩
    · exact absurd hflag hne
    · exact iff_of_true rfl (.inl rfl)
  · rcases hnw with ⟨rfl, -, hp⟩ | ⟨rfl, hnn⟩
    · exact iff_of_true rfl (.inr hp)
    · refine iff_of_false hne ?_
      rintro (h | h)
      · exact hne h.symm
      · exact hnn ⟨rfl, h⟩

theorem number_field_survives_plain :
    numberConvertToBCD (bcdConvertToString .adn [0x91, 0x94, 0x21]) false .adn
      = some [0x91, 0x94, 0x21] :=
  (number_field_survives_iff 0x91 [0x94, 0x21] (.inr rfl)
    (.more (by decide) (by decide) (.even (by decide) (by decide)))).2
    (.inr (show HasPlusPlace [52, 57, 49, 50] from .front rfl))

/-- The field of *123 with type 0x91 is written back with type 0x81. -/
theorem star_number_loses_type :
    CanonicalDigits [0x1A, 0x32] ∧
      numberConvertToBCD (bcdConvertToString .adn [0x91, 0x1A, 0x32]) false .adn
        = some [0x81, 0x1A, 0x32] ∧
      numberConvertToBCD (bcdConvertToString .adn [0x91, 0x1A, 0x32]) false .adn
        ≠ some [0x91, 0x1A, 0x32] :=
  ⟨.more (by decide) (by decide) (.even (by decide) (by decide)), by decide, by decide⟩

/-! ## Any field

The text of a field may also have the marks `,`, `N` and `;` in it, and a field need not be one that
the encoder writes. Its text is nevertheless one that survives: what is packed of it is unpacked to
the same text. -/

theorem hasCode_of_bcdToChar : ∀ code, ∀ c ∈ bcdToChar code .adn, hasCode c := by
  have h : ∀ code, (bcdToChar code .adn).all hasCode := forall_byte (by decide +kernel)
  intro code c hc
  have hcd := h code
  rw [Option.mem_def.1 hc] at hcd
  exact hcd

theorem hasCode_of_mem_section {c : UInt8} :
    ∀ codes, c ∈ bcdSectionConvertToString .adn codes → hasCode c
  | [], hc => absurd hc (by simp [bcdSectionConvertToString])
  | code :: rest, hc => by
    rw [bcdSectionConvertToString] at hc
    split at hc
    next => cases hc
    next lo hlo =>
      have hlc := hasCode_of_bcdToChar _ lo hlo
      -- the low nibble alone, or both and what follows
      simp only at hc
      split at hc
      next =>
        rw [mem_singleton.1 hc]
        exact hlc
      next =>
        split at hc
        next =>
          rw [mem_singleton.1 hc]
          exact hlc
        next hi hhi =>
          rcases mem_cons.1 hc with rfl | hc
          · exact hlc
          rcases mem_cons.1 hc with rfl | hc
          · exact hasCode_of_bcdToChar _ c hhi
          · exact hasCode_of_mem_section rest hc

theorem bcdConvertToString_text (b : List UInt8) :
    (∀ c ∈ digitsOf (bcdConvertToString .adn b), hasCode c) ∧ (PLUS ∈ bcdConvertToString .adn b →
        insertPlus (digitsOf (bcdConvertToString .adn b)) = bcdConvertToString .adn b) := by
  cases b with
  | nil => exact ⟨fun c hc => absurd hc (by simp [bcdConvertToString, digitsOf]),
      fun h => absurd h (by simp [bcdConvertToString])⟩
  | cons flag codes =>
    have hcd := fun c => hasCode_of_mem_section (c := c) codes
    rw [bcdConvertToString]
    generalize bcdSectionConvertToString .adn codes = number at hcd
    have hp : PLUS ∉ number := fun h => (bcdToChar_bcdCode PLUS (hcd PLUS h)).1 rfl
    by_cases hf : flag = FLAG_INTERNATIONAL
    · rw [if_pos hf, digitsOf_insertPlus hp]
      exact ⟨hcd, fun _ => rfl⟩
    · rw [if_neg hf, digitsOf_eq_self hp]
      exact ⟨hcd, fun h => absurd h hp⟩

/-- **Decoding is stable**: the text of any field can be packed, and is unpacked to itself. -/
theorem decoded_number_stable (b : List UInt8) :
    ∃ codes, numberConvertToBCD (bcdConvertToString .adn b) false .adn = some codes ∧
      bcdConvertToString .adn codes = bcdConvertToString .adn b := by
  obtain ⟨hc, hpc⟩ := bcdConvertToString_text b
  refine ⟨_, numberConvertToBCD_of_hasCode hc, ?_⟩
  rw [bcdConvertToString_of_hasCode hc]
  by_cases hpl : PLUS ∈ bcdConvertToString .adn b
  · rw [if_pos (contains_iff_mem.2 hpl)]
    exact hpc hpl
  · rw [if_neg (fun h => hpl (contains_iff_mem.1 h))]

end TelephonyCore.Phonebook
