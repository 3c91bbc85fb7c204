import TelephonyCore.Vcard.Constructor

/-!
# Escaped fields

The fields of a structured value are escaped one by one and joined by semicolons. The later versions
escape the backslash as well, so that the reader, which looks one character ahead, gets the fields
back whatever they contain; only the ends of lines become newlines. Both loops count in an
`int32_t`.
-/

namespace TelephonyCore.Vcard

open Codec Lib List VCardConstructor

def ITEM_SEPARATOR := ascii ";"

def joinItems : List StdString → StdString
  | [] => []
  | item :: items => item ++ items.flatMap (ITEM_SEPARATOR ++ ·)

/-- What `AddLine` writes between the colon and the end of the line. -/
def VCardConstructor.addValues (c : VCardConstructor) (needQuotedPrintable : Bool)
    (valueList : List StdString) : StdString :=
  joinItems (valueList.map fun rawValue =>
    if needQuotedPrintable then encodeQuotedPrintable rawValue else c.dealCharacters rawValue)

section Printable

/-! ## Printable texts -/

theorem isPrintableAscii_clean {c : UInt8} (h : isPrintableAscii c) : c ≠ 10 ∧ c ≠ 13 ∧ c < 128 :=
  forall_byte (P := fun c => isPrintableAscii c → c ≠ 10 ∧ c ≠ 13 ∧ c < 128) (by decide +kernel) c h

def Printable (s : StdString) : Prop := ∀ c ∈ s, isPrintableAscii c

instance (s : StdString) : Decidable (Printable s) :=
  inferInstanceAs (Decidable (∀ c ∈ s, isPrintableAscii c))

variable {c : UInt8} {s : StdString}

theorem Printable.not_mem_newline (h : Printable s) : 10 ∉ s :=
  fun hm => (isPrintableAscii_clean (h 10 hm)).1 rfl

theorem Printable.not_mem_return (h : Printable s) : 13 ∉ s :=
  fun hm => (isPrintableAscii_clean (h 13 hm)).2.1 rfl

theorem printable_cons : Printable (c :: s) ↔ isPrintableAscii c ∧ Printable s := by
  simp [Printable]

theorem printable_append {t : StdString} : Printable (s ++ t) ↔ Printable s ∧ Printable t := by
  simp only [Printable, mem_append, or_imp, forall_and]

end Printable

variable {v : Version} {ch : UInt8} {temp rest : StdString}

theorem buildListFrom_plain (hb : ch ≠ 92) (hs : ch ≠ 59) :
    buildListFrom v temp (ch :: rest) = buildListFrom v (temp ++ [ch]) rest := by
  cases rest with
  | nil => simp [buildListFrom]
  | cons next rest => simp [buildListFrom, hb]

theorem buildListFrom_escape (hne : unescapeChar v ch ≠ []) :
    buildListFrom v temp (92 :: ch :: rest) =
      buildListFrom v (temp ++ unescapeChar v ch) rest := by
  rw [buildListFrom, if_pos hne]

theorem buildListFrom_items (items : List StdString) :
    buildListFrom v temp ((items.flatMap (ITEM_SEPARATOR ++ ·))) =
      temp :: match items with
        | [] => []
        | item :: items => buildListFrom v [] (joinItems (item :: items)) := by
  cases items with
  | nil => rfl
  | cons item items => rfl

/-- The character is written with a backslash before it. -/
def VCardConstructor.escapes (c : VCardConstructor) (ch : UInt8) : Bool :=
  ch == 59 || ((ch == 92 || ch == 44) && c.isV30OrV40)

/-- What is written for a character that does not begin a CRLF. -/
def VCardConstructor.escaped (c : VCardConstructor) (ch : UInt8) : StdString :=
  if c.escapes ch then [92, ch] else if ch = 13 ∨ ch = 10 then [92, 110] else [ch]

theorem handleCharacters_escaped (c : VCardConstructor) (hcr : ch = 13 → rest.head? ≠ some 10) :
    c.handleCharacters (ch :: rest) = c.escaped ch ++ c.handleCharacters rest := by
  have hdr : ¬(ch = 13 ∧ rest.head? = some 10) := fun h => hcr h.1 h.2
  rw [handleCharacters, escaped, if_neg hdr]
  by_cases hs : ch = 59
  · subst hs
    simp [escapes]
  · by_cases he : ch = 13 ∨ ch = 10
    · rcases he with rfl | rfl <;> simp [escapes]
    · simp only [escapes, hs, he, if_false, Bool.or_eq_true, beq_iff_eq, Bool.and_eq_true, false_or]
      split <;> rfl

theorem handleCharacters_cons (c : VCardConstructor) (h : Printable (ch :: rest)) :
    c.handleCharacters (ch :: rest) =
      (if c.escapes ch then [92, ch] else [ch]) ++ c.handleCharacters rest := by
  obtain ⟨hnl, hr, -⟩ := isPrintableAscii_clean (printable_cons.1 h).1
  rw [handleCharacters_escaped c fun h => absurd h hr, escaped, if_neg (not_or.2 ⟨hr, hnl⟩)]

/-! ## Reading them back -/

/-- Every CRLF and every lone carriage return is replaced by a newline. -/
def lineEnds : StdString → StdString
  | 13 :: 10 :: rest => 10 :: lineEnds rest
  | ch :: rest => (if ch = 13 then 10 else ch) :: lineEnds rest
  | [] => []

theorem lineEnds_eq_self {s : StdString} (h : 13 ∉ s) : lineEnds s = s := by
  fun_induction lineEnds s with
  | case1 s ih => exact absurd mem_cons_self h
  | case2 ch s hcr ih =>
    have hch : ch ≠ 13 := fun heq => h (heq ▸ mem_cons_self)
    rw [if_neg hch, ih fun hm => h (mem_cons_of_mem ch hm)]
  | case3 => rfl

section Later

variable {c : VCardConstructor} (hv : c.version ≠ .v21)
include hv

theorem escapes_later : c.escapes ch = true ↔ ch = 59 ∨ ch = 92 ∨ ch = 44 := by
  simp [escapes, isV30OrV40, hv]

theorem unescape_escaped (ch : UInt8) (rest : StdString) :
    unescapeText.unescape (c.escaped ch ++ rest) =
      (if ch = 13 then 10 else ch) :: unescapeText.unescape rest := by
  unfold escaped
  split
  next h => rcases (escapes_later hv).1 h with rfl | rfl | rfl <;> rfl
  next h =>
    split
    next hen => rcases hen with rfl | rfl <;> rfl
    next hen =>
      have hb : ch ≠ 92 := fun heq => h ((escapes_later hv).2 (.inr (.inl heq)))
      rw [if_neg fun heq => hen (.inl heq)]
      cases rest with
      | nil => simp [unescapeText.unescape]
      | cons next rest => simp [unescapeText.unescape, hb]

theorem buildListFrom_escaped (temp : StdString) (ch : UInt8) (rest : StdString) :
    buildListFrom c.version temp (c.escaped ch ++ rest) =
      buildListFrom c.version (temp ++ [if ch = 13 then 10 else ch]) rest := by
  have hc : ∀ ch, unescapeChar c.version ch = [if ch = 110 ∨ ch = 78 then 10 else ch] := by
    intro ch
    rw [unescapeChar, if_neg hv]
    split <;> rfl
  unfold escaped
  split
  next h =>
    rw [cons_append, cons_append, buildListFrom_escape (by simp [hc]), hc]
    rcases (escapes_later hv).1 h with rfl | rfl | rfl <;> rfl
  next h =>
    obtain ⟨hs, hb, -⟩ : ch ≠ 59 ∧ ch ≠ 92 ∧ ch ≠ 44 := by
      simpa only [escapes_later hv, not_or] using h
    split
    next hen =>
      rw [cons_append, cons_append, buildListFrom_escape (by simp [hc]), hc]
      rcases hen with rfl | rfl <;> rfl
    next hen =>
      rw [if_neg fun heq => hen (.inl heq)]
      exact buildListFrom_plain hb hs

omit hv in
/-- A reader that takes one written character at a time reads the whole field. -/
theorem read_handleCharacters {α : Type} (read : StdString → StdString → α)
    (hr : ∀ temp ch rest, read temp (c.escaped ch ++ rest) =
      read (temp ++ [if ch = 13 then 10 else ch]) rest) (s : StdString) :
    ∀ temp rest, read temp (c.handleCharacters s ++ rest) = read (temp ++ lineEnds s) rest := by
  fun_induction lineEnds s with
  | case1 s ih =>
    intro temp rest
    have hcl : c.handleCharacters (13 :: 10 :: s) = c.escaped 10 ++ c.handleCharacters s := by
      rw [handleCharacters, if_neg (by decide), if_pos ⟨rfl, rfl⟩]
      exact handleCharacters_escaped c fun h => absurd h (by decide)
    rw [hcl, append_assoc, hr, ih]
    simp
  | case2 ch s hcr ih =>
    intro temp rest
    have ho : ch = 13 → s.head? ≠ some 10 := by
      rintro rfl hh
      obtain ⟨t, rfl⟩ := head?_eq_some_iff.1 hh
      exact hcr t rfl rfl
    rw [handleCharacters_escaped c ho, append_assoc, hr, ih]
    simp
  | case3 => simp [handleCharacters]

theorem unescapeText_field (s : StdString) :
    unescapeText c.version (c.handleCharacters s) = lineEnds s := by
  have hr := read_handleCharacters (c := c) (fun temp rest => temp ++ unescapeText.unescape rest)
    (fun temp ch rest => by simp [unescape_escaped hv]) s [] []
  simp only [append_nil] at hr
  cases hvr : c.version with
  | v21 => exact absurd hvr hv
  | v30 | v40 => exact hr.trans (append_nil _)

theorem buildListFrom_fields (field : StdString) (fields : List StdString) :
    buildListFrom c.version [] (joinItems ((field :: fields).map c.handleCharacters)) =
      (field :: fields).map lineEnds := by
  have hr := read_handleCharacters _ (buildListFrom_escaped hv)
  induction fields generalizing field with
  | nil => simpa [joinItems, buildListFrom] using hr field [] []
  | cons next fields ih =>
    rw [map_cons, joinItems, hr, map_cons, buildListFrom_items]
    exact congrArg (List.cons (lineEnds field)) (ih next)

/-- **Escapes are undone**, in texts whose lengths an `int32_t` can hold. -/
theorem escapes_undone :
    (∀ s : StdString, s.length < 2 ^ 31 →
      unescapeText c.version (c.dealCharacters s) = lineEnds s) ∧
      ∀ fields ≠ [], (∀ field ∈ fields, field.length < 2 ^ 31) →
        (c.addValues false fields).length < 2 ^ 31 →
        buildListFromValue c.version (c.addValues false fields) = fields.map lineEnds := by
  refine ⟨fun s hs => ?_, fun fields hne hfields hsize => ?_⟩
  · rw [dealCharacters, counted_eq_self hs]
    exact unescapeText_field hv s
  · have hadd : c.addValues false fields = joinItems (fields.map c.handleCharacters) :=
      congrArg joinItems (map_congr_left fun field hm =>
        congrArg c.handleCharacters (counted_eq_self (hfields field hm)))
    rw [buildListFromValue, counted_eq_self hsize, hadd]
    obtain ⟨field, fields, rfl⟩ := exists_cons_of_ne_nil hne
    exact buildListFrom_fields hv field fields

omit hv in
theorem escapes_undone_lines :
    unescapeText .v30 (VCardConstructor.dealCharacters { version := .v30 } (ascii "a;\r\nb\\")) =
        ascii "a;\nb\\" ∧
      buildListFromValue .v30 (VCardConstructor.addValues { version := .v30 } false
        [ascii "a;", ascii "\\"]) = [ascii "a;", ascii "\\"] := by
  have h := escapes_undone (c := { version := .v30 }) (by decide)
  exact ⟨h.1 _ (by decide), h.2 [ascii "a;", ascii "\\"] (by simp) (by decide) (by decide)⟩

omit hv in
theorem not_undone {n : Nat} (hn : (Int32.ofNat n).toNatClampNeg = 0) (hpos : n ≠ 0) :
    unescapeText .v30 (c.dealCharacters (List.replicate n 97)) ≠
      lineEnds (List.replicate n 97) := by
  have hz : counted (List.replicate n 97) = [] := by rw [counted, length_replicate, hn, take_zero]
  obtain ⟨n, rfl⟩ := Nat.exists_eq_succ_of_ne_zero hpos
  rw [dealCharacters, hz, replicate_succ]
  intro h
  simp [lineEnds, handleCharacters, unescapeText, unescapeText.unescape] at h

omit hv in
/-- One character more than an `int32_t` can count, and the loop is not entered. -/
theorem long_text_dropped :
    unescapeText .v30 (VCardConstructor.dealCharacters { version := .v30 }
      (List.replicate (2 ^ 31) 97)) ≠ lineEnds (List.replicate (2 ^ 31) 97) :=
  not_undone (by decide) (by decide)

end Later

end TelephonyCore.Vcard
