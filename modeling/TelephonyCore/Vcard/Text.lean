import TelephonyCore.Vcard.Contact
import TelephonyCore.Vcard.Escapes
import TelephonyCore.Vcard.Reading

/-!
# A text, written and read back

`AddLine` escapes a text by the version, and the decoder undoes it by the property. A formatted name
is always read as quoted-printable, and never unescaped. The value of a note, a title or a nickname
is unescaped by the later versions, and lost by version 2.1 unless it goes on over further lines.
The contact takes the value for a nickname, but the raw text for a note and a title without
parameters.
-/

namespace TelephonyCore.Vcard

open Codec Lib Fuelled List Decoder

inductive TextType where
  | fn
  | note
  | title
  | nickname
deriving DecidableEq

namespace TextType

def name : TextType → StdString
  | fn => VCARD_TYPE_FN
  | note => VCARD_TYPE_NOTE
  | title => VCARD_TYPE_TITLE
  | nickname => VCARD_TYPE_NICKNAME

def stored : TextType → VCardContact → List StdString
  | fn, contact => [contact.displayName]
  | note, contact => contact.notes
  | title, contact => contact.organizations.map (·.title)
  | nickname, contact => contact.nicknames

end TextType

variable {s : StdString} {ch : UInt8} {platform : Platform} {d : Decoder}

/-! ## Escapes -/

section Escapes

variable (c : VCardConstructor) {s : StdString}

theorem printable_handleCharacters (h : Printable s) : Printable (c.handleCharacters s) := by
  induction s with
  | nil => exact h
  | cons ch rest ih =>
    obtain ⟨hch, hr⟩ := printable_cons.1 h
    rw [handleCharacters_cons c h, printable_append]
    refine ⟨?_, ih hr⟩
    have hs : Printable [ch] := printable_cons.2 ⟨hch, fun _ hm => absurd hm (by simp)⟩
    split
    · exact printable_cons.2 ⟨by decide, hs⟩
    · exact hs

theorem length_handleCharacters (h : Printable s) :
    (c.handleCharacters s).length = s.length + s.countP c.escapes := by
  induction s with
  | nil => rfl
  | cons ch rest ih =>
    rw [handleCharacters_cons c h, length_append, ih (printable_cons.1 h).2, countP_cons,
      length_cons]
    split
    all_goals
      simp only [length_cons, length_nil]
      omega

theorem handleCharacters_eq_iff (h : Printable s) :
    c.handleCharacters s = s ↔ ∀ ch ∈ s, ¬c.escapes ch := by
  constructor
  · intro he
    have hln := length_handleCharacters c h
    rw [he] at hln
    exact countP_eq_zero.1 (by omega)
  · intro hp
    induction s with
    | nil => rfl
    | cons ch rest ih =>
      obtain ⟨-, hr⟩ := printable_cons.1 h
      rw [handleCharacters_cons c h, if_neg (hp ch mem_cons_self),
        ih hr fun ch' hm => hp ch' (mem_cons_of_mem ch hm)]
      rfl

theorem mem_of_mem_handleCharacters (h : Printable s) (hch : ch ∈ c.handleCharacters s) :
    ch = 92 ∨ ch ∈ s := by
  induction s with
  | nil => cases hch
  | cons first rest ih =>
    rw [handleCharacters_cons c h, mem_append] at hch
    rcases hch with hch | hch
    · split at hch
      · rcases mem_cons.1 hch with rfl | hch
        · exact .inl rfl
        · exact .inr (mem_singleton.1 hch ▸ mem_cons_self)
      · exact .inr (mem_singleton.1 hch ▸ mem_cons_self)
    · exact (ih (printable_cons.1 h).2 hch).imp_right (mem_cons_of_mem first)

theorem handleCharacters_ne_nil (h : Printable s) (hne : s ≠ []) : c.handleCharacters s ≠ [] := by
  obtain ⟨_, _, rfl⟩ := exists_cons_of_ne_nil hne
  rw [handleCharacters_cons c h]
  split <;> exact cons_ne_nil _ _

theorem getLast?_handleCharacters (h : Printable s) : (c.handleCharacters s).getLast? = s.getLast? := by
  induction s with
  | nil => rfl
  | cons ch rest ih =>
    obtain ⟨-, hr⟩ := printable_cons.1 h
    rw [handleCharacters_cons c h]
    by_cases hn : rest = []
    · subst hn
      split <;> rfl
    · rw [getLast?_append_of_ne_nil _ (handleCharacters_ne_nil c hr hn), ih hr]
      obtain ⟨_, _, rfl⟩ := exists_cons_of_ne_nil hn
      exact getLast?_cons_cons.symm

theorem trim_handleCharacters (h : Printable s) (ht : trim s = s) :
    trim (c.handleCharacters s) = c.handleCharacters s := by
  refine trim_eq_self ?_ (by rw [getLast?_handleCharacters c h]; exact getLast?_of_trim ht)
  cases s with
  | nil => exact fun _ hm => absurd hm (by simp [VCardConstructor.handleCharacters])
  | cons ch rest =>
    rw [handleCharacters_cons c h]
    split
    · exact not_isSpace_head? rfl (by decide)
    · exact not_isSpace_head? rfl (head?_of_trim ht ch rfl)

end Escapes

/-! ## Quoted-printable texts without `=` -/

section QuotedPrintable

variable {s : StdString}

theorem not_endWith_equals (h : 61 ∉ s) : ¬endWith s (ascii "=") := by
  intro he
  have hs : ascii "=" <:+ s := isSuffixOf_iff_suffix.1 he
  exact h (hs.subset (by decide))

theorem decodeQuotedPrintable_cons (hch : ch ≠ 61) (rest : StdString) :
    decodeQuotedPrintable (ch :: rest) = ch :: decodeQuotedPrintable rest := by
  rw [decodeQuotedPrintable.eq_def]
  exact if_pos hch

theorem decodeQuotedPrintable_eq_self (h : 61 ∉ s) : decodeQuotedPrintable s = s := by
  induction s with
  | nil => rfl
  | cons ch rest ih =>
    have hch : ch ≠ 61 := fun heq => h (heq ▸ mem_cons_self)
    rw [decodeQuotedPrintable_cons hch, ih fun hm => h (mem_cons_of_mem ch hm)]

theorem splitFrom_lines (h : 13 ∉ s) :
    ∀ token, splitFrom (ascii "\r\n") 0 token s = if token ++ s = [] then [] else [token ++ s] := by
  induction s with
  | nil =>
    intro token
    rw [splitFrom, append_nil]
  | cons ch rest ih =>
    intro token
    have hch : ch ≠ 13 := fun heq => h (heq ▸ mem_cons_self)
    have hst : ¬ascii "\r\n" <+: ch :: rest := by
      intro hp
      have hh : (13 : UInt8) = ch := (cons_prefix_cons.1 hp).1
      exact hch hh.symm
    rw [splitFrom, if_neg hst, ih fun hm => h (mem_cons_of_mem ch hm), append_assoc]
    rfl

theorem parseQuotedPrintableValue_plain (platform : Platform) (toCharset : StdString)
    (hr : 13 ∉ s) (he : 61 ∉ s) :
    parseQuotedPrintableValue platform s toCharset = platform.convertCharset s toCharset := by
  have hl : (split s (ascii "\r\n")).flatMap (fun line =>
      if endWith line (ascii "=") then line.dropLast else line) = s := by
    rw [split, splitFrom_lines hr, nil_append]
    by_cases hn : s = []
    · rw [if_pos hn, hn]
      rfl
    · rw [if_neg hn, flatMap_singleton, if_neg (not_endWith_equals he)]
  rw [parseQuotedPrintableValue, hl, decodeQuotedPrintable_eq_self he]

end QuotedPrintable

/-! ## Reading the line -/

/-- `iconv` copies ASCII texts. -/
def CopiesAscii (platform : Platform) : Prop :=
  ∀ text : StdString, (∀ ch ∈ text, ch < 128) →
    platform.iconv DEFAULT_IMPORT_CHARSET text = some text

theorem CopiesAscii.convertCharset (hc : CopiesAscii platform) (h : Printable s) :
    platform.convertCharset s DEFAULT_IMPORT_CHARSET =
      if s.length ≤ MAX_VCARD_INPUT_SIZE then some s else none := by
  rw [Platform.convertCharset]
  by_cases hs : s.length > MAX_VCARD_INPUT_SIZE
  · rw [if_pos hs, if_neg (Nat.not_le.2 hs)]
  · rw [if_neg hs, if_pos (Nat.not_lt.1 hs)]
    exact hc s fun ch hm => (isPrintableAscii_clean (h ch hm)).2.2

def textLine (c : VCardConstructor) (type : TextType) (s : StdString) : StdString :=
  type.name ++ DATA_SEPARATOR ++ c.handleCharacters s

theorem addLine_text (c : VCardConstructor) (type : TextType) (hs : s.length < 2 ^ 31) :
    c.addLine type.name [] s false false = physical [textLine c type s] := by
  simp [VCardConstructor.addLine, VCardConstructor.addCharsetOrQuotedPrintable, physical, textLine,
    VCardConstructor.dealCharacters, counted_eq_self hs]

def textProperty (c : VCardConstructor) (type : TextType) (s : StdString) : Property where
  rawData := { name := type.name, rawValue := c.handleCharacters s }

theorem buildRawData_text (platform : Platform) (c : VCardConstructor) (type : TextType)
    (hs : (textLine c type s).length < 2 ^ 31) :
    buildRawData platform c.version (textLine c type s) = some (textProperty c type s) := by
  rw [buildRawData_counted platform c.version hs]
  cases type with
  | fn | note | title | nickname => rfl

theorem textLine_clean (c : VCardConstructor) (type : TextType) (h : Printable s)
    (ht : trim s = s) :
    10 ∉ textLine c type s ∧ trim (textLine c type s) = textLine c type s ∧
      textLine c type s ≠ [] ∧ ∀ ch ∈ (textLine c type s).head?, ¬isSpace ch := by
  have he := printable_handleCharacters c h
  have hn : Printable (type.name ++ DATA_SEPARATOR) := by
    cases type with
    | fn | note | title | nickname => decide +kernel
  have hh : ∀ ch ∈ (textLine c type s).head?, ¬isSpace ch := by
    cases type with
    | fn => exact not_isSpace_head? rfl (by decide : ¬isSpace 70)
    | note | nickname => exact not_isSpace_head? rfl (by decide : ¬isSpace 78)
    | title => exact not_isSpace_head? rfl (by decide : ¬isSpace 84)
  refine ⟨(printable_append.2 ⟨hn, he⟩).not_mem_newline, trim_property hh ?_, ?_, hh⟩
  · intro ch hch
    rw [getLast?_handleCharacters c h] at hch
    exact getLast?_of_trim ht ch hch
  · have hdt : DATA_SEPARATOR ≠ [] := by decide
    simp [textLine, hdt]

/-- The value is one that can be converted. In version 2.1 only that of a name is. -/
def Converted (c : VCardConstructor) (type : TextType) (s : StdString) : Prop :=
  type = .fn ∨ c.version ≠ .v21 → (c.handleCharacters s).length ≤ MAX_VCARD_INPUT_SIZE

instance (c : VCardConstructor) (type : TextType) (s : StdString) :
    Decidable (Converted c type s) := inferInstanceAs (Decidable (_ → _))

/-- A name stays escaped, and version 2.1 has no other value. -/
def readValue (c : VCardConstructor) (type : TextType) (s : StdString) : StdString :=
  if type = .fn then c.handleCharacters s else if c.version ≠ .v21 then s else []

def textRawData (c : VCardConstructor) (type : TextType) (s : StdString) : VCardRawData :=
  { name := type.name, rawValue := c.handleCharacters s, values := [readValue c type s] }

def afterValue (c : VCardConstructor) (type : TextType) (s : StdString) (d : Decoder) : Decoder :=
  if Converted c type s then d.notify (.rawDataCreated (textRawData c type s)) else d.fail

section Reading

variable {platform : Platform} {c : VCardConstructor} {type : TextType} {s : StdString}

theorem dealV21Value_stops (rawValue : StdString) (hp : (d.peekLine .v21).head? ≠ some 32) :
    Yields (d.dealV21Value .v21 rawValue) ([], d) := by
  refine .loop_done ?_
  dsimp only
  rw [if_pos (.inr (.inl hp))]
  exact yields_pure _

/-- In version 2.1 a value that does not go on over further lines is lost. -/
theorem dealPlain_v21 (hc : CopiesAscii platform) (p : Property) (d : Decoder)
    (hp : (d.peekLine .v21).head? ≠ some 32) :
    Yields (d.dealPlain platform .v21 p DEFAULT_IMPORT_CHARSET)
      (d.notify (.rawDataCreated { p.rawData with values := [[]] })) := by
  have hn : Printable [] := fun _ hm => absurd hm (by simp)
  have he := hc.convertCharset hn
  refine (dealV21Value_stops p.rawData.rawValue hp).bind ?_
  simp only [he, length_nil, Nat.zero_le, if_true]
  exact yields_pure _

theorem dealRawDataValue_fn (hc : CopiesAscii platform) (hs : Printable s)
    (ht : trim s = s) (heq : 61 ∉ s) (d : Decoder) :
    Yields (d.dealRawDataValue platform c.version (textProperty c .fn s))
      (afterValue c .fn s d) := by
  have hp := printable_handleCharacters c hs
  have he : 61 ∉ c.handleCharacters s := fun hm =>
    (mem_of_mem_handleCharacters c hs hm).elim (by decide) heq
  have hpr : parseQuotedPrintableValue platform (c.handleCharacters s) DEFAULT_IMPORT_CHARSET =
      if Converted c .fn s then some (c.handleCharacters s) else none := by
    rw [parseQuotedPrintableValue_plain platform _ hp.not_mem_return he, hc.convertCharset hp]
    simp [Converted]
  have hq : Yields (d.getQuotedPrintableValue c.version (c.handleCharacters s))
      (some (c.handleCharacters s), d) := by
    rw [getQuotedPrintableValue, trim_handleCharacters c hs ht, if_pos (not_endWith_equals he)]
    exact yields_pure _
  show Yields (d.dealEncodingQPOrNoEncodingFN platform c.version (textProperty c .fn s)
    DEFAULT_IMPORT_CHARSET) _
  refine hq.bind ?_
  simp only [Option.bind_some, hpr, afterValue]
  by_cases hcv : Converted c .fn s
  · simp only [if_pos hcv]
    exact yields_pure _
  · simp only [if_neg hcv]
    exact yields_pure _

theorem dealRawDataValue_plain (hcp : CopiesAscii platform) (hs : Printable s)
    (ht : type ≠ .fn) (d : Decoder) (hpk : (d.peekLine .v21).head? ≠ some 32) :
    Yields (d.dealRawDataValue platform c.version (textProperty c type s))
      (afterValue c type s d) := by
  have he := printable_handleCharacters c hs
  have hpl : Yields (d.dealPlain platform c.version (textProperty c type s)
      DEFAULT_IMPORT_CHARSET) (afterValue c type s d) := by
    by_cases hv : c.version = .v21
    · have hvl : readValue c type s = [] := by simp [readValue, ht, hv]
      rw [afterValue, if_pos (by simp [Converted, ht, hv]), hv, textRawData, hvl]
      exact dealPlain_v21 hcp (textProperty c type s) d hpk
    · have hvl : readValue c type s = s := by simp [readValue, ht, hv]
      have hu := unescapeText_field hv s
      rw [lineEnds_eq_self hs.not_mem_return] at hu
      unfold dealPlain
      rw [if_neg hv]
      refine (yields_pure _).bind ?_
      simp only [textProperty, hcp.convertCharset he, afterValue]
      by_cases hsz : (c.handleCharacters s).length ≤ MAX_VCARD_INPUT_SIZE
      · have hcv : Converted c type s := fun _ => hsz
        rw [if_pos hsz, if_pos hcv, textRawData, hvl]
        simp only [hu]
        exact yields_pure _
      · have hcv : ¬Converted c type s := fun h => hsz (h (.inr hv))
        rw [if_neg hsz, if_neg hcv]
        exact yields_pure _
  cases type with
  | fn => exact absurd rfl ht
  | note | title | nickname => exact hpl

theorem parseItem_text (hc : CopiesAscii platform) (hs : Printable s) (ht : trim s = s)
    (heq : type = .fn → 61 ∉ s) (hsz : (textLine c type s).length < 2 ^ 31) {d' : Decoder}
    (hl : Yields (d.getNonEmptyLine c.version) (textLine c type s, d'))
    (hp : (d'.peekLine .v21).head? ≠ some 32) :
    Yields (d.parseItem platform c.version) (d'.file ≠ [], afterValue c type s d') := by
  have hne := (textLine_clean c type hs ht).2.2.1
  have hu : toUpper type.name ≠ VCARD_TYPE_END ∧ toUpper type.name ≠ VCARD_TYPE_AGENT := by
    cases type <;> decide
  have hvl : Yields (d'.dealRawDataValue platform c.version (textProperty c type s))
      (afterValue c type s d') := by
    by_cases hty : type = .fn
    · subst hty
      exact dealRawDataValue_fn hc hs ht (heq rfl) d'
    · exact dealRawDataValue_plain hc hs hty d' hp
  have hf : (afterValue c type s d').file = d'.file := by
    unfold afterValue
    split <;> rfl
  refine hl.bind ?_
  dsimp only
  rw [parseLine_of_value platform c.version d' hne (buildRawData_text platform c type hsz)
    (fun h => hu.1 h.1) hu.2, ← hf]
  exact hvl.bind (yields_pure _)

/-- In version 2.1 the last line is not trimmed, and with its carriage return no end of a card. -/
def endData : VCardRawData :=
  { name := VCARD_TYPE_END, rawValue := DATA_VCARD ++ [13], values := [[]] }

theorem parseItem_end (hc : CopiesAscii platform) (notified : List Event) :
    Yields (Decoder.parseItem platform .v21 { file := physical [endLine], notified })
      (false, { file := [], notified := notified ++ [.rawDataCreated endData] }) := by
  have hl : Yields (getNonEmptyLine .v21 { file := physical [endLine], notified })
      (endLine ++ [13], { file := [], notified }) := ⟨1, rfl⟩
  refine hl.bind ?_
  have hdl := dealPlain_v21 hc { rawData := { endData with values := [] } }
    { file := [], notified } (by simp [peekLine, getline])
  exact .bind hdl (yields_pure _)

/-- The items after the text are none, or the line at the end of the card. A value that cannot be
converted ends the items with an error. -/
theorem parseItems_text (hc : CopiesAscii platform) (hs : Printable s) (htm : trim s = s)
    (heq : type = .fn → 61 ∉ s) (hsz : (textLine c type s).length < 2 ^ 31) :
    Halts ((afterBegin c.version (textLine c type s) [endLine]).parseItems platform c.version)
      fun d => if Converted c type s then
        d.file = [] ∧ d.errorCode = .success ∧ ∃ rest, (rest = [] ∨ rest = [endData]) ∧
          d.notified = [.started, .oneContactStarted] ++
            (textRawData c type s :: rest).map .rawDataCreated
      else d.errorCode ≠ .success ∧ d.notified = [.started, .oneContactStarted] := by
  obtain ⟨hnl, hsl, hne, _⟩ := textLine_clean c type hs htm
  have he : (10 : UInt8) ∉ endLine := by decide
  by_cases hv : c.version = .v21
  · have hln := getNonEmptyLineV21_physical hnl hne hsl (cons_ne_nil endLine [])
      [.started, .oneContactStarted]
    have hpk := peekLineV21_physical he [] [.started, .oneContactStarted]
    rw [← hv] at hln
    have hit := parseItem_text hc hs htm heq hsz hln (by rw [hpk]; decide)
    rw [hv] at hit
    rw [afterBegin, if_pos hv, hv]
    by_cases hcv : Converted c type s
    · have hls := parseItem_end hc
        [.started, .oneContactStarted, .rawDataCreated (textRawData c type s)]
      simp only [afterValue, if_pos hcv] at hit ⊢
      refine ⟨_, .loop_again (hit.bind ?_) (.loop_done (hls.bind (yields_pure _))),
        rfl, rfl, [endData], .inr rfl, rfl⟩
      exact yields_pure _
    · simp only [afterValue, if_neg hcv] at hit ⊢
      exact ⟨_, .loop_done (hit.bind (yields_pure _)), by decide, rfl⟩
  · have htr := trim_carriage_return hne hsl
    have hpr : trim (textLine c type s ++ [13]) ≠ [] := by
      rw [htr]
      exact hne
    have hf : endLine.head? = some 69 := rfl
    have hln := getNonEmptyLineV30_physical hv hpr he
      (not_isSpace_head? hf (by decide)) []
      [.started, .oneContactStarted]
    rw [htr] at hln
    have hit := parseItem_text hc hs htm heq hsz hln (by decide)
    rw [afterBegin, if_neg hv]
    by_cases hcv : Converted c type s
    · simp only [afterValue, if_pos hcv] at hit ⊢
      exact ⟨_, .loop_done (hit.bind (yields_pure _)), rfl, rfl, [], .inl rfl, rfl⟩
    · simp only [afterValue, if_neg hcv] at hit ⊢
      exact ⟨_, .loop_done (hit.bind (yields_pure _)), by decide, rfl⟩

end Reading

section Card

variable {v : Version} {file : StdString} {d₁ d₂ : Decoder} (hf : file ≠ [])
  (hb : Yields (Decoder.readBegin v { file, notified := [.started, .oneContactStarted] }) (true, d₁))
  (hit : Yields (d₁.parseItems platform v) d₂)

include hf hb hit

theorem decode_card (he : d₂.file = []) (hsc : d₂.errorCode = .success) :
    Yields (decode platform v file)
      { d₂ with notified := d₂.notified ++ [.oneContactEnded] ++ [.ended] } := by
  have hsk : Yields (d₂.notify .oneContactEnded).skipEmptyLines (d₂.notify .oneContactEnded) := by
    refine .loop_done ?_
    rw [if_pos (show (d₂.notify .oneContactEnded).file = [] from he)]
    exact yields_pure _
  have ho : Yields (decodeOne platform v { file, notified := [.started] })
      (true, d₂.notify .oneContactEnded) := by
    refine hb.bind (hit.bind ?_)
    rw [if_neg (not_not.2 hsc)]
    exact hsk.bind (yields_pure _)
  have hc : Yields (decodeCards platform v { file, notified := [.started] })
      (d₂.notify .oneContactEnded) := by
    have hdn : Yields ((d₂.notify .oneContactEnded).decodeCards platform v)
        (d₂.notify .oneContactEnded) := by
      refine .loop_done ?_
      rw [if_pos (show (d₂.notify .oneContactEnded).file = [] from he)]
      exact yields_pure _
    refine .loop_again ?_ hdn
    rw [if_neg hf]
    exact ho.bind (yields_pure _)
  exact hc.bind (yields_pure _)

theorem decode_failed (he : d₂.errorCode ≠ .success) :
    Yields (decode platform v file) (d₂.notify .ended) := by
  have ho : Yields (decodeOne platform v { file, notified := [.started] }) (false, d₂) := by
    refine hb.bind (hit.bind ?_)
    rw [if_pos he]
    exact yields_pure _
  have hc : Yields (decodeCards platform v { file, notified := [.started] }) d₂ := by
    refine .loop_done ?_
    rw [if_neg hf]
    exact ho.bind (yields_pure _)
  exact hc.bind (yields_pure _)

end Card

/-- The card `VCardConstructor` writes with the text. -/
def textCard (c : VCardConstructor) (type : TextType) (s : StdString) : StdString :=
  physical [beginLine] ++ c.addLine type.name [] s false false ++ physical [endLine]

theorem textCard_physical (c : VCardConstructor) (type : TextType) (hs : s.length < 2 ^ 31) :
    textCard c type s = physical (beginLine :: textLine c type s :: [endLine]) := by
  rw [textCard, addLine_text c type hs, ← physical_append, ← physical_append]
  rfl

/-- The texts that come back: a name, a note and a title if nothing in them is escaped, and a
nickname in the later versions, if the value that is converted is not too long. -/
def Kept (c : VCardConstructor) (type : TextType) (s : StdString) : Prop :=
  Converted c type s ∧
  match type with
  | .fn | .note | .title => ∀ ch ∈ s, ¬c.escapes ch
  | .nickname => c.version = .v21 → s = []

instance (c : VCardConstructor) (type : TextType) (s : StdString) : Decidable (Kept c type s) :=
  match type with
  | .fn | .note | .title => inferInstanceAs (Decidable (_ ∧ ∀ _ ∈ _, _))
  | .nickname => inferInstanceAs (Decidable (_ ∧ (_ → _)))

theorem stored_textRawData_iff {c : VCardConstructor} {type : TextType} (hs : Printable s)
    (hcv : Converted c type s) :
    type.stored (.addRawData {} (textRawData c type s)) = [s] ↔ Kept c type s := by
  rw [Kept.eq_def, and_iff_right hcv]
  cases type with
  | fn | note | title =>
    show [c.handleCharacters s] = [s] ↔ _
    rw [singleton_inj, handleCharacters_eq_iff c hs]
  | nickname =>
    show [readValue c .nickname s] = [s] ↔ _
    by_cases hv : c.version = .v21
    · simp [readValue, hv, eq_comm]
    · simp [readValue, hv]

end TelephonyCore.Vcard
