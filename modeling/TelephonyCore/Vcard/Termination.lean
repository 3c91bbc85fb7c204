import TelephonyCore.Vcard.Decoder

/-!
# Whether an import ends

No function of the decoder puts anything back: the file and the line of look-ahead only get shorter,
and notifications are only added (`Shrinks`). A round of `ParseItems` has read a line that is not
empty, and a round of `Decode` has read from a file that was not at its end. Every loop inside them
stops at an empty line, which is what the end of the file gives, with one exception: `GetBase64`
goes on over empty lines, and at the end of the file it reads the same one for ever.

So an import ends if every line that opens a base64 property is followed by one that closes it.
-/

namespace TelephonyCore.Vcard

open Codec Lib Fuelled List Decoder

/-- The last line is not trimmed. -/
def asRead (line : StdString) (rest : List StdString) : StdString :=
  if rest = [] then line else trim line

/-- The line is a property whose value `GetBase64` reads. -/
def opensBase64 (platform : Platform) (line : StdString) : Bool :=
  (buildRawData platform .v21 line).any (·.form = .base64)

/-- After every line that opens a base64 property comes one that ends it. -/
def Closed (platform : Platform) : List StdString → Prop
  | [] => True
  | line :: rest =>
    (opensBase64 platform (asRead line rest) → ∃ next ∈ rest, Decoder.endsBase64 .v21 next) ∧
      Closed platform rest

instance decidableClosed (platform : Platform) :
    (ls : List StdString) → Decidable (Closed platform ls)
  | [] => .isTrue trivial
  | _ :: rest =>
    have := decidableClosed platform rest
    inferInstanceAs (Decidable (_ ∧ Closed platform rest))

def copying : Platform := ⟨fun _ input => some input, some⟩

variable {d d' d₀ : Decoder} {v : Version} {file : StdString} {more : Bool}

namespace Decoder

/-! ## What is left to read -/

def left (d : Decoder) : Nat := d.file.length + d.preLine.length

structure Shrinks (d d' : Decoder) : Prop where
  file : d'.file.length ≤ d.file.length
  left : d'.left ≤ d.left
  lines : lines d'.file <:+ lines d.file
  notified : d.notified <+: d'.notified

namespace Shrinks

theorem refl (d : Decoder) : Shrinks d d :=
  ⟨Nat.le_refl _, Nat.le_refl _, suffix_rfl, prefix_rfl⟩

theorem trans {d₁ d₂ d₃ : Decoder} (h₁₂ : Shrinks d₁ d₂) (h₂₃ : Shrinks d₂ d₃) : Shrinks d₁ d₃ :=
  ⟨h₂₃.file.trans h₁₂.file, h₂₃.left.trans h₁₂.left, h₂₃.lines.trans h₁₂.lines,
    h₁₂.notified.trans h₂₃.notified⟩

theorem notify (h : Shrinks d d') (event : Event) : Shrinks d (d'.notify event) :=
  ⟨h.file, h.left, h.lines, h.notified.trans (prefix_append _ _)⟩

theorem fail (h : Shrinks d d') : Shrinks d d'.fail :=
  { h with }

end Shrinks

theorem lines_getline_suffix (file : StdString) : lines (getline file).2 <:+ lines file := by
  by_cases h : file = []
  · subst h
    exact suffix_rfl
  · rw [lines_eq_cons h]
    exact suffix_cons _ _

theorem shrinks_getline (d : Decoder) : Shrinks d { d with file := (getline d.file).2 } := by
  have hl := getline_length d.file
  refine ⟨?_, ?_, lines_getline_suffix d.file, prefix_rfl⟩
  · show (getline d.file).2.length ≤ d.file.length
    omega
  · show (getline d.file).2.length + d.preLine.length ≤ d.file.length + d.preLine.length
    omega

theorem peekLine_eq (v : Version) (d : Decoder) : d.peekLine v = (d.getLine v).1 := by
  unfold peekLine getLine
  split <;> rfl

theorem shrinks_getLine (v : Version) (d : Decoder) : Shrinks d (d.getLine v).2 := by
  unfold getLine
  split
  · exact ⟨Nat.le_refl _, Nat.le_add_right _ _, suffix_rfl, prefix_rfl⟩
  · exact shrinks_getline d

/-- Only the end of the file gives a line without using anything up. -/
theorem getLine_used (h : (d.getLine v).1 ≠ []) : (d.getLine v).2.left < d.left := by
  unfold getLine at h ⊢
  split
  case isTrue hpr =>
    have hps := length_pos_iff.2 hpr.2
    show d.file.length + 0 < d.file.length + d.preLine.length
    omega
  case isFalse hpr =>
    rw [if_neg hpr] at h
    have hf : d.file ≠ [] := by
      intro hn
      exact h (by rw [hn]; rfl)
    have hs := getline_shorter hf
    show (getline d.file).2.length + d.preLine.length < d.file.length + d.preLine.length
    omega

/-! ## Reading the value of a property -/

section Values

variable (platform : Platform) (v : Version)

theorem halts_lines {α σ : Type} {body : σ × Decoder → Fuelled ((σ × Decoder) ⊕ α)} {Q : α → Prop}
    {s : σ} (hb : ∀ s d, Shrinks d₀ d → Halts (body (s, d)) fun
      | .inl (_, d') => d' = (d.getLine v).2 ∧ (d.getLine v).1 ≠ []
      | .inr a => Q a) : Halts (loop body (s, d₀)) Q := by
  refine halts_loop (fun sd => Shrinks d₀ sd.2) (fun sd => sd.2.left) ?_ (.refl d₀)
  rintro ⟨s, d⟩ hd
  refine (hb s d hd).mono ?_
  rintro (⟨_, d'⟩ | a) hn
  · obtain ⟨rfl, hl⟩ := hn
    exact ⟨hd.trans (shrinks_getLine v d), getLine_used hl⟩
  · exact hn

theorem getQuotedPrintableValue_halts (str : StdString) (d : Decoder) :
    Halts (d.getQuotedPrintableValue v str) fun r => Shrinks d r.2 := by
  unfold getQuotedPrintableValue
  split
  · exact halts_pure (.refl d)
  · refine halts_lines v fun target d' hd => ?_
    have hn : Shrinks d (d'.getLine v).2 := hd.trans (shrinks_getLine v d')
    dsimp only
    split
    case isTrue => exact halts_pure hn
    case isFalse hl =>
      split
      · exact halts_pure hn
      · split
        · exact halts_pure hn
        · exact halts_pure ⟨rfl, hl⟩

theorem getPoMultiLine_halts (value : StdString) (d : Decoder) :
    Halts (d.getPoMultiLine v value) fun r => Shrinks d r.2 := by
  refine halts_lines v fun str d' hd => ?_
  dsimp only
  split
  case isTrue => exact halts_pure hd
  case isFalse hl =>
    rw [peekLine_eq, not_or] at hl
    exact halts_pure ⟨rfl, hl.1⟩

theorem dealV21Value_halts (rawValue : StdString) (d : Decoder) :
    Halts (d.dealV21Value v rawValue) fun r => Shrinks d r.2 := by
  refine halts_lines v fun str d' hd => ?_
  dsimp only
  split
  case isTrue => exact halts_pure hd
  case isFalse hl =>
    rw [peekLine_eq, not_or] at hl
    exact halts_pure ⟨rfl, hl.1⟩

theorem getBase64_halts (value : StdString) (d : Decoder)
    (he : v = .v21 → ∃ line ∈ lines d.file, endsBase64 .v21 line) :
    Halts (d.getBase64 v value) fun r => Shrinks d r.2 := by
  unfold getBase64
  split
  case isTrue => exact halts_pure (.refl d)
  case isFalse hv =>
    obtain rfl : v = .v21 := not_not.1 hv
    refine halts_loop
      (fun sd => Shrinks d sd.2 ∧ ∃ line ∈ lines sd.2.file, endsBase64 .v21 line)
      (fun sd => sd.2.file.length) ?_ ⟨.refl d, he rfl⟩
    rintro ⟨_, d'⟩ ⟨hd, line, hl, hs⟩
    have hf : d'.file ≠ [] := by
      intro hnl
      exact absurd hl (by simp [hnl, lines])
    have hnx : Shrinks d (d'.getLine .v21).2 := hd.trans (shrinks_getLine .v21 d')
    dsimp only
    split
    case isTrue => exact halts_pure hd
    case isFalse hp =>
      split
      · exact halts_pure hnx
      · refine halts_pure ⟨⟨hnx, line, ?_, hs⟩, getline_shorter hf⟩
        -- the line that was read does not end the text, so that the one that does is further on
        rw [lines_eq_cons hf] at hl
        obtain rfl | hr := mem_cons.1 hl
        · exact absurd hs hp
        · exact hr

theorem dealAdrOrgN_halts (p : Property) (toCharset : StdString) (d : Decoder) :
    Halts (d.dealAdrOrgN platform v p toCharset) (Shrinks d) := by
  unfold dealAdrOrgN
  split
  · refine (getQuotedPrintableValue_halts v _ d).bind fun r hr => ?_
    dsimp only
    split
    · exact halts_pure hr.fail
    · exact halts_pure (hr.notify _)
  · refine (getPoMultiLine_halts v _ d).bind fun r hr => ?_
    dsimp only
    split
    · exact halts_pure hr.fail
    · exact halts_pure (hr.notify _)

theorem dealEncodingQPOrNoEncodingFN_halts (p : Property) (toCharset : StdString) (d : Decoder) :
    Halts (d.dealEncodingQPOrNoEncodingFN platform v p toCharset) (Shrinks d) := by
  refine (getQuotedPrintableValue_halts v _ d).bind fun r hr => ?_
  dsimp only
  split
  · exact halts_pure hr.fail
  · exact halts_pure (hr.notify _)

theorem dealPlain_halts (p : Property) (toCharset : StdString) (d : Decoder) :
    Halts (d.dealPlain platform v p toCharset) (Shrinks d) := by
  have hv : Halts (if v = .v21 then d.dealV21Value v p.rawData.rawValue
      else pure (p.rawData.rawValue, d)) fun r => Shrinks d r.2 := by
    split
    · exact dealV21Value_halts v _ d
    · exact halts_pure (.refl d)
  refine hv.bind fun r hr => ?_
  dsimp only
  split
  · exact halts_pure hr.fail
  · exact halts_pure (hr.notify _)

theorem dealRawDataValue_halts (p : Property) (d : Decoder)
    (he : v = .v21 → p.form = .base64 → ∃ line ∈ lines d.file, endsBase64 .v21 line) :
    Halts (d.dealRawDataValue platform v p) (Shrinks d) := by
  unfold dealRawDataValue
  cases hf : p.form with
  | adrOrgN => exact dealAdrOrgN_halts platform v p _ d
  | quotedPrintable => exact dealEncodingQPOrNoEncodingFN_halts platform v p _ d
  | base64 =>
    refine (getBase64_halts v _ d fun hv => he hv hf).bind fun r hr => ?_
    exact halts_pure (hr.notify _)
  | plain => exact dealPlain_halts platform v p _ d

end Values

/-! ## Reading the next line -/

/-- What `GetNonEmptyLine` does to the decoder. -/
structure Consumes (v : Version) (d : Decoder) (line : StdString) (d' : Decoder) : Prop where
  shrinks : Shrinks d d'
  used : line ≠ [] → d'.left < d.left
  read : d.file ≠ [] → d'.file.length < d.file.length
  origin : v = .v21 → line ≠ [] →
    ∃ raw, raw :: lines d'.file <:+ lines d.file ∧ line = asRead raw (lines d'.file)

theorem lines_eq_nil : lines file = [] ↔ file = [] := by
  constructor
  · intro h
    by_contra hne
    exact absurd h (by simp [lines_eq_cons hne])
  · rintro rfl
    rfl

theorem asRead_lines (line file : StdString) :
    asRead line (lines file) = if file = [] then line else trim line := by
  simp only [asRead, lines_eq_nil]

theorem getline_read (hd : Shrinks d₀ d) (h₀ : d₀.file ≠ []) :
    (getline d.file).2.length < d₀.file.length := by
  by_cases hf : d.file = []
  · rw [hf]
    exact length_pos_iff.2 h₀
  · exact (getline_shorter hf).trans_le hd.file

theorem getNonEmptyLineV21_halts (d : Decoder) :
    Halts d.getNonEmptyLineV21 fun r => Consumes .v21 d r.1 r.2 := by
  -- leaving after `getline` with a line that comes from what was read
  have hlv : ∀ d', Shrinks d d' → ∀ line,
      (line ≠ [] → line = asRead (getline d'.file).1 (lines (getline d'.file).2) ∧ d'.file ≠ []) →
      Consumes .v21 d line { d' with file := (getline d'.file).2 } := by
    intro d' hd line hln
    refine ⟨hd.trans (shrinks_getline d'), fun hne => ?_, getline_read hd, fun _ hne => ?_⟩
    · have hs := getline_shorter (hln hne).2
      have hlf := hd.left
      simp only [left] at hlf ⊢
      omega
    · refine ⟨_, ?_, (hln hne).1⟩
      rw [← lines_eq_cons (hln hne).2]
      exact hd.lines
  refine halts_loop (Shrinks d) (fun d' => d'.file.length) ?_ (.refl d)
  intro d' hd
  dsimp only
  split
  case isTrue hr =>
    refine halts_pure (hlv d' hd _ fun hne => ⟨?_, ?_⟩)
    · rw [asRead_lines, if_pos hr]
    · rintro hnl
      exact hne (by rw [hnl]; rfl)
  case isFalse hr =>
    have hf : d'.file ≠ [] := by
      rintro hnl
      exact hr (by rw [hnl]; rfl)
    split
    · refine halts_pure (hlv d' hd _ fun _ => ⟨?_, hf⟩)
      rw [asRead_lines, if_neg hr]
    · exact halts_pure ⟨hd.trans (shrinks_getline d'), getline_shorter hf⟩

theorem joinLines_halts (d : Decoder) :
    Halts d.joinLines fun r =>
      (d.file ≠ [] → r.2.2.file.length < d.file.length) ∧
      lines r.2.2.file <:+ lines d.file ∧ r.2.2.file.length ≤ d.file.length ∧
      r.2.2.notified = d.notified ∧
      r.1.length + r.2.2.preLine.length + r.2.1.length + r.2.2.file.length ≤ d.left := by
  refine halts_loop
    (fun s => s.2.file.length ≤ d.file.length ∧ lines s.2.file <:+ lines d.file ∧
      s.2.notified = d.notified ∧ s.1.length + s.2.left ≤ d.left)
    (fun s => s.2.file.length) ?_ ⟨Nat.le_refl _, suffix_rfl, rfl, by simp⟩
  rintro ⟨ret, d'⟩ ⟨hf, hln, hnt, hlf⟩
  have hlen := getline_length d'.file
  have hsf := (lines_getline_suffix d'.file).trans hln
  have hrd : d.file ≠ [] → (getline d'.file).2.length < d.file.length := by
    intro hne
    by_cases hnl : d'.file = []
    · rw [hnl]
      exact length_pos_iff.2 hne
    · exact (getline_shorter hnl).trans_le hf
  simp only [left] at hlf hf
  have hle : (getline d'.file).2.length ≤ d.file.length := by omega
  have hsm : ret.length + d'.preLine.length + (getline d'.file).1.length +
      (getline d'.file).2.length ≤ d.file.length + d.preLine.length := by omega
  dsimp only
  split
  case isTrue => exact halts_pure ⟨hrd, hsf, hle, hnt, hsm⟩
  case isFalse hrs =>
    have hsh : (getline d'.file).2.length < d'.file.length := by
      refine getline_shorter ?_
      rintro hnl
      exact hrs (by rw [hnl]; rfl)
    split
    · refine halts_pure ⟨⟨hle, hsf, hnt, ?_⟩, hsh⟩
      simp only [left]
      omega
    · split
      · refine halts_pure ⟨⟨hle, hsf, hnt, ?_⟩, hsh⟩
        simp only [left, length_append, length_tail, length_nil]
        omega
      · split
        · exact halts_pure ⟨hrd, hsf, hle, hnt, hsm⟩
        · refine halts_pure ⟨⟨hle, hsf, hnt, ?_⟩, hsh⟩
          simp only [left]
          omega

theorem trim_nil : trim [] = [] := rfl

theorem getNonEmptyLineV30_halts (hv : v ≠ .v21) (d : Decoder) :
    Halts d.getNonEmptyLineV30 fun r => Consumes v d r.1 r.2 := by
  refine (joinLines_halts d).bind ?_
  rintro ⟨ret, _, d'⟩ ⟨hrd, hln, hf, hnt, hlf⟩
  have hk : d.notified <+: d'.notified := hnt ▸ prefix_rfl
  refine halts_pure ⟨⟨hf, ?_, hln, hk⟩, fun hne => ?_, hrd, fun h => absurd h hv⟩
  · simp only [left] at hlf ⊢
    omega
  · -- a result that is not empty is made of characters that are not left
    have hu : 0 < ret.length + d'.preLine.length := by
      by_contra hz
      have hrt : ret = [] := length_eq_zero_iff.1 (by omega)
      have hp : d'.preLine = [] := length_eq_zero_iff.1 (by omega)
      exact hne (by simp [hrt, hp, trim_nil])
    simp only [left] at hlf ⊢
    omega

theorem getNonEmptyLine_halts (v : Version) (d : Decoder) :
    Halts (d.getNonEmptyLine v) fun r => Consumes v d r.1 r.2 := by
  unfold getNonEmptyLine
  split
  case isTrue hv =>
    subst hv
    exact getNonEmptyLineV21_halts d
  case isFalse hv => exact getNonEmptyLineV30_halts hv d

/-! ## Cards -/

theorem closed_of_suffix {platform : Platform} {ls ls' : List StdString} (h : Closed platform ls)
    (hs : ls' <:+ ls) : Closed platform ls' := by
  induction ls with
  | nil => exact suffix_nil.1 hs ▸ trivial
  | cons line rest ih =>
    obtain rfl | hr := suffix_cons_iff.1 hs
    · exact h
    · exact ih h.2 hr

section Cards

variable (platform : Platform) (v : Version)

theorem parseItem_halts (d : Decoder) (hcl : v = .v21 → Closed platform (lines d.file)) :
    Halts (d.parseItem platform v) fun r => Shrinks d r.2 ∧ (r.1 → r.2.left < d.left) := by
  refine (getNonEmptyLine_halts v d).bind ?_
  rintro ⟨line, d'⟩ ⟨hd, hu, -, ho⟩
  dsimp only at hu ho ⊢
  unfold parseLine
  split
  case isTrue => exact halts_pure ⟨hd, fun h => absurd h Bool.false_ne_true⟩
  case isFalse hl =>
    split
    case h_1 => exact halts_pure ⟨hd.fail, fun h => absurd h Bool.false_ne_true⟩
    case h_2 p hbd =>
      dsimp only
      split
      · exact halts_pure ⟨hd, fun h => absurd h Bool.false_ne_true⟩
      · split
        · refine halts_pure ?_
          unfold dealAgent
          split
          · exact ⟨hd.fail, fun _ => hu hl⟩
          · exact ⟨hd.notify _, fun _ => hu hl⟩
        · have he : v = .v21 → p.form = .base64 →
              ∃ line ∈ lines d'.file, endsBase64 .v21 line := by
            rintro rfl hf
            obtain ⟨_, hr, rfl⟩ := ho rfl hl
            refine (closed_of_suffix (hcl rfl) hr).1 ?_
            simp [opensBase64, hbd, hf]
          refine (dealRawDataValue_halts platform v p d' he).bind fun d'' hd'' => ?_
          exact halts_pure ⟨hd.trans hd'', fun _ => hd''.left.trans_lt (hu hl)⟩

theorem parseItems_halts (d : Decoder) (hcl : v = .v21 → Closed platform (lines d.file)) :
    Halts (d.parseItems platform v) (Shrinks d) := by
  refine halts_loop (Shrinks d) left ?_ (.refl d)
  intro d' hd
  refine (parseItem_halts platform v d' fun hv => closed_of_suffix (hcl hv) hd.lines).bind ?_
  rintro ⟨_, _⟩ ⟨hd'', hu⟩
  dsimp only
  split
  case isTrue hm => exact halts_pure ⟨hd.trans hd'', hu hm.1⟩
  case isFalse => exact halts_pure (hd.trans hd'')

theorem readBegin_halts (d : Decoder) :
    Halts (d.readBegin v) fun r =>
      Shrinks d r.2 ∧ (d.file ≠ [] → r.2.file.length < d.file.length) := by
  refine (getNonEmptyLine_halts v d).bind ?_
  rintro ⟨_, _⟩ hd
  dsimp only
  split
  · exact halts_pure ⟨hd.shrinks, hd.read⟩
  · split <;> exact halts_pure ⟨hd.shrinks, hd.read⟩

theorem skipEmptyLines_halts (d : Decoder) : Halts d.skipEmptyLines (Shrinks d) := by
  refine halts_loop (Shrinks d) (fun d' => d'.file.length) ?_ (.refl d)
  intro d' hd
  split
  case isTrue => exact halts_pure hd
  case isFalse hf =>
    split
    · exact halts_pure hd
    · exact halts_pure ⟨hd.trans (shrinks_getline d'), getline_shorter hf⟩

theorem decodeOne_halts (d : Decoder) (hcl : v = .v21 → Closed platform (lines d.file)) :
    Halts (d.decodeOne platform v) fun r =>
      Shrinks d r.2 ∧ (d.file ≠ [] → r.2.file.length < d.file.length) := by
  refine (readBegin_halts v
    (.notify { d with errorCode := .success } .oneContactStarted)).bind ?_
  rintro ⟨_, d₁⟩ ⟨hd₁, hr⟩
  -- resetting the error code and the notification change nothing that is left to read
  have h₀ : Shrinks d (.notify { d with errorCode := .success } .oneContactStarted) :=
    ⟨Nat.le_refl _, Nat.le_refl _, suffix_rfl, prefix_append _ _⟩
  have h₁ : Shrinks d d₁ := h₀.trans hd₁
  have hr₁ : d.file ≠ [] → d₁.file.length < d.file.length := hr
  dsimp only
  split
  · exact halts_pure ⟨h₁.fail, hr₁⟩
  · refine (parseItems_halts platform v d₁ fun hv =>
      closed_of_suffix (hcl hv) h₁.lines).bind fun d₂ h₂ => ?_
    have h₁₂ := h₁.trans h₂
    split
    · exact halts_pure ⟨h₁₂, fun hne => h₂.file.trans_lt (hr₁ hne)⟩
    · refine (skipEmptyLines_halts (d₂.notify .oneContactEnded)).bind fun d₃ h₃ => ?_
      have h₂₃ : Shrinks d₂ d₃ := ((Shrinks.refl d₂).notify _).trans h₃
      exact halts_pure
        ⟨h₁₂.trans h₂₃, fun hne => (h₂.trans h₂₃).file.trans_lt (hr₁ hne)⟩

theorem decodeCards_halts (d : Decoder) (hcl : v = .v21 → Closed platform (lines d.file)) :
    Halts (d.decodeCards platform v) (Shrinks d) := by
  refine halts_loop (Shrinks d) (fun d' => d'.file.length) ?_ (.refl d)
  intro d' hd
  split
  case isTrue => exact halts_pure hd
  case isFalse hf =>
    refine (decodeOne_halts platform v d' fun hv => closed_of_suffix (hcl hv) hd.lines).bind ?_
    rintro ⟨more, _⟩ ⟨hd'', hr⟩
    cases more with
    | true => exact halts_pure ⟨hd.trans hd'', hr hf⟩
    | false => exact halts_pure (hd.trans hd'')

end Cards

end Decoder

/-- An import of any version ends; in version 2.1 if every base64 text does. -/
theorem decode_halts (platform : Platform) (v : Version) (file : StdString)
    (hcl : v = .v21 → Closed platform (lines file)) :
    Halts (decode platform v file) fun d => d.notified.getLast? = some .ended := by
  refine (decodeCards_halts platform v _ hcl).bind fun d _ => halts_pure ?_
  simp [notify]

section Reports

variable {platform : Platform} {v : Version} {d₁ d₂ : Decoder}

theorem parseItems_reports (hcl : v = .v21 → Closed platform (lines d₂.file))
    (hit : Yields (d₁.parseItem platform v) (more, d₂)) :
    Halts (d₁.parseItems platform v) (Decoder.Shrinks d₂) := by
  by_cases hm : more ∧ d₂.errorCode = .success
  · refine .loop_again (hit.bind ?_) (parseItems_halts platform v d₂ hcl)
    dsimp only
    rw [if_pos hm]
    exact yields_pure _
  · refine ⟨d₂, .loop_done (hit.bind ?_), .refl d₂⟩
    dsimp only
    rw [if_neg hm]
    exact yields_pure _

theorem decodeOne_reports {notified : List Event}
    (hb : Yields (Decoder.readBegin v { file, notified := notified ++ [.oneContactStarted] })
      (true, d₁)) (hit : Halts (d₁.parseItems platform v) (Decoder.Shrinks d₂)) :
    Halts (Decoder.decodeOne platform v { file, notified }) fun r => Decoder.Shrinks d₂ r.2 := by
  refine .bind ⟨_, hb, rfl⟩ ?_
  rintro _ rfl
  refine hit.bind fun d₃ h₃ => ?_
  split
  · exact halts_pure h₃
  · refine (skipEmptyLines_halts (d₃.notify .oneContactEnded)).bind fun d₄ h₄ => ?_
    exact halts_pure ((h₃.notify _).trans h₄)

theorem decodeCards_reports (hf : d₁.file ≠ []) (hcl : v = .v21 → Closed platform (lines d₂.file))
    (ho : Halts (d₁.decodeOne platform v) fun r => Decoder.Shrinks d₂ r.2) :
    Halts (d₁.decodeCards platform v) (Decoder.Shrinks d₂) := by
  obtain ⟨⟨again, d₃⟩, hy, h₃⟩ := ho
  cases again with
  | true =>
    have hr := decodeCards_halts platform v d₃ fun hv =>
      closed_of_suffix (hcl hv) h₃.lines
    refine .loop_again ?_ (hr.mono fun d hd => h₃.trans hd)
    rw [if_neg hf]
    exact hy.bind (yields_pure _)
  | false =>
    refine ⟨d₃, .loop_done ?_, h₃⟩
    rw [if_neg hf]
    exact hy.bind (yields_pure _)

theorem decode_reports (hf : file ≠ []) (hcl : v = .v21 → Closed platform (lines file))
    (hb : Yields (Decoder.readBegin v { file, notified := [.started, .oneContactStarted] })
      (true, d₁)) (hit : Yields (d₁.parseItem platform v) (more, d₂)) :
    Halts (decode platform v file) fun d => d₂.notified <+: d.notified := by
  have h₁ := ((readBegin_halts v _).holds hb).1
  have hcl₁ : v = .v21 → Closed platform (lines d₁.file) :=
    fun hv => closed_of_suffix (hcl hv) h₁.lines
  have h₂ := ((parseItem_halts platform v d₁ hcl₁).holds hit).1
  have hcl₂ : v = .v21 → Closed platform (lines d₂.file) :=
    fun hv => closed_of_suffix (hcl₁ hv) h₂.lines
  have ho : Halts (decodeOne platform v { file, notified := [.started] })
      fun r => Decoder.Shrinks d₂ r.2 :=
    decodeOne_reports hb (parseItems_reports hcl₂ hit)
  have hcr := decodeCards_reports hf hcl₂ ho
  exact hcr.bind fun d hd => halts_pure (hd.notify .ended).notified

end Reports

/-- The first line with text in it begins a card. -/
def OpensCard (file : StdString) : Prop :=
  ∃ d, Yields (Decoder.readBegin .v21 { file, notified := [.started, .oneContactStarted] }) (true, d)

theorem length_trim_le (str : StdString) : (trim str).length ≤ str.length := by
  have he := List.rdropWhile_prefix isSpace (str.dropWhile isSpace)
  exact he.length_le.trans (dropWhile_suffix isSpace).length_le

theorem getBase64_diverges (value : StdString) (d : Decoder)
    (ho : ∀ line ∈ lines d.file, ¬Decoder.endsBase64 .v21 line)
    (hs : value.length + d.file.length ≤ MAX_VCARD_INPUT_SIZE) :
    Diverges (d.getBase64 .v21 value) := by
  refine diverges_loop
    (fun sd => (∀ line ∈ lines sd.2.file, ¬endsBase64 .v21 line) ∧
      sd.1.length + sd.2.file.length ≤ MAX_VCARD_INPUT_SIZE) ?_ ⟨ho, hs⟩
  rintro ⟨str, d⟩ _ ⟨ho, hs⟩ hn
  -- at the end of the file the line is empty, which does not end the text either
  have hp : ¬endsBase64 .v21 (d.peekLine .v21) := by
    by_cases hf : d.file = []
    · have hln : d.peekLine .v21 = [] := by simp [peekLine, hf, getline]
      rw [hln]
      decide
    · refine ho _ ?_
      rw [lines_eq_cons hf]
      exact mem_cons_self
  have hle := getline_length d.file
  have ht := length_trim_le (d.peekLine .v21)
  have hln : d.peekLine .v21 = (getline d.file).1 := rfl
  rw [hln] at ht
  have hs' : (str ++ trim (d.peekLine .v21)).length + (getline d.file).2.length ≤
      MAX_VCARD_INPUT_SIZE := by
    rw [length_append, hln]
    dsimp only at hs
    omega
  dsimp only at hn
  rw [if_neg hp, if_neg (by omega)] at hn
  refine ⟨_, hn.unique (yields_pure _), fun line hm => ?_, hs'⟩
  exact ho line ((lines_getline_suffix d.file).subset hm)

theorem parseItem_openPhoto_diverges (platform : Platform) (notified : List Event) :
    Diverges (Decoder.parseItem platform .v21
      { file := ascii "PHOTO;ENCODING=BASE64:AAAA\n", notified }) := by
  have hl : Yields (getNonEmptyLine .v21 { file := ascii "PHOTO;ENCODING=BASE64:AAAA\n", notified })
      (ascii "PHOTO;ENCODING=BASE64:AAAA", { file := [], notified }) := ⟨1, rfl⟩
  refine hl.bind_diverges ?_
  have hs : (ascii "AAAA").length + 0 ≤ MAX_VCARD_INPUT_SIZE := by decide
  have hb64 := getBase64_diverges (ascii "AAAA") { file := [], notified } (by simp [lines]) hs
  exact .bind (.bind hb64 _) _

theorem decode_openPhoto_diverges (platform : Platform) :
    Diverges (decode platform .v21 (ascii "BEGIN:VCARD\nPHOTO;ENCODING=BASE64:AAAA\n")) := by
  have hb : Yields (readBegin .v21
      { file := ascii "BEGIN:VCARD\nPHOTO;ENCODING=BASE64:AAAA\n",
        notified := [.started, .oneContactStarted] })
      (true, { file := ascii "PHOTO;ENCODING=BASE64:AAAA\n",
               notified := [.started, .oneContactStarted] }) := ⟨1, by decide +kernel⟩
  refine .bind (.loop (.bind ?_ _)) _
  refine hb.bind_diverges (.bind (.loop (.bind ?_ _)) _)
  exact parseItem_openPhoto_diverges platform [.started, .oneContactStarted]

end TelephonyCore.Vcard
