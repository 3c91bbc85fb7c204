import TelephonyCore.Vcard.Reading

/-!
# Values without an encoding in version 2.1

A property that is not encoded goes on over the physical lines behind it that begin with a blank.
`DealV21Value` puts the value before the first of them and is left with an empty string when there
is none: a value that is not continued is lost.
-/

namespace TelephonyCore.Vcard

open Codec Lib Fuelled List Decoder

/-- The line continues a value of version 2.1. -/
def Continues (line : StdString) : Prop :=
  line.head? = some 32 ∧ ¬contains (toUpper line) (ascii "END:VCARD")

instance (line : StdString) : Decidable (Continues line) :=
  inferInstanceAs (Decidable (_ ∧ ¬_))

/-- The file behind the property: the lines that continue it, and the rest. -/
def continued (ls : List StdString) (rest : StdString) : StdString :=
  ls.flatMap (· ++ [10]) ++ rest

variable {ls : List StdString} {rest rawValue : StdString} {d : Decoder}

theorem dealV21Value_loop (rawValue : StdString) (d : Decoder) (hls : ∀ l ∈ ls, 10 ∉ l ∧ Continues l)
    (hr : ¬Continues (getline rest).1) (str : StdString) :
    Yields (.loop (fun (str, d) =>
      let line := Decoder.peekLine .v21 d
      if line = [] ∨ line.head? ≠ some 32 ∨ contains (toUpper line) (ascii "END:VCARD") then
        pure (.inr (str, d))
      else
        let str := if str = [] then rawValue else str
        pure (.inl (str ++ line.tail, (Decoder.getLine .v21 d).2)))
      (str, { d with file := continued ls rest }))
      (ls.foldl (fun str line => (if str = [] then rawValue else str) ++ line.tail) str,
        { d with file := rest }) := by
  induction ls generalizing str with
  | nil =>
    refine .loop_done ?_
    have hs : (getline rest).1 = [] ∨ (getline rest).1.head? ≠ some 32 ∨
        contains (toUpper (getline rest).1) (ascii "END:VCARD") := by
      by_contra h
      simp only [not_or, not_not] at h
      exact hr ⟨h.2.1, h.2.2⟩
    simp only [peekLine, ne_eq, not_true, false_and, if_false, continued, flatMap_nil, nil_append]
    rw [if_pos hs]
    exact yields_pure _
  | cons line ls ih =>
    obtain ⟨hnl, hh, he⟩ := hls line mem_cons_self
    have hf : getline (continued (line :: ls) rest) = (line, continued ls rest) := by
      rw [continued, flatMap_cons, append_assoc, append_assoc]
      exact getline_append hnl _
    have hgo : ¬(line = [] ∨ line.head? ≠ some 32 ∨ contains (toUpper line) (ascii "END:VCARD")) := by
      rintro (rfl | hne | hc)
      · cases hh
      · exact hne hh
      · exact he hc
    refine .loop_again ?_ (ih (fun l hl => hls l (mem_cons_of_mem line hl)) _)
    simp only [peekLine, getLine, ne_eq, not_true, false_and, if_false, hf]
    rw [if_neg hgo]
    exact yields_pure _

theorem foldl_continued (str : StdString) (h : str = [] → rawValue = []) :
    ls.foldl (fun str line => (if str = [] then rawValue else str) ++ line.tail) str =
      str ++ ls.flatMap tail := by
  induction ls generalizing str with
  | nil => exact (append_nil str).symm
  | cons line ls ih =>
    have hs : (if str = [] then rawValue else str) = str := by
      split
      next hn => rw [h hn, hn]
      next => rfl
    rw [foldl_cons, hs, ih _ fun hn => h (append_eq_nil_iff.1 hn).1, flatMap_cons, append_assoc]

theorem dealV21Value_continued (rawValue : StdString) (hls : ∀ l ∈ ls, 10 ∉ l ∧ Continues l)
    (hr : ¬Continues (getline rest).1) (hf : d.file = continued ls rest) :
    Yields (d.dealV21Value .v21 rawValue)
      (if ls = [] then [] else rawValue ++ ls.flatMap tail, { d with file := rest }) := by
  have hlp := dealV21Value_loop rawValue d hls hr []
  rw [← hf] at hlp
  cases ls with
  | nil => exact hlp
  | cons line ls =>
    rw [foldl_cons, if_pos rfl, foldl_continued _ fun hn => (append_eq_nil_iff.1 hn).1,
      append_assoc, ← flatMap_cons] at hlp
    exact hlp

theorem dealPlain_text {platform : Platform} {p : Property} {text : StdString} {d' : Decoder}
    (hc : ∀ charset text, platform.iconv charset text = some text)
    (hv : Yields (d.dealV21Value .v21 p.rawData.rawValue) (text, d')) (toCharset : StdString) :
    Yields (d.dealPlain platform .v21 p toCharset)
      (if text.length > MAX_VCARD_INPUT_SIZE then d'.fail
      else d'.notify (.rawDataCreated { p.rawData with values := [text] })) := by
  refine hv.bind ?_
  by_cases hl : text.length > MAX_VCARD_INPUT_SIZE
  · simp only [Platform.convertCharset, if_pos hl]
    exact yields_pure _
  · simp only [Platform.convertCharset, if_neg hl, hc]
    exact yields_pure _

/-- **Unencoded values in version 2.1** are stored exactly when they go on over further lines or
are empty, within the size that is converted. -/
theorem plain_value_iff (platform : Platform) (p : Property) (d : Decoder) (ls : List StdString)
    (rest : StdString)
    (hname : toUpper p.rawData.name ∉ [VCARD_TYPE_ADR, VCARD_TYPE_ORG, VCARD_TYPE_N, VCARD_TYPE_FN])
    (hencoding : p.currentEncoding = DEFAULT_ENCODING)
    (hcopies : ∀ charset text, platform.iconv charset text = some text)
    (hls : ∀ l ∈ ls, 10 ∉ l ∧ Continues l) (hrest : ¬Continues (getline rest).1)
    (hfile : d.file = continued ls rest) :
    Yields (d.dealRawDataValue platform .v21 p) (.notify { d with file := rest }
        (.rawDataCreated { p.rawData with values := [p.rawData.rawValue ++ ls.flatMap tail] })) ↔
      (ls = [] → p.rawData.rawValue = []) ∧
        (p.rawData.rawValue ++ ls.flatMap tail).length ≤ MAX_VCARD_INPUT_SIZE := by
  have hfr : p.form = .plain := by
    simp only [mem_cons, not_or] at hname
    simp only [Property.form, hname, hencoding, false_and]
    decide
  have hva := dealV21Value_continued p.rawData.rawValue hls hrest hfile
  have hdl := dealPlain_text hcopies hva
  have hsm : (if ls = [] then [] else p.rawData.rawValue ++ ls.flatMap tail) =
      p.rawData.rawValue ++ ls.flatMap tail ↔ (ls = [] → p.rawData.rawValue = []) := by
    split
    next hnl => simp [hnl]
    next hne => simp [hne]
  generalize (if ls = [] then [] else p.rawData.rawValue ++ ls.flatMap tail) = text at hdl hsm
  unfold dealRawDataValue
  simp only [hfr]
  constructor
  · intro hst
    have heq := (hdl _).unique hst
    split at heq
    next hln =>
      have hnn := congrArg notified heq
      simp [notify, fail] at hnn
    next hsh =>
      have hvl : text = p.rawData.rawValue ++ ls.flatMap tail := by
        simpa [notify] using heq
      rw [hvl, Nat.not_lt] at hsh
      exact ⟨hsm.1 hvl, hsh⟩
  · rintro ⟨hm, hle⟩
    rw [hsm.2 hm, if_neg (Nat.not_lt.2 hle)] at hdl
    exact hdl _

theorem plain_value_folded :
    Yields (Decoder.dealRawDataValue copying .v21
        { rawData := { name := VCARD_TYPE_NOTE, rawValue := ascii "a" } }
        { file := continued [ascii " b"] (ascii "END:VCARD\n") })
      (.notify { file := ascii "END:VCARD\n" } (.rawDataCreated
        { name := VCARD_TYPE_NOTE, rawValue := ascii "a", values := [ascii "ab"] })) :=
  (plain_value_iff copying { rawData := { name := VCARD_TYPE_NOTE, rawValue := ascii "a" } } _
    [ascii " b"] (ascii "END:VCARD\n") (by decide +kernel) rfl (fun _ _ => rfl) (by decide +kernel)
    (by decide +kernel) rfl).2 (by decide +kernel)

/-- A note that is not continued is lost. -/
theorem plain_value_lost :
    Yields (Decoder.dealRawDataValue copying .v21
        { rawData := { name := VCARD_TYPE_NOTE, rawValue := ascii "a" } }
        { file := ascii "END:VCARD\n" })
      (.notify { file := ascii "END:VCARD\n" } (.rawDataCreated
        { name := VCARD_TYPE_NOTE, rawValue := ascii "a", values := [[]] })) :=
  ⟨2, by decide +kernel⟩

end TelephonyCore.Vcard
