import TelephonyCore.Vcard.Constructor
import TelephonyCore.Vcard.Termination

/-!
# Reading lines that end with a carriage return

`getline` stops at a newline, so that every line of a written card comes with the carriage return
before it. Version 2.1 trims each line but the last of the file. The later versions trim a line only
when it has been joined with the lines that continue it, and hand on the line after it.
-/

namespace TelephonyCore.Vcard

open Codec Lib Fuelled List Decoder

/-! ## Blanks -/

variable {str : StdString}

theorem trim_eq_self (hh : ∀ c ∈ str.head?, ¬isSpace c)
    (hl : ∀ c ∈ str.getLast?, ¬isSpace c) : trim str = str := by
  have hdr : str.dropWhile isSpace = str := by
    cases str with
    | nil => rfl
    | cons c rest => exact dropWhile_cons_of_neg (hh c rfl)
  rw [trim, hdr, rdropWhile_eq_self_iff]
  intro hne
  exact hl _ (getLast?_eq_some_getLast hne)

variable {line : StdString}

theorem not_isSpace_head? {c : UInt8} (h : line.head? = some c) (hc : ¬isSpace c) :
    ∀ d ∈ line.head?, ¬isSpace d := by
  intro d hd
  rw [h] at hd
  exact Option.some.inj hd ▸ hc

theorem head?_of_trim (h : trim str = str) : ∀ c ∈ str.head?, ¬isSpace c := by
  intro c hc hb
  obtain ⟨rest, rfl⟩ := head?_eq_some_iff.1 hc
  have hle := length_trim_le rest
  have hr : trim (c :: rest) = trim rest := by
    rw [trim, trim, dropWhile_cons_of_pos hb]
  rw [← hr, h, length_cons] at hle
  omega

theorem getLast?_of_trim (h : trim str = str) : ∀ c ∈ str.getLast?, ¬isSpace c := by
  intro c hc hb
  have hdr : str.dropWhile isSpace = str := by
    cases str with
    | nil => rfl
    | cons d rest => exact dropWhile_cons_of_neg (head?_of_trim h d rfl)
  rw [trim, hdr, rdropWhile_eq_self_iff] at h
  have hne : str ≠ [] := by
    rintro rfl
    cases hc
  have hl : c = str.getLast hne := by
    rw [getLast?_eq_some_getLast] at hc
    exact (Option.some.inj hc).symm
  exact h hne (hl ▸ hb)

theorem trim_carriage_return (hne : line ≠ []) (h : trim line = line) :
    trim (line ++ [13]) = line := by
  have hdr : (line ++ [13]).dropWhile isSpace = line ++ [13] := by
    cases line with
    | nil => exact absurd rfl hne
    | cons c rest => exact dropWhile_cons_of_neg (head?_of_trim h c rfl)
  rw [trim, hdr, rdropWhile_concat_pos _ _ _ (by decide), rdropWhile_eq_self_iff]
  intro _
  exact getLast?_of_trim h _ (getLast?_eq_some_getLast hne)

theorem trim_property {name value : StdString}
    (hh : ∀ c ∈ (name ++ DATA_SEPARATOR ++ value).head?, ¬isSpace c)
    (hl : ∀ c ∈ value.getLast?, ¬isSpace c) :
    trim (name ++ DATA_SEPARATOR ++ value) = name ++ DATA_SEPARATOR ++ value := by
  refine trim_eq_self hh fun c hc => ?_
  by_cases hn : value = []
  · have hdt : DATA_SEPARATOR = [58] := by decide
    rw [hn, append_nil, hdt, getLast?_concat] at hc
    exact Option.some.inj hc ▸ (by decide : ¬isSpace 58)
  · rw [getLast?_append_of_ne_nil _ hn] at hc
    exact hl c hc

/-! ## Physical lines -/

theorem END_OF_LINE_eq : END_OF_LINE = [13, 10] := by decide

theorem physical_cons (line : StdString) (ls : List StdString) :
    physical (line :: ls) = (line ++ [13]) ++ 10 :: physical ls := by
  simp [physical, END_OF_LINE_eq]

theorem physical_append (ls ls' : List StdString) :
    physical (ls ++ ls') = physical ls ++ physical ls' := flatMap_append

theorem physical_ne_nil (line : StdString) (ls : List StdString) : physical (line :: ls) ≠ [] := by
  simp [physical_cons]

theorem newline_not_mem (h : 10 ∉ line) : 10 ∉ line ++ [13] := by
  simpa using h

theorem getline_physical (h : 10 ∉ line) (ls : List StdString) :
    getline (physical (line :: ls)) = (line ++ [13], physical ls) := by
  rw [physical_cons, getline_append (newline_not_mem h)]

theorem getLineV21_physical (h : 10 ∉ line) (ls : List StdString) (notified : List Event) :
    Decoder.getLine .v21 { file := physical (line :: ls), notified } =
      (line ++ [13], { file := physical ls, notified }) := by
  rw [getLine, if_neg (by simp)]
  rw [getline_physical h]

theorem peekLineV21_physical (h : 10 ∉ line) (ls : List StdString) (notified : List Event) :
    Decoder.peekLine .v21 { file := physical (line :: ls), notified } = line ++ [13] := by
  rw [peekLine_eq, getLineV21_physical h]

variable {ls : List StdString} {v : Version}

theorem lines_physical (h : ∀ line ∈ ls, 10 ∉ line) : lines (physical ls) = ls.map (· ++ [13]) := by
  induction ls with
  | nil => rfl
  | cons line ls ih =>
    rw [physical_cons, lines_append (newline_not_mem (h line mem_cons_self)),
      ih fun l hl => h l (mem_cons_of_mem line hl)]
    rfl

/-! ## The next line -/

theorem not_folded (hh : ∀ c ∈ line.head?, ¬isSpace c) :
    ¬((line ++ [13]).head? = some 32 ∨ (line ++ [13]).head? = some 9) := by
  cases line with
  | nil => decide
  | cons c rest =>
    have hc := hh c rfl
    show ¬(some c = some 32 ∨ some c = some 9)
    rintro (heq | heq)
    · exact hc (Option.some.inj heq ▸ by decide)
    · exact hc (Option.some.inj heq ▸ by decide)

section NextLine

variable {line : StdString} {ls : List StdString} {pre : StdString}

theorem getNonEmptyLineV21_physical (h : 10 ∉ line) (hne : line ≠ []) (htm : trim line = line)
    (hls : ls ≠ []) (notified : List Event) :
    Yields (Decoder.getNonEmptyLine .v21 { file := physical (line :: ls), notified })
      (line, { file := physical ls, notified }) := by
  have hr : physical ls ≠ [] := by
    obtain ⟨next, more, rfl⟩ := exists_cons_of_ne_nil hls
    exact physical_ne_nil next more
  have htr := trim_carriage_return hne htm
  refine Yields.loop_done ?_
  rw [getline_physical h]
  dsimp only
  rw [if_neg hr, htr, if_pos hne]
  exact yields_pure _

theorem getNonEmptyLineV30_physical (hv : v ≠ .v21) (hp : trim pre ≠ []) (h : 10 ∉ line)
    (hh : ∀ c ∈ line.head?, ¬isSpace c) (ls : List StdString) (notified : List Event) :
    Yields (Decoder.getNonEmptyLine v { file := physical (line :: ls), preLine := pre, notified })
      (trim pre, { file := physical ls, preLine := line ++ [13], notified }) := by
  have hl : line ++ [13] ≠ [] := by simp
  have hj : Yields (joinLines { file := physical (line :: ls), preLine := pre, notified })
      ([], line ++ [13], { file := physical ls, preLine := pre, notified }) := by
    refine .loop_done ?_
    dsimp only
    rw [getline_physical h]
    -- the loop is left at the end of the file too
    by_cases he : physical ls = []
    · rw [if_pos he]
      exact yields_pure _
    · rw [if_neg he, if_neg hl, if_neg (not_folded hh), if_pos (.inr hp)]
      exact yields_pure _
  unfold getNonEmptyLine
  rw [if_neg hv]
  exact hj.bind (yields_pure _)

theorem getNonEmptyLineV30_first {r : StdString × Decoder} {next : StdString}
    {notified : List Event} (hv : v ≠ .v21) (h : 10 ∉ line) (hh : ∀ c ∈ line.head?, ¬isSpace c)
    (hr : Yields (Decoder.getNonEmptyLine v
      { file := physical (next :: ls), preLine := line ++ [13], notified }) r) :
    Yields (Decoder.getNonEmptyLine v { file := physical (line :: next :: ls), notified }) r := by
  unfold getNonEmptyLine at hr ⊢
  rw [if_neg hv] at hr ⊢
  obtain ⟨_, hj, hfn⟩ := yields_of_bind hr
  refine .bind (.loop_again ?_ hj) hfn
  have hl : line ++ [13] ≠ [] := by simp
  have hfs : ¬(([] : StdString) ≠ [] ∨ trim [] ≠ []) := by decide
  dsimp only
  rw [getline_physical h]
  rw [if_neg (physical_ne_nil next ls), if_neg hl, if_neg (not_folded hh), if_neg hfs]
  exact yields_pure _

end NextLine

/-! ## A card -/

def beginLine := ascii "BEGIN:VCARD"
def endLine := ascii "END:VCARD"

def card (ls : List StdString) : StdString := physical (beginLine :: ls ++ [endLine])

/-- The later versions have taken the next line in hand. -/
def afterBegin (v : Version) (line : StdString) (ls : List StdString) : Decoder :=
  if v = .v21 then
    { file := physical (line :: ls), notified := [.started, .oneContactStarted] }
  else
    { file := physical ls, preLine := line ++ [13], notified := [.started, .oneContactStarted] }

theorem readBegin_physical (v : Version) {line : StdString} (ls : List StdString)
    (h : 10 ∉ line) (hh : ∀ c ∈ line.head?, ¬isSpace c) :
    Yields (Decoder.readBegin v
        { file := physical (beginLine :: line :: ls), notified := [.started, .oneContactStarted] })
      (true, afterBegin v line ls) := by
  have hb : (10 : UInt8) ∉ beginLine := by decide
  have hl : Yields (getNonEmptyLine v
      { file := physical (beginLine :: line :: ls), notified := [.started, .oneContactStarted] })
      (beginLine, afterBegin v line ls) := by
    by_cases hv : v = .v21
    · subst hv
      exact getNonEmptyLineV21_physical hb (by decide) (by decide) (cons_ne_nil _ _) _
    · have ht : trim (beginLine ++ [13]) = beginLine := by decide
      rw [afterBegin, if_neg hv]
      have hf : beginLine.head? = some 66 := rfl
      refine getNonEmptyLineV30_first hv hb (not_isSpace_head? hf (by decide)) ?_
      have hp : trim (beginLine ++ [13]) ≠ [] := by
        decide
      have hn := getNonEmptyLineV30_physical hv hp h hh ls [.started, .oneContactStarted]
      rwa [ht] at hn
  refine hl.bind ?_
  exact yields_pure _

theorem closed_concat {platform : Platform} (ls : List StdString) {last : StdString}
    (he : Decoder.endsBase64 .v21 last) (ho : ¬opensBase64 platform last) :
    Closed platform (ls ++ [last]) := by
  induction ls with
  | nil => exact ⟨fun h => absurd h ho, trivial⟩
  | cons line ls ih => exact ⟨fun _ => ⟨last, by simp, he⟩, ih⟩

theorem closed_card (platform : Platform) (h : ∀ line ∈ ls, 10 ∉ line) :
    Closed platform (lines (card ls)) := by
  have hnl : ∀ line ∈ beginLine :: ls ++ [endLine], 10 ∉ line := by
    intro line hl
    obtain hm | hm := mem_append.1 hl
    · obtain rfl | hm := mem_cons.1 hm
      · decide
      · exact h line hm
    · rw [mem_singleton.1 hm]
      decide
  have ho : opensBase64 platform (endLine ++ [13]) = false := rfl
  rw [card, lines_physical hnl, map_append]
  exact closed_concat _ (by decide) (by rw [ho]; decide)

end TelephonyCore.Vcard
