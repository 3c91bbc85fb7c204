import TelephonyCore.Vcard.Reading

/-!
# A photo, written and read back

The base64 text of a photo is folded by `AddPhotoLine`. The 2.1 decoder joins it again: `GetBase64`
trims every line that begins with a blank, and the empty line after the photo stops it. The later
decoders join the lines in `GetNonEmptyLine`, before anything is trimmed, so that the carriage
return of every folded line stays inside the text, which is then no base64.

Base64 itself is taken as a pair of functions that invert each other, the decoder failing on any
other character.
-/

namespace TelephonyCore.Vcard

open Codec Lib Fuelled List

/-- A character of the base64 alphabet, or the padding. -/
def isBase64 (c : UInt8) : Bool :=
  (65 ≤ c && c ≤ 90) || (97 ≤ c && c ≤ 122) || (48 ≤ c && c ≤ 57) || c == 43 || c == 47 || c == 61

structure Base64 where
  encode : StdString → StdString
  decode : StdString → Option StdString
  encode_base64 : ∀ bytes, ∀ c ∈ encode bytes, isBase64 c
  decode_encode : ∀ bytes, decode (encode bytes) = some bytes
  decode_other : ∀ text, (∃ c ∈ text, ¬isBase64 c) → decode text = none

variable {c : UInt8} {first : StdString} {chunks : List StdString}

theorem isBase64_clean (h : isBase64 c) : ¬isSpace c ∧ c ≠ 10 ∧ (c == 58 || c == 59) = false :=
  forall_byte (P := fun c => isBase64 c → ¬isSpace c ∧ c ≠ 10 ∧ (c == 58 || c == 59) = false)
    (by decide +kernel) c h

section Lines

variable {text : StdString} {room : Nat} {first : StdString} {chunks : List StdString}

theorem CutUp.mem_first (hc : CutUp text room first chunks) (h : c ∈ first) : c ∈ text := by
  rw [← hc.joined]
  exact mem_append_left _ h

theorem CutUp.mem_chunk (hct : CutUp text room first chunks) {chunk : StdString}
    (hch : chunk ∈ chunks) (h : c ∈ chunk) : c ∈ text := by
  rw [← hct.joined]
  exact mem_append_right _ (mem_flatten.2 ⟨chunk, hch, h⟩)

end Lines

/-! ## The header -/

theorem getImageType_cases (image : StdString) :
    getImageType image = ascii "GIF" ∨ getImageType image = ascii "PNG" ∨
      getImageType image = ascii "JPEG" ∨ getImageType image = [] := by
  unfold getImageType
  split
  · exact .inl rfl
  · split
    · exact .inr (.inl rfl)
    · split
      · exact .inr (.inr (.inl rfl))
      · exact .inr (.inr (.inr rfl))

theorem buildRawData_photo (platform : Platform) (c : VCardConstructor) (image : StdString)
    (hs : (c.photoHeader (getImageType image) ++ first).length < 2 ^ 31) :
    ∃ p, buildRawData platform c.version (c.photoHeader (getImageType image) ++ first) = some p ∧
      p.rawData.name = VCARD_TYPE_PHOTO ∧ p.rawData.rawValue = first ∧ p.form = .base64 := by
  rw [buildRawData_counted platform c.version hs]
  obtain ⟨v, _⟩ := c
  obtain h | h | h | h := getImageType_cases image <;> rw [h] <;> cases v <;>
    exact ⟨_, rfl, rfl, rfl, rfl⟩

theorem head?_photoLine (c : VCardConstructor) (photoType first : StdString) :
    (c.photoHeader photoType ++ first).head? = some 80 := rfl

theorem photoLine_ne_nil (c : VCardConstructor) (photoType first : StdString) :
    c.photoHeader photoType ++ first ≠ [] := by
  intro h
  have hh := head?_photoLine c photoType first
  rw [h] at hh
  cases hh

theorem photoLine_clean (c : VCardConstructor) (image : StdString) (h : ∀ ch ∈ first, isBase64 ch) :
    10 ∉ c.photoHeader (getImageType image) ++ first ∧
      trim (c.photoHeader (getImageType image) ++ first) =
        c.photoHeader (getImageType image) ++ first ∧
      ∀ ch ∈ (c.photoHeader (getImageType image) ++ first).head?, ¬isSpace ch := by
  have hhr : (c.photoHeader (getImageType image)).contains 10 = false := by
    obtain ⟨v, _⟩ := c
    obtain h | h | h | h := getImageType_cases image <;> rw [h] <;> cases v <;> rfl
  have hhd := not_isSpace_head? (head?_photoLine c (getImageType image) first) (by decide)
  refine ⟨?_, trim_property hhd ?_, hhd⟩
  · intro hm
    obtain hm | hm := mem_append.1 hm
    · exact absurd (contains_iff_mem.2 hm) (by rw [hhr]; decide)
    · exact (isBase64_clean (h 10 hm)).2.1 rfl
  · exact fun ch hch => (isBase64_clean (h ch (mem_of_getLast? hch))).1

/-! ## Reading the photo -/

section Reading

variable {chunk : StdString}

theorem trim_chunk (h : ∀ c ∈ chunk, isBase64 c) : trim (WS ++ chunk ++ [13]) = chunk := by
  by_cases hn : chunk = []
  · subst hn
    decide
  · refine trim_carriage_return hn (trim_eq_self ?_ ?_)
    · exact fun c hc => (isBase64_clean (h c (mem_of_head? hc))).1
    · exact fun c hc => (isBase64_clean (h c (mem_of_getLast? hc))).1

theorem newline_not_mem_chunk (h : ∀ c ∈ chunk, isBase64 c) : 10 ∉ WS ++ chunk := by
  intro hm
  obtain hws | hm := mem_append.1 hm
  · exact absurd hws (by decide)
  · exact (isBase64_clean (h 10 hm)).2.1 rfl

theorem not_endsBase64_chunk (h : ∀ c ∈ chunk, isBase64 c) :
    ¬Decoder.endsBase64 .v21 (WS ++ chunk ++ [13]) := by
  have hp : (WS ++ chunk ++ [13]).any (fun c => c == 58 || c == 59) = false := by
    rw [any_append, any_append, Bool.or_eq_false_iff, Bool.or_eq_false_iff]
    refine ⟨⟨by decide, ?_⟩, by decide⟩
    rw [any_eq_false]
    intro c hc
    rw [(isBase64_clean (h c hc)).2.2]
    decide
  have hn : getUpperName (WS ++ chunk ++ [13]) = [] := by
    rw [getUpperName, hp]
    rfl
  have hh : (WS ++ chunk ++ [13]).head? = some 32 := rfl
  have ht : (getSupportType .v21).contains [] = false := by decide
  rw [Decoder.endsBase64, hn, ht, hh]
  simp

theorem getBase64_chunks (ls : List StdString) (notified : List Event)
    (hb64 : ∀ chunk ∈ chunks, ∀ c ∈ chunk, isBase64 c) :
    ∀ value, value.length + chunks.flatten.length ≤ MAX_VCARD_INPUT_SIZE →
      Yields (Decoder.getBase64 .v21 value
          { file := physical (chunks.map (WS ++ ·) ++ [] :: ls), notified })
        (value ++ chunks.flatten, { file := physical ([] :: ls), notified }) := by
  induction chunks with
  | nil =>
    intro value _
    refine .loop_done ?_
    rw [flatten_nil, append_nil]
    exact yields_pure _
  | cons chunk chunks ih =>
    intro value hs
    have hch := hb64 chunk mem_cons_self
    have hnl := newline_not_mem_chunk hch
    rw [flatten_cons, length_append] at hs
    have hr := ih (fun c hc => hb64 c (mem_cons_of_mem chunk hc)) (value ++ chunk)
      (by rw [length_append]; omega)
    rw [append_assoc] at hr
    refine .loop_again ?_ hr
    have hl : ¬(value ++ chunk).length > MAX_VCARD_INPUT_SIZE := by
      rw [length_append]
      omega
    dsimp only
    rw [map_cons, cons_append, peekLineV21_physical hnl,
      getLineV21_physical hnl, if_neg (not_endsBase64_chunk hch)]
    rw [trim_chunk hch, if_neg hl]
    exact yields_pure _

/-! ### The later versions -/

theorem flatMap_return (chunks : List StdString) :
    13 :: chunks.flatMap (· ++ [13]) = chunks.flatMap (13 :: ·) ++ [13] := by
  induction chunks with
  | nil => rfl
  | cons chunk chunks ih => simp [← ih]

theorem physical_chunks_ne_nil (chunks ls : List StdString) :
    physical (chunks.map (WS ++ ·) ++ [] :: ls) ≠ [] := by
  rw [physical_append]
  exact append_ne_nil_of_right_ne_nil _ (physical_ne_nil [] ls)

/-- A folded line is added to the text, behind the line held back if there is one. -/
theorem joinLinesFrom_folded {ls : List StdString} {notified : List Event}
    {ret preLine : StdString} {result : StdString × StdString × Decoder} (hls : physical ls ≠ [])
    (hb64 : ∀ c ∈ chunk, isBase64 c)
    (h : Yields (Decoder.joinLinesFrom (ret ++ preLine ++ (chunk ++ [13]))
      { file := physical ls, notified }) result) :
    Yields (Decoder.joinLinesFrom ret { file := physical ((WS ++ chunk) :: ls), preLine, notified })
      result := by
  refine .loop_again ?_ h
  dsimp only
  have hl : WS ++ chunk ++ [13] ≠ [] := by simp
  rw [getline_physical (newline_not_mem_chunk hb64), if_neg hls, if_neg hl, if_pos (.inl rfl)]
  exact yields_pure _

theorem joinLinesFrom_chunks {ls : List StdString} (hls : physical ls ≠ []) (notified : List Event)
    (hb64 : ∀ chunk ∈ chunks, ∀ c ∈ chunk, isBase64 c) :
    ∀ ret, ret ≠ [] → Yields (Decoder.joinLinesFrom ret
        { file := physical (chunks.map (WS ++ ·) ++ [] :: ls), notified })
      (ret ++ chunks.flatMap (· ++ [13]), [13], { file := physical ls, notified }) := by
  induction chunks with
  | nil =>
    intro ret hret
    refine .loop_done ?_
    dsimp only
    have hl : ([] : StdString) ++ [13] ≠ [] := by decide
    have hnf := @not_folded [] (by simp)
    rw [map_nil, nil_append, getline_physical not_mem_nil]
    rw [if_neg hls, if_neg hl, if_neg hnf, if_pos (.inl hret), flatMap_nil, append_nil]
    exact yields_pure _
  | cons chunk chunks ih =>
    intro ret hret
    have hr := ih (fun c hc => hb64 c (mem_cons_of_mem chunk hc)) (ret ++ [] ++ (chunk ++ [13]))
      (by simp)
    have hfm : ret ++ [] ++ (chunk ++ [13]) ++ chunks.flatMap (· ++ [13]) =
        ret ++ (chunk :: chunks).flatMap (· ++ [13]) := by simp
    rw [hfm] at hr
    exact joinLinesFrom_folded (physical_chunks_ne_nil chunks ls) (hb64 chunk mem_cons_self) hr

/-- The carriage returns of the folded lines stay in the text. -/
def rejoined (first : StdString) (chunks : List StdString) : StdString :=
  first ++ chunks.flatMap (13 :: ·)

theorem length_rejoined_le (hne : ∀ chunk ∈ chunks, chunk ≠ []) :
    (rejoined first chunks).length ≤ first.length + 2 * chunks.flatten.length := by
  rw [rejoined, length_append]
  refine Nat.add_le_add_left ?_ _
  induction chunks with
  | nil => exact Nat.zero_le _
  | cons chunk chunks ih =>
    have hp := length_pos_iff.2 (hne chunk mem_cons_self)
    have hr := ih fun c hc => hne c (mem_cons_of_mem chunk hc)
    rw [flatMap_cons, flatten_cons, length_append, length_append, length_cons]
    omega

theorem getNonEmptyLineV30_chunks {v : Version} {line : StdString} {ls : List StdString}
    (hv : v ≠ .v21) (hh : ∀ c ∈ line.head?, ¬isSpace c) (hne : line ≠ []) (htm : trim line = line)
    (hls : physical ls ≠ []) (notified : List Event)
    (hb64 : ∀ chunk ∈ chunks, ∀ c ∈ chunk, isBase64 c) (hch : ∀ chunk ∈ chunks, chunk ≠ []) :
    Yields (Decoder.getNonEmptyLine v
        { file := physical (chunks.map (WS ++ ·) ++ [] :: ls), preLine := line ++ [13], notified })
      (rejoined line chunks, { file := physical ls, preLine := [13], notified }) := by
  cases chunks with
  | nil =>
    have htr := trim_carriage_return hne htm
    have hl := getNonEmptyLineV30_physical hv (by rw [htr]; exact hne) not_mem_nil (by simp) ls
      notified
    rw [htr] at hl
    rw [rejoined, flatMap_nil, append_nil]
    exact hl
  | cons chunk chunks =>
    have hj : Yields (Decoder.joinLines
        { file := physical ((chunk :: chunks).map (WS ++ ·) ++ [] :: ls)
          preLine := line ++ [13]
          notified })
        (rejoined line (chunk :: chunks) ++ [13], [13], { file := physical ls, notified }) := by
      have hr := joinLinesFrom_chunks hls notified
        (fun c hc => hb64 c (mem_cons_of_mem chunk hc)) (line ++ [13] ++ (chunk ++ [13])) (by simp)
      have hfm : line ++ [13] ++ (chunk ++ [13]) ++ chunks.flatMap (· ++ [13]) =
          rejoined line (chunk :: chunks) ++ [13] := by
        rw [rejoined, append_assoc line (flatMap _ _), ← flatMap_return]
        simp
      rw [hfm] at hr
      exact joinLinesFrom_folded (physical_chunks_ne_nil chunks ls) (hb64 chunk mem_cons_self) hr
    have htr : trim (rejoined line (chunk :: chunks) ++ [13]) = rejoined line (chunk :: chunks) := by
      have hrn : rejoined line (chunk :: chunks) ≠ [] := by simp [rejoined]
      refine trim_carriage_return hrn (trim_eq_self ?_ fun c hc => ?_)
      · rw [rejoined, head?_append_of_ne_nil _ hne]
        exact hh
      · -- the last character is that of the last chunk
        obtain ⟨init, last, heq⟩ : ∃ init last, chunk :: chunks = init ++ [last] :=
          ⟨_, _, (dropLast_concat_getLast (cons_ne_nil chunk chunks)).symm⟩
        have hm : last ∈ chunk :: chunks := by simp [heq]
        rw [rejoined, heq, flatMap_append, flatMap_singleton, ← append_assoc,
          getLast?_append_of_ne_nil _ (cons_ne_nil _ _)] at hc
        obtain ⟨x, xs, rfl⟩ := exists_cons_of_ne_nil (hch last hm)
        exact (isBase64_clean (hb64 _ hm c (mem_of_getLast? hc))).1
    unfold Decoder.getNonEmptyLine
    rw [if_neg hv]
    refine hj.bind ?_
    dsimp only
    rw [if_neg (by simp), htr]
    exact yields_pure _

end Reading

theorem parseItem_photo (platform : Platform) {c : VCardConstructor} {image text : StdString}
    {d d' d'' : Decoder} (hs : (c.photoHeader (getImageType image) ++ first).length < 2 ^ 31)
    (hl : Yields (d.getNonEmptyLine c.version) (c.photoHeader (getImageType image) ++ first, d'))
    (ht : Yields (d'.getBase64 c.version first) (text, d'')) :
    ∃ more rawData, rawData.name = VCARD_TYPE_PHOTO ∧ rawData.bytes = platform.decodeBase64 text ∧
      Yields (d.parseItem platform c.version) (more, d''.notify (.rawDataCreated rawData)) := by
  obtain ⟨p, hbd, hnm, hva, hf⟩ := buildRawData_photo platform c image hs
  have hne := photoLine_ne_nil c (getImageType image) first
  have hu : toUpper p.rawData.name = VCARD_TYPE_PHOTO := by
    rw [hnm]
    decide
  have hvl : Yields (d'.dealRawDataValue platform c.version p) (d''.notify
      (.rawDataCreated { p.rawData with bytes := platform.decodeBase64 text })) := by
    unfold Decoder.dealRawDataValue
    rw [hf]
    refine .bind (a := (text, d'')) ?_ (yields_pure _)
    rw [hva]
    exact ht
  refine ⟨d''.file ≠ [], { p.rawData with bytes := platform.decodeBase64 text }, hnm, rfl,
    hl.bind ?_⟩
  dsimp only
  rw [Decoder.parseLine_of_value platform c.version d' hne hbd
    (by rw [hu]; exact fun h => absurd h.1 (by decide)) (by rw [hu]; decide)]
  exact hvl.bind (yields_pure _)

/-- The texts that are read back: all in version 2.1, but on one line only in the later versions. -/
def PhotoFits (c : VCardConstructor) (text photoType : StdString) : Prop :=
  c.version = .v21 ∨ text.length ≤ c.firstRoom photoType

instance (c : VCardConstructor) (text photoType : StdString) :
    Decidable (PhotoFits c text photoType) := inferInstanceAs (Decidable (_ ∨ _))

def created (events : List Event) : List VCardRawData :=
  events.filterMap fun
    | .rawDataCreated rawData => some rawData
    | _ => none

/-- `written` between the first line of a card and two more. -/
def photoCard (written next : StdString) : StdString :=
  physical [beginLine] ++ written ++ physical [next, endLine]

theorem photoCard_physical (ls : List StdString) (next : StdString) :
    photoCard (physical ls) next = card (ls ++ [next]) := by
  rw [photoCard, card, ← physical_append, ← physical_append]
  simp

section RoundTrip

variable (codec : Base64) (iconv : StdString → StdString → Option StdString)
variable (c : VCardConstructor) (image bytes : StdString)

theorem isBase64_cutUp {room : Nat} (hct : CutUp (codec.encode bytes) room first chunks) :
    (∀ ch ∈ first, isBase64 ch) ∧ ∀ chunk ∈ chunks, ∀ ch ∈ chunk, isBase64 ch :=
  ⟨fun ch hch => codec.encode_base64 bytes ch (hct.mem_first hch),
    fun _ hcu ch hch => codec.encode_base64 bytes ch (hct.mem_chunk hcu hch)⟩

variable {bytes} in
theorem PhotoFits.iff_of_later {text photoType : StdString} (hv : c.version ≠ .v21)
    (hct : CutUp text (c.firstRoom photoType) first chunks) :
    PhotoFits c text photoType ↔ chunks = [] := by
  rw [PhotoFits, or_iff_right hv]
  refine ⟨hct.unfolded, fun hn => ?_⟩
  have hj := hct.joined
  rw [hn, flatten_nil, append_nil] at hj
  exact hj ▸ hct.first_le

theorem parseItem_afterBegin {ls : List StdString} (hls : physical ls ≠ [])
    (hct : CutUp (codec.encode bytes) (c.firstRoom (getImageType image)) first chunks)
    (hbytes : bytes ≠ []) (hlimit : (codec.encode bytes).length ≤ MAX_VCARD_INPUT_SIZE) :
    ∃ more d rawData, rawData.name = VCARD_TYPE_PHOTO ∧
      (rawData.bytes = bytes ↔ PhotoFits c (codec.encode bytes) (getImageType image)) ∧
      d.notified = [.started, .oneContactStarted] ∧
      Yields ((afterBegin c.version (c.photoHeader (getImageType image) ++ first)
          (chunks.map (WS ++ ·) ++ [] :: ls)).parseItem ⟨iconv, codec.decode⟩ c.version)
        (more, .notify d (.rawDataCreated rawData)) := by
  obtain ⟨hfs, hch⟩ := isBase64_cutUp codec bytes hct
  obtain ⟨hnl, htm, hh⟩ := photoLine_clean c image hfs
  have hne := photoLine_ne_nil c (getImageType image) first
  have hs : first.length + chunks.flatten.length ≤ MAX_VCARD_INPUT_SIZE := by
    rw [← length_append, hct.joined]
    exact hlimit
  have hmax : MAX_VCARD_INPUT_SIZE < 2 ^ 28 := by decide
  have hhd : (c.photoHeader (getImageType image)).length < 2 ^ 28 := by
    have hlt := c.photoHeaderLen_lt image
    have hcp : VCardConstructor.firstLineCap = 74 := by decide
    have hle := c.length_photoHeader_le (getImageType image)
    omega
  by_cases hv : c.version = .v21
  · have hm : chunks.map (WS ++ ·) ++ [] :: ls ≠ [] := by simp
    have hl := getNonEmptyLineV21_physical hnl hne htm hm
      [.started, .oneContactStarted]
    have htx := getBase64_chunks ls [.started, .oneContactStarted] hch first hs
    rw [afterBegin, if_pos hv]
    rw [← hv] at hl htx
    have hsz : (c.photoHeader (getImageType image) ++ first).length < 2 ^ 31 := by
      rw [length_append]
      omega
    obtain ⟨more, rawData, hnm, hbs, hit⟩ := parseItem_photo ⟨iconv, codec.decode⟩ hsz hl htx
    refine ⟨more, _, rawData, hnm, iff_of_true (hbs.trans ?_) (.inl hv), rfl, hit⟩
    rw [hct.joined]
    show (codec.decode (codec.encode bytes)).getD [] = bytes
    rw [codec.decode_encode, Option.getD_some]
  · have hl := getNonEmptyLineV30_chunks hv hh hne htm hls [.started, .oneContactStarted] hch
      hct.chunk_ne
    rw [show rejoined (c.photoHeader (getImageType image) ++ first) chunks =
      c.photoHeader (getImageType image) ++ rejoined first chunks from append_assoc ..] at hl
    have hle := @length_rejoined_le first chunks hct.chunk_ne
    have htx : ∀ d : Decoder, Yields (d.getBase64 c.version (rejoined first chunks))
        (rejoined first chunks, d) := by
      intro d
      rw [Decoder.getBase64, if_pos hv]
      exact yields_pure _
    have hsz : (c.photoHeader (getImageType image) ++ rejoined first chunks).length < 2 ^ 31 := by
      rw [length_append]
      omega
    obtain ⟨more, rawData, hnm, hbs, hit⟩ := parseItem_photo ⟨iconv, codec.decode⟩ hsz hl (htx _)
    rw [afterBegin, if_neg hv]
    refine ⟨more, _, rawData, hnm, ?_, rfl, hit⟩
    rw [hbs, PhotoFits.iff_of_later c hv hct]
    show (codec.decode (rejoined first chunks)).getD [] = bytes ↔ _
    cases chunks with
    | nil =>
      have hj := hct.joined
      rw [flatten_nil, append_nil] at hj
      refine iff_of_true ?_ rfl
      rw [rejoined, flatMap_nil, append_nil, hj, codec.decode_encode, Option.getD_some]
    | cons chunk chunks =>
      -- a carriage return is no base64 character
      have hno : codec.decode (rejoined first (chunk :: chunks)) = none :=
        codec.decode_other _ ⟨13, by simp [rejoined], by decide⟩
      rw [hno]
      exact iff_of_false (Ne.symm hbytes) (cons_ne_nil chunk chunks)

theorem decode_photo {next : StdString} (hnx : 10 ∉ next)
    (hct : CutUp (codec.encode bytes) (c.firstRoom (getImageType image)) first chunks)
    (hbytes : bytes ≠ []) (hlimit : (codec.encode bytes).length ≤ MAX_VCARD_INPUT_SIZE) :
    ∃ rawData, rawData.name = VCARD_TYPE_PHOTO ∧
      (rawData.bytes = bytes ↔ PhotoFits c (codec.encode bytes) (getImageType image)) ∧
      Halts (decode ⟨iconv, codec.decode⟩ c.version
        (card (foldedLines (c.photoHeader (getImageType image)) first chunks ++ [[]] ++ [next])))
        fun d => (created d.notified).head? = some rawData := by
  obtain ⟨hfs, hch⟩ := isBase64_cutUp codec bytes hct
  obtain ⟨hnl, -, hh⟩ := photoLine_clean c image hfs
  have hln : ∀ line ∈
      foldedLines (c.photoHeader (getImageType image)) first chunks ++ [[]] ++ [next],
      10 ∉ line := by
    simp only [foldedLines, forall_mem_append, forall_mem_cons, forall_mem_map]
    exact ⟨⟨⟨hnl, fun chunk hcu => newline_not_mem_chunk (hch chunk hcu)⟩, by simp⟩, by simpa⟩
  have hcr :
      card (foldedLines (c.photoHeader (getImageType image)) first chunks ++ [[]] ++ [next]) =
      physical (beginLine :: (c.photoHeader (getImageType image) ++ first) ::
        (chunks.map (WS ++ ·) ++ [] :: [next, endLine])) := by
    simp [card, foldedLines]
  have hcl := closed_card ⟨iconv, codec.decode⟩ hln
  obtain ⟨_, d, rawData, hnm, hbs, hnt, hit⟩ :=
    parseItem_afterBegin codec iconv c image bytes (physical_ne_nil next [endLine]) hct hbytes
      hlimit
  refine ⟨rawData, hnm, hbs, ?_⟩
  rw [hcr] at hcl ⊢
  refine (decode_reports (physical_ne_nil _ _) (fun _ => hcl)
    (readBegin_physical c.version _ hnl hh) hit).mono fun d' hd' => ?_
  obtain ⟨rest, hrest⟩ := hd'
  rw [← hrest, Decoder.notify, hnt]
  rfl

end RoundTrip

/-! ## Runs with a code of two hex digits for a byte -/

theorem upperHex_base64 (bytes : StdString) : ∀ c ∈ upperHex bytes, isBase64 c := by
  have hdg : ∀ d < 16, isBase64 (hexDigit d) := by decide
  intro c hc
  obtain ⟨d, hd, rfl⟩ := mem_map.1 hc
  obtain ⟨n, hn, hd⟩ := mem_flatMap.1 hd
  obtain ⟨b, -, rfl⟩ := mem_map.1 hn
  have hb := b.toNat_lt
  have hlt : d < 16 := by
    simp only [mem_cons, not_mem_nil, or_false] at hd
    omega
  exact hdg d hlt

/-- Hex digits are base64 characters, so that hex is one of the codes the result is about. -/
def hexCode : Base64 where
  encode := upperHex
  decode text := if text.all isBase64 then some (hexPairs text) else none
  encode_base64 := upperHex_base64
  decode_encode bytes := by
    rw [if_pos (all_eq_true.2 (upperHex_base64 bytes)), upperHex,
      hexPairs_digits _ (toNat_mem_lt bytes), map_ofNat_toNat]
  decode_other text h := by
    obtain ⟨c, hc, hother⟩ := h
    exact if_neg fun hall => hother (all_eq_true.1 hall c hc)

/-- Forty bytes of a picture: more than fits the first line. -/
def picture : StdString := [0xff, 0xd8] ++ List.replicate 38 7

def hexPlatform : Platform := ⟨fun _ input => some input, hexCode.decode⟩

end TelephonyCore.Vcard
