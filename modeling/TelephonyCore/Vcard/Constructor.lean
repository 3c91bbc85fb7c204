import TelephonyCore.Vcard.Decoder

/-!
# `VCardConstructor`

How the lines of a card are written: a property with its escapes, and a photo, whose base64 text is
folded over several lines. The card type is used for its version only. A function that writes to
`result_` gives the text it appends. What the loop of `AddPhotoLine` has written is described by its
chunks.
-/

namespace TelephonyCore.Vcard

open Codec Lib Fuelled List

def END_OF_LINE := ascii "\r\n"
def WS := ascii " "
def PARAM_SEPARATOR := ascii ";"
def PARAM_SEPARATOR_V3_V4 := ascii ","
def DATA_SEPARATOR := ascii ":"
def PARAM_ENCODING_QP := ascii "ENCODING=QUOTED-PRINTABLE"
def PARAM_ENCODING_BASE64_V21 := ascii "ENCODING=BASE64"
def PARAM_ENCODING_BASE64_AS_B := ascii "ENCODING=B"
def MAX_LINE_NUMS_BASE64_V30 : Nat := 75
def ENCODEN_QUOTED_PRIN_MAX_LEN : Nat := 67
def VCARD_INPUT_MAX_LENGTH : Nat := 2376

structure VCardConstructor where
  version : Version
  charset : StdString := DEFAULT_IMPORT_CHARSET

def getImageType (bytes : StdString) : StdString :=
  if ascii "GIF" <+: bytes then ascii "GIF"
  else if [0x89, 80, 78, 71] <+: bytes then ascii "PNG"
  else if [0xff, 0xd8] <+: bytes then ascii "JPEG"
  else []

namespace VCardConstructor

def isV30OrV40 (c : VCardConstructor) : Bool := c.version ≠ .v21

def charsetParam (c : VCardConstructor) : StdString :=
  ascii "CHARSET=" ++ if c.charset = [] then ascii "UTF-8" else c.charset

/-! ## Properties -/

/-- `HandleCharacter` for one character after the other. A carriage return before a newline is
dropped. -/
def handleCharacters (c : VCardConstructor) : StdString → StdString
  | [] => []
  | ch :: rest =>
    if ch = 59 then 92 :: 59 :: c.handleCharacters rest
    else if ch = 13 ∧ rest.head? = some 10 then c.handleCharacters rest
    else if ch = 13 ∨ ch = 10 then 92 :: 110 :: c.handleCharacters rest
    else if (ch = 92 ∨ ch = 44) ∧ c.isV30OrV40 then 92 :: ch :: c.handleCharacters rest
    else ch :: c.handleCharacters rest

def dealCharacters (c : VCardConstructor) (value : StdString) : StdString :=
  c.handleCharacters (counted value)

def encodeQuotedPrintable (input : StdString) : StdString :=
  let size := input.length
  if size * 3 + 3 * (size * 3 / ENCODEN_QUOTED_PRIN_MAX_LEN) > VCARD_INPUT_MAX_LENGTH then []
  else encode 0 input
where
  encode (lineCount : Nat) : StdString → StdString
    | [] => []
    | ch :: rest =>
      let quoted := [61, hexDigit (ch.toNat / 16), hexDigit (ch.toNat % 16)]
      if lineCount + 3 ≥ ENCODEN_QUOTED_PRIN_MAX_LEN then
        quoted ++ ascii "=\r\n" ++ encode 0 rest
      else quoted ++ encode (lineCount + 3) rest

def addParamType (c : VCardConstructor) (paramType : StdString) : StdString :=
  (if c.isV30OrV40 then VCARD_PARAM_TYPE ++ ascii "=" else []) ++ paramType

def addParamTypes (c : VCardConstructor) : List StdString → StdString
  | [] => []
  | type :: types =>
    c.addParamType type ++ types.flatMap fun type =>
      if c.isV30OrV40 then PARAM_SEPARATOR_V3_V4 ++ type else PARAM_SEPARATOR ++ c.addParamType type

def addCharsetOrQuotedPrintable (c : VCardConstructor)
    (needAddCharset needAddQuotedPrintable : Bool) : StdString :=
  (if needAddCharset then PARAM_SEPARATOR ++ c.charsetParam else []) ++
    if needAddQuotedPrintable then PARAM_SEPARATOR ++ PARAM_ENCODING_QP else []

/-- `AddLine` with one value. -/
def addLine (c : VCardConstructor) (type : StdString) (paramList : List StdString)
    (rawValue : StdString) (needCharset needQuotedPrintable : Bool) : StdString :=
  let params := if paramList = [] then [] else PARAM_SEPARATOR ++ c.addParamTypes paramList
  let encodedValue :=
    if needQuotedPrintable then encodeQuotedPrintable rawValue else c.dealCharacters rawValue
  type ++ params ++ c.addCharsetOrQuotedPrintable needCharset needQuotedPrintable ++
    DATA_SEPARATOR ++ encodedValue ++ END_OF_LINE

/-! ## Photos -/

def paramEncodingBase64 (c : VCardConstructor) : StdString :=
  if c.isV30OrV40 then PARAM_ENCODING_BASE64_AS_B else PARAM_ENCODING_BASE64_V21

def photoHeader (c : VCardConstructor) (photoType : StdString) : StdString :=
  VCARD_TYPE_PHOTO ++ PARAM_SEPARATOR ++ c.paramEncodingBase64 ++
    (if photoType = [] then [] else PARAM_SEPARATOR ++ c.addParamType photoType) ++ DATA_SEPARATOR

/-- `prefixLen`, which counts a separator before the type also when there is none. -/
def photoHeaderLen (c : VCardConstructor) (photoType : StdString) : Nat :=
  let hasTypeSize := if c.isV30OrV40 then 5 else 0
  let typeSize := if photoType = [] then 0 else hasTypeSize + photoType.length
  VCARD_TYPE_PHOTO.length + 1 + c.paramEncodingBase64.length + 1 + typeSize + 1

def firstLineCap : Nat := MAX_LINE_NUMS_BASE64_V30 - END_OF_LINE.length + 1

def secondOnCap : Nat := firstLineCap - WS.length

def firstRoom (c : VCardConstructor) (photoType : StdString) : Nat :=
  firstLineCap - c.photoHeaderLen photoType

/-- What is written, what remains and the room on the line. -/
def foldPhoto (result rest : StdString) (leftOnLine : Nat) : Fuelled StdString :=
  Fuelled.loop (fun (result, rest, leftOnLine) =>
    if rest = [] then pure (.inr result)
    else
      let chunk := min leftOnLine rest.length
      let result := result ++ rest.take chunk
      let rest := rest.drop chunk
      if rest = [] then pure (.inr result)
      else pure (.inl (result ++ END_OF_LINE ++ WS, rest, secondOnCap))) (result, rest, leftOnLine)

def addPhotoLine (c : VCardConstructor) (encodedValue photoType : StdString) :
    Fuelled StdString := do
  let result ← foldPhoto (c.photoHeader photoType) encodedValue (c.firstRoom photoType)
  pure (result ++ END_OF_LINE ++ END_OF_LINE)

end VCardConstructor

/-! ## The lines of a photo -/

def physical (ls : List StdString) : StdString := ls.flatMap (· ++ END_OF_LINE)

/-- A header and a text that is folded after its first part. -/
def foldedLines (header first : StdString) (chunks : List StdString) : List StdString :=
  (header ++ first) :: chunks.map (WS ++ ·)

theorem physical_foldedLines (header first : StdString) (chunks : List StdString) :
    physical (foldedLines header first chunks) =
      header ++ first ++ chunks.flatMap (END_OF_LINE ++ WS ++ ·) ++ END_OF_LINE := by
  induction chunks generalizing header first with
  | nil => simp [physical, foldedLines]
  | cons chunk chunks ih =>
    have hr := ih WS chunk
    simp only [physical, foldedLines, map_cons, flatMap_cons, append_assoc]
      at hr ⊢
    rw [hr]

structure CutUp (text : StdString) (room : Nat) (first : StdString) (chunks : List StdString) :
    Prop where
  joined : first ++ chunks.flatten = text
  first_le : first.length ≤ room
  chunk_le : ∀ chunk ∈ chunks, chunk.length ≤ VCardConstructor.secondOnCap
  unfolded : text.length ≤ room → chunks = []
  first_ne : text ≠ [] → first ≠ []
  chunk_ne : ∀ chunk ∈ chunks, chunk ≠ []

namespace VCardConstructor

theorem foldPhoto_cutUp (rest : StdString) :
    ∀ result leftOnLine, 0 < leftOnLine →
      Halts (foldPhoto result rest leftOnLine) fun written => ∃ first chunks,
        CutUp rest leftOnLine first chunks ∧
        written = result ++ first ++ chunks.flatMap (END_OF_LINE ++ WS ++ ·) := by
  induction hl : rest.length using Nat.strongRecOn generalizing rest with
  | _ n ih =>
    intro result leftOnLine hr
    by_cases hn : rest = []
    · refine ⟨result, .loop_done ?_, [], [], ⟨hn.symm, Nat.zero_le _, ?_, fun _ => rfl,
        fun h => absurd hn h, nofun⟩, ?_⟩
      · dsimp only
        rw [if_pos hn]
        exact yields_pure _
      · simp
      · simp
    · have hp := length_pos_iff.2 hn
      by_cases hf : rest.length ≤ leftOnLine
      · -- the last chunk
        have hch : min leftOnLine rest.length = rest.length := by omega
        refine ⟨result ++ rest, .loop_done ?_, rest, [], ⟨by simp, hf, by simp,
          fun _ => rfl, id, nofun⟩, by simp⟩
        dsimp only
        rw [if_neg hn, hch, drop_length, if_pos rfl, take_length]
        exact yields_pure _
      · have hch : min leftOnLine rest.length = leftOnLine := by omega
        have hdr : (rest.drop leftOnLine).length = rest.length - leftOnLine := length_drop
        have hmr : rest.drop leftOnLine ≠ [] := by
          rw [← length_pos_iff, hdr]
          omega
        obtain ⟨written, hy, first, chunks, hct, rfl⟩ :=
          ih (rest.drop leftOnLine).length (by omega) (rest.drop leftOnLine) rfl
            (result ++ rest.take leftOnLine ++ END_OF_LINE ++ WS) secondOnCap (by decide)
        refine ⟨_, .loop_again ?_ hy, rest.take leftOnLine, first :: chunks,
          ⟨?_, length_take_le _ _, ?_, fun h => absurd h hf, fun _ => ?_, ?_⟩, by simp⟩
        · dsimp only
          rw [if_neg hn, hch, if_neg hmr]
          exact yields_pure _
        · rw [flatten_cons, hct.joined, take_append_drop]
        · intro chunk hmm
          obtain rfl | hmm := mem_cons.1 hmm
          · exact hct.first_le
          · exact hct.chunk_le chunk hmm
        · rw [← length_pos_iff, length_take]
          omega
        · exact forall_mem_cons.2 ⟨hct.first_ne hmr, hct.chunk_ne⟩

theorem length_photoHeader_le (c : VCardConstructor) (photoType : StdString) :
    (c.photoHeader photoType).length ≤ c.photoHeaderLen photoType := by
  have hs : PARAM_SEPARATOR.length = 1 := by decide
  have hdt : DATA_SEPARATOR.length = 1 := by decide
  have ht : (VCARD_PARAM_TYPE ++ ascii "=").length = 5 := by decide
  simp only [photoHeader, photoHeaderLen, addParamType, length_append] at ht ⊢
  by_cases hn : photoType = []
  · rw [if_pos hn, if_pos hn, length_nil]
    omega
  · rw [if_neg hn, if_neg hn, length_append, length_append]
    split
    · rw [length_append]
      omega
    · rw [length_nil]
      omega

/-- The subtraction of sizes does not wrap around. -/
theorem photoHeaderLen_lt (c : VCardConstructor) (image : StdString) :
    c.photoHeaderLen (getImageType image) < firstLineCap := by
  have ht : (getImageType image).length ≤ 4 := by
    unfold getImageType
    split
    · decide
    · split
      · decide
      · split <;> decide
  have hp : VCARD_TYPE_PHOTO.length = 5 := by decide
  have hc : firstLineCap = 74 := by decide
  have he : c.paramEncodingBase64.length ≤ 15 := by
    unfold paramEncodingBase64
    split <;> decide
  have hh : (if c.isV30OrV40 then 5 else 0) ≤ 5 := by
    split
    · exact Nat.le_refl 5
    · exact Nat.zero_le 5
  simp only [photoHeaderLen]
  split <;> omega

theorem addPhotoLine_lines (c : VCardConstructor) (text image : StdString) :
    Halts (c.addPhotoLine text (getImageType image)) fun written => ∃ first chunks,
      CutUp text (c.firstRoom (getImageType image)) first chunks ∧
      written = physical (foldedLines (c.photoHeader (getImageType image)) first chunks ++ [[]]) ∧
      ∀ line ∈ foldedLines (c.photoHeader (getImageType image)) first chunks,
        line.length ≤ MAX_LINE_NUMS_BASE64_V30 := by
  have hlen := c.photoHeaderLen_lt image
  have hh := c.length_photoHeader_le (getImageType image)
  refine (foldPhoto_cutUp text _ (c.firstRoom (getImageType image))
    (Nat.sub_pos_of_lt hlen)).bind ?_
  rintro _ ⟨first, chunks, hct, rfl⟩
  refine halts_pure ⟨first, chunks, hct, ?_, ?_⟩
  · have hp := physical_foldedLines (c.photoHeader (getImageType image)) first chunks
    rw [physical, flatMap_append, ← physical, hp]
    simp
  · have hcp : firstLineCap = 74 := by decide
    have hs : secondOnCap = 73 := by decide
    have hmx : MAX_LINE_NUMS_BASE64_V30 = 75 := rfl
    have hws : WS.length = 1 := by decide
    intro line hln
    obtain rfl | hmm := mem_cons.1 hln
    · have hf := hct.first_le
      rw [firstRoom] at hf
      rw [length_append]
      omega
    · obtain ⟨chunk, hch, rfl⟩ := mem_map.1 hmm
      have hle := hct.chunk_le chunk hch
      rw [length_append]
      omega

end VCardConstructor

end TelephonyCore.Vcard
