import TelephonyCore.Lib.Fuel
import TelephonyCore.Vcard.Utils

/-!
# `VCardDecoderV21`, `VCardDecoderV30` and `VCardDecoderV40`

`Decode` reads contacts until the end of the file: a `BEGIN:VCARD` line, then one property after
the other up to `END:VCARD`. A property may go on over further lines, and there are five loops that
look for its end, according to its name and its encoding. The later versions override the reading of
lines, where folded lines are joined with one line of look-ahead in `preLine_`, and the treatment of
parameters and escapes.

The loops over the file are programs with fuel, since it is not clear that they end.
-/

namespace TelephonyCore.Vcard

open Codec Lib

inductive Version where
  | v21
  | v30
  | v40
deriving DecidableEq

def VCARD_TYPE_BEGIN := ascii "BEGIN"
def VCARD_TYPE_END := ascii "END"
def VCARD_TYPE_N := ascii "N"
def VCARD_TYPE_FN := ascii "FN"
def VCARD_TYPE_ADR := ascii "ADR"
def VCARD_TYPE_ORG := ascii "ORG"
def VCARD_TYPE_AGENT := ascii "AGENT"
def VCARD_TYPE_NOTE := ascii "NOTE"
def VCARD_TYPE_TITLE := ascii "TITLE"
def VCARD_TYPE_PHOTO := ascii "PHOTO"
def VCARD_TYPE_NICKNAME := ascii "NICKNAME"
def VCARD_TYPE_VERSION := ascii "VERSION"
def VCARD_PARAM_TYPE := ascii "TYPE"
def VCARD_PARAM_VALUE := ascii "VALUE"
def VCARD_PARAM_CHARSET := ascii "CHARSET"
def VCARD_PARAM_ENCODING := ascii "ENCODING"
def VCARD_PARAM_LANGUAGE := ascii "LANGUAGE"
def VCARD_PARAM_ENCODING_QP := ascii "QUOTED-PRINTABLE"
def VCARD_PARAM_ENCODING_BASE64 := ascii "BASE64"
def VCARD_PARAM_ENCODING_B := ascii "B"
def DATA_VCARD := ascii "VCARD"
def DEFAULT_ENCODING := ascii "8BIT"
def DEFAULT_IMPORT_CHARSET := ascii "UTF-8"

def getSupportType : Version → List StdString
  | .v21 =>
    [VCARD_TYPE_BEGIN, VCARD_TYPE_END, ascii "LOGO", VCARD_TYPE_PHOTO, ascii "LABEL", VCARD_TYPE_FN,
      VCARD_TYPE_TITLE, ascii "SOUND", VCARD_TYPE_VERSION, ascii "TEL", ascii "EMAIL", ascii "TZ",
      ascii "GEO", VCARD_TYPE_NOTE, ascii "URL", ascii "BDAY", ascii "ROLE", ascii "REV",
      ascii "UID", ascii "KEY", ascii "MAILER"]
  | .v30 =>
    [VCARD_TYPE_BEGIN, VCARD_TYPE_END, ascii "LOGO", VCARD_TYPE_PHOTO, ascii "LABEL", VCARD_TYPE_FN,
      ascii "TITLE", ascii "SOUND", VCARD_TYPE_VERSION, ascii "TEL", ascii "EMAIL", ascii "TZ",
      ascii "GEO", VCARD_TYPE_NOTE, ascii "URL", ascii "BDAY", ascii "ROLE", ascii "REV",
      ascii "UID", ascii "KEY", ascii "MAILER", ascii "NAME", ascii "PROFILE", ascii "SOURCE",
      VCARD_TYPE_NICKNAME, ascii "CLASS", ascii "SORT-STRING", ascii "CATEGORIES", ascii "PRODID",
      ascii "IMPP"]
  | .v40 =>
    [VCARD_TYPE_BEGIN, VCARD_TYPE_END, VCARD_TYPE_VERSION, ascii "SOURCE", ascii "KIND",
      VCARD_TYPE_FN, VCARD_TYPE_N, VCARD_TYPE_NICKNAME, VCARD_TYPE_PHOTO, ascii "BDAY",
      ascii "ANNIVERSARY", ascii "GENDER", ascii "ADR", ascii "TEL", ascii "EMAIL", ascii "IMPP",
      ascii "LANG", ascii "TZ", ascii "GEO", VCARD_TYPE_TITLE, ascii "ROLE", ascii "LOGO",
      ascii "ORG", ascii "MEMBER", ascii "RELATED", ascii "CATEGORIES", VCARD_TYPE_NOTE,
      ascii "PRODID", ascii "REV", ascii "SOUND", ascii "UID", ascii "CLIENTPIDMAP", ascii "URL",
      ascii "KEY", ascii "FBURL", ascii "CALENDRURI", ascii "CALURI", ascii "XML"]

def getSupportParamEncoding : List StdString :=
  [ascii "7BIT", ascii "8BIT", VCARD_PARAM_ENCODING_QP, VCARD_PARAM_ENCODING_BASE64,
    VCARD_PARAM_ENCODING_B]

/-! ## Escapes and quoted-printable text -/

def unescapeText : Version → StdString → StdString
  | .v21, str => str
  | .v30, str | .v40, str => unescape str
where
  unescape : StdString → StdString
    | 92 :: next :: rest => (if next = 110 ∨ next = 78 then 10 else next) :: unescape rest
    | c :: rest => c :: unescape rest
    | [] => []

/-- `UnescapeChar`; empty for a character that is not escaped. -/
def unescapeChar (v : Version) (c : UInt8) : StdString :=
  if v = .v21 then (if c = 92 ∨ c = 59 ∨ c = 58 ∨ c = 44 then [c] else [])
  else if c = 110 ∨ c = 78 then [10] else [c]

/-- The characters that a loop goes over whose bound is the length in an `int32_t`. -/
def counted (s : StdString) : StdString := s.take (Int32.ofNat s.length).toNatClampNeg

theorem counted_eq_self {s : StdString} (h : s.length < 2 ^ 31) : counted s = s := by
  rw [counted, Int32.toNatClampNeg, Int32.toInt_ofNat_of_lt h, Int.toNat_natCast, List.take_length]

/-- The loop of `BuildListFromValue` with the item read so far. -/
def buildListFrom (v : Version) (temp : StdString) : StdString → List StdString
  | 92 :: next :: rest =>
    if unescapeChar v next ≠ [] then buildListFrom v (temp ++ unescapeChar v next) rest
    else buildListFrom v (temp ++ [92]) (next :: rest)
  | 59 :: rest => temp :: buildListFrom v [] rest
  | c :: rest => buildListFrom v (temp ++ [c]) rest
  | [] => [temp]

def buildListFromValue (v : Version) (value : StdString) : List StdString :=
  buildListFrom v [] (counted value)

/-- The byte of at most two hex digits, read as a C string; nothing when they are not valid. -/
def quotedByte (hex : StdString) : StdString :=
  let hexStr := hex.takeWhile (· ≠ 0)
  if hexStr ≠ [] ∧ hexStr.all fun c => (hexVal c).isSome then [UInt8.ofInt (strtol16 hexStr)]
  else []

/-- `get` stops in front of a newline, and fails if that is at once. -/
def decodeQuotedPrintable : StdString → StdString
  | [] => []
  | ch :: rest =>
    if ch ≠ 61 then ch :: decodeQuotedPrintable rest
    else match rest with
      | [] => []
      | [first] => if first = 10 then [] else quotedByte [first]
      | first :: second :: rest =>
        if first = 10 then []
        else if second = 10 then quotedByte [first] ++ decodeQuotedPrintable (second :: rest)
        else quotedByte [first, second] ++ decodeQuotedPrintable rest

def parseQuotedPrintableValue (platform : Platform) (text toCharset : StdString) :
    Option StdString :=
  let lines := split text (ascii "\r\n")
  let printableValue := lines.flatMap fun line =>
    if endWith line (ascii "=") then line.dropLast else line
  platform.convertCharset (decodeQuotedPrintable printableValue) toCharset

def parseQuotedPrintableValues (platform : Platform) (v : Version)
    (rawValue toCharset : StdString) : Option (List StdString) :=
  (buildListFromValue v rawValue).mapM (parseQuotedPrintableValue platform · toCharset)

def getUpperName (line : StdString) : StdString :=
  if line.any (fun c => c == 58 || c == 59) then
    toUpper (line.takeWhile fun c => !(c == 58 || c == 59))
  else []

/-! ## A line as a property -/

structure Property where
  rawData : VCardRawData := {}
  currentEncoding : StdString := DEFAULT_ENCODING
deriving DecidableEq

namespace Property

def appendParameter (p : Property) (param value : StdString) : Property :=
  { p with rawData := p.rawData.appendParameter param value }

/-- `DealParamV30` with the value read so far. -/
def dealParamV30 (platform : Platform) (param : StdString) (p : Property) (quoted : Bool)
    (value : StdString) : StdString → Property
  | [] => if value = [] then p else p.appendParameter param (encodeParamValue value)
  | 34 :: rest =>
    if quoted then
      dealParamV30 platform param (p.appendParameter param (encodeParamValue value)) false [] rest
    else dealParamV30 platform param p true value rest
  | c :: rest =>
    if c = 44 ∧ ¬quoted then
      if value = [] then dealParamV30 platform param p quoted value rest
      else
        let p := p.appendParameter param (encodeParamValue value)
        dealParamV30 platform param p quoted [] rest
    else dealParamV30 platform param p quoted (value ++ [c]) rest
where
  encodeParamValue (value : StdString) : StdString :=
    (platform.convertCharset value DEFAULT_IMPORT_CHARSET).getD []

def dealTypeParam (platform : Platform) (v : Version) (type : StdString) (p : Property) :
    Property :=
  if v = .v21 then p.appendParameter VCARD_PARAM_TYPE type
  else dealParamV30 platform VCARD_PARAM_TYPE p false [] type

def dealAnyParam (platform : Platform) (v : Version) (param paramValue : StdString)
    (p : Property) : Property :=
  if v = .v21 then p.appendParameter param paramValue
  else dealParamV30 platform param p false [] paramValue

def dealEncodingParam (encoding : StdString) (p : Property) : Option Property :=
  if encoding ∈ getSupportParamEncoding ∨ startWith encoding (ascii "X-") then
    some { p.appendParameter VCARD_PARAM_ENCODING encoding with currentEncoding := encoding }
  else none

def isAscChar (c : UInt8) : Bool := (97 ≤ c && c ≤ 122) || (65 ≤ c && c ≤ 90)

def dealLanguageParam (language : StdString) (p : Property) : Option Property :=
  match split language (ascii "-") with
  | [first, second] =>
    if first.all isAscChar ∧ second.all isAscChar then
      some (p.appendParameter VCARD_PARAM_LANGUAGE language)
    else none
  | _ => none

/-- `none` is its error code. -/
def dealParamsV21 (platform : Platform) (v : Version) (params : StdString) (p : Property) :
    Option Property :=
  match split params (ascii "=") with
  | [first, second] =>
    let name := toUpper (trim first)
    let value := trim second
    if name = VCARD_PARAM_TYPE then some (p.dealTypeParam platform v value)
    else if name = VCARD_PARAM_VALUE then some (p.appendParameter VCARD_PARAM_VALUE value)
    else if name = VCARD_PARAM_ENCODING then p.dealEncodingParam (toUpper value)
    else if name = VCARD_PARAM_CHARSET then some (p.appendParameter VCARD_PARAM_CHARSET value)
    else if name = VCARD_PARAM_LANGUAGE then p.dealLanguageParam value
    else if startWith name (ascii "X-") then some (p.dealAnyParam platform v name value)
    else none
  | strs => some (p.dealTypeParam platform v (strs.headD []))

/-- `DealParams`; the later versions take any name. -/
def dealParams (platform : Platform) (v : Version) (params : StdString) (p : Property) :
    Option Property :=
  match p.dealParamsV21 platform v params with
  | some p => some p
  | none =>
    if v = .v21 then none
    else match split params (ascii "=") with
      | [first, second] =>
        some (p.dealAnyParam platform v (toUpper (trim first)) (trim second))
      | _ => none

end Property

inductive Status where
  | groupOrTypeName
  | params
  | paramsInDquote
deriving DecidableEq

/-- The rest of the line, empty at the last position that is counted. -/
def rawValueOf (rest : StdString) : StdString → StdString
  | [] => rest
  | beyond => if rest = [] then [] else rest ++ beyond

/-- The loop of `BuildRawData`; `part` is the text from `namePos` on, and `beyond` the characters of
the line that the loop does not come to. -/
def buildFrom (platform : Platform) (v : Version) (beyond : StdString) (status : Status)
    (part : StdString) (p : Property) : StdString → Option Property
  | [] => some p
  | c :: rest =>
    match status with
    | .groupOrTypeName =>
      -- `DealGroupOrTypeNameStatus`
      if c = 58 then
        some { p with
          rawData := { p.rawData with name := part, rawValue := rawValueOf rest beyond } }
      else if c = 46 then
        let groups := if part = [] then p.rawData.groups else p.rawData.groups ++ [part]
        let p := { p with rawData := { p.rawData with groups } }
        buildFrom platform v beyond .groupOrTypeName [] p rest
      else if c = 59 then
        let p := { p with rawData := { p.rawData with name := part } }
        buildFrom platform v beyond .params [] p rest
      else buildFrom platform v beyond .groupOrTypeName (part ++ [c]) p rest
    | .params =>
      -- `DealParamsStatus`
      if c = 34 then buildFrom platform v beyond .paramsInDquote (part ++ [c]) p rest
      else if c = 59 then
        (p.dealParams platform v part).bind fun p => buildFrom platform v beyond .params [] p rest
      else if c = 58 then
        (p.dealParams platform v part).map fun p =>
          { p with rawData := { p.rawData with rawValue := rawValueOf rest beyond } }
      else buildFrom platform v beyond .params (part ++ [c]) p rest
    | .paramsInDquote => buildFrom platform v beyond .params (part ++ [c]) p rest

/-- `none` is its error code. -/
def buildRawData (platform : Platform) (v : Version) (line : StdString) : Option Property :=
  if (counted line).head? = some 35 then none
  else
    buildFrom platform v (line.drop (counted line).length) .groupOrTypeName [] {} (counted line)

theorem buildRawData_counted (platform : Platform) (v : Version) {line : StdString}
    (h : line.length < 2 ^ 31) :
    buildRawData platform v line = if line.head? = some 35 then none
      else buildFrom platform v [] .groupOrTypeName [] {} line := by
  rw [buildRawData, counted_eq_self h, List.drop_length]

inductive Form where
  | adrOrgN
  | quotedPrintable
  | base64
  | plain
deriving DecidableEq

def Property.form (p : Property) : Form :=
  let name := toUpper p.rawData.name
  if name = VCARD_TYPE_ADR ∨ name = VCARD_TYPE_ORG ∨ name = VCARD_TYPE_N then .adrOrgN
  else if p.currentEncoding = VCARD_PARAM_ENCODING_QP ∨
      (name = VCARD_TYPE_FN ∧ p.rawData.getParameters VCARD_PARAM_ENCODING = []) then
    .quotedPrintable
  else if p.currentEncoding = VCARD_PARAM_ENCODING_BASE64 ∨
      p.currentEncoding = VCARD_PARAM_ENCODING_B then .base64
  else .plain

/-! ## The decoder -/

inductive ErrorCode where
  | success
  | vcardFileInvalid
deriving DecidableEq

inductive Event where
  | started
  | ended
  | oneContactStarted
  | oneContactEnded
  | rawDataCreated (rawData : VCardRawData)
deriving DecidableEq

structure Decoder where
  /-- what has not been read of `fileUtils_` -/
  file : StdString
  preLine : StdString := []
  errorCode : ErrorCode := .success
  notified : List Event := []
deriving DecidableEq

namespace Decoder

def notify (d : Decoder) (event : Event) : Decoder := { d with notified := d.notified ++ [event] }

def fail (d : Decoder) : Decoder := { d with errorCode := .vcardFileInvalid }

def getLine (v : Version) (d : Decoder) : StdString × Decoder :=
  if v ≠ .v21 ∧ d.preLine ≠ [] then (d.preLine, { d with preLine := [] })
  else ((getline d.file).1, { d with file := (getline d.file).2 })

def peekLine (v : Version) (d : Decoder) : StdString :=
  if v ≠ .v21 ∧ d.preLine ≠ [] then d.preLine else (getline d.file).1

/-- The last line of the file is not trimmed. -/
def getNonEmptyLineV21 (d : Decoder) : Fuelled (StdString × Decoder) :=
  Fuelled.loop (fun d : Decoder =>
    let (line, file) := getline d.file
    let d := { d with file }
    if file = [] then pure (.inr (line, d))
    else if trim line ≠ [] then pure (.inr (trim line, d))
    else pure (.inl d)) d

/-- The loop of `VCardDecoderV30::GetNonEmptyLine`. -/
def joinLinesFrom (ret : StdString) (d : Decoder) : Fuelled (StdString × StdString × Decoder) :=
  Fuelled.loop (fun (ret, d) =>
    let (line, file) := getline d.file
    let d : Decoder := { d with file }
    if file = [] then pure (.inr (ret, line, d))
    else if line = [] then pure (.inl (ret, d))
    else if line.head? = some 32 ∨ line.head? = some 9 then
      pure (.inl (ret ++ d.preLine ++ line.tail, { d with preLine := [] }))
    else if ret ≠ [] ∨ trim d.preLine ≠ [] then pure (.inr (ret, line, d))
    else pure (.inl (ret, { d with preLine := line }))) (ret, d)

def joinLines (d : Decoder) : Fuelled (StdString × StdString × Decoder) := joinLinesFrom [] d

def getNonEmptyLineV30 (d : Decoder) : Fuelled (StdString × Decoder) := do
  let (ret, line, d) ← d.joinLines
  let ret := if ret = [] then d.preLine else ret
  pure (trim ret, { d with preLine := line })

def getNonEmptyLine (v : Version) (d : Decoder) : Fuelled (StdString × Decoder) :=
  if v = .v21 then d.getNonEmptyLineV21 else d.getNonEmptyLineV30

def skipEmptyLines (d : Decoder) : Fuelled Decoder :=
  Fuelled.loop (fun d : Decoder =>
    if d.file = [] then pure (.inr d)
    else if (getline d.file).1 ≠ [] then pure (.inr d)
    else pure (.inl { d with file := (getline d.file).2 })) d

/-- `none` is its error code. -/
def getQuotedPrintableValue (v : Version) (str : StdString) (d : Decoder) :
    Fuelled (Option StdString × Decoder) :=
  if ¬endWith (trim str) (ascii "=") then pure (some (trim str), d)
  else
    Fuelled.loop (fun (target, d) =>
      let (line, d) := getLine v d
      if line = [] then pure (.inr (none, d))
      else if ¬endWith (trim line) (ascii "=") then pure (.inr (some (target ++ trim line), d))
      else
        let target := target ++ trim line ++ ascii "\r\n"
        if target.length > MAX_VCARD_INPUT_SIZE then pure (.inr (none, d))
        else pure (.inl (target, d))) (trim str ++ ascii "\r\n", d)

/-- The line ends a base64 text of version 2.1. -/
def endsBase64 (v : Version) (line : StdString) : Bool :=
  (line ≠ [] && line.head? ≠ some 32) || (getSupportType v).contains (getUpperName line)

def getBase64 (v : Version) (value : StdString) (d : Decoder) : Fuelled (StdString × Decoder) :=
  if v ≠ .v21 then pure (value, d)
  else
    Fuelled.loop (fun (str, d) =>
      let line := peekLine v d
      if endsBase64 v line then pure (.inr (str, d))
      else
        let d := (getLine v d).2
        let str := str ++ trim line
        if str.length > MAX_VCARD_INPUT_SIZE then pure (.inr (str, d)) else pure (.inl (str, d)))
      (value, d)

def getPoMultiLine (v : Version) (value : StdString) (d : Decoder) :
    Fuelled (StdString × Decoder) :=
  Fuelled.loop (fun (str, d) =>
    let line := peekLine v d
    if line = [] ∨ getUpperName line ≠ [] then pure (.inr (str, d))
    else pure (.inl (str ++ ascii " " ++ line, (getLine v d).2))) (value, d)

/-- Nothing is left of a value without further lines. -/
def dealV21Value (v : Version) (rawValue : StdString) (d : Decoder) :
    Fuelled (StdString × Decoder) :=
  Fuelled.loop (fun (str, d) =>
    let line := peekLine v d
    if line = [] ∨ line.head? ≠ some 32 ∨ contains (toUpper line) (ascii "END:VCARD") then
      pure (.inr (str, d))
    else
      let str := if str = [] then rawValue else str
      pure (.inl (str ++ line.tail, (getLine v d).2))) (([] : StdString), d)

section Values

variable (platform : Platform) (v : Version)

def dealAdrOrgN (p : Property) (toCharset : StdString) (d : Decoder) : Fuelled Decoder := do
  if p.currentEncoding = VCARD_PARAM_ENCODING_QP then
    let (quoted, d) ← d.getQuotedPrintableValue v p.rawData.rawValue
    match quoted.bind fun quoted =>
        (parseQuotedPrintableValues platform v quoted toCharset).map (quoted, ·) with
    | none => pure d.fail
    | some (quoted, encodedValues) =>
      pure (d.notify (.rawDataCreated
        { p.rawData with rawValue := quoted, values := p.rawData.values ++ encodedValues }))
  else
    let (text, d) ← d.getPoMultiLine v p.rawData.rawValue
    match platform.convertCharset text toCharset with
    | none => pure d.fail
    | some value =>
      pure (d.notify (.rawDataCreated
        { p.rawData with values := p.rawData.values ++ buildListFromValue v value }))

def dealEncodingQPOrNoEncodingFN (p : Property) (toCharset : StdString) (d : Decoder) :
    Fuelled Decoder := do
  let (quoted, d) ← d.getQuotedPrintableValue v p.rawData.rawValue
  match quoted.bind fun quoted =>
      (parseQuotedPrintableValue platform quoted toCharset).map (quoted, ·) with
  | none => pure d.fail
  | some (quoted, encodedValue) =>
    pure (d.notify (.rawDataCreated
      { p.rawData with rawValue := quoted, values := p.rawData.values ++ [encodedValue] }))

def dealBase64OrB (p : Property) (d : Decoder) : Fuelled Decoder := do
  let (base64, d) ← d.getBase64 v p.rawData.rawValue
  pure (d.notify (.rawDataCreated { p.rawData with bytes := platform.decodeBase64 base64 }))

/-- `DealRawDataValue` for other properties. -/
def dealPlain (p : Property) (toCharset : StdString) (d : Decoder) : Fuelled Decoder := do
  let (rawValue, d) ←
    (if v = .v21 then d.dealV21Value v p.rawData.rawValue else pure (p.rawData.rawValue, d))
  match platform.convertCharset rawValue toCharset with
  | none => pure d.fail
  | some text =>
    pure (d.notify (.rawDataCreated { p.rawData with values := [unescapeText v text] }))

def dealRawDataValue (p : Property) (d : Decoder) : Fuelled Decoder :=
  let charset := (p.rawData.getParameters VCARD_PARAM_CHARSET).headD []
  let toCharset := if charset = [] then DEFAULT_IMPORT_CHARSET else charset
  match p.form with
  | .adrOrgN => d.dealAdrOrgN platform v p toCharset
  | .quotedPrintable => d.dealEncodingQPOrNoEncodingFN platform v p toCharset
  | .base64 => d.dealBase64OrB platform v p
  | .plain => d.dealPlain platform v p toCharset

def dealAgent (rawData : VCardRawData) (d : Decoder) : Decoder :=
  if contains (toUpper rawData.rawValue) (ascii "BEGIN : VCARD") then d.fail
  else d.notify (.rawDataCreated rawData)

/-- `ParseItem` from its line on, with whether there is more. -/
def parseLine (line : StdString) (d : Decoder) : Fuelled (Bool × Decoder) :=
  if line = [] then pure (false, d)
  else match buildRawData platform v line with
    | none => pure (false, d.fail)
    | some p =>
      let name := toUpper p.rawData.name
      if name = VCARD_TYPE_END ∧ equalsIgnoreCase p.rawData.rawValue DATA_VCARD then pure (false, d)
      else if name = VCARD_TYPE_AGENT then pure (true, d.dealAgent p.rawData)
      else do
        let d ← d.dealRawDataValue platform v p
        pure (d.file ≠ [], d)

def parseItem (d : Decoder) : Fuelled (Bool × Decoder) := do
  let (line, d) ← d.getNonEmptyLine v
  d.parseLine platform v line

def parseItems (d : Decoder) : Fuelled Decoder :=
  Fuelled.loop (fun d => do
    let (more, d) ← parseItem platform v d
    if more ∧ d.errorCode = .success then pure (.inl d) else pure (.inr d)) d

def readBegin (d : Decoder) : Fuelled (Bool × Decoder) := do
  let (line, d) ← d.getNonEmptyLine v
  if line = [] then pure (false, d)
  else match split line (ascii ":") with
    | [first, second] =>
      pure (equalsIgnoreCase (trim first) VCARD_TYPE_BEGIN &&
        equalsIgnoreCase (trim second) DATA_VCARD, d)
    | _ => pure (false, d)

def decodeOne (d : Decoder) : Fuelled (Bool × Decoder) := do
  let d := { d with errorCode := .success }
  let (begins, d) ← (d.notify .oneContactStarted).readBegin v
  if ¬begins then pure (false, d.fail)
  else do
    let d ← d.parseItems platform v
    if d.errorCode ≠ .success then pure (false, d)
    else do
      let d ← (d.notify .oneContactEnded).skipEmptyLines
      pure (true, d)

def decodeCards (d : Decoder) : Fuelled Decoder :=
  Fuelled.loop (fun d : Decoder => do
    if d.file = [] then pure (.inr d)
    else
      let (more, d) ← d.decodeOne platform v
      if more then pure (.inl d) else pure (.inr d)) d

theorem parseLine_of_value {line : StdString} {p : Property} (d : Decoder) (hl : line ≠ [])
    (hbd : buildRawData platform v line = some p) (he : ¬(toUpper p.rawData.name = VCARD_TYPE_END ∧
      equalsIgnoreCase p.rawData.rawValue DATA_VCARD))
    (ha : toUpper p.rawData.name ≠ VCARD_TYPE_AGENT) :
    d.parseLine platform v line = (do
      let d ← d.dealRawDataValue platform v p
      pure (d.file ≠ [], d)) := by
  unfold parseLine
  rw [if_neg hl, hbd]
  dsimp only
  rw [if_neg he, if_neg ha]

end Values

end Decoder

def decode (platform : Platform) (v : Version) (file : StdString) : Fuelled Decoder := do
  let d ← (Decoder.notify { file } .started).decodeCards platform v
  pure (d.notify .ended)

end TelephonyCore.Vcard
