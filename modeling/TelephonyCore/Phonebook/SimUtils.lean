import TelephonyCore.Codec.Asn1Utils
import TelephonyCore.Lib.Utf8
import Mathlib.Data.List.DropRight

/-!
# `SIMUtils` and `SimCharDecode`: names as bytes

The encoder writes a name as `80` and two bytes a character when one of its UTF-8 bytes is above 7F,
and else one byte a character, its code. The decoder looks at the first byte of the field: 80, 81
and 82 are the three UCS2 forms of TS 11.11, anything else is text in the default alphabet of GSM
03.38, read through `LANGUAGE_TABLE`. A byte without an entry, such as the filler FF, is skipped.

The conversions between UTF-8 and UTF-16 are not part of the repository; they are a parameter `Utf`.
-/

namespace TelephonyCore.Phonebook

open Codec List
open Lib (Utf8.encode Utf8.decode Utf8.decode_encode Utf8.encode_ascii forall_byte)

/-! ## Strings -/

abbrev U16String := List UInt16

/-- `Str16ToStr8`, `Str8ToStr16`, and `ToUtf8` on wide characters of the basic plane. -/
structure Utf where
  str16ToStr8 : U16String → StdString
  str8ToStr16 : StdString → U16String
  toUtf8 : U16String → StdString

def widen (s : StdString) : U16String := s.map UInt8.toUInt16

def IsAscii (s : StdString) : Prop := ∀ c ∈ s, c < 0x80

/-- No surrogates. -/
def BasicPlane (w : U16String) : Prop := ∀ c ∈ w, c < 0xD800 ∨ 0xE000 ≤ c

structure Utf.FaithfulOnAscii (utf : Utf) : Prop where
  str16ToStr8_widen : ∀ s, IsAscii s → utf.str16ToStr8 (widen s) = s
  str8ToStr16_ascii : ∀ s, IsAscii s → utf.str8ToStr16 s = widen s

structure Utf.Faithful (utf : Utf) : Prop extends utf.FaithfulOnAscii where
  str8ToStr16_str16ToStr8 : ∀ w, BasicPlane w → utf.str8ToStr16 (utf.str16ToStr8 w) = w
  toUtf8_eq : ∀ w, BasicPlane w → utf.toUtf8 w = utf.str16ToStr8 w

/-- A faithful conversion: UTF-8 of the basic plane. -/
def basicUtf : Utf := ⟨Utf8.encode, Utf8.decode, Utf8.encode⟩

theorem basicUtf_faithful : basicUtf.Faithful where
  str16ToStr8_widen := fun _ hs => Utf8.encode_ascii hs
  str8ToStr16_ascii := by
    intro s hs
    calc Utf8.decode s = Utf8.decode (Utf8.encode (widen s)) := by
          rw [widen, Utf8.encode_ascii hs]
      _ = widen s := Utf8.decode_encode _
  str8ToStr16_str16ToStr8 := fun w _ => Utf8.decode_encode w
  toUtf8_eq := fun _ _ => rfl

theorem widen_injective : Function.Injective widen :=
  map_injective_iff.2 fun a b h => by simpa using congrArg UInt16.toUInt8 h

def trim (str : StdString) : StdString := (str.rdropWhile (· == 32)).dropWhile (· == 32)

/-! ## Hex -/

def hexCharConvertToInt (c : UInt8) : UInt8 :=
  if 48 ≤ c ∧ c ≤ 57 then c - 48
  else if 65 ≤ c ∧ c ≤ 70 then c - 65 + 10
  else if 97 ≤ c ∧ c ≤ 102 then c - 97 + 10
  else 0

def hexBytes : StdString → List UInt8
  | hi :: lo :: rest => ((hexCharConvertToInt hi <<< 4) ||| hexCharConvertToInt lo) :: hexBytes rest
  | _ => []

def hexStringConvertToBytes (s : StdString) : Option (List UInt8) :=
  if s = [] then none
  else if s.length % 2 ≠ 0 then none
  else some (hexBytes s)

def bytesConvertToHexString (bytes : List UInt8) : StdString :=
  bytes.flatMap fun (b : UInt8) => [hexDigit ((b >>> 4) &&& 0x0f).toNat, hexDigit (b &&& 0x0f).toNat]

theorem hexBytes_cons (b : UInt8) (rest : StdString) :
    hexBytes (hexDigit ((b >>> 4) &&& 0x0f).toNat :: hexDigit (b &&& 0x0f).toNat :: rest) =
      b :: hexBytes rest := by
  have hb : ∀ b : UInt8, ((hexCharConvertToInt (hexDigit ((b >>> 4) &&& 0x0f).toNat)
      <<< 4) ||| hexCharConvertToInt (hexDigit (b &&& 0x0f).toNat)) = b :=
    forall_byte (by decide +kernel)
  rw [hexBytes, hb]

theorem hexBytes_bytesConvertToHexString (bytes : List UInt8) :
    hexBytes (bytesConvertToHexString bytes) = bytes := by
  induction bytes with
  | nil => rfl
  | cons b bytes ih =>
    exact (hexBytes_cons b _).trans (congrArg (List.cons b) ih)

theorem bytesConvertToHexString_length (bytes : List UInt8) :
    (bytesConvertToHexString bytes).length = 2 * bytes.length := by
  induction bytes with
  | nil => rfl
  | cons b bytes ih =>
    rw [bytesConvertToHexString, flatMap_cons, ← bytesConvertToHexString, length_append,
      ih, length_cons]
    simp only [length_cons, length_nil]
    omega

theorem hexStringConvertToBytes_hex {bytes : List UInt8} (h : bytes ≠ []) :
    hexStringConvertToBytes (bytesConvertToHexString bytes) = some bytes := by
  have hl := bytesConvertToHexString_length bytes
  have hp := length_pos_iff.2 h
  have hne : bytesConvertToHexString bytes ≠ [] := by
    intro hnl
    rw [hnl, length_nil] at hl
    omega
  rw [hexStringConvertToBytes, if_neg hne, if_neg (by omega), hexBytes_bytesConvertToHexString]

/-! ## Encoding a name -/

def MAX_CHINESE_NAME : Nat := 6
def MAX_ENGLISH_NAME : Nat := 12
def CHINESE_FLAG : UInt8 := 0x80

def isChineseString (str : StdString) : Bool := str.any fun c => c &&& CHINESE_FLAG ≠ 0

/-- Two hex digits a character. -/
def charCodeToSequence8 (str : StdString) (chinese : Bool) : StdString :=
  (if chinese then ascii "80" else []) ++
    (str.take (if chinese then MAX_CHINESE_NAME else MAX_ENGLISH_NAME)).flatMap
      fun c => streamHex 2 c.toNat

/-- Four hex digits. -/
def charCodeToSequence16 (str : U16String) (chinese : Bool) : StdString :=
  (if chinese then ascii "80" else []) ++
    (str.take (if chinese then MAX_CHINESE_NAME else MAX_ENGLISH_NAME)).flatMap
      fun c => streamHex 4 c.toNat

/-! ## Decoding a name -/

def FILLER : UInt16 := 0xFFFF
def UCS_FLAG : UInt8 := 0x81
def UCS_WIDE_FLAG : UInt8 := 0x82
def START_POS : Nat := 3
def END_POS : Nat := 4

def LANGUAGE_TABLE : List UInt16 :=
  [0x40, 0xa3, 0x24, 0xa5, 0xe8, 0xe9, 0xf9, 0xec, 0xf2, 0xc7,
    0x0a, 0xd8, 0xf8, 0x0d, 0xc5, 0xe5, 0x394, 0x5f, 0x3a6, 0x393,
    0x39b, 0x3a9, 0x3a0, 0x3a8, 0x3a3, 0x398, 0x39e, 0xffff, 0xc6,
    0xe6, 0xdf, 0xc9, 0x20, 0x21, 0x22, 0x23, 0xa4, 0x25, 0x26, 0x27, 0x28,
    0x29, 0x2a, 0x2b, 0x2c, 0x2d, 0x2e, 0x2f, 0x30, 0x31, 0x32, 0x33, 0x34, 0x35, 0x36, 0x37, 0x38,
    0x39, 0x3a,
    0x3b, 0x3c, 0x3d, 0x3e, 0x3f, 0xa1, 0x41, 0x42, 0x43, 0x44, 0x45, 0x46, 0x47, 0x48, 0x49,
    0x4a, 0x4b, 0x4c, 0x4d, 0x4e, 0x4f, 0x50, 0x51, 0x52, 0x53, 0x54, 0x55, 0x56, 0x57, 0x58, 0x59,
    0x5a,
    0xc4, 0xd6, 0xd1, 0xdc, 0xa7, 0xbf, 0x61, 0x62, 0x63, 0x64, 0x65,
    0x66, 0x67, 0x68, 0x69, 0x6a, 0x6b, 0x6c, 0x6d, 0x6e, 0x6f, 0x70, 0x71, 0x72, 0x73, 0x74, 0x75,
    0x76, 0x77, 0x78, 0x79, 0x7a, 0xe4, 0xf6, 0xf1, 0xfc, 0xe0]

def LANGUAGE_EXT_TABLE_MAP : Nat → Option UInt16
  | 0x0A => some 0x0c
  | 0x14 => some 0x5e
  | 0x28 => some 0x7b
  | 0x29 => some 0x7d
  | 0x2F => some 0x5c
  | 0x3C => some 0x5b
  | 0x3D => some 0x7e
  | 0x3E => some 0x5d
  | 0x40 => some 0x7c
  | 0x65 => some 0xac
  | _ => none

def cphsLoop : StdString → Bool → U16String
  | low :: high :: rest, escTag =>
    let gsmVal := (hexCharConvertToInt low).toNat * 16 + (hexCharConvertToInt high).toNat
    match LANGUAGE_TABLE[gsmVal]? with
    | none => cphsLoop rest escTag
    | some c =>
      if !escTag && gsmVal == 0x1B then cphsLoop rest true
      -- Two escape chars in a row We treat this as a space
      else if escTag && gsmVal == 0x1B then 32 :: cphsLoop rest false
      else if escTag then (LANGUAGE_EXT_TABLE_MAP gsmVal).getD c :: cphsLoop rest false
      else c :: cphsLoop rest false
  | _, _ => []

def cphs7bitConvertToString (utf : Utf) (rawData : StdString) : StdString :=
  if rawData = [] then [] else utf.toUtf8 (cphsLoop rawData false)

def char16Loop (bigEndian : Bool) : List UInt8 → U16String
  | high :: low :: rest =>
    (if bigEndian then (high.toUInt16 <<< 8) ||| low.toUInt16
      else (low.toUInt16 <<< 8) ||| high.toUInt16) :: char16Loop bigEndian rest
  | _ => []

def charsConvertToChar16 (charBytes : List UInt8) (bigEndian : Bool) : Option U16String :=
  if charBytes = [] then none
  else if charBytes.length % 2 ≠ 0 then none
  else some (char16Loop bigEndian charBytes)

/-- The characters up to a zero. Without `cs`, which only a field of one or two bytes leads to, the
source reads a null pointer. -/
def u16FromPointer (cs : Option U16String) : U16String := (cs.getD []).takeWhile (· ≠ 0)

/-- One byte a character, the upper half from a base. -/
def ucsConvertToString (data : List UInt8) (length offset : Nat) : U16String :=
  if length ≤ offset + 1 then []
  else
    let len := min (data.getD (offset + 1) 0).toNat (length - START_POS)
    let base := (data.getD (offset + 2) 0).toNat <<< 7
    let dataUsc := ((data.drop (offset + 3)).take (min len (length - (offset + 3)))).flatMap
      fun b =>
        let dataDouble := (if b &&& 0x80 > 0 then base else 0) + (b &&& 0x7F).toNat
        [UInt8.ofNat (dataDouble / 0x100), UInt8.ofNat (dataDouble % 0x100)]
    u16FromPointer (charsConvertToChar16 dataUsc true)

/-- The same with a base of two bytes. -/
def ucsWideConvertToString (data : List UInt8) (length offset : Nat) : U16String :=
  if length ≤ offset + 1 then []
  else
    let len := min (data.getD (offset + 1) 0).toNat (length - END_POS)
    let base := (data.getD (offset + 2) 0).toNat <<< 8 + (data.getD (offset + 3) 0).toNat
    let dataUsc := ((data.drop (offset + 4)).take (min len (length - (offset + 4)))).flatMap
      fun b =>
        if b &&& 0x80 > 0 then
          let dataDouble := base + (b &&& 0x7F).toNat
          [UInt8.ofNat (dataDouble / 0x100), UInt8.ofNat (dataDouble % 0x100)]
        else [0, b]
    u16FromPointer (charsConvertToChar16 dataUsc true)

/-- Its last parameter is not used. -/
def diallingNumberStringFieldConvertToString (utf : Utf) (data : List UInt8)
    (offset length : Nat) : StdString :=
  if offset ≥ length then []
  else
    let flag := data.getD offset 0
    let hs :=
      if flag = CHINESE_FLAG then
        u16FromPointer (charsConvertToChar16 ((data.drop 1).take ((length - 1) / 2 * 2)) true)
      else []
    let hs := if length ≥ START_POS ∧ flag = UCS_FLAG then
      ucsConvertToString data length offset else hs
    let hs := if length ≥ END_POS ∧ flag = UCS_WIDE_FLAG then
      ucsWideConvertToString data length offset else hs
    if hs ≠ [] then utf.str16ToStr8 (hs.rdropWhile (· == FILLER))
    else cphs7bitConvertToString utf (bytesConvertToHexString (data.take length))

end TelephonyCore.Phonebook
