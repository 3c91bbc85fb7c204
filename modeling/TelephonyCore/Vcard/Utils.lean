import TelephonyCore.Codec.Asn1Utils
import Mathlib.Data.List.DropRight

/-!
# `VCardUtils`, `VCardFileUtils` and `VCardRawData`

A vCard file is read line by line from a stream. The model of the stream is the text that has not
been read: at its end `peek` gives `EOF` and `getline` the empty string. What lies outside the
repository, `iconv` and the base64 functions of OpenSSL, is a parameter `Platform`.
-/

namespace TelephonyCore.Vcard

open Codec List

/-! ## Strings -/

def trim (str : StdString) : StdString := (str.dropWhile isSpace).rdropWhile isSpace

/-- The tokens from a position on, when `skip` characters of a delimiter are left. -/
def splitFrom (delimiter : StdString) (skip : Nat) (token : StdString) :
    StdString → List StdString
  | [] => if token = [] then [] else [token]
  | c :: rest =>
    match skip with
    | skip + 1 => splitFrom delimiter skip token rest
    | 0 =>
      if delimiter <+: c :: rest then
        token :: splitFrom delimiter (delimiter.length - 1) [] rest
      else splitFrom delimiter 0 (token ++ [c]) rest

/-- An empty token at the end is dropped. -/
def split (input delimiter : StdString) : List StdString := splitFrom delimiter 0 [] input

def upper (c : UInt8) : UInt8 := if 97 ≤ c ∧ c ≤ 122 then c - 32 else c

def lower (c : UInt8) : UInt8 := if 65 ≤ c ∧ c ≤ 90 then c + 32 else c

def toUpper (str : StdString) : StdString := str.map upper

def equalsIgnoreCase (str1 str2 : StdString) : Bool := str1.map lower == str2.map lower

def startWith (str start : StdString) : Bool := start.isPrefixOf str

def endWith (fullString ending : StdString) : Bool := ending.isSuffixOf fullString

/-- `str.find(part) != npos` -/
def contains (str part : StdString) : Bool := decide (part <:+: str)

def isPrintableAscii (c : UInt8) : Bool := 32 ≤ c && c ≤ 126

/-! ## The platform -/

structure Platform where
  /-- `iconv` from the charset of the locale to another one -/
  iconv : (toCharset input : StdString) → Option StdString
  base64Decode : StdString → Option StdString

def MAX_VCARD_INPUT_SIZE : Nat := 100 * 1024 * 1024

/-- `ConvertCharset`; `none` is its error code. -/
def Platform.convertCharset (platform : Platform) (input toCharset : StdString) :
    Option StdString :=
  if input.length > MAX_VCARD_INPUT_SIZE then none else platform.iconv toCharset input

def Platform.decodeBase64 (platform : Platform) (input : StdString) : StdString :=
  (platform.base64Decode input).getD []

/-! ## The file -/

def getline (file : StdString) : StdString × StdString :=
  (file.takeWhile (· ≠ 10), (file.dropWhile (· ≠ 10)).tail)

def lines : StdString → List StdString
  | [] => []
  | c :: rest =>
    if c = 10 then [] :: lines rest
    else match lines rest with
      | [] => [[c]]
      | line :: more => (c :: line) :: more

theorem getline_newline (rest : StdString) : getline (10 :: rest) = ([], rest) := rfl

theorem getline_cons {c : UInt8} (hc : c ≠ 10) (rest : StdString) :
    getline (c :: rest) = (c :: (getline rest).1, (getline rest).2) := by
  simp [getline, hc]

variable {file line : StdString}

theorem lines_eq_cons (h : file ≠ []) :
    lines file = (getline file).1 :: lines (getline file).2 := by
  induction file with
  | nil => exact absurd rfl h
  | cons c rest ih =>
    by_cases hc : c = 10
    · subst hc
      rfl
    · rw [lines, if_neg hc, getline_cons hc]
      cases rest with
      | nil => rfl
      | cons d rest => rw [ih (by simp)]

theorem getline_length (file : StdString) :
    (getline file).1.length + (getline file).2.length ≤ file.length := by
  induction file with
  | nil => exact Nat.le_refl 0
  | cons c rest ih =>
    by_cases hc : c = 10
    · subst hc
      simp [getline_newline]
    · rw [getline_cons hc, length_cons, length_cons]
      show (getline rest).1.length + 1 + (getline rest).2.length ≤ rest.length + 1
      omega

theorem getline_shorter (h : file ≠ []) : (getline file).2.length < file.length := by
  cases file with
  | nil => exact absurd rfl h
  | cons c rest =>
    by_cases hc : c = 10
    · subst hc
      exact Nat.lt_succ_self rest.length
    · have hr := getline_length rest
      rw [getline_cons hc, length_cons]
      show (getline rest).2.length < rest.length + 1
      omega

theorem getline_append (h : 10 ∉ line) (rest : StdString) :
    getline (line ++ 10 :: rest) = (line, rest) := by
  induction line with
  | nil => rfl
  | cons c line ih =>
    have hc : c ≠ 10 := fun heq => h (heq ▸ mem_cons_self)
    rw [cons_append, getline_cons hc, ih fun hm => h (mem_cons_of_mem c hm)]

theorem lines_append (h : 10 ∉ line) (rest : StdString) :
    lines (line ++ 10 :: rest) = line :: lines rest := by
  rw [lines_eq_cons (by simp), getline_append h]

/-! ## A property of a card -/

structure VCardRawData where
  name : StdString := []
  rawValue : StdString := []
  bytes : StdString := []
  values : List StdString := []
  groups : List StdString := []
  params : List (StdString × List StdString) := []
deriving DecidableEq

def VCardRawData.appendParameter (rawData : VCardRawData) (param value : StdString) :
    VCardRawData :=
  { rawData with params :=
      if rawData.params.any (·.1 == param) then
        rawData.params.map fun p => if p.1 = param then (p.1, p.2 ++ [value]) else p
      else rawData.params ++ [(param, [value])] }

def VCardRawData.getParameters (rawData : VCardRawData) (key : StdString) : List StdString :=
  ((rawData.params.find? (·.1 == key)).map Prod.snd).getD []

end TelephonyCore.Vcard
