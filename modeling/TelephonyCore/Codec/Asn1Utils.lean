import TelephonyCore.Lib.Der

/-!
# `Asn1Utils`: the hex and integer helpers of the ASN.1 codec

`utils/codec/src/asn1_utils.cpp` moves every number through hex text: it is printed with an output
stream and the text is read back two characters at a time with `strtol`. The definitions below keep
that route, down to the `MAX_BPP_LENGTH` guards and what `strtol` does with blanks, signs and `0x`.

`std::string` is a list of bytes (`StdString`), `uint32_t` is `UInt32` and `int32_t` is `Int32`.
`long` is the 64-bit one of the LP64 targets.
-/

namespace TelephonyCore.Codec

open Lib List
open Lib.Der (byteCount minimalBytes)

/-- The characters of a `std::string`. -/
abbrev StdString := List UInt8

def ascii (s : String) : StdString := s.toList.map (fun c => UInt8.ofNat c.toNat)

/-! ## Constants (`asn1_constants.h`) -/

def BYTE_TO_HEX_LEN : Nat := 2
def BIT6_MASK : UInt8 := 0x20
def BIT8_MASK : UInt8 := 0x80
def MAX_UINT8 : UInt32 := 0xFF
def MAX_UINT16 : UInt32 := 0xFFFF
def MAX_UINT24 : UInt32 := 0xFFFFFF
def MAX_BPP_LENGTH : Nat := 245760
def MAX_INT8 : UInt32 := 0x7F
def MAX_INT16 : UInt32 := 0x7FFF
def MAX_INT24 : UInt32 := 0x7FFFFF

def HEX_STR_MAX_LENGTH : UInt32 := 4

/-! ## Printing and reading hex text -/

/-- The uppercase hex digit of a value below 16. -/
def hexDigit (d : Nat) : UInt8 := if d < 10 then UInt8.ofNat (48 + d) else UInt8.ofNat (55 + d)

/-- `oss << std::hex << std::uppercase << std::setw(width) << std::setfill('0') << value`. -/
def streamHex (width value : Nat) : StdString :=
  let ds := if value = 0 then [0] else (Nat.digits 16 value).reverse
  (List.replicate (width - ds.length) 0 ++ ds).map hexDigit

def isSpace (c : UInt8) : Bool := c == 32 || (9 ≤ c && c ≤ 13)

def hexVal (c : UInt8) : Option Nat :=
  if 48 ≤ c && c ≤ 57 then some (c.toNat - 48)
  else if 65 ≤ c && c ≤ 70 then some (c.toNat - 55)
  else if 97 ≤ c && c ≤ 102 then some (c.toNat - 87)
  else none

/-- The digit run of `strtol`: accumulate up to the first character that is no digit. -/
def strtolDigits : Nat → StdString → Nat
  | acc, [] => acc
  | acc, c :: cs =>
    match hexVal c with
    | some d => strtolDigits (acc * 16 + d) cs
    | none => acc

/-- An optional `0x`, taken only when a hex digit follows it. -/
def skipHexMark : StdString → StdString
  | 48 :: x :: d :: rest =>
    if (x == 120 || x == 88) && (hexVal d).isSome then d :: rest else 48 :: x :: d :: rest
  | s => s

/-- `strtol(s, nullptr, 16)`: blanks, a sign, an optional `0x`, digits; clamped to `long`. -/
def strtol16 (s : StdString) : Int :=
  let s := s.dropWhile isSpace
  let signed : Int := match s with
    | 45 :: rest => -(strtolDigits 0 (skipHexMark rest) : Int)
    | 43 :: rest => strtolDigits 0 (skipHexMark rest)
    | s => strtolDigits 0 (skipHexMark s)
  max (-(2 ^ 63)) (min signed (2 ^ 63 - 1))

def hexPairs : StdString → List UInt8
  | hi :: lo :: rest => UInt8.ofInt (strtol16 [hi, lo]) :: hexPairs rest
  | _ => []

def hexStrToBytes (hexStr : StdString) : List UInt8 :=
  if hexStr.length > MAX_BPP_LENGTH * BYTE_TO_HEX_LEN then []
  else if hexStr.length % BYTE_TO_HEX_LEN ≠ 0 then []
  else hexPairs hexStr

def bytesToHexStr (bytes : List UInt8) : StdString :=
  if bytes.length > MAX_BPP_LENGTH then []
  else bytes.flatMap (fun b => streamHex BYTE_TO_HEX_LEN b.toNat)

def byteToHexStr (src : UInt8) : StdString := streamHex BYTE_TO_HEX_LEN src.toNat

/-! ## Numbers -/

def byteCountForInt (value : UInt32) (isSigned : Bool) : UInt32 :=
  if isSigned then
    if value ≤ MAX_INT8 then 1
    else if value ≤ MAX_INT16 then 2
    else if value ≤ MAX_INT24 then 3
    else 4
  else
    if value ≤ MAX_UINT8 then 1
    else if value ≤ MAX_UINT16 then 2
    else if value ≤ MAX_UINT24 then 3
    else 4

def byteCountForUint (value : UInt32) : UInt32 := byteCountForInt value false

def calculateEncodedBytesNumForLength (length : UInt32) : UInt32 :=
  if length > MAX_INT8 then 1 + byteCountForUint length else 1

/-- `Asn1Utils::UintToBytes`: the returned length and the bytes. -/
def uintToBytes (value : UInt32) : UInt32 × List UInt8 :=
  let len := byteCountForInt value false
  (len, hexStrToBytes (streamHex (len.toNat * BYTE_TO_HEX_LEN) value.toNat))

/-- `Asn1Utils::IntToBytes`: a negative number prints as its two's complement. -/
def intToBytes (value : Int32) : UInt32 × List UInt8 :=
  let len := byteCountForInt value.toUInt32 true
  (len, hexStrToBytes (streamHex (len.toNat * BYTE_TO_HEX_LEN) value.toUInt32.toNat))

/-- `Asn1Utils::BytesToInt`: `none` where the source returns `false`. -/
def bytesToInt (src : List UInt8) (offset length : UInt32) : Option Int32 :=
  if length > HEX_STR_MAX_LENGTH ∨ offset.toNat ≥ src.length
      ∨ length.toNat > src.length - offset.toNat then none
  else
    let subByteStream := (src.drop offset.toNat).take length.toNat
    some (Int32.ofInt (strtol16 (bytesToHexStr subByteStream)))

def isConstructedTag (tag : UInt32) : Bool :=
  match (uintToBytes tag).2 with
  | [] => false
  | b :: _ => b &&& BIT6_MASK != 0

/-! ## Strings -/

def strToHexStr (str : StdString) : StdString := bytesToHexStr str

def hexStrToString (hexStr : StdString) : StdString := hexStrToBytes hexStr

def stringToBytes (src : StdString) : List UInt8 := hexStrToBytes (strToHexStr src)

def bytesToString (src : List UInt8) : StdString := hexStrToString (bytesToHexStr src)

def swapPairs : StdString → StdString
  | a :: b :: rest => b :: a :: swapPairs rest
  | _ => []

def swapHexCharPair (hexStr : StdString) : StdString :=
  if hexStr.length > MAX_UINT8.toNat * BYTE_TO_HEX_LEN then []
  else swapPairs (if hexStr.length % BYTE_TO_HEX_LEN ≠ 0 then hexStr ++ [48] else hexStr)

def bchToString (src : List UInt8) : StdString := swapHexCharPair (bytesToHexStr src)

/-! ## What the text route computes -/

theorem hexVal_hexDigit : ∀ d, d < 16 → hexVal (hexDigit d) = some d := by decide

theorem hexDigit_plain : ∀ d, d < 16 →
    isSpace (hexDigit d) = false ∧ hexDigit d ≠ 45 ∧ hexDigit d ≠ 43 ∧
      hexDigit d ≠ 120 ∧ hexDigit d ≠ 88 := by decide

theorem strtolDigits_hexDigits (ds : List Nat) (hds : ∀ d ∈ ds, d < 16) (acc : Nat) :
    strtolDigits acc (ds.map hexDigit) = ds.foldl (fun a d => a * 16 + d) acc := by
  induction ds generalizing acc with
  | nil => rfl
  | cons d ds ih =>
    rw [map_cons, strtolDigits, hexVal_hexDigit d (hds d (by simp)), foldl_cons]
    exact ih (fun x hx => hds x (by simp [hx])) _

theorem skipHexMark_hexDigits (ds : List Nat) (hds : ∀ d ∈ ds, d < 16) :
    skipHexMark (ds.map hexDigit) = ds.map hexDigit := by
  unfold skipHexMark
  split
  next x d rest heq =>
    have hx : ∃ e ∈ ds, hexDigit e = x := by
      have : x ∈ ds.map hexDigit := by rw [heq]; simp
      simpa using this
    obtain ⟨e, he, rfl⟩ := hx
    obtain ⟨-, -, -, h120, h88⟩ := hexDigit_plain e (hds e he)
    simp [h120, h88, heq]
  next => rfl

theorem strtol16_hexDigits (ds : List Nat) (hds : ∀ d ∈ ds, d < 16)
    (hf : valueBE 16 ds < 2 ^ 63) : strtol16 (ds.map hexDigit) = valueBE 16 ds := by
  have hv : strtolDigits 0 (skipHexMark (ds.map hexDigit)) = valueBE 16 ds := by
    rw [skipHexMark_hexDigits ds hds, strtolDigits_hexDigits ds hds, valueBE]
  have hdr : (ds.map hexDigit).dropWhile isSpace = ds.map hexDigit := by
    cases ds with
    | nil => rfl
    | cons d ds =>
      simp [(hexDigit_plain d (hds d (by simp))).1]
  have hs : ∀ c rest, ds.map hexDigit = c :: rest → c ≠ 45 ∧ c ≠ 43 := by
    intro c rest h
    have hc : c ∈ ds.map hexDigit := by rw [h]; simp
    obtain ⟨e, he, rfl⟩ := mem_map.1 hc
    exact ⟨(hexDigit_plain e (hds e he)).2.1, (hexDigit_plain e (hds e he)).2.2.1⟩
  unfold strtol16
  simp only [hdr]
  split
  next rest h => exact absurd rfl (hs _ _ h).1
  next rest h => exact absurd rfl (hs _ _ h).2
  next => rw [hv]; omega

theorem streamHex_eq {width value : Nat} (hw : 0 < width) (hv : value < 16 ^ width) :
    streamHex width value = (digitsBE 16 width value).map hexDigit := by
  unfold streamHex
  rw [digitsBE_eq_replicate_append (by decide) hv]
  by_cases h0 : value = 0
  · subst h0
    obtain ⟨w, rfl⟩ : ∃ w, width = w + 1 := ⟨width - 1, by omega⟩
    simp [replicate_succ']
  · simp [h0]

theorem streamHex_byte (b : UInt8) :
    streamHex BYTE_TO_HEX_LEN b.toNat = [b.toNat / 16, b.toNat % 16].map hexDigit := by
  have hb := b.toNat_lt
  rw [BYTE_TO_HEX_LEN, streamHex_eq (by decide) (by omega)]
  have h : b.toNat / 16 % 16 = b.toNat / 16 := by omega
  simp [digitsBE, h]

theorem hexPairs_digits (ds : List Nat) (hds : ∀ d ∈ ds, d < 256) :
    hexPairs ((ds.flatMap (fun d => [d / 16, d % 16])).map hexDigit) = ds.map .ofNat := by
  induction ds with
  | nil => rfl
  | cons d ds ih =>
    have hd : d < 256 := hds d (by simp)
    have hp : strtol16 [hexDigit (d / 16), hexDigit (d % 16)] = (d : Int) := by
      have h := strtol16_hexDigits [d / 16, d % 16] (by
        intro x hx
        rcases mem_cons.1 hx with rfl | hx
        · omega
        · rw [mem_singleton.1 hx]; omega)
      have hv : valueBE 16 [d / 16, d % 16] = d := by simp [valueBE]; omega
      rw [hv] at h
      exact h (by omega)
    show UInt8.ofInt (strtol16 [hexDigit (d / 16), hexDigit (d % 16)]) ::
      hexPairs ((ds.flatMap (fun d => [d / 16, d % 16])).map hexDigit) = _
    have hc : UInt8.ofInt (d : Int) = UInt8.ofNat d := by
      have hm : ((d : Int) % 2 ^ 8).toNat = d := by omega
      rw [UInt8.ofInt, hm]
    rw [hp, ih (fun x hx => hds x (by simp [hx])), hc, map_cons]

def upperHex (bytes : List UInt8) : StdString :=
  ((bytes.map UInt8.toNat).flatMap (fun d => [d / 16, d % 16])).map hexDigit

theorem upperHex_append (xs ys : List UInt8) : upperHex (xs ++ ys) = upperHex xs ++ upperHex ys := by
  unfold upperHex
  rw [map_append, flatMap_append, map_append]

theorem upperHex_flatten (parts : List (List UInt8)) :
    upperHex parts.flatten = (parts.map upperHex).flatten := by
  induction parts with
  | nil => rfl
  | cons p ps ih => rw [flatten_cons, upperHex_append, ih, map_cons, flatten_cons]

theorem upperHex_length (bytes : List UInt8) : (upperHex bytes).length = 2 * bytes.length := by
  unfold upperHex
  simp [Function.comp_def, Nat.mul_comm]

variable {bytes : List UInt8} {a b : UInt32}

theorem bytesToHexStr_eq (h : bytes.length ≤ MAX_BPP_LENGTH) :
    bytesToHexStr bytes = upperHex bytes := by
  unfold bytesToHexStr upperHex
  rw [if_neg (by omega), map_flatMap, flatMap_map]
  simp only [streamHex_byte]

theorem bytesToHexStr_length (h : bytes.length ≤ MAX_BPP_LENGTH) :
    (bytesToHexStr bytes).length = 2 * bytes.length := by
  rw [bytesToHexStr_eq h, upperHex_length]

theorem map_ofNat_toNat (bytes : List UInt8) : (bytes.map UInt8.toNat).map .ofNat = bytes := by
  simp [Function.comp_def]

theorem hexPairs_length : ∀ s, (hexPairs s).length = s.length / 2
  | [] => rfl
  | [_] => by simp [hexPairs]
  | hi :: lo :: rest => by
    rw [hexPairs, length_cons, hexPairs_length, length_cons, length_cons]
    omega

theorem length_of_hexStrToBytes {s : StdString} (h : hexStrToBytes s ≠ []) :
    s.length = 2 * (hexStrToBytes s).length ∧ (hexStrToBytes s).length ≤ MAX_BPP_LENGTH := by
  unfold hexStrToBytes at h ⊢
  by_cases hl : s.length > MAX_BPP_LENGTH * BYTE_TO_HEX_LEN
  · rw [if_pos hl] at h
    exact absurd rfl h
  · by_cases ho : s.length % BYTE_TO_HEX_LEN ≠ 0
    · rw [if_neg hl, if_pos ho] at h
      exact absurd rfl h
    · rw [if_neg hl, if_neg ho, hexPairs_length]
      rw [BYTE_TO_HEX_LEN] at hl ho
      omega

theorem hexStrToBytes_bytesToHexStr (h : bytes.length ≤ MAX_BPP_LENGTH) :
    hexStrToBytes (bytesToHexStr bytes) = bytes := by
  have hl := bytesToHexStr_length h
  unfold hexStrToBytes
  rw [if_neg (by rw [hl, BYTE_TO_HEX_LEN]; omega),
    if_neg (by rw [hl, BYTE_TO_HEX_LEN]; omega), bytesToHexStr_eq h,
    upperHex, hexPairs_digits _ (toNat_mem_lt bytes), map_ofNat_toNat]

theorem stringToBytes_eq {src : StdString} (h : src.length ≤ MAX_BPP_LENGTH) :
    stringToBytes src = src := hexStrToBytes_bytesToHexStr h

theorem hexStrToBytes_streamHex {k n : Nat} (hk : 0 < k) (hk4 : k ≤ 4) (hn : n < 256 ^ k) :
    hexStrToBytes (streamHex (k * BYTE_TO_HEX_LEN) n) = beBytes k n := by
  have hn16 : n < 16 ^ (2 * k) := by rw [Nat.pow_mul]; exact hn
  rw [BYTE_TO_HEX_LEN, Nat.mul_comm, streamHex_eq (by omega) hn16]
  unfold hexStrToBytes
  rw [if_neg (by simp [MAX_BPP_LENGTH, BYTE_TO_HEX_LEN]; omega),
    if_neg (by simp [BYTE_TO_HEX_LEN]), digitsBE_sq,
    hexPairs_digits _ (digitsBE_lt (by decide) k n)]
  rfl

/-! ## Words that do not wrap -/

theorem toNat_add_of_lt (h : a.toNat + b.toNat < 2 ^ 32) : (a + b).toNat = a.toNat + b.toNat := by
  exact Nat.mod_eq_of_lt h

theorem toNat_succ_of_lt (h : a.toNat < b.toNat) : (a + 1).toNat = a.toNat + 1 :=
  toNat_add_of_lt (Nat.lt_of_le_of_lt h b.toNat_lt)

theorem toNat_sub_of_le (h : b.toNat ≤ a.toNat) : (a - b).toNat = a.toNat - b.toNat :=
  UInt32.toNat_sub_of_le a b (UInt32.le_iff_toNat_le.2 h)

/-! ## Tags, lengths and integers -/

theorem byteCountForUint_toNat (value : UInt32) :
    (byteCountForUint value).toNat = byteCount value.toNat := by
  have hlt := value.toNat_lt
  unfold byteCountForUint byteCountForInt
  simp only [UInt32.le_iff_toNat_le, MAX_UINT8, MAX_UINT16, MAX_UINT24, Bool.false_eq_true,
    if_false]
  split
  next h => rw [Der.byteCount_eq (k := 0) (.inr rfl) (by simp at h; omega)]; rfl
  next h1 =>
    split
    next h => rw [Der.byteCount_eq (k := 1) (.inl (by simp at h1; omega)) (by simp at h; omega)]; rfl
    next h2 =>
      split
      next h =>
        rw [Der.byteCount_eq (k := 2) (.inl (by simp at h2; omega)) (by simp at h; omega)]; rfl
      next h3 =>
        rw [Der.byteCount_eq (k := 3) (.inl (by simp at h3; omega)) (by simp; omega)]; rfl

theorem byteCount_le_four (value : UInt32) : byteCount value.toNat ≤ 4 := by
  rw [← byteCountForUint_toNat]
  unfold byteCountForUint byteCountForInt
  repeat' split
  all_goals decide

theorem uintToBytes_eq (value : UInt32) : (uintToBytes value).1.toNat = byteCount value.toNat ∧
      (uintToBytes value).2 = minimalBytes value.toNat := by
  have hc : (byteCountForInt value false).toNat = byteCount value.toNat :=
    byteCountForUint_toNat value
  refine ⟨hc, ?_⟩
  show hexStrToBytes (streamHex ((byteCountForInt value false).toNat * BYTE_TO_HEX_LEN)
    value.toNat) = _
  rw [hc, hexStrToBytes_streamHex (Der.byteCount_pos _) (byteCount_le_four value)
    (Der.lt_pow_byteCount _)]
  rfl

theorem isConstructedTag_eq (tag : UInt32) :
    isConstructedTag tag = Der.constructedTag tag.toNat := by
  unfold isConstructedTag Der.constructedTag
  rw [(uintToBytes_eq tag).2]
  rfl

theorem calculateEncodedBytesNumForLength_toNat (length : UInt32) :
    (calculateEncodedBytesNumForLength length).toNat = Der.lengthCount length.toNat := by
  have hc := byteCountForUint_toNat length
  have h4 := byteCount_le_four length
  unfold calculateEncodedBytesNumForLength Der.lengthCount
  simp only [MAX_INT8, UInt32.lt_iff_toNat_lt]
  by_cases h : length.toNat ≤ 127
  · rw [if_pos h, if_neg (by simp; omega)]
    rfl
  · rw [if_neg h, if_pos (by simp; omega), UInt32.toNat_add, hc]
    simp only [UInt32.reduceToNat]
    omega

theorem bytesToInt_eq (pre mid post : List UInt8) {src : List UInt8} {offset length : UInt32}
    (hsr : src = pre ++ mid ++ post) (ho : offset.toNat = pre.length)
    (hl : length.toNat = mid.length) (h1 : 0 < mid.length) (h4 : mid.length ≤ 4) :
    bytesToInt src offset length = some (.ofInt (ofBeBytes mid)) := by
  have hsz : src.length = pre.length + mid.length + post.length := by
    simp [hsr, Nat.add_assoc]
  unfold bytesToInt
  rw [if_neg (by
    simp only [HEX_STR_MAX_LENGTH, UInt32.lt_iff_toNat_lt, not_or]
    refine ⟨by simp; omega, by omega, by omega⟩)]
  have hsb : (src.drop offset.toNat).take length.toNat = mid := by
    rw [hsr, ho, hl, append_assoc, drop_left, take_left]
  have hf : valueBE 256 (mid.map UInt8.toNat) < 256 ^ 4 :=
    Nat.lt_of_lt_of_le (ofBeBytes_lt mid) (Nat.pow_le_pow_right (by decide) h4)
  have hdg : (mid.map UInt8.toNat).flatMap (fun d => [d / 16, d % 16])
      = digitsBE 16 (2 * mid.length) (ofBeBytes mid) := by
    rw [digitsBE_sq, ← length_map, ofBeBytes, digitsBE_valueBE _ (toNat_mem_lt mid)]
  have hv : valueBE 16 (digitsBE 16 (2 * mid.length) (ofBeBytes mid)) = ofBeBytes mid :=
    valueBE_digitsBE (by rw [Nat.pow_mul]; exact ofBeBytes_lt mid)
  simp only [hsb]
  rw [bytesToHexStr_eq (by unfold MAX_BPP_LENGTH; omega), upperHex, hdg,
    strtol16_hexDigits _ (digitsBE_lt (by decide) _ _) (by
      rw [hv]; unfold ofBeBytes; omega), hv]

end TelephonyCore.Codec
