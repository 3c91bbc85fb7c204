import TelephonyCore.Codec.Asn1Utils

/-!
# `Asn1Node`: one TLV object and how it is written

An `Asn1Node` holds its content either as raw bytes (`dataBytes`) or as child nodes (`children`);
`dataLength` and `encodedLength` are kept beside the content and never recomputed by the writer. The
two places that add to `children_` test for null first, so a node's children are nodes here; only a
builder's list can hold a null.
-/

namespace TelephonyCore.Codec

open Lib Der
open Lib.Der (byteCount minimalBytes header lengthOctets tlv)

structure Asn1Node where
  tag : UInt32 := 0
  children : List Asn1Node := []
  constructed : Bool := false
  dataBytes : List UInt8 := []
  dataOffset : UInt32 := 0
  dataLength : UInt32 := 0
  encodedLength : UInt32 := 0

namespace Asn1Node

def make (tag : UInt32) (src : List UInt8) (offset length : UInt32) : Asn1Node where
  tag := tag
  constructed := isConstructedTag tag
  dataBytes := src
  dataOffset := offset
  dataLength := length
  encodedLength := byteCountForUint tag + calculateEncodedBytesNumForLength length + length

/-- The tag and length part of `Asn1Write`; `false` where it returns early. -/
def asn1WriteHead (tag dataLength : UInt32) : List UInt8 × Bool :=
  let uintByte := uintToBytes tag
  if uintByte.1 = 0 ∨ uintByte.2 = [] then ([], false)
  else if dataLength ≤ MAX_INT8 then (uintByte.2 ++ [dataLength.toUInt8], true)
  else
    -- bytes required for encoding the length
    let encodeLens := (byteCountForUint dataLength ||| BIT8_MASK.toUInt32).toUInt8
    let uintByteStr := uintToBytes dataLength
    if uintByteStr.1 = 0 ∨ uintByteStr.2 = [] then (uintByte.2 ++ [encodeLens], false)
    else (uintByte.2 ++ encodeLens :: uintByteStr.2, true)

mutual
/-- The bytes `Asn1Write` appends to its destination. -/
def asn1Write : Asn1Node → List UInt8
  | ⟨tag, children, constructed, dataBytes, _, dataLength, _⟩ =>
    let head := asn1WriteHead tag dataLength
    if head.2 then
      head.1 ++ (if constructed && dataBytes.isEmpty then asn1WriteAll children else dataBytes)
    else head.1

def asn1WriteAll : List Asn1Node → List UInt8
  | [] => []
  | node :: nodes => asn1Write node ++ asn1WriteAll nodes
end

def asn1NodeToBytes (node : Asn1Node) : List UInt8 :=
  if node.encodedLength = 0 then [] else asn1Write node

def asn1NodeToHexStr (node : Asn1Node) : StdString := bytesToHexStr (asn1NodeToBytes node)

def getEncodedLength (node : Asn1Node) : UInt32 := node.encodedLength

/-- `Asn1GetHeadAsHexStr`: `none` where the source fails and leaves `headHex` alone. -/
def asn1GetHeadAsHexStr (node : Asn1Node) : Option StdString :=
  let byteStream := uintToBytes node.tag
  if byteStream.1 = 0 ∨ byteStream.2 = [] then none
  else if node.dataLength ≤ MAX_INT8 then
    some (bytesToHexStr byteStream.2 ++ byteToHexStr node.dataLength.toUInt8)
  else
    let bytesCount := byteCountForUint node.dataLength
    let dataLenStream := uintToBytes node.dataLength
    if dataLenStream.1 = 0 ∨ dataLenStream.2 = [] then none
    else some (bytesToHexStr byteStream.2
      ++ byteToHexStr (bytesCount ||| BIT8_MASK.toUInt32).toUInt8
      ++ bytesToHexStr dataLenStream.2)

def asn1AsBytes (node : Asn1Node) : List UInt8 :=
  if node.constructed ∨ node.dataBytes = [] then []
  else if (node.dataLength - node.dataOffset).toNat > node.dataBytes.length then []
  else (node.dataBytes.take node.dataLength.toNat).drop node.dataOffset.toNat

def asn1AsInteger (node : Asn1Node) : Int32 :=
  if node.constructed ∨ node.dataBytes = [] then -1
  else (bytesToInt node.dataBytes node.dataOffset node.dataLength).getD (-1)

def asn1AsString (node : Asn1Node) : StdString :=
  if node.constructed ∨ node.dataBytes = [] then []
  else bytesToHexStr node.dataBytes

/-! ## What is written -/

theorem uintToBytes_ne_zero (value : UInt32) :
    ¬((uintToBytes value).1 = 0 ∨ (uintToBytes value).2 = []) := by
  obtain ⟨hl, hbs⟩ := uintToBytes_eq value
  rintro (h | h)
  · rw [h] at hl
    exact absurd hl.symm (Nat.ne_of_gt (byteCount_pos _))
  · rw [hbs] at h
    exact minimalBytes_ne_nil _ h

theorem countByte_eq (value : UInt32) : (byteCountForUint value ||| BIT8_MASK.toUInt32).toUInt8
      = .ofNat (128 + byteCount value.toNat) := by
  rw [← byteCountForUint_toNat]
  unfold byteCountForUint byteCountForInt
  repeat' split
  all_goals rfl

theorem asn1WriteHead_eq (tag dataLength : UInt32) :
    asn1WriteHead tag dataLength = (header tag.toNat dataLength.toNat, true) := by
  unfold asn1WriteHead header lengthOctets
  rw [if_neg (uintToBytes_ne_zero tag), (uintToBytes_eq tag).2]
  by_cases h : dataLength.toNat ≤ 127
  · rw [if_pos (by rw [UInt32.le_iff_toNat_le]; exact h), if_pos h]
    rfl
  · rw [if_neg (by rw [UInt32.le_iff_toNat_le]; exact h), if_neg h,
      if_neg (uintToBytes_ne_zero dataLength), (uintToBytes_eq dataLength).2, countByte_eq]

theorem asn1Write_eq (node : Asn1Node) :
    asn1Write node = header node.tag.toNat node.dataLength.toNat
      ++ (if node.constructed && node.dataBytes.isEmpty then asn1WriteAll node.children
          else node.dataBytes) := by
  cases node
  simp [asn1Write, asn1WriteHead_eq]

theorem asn1GetHeadAsHexStr_eq (node : Asn1Node) :
    asn1GetHeadAsHexStr node
      = some (bytesToHexStr (header node.tag.toNat node.dataLength.toNat)) := by
  have h4 := byteCount_le_four node.tag
  have h4' := byteCount_le_four node.dataLength
  have hhx : ∀ bs, bs.length ≤ 9 →
      bytesToHexStr bs = bs.flatMap (fun b => streamHex BYTE_TO_HEX_LEN b.toNat) := by
    intro bs hbs
    unfold bytesToHexStr
    rw [if_neg (by unfold MAX_BPP_LENGTH; omega)]
  have hh : (header node.tag.toNat node.dataLength.toNat).length ≤ 9 := by
    rw [header_length]
    unfold lengthCount
    split <;> omega
  unfold asn1GetHeadAsHexStr
  rw [if_neg (uintToBytes_ne_zero _), (uintToBytes_eq _).2, hhx _ hh, header, lengthOctets,
    hhx _ (by rw [minimalBytes_length]; omega)]
  by_cases h : node.dataLength.toNat ≤ 127
  · rw [if_pos (by rw [UInt32.le_iff_toNat_le]; exact h), if_pos h, List.flatMap_append,
      List.flatMap_singleton, byteToHexStr]
    rfl
  · rw [if_neg (by rw [UInt32.le_iff_toNat_le]; exact h), if_neg h,
      if_neg (uintToBytes_ne_zero _), (uintToBytes_eq _).2, countByte_eq,
      hhx _ (by rw [minimalBytes_length]; omega), List.flatMap_append, List.flatMap_cons,
      byteToHexStr, List.append_assoc]

/-! ## Nodes whose stored lengths are right -/

/-- The stored lengths of a node that holds `n` content bytes. -/
structure LengthsFor (node : Asn1Node) (n : Nat) : Prop where
  data : node.dataLength.toNat = n
  encoded : node.encodedLength.toNat = (header node.tag.toNat n).length + n

variable {n : Nat} {src : List UInt8}

theorem encodedLength_toNat (tag : UInt32) (hn : n < 2 ^ 31) :
    (byteCountForUint tag + calculateEncodedBytesNumForLength (.ofNat n)
      + .ofNat n).toNat = (header tag.toNat n).length + n := by
  have h1 := byteCount_le_four tag
  have h2 := byteCount_le_four (.ofNat n)
  have hn' : (UInt32.ofNat n).toNat = n := by simp; omega
  have hl : lengthCount n ≤ 5 := by
    rw [hn'] at h2
    unfold lengthCount
    split <;> omega
  rw [UInt32.toNat_add, UInt32.toNat_add, byteCountForUint_toNat,
    calculateEncodedBytesNumForLength_toNat, hn', header_length]
  omega

theorem make_lengths (tag : UInt32) (h : src.length < 2 ^ 31) :
    LengthsFor (make tag src 0 (.ofNat src.length)) src.length where
  data := by show (UInt32.ofNat src.length).toNat = _; simp; omega
  encoded := encodedLength_toNat tag h

theorem asn1Write_make (tag : UInt32) (h : src.length < 2 ^ 31) :
    asn1Write (make tag src 0 (.ofNat src.length)) = tlv tag.toNat src := by
  rw [asn1Write_eq, (make_lengths tag h).data, tlv_eq_header]
  congr 1
  show (if isConstructedTag tag && src.isEmpty then asn1WriteAll [] else src) = src
  split
  next hif =>
    rw [Bool.and_eq_true, List.isEmpty_iff] at hif
    rw [hif.2]
    rfl
  next => rfl

theorem LengthsFor.ne_zero {node : Asn1Node} (h : LengthsFor node n) : node.encodedLength ≠ 0 := by
  intro h0
  have he := h.encoded
  rw [h0, header_length] at he
  have := byteCount_pos node.tag.toNat
  simp at he
  omega

end Asn1Node

end TelephonyCore.Codec
