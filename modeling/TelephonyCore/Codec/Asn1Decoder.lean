import TelephonyCore.Codec.Asn1Node

/-!
# `Asn1Decoder`: a cursor over a byte string

`Asn1NextNode` reads one object at the cursor and moves the cursor behind it; a node's children are
decoded on demand by a decoder over its content (`Asn1BuildChildren`), after which the raw content
is dropped. All cursor arithmetic is `UInt32` arithmetic, as in the source.

These calls change a node in place; here they return the changed node beside the answer.
-/

namespace TelephonyCore.Codec

open Lib List Der
open Lib.Der (byteCount minimalBytes header lengthOctets lengthCount tlv WfTag
  wfTagOctets wfTagTail)

structure Asn1Decoder where
  srcData : List UInt8 := []
  position : UInt32 := 0
  endPos : UInt32 := 0

namespace Asn1Decoder

/-- The constructor; an out-of-bounds request leaves the decoder empty. -/
def make (src : List UInt8) (offset decodeLen : UInt32) : Asn1Decoder :=
  if offset > 0xFFFFFFFF - decodeLen ∨ (offset + decodeLen).toNat > src.length then {}
  else ⟨src, offset, offset + decodeLen⟩

def asn1HasNextNode (d : Asn1Decoder) : Bool := d.position < d.endPos

/-- The `while` loop over the continuation bytes of a tag, with fuel for its turns. -/
def skipTagBytes (srcData : List UInt8) (endPos : UInt32) : Nat → UInt32 → UInt32
  | 0, offset => offset
  | fuel + 1, offset =>
    if offset < endPos ∧ srcData.getD offset.toNat 0 &&& BIT8_MASK ≠ 0 then
      skipTagBytes srcData endPos fuel (offset + 1)
    else offset

def takeContent (d : Asn1Decoder) (tag offset dataLen : UInt32) :
    Option Asn1Node × Asn1Decoder :=
  if offset > d.endPos ∨ dataLen > d.endPos - offset then (none, d)
  else
    let byteStream := (d.srcData.drop offset.toNat).take dataLen.toNat
    (some (Asn1Node.make tag byteStream 0 dataLen), { d with position := offset + dataLen })

def buildAsn1Node (d : Asn1Decoder) (tag offset : UInt32) : Option Asn1Node × Asn1Decoder :=
  if d.srcData = [] ∨ offset.toNat ≥ d.srcData.length then (none, d)
  else
    let byteLen := d.srcData.getD offset.toNat 0
    let offset := offset + 1
    if byteLen &&& BIT8_MASK = 0 then takeContent d tag offset byteLen.toUInt32
    else
      let lenLen := byteLen.toUInt32 &&& MAX_INT8
      if offset > d.endPos ∨ lenLen > d.endPos - offset then (none, d)
      else
        match bytesToInt d.srcData offset lenLen with
        | none => (none, d)
        | some len => takeContent d tag (offset + lenLen) len.toUInt32

def asn1NextNode (d : Asn1Decoder) : Option Asn1Node × Asn1Decoder :=
  if d.endPos ≤ d.position ∨ d.srcData = [] then (none, d)
  else if d.position.toNat ≥ d.srcData.length then (none, d)
  else
    let tagStart := d.position
    let byteTag := d.srcData.getD tagStart.toNat 0
    let offset := tagStart + 1
    let offset :=
      if byteTag &&& 0x1F = 0x1F then
        skipTagBytes d.srcData d.endPos d.srcData.length offset + 1
      else offset
    if offset ≥ d.endPos then (none, d)
    else
      match bytesToInt d.srcData tagStart (offset - tagStart) with
      | none => (none, d)
      | some tag => if tag < 0 then (none, d) else buildAsn1Node d tag.toUInt32 offset

/-- The `while` loop of `Asn1BuildChildren`. A node takes bytes off the rest, so
the number of bytes is fuel enough. -/
def decodeAll : Nat → Asn1Decoder → List Asn1Node
  | 0, _ => []
  | fuel + 1, d =>
    if d.asn1HasNextNode then
      match d.asn1NextNode with
      | (none, _) => []
      | (some node, d) => node :: decodeAll fuel d
    else []

end Asn1Decoder

namespace Asn1Node

/-- `Asn1BuildChildren`: `false` for its failure code. -/
def asn1BuildChildren (node : Asn1Node) : Bool × Asn1Node :=
  if !node.constructed then (false, node)
  else if node.dataBytes = [] then (true, node)
  else
    let decoder :=
      Asn1Decoder.make node.dataBytes node.dataOffset (node.dataLength - node.dataOffset)
    (true, { node with
      children := node.children ++ decoder.decodeAll node.dataBytes.length
      dataBytes := []
      dataOffset := 0 })

def asn1GetChild (node : Asn1Node) (tag : UInt32) : Option Asn1Node × Asn1Node :=
  if !node.constructed then (none, node)
  else
    match node.asn1BuildChildren with
    | (false, node) => (none, node)
    | (true, node) => (node.children.find? (fun child => child.tag == tag), node)

def asn1HasChild (node : Asn1Node) (tag : UInt32) : Bool × Asn1Node :=
  ((node.asn1GetChild tag).1.isSome, (node.asn1GetChild tag).2)

def asn1GetGrandson (node : Asn1Node) (firstLevelTag secondLevelTag : UInt32) :
    Option Asn1Node :=
  match (node.asn1GetChild firstLevelTag).1 with
  | none => none
  | some child => (child.asn1GetChild secondLevelTag).1

def asn1GetGreatGrandson (node : Asn1Node) (firstLevelTag secondLevelTag thirdLevelTag : UInt32) :
    Option Asn1Node :=
  match node.asn1GetGrandson firstLevelTag secondLevelTag with
  | none => none
  | some grandson => (grandson.asn1GetChild thirdLevelTag).1

/-- `Asn1GetChildren`: the status and the children appended to an empty list. -/
def asn1GetChildren (node : Asn1Node) (tag : UInt32) : Bool × List Asn1Node × Asn1Node :=
  if !node.constructed then (true, [], node)
  else
    match node.asn1BuildChildren with
    | (false, node) => (false, [], node)
    | (true, node) => (true, node.children.filter (fun child => child.tag == tag), node)

end Asn1Node

/-! ## Reading one object -/

namespace Asn1Decoder

theorem getD_append_cons (pre post : List UInt8) (b : UInt8) :
    (pre ++ b :: post).getD pre.length 0 = b := by
  simp

variable {srcData : List UInt8} {endPos tag : UInt32} {d : Asn1Decoder}

theorem skipTagBytes_tail :
    ∀ rest pre post {fuel : Nat} {offset : UInt32},
      srcData = pre ++ rest ++ post → offset.toNat = pre.length → wfTagTail rest →
      rest.length ≤ fuel → pre.length + rest.length ≤ endPos.toNat →
      (skipTagBytes srcData endPos fuel offset).toNat + 1 = pre.length + rest.length := by
  intro rest
  induction rest with
  | nil => intro pre post fuel offset _ _ hwf; exact absurd hwf (by simp [wfTagTail])
  | cons c rest ih =>
    intro pre post fuel offset hsrc hoff hwf hf hend
    rw [length_cons] at hf hend
    obtain ⟨f, rfl⟩ : ∃ f, fuel = f + 1 := ⟨fuel - 1, by omega⟩
    have hg : srcData.getD offset.toNat 0 = c := by
      rw [hoff, hsrc, append_assoc, cons_append, getD_append_cons]
    unfold skipTagBytes
    rw [hg]
    cases rest with
    | nil =>
      -- the closing byte: bit 8 is clear and the loop stops on it
      have hc : c &&& BIT8_MASK = 0 := by simpa [wfTagTail, BIT8_MASK] using hwf
      rw [if_neg (by simp [hc]), hoff]
      rfl
    | cons c' rest' =>
      have hst : c &&& BIT8_MASK ≠ 0 ∧ wfTagTail (c' :: rest') := by
        simpa [wfTagTail, BIT8_MASK] using hwf
      have hl : offset < endPos := by
        rw [UInt32.lt_iff_toNat_lt]
        omega
      rw [if_pos ⟨hl, hst.1⟩]
      have hoff' : (offset + 1).toNat = (pre ++ [c]).length := by
        rw [toNat_succ_of_lt (UInt32.lt_iff_toNat_lt.1 hl), hoff, length_append]
        rfl
      have h := ih (pre ++ [c]) post (by rw [hsrc]; simp) hoff' hst.2 (Nat.le_of_succ_le_succ hf)
        (by simp only [length_append, length_singleton]; omega)
      rw [h]
      simp only [length_append, length_cons, length_nil]
      omega

/-- The tag scan of `Asn1NextNode` ends right behind a well-formed tag. -/
theorem tagEnd_toNat (pre post : List UInt8) {rest : List UInt8} {start : UInt32} {b : UInt8}
    (hsrc : srcData = pre ++ (b :: rest) ++ post) (hst : start.toNat = pre.length)
    (hwf : wfTagOctets (b :: rest)) (hend : pre.length + (b :: rest).length < endPos.toNat) :
    ((if srcData.getD start.toNat 0 &&& 0x1F = 0x1F then
        skipTagBytes srcData endPos srcData.length (start + 1) + 1
      else start + 1) : UInt32).toNat = pre.length + (b :: rest).length := by
  have hg : srcData.getD start.toNat 0 = b := by
    rw [hst, hsrc, append_assoc, cons_append, getD_append_cons]
  have hlt := endPos.toNat_lt
  have hst1 : (start + 1).toNat = (pre ++ [b]).length := by
    rw [toNat_add_of_lt (by rw [hst]; show _ + 1 < _; omega), hst, length_append]
    rfl
  rw [hg]
  rw [wfTagOctets] at hwf
  by_cases h5 : b &&& 0x1F = 0x1F
  · rw [if_pos (by simpa using h5)] at hwf
    have hsz : rest.length ≤ srcData.length := by rw [hsrc]; simp; omega
    have hsrc' : srcData = pre ++ [b] ++ rest ++ post := by rw [hsrc]; simp
    have hend' : (pre ++ [b]).length + rest.length ≤ endPos.toNat := by
      simp only [length_append, length_nil, length_cons] at hend ⊢
      omega
    have h := skipTagBytes_tail rest (pre ++ [b]) post hsrc' hst1 hwf hsz hend'
    simp only [length_append, length_singleton] at h
    simp only [length_cons] at hend ⊢
    rw [if_pos h5, toNat_add_of_lt (by show _ + 1 < _; omega)]
    show _ + 1 = _
    omega
  · rw [if_neg (by simpa using h5), List.isEmpty_iff] at hwf
    subst hwf
    rw [if_neg h5, hst1]
    simp

theorem takeContent_eq (pre content post : List UInt8) {offset dataLen : UInt32}
    (hsrc : d.srcData = pre ++ content ++ post) (hoff : offset.toNat = pre.length)
    (hln : dataLen.toNat = content.length) (hend : pre.length + content.length ≤ d.endPos.toNat) :
    takeContent d tag offset dataLen
      = (some (.make tag content 0 (.ofNat content.length)),
         { d with position := .ofNat (pre.length + content.length) }) := by
  have hlt := d.endPos.toNat_lt
  have hdl : dataLen = .ofNat content.length := by
    rw [← hln, UInt32.ofNat_toNat]
  have hsb : (d.endPos - offset).toNat = d.endPos.toNat - offset.toNat := toNat_sub_of_le (by omega)
  have hsm : offset + dataLen = .ofNat (pre.length + content.length) := by
    rw [← UInt32.toNat_inj, toNat_add_of_lt (by omega), UInt32.toNat_ofNat', Nat.mod_eq_of_lt]
    · omega
    · omega
  unfold takeContent
  rw [if_neg (by
    simp only [UInt32.lt_iff_toNat_lt]
    omega)]
  rw [hsrc, hoff, hln, append_assoc, drop_left, take_left, ← hsm, ← hdl]

theorem toUInt32_ofInt {n : Nat} (h : n < 2 ^ 31) :
    ¬ Int32.ofInt n < 0 ∧ (Int32.ofInt n).toUInt32 = .ofNat n := by
  have hin : (Int32.ofInt n).toInt = n := Int32.toInt_ofInt_of_le (by omega) (by omega)
  refine ⟨?_, ?_⟩
  · rw [Int32.lt_iff_toInt_lt, hin]
    simp
  · rw [Int32.ofInt_eq_ofNat]
    rfl

section LengthForms

variable {d : Asn1Decoder} {offset : UInt32} {byteLen : UInt8} (tag : UInt32)
  (hoff : offset.toNat < d.srcData.length) (hbyte : d.srcData.getD offset.toNat 0 = byteLen)

include hoff hbyte

theorem buildAsn1Node_short (hsh : byteLen &&& BIT8_MASK = 0) :
    buildAsn1Node d tag offset = takeContent d tag (offset + 1) byteLen.toUInt32 := by
  have hne : d.srcData ≠ [] := length_pos_iff.1 (by omega)
  rw [buildAsn1Node, if_neg (by simp [hne, hoff]), hbyte]
  exact if_pos hsh

/-- Long form: the byte is a count, and the length stands in as many bytes behind it. -/
theorem buildAsn1Node_long (hln : ¬ byteLen &&& BIT8_MASK = 0) {lenLen : UInt32}
    (hll : byteLen.toUInt32 &&& MAX_INT8 = lenLen) :
    buildAsn1Node d tag offset =
      if offset + 1 > d.endPos ∨ lenLen > d.endPos - (offset + 1) then (none, d)
      else
        match bytesToInt d.srcData (offset + 1) lenLen with
        | none => (none, d)
        | some len => takeContent d tag (offset + 1 + lenLen) len.toUInt32 := by
  have hne : d.srcData ≠ [] := length_pos_iff.1 (by omega)
  subst hll
  rw [buildAsn1Node, if_neg (by simp [hne, hoff]), hbyte]
  exact if_neg hln

end LengthForms

section ContentAt

variable (pre content post : List UInt8) {d : Asn1Decoder} {tag offset : UInt32}
  (hsrc : d.srcData = pre ++ lengthOctets content.length ++ content ++ post)
  (hoff : offset.toNat = pre.length)
  (hend : pre.length + lengthCount content.length + content.length ≤ d.endPos.toNat)

include hsrc hoff hend

theorem buildAsn1Node_eq_short (h127 : content.length ≤ 127) :
    buildAsn1Node d tag offset
      = (some (Asn1Node.make tag content 0 (UInt32.ofNat content.length)),
         { d with position := UInt32.ofNat (pre.length + 1 + content.length) }) := by
  have hoc : lengthOctets content.length = [UInt8.ofNat content.length] := if_pos h127
  have hcn : lengthCount content.length = 1 := if_pos h127
  have hin : offset.toNat < d.srcData.length := by
    rw [hsrc, hoc]
    simp [hoff]
  have hg : d.srcData.getD offset.toNat 0 = UInt8.ofNat content.length := by
    rw [hoff, hsrc, hoc, append_assoc, append_assoc, singleton_append, getD_append_cons]
  have hcl : UInt8.ofNat content.length &&& BIT8_MASK = 0 := by
    have : ∀ n, n ≤ 127 → UInt8.ofNat n &&& BIT8_MASK = 0 := by decide
    exact this _ h127
  have hn := toNat_succ_of_lt (show offset.toNat < d.endPos.toNat by omega)
  rw [buildAsn1Node_short tag hin hg hcl,
    takeContent_eq (pre ++ [UInt8.ofNat content.length]) content post
      (by rw [hsrc, hoc]) (by rw [hn, hoff]; simp)
      (by simp; omega) (by simp only [length_append, length_singleton]; omega)]
  simp

theorem buildAsn1Node_eq_long (hsm : content.length < 2 ^ 31) (h127 : ¬ content.length ≤ 127) :
    buildAsn1Node d tag offset
      = (some (Asn1Node.make tag content 0 (UInt32.ofNat content.length)),
         { d with position :=
             UInt32.ofNat (pre.length + (1 + byteCount content.length) + content.length) }) := by
  have hlt := d.endPos.toNat_lt
  have hoc : lengthOctets content.length
      = UInt8.ofNat (128 + byteCount content.length) :: minimalBytes content.length := if_neg h127
  have hcn : lengthCount content.length = 1 + byteCount content.length := if_neg h127
  have h4 : byteCount content.length ≤ 4 := by
    have h := byteCount_le_four (UInt32.ofNat content.length)
    rwa [UInt32.toNat_ofNat', Nat.mod_eq_of_lt (by omega)] at h
  have hc0 := byteCount_pos content.length
  have hin : offset.toNat < d.srcData.length := by
    rw [hsrc, hoc]
    simp [hoff]
  have hg : d.srcData.getD offset.toNat 0 = UInt8.ofNat (128 + byteCount content.length) := by
    rw [hoff, hsrc, hoc, append_assoc, append_assoc, cons_append, getD_append_cons]
  have hm : ∀ k, k ≤ 4 → UInt8.ofNat (128 + k) &&& BIT8_MASK ≠ 0 ∧
      ((UInt8.ofNat (128 + k)).toUInt32 &&& MAX_INT8).toNat = k := by decide
  obtain ⟨hst, hll⟩ := hm _ h4
  have hn := toNat_succ_of_lt (show offset.toNat < d.endPos.toNat by omega)
  rw [buildAsn1Node_long tag hin hg hst rfl]
  generalize (UInt8.ofNat (128 + byteCount content.length)).toUInt32 &&& MAX_INT8 = lenLen
    at hll ⊢
  have hsb : (d.endPos - (offset + 1)).toNat = d.endPos.toNat - (offset + 1).toNat :=
    toNat_sub_of_le (by omega)
  have hoff2 : (offset + 1 + lenLen).toNat = offset.toNat + 1 + lenLen.toNat := by
    rw [toNat_add_of_lt (by omega), hn]
  have hw : (UInt32.ofNat content.length).toNat = content.length := by
    rw [UInt32.toNat_ofNat', Nat.mod_eq_of_lt (by omega)]
  rw [if_neg (by
      simp only [UInt32.lt_iff_toNat_lt]
      omega),
    bytesToInt_eq (pre ++ [UInt8.ofNat (128 + byteCount content.length)])
      (minimalBytes content.length) (content ++ post) (by rw [hsrc, hoc]; simp)
      (by rw [hn, hoff]; simp) (by rw [hll, minimalBytes_length])
      (by rw [minimalBytes_length]; exact hc0) (by rw [minimalBytes_length]; exact h4),
    ofBeBytes_minimalBytes]
  simp only [(toUInt32_ofInt hsm).2]
  rw [takeContent_eq (pre ++ UInt8.ofNat (128 + byteCount content.length)
        :: minimalBytes content.length) content post
      (by rw [hsrc, hoc]) (by rw [hoff2, hoff, hll]; simp; omega) hw
      (by simp only [length_append, length_cons, minimalBytes_length]; omega)]
  simp only [length_append, length_cons, minimalBytes_length]
  congr 4
  omega

theorem buildAsn1Node_eq (hsm : content.length < 2 ^ 31) :
    buildAsn1Node d tag offset
      = (some (.make tag content 0 (.ofNat content.length)),
         { d with position :=
             .ofNat (pre.length + lengthCount content.length + content.length) }) := by
  by_cases h127 : content.length ≤ 127
  · rw [show lengthCount content.length = 1 from if_pos h127]
    exact buildAsn1Node_eq_short pre content post hsrc hoff hend h127
  · rw [show lengthCount content.length = 1 + byteCount content.length from if_neg h127]
    exact buildAsn1Node_eq_long pre content post hsrc hoff hend hsm h127

end ContentAt

/-- **Reading one object**: the node over its content, and the cursor behind it. -/
theorem asn1NextNode_tlv {pre content post : List UInt8}
    (hsrc : d.srcData = pre ++ tlv tag.toNat content ++ post) (hp : d.position.toNat = pre.length)
    (hta : WfTag tag.toNat) (hsm : content.length < 2 ^ 31)
    (hend : pre.length + (tlv tag.toNat content).length ≤ d.endPos.toNat) :
    d.asn1NextNode
      = (some (Asn1Node.make tag content 0 (UInt32.ofNat content.length)),
         { d with position := UInt32.ofNat (pre.length + (tlv tag.toNat content).length) }) := by
  have h4 := byteCount_le_four tag
  have hc0 := byteCount_pos tag.toNat
  have hl0 := lengthCount_pos content.length
  rw [tlv_length] at hend
  have hsz : d.srcData.length = pre.length + (byteCount tag.toNat
      + lengthCount content.length + content.length) + post.length := by
    rw [hsrc]; simp [Nat.add_assoc]
  obtain ⟨b, rest, hbs⟩ : ∃ b rest, minimalBytes tag.toNat = b :: rest := by
    cases h : minimalBytes tag.toNat with
    | nil => exact absurd h (minimalBytes_ne_nil _)
    | cons b rest => exact ⟨b, rest, rfl⟩
  have hbl : (b :: rest).length = byteCount tag.toNat := by
    rw [← hbs, minimalBytes_length]
  have hsp : d.srcData
      = pre ++ (b :: rest) ++ (lengthOctets content.length ++ content ++ post) := by
    rw [hsrc, tlv, hbs]
    simp
  have htg := tagEnd_toNat pre _ hsp hp (hbs ▸ hta.2)
    (show pre.length + (b :: rest).length < d.endPos.toNat by rw [hbl]; omega)
  rw [hbl] at htg
  unfold asn1NextNode
  rw [if_neg (by
    rw [not_or, UInt32.le_iff_toNat_le]
    refine ⟨by omega, fun h => ?_⟩
    rw [h, length_nil] at hsz
    omega), if_neg (by omega)]
  simp only
  generalize ho : (if d.srcData.getD d.position.toNat 0 &&& 0x1F = 0x1F then
        skipTagBytes d.srcData d.endPos d.srcData.length (d.position + 1) + 1
      else d.position + 1 : UInt32) = offset at htg ⊢
  rw [if_neg (by rw [ge_iff_le, UInt32.le_iff_toNat_le]; omega)]
  have hln : (offset - d.position).toNat = byteCount tag.toNat := by
    rw [toNat_sub_of_le (by omega)]
    omega
  rw [bytesToInt_eq pre (minimalBytes tag.toNat)
    (lengthOctets content.length ++ content ++ post) (by rw [hsrc, tlv]; simp) hp
    (by rw [hln, minimalBytes_length]) (by rw [minimalBytes_length]; exact hc0)
    (by rw [minimalBytes_length]; exact h4), ofBeBytes_minimalBytes]
  obtain ⟨hnn, hw⟩ := toUInt32_ofInt hta.1
  simp only
  rw [if_neg hnn, hw, UInt32.ofNat_toNat,
    buildAsn1Node_eq (pre ++ minimalBytes tag.toNat) content post
      (by rw [hsrc, tlv]; simp) (by rw [htg]; simp)
      (by simp only [length_append, minimalBytes_length]; omega) hsm]
  simp only [length_append, minimalBytes_length, tlv_length, Nat.add_assoc]

end Asn1Decoder

end TelephonyCore.Codec
