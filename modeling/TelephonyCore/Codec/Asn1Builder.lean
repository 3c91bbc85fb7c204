import Mathlib.Algebra.Order.BigOperators.Group.List
import TelephonyCore.Codec.Asn1Decoder

/-!
# `Asn1Builder`: trees of nodes built bottom-up

A builder collects children and `Asn1Build` turns them into one constructed node, adding up the
encoded lengths its children *store*. `Asn1Tree.node_spec` shows, by induction over the tree of
additions, that the stored length, the written bytes and the abstract encoding agree as long as no
builder has more than 255 children and no child is longer than `MAX_ENCODE_DATA_LENGTH`.
-/

namespace TelephonyCore.Codec

open Lib List Asn1Node
open Lib.Der (Tlv tlv header)

def MAX_ENCODE_DATA_LENGTH : UInt32 := 10240

structure Asn1Builder where
  tag : UInt32
  children : List (Option Asn1Node) := []

namespace Asn1Builder

def asn1AddChild (b : Asn1Builder) (node : Option Asn1Node) : Asn1Builder :=
  { b with children := b.children ++ [node] }

/-- `false` stands for the failure code of the four `Asn1AddChildAs` calls. -/
def asn1AddChildAsBytes (b : Asn1Builder) (tag : UInt32) (childByte : List UInt8)
    (byteLen : UInt32) : Bool × Asn1Builder :=
  if isConstructedTag tag then (false, b)
  else (true, b.asn1AddChild (some (Asn1Node.make tag childByte 0 byteLen)))

def asn1AddChildAsString (b : Asn1Builder) (tag : UInt32) (childStr : StdString) :
    Bool × Asn1Builder :=
  let bytes := stringToBytes childStr
  b.asn1AddChildAsBytes tag bytes (UInt32.ofNat bytes.length)

def asn1AddChildAsInteger (b : Asn1Builder) (tag childInt : UInt32) : Bool × Asn1Builder :=
  if isConstructedTag tag then (false, b)
  else
    let intBytes := uintToBytes childInt
    if intBytes.1 = 0 ∨ intBytes.2 = [] then (false, b)
    else (true, b.asn1AddChild (some (Asn1Node.make tag intBytes.2 0 intBytes.1)))

def asn1AddChildAsSignedInteger (b : Asn1Builder) (tag : UInt32) (childSignedInt : Int32) :
    Bool × Asn1Builder :=
  if isConstructedTag tag then (false, b)
  else
    let intBytes := intToBytes childSignedInt
    (true, b.asn1AddChild (some (Asn1Node.make tag intBytes.2 0 intBytes.1)))

/-- The loop of `Asn1Build`: it stops at a null child and fails at a long one. -/
def collectChildren : List (Option Asn1Node) → UInt32 → List Asn1Node →
    Option (UInt32 × List Asn1Node)
  | [], dataLen, moved => some (dataLen, moved)
  | none :: _, dataLen, moved => some (dataLen, moved)
  | some node :: rest, dataLen, moved =>
    if node.getEncodedLength > MAX_ENCODE_DATA_LENGTH then none
    else collectChildren rest (dataLen + node.getEncodedLength) (moved ++ [node])

def asn1Build (b : Asn1Builder) : Option Asn1Node × Asn1Builder :=
  if b.children.length > MAX_UINT8.toNat then (none, b)
  else
    match collectChildren b.children 0 [] with
    | none => (none, b)
    | some (dataLen, moved) =>
      (some { Asn1Node.make b.tag [] 0 0 with
          children := moved
          dataLength := dataLen
          constructed := true
          encodedLength := byteCountForUint b.tag + calculateEncodedBytesNumForLength dataLen
            + dataLen },
        { b with children := [] })

end Asn1Builder

/-- The additions a user makes to an `Asn1Builder`, as a tree. -/
inductive Asn1Tree where
  | bytes (tag : UInt32) (childByte : List UInt8)
  | integer (tag childInt : UInt32)
  | signedInteger (tag : UInt32) (childSignedInt : Int32)
  | string (tag : UInt32) (childStr : StdString)
  | built (tag : UInt32) (children : List Asn1Tree)

namespace Asn1Tree

mutual
def add : Asn1Tree → Asn1Builder → Asn1Builder
  | bytes tag childByte, b =>
    (b.asn1AddChildAsBytes tag childByte (UInt32.ofNat childByte.length)).2
  | integer tag childInt, b => (b.asn1AddChildAsInteger tag childInt).2
  | signedInteger tag childSignedInt, b => (b.asn1AddChildAsSignedInteger tag childSignedInt).2
  | string tag childStr, b => (b.asn1AddChildAsString tag childStr).2
  | built tag children, b => b.asn1AddChild (addAll children { tag := tag }).asn1Build.1

def addAll : List Asn1Tree → Asn1Builder → Asn1Builder
  | [], b => b
  | t :: ts, b => addAll ts (add t b)
end

def node : Asn1Tree → Option Asn1Node
  | bytes tag childByte => some (Asn1Node.make tag childByte 0 (UInt32.ofNat childByte.length))
  | integer tag childInt =>
    some (Asn1Node.make tag (uintToBytes childInt).2 0 (uintToBytes childInt).1)
  | signedInteger tag childSignedInt =>
    some (Asn1Node.make tag (intToBytes childSignedInt).2 0 (intToBytes childSignedInt).1)
  | string tag childStr =>
    some (Asn1Node.make tag (stringToBytes childStr) 0
      (UInt32.ofNat (stringToBytes childStr).length))
  | built tag children => (addAll children { tag := tag }).asn1Build.1

mutual
/-- The abstract object of an addition: its tag and content bytes, or its children. -/
def toTlv : Asn1Tree → Tlv
  | bytes tag childByte => .prim tag.toNat childByte
  | integer tag childInt => .prim tag.toNat (uintToBytes childInt).2
  | signedInteger tag childSignedInt => .prim tag.toNat (intToBytes childSignedInt).2
  | string tag childStr => .prim tag.toNat (stringToBytes childStr)
  | built tag children => .cons tag.toNat (toTlvAll children)

def toTlvAll : List Asn1Tree → List Tlv
  | [] => []
  | t :: ts => toTlv t :: toTlvAll ts
end

mutual
def subtrees : Asn1Tree → List Asn1Tree
  | built tag children => built tag children :: subtreesAll children
  | t => [t]

def subtreesAll : List Asn1Tree → List Asn1Tree
  | [] => []
  | t :: ts => subtrees t ++ subtreesAll ts
end

mutual
def leaves : Asn1Tree → List Asn1Tree
  | built _ children => leavesAll children
  | t => [t]

def leavesAll : List Asn1Tree → List Asn1Tree
  | [] => []
  | t :: ts => leaves t ++ leavesAll ts
end

mutual
/-- The limits `Asn1Build` checks: at most 255 children, none of them encoded in
more than `MAX_ENCODE_DATA_LENGTH` bytes. -/
def WithinLimits : Asn1Tree → Prop
  | built _ children => children.length ≤ 255 ∧ WithinLimitsAll children
  | _ => True

def WithinLimitsAll : List Asn1Tree → Prop
  | [] => True
  | t :: ts => (toTlv t).encode.length ≤ MAX_ENCODE_DATA_LENGTH.toNat ∧ WithinLimits t
      ∧ WithinLimitsAll ts
end

mutual
def decWithinLimits : (t : Asn1Tree) → Decidable (WithinLimits t)
  | bytes _ _ => .isTrue trivial
  | integer _ _ => .isTrue trivial
  | signedInteger _ _ => .isTrue trivial
  | string _ _ => .isTrue trivial
  | built _ children =>
    letI := decWithinLimitsAll children
    inferInstanceAs (Decidable (children.length ≤ 255 ∧ WithinLimitsAll children))

def decWithinLimitsAll : (ts : List Asn1Tree) → Decidable (WithinLimitsAll ts)
  | [] => .isTrue trivial
  | t :: ts =>
    letI := decWithinLimits t
    letI := decWithinLimitsAll ts
    inferInstanceAs (Decidable ((toTlv t).encode.length ≤ MAX_ENCODE_DATA_LENGTH.toNat
      ∧ WithinLimits t ∧ WithinLimitsAll ts))
end

instance (t : Asn1Tree) : Decidable (WithinLimits t) := decWithinLimits t

theorem toTlvAll_eq_map (ts : List Asn1Tree) : toTlvAll ts = ts.map toTlv := by
  induction ts with
  | nil => rfl
  | cons t ts ih => rw [toTlvAll, ih, map_cons]

/-! ## The stored lengths are the written lengths -/

/-- What a node must be for its tree: written as the abstract encoding, with the length of that. -/
structure NodeFor (t : Asn1Tree) (n : Asn1Node) : Prop where
  node : t.node = some n
  write : n.asn1Write = t.toTlv.encode
  encodedLength : n.encodedLength.toNat = t.toTlv.encode.length

theorem intToBytes_lengths (value : Int32) :
    0 < (intToBytes value).2.length ∧ (intToBytes value).2.length ≤ 4 ∧
      (intToBytes value).1 = .ofNat (intToBytes value).2.length ∧ (intToBytes value).2
        = beBytes (intToBytes value).2.length value.toUInt32.toNat ∧
      value.toUInt32.toNat < 256 ^ (intToBytes value).2.length := by
  have hlt := value.toUInt32.toNat_lt
  have hc : ∃ k, (byteCountForInt value.toUInt32 true) = .ofNat k ∧ 0 < k ∧ k ≤ 4 ∧
      value.toUInt32.toNat < 256 ^ k := by
    unfold byteCountForInt
    simp only [UInt32.le_iff_toNat_le, MAX_INT8, MAX_INT16, MAX_INT24, if_true]
    split
    next h => exact ⟨1, rfl, by decide, by decide, by simp at h; omega⟩
    next =>
      split
      next h => exact ⟨2, rfl, by decide, by decide, by simp at h; omega⟩
      next =>
        split
        next h => exact ⟨3, rfl, by decide, by decide, by simp at h; omega⟩
        next => exact ⟨4, rfl, by decide, by decide, by omega⟩
  obtain ⟨k, hk, h0, h4, hf⟩ := hc
  have hk' : (UInt32.ofNat k).toNat = k := by simp; omega
  have hbs : (intToBytes value).2 = beBytes k value.toUInt32.toNat := by
    show hexStrToBytes (streamHex ((byteCountForInt value.toUInt32 true).toNat * BYTE_TO_HEX_LEN)
      value.toUInt32.toNat) = _
    rw [hk, hk', hexStrToBytes_streamHex h0 h4 hf]
  have hln : (intToBytes value).2.length = k := by rw [hbs, beBytes_length]
  rw [hln]
  exact ⟨h0, h4, hk, hbs, hf⟩

theorem uintToBytes_fst (value : UInt32) :
    (uintToBytes value).1 = .ofNat (uintToBytes value).2.length := by
  obtain ⟨hl, hbs⟩ := uintToBytes_eq value
  rw [hbs, Der.minimalBytes_length, ← hl, UInt32.ofNat_toNat]

variable {t : Asn1Tree} {tag : Nat} {content : List UInt8}

theorem leaf_node (h : t.toTlv = .prim tag content) :
    t.node = some (.make (.ofNat tag) content 0 (.ofNat content.length)) := by
  cases t with
  | bytes u d | string u s =>
    obtain ⟨rfl, rfl⟩ := h
    simp [node]
  | integer u n =>
    obtain ⟨rfl, rfl⟩ := h
    simp [node, ← uintToBytes_fst]
  | signedInteger u n =>
    obtain ⟨rfl, rfl⟩ := h
    simp [node, ← (intToBytes_lengths n).2.2.1]
  | built u cs => simp [toTlv] at h

theorem add_eq (hwf : t.toTlv.Wf) (b : Asn1Builder) : add t b = b.asn1AddChild t.node := by
  cases t with
  | bytes u d =>
    have hp : isConstructedTag u = false := by rw [isConstructedTag_eq]; exact hwf.2
    simp [add, Asn1Builder.asn1AddChildAsBytes, hp, node]
  | integer u n =>
    have hp : isConstructedTag u = false := by rw [isConstructedTag_eq]; exact hwf.2
    simp only [add, Asn1Builder.asn1AddChildAsInteger, hp, node]
    rw [if_neg (by simp), if_neg (uintToBytes_ne_zero n)]
  | signedInteger u n =>
    have hp : isConstructedTag u = false := by rw [isConstructedTag_eq]; exact hwf.2
    simp [add, Asn1Builder.asn1AddChildAsSignedInteger, hp, node]
  | string u s =>
    have hp : isConstructedTag u = false := by rw [isConstructedTag_eq]; exact hwf.2
    simp [add, Asn1Builder.asn1AddChildAsString, Asn1Builder.asn1AddChildAsBytes, hp, node]
  | built u cs => rfl

theorem addAll_eq {ts : List Asn1Tree} (hwf : ∀ t ∈ ts, t.toTlv.Wf) (b : Asn1Builder) :
    addAll ts b = { b with children := b.children ++ ts.map node } := by
  induction ts generalizing b with
  | nil => simp [addAll]
  | cons t ts ih =>
    rw [addAll, add_eq (hwf t (by simp)), ih (fun u hu => hwf u (by simp [hu]))]
    simp [Asn1Builder.asn1AddChild]

/-- Over nodes within the limit the loop of `Asn1Build` moves all and adds up their lengths. -/
theorem collectChildren_eq (ns : List Asn1Node) (dataLen : UInt32) (moved : List Asn1Node)
    (hl : ∀ n ∈ ns, n.encodedLength.toNat ≤ MAX_ENCODE_DATA_LENGTH.toNat)
    (hs : dataLen.toNat + (ns.map (fun n => n.encodedLength.toNat)).sum < 2 ^ 32) :
    ∃ total, Asn1Builder.collectChildren (ns.map some) dataLen moved
        = some (total, moved ++ ns) ∧
      total.toNat = dataLen.toNat + (ns.map (fun n => n.encodedLength.toNat)).sum := by
  induction ns generalizing dataLen moved with
  | nil => exact ⟨dataLen, by simp [Asn1Builder.collectChildren], by simp⟩
  | cons n ns ih =>
    simp only [map_cons, sum_cons] at hs ⊢
    have had : (dataLen + n.encodedLength).toNat = dataLen.toNat + n.encodedLength.toNat :=
      toNat_add_of_lt (by omega)
    obtain ⟨total, hr, ht⟩ := ih (dataLen + n.encodedLength) (moved ++ [n])
      (fun m hm => hl m (by simp [hm])) (by rw [had]; omega)
    refine ⟨total, ?_, by rw [ht, had]; omega⟩
    rw [Asn1Builder.collectChildren, if_neg (by
      rw [gt_iff_lt, UInt32.lt_iff_toNat_lt, Nat.not_lt]
      exact hl n (by simp))]
    rw [show n.getEncodedLength = n.encodedLength from rfl, hr]
    simp

/-! A row of nodes for a row of trees: its pointers, its bytes, its lengths. -/

section Row

variable {cs : List Asn1Tree} {ns : List Asn1Node}

theorem row_node (h : List.Forall₂ NodeFor cs ns) : cs.map node = ns.map some := by
  induction h with
  | nil => rfl
  | cons h _ ih => rw [map_cons, map_cons, h.node, ih]

theorem row_write (h : List.Forall₂ NodeFor cs ns) :
    Asn1Node.asn1WriteAll ns = Tlv.encodeAll (toTlvAll cs) := by
  induction h with
  | nil => rfl
  | cons h _ ih => rw [asn1WriteAll, toTlvAll, Tlv.encodeAll, h.write, ih]

theorem row_encodedLength (h : List.Forall₂ NodeFor cs ns) :
    (ns.map (fun n => n.encodedLength.toNat)).sum = (Tlv.encodeAll (toTlvAll cs)).length := by
  induction h with
  | nil => rfl
  | cons h _ ih =>
    rw [toTlvAll, Tlv.encodeAll, map_cons, sum_cons, length_append, h.encodedLength, ih]

theorem row_limit (h : List.Forall₂ NodeFor cs ns) {k : Nat}
    (hl : ∀ t ∈ cs, t.toTlv.encode.length ≤ k) : ∀ n ∈ ns, n.encodedLength.toNat ≤ k := by
  intro n hn
  obtain ⟨i, hi, rfl⟩ := mem_iff_getElem.1 hn
  have hi' : i < cs.length := by rw [h.length_eq]; exact hi
  have hg : NodeFor (cs[i]) (ns[i]) := h.get hi' hi
  rw [hg.encodedLength]
  exact hl _ (getElem_mem hi')

theorem row_bound (h : List.Forall₂ NodeFor cs ns) (h255 : cs.length ≤ 255)
    (hlm : ∀ t ∈ cs, t.toTlv.encode.length ≤ MAX_ENCODE_DATA_LENGTH.toNat) :
    (ns.map (fun n => n.encodedLength.toNat)).sum < 2 ^ 31 := by
  have hs : (ns.map (fun n => n.encodedLength.toNat)).sum ≤ ns.length * 10240 := by
    have h := sum_le_card_nsmul (ns.map (fun n => n.encodedLength.toNat)) 10240 (by
      intro x hx
      obtain ⟨n, hn, rfl⟩ := mem_map.1 hx
      exact row_limit h hlm n hn)
    simpa using h
  have hln : ns.length * 10240 ≤ 255 * 10240 :=
    Nat.mul_le_mul_right _ (by rw [← h.length_eq]; exact h255)
  omega

end Row

theorem built_spec {tag : UInt32} {cs : List Asn1Tree} {ns : List Asn1Node}
    (hwf : ∀ t ∈ cs, t.toTlv.Wf) (hns : List.Forall₂ NodeFor cs ns) (h255 : cs.length ≤ 255)
    (hl : ∀ t ∈ cs, t.toTlv.encode.length ≤ MAX_ENCODE_DATA_LENGTH.toNat) :
    ∃ n, NodeFor (built tag cs) n := by
  have hb := row_bound hns h255 hl
  obtain ⟨total, hr, htt⟩ := collectChildren_eq ns 0 [] (row_limit hns hl) (by
    show 0 + _ < _; omega)
  have htt' : total.toNat = (Tlv.encodeAll (toTlvAll cs)).length := by
    rw [htt, row_encodedLength hns]; simp
  have hto : total = .ofNat (Tlv.encodeAll (toTlvAll cs)).length := by
    rw [← htt', UInt32.ofNat_toNat]
  refine ⟨{ make tag [] 0 0 with
    children := ns
    dataLength := total
    constructed := true
    encodedLength := byteCountForUint tag + calculateEncodedBytesNumForLength total + total },
    ?_, ?_, ?_⟩
  · show (addAll cs { tag := tag }).asn1Build.1 = some _
    rw [addAll_eq hwf, nil_append, row_node hns]
    unfold Asn1Builder.asn1Build
    rw [if_neg (by
      show ¬ (ns.map some).length > 255
      rw [length_map, ← hns.length_eq]; omega)]
    simp only [hr]
    rfl
  · rw [asn1Write_eq]
    show header tag.toNat total.toNat ++ asn1WriteAll ns = _
    rw [row_write hns, htt']
    rfl
  · show (byteCountForUint tag + calculateEncodedBytesNumForLength total + total).toNat = _
    rw [row_encodedLength hns] at hb
    rw [hto, encodedLength_toNat tag hb]
    show _ = (tlv tag.toNat (Tlv.encodeAll (toTlvAll cs))).length
    rw [Der.tlv_eq_header, length_append]

theorem leaf_spec (h : t.toTlv = .prim tag content) (hwf : t.toTlv.Wf)
    (hsm : content.length < 2 ^ 31) : ∃ n, NodeFor t n := by
  rw [h] at hwf
  have ht : (UInt32.ofNat tag).toNat = tag := by
    have := hwf.1.1
    simp
    omega
  refine ⟨_, leaf_node h, ?_, ?_⟩
  · rw [asn1Write_make _ hsm, ht, h]
    rfl
  · rw [(make_lengths _ hsm).encoded, h]
    show (header (UInt32.ofNat tag).toNat _).length + _ = (tlv tag content).length
    rw [ht, Der.tlv_eq_header, length_append]

theorem length_content_le (t : Tlv) : t.content.length ≤ t.encode.length := by
  rw [Tlv.encode_eq_tlv, Der.tlv_length]
  omega

mutual
/-- **The builder's arithmetic is right**: a node is written as its encoding and stores its length.
-/
theorem node_spec : ∀ t, t.toTlv.Wf → t.WithinLimits →
    t.toTlv.encode.length < 2 ^ 31 → ∃ n, NodeFor t n
  | bytes u d, hwf, _, hln => leaf_spec rfl hwf (by
      have := length_content_le (bytes u d).toTlv; exact Nat.lt_of_le_of_lt this hln)
  | integer u n, hwf, _, hln => leaf_spec rfl hwf (by
      have := length_content_le (integer u n).toTlv; exact Nat.lt_of_le_of_lt this hln)
  | signedInteger u n, hwf, _, hln => leaf_spec rfl hwf (by
      have := length_content_le (signedInteger u n).toTlv; exact Nat.lt_of_le_of_lt this hln)
  | string u s, hwf, _, hln => leaf_spec rfl hwf (by
      have := length_content_le (string u s).toTlv; exact Nat.lt_of_le_of_lt this hln)
  | built u cs, hwf, hli, _ => by
    obtain ⟨_, hns, hws, hlm⟩ := nodes_spec cs hwf.2.2 hli.2
    exact built_spec hws hns hli.1 hlm

theorem nodes_spec : ∀ ts, Tlv.WfAll (toTlvAll ts) → WithinLimitsAll ts →
    ∃ ns, List.Forall₂ NodeFor ts ns ∧ (∀ t ∈ ts, t.toTlv.Wf) ∧
      ∀ t ∈ ts, t.toTlv.encode.length ≤ MAX_ENCODE_DATA_LENGTH.toNat
  | [], _, _ => ⟨[], .nil, by simp, by simp⟩
  | t :: ts, hwf, hli => by
    have hsh : t.toTlv.encode.length < 2 ^ 31 := Nat.lt_of_le_of_lt hli.1 (by decide)
    obtain ⟨n, hn⟩ := node_spec t hwf.1 hli.2.1 hsh
    obtain ⟨ns, hns, hws, hlm⟩ := nodes_spec ts hwf.2 hli.2.2
    refine ⟨n :: ns, .cons hn hns, ?_, ?_⟩
    · intro u hu
      rcases mem_cons.1 hu with rfl | hu
      · exact hwf.1
      · exact hws u hu
    · intro u hu
      rcases mem_cons.1 hu with rfl | hu
      · exact hli.1
      · exact hlm u hu
end

end Asn1Tree

end TelephonyCore.Codec
