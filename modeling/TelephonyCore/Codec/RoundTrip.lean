import TelephonyCore.Codec.Asn1Builder

/-!
# Building, writing and reading back an ASN.1 tree

The writer's half of the round trip is `Asn1Tree.node_spec`. Reading is lazy: `Asn1NextNode` gives a
node that holds the raw content of one object (`nodeOf`), and each level of children appears only
when `Asn1BuildChildren` runs a decoder over that content. `expand_nodeOf` shows that opening every
level of the node of a well-formed object tree gives the tree back, because the cursor lands on
every object boundary.
-/

namespace TelephonyCore.Codec

open Lib List Asn1Decoder Asn1Tree
open Lib.Der (Tlv tlv WfTag)

def nodeOf (t : Tlv) : Asn1Node :=
  Asn1Node.make (UInt32.ofNat t.tag) t.content 0 (UInt32.ofNat t.content.length)

variable {tag : Nat} {content : List UInt8} {t : Asn1Tree}

theorem toNat_ofNat_tag (h : WfTag tag) : (UInt32.ofNat tag).toNat = tag := by
  have := h.1
  simp
  omega

/-! ## Reading a row of objects -/

theorem asn1NextNode_encode {d : Asn1Decoder} {pre post : List UInt8} {t : Tlv}
    (hsr : d.srcData = pre ++ t.encode ++ post) (hp : d.position.toNat = pre.length)
    (hwf : t.Wf) (hsmall : t.content.length < 2 ^ 31)
    (he : pre.length + t.encode.length ≤ d.endPos.toNat) :
    d.asn1NextNode
      = (some (nodeOf t), { d with position := .ofNat (pre.length + t.encode.length) }) := by
  have ht := toNat_ofNat_tag hwf.tag
  rw [Tlv.encode_eq_tlv] at hsr he ⊢
  rw [← ht] at hsr he
  rw [asn1NextNode_tlv hsr hp (by rw [ht]; exact hwf.tag) hsmall he, ht]
  rfl

theorem content_length_le_encodeAll {t : Tlv} {ts : List Tlv} (h : t ∈ ts) :
    t.content.length ≤ (Tlv.encodeAll ts).length := by
  induction ts with
  | nil => cases h
  | cons u us ih =>
    rw [Tlv.encodeAll, length_append]
    rcases mem_cons.1 h with rfl | h'
    · have := length_content_le t
      omega
    · have := ih h'
      omega

theorem decodeAll_encodeAll (ts : List Tlv) :
    ∀ pre {d : Asn1Decoder} {fuel : Nat},
      d.srcData = pre ++ Tlv.encodeAll ts → d.position.toNat = pre.length →
      d.endPos.toNat = pre.length + (Tlv.encodeAll ts).length → (∀ t ∈ ts, t.Wf) →
      (Tlv.encodeAll ts).length < 2 ^ 31 → ts.length < fuel → d.decodeAll fuel = ts.map nodeOf := by
  induction ts with
  | nil =>
    intro pre d fuel _ hp he _ _ hf
    obtain ⟨f, rfl⟩ : ∃ f, fuel = f + 1 := ⟨fuel - 1, by omega⟩
    have hst : d.asn1HasNextNode = false := by
      simp only [Tlv.encodeAll, length_nil] at he
      simp only [asn1HasNextNode, decide_eq_false_iff_not, UInt32.lt_iff_toNat_lt]
      omega
    simp [decodeAll, hst]
  | cons t ts ih =>
    intro pre d fuel hsr hp he hwf hsmall hf
    obtain ⟨f, rfl⟩ : ∃ f, fuel = f + 1 := ⟨fuel - 1, by omega⟩
    have hlt := d.endPos.toNat_lt
    have ht : 2 ≤ t.encode.length := by
      rw [Tlv.encode_eq_tlv]; exact Der.two_le_tlv_length _ _
    have hct := length_content_le t
    rw [Tlv.encodeAll, length_append] at he hsmall
    rw [Tlv.encodeAll] at hsr
    have hm : d.asn1HasNextNode := by
      simp only [asn1HasNextNode, decide_eq_true_eq, UInt32.lt_iff_toNat_lt]
      omega
    rw [← append_assoc] at hsr
    have hn := asn1NextNode_encode hsr hp (hwf t (by simp)) (by omega) (by omega)
    have hcr : (UInt32.ofNat (pre.length + t.encode.length)).toNat
        = (pre ++ t.encode).length := by
      rw [UInt32.toNat_ofNat', Nat.mod_eq_of_lt (by omega), length_append]
    rw [decodeAll, if_pos hm, hn]
    simp only [map_cons, List.cons.injEq, true_and]
    refine ih (pre ++ t.encode) hsr hcr ?_ (fun u hu => hwf u (by simp [hu])) (by omega)
      (Nat.lt_of_succ_lt_succ hf)
    rw [he, length_append, Nat.add_assoc]

theorem length_le_encodeAll (ts : List Tlv) : 2 * ts.length ≤ (Tlv.encodeAll ts).length := by
  induction ts with
  | nil => simp
  | cons t ts ih =>
    have ht : 2 ≤ t.encode.length := by
      rw [Tlv.encode_eq_tlv]; exact Der.two_le_tlv_length _ _
    rw [Tlv.encodeAll, length_append, length_cons]
    omega

theorem asn1BuildChildren_nodeOf {cs : List Tlv} (hwf : (Tlv.cons tag cs).Wf)
    (hsmall : (Tlv.encodeAll cs).length < 2 ^ 31) : (nodeOf (.cons tag cs)).asn1BuildChildren
      = (true, { nodeOf (.cons tag cs) with
          children := cs.map nodeOf, dataBytes := [], dataOffset := 0 }) := by
  have hc : isConstructedTag (UInt32.ofNat tag) := by
    rw [isConstructedTag_eq, toNat_ofNat_tag hwf.1]; exact hwf.2.1
  have hwr : (UInt32.ofNat (Tlv.encodeAll cs).length).toNat = (Tlv.encodeAll cs).length := by
    rw [UInt32.toNat_ofNat', Nat.mod_eq_of_lt (by omega)]
  have ht := length_le_encodeAll cs
  unfold Asn1Node.asn1BuildChildren
  rw [if_neg (by
    show ¬ (!isConstructedTag (UInt32.ofNat tag))
    simp [hc])]
  by_cases hnl : cs = []
  · subst hnl
    rfl
  · have hp : 0 < cs.length := length_pos_iff.2 hnl
    have hne : Tlv.encodeAll cs ≠ [] := by
      intro h
      rw [h, length_nil] at ht
      omega
    rw [if_neg (by show ¬ Tlv.encodeAll cs = []; exact hne)]
    have hm : make (Tlv.encodeAll cs) 0
          (UInt32.ofNat (Tlv.encodeAll cs).length - 0)
        = ⟨Tlv.encodeAll cs, 0, UInt32.ofNat (Tlv.encodeAll cs).length⟩ := by
      unfold make
      rw [if_neg (by
        rw [not_or]
        refine ⟨?_, ?_⟩
        · rw [gt_iff_lt, UInt32.lt_iff_toNat_lt]
          exact Nat.not_lt_zero _
        · simp [Nat.mod_eq_of_lt (show (Tlv.encodeAll cs).length < 4294967296 by omega)])]
      simp
    have hal : decodeAll (Tlv.encodeAll cs).length
        ⟨Tlv.encodeAll cs, 0, UInt32.ofNat (Tlv.encodeAll cs).length⟩ = cs.map nodeOf :=
      decodeAll_encodeAll cs [] rfl rfl (by simp [hwr])
        ((Tlv.wfAll_iff cs).1 hwf.2.2) hsmall (by omega)
    show (true, _) = _
    simp only [nodeOf, Asn1Node.make, Tlv.content, nil_append]
    rw [hm, hal]

/-! ## Opening every level -/

/-- Expand a node recursively, opening `fuel` levels. -/
def expand : Nat → Asn1Node → Tlv
  | 0, n => .prim n.tag.toNat n.asn1AsBytes
  | fuel + 1, n =>
    if n.constructed then
      .cons n.tag.toNat (n.asn1BuildChildren.2.children.map (expand fuel))
    else .prim n.tag.toNat n.asn1AsBytes

def expandLeaves : Nat → Asn1Node → List Asn1Node
  | 0, n => [n]
  | fuel + 1, n =>
    if n.constructed then n.asn1BuildChildren.2.children.flatMap (expandLeaves fuel) else [n]

theorem asn1AsBytes_nodeOf (hwf : (Tlv.prim tag content).Wf) (hsmall : content.length < 2 ^ 31) :
    (nodeOf (.prim tag content)).asn1AsBytes = content := by
  have hp : isConstructedTag (UInt32.ofNat tag) = false := by
    rw [isConstructedTag_eq, toNat_ofNat_tag hwf.1]; exact hwf.2
  have hwr : (UInt32.ofNat content.length).toNat = content.length := by
    rw [UInt32.toNat_ofNat', Nat.mod_eq_of_lt (by omega)]
  show (if isConstructedTag (UInt32.ofNat tag) ∨ content = [] then []
    else if (UInt32.ofNat content.length - 0).toNat > content.length then []
    else (content.take (UInt32.ofNat content.length).toNat).drop (0 : UInt32).toNat) = content
  by_cases hn : content = []
  · simp [hn]
  · rw [if_neg (by simp [hp, hn]), if_neg (by simp [hwr]), hwr]
    simp

theorem constructed_nodeOf {t : Tlv} (hwf : t.Wf) :
    (nodeOf t).constructed = Der.constructedTag t.tag := by
  show isConstructedTag (UInt32.ofNat t.tag) = _
  rw [isConstructedTag_eq, toNat_ofNat_tag hwf.tag]

section Lookups

variable {tag : Nat} {cs : List Tlv} (hwf : (Tlv.cons tag cs).Wf)

include hwf

theorem constructed_nodeOf_cons : (nodeOf (.cons tag cs)).constructed := by
  rw [constructed_nodeOf hwf]
  exact hwf.2.1

variable (hsmall : (Tlv.encodeAll cs).length < 2 ^ 31) (childTag : UInt32)

include hsmall

theorem asn1GetChild_nodeOf : (nodeOf (.cons tag cs)).asn1GetChild childTag
      = ((cs.map nodeOf).find? (fun child => child.tag == childTag),
          { nodeOf (.cons tag cs) with
            children := cs.map nodeOf, dataBytes := [], dataOffset := 0 }) := by
  rw [Asn1Node.asn1GetChild, constructed_nodeOf_cons hwf, asn1BuildChildren_nodeOf hwf hsmall]
  rfl

theorem asn1GetChildren_nodeOf : (nodeOf (.cons tag cs)).asn1GetChildren childTag
      = (true, (cs.map nodeOf).filter (fun child => child.tag == childTag),
          { nodeOf (.cons tag cs) with
            children := cs.map nodeOf, dataBytes := [], dataOffset := 0 }) := by
  rw [Asn1Node.asn1GetChildren, constructed_nodeOf_cons hwf, asn1BuildChildren_nodeOf hwf hsmall]
  rfl

end Lookups

theorem filter_nodeOf {α : Type} (toTlv : α → Tlv) (childTag : UInt32)
    (h : ∀ a, UInt32.ofNat (toTlv a).tag = childTag) (as : List α) :
    ((as.map toTlv).map nodeOf).filter (fun child => child.tag == childTag)
      = (as.map toTlv).map nodeOf := by
  rw [filter_eq_self]
  intro n hn
  obtain ⟨t, ht, rfl⟩ := mem_map.1 hn
  obtain ⟨a, -, rfl⟩ := mem_map.1 ht
  exact beq_iff_eq.2 (h a)

theorem tag_nodeOf {t : Tlv} (hwf : t.Wf) : (nodeOf t).tag.toNat = t.tag :=
  toNat_ofNat_tag hwf.tag

/-- **Opening gives the tree back.** With one unit of fuel for each level. -/
theorem expand_nodeOf : ∀ (fuel : Nat) {t : Tlv}, t.depth ≤ fuel → t.Wf →
    t.content.length < 2 ^ 31 → expand fuel (nodeOf t) = t := by
  intro fuel
  induction fuel with
  | zero =>
    intro t hd hwf hsmall
    cases t with
    | prim tag content =>
      rw [expand, asn1AsBytes_nodeOf hwf hsmall, tag_nodeOf hwf]
      rfl
    | cons tag cs => exact absurd hd (by simp [Tlv.depth])
  | succ fuel ih =>
    intro t hd hwf hsmall
    cases t with
    | prim tag content =>
      rw [expand, if_neg (by rw [constructed_nodeOf hwf]; simp [Tlv.tag, hwf.2]),
        asn1AsBytes_nodeOf hwf hsmall, tag_nodeOf hwf]
      rfl
    | cons tag cs =>
      have hws := (Tlv.wfAll_iff cs).1 hwf.2.2
      rw [expand, if_pos (by rw [constructed_nodeOf hwf]; exact hwf.2.1), tag_nodeOf hwf,
        asn1BuildChildren_nodeOf hwf hsmall]
      show Tlv.cons tag ((cs.map nodeOf).map (expand fuel)) = _
      congr 1
      rw [map_map]
      conv_rhs => rw [← map_id cs]
      apply map_congr_left
      intro c hc
      have hdc := Tlv.depth_le_depthAll hc
      have hcc := content_length_le_encodeAll hc
      rw [Tlv.depth] at hd
      exact ih (by omega) (hws c hc) (Nat.lt_of_le_of_lt hcc hsmall)

/-! ## The leaves as they were added -/

/-- What reading a leaf back must give for each way of adding one. An unsigned
integer comes back through `int32_t`: the bits always agree, the value only
below `2 ^ 31`. -/
def ReadsBack : Asn1Tree → Asn1Node → Prop
  | .bytes _ childByte, n => n.asn1AsBytes = childByte
  | .integer _ childInt, n => n.asn1AsInteger.toUInt32 = childInt ∧
      (n.asn1AsInteger.toInt = childInt.toNat ↔ childInt.toNat < 2 ^ 31)
  | .signedInteger _ childSignedInt, n => n.asn1AsInteger = childSignedInt
  | .string _ childStr, n => childStr.length ≤ MAX_BPP_LENGTH → n.asn1AsBytes = childStr
  | .built _ _, _ => False

theorem asn1AsInteger_nodeOf (hwf : (Tlv.prim tag content).Wf) (h0 : 0 < content.length)
    (h4 : content.length ≤ 4) :
    (nodeOf (.prim tag content)).asn1AsInteger = Int32.ofInt (ofBeBytes content) := by
  have hp : isConstructedTag (UInt32.ofNat tag) = false := by
    rw [isConstructedTag_eq, toNat_ofNat_tag hwf.1]; exact hwf.2
  have hne : content ≠ [] := length_pos_iff.1 h0
  unfold Asn1Node.asn1AsInteger nodeOf Asn1Node.make
  simp only [Tlv.tag, Tlv.content, hp]
  rw [if_neg (by simp [hne]), bytesToInt_eq [] content [] (by simp) rfl (by simp; omega) h0 h4]
  rfl

theorem toUInt32_ofInt_word (n : UInt32) : (Int32.ofInt n.toNat).toUInt32 = n := by
  show UInt32.ofNat n.toNat = n
  rw [UInt32.ofNat_toNat]

theorem readsBack_nodeOf (hlf : ∀ tag cs, t ≠ .built tag cs) (hwf : t.toTlv.Wf)
    (hsmall : t.toTlv.content.length < 2 ^ 31) : ReadsBack t (nodeOf t.toTlv) := by
  cases t with
  | bytes u d => exact asn1AsBytes_nodeOf hwf hsmall
  | integer u n =>
    obtain ⟨-, hbs⟩ := uintToBytes_eq n
    have hln : (uintToBytes n).2.length = Der.byteCount n.toNat := by
      rw [hbs, Der.minimalBytes_length]
    have hin : (nodeOf (integer u n).toTlv).asn1AsInteger = Int32.ofInt n.toNat := by
      rw [toTlv, asn1AsInteger_nodeOf hwf (by rw [hln]; exact Der.byteCount_pos _)
        (by rw [hln]; exact byteCount_le_four n), hbs, Der.ofBeBytes_minimalBytes]
    refine ⟨by rw [hin, toUInt32_ofInt_word], fun heq => ?_, fun h31 => ?_⟩
    · have hlt := (nodeOf (integer u n).toTlv).asn1AsInteger.toInt_lt
      omega
    · rw [hin]
      exact Int32.toInt_ofInt_of_le (by omega) (by omega)
  | signedInteger u n =>
    obtain ⟨h0, h4, -, hbs, hf⟩ := intToBytes_lengths n
    show (nodeOf (signedInteger u n).toTlv).asn1AsInteger = n
    rw [toTlv, asn1AsInteger_nodeOf hwf h0 h4, hbs, ofBeBytes_beBytes hf]
    exact congrArg UInt32.toInt32 (toUInt32_ofInt_word n.toUInt32)
  | string u s =>
    intro hs
    show (nodeOf (string u s).toTlv).asn1AsBytes = s
    rw [toTlv, asn1AsBytes_nodeOf hwf hsmall, stringToBytes_eq hs]
  | built u cs => exact absurd rfl (hlf u cs)

theorem mem_toTlvAll {ts : List Asn1Tree} (h : t ∈ ts) : t.toTlv ∈ Asn1Tree.toTlvAll ts := by
  rw [toTlvAll_eq_map]
  exact mem_map_of_mem h

theorem leavesAll_eq_flatMap (ts : List Asn1Tree) :
    Asn1Tree.leavesAll ts = ts.flatMap Asn1Tree.leaves := by
  induction ts with
  | nil => rfl
  | cons t ts ih => rw [leavesAll, ih, flatMap_cons]

theorem leaf_leaves (hl : ∀ tag cs, t ≠ .built tag cs) : t.leaves = [t] := by
  cases t with
  | built u cs => exact absurd rfl (hl u cs)
  | _ => rfl

theorem leaf_constructed (hl : ∀ tag cs, t ≠ .built tag cs) (hwf : t.toTlv.Wf) :
    (nodeOf t.toTlv).constructed = false := by
  rw [constructed_nodeOf hwf]
  cases t with
  | built u cs => exact absurd rfl (hl u cs)
  | _ => exact hwf.2

theorem expandLeaves_nodeOf : ∀ (fuel : Nat) {t : Asn1Tree}, t.toTlv.depth ≤ fuel → t.toTlv.Wf →
    t.toTlv.content.length < 2 ^ 31 →
    List.Forall₂ ReadsBack t.leaves (expandLeaves fuel (nodeOf t.toTlv)) := by
  intro fuel
  induction fuel with
  | zero =>
    intro t hd hwf hsmall
    have hl : ∀ tag cs, t ≠ .built tag cs := by
      rintro tag cs rfl
      exact absurd hd (by simp [toTlv, Tlv.depth])
    rw [leaf_leaves hl, expandLeaves]
    exact .cons (readsBack_nodeOf hl hwf hsmall) .nil
  | succ fuel ih =>
    intro t hd hwf hsmall
    by_cases hl : ∀ tag cs, t ≠ .built tag cs
    · rw [leaf_leaves hl, expandLeaves, if_neg (by rw [leaf_constructed hl hwf]; simp)]
      exact .cons (readsBack_nodeOf hl hwf hsmall) .nil
    · obtain ⟨u, cs, rfl⟩ : ∃ tag cs, t = .built tag cs := by
        simpa using hl
      have hwf' : (Tlv.cons u.toNat (toTlvAll cs)).Wf := hwf
      have hws := (Tlv.wfAll_iff _).1 hwf'.2.2
      have ho : (nodeOf (built u cs).toTlv).asn1BuildChildren.2.children
          = cs.map (fun c => nodeOf c.toTlv) := by
        rw [toTlv, asn1BuildChildren_nodeOf hwf' hsmall, toTlvAll_eq_map, map_map]
        rfl
      rw [expandLeaves, if_pos (by rw [constructed_nodeOf hwf]; exact hwf'.2.1), ho,
        leaves, leavesAll_eq_flatMap]
      have hch : ∀ c ∈ cs, List.Forall₂ ReadsBack c.leaves
          (expandLeaves fuel (nodeOf c.toTlv)) := by
        intro c hc
        have hm := mem_toTlvAll hc
        have hdc := Tlv.depth_le_depthAll hm
        rw [toTlv, Tlv.depth] at hd
        exact ih (by omega) (hws _ hm)
          (Nat.lt_of_le_of_lt (content_length_le_encodeAll hm) hsmall)
      clear ho hwf hwf' hws hsmall hd hl
      induction cs with
      | nil => exact .nil
      | cons c cs ihcs =>
        exact rel_append (hch c (by simp)) (ihcs (fun x hx => hch x (by simp [hx])))

/-! ## The round trip -/

theorem leaf_subtrees_spec (hlf : t.subtrees = [t]) (hwf : t.toTlv.Wf) (hlm : t.WithinLimits)
    (hln : t.toTlv.encode.length < 2 ^ 31) : ∀ u ∈ t.subtrees, ∃ n, Asn1Tree.NodeFor u n := by
  intro u hu
  rw [hlf, mem_singleton] at hu
  rw [hu]
  exact node_spec _ hwf hlm hln

mutual
theorem subtrees_spec : ∀ (t : Asn1Tree), t.toTlv.Wf → t.WithinLimits →
    t.toTlv.encode.length < 2 ^ 31 → ∀ u ∈ t.subtrees, ∃ n, Asn1Tree.NodeFor u n
  | .bytes _ _, hwf, hlm, hln | .integer _ _, hwf, hlm, hln
  | .signedInteger _ _, hwf, hlm, hln | .string _ _, hwf, hlm, hln =>
    leaf_subtrees_spec rfl hwf hlm hln
  | .built u cs, hwf, hlm, hln => by
    intro v hv
    rcases mem_cons.1 hv with rfl | hv
    · exact node_spec _ hwf hlm hln
    · exact subtreesAll_spec cs hwf.2.2 hlm.2 v hv

theorem subtreesAll_spec : ∀ (ts : List Asn1Tree), Tlv.WfAll (Asn1Tree.toTlvAll ts) →
    Asn1Tree.WithinLimitsAll ts → ∀ u ∈ Asn1Tree.subtreesAll ts, ∃ n, Asn1Tree.NodeFor u n
  | [], _, _ => by
    intro v hv
    exact absurd hv (by simp [subtreesAll])
  | t :: ts, hwf, hl => by
    intro v hv
    rcases mem_append.1 hv with hv | hv
    · exact subtrees_spec t hwf.1 hl.2.1 (Nat.lt_of_le_of_lt hl.1 (by decide)) v hv
    · exact subtreesAll_spec ts hwf.2 hl.2.2 v hv
end

theorem asn1NextNode_whole {t : Tlv} (hwf : t.Wf) (hsmall : t.encode.length < 2 ^ 31) :
    (Asn1Decoder.make t.encode 0 (UInt32.ofNat t.encode.length)).asn1NextNode
      = (some (nodeOf t),
         ⟨t.encode, UInt32.ofNat t.encode.length, UInt32.ofNat t.encode.length⟩) := by
  have hwr : (UInt32.ofNat t.encode.length).toNat = t.encode.length := by
    rw [UInt32.toNat_ofNat', Nat.mod_eq_of_lt (by omega)]
  have hm : make t.encode 0 (UInt32.ofNat t.encode.length)
      = ⟨t.encode, 0, UInt32.ofNat t.encode.length⟩ := by
    unfold make
    rw [if_neg (by
      rw [not_or]
      refine ⟨?_, ?_⟩
      · rw [gt_iff_lt, UInt32.lt_iff_toNat_lt]
        exact Nat.not_lt_zero _
      · rw [UInt32.zero_add, hwr]
        omega), UInt32.zero_add]
  have hsr : t.encode = [] ++ t.encode ++ [] := by simp
  have hct := length_content_le t
  rw [hm, asn1NextNode_encode (d := ⟨t.encode, 0, UInt32.ofNat t.encode.length⟩) hsr rfl hwf
    (by omega) (by rw [hwr]; simp)]
  simp

/-- **Round trip.** Additions within the limits and with well-formed tags, of at most
`MAX_BPP_LENGTH` bytes in all, are built; the written buffer is read to its end and opens to the
same shape, tags and leaf bytes; every node stores the number of its bytes; and every leaf reads
back as it was added. -/
theorem asn1_round_trip (tag : UInt32) (children : List Asn1Tree)
    (hwf : (Asn1Tree.built tag children).toTlv.Wf)
    (hlim : (Asn1Tree.built tag children).WithinLimits)
    (hsize : (Asn1Tree.built tag children).toTlv.encode.length ≤ MAX_BPP_LENGTH) :
    ∃ root decoded after, (Asn1Tree.built tag children).node = some root ∧
      (Asn1Decoder.make root.asn1NodeToBytes 0
        (UInt32.ofNat root.asn1NodeToBytes.length)).asn1NextNode = (some decoded, after) ∧
      after.position.toNat = root.asn1NodeToBytes.length ∧ after.asn1HasNextNode = false ∧
      (∀ fuel, (Asn1Tree.built tag children).toTlv.depth ≤ fuel →
        expand fuel decoded = (Asn1Tree.built tag children).toTlv ∧
        List.Forall₂ ReadsBack (Asn1Tree.built tag children).leaves
          (expandLeaves fuel decoded)) ∧
      ∀ t ∈ (Asn1Tree.built tag children).subtrees, ∃ n, t.node = some n ∧
        n.getEncodedLength.toNat = n.asn1Write.length := by
  have hsmall : (built tag children).toTlv.encode.length < 2 ^ 31 :=
    Nat.lt_of_le_of_lt hsize (by decide)
  have hc : (built tag children).toTlv.content.length < 2 ^ 31 :=
    Nat.lt_of_le_of_lt (length_content_le _) hsmall
  obtain ⟨root, hr⟩ := node_spec _ hwf hlim hsmall
  have htw : 2 ≤ (built tag children).toTlv.encode.length := by
    exact Der.two_le_tlv_length _ _
  have hb : root.asn1NodeToBytes = (built tag children).toTlv.encode := by
    unfold Asn1Node.asn1NodeToBytes
    rw [if_neg (by
      intro h0
      have := hr.encodedLength
      rw [h0] at this
      exact absurd this.symm (by show _ ≠ 0; omega)), hr.write]
  have hwr : (UInt32.ofNat (built tag children).toTlv.encode.length).toNat
      = (built tag children).toTlv.encode.length := by
    rw [UInt32.toNat_ofNat', Nat.mod_eq_of_lt (by omega)]
  refine ⟨root, nodeOf (built tag children).toTlv, _, hr.node,
    by rw [hb]; exact asn1NextNode_whole hwf hsmall, by rw [hb]; exact hwr, ?_, ?_, ?_⟩
  · simp [asn1HasNextNode]
  · intro fuel hf
    exact ⟨expand_nodeOf fuel hf hwf hc, expandLeaves_nodeOf fuel hf hwf hc⟩
  · intro t ht
    obtain ⟨n, hn⟩ := subtrees_spec _ hwf hlim hsmall t ht
    refine ⟨n, hn.node, ?_⟩
    rw [hn.write]
    exact hn.encodedLength

/-- A tree with every kind of addition, a nested builder and a two-byte tag. -/
def sampleTree : List Asn1Tree :=
  [.bytes 0x80 [1, 2], .integer 0x02 5, .built 0xA0 [.signedInteger 0x81 (-3)],
    .string 0x0C [0x68, 0x69]]

theorem asn1_round_trip_sampleTree :
    ∃ root decoded after, (Asn1Tree.built 0xBF21 sampleTree).node = some root ∧
      (Asn1Decoder.make root.asn1NodeToBytes 0
        (UInt32.ofNat root.asn1NodeToBytes.length)).asn1NextNode = (some decoded, after) ∧
      expand 2 decoded = (Asn1Tree.built 0xBF21 sampleTree).toTlv := by
  obtain ⟨root, decoded, after, hrt, hrd, -, -, ho, -⟩ :=
    asn1_round_trip 0xBF21 sampleTree (by decide) (by decide) (by decide)
  exact ⟨root, decoded, after, hrt, hrd, (ho 2 (by decide)).1⟩

/-- An unsigned leaf with the top bit set comes back as a negative number. -/
theorem asn1AsInteger_top_bit :
    (Asn1Tree.built 0x30 [.integer 0x02 0x80000000]).toTlv.Wf ∧
    (Asn1Tree.built 0x30 [.integer 0x02 0x80000000]).WithinLimits ∧
    ∃ root decoded after leaf, (Asn1Tree.built 0x30 [.integer 0x02 0x80000000]).node = some root ∧
      (Asn1Decoder.make root.asn1NodeToBytes 0
        (UInt32.ofNat root.asn1NodeToBytes.length)).asn1NextNode = (some decoded, after) ∧
      expandLeaves 1 decoded = [leaf] ∧
      leaf.asn1AsInteger.toInt = -2147483648 ∧ (0x80000000 : UInt32).toNat = 2147483648 :=
  ⟨by decide, by decide, _, _, _, _, rfl, rfl, rfl, by decide, by decide⟩

end TelephonyCore.Codec
