import TelephonyCore.Codec.RoundTrip
import TelephonyCore.Lib.Transition

/-!
# Looking up children changes a node in place

A node read from the card keeps its content as raw bytes until the first lookup. `Asn1BuildChildren`
then decodes the content into child nodes and drops the bytes, and from there on `Asn1Write` writes
the children. So a caller that asks for the bytes after a lookup (`EsimFile::CreateNotification`)
gets those of the children.

The callers hold shared pointers into one tree. A pointer is the list of child indices that leads to
its node (`nodeAt`): children are appended once, so that indices stay good.

What the children write need not be what was read: a length in a longer form than needed comes back
short, and the rest behind an unreadable object is lost. For an object in distinguished form every
lookup keeps `OpenedFrom t`, and such a node is written as `t` whatever has been opened.
-/

namespace TelephonyCore.Codec

open Lib List
open Lib.Der (Tlv tlv header)

namespace Asn1Node

/-! ## Pointers into a tree -/

def nodeAt : Asn1Node → List Nat → Option Asn1Node
  | node, [] => some node
  | node, i :: path =>
    match node.children[i]? with
    | none => none
    | some child => child.nodeAt path

def changeAt (change : Asn1Node → Asn1Node) : Asn1Node → List Nat → Asn1Node
  | node, [] => change node
  | node, i :: path =>
    match node.children[i]? with
    | none => node
    | some child => { node with children := node.children.set i (child.changeAt change path) }

/-- `Asn1GetChild` through a pointer. -/
def getChildAt (root : Asn1Node) (path : List Nat) (tag : UInt32) :
    Option (List Nat) × Asn1Node :=
  let after := root.changeAt (fun node => (node.asn1GetChild tag).2) path
  match root.nodeAt path with
  | none => (none, root)
  | some node =>
    match node.asn1GetChild tag with
    | (none, _) => (none, after)
    | (some _, opened) =>
      ((opened.children.findIdx? (fun child => child.tag == tag)).map (fun i => path ++ [i]), after)

def hasChildAt (root : Asn1Node) (path : List Nat) (tag : UInt32) : Bool × Asn1Node :=
  ((root.getChildAt path tag).1.isSome, (root.getChildAt path tag).2)

def getGrandsonAt (root : Asn1Node) (path : List Nat) (firstLevelTag secondLevelTag : UInt32) :
    Option (List Nat) × Asn1Node :=
  match root.getChildAt path firstLevelTag with
  | (none, root) => (none, root)
  | (some resultNode, root) => root.getChildAt resultNode secondLevelTag

def getGreatGrandsonAt (root : Asn1Node) (path : List Nat)
    (firstLevelTag secondLevelTag thirdLevelTag : UInt32) : Option (List Nat) × Asn1Node :=
  match root.getGrandsonAt path firstLevelTag secondLevelTag with
  | (none, root) => (none, root)
  | (some resultNode, root) => root.getChildAt resultNode thirdLevelTag

/-- `Asn1GetChildren` through a pointer. -/
def getChildrenAt (root : Asn1Node) (path : List Nat) (tag : UInt32) :
    List (List Nat) × Asn1Node :=
  let after := root.changeAt (fun node => (node.asn1GetChildren tag).2.2) path
  match root.nodeAt path with
  | none => ([], root)
  | some node =>
    match node.asn1GetChildren tag with
    | (false, _, _) => ([], after)
    | (true, _, opened) =>
      if opened.constructed then
        ((opened.children.findIdxs (fun child => child.tag == tag)).map (fun i => path ++ [i]), after)
      else ([], after)

end Asn1Node

/-! ## Runs of lookups -/

variable {change : Asn1Node → Asn1Node}

inductive Lookup where
  | asn1GetChild (tag : UInt32)
  | asn1HasChild (tag : UInt32)
  | asn1GetGrandson (firstLevelTag secondLevelTag : UInt32)
  | asn1GetGreatGrandson (firstLevelTag secondLevelTag thirdLevelTag : UInt32)
  | asn1GetChildren (tag : UInt32)

def Lookup.call (root : Asn1Node) (path : List Nat) : Lookup → List (List Nat) × Asn1Node
  | .asn1GetChild tag => ((root.getChildAt path tag).1.toList, (root.getChildAt path tag).2)
  | .asn1HasChild tag => ([], (root.hasChildAt path tag).2)
  | .asn1GetGrandson first second =>
    ((root.getGrandsonAt path first second).1.toList, (root.getGrandsonAt path first second).2)
  | .asn1GetGreatGrandson first second third =>
    ((root.getGreatGrandsonAt path first second third).1.toList,
      (root.getGreatGrandsonAt path first second third).2)
  | .asn1GetChildren tag => root.getChildrenAt path tag

/-- A tree and the pointers into it that were handed out. -/
structure Lookups where
  root : Asn1Node
  pointers : List (List Nat) := [[]]

/-- One lookup on the node or on a node that an earlier lookup returned. -/
def Lookups.step (s : Lookups) (call : List Nat × Lookup) : Option Lookups :=
  if call.1 ∈ s.pointers then
    some ⟨(call.2.call s.root call.1).2, s.pointers ++ (call.2.call s.root call.1).1⟩
  else none

/-! ## Nodes of an object in distinguished form -/

def openedNode (t : Tlv) (children : List Asn1Node) : Asn1Node :=
  { nodeOf t with children := children, dataBytes := [], dataOffset := 0 }

/-- The node of `t` with some of its levels opened. -/
inductive OpenedFrom : Tlv → Asn1Node → Prop
  | closed (t : Tlv) : OpenedFrom t (nodeOf t)
  | opened {tag : Nat} {cs : List Tlv} {children : List Asn1Node}
      (hlen : children.length = cs.length)
      (hchildren : ∀ (i : Nat) c child, cs[i]? = some c → children[i]? = some child → OpenedFrom c child) :
      OpenedFrom (.cons tag cs) (openedNode (.cons tag cs) children)

/-- An object the codec reads and writes: well-formed tags, lengths within a signed word. -/
structure Distinguished (t : Tlv) : Prop where
  wf : t.Wf
  small : t.content.length < 2 ^ 31

theorem Distinguished.child {tag : Nat} {cs : List Tlv} (h : Distinguished (.cons tag cs)) {c : Tlv}
    (hc : c ∈ cs) : Distinguished c where
  wf := (Tlv.wfAll_iff cs).1 h.wf.2.2 c hc
  small := Nat.lt_of_le_of_lt (content_length_le_encodeAll hc) h.small

section Lookups

variable {tag : Nat} {cs : List Tlv} (hd : Distinguished (.cons tag cs))

include hd

theorem Distinguished.asn1GetChild (childTag : UInt32) :
    ((nodeOf (.cons tag cs)).asn1GetChild childTag).1
      = (cs.map nodeOf).find? (fun child => child.tag == childTag) := by
  rw [asn1GetChild_nodeOf hd.wf hd.small]

theorem Distinguished.asn1GetChildren (childTag : UInt32) :
    (nodeOf (.cons tag cs)).asn1GetChildren childTag
      = (true, (cs.map nodeOf).filter (fun child => child.tag == childTag),
          openedNode (.cons tag cs) (cs.map nodeOf)) := by
  rw [asn1GetChildren_nodeOf hd.wf hd.small]
  rfl

end Lookups

variable {t : Tlv}

theorem asn1Write_nodeOf (h : Distinguished t) : (nodeOf t).asn1Write = t.encode := by
  rw [nodeOf, Asn1Node.asn1Write_make _ h.small, toNat_ofNat_tag h.wf.tag, Tlv.encode_eq_tlv]

theorem asn1WriteAll_eq : ∀ {cs : List Tlv} {children : List Asn1Node},
    children.length = cs.length →
    (∀ (i : Nat) (c : Tlv) (child : Asn1Node), cs[i]? = some c → children[i]? = some child →
      child.asn1Write = c.encode) →
    Asn1Node.asn1WriteAll children = Tlv.encodeAll cs := by
  intro cs
  induction cs with
  | nil =>
    intro children hl _
    rw [length_eq_zero_iff.1 hl]
    rfl
  | cons c cs ih =>
    intro children hl hwr
    cases children with
    | nil => cases hl
    | cons child children =>
      rw [Asn1Node.asn1WriteAll, Tlv.encodeAll, hwr 0 c child rfl rfl,
        ih (Nat.succ.inj hl) fun i c' child' hc hch => hwr (i + 1) c' child' hc hch]

variable {node : Asn1Node}

/-- **What has been opened does not show in the bytes.** -/
theorem OpenedFrom.asn1Write (h : OpenedFrom t node) (hd : Distinguished t) :
    node.asn1Write = t.encode := by
  induction h with
  | closed t => exact asn1Write_nodeOf hd
  | @opened tag cs children hl hchn ih =>
    have hcn : isConstructedTag (UInt32.ofNat tag) := by
      rw [isConstructedTag_eq, toNat_ofNat_tag hd.wf.1]
      exact hd.wf.2.1
    have hal : Asn1Node.asn1WriteAll children = Tlv.encodeAll cs :=
      asn1WriteAll_eq hl fun i c child hc hch =>
        ih i c child hc hch (hd.child (mem_of_getElem? hc))
    have hsm : (Tlv.encodeAll cs).length < 2 ^ 31 := hd.small
    rw [Asn1Node.asn1Write_eq]
    show header (UInt32.ofNat tag).toNat (UInt32.ofNat (Tlv.encodeAll cs).length).toNat
      ++ (if isConstructedTag (UInt32.ofNat tag) && true then Asn1Node.asn1WriteAll children else [])
      = tlv tag (Tlv.encodeAll cs)
    rw [hcn, toNat_ofNat_tag hd.wf.1, UInt32.toNat_ofNat', Nat.mod_eq_of_lt (by omega),
      Der.tlv_eq_header]
    simp [hal]

theorem OpenedFrom.asn1NodeToBytes (h : OpenedFrom t node) (hd : Distinguished t) :
    node.asn1NodeToBytes = t.encode := by
  have hl : node.encodedLength = (nodeOf t).encodedLength := by
    cases h <;> rfl
  have hne := (Asn1Node.make_lengths (UInt32.ofNat t.tag) hd.small).ne_zero
  rw [Asn1Node.asn1NodeToBytes, if_neg (by rw [hl]; exact hne), h.asn1Write hd]

/-! ## Every lookup keeps it -/

theorem OpenedFrom.asn1BuildChildren (h : OpenedFrom t node) (hd : Distinguished t) :
    OpenedFrom t node.asn1BuildChildren.2 := by
  cases h with
  | closed =>
    cases t with
    | prim tag content =>
      have hp : (nodeOf (.prim tag content)).constructed = false := by
        rw [constructed_nodeOf hd.wf]
        exact hd.wf.2
      rw [Asn1Node.asn1BuildChildren, hp]
      exact .closed _
    | cons tag cs =>
      rw [asn1BuildChildren_nodeOf hd.wf hd.small]
      refine OpenedFrom.opened (by simp) fun i c child hc hch => ?_
      rw [getElem?_map, hc] at hch
      cases hch
      exact .closed c
  | opened hl hcn =>
    -- the bytes are gone, a second call does nothing
    unfold Asn1Node.asn1BuildChildren
    split <;> exact .opened hl hcn

theorem asn1GetChild_snd (node : Asn1Node) (tag : UInt32) :
    (node.asn1GetChild tag).2 = node ∨ (node.asn1GetChild tag).2 = node.asn1BuildChildren.2 := by
  unfold Asn1Node.asn1GetChild
  split
  · exact .inl rfl
  · split <;> next heq => exact .inr (by rw [heq])

theorem asn1GetChildren_snd (node : Asn1Node) (tag : UInt32) :
    (node.asn1GetChildren tag).2.2 = node ∨
      (node.asn1GetChildren tag).2.2 = node.asn1BuildChildren.2 := by
  unfold Asn1Node.asn1GetChildren
  split
  · exact .inl rfl
  · split <;> next heq => exact .inr (by rw [heq])

theorem OpenedFrom.of_snd {after : Asn1Node} (h : OpenedFrom t node) (hd : Distinguished t)
    (ha : after = node ∨ after = node.asn1BuildChildren.2) : OpenedFrom t after := by
  rcases ha with rfl | rfl
  · exact h
  · exact h.asn1BuildChildren hd

theorem OpenedFrom.changeAt
    (hch : ∀ {t : Tlv} {node : Asn1Node}, OpenedFrom t node → Distinguished t →
      OpenedFrom t (change node)) :
    ∀ (path : List Nat) {t : Tlv} {node : Asn1Node}, OpenedFrom t node → Distinguished t →
      OpenedFrom t (node.changeAt change path) := by
  intro path
  induction path with
  | nil =>
    intro t node h hd
    exact hch h hd
  | cons i path ih =>
    intro t node h hd
    cases h with
    | closed => exact .closed t
    | @opened tag cs children hl hcn =>
      show OpenedFrom _ (match children[i]? with
        | none => openedNode (.cons tag cs) children
        | some child => openedNode (.cons tag cs) (children.set i (child.changeAt change path)))
      cases hi : children[i]? with
      | none => exact .opened hl hcn
      | some child =>
        refine .opened (by rw [length_set, hl]) fun j c child' hc hcd' => ?_
        by_cases hij : i = j
        · subst hij
          rw [getElem?_set_self (List.getElem?_eq_some_iff.1 hi).1] at hcd'
          cases hcd'
          exact ih (hcn i c child hc hi) (hd.child (mem_of_getElem? hc))
        · rw [getElem?_set_ne hij] at hcd'
          exact hcn j c child' hc hcd'

variable {root : Asn1Node}

theorem OpenedFrom.getChildAt (h : OpenedFrom t root) (hd : Distinguished t) (path : List Nat)
    (tag : UInt32) : OpenedFrom t (root.getChildAt path tag).2 := by
  have haf : OpenedFrom t (root.changeAt (fun node => (node.asn1GetChild tag).2) path) :=
    OpenedFrom.changeAt (fun hn hdn => hn.of_snd hdn (asn1GetChild_snd _ tag)) path h hd
  unfold Asn1Node.getChildAt
  split
  · exact h
  · split <;> exact haf

theorem OpenedFrom.getChildrenAt (h : OpenedFrom t root) (hd : Distinguished t) (path : List Nat)
    (tag : UInt32) : OpenedFrom t (root.getChildrenAt path tag).2 := by
  have haf : OpenedFrom t (root.changeAt (fun node => (node.asn1GetChildren tag).2.2) path) :=
    OpenedFrom.changeAt (fun hn hdn => hn.of_snd hdn (asn1GetChildren_snd _ tag)) path h hd
  unfold Asn1Node.getChildrenAt
  split
  · exact h
  · split
    · exact haf
    · split <;> exact haf

theorem OpenedFrom.getGrandsonAt (h : OpenedFrom t root) (hd : Distinguished t) (path : List Nat)
    (first second : UInt32) : OpenedFrom t (root.getGrandsonAt path first second).2 := by
  have hf := h.getChildAt hd path first
  unfold Asn1Node.getGrandsonAt
  split <;> next heq =>
    rw [heq] at hf
    first
      | exact hf
      | exact hf.getChildAt hd _ second

theorem OpenedFrom.getGreatGrandsonAt (h : OpenedFrom t root) (hd : Distinguished t)
    (path : List Nat) (first second third : UInt32) :
    OpenedFrom t (root.getGreatGrandsonAt path first second third).2 := by
  have hs := h.getGrandsonAt hd path first second
  unfold Asn1Node.getGreatGrandsonAt
  split <;> next heq =>
    rw [heq] at hs
    first
      | exact hs
      | exact hs.getChildAt hd _ third

theorem OpenedFrom.step (hd : Distinguished t) {s s' : Lookups} {call : List Nat × Lookup}
    (h : OpenedFrom t s.root) (hs : s.step call = some s') : OpenedFrom t s'.root := by
  obtain ⟨path, lookup⟩ := call
  obtain ⟨-, ⟨⟩⟩ := Option.ite_none_right_eq_some.1 hs
  cases lookup with
  | asn1GetChild tag | asn1HasChild tag => exact h.getChildAt hd path tag
  | asn1GetGrandson first second => exact h.getGrandsonAt hd path first second
  | asn1GetGreatGrandson first second third => exact h.getGreatGrandsonAt hd path first second third
  | asn1GetChildren tag => exact h.getChildrenAt hd path tag

end TelephonyCore.Codec
