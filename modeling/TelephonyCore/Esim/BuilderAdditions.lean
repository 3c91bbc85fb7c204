import Mathlib.Data.List.ReduceOption
import TelephonyCore.Codec.BitStrings
import TelephonyCore.Esim.Download

/-!
# What an `Asn1Builder` keeps of what was added to it

`Asn1AddChild` takes any pointer, and `Asn1AddChildAsBase64` hands it whatever the decoder made of
its text: a null pointer when the text holds no TLV. The loop of `Asn1Build` ends at the first null
pointer as if the list ended there, so the children behind it are neither written nor reported.
-/

namespace TelephonyCore.Codec

def Asn1Builder.asn1AddChildAsBoolean (b : Asn1Builder) (tag : UInt32) (flag : Bool) :
    Bool × Asn1Builder :=
  let boolByteVec : List UInt8 := if flag then [MAX_UINT8.toUInt8] else [0]
  b.asn1AddChildAsBytes tag boolByteVec (UInt32.ofNat boolByteVec.length)

end TelephonyCore.Codec

namespace TelephonyCore.Esim

open Codec List Asn1Builder

inductive Addition where
  | child (node : Option Asn1Node)
  | bytes (tag : UInt32) (childByte : List UInt8) (byteLen : UInt32)
  | string (tag : UInt32) (childStr : StdString)
  | integer (tag childInt : UInt32)
  | signedInteger (tag : UInt32) (childSignedInt : Int32)
  | bits (tag : UInt32) (childBits : Int32)
  | boolean (tag : UInt32) (flag : Bool)
  | base64 (base64Src : StdString)

namespace Addition

def apply (text : TextCodec) (b : Asn1Builder) : Addition → Asn1Builder
  | child node => b.asn1AddChild node
  | bytes tag childByte byteLen => (b.asn1AddChildAsBytes tag childByte byteLen).2
  | string tag childStr => (b.asn1AddChildAsString tag childStr).2
  | integer tag childInt => (b.asn1AddChildAsInteger tag childInt).2
  | signedInteger tag childSignedInt => (b.asn1AddChildAsSignedInteger tag childSignedInt).2
  | bits tag childBits => (b.asn1AddChildAsBits tag childBits).2
  | boolean tag flag => (b.asn1AddChildAsBoolean tag flag).2
  | base64 base64Src => asn1AddChildAsBase64 text b base64Src

/-- The calls with a value refuse a constructed tag and add nothing then. -/
def leaf (tag : UInt32) (content : List UInt8) (byteLen : UInt32) : List (Option Asn1Node) :=
  if isConstructedTag tag then [] else [some (Asn1Node.make tag content 0 byteLen)]

/-- The pointers an addition pushes. -/
def added (text : TextCodec) : Addition → List (Option Asn1Node)
  | child node => [node]
  | bytes tag childByte byteLen => leaf tag childByte byteLen
  | string tag childStr =>
    leaf tag (stringToBytes childStr) (UInt32.ofNat (stringToBytes childStr).length)
  | integer tag childInt => leaf tag (uintToBytes childInt).2 (uintToBytes childInt).1
  | signedInteger tag childSignedInt =>
    leaf tag (intToBytes childSignedInt).2 (intToBytes childSignedInt).1
  | bits tag childBits =>
    leaf tag (newChildByte childBits) (UInt32.ofNat (newChildByte childBits).length)
  | boolean tag flag => leaf tag [if flag then 0xFF else 0] 1
  | base64 base64Src => [firstNode (stringToBytes (text.decodeBase64NoWrap base64Src))]

def applyAll (text : TextCodec) (b : Asn1Builder) (additions : List Addition) : Asn1Builder :=
  additions.foldl (apply text) b

def addedAll (text : TextCodec) (additions : List Addition) : List (Option Asn1Node) :=
  additions.flatMap (added text)

theorem asn1AddChildAsBytes_children (b : Asn1Builder) (tag : UInt32) (content : List UInt8)
    (byteLen : UInt32) : (b.asn1AddChildAsBytes tag content byteLen).2.children
      = b.children ++ leaf tag content byteLen := by
  unfold asn1AddChildAsBytes leaf
  split
  · simp
  · rfl

theorem asn1AddChildAsInteger_eq (b : Asn1Builder) (tag childInt : UInt32) :
    b.asn1AddChildAsInteger tag childInt
      = b.asn1AddChildAsBytes tag (uintToBytes childInt).2 (uintToBytes childInt).1 := by
  simp only [asn1AddChildAsInteger]
  rw [if_neg (Asn1Node.uintToBytes_ne_zero childInt)]
  rfl

theorem apply_children (text : TextCodec) (b : Asn1Builder) (a : Addition) :
    (a.apply text b).children = b.children ++ a.added text := by
  cases a with
  | child node => rfl
  | bytes tag childByte byteLen => exact asn1AddChildAsBytes_children b tag childByte byteLen
  | string tag childStr | signedInteger tag childSignedInt | bits tag childBits =>
    exact asn1AddChildAsBytes_children b tag _ _
  | integer tag childInt =>
    show (b.asn1AddChildAsInteger tag childInt).2.children = _
    rw [asn1AddChildAsInteger_eq]
    exact asn1AddChildAsBytes_children b tag _ _
  | boolean tag flag => cases flag <;> exact asn1AddChildAsBytes_children b tag _ _
  | base64 base64Src => rfl

theorem applyAll_children (text : TextCodec) (b : Asn1Builder) (additions : List Addition) :
    (applyAll text b additions).children = b.children ++ addedAll text additions := by
  induction additions generalizing b with
  | nil => simp [applyAll, addedAll]
  | cons a additions ih =>
    show (applyAll text (a.apply text b) additions).children = _
    rw [ih, apply_children, append_assoc]
    rfl

end Addition

/-! ## The loop of `Asn1Build` -/

def visited (children : List (Option Asn1Node)) : List (Option Asn1Node) :=
  children.takeWhile Option.isSome

def unvisited (children : List (Option Asn1Node)) : List (Option Asn1Node) :=
  children.dropWhile Option.isSome

def IsLong (node : Asn1Node) : Prop := MAX_ENCODE_DATA_LENGTH < node.encodedLength

theorem collectChildren_cases (children : List (Option Asn1Node)) (dataLen : UInt32)
    (moved : List Asn1Node) : (Asn1Builder.collectChildren children dataLen moved = none ∧
        ∃ n, some n ∈ visited children ∧ IsLong n) ∨
      ((∃ total, Asn1Builder.collectChildren children dataLen moved
          = some (total, moved ++ (visited children).reduceOption)) ∧
        ∀ n, some n ∈ visited children → ¬ IsLong n) := by
  induction children generalizing dataLen moved with
  | nil =>
    exact .inr ⟨⟨dataLen, by simp [collectChildren, visited]⟩, by simp [visited]⟩
  | cons child rest ih =>
    cases child with
    | none =>
      exact .inr ⟨⟨dataLen, by simp [collectChildren, visited]⟩, by simp [visited]⟩
    | some node =>
      have hv : visited (some node :: rest) = some node :: visited rest := rfl
      rw [hv, collectChildren]
      by_cases hl : IsLong node
      · exact .inl ⟨if_pos hl, node, by simp, hl⟩
      · rw [if_neg (show ¬ node.getEncodedLength > MAX_ENCODE_DATA_LENGTH from hl)]
        rcases ih (dataLen + node.getEncodedLength) (moved ++ [node]) with
          ⟨hnn, n, hn, hn'⟩ | ⟨⟨total, hsm⟩, hsh⟩
        · exact .inl ⟨hnn, n, by simp [hn], hn'⟩
        · refine .inr ⟨⟨total, by rw [hsm]; simp⟩, ?_⟩
          intro n hn
          rcases mem_cons.1 hn with hn | hn
          · cases hn; exact hl
          · exact hsh n hn

/-- **What `Asn1Build` returns**: null for too many children or a long one, and else a node with the
visited children. -/
theorem asn1Build_cases (b : Asn1Builder) : (b.asn1Build.1 = none ∧ (255 < b.children.length ∨
        ∃ n, some n ∈ visited b.children ∧ IsLong n)) ∨
      ((∃ node, b.asn1Build.1 = some node ∧ node.tag = b.tag ∧
          node.children = (visited b.children).reduceOption) ∧
        b.children.length ≤ 255 ∧ ∀ n, some n ∈ visited b.children → ¬ IsLong n) := by
  unfold asn1Build
  by_cases hc : b.children.length > MAX_UINT8.toNat
  · rw [if_pos hc]
    exact .inl ⟨rfl, .inl hc⟩
  · rw [if_neg hc]
    rcases collectChildren_cases b.children 0 [] with ⟨hn, hl⟩ | ⟨⟨_, hsm⟩, hsh⟩
    · rw [hn]
      exact .inl ⟨rfl, .inr hl⟩
    · rw [hsm]
      exact .inr ⟨⟨_, rfl, rfl, rfl⟩, Nat.le_of_not_lt hc, hsh⟩

theorem reduceOption_sublist_visited_iff (children : List (Option Asn1Node)) :
    children.reduceOption.Sublist (visited children).reduceOption ↔
      ∀ n, some n ∉ unvisited children := by
  have hs : children.reduceOption
      = (visited children).reduceOption ++ (unvisited children).reduceOption := by
    rw [← reduceOption_append, visited, unvisited, takeWhile_append_dropWhile]
  rw [hs]
  constructor
  · intro h n hn
    have hl := h.length_le
    rw [length_append] at hl
    have hnl : (unvisited children).reduceOption = [] := length_eq_zero_iff.1 (by omega)
    have hm : n ∈ (unvisited children).reduceOption := reduceOption_mem_iff.2 hn
    rw [hnl] at hm
    cases hm
  · intro h
    have hnl : (unvisited children).reduceOption = [] := by
      rw [eq_nil_iff_forall_not_mem]
      exact fun n hn => h n (reduceOption_mem_iff.1 hn)
    rw [hnl, append_nil]

/-- No child is dropped in silence: the build fails, or its node has every child in order. -/
def KeepsChildren (text : TextCodec) (tag : UInt32) (additions : List Addition) : Prop :=
  (Addition.applyAll text { tag := tag } additions).asn1Build.1 = none ∨
    ∃ node, (Addition.applyAll text { tag := tag } additions).asn1Build.1 = some node ∧
      (Addition.addedAll text additions).reduceOption.Sublist node.children

/-- **Where nothing is dropped.** Either no child was added behind a null pointer, or there are more
than 255 pointers, or a child before the first null pointer is too long. -/
theorem asn1Build_keeps_iff (text : TextCodec) (tag : UInt32) (additions : List Addition) :
    KeepsChildren text tag additions ↔
      (∀ n, some n ∉ unvisited (Addition.addedAll text additions)) ∨
        255 < (Addition.addedAll text additions).length ∨
        ∃ n, some n ∈ visited (Addition.addedAll text additions) ∧ IsLong n := by
  have hc : (Addition.applyAll text { tag := tag } additions).children
      = Addition.addedAll text additions := Addition.applyAll_children text _ additions
  have hb := asn1Build_cases (Addition.applyAll text { tag := tag } additions)
  rw [hc] at hb
  unfold KeepsChildren
  rcases hb with ⟨hnn, hf⟩ | ⟨⟨node, hsm, -, hk⟩, _, hsh⟩
  · exact iff_of_true (.inl hnn) (.inr hf)
  · rw [hsm]
    constructor
    · rintro (h | ⟨n, hn, hsb⟩)
      · cases h
      · cases hn
        rw [hk] at hsb
        exact .inl ((reduceOption_sublist_visited_iff _).1 hsb)
    · rintro (hal | _ | ⟨n, hn, hl⟩)
      · refine .inr ⟨node, rfl, ?_⟩
        rw [hk]
        exact (reduceOption_sublist_visited_iff _).2 hal
      · omega
      · exact absurd hl (hsh n hn)

/-- An empty base64 text decodes to nothing, so a null pointer comes first and the octet string
behind it is gone, with no failure. -/
theorem child_behind_null_dropped :
    ¬ KeepsChildren plainText TAG_ESIM_PREPARE_DOWNLOAD
      [.base64 [], .bytes TAG_ESIM_OCTET_STRING_TYPE [1, 2] 2] := by
  have had : Addition.addedAll plainText
      [.base64 [], .bytes TAG_ESIM_OCTET_STRING_TYPE [1, 2] 2]
        = [none, some (.make TAG_ESIM_OCTET_STRING_TYPE [1, 2] 0 2)] := by rfl
  have hb := asn1Build_cases (Addition.applyAll plainText { tag := TAG_ESIM_PREPARE_DOWNLOAD }
    [.base64 [], .bytes TAG_ESIM_OCTET_STRING_TYPE [1, 2] 2])
  rw [Addition.applyAll_children, had] at hb
  unfold KeepsChildren
  rw [had]
  rcases hb with ⟨-, hm | ⟨n, hn, -⟩⟩ | ⟨⟨_, hnd, -, he⟩, -⟩
  · simp at hm
  · cases hn
  · rw [hnd]
    rintro (h | ⟨n, hn, hs⟩)
    · cases h
    · cases hn
      rw [he] at hs
      simp [visited] at hs

end TelephonyCore.Esim
