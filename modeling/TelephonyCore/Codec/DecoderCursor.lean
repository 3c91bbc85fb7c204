import TelephonyCore.Codec.DecoderReads
import TelephonyCore.Lib.Fuel

/-!
# Where the cursor of `Asn1Decoder` goes

From one call to a run of calls and to the loop of `Asn1BuildChildren`, by induction with `InRange`
as the invariant: every call keeps to the decoded range, a node comes from the span that the cursor
moved over, and the loop comes to an end with the nodes of a row of spans.

`cursor_safe` says so for every range of a source of fewer than 0xFFFFFFFF bytes, and
`last_tag_wraps` shows what happens to a tag that ends with a longer one.
-/

namespace TelephonyCore.Codec

open Lib List
open Lib.Der (wfTagOctets wfTagTail)

namespace Asn1Decoder

/-! ## Safe calls -/

/-- The node is made of the span that takes up `[start, stop)`. -/
def Consumes (src : List UInt8) (start stop : Nat) (node : Asn1Node) : Prop :=
  ∃ span : Span, node = span.node ∧ stop = start + span.bytes.length ∧
    (src.drop start).take span.bytes.length = span.bytes

/-- What is asked of a call that may read `[lo, hi)`. -/
structure CallSafe (lo hi : Nat) (d : Asn1Decoder) : Prop where
  reads : d.asn1NextNodeLogged.Within lo hi
  null : d.asn1NextNode.1 = none → d.asn1NextNode.2.position = d.position
  node : ∀ node, d.asn1NextNode.1 = some node →
    Consumes d.srcData d.position.toNat d.asn1NextNode.2.position.toNat node ∧
    d.position.toNat + 2 ≤ d.asn1NextNode.2.position.toNat ∧
    d.asn1NextNode.2.position.toNat ≤ d.endPos.toNat

variable {d : Asn1Decoder}

theorem InRange.callSafe (h : d.InRange) :
    d.CallSafe d.position.toNat d.endPos.toNat where
  reads := asn1NextNodeLogged_within h
  null hnn := by
    rcases asn1NextNode_cases h with hc | ⟨span, -, -, hc⟩
    · rw [hc]
    · rw [hc] at hnn
      cases hnn
  node node hnd := by
    rcases asn1NextNode_cases h with hc | ⟨span, _, htk, hc⟩
    · rw [hc] at hnd
      cases hnd
    · have he := d.endPos.toNat_lt
      have h2 := span.two_le_length
      have hmv : d.asn1NextNode.2.position.toNat = d.position.toNat + span.bytes.length := by
        rw [hc]
        exact (UInt32.toNat_ofNat' ..).trans (Nat.mod_eq_of_lt (by omega))
      rw [hc] at hnd
      refine ⟨⟨span, (Option.some.inj hnd).symm, hmv, htk⟩, by omega, by omega⟩

variable {hi lo : Nat} {node : Asn1Node}

theorem CallSafe.mono {lo' hi' : Nat} (h : d.CallSafe lo hi) (hlo : lo' ≤ lo) (hhi : hi ≤ hi') :
    d.CallSafe lo' hi' := { h with
  reads i hm := ⟨hlo.trans (h.reads i hm).1, (h.reads i hm).2.trans_le hhi⟩ }

/-! ## Runs of calls -/

theorem takeContent_keeps (d : Asn1Decoder) (tag offset dataLen : UInt32) :
    (takeContent d tag offset dataLen).2.srcData = d.srcData ∧
      (takeContent d tag offset dataLen).2.endPos = d.endPos := by
  rcases takeContent_cases d tag offset dataLen with h | ⟨-, h⟩
  · rw [h]; exact ⟨rfl, rfl⟩
  · rw [h]; exact ⟨rfl, rfl⟩

theorem asn1NextNode_keeps (d : Asn1Decoder) :
    d.asn1NextNode.2.srcData = d.srcData ∧ d.asn1NextNode.2.endPos = d.endPos := by
  unfold asn1NextNode buildAsn1Node
  simp only
  repeat' split
  all_goals first | exact ⟨rfl, rfl⟩ | exact takeContent_keeps d _ _ _

def afterCalls (d : Asn1Decoder) : Nat → Asn1Decoder
  | 0 => d
  | n + 1 => (d.afterCalls n).asn1NextNode.2

theorem afterCalls_keeps (d : Asn1Decoder) (n : Nat) :
    (d.afterCalls n).srcData = d.srcData ∧ (d.afterCalls n).endPos = d.endPos := by
  induction n with
  | zero => exact ⟨rfl, rfl⟩
  | succ n ih =>
    obtain ⟨hs, he⟩ := asn1NextNode_keeps (d.afterCalls n)
    exact ⟨hs.trans ih.1, he.trans ih.2⟩

theorem CallSafe.inRange (hsf : d.CallSafe lo hi) (h : d.InRange) :
    d.asn1NextNode.2.InRange ∧ d.position.toNat ≤ d.asn1NextNode.2.position.toNat := by
  obtain ⟨hsr, he⟩ := asn1NextNode_keeps d
  cases hn : d.asn1NextNode.1 with
  | none =>
    have hsm := hsf.null hn
    exact ⟨⟨by rw [hsm, he]; exact h.position_le, by rw [he, hsr]; exact h.endPos_le,
      by rw [he]; exact h.endPos_lt⟩, by rw [hsm]⟩
  | some node =>
    obtain ⟨-, _, hst⟩ := hsf.node node hn
    exact ⟨⟨by rw [he]; exact hst, by rw [he, hsr]; exact h.endPos_le,
      by rw [he]; exact h.endPos_lt⟩, by omega⟩

/-- **A run of calls** keeps to the range, and the cursor does not move back. -/
theorem inRange_afterCalls (h : d.InRange) (n : Nat) :
    (d.afterCalls n).InRange ∧ d.position.toNat ≤ (d.afterCalls n).position.toNat := by
  induction n with
  | zero => exact ⟨h, Nat.le_refl _⟩
  | succ n ih =>
    obtain ⟨hrg', hle'⟩ := ih.1.callSafe.inRange ih.1
    exact ⟨hrg', ih.2.trans hle'⟩

theorem callSafe_afterCalls (h : d.InRange) (n : Nat) :
    (d.afterCalls n).CallSafe d.position.toNat d.endPos.toNat := by
  obtain ⟨hrg, hle⟩ := inRange_afterCalls h n
  exact hrg.callSafe.mono hle (by rw [(afterCalls_keeps d n).2])

/-! ## The loop of `Asn1BuildChildren` -/

def childLoopBody :
    Asn1Decoder × List Asn1Node → Fuelled ((Asn1Decoder × List Asn1Node) ⊕ List Asn1Node)
  | (decoder, children) =>
    if decoder.asn1HasNextNode then
      match decoder.asn1NextNode with
      | (none, _) => pure (.inr children)
      | (some subNode, decoder) => pure (.inl (decoder, children ++ [subNode]))
    else pure (.inr children)

def childLoop (decoder : Asn1Decoder) (children : List Asn1Node) : Fuelled (List Asn1Node) :=
  Fuelled.loop childLoopBody (decoder, children)

/-- Nodes made of spans that follow each other without a gap, from `start` to `stop`. -/
inductive Row (src : List UInt8) : Nat → Nat → List Asn1Node → Prop
  | nil (start : Nat) : Row src start start []
  | cons {start middle stop : Nat} {node : Asn1Node} {nodes : List Asn1Node}
    (hnode : Consumes src start middle node) (hnodes : Row src middle stop nodes) :
    Row src start stop (node :: nodes)

theorem childLoop_stop (children : List Asn1Node)
    (hs : d.asn1HasNextNode = false ∨ d.asn1NextNode = (none, d)) :
    (childLoop d children).Yields children := by
  refine .loop_done ⟨0, ?_⟩
  rw [childLoopBody]
  rcases hs with h | h
  · rw [h]; rfl
  · rw [h]; split <;> rfl

theorem childLoop_node {d' : Asn1Decoder} {children result : List Asn1Node}
    (hn : d.asn1HasNextNode) (hc : d.asn1NextNode = (some node, d'))
    (hr : (childLoop d' (children ++ [node])).Yields result) :
    (childLoop d children).Yields result := by
  refine .loop_again ⟨0, ?_⟩ hr
  rw [childLoopBody, hn, hc]
  rfl

theorem decodeAll_stop (hs : d.asn1HasNextNode = false ∨ d.asn1NextNode = (none, d))
    (fuel : Nat) : d.decodeAll fuel = [] := by
  cases fuel with
  | zero => rfl
  | succ fuel =>
    rw [decodeAll]
    rcases hs with h | h
    · rw [h]; rfl
    · rw [h]; split <;> rfl

theorem asn1HasNextNode_iff (d : Asn1Decoder) :
    d.asn1HasNextNode ↔ d.position.toNat < d.endPos.toNat := by
  rw [asn1HasNextNode, decide_eq_true_iff, UInt32.lt_iff_toNat_lt]

/-- The induction is on the fuel of `decodeAll`, which covers the bytes that are left. -/
theorem childLoop_yields (fuel : Nat) :
    ∀ d children, d.InRange → d.endPos.toNat - d.position.toNat ≤ fuel →
      (childLoop d children).Yields (children ++ d.decodeAll fuel) ∧
      ∃ stop ≤ d.endPos.toNat, Row d.srcData d.position.toNat stop (d.decodeAll fuel) := by
  induction fuel with
  | zero =>
    intro d children h hf
    have hdn : d.asn1HasNextNode = false := by
      rw [Bool.eq_false_iff, ne_eq, asn1HasNextNode_iff]
      omega
    rw [decodeAll_stop (.inl hdn), append_nil]
    exact ⟨childLoop_stop children (.inl hdn), _, h.position_le, .nil _⟩
  | succ fuel ih =>
    intro d children h hf
    by_cases hst : d.asn1HasNextNode = false ∨ d.asn1NextNode = (none, d)
    · rw [decodeAll_stop hst, append_nil]
      exact ⟨childLoop_stop children hst, _, h.position_le, .nil _⟩
    · rw [not_or, Bool.not_eq_false] at hst
      obtain hn | ⟨span, _, _, hc⟩ := asn1NextNode_cases h
      · exact absurd hn hst.2
      · have hsf := h.callSafe
        obtain ⟨hsp, _, -⟩ := hsf.node span.node (by rw [hc])
        have hrg := (hsf.inRange h).1
        obtain ⟨hsr, he⟩ := asn1NextNode_keeps d
        obtain ⟨hy, stop, hle, hrw⟩ := ih d.asn1NextNode.2 (children ++ [span.node]) hrg
          (by rw [he]; omega)
        have hal : d.decodeAll (fuel + 1) = span.node :: d.asn1NextNode.2.decodeAll fuel := by
          rw [decodeAll, if_pos hst.1, hc]
        rw [hsr] at hrw
        rw [he] at hle
        rw [append_assoc, singleton_append] at hy
        rw [hal]
        refine ⟨childLoop_node hst.1 ?_ hy, stop, hle, .cons hsp hrw⟩
        rw [← Prod.mk.eta (p := d.asn1NextNode), hc]

/-! ## The whole decoder -/

/-- Every call that a decoder of the range makes is safe, and the loop over its nodes ends, with
nodes of a row of spans from the start of the range. -/
structure CursorSafe (src : List UInt8) (offset decodeLen : UInt32) : Prop where
  calls : ∀ n, ((make src offset decodeLen).afterCalls n).CallSafe offset.toNat
    (offset.toNat + decodeLen.toNat)
  ends : (childLoop (make src offset decodeLen) []).Yields
    ((make src offset decodeLen).decodeAll src.length)
  row : ∃ stop ≤ offset.toNat + decodeLen.toNat,
    Row src offset.toNat stop ((make src offset decodeLen).decodeAll src.length)

theorem make_cases {src : List UInt8} (hsize : src.length < 2 ^ 32 - 1)
    (offset decodeLen : UInt32) :
    make src offset decodeLen = {} ∨
    (make src offset decodeLen).InRange ∧ (make src offset decodeLen).srcData = src ∧
      (make src offset decodeLen).position = offset ∧
      (make src offset decodeLen).endPos.toNat = offset.toNat + decodeLen.toNat := by
  unfold make
  by_cases ho : offset > 0xFFFFFFFF - decodeLen ∨ (offset + decodeLen).toNat > src.length
  · exact .inl (if_pos ho)
  · rw [if_neg ho]
    simp only [UInt32.lt_iff_toNat_lt, not_or, Nat.not_lt] at ho
    have hm : (0xFFFFFFFF - decodeLen).toNat = 2 ^ 32 - 1 - decodeLen.toNat :=
      toNat_sub_of_le (Nat.le_of_lt_succ decodeLen.toNat_lt)
    have hlt := decodeLen.toNat_lt
    have hs : (offset + decodeLen).toNat = offset.toNat + decodeLen.toNat :=
      toNat_add_of_lt (by omega)
    exact .inr ⟨⟨by show offset.toNat ≤ (offset + decodeLen).toNat; omega, ho.2,
      Nat.lt_of_le_of_lt ho.2 hsize⟩, rfl, rfl, hs⟩

theorem cursorSafe_of_make_empty {src : List UInt8} {offset decodeLen : UInt32}
    (hm : make src offset decodeLen = {}) : CursorSafe src offset decodeLen := by
  have haf : ∀ n, ({} : Asn1Decoder).afterCalls n = {} := by
    intro n
    induction n with
    | zero => rfl
    | succ n ih => rw [afterCalls, ih]; rfl
  have hdn : ({} : Asn1Decoder).asn1HasNextNode = false := rfl
  refine ⟨fun n => ?_, ?_, offset.toNat, Nat.le_add_right _ _, ?_⟩
  · rw [hm, haf]
    refine ⟨Logged.within_pure, fun _ => rfl, fun node hn => ?_⟩
    exact absurd hn (by simp [asn1NextNode])
  · rw [hm, decodeAll_stop (.inl hdn)]
    exact childLoop_stop [] (.inl hdn)
  · rw [hm, decodeAll_stop (.inl hdn)]
    exact .nil _

/-- **Cursor safety.** On a source of fewer than 0xFFFFFFFF bytes the decoder keeps to its range,
takes spans off it one after the other and comes to an end. -/
theorem cursor_safe {src : List UInt8} (hsize : src.length < 2 ^ 32 - 1)
    (offset decodeLen : UInt32) : CursorSafe src offset decodeLen := by
  rcases make_cases hsize offset decodeLen with hm | ⟨hrn, hsr, hp, he⟩
  · exact cursorSafe_of_make_empty hm
  · have hc := callSafe_afterCalls hrn
    have hle := hrn.endPos_le
    obtain ⟨hy, stop, hst, hrw⟩ := childLoop_yields src.length
      (make src offset decodeLen) [] hrn (by rw [hsr] at hle; omega)
    rw [he] at hc hst
    rw [hp] at hc hrw
    rw [hsr] at hrw
    exact ⟨hc, hy, stop, hst, hrw⟩

theorem cursor_safe_sequence : CursorSafe [0xFF, 0x30, 3, 2, 1, 5, 0xFF] 1 5 :=
  cursor_safe (by decide) 1 5

/-! ## A range that ends at 0xFFFFFFFF -/

theorem tagEnd_wraps (hle : d.endPos.toNat ≤ d.srcData.length)
    (hp : d.position.toNat + 1 = d.endPos.toNat) (hm : d.endPos.toNat = 2 ^ 32 - 1)
    (hlead : d.srcData.getD d.position.toNat 0 &&& 0x1F = 0x1F) : tagEnd d = 0 := by
  have hnx := toNat_succ_of_lt (show d.position.toNat < d.endPos.toNat by omega)
  rw [tagEnd, if_pos hlead, ← UInt32.toNat_inj, UInt32.toNat_add]
  generalize he : skipTagBytes d.srcData d.endPos d.srcData.length (d.position + 1) = last
  obtain ⟨_, _, -, -⟩ := skipTagBytes_spec _ _ _ _ last he (by omega) (by omega)
  rw [show last.toNat = 2 ^ 32 - 1 by omega]
  rfl

/-- The tag that begins with the last byte is read with the byte behind the range. -/
theorem mem_reads_of_wraps (hsz : 2 ^ 32 ≤ d.srcData.length)
    (hp : d.position.toNat + 1 = d.endPos.toNat) (hm : d.endPos.toNat = 2 ^ 32 - 1)
    (hlead : d.srcData.getD d.position.toNat 0 &&& 0x1F = 0x1F) :
    d.endPos.toNat ∈ d.asn1NextNodeLogged.reads := by
  have hz := tagEnd_wraps (by omega) hp hm hlead
  have hsb : (tagEnd d - d.position).toNat = 2 := by
    rw [hz, UInt32.toNat_sub, show d.position.toNat = 2 ^ 32 - 2 by omega]
    rfl
  have hrd : d.endPos.toNat
      ∈ (bytesToIntLogged d.srcData d.position (tagEnd d - d.position)).reads := by
    rw [bytesToIntLogged, if_neg (by
      simp only [HEX_STR_MAX_LENGTH, UInt32.lt_iff_toNat_lt, not_or, hsb]
      exact ⟨by decide, by omega, by omega⟩)]
    refine mem_append_left _ (mem_range'_1.2 ?_)
    omega
  rw [asn1NextNodeLogged, if_neg (by
    rw [not_or, UInt32.not_le, UInt32.lt_iff_toNat_lt]
    refine ⟨by omega, fun hn => ?_⟩
    rw [hn, length_nil] at hsz
    omega), if_neg (by omega), Logged.reads_bind, tagEndLogged_value]
  refine mem_append_right _ ?_
  rw [if_neg (by rw [hz, ge_iff_le, UInt32.le_iff_toNat_le, hm]; decide), Logged.reads_bind]
  exact mem_append_left _ hrd

/-- The offset wraps at the last byte of a range that ends at 0xFFFFFFFF, in a source one byte
longer. -/
theorem last_tag_wraps :
    (0xFFFFFFFE : UInt32).toNat + (1 : UInt32).toNat
        ≤ (List.replicate (2 ^ 32) (0x1F : UInt8)).length ∧
      ¬CursorSafe (List.replicate (2 ^ 32) 0x1F) 0xFFFFFFFE 1 := by
  have hm : make (.replicate (2 ^ 32) 0x1F) 0xFFFFFFFE 1
      = ⟨.replicate (2 ^ 32) 0x1F, 0xFFFFFFFE, 0xFFFFFFFF⟩ := by
    rw [make, if_neg (by rw [length_replicate]; decide)]
    rfl
  refine ⟨by rw [length_replicate]; decide, fun hs => ?_⟩
  have hc := hs.calls 0
  rw [afterCalls, hm] at hc
  refine absurd (hc.reads _ (mem_reads_of_wraps ?_ rfl rfl ?_)).2 (by decide)
  · show 2 ^ 32 ≤ (List.replicate (2 ^ 32) (0x1F : UInt8)).length
    rw [length_replicate]
  · show (List.replicate (2 ^ 32) (0x1F : UInt8)).getD (0xFFFFFFFE : UInt32).toNat 0 &&& 0x1F = 0x1F
    rw [List.getD, getElem?_replicate, if_pos (by decide)]
    decide

end Asn1Decoder

end TelephonyCore.Codec
