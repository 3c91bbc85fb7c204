import TelephonyCore.Codec.Asn1Decoder
import TelephonyCore.Lib.Reads

/-!
# What one call of `Asn1NextNode` reads and takes

Here the two functions of the decoder are written once more, with every access to `srcData_` logged
(`asn1NextNodeLogged`), and one call is followed on any bytes at all. A call that returns a node has
taken a `Span` off the data: the octets of a tag, length octets, and as many bytes as these state.

The offsets are below `end_` before they are moved on, with one exception: a tag whose octets run up
to `end_` moves the offset behind `end_`. From `end_ = 0xFFFFFFFF` that is 0, which the test that
follows takes for an offset inside the range, so that `InRange` asks for a smaller `end_`.
-/

namespace TelephonyCore.Codec

open Lib Logged List
open Lib.Der (wfTagOctets wfTagTail)

namespace Asn1Decoder

/-! ## The functions with their reads -/

def skipTagBytesLogged (srcData : List UInt8) (endPos : UInt32) : Nat → UInt32 → Logged UInt32
  | 0, offset => pure offset
  | fuel + 1, offset =>
    if offset < endPos then do
      let byte ← read srcData offset.toNat 0
      if byte &&& BIT8_MASK ≠ 0 then skipTagBytesLogged srcData endPos fuel (offset + 1)
      else pure offset
    else pure offset

def bytesToIntLogged (src : List UInt8) (offset length : UInt32) : Logged (Option Int32) :=
  if length > HEX_STR_MAX_LENGTH ∨ offset.toNat ≥ src.length
      ∨ length.toNat > src.length - offset.toNat then pure none
  else do
    let subByteStream ← readRange src offset.toNat length.toNat
    pure (some (Int32.ofInt (strtol16 (bytesToHexStr subByteStream))))

def takeContentLogged (d : Asn1Decoder) (tag offset dataLen : UInt32) :
    Logged (Option Asn1Node × Asn1Decoder) :=
  if offset > d.endPos ∨ dataLen > d.endPos - offset then pure (none, d)
  else do
    let byteStream ← readRange d.srcData offset.toNat dataLen.toNat
    pure (some (Asn1Node.make tag byteStream 0 dataLen), { d with position := offset + dataLen })

def buildAsn1NodeLogged (d : Asn1Decoder) (tag offset : UInt32) :
    Logged (Option Asn1Node × Asn1Decoder) :=
  if d.srcData = [] ∨ offset.toNat ≥ d.srcData.length then pure (none, d)
  else do
    let byteLen ← read d.srcData offset.toNat 0
    if byteLen &&& BIT8_MASK = 0 then takeContentLogged d tag (offset + 1) byteLen.toUInt32
    else
      let lenLen := byteLen.toUInt32 &&& MAX_INT8
      if offset + 1 > d.endPos ∨ lenLen > d.endPos - (offset + 1) then pure (none, d)
      else do
        match ← bytesToIntLogged d.srcData (offset + 1) lenLen with
        | none => pure (none, d)
        | some len => takeContentLogged d tag (offset + 1 + lenLen) len.toUInt32

def tagEnd (d : Asn1Decoder) : UInt32 :=
  if d.srcData.getD d.position.toNat 0 &&& 0x1F = 0x1F then
    skipTagBytes d.srcData d.endPos d.srcData.length (d.position + 1) + 1
  else d.position + 1

def tagEndLogged (d : Asn1Decoder) : Logged UInt32 := do
  let byteTag ← read d.srcData d.position.toNat 0
  if byteTag &&& 0x1F = 0x1F then do
    let last ← skipTagBytesLogged d.srcData d.endPos d.srcData.length (d.position + 1)
    pure (last + 1)
  else pure (d.position + 1)

def asn1NextNodeLogged (d : Asn1Decoder) : Logged (Option Asn1Node × Asn1Decoder) :=
  if d.endPos ≤ d.position ∨ d.srcData = [] then pure (none, d)
  else if d.position.toNat ≥ d.srcData.length then pure (none, d)
  else do
    let offset ← tagEndLogged d
    if offset ≥ d.endPos then pure (none, d)
    else do
      match ← bytesToIntLogged d.srcData d.position (offset - d.position) with
      | none => pure (none, d)
      | some tag =>
        if tag < 0 then pure (none, d) else buildAsn1NodeLogged d tag.toUInt32 offset

theorem skipTagBytesLogged_value (srcData : List UInt8) (endPos : UInt32) :
    ∀ fuel offset, (skipTagBytesLogged srcData endPos fuel offset).value
      = skipTagBytes srcData endPos fuel offset := by
  intro fuel
  induction fuel with
  | zero => intro offset; rfl
  | succ fuel ih =>
    intro offset
    simp only [skipTagBytesLogged, skipTagBytes, value_ite, value_bind, value_pure, ih]
    by_cases h1 : offset < endPos
    · simp only [h1, if_true, true_and]
    · simp only [h1, if_false, false_and]

@[simp] theorem bytesToIntLogged_value (src : List UInt8) (offset length : UInt32) :
    (bytesToIntLogged src offset length).value = bytesToInt src offset length := by
  simp only [bytesToIntLogged, bytesToInt, value_ite, value_bind, value_readRange, value_pure]

@[simp] theorem takeContentLogged_value (d : Asn1Decoder) (tag offset dataLen : UInt32) :
    (takeContentLogged d tag offset dataLen).value = takeContent d tag offset dataLen := by
  simp only [takeContentLogged, takeContent, value_ite, value_bind, value_readRange, value_pure]

@[simp] theorem buildAsn1NodeLogged_value (d : Asn1Decoder) (tag offset : UInt32) :
    (buildAsn1NodeLogged d tag offset).value = buildAsn1Node d tag offset := by
  simp only [buildAsn1NodeLogged, buildAsn1Node, value_ite, value_bind,
    value_pure, takeContentLogged_value, bytesToIntLogged_value]
  cases bytesToInt d.srcData (offset + 1)
      ((d.srcData.getD offset.toNat 0).toUInt32 &&& MAX_INT8) with
  | none => rfl
  | some len => simp only [takeContentLogged_value]

@[simp] theorem tagEndLogged_value (d : Asn1Decoder) : (tagEndLogged d).value = tagEnd d := by
  simp only [tagEndLogged, tagEnd, value_ite, value_bind, value_pure, skipTagBytesLogged_value]

theorem asn1NextNode_eq (d : Asn1Decoder) :
    d.asn1NextNode =
      if d.endPos ≤ d.position ∨ d.srcData = [] then (none, d)
      else if d.position.toNat ≥ d.srcData.length then (none, d)
      else if tagEnd d ≥ d.endPos then (none, d)
      else
        match bytesToInt d.srcData d.position (tagEnd d - d.position) with
        | none => (none, d)
        | some tag => if tag < 0 then (none, d) else buildAsn1Node d tag.toUInt32 (tagEnd d) :=
  rfl

theorem asn1NextNodeLogged_value (d : Asn1Decoder) :
    d.asn1NextNodeLogged.value = d.asn1NextNode := by
  rw [asn1NextNode_eq]
  simp only [asn1NextNodeLogged, value_ite, value_bind, tagEndLogged_value, bytesToIntLogged_value]
  cases bytesToInt d.srcData d.position (tagEnd d - d.position) with
  | none => rfl
  | some tag => simp only [value_ite, value_pure, buildAsn1NodeLogged_value]

end Asn1Decoder

/-! ## Spans -/

/-- The number of bytes that length octets state. -/
def statedLength : List UInt8 → Option Nat
  | [] => none
  | byteLen :: rest =>
    if byteLen &&& BIT8_MASK = 0 then if rest = [] then some byteLen.toNat else none
    else if rest.length = (byteLen.toUInt32 &&& MAX_INT8).toNat then some (ofBeBytes rest)
    else none

/-- A tag, a length and as many bytes as it states. -/
structure Span where
  tagOctets : List UInt8
  lengthOctets : List UInt8
  value : List UInt8
  wfTag : wfTagOctets tagOctets = true
  stated : statedLength lengthOctets = some value.length

namespace Span

def bytes (s : Span) : List UInt8 := s.tagOctets ++ s.lengthOctets ++ s.value

def node (s : Span) : Asn1Node :=
  Asn1Node.make (UInt32.ofNat (ofBeBytes s.tagOctets)) s.value 0 (UInt32.ofNat s.value.length)

theorem length_bytes (s : Span) :
    s.bytes.length = s.tagOctets.length + s.lengthOctets.length + s.value.length := by
  simp [bytes, Nat.add_assoc]

theorem two_le_length (s : Span) : 2 ≤ s.bytes.length := by
  have ht : s.tagOctets ≠ [] := by
    intro h
    exact absurd s.wfTag (by simp [h, wfTagOctets])
  have hl : s.lengthOctets ≠ [] := by
    intro h
    exact absurd s.stated (by simp [h, statedLength])
  have h1 := length_pos_iff.2 ht
  have h2 := length_pos_iff.2 hl
  rw [length_bytes]
  omega

end Span

/-! ### Parts of the source -/

section Slice

variable (src : List UInt8) {a b : Nat}

theorem getD_eq_getElem (h : a < src.length) : src.getD a 0 = src.get ⟨a, h⟩ := by
  simp [h]

theorem length_slice {n : Nat} (h : a + n ≤ src.length) : ((src.drop a).take n).length = n := by
  rw [length_take, length_drop]
  omega

theorem slice_eq_cons (hab : a < b) (hb : b ≤ src.length) :
    (src.drop a).take (b - a) = src.getD a 0 :: (src.drop (a + 1)).take (b - (a + 1)) := by
  rw [getD_eq_getElem, drop_eq_getElem_cons (by omega),
    show b - a = b - (a + 1) + 1 by omega, take_succ_cons]
  rfl

theorem slice_append {c : Nat} (hab : a ≤ b) (hbc : b ≤ c) :
    (src.drop a).take (c - a) = (src.drop a).take (b - a) ++ (src.drop b).take (c - b) := by
  rw [show c - a = (b - a) + (c - b) by omega, take_add, drop_drop, show a + (b - a) = b by omega]

theorem wfTagTail_slice (hab : a ≤ b) (hb : b < src.length)
    (hs : ∀ i, a ≤ i → i < b → src.getD i 0 &&& BIT8_MASK ≠ 0)
    (hc : src.getD b 0 &&& BIT8_MASK = 0) : wfTagTail ((src.drop a).take (b + 1 - a)) := by
  induction hn : b - a generalizing a with
  | zero =>
    obtain rfl : a = b := by omega
    rw [slice_eq_cons src (by omega) (by omega), Nat.sub_self, take_zero]
    simpa [wfTagTail, BIT8_MASK] using hc
  | succ n ih =>
    have hr := ih (a := a + 1) (by omega) (fun i hi => hs i (by omega)) (by omega)
    have hl := hs a (by omega) (by omega)
    rw [slice_eq_cons src (by omega) (by omega)]
    rw [slice_eq_cons src (by omega) (by omega)] at hr ⊢
    simp only [wfTagTail, Bool.and_eq_true, bne_iff_ne]
    exact ⟨hl, hr⟩

theorem bytesToInt_slice {offset length : UInt32} (hoff : offset.toNat < src.length)
    (h4 : length.toNat ≤ 4) (hl : offset.toNat + length.toNat ≤ src.length) :
    bytesToInt src offset length
      = some (.ofInt (ofBeBytes ((src.drop offset.toNat).take length.toNat))) := by
  have hm := length_slice src hl
  by_cases h0 : length.toNat = 0
  · unfold bytesToInt
    rw [if_neg (by
      simp only [gt_iff_lt, UInt32.lt_iff_toNat_lt, not_or]
      exact ⟨by simp; omega, by omega, by omega⟩)]
    simp only [h0]
    rfl
  · refine bytesToInt_eq (src.take offset.toNat) _
      ((src.drop offset.toNat).drop length.toNat) ?_ ?_ hm.symm (by omega) (by omega)
    · rw [append_assoc, take_append_drop, take_append_drop]
    · rw [length_take]
      omega

theorem exists_span {p q k n : Nat} (hpq : p ≤ q) (hin : q + k + n ≤ src.length)
    (hwf : wfTagOctets ((src.drop p).take (q - p)))
    (hst : statedLength ((src.drop q).take k) = some n) :
    ∃ span : Span, span.tagOctets = (src.drop p).take (q - p) ∧
      span.value = (src.drop (q + k)).take n ∧ span.value.length = n ∧
      p + span.bytes.length = q + k + n ∧ (src.drop p).take span.bytes.length = span.bytes := by
  have hv := length_slice src hin
  have hbs : (src.drop p).take (q - p) ++ (src.drop q).take k ++ (src.drop (q + k)).take n
      = (src.drop p).take (q + k + n - p) := by
    rw [slice_append src hpq (show q ≤ q + k + n by omega),
      slice_append src (Nat.le_add_right q k) (show q + k ≤ q + k + n by omega),
      Nat.add_sub_cancel_left, Nat.add_sub_cancel_left, append_assoc]
  have hl := length_slice src (show p + (q + k + n - p) ≤ src.length by omega)
  let span : Span := ⟨_, _, _, hwf, by rw [hv]; exact hst⟩
  have hsp : span.bytes = (src.drop p).take (q + k + n - p) := hbs
  refine ⟨span, rfl, rfl, hv, ?_, ?_⟩
  · rw [hsp, hl]
    omega
  · rw [hsp, hl]

end Slice

/-! ## One call -/

namespace Asn1Decoder

/-- The decoded range lies in the source and the cursor in the range, and an offset behind the range
is still a `uint32_t`. -/
structure InRange (d : Asn1Decoder) : Prop where
  position_le : d.position.toNat ≤ d.endPos.toNat
  endPos_le : d.endPos.toNat ≤ d.srcData.length
  endPos_lt : d.endPos.toNat < 2 ^ 32 - 1

theorem skipTagBytes_spec (srcData : List UInt8) (endPos : UInt32) :
    ∀ fuel offset last, skipTagBytes srcData endPos fuel offset = last →
      offset.toNat ≤ endPos.toNat → endPos.toNat - offset.toNat ≤ fuel →
      offset.toNat ≤ last.toNat ∧ last.toNat ≤ endPos.toNat ∧
      (∀ i, offset.toNat ≤ i → i < last.toNat → srcData.getD i 0 &&& BIT8_MASK ≠ 0) ∧
      (last.toNat < endPos.toNat → srcData.getD last.toNat 0 &&& BIT8_MASK = 0) := by
  intro fuel
  induction fuel with
  | zero =>
    rintro offset _ rfl hle hf
    refine ⟨Nat.le_refl _, hle, fun i h1 h2 => absurd h2 (Nat.not_lt.2 h1), ?_⟩
    intro hlt
    exact absurd (show offset.toNat < endPos.toNat from hlt) (by omega)
  | succ fuel ih =>
    intro offset last hls hle hf
    rw [skipTagBytes] at hls
    by_cases hgo : offset < endPos ∧ srcData.getD offset.toNat 0 &&& BIT8_MASK ≠ 0
    · have hlt := UInt32.lt_iff_toNat_lt.1 hgo.1
      have hn := toNat_succ_of_lt hlt
      rw [if_pos hgo] at hls
      obtain ⟨h1, h2, h3, h4⟩ := ih (offset + 1) last hls (by omega) (by omega)
      refine ⟨by omega, h2, ?_, h4⟩
      intro i hi hlt
      rcases Nat.eq_or_lt_of_le hi with rfl | _
      · exact hgo.2
      · exact h3 i (by omega) hlt
    · rw [if_neg hgo] at hls
      subst hls
      refine ⟨Nat.le_refl _, hle, fun i h1 h2 => absurd h2 (Nat.not_lt.2 h1), ?_⟩
      intro hlt
      by_contra hs
      exact hgo ⟨UInt32.lt_iff_toNat_lt.2 hlt, hs⟩

variable {d : Asn1Decoder} {lenLen length offset tag : UInt32} {lo : Nat}

/-- Where the scan for the end of a tag can end: at the end of the range or behind it, or behind a
tag inside the range. -/
theorem tagEnd_cases (h : d.InRange) (hp : d.position.toNat < d.endPos.toNat) :
    d.endPos.toNat ≤ (tagEnd d).toNat ∨
    (d.position.toNat < (tagEnd d).toNat ∧ (tagEnd d).toNat < d.endPos.toNat ∧
      wfTagOctets ((d.srcData.drop d.position.toNat).take
        ((tagEnd d).toNat - d.position.toNat))) := by
  have he := h.endPos_lt
  have hle := h.endPos_le
  have hn := toNat_succ_of_lt hp
  unfold tagEnd
  by_cases hld : d.srcData.getD d.position.toNat 0 &&& 0x1F = 0x1F
  · rw [if_pos hld]
    generalize hls : skipTagBytes d.srcData d.endPos d.srcData.length (d.position + 1) = last
    obtain ⟨_, h2, h3, h4⟩ := skipTagBytes_spec _ _ _ _ last hls (by omega) (by omega)
    rcases Nat.eq_or_lt_of_le h2 with ho | hin
    · -- the tag runs out: the offset is moved past the end of the range
      have hls : (last + 1).toNat = last.toNat + 1 :=
        toNat_add_of_lt (show last.toNat + 1 < 2 ^ 32 by omega)
      exact .inl (by omega)
    · have hls := toNat_succ_of_lt hin
      by_cases hf : d.endPos.toNat ≤ (last + 1).toNat
      · exact .inl hf
      · refine .inr ⟨by omega, by omega, ?_⟩
        have ht : wfTagTail ((d.srcData.drop (d.position.toNat + 1)).take
            (last.toNat + 1 - (d.position.toNat + 1))) :=
          wfTagTail_slice d.srcData (by omega) (by omega) (fun i hi => h3 i (by omega)) (h4 hin)
        rw [hls, slice_eq_cons d.srcData (by omega) (by omega), wfTagOctets,
          if_pos (by simpa using hld)]
        exact ht
  · rw [if_neg hld, hn]
    by_cases hf : d.endPos.toNat ≤ d.position.toNat + 1
    · exact .inl hf
    · refine .inr ⟨by omega, by omega, ?_⟩
      rw [slice_eq_cons d.srcData (by omega) (by omega), Nat.sub_self, take_zero, wfTagOctets,
        if_neg (by simpa using hld)]
      rfl

theorem toUInt32_ofInt_natCast (n : Nat) : (Int32.ofInt n).toUInt32 = .ofNat n := by
  rfl

theorem not_guard_iff {len endPos : UInt32} :
    ¬(offset > endPos ∨ len > endPos - offset) ↔ offset.toNat + len.toNat ≤ endPos.toNat := by
  simp only [UInt32.lt_iff_toNat_lt, not_or, Nat.not_lt]
  constructor
  · intro h
    have hs := toNat_sub_of_le h.1
    omega
  · intro h
    have hs := toNat_sub_of_le (show offset.toNat ≤ endPos.toNat by omega)
    omega

theorem takeContent_cases (d : Asn1Decoder) (tag offset dataLen : UInt32) :
    takeContent d tag offset dataLen = (none, d) ∨
    (offset.toNat + dataLen.toNat ≤ d.endPos.toNat ∧ takeContent d tag offset dataLen
        = (some (.make tag ((d.srcData.drop offset.toNat).take dataLen.toNat) 0 dataLen),
           { d with position := .ofNat (offset.toNat + dataLen.toNat) })) := by
  have he := d.endPos.toNat_lt
  unfold takeContent
  by_cases ho : offset > d.endPos ∨ dataLen > d.endPos - offset
  · exact .inl (if_pos ho)
  · rw [if_neg ho]
    have hf := not_guard_iff.1 ho
    have hs : offset + dataLen = .ofNat (offset.toNat + dataLen.toNat) := by
      rw [← UInt32.toNat_inj, toNat_add_of_lt (by omega), UInt32.toNat_ofNat',
        Nat.mod_eq_of_lt (by omega)]
    exact .inr ⟨hf, by rw [hs]⟩

theorem bytesToInt_eq_some {src : List UInt8} {value : Int32}
    (h : bytesToInt src offset length = some value) :
    length.toNat ≤ 4 ∧ offset.toNat < src.length ∧ offset.toNat + length.toNat ≤ src.length ∧
      value = .ofInt (ofBeBytes ((src.drop offset.toNat).take length.toNat)) := by
  have hgd : ¬(length > HEX_STR_MAX_LENGTH ∨ offset.toNat ≥ src.length
      ∨ length.toNat > src.length - offset.toNat) := by
    intro hg
    rw [bytesToInt, if_pos hg] at h
    cases h
  simp only [UInt32.lt_iff_toNat_lt, not_or, Nat.not_lt] at hgd
  have h4 : length.toNat ≤ 4 := hgd.1
  refine ⟨h4, by omega, by omega, ?_⟩
  rw [bytesToInt_slice src (by omega) h4 (by omega)] at h
  exact (Option.some.inj h).symm

theorem ofBeBytes_slice_lt (src : List UInt8) (a : Nat) {n : Nat} (hn : n ≤ 4) :
    ofBeBytes ((src.drop a).take n) < 2 ^ 32 := by
  have hl : ((src.drop a).take n).length ≤ 4 := by
    rw [length_take]
    omega
  calc ofBeBytes ((src.drop a).take n)
      < 256 ^ ((src.drop a).take n).length := ofBeBytes_lt _
    _ ≤ 256 ^ 4 := Nat.pow_le_pow_right (by decide) hl
    _ = 2 ^ 32 := by decide

section LengthForms

variable {d : Asn1Decoder} (tag : UInt32) {offset : UInt32} {byteLen : UInt8}
  (hle : d.endPos.toNat ≤ d.srcData.length) (hoff : offset.toNat < d.endPos.toNat)
  (hbyte : d.srcData.getD offset.toNat 0 = byteLen)

/-- A node over `n` bytes behind `k` length octets that state `n`, all inside the range. -/
def TakesContent (d : Asn1Decoder) (tag offset : UInt32) (k n : Nat) : Prop :=
  offset.toNat + k + n ≤ d.endPos.toNat ∧
    statedLength ((d.srcData.drop offset.toNat).take k) = some n ∧
    buildAsn1Node d tag offset
      = (some (Asn1Node.make tag ((d.srcData.drop (offset.toNat + k)).take n) 0 (UInt32.ofNat n)),
         { d with position := UInt32.ofNat (offset.toNat + k + n) })

include hbyte

theorem statedLength_long (hln : ¬ byteLen &&& BIT8_MASK = 0)
    (hll : byteLen.toUInt32 &&& MAX_INT8 = lenLen)
    (hf : offset.toNat + 1 + lenLen.toNat ≤ d.srcData.length) :
    statedLength ((d.srcData.drop offset.toNat).take (1 + lenLen.toNat))
      = some (ofBeBytes ((d.srcData.drop (offset.toNat + 1)).take lenLen.toNat)) := by
  have hs := slice_eq_cons d.srcData
    (show offset.toNat < offset.toNat + (1 + lenLen.toNat) by omega) (by omega)
  rw [Nat.add_sub_cancel_left, hbyte, show offset.toNat + (1 + lenLen.toNat)
    - (offset.toNat + 1) = lenLen.toNat by omega] at hs
  rw [hs, statedLength, if_neg hln, hll, if_pos (length_slice d.srcData hf)]

include hle hoff

theorem takesContent_short (hsh : byteLen &&& BIT8_MASK = 0) :
    buildAsn1Node d tag offset = (none, d) ∨ TakesContent d tag offset 1 byteLen.toNat := by
  have hnx := toNat_succ_of_lt hoff
  have hin : offset.toNat < d.srcData.length := by omega
  have hbd := buildAsn1Node_short tag hin hbyte hsh
  have hst : statedLength ((d.srcData.drop offset.toNat).take 1) = some byteLen.toNat := by
    have hsl := slice_eq_cons d.srcData (Nat.lt_succ_self offset.toNat) (by omega)
    rw [Nat.succ_eq_add_one, Nat.add_sub_cancel_left, Nat.sub_self, take_zero, hbyte] at hsl
    rw [hsl, statedLength, if_pos hsh, if_pos rfl]
  rcases takeContent_cases d tag (offset + 1) byteLen.toUInt32 with hnn | ⟨hin, hsm⟩
  · exact .inl (hbd.trans hnn)
  · rw [hnx, UInt8.toNat_toUInt32] at hin hsm
    refine .inr ⟨hin, hst, ?_⟩
    rw [hbd, hsm, show byteLen.toUInt32 = .ofNat byteLen.toNat from
      UInt32.toNat_inj.1 (by simp)]

theorem takesContent_long (hln : ¬ byteLen &&& BIT8_MASK = 0)
    (hll : byteLen.toUInt32 &&& MAX_INT8 = lenLen) :
    buildAsn1Node d tag offset = (none, d) ∨
      ∃ n, TakesContent d tag offset (1 + lenLen.toNat) n := by
  have he := d.endPos.toNat_lt
  have hnx := toNat_succ_of_lt hoff
  have hin : offset.toNat < d.srcData.length := by omega
  have hbd := buildAsn1Node_long tag hin hbyte hln hll
  by_cases hot : offset + 1 > d.endPos ∨ lenLen > d.endPos - (offset + 1)
  · exact .inl (hbd.trans (if_pos hot))
  rw [if_neg hot] at hbd
  rw [not_guard_iff, hnx] at hot
  cases hit : bytesToInt d.srcData (offset + 1) lenLen with
  | none =>
    rw [hit] at hbd
    exact .inl hbd
  | some len =>
    rw [hit] at hbd
    obtain ⟨h4, hst, hf, rfl⟩ := bytesToInt_eq_some hit
    rw [hnx] at hst hf
    have hsd := statedLength_long hbyte hln hll hf
    have hlt := ofBeBytes_slice_lt d.srcData (offset.toNat + 1) h4
    have hsu : (offset + 1 + lenLen).toNat = offset.toNat + (1 + lenLen.toNat) := by
      rw [toNat_add_of_lt (by omega), hnx]
      omega
    simp only [hnx] at hbd
    generalize ofBeBytes ((d.srcData.drop (offset.toNat + 1)).take lenLen.toNat) = n
      at hlt hsd hbd
    have hw : (UInt32.ofNat n).toNat = n := by
      rw [UInt32.toNat_ofNat', Nat.mod_eq_of_lt hlt]
    rcases takeContent_cases d tag (offset + 1 + lenLen) (.ofNat n) with
      hnn | ⟨hin, hsm⟩
    · exact .inl (hbd.trans hnn)
    · rw [hsu, hw] at hin hsm
      exact .inr ⟨n, hin, hsd, hbd.trans hsm⟩

end LengthForms

theorem buildAsn1Node_cases (hle : d.endPos.toNat ≤ d.srcData.length)
    (hoff : offset.toNat < d.endPos.toNat) :
    buildAsn1Node d tag offset = (none, d) ∨ ∃ k n, TakesContent d tag offset k n := by
  by_cases hsh : d.srcData.getD offset.toNat 0 &&& BIT8_MASK = 0
  · exact (takesContent_short tag hle hoff rfl hsh).imp_right fun h => ⟨_, _, h⟩
  · exact (takesContent_long tag hle hoff rfl hsh rfl).imp_right fun ⟨n, h⟩ => ⟨_, n, h⟩

/-- **What one call can do**: return null and leave the decoder as it is, or take a span off the
data at the cursor. -/
theorem asn1NextNode_cases (h : d.InRange) :
    d.asn1NextNode = (none, d) ∨
    ∃ span : Span, d.position.toNat + span.bytes.length ≤ d.endPos.toNat ∧
      (d.srcData.drop d.position.toNat).take span.bytes.length = span.bytes ∧
      d.asn1NextNode = (some span.node,
        { d with position := .ofNat (d.position.toNat + span.bytes.length) }) := by
  rw [asn1NextNode_eq]
  by_cases hst : d.endPos ≤ d.position ∨ d.srcData = []
  · exact .inl (if_pos hst)
  · rw [if_neg hst]
    rw [not_or, UInt32.not_le, UInt32.lt_iff_toNat_lt] at hst
    have hle := h.endPos_le
    rw [if_neg (by omega)]
    by_cases hfl : tagEnd d ≥ d.endPos
    · exact .inl (if_pos hfl)
    · rw [if_neg hfl]
      rw [ge_iff_le, UInt32.not_le, UInt32.lt_iff_toNat_lt] at hfl
      cases hin : bytesToInt d.srcData d.position (tagEnd d - d.position) with
      | none => exact .inl rfl
      | some tag =>
        simp only
        by_cases hng : tag < 0
        · exact .inl (if_pos hng)
        · rw [if_neg hng]
          obtain ⟨h4, -, hft, rfl⟩ := bytesToInt_eq_some hin
          rcases tagEnd_cases h hst.1 with _ | ⟨hgt, hlt, hwf⟩
          · omega
          · have hsb : (tagEnd d - d.position).toNat = (tagEnd d).toNat - d.position.toNat :=
              toNat_sub_of_le (by omega)
            rw [hsb] at h4 hft ⊢
            rw [toUInt32_ofInt_natCast]
            rcases buildAsn1Node_cases hle hlt with hnn | ⟨k, n, _, hsd, hsm⟩
            · exact .inl hnn
            · obtain ⟨span, htg, hv, hln, hmv, htk⟩ :=
                exists_span d.srcData (Nat.le_of_lt hgt) (by omega) hwf hsd
              refine .inr ⟨span, by omega, htk, ?_⟩
              rw [hsm, Span.node, htg, hln, hv, hmv]

/-! ### The reads of a call -/

theorem skipTagBytesLogged_within (srcData : List UInt8) (endPos : UInt32) :
    ∀ fuel offset, lo ≤ offset.toNat →
      (skipTagBytesLogged srcData endPos fuel offset).Within lo endPos.toNat := by
  intro fuel
  induction fuel with
  | zero => intro offset _; exact within_pure
  | succ fuel ih =>
    intro offset hlo
    rw [skipTagBytesLogged]
    by_cases hlt : offset < endPos
    · rw [if_pos hlt]
      have hlt' := UInt32.lt_iff_toNat_lt.1 hlt
      have hn := toNat_succ_of_lt hlt'
      refine (within_read hlo hlt').bind ?_
      split
      · exact ih (offset + 1) (by omega)
      · exact within_pure
    · rw [if_neg hlt]
      exact within_pure

theorem tagEndLogged_within (hp : d.position.toNat < d.endPos.toNat) :
    (tagEndLogged d).Within d.position.toNat d.endPos.toNat := by
  have hn := toNat_succ_of_lt hp
  refine (within_read (Nat.le_refl _) hp).bind ?_
  split
  · exact (skipTagBytesLogged_within _ _ _ _ (by omega)).bind within_pure
  · exact within_pure

theorem bytesToIntLogged_within (src : List UInt8) {hi : Nat} (hlo : lo ≤ offset.toNat)
    (hhi : offset.toNat + length.toNat ≤ hi) :
    (bytesToIntLogged src offset length).Within lo hi := by
  unfold bytesToIntLogged
  split
  · exact within_pure
  · exact (within_readRange hlo hhi).bind within_pure

theorem takeContentLogged_within (d : Asn1Decoder) (tag : UInt32) {dataLen : UInt32}
    (hlo : lo ≤ offset.toNat) :
    (takeContentLogged d tag offset dataLen).Within lo d.endPos.toNat := by
  unfold takeContentLogged
  by_cases ho : offset > d.endPos ∨ dataLen > d.endPos - offset
  · rw [if_pos ho]
    exact within_pure
  · rw [if_neg ho]
    exact (within_readRange hlo (not_guard_iff.1 ho)).bind within_pure

theorem buildAsn1NodeLogged_within (d : Asn1Decoder) (tag : UInt32) (hlo : lo ≤ offset.toNat)
    (hoff : offset.toNat < d.endPos.toNat) :
    (buildAsn1NodeLogged d tag offset).Within lo d.endPos.toNat := by
  have he := d.endPos.toNat_lt
  have hn := toNat_succ_of_lt hoff
  unfold buildAsn1NodeLogged
  split
  · exact within_pure
  · refine (within_read hlo hoff).bind ?_
    generalize (read d.srcData offset.toNat 0).value = byteLen
    split
    · exact takeContentLogged_within d tag (by omega)
    · simp only
      generalize byteLen.toUInt32 &&& MAX_INT8 = lenLen
      by_cases hot : offset + 1 > d.endPos ∨ lenLen > d.endPos - (offset + 1)
      · rw [if_pos hot]
        exact within_pure
      · rw [if_neg hot]
        rw [not_guard_iff] at hot
        have hs : (offset + 1 + lenLen).toNat = (offset + 1).toNat + lenLen.toNat :=
          toNat_add_of_lt (by omega)
        refine (bytesToIntLogged_within _ (by omega) (by omega)).bind ?_
        split
        · exact within_pure
        · exact takeContentLogged_within d tag (by omega)

/-- **The reads of one call** lie between the cursor and the end of the range. -/
theorem asn1NextNodeLogged_within (h : d.InRange) :
    d.asn1NextNodeLogged.Within d.position.toNat d.endPos.toNat := by
  unfold asn1NextNodeLogged
  by_cases hst : d.endPos ≤ d.position ∨ d.srcData = []
  · rw [if_pos hst]
    exact within_pure
  rw [if_neg hst]
  rw [not_or, UInt32.not_le, UInt32.lt_iff_toNat_lt] at hst
  split
  · exact within_pure
  refine (tagEndLogged_within hst.1).bind ?_
  rw [tagEndLogged_value]
  by_cases hf : tagEnd d ≥ d.endPos
  · rw [if_pos hf]
    exact within_pure
  rw [if_neg hf]
  rw [ge_iff_le, UInt32.not_le, UInt32.lt_iff_toNat_lt] at hf
  have hrs : ∀ tag : Option Int32, d.position.toNat ≤ (tagEnd d).toNat →
      (match tag with
        | none => pure (none, d)
        | some tag => if tag < 0 then pure (none, d)
          else buildAsn1NodeLogged d tag.toUInt32 (tagEnd d)).Within
        d.position.toNat d.endPos.toNat := by
    intro tag hle
    split
    · exact within_pure
    split
    · exact within_pure
    · exact buildAsn1NodeLogged_within d _ hle hf
  rcases tagEnd_cases h hst.1 with _ | ⟨_, _, -⟩
  · omega
  · have hsb : (tagEnd d - d.position).toNat = (tagEnd d).toNat - d.position.toNat :=
      toNat_sub_of_le (by omega)
    exact (bytesToIntLogged_within _ (Nat.le_refl _) (by omega)).bind (hrs _ (by omega))

end Asn1Decoder

end TelephonyCore.Codec
