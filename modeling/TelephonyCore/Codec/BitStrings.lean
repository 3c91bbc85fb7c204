import TelephonyCore.Codec.Asn1Builder

/-!
# BIT STRING nodes

`Asn1AddChildAsBits` writes the bits of a word from bit 0 upwards, which puts bit 0 into the most
significant bit of the first content byte: it reverses the word (`ReverseInt`), drops the zero bytes
at the end and counts the zero bits of the last one. `Asn1AsBits` shifts the bytes back and reverses
them once more.

The two functions do not meet at both ends of the range: the word 0 has no last byte, for which
`CountTrailingZeros` gives 8, and a word with one of the bits 24 to 31 set takes five content bytes,
of which `Asn1AsBits` allows four.
-/

namespace TelephonyCore.Codec

open Lib List

/-! ## Reversing a word -/

def MASK_PAIRS : UInt32 := 0x55555555
def MASK_NIBBLES : UInt32 := 0x33333333
def MASK_BYTES : UInt32 := 0x0f0f0f0f
def MASK_HALFWORDS : UInt32 := 0xff00

def reverseInt (value : UInt32) : UInt32 :=
  let valueTemp := ((value &&& MASK_PAIRS) <<< 1) ||| ((value >>> 1) &&& MASK_PAIRS)
  let valueTemp := ((valueTemp &&& MASK_NIBBLES) <<< 2) ||| ((valueTemp >>> 2) &&& MASK_NIBBLES)
  let valueTemp := ((valueTemp &&& MASK_BYTES) <<< 4) ||| ((valueTemp >>> 4) &&& MASK_BYTES)
  (valueTemp <<< 24) ||| ((valueTemp &&& MASK_HALFWORDS) <<< 8) |||
    ((valueTemp >>> 8) &&& MASK_HALFWORDS) ||| (valueTemp >>> 24)

def swapIndex (k i : Nat) : Nat := if i / k % 2 = 0 then k + i else i - k

variable {i : Nat} {tag x : UInt32}

/-- Exchange neighbouring groups of `k` bits; the mask has the lower group of each pair. -/
theorem getLsbD_swap (v m : BitVec 32) {k : Nat} (hk : 0 < k)
    (hm : ∀ i < 32, m.getLsbD i = decide (i / k % 2 = 0)) (hi : i < 32) :
    (((v &&& m) <<< k) ||| ((v >>> k) &&& m)).getLsbD i = v.getLsbD (swapIndex k i) := by
  unfold swapIndex
  simp only [BitVec.getLsbD_or, BitVec.getLsbD_shiftLeft, BitVec.getLsbD_and, hm i hi, decide_eq_true hi]
  by_cases hik : i < k
  · have h0 : i / k = 0 := Nat.div_eq_of_lt hik
    simp [hik, h0]
  · have hdv : i / k = (i - k) / k + 1 := by
      rw [Nat.div_eq_sub_div hk (by omega)]
    rw [hm (i - k) (by omega), hdv]
    by_cases he : (i - k) / k % 2 = 0
    · have ho : ((i - k) / k + 1) % 2 = 1 := by omega
      simp [hik, he, ho]
    · have ho : ((i - k) / k + 1) % 2 = 0 := by omega
      simp [he, ho]

theorem testBit_pairs (v : UInt32) (hi : i < 32) :
    (((v &&& MASK_PAIRS) <<< 1) ||| ((v >>> 1) &&& MASK_PAIRS)).toNat.testBit i
      = v.toNat.testBit (swapIndex 1 i) :=
  getLsbD_swap v.toBitVec MASK_PAIRS.toBitVec (by decide) (by decide) hi

theorem testBit_nibbles (v : UInt32) (hi : i < 32) :
    (((v &&& MASK_NIBBLES) <<< 2) ||| ((v >>> 2) &&& MASK_NIBBLES)).toNat.testBit i
      = v.toNat.testBit (swapIndex 2 i) :=
  getLsbD_swap v.toBitVec MASK_NIBBLES.toBitVec (by decide) (by decide) hi

theorem testBit_bytes (v : UInt32) (hi : i < 32) :
    (((v &&& MASK_BYTES) <<< 4) ||| ((v >>> 4) &&& MASK_BYTES)).toNat.testBit i
      = v.toNat.testBit (swapIndex 4 i) :=
  getLsbD_swap v.toBitVec MASK_BYTES.toBitVec (by decide) (by decide) hi

theorem testBit_swapBytes (v : UInt32) (hi : i < 32) :
    ((v <<< 24) ||| ((v &&& MASK_HALFWORDS) <<< 8) ||| ((v >>> 8) &&& MASK_HALFWORDS)
        ||| (v >>> 24)).toNat.testBit i = v.toNat.testBit (24 - i / 8 * 8 + i % 8) := by
  have hm : ∀ j, MASK_HALFWORDS.toBitVec.getLsbD j = decide (8 ≤ j ∧ j < 16) := by
    intro j
    by_cases hj : j < 32
    · have hal : ∀ j < 32, MASK_HALFWORDS.toBitVec.getLsbD j = decide (8 ≤ j ∧ j < 16) := by decide
      exact hal j hj
    · rw [BitVec.getLsbD_of_ge _ _ (by omega), eq_comm, decide_eq_false_iff_not]
      omega
  show ((v.toBitVec <<< 24) ||| ((v.toBitVec &&& MASK_HALFWORDS.toBitVec) <<< 8) |||
      ((v.toBitVec >>> 8) &&& MASK_HALFWORDS.toBitVec) ||| (v.toBitVec >>> 24)).getLsbD i
    = v.toBitVec.getLsbD (24 - i / 8 * 8 + i % 8)
  simp only [BitVec.getLsbD_or, BitVec.getLsbD_shiftLeft, BitVec.getLsbD_and, hm, decide_eq_true hi]
  have ho : 8 ≤ i → v.toBitVec.getLsbD (24 + i) = false := fun h =>
    BitVec.getLsbD_of_ge _ _ (by omega)
  rcases (by omega : i / 8 = 0 ∨ i / 8 = 1 ∨ i / 8 = 2 ∨ i / 8 = 3) with h | h | h | h
  · rw [show 24 - i / 8 * 8 + i % 8 = 24 + i by omega]
    grind
  · rw [show 24 - i / 8 * 8 + i % 8 = 8 + i by omega]
    grind
  · rw [show 24 - i / 8 * 8 + i % 8 = i - 8 by omega]
    grind
  · rw [show 24 - i / 8 * 8 + i % 8 = i - 24 by omega]
    grind

theorem testBit_reverseInt (x : UInt32) (hi : i < 32) :
    (reverseInt x).toNat.testBit i = x.toNat.testBit (31 - i) := by
  have hp : ∀ i < 32, 24 - i / 8 * 8 + i % 8 < 32 ∧ swapIndex 4 (24 - i / 8 * 8 + i % 8) < 32 ∧
      swapIndex 2 (swapIndex 4 (24 - i / 8 * 8 + i % 8)) < 32 ∧
      swapIndex 1 (swapIndex 2 (swapIndex 4 (24 - i / 8 * 8 + i % 8))) = 31 - i := by
    decide
  obtain ⟨h8, h4, h2, h1⟩ := hp i hi
  rw [reverseInt, testBit_swapBytes _ hi, testBit_bytes _ h8, testBit_nibbles _ h4,
    testBit_pairs _ h2, h1]

theorem eq_of_testBit {y : UInt32} (h : ∀ i < 32, x.toNat.testBit i = y.toNat.testBit i) :
    x = y := by
  apply UInt32.toNat_inj.1
  apply Nat.eq_of_testBit_eq
  intro i
  by_cases hi : i < 32
  · exact h i hi
  · have hp : 2 ^ 32 ≤ 2 ^ i := Nat.pow_le_pow_right (by decide) (by omega)
    rw [Nat.testBit_lt_two_pow (x.toNat_lt.trans_le hp),
      Nat.testBit_lt_two_pow (y.toNat_lt.trans_le hp)]

theorem reverseInt_reverseInt (x : UInt32) : reverseInt (reverseInt x) = x := by
  refine eq_of_testBit fun i hi => ?_
  rw [testBit_reverseInt _ hi, testBit_reverseInt _ (by omega), show 31 - (31 - i) = i by omega]

/-! ## Writing and reading the bits -/

def ZERO_VALUE_OCCPUPIED_BIT_COUNT : UInt8 := 8
def NONZERO_OCCUPIED_BITS : UInt8 := 7
def MASK_BYTES_ONE_BYTE : UInt32 := 0x0F
def MASK_NIBBLES_ONE_BYTE : UInt32 := 0x33
def MASK_PAIRS_ONE_BYTE : UInt32 := 0x55
def FIVE_BYTE_LENGTH : Nat := 5
def MAX_DATA_LENGTH : UInt32 := 4
def MIN_DATA_LENGTH : UInt32 := 1

def countTrailingZeros (value : UInt8) : UInt8 :=
  if value = 0 then ZERO_VALUE_OCCPUPIED_BIT_COUNT
  else
    let valueTemp := value.toUInt32 &&& MAX_UINT8
    let valueTemp := valueTemp &&& (~~~valueTemp + 1)
    let nonZeroBitCount := NONZERO_OCCUPIED_BITS
    let nonZeroBitCount :=
      if valueTemp &&& MASK_BYTES_ONE_BYTE ≠ 0 then nonZeroBitCount - 4 else nonZeroBitCount
    let nonZeroBitCount :=
      if valueTemp &&& MASK_NIBBLES_ONE_BYTE ≠ 0 then nonZeroBitCount - 2 else nonZeroBitCount
    if valueTemp &&& MASK_PAIRS_ONE_BYTE ≠ 0 then nonZeroBitCount - 1 else nonZeroBitCount

/-- One turn of the loop of `Asn1AddChildAsBits`. -/
def bitsTurn (reverse : UInt32) (s : List UInt8 × Nat) (i : Nat) : List UInt8 × Nat :=
  let byte := (reverse >>> UInt32.ofNat ((4 - i) * 8)).toUInt8
  (s.1.set i byte, if byte ≠ 0 then i else s.2)

/-- `newChildByte` of `Asn1AddChildAsBits`; its length is `dataLength`. -/
def newChildByte (childBits : Int32) : List UInt8 :=
  let s := [1, 2, 3, 4].foldl (bitsTurn (reverseInt childBits.toUInt32))
    (List.replicate FIVE_BYTE_LENGTH 0, 0)
  let dataLength := s.2 + 1
  (s.1.set 0 (countTrailingZeros (s.1.getD (dataLength - 1) 0))).take dataLength

def Asn1Builder.asn1AddChildAsBits (b : Asn1Builder) (tag : UInt32) (childBits : Int32) :
    Bool × Asn1Builder :=
  if isConstructedTag tag then (false, b)
  else
    let newChildByte := newChildByte childBits
    (true, b.asn1AddChild
      (some (Asn1Node.make tag newChildByte 0 (UInt32.ofNat newChildByte.length))))

/-- The loop of `Asn1AsBits`, for as many turns as there are bytes missing. -/
def shiftBytes : Nat → UInt32 → UInt32
  | 0, bits => bits
  | n + 1, bits => shiftBytes n (bits <<< 8)

def Asn1Node.asn1AsBits (node : Asn1Node) : Int32 :=
  if node.constructed ∨ node.dataBytes = [] then 0
  else if node.dataLength > MAX_DATA_LENGTH ∨ node.dataLength < MIN_DATA_LENGTH then 0
  else
    match bytesToInt node.dataBytes (node.dataOffset + 1) (node.dataLength - 1) with
    | none => 0
    | some dataBits =>
      (reverseInt (shiftBytes (4 - (node.dataLength.toNat - 1)) dataBits.toUInt32)).toInt32

/-! ## What a BIT STRING is -/

/-- The content bytes of a BIT STRING with the bits of `x` from bit 0 upwards: a count of the unused
bits of the last byte, and the bits, most significant first. -/
def BitStringOf (x : UInt32) : List UInt8 → Prop
  | [] => False
  | unused :: bytes =>
    unused.toNat ≤ 7 ∧
    (∀ last ∈ bytes.getLast?, last ≠ 0 ∧ last.toNat % 2 ^ unused.toNat = 0 ∧
      last.toNat.testBit unused.toNat) ∧
    ∀ i, x.toNat.testBit i = (bytes.getD (i / 8) 0).toNat.testBit (7 - i % 8)

theorem countTrailingZeros_spec : ∀ c, c ≠ 0 →
    (countTrailingZeros c).toNat ≤ 7 ∧ c.toNat % 2 ^ (countTrailingZeros c).toNat = 0 ∧
      c.toNat.testBit (countTrailingZeros c).toNat :=
  forall_byte (by decide +kernel)

def reversedByte (x : UInt32) (q : Nat) : UInt8 :=
  (reverseInt x >>> UInt32.ofNat ((3 - q) * 8)).toUInt8

theorem toNat_reversedByte (x : UInt32) (q : Nat) :
    (reversedByte x q).toNat = (reverseInt x).toNat >>> ((3 - q) * 8) % 2 ^ 8 := by
  have hs : (UInt32.ofNat ((3 - q) * 8)).toNat % 32 = (3 - q) * 8 := by
    rw [UInt32.toNat_ofNat', Nat.mod_mod_of_dvd _ (by decide), Nat.mod_eq_of_lt (by omega)]
  rw [reversedByte, UInt32.toNat_toUInt8, UInt32.toNat_shiftRight, hs]

theorem testBit_reversedByte (x : UInt32) {q j : Nat} (hq : q < 4) (hj : j < 8) :
    (reversedByte x q).toNat.testBit j = x.toNat.testBit (8 * q + (7 - j)) := by
  rw [toNat_reversedByte, Nat.testBit_mod_two_pow, Nat.testBit_shiftRight,
    testBit_reverseInt _ (by omega), decide_eq_true hj, Bool.true_and,
    show 31 - ((3 - q) * 8 + j) = 8 * q + (7 - j) by omega]

def reversedBytes (x : UInt32) : List UInt8 :=
  [reversedByte x 0, reversedByte x 1, reversedByte x 2, reversedByte x 3]

theorem getD_reversedBytes (x : UInt32) : ∀ {q : Nat}, q < 4 →
    (reversedBytes x).getD q 0 = reversedByte x q
  | 0, _ => rfl
  | 1, _ => rfl
  | 2, _ => rfl
  | 3, _ => rfl

/-- The number of the first `m` bytes up to the last one that is not zero. -/
def keptCount (x : UInt32) : Nat → Nat
  | 0 => 0
  | q + 1 => if reversedByte x q ≠ 0 then q + 1 else keptCount x q

theorem newChildByte_eq (x : Int32) :
    newChildByte x
      = countTrailingZeros ((0 :: reversedBytes x.toUInt32).getD (keptCount x.toUInt32 4) 0)
        :: (reversedBytes x.toUInt32).take (keptCount x.toUInt32 4) := rfl

/-- The last of the bytes that are kept is not zero, and all behind them are. -/
theorem keptCount_spec (x : UInt32) (m : Nat) :
    keptCount x m ≤ m ∧ (∀ q, keptCount x m = q + 1 → reversedByte x q ≠ 0) ∧
      ∀ q, keptCount x m ≤ q → q < m → reversedByte x q = 0 := by
  induction m with
  | zero =>
    exact ⟨Nat.le_refl 0, fun q hq => absurd hq (by simp [keptCount]), fun q _ hq => by omega⟩
  | succ m ih =>
    obtain ⟨_, hls, hr⟩ := ih
    rw [keptCount]
    by_cases hz : reversedByte x m = 0
    · rw [if_neg (by simpa using hz)]
      refine ⟨by omega, hls, fun q hq hm => ?_⟩
      rcases Nat.eq_or_lt_of_le (Nat.le_of_lt_succ hm) with rfl | hlt
      · exact hz
      · exact hr q hq hlt
    · rw [if_pos hz]
      refine ⟨Nat.le_refl _, fun q hq => ?_, fun q hq hm => by omega⟩
      obtain rfl : m = q := by omega
      exact hz

theorem testBit_kept (x : UInt32) (i : Nat) :
    x.toNat.testBit i
      = (((reversedBytes x).take (keptCount x 4)).getD (i / 8) 0).toNat.testBit (7 - i % 8) := by
  obtain ⟨_, -, hr⟩ := keptCount_spec x 4
  by_cases hq : i / 8 < 4
  · have hb := testBit_reversedByte x hq (show 7 - i % 8 < 8 by omega)
    rw [show 8 * (i / 8) + (7 - (7 - i % 8)) = i by omega] at hb
    rw [← hb]
    by_cases hk : i / 8 < keptCount x 4
    · rw [List.getD, getElem?_take_of_lt hk, ← List.getD, getD_reversedBytes x hq]
    · rw [hr _ (by omega) hq, List.getD, getElem?_eq_none (by
        rw [length_take]
        omega)]
      rfl
  · have hp : 2 ^ 32 ≤ 2 ^ i := Nat.pow_le_pow_right (by decide) (by omega)
    rw [Nat.testBit_lt_two_pow (x.toNat_lt.trans_le hp), List.getD, getElem?_eq_none (by
      rw [length_take]
      omega)]
    simp

theorem keptCount_ne_zero (hx : x ≠ 0) : keptCount x 4 ≠ 0 := by
  intro h0
  refine hx (eq_of_testBit fun i _ => ?_)
  rw [testBit_kept, h0]
  simp

theorem bitStringOf_newChildByte {x : Int32} (hx : x.toUInt32 ≠ 0) :
    BitStringOf x.toUInt32 (newChildByte x) := by
  obtain ⟨hle, hls, -⟩ := keptCount_spec x.toUInt32 4
  have hne := keptCount_ne_zero hx
  have hb := testBit_kept x.toUInt32
  rw [newChildByte_eq]
  obtain ⟨q, hq⟩ := Nat.exists_eq_succ_of_ne_zero hne
  rw [hq] at hb hle ⊢
  rw [getD_cons_succ, getD_reversedBytes _ (by omega)]
  obtain ⟨h7, hmd, hs⟩ := countTrailingZeros_spec _ (hls q hq)
  refine ⟨h7, fun last hmm => ?_, hb⟩
  have hg : ((reversedBytes x.toUInt32).take (q + 1)).getLast?
      = some (reversedByte x.toUInt32 q) := by
    obtain rfl | rfl | rfl | rfl : q = 0 ∨ q = 1 ∨ q = 2 ∨ q = 3 := by omega
    all_goals rfl
  rw [hg] at hmm
  obtain rfl : reversedByte x.toUInt32 q = last := Option.some.inj hmm
  exact ⟨hls q hq, hmd, hs⟩

/-! ## Reading them back -/

theorem shiftBytes_toNat (n : Nat) (bits : UInt32) :
    (shiftBytes n bits).toNat = bits.toNat * 256 ^ n % 2 ^ 32 := by
  induction n generalizing bits with
  | zero => simp [shiftBytes]
  | succ n ih =>
    have hs : (bits <<< 8).toNat = bits.toNat * 256 % 2 ^ 32 := by
      rw [UInt32.toNat_shiftLeft, Nat.shiftLeft_eq]
      rfl
    rw [shiftBytes, ih, hs, Nat.mod_mul_mod, Nat.mul_assoc, Nat.mul_comm 256, ← Nat.pow_succ]

theorem ofBeBytes_reversedBytes (x : UInt32) :
    ofBeBytes (reversedBytes x) = (reverseInt x).toNat := by
  have hlt := (reverseInt x).toNat_lt
  simp only [ofBeBytes, reversedBytes, valueBE, map_cons, map_nil, foldl_cons,
    foldl_nil, toNat_reversedByte]
  omega

theorem ofBeBytes_append_zeros (bytes : List UInt8) (n : Nat) :
    ofBeBytes (bytes ++ .replicate n 0) = ofBeBytes bytes * 256 ^ n := by
  induction n with
  | zero => simp
  | succ n ih =>
    rw [replicate_succ', ← append_assoc, ofBeBytes, map_append, map_singleton,
      valueBE_concat, ← ofBeBytes, ih, Nat.pow_succ, ← Nat.mul_assoc, UInt8.toNat_zero,
      Nat.add_zero]

theorem ofBeBytes_kept (x : UInt32) :
    ofBeBytes ((reversedBytes x).take (keptCount x 4)) * 256 ^ (4 - keptCount x 4)
      = (reverseInt x).toNat := by
  obtain ⟨_, -, hr⟩ := keptCount_spec x 4
  have hz : (reversedBytes x).drop (keptCount x 4) = .replicate (4 - keptCount x 4) 0 := by
    refine eq_replicate_iff.2 ⟨by rw [length_drop]; rfl, fun b hb => ?_⟩
    obtain ⟨i, hi, rfl⟩ := mem_iff_getElem.1 hb
    rw [length_drop] at hi
    have hi4 : keptCount x 4 + i < 4 := by
      have hl : (reversedBytes x).length = 4 := rfl
      omega
    rw [getElem_drop, ← hr _ (Nat.le_add_right _ i) hi4, ← getD_reversedBytes x hi4,
      List.getD, getElem?_eq_getElem]
    rfl
  rw [← ofBeBytes_append_zeros, ← hz, take_append_drop, ofBeBytes_reversedBytes]

def bitsNode (tag : UInt32) (x : Int32) : Asn1Node :=
  Asn1Node.make tag (newChildByte x) 0 (UInt32.ofNat (newChildByte x).length)

theorem newChildByte_length (x : Int32) : (newChildByte x).length = keptCount x.toUInt32 4 + 1 := by
  have hle := (keptCount_spec x.toUInt32 4).1
  rw [newChildByte_eq, length_cons, length_take]
  exact congrArg (· + 1) (Nat.min_eq_left hle)

theorem dataLength_bitsNode (tag : UInt32) (x : Int32) :
    (bitsNode tag x).dataLength.toNat = keptCount x.toUInt32 4 + 1 := by
  have hle := (keptCount_spec x.toUInt32 4).1
  show (UInt32.ofNat (newChildByte x).length).toNat = _
  rw [newChildByte_length, UInt32.toNat_ofNat', Nat.mod_eq_of_lt (by omega)]

theorem shiftBytes_kept (h3 : keptCount x 4 ≤ 3) :
    shiftBytes (4 - keptCount x 4)
        (Int32.ofInt (ofBeBytes ((reversedBytes x).take (keptCount x 4)))).toUInt32
      = reverseInt x := by
  have hk := ofBeBytes_kept x
  have hr := (reverseInt x).toNat_lt
  have hlt : ofBeBytes ((reversedBytes x).take (keptCount x 4)) < 2 ^ 31 := by
    calc ofBeBytes ((reversedBytes x).take (keptCount x 4))
        < 256 ^ ((reversedBytes x).take (keptCount x 4)).length := ofBeBytes_lt _
      _ ≤ 256 ^ 3 := Nat.pow_le_pow_right (by decide) (by rw [length_take]; omega)
      _ ≤ 2 ^ 31 := by decide
  have hw : (UInt32.ofNat (ofBeBytes ((reversedBytes x).take (keptCount x 4)))).toNat
      = ofBeBytes ((reversedBytes x).take (keptCount x 4)) := by
    rw [UInt32.toNat_ofNat', Nat.mod_eq_of_lt (by omega)]
  rw [(Asn1Decoder.toUInt32_ofInt hlt).2, ← UInt32.toNat_inj, shiftBytes_toNat, hw, hk,
    Nat.mod_eq_of_lt hr]

section ReadBack

variable (tag : UInt32) {x : Int32}

theorem bytesToInt_bitsNode_none (h0 : keptCount x.toUInt32 4 = 0) :
    bytesToInt (bitsNode tag x).dataBytes ((bitsNode tag x).dataOffset + 1)
      ((bitsNode tag x).dataLength - 1) = none := by
  have ho : ((bitsNode tag x).dataOffset + 1).toNat ≥ (bitsNode tag x).dataBytes.length := by
    rw [show (bitsNode tag x).dataBytes.length = _ from newChildByte_length x, h0]
    exact Nat.le_refl 1
  exact if_pos (.inr (.inl ho))

theorem bytesToInt_bitsNode (h0 : keptCount x.toUInt32 4 ≠ 0) :
    bytesToInt (bitsNode tag x).dataBytes ((bitsNode tag x).dataOffset + 1)
        ((bitsNode tag x).dataLength - 1)
      = some (.ofInt
          (ofBeBytes ((reversedBytes x.toUInt32).take (keptCount x.toUInt32 4)))) := by
  have hln := dataLength_bitsNode tag x
  have hle := (keptCount_spec x.toUInt32 4).1
  have htk : ((reversedBytes x.toUInt32).take (keptCount x.toUInt32 4)).length
      = keptCount x.toUInt32 4 := by
    rw [length_take]
    exact Nat.min_eq_left hle
  have hc : ((bitsNode tag x).dataLength - 1).toNat = keptCount x.toUInt32 4 := by
    rw [toNat_sub_of_le (show 1 ≤ _ by omega), hln]
    rfl
  exact bytesToInt_eq [_] ((reversedBytes x.toUInt32).take (keptCount x.toUInt32 4)) []
    (by rw [append_nil]; exact newChildByte_eq x) rfl (by rw [hc, htk])
    (by omega) (by omega)

end ReadBack

/-- **What is read back**: the word, unless it took all four bytes. -/
theorem asn1AsBits_bitsNode (ht : isConstructedTag tag = false) (x : Int32) :
    (bitsNode tag x).asn1AsBits = if keptCount x.toUInt32 4 ≤ 3 then x else 0 := by
  have hl := dataLength_bitsNode tag x
  have hbs : (bitsNode tag x).dataBytes ≠ [] := by
    intro h
    have h0 := newChildByte_length x
    rw [show newChildByte x = [] from h] at h0
    cases h0
  rw [Asn1Node.asn1AsBits, if_neg (by
    rw [not_or]
    exact ⟨by rw [show (bitsNode tag x).constructed = isConstructedTag tag from rfl, ht]; decide,
      hbs⟩)]
  by_cases h3 : keptCount x.toUInt32 4 ≤ 3
  · rw [if_pos h3, if_neg (by
      simp only [UInt32.lt_iff_toNat_lt, hl, not_or, MAX_DATA_LENGTH, MIN_DATA_LENGTH]
      exact ⟨by simp; omega, by simp⟩)]
    by_cases h0 : keptCount x.toUInt32 4 = 0
    · have hz : x.toUInt32 = 0 := by
        by_contra hne
        exact keptCount_ne_zero hne h0
      have hx : x = 0 := by
        rw [← Int32.toInt32_toUInt32 x, hz]
        rfl
      rw [bytesToInt_bitsNode_none tag h0, hx]
    · rw [bytesToInt_bitsNode tag h0]
      simp only
      rw [hl, Nat.add_sub_cancel, shiftBytes_kept h3, reverseInt_reverseInt, Int32.toInt32_toUInt32]
  · rw [if_neg h3, if_pos (by
      rw [gt_iff_lt, UInt32.lt_iff_toNat_lt, hl]
      exact .inl (show 4 < _ by omega))]

/-! ## The round trip -/

/-- `Asn1AddChildAsBits` adds a node with the bits of `x` as a BIT STRING, and `Asn1AsBits` reads
them from it. -/
def BitsRoundTrip (b : Asn1Builder) (tag : UInt32) (x : Int32) : Prop :=
  ∃ node, b.asn1AddChildAsBits tag x = (true, b.asn1AddChild (some node)) ∧ node.tag = tag ∧
    node.LengthsFor node.dataBytes.length ∧ BitStringOf x.toUInt32 node.dataBytes ∧
    node.asn1AsBits = x

theorem asn1AddChildAsBits_eq (b : Asn1Builder) (ht : isConstructedTag tag = false) (x : Int32) :
    b.asn1AddChildAsBits tag x = (true, b.asn1AddChild (some (bitsNode tag x))) := by
  rw [Asn1Builder.asn1AddChildAsBits, ht]
  rfl

theorem asn1AddChild_inj {b : Asn1Builder} {node node' : Asn1Node}
    (h : b.asn1AddChild (some node) = b.asn1AddChild (some node')) : node = node' := by
  have hc : b.children ++ [some node] = b.children ++ [some node'] :=
    congrArg Asn1Builder.children h
  simpa using append_cancel_left hc

theorem keptCount_le_three_iff (x : UInt32) : keptCount x 4 ≤ 3 ↔ x.toNat < 2 ^ 24 := by
  obtain ⟨_, hls, _⟩ := keptCount_spec x 4
  constructor
  · intro h3
    refine Nat.lt_pow_two_of_testBit _ fun i hi => ?_
    rw [testBit_kept, List.getD, getElem?_eq_none (by rw [length_take]; omega)]
    simp
  · intro hlt
    by_contra hf
    refine hls 3 (by omega) ?_
    apply UInt8.toNat_inj.1
    apply Nat.eq_of_testBit_eq
    intro j
    by_cases hj : j < 8
    · have hp : 2 ^ 24 ≤ 2 ^ (8 * 3 + (7 - j)) := Nat.pow_le_pow_right (by decide) (by omega)
      rw [testBit_reversedByte x (by decide) hj, Nat.testBit_lt_two_pow (hlt.trans_le hp)]
      simp
    · have hp : 2 ^ 8 ≤ 2 ^ j := Nat.pow_le_pow_right (by decide) (by omega)
      rw [Nat.testBit_lt_two_pow ((UInt8.toNat_lt _).trans_le hp)]
      simp

/-- **BIT STRINGs** come back, and are BIT STRINGs, exactly for the words from 1 to 2 ^ 24 - 1. -/
theorem bits_round_trip_iff (b : Asn1Builder) (tag : UInt32) (htag : isConstructedTag tag = false)
    (x : Int32) :
    BitsRoundTrip b tag x ↔ 0 < x.toUInt32.toNat ∧ x.toUInt32.toNat < 2 ^ 24 := by
  have had := asn1AddChildAsBits_eq b htag x
  have hr := asn1AsBits_bitsNode htag x
  have hln : (bitsNode tag x).LengthsFor (bitsNode tag x).dataBytes.length :=
    Asn1Node.make_lengths tag (by
      rw [newChildByte_length]
      have hle := (keptCount_spec x.toUInt32 4).1
      omega)
  constructor
  · rintro ⟨node, hnd, -, -, hs, hb⟩
    obtain rfl : bitsNode tag x = node := by
      rw [had] at hnd
      exact asn1AddChild_inj (Prod.mk.inj hnd).2
    rw [hr] at hb
    have hp : 0 < x.toUInt32.toNat := by
      refine Nat.pos_of_ne_zero fun h0 => ?_
      -- the count byte of the word 0 is 8
      have hx : x = 0 := by
        rw [← Int32.toInt32_toUInt32 x, show x.toUInt32 = 0 from UInt32.toNat_inj.1 h0]
        rfl
      have hc : (bitsNode tag x).dataBytes = [8] := by
        rw [hx]
        show newChildByte 0 = [8]
        decide
      rw [hc] at hs
      exact absurd hs.1 (by decide)
    refine ⟨hp, (keptCount_le_three_iff _).1 ?_⟩
    by_contra hf
    rw [if_neg hf] at hb
    rw [← hb] at hp
    cases hp
  · rintro ⟨hp, hlt⟩
    have hne : x.toUInt32 ≠ 0 := by
      intro h
      rw [h] at hp
      cases hp
    refine ⟨bitsNode tag x, had, rfl, hln, bitStringOf_newChildByte hne, ?_⟩
    rw [hr, if_pos ((keptCount_le_three_iff _).2 hlt)]

theorem bits_round_trip_five :
    isConstructedTag 0x81 = false ∧ BitsRoundTrip { tag := 0xBF28 } 0x81 5 := by
  have ht : isConstructedTag 0x81 = false := by
    decide
  exact ⟨ht, (bits_round_trip_iff { tag := 0xBF28 } 0x81 ht 5).2 (by decide)⟩

theorem bit_24_lost :
    isConstructedTag 0x81 = false ∧ ¬BitsRoundTrip { tag := 0xBF28 } 0x81 0x01000000 := by
  have ht : isConstructedTag 0x81 = false := by
    decide
  refine ⟨ht, ?_⟩
  rintro ⟨_, hn, -, -, -, hb⟩
  rw [asn1AddChildAsBits_eq _ ht] at hn
  rw [← asn1AddChild_inj (Prod.mk.inj hn).2, asn1AsBits_bitsNode ht] at hb
  cases hb

end TelephonyCore.Codec
