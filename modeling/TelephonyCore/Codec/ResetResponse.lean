import Mathlib.Data.Nat.Bitwise
import TelephonyCore.Codec.Asn1Utils
import TelephonyCore.Lib.Scan

/-!
# `ResetResponse`: the interface bytes of an answer to reset

`utils/codec/src/reset_response.cpp` looks in the answer to reset (ATR) of a card for the sign that
it is an eUICC. After TS and T0 come the interface bytes, level by level: TA, TB, TC and TD, each of
which may be missing. The high nibble of T0, or of the TD of the level before, says which are
present. The sign is a TB with bits 8 and 2 set in a level whose TD before it has the low nibble F.

`NextLevel` and `Announces` say this with no loop. The loop of `AnalysisInterfaceData` is a `Scan`,
so that it may read outside the bytes or run for ever.
-/

namespace TelephonyCore.Codec

open Lib Scan

/-! ## The functions -/

-- the masks are `uint32_t` in the source; all of them fit a byte, as does the byte they are put on
def BIT2_MASK : UInt8 := 0x02
def BIT5_MASK : UInt8 := 0x10
def BIT7_MASK : UInt8 := 0x40
def HIGH_BITS_MASK : UInt8 := 0xF0
def LOW_BITS_MASK : UInt8 := 0x0F
def MIN_ATR_DATA_LENGTH : Nat := 4
def MAX_INTERFACE_VALUE : UInt8 := 0x0F
def REVERSED_AGREEMENT : UInt8 := 0x3B
def POSITIVE_AGREEMENT : UInt8 := 0x3F

structure ResetResponse where
  isEuiccAvailable : Bool := false
  formatByte : UInt8 := 0

def checkOperationRes (chr tMask comparedVal : UInt8) : Bool := chr &&& tMask == comparedVal

namespace ResetResponse

def checkIsEuiccAvailable (r : ResetResponse) (charB charD : UInt8) : Bool × ResetResponse :=
  if charB ≠ 0 ∧ charD ≠ 0 ∧ checkOperationRes charD LOW_BITS_MASK MAX_INTERFACE_VALUE then
    if !checkOperationRes charB BIT8_MASK 0 ∧ !checkOperationRes charB BIT2_MASK 0 then
      (true, { r with isEuiccAvailable := true })
    else (false, r)
  else (false, r)

structure Locals where
  index : UInt32
  lastByteD : UInt8
  charB : UInt8 := 0
  charD : UInt8 := 0

/-- A TA or TC, of which only the presence matters; `none` where the data has ended. -/
def skipByte (lastByteD mask : UInt8) (atrDataLen index : UInt32) : Option UInt32 :=
  if !checkOperationRes lastByteD mask 0 then
    if index ≥ atrDataLen then none else some (index + 1)
  else some index

/-- The second half of a round, TC and TD. -/
def roundEnd (r : ResetResponse) (atrData : List UInt8) (atrDataLen : UInt32) (s : Locals) :
    Scan (Locals ⊕ (Bool × ResetResponse)) :=
  match skipByte s.lastByteD BIT7_MASK atrDataLen s.index with
  | none => pure (.inr (false, r))
  | some index =>
    if !checkOperationRes s.lastByteD BIT8_MASK 0 then
      if index ≥ atrDataLen then pure (.inr (false, r))
      else do
        let charD ← Scan.read atrData index.toNat 0
        if charD = 0 then pure (.inr (true, r))
        else pure (.inl { s with index := index + 1, charD := charD, lastByteD := charD })
    else pure (.inr (true, r))

def round (r : ResetResponse) (atrData : List UInt8) (atrDataLen : UInt32) (s : Locals) :
    Scan (Locals ⊕ (Bool × ResetResponse)) :=
  if checkOperationRes s.lastByteD HIGH_BITS_MASK 0 then pure (.inr (true, r))
  else
    match skipByte s.lastByteD BIT5_MASK atrDataLen s.index with
    | none => pure (.inr (false, r))
    | some index =>
      if !checkOperationRes s.lastByteD BIT6_MASK 0 then
        if index ≥ atrDataLen then pure (.inr (false, r))
        else do
          let charB ← Scan.read atrData index.toNat 0
          if s.charD ≠ 0 ∧ (r.checkIsEuiccAvailable charB s.charD).1 then
            pure (.inr (true, (r.checkIsEuiccAvailable charB s.charD).2))
          else roundEnd r atrData atrDataLen { s with index := index + 1, charB := charB }
      else roundEnd r atrData atrDataLen { s with index := index }

def analysisInterfaceData (r : ResetResponse) (atrData : List UInt8) (atrDataLen index : UInt32) :
    Scan (Bool × ResetResponse) :=
  Scan.loop (round r atrData atrDataLen) { index := index, lastByteD := r.formatByte }

def checkAtrDataParam (atr : StdString) : Bool :=
  if atr.isEmpty ∨ atr.length % BYTE_TO_HEX_LEN ≠ 0 then false
  else if atr.length < MIN_ATR_DATA_LENGTH then false
  else true

def analysisAtrData (r : ResetResponse) (atr : StdString) : Scan (Bool × ResetResponse) :=
  if !checkAtrDataParam atr then pure (false, r)
  else
    let atrData := hexStrToBytes atr
    let atrDataLen := UInt32.ofNat atrData.length
    if atrDataLen = 0 then pure (false, r)
    else do
      let convention ← Scan.read atrData 0 0
      if convention ≠ POSITIVE_AGREEMENT ∧ convention ≠ REVERSED_AGREEMENT then pure (false, r)
      else if 1 ≥ atrDataLen then pure (false, r)
      else do
        let formatByte ← Scan.read atrData 1 0
        let r := { r with formatByte := formatByte }
        if 2 ≥ atrDataLen then pure (false, r)
        else analysisInterfaceData r atrData atrDataLen 2

end ResetResponse

/-! ## The levels of interface bytes -/

/-- A level: the T0 or TD that says which bytes it has, and where they start. -/
structure Level where
  indicator : UInt8
  start : Nat

namespace Level

-- bits 5 to 8 of the indicator; `testBit` counts from 0
def hasTA (l : Level) : Bool := l.indicator.toNat.testBit 4
def hasTB (l : Level) : Bool := l.indicator.toNat.testBit 5
def hasTC (l : Level) : Bool := l.indicator.toNat.testBit 6
def hasTD (l : Level) : Bool := l.indicator.toNat.testBit 7

def posB (l : Level) : Nat := l.start + l.hasTA.toNat

def posC (l : Level) : Nat := l.posB + l.hasTB.toNat

def posD (l : Level) : Nat := l.posC + l.hasTC.toNat

end Level

/-- The level that the TD of a level opens. -/
def NextLevel (data : List UInt8) (l next : Level) : Prop :=
  l.hasTD = true ∧ data[l.posD]? = some next.indicator ∧ next.start = l.posD + 1

/-- The level has a TB with bits 8 and 2 set, and the low nibble of its indicator is F. -/
def Announces (data : List UInt8) (l : Level) : Prop :=
  l.indicator.toNat % 16 = 15 ∧ l.hasTB = true ∧
    ∃ tb, data[l.posB]? = some tb ∧ tb.toNat.testBit 7 = true ∧ tb.toNat.testBit 1 = true

/-- Some level after `l` announces an eUICC. Its indicator is a TD, as it is not the first. -/
def AnnouncedAfter (data : List UInt8) (l : Level) : Prop :=
  ∃ next, Relation.TransGen (NextLevel data) l next ∧ Announces data next

variable {data : List UInt8} {l next : Level} {i : Nat} {index : UInt32} {s : Locals}

theorem announcedAfter_iff :
    AnnouncedAfter data l ↔
      ∃ next, NextLevel data l next ∧ (Announces data next ∨ AnnouncedAfter data next) := by
  constructor
  · rintro ⟨last, hw, hl⟩
    obtain ⟨next, hn, hrs⟩ := Relation.TransGen.head'_iff.1 hw
    rcases Relation.reflTransGen_iff_eq_or_transGen.1 hrs with rfl | hrs
    · exact ⟨last, hn, .inl hl⟩
    · exact ⟨next, hn, .inr ⟨last, hrs, hl⟩⟩
  · rintro ⟨next, hn, hl | ⟨last, hrs, hl⟩⟩
    · exact ⟨next, .single hn, hl⟩
    · exact ⟨last, .head hn hrs, hl⟩

theorem NextLevel.unique {next' : Level} (h : NextLevel data l next) (h' : NextLevel data l next') :
    next' = next := by
  obtain ⟨-, hb, _⟩ := h
  obtain ⟨-, hb', _⟩ := h'
  cases next
  cases next'
  simp_all

theorem NextLevel.announcedAfter_iff (h : NextLevel data l next) :
    AnnouncedAfter data l ↔ Announces data next ∨ AnnouncedAfter data next := by
  rw [Codec.announcedAfter_iff]
  constructor
  · rintro ⟨_, hn', hfd⟩
    rwa [h.unique hn'] at hfd
  · exact fun hfd => ⟨next, h, hfd⟩

theorem AnnouncedAfter.hasTD (h : AnnouncedAfter data l) : l.hasTD ∧ l.posD < data.length := by
  obtain ⟨_, ⟨hTD, hb, -⟩, -⟩ := announcedAfter_iff.1 h
  exact ⟨hTD, (List.getElem?_eq_some_iff.1 hb).1⟩

theorem Announces.posB_lt (h : Announces data l) : l.posB < data.length := by
  obtain ⟨-, -, _, hb, -⟩ := h
  exact (List.getElem?_eq_some_iff.1 hb).1

theorem Level.posB_le_posD (l : Level) : l.posB ≤ l.posD := by
  rw [Level.posD, Level.posC]
  omega

theorem Level.start_le_posD (l : Level) : l.start ≤ l.posD :=
  Nat.le_trans (Nat.le_add_right _ _) l.posB_le_posD

/-! ## Bits and positions -/

theorem checkOperationRes_bit (chr : UInt8) {mask : UInt8} (hm : mask.toNat = 2 ^ i) :
    checkOperationRes chr mask 0 = !chr.toNat.testBit i := by
  have hand : (chr &&& mask).toNat = (chr.toNat.testBit i).toNat * 2 ^ i := by
    rw [UInt8.toNat_and, hm, Nat.and_two_pow]
  unfold checkOperationRes
  rw [Bool.eq_iff_iff, beq_iff_eq, ← UInt8.toNat_inj, hand]
  cases chr.toNat.testBit i <;> simp

theorem checkOperationRes_low (chr : UInt8) :
    checkOperationRes chr LOW_BITS_MASK MAX_INTERFACE_VALUE ↔ chr.toNat % 16 = 15 := by
  have hand : (chr &&& LOW_BITS_MASK).toNat = chr.toNat % 16 := by
    exact Nat.and_two_pow_sub_one_eq_mod chr.toNat 4
  unfold checkOperationRes
  rw [beq_iff_eq, ← UInt8.toNat_inj, hand]
  rfl

theorem checkOperationRes_high {chr : UInt8} (h : checkOperationRes chr HIGH_BITS_MASK 0)
    (hi : HIGH_BITS_MASK.toNat.testBit i) : chr.toNat.testBit i = false := by
  have hand : chr.toNat &&& HIGH_BITS_MASK.toNat = 0 := by
    rw [← UInt8.toNat_and, beq_iff_eq.1 h]
    rfl
  have hb : (chr.toNat &&& HIGH_BITS_MASK.toNat).testBit i = false := by
    rw [hand, Nat.zero_testBit]
  rwa [Nat.testBit_and, hi, Bool.and_true] at hb

theorem Level.not_checkOperationRes_B (l : Level) :
    (!checkOperationRes l.indicator BIT6_MASK 0) = l.hasTB := by
  rw [checkOperationRes_bit l.indicator (i := 5) rfl, Bool.not_not]
  rfl

theorem Level.not_checkOperationRes_D (l : Level) :
    (!checkOperationRes l.indicator BIT8_MASK 0) = l.hasTD := by
  rw [checkOperationRes_bit l.indicator (i := 7) rfl, Bool.not_not]
  rfl

namespace ResetResponse

theorem skipByte_cases (y mask : UInt8) (hm : mask.toNat = 2 ^ i) {len : UInt32}
    (hle : index.toNat ≤ len.toNat) :
    (skipByte y mask len index = none ∧ len.toNat < index.toNat + (y.toNat.testBit i).toNat) ∨
      ∃ j, skipByte y mask len index = some j ∧ j.toNat = index.toNat + (y.toNat.testBit i).toNat ∧
        j.toNat ≤ len.toNat := by
  unfold skipByte
  rw [checkOperationRes_bit y hm, Bool.not_not]
  cases hb : y.toNat.testBit i with
  | false => exact .inr ⟨index, rfl, rfl, hle⟩
  | true =>
    by_cases he : index ≥ len
    · have he' := UInt32.le_iff_toNat_le.1 he
      exact .inl ⟨by simp [he], by simp; omega⟩
    · have hlt := UInt32.lt_iff_toNat_lt.1 (UInt32.not_le.1 he)
      have hn := toNat_succ_of_lt hlt
      exact .inr ⟨index + 1, by simp [he], hn, by omega⟩

theorem checkIsEuiccAvailable_snd (r : ResetResponse) (charB charD : UInt8) :
    (r.checkIsEuiccAvailable charB charD).2.isEuiccAvailable
      = (r.isEuiccAvailable || (r.checkIsEuiccAvailable charB charD).1) := by
  unfold checkIsEuiccAvailable
  split
  · split <;> simp
  · simp

/-- The tests for `'\0'` add nothing: the bits asked for are not set there. -/
theorem checkIsEuiccAvailable_iff (r : ResetResponse) (charB charD : UInt8) :
    (r.checkIsEuiccAvailable charB charD).1 ↔
      charD.toNat % 16 = 15 ∧ charB.toNat.testBit 7 ∧ charB.toNat.testBit 1 := by
  have h8 : checkOperationRes charB BIT8_MASK 0 = !charB.toNat.testBit 7 :=
    checkOperationRes_bit charB rfl
  have h2 : checkOperationRes charB BIT2_MASK 0 = !charB.toNat.testBit 1 :=
    checkOperationRes_bit charB rfl
  unfold checkIsEuiccAvailable
  simp only [h2, checkOperationRes_low]
  by_cases hz : charB ≠ 0 ∧ charD ≠ 0
  · by_cases hl : charD.toNat % 16 = 15
    · rw [if_pos ⟨hz.1, hz.2, hl⟩]
      split <;> simp_all
    · rw [if_neg (fun h => hl h.2.2)]
      simp [hl]
  · rw [if_neg (fun h => hz ⟨h.1, h.2.1⟩)]
    refine iff_of_false Bool.false_ne_true ?_
    rintro ⟨hl, h7, -⟩
    refine hz ⟨?_, ?_⟩
    · rintro rfl
      cases h7
    · rintro rfl
      cases hl

/-! ## One round -/

def Locals.level (s : Locals) : Level := ⟨s.lastByteD, s.index.toNat⟩

/-- `found` is what the whole walk is to find. At the first level, where `charD` is still 0,
nothing is announced yet. -/
structure Inv (data : List UInt8) (found : Prop) (s : Locals) : Prop where
  le : s.index.toNat ≤ data.length
  last : s.charD ≠ 0 → s.charD = s.lastByteD
  found_iff : found ↔ (s.charD ≠ 0 ∧ Announces data s.level) ∨ AnnouncedAfter data s.level

/-- A round at a level that starts at `start` ends in a later level, or with the answer. -/
def RoundResult (data : List UInt8) (found : Prop) (start : Nat) :
    Locals ⊕ (Bool × ResetResponse) → Prop
  | .inl s => Inv data found s ∧ start < s.index.toNat
  | .inr (_, r) => r.isEuiccAvailable = true ↔ found

section Round

variable {data : List UInt8} {len : UInt32} (hlen : len.toNat = data.length) {found : Prop}
  {r : ResetResponse} (hr : r.isEuiccAvailable = false)

include hr in
theorem leave {start : Nat} (result : Bool) (h : ¬ found) :
    Scan.Ensures data.length (pure (.inr (result, r))) (RoundResult data found start) := by
  apply ensures_pure
  show r.isEuiccAvailable ↔ found
  rw [hr]
  exact iff_of_false Bool.false_ne_true h

include hr in
theorem opened (hn : NextLevel data l s.level) (hfd : found ↔ AnnouncedAfter data l)
    (hle : s.index.toNat ≤ data.length) (hls : s.charD = s.lastByteD) :
    Scan.Ensures data.length (if s.charD = 0 then pure (.inr (true, r)) else pure (.inl s))
      (RoundResult data found l.start) := by
  rw [hn.announcedAfter_iff] at hfd
  by_cases hz : s.charD = 0
  · rw [if_pos hz]
    have hin : s.level.indicator = 0 := hls.symm.trans hz
    apply leave hr true
    rw [hfd]
    rintro (han | haf)
    · have hlw := han.1
      rw [hin] at hlw
      cases hlw
    · have hTD := haf.hasTD.1
      rw [Level.hasTD, hin] at hTD
      cases hTD
  · rw [if_neg hz]
    apply ensures_pure
    refine ⟨⟨hle, fun _ => hls, ?_⟩, ?_⟩
    · rw [hfd]
      simp [hz]
    · have hst : s.index.toNat = l.posD + 1 := hn.2.2
      have hle := l.start_le_posD
      omega

include hlen hr

theorem roundEnd_ensures (hin : s.lastByteD = l.indicator) (hid : s.index.toNat = l.posC)
    (hle : l.posC ≤ data.length) (hfd : found ↔ AnnouncedAfter data l) :
    Scan.Ensures data.length (roundEnd r data len s) (RoundResult data found l.start) := by
  have hnn : data.length ≤ l.posD → ¬ found := by
    intro he h
    have hlt := (hfd.1 h).hasTD.2
    omega
  have hid' : s.index.toNat ≤ len.toNat := by omega
  have hp : l.posD = l.posC + (l.indicator.toNat.testBit 6).toNat := rfl
  unfold roundEnd
  rw [hin]
  rcases skipByte_cases l.indicator BIT7_MASK (i := 6) rfl hid' with
    ⟨hs, he⟩ | ⟨j, hs, hj, hjl⟩
  · rw [hs]
    exact leave hr false (hnn (by omega))
  · rw [hs]
    show Scan.Ensures _ (if _ then _ else _) _
    rw [l.not_checkOperationRes_D]
    by_cases hD : l.hasTD
    · rw [if_pos hD]
      by_cases he : j ≥ len
      · rw [if_pos he]
        have he' := UInt32.le_iff_toNat_le.1 he
        exact leave hr false (hnn (by omega))
      · rw [if_neg he]
        have hlt' := UInt32.lt_iff_toNat_lt.1 (UInt32.not_le.1 he)
        have hnx := toNat_succ_of_lt hlt'
        have hlt : j.toNat < data.length := hlen ▸ hlt'
        have hg : data[j.toNat]? = some data[j.toNat] := List.getElem?_eq_getElem hlt
        refine .bind (ensures_read (Q := (· = data[j.toNat])) hlt hg rfl) ?_
        rintro _ rfl
        have hjD : j.toNat = l.posD := by omega
        exact opened hr (s := { s with index := j + 1, charD := _, lastByteD := _ })
          ⟨hD, hjD ▸ hg, by rw [← hjD]; exact hnx⟩ hfd (by show (j + 1).toNat ≤ _; omega) rfl
    · rw [if_neg hD]
      exact leave hr true (fun h => hD (hfd.1 h).hasTD.1)

theorem readB_ensures (hs : Inv data found s) (hB : s.level.hasTB) {j : UInt32}
    (hj : j.toNat = s.level.posB) (hlt : j < len) :
    Scan.Ensures data.length (do
        let charB ← .read data j.toNat 0
        if s.charD ≠ 0 ∧ (r.checkIsEuiccAvailable charB s.charD).1 then
          pure (.inr (true, (r.checkIsEuiccAvailable charB s.charD).2))
        else roundEnd r data len { s with index := j + 1, charB := charB })
      (RoundResult data found s.index.toNat) := by
  have hlt' : j.toNat < data.length := hlen ▸ UInt32.lt_iff_toNat_lt.1 hlt
  have hg : data[j.toNat]? = some data[j.toNat] := List.getElem?_eq_getElem hlt'
  have hn := toNat_succ_of_lt (UInt32.lt_iff_toNat_lt.1 hlt)
  have hp : s.level.posC = s.level.posB + 1 := by rw [Level.posC, hB]; rfl
  refine .bind (ensures_read (Q := (· = data[j.toNat])) hlt' hg rfl) ?_
  rintro charB rfl
  -- the sign at this level is what the test looks for
  have han : s.charD ≠ 0 → (Announces data s.level ↔
      (r.checkIsEuiccAvailable data[j.toNat] s.charD).1) := by
    intro hD
    have hin : s.level.indicator = s.charD := (hs.last hD).symm
    rw [checkIsEuiccAvailable_iff, Announces, hin, ← hj, hg]
    simp [hB]
  by_cases hc : s.charD ≠ 0 ∧ (r.checkIsEuiccAvailable data[j.toNat] s.charD).1
  · rw [if_pos hc]
    apply ensures_pure
    show _ ↔ found
    rw [checkIsEuiccAvailable_snd, hc.2, Bool.or_true]
    exact iff_of_true rfl (hs.found_iff.2 (.inl ⟨hc.1, (han hc.1).2 hc.2⟩))
  · rw [if_neg hc]
    refine roundEnd_ensures hlen hr (l := s.level) ?_ ?_ ?_ ?_
    · rfl
    · show (j + 1).toNat = s.level.posC
      omega
    · omega
    · rw [hs.found_iff]
      refine or_iff_right ?_
      rintro ⟨hD, h⟩
      exact hc ⟨hD, (han hD).1 h⟩

theorem round_ensures (hs : Inv data found s) :
    Scan.Ensures data.length (round r data len s) (RoundResult data found s.index.toNat) := by
  have hn : data.length ≤ s.level.posB → ¬ found := by
    intro he h
    rcases hs.found_iff.1 h with ⟨-, h⟩ | h
    · have hlt := h.posB_lt
      omega
    · have hlt := h.hasTD.2
      have hle := s.level.posB_le_posD
      omega
  have hid : s.index.toNat ≤ len.toNat := hlen ▸ hs.le
  have hp : s.level.posB = s.index.toNat + (s.lastByteD.toNat.testBit 4).toNat := rfl
  unfold round
  by_cases hh : checkOperationRes s.lastByteD HIGH_BITS_MASK 0
  · -- the indicator promises no bytes: neither a TB to look at nor a TD to go on with
    rw [if_pos hh]
    apply leave hr true
    intro h
    rcases hs.found_iff.1 h with ⟨-, -, hTB, -⟩ | h
    · exact Bool.false_ne_true ((checkOperationRes_high hh rfl).symm.trans hTB)
    · exact Bool.false_ne_true ((checkOperationRes_high hh rfl).symm.trans h.hasTD.1)
  rw [if_neg hh]
  rcases skipByte_cases s.lastByteD BIT5_MASK (i := 4) rfl hid with
    ⟨hsk, he⟩ | ⟨j, hsk, hj, hjl⟩
  · -- the data ends before TA, so there is no TB either
    rw [hsk]
    exact leave hr false (hn (by omega))
  rw [hsk]
  show Scan.Ensures _ (if _ then _ else _) _
  rw [show (!checkOperationRes s.lastByteD BIT6_MASK 0) = s.level.hasTB from
    s.level.not_checkOperationRes_B]
  by_cases hB : s.level.hasTB
  · rw [if_pos hB]
    by_cases he : j ≥ len
    · rw [if_pos he]
      have he' := UInt32.le_iff_toNat_le.1 he
      exact leave hr false (hn (by omega))
    · rw [if_neg he]
      exact readB_ensures hlen hr hs hB (hj.trans hp.symm) (UInt32.not_le.1 he)
  · -- without a TB this level announces nothing, whatever its indicator is
    rw [if_neg hB]
    refine roundEnd_ensures hlen hr (l := s.level) ?_ ?_ ?_ ?_
    · rfl
    · show j.toNat = s.level.posC
      simp [Level.posC, hB, hj, hp]
    · simp [Level.posC, hB]
      omega
    · rw [hs.found_iff]
      simp [Announces, hB]

theorem analysisInterfaceData_ensures (hid : index.toNat ≤ data.length) :
    Scan.Ensures data.length (analysisInterfaceData r data len index) fun result =>
      result.2.isEuiccAvailable ↔ AnnouncedAfter data ⟨r.formatByte, index.toNat⟩ := by
  -- each round starts behind the TD that it was opened by, so the rest gets shorter
  refine ensures_loop (Inv data (AnnouncedAfter data ⟨r.formatByte, index.toNat⟩))
    (fun s => data.length - s.index.toNat) ?_
    ⟨hid, fun h => absurd rfl h, by simp [Locals.level]⟩
  intro s hs
  apply (round_ensures hlen hr hs).mono
  intro next hn
  cases next with
  | inl s' =>
    obtain ⟨hs', _⟩ := hn
    have hle := hs'.le
    exact ⟨hs', by omega⟩
  | inr result => exact hn

end Round

/-! ## The whole answer to reset -/

theorem checkAtrDataParam_of_two_le (atr : StdString) (h : 2 ≤ (hexStrToBytes atr).length) :
    checkAtrDataParam atr := by
  have hl := (length_of_hexStrToBytes (s := atr) (List.length_pos_iff.1 (by omega))).1
  have hne : atr ≠ [] := List.length_pos_iff.1 (by omega)
  have hev : atr.length % 2 = 0 := by omega
  have hf : ¬ atr.length < 4 := by omega
  simp [checkAtrDataParam, BYTE_TO_HEX_LEN, MIN_ATR_DATA_LENGTH, hne, hev, hf]

theorem atrDataLen_toNat (atr : StdString) (h : hexStrToBytes atr ≠ []) :
    (UInt32.ofNat (hexStrToBytes atr).length).toNat = (hexStrToBytes atr).length := by
  have hm := (length_of_hexStrToBytes h).2
  apply UInt32.toNat_ofNat_of_lt'
  rw [MAX_BPP_LENGTH] at hm
  rw [UInt32.size]
  omega

/-- **The walk over the interface bytes.** Whatever follows TS and T0, a fresh object reads inside
the bytes, comes to an end, and says that there is an eUICC exactly if a level after the first
announces one. -/
theorem atr_walk (atr : StdString) (ts t0 : UInt8) (rest : List UInt8)
    (hbytes : hexStrToBytes atr = ts :: t0 :: rest) (hts : ts = 0x3B ∨ ts = 0x3F) :
    (analysisAtrData {} atr).Ensures (ts :: t0 :: rest).length fun result =>
      result.2.isEuiccAvailable = true ↔ AnnouncedAfter (ts :: t0 :: rest) ⟨t0, 2⟩ := by
  have htw : 2 ≤ (ts :: t0 :: rest).length := by simp
  have hlen := atrDataLen_toNat atr (by simp [hbytes])
  have hpr := checkAtrDataParam_of_two_le atr (by rw [hbytes]; exact htw)
  rw [hbytes] at hlen
  have hc : ¬ (ts ≠ POSITIVE_AGREEMENT ∧ ts ≠ REVERSED_AGREEMENT) := by
    rintro ⟨hps, hrv⟩
    exact hts.elim hrv hps
  have hz : UInt32.ofNat (ts :: t0 :: rest).length ≠ 0 := by
    intro h
    rw [h] at hlen
    exact absurd hlen.symm (Nat.ne_of_gt (Nat.lt_of_lt_of_le (by decide) htw))
  have ho : ¬ 1 ≥ UInt32.ofNat (ts :: t0 :: rest).length := by
    rw [ge_iff_le, UInt32.le_iff_toNat_le, hlen]
    exact Nat.not_le.2 htw
  unfold analysisAtrData
  rw [hpr, hbytes]
  simp only [if_neg hz, if_neg ho]
  refine .bind (ensures_read (Q := (· = ts)) (by omega) rfl rfl) ?_
  rintro ts rfl
  rw [if_neg hc]
  refine .bind (ensures_read (Q := (· = t0)) (by omega) rfl rfl) ?_
  rintro t0 rfl
  by_cases hen : 2 ≥ UInt32.ofNat (ts :: t0 :: rest).length
  · -- no interface byte at all, and none to be found
    rw [if_pos hen]
    apply ensures_pure
    refine iff_of_false Bool.false_ne_true ?_
    intro h
    have hlt := h.hasTD.2
    have hle := Level.start_le_posD ⟨t0, 2⟩
    have hen' := UInt32.le_iff_toNat_le.1 hen
    rw [hlen] at hen'
    exact absurd (Nat.lt_of_le_of_lt hle hlt) (Nat.not_lt.2 hen')
  · rw [if_neg hen]
    exact analysisInterfaceData_ensures hlen rfl htw

/-- The start of the answer of an eUICC: TA1 and TD1, then TD2 alone, then TA3 and TB3. -/
def sampleAtr : List UInt8 := [0x3B, 0x9F, 0x96, 0x80, 0x3F, 0xC7, 0x82, 0x80, 0x31]

theorem sampleAtr_announced : AnnouncedAfter sampleAtr ⟨0x9F, 2⟩ := by
  refine ⟨⟨0x3F, 5⟩, .tail (b := ⟨0x80, 4⟩) (.single ?_) ?_, ?_⟩
  · exact ⟨rfl, rfl, rfl⟩
  · exact ⟨rfl, rfl, rfl⟩
  · exact ⟨rfl, rfl, 0x82, rfl, rfl, rfl⟩

theorem atr_walk_euicc :
    (analysisAtrData {} (bytesToHexStr sampleAtr)).Ensures sampleAtr.length fun result =>
      result.2.isEuiccAvailable = true :=
  (atr_walk (bytesToHexStr sampleAtr) 0x3B 0x9F (sampleAtr.drop 2)
    (hexStrToBytes_bytesToHexStr (by decide)) (.inl rfl)).mono
    fun _ h => h.2 sampleAtr_announced

end ResetResponse

end TelephonyCore.Codec
