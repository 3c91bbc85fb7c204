import TelephonyCore.Lib.Fuel
import TelephonyCore.Sim.TagService

/-!
# Service provider display information

EF SPDI is an element A3 with a list of PLMNs in an element 80 inside, and some cards leave out the
A3. `ParseSpdi` goes through the elements of the file. At an A3 it starts over inside, at an 80 it
keeps the value, and what it has kept in the end is taken in groups of three bytes.

The bytes it keeps (`spdiRead`) are the value of the last 80 with three exceptions: at an A3 the
code keeps the value of the A3 too, and these bytes stay if there is no 80 inside; it starts over at
an inner A3 too; and an 80 or A3 at the end whose length is cut off is taken for one without a
value.
-/

namespace TelephonyCore.Sim

open Codec (StdString ascii hexVal hexDigit streamHex strtolDigits)
open Lib Fuelled List TagService
open TagService (IsTag CompleteTlv TruncatedLength)

/-! ## The functions -/

def TAG_SPDI : Int := 0xA3
def TAG_SPDI_PLMN_LIST : Int := 0x80
def WORD_LEN : Nat := 2
def BCD_PLMN_MCC2 : Nat := 0
def BCD_PLMN_MCC1 : Nat := 1
def BCD_PLMN_MNC3 : Nat := 2
def BCD_PLMN_MCC3 : Nat := 3
def BCD_PLMN_MNC2 : Nat := 4
def BCD_PLMN_MNC1 : Nat := 5
def MCCMNC_LEN : Nat := 6

def hexVecToHexStr (arr : List UInt8) : StdString :=
  arr.flatMap fun b => streamHex WORD_LEN b.toNat

def bcdPlmnConvertToString (data : StdString) (offset : Nat) : StdString :=
  -- 70 is the character F
  if offset + MCCMNC_LEN ≤ data.length ∧ data.getD offset 0 ≠ 70 then
    [data.getD (offset + BCD_PLMN_MCC1) 0, data.getD (offset + BCD_PLMN_MCC2) 0,
      data.getD (offset + BCD_PLMN_MCC3) 0, data.getD (offset + BCD_PLMN_MNC1) 0,
      data.getD (offset + BCD_PLMN_MNC2) 0] ++
    if data.getD (offset + BCD_PLMN_MNC3) 0 ≠ 70 then [data.getD (offset + BCD_PLMN_MNC3) 0] else []
  else []

/-- A turn of the loop of `ParseSpdi`, with `recTlv` and `datav`; the result is `none` where
`GetValue` throws. -/
def spdiBody (state : TagService × List UInt8) :
    Fuelled ((TagService × List UInt8) ⊕ Option (List UInt8)) :=
  let (recTlv, datav) := state
  let (found, recTlv) := recTlv.next
  if !found then pure (.inr (some datav))
  else
    let tag := recTlv.getTagCode
    -- Skip SPDI tag, if existant
    if tag = TAG_SPDI then
      match recTlv.getValue with
      | none => pure (.inr none)
      | some datav => pure (.inl ({ data := datav }, datav))
    else if tag = TAG_SPDI_PLMN_LIST then
      match recTlv.getValue with
      | none => pure (.inr none)
      | some datav => pure (.inl (recTlv, datav))
    else pure (.inl (recTlv, datav))

def insertPlmns (datav : List UInt8) : Finset StdString :=
  if datav = [] then ∅
  else
    let plmnRawData := hexVecToHexStr datav
    if plmnRawData.length < 6 then ∅
    else
      (List.range (plmnRawData.length / 6)).foldl (fun spdiPlmns k =>
        let plmnCode := bcdPlmnConvertToString plmnRawData (6 * k)
        if plmnCode ≠ [] then insert plmnCode spdiPlmns else spdiPlmns) ∅

/-- What is left in `spdiPlmns_`, or `none` if it throws. -/
def parseSpdi (data : StdString) : Fuelled (Option (Finset StdString)) := do
  if data = [] then pure (some ∅)
  else
    let datav ← loop spdiBody (TagService.ofString data, [])
    pure (datav.map insertPlmns)

/-! ## Elements -/

structure Element where
  tag : UInt8
  value : List UInt8
deriving DecidableEq

def valueOf (tag len : UInt8) (rest : List UInt8) : Option (Element × List UInt8) :=
  if len.toNat ≤ rest.length then some (⟨tag, rest.take len.toNat⟩, rest.drop len.toNat) else none

def firstElement : List UInt8 → Option (Element × List UInt8)
  | tag :: len :: rest =>
    if ¬IsTag tag then none
    else if len < 0x80 then valueOf tag len rest
    else if len = 0x81 then
      match rest with
      | [] => none
      | len :: rest => valueOf tag len rest
    else none
  | _ => none

variable {value after : List UInt8} {tag : UInt8} {bytes : List UInt8} {s : TagService}

theorem valueOf_eq_some_iff {tag' len : UInt8} {rest : List UInt8} :
    valueOf tag' len rest = some (⟨tag, value⟩, after) ↔
      tag' = tag ∧ value.length = len.toNat ∧ rest = value ++ after := by
  rw [valueOf]
  constructor
  · intro h
    split at h
    · rename_i hle
      obtain ⟨⟨rfl, rfl⟩, rfl⟩ := h
      exact ⟨rfl, length_take_of_le hle, (take_append_drop _ _).symm⟩
    · cases h
  · rintro ⟨rfl, hln, rfl⟩
    rw [if_pos (by rw [length_append]; omega), ← hln, take_left, drop_left]

theorem completeTlv_of_firstElement (h : firstElement bytes = some (⟨tag, value⟩, after)) :
    CompleteTlv bytes tag value after := by
  rw [firstElement.eq_def] at h
  split at h
  · rename_i tag' len rest
    split at h
    · cases h
    rename_i ht
    split at h
    · obtain ⟨rfl, hle, rfl⟩ := valueOf_eq_some_iff.1 h
      exact .short (not_not.1 ht) ‹_› hle rfl
    split at h
    · rename_i hln
      subst hln
      cases rest with
      | nil => cases h
      | cons len rest =>
        obtain ⟨rfl, hle, rfl⟩ := valueOf_eq_some_iff.1 h
        exact .long (not_not.1 ht) hle rfl
    · cases h
  · cases h

theorem firstElement_of_completeTlv (h : CompleteTlv bytes tag value after) :
    firstElement bytes = some (⟨tag, value⟩, after) := by
  cases h with
  | short ht hle hv hbs =>
    simp only [hbs, firstElement, ht, hle]
    exact valueOf_eq_some_iff.2 ⟨rfl, hv, rfl⟩
  | long ht hv hbs =>
    have hln : ¬(0x81 : UInt8) < 0x80 := by decide
    simp only [hbs, firstElement, ht]
    exact valueOf_eq_some_iff.2 ⟨rfl, hv, rfl⟩

def splitElements (bytes : List UInt8) : List Element × List UInt8 :=
  match h : firstElement bytes with
  | none => ([], bytes)
  | some (element, after) =>
    have : after.length < bytes.length := by
      have hle := (completeTlv_of_firstElement h).length.2.1
      omega
    (element :: (splitElements after).1, (splitElements after).2)
termination_by bytes.length

def elements (bytes : List UInt8) : List Element := (splitElements bytes).1
def remainder (bytes : List UInt8) : List UInt8 := (splitElements bytes).2

section Elements

variable {bytes value after : List UInt8} {tag : UInt8}

theorem elements_of_complete (h : CompleteTlv bytes tag value after) :
    elements bytes = ⟨tag, value⟩ :: elements after ∧ remainder bytes = remainder after := by
  have hf := firstElement_of_completeTlv h
  rw [elements, remainder, splitElements]
  split
  · rename_i hn
    rw [hn] at hf
    cases hf
  · rename_i element after' hs
    cases hs.symm.trans hf
    exact ⟨rfl, rfl⟩

theorem elements_of_none (h : ¬∃ tag value after, CompleteTlv bytes tag value after) :
    elements bytes = [] ∧ remainder bytes = bytes := by
  rw [elements, remainder, splitElements]
  split
  · exact ⟨rfl, rfl⟩
  · rename_i element after' hs
    exact absurd ⟨_, _, _, completeTlv_of_firstElement hs⟩ h

end Elements

/-- The value of the first A3. -/
def firstSpdi (elements : List Element) : Option (List UInt8) :=
  (elements.find? (·.tag = 0xA3)).map (·.value)

/-- The value of the last 80. -/
def lastPlmnList (elements : List Element) : Option (List UInt8) :=
  ((elements.filter (·.tag = 0x80)).getLast?).map (·.value)

theorem firstSpdi_cons (e : Element) (es : List Element) :
    firstSpdi (e :: es) = if e.tag = 0xA3 then some e.value else firstSpdi es := by
  rw [firstSpdi, find?_cons]
  by_cases h : e.tag = 0xA3
  · rw [if_pos h, decide_eq_true h]
    rfl
  · rw [if_neg h, decide_eq_false h]
    rfl

theorem lastPlmnList_cons (e : Element) (es : List Element) :
    lastPlmnList (e :: es) =
      (lastPlmnList es).or (if e.tag = 0x80 then some e.value else none) := by
  rw [lastPlmnList, lastPlmnList, filter_cons]
  by_cases h : e.tag = 0x80
  · rw [if_pos h, decide_eq_true h, if_pos rfl, getLast?_cons]
    cases (es.filter (·.tag = 0x80)).getLast? <;> rfl
  · rw [if_neg h, decide_eq_false h, if_neg Bool.false_ne_true, Option.or_none]

theorem length_lt_of_firstSpdi : ∀ {bytes value : List UInt8},
    firstSpdi (elements bytes) = some value → value.length < bytes.length := by
  intro bytes
  induction hn : bytes.length using Nat.strongRecOn generalizing bytes with
  | _ n ih =>
    intro value h
    by_cases hfd : ∃ tag value after, CompleteTlv bytes tag value after
    · obtain ⟨tag, value', after, hc⟩ := hfd
      have hl := hc.length.2.1
      rw [(elements_of_complete hc).1, firstSpdi_cons] at h
      split at h
      · have hv : value' = value := Option.some.inj h
        rw [← hv]
        omega
      · have := ih after.length (by omega) rfl h
        omega
    · rw [(elements_of_none hfd).1] at h
      cases h

/-- An 80 or A3 at the end whose length is cut off. -/
def CutOff (bytes : List UInt8) : Prop :=
  remainder bytes = [0x80, 0x81] ∨ remainder bytes = [0xA3, 0x81]

instance (bytes : List UInt8) : Decidable (CutOff bytes) := inferInstanceAs (Decidable (_ ∨ _))

/-- The bytes that `ParseSpdi` keeps, with those it has so far. -/
def spdiRead (bytes datav : List UInt8) : List UInt8 :=
  match h : firstSpdi (elements bytes) with
  | some value =>
    have : value.length < bytes.length := length_lt_of_firstSpdi h
    spdiRead value value
  | none => if CutOff bytes then [] else (lastPlmnList (elements bytes)).getD datav
termination_by bytes.length

variable {bytes value : List UInt8}

theorem spdiRead_of_some (h : firstSpdi (elements bytes) = some value) (datav : List UInt8) :
    spdiRead bytes datav = spdiRead value value := by
  rw [spdiRead]
  split
  · rename_i value' h'
    cases h'.symm.trans h
    rfl
  · rename_i h'
    rw [h'] at h
    cases h

theorem spdiRead_of_none (h : firstSpdi (elements bytes) = none) (datav : List UInt8) :
    spdiRead bytes datav =
      if CutOff bytes then [] else (lastPlmnList (elements bytes)).getD datav := by
  rw [spdiRead]
  split
  · rename_i value' h'
    rw [h'] at h
    cases h
  · rfl

/-! ## The bytes that are kept -/

theorem spdiRead_of_complete {after : List UInt8} (h : CompleteTlv bytes tag value after)
    (datav : List UInt8) :
    spdiRead bytes datav =
      if tag = 0xA3 then spdiRead value value
      else spdiRead after (if tag = 0x80 then value else datav) := by
  obtain ⟨he, hr⟩ := elements_of_complete h
  have hs : firstSpdi (elements bytes) =
      if tag = 0xA3 then some value else firstSpdi (elements after) := by
    rw [he, firstSpdi_cons]
  by_cases ht : tag = 0xA3
  · rw [if_pos ht] at hs ⊢
    exact spdiRead_of_some hs datav
  rw [if_neg ht] at hs ⊢
  cases haf : firstSpdi (elements after) with
  | some value' =>
    rw [spdiRead_of_some (hs.trans haf), spdiRead_of_some haf]
  | none =>
    have hc : CutOff bytes ↔ CutOff after := by
      rw [CutOff, hr]
      rfl
    rw [spdiRead_of_none (hs.trans haf), spdiRead_of_none haf, he, lastPlmnList_cons]
    -- the last list behind this element counts, or else this one
    refine if_congr hc rfl ?_
    by_cases hl : tag = 0x80
    · rw [if_pos hl, if_pos hl]
      cases lastPlmnList (elements after) <;> rfl
    · rw [if_neg hl, if_neg hl, Option.or_none]

theorem spdiRead_of_stop (hcp : ¬∃ tag value after, CompleteTlv bytes tag value after)
    (ht : ¬∃ tag, TruncatedLength bytes tag) (datav : List UInt8) :
    spdiRead bytes datav = datav := by
  obtain ⟨he, hr⟩ := elements_of_none hcp
  have hct : ¬CutOff bytes := by
    rw [CutOff, hr]
    rintro (rfl | rfl)
    · exact ht ⟨0x80, by decide, rfl⟩
    · exact ht ⟨0xA3, by decide, rfl⟩
  rw [spdiRead_of_none (by rw [he]; rfl), he, if_neg hct]
  rfl

theorem spdiRead_nil (datav : List UInt8) : spdiRead [] datav = datav := by
  apply spdiRead_of_stop
  · rintro ⟨tag, _, _, h⟩
    exact absurd h.length.2.1 (by simp)
  · rintro ⟨tag, -, h⟩
    cases h

/-- A cut off length is read like a complete element without a value. -/
theorem spdiRead_of_truncated (h : TruncatedLength bytes tag) (datav : List UInt8) :
    spdiRead bytes datav =
      if tag = 0xA3 then spdiRead [] [] else spdiRead [] (if tag = 0x80 then [] else datav) := by
  have hn : ¬∃ tag value after, CompleteTlv bytes tag value after :=
    fun ⟨_, _, _, hcp⟩ => not_complete_of_truncated h hcp
  obtain ⟨he, hr⟩ := elements_of_none hn
  have hct : CutOff bytes ↔ tag = 0xA3 ∨ tag = 0x80 := by
    rw [CutOff, hr, h.2]
    simp only [List.cons.injEq, and_true]
    exact or_comm
  rw [spdiRead_of_none (by rw [he]; rfl), he, spdiRead_nil, spdiRead_nil]
  by_cases hs : tag = 0xA3
  · rw [if_pos hs, if_pos (hct.2 (.inl hs))]
  by_cases hl : tag = 0x80
  · rw [if_neg hs, if_pos hl, if_pos (hct.2 (.inr hl))]
  · rw [if_neg hs, if_neg hl, if_neg fun h => (hct.1 h).elim hs hl]
    rfl

theorem spdiBody_of_found {after : List UInt8} (hn : s.next = (true, s.moved tag value after))
    (hv : (s.moved tag value after).getValue = some value) (datav : List UInt8) :
    spdiBody (s, datav) = pure (.inl (if tag = 0xA3 then ({ data := value }, value)
      else (s.moved tag value after, if tag = 0x80 then value else datav))) := by
  have hc := s.getTagCode_moved tag value after
  have hs : ((tag.toNat : Int) = TAG_SPDI) ↔ tag = 0xA3 := by
    rw [← UInt8.toNat_inj]
    exact Int.ofNat_inj
  have hl : ((tag.toNat : Int) = TAG_SPDI_PLMN_LIST) ↔ tag = 0x80 := by
    rw [← UInt8.toNat_inj]
    exact Int.ofNat_inj
  simp only [spdiBody, hn, hc, hv, hs, hl, Bool.not_true, Bool.false_eq_true, if_false]
  split
  · rfl
  · split <;> rfl

theorem found_object (hn : s.hasNext) (ht : s.next.1) :
    ∃ tag value after, s.next = (true, s.moved tag value after) ∧
      (s.moved tag value after).getValue = some value ∧ after <:+ s.data ∧
      value.length + after.length < (s.data.drop s.offset).length ∧
      ∀ datav, spdiRead (s.data.drop s.offset) datav =
        if tag = 0xA3 then spdiRead value value
        else spdiRead after (if tag = 0x80 then value else datav) := by
  obtain ⟨tag, value, after, h⟩ | ⟨tag, h⟩ := object_of_next hn ht
  · have hl := h.length.2.1
    exact ⟨tag, value, after, next_of_complete hn h, getValue_moved h,
      h.suffix.trans (drop_suffix _ _), by omega, spdiRead_of_complete h⟩
  · refine ⟨tag, [], [], next_of_truncated hn h, rfl, nil_suffix, ?_, spdiRead_of_truncated h⟩
    rw [h.2]
    exact Nat.zero_lt_succ _

/-- **The loop** ends, and has kept these bytes. -/
theorem spdiLoop_yields (s : TagService) (hnx : s.hasNext) (datav : List UInt8) :
    Yields (loop spdiBody (s, datav)) (some (spdiRead (s.data.drop s.offset) datav)) := by
  induction hn : (s.data.drop s.offset).length using Nat.strongRecOn generalizing s datav with
  | _ n ih =>
    by_cases ht : s.next.1
    · obtain ⟨tag, value, after, hfd, hv, hsf, _, hr⟩ := found_object hnx ht
      rw [hr]
      apply Yields.loop_again (spdiBody_of_found hfd hv datav ▸ yields_pure _)
      split
      · exact ih value.length (by omega) { data := value } rfl value rfl
      · have haf := drop_moved tag value hsf
        have hl := ih after.length (by omega) (s.moved tag value after) hnx
          (if tag = 0x80 then value else datav) (by rw [haf])
        rwa [haf] at hl
    · have hst : spdiRead (s.data.drop s.offset) datav = datav := by
        apply spdiRead_of_stop
        · rintro ⟨tag, value, after, h⟩
          exact ht (by rw [next_of_complete hnx h])
        · rintro ⟨tag, h⟩
          exact ht (by rw [next_of_truncated hnx h])
      have hb : spdiBody (s, datav) = pure (.inr (some datav)) := by
        simp only [spdiBody, ht, Bool.not_false, if_true]
      rw [hst]
      exact .loop_done (hb ▸ yields_pure _)

/-! ## PLMNs -/

/-- Two digits in each byte; an F as the second digit of the MCC makes it none, and an F as the
third digit of the MNC is a filler. -/
def plmnOf (b0 b1 b2 : UInt8) : StdString :=
  if b0.toNat / 16 = 15 then []
  else
    [b0.toNat % 16, b0.toNat / 16, b1.toNat % 16, b2.toNat % 16, b2.toNat / 16].map hexDigit ++
      if b1.toNat / 16 = 15 then [] else [hexDigit (b1.toNat / 16)]

def plmnAt (bytes : List UInt8) (k : Nat) : StdString :=
  plmnOf (bytes.getD (3 * k) 0) (bytes.getD (3 * k + 1) 0) (bytes.getD (3 * k + 2) 0)

def plmnsOf (bytes : List UInt8) : Finset StdString :=
  (((List.range (bytes.length / 3)).map (plmnAt bytes)).filter (· ≠ [])).toFinset

theorem plmnsOf_nil : plmnsOf [] = ∅ := rfl

theorem streamHex_byte : ∀ b : UInt8,
    streamHex WORD_LEN b.toNat = [hexDigit (b.toNat / 16), hexDigit (b.toNat % 16)] :=
  forall_byte (by decide +kernel)

theorem hexVecToHexStr_length (arr : List UInt8) :
    (hexVecToHexStr arr).length = 2 * arr.length := by
  induction arr with
  | nil => rfl
  | cons b arr ih =>
    rw [hexVecToHexStr, flatMap_cons, ← hexVecToHexStr, length_append, ih, streamHex_byte]
    simp only [length_cons, length_nil]
    omega

theorem hexVecToHexStr_getD (arr : List UInt8) : ∀ i, i < arr.length →
    (hexVecToHexStr arr).getD (2 * i) 0 = hexDigit ((arr.getD i 0).toNat / 16) ∧
      (hexVecToHexStr arr).getD (2 * i + 1) 0 = hexDigit ((arr.getD i 0).toNat % 16) := by
  induction arr with
  | nil =>
    intro i hi
    cases hi
  | cons b arr ih =>
    have hc : hexVecToHexStr (b :: arr) =
        hexDigit (b.toNat / 16) :: hexDigit (b.toNat % 16) :: hexVecToHexStr arr := by
      rw [hexVecToHexStr, flatMap_cons, streamHex_byte]
      rfl
    rw [hc]
    rintro (_ | i) hi
    · exact ⟨rfl, rfl⟩
    · exact ih i (Nat.lt_of_succ_lt_succ hi)

theorem hexDigit_high_eq_F_iff (b : UInt8) : hexDigit (b.toNat / 16) = 70 ↔ b.toNat / 16 = 15 := by
  have hdg : ∀ d < 16, (hexDigit d = 70 ↔ d = 15) := by decide
  have hlt := b.toNat_lt
  exact hdg _ (by omega)

theorem bcdPlmnConvertToString_eq (bytes : List UInt8) {k : Nat} (hk : k < bytes.length / 3) :
    bcdPlmnConvertToString (hexVecToHexStr bytes) (6 * k) = plmnAt bytes k := by
  have hr : 6 * k + MCCMNC_LEN ≤ (hexVecToHexStr bytes).length := by
    rw [hexVecToHexStr_length, MCCMNC_LEN]
    omega
  obtain ⟨hmc2, hmc1⟩ := hexVecToHexStr_getD bytes (3 * k) (by omega)
  obtain ⟨hmn3, hmc3⟩ := hexVecToHexStr_getD bytes (3 * k + 1) (by omega)
  obtain ⟨hmn2, hmn1⟩ := hexVecToHexStr_getD bytes (3 * k + 2) (by omega)
  have ho : 2 * (3 * k) = 6 * k := by omega
  simp only [Nat.mul_add, ho]
    at hmc2 hmc1 hmn3 hmc3 hmn2 hmn1
  rw [bcdPlmnConvertToString, plmnAt, plmnOf, BCD_PLMN_MCC1, BCD_PLMN_MCC2, BCD_PLMN_MCC3,
    BCD_PLMN_MNC1, BCD_PLMN_MNC2, BCD_PLMN_MNC3, hmc1, hmc3, hmn1, hmn2, hmn3, Nat.add_zero,
    hmc2]
  simp only [hr, true_and, hexDigit_high_eq_F_iff, ite_not, map_cons, map_nil]

theorem mem_foldl_insert (f : Nat → StdString) (plmn : StdString) :
    ∀ (ks : List Nat) (plmns : Finset StdString),
      plmn ∈ ks.foldl (fun plmns k => if f k ≠ [] then insert (f k) plmns else plmns) plmns ↔
        plmn ∈ plmns ∨ plmn ∈ (ks.map f).filter (· ≠ [])
  | [], plmns => by simp
  | k :: ks, plmns => by
    rw [foldl_cons, mem_foldl_insert, map_cons, filter_cons]
    by_cases he : f k = []
    · simp [he]
    · simp only [he, ne_eq, not_false_eq_true, if_true, decide_true, Finset.mem_insert, mem_cons]
      tauto

theorem insertPlmns_eq (datav : List UInt8) : insertPlmns datav = plmnsOf datav := by
  have hl := hexVecToHexStr_length datav
  rw [insertPlmns]
  simp only
  split
  · rename_i hn
    rw [hn]
    rfl
  split
  · -- not one group
    have hg : datav.length / 3 = 0 := by omega
    rw [plmnsOf, hg]
    rfl
  · have hg : (hexVecToHexStr datav).length / 6 = datav.length / 3 := by omega
    ext plmn
    rw [hg, mem_foldl_insert, plmnsOf, mem_toFinset,
      map_congr_left fun k hk => bcdPlmnConvertToString_eq datav (mem_range.1 hk)]
    simp only [Finset.notMem_empty, false_or]

/-! ## Hex text -/

def digitPairs : StdString → List UInt8
  | hi :: lo :: rest =>
    UInt8.ofNat ((hexVal hi).getD 0 * 16 + (hexVal lo).getD 0) :: digitPairs rest
  | _ => []

/-- The bytes that a hex text stands for; with half a byte at its end, it stands for none. -/
def textBytes (s : StdString) : List UInt8 := if s.length % 2 = 0 then digitPairs s else []

theorem bytesOfText_eq : ∀ s, (∀ c ∈ s, (hexVal c).isSome) → TagService.bytesOfText s = digitPairs s
  | [], _ => rfl
  | [_], _ => rfl
  | hi :: lo :: rest, h => by
    obtain ⟨m, hm⟩ := Option.isSome_iff_exists.1 (h hi (by simp))
    obtain ⟨n, hn⟩ := Option.isSome_iff_exists.1 (h lo (by simp))
    rw [bytesOfText, digitPairs, bytesOfText_eq rest fun c hc => h c (by simp [hc])]
    simp [strtolDigits, hm, hn]

theorem ofString_eq {s : StdString} (h : ∀ c ∈ s, (hexVal c).isSome) :
    TagService.ofString s = { data := textBytes s } := by
  rw [ofString, TagService.CHINESE_POS, textBytes, ← bytesOfText_eq s h]
  by_cases hn : s = []
  · subst hn
    rfl
  by_cases hev : s.length % 2 = 0
  · rw [if_neg (by tauto), if_pos hev]
  · rw [if_pos (.inr hev), if_neg hev]

theorem parseSpdi_yields {s : StdString} (h : ∀ c ∈ s, (hexVal c).isSome) :
    Yields (parseSpdi s) (some (plmnsOf (spdiRead (textBytes s) []))) := by
  rw [parseSpdi]
  split
  · rename_i hn
    rw [hn, show textBytes [] = [] from rfl, spdiRead_nil]
    exact yields_pure _
  · rw [ofString_eq h, ← insertPlmns_eq]
    exact (spdiLoop_yields { data := textBytes s } rfl []).bind (yields_pure _)

/-! ## What the file says -/

/-- Where the list is looked for: inside the A3, or at the top if there is none. -/
def listScope (bytes : List UInt8) : List UInt8 := (firstSpdi (elements bytes)).getD bytes

def displayPlmns (bytes : List UInt8) : Finset StdString :=
  plmnsOf ((lastPlmnList (elements (listScope bytes))).getD [])

@[mk_iff]
structure ListFound (bytes : List UInt8) : Prop where
  /-- a list is not followed by a cut off element, or it is empty anyway -/
  whole : firstSpdi (elements (listScope bytes)) = none → CutOff (listScope bytes) →
    displayPlmns bytes = ∅
  /-- an A3 has a list inside, or its bytes are no PLMNs -/
  listed : ∀ value, firstSpdi (elements bytes) = some value → firstSpdi (elements value) = none →
    ¬CutOff value → lastPlmnList (elements value) = none → plmnsOf value = ∅
  /-- the A3 has no A3 inside, or the same PLMNs are found there -/
  flat : ∀ value, firstSpdi (elements bytes) = some value → ∀ inner,
    firstSpdi (elements value) = some inner → plmnsOf (spdiRead inner inner) = displayPlmns bytes

theorem listFound_iff_of_none (ht : firstSpdi (elements bytes) = none) :
    plmnsOf (spdiRead bytes []) = displayPlmns bytes ↔ ListFound bytes := by
  have hs : listScope bytes = bytes := by rw [listScope, ht]; rfl
  rw [spdiRead_of_none ht, listFound_iff, displayPlmns, hs]
  by_cases hc : CutOff bytes
  · simp [ht, hc, plmnsOf_nil, eq_comm]
  · simp [ht, hc]

theorem listFound_iff_of_some (ht : firstSpdi (elements bytes) = some value) :
    plmnsOf (spdiRead value value) = displayPlmns bytes ↔ ListFound bytes := by
  have hs : listScope bytes = value := by rw [listScope, ht]; rfl
  rw [listFound_iff, displayPlmns, hs]
  cases hin : firstSpdi (elements value) with
  | none =>
    rw [spdiRead_of_none hin]
    by_cases hc : CutOff value
    · simp [ht, hin, hc, plmnsOf_nil, eq_comm]
    · -- if no list is named, the bytes of the A3 are what is kept
      cases hl : lastPlmnList (elements value) <;>
        simp [ht, hin, hc, hl, plmnsOf_nil]
  | some inner => simp [spdiRead_of_some hin, ht, hin]

/-- **Display PLMNs.** What is left in `spdiPlmns_` is what the file names, except for a cut off
element, an A3 without a list and an A3 inside another, where they do harm. -/
theorem display_plmns_iff (s : StdString) (hhex : ∀ c ∈ s, (hexVal c).isSome) :
    Yields (parseSpdi s) (some (displayPlmns (textBytes s))) ↔ ListFound (textBytes s) := by
  have hy := parseSpdi_yields hhex
  have hif : plmnsOf (spdiRead (textBytes s) []) = displayPlmns (textBytes s) ↔
      ListFound (textBytes s) := by
    cases ht : firstSpdi (elements (textBytes s)) with
    | none => exact listFound_iff_of_none ht
    | some value =>
      rw [spdiRead_of_some ht]
      exact listFound_iff_of_some ht
  rw [← hif]
  constructor
  · exact fun h => Option.some.inj (hy.unique h)
  · exact fun h => h ▸ hy

theorem elements_nil : elements [] = [] ∧ remainder [] = [] := by
  apply elements_of_none
  rintro ⟨_, _, _, h⟩
  exact absurd h.length.2.1 (by simp)

theorem elements_single (tag len : UInt8) (value : List UInt8) (ht : IsTag tag)
    (hl : len < 0x80) (hv : value.length = len.toNat) :
    elements (tag :: len :: value) = [⟨tag, value⟩] ∧ remainder (tag :: len :: value) = [] := by
  have h := elements_of_complete (.short ht hl hv
    (show tag :: len :: value = tag :: len :: (value ++ []) by rw [append_nil]))
  rw [elements_nil.1, elements_nil.2] at h
  exact h

theorem display_plmns_plain :
    Yields (parseSpdi (ascii "A308800664F00064F020"))
      (some (displayPlmns (textBytes (ascii "A308800664F00064F020")))) := by
  have ht : textBytes (ascii "A308800664F00064F020") =
      [0xA3, 0x08, 0x80, 0x06, 0x64, 0xF0, 0x00, 0x64, 0xF0, 0x20] := by decide +kernel
  obtain ⟨ho, -⟩ := elements_single 0xA3 0x08 [0x80, 0x06, 0x64, 0xF0, 0x00, 0x64, 0xF0, 0x20]
    (by decide) (by decide) rfl
  obtain ⟨hin, hr⟩ := elements_single 0x80 0x06 [0x64, 0xF0, 0x00, 0x64, 0xF0, 0x20]
    (by decide) (by decide) rfl
  apply (display_plmns_iff _ (by decide +kernel)).2
  rw [ht]
  refine ⟨fun _ hc => ?_, fun value hv _ _ hl => ?_, fun value hv inner h => ?_⟩
  · rw [listScope, ho, CutOff] at hc
    exact absurd (hr ▸ hc) (by decide)
  · rw [ho] at hv
    cases hv
    rw [hin] at hl
    cases hl
  · rw [ho] at hv
    cases hv
    rw [hin] at h
    cases h

theorem spdi_without_list_read :
    Yields (parseSpdi (ascii "A303850101")) (some {ascii "581100"}) ∧
      displayPlmns (textBytes (ascii "A303850101")) = ∅ ∧
      ¬Yields (parseSpdi (ascii "A303850101"))
        (some (displayPlmns (textBytes (ascii "A303850101")))) := by
  have hy : Yields (parseSpdi (ascii "A303850101")) (some {ascii "581100"}) :=
    ⟨5, by decide +kernel⟩
  have ht : textBytes (ascii "A303850101") = [0xA3, 0x03, 0x85, 0x01, 0x01] := by decide +kernel
  have hs : listScope [0xA3, 0x03, 0x85, 0x01, 0x01] = [0x85, 0x01, 0x01] := by
    rw [listScope, (elements_single 0xA3 0x03 [0x85, 0x01, 0x01] (by decide) (by decide) rfl).1]
    rfl
  have hn : displayPlmns (textBytes (ascii "A303850101")) = ∅ := by
    rw [ht, displayPlmns, hs, (elements_single 0x85 0x01 [0x01] (by decide) (by decide) rfl).1]
    rfl
  refine ⟨hy, hn, fun h => ?_⟩
  rw [hn] at h
  exact Finset.singleton_ne_empty _ (Option.some.inj (hy.unique h))

end TelephonyCore.Sim
