import TelephonyCore.Codec.Asn1Utils
import Mathlib.Data.List.TakeWhile

/-!
# `SimNumberDecode`: dialling numbers as BCD

A number is packed two characters a byte, low nibble first, an odd last one filled up with `F`,
after a byte that says whether there was a `+` in it: 0x91 if so, else 0x81. Where the `+` was is
not stored, and neither is how many there were. The decoder puts one back at a place it guesses from
the digits: in front of a number, at the end of a service code such as `##21#`, behind the second
mark of `*21*49`.
-/

namespace TelephonyCore.Phonebook

open List

open Codec (StdString ascii)
open Lib (forall_byte)

/-! ## Characters -/

def PLUS : UInt8 := 43
def SHARP : UInt8 := 35
def STAR : UInt8 := 42

def isNumber (num : UInt8) : Bool := 48 ≤ num && num ≤ 57

def isPlusNumber (num : UInt8) : Bool := isNumber num || num == PLUS

def isSharpStar (num : UInt8) : Bool := num == SHARP || num == STAR

def isValidNumberChar (num : UInt8) : Bool := isPlusNumber num || isSharpStar num

def isValidNumberString (number : StdString) : Bool := number.all isValidNumberChar

/-- `BCD_TYPE_ADN`, `BCD_TYPE_CALLER`; any other type has no extension. -/
inductive BcdExtType where
  | adn
  | caller
  | other
deriving DecidableEq

def BCD_ADN_EXTENTION : StdString := ascii "*#,N;"
def BCD_CALLER_EXTENTION : StdString := ascii "*#abc"
def CHAR_START : Nat := 0xa

def chooseExtendedByType : BcdExtType → Option StdString
  | .adn => some BCD_ADN_EXTENTION
  | .caller => some BCD_CALLER_EXTENTION
  | .other => none

def charToBCD (c : UInt8) (bcdExtType : BcdExtType) : Option UInt8 :=
  if isNumber c then some (c - 48)
  else
    match chooseExtendedByType bcdExtType with
    | none => none
    | some extended => (extended.idxOf? c).map (fun chrIdx => UInt8.ofNat (chrIdx + CHAR_START))

def bcdToChar (bcdCode : UInt8) (bcdExtType : BcdExtType) : Option UInt8 :=
  if bcdCode.toNat < CHAR_START then some (48 + bcdCode)
  else
    match chooseExtendedByType bcdExtType with
    | none => none
    | some extended => extended[bcdCode.toNat - CHAR_START]?

/-! ## Packing -/

def FLAG_INTERNATIONAL : UInt8 := 0x91
def FLAG_UNKNOWN : UInt8 := 0x81
def HI_FOUR : UInt8 := 0xf0
def LO_FOUR : UInt8 := 0x0f
def HALF_BYTE : UInt8 := 0xf

/-- `bcdCodes.back() |= bits` -/
def orBack (bcdCodes : List UInt8) (bits : UInt8) : List UInt8 :=
  match bcdCodes.getLast? with
  | none => bcdCodes
  | some back => bcdCodes.dropLast ++ [back ||| bits]

def bcdLoop (bcdExtType : BcdExtType) :
    StdString → Nat → List UInt8 → Option (Nat × List UInt8)
  | [], count, bcdCodes => some (count, bcdCodes)
  | num :: rest, count, bcdCodes =>
    if num = PLUS then bcdLoop bcdExtType rest count bcdCodes
    else
      match charToBCD num bcdExtType with
      | none => none
      | some code =>
        if count % 2 = 1 then bcdLoop bcdExtType rest (count + 1) (orBack bcdCodes (code <<< 4))
        else bcdLoop bcdExtType rest (count + 1) (bcdCodes ++ [code])

/-- `none` where it returns false. -/
def numberConvertToBCD (number : StdString) (includeLen : Bool) (bcdExtType : BcdExtType) :
    Option (List UInt8) :=
  let hasPlus := number.contains PLUS
  let length := UInt8.ofNat number.length - (if hasPlus then 1 else 0)
  let head := (if includeLen then [length] else []) ++
    [if hasPlus then FLAG_INTERNATIONAL else FLAG_UNKNOWN]
  match bcdLoop bcdExtType number 0 head with
  | none => none
  | some (count, bcdCodes) => some (if count % 2 = 1 then orBack bcdCodes HI_FOUR else bcdCodes)

/-! ## Unpacking -/

/-- The characters up to the first code that is none. -/
def bcdSectionConvertToString (bcdExtType : BcdExtType) : List UInt8 → StdString
  | [] => []
  | code :: rest =>
    match bcdToChar (code &&& LO_FOUR) bcdExtType with
    | none => []
    | some c =>
      let hiFourBit := (code >>> 4) &&& HALF_BYTE
      if hiFourBit = HALF_BYTE ∧ rest = [] then [c]
      else
        match bcdToChar hiFourBit bcdExtType with
        | none => [c]
        | some d => c :: d :: bcdSectionConvertToString bcdExtType rest

/-- The second half of `BCDConvertToString`, for a number with a `+`. Of a single
character the source reads the terminating zero as the second. -/
def insertPlus : StdString → StdString
  | [] => []
  | front :: rest =>
    if !isValidNumberString (front :: rest) then front :: rest
    -- not start with [#*] just prepend '+'
    else if !isSharpStar front then PLUS :: front :: rest
    -- started with two [#*] ends with # ,just append a +
    else if rest.head?.any isSharpStar ∧ (front :: rest).getLast? = some SHARP then
      front :: rest ++ [PLUS]
    else
      match rest.dropWhile isPlusNumber with
      | mark :: next :: data =>
        if isSharpStar mark then
          front :: rest.takeWhile isPlusNumber ++ mark :: PLUS :: next :: data
        else front :: rest
      | _ => front :: rest

/-- Its result is only logged, and the string is used as it is. -/
def bcdConvertToString (bcdExtType : BcdExtType) : List UInt8 → StdString
  | [] => []
  | flag :: codes =>
    let number := bcdSectionConvertToString bcdExtType codes
    if flag = FLAG_INTERNATIONAL then insertPlus number else number

def bcdConvertToStringAt (bytesData : List UInt8) (dataLength offset length : Nat)
    (bcdExtType : BcdExtType) : StdString :=
  if offset + length > dataLength then []
  else bcdConvertToString bcdExtType ((bytesData.drop offset).take length)

/-! ## The digits come back -/

def bcdCode (c : UInt8) : UInt8 := (charToBCD c .adn).getD 0

/-- The characters that have a code: the digits and the marks of `BCD_ADN_EXTENTION`. -/
def hasCode (c : UInt8) : Bool := (charToBCD c .adn).isSome

theorem charToBCD_of_hasCode {c : UInt8} (hc : hasCode c) : charToBCD c .adn = some (bcdCode c) := by
  obtain ⟨_, hcd⟩ := Option.isSome_iff_exists.1 hc
  rw [bcdCode, hcd, Option.getD_some]

theorem hasCode_of_isValidNumberChar : ∀ c, isValidNumberChar c → c ≠ PLUS → hasCode c :=
  forall_byte (by decide +kernel)

theorem bcdToChar_bcdCode :
    ∀ c, hasCode c → c ≠ PLUS ∧ bcdToChar (bcdCode c) .adn = some c ∧ (bcdCode c).toNat < 15 :=
  forall_byte (by decide +kernel)

/-- Two codes a byte, an odd one filled up. -/
def pairCodes : List UInt8 → List UInt8
  | lo :: hi :: rest => (lo ||| (hi <<< 4)) :: pairCodes rest
  | [lo] => [lo ||| HI_FOUR]
  | [] => []

def digitsOf (number : StdString) : StdString := number.filter (· ≠ PLUS)

theorem bcdLoop_digitsOf (bcdExtType : BcdExtType) (number : StdString) :
    ∀ count bcdCodes, bcdLoop bcdExtType number count bcdCodes =
      bcdLoop bcdExtType (digitsOf number) count bcdCodes := by
  induction number with
  | nil => intro count bcdCodes; rfl
  | cons num rest ih =>
    intro count bcdCodes
    by_cases hp : num = PLUS
    · rw [bcdLoop, if_pos hp, ih, digitsOf, digitsOf, filter_cons_of_neg (by simp [hp])]
    · rw [digitsOf, filter_cons_of_pos (by simp [hp]), ← digitsOf, bcdLoop,
        if_neg hp, bcdLoop, if_neg hp]
      cases charToBCD num bcdExtType with
      | none => rfl
      | some code => simp only [ih]

@[simp] theorem orBack_concat (bcdCodes : List UInt8) (back bits : UInt8) :
    orBack (bcdCodes ++ [back]) bits = bcdCodes ++ [back ||| bits] := by
  simp [orBack]

/-- The induction takes two digits at a time, so that `count` is even at the start of each turn. -/
theorem bcdLoop_eq : ∀ digits, (∀ c ∈ digits, hasCode c) →
    ∀ count bcdCodes, count % 2 = 0 → (bcdLoop .adn digits count bcdCodes).map
          (fun r => if r.1 % 2 = 1 then orBack r.2 HI_FOUR else r.2) =
        some (bcdCodes ++ pairCodes (digits.map bcdCode))
  | [], _, count, bcdCodes, he => by
    simp [bcdLoop, pairCodes, he]
  | [c], hcd, count, bcdCodes, he => by
    have hc := hcd c (by simp)
    obtain ⟨hp, -⟩ := bcdToChar_bcdCode c hc
    have ho : (count + 1) % 2 = 1 := by omega
    simp [bcdLoop, hp, charToBCD_of_hasCode hc, he, ho, pairCodes]
  | c :: d :: rest, hcd, count, bcdCodes, he => by
    have hc := hcd c (by simp)
    have hd := hcd d (by simp)
    obtain ⟨hcp, -⟩ := bcdToChar_bcdCode c hc
    obtain ⟨hdp, -⟩ := bcdToChar_bcdCode d hd
    have ho : (count + 1) % 2 = 1 := by omega
    have ih := bcdLoop_eq rest (fun x hx => hcd x (by simp [hx])) (count + 1 + 1)
      (bcdCodes ++ [bcdCode c ||| (bcdCode d <<< 4)]) (by omega)
    rw [bcdLoop, if_neg hcp, charToBCD_of_hasCode hc]
    simp only
    rw [if_neg (by omega), bcdLoop, if_neg hdp, charToBCD_of_hasCode hd]
    simp only
    rw [if_pos ho, orBack_concat, ih]
    simp [pairCodes]

variable {number : StdString}

/-- **What is stored** of a number whose characters have codes, the `+` apart. -/
theorem numberConvertToBCD_of_hasCode (hc : ∀ c ∈ digitsOf number, hasCode c) :
    numberConvertToBCD number false .adn =
      some ((if number.contains PLUS then FLAG_INTERNATIONAL else FLAG_UNKNOWN) ::
        pairCodes ((digitsOf number).map bcdCode)) := by
  have hl := bcdLoop_eq (digitsOf number) hc 0
    [if number.contains PLUS then FLAG_INTERNATIONAL else FLAG_UNKNOWN] rfl
  rw [← bcdLoop_digitsOf] at hl
  rw [numberConvertToBCD]
  simp only [Bool.false_eq_true, if_false, nil_append]
  cases hr : bcdLoop .adn number 0
      [if number.contains PLUS then FLAG_INTERNATIONAL else FLAG_UNKNOWN] with
  | none => rw [hr] at hl; simp at hl
  | some r => rw [hr] at hl; simpa using hl

theorem mem_digitsOf (hv : isValidNumberString number) :
    ∀ c ∈ digitsOf number, isValidNumberChar c ∧ c ≠ PLUS := by
  intro c hc
  obtain ⟨hm, hp⟩ := mem_filter.1 hc
  exact ⟨all_eq_true.1 hv c hm, by simpa using hp⟩

theorem hasCode_of_mem_digitsOf (hv : isValidNumberString number) :
    ∀ c ∈ digitsOf number, hasCode c := by
  intro c hc
  obtain ⟨hch, hp⟩ := mem_digitsOf hv c hc
  exact hasCode_of_isValidNumberChar c hch hp

theorem pairCodes_length : ∀ codes, (pairCodes codes).length = (codes.length + 1) / 2
  | [] => rfl
  | [_] => by simp [pairCodes]
  | _ :: _ :: rest => by
    rw [pairCodes, length_cons, pairCodes_length]
    simp only [length_cons]
    omega

theorem nibbles_pair {lo hi : UInt8} (hlo : lo.toNat < 16) (hhi : hi.toNat < 16) :
    (lo ||| (hi <<< 4)) &&& LO_FOUR = lo ∧ ((lo ||| (hi <<< 4)) >>> 4) &&& HALF_BYTE = hi := by
  have hal : ∀ m < 16, ∀ n < 16,
      (.ofNat m ||| (UInt8.ofNat n <<< 4)) &&& LO_FOUR = .ofNat m ∧
        ((.ofNat m ||| (UInt8.ofNat n <<< 4)) >>> 4) &&& HALF_BYTE = .ofNat n := by
    decide +kernel
  have h := hal lo.toNat hlo hi.toNat hhi
  rwa [UInt8.ofNat_toNat, UInt8.ofNat_toNat] at h

theorem hiFour_eq : HI_FOUR = HALF_BYTE <<< 4 := by decide

theorem bcdSectionConvertToString_pairCodes :
    ∀ digits, (∀ c ∈ digits, hasCode c) →
      bcdSectionConvertToString .adn (pairCodes (digits.map bcdCode)) = digits
  | [], _ => rfl
  | [c], hcd => by
    obtain ⟨-, hb, hlt⟩ := bcdToChar_bcdCode c (hcd c (by simp))
    have hf : HALF_BYTE.toNat < 16 := by decide
    obtain ⟨hlo, hhi⟩ := nibbles_pair (hlt.trans (by decide)) hf
    simp only [map_cons, map_nil, pairCodes, hiFour_eq, bcdSectionConvertToString, hlo,
      hb, hhi, and_self, if_true]
  | c :: d :: rest, hcd => by
    obtain ⟨-, hcb, hcl⟩ := bcdToChar_bcdCode c (hcd c (by simp))
    obtain ⟨-, hdb, hdl⟩ := bcdToChar_bcdCode d (hcd d (by simp))
    obtain ⟨hlo, hhi⟩ := nibbles_pair (hcl.trans (by decide)) (hdl.trans (by decide))
    -- a digit in the high nibble is not taken for the filler
    have hn : bcdCode d ≠ HALF_BYTE := by
      intro h
      rw [h] at hdl
      exact absurd hdl (by decide)
    have ih := bcdSectionConvertToString_pairCodes rest (fun x hx => hcd x (by simp [hx]))
    simp only [map_cons, pairCodes, bcdSectionConvertToString, hlo, hcb, hhi, hn,
      false_and, if_false, hdb, ih]

theorem digitsOf_eq_self (h : PLUS ∉ number) : digitsOf number = number := by
  refine filter_eq_self.2 ?_
  intro c hc
  have hne : c ≠ PLUS := by
    rintro rfl
    exact h hc
  simpa using hne

/-- **What comes back** of a number whose characters have codes, the `+` apart. -/
theorem bcdConvertToString_of_hasCode (hc : ∀ c ∈ digitsOf number, hasCode c) :
    bcdConvertToString .adn ((if number.contains PLUS then FLAG_INTERNATIONAL else FLAG_UNKNOWN) ::
        pairCodes ((digitsOf number).map bcdCode)) =
      if number.contains PLUS then insertPlus (digitsOf number) else number := by
  rw [bcdConvertToString, bcdSectionConvertToString_pairCodes _ hc]
  by_cases hp : number.contains PLUS
  · rw [if_pos hp, if_pos rfl, if_pos hp]
  · have hs : digitsOf number = number := digitsOf_eq_self (fun h => hp (contains_iff_mem.2 h))
    rw [if_neg hp, if_neg hp, if_neg (by decide), hs]

/-! ## The `+` comes back -/

/-- Nowhere, in front of a digit, behind a code that starts with two marks and ends with `#`, or
behind the second mark, with data to follow that makes no such code. -/
inductive PlusPlaced : StdString → Prop
  | none {number : StdString} (hnone : PLUS ∉ number) : PlusPlaced number
  | front {first : UInt8} {rest : StdString} (hfirst : isNumber first) (hrest : PLUS ∉ rest) :
    PlusPlaced (PLUS :: first :: rest)
  | back {first second : UInt8} {rest : StdString} (hfirst : isSharpStar first)
    (hsecond : isSharpStar second) (hrest : PLUS ∉ rest)
    (hlast : (first :: second :: rest).getLast? = some SHARP) :
    PlusPlaced (first :: second :: rest ++ [PLUS])
  | data {first mark : UInt8} {digits data : StdString} (hfirst : isSharpStar first)
    (hdigits : ∀ d ∈ digits, isNumber d) (hmark : isSharpStar mark) (hdata : data ≠ [])
    (hplus : PLUS ∉ data) (hcode : ¬ (digits = [] ∧ data.getLast? = some SHARP)) :
    PlusPlaced (first :: digits ++ mark :: PLUS :: data)

theorem isNumber_facts : ∀ c, isNumber c → c ≠ PLUS ∧ isSharpStar c = false ∧ isPlusNumber c :=
  forall_byte (by decide +kernel)

theorem isSharpStar_facts : ∀ c, isSharpStar c → c ≠ PLUS ∧ isPlusNumber c = false :=
  forall_byte (by decide +kernel)

theorem isNumber_of_isPlusNumber : ∀ c, isPlusNumber c → c ≠ PLUS → isNumber c :=
  forall_byte (by decide +kernel)

theorem isNumber_of_isValidNumberChar :
    ∀ c, isValidNumberChar c → c ≠ PLUS → isSharpStar c = false → isNumber c :=
  forall_byte (by decide +kernel)

theorem digitsOf_append (xs ys : StdString) : digitsOf (xs ++ ys) = digitsOf xs ++ digitsOf ys :=
  filter_append ..

@[simp] theorem digitsOf_plus (number : StdString) : digitsOf (PLUS :: number) = digitsOf number :=
  filter_cons_of_neg (by simp)

theorem plus_not_mem_digitsOf (number : StdString) : PLUS ∉ digitsOf number := by
  intro h
  simpa using (mem_filter.1 h).2

theorem isValidNumberString_digitsOf (h : isValidNumberString number) :
    isValidNumberString (digitsOf number) :=
  all_eq_true.2 fun c hc => (mem_digitsOf h c hc).1

/-! The digits of a number with its `+` in front, at the back, or before the data. -/

variable {first : UInt8} {digits rest : StdString}

theorem digitsOf_front (hf : isNumber first) (hr : PLUS ∉ rest) :
    digitsOf (PLUS :: first :: rest) = first :: rest := by
  rw [digitsOf_plus]
  exact digitsOf_eq_self (by simp [Ne.symm (isNumber_facts first hf).1, hr])

theorem digitsOf_back {second : UInt8} (hf : isSharpStar first) (hsc : isSharpStar second)
    (hr : PLUS ∉ rest) :
    digitsOf (first :: second :: rest ++ [PLUS]) = first :: second :: rest := by
  have hsl : digitsOf (first :: second :: rest) = first :: second :: rest :=
    digitsOf_eq_self (by
      simp [Ne.symm (isSharpStar_facts first hf).1, Ne.symm (isSharpStar_facts second hsc).1, hr])
  rw [digitsOf_append, hsl, digitsOf_plus, show digitsOf [] = [] from rfl, append_nil]

theorem digitsOf_data {mark : UInt8} {data : StdString} (hf : isSharpStar first)
    (hdg : ∀ d ∈ digits, isNumber d) (hmk : isSharpStar mark) (hp : PLUS ∉ data) :
    digitsOf (first :: digits ++ mark :: PLUS :: data) = first :: digits ++ mark :: data := by
  have hmr := (isSharpStar_facts mark hmk).1
  have hn : PLUS ∉ digits := fun h => (isNumber_facts _ (hdg _ h)).1 rfl
  have hh : PLUS ∉ first :: digits := by
    simp [Ne.symm (isSharpStar_facts first hf).1, hn]
  have ht : digitsOf (mark :: PLUS :: data) = mark :: data := by
    rw [digitsOf, filter_cons_of_pos (by simp [hmr]), ← digitsOf, digitsOf_plus,
      digitsOf_eq_self hp]
  rw [digitsOf_append, digitsOf_eq_self hh, ht]

inductive PlusInserted : StdString → StdString → Prop
  | unchanged (number : StdString) : PlusInserted number number
  | front {first : UInt8} {rest : StdString} (hvalid : isValidNumberChar first)
    (hfirst : isSharpStar first = false) : PlusInserted (first :: rest) (PLUS :: first :: rest)
  | back {first second : UInt8} {rest : StdString} (hfirst : isSharpStar first)
    (hsecond : isSharpStar second) (hlast : (first :: second :: rest).getLast? = some SHARP) :
    PlusInserted (first :: second :: rest) (first :: second :: rest ++ [PLUS])
  | data {first mark : UInt8} {digits data : StdString} (hfirst : isSharpStar first)
    (hdigits : ∀ d ∈ digits, isPlusNumber d) (hmark : isSharpStar mark) (hdata : data ≠ [])
    (hcode : ¬ (digits = [] ∧ data.getLast? = some SHARP)) :
    PlusInserted (first :: digits ++ mark :: data) (first :: digits ++ mark :: PLUS :: data)

theorem plusInserted_insertPlus (number : StdString) : PlusInserted number (insertPlus number) := by
  cases number with
  | nil => exact .unchanged []
  | cons front rest =>
    rw [insertPlus]
    split
    · exact .unchanged _
    next hv =>
    have hal : isValidNumberString (front :: rest) := by simpa using hv
    split
    next hm =>
      exact .front (all_eq_true.1 hal front (by simp)) (by simpa using hm)
    next hm =>
    have hf : isSharpStar front := by simpa using hm
    split
    next hc =>
      obtain ⟨hh, hl⟩ := hc
      cases rest with
      | nil => simp at hh
      | cons second rest => exact .back hf (by simpa using hh) hl
    next hc =>
    split
    next mark next data heq =>
      split
      next hsc =>
        have hsp : rest = rest.takeWhile isPlusNumber ++ mark :: next :: data := by
          rw [← heq, takeWhile_append_dropWhile]
        have hnc : ¬ (rest.takeWhile isPlusNumber = [] ∧
            (next :: data).getLast? = some SHARP) := by
          rintro ⟨hnl, hl⟩
          rw [hnl, nil_append] at hsp
          exact hc ⟨by simp [hsp, hsc], by simp [hsp, hl]⟩
        have hin := PlusInserted.data hf
          (fun d (hd : d ∈ rest.takeWhile isPlusNumber) => mem_takeWhile_imp hd) hsc
          (cons_ne_nil next data) hnc
        rwa [cons_append, ← hsp] at hin
      next => exact .unchanged _
    next => exact .unchanged _

theorem insertPlus_cases (digits : StdString) :
    insertPlus digits = digits ∨
      ∃ before after, digits = before ++ after ∧ insertPlus digits = before ++ PLUS :: after := by
  have hin := plusInserted_insertPlus digits
  generalize insertPlus digits = number at hin
  cases hin with
  | unchanged => exact .inl rfl
  | @front first rest => exact .inr ⟨[], first :: rest, rfl, rfl⟩
  | @back first second rest =>
    exact .inr ⟨first :: second :: rest, [], (append_nil _).symm, rfl⟩
  | @data first mark digits data =>
    exact .inr ⟨first :: digits ++ [mark], data, by simp, by simp⟩

theorem insertPlus_of_plusPlaced (hv : isValidNumberString number) (hmm : PLUS ∈ number)
    (hpl : PlusPlaced number) : insertPlus (digitsOf number) = number := by
  have hdg := isValidNumberString_digitsOf hv
  cases hpl with
  | none hnn => exact absurd hmm hnn
  | @front first rest hf hr =>
    rw [digitsOf_front hf hr] at hdg ⊢
    simp [insertPlus, hdg, (isNumber_facts first hf).2.1]
  | @back first second rest hf hs hr hl =>
    rw [digitsOf_back hf hs hr] at hdg ⊢
    rw [insertPlus, hdg, hf, if_neg (by simp), if_neg (by simp), if_pos ⟨by simpa using hs, hl⟩]
  | @data first mark digits data hf hnm hmk hdt hpu hc =>
    have hmr := (isSharpStar_facts mark hmk).2
    rw [digitsOf_data hf hnm hmk hpu, cons_append] at hdg ⊢
    obtain ⟨next, data, rfl⟩ := exists_cons_of_ne_nil hdt
    have hps : ∀ d ∈ digits, isPlusNumber d := fun d hd => (isNumber_facts d (hnm d hd)).2.2
    have hnc : ¬ ((digits ++ mark :: next :: data).head?.any isSharpStar ∧
        (first :: (digits ++ mark :: next :: data)).getLast? = some SHARP) := by
      rintro ⟨hh, hl⟩
      cases digits with
      | nil => exact hc ⟨rfl, by simpa using hl⟩
      | cons d digits => simp [(isNumber_facts d (hnm d (by simp))).2.1] at hh
    rw [insertPlus, hdg, hf, if_neg (by simp), if_neg (by simp), if_neg hnc,
      dropWhile_append_of_pos hps, takeWhile_append_of_pos hps,
      dropWhile_cons_of_neg (by simp [hmr]),
      takeWhile_cons_of_neg (by simp [hmr])]
    simp [hmk]

theorem plusPlaced_insertPlus (hdg : PLUS ∉ digits) (hch : PLUS ∈ insertPlus digits) :
    PlusPlaced (insertPlus digits) := by
  have hin := plusInserted_insertPlus digits
  generalize insertPlus digits = number at hch hin
  cases hin with
  | unchanged => exact absurd hch hdg
  | @front first rest hv hf =>
    have hne : first ≠ PLUS := fun h => hdg (by simp [h])
    exact .front (isNumber_of_isValidNumberChar first hv hne hf)
      (fun h => hdg (by simp [h]))
  | back hf hs hl => exact .back hf hs (fun h => hdg (by simp [h])) hl
  | @data first mark numbers data hf hnm hm hdt hcd =>
    refine .data hf ?_ hm hdt (fun h => hdg (by simp [h])) hcd
    intro d hd
    refine isNumber_of_isPlusNumber d (hnm d hd) ?_
    rintro rfl
    exact hdg (by simp [hd])

/-- **The guess is right** exactly for the numbers of `PlusPlaced`. -/
theorem insertPlus_eq_iff (hv : isValidNumberString number) (hm : PLUS ∈ number) :
    insertPlus (digitsOf number) = number ↔ PlusPlaced number := by
  constructor
  · intro heq
    rw [← heq]
    exact plusPlaced_insertPlus (plus_not_mem_digitsOf number) (by rw [heq]; exact hm)
  · exact insertPlus_of_plusPlaced hv hm

end TelephonyCore.Phonebook
