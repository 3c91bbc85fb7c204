import TelephonyCore.Codec.Asn1Utils
import Mathlib.Data.Bool.AllAny

/-!
# `IccOperatorRule`: the rules of the operator

The access rules on a card come as nested objects in hex text: FF40 holds the rules, a rule E2 holds
E1 and E3, E1 a certificate C1 and perhaps a package name CA, and E3 an access limit DB.
`CreateFromTLV` walks over the text with one iterator and fills one rule object, which it copies to
the result after each rule.

An iterator is the rest of the text here. A length is read with `std::from_chars` into an `int32_t`,
so an object can have a negative length and send the iterator back; `advance` needs the whole text
for this. The loops are given more turns than one that ends can take: a loop in `E1` or `E3` ends
without coming to a place twice, and the loop over the rules, unless an `E2` has a negative length,
adds at least one to a count below 256.

The rule object is not reset, so a rule without a package name has that of its predecessor
(`inherit`).
-/

namespace TelephonyCore.Privilege

open Codec List Option

/-! ## The parser -/

def TAG_ALL_RULE : StdString := ascii "FF40"
def TAG_RULE : StdString := ascii "E2"
def TAG_CERT_PKG : StdString := ascii "E1"
def TAG_CERTIFICATE : StdString := ascii "C1"
def TAG_PACKAGE : StdString := ascii "CA"
def TAG_LIMITS : StdString := ascii "E3"
def TAG_LIMIT : StdString := ascii "DB"
def TLV_SIMPLE_TAG_ONEBYTE_LEN : Int := 1
def TLV_SIMPLE_TAG_LENGTH_LEN : Int := 1
def TLV_LEN_CHARLEN : Nat := 2
def TLV_STAG_CHARLEN : Nat := 2

structure IccOperatorRule where
  packageName : StdString := []
  certificate : StdString := []
  accessLimit : StdString := []
deriving DecidableEq

/-- A minus sign, then digits up to the first character that is none; an error when there are none.
-/
def fromChars16 : StdString → Option Int
  | 45 :: rest => if (rest.head?.bind hexVal).isSome then some (-(strtolDigits 0 rest)) else none
  | rest => if (rest.head?.bind hexVal).isSome then some (strtolDigits 0 rest) else none

def readOneByte : StdString → Option (Int × StdString)
  | a :: b :: rest => (fromChars16 [a, b]).map fun res => (res, rest)
  | _ => none

def advance (hexStr it : StdString) (n : Int) : StdString :=
  if 0 ≤ n then it.drop n.toNat else hexStr.drop (hexStr.length - it.length - (-n).toNat)

structure SimpleTlv where
  tagName : StdString
  len : Int
  value : StdString
  it : StdString

def parseSimpleTLV (hexStr it : StdString) : Option SimpleTlv :=
  let inputSize := it.length
  if inputSize < TLV_STAG_CHARLEN then none
  else if inputSize < TLV_STAG_CHARLEN + TLV_LEN_CHARLEN then none
  else
    match readOneByte (it.drop TLV_STAG_CHARLEN) with
    | none => none
    | some (len, rest) =>
      let valueCharLen := len + len
      if (inputSize : Int) < TLV_STAG_CHARLEN + TLV_LEN_CHARLEN + valueCharLen then none
      else
        some ⟨it.take TLV_STAG_CHARLEN, len, rest.take valueCharLen.toNat,
          advance hexStr rest valueCharLen⟩

/-- The bytes that `SetPackageNameByHexStr` sets; `none` where it returns false. -/
def packageNameByHexStr : StdString → Option StdString
  | [] => some []
  | [_] => none
  | a :: b :: rest =>
    match fromChars16 [a, b] with
    | none => none
    | some value => (packageNameByHexStr rest).map (UInt8.ofInt value :: ·)

def certPkgLoop (hexStr : StdString) (refDoLen : Int) :
    Nat → StdString → IccOperatorRule → Bool → Int → Option (StdString × IccOperatorRule)
  | 0, _, _, _, _ => none
  | turns + 1, it, result, hasCertificate, totalLen =>
    if it ≠ [] ∧ totalLen < refDoLen then
      match parseSimpleTLV hexStr it with
      | none => none
      | some tlv =>
        let totalLen := totalLen + (tlv.len + TLV_SIMPLE_TAG_ONEBYTE_LEN + TLV_SIMPLE_TAG_LENGTH_LEN)
        if tlv.tagName = TAG_CERTIFICATE then
          certPkgLoop hexStr refDoLen turns tlv.it { result with certificate := tlv.value } true
            totalLen
        else if tlv.tagName = TAG_PACKAGE then
          match packageNameByHexStr tlv.value with
          | none => none
          | some packageName =>
            certPkgLoop hexStr refDoLen turns tlv.it { result with packageName } hasCertificate
              totalLen
        else certPkgLoop hexStr refDoLen turns tlv.it result hasCertificate totalLen
    else if hasCertificate then some (it, result) else none

/-- Where the iterator is left, and the rule. -/
def decodeTLVTagCertPkg (hexStr it : StdString) (result : IccOperatorRule) :
    Option (StdString × IccOperatorRule) :=
  if !TAG_CERT_PKG.isPrefixOf it then none
  else
    match readOneByte (it.drop TAG_CERT_PKG.length) with
    | none => none
    | some (refDoLen, rest) =>
      certPkgLoop hexStr refDoLen (hexStr.length + 1) rest result false 0

def limitsLoop (hexStr : StdString) (arDoLen : Int) :
    Nat → StdString → IccOperatorRule → Bool → Int → Option (StdString × IccOperatorRule)
  | 0, _, _, _, _ => none
  | turns + 1, it, result, isReadTagPermArDo, totalLen =>
    if it ≠ [] ∧ totalLen < arDoLen then
      match parseSimpleTLV hexStr it with
      | none => none
      | some tlv =>
        let totalLen := totalLen + (tlv.len + TLV_SIMPLE_TAG_ONEBYTE_LEN + TLV_SIMPLE_TAG_LENGTH_LEN)
        if tlv.tagName = TAG_LIMIT then
          limitsLoop hexStr arDoLen turns tlv.it { result with accessLimit := tlv.value } true
            totalLen
        else limitsLoop hexStr arDoLen turns tlv.it result isReadTagPermArDo totalLen
    else if isReadTagPermArDo then some (it, result) else none

def decodeTLVTagLimits (hexStr it : StdString) (result : IccOperatorRule) :
    Option (StdString × IccOperatorRule) :=
  if !TAG_LIMITS.isPrefixOf it then none
  else
    match readOneByte (it.drop TAG_LIMITS.length) with
    | none => none
    | some (arDoLen, rest) => limitsLoop hexStr arDoLen (hexStr.length + 1) rest result false 0

/-- The iterator, the rule and the length it counts. -/
def decodeTLVTagRule (hexStr it : StdString) (result : IccOperatorRule) :
    Option (StdString × IccOperatorRule × Int) :=
  if !TAG_RULE.isPrefixOf it then none
  else
    match readOneByte (it.drop TAG_RULE.length) with
    | none => none
    | some (refArLen, it) =>
      let len := TLV_SIMPLE_TAG_ONEBYTE_LEN + (TLV_SIMPLE_TAG_LENGTH_LEN + refArLen)
      match decodeTLVTagCertPkg hexStr it result with
      | none => none
      | some (it, result) =>
        match decodeTLVTagLimits hexStr it result with
        | none => none
        | some (it, result) => some (it, result, len)

/-- The loop of `CreateFromTLV`, with the rule object that all turns share. -/
def ruleLoop (hexStr : StdString) (len : Int) :
    Nat → StdString → IccOperatorRule → Int → List IccOperatorRule → List IccOperatorRule
  | 0, _, _, _, result => result
  | turns + 1, it, rule, totalLen, result =>
    if it ≠ [] ∧ totalLen < len then
      match decodeTLVTagRule hexStr it rule with
      | none => result
      | some (it, rule, ruleLen) =>
        ruleLoop hexStr len turns it rule (totalLen + ruleLen) (result ++ [rule])
    else result

/-- `none` where it returns false. -/
def createFromTLV (hexStr : StdString) : Option (List IccOperatorRule) :=
  if !TAG_ALL_RULE.isPrefixOf hexStr then none
  else
    match readOneByte (hexStr.drop TAG_ALL_RULE.length) with
    | none => none
    | some (len, it) => some (ruleLoop hexStr len (256 * (hexStr.length + 1)) it {} 0 [])

/-! ## Well-formed text -/

/-- An object with a length of one byte, in two hex digits of either case. -/
def IsTlv (tag value text : StdString) : Prop :=
  ∃ a b hi lo, hexVal a = some hi ∧ hexVal b = some lo ∧
    value.length = 2 * (hi * 16 + lo) ∧ text = tag ++ a :: b :: value

/-- Hex digits, two a byte. -/
def IsHex (s : StdString) : Prop := s.length % 2 = 0 ∧ ∀ c ∈ s, (hexVal c).isSome

theorem isHex_nil : IsHex [] := ⟨rfl, by simp⟩

structure RuleValues where
  certificate : StdString
  package : Option StdString
  limit : StdString

inductive IsRule (values : RuleValues) (text : StdString) : Prop
  | intro {cert pkg ref limit limits : StdString}
    (hcert : IsTlv TAG_CERTIFICATE values.certificate cert)
    (hpkg : match values.package with
      | none => pkg = []
      | some name => IsHex name ∧ IsTlv TAG_PACKAGE name pkg)
    (href : IsTlv TAG_CERT_PKG (cert ++ pkg) ref)
    (hlimit : IsTlv TAG_LIMIT values.limit limit)
    (hlimits : IsTlv TAG_LIMITS limit limits)
    (hrule : IsTlv TAG_RULE (ref ++ limits) text)

/-! ## Objects are read back -/

theorem hexVal_ne_minus {c : UInt8} {d : Nat} (h : hexVal c = some d) : c ≠ 45 := by
  rintro rfl
  exact absurd h (by simp [hexVal])

theorem readOneByte_digits {a b : UInt8} {hi lo : Nat} (ha : hexVal a = some hi)
    (hb : hexVal b = some lo) (rest : StdString) :
    readOneByte (a :: b :: rest) = some (((hi * 16 + lo : Nat) : Int), rest) := by
  have hm := hexVal_ne_minus ha
  rw [readOneByte, fromChars16]
  · simp [ha, hb, strtolDigits]
  · rintro _ h
    exact hm (List.cons.inj h).1

variable {tag value text : StdString}

theorem IsTlv.length_even (h : IsTlv tag value text) : value.length % 2 = 0 := by
  obtain ⟨_, _, _, _, _, _, _, _⟩ := h
  omega

theorem IsTlv.length_eq (h : IsTlv tag value text) :
    text.length = tag.length + 2 + value.length := by
  obtain ⟨a, b, _, _, _, _, _, rfl⟩ := h
  simp only [length_append, length_cons]
  omega

theorem IsTlv.read (h : IsTlv tag value text) (rest : StdString) :
    tag.isPrefixOf (text ++ rest) ∧
      readOneByte ((text ++ rest).drop tag.length) =
        some (((value.length / 2 : Nat) : Int), value ++ rest) := by
  obtain ⟨a, b, _, _, ha, hb, hl, rfl⟩ := h
  refine ⟨by simp, ?_⟩
  rw [append_assoc, drop_left, cons_append, cons_append, readOneByte_digits ha hb]
  simp only [some.injEq, Prod.mk.injEq, and_true]
  omega

theorem IsTlv.parseSimpleTLV (h : IsTlv tag value text) (htg : tag.length = 2)
    (hexStr rest : StdString) :
    parseSimpleTLV hexStr (text ++ rest) =
      some ⟨tag, ((value.length / 2 : Nat) : Int), value, rest⟩ := by
  have hl := h.length_eq
  have hev := h.length_even
  have hr : readOneByte ((text ++ rest).drop TLV_STAG_CHARLEN) =
      some (((value.length / 2 : Nat) : Int), value ++ rest) := by
    have h2 := (h.read rest).2
    rw [htg] at h2
    exact h2
  have htk : (text ++ rest).take TLV_STAG_CHARLEN = tag := by
    obtain ⟨a, b, _, _, _, _, _, rfl⟩ := h
    rw [append_assoc]
    exact take_left' htg
  have hsz : (text ++ rest).length = 4 + value.length + rest.length := by
    rw [length_append, hl, htg]
  have hst : TLV_STAG_CHARLEN = 2 := rfl
  have hsl : TLV_LEN_CHARLEN = 2 := rfl
  rw [Privilege.parseSimpleTLV]
  simp only [hr]
  rw [if_neg (by omega), if_neg (by omega), if_neg (by omega)]
  have hc : (((value.length / 2 : Nat) : Int) + ((value.length / 2 : Nat) : Int)).toNat =
      value.length := by omega
  rw [htk, hc, take_left, advance, if_pos (by omega), hc, drop_left]

theorem packageNameByHexStr_isHex : ∀ {s : StdString}, IsHex s →
    ∃ name, packageNameByHexStr s = some name ∧ name.length = s.length / 2
  | [], _ => ⟨[], rfl, rfl⟩
  | [_], h => absurd h.1 (by simp)
  | a :: b :: rest, h => by
    obtain ⟨_, ha⟩ := isSome_iff_exists.1 (h.2 a (by simp))
    obtain ⟨_, hb⟩ := isSome_iff_exists.1 (h.2 b (by simp))
    have hr : IsHex rest :=
      ⟨by have := h.1; simp only [length_cons] at this; omega, fun c hc => h.2 c (by simp [hc])⟩
    obtain ⟨name, hn, hl⟩ := packageNameByHexStr_isHex hr
    have hv : ∃ value, fromChars16 [a, b] = some value := by
      have hby := readOneByte_digits ha hb []
      rw [readOneByte] at hby
      cases hch : fromChars16 [a, b] with
      | none => rw [hch] at hby; cases hby
      | some value => exact ⟨value, rfl⟩
    obtain ⟨value, hv⟩ := hv
    refine ⟨.ofInt value :: name, ?_, ?_⟩
    · simp [packageNameByHexStr, hv, hn]
    · simp only [length_cons]
      omega

theorem IsTlv.append_ne_nil (h : IsTlv tag value text) (rest : StdString) : text ++ rest ≠ [] := by
  obtain ⟨a, b, _, _, _, _, _, rfl⟩ := h
  simp

theorem IsTlv.counted (h : IsTlv tag value text) (ht : tag.length = 2) :
    ((value.length / 2 : Nat) : Int) + TLV_SIMPLE_TAG_ONEBYTE_LEN + TLV_SIMPLE_TAG_LENGTH_LEN =
      (text.length / 2 : Nat) := by
  rw [h.length_eq, ht, TLV_SIMPLE_TAG_ONEBYTE_LEN, TLV_SIMPLE_TAG_LENGTH_LEN]
  omega

/-! ## Rules are read back -/

/-- The package name that a rule leaves in the rule object: its own, or the one it found. -/
def packageAfter (packageName : StdString) (values : RuleValues) : StdString :=
  match values.package with
  | none => packageName
  | some name => (packageNameByHexStr name).getD []

def ruleAfter (packageName : StdString) (values : RuleValues) : IccOperatorRule :=
  ⟨packageAfter packageName values, values.certificate, values.limit⟩

variable {refDoLen totalLen : Int}

theorem certPkgLoop_done (hexStr : StdString) (turns : Nat) (it : StdString)
    (result : IccOperatorRule) (hl : refDoLen ≤ totalLen) :
    certPkgLoop hexStr refDoLen (turns + 1) it result true totalLen = some (it, result) := by
  rw [certPkgLoop, if_neg (by omega), if_pos rfl]

theorem certPkgLoop_certificate (hexStr : StdString) (turns : Nat)
    (ht : IsTlv TAG_CERTIFICATE value text) (rest : StdString) (result : IccOperatorRule)
    (hasCertificate : Bool) (hl : totalLen < refDoLen) :
    certPkgLoop hexStr refDoLen (turns + 1) (text ++ rest) result hasCertificate totalLen =
      certPkgLoop hexStr refDoLen turns rest { result with certificate := value } true
        (totalLen + (text.length / 2 : Nat)) := by
  rw [certPkgLoop, if_pos ⟨ht.append_ne_nil rest, hl⟩, ht.parseSimpleTLV rfl]
  simp only [if_true, ht.counted rfl]

theorem certPkgLoop_package (hexStr : StdString) (turns : Nat) {name : StdString}
    (ht : IsTlv TAG_PACKAGE value text) (hn : packageNameByHexStr value = some name)
    (rest : StdString) (result : IccOperatorRule) (hasCertificate : Bool)
    (hl : totalLen < refDoLen) :
    certPkgLoop hexStr refDoLen (turns + 1) (text ++ rest) result hasCertificate totalLen =
      certPkgLoop hexStr refDoLen turns rest { result with packageName := name } hasCertificate
        (totalLen + (text.length / 2 : Nat)) := by
  rw [certPkgLoop, if_pos ⟨ht.append_ne_nil rest, hl⟩, ht.parseSimpleTLV rfl]
  simp only [show TAG_PACKAGE ≠ TAG_CERTIFICATE by decide, if_false, if_true, hn, ht.counted rfl]

variable {values : RuleValues} {singles : List StdString}

theorem decodeTLVTagCertPkg_eq (hexStr : StdString) {cert pkg : StdString}
    (hce : IsTlv TAG_CERTIFICATE values.certificate cert) (hpg : match values.package with
      | none => pkg = []
      | some name => IsHex name ∧ IsTlv TAG_PACKAGE name pkg)
    (htx : IsTlv TAG_CERT_PKG (cert ++ pkg) text) (rest : StdString) (result : IccOperatorRule)
    (hrm : 2 ≤ hexStr.length) :
    decodeTLVTagCertPkg hexStr (text ++ rest) result =
      some (rest, { result with
        packageName := packageAfter result.packageName values
        certificate := values.certificate }) := by
  obtain ⟨htg, hrd⟩ := htx.read rest
  obtain ⟨turns, htr⟩ : ∃ turns, hexStr.length + 1 = turns + 3 := ⟨hexStr.length - 2, by omega⟩
  have hct := hce.length_eq
  have hcr := hce.length_even
  rw [decodeTLVTagCertPkg, htg, if_neg (by simp), hrd]
  simp only
  rw [htr, append_assoc]
  have hta : TAG_CERTIFICATE.length = 2 := rfl
  rw [certPkgLoop_certificate hexStr _ hce _ _ _ (by simp only [length_append]; omega)]
  cases hpk : values.package with
  | none =>
    rw [hpk] at hpg
    obtain rfl : pkg = [] := hpg
    rw [append_nil, nil_append, certPkgLoop_done _ _ _ _ (by omega), packageAfter, hpk]
  | some name =>
    rw [hpk] at hpg
    obtain ⟨hh, hnm⟩ := hpg
    obtain ⟨bytes, hbs, _⟩ := packageNameByHexStr_isHex hh
    have hnL := hnm.length_eq
    rw [certPkgLoop_package hexStr _ hnm hbs _ _ _
        (by simp only [length_append]; omega),
      certPkgLoop_done _ _ _ _ (by simp only [length_append]; omega), packageAfter, hpk]
    simp only [hbs, getD_some]

theorem decodeTLVTagLimits_eq (hexStr : StdString) {limit : StdString}
    (hlm : IsTlv TAG_LIMIT value limit) (htx : IsTlv TAG_LIMITS limit text)
    (rest : StdString) (result : IccOperatorRule) (hrm : 1 ≤ hexStr.length) :
    decodeTLVTagLimits hexStr (text ++ rest) result =
      some (rest, { result with accessLimit := value }) := by
  obtain ⟨htg, hrd⟩ := htx.read rest
  obtain ⟨turns, htr⟩ : ∃ turns, hexStr.length + 1 = turns + 2 := ⟨hexStr.length - 1, by omega⟩
  have hln := hlm.length_eq
  rw [decodeTLVTagLimits, htg, if_neg (by simp), hrd]
  simp only
  rw [htr, limitsLoop, if_pos ⟨hlm.append_ne_nil rest, by omega⟩, hlm.parseSimpleTLV rfl]
  simp only [if_true, hlm.counted rfl]
  rw [limitsLoop, if_neg (by omega), if_pos rfl]

theorem IsRule.decode (h : IsRule values text) (hexStr rest : StdString) (result : IccOperatorRule)
    (hrm : 2 ≤ hexStr.length) :
    decodeTLVTagRule hexStr (text ++ rest) result =
      some (rest, ruleAfter result.packageName values, ((text.length / 2 : Nat) : Int)) := by
  obtain ⟨hcr, hp, hrf, hli, hlm, hrl⟩ := h
  obtain ⟨ht, hrd⟩ := hrl.read rest
  have hcn := hrl.counted rfl
  rw [decodeTLVTagRule, ht, if_neg (by simp), hrd]
  simp only
  rw [append_assoc, decodeTLVTagCertPkg_eq hexStr hcr hp hrf _ _ hrm]
  simp only
  rw [decodeTLVTagLimits_eq hexStr hli hlm _ _ (by omega)]
  simp only [ruleAfter, some.injEq, Prod.mk.injEq, true_and]
  omega

theorem IsRule.length (h : IsRule values text) : 4 ≤ text.length ∧ text.length % 2 = 0 := by
  obtain ⟨_, _, _, _, _, hr⟩ := h
  have hl := hr.length_eq
  have he := hr.length_even
  have ht : TAG_RULE.length = 2 := rfl
  omega

/-- The rules the parser gives, `packageName` being in the rule object at the start. -/
def inherit : StdString → List RuleValues → List IccOperatorRule
  | _, [] => []
  | packageName, values :: rest =>
    ruleAfter packageName values :: inherit (packageAfter packageName values) rest

/-- The induction is on the rules; what is left of the length is what is left of the text. -/
theorem ruleLoop_eq {hexStr : StdString} (hrm : 2 ≤ hexStr.length) :
    ∀ {rules : List RuleValues} {texts : List StdString}, List.Forall₂ IsRule rules texts →
      ∀ turns rule totalLen result, rules.length < turns →
        ruleLoop hexStr (totalLen + ((texts.flatten.length / 2 : Nat) : Int)) turns texts.flatten
          rule totalLen result = result ++ inherit rule.packageName rules := by
  intro rules texts h
  induction h with
  | nil =>
    intro turns rule totalLen result ht
    obtain ⟨turns, rfl⟩ : ∃ m, turns = m + 1 := ⟨turns - 1, by omega⟩
    simp [ruleLoop, inherit]
  | @cons values text rules texts hrl hrs ih =>
    intro turns rule totalLen result ht
    rw [length_cons] at ht
    obtain ⟨turns, rfl⟩ : ∃ m, turns = m + 1 := ⟨turns - 1, by omega⟩
    obtain ⟨hl, _⟩ := hrl.length
    have hs : totalLen + (((text :: texts).flatten.length / 2 : Nat) : Int) =
        totalLen + ((text.length / 2 : Nat) : Int) + ((texts.flatten.length / 2 : Nat) : Int) := by
      rw [flatten_cons, length_append]
      omega
    have hne : text ++ texts.flatten ≠ [] := by
      intro hnl
      rw [(append_eq_nil_iff.1 hnl).1] at hl
      simp at hl
    rw [hs, flatten_cons, ruleLoop, if_pos ⟨hne, by omega⟩, hrl.decode hexStr _ rule hrm]
    simp only
    rw [ih turns _ _ _ (by omega), append_assoc]
    rfl

variable {rules : List RuleValues} {texts : List StdString}

theorem length_le_flatten (h : List.Forall₂ IsRule rules texts) :
    rules.length ≤ texts.flatten.length := by
  induction h with
  | nil => simp
  | cons hr _ ih =>
    have hl := hr.length.1
    rw [flatten_cons, length_append, length_cons]
    omega

theorem createFromTLV_eq {whole : StdString} (hrl : List.Forall₂ IsRule rules texts)
    (hwh : IsTlv TAG_ALL_RULE texts.flatten whole) :
    createFromTLV whole = some (inherit [] rules) := by
  obtain ⟨ht, hrd⟩ := hwh.read []
  rw [append_nil] at ht hrd
  have hln := hwh.length_eq
  have hc := length_le_flatten hrl
  have hrm : 2 ≤ whole.length := by omega
  have hlp := ruleLoop_eq hrm hrl (256 * (whole.length + 1)) {} 0 [] (by omega)
  rw [createFromTLV, ht, if_neg (by simp), hrd]
  simp only [append_nil]
  rw [Int.zero_add, nil_append] at hlp
  rw [hlp]

/-! ## Independence of the rules -/

/-- Every rule without a package name is preceded by none that has one, or the last of
these has an empty one. `packageName` is the last package name so far. -/
def NamesReset : StdString → List RuleValues → Prop
  | _, [] => True
  | packageName, values :: rest =>
    match values.package with
    | none => packageName = [] ∧ NamesReset packageName rest
    | some name => NamesReset name rest

theorem ruleAfter_eq_iff (packageName : StdString) (values : RuleValues) :
    ruleAfter packageName values = ruleAfter [] values ↔
      values.package = none → packageName = [] := by
  cases hp : values.package with
  | none | some name => simp [ruleAfter, packageAfter, hp]

theorem inherit_eq_iff (hrl : List.Forall₂ IsRule rules texts) :
    ∀ {name : StdString}, IsHex name →
      (inherit ((packageNameByHexStr name).getD []) rules = rules.map (ruleAfter []) ↔
        NamesReset name rules) := by
  induction hrl with
  | nil =>
    intro name _
    simp [inherit, NamesReset]
  | @cons values text rules texts hru hrs ih =>
    intro name hnm
    obtain ⟨_, hbs, hl⟩ := packageNameByHexStr_isHex hnm
    rw [inherit, map_cons, List.cons.injEq, ruleAfter_eq_iff, NamesReset]
    cases hpk : values.package with
    | none =>
      have hnl : (packageNameByHexStr name).getD [] = [] ↔ name = [] := by
        rw [hbs, getD_some, ← length_eq_zero_iff, hl, ← length_eq_zero_iff]
        have he := hnm.1
        omega
      rw [packageAfter, hpk]
      simp only [forall_const]
      rw [hnl, ih hnm]
    | some package =>
      obtain ⟨_, hpg, _, _, _, _⟩ := hru
      rw [hpk] at hpg
      rw [packageAfter, hpk]
      simp only [reduceCtorEq, false_implies, true_and]
      exact ih hpg.1

theorem createFromTLV_singles (hrl : List.Forall₂ IsRule rules texts)
    (hsn : List.Forall₂ (IsTlv TAG_ALL_RULE) texts singles) :
    List.Forall₂ (fun values single => createFromTLV single = some [ruleAfter [] values])
      rules singles := by
  induction hrl generalizing singles with
  | nil =>
    cases hsn
    exact .nil
  | @cons values text _ _ hru _ ih =>
    cases hsn with
    | cons hsg hrs =>
      have hf : [text].flatten = text := by simp
      exact .cons (createFromTLV_eq (.cons hru .nil) (hf.symm ▸ hsg)) (ih hrs)

theorem forall₂_singles_iff
    (ha : List.Forall₂ (fun values single => createFromTLV single = some [ruleAfter [] values])
      rules singles) (parsed : List IccOperatorRule) :
    List.Forall₂ (fun single rule => createFromTLV single = some [rule]) singles parsed ↔
      parsed = rules.map (ruleAfter []) := by
  induction ha generalizing parsed with
  | nil => simp
  | cons ho _ ih =>
    cases parsed with
    | nil => simp
    | cons rule parsed =>
      rw [forall₂_cons, ih, ho, map_cons, List.cons.injEq]
      simp [eq_comm]

/-- **Rules are parsed independently** of each other, each as if it were alone, exactly
when no rule finds a package name it does not have itself. -/
theorem createFromTLV_compositional_iff {rules : List RuleValues} {texts singles : List StdString}
    {whole : StdString} (hrules : List.Forall₂ IsRule rules texts)
    (hwhole : IsTlv TAG_ALL_RULE texts.flatten whole)
    (hsingles : List.Forall₂ (IsTlv TAG_ALL_RULE) texts singles) :
    (∃ parsed, createFromTLV whole = some parsed ∧
        List.Forall₂ (fun single rule => createFromTLV single = some [rule]) singles parsed) ↔
      NamesReset [] rules := by
  have hal := createFromTLV_singles hrules hsingles
  have hin : inherit [] rules = rules.map (ruleAfter []) ↔ NamesReset [] rules :=
    inherit_eq_iff hrules isHex_nil
  rw [← hin, createFromTLV_eq hrules hwhole]
  simp only [forall₂_singles_iff hal, some.injEq, exists_eq_left']

def tlv (tag value : StdString) : StdString := tag ++ streamHex 2 (value.length / 2) ++ value

theorem isTlv_tlv (hv : value.length % 2 = 0 ∧ value.length ≤ 510) :
    IsTlv tag value (tlv tag value) := by
  have hdg := streamHex_byte (.ofNat (value.length / 2))
  rw [UInt8.toNat_ofNat', Nat.mod_eq_of_lt (by omega)] at hdg
  refine ⟨_, _, value.length / 2 / 16, value.length / 2 % 16, hexVal_hexDigit _ (by omega),
    hexVal_hexDigit _ (by omega), by omega, ?_⟩
  rw [tlv, show streamHex 2 (value.length / 2) = _ from hdg, append_assoc]
  rfl

def ruleText (values : RuleValues) : StdString :=
  let pkg := match values.package with
    | none => []
    | some name => tlv TAG_PACKAGE name
  tlv TAG_RULE (tlv TAG_CERT_PKG (tlv TAG_CERTIFICATE values.certificate ++ pkg) ++
    tlv TAG_LIMITS (tlv TAG_LIMIT values.limit))

def namedRule : RuleValues := ⟨ascii "11", some (ascii "6162"), ascii "01"⟩
def plainRule : RuleValues := ⟨ascii "22", none, ascii "01"⟩

theorem isRule_namedRule : IsRule namedRule (ruleText namedRule) :=
  .intro (isTlv_tlv (by decide +kernel))
    ⟨⟨rfl, all_iff_forall_prop.1 (by decide +kernel)⟩, isTlv_tlv (by decide +kernel)⟩
    (isTlv_tlv (by decide +kernel)) (isTlv_tlv (by decide +kernel)) (isTlv_tlv (by decide +kernel))
    (isTlv_tlv (by decide +kernel))

theorem isRule_plainRule : IsRule plainRule (ruleText plainRule) :=
  @IsRule.intro plainRule _ _ [] _ _ _ (isTlv_tlv (by decide +kernel)) rfl
    (isTlv_tlv (by decide +kernel)) (isTlv_tlv (by decide +kernel)) (isTlv_tlv (by decide +kernel))
    (isTlv_tlv (by decide +kernel))

/-- **A rule inherits a package name**: the second of these rules has none and gets none
when it is alone, but behind the first it gets that one's. -/
theorem package_name_inherited :
    List.Forall₂ IsRule [namedRule, plainRule] [ruleText namedRule, ruleText plainRule] ∧
      createFromTLV (tlv TAG_ALL_RULE (ruleText namedRule ++ ruleText plainRule)) =
        some [⟨ascii "ab", ascii "11", ascii "01"⟩, ⟨ascii "ab", ascii "22", ascii "01"⟩] ∧
      createFromTLV (tlv TAG_ALL_RULE (ruleText plainRule)) = some [⟨[], ascii "22", ascii "01"⟩] :=
  ⟨.cons isRule_namedRule (.cons isRule_plainRule .nil), by decide +kernel, by decide +kernel⟩

/-- In the other order each rule is parsed as if it were alone. -/
theorem createFromTLV_compositional_plain_first :
    ∃ parsed, createFromTLV (tlv TAG_ALL_RULE
        [ruleText plainRule, ruleText namedRule].flatten) = some parsed ∧
      List.Forall₂ (fun single rule => createFromTLV single = some [rule])
        [tlv TAG_ALL_RULE (ruleText plainRule), tlv TAG_ALL_RULE (ruleText namedRule)] parsed :=
  (createFromTLV_compositional_iff (.cons isRule_plainRule (.cons isRule_namedRule .nil))
    (isTlv_tlv (by decide +kernel))
    (.cons (isTlv_tlv (by decide +kernel))
      (.cons (isTlv_tlv (by decide +kernel)) .nil))).2 ⟨rfl, trivial⟩

end TelephonyCore.Privilege
