import TelephonyCore.Privilege.OperatorRule

/-!
# Where the rules of the operator are taken from

The objects that `CreateFromTLV` goes through follow each other in the text, whatever their lengths
say about which is inside which: E1 is looked for behind the length of E2, E3 where the objects of
E1 end, and the next rule where those of E3 end.

`ruleObjects` are the objects that a rule is taken from, with their places. `RulesRun` is a run of
the loop that comes to an end and whose iterators stay in the text.
-/

namespace TelephonyCore.Privilege

open Codec List

/-! ## Objects of a text -/

/-- Where its tag starts, the two characters of its length and what `std::from_chars` makes of them,
and the text that it covers behind. -/
structure TlvObject where
  start : Int
  tag : StdString
  lenText : StdString
  len : Int
  value : StdString
deriving DecidableEq

namespace TlvObject

def valueStart (o : TlvObject) : Int := o.start + o.tag.length + TLV_LEN_CHARLEN

def finish (o : TlvObject) : Int := o.valueStart + 2 * o.len

/-- The whole object is inside the value of another. -/
def Inside (o outer : TlvObject) : Prop := outer.valueStart ≤ o.start ∧ o.finish ≤ outer.finish

instance (o outer : TlvObject) : Decidable (o.Inside outer) :=
  inferInstanceAs (Decidable (_ ∧ _))

def OfText (hexStr : StdString) (o : TlvObject) : Prop :=
  o.tag ++ (o.lenText ++ o.value) <+: hexStr.drop o.start.toNat

end TlvObject

def place (hexStr it : StdString) : Int := hexStr.length - it.length

def objectAt (hexStr it : StdString) (tagLen : Nat) : TlvObject :=
  let len := ((readOneByte (it.drop tagLen)).map Prod.fst).getD 0
  { start := place hexStr it
    tag := it.take tagLen
    lenText := (it.drop tagLen).take TLV_LEN_CHARLEN
    len
    value := (it.drop (tagLen + TLV_LEN_CHARLEN)).take (len + len).toNat }

abbrev simpleAt (hexStr it : StdString) : TlvObject := objectAt hexStr it TLV_STAG_CHARLEN

/-- The objects that the loops in E1 and E3 go through, and where the loop ends. -/
def objectsRead (hexStr : StdString) (len : Int) :
    Nat → StdString → Int → List TlvObject × StdString
  | 0, it, _ => ([], it)
  | turns + 1, it, totalLen =>
    if it ≠ [] ∧ totalLen < len then
      match parseSimpleTLV hexStr it with
      | none => ([], it)
      | some tlv =>
        let rest := objectsRead hexStr len turns tlv.it
          (totalLen + (tlv.len + TLV_SIMPLE_TAG_ONEBYTE_LEN + TLV_SIMPLE_TAG_LENGTH_LEN))
        (simpleAt hexStr it :: rest.1, rest.2)
    else ([], it)

/-- What the loops count for objects. -/
def counted (objects : List TlvObject) : Int :=
  (objects.map fun o =>
    o.len + TLV_SIMPLE_TAG_ONEBYTE_LEN + TLV_SIMPLE_TAG_LENGTH_LEN).sum

/-- The objects of a rule: E2, E1 and E3, and those in E1 and E3. -/
structure RuleObjects where
  rule : TlvObject
  certPkg : TlvObject
  certPkgObjects : List TlvObject
  limits : TlvObject
  limitsObjects : List TlvObject
deriving DecidableEq

def RuleObjects.objects (t : RuleObjects) : List TlvObject :=
  [t.rule, t.certPkg, t.limits] ++ (t.certPkgObjects ++ t.limitsObjects)

def ruleObjects (hexStr it : StdString) : RuleObjects :=
  let behind := fun it : StdString => it.drop (TLV_STAG_CHARLEN + TLV_LEN_CHARLEN)
  let certPkg := simpleAt hexStr (behind it)
  let certPkgRead := objectsRead hexStr certPkg.len (hexStr.length + 1) (behind (behind it)) 0
  let limits := simpleAt hexStr certPkgRead.2
  let limitsRead := objectsRead hexStr limits.len (hexStr.length + 1) (behind certPkgRead.2) 0
  { rule := simpleAt hexStr it
    certPkg
    certPkgObjects := certPkgRead.1
    limits
    limitsObjects := limitsRead.1 }

/-! ## Runs -/

/-- No iterator moves before the beginning of the text. -/
def loopDefined (hexStr : StdString) (fails : SimpleTlv → Bool) (len : Int) :
    Nat → StdString → Int → Bool
  | 0, _, _ => false
  | turns + 1, it, totalLen =>
    if it ≠ [] ∧ totalLen < len then
      match parseSimpleTLV hexStr it with
      | none => true
      | some tlv =>
        0 ≤ (simpleAt hexStr it).finish &&
          (fails tlv || loopDefined hexStr fails len turns tlv.it
            (totalLen + (tlv.len + TLV_SIMPLE_TAG_ONEBYTE_LEN + TLV_SIMPLE_TAG_LENGTH_LEN)))
    else true

/-- The loop in E1 is left for a package name that cannot be read. -/
def nameFails (tlv : SimpleTlv) : Bool :=
  tlv.tagName = TAG_PACKAGE && (packageNameByHexStr tlv.value).isNone

def objectDefined (hexStr tag : StdString) (fails : SimpleTlv → Bool) (it : StdString) : Bool :=
  if !tag.isPrefixOf it then true
  else
    match readOneByte (it.drop tag.length) with
    | none => true
    | some (len, it) => loopDefined hexStr fails len (hexStr.length + 1) it 0

def ruleDefined (hexStr it : StdString) (result : IccOperatorRule) : Bool :=
  if !TAG_RULE.isPrefixOf it then true
  else
    match readOneByte (it.drop TAG_RULE.length) with
    | none => true
    | some (_, it) =>
      objectDefined hexStr TAG_CERT_PKG nameFails it &&
        match decodeTLVTagCertPkg hexStr it result with
        | none => true
        | some (it, _) => objectDefined hexStr TAG_LIMITS (fun _ => false) it

/-- The loop of `CreateFromTLV` comes to an end, having taken these rules from these objects. -/
inductive RulesRun (hexStr : StdString) (len : Int) :
    StdString → IccOperatorRule → Int → List (RuleObjects × IccOperatorRule) → Prop
  | stop {it rule totalLen} (hend : ¬(it ≠ [] ∧ totalLen < len)) :
    RulesRun hexStr len it rule totalLen []
  | fail {it rule totalLen} (hturn : it ≠ [] ∧ totalLen < len)
    (hdefined : ruleDefined hexStr it rule = true)
    (hfail : decodeTLVTagRule hexStr it rule = none) :
    RulesRun hexStr len it rule totalLen []
  | turn {it rule totalLen it' rule' ruleLen run} (hturn : it ≠ [] ∧ totalLen < len)
    (hdefined : ruleDefined hexStr it rule = true)
    (hrule : decodeTLVTagRule hexStr it rule = some (it', rule', ruleLen))
    (hrest : RulesRun hexStr len it' rule' (totalLen + ruleLen) run) :
    RulesRun hexStr len it rule totalLen ((ruleObjects hexStr it, rule') :: run)

def allRules (hexStr : StdString) : TlvObject := objectAt hexStr hexStr TAG_ALL_RULE.length

structure ReturnsRules (hexStr : StdString) (run : List (RuleObjects × IccOperatorRule)) :
    Prop where
  tagged : TAG_ALL_RULE.isPrefixOf hexStr = true
  run : ∃ len it, readOneByte (hexStr.drop TAG_ALL_RULE.length) = some (len, it) ∧
    RulesRun hexStr len it {} 0 run

variable {hexStr it : StdString}
  {len : Int} {rule : IccOperatorRule} {run : List (RuleObjects × IccOperatorRule)}
  {rest : StdString} {turns : Nat} {hasCertificate : Bool}

/-- As long as `createFromTLV` has turns for them. -/
theorem ruleLoop_of_run {totalLen : Int} (h : RulesRun hexStr len it rule totalLen run) :
    ∀ turns result, run.length < turns →
      ruleLoop hexStr len turns it rule totalLen result = result ++ run.map Prod.snd := by
  induction h with
  | stop hen =>
    intro turns result htr
    obtain ⟨turns, rfl⟩ := Nat.exists_eq_add_of_lt htr
    rw [length_nil, ruleLoop, if_neg hen]
    simp
  | fail htn _ hf =>
    intro turns result htr
    obtain ⟨turns, rfl⟩ := Nat.exists_eq_add_of_lt htr
    rw [length_nil, ruleLoop, if_pos htn, hf]
    simp
  | @turn it rule totalLen it' rule' ruleLen run htn _ hr _ ih =>
    intro turns result htr
    rw [length_cons] at htr
    obtain ⟨turns, rfl⟩ : ∃ m, turns = m + 1 := ⟨turns - 1, by omega⟩
    rw [ruleLoop, if_pos htn, hr]
    simp only
    rw [ih turns _ (by omega), append_assoc]
    rfl

theorem ReturnsRules.createFromTLV_eq (h : ReturnsRules hexStr run)
    (ht : run.length < 256 * (hexStr.length + 1)) :
    createFromTLV hexStr = some (run.map Prod.snd) := by
  obtain ⟨_, _, hrd, hrn⟩ := h.run
  rw [createFromTLV, h.tagged, if_neg (by simp), hrd]
  simp only
  rw [ruleLoop_of_run hrn _ _ ht, nil_append]

/-! ## Where a rule comes from -/

def lastWith (tag : StdString) (objects : List TlvObject) : Option TlvObject :=
  objects.reverse.find? (·.tag = tag)

/-- Without an object CA the package name is the one that was there before. -/
structure TakenFrom (hexStr : StdString) (t : RuleObjects) (rule : IccOperatorRule) : Prop where
  ofText : ∀ o ∈ t.objects, o.OfText hexStr
  tags : t.rule.tag = TAG_RULE ∧ t.certPkg.tag = TAG_CERT_PKG ∧ t.limits.tag = TAG_LIMITS
  certificate : ∃ o, lastWith TAG_CERTIFICATE t.certPkgObjects = some o ∧ rule.certificate = o.value
  packageName : ∀ o, lastWith TAG_PACKAGE t.certPkgObjects = some o →
    packageNameByHexStr o.value = some rule.packageName
  accessLimit : ∃ o, lastWith TAG_LIMIT t.limitsObjects = some o ∧ rule.accessLimit = o.value

/-! ## Reading an object -/

theorem readOneByte_eq_some {s : StdString} (h : readOneByte s = some (len, rest)) :
    2 ≤ s.length ∧ rest = s.drop 2 := by
  match s, h with
  | a :: b :: rest', h =>
    obtain ⟨_, -, hr⟩ := Option.map_eq_some_iff.1 h
    exact ⟨by simp, ((Prod.mk.inj hr).2).symm⟩

theorem objectAt_of_read (hexStr : StdString) {tagLen : Nat}
    (h : readOneByte (it.drop tagLen) = some (len, rest)) :
    (objectAt hexStr it tagLen).len = len ∧ tagLen + 2 ≤ it.length ∧ rest = it.drop (tagLen + 2) ∧
      (objectAt hexStr it tagLen).valueStart = place hexStr it + tagLen + 2 := by
  obtain ⟨hl, hr⟩ := readOneByte_eq_some h
  rw [length_drop] at hl
  refine ⟨?_, by omega, by rw [hr, drop_drop], ?_⟩
  · rw [objectAt, h]
    rfl
  · have ht : (it.take tagLen).length = tagLen := length_take_of_le (by omega)
    rw [TlvObject.valueStart, objectAt, ht]
    rfl

theorem objectAt_ofText (hit : it <:+ hexStr) (tagLen : Nat) :
    (objectAt hexStr it tagLen).OfText hexStr := by
  have hpl : (place hexStr it).toNat = hexStr.length - it.length := by
    rw [place]
    omega
  have hdr : hexStr.drop (place hexStr it).toNat = it := by
    rw [hpl]
    exact (suffix_iff_eq_drop.1 hit).symm
  rw [TlvObject.OfText]
  simp only [objectAt, hdr]
  rw [← drop_drop, ← take_add, ← take_add]
  exact take_prefix _ _

theorem parseSimpleTLV_eq_some {tlv : SimpleTlv} (h : parseSimpleTLV hexStr it = some tlv) :
    ∃ rest, readOneByte (it.drop TLV_STAG_CHARLEN) = some (tlv.len, rest) ∧
      4 + 2 * tlv.len ≤ it.length ∧
      tlv.tagName = (simpleAt hexStr it).tag ∧
      tlv.value = (simpleAt hexStr it).value ∧
      tlv.it = advance hexStr rest (tlv.len + tlv.len) := by
  rw [parseSimpleTLV] at h
  simp only at h
  split at h
  · cases h
  split at h
  · cases h
  split at h
  · cases h
  · rename_i len rest hrd
    split at h
    · cases h
    · rename_i hrm
      cases h
      obtain ⟨_, -, hrs, -⟩ := objectAt_of_read hexStr hrd
      refine ⟨rest, hrd, ?_, rfl, ?_, rfl⟩
      · rw [TLV_STAG_CHARLEN, TLV_LEN_CHARLEN] at hrm
        simp only
        omega
      · simp only [objectAt, hrd]
        rw [hrs]
        rfl

theorem advance_suffix (hit : it <:+ hexStr) (n : Int) : advance hexStr it n <:+ hexStr := by
  rw [advance]
  split
  · exact (drop_suffix _ _).trans hit
  · exact drop_suffix _ _

section Parse

variable {hexStr it : StdString} {tlv : SimpleTlv} (h : parseSimpleTLV hexStr it = some tlv)
include h

theorem len_of_parse : tlv.len = (simpleAt hexStr it).len := by
  obtain ⟨_, hr, -⟩ := parseSimpleTLV_eq_some h
  exact (objectAt_of_read hexStr hr).1.symm

theorem suffix_of_parse (hit : it <:+ hexStr) : tlv.it <:+ hexStr := by
  obtain ⟨_, hr, -, -, -, hn⟩ := parseSimpleTLV_eq_some h
  rw [hn]
  apply advance_suffix
  rw [(objectAt_of_read hexStr hr).2.2.1]
  exact (drop_suffix _ _).trans hit

end Parse

/-! ## The objects in E1 and E3 -/

theorem count_eq (len : Int) :
    len + TLV_SIMPLE_TAG_ONEBYTE_LEN + TLV_SIMPLE_TAG_LENGTH_LEN = len + 2 :=
  Int.add_assoc ..

theorem counted_cons (o : TlvObject) (os : List TlvObject) :
    counted (o :: os) = o.len + 2 + counted os := by
  rw [counted, map_cons, sum_cons, count_eq]
  rfl

/-- A loop goes through these objects, and ends at an iterator. -/
inductive ObjectsRun (hexStr : StdString) (len : Int) :
    StdString → Int → List TlvObject → StdString → Prop
  | stop {it totalLen} : ObjectsRun hexStr len it totalLen [] it
  | turn {it totalLen tlv objects last} (hparse : parseSimpleTLV hexStr it = some tlv)
    (hlt : totalLen < len)
    (hrest : ObjectsRun hexStr len tlv.it (totalLen + (tlv.len + 2)) objects last) :
    ObjectsRun hexStr len it totalLen (simpleAt hexStr it :: objects) last

section Objects

variable {hexStr it last : StdString} {len totalLen : Int} {objects : List TlvObject}

theorem objectsRead_turn {tlv : SimpleTlv} (ht : it ≠ [] ∧ totalLen < len)
    (hp : parseSimpleTLV hexStr it = some tlv)
    (hr : objectsRead hexStr len turns tlv.it (totalLen + (tlv.len + 2)) = (objects, last)) :
    objectsRead hexStr len (turns + 1) it totalLen = (simpleAt hexStr it :: objects, last) := by
  rw [objectsRead, if_pos ht, hp]
  simp only [count_eq, hr]

theorem objectsRun_of_read (h : objectsRead hexStr len turns it totalLen = (objects, last)) :
    ObjectsRun hexStr len it totalLen objects last := by
  induction turns generalizing it totalLen objects with
  | zero =>
    cases h
    exact .stop
  | succ turns ih =>
    rw [objectsRead] at h
    split at h
    · rename_i ht
      split at h
      · cases h
        exact .stop
      · rename_i tlv hp
        simp only [count_eq] at h
        cases h
        exact .turn hp ht.2 (ih rfl)
    · cases h
      exact .stop

theorem ObjectsRun.ofText (h : ObjectsRun hexStr len it totalLen objects last)
    (hit : it <:+ hexStr) : (∀ o ∈ objects, o.OfText hexStr) ∧ last <:+ hexStr := by
  induction h with
  | stop => exact ⟨by simp, hit⟩
  | turn hp _ _ ih =>
    obtain ⟨hr, hl⟩ := ih (suffix_of_parse hp hit)
    exact ⟨forall_mem_cons.2 ⟨objectAt_ofText hit _, hr⟩, hl⟩

end Objects

/-! ## Rules come from their objects -/

theorem lastWith_cons (tag : StdString) (o : TlvObject) (os : List TlvObject) :
    lastWith tag (o :: os) = (lastWith tag os).or (if o.tag = tag then some o else none) := by
  rw [lastWith, reverse_cons, find?_append, ← lastWith, find?_singleton]
  simp only [decide_eq_true_iff]

theorem isSome_lastWith_cons (tag : StdString) (o : TlvObject) (os : List TlvObject) :
    (lastWith tag (o :: os)).isSome ↔ o.tag = tag ∨ (lastWith tag os).isSome := by
  rw [lastWith_cons, Option.isSome_or, Bool.or_eq_true, or_comm]
  split <;> simp [*]

/-- That of the last object with the tag, or what it was before. -/
def valueAfter (tag : StdString) (objects : List TlvObject) (before : StdString) : StdString :=
  ((lastWith tag objects).map (·.value)).getD before

theorem valueAfter_cons (tag : StdString) (o : TlvObject) (os : List TlvObject)
    (before : StdString) :
    valueAfter tag (o :: os) before =
      valueAfter tag os (if o.tag = tag then o.value else before) := by
  rw [valueAfter, lastWith_cons, valueAfter]
  cases lastWith tag os with
  | some last => rfl
  | none => split <;> rfl

def NameAfter (objects : List TlvObject) (before name : StdString) : Prop :=
  match lastWith TAG_PACKAGE objects with
  | some o => packageNameByHexStr o.value = some name
  | none => name = before

theorem nameAfter_cons {o : TlvObject} {os : List TlvObject} {before middle name : StdString}
    (h : NameAfter os middle name)
    (hm : if o.tag = TAG_PACKAGE then packageNameByHexStr o.value = some middle
      else middle = before) : NameAfter (o :: os) before name := by
  rw [NameAfter, lastWith_cons]
  rw [NameAfter] at h
  cases hl : lastWith TAG_PACKAGE os with
  | some last =>
    rw [hl] at h
    exact h
  | none =>
    rw [hl] at h
    obtain rfl : name = middle := h
    by_cases ht : o.tag = TAG_PACKAGE
    · rw [if_pos ht] at hm ⊢
      exact hm
    · rw [if_neg ht] at hm ⊢
      exact hm

section Loops

variable (hexStr : StdString) (len : Int) {it it' : StdString} {result result' : IccOperatorRule}

theorem certPkgLoop_turn {totalLen : Int} (htr : it ≠ [] ∧ totalLen < len)
    (h : certPkgLoop hexStr len (turns + 1) it result hasCertificate totalLen =
      some (it', result')) :
    ∃ tlv result₁ hasCertificate₁, parseSimpleTLV hexStr it = some tlv ∧
      certPkgLoop hexStr len turns tlv.it result₁ hasCertificate₁ (totalLen + (tlv.len + 2)) =
        some (it', result') ∧
      (hasCertificate₁ → hasCertificate ∨ (simpleAt hexStr it).tag = TAG_CERTIFICATE) ∧
      result₁.certificate = (if (simpleAt hexStr it).tag = TAG_CERTIFICATE then
        (simpleAt hexStr it).value else result.certificate) ∧
      (if (simpleAt hexStr it).tag = TAG_PACKAGE then
        packageNameByHexStr (simpleAt hexStr it).value = some result₁.packageName
        else result₁.packageName = result.packageName) := by
  rw [certPkgLoop, if_pos htr] at h
  split at h
  · cases h
  rename_i tlv hpr
  obtain ⟨-, -, -, htg, hv, -⟩ := parseSimpleTLV_eq_some hpr
  simp only [count_eq, htg, hv] at h
  by_cases hc : (simpleAt hexStr it).tag = TAG_CERTIFICATE
  · rw [if_pos hc] at h
    have hpk : ¬(simpleAt hexStr it).tag = TAG_PACKAGE := by
      rw [hc]
      decide
    refine ⟨tlv, _, _, hpr, h, fun _ => .inr hc, ?_, ?_⟩
    · rw [if_pos hc]
    · rw [if_neg hpk]
  rw [if_neg hc] at h
  by_cases hpk : (simpleAt hexStr it).tag = TAG_PACKAGE
  · rw [if_pos hpk] at h
    split at h
    · cases h
    · rename_i name hn
      refine ⟨tlv, _, _, hpr, h, .inl, ?_, ?_⟩
      · rw [if_neg hc]
      · rw [if_pos hpk, hn]
  · rw [if_neg hpk] at h
    refine ⟨tlv, _, _, hpr, h, .inl, ?_, ?_⟩
    · rw [if_neg hc]
    · rw [if_neg hpk]

theorem certPkgLoop_objects (turns : Nat) {totalLen : Int}
    (h : certPkgLoop hexStr len turns it result hasCertificate totalLen = some (it', result')) :
    ∃ objects, objectsRead hexStr len turns it totalLen = (objects, it') ∧
      ¬(it' ≠ [] ∧ totalLen + counted objects < len) ∧
      (hasCertificate ∨ (lastWith TAG_CERTIFICATE objects).isSome) ∧
      result'.certificate = valueAfter TAG_CERTIFICATE objects result.certificate ∧
      NameAfter objects result.packageName result'.packageName := by
  induction turns generalizing it result hasCertificate totalLen with
  | zero => cases h
  | succ turns ih =>
    by_cases ht : it ≠ [] ∧ totalLen < len
    · obtain ⟨_, _, _, hp, hrs, _, hc, hna⟩ := certPkgLoop_turn hexStr len ht h
      obtain ⟨objects, hrd, hen, _, hv, hnm⟩ := ih hrs
      refine ⟨_, objectsRead_turn ht hp hrd, ?_, ?_, ?_, nameAfter_cons hnm hna⟩
      · rw [counted_cons, ← len_of_parse hp, ← Int.add_assoc]
        exact hen
      · rw [isSome_lastWith_cons]
        tauto
      · rw [hv, valueAfter_cons, hc]
    · rw [certPkgLoop, if_neg ht] at h
      split at h
      · rename_i hc
        cases h
        refine ⟨[], by rw [objectsRead, if_neg ht], ?_, .inl hc, rfl, rfl⟩
        rw [counted, map_nil, sum_nil, Int.add_zero]
        exact ht
      · cases h

theorem limitsLoop_objects (turns : Nat) {isReadTagPermArDo : Bool} {totalLen : Int}
    (h : limitsLoop hexStr len turns it result isReadTagPermArDo totalLen = some (it', result')) :
    ∃ objects, objectsRead hexStr len turns it totalLen = (objects, it') ∧
      (isReadTagPermArDo ∨ (lastWith TAG_LIMIT objects).isSome) ∧
      result' = { result with accessLimit := valueAfter TAG_LIMIT objects result.accessLimit } := by
  induction turns generalizing it result isReadTagPermArDo totalLen with
  | zero => cases h
  | succ turns ih =>
    rw [limitsLoop] at h
    by_cases htr : it ≠ [] ∧ totalLen < len
    · rw [if_pos htr] at h
      split at h
      · cases h
      rename_i tlv hp
      obtain ⟨-, -, -, htg, hv, -⟩ := parseSimpleTLV_eq_some hp
      simp only [count_eq, htg, hv] at h
      by_cases hl : (simpleAt hexStr it).tag = TAG_LIMIT
      · rw [if_pos hl] at h
        obtain ⟨objects, hrd, -, hrs⟩ := ih h
        refine ⟨_, objectsRead_turn htr hp hrd, ?_, ?_⟩
        · exact .inr ((isSome_lastWith_cons ..).2 (.inl hl))
        · rw [valueAfter_cons, if_pos hl, hrs]
      · rw [if_neg hl] at h
        obtain ⟨objects, hrd, hfd, hrs⟩ := ih h
        refine ⟨_, objectsRead_turn htr hp hrd, ?_, ?_⟩
        · exact hfd.imp_right fun h => (isSome_lastWith_cons ..).2 (.inr h)
        · rw [valueAfter_cons, if_neg hl, hrs]
    · rw [if_neg htr] at h
      split at h
      · rename_i hrd
        cases h
        exact ⟨[], by rw [objectsRead, if_neg htr], .inl hrd, rfl⟩
      · cases h

end Loops

variable {it : StdString}

theorem header_of_read (hexStr : StdString) {tag : StdString} (hta : tag.isPrefixOf it)
    (htg : tag.length = TLV_STAG_CHARLEN)
    (hrd : readOneByte (it.drop tag.length) = some (len, rest)) : (simpleAt hexStr it).tag = tag ∧
      (simpleAt hexStr it).len = len ∧ (simpleAt hexStr it).valueStart = place hexStr it + 4 ∧
      rest = it.drop 4 ∧ place hexStr rest = place hexStr it + 4 := by
  rw [htg] at hrd
  obtain ⟨hl, _, hrs, hv⟩ := objectAt_of_read hexStr hrd
  have hs : TLV_STAG_CHARLEN = 2 := rfl
  refine ⟨?_, hl, hv.trans (by omega), hrs, ?_⟩
  · show it.take TLV_STAG_CHARLEN = tag
    rw [← htg]
    exact (prefix_iff_eq_take.1 (List.isPrefixOf_iff_prefix.1 hta)).symm
  · rw [hrs, place, place, length_drop]
    omega

/-- `DecodeTLVTagCertPkg` has returned true. -/
structure CertPkgRead (hexStr it it' : StdString) (result result' : IccOperatorRule)
    (certPkg : TlvObject) (objects : List TlvObject) : Prop where
  tag : certPkg.tag = TAG_CERT_PKG
  value : certPkg.valueStart = place hexStr it + 4
  counts : ¬(it' ≠ [] ∧ counted objects < certPkg.len)
  found : (lastWith TAG_CERTIFICATE objects).isSome = true
  certificate : result'.certificate = valueAfter TAG_CERTIFICATE objects result.certificate
  packageName : NameAfter objects result.packageName result'.packageName

variable {hexStr it' : StdString} {result result' : IccOperatorRule}

theorem decodeTLVTagCertPkg_read (h : decodeTLVTagCertPkg hexStr it result = some (it', result')) :
    ∃ objects, objectsRead hexStr (simpleAt hexStr it).len (hexStr.length + 1) (it.drop 4) 0 =
        (objects, it') ∧ place hexStr (it.drop 4) = place hexStr it + 4 ∧
      CertPkgRead hexStr it it' result result' (simpleAt hexStr it) objects := by
  rw [decodeTLVTagCertPkg] at h
  split at h
  · cases h
  rename_i ht
  split at h
  · cases h
  rename_i len rest hr
  obtain ⟨ht, hl, hv, rfl, hpl⟩ := header_of_read hexStr (by simpa using ht) rfl hr
  obtain ⟨objects, ho, hen, hfd, hc, hn⟩ := certPkgLoop_objects hexStr len _ h
  rw [Int.zero_add, ← hl] at hen
  exact ⟨objects, hl ▸ ho, hpl, ht, hv, hen, by simpa using hfd, hc, hn⟩

/-- `DecodeTLVTagLimits` has returned true. -/
structure LimitsRead (hexStr it : StdString) (result result' : IccOperatorRule)
    (limits : TlvObject) (objects : List TlvObject) : Prop where
  tag : limits.tag = TAG_LIMITS
  value : limits.valueStart = place hexStr it + 4
  ne_nil : it ≠ []
  found : (lastWith TAG_LIMIT objects).isSome = true
  result_eq : result' =
    { result with accessLimit := valueAfter TAG_LIMIT objects result.accessLimit }

theorem decodeTLVTagLimits_read (h : decodeTLVTagLimits hexStr it result = some (it', result')) :
    ∃ objects, objectsRead hexStr (simpleAt hexStr it).len (hexStr.length + 1) (it.drop 4) 0 =
        (objects, it') ∧ place hexStr (it.drop 4) = place hexStr it + 4 ∧
      LimitsRead hexStr it result result' (simpleAt hexStr it) objects := by
  rw [decodeTLVTagLimits] at h
  split at h
  · cases h
  rename_i ht
  split at h
  · cases h
  rename_i len rest hrd
  have hne : it ≠ [] := by
    rintro rfl
    exact ht rfl
  obtain ⟨ht, hl, hv, rfl, hpl⟩ := header_of_read hexStr (by simpa using ht) rfl hrd
  obtain ⟨objects, ho, hfd, hrs⟩ := limitsLoop_objects hexStr len _ h
  exact ⟨objects, hl ▸ ho, hpl, ht, hv, hne, by simpa using hfd, hrs⟩

/-- `DecodeTLVTagRule` has returned true; `itLimits` is where E3 starts. -/
structure RuleRead (hexStr it it' itLimits : StdString) (result middle result' : IccOperatorRule)
    (t : RuleObjects) : Prop where
  tag : t.rule.tag = TAG_RULE
  rule : t.rule = simpleAt hexStr it
  certPkg : t.certPkg = simpleAt hexStr (it.drop 4)
  limits : t.limits = simpleAt hexStr itLimits
  certPkgObjects : ObjectsRun hexStr t.certPkg.len ((it.drop 4).drop 4) 0 t.certPkgObjects itLimits
  limitsObjects : ObjectsRun hexStr t.limits.len (itLimits.drop 4) 0 t.limitsObjects it'
  places : t.rule.valueStart = place hexStr it + 4 ∧
    place hexStr (it.drop 4) = place hexStr it + 4 ∧
    place hexStr ((it.drop 4).drop 4) = place hexStr (it.drop 4) + 4 ∧
    place hexStr (itLimits.drop 4) = place hexStr itLimits + 4
  certPkgRead : CertPkgRead hexStr (it.drop 4) itLimits result middle t.certPkg t.certPkgObjects
  limitsRead : LimitsRead hexStr itLimits middle result' t.limits t.limitsObjects

theorem decodeTLVTagRule_read {ruleLen : Int}
    (h : decodeTLVTagRule hexStr it result = some (it', result', ruleLen)) :
    ∃ itLimits middle,
      RuleRead hexStr it it' itLimits result middle result' (ruleObjects hexStr it) := by
  rw [decodeTLVTagRule] at h
  split at h
  · cases h
  rename_i ht
  split at h
  · cases h
  rename_i refArLen rest hr
  obtain ⟨ht, -, hv, rfl, hpl⟩ := header_of_read hexStr (by simpa using ht) rfl hr
  split at h
  · cases h
  rename_i itLimits middle hcP
  split at h
  · cases h
  rename_i itEnd last hlt
  obtain ⟨rfl, rfl, -⟩ := h
  obtain ⟨objects, ho, hcr, hct⟩ := decodeTLVTagCertPkg_read hcP
  obtain ⟨limits, hlm, hls, hlR⟩ := decodeTLVTagLimits_read hlt
  -- E3 is looked for where the objects of E1 end
  have heq : ruleObjects hexStr it =
      ⟨simpleAt hexStr it, simpleAt hexStr (it.drop 4), objects, simpleAt hexStr itLimits, limits⟩ := by
    have hb : ∀ s : StdString, s.drop (TLV_STAG_CHARLEN + TLV_LEN_CHARLEN) = s.drop 4 :=
      fun _ => rfl
    simp only [ruleObjects, hb, ho, hlm]
  rw [heq]
  exact ⟨itLimits, middle, ht, rfl, rfl, rfl, objectsRun_of_read ho,
    objectsRun_of_read hlm, ⟨hv, hpl, hcr, hls⟩, hct,
    hlR⟩

theorem valueAfter_of_isSome {tag : StdString} {objects : List TlvObject}
    (h : (lastWith tag objects).isSome) (before : StdString) :
    ∃ o, lastWith tag objects = some o ∧ valueAfter tag objects before = o.value := by
  obtain ⟨o, ho⟩ := Option.isSome_iff_exists.1 h
  exact ⟨o, ho, by rw [valueAfter, ho]; rfl⟩

section Rule

variable {hexStr it it' itLimits : StdString} {result middle result' : IccOperatorRule}
  {t : RuleObjects}

theorem RuleRead.taken (h : RuleRead hexStr it it' itLimits result middle result' t)
    (hit : it <:+ hexStr) : TakenFrom hexStr t result' ∧ it' <:+ hexStr := by
  have hcr : it.drop 4 <:+ hexStr := (drop_suffix _ _).trans hit
  obtain ⟨hct, hlm⟩ := h.certPkgObjects.ofText ((drop_suffix _ _).trans hcr)
  obtain ⟨hls, hen⟩ := h.limitsObjects.ofText ((drop_suffix _ _).trans hlm)
  have hr := h.limitsRead.result_eq
  obtain ⟨certificate, hlt, hce⟩ := valueAfter_of_isSome h.certPkgRead.found result.certificate
  obtain ⟨limit, hlL, hli⟩ := valueAfter_of_isSome h.limitsRead.found middle.accessLimit
  refine ⟨⟨?_, ⟨h.tag, h.certPkgRead.tag, h.limitsRead.tag⟩, ⟨certificate, hlt, ?_⟩, ?_,
    ⟨limit, hlL, ?_⟩⟩, hen⟩
  · intro o ho
    simp only [RuleObjects.objects, mem_append, mem_cons, not_mem_nil, or_false] at ho
    obtain (rfl | rfl | rfl) | ho | ho := ho
    · exact h.rule ▸ objectAt_ofText hit _
    · exact h.certPkg ▸ objectAt_ofText hcr _
    · exact h.limits ▸ objectAt_ofText hlm _
    · exact hct o ho
    · exact hls o ho
  · rw [hr]
    exact h.certPkgRead.certificate.trans hce
  · intro o ho
    have hn := h.certPkgRead.packageName
    rw [NameAfter, ho] at hn
    rw [hr]
    exact hn
  · rw [hr]
    exact hli

end Rule

theorem RulesRun.taken {hexStr : StdString} {it : StdString} {totalLen : Int}
    (h : RulesRun hexStr len it rule totalLen run) (hit : it <:+ hexStr) :
    ∀ r ∈ run, TakenFrom hexStr r.1 r.2 ∧ ∃ it it' itLimits result middle,
      RuleRead hexStr it it' itLimits result middle r.2 r.1 := by
  induction h with
  | stop | fail => exact fun r hr => absurd hr not_mem_nil
  | turn _ _ hrl _ ih =>
    obtain ⟨itLimits, middle, hrd⟩ := decodeTLVTagRule_read hrl
    obtain ⟨htk, hn⟩ := hrd.taken hit
    intro r hr
    obtain rfl | hr := mem_cons.1 hr
    · exact ⟨htk, _, _, _, _, _, hrd⟩
    · exact ih hn r hr

end TelephonyCore.Privilege
