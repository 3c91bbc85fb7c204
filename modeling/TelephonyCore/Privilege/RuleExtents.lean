import TelephonyCore.Privilege.RuleObjects

/-!
# Lengths in the rules of the operator

An object is inside another if its place says so. Only `parseSimpleTLV` compares a length with
anything, and that is the end of the whole text.

As the objects follow each other, whether they are nested depends on sums of lengths only, and on
the last object in E1 and in E3: behind any other object the loops have not yet counted all of the
length (`ObjectsRun.inside_iff`).
-/

namespace TelephonyCore.Privilege

open Codec List TlvObject

/-! ## Nested objects -/

def IsTwoHex (s : StdString) : Prop := s.length = 2 ∧ ∀ c ∈ s, (hexVal c).isSome

instance (s : StdString) : Decidable (IsTwoHex s) := inferInstanceAs (Decidable (_ ∧ _))
instance (s : StdString) : Decidable (IsHex s) := inferInstanceAs (Decidable (_ ∧ _))

/-- Every length, and every byte of a package name, is written with two hex digits. -/
@[mk_iff]
structure RuleObjects.Written (t : RuleObjects) : Prop where
  lengths : ∀ o ∈ t.objects, IsTwoHex o.lenText
  names : ∀ o ∈ t.certPkgObjects, o.tag = TAG_PACKAGE → IsHex o.value

variable {t : RuleObjects} {hexStr it : StdString}

theorem RuleObjects.Written.certPkgLengths (h : t.Written) :
    ∀ o ∈ t.certPkgObjects, IsTwoHex o.lenText :=
  fun o ho => h.lengths o (mem_append_right _ (mem_append_left _ ho))

theorem RuleObjects.Written.limitsLengths (h : t.Written) :
    ∀ o ∈ t.limitsObjects, IsTwoHex o.lenText :=
  fun o ho => h.lengths o (mem_append_right _ (mem_append_right _ ho))

/-- E2 in the value of FF40 and in the text, E1 and E3 in the value of E2, and C1, CA and DB in the
value of theirs. -/
structure RuleObjects.Nested (hexStr : StdString) (t : RuleObjects) : Prop where
  written : t.Written
  rule : t.rule.Inside (allRules hexStr) ∧ t.rule.finish ≤ hexStr.length
  certPkg : t.certPkg.Inside t.rule
  limits : t.limits.Inside t.rule
  certPkgObjects : ∀ o ∈ t.certPkgObjects, o.tag = TAG_CERTIFICATE ∨ o.tag = TAG_PACKAGE →
    o.Inside t.certPkg
  limitsObjects : ∀ o ∈ t.limitsObjects, o.tag = TAG_LIMIT → o.Inside t.limits

/-- The lengths of E1, its objects and E3 add up to no more than that of E2, and only an object of
another kind may go over the end of E1 or E3. -/
@[mk_iff]
structure RuleObjects.AddUp (hexStr : StdString) (t : RuleObjects) : Prop where
  written : t.Written
  rule : t.rule.Inside (allRules hexStr) ∧ t.rule.finish ≤ hexStr.length
  total : 2 + counted t.certPkgObjects + (2 + t.limits.len) ≤ t.rule.len
  certPkgEnd : counted t.certPkgObjects ≤ t.certPkg.len ∨
    ∀ o ∈ t.certPkgObjects.getLast?, ¬(o.tag = TAG_CERTIFICATE ∨ o.tag = TAG_PACKAGE)
  limitsEnd : counted t.limitsObjects ≤ t.limits.len ∨
    ∀ o ∈ t.limitsObjects.getLast?, ¬o.tag = TAG_LIMIT

instance (t : RuleObjects) : Decidable t.Written :=
  decidable_of_iff' _ (RuleObjects.written_iff t)

instance (hexStr : StdString) (t : RuleObjects) : Decidable (t.AddUp hexStr) :=
  decidable_of_iff' _ (RuleObjects.addUp_iff hexStr t)

/-- The text starts with FF40 and a length of two digits, and every rule comes from objects that are
nested. -/
structure RespectsLengths (hexStr : StdString) (run : List (RuleObjects × IccOperatorRule)) :
    Prop where
  tagged : TAG_ALL_RULE.isPrefixOf hexStr = true
  length : IsTwoHex (allRules hexStr).lenText
  taken : ∀ r ∈ run, TakenFrom hexStr r.1 r.2
  nested : ∀ r ∈ run, r.1.Nested hexStr

/-! ## Objects follow each other -/

theorem readOneByte_nonneg {s rest : StdString} {len : Int} (h : readOneByte s = some (len, rest))
    (hdg : IsTwoHex (s.take 2)) : 0 ≤ len := by
  match s, h with
  | a :: b :: rest', h =>
    obtain ⟨_, ha⟩ := Option.isSome_iff_exists.1 (hdg.2 a (by simp))
    obtain ⟨_, hb⟩ := Option.isSome_iff_exists.1 (hdg.2 b (by simp))
    rw [readOneByte_digits ha hb] at h
    cases h
    exact Int.natCast_nonneg _

theorem objectAt_len_nonneg {tagLen : Nat} (h : IsTwoHex (objectAt hexStr it tagLen).lenText) :
    0 ≤ (objectAt hexStr it tagLen).len := by
  cases hr : readOneByte (it.drop tagLen) with
  | none =>
    rw [objectAt, hr]
    exact Int.le_refl _
  | some read =>
    rw [(objectAt_of_read hexStr hr).1]
    exact readOneByte_nonneg hr h

theorem place_of_parse {tlv : SimpleTlv} (h : parseSimpleTLV hexStr it = some tlv)
    (hdg : IsTwoHex (simpleAt hexStr it).lenText) :
    0 ≤ tlv.len ∧ place hexStr tlv.it = place hexStr it + 2 * (tlv.len + 2) ∧
      (simpleAt hexStr it).finish = place hexStr tlv.it := by
  obtain ⟨_, hrd, _, -, -, hn⟩ := parseSimpleTLV_eq_some h
  obtain ⟨hl, _, hrs, hv⟩ := objectAt_of_read hexStr hrd
  have hps : 0 ≤ tlv.len := hl ▸ objectAt_len_nonneg hdg
  have hs : TLV_STAG_CHARLEN = 2 := rfl
  have hpl : place hexStr tlv.it = place hexStr it + 2 * (tlv.len + 2) := by
    rw [hn, advance, if_pos (by omega), hrs, place, place, length_drop, length_drop]
    omega
  refine ⟨hps, hpl, ?_⟩
  rw [finish, hv, hl, hpl]
  omega

section Objects

variable {hexStr it last : StdString} {len totalLen : Int} {objects : List TlvObject}

theorem ObjectsRun.places (h : ObjectsRun hexStr len it totalLen objects last)
    (hdg : ∀ o ∈ objects, IsTwoHex o.lenText) :
    place hexStr last = place hexStr it + 2 * counted objects ∧
      ∀ o ∈ objects, place hexStr it ≤ o.start := by
  induction h with
  | stop => simp [counted]
  | turn hpr _ _ ih =>
    obtain ⟨hf, hdg⟩ := forall_mem_cons.1 hdg
    obtain ⟨_, hpl, -⟩ := place_of_parse hpr hf
    obtain ⟨hen, hst⟩ := ih hdg
    refine ⟨?_, forall_mem_cons.2 ⟨Int.le_refl _, fun o ho => ?_⟩⟩
    · rw [hen, hpl, counted_cons, ← len_of_parse hpr]
      omega
    · exact Int.le_trans (by omega) (hst o ho)

/-- Only the last object can go over the end: behind any other the loop has not yet counted all of
the length. -/
theorem ObjectsRun.inside_iff (P : TlvObject → Prop)
    (h : ObjectsRun hexStr len it totalLen objects last) (hdg : ∀ o ∈ objects, IsTwoHex o.lenText) :
    (∀ o ∈ objects, P o → o.finish ≤ place hexStr it + 2 * (len - totalLen)) ↔
      totalLen + counted objects ≤ len ∨ ∀ o ∈ objects.getLast?, ¬P o := by
  induction h with
  | stop => simp
  | @turn it totalLen tlv objects last hp hlt hr ih =>
    obtain ⟨hfs, hdg⟩ := forall_mem_cons.1 hdg
    obtain ⟨_, _, hfn⟩ := place_of_parse hp hfs
    have hb : place hexStr it + 2 * (len - totalLen) =
        place hexStr tlv.it + 2 * (len - (totalLen + (tlv.len + 2))) := by omega
    have hc : totalLen + counted (simpleAt hexStr it :: objects) =
        totalLen + (tlv.len + 2) + counted objects := by
      rw [counted_cons, ← len_of_parse hp]
      omega
    rw [hb, hc, forall_mem_cons, ih hdg, hfn]
    cases hr with
    | stop =>
      -- this is the last object
      simp only [counted, map_nil, sum_nil, getLast?_nil, getLast?_singleton,
        Option.mem_def, reduceCtorEq, false_implies, implies_true, or_true, and_true,
        Option.some.injEq, forall_eq']
      rw [imp_iff_not_or, or_comm]
      exact or_congr_left (by omega)
    | turn _ hm _ =>
      exact and_iff_right fun _ => by omega

end Objects

section Rule

variable {hexStr it it' itLimits : StdString} {result middle result' : IccOperatorRule}
  {t : RuleObjects}

theorem RuleRead.places_of_written (h : RuleRead hexStr it it' itLimits result middle result' t)
    (hwn : t.Written) :
    t.certPkg.start = t.rule.valueStart ∧ t.certPkg.valueStart = t.certPkg.start + 4 ∧
      t.limits.start = t.certPkg.valueStart + 2 * counted t.certPkgObjects ∧
      t.limits.valueStart = t.limits.start + 4 ∧
      t.certPkg.len ≤ counted t.certPkgObjects ∧ 0 ≤ t.certPkg.len ∧ 0 ≤ t.limits.len := by
  obtain ⟨_, _, _, -⟩ := h.places
  have hcr : t.certPkg.start = place hexStr (it.drop 4) := h.certPkg ▸ rfl
  have hlm : t.limits.start = place hexStr itLimits := h.limits ▸ rfl
  have hpl := (h.certPkgObjects.places hwn.certPkgLengths).1
  have hcv := h.certPkgRead.value
  have hlv := h.limitsRead.value
  have hcn : t.certPkg.len ≤ counted t.certPkgObjects :=
    Int.not_lt.1 fun hlt => h.certPkgRead.counts ⟨h.limitsRead.ne_nil, hlt⟩
  have hcp : 0 ≤ t.certPkg.len := by
    have hdg : IsTwoHex t.certPkg.lenText := hwn.lengths _ (by simp [RuleObjects.objects])
    rw [h.certPkg] at hdg ⊢
    exact objectAt_len_nonneg hdg
  have hll : 0 ≤ t.limits.len := by
    have hdg : IsTwoHex t.limits.lenText := hwn.lengths _ (by simp [RuleObjects.objects])
    rw [h.limits] at hdg ⊢
    exact objectAt_len_nonneg hdg
  refine ⟨?_, ?_, ?_, ?_, hcn, hcp, hll⟩ <;> omega

theorem objects_inside_iff (P : TlvObject → Prop) {outer : TlvObject} {start last : StdString}
    {objects : List TlvObject} (hr : ObjectsRun hexStr outer.len start 0 objects last)
    (hst : outer.valueStart = place hexStr start) (hdg : ∀ o ∈ objects, IsTwoHex o.lenText) :
    (∀ o ∈ objects, P o → o.Inside outer) ↔
      counted objects ≤ outer.len ∨ ∀ o ∈ objects.getLast?, ¬P o := by
  have hif := hr.inside_iff P hdg
  have hf := (hr.places hdg).2
  rw [Int.zero_add, Int.sub_zero] at hif
  rw [← hif]
  simp only [TlvObject.Inside, finish, hst] at hf ⊢
  exact forall₂_congr fun o ho => imp_congr_right fun _ => and_iff_right (hf o ho)

theorem RuleRead.nested_iff (h : RuleRead hexStr it it' itLimits result middle result' t) :
    t.Nested hexStr ↔ t.AddUp hexStr := by
  have hcp : t.Written → ((∀ o ∈ t.certPkgObjects,
      o.tag = TAG_CERTIFICATE ∨ o.tag = TAG_PACKAGE → o.Inside t.certPkg) ↔ _) :=
    fun hwn => objects_inside_iff _ h.certPkgObjects
      (h.certPkgRead.value.trans h.places.2.2.1.symm) hwn.certPkgLengths
  have hlo : t.Written → ((∀ o ∈ t.limitsObjects, o.tag = TAG_LIMIT → o.Inside t.limits) ↔ _) :=
    fun hwn => objects_inside_iff _ h.limitsObjects
      (h.limitsRead.value.trans h.places.2.2.2.symm) hwn.limitsLengths
  constructor
  · intro hn
    obtain ⟨hcr, hcv, hlm, hlv, -⟩ := h.places_of_written hn.written
    have hin := hn.limits.2
    rw [finish, finish] at hin
    exact ⟨hn.written, hn.rule, by omega, (hcp hn.written).1 hn.certPkgObjects,
      (hlo hn.written).1 hn.limitsObjects⟩
  · intro had
    obtain ⟨hcr, hcv, hlm, hlv, _, _, _⟩ := h.places_of_written had.written
    have ht := had.total
    refine ⟨had.written, had.rule, ?_, ?_, (hcp had.written).2 had.certPkgEnd,
      (hlo had.written).2 had.limitsEnd⟩
    · rw [TlvObject.Inside, finish, finish]
      omega
    · rw [TlvObject.Inside, finish, finish]
      omega

end Rule

/-! ## Runs -/

/-- **The rules of the operator come from nested objects** exactly if the lengths are written with
two digits each and add up. -/
theorem rules_nested_iff (hexStr : StdString) (run : List (RuleObjects × IccOperatorRule))
    (hrun : ReturnsRules hexStr run) :
    RespectsLengths hexStr run ↔
      IsTwoHex (allRules hexStr).lenText ∧ ∀ r ∈ run, r.1.AddUp hexStr := by
  obtain ⟨_, it, hrd, hlp⟩ := hrun.run
  have hit : it <:+ hexStr := by
    rw [(objectAt_of_read hexStr hrd).2.2.1]
    exact drop_suffix _ _
  have ht := hlp.taken hit
  have hif : ∀ r ∈ run, r.1.Nested hexStr ↔ r.1.AddUp hexStr := by
    intro r hr
    obtain ⟨-, _, _, _, _, _, hrd⟩ := ht r hr
    exact hrd.nested_iff
  constructor
  · intro h
    exact ⟨h.length, fun r hr => (hif r hr).1 (h.nested r hr)⟩
  · rintro ⟨hln, had⟩
    exact ⟨hrun.tagged, hln, fun r hr => (ht r hr).1, fun r hr => (hif r hr).2 (had r hr)⟩

def oneRuleRun (hexStr : StdString) (rule : IccOperatorRule) :
    List (RuleObjects × IccOperatorRule) :=
  [(ruleObjects hexStr (hexStr.drop 6), rule)]

def nestedText : StdString := ascii "FF4010E20EE107C10111CA026162E303DB0101"

theorem rules_nested_plain :
    ReturnsRules nestedText (oneRuleRun nestedText ⟨ascii "ab", ascii "11", ascii "01"⟩) ∧
      RespectsLengths nestedText (oneRuleRun nestedText ⟨ascii "ab", ascii "11", ascii "01"⟩) := by
  have hr : ReturnsRules nestedText
      (oneRuleRun nestedText ⟨ascii "ab", ascii "11", ascii "01"⟩) :=
    ⟨by decide +kernel, 16, nestedText.drop 6, by decide +kernel,
      .turn (by decide +kernel) (by decide +kernel)
        (show decodeTLVTagRule _ _ _ = some ([], _, 16) by decide +kernel)
        (.stop (by decide +kernel))⟩
  exact ⟨hr, (rules_nested_iff _ _ hr).2 ⟨by decide +kernel, by decide +kernel⟩⟩

/-- An E2 without a value, and behind it an E1 and an E3. -/
def bareRuleText : StdString := ascii "FF400CE200E103C10111E303DB0101"

/-- A rule is taken from objects that are not inside its E2. -/
theorem rule_taken_from_behind :
    ReturnsRules bareRuleText (oneRuleRun bareRuleText ⟨[], ascii "11", ascii "01"⟩) ∧
      createFromTLV bareRuleText = some [⟨[], ascii "11", ascii "01"⟩] ∧
      ¬RespectsLengths bareRuleText (oneRuleRun bareRuleText ⟨[], ascii "11", ascii "01"⟩) := by
  refine ⟨⟨by decide +kernel, 12, bareRuleText.drop 6, by decide +kernel,
    .turn (by decide +kernel) (by decide +kernel)
      (show decodeTLVTagRule _ _ _ = some ([], _, 2) by decide +kernel)
      (.stop (by decide +kernel))⟩, by decide +kernel, fun h => ?_⟩
  have hin := (h.nested _ mem_cons_self).certPkg
  exact absurd hin (by decide +kernel)

end TelephonyCore.Privilege
