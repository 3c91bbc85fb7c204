import TelephonyCore.Codec.Asn1Lookups
import TelephonyCore.Esim.OneCommand
import TelephonyCore.Lib.Reads

/-!
# The rules authorisation table

The answer to `GetRAT` is a row of A0 objects, each with a sequence of three things: the policy
rules and their flags as bit strings, and the ids of the operators they apply to. The list that
collects the operator ids of one entry is declared outside the loop of
`RequestRulesAuthTableParseTagCtxComp0`, so every entry adds the ids of all entries before it once
more: the table is right only if no entry but the last has operators.

`CarrierIdentifiers` reads fixed positions of the hex text of three bytes. It is called once for a
default carrier, with no bytes at all, whenever `BuildCarrierIdentifiers` runs. The functions here
keep the positions they read; a position behind the text gives `'\0'`.

Later lookups in a node answer as the first one that opens it, so no state is kept here.
-/

namespace TelephonyCore.Esim

open Codec Lib List
open Lib.Der (Tlv)

/-! ## The functions -/

structure CarrierIdentifier where
  mcc : List UInt16 := []
  mnc : List UInt16 := []
  gid1 : List UInt16 := []
  gid2 : List UInt16 := []
deriving DecidableEq

structure EuiccRulesAuthTable where
  policyRules : List Int32 := []
  carrierIds : List CarrierIdentifier := []
  policyRuleFlags : List Int32 := []

/-- `std::string(s.c_str())`: what stands before the first `'\0'`. -/
def cStr (s : StdString) : StdString := s.takeWhile (· ≠ 0)

def carrierIdentifiers (text : TextCodec) (mccMncData : List UInt8) (gid1 gid2 : List UInt16) :
    Logged CarrierIdentifier :=
  let strResult := bytesToHexStr mccMncData
  do
    let mcc0 ← Logged.read strResult 1 0
    let mcc1 ← Logged.read strResult 0 0
    let mcc2 ← Logged.read strResult 3 0
    let mnc0 ← Logged.read strResult 5 0
    let mnc1 ← Logged.read strResult 4 0
    let third ← Logged.read strResult 2 0
    let mnc2 ← if third ≠ 0x46 then Logged.read strResult 2 0 else pure 0
    pure { mcc := text.toUtf16 (cStr [mcc0, mcc1, mcc2])
           mnc := text.toUtf16 (cStr [mnc0, mnc1, mnc2])
           gid1 := gid1, gid2 := gid2 }

/-- A group id of `BuildCarrierIdentifiers`; `none` where it returns the default carrier. -/
def gidOf (text : TextCodec) (root : Asn1Node) (tag : UInt32) : Option (List UInt16) :=
  if (root.asn1HasChild tag).1 then
    (root.asn1GetChild tag).1.map fun node => text.toUtf16 (bytesToHexStr node.asn1AsBytes)
  else some []

def buildCarrierIdentifiersLogged (text : TextCodec) (root : Asn1Node) :
    CarrierIdentifier × List (StdString × List Nat) :=
  let defaultCarrier := carrierIdentifiers text [] [] []
  let defaultReads := (bytesToHexStr [], defaultCarrier.reads)
  match gidOf text root TAG_ESIM_CTX_1, gidOf text root TAG_ESIM_CTX_2,
      (root.asn1GetChild TAG_ESIM_CTX_0).1 with
  | some gid1, some gid2, some ctx0Node =>
    let mccMnc := ctx0Node.asn1AsBytes
    let myCarrier := carrierIdentifiers text mccMnc gid1 gid2
    (myCarrier.value, [defaultReads, (bytesToHexStr mccMnc, myCarrier.reads)])
  | _, _, _ => (defaultCarrier.value, [defaultReads])

def buildCarrierIdentifiers (text : TextCodec) (root : Asn1Node) : CarrierIdentifier :=
  (buildCarrierIdentifiersLogged text root).1

/-- One turn of the loop over the A0 objects: whether the loop goes on, the operator ids and the
table. -/
def parseEntry (text : TextCodec) (node : Asn1Node) (opIdNodes : List Asn1Node)
    (table : EuiccRulesAuthTable) : Bool × List Asn1Node × EuiccRulesAuthTable :=
  match node.asn1GetGrandson TAG_ESIM_SEQUENCE TAG_ESIM_CTX_COMP_1 with
  | none => (false, opIdNodes, table)
  | some grandson =>
    match grandson.asn1GetChildren TAG_ESIM_SEQUENCE with
    | (false, found, _) => (false, opIdNodes ++ found, table)
    | (true, found, _) =>
      -- the list is not cleared between the turns
      let opIdNodes := opIdNodes ++ found
      let carriers := opIdNodes.map (buildCarrierIdentifiers text)
      let table := { table with carrierIds := table.carrierIds ++ carriers }
      match node.asn1GetGrandson TAG_ESIM_SEQUENCE TAG_ESIM_CTX_0 with
      | none => (false, opIdNodes, table)
      | some policyNode =>
        match node.asn1GetGrandson TAG_ESIM_SEQUENCE TAG_ESIM_CTX_2 with
        | none => (false, opIdNodes, table)
        | some flagNode =>
          (true, opIdNodes, { table with
            policyRules := table.policyRules ++ [policyNode.asn1AsBits]
            policyRuleFlags := table.policyRuleFlags ++ [flagNode.asn1AsBits] })

def parseEntries (text : TextCodec) :
    List Asn1Node → List Asn1Node → EuiccRulesAuthTable → Bool × EuiccRulesAuthTable
  | [], _, table => (true, table)
  | node :: rest, opIdNodes, table =>
    match parseEntry text node opIdNodes table with
    | (false, _, table) => (false, table)
    | (true, opIdNodes, table) => parseEntries text rest opIdNodes table

/-- The status of `Asn1GetChildren` is not looked at here. -/
def requestRulesAuthTableParseTagCtxComp0 (text : TextCodec) (root : Asn1Node)
    (table : EuiccRulesAuthTable) : Bool × EuiccRulesAuthTable :=
  parseEntries text (root.asn1GetChildren TAG_ESIM_CTX_COMP_0).2.1 [] table

/-! ## Where a carrier is read -/

theorem carrierIdentifiers_reads (text : TextCodec) (data : List UInt8) (gid1 gid2 : List UInt16) :
    5 ∈ (carrierIdentifiers text data gid1 gid2).reads ∧
      ∀ i ∈ (carrierIdentifiers text data gid1 gid2).reads, i ≤ 5 := by
  unfold carrierIdentifiers
  simp only [Logged.reads_bind]
  split <;> simp

theorem carrierIdentifiers_within_iff (text : TextCodec) (data : List UInt8)
    (gid1 gid2 : List UInt16) :
    (carrierIdentifiers text data gid1 gid2).Within 0 (bytesToHexStr data).length ↔
      6 ≤ (bytesToHexStr data).length := by
  obtain ⟨hl, hal⟩ := carrierIdentifiers_reads text data gid1 gid2
  constructor
  · intro h
    exact (h 5 hl).2
  · intro h i hi
    have := hal i hi
    omega

def InRange (texts : List (StdString × List Nat)) : Prop :=
  ∀ e ∈ texts, ∀ i ∈ e.2, i < e.1.length

theorem default_reads_mem (text : TextCodec) (root : Asn1Node) :
    (bytesToHexStr [], (carrierIdentifiers text [] [] []).reads)
      ∈ (buildCarrierIdentifiersLogged text root).2 := by
  unfold buildCarrierIdentifiersLogged
  split <;> simp

theorem default_reads_out_of_range (text : TextCodec) {texts : List (StdString × List Nat)}
    (hm : (bytesToHexStr [], (carrierIdentifiers text [] [] []).reads) ∈ texts) :
    ¬ InRange texts := by
  intro h
  have hw : (carrierIdentifiers text [] [] []).Within 0 (bytesToHexStr []).length :=
    fun i hi => ⟨Nat.zero_le i, h _ hm i hi⟩
  have hl := (carrierIdentifiers_within_iff text [] [] []).1 hw
  rw [bytesToHexStr_length (by simp)] at hl
  simp at hl

/-- **`BuildCarrierIdentifiers` is never in range**: the default carrier is computed on
every call and reads the empty text. -/
theorem carrier_reads_never_in_range (text : TextCodec) (root : Asn1Node) :
    ¬ InRange (buildCarrierIdentifiersLogged text root).2 :=
  default_reads_out_of_range text (default_reads_mem text root)

def sampleOperatorNode : Asn1Node := nodeOf (.cons 0x30 [.prim 0x80 [0x21, 0xF3, 0x54]])

theorem sample_operator_out_of_range :
    ¬ InRange (buildCarrierIdentifiersLogged plainText sampleOperatorNode).2 :=
  default_reads_out_of_range plainText (default_reads_mem plainText sampleOperatorNode)

/-! ## A well-formed table -/

/-- An operator id: three bytes of MCC and MNC, and the group ids. -/
structure OperatorId where
  b0 : UInt8
  b1 : UInt8
  b2 : UInt8
  gid1 : Option (List UInt8) := none
  gid2 : Option (List UInt8) := none

/-- An entry: the contents of the two bit strings, and the operators. -/
structure PolicyRule where
  policyRules : List UInt8
  operators : List OperatorId
  policyRuleFlags : List UInt8

namespace OperatorId

def children (o : OperatorId) : List Tlv :=
  .prim 0x80 [o.b0, o.b1, o.b2]
    :: (o.gid1.toList.map (.prim 0x81) ++ o.gid2.toList.map (.prim 0x82))

def toTlv (o : OperatorId) : Tlv := .cons 0x30 o.children

/-- The carrier an operator id stands for. The MCC and MNC digits are swapped in each byte,
and the third MNC digit stands in the second byte, as F if there is none. -/
def carrier (text : TextCodec) (o : OperatorId) : CarrierIdentifier where
  mcc := text.toUtf16 [hexDigit (o.b0.toNat % 16), hexDigit (o.b0.toNat / 16),
    hexDigit (o.b1.toNat % 16)]
  mnc := text.toUtf16 ([hexDigit (o.b2.toNat % 16), hexDigit (o.b2.toNat / 16)]
    ++ if o.b1.toNat / 16 = 15 then [] else [hexDigit (o.b1.toNat / 16)])
  gid1 := (o.gid1.map fun g => text.toUtf16 (bytesToHexStr g)).getD []
  gid2 := (o.gid2.map fun g => text.toUtf16 (bytesToHexStr g)).getD []

end OperatorId

def PolicyRule.parts (r : PolicyRule) : List Tlv :=
  [.prim 0x80 r.policyRules, .cons 0xA1 (r.operators.map OperatorId.toTlv),
    .prim 0x82 r.policyRuleFlags]

def PolicyRule.toTlv (r : PolicyRule) : Tlv := .cons 0xA0 [.cons 0x30 r.parts]

def ratResponse (tag : Nat) (rules : List PolicyRule) : Tlv :=
  .cons tag (rules.map PolicyRule.toTlv)

def bitsOf (tag : Nat) (content : List UInt8) : Int32 := (nodeOf (.prim tag content)).asn1AsBits

def tableOf (text : TextCodec) (operators : List OperatorId) (rules : List PolicyRule) :
    EuiccRulesAuthTable where
  policyRules := rules.map fun r => bitsOf 0x80 r.policyRules
  carrierIds := operators.map (OperatorId.carrier text)
  policyRuleFlags := rules.map fun r => bitsOf 0x82 r.policyRuleFlags

/-! ## One operator id -/

variable {d : Nat} {root : Asn1Node} {text : TextCodec} {o : OperatorId}

theorem hexDigit_ne_zero (h : d < 16) : hexDigit d ≠ 0 := by
  revert d
  decide

theorem hexDigit_eq_F_iff (h : d < 16) : hexDigit d = 0x46 ↔ d = 15 := by
  revert d
  decide

theorem cStr_three {x y : UInt8} (hx : x ≠ 0) (hy : y ≠ 0) (z : UInt8) :
    cStr [x, y, z] = [x, y] ++ if z = 0 then [] else [z] := by
  by_cases hz : z = 0
  · simp [cStr, hx, hy, hz]
  · simp [cStr, hx, hy, hz]

theorem carrierIdentifiers_three (text : TextCodec) (o : OperatorId) (gid1 gid2 : List UInt16) :
    (carrierIdentifiers text [o.b0, o.b1, o.b2] gid1 gid2).value
      = { o.carrier text with gid1 := gid1, gid2 := gid2 } := by
  have hh : bytesToHexStr [o.b0, o.b1, o.b2]
      = [hexDigit (o.b0.toNat / 16), hexDigit (o.b0.toNat % 16), hexDigit (o.b1.toNat / 16),
        hexDigit (o.b1.toNat % 16), hexDigit (o.b2.toNat / 16), hexDigit (o.b2.toNat % 16)] := by
    rw [bytesToHexStr_eq (show [o.b0, o.b1, o.b2].length ≤ _ from Nat.le_of_ble_eq_true rfl)]
    rfl
  have h0 := o.b0.toNat_lt
  have h1 := o.b1.toNat_lt
  have h2 := o.b2.toNat_lt
  unfold carrierIdentifiers
  simp only [hh, Logged.value_bind, Logged.value_ite, getD_cons_zero, getD_cons_succ]
  rw [cStr_three (hexDigit_ne_zero (by omega)) (hexDigit_ne_zero (by omega)),
    cStr_three (hexDigit_ne_zero (by omega)) (hexDigit_ne_zero (by omega)),
    cStr_three (hexDigit_ne_zero (by omega)) (hexDigit_ne_zero (by omega)),
    if_neg (hexDigit_ne_zero (by omega)), if_neg (hexDigit_ne_zero (by omega))]
  by_cases hF : o.b1.toNat / 16 = 15
  · rw [if_neg (not_not.2 ((hexDigit_eq_F_iff (by omega)).2 hF))]
    simp [OperatorId.carrier, hF]
  · rw [if_pos (fun h => hF ((hexDigit_eq_F_iff (by omega)).1 h))]
    simp [OperatorId.carrier, hF]

theorem find_operator_part (o : OperatorId) :
    (o.children.map nodeOf).find? (fun child => child.tag == TAG_ESIM_CTX_0)
        = some (nodeOf (.prim 0x80 [o.b0, o.b1, o.b2])) ∧
      (o.children.map nodeOf).find? (fun child => child.tag == TAG_ESIM_CTX_1)
        = o.gid1.map (fun g => nodeOf (.prim 0x81 g)) ∧
      (o.children.map nodeOf).find? (fun child => child.tag == TAG_ESIM_CTX_2)
        = o.gid2.map (fun g => nodeOf (.prim 0x82 g)) := by
  obtain ⟨b0, b1, b2, gid1, gid2⟩ := o
  cases gid1 with
  | none | some g1 =>
    cases gid2 with
    | none | some g2 => exact ⟨rfl, rfl, rfl⟩

theorem gidOf_eq (text : TextCodec) {tag : UInt32} {t : Nat} {gid : Option (List UInt8)}
    (hg : (root.asn1GetChild tag).1 = gid.map (fun g => nodeOf (.prim t g)))
    (hbs : ∀ g, gid = some g → (nodeOf (.prim t g)).asn1AsBytes = g) :
    gidOf text root tag = some ((gid.map fun g => text.toUtf16 (bytesToHexStr g)).getD []) := by
  unfold gidOf Asn1Node.asn1HasChild
  cases gid with
  | none => simp [hg]
  | some g => simp [hg, hbs]

theorem buildCarrierIdentifiers_of_some {ctx0Node : Asn1Node} {gid1 gid2 : List UInt16}
    (h1 : gidOf text root TAG_ESIM_CTX_1 = some gid1)
    (h2 : gidOf text root TAG_ESIM_CTX_2 = some gid2)
    (h0 : (root.asn1GetChild TAG_ESIM_CTX_0).1 = some ctx0Node) :
    buildCarrierIdentifiers text root
      = (carrierIdentifiers text ctx0Node.asn1AsBytes gid1 gid2).value := by
  simp only [buildCarrierIdentifiers, buildCarrierIdentifiersLogged, h1, h2, h0]

theorem buildCarrierIdentifiers_nodeOf (text : TextCodec)
    (hd : Distinguished (.cons 0x30 o.children)) :
    buildCarrierIdentifiers text (nodeOf o.toTlv) = o.carrier text := by
  have hbs : ∀ {tag : Nat} {content : List UInt8}, .prim tag content ∈ o.children →
      (nodeOf (.prim tag content)).asn1AsBytes = content := by
    intro tag content hmm
    exact asn1AsBytes_nodeOf (hd.child hmm).wf (hd.child hmm).small
  obtain ⟨h0, h1, h2⟩ := find_operator_part o
  have hgd1 := gidOf_eq text ((hd.asn1GetChild TAG_ESIM_CTX_1).trans h1)
    (fun g hg => hbs (by simp [OperatorId.children, hg]))
  have hgd2 := gidOf_eq text ((hd.asn1GetChild TAG_ESIM_CTX_2).trans h2)
    (fun g hg => hbs (by simp [OperatorId.children, hg]))
  have hmc := (hd.asn1GetChild TAG_ESIM_CTX_0).trans h0
  have hp : .prim 0x80 [o.b0, o.b1, o.b2] ∈ o.children := by simp [OperatorId.children]
  rw [OperatorId.toTlv, buildCarrierIdentifiers_of_some hgd1 hgd2 hmc, hbs hp,
    carrierIdentifiers_three]
  rfl

theorem map_buildCarrierIdentifiers (text : TextCodec) {operators : List OperatorId}
    (hd : ∀ o ∈ operators, Distinguished o.toTlv) :
    (operators.map fun o => nodeOf o.toTlv).map (buildCarrierIdentifiers text)
      = operators.map (OperatorId.carrier text) := by
  induction operators with
  | nil => rfl
  | cons o operators ih =>
    rw [map_cons, map_cons, map_cons, ih (fun q hq => hd q (by simp [hq])),
      buildCarrierIdentifiers_nodeOf text (hd o (by simp))]

/-! ## One entry -/

theorem parseEntry_of_some {node grandson policyNode flagNode left : Asn1Node}
    {opIdNodes found : List Asn1Node} {table : EuiccRulesAuthTable}
    (hl : node.asn1GetGrandson TAG_ESIM_SEQUENCE TAG_ESIM_CTX_COMP_1 = some grandson)
    (hfd : grandson.asn1GetChildren TAG_ESIM_SEQUENCE = (true, found, left))
    (hp : node.asn1GetGrandson TAG_ESIM_SEQUENCE TAG_ESIM_CTX_0 = some policyNode)
    (hfl : node.asn1GetGrandson TAG_ESIM_SEQUENCE TAG_ESIM_CTX_2 = some flagNode) :
    parseEntry text node opIdNodes table
      = (true, opIdNodes ++ found,
          { policyRules := table.policyRules ++ [policyNode.asn1AsBits]
            carrierIds := table.carrierIds
              ++ (opIdNodes ++ found).map (buildCarrierIdentifiers text)
            policyRuleFlags := table.policyRuleFlags ++ [flagNode.asn1AsBits] }) := by
  simp only [parseEntry, hl, hfd, hp, hfl]

theorem find_rule_part (r : PolicyRule) :
    (r.parts.map nodeOf).find? (fun child => child.tag == TAG_ESIM_CTX_COMP_1)
        = some (nodeOf (.cons 0xA1 (r.operators.map OperatorId.toTlv))) ∧
      (r.parts.map nodeOf).find? (fun child => child.tag == TAG_ESIM_CTX_0)
        = some (nodeOf (.prim 0x80 r.policyRules)) ∧
      (r.parts.map nodeOf).find? (fun child => child.tag == TAG_ESIM_CTX_2)
        = some (nodeOf (.prim 0x82 r.policyRuleFlags)) :=
  ⟨rfl, rfl, rfl⟩

section Entry

variable {r : PolicyRule} (hd : Distinguished r.toTlv)

include hd

theorem PolicyRule.sequence : Distinguished (.cons 0x30 r.parts) := hd.child (by simp)

theorem PolicyRule.asn1GetGrandson (tag : UInt32) :
    (nodeOf r.toTlv).asn1GetGrandson TAG_ESIM_SEQUENCE tag
      = (r.parts.map nodeOf).find? (fun child => child.tag == tag) := by
  have hc : ((nodeOf r.toTlv).asn1GetChild TAG_ESIM_SEQUENCE).1
      = some (nodeOf (.cons 0x30 r.parts)) := hd.asn1GetChild TAG_ESIM_SEQUENCE
  rw [Asn1Node.asn1GetGrandson, hc]
  exact (PolicyRule.sequence hd).asn1GetChild tag

theorem PolicyRule.operatorList : Distinguished (.cons 0xA1 (r.operators.map OperatorId.toTlv)) :=
  (PolicyRule.sequence hd).child (by simp [PolicyRule.parts])

theorem PolicyRule.operator (ho : o ∈ r.operators) : Distinguished o.toTlv :=
  (PolicyRule.operatorList hd).child (mem_map_of_mem ho)

/-- A well-formed entry adds all operators collected so far, those of the earlier entries once more.
-/
theorem parseEntry_nodeOf (text : TextCodec) (before : List OperatorId)
    (hb : ∀ o ∈ before, Distinguished o.toTlv) (table : EuiccRulesAuthTable) :
    parseEntry text (nodeOf r.toTlv) (before.map fun o => nodeOf o.toTlv) table
      = (true, (before ++ r.operators).map (fun o => nodeOf o.toTlv),
          { policyRules := table.policyRules ++ [bitsOf 0x80 r.policyRules]
            carrierIds := table.carrierIds ++ (before ++ r.operators).map (OperatorId.carrier text)
            policyRuleFlags := table.policyRuleFlags ++ [bitsOf 0x82 r.policyRuleFlags] }) := by
  obtain ⟨hl, hp, hfl⟩ := find_rule_part r
  rw [← PolicyRule.asn1GetGrandson hd] at hl hp hfl
  have hfd := (PolicyRule.operatorList hd).asn1GetChildren TAG_ESIM_SEQUENCE
  rw [filter_nodeOf OperatorId.toTlv TAG_ESIM_SEQUENCE (fun _ => rfl), map_map] at hfd
  have hn : (before.map fun o => nodeOf o.toTlv) ++ r.operators.map (nodeOf ∘ OperatorId.toTlv)
      = (before ++ r.operators).map fun o => nodeOf o.toTlv := (map_append).symm
  have hal : ∀ o ∈ before ++ r.operators, Distinguished o.toTlv := by
    intro o ho
    rcases mem_append.1 ho with ho | ho
    · exact hb o ho
    · exact PolicyRule.operator hd ho
  rw [parseEntry_of_some hl hfd hp hfl, hn, map_buildCarrierIdentifiers text hal]
  rfl

end Entry

/-! ## The whole table -/

/-- The operators the loop lists: each entry adds those of all entries up to it. -/
def accumulated (before : List OperatorId) : List PolicyRule → List OperatorId
  | [] => []
  | r :: rules => before ++ r.operators ++ accumulated (before ++ r.operators) rules

theorem parseEntries_eq (text : TextCodec) (rules : List PolicyRule)
    (hd : ∀ r ∈ rules, Distinguished r.toTlv) (before : List OperatorId)
    (hb : ∀ o ∈ before, Distinguished o.toTlv) (table : EuiccRulesAuthTable) :
    parseEntries text (rules.map fun r => nodeOf r.toTlv) (before.map fun o => nodeOf o.toTlv) table
      = (true,
          { policyRules := table.policyRules ++ rules.map fun r => bitsOf 0x80 r.policyRules
            carrierIds := table.carrierIds
              ++ (accumulated before rules).map (OperatorId.carrier text)
            policyRuleFlags := table.policyRuleFlags
              ++ rules.map fun r => bitsOf 0x82 r.policyRuleFlags }) := by
  induction rules generalizing before table with
  | nil => simp [parseEntries, accumulated]
  | cons r rules ih =>
    have hr : Distinguished r.toTlv := hd r (by simp)
    -- what this turn has collected is what the next one starts with
    rw [map_cons, parseEntries, parseEntry_nodeOf hr text before hb table]
    show parseEntries text _ _ _ = _
    rw [ih (fun r' hr' => hd r' (by simp [hr']))]
    · simp [accumulated]
    · intro o ho
      rcases mem_append.1 ho with ho | ho
      · exact hb o ho
      · exact PolicyRule.operator hr ho

theorem parseTagCtxComp0_eq (text : TextCodec) {tag : Nat} {rules : List PolicyRule}
    (hd : Distinguished (ratResponse tag rules)) :
    requestRulesAuthTableParseTagCtxComp0 text (nodeOf (ratResponse tag rules)) {}
      = (true, tableOf text (accumulated [] rules) rules) := by
  have hn := Distinguished.asn1GetChildren hd TAG_ESIM_CTX_COMP_0
  rw [filter_nodeOf PolicyRule.toTlv TAG_ESIM_CTX_COMP_0 (fun _ => rfl), map_map] at hn
  have hal : ∀ r ∈ rules, Distinguished r.toTlv := fun r hr => .child hd (mem_map_of_mem hr)
  have hp := parseEntries_eq text rules hal [] (by simp) {}
  unfold requestRulesAuthTableParseTagCtxComp0
  rw [show (nodeOf (ratResponse tag rules)).asn1GetChildren TAG_ESIM_CTX_COMP_0 = _ from hn]
  exact hp

theorem le_accumulated_length (before : List OperatorId) (rules : List PolicyRule) :
    before.length * rules.length + (rules.flatMap PolicyRule.operators).length
      ≤ (accumulated before rules).length := by
  induction rules generalizing before with
  | nil => simp
  | cons r rules ih =>
    have hr := ih (before ++ r.operators)
    -- `before` is listed by this entry and, with its own operators, by all later ones
    have hm : before.length * rules.length ≤ (before ++ r.operators).length * rules.length :=
      Nat.mul_le_mul_right _ (by simp)
    rw [accumulated, length_append, flatMap_cons, length_append, length_cons, Nat.mul_succ]
    rw [length_append]
    omega

theorem accumulated_cases (rules : List PolicyRule) :
    ((∀ r ∈ rules.dropLast, r.operators = []) ∧
        accumulated [] rules = rules.flatMap PolicyRule.operators) ∨
      ((∃ r ∈ rules.dropLast, r.operators ≠ []) ∧
        (rules.flatMap PolicyRule.operators).length < (accumulated [] rules).length) := by
  induction rules with
  | nil => exact .inl ⟨by simp, rfl⟩
  | cons r rules ih =>
    cases rules with
    | nil => exact .inl ⟨by simp, by simp [accumulated]⟩
    | cons r' rules =>
      rw [dropLast_cons_cons, accumulated, nil_append, flatMap_cons]
      by_cases hr : r.operators = []
      · -- an entry without operators leaves the question to the rest
        rw [hr, nil_append, nil_append]
        rcases ih with ⟨hal, heq⟩ | ⟨⟨q, hq, hne⟩, hlt⟩
        · refine .inl ⟨?_, heq⟩
          intro q hq
          rcases mem_cons.1 hq with rfl | hq
          · exact hr
          · exact hal q hq
        · exact .inr ⟨⟨q, mem_cons_of_mem _ hq, hne⟩, hlt⟩
      · -- one with operators makes every later entry list them again
        refine .inr ⟨⟨r, by simp, hr⟩, ?_⟩
        have hp : 0 < r.operators.length := length_pos_iff.2 hr
        have hle := le_accumulated_length r.operators (r' :: rules)
        have hm : 0 < r.operators.length * (r' :: rules).length := Nat.mul_pos hp (by simp)
        rw [length_append, length_append]
        omega

/-- **The rules authorisation table.** A well-formed answer gives the table it stands for
exactly when no entry but the last lists operators. -/
theorem rules_auth_table_iff (text : TextCodec) (tag : Nat) (rules : List PolicyRule)
    (hd : Distinguished (ratResponse tag rules)) :
    requestRulesAuthTableParseTagCtxComp0 text (nodeOf (ratResponse tag rules)) {}
        = (true, tableOf text (rules.flatMap PolicyRule.operators) rules) ↔
      ∀ r ∈ rules.dropLast, r.operators = [] := by
  rw [parseTagCtxComp0_eq text hd]
  rcases accumulated_cases rules with ⟨hal, heq⟩ | ⟨⟨r, hr, hne⟩, _⟩
  · rw [heq]
    exact iff_of_true rfl hal
  · refine iff_of_false ?_ (fun h => hne (h r hr))
    intro h
    have hid := congrArg (fun p => p.2.carrierIds.length) h
    simp only [tableOf, length_map] at hid
    omega

def sampleRule : PolicyRule := ⟨[0x06, 0xC0], [⟨0x21, 0xF3, 0x54, none, none⟩], [0x07, 0x80]⟩

/-- The first of two entries is without an operator. -/
theorem rules_auth_table_two_entries :
    requestRulesAuthTableParseTagCtxComp0 plainText
        (nodeOf (ratResponse 0xBF43 [⟨[0x06, 0x80], [], []⟩, sampleRule])) {}
      = (true, tableOf plainText sampleRule.operators [⟨[0x06, 0x80], [], []⟩, sampleRule]) :=
  (rules_auth_table_iff plainText 0xBF43 _ ⟨by decide, by decide⟩).2 (by simp)

/-- Two entries with one operator each: the operator of the first is listed twice. -/
theorem first_operator_listed_twice :
    ∃ table, requestRulesAuthTableParseTagCtxComp0 plainText
        (nodeOf (ratResponse 0xBF43 [sampleRule, sampleRule])) {} = (true, table) ∧
      table.carrierIds.length = 3 ∧
      table ≠ tableOf plainText (sampleRule.operators ++ sampleRule.operators)
        [sampleRule, sampleRule] := by
  refine ⟨_, parseTagCtxComp0_eq plainText ⟨by decide, by decide⟩, rfl, ?_⟩
  intro h
  have hid := congrArg (fun table => table.carrierIds.length) h
  contradiction

end TelephonyCore.Esim
