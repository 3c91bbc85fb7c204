import TelephonyCore.Codec.Asn1Utils

/-!
# `OperatorConfigLoader`: the rules of the carriers

`GetOpKey` copies the fields of the inserted card into the loader and takes the last rule that
matches them. `GetOverseasCarrierBySimInfo` is asked about a card, but its rules are matched by the
same `MatchOperatorRule`, against the fields that the latest `GetOpKey` has left in the loader.
-/

namespace TelephonyCore.Sim.CarrierRules

open Codec List

def DEFAULT_OPERATOR_KEY : StdString := []

/-- What the rules are matched against: `iccidFromSim_` and the others. -/
structure CardFields where
  iccid : StdString := []
  imsi : StdString := []
  spn : StdString := []
  gid1 : StdString := []
  gid2 : StdString := []

structure SimCardInfo where
  card : CardFields
  plmnLength : Int

/-- A row of the result set. -/
structure Row where
  iccid : StdString := []
  imsi : StdString := []
  spn : StdString := []
  gid1 : StdString := []
  gid2 : StdString := []
  opKey : StdString

section

variable (regexMatch : StdString → StdString → Bool)

/-- `IccidRegexMatch` and `ImsiRegexMatch` -/
def fieldRegexMatch (fromSim regex : StdString) : Bool := fromSim ≠ [] && regexMatch fromSim regex

def spnRegexMatch (spnFromSim spnRegex : StdString) : Bool :=
  spnRegex = ascii "null" && spnFromSim = [] || fieldRegexMatch regexMatch spnFromSim spnRegex

def prefixMatch (valueFromSim valuePrefix : StdString) : Bool :=
  valueFromSim ≠ [] && valueFromSim.take valuePrefix.length = valuePrefix

/-- An empty condition is not looked at. -/
def matchOperatorRule (card : CardFields) (row : Row) : Bool :=
  (row.iccid = [] || fieldRegexMatch regexMatch card.iccid row.iccid) &&
    (row.imsi = [] || fieldRegexMatch regexMatch card.imsi row.imsi) &&
    (row.spn = [] || spnRegexMatch regexMatch card.spn row.spn) &&
    (row.gid1 = [] || prefixMatch card.gid1 row.gid1) &&
    (row.gid2 = [] || prefixMatch card.gid2 row.gid2)

/-- The loop over the rows. -/
def lastOpKey (card : CardFields) (rows : List Row) (opKeyVal : StdString) : StdString :=
  rows.foldl (fun key row => if matchOperatorRule regexMatch card row then row.opKey else key)
    opKeyVal

/-- A call of `GetOpKey`: the card the file manager describes, if there is one, its operator number,
and the rows, if the query succeeds. The roaming broker has already had its say. -/
structure OpKeyCall where
  sim : Option (CardFields × StdString)
  resultSet : Option (List Row)

/-- `GetOpKey`: the fields of the loader, and the key. -/
def getOpKey (loader : CardFields) (call : OpKeyCall) : CardFields × StdString :=
  match call.sim, call.resultSet with
  | some (card, mccmnc), some rows => (card, lastOpKey regexMatch card rows mccmnc)
  | _, _ => (loader, DEFAULT_OPERATOR_KEY)

/-- The fields of a loader after some calls. -/
def fieldsAfter (calls : List OpKeyCall) : CardFields :=
  calls.foldl (fun loader call => (getOpKey regexMatch loader call).1) {}

/-- `imsi.substr(0, plmnLength)`: a negative length is a large `size_t`. -/
def SimCardInfo.mccMncCode (info : SimCardInfo) : StdString :=
  if info.plmnLength < 0 then info.card.imsi else info.card.imsi.take info.plmnLength.toNat

def getOverseasCarrierBySimInfo (loader : CardFields) (info : SimCardInfo)
    (resultSet : Option (List Row)) : StdString :=
  match resultSet with
  | none => DEFAULT_OPERATOR_KEY
  | some rows => lastOpKey regexMatch loader rows info.mccMncCode

/-- The key of the last row that matches a card. -/
def lastMatching (card : CardFields) (rows : List Row) (opKeyVal : StdString) : StdString :=
  ((rows.filter (matchOperatorRule regexMatch card)).getLast?.map Row.opKey).getD opKeyVal

/-- The key of the last row that matches the card asked about. -/
def carrierOf (info : SimCardInfo) (rows : List Row) : StdString :=
  lastMatching regexMatch info.card rows info.mccMncCode

/-- The card of the last call of `GetOpKey` that had a card and rows. -/
def cardSeen (calls : List OpKeyCall) : CardFields :=
  ((calls.filter fun call => call.resultSet.isSome).filterMap OpKeyCall.sim).getLast?.elim {} Prod.fst

/-- The last row that matches one of two cards matches `card` only, and has not the key that the
rows before it give for the other one. -/
def TellsApart (card other : CardFields) (rows : List Row) (opKeyVal : StdString) : Prop :=
  ∃ before row after, rows = before ++ row :: after ∧
    (∀ r ∈ after, ¬ matchOperatorRule regexMatch card r ∧ ¬ matchOperatorRule regexMatch other r) ∧
    matchOperatorRule regexMatch card row ∧ ¬ matchOperatorRule regexMatch other row ∧
    row.opKey ≠ lastMatching regexMatch other before opKeyVal

variable {card other : CardFields} {rows : List Row} {opKeyVal : StdString} {regexMatch}

theorem lastMatching_concat (row : Row) :
    lastMatching regexMatch card (rows ++ [row]) opKeyVal =
      if matchOperatorRule regexMatch card row then row.opKey
      else lastMatching regexMatch card rows opKeyVal := by
  cases hm : matchOperatorRule regexMatch card row <;> simp [hm, lastMatching]

theorem lastOpKey_eq :
    lastOpKey regexMatch card rows opKeyVal = lastMatching regexMatch card rows opKeyVal := by
  induction rows using List.reverseRecOn with
  | nil => rfl
  | append_singleton rows row ih =>
    rw [lastMatching_concat, ← ih, lastOpKey, foldl_append]
    rfl

theorem fieldsAfter_eq (calls : List OpKeyCall) :
    fieldsAfter regexMatch calls = cardSeen calls := by
  induction calls using List.reverseRecOn with
  | nil => rfl
  | append_singleton calls call ih =>
    rw [fieldsAfter, foldl_append, ← fieldsAfter, ih, cardSeen, cardSeen, filter_append]
    obtain ⟨_ | sim, _ | rows⟩ := call <;> simp [getOpKey]

/-- Only the last row decides, unless it matches neither card. -/
theorem tellsApart_concat (row : Row) :
    TellsApart regexMatch card other (rows ++ [row]) opKeyVal ↔
      ¬ matchOperatorRule regexMatch other row ∧
        if matchOperatorRule regexMatch card row then
          row.opKey ≠ lastMatching regexMatch other rows opKeyVal
        else TellsApart regexMatch card other rows opKeyVal := by
  constructor
  · rintro ⟨before, r, after, hrows, hafter, hc, ho, hk⟩
    rcases eq_nil_or_concat after with rfl | ⟨after, last, rfl⟩
    · obtain ⟨rfl, heq⟩ := append_inj' hrows rfl
      cases heq
      exact ⟨ho, by rwa [if_pos hc]⟩
    · rw [concat_eq_append, ← cons_append, ← append_assoc] at hrows
      obtain ⟨rfl, heq⟩ := append_inj' hrows rfl
      cases heq
      obtain ⟨hlc, hlo⟩ := hafter row (by simp)
      refine ⟨hlo, ?_⟩
      rw [if_neg hlc]
      exact ⟨before, r, after, rfl, fun r hr => hafter r (by simp [hr]), hc, ho, hk⟩
  · rintro ⟨ho, h⟩
    split at h
    next hc => exact ⟨rows, row, [], rfl, nofun, hc, ho, h⟩
    next hc =>
      obtain ⟨before, r, after, rfl, hafter, h⟩ := h
      refine ⟨before, r, after ++ [row], by simp, fun r hr => ?_, h⟩
      rcases mem_append.1 hr with hr | hr
      · exact hafter r hr
      · obtain rfl := mem_singleton.1 hr
        exact ⟨hc, ho⟩

theorem lastMatching_eq_iff :
    lastMatching regexMatch card rows opKeyVal = lastMatching regexMatch other rows opKeyVal ↔
      ¬ TellsApart regexMatch card other rows opKeyVal ∧
        ¬ TellsApart regexMatch other card rows opKeyVal := by
  induction rows using List.reverseRecOn with
  | nil =>
    have hno : ∀ card other, ¬ TellsApart regexMatch card other [] opKeyVal := by
      rintro card other ⟨before, row, after, hrows, -⟩
      simp at hrows
    exact iff_of_true rfl ⟨hno _ _, hno _ _⟩
  | append_singleton rows row ih =>
    rw [tellsApart_concat, tellsApart_concat, lastMatching_concat, lastMatching_concat]
    cases matchOperatorRule regexMatch card row <;>
      cases matchOperatorRule regexMatch other row <;> simp [ih, eq_comm]

variable (regexMatch)

/-- A list of rules gives the carrier of the card asked about exactly if it does not tell this card
from the one that the last call of `GetOpKey` has seen. -/
theorem overseas_carrier_iff (calls : List OpKeyCall) (info : SimCardInfo) (rows : List Row) :
    getOverseasCarrierBySimInfo regexMatch (fieldsAfter regexMatch calls) info (some rows) =
        carrierOf regexMatch info rows ↔
      ¬ TellsApart regexMatch (cardSeen calls) info.card rows info.mccMncCode ∧
        ¬ TellsApart regexMatch info.card (cardSeen calls) rows info.mccMncCode := by
  rw [getOverseasCarrierBySimInfo, lastOpKey_eq, fieldsAfter_eq, carrierOf, lastMatching_eq_iff]

end

def sampleInfo : SimCardInfo := ⟨{ imsi := ascii "46000123", gid1 := ascii "A1" }, 5⟩

/-- A loader that has seen no card yet. -/
theorem rule_of_no_card :
    getOverseasCarrierBySimInfo (· == ·) (fieldsAfter (· == ·) []) sampleInfo
        (some [{ gid1 := ascii "A1", opKey := ascii "key" }]) = ascii "46000" ∧
      carrierOf (· == ·) sampleInfo [{ gid1 := ascii "A1", opKey := ascii "key" }] =
        ascii "key" := by
  decide

end TelephonyCore.Sim.CarrierRules
