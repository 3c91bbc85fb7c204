import TelephonyCore.Codec.Asn1Utils

/-!
# `OperatorName`: customised names

The names of the operator configuration are strings of a long and a short name with a comma between
them, and the entries for networks refer to them by their number. `SplitString` drops an empty text
at its end, so that a name without a short name is not stored, and the names behind it move up.
-/

namespace TelephonyCore.Network

open Codec List

/-- `SplitString` by commas, with the text since the last one. -/
def splitString (token : StdString) : StdString → List StdString
  | [] => if token = [] then [] else [token]
  | c :: rest => if c = 44 then token :: splitString [] rest else splitString (token ++ [c]) rest

/-- `ConvertStrToInt` for hex numbers: `std::from_chars` over the whole text. -/
def convertStrToInt (str : StdString) : Option Int :=
  let negative := str.head? = some 45
  let digits := if negative then str.tail else str
  let value : Int := strtolDigits 0 digits
  let value := if negative then -value else value
  if digits ≠ [] ∧ (digits.all fun c => (hexVal c).isSome) ∧ -2147483648 ≤ value ∧ value ≤ 2147483647
  then some value else none

structure PlmnNetworkName where
  longName : StdString := []
  shortName : StdString := []
deriving DecidableEq

structure OperatorPlmnInfo where
  plmnNumeric : StdString
  lacStart : Int
  lacEnd : Int
  pnnRecordId : Int
deriving DecidableEq

structure OperatorName where
  enableCust : Bool := false
  pnnCust : List PlmnNetworkName := []
  oplCust : List OperatorPlmnInfo := []

def updatePnnCust (pnnCust : List StdString) : List PlmnNetworkName :=
  pnnCust.filterMap fun data =>
    match splitString [] data with
    | [longName, shortName] =>
      if longName ≠ [] ∨ shortName ≠ [] then some { longName, shortName } else none
    | _ => none

def updateOplCust (oplCust : List StdString) : List OperatorPlmnInfo :=
  oplCust.filterMap fun data =>
    match splitString [] data with
    | [plmnNumeric, lacStart, lacEnd, pnnRecordId] => do
      let pnnRecordId ← convertStrToInt pnnRecordId
      let lacEnd ← convertStrToInt lacEnd
      let lacStart ← convertStrToInt lacStart
      if plmnNumeric ≠ [] then some { plmnNumeric, lacStart, lacEnd, pnnRecordId } else none
    | _ => none

def OperatorPlmnInfo.covers (opl : OperatorPlmnInfo) (numeric : StdString) (lac : Int) : Bool :=
  numeric = opl.plmnNumeric ∧
    ((opl.lacStart = 0 ∧ opl.lacEnd = 0xfffe) ∨ (opl.lacStart ≤ lac ∧ opl.lacEnd ≥ lac))

def PlmnNetworkName.name (pnn : PlmnNetworkName) (longNameRequired : Bool) : StdString :=
  if longNameRequired then pnn.longName else pnn.shortName

def OperatorName.getCustEons (o : OperatorName) (numeric : StdString) (lac : Int)
    (roaming longNameRequired : Bool) : StdString :=
  if ¬o.enableCust ∨ numeric = [] ∨ o.pnnCust = [] ∨ (o.oplCust = [] ∧ roaming) then []
  else
    let pnnIndex : Int :=
      if o.oplCust = [] then 1
      else ((o.oplCust.find? (·.covers numeric lac)).map (·.pnnRecordId)).getD (-1)
    if 1 ≤ pnnIndex then
      ((o.pnnCust[(pnnIndex - 1).toNat]?).map (·.name longNameRequired)).getD []
    else []

/-! ## The numbering -/

/-- A name as it is configured. -/
def PlmnNetworkName.written (pnn : PlmnNetworkName) : StdString :=
  pnn.longName ++ 44 :: pnn.shortName

theorem splitString_append {s : StdString} (h : 44 ∉ s) (token rest : StdString) :
    splitString token (s ++ rest) = splitString (token ++ s) rest := by
  induction s generalizing token with
  | nil => rw [append_nil, nil_append]
  | cons c s ih =>
    have hc : c ≠ 44 := fun heq => h (heq ▸ mem_cons_self)
    rw [cons_append, splitString, if_neg hc, ih (fun hm => h (mem_cons_of_mem c hm)),
      append_assoc, singleton_append]

variable {names : List PlmnNetworkName}

theorem updatePnnCust_written (h : ∀ pnn ∈ names, 44 ∉ pnn.longName ∧ 44 ∉ pnn.shortName) :
    updatePnnCust (names.map PlmnNetworkName.written) = names.filter (·.shortName ≠ []) := by
  unfold updatePnnCust
  rw [filterMap_map, ← filterMap_eq_filter]
  refine filterMap_congr fun pnn hp => ?_
  obtain ⟨hl, hsh⟩ := h pnn hp
  have hsp : splitString [] pnn.written =
      pnn.longName :: if pnn.shortName = [] then [] else [pnn.shortName] := by
    rw [PlmnNetworkName.written, splitString_append hl, splitString, if_pos rfl, nil_append,
      ← append_nil pnn.shortName, splitString_append hsh]
    simp [splitString]
  rw [Function.comp_apply, hsp]
  by_cases hn : pnn.shortName = []
  · simp [Option.guard, hn]
  · simp [hn]

theorem getCustEons_record {o : OperatorName} {numeric : StdString} {lac : Int}
    {entry : OperatorPlmnInfo} {k : Nat} (hc : o.enableCust) (hnm : numeric ≠ [])
    (hf : o.oplCust.find? (·.covers numeric lac) = some entry)
    (hr : entry.pnnRecordId = k + 1) (roaming longNameRequired : Bool) :
    o.getCustEons numeric lac roaming longNameRequired =
      (o.pnnCust[k]?.getD {}).name longNameRequired := by
  have ho : o.oplCust ≠ [] := by
    intro hnl
    rw [hnl] at hf
    cases hf
  have he : PlmnNetworkName.name {} longNameRequired = [] := by
    cases longNameRequired <;> rfl
  unfold OperatorName.getCustEons
  by_cases hp : o.pnnCust = []
  · rw [if_pos (.inr (.inr (.inl hp))), hp]
    exact he.symm
  · rw [if_neg (by simp [hc, hnm, hp, ho])]
    simp only [if_neg ho, hf, Option.map_some, Option.getD_some, hr]
    rw [if_pos (by omega), show ((k : Int) + 1 - 1).toNat = k by omega]
    cases o.pnnCust[k]? with
    | none => exact he.symm
    | some pnn => rfl

theorem name_eq_iff {pnn pnn' : PlmnNetworkName} :
    (∀ longNameRequired, pnn.name longNameRequired = pnn'.name longNameRequired) ↔ pnn = pnn' := by
  constructor
  · intro h
    cases pnn
    cases pnn'
    exact congr (congrArg _ (h true)) (h false)
  · rintro rfl _
    rfl

/-- **Customised names** keep a number exactly when the configured name that number refers to is
the name so numbered among those with a short name. -/
theorem custom_name_iff (names : List PlmnNetworkName) (oplCust : List StdString)
    (numeric : StdString) (lac : Int) (roaming : Bool) (entry : OperatorPlmnInfo) (k : Nat)
    (hcomma : ∀ pnn ∈ names, 44 ∉ pnn.longName ∧ 44 ∉ pnn.shortName) (hnumeric : numeric ≠ [])
    (hfirst : (updateOplCust oplCust).find? (·.covers numeric lac) = some entry)
    (hrecord : entry.pnnRecordId = k + 1) (hk : k < names.length) :
    (∀ longNameRequired, OperatorName.getCustEons
        { enableCust := true, pnnCust := updatePnnCust (names.map PlmnNetworkName.written),
          oplCust := updateOplCust oplCust } numeric lac roaming longNameRequired =
        names[k].name longNameRequired) ↔
      (names.filter (·.shortName ≠ []))[k]?.getD {} = names[k] := by
  rw [← name_eq_iff, updatePnnCust_written hcomma]
  refine forall_congr' fun longNameRequired => ?_
  rw [getCustEons_record rfl hnumeric hfirst hrecord]

theorem custom_name_second :
    OperatorName.getCustEons
      { enableCust := true, pnnCust := updatePnnCust [ascii "A,a", ascii ",b"],
        oplCust := updateOplCust [ascii "46000,0,fffe,2"] } (ascii "46000") 1 false false =
      ascii "b" :=
  (custom_name_iff [⟨ascii "A", ascii "a"⟩, ⟨[], ascii "b"⟩] [ascii "46000,0,fffe,2"]
    (ascii "46000") 1 false ⟨ascii "46000", 0, 0xfffe, 2⟩ 1 (by decide) (by decide) (by decide)
    rfl (by decide)).2 (by decide) false

/-- A name without a short name is skipped, and its number gives the next one. -/
theorem custom_name_moves_up :
    OperatorName.getCustEons
      { enableCust := true, pnnCust := updatePnnCust [ascii "A,", ascii "B,b"],
        oplCust := updateOplCust [ascii "46000,0,fffe,1"] } (ascii "46000") 1 false true =
      ascii "B" := by
  decide

end TelephonyCore.Network
