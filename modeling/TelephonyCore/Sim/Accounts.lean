import Mathlib.Data.List.Perm.Subperm

/-!
# The account caches of `MultiSimController`

`localCacheInfo_` has a record for each slot, `allLocalCacheInfo_` one for each SIM of the database,
and its users look for a SIM at `simId - 1`. `SortAllCache` makes a table with as many places as
there are rows and leaves out a row whose place is behind its end.

`SetActiveSim` sets `isActive` in both caches before it writes the database, and
`SetActiveSimSatellite` writes the database first.
-/

namespace TelephonyCore.Sim.Accounts

open List

def DEACTIVE : Int := 0
def INVALID_VALUE : Int := -1
def TELEPHONY_SUCCESS : Int := 0

/-- A row of the database, with the fields that are only copied in `rest`. -/
structure SimRdbInfo (Rest : Type) where
  simId : Int
  isActive : Int
  rest : Rest
deriving DecidableEq

structure MultiSimController (Rest : Type) where
  localCacheInfo : List (SimRdbInfo Rest) := []
  allLocalCacheInfo : List (SimRdbInfo Rest) := []
  isSetActiveSimInProgress : List Int := []
  refreshAllLocalCacheRemainCount : Int := 0
  /-- the event `REFRESH_ALL_LOCAL_CACHE_RETRY` is on its way -/
  refreshAllLocalCacheRetry : Bool := false
  /-- what was written to the database: the SIM and its `IS_ACTIVE` -/
  written : List (Int × Int) := []

variable {Rest : Type}

/-! ## The cache of all accounts -/

/-- The body of the loop of `SortAllCache`. -/
def place (sortCache : List (SimRdbInfo Rest)) (row : SimRdbInfo Rest) : List (SimRdbInfo Rest) :=
  if row.simId - 1 ≥ 0 ∧ row.simId - 1 < sortCache.length then
    sortCache.set (row.simId - 1).toNat row
  else sortCache

/-- `unit` is a row as its constructor leaves it. -/
def sortAllCache (unit : SimRdbInfo Rest) (allLocalCacheInfo : List (SimRdbInfo Rest)) :
    List (SimRdbInfo Rest) :=
  let count := allLocalCacheInfo.length
  if count = 0 then allLocalCacheInfo
  else allLocalCacheInfo.foldl place (List.replicate count { unit with isActive := DEACTIVE })

/-- With the result of `QueryAllData` and its rows; without `simDbHelper_` there are none. -/
def MultiSimController.getAllListFromDataBase (c : MultiSimController Rest)
    (unit : SimRdbInfo Rest) (isNeedProtectiveRetry : Bool) :
    Option (Int × List (SimRdbInfo Rest)) → Bool × MultiSimController Rest
  | none => (false, c)
  | some (result, newCache) =>
    if result ≠ TELEPHONY_SUCCESS then
      (result ≠ INVALID_VALUE,
        if c.refreshAllLocalCacheRemainCount > 0 ∧ isNeedProtectiveRetry then
          { c with
            refreshAllLocalCacheRetry := true
            refreshAllLocalCacheRemainCount := c.refreshAllLocalCacheRemainCount - 1 }
        else c)
    else (result ≠ INVALID_VALUE, { c with allLocalCacheInfo := sortAllCache unit newCache })

theorem length_place (cache : List (SimRdbInfo Rest)) (row : SimRdbInfo Rest) :
    (place cache row).length = cache.length := by
  rw [place]
  split
  · exact length_set
  · rfl

theorem length_foldl_place (rows cache : List (SimRdbInfo Rest)) :
    (rows.foldl place cache).length = cache.length := by
  induction rows generalizing cache with
  | nil => rfl
  | cons row rows ih => exact (ih _).trans (length_place cache row)

variable {rows : List (SimRdbInfo Rest)} {k : Nat}

theorem foldl_place_of_ne (hne : ∀ row ∈ rows, row.simId - 1 ≠ k) (cache : List (SimRdbInfo Rest)) :
    (rows.foldl place cache)[k]? = cache[k]? := by
  induction rows generalizing cache with
  | nil => rfl
  | cons row rows ih =>
    obtain ⟨_, hr⟩ := forall_mem_cons.1 hne
    rw [foldl_cons, ih hr, place]
    split
    · exact getElem?_set_ne (by omega)
    · rfl

theorem foldl_place_of_mem (hid : ∀ row ∈ rows, 1 ≤ row.simId)
    (hdf : (rows.map SimRdbInfo.simId).Nodup) {row : SimRdbInfo Rest} (hm : row ∈ rows)
    (cache : List (SimRdbInfo Rest)) (hf : row.simId ≤ cache.length) :
    (rows.foldl place cache)[(row.simId - 1).toNat]? = some row := by
  induction rows generalizing cache with
  | nil => cases hm
  | cons first rows ih =>
    obtain ⟨_, hr⟩ := forall_mem_cons.1 hid
    obtain ⟨hn, hdf⟩ := nodup_cons.1 hdf
    rcases mem_cons.1 hm with rfl | hm
    · -- no later row has the same number
      rw [foldl_cons, foldl_place_of_ne, place, if_pos (by omega), getElem?_set_self]
      · omega
      · intro other ho heq
        have hs : other.simId = row.simId := by omega
        exact hn (hs ▸ mem_map_of_mem ho)
    · exact ih hr hdf hm _ (by rw [length_place]; exact hf)

theorem sortAllCache_eq (unit : SimRdbInfo Rest) (rows : List (SimRdbInfo Rest)) :
    sortAllCache unit rows =
      rows.foldl place (.replicate rows.length { unit with isActive := DEACTIVE }) := by
  cases rows with
  | nil => rfl
  | cons row rows => rfl

theorem exists_row_of_place (hid : ∀ row ∈ rows, 1 ≤ row.simId)
    (hdf : (rows.map SimRdbInfo.simId).Nodup) (hf : ∀ row ∈ rows, row.simId ≤ rows.length)
    (hk : k < rows.length) : ∃ row ∈ rows, row.simId - 1 = k := by
  have hs : rows.map SimRdbInfo.simId ⊆
      (List.range rows.length).map fun k : Nat => (k : Int) + 1 := by
    refine forall_mem_map.2 fun row hr => ?_
    have hps := hid row hr
    have hle := hf row hr
    exact mem_map.2 ⟨(row.simId - 1).toNat, mem_range.2 (by omega), by omega⟩
  have hpr := (subperm_of_subset hdf hs).perm_of_length_le (by simp)
  have hm := hpr.mem_iff.2 (mem_map_of_mem (mem_range.2 hk))
  obtain ⟨row, hr, _⟩ := mem_map.1 hm
  exact ⟨row, hr, by omega⟩

/-- After a successful query every row is in the cache once, where its users look for it, if and
only if no number is larger than the number of rows. -/
theorem accounts_kept_iff (c : MultiSimController Rest) (unit : SimRdbInfo Rest) (retry : Bool)
    {rows : List (SimRdbInfo Rest)} (hid : ∀ row ∈ rows, 1 ≤ row.simId)
    (hdiff : (rows.map SimRdbInfo.simId).Nodup) :
    (∀ row ∈ rows, ∀ k : Nat,
      (c.getAllListFromDataBase unit retry (some (TELEPHONY_SUCCESS, rows))).2.allLocalCacheInfo[k]?
        = some row ↔ k = row.simId - 1) ↔
      ∀ row ∈ rows, row.simId ≤ rows.length := by
  show (∀ row ∈ rows, ∀ k : Nat, (sortAllCache unit rows)[k]? = some row ↔ k = row.simId - 1) ↔ _
  rw [sortAllCache_eq]
  have hln : ∀ {k : Nat} {row : SimRdbInfo Rest}, (rows.foldl place
      (.replicate rows.length { unit with isActive := DEACTIVE }))[k]? = some row →
      k < rows.length := by
    intro k row hr
    have hlt := (List.getElem?_eq_some_iff.1 hr).1
    rwa [length_foldl_place, length_replicate] at hlt
  constructor
  · intro hkp row hr
    have hps := hid row hr
    have hlt := hln ((hkp row hr (row.simId - 1).toNat).2 (by omega))
    omega
  · intro hf row hr k
    have hpl := fun row hr => foldl_place_of_mem hid hdiff
      hr (.replicate rows.length { unit with isActive := DEACTIVE })
      (by rw [length_replicate]; exact hf row hr)
    constructor
    · intro hk
      obtain ⟨other, ho, hpc⟩ := exists_row_of_place hid hdiff hf (hln hk)
      have ht := hpl other ho
      rw [hpc, Int.toNat_natCast, hk] at ht
      cases ht
      exact hpc.symm
    · intro hk
      rw [← hpl row hr, ← hk, Int.toNat_natCast]

theorem accounts_kept_in_order :
    (({} : MultiSimController Unit).getAllListFromDataBase ⟨0, 0, ()⟩ true
      (some (TELEPHONY_SUCCESS, [⟨2, 1, ()⟩, ⟨1, 0, ()⟩]))).2.allLocalCacheInfo[1]? =
        some ⟨2, 1, ()⟩ :=
  ((accounts_kept_iff {} ⟨0, 0, ()⟩ true (by decide) (by decide)).2 (by decide) ⟨2, 1, ()⟩
    (by decide) 1).2 rfl

/-- The second account was removed from the database: the third one has no place. -/
theorem third_account_lost :
    (({} : MultiSimController Unit).getAllListFromDataBase ⟨0, 0, ()⟩ true
      (some (TELEPHONY_SUCCESS, [⟨1, 1, ()⟩, ⟨3, 1, ()⟩]))).2.allLocalCacheInfo =
        [⟨1, 1, ()⟩, ⟨0, 0, ()⟩] := by
  decide

/-! ## Activation -/

inductive Code where
  | success
  | localPtrNull
  | argumentInvalid
  | arrayOutOfBounds
  | noSimCard
  | rilCmdFail
  | databaseWriteFail
deriving DecidableEq

structure Outcomes where
  isValidData : Bool
  isEsim : Bool
  setActiveSimToRil : Bool
  simDbHelper : Bool
  updateDataBySimId : Int

/-- A slot or place is compared as an unsigned number, or with both ends. -/
def InRange (i : Int) (length : Nat) : Prop := 0 ≤ i ∧ i < length

instance (i : Int) (length : Nat) : Decidable (InRange i length) := by
  unfold InRange
  infer_instance

def setIsActive (cache : List (SimRdbInfo Rest)) (i enable : Int) : List (SimRdbInfo Rest) :=
  cache.modify i.toNat fun info => { info with isActive := enable }

namespace MultiSimController

variable (c : MultiSimController Rest) (o : Outcomes) (slotId enable curSimId : Int)

def updateActiveSimInProgress : MultiSimController Rest :=
  if InRange slotId c.isSetActiveSimInProgress.length then
    { c with
      isSetActiveSimInProgress := c.isSetActiveSimInProgress.set slotId.toNat enable }
  else c

def updateSubState : MultiSimController Rest := c.updateActiveSimInProgress slotId 0

def account : Option (SimRdbInfo Rest) :=
  if InRange slotId c.localCacheInfo.length then c.localCacheInfo[slotId.toNat]? else none

def getTargetSimId : Option Int := (c.account slotId).map SimRdbInfo.simId

/-- The change of the caches. When the SIM has no place, the first of its two copies in the source
ends the progress, the second one lets it stand. -/
def setActiveInCaches (ends : Bool) : Code × MultiSimController Rest :=
  if ¬ InRange slotId c.localCacheInfo.length then
    (.argumentInvalid, c.updateActiveSimInProgress slotId 0)
  else
    let c := { c with localCacheInfo := setIsActive c.localCacheInfo slotId enable }
    if ¬ InRange (curSimId - 1) c.allLocalCacheInfo.length then
      (.arrayOutOfBounds, if ends then c.updateActiveSimInProgress slotId 0 else c)
    else
      let c := { c with allLocalCacheInfo := setIsActive c.allLocalCacheInfo (curSimId - 1) enable }
      (.success, c.updateSubState slotId)

def updataCacheSetActiveState : Code × MultiSimController Rest :=
  c.setActiveInCaches slotId enable curSimId true

def updateDBSetActiveResult : Code × MultiSimController Rest :=
  if !o.simDbHelper then (.localPtrNull, c.updateActiveSimInProgress slotId 0)
  else if o.updateDataBySimId = INVALID_VALUE then
    (.databaseWriteFail, c.updateActiveSimInProgress slotId 0)
  else (.success, { c with written := c.written ++ [(curSimId, enable)] })

def setActiveCommonSim (force : Bool) : Code × MultiSimController Rest :=
  let c := c.updateActiveSimInProgress slotId 1
  if !o.setActiveSimToRil then (.rilCmdFail, c.updateActiveSimInProgress slotId 0)
  else if force then (.success, c.updateSubState slotId)
  else
    match c.updataCacheSetActiveState slotId enable curSimId with
    | (.success, c) =>
      match c.updateDBSetActiveResult o slotId enable curSimId with
      | (.success, c) => c.setActiveInCaches slotId enable curSimId false
      | failed => failed
    | failed => failed

def setActiveSim (force : Bool) : Code × MultiSimController Rest :=
  if !o.isValidData && !o.isEsim then (.noSimCard, c)
  else
    let curSimId := (c.getTargetSimId slotId).getD 0
    if (c.getTargetSimId slotId = none ∧ !o.isEsim) ∨ curSimId ≤ 0 then (.argumentInvalid, c)
    else c.setActiveCommonSim o slotId enable curSimId force

def setActiveSimSatellite (force : Bool) : Code × MultiSimController Rest :=
  if !o.isValidData then (.noSimCard, c)
  else
    match c.getTargetSimId slotId with
    | none => (.argumentInvalid, c)
    | some curSimId =>
      let c := c.updateActiveSimInProgress slotId 1
      if force then (.success, c.updateSubState slotId)
      else
        match c.updateDBSetActiveResult o slotId enable curSimId with
        | (.success, c) => c.setActiveInCaches slotId enable curSimId false
        | failed => failed

end MultiSimController

/-- Success sets `isActive` in both caches and in the database, an error leaves it as it was, and
the progress is over. -/
def AllOrNothing (slotId enable : Int) (c : MultiSimController Rest) :
    Code × MultiSimController Rest → Prop
  | (.success, c') =>
    (∃ info sim, c'.account slotId = some info ∧
      c'.allLocalCacheInfo[(info.simId - 1).toNat]? = some sim ∧ info.isActive = enable ∧
      sim.isActive = enable ∧ c'.written.getLast? = some (info.simId, enable)) ∧
    c'.isSetActiveSimInProgress[slotId.toNat]? = some 0
  | (_, c') =>
    (c'.localCacheInfo.map SimRdbInfo.isActive = c.localCacheInfo.map SimRdbInfo.isActive ∧
      c'.allLocalCacheInfo.map SimRdbInfo.isActive = c.allLocalCacheInfo.map SimRdbInfo.isActive) ∧
    c'.isSetActiveSimInProgress[slotId.toNat]? = some 0

def Outcomes.stores (o : Outcomes) : Bool := o.simDbHelper && o.updateDataBySimId ≠ INVALID_VALUE

def MultiSimController.checked (c : MultiSimController Rest) (o : Outcomes) (slotId : Int) :
    Option (SimRdbInfo Rest) :=
  (c.account slotId).filter fun info => (o.isValidData || o.isEsim) && 0 < info.simId

def MultiSimController.checkedSatellite (c : MultiSimController Rest) (o : Outcomes)
    (slotId : Int) : Option (SimRdbInfo Rest) :=
  (c.account slotId).filter fun _ => o.isValidData

/-- The modem refuses the call, or the SIM has a place and the database is written, or the caches
already have the value. -/
def MultiSimController.Settles (c : MultiSimController Rest) (o : Outcomes) (enable : Int)
    (info : SimRdbInfo Rest) : Prop :=
  o.setActiveSimToRil → (InRange (info.simId - 1) c.allLocalCacheInfo.length ∧ o.stores) ∨
    (info.isActive = enable ∧ (InRange (info.simId - 1) c.allLocalCacheInfo.length →
      ∀ sim, c.allLocalCacheInfo[(info.simId - 1).toNat]? = some sim → sim.isActive = enable))

section Caches

variable {cache : List (SimRdbInfo Rest)} {i enable : Int}

theorem setIsActive_setIsActive :
    setIsActive (setIsActive cache i enable) i enable = setIsActive cache i enable := by
  simp [setIsActive, modify_modify_eq, Function.comp_def]

theorem length_setIsActive : (setIsActive cache i enable).length = cache.length :=
  length_modify ..

theorem getElem?_setIsActive {info : SimRdbInfo Rest} (hin : cache[i.toNat]? = some info) :
    (setIsActive cache i enable)[i.toNat]? = some { info with isActive := enable } := by
  simp [setIsActive, hin]

theorem map_isActive_setIsActive_iff :
    (setIsActive cache i enable).map SimRdbInfo.isActive = cache.map SimRdbInfo.isActive ↔
      ∀ info, cache[i.toNat]? = some info → info.isActive = enable := by
  constructor
  · intro hs info hin
    have hat := congrArg (·[i.toNat]?) hs
    simpa [setIsActive, hin, eq_comm] using hat
  · intro hal
    refine ext_getElem? fun j => ?_
    rw [setIsActive, getElem?_map, getElem?_map, getElem?_modify]
    split
    next hj =>
      subst hj
      cases hin : cache[i.toNat]? with
      | none => rfl
      | some info => exact congrArg some (hal info hin).symm
    next => simp

end Caches

section Activation

open MultiSimController

variable {c : MultiSimController Rest} {o : Outcomes} {slotId enable : Int} {info : SimRdbInfo Rest}

theorem allOrNothing_self_iff {code : Code} (hc : code ≠ .success) :
    AllOrNothing slotId enable c (code, c) ↔
      c.isSetActiveSimInProgress[slotId.toNat]? = some 0 := by
  cases code with
  | success => exact absurd rfl hc
  | _ => exact and_iff_right ⟨rfl, rfl⟩

theorem allOrNothing_success (hslot : InRange slotId c.isSetActiveSimInProgress.length)
    (hin : c.account slotId = some info)
    (hpl : InRange (info.simId - 1) c.allLocalCacheInfo.length) :
    AllOrNothing slotId enable c (.success, { c with
      localCacheInfo := setIsActive c.localCacheInfo slotId enable
      allLocalCacheInfo := setIsActive c.allLocalCacheInfo (info.simId - 1) enable
      isSetActiveSimInProgress := c.isSetActiveSimInProgress.set slotId.toNat 0
      written := c.written ++ [(info.simId, enable)] }) := by
  obtain ⟨_, hg⟩ := Option.ite_none_right_eq_some.1 hin
  obtain ⟨sim, hsm⟩ : ∃ sim, c.allLocalCacheInfo[(info.simId - 1).toNat]? = some sim := by
    obtain ⟨_, _⟩ := hpl
    exact ⟨_, getElem?_eq_getElem (by omega)⟩
  refine ⟨⟨{ info with isActive := enable }, { sim with isActive := enable }, ?_,
    getElem?_setIsActive hsm, rfl, rfl, getLast?_concat⟩, getElem?_set_self ?_⟩
  · refine (if_pos ?_).trans (getElem?_setIsActive hg)
    rwa [length_setIsActive]
  · obtain ⟨_, _⟩ := hslot
    omega

theorem updateDBSetActiveResult_of_stores (hs : o.stores) (c : MultiSimController Rest)
    (slotId enable simId : Int) :
    c.updateDBSetActiveResult o slotId enable simId =
      (.success, { c with written := c.written ++ [(simId, enable)] }) := by
  obtain ⟨hdb, hr⟩ : o.simDbHelper ∧ o.updateDataBySimId ≠ INVALID_VALUE := by
    simpa [Outcomes.stores] using hs
  simp [updateDBSetActiveResult, hdb, hr]

theorem updateDBSetActiveResult_of_not_stores (Rest : Type) (hs : ¬ o.stores) :
    ∃ code, (code = .localPtrNull ∨ code = .databaseWriteFail) ∧
      ∀ (c : MultiSimController Rest) slotId enable simId,
        c.updateDBSetActiveResult o slotId enable simId =
          (code, c.updateActiveSimInProgress slotId 0) := by
  by_cases hdb : o.simDbHelper
  · have hr : o.updateDataBySimId = INVALID_VALUE := by
      simpa [Outcomes.stores, hdb] using hs
    exact ⟨_, .inr rfl, by simp [updateDBSetActiveResult, hdb, hr]⟩
  · exact ⟨_, .inl rfl, by simp [updateDBSetActiveResult, hdb]⟩

variable (hslot : InRange slotId c.isSetActiveSimInProgress.length)

include hslot

theorem setActiveSim_iff (hin : c.checked o slotId = some info) :
    AllOrNothing slotId enable c (c.setActiveSim o slotId enable false) ↔
      c.Settles o enable info := by
  obtain ⟨hin, hch⟩ := Option.filter_eq_some_iff.1 hin
  obtain ⟨_, hid⟩ : (o.isValidData ∨ o.isEsim) ∧ 0 < info.simId := by simpa using hch
  obtain ⟨hlc, hg⟩ := Option.ite_none_right_eq_some.1 hin
  have hlt : slotId.toNat < c.isSetActiveSimInProgress.length := by
    obtain ⟨_, _⟩ := hslot
    omega
  have hcm : c.setActiveSim o slotId enable false =
      c.setActiveCommonSim o slotId enable info.simId false := by
    rw [setActiveSim, if_neg (by grind), getTargetSimId, hin]
    exact if_neg (by simpa using hid)
  rw [hcm, Settles]
  by_cases hr : o.setActiveSimToRil
  · by_cases hpl : InRange (info.simId - 1) c.allLocalCacheInfo.length
    · by_cases hst : o.stores
      · refine iff_of_true ?_ fun _ => .inl ⟨hpl, hst⟩
        simpa [setActiveCommonSim, hr, updataCacheSetActiveState, setActiveInCaches, updateSubState,
          updateActiveSimInProgress, hslot, hlc, hpl, length_setIsActive,
          setIsActive_setIsActive, updateDBSetActiveResult_of_stores hst] using
          allOrNothing_success hslot hin hpl
      · obtain ⟨_, hcd, hdb⟩ := updateDBSetActiveResult_of_not_stores Rest hst
        rcases hcd with rfl | rfl
        all_goals
          simp [setActiveCommonSim, hr, updataCacheSetActiveState, setActiveInCaches, updateSubState,
            updateActiveSimInProgress, hslot, hlc, hpl, hdb, hst, AllOrNothing,
            map_isActive_setIsActive_iff, hg, hlt]
    · simp [setActiveCommonSim, hr, updataCacheSetActiveState, setActiveInCaches,
        updateActiveSimInProgress, hslot, hlc, hpl, AllOrNothing,
        map_isActive_setIsActive_iff, hg, hlt]
  · simp [setActiveCommonSim, hr, updateActiveSimInProgress, hslot, AllOrNothing, hlt]

theorem setActiveSimSatellite_iff (hin : c.checkedSatellite o slotId = some info) :
    AllOrNothing slotId enable c (c.setActiveSimSatellite o slotId enable false) ↔
      (o.stores → InRange (info.simId - 1) c.allLocalCacheInfo.length) := by
  obtain ⟨hin, hcr⟩ := Option.filter_eq_some_iff.1 hin
  obtain ⟨hlc, _⟩ := Option.ite_none_right_eq_some.1 hin
  have hlt : slotId.toNat < c.isSetActiveSimInProgress.length := by
    obtain ⟨_, _⟩ := hslot
    omega
  by_cases hst : o.stores
  · by_cases hpl : InRange (info.simId - 1) c.allLocalCacheInfo.length
    · refine iff_of_true ?_ fun _ => hpl
      simpa [setActiveSimSatellite, hcr, getTargetSimId, hin, setActiveInCaches, updateSubState,
        updateActiveSimInProgress, hslot, hlc, hpl,
        updateDBSetActiveResult_of_stores hst] using allOrNothing_success hslot hin hpl
    · simp [setActiveSimSatellite, hcr, getTargetSimId, hin, setActiveInCaches,
        updateActiveSimInProgress, hslot, hlc, hpl, hst,
        updateDBSetActiveResult_of_stores, AllOrNothing, hlt]
  · obtain ⟨_, hcd, hdb⟩ := updateDBSetActiveResult_of_not_stores Rest hst
    rcases hcd with rfl | rfl
    all_goals
      simp [setActiveSimSatellite, hcr, getTargetSimId, hin, updateActiveSimInProgress, hslot,
        hdb, hst, AllOrNothing, hlt]

omit hslot

theorem setActiveSim_of_unchecked (hn : c.checked o slotId = none) :
    AllOrNothing slotId enable c (c.setActiveSim o slotId enable false) ↔
      c.isSetActiveSimInProgress[slotId.toNat]? = some 0 := by
  rw [setActiveSim]
  split
  next => exact allOrNothing_self_iff (by decide)
  next hc =>
    rw [if_pos]
    · exact allOrNothing_self_iff (by decide)
    · right
      cases hin : c.account slotId with
      | none => simp [getTargetSimId, hin]
      | some info => grind [checked, getTargetSimId]

theorem setActiveSimSatellite_of_unchecked (hn : c.checkedSatellite o slotId = none) :
    AllOrNothing slotId enable c (c.setActiveSimSatellite o slotId enable false) ↔
      c.isSetActiveSimInProgress[slotId.toNat]? = some 0 := by
  rw [setActiveSimSatellite]
  split
  next => exact allOrNothing_self_iff (by decide)
  next hc =>
    cases hin : c.account slotId with
    | none =>
      rw [getTargetSimId, hin]
      exact allOrNothing_self_iff (by decide)
    | some info => simp_all [checkedSatellite]

end Activation

/-- Both calls are all or nothing if and only if they find the progress over when their checks
refuse them, and otherwise `SetActiveSim` settles, and a SIM that `SetActiveSimSatellite` writes to
the database has a place. -/
theorem set_active_all_or_nothing_iff (c : MultiSimController Rest) (o : Outcomes)
    (slotId enable : Int) (hslot : InRange slotId c.isSetActiveSimInProgress.length) :
    (AllOrNothing slotId enable c (c.setActiveSim o slotId enable false) ↔
      match c.checked o slotId with
      | none => c.isSetActiveSimInProgress[slotId.toNat]? = some 0
      | some info => c.Settles o enable info) ∧
    (AllOrNothing slotId enable c (c.setActiveSimSatellite o slotId enable false) ↔
      match c.checkedSatellite o slotId with
      | none => c.isSetActiveSimInProgress[slotId.toNat]? = some 0
      | some info => o.stores → InRange (info.simId - 1) c.allLocalCacheInfo.length) := by
  constructor
  · cases hin : c.checked o slotId with
    | none => exact setActiveSim_of_unchecked hin
    | some info => exact setActiveSim_iff hslot hin
  · cases hin : c.checkedSatellite o slotId with
    | none => exact setActiveSimSatellite_of_unchecked hin
    | some info => exact setActiveSimSatellite_iff hslot hin

def oneSim : MultiSimController Unit where
  localCacheInfo := [⟨1, 0, ()⟩]
  allLocalCacheInfo := [⟨1, 0, ()⟩]
  isSetActiveSimInProgress := [0]

theorem set_active_all_or_nothing_oneSim :
    AllOrNothing 0 1 oneSim (oneSim.setActiveSim ⟨true, false, true, true, 1⟩ 0 1 false) :=
  (set_active_all_or_nothing_iff oneSim ⟨true, false, true, true, 1⟩ 0 1 (by decide)).1.2
    fun _ => .inl (by decide)

/-- The database cannot be written: the call returns an error, and the SIM is active in both
caches. -/
theorem failed_write_activates :
    oneSim.setActiveSim ⟨true, false, true, true, INVALID_VALUE⟩ 0 1 false =
        (.databaseWriteFail, { oneSim with
          localCacheInfo := [⟨1, 1, ()⟩]
          allLocalCacheInfo := [⟨1, 1, ()⟩] }) ∧
      ¬ AllOrNothing 0 1 oneSim
        (oneSim.setActiveSim ⟨true, false, true, true, INVALID_VALUE⟩ 0 1 false) :=
  ⟨rfl, fun h => absurd h.1.1 (by decide)⟩

end TelephonyCore.Sim.Accounts
