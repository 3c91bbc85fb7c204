import Mathlib.Data.List.Perm.Basic
import TelephonyCore.Lib.Slots
import TelephonyCore.Lib.Transition

/-!
# `SimCacheSyncManager`: the SIM cache after a switch of the user

After a switch the rows of the SIM cache should be in the database of the new user.
`SyncCacheOnUserSwitch` decides by a persistent mark and the flag `lastSyncFailed_` whether to write
them. But `ExecuteSyncProcess` declares its list `localCache` and never fills it, so that what is
written is an empty list: no call changes the database, and every write succeeds. Calls may overlap;
a step of the machine is a step of one of them.
-/

namespace TelephonyCore.Sim.CacheSync

open Lib

/-! ## The database -/

inductive Column where
  | simId
  | slotIndex
  | iccId
  | cardId
  | isActive
  | isEsim
  | simLabelIndex
  | isMainCard
  | isVoiceCard
  | isMessageCard
  | isCellularDataCard
  | operatorName
  | showName
  | phoneNumber
deriving DecidableEq

inductive Value where
  | int (value : Int)
  | string (value : String)
deriving DecidableEq

/-- A row of the database, and a record of the cache. -/
abbrev SimRdbInfo := Column → Value

abbrev DataShareValuesBucket := List (Column × Value)

def put (record : SimRdbInfo) (columns : List Column) : DataShareValuesBucket :=
  columns.map fun column => (column, record column)

def buildDataShareValues (record : SimRdbInfo) : DataShareValuesBucket :=
  put record [.slotIndex, .iccId, .cardId, .isActive, .isEsim, .simLabelIndex, .isMainCard,
    .isVoiceCard, .isMessageCard, .isCellularDataCard, .operatorName, .showName]

def columnOfField : String → Option Column
  | "showName" => some .showName
  | "phoneNumber" => some .phoneNumber
  | "simLabelIndex" => some .simLabelIndex
  | "operatorName" => some .operatorName
  | "isMainCard" => some .isMainCard
  | "isVoiceCard" => some .isVoiceCard
  | "isMessageCard" => some .isMessageCard
  | "isCellularDataCard" => some .isCellularDataCard
  | "isActive" => some .isActive
  | "isEsim" => some .isEsim
  | _ => none

def buildPartialDataShareValues (record : SimRdbInfo) (modifiedFields : List String) :
    DataShareValuesBucket :=
  if "all_fields" ∈ modifiedFields then buildDataShareValues record
  else put record (modifiedFields.filterMap columnOfField)

def SimRdbInfo.set (row : SimRdbInfo) (values : DataShareValuesBucket) : SimRdbInfo :=
  values.foldl (fun row value => Function.update row value.1 value.2) row

abbrev Database := List SimRdbInfo

/-- Which accesses to the database succeed for a record. -/
structure Access where
  query : Bool
  write : Bool

def updateDataByIccId (db : Database) (iccId : Value) (values : DataShareValuesBucket) : Database :=
  db.map fun row => if row .iccId = iccId then row.set values else row

/-- A row of an insertion has 0 and the empty text where no value is given. -/
def insertData (db : Database) (values : DataShareValuesBucket) : Database :=
  let row : SimRdbInfo := fun
    | .iccId | .cardId | .operatorName | .showName | .phoneNumber => .string ""
    | _ => .int 0
  db ++ [row.set values]

/-- A query without a row leaves the record as it is, with an empty text. -/
def syncSingleRecord (access : Access) (db : Database) (record : SimRdbInfo) : Option Database :=
  let existing := ((db.filter (· .iccId = record .iccId)).getLast?.map (· .iccId)).getD (.string "")
  if access.write then
    some (if access.query ∧ record .iccId = existing then
        updateDataByIccId db (record .iccId) (buildDataShareValues record)
      else insertData db (buildDataShareValues record))
  else none

def syncToDatabase : Database → List (SimRdbInfo × Access) → Bool × Database
  | db, [] => (true, db)
  | db, (record, access) :: data =>
    match syncSingleRecord access db record with
    | none => (false, db)
    | some db' => syncToDatabase db' data

def syncModifiedRecords (localCache : List SimRdbInfo) :
    Database → List ((String × List String) × Access) → Bool × Database
  | db, [] => (true, db)
  | db, ((iccId, modifiedFields), access) :: entries =>
    match localCache.find? (· .iccId = .string iccId) with
    | none => syncModifiedRecords localCache db entries
    | some record =>
      if access.write then
        syncModifiedRecords localCache (updateDataByIccId db (.string iccId)
          (buildPartialDataShareValues record modifiedFields)) entries
      else (false, db)

/-! ## The calls -/

def ACTIVE_USER_ID : Int := 100
def PRIVATE_USER_ID : Int := 101

inductive Result where
  | success
  | localPtrNull
  | databaseReadFail
  | databaseWriteFail
deriving DecidableEq

inductive Pc where
  | setParameter
  | determineSyncStrategy (isFirstTime : Bool)
  /-- `ExecuteSyncProcess`, before `isSyncing_.exchange` -/
  | exchange (needFullSync : Bool)
  | queryTargetUserData (needFullSync : Bool)
  | performSync (needFullSync : Bool)

structure Call where
  currentUserId : Int
  lastUserId : Int
  pc : Pc

structure Return where
  currentUserId : Int
  lastUserId : Int
  result : Result
  /-- another synchronisation is running -/
  isSyncing : Bool
  database : Database

structure State where
  database : Database
  /-- the parameter `PROP_FIRST_SWITCH_100_TO_101` is set -/
  firstSwitch : Bool := false
  lastSyncFailed : Bool := false
  isSyncing : Bool := false
  calls : List Call := []
  returned : List Return := []

/-- What a step of a call finds. -/
structure Environment where
  simRdbHelper : Bool := true
  multiSimController : Bool := true
  queryAllData : Bool := true
  modifiedRecords : List ((String × List String) × Access) := []

inductive Label where
  | syncCacheOnUserSwitch (currentUserId lastUserId : Int) (env : Environment)
  | advance (i : Nat) (env : Environment)

def State.returns (s : State) (call : Call) (result : Result) : State :=
  { s with
    returned := s.returned ++ [{
      currentUserId := call.currentUserId
      lastUserId := call.lastUserId
      result
      isSyncing := s.isSyncing
      database := s.database }] }

def State.goto (s : State) (call : Call) (pc : Pc) : State :=
  { s with calls := s.calls ++ [{ call with pc }] }

def validateSyncParams (currentUserId lastUserId : Int) : Bool :=
  currentUserId ≠ lastUserId ∧ (currentUserId = ACTIVE_USER_ID ∨ currentUserId = PRIVATE_USER_ID) ∧
    (lastUserId = ACTIVE_USER_ID ∨ lastUserId = PRIVATE_USER_ID)

/-- The call up to the read of the parameter. -/
def State.syncCacheOnUserSwitch (s : State) (env : Environment) (currentUserId lastUserId : Int) :
    State :=
  let call : Call := ⟨currentUserId, lastUserId, .setParameter⟩
  if ¬ validateSyncParams currentUserId lastUserId then s.returns call .success
  else if ¬ (env.simRdbHelper ∧ env.multiSimController) then s.returns call .localPtrNull
  else if currentUserId = PRIVATE_USER_ID ∧ lastUserId = ACTIVE_USER_ID ∧ ¬ s.firstSwitch then
    s.goto call .setParameter
  else s.goto call (.determineSyncStrategy false)

/-- With the list `localCache` of its caller. -/
def performSync (env : Environment) (needFullSync : Bool) (localCache : List (SimRdbInfo × Access))
    (db : Database) : Bool × Database :=
  if needFullSync then syncToDatabase db localCache
  else if env.multiSimController then syncModifiedRecords [] db env.modifiedRecords
  else (false, db)

def State.advance (s : State) (call : Call) (env : Environment) : State :=
  match call.pc with
  | .setParameter => { s with firstSwitch := true }.goto call (.determineSyncStrategy true)
  | .determineSyncStrategy isFirstTime =>
    if isFirstTime ∨ s.lastSyncFailed then s.goto call (.exchange true) else s.returns call .success
  | .exchange needFullSync =>
    if s.isSyncing then s.returns call .success
    else { s with isSyncing := true }.goto call (.queryTargetUserData needFullSync)
  | .queryTargetUserData needFullSync =>
    if env.queryAllData then s.goto call (.performSync needFullSync)
    else { s with isSyncing := false }.returns call .databaseReadFail
  | .performSync needFullSync =>
    -- `localCache` is empty here
    let (result, database) := performSync env needFullSync [] s.database
    { s with database, lastSyncFailed := ¬ result, isSyncing := false }.returns call
      (if result then .success else .databaseWriteFail)

def step (s : State) : Label → Option State
  | .syncCacheOnUserSwitch currentUserId lastUserId env =>
    some (s.syncCacheOnUserSwitch env currentUserId lastUserId)
  | .advance i env =>
    s.calls[i]?.map fun call => { s with calls := s.calls.eraseIdx i }.advance call env

/-! ## The database is not changed -/

def Call.ToPrivate (call : Call) : Prop :=
  call.currentUserId = PRIVATE_USER_ID ∧ call.lastUserId = ACTIVE_USER_ID

/-- The call is one after which the cache should be in the database. -/
def Return.Synchronises (r : Return) : Prop :=
  r.currentUserId = PRIVATE_USER_ID ∧ r.lastUserId = ACTIVE_USER_ID ∧ r.result = .success ∧
    r.isSyncing = false

def Held (cache : List SimRdbInfo) (db : Database) : Prop :=
  ∀ record ∈ cache, ∃ row ∈ db, ∀ value ∈ buildDataShareValues record, row value.1 = value.2

/-- The call is between the two assignments of `isSyncing_`. -/
def Pc.synchronising : Pc → Bool
  | .queryTargetUserData _ | .performSync _ => true
  | _ => false

def synchronising (calls : List Call) : Bool := calls.any (·.pc.synchronising)

/-- A call that is not the first one is skipped only while another one is synchronising, and none
goes on after a query that has succeeded. -/
def Pc.Hindered (others : Bool) : Pc → Prop
  | .determineSyncStrategy isFirstTime => isFirstTime ∨ others
  | .performSync _ => False
  | _ => True

/-- The calls from user 100 to user 101 are hindered. -/
def Hindered (s : State) : Label → Prop
  | .syncCacheOnUserSwitch .. => True
  | .advance i _ => ∀ call, s.calls[i]? = some call → call.ToPrivate →
      call.pc.Hindered (synchronising s.calls)

def Pc.Full : Pc → Prop
  | .exchange needFullSync | .queryTargetUserData needFullSync | .performSync needFullSync =>
    needFullSync = true
  | _ => True

/-- The calls are those of the state, or those and one that is about to go on. The strategy is
always the full one, since no write fails, and one call at most is synchronising. -/
structure Unchanged (db : Database) (calls : List Call) (s : State) : Prop where
  database : s.database = db
  returned : ∀ r ∈ s.returned, r.database = db
  lastSyncFailed : s.lastSyncFailed = false
  full : ∀ call ∈ calls, call.pc.Full
  isSyncing : calls.countP (·.pc.synchronising) = if s.isSyncing then 1 else 0

variable {db : Database} {s s' : State} {call : Call} {env : Environment}

theorem Unchanged.take {i : Nat} (h : Unchanged db s.calls s) (hc : s.calls[i]? = some call) :
    Unchanged db (call :: s.calls.eraseIdx i) { s with calls := s.calls.eraseIdx i } := by
  obtain ⟨hlt, rfl⟩ := List.getElem?_eq_some_iff.1 hc
  have hp := List.getElem_cons_eraseIdx_perm hlt
  exact ⟨h.database, h.returned, h.lastSyncFailed, fun c hm => h.full c (hp.mem_iff.1 hm),
    (hp.countP_eq _).trans h.isSyncing⟩

theorem Unchanged.begins (h : Unchanged db s.calls s) (currentUserId lastUserId : Int) :
    Unchanged db (⟨currentUserId, lastUserId, .setParameter⟩ :: s.calls) s :=
  ⟨h.database, h.returned, h.lastSyncFailed, List.forall_mem_cons.2 ⟨trivial, h.full⟩,
    (List.countP_cons_of_neg (by simp [Pc.synchronising])).trans h.isSyncing⟩

theorem synchronising_eraseIdx {i : Nat} (hc : s.calls[i]? = some call)
    (hs : call.pc.synchronising = false) :
    synchronising (s.calls.eraseIdx i) = synchronising s.calls := by
  obtain ⟨hlt, rfl⟩ := List.getElem?_eq_some_iff.1 hc
  refine Eq.trans ?_ (List.getElem_cons_eraseIdx_perm hlt).any_eq
  rw [List.any_cons, hs, Bool.false_or, synchronising]

theorem Unchanged.goto {pc : Pc} {isSyncing firstSwitch : Bool}
    (h : Unchanged db (call :: s.calls) s) (hf : pc.Full)
    (hs : [call].countP (·.pc.synchronising) + (if isSyncing then 1 else 0) =
      [{ call with pc }].countP (·.pc.synchronising) + if s.isSyncing then 1 else 0) :
    Unchanged db ({ s with isSyncing, firstSwitch }.goto call pc).calls
      ({ s with isSyncing, firstSwitch }.goto call pc) := by
  refine ⟨h.database, h.returned, h.lastSyncFailed,
    forall_mem_concat (fun c hm => h.full c (.tail _ hm)) hf, ?_⟩
  have hc := h.isSyncing
  rw [← List.singleton_append, List.countP_append] at hc
  rw [State.goto, List.countP_append]
  dsimp only at hs hc ⊢
  omega

theorem Unchanged.returns {result : Result} {isSyncing : Bool}
    (h : Unchanged db (call :: s.calls) s)
    (hs : [call].countP (·.pc.synchronising) + (if isSyncing then 1 else 0) =
      if s.isSyncing then 1 else 0) :
    Unchanged db s.calls ({ s with isSyncing }.returns call result) := by
  refine ⟨h.database, forall_mem_concat h.returned h.database, h.lastSyncFailed,
    fun c hm => h.full c (.tail _ hm), ?_⟩
  have hc := h.isSyncing
  rw [← List.singleton_append, List.countP_append] at hc
  exact Nat.add_left_cancel (hc.trans hs.symm)

/-- No call has been one after which the cache should be there. -/
def Quiet (s : State) : Prop := ∀ r ∈ s.returned, ¬ r.Synchronises

theorem quiet_returns {result : Result} : Quiet (s.returns call result) ↔
    Quiet s ∧ (call.ToPrivate → result = .success → s.isSyncing = true) := by
  simp only [Quiet, State.returns, List.forall_mem_append, List.forall_mem_singleton,
    Return.Synchronises, Call.ToPrivate, and_imp, not_and, Bool.not_eq_false]

/-- `isSyncing_` is set while a call is synchronising. -/
theorem Unchanged.isSyncing_eq (h : Unchanged db (call :: s.calls) s)
    (hc : call.pc.synchronising = false) : s.isSyncing = synchronising s.calls := by
  have hn := h.isSyncing
  rw [List.countP_cons_of_neg (by simp [hc])] at hn
  rw [Bool.eq_iff_iff, synchronising, List.any_eq_true, ← List.countP_pos_iff, hn]
  cases s.isSyncing <;> simp

theorem Unchanged.isSyncing_of (h : Unchanged db (call :: s.calls) s)
    (hc : call.pc.synchronising = true) : s.isSyncing = true := by
  have hn := h.isSyncing
  rw [List.countP_cons_of_pos (by exact hc)] at hn
  by_contra hs
  simp [hs] at hn

theorem Unchanged.advance (h : Unchanged db (call :: s.calls) s) :
    Unchanged db (s.advance call env).calls (s.advance call env) ∧
      (Quiet (s.advance call env) ↔
        Quiet s ∧ (call.ToPrivate → call.pc.Hindered (synchronising s.calls))) := by
  obtain ⟨currentUserId, lastUserId, pc⟩ := call
  have hfull := h.full _ (.head _)
  cases pc with
  | setParameter => exact ⟨h.goto trivial rfl, by simp [Pc.Hindered]; rfl⟩
  | determineSyncStrategy isFirstTime =>
    simp only [State.advance, h.lastSyncFailed]
    cases isFirstTime with
    | true => exact ⟨h.goto rfl rfl, by simp [Pc.Hindered]; rfl⟩
    | false =>
      refine ⟨h.returns (by simp [Pc.synchronising]), ?_⟩
      simp [quiet_returns, Pc.Hindered, h.isSyncing_eq rfl]
  | exchange needFullSync =>
    simp only [State.advance]
    split
    next hs =>
      refine ⟨h.returns (by simp [Pc.synchronising]), ?_⟩
      simp [quiet_returns, Pc.Hindered, hs]
    next hs =>
      refine ⟨h.goto hfull ?_, by simp [Pc.Hindered]; rfl⟩
      simp [Pc.synchronising, hs]
  | queryTargetUserData needFullSync =>
    simp only [State.advance]
    split
    · exact ⟨h.goto hfull rfl, by simp [Pc.Hindered]; rfl⟩
    · refine ⟨h.returns ?_, by simp [quiet_returns, Pc.Hindered]; rfl⟩
      simp [h.isSyncing_of rfl, Pc.synchronising]
  | performSync needFullSync =>
    obtain rfl : needFullSync = true := hfull
    -- nothing is written, and this succeeds
    have heq : s.advance ⟨currentUserId, lastUserId, .performSync true⟩ env =
        { s with isSyncing := false }.returns ⟨currentUserId, lastUserId, .performSync true⟩
          .success := by
      simp [State.advance, performSync, syncToDatabase, State.returns, h.lastSyncFailed]
    rw [heq]
    refine ⟨h.returns ?_, by simp [quiet_returns, Pc.Hindered]; exact fun _ => .rfl⟩
    simp [h.isSyncing_of rfl, Pc.synchronising]

theorem Unchanged.step {l : Label} (h : Unchanged db s.calls s)
    (hs : CacheSync.step s l = some s') :
    Unchanged db s'.calls s' ∧ (Quiet s' ↔ Quiet s ∧ Hindered s l) := by
  cases l with
  | syncCacheOnUserSwitch currentUserId lastUserId env =>
    obtain rfl := Option.some.inj hs
    have hb := h.begins currentUserId lastUserId
    unfold State.syncCacheOnUserSwitch
    split
    next hv =>
      refine ⟨hb.returns (by simp [Pc.synchronising]), ?_⟩
      have hn : ¬ Call.ToPrivate ⟨currentUserId, lastUserId, .setParameter⟩ := by
        rintro ⟨rfl, rfl⟩
        exact hv (by decide)
      simp [quiet_returns, hn, Hindered]
    · split
      · exact ⟨hb.returns (by simp [Pc.synchronising]), by simp [quiet_returns, Hindered]⟩
      · split
        all_goals exact ⟨hb.goto trivial rfl, by simp [Hindered]; rfl⟩
  | advance i env =>
    obtain ⟨call, hc, rfl⟩ := Option.map_eq_some_iff.1 hs
    obtain ⟨hu, hq⟩ := @Unchanged.advance db { s with calls := s.calls.eraseIdx i } call env
      (h.take hc)
    refine ⟨hu, hq.trans (and_congr_right fun _ => ?_)⟩
    simp only [Hindered, hc, Option.some.injEq, forall_eq']
    refine imp_congr_right fun _ => ?_
    cases hpc : call.pc with
    | determineSyncStrategy isFirstTime =>
      rw [Pc.Hindered, Pc.Hindered, synchronising_eraseIdx hc (by rw [hpc]; rfl)]
    | _ => rfl

end TelephonyCore.Sim.CacheSync
