import TelephonyCore.Lib.Slots
import TelephonyCore.Lib.Transition

/-!
# `OperatorConfigCache`: the configuration of a removed card

When the card goes, `ProcessEvent` clears the operator key and loads the default configuration, but
it leaves `opc_` as it is. Only a load that has found something replaces `opc_`, by whatever key the
load has read before. So the values of the card stay if the default load finds nothing, and come
back with a load that began before the removal and ends after it. The content of `opc_` is what the
last load that found something has found, and the condition is on that load.
-/

namespace TelephonyCore.Sim.OperatorConfigCache

open Lib List

/-- Where a load is. It reads the ICCID and then the operator key, and `none` is the initial key. -/
inductive Pc (IccId OpKey : Type) where
  | getSimIccId
  | getOpKey (iccid : IccId)
  | loadFile (iccid : IccId) (opkey : Option OpKey)
deriving DecidableEq

/-- A load of the event handler or of a caller. -/
structure Load (IccId OpKey : Type) where
  handler : Bool
  pc : Pc IccId OpKey := .getSimIccId
deriving DecidableEq

/-- A load that has ended. -/
structure Loaded (IccId OpKey Value : Type) where
  iccid : IccId
  opkey : Option OpKey
  values : List Value
deriving DecidableEq

/-- The loads that have ended, the last one first, and the keys of the cards that have been removed
are kept for the statements. -/
structure State (IccId OpKey Value : Type) where
  iccid : IccId
  opkey : Option OpKey := none
  opc : List Value := []
  absent : Bool := false
  loads : List (Load IccId OpKey) := []
  loaded : List (Loaded IccId OpKey Value) := []
  removed : List OpKey := []
deriving DecidableEq

/-- `present` is a state change to a card whose operator is found, `absent` one to not present,
locked or unknown. The ICCID is that of the file manager, which changes it on its own. -/
inductive Label (IccId OpKey Value : Type) where
  | setIccId (iccid : IccId)
  | present (opkey : OpKey)
  | absent
  | getOperatorConfigs
  | readIccId (i : Nat)
  | readOpKey (i : Nat)
  | finish (i : Nat) (file custom : Option (List Value))

section

variable {IccId OpKey Value : Type}

/-- The values of `LoadOperatorConfigFile`: the custom system is asked where the file has none. -/
def loadOperatorConfigFile (file custom : Option (List Value)) : List Value :=
  match file with
  | some (value :: rest) => value :: rest
  | _ => custom.getD []

variable (isDefault : Value → Bool)

def handlerBusy (s : State IccId OpKey Value) : Bool := s.loads.any Load.handler

/-- The end of a load. A default load finds default values only. -/
def finishLoad (s : State IccId OpKey Value) (i : Nat) (load : Loaded IccId OpKey Value) :
    Option (State IccId OpKey Value) :=
  if load.opkey = none ∧ ∃ v ∈ load.values, isDefault v = false then none
  else
    some { s with
      loads := s.loads.eraseIdx i
      opc := if load.values.isEmpty then s.opc else load.values
      loaded := load :: s.loaded }

def step [DecidableEq OpKey] (s : State IccId OpKey Value) :
    Label IccId OpKey Value → Option (State IccId OpKey Value)
  | .setIccId iccid => some { s with iccid }
  | .present opkey =>
    if handlerBusy s ∨ ¬(s.opkey = none ∨ s.opkey = some opkey) then none
    else some { s with opkey := some opkey, absent := false }
  | .absent =>
    if handlerBusy s then none
    else
      some { s with
        opkey := none
        absent := true
        removed := s.opkey.toList ++ s.removed
        loads := ⟨true, .getSimIccId⟩ :: s.loads }
  | .getOperatorConfigs =>
    some (if s.opc.isEmpty then { s with loads := ⟨false, .getSimIccId⟩ :: s.loads } else s)
  | .readIccId i =>
    match s.loads[i]? with
    | some ⟨handler, .getSimIccId⟩ =>
      some { s with loads := s.loads.set i ⟨handler, .getOpKey s.iccid⟩ }
    | _ => none
  | .readOpKey i =>
    match s.loads[i]? with
    | some ⟨handler, .getOpKey iccid⟩ =>
      some { s with loads := s.loads.set i ⟨handler, .loadFile iccid s.opkey⟩ }
    | _ => none
  | .finish i file custom =>
    match s.loads[i]? with
    | some ⟨_, .loadFile iccid opkey⟩ =>
      finishLoad isDefault s i ⟨iccid, opkey, loadOperatorConfigFile file custom⟩
    | _ => none

/-- With no card and no load, what was loaded for a removed card is there only by default. A load
that has read the ICCID of one card and the key of another is one for the latter. -/
def Dropped (s : State IccId OpKey Value) : Prop :=
  s.absent = true → s.loads = [] → ∀ v ∈ s.opc,
    (∃ load ∈ s.loaded, ∃ opkey ∈ s.removed, load.opkey = some opkey ∧ v ∈ load.values) →
    isDefault v = true

/-- The last load that has found something. -/
def lastFound (loaded : List (Loaded IccId OpKey Value)) : Option (Loaded IccId OpKey Value) :=
  loaded.find? fun load => !load.values.isEmpty

/-- When the last running load ends with no card there, the last load that has found something, this
one or one before it, has read the initial key or found default values only. -/
def LastFoundDefault (s : State IccId OpKey Value) : Label IccId OpKey Value → Prop
  | .finish i file custom =>
    s.absent = true → s.loads.eraseIdx i = [] →
      ∀ handler iccid opkey, s.loads[i]? = some ⟨handler, .loadFile iccid opkey⟩ →
        ∀ load, lastFound (⟨iccid, opkey, loadOperatorConfigFile file custom⟩ :: s.loaded) =
          some load → load.opkey = none ∨ ∀ v ∈ load.values, isDefault v = true
  | _ => True

/-- Every card with a load is there or has been removed, and `opc_` is what was found last. -/
structure CacheInv (s : State IccId OpKey Value) : Prop where
  opc : s.opc = ((lastFound s.loaded).map Loaded.values).getD []
  initial : ∀ load ∈ s.loaded, load.opkey = none → ∀ v ∈ load.values, isDefault v = true
  loaded : ∀ load ∈ s.loaded, ∀ opkey, load.opkey = some opkey →
    opkey ∈ s.removed ∨ s.opkey = some opkey
  reading : ∀ load ∈ s.loads, ∀ iccid opkey, load.pc = .loadFile iccid (some opkey) →
    opkey ∈ s.removed ∨ s.opkey = some opkey
  absent : s.absent = true → s.opkey = none
  dropped : Dropped isDefault s

variable {isDefault} {s s' : State IccId OpKey Value}

/-- The loads and the card change, and the state is not one without a load after a removal. -/
theorem CacheInv.of_keys {s' : State IccId OpKey Value} (h : CacheInv isDefault s)
    (hopc : s'.opc = s.opc) (hloaded : s'.loaded = s.loaded)
    (hk : ∀ opkey, opkey ∈ s.removed ∨ s.opkey = some opkey →
      opkey ∈ s'.removed ∨ s'.opkey = some opkey)
    (hr : ∀ load ∈ s'.loads, load ∈ s.loads ∨ ∀ iccid opkey,
      load.pc = .loadFile iccid (some opkey) → s'.opkey = some opkey)
    (ha : s'.absent = true → s'.opkey = none) (hd : Dropped isDefault s') :
    CacheInv isDefault s' := by
  refine ⟨by rw [hopc, hloaded, h.opc], by rw [hloaded]; exact h.initial, ?_, ?_, ha, hd⟩
  · rw [hloaded]
    exact fun load hl opkey ho => hk opkey (h.loaded load hl opkey ho)
  · intro load hl iccid opkey hpc
    rcases hr load hl with hl | hl
    · exact hk opkey (h.reading load hl iccid opkey hpc)
    · exact .inr (hl iccid opkey hpc)

theorem CacheInv.set {i : Nat} {load load' : Load IccId OpKey} (h : CacheInv isDefault s)
    (hi : s.loads[i]? = some load)
    (hr : ∀ iccid opkey, load'.pc = .loadFile iccid (some opkey) → s.opkey = some opkey) :
    CacheInv isDefault { s with loads := s.loads.set i load' } := by
  refine h.of_keys rfl rfl (fun _ => id) (fun l hl => ?_) h.absent fun _ hn => ?_
  · rcases mem_or_eq_of_mem_set hl with hl | rfl
    · exact .inl hl
    · exact .inr hr
  · have hm := mem_set_self load' hi
    rw [show s.loads.set i load' = [] from hn] at hm
    cases hm

theorem CacheInv.finish {i : Nat} {handler : Bool} {load : Loaded IccId OpKey Value}
    (h : CacheInv isDefault s)
    (hi : s.loads[i]? = some ⟨handler, .loadFile load.iccid load.opkey⟩)
    (hst : finishLoad isDefault s i load = some s') :
    (Dropped isDefault s' ↔ (s.absent = true → s.loads.eraseIdx i = [] →
      ∀ found, lastFound (load :: s.loaded) = some found →
        found.opkey = none ∨ ∀ v ∈ found.values, isDefault v = true)) ∧
    (Dropped isDefault s' → CacheInv isDefault s') := by
  obtain ⟨hdf, hs'⟩ := Option.ite_none_left_eq_some.1 hst
  cases hs'
  have hin : ∀ l ∈ load :: s.loaded, l.opkey = none → ∀ v ∈ l.values, isDefault v = true :=
    forall_mem_cons.2 ⟨fun hn v hv =>
      not_not.1 fun hd => hdf ⟨hn, v, hv, eq_false_of_ne_true hd⟩, h.initial⟩
  have hld : ∀ l ∈ load :: s.loaded, ∀ opkey, l.opkey = some opkey →
      opkey ∈ s.removed ∨ s.opkey = some opkey :=
    forall_mem_cons.2 ⟨fun opkey ho =>
      h.reading _ (mem_of_getElem? hi) load.iccid opkey (by rw [ho]), h.loaded⟩
  have hopc : (if load.values.isEmpty then s.opc else load.values) =
      ((lastFound (load :: s.loaded)).map Loaded.values).getD [] := by
    rw [lastFound, find?_cons, h.opc]
    cases hv : load.values with
    | nil => rfl
    | cons _ _ => exact hv.symm
  refine ⟨?_, fun hdr =>
    ⟨hopc, hin, hld, fun load hl => h.reading load (mem_of_mem_eraseIdx hl), h.absent, hdr⟩⟩
  simp only [Dropped, hopc]
  refine imp_congr_right fun hab => imp_congr_right fun _ => ?_
  constructor
  · intro hdr found hf
    rw [hf] at hdr
    have hm : found ∈ load :: s.loaded := mem_of_find?_eq_some hf
    cases ho : found.opkey with
    | none => exact .inl rfl
    | some opkey =>
      -- its card has been removed, for there is none
      have hrm := (hld found hm opkey ho).resolve_right (by rw [h.absent hab]; nofun)
      exact .inr fun v hv => hdr v hv ⟨found, hm, opkey, hrm, ho, hv⟩
  · intro hf v hv _
    cases hl : lastFound (load :: s.loaded) with
    | none =>
      rw [hl] at hv
      cases hv
    | some found =>
      rw [hl] at hv
      rcases hf found hl with ho | hall
      · exact hin found (mem_of_find?_eq_some hl) ho v hv
      · exact hall v hv

theorem CacheInv.step [DecidableEq OpKey] {l : Label IccId OpKey Value} (h : CacheInv isDefault s)
    (hst : step isDefault s l = some s') :
    (Dropped isDefault s' → LastFoundDefault isDefault s l) ∧
      (LastFoundDefault isDefault s l → CacheInv isDefault s') := by
  cases l with
  | setIccId iccid =>
    cases hst
    exact ⟨fun _ => trivial, fun _ =>
      h.of_keys rfl rfl (fun _ => id) (fun _ => .inl) h.absent h.dropped⟩
  | present opkey =>
    obtain ⟨hc, hs'⟩ := Option.ite_none_left_eq_some.1 hst
    cases hs'
    refine ⟨fun _ => trivial, fun _ => h.of_keys rfl rfl ?_ (fun _ => .inl) nofun nofun⟩
    rintro o (ho | ho)
    · exact .inl ho
    · rcases not_not.1 fun hn => hc (.inr hn) with hky | hky <;> rw [hky] at ho
      · cases ho
      · exact .inr ho
  | absent =>
    obtain ⟨-, hs'⟩ := Option.ite_none_left_eq_some.1 hst
    cases hs'
    refine ⟨fun _ => trivial, fun _ => h.of_keys rfl rfl ?_ ?_ (fun _ => rfl) nofun⟩
    · rintro o (ho | ho)
      · exact .inl (mem_append_right _ ho)
      · exact .inl (mem_append_left _ (by rw [ho]; exact mem_singleton_self o))
    · exact forall_mem_cons.2 ⟨.inr nofun, fun _ => .inl⟩
  | getOperatorConfigs =>
    cases hst
    refine ⟨fun _ => trivial, fun _ => ?_⟩
    split
    · exact h.of_keys rfl rfl (fun _ => id) (forall_mem_cons.2 ⟨.inr nofun, fun _ => .inl⟩) h.absent
        nofun
    · exact h
  | readIccId i =>
    simp only [OperatorConfigCache.step] at hst
    split at hst
    next hi =>
      cases hst
      exact ⟨fun _ => trivial, fun _ => h.set hi nofun⟩
    next => cases hst
  | readOpKey i =>
    simp only [OperatorConfigCache.step] at hst
    split at hst
    next hi =>
      cases hst
      exact ⟨fun _ => trivial, fun _ => h.set hi fun _ _ hpc => (Pc.loadFile.inj hpc).2⟩
    next => cases hst
  | finish i file custom =>
    simp only [OperatorConfigCache.step] at hst
    split at hst
    next handler iccid opkey hi =>
      obtain ⟨hiff, hinv⟩ := h.finish hi hst
      rw [LastFoundDefault, hi]
      refine ⟨fun hd hab hn => ?_, fun hl => hinv (hiff.2 fun hab hn => hl hab hn _ _ _ rfl)⟩
      rintro _ _ _ ⟨⟩
      exact hiff.1 hd hab hn
    next => cases hst

end

end TelephonyCore.Sim.OperatorConfigCache
