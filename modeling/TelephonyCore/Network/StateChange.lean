import TelephonyCore.Lib.Slots
import TelephonyCore.Lib.Transition

/-!
# Notification of network state changes

`networkState_` is changed by setters, each a section of its own under the mutex, and
`NotifyStateChange` tells the applications. It compares the state with `networkStateOld_`, what was
last told, copies it, and releases the mutex for the notifications; `UpdateOperatorName`, one of
them, may itself set operator names. Then it takes the mutex again and sets `networkStateOld_` to
the state, as that is by then, and not to the copy that the applications got. A change in between is
lost.
-/

namespace TelephonyCore.Network.StateChange

open Lib

/-! ## `NetworkState` -/

inductive RoamingType where
  | unknown
  | unspec
  | domestic
  | international
deriving DecidableEq

inductive RegServiceState where
  | unknown
  | inService
  | noService
  | emergencyOnly
  | search
  | powerOff
deriving DecidableEq

inductive RadioTech where
  | invalid
  | unknown
  | gsm
  | xrtt1
  | wcdma
  | hspa
  | hspap
  | tdScdma
  | evdo
  | ehrpd
  | lte
  | lteCa
  | iwlan
  | nr
  | nrEnhanced
  | gprs
deriving DecidableEq

inductive NrState where
  | notSupport
  | nsaNoDetect
  | nsaConnectedDetect
  | nsaIdleDetect
  | nsaDualConnected
  | saAttached
deriving DecidableEq

inductive DomainType where
  | ps
  | cs
deriving DecidableEq

structure OperatorInformation where
  fullName : String := ""
  shortName : String := ""
  operatorNumeric : String := ""
deriving DecidableEq

/-- The defaults are those of `Init`. -/
structure NetworkState where
  isEmergency : Bool := false
  psOperatorInfo : OperatorInformation := {}
  csOperatorInfo : OperatorInformation := {}
  csRoaming : RoamingType := .unknown
  psRoaming : RoamingType := .unknown
  psRegStatus : RegServiceState := .unknown
  csRegStatus : RegServiceState := .unknown
  psRadioTech : RadioTech := .unknown
  lastPsRadioTech : RadioTech := .unknown
  lastCfgTech : RadioTech := .unknown
  csRadioTech : RadioTech := .unknown
  cfgTech : RadioTech := .unknown
  nrState : NrState := .notSupport
  psRadioTechV2 : RadioTech := .unknown
  lastPsRadioTechV2 : RadioTech := .unknown
  lastCfgTechV2 : RadioTech := .unknown
  csRadioTechV2 : RadioTech := .unknown
  cfgTechV2 : RadioTech := .unknown
deriving DecidableEq

def NetworkState.equal (state other : NetworkState) : Bool :=
  state.isEmergency = other.isEmergency && state.csRoaming = other.csRoaming &&
    state.psRoaming = other.psRoaming && state.psRegStatus = other.psRegStatus &&
    state.csRegStatus = other.csRegStatus && state.psRadioTech = other.psRadioTech &&
    state.csRadioTech = other.csRadioTech && state.cfgTech = other.cfgTech &&
    state.psRadioTechV2 = other.psRadioTechV2 && state.csRadioTechV2 = other.csRadioTechV2 &&
    state.cfgTechV2 = other.cfgTechV2 && state.nrState = other.nrState &&
    state.psOperatorInfo.operatorNumeric = other.psOperatorInfo.operatorNumeric &&
    state.psOperatorInfo.fullName = other.psOperatorInfo.fullName &&
    state.psOperatorInfo.shortName = other.psOperatorInfo.shortName &&
    state.csOperatorInfo.operatorNumeric = other.csOperatorInfo.operatorNumeric &&
    state.csOperatorInfo.fullName = other.csOperatorInfo.fullName &&
    state.csOperatorInfo.shortName = other.csOperatorInfo.shortName

/-- What `operator==` compares: all but the members that keep the last technology. -/
def NetworkState.compared (state : NetworkState) : NetworkState :=
  { state with
    lastPsRadioTech := .unknown
    lastCfgTech := .unknown
    lastPsRadioTechV2 := .unknown
    lastCfgTechV2 := .unknown }

theorem NetworkState.equal_iff {state other : NetworkState} :
    state.equal other ↔ state.compared = other.compared := by
  obtain ⟨_, ⟨⟩, ⟨⟩, _⟩ := state
  obtain ⟨_, ⟨⟩, ⟨⟩, _⟩ := other
  simp only [equal, compared, Bool.and_eq_true, decide_eq_true_eq, NetworkState.mk.injEq,
    OperatorInformation.mk.injEq, true_and, and_assoc]
  -- the same equations, in another order
  constructor
  · rintro ⟨h1, h2, h3, h4, h5, h6, h7, h8, h9, h10, h11, h12, h13, h14, h15, h16, h17, h18⟩
    exact ⟨h1, h14, h15, h13, h17, h18, h16, h2, h3, h4, h5, h6, h7, h8, h12, h9, h10, h11⟩
  · rintro ⟨h1, h14, h15, h13, h17, h18, h16, h2, h3, h4, h5, h6, h7, h8, h12, h9, h10, h11⟩
    exact ⟨h1, h2, h3, h4, h5, h6, h7, h8, h9, h10, h11, h12, h13, h14, h15, h16, h17, h18⟩

inductive Setter where
  | setOperatorInfo (longName shortName numeric : String) (domainType : DomainType)
  | setEmergency (isEmergency : Bool)
  | setNetworkType (tech : RadioTech) (domainType : DomainType)
  | setNetworkTypeV2 (tech : RadioTech) (domainType : DomainType)
  | setNetworkState (state : RegServiceState) (domainType : DomainType)
  | setNetworkStateToRoaming (roamingType : RoamingType) (domainType : DomainType)
  | setInitial
  | setCfgTech (tech : RadioTech)
  | setCfgTechV2 (tech : RadioTech)
  | setNrState (state : NrState)
  | setLongOperatorName (longName : String) (domainType : DomainType)
deriving DecidableEq

def Setter.apply (state : NetworkState) : Setter → NetworkState
  | .setOperatorInfo longName shortName numeric .ps =>
    { state with psOperatorInfo := ⟨longName, shortName, numeric⟩ }
  | .setOperatorInfo longName shortName numeric .cs =>
    { state with csOperatorInfo := ⟨longName, shortName, numeric⟩ }
  | .setEmergency isEmergency => { state with isEmergency }
  | .setNetworkType tech .cs => { state with csRadioTech := tech }
  | .setNetworkType tech .ps =>
    { state with lastPsRadioTech := state.psRadioTech, psRadioTech := tech }
  | .setNetworkTypeV2 tech .cs => { state with csRadioTechV2 := tech }
  | .setNetworkTypeV2 tech .ps =>
    { state with lastPsRadioTechV2 := state.psRadioTechV2, psRadioTechV2 := tech }
  | .setNetworkState reg .cs => { state with csRegStatus := reg }
  | .setNetworkState reg .ps => { state with psRegStatus := reg }
  | .setNetworkStateToRoaming roamingType .cs => { state with csRoaming := roamingType }
  | .setNetworkStateToRoaming roamingType .ps => { state with psRoaming := roamingType }
  | .setInitial => {}
  | .setCfgTech tech => { state with lastCfgTech := state.cfgTech, cfgTech := tech }
  | .setCfgTechV2 tech => { state with lastCfgTechV2 := state.cfgTechV2, cfgTechV2 := tech }
  | .setNrState nrState => { state with nrState }
  | .setLongOperatorName longName .ps =>
    { state with psOperatorInfo := { state.psOperatorInfo with fullName := longName } }
  | .setLongOperatorName longName .cs =>
    { state with csOperatorInfo := { state.csOperatorInfo with fullName := longName } }

/-! ## The machine -/

/-- Where a thread stands: its setters come first, and then `NotifyStateChange`. -/
inductive Pc where
  | setting (setters : List Setter)
  /-- the mutex is released; `ns` is the copy -/
  | notifying (ns : NetworkState)
  /-- after `NotifyNetworkStateUpdated` -/
  | refreshing
  | returned
deriving DecidableEq

structure State where
  networkState : NetworkState := {}
  networkStateOld : NetworkState := {}
  processNetworkState : Bool := false
  /-- what the applications were last told -/
  notified : NetworkState := {}
  threads : List Pc := []
deriving DecidableEq

inductive Label where
  | call (setters : List Setter)
  | run (i : Nat)
  /-- `UpdateOperatorName`, inside `NotifyStateChange` of the thread, sets a name -/
  | updateOperatorName (i : Nat) (longName : String) (domainType : DomainType)

def State.next (s : State) (i : Nat) : Pc → Option State
  | .setting (setter :: setters) =>
    some { s with
      networkState := setter.apply s.networkState
      threads := s.threads.set i (.setting setters) }
  | .setting [] =>
    if s.processNetworkState || !s.networkState.equal s.networkStateOld then
      some { s with threads := s.threads.set i (.notifying s.networkState) }
    else some { s with processNetworkState := false, threads := s.threads.set i .returned }
  | .notifying ns => some { s with notified := ns, threads := s.threads.set i .refreshing }
  | .refreshing =>
    some { s with
      networkStateOld := s.networkState
      processNetworkState := false
      threads := s.threads.set i .returned }
  | .returned => none

def step (s : State) : Label → Option State
  | .call setters => some { s with threads := s.threads ++ [.setting setters] }
  | .run i => do
    let pc ← s.threads[i]?
    s.next i pc
  | .updateOperatorName i longName domainType =>
    match s.threads[i]? with
    | some (.notifying _) =>
      some { s with
        networkState := (Setter.setLongOperatorName longName domainType).apply s.networkState }
    | _ => none

def State.Quiet (s : State) : Prop := ∀ pc ∈ s.threads, pc = .returned

instance (s : State) : Decidable s.Quiet :=
  inferInstanceAs (Decidable (∀ pc ∈ s.threads, pc = Pc.returned))

/-- The thread has copied the state and not yet refreshed `networkStateOld_`. -/
def Pc.copied : Pc → Bool
  | .notifying _ | .refreshing => true
  | _ => false

/-- What the setter makes of the state is the same, for `operator==`, while a thread is between
its copy and its refresh. -/
def State.Keeps (s : State) (setter : Setter) : Prop :=
  (∀ pc ∈ s.threads, pc.copied = false) ∨ (setter.apply s.networkState).equal s.networkState = true

instance (s : State) (setter : Setter) : Decidable (s.Keeps setter) :=
  inferInstanceAs (Decidable (_ ∨ _))

def Label.setter (s : State) : Label → Option Setter
  | .run i =>
    match s.threads[i]? with
    | some (.setting (setter :: _)) => some setter
    | _ => none
  | .updateOperatorName _ longName domainType => some (.setLongOperatorName longName domainType)
  | .call _ => none

def KeepsNotified (s : State) (l : Label) : Prop := ∀ setter ∈ l.setter s, s.Keeps setter

instance (s : State) (l : Label) : Decidable (KeepsNotified s l) :=
  inferInstanceAs (Decidable (∀ setter ∈ l.setter s, s.Keeps setter))

/-! ## What holds between the sections -/

structure Inv (s : State) : Prop where
  /-- a copy is still the state -/
  copies : ∀ ns, .notifying ns ∈ s.threads → ns.compared = s.networkState.compared
  refreshing : .refreshing ∈ s.threads → s.notified.compared = s.networkState.compared
  /-- `networkStateOld_` lags behind only until it is refreshed -/
  old : s.notified.compared = s.networkStateOld.compared ∨ .refreshing ∈ s.threads
  /-- somebody is going to tell a change -/
  told : s.notified.compared = s.networkState.compared ∨
    ∃ pc ∈ s.threads, (∃ setters, pc = .setting setters) ∨ ∃ ns, pc = .notifying ns

variable {s : State} {setter : Setter} {i : Nat} {ns : NetworkState}

theorem Inv.call (h : Inv s) (setters : List Setter) :
    Inv { s with threads := s.threads ++ [.setting setters] } where
  copies := fun ns hns => h.copies ns (by simpa using hns)
  refreshing := fun hr => h.refreshing (by simpa using hr)
  old := h.old.imp_right (List.mem_append_left _)
  told := .inr ⟨.setting setters, by simp, .inl ⟨setters, rfl⟩⟩

theorem State.Keeps.copied (h : s.Keeps setter) {pc : Pc} (hm : pc ∈ s.threads)
    (hc : pc.copied) : (setter.apply s.networkState).compared = s.networkState.compared := by
  rcases h with hn | he
  · exact absurd (hn pc hm) (by simp [hc])
  · exact NetworkState.equal_iff.1 he

theorem Inv.setting (h : Inv s) {setters : List Setter}
    (hpc : s.threads[i]? = some (.setting (setter :: setters))) (hkp : s.Keeps setter) :
    Inv { s with
      networkState := setter.apply s.networkState
      threads := s.threads.set i (.setting setters) } where
  copies := by
    intro ns hns
    have hm := mem_of_mem_set hns (by simp)
    exact (h.copies ns hm).trans (hkp.copied hm rfl).symm
  refreshing := by
    intro hr
    have hm := mem_of_mem_set hr (by simp)
    exact (h.refreshing hm).trans (hkp.copied hm rfl).symm
  old := h.old.imp_right fun hm => mem_set_of_ne hpc hm (by simp)
  told := .inr ⟨_, mem_set_self _ hpc, .inl ⟨setters, rfl⟩⟩

theorem Inv.updateOperatorName (h : Inv s) (hpc : s.threads[i]? = some (.notifying ns))
    (hkp : s.Keeps setter) :
    Inv { s with networkState := setter.apply s.networkState } where
  copies := fun other ho => (h.copies other ho).trans (hkp.copied ho rfl).symm
  refreshing := fun hr => (h.refreshing hr).trans (hkp.copied hr rfl).symm
  old := h.old
  told := .inr ⟨_, List.mem_of_getElem? hpc, .inr ⟨ns, rfl⟩⟩

theorem Inv.copy (h : Inv s) (hpc : s.threads[i]? = some (.setting [])) :
    Inv { s with threads := s.threads.set i (.notifying s.networkState) } where
  copies := by
    intro ns hns
    by_cases heq : ns = s.networkState
    · rw [heq]
    · exact h.copies ns (mem_of_mem_set hns (by simpa using heq))
  refreshing := fun hr => h.refreshing (mem_of_mem_set hr (by simp))
  old := h.old.imp_right fun hm => mem_set_of_ne hpc hm (by simp)
  told := .inr ⟨_, mem_set_self _ hpc, .inr ⟨_, rfl⟩⟩

/-- Nothing new: the state is `networkStateOld_`, or somebody is about to make it so. -/
theorem Inv.same (h : Inv s) (hpc : s.threads[i]? = some (.setting []))
    (hs : s.networkState.equal s.networkStateOld) :
    Inv { s with processNetworkState := false, threads := s.threads.set i .returned } where
  copies := fun ns hns => h.copies ns (mem_of_mem_set hns (by simp))
  refreshing := fun hr => h.refreshing (mem_of_mem_set hr (by simp))
  old := h.old.imp_right fun hm => mem_set_of_ne hpc hm (by simp)
  told := by
    refine .inl ?_
    rcases h.old with ho | hr
    · exact ho.trans (NetworkState.equal_iff.1 hs).symm
    · exact h.refreshing hr

theorem Inv.notify (h : Inv s) (hpc : s.threads[i]? = some (.notifying ns)) :
    Inv { s with notified := ns, threads := s.threads.set i .refreshing } := by
  have hc := h.copies ns (List.mem_of_getElem? hpc)
  exact {
    copies := fun other ho => h.copies other (mem_of_mem_set ho (by simp))
    refreshing := fun _ => hc
    old := .inr (mem_set_self _ hpc)
    told := .inl hc }

theorem Inv.refresh (h : Inv s) (hpc : s.threads[i]? = some .refreshing) :
    Inv { s with
      networkStateOld := s.networkState
      processNetworkState := false
      threads := s.threads.set i .returned } := by
  have hnt := h.refreshing (List.mem_of_getElem? hpc)
  exact {
    copies := fun ns hns => h.copies ns (mem_of_mem_set hns (by simp))
    refreshing := fun _ => hnt
    old := .inl hnt
    told := .inl hnt }

theorem Inv.step {s' : State} {l : Label} (h : Inv s) (hkp : KeepsNotified s l)
    (hst : step s l = some s') : Inv s' := by
  cases l with
  | call setters =>
    cases hst
    exact h.call setters
  | run i =>
    obtain ⟨pc, hpc, hn⟩ := Option.bind_eq_some_iff.1 hst
    cases pc with
    | setting setters =>
      cases setters with
      | nil =>
        rw [State.next] at hn
        split at hn
        next =>
          cases hn
          exact h.copy hpc
        next hsm =>
          cases hn
          simp only [Bool.or_eq_true, not_or, Bool.not_eq_true, Bool.not_eq_false'] at hsm
          exact h.same hpc hsm.2
      | cons setter setters =>
        cases hn
        exact h.setting hpc (hkp setter (by simp [Label.setter, hpc]))
    | notifying ns =>
      cases hn
      exact h.notify hpc
    | refreshing =>
      cases hn
      exact h.refresh hpc
    | returned => exact absurd hn (by simp [State.next])
  | updateOperatorName i longName domainType =>
    rw [StateChange.step] at hst
    split at hst
    next ns hpc =>
      cases hst
      exact h.updateOperatorName hpc (hkp _ rfl)
    next => cases hst

theorem inv_init (hnt : s.notified.equal s.networkState)
    (ho : s.networkStateOld.equal s.networkState) (hqt : s.Quiet) : Inv s := by
  have heq := NetworkState.equal_iff.1 hnt
  have hnn : ∀ {pc : Pc}, pc ∈ s.threads → pc.copied → False := by
    intro pc hpc hc
    rw [hqt pc hpc] at hc
    exact absurd hc (by simp [Pc.copied])
  exact {
    copies := fun ns hns => (hnn hns rfl).elim
    refreshing := fun hr => (hnn hr rfl).elim
    old := .inl (heq.trans (NetworkState.equal_iff.1 ho).symm)
    told := .inl heq }

/-- **No change is lost**, if none is made between the copy and the refresh: from a state that the
applications know, whenever no call is running the state last told is equal to the state. -/
theorem state_notified {s₀ s : State} {ls : List Label}
    (hnotified : s₀.notified.equal s₀.networkState = true)
    (hold : s₀.networkStateOld.equal s₀.networkState = true) (hquiet₀ : s₀.Quiet)
    (hkeeps : StepsMeet step KeepsNotified s₀ ls) (hrun : runLabels step s₀ ls = some s)
    (hquiet : s.Quiet) : s.notified.equal s.networkState = true := by
  have h := invariant_run .step ls (inv_init hnotified hold hquiet₀) hkeeps hrun
  rcases h.told with heq | ⟨pc, hpc, hb⟩
  · exact NetworkState.equal_iff.2 heq
  · rw [hquiet pc hpc] at hb
    exact absurd hb (by simp)

/-- Each of two threads sets its name to what it is while it holds a copy. -/
def keepingRun : List Label :=
  [Label.call [.setLongOperatorName "a" .ps, .setEmergency true], Label.call [.setNrState .saAttached],
    Label.run 0, Label.run 1, Label.run 0, Label.run 0, Label.run 1,
    Label.updateOperatorName 0 "a" .ps, Label.run 1, Label.run 0, Label.run 0, Label.run 1]

theorem state_notified_keeping :
    ∃ s : State, s.networkState.psOperatorInfo.fullName = "a" ∧
      s.networkState.nrState = .saAttached ∧ s.notified.equal s.networkState = true := by
  obtain ⟨s, hk, hr, hnm, hnr, hq⟩ : ∃ s, StepsMeet step KeepsNotified {} keepingRun ∧
      runLabels step {} keepingRun = some s ∧ s.networkState.psOperatorInfo.fullName = "a" ∧
        s.networkState.nrState = .saAttached ∧ s.Quiet :=
    exists_run_meeting _ (by decide +kernel)
  exact ⟨s, hnm, hnr, state_notified (by decide +kernel) (by decide +kernel) (by decide) hk hr hq⟩

/-- The modem's operator name is replaced by that of the SIM card during the notification. -/
def namingRun : List Label :=
  [Label.call [.setLongOperatorName "modem" .ps], Label.run 0, Label.run 0,
    Label.updateOperatorName 0 "card" .cs, Label.updateOperatorName 0 "card" .ps, Label.run 0,
    Label.run 0, Label.call [], Label.run 1]

/-- An emergency call becomes possible during the notification of a new technology. -/
def racingRun : List Label :=
  [Label.call [.setNetworkType .lte .ps], Label.call [.setEmergency true], Label.run 0, Label.run 0,
    Label.run 1, Label.run 0, Label.run 0, Label.run 1]

/-- **A change is lost**: no call is running, and the applications were last told another state,
also after one more `NotifyStateChange`. -/
theorem change_lost :
    (∃ s, runLabels step {} namingRun = some s ∧ s.Quiet ∧
      s.notified.psOperatorInfo.fullName = "modem" ∧
      s.networkState.psOperatorInfo.fullName = "card" ∧
      s.notified.equal s.networkState = false) ∧
    ∃ s, runLabels step {} racingRun = some s ∧ s.Quiet ∧ s.notified.isEmergency = false ∧
      s.networkState.isEmergency = true ∧ s.notified.equal s.networkState = false :=
  ⟨exists_run _ (by decide +kernel), exists_run _ (by decide +kernel)⟩

end TelephonyCore.Network.StateChange
