import Mathlib.Algebra.Group.Int.Defs
import Mathlib.Algebra.Group.Nat.Defs
import Mathlib.Data.List.Perm.Basic
import TelephonyCore.Lib.Slots
import TelephonyCore.Lib.Transition

/-!
# `MultiSimController`: switches of the primary slot

`SetPrimarySlotId` stores the new slot and the card in it before it asks for the change of the radio
protocols, and `ResumePrimaryCardInfo` brings the old values back when this fails.

`isSetPrimarySlotIdInProgress_` is one flag for all switches. `SetActiveCommonSim` waits until it is
down, and then calls the modem with `activeSimMutex_` held. Lowering the flag takes this mutex and
raising it does not, and a switch lowers it at its end although another one may be running, so
`Alone` has two conditions.
-/

namespace TelephonyCore.Sim.SlotSwitch

open Lib List

/-! ## What a switch that fails leaves -/

/-- The text of a system parameter that fits the buffer. -/
abbrev Text := List Char

structure Stored where
  lastPrimarySlotId : Int
  /-- the parameters `PRIMARY_SLOTID_KEY` and `MAIN_CARD_ICCID_KEY`, if they are set -/
  primarySlotId : Option Text
  mainCardIccId : Option Text
  isSetPrimarySlotIdInProgress : Bool := false
deriving DecidableEq

structure Conditions where
  isSetPrimarySlotIdAllowed : Bool
  /-- for each slot: `IsValidData`, and the `GetSimIccId` of its `simFileManager_` if there is one -/
  slots : List (Bool × Option Text)
  encryptIccId : Text → Text
  hasRadioProtocolController : Bool
  /-- `GetRadioProtocolModemId` is `MODEM_ID_0` -/
  isMainSlot : Bool
  setRadioProtocol : Bool

inductive Code where
  | success
  | fail
  | noSimCard
  | localPtrNull
deriving DecidableEq

def Conditions.slot (e : Conditions) (slotId : Int) : Option (Bool × Option Text) :=
  if slotId < 0 then none else e.slots[slotId.toNat]?

def isValidSlotString (slotIdStr : Text) : Bool := slotIdStr.all Char.isDigit

/-- `strtol` of digits, stored in an `int32_t`. -/
def toInt32 (slotIdStr : Text) : Int :=
  (min (slotIdStr.foldl (fun n c => 10 * n + (c.toNat - 48)) 0) (2 ^ 63 - 1) : Int).bmod (2 ^ 32)

def Stored.savePrimaryCardInfo (s : Stored) (e : Conditions) (slotId : Int) : Stored :=
  let s := { s with
    lastPrimarySlotId := slotId
    primarySlotId := some (toString slotId).toList }
  match e.slot slotId with
  | some (_, some iccId) =>
    if iccId.isEmpty then s else { s with mainCardIccId := some (e.encryptIccId iccId) }
  | _ => s

def Stored.resumePrimaryCardInfo (s : Stored) (oldPrimarySlotId oldMainCardIccId : Text) : Stored :=
  if oldPrimarySlotId.isEmpty then s
  else if !isValidSlotString oldPrimarySlotId then s
  else
    { s with
      lastPrimarySlotId := toInt32 oldPrimarySlotId
      primarySlotId := some oldPrimarySlotId
      mainCardIccId := some oldMainCardIccId }

def Stored.setPrimarySlotIdDone (s : Stored) : Stored :=
  { s with isSetPrimarySlotIdInProgress := false }

/-- Not for `SIM_SLOT_3`, and not for a user where the modem can do it. -/
def Stored.setPrimarySlotId (s : Stored) (e : Conditions) (slotId : Int) : Code × Stored :=
  if !e.isSetPrimarySlotIdAllowed then (.fail, s)
  else if !(e.slot slotId).any Prod.fst then (.noSimCard, s)
  else if e.hasRadioProtocolController && e.isMainSlot then
    (.success, s.savePrimaryCardInfo e slotId)
  else
    let oldMainCardIccId := s.mainCardIccId.getD []
    let oldPrimarySlotId := s.primarySlotId.getD []
    let s := { s with isSetPrimarySlotIdInProgress := true }.savePrimaryCardInfo e slotId
    if !e.hasRadioProtocolController || !e.setRadioProtocol then
      (.localPtrNull,
        (s.resumePrimaryCardInfo oldPrimarySlotId oldMainCardIccId).setPrimarySlotIdDone)
    else (.success, s.setPrimarySlotIdDone)

theorem isValidSlotString_toString (n : Nat) : isValidSlotString (toString (n : Int)).toList := by
  show (Nat.repr n).toList.all Char.isDigit
  rw [Nat.repr_eq_ofList_toDigits, String.toList_ofList, all_eq_true]
  intro c hc
  exact Nat.isDigit_of_mem_toDigits (b := 10) (by decide) (by decide) hc

theorem isEmpty_toString (n : Nat) : (toString (n : Int)).toList.isEmpty = false := by
  show (Nat.repr n).toList.isEmpty = false
  rw [Nat.repr_eq_ofList_toDigits, String.toList_ofList, isEmpty_eq_false_iff]
  exact Nat.toDigits_ne_nil

theorem primarySlotId_savePrimaryCardInfo (s : Stored) (e : Conditions) (slotId : Int) :
    (s.savePrimaryCardInfo e slotId).primarySlotId = some (toString slotId).toList := by
  rw [Stored.savePrimaryCardInfo]
  split
  · split <;> rfl
  · rfl

/-- Only `ResumePrimaryCardInfo` can undo what a switch has stored. -/
theorem setPrimarySlotId_fails {s : Stored} {e : Conditions} {slotId : Int}
    (hf : (s.setPrimarySlotId e slotId).1 = .localPtrNull) :
    0 ≤ slotId ∧ (s.setPrimarySlotId e slotId).2 =
      (({ s with isSetPrimarySlotIdInProgress := true }.savePrimaryCardInfo e
        slotId).resumePrimaryCardInfo (s.primarySlotId.getD [])
          (s.mainCardIccId.getD [])).setPrimarySlotIdDone := by
  unfold Stored.setPrimarySlotId at hf ⊢
  split_ifs at hf ⊢ with _ hc
  refine ⟨?_, rfl⟩
  by_contra hn
  have hlt : slotId < 0 := by omega
  simp [Conditions.slot, hlt] at hc

/-- A switch that fails because of `SetRadioProtocol` leaves everything as it was if and only if
both parameters were set and that of the slot is the number in `lastPrimarySlotId_`. -/
theorem failed_switch_undone_iff {s : Stored} {e : Conditions} {slotId : Int}
    (hfails : (s.setPrimarySlotId e slotId).1 = .localPtrNull) :
    (s.setPrimarySlotId e slotId).2 = { s with isSetPrimarySlotIdInProgress := false } ↔
      s.mainCardIccId ≠ none ∧ ∃ old, s.primarySlotId = some old ∧ old ≠ [] ∧
        isValidSlotString old ∧ toInt32 old = s.lastPrimarySlotId := by
  obtain ⟨hs, haf⟩ := setPrimarySlotId_fails hfails
  obtain ⟨n, rfl⟩ := Int.eq_ofNat_of_zero_le hs
  obtain ⟨last, primary, main, _⟩ := s
  rw [haf, Stored.resumePrimaryCardInfo]
  by_cases ho : primary.getD [] ≠ [] ∧ isValidSlotString (primary.getD [])
  · obtain ⟨old, rfl⟩ : ∃ old, primary = some old := by
      cases primary with
      | none => exact absurd rfl ho.1
      | some old => exact ⟨old, rfl⟩
    rw [Option.getD_some] at ho ⊢
    cases main <;> simp [Stored.setPrimarySlotIdDone, ho]
  · -- the new slot stays in the parameter, and it is a number
    refine iff_of_false (fun heq => ho ?_) (fun ⟨_, old, hpm, hne, hv, _⟩ => ho ?_)
    · have hk : primary = some (toString (n : Int)).toList := by
        rw [← primarySlotId_savePrimaryCardInfo]
        have hpr := congrArg Stored.primarySlotId heq
        split_ifs at hpr with hem hv
        · exact hpr.symm
        · exact hpr.symm
        · exact absurd ⟨by simpa using hem, by simpa using hv⟩ ho
      rw [hk]
      exact ⟨isEmpty_eq_false_iff.1 (isEmpty_toString n), isValidSlotString_toString n⟩
    · subst hpm
      exact ⟨hne, hv⟩

/-- Both slots have a card, the second one without an ICC identifier, and the change of the
protocols fails. -/
def failingSwitch : Conditions where
  isSetPrimarySlotIdAllowed := true
  slots := [(true, none), (true, some [])]
  encryptIccId := id
  hasRadioProtocolController := true
  isMainSlot := false
  setRadioProtocol := false

theorem failed_switch_undone_first :
    ((⟨0, some ['0'], some ['a'], false⟩ : Stored).setPrimarySlotId failingSwitch 1).2 =
      ⟨0, some ['0'], some ['a'], false⟩ :=
  (failed_switch_undone_iff (by decide)).2 ⟨by decide, ['0'], by decide +kernel⟩

/-- The parameters were never set. The failed switch to the second slot stays. -/
theorem unset_slot_not_resumed :
    (⟨0, none, none, false⟩ : Stored).setPrimarySlotId failingSwitch 1 =
      (.localPtrNull, ⟨1, some ['1'], none, false⟩) := by
  decide +kernel

/-! ## Switches that overlap -/

inductive SwitchPc where
  | raiseFlag
  /-- in `SetRadioProtocol` -/
  | setRadioProtocol
  /-- at the test of `SetPrimarySlotToRil` -/
  | setPrimarySlotToRil
  /-- in the wait of `SetPrimarySlotToRil` -/
  | waitForRil
  | setPrimarySlotIdDone
  | returned
deriving DecidableEq

inductive ActivePc where
  | test
  | waiting
  /-- behind the loop, with the mutex -/
  | setActiveSimToRil (timedOut : Bool)
  | calling
  | returned
deriving DecidableEq

inductive Call where
  /-- `SetPrimarySlotId`, or `SetPrimarySlotIdWithoutModemReboot` -/
  | switch (withoutModemReboot : Bool) (pc : SwitchPc)
  | activate (pc : ActivePc)
deriving DecidableEq

structure State where
  calls : List Call := []
  isSetPrimarySlotIdInProgress : Bool := false
  isSettingPrimarySlotToRil : Bool := false
  /-- the call that holds `activeSimMutex_` -/
  activeSimMutex : Option Nat := none
  /-- the calls of `SetActiveSimToRil`: after a time-out, and during a switch -/
  rilCalls : List (Bool × Bool) := []
  /-- a switch has raised the flag since `SetActiveCommonSim` last found it down -/
  raised : Bool := false

def Call.switching : Call → Bool
  | .switch _ .raiseFlag | .switch _ .returned | .activate _ => false
  | .switch .. => true

def State.switching (s : State) : Bool := s.calls.any Call.switching

inductive Label where
  /-- a switch behind its checks, or `SetActiveCommonSim`, begins -/
  | switch (withoutModemReboot : Bool)
  | activate
  /-- call `i` goes on; `deadline` says whether its wait has timed out -/
  | step (i : Nat) (deadline : Bool)
  /-- the modem has answered `SetPrimarySlotToRil` -/
  | rilResponse

def State.goto (s : State) (i : Nat) (call : Call) : State := { s with calls := s.calls.set i call }

def State.stepSwitch (s : State) (i : Nat) (withoutModemReboot : Bool) : SwitchPc → Option State
  | .raiseFlag =>
    some ({ s with isSetPrimarySlotIdInProgress := true, raised := true }.goto i
      (.switch withoutModemReboot (if withoutModemReboot then .setPrimarySlotToRil else .setRadioProtocol)))
  | .setPrimarySlotToRil =>
    -- one that finds another one there fails at once
    if s.isSettingPrimarySlotToRil then
      some (s.goto i (.switch withoutModemReboot .setPrimarySlotIdDone))
    else
      some ({ s with isSettingPrimarySlotToRil := true }.goto i
        (.switch withoutModemReboot .waitForRil))
  | .waitForRil =>
    if s.isSettingPrimarySlotToRil then none
    else some (s.goto i (.switch withoutModemReboot .setPrimarySlotIdDone))
  | .setRadioProtocol => some (s.goto i (.switch withoutModemReboot .setPrimarySlotIdDone))
  | .setPrimarySlotIdDone =>
    if s.activeSimMutex = none then
      some ({ s with isSetPrimarySlotIdInProgress := false }.goto i
        (.switch withoutModemReboot .returned))
    else none
  | .returned => none

def State.stepActivate (s : State) (i : Nat) (deadline : Bool) : ActivePc → Option State
  | .test =>
    if s.activeSimMutex ≠ none then none
    else if s.isSetPrimarySlotIdInProgress then some (s.goto i (.activate .waiting))
    else
      some ({ s with activeSimMutex := some i, raised := false }.goto i
        (.activate (.setActiveSimToRil false)))
  | .waiting =>
    if s.activeSimMutex ≠ none then none
    else if deadline then
      some ({ s with activeSimMutex := some i }.goto i (.activate (.setActiveSimToRil true)))
    else some (s.goto i (.activate .test))
  | .setActiveSimToRil timedOut =>
    some ({ s with rilCalls := s.rilCalls ++ [(timedOut, s.switching)] }.goto i (.activate .calling))
  | .calling => some ({ s with activeSimMutex := none }.goto i (.activate .returned))
  | .returned => none

def step (s : State) : Label → Option State
  | .switch withoutModemReboot =>
    some { s with calls := s.calls ++ [.switch withoutModemReboot .raiseFlag] }
  | .activate => some { s with calls := s.calls ++ [.activate .test] }
  | .step i deadline =>
    match s.calls[i]? with
    | some (.switch withoutModemReboot pc) => s.stepSwitch i withoutModemReboot pc
    | some (.activate pc) => s.stepActivate i deadline pc
    | none => none
  | .rilResponse => some { s with isSettingPrimarySlotToRil := false }

structure Guarded (s : State) : Prop where
  flag : s.switching → s.isSetPrimarySlotIdInProgress
  rilCalls : ∀ call ∈ s.rilCalls, call.2 → call.1

/-- No switch ends while another one is running, and none raises the flag between the test that
finds it down and the call of the modem. -/
def Alone (s : State) : Label → Prop
  | .step i _ =>
    match s.calls[i]? with
    | some (.switch _ .setPrimarySlotIdDone) => ¬ (s.calls.eraseIdx i).any Call.switching
    | some (.activate (.setActiveSimToRil false)) => s.raised = false
    | _ => True
  | _ => True

def ActivePc.holdsMutex : ActivePc → Bool
  | .setActiveSimToRil _ | .calling => true
  | _ => false

/-- A switch that raises the flag before a call of the modem cannot end before it, for want of the
mutex. -/
structure GuardInv (s : State) : Prop extends Guarded s where
  mutex : ∀ (i : Nat) (pc : ActivePc), s.calls[i]? = some (.activate pc) → pc.holdsMutex →
    s.activeSimMutex = some i
  raised : ∀ i : Nat, s.calls[i]? = some (.activate (.setActiveSimToRil false)) →
    s.raised = s.switching

variable {s s' : State} {i : Nat} {call : Call}

theorem switching_eq (hc : s.calls[i]? = some call) :
    s.switching = (call.switching || (s.calls.eraseIdx i).any Call.switching) := by
  obtain ⟨hlt, rfl⟩ := List.getElem?_eq_some_iff.1 hc
  exact ((getElem_cons_eraseIdx_perm hlt).any_eq).symm

theorem switching_set (hcl : s.calls[i]? = some call) {call' : Call}
    (hcs : s'.calls = s.calls.set i call') :
    s'.switching = (call'.switching || (s.calls.eraseIdx i).any Call.switching) := by
  obtain ⟨hlt, _⟩ := List.getElem?_eq_some_iff.1 hcl
  have hcl' : s'.calls[i]? = some call' := by rw [hcs, getElem?_set_self hlt]
  rw [switching_eq hcl', hcs, eraseIdx_set_eq]

theorem Guarded.of_same (h : Guarded s) (hsw : s'.switching = s.switching)
    (hf : s'.isSetPrimarySlotIdInProgress = s.isSetPrimarySlotIdInProgress)
    (hcs : s'.rilCalls = s.rilCalls) : Guarded s' :=
  ⟨by rw [hsw, hf]; exact h.flag, by rw [hcs]; exact h.rilCalls⟩

theorem Guarded.stepSwitch_iff (h : Guarded s) {w : Bool} {pc : SwitchPc}
    (hc : s.calls[i]? = some (.switch w pc)) (hst : s.stepSwitch i w pc = some s') :
    Guarded s' ↔ (pc = .setPrimarySlotIdDone → ¬ (s.calls.eraseIdx i).any Call.switching) := by
  have hsm : ∀ {pc' : SwitchPc} {setting : Bool},
      (Call.switch w pc').switching = (Call.switch w pc).switching →
      Guarded ({ s with isSettingPrimarySlotToRil := setting }.goto i (.switch w pc')) := by
    intro pc' setting hpc
    refine h.of_same ?_ rfl rfl
    rw [switching_set hc rfl, switching_eq hc, hpc]
  cases pc with
  | raiseFlag =>
    cases hst
    exact iff_of_true ⟨fun _ => rfl, h.rilCalls⟩ (by simp)
  | setRadioProtocol =>
    cases hst
    exact iff_of_true (hsm rfl) (by simp)
  | setPrimarySlotToRil =>
    rw [State.stepSwitch] at hst
    split at hst
    all_goals
      cases hst
      exact iff_of_true (hsm rfl) (by simp)
  | waitForRil =>
    obtain ⟨_, ⟨⟩⟩ := Option.ite_none_left_eq_some.1 hst
    exact iff_of_true (hsm rfl) (by simp)
  | setPrimarySlotIdDone =>
    obtain ⟨_, ⟨⟩⟩ := Option.ite_none_right_eq_some.1 hst
    have haf : ({ s with isSetPrimarySlotIdInProgress := false }.goto i
        (.switch w .returned)).switching = _ := switching_set hc rfl
    constructor
    · intro hg _ ho
      cases hg.flag (haf.trans (by rw [ho]; rfl))
    · intro ho
      refine ⟨fun hsw => absurd (haf.symm.trans hsw) ?_, h.rilCalls⟩
      simpa [Call.switching] using ho rfl
  | returned => cases hst

theorem Guarded.stepActivate_iff (h : Guarded s) {deadline : Bool} {pc : ActivePc}
    (hc : s.calls[i]? = some (.activate pc)) (hst : s.stepActivate i deadline pc = some s') :
    Guarded s' ↔ (pc = .setActiveSimToRil false → ¬ s.switching) := by
  have hsw : ∀ {pc' : ActivePc} {mutex : Option Nat} {rilCalls : List (Bool × Bool)}
      {raised : Bool}, ({ s with activeSimMutex := mutex, rilCalls, raised }.goto i
        (.activate pc')).switching = s.switching := by
    intro pc' mutex rilCalls raised
    rw [switching_set hc rfl, switching_eq hc]
    rfl
  cases pc with
  | test | waiting =>
    obtain ⟨_, hst⟩ := Option.ite_none_left_eq_some.1 hst
    split at hst
    all_goals
      cases hst
      exact iff_of_true (h.of_same hsw rfl rfl) (by simp)
  | setActiveSimToRil timedOut =>
    cases hst
    constructor
    · intro hg hpc hr
      cases hpc
      cases hg.rilCalls (false, s.switching) (by simp [State.goto]) hr
    · intro hf
      refine ⟨fun hr => h.flag (hsw.symm.trans hr), forall_mem_concat h.rilCalls fun hr => ?_⟩
      cases timedOut with
      | true => rfl
      | false => exact absurd hr (hf rfl)
  | calling =>
    cases hst
    exact iff_of_true (h.of_same hsw rfl rfl) (by simp)
  | returned => cases hst

theorem GuardInv.stepSwitch {w : Bool} {pc : SwitchPc} (h : GuardInv s) (hg : Guarded s')
    (hc : s.calls[i]? = some (.switch w pc)) (hst : s.stepSwitch i w pc = some s') : GuardInv s' := by
  -- the calls of `SetActiveCommonSim` are as they were
  have hof : ∀ {s' : State} {pc' : SwitchPc}, Guarded s' → s'.calls = s.calls.set i (.switch w pc') →
      s'.activeSimMutex = s.activeSimMutex →
      (s.activeSimMutex ≠ none → s.raised = s.switching → s'.raised = s'.switching) → GuardInv s' := by
    intro s' pc' hg hcs hm hr
    have hkeep : ∀ {j : Nat} {pc : ActivePc}, s'.calls[j]? = some (.activate pc) →
        s.calls[j]? = some (.activate pc) := by
      intro j pc hj
      rw [hcs] at hj
      rcases getElem?_of_set hj with ⟨-, hj⟩ | ⟨-, hj⟩
      · cases hj
      · exact hj
    refine ⟨hg, fun j pc hj hh => hm.trans (h.mutex j pc (hkeep hj) hh), fun j hj => ?_⟩
    refine hr ?_ (h.raised j (hkeep hj))
    rw [h.mutex j _ (hkeep hj) rfl]
    nofun
  have hsame : ∀ {s' : State} {pc' : SwitchPc}, Guarded s' →
      s'.calls = s.calls.set i (.switch w pc') → s'.activeSimMutex = s.activeSimMutex →
      s'.raised = s.raised → (Call.switch w pc').switching = (Call.switch w pc).switching →
      GuardInv s' := by
    intro s' pc' hg hcs hm hr hpc
    refine hof hg hcs hm fun _ hrs => ?_
    rw [hr, hrs, switching_set hc hcs, switching_eq hc, hpc]
  cases pc with
  | raiseFlag =>
    cases hst
    refine hof hg rfl rfl fun _ _ => ?_
    rw [switching_set hc rfl]
    cases w <;> rfl
  | setRadioProtocol =>
    cases hst
    exact hsame hg rfl rfl rfl rfl
  | setPrimarySlotToRil =>
    rw [State.stepSwitch] at hst
    split at hst
    all_goals
      cases hst
      exact hsame hg rfl rfl rfl rfl
  | waitForRil =>
    obtain ⟨_, ⟨⟩⟩ := Option.ite_none_left_eq_some.1 hst
    exact hsame hg rfl rfl rfl rfl
  | setPrimarySlotIdDone =>
    obtain ⟨hm, ⟨⟩⟩ := Option.ite_none_right_eq_some.1 hst
    exact hof hg rfl rfl fun hn => absurd hm hn
  | returned => cases hst

theorem GuardInv.stepActivate {deadline : Bool} {pc : ActivePc} (h : GuardInv s) (hg : Guarded s')
    (hc : s.calls[i]? = some (.activate pc)) (hst : s.stepActivate i deadline pc = some s') :
    GuardInv s' := by
  have hof : ∀ {s' : State} {pc' : ActivePc}, Guarded s' → s'.calls = s.calls.set i (.activate pc') →
      (∀ j, j ≠ i → s.activeSimMutex = some j → s'.activeSimMutex = some j ∧ s'.raised = s.raised) →
      (pc'.holdsMutex → s'.activeSimMutex = some i) →
      (pc' = .setActiveSimToRil false → s'.raised = s.switching) → GuardInv s' := by
    intro s' pc' hg hcs hothers hown hwindow
    have hsw : s'.switching = s.switching := by
      rw [switching_set hc hcs, switching_eq hc]
      rfl
    refine ⟨hg, fun j pc hj hh => ?_, fun j hj => ?_⟩ <;> rw [hcs] at hj <;>
      rcases getElem?_of_set hj with ⟨rfl, hpc⟩ | ⟨hji, hj⟩
    · cases hpc
      exact hown hh
    · exact (hothers j hji (h.mutex j pc hj hh)).1
    · cases hpc
      exact (hwindow rfl).trans hsw.symm
    · rw [(hothers j hji (h.mutex j _ hj rfl)).2, hsw, h.raised j hj]
  cases pc with
  | test =>
    obtain ⟨hm, hst⟩ := Option.ite_none_left_eq_some.1 hst
    have hno : ∀ j, j ≠ i → s.activeSimMutex ≠ some j := fun j _ hj => hm (by rw [hj]; nofun)
    split at hst <;> cases hst
    · exact hof hg rfl (fun j hji hj => absurd hj (hno j hji)) nofun nofun
    next hf =>
      refine hof hg rfl (fun j hji hj => absurd hj (hno j hji)) (fun _ => rfl) fun _ => ?_
      exact (eq_false_of_ne_true fun hsw => hf (h.flag hsw)).symm
  | waiting =>
    obtain ⟨hm, hst⟩ := Option.ite_none_left_eq_some.1 hst
    have hno : ∀ j, j ≠ i → s.activeSimMutex ≠ some j := fun j _ hj => hm (by rw [hj]; nofun)
    split at hst <;> cases hst
    · exact hof hg rfl (fun j hji hj => absurd hj (hno j hji)) (fun _ => rfl) nofun
    · exact hof hg rfl (fun j hji hj => absurd hj (hno j hji)) nofun nofun
  | setActiveSimToRil timedOut =>
    cases hst
    exact hof hg rfl (fun j _ hj => ⟨hj, rfl⟩) (fun _ => h.mutex i _ hc rfl) nofun
  | calling =>
    cases hst
    refine hof hg rfl (fun j hji hj => absurd ?_ hji) nofun nofun
    exact Option.some.inj (hj.symm.trans (h.mutex i _ hc rfl))
  | returned => cases hst

theorem GuardInv.step_iff {l : Label} (h : GuardInv s) (hs : step s l = some s') :
    Guarded s' ↔ Alone s l := by
  cases l with
  | switch withoutModemReboot | activate =>
    cases hs
    exact iff_of_true (h.of_same (by simp [State.switching, Call.switching]) rfl rfl) trivial
  | step i deadline =>
    rw [step] at hs
    rw [Alone]
    split at hs
    next w pc hc =>
      rw [h.stepSwitch_iff hc hs, hc]
      cases pc <;> simp
    next pc hc =>
      rw [h.stepActivate_iff hc hs, hc]
      rcases pc with _ | _ | (_ | _) | _ | _ <;> simp
      rw [h.raised i hc]
    next => cases hs
  | rilResponse =>
    cases hs
    exact iff_of_true (h.of_same rfl rfl rfl) trivial

theorem GuardInv.begins (h : GuardInv s) (hg : Guarded { s with calls := s.calls ++ [call] })
    (hc : ∀ pc, call = .activate pc → pc = .test) (hsw : call.switching = false) :
    GuardInv { s with calls := s.calls ++ [call] } := by
  have hkeep : ∀ {j : Nat} {pc : ActivePc}, (s.calls ++ [call])[j]? = some (.activate pc) →
      pc.holdsMutex → s.calls[j]? = some (.activate pc) := by
    intro j pc hj hh
    rcases Nat.lt_or_ge j s.calls.length with hlt | hge
    · rwa [getElem?_append_left hlt] at hj
    · rw [getElem?_append_right hge] at hj
      rw [hc pc (getElem?_singleton_eq_some hj).2] at hh
      cases hh
  refine ⟨hg, fun j pc hj hh => h.mutex j pc (hkeep hj hh) hh, fun j hj => ?_⟩
  rw [State.switching, any_append, any_cons, hsw, any_nil, Bool.or_false, Bool.or_false]
  exact h.raised j (hkeep hj rfl)

theorem GuardInv.step {l : Label} (h : GuardInv s) (hs : SlotSwitch.step s l = some s')
    (hg : Guarded s') : GuardInv s' := by
  cases l with
  | switch withoutModemReboot =>
    cases hs
    exact h.begins hg nofun rfl
  | activate =>
    cases hs
    exact h.begins hg (fun pc hpc => (Call.activate.inj hpc).symm) rfl
  | step i deadline =>
    rw [SlotSwitch.step] at hs
    split at hs
    next w pc hc => exact h.stepSwitch hg hc hs
    next pc hc => exact h.stepActivate hg hc hs
    next => cases hs
  | rilResponse =>
    cases hs
    exact ⟨hg, h.mutex, h.raised⟩

/-- In all states of a run the flag is up during a switch, and the modem was called during a switch
only after a time-out, if and only if no switch ends while another one is running, and none raises
the flag between a test that finds it down and the call of the modem that follows. -/
theorem flag_guards_switch_iff (ls : List Label) :
    (∀ n s, runLabels step {} (ls.take n) = some s → Guarded s) ↔ StepsMeet step Alone {} ls :=
  everywhere_iff_stepsMeet GuardInv.toGuarded
    (fun h hs => ⟨(h.step_iff hs).1, fun ha => h.step hs ((h.step_iff hs).2 ha)⟩) ls
    ⟨⟨by decide, by simp⟩, by simp, by simp⟩

/-- The second switch is refused at once and lowers the flag of the first one. A call of
`SetActiveCommonSim` then goes on without waiting. -/
theorem refused_switch_lowers_flag :
    ∃ s, runLabels step {} [.switch true, .step 0 false, .step 0 false, .switch true,
        .step 1 false, .step 1 false, .step 1 false, .activate, .step 2 false, .step 2 false] =
          some s ∧
      s.calls = [.switch true .waitForRil, .switch true .returned, .activate .calling] ∧
      s.isSetPrimarySlotIdInProgress = false ∧ s.rilCalls = [(false, true)] := by
  exact exists_run _ (by decide +kernel)

end TelephonyCore.Sim.SlotSwitch
