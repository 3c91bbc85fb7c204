import TelephonyCore.Privilege.Controller
import TelephonyCore.Lib.Transition

/-!
# Loads of the rules, one after the other

Every opening of a channel starts a load. The modem gives its answers in any order, also after the
card was changed, and nothing in an answer shows whose it is: the handlers take one for an answer of
the present load if `currentChannelId_` is positive, and `SetForCloseChannel` ends the present load
whichever load the answer belongs to.

So the rules of a card that was taken out can become those of the next one, unless every open and
transmit answer is handled before the next load starts (`PresentLoad`).
-/

namespace TelephonyCore.Privilege

open Codec Lib Controller

/-! ## The machine -/

/-- An answer, and the load it belongs to. -/
structure Chunk where
  load : Nat
  response : StdString
deriving DecidableEq

structure State where
  controller : Controller := {}
  /-- how many loads have started; the last is the present one -/
  load : Nat := 0
  /-- the loads of the requests that have no answer yet -/
  opens : List Nat := []
  transmits : List Nat := []
  closes : List Nat := []
  /-- the answers that make up `currData` -/
  source : List Chunk := []
  /-- the answers that made up `currData` when the rules were parsed -/
  ruleSource : List Chunk := []
  /-- the present load has neither had its last answer nor failed -/
  loading : Bool := false
deriving DecidableEq

inductive Label where
  | simState (state : SimState) (isTimeOut : Bool)
  | hasOperatorPrivileges (state : SimState) (isTimeOut : Bool) (certHash packageName : StdString)
  | openDone (load : Nat) (isTimeOut : Bool) (channelId : Option Int)
  | transmitDone (load : Nat) (isTimeOut : Bool) (response : Option StdString)
  | closeDone (load : Nat)

/-- An open request starts a load. -/
def State.simStateChanged (s : State) (out : Controller × List Request) : State :=
  if out.2 = [] then { s with controller := out.1 }
  else
    { s with
      controller := out.1
      load := s.load + 1
      opens := s.opens ++ [s.load + 1]
      source := []
      loading := true }

/-- It goes on with a request, or is over. -/
def State.answered (s : State) (load : Nat) (c : Controller) (goesOn : Bool) : State :=
  { s with
    controller := c
    transmits := if goesOn then s.transmits ++ [load] else s.transmits
    loading := s.loading && (goesOn || load ≠ s.load) }

def Controller.takes (c : Controller) (isTimeOut : Bool) (response : Option StdString) :
    Option StdString :=
  if c.currentChannelId > 0 ∧ isTimeOut = false then response else none

def step (s : State) : Label → Option State
  | .simState state isTimeOut =>
    some (s.simStateChanged (s.controller.processSimStateChanged state isTimeOut))
  | .hasOperatorPrivileges state isTimeOut certHash packageName =>
    some (s.simStateChanged
      (s.controller.hasOperatorPrivileges state isTimeOut certHash packageName).2)
  | .openDone load isTimeOut channelId =>
    if load ∈ s.opens then
      let out := s.controller.processOpenLogicalChannelDone isTimeOut channelId
      some ({ s with opens := s.opens.erase load }.answered load out.1 (out.2 ≠ []))
    else none
  | .transmitDone load isTimeOut response =>
    if load ∈ s.transmits then
      let out := s.controller.processTransmitLogicalChannelDone isTimeOut response
      let s := { s with transmits := s.transmits.erase load }
      match s.controller.takes isTimeOut response with
      | none =>
        some { s.answered load out.1 false with
          closes := if out.2 = [] then s.closes else s.closes ++ [load] }
      | some chunk =>
        let source := s.source ++ [⟨load, chunk⟩]
        if isOneTlvCompleted out.1.currData then
          some { s.answered load out.1 false with
            source
            ruleSource := source
            closes := s.closes ++ [load] }
        else some { s.answered load out.1 true with source }
    else none
  | .closeDone load =>
    if load ∈ s.closes then
      some { s with
        closes := s.closes.erase load
        controller := s.controller.processCloseLogicalChannelDone }
    else none

/-- The rules are none, or the parse of answers of the present load. -/
def State.RulesPresent (s : State) : Prop :=
  s.controller.rules = [] ∨
    s.controller.rules = (createFromTLV (s.ruleSource.map Chunk.response).flatten).getD [] ∧
      ∀ chunk ∈ s.ruleSource, chunk.load = s.load

/-- **The rules of a card that was taken out** are taken for those of the next one: its answer
comes when the next card has a channel with the same number. -/
theorem late_answer_taken :
    ∃ ls s, runLabels step {} ls = some s ∧ s.load = 2 ∧
      s.controller.rules.length = 2 ∧ s.ruleSource = [⟨1, twoRules⟩] ∧
      s.controller.successLoaded ∧ s.loading := by
  let ls : List Label :=
    [.simState .ready false, .openDone 1 false (some 1), .simState .notPresent false,
      .simState .ready false, .openDone 2 false (some 1), .transmitDone 1 false (some twoRules)]
  refine ⟨ls, (runLabels step {} ls).getD {}, ?_⟩
  decide +kernel

/-- Open and transmit answers are handled in their load. -/
def PresentLoad (s : State) : Label → Prop
  | .openDone load _ _ | .transmitDone load _ _ => load = s.load
  | _ => True

instance (s : State) (l : Label) : Decidable (PresentLoad s l) := by
  cases l <;> unfold PresentLoad <;> infer_instance

/-! ## What a load leaves -/

structure LoadInv (s : State) : Prop where
  data : s.controller.currData = (s.source.map Chunk.response).flatten
  present : ∀ chunk ∈ s.source, chunk.load = s.load
  rules : s.RulesPresent
  busy : s.loading → s.controller.isTransmitting

theorem loadInv_init : LoadInv {} where
  data := rfl
  present := by simp
  rules := .inl rfl
  busy := by simp

inductive StateChanged (c : Controller) (out : Controller × List Request) : Prop
  | same (hout : out.2 = []) (hdata : out.1.currData = c.currData)
    (htransmitting : out.1.isTransmitting = c.isTransmitting)
    (hrules : out.1.rules = c.rules ∨ out.1.rules = [])
  | opened (hout : out.2 = [.openLogicalChannel]) (hdata : out.1.currData = [])
    (htransmitting : out.1.isTransmitting) (hrules : out.1.rules = [])

theorem stateChanged_processSimStateChanged (c : Controller) (state : SimState)
    (isTimeOut : Bool) : StateChanged c (c.processSimStateChanged state isTimeOut) := by
  have ho : StateChanged c ((c.setSimAvailable true).openChannel isTimeOut) := by
    rw [openChannel]
    split
    · exact .same rfl rfl rfl (.inl rfl)
    · exact .opened rfl rfl rfl rfl
  cases state with
  | unknown | notReady | notPresent => exact .same rfl rfl rfl (.inr rfl)
  | locked => exact .same rfl rfl rfl (.inl rfl)
  | ready | loaded => exact ho

theorem stateChanged_hasOperatorPrivileges (c : Controller) (state : SimState) (isTimeOut : Bool)
    (certHash packageName : StdString) :
    StateChanged c (c.hasOperatorPrivileges state isTimeOut certHash packageName).2 := by
  have hp : (c.hasOperatorPrivileges state isTimeOut certHash packageName).2 =
      if !c.successLoaded && isTimeOut then c.processSimStateChanged state isTimeOut else (c, []) := by
    rw [hasOperatorPrivileges]
    simp only
    split <;> split <;> rfl
  rw [hp]
  split
  · exact stateChanged_processSimStateChanged c state isTimeOut
  · exact .same rfl rfl rfl (.inl rfl)

variable {s s' : State} {load : Nat} {c : Controller} {isTimeOut : Bool}
  {response : Option StdString}

theorem LoadInv.simStateChanged (h : LoadInv s) {out : Controller × List Request}
    (ho : StateChanged s.controller out) : LoadInv (s.simStateChanged out) := by
  rw [State.simStateChanged]
  cases ho with
  | same hn hdt htx hrl =>
    rw [if_pos hn]
    exact {
      data := hdt.trans h.data
      present := h.present
      rules := by
        rcases hrl with hsm | hc
        · rw [State.RulesPresent]
          simp only [hsm]
          exact h.rules
        · exact .inl hc
      busy := fun hl => htx.trans (h.busy hl) }
  | opened hsn hdt htx hrl =>
    rw [if_neg (by rw [hsn]; simp)]
    exact {
      data := hdt
      present := by simp
      rules := .inl hrl
      busy := fun _ => htx }

theorem LoadInv.answered (h : LoadInv s) {goesOn : Bool} (hlo : load = s.load)
    (hdt : c.currData = s.controller.currData) (hrl : c.rules = s.controller.rules)
    (hb : goesOn → c.isTransmitting = s.controller.isTransmitting) :
    LoadInv (s.answered load c goesOn) where
  data := hdt.trans h.data
  present := h.present
  rules := by
    rw [State.RulesPresent]
    simp only [State.answered, hrl]
    exact h.rules
  busy := by
    intro hld
    -- the load goes on, as the answer is one of its own
    simp only [State.answered, hlo, ne_eq, not_true, decide_false, Bool.or_false,
      Bool.and_eq_true] at hld
    exact (hb hld.2).trans (h.busy hld.1)

theorem processOpenLogicalChannelDone_frame (c : Controller) (isTimeOut : Bool)
    (channelId : Option Int) :
    let out := c.processOpenLogicalChannelDone isTimeOut channelId
    out.1.currData = c.currData ∧ out.1.rules = c.rules ∧
      (out.2 ≠ [] → out.1.isTransmitting = c.isTransmitting) := by
  cases isTimeOut with
  | true => exact ⟨rfl, rfl, fun h => absurd rfl h⟩
  | false =>
    cases channelId with
    | none => exact ⟨rfl, rfl, fun _ => rfl⟩
    | some channelId =>
      simp only [processOpenLogicalChannelDone, Bool.false_eq_true, if_false]
      split <;> exact ⟨rfl, rfl, fun _ => rfl⟩

theorem processTransmit_of_takes_none (ht : c.takes isTimeOut response = none) :
    c.processTransmitLogicalChannelDone isTimeOut response = c.closeChannel := by
  cases response with
  | none => rfl
  | some chunk =>
    rw [takes] at ht
    split at ht
    · cases ht
    next hn =>
      rw [processTransmitLogicalChannelDone]
      by_cases hch : c.currentChannelId ≤ 0
      · rw [if_pos hch]
      · have hl : isTimeOut := by
          by_contra he
          exact hn ⟨by omega, by simpa using he⟩
        rw [if_neg hch, if_pos hl]

theorem processTransmit_of_takes_some {chunk : StdString}
    (hts : c.takes isTimeOut response = some chunk) :
    c.processTransmitLogicalChannelDone isTimeOut response =
      let c := { c with currData := c.currData ++ chunk }
      if !isOneTlvCompleted c.currData then (c, [.transmit c.currentChannelId P2_EXTENDED_DATA])
      else { c with rules := (createFromTLV c.currData).getD [] }.closeChannel := by
  rw [takes] at hts
  split at hts
  next htk =>
    obtain ⟨_, he⟩ := htk
    rw [hts, processTransmitLogicalChannelDone, if_neg (by omega), if_neg (by simp [he])]
  next => cases hts

theorem LoadInv.source_append (h : LoadInv s) (hl : load = s.load) (chunk : StdString) :
    (∀ taken ∈ s.source ++ [⟨load, chunk⟩], taken.load = s.load) ∧
      s.controller.currData ++ chunk =
        ((s.source ++ [(⟨load, chunk⟩ : Chunk)]).map Chunk.response).flatten := by
  constructor
  · intro taken htk
    rcases List.mem_append.1 htk with ho | hn
    · exact h.present taken ho
    · rw [List.mem_singleton.1 hn]
      exact hl
  · rw [List.map_append, List.flatten_append, ← h.data]
    simp

theorem LoadInv.transmitDone (h : LoadInv s) (hp : load = s.load)
    (hst : step s (.transmitDone load isTimeOut response) = some s') : LoadInv s' := by
  obtain ⟨_, hst⟩ := Option.ite_none_right_eq_some.1 hst
  cases ht : s.controller.takes isTimeOut response with
  | none =>
    simp only [ht] at hst
    cases hst
    rw [processTransmit_of_takes_none ht]
    have hs : LoadInv { s with transmits := s.transmits.erase load } :=
      { data := h.data, present := h.present, rules := h.rules, busy := h.busy }
    have hcl : LoadInv (.answered _ load s.controller.closeChannel.1 false) :=
      hs.answered hp rfl rfl (by simp)
    exact { data := hcl.data, present := hcl.present, rules := hcl.rules, busy := hcl.busy }
  | some chunk =>
    have ho := processTransmit_of_takes_some ht
    obtain ⟨hsr, hdt⟩ := h.source_append hp chunk
    simp only [ht] at hst
    by_cases hcp : isOneTlvCompleted (s.controller.currData ++ chunk)
    · simp only [hcp, Bool.not_true, Bool.false_eq_true, if_false] at ho
      rw [ho] at hst
      simp only [closeChannel, setForCloseChannel, hcp] at hst
      cases hst
      exact {
        data := hdt
        present := hsr
        rules := .inr ⟨by rw [← hdt]; rfl, hsr⟩
        busy := by
          intro hl
          simp [State.answered, hp] at hl }
    · simp only [hcp, Bool.not_false, if_true] at ho
      rw [ho] at hst
      simp only [hcp] at hst
      cases hst
      exact {
        data := hdt
        present := hsr
        rules := h.rules
        busy := by
          intro hl
          simp only [State.answered, Bool.true_or, Bool.and_true] at hl
          exact h.busy hl }

theorem LoadInv.step {l : Label} (h : LoadInv s) (hp : PresentLoad s l)
    (hst : step s l = some s') : LoadInv s' := by
  cases l with
  | simState state isTimeOut =>
    cases hst
    exact h.simStateChanged (stateChanged_processSimStateChanged s.controller state isTimeOut)
  | hasOperatorPrivileges state isTimeOut certHash packageName =>
    cases hst
    exact h.simStateChanged
      (stateChanged_hasOperatorPrivileges s.controller state isTimeOut certHash packageName)
  | openDone load isTimeOut channelId =>
    obtain ⟨_, ⟨⟩⟩ := Option.ite_none_right_eq_some.1 hst
    obtain ⟨hdt, hrl, hb⟩ := processOpenLogicalChannelDone_frame s.controller isTimeOut channelId
    have hs : LoadInv { s with opens := s.opens.erase load } :=
      { data := h.data, present := h.present, rules := h.rules, busy := h.busy }
    exact hs.answered hp hdt hrl (fun hsn => hb (by simpa using hsn))
  | transmitDone load isTimeOut response => exact h.transmitDone hp hst
  | closeDone load =>
    obtain ⟨_, ⟨⟩⟩ := Option.ite_none_right_eq_some.1 hst
    exact { data := h.data, present := h.present, rules := h.rules, busy := h.busy }

/-! ## Whole runs -/

/-- **The rules are those of the present load** if open and transmit answers are handled in their
load, and they count as loaded only when it is over. -/
theorem rules_of_present_load {ls : List Label} {s : State}
    (hpresent : StepsMeet step PresentLoad {} ls) (hrun : runLabels step {} ls = some s) :
    s.RulesPresent ∧ (s.controller.successLoaded → ¬ s.loading) := by
  have hin := invariant_run .step ls loadInv_init hpresent hrun
  refine ⟨hin.rules, ?_⟩
  intro hld hln
  rw [successLoaded, hin.busy hln] at hld
  simp at hld

/-- Two loads, with the card taken out in the middle of the first. -/
theorem rules_of_present_load_reinserted :
    ∃ ls s, StepsMeet step PresentLoad {} ls ∧ runLabels step {} ls = some s ∧
      s.load = 2 ∧ s.controller.rules.length = 2 ∧ s.controller.successLoaded ∧
      s.RulesPresent ∧ (s.controller.successLoaded → ¬ s.loading) := by
  let ls : List Label :=
    [.simState .ready false, .openDone 1 false (some 1), .simState .notPresent false,
      .simState .ready false, .openDone 2 false (some 1), .transmitDone 2 false (some twoRules),
      .closeDone 2]
  obtain ⟨s, hp, hrn, hlo, hrl, hld⟩ : ∃ s, StepsMeet step PresentLoad {} ls ∧
      runLabels step {} ls = some s ∧ s.load = 2 ∧ s.controller.rules.length = 2 ∧
        s.controller.successLoaded :=
    exists_run_meeting _ (by decide +kernel)
  exact ⟨ls, s, hp, hrn, hlo, hrl, hld, rules_of_present_load hp hrn⟩

end TelephonyCore.Privilege
