import TelephonyCore.Sim.FileLoading

/-!
# `SimFile`: the name of the service provider

The name is looked for in three files, one after the other, and the answers to all three requests
are the same event: `ObtainSpnPhase` takes the file from `spnStatus_`. A start during an acquisition
waits for the answer that is on its way. But `ClearData` resets `spnStatus_` and leaves the request,
so that the next start sends a second one, and the first answer is taken for that of the second.
-/

namespace TelephonyCore.Sim.ProviderName

open Lib Codec FileLoading SimFile

inductive SpnFile where
  | spn
  | spnCphs
  | spnShortCphs
deriving DecidableEq

/-- The status in which `ParseSpn` has the rule of the file. -/
def SpnFile.rule : SpnFile → SpnStatus
  | .spn => .general
  | .spnCphs => .operatorNameString
  | .spnShortCphs => .operatorNameShortForm

/-- The file that is requested where the status is set. -/
def fileOf : SpnStatus → SpnFile
  | .operatorNameString => .spnCphs
  | .operatorNameShortForm => .spnShortCphs
  | _ => .spn

structure State where
  file : SimFile := {}
  /-- each with the acquisition it was sent in -/
  outstanding : List (SpnFile × Nat) := []
  /-- how often `StartObtainSpn` ran -/
  started : Nat := 0
  /-- read by requests since the last start, by the rules of their files -/
  names : List StdString := []
  /-- the file and the status of each answer that was parsed -/
  parsed : List (SpnFile × SpnStatus) := []
  /-- for each answer that ended an acquisition, `spn_` and `names` -/
  ended : List (StdString × List StdString) := []

inductive Label where
  /-- the service table has the service -/
  | sst
  | clearData
  /-- the answer to the request that was sent first -/
  | answer (response : Response)

def State.send (s : State) (o : Outcome) : State :=
  if o.requests = [] then { s with file := o.file }
  else if o.file.spnStatus = .general then
    { s with
      file := o.file
      outstanding := s.outstanding ++ [(.spn, s.started + 1)]
      started := s.started + 1
      names := [] }
  else
    { s with
      file := o.file
      outstanding := s.outstanding ++ [(fileOf o.file.spnStatus, s.started)] }

def State.answer (parseSpn : SpnStatus → StdString → StdString) (s : State) (file : SpnFile)
    (acquisition : Nat) (response : Response) : State :=
  let o := s.file.processObtainSpnPhase parseSpn response
  let s' :=
    match response with
    | .data iccData =>
      { s with
        names :=
          if acquisition = s.started then s.names ++ [parseSpn file.rule iccData] else s.names
        parsed :=
          if s.file.spnStatus = SpnStatus.none ∨ s.file.spnStatus = SpnStatus.start then s.parsed
          else s.parsed ++ [(file, s.file.spnStatus)] }
    | _ => s
  { s'.send o with
    ended :=
      if s.file.spnStatus ≠ SpnStatus.none ∧ o.file.spnStatus = SpnStatus.none then
        s.ended ++ [(o.file.spn, s'.names)]
      else s.ended }

def step (parseSpn : SpnStatus → StdString → StdString) (s : State) : Label → Option State
  | .sst => some (s.send (Outcome.obtainSpnPhase { file := s.file }))
  | .clearData => some { s with file := s.file.clearData }
  | .answer response =>
    match s.outstanding with
    | [] => none
    | (file, acquisition) :: rest =>
      some ({ s with outstanding := rest }.answer parseSpn file acquisition response)

def firstName (names : List StdString) : StdString := (names.find? (· ≠ [])).getD []

structure Acquired (s : State) : Prop where
  one : s.outstanding.length ≤ 1
  rules : ∀ p ∈ s.parsed, p.1.rule = p.2
  names : ∀ e ∈ s.ended, e.1 = firstName e.2

/-- No acquisition starts while an answer is on its way. -/
def Answered (s : State) : Label → Prop
  | .sst => s.file.spnStatus = .none → s.outstanding = []
  | _ => True

/-! ## The invariant -/

structure Inv (s : State) : Prop extends Acquired s where
  waiting : s.file.spnStatus ≠ .none → s.outstanding ≠ []
  request : ∀ status, s.file.spnStatus = status → status ≠ .none → status ≠ .start →
    s.outstanding = [(fileOf status, s.started)] ∧ (fileOf status).rule = status ∧
      ∀ name ∈ s.names, name = []

variable {names : List StdString}

theorem firstName_append (hal : ∀ name ∈ names, name = []) (name : StdString) :
    firstName (names ++ [name]) = name := by
  have hnn : names.find? (· ≠ []) = none := by simpa using hal
  rw [firstName, List.find?_append, hnn, Option.none_or]
  by_cases hnm : name = [] <;> simp [hnm]

theorem firstName_empty (hal : ∀ name ∈ names, name = []) : firstName names = [] := by
  have hn : names.find? (· ≠ []) = none := by simpa using hal
  rw [firstName, hn, Option.getD_none]

section Step

variable {parseSpn : SpnStatus → StdString → StdString} {s s' : State}

theorem Inv.of_none (h : Acquired s) (hst : s.file.spnStatus = .none) : Inv s :=
  { h with
    waiting := fun hne => absurd hst hne
    request := fun _ hs hne => absurd (hs.symm.trans hst) hne }

theorem Inv.of_request (hrl : ∀ p ∈ s.parsed, p.1.rule = p.2)
    (he : ∀ e ∈ s.ended, e.1 = firstName e.2)
    (hrq : s.outstanding = [(fileOf s.file.spnStatus, s.started)])
    (hru : (fileOf s.file.spnStatus).rule = s.file.spnStatus)
    (hn : ∀ name ∈ s.names, name = []) : Inv s where
  one := by simp [hrq]
  rules := hrl
  names := he
  waiting := by simp [hrq]
  request := fun _ hs _ _ => hs ▸ ⟨hrq, hru, hn⟩

theorem Inv.sst (h : Inv s) (hnn : s.file.spnStatus = .none → s.outstanding = []) :
    Inv (s.send (.obtainSpnPhase { file := s.file })) := by
  rw [Outcome.obtainSpnPhase]
  split
  next hst =>
    refine .of_request h.rules h.names ?_ rfl (by simp [State.send, Outcome.startObtainSpn,
      Outcome.request, Outcome.setSpnStatus])
    simp [State.send, Outcome.startObtainSpn, Outcome.request, Outcome.setSpnStatus, hnn hst,
      fileOf]
  next hb =>
    exact {
      one := h.one
      rules := h.rules
      names := h.names
      waiting := fun _ => h.waiting fun hst => hb hst
      request := fun status hs _ hne => absurd hs.symm hne }

theorem Inv.parse (h : Inv s) {status : SpnStatus} (next : SpnStatus)
    (hs : s.file.spnStatus = status)
    (hrq : status ≠ .none ∧ status ≠ .start) (hnx : (fileOf next).rule = next)
    (hne : next ≠ .none ∧ next ≠ .general) {response : Response}
    (ho : s.file.processObtainSpnPhase parseSpn response =
      s.file.processSpn parseSpn next response) :
    Inv ({ s with outstanding := [] }.answer parseSpn (fileOf status) s.started response) := by
  obtain ⟨-, hru, hnm⟩ := h.request status hs hrq.1 hrq.2
  have hrl := forall_mem_concat (y := (fileOf status, status)) h.rules hru
  simp only [State.answer, ho]
  cases response with
  | data iccData =>
    by_cases hna : parseSpn status iccData = []
    · simp [processSpn, hs, hna, hru, State.send, Outcome.setSpnStatus, hrq, hne]
      exact .of_request hrl h.names rfl hnx (forall_mem_concat hnm rfl)
    · simp [processSpn, hs, hna, hru, hrq]
      exact .of_none ⟨Nat.zero_le _, hrl,
        forall_mem_concat h.names (firstName_append hnm _).symm⟩ rfl
  | _ =>
    simp [processSpn, State.send, Outcome.setSpnStatus, hne]
    exact .of_request h.rules h.names rfl hnx hnm

theorem Inv.answer (h : Inv s) {file : SpnFile} {acquisition : Nat} {rest : List (SpnFile × Nat)}
    (hf : s.outstanding = (file, acquisition) :: rest) (response : Response) :
    Inv ({ s with outstanding := rest }.answer parseSpn file acquisition response) := by
  obtain rfl : rest = [] := by
    have hoe := h.one
    rw [hf, List.length_cons] at hoe
    exact List.length_eq_zero_iff.1 (by omega)
  have hon : s.file.spnStatus ≠ .none → s.file.spnStatus ≠ .start →
      file = fileOf s.file.spnStatus ∧ acquisition = s.started := by
    intro hne hne'
    have hrq := (h.request _ rfl hne hne').1
    rw [hf] at hrq
    simpa using hrq
  cases hs : s.file.spnStatus with
  | none =>
    have han : processObtainSpnPhase parseSpn s.file response = { file := s.file } := by
      simp only [processObtainSpnPhase, hs]
    cases response <;>
    · simp [State.answer, han, hs]
      exact .of_none ⟨Nat.zero_le _, h.rules, h.names⟩ hs
  | start =>
    have han : processObtainSpnPhase parseSpn s.file response =
        .startObtainSpn { file := s.file } := by
      simp only [processObtainSpnPhase, hs]
    cases response <;>
    · simp [State.answer, State.send, han, hs, Outcome.startObtainSpn, Outcome.request,
        Outcome.setSpnStatus]
      exact .of_request h.rules h.names rfl rfl (by simp)
  | general =>
    obtain ⟨rfl, rfl⟩ := hon (by simp [hs]) (by simp [hs])
    rw [hs]
    exact h.parse .operatorNameString hs (by decide) rfl (by decide)
      (by simp only [processObtainSpnPhase, hs]; rfl)
  | operatorNameString =>
    obtain ⟨rfl, rfl⟩ := hon (by simp [hs]) (by simp [hs])
    rw [hs]
    exact h.parse .operatorNameShortForm hs (by decide) rfl (by decide)
      (by simp only [processObtainSpnPhase, hs]; rfl)
  | operatorNameShortForm =>
    obtain ⟨rfl, rfl⟩ := hon (by simp [hs]) (by simp [hs])
    obtain ⟨-, hru, hnm⟩ := h.request _ hs (by decide) (by decide)
    have hrl := forall_mem_concat (y := (fileOf .operatorNameShortForm, .operatorNameShortForm))
      h.rules hru
    cases response with
    | data iccData =>
      simp [State.answer, processObtainSpnPhase, hs, processSpnShortCphs]
      exact .of_none ⟨Nat.zero_le _, hrl,
        forall_mem_concat h.names (firstName_append hnm _).symm⟩ rfl
    | _ =>
      simp [State.answer, processObtainSpnPhase, hs]
      exact .of_none ⟨Nat.zero_le _, h.rules,
        forall_mem_concat h.names (firstName_empty hnm).symm⟩ rfl

theorem Inv.step {l : Label} (h : Inv s) (hsp : ProviderName.step parseSpn s l = some s') :
    (Acquired s' → Answered s l) ∧ (Answered s l → Inv s') := by
  cases l with
  | sst =>
    obtain rfl := Option.some.inj hsp
    refine ⟨fun hg hst => ?_, h.sst⟩
    have ho := hg.one
    simp [Outcome.obtainSpnPhase, State.send, Outcome.startObtainSpn, Outcome.request,
      Outcome.setSpnStatus, hst] at ho
    exact ho
  | clearData =>
    obtain rfl := Option.some.inj hsp
    exact ⟨fun _ => trivial, fun _ => .of_none ⟨h.one, h.rules, h.names⟩ rfl⟩
  | answer response =>
    refine ⟨fun _ => trivial, fun _ => ?_⟩
    cases hf : s.outstanding with
    | nil => simp [ProviderName.step, hf] at hsp
    | cons first rest =>
      simp only [ProviderName.step, hf, Option.some.injEq] at hsp
      exact hsp ▸ h.answer hf response

end Step

/-- The name is acquired as it should be exactly if no acquisition starts while the answer to a
request from before a `ClearData` is on its way. -/
theorem provider_name_acquired_iff (parseSpn : SpnStatus → StdString → StdString)
    (ls : List Label) :
    (∀ n s, runLabels (step parseSpn) {} (ls.take n) = some s → Acquired s) ↔
      StepsMeet (step parseSpn) Answered {} ls := by
  have hin : Inv {} := .of_none ⟨Nat.zero_le _, by simp, by simp⟩ rfl
  exact everywhere_iff_stepsMeet Inv.toAcquired Inv.step ls hin

/-- Two requests for EF_SPN are outstanding. After the exception that answers the first, the data
that answers the second is parsed as a CPHS name. -/
theorem cleared_request_misread :
    ∃ s, runLabels (step fun _ iccData => iccData) {}
        [.sst, .clearData, .sst, .answer .exception, .answer (.data [65])] = some s ∧
      s.parsed = [(.spn, .operatorNameString)] ∧ s.outstanding = [(.spnCphs, 2)] :=
  ⟨_, rfl, rfl, rfl⟩

end TelephonyCore.Sim.ProviderName
