import TelephonyCore.Phonebook.UsimService

/-!
# Every caller of the USIM phone book is answered

With the file controller in place and an answer to each load of an ADN file, a load that runs goes
on until `SendBackResult`. The one event without a successor is a failed read of an ADN file for a
record that is not in `pbrFiles_`. Loads may overlap, since `ProcessPbrLoadDone` takes back
`isProcessingPbr` before it answers; then one load can move `currentIndex_` past the end while
another still reads. But to do that is to answer all callers, and the index is back in range before
the next load reads a file: this is `Running`.
-/

namespace TelephonyCore.Phonebook.Usim

open Codec Lib

variable {Caller : Type}

/-! ## Where an event leads -/

variable {outcome : Outcome} {utf : Utf} {answer : Answer}

namespace Service

variable {service : Service}

theorem loadDiallingNumberFiles_next (service : Service) (recId : Nat) :
    (service.loadDiallingNumberFiles recId).service = service ∧
      ((∃ list, (service.loadDiallingNumberFiles recId).next = .sendBackResult list) ∨
        (∃ request, (service.loadDiallingNumberFiles recId).next = .send request) ∧
          recId < service.pbrFiles.length) := by
  rw [loadDiallingNumberFiles]
  split
  next => exact ⟨rfl, .inl ⟨_, rfl⟩⟩
  next pbr hp =>
    have hlt := (List.getElem?_eq_some_iff.1 hp).1
    split
    next =>
      split
      next => exact ⟨rfl, .inr ⟨⟨_, rfl⟩, hlt⟩⟩
      next => exact ⟨rfl, .inr ⟨⟨_, rfl⟩, hlt⟩⟩
    next => exact ⟨rfl, .inr ⟨⟨_, rfl⟩, hlt⟩⟩

theorem loadDiallingNumber2Files_next (service : Service) (recId : Nat) :
    (service.loadDiallingNumber2Files recId).service = service ∧
      ∃ request, (service.loadDiallingNumber2Files recId).next = .send request := by
  rw [loadDiallingNumber2Files]
  split <;> exact ⟨rfl, _, rfl⟩

theorem loadIapFiles_next (service : Service) (recId : Nat) :
    (service.loadIapFiles recId).service = service ∧
      ∃ request, (service.loadIapFiles recId).next = .send request := by
  rw [loadIapFiles]
  split <;> exact ⟨rfl, _, rfl⟩

/-- The load is at its end, or goes on with a record in range or with the record it was at, or ends
because that is not in range. -/
structure Follows (service : Service) (outcome : Outcome) : Prop where
  isProcessingPbr : outcome.service.isProcessingPbr = service.isProcessingPbr
  next : (∃ list, outcome.next = .sendBackResult list) ∨
    (∃ request, outcome.next = .send request) ∧
      (outcome.service.currentIndex < outcome.service.pbrFiles.length ∨
        outcome.service.currentIndex = service.currentIndex ∧
          outcome.service.pbrFiles = service.pbrFiles) ∨
    outcome.next = .ends ∧ service.pbrFiles.length ≤ service.currentIndex

theorem follows_of_send (hs : outcome.service = service)
    (hn : ∃ request, outcome.next = .send request) : Follows service outcome := by
  refine ⟨congrArg (·.isProcessingPbr) hs, .inr (.inl ⟨hn, .inr ⟨?_, ?_⟩⟩)⟩
  · exact congrArg (·.currentIndex) hs
  · exact congrArg (·.pbrFiles) hs

theorem follows_skipAdn (service : Service) : Follows service service.skipAdn := by
  obtain ⟨hs, hn⟩ := loadDiallingNumber2Files_next service service.currentIndex
  exact follows_of_send hs hn

theorem follows_reLoadAdnFile (h : service.reLoadAdnFile service.currentIndex = some outcome) :
    Follows service outcome := by
  simp only [reLoadAdnFile] at h
  split at h
  next hn =>
    cases h
    exact ⟨rfl, .inr (.inr ⟨rfl, List.getElem?_eq_none_iff.1 hn⟩)⟩
  next =>
    obtain ⟨_, -, h⟩ := Option.bind_eq_some_iff.1 h
    obtain ⟨_, -, h⟩ := Option.bind_eq_some_iff.1 h
    obtain ⟨-, ⟨⟩⟩ := Option.ite_none_right_eq_some.1 h
    exact ⟨rfl, .inr (.inl ⟨⟨_, rfl⟩, .inr ⟨rfl, rfl⟩⟩)⟩

theorem follows_nextRecord (service : Service) : Follows service service.nextRecord := by
  obtain ⟨hsr, hn⟩ := loadDiallingNumberFiles_next
    { service with currentIndex := service.currentIndex + 1 } (service.currentIndex + 1)
  refine ⟨congrArg (·.isProcessingPbr) hsr, ?_⟩
  rcases hn with hb | ⟨hsn, hlt⟩
  · exact .inl hb
  · refine .inr (.inl ⟨hsn, .inl ?_⟩)
    rw [nextRecord, hsr]
    exact hlt

theorem Follows.of_files {other : Service} (h : Follows other outcome)
    (hpr : other.isProcessingPbr = service.isProcessingPbr)
    (hid : other.currentIndex = service.currentIndex)
    (hpb : other.pbrFiles = service.pbrFiles) : Follows service outcome where
  isProcessingPbr := h.isProcessingPbr.trans hpr
  next := by
    rw [← hid, ← hpb]
    exact h.next

theorem follows_processDiallingNumberLoadDone (fileId : FileId) (answer : Answer)
    (h : service.processDiallingNumberLoadDone fileId answer = some outcome) :
    Follows service outcome := by
  cases answer with
  | numbers exception result =>
    cases exception with
    | some exception =>
      simp only [processDiallingNumberLoadDone] at h
      split at h
      next => exact (follows_reLoadAdnFile h).of_files rfl rfl rfl
      next =>
        cases h
        exact (follows_skipAdn _).of_files rfl rfl rfl
    | none =>
      cases result with
      | none =>
        cases h
        exact (follows_skipAdn _).of_files rfl rfl rfl
      | some list =>
        cases h
        obtain ⟨hs, hn⟩ := loadDiallingNumber2Files_next
          { service.setAdn fileId list with reLoadNum := 0 } service.currentIndex
        exact (follows_of_send hs hn).of_files rfl rfl rfl
  | null | pbrRecords | records =>
    cases h
    exact follows_skipAdn service

theorem follows_processDiallingNumber2LoadDone (utf : Utf) (fileId : FileId) (answer : Answer)
    (h : service.processDiallingNumber2LoadDone utf fileId answer = some outcome) :
    Follows service outcome := by
  simp only [processDiallingNumber2LoadDone] at h
  split at h
  next => cases h
  next pbr hp =>
    cases h
    split
    next =>
      obtain ⟨hs, hn⟩ := loadIapFiles_next { service with files := _ } _
      exact (follows_of_send hs hn).of_files rfl rfl rfl
    next => exact (follows_nextRecord _).of_files rfl rfl rfl

theorem follows_memberFunc {request : Request} (hr : request ≠ .pbr)
    (h : service.memberFunc utf request answer = some outcome) : Follows service outcome := by
  cases request with
  | pbr => exact absurd rfl hr
  | adn fileId => exact follows_processDiallingNumberLoadDone fileId answer h
  | nextAdn => exact follows_processDiallingNumberLoadDone 0 .null h
  | anr fileId => exact follows_processDiallingNumber2LoadDone utf fileId answer h
  | nextAnr => exact follows_processDiallingNumber2LoadDone utf 0 .null h
  | iap | nextIap =>
    cases h
    exact (follows_nextRecord _).of_files rfl rfl rfl

/-! ### The PBR file -/

def reloads (service : Service) (answer : Answer) : Bool :=
  match answer with
  | .pbrRecords _ _ => false
  | _ => service.reLoadNum < MAX_RETRANSMIT_COUNT

/-- What follows an event of the PBR file. -/
structure Starts (service : Service) (outcome : Outcome) : Prop where
  isProcessingPbr : outcome.service.isProcessingPbr = service.isProcessingPbr ∨
    ∃ list, outcome.next = .sendBackResult list
  next : (∃ list, outcome.next = .sendBackResult list) ∨ outcome.next = .send .pbr ∨
    (∃ request, outcome.next = .send request) ∧
      outcome.service.currentIndex < outcome.service.pbrFiles.length

theorem starts_startLoadByPbrFiles (service : Service) :
    Starts service service.startLoadByPbrFiles := by
  rw [startLoadByPbrFiles]
  split
  next => exact ⟨.inl rfl, .inl ⟨_, rfl⟩⟩
  next =>
    obtain ⟨hsr, hn⟩ := loadDiallingNumberFiles_next { service with currentIndex := 0 } 0
    refine ⟨.inl (congrArg (·.isProcessingPbr) hsr), ?_⟩
    rcases hn with hb | ⟨hsn, hlt⟩
    · exact .inl hb
    · refine .inr (.inr ⟨hsn, ?_⟩)
      rw [hsr]
      exact hlt

theorem starts_processPbrLoadDone (hc : service.reloads answer → service.fileController) :
    Starts service (service.processPbrLoadDone answer) := by
  cases answer with
  | pbrRecords exception pbrFiles =>
    cases exception with
    | true => exact starts_startLoadByPbrFiles service
    | false =>
      have hst := starts_startLoadByPbrFiles { service with reLoadNum := 0, pbrFiles }
      exact ⟨hst.isProcessingPbr, hst.next⟩
  | null | numbers | records =>
    rw [processPbrLoadDone.eq_def]
    simp only
    split
    next hr =>
      have hse : service.fileController := hc (decide_eq_true hr)
      rw [reLoadPbrFile]
      simp only [hse]
      exact ⟨.inl rfl, .inr (.inl rfl)⟩
    next => exact ⟨.inr ⟨_, rfl⟩, .inl ⟨_, rfl⟩⟩

end Service

/-! ## The invariant -/

/-- The file controller is there when the PBR file is to be read, and no load of an ADN file is
dropped. -/
def ControllerSet (s : State Caller) : Label Caller → Prop
  | .loadPbrFiles => s.service.isProcessingPbr = false → s.service.fileController = true
  | .event k answer =>
    ∀ pending ∈ s.outstanding[k]?, pending.request = .pbr → s.service.reloads answer = true →
      s.service.fileController = true
  | .drop _ => False
  | _ => True

instance (s : State Caller) : (l : Label Caller) → Decidable (ControllerSet s l)
  | .loadPbrFiles =>
    inferInstanceAs (Decidable (s.service.isProcessingPbr = false →
      s.service.fileController = true))
  | .event k answer =>
    inferInstanceAs (Decidable (∀ pending ∈ s.outstanding[k]?, pending.request = .pbr →
      s.service.reloads answer = true → s.service.fileController = true))
  | .drop _ => .isFalse id
  | .setFileControllerAndDiallingNumberHandler _ _ | .obtainUsimElementaryFiles _
  | .sendBackResult | .processObtainPbrDetailsDone | .clearDiallingNumberCache => .isTrue trivial

/-- Something is under way that is going to answer the callers. -/
def Running (s : State Caller) : Prop :=
  s.sending ≠ none ∨ (∃ pending ∈ s.outstanding, pending.request = .pbr) ∨
    s.outstanding ≠ [] ∧ s.service.currentIndex < s.service.pbrFiles.length

structure Inv (s : State Caller) : Prop where
  running : s.service.isProcessingPbr = true → Running s
  callers : s.callers ≠ [] → s.service.isProcessingPbr = true ∨ 0 < s.pushed ∨ s.sending ≠ none

theorem inv_init : Inv ({} : State Caller) :=
  ⟨by simp, by simp⟩

section

variable {s : State Caller} {k : Nat} {pending : Pending} {outcome : Outcome}

theorem Inv.running_follows (h : Inv s) (hid : s.sending = none)
    (hpn : s.outstanding[k]? = some pending) (hrq : pending.request ≠ .pbr)
    (hf : s.service.Follows outcome) (hpr : s.service.isProcessingPbr) :
    Running ({ s with outstanding := s.outstanding.eraseIdx k }.resume outcome pending.failed) := by
  -- a read of the PBR file goes on
  have hg : ∀ other ∈ s.outstanding, other.request = .pbr →
      other ∈ s.outstanding.eraseIdx k := by
    intro other hot hpbr
    refine mem_eraseIdx_of_ne hpn hot ?_
    rintro rfl
    exact hrq hpbr
  rcases State.resume_cases { s with outstanding := s.outstanding.eraseIdx k } outcome
    pending.failed with ⟨request, hn, hou, -⟩ | ⟨list, hn, -, hsd⟩ |
      ⟨hn, hou, -⟩
  · rcases h.running hpr with hsd | ⟨other, hot, hpbr⟩ | ⟨-, hlt⟩
    · exact absurd hid hsd
    · refine .inr (.inl ⟨other, ?_, hpbr⟩)
      rw [hou]
      exact List.mem_append_left _ (hg other hot hpbr)
    · refine .inr (.inr ⟨by rw [hou]; simp, ?_⟩)
      rw [resume_service]
      rcases hf.next with ⟨list, hbc⟩ | ⟨-, hrg⟩ | ⟨he, -⟩
      · cases hn.symm.trans hbc
      · rcases hrg with hrg | ⟨hix, hpb⟩
        · exact hrg
        · rw [hix, hpb]
          exact hlt
      · cases hn.symm.trans he
  · exact .inl (by rw [hsd]; simp)
  · rcases hf.next with ⟨list, hbc⟩ | ⟨⟨request, hsn⟩, -⟩ | ⟨-, hby⟩
    · cases hn.symm.trans hbc
    · cases hn.symm.trans hsn
    · rcases h.running hpr with hsd | ⟨other, hot, hpbr⟩ | ⟨-, hlt⟩
      · exact absurd hid hsd
      · refine .inr (.inl ⟨other, ?_, hpbr⟩)
        rw [hou]
        exact hg other hot hpbr
      · exact absurd hlt (Nat.not_lt.2 hby)

theorem running_starts (hst : s.service.Starts outcome) (failed : Bool) :
    Running ({ s with outstanding := s.outstanding.eraseIdx k }.resume outcome failed) := by
  rcases State.resume_cases { s with outstanding := s.outstanding.eraseIdx k } outcome failed with
    ⟨request, hn, ho, -⟩ | ⟨list, hn, -, hsd⟩ | ⟨hn, -⟩
  · rcases hst.next with ⟨list, hb⟩ | hp | ⟨-, hlt⟩
    · cases hn.symm.trans hb
    · obtain rfl := Next.send.inj (hn.symm.trans hp)
      refine .inr (.inl ⟨⟨.pbr, failed || outcome.fails⟩, ?_, rfl⟩)
      rw [ho]
      simp
    · refine .inr (.inr ⟨by rw [ho]; simp, ?_⟩)
      rw [resume_service]
      exact hlt
  · exact .inl (by rw [hsd]; simp)
  · rcases hst.next with ⟨list, hb⟩ | hp | ⟨⟨request, hsn⟩, -⟩
    · cases hn.symm.trans hb
    · cases hn.symm.trans hp
    · cases hn.symm.trans hsn

theorem Inv.event (h : Inv s) (hid : s.sending = none) (hpn : s.outstanding[k]? = some pending)
    (hoc : s.service.memberFunc utf pending.request answer = some outcome)
    (hct : pending.request = .pbr → s.service.reloads answer → s.service.fileController) :
    Inv ({ s with outstanding := s.outstanding.eraseIdx k }.resume outcome pending.failed) := by
  by_cases hr : pending.request = .pbr
  · rw [hr] at hoc
    cases hoc
    have hst := Service.starts_processPbrLoadDone (hct hr)
    refine ⟨fun _ => running_starts hst pending.failed, ?_⟩
    rw [resume_callers, resume_service, resume_pushed]
    intro hcl
    rcases hst.isProcessingPbr with hsm | ⟨_, hb⟩
    · rw [hsm]
      rcases h.callers hcl with hpr | hps | hsn
      · exact .inl hpr
      · exact .inr (.inl hps)
      · exact absurd hid hsn
    · refine .inr (.inr ?_)
      rw [State.resume, hb]
      simp
  · have hf := Service.follows_memberFunc hr hoc
    refine ⟨?_, ?_⟩
    · rw [resume_service, hf.isProcessingPbr]
      exact h.running_follows hid hpn hr hf
    · rw [resume_callers, resume_service, resume_pushed, hf.isProcessingPbr]
      intro hcl
      rcases h.callers hcl with hpr | hps | hsn
      · exact .inl hpr
      · exact .inr (.inl hps)
      · exact absurd hid hsn

end

theorem Inv.step {s s' : State Caller} {l : Label Caller} (h : Inv s)
    (hct : ControllerSet s l) (hst : Usim.step utf s l = some s') : Inv s' := by
  cases step_cases hst with
  | set | clear | result => exact ⟨h.running, h.callers⟩
  | obtain _ => exact ⟨h.running, fun _ => .inr (.inl (Nat.succ_pos _))⟩
  | loading hpr => exact ⟨h.running, fun _ => .inl hpr⟩
  | start hpr =>
    refine ⟨fun _ => .inr (.inl ⟨⟨.pbr, false⟩, ?_, rfl⟩), fun _ => .inl rfl⟩
    rw [if_pos (hct hpr)]
    simp
  | event k answer pending outcome hid hpn hoc =>
    exact h.event hid hpn hoc (hct pending hpn)
  | drop => exact hct.elim
  | sendBackResult sending hsn =>
    refine ⟨fun hpr => ?_, fun hcl => absurd rfl hcl⟩
    cases show false = true from hpr

/-! ## The result -/

def obtainers (run : List (Label Caller)) : List Caller :=
  run.filterMap fun
    | .obtainUsimElementaryFiles caller => some caller
    | _ => none

theorem sent_append_callers : ∀ run {s s' : State Caller},
    runLabels (step utf) s run = some s' →
      s'.sent ++ s'.callers = s.sent ++ s.callers ++ obtainers run := by
  intro run
  induction run with
  | nil =>
    intro s s' hrn
    cases hrn
    simp [obtainers]
  | cons l run ih =>
    intro s s' hrn
    obtain ⟨_, hm, hrs⟩ := runLabels_cons hrn
    rw [ih hrs]
    cases step_cases hm with
    | obtain _ => simp [obtainers]
    | event => simp [obtainers]
    | sendBackResult => simp [State.sendBackResult, obtainers]
    | set | loading | start | drop | result | clear => rfl

/-- **Every caller is answered**: when nothing is under way, no caller is left, each was sent one
result, and no load is marked as running. -/
theorem callers_answered {utf : Utf} {run : List (Label Caller)} {s : State Caller}
    (hcontroller : StepsMeet (step utf) ControllerSet {} run)
    (hrun : runLabels (step utf) {} run = some s) (houtstanding : s.outstanding = [])
    (hpushed : s.pushed = 0) (hsending : s.sending = none) :
    s.callers = [] ∧ s.sent = obtainers run ∧ s.service.isProcessingPbr = false := by
  have hin : Inv s := invariant_run .step run inv_init hcontroller hrun
  have hpr : ¬ s.service.isProcessingPbr = true := by
    intro hpr
    rcases hin.running hpr with hsd | ⟨_, hpn, -⟩ | ⟨hne, -⟩
    · exact hsd hsending
    · rw [houtstanding] at hpn
      cases hpn
    · exact hne houtstanding
  have hcl : s.callers = [] := by
    by_contra hne
    rcases hin.callers hne with h | h | h
    · exact hpr h
    · omega
    · exact h hsending
  have hsn := sent_append_callers run hrun
  rw [hcl, List.append_nil] at hsn
  exact ⟨hcl, hsn, by simpa using hpr⟩

def fullRecord : UsimDiallingNumberFile where
  fileIds
    | .adn => some 0x4F3A
    | .iap => some 0x4F25
    | .ext1 => some 0x4F4A
    | .anr => some 0x4F11
  parentTag _ := TYPE2_FLAG

/-- Two callers and one record; the ADN file is read at the second attempt. -/
def twoCallersRun : List (Label Nat) :=
  [.setFileControllerAndDiallingNumberHandler true true, .obtainUsimElementaryFiles 1,
    .loadPbrFiles, .event 0 (.pbrRecords false [fullRecord]), .obtainUsimElementaryFiles 2,
    .event 0 (.numbers (some loaderError) none), .loadPbrFiles, .event 0 (.numbers none (some [])),
    .event 0 (.records []), .event 0 .null, .sendBackResult]

theorem callers_answered_two :
    ∃ s, StepsMeet (step basicUtf) ControllerSet {} twoCallersRun ∧
      runLabels (step basicUtf) {} twoCallersRun = some s ∧ s.outstanding = [] ∧
      s.callers = [] ∧ s.sent = [1, 2] ∧ s.service.isProcessingPbr = false := by
  obtain ⟨s, hcn, hr, ho, hps, hsn⟩ : ∃ s,
      StepsMeet (step basicUtf) ControllerSet {} twoCallersRun ∧
      runLabels (step basicUtf) {} twoCallersRun = some s ∧ s.outstanding = [] ∧ s.pushed = 0 ∧
      s.sending = none :=
    exists_run_meeting _ (by decide +kernel)
  obtain ⟨hcl, hst, hpr⟩ := callers_answered hcn hr ho hps hsn
  exact ⟨s, hcn, hr, ho, hcl, hst, hpr⟩

/-- The file controller is null: the load is marked as running, and nothing is under way. -/
theorem callers_left :
    ∃ (run : List (Label Nat)) (s : State Nat), runLabels (step basicUtf) {} run = some s ∧
      s.outstanding = [] ∧ s.pushed = 0 ∧ s.sending = none ∧ s.callers ≠ [] ∧
      s.service.isProcessingPbr = true :=
  ⟨[.obtainUsimElementaryFiles 1, .loadPbrFiles], exists_run _ (by decide +kernel)⟩

/-- The load of the ADN file is dropped. -/
example :
    ∃ s, runLabels (step basicUtf) {} [.setFileControllerAndDiallingNumberHandler true true,
        .obtainUsimElementaryFiles 1, .loadPbrFiles, .event 0 (.pbrRecords false [fullRecord]),
        .drop 0] = some s ∧ s.outstanding = [] ∧ s.callers = [1] :=
  exists_run _ (by decide +kernel)

end TelephonyCore.Phonebook.Usim
