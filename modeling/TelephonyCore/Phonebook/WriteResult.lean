import TelephonyCore.Phonebook.Manager

/-!
# Whose write a success reports

A write lowers `hasEventDone_`, sends its request and waits until the flag is up or its time is
over. The flag is raised by the handler of any change that was answered without error. So a waiting
call may return `TELEPHONY_SUCCESS` on the answer to another one.

A flag that is up is only trusted by the calls behind `lowerFlag`. As long as each of these has its
own write answered, whoever returns does so rightly (`WriteInv.window`). So it is enough that no
other call is at these points when an answer raises the flag (`OwnAnswer`).
-/

namespace TelephonyCore.Phonebook.Manager

open Codec Lib List UpdateStage

def State.SuccessOfOwnWrite (s : State) : Prop :=
  ∀ i call list, s.threads[i]? = some ⟨call, .returned .success list⟩ → call.op.isWrite →
    i ∈ s.answered

/-- The first write times out and is answered while the second waits. -/
def lateAnswerRun : List Label :=
  List.flatten [ [.call ⟨.add, SIM_ADN, contactAnn⟩, .call ⟨.add, SIM_ADN, contactBob⟩],
    steps 0 5, firstLoad, steps 0 5,
    [.linearSizeDone 0 (.size 17), .caller 0 true true, .caller 0 true false],
    steps 1 5, [.loadDone 0, .notify], steps 1 5,
    [.updateRecordDone 0 none, .changeDone 0, .writeDone 0], steps 1 2]

/-- **The answer of a write that timed out** makes the next one successful. -/
theorem late_answer_reports_success :
    ∃ s, runLabels (step basicUtf) {} lateAnswerRun = some s ∧
      s.threads[0]? = some ⟨⟨.add, SIM_ADN, contactAnn⟩, .returned .updateFailed []⟩ ∧
      s.threads[1]? = some ⟨⟨.add, SIM_ADN, contactBob⟩, .returned .success []⟩ ∧
      s.answered = [0] :=
  exists_run _ (by decide +kernel)

/-! ## The condition -/

def Update.succeeded (update : Update) : Bool :=
  match update.stage with
  | .done none => true
  | _ => false

/-- An answer without error finds no call but its own behind the lowering of the flag. -/
def OwnAnswer (s : State) : Label → Prop
  | .writeDone k =>
    ∀ update ∈ s.updates[k]?, update.succeeded →
      ∀ i < s.threads.length, ∀ thread ∈ s.threads[i]?, thread.pc.flagLowered → i = update.caller
  | _ => True

instance (s : State) : (l : Label) → Decidable (OwnAnswer s l)
  | .writeDone _ => inferInstanceAs (Decidable (∀ update ∈ _, _))
  | .call _ | .caller .. | .allLoaded .. | .pbrLoaded .. | .obtainDetailsDone _ | .loadDone _
  | .notify | .linearSizeDone .. | .updateRecordDone .. | .changeDone _ | .simStateChanged _ =>
    .isTrue trivial

/-! ## What the flag stands for -/

/-- The card has answered the write, as far as a change tells. -/
def UpdateStage.tellsSuccess : UpdateStage → Bool
  | .change _ _ (.ok _) | .done none => true
  | _ => false

structure WriteInv (s : State) : Prop where
  /-- a raised flag is right for every call that may read it -/
  window : s.hasEventDone → ∀ i call pc, s.threads[i]? = some ⟨call, pc⟩ → pc.flagLowered →
    i ∈ s.answered
  returned : s.SuccessOfOwnWrite
  answers : ∀ update ∈ s.updates, update.stage.tellsSuccess → update.caller ∈ s.answered

theorem writeInv_init : WriteInv {} where
  window := by simp
  returned := by
    intro i call list h
    simp at h
  answers := by simp

variable {s s' : State}

theorem WriteInv.of_updates (h : WriteInv s) (ht : s'.threads = s.threads)
    (hf : s'.hasEventDone → s.hasEventDone) (had : s.answered ⊆ s'.answered)
    (han : ∀ update ∈ s'.updates, update.stage.tellsSuccess →
      update.caller ∈ s'.answered) : WriteInv s' where
  window := by
    intro hup i call pc hi hl
    rw [ht] at hi
    exact had (h.window (hf hup) i call pc hi hl)
  returned := by
    intro i call list hi hwr
    rw [ht] at hi
    exact had (h.returned i call list hi hwr)
  answers := han

variable {i : Nat} {call : Call} {pc : Pc} {utf : Utf} {l : Label}

theorem WriteInv.goto (h : WriteInv s) (hth : s'.threads = s.threads.set i ⟨call, pc⟩)
    (hf : s'.hasEventDone → s.hasEventDone) (han : s'.answered = s.answered)
    (haw : ∀ update ∈ s'.updates, update.stage.tellsSuccess → update.caller ∈ s.answered)
    (hl : s'.hasEventDone → pc.flagLowered → i ∈ s.answered)
    (hrt : ∀ list, pc = .returned .success list → call.op.isWrite → i ∈ s.answered) :
    WriteInv s' where
  window := by
    intro hup j call' pc' hj hrd
    rw [hth] at hj
    rw [han]
    rcases threads_set hj with ⟨rfl, hmv⟩ | ⟨_, ho⟩
    · cases hmv
      exact hl hup hrd
    · exact h.window (hf hup) j call' pc' ho hrd
  returned := by
    intro j call' list hj hwr
    rw [hth] at hj
    rw [han]
    rcases threads_set hj with ⟨rfl, hmv⟩ | ⟨_, ho⟩
    · obtain ⟨rfl, hpc⟩ := Thread.mk.inj hmv
      exact hrt list hpc.symm hwr
    · exact h.returned j call' list ho hwr
  answers := by
    intro update hud htl
    rw [han]
    exact haw update hud htl

theorem WriteInv.write {hasSimCard deadline : Bool} (h : WriteInv s)
    (hth : s.threads[i]? = some ⟨call, pc⟩)
    (hst : s.writeIccDiallingNumbers utf i call hasSimCard deadline pc = some s') :
    WriteInv s' := by
  cases pc with
  | writeLock =>
    obtain ⟨_, pc, rfl, hfg, hfl⟩ := writeLock_step hst
    exact h.goto rfl id rfl h.answers (fun _ hl => absurd hl hfg)
      (fun list hr => absurd hr (hfl list))
  | lowerFlag =>
    cases hst
    exact h.goto rfl (by simp [State.goto]) rfl h.answers (by simp [State.goto]) (by simp)
  | writeToIcc =>
    obtain ⟨_, _, rfl⟩ := Option.map_eq_some_iff.1 hst
    refine h.goto rfl id rfl ?_ (fun hup _ => h.window hup i call _ hth rfl) (by simp)
    intro update hud htl
    -- the new change is at its size, or has failed already
    rcases (writeFrame hst).updates update hud with ho | ⟨_, hsz⟩ | ⟨e, hfl⟩
    · exact h.answers update ho htl
    · rw [hsz] at htl
      simp [tellsSuccess] at htl
    · rw [hfl] at htl
      simp [tellsSuccess] at htl
  | writeWait =>
    obtain ⟨_, ⟨⟩⟩ := Option.ite_none_right_eq_some.1 hst
    exact h.goto rfl id rfl h.answers (fun hup _ => h.window hup i call _ hth rfl) (by simp)
  | writeReturn =>
    cases hst
    refine h.goto rfl id rfl h.answers (by simp) ?_
    intro list hpc _
    by_cases hup : s.hasEventDone
    · exact h.window hup i call _ hth rfl
    · rw [if_neg hup] at hpc
      simp at hpc
  | _ => exact absurd hst (by simp [State.writeIccDiallingNumbers])

theorem WriteInv.answers_set (h : WriteInv s) {k : Nat} {moved : Update}
    (hmv : moved.stage.tellsSuccess → moved.caller ∈ s.answered) :
    ∀ update ∈ s.updates.set k moved, update.stage.tellsSuccess → update.caller ∈ s.answered := by
  exact forall_mem_set h.answers hmv

theorem WriteInv.update (h : WriteInv s) (hon : OwnAnswer s l) (hs : UpdateStep utf s l s') :
    WriteInv s' := by
  cases hs with
  | written _ _ | refused _ _ | failed _ =>
    exact h.of_updates rfl id (.refl _)
      (h.answers_set (by simp [tellsSuccess]))
  | answered exception hud =>
    cases exception with
    | none =>
      refine h.of_updates rfl id (subset_append_left ..) ?_
      intro update hm ht
      rcases mem_or_eq_of_mem_set hm with hol | rfl
      · exact mem_append_left _ (h.answers update hol ht)
      · exact mem_append_right _ (mem_singleton.2 rfl)
    | some exception =>
      exact h.of_updates rfl id (.refl _)
        (h.answers_set (by simp [tellsSuccess, processUpdateRecordDone]))
  | changed hud _ =>
    have hc := h.answers _ (mem_of_getElem? hud) rfl
    exact h.of_updates rfl id (.refl _) (h.answers_set (fun _ => hc))
  | @done k caller exception hud =>
    have han : ∀ update ∈ s.updates.eraseIdx k, update.stage.tellsSuccess →
        update.caller ∈ s.answered :=
      fun update hm => h.answers update (mem_of_mem_eraseIdx hm)
    cases exception with
    | none =>
      -- the flag goes up; who reads it is the call of this answer
      have hc : caller ∈ s.answered := h.answers _ (mem_of_getElem? hud) rfl
      exact {
        window := by
          intro _ i call pc hi hlw
          have hlt : i < s.threads.length := (List.getElem?_eq_some_iff.1 hi).1
          have hi' := hon _ hud rfl i hlt _ hi hlw
          rw [hi']
          exact hc
        returned := h.returned
        answers := han }
    | some exception =>
      refine h.of_updates rfl ?_ (.refl _) han
      intro hup
      exact absurd (of_decide_eq_true hup) exception.ne_none

theorem WriteInv.step (h : WriteInv s) (hon : OwnAnswer s l) (hs : step utf s l = some s') :
    WriteInv s' := by
  -- a thread that enters is at the beginning of its call
  have he : ∀ call, WriteInv { s with threads := s.threads ++ [⟨call, .queryLock⟩] } := by
    intro call
    exact {
      window := by
        intro hup i call' pc hi hlw
        rcases threads_append hi with hn | hol
        · cases hn
          simp at hlw
        · exact h.window hup i call' pc hol hlw
      returned := by
        intro i call' list hi hwr
        rcases threads_append hi with hn | hol
        · simp at hn
        · exact h.returned i call' list hol hwr
      answers := h.answers }
  cases step_cases hs with
  | call call => exact he call
  | query hth hqy =>
    have hfr := queryFrame hqy
    obtain ⟨pc, hts, hqd⟩ := hfr.thread
    refine h.goto hts (fun hup => hfr.hasEventDone ▸ hup) hfr.answered ?_
      (fun _ hpc => absurd hpc hqd.flag)
      (fun list hpc hwr => absurd hpc (hqd.returned hwr _ list))
    rw [hfr.updates]
    exact h.answers
  | write hth hwr => exact h.write hth hwr
  | simState state =>
    cases state with
    | ready => exact he _
    | _ => exact h.of_updates rfl id (.refl _) h.answers
  | load hld => cases hld <;> exact h.of_updates rfl id (.refl _) h.answers
  | update hud => exact h.update hon hud

/-! ## What was answered was sent -/

structure SentInv (s : State) : Prop where
  writes : ∀ update ∈ s.updates, ∀ infor command, update.stage = .write infor command →
    (update.caller, command) ∈ s.cardWrites
  answered : ∀ i ∈ s.answered, ∃ command, (i, command) ∈ s.cardWrites

theorem sentInv_init : SentInv {} where
  writes := by simp
  answered := by simp

theorem SentInv.of_updates (h : SentInv s) (hw : s'.cardWrites = s.cardWrites)
    (ha : ∀ i ∈ s'.answered, i ∈ s.answered ∨ ∃ command, (i, command) ∈ s.cardWrites)
    (hu : ∀ update ∈ s'.updates, update ∈ s.updates ∨
      ∀ infor command, update.stage ≠ .write infor command) : SentInv s' where
  writes := by
    intro update hm infor command hsg
    rw [hw]
    rcases hu update hm with ho | hn
    · exact h.writes update ho infor command hsg
    · exact absurd hsg (hn infor command)
  answered := by
    intro i hi
    rw [hw]
    rcases ha i hi with ho | hsn
    · exact h.answered i ho
    · exact hsn

theorem SentInv.step (h : SentInv s) (hst : step utf s l = some s') : SentInv s' := by
  -- a change that moves on to another stage than the write
  have hse : ∀ {k : Nat} {new : Update}, (∀ infor command, new.stage ≠ .write infor command) →
      ∀ update ∈ s.updates.set k new, update ∈ s.updates ∨
        ∀ infor command, update.stage ≠ .write infor command := by
    intro k new hn update hm
    rcases mem_or_eq_of_mem_set hm with ho | rfl
    · exact .inl ho
    · exact .inr hn
  cases step_cases hst with
  | call call => exact ⟨h.writes, h.answered⟩
  | query _ hqy =>
    have hfr := queryFrame hqy
    exact h.of_updates hfr.cardWrites (fun i hi => .inl (hfr.answered ▸ hi))
      (fun update hm => .inl (hfr.updates ▸ hm))
  | write _ hwr =>
    have hfr := writeFrame hwr
    refine h.of_updates hfr.cardWrites (fun i hi => .inl (hfr.answered ▸ hi)) ?_
    intro update hm
    rcases hfr.updates update hm with ho | ⟨infor, hsz⟩ | ⟨e, hfl⟩
    · exact .inl ho
    · exact .inr (by simp [hsz])
    · exact .inr (by simp [hfl])
  | simState state => cases state <;> exact ⟨h.writes, h.answered⟩
  | load hl => cases hl <;> exact ⟨h.writes, h.answered⟩
  | update hu =>
    cases hu with
    | @written k caller infor infor' command answer hk _ =>
      exact {
        writes := by
          intro update hm infor'' command' hsg
          rcases mem_or_eq_of_mem_set hm with ho | rfl
          · exact mem_append_left _ (h.writes update ho infor'' command' hsg)
          · obtain ⟨_, rfl⟩ := write.inj hsg
            exact mem_append_right _ (mem_singleton.2 rfl)
        answered := by
          intro i hi
          obtain ⟨command', hsn⟩ := h.answered i hi
          exact ⟨command', mem_append_left _ hsn⟩ }
    | refused _ _ | changed _ _ | failed _ =>
      exact h.of_updates rfl (fun i hi => .inl hi) (hse (by simp))
    | @answered k caller infor command exception hk =>
      refine h.of_updates rfl ?_ (hse (by simp))
      intro i hi
      split at hi
      · refine (mem_append.1 hi).imp id (fun hn => ?_)
        rw [mem_singleton.1 hn]
        exact ⟨command, h.writes _ (mem_of_getElem? hk) infor command rfl⟩
      · exact .inl hi
    | done _ =>
      exact h.of_updates rfl (fun i hi => .inl hi)
        (fun update hm => .inl (mem_of_mem_eraseIdx hm))

/-! ## Whole runs -/

/-- **A success is that of the call's own write**, if an answer without error finds no other call
waiting. -/
theorem success_of_own_write {utf : Utf} {ls : List Label} {s : State}
    (hown : StepsMeet (step utf) OwnAnswer {} ls) (hrun : runLabels (step utf) {} ls = some s) :
    s.SuccessOfOwnWrite :=
  (invariant_run .step ls writeInv_init hown hrun).returned

/-- The first write times out and is answered while the second call still loads. -/
def earlierAnswerRun : List Label :=
  List.flatten [ [.call ⟨.add, SIM_ADN, contactAnn⟩, .call ⟨.add, SIM_ADN, contactBob⟩],
    steps 0 5, firstLoad, steps 0 5,
    [.linearSizeDone 0 (.size 17), .caller 0 true true, .caller 0 true false],
    steps 1 5, [.updateRecordDone 0 none, .changeDone 0, .writeDone 0, .loadDone 0, .notify],
    steps 1 5,
    [.linearSizeDone 0 (.size 17), .updateRecordDone 0 none, .changeDone 0, .writeDone 0],
    steps 1 2]

theorem success_of_own_write_earlier_answer :
    ∃ s, StepsMeet (step basicUtf) OwnAnswer {} earlierAnswerRun ∧
      runLabels (step basicUtf) {} earlierAnswerRun = some s ∧
      s.threads[0]? = some ⟨⟨.add, SIM_ADN, contactAnn⟩, .returned .updateFailed []⟩ ∧
      s.threads[1]? = some ⟨⟨.add, SIM_ADN, contactBob⟩, .returned .success []⟩ ∧
      s.SuccessOfOwnWrite := by
  obtain ⟨s, ho, hr, hf, hs⟩ :
      ∃ s, StepsMeet (step basicUtf) OwnAnswer {} earlierAnswerRun ∧
        runLabels (step basicUtf) {} earlierAnswerRun = some s ∧
        s.threads[0]? = some ⟨⟨.add, SIM_ADN, contactAnn⟩, .returned .updateFailed []⟩ ∧
        s.threads[1]? = some ⟨⟨.add, SIM_ADN, contactBob⟩, .returned .success []⟩ :=
    exists_run_meeting _ (by decide +kernel)
  exact ⟨s, ho, hr, hf, hs, success_of_own_write ho hr⟩

end TelephonyCore.Phonebook.Manager
