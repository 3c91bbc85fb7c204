import TelephonyCore.Phonebook.UsimService

/-!
# The list of a failed load in the cache

A load that fails sets `isLoadDiallingNumSuccess_` to false, and the cache that takes the result of
a load while the flag is false does not keep its list and sets the flag back. When loads do not
overlap, one that fails has one caller, and no earlier result is still in the queue when it fails,
the flag is still false when its result is taken. With two callers the second result finds the flag
set back, and its list is kept.
-/

namespace TelephonyCore.Phonebook.Usim

open Codec Lib List

variable {Caller : Type}

/-- A failing load finds no result in the queue and has one caller at most; a load starts when no
other is running. -/
def OneResult (utf : Utf) (s : State Caller) : Label Caller → Prop
  | .loadPbrFiles =>
    s.service.isProcessingPbr = false → s.outstanding.length = 0 ∧ s.sending = none
  | .event k answer =>
    ∀ pending ∈ s.outstanding[k]?,
      ∀ fails ∈ (s.service.memberFunc utf pending.request answer).map (·.fails), fails = true →
        s.results.length = 0
  | .sendBackResult =>
    ∀ sending ∈ s.sending, sending.failed = true → s.callers.length ≤ 1
  | _ => True

instance (utf : Utf) (s : State Caller) (l : Label Caller) : Decidable (OneResult utf s l) := by
  unfold OneResult
  split <;> infer_instance

/-- The flag stands for the load that is running, and no result is before its own. -/
def Flagged (s : State Caller) : Prop :=
  s.cache.isLoadDiallingNumSuccess = false ∧ s.results = []

structure CacheInv (s : State Caller) : Prop where
  one : s.outstanding.length ≤ 1
  alone : s.sending ≠ none → s.outstanding = []
  pending : ∀ pending ∈ s.outstanding, pending.failed = true → Flagged s
  sending : ∀ sending, s.sending = some sending → sending.failed = true → Flagged s
  /-- only the first result in the queue can be of a load that failed -/
  first : ∀ result results, s.results = result :: results → result.failed = true →
    s.cache.isLoadDiallingNumSuccess = false
  rest : ∀ result results, s.results = result :: results → ∀ other ∈ results, other.failed = false
  cached : s.pbrFailed = false

theorem cacheInv_init : CacheInv ({} : State Caller) :=
  ⟨by simp, by simp, by simp, by simp, by simp, by simp, rfl⟩

section

variable {s : State Caller}

theorem CacheInv.of_queue (h : CacheInv s) {s' : State Caller}
    (hr : s'.results = s.results) (hc : s'.pbrFailed = s.pbrFailed)
    (hfg : s.cache.isLoadDiallingNumSuccess = false → s'.cache.isLoadDiallingNumSuccess = false)
    (ho : s'.outstanding.length ≤ 1) (ha : s'.sending ≠ none → s'.outstanding = [])
    (hp : ∀ pending ∈ s'.outstanding, pending.failed → Flagged s')
    (hs : ∀ sending, s'.sending = some sending → sending.failed → Flagged s') :
    CacheInv s' where
  one := ho
  alone := ha
  pending := hp
  sending := hs
  first := by
    intro result results hq hfl
    exact hfg (h.first result results (hr ▸ hq) hfl)
  rest := by
    intro result results hq
    exact h.rest result results (hr ▸ hq)
  cached := hc.trans h.cached

theorem CacheInv.event (h : CacheInv s) {k : Nat} {pending : Pending} {outcome : Outcome}
    (hid : s.sending = none) (hp : s.outstanding[k]? = some pending)
    (he : outcome.fails → s.results = []) :
    CacheInv
      ({ s with outstanding := s.outstanding.eraseIdx k }.resume outcome pending.failed) := by
  -- there was one request, and it is answered
  have hln : s.outstanding.eraseIdx k = [] := by
    have hlt := (List.getElem?_eq_some_iff.1 hp).1
    have hle := length_eraseIdx_of_lt hlt
    have hon := h.one
    exact length_eq_zero_iff.1 (by omega)
  have hfl : (pending.failed || outcome.fails) → Flagged
      ({ s with outstanding := s.outstanding.eraseIdx k }.resume outcome pending.failed) := by
    intro hfa
    rw [Flagged, resume_isLoadDiallingNumSuccess, resume_results]
    rcases Bool.or_eq_true_iff.1 hfa with hb | hno
    · obtain ⟨hfg, hr⟩ := h.pending pending (mem_of_getElem? hp) hb
      exact ⟨by simp [hfg], hr⟩
    · exact ⟨by simp [hno], he hno⟩
  have hfg : s.cache.isLoadDiallingNumSuccess = false →
      ({ s with outstanding := s.outstanding.eraseIdx k }.resume outcome
        pending.failed).cache.isLoadDiallingNumSuccess = false := by
    intro hfg
    simp [hfg]
  rcases State.resume_cases { s with outstanding := s.outstanding.eraseIdx k } outcome
    pending.failed with ⟨request, -, hot, hsn⟩ |
      ⟨list, -, hot, hsn⟩ | ⟨-, hot, hsn⟩
  · have hnw : _ = [(⟨request, pending.failed || outcome.fails⟩ : Pending)] :=
      hot.trans (by simp [hln])
    refine h.of_queue (resume_results ..) (resume_pbrFailed ..) hfg ?_ ?_ ?_ ?_
    · simp [hnw]
    · intro hne
      exact absurd (hsn.trans hid) hne
    · intro other hoh hfa
      rw [hnw] at hoh
      obtain rfl := mem_singleton.1 hoh
      exact hfl hfa
    · intro sending hsm
      cases hsm.symm.trans (hsn.trans hid)
  · have hnn := hot.trans hln
    refine h.of_queue (resume_results ..) (resume_pbrFailed ..) hfg ?_ (fun _ => hnn) ?_ ?_
    · simp [hnn]
    · simp [hnn]
    · intro sending hsm hfa
      cases hsm.symm.trans hsn
      exact hfl hfa
  · have hnn := hot.trans hln
    refine h.of_queue (resume_results ..) (resume_pbrFailed ..) hfg ?_ (fun _ => hnn) ?_ ?_
    · simp [hnn]
    · simp [hnn]
    · intro sending hsm
      cases hsm.symm.trans (hsn.trans hid)

theorem CacheInv.sendBackResult (h : CacheInv s) {sending : Sending} (hs : s.sending = some sending)
    (hc : sending.failed → s.callers.length ≤ 1) : CacheInv (s.sendBackResult sending) := by
  have hnn : s.outstanding = [] := h.alone (by simp [hs])
  have hnw : ∀ result ∈ s.callers.map (fun caller =>
      (⟨caller, sending.diallingnumbers, sending.failed⟩ : Result Caller)),
        result.failed = sending.failed := by
    intro result hre
    obtain ⟨caller, -, rfl⟩ := mem_map.1 hre
    rfl
  refine ⟨?_, ?_, ?_, ?_, ?_, ?_, h.cached⟩
  · exact h.one
  · exact fun _ => hnn
  · intro pending hpn
    exact absurd (show pending ∈ s.outstanding from hpn) (by simp [hnn])
  · intro other hot
    cases show none = some other from hot
  · intro result results hq hf
    cases hb : s.results with
    | cons first rest =>
      rw [State.sendBackResult, hb] at hq
      obtain ⟨rfl, -⟩ := List.cons.inj hq
      exact h.first first rest hb hf
    | nil =>
      -- the first of the new results
      rw [State.sendBackResult, hb] at hq
      have hre := hnw result (by
        rw [show s.callers.map _ = result :: results from hq]
        exact mem_cons_self)
      exact (h.sending sending hs (hre ▸ hf)).1
  · intro result results hq other hot
    cases hb : s.results with
    | cons first rest =>
      rw [State.sendBackResult, hb] at hq
      obtain ⟨rfl, rfl⟩ := List.cons.inj hq
      rcases mem_append.1 hot with hol | hls
      · exact h.rest first rest hb other hol
      · rw [hnw other hls]
        -- a load that failed has found the queue empty
        by_contra hf
        have hrs := (h.sending sending hs (by simpa using hf)).2
        cases hb.symm.trans hrs
    | nil =>
      rw [State.sendBackResult, hb] at hq
      have hm : s.callers.map (fun caller =>
          (⟨caller, sending.diallingnumbers, sending.failed⟩ : Result Caller)) =
            result :: results := hq
      rw [hnw other (by rw [hm]; exact mem_cons_of_mem _ hot)]
      by_contra hf
      have hln := congrArg List.length hm
      have hon := hc (by simpa using hf)
      have hps := length_pos_of_mem hot
      simp only [length_map, length_cons] at hln
      omega

theorem CacheInv.result (h : CacheInv s) {result : Result Caller}
    {results : List (Result Caller)} (hrs : s.results = result :: results) :
    CacheInv { s.processObtainPbrDetailsDone result with results } := by
  -- a load that has failed would have found the queue empty
  have hn : ¬ Flagged s := by
    intro hfl
    cases hrs.symm.trans hfl.2
  have hrt := h.rest result results hrs
  refine ⟨h.one, h.alone, ?_, ?_, ?_, ?_, ?_⟩
  · intro pending hp hfa
    exact absurd (h.pending pending hp hfa) hn
  · intro sending hs hfa
    exact absurd (h.sending sending hs hfa) hn
  · intro first rest hq hfa
    have hok := hrt first (by rw [show results = first :: rest from hq]; simp)
    cases hfa.symm.trans hok
  · intro first rest hq other hot
    refine hrt other ?_
    rw [show results = first :: rest from hq]
    exact mem_cons_of_mem _ hot
  · show (s.cache.isLoadDiallingNumSuccess && result.failed) = false
    cases hfa : result.failed with
    | false => simp
    | true => simp [h.first result results hrs hfa]

end

theorem CacheInv.step {utf : Utf} {s s' : State Caller} {l : Label Caller} (h : CacheInv s)
    (hon : OneResult utf s l) (hst : Usim.step utf s l = some s') : CacheInv s' := by
  cases step_cases hst with
  | set | obtain | loading =>
    exact h.of_queue rfl rfl id h.one h.alone h.pending h.sending
  | start hpr =>
    obtain ⟨hl, hsn⟩ := hon hpr
    have hnl := length_eq_zero_iff.1 hl
    refine h.of_queue rfl rfl id ?_ (fun hne => absurd hsn hne) ?_ h.sending
    · cases hc : s.service.fileController <;> simp [hnl]
    · intro pending hpn hfa
      -- the request that starts a load has not failed
      cases hc : s.service.fileController <;> simp_all
  | event k answer pending outcome hid hpn hoc =>
    refine h.event hid hpn ?_
    intro hfl
    exact length_eq_zero_iff.1 (hon pending hpn outcome.fails (by simp [hoc]) hfl)
  | drop k pending hpn =>
    refine h.of_queue rfl rfl id ?_ (fun hne => ?_) ?_ h.sending
    · exact (length_eraseIdx_le s.outstanding k).trans h.one
    · show s.outstanding.eraseIdx k = []
      rw [h.alone hne]
      rfl
    · exact fun other hot => h.pending other (mem_of_mem_eraseIdx hot)
  | sendBackResult sending hsn => exact h.sendBackResult hsn (hon sending hsn)
  | result result results hr => exact h.result hr
  | clear => exact ⟨h.one, h.alone, h.pending, h.sending, h.first, h.rest, rfl⟩

/-- **The list of a failed load is not cached.** -/
theorem failed_load_not_cached {utf : Utf} {run : List (Label Caller)} {s : State Caller}
    (hone : StepsMeet (step utf) (OneResult utf) {} run)
    (hrun : runLabels (step utf) {} run = some s) : s.pbrFailed = false := by
  have hin : CacheInv s := invariant_run .step run cacheInv_init hone hrun
  exact hin.cached

/-- The PBR file cannot be read, two times over, and then it can. -/
def failThenLoadRun : List (Label Nat) :=
  [.setFileControllerAndDiallingNumberHandler true true, .obtainUsimElementaryFiles 1,
    .loadPbrFiles, .event 0 .null, .event 0 .null, .sendBackResult, .processObtainPbrDetailsDone,
    .obtainUsimElementaryFiles 2, .obtainUsimElementaryFiles 3, .loadPbrFiles, .loadPbrFiles,
    .event 0 (.pbrRecords false [⟨fun _ => some 0x4F3A, fun _ => 0, fun _ => 0⟩]),
    .event 0 (.numbers none (some [])), .event 0 (.records []), .sendBackResult,
    .processObtainPbrDetailsDone, .processObtainPbrDetailsDone]

theorem failed_load_not_cached_then :
    ∃ s, StepsMeet (step basicUtf) (OneResult basicUtf) {} failThenLoadRun ∧
      runLabels (step basicUtf) {} failThenLoadRun = some s ∧
      s.cache.loadReadyDiallingNumbers ELEMENTARY_FILE_PBR = some [] ∧ s.sent = [1, 2, 3] ∧
      s.pbrFailed = false := by
  obtain ⟨s, ho, hr, hc, hs⟩ : ∃ s,
      StepsMeet (step basicUtf) (OneResult basicUtf) {} failThenLoadRun ∧
      runLabels (step basicUtf) {} failThenLoadRun = some s ∧
      s.cache.loadReadyDiallingNumbers ELEMENTARY_FILE_PBR = some [] ∧ s.sent = [1, 2, 3] :=
    exists_run_meeting _ (by decide +kernel)
  exact ⟨s, ho, hr, hc, hs, failed_load_not_cached ho hr⟩

/-- Two callers wait for a load that fails. The result for the first sets the flag back, and the
list of the second is kept. -/
theorem failed_load_cached :
    ∃ (run : List (Label Nat)) (s : State Nat), runLabels (step basicUtf) {} run = some s ∧
      s.cache.loadReadyDiallingNumbers ELEMENTARY_FILE_PBR = some [] ∧ s.pbrFailed = true :=
  ⟨[.setFileControllerAndDiallingNumberHandler true true, .obtainUsimElementaryFiles 1,
      .loadPbrFiles, .obtainUsimElementaryFiles 2, .loadPbrFiles, .event 0 .null, .event 0 .null,
      .sendBackResult, .processObtainPbrDetailsDone, .processObtainPbrDetailsDone],
    exists_run _ (by decide +kernel)⟩

end TelephonyCore.Phonebook.Usim
