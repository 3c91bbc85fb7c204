import TelephonyCore.Phonebook.Manager

/-!
# What a query returns

A query clears the result list, lowers `hasQueryEventDone_`, asks for its file and returns what the
list holds when the flag is up. An answer is put into the list whoever asked for it. After a query
that timed out, its answer falls to the next one, which returns the contacts of another file, or its
own twice.

`queryMtx_` is held from the lock to the return, so at most one call is inside (`QueryInv.holder`),
and every call asks once (`QueryInv.unique`). If the answers that come while a call is inside are
its own, find it waiting and bring a list, then the list is empty until the one answer comes and
holds its contacts afterwards (`State.QueryAt`). This is `InTurn`.
-/

namespace TelephonyCore.Phonebook.Manager

open Codec Lib List

/-! ## Statement -/

/-- The records of the linear files, and the phone book as the USIM service puts it together. -/
structure Card where
  records : FileId → List StdString
  phoneBook : List Contact

def Card.contacts (card : Card) (utf : Utf) (fileId : FileId) : List Contact :=
  if fileId = ELEMENTARY_FILE_PBR then card.phoneBook
  else processDiallingNumber utf fileId (card.records fileId)

def nonEmpty (contacts : List Contact) : List Contact := contacts.filter fun item => !item.isEmpty

/-- A query that returned `TELEPHONY_SUCCESS` has the contacts of its file, each once. -/
def State.QueriesCorrect (s : State) (contacts : FileId → List Contact) : Prop :=
  ∀ (i : Nat) (call : Call) (list : List Contact),
    s.threads[i]? = some ⟨call, .returned .success list⟩ → call.op = .query →
      list = nonEmpty (contacts (s.queryFileId call.type))

/-- Queries and pre-loads; a load that does not fail delivers what is on the card. -/
def QueriesOn (card : Card) (s : State) : Label → Prop
  | .call call => ¬ call.op.isWrite
  | .allLoaded k fileResults =>
    ∀ load ∈ s.loads[k]?, ∀ results ∈ fileResults, results = card.records load.fileId
  | .pbrLoaded list success => success → list = card.phoneBook
  | _ => True

instance (card : Card) (s : State) (l : Label) : Decidable (QueriesOn card s l) := by
  cases l <;> dsimp only [QueriesOn] <;> infer_instance

def annBobCard : Card where
  records := fun fileId =>
    if fileId = ELEMENTARY_FILE_ADN then
      [ascii "416E6E038121F3FFFFFFFFFFFFFFFFFFFF", emptyRecord]
    else if fileId = ELEMENTARY_FILE_FDN then [ascii "426F62038154F6FFFFFFFFFFFFFFFFFFFF"]
    else []
  phoneBook := []

def annIn (fileId : FileId) : Contact := { contactAnn with elementaryFileId := fileId, index := 1 }
def bobIn (fileId : FileId) : Contact := { contactBob with elementaryFileId := fileId, index := 1 }

/-- A query of the fixed numbers times out; its answer comes while the next query waits. -/
def lateLoadRun : List Label :=
  List.flatten [ [.call { op := .query, type := SIM_FDN }, .call { op := .query, type := SIM_ADN }],
    steps 0 5, [.caller 0 true true, .caller 0 true false], steps 1 5,
    [.allLoaded 0 (some (annBobCard.records ELEMENTARY_FILE_FDN)), .obtainDetailsDone 0,
      .loadDone 0, .notify],
    steps 1 2]

/-- **The query returns the contacts of another file.** -/
theorem late_load_returned :
    ∃ s, StepsMeet (step basicUtf) (QueriesOn annBobCard) {} lateLoadRun ∧
      runLabels (step basicUtf) {} lateLoadRun = some s ∧
      s.threads[1]? = some ⟨{ op := .query, type := SIM_ADN },
        .returned .success [bobIn ELEMENTARY_FILE_FDN]⟩ ∧
      nonEmpty (annBobCard.contacts basicUtf (s.queryFileId SIM_ADN)) =
        [annIn ELEMENTARY_FILE_ADN] :=
  exists_run_meeting _ (by decide +kernel)

/-! ## The condition -/

def State.waits (s : State) (i : Nat) : Bool :=
  s.threads[i]?.any fun thread => thread.pc = .queryWait

def Load.bringsList (load : Load) : Bool :=
  match load.stage with
  | .done list => list.isSome
  | _ => false

/-- An answer finds its call waiting and brings it a list, or nobody inside; the USIM service does
not fail. -/
def InTurn (s : State) : Label → Prop
  | .loadDone k =>
    ∀ load ∈ s.loads[k]?, s.queryMtx = none ∨ s.waits load.caller ∧ load.bringsList
  | .notify => ∀ caller ∈ s.notifying, s.queryMtx = none ∨ s.waits caller
  | .pbrLoaded _ success => success
  | _ => True

instance (s : State) (l : Label) : Decidable (InTurn s l) := by
  cases l <;> dsimp only [InTurn] <;> infer_instance

/-! ## The invariant -/

/-- The call has asked for its file. -/
@[simp] def Pc.asked : Pc → Bool
  | .queryLock | .lock | .clearRecords | .lowerQueryFlag | .obtain => false
  | _ => true

def LoadStage.list : LoadStage → Option (List Contact)
  | .reading => none
  | .details list | .done list => list

def State.answer (s : State) (contacts : FileId → List Contact) (call : Call) : List Contact :=
  nonEmpty (contacts (s.loadFileId call))

/-- The result list and the flag, as the call finds them. -/
def State.QueryAt (s : State) (contacts : FileId → List Contact) (i : Nat) (call : Call) : Pc → Prop
  | .lowerQueryFlag => s.diallingNumbersList = []
  | .obtain => s.diallingNumbersList = [] ∧ s.hasQueryEventDone = false
  | .queryWait =>
    -- its answer has not come, or was the last that can
    (s.diallingNumbersList = [] ∧ s.hasQueryEventDone = false ∧ s.notifying ≠ some i) ∨
      (s.diallingNumbersList = s.answer contacts call ∧ ∀ load ∈ s.loads, load.caller ≠ i)
  | .collect success => success → s.diallingNumbersList = s.answer contacts call
  | .returned .success list => call.op = .query → list = s.answer contacts call
  | _ => True

structure QueryInv (contacts : FileId → List Contact) (s : State) : Prop where
  calls : ∀ (i : Nat) (call : Call) (pc : Pc), s.threads[i]? = some ⟨call, pc⟩ →
    ¬ call.op.isWrite ∧ ¬ pc.inWrite
  updates : s.updates = []
  holder : ∀ (i : Nat) (call : Call) (pc : Pc), s.threads[i]? = some ⟨call, pc⟩ →
    pc.inQuery → s.queryMtx = some i
  /-- an answer is for a call that has asked, and for the file it asked for -/
  asked : ∀ load ∈ s.loads, ∃ thread, s.threads[load.caller]? = some thread ∧
    thread.pc.asked ∧ load.fileId = s.loadFileId thread.call
  notifies : ∀ caller, s.notifying = some caller → ∃ thread, s.threads[caller]? = some thread ∧
    thread.pc.asked
  unique : ∀ (a b : Nat) (load load' : Load), s.loads[a]? = some load →
    s.loads[b]? = some load' → load.caller = load'.caller → a = b
  contents : ∀ load ∈ s.loads, ∀ list, load.stage.list = some list → list = contacts load.fileId
  cache : ∀ fileId list, s.cache.loadReadyDiallingNumbers fileId = some list →
    list = contacts fileId
  queries : ∀ (i : Nat) (call : Call) (pc : Pc), s.threads[i]? = some ⟨call, pc⟩ →
    s.QueryAt contacts i call pc

theorem queryInv_init (contacts : FileId → List Contact) (isUiccCard : Bool) :
    QueryInv contacts { isUiccCard } where
  calls := by simp
  updates := rfl
  holder := by simp
  asked := by simp
  notifies := by simp
  unique := by simp
  contents := by simp
  cache := by simp [Cache.loadReadyDiallingNumbers]
  queries := by simp

variable {contacts : FileId → List Contact} {s s' : State}

theorem State.loadFileId_congr (h : s'.isUiccCard = s.isUiccCard) (call : Call) :
    s'.loadFileId call = s.loadFileId call := by
  simp only [loadFileId, queryFileId, h]

variable {i : Nat} {call : Call}
  {pc : Pc} {loads : List Load} {card : Card} {utf : Utf} {list : Option (List Contact)}

theorem State.QueryAt.of_not_inQuery (h : s.QueryAt contacts i call pc) (hpc : ¬ pc.inQuery)
    (hc : s'.isUiccCard = s.isUiccCard) : s'.QueryAt contacts i call pc := by
  cases pc with
  | returned outcome list =>
    cases outcome with
    | success =>
      intro hop
      rw [answer, loadFileId_congr hc]
      exact h hop
    | _ => trivial
  | queryLock | writeLock | lowerFlag | writeToIcc | writeWait | writeReturn => trivial
  | _ => exact absurd rfl hpc

/-! ## Steps of a call -/

theorem QueryInv.alone (h : QueryInv contacts s) (hth : s.threads[i]? = some ⟨call, pc⟩)
    (hin : pc.inQuery) :
    ∀ j call' pc', j ≠ i → s.threads[j]? = some ⟨call', pc'⟩ → ¬ pc'.inQuery := by
  intro j call' pc' hne hj hin'
  have hi := h.holder i call pc hth hin
  rw [h.holder j call' pc' hj hin'] at hi
  exact hne (Option.some.inj hi)

theorem QueryInv.moves (h : QueryInv contacts s) {pc' : Pc} (hth : s.threads[i]? = some ⟨call, pc⟩)
    (hal : ∀ j call' pc'', j ≠ i → s.threads[j]? = some ⟨call', pc''⟩ → ¬ pc''.inQuery)
    (hts : s'.threads = s.threads.set i ⟨call, pc'⟩) (hcr : s'.isUiccCard = s.isUiccCard)
    (hld : s'.loads = s.loads) (hnt : s'.notifying = s.notifying)
    (hca : s'.cache = s.cache) (hu : s'.updates = s.updates) (hwr : ¬ pc'.inWrite)
    (hak : pc.asked → pc'.asked) (hh : pc'.inQuery → s'.queryMtx = some i)
    (hat : s'.QueryAt contacts i call pc') : QueryInv contacts s' := by
  have hlt := (List.getElem?_eq_some_iff.1 hth).1
  -- a call that has asked is still one that has
  have hs : ∀ {j : Nat} {thread : Thread}, s.threads[j]? = some thread → thread.pc.asked →
      ∃ thread', s'.threads[j]? = some thread' ∧ thread'.pc.asked ∧
        thread'.call = thread.call := by
    intro j thread hj hpc
    rw [hts]
    by_cases hij : i = j
    · subst hij
      cases hth.symm.trans hj
      exact ⟨_, getElem?_set_self hlt, hak hpc, rfl⟩
    · exact ⟨thread, by rw [getElem?_set_ne hij]; exact hj, hpc, rfl⟩
  exact {
    calls := by
      intro j call' pc'' hj
      rw [hts] at hj
      rcases threads_set hj with ⟨_, hmv⟩ | ⟨_, hol⟩
      · obtain ⟨rfl, rfl⟩ := Thread.mk.inj hmv
        exact ⟨(h.calls i call' pc hth).1, hwr⟩
      · exact h.calls j call' pc'' hol
    updates := hu.trans h.updates
    holder := by
      intro j call' pc'' hj hin
      rw [hts] at hj
      rcases threads_set hj with ⟨rfl, hmv⟩ | ⟨hne, hol⟩
      · cases hmv
        exact hh hin
      · exact absurd hin (hal j call' pc'' hne hol)
    asked := by
      intro load hlo
      rw [hld] at hlo
      obtain ⟨thread, hj, hpc, hf⟩ := h.asked load hlo
      obtain ⟨thread', hj', hpc', hcall⟩ := hs hj hpc
      exact ⟨thread', hj', hpc', by rw [State.loadFileId_congr hcr, hcall]; exact hf⟩
    notifies := by
      intro caller hcl
      rw [hnt] at hcl
      obtain ⟨thread, hj, hpc⟩ := h.notifies caller hcl
      obtain ⟨thread', hj', hpc', _⟩ := hs hj hpc
      exact ⟨thread', hj', hpc'⟩
    unique := hld ▸ h.unique
    contents := hld ▸ h.contents
    cache := hca ▸ h.cache
    queries := by
      intro j call' pc'' hj
      rw [hts] at hj
      rcases threads_set hj with ⟨rfl, hmv⟩ | ⟨hne, hol⟩
      · cases hmv
        exact hat
      · exact (h.queries j call' pc'' hol).of_not_inQuery (hal j call' pc'' hne hol) hcr }

theorem Call.loaded_of_not_isWrite (h : ¬ call.op.isWrite) (outcome : Outcome)
    (list : List Contact) :
    ∃ result, call.loaded outcome list = .returned outcome result ∧
      (call.op = .query → result = list) := by
  rw [Call.loaded]
  cases hop : call.op with
  | query => exact ⟨list, rfl, fun _ => rfl⟩
  | preLoad => exact ⟨[], rfl, by simp⟩
  | _ => exact absurd (by rw [hop]; rfl) h

theorem QueryInv.leaves (h : QueryInv contacts s) (hth : s.threads[i]? = some ⟨call, pc⟩)
    (hin : pc.inQuery) {outcome : Outcome} {list : List Contact}
    (hls : outcome = .success → list = s.answer contacts call) (mtx : Option Nat) :
    QueryInv contacts ({ s with mtx, queryMtx := none }.goto i call (call.loaded outcome list)) := by
  obtain ⟨_, hld, hr⟩ := Call.loaded_of_not_isWrite (h.calls i call pc hth).1 outcome list
  rw [hld]
  refine h.moves hth (h.alone hth hin) rfl rfl rfl rfl rfl rfl (by simp) (by simp)
    (by simp) ?_
  cases outcome with
  | success => exact fun hop => (hr hop).trans (hls rfl)
  | _ => trivial

theorem QueryInv.not_asked (h : QueryInv contacts s) {thread : Thread}
    (hth : s.threads[i]? = some thread) (ha : ¬ thread.pc.asked) :
    (∀ load ∈ s.loads, load.caller ≠ i) ∧ s.notifying ≠ some i := by
  constructor
  · rintro load hm rfl
    obtain ⟨thread', hc, ha', _⟩ := h.asked load hm
    cases hth.symm.trans hc
    exact ha ha'
  · intro hs
    obtain ⟨thread', hc, ha'⟩ := h.notifies i hs
    cases hth.symm.trans hc
    exact ha ha'

theorem callers_unique_append {new : Load} (hu : ∀ (a b : Nat) load load', loads[a]? = some load →
      loads[b]? = some load' → load.caller = load'.caller → a = b)
    (hn : ∀ load ∈ loads, load.caller ≠ new.caller) (a b : Nat) (load load' : Load)
    (ha : (loads ++ [new])[a]? = some load) (hb : (loads ++ [new])[b]? = some load')
    (hs : load.caller = load'.caller) : a = b := by
  have hpl : ∀ {a : Nat} {load : Load}, (loads ++ [new])[a]? = some load →
      (load.caller = new.caller ∧ a = loads.length) ∨
        (load.caller ≠ new.caller ∧ loads[a]? = some load) := by
    intro a load ha
    by_cases hln : a < loads.length
    · rw [getElem?_append_left hln] at ha
      exact .inr ⟨hn load (mem_of_getElem? ha), ha⟩
    · rw [getElem?_append_right (by omega), getElem?_singleton] at ha
      obtain ⟨_, hld⟩ := Option.ite_none_right_eq_some.1 ha
      rw [← Option.some.inj hld]
      exact .inl ⟨rfl, by omega⟩
  rcases hpl ha with ⟨hi, ha⟩ | ⟨hi, ha⟩
  · rcases hpl hb with ⟨_, hb⟩ | ⟨hi', _⟩
    · exact ha.trans hb.symm
    · exact absurd (hs ▸ hi) hi'
  · rcases hpl hb with ⟨hi', _⟩ | ⟨_, hb⟩
    · exact absurd (hs.trans hi') hi
    · exact hu a b load load' ha hb hs

theorem QueryInv.obtains (h : QueryInv contacts s)
    (hth : s.threads[i]? = some ⟨call, .obtain⟩) (mtx : Option Nat) :
    QueryInv contacts ({ s.obtainAllDiallingNumberFiles i (s.loadFileId call) with mtx }.goto i call
        .queryWait) := by
  obtain ⟨hld, hnt⟩ := h.not_asked hth (by simp)
  obtain ⟨hls, hf⟩ := h.queries i call _ hth
  have hmv : QueryInv contacts ({ s with mtx }.goto i call .queryWait) :=
    h.moves hth (h.alone hth rfl) rfl rfl rfl rfl rfl rfl (by simp) (by simp)
      (fun _ => h.holder i call _ hth rfl) (.inl ⟨hls, hf, hnt⟩)
  have hlt := (List.getElem?_eq_some_iff.1 hth).1
  exact { hmv with
    asked := by
      intro load hmm
      rcases mem_concat.1 hmm with ho | rfl
      · exact hmv.asked load ho
      · exact ⟨_, getElem?_set_self hlt, rfl, rfl⟩
    unique := callers_unique_append h.unique hld
    contents := by
      refine forall_mem_concat h.contents ?_
      intro list hls
      split at hls
      next result hr =>
        rw [← Option.some.inj hls]
        exact h.cache _ result hr
      next => exact absurd hls (by simp [LoadStage.list])
    queries := by
      intro j call' pc' hj
      have hat := hmv.queries j call' pc' hj
      by_cases hin : pc'.inQuery
      · -- the call inside is the one that asks
        obtain rfl : j = i := by
          by_contra hne
          rcases threads_set hj with ⟨hji, _⟩ | ⟨_, ho⟩
          · exact hne hji
          · exact h.alone hth rfl j call' pc' hne ho hin
        rcases threads_set hj with ⟨_, hmv⟩ | ⟨hne, _⟩
        · obtain ⟨_, rfl⟩ := Thread.mk.inj hmv
          exact .inl ⟨hls, hf, hnt⟩
        · exact absurd rfl hne
      · exact hat.of_not_inQuery hin rfl }

theorem QueryInv.query (h : QueryInv contacts s) {hasSimCard deadline : Bool}
    (hth : s.threads[i]? = some ⟨call, pc⟩)
    (hst : s.queryIccDiallingNumbers i call hasSimCard deadline pc = some s') :
    QueryInv contacts s' := by
  have hat := h.queries i call pc hth
  cases pc with
  | queryLock =>
    obtain ⟨hfr, ⟨⟩⟩ := Option.ite_none_right_eq_some.1 hst
    refine h.moves hth ?_ rfl rfl rfl rfl rfl rfl (by simp) (by simp) (fun _ => rfl) trivial
    intro j call' pc' _ hj hin
    have hh := h.holder j call' pc' hj hin
    rw [hfr] at hh
    cases hh
  | lock =>
    obtain ⟨_, hst⟩ := Option.ite_none_right_eq_some.1 hst
    split at hst
    · cases hst
      exact h.leaves hth rfl (by simp) s.mtx
    · split at hst
      · cases hst
        exact h.leaves hth rfl (by simp) s.mtx
      · cases hst
        exact h.moves hth (h.alone hth rfl) rfl rfl rfl rfl rfl rfl (by simp) (by simp)
          (fun _ => h.holder i call _ hth rfl) trivial
  | clearRecords =>
    cases hst
    exact h.moves hth (h.alone hth rfl) rfl rfl rfl rfl rfl rfl (by simp) (by simp)
      (fun _ => h.holder i call _ hth rfl) rfl
  | lowerQueryFlag =>
    cases hst
    exact h.moves hth (h.alone hth rfl) rfl rfl rfl rfl rfl rfl (by simp) (by simp)
      (fun _ => h.holder i call _ hth rfl) ⟨hat, rfl⟩
  | obtain =>
    cases hst
    exact h.obtains hth none
  | queryWait =>
    obtain ⟨_, ⟨⟩⟩ := Option.ite_none_right_eq_some.1 hst
    refine h.moves hth (h.alone hth rfl) rfl rfl rfl rfl rfl rfl (by simp) (by simp)
      (fun _ => h.holder i call _ hth rfl) ?_
    -- the flag is up only behind the answer
    intro hsc
    rcases hat with ⟨_, hfl, _⟩ | ⟨hl, _⟩
    · rw [hfl] at hsc
      cases hsc
    · exact hl
  | collect success =>
    cases hst
    refine h.leaves hth rfl ?_ none
    intro hoc
    cases success with
    | true => exact hat rfl
    | false => cases hoc
  | _ => exact absurd hst (by simp [State.queryIccDiallingNumbers])

theorem QueryInv.enters (h : QueryInv contacts s) (hcl : ¬ call.op.isWrite) :
    QueryInv contacts { s with threads := s.threads ++ [⟨call, .queryLock⟩] } := by
  have hs : ∀ {j : Nat} {thread : Thread}, s.threads[j]? = some thread →
      (s.threads ++ [⟨call, .queryLock⟩])[j]? = some thread := by
    intro j thread hj
    rw [getElem?_append_left (List.getElem?_eq_some_iff.1 hj).1]
    exact hj
  exact { h with
    calls := by
      intro i call' pc hi
      rcases threads_append hi with hn | hol
      · cases hn
        exact ⟨hcl, by simp⟩
      · exact h.calls i call' pc hol
    holder := by
      intro i call' pc hi hin
      rcases threads_append hi with hn | hol
      · obtain ⟨_, rfl⟩ := Thread.mk.inj hn
        simp at hin
      · exact h.holder i call' pc hol hin
    asked := by
      intro load hl
      obtain ⟨thread, hj, hak⟩ := h.asked load hl
      exact ⟨thread, hs hj, hak⟩
    notifies := by
      intro caller hcr
      obtain ⟨thread, hj, hak⟩ := h.notifies caller hcr
      exact ⟨thread, hs hj, hak⟩
    queries := by
      intro i call' pc hi
      rcases threads_append hi with hn | hol
      · obtain ⟨_, rfl⟩ := Thread.mk.inj hn
        trivial
      · exact h.queries i call' pc hol }

/-! ## Steps of the event threads -/

theorem QueryInv.onward (h : QueryInv contacts s) {cache : Cache}
    (hp : ∀ (a : Nat) load', loads[a]? = some load' → ∃ load,
      s.loads[a]? = some load ∧ load'.caller = load.caller ∧ load'.fileId = load.fileId)
    (hct : ∀ load ∈ loads, ∀ list, load.stage.list = some list → list = contacts load.fileId)
    (hca : ∀ fileId list, cache.loadReadyDiallingNumbers fileId = some list →
      list = contacts fileId) :
    QueryInv contacts { s with loads, cache } := { h with
  asked := by
    intro load' hm
    obtain ⟨a, ha⟩ := mem_iff_getElem?.1 hm
    obtain ⟨load, hld, hcl, hf⟩ := hp a load' ha
    rw [hcl, hf]
    exact h.asked load (mem_of_getElem? hld)
  unique := by
    intro a b load load' ha hb hs
    obtain ⟨old, ho, hcl, _⟩ := hp a load ha
    obtain ⟨old', ho', hcl', _⟩ := hp b load' hb
    exact h.unique a b old old' ho ho' (hcl.symm.trans (hs.trans hcl'))
  contents := hct
  cache := hca
  queries := by
    intro i call pc hi
    have hat := h.queries i call pc hi
    cases pc with
    | queryWait =>
      refine hat.imp id (fun ⟨hls, hn⟩ => ⟨hls, ?_⟩)
      intro load' hm
      obtain ⟨a, ha⟩ := mem_iff_getElem?.1 hm
      obtain ⟨load, hld, hcl, _⟩ := hp a load' ha
      rw [hcl]
      exact hn load (mem_of_getElem? hld)
    | returned outcome list => exact hat.of_not_inQuery (by simp) rfl
    | _ => exact hat }

variable {k caller : Nat} {fileId : FileId}

theorem places_set {stage : LoadStage} (hl : loads[k]? = some ⟨caller, fileId, stage⟩)
    (stage' : LoadStage) :
    ∀ (a : Nat) load', (loads.set k ⟨caller, fileId, stage'⟩)[a]? = some load' →
      ∃ load, loads[a]? = some load ∧ load'.caller = load.caller ∧ load'.fileId = load.fileId := by
  intro a load' ha
  by_cases hak : k = a
  · subst hak
    rw [getElem?_set_self (List.getElem?_eq_some_iff.1 hl).1] at ha
    rw [← Option.some.inj ha]
    exact ⟨_, hl, rfl, rfl⟩
  · rw [getElem?_set_ne hak] at ha
    exact ⟨load', ha, rfl, rfl⟩

theorem QueryInv.allLoaded (h : QueryInv (card.contacts utf) s)
    {fileResults : Option (List StdString)} (hon : QueriesOn card s (.allLoaded k fileResults))
    (hld : s.loads[k]? = some ⟨caller, fileId, .reading⟩) (hf : fileId ≠ ELEMENTARY_FILE_PBR) :
    QueryInv (card.contacts utf) { s with
      loads := s.loads.set k
        ⟨caller, fileId, .details (fileResults.map (processDiallingNumber utf fileId))⟩ } := by
  refine h.onward (places_set hld _) ?_ h.cache
  · refine forall_mem_set h.contents ?_
    intro list hls
    obtain ⟨results, hr, rfl⟩ := Option.map_eq_some_iff.1 hls
    rw [Card.contacts, if_neg hf, hon _ hld results hr]

theorem QueryInv.pbrLoaded (h : QueryInv (card.contacts utf) s) (success : Bool) :
    QueryInv (card.contacts utf) { s with
      loads := s.loads.map fun load =>
        if load.fileId = ELEMENTARY_FILE_PBR ∧ load.stage = .reading then
          { load with stage := .details (some card.phoneBook) }
        else load
      cache := { s.cache with
        isLoadDiallingNumSuccess := s.cache.isLoadDiallingNumSuccess && success } } := by
  refine h.onward ?_ ?_ h.cache
  · intro a load' ha
    rw [getElem?_map] at ha
    obtain ⟨load, hld, rfl⟩ := Option.map_eq_some_iff.1 ha
    refine ⟨load, hld, ?_⟩
    split <;> exact ⟨rfl, rfl⟩
  · intro load' hm list hls
    obtain ⟨load, hld, rfl⟩ := mem_map.1 hm
    split at hls
    next hw =>
      rw [if_pos hw, Card.contacts, if_pos hw.1]
      exact (Option.some.inj hls).symm
    next hn =>
      rw [if_neg hn]
      exact h.contents load hld list hls

theorem QueryInv.details (h : QueryInv contacts s)
    (hld : s.loads[k]? = some ⟨caller, fileId, .details list⟩) :
    QueryInv contacts { s with
      loads := s.loads.set k ⟨caller, fileId, .done list⟩
      cache :=
        if fileId = ELEMENTARY_FILE_PBR then s.cache.processObtainPbrDetailsDone fileId list
        else s.cache.processObtainAdnDetailsDone fileId list } := by
  have hls := h.contents _ (mem_of_getElem? hld)
  have hin : ∀ fileId' list', (s.cache.insert fileId list).loadReadyDiallingNumbers fileId' =
      some list' → list' = contacts fileId' := by
    intro fileId' list' hr
    by_cases hf : fileId' = fileId
    · subst hf
      rw [Cache.loadReady_insert_self] at hr
      exact hls list' hr
    · rw [s.cache.loadReady_insert_of_ne hf] at hr
      exact h.cache fileId' list' hr
  refine h.onward (places_set hld _) ?_ ?_
  · exact forall_mem_set h.contents hls
  · intro fileId' list' hr
    split at hr
    · by_cases hf : fileId' = fileId
      · -- the entry is new, or was taken out
        subst hf
        rw [Cache.processObtainPbrDetailsDone] at hr
        split at hr
        · simp [Cache.loadReadyDiallingNumbers] at hr
        · exact hin fileId' list' hr
      · rw [s.cache.loadReady_processObtainPbrDetailsDone hf] at hr
        exact h.cache fileId' list' hr
    · exact hin fileId' list' hr

theorem waits_iff : s.waits i ↔ ∃ call, s.threads[i]? = some ⟨call, .queryWait⟩ := by
  rw [State.waits, Option.any_eq_true]
  constructor
  · rintro ⟨⟨call, pc⟩, hth, hpc⟩
    obtain rfl : pc = .queryWait := of_decide_eq_true hpc
    exact ⟨call, hth⟩
  · rintro ⟨call, hth⟩
    exact ⟨_, hth, decide_eq_true rfl⟩

theorem QueryInv.queries_of_turn (h : QueryInv contacts s) (hth : s'.threads = s.threads)
    (hc : s'.isUiccCard = s.isUiccCard) (htr : s.queryMtx = none ∨ s.waits i)
    (hat : ∀ call, s.threads[i]? = some ⟨call, .queryWait⟩ →
      s'.QueryAt contacts i call .queryWait) :
    ∀ j call pc, s'.threads[j]? = some ⟨call, pc⟩ → s'.QueryAt contacts j call pc := by
  intro j call pc hj
  rw [hth] at hj
  by_cases hin : pc.inQuery
  · have hh := h.holder j call pc hj hin
    rcases htr with hf | hw
    · rw [hf] at hh
      cases hh
    · -- the call inside is the one that waits
      obtain ⟨_, hi⟩ := waits_iff.1 hw
      obtain rfl : j = i := by
        by_contra hne
        exact h.alone hi rfl j call pc hne hj hin
      cases hj.symm.trans hi
      exact hat call hi
  · exact (h.queries j call pc hj).of_not_inQuery hin hc

theorem QueryInv.fill (h : QueryInv contacts s)
    (hl : s.loads[k]? = some ⟨caller, fileId, .done list⟩) (ht : InTurn s (.loadDone k)) :
    QueryInv contacts { s with
      loads := s.loads.eraseIdx k
      diallingNumbersList := fillResults s.diallingNumbersList (list.getD [])
      notifying := some caller } := by
  have hm := mem_of_getElem? hl
  obtain ⟨thread, hcl, hak, hfl⟩ := h.asked _ hm
  have ht := ht _ hl
  exact { h with
    asked := fun load hl' => h.asked load (mem_of_mem_eraseIdx hl')
    notifies := by
      rintro _ ⟨⟩
      exact ⟨thread, hcl, hak⟩
    unique := by
      intro a b load load' ha hb hs
      have hab := h.unique _ _ load load' (getElem?_of_eraseIdx ha) (getElem?_of_eraseIdx hb) hs
      split at hab <;> split at hab <;> omega
    contents := fun load hl' => h.contents load (mem_of_mem_eraseIdx hl')
    queries := by
      rcases ht with hfr | ⟨hw, hbr⟩
      · refine h.queries_of_turn (i := caller) rfl rfl (.inl hfr) ?_
        intro call hi
        have hh := h.holder caller call _ hi rfl
        rw [hfr] at hh
        cases hh
      · refine h.queries_of_turn rfl rfl (.inr hw) ?_
        intro call hi
        cases hi.symm.trans hcl
        obtain ⟨contents', rfl⟩ : ∃ contents', list = some contents' :=
          Option.isSome_iff_exists.1 hbr
        right
        rcases h.queries caller call _ hi with ⟨he, _, _⟩ | ⟨_, hnn⟩
        · refine ⟨?_, ?_⟩
          · have hct : contents' = contacts (s.loadFileId call) :=
              (h.contents _ hm contents' rfl).trans (congrArg contacts hfl)
            show fillResults s.diallingNumbersList contents' = nonEmpty (contacts (s.loadFileId call))
            rw [he, ← hct]
            rfl
          · -- another answer for this call would have its place
            rintro load hl' rfl
            obtain ⟨n, hnk, hn⟩ := mem_eraseIdx_iff_getElem?.1 hl'
            exact hnk (h.unique n k load _ hn hl rfl)
        · exact absurd rfl (hnn _ hm) }

theorem QueryInv.notify (h : QueryInv contacts s) (hf : s.notifying = some caller)
    (ht : InTurn s .notify) :
    QueryInv contacts { s with notifying := none, hasQueryEventDone := true } := { h with
  notifies := by simp
  queries := by
    refine h.queries_of_turn rfl rfl (ht caller hf) ?_
    intro call hi
    rcases h.queries caller call _ hi with ⟨_, _, hn⟩ | han
    · exact absurd hf hn
    · exact .inr han }

theorem QueryInv.step {l : Label} (h : QueryInv (card.contacts utf) s)
    (hmt : QueriesOn card s l ∧ InTurn s l) (hs : step utf s l = some s') :
    QueryInv (card.contacts utf) s' := by
  obtain ⟨hon, htr⟩ := hmt
  cases step_cases hs with
  | call call => exact h.enters hon
  | query hth hqy => exact h.query hth hqy
  | @write i hasSimCard deadline call pc _ hth hwr =>
    -- no call is a write
    have hpc := (h.calls i call pc hth).2
    cases pc with
    | writeLock | lowerFlag | writeToIcc | writeWait | writeReturn => exact absurd rfl hpc
    | _ => exact absurd hwr (by simp [State.writeIccDiallingNumbers])
  | simState state =>
    cases state with
    | notPresent =>
      refine h.onward (fun a load ha => ⟨load, ha, rfl, rfl⟩) h.contents ?_
      intro fileId list hls
      simp [Cache.clearDiallingNumberCache, Cache.loadReadyDiallingNumbers] at hls
    | ready => exact h.enters (by simp [Op.isWrite])
    | other => exact h
  | load hld =>
    cases hld with
    | allLoaded fileResults hld hfl => exact h.allLoaded hon hld hfl
    | pbrLoaded list success =>
      obtain rfl : list = card.phoneBook := hon htr
      exact h.pbrLoaded success
    | details hld => exact h.details hld
    | fill hld _ => exact h.fill hld htr
    | notify hfi => exact h.notify hfi htr
  | update hu =>
    cases hu with
    | written hk _ | refused _ hk | answered _ hk | changed hk _ | failed hk | done hk =>
      rw [h.updates] at hk
      cases hk

/-! ## Whole runs -/

/-- **A query returns the contacts of its file, each once**, if the answers come in turn. -/
theorem queries_correct {utf : Utf} {card : Card} {isUiccCard : Bool} {ls : List Label} {s : State}
    (hmeets : StepsMeet (step utf) (fun s l => QueriesOn card s l ∧ InTurn s l) { isUiccCard } ls)
    (hrun : runLabels (step utf) { isUiccCard } ls = some s) :
    s.QueriesCorrect (card.contacts utf) := by
  have hin : QueryInv (card.contacts utf) s :=
    invariant_run .step ls (queryInv_init _ isUiccCard) hmeets hrun
  intro i call list hi hop
  have hl := hin.queries i call _ hi hop
  rwa [State.answer, State.loadFileId, if_pos hop] at hl

/-- The answer of the query that timed out comes before the next one has the lock. -/
def inTurnRun : List Label :=
  List.flatten [ [.call { op := .query, type := SIM_FDN }, .call { op := .query, type := SIM_ADN }],
    steps 0 5, [.caller 0 true true, .caller 0 true false],
    [.allLoaded 0 (some (annBobCard.records ELEMENTARY_FILE_FDN)), .obtainDetailsDone 0,
      .loadDone 0, .notify],
    steps 1 5,
    [.allLoaded 0 (some (annBobCard.records ELEMENTARY_FILE_ADN)), .obtainDetailsDone 0,
      .loadDone 0, .notify],
    steps 1 2]

theorem queries_correct_in_turn :
    ∃ s, StepsMeet (step basicUtf) (fun s l => QueriesOn annBobCard s l ∧ InTurn s l) {}
        inTurnRun ∧
      runLabels (step basicUtf) {} inTurnRun = some s ∧
      s.threads[1]? = some ⟨{ op := .query, type := SIM_ADN },
        .returned .success [annIn ELEMENTARY_FILE_ADN]⟩ ∧
      s.QueriesCorrect (annBobCard.contacts basicUtf) := by
  obtain ⟨s, hm, hrn, hrt⟩ : ∃ s, StepsMeet (step basicUtf)
        (fun s l => QueriesOn annBobCard s l ∧ InTurn s l) {} inTurnRun ∧
      runLabels (step basicUtf) {} inTurnRun = some s ∧
      s.threads[1]? = some ⟨{ op := .query, type := SIM_ADN },
        .returned .success [annIn ELEMENTARY_FILE_ADN]⟩ :=
    exists_run_meeting _ (by decide +kernel)
  exact ⟨s, hm, hrn, hrt, queries_correct hm hrn⟩

end TelephonyCore.Phonebook.Manager
