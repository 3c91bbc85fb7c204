import Mathlib.Data.List.Count
import TelephonyCore.EventQueue.Machine
import TelephonyCore.Lib.Custody
import TelephonyCore.Lib.Slots

/-!
# `TelEventQueue`: is an event processed before its time?

A task is started at the time `SubmitInner` computed from the event it found most urgent then. When
its body runs, `PopEvent` takes whatever `GetPriorityIndex` names at that moment, due or not: if the
event the task was for is gone, another one is processed, however far in the future it is. Three
things make it go: `RemoveEvent`, a second task with the same queue id, and the rounding of the
delay to microseconds, after which the event is not yet due.

`Label.Scheduled` excludes the three in the schedule. Then at most one task carries the current
queue id, from the `Submit` that takes the id to the body (`State.carriers`), and an event is queued
that is due when this task starts (`Timely`).
-/

namespace TelephonyCore.EventQueue

open Lib List

/-- Some queued event is due at the time. -/
def State.DueBy (s : State) (time : Int) : Prop := ∃ e ∈ s.queue.lists.queued, e.handleTime ≤ time

/-! ## The schedule -/

/-- The thread runs the task with the queue id or will submit one, or is a `Submit` between its
`GetNextQueueId` and its reading of the id. -/
def Pc.carries (queueId : Int32) : Pc → Bool
  | .clearCurrentTask | .loadQueueId => true
  | .popEvent id | .getHandleTime id | .readClock id _ | .submitToFFRT id _ _ => id == queueId
  | .processEvent id _ isNeedSubmit => isNeedSubmit && id == queueId
  | _ => false

/-- How many tasks with the current queue id there are or will be. -/
def State.carriers (s : State) : Nat :=
  s.pending.countP (fun task => task.queueId == s.queueId) +
    s.threads.countP (fun t => t.pc.carries s.queueId)

/-- There is no task, or for each event that is removed one is left that is due no later. -/
def State.LeavesDue (s : State) (filter : Event → Bool) : Prop :=
  s.carriers = 0 ∨ ∀ e ∈ s.queue.lists.queued, filter e = true →
    ∃ e' ∈ s.queue.lists.queued, filter e' = false ∧ e'.handleTime ≤ e.handleTime

instance (s : State) (filter : Event → Bool) : Decidable (s.LeavesDue filter) :=
  inferInstanceAs (Decidable (_ ∨ _))

/-- The step replaces the queue id while no other `Submit` has replaced it and not read it yet, and
the ids do not wrap. -/
def Pc.ReplacesAlone (s : State) : Pc → Prop
  | .resetQueueId => False
  | .nextQueueId => s.queueId < Int32.maxValue ∧
      ∀ t ∈ s.threads, t.pc ≠ .clearCurrentTask ∧ t.pc ≠ .loadQueueId
  | _ => True

instance (s : State) (pc : Pc) : Decidable (pc.ReplacesAlone s) := by
  unfold Pc.ReplacesAlone
  split <;> infer_instance

/-- The schedule: removals, starts and `Submit` calls at good moments. A task starts after the
microsecond that was cut off its delay. -/
def Label.Scheduled (s : State) : Label → Prop
  | .tick _ => True
  | .submit event _ => ∀ e ∈ event, e.handleTime < timePointMax
  | .removeEvent innerEventId => s.LeavesDue (fun e => e.innerEventId == innerEventId)
  | .removeAllEvents => s.LeavesDue (fun _ => true)
  | .start task => task.startTime + 999 ≤ s.now
  | .thread i _ => ∀ t ∈ s.threads[i]?, t.pc.ReplacesAlone s

instance (s : State) (l : Label) : Decidable (l.Scheduled s) := by
  unfold Label.Scheduled
  split <;> infer_instance

variable {s s' : State} {l : Label} {e : Event} {curFirst : Bool}

/-! ## The invariant -/

def OnTime (s : State) (e : Event) (time : Int) : Prop :=
  e ∈ s.queue.submitted ∧ e.handleTime ≤ time

structure Punctual (s : State) : Prop where
  lists : Inv s.queue
  popped : ∀ t ∈ s.threads, ∀ queueId e isNeedSubmit,
    t.pc = .processEvent queueId (some e) isNeedSubmit → OnTime s e s.now
  processed : ∀ r ∈ s.processed, OnTime s r.event r.time

theorem submitted_popEvent (q : Queue) (now : Int) :
    (q.popEvent now).2.submitted = q.submitted := by
  unfold Queue.popEvent
  split <;> rfl

theorem Stepped.submitted_subset (h : Stepped s l s') : s.queue.submitted ⊆ s'.queue.submitted := by
  cases h with
  | submit event priority =>
    cases event with
    | none => exact .refl _
    | some event => exact subset_append_left _ _
  | thread hg ha =>
    rcases ha.queue_eq with heq | ⟨-, -, heq⟩
    · exact (congrArg Queue.submitted heq).symm ▸ .refl _
    · exact ((congrArg Queue.submitted heq).trans (submitted_popEvent ..)).symm ▸ .refl _
  | _ => exact .refl _

theorem OnTime.step (h : Stepped s l s') {time time' : Int} (ht : time ≤ time')
    (hon : OnTime s e time) : OnTime s' e time' :=
  ⟨h.submitted_subset hon.1, le_trans hon.2 ht⟩

theorem pop_onTime (hin : Inv s.queue) (hdu : s.DueBy s.now)
    (hp : (s.queue.popEvent s.now).1 = some e) : OnTime s e s.now := by
  obtain ⟨e', he', hle⟩ := hdu
  obtain ⟨_, hm, hp₁, hr⟩ := popEvent_spec hin (.inr ⟨e', he', .inl hle⟩)
  cases hp.symm.trans hp₁
  exact ⟨hin.ledger.mem_iff.1 (mem_append_left _ hm), hr.due hin.sorted he' hle⟩

theorem Advanced.holds_event {pc : Pc} {queueId : Int32} {isNeedSubmit : Bool}
    (h : Advanced s curFirst pc s' (.processEvent queueId (some e) isNeedSubmit)) :
    pc = .popEvent s.queueId ∧ (s.queue.popEvent s.now).1 = some e := by
  generalize hpc : Pc.processEvent queueId (some e) isNeedSubmit = pc' at h
  cases h with
  | popNothing hgd => cases hpc
  | popLast hne hpp he | popNext hne hpp hm =>
    cases hpc
    exact ⟨rfl, hpp⟩
  | compareCurHandleTime handleTime | compareHandleTime curHandleTime hr =>
    unfold afterCompare at hpc
    split at hpc <;> cases hpc
  | checkQueueId | processEvent queueId event isNeedSubmit | getHandleTime queueId hr =>
    split at hpc <;> cases hpc
  | _ => cases hpc

theorem Advanced.processed_cases {pc pc' : Pc} (h : Advanced s curFirst pc s' pc') {r : ProcessCall}
    (hr : r ∈ s'.processed) :
    r ∈ s.processed ∨
      ∃ queueId isNeedSubmit, pc = .processEvent queueId (some r.event) isNeedSubmit ∧
        r.time = s.now := by
  cases h with
  | processEvent queueId event isNeedSubmit =>
    rcases mem_append.1 hr with hr | hr
    · exact .inl hr
    · right
      rw [Option.mem_toList, Option.map_eq_some_iff] at hr
      obtain ⟨e, he, rfl⟩ := hr
      rw [Option.filter_eq_some_iff] at he
      exact ⟨queueId, isNeedSubmit, by rw [he.1], rfl⟩
  | clearCurrentTask =>
    unfold State.clearCurrentTask at hr
    split at hr <;> exact .inl hr
  | submitToFFRT queueId handleTime delayTime =>
    unfold State.submitToFFRT at hr
    split at hr <;> exact .inl hr
  | _ => exact .inl hr

theorem Stepped.punctual (h : Stepped s l s') (hp : Punctual s) (hdf : l.Defined s)
    (hdu : ∀ t ∈ s.threads, t.pc = .popEvent s.queueId → s.DueBy s.now) : Punctual s' := by
  refine ⟨h.inv hp.lists hdf, ?_, ?_⟩
  · intro t ht queueId e isNeedSubmit hpc
    have hs := h
    -- a thread that was there before keeps its event
    have hol : t ∈ s.threads → OnTime s' e s'.now := fun hm =>
      (hp.popped t hm queueId e isNeedSubmit hpc).step hs hs.now_le
    cases h with
    | submit event priority | start hm htm =>
      rcases mem_append.1 ht with hm | hnw
      · exact hol hm
      · rw [mem_singleton.1 hnw] at hpc
        cases hpc
    | thread hg had =>
      rcases mem_or_eq_of_mem_set ht with hm | rfl
      · exact hol hm
      · cases hpc
        obtain ⟨hpp, hev⟩ := had.holds_event
        refine .step hs (le_of_eq had.now_eq.symm) ?_
        exact pop_onTime hp.lists (hdu _ (mem_of_getElem? hg) hpp) hev
    | _ => exact hol ht
  · intro r hr
    have hs := h
    have hol : r ∈ s.processed → OnTime s' r.event r.time := fun hm =>
      (hp.processed r hm).step hs (le_refl _)
    cases h with
    | thread hg had =>
      rcases had.processed_cases hr with hm | ⟨queueId, isNeedSubmit, hpc, htm⟩
      · exact hol hm
      · have hon := hp.popped _ (mem_of_getElem? hg) _ _ _ hpc
        exact hon.step hs (le_of_eq htm.symm)
    | _ => exact hol hr

theorem punctual_init (now : Int) : Punctual (.init now) where
  lists := inv_init
  popped := by simp [State.init]
  processed := by simp [State.init]

/-! ## One task with the current queue id -/

/-- The queue id the thread has read. -/
def Pc.readId : Pc → Option Int32
  | .popEvent id | .getHandleTime id | .readClock id _ | .submitToFFRT id _ _ => some id
  | .processEvent id _ _ => some id
  | _ => none

/-- No id is newer than the current one. -/
structure IdsLe (s : State) : Prop where
  tasks : ∀ task ∈ s.pending, task.queueId ≤ s.queueId
  threads : ∀ t ∈ s.threads, ∀ id ∈ t.pc.readId, id ≤ s.queueId

/-- An event is queued for the task that the thread runs or will submit. -/
def Pc.Promises (s : State) : Pc → Prop
  | .popEvent id => id = s.queueId → s.DueBy s.now
  | .readClock id handleTime => id = s.queueId → s.DueBy handleTime
  | .submitToFFRT id handleTime delay =>
    id = s.queueId → s.DueBy handleTime ∧ handleTime ≤ s.now + 1000 * delay + 999
  | _ => True

/-- There is at most one task with the current queue id, and an event for it. -/
structure Timely (s : State) : Prop where
  ids : IdsLe s
  one : s.carriers ≤ 1
  tasks : ∀ task ∈ s.pending, task.queueId = s.queueId → s.DueBy (task.startTime + 999)
  threads : ∀ t ∈ s.threads, t.pc.Promises s

variable {pc pc' : Pc}

theorem State.DueBy.mono {time time' : Int} (h : s.DueBy time) (hle : time ≤ time')
    (hq : s.queue.lists.queued ⊆ s'.queue.lists.queued) : s'.DueBy time' := by
  obtain ⟨e, he, ht⟩ := h
  exact ⟨e, hq he, le_trans ht hle⟩

theorem Pc.Promises.mono (h : pc.Promises s) (hid : s'.queueId = s.queueId) (hn : s.now ≤ s'.now)
    (hq : ∀ time, s.DueBy time → s'.DueBy time) : pc.Promises s' := by
  have hle : ∀ {time time' : Int}, s.DueBy time → time ≤ time' → s'.DueBy time' :=
    fun hd hle => (hq _ hd).mono hle (.refl _)
  cases pc with
  | popEvent id => exact fun heq => hle (h (heq.trans hid)) hn
  | readClock id handleTime => exact fun heq => hq _ (h (heq.trans hid))
  | submitToFFRT id handleTime delay =>
    intro heq
    obtain ⟨hd, hb⟩ := h (heq.trans hid)
    exact ⟨hq _ hd, by omega⟩
  | _ => trivial

/-- A thread that does not carry the current id promises nothing. -/
theorem promises_of_not_carries (h : pc.carries s.queueId = false) : pc.Promises s := by
  cases pc with
  | popEvent id | readClock id handleTime | submitToFFRT id handleTime delay =>
    intro heq
    subst heq
    simp [Pc.carries] at h
  | _ => trivial

/-- A step does not add a task, unless it replaces the queue id. -/
theorem Advanced.carriers_le (h : Advanced s curFirst pc s' pc') (hid : s'.queueId = s.queueId) :
    s'.pending.countP (fun task => task.queueId == s.queueId) +
        (if pc'.carries s.queueId then 1 else 0) ≤
      s.pending.countP (fun task => task.queueId == s.queueId) +
        (if pc.carries s.queueId then 1 else 0) := by
  cases h with
  | nextQueueId => simp at hid
  | compareCurHandleTime handleTime | compareHandleTime curHandleTime hr =>
    unfold afterCompare
    split <;> simp [Pc.carries]
  | checkQueueId => split <;> simp [Pc.carries]
  | clearCurrentTask =>
    unfold State.clearCurrentTask
    split
    · simp [Pc.carries]
    · exact Nat.add_le_add_right (filter_sublist.countP_le) _
  | processEvent queueId event isNeedSubmit =>
    cases isNeedSubmit <;> simp [Pc.carries, State.processEvent]
  | getHandleTime queueId hr =>
    split <;> simp [Pc.carries]
  | submitToFFRT queueId handleTime delayTime =>
    unfold State.submitToFFRT
    split
    next hne => simp [Pc.carries]
    next heq => simp [Pc.carries, not_not.1 heq]
  | _ => simp [Pc.carries]

theorem carriers_set (pc' : Pc) {i : Nat} {t : Thread} (hg : s.threads[i]? = some t) (queueId : Int32) :
    (s.threads.set i { t with pc := pc' }).countP (fun t => t.pc.carries queueId) +
        (if t.pc.carries queueId then 1 else 0) =
      s.threads.countP (fun t => t.pc.carries queueId) +
        (if pc'.carries queueId then 1 else 0) := by
  obtain ⟨hlt, rfl⟩ := List.getElem?_eq_some_iff.1 hg
  have hpos : s.threads[i].pc.carries queueId = true →
      0 < s.threads.countP (fun t => t.pc.carries queueId) :=
    fun hc => countP_pos_iff.2 ⟨_, getElem_mem hlt, hc⟩
  rw [countP_set hlt]
  split <;> split <;> simp_all

theorem id_lt_succ {id : Int32} (h : id < Int32.maxValue) : id < id + 1 := by
  have hmax : Int32.maxValue.toInt = 2147483647 := by decide
  rw [Int32.lt_iff_toInt_lt] at h ⊢
  have := id.le_toInt
  simp at this ⊢
  rw [Int.bmod_eq_of_le] <;> omega

theorem Advanced.readId_le (h : Advanced s curFirst pc s' pc')
    (hle : ∀ id ∈ pc.readId, id ≤ s.queueId) :
    ∀ id ∈ pc'.readId, id ≤ s.queueId := by
  cases h with
  | loadQueueId => simp [Pc.readId]
  | compareCurHandleTime handleTime | compareHandleTime curHandleTime hr =>
    unfold afterCompare
    split <;> simp [Pc.readId]
  | checkQueueId => split <;> simp [Pc.readId]
  | processEvent queueId event isNeedSubmit | getHandleTime queueId hr =>
    split <;> simp_all [Pc.readId]
  | submitToFFRT queueId handleTime delayTime => simp [Pc.readId]
  | _ => exact hle

theorem Advanced.ids (h : Advanced s curFirst pc s' pc')
    (hids : ∀ task ∈ s.pending, task.queueId ≤ s.queueId) : ∀ task ∈ s'.pending,
      task.queueId ≤ s.queueId := by
  cases h with
  | clearCurrentTask =>
    unfold State.clearCurrentTask
    split
    · exact hids
    · exact fun task hm => hids task (mem_of_mem_filter hm)
  | submitToFFRT queueId handleTime delayTime =>
    unfold State.submitToFFRT
    split
    · exact hids
    next heq => exact forall_mem_concat hids (Int32.le_of_eq (not_not.1 heq))
  | _ => exact hids

theorem Advanced.queueId_cases (h : Advanced s curFirst pc s' pc') (hr : pc.ReplacesAlone s) :
    s'.queueId = s.queueId ∨ (pc = .nextQueueId ∧ pc' = .clearCurrentTask ∧
      s' = { s with queueId := s.queueId + 1 }) := by
  cases h with
  | nextQueueId => exact .inr ⟨rfl, rfl, rfl⟩
  | resetQueueId => exact absurd hr id
  | clearCurrentTask =>
    left
    unfold State.clearCurrentTask
    split <;> rfl
  | submitToFFRT queueId handleTime delayTime =>
    left
    unfold State.submitToFFRT
    split <;> rfl
  | _ => exact .inl rfl

theorem dueBy_getHandleTime {handleTime : Int} (h : s.getHandleTime = some handleTime)
    (hne : handleTime ≠ timePointMax) : s.DueBy handleTime := by
  unfold State.getHandleTime Queue.getHandleTime at h
  split at h
  · exact absurd (Option.some.inj h).symm hne
  · obtain ⟨e, he, rfl⟩ := Option.map_eq_some_iff.1 h
    exact ⟨e, EventLists.mem_queued.2 ⟨_, mem_of_mem_head? he⟩, le_refl _⟩

/-- The promise of the thread itself after its step. -/
theorem Advanced.promises (h : Advanced s curFirst pc s' pc') (hp : pc.Promises s) :
    pc'.Promises s' := by
  cases h with
  | readClock queueId handleTime =>
    intro heq
    refine ⟨hp heq, ?_⟩
    unfold delayTime
    split <;> omega
  | getHandleTime queueId hr =>
    split
    next => trivial
    next hne => exact fun _ => dueBy_getHandleTime hr hne
  | compareCurHandleTime handleTime | compareHandleTime curHandleTime hr =>
    unfold afterCompare
    split <;> trivial
  | checkQueueId | processEvent queueId event isNeedSubmit => split <;> trivial
  | _ => trivial

/-- A task that a step submits starts when an event is due, but for the cut of its delay. -/
theorem Advanced.tasks (h : Advanced s curFirst pc s' pc') (hp : pc.Promises s) {task : Task}
    (hm : task ∈ s'.pending) : task ∈ s.pending ∨ (s'.queue = s.queue ∧
      (task.queueId = s.queueId → s.DueBy (task.startTime + 999))) := by
  cases h with
  | clearCurrentTask =>
    unfold State.clearCurrentTask at hm
    split at hm
    · exact .inl hm
    · exact .inl (mem_of_mem_filter hm)
  | submitToFFRT queueId handleTime delayTime =>
    unfold State.submitToFFRT at hm ⊢
    split at hm
    next => exact .inl hm
    next heq =>
      rw [if_neg heq]
      refine (mem_concat.1 hm).imp_right ?_
      rintro rfl
      refine ⟨rfl, fun hid => ?_⟩
      obtain ⟨hd, hle⟩ := hp hid
      exact hd.mono hle (.refl _)
  | _ => exact .inl hm

/-- With one carrier, which takes a step, no other thread and no task has the current id. -/
theorem Timely.others (h : Timely s) {i : Nat} {t : Thread} (hg : s.threads[i]? = some t)
    (hc : t.pc.carries s.queueId = true) :
    (∀ task ∈ s.pending, task.queueId ≠ s.queueId) ∧
      ∀ other ∈ s.threads.eraseIdx i, other.pc.carries s.queueId = false := by
  have hone := h.one
  have hset := carriers_set .returned hg s.queueId
  rw [if_pos hc, if_neg (by simp [Pc.carries])] at hset
  unfold State.carriers at hone
  constructor
  · have hz : s.pending.countP (fun task => task.queueId == s.queueId) = 0 := by omega
    intro task hm
    simpa using countP_eq_zero.1 hz task hm
  · intro other hm
    obtain ⟨j, hji, hj⟩ := mem_eraseIdx_iff_getElem?.1 hm
    have hm' : other ∈ s.threads.set i { t with pc := .returned } :=
      mem_of_getElem? ((getElem?_set_ne (Ne.symm hji)).trans hj)
    have hz : (s.threads.set i { t with pc := .returned }).countP
        (fun t => t.pc.carries s.queueId) = 0 := by omega
    simpa using countP_eq_zero.1 hz other hm'

theorem State.LeavesDue.dueBy {filter : Event → Bool} {cause : Cause} (hl : s.LeavesDue filter)
    (hq : s'.queue = s.queue.remove filter cause) (hne : s.carriers ≠ 0) {time : Int}
    (h : s.DueBy time) : s'.DueBy time := by
  have hkeep : ∀ {e}, e ∈ s.queue.lists.queued → filter e = false →
      e ∈ s'.queue.lists.queued := by
    intro e he hf
    rw [hq]
    rcases mem_append.1 ((queued_removeIf_perm s.queue.lists filter).mem_iff.2 he) with hm | hm
    · exact hm
    · rw [(mem_filter.1 hm).2] at hf
      cases hf
  obtain ⟨e, he, ht⟩ := h
  by_cases hf : filter e = true
  · obtain ⟨e', he', hf', hle⟩ := (hl.resolve_left hne) e he hf
    exact ⟨e', hkeep he' hf', le_trans hle ht⟩
  · exact ⟨e, hkeep he (by simpa using hf), ht⟩

theorem carriers_of_task {task : Task} (hm : task ∈ s.pending) (heq : task.queueId = s.queueId) :
    s.carriers ≠ 0 := by
  have hpos : 0 < s.pending.countP (fun task => task.queueId == s.queueId) :=
    countP_pos_iff.2 ⟨task, hm, beq_iff_eq.2 heq⟩
  unfold State.carriers
  omega

theorem carriers_of_thread {t : Thread} (hm : t ∈ s.threads)
    (hc : t.pc.carries s.queueId = true) : s.carriers ≠ 0 := by
  have hpos : 0 < s.threads.countP (fun t => t.pc.carries s.queueId) := countP_pos_iff.2 ⟨t, hm, hc⟩
  unfold State.carriers
  omega

/-- A step that changes the lists and the clock only. -/
theorem Timely.frame (h : Timely s) (hid : s'.queueId = s.queueId) (hp : s'.pending = s.pending)
    (hth : s'.threads = s.threads) (hn : s.now ≤ s'.now)
    (hq : s.carriers ≠ 0 → ∀ time, s.DueBy time → s'.DueBy time) : Timely s' where
  ids := ⟨by rw [hp, hid]; exact h.ids.tasks, by rw [hth, hid]; exact h.ids.threads⟩
  one := by
    have hone := h.one
    unfold State.carriers at hone ⊢
    rw [hid, hp, hth]
    exact hone
  tasks := by
    rw [hp, hid]
    intro task hm heq
    exact hq (carriers_of_task hm heq) _ (h.tasks task hm heq)
  threads := by
    rw [hth]
    intro t hm
    by_cases hc : t.pc.carries s.queueId = true
    · exact (h.threads t hm).mono hid hn (hq (carriers_of_thread hm hc))
    · exact promises_of_not_carries (by rw [hid]; simpa using hc)

/-- A step of a thread that keeps the queue id. -/
theorem Timely.thread (h : Timely s) {i : Nat} {t : Thread} (hg : s.threads[i]? = some t)
    (ha : Advanced s curFirst t.pc s' pc') (hid : s'.queueId = s.queueId) :
    Timely { s' with threads := s.threads.set i { t with pc := pc' } } := by
  have hpr := h.threads t (mem_of_getElem? hg)
  -- a pop leaves nobody else with the current id; any other step leaves the lists
  have hdue : (∀ task ∈ s.pending, task.queueId ≠ s.queueId) ∧
      (∀ other ∈ s.threads.eraseIdx i, other.pc.carries s.queueId = false) ∨
      s'.queue = s.queue := by
    rcases ha.queue_eq with heq | ⟨hpc, -, -⟩
    · exact .inr heq
    · exact .inl (h.others hg (by simp [hpc, Pc.carries]))
  refine ⟨⟨?_, ?_⟩, ?_, ?_, ?_⟩
  · rw [hid]
    exact ha.ids h.ids.tasks
  · rw [hid]
    exact forall_mem_set h.ids.threads
      (ha.readId_le (h.ids.threads t (mem_of_getElem? hg)))
  · have hone := h.one
    have hset := carriers_set pc' hg s.queueId
    have hle := ha.carriers_le hid
    unfold State.carriers at hone ⊢
    simp only [hid] at hset hle ⊢
    omega
  · intro task hm heq
    have hst : s.DueBy (task.startTime + 999) ∧ s'.queue = s.queue := by
      rcases ha.tasks hpr hm with ho | ⟨hsame, hnew⟩
      · rcases hdue with ⟨hnone, -⟩ | hsame
        · exact absurd (heq.trans hid) (hnone task ho)
        · exact ⟨h.tasks task ho (heq.trans hid), hsame⟩
      · exact ⟨hnew (heq.trans hid), hsame⟩
    exact hst.1.mono (le_refl _) (by rw [← hst.2]; exact .refl _)
  · intro other hm
    rcases mem_eraseIdx_of_mem_set hm with rfl | ho
    · exact (ha.promises hpr).mono rfl (le_refl _) (fun _ hd => hd)
    · rcases hdue with ⟨-, hnone⟩ | hsame
      · exact promises_of_not_carries (by rw [hid]; exact hnone other ho)
      · refine (h.threads other (eraseIdx_subset ho)).mono hid (le_of_eq ha.now_eq.symm) ?_
        exact fun _ hd => hd.mono (le_refl _) (by rw [← hsame]; exact .refl _)

/-- A `Submit` takes a new id, which nobody has. -/
theorem Timely.replace (h : Timely s) {i : Nat} {t : Thread} (hg : s.threads[i]? = some t)
    (hr : Pc.nextQueueId.ReplacesAlone s) :
    Timely { s with
      queueId := s.queueId + 1
      threads := s.threads.set i { t with pc := .clearCurrentTask } } := by
  have hlt := id_lt_succ hr.1
  have hnew : ∀ {id : Int32}, id ≤ s.queueId → id ≠ s.queueId + 1 := by
    rintro id hle rfl
    exact Int32.lt_irrefl (Int32.lt_of_lt_of_le hlt hle)
  have hno : ∀ other ∈ s.threads, other.pc.carries (s.queueId + 1) = false := by
    intro other hm
    have hids := h.ids.threads other hm
    obtain ⟨hc, hl⟩ := hr.2 other hm
    cases hpc : other.pc with
    | clearCurrentTask => exact absurd hpc hc
    | loadQueueId => exact absurd hpc hl
    | popEvent id | getHandleTime id | readClock id _ | submitToFFRT id _ _ | processEvent id _ _ =>
      rw [hpc] at hids
      simp [Pc.carries, hnew (hids id rfl)]
    | _ => rfl
  have hnt : ∀ task ∈ s.pending, task.queueId ≠ s.queueId + 1 :=
    fun task hm => hnew (h.ids.tasks task hm)
  refine ⟨⟨?_, ?_⟩, ?_, ?_, ?_⟩
  · exact fun task hm => Int32.le_of_lt (Int32.lt_of_le_of_lt (h.ids.tasks task hm) hlt)
  · refine forall_mem_set (fun other hm id hid => ?_) (by simp [Pc.readId])
    exact Int32.le_of_lt (Int32.lt_of_le_of_lt (h.ids.threads other hm id hid) hlt)
  · have hz : s.pending.countP (fun task => task.queueId == s.queueId + 1) = 0 :=
      countP_eq_zero.2 (fun task hm => by simpa using hnt task hm)
    have hz' : s.threads.countP (fun t => t.pc.carries (s.queueId + 1)) = 0 :=
      countP_eq_zero.2 (fun other hm => by simp [hno other hm])
    have hset := carriers_set .clearCurrentTask hg (s.queueId + 1)
    rw [hno t (mem_of_getElem? hg), if_neg Bool.false_ne_true,
      if_pos (show Pc.carries _ .clearCurrentTask = true from rfl)] at hset
    simp only [State.carriers]
    omega
  · exact fun task hm heq => absurd heq (hnt task hm)
  · exact forall_mem_set (fun other hm => promises_of_not_carries (hno other hm)) trivial

/-- A new thread, for a task that was pending or for none. -/
theorem Timely.spawn (h : Timely s) {t : Thread} {pending : List Task}
    (hsub : pending ⊆ s.pending) (hread : ∀ id ∈ t.pc.readId, id ≤ s.queueId)
    (hc : pending.countP (fun task => task.queueId == s.queueId) +
        (if t.pc.carries s.queueId then 1 else 0) ≤
      s.pending.countP (fun task => task.queueId == s.queueId))
    (hpr : t.pc.Promises s) : Timely { s with pending, threads := s.threads ++ [t] } where
  ids := ⟨fun task hm => h.ids.tasks task (hsub hm), forall_mem_concat h.ids.threads hread⟩
  one := by
    have hone := h.one
    simp only [State.carriers, countP_append, countP_singleton] at hone ⊢
    omega
  tasks := fun task hm heq => (h.tasks task (hsub hm) heq).mono (le_refl _) (.refl _)
  threads := forall_mem_concat
    (fun other hm => (h.threads other hm).mono rfl (le_refl _) (fun _ hd => hd))
    (hpr.mono rfl (le_refl _) (fun _ hd => hd))

theorem Stepped.timely (h : Stepped s l s') (ht : Timely s) (hs : l.Scheduled s) :
    Timely s' := by
  cases h with
  | tick hle hlt => exact ht.frame rfl rfl rfl hle (fun _ _ hd => hd)
  | submit event priority =>
    have hq : s.queue.lists.queued ⊆
        (s.queue.insertEventsInner event priority).lists.queued := by
      cases event with
      | none => exact .refl _
      | some event =>
        exact fun e he => (queued_insert_perm _ _ priority).mem_iff.2 (mem_cons_of_mem _ he)
    have hf : Timely { s with queue := s.queue.insertEventsInner event priority } :=
      ht.frame rfl rfl rfl (le_refl _) (fun _ _ hd => hd.mono (le_refl _) hq)
    exact hf.spawn (.refl _) (by simp [Pc.readId]) (le_refl _) trivial
  | removeEvent _ | removeAllEvents =>
    exact ht.frame rfl rfl rfl (le_refl _) (fun hne _ => State.LeavesDue.dueBy hs rfl hne)
  | @start task hm htime =>
    refine ht.spawn (erase_subset) ?_ ?_ ?_
    · rintro id ⟨⟩
      exact ht.ids.tasks task hm
    · rw [countP_erase]
      by_cases hid : (task.queueId == s.queueId) = true
      · have hpos : 0 < s.pending.countP (fun task => task.queueId == s.queueId) :=
          countP_pos_iff.2 ⟨task, hm, hid⟩
        rw [if_pos ⟨hm, hid⟩, if_pos (show Pc.carries _ (.popEvent _) = true from hid)]
        omega
      · rw [if_neg (fun h => hid h.2), if_neg (show ¬ Pc.carries _ (.popEvent _) = true from hid)]
        omega
    · exact fun hid => (ht.tasks task hm hid).mono hs (.refl _)
  | @thread i t curFirst s₁ pc hg ha =>
    rcases ha.queueId_cases (hs t hg) with hid | ⟨hpc, rfl, rfl⟩
    · exact ht.thread hg ha hid
    · exact ht.replace hg (hpc ▸ hs t hg)
  | undefined hg ha => exact ht.frame rfl rfl rfl (le_refl _) (fun _ _ hd => hd)

/-! ## Whole runs -/

theorem timely_init (now : Int) : Timely (.init now) where
  ids := ⟨by simp [State.init], by simp [State.init]⟩
  one := by simp [State.init, State.carriers]
  tasks := by simp [State.init]
  threads := by simp [State.init]

theorem Stepped.finite (h : Stepped s l s') (hs : l.Scheduled s)
    (hf : ∀ e ∈ s.queue.lists.queued, e.handleTime < timePointMax) :
    ∀ e ∈ s'.queue.lists.queued, e.handleTime < timePointMax := by
  intro e he
  rcases h.queued_cases he with ho | ⟨event, priority, rfl, rfl⟩
  · exact hf e ho
  · exact hs event rfl

/-- **No event is processed before its time**, with any number of threads, if no removal takes away
the event of a task, no two `Submit` calls take their ids at once, and no task starts in the
microsecond cut off its delay. -/
theorem processed_on_time (now : Int) (ls : List Label) (s : State)
    (hrun : runLabels step (State.init now) ls = some s)
    (hsched : StepsMeet step (fun s l => l.Scheduled s) (State.init now) ls) :
    s.queue.undefinedRead = false ∧
      ∀ r ∈ s.processed, r.event ∈ s.queue.submitted ∧ r.event.handleTime ≤ r.time := by
  obtain ⟨hp, -, -⟩ := @invariant_run _ _ _ _ (fun s : State => Punctual s ∧
      (∀ e ∈ s.queue.lists.queued, e.handleTime < timePointMax) ∧ Timely s)
    (by
      rintro s s' l ⟨hp, hf, ht⟩ hs hst
      have h := step_stepped hst
      have hdf : l.Defined s := by
        cases l with
        | thread i curFirst => exact fun _ _ _ => readable_of_finite hf
        | _ => trivial
      refine ⟨h.punctual hp hdf (fun t hm hpc => ?_), h.finite hs hf, h.timely ht hs⟩
      have hpr := ht.threads t hm
      rw [hpc] at hpr
      exact hpr rfl) ls _ _
    ⟨punctual_init now, fun _ he => absurd he not_mem_nil, timely_init now⟩ hsched hrun
  exact ⟨hp.lists.defined, hp.processed⟩

/-! ## Two runs -/

def runThread (i n : Nat) : List Label := List.replicate n (Label.thread i false)

/-- Events for one second and for a hundred, and the first task a microsecond after its time, up to
the call of the handler. -/
def twoSubmits (removed : List Label) : List Label :=
  [Label.submit (some ⟨1, 1000000000, true, 0, by decide⟩) .other] ++ runThread 0 9 ++
    [Label.submit (some ⟨2, 100000000000, true, 0, by decide⟩) .other] ++ runThread 1 2 ++
    removed ++ [Label.tick 1000001000, Label.start ⟨0, 1, 1000000000⟩] ++ runThread 2 2

theorem processed_on_time_twoSubmits :
    ∃ s, runLabels step (State.init 0) (twoSubmits []) = some s ∧
      s.processed.map (fun r => (r.event.innerEventId, r.time)) = [(1, 1000001000)] ∧
      ∀ r ∈ s.processed, r.event ∈ s.queue.submitted ∧ r.event.handleTime ≤ r.time := by
  refine ⟨_, rfl, by decide, (processed_on_time 0 (twoSubmits []) _ rfl (by decide)).2⟩

/-- The first event is removed in between, and its task processes the other one. -/
theorem removed_event_processes_next_early :
    ∃ s, runLabels step (State.init 0) (twoSubmits [.removeEvent 1]) = some s ∧
      s.queue.undefinedRead = false ∧
      ∃ r ∈ s.processed, r.event.handleTime = 100000000000 ∧ r.time = 1000001000 := by
  refine ⟨_, rfl, by decide, ?_⟩
  decide

/-! ## Every event once -/

/-- The event that the next step hands to its owner. -/
def Pc.held : Pc → List Event
  | .processEvent _ event _ => (event.filter Event.owner).toList
  | _ => []

def State.delivered (s : State) : List Event :=
  s.processed.map ProcessCall.event ++ s.threads.flatMap (·.pc.held)

theorem popped_popEvent (h : (s.queue.popEvent s.now).1 = some e) :
    (s.queue.popEvent s.now).2.popped = s.queue.popped ++ [e] := by
  unfold Queue.popEvent at h ⊢
  split at h
  next => cases h
  next =>
    cases h
    simp [Queue.popped]

theorem Advanced.count_held {pc pc' : Pc} (h : Advanced s curFirst pc s' pc') (e : Event) :
    (s'.processed.map ProcessCall.event).count e + pc'.held.count e +
        (s.queue.popped.filter Event.owner).count e =
      (s.processed.map ProcessCall.event).count e + pc.held.count e +
        (s'.queue.popped.filter Event.owner).count e := by
  cases h with
  | popLast hne hp he | popNext hne hp hm =>
    rw [popped_popEvent hp, filter_append, count_append]
    simp only [Pc.held, Option.filter_some, filter_cons, filter_nil]
    split <;> simp; omega
  | processEvent queueId event isNeedSubmit =>
    cases isNeedSubmit <;> cases hf : event.filter Event.owner <;>
      simp [State.processEvent, Pc.held, hf]
  | compareCurHandleTime handleTime | compareHandleTime curHandleTime hr =>
    unfold afterCompare
    split <;> rfl
  | checkQueueId | getHandleTime queueId hr => split <;> rfl
  | clearCurrentTask =>
    unfold State.clearCurrentTask
    split <;> rfl
  | submitToFFRT queueId handleTime delayTime =>
    unfold State.submitToFFRT
    split <;> rfl
  | _ => rfl

theorem Stepped.delivered (h : Stepped s l s')
    (hd : s.delivered.Perm (s.queue.popped.filter Event.owner)) :
    s'.delivered.Perm (s'.queue.popped.filter Event.owner) := by
  rw [perm_iff_count] at hd ⊢
  intro e
  have he := hd e
  rw [State.delivered, count_append] at he ⊢
  cases h with
  | submit event priority =>
    rw [count_flatMap_append _ _ _ _ rfl]
    cases event <;> exact he
  | start hm ht =>
    rw [count_flatMap_append _ _ _ _ rfl]
    exact he
  | @thread i t _ _ pc hg ha =>
    have hst := count_flatMap_set (·.pc.held) e { t with pc } hg
    have hc := ha.count_held e
    dsimp only at hst ⊢
    omega
  | _ => exact he

instance (s : State) (l : Label) : Decidable (l.Defined s) := by
  unfold Label.Defined
  split <;> infer_instance

/-- **Every event once**, whatever the threads do: the popped events that have an owner are those
processed and those in the hands of a body, and none of these is queued, removed or there twice. -/
theorem processed_once (now : Int) (ls : List Label) (s : State)
    (hrun : runLabels step (State.init now) ls = some s)
    (hdefined : StepsMeet step (fun s l => l.Defined s) (State.init now) ls) :
    s.delivered.Perm (s.queue.popped.filter Event.owner) ∧
      (s.queue.lists.queued ++ (s.delivered ++ s.queue.removed)).Nodup := by
  obtain ⟨hin, hd⟩ := @invariant_run _ _ _ _
    (fun s : State => Inv s.queue ∧ s.delivered.Perm (s.queue.popped.filter Event.owner))
    (fun h hdf hs => ⟨(step_stepped hs).inv h.1 hdf, (step_stepped hs).delivered h.2⟩)
    ls _ _ ⟨inv_init, .refl _⟩ hdefined hrun
  have hsub : s.delivered <+~ s.queue.popped := hd.subperm.trans filter_sublist.subperm
  obtain ⟨_, hp, hsl⟩ := (subperm_append_left s.queue.lists.queued).2
    ((subperm_append_right s.queue.removed).2 hsub)
  exact ⟨hd, hp.nodup_iff.1 (hsl.nodup (hin.ledger.nodup_iff.2 hin.nodup))⟩

theorem processed_once_twoSubmits :
    ∃ s, runLabels step (State.init 0) (twoSubmits [.removeEvent 1]) = some s ∧
      s.delivered.Perm (s.queue.popped.filter Event.owner) :=
  ⟨_, rfl, (processed_once 0 (twoSubmits [.removeEvent 1]) _ rfl (by decide)).1⟩

end TelephonyCore.EventQueue
