import TelephonyCore.EventQueue.Operations

/-!
# `TelEventQueue`: the threads that use it

The lists are shared by the callers and the bodies of the tasks that the queue hands to ffrt. Every
section under a mutex, every access to the atomic `queueId_` and the reading of the clock in
`SubmitInner` is one step, and the steps of different threads come in any order.

What is assumed about the outside is in `step`: the clock does not go back and stays below
`TimePoint::max()`; ffrt starts a task not before its start time, starts no task while the body of
another runs, and `cancel` removes a task that has not started. A read of the front of an empty list
ends the run, since it is not defined.
-/

namespace TelephonyCore.EventQueue

open Lib

structure Task where
  number : Nat
  queueId : Int32
  startTime : Int
deriving DecidableEq

/-- What a thread does next. `Submit` runs from `inserted` and a task body from
`popEvent`; both end in `SubmitInner`, which starts at `getHandleTime`. -/
inductive Pc where
  | inserted
  | gotHandleTime (handleTime : Int)
  | gotCurHandleTime (curHandleTime : Int)
  | checkQueueId
  | resetQueueId
  | nextQueueId
  | clearCurrentTask
  | loadQueueId
  | popEvent (queueId : Int32)
  | processEvent (queueId : Int32) (event : Option Event) (isNeedSubmit : Bool)
  | getHandleTime (queueId : Int32)
  | readClock (queueId : Int32) (handleTime : Int)
  | submitToFFRT (queueId : Int32) (handleTime delayTime : Int)
  | returned
deriving DecidableEq

inductive Job where
  | submit (event : Option Event)
  | task
deriving DecidableEq

structure Thread where
  job : Job
  pc : Pc
deriving DecidableEq

structure ProcessCall where
  event : Event
  time : Int

structure State where
  queue : Queue := {}
  curHandleTime : Int := timePointMax
  queueId : Int32 := 0
  curTask : Option Nat := none
  pending : List Task := []
  taskCount : Nat := 0
  threads : List Thread := []
  processed : List ProcessCall := []
  now : Int

def State.init (now : Int) : State := { now }

/-! ## The sections -/

def State.getHandleTime (s : State) : Option Int := s.queue.getHandleTime s.now

def State.clearCurrentTask (s : State) : State :=
  match s.curTask with
  | none => s
  | some number =>
    { s with pending := s.pending.filter (fun t => t.number != number), curTask := none }

/-- `duration_cast` to microseconds, on a clock of nanoseconds. -/
def delayTime (handleTime now : Int) : Int :=
  if handleTime > now then (handleTime - now) / 1000 else 0

def State.submitToFFRT (s : State) (queueId : Int32) (handleTime delayTime : Int) : State :=
  if queueId ≠ s.queueId then { s with curHandleTime := timePointMax }
  else
    { s with
      curHandleTime := handleTime
      pending := s.pending ++ [⟨s.taskCount, queueId, s.now + 1000 * delayTime⟩]
      curTask := some s.taskCount
      taskCount := s.taskCount + 1 }

/-- `PopEvent` with `isNeedSubmit`; nothing when the front of an empty list is read. -/
def State.popEvent (s : State) (queueId : Int32) : Option (Option Event × Bool × State) :=
  if s.queue.lists.isEmpty ∨ queueId ≠ s.queueId then
    some (none, false, { s with curHandleTime := timePointMax })
  else
    match s.queue.popEvent s.now with
    | (none, _) => none
    | (some event, queue) =>
      if queue.lists.isEmpty then
        some (some event, false, { s with queue, curHandleTime := timePointMax })
      else some (some event, true, { s with queue })

def State.processEvent (s : State) (event : Option Event) : State :=
  { s with
    processed := s.processed ++ ((event.filter Event.owner).map (⟨·, s.now⟩)).toList }

/-- `Submit` goes on only if `GetHandleTime() < GetCurHandleTime()`. -/
def afterCompare (handleTime curHandleTime : Int) : Pc :=
  if handleTime < curHandleTime then .checkQueueId else .returned

/-- The next step of a thread. The operands of the comparison in `Submit` may be read in either
order; `curFirst` says in which. -/
def advance (s : State) (curFirst : Bool) : Pc → Option (State × Pc)
  | .inserted =>
    if curFirst then some (s, .gotCurHandleTime s.curHandleTime)
    else s.getHandleTime.map (fun handleTime => (s, .gotHandleTime handleTime))
  | .gotHandleTime handleTime => some (s, afterCompare handleTime s.curHandleTime)
  | .gotCurHandleTime curHandleTime =>
    s.getHandleTime.map (fun handleTime => (s, afterCompare handleTime curHandleTime))
  | .checkQueueId =>
    some (s, if s.queueId ≥ Int32.maxValue then .resetQueueId else .nextQueueId)
  | .resetQueueId => some ({ s with queueId := 1 }, .nextQueueId)
  | .nextQueueId => some ({ s with queueId := s.queueId + 1 }, .clearCurrentTask)
  | .clearCurrentTask => some (s.clearCurrentTask, .loadQueueId)
  | .loadQueueId => some (s, .getHandleTime s.queueId)
  | .popEvent queueId =>
    (s.popEvent queueId).map (fun (event, isNeedSubmit, s') =>
      (s', .processEvent queueId event isNeedSubmit))
  | .processEvent queueId event isNeedSubmit =>
    some (s.processEvent event, if isNeedSubmit then .getHandleTime queueId else .returned)
  | .getHandleTime queueId =>
    s.getHandleTime.map (fun handleTime =>
      -- no task when there is nothing to wait for
      (s, if handleTime = timePointMax then .returned else .readClock queueId handleTime))
  | .readClock queueId handleTime =>
    some (s, .submitToFFRT queueId handleTime (delayTime handleTime s.now))
  | .submitToFFRT queueId handleTime delayTime =>
    some (s.submitToFFRT queueId handleTime delayTime, .returned)
  | .returned => some (s, .returned)

/-! ## The machine -/

inductive Label where
  | tick (now : Int)
  | submit (event : Option Event) (priority : Priority)
  | removeEvent (innerEventId : UInt32)
  | removeAllEvents
  | start (task : Task)
  | thread (i : Nat) (curFirst : Bool)

def State.taskRunning (s : State) : Bool :=
  s.threads.any (fun t => t.job == .task && t.pc != .returned)

def step (s : State) (l : Label) : Option State :=
  if s.queue.undefinedRead then none
  else
    match l with
    | .tick now => if s.now ≤ now ∧ now < timePointMax then some { s with now } else none
    | .submit event priority =>
      some { s with
        queue := s.queue.insertEventsInner event priority
        threads := s.threads ++ [⟨.submit (event.map s.queue.numbered), .inserted⟩] }
    | .removeEvent innerEventId =>
      let queue := s.queue.removeEvent innerEventId
      some { s with
        queue
        curHandleTime := if queue.lists.isEmpty then timePointMax else s.curHandleTime }
    | .removeAllEvents =>
      some { s with queue := s.queue.removeAllEvents, curHandleTime := timePointMax }
    | .start task =>
      if task ∈ s.pending ∧ task.startTime ≤ s.now ∧ !s.taskRunning then
        some { s with
          pending := s.pending.erase task
          threads := s.threads ++ [⟨.task, .popEvent task.queueId⟩] }
      else none
    | .thread i curFirst =>
      match s.threads[i]? with
      | none => none
      | some t =>
        if t.pc = .returned then none
        else
          match advance s curFirst t.pc with
          | none => some { s with queue := { s.queue with undefinedRead := true } }
          | some (s', pc) => some { s' with threads := s.threads.set i { t with pc } }

def State.Quiet (s : State) : Prop := ∀ t ∈ s.threads, t.pc = .returned

/-! ## What a step can do -/

inductive Advanced (s : State) : Bool → Pc → State → Pc → Prop
  | readCurHandleTime :
    Advanced s true .inserted s (.gotCurHandleTime s.curHandleTime)
  | readHandleTime {handleTime : Int} (hread : s.getHandleTime = some handleTime) :
    Advanced s false .inserted s (.gotHandleTime handleTime)
  | compareCurHandleTime {curFirst : Bool} (handleTime : Int) :
    Advanced s curFirst (.gotHandleTime handleTime) s (afterCompare handleTime s.curHandleTime)
  | compareHandleTime {curFirst : Bool} (curHandleTime : Int) {handleTime : Int}
      (hread : s.getHandleTime = some handleTime) :
    Advanced s curFirst (.gotCurHandleTime curHandleTime) s (afterCompare handleTime curHandleTime)
  | checkQueueId {curFirst : Bool} : Advanced s curFirst .checkQueueId s
      (if s.queueId ≥ Int32.maxValue then .resetQueueId else .nextQueueId)
  | resetQueueId {curFirst : Bool} :
    Advanced s curFirst .resetQueueId { s with queueId := 1 } .nextQueueId
  | nextQueueId {curFirst : Bool} :
    Advanced s curFirst .nextQueueId { s with queueId := s.queueId + 1 } .clearCurrentTask
  | clearCurrentTask {curFirst : Bool} :
    Advanced s curFirst .clearCurrentTask s.clearCurrentTask .loadQueueId
  | loadQueueId {curFirst : Bool} :
    Advanced s curFirst .loadQueueId s (.getHandleTime s.queueId)
  | popNothing {curFirst : Bool} {queueId : Int32}
      (hguard : s.queue.lists.isEmpty = true ∨ queueId ≠ s.queueId) :
    Advanced s curFirst (.popEvent queueId) { s with curHandleTime := timePointMax }
      (.processEvent queueId none false)
  | popLast {curFirst : Bool} {event : Event} (hne : s.queue.lists.isEmpty = false)
      (hpop : (s.queue.popEvent s.now).1 = some event)
      (hempty : (s.queue.popEvent s.now).2.lists.isEmpty = true) :
    Advanced s curFirst (.popEvent s.queueId)
      { s with queue := (s.queue.popEvent s.now).2, curHandleTime := timePointMax }
      (.processEvent s.queueId (some event) false)
  | popNext {curFirst : Bool} {event : Event} (hne : s.queue.lists.isEmpty = false)
      (hpop : (s.queue.popEvent s.now).1 = some event)
      (hmore : (s.queue.popEvent s.now).2.lists.isEmpty = false) :
    Advanced s curFirst (.popEvent s.queueId) { s with queue := (s.queue.popEvent s.now).2 }
      (.processEvent s.queueId (some event) true)
  | processEvent {curFirst : Bool} (queueId : Int32) (event : Option Event)
      (isNeedSubmit : Bool) :
    Advanced s curFirst (.processEvent queueId event isNeedSubmit) (s.processEvent event)
      (if isNeedSubmit then .getHandleTime queueId else .returned)
  | getHandleTime {curFirst : Bool} (queueId : Int32) {handleTime : Int}
      (hread : s.getHandleTime = some handleTime) :
    Advanced s curFirst (.getHandleTime queueId) s
      (if handleTime = timePointMax then .returned else .readClock queueId handleTime)
  | readClock {curFirst : Bool} (queueId : Int32) (handleTime : Int) :
    Advanced s curFirst (.readClock queueId handleTime) s
      (.submitToFFRT queueId handleTime (delayTime handleTime s.now))
  | submitToFFRT {curFirst : Bool} (queueId : Int32) (handleTime delayTime : Int) :
    Advanced s curFirst (.submitToFFRT queueId handleTime delayTime)
      (s.submitToFFRT queueId handleTime delayTime) .returned
  | returned {curFirst : Bool} : Advanced s curFirst .returned s .returned

variable {s s' : State} {curFirst : Bool}

theorem popEvent_advanced {queueId : Int32} {event : Option Event} {isNeedSubmit : Bool}
    (h : s.popEvent queueId = some (event, isNeedSubmit, s')) :
    Advanced s curFirst (.popEvent queueId) s' (.processEvent queueId event isNeedSubmit) := by
  unfold State.popEvent at h
  split at h
  next hgd =>
    obtain ⟨rfl, rfl, rfl⟩ : none = event ∧ false = isNeedSubmit ∧ _ = s' := by simpa using h
    exact .popNothing hgd
  next hgd =>
    rw [not_or, Bool.not_eq_true, ne_eq, not_not] at hgd
    obtain ⟨hne, rfl⟩ := hgd
    split at h
    next => cases h
    next e queue hp =>
      have hev : (s.queue.popEvent s.now).1 = some e := congrArg Prod.fst hp
      obtain rfl : (s.queue.popEvent s.now).2 = queue := congrArg Prod.snd hp
      split at h
      next hem =>
        obtain ⟨rfl, rfl, rfl⟩ : some e = event ∧ false = isNeedSubmit ∧ _ = s' := by simpa using h
        exact .popLast hne hev hem
      next hm =>
        obtain ⟨rfl, rfl, rfl⟩ : some e = event ∧ true = isNeedSubmit ∧ _ = s' := by simpa using h
        exact .popNext hne hev (Bool.eq_false_of_not_eq_true hm)

variable {pc pc' : Pc} {l : Label}

theorem advance_advanced (h : advance s curFirst pc = some (s', pc')) :
    Advanced s curFirst pc s' pc' := by
  cases pc with
  | inserted =>
    cases curFirst with
    | true =>
      cases h
      exact .readCurHandleTime
    | false =>
      obtain ⟨handleTime, hr, hpr⟩ := Option.map_eq_some_iff.1 h
      cases hpr
      exact .readHandleTime hr
  | gotCurHandleTime curHandleTime =>
    obtain ⟨handleTime, hr, hpr⟩ := Option.map_eq_some_iff.1 h
    cases hpr
    exact .compareHandleTime curHandleTime hr
  | getHandleTime queueId =>
    obtain ⟨handleTime, hr, hpr⟩ := Option.map_eq_some_iff.1 h
    cases hpr
    exact .getHandleTime queueId hr
  | popEvent queueId =>
    obtain ⟨⟨_, _, _⟩, hpp, hpr⟩ := Option.map_eq_some_iff.1 h
    cases hpr
    exact popEvent_advanced hpp
  | gotHandleTime | checkQueueId | resetQueueId | nextQueueId | clearCurrentTask | loadQueueId |
    processEvent | readClock | submitToFFRT | returned =>
    cases h
    constructor

inductive Stepped (s : State) : Label → State → Prop
  | tick {now : Int} (hle : s.now ≤ now) (hlt : now < timePointMax) :
    Stepped s (.tick now) { s with now }
  | submit (event : Option Event) (priority : Priority) :
    Stepped s (.submit event priority) { s with
      queue := s.queue.insertEventsInner event priority
      threads := s.threads ++ [⟨.submit (event.map s.queue.numbered), .inserted⟩] }
  | removeEvent (innerEventId : UInt32) :
    Stepped s (.removeEvent innerEventId) { s with
      queue := s.queue.removeEvent innerEventId
      curHandleTime := if (s.queue.removeEvent innerEventId).lists.isEmpty
        then timePointMax else s.curHandleTime }
  | removeAllEvents :
    Stepped s .removeAllEvents
      { s with queue := s.queue.removeAllEvents, curHandleTime := timePointMax }
  | start {task : Task} (hmem : task ∈ s.pending) (htime : task.startTime ≤ s.now) :
    Stepped s (.start task) { s with
      pending := s.pending.erase task
      threads := s.threads ++ [⟨.task, .popEvent task.queueId⟩] }
  | thread {i : Nat} {t : Thread} {curFirst : Bool} {s' : State} {pc : Pc}
      (hget : s.threads[i]? = some t) (hadv : Advanced s curFirst t.pc s' pc) :
    Stepped s (.thread i curFirst) { s' with threads := s.threads.set i { t with pc } }
  | undefined {i : Nat} {t : Thread} {curFirst : Bool}
      (hget : s.threads[i]? = some t) (hadv : advance s curFirst t.pc = none) :
    Stepped s (.thread i curFirst) { s with queue := { s.queue with undefinedRead := true } }

theorem step_stepped (h : step s l = some s') : Stepped s l s' := by
  unfold step at h
  split at h
  · cases h
  cases l with
  | tick now =>
    dsimp only at h
    split at h
    next hc =>
      cases h
      exact .tick hc.1 hc.2
    next => cases h
  | submit event priority =>
    cases h
    exact .submit event priority
  | removeEvent innerEventId =>
    cases h
    exact .removeEvent innerEventId
  | removeAllEvents =>
    cases h
    exact .removeAllEvents
  | start task =>
    dsimp only at h
    split at h
    next hr =>
      cases h
      exact .start hr.1 hr.2.1
    next => cases h
  | thread i curFirst =>
    dsimp only at h
    split at h
    next => cases h
    next t hg =>
      split at h
      next => cases h
      next =>
        split at h
        next ha =>
          cases h
          exact .undefined hg ha
        next s₁ pc ha =>
          cases h
          exact .thread hg (advance_advanced ha)

/-! ## What every step keeps -/

theorem Advanced.now_eq (h : Advanced s curFirst pc s' pc') : s'.now = s.now := by
  cases h with
  | clearCurrentTask =>
    unfold State.clearCurrentTask
    split <;> rfl
  | submitToFFRT queueId handleTime delayTime =>
    unfold State.submitToFFRT
    split <;> rfl
  | _ => rfl

theorem Stepped.now_le (h : Stepped s l s') : s.now ≤ s'.now := by
  cases h with
  | tick hle _ => exact hle
  | thread hg ha => exact le_of_eq ha.now_eq.symm
  | _ => exact le_refl _

theorem Advanced.queue_eq (h : Advanced s curFirst pc s' pc') :
    s'.queue = s.queue ∨ (pc = .popEvent s.queueId ∧ s.queue.lists.isEmpty = false ∧
        s'.queue = (s.queue.popEvent s.now).2) := by
  cases h with
  | clearCurrentTask =>
    left
    unfold State.clearCurrentTask
    split <;> rfl
  | submitToFFRT queueId handleTime delayTime =>
    left
    unfold State.submitToFFRT
    split <;> rfl
  | popLast hne hp he | popNext hne hp hm => exact .inr ⟨rfl, hne, rfl⟩
  | _ => exact .inl rfl

/-! ## The lists under the machine -/

/-- A read of the queue finds a front, or that there is none to read. -/
def State.Readable (s : State) : Prop :=
  s.queue.lists.isEmpty = true ∨ s.queue.lists.Selectable s.now

instance (s : State) : Decidable s.Readable := inferInstanceAs (Decidable (_ ∨ _))

/-- Without an event at `TimePoint::max()` every read finds a front. -/
theorem readable_of_finite (h : ∀ e ∈ s.queue.lists.queued, e.handleTime < timePointMax) :
    s.Readable := by
  cases hq : s.queue.lists.queued with
  | nil => exact .inl (EventLists.isEmpty_iff.2 hq)
  | cons e l =>
    have he : e ∈ s.queue.lists.queued := by
      rw [hq]
      exact List.mem_cons_self
    exact .inr (.inr ⟨e, he, .inr (h e he)⟩)

/-- The next step of a thread reads the front of a list. -/
def Pc.reads (s : State) (curFirst : Bool) : Pc → Bool
  | .inserted => !curFirst
  | .gotCurHandleTime _ => true
  | .getHandleTime _ => true
  | .popEvent queueId => queueId == s.queueId
  | _ => false

theorem advance_isSome (hin : Inv s.queue) (hdf : pc.reads s curFirst → s.Readable) :
    advance s curFirst pc ≠ none := by
  have hgt : s.Readable → s.getHandleTime ≠ none := by
    intro hr hnn
    obtain ⟨t, ht, -⟩ := getHandleTime_spec hin hr
    cases ht.symm.trans hnn
  cases pc with
  | inserted =>
    rw [advance]
    cases curFirst with
    | true => simp
    | false => simpa using hgt (hdf rfl)
  | gotCurHandleTime curHandleTime | getHandleTime queueId => simpa [advance] using hgt (hdf rfl)
  | popEvent queueId =>
    simp only [advance]
    unfold State.popEvent
    split
    next => simp
    next hgd =>
      rw [not_or, ne_eq, not_not] at hgd
      obtain ⟨hne, hq⟩ := hgd
      rcases hdf (beq_iff_eq.2 hq) with hem | hs
      · exact absurd hem hne
      · obtain ⟨e, -, hp, -⟩ := popEvent_spec hin hs
        split
        next heq => cases hp.symm.trans (congrArg Prod.fst heq)
        next => split <;> simp
  | _ => simp [advance]

/-- In the state before the step, its reads find a front. -/
def Label.Defined (s : State) : Label → Prop
  | .thread i curFirst => ∀ t ∈ s.threads[i]?, t.pc.reads s curFirst = true → s.Readable
  | _ => True

theorem Stepped.inv (h : Stepped s l s') (hin : Inv s.queue) (hdf : l.Defined s) :
    Inv s'.queue := by
  cases h with
  | tick hle hlt => exact hin
  | submit event priority => exact inv_insertEventsInner hin event priority
  | removeEvent innerEventId => exact inv_removeEvent hin innerEventId
  | removeAllEvents => exact inv_removeAllEvents hin
  | start hm ht => exact hin
  | thread hg had =>
    rcases had.queue_eq with heq | ⟨hpc, hne, heq⟩
    · show Inv _
      rw [heq]
      exact hin
    · show Inv _
      rw [heq]
      have hr := hdf _ hg
      rw [hpc] at hr
      rcases hr (beq_self_eq_true _) with hem | hs
      · cases hem.symm.trans hne
      · exact inv_popEvent hin hs
  | undefined hg had => exact absurd had (advance_isSome hin (hdf _ hg))

/-- What is queued after a step was queued before, or is what the step submits. -/
theorem Stepped.queued_cases {e : Event} (h : Stepped s l s') (he : e ∈ s'.queue.lists.queued) :
    e ∈ s.queue.lists.queued ∨
      ∃ event priority, l = .submit (some event) priority ∧ e = s.queue.numbered event := by
  cases h with
  | submit event priority =>
    cases event with
    | none => exact .inl he
    | some event =>
      rcases List.mem_cons.1 ((queued_insert_perm _ _ priority).mem_iff.1 he) with rfl | ho
      · exact .inr ⟨event, priority, rfl, rfl⟩
      · exact .inl ho
  | removeEvent innerEventId | removeAllEvents => exact .inl (queued_remove_subset _ _ _ he)
  | @thread i t curFirst s₁ pc hg ha =>
    left
    change e ∈ s₁.queue.lists.queued at he
    rcases ha.queue_eq with heq | ⟨-, -, heq⟩
    · rwa [heq] at he
    · rw [heq] at he
      exact queued_popEvent_subset _ _ he
  | _ => exact .inl he

end TelephonyCore.EventQueue
