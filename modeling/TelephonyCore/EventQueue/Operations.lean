import Mathlib
import TelephonyCore.EventQueue.EventLists

/-!
# `TelEventQueue`: the operations on the lists, and their history

Everything `TelEventQueue` does to `eventLists_` happens in five sections under `eventCtx_`:
`InsertEventsInner`, `RemoveEvent`, `RemoveAllEvents`, `PopEvent` and the reading `GetHandleTime`.
Here they are steps, in any order and with any clock, that record what was submitted, popped and
removed. If the list that `GetPriorityIndex` names is empty, the read has no defined result: it is
recorded and the lists are left alone.

The accounting is one permutation (`Inv.ledger`): queued, popped and removed events together are the
submitted ones.
-/

namespace TelephonyCore.EventQueue

open Lib List EventLists

inductive Cause where
  | removeEvent (innerEventId : UInt32)
  | removeAllEvents
deriving DecidableEq

/-- A removed event, why, and how many had been submitted by then. -/
structure Removal where
  event : Event
  cause : Cause
  submittedBefore : Nat

/-- The clock it read, the lists it found and the event it took, if the list was not empty. -/
structure PopRecord where
  now : Int
  lists : EventLists
  event : Option Event

structure Queue where
  lists : EventLists := fun _ => []
  submitted : List Event := []
  pops : List PopRecord := []
  removals : List Removal := []
  undefinedRead : Bool := false

namespace Queue

def popped (q : Queue) : List Event := q.pops.filterMap PopRecord.event

def removed (q : Queue) : List Event := q.removals.map Removal.event

def numbered (q : Queue) (event : Event) : Event := { event with seq := q.submitted.length }

def insertEventsInner (q : Queue) (event : Option Event) (priority : Priority) : Queue :=
  match event with
  | none => q
  | some event =>
    { q with
      lists := q.lists.insert (q.numbered event) priority
      submitted := q.submitted ++ [q.numbered event] }

def remove (q : Queue) (filter : Event → Bool) (cause : Cause) : Queue :=
  { q with
    lists := q.lists.removeIf filter
    removals := q.removals
      ++ (q.lists.queued.filter filter).map (fun e => ⟨e, cause, q.submitted.length⟩) }

def removeEvent (q : Queue) (innerEventId : UInt32) : Queue :=
  q.remove (fun e => e.innerEventId == innerEventId) (.removeEvent innerEventId)

def removeAllEvents (q : Queue) : Queue := q.remove (fun _ => true) .removeAllEvents

def popEvent (q : Queue) (now : Int) : Option Event × Queue :=
  match q.lists.selected now with
  | none =>
    (none, { q with undefinedRead := true, pops := q.pops ++ [⟨now, q.lists, none⟩] })
  | some event =>
    (some event, { q with
      lists := q.lists.popFront (q.lists.getPriorityIndex now)
      pops := q.pops ++ [⟨now, q.lists, some event⟩] })

/-- No time where it reads the front of an empty list. -/
def getHandleTime (q : Queue) (now : Int) : Option Int :=
  if q.lists.isEmpty then some timePointMax
  else (q.lists.selected now).map Event.handleTime

end Queue

/-- A section under `eventCtx_`. A pop carries whether its queue id is current. -/
inductive Op where
  | insertEventsInner (event : Option Event) (priority : Priority)
  | removeEvent (innerEventId : UInt32)
  | removeAllEvents
  | popEvent (now : Int) (current : Bool)
  | getHandleTime (now : Int)

def Queue.apply (q : Queue) : Op → Queue
  | .insertEventsInner event priority => q.insertEventsInner event priority
  | .removeEvent innerEventId => q.removeEvent innerEventId
  | .removeAllEvents => q.removeAllEvents
  | .popEvent now current => if q.lists.isEmpty ∨ !current then q else (q.popEvent now).2
  | .getHandleTime now =>
    if (q.getHandleTime now).isNone then { q with undefinedRead := true } else q

def Queue.step (q : Queue) (op : Op) : Option Queue := some (q.apply op)

/-- The front that is read exists. -/
def Op.Defined (q : Queue) : Op → Prop
  | .popEvent now true => q.lists.isEmpty = true ∨ q.lists.Selectable now
  | .getHandleTime now => q.lists.isEmpty = true ∨ q.lists.Selectable now
  | _ => True

instance (q : Queue) (op : Op) : Decidable (op.Defined q) := by
  unfold Op.Defined
  split <;> infer_instance

/-! ## Moving events between the lists and the history -/

variable {e : Event} {now : Int}

theorem queued_update_perm (lists : EventLists) (p : TelPriority) {l : List Event}
    (h : l.Perm (e :: lists p)) :
    (EventLists.queued (Function.update lists p l)).Perm (e :: lists.queued) := by
  rw [perm_iff_count]
  intro a
  have hc := h.count_eq a
  rw [count_cons] at hc ⊢
  unfold queued TelPriority.all
  cases p <;> simp [Function.update] at hc ⊢ <;> omega

theorem queued_insert_perm (lists : EventLists) (e : Event) (priority : Priority) :
    (lists.insert e priority).queued.Perm (e :: lists.queued) :=
  queued_update_perm lists _ (enqueue_perm e _)

theorem queued_popFront_perm {lists : EventLists} {p : TelPriority} (h : (lists p).head? = some e) :
    lists.queued.Perm (e :: (lists.popFront p).queued) := by
  have hc : lists p = e :: (lists p).tail := by
    cases hl : lists p with
    | nil =>
      rw [hl] at h
      cases h
    | cons x l =>
      rw [hl] at h
      cases h
      rfl
  have hb : Function.update (lists.popFront p) p (lists p) = lists := by
    unfold popFront
    rw [Function.update_idem, Function.update_eq_self]
  have hs : (lists.popFront p) p = (lists p).tail := Function.update_self ..
  have hp : (lists p).Perm (e :: (lists.popFront p) p) := by
    rw [hs, ← hc]
  have hmv := queued_update_perm (lists.popFront p) p hp
  rwa [hb] at hmv

theorem queued_removeIf_perm (lists : EventLists) (filter : Event → Bool) :
    ((lists.removeIf filter).queued ++ lists.queued.filter filter).Perm lists.queued := by
  have hq : (lists.removeIf filter).queued = lists.queued.filter (fun e => !filter e) := by
    unfold queued removeIf
    rw [filter_flatMap]
  rw [hq]
  exact (perm_append_comm).trans (filter_append_perm filter lists.queued)

theorem queued_remove_subset (q : Queue) (filter : Event → Bool) (cause : Cause) :
    (q.remove filter cause).lists.queued ⊆ q.lists.queued := fun _ he =>
  (queued_removeIf_perm q.lists filter).mem_iff.1 (mem_append_left _ he)

theorem queued_popEvent_subset (q : Queue) (now : Int) :
    (q.popEvent now).2.lists.queued ⊆ q.lists.queued := by
  unfold Queue.popEvent
  split
  next => exact .refl _
  next e he => exact fun _ he' => (queued_popFront_perm he).mem_iff.2 (mem_cons_of_mem _ he')

/-! ## The invariant -/

/-- A removal is of the event it was asked for, and after its submission. -/
def Removal.Justified (r : Removal) : Prop :=
  r.event.seq < r.submittedBefore ∧
    match r.cause with
    | .removeEvent innerEventId => r.event.innerEventId = innerEventId
    | .removeAllEvents => True

def PopRecord.Right (r : PopRecord) : Prop :=
  ∃ e, r.event = some e ∧ r.lists.RightChoice r.now e

structure Inv (q : Queue) : Prop where
  sorted : q.lists.Sorted
  ledger : (q.lists.queued ++ (q.popped ++ q.removed)).Perm q.submitted
  numbered : q.submitted.map Event.seq = List.range q.submitted.length
  pops : ∀ r ∈ q.pops, r.Right
  removals : ∀ r ∈ q.removals, r.Justified
  defined : q.undefinedRead = false

variable {q : Queue}

theorem Inv.seq_lt (h : Inv q) (he : e ∈ q.lists.queued) : e.seq < q.submitted.length := by
  have hs : e ∈ q.submitted := h.ledger.mem_iff.1 (mem_append_left _ he)
  have : e.seq ∈ q.submitted.map Event.seq := mem_map_of_mem hs
  rw [h.numbered] at this
  exact mem_range.1 this

theorem inv_insertEventsInner (h : Inv q) (event : Option Event) (priority : Priority) :
    Inv (q.insertEventsInner event priority) := by
  cases event with
  | none => exact h
  | some event =>
    refine ⟨?_, ?_, ?_, h.pops, h.removals, h.defined⟩
    · intro p
      show (Function.update q.lists _ _ p).Pairwise _
      by_cases hp : p = toTelPriority priority
      · rw [hp, Function.update_self]
        refine pairwise_enqueue (h.sorted _) (fun y hy => ?_)
        exact h.seq_lt (mem_queued.2 ⟨_, hy⟩)
      · rw [Function.update_of_ne hp]
        exact h.sorted p
    · have hin := queued_insert_perm q.lists (q.numbered event) priority
      have hm := (hin.append_right (q.popped ++ q.removed)).trans (h.ledger.cons _)
      exact hm.trans (perm_append_singleton _ _).symm
    · show (q.submitted ++ [_]).map Event.seq = .range (q.submitted ++ [_]).length
      rw [map_append, h.numbered, length_append, length_singleton, range_succ]
      rfl

theorem inv_remove (h : Inv q) {filter : Event → Bool} {cause : Cause}
    (hcs : ∀ e, filter e → e.seq < q.submitted.length →
      Removal.Justified ⟨e, cause, q.submitted.length⟩) : Inv (q.remove filter cause) := by
  refine ⟨?_, ?_, h.numbered, h.pops, ?_, h.defined⟩
  · intro p
    exact (h.sorted p).filter _
  · have hrm : (q.remove filter cause).removed = q.removed ++ q.lists.queued.filter filter := by
      unfold Queue.removed Queue.remove
      rw [map_append, map_map]
      exact congrArg (_ ++ ·) (map_id _)
    have hp : (q.remove filter cause).popped = q.popped := rfl
    rw [hrm, hp]
    refine .trans ?_ h.ledger
    rw [perm_iff_count]
    intro a
    have hcn := (queued_removeIf_perm q.lists filter).count_eq a
    show List.count a ((q.lists.removeIf filter).queued ++ _) = _
    simp only [count_append] at hcn ⊢
    omega
  · intro r hr
    rcases mem_append.1 hr with hr | hr
    · exact h.removals r hr
    · obtain ⟨e, he, rfl⟩ := mem_map.1 hr
      obtain ⟨hm, hf⟩ := mem_filter.1 he
      exact hcs e hf (h.seq_lt hm)

theorem inv_removeEvent (h : Inv q) (innerEventId : UInt32) : Inv (q.removeEvent innerEventId) :=
  inv_remove h (fun _ he hlt => ⟨hlt, eq_of_beq he⟩)

theorem inv_removeAllEvents (h : Inv q) : Inv q.removeAllEvents :=
  inv_remove h (fun _ _ hlt => ⟨hlt, trivial⟩)

theorem inv_popEvent (h : Inv q) (hs : q.lists.Selectable now) : Inv (q.popEvent now).2 := by
  obtain ⟨e, he, hrg⟩ := selected_spec h.sorted hs
  unfold Queue.popEvent
  rw [he]
  refine ⟨?_, ?_, h.numbered, ?_, h.removals, h.defined⟩
  · intro p
    show (Function.update q.lists _ _ p).Pairwise _
    by_cases hp : p = q.lists.getPriorityIndex now
    · rw [hp, Function.update_self]
      exact (h.sorted _).tail
    · rw [Function.update_of_ne hp]
      exact h.sorted p
  · have hpp : .filterMap PopRecord.event (q.pops ++ [⟨now, q.lists, some e⟩])
        = q.popped ++ [e] := by
      rw [filterMap_append]
      rfl
    show List.Perm ((q.lists.popFront _).queued ++ (.filterMap _ _ ++ q.removed)) _
    rw [hpp]
    refine .trans ?_ h.ledger
    rw [perm_iff_count]
    intro a
    have hc := (queued_popFront_perm he).count_eq a
    simp only [count_append, count_cons, count_nil] at hc ⊢
    omega
  · intro r hr
    rcases mem_append.1 hr with hr | hr
    · exact h.pops r hr
    · rw [mem_singleton.1 hr]
      exact ⟨e, rfl, hrg⟩

theorem popEvent_spec (h : Inv q) (hs : q.lists.Selectable now) :
    ∃ e ∈ q.lists.queued, (q.popEvent now).1 = some e ∧ q.lists.RightChoice now e := by
  obtain ⟨e, he, hr⟩ := selected_spec h.sorted hs
  refine ⟨e, ?_, ?_, hr⟩
  · exact mem_queued.2 ⟨_, mem_of_mem_head? he⟩
  · unfold Queue.popEvent
    rw [he]

theorem getHandleTime_spec (h : Inv q) (hdf : q.lists.isEmpty ∨ q.lists.Selectable now) :
    ∃ t, q.getHandleTime now = some t ∧ ∀ e ∈ q.lists.queued, t ≤ max now e.handleTime := by
  unfold Queue.getHandleTime
  by_cases hem : q.lists.isEmpty
  · rw [if_pos hem]
    refine ⟨_, rfl, fun e he => ?_⟩
    rw [isEmpty_iff.1 hem] at he
    exact absurd he (not_mem_nil)
  · rw [if_neg hem]
    rcases hdf with hem' | hs
    · exact absurd hem' hem
    · obtain ⟨e, he, hr⟩ := selected_spec h.sorted hs
      rw [he]
      exact ⟨_, rfl, fun e' he' => hr.le h.sorted he'⟩

theorem inv_apply {q' : Queue} {op : Op} (h : Inv q) (hop : op.Defined q)
    (hst : q.step op = some q') : Inv q' := by
  cases hst
  cases op with
  | insertEventsInner event priority => exact inv_insertEventsInner h event priority
  | removeEvent innerEventId => exact inv_removeEvent h innerEventId
  | removeAllEvents => exact inv_removeAllEvents h
  | popEvent now current =>
    rw [Queue.apply]
    by_cases hgd : q.lists.isEmpty ∨ !current
    · rw [if_pos hgd]
      exact h
    · rw [if_neg hgd]
      rw [not_or] at hgd
      cases current with
      | false => exact absurd rfl hgd.2
      | true =>
        rcases hop with he | hsl
        · exact absurd he hgd.1
        · exact inv_popEvent h hsl
  | getHandleTime now =>
    rw [Queue.apply]
    obtain ⟨t, ht, -⟩ := getHandleTime_spec h hop
    rw [ht]
    exact h

theorem inv_init : Inv {} where
  sorted _ := .nil
  ledger := by decide
  numbered := rfl
  pops := by simp
  removals := by simp
  defined := rfl

/-! ## What the history says -/

structure Correct (q : Queue) : Prop where
  /-- non-decreasing handle times, submission order among equal ones -/
  sorted : ∀ p, (q.lists p).Pairwise (fun a b =>
    a.handleTime < b.handleTime ∨ (a.handleTime = b.handleTime ∧ a.seq < b.seq))
  /-- queued once, popped once, or removed once, and never two of these -/
  once : ∀ e ∈ q.submitted, (q.lists.queued.count e = 1 ∧ e ∉ q.popped ∧ e ∉ q.removed) ∨
    (e ∉ q.lists.queued ∧ q.popped.count e = 1 ∧ e ∉ q.removed) ∨
    (e ∉ q.lists.queued ∧ e ∉ q.popped ∧ q.removed.count e = 1)
  pops : ∀ r ∈ q.pops, r.Right
  removals : ∀ r ∈ q.removals, r.Justified

theorem Inv.nodup (h : Inv q) : q.submitted.Nodup := by
  apply List.Nodup.of_map Event.seq
  rw [h.numbered]
  exact nodup_range

theorem Inv.correct (h : Inv q) : Correct q := { h with
  once := by
    intro e he
    have ho : (q.lists.queued ++ (q.popped ++ q.removed)).count e = 1 := by
      rw [h.ledger.count_eq]
      exact count_eq_one_of_mem h.nodup he
    simp only [count_append] at ho
    simp only [← count_eq_zero]
    omega }

/-- **The event lists over whole histories.** After any operations whose reads all find a front, the
queue is correct and no front of an empty list has been read. -/
theorem history_correct (ops : List Op) (q : Queue) (hrun : runLabels Queue.step {} ops = some q)
    (hdefined : StepsMeet Queue.step (fun q op => op.Defined q) {} ops) :
    Correct q ∧ q.undefinedRead = false := by
  have hin := invariant_run (fun h hop hs => inv_apply h hop hs) ops inv_init hdefined hrun
  exact ⟨hin.correct, hin.defined⟩

def sampleOps : List Op :=
  [.insertEventsInner (some ⟨1, 5, true, 0, by decide⟩) .other,
    .insertEventsInner (some ⟨2, 5, true, 0, by decide⟩) .other,
    .insertEventsInner (some ⟨3, 9, true, 0, by decide⟩) .IMMEDIATE,
    .getHandleTime 0, .popEvent 6 true, .removeEvent 2, .popEvent 9 true]

theorem history_correct_sampleOps :
    ∃ q, runLabels Queue.step {} sampleOps = some q ∧ q.popped.map Event.innerEventId = [1, 3] ∧
      Correct q := by
  refine ⟨_, rfl, by decide, (history_correct sampleOps _ rfl (by decide)).1⟩

/-- An event at `TimePoint::max()` in the list of low priority: `PopEvent` takes the
front of the empty list with index 0. -/
theorem popEvent_at_max_incorrect :
    ∃ q, runLabels Queue.step {}
        [.insertEventsInner (some ⟨1, timePointMax, true, 0, le_refl _⟩) .other,
          .popEvent 0 true] = some q ∧
      q.popped = [] ∧ q.undefinedRead = true ∧ ¬ Correct q := by
  refine ⟨_, rfl, by decide, by decide, fun h => ?_⟩
  obtain ⟨e, he, -⟩ := h.pops _ (mem_singleton.2 rfl)
  cases he

end TelephonyCore.EventQueue
