import TelephonyCore.Lib.StableQueue
import TelephonyCore.Lib.Transition
import Mathlib.Algebra.Group.Int.Defs

/-!
# `TelEventQueue`: the three event lists

`TelEventQueue` keeps its events in one list for each of three priorities, ordered by handle time.
`GetPriorityIndex` looks for the most urgent list whose front is due, and else for the earliest
front. Its search starts from index 0 and `TimePoint::max()`, so when every front is at
`TimePoint::max()` it names the list with index 0 whether that has a front or not.
-/

namespace TelephonyCore.EventQueue

open Lib List

/-- `InnerEvent::TimePoint::max()`, in ticks of the clock. -/
def timePointMax : Int := 2 ^ 63 - 1

/-- `owner` says whether `GetOwner` still gives a handler; `seq` is the number of the submission. -/
structure Event where
  innerEventId : UInt32
  handleTime : Int
  owner : Bool := true
  seq : Nat := 0
  handleTime_le : handleTime ≤ timePointMax := by decide
deriving DecidableEq

inductive Priority where
  | IMMEDIATE
  | HIGH
  | other
deriving DecidableEq

inductive TelPriority where
  | IMMEDIATE
  | HIGH
  | LOW
deriving DecidableEq

/-- The list indices in the order of the loops over `EVENT_QUEUE_NUM`. -/
def TelPriority.all : List TelPriority := [IMMEDIATE, HIGH, LOW]

def TelPriority.index : TelPriority → Nat
  | IMMEDIATE => 0
  | HIGH => 1
  | LOW => 2

def toTelPriority : Priority → TelPriority
  | .IMMEDIATE => .IMMEDIATE
  | .HIGH => .HIGH
  | .other => .LOW

theorem TelPriority.mem_all (p : TelPriority) : p ∈ TelPriority.all := by
  cases p <;> decide

abbrev EventLists := TelPriority → List Event

variable {ps : List TelPriority} {now wake : Int} {start : TelPriority} {e e' : Event}

namespace EventLists

def isEmpty (lists : EventLists) : Bool := TelPriority.all.all (fun p => (lists p).isEmpty)

def queued (lists : EventLists) : List Event := TelPriority.all.flatMap lists

/-- `InsertEventsInner` for a non-null event: `upper_bound` by handle time. -/
def insert (lists : EventLists) (event : Event) (priority : Priority) : EventLists :=
  Function.update lists (toTelPriority priority)
    (enqueue Event.handleTime event (lists (toTelPriority priority)))

def removeIf (lists : EventLists) (filter : Event → Bool) : EventLists :=
  fun p => (lists p).filter (fun e => !filter e)

/-- The loop of `GetPriorityIndex`. -/
def priorityLoop (lists : EventLists) (now : Int) :
    List TelPriority → Int → TelPriority → TelPriority
  | [], _, priorityIndex => priorityIndex
  | p :: ps, needWakeUpTime, priorityIndex =>
    match (lists p).head? with
    | none => priorityLoop lists now ps needWakeUpTime priorityIndex
    | some front =>
      if front.handleTime ≤ now then p
      else if front.handleTime < needWakeUpTime then priorityLoop lists now ps front.handleTime p
      else priorityLoop lists now ps needWakeUpTime priorityIndex

def getPriorityIndex (lists : EventLists) (now : Int) : TelPriority :=
  priorityLoop lists now TelPriority.all timePointMax .IMMEDIATE

/-- The front `PopEvent` and `GetHandleTime` read; `none` when the list is empty. -/
def selected (lists : EventLists) (now : Int) : Option Event :=
  (lists (lists.getPriorityIndex now)).head?

def popFront (lists : EventLists) (p : TelPriority) : EventLists :=
  Function.update lists p (lists p).tail

/-! ## The selection -/

def Fronts (lists : EventLists) (ps : List TelPriority) (Q : Event → Prop) : Prop :=
  ∀ p ∈ ps, ∀ front, (lists p).head? = some front → Q front

variable {lists : EventLists} {p : TelPriority}

theorem Fronts.cons {Q : Event → Prop} (hp : ∀ front, (lists p).head? = some front → Q front)
    (hps : Fronts lists ps Q) : Fronts lists (p :: ps) Q := by
  intro q hq front hf
  rcases mem_cons.1 hq with rfl | hq
  · exact hp front hf
  · exact hps q hq front hf

/-- The first list whose front is due; or else the earliest front if it beats the bound `wake`; or
what the loop started with. -/
inductive Found (lists : EventLists) (now : Int) (ps : List TelPriority) (wake : Int)
    (start r : TelPriority) : Prop where
  | due (urgent rest : List TelPriority) (front : Event) (split : ps = urgent ++ r :: rest)
      (head : (lists r).head? = some front) (isDue : front.handleTime ≤ now)
      (others : Fronts lists urgent (fun f => now < f.handleTime))
  | earliest (front : Event) (head : (lists r).head? = some front)
      (notDue : Fronts lists ps (fun f => now < f.handleTime)) (beats : front.handleTime < wake)
      (others : Fronts lists ps (fun f => front.handleTime ≤ f.handleTime))
  | start (same : r = start) (notDue : Fronts lists ps (fun f => now < f.handleTime))
      (others : Fronts lists ps (fun f => wake ≤ f.handleTime))

variable {r : TelPriority}

theorem Found.skip (hp : ∀ front, (lists p).head? = some front →
      now < front.handleTime ∧ wake ≤ front.handleTime) (h : Found lists now ps wake start r) :
    Found lists now (p :: ps) wake start r := by
  have hl := fun front hf => (hp front hf).1
  rcases h with ⟨urgent, rest, front, hsp, hh, hdu, ho⟩ |
    ⟨front, hh, hn, hb, ho⟩ | ⟨hsm, hn, ho⟩
  · exact .due (p :: urgent) rest front (congrArg (p :: ·) hsp) hh hdu (.cons hl ho)
  · refine .earliest front hh (.cons hl hn) hb (.cons ?_ ho)
    intro f hf
    exact le_trans (le_of_lt hb) (hp f hf).2
  · exact .start hsm (.cons hl hn) (.cons (fun f hf => (hp f hf).2) ho)

theorem Found.improve {first : Event} (hp : (lists p).head? = some first)
    (hl : now < first.handleTime) (hw : first.handleTime < wake)
    (h : Found lists now ps first.handleTime p r) : Found lists now (p :: ps) wake start r := by
  have hon : ∀ {Q : Event → Prop}, Q first → ∀ front, (lists p).head? = some front → Q front := by
    intro Q hQ front hf
    rw [hp] at hf
    cases hf
    exact hQ
  rcases h with ⟨urgent, rest, front, hs, hh, hdu, hot⟩ |
    ⟨front, hh, hn, hb, hot⟩ | ⟨rfl, hn, hot⟩
  · exact .due (p :: urgent) rest front (congrArg (p :: ·) hs) hh hdu
      (.cons (hon hl) hot)
  · exact .earliest front hh (.cons (hon hl) hn) (lt_trans hb hw)
      (.cons (hon (le_of_lt hb)) hot)
  · exact .earliest first hp (.cons (hon hl) hn) hw (.cons (hon (le_refl _)) hot)

theorem priorityLoop_found (lists : EventLists) (now : Int) :
    ∀ ps wake start, Found lists now ps wake start (priorityLoop lists now ps wake start) := by
  intro ps
  induction ps with
  | nil =>
    intro wake start
    exact .start rfl (by simp [Fronts]) (by simp [Fronts])
  | cons p ps ih =>
    intro wake start
    rw [priorityLoop]
    cases hp : (lists p).head? with
    | none => exact .skip (by simp [hp]) (ih wake start)
    | some first =>
      by_cases hdu : first.handleTime ≤ now
      · simp only [if_pos hdu]
        exact .due [] ps first rfl hp hdu (by simp [Fronts])
      · simp only [if_neg hdu]
        by_cases hw : first.handleTime < wake
        · simp only [if_pos hw]
          exact .improve hp (lt_of_not_ge hdu) hw (ih first.handleTime p)
        · simp only [if_neg hw]
          refine .skip ?_ (ih wake start)
          intro front hf
          rw [hp] at hf
          cases hf
          exact ⟨lt_of_not_ge hdu, le_of_not_gt hw⟩

/-- The list with index 0 has a front, or some list has one that is due or before
`TimePoint::max()`. -/
def Selectable (lists : EventLists) (now : Int) : Prop :=
  lists .IMMEDIATE ≠ [] ∨ ∃ e ∈ lists.queued, e.handleTime ≤ now ∨ e.handleTime < timePointMax

instance (lists : EventLists) (now : Int) : Decidable (Selectable lists now) :=
  inferInstanceAs (Decidable (_ ∨ _))

theorem mem_queued : e ∈ lists.queued ↔ ∃ p, e ∈ lists p := by
  unfold queued
  rw [mem_flatMap]
  exact ⟨fun ⟨p, _, h⟩ => ⟨p, h⟩, fun ⟨p, h⟩ => ⟨p, p.mem_all, h⟩⟩

theorem isEmpty_iff : lists.isEmpty ↔ lists.queued = [] := by
  unfold isEmpty queued
  simp

/-- Lists ordered by handle time, and by submission among equal handle times. -/
def Sorted (lists : EventLists) : Prop :=
  ∀ p, (lists p).Pairwise (InOrder Event.handleTime (fun a b => a.seq < b.seq))

theorem Sorted.front (h : lists.Sorted) (he : e ∈ lists p) :
    ∃ f, (lists p).head? = some f ∧ f.handleTime ≤ e.handleTime := by
  cases hf : (lists p).head? with
  | none =>
    rw [head?_eq_none_iff] at hf
    rw [hf] at he
    cases he
  | some f => exact ⟨f, rfl, head_key_le (h p) hf he⟩

/-- The front of the most urgent list whose front is due, or, when none is, a front with the
smallest handle time. -/
def RightChoice (lists : EventLists) (now : Int) (e : Event) : Prop :=
  ∃ p, (lists p).head? = some e ∧
    ((e.handleTime ≤ now ∧ ∀ q : TelPriority, q.index < p.index →
          ∀ f, (lists q).head? = some f → now < f.handleTime) ∨
      ((∀ q f, (lists q).head? = some f → now < f.handleTime) ∧
        ∀ q f, (lists q).head? = some f → e.handleTime ≤ f.handleTime))

theorem mem_of_index_lt {urgent rest : List TelPriority} {q : TelPriority}
    (h : TelPriority.all = urgent ++ r :: rest) (hq : q.index < r.index) : q ∈ urgent := by
  have hal : q ∈ urgent ++ r :: rest := h ▸ q.mem_all
  have hp : TelPriority.all.Pairwise (fun a b => a.index < b.index) := by decide
  rw [h, pairwise_append] at hp
  rcases mem_append.1 hal with hu | hr
  · exact hu
  · exfalso
    rcases mem_cons.1 hr with rfl | hr
    · omega
    · have := (pairwise_cons.1 hp.2.1).1 q hr
      omega

theorem selected_spec (hsr : lists.Sorted) (h : lists.Selectable now) :
    ∃ e, lists.selected now = some e ∧ lists.RightChoice now e := by
  unfold selected getPriorityIndex
  have hfd := priorityLoop_found lists now TelPriority.all timePointMax .IMMEDIATE
  generalize priorityLoop lists now TelPriority.all timePointMax .IMMEDIATE = r at hfd
  rcases hfd with ⟨_, _, front, hsp, hh, hdu, ho⟩ |
    ⟨front, hh, hn, -, ho⟩ | ⟨rfl, hn, ho⟩
  · refine ⟨front, hh, r, hh, .inl ⟨hdu, ?_⟩⟩
    intro q hq
    exact ho q (mem_of_index_lt hsp hq)
  · exact ⟨front, hh, r, hh, .inr ⟨fun q => hn q q.mem_all, fun q => ho q q.mem_all⟩⟩
  · -- nothing is due and nothing is before the largest time point
    rcases h with him | ⟨e, he, _⟩
    · cases hh : (lists .IMMEDIATE).head? with
      | none => exact absurd (head?_eq_none_iff.1 hh) him
      | some front =>
        refine ⟨front, rfl, .IMMEDIATE, hh, .inr ⟨fun q => hn q q.mem_all, ?_⟩⟩
        intro q f hf
        exact le_trans front.handleTime_le (ho q q.mem_all f hf)
    · obtain ⟨p, hp⟩ := mem_queued.1 he
      obtain ⟨f, hf, _⟩ := hsr.front hp
      have h1 := hn p p.mem_all f hf
      have h2 := ho p p.mem_all f hf
      omega

theorem RightChoice.due (hs : lists.Sorted) (h : lists.RightChoice now e)
    (he' : e' ∈ lists.queued) (hdu : e'.handleTime ≤ now) : e.handleTime ≤ now := by
  obtain ⟨p, -, ⟨hdu', -⟩ | ⟨hn, -⟩⟩ := h
  · exact hdu'
  · obtain ⟨q, hq⟩ := mem_queued.1 he'
    obtain ⟨f, hf, _⟩ := hs.front hq
    have := hn q f hf
    omega

theorem RightChoice.le (hs : lists.Sorted) (h : lists.RightChoice now e)
    (he' : e' ∈ lists.queued) : e.handleTime ≤ max now e'.handleTime := by
  obtain ⟨p, -, ⟨hdu, -⟩ | ⟨-, hm⟩⟩ := h
  · exact le_trans hdu (le_max_left _ _)
  · obtain ⟨q, hq⟩ := mem_queued.1 he'
    obtain ⟨f, hf, hle⟩ := hs.front hq
    exact le_trans (le_trans (hm q f hf) hle) (le_max_right _ _)

end EventLists

end TelephonyCore.EventQueue
