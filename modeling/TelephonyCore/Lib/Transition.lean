import Mathlib.Logic.Basic

/-!
# Runs of a step function

A system is a partial step function on states and labels, and a run is a list of labels, each
enabled where it is taken. The rule the developments need is `invariant_run`: a property that every
step which meets a condition preserves holds at the end of every run whose steps all meet the
condition, and so in every state the run reaches.
-/

namespace TelephonyCore.Lib

variable {S L : Type} (step : S → L → Option S)

/-- Take the labels in order; `none` when one of them is not enabled. -/
def runLabels : S → List L → Option S
  | s, [] => some s
  | s, l :: ls =>
    match step s l with
    | none => none
    | some s' => runLabels s' ls

/-- Every step of the run meets `C`. -/
def StepsMeet (C : S → L → Prop) : S → List L → Prop
  | _, [] => True
  | s, l :: ls =>
    match step s l with
    | none => True
    | some s' => C s l ∧ StepsMeet C s' ls

def decStepsMeet (C : S → L → Prop) [∀ s l, Decidable (C s l)] :
    (s : S) → (ls : List L) → Decidable (StepsMeet step C s ls)
  | _, [] => .isTrue trivial
  | s, l :: ls =>
    match h : step s l with
    | none => .isTrue (by rw [StepsMeet, h]; trivial)
    | some s' =>
      letI := decStepsMeet C s' ls
      decidable_of_iff (C s l ∧ StepsMeet step C s' ls) (by rw [StepsMeet, h])

instance (C : S → L → Prop) [∀ s l, Decidable (C s l)] (s : S) (ls : List L) :
    Decidable (StepsMeet step C s ls) := decStepsMeet step C s ls

variable {step} {s : S} {ls : List L} {C : S → L → Prop} {Inv : S → Prop}

theorem runLabels_cons {s' : S} {l : L} (h : runLabels step s (l :: ls) = some s') :
    ∃ mid, step s l = some mid ∧ runLabels step mid ls = some s' := by
  rw [runLabels] at h
  cases hs : step s l with
  | none =>
    rw [hs] at h
    cases h
  | some mid =>
    rw [hs] at h
    exact ⟨mid, rfl, h⟩

/-- A run on given labels, by evaluation of its last state. -/
theorem exists_run (p : S → Prop) [DecidablePred p]
    (h : (runLabels step s ls).any (fun s' => p s')) :
    ∃ s', runLabels step s ls = some s' ∧ p s' := by
  obtain ⟨s', hr, hp⟩ := (Option.any_eq_true _ _).1 h
  exact ⟨s', hr, of_decide_eq_true hp⟩

/-- Take the labels in order as long as they are enabled and meet `C`. -/
def runMeeting (step : S → L → Option S) (C : S → L → Prop) [∀ s l, Decidable (C s l)] :
    S → List L → Option S
  | s, [] => some s
  | s, l :: ls => if C s l then (step s l).bind fun s' => runMeeting step C s' ls else none

theorem runMeeting_eq_some [∀ s l, Decidable (C s l)] :
    ∀ {ls : List L} {s s' : S}, runMeeting step C s ls = some s' →
      StepsMeet step C s ls ∧ runLabels step s ls = some s' := by
  intro ls
  induction ls with
  | nil =>
    intro s s' h
    exact ⟨trivial, h⟩
  | cons l ls ih =>
    intro s s' h
    obtain ⟨hmt, hr⟩ := Option.ite_none_right_eq_some.1 h
    obtain ⟨mid, hmd, hr⟩ := Option.bind_eq_some_iff.1 hr
    rw [StepsMeet, runLabels, hmd]
    exact ⟨⟨hmt, (ih hr).1⟩, (ih hr).2⟩

/-- A run on given labels that meets a condition, by evaluation. -/
theorem exists_run_meeting [∀ s l, Decidable (C s l)] (p : S → Prop) [DecidablePred p]
    (h : (runMeeting step C s ls).any (fun s' => p s')) :
    ∃ s', StepsMeet step C s ls ∧ runLabels step s ls = some s' ∧ p s' := by
  obtain ⟨s', hr, hp⟩ := (Option.any_eq_true _ _).1 h
  obtain ⟨hm, hr⟩ := runMeeting_eq_some hr
  exact ⟨s', hm, hr, of_decide_eq_true hp⟩

theorem invariant_run (hs : ∀ {s s' : S} {l : L}, Inv s → C s l → step s l = some s' → Inv s') :
    ∀ (ls : List L) {s s' : S}, Inv s → StepsMeet step C s ls →
      runLabels step s ls = some s' → Inv s' := by
  intro ls
  induction ls with
  | nil =>
    intro s s' hin _ hrn
    cases hrn
    exact hin
  | cons l ls ih =>
    intro s s' hin hmt hrn
    obtain ⟨mid, hmd, hrs⟩ := runLabels_cons hrn
    rw [StepsMeet, hmd] at hmt
    exact ih (hs hin hmt.1 hmd) hmt.2 hrs

/-- All states of a run are good exactly when all its steps meet a condition. -/
theorem everywhere_iff_stepsMeet {Good : S → Prop} (hg : ∀ {s : S}, Inv s → Good s)
    (hs : ∀ {s s' : S} {l : L}, Inv s → step s l = some s' → (Good s' → C s l) ∧ (C s l → Inv s')) :
    ∀ (ls : List L) {s : S}, Inv s →
      ((∀ n s', runLabels step s (ls.take n) = some s' → Good s') ↔ StepsMeet step C s ls) := by
  intro ls
  induction ls with
  | nil =>
    intro s hin
    refine iff_of_true (fun n s' hrn => ?_) trivial
    rw [List.take_nil] at hrn
    cases hrn
    exact hg hin
  | cons l ls ih =>
    intro s hin
    rw [StepsMeet]
    cases hmd : step s l with
    | none =>
      refine iff_of_true (fun n s' hrn => ?_) trivial
      cases n with
      | zero =>
        cases hrn
        exact hg hin
      | succ n =>
        rw [List.take_succ_cons, runLabels, hmd] at hrn
        cases hrn
    | some mid =>
      constructor
      · intro hal
        have hmt := (hs hin hmd).1 (hal 1 mid (by simp [runLabels, hmd]))
        refine ⟨hmt, (ih ((hs hin hmd).2 hmt)).1 fun n s' hrn => ?_⟩
        exact hal (n + 1) s' (by rw [List.take_succ_cons, runLabels, hmd]; exact hrn)
      · rintro ⟨hmt, hrs⟩ n s' hrn
        cases n with
        | zero =>
          cases hrn
          exact hg hin
        | succ n =>
          rw [List.take_succ_cons, runLabels, hmd] at hrn
          exact (ih ((hs hin hmd).2 hmt)).2 hrs n s' hrn

theorem invariant_every_run (hs : ∀ {s s' : S} {l : L}, Inv s → step s l = some s' → Inv s') :
    ∀ (ls : List L) {s s' : S}, Inv s → runLabels step s ls = some s' → Inv s' := by
  intro ls
  induction ls with
  | nil =>
    intro s s' hin hrn
    cases hrn
    exact hin
  | cons l ls ih =>
    intro s s' hin hrn
    obtain ⟨mid, hm, hrs⟩ := runLabels_cons hrn
    exact ih (hs hin hm) hrs

end TelephonyCore.Lib
