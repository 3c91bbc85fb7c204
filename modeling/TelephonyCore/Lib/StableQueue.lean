import Mathlib.Data.List.Sort

/-!
# Queues ordered by a key, first come first served

`List.orderedInsert` by a strict comparison of keys puts a new element behind all
elements with the same key. Kept in that way, a queue is ordered by key and, among
equal keys, by age (`InOrder`). `older` is whatever says that an element came
before another.
-/

namespace TelephonyCore.Lib

open List

variable {α K : Type} [LinearOrder K] (key : α → K) (older : α → α → Prop)

/-- Smaller key, or the same key and older. -/
def InOrder (a b : α) : Prop := key a < key b ∨ (key a = key b ∧ older a b)

/-- Insert behind every element whose key is not greater. -/
def enqueue (x : α) (l : List α) : List α := l.orderedInsert (fun a b => key a < key b) x

variable {key older}

theorem InOrder.le {a b : α} (h : InOrder key older a b) : key a ≤ key b := by
  rcases h with hlt | ⟨heq, -⟩
  · exact le_of_lt hlt
  · exact le_of_eq heq

variable {x y : α} {l : List α}

theorem mem_enqueue : y ∈ enqueue key x l ↔ y = x ∨ y ∈ l :=
  mem_orderedInsert _

theorem enqueue_perm (x : α) (l : List α) : (enqueue key x l).Perm (x :: l) :=
  perm_orderedInsert _ x l

theorem pairwise_enqueue (h : l.Pairwise (InOrder key older)) (hyn : ∀ y ∈ l, older y x) :
    (enqueue key x l).Pairwise (InOrder key older) := by
  induction l with
  | nil => exact pairwise_singleton _ x
  | cons y l ih =>
    obtain ⟨hy, hl⟩ := pairwise_cons.1 h
    unfold enqueue
    rw [orderedInsert_cons]
    by_cases hlt : key x < key y
    · rw [if_pos hlt]
      refine pairwise_cons.2 ⟨?_, h⟩
      intro z hz
      rcases mem_cons.1 hz with rfl | hz
      · exact .inl hlt
      · exact .inl (lt_of_lt_of_le hlt (hy z hz).le)
    · rw [if_neg hlt]
      refine pairwise_cons.2 ⟨?_, ih hl (fun z hz => hyn z (mem_cons_of_mem _ hz))⟩
      intro z hz
      rcases mem_enqueue.1 hz with rfl | hz
      · -- behind `y`: a greater key, or the same key and younger
        rcases lt_or_eq_of_le (le_of_not_gt hlt) with hgt | heq
        · exact .inl hgt
        · exact .inr ⟨heq, hyn y (mem_cons_self ..)⟩
      · exact hy z hz

theorem head_key_le (h : l.Pairwise (InOrder key older)) {f : α} (hf : l.head? = some f)
    (hy : y ∈ l) : key f ≤ key y := by
  cases l with
  | nil => cases hf
  | cons x l =>
    cases hf
    rcases mem_cons.1 hy with rfl | hy
    · exact le_refl _
    · exact ((pairwise_cons.1 h).1 y hy).le

end TelephonyCore.Lib
