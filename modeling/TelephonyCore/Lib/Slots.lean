import Mathlib.Data.List.Basic

/-!
# Replacing one element of a list

The parties of a system are the elements of a list, and a step replaces one of them. What a
property of all parties needs then is the new party and the others, and `List.eraseIdx` is the
list of the others.
-/

namespace TelephonyCore.Lib

open List

variable {α : Type} {l : List α} {i : Nat} {x y other : α}

theorem mem_set_self (y : α) (h : l[i]? = some x) : y ∈ l.set i y :=
  mem_of_getElem? (getElem?_set_self (List.getElem?_eq_some_iff.1 h).1)

theorem eq_or_mem_set (h : l[i]? = some x) (y : α) (hm : other ∈ l) :
    other = x ∨ other ∈ l.set i y := by
  obtain ⟨j, hj⟩ := getElem?_of_mem hm
  by_cases hij : i = j
  · subst hij
    exact .inl (Option.some.inj (hj.symm.trans h))
  · exact .inr (mem_of_getElem? ((getElem?_set_ne hij).trans hj))

theorem mem_set_of_ne (h : l[i]? = some x) (hm : other ∈ l) (hne : other ≠ x) : other ∈ l.set i y :=
  (eq_or_mem_set h y hm).resolve_left hne

theorem mem_of_mem_set (hm : other ∈ l.set i y) (hne : other ≠ y) : other ∈ l :=
  (mem_or_eq_of_mem_set hm).resolve_right hne

theorem forall_mem_set {P : α → Prop} (h : ∀ x ∈ l, P x) (hy : P y) : ∀ x ∈ l.set i y, P x := by
  intro x hx
  rcases mem_or_eq_of_mem_set hx with ho | rfl
  · exact h x ho
  · exact hy

theorem mem_concat : x ∈ l ++ [y] ↔ x ∈ l ∨ x = y := by
  rw [mem_append, mem_singleton]

theorem forall_mem_concat {P : α → Prop} (h : ∀ x ∈ l, P x) (hy : P y) : ∀ x ∈ l ++ [y], P x :=
  forall_mem_append.2 ⟨h, forall_mem_singleton.2 hy⟩

theorem getElem?_of_set {j : Nat} (h : (l.set i y)[j]? = some other) :
    (j = i ∧ other = y) ∨ (j ≠ i ∧ l[j]? = some other) := by
  by_cases hij : i = j
  · subst hij
    have hlt : i < l.length := by simpa using (List.getElem?_eq_some_iff.1 h).1
    exact .inl ⟨rfl, Option.some.inj (h.symm.trans (getElem?_set_self hlt))⟩
  · exact .inr ⟨Ne.symm hij, (getElem?_set_ne hij).symm.trans h⟩

theorem mem_eraseIdx_of_mem_set (hm : other ∈ l.set i y) : other = y ∨ other ∈ l.eraseIdx i := by
  obtain ⟨j, hj⟩ := getElem?_of_mem hm
  rcases getElem?_of_set hj with ⟨-, heq⟩ | ⟨hji, ho⟩
  · exact .inl heq
  · exact .inr (mem_eraseIdx_iff_getElem?.2 ⟨j, hji, ho⟩)

theorem mem_eraseIdx_of_ne (h : l[i]? = some x) (hm : other ∈ l) (hne : other ≠ x) :
    other ∈ l.eraseIdx i := by
  obtain ⟨j, hj⟩ := getElem?_of_mem hm
  have hji : j ≠ i := by
    intro heq
    subst heq
    exact hne (Option.some.inj (hj.symm.trans h))
  exact mem_eraseIdx_iff_getElem?.2 ⟨j, hji, hj⟩

theorem getElem?_of_eraseIdx {a : Nat} (h : (l.eraseIdx i)[a]? = some x) :
    l[if a < i then a else a + 1]? = some x := by
  rw [getElem?_eraseIdx] at h
  split at h
  next hlt => rw [if_pos hlt]; exact h
  next hlt => rw [if_neg hlt]; exact h

theorem getElem?_singleton_eq_some (h : [x][i]? = some y) : i = 0 ∧ x = y := by
  rw [getElem?_singleton] at h
  exact (Option.ite_none_right_eq_some.1 h).imp id Option.some.inj

end TelephonyCore.Lib
