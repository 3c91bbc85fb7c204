import Mathlib.Data.List.Count
import Mathlib.Data.List.Nodup

/-!
# Items in the custody of a list of holders

Each holder in a list has some items. When one holder is replaced by another, the items of
all of them change by the difference of these two. Counting the occurrences of one item makes
this an equation between numbers, so that "nothing is held twice" is a bound on a sum.
-/

namespace TelephonyCore.Lib

open List

variable {α β : Type} [DecidableEq β]

theorem count_flatMap_set (items : α → List β) (x : β) {holders : List α} {k : Nat}
    {holder : α} (holder' : α) (h : holders[k]? = some holder) :
    ((holders.set k holder').flatMap items).count x + (items holder).count x =
      (holders.flatMap items).count x + (items holder').count x := by
  induction holders generalizing k with
  | nil => cases h
  | cons first rest ih =>
    cases k with
    | zero =>
      cases h
      simp only [set_cons_zero, flatMap_cons, count_append]
      omega
    | succ k =>
      have hr := ih h
      simp only [set_cons_succ, flatMap_cons, count_append]
      omega

theorem count_flatMap_append (items : α → List β) (x : β) (holders : List α) (holder : α)
    (h : items holder = []) :
    ((holders ++ [holder]).flatMap items).count x = (holders.flatMap items).count x := by
  simp [h]

end TelephonyCore.Lib
