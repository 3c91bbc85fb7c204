import Mathlib.Logic.Basic

/-!
# Computations that log what goes wrong

A `Traced` value carries the faults that occurred on the way to it: accesses outside an array, uses
of a null pointer. The computation goes on after a fault with some value, as nothing is known of
what a program does then. `Clean`, that there was none, is decided step by step: by `clean_bind_iff`
for one step after another, by `clean_each_iff` for a loop.
-/

namespace TelephonyCore.Lib

structure Traced (ε α : Type) where
  value : α
  faults : List ε

namespace Traced

variable {ε α β : Type}

instance : Monad (Traced ε) where
  pure a := ⟨a, []⟩
  bind m f := ⟨(f m.value).value, m.faults ++ (f m.value).faults⟩

@[simp] theorem value_pure (a : α) : (pure a : Traced ε α).value = a := rfl

@[simp] theorem value_bind (m : Traced ε α) (f : α → Traced ε β) :
    (m >>= f).value = (f m.value).value := rfl

@[simp] theorem value_ite (c : Prop) [Decidable c] (m m' : Traced ε α) :
    (if c then m else m').value = if c then m.value else m'.value :=
  apply_ite value c m m'

/-- A fault unless the condition holds. -/
def check (c : Prop) [Decidable c] (fault : ε) : Traced ε Unit := ⟨(), if c then [] else [fault]⟩

/-- A loop over a list, one result for each element. -/
def each (f : β → Traced ε α) : List β → Traced ε (List α)
  | [] => pure []
  | b :: bs => do
    let a ← f b
    let as ← each f bs
    pure (a :: as)

@[simp] theorem value_each (f : β → Traced ε α) (bs : List β) :
    (each f bs).value = bs.map fun b => (f b).value := by
  induction bs with
  | nil => rfl
  | cons b bs ih => rw [each, value_bind, value_bind, ih, value_pure, List.map_cons]

/-! ## No faults -/

def Clean (m : Traced ε α) : Prop := m.faults = []

theorem clean_pure (a : α) : (pure a : Traced ε α).Clean := rfl

theorem clean_check_iff {c : Prop} [Decidable c] {fault : ε} : (check c fault).Clean ↔ c := by
  by_cases h : c
  · exact iff_of_true (if_pos h) h
  · refine iff_of_false ?_ h
    show (if c then [] else [fault]) ≠ []
    rw [if_neg h]
    simp

theorem clean_bind_iff {m : Traced ε α} {f : α → Traced ε β} :
    (m >>= f).Clean ↔ m.Clean ∧ (f m.value).Clean :=
  List.append_eq_nil_iff

theorem clean_each_iff {f : β → Traced ε α} {bs : List β} :
    (each f bs).Clean ↔ ∀ b ∈ bs, (f b).Clean := by
  induction bs with
  | nil => exact iff_of_true (clean_pure []) (by simp)
  | cons b bs ih =>
    rw [each, clean_bind_iff, clean_bind_iff, ih, List.forall_mem_cons, and_iff_left (clean_pure _)]

end Traced

end TelephonyCore.Lib
