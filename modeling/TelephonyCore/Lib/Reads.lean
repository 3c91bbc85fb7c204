import Mathlib.Logic.Basic

/-!
# Computations that keep a log of what they read

A `Logged` value carries the positions that were read of a sequence on the way to it. A program over
an array is written with `read` and `readRange` in the places where the source indexes the array,
and `Within lo hi` says that every access lies in `[lo, hi)`. Reading past the end gives the default
here: that such a read does not happen is what `Within` is for.
-/

namespace TelephonyCore.Lib

structure Logged (α : Type) where
  value : α
  reads : List Nat

namespace Logged

variable {α β : Type}

instance : Monad Logged where
  pure a := ⟨a, []⟩
  bind m f := ⟨(f m.value).value, m.reads ++ (f m.value).reads⟩

@[simp] theorem value_pure (a : α) : (pure a : Logged α).value = a := rfl

@[simp] theorem reads_pure (a : α) : (pure a : Logged α).reads = [] := rfl

@[simp] theorem value_bind (m : Logged α) (f : α → Logged β) :
    (m >>= f).value = (f m.value).value := rfl

@[simp] theorem reads_bind (m : Logged α) (f : α → Logged β) :
    (m >>= f).reads = m.reads ++ (f m.value).reads := rfl

@[simp] theorem value_ite (c : Prop) [Decidable c] (m m' : Logged α) :
    (if c then m else m').value = if c then m.value else m'.value :=
  apply_ite value c m m'

/-- `src[i]`; reducible, as the value read may decide a condition. -/
@[reducible] def read (src : List α) (i : Nat) (default : α) : Logged α := ⟨src.getD i default, [i]⟩

theorem value_read (src : List α) (i : Nat) (default : α) :
    (read src i default).value = src.getD i default := rfl

/-- The elements of `[i, i + len)`. -/
def readRange (src : List α) (i len : Nat) : Logged (List α) :=
  ⟨(src.drop i).take len, List.range' i len⟩

@[simp] theorem value_readRange (src : List α) (i len : Nat) :
    (readRange src i len).value = (src.drop i).take len := rfl

/-! ## Where the reads lie -/

def Within (lo hi : Nat) (m : Logged α) : Prop := ∀ i ∈ m.reads, lo ≤ i ∧ i < hi

variable {lo hi i len : Nat} {src : List α} {default : α}

theorem within_pure {a : α} : (pure a : Logged α).Within lo hi := by
  intro i hi
  cases hi

theorem within_read (hlo : lo ≤ i) (hhi : i < hi) :
    (read src i default).Within lo hi := by
  intro j hj
  rw [List.mem_singleton.1 hj]
  exact ⟨hlo, hhi⟩

theorem within_readRange (hlo : lo ≤ i) (hhi : i + len ≤ hi) :
    (readRange src i len).Within lo hi := by
  intro j hj
  obtain ⟨h1, h2⟩ := List.mem_range'_1.1 hj
  omega

theorem Within.bind {m : Logged α} {f : α → Logged β} (hm : m.Within lo hi)
    (hf : (f m.value).Within lo hi) : (m >>= f).Within lo hi := by
  intro i hi
  rw [reads_bind] at hi
  rcases List.mem_append.1 hi with h | h
  · exact hm i h
  · exact hf i h

end Logged

end TelephonyCore.Lib
