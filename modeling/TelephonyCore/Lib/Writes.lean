import Mathlib.Data.List.Basic

/-!
# Buffers that keep a log of what is written to them

A `Buffer` is an array of a fixed size together with the indices at which it was written. An index
is an integer: one that is negative or not below the size changes nothing here, where the program
would write to other memory. `Inside` says that there is no such index in the log.
-/

namespace TelephonyCore.Lib

open List

structure Buffer (α : Type) where
  content : List α
  writes : List Int

namespace Buffer

variable {α : Type}

def alloc (content : List α) : Buffer α := ⟨content, []⟩

/-- `buffer[i] = a` -/
def write (buffer : Buffer α) (i : Int) (a : α) : Buffer α :=
  ⟨if 0 ≤ i then buffer.content.set i.toNat a else buffer.content, buffer.writes ++ [i]⟩

/-- A loop that writes `as` from the index `pos` on. -/
def writeList (buffer : Buffer α) (pos : Int) : List α → Buffer α
  | [] => buffer
  | a :: as => (buffer.write pos a).writeList (pos + 1) as

@[simp] theorem length_write (buffer : Buffer α) (i : Int) (a : α) :
    (buffer.write i a).content.length = buffer.content.length := by
  rw [write]
  split
  · exact length_set
  · rfl

@[simp] theorem length_writeList (as : List α) :
    ∀ (buffer : Buffer α) (pos : Int),
      (buffer.writeList pos as).content.length = buffer.content.length := by
  induction as with
  | nil => intro buffer pos; rfl
  | cons a as ih =>
    intro buffer pos
    rw [writeList, ih, length_write]

/-! ## Where the writes lie -/

def Inside (buffer : Buffer α) : Prop :=
  ∀ i ∈ buffer.writes, 0 ≤ i ∧ i < buffer.content.length

theorem inside_alloc (content : List α) : (alloc content).Inside := by
  intro i hi
  exact absurd hi (by simp [alloc])

theorem Inside.write {buffer : Buffer α} (h : buffer.Inside) {i : Int} (a : α) (hlo : 0 ≤ i)
    (hhi : i < buffer.content.length) : (buffer.write i a).Inside := by
  intro j hj
  rw [length_write]
  rcases mem_append.1 hj with hj | hj
  · exact h j hj
  · rw [mem_singleton.1 hj]
    exact ⟨hlo, hhi⟩

theorem Inside.writeList (as : List α) :
    ∀ {buffer : Buffer α} {pos : Int}, buffer.Inside → 0 ≤ pos →
      pos + as.length ≤ buffer.content.length → (buffer.writeList pos as).Inside := by
  induction as with
  | nil => intro buffer pos h _ _; exact h
  | cons a as ih =>
    intro buffer pos h hlo hhi
    rw [length_cons] at hhi
    apply ih (h.write a hlo (by omega)) (by omega)
    rw [length_write]
    omega

/-! ## What is written -/

theorem content_write (buffer : Buffer α) (i : Nat) (a : α) :
    (buffer.write i a).content = buffer.content.set i a := by
  rw [write, if_pos (Int.natCast_nonneg i)]
  rfl

theorem content_writeList (as : List α) :
    ∀ (buffer : Buffer α) (pos : Nat), pos + as.length ≤ buffer.content.length →
      (buffer.writeList pos as).content =
        buffer.content.take pos ++ as ++ buffer.content.drop (pos + as.length) := by
  induction as with
  | nil =>
    intro buffer pos _
    show buffer.content = _
    rw [append_nil, length_nil, Nat.add_zero, take_append_drop]
  | cons a as ih =>
    intro buffer pos hhi
    rw [length_cons] at hhi ⊢
    have hp : pos < buffer.content.length := by omega
    have ht : (buffer.content.set pos a).take (pos + 1) = buffer.content.take pos ++ [a] := by
      rw [take_succ_eq_append_getElem (by rw [length_set]; exact hp),
        getElem_set_self, take_set_of_le (Nat.le_refl pos)]
    show ((buffer.write pos a).writeList ((pos + 1 : Nat) : Int) as).content = _
    rw [ih _ _ (by rw [length_write]; omega), content_write, ht, drop_set_of_lt (by omega),
      append_assoc _ [a], singleton_append, Nat.add_assoc, Nat.add_comm 1]

end Buffer

end TelephonyCore.Lib
