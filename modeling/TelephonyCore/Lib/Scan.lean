import TelephonyCore.Lib.Fuel
import TelephonyCore.Lib.Reads

/-!
# Loops over a sequence

A `Scan` is a program with loops that logs what it reads: it may run for ever, and it may read where
the sequence has no element. `Ensures n p Q` excludes both: the program ends, it has read positions
below `n` only, and its result is in `Q`. There is one rule for each way to make a program, the one
for `loop` with an invariant and a measure.
-/

namespace TelephonyCore.Lib

open Fuelled

def Scan (α : Type) : Type := Fuelled (Logged α)

namespace Scan

variable {α β σ : Type}

instance : Monad Scan where
  pure a := Fuelled.pure (pure a)
  bind p f := Fuelled.bind p fun m =>
    Fuelled.bind (f m.value) fun m' => Fuelled.pure ⟨m'.value, m.reads ++ m'.reads⟩

def read (src : List α) (i : Nat) (default : α) : Scan α := Fuelled.pure (Logged.read src i default)

/-- The log is kept beside the state of the loop. -/
def loop (body : σ → Scan (σ ⊕ α)) (s : σ) : Scan α :=
  Fuelled.loop (fun (log, s) => Fuelled.bind (body s) fun m => Fuelled.pure <|
    match m.value with
    | .inl s' => .inl (log ++ m.reads, s')
    | .inr a => .inr ⟨a, log ++ m.reads⟩) ([], s)

def Ensures (n : Nat) (p : Scan α) (Q : α → Prop) : Prop :=
  Fuelled.Halts p fun m => m.Within 0 n ∧ Q m.value

variable {n : Nat} {P Q : α → Prop} {a : α} {p : Scan α}

theorem ensures_pure (h : Q a) : Ensures n (pure a) Q :=
  halts_pure ⟨Logged.within_pure, h⟩

theorem ensures_read {src : List α} {i : Nat} {default : α} (hi : i < n) (hg : src[i]? = some a)
    (h : Q a) : Ensures n (read src i default) Q := by
  refine halts_pure ⟨Logged.within_read (Nat.zero_le i) hi, ?_⟩
  show Q (src.getD i default)
  rw [List.getD_eq_getElem?_getD, hg]
  exact h

theorem within_append {lo hi : Nat} {reads reads' : List Nat} (h : ∀ i ∈ reads, lo ≤ i ∧ i < hi)
    (h' : ∀ i ∈ reads', lo ≤ i ∧ i < hi) : (⟨a, reads ++ reads'⟩ : Logged α).Within lo hi := by
  intro i hi
  rcases List.mem_append.1 hi with hi | hi
  · exact h i hi
  · exact h' i hi

theorem Ensures.bind {f : α → Scan β} {Q : β → Prop} (hp : Ensures n p P)
    (hf : ∀ a, P a → Ensures n (f a) Q) : Ensures n (p >>= f) Q := by
  refine Fuelled.Halts.bind hp ?_
  rintro m ⟨hm, hP⟩
  refine Fuelled.Halts.bind (hf m.value hP) ?_
  rintro m' ⟨hm', hQ⟩
  exact halts_pure ⟨within_append hm hm', hQ⟩

theorem Ensures.mono (hp : Ensures n p P) (h : ∀ a, P a → Q a) : Ensures n p Q :=
  Fuelled.Halts.mono hp fun m hm => ⟨hm.1, h m.value hm.2⟩

theorem ensures_loop (I : σ → Prop) (measure : σ → Nat) {body : σ → Scan (σ ⊕ α)} {s : σ}
    (hb : ∀ s, I s → Ensures n (body s) fun
      | .inl s' => I s' ∧ measure s' < measure s
      | .inr a => Q a) (hs : I s) : Ensures n (loop body s) Q := by
  refine halts_loop (fun ls => (∀ i ∈ ls.1, 0 ≤ i ∧ i < n) ∧ I ls.2)
    (fun ls => measure ls.2) ?_ ⟨by simp, hs⟩
  -- the reads before this round and those of the round are below the bound
  rintro ⟨log, s⟩ ⟨hl, hI⟩
  refine Fuelled.Halts.bind (hb s hI) ?_
  rintro ⟨next, reads⟩ ⟨hr, hn⟩
  have hal : (⟨(), log ++ reads⟩ : Logged Unit).Within 0 n := within_append hl hr
  cases next with
  | inl s' => exact halts_pure ⟨⟨hal, hn.1⟩, hn.2⟩
  | inr a => exact halts_pure ⟨hal, hn⟩

end Scan

end TelephonyCore.Lib
