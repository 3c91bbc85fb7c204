import Mathlib.Logic.Basic

/-!
# Loops that may not end

A computation with loops is a function of the fuel it may use. The structure carries the proof that
more fuel does not change a result, so that `Yields p a`, some fuel gives `a`, says what the program
computes. A loop ends by an invariant and a measure (`halts_loop`), and does not end by an invariant
under which its body never leaves (`diverges_loop`).
-/

namespace TelephonyCore.Lib

open Option

structure Fuelled (α : Type) where
  run : Nat → Option α
  mono : ∀ n a, run n = some a → run (n + 1) = some a

namespace Fuelled

variable {α β σ : Type}

protected def pure (a : α) : Fuelled α := ⟨fun _ => some a, fun _ _ h => h⟩

protected def bind (p : Fuelled α) (f : α → Fuelled β) : Fuelled β where
  run n := (p.run n).bind fun a => (f a).run n
  mono n b h := by
    obtain ⟨a, ha, hb⟩ := Option.bind_eq_some_iff.1 h
    exact Option.bind_eq_some_iff.2 ⟨a, p.mono n a ha, (f a).mono n b hb⟩

instance : Monad Fuelled where
  pure := Fuelled.pure
  bind := Fuelled.bind

/-- `.inl` goes round again, `.inr` leaves the loop. -/
def runLoop (body : σ → Fuelled (σ ⊕ α)) : Nat → σ → Option α
  | 0, _ => none
  | n + 1, s => ((body s).run n).bind fun
    | .inl s' => runLoop body n s'
    | .inr a => some a

theorem runLoop_mono (body : σ → Fuelled (σ ⊕ α)) :
    ∀ (n : Nat) (s : σ) (a : α), runLoop body n s = some a → runLoop body (n + 1) s = some a := by
  intro n
  induction n with
  | zero =>
    intro s a h
    exact absurd h (by simp [runLoop])
  | succ n ih =>
    intro s a h
    obtain ⟨next, hb, hn⟩ := bind_eq_some_iff.1 h
    refine bind_eq_some_iff.2 ⟨next, (body s).mono n next hb, ?_⟩
    cases next with
    | inl s' => exact ih s' a hn
    | inr a' => exact hn

def loop (body : σ → Fuelled (σ ⊕ α)) (s : σ) : Fuelled α where
  run n := runLoop body n s
  mono n a h := runLoop_mono body n s a h

/-! ## What a program computes -/

def Yields (p : Fuelled α) (a : α) : Prop := ∃ n, p.run n = some a

def Halts (p : Fuelled α) (Q : α → Prop) : Prop := ∃ a, Yields p a ∧ Q a

def Diverges (p : Fuelled α) : Prop := ∀ a, ¬Yields p a

variable {a : α} {f : α → Fuelled β} {b : β} {P Q : α → Prop}

theorem run_of_le (p : Fuelled α) {n m : Nat} (hle : n ≤ m) (h : p.run n = some a) :
    p.run m = some a := by
  induction hle with
  | refl => exact h
  | step _ ih => exact p.mono _ a ih

variable {p : Fuelled α}

theorem Yields.unique {b : α} (ha : Yields p a) (hb : Yields p b) : a = b := by
  obtain ⟨n, hn⟩ := ha
  obtain ⟨m, hm⟩ := hb
  have hn' := run_of_le p (Nat.le_max_left n m) hn
  have hm' := run_of_le p (Nat.le_max_right n m) hm
  exact some.inj (hn'.symm.trans hm')

theorem yields_pure (a : α) : Yields (pure a : Fuelled α) a := ⟨0, rfl⟩

theorem Yields.bind (ha : Yields p a) (hb : Yields (f a) b) : Yields (p >>= f) b := by
  obtain ⟨n, hn⟩ := ha
  obtain ⟨m, hm⟩ := hb
  refine ⟨max n m, bind_eq_some_iff.2 ⟨a, ?_, ?_⟩⟩
  · exact run_of_le p (Nat.le_max_left n m) hn
  · exact run_of_le (f a) (Nat.le_max_right n m) hm

theorem yields_of_bind (h : Yields (p >>= f) b) : ∃ a, Yields p a ∧ Yields (f a) b := by
  obtain ⟨n, hn⟩ := h
  obtain ⟨a, ha, hb⟩ := bind_eq_some_iff.1 hn
  exact ⟨a, ⟨n, ha⟩, n, hb⟩

theorem halts_pure (h : Q a) : Halts (pure a : Fuelled α) Q :=
  ⟨a, yields_pure a, h⟩

theorem Halts.bind {Q : β → Prop} (hp : Halts p P) (hf : ∀ a, P a → Halts (f a) Q) :
    Halts (p >>= f) Q := by
  obtain ⟨a, ha, hP⟩ := hp
  obtain ⟨b, hb, hQ⟩ := hf a hP
  exact ⟨b, ha.bind hb, hQ⟩

theorem halts_of_run (n : Nat) (h : ∃ a ∈ p.run n, Q a) : Halts p Q := by
  obtain ⟨a, ha, hQ⟩ := h
  exact ⟨a, ⟨n, ha⟩, hQ⟩

theorem Halts.holds (h : Halts p Q) (ha : Yields p a) : Q a := by
  obtain ⟨b, hb, hQ⟩ := h
  exact ha.unique hb ▸ hQ

theorem Halts.mono (hp : Halts p P) (h : ∀ a, P a → Q a) : Halts p Q := by
  obtain ⟨a, ha, hP⟩ := hp
  exact ⟨a, ha, h a hP⟩

/-! ## Programs that run for ever -/

theorem Diverges.not_halts (h : Diverges p) (Q : α → Prop) : ¬Halts p Q := by
  rintro ⟨a, ha, -⟩
  exact h a ha

theorem Diverges.bind (h : Diverges p) (f : α → Fuelled β) : Diverges (p >>= f) := by
  intro b hb
  obtain ⟨a, ha, -⟩ := yields_of_bind hb
  exact h a ha

theorem Yields.bind_diverges (ha : Yields p a) (h : Diverges (f a)) : Diverges (p >>= f) := by
  intro b hb
  obtain ⟨a', ha', hb'⟩ := yields_of_bind hb
  exact h b (ha.unique ha' ▸ hb')

/-! ## Loops -/

section Loop

variable {body : σ → Fuelled (σ ⊕ α)} {s s' : σ} {a : α}

theorem Yields.loop_done (h : Yields (body s) (.inr a)) : Yields (loop body s) a := by
  obtain ⟨n, hn⟩ := h
  exact ⟨n + 1, bind_eq_some_iff.2 ⟨_, hn, rfl⟩⟩

theorem Yields.loop_again (h : Yields (body s) (.inl s')) (hl : Yields (loop body s') a) :
    Yields (loop body s) a := by
  obtain ⟨n, hn⟩ := h
  obtain ⟨m, hm⟩ := hl
  refine ⟨max n m + 1, bind_eq_some_iff.2 ⟨.inl s', ?_, ?_⟩⟩
  · exact run_of_le (body s) (Nat.le_max_left n m) hn
  · exact run_of_le (loop body s') (Nat.le_max_right n m) hm

theorem Halts.loop_again (h : Yields (body s) (.inl s')) (hl : Halts (loop body s') Q) :
    Halts (loop body s) Q := by
  obtain ⟨a, ha, hQ⟩ := hl
  exact ⟨a, h.loop_again ha, hQ⟩

/-- Total correctness: the body keeps the invariant and makes the measure smaller, or leaves. -/
theorem halts_loop (I : σ → Prop) (measure : σ → Nat) (hb : ∀ s, I s → Halts (body s) fun
      | .inl s' => I s' ∧ measure s' < measure s
      | .inr a => Q a) (hs : I s) : Halts (loop body s) Q := by
  induction hn : measure s using Nat.strongRecOn generalizing s with
  | _ n ih =>
    obtain ⟨next, hy, hnx⟩ := hb s hs
    cases next with
    | inl s' => exact Halts.loop_again hy (ih (measure s') (hn ▸ hnx.2) hnx.1 rfl)
    | inr a => exact ⟨a, hy.loop_done, hnx⟩

theorem diverges_loop (I : σ → Prop)
    (hb : ∀ s next, I s → Yields (body s) next → ∃ s', next = .inl s' ∧ I s') (hs : I s) :
    Diverges (loop body s) := by
  rintro a ⟨n, hn⟩
  induction n generalizing s with
  | zero => exact absurd hn (by simp [loop, runLoop])
  | succ n ih =>
    obtain ⟨next, hy, hnx⟩ := bind_eq_some_iff.1 hn
    obtain ⟨s', rfl, hs'⟩ := hb s next hs ⟨n, hy⟩
    exact ih hs' hnx

theorem Diverges.loop (h : Diverges (body s)) : Diverges (loop body s) :=
  diverges_loop (· = s) (fun _ next hs hn => absurd hn (hs ▸ h next)) rfl

end Loop

end Fuelled

end TelephonyCore.Lib
