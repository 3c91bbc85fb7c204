import Mathlib.Data.Nat.Digits.Lemmas

/-!
# Fixed-width big-endian digits

Every byte codec of this development writes a number most significant digit first: tags and lengths
in base 256, hex text in base 16. The one fact that is not bookkeeping is `digitsBE_sq`: expanding
in base `b * b` and splitting each digit into a high and a low half is expanding in base `b` at
twice the width. With `b = 16` it is why hex text read two characters at a time gives the bytes of a
number.
-/

namespace TelephonyCore.Lib

open List

/-- The `k` lowest base-`b` digits of `n`, most significant first. -/
def digitsBE (b : Nat) : Nat → Nat → List Nat
  | 0, _ => []
  | k + 1, n => digitsBE b k (n / b) ++ [n % b]

/-- The number a big-endian digit list stands for. -/
def valueBE (b : Nat) (ds : List Nat) : Nat :=
  ds.foldl (fun acc d => acc * b + d) 0

@[simp] theorem digitsBE_length (b : Nat) : ∀ (k n : Nat), (digitsBE b k n).length = k
  | 0, _ => rfl
  | k + 1, n => by simp [digitsBE, digitsBE_length b k]

variable {b : Nat}

theorem digitsBE_lt (hb : 0 < b) : ∀ (k n : Nat), ∀ d ∈ digitsBE b k n, d < b := by
  intro k
  induction k with
  | zero => intro n d hd; simp [digitsBE] at hd
  | succ k ih =>
    intro n d hd
    rcases mem_append.1 hd with h | h
    · exact ih (n / b) d h
    · rw [mem_singleton.1 h]
      exact Nat.mod_lt n hb

@[simp] theorem valueBE_nil (b : Nat) : valueBE b [] = 0 := rfl

theorem valueBE_concat (b : Nat) (ds : List Nat) (d : Nat) :
    valueBE b (ds ++ [d]) = valueBE b ds * b + d := by
  simp [valueBE]

theorem valueBE_digitsBE : ∀ {k n : Nat}, n < b ^ k → valueBE b (digitsBE b k n) = n := by
  intro k
  induction k with
  | zero =>
    intro n hn
    have h0 : n = 0 := by simpa using hn
    simp [digitsBE, h0]
  | succ k ih =>
    intro n hn
    have hdv : n / b < b ^ k := Nat.div_lt_of_lt_mul (by rw [Nat.pow_succ'] at hn; exact hn)
    rw [digitsBE, valueBE_concat, ih hdv]
    exact Nat.div_add_mod' n b

theorem valueBE_lt (ds : List Nat) (hds : ∀ d ∈ ds, d < b) : valueBE b ds < b ^ ds.length := by
  induction ds using List.reverseRecOn with
  | nil => simp
  | append_singleton ds d ih =>
    have hd : d < b := hds d (by simp)
    have ih' := ih (fun x hx => hds x (by simp [hx]))
    rw [valueBE_concat, length_append, length_singleton, Nat.pow_succ]
    calc valueBE b ds * b + d < valueBE b ds * b + b := Nat.add_lt_add_left hd _
      _ = (valueBE b ds + 1) * b := by rw [Nat.add_mul, Nat.one_mul]
      _ ≤ b ^ ds.length * b := Nat.mul_le_mul_right b ih'

theorem digitsBE_valueBE (ds : List Nat) (hds : ∀ d ∈ ds, d < b) :
    digitsBE b ds.length (valueBE b ds) = ds := by
  induction ds using List.reverseRecOn with
  | nil => rfl
  | append_singleton ds d ih =>
    have hd : d < b := hds d (by simp)
    have hb : 0 < b := by omega
    rw [valueBE_concat, length_append, length_singleton, digitsBE]
    have hdv : (valueBE b ds * b + d) / b = valueBE b ds := by
      rw [Nat.mul_comm, Nat.mul_add_div hb, Nat.div_eq_of_lt hd, Nat.add_zero]
    have hm : (valueBE b ds * b + d) % b = d := by
      rw [Nat.mul_comm, Nat.mul_add_mod, Nat.mod_eq_of_lt hd]
    rw [hdv, hm, ih (fun x hx => hds x (by simp [hx]))]

theorem digitsBE_sq (b : Nat) : ∀ (k n : Nat),
    digitsBE b (2 * k) n = (digitsBE (b * b) k n).flatMap (fun d => [d / b, d % b]) := by
  intro k
  induction k with
  | zero => intro n; rfl
  | succ k ih =>
    intro n
    have hdv : n / b / b = n / (b * b) := Nat.div_div_eq_div_mul n b b
    have hhi : n % (b * b) / b = n / b % b := by
      rw [Nat.mod_mul_right_div_self]
    have hlo : n % (b * b) % b = n % b := Nat.mod_mul_right_mod n b b
    rw [show 2 * (k + 1) = 2 * k + 1 + 1 by omega, digitsBE, digitsBE, digitsBE, hdv, ih,
      flatMap_append, flatMap_singleton, hhi, hlo, append_assoc]
    rfl

theorem digitsBE_eq_replicate_append (hb : 1 < b) : ∀ {k n : Nat}, n < b ^ k →
    digitsBE b k n
      = List.replicate (k - (Nat.digits b n).length) 0 ++ (Nat.digits b n).reverse := by
  intro k
  induction k with
  | zero =>
    intro n hn
    have h0 : n = 0 := by simpa using hn
    simp [digitsBE, h0]
  | succ k ih =>
    intro n hn
    have hdv : n / b < b ^ k := Nat.div_lt_of_lt_mul (by rw [Nat.pow_succ'] at hn; exact hn)
    rw [digitsBE, ih hdv]
    rcases Nat.eq_zero_or_pos n with h0 | hp
    · subst h0
      simp [replicate_succ']
    · rw [Nat.digits_def' hb hp, reverse_cons, length_cons, Nat.add_sub_add_right, append_assoc]

/-! ## Bytes -/

/-- The `k`-byte big-endian form of a number. -/
def beBytes (k n : Nat) : List UInt8 := (digitsBE 256 k n).map UInt8.ofNat

/-- The number a big-endian byte string stands for. -/
def ofBeBytes (bs : List UInt8) : Nat := valueBE 256 (bs.map UInt8.toNat)

@[simp] theorem beBytes_length (k n : Nat) : (beBytes k n).length = k := by
  simp [beBytes]

theorem map_toNat_beBytes (k n : Nat) : (beBytes k n).map UInt8.toNat = digitsBE 256 k n := by
  rw [beBytes, map_map]
  conv_rhs => rw [← map_id (digitsBE 256 k n)]
  apply map_congr_left
  intro d hd
  have hlt := digitsBE_lt (by decide) k n d hd
  simp [Nat.mod_eq_of_lt hlt]

theorem ofBeBytes_beBytes {k n : Nat} (h : n < 256 ^ k) : ofBeBytes (beBytes k n) = n := by
  rw [ofBeBytes, map_toNat_beBytes, valueBE_digitsBE h]

theorem toNat_mem_lt (bs : List UInt8) : ∀ d ∈ bs.map UInt8.toNat, d < 256 := by
  intro d hd
  obtain ⟨c, -, rfl⟩ := mem_map.1 hd
  exact c.toNat_lt

theorem ofBeBytes_lt (bs : List UInt8) : ofBeBytes bs < 256 ^ bs.length := by
  have h := valueBE_lt (bs.map UInt8.toNat) (toNat_mem_lt bs)
  rwa [length_map] at h

/-- What holds of the 256 values of a byte, which can be evaluated, holds of every byte. -/
theorem forall_byte {P : UInt8 → Prop} (h : ∀ n < 256, P (UInt8.ofNat n)) (c : UInt8) : P c := by
  have hc := h c.toNat c.toNat_lt
  rwa [UInt8.ofNat_toNat] at hc

end TelephonyCore.Lib
