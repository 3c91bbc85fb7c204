import Mathlib.Data.List.Basic

/-!
# UTF-8 on the basic plane

One, two or three bytes for a code unit, and back. Surrogates are code units like any
other here, so this is UTF-8 on strings without them, and there `decode` undoes
`encode`. On ASCII both leave the codes alone.
-/

namespace TelephonyCore.Lib.Utf8

open List

def encodeUnit (c : UInt16) : List UInt8 :=
  let n := c.toNat
  if n < 0x80 then [.ofNat n]
  else if n < 0x800 then [.ofNat (0xC0 + n / 64), .ofNat (0x80 + n % 64)]
  else [.ofNat (0xE0 + n / 4096), .ofNat (0x80 + n / 64 % 64), .ofNat (0x80 + n % 64)]

def encode (w : List UInt16) : List UInt8 := w.flatMap encodeUnit

def decode : List UInt8 → List UInt16
  | [] => []
  | a :: rest =>
    if a.toNat < 0x80 then .ofNat a.toNat :: decode rest
    else if a.toNat < 0xE0 then
      match rest with
      | b :: rest => .ofNat (a.toNat % 32 * 64 + b.toNat % 64) :: decode rest
      | [] => []
    else
      match rest with
      | b :: c :: rest =>
        .ofNat (a.toNat % 16 * 4096 + b.toNat % 64 * 64 + c.toNat % 64) :: decode rest
      | _ => []

theorem decode_encodeUnit (c : UInt16) (rest : List UInt8) :
    decode (encodeUnit c ++ rest) = c :: decode rest := by
  have hc := c.toNat_lt
  have hb : ∀ n, n = c.toNat → UInt16.ofNat n = c := by
    rintro n rfl
    exact UInt16.ofNat_toNat
  unfold encodeUnit
  simp only
  split
  next h1 =>
    rw [singleton_append, decode.eq_def]
    simp only
    rw [if_pos (by rw [UInt8.toNat_ofNat']; omega), hb _ (by rw [UInt8.toNat_ofNat']; omega)]
  next h1 =>
    split
    next h2 =>
      simp only [cons_append, nil_append, decode]
      rw [if_neg (by rw [UInt8.toNat_ofNat']; omega), if_pos (by rw [UInt8.toNat_ofNat']; omega),
        hb _ (by simp only [UInt8.toNat_ofNat']; omega)]
    next h2 =>
      simp only [cons_append, nil_append, decode]
      rw [if_neg (by rw [UInt8.toNat_ofNat']; omega), if_neg (by rw [UInt8.toNat_ofNat']; omega),
        hb _ (by simp only [UInt8.toNat_ofNat']; omega)]

theorem decode_encode (w : List UInt16) : decode (encode w) = w := by
  induction w with
  | nil => rfl
  | cons c w ih => rw [encode, flatMap_cons, decode_encodeUnit, ← encode, ih]

theorem encode_ascii {s : List UInt8} (hs : ∀ c ∈ s, c < 0x80) :
    encode (s.map UInt8.toUInt16) = s := by
  induction s with
  | nil => rfl
  | cons c s ih =>
    have hc : c.toNat < 0x80 := UInt8.lt_iff_toNat_lt.1 (hs c (by simp))
    rw [map_cons, encode, flatMap_cons, ← encode, ih (fun x hx => hs x (mem_cons_of_mem c hx))]
    simp [encodeUnit, hc]

end TelephonyCore.Lib.Utf8
