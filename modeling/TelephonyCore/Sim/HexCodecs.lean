import TelephonyCore.Esim.OneCommand
import TelephonyCore.Phonebook.SimUtils

/-!
# Two hex codecs

`Asn1Utils` reads a hex text through `strtol`, two characters at a time, and `SIMUtils` by the
nibbles. On texts of hex digits they agree, since they agree on each pair. The BCD conversions swap
the characters of each pair before the one and after the other.
-/

namespace TelephonyCore.Sim

open Codec Lib List Phonebook
open Esim (bcdToBytes)

def IsHexDigit (c : UInt8) : Prop := (hexVal c).isSome

def IsUpperHexDigit (c : UInt8) : Prop := (48 ≤ c ∧ c ≤ 57) ∨ (65 ≤ c ∧ c ≤ 70)

def hexDigits : StdString := ascii "0123456789ABCDEFabcdef"

theorem mem_hexDigits {c : UInt8} (h : IsHexDigit c) : c ∈ hexDigits :=
  forall_byte (P := fun c => (hexVal c).isSome → c ∈ hexDigits) (by decide +kernel) c h

theorem mem_upperHexDigits {c : UInt8} (h : IsUpperHexDigit c) : c ∈ hexDigits.take 16 :=
  forall_byte (P := fun c => (48 ≤ c ∧ c ≤ 57) ∨ (65 ≤ c ∧ c ≤ 70) → c ∈ hexDigits.take 16)
    (by decide +kernel) c h

theorem hexPair_eq : ∀ hi ∈ hexDigits, ∀ lo ∈ hexDigits, .ofInt (strtol16 [hi, lo]) =
    (hexCharConvertToInt hi <<< 4) ||| hexCharConvertToInt lo := by
  decide +kernel

theorem upperHex_pair : ∀ hi ∈ hexDigits.take 16, ∀ lo ∈ hexDigits.take 16,
    upperHex [.ofInt (strtol16 [hi, lo])] = [hi, lo] := by
  decide +kernel

theorem even_tail {a b : UInt8} {rest : StdString} (h : (a :: b :: rest).length % 2 = 0) :
    rest.length % 2 = 0 := by
  simp only [length_cons] at h
  omega

theorem hexPairs_eq_hexBytes : ∀ s, (∀ c ∈ s, IsHexDigit c) → hexPairs s = hexBytes s
  | [], _ => rfl
  | [_], _ => rfl
  | hi :: lo :: rest, h => by
    simp only [forall_mem_cons] at h
    rw [hexPairs, hexBytes, hexPair_eq hi (mem_hexDigits h.1) lo (mem_hexDigits h.2.1),
      hexPairs_eq_hexBytes rest h.2.2]

theorem upperHex_hexPairs : ∀ s, s.length % 2 = 0 → (∀ c ∈ s, IsUpperHexDigit c) →
    upperHex (hexPairs s) = s
  | [], _, _ => rfl
  | [_], hl, _ => absurd hl (by simp)
  | hi :: lo :: rest, hl, h => by
    simp only [forall_mem_cons] at h
    rw [hexPairs, ← singleton_append, upperHex_append,
      upperHex_pair hi (mem_upperHexDigits h.1) lo (mem_upperHexDigits h.2.1),
      upperHex_hexPairs rest (even_tail hl) h.2.2]
    rfl

variable {s : StdString}

theorem hexStrToBytes_eq_hexPairs (hln : s.length % 2 = 0) (hle : s.length ≤ 2 * MAX_BPP_LENGTH) :
    hexStrToBytes s = hexPairs s := by
  rw [hexStrToBytes, if_neg (by rw [BYTE_TO_HEX_LEN]; omega), if_neg (by rw [BYTE_TO_HEX_LEN]; omega)]

theorem hexStringConvertToBytes_eq (hln : s.length % 2 = 0) (hle : s.length ≤ 2 * MAX_BPP_LENGTH)
    (h : ∀ c ∈ s, IsHexDigit c) :
    hexStringConvertToBytes s = if s = [] then none else some (hexStrToBytes s) := by
  rw [hexStringConvertToBytes, if_neg (not_not.2 hln), hexStrToBytes_eq_hexPairs hln hle,
    hexPairs_eq_hexBytes s h]

theorem isHexDigit_upperHex (bytes : List UInt8) : ∀ c ∈ upperHex bytes, IsHexDigit c := by
  intro c hc
  obtain ⟨d, hd, rfl⟩ := mem_map.1 hc
  obtain ⟨n, hn, hd⟩ := mem_flatMap.1 hd
  have hlt := toNat_mem_lt bytes n hn
  have hdg : d < 16 := by
    simp only [mem_cons, not_mem_nil, or_false] at hd
    omega
  rw [IsHexDigit, hexVal_hexDigit d hdg]
  rfl

theorem swapPairs_swapPairs : ∀ s, s.length % 2 = 0 → swapPairs (swapPairs s) = s
  | [], _ => rfl
  | [_], hl => absurd hl (by simp)
  | a :: b :: rest, hl => by
    rw [swapPairs, swapPairs, swapPairs_swapPairs rest (even_tail hl)]

theorem swapPairs_perm : ∀ s, s.length % 2 = 0 → (swapPairs s).Perm s
  | [], _ => .refl _
  | [_], hl => absurd hl (by simp)
  | a :: b :: rest, hl =>
    .trans (((swapPairs_perm rest (even_tail hl)).cons a).cons b) (.swap a b rest)

theorem swapHexCharPair_even (hln : s.length % 2 = 0) (hle : s.length ≤ 510) :
    swapHexCharPair s = swapPairs s := by
  have hm : MAX_UINT8.toNat * BYTE_TO_HEX_LEN = 510 := rfl
  rw [swapHexCharPair, if_neg (by omega), if_neg (by rw [BYTE_TO_HEX_LEN]; omega)]

theorem bchToString_bcdToBytes (hln : s.length % 2 = 0) (hle : s.length ≤ 510)
    (h : ∀ c ∈ s, IsUpperHexDigit c) : bchToString (bcdToBytes s) = s := by
  have hp := swapPairs_perm s hln
  have hs : (swapPairs s).length = s.length := hp.length_eq
  have hm : MAX_BPP_LENGTH = 245760 := rfl
  have hb : hexStrToBytes (swapPairs s) = hexPairs (swapPairs s) :=
    hexStrToBytes_eq_hexPairs (by omega) (by omega)
  have hcn := hexPairs_length (swapPairs s)
  rw [bchToString, bcdToBytes, swapHexCharPair_even hln hle, hb,
    bytesToHexStr_eq (by omega), upperHex_hexPairs _ (by omega) fun c hc => h c (hp.subset hc),
    swapHexCharPair_even (by omega) (by omega), swapPairs_swapPairs s hln]

/-- **The hex codecs** invert each other and agree. -/
theorem hex_codecs_agree :
    (∀ bytes, bytes.length ≤ MAX_BPP_LENGTH → hexStrToBytes (bytesToHexStr bytes) = bytes ∧
      (bytes ≠ [] → hexStringConvertToBytes (bytesToHexStr bytes) = some bytes)) ∧
    (∀ s, s.length % 2 = 0 → s.length ≤ 2 * MAX_BPP_LENGTH → (∀ c ∈ s, IsHexDigit c) →
      hexStringConvertToBytes s = if s = [] then none else some (hexStrToBytes s)) ∧
    ∀ s, s.length % 2 = 0 → s.length ≤ 510 → (∀ c ∈ s, IsUpperHexDigit c) →
      bchToString (bcdToBytes s) = s := by
  refine ⟨fun bytes hle => ⟨hexStrToBytes_bytesToHexStr hle, fun hne => ?_⟩,
    fun s => hexStringConvertToBytes_eq, fun s => bchToString_bcdToBytes⟩
  have hln := bytesToHexStr_length hle
  have hp := length_pos_iff.2 hne
  have hdg := isHexDigit_upperHex bytes
  rw [← bytesToHexStr_eq hle] at hdg
  rw [hexStringConvertToBytes_eq (by omega) (by omega) hdg, hexStrToBytes_bytesToHexStr hle,
    if_neg fun hnl => by rw [hnl, length_nil] at hln; omega]

end TelephonyCore.Sim
