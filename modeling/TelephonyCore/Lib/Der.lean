import TelephonyCore.Lib.Radix

/-!
# Tag-length-value strings with minimal lengths

A number is written in its *minimal* big-endian bytes (at least one). A length below 128 is one
byte, a longer one is a count byte `0x80 + k` and `k` minimal bytes. `wfTagOctets` is the shape a
scanner relies on to find the end of a tag: one byte whose low five bits are not all ones, or a lead
byte with all five set followed by continuation bytes (bit 8 set) and one closing byte (bit 8
clear).
-/

namespace TelephonyCore.Lib.Der

open Lib

/-! ## Minimal numbers -/

def byteCount (n : Nat) : Nat := Nat.log 256 n + 1

theorem lt_pow_byteCount (n : Nat) : n < 256 ^ byteCount n :=
  Nat.lt_pow_succ_log_self (by decide) n

theorem byteCount_pos (n : Nat) : 0 < byteCount n := Nat.succ_pos _

theorem byteCount_eq {k n : Nat} (hlo : 256 ^ k ≤ n ∨ k = 0) (hhi : n < 256 ^ (k + 1)) :
    byteCount n = k + 1 := by
  unfold byteCount
  rcases hlo with hlo | rfl
  · rw [Nat.log_eq_of_pow_le_of_lt_pow hlo hhi]
  · rw [Nat.log_of_lt (by simpa using hhi)]

/-- The minimal big-endian bytes of a number. -/
def minimalBytes (n : Nat) : List UInt8 := beBytes (byteCount n) n

@[simp] theorem minimalBytes_length (n : Nat) : (minimalBytes n).length = byteCount n := by
  simp [minimalBytes]

theorem minimalBytes_ne_nil (n : Nat) : minimalBytes n ≠ [] := by
  intro h
  have := congrArg List.length h
  simp [byteCount] at this

theorem ofBeBytes_minimalBytes (n : Nat) : ofBeBytes (minimalBytes n) = n :=
  ofBeBytes_beBytes (lt_pow_byteCount n)

/-! ## Tags and lengths -/

/-- The rest of a multi-byte tag: continuation bytes, then one closing byte. -/
def wfTagTail : List UInt8 → Bool
  | [] => false
  | [last] => last &&& 0x80 == 0
  | c :: rest => c &&& 0x80 != 0 && wfTagTail rest

def wfTagOctets : List UInt8 → Bool
  | [] => false
  | b :: rest => if b &&& 0x1F == 0x1F then wfTagTail rest else rest.isEmpty

/-- A well-formed tag: fits a signed 32-bit word and has the byte shape of one tag. -/
def WfTag (tag : Nat) : Prop := tag < 2 ^ 31 ∧ wfTagOctets (minimalBytes tag) = true

instance (tag : Nat) : Decidable (WfTag tag) :=
  inferInstanceAs (Decidable (tag < 2 ^ 31 ∧ wfTagOctets (minimalBytes tag) = true))

def constructedTag (tag : Nat) : Bool :=
  match minimalBytes tag with
  | [] => false
  | b :: _ => b &&& 0x20 != 0

def lengthCount (n : Nat) : Nat := if n ≤ 127 then 1 else 1 + byteCount n

/-- One byte up to 127, else a count byte and minimal bytes. -/
def lengthOctets (n : Nat) : List UInt8 :=
  if n ≤ 127 then [UInt8.ofNat n] else UInt8.ofNat (128 + byteCount n) :: minimalBytes n

@[simp] theorem lengthOctets_length (n : Nat) : (lengthOctets n).length = lengthCount n := by
  unfold lengthOctets lengthCount
  split
  · rfl
  · simp [Nat.add_comm]

theorem lengthCount_pos (n : Nat) : 0 < lengthCount n := by
  unfold lengthCount
  split
  · exact Nat.one_pos
  · omega

/-! ## Objects -/

/-- One encoded object: tag bytes, length bytes, content. -/
def tlv (tag : Nat) (content : List UInt8) : List UInt8 :=
  minimalBytes tag ++ lengthOctets content.length ++ content

/-- The header of an object with `n` bytes of content. -/
def header (tag n : Nat) : List UInt8 := minimalBytes tag ++ lengthOctets n

theorem tlv_eq_header (tag : Nat) (content : List UInt8) :
    tlv tag content = header tag content.length ++ content := rfl

@[simp] theorem header_length (tag n : Nat) :
    (header tag n).length = byteCount tag + lengthCount n := by
  simp [header]

@[simp] theorem tlv_length (tag : Nat) (content : List UInt8) :
    (tlv tag content).length = byteCount tag + lengthCount content.length + content.length := by
  simp [tlv, Nat.add_assoc]

theorem two_le_tlv_length (tag : Nat) (content : List UInt8) : 2 ≤ (tlv tag content).length := by
  have h1 := byteCount_pos tag
  have h2 := lengthCount_pos content.length
  rw [tlv_length]
  omega

/-- An object tree: primitive objects carry bytes, constructed ones carry objects. -/
inductive Tlv where
  | prim (tag : Nat) (content : List UInt8)
  | cons (tag : Nat) (children : List Tlv)

namespace Tlv

def tag : Tlv → Nat
  | prim t _ => t
  | cons t _ => t

mutual
def encode : Tlv → List UInt8
  | prim t content => tlv t content
  | cons t children => tlv t (encodeAll children)

def encodeAll : List Tlv → List UInt8
  | [] => []
  | t :: ts => encode t ++ encodeAll ts
end

mutual
def depth : Tlv → Nat
  | prim _ _ => 0
  | cons _ children => depthAll children + 1

def depthAll : List Tlv → Nat
  | [] => 0
  | t :: ts => max (depth t) (depthAll ts)
end

def content : Tlv → List UInt8
  | prim _ c => c
  | cons _ children => encodeAll children

theorem encode_eq_tlv (t : Tlv) : encode t = tlv t.tag t.content := by
  cases t <;> rfl

theorem encodeAll_eq_flatMap (ts : List Tlv) : encodeAll ts = ts.flatMap encode := by
  induction ts with
  | nil => rfl
  | cons t ts ih => rw [encodeAll, ih, List.flatMap_cons]

theorem depth_le_depthAll {t : Tlv} {ts : List Tlv} (h : t ∈ ts) : depth t ≤ depthAll ts := by
  induction ts with
  | nil => cases h
  | cons u us ih =>
    rw [depthAll]
    rcases List.mem_cons.1 h with rfl | h'
    · exact Nat.le_max_left _ _
    · exact Nat.le_trans (ih h') (Nat.le_max_right _ _)

mutual
/-- Every tag of the tree is well formed; leaves are primitive and inner objects constructed. -/
def Wf : Tlv → Prop
  | prim t _ => WfTag t ∧ constructedTag t = false
  | cons t children => WfTag t ∧ constructedTag t = true ∧ WfAll children

def WfAll : List Tlv → Prop
  | [] => True
  | t :: ts => Wf t ∧ WfAll ts
end

mutual
def decWf : (t : Tlv) → Decidable (Wf t)
  | prim t _ => inferInstanceAs (Decidable (WfTag t ∧ constructedTag t = false))
  | cons t children =>
    letI := decWfAll children
    inferInstanceAs (Decidable (WfTag t ∧ constructedTag t = true ∧ WfAll children))

def decWfAll : (ts : List Tlv) → Decidable (WfAll ts)
  | [] => .isTrue trivial
  | t :: ts =>
    letI := decWf t
    letI := decWfAll ts
    inferInstanceAs (Decidable (Wf t ∧ WfAll ts))
end

instance (t : Tlv) : Decidable (Wf t) := decWf t

theorem wfAll_iff (ts : List Tlv) : WfAll ts ↔ ∀ t ∈ ts, Wf t := by
  induction ts with
  | nil => simp [WfAll]
  | cons t ts ih => simp [WfAll, ih]

theorem Wf.tag {t : Tlv} (h : Wf t) : WfTag t.tag := by
  cases t with
  | prim tag c => exact h.1
  | cons tag cs => exact h.1

end Tlv

end TelephonyCore.Lib.Der
