import TelephonyCore.Codec.RequestApduBuild

/-!
# `BuildStoreData` on texts of any length

The cursor of `BuildStoreData` is an `int32_t` and grows by 510 with every block, so the loop leaves
its range on a text of about 2 GiB. `buildStoreDataChecked` has no result where the addition
overflows, which is undefined in the source, or where `substr` would throw; wherever the cursor
stays in range it is `buildStoreData`.
-/

namespace TelephonyCore.Codec

open List Option

def MAX_INT32 : Nat := 2 ^ 31 - 1

namespace RequestApduBuild

def substrFrom (cmdHex : StdString) (startPos : Nat) : Option StdString :=
  if startPos ≤ cmdHex.length then some (cmdHex.drop startPos) else none

def advance (startPos : Nat) : Option Nat :=
  if startPos + cmdLen ≤ MAX_INT32 then some (startPos + cmdLen) else none

def storeDataLoopChecked (cmdHex : StdString) :
    Nat → UInt32 → Nat → UInt32 → RequestApduBuild → Option (Nat × UInt32 × RequestApduBuild)
  | 0, _, startPos, leastLen, b => some (startPos, leastLen, b)
  | count + 1, i, startPos, leastLen, b => do
    let data ← substrFrom cmdHex startPos
    let apduData := constructApduData P1_STORE_DATA_INTERM (i - 1) MAX_UINT8 (data.take cmdLen)
    let startPos ← advance startPos
    storeDataLoopChecked cmdHex count (i + 1) startPos (leastLen - MAX_UINT8) (b.addApdu apduData)

def buildStoreDataChecked (b : RequestApduBuild) (cmdHex : StdString) :
    Option RequestApduBuild := do
  let totalLen := UInt32.ofNat (cmdHex.length / BYTE_TO_HEX_LEN)
  let total := totalSubCmds totalLen
  let (startPos, leastLen, b) ← storeDataLoopChecked cmdHex (total.toNat - 1) 1 0 totalLen b
  let lastData ← substrFrom cmdHex startPos
  return b.addApdu (constructApduData P1_STORE_DATA_END (total - 1) leastLen lastData)

/-! ## The two loops -/

variable {cmdHex : StdString} {count startPos : Nat} {i leastLen : UInt32} {b : RequestApduBuild}

theorem storeDataLoopChecked_succ (hp : startPos ≤ cmdHex.length)
    (hm : startPos + cmdLen ≤ MAX_INT32) :
    storeDataLoopChecked cmdHex (count + 1) i startPos leastLen b
      = storeDataLoopChecked cmdHex count (i + 1) (startPos + cmdLen) (leastLen - MAX_UINT8)
          (b.addApdu (constructApduData P1_STORE_DATA_INTERM (i - 1) MAX_UINT8
            ((cmdHex.drop startPos).take cmdLen))) := by
  rw [storeDataLoopChecked, substrFrom, if_pos hp, advance, if_pos hm]
  rfl

/-- In range and inside the text the cursor's type makes no difference. -/
theorem storeDataLoopChecked_eq (cmdHex : StdString) (count : Nat) (i : UInt32) (startPos : Nat)
    (leastLen : UInt32) (b : RequestApduBuild) (hp : startPos + cmdLen * count ≤ cmdHex.length)
    (hm : startPos + cmdLen * count ≤ MAX_INT32) :
    storeDataLoopChecked cmdHex count i startPos leastLen b
      = some (storeDataLoop cmdHex count i startPos leastLen b) := by
  induction count generalizing i startPos leastLen b with
  | zero => rfl
  | succ count ih =>
    rw [Nat.mul_succ] at hp hm
    rw [storeDataLoopChecked_succ (by omega) (by omega), ih _ _ _ _ (by omega) (by omega)]
    rfl

variable {r : Nat × UInt32 × RequestApduBuild} {channelId : Int32}

theorem storeDataLoopChecked_some
    (h : storeDataLoopChecked cmdHex count i startPos leastLen b = some r)
    (hm : startPos ≤ MAX_INT32) :
    r.1 = startPos + cmdLen * count ∧ r.1 ≤ MAX_INT32 ∧
      r.2.2.apduCommandLst.length = b.apduCommandLst.length + count := by
  induction count generalizing i startPos leastLen b with
  | zero =>
    cases h
    exact ⟨rfl, hm, rfl⟩
  | succ count ih =>
    by_cases hp : startPos ≤ cmdHex.length
    · by_cases hn : startPos + cmdLen ≤ MAX_INT32
      · rw [storeDataLoopChecked_succ hp hn] at h
        obtain ⟨_, hrg, hl⟩ := ih h hn
        refine ⟨by rw [Nat.mul_succ]; omega, hrg, ?_⟩
        rw [hl, addApdu, length_append, length_singleton]
        omega
      · simp [storeDataLoopChecked, advance, hn] at h
    · simp [storeDataLoopChecked, substrFrom, hp] at h

def intermBlock (channelId : Int32) (cmdHex : StdString) (j : Nat) : ApduCommand :=
  ⟨channelId.toUInt32, constructApduData P1_STORE_DATA_INTERM (UInt32.ofNat j) MAX_UINT8
    ((cmdHex.drop (cmdLen * j)).take cmdLen)⟩

theorem ofNat_succ_sub_one (j : Nat) : .ofNat (j + 1) - 1 = UInt32.ofNat j := by
  rw [UInt32.ofNat_add]
  exact UInt32.add_sub_cancel _ _

theorem storeDataLoop_commands (cmdHex : StdString) (count j : Nat) (leastLen : UInt32)
    (b : RequestApduBuild) :
    (storeDataLoop cmdHex count (.ofNat (j + 1)) (cmdLen * j) leastLen b).2.2
      = { b with apduCommandLst := b.apduCommandLst
            ++ (List.range' j count).map (intermBlock b.channelId cmdHex) } := by
  induction count generalizing j leastLen b with
  | zero => simp [storeDataLoop]
  | succ count ih =>
    have ht : UInt32.ofNat (j + 1) + 1 = UInt32.ofNat (j + 1 + 1) := by
      rw [UInt32.ofNat_add (j + 1) 1]
      rfl
    rw [storeDataLoop, ht, ofNat_succ_sub_one, ← Nat.mul_succ, ih]
    simp [addApdu, intermBlock, range'_succ]

/-! ## What a text should be cut into -/

/-- The number of commands for `n` bytes: one for every 255, and one if there are none. -/
def blockCount (n : Nat) : Nat := max 1 ((n + 254) / 255)

/-- The `i`-th of `k` commands for a text of `n` bytes. -/
structure IsSegment (n k i : Nat) (c : ApduCommand) : Prop where
  p2 : c.data.p2.toNat = i
  p3 : 2 * c.data.p3.toNat = c.data.cmdHex.length
  interm : i < k - 1 → c.data.p1 = P1_STORE_DATA_INTERM ∧ c.data.cmdHex.length = 2 * 255
  closing : i = k - 1 → c.data.p1 = P1_STORE_DATA_END ∧ c.data.cmdHex.length ≤ 2 * 255 ∧
    (0 < n → 2 * 1 ≤ c.data.cmdHex.length)

/-- `BuildStoreData` appends the commands for the text to the list and changes nothing
else. -/
def StoresInBlocks (b : RequestApduBuild) (cmdHex : StdString) : Prop :=
  ∃ cmds, b.buildStoreDataChecked cmdHex
      = some { b with apduCommandLst := b.apduCommandLst ++ cmds } ∧
    cmds.length = blockCount (cmdHex.length / 2) ∧ carried cmds = cmdHex ∧
    ∀ i c, cmds[i]? = some c → IsSegment (cmdHex.length / 2) (blockCount (cmdHex.length / 2)) i c

/-- The last block starts where an `int32_t` can point. -/
def CursorFits (cmdHex : StdString) : Prop :=
  cmdLen * (blockCount (cmdHex.length / 2) - 1) ≤ MAX_INT32

theorem CursorFits.length_le (h : CursorFits cmdHex) :
    cmdHex.length < 2 ^ 32 ∧ cmdHex.length / 2 < 2 ^ 31 := by
  have hf : 510 * (blockCount (cmdHex.length / 2) - 1) ≤ 2 ^ 31 - 1 := h
  unfold blockCount at hf
  omega

theorem CursorFits.totalLen_toNat (h : CursorFits cmdHex) :
    (UInt32.ofNat (cmdHex.length / BYTE_TO_HEX_LEN)).toNat = cmdHex.length / 2 := by
  have hsh := h.length_le.2
  exact RequestApduBuild.totalLen_toNat (by omega)

theorem CursorFits.total_toNat (h : CursorFits cmdHex) :
    (totalSubCmds (.ofNat (cmdHex.length / BYTE_TO_HEX_LEN))).toNat
      = blockCount (cmdHex.length / 2) := by
  have hl := h.totalLen_toNat
  have hsh := h.length_le.2
  rw [totalSubCmds_toNat (by omega), hl]
  rfl

theorem blockCount_bounds (n : Nat) :
    255 * (blockCount n - 1) ≤ n ∧ n ≤ 255 * (blockCount n - 1) + 255 ∧
      (0 < n → 255 * (blockCount n - 1) < n) := by
  unfold blockCount
  omega

/-- **The cursor's type is the only limit**. -/
theorem buildStoreDataChecked_eq (b : RequestApduBuild) (h : CursorFits cmdHex) :
    b.buildStoreDataChecked cmdHex = some (b.buildStoreData cmdHex) := by
  obtain ⟨hf, -, -⟩ := blockCount_bounds (cmdHex.length / 2)
  have hin : 0 + cmdLen * (blockCount (cmdHex.length / 2) - 1) ≤ cmdHex.length := by
    show 0 + 510 * _ ≤ _
    omega
  have hl := storeDataLoopChecked_eq cmdHex _ 1 0
    (.ofNat (cmdHex.length / BYTE_TO_HEX_LEN)) b hin (by rw [Nat.zero_add]; exact h)
  obtain ⟨_, _, hr, -⟩ := storeDataLoop_spec cmdHex _ 1 0
    (.ofNat (cmdHex.length / BYTE_TO_HEX_LEN)) b hin
    (by rw [h.totalLen_toNat]; exact hf)
  unfold buildStoreDataChecked buildStoreData
  simp only [h.total_toNat, hl, hr, bind_eq_bind, bind_some]
  rw [substrFrom, if_pos hin]
  rfl

def closingBlock (channelId : Int32) (cmdHex : StdString) (k : Nat) (least : UInt32) :
    ApduCommand :=
  ⟨channelId.toUInt32, constructApduData P1_STORE_DATA_END (UInt32.ofNat (k - 1)) least
    (cmdHex.drop (cmdLen * (k - 1)))⟩

theorem buildStoreData_commands (b : RequestApduBuild) (h : CursorFits cmdHex) :
    ∃ least, least.toNat = cmdHex.length / 2 - 255 * (blockCount (cmdHex.length / 2) - 1) ∧
      b.buildStoreData cmdHex = { b with apduCommandLst := b.apduCommandLst
        ++ ((List.range (blockCount (cmdHex.length / 2) - 1)).map (intermBlock b.channelId cmdHex)
          ++ [closingBlock b.channelId cmdHex (blockCount (cmdHex.length / 2)) least]) } := by
  obtain ⟨hf, -, -⟩ := blockCount_bounds (cmdHex.length / 2)
  obtain ⟨least, _, hr, hls, -, -⟩ := storeDataLoop_spec cmdHex
    (blockCount (cmdHex.length / 2) - 1) 1 0 (.ofNat (cmdHex.length / BYTE_TO_HEX_LEN)) b
    (by show 0 + 510 * _ ≤ _; omega) (by rw [h.totalLen_toNat]; exact hf)
  have hc := storeDataLoop_commands cmdHex (blockCount (cmdHex.length / 2) - 1) 0
    (.ofNat (cmdHex.length / BYTE_TO_HEX_LEN)) b
  rw [Nat.mul_zero, ← range_eq_range', show UInt32.ofNat (0 + 1) = 1 from rfl, hr] at hc
  have hlt : totalSubCmds (.ofNat (cmdHex.length / BYTE_TO_HEX_LEN)) - 1
      = .ofNat (blockCount (cmdHex.length / 2) - 1) := by
    have hp : 1 ≤ blockCount (cmdHex.length / 2) := Nat.le_max_left 1 _
    rw [← UInt32.ofNat_toNat (x := totalSubCmds _), h.total_toNat,
      ← ofNat_succ_sub_one (blockCount _ - 1), Nat.sub_add_cancel hp]
  refine ⟨least, by rw [hls, h.totalLen_toNat], ?_⟩
  unfold buildStoreData
  simp only [h.total_toNat, hr, hlt]
  simp only at hc
  rw [hc]
  simp [addApdu, closingBlock]

variable {n : Nat}

theorem isSegment_of_getElem? {least : UInt32} (hln : cmdHex.length = 2 * n) (hn : n < 2 ^ 31)
    (hls : least.toNat = n - 255 * (blockCount n - 1)) {i : Nat} {c : ApduCommand}
    (hc : ((List.range (blockCount n - 1)).map (intermBlock channelId cmdHex)
      ++ [closingBlock channelId cmdHex (blockCount n) least])[i]? = some c) :
    IsSegment n (blockCount n) i c := by
  obtain ⟨hf, hr, hs⟩ := blockCount_bounds n
  have hp2 : ∀ j, j ≤ blockCount n - 1 → (UInt32.ofNat j).toNat = j := by
    intro j hj
    exact Nat.mod_eq_of_lt (show j < 2 ^ 32 by omega)
  rcases Nat.lt_or_ge i (blockCount n - 1) with hi | hi
  · -- an intermediate command: the text reaches beyond its block
    rw [getElem?_append_left (by simpa using hi), getElem?_map, getElem?_range hi] at hc
    cases hc
    have hb : ((cmdHex.drop (cmdLen * i)).take cmdLen).length = 2 * 255 := by
      rw [length_take, length_drop, hln]
      show min 510 (2 * n - 510 * i) = _
      omega
    exact ⟨hp2 i (by omega), hb.symm, fun _ => ⟨rfl, hb⟩, fun h => absurd h (by omega)⟩
  · rw [getElem?_append_right (by simpa using hi), length_map, length_range] at hc
    have hlt : i = blockCount n - 1 := by
      by_contra hne
      rw [getElem?_eq_none (by simp; omega)] at hc
      cases hc
    subst hlt
    rw [Nat.sub_self] at hc
    cases hc
    have hdt : (cmdHex.drop (cmdLen * (blockCount n - 1))).length
        = 2 * n - 510 * (blockCount n - 1) := by
      rw [length_drop, hln]
      rfl
    refine ⟨hp2 _ (Nat.le_refl _), ?_, fun h => absurd h (Nat.lt_irrefl _), fun _ => ⟨rfl, ?_, ?_⟩⟩
    · show 2 * least.toNat = (cmdHex.drop (cmdLen * (blockCount n - 1))).length
      omega
    · show (cmdHex.drop (cmdLen * (blockCount n - 1))).length ≤ _
      omega
    · intro hps
      show _ ≤ (cmdHex.drop (cmdLen * (blockCount n - 1))).length
      omega

/-- Each block but the last moved the cursor by 510, and an overflow would have ended the run. -/
theorem StoresInBlocks.cursorFits (h : StoresInBlocks b cmdHex) : CursorFits cmdHex := by
  obtain ⟨cmds, hrn, hc, -, -⟩ := h
  obtain ⟨⟨startPos, leastLen, b'⟩, hlp, hrn⟩ := bind_eq_some_iff.1 hrn
  obtain ⟨lastData, -, hrn⟩ := bind_eq_some_iff.1 hrn
  obtain ⟨hp, hrg, hln⟩ := storeDataLoopChecked_some hlp (Nat.zero_le _)
  have hls := congrArg (fun b => b.apduCommandLst.length) (some.inj hrn)
  simp only [addApdu, length_append, length_singleton] at hls hln
  rw [hp, Nat.zero_add] at hrg
  have ht : blockCount (cmdHex.length / 2) - 1
      = (totalSubCmds (UInt32.ofNat (cmdHex.length / BYTE_TO_HEX_LEN))).toNat - 1 := by omega
  rw [CursorFits, ht]
  exact hrg

theorem CursorFits.storesInBlocks (h : CursorFits cmdHex) (hln : cmdHex.length = 2 * n) :
    StoresInBlocks b cmdHex := by
  obtain ⟨hsh, hbs⟩ := h.length_le
  obtain ⟨least, hls, hbd⟩ := buildStoreData_commands b h
  obtain ⟨cmds, hsp, hcr, -⟩ := buildStoreData_spec b hsh
  have hn : cmdHex.length / 2 = n := by omega
  refine ⟨cmds, ?_, ?_⟩
  · rw [buildStoreDataChecked_eq b h, hsp]
  · -- the two descriptions of the new list are of one list
    rw [hbd] at hsp
    have hcm := append_cancel_left (congrArg apduCommandLst hsp)
    rw [hn] at hls hcm hbs ⊢
    refine ⟨?_, hcr, ?_⟩
    · have hp : 1 ≤ blockCount n := Nat.le_max_left 1 _
      rw [← hcm, length_append, length_map, length_range, length_singleton, Nat.sub_add_cancel hp]
    · intro i c hc
      rw [← hcm] at hc
      exact isSegment_of_getElem? hln hbs hls hc

theorem cursorFits_iff (hl : cmdHex.length = 2 * n) :
    CursorFits cmdHex ↔ 510 * (blockCount n - 1) ≤ 2 ^ 31 - 1 := by
  rw [CursorFits, show cmdHex.length / 2 = n by omega]
  rfl

/-- **STORE DATA segmentation.** A text of whole bytes is cut as it should be exactly when its last
block starts within the range of the cursor. -/
theorem storesInBlocks_iff (b : RequestApduBuild) (cmdHex : StdString) (n : Nat)
    (hlen : cmdHex.length = 2 * n) :
    StoresInBlocks b cmdHex ↔ cmdHex.length ≤ 2147484030 := by
  have hfits : CursorFits cmdHex ↔ cmdHex.length ≤ 2147484030 := by
    rw [cursorFits_iff hlen, blockCount]
    omega
  rw [← hfits]
  exact ⟨StoresInBlocks.cursorFits, fun h => h.storesInBlocks hlen⟩

theorem storesInBlocks_two : StoresInBlocks ⟨1, [⟨1, {}⟩]⟩ [0x30, 0x31, 0x41, 0x42] :=
  (storesInBlocks_iff _ _ 2 rfl).2 (by decide)

/-- A text of 1073742016 bytes needs 4210754 commands, and the cursor of the last one
would be 2147484030. -/
theorem long_text_not_stored :
    ¬ StoresInBlocks { channelId := 1 } (List.replicate (2 * 1073742016) 0x30) := by
  intro h
  have hf := (cursorFits_iff length_replicate).1 h.cursorFits
  unfold blockCount at hf
  omega

/-! ## The first command

Some callers send only the first command of the list. -/

def subCmds (cmdHex : StdString) : Nat :=
  (totalSubCmds (UInt32.ofNat (cmdHex.length / BYTE_TO_HEX_LEN))).toNat

theorem buildStoreDataChecked_def (b : RequestApduBuild) (cmdHex : StdString) :
    b.buildStoreDataChecked cmdHex
      = (storeDataLoopChecked cmdHex (subCmds cmdHex - 1) 1 0
          (.ofNat (cmdHex.length / BYTE_TO_HEX_LEN)) b).bind fun r =>
        (substrFrom cmdHex r.1).bind fun lastData =>
          some (r.2.2.addApdu (constructApduData P1_STORE_DATA_END
            (totalSubCmds (.ofNat (cmdHex.length / BYTE_TO_HEX_LEN)) - 1) r.2.1 lastData)) :=
  rfl

/-- Whatever the `uint32_t` arithmetic makes of a length, the cursor stays in the text. -/
theorem subCmds_le (cmdHex : StdString) :
    510 * (subCmds cmdHex - 1) ≤ cmdHex.length ∧ (1 < subCmds cmdHex → 510 < cmdHex.length) := by
  unfold subCmds totalSubCmds
  have hl : (UInt32.ofNat (cmdHex.length / BYTE_TO_HEX_LEN)).toNat ≤ cmdHex.length / 2 := by
    exact Nat.mod_le _ _
  generalize UInt32.ofNat (cmdHex.length / BYTE_TO_HEX_LEN) = totalLen at hl
  split
  · simp
  · have hs : totalLen + MAX_UINT8 - 1 = totalLen + 254 := by
      rw [UInt32.sub_eq_add_neg, UInt32.add_assoc]
      rfl
    have had : (totalLen + 254).toNat ≤ totalLen.toNat + 254 := by
      exact Nat.mod_le _ _
    rw [hs, UInt32.toNat_div, show MAX_UINT8.toNat = 255 from rfl]
    omega

theorem subCmds_le_one_iff (h : cmdHex.length < 2 ^ 32) :
    subCmds cmdHex ≤ 1 ↔ cmdHex.length ≤ 511 := by
  have hl := totalLen_toNat (show cmdHex.length / 2 < 2 ^ 32 by omega)
  rw [subCmds, totalSubCmds_toNat (by omega), hl]
  omega

theorem storeDataLoopChecked_prefix
    (h : storeDataLoopChecked cmdHex count i startPos leastLen b = some r) :
    b.apduCommandLst <+: r.2.2.apduCommandLst := by
  induction count generalizing i startPos leastLen b with
  | zero =>
    cases h
    exact prefix_refl _
  | succ count ih =>
    obtain ⟨data, -, h⟩ := bind_eq_some_iff.1 h
    obtain ⟨next, -, h⟩ := bind_eq_some_iff.1 h
    exact (prefix_append _ _).trans (ih h)

theorem buildStoreDataChecked_isSome_iff (b : RequestApduBuild) (cmdHex : StdString) :
    (b.buildStoreDataChecked cmdHex).isSome ↔ cmdLen * (subCmds cmdHex - 1) ≤ MAX_INT32 := by
  have hin : 0 + cmdLen * (subCmds cmdHex - 1) ≤ cmdHex.length := by
    rw [Nat.zero_add]
    exact (subCmds_le cmdHex).1
  constructor
  · intro h
    obtain ⟨codec, hrn⟩ := isSome_iff_exists.1 h
    obtain ⟨r, hl, -⟩ := bind_eq_some_iff.1 hrn
    obtain ⟨hp, hrg, -⟩ := storeDataLoopChecked_some hl (Nat.zero_le _)
    rw [hp, Nat.zero_add] at hrg
    exact hrg
  · intro h
    have hl := storeDataLoopChecked_eq cmdHex _ 1 0
      (UInt32.ofNat (cmdHex.length / BYTE_TO_HEX_LEN)) b hin (by rw [Nat.zero_add]; exact h)
    obtain ⟨hp, -, -⟩ := storeDataLoopChecked_some hl (Nat.zero_le _)
    rw [buildStoreDataChecked_def, hl, bind_some, hp, substrFrom, if_pos hin]
    rfl

theorem buildStoreDataChecked_first {codec : RequestApduBuild}
    (h : ({ channelId := channelId } : RequestApduBuild).buildStoreDataChecked cmdHex
      = some codec) :
    ∃ cmd rest, codec.getCommands.1 = cmd :: rest ∧
      cmd.data.cmdHex = if subCmds cmdHex ≤ 1 then cmdHex else cmdHex.take cmdLen := by
  rw [buildStoreDataChecked_def] at h
  obtain ⟨r, hlp, h⟩ := bind_eq_some_iff.1 h
  obtain ⟨lastData, hlt, h⟩ := bind_eq_some_iff.1 h
  cases h
  by_cases ho : subCmds cmdHex ≤ 1
  · -- no turn of the loop: the closing command is the only one
    rw [Nat.sub_eq_zero_of_le ho] at hlp
    cases hlp
    rw [if_pos ho]
    refine ⟨_, [], rfl, ?_⟩
    cases hlt
    rfl
  · rw [if_neg ho]
    obtain ⟨count, hc⟩ : ∃ count, subCmds cmdHex - 1 = count + 1 := ⟨subCmds cmdHex - 2, by omega⟩
    rw [hc, storeDataLoopChecked] at hlp
    obtain ⟨data, hdt, hlp⟩ := bind_eq_some_iff.1 hlp
    cases hdt
    obtain ⟨rest, hr⟩ := storeDataLoopChecked_prefix hlp
    have hls : ∀ last, r.2.2.apduCommandLst ++ [last]
        = intermBlock channelId cmdHex 0 :: (rest ++ [last]) := by
      intro last
      rw [← hr]
      rfl
    exact ⟨_, _, hls _, rfl⟩

theorem first_eq_iff (cmdHex : StdString) :
    (if subCmds cmdHex ≤ 1 then cmdHex else cmdHex.take cmdLen) = cmdHex ↔ subCmds cmdHex ≤ 1 := by
  by_cases ho : subCmds cmdHex ≤ 1
  · rw [if_pos ho]
    exact iff_of_true rfl ho
  · rw [if_neg ho]
    refine iff_of_false ?_ ho
    intro h
    have hle := congrArg List.length h
    have hln := (subCmds_le cmdHex).2 (by omega)
    rw [length_take, show cmdLen = 510 from rfl] at hle
    omega

end RequestApduBuild

end TelephonyCore.Codec
