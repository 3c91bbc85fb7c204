import TelephonyCore.Codec.Asn1Utils

/-!
# `RequestApduBuild`: cutting hex text into STORE DATA commands

`BuildStoreData` cuts one hex string into blocks of 255 bytes. All blocks but the last are sent by
the loop as intermediate ones; the rest, possibly empty, goes into the closing block.

The loop counts in `uint32_t`, which for a text below `2 ^ 32` characters never wraps: the cursor
stays inside the text and the length left to announce covers the blocks still to come. The cursor
itself is an `int32_t` in the source; here it has no limit, and `Codec/StoreData.lean` shows on
which texts that makes no difference.
-/

namespace TelephonyCore.Codec

open List

def CLA_STORE_DATA : UInt32 := 0x80
def INS_STORE_DATA : UInt32 := 0xE2
def P1_STORE_DATA_INTERM : UInt32 := 0x11
def P1_STORE_DATA_END : UInt32 := 0x91

structure ApduData where
  cla : UInt32 := 0
  ins : UInt32 := 0
  p1 : UInt32 := 0
  p2 : UInt32 := 0
  p3 : UInt32 := 0
  cmdHex : StdString := []
deriving DecidableEq

structure ApduCommand where
  channel : UInt32
  data : ApduData
deriving DecidableEq

structure RequestApduBuild where
  channelId : Int32
  apduCommandLst : List ApduCommand := []
deriving DecidableEq

namespace RequestApduBuild

def getCommands (b : RequestApduBuild) : List ApduCommand × RequestApduBuild :=
  (b.apduCommandLst, { b with apduCommandLst := [] })

def addApdu (b : RequestApduBuild) (apduData : ApduData) : RequestApduBuild :=
  { b with apduCommandLst := b.apduCommandLst ++ [⟨b.channelId.toUInt32, apduData⟩] }

def constructApduData (packetTag packetIndex packetLen : UInt32) (cmdHex : StdString) : ApduData :=
  { cla := CLA_STORE_DATA, ins := INS_STORE_DATA, p1 := packetTag, p2 := packetIndex
    p3 := packetLen, cmdHex := cmdHex }

def cmdLen : Nat := MAX_UINT8.toNat * BYTE_TO_HEX_LEN

/-- The `for` loop of `BuildStoreData` for `count` more turns, with the cursor, the length left and
the builder. -/
def storeDataLoop (cmdHex : StdString) :
    Nat → UInt32 → Nat → UInt32 → RequestApduBuild → Nat × UInt32 × RequestApduBuild
  | 0, _, startPos, leastLen, b => (startPos, leastLen, b)
  | count + 1, i, startPos, leastLen, b =>
    let data := (cmdHex.drop startPos).take cmdLen
    let apduData := constructApduData P1_STORE_DATA_INTERM (i - 1) MAX_UINT8 data
    storeDataLoop cmdHex count (i + 1) (startPos + cmdLen) (leastLen - MAX_UINT8) (b.addApdu apduData)

def totalSubCmds (totalLen : UInt32) : UInt32 :=
  if totalLen = 0 then 1 else (totalLen + MAX_UINT8 - 1) / MAX_UINT8

def buildStoreData (b : RequestApduBuild) (cmdHex : StdString) : RequestApduBuild :=
  let totalLen := UInt32.ofNat (cmdHex.length / BYTE_TO_HEX_LEN)
  let total := totalSubCmds totalLen
  match storeDataLoop cmdHex (total.toNat - 1) 1 0 totalLen b with
  | (startPos, leastLen, b) =>
    b.addApdu (constructApduData P1_STORE_DATA_END (total - 1) leastLen (cmdHex.drop startPos))

/-! ## The commands carry the text -/

/-- A STORE DATA command on channel `channelId` that announces its own length. -/
structure IsBlock (channelId : Int32) (c : ApduCommand) : Prop where
  channel : c.channel = channelId.toUInt32
  cla : c.data.cla = CLA_STORE_DATA
  ins : c.data.ins = INS_STORE_DATA
  p1 : c.data.p1 = P1_STORE_DATA_INTERM ∨ c.data.p1 = P1_STORE_DATA_END
  p3 : c.data.p3.toNat = c.data.cmdHex.length / BYTE_TO_HEX_LEN
  short : c.data.p3 ≤ MAX_UINT8

def carried (cmds : List ApduCommand) : StdString := cmds.flatMap (fun c => c.data.cmdHex)

theorem carried_append (xs ys : List ApduCommand) : carried (xs ++ ys) = carried xs ++ carried ys :=
  flatMap_append

theorem carried_flatten (groups : List (List ApduCommand)) :
    carried groups.flatten = (groups.map carried).flatten := by
  induction groups with
  | nil => rfl
  | cons g gs ih => rw [flatten_cons, carried_append, ih, map_cons, flatten_cons]

theorem storeDataLoop_spec (cmdHex : StdString) :
    ∀ count i startPos leastLen b,
      startPos + cmdLen * count ≤ cmdHex.length → 255 * count ≤ leastLen.toNat →
      ∃ least cmds,
        storeDataLoop cmdHex count i startPos leastLen b
          = (startPos + cmdLen * count, least,
              { b with apduCommandLst := b.apduCommandLst ++ cmds }) ∧
        least.toNat = leastLen.toNat - 255 * count ∧
        carried cmds = (cmdHex.drop startPos).take (cmdLen * count) ∧
        ∀ c ∈ cmds, IsBlock b.channelId c := by
  intro count
  induction count with
  | zero =>
    intro i startPos leastLen b _ _
    exact ⟨leastLen, [], by simp [storeDataLoop], rfl, by simp [carried], by simp⟩
  | succ count ih =>
    intro i startPos leastLen b hp hls
    have hcm : cmdLen = 510 := rfl
    rw [Nat.mul_succ] at hp hls
    -- one turn takes one block off the text and 255 off the length still to announce
    have hs : (leastLen - MAX_UINT8).toNat = leastLen.toNat - 255 :=
      UInt32.toNat_sub_of_le _ _ (by rw [UInt32.le_iff_toNat_le]; show 255 ≤ _; omega)
    have hb : ((cmdHex.drop startPos).take cmdLen).length = 510 := by
      rw [length_take, length_drop]
      omega
    obtain ⟨least, cmds, hlp, _, hcr, hal⟩ :=
      ih (i + 1) (startPos + cmdLen) (leastLen - MAX_UINT8)
        (b.addApdu (constructApduData P1_STORE_DATA_INTERM (i - 1) MAX_UINT8
          ((cmdHex.drop startPos).take cmdLen))) (by omega) (by omega)
    refine ⟨least, ⟨b.channelId.toUInt32, constructApduData P1_STORE_DATA_INTERM (i - 1) MAX_UINT8
          ((cmdHex.drop startPos).take cmdLen)⟩ :: cmds, ?_, by omega, ?_, ?_⟩
    · rw [storeDataLoop, hlp, Nat.mul_succ]
      simp only [addApdu, append_assoc, singleton_append]
      rw [show startPos + cmdLen + cmdLen * count = startPos + (cmdLen * count + cmdLen) by omega]
    · show (cmdHex.drop startPos).take cmdLen ++ carried cmds = _
      rw [hcr, Nat.mul_succ, Nat.add_comm (cmdLen * count), take_add, drop_drop]
    · intro c hc
      rcases mem_cons.1 hc with rfl | hc
      · exact ⟨rfl, rfl, rfl, .inl rfl,
          by show 255 = ((cmdHex.drop startPos).take cmdLen).length / 2; rw [hb],
          UInt32.le_refl _⟩
      · exact hal c hc

variable {cmdHex : StdString} {totalLen : UInt32}

theorem totalLen_toNat (h : cmdHex.length / 2 < 2 ^ 32) :
    (UInt32.ofNat (cmdHex.length / BYTE_TO_HEX_LEN)).toNat = cmdHex.length / 2 := by
  exact Nat.mod_eq_of_lt h

theorem totalSubCmds_toNat (h : totalLen.toNat < 2 ^ 31) :
    (totalSubCmds totalLen).toNat = max 1 ((totalLen.toNat + 254) / 255) := by
  unfold totalSubCmds
  by_cases h0 : totalLen = 0
  · rw [if_pos h0, h0]
    decide
  · have hps : 0 < totalLen.toNat := by
      rcases Nat.eq_zero_or_pos totalLen.toNat with hz | hp
      · exact absurd (UInt32.toNat_inj.1 hz) h0
      · exact hp
    have hs : (totalLen + MAX_UINT8 - 1).toNat = totalLen.toNat + 254 := by
      have had : (totalLen + MAX_UINT8).toNat = totalLen.toNat + 255 := by
        exact Nat.mod_eq_of_lt (show totalLen.toNat + 255 < 2 ^ 32 by omega)
      rw [UInt32.toNat_sub_of_le _ _ (by rw [UInt32.le_iff_toNat_le, had]; show 1 ≤ _; omega), had]
      rfl
    rw [if_neg h0, UInt32.toNat_div, hs]
    show (totalLen.toNat + 254) / 255 = _
    omega

theorem totalSubCmds_spec (h : totalLen.toNat < 2 ^ 31) :
    255 * ((totalSubCmds totalLen).toNat - 1) ≤ totalLen.toNat ∧
      totalLen.toNat ≤ 255 * ((totalSubCmds totalLen).toNat - 1) + 255 := by
  rw [totalSubCmds_toNat h]
  omega

/-- **`BuildStoreData` loses nothing**: the new commands carry the whole text in order, in
well-formed blocks. -/
theorem buildStoreData_spec (b : RequestApduBuild) (h : cmdHex.length < 2 ^ 32) :
    ∃ cmds, b.buildStoreData cmdHex
        = { b with apduCommandLst := b.apduCommandLst ++ cmds } ∧
      carried cmds = cmdHex ∧ ∀ c ∈ cmds, IsBlock b.channelId c := by
  have ht := totalLen_toNat (show cmdHex.length / 2 < 2 ^ 32 by omega)
  obtain ⟨hle, hr⟩ :=
    totalSubCmds_spec (show (UInt32.ofNat (cmdHex.length / BYTE_TO_HEX_LEN)).toNat < 2 ^ 31 by omega)
  generalize hcn : (totalSubCmds (.ofNat (cmdHex.length / BYTE_TO_HEX_LEN))).toNat - 1
    = count at hle hr
  have hcm : cmdLen * count = 510 * count := rfl
  obtain ⟨least, cmds, hlp, _, hcr, hal⟩ :=
    storeDataLoop_spec cmdHex count 1 0 (.ofNat (cmdHex.length / BYTE_TO_HEX_LEN)) b
      (by omega) hle
  unfold buildStoreData
  simp only
  rw [hcn, hlp]
  refine ⟨cmds ++ [⟨b.channelId.toUInt32, constructApduData P1_STORE_DATA_END _ least
    (cmdHex.drop (0 + cmdLen * count))⟩], by simp only [addApdu, append_assoc]; rfl, ?_, ?_⟩
  · rw [carried_append, hcr, drop_zero, Nat.zero_add]
    show _ ++ (cmdHex.drop (cmdLen * count) ++ []) = _
    rw [append_nil, take_append_drop]
  · intro c hc
    rcases mem_append.1 hc with hc | hc
    · exact hal c hc
    · rw [mem_singleton.1 hc]
      refine ⟨rfl, rfl, rfl, .inr rfl, ?_, ?_⟩
      · show least.toNat = (cmdHex.drop (0 + cmdLen * count)).length / 2
        rw [length_drop]
        omega
      · rw [UInt32.le_iff_toNat_le]
        show least.toNat ≤ 255
        omega

example : ((⟨1, []⟩ : RequestApduBuild).buildStoreData []).apduCommandLst
    = [⟨1, ⟨0x80, 0xE2, 0x91, 0, 0, []⟩⟩] := by decide

end RequestApduBuild

end TelephonyCore.Codec
