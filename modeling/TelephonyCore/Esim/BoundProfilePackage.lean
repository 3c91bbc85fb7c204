import TelephonyCore.Codec.RoundTrip
import TelephonyCore.Codec.RequestApduBuild

/-!
# Loading a bound profile package: the commands

`ProcessLoadBoundProfilePackage` decodes the package, takes it apart child by child and writes each
part back out as STORE DATA commands. The commands carry exactly the bytes of the package, cut at
the boundaries the specification of the card interface asks for.

Base64 decoding and the UTF conversions come from other libraries and are parameters here
(`TextCodec`).
-/

namespace TelephonyCore.Esim

open Codec Lib List Asn1Node Asn1Tree
open Lib.Der (Tlv header)

/-! ## Constants (`telephony_tag_def.h`, `esim_file.h`) -/

def TAG_ESIM_CTX_COMP_0 : UInt32 := 0xA0
def TAG_ESIM_CTX_COMP_1 : UInt32 := 0xA1
def TAG_ESIM_CTX_COMP_2 : UInt32 := 0xA2
def TAG_ESIM_CTX_COMP_3 : UInt32 := 0xA3
def TAG_ESIM_CTX_6 : UInt32 := 0x86
def TAG_ESIM_CTX_8 : UInt32 := 0x88
def TAG_ESIM_INITIALISE_SECURE_CHANNEL : UInt32 := 0xBF23
def TAG_ESIM_UNKNOWN_BPP_SEGMENT : UInt32 := 0xC9
def GET_BPP_LOAD_ERROR_LENGTH : UInt32 := 2

/-- The text conversions the eSIM code calls. -/
structure TextCodec where
  toUtf8 : List UInt16 → StdString
  toUtf16 : StdString → List UInt16
  decodeBase64NoWrap : StdString → StdString
  encodeBase64 : StdString → StdString

/-- `Asn1NextNode` of a decoder that is not used again. -/
def onlyNode (decoder : Asn1Decoder) : Option Asn1Node := decoder.asn1NextNode.1

def firstNode (dest : List UInt8) : Option Asn1Node :=
  onlyNode (Asn1Decoder.make dest 0 (UInt32.ofNat dest.length))

def decodeBoundProfilePackage (text : TextCodec) (boundProfilePackageStr : StdString) :
    Option Asn1Node :=
  firstNode (stringToBytes (text.decodeBase64NoWrap boundProfilePackageStr))

/-! ## The command builders -/

def buildApduForInitSecureChannel (codec : RequestApduBuild)
    (bppNode initSecureChannelReq : Asn1Node) : RequestApduBuild :=
  let hexStr := bppNode.asn1GetHeadAsHexStr.getD []
  codec.buildStoreData (hexStr ++ initSecureChannelReq.asn1NodeToHexStr)

def buildApduForFirstSequenceOf87 (codec : RequestApduBuild) (firstSequenceOf87 : Asn1Node) :
    RequestApduBuild :=
  codec.buildStoreData firstSequenceOf87.asn1NodeToHexStr

/-- The loop over the elements of a sequence. -/
def buildApduForElements (codec : RequestApduBuild) : List Asn1Node → RequestApduBuild
  | [] => codec
  | curNode :: rest => buildApduForElements (codec.buildStoreData curNode.asn1NodeToHexStr) rest

def buildApduForSequenceOf88 (codec : RequestApduBuild) (sequenceOf88 : Asn1Node) :
    RequestApduBuild :=
  match sequenceOf88.asn1GetChildren TAG_ESIM_CTX_8 with
  | (false, _, _) => codec
  | (true, metaDataSeqs, sequenceOf88) =>
    let hexStr := sequenceOf88.asn1GetHeadAsHexStr.getD []
    buildApduForElements (codec.buildStoreData hexStr) metaDataSeqs

def buildApduForSequenceOf86 (codec : RequestApduBuild) (bppNode sequenceOf86 : Asn1Node) :
    RequestApduBuild :=
  match sequenceOf86.asn1GetChildren TAG_ESIM_CTX_6 with
  | (false, _, _) => codec
  | (true, elementSeqs, sequenceOf86) =>
    match bppNode.asn1HasChild TAG_ESIM_CTX_COMP_2 with
    | (false, _) =>
      let hexStr := sequenceOf86.asn1GetHeadAsHexStr.getD []
      buildApduForElements (codec.buildStoreData hexStr) elementSeqs
    | (true, bppNode) =>
      match bppNode.asn1GetChild TAG_ESIM_CTX_COMP_2 with
      | (none, _) => codec
      | (some pGetChild, _) =>
        -- a head that cannot be printed would leave the text of the child in `hexStr`
        let hexStr := pGetChild.asn1NodeToHexStr
        let codec := codec.buildStoreData hexStr
        let hexStr := sequenceOf86.asn1GetHeadAsHexStr.getD hexStr
        buildApduForElements (codec.buildStoreData hexStr) elementSeqs

/-- The steps of `ProcessLoadBoundProfilePackage` from the decoded node on. -/
def bppNodeApdus (currentChannelId : Int32) (bppNode : Asn1Node) : Option RequestApduBuild :=
  let codec : RequestApduBuild := { channelId := currentChannelId }
  let (initSecureChannelReq, bppNode) := bppNode.asn1GetChild TAG_ESIM_INITIALISE_SECURE_CHANNEL
  let codec := match initSecureChannelReq with
    | none => codec
    | some initSecureChannelReq =>
      buildApduForInitSecureChannel codec bppNode initSecureChannelReq
  let (unknownBppSegment, bppNode) := bppNode.asn1GetChild TAG_ESIM_UNKNOWN_BPP_SEGMENT
  if unknownBppSegment.isSome then none
  else
    let (firstSequenceOf87, bppNode) := bppNode.asn1GetChild TAG_ESIM_CTX_COMP_0
    let codec := match firstSequenceOf87 with
      | none => codec
      | some firstSequenceOf87 => buildApduForFirstSequenceOf87 codec firstSequenceOf87
    let (sequenceOf88, bppNode) := bppNode.asn1GetChild TAG_ESIM_CTX_COMP_1
    let codec := match sequenceOf88 with
      | none => codec
      | some sequenceOf88 => buildApduForSequenceOf88 codec sequenceOf88
    match bppNode.asn1GetChild TAG_ESIM_CTX_COMP_3 with
    | (none, _) => none
    | (some sequenceOf86, bppNode) =>
      if sequenceOf86.getEncodedLength = GET_BPP_LOAD_ERROR_LENGTH then none
      else some (buildApduForSequenceOf86 codec bppNode sequenceOf86)

/-- `ProcessLoadBoundProfilePackage` up to the sending; `none` where it gives up. -/
def loadBoundProfilePackageApdus (text : TextCodec) (currentChannelId : Int32)
    (boundProfilePackage : List UInt16) : Option RequestApduBuild :=
  -- `IsLogicChannelOpen`
  if currentChannelId > 0 then
    match decodeBoundProfilePackage text (text.toUtf8 boundProfilePackage) with
    | none => none
    | some bppNode => bppNodeApdus currentChannelId bppNode
  else none

/-! ## Canonical packages and their segments -/

/-- A bound profile package as the specification lays it out. -/
structure BoundProfilePackage where
  tag : Nat
  initSecureChannelReq : List Tlv
  firstSequenceOf87 : List Tlv
  sequenceOf88 : List (List UInt8)
  secondSequenceOf87 : Option (List Tlv)
  sequenceOf86 : List (List UInt8)

namespace BoundProfilePackage

def initTlv (bpp : BoundProfilePackage) : Tlv := .cons 0xBF23 bpp.initSecureChannelReq
def a0Tlv (bpp : BoundProfilePackage) : Tlv := .cons 0xA0 bpp.firstSequenceOf87
def a1Tlv (bpp : BoundProfilePackage) : Tlv := .cons 0xA1 (bpp.sequenceOf88.map (.prim 0x88))
def a2Tlv (bpp : BoundProfilePackage) : List Tlv :=
  (bpp.secondSequenceOf87.map (Tlv.cons 0xA2)).toList
def a3Tlv (bpp : BoundProfilePackage) : Tlv := .cons 0xA3 (bpp.sequenceOf86.map (.prim 0x86))

def parts (bpp : BoundProfilePackage) : List Tlv :=
  [bpp.initTlv, bpp.a0Tlv, bpp.a1Tlv] ++ bpp.a2Tlv ++ [bpp.a3Tlv]

def toTlv (bpp : BoundProfilePackage) : Tlv := .cons bpp.tag bpp.parts

def bytes (bpp : BoundProfilePackage) : List UInt8 := bpp.toTlv.encode

def head (t : Tlv) : List UInt8 := header t.tag t.content.length

/-- The pieces that must not share a command: the outer header with the secure
channel request, A0, the A1 header, each 88, A2, the A3 header, each 86. -/
def segments (bpp : BoundProfilePackage) : List (List UInt8) :=
  [head bpp.toTlv ++ bpp.initTlv.encode, bpp.a0Tlv.encode, head bpp.a1Tlv]
    ++ bpp.sequenceOf88.map (fun e => (Tlv.prim 0x88 e).encode)
    ++ bpp.a2Tlv.map Tlv.encode
    ++ [head bpp.a3Tlv]
    ++ bpp.sequenceOf86.map (fun e => (Tlv.prim 0x86 e).encode)

theorem encode_eq_head (t : Tlv) : t.encode = head t ++ t.content := by
  rw [Tlv.encode_eq_tlv, Der.tlv_eq_header, head]

theorem encodeAll_append (ts us : List Tlv) :
    Tlv.encodeAll (ts ++ us) = Tlv.encodeAll ts ++ Tlv.encodeAll us := by
  rw [Tlv.encodeAll_eq_flatMap, Tlv.encodeAll_eq_flatMap, Tlv.encodeAll_eq_flatMap, flatMap_append]

theorem encodeAll_map (tag : Nat) (es : List (List UInt8)) :
    Tlv.encodeAll (es.map (.prim tag)) = (es.map (fun e => (Tlv.prim tag e).encode)).flatten := by
  rw [Tlv.encodeAll_eq_flatMap, flatMap_map, flatMap_def]

theorem segments_flatten (bpp : BoundProfilePackage) : bpp.segments.flatten = bpp.bytes := by
  have h1 : bpp.a1Tlv.encode
      = head bpp.a1Tlv ++ (bpp.sequenceOf88.map (fun e => (Tlv.prim 0x88 e).encode)).flatten := by
    rw [encode_eq_head, ← encodeAll_map]
    rfl
  have h3 : bpp.a3Tlv.encode
      = head bpp.a3Tlv ++ (bpp.sequenceOf86.map (fun e => (Tlv.prim 0x86 e).encode)).flatten := by
    rw [encode_eq_head, ← encodeAll_map]
    rfl
  have h2 : Tlv.encodeAll bpp.a2Tlv = (bpp.a2Tlv.map Tlv.encode).flatten := by
    rw [Tlv.encodeAll_eq_flatMap, flatMap_def]
  have hp : bpp.toTlv.content = bpp.initTlv.encode ++ bpp.a0Tlv.encode ++ bpp.a1Tlv.encode
      ++ Tlv.encodeAll bpp.a2Tlv ++ bpp.a3Tlv.encode := by
    show Tlv.encodeAll bpp.parts = _
    rw [parts, encodeAll_append, encodeAll_append]
    simp [Tlv.encodeAll]
  rw [bytes, encode_eq_head, hp, h1, h2, h3, segments]
  simp

end BoundProfilePackage

/-! ## Rows of `BuildStoreData` calls -/

def storeAll (codec : RequestApduBuild) (texts : List StdString) : RequestApduBuild :=
  texts.foldl RequestApduBuild.buildStoreData codec

theorem storeAll_append (codec : RequestApduBuild) (xs ys : List StdString) :
    storeAll codec (xs ++ ys) = storeAll (storeAll codec xs) ys :=
  foldl_append

theorem storeAll_spec (texts : List StdString) (hsh : ∀ t ∈ texts, t.length < 2 ^ 32) :
    ∀ codec, ∃ groups,
      storeAll codec texts
        = { codec with apduCommandLst := codec.apduCommandLst ++ groups.flatten } ∧
      List.Forall₂ (fun t cmds => RequestApduBuild.carried cmds = t ∧
        ∀ c ∈ cmds, RequestApduBuild.IsBlock codec.channelId c) texts groups := by
  induction texts with
  | nil =>
    intro codec
    exact ⟨[], by simp [storeAll], .nil⟩
  | cons t texts ih =>
    intro codec
    obtain ⟨cmds, hbd, hc, hbl⟩ := codec.buildStoreData_spec (hsh t (by simp))
    obtain ⟨groups, ha, hg⟩ := ih (fun u hu => hsh u (by simp [hu]))
      { codec with apduCommandLst := codec.apduCommandLst ++ cmds }
    refine ⟨cmds :: groups, ?_, .cons ⟨hc, hbl⟩ hg⟩
    show storeAll (codec.buildStoreData t) texts = _
    rw [hbd, ha, flatten_cons, ← append_assoc]

theorem buildApduForElements_eq (nodes : List Asn1Node) :
    ∀ codec,
      buildApduForElements codec nodes = storeAll codec (nodes.map Asn1Node.asn1NodeToHexStr) := by
  induction nodes with
  | nil => intro codec; rfl
  | cons n nodes ih => intro codec; exact ih _

/-! ## Taking the package apart -/

/-- A node whose children have been built: its raw content is gone. -/
def opened (t : Tlv) (children : List Tlv) : Asn1Node :=
  { nodeOf t with children := children.map nodeOf, dataBytes := [], dataOffset := 0 }

def findChild (cs : List Tlv) (childTag : UInt32) : Option Asn1Node :=
  (cs.map nodeOf).find? (fun child => child.tag == childTag)

variable {t : Tlv} {tag : Nat} {cs : List Tlv}

theorem asn1NodeToHexStr_nodeOf (hwf : t.Wf) (hsize : t.encode.length ≤ MAX_BPP_LENGTH) :
    (nodeOf t).asn1NodeToHexStr = upperHex t.encode := by
  have hct := length_content_le t
  have hsm : t.content.length < 2 ^ 31 := Nat.lt_of_le_of_lt (Nat.le_trans hct hsize) (by decide)
  have hne : (nodeOf t).encodedLength ≠ 0 := (make_lengths (.ofNat t.tag) hsm).ne_zero
  have hwr : (nodeOf t).asn1NodeToBytes = t.encode := by
    show (if (nodeOf t).encodedLength = 0 then [] else (nodeOf t).asn1Write) = t.encode
    rw [if_neg hne, nodeOf, asn1Write_make _ hsm, toNat_ofNat_tag hwf.tag, Tlv.encode_eq_tlv]
  rw [asn1NodeToHexStr, hwr, bytesToHexStr_eq hsize]

theorem asn1GetHeadAsHexStr_opened (hwf : t.Wf) (hsize : t.encode.length ≤ MAX_BPP_LENGTH)
    (children : List Tlv) :
    (opened t children).asn1GetHeadAsHexStr = some (upperHex (BoundProfilePackage.head t)) := by
  have hct := length_content_le t
  have hsm : t.content.length < 2 ^ 31 := Nat.lt_of_le_of_lt (Nat.le_trans hct hsize) (by decide)
  have hh : (BoundProfilePackage.head t).length ≤ MAX_BPP_LENGTH := by
    rw [BoundProfilePackage.encode_eq_head, length_append] at hsize
    omega
  rw [asn1GetHeadAsHexStr_eq]
  show some (bytesToHexStr (header (UInt32.ofNat t.tag).toNat
    (UInt32.ofNat t.content.length).toNat)) = _
  rw [toNat_ofNat_tag hwf.tag, UInt32.toNat_ofNat', Nat.mod_eq_of_lt (by omega)]
  show some (bytesToHexStr (BoundProfilePackage.head t)) = _
  rw [bytesToHexStr_eq hh]

theorem asn1GetChild_opened (hwf : (Tlv.cons tag cs).Wf) (childTag : UInt32) :
    (opened (.cons tag cs) cs).asn1GetChild childTag
      = (findChild cs childTag, opened (.cons tag cs) cs) := by
  have hc : (opened (.cons tag cs) cs).constructed := constructed_nodeOf_cons hwf
  have hbd : (opened (.cons tag cs) cs).asn1BuildChildren = (true, opened (.cons tag cs) cs) := by
    rw [asn1BuildChildren, hc]
    rfl
  rw [asn1GetChild, hc, hbd]
  rfl

theorem encodeAll_small (hsize : (Tlv.cons tag cs).encode.length ≤ MAX_BPP_LENGTH) :
    (Tlv.encodeAll cs).length < 2 ^ 31 :=
  Nat.lt_of_le_of_lt (Nat.le_trans (length_content_le (.cons tag cs)) hsize) (by decide)

theorem encode_length_le_of_mem {ts : List Tlv} (h : t ∈ ts) :
    t.encode.length ≤ (Tlv.encodeAll ts).length := by
  rw [Tlv.encodeAll_eq_flatMap, length_flatMap]
  exact le_sum_of_mem (mem_map_of_mem h)

theorem elements_eq {elementTag : Nat} {es : List (List UInt8)}
    (hwf : (Tlv.cons tag (es.map (.prim elementTag))).Wf)
    (hsize : (Tlv.cons tag (es.map (.prim elementTag))).encode.length ≤ MAX_BPP_LENGTH) :
    ∃ nodes, (nodeOf (.cons tag (es.map (.prim elementTag)))).asn1GetChildren (.ofNat elementTag)
        = (true, nodes, opened (.cons tag (es.map (.prim elementTag))) (es.map (.prim elementTag))) ∧
      nodes.map Asn1Node.asn1NodeToHexStr
        = es.map (fun e => upperHex (Tlv.prim elementTag e).encode) := by
  have hws := (Tlv.wfAll_iff _).1 hwf.2.2
  refine ⟨_, asn1GetChildren_nodeOf hwf (encodeAll_small hsize) _, ?_⟩
  rw [filter_nodeOf (.prim elementTag) _ (fun _ => rfl), map_map, map_map]
  apply map_congr_left
  intro e he
  have hm : Tlv.prim elementTag e ∈ es.map (.prim elementTag) := mem_map_of_mem he
  have hle := encode_length_le_of_mem hm
  have hct := length_content_le (.cons tag (es.map (.prim elementTag)))
  exact asn1NodeToHexStr_nodeOf (hws _ hm) (Nat.le_trans hle (Nat.le_trans hct hsize))

section Package

variable {bpp : BoundProfilePackage}

theorem find_part :
    findChild bpp.parts TAG_ESIM_INITIALISE_SECURE_CHANNEL = some (nodeOf bpp.initTlv) ∧
    findChild bpp.parts TAG_ESIM_UNKNOWN_BPP_SEGMENT = none ∧
    findChild bpp.parts TAG_ESIM_CTX_COMP_0 = some (nodeOf bpp.a0Tlv) ∧
    findChild bpp.parts TAG_ESIM_CTX_COMP_1 = some (nodeOf bpp.a1Tlv) ∧
    findChild bpp.parts TAG_ESIM_CTX_COMP_2 = bpp.a2Tlv.head?.map nodeOf ∧
    findChild bpp.parts TAG_ESIM_CTX_COMP_3 = some (nodeOf bpp.a3Tlv) := by
  obtain ⟨_, _, _, _, a2, _⟩ := bpp
  cases a2 with
  | none | some a2 => exact ⟨rfl, rfl, rfl, rfl, rfl, rfl⟩

variable (hwf : bpp.toTlv.Wf) (hsize : bpp.bytes.length ≤ MAX_BPP_LENGTH)

include hwf hsize

theorem part_spec (ht : t ∈ bpp.parts) : t.Wf ∧ t.encode.length ≤ MAX_BPP_LENGTH := by
  refine ⟨(Tlv.wfAll_iff _).1 hwf.2.2 t ht, ?_⟩
  have hle := encode_length_le_of_mem ht
  have hct := length_content_le bpp.toTlv
  exact Nat.le_trans hle (Nat.le_trans hct hsize)

theorem buildApduForSequenceOf88_eq (codec : RequestApduBuild) :
    buildApduForSequenceOf88 codec (nodeOf bpp.a1Tlv)
      = storeAll codec (upperHex (BoundProfilePackage.head bpp.a1Tlv)
          :: bpp.sequenceOf88.map (fun e => upperHex (Tlv.prim 0x88 e).encode)) := by
  obtain ⟨hwf1, hsize1⟩ :=
    part_spec hwf hsize (t := bpp.a1Tlv) (by simp [BoundProfilePackage.parts])
  obtain ⟨nodes, hg, hn⟩ := elements_eq hwf1 hsize1
  have hg' : (nodeOf bpp.a1Tlv).asn1GetChildren TAG_ESIM_CTX_8 = _ := hg
  rw [buildApduForSequenceOf88, hg']
  show buildApduForElements (codec.buildStoreData
    ((opened bpp.a1Tlv _).asn1GetHeadAsHexStr.getD [])) nodes = _
  rw [asn1GetHeadAsHexStr_opened hwf1 hsize1, buildApduForElements_eq, hn]
  rfl

theorem buildApduForSequenceOf86_eq (codec : RequestApduBuild) :
    buildApduForSequenceOf86 codec (opened bpp.toTlv bpp.parts) (nodeOf bpp.a3Tlv)
      = storeAll codec (bpp.a2Tlv.map (fun t => upperHex t.encode)
          ++ upperHex (BoundProfilePackage.head bpp.a3Tlv)
          :: bpp.sequenceOf86.map (fun e => upperHex (Tlv.prim 0x86 e).encode)) := by
  obtain ⟨hwf3, hsize3⟩ :=
    part_spec hwf hsize (t := bpp.a3Tlv) (by simp [BoundProfilePackage.parts])
  obtain ⟨nodes, hg, hn⟩ := elements_eq hwf3 hsize3
  have hg' : (nodeOf bpp.a3Tlv).asn1GetChildren TAG_ESIM_CTX_6 = _ := hg
  have hh := asn1GetHeadAsHexStr_opened hwf3 hsize3 (bpp.sequenceOf86.map (.prim 0x86))
  have hf : (opened bpp.toTlv bpp.parts).asn1GetChild TAG_ESIM_CTX_COMP_2
      = (bpp.a2Tlv.head?.map nodeOf, opened bpp.toTlv bpp.parts) := by
    rw [← find_part.2.2.2.2.1]
    exact asn1GetChild_opened hwf _
  rw [buildApduForSequenceOf86, hg', asn1HasChild, hf]
  rcases h2 : bpp.a2Tlv with _ | ⟨t, ts⟩
  · show buildApduForElements (codec.buildStoreData
      ((opened bpp.a3Tlv _).asn1GetHeadAsHexStr.getD [])) nodes = _
    rw [hh, buildApduForElements_eq, hn]
    rfl
  · -- at most one child has the tag of the second sequence
    obtain rfl : ts = [] := by
      have hl : bpp.a2Tlv.length ≤ 1 := by
        unfold BoundProfilePackage.a2Tlv
        cases bpp.secondSequenceOf87 <;> simp
      rw [h2] at hl
      exact length_eq_zero_iff.1 (by simpa using hl)
    obtain ⟨hwf2, hsize2⟩ := part_spec hwf hsize (t := t) (by simp [BoundProfilePackage.parts, h2])
    simp only [head?_cons, Option.map_some, Option.isSome_some, hf, h2]
    show buildApduForElements ((codec.buildStoreData (nodeOf t).asn1NodeToHexStr).buildStoreData
      ((opened bpp.a3Tlv _).asn1GetHeadAsHexStr.getD (nodeOf t).asn1NodeToHexStr)) nodes = _
    rw [hh, asn1NodeToHexStr_nodeOf hwf2 hsize2, buildApduForElements_eq, hn]
    rfl

theorem getEncodedLength_a3 (hne : bpp.sequenceOf86 ≠ []) :
    (nodeOf bpp.a3Tlv).getEncodedLength ≠ GET_BPP_LOAD_ERROR_LENGTH := by
  obtain ⟨-, hsize3⟩ := part_spec hwf hsize (t := bpp.a3Tlv) (by simp [BoundProfilePackage.parts])
  have hct := length_content_le bpp.a3Tlv
  have hsm : bpp.a3Tlv.content.length < 2 ^ 31 :=
    Nat.lt_of_le_of_lt (Nat.le_trans hct hsize3) (by decide)
  have hp : 2 ≤ bpp.a3Tlv.content.length := by
    have hl := length_le_encodeAll (bpp.sequenceOf86.map (.prim 0x86))
    have := length_pos_iff.2 hne
    rw [length_map] at hl
    show 2 ≤ (Tlv.encodeAll _).length
    omega
  have he := (make_lengths (.ofNat bpp.a3Tlv.tag) hsm).encoded
  intro h
  have h2 : (nodeOf bpp.a3Tlv).encodedLength.toNat = 2 := by
    rw [show (nodeOf bpp.a3Tlv).encodedLength = 2 from h]
    rfl
  have hh := Der.lengthCount_pos bpp.a3Tlv.content.length
  rw [Der.header_length] at he
  have : (nodeOf bpp.a3Tlv).encodedLength.toNat = _ := he
  omega

/-- **The decoder side.** The segments of a canonical package are stored, one `BuildStoreData` each.
-/
theorem bppNodeApdus_eq (hne : bpp.sequenceOf86 ≠ []) (currentChannelId : Int32) :
    bppNodeApdus currentChannelId (nodeOf bpp.toTlv)
      = some (storeAll { channelId := currentChannelId } (bpp.segments.map upperHex)) := by
  obtain ⟨hin, hu, h0, h1, -, h3⟩ := @find_part bpp
  obtain ⟨hwi, hsz⟩ := part_spec hwf hsize (t := bpp.initTlv) (by simp [BoundProfilePackage.parts])
  obtain ⟨hwf0, hsize0⟩ :=
    part_spec hwf hsize (t := bpp.a0Tlv) (by simp [BoundProfilePackage.parts])
  have hf : (nodeOf bpp.toTlv).asn1GetChild TAG_ESIM_INITIALISE_SECURE_CHANNEL
      = (some (nodeOf bpp.initTlv), opened bpp.toTlv bpp.parts) := by
    exact asn1GetChild_nodeOf hwf (encodeAll_small hsize) _
  have hnx : ∀ tag, (opened bpp.toTlv bpp.parts).asn1GetChild tag
      = (findChild bpp.parts tag, opened bpp.toTlv bpp.parts) :=
    fun tag => asn1GetChild_opened hwf tag
  rw [bppNodeApdus, hf]
  simp only [hnx, hu, h0, h1, h3]
  rw [if_neg (getEncodedLength_a3 hwf hsize hne), buildApduForSequenceOf86_eq hwf hsize,
    buildApduForSequenceOf88_eq hwf hsize, buildApduForFirstSequenceOf87,
    buildApduForInitSecureChannel, asn1GetHeadAsHexStr_opened hwf hsize,
    asn1NodeToHexStr_nodeOf hwf0 hsize0, asn1NodeToHexStr_nodeOf hwi hsz, Option.getD_some,
    ← upperHex_append, ← storeAll_append]
  show some (storeAll _ ([_, _] ++ _)) = _
  simp only [BoundProfilePackage.segments, map_append, map_map, append_assoc]
  rfl

end Package

theorem firstNode_encode (hwf : t.Wf) (hsize : t.encode.length ≤ MAX_BPP_LENGTH) :
    firstNode t.encode = some (nodeOf t) := by
  rw [firstNode, onlyNode, asn1NextNode_whole hwf (Nat.lt_of_le_of_lt hsize (by decide))]

/-- **Bound profile package segmentation.** The commands of a canonical package within the length
limit, with elements in its last sequence, carry exactly its uppercase hex, and no command has bytes
of two segments. -/
theorem loadBoundProfilePackage_segments (text : TextCodec) (currentChannelId : Int32)
    (boundProfilePackage : List UInt16) (bpp : BoundProfilePackage)
    (hopen : currentChannelId > 0)
    (htext : text.decodeBase64NoWrap (text.toUtf8 boundProfilePackage) = bpp.bytes)
    (hwf : bpp.toTlv.Wf) (hne : bpp.sequenceOf86 ≠ [])
    (hsize : bpp.bytes.length ≤ MAX_BPP_LENGTH) :
    ∃ codec groups,
      loadBoundProfilePackageApdus text currentChannelId boundProfilePackage = some codec ∧
      codec.apduCommandLst.flatMap (fun c => c.data.cmdHex) = upperHex bpp.bytes ∧
      codec.apduCommandLst = groups.flatten ∧ bpp.segments.flatten = bpp.bytes ∧
      List.Forall₂ (fun segment cmds =>
        cmds.flatMap (fun c => c.data.cmdHex) = upperHex segment ∧
        ∀ c ∈ cmds, RequestApduBuild.IsBlock currentChannelId c) bpp.segments groups := by
  have hdc : decodeBoundProfilePackage text (text.toUtf8 boundProfilePackage)
      = some (nodeOf bpp.toTlv) := by
    rw [decodeBoundProfilePackage, htext, stringToBytes_eq hsize, BoundProfilePackage.bytes,
      firstNode_encode hwf hsize]
  have hf := bpp.segments_flatten
  have hsh : ∀ t ∈ bpp.segments.map upperHex, t.length < 2 ^ 32 := by
    intro t ht
    obtain ⟨segment, hsg, rfl⟩ := mem_map.1 ht
    have hle : segment.length ≤ bpp.bytes.length := by
      rw [← hf]
      exact (sublist_flatten_of_mem hsg).length_le
    rw [upperHex_length]
    have : MAX_BPP_LENGTH = 245760 := rfl
    omega
  obtain ⟨groups, hst, hg⟩ := storeAll_spec _ hsh { channelId := currentChannelId }
  rw [forall₂_map_left_iff] at hg
  have hc : groups.map RequestApduBuild.carried = bpp.segments.map upperHex := by
    rw [← forall₂_eq_eq_eq, forall₂_map_left_iff, forall₂_map_right_iff]
    exact (hg.imp (fun _ _ h => h.1)).flip
  refine ⟨⟨currentChannelId, groups.flatten⟩, groups, ?_, ?_, rfl, hf, hg⟩
  · rw [loadBoundProfilePackageApdus, if_pos hopen, hdc]
    exact (bppNodeApdus_eq hwf hsize hne currentChannelId).trans (congrArg some hst)
  · show RequestApduBuild.carried groups.flatten = _
    rw [RequestApduBuild.carried_flatten, hc, ← upperHex_flatten, hf]

def samplePackage : BoundProfilePackage where
  tag := 0xBF36
  initSecureChannelReq := [.prim 0x82 [1]]
  firstSequenceOf87 := [.prim 0x87 [2, 3]]
  sequenceOf88 := [[4], [5, 6]]
  secondSequenceOf87 := some [.prim 0x87 [7]]
  sequenceOf86 := [[8]]

def plainText : TextCodec := ⟨fun s => s.map UInt16.toUInt8, fun s => s.map UInt8.toUInt16, id, id⟩

theorem loadBoundProfilePackage_segments_sample :
    ∃ codec, loadBoundProfilePackageApdus plainText 1
        (samplePackage.bytes.map UInt8.toUInt16) = some codec ∧
      codec.apduCommandLst.flatMap (fun c => c.data.cmdHex) = upperHex samplePackage.bytes := by
  obtain ⟨codec, -, hc, hh, -⟩ :=
    loadBoundProfilePackage_segments plainText 1
      (samplePackage.bytes.map UInt8.toUInt16) samplePackage (by decide) (by decide) (by decide)
      (by decide) (by decide)
  exact ⟨codec, hc, hh⟩

end TelephonyCore.Esim
