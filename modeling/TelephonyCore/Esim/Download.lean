import TelephonyCore.Esim.BoundProfilePackage
import TelephonyCore.Esim.Transmit

/-!
# `ObtainPrepareDownload` and `ObtainLoadBoundProfilePackage`

Both operations take the logical channel, build their commands, send them with `SplitSendLongData`
and return whatever result record is stored at the end. The record starts with the code
`RESULT_EUICC_CARD_OK`, and only a failure before the first block is sent and a parser that was
given a merged answer change it afterwards.

So the returned code is the last one the parser assigns to what the card said, and 0 when it assigns
none (`run_outcome`).
-/

namespace TelephonyCore.Esim

open Codec

def TAG_ESIM_UNI_2 : UInt32 := 0x02
def TAG_ESIM_CTX_0 : UInt32 := 0x80
def TAG_ESIM_CTX_1 : UInt32 := 0x81
def TAG_ESIM_TARGET_ADDR : UInt32 := 0x0C
def TAG_ESIM_EID : UInt32 := 0x5A
def TAG_ESIM_OCTET_STRING_TYPE : UInt32 := 0x04
def TAG_ESIM_PREPARE_DOWNLOAD : UInt32 := 0xBF21
def TAG_ESIM_PROFILE_INSTALLATION_RESULT_DATA : UInt32 := 0xBF27
def TAG_ESIM_NOTIFICATION_METADATA : UInt32 := 0xBF2F
def EVENT_INSTALL : Int32 := 1152

/-- The values of `ResultInnerCode` the two operations use. -/
inductive ResultInnerCode where
  | RESULT_EUICC_CARD_OK
  | RESULT_EUICC_CARD_CHANNEL_IN_USE
  | RESULT_EUICC_CARD_CHANNEL_OPEN_FAILED
  | RESULT_EUICC_CARD_DATA_PROCESS_ERROR
deriving DecidableEq

def ResultInnerCode.toInt32 : ResultInnerCode → Int32
  | RESULT_EUICC_CARD_OK => 0
  | RESULT_EUICC_CARD_CHANNEL_IN_USE => 10001
  | RESULT_EUICC_CARD_CHANNEL_OPEN_FAILED => 10002
  | RESULT_EUICC_CARD_DATA_PROCESS_ERROR => 10006

theorem ResultInnerCode.toInt32_eq_zero (c : ResultInnerCode) :
    c.toInt32 = 0 ↔ c = .RESULT_EUICC_CARD_OK := by
  cases c <;> decide

structure ResponseEsimInnerResult where
  resultCode : Int32 := 0
  response : List UInt16 := []
  sw1 : Int32 := 0
  sw2 : Int32 := 0

structure ResponseEsimBppResult where
  resultCode : Int32 := 0
  response : List UInt16 := []
  seqNumber : Int32 := 0
  profileManagementOperation : Int32 := 0
  notificationAddress : List UInt16 := []
  iccId : List UInt16 := []

structure DownLoadConfigInfo where
  hashCc : List UInt16
  smdpSigned2 : List UInt16
  smdpSignature2 : List UInt16
  smdpCertificate : List UInt16

/-! ## Parsing the answer -/

def asn1ParseResponse (response : List UInt8) (respLength : UInt32) : Option Asn1Node :=
  if response = [] ∨ respLength = 0 then none
  else
    let decoder := Asn1Decoder.make response 0 respLength
    if decoder.asn1HasNextNode then onlyNode decoder else none

def prepareDownloadError (root : Asn1Node) : Option Int32 :=
  match (root.asn1GetChild TAG_ESIM_CTX_COMP_1).1 with
  | none => none
  | some childNode => (childNode.asn1GetChild TAG_ESIM_UNI_2).1.map Asn1Node.asn1AsInteger

def realProcessPrepareDownloadDone (text : TextCodec) (recvCombineStr : StdString)
    (preDownloadResult : ResponseEsimInnerResult) : ResponseEsimInnerResult × Verdict :=
  let responseByte := hexStrToBytes recvCombineStr
  match asn1ParseResponse responseByte (UInt32.ofNat responseByte.length) with
  | none => (preDownloadResult, ⟨recvCombineStr, false, none, none⟩)
  | some root =>
    let protocolErr := prepareDownloadError root
    -- only a positive code is taken for an error
    if protocolErr.getD 0 > 0 then
      ({ preDownloadResult with resultCode := protocolErr.getD 0, response := [] },
        ⟨recvCombineStr, false, protocolErr, some (protocolErr.getD 0)⟩)
    else
      ({ preDownloadResult with
          resultCode := 0
          response := text.toUtf16 (text.encodeBase64 (bytesToString responseByte)) },
        ⟨recvCombineStr, true, protocolErr, some 0⟩)

def loadBoundProfilePackageParseNotificationMetadata (text : TextCodec)
    (notificationMetadata : Asn1Node) (loadBPPResult : ResponseEsimBppResult) :
    Bool × ResponseEsimBppResult :=
  match (notificationMetadata.asn1GetChild TAG_ESIM_CTX_0).1 with
  | none => (false, loadBPPResult)
  | some sequenceNumberAsn =>
    let loadBPPResult := { loadBPPResult with seqNumber := sequenceNumberAsn.asn1AsInteger }
    match (notificationMetadata.asn1GetChild TAG_ESIM_CTX_1).1 with
    | none => (false, loadBPPResult)
    | some _ =>
      let loadBPPResult := { loadBPPResult with profileManagementOperation := EVENT_INSTALL }
      match (notificationMetadata.asn1GetChild TAG_ESIM_TARGET_ADDR).1 with
      | none => (false, loadBPPResult)
      | some addressAsn =>
        let address := hexStrToString addressAsn.asn1AsString
        let loadBPPResult := { loadBPPResult with notificationAddress := text.toUtf16 address }
        match (notificationMetadata.asn1GetChild TAG_ESIM_EID).1 with
        | none => (false, loadBPPResult)
        | some iccidAsn =>
          (true, { loadBPPResult with iccId := text.toUtf16 (bchToString iccidAsn.asn1AsBytes) })

/-- The notification metadata, or the error code. -/
def loadBoundProfilePackageParseProfileInstallResult (root : Asn1Node) :
    Option Asn1Node × Option Int32 :=
  match (root.asn1GetChild TAG_ESIM_PROFILE_INSTALLATION_RESULT_DATA).1 with
  | none => (none, none)
  | some resultData =>
    match resultData.asn1GetGreatGrandson TAG_ESIM_CTX_COMP_2 TAG_ESIM_CTX_COMP_1
        TAG_ESIM_CTX_1 with
    | some errNode => (none, some errNode.asn1AsInteger)
    | none => ((resultData.asn1GetChild TAG_ESIM_NOTIFICATION_METADATA).1, none)

def realProcessLoadBoundProfilePackageDone (text : TextCodec) (recvCombineStr : StdString)
    (loadBPPResult : ResponseEsimBppResult) : ResponseEsimBppResult × Verdict :=
  let responseByte := hexStrToBytes recvCombineStr
  let loadBPPResult := { loadBPPResult with response := text.toUtf16 recvCombineStr }
  match asn1ParseResponse responseByte (UInt32.ofNat responseByte.length) with
  | none => (loadBPPResult, ⟨recvCombineStr, false, none, none⟩)
  | some root =>
    match loadBoundProfilePackageParseProfileInstallResult root with
    | (_, some errCode) =>
      ({ loadBPPResult with resultCode := errCode },
        ⟨recvCombineStr, false, some errCode, some errCode⟩)
    | (none, none) => (loadBPPResult, ⟨recvCombineStr, false, none, none⟩)
    | (some nodeNotificationMetadata, none) =>
      match loadBoundProfilePackageParseNotificationMetadata text nodeNotificationMetadata
          loadBPPResult with
      | (false, loadBPPResult) => (loadBPPResult, ⟨recvCombineStr, false, none, none⟩)
      | (true, loadBPPResult) =>
        ({ loadBPPResult with resultCode := 0 }, ⟨recvCombineStr, true, none, some 0⟩)

theorem parseNotificationMetadata_spec (text : TextCodec) (n : Asn1Node)
    (r r' : ResponseEsimBppResult) :
    (loadBoundProfilePackageParseNotificationMetadata text n r).2.resultCode = r.resultCode ∧
    (loadBoundProfilePackageParseNotificationMetadata text n r).1
      = (loadBoundProfilePackageParseNotificationMetadata text n r').1 := by
  unfold loadBoundProfilePackageParseNotificationMetadata
  repeat' split
  all_goals exact ⟨rfl, rfl⟩

def prepareDownloadParser (text : TextCodec) : ResponseParser ResponseEsimInnerResult where
  code r := r.resultCode
  parse := realProcessPrepareDownloadDone text
  verdict received := (realProcessPrepareDownloadDone text received {}).2
  verdict_text received := by
    unfold realProcessPrepareDownloadDone
    simp only
    split
    · rfl
    · split <;> rfl
  parse_verdict received r := by
    unfold realProcessPrepareDownloadDone
    simp only
    split
    · rfl
    · split <;> rfl
  code_parse received r := by
    unfold realProcessPrepareDownloadDone
    simp only
    split
    · rfl
    · split <;> rfl

theorem realProcessLoadBoundProfilePackageDone_spec (text : TextCodec) (received : StdString)
    (r : ResponseEsimBppResult) : (realProcessLoadBoundProfilePackageDone text received r).2
        = (realProcessLoadBoundProfilePackageDone text received {}).2 ∧
    (realProcessLoadBoundProfilePackageDone text received r).1.resultCode
        = (realProcessLoadBoundProfilePackageDone text received {}).2.stored.getD r.resultCode := by
  unfold realProcessLoadBoundProfilePackageDone
  simp only
  split
  · exact ⟨rfl, rfl⟩
  · next root _ =>
    split
    · exact ⟨rfl, rfl⟩
    · exact ⟨rfl, rfl⟩
    · next metadata _ =>
      obtain ⟨hc, hs⟩ := parseNotificationMetadata_spec text metadata
        { r with response := text.toUtf16 received }
        { ({} : ResponseEsimBppResult) with response := text.toUtf16 received }
      rcases h : loadBoundProfilePackageParseNotificationMetadata text metadata
        { r with response := text.toUtf16 received } with ⟨ok, filled⟩
      rcases h' : loadBoundProfilePackageParseNotificationMetadata text metadata
        { ({} : ResponseEsimBppResult) with response := text.toUtf16 received } with ⟨ok', filled'⟩
      rw [h] at hc hs
      rw [h'] at hs
      obtain rfl : ok = ok' := hs
      cases ok with
      | false => exact ⟨rfl, hc⟩
      | true => exact ⟨rfl, rfl⟩

def loadBoundProfilePackageParser (text : TextCodec) : ResponseParser ResponseEsimBppResult where
  code r := r.resultCode
  parse := realProcessLoadBoundProfilePackageDone text
  verdict received := (realProcessLoadBoundProfilePackageDone text received {}).2
  verdict_text received := by
    unfold realProcessLoadBoundProfilePackageDone
    simp only
    repeat' split
    all_goals rfl
  parse_verdict received r := (realProcessLoadBoundProfilePackageDone_spec text received r).1
  code_parse received r := (realProcessLoadBoundProfilePackageDone_spec text received r).2

/-! ## The commands of a prepare download -/

def asn1AddChildAsBase64 (text : TextCodec) (builder : Asn1Builder) (base64Src : StdString) :
    Asn1Builder :=
  builder.asn1AddChild (firstNode (stringToBytes (text.decodeBase64NoWrap base64Src)))

def asn1BuilderToHexStr (builder : Asn1Builder) : UInt32 × StdString :=
  match builder.asn1Build.1 with
  | none => (0, [])
  | some node => (UInt32.ofNat node.asn1NodeToHexStr.length, node.asn1NodeToHexStr)

/-- `ProcessPrepareDownload` up to the sending. -/
def prepareDownloadApdus (text : TextCodec) (currentChannelId : Int32)
    (info : DownLoadConfigInfo) : Option RequestApduBuild :=
  if currentChannelId > 0 then
    let builder : Asn1Builder := { tag := TAG_ESIM_PREPARE_DOWNLOAD }
    let builder := asn1AddChildAsBase64 text builder (text.toUtf8 info.smdpSigned2)
    let builder := asn1AddChildAsBase64 text builder (text.toUtf8 info.smdpSignature2)
    let hashCc := text.toUtf8 info.hashCc
    let builder :=
      if hashCc ≠ [] then
        let bytes := stringToBytes (text.decodeBase64NoWrap hashCc)
        (builder.asn1AddChildAsBytes TAG_ESIM_OCTET_STRING_TYPE bytes (UInt32.ofNat bytes.length)).2
      else builder
    let builder := asn1AddChildAsBase64 text builder (text.toUtf8 info.smdpCertificate)
    let (hexStrLen, hexStr) := asn1BuilderToHexStr builder
    if hexStrLen = 0 then none
    else some (({ channelId := currentChannelId } : RequestApduBuild).buildStoreData hexStr)
  else none

/-! ## The operations -/

/-- `currentChannelId_` when the channel is asked for and after the wait for it to open, then the
modem. -/
structure Call where
  text : TextCodec
  channelBefore : Int32
  channelOpened : Int32
  modem : Modem

def obtainChannelSuccessExclusive (call : Call) : ResultInnerCode :=
  if call.channelBefore > 0 then .RESULT_EUICC_CARD_CHANNEL_IN_USE
  else if call.channelOpened > 0 then .RESULT_EUICC_CARD_OK
  else .RESULT_EUICC_CARD_CHANNEL_OPEN_FAILED

/-- The commands built, the requests sent with the way each wait ended, the merged text and what the
parser made of it. -/
structure Trace where
  commands : Option (List ApduCommand) := none
  log : List (ApduSimIORequestInfo × Reply) := []
  received : StdString := []
  verdicts : List Verdict := []

def processCommands {R : Type} (P : ResponseParser R) (m : Modem) (s : Session R)
    (failed : R) : Option RequestApduBuild → R × Trace
  | none => (failed, {})
  | some codec =>
    let cmds := codec.getCommands.1
    let (s, log) := splitSendLongData P m cmds 0 { s with sent := [], verdicts := [] }
    (s.result, ⟨some cmds, log, s.recvCombineStr, s.verdicts⟩)

def obtainPrepareDownload (call : Call) (info : DownLoadConfigInfo)
    (s : Session ResponseEsimInnerResult) : ResponseEsimInnerResult × Trace :=
  let s := { s with result := ({} : ResponseEsimInnerResult) }
  match obtainChannelSuccessExclusive call with
  | .RESULT_EUICC_CARD_OK =>
    processCommands (prepareDownloadParser call.text) call.modem { s with recvCombineStr := [] }
      { s.result with
        resultCode := ResultInnerCode.RESULT_EUICC_CARD_DATA_PROCESS_ERROR.toInt32 }
      (prepareDownloadApdus call.text call.modem.currentChannelId info)
  | resultFlag => ({ s.result with resultCode := resultFlag.toInt32 }, {})

def obtainLoadBoundProfilePackage (call : Call) (boundProfilePackage : List UInt16)
    (s : Session ResponseEsimBppResult) : ResponseEsimBppResult × Trace :=
  match obtainChannelSuccessExclusive call with
  | .RESULT_EUICC_CARD_OK =>
    -- unlike the other operation, this one resets its result only here
    let s := { s with result := ({} : ResponseEsimBppResult), recvCombineStr := [] }
    processCommands (loadBoundProfilePackageParser call.text) call.modem s
      { s.result with
        resultCode := ResultInnerCode.RESULT_EUICC_CARD_DATA_PROCESS_ERROR.toInt32 }
      (loadBoundProfilePackageApdus call.text call.modem.currentChannelId boundProfilePackage)
  | resultFlag => ({ s.result with resultCode := resultFlag.toInt32 }, {})

/-- One call of one of the two operations, with the object state it finds. -/
inductive Operation where
  | prepareDownload (info : DownLoadConfigInfo) (s : Session ResponseEsimInnerResult)
  | loadBoundProfilePackage (boundProfilePackage : List UInt16)
      (s : Session ResponseEsimBppResult)

namespace Operation

/-- The returned `resultCode_`, and the record of the call. -/
def run (call : Call) : Operation → Int32 × Trace
  | prepareDownload info s =>
    ((obtainPrepareDownload call info s).1.resultCode, (obtainPrepareDownload call info s).2)
  | loadBoundProfilePackage bpp s =>
    ((obtainLoadBoundProfilePackage call bpp s).1.resultCode,
      (obtainLoadBoundProfilePackage call bpp s).2)

def commands (call : Call) : Operation → Option (List ApduCommand)
  | prepareDownload info _ =>
    (prepareDownloadApdus call.text call.modem.currentChannelId info).map
      (fun codec => codec.getCommands.1)
  | loadBoundProfilePackage bpp _ =>
    (loadBoundProfilePackageApdus call.text call.modem.currentChannelId bpp).map
      (fun codec => codec.getCommands.1)

def verdict (call : Call) : Operation → StdString → Verdict
  | prepareDownload _ _ => (prepareDownloadParser call.text).verdict
  | loadBoundProfilePackage _ _ => (loadBoundProfilePackageParser call.text).verdict

end Operation

/-! ## What the returned code means -/

/-- Every block was sent and answered, the last answer ended with `9000`, and the whole merged text
was parsed without an error code. -/
structure Completed (t : Trace) : Prop where
  sent : ∃ cmds, t.commands = some cmds ∧
    t.log.map (fun e => e.1.data) = cmds.map (fun c => c.data.cmdHex)
  answered : ∀ reply ∈ t.log.map Prod.snd, ∃ fileData, reply = .answered fileData
  final : ∃ fileData, (t.log.map Prod.snd).getLast? = some (.answered fileData) ∧
    fileData.sw1 = SW1_VALUE_90 ∧ fileData.sw2 = SW2_VALUE_00
  parsed : ∃ v, t.verdicts.getLast? = some v ∧ v.text = t.received ∧ v.accepted = true ∧
    v.errorCode = none

/-- Every wait is ended in time by an answer, the last one by `9000`, and the last text that gets
parsed is the whole merged text, which has no error in it. -/
structure CardCompletes (verdict : StdString → Verdict) (m : Modem) (n : Nat) : Prop where
  answered : ∀ reply ∈ (m.heard n).2, ∃ fileData, reply = .answered fileData
  final : ∃ fileData, (m.heard n).2.getLast? = some (.answered fileData) ∧
    fileData.sw1 = SW1_VALUE_90 ∧ fileData.sw2 = SW2_VALUE_00
  whole : (parsedTexts [] (m.heard n).1).getLast? = some (received (m.heard n).1)
  accepted : (verdict (received (m.heard n).1)).accepted = true
  noError : (verdict (received (m.heard n).1)).errorCode = none

/-- The last code the parser assigns to the texts of a transmission of `n` blocks. -/
def lastCode (verdict : StdString → Verdict) (m : Modem) (n : Nat) : Option Int32 :=
  lastStored ((parsedTexts [] (m.heard n).1).map verdict)

theorem completed_iff {R : Type} (P : ResponseParser R) {m : Modem} {cmds : List ApduCommand}
    {log : List (ApduSimIORequestInfo × Reply)} (hrp : log.map Prod.snd = (m.heard cmds.length).2)
    (hdt : log.map (fun e => e.1.data)
      = (cmds.map (fun c => c.data.cmdHex)).take (m.heard cmds.length).2.length) :
    Completed ⟨some cmds, log, received (m.heard cmds.length).1,
        (parsedTexts [] (m.heard cmds.length).1).map P.verdict⟩ ↔
      CardCompletes P.verdict m cmds.length := by
  constructor
  · rintro ⟨-, han, hf, v, hls, htx, hac, her⟩
    simp only [hrp] at han hf
    rw [List.getLast?_map, Option.map_eq_some_iff] at hls
    obtain ⟨_, htt, rfl⟩ := hls
    rw [P.verdict_text] at htx
    subst htx
    exact ⟨han, hf, htt, hac, her⟩
  · rintro ⟨han, hf, hwh, hac, her⟩
    have hln : (m.heard cmds.length).2.length = cmds.length := by
      unfold Modem.heard at han hf ⊢
      cases hrl : m.telRilManager with
      | true =>
        rw [hrl] at han
        apply heard_length
        intro reply hr hm
        obtain ⟨fileData, h⟩ := han reply hr
        rw [hm] at h
        cases h
      | false =>
        rw [hrl] at hf
        obtain ⟨fileData, h, -⟩ := hf
        cases h
    refine ⟨⟨cmds, rfl, ?_⟩, by simpa only [hrp] using han, by simpa only [hrp] using hf,
      P.verdict (received (m.heard cmds.length).1), ?_, P.verdict_text _, hac, her⟩
    · show log.map (fun e => e.1.data) = _
      rw [hdt, hln]
      exact List.take_of_length_le (by simp)
    · show ((parsedTexts [] (m.heard cmds.length).1).map P.verdict).getLast? = _
      rw [List.getLast?_map, hwh]
      rfl

/-- What an operation that has the channel leaves, as a function of its commands
and of what the card said. -/
structure Outcome (verdict : StdString → Verdict) (m : Modem)
    (built : Option (List ApduCommand)) (code : Int32) (record : Trace) : Prop where
  failed : built = none → code = ResultInnerCode.RESULT_EUICC_CARD_DATA_PROCESS_ERROR.toInt32
  code : ∀ cmds, built = some cmds → code = (lastCode verdict m cmds.length).getD 0
  completed : ∀ cmds, built = some cmds → (Completed record ↔ CardCompletes verdict m cmds.length)

theorem processCommands_outcome {R : Type} (P : ResponseParser R) (m : Modem) (s : Session R)
    {failed : R} (codec : Option RequestApduBuild) (he : s.recvCombineStr = [])
    (hz : P.code s.result = 0)
    (hf : P.code failed = ResultInnerCode.RESULT_EUICC_CARD_DATA_PROCESS_ERROR.toInt32) :
    Outcome P.verdict m (codec.map (fun codec => codec.getCommands.1))
      (P.code (processCommands P m s failed codec).1) (processCommands P m s failed codec).2 := by
  cases codec with
  | none =>
    exact ⟨fun _ => hf, fun _ h => absurd h (by simp), fun _ h => absurd h (by simp)⟩
  | some codec =>
    obtain ⟨serial, merged, newData, result, _, _⟩ := s
    obtain rfl : merged = [] := he
    obtain ⟨⟨hm, hv, hc⟩, hr, hdt⟩ :=
      splitSendLongData_heard P m codec.getCommands.1 ⟨serial, [], newData, result, [], []⟩
    rw [List.nil_append] at hm hv
    refine ⟨fun h => absurd h (by simp), ?_, ?_⟩
    · rintro cmds ⟨⟩
      show P.code (splitSendLongData P m codec.getCommands.1 0 _).1.result = _
      rw [hc, hz]
      rfl
    · rintro cmds ⟨⟩
      rw [← completed_iff P hr hdt, ← hm, ← hv]
      rfl

theorem run_outcome (call : Call) (op : Operation)
    (hch : obtainChannelSuccessExclusive call = .RESULT_EUICC_CARD_OK) :
    Outcome (op.verdict call) call.modem (op.commands call) (op.run call).1 (op.run call).2 := by
  cases op with
  | prepareDownload info s =>
    rw [Operation.run, obtainPrepareDownload, hch]
    exact processCommands_outcome (prepareDownloadParser call.text) call.modem _ _ rfl rfl rfl
  | loadBoundProfilePackage bpp s =>
    rw [Operation.run, obtainLoadBoundProfilePackage, hch]
    exact processCommands_outcome (loadBoundProfilePackageParser call.text) call.modem _ _ rfl rfl
      rfl

theorem run_no_channel (call : Call) (op : Operation)
    (hch : obtainChannelSuccessExclusive call ≠ .RESULT_EUICC_CARD_OK) :
    (op.run call).1 = (obtainChannelSuccessExclusive call).toInt32 := by
  cases op with
  | prepareDownload info s =>
    rw [Operation.run, obtainPrepareDownload]
    cases h : obtainChannelSuccessExclusive call with
    | RESULT_EUICC_CARD_OK => exact absurd h hch
    | _ => rfl
  | loadBoundProfilePackage bpp s =>
    rw [Operation.run, obtainLoadBoundProfilePackage]
    cases h : obtainChannelSuccessExclusive call with
    | RESULT_EUICC_CARD_OK => exact absurd h hch
    | _ => rfl

/-- Success exactly when it got the channel, built its commands, and the parser assigned no error to
the last text it gave a code to. -/
theorem run_code_eq_zero_iff (call : Call) (op : Operation) : (op.run call).1 = 0 ↔
      obtainChannelSuccessExclusive call = .RESULT_EUICC_CARD_OK ∧
      ∃ cmds, op.commands call = some cmds ∧
        ∀ c, lastCode (op.verdict call) call.modem cmds.length = some c → c = 0 := by
  by_cases hch : obtainChannelSuccessExclusive call = .RESULT_EUICC_CARD_OK
  · have ho := run_outcome call op hch
    cases hcm : op.commands call with
    | none =>
      rw [ho.failed hcm, ResultInnerCode.toInt32_eq_zero]
      exact ⟨fun h => absurd h (by decide), fun ⟨_, cmds, h, _⟩ => absurd h (by simp)⟩
    | some cmds =>
      rw [ho.code cmds hcm]
      cases hl : lastCode (op.verdict call) call.modem cmds.length with
      | none =>
        exact ⟨fun _ => ⟨hch, cmds, rfl, by simp [hl]⟩, fun _ => rfl⟩
      | some c =>
        refine ⟨fun h => ⟨hch, cmds, rfl, ?_⟩, ?_⟩
        · intro c' hc'
          rw [hl] at hc'
          rw [← Option.some.inj hc']
          exact h
        · rintro ⟨-, _, h, hal⟩
          cases h
          exact hal c hl
  · rw [run_no_channel call op hch, ResultInnerCode.toInt32_eq_zero]
    exact ⟨fun h => absurd h hch, fun h => h.1⟩

/-- **When the code 0 can be trusted**: the channel was not obtained, or the commands could not be
built, or the last code the parser assigns is an error, or the card completed the command. -/
theorem resultCode_ok_iff (call : Call) (op : Operation) :
    ((op.run call).1 = 0 → Completed (op.run call).2) ↔
      obtainChannelSuccessExclusive call ≠ .RESULT_EUICC_CARD_OK ∨
      op.commands call = none ∨
      ∃ cmds, op.commands call = some cmds ∧
        ((∃ c, lastCode (op.verdict call) call.modem cmds.length = some c ∧ c ≠ 0) ∨
          CardCompletes (op.verdict call) call.modem cmds.length) := by
  rw [run_code_eq_zero_iff]
  constructor
  · intro h
    by_cases hch : obtainChannelSuccessExclusive call = .RESULT_EUICC_CARD_OK
    · right
      cases hcm : op.commands call with
      | none => exact .inl rfl
      | some cmds =>
        refine .inr ⟨cmds, rfl, ?_⟩
        by_cases he : ∃ c, lastCode (op.verdict call) call.modem cmds.length = some c ∧ c ≠ 0
        · exact .inl he
        · right
          rw [← (run_outcome call op hch).completed cmds hcm]
          refine h ⟨hch, cmds, hcm, fun c hc => ?_⟩
          by_contra hne
          exact he ⟨c, hc, hne⟩
    · exact .inl hch
  · rintro h ⟨hch, cmds, hcm, hl⟩
    rcases h with hno | hnn | ⟨_, hcm', hcs⟩
    · exact absurd hch hno
    · rw [hnn] at hcm
      cases hcm
    · rw [hcm] at hcm'
      cases hcm'
      rcases hcs with ⟨c, hc, hne⟩ | hdn
      · exact absurd (hl c hc) hne
      · exact ((run_outcome call op hch).completed cmds hcm).2 hdn

def sampleCall (exchanges : Nat → Exchange) : Call := ⟨plainText, 0, 1, ⟨true, 1, exchanges⟩⟩

def shortDownload : Operation :=
  .prepareDownload ⟨[], [0x30, 0x00], [0x30, 0x00], [0x30, 0x00]⟩ { result := {} }

def goodAnswer : IccFileData := ⟨SW1_VALUE_90, SW2_VALUE_00, ascii "BF2100"⟩

theorem resultCode_ok_goodAnswer :
    (shortDownload.run (sampleCall fun _ => ⟨[some goodAnswer], []⟩)).1 = 0 ∧
    Completed (shortDownload.run (sampleCall fun _ => ⟨[some goodAnswer], []⟩)).2 := by
  have hz : (shortDownload.run (sampleCall fun _ => ⟨[some goodAnswer], []⟩)).1 = 0 := by decide
  have hrp : ∀ reply ∈ ((sampleCall fun _ => ⟨[some goodAnswer], []⟩).modem.heard 1).2,
      reply = .answered goodAnswer := by decide
  refine ⟨hz, (resultCode_ok_iff _ _).2 (.inr (.inr ⟨_, rfl, .inr ?_⟩)) hz⟩
  exact ⟨fun reply hr => ⟨goodAnswer, hrp reply hr⟩, ⟨goodAnswer, rfl, rfl, rfl⟩, by decide,
    by decide, by decide⟩

/-- The block is sent, the wait runs out, and the returned code is 0. -/
theorem silent_modem_reports_ok :
    (shortDownload.run (sampleCall fun _ => ⟨[], []⟩)).1 = 0 ∧
    (shortDownload.run (sampleCall fun _ => ⟨[], []⟩)).2.log.map Prod.snd = [.missed] ∧
    ¬ Completed (shortDownload.run (sampleCall fun _ => ⟨[], []⟩)).2 := by
  have hlg : (shortDownload.run (sampleCall fun _ => ⟨[], []⟩)).2.log.map Prod.snd
      = [.missed] := by decide
  refine ⟨by decide, hlg, fun h => ?_⟩
  obtain ⟨_, hls, -⟩ := h.final
  cases hls

end TelephonyCore.Esim
