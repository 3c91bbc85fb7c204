import TelephonyCore.Codec.RequestApduBuild

/-!
# Sending long data to the card and merging its answer

`SplitSendLongData` sends one STORE DATA block at a time and waits for the handler of the answers,
on another thread, to report that it is ready. The handler merges the data of each answer into
`recvCombineStr_`, asks for more on a `61xx` status, and gives the merged text to a parser when a
`9000` answer brings data.

What the modem does is the input: for each block, the messages that reach the handler before the
wait deadline, and those after it (`Exchange`). The parser is a parameter (`ResponseParser`), with
the law that ties the stored code to what it made of the text.
-/

namespace TelephonyCore.Esim

open Codec List

def SW1_MORE_RESPONSE : Int32 := 0x61
def SW1_VALUE_90 : Int32 := 0x90
def SW2_VALUE_00 : Int32 := 0x00
def INS_GET_MORE_RESPONSE : UInt32 := 0xC0

structure IccFileData where
  sw1 : Int32 := 0
  sw2 : Int32 := 0
  resultData : StdString := []
deriving DecidableEq

structure ApduSimIORequestInfo where
  serial : Int32 := 0
  channelId : Int32 := 0
  type : Int32 := 0
  instruction : Int32 := 0
  p1 : Int32 := 0
  p2 : Int32 := 0
  p3 : Int32 := 0
  data : StdString := []
deriving DecidableEq

/-- Whether the text was accepted, the error code it carries, and the code that was stored. -/
structure Verdict where
  text : StdString
  accepted : Bool
  errorCode : Option Int32
  stored : Option Int32
deriving DecidableEq

/-- The `RealProcess…Done` function of an operation. The verdict depends on the text alone, and the
code in the result is the stored one, or the old one. -/
structure ResponseParser (R : Type) where
  code : R → Int32
  parse : StdString → R → R × Verdict
  verdict : StdString → Verdict
  verdict_text : ∀ text, (verdict text).text = text
  parse_verdict : ∀ text r, (parse text r).2 = verdict text
  code_parse : ∀ text r, code (parse text r).1 = (verdict text).stored.getD (code r)

/-- The members of `EsimFile` that one operation uses, with a record of the requests and of the
texts parsed. -/
structure Session (R : Type) where
  nextSerialId : Int32 := 0
  recvCombineStr : StdString := []
  newRecvData : IccFileData := {}
  result : R
  sent : List ApduSimIORequestInfo := []
  verdicts : List Verdict := []

/-- A message to the handler: `none` where the event or its payload is null. -/
abbrev Message := Option IccFileData

/-- The messages after one block: before the wait deadline, and after it. -/
structure Exchange where
  inTime : List Message
  late : List Message := []

inductive Reply where
  | answered (fileData : IccFileData)
  | nullMessage
  | missed
deriving DecidableEq

/-- The RIL manager may be gone; the channel id is the one read when the commands are built. -/
structure Modem where
  telRilManager : Bool
  currentChannelId : Int32
  exchanges : Nat → Exchange

variable {R : Type}

/-! ## Requests -/

def copyApdCmdToReqInfo (s : Session R) (apduCommand : ApduCommand) :
    ApduSimIORequestInfo × Session R :=
  let requestInfo : ApduSimIORequestInfo :=
    { serial := s.nextSerialId
      channelId := apduCommand.channel.toInt32
      type := apduCommand.data.cla.toInt32
      instruction := apduCommand.data.ins.toInt32
      p1 := apduCommand.data.p1.toInt32
      p2 := apduCommand.data.p2.toInt32
      p3 := apduCommand.data.p3.toInt32
      data := apduCommand.data.cmdHex }
  let next := s.nextSerialId + 1
  (requestInfo, { s with nextSerialId := if next ≥ Int32.maxValue then 0 else next })

def simTransmitApduLogicalChannel (s : Session R) (reqInfo : ApduSimIORequestInfo) : Session R :=
  { s with sent := s.sent ++ [reqInfo] }

def processIfNeedMoreResponse (m : Modem) (s : Session R) (fileData : IccFileData) : Session R :=
  if fileData.sw1 = SW1_MORE_RESPONSE then
    let codec : RequestApduBuild := { channelId := m.currentChannelId }
    match (codec.buildStoreData []).getCommands.1 with
    | [] => s
    | apdCmd :: _ =>
      let data := { apdCmd.data with
        cla := 0, ins := INS_GET_MORE_RESPONSE, p1 := 0, p2 := 0, p3 := fileData.sw2.toUInt32 }
      let (reqInfo, s) := copyApdCmdToReqInfo s { apdCmd with data := data }
      if m.telRilManager then simTransmitApduLogicalChannel s reqInfo else s
  else s

/-! ## The handler -/

inductive MergeResult where
  | finish
  | notFinish
  | error
deriving DecidableEq

def combineResponseDataFinish (fileData : IccFileData) : MergeResult :=
  if fileData.sw1 = SW1_MORE_RESPONSE then .notFinish
  else if fileData.sw1 = SW1_VALUE_90 ∧ fileData.sw2 = SW2_VALUE_00 then .finish
  else .error

def mergeRecvLongDataComplete (m : Modem) (s : Session R) (fileData : IccFileData) :
    MergeResult × Session R :=
  match combineResponseDataFinish fileData with
  | .error => (.error, s)
  | .notFinish =>
    (.notFinish, processIfNeedMoreResponse m
      { s with recvCombineStr := s.recvCombineStr ++ fileData.resultData } fileData)
  | .finish => (.finish, { s with recvCombineStr := s.recvCombineStr ++ fileData.resultData })

def realProcessDone (P : ResponseParser R) (s : Session R) : Session R :=
  let (result, verdict) := P.parse s.recvCombineStr s.result
  { s with result := result, verdicts := s.verdicts ++ [verdict] }

/-- `ProcessPrepareDownloadDone` and `ProcessLoadBoundProfilePackageDone`, which differ in the
parser only, with whether `NotifyReady` was called. -/
def processDone (P : ResponseParser R) (m : Modem) (s : Session R) : Message → Session R × Bool
  | none => (s, true)
  | some fileData =>
    match mergeRecvLongDataComplete m { s with newRecvData := fileData } fileData with
    | (.error, s) => (s, true)
    | (.notFinish, s) => (s, false)
    | (.finish, s) =>
      if s.newRecvData.resultData = [] then (s, true) else (realProcessDone P s, true)

/-! ## The sender -/

def Message.reply : Message → Reply
  | none => .nullMessage
  | some fileData => .answered fileData

def waitReady (P : ResponseParser R) (m : Modem) : List Message → Session R → Session R × Reply
  | [], s => (s, .missed)
  | message :: rest, s =>
    match processDone P m s message with
    | (s, true) => (s, message.reply)
    | (s, false) => waitReady P m rest s

/-- Messages that come when nobody waits any more. -/
def handleLate (P : ResponseParser R) (m : Modem) (s : Session R) (late : List Message) :
    Session R :=
  late.foldl (fun s message => (processDone P m s message).1) s

/-- `SplitSendLongData` from block `i` on. A missed deadline ends the loop; the messages that come
after it are handled while the channel is being closed. -/
def splitSendLongData (P : ResponseParser R) (m : Modem) :
    List ApduCommand → Nat → Session R → Session R × List (ApduSimIORequestInfo × Reply)
  | [], _, s => (s, [])
  | cmd :: rest, i, s =>
    let (reqInfo, s) := copyApdCmdToReqInfo s cmd
    if m.telRilManager then
      match waitReady P m (m.exchanges i).inTime (simTransmitApduLogicalChannel s reqInfo) with
      | (s, .missed) => (handleLate P m s (m.exchanges i).late, [(reqInfo, .missed)])
      | (s, reply) =>
        let (s, log) := splitSendLongData P m rest (i + 1) s
        (s, (reqInfo, reply) :: log)
    else (s, [])

/-! ## What the card said

The same transmission without the members: a function of the modem's messages. -/

/-- A `61xx` answer keeps the sender waiting. -/
def Message.isMore : Message → Bool
  | none => false
  | some fileData => combineResponseDataFinish fileData == .notFinish

/-- The messages of one wait up to the one that ends it. -/
def untilEnd : List Message → List Message × Option Message
  | [] => ([], none)
  | message :: rest =>
    if message.isMore then (message :: (untilEnd rest).1, (untilEnd rest).2)
    else ([message], some message)

/-- What reaches the handler while `n` blocks are sent, and how each wait ends. -/
def heard (exchanges : Nat → Exchange) : Nat → Nat → List Message × List Reply
  | 0, _ => ([], [])
  | n + 1, i =>
    match untilEnd (exchanges i).inTime with
    | (messages, none) => (messages ++ (exchanges i).late, [.missed])
    | (messages, some last) =>
      (messages ++ (heard exchanges n (i + 1)).1, last.reply :: (heard exchanges n (i + 1)).2)

/-- The data a message adds to the merged text. -/
def Message.data : Message → StdString
  | none => []
  | some fileData =>
    if combineResponseDataFinish fileData = .error then [] else fileData.resultData

def received (messages : List Message) : StdString := messages.flatMap Message.data

/-- A `9000` answer that brings data: the merged text is parsed. -/
def Message.isParsed : Message → Bool
  | none => false
  | some fileData =>
    combineResponseDataFinish fileData == .finish && !fileData.resultData.isEmpty

/-- The texts given to the parser, when `acc` was merged before. -/
def parsedTexts : StdString → List Message → List StdString
  | _, [] => []
  | acc, message :: rest =>
    if message.isParsed then (acc ++ message.data) :: parsedTexts (acc ++ message.data) rest
    else parsedTexts (acc ++ message.data) rest

theorem parsedTexts_append (xs ys : List Message) :
    ∀ acc, parsedTexts acc (xs ++ ys) = parsedTexts acc xs ++ parsedTexts (acc ++ received xs) ys := by
  induction xs with
  | nil => intro acc; simp [parsedTexts, received]
  | cons message rest ih =>
    intro acc
    have hr : acc ++ received (message :: rest) = acc ++ message.data ++ received rest := by
      simp [received]
    rw [cons_append, parsedTexts, parsedTexts, ih, hr]
    split <;> rfl

/-- The code the last storing verdict left, if any stored one. -/
def lastStored (verdicts : List Verdict) : Option Int32 :=
  (verdicts.filterMap Verdict.stored).getLast?

theorem lastStored_append (xs ys : List Verdict) :
    lastStored (xs ++ ys) = (lastStored ys).or (lastStored xs) := by
  unfold lastStored
  rw [filterMap_append, getLast?_append]

theorem lastStored_singleton (v : Verdict) : lastStored [v] = v.stored := by
  unfold lastStored
  cases h : v.stored with
  | none => simp [h]
  | some c => simp [h]

/-! ## The members hold what the card said -/

/-- The session `s'` is `s` after the handler has run on `messages`. -/
structure After (P : ResponseParser R) (messages : List Message) (s s' : Session R) : Prop where
  merged : s'.recvCombineStr = s.recvCombineStr ++ received messages
  verdicts : s'.verdicts = s.verdicts ++ (parsedTexts s.recvCombineStr messages).map P.verdict
  code : P.code s'.result
    = (lastStored ((parsedTexts s.recvCombineStr messages).map P.verdict)).getD (P.code s.result)

section After

variable {P : ResponseParser R} {s s₁ s₂ : Session R}

theorem After.nothing (hm : s₁.recvCombineStr = s.recvCombineStr)
    (hv : s₁.verdicts = s.verdicts) (hr : s₁.result = s.result) : After P [] s s₁ where
  merged := by rw [hm]; exact (append_nil _).symm
  verdicts := by rw [hv]; exact (append_nil _).symm
  code := by rw [hr]; rfl

theorem After.trans {xs ys : List Message} (h₁ : After P xs s s₁) (h₂ : After P ys s₁ s₂) :
    After P (xs ++ ys) s s₂ where
  merged := by rw [h₂.merged, h₁.merged, append_assoc, received, received, received, flatMap_append]
  verdicts := by
    rw [h₂.verdicts, h₁.verdicts, h₁.merged, parsedTexts_append, map_append, append_assoc]
  code := by
    rw [h₂.code, h₁.code, h₁.merged, parsedTexts_append, map_append, lastStored_append]
    cases lastStored ((parsedTexts (s.recvCombineStr ++ received xs) ys).map P.verdict) with
    | none => rfl
    | some c => rfl

theorem processIfNeedMoreResponse_eq (m : Modem) (s : Session R) (fileData : IccFileData) :
    (processIfNeedMoreResponse m s fileData).recvCombineStr = s.recvCombineStr ∧
    (processIfNeedMoreResponse m s fileData).verdicts = s.verdicts ∧
    (processIfNeedMoreResponse m s fileData).result = s.result := by
  unfold processIfNeedMoreResponse
  split
  · split
    · exact ⟨rfl, rfl, rfl⟩
    · simp only
      split <;> exact ⟨rfl, rfl, rfl⟩
  · exact ⟨rfl, rfl, rfl⟩

theorem parsedTexts_singleton {message : Message} (acc : StdString) (h : message.isParsed = false) :
    parsedTexts acc [message] = [] := by
  simp [parsedTexts, h]

theorem After.merge {message : Message} (hp : message.isParsed = false)
    (hm : s₁.recvCombineStr = s.recvCombineStr ++ message.data)
    (hv : s₁.verdicts = s.verdicts) (hr : s₁.result = s.result) : After P [message] s s₁ where
  merged := by rw [hm]; simp [received]
  verdicts := by rw [hv, parsedTexts_singleton _ hp]; exact (append_nil _).symm
  code := by rw [hr, parsedTexts_singleton _ hp]; rfl

/-- **One message.** The handler wakes the sender unless more data is to come. -/
theorem processDone_spec (P : ResponseParser R) (m : Modem) (s : Session R) (message : Message) :
    After P [message] s (processDone P m s message).1 ∧
      (processDone P m s message).2 = !message.isMore := by
  cases message with
  | none => exact ⟨.merge rfl (append_nil _).symm rfl rfl, rfl⟩
  | some fileData =>
    rw [processDone, mergeRecvLongDataComplete]
    cases hrs : combineResponseDataFinish fileData with
    | error =>
      have hdt : Message.data (some fileData) = [] := by simp [Message.data, hrs]
      refine ⟨.merge (by simp [Message.isParsed, hrs]) ?_ rfl rfl, ?_⟩
      · rw [hdt]
        exact (append_nil _).symm
      · simp [Message.isMore, hrs]
    | notFinish =>
      have hdt : Message.data (some fileData) = fileData.resultData := by
        simp [Message.data, hrs]
      obtain ⟨hm, hv, hr⟩ := processIfNeedMoreResponse_eq m
        { s with
          newRecvData := fileData
          recvCombineStr := s.recvCombineStr ++ fileData.resultData } fileData
      refine ⟨.merge (by simp [Message.isParsed, hrs]) ?_ hv hr, ?_⟩
      · rw [hdt]
        exact hm
      · simp [Message.isMore, hrs]
    | finish =>
      have hdt : Message.data (some fileData) = fileData.resultData := by
        simp [Message.data, hrs]
      by_cases he : fileData.resultData = []
      · simp only [he, if_true]
        refine ⟨.merge (by simp [Message.isParsed, he]) ?_ rfl rfl, ?_⟩
        · rw [hdt, he]
        · simp [Message.isMore, hrs]
      · simp only [he]
        have hp : Message.isParsed (some fileData) := by
          simp [Message.isParsed, hrs, he]
        have ht : parsedTexts s.recvCombineStr [some fileData]
            = [s.recvCombineStr ++ fileData.resultData] := by
          simp [parsedTexts, hp, hdt]
        refine ⟨⟨?_, ?_, ?_⟩, by simp [Message.isMore, hrs]⟩
        · show s.recvCombineStr ++ fileData.resultData = _
          simp [received, hdt]
        · rw [ht]
          show s.verdicts ++ [(P.parse (s.recvCombineStr ++ fileData.resultData) s.result).2] = _
          rw [P.parse_verdict]
          rfl
        · rw [ht]
          show P.code (P.parse (s.recvCombineStr ++ fileData.resultData) s.result).1 = _
          rw [P.code_parse, map_singleton, lastStored_singleton]

theorem waitReady_spec (P : ResponseParser R) (m : Modem) :
    ∀ messages s, After P (untilEnd messages).1 s (waitReady P m messages s).1 ∧
      (waitReady P m messages s).2 = ((untilEnd messages).2.map Message.reply).getD .missed := by
  intro messages
  induction messages with
  | nil => intro s; exact ⟨.nothing rfl rfl rfl, rfl⟩
  | cons message rest ih =>
    intro s
    obtain ⟨hs, hrd⟩ := processDone_spec P m s message
    rw [waitReady, untilEnd]
    rcases h : processDone P m s message with ⟨s', ready⟩
    rw [h] at hs hrd
    cases hm : message.isMore with
    | true =>
      rw [hm] at hrd
      obtain rfl : ready = false := hrd
      obtain ⟨hrs, hrp⟩ := ih s'
      exact ⟨hs.trans hrs, hrp⟩
    | false =>
      rw [hm] at hrd
      obtain rfl : ready := hrd
      exact ⟨hs, rfl⟩

theorem handleLate_spec (P : ResponseParser R) (m : Modem) (late : List Message) :
    ∀ s, After P late s (handleLate P m s late) := by
  induction late with
  | nil => intro s; exact .nothing rfl rfl rfl
  | cons message rest ih =>
    intro s
    exact (processDone_spec P m s message).1.trans (ih _)

end After

/-- **A run of the sending loop.** The members after the loop hold what the card said. -/
theorem splitSendLongData_spec (P : ResponseParser R) (m : Modem) (hrl : m.telRilManager) :
    ∀ cmds i s, After P (heard m.exchanges cmds.length i).1 s (splitSendLongData P m cmds i s).1 ∧
      (splitSendLongData P m cmds i s).2.map Prod.snd = (heard m.exchanges cmds.length i).2 ∧
      (splitSendLongData P m cmds i s).2.map (fun e => e.1.data)
        = (cmds.map (fun c => c.data.cmdHex)).take (heard m.exchanges cmds.length i).2.length := by
  intro cmds
  induction cmds with
  | nil => intro i s; exact ⟨.nothing rfl rfl rfl, rfl, rfl⟩
  | cons cmd rest ih =>
    intro i s
    obtain ⟨hwt, hrp⟩ := waitReady_spec P m (m.exchanges i).inTime
      (simTransmitApduLogicalChannel (copyApdCmdToReqInfo s cmd).2 (copyApdCmdToReqInfo s cmd).1)
    have hsn : After P [] s (simTransmitApduLogicalChannel (copyApdCmdToReqInfo s cmd).2
        (copyApdCmdToReqInfo s cmd).1) := .nothing rfl rfl rfl
    have hsf := hsn.trans hwt
    rw [splitSendLongData, length_cons, heard]
    simp only [hrl]
    rcases hu : untilEnd (m.exchanges i).inTime with ⟨_, last⟩
    rw [hu] at hsf hrp
    rcases hw : waitReady P m (m.exchanges i).inTime (simTransmitApduLogicalChannel
      (copyApdCmdToReqInfo s cmd).2 (copyApdCmdToReqInfo s cmd).1) with ⟨s', reply⟩
    rw [hw] at hsf hrp
    cases last with
    | none =>
      obtain rfl : reply = .missed := hrp
      exact ⟨hsf.trans (handleLate_spec P m _ s'), rfl, rfl⟩
    | some last =>
      obtain rfl : reply = last.reply := hrp
      obtain ⟨hrs, hre, hdt⟩ := ih (i + 1) s'
      rcases last with _ | _
      · exact ⟨hsf.trans hrs, congrArg (_ :: ·) hre, congrArg (_ :: ·) hdt⟩
      · exact ⟨hsf.trans hrs, congrArg (_ :: ·) hre, congrArg (_ :: ·) hdt⟩

theorem splitSendLongData_no_ril (P : ResponseParser R) (m : Modem)
    (hr : m.telRilManager = false) (cmds : List ApduCommand) (i : Nat) (s : Session R) :
    After P [] s (splitSendLongData P m cmds i s).1 ∧ (splitSendLongData P m cmds i s).2 = [] := by
  cases cmds with
  | nil => exact ⟨.nothing rfl rfl rfl, rfl⟩
  | cons cmd rest =>
    rw [splitSendLongData]
    simp only [hr, Bool.false_eq_true, if_false]
    exact ⟨.nothing rfl rfl rfl, trivial⟩

/-- As `heard` from the first block, and nothing when there is no RIL manager. -/
def Modem.heard (m : Modem) (n : Nat) : List Message × List Reply :=
  if m.telRilManager then Esim.heard m.exchanges n 0 else ([], [])

theorem splitSendLongData_heard (P : ResponseParser R) (m : Modem) (cmds : List ApduCommand)
    (s : Session R) :
    After P (m.heard cmds.length).1 s (splitSendLongData P m cmds 0 s).1 ∧
    (splitSendLongData P m cmds 0 s).2.map Prod.snd = (m.heard cmds.length).2 ∧
    (splitSendLongData P m cmds 0 s).2.map (fun e => e.1.data)
      = (cmds.map (fun c => c.data.cmdHex)).take (m.heard cmds.length).2.length := by
  unfold Modem.heard
  cases hr : m.telRilManager with
  | true => exact splitSendLongData_spec P m hr cmds 0 s
  | false =>
    obtain ⟨ha, hl⟩ := splitSendLongData_no_ril P m hr cmds 0 s
    refine ⟨ha, ?_, ?_⟩
    · rw [hl]
      rfl
    · rw [hl]
      rfl

theorem heard_length (exchanges : Nat → Exchange) :
    ∀ n i, (∀ reply ∈ (heard exchanges n i).2, reply ≠ .missed) →
      (heard exchanges n i).2.length = n := by
  intro n
  induction n with
  | zero => intro i _; rfl
  | succ n ih =>
    intro i h
    rw [heard] at h ⊢
    rcases hu : untilEnd (exchanges i).inTime with ⟨_, last⟩
    rw [hu] at h
    cases last with
    | none => exact absurd rfl (h .missed (mem_singleton.2 rfl))
    | some last =>
      have hrs := ih (i + 1) (fun reply hr => h reply (mem_cons_of_mem _ hr))
      show (heard exchanges n (i + 1)).2.length + 1 = n + 1
      rw [hrs]

end TelephonyCore.Esim
