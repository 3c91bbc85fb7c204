import TelephonyCore.Esim.Download

/-!
# An answer in chunks

The card may deliver one answer in several chunks: all but the last with status `61xx`, for which
the handler asks for more, the last with `9000`, which makes it parse what it has merged.
`CommMergeRecvData` leaves out the parsing when that last chunk is empty, so an answer that ends
with an empty chunk is dropped.
-/

namespace TelephonyCore.Esim

open Codec List

variable {R : Type}

/-! ## Chunks -/

/-- A chunk with status `61xx`. -/
structure MoreChunk where
  sw2 : Int32
  resultData : StdString

def MoreChunk.message (c : MoreChunk) : Message := some ⟨SW1_MORE_RESPONSE, c.sw2, c.resultData⟩

def lastMessage (resultData : StdString) : Message := some ⟨SW1_VALUE_90, SW2_VALUE_00, resultData⟩

def whole (more : List MoreChunk) (last : StdString) : StdString :=
  more.flatMap MoreChunk.resultData ++ last

def deliver (P : ResponseParser R) (m : Modem) (s : Session R) (messages : List Message) :
    Session R :=
  messages.foldl (fun s message => (processDone P m s message).1) s

/-- GET RESPONSE for the data a chunk announces. -/
structure IsGetResponse (c : MoreChunk) (reqInfo : ApduSimIORequestInfo) : Prop where
  type : reqInfo.type = 0
  instruction : reqInfo.instruction = 0xC0
  p1 : reqInfo.p1 = 0
  p2 : reqInfo.p2 = 0
  p3 : reqInfo.p3 = c.sw2
  data : reqInfo.data = []

/-! ## The handler -/

theorem processIfNeedMoreResponse_sent (m : Modem) (s : Session R) (c : MoreChunk) :
    ∃ reqInfo, IsGetResponse c reqInfo ∧
      (processIfNeedMoreResponse m s ⟨SW1_MORE_RESPONSE, c.sw2, c.resultData⟩).sent
        = if m.telRilManager then s.sent ++ [reqInfo] else s.sent := by
  refine ⟨(copyApdCmdToReqInfo s ⟨m.currentChannelId.toUInt32,
    ⟨0, INS_GET_MORE_RESPONSE, 0, 0, c.sw2.toUInt32, []⟩⟩).1,
    ⟨rfl, rfl, rfl, rfl, Int32.toInt32_toUInt32 c.sw2, rfl⟩, ?_⟩
  unfold processIfNeedMoreResponse
  cases m.telRilManager with
  | true | false => rfl

theorem processDone_more (P : ResponseParser R) (m : Modem) (s : Session R) (c : MoreChunk) :
    (processDone P m s c.message).1.recvCombineStr = s.recvCombineStr ++ c.resultData ∧
      (processDone P m s c.message).1.result = s.result ∧
      ∃ reqInfo, IsGetResponse c reqInfo ∧ (processDone P m s c.message).1.sent
        = if m.telRilManager then s.sent ++ [reqInfo] else s.sent := by
  obtain ⟨hm, -, hr⟩ := processIfNeedMoreResponse_eq m
    { s with
      newRecvData := ⟨SW1_MORE_RESPONSE, c.sw2, c.resultData⟩
      recvCombineStr := s.recvCombineStr ++ c.resultData } ⟨SW1_MORE_RESPONSE, c.sw2, c.resultData⟩
  exact ⟨hm, hr, processIfNeedMoreResponse_sent m _ c⟩

theorem deliver_more (P : ResponseParser R) (m : Modem) (more : List MoreChunk) (s : Session R) :
    (deliver P m s (more.map MoreChunk.message)).recvCombineStr
        = s.recvCombineStr ++ more.flatMap MoreChunk.resultData ∧
      (deliver P m s (more.map MoreChunk.message)).result = s.result ∧
      ∃ reqs, List.Forall₂ IsGetResponse more reqs ∧
        (deliver P m s (more.map MoreChunk.message)).sent
          = if m.telRilManager then s.sent ++ reqs else s.sent := by
  induction more generalizing s with
  | nil => exact ⟨(append_nil _).symm, rfl, [], .nil, by simp [deliver]⟩
  | cons c more ih =>
    obtain ⟨hm, hrs, reqInfo, hre, hs⟩ := processDone_more P m s c
    obtain ⟨hm', hrs', reqs, hrq, hs'⟩ := ih (processDone P m s c.message).1
    refine ⟨?_, hrs'.trans hrs, reqInfo :: reqs, .cons hre hrq, ?_⟩
    · exact hm'.trans (by rw [hm, append_assoc, flatMap_cons])
    · refine hs'.trans ?_
      rw [hs]
      split
      · rw [append_assoc, singleton_append]
      · rfl

theorem processDone_last (P : ResponseParser R) (m : Modem) (s : Session R) (last : StdString) :
    (processDone P m s (lastMessage last)).1.sent = s.sent ∧
      (processDone P m s (lastMessage last)).1.result
        = if last = [] then s.result else (P.parse (s.recvCombineStr ++ last) s.result).1 := by
  have hf : combineResponseDataFinish ⟨SW1_VALUE_90, SW2_VALUE_00, last⟩ = .finish := rfl
  rw [lastMessage, processDone, mergeRecvLongDataComplete, hf]
  by_cases he : last = []
  · simp only [he, if_true, and_self]
  · simp only [he]
    exact ⟨rfl, rfl⟩

theorem deliver_chunks (P : ResponseParser R) (m : Modem) (s : Session R)
    (hf : s.recvCombineStr = []) (more : List MoreChunk) (last : StdString) :
    (deliver P m s (more.map MoreChunk.message ++ [lastMessage last])).result
        = (if last = [] then s.result else (P.parse (whole more last) s.result).1) ∧
      ∃ reqs, List.Forall₂ IsGetResponse more reqs ∧
        (deliver P m s (more.map MoreChunk.message ++ [lastMessage last])).sent
          = if m.telRilManager then s.sent ++ reqs else s.sent := by
  obtain ⟨hm, hrs, reqs, hrq, hsn⟩ := deliver_more P m more s
  obtain ⟨hsn', hrs'⟩ := processDone_last P m (deliver P m s (more.map MoreChunk.message)) last
  have hsp : deliver P m s (more.map MoreChunk.message ++ [lastMessage last])
      = (processDone P m (deliver P m s (more.map MoreChunk.message)) (lastMessage last)).1 := by
    rw [deliver, foldl_append]
    rfl
  rw [hsp]
  refine ⟨?_, reqs, hrq, hsn'.trans hsn⟩
  rw [hrs', hrs, hm, hf, nil_append]
  rfl

/-! ## One piece or several -/

/-- The chunks leave the result of the answer in one piece, and one GET RESPONSE goes out for each
`61xx` chunk. -/
def Reassembles (P : ResponseParser R) (m : Modem) (s : Session R) (more : List MoreChunk)
    (last : StdString) : Prop :=
  (deliver P m s (more.map MoreChunk.message ++ [lastMessage last])).result
      = (deliver P m s [lastMessage (whole more last)]).result ∧
    ∃ reqs, (deliver P m s (more.map MoreChunk.message ++ [lastMessage last])).sent
        = s.sent ++ reqs ∧ List.Forall₂ IsGetResponse more reqs

theorem requests_iff {more : List MoreChunk} {ril : Bool} {before reqs : List ApduSimIORequestInfo}
    (hr : List.Forall₂ IsGetResponse more reqs) :
    (∃ reqs', (if ril then before ++ reqs else before) = before ++ reqs' ∧
      List.Forall₂ IsGetResponse more reqs') ↔ ril ∨ more = [] := by
  cases ril with
  | true => exact iff_of_true ⟨reqs, rfl, hr⟩ (.inl rfl)
  | false =>
    constructor
    · rintro ⟨reqs', hs, hr'⟩
      have hn : reqs' = [] := by simpa using hs
      subst hn
      cases hr'
      exact .inr rfl
    · rintro (h | rfl)
      · cases h
      · exact ⟨[], (append_nil _).symm, .nil⟩

/-- **Reassembly.** The chunks make no difference exactly when the last one is not empty, or parsing
the answer would not change the result anyway; and the requests go out exactly when there is a RIL
manager or nothing to ask for. -/
theorem reassembly_iff (text : TextCodec) (m : Modem) (s : Session ResponseEsimInnerResult)
    (more : List MoreChunk) (last : StdString) (hfresh : s.recvCombineStr = [])
    (hne : whole more last ≠ []) :
    Reassembles (prepareDownloadParser text) m s more last ↔
      (last ≠ [] ∨ (realProcessPrepareDownloadDone text (whole more last) s.result).1 = s.result) ∧
      (m.telRilManager = true ∨ more = []) := by
  obtain ⟨hrs, _, hrq, hs⟩ := deliver_chunks (prepareDownloadParser text) m s hfresh more last
  have ho := (deliver_chunks (prepareDownloadParser text) m s hfresh [] (whole more last)).1
  have ho' : (deliver (prepareDownloadParser text) m s [lastMessage (whole more last)]).result
      = (realProcessPrepareDownloadDone text (whole more last) s.result).1 := by
    rw [if_neg hne] at ho
    exact ho
  unfold Reassembles
  rw [hrs, ho', hs, requests_iff hrq]
  refine and_congr_left' ?_
  by_cases he : last = []
  · rw [if_pos he]
    constructor
    · exact fun h => .inr h.symm
    · rintro (h | h)
      · exact absurd he h
      · exact h.symm
  · rw [if_neg he]
    exact iff_of_true rfl (.inl he)

def sampleAnswer : StdString := [0x42, 0x46, 0x32, 0x31, 0x30, 0x30]

def sampleText : TextCodec := { plainText with encodeBase64 := fun _ => [0x76, 0x79, 0x45, 0x41] }

def sampleModem : Modem := ⟨true, 1, fun _ => ⟨[], []⟩⟩

theorem reassembly_two_chunks :
    Reassembles (prepareDownloadParser sampleText) sampleModem { result := {} }
      [⟨2, sampleAnswer.take 2⟩] (sampleAnswer.drop 2) :=
  (reassembly_iff sampleText sampleModem _ _ _ rfl (by decide)).2
    ⟨.inl (by decide), .inl rfl⟩

/-- The whole answer with `61xx` and then an empty chunk with `9000`: the answer is never parsed. -/
theorem empty_last_chunk_drops_answer :
    ¬ Reassembles (prepareDownloadParser sampleText) sampleModem { result := {} }
      [⟨0, sampleAnswer⟩] [] := by
  rintro ⟨hrl, -⟩
  have hc := (deliver_chunks (prepareDownloadParser sampleText) sampleModem
    { result := {} } rfl [⟨0, sampleAnswer⟩] []).1
  have ho := (deliver_chunks (prepareDownloadParser sampleText) sampleModem
    { result := {} } rfl [] (whole [⟨0, sampleAnswer⟩] [])).1
  have hrs : ((prepareDownloadParser sampleText).parse sampleAnswer {}).1.response
      = [0x76, 0x79, 0x45, 0x41] := by decide
  have hs : ({} : ResponseEsimInnerResult)
      = ((prepareDownloadParser sampleText).parse sampleAnswer {}).1 :=
    hc.symm.trans (hrl.trans ho)
  rw [← hs] at hrs
  cases hrs

end TelephonyCore.Esim
