import TelephonyCore.Phonebook.SimUtils

/-!
# Reading all records of a linear fixed file

`ObtainAllLinearFixedFile` asks for the size of the file. With the answer it either reads the first
record or, if told to, first asks the card by SEEK which records are empty, that is, all `FF`. Then
it reads record by record, and pushes the empty ones without reading them.

After a record was read, the code compares the cursor with the number of records; in the answer to
SEEK it does not, and reads the record the cursor is on. If every record of the file is empty this
is one that the file does not have, and the result has one entry too many (`record_past_end`).
-/

namespace TelephonyCore.Sim.FileController

open Codec Phonebook List

/-! ## The holder and the messages -/

def HEX_TO_BYTES_LEN : Nat := 2
def ICC_FILE_CURRENT_MODE : Nat := 4
def GET_RESPONSE_ELEMENTARY_FILE_SIZE_BYTES : Nat := 15
def ICC_ELEMENTARY_FILE : UInt8 := 4
def ELEMENTARY_FILE_TYPE_LINEAR_FIXED : UInt8 := 1

/-! Positions in the answer to GET RESPONSE. -/

def SIZE_ONE_OF_FILE : Nat := 2
def SIZE_TWO_OF_FILE : Nat := 3
def TYPE_OF_FILE : Nat := 6
def STRUCTURE_OF_DATA : Nat := 13
def LENGTH_OF_RECORD : Nat := 14

structure IccControllerHolder where
  fileId : Nat
  fileNum : Nat := 1
  fileSize : Nat := 0
  countFiles : Nat := 0
  getAllFile : Bool := true
  filePath : String
  /-- a set of record numbers -/
  invalidRecored : List Nat := []
  isUseSeek : Bool := false
  fileResults : List StdString := []
deriving DecidableEq

inductive Command where
  | getResponse
  | seek
  | readRecord
deriving DecidableEq

structure SimIoRequestInfo where
  command : Command
  fileId : Nat
  p1 : Nat
  p2 : Nat
  p3 : Nat
  data : StdString
  path : String
  pin2 : StdString := []
deriving DecidableEq

/-- The events of the answers: `MSG_SIM_OBTAIN_SIZE_OF_FIXED_ELEMENTARY_FILE_DONE`,
`MSG_SIM_OBTAIN_INVALID_RECORD_OF_FIXED_ELEMENTARY_FILE_DONE`,
`MSG_SIM_OBTAIN_FIXED_ELEMENTARY_FILE_DONE`. -/
inductive Msg where
  | sizeDone
  | invalidRecordDone
  | readDone
deriving DecidableEq

/-- A request with the event for its answer, or a result to the caller. -/
inductive Out where
  | getSimIo (msg : SimIoRequestInfo) (done : Msg)
  | sendResponse (resultData : StdString)
  | sendMultiRecordResult (fileResults : List StdString) (fileId : Nat)
deriving DecidableEq

/-! ## The handlers -/

def allF (fileSize : Nat) : StdString := List.replicate (fileSize * HEX_TO_BYTES_LEN) 70

/-- Over the records listed as empty; `fuel` bounds the number of its rounds. -/
def skipInvalid : Nat → IccControllerHolder → IccControllerHolder
  | 0, hd => hd
  | fuel + 1, hd =>
    if hd.fileNum ∈ hd.invalidRecored then
      skipInvalid fuel { hd with
        fileResults := hd.fileResults ++ [allF hd.fileSize]
        fileNum := hd.fileNum + 1 }
    else hd

def isValidRecordSizeData (data : List UInt8) : Bool :=
  data.getD TYPE_OF_FILE 0 = ICC_ELEMENTARY_FILE &&
    data.getD STRUCTURE_OF_DATA 0 = ELEMENTARY_FILE_TYPE_LINEAR_FIXED

def getFileAndDataSize (data : List UInt8) : Nat × Nat :=
  ((data.getD LENGTH_OF_RECORD 0).toNat,
    (data.getD SIZE_ONE_OF_FILE 0).toNat * 256 + (data.getD SIZE_TWO_OF_FILE 0).toNat)

section Handlers

variable (obtainElementFilePath : Nat → String)

def checkRightPath (path : String) (fileId : Nat) : String :=
  if path = "" then obtainElementFilePath fileId else path

def readRecord (hd : IccControllerHolder) : Out :=
  .getSimIo
    { command := .readRecord
      fileId := hd.fileId
      p1 := hd.fileNum
      p2 := ICC_FILE_CURRENT_MODE
      p3 := hd.fileSize
      data := []
      path := checkRightPath obtainElementFilePath hd.filePath hd.fileId } .readDone

def sendFixedRecordRequest (hd : IccControllerHolder) : Out :=
  if hd.isUseSeek then
    .getSimIo
      { command := .seek
        fileId := hd.fileId
        p1 := 1
        p2 := ICC_FILE_CURRENT_MODE
        p3 := hd.fileSize
        data := allF hd.fileSize
        path := checkRightPath obtainElementFilePath hd.filePath hd.fileId } .invalidRecordDone
  else readRecord obtainElementFilePath hd

def IccControllerHolder.setSizes (hd : IccControllerHolder) (data : List UInt8) :
    IccControllerHolder :=
  let (fileSize, size) := getFileAndDataSize data
  { hd with
    fileSize
    countFiles := if fileSize ≠ 0 then size / fileSize else hd.countFiles }

def processRecordSize (hd : IccControllerHolder) (resultData : StdString) :
    IccControllerHolder × Out :=
  match hexStringConvertToBytes resultData with
  | none => (hd, .sendResponse resultData)
  | some fileData =>
    if fileData.length > LENGTH_OF_RECORD then
      if !isValidRecordSizeData fileData then (hd, .sendResponse resultData)
      else
        (hd.setSizes fileData, sendFixedRecordRequest obtainElementFilePath (hd.setSizes fileData))
    else (hd, sendFixedRecordRequest obtainElementFilePath hd)

def processInvalidRecord (hd : IccControllerHolder) (resultData : StdString) :
    IccControllerHolder × Out :=
  let listed := ((hexStringConvertToBytes resultData).getD []).map UInt8.toNat
  let hd := { hd with invalidRecored := hd.invalidRecored ++ listed }
  let hd := skipInvalid hd.invalidRecored.length hd
  (hd, readRecord obtainElementFilePath hd)

def processReadRecord (hd : IccControllerHolder) (resultData : StdString) :
    IccControllerHolder × Out :=
  if hd.getAllFile then
    let hd := { hd with
      fileResults := hd.fileResults ++ [resultData]
      fileNum := hd.fileNum + 1 }
    let hd := skipInvalid hd.invalidRecored.length hd
    if hd.fileNum > hd.countFiles then (hd, .sendMultiRecordResult hd.fileResults hd.fileId)
    else (hd, readRecord obtainElementFilePath hd)
  else (hd, .sendResponse resultData)

def processEvent (hd : IccControllerHolder) : Msg → StdString → IccControllerHolder × Out
  | .sizeDone => processRecordSize obtainElementFilePath hd
  | .invalidRecordDone => processInvalidRecord obtainElementFilePath hd
  | .readDone => processReadRecord obtainElementFilePath hd

/-! ## The card, and the exchange with it -/

/-- To GET RESPONSE, to SEEK, and to the reading of each record. -/
structure Card where
  sizeData : StdString
  seekData : StdString
  record : Nat → StdString

def Card.answer (card : Card) (msg : SimIoRequestInfo) : StdString :=
  match msg.command with
  | .getResponse => card.sizeData
  | .seek => card.seekData
  | .readRecord => card.record msg.p1

structure State where
  hd : IccControllerHolder
  out : Out
  /-- the record numbers of the read requests so far -/
  reads : List Nat := []
deriving DecidableEq

def Out.reads : Out → List Nat
  | .getSimIo msg _ => if msg.command = .readRecord then [msg.p1] else []
  | _ => []

def State.next (card : Card) (s : State) : State :=
  match s.out with
  | .getSimIo msg done =>
    let (hd, out) := processEvent obtainElementFilePath s.hd done (card.answer msg)
    { hd, out, reads := s.reads ++ out.reads }
  | _ => s

def obtainAllLinearFixedFile (fileId : Nat) (path : String) (isUseSeek : Bool) : State :=
  let filePath := checkRightPath obtainElementFilePath path fileId
  { hd := { fileId, filePath, isUseSeek }
    out := .getSimIo
      { command := .getResponse
        fileId
        p1 := 0
        p2 := 0
        p3 := GET_RESPONSE_ELEMENTARY_FILE_SIZE_BYTES
        data := []
        path := filePath } .sizeDone }

def Card.listed (card : Card) : List Nat :=
  ((hexStringConvertToBytes card.seekData).getD []).map UInt8.toNat

/-- The card has a linear fixed file of `n` records of `fileSize` bytes. -/
structure Card.HasFile (card : Card) (n fileSize : Nat) : Prop where
  pos : 1 ≤ n
  size : ∃ data, hexStringConvertToBytes card.sizeData = some data ∧
    LENGTH_OF_RECORD < data.length ∧ isValidRecordSizeData data = true ∧
    (getFileAndDataSize data).1 = fileSize ∧ fileSize ≠ 0 ∧
    (getFileAndDataSize data).2 / fileSize = n
  listed : ∀ i ∈ card.listed, 1 ≤ i ∧ i ≤ n

def Card.entry (card : Card) (isUseSeek : Bool) (fileSize i : Nat) : StdString :=
  if isUseSeek = true ∧ i ∈ card.listed then allF fileSize else card.record i

end Handlers

/-! ## Skipping -/

theorem countP_le_succ (l : List Nat) (a : Nat) :
    l.countP (a ≤ ·) = l.countP (a + 1 ≤ ·) + l.count a := by
  induction l with
  | nil => rfl
  | cons b l ih =>
    simp only [countP_cons, count_cons, decide_eq_true_eq, beq_iff_eq]
    by_cases hlt : a + 1 ≤ b
    · rw [if_pos (by omega), if_pos hlt, if_neg (by omega)]
      omega
    · by_cases heq : b = a
      · rw [if_pos (by omega), if_neg hlt, if_pos heq]
        omega
      · rw [if_neg (by omega), if_neg hlt, if_neg heq]
        omega

theorem skipInvalid_spec (fuel : Nat) :
    ∀ hd, hd.invalidRecored.countP (hd.fileNum ≤ ·) ≤ fuel →
      ∃ k, (∀ i, hd.fileNum ≤ i → i < hd.fileNum + k → i ∈ hd.invalidRecored) ∧
        hd.fileNum + k ∉ hd.invalidRecored ∧
        skipInvalid fuel hd = { hd with
          fileNum := hd.fileNum + k
          fileResults := hd.fileResults ++ .replicate k (allF hd.fileSize) } := by
  induction fuel with
  | zero =>
    intro hd hfl
    refine ⟨0, by omega, ?_, by simp [skipInvalid]⟩
    intro hm
    have := countP_eq_zero.1 (Nat.le_zero.1 hfl) _ hm
    simp at this
  | succ fuel ih =>
    intro hd hfl
    rw [skipInvalid]
    split
    next hm =>
      have hc := countP_le_succ hd.invalidRecored hd.fileNum
      have hp := count_pos_iff.2 hm
      obtain ⟨k, hls, hen, heq⟩ := ih { hd with
        fileResults := hd.fileResults ++ [allF hd.fileSize]
        fileNum := hd.fileNum + 1 } (by simp only; omega)
      refine ⟨k + 1, ?_, ?_, ?_⟩
      · intro i hle hlt
        by_cases hfs : i = hd.fileNum
        · rw [hfs]
          exact hm
        · exact hls i (by simp only; omega) (by simp only; omega)
      · rw [← Nat.add_assoc, Nat.add_right_comm]
        exact hen
      · rw [heq]
        simp only [append_assoc, singleton_append, ← replicate_succ,
          Nat.add_assoc, Nat.add_comm 1 k]
    next hm => exact ⟨0, by omega, hm, by simp⟩

variable {hd : IccControllerHolder} {s : State}

section Reading

variable (obtainElementFilePath : Nat → String) (card : Card) (isUseSeek : Bool)
  (fileId n fileSize : Nat)

theorem map_entry_append {a k : Nat}
    (hl : ∀ i, a < i → i < a + 1 + k → isUseSeek ∧ i ∈ card.listed) :
    (List.range' 1 a).map (card.entry isUseSeek fileSize) ++ .replicate k (allF fileSize) =
      (List.range' 1 (a + k)).map (card.entry isUseSeek fileSize) := by
  have hsp : .range' 1 (a + k) = List.range' 1 a ++ List.range' (1 + a) k := by
    simp
  have hsk : (List.range' (1 + a) k).map (card.entry isUseSeek fileSize) =
      List.replicate k (allF fileSize) := by
    rw [eq_replicate_iff]
    refine ⟨by simp, ?_⟩
    intro x hx
    obtain ⟨i, hi, rfl⟩ := mem_map.1 hx
    have hrg := mem_range'_1.1 hi
    exact if_pos (hl i (by omega) (by omega))
  rw [hsp, map_append, hsk]

/-- The results are those before the cursor. -/
structure Holds (hd : IccControllerHolder) : Prop where
  id : hd.fileId = fileId
  size : hd.fileSize = fileSize
  count : hd.countFiles = n
  all : hd.getAllFile = true
  invalid : ∀ i, i ∈ hd.invalidRecored ↔ isUseSeek = true ∧ i ∈ card.listed
  cursor : 1 ≤ hd.fileNum
  results : hd.fileResults = (List.range' 1 (hd.fileNum - 1)).map (card.entry isUseSeek fileSize)

/-- The read requests so far are different ones, of records up to the cursor. -/
structure ReadUpTo (s : State) (cursor : Nat) : Prop where
  nodup : s.reads.Nodup
  range : ∀ i ∈ s.reads, 1 ≤ i ∧ i ≤ cursor

structure Reading (s : State) : Prop where
  holds : Holds card isUseSeek fileId n fileSize s.hd
  inFile : s.hd.fileNum ≤ n
  notListed : s.hd.fileNum ∉ s.hd.invalidRecored
  out : s.out = readRecord obtainElementFilePath s.hd
  reads : ReadUpTo s s.hd.fileNum

structure Done (s : State) : Prop where
  out : s.out = .sendMultiRecordResult
    ((List.range' 1 n).map (card.entry isUseSeek fileSize)) fileId
  reads : ReadUpTo s n

variable {obtainElementFilePath card isUseSeek fileId n fileSize}

theorem Holds.skip (hf : card.HasFile n fileSize) (h : Holds card isUseSeek fileId n fileSize hd)
    (hc : hd.fileNum ≤ n + 1) :
    ∃ hd', skipInvalid hd.invalidRecored.length hd = hd' ∧
      Holds card isUseSeek fileId n fileSize hd' ∧ hd.fileNum ≤ hd'.fileNum ∧
      hd'.fileNum ≤ n + 1 ∧ hd'.fileNum ∉ hd'.invalidRecored ∧
      ∀ i, hd.fileNum ≤ i → i < hd'.fileNum → i ∈ card.listed := by
  obtain ⟨k, hls, hen, heq⟩ := skipInvalid_spec hd.invalidRecored.length hd
    countP_le_length
  have hp := h.cursor
  refine ⟨_, heq, ⟨h.id, h.size, h.count, h.all, h.invalid, ?_, ?_⟩, ?_, ?_, hen,
    fun i hge hlt => ((h.invalid i).1 (hls i hge hlt)).2⟩
  · simp only
    omega
  · have hm : ∀ i, hd.fileNum - 1 < i → i < hd.fileNum - 1 + 1 + k →
        isUseSeek ∧ i ∈ card.listed := fun i hlt hlt' =>
      (h.invalid i).1 (hls i (by omega) (by omega))
    have hla : hd.fileNum + k - 1 = hd.fileNum - 1 + k := by omega
    rw [h.results, h.size, map_entry_append card isUseSeek fileSize hm, hla]
  · simp
  · -- the last of the skipped records is one of the file
    rcases Nat.eq_zero_or_pos k with rfl | _
    · simpa using hc
    · have hla := (h.invalid _).1 (hls (hd.fileNum + k - 1) (by omega) (by omega))
      have := (hf.listed _ hla.2).2
      simp only
      omega

theorem Holds.push (h : Holds card isUseSeek fileId n fileSize hd)
    (hn : hd.fileNum ∉ hd.invalidRecored) :
    Holds card isUseSeek fileId n fileSize { hd with
        fileResults := hd.fileResults ++ [card.record hd.fileNum]
        fileNum := hd.fileNum + 1 } := by
  have hc := h.cursor
  have hr : card.entry isUseSeek fileSize hd.fileNum = card.record hd.fileNum :=
    if_neg fun hm => hn ((h.invalid _).2 hm)
  refine ⟨h.id, h.size, h.count, h.all, h.invalid, by simp, ?_⟩
  have hs : hd.fileNum = hd.fileNum - 1 + 1 := by omega
  simp only [Nat.add_sub_cancel]
  rw [h.results, ← hr]
  nth_rewrite 3 [hs]
  rw [range'_1_concat, map_append]
  simp only [map_cons, map_nil, Nat.add_comm 1, ← hs]

theorem ReadUpTo.ask {s' : State} {cursor next : Nat} (h : ReadUpTo s cursor) (hlt : cursor < next)
    (hr : s'.reads = s.reads ++ [next]) : ReadUpTo s' next := by
  have hn : ∀ i ∈ s.reads, i < next := fun i hi => Nat.lt_of_le_of_lt (h.range i hi).2 hlt
  constructor
  · rw [hr]
    refine nodup_append.2 ⟨h.nodup, by simp, ?_⟩
    intro i hi j hj
    rw [mem_singleton.1 hj]
    exact Nat.ne_of_lt (hn i hi)
  · rw [hr]
    intro i hi
    rcases mem_append.1 hi with ho | hak
    · exact ⟨(h.range i ho).1, Nat.le_of_lt (hn i ho)⟩
    · rw [mem_singleton.1 hak]
      exact ⟨by omega, Nat.le_refl _⟩

theorem Reading.next (hf : card.HasFile n fileSize)
    (h : Reading obtainElementFilePath card isUseSeek fileId n fileSize s) :
    Reading obtainElementFilePath card isUseSeek fileId n fileSize
        (s.next obtainElementFilePath card) ∧
      s.hd.fileNum < (s.next obtainElementFilePath card).hd.fileNum ∨
    Done card isUseSeek fileId n fileSize (s.next obtainElementFilePath card) := by
  have hp := h.holds.push h.notListed
  obtain ⟨hd', hs, hho, hlt, hle, he, _⟩ := hp.skip hf (by
    have := h.inFile
    simp only
    omega)
  have hhd : processReadRecord obtainElementFilePath s.hd (card.record s.hd.fileNum) =
      if hd'.fileNum > hd'.countFiles then (hd', .sendMultiRecordResult hd'.fileResults hd'.fileId)
      else (hd', readRecord obtainElementFilePath hd') := by
    rw [processReadRecord, if_pos h.holds.all]
    simp only [hs]
  have hn : s.next obtainElementFilePath card =
      let out := processReadRecord obtainElementFilePath s.hd (card.record s.hd.fileNum)
      { hd := out.1, out := out.2, reads := s.reads ++ out.2.reads } := by
    rw [State.next, h.out]
    rfl
  rw [hn, hhd, hho.count]
  by_cases hb : hd'.fileNum > n
  · right
    rw [if_pos hb]
    have hls : hd'.fileNum - 1 = n := by omega
    refine ⟨?_, ⟨?_, ?_⟩⟩
    · simp only
      rw [hho.results, hho.id, hls]
    · simpa [Out.reads] using h.reads.nodup
    · intro i hi
      have := h.reads.range i (by simpa [Out.reads] using hi)
      have := h.inFile
      omega
  · left
    rw [if_neg hb]
    exact ⟨⟨hho, by simpa using hb, he, rfl, h.reads.ask hlt rfl⟩, hlt⟩

theorem Reading.done (hf : card.HasFile n fileSize) :
    ∀ left {s : State}, Reading obtainElementFilePath card isUseSeek fileId n fileSize s →
      n - s.hd.fileNum ≤ left →
      ∃ k, Done card isUseSeek fileId n fileSize ((.next obtainElementFilePath card)^[k] s) := by
  intro left
  induction left with
  | zero =>
    intro s h hlf
    rcases h.next hf with ⟨hr, hlt⟩ | hdn
    · have := hr.inFile
      omega
    · exact ⟨1, hdn⟩
  | succ left ih =>
    intro s h hlf
    rcases h.next hf with ⟨hr, hlt⟩ | hdn
    · have := h.inFile
      obtain ⟨k, hk⟩ := ih hr (by omega)
      exact ⟨k + 1, hk⟩
    · exact ⟨1, hdn⟩

theorem reading_first
    (hs : s = { hd, out := readRecord obtainElementFilePath hd, reads := [hd.fileNum] })
    (h : Holds card isUseSeek fileId n fileSize hd) (hle : hd.fileNum ≤ n)
    (hn : hd.fileNum ∉ hd.invalidRecored) :
    Reading obtainElementFilePath card isUseSeek fileId n fileSize s := by
  subst hs
  refine ⟨h, hle, hn, rfl, ⟨by simp, ?_⟩⟩
  intro i hi
  rw [mem_singleton.1 hi]
  exact ⟨h.cursor, Nat.le_refl _⟩

theorem next_size (hf : card.HasFile n fileSize) (path : String) :
    (obtainAllLinearFixedFile obtainElementFilePath fileId path isUseSeek).next
        obtainElementFilePath card = let hd : IccControllerHolder :=
        { fileId
          filePath := checkRightPath obtainElementFilePath path fileId
          isUseSeek
          fileSize
          countFiles := n }
      { hd
        out := sendFixedRecordRequest obtainElementFilePath hd
        reads := (sendFixedRecordRequest obtainElementFilePath hd).reads } := by
  obtain ⟨data, hdt, hl, hv, hsi, hne, hc⟩ := hf.size
  have hh : ∀ hd,
      processRecordSize obtainElementFilePath hd card.sizeData =
        ({ hd with fileSize, countFiles := n },
          sendFixedRecordRequest obtainElementFilePath { hd with fileSize, countFiles := n }) := by
    intro hd
    have hsz : hd.setSizes data = { hd with fileSize, countFiles := n } := by
      simp only [IccControllerHolder.setSizes, hsi, hc, if_pos hne]
    rw [processRecordSize, hdt]
    simp only [if_pos hl, hv, hsz, Bool.not_true, Bool.false_eq_true, if_false]
  simp only [State.next, obtainAllLinearFixedFile, processEvent, Card.answer, hh, nil_append]

/-- After the answer to SEEK the first record that is not listed is read, or the one behind the
file. -/
theorem next_seek (hfile : card.HasFile n fileSize) (path : String) :
    ∃ hd, (.next obtainElementFilePath card)^[2]
        (obtainAllLinearFixedFile obtainElementFilePath fileId path true) =
        { hd, out := readRecord obtainElementFilePath hd, reads := [hd.fileNum] } ∧
      Holds card true fileId n fileSize hd ∧ hd.fileNum ≤ n + 1 ∧
      hd.fileNum ∉ hd.invalidRecored ∧ ∀ i, 1 ≤ i → i < hd.fileNum → i ∈ card.listed := by
  have hsz := @next_size obtainElementFilePath card true fileId n fileSize hfile path
  -- the records are listed, and the cursor skips to the first that is not
  let hd : IccControllerHolder :=
    { fileId
      filePath := checkRightPath obtainElementFilePath path fileId
      isUseSeek := true
      fileSize
      countFiles := n
      invalidRecored := card.listed }
  have hhl : Holds card true fileId n fileSize hd :=
    ⟨rfl, rfl, rfl, rfl, by simp [hd], Nat.le_refl _, rfl⟩
  obtain ⟨hd', hsk, hhl', _, hle, he, hps⟩ := hhl.skip hfile (Nat.le_add_left 1 n)
  have hhn : processInvalidRecord obtainElementFilePath { hd with invalidRecored := [] }
      card.seekData = (hd', readRecord obtainElementFilePath hd') := by
    exact congrArg (fun hd' => (hd', readRecord obtainElementFilePath hd')) hsk
  refine ⟨hd', ?_, hhl', hle, he, hps⟩
  rw [Function.iterate_succ_apply, Function.iterate_one, hsz]
  exact congrArg (fun out =>
    ({ hd := out.1, out := out.2, reads := out.2.reads } : State)) hhn

/-- A request that was sent stays among the requests. -/
theorem reads_subset (s : State) (k : Nat) :
    s.reads ⊆ ((State.next obtainElementFilePath card)^[k] s).reads := by
  induction k generalizing s with
  | zero => exact List.Subset.refl _
  | succ k ih =>
    refine List.Subset.trans ?_ (ih (s.next obtainElementFilePath card))
    unfold State.next
    split
    · exact subset_append_left _ _
    · exact List.Subset.refl _

variable (obtainElementFilePath card isUseSeek fileId n fileSize)

/-- The exchange ends with one entry for each record, the card's data or the all-`F` record if SEEK
listed it, and only records of the file are read, each at most once. -/
def ReadsAll (path : String) : Prop :=
  ∃ (k : Nat) (s : State), (State.next obtainElementFilePath card)^[k]
      (obtainAllLinearFixedFile obtainElementFilePath fileId path isUseSeek) = s ∧
    s.out = .sendMultiRecordResult
      ((List.range' 1 n).map (card.entry isUseSeek fileSize)) fileId ∧
    s.reads.Nodup ∧ ∀ i ∈ s.reads, 1 ≤ i ∧ i ≤ n

variable {obtainElementFilePath card isUseSeek fileId n fileSize}

theorem Reading.readsAll (hfile : card.HasFile n fileSize) {path : String} {k : Nat}
    (h : Reading obtainElementFilePath card isUseSeek fileId n fileSize
      ((.next obtainElementFilePath card)^[k]
        (obtainAllLinearFixedFile obtainElementFilePath fileId path isUseSeek))) :
    ReadsAll obtainElementFilePath card isUseSeek fileId n fileSize path := by
  obtain ⟨k', hdn⟩ := h.done hfile n (Nat.sub_le _ _)
  rw [← Function.iterate_add_apply] at hdn
  exact ⟨k' + k, _, rfl, hdn.out, hdn.reads.nodup, hdn.reads.range⟩

/-- If SEEK lists all records, the first record that is read is the one behind the file. -/
theorem not_readsAll (hfile : card.HasFile n fileSize) (path : String)
    (hall : ∀ i, 1 ≤ i → i ≤ n → i ∈ card.listed) :
    ¬ ReadsAll obtainElementFilePath card true fileId n fileSize path := by
  rintro ⟨k, s, hk, hout, -, hrange⟩
  obtain ⟨hd, hnx, hhl, hle, he, -⟩ :=
    @next_seek obtainElementFilePath card fileId n fileSize hfile path
  have hpast : hd.fileNum = n + 1 := by
    by_contra hne
    exact he ((hhl.invalid _).2 ⟨rfl, hall _ hhl.cursor (by omega)⟩)
  rcases k with _ | _ | k
  · rw [← hk] at hout
    cases hout
  · rw [← hk, Function.iterate_one, next_size hfile] at hout
    cases hout
  · rw [show k + 1 + 1 = k + 2 from rfl, Function.iterate_add_apply, hnx] at hk
    have hm := @reads_subset obtainElementFilePath card
      { hd, out := readRecord obtainElementFilePath hd, reads := [hd.fileNum] } k
    rw [hk] at hm
    have := (hrange _ (hm (mem_singleton.2 rfl))).2
    omega

/-- **Reading all records** gives them all exactly if SEEK is not used or leaves some record
unlisted. -/
theorem readAll_iff (hfile : card.HasFile n fileSize) (path : String) :
    ReadsAll obtainElementFilePath card isUseSeek fileId n fileSize path ↔
      (isUseSeek = true → ∃ i, 1 ≤ i ∧ i ≤ n ∧ i ∉ card.listed) := by
  constructor
  · rintro h rfl
    by_contra hno
    refine not_readsAll hfile path (fun i hi hin => ?_) h
    by_contra hnt
    exact hno ⟨i, hi, hin, hnt⟩
  intro hsome
  cases isUseSeek with
  | false =>
    refine Reading.readsAll (k := 1) hfile (reading_first (next_size hfile path)
      ⟨rfl, rfl, rfl, rfl, by simp, Nat.le_refl _, rfl⟩ hfile.pos ?_)
    simp
  | true =>
    obtain ⟨hd, hnx, hhl, -, he, hps⟩ :=
      @next_seek obtainElementFilePath card fileId n fileSize hfile path
    refine Reading.readsAll (k := 2) hfile (reading_first hnx hhl ?_ he)
    obtain ⟨i, hi, hin, hnt⟩ := hsome rfl
    by_contra hb
    -- otherwise all records of the file were skipped, and `i` with them
    exact hnt (hps i hi (by omega))

end Reading

/-- Six records of two bytes, of which SEEK lists the first and the last two. -/
def sampleCard : Card where
  sizeData := bytesConvertToHexString [0, 0, 0, 12, 0, 0, 4, 0, 0, 0, 0, 0, 0, 1, 2]
  seekData := bytesConvertToHexString [1, 5, 6]
  record := fun i => bytesConvertToHexString [UInt8.ofNat i, 0]

theorem sampleCard_hasFile : sampleCard.HasFile 6 2 where
  pos := by decide
  size := ⟨_, hexStringConvertToBytes_hex (by simp), by decide +kernel⟩
  listed := by decide +kernel

theorem readAll_iff_sampleCard :
    sampleCard.HasFile 6 2 ∧ ReadsAll (fun _ => "3F00") sampleCard true 28474 6 2 "" :=
  ⟨sampleCard_hasFile, (readAll_iff sampleCard_hasFile "").2 fun _ => ⟨2, by decide +kernel⟩⟩

def emptyCard : Card where
  sizeData := bytesConvertToHexString [0, 0, 0, 2, 0, 0, 4, 0, 0, 0, 0, 0, 0, 1, 2]
  seekData := bytesConvertToHexString [1]
  record := fun _ => allF 2

theorem emptyCard_hasFile : emptyCard.HasFile 1 2 where
  pos := by decide
  size := ⟨_, hexStringConvertToBytes_hex (by simp), by decide +kernel⟩
  listed := by decide +kernel

/-- **A record past the end is read**: all records are listed, so the cursor is beyond the file when
the first read request is sent. -/
theorem record_past_end :
    emptyCard.HasFile 1 2 ∧ emptyCard.listed = [1] ∧
      ∃ (k : Nat) (s : State), (State.next (fun _ => "3F00") emptyCard)^[k]
          (obtainAllLinearFixedFile (fun _ => "3F00") 28474 "" true) = s ∧
        s.reads = [2] ∧ s.out = .sendMultiRecordResult [allF 2, allF 2] 28474 :=
  ⟨emptyCard_hasFile, by decide +kernel, 3, _, rfl, by decide +kernel⟩

end TelephonyCore.Sim.FileController
