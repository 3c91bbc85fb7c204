import TelephonyCore.Lib.Slots
import TelephonyCore.Lib.Transition
import TelephonyCore.Phonebook.Cache

/-!
# `SimFile`: loading the files of a card

`LoadSimFiles` requests nine files and `fileToGet_` counts them. Further requests and retries are
counted when they are made, and each answer counts down. At zero `OnAllFilesFetched` announces that
the card is loaded.

There is one counter for all answers. The answers to the language files and to updates of the number
and the voice mail were never counted up, and the counter starts over with every `LoadSimFiles`. All
of these count down for files that have not been read (`loaded_too_early`). `OwnAnswers` excludes
them while a load is incomplete.
-/

namespace TelephonyCore.Sim.FileLoading

open Lib Codec Phonebook List

/-! ## Requests and answers -/

/-- The event of an answer, `MSG_SIM_OBTAIN_IMSI_DONE` and so on. -/
inductive Msg where
  | imsi
  | iccid
  | ad
  | sst
  | gid1
  | gid2
  | cfis
  | cff
  | voiceMailIndicatorCphs
  | spn
  | pnn
  | opl
  | opl5g
  | spnCphs
  | spnShortCphs
  | spdi
  | ehplmn
  | msisdn
  | mbi
  | mwis
  | mbdn
  | cphsMailbox
  | liLanguage
  | plLanguage
  | setMsisdn
  | setMbdn
  | setCphsMailbox
deriving DecidableEq

/-- `RELOAD_ICCID_EVENT` and `RELOAD_IMSI_EVENT` -/
inductive Reload where
  | iccid
  | imsi
deriving DecidableEq

/-- Nothing that can be used, an exception, the data of a file or a string, or a number of the card.
-/
inductive Response where
  | null
  | exception
  | data (resultData : StdString)
  | number (result : Option Contact)

/-! ## The service table -/

inductive CardType where
  | singleModeSimCard
  | singleModeUsimCard
  | other
deriving DecidableEq

/-- The values of `UsimService` that are asked for. -/
inductive UsimService where
  | spn
  | msisdn
  | plmnNetworkName
  | operatorPlmnList
  | mbdn
  | mwiStatus
  | for5gsOperatorPlmnList
deriving DecidableEq

def UsimService.toNat : UsimService → Nat
  | .spn => 19
  | .msisdn => 21
  | .plmnNetworkName => 45
  | .operatorPlmnList => 46
  | .mbdn => 47
  | .mwiStatus => 48
  | .for5gsOperatorPlmnList => 129

def isHexDigit (c : UInt8) : Bool :=
  (48 ≤ c && c ≤ 57) || (65 ≤ c && c ≤ 70) || (97 ≤ c && c ≤ 102)

def leadingHex (s : StdString) : UInt8 :=
  (s.takeWhile isHexDigit).foldl (fun value c => value * 16 + hexCharConvertToInt c) 0

def strtoulByte (s : StdString) : UInt8 :=
  match s.dropWhile (fun c => c == 32 || (9 ≤ c && c ≤ 13)) with
  | 45 :: digits => -leadingHex digits
  | 43 :: digits => leadingHex digits
  | digits => leadingHex digits

def isAvailable (serviceTable : StdString) (offset : Nat) (mask : UInt8) : Bool :=
  if offset * 2 ≥ serviceTable.length then false
  else strtoulByte ((serviceTable.drop (offset * 2)).take 2) &&& mask == mask

def isSimServiceAvailable (serviceTable : StdString) : UsimService → Bool
  | .spn => isAvailable serviceTable 4 0x3
  | .plmnNetworkName => isAvailable serviceTable 12 0x30
  | _ => true

def isUsimServiceAvailable (serviceTable : StdString) (service : UsimService) : Bool :=
  let offset := service.toNat / 8
  let mask := service.toNat % 8
  if mask = 0 then isAvailable serviceTable (offset - 1) 0x80
  else isAvailable serviceTable offset (1 <<< UInt8.ofNat (mask - 1))

def isServiceAvailable (cardType : CardType) (serviceTable : StdString) (service : UsimService) :
    Bool :=
  if serviceTable = [] then false
  else if cardType = .singleModeSimCard then isSimServiceAvailable serviceTable service
  else isUsimServiceAvailable serviceTable service

/-! ## The handlers -/

inductive SpnStatus where
  | none
  | start
  | general
  | operatorNameString
  | operatorNameShortForm
deriving DecidableEq

structure SimFile where
  fileToGet : Int := 0
  fileQueried : Bool := false
  lockQueried : Bool := false
  spnStatus : SpnStatus := .none
  reloadIccidCount : Int := 3
  hasRetryGetImsi : Bool := false
  iccId : StdString := []
  spn : StdString := []
  serviceTable : StdString := []
  indexOfMailbox : Int := 1
  cphsInfo : StdString := []
  loaded : Bool := false

structure Environment where
  cardType : CardType := .other
  /-- the state of the card is at least `SIM_STATE_READY` -/
  simStateReady : Bool := false
  /-- `persist.telephony.is_simslots_mapping` -/
  simslotsMapping : Bool := false
  /-- `VoiceMailNotEditToSim` -/
  voiceMailNotEditToSim : Bool := false

/-- The object after a handler, with the requests and the events it has sent. -/
structure Outcome where
  file : SimFile
  requests : List Msg := []
  reloads : List Reload := []

namespace Outcome

def request (o : Outcome) (msg : Msg) : Outcome where
  file := { o.file with fileToGet := o.file.fileToGet + 1 }
  requests := o.requests ++ [msg]
  reloads := o.reloads

def requestIf (o : Outcome) (available : Bool) (msg : Msg) : Outcome :=
  if available then o.request msg else o

def reload (o : Outcome) (event : Reload) : Outcome where
  file := { o.file with fileToGet := o.file.fileToGet + 1 }
  requests := o.requests
  reloads := o.reloads ++ [event]

def requestUncounted (o : Outcome) (msg : Msg) : Outcome :=
  { o with requests := o.requests ++ [msg] }

def setSpnStatus (o : Outcome) (spnStatus : SpnStatus) : Outcome :=
  { o with file := { o.file with spnStatus } }

def startObtainSpn (o : Outcome) : Outcome :=
  ({ o with file := { o.file with spn := [] } }.request .spn).setSpnStatus .general

/-- `ObtainSpnPhase` from the start. -/
def obtainSpnPhase (o : Outcome) : Outcome :=
  match o.file.spnStatus with
  | .none => o.startObtainSpn
  | _ => o.setSpnStatus .start

def loadSimOtherFileExt (o : Outcome) : Outcome :=
  ((o.request .spnCphs).request .spnShortCphs).request .spdi

def loadSimOtherFile (env : Environment) (o : Outcome) : Outcome :=
  let available := isServiceAvailable env.cardType o.file.serviceTable
  if o.file.serviceTable = [] then o
  else
    let o := o.requestIf (available .plmnNetworkName) .pnn
    let o := o.requestIf (available .operatorPlmnList) .opl
    let o := o.requestIf (available .for5gsOperatorPlmnList) .opl5g
    let o := o.loadSimOtherFileExt.request .ehplmn
    let o := o.requestIf (available .msisdn) .msisdn
    let o := o.requestIf (available .mbdn) .mbi
    let o := o.requestIf (available .mwiStatus) .mwis
    o.request .voiceMailIndicatorCphs

def obtainCallForwardFiles (o : Outcome) : Outcome :=
  (request { o with file := { o.file with fileQueried := true } } .cfis).request .cff

end Outcome

def getFullIccid (iccId : StdString) : StdString :=
  if iccId.length < 2 then iccId else swapPairs iccId
where
  swapPairs : StdString → StdString
    | a :: b :: rest => b :: a :: swapPairs rest
    | _ => []

namespace SimFile

def loadSimFiles (f : SimFile) : Outcome :=
  let o : Outcome := { file := { f with fileQueried := true, fileToGet := 0 } }
  let o := ((((o.request .imsi).request .iccid).request .ad).request .sst).request .gid1
  ((o.request .gid2).obtainCallForwardFiles).request .voiceMailIndicatorCphs

/-- `ProcessObtainIMSIDone` with `DelayGetImsi` -/
def processObtainIMSIDone (f : SimFile) : Response → Outcome
  | .data imsi =>
    if imsi ≠ [] then { file := f }
    else if f.hasRetryGetImsi then { file := f }
    else Outcome.reload { file := f } .imsi
  | _ => { file := f }

def processGetIccIdDone (f : SimFile) : Response → Outcome
  | .data iccData => { file := { f with iccId := getFullIccid iccData } }
  | .exception =>
    if f.iccId = [] ∧ f.reloadIccidCount > 0 then
      Outcome.reload { file := { f with reloadIccidCount := f.reloadIccidCount - 1 } } .iccid
    else { file := f }
  | _ => { file := f }

def processGetSstDone (env : Environment) (f : SimFile) : Response → Outcome
  | .data iccData =>
    if iccData = [] then { file := f }
    else
      let o : Outcome := { file := { f with serviceTable := iccData } }
      let o :=
        if isServiceAvailable env.cardType iccData .spn then o.obtainSpnPhase else o
      o.loadSimOtherFile env
  | _ => { file := f }

section Spn

-- `ParseSpn` is taken as any function
variable (parseSpn : SpnStatus → StdString → StdString)

/-- `ProcessSpnGeneral` and `ProcessSpnCphs`, which try another file when there is no name. -/
def processSpn (next : SpnStatus) (f : SimFile) : Response → Outcome
  | .data iccData =>
    let spn := parseSpn f.spnStatus iccData
    if spn = [] then (Outcome.request { file := { f with spn } } .spn).setSpnStatus next
    else { file := { f with spn, spnStatus := .none } }
  | _ => (Outcome.request { file := f } .spn).setSpnStatus next

def processSpnGeneral : SimFile → Response → Outcome := processSpn parseSpn .operatorNameString

def processSpnCphs : SimFile → Response → Outcome := processSpn parseSpn .operatorNameShortForm

def processSpnShortCphs (f : SimFile) : Response → Outcome
  | .data iccData =>
    { file := { f with spn := parseSpn f.spnStatus iccData, spnStatus := .none } }
  | _ => { file := { f with spn := [], spnStatus := .none } }

/-- `ObtainSpnPhase` for an answer -/
def processObtainSpnPhase (f : SimFile) (response : Response) : Outcome :=
  match f.spnStatus with
  | .start => Outcome.startObtainSpn { file := f }
  | .general => f.processSpnGeneral parseSpn response
  | .operatorNameString => f.processSpnCphs parseSpn response
  | .operatorNameShortForm => f.processSpnShortCphs parseSpn response
  | .none => { file := f }

end Spn

def processGetMbiDone (f : SimFile) : Response → Outcome
  | .data iccData =>
    let index : UInt8 := ((hexStringConvertToBytes iccData).getD []).headD 0
    let f := if index ≠ 0 ∧ index ≠ 0xFF then { f with indexOfMailbox := index.toNat } else f
    Outcome.request { file := f } .mbdn
  | .exception => Outcome.request { file := f } .mbdn
  | _ => { file := f }

/-- `ProcessGetMbdnDone` with `GetCphsMailBox` -/
def processGetMbdnDone (f : SimFile) : Response → Outcome
  | .exception => Outcome.request { file := f } .cphsMailbox
  | .number (some diallingNumber) =>
    Outcome.requestIf { file := f } diallingNumber.isEmpty .cphsMailbox
  | _ => { file := f }

def processObtainLiLanguage (f : SimFile) : Response → Outcome
  | .data efLi =>
    if efLi = [] then Outcome.requestUncounted { file := f } .plLanguage else { file := f }
  | _ => { file := f }

def cphsVoiceMailAvailable (f : SimFile) : Bool :=
  match hexStringConvertToBytes f.cphsInfo with
  | some bytes => bytes.getD 1 0 &&& 0x30 == 0x30
  | none => false

def processSetMbdn (f : SimFile) : Response → Outcome
  | .null => { file := f }
  | _ =>
    if f.cphsVoiceMailAvailable then Outcome.requestUncounted { file := f } .setCphsMailbox
    else { file := f }

/-- The handlers in `memberFuncMap_`. All return `true`; those without a case here only store what
they get. -/
def process (parseSpn : SpnStatus → StdString → StdString) (env : Environment) (f : SimFile)
    (msg : Msg) (response : Response) : Outcome :=
  match msg with
  | .imsi => f.processObtainIMSIDone response
  | .iccid => f.processGetIccIdDone response
  | .sst => f.processGetSstDone env response
  | .spn => f.processObtainSpnPhase parseSpn response
  | .mbi => f.processGetMbiDone response
  | .mbdn => f.processGetMbdnDone response
  | .liLanguage => f.processObtainLiLanguage response
  | .setMbdn => f.processSetMbdn response
  | _ => { file := f }

def updateVoiceMail (env : Environment) (f : SimFile) : Outcome :=
  if env.voiceMailNotEditToSim then { file := f }
  else if f.indexOfMailbox ≠ 0 ∧ f.indexOfMailbox ≠ 0xFF then
    Outcome.requestUncounted { file := f } .setMbdn
  else if f.cphsVoiceMailAvailable then Outcome.requestUncounted { file := f } .setCphsMailbox
  else { file := f }

/-- `ClearData` of `SimFile` and `IccFile` -/
def clearData (f : SimFile) : SimFile :=
  { f with
    spnStatus := .none
    reloadIccidCount := 3
    hasRetryGetImsi := false
    iccId := []
    spn := []
    loaded := false
    indexOfMailbox := 1
    fileToGet := 0
    fileQueried := false }

end SimFile

/-! ## The machine -/

structure Sent (α : Type) where
  what : α
  /-- sent by the latest `LoadSimFiles`, or for an answer to a request of it -/
  ofLoad : Bool
deriving DecidableEq

structure State where
  file : SimFile := {}
  env : Environment := {}
  pending : List (Sent Msg) := []
  reloads : List (Sent Reload) := []
  /-- for each run of `OnAllFilesFetched`, what the load had not got yet -/
  fetched : List (List Msg) := []

inductive Label where
  | environment (env : Environment)
  /-- `StartLoad` -/
  | load
  /-- `RADIO_SIM_STATE_READY` -/
  | ready
  /-- `RADIO_SIM_STATE_LOCKED` and `RADIO_SIM_STATE_SIMLOCK` -/
  | locked
  | refresh (fileId : Int)
  | updateSimLanguage
  | updateMsisdnNumber
  | updateVoiceMail
  | answer (i : Nat) (response : Response)
  | reload (i : Nat)

namespace State

def unanswered (s : State) : List Msg := (s.pending.filter Sent.ofLoad).map Sent.what

def send (s : State) (o : Outcome) (ofLoad : Bool) : State :=
  { s with
    file := o.file
    pending := s.pending ++ o.requests.map (⟨·, ofLoad⟩)
    reloads := s.reloads ++ o.reloads.map (⟨·, ofLoad⟩) }

/-- A new load begins: what was sent before is not of it. -/
def loadSimFiles (s : State) : State :=
  send { s with
    pending := s.pending.map fun sent => { sent with ofLoad := false }
    reloads := s.reloads.map fun sent => { sent with ofLoad := false } } s.file.loadSimFiles true

def updateSimLanguage (s : State) : State :=
  s.send (Outcome.requestUncounted { file := s.file } .liLanguage) false

def onAllFilesFetched (s : State) : State :=
  let s := { s with fetched := s.fetched ++ [s.unanswered] }
  if s.env.simslotsMapping then s
  else
    let s := s.updateSimLanguage
    { s with file := { s.file with loaded := true } }

def setFileToGet (s : State) (fileToGet : Int) : State :=
  { s with file := { s.file with fileToGet } }

/-- `ProcessFileLoaded(true)` -/
def processFileLoaded (s : State) : State :=
  let s := s.setFileToGet (s.file.fileToGet - 1)
  if s.env.simStateReady ∧ s.file.fileToGet = 0 ∧ s.file.fileQueried then s.onAllFilesFetched
  else if s.file.fileToGet = 0 ∧ s.file.lockQueried then s.updateSimLanguage
  else if s.file.fileToGet < 0 then s.setFileToGet 0
  else s

def processIccLocked (s : State) : State :=
  s.send (Outcome.request
    { file := { s.file with fileQueried := false, loaded := false, lockQueried := true } } .iccid)
    false

/-- `ELEMENTARY_FILE_MBDN` and so on -/
def processIccRefresh (s : State) (fileId : Int) : State :=
  if fileId = 0x6FC7 ∨ fileId = 0x6F17 ∨ fileId = 0x6F15 ∨ fileId = 0x6F40 then
    s.setFileToGet (s.file.fileToGet + 1)
  else if fileId = 0x6F3B ∨ fileId = 0x6FCB ∨ fileId = 0x6F13 then s
  else
    -- `RemoveEvent(RELOAD_IMSI_EVENT)`
    loadSimFiles { s with
      file := s.file.clearData
      reloads := s.reloads.filter (·.what ≠ .imsi) }

end State

/-- `ProcessReloadIccid` and `ProcessReloadImsi`, which return `false` -/
def SimFile.processReload (f : SimFile) : Reload → Outcome
  | .iccid => Outcome.requestUncounted { file := f } .iccid
  | .imsi => { Outcome.requestUncounted { file := f } .imsi with
      file := { f with hasRetryGetImsi := true } }

section Machine

variable (parseSpn : SpnStatus → StdString → StdString)

def step (s : State) : Label → Option State
  | .environment env => some { s with env }
  | .load => some s.loadSimFiles
  | .ready =>
    if s.env.cardType = .singleModeUsimCard ∨ s.env.cardType = .singleModeSimCard then
      some s.loadSimFiles
    else some s
  | .locked => some s.processIccLocked
  | .refresh fileId => some (s.processIccRefresh fileId)
  | .updateSimLanguage => some s.updateSimLanguage
  | .updateMsisdnNumber =>
    some (s.send (Outcome.requestUncounted { file := s.file } .setMsisdn) false)
  | .updateVoiceMail => some (s.send (s.file.updateVoiceMail s.env) false)
  | .answer i response => do
    let sent ← s.pending[i]?
    let s := { s with pending := s.pending.eraseIdx i }
    some (s.send (s.file.process parseSpn s.env sent.what response) sent.ofLoad).processFileLoaded
  | .reload i => do
    let sent ← s.reloads[i]?
    let s := { s with reloads := s.reloads.eraseIdx i }
    some (s.send (s.file.processReload sent.what) sent.ofLoad)

end Machine

/-! ## What is counted -/

def Msg.counted : Msg → Bool
  | .liLanguage | .plLanguage | .setMsisdn | .setMbdn | .setCphsMailbox => false
  | _ => true

/-- The counter has been raised for each request and each delayed event. -/
structure Counts (f : SimFile) (o : Outcome) : Prop where
  fileQueried : o.file.fileQueried = f.fileQueried
  fileToGet : o.file.fileToGet = f.fileToGet + o.requests.length + o.reloads.length
  requests : ∀ msg ∈ o.requests, msg.counted = true

variable {file : SimFile} {i : Nat}

section Counts

variable {f : SimFile} {o : Outcome}

theorem counts_of_eq (hqd : file.fileQueried = f.fileQueried)
    (h : file.fileToGet = f.fileToGet) : Counts f { file } :=
  ⟨hqd, by simp [h], by simp⟩

theorem Counts.withFile (h : Counts f o) (hqd : file.fileQueried = o.file.fileQueried)
    (heq : file.fileToGet = o.file.fileToGet) : Counts f { o with file } :=
  ⟨hqd.trans h.fileQueried, heq.trans h.fileToGet, h.requests⟩

theorem Counts.request (h : Counts f o) (msg : Msg) (hm : msg.counted) :
    Counts f (o.request msg) where
  fileQueried := h.fileQueried
  fileToGet := by
    have ho := h.fileToGet
    simp only [Outcome.request, length_append, length_singleton]
    omega
  requests := forall_mem_concat h.requests hm

theorem Counts.requestIf (h : Counts f o) (available : Bool) (msg : Msg)
    (hm : msg.counted) : Counts f (o.requestIf available msg) := by
  cases available with
  | true => exact h.request msg hm
  | false => exact h

theorem Counts.reload (h : Counts f o) (event : Reload) : Counts f (o.reload event) := { h with
  fileToGet := by
    have ho := h.fileToGet
    simp only [Outcome.reload, length_append, length_singleton]
    omega }

theorem Counts.setSpnStatus (h : Counts f o) (spnStatus : SpnStatus) :
    Counts f (o.setSpnStatus spnStatus) :=
  h.withFile rfl rfl

theorem Counts.startObtainSpn (h : Counts f o) : Counts f o.startObtainSpn := by
  have hc : Counts f { o with file := { o.file with spn := [] } } := h.withFile rfl rfl
  exact (hc.request .spn rfl).setSpnStatus .general

theorem Counts.obtainSpnPhase (h : Counts f o) : Counts f o.obtainSpnPhase := by
  unfold Outcome.obtainSpnPhase
  split
  next => exact h.startObtainSpn
  next => exact h.setSpnStatus _

theorem Counts.loadSimOtherFileExt (h : Counts f o) : Counts f o.loadSimOtherFileExt :=
  ((h.request .spnCphs rfl).request .spnShortCphs rfl).request .spdi rfl

theorem Counts.loadSimOtherFile (h : Counts f o) (env : Environment) :
    Counts f (o.loadSimOtherFile env) := by
  unfold Outcome.loadSimOtherFile
  split
  next => exact h
  next =>
    refine .request ?_ _ rfl
    refine .requestIf (.requestIf (.requestIf ?_ _ _ rfl) _ _ rfl) _ _ rfl
    refine .request (.loadSimOtherFileExt ?_) _ rfl
    exact ((h.requestIf _ _ rfl).requestIf _ _ rfl).requestIf _ _ rfl

theorem counts_loadSimFiles (f : SimFile) :
    Counts { f with fileQueried := true, fileToGet := 0 } f.loadSimFiles := by
  have hst : Counts { f with fileQueried := true, fileToGet := 0 }
      { file := { f with fileQueried := true, fileToGet := 0 } } := counts_of_eq rfl rfl
  have hc := ((hst.request .imsi rfl).request .iccid rfl).request .ad rfl
  have hg := ((hc.request .sst rfl).request .gid1 rfl).request .gid2 rfl
  exact ((hg.request .cfis rfl).request .cff rfl).request .voiceMailIndicatorCphs rfl

theorem counts_processObtainIMSIDone (f : SimFile) (response : Response) :
    Counts f (f.processObtainIMSIDone response) := by
  have hs : Counts f { file := f } := counts_of_eq rfl rfl
  cases response with
  | data imsi =>
    simp only [SimFile.processObtainIMSIDone]
    split
    next => exact hs
    next =>
      split
      next => exact hs
      next => exact hs.reload .imsi
  | _ => exact hs

theorem counts_processGetIccIdDone (f : SimFile) (response : Response) :
    Counts f (f.processGetIccIdDone response) := by
  cases response with
  | data iccData => exact counts_of_eq rfl rfl
  | exception =>
    simp only [SimFile.processGetIccIdDone]
    split
    next =>
      have hl : Counts f { file := { f with reloadIccidCount := f.reloadIccidCount - 1 } } :=
        counts_of_eq rfl rfl
      exact hl.reload .iccid
    next => exact counts_of_eq rfl rfl
  | _ => exact counts_of_eq rfl rfl

theorem counts_processGetSstDone (env : Environment) (f : SimFile) (response : Response) :
    Counts f (f.processGetSstDone env response) := by
  cases response with
  | data iccData =>
    simp only [SimFile.processGetSstDone]
    split
    next => exact counts_of_eq rfl rfl
    next =>
      have ht : Counts f { file := { f with serviceTable := iccData } } := counts_of_eq rfl rfl
      refine .loadSimOtherFile ?_ env
      split
      next => exact ht.obtainSpnPhase
      next => exact ht
  | _ => exact counts_of_eq rfl rfl

variable (parseSpn : SpnStatus → StdString → StdString)

theorem counts_processSpn (next : SpnStatus) (f : SimFile) (response : Response) :
    Counts f (f.processSpn parseSpn next response) := by
  have hn : ∀ {spn : StdString}, Counts f
      ((Outcome.request { file := { f with spn } } .spn).setSpnStatus next) :=
    .setSpnStatus (.request (by exact counts_of_eq rfl rfl) .spn rfl) next
  cases response with
  | data iccData =>
    simp only [SimFile.processSpn]
    split
    next => exact hn
    next => exact counts_of_eq rfl rfl
  | _ => exact hn

theorem counts_processObtainSpnPhase (f : SimFile) (response : Response) :
    Counts f (f.processObtainSpnPhase parseSpn response) := by
  unfold SimFile.processObtainSpnPhase
  split
  next => exact (counts_of_eq rfl rfl).startObtainSpn
  next => exact counts_processSpn parseSpn _ f response
  next => exact counts_processSpn parseSpn _ f response
  next => cases response <;> exact counts_of_eq rfl rfl
  next => exact counts_of_eq rfl rfl

theorem counts_processGetMbiDone (f : SimFile) (response : Response) :
    Counts f (f.processGetMbiDone response) := by
  cases response with
  | data iccData =>
    refine .request (counts_of_eq ?_ ?_) .mbdn rfl
    · split <;> rfl
    · split <;> rfl
  | exception => exact (counts_of_eq rfl rfl).request .mbdn rfl
  | _ => exact counts_of_eq rfl rfl

theorem counts_processGetMbdnDone (f : SimFile) (response : Response) :
    Counts f (f.processGetMbdnDone response) := by
  unfold SimFile.processGetMbdnDone
  split
  next => exact (counts_of_eq rfl rfl).request .cphsMailbox rfl
  next => exact (counts_of_eq rfl rfl).requestIf _ .cphsMailbox rfl
  next => exact counts_of_eq rfl rfl

theorem counts_process (env : Environment) (f : SimFile) {msg : Msg} (hm : msg.counted)
    (response : Response) : Counts f (f.process parseSpn env msg response) := by
  cases msg with
  | imsi => exact counts_processObtainIMSIDone f response
  | iccid => exact counts_processGetIccIdDone f response
  | sst => exact counts_processGetSstDone env f response
  | spn => exact counts_processObtainSpnPhase parseSpn f response
  | mbi => exact counts_processGetMbiDone f response
  | mbdn => exact counts_processGetMbdnDone f response
  | liLanguage | setMbdn => exact absurd hm (by simp [Msg.counted])
  | _ => exact counts_of_eq rfl rfl

theorem process_fileQueried (env : Environment) (f : SimFile) (msg : Msg) (response : Response) :
    (f.process parseSpn env msg response).file.fileQueried = f.fileQueried := by
  by_cases hm : msg.counted
  · exact (counts_process parseSpn env f hm response).fileQueried
  · cases msg with
    | liLanguage =>
      simp only [SimFile.process, SimFile.processObtainLiLanguage]
      split
      next => split <;> rfl
      next => rfl
    | setMbdn =>
      simp only [SimFile.process, SimFile.processSetMbdn]
      split
      next => rfl
      next => split <;> rfl
    | plLanguage | setMsisdn | setCphsMailbox => rfl
    | _ => exact absurd rfl hm

end Counts

/-! ## A load that is complete when it is announced -/

namespace State

/-- Files and retries of the latest load that are missing. -/
def missing (s : State) : Nat :=
  s.pending.countP Sent.ofLoad + s.reloads.countP Sent.ofLoad

end State

/-- While a load is incomplete only its own requests are answered. -/
def OwnAnswers (s : State) : Label → Prop
  | .answer i _ =>
    ∀ sent ∈ s.pending[i]?, sent.ofLoad = false → s.file.fileQueried = true → s.missing = 0
  | _ => True

instance (s : State) (l : Label) : Decidable (OwnAnswers s l) := by
  unfold OwnAnswers
  split <;> infer_instance

structure Inv (s : State) : Prop where
  /-- the counter is at least what is missing -/
  covers : s.file.fileQueried = true → (s.missing : Int) ≤ s.file.fileToGet
  counted : ∀ sent ∈ s.pending, sent.ofLoad = true → sent.what.counted = true
  complete : ∀ unanswered ∈ s.fetched, unanswered = []

theorem inv_init : Inv {} := ⟨by simp, by simp, by simp⟩

section Run

variable {parseSpn : SpnStatus → StdString → StdString} {s s' : State}

theorem missing_send (s : State) (o : Outcome) (ofLoad : Bool) : (s.send o ofLoad).missing
      = s.missing + if ofLoad then o.requests.length + o.reloads.length else 0 := by
  have hm : ∀ {α : Type} (l : List α),
      (l.map (fun what => (⟨what, ofLoad⟩ : Sent α))).countP Sent.ofLoad
        = if ofLoad then l.length else 0 := by
    intro α l
    rw [countP_map]
    cases ofLoad with
    | true => exact congrFun countP_true l
    | false => exact congrFun countP_false l
  unfold State.send State.missing
  simp only [countP_append, hm]
  cases ofLoad with
  | true => simp only [if_true]; omega
  | false => simp

theorem unanswered_eq_nil (h : s.missing = 0) : s.unanswered = [] := by
  have hn : s.pending.countP Sent.ofLoad = 0 := by
    unfold State.missing at h
    omega
  rw [countP_eq_length_filter, length_eq_zero_iff] at hn
  rw [State.unanswered, hn]
  rfl

theorem counted_send {o : Outcome} {ofLoad : Bool}
    (h : ∀ sent ∈ s.pending, sent.ofLoad → sent.what.counted)
    (hr : ofLoad → ∀ msg ∈ o.requests, msg.counted) :
    ∀ sent ∈ (s.send o ofLoad).pending, sent.ofLoad → sent.what.counted := by
  intro sent hs hof
  rcases mem_append.1 hs with hol | hn
  · exact h sent hol hof
  · obtain ⟨msg, hm, rfl⟩ := mem_map.1 hn
    exact hr hof msg hm

theorem Inv.send_other (h : Inv s) (o : Outcome) (hf : o.file.fileToGet = s.file.fileToGet)
    (hqd : o.file.fileQueried = s.file.fileQueried) : Inv (s.send o false) where
  covers hq := by
    rw [missing_send]
    exact (h.covers (hqd.symm.trans hq)).trans_eq hf.symm
  counted := counted_send h.counted (by simp)
  complete := h.complete

theorem Inv.setFileToGet (h : Inv s) {fileToGet : Int}
    (hc : s.file.fileQueried → (s.missing : Int) ≤ fileToGet) : Inv (s.setFileToGet fileToGet) :=
  ⟨hc, h.counted, h.complete⟩

theorem Inv.updateSimLanguage (h : Inv s) : Inv s.updateSimLanguage := h.send_other _ rfl rfl

theorem Inv.onAllFilesFetched (h : Inv s) (hms : s.missing = 0) : Inv s.onAllFilesFetched := by
  have hf : Inv { s with fetched := s.fetched ++ [s.unanswered] } := by
    refine ⟨h.covers, h.counted, fun unanswered hmm => ?_⟩
    rcases mem_concat.1 hmm with ho | rfl
    · exact h.complete unanswered ho
    · exact unanswered_eq_nil hms
  unfold State.onAllFilesFetched
  simp only
  split
  next => exact hf
  next =>
    have hl := hf.updateSimLanguage
    exact ⟨hl.covers, hl.counted, hl.complete⟩

theorem inv_processFileLoaded
    (hcv : s.file.fileQueried → s.missing = 0 ∨ (s.missing : Int) + 1 ≤ s.file.fileToGet)
    (hcn : ∀ sent ∈ s.pending, sent.ofLoad → sent.what.counted)
    (hcp : ∀ unanswered ∈ s.fetched, unanswered = []) : Inv s.processFileLoaded := by
  unfold State.processFileLoaded
  simp only
  split
  next hf =>
    obtain ⟨-, hz, hqd⟩ := hf
    have hz : s.file.fileToGet - 1 = 0 := hz
    have hm : s.missing = 0 := by
      rcases hcv hqd with hnn | hle <;> omega
    refine .onAllFilesFetched ⟨fun _ => ?_, hcn, hcp⟩ hm
    show (s.missing : Int) ≤ s.file.fileToGet - 1
    omega
  next =>
    split
    next hlc =>
      have hz : s.file.fileToGet - 1 = 0 := hlc.1
      refine .updateSimLanguage ⟨fun hqd => ?_, hcn, hcp⟩
      show (s.missing : Int) ≤ s.file.fileToGet - 1
      rcases hcv hqd with hnn | hle <;> omega
    next =>
      split
      next hng =>
        have hng : s.file.fileToGet - 1 < 0 := hng
        refine ⟨fun hqd => ?_, hcn, hcp⟩
        show (s.missing : Int) ≤ 0
        rcases hcv hqd with hnn | hle <;> omega
      next hp =>
        have hp : ¬s.file.fileToGet - 1 < 0 := hp
        refine ⟨fun hqd => ?_, hcn, hcp⟩
        show (s.missing : Int) ≤ s.file.fileToGet - 1
        rcases hcv hqd with hnn | hle <;> omega

theorem inv_loadSimFiles (hcp : ∀ unanswered ∈ s.fetched, unanswered = []) :
    Inv s.loadSimFiles := by
  have hfr : ∀ {α : Type} (l : List (Sent α)),
      (l.map fun sent => { sent with ofLoad := false }).countP Sent.ofLoad = 0 := by
    intro α l
    rw [countP_map]
    exact congrFun countP_false l
  have hcn := counts_loadSimFiles s.file
  refine ⟨fun _ => ?_, counted_send (fun sent hs hof => ?_) fun _ => hcn.requests, hcp⟩
  · rw [State.loadSimFiles, missing_send, if_pos rfl]
    have hfl : s.file.loadSimFiles.file.fileToGet = 0 + s.file.loadSimFiles.requests.length
        + s.file.loadSimFiles.reloads.length := hcn.fileToGet
    simp only [State.send, State.missing, hfr]
    omega
  · obtain ⟨_, -, rfl⟩ := mem_map.1 hs
    cases hof

theorem Inv.processIccLocked (h : Inv s) : Inv s.processIccLocked := by
  refine ⟨fun hqd => absurd hqd ?_, counted_send h.counted (by simp), h.complete⟩
  simp [State.processIccLocked, State.send, Outcome.request]

theorem Inv.processIccRefresh (h : Inv s) (fileId : Int) : Inv (s.processIccRefresh fileId) := by
  unfold State.processIccRefresh
  split
  next =>
    refine h.setFileToGet fun hqd => ?_
    have hc := h.covers hqd
    omega
  next =>
    split
    next => exact h
    next => exact inv_loadSimFiles h.complete

theorem Inv.updateVoiceMail (h : Inv s) : Inv (s.send (s.file.updateVoiceMail s.env) false) := by
  unfold SimFile.updateVoiceMail
  split
  next => exact h.send_other _ rfl rfl
  next =>
    split
    next => exact h.send_other _ rfl rfl
    next =>
      split
      next => exact h.send_other _ rfl rfl
      next => exact h.send_other _ rfl rfl

theorem countP_eraseIdx {α : Type} {l : List (Sent α)} {sent : Sent α} (h : l[i]? = some sent) :
    l.countP Sent.ofLoad = (l.eraseIdx i).countP Sent.ofLoad + if sent.ofLoad then 1 else 0 := by
  have hp : l.Perm (sent :: l.eraseIdx i) := by
    obtain ⟨hlt, rfl⟩ := List.getElem?_eq_some_iff.1 h
    exact (getElem_cons_eraseIdx_perm hlt).symm
  rw [hp.countP_eq, countP_cons]

theorem Inv.answer (h : Inv s) {sent : Sent Msg} (hs : s.pending[i]? = some sent)
    (response : Response) (hmt : OwnAnswers s (.answer i response)) :
    Inv (State.send { s with pending := s.pending.eraseIdx i }
      (s.file.process parseSpn s.env sent.what response) sent.ofLoad).processFileLoaded := by
  have he := countP_eraseIdx hs
  have hcn : ∀ {o : Outcome} {ofLoad : Bool}, (ofLoad → ∀ msg ∈ o.requests, msg.counted) →
      ∀ other ∈ (State.send { s with pending := s.pending.eraseIdx i } o ofLoad).pending,
        other.ofLoad → other.what.counted :=
    counted_send fun other hot => h.counted other (mem_of_mem_eraseIdx hot)
  have hqd := process_fileQueried parseSpn s.env s.file sent.what response
  cases hof : sent.ofLoad with
  | true =>
    have hct := counts_process parseSpn s.env s.file
      (h.counted sent (mem_of_getElem? hs) hof) response
    refine inv_processFileLoaded (fun hq => .inr ?_) (hcn fun _ => hct.requests) h.complete
    have hcv := h.covers (hqd.symm.trans hq)
    have hf := hct.fileToGet
    rw [missing_send, if_pos rfl]
    rw [hof, if_pos rfl] at he
    simp only [State.send, State.missing] at hcv ⊢
    omega
  | false =>
    refine inv_processFileLoaded (fun hq => .inl ?_) (hcn (by simp)) h.complete
    have hms := hmt sent hs hof (hqd.symm.trans hq)
    rw [missing_send, if_neg (by simp)]
    simp only [State.missing] at hms ⊢
    omega

theorem Inv.reload (h : Inv s) {sent : Sent Reload} (hs : s.reloads[i]? = some sent) :
    Inv (.send { s with reloads := s.reloads.eraseIdx i } (s.file.processReload sent.what)
      sent.ofLoad) := by
  have he := countP_eraseIdx hs
  obtain ⟨msg, file, hp, hf, hqd, hm⟩ : ∃ msg file,
      s.file.processReload sent.what = { file, requests := [msg] } ∧
        file.fileToGet = s.file.fileToGet ∧ file.fileQueried = s.file.fileQueried ∧
        msg.counted := by
    cases sent.what with
    | iccid | imsi => exact ⟨_, _, rfl, rfl, rfl, rfl⟩
  rw [hp]
  refine ⟨fun hq => ?_, counted_send h.counted fun _ => by simpa using hm, h.complete⟩
  -- the event becomes a request
  have hc := h.covers (hqd.symm.trans hq)
  rw [missing_send]
  simp only [State.send, State.missing, length_singleton, length_nil, Nat.add_zero]
    at hc ⊢
  omega

theorem Inv.step {l : Label} (h : Inv s) (hmt : OwnAnswers s l)
    (hst : step parseSpn s l = some s') : Inv s' := by
  cases l with
  | environment env =>
    cases hst
    exact ⟨h.covers, h.counted, h.complete⟩
  | load =>
    cases hst
    exact inv_loadSimFiles h.complete
  | ready =>
    simp only [FileLoading.step] at hst
    split at hst
    next =>
      cases hst
      exact inv_loadSimFiles h.complete
    next =>
      cases hst
      exact h
  | locked =>
    cases hst
    exact h.processIccLocked
  | refresh fileId =>
    cases hst
    exact h.processIccRefresh fileId
  | updateSimLanguage =>
    cases hst
    exact h.updateSimLanguage
  | updateMsisdnNumber =>
    cases hst
    exact h.send_other _ rfl rfl
  | updateVoiceMail =>
    cases hst
    exact h.updateVoiceMail
  | answer i response =>
    obtain ⟨sent, hsn, hst⟩ := Option.bind_eq_some_iff.1 hst
    cases hst
    exact h.answer hsn response hmt
  | reload i =>
    obtain ⟨sent, hsn, hst⟩ := Option.bind_eq_some_iff.1 hst
    cases hst
    exact h.reload hsn

end Run

/-- If only a load's own requests are answered while it is incomplete, nothing of the latest load is
unanswered when `OnAllFilesFetched` runs. -/
theorem all_files_fetched (parseSpn : SpnStatus → StdString → StdString) (labels : List Label)
    (s : State) (hmeets : StepsMeet (step parseSpn) OwnAnswers {} labels)
    (hrun : runLabels (step parseSpn) {} labels = some s) :
    ∀ unanswered ∈ s.fetched, unanswered = [] :=
  (invariant_run .step labels inv_init hmeets hrun).complete

/-- A USIM whose IMSI and ICCID are read at the second try; then the language, a refresh and an
update of the number. -/
def loadWithRetries : List Label :=
  ([.environment { cardType := .singleModeUsimCard, simStateReady := true },
      .ready] : List Label) ++
    ([.answer 0 (.data []), .answer 0 .exception, .reload 1, .reload 0] : List Label) ++
    ([.answer 1 (.data [48, 48, 48, 48, 48, 52])] : List Label) ++
    (List.replicate 3 (.answer 0 .null) : List Label) ++
    (List.replicate 11 (.answer 0 (.data [57, 56])) : List Label) ++
    ([.answer 0 (.data []), .answer 0 .null, .refresh 0x6F40, .updateMsisdnNumber,
      .answer 0 .null] : List Label)

theorem all_files_fetched_retries :
    ∃ s, StepsMeet (step fun _ data => data) OwnAnswers {} loadWithRetries ∧
      runLabels (step fun _ data => data) {} loadWithRetries = some s ∧
      s.fetched.length = 2 ∧ ∀ unanswered ∈ s.fetched, unanswered = [] := by
  obtain ⟨s, hm, hr, hl⟩ :
      ∃ s, StepsMeet (step fun _ data => data) OwnAnswers {} loadWithRetries ∧
        runLabels (step fun _ data => data) {} loadWithRetries = some s ∧ s.fetched.length = 2 :=
    exists_run_meeting _ (by decide +kernel)
  exact ⟨s, hm, hr, hl, all_files_fetched _ _ s hm hr⟩

/-- The number is updated during a load. Its answer counts down for the IMSI. -/
theorem loaded_too_early :
    ∃ s, runLabels (step fun _ data => data) {} ([.environment { simStateReady := true }, .load,
        .updateMsisdnNumber, .answer 9 .null] ++ List.replicate 8 (.answer 1 .null)) = some s ∧
      s.fetched = [[.imsi]] :=
  exists_run _ (by decide +kernel)

end TelephonyCore.Sim.FileLoading
