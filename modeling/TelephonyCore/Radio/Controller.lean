import Mathlib.Data.List.Basic
import Mathlib.Order.Lattice

/-!
# `RadioProtocolController`: the handlers

`SetRadioProtocol` exchanges the technology and the modem of the two slots. It does so in a session
of three requests to every slot, check, update and complete, and between the last two waits for a
notification of every slot.

What a handler hands to the RIL manager is put into `outbox`, from where the machine of
`Session.lean` takes it. The session id is a mathematical integer here: the `int32_t` of the source
overflows after 2^31 sessions, which C++ does not define.
-/

namespace TelephonyCore.Radio

inductive RadioProtocolPhase where
  | INITIAL
  | CHECK
  | UPDATE
  | NOTIFY
  | COMPLETE
deriving DecidableEq

inductive RadioProtocolStatus where
  | NONE
  | SUCCESS
  | FAIL
deriving DecidableEq

structure RadioProtocol where
  slotId : Int
  sessionId : Int
  phase : RadioProtocolPhase
  technology : Int
  modemId : Int
  status : RadioProtocolStatus
deriving DecidableEq

/-- The events under which the RIL manager answers a request of a session. -/
inductive EventId where
  | CHECK_RADIO_PROTOCOL
  | UPDATE_RADIO_PROTOCOL
  | SET_RADIO_PROTOCOL_COMPLETE
deriving DecidableEq

structure Request where
  slotId : Nat
  protocol : RadioProtocol
  eventId : EventId
deriving DecidableEq

/-- A `RadioResponseInfo` with an error, a `RadioProtocol`, or neither. -/
inductive Answer where
  | error
  | protocol (radioProtocol : RadioProtocol)
  | nothing
deriving DecidableEq

structure Controller where
  /-- the weak pointer to the RIL manager can be locked -/
  telRilManager : Bool
  slotCount : Int
  radioProtocol : List RadioProtocol
  oldRadioProtocol : List RadioProtocol := []
  newRadioProtocol : List RadioProtocol := []
  sessionId : Int := 0
  communicatingSlotCount : Int := 0
  communicationFailed : Bool := false
  isCommunicating : Bool := false
  communicationResponseResult : Bool := false
  /-- the queued `RADIO_SIM_SET_RADIO_PROTOCOL_TIMEOUT` events, by their session id -/
  timeouts : List Int := []
  outbox : List Request := []
deriving DecidableEq

namespace Controller

def SIM_SLOT_2 : Nat := 2

def cleanUpCommunication (c : Controller) : Controller :=
  { c with
    timeouts := []
    communicationFailed := false
    oldRadioProtocol := []
    newRadioProtocol := [] }

def processCommunicationResponse (c : Controller) (result : Bool) : Controller :=
  { c with communicationResponseResult := result, isCommunicating := false }

def protocolAt (c : Controller) (i : Nat) : RadioProtocol :=
  c.radioProtocol.getD i ⟨0, 0, .INITIAL, 0, 0, .NONE⟩

def forSlots (c : Controller) (f : Nat → RadioProtocol → RadioProtocol)
    (l : List RadioProtocol) : List RadioProtocol :=
  l.mapIdx (fun i p => if (i : Int) < c.slotCount then f i p else p)

def buildRadioProtocolForCommunication (c : Controller) (phase : RadioProtocolPhase)
    (status : RadioProtocolStatus) : Controller :=
  match phase with
  | .CHECK =>
    if c.slotCount > c.radioProtocol.length ∨ c.slotCount < 0 then c
    else
      let built := (List.range c.slotCount.toNat).map (fun (i : Nat) =>
        { slotId := i
          sessionId := c.sessionId
          phase
          technology := (c.protocolAt i).technology
          modemId := (c.protocolAt i).modemId
          status : RadioProtocol })
      { c with
        oldRadioProtocol := c.oldRadioProtocol ++ built
        -- switch the technology and the modem of the slots
        newRadioProtocol := c.forSlots (fun i p =>
          { p with
            technology := (c.protocolAt (c.slotCount.toNat - 1 - i)).technology
            modemId := (c.protocolAt (c.slotCount.toNat - 1 - i)).modemId })
          (c.newRadioProtocol ++ built) }
  | .UPDATE | .NOTIFY | .COMPLETE =>
    if c.slotCount < 0 ∨ c.oldRadioProtocol.length < c.slotCount ∨
        c.newRadioProtocol.length < c.slotCount then c
    else
      let stamp := c.forSlots (fun _ p => { p with sessionId := c.sessionId, phase, status })
      { c with
        oldRadioProtocol := stamp c.oldRadioProtocol
        newRadioProtocol := stamp c.newRadioProtocol }
  | .INITIAL => c

def failCommunication (c : Controller) : Controller :=
  (c.processCommunicationResponse false).cleanUpCommunication

def sendRadioProtocolEvent (c : Controller) (radioProtocol : List RadioProtocol)
    (eventId : EventId) : Controller :=
  if c.telRilManager = false ∨ radioProtocol = [] then c.failCommunication
  else if c.slotCount > radioProtocol.length ∨ c.slotCount < 0 then c.failCommunication
  else
    { c with
      outbox := c.outbox ++ ((radioProtocol.take c.slotCount.toNat).zipIdx.filter
        (fun p => p.2 ≠ SIM_SLOT_2)).map (fun p => ⟨p.2, p.1, eventId⟩) }

def resetNextCommunicationSlotCount (c : Controller) : Controller :=
  { c with communicatingSlotCount := c.slotCount }

def executeCheckCommunication (c : Controller) : Controller :=
  let c := { c with
    sessionId := c.sessionId + 1
    isCommunicating := true
    timeouts := c.timeouts ++ [c.sessionId + 1] }
  let c := (c.buildRadioProtocolForCommunication .CHECK .NONE).resetNextCommunicationSlotCount
  c.sendRadioProtocolEvent c.oldRadioProtocol .CHECK_RADIO_PROTOCOL

def executeUpdateCommunication (c : Controller) : Controller :=
  let c := (c.buildRadioProtocolForCommunication .UPDATE .NONE).resetNextCommunicationSlotCount
  c.sendRadioProtocolEvent c.newRadioProtocol .UPDATE_RADIO_PROTOCOL

def executeCompleteCommunication (c : Controller) : Controller :=
  let c := (c.buildRadioProtocolForCommunication .COMPLETE
    (if c.communicationFailed then .FAIL else .SUCCESS)).resetNextCommunicationSlotCount
  c.sendRadioProtocolEvent
    (if c.communicationFailed then c.oldRadioProtocol else c.newRadioProtocol)
    .SET_RADIO_PROTOCOL_COMPLETE

/-- `SetRadioProtocol` up to its wait, where it does not refuse. -/
def setRadioProtocol (c : Controller) : Controller :=
  { c with communicationResponseResult := false }.cleanUpCommunication.executeCheckCommunication

def updateRadioProtocol (c : Controller) (p : RadioProtocol) : Controller :=
  if 0 ≤ p.slotId ∧ p.slotId < c.radioProtocol.length then
    { c with radioProtocol := c.radioProtocol.modify p.slotId.toNat (fun q =>
      { q with
        sessionId := p.sessionId
        phase := p.phase
        technology := p.technology
        modemId := p.modemId
        status := p.status }) }
  else c

/-- For every error, and for a protocol of the current session. -/
def accepts (c : Controller) : Answer → Bool
  | .error => true
  | .protocol p => p.sessionId == c.sessionId
  | .nothing => false

def processResponseInfoOfEvent (c : Controller) (a : Answer) : Bool × Controller :=
  (c.accepts a, match a with
    | .error => { c with communicationFailed := true }
    | _ => c)

/-- `next` when the last slot has answered. -/
def countDown (c : Controller) (next : Controller → Controller) : Controller :=
  let c := { c with communicatingSlotCount := c.communicatingSlotCount - 1 }
  if c.communicatingSlotCount ≠ 0 then c else next c

def processCheckRadioProtocol (c : Controller) (a : Answer) : Controller :=
  match c.processResponseInfoOfEvent a with
  | (false, c) => c
  | (true, c) => c.countDown (fun c =>
    if c.communicationFailed then c.executeCompleteCommunication
    else c.executeUpdateCommunication)

def processUpdateRadioProtocol (c : Controller) (a : Answer) : Controller :=
  (c.processResponseInfoOfEvent a).2

def processRadioProtocolNotify (c : Controller) (p : RadioProtocol) : Controller :=
  if p.sessionId ≠ c.sessionId then c
  else
    let c := if p.status = .FAIL then { c with communicationFailed := true }
      else c.updateRadioProtocol p
    c.countDown executeCompleteCommunication

def processSetRadioProtocolComplete (c : Controller) (a : Answer) : Controller :=
  match c.processResponseInfoOfEvent a with
  | (false, c) => c
  | (true, c) => c.countDown (fun c =>
    (c.processCommunicationResponse (!c.communicationFailed)).cleanUpCommunication)

def processSetRadioProtocolTimeout (c : Controller) (sessionId : Int) : Controller :=
  if sessionId ≠ c.sessionId then c
  else
    let c := (c.processCommunicationResponse false).cleanUpCommunication
    { c with
      sessionId := c.sessionId + 1
      communicatingSlotCount := 0
      communicationFailed := true }.executeCompleteCommunication

def processAnswer (c : Controller) : EventId → Answer → Controller
  | .CHECK_RADIO_PROTOCOL => c.processCheckRadioProtocol
  | .UPDATE_RADIO_PROTOCOL => c.processUpdateRadioProtocol
  | .SET_RADIO_PROTOCOL_COMPLETE => c.processSetRadioProtocolComplete

end Controller

/-! ## Two slots

With two slots and full vectors every `Execute…Communication` is an assignment of a
few members and two requests; with empty vectors it ends the session. -/

def pairOf (sessionId : Int) (phase : RadioProtocolPhase) (status : RadioProtocolStatus)
    (p q : RadioProtocol) : List RadioProtocol :=
  [⟨0, sessionId, phase, p.technology, p.modemId, status⟩,
    ⟨1, sessionId, phase, q.technology, q.modemId, status⟩]

def requestsTo (eventId : EventId) (l : List RadioProtocol) : List Request :=
  l.zipIdx.map (fun p => ⟨p.2, p.1, eventId⟩)

namespace Controller

variable {c : Controller}

theorem sendRadioProtocolEvent_pair (hsl : c.slotCount = 2) (hr : c.telRilManager)
    (k : Int) (phase : RadioProtocolPhase) (status : RadioProtocolStatus) (p q : RadioProtocol)
    (eventId : EventId) :
    c.sendRadioProtocolEvent (pairOf k phase status p q) eventId =
      { c with outbox := c.outbox ++ requestsTo eventId (pairOf k phase status p q) } := by
  unfold sendRadioProtocolEvent pairOf requestsTo
  rw [if_neg (by simp [hr]), if_neg (by simp [hsl])]
  simp [hsl, SIM_SLOT_2]

theorem sendRadioProtocolEvent_nil (c : Controller) (eventId : EventId) :
    c.sendRadioProtocolEvent [] eventId = c.failCommunication := by
  unfold sendRadioProtocolEvent
  rw [if_pos (.inr rfl)]

variable {p q : RadioProtocol}

theorem build_check (hsl : c.slotCount = 2) (hst : c.radioProtocol = [p, q])
    (ho : c.oldRadioProtocol = []) (hn : c.newRadioProtocol = []) (status : RadioProtocolStatus) :
    c.buildRadioProtocolForCommunication .CHECK status = { c with
        oldRadioProtocol := pairOf c.sessionId .CHECK status p q
        newRadioProtocol := pairOf c.sessionId .CHECK status q p } := by
  unfold buildRadioProtocolForCommunication
  simp [hsl, ho, hn, forSlots, protocolAt, hst, pairOf, List.range_succ]

variable {phase : RadioProtocolPhase} {k : Int} {status : RadioProtocolStatus}

theorem build_stamp (hsl : c.slotCount = 2) {phase' : RadioProtocolPhase}
    {status' : RadioProtocolStatus} (ho : c.oldRadioProtocol = pairOf k phase' status' p q)
    (hn : c.newRadioProtocol = pairOf k phase' status' q p)
    (hph : phase = .UPDATE ∨ phase = .COMPLETE) (status : RadioProtocolStatus) :
    c.buildRadioProtocolForCommunication phase status = { c with
        oldRadioProtocol := pairOf c.sessionId phase status p q
        newRadioProtocol := pairOf c.sessionId phase status q p } := by
  rcases hph with rfl | rfl <;>
  · unfold buildRadioProtocolForCommunication
    simp [hsl, ho, hn, forSlots, pairOf]

theorem build_nil (hsl : c.slotCount = 2) (ho : c.oldRadioProtocol = [])
    (hph : phase = .UPDATE ∨ phase = .COMPLETE) (status : RadioProtocolStatus) :
    c.buildRadioProtocolForCommunication phase status = c := by
  rcases hph with rfl | rfl <;>
  · unfold buildRadioProtocolForCommunication
    dsimp only
    rw [if_pos (by simp [hsl, ho])]

theorem executeCheckCommunication_eq (hsl : c.slotCount = 2) (hr : c.telRilManager)
    (hst : c.radioProtocol = [p, q]) (ho : c.oldRadioProtocol = []) (hn : c.newRadioProtocol = []) :
    c.executeCheckCommunication = { c with
        sessionId := c.sessionId + 1
        isCommunicating := true
        timeouts := c.timeouts ++ [c.sessionId + 1]
        oldRadioProtocol := pairOf (c.sessionId + 1) .CHECK .NONE p q
        newRadioProtocol := pairOf (c.sessionId + 1) .CHECK .NONE q p
        communicatingSlotCount := 2
        outbox := c.outbox ++
          requestsTo .CHECK_RADIO_PROTOCOL (pairOf (c.sessionId + 1) .CHECK .NONE p q) } := by
  unfold executeCheckCommunication resetNextCommunicationSlotCount
  dsimp only
  rw [build_check (p := p) (q := q) (by exact hsl) (by exact hst) (by exact ho) (by exact hn)]
  rw [sendRadioProtocolEvent_pair (by exact hsl) (by exact hr), hsl]

theorem executeUpdateCommunication_eq (hsl : c.slotCount = 2) (hr : c.telRilManager)
    (ho : c.oldRadioProtocol = pairOf k phase status p q)
    (hn : c.newRadioProtocol = pairOf k phase status q p) :
    c.executeUpdateCommunication = { c with
        oldRadioProtocol := pairOf c.sessionId .UPDATE .NONE p q
        newRadioProtocol := pairOf c.sessionId .UPDATE .NONE q p
        communicatingSlotCount := 2
        outbox := c.outbox ++
          requestsTo .UPDATE_RADIO_PROTOCOL (pairOf c.sessionId .UPDATE .NONE q p) } := by
  unfold executeUpdateCommunication resetNextCommunicationSlotCount
  rw [build_stamp hsl ho hn (.inl rfl)]
  rw [sendRadioProtocolEvent_pair (by exact hsl) (by exact hr), hsl]

def completeStatus (c : Controller) : RadioProtocolStatus :=
  if c.communicationFailed then .FAIL else .SUCCESS

/-- The old one after a failure. -/
def completeVector (k : Int) (status : RadioProtocolStatus) (p q : RadioProtocol) :
    List RadioProtocol :=
  if status = .FAIL then pairOf k .COMPLETE status p q else pairOf k .COMPLETE status q p

theorem executeCompleteCommunication_eq (hsl : c.slotCount = 2) (hr : c.telRilManager)
    (ho : c.oldRadioProtocol = pairOf k phase status p q)
    (hn : c.newRadioProtocol = pairOf k phase status q p) :
    c.executeCompleteCommunication = { c with
        oldRadioProtocol := pairOf c.sessionId .COMPLETE c.completeStatus p q
        newRadioProtocol := pairOf c.sessionId .COMPLETE c.completeStatus q p
        communicatingSlotCount := 2
        outbox := c.outbox ++ requestsTo .SET_RADIO_PROTOCOL_COMPLETE
          (completeVector c.sessionId c.completeStatus p q) } := by
  unfold executeCompleteCommunication resetNextCommunicationSlotCount
  rw [build_stamp hsl ho hn (.inr rfl)]
  unfold completeVector completeStatus
  cases hf : c.communicationFailed with
  | true =>
    simp only [reduceIte]
    rw [sendRadioProtocolEvent_pair (by exact hsl) (by exact hr), hsl]
  | false =>
    simp only [reduceCtorEq, reduceIte]
    rw [sendRadioProtocolEvent_pair (by exact hsl) (by exact hr), hsl]

theorem executeUpdateCommunication_nil (hsl : c.slotCount = 2) (ho : c.oldRadioProtocol = [])
    (hn : c.newRadioProtocol = []) :
    c.executeUpdateCommunication = { c with communicatingSlotCount := 2 }.failCommunication := by
  unfold executeUpdateCommunication resetNextCommunicationSlotCount
  rw [build_nil hsl ho (.inl rfl)]
  rw [hn, sendRadioProtocolEvent_nil, hsl]

theorem executeCompleteCommunication_nil (hsl : c.slotCount = 2)
    (ho : c.oldRadioProtocol = []) (hn : c.newRadioProtocol = []) :
    c.executeCompleteCommunication = { c with communicatingSlotCount := 2 }.failCommunication := by
  unfold executeCompleteCommunication resetNextCommunicationSlotCount
  rw [build_nil hsl ho (.inr rfl)]
  dsimp only
  rw [ho, hn, ite_self, sendRadioProtocolEvent_nil, hsl]

end Controller

end TelephonyCore.Radio
