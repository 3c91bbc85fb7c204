import Mathlib.Algebra.Group.Nat.Defs
import TelephonyCore.Lib.Custody
import TelephonyCore.Lib.Slots
import TelephonyCore.Lib.Transition

/-!
# Requests to the modem and their responses

All `TelRilBase` objects share one serial number counter and one map of requests. A request takes a
serial number in two or three atomic operations (a test, perhaps a reset, an increment), enters the
map, and then calls the modem. A response takes the request with its serial number out of the map
and sends the event of that request to the handler that owns it.

Whatever the modem answers, and how often, an event goes to the owner of the one request made with
its serial number, and at most once for each request (`response_reaches_requester`), as long as
serial numbers are not reused: the reset of the counter is not reached before `INT32_MAX`.
-/

namespace TelephonyCore.Ril

open Lib List Option

/-! ## Requests and the map -/

def INT32_MAX : Int := 2147483647

/-- What a caller passes to be sent back. -/
structure InnerEvent where
  innerEventId : Nat
  /-- a weak pointer to a handler -/
  owner : Option Nat
  param : Int
deriving DecidableEq

structure TelRilRequest where
  serialId : Int
  pointer : Option InnerEvent
deriving DecidableEq

/-- Keyed by the serial number. `std::map::insert` leaves an entry that is there. -/
def insertRequest (requestMap : List TelRilRequest) (request : TelRilRequest) :
    List TelRilRequest :=
  if request.serialId ∈ requestMap.map TelRilRequest.serialId then requestMap
  else request :: requestMap

/-- The request, and the map without it. -/
def findTelRilRequest (requestMap : List TelRilRequest) (serial : Int) :
    Option TelRilRequest × List TelRilRequest :=
  match requestMap.find? (fun request => request.serialId = serial) with
  | none => (none, requestMap)
  | some request => (some request, requestMap.filter fun other => other.serialId ≠ serial)

/-- `nextSerialId_++` on an `atomic_int`, which wraps around. -/
def increment (nextSerialId : Int) : Int :=
  if nextSerialId = INT32_MAX then -INT32_MAX - 1 else nextSerialId + 1

inductive Ret where
  | success
  | localPtrNull
  | permissionErr
  | argumentInvalid
  | ipcConnectStubFail
  /-- an `ErrType` of a response, or what the modem interface returned -/
  | code (value : Int)
deriving DecidableEq

/-! ## Sending the event of a response -/

structure RadioResponseInfo where
  flag : Int
  serial : Int
  error : Int
deriving DecidableEq

def ErrType.NONE : Int := 0

def ErrType.ERR_GENERIC_FAILURE : Int := 1

inductive Payload (α : Type) where
  | info (respInfo : RadioResponseInfo)
  | data (value : α)
deriving DecidableEq

/-- The templates of `Response`, by what they send when there is no error. -/
inductive ResponseData (α : Type) where
  | noData
  | value (data : α)
  | shared (data : Option α)
  | getDataFunc (f : TelRilRequest → α)
  | setupDataCall (reason : Int) (f : TelRilRequest → α)

structure Response (α : Type) where
  funcName : String
  iResponseInfo : RadioResponseInfo
  data : ResponseData α

/-- With the serial number of the response it was sent for. -/
structure SentEvent (α : Type) where
  serial : Int
  handler : Nat
  eventId : Nat
  payload : Payload α
deriving DecidableEq

/-- The handlers in `destroyed` are no longer there. -/
def InnerEvent.getOwner (event : InnerEvent) (destroyed : List Nat) : Option Nat :=
  event.owner.filter fun handler => handler ∉ destroyed

section Send

variable {α : Type} (destroyed : List Nat) (accepted : Bool) (serial : Int)

/-- `accepted` is what `SendEvent` of the handler returns. -/
def sendTelEvent (handler : Option Nat) (eventId : Nat) (payload : Payload α) :
    Option (SentEvent α) :=
  match handler with
  | none => none
  | some handler => if accepted then some ⟨serial, handler, eventId, payload⟩ else none

def sendEventData (eventId : Nat) (handler : Option Nat) (payload : Payload α) :
    Ret × Option (SentEvent α) :=
  match sendTelEvent accepted serial handler eventId payload with
  | none => (.ipcConnectStubFail, none)
  | some sent => (.success, some sent)

def sendHandlerEvent (funcName : String) (event : InnerEvent) (payload : Payload α) :
    Ret × Option (SentEvent α) :=
  let handler := event.getOwner destroyed
  if handler = none ∧ funcName ≠ "SetDeviceStateResponse" ∧
      funcName ≠ "SetNotificationFilterResponse" then (.localPtrNull, none)
  else sendEventData accepted serial event.innerEventId handler payload

def errorResponse (event : InnerEvent) (error : Int) : Ret × Option (SentEvent α) :=
  match event.getOwner destroyed with
  | none => (.localPtrNull, none)
  | some handler =>
    (.code error, sendTelEvent accepted serial (some handler) event.innerEventId
      (.info ⟨event.param, serial, error⟩))

def ResponseData.payload (iResponseInfo : RadioResponseInfo) (request : TelRilRequest)
    (event : InnerEvent) : ResponseData α → Option (Payload α)
  | .noData => some (.info ⟨event.param, iResponseInfo.serial, iResponseInfo.error⟩)
  | .value data => some (.data data)
  | .shared data => data.map .data
  | .getDataFunc f | .setupDataCall _ f => some (.data (f request))

/-- `SetupDataCallResponse` delivers a generic failure that has a reason as data. -/
def ResponseData.reportsError (error : Int) : ResponseData α → Bool
  | .setupDataCall reason _ =>
    error ≠ ErrType.NONE ∧ ¬(error = ErrType.ERR_GENERIC_FAILURE ∧ reason ≠ 0)
  | _ => error ≠ ErrType.NONE

/-- From the end of `FindTelRilRequest` on. -/
def Response.deliver (response : Response α) (found : Option TelRilRequest) :
    Ret × Option (SentEvent α) :=
  match found with
  | none => (.argumentInvalid, none)
  | some request =>
    match request.pointer with
    | none => (.argumentInvalid, none)
    | some event =>
      let info := response.iResponseInfo
      if response.data.reportsError info.error then
        errorResponse destroyed accepted info.serial event info.error
      else
        match response.data.payload info request event with
        | none => (.localPtrNull, none)
        | some payload =>
          sendHandlerEvent destroyed accepted info.serial response.funcName event payload

/-- The template for shared pointers returns before it looks for the request. -/
def Response.isNull (response : Response α) : Bool :=
  match response.data with
  | .shared none => true
  | _ => false

variable {destroyed accepted serial}

theorem sendTelEvent_eq_some {handler : Option Nat} {eventId : Nat} {payload : Payload α}
    {sent : SentEvent α} (h : sendTelEvent accepted serial handler eventId payload = some sent) :
    sent.serial = serial ∧ handler = some sent.handler ∧ sent.eventId = eventId := by
  cases handler with
  | none => exact absurd h (by simp [sendTelEvent])
  | some handler =>
    obtain ⟨_, ⟨⟩⟩ := ite_none_right_eq_some.1 h
    exact ⟨rfl, rfl, rfl⟩

theorem Response.deliver_eq_some {response : Response α} {found : Option TelRilRequest}
    {ret : Ret} {sent : SentEvent α}
    (h : response.deliver destroyed accepted found = (ret, some sent)) :
    ∃ request event, found = some request ∧ request.pointer = some event ∧
      sent.serial = response.iResponseInfo.serial ∧ event.owner = some sent.handler ∧
      sent.eventId = event.innerEventId := by
  rcases found with _ | request
  · exact absurd h (by simp [Response.deliver])
  obtain ⟨_, _ | event⟩ := request
  · exact absurd h (by simp [Response.deliver])
  refine ⟨_, event, rfl, rfl, ?_⟩
  simp only [Response.deliver] at h
  have hsd : ∀ {payload : Payload α}, sendTelEvent accepted response.iResponseInfo.serial
      (event.getOwner destroyed) event.innerEventId payload = some sent →
      sent.serial = response.iResponseInfo.serial ∧ event.owner = some sent.handler ∧
        sent.eventId = event.innerEventId := by
    intro payload hsn
    obtain ⟨hsr, hhd, hid⟩ := sendTelEvent_eq_some hsn
    exact ⟨hsr, (filter_eq_some_iff.1 hhd).1, hid⟩
  split at h
  · -- `ErrorResponse`
    rw [errorResponse] at h
    split at h
    · cases h
    · rename_i handler hhd
      rw [← hhd] at h
      exact hsd (Prod.ext_iff.1 h).2
  · split at h
    · cases h
    · -- `SendHandlerEvent`
      simp only [sendHandlerEvent] at h
      split at h
      · cases h
      · rw [sendEventData] at h
        split at h
        · cases h
        · rename_i hsn
          obtain ⟨-, ⟨⟩⟩ := Prod.ext_iff.1 h
          exact hsd hsn

end Send

/-! ## The machine -/

structure TelRilBase where
  slotId : Int
  /-- `rilInterface_` is not null -/
  rilInterface : Bool
  whiteReqList : List String
deriving DecidableEq

/-- With the serial number it took. -/
inductive RequestPc where
  | getRilInterface
  | isNeedBlock
  /-- `GetNextSerialId`: the test, the reset and the increment -/
  | serialTest
  | serialReset
  | serialIncrement
  /-- the request is made and not yet in the map -/
  | insert (serialId : Int)
  | callModem (serialId : Int)
  | returned (serialId : Option Int) (ret : Ret)
deriving DecidableEq

structure Call where
  base : Nat
  funcName : String
  response : Option InnerEvent
  pc : RequestPc := .getRilInterface
deriving DecidableEq

def Call.serialId (call : Call) : Option Int :=
  match call.pc with
  | .insert serialId | .callModem serialId => some serialId
  | .returned serialId _ => serialId
  | _ => none

/-- The number of the request in the map. -/
def Call.inserted (call : Call) : Option Int :=
  match call.pc with
  | .callModem serialId => some serialId
  | .returned serialId _ => serialId
  | _ => none

/-- A call of `Response`, with the request it found once it has looked. -/
inductive ResponsePc where
  | find
  | send (found : Option TelRilRequest)
  | returned (ret : Ret)
deriving DecidableEq

def ResponsePc.taken : ResponsePc → List TelRilRequest
  | .send (some request) => [request]
  | _ => []

structure State (α : Type) where
  bases : List TelRilBase
  nextSerialId : Int := 1
  requestMap : List TelRilRequest := []
  /-- `GetDynamicPowerOffModeSwitchWithStr` -/
  powerOffMode : Bool := false
  destroyed : List Nat := []
  /-- every call of `Request` so far -/
  calls : List Call := []
  /-- every call of `Response` so far -/
  responses : List (Response α × ResponsePc) := []
  sent : List (SentEvent α) := []

inductive Label (α : Type) where
  | request (base : Nat) (funcName : String) (response : Option InnerEvent)
  /-- the next atomic step of a call; `modem` is what the modem interface returns -/
  | requestStep (i : Nat) (modem : Int)
  | response (response : Response α)
  | responseStep (k : Nat) (accepted : Bool)
  | resetRilInterface (base : Nat) (rilInterface : Bool)
  | setPowerOffMode (on : Bool)
  | destroy (handler : Nat)

section Step

variable {α : Type}

def isNeedBlockTelRilRequest (powerOffMode : Bool) (base : TelRilBase) (funcName : String) : Bool :=
  powerOffMode && !base.whiteReqList.contains funcName

def State.setPc (s : State α) (i : Nat) (call : Call) (pc : RequestPc) : State α :=
  { s with calls := s.calls.set i { call with pc } }

def State.requestStep (s : State α) (i : Nat) (call : Call) (base : TelRilBase) (modem : Int) :
    Option (State α) :=
  match call.pc with
  | .getRilInterface =>
    some (s.setPc i call (if base.rilInterface then .isNeedBlock else .returned none .localPtrNull))
  | .isNeedBlock =>
    some (s.setPc i call
      (if isNeedBlockTelRilRequest s.powerOffMode base call.funcName then
        .returned none .permissionErr
      else .serialTest))
  | .serialTest =>
    some (s.setPc i call (if s.nextSerialId ≥ INT32_MAX then .serialReset else .serialIncrement))
  | .serialReset => some { s.setPc i call .serialIncrement with nextSerialId := 1 }
  | .serialIncrement =>
    some { s.setPc i call (.insert s.nextSerialId) with
      nextSerialId := increment s.nextSerialId }
  | .insert serialId =>
    some { s.setPc i call (.callModem serialId) with
      requestMap := insertRequest s.requestMap ⟨serialId, call.response⟩ }
  | .callModem serialId => some (s.setPc i call (.returned (some serialId) (.code modem)))
  | .returned _ _ => none

def State.responseStep (s : State α) (k : Nat) (response : Response α) (accepted : Bool) :
    ResponsePc → Option (State α)
  | .find =>
    if response.isNull then
      some { s with responses := s.responses.set k (response, .returned .localPtrNull) }
    else
      let out := findTelRilRequest s.requestMap response.iResponseInfo.serial
      some { s with
        requestMap := out.2
        responses := s.responses.set k (response, .send out.1) }
  | .send found =>
    let out := response.deliver s.destroyed accepted found
    some { s with
      responses := s.responses.set k (response, .returned out.1)
      sent := out.2.toList ++ s.sent }
  | .returned _ => none

def step (s : State α) : Label α → Option (State α)
  | .request base funcName response =>
    if base < s.bases.length then
      some { s with calls := s.calls ++ [⟨base, funcName, response, .getRilInterface⟩] }
    else none
  | .requestStep i modem => do
    let call ← s.calls[i]?
    let base ← s.bases[call.base]?
    s.requestStep i call base modem
  | .response response => some { s with responses := s.responses ++ [(response, .find)] }
  | .responseStep k accepted => do
    let (response, pc) ← s.responses[k]?
    s.responseStep k response accepted pc
  | .resetRilInterface b rilInterface => do
    let base ← s.bases[b]?
    some { s with bases := s.bases.set b { base with rilInterface } }
  | .setPowerOffMode on => some { s with powerOffMode := on }
  | .destroy handler => some { s with destroyed := handler :: s.destroyed }

/-! ## What a step can do -/

inductive Step (s : State α) : State α → Prop
  | request (call : Call) (hpc : call.pc = .getRilInterface) :
    Step s { s with calls := s.calls ++ [call] }
  /-- the call goes on without a change of its serial number -/
  | advance (i : Nat) (call : Call) (pc : RequestPc) (hcall : s.calls[i]? = some call)
    (hserial : { call with pc }.serialId = call.serialId)
    (hinserted : call.inserted.isSome → { call with pc }.inserted = call.inserted)
    (hreset : pc = .serialReset → s.nextSerialId ≥ INT32_MAX) : Step s (s.setPc i call pc)
  | reset (i : Nat) (call : Call) (hcall : s.calls[i]? = some call) (hpc : call.pc = .serialReset) :
    Step s { s.setPc i call .serialIncrement with nextSerialId := 1 }
  | increment (i : Nat) (call : Call) (hcall : s.calls[i]? = some call)
    (hpc : call.pc = .serialIncrement) :
    Step s { s.setPc i call (.insert s.nextSerialId) with
      nextSerialId := increment s.nextSerialId }
  | insert (i : Nat) (call : Call) (serialId : Int) (hcall : s.calls[i]? = some call)
    (hpc : call.pc = .insert serialId) :
    Step s { s.setPc i call (.callModem serialId) with
      requestMap := insertRequest s.requestMap ⟨serialId, call.response⟩ }
  | response (response : Response α) :
    Step s { s with responses := s.responses ++ [(response, .find)] }
  | null (k : Nat) (response : Response α) (hresponse : s.responses[k]? = some (response, .find)) :
    Step s { s with responses := s.responses.set k (response, .returned .localPtrNull) }
  | find (k : Nat) (response : Response α) (hresponse : s.responses[k]? = some (response, .find)) :
    Step s { s with
      requestMap := (findTelRilRequest s.requestMap response.iResponseInfo.serial).2
      responses := s.responses.set k
        (response, .send (findTelRilRequest s.requestMap response.iResponseInfo.serial).1) }
  | send (k : Nat) (response : Response α) (found : Option TelRilRequest) (accepted : Bool)
    (hresponse : s.responses[k]? = some (response, .send found)) :
    Step s { s with
      responses := s.responses.set k
        (response, .returned (response.deliver s.destroyed accepted found).1)
      sent := (response.deliver s.destroyed accepted found).2.toList ++ s.sent }
  | other (bases : List TelRilBase) (powerOffMode : Bool) (destroyed : List Nat) :
    Step s { s with bases, powerOffMode, destroyed }

variable {s s' : State α} {call : Call}
  {i k : Nat} {l : Label α} {serial serialId : Int} {response : Response α}
  {found : Option TelRilRequest}

theorem requestStep_cases {base : TelRilBase} {modem : Int} (hc : s.calls[i]? = some call)
    (h : s.requestStep i call base modem = some s') : Step s s' := by
  obtain ⟨b, _, _, pc⟩ := call
  cases pc with
  | getRilInterface | isNeedBlock =>
    cases h
    split <;> exact .advance i _ _ hc rfl (by simp [Call.inserted]) (by simp)
  | serialTest =>
    cases h
    split
    next hm => exact .advance i _ _ hc rfl (by simp [Call.inserted]) (fun _ => hm)
    next => exact .advance i _ _ hc rfl (by simp [Call.inserted]) (by simp)
  | serialReset =>
    cases h
    exact .reset i _ hc rfl
  | serialIncrement =>
    cases h
    exact .increment i _ hc rfl
  | insert serialId =>
    cases h
    exact .insert i _ serialId hc rfl
  | callModem serialId =>
    cases h
    exact .advance i _ _ hc rfl (fun _ => rfl) (by simp)
  | returned serialId ret => exact absurd h (by simp [State.requestStep])

theorem step_cases (h : step s l = some s') : Step s s' := by
  cases l with
  | request base funcName response =>
    obtain ⟨_, ⟨⟩⟩ := ite_none_right_eq_some.1 h
    exact .request _ rfl
  | requestStep i modem =>
    obtain ⟨_, hc, h⟩ := bind_eq_some_iff.1 h
    obtain ⟨base, _, h⟩ := bind_eq_some_iff.1 h
    exact requestStep_cases hc h
  | response response =>
    cases h
    exact .response response
  | responseStep k accepted =>
    obtain ⟨⟨response, pc⟩, hr, h⟩ := bind_eq_some_iff.1 h
    cases pc with
    | find =>
      simp only [State.responseStep] at h
      split at h
      · cases h
        exact .null k response hr
      · cases h
        exact .find k response hr
    | send found =>
      cases h
      exact .send k response found accepted hr
    | returned ret => exact absurd h (by simp [State.responseStep])
  | resetRilInterface b rilInterface =>
    obtain ⟨base, _, h⟩ := bind_eq_some_iff.1 h
    cases h
    exact .other _ _ _
  | setPowerOffMode on | destroy handler =>
    cases h
    exact .other _ _ _

/-! ## Serial numbers -/

def Call.numbered (call : Call) : Bool := call.serialId.isSome

structure SerialInv (calls : List Call) (nextSerialId : Int) : Prop where
  next : nextSerialId = 1 + calls.countP Call.numbered
  below : ∀ call ∈ calls, ∀ n, call.serialId = some n → n < nextSerialId
  unique : ∀ (i j : Nat) (call call' : Call) (n : Int), calls[i]? = some call →
    calls[j]? = some call' → call.serialId = some n → call'.serialId = some n → i = j
  noReset : ∀ call ∈ calls, call.pc ≠ .serialReset

variable {calls : List Call} {next : Int}

theorem SerialInv.append (h : SerialInv calls next) (hpc : call.pc = .getRilInterface) :
    SerialInv (calls ++ [call]) next := by
  have hnn : call.serialId = none := by rw [Call.serialId, hpc]
  refine ⟨?_, ?_, ?_, ?_⟩
  · rw [countP_append, h.next]
    simp [Call.numbered, hnn]
  · intro other hot n hn
    rcases mem_concat.1 hot with hol | rfl
    · exact h.below other hol n hn
    · rw [hnn] at hn
      cases hn
  · intro i j first second n hi hj hf hs
    have hol : ∀ {k : Nat} {c : Call}, (calls ++ [call])[k]? = some c → c.serialId = some n →
        calls[k]? = some c := by
      intro k c hk hc
      rw [getElem?_append] at hk
      split at hk
      · exact hk
      · rw [mem_singleton.1 (mem_of_getElem? hk), hnn] at hc
        cases hc
    exact h.unique i j first second n (hol hi hf) (hol hj hs) hf hs
  · intro other hot
    rcases mem_concat.1 hot with hol | rfl
    · exact h.noReset other hol
    · rw [hpc]
      simp

def Numbered (call call' : Call) (next next' : Int) : Prop :=
  call'.serialId = call.serialId ∧ next' = next ∨
    call.serialId = none ∧ call'.serialId = some next ∧ next' = next + 1

variable {next' : Int} {call' : Call}

theorem SerialInv.next_set (h : SerialInv calls next) (hc : calls[i]? = some call)
    (hsr : Numbered call call' next next') :
    next' = 1 + (calls.set i call').countP Call.numbered := by
  obtain ⟨hl, hg⟩ := List.getElem?_eq_some_iff.1 hc
  have hp : call.numbered → 0 < calls.countP Call.numbered := fun hnm =>
    countP_pos_iff.2 ⟨call, mem_of_getElem? hc, hnm⟩
  have hnx := h.next
  rw [countP_set hl, hg]
  rcases hsr with ⟨hsm, hnx'⟩ | ⟨hnn, hso, hnx'⟩
  · have hnm : call'.numbered = call.numbered := by rw [Call.numbered, hsm, Call.numbered]
    rw [hnm]
    split
    next hh =>
      have := hp hh
      omega
    next => omega
  · simp only [Call.numbered, hnn, hso, isSome_none, isSome_some,
      Bool.false_eq_true, if_false, if_true]
    omega

variable {n : Int}

theorem SerialInv.serialId_set (h : SerialInv calls next) (hsr : Numbered call call' next next')
    {j : Nat} {other : Call} (hj : (calls.set i call')[j]? = some other)
    (hn : other.serialId = some n) :
    calls[j]? = some other ∧ n < next ∨
      j = i ∧ (call.serialId = some n ∨ n = next ∧ next' = next + 1) := by
  rw [getElem?_set] at hj
  split at hj
  next hij =>
    obtain ⟨_, ⟨⟩⟩ := ite_none_right_eq_some.1 hj
    refine .inr ⟨hij.symm, ?_⟩
    rcases hsr with ⟨hsm, _⟩ | ⟨_, hso, hnx⟩
    · exact .inl (hsm ▸ hn)
    · exact .inr ⟨some.inj (hn.symm.trans hso), hnx⟩
  next => exact .inl ⟨hj, h.below other (mem_of_getElem? hj) n hn⟩

theorem SerialInv.set (h : SerialInv calls next) (hc : calls[i]? = some call)
    (hsr : Numbered call call' next next') (hr : call'.pc ≠ .serialReset) :
    SerialInv (calls.set i call') next' where
  next := h.next_set hc hsr
  below := by
    intro other hot n hn
    obtain ⟨j, hj⟩ := getElem?_of_mem hot
    have hle : next ≤ next' := by
      rcases hsr with ⟨_, hnx⟩ | ⟨_, _, hnx⟩ <;> omega
    rcases h.serialId_set hsr hj hn with ⟨_, hlt⟩ | ⟨_, hol | hnw⟩
    · omega
    · have := h.below call (mem_of_getElem? hc) n hol
      omega
    · omega
  unique := by
    intro j k first second n hj hk hf hsc
    rcases h.serialId_set hsr hj hf with ⟨hol, hlt⟩ | ⟨rfl, hnw⟩
    · rcases h.serialId_set hsr hk hsc with ⟨hol', _⟩ | ⟨rfl, hnw' | heq⟩
      · exact h.unique j k first second n hol hol' hf hsc
      · exact h.unique j k first call n hol hc hf hnw'
      · omega
    · rcases h.serialId_set hsr hk hsc with ⟨hol', hlt⟩ | ⟨rfl, _⟩
      · rcases hnw with hnw | heq
        · exact h.unique j k call second n hc hol' hnw hsc
        · omega
      · rfl
  noReset := forall_mem_set h.noReset hr

theorem Call.serialId_of_inserted (h : call.inserted = some n) : call.serialId = some n := by
  obtain ⟨_, _, _, pc⟩ := call
  cases pc with
  | callModem | returned => exact h
  | _ => exact absurd h (by simp [Call.inserted])

theorem SerialInv.not_inserted (h : SerialInv calls next) (hc : calls[i]? = some call)
    (hpc : call.pc = .insert serialId) : ∀ other ∈ calls, other.inserted ≠ some serialId := by
  intro other ho hin
  obtain ⟨j, hj⟩ := getElem?_of_mem ho
  obtain rfl := h.unique i j call other serialId hc hj (by rw [Call.serialId, hpc])
    (Call.serialId_of_inserted hin)
  cases hc.symm.trans hj
  rw [Call.inserted, hpc] at hin
  cases hin

theorem SerialInv.lt_max (h : SerialInv calls next) (hc : calls.length < 2 ^ 31 - 2) :
    next < INT32_MAX := by
  have hle : calls.countP Call.numbered ≤ calls.length := countP_le_length
  rw [h.next, INT32_MAX]
  omega

/-! ## Custody of a request -/

/-- How often the request with the serial number is in the map, in the hands of a response, or
answered by an event. -/
def State.custody (s : State α) (n : Int) : Nat :=
  (s.requestMap.map TelRilRequest.serialId).count n +
    (s.responses.flatMap fun response => response.2.taken.map TelRilRequest.serialId).count n +
    (s.sent.map SentEvent.serial).count n

/-- A call entered the request into the map. -/
def State.Entered (s : State α) (request : TelRilRequest) : Prop :=
  ∃ call ∈ s.calls, call.inserted = some request.serialId ∧ call.response = request.pointer

/-- The event is that of a request that a call entered into the map. -/
def State.Owned (s : State α) (e : SentEvent α) : Prop :=
  ∃ event, s.Entered ⟨e.serial, some event⟩ ∧ event.owner = some e.handler ∧
    e.eventId = event.innerEventId

structure Inv (s : State α) : Prop where
  serial : SerialInv s.calls s.nextSerialId
  once : ∀ n, s.custody n ≤ 1
  map : ∀ request ∈ s.requestMap, s.Entered request
  taken : ∀ response ∈ s.responses, ∀ request ∈ response.2.taken,
    s.Entered request ∧ request.serialId = response.1.iResponseInfo.serial
  sent : ∀ e ∈ s.sent, s.Owned e

theorem Inv.custody_entered (h : Inv s) (hn : 0 < s.custody n) :
    ∃ call ∈ s.calls, call.inserted = some n := by
  rw [State.custody] at hn
  have hcs : 0 < (s.requestMap.map TelRilRequest.serialId).count n ∨
      0 < (s.responses.flatMap fun response =>
        response.2.taken.map TelRilRequest.serialId).count n ∨
      0 < (s.sent.map SentEvent.serial).count n := by omega
  rcases hcs with hmp | htk | hs
  · obtain ⟨request, hrq, rfl⟩ := mem_map.1 (count_pos_iff.1 hmp)
    obtain ⟨call, hcl, hin, _⟩ := h.map request hrq
    exact ⟨call, hcl, hin⟩
  · obtain ⟨response, hrs, hmm⟩ := mem_flatMap.1 (count_pos_iff.1 htk)
    obtain ⟨request, hrq, rfl⟩ := mem_map.1 hmm
    obtain ⟨⟨call, hcl, hin, _⟩, _⟩ := h.taken response hrs request hrq
    exact ⟨call, hcl, hin⟩
  · obtain ⟨e, he, rfl⟩ := mem_map.1 (count_pos_iff.1 hs)
    obtain ⟨_, ⟨call, hcl, hin, _⟩, _⟩ := h.sent e he
    exact ⟨call, hcl, hin⟩

theorem Inv.frame (h : Inv s) (hen : ∀ request, s.Entered request → s'.Entered request)
    (hsr : SerialInv s'.calls s'.nextSerialId) (hm : s'.requestMap = s.requestMap)
    (hrs : s'.responses = s.responses) (hsn : s'.sent = s.sent) : Inv s' where
  serial := hsr
  once := by
    intro n
    rw [State.custody, hm, hrs, hsn]
    exact h.once n
  map := by
    rw [hm]
    exact fun request hrq => hen request (h.map request hrq)
  taken := by
    rw [hrs]
    intro response hrp request hrq
    obtain ⟨hin, heq⟩ := h.taken response hrp request hrq
    exact ⟨hen request hin, heq⟩
  sent := by
    rw [hsn]
    intro e he
    obtain ⟨event, hin, hev⟩ := h.sent e he
    exact ⟨event, hen _ hin, hev⟩

theorem entered_set {request : TelRilRequest} (call' : Call) (hcl : s.calls[i]? = some call)
    (hcs : s'.calls = s.calls.set i call') (hrs : call'.response = call.response)
    (hins : call.inserted.isSome → call'.inserted = call.inserted) (h : s.Entered request) :
    s'.Entered request := by
  obtain ⟨other, ho, hin, hre⟩ := h
  rw [State.Entered, hcs]
  rcases eq_or_mem_set hcl call' ho with rfl | hs
  · refine ⟨call', mem_set_self call' hcl, ?_, hrs.trans hre⟩
    rw [hins (by rw [hin]; rfl), hin]
  · exact ⟨other, hs, hin, hre⟩

theorem Inv.request (h : Inv s) (hpc : call.pc = .getRilInterface) :
    Inv { s with calls := s.calls ++ [call] } := by
  refine h.frame ?_ (h.serial.append hpc) rfl rfl rfl
  rintro request ⟨other, ho, hin⟩
  exact ⟨other, mem_append_left _ ho, hin⟩

variable {request : TelRilRequest}

theorem Inv.insertRequest_eq (h : Inv s) (hc : s.calls[i]? = some call)
    (hpc : call.pc = .insert serialId) :
    insertRequest s.requestMap ⟨serialId, call.response⟩ =
      ⟨serialId, call.response⟩ :: s.requestMap := by
  rw [insertRequest, if_neg]
  intro hm
  obtain ⟨request, hr, rfl⟩ := mem_map.1 hm
  obtain ⟨other, ho, hin, -⟩ := h.map request hr
  exact h.serial.not_inserted hc hpc other ho hin

theorem Inv.insert (h : Inv s) (hc : s.calls[i]? = some call) (hpc : call.pc = .insert serialId) :
    Inv { s.setPc i call (.callModem serialId) with
      requestMap := insertRequest s.requestMap ⟨serialId, call.response⟩ } := by
  have hnm : call.serialId = some serialId := by rw [Call.serialId, hpc]
  have hnt : call.inserted = none := by rw [Call.inserted, hpc]
  have hf : s.custody serialId = 0 := by
    by_contra hh
    obtain ⟨other, hot, hin⟩ := h.custody_entered (Nat.pos_of_ne_zero hh)
    exact h.serial.not_inserted hc hpc other hot hin
  have hk : Inv (s.setPc i call (.callModem serialId)) :=
    h.frame (fun request hin =>
        entered_set { call with pc := .callModem serialId } hc rfl rfl (by simp [hnt]) hin)
      (h.serial.set hc (.inl ⟨hnm.symm, rfl⟩) (by simp)) rfl rfl rfl
  rw [h.insertRequest_eq hc hpc]
  exact { hk with
    once := by
      intro n
      have hn := h.once n
      by_cases hs : n = serialId
      · simp only [State.custody, State.setPc, map_cons, count_cons, hs,
          beq_self_eq_true, if_true] at hf ⊢
        omega
      · simp only [State.custody, map_cons, count_cons, beq_iff_eq, if_neg (Ne.symm hs)] at hn ⊢
        exact hn
    map := by
      intro request hr
      rcases mem_cons.1 hr with rfl | hol
      · exact ⟨{ call with pc := .callModem serialId }, mem_set_self _ hc, rfl, rfl⟩
      · exact hk.map request hol }

variable {requestMap : List TelRilRequest}

theorem Inv.respond (h : Inv s) {pc pc' : ResponsePc} {sent : List (SentEvent α)}
    (hrs : s.responses[k]? = some (response, pc))
    (hc : ∀ n, (requestMap.map TelRilRequest.serialId).count n +
      (pc'.taken.map TelRilRequest.serialId).count n + (sent.map SentEvent.serial).count n ≤
      (s.requestMap.map TelRilRequest.serialId).count n +
      (pc.taken.map TelRilRequest.serialId).count n + (s.sent.map SentEvent.serial).count n)
    (hm : ∀ request ∈ requestMap, request ∈ s.requestMap) (htk : ∀ request ∈ pc'.taken,
      s.Entered request ∧ request.serialId = response.iResponseInfo.serial)
    (hsn : ∀ e ∈ sent, s.Owned e) :
    Inv { s with requestMap, responses := s.responses.set k (response, pc'), sent } where
  serial := h.serial
  once := by
    intro n
    have hn := h.once n
    have hst := count_flatMap_set (fun response =>
      response.2.taken.map TelRilRequest.serialId) n (response, pc') hrs
    have hle := hc n
    simp only [State.custody] at hn hst ⊢
    omega
  map := fun request hrq => h.map request (hm request hrq)
  taken := forall_mem_set h.taken htk
  sent := hsn

theorem count_findTelRilRequest (serial n : Int)
    (hon : (requestMap.map TelRilRequest.serialId).count n ≤ 1) :
    ((findTelRilRequest requestMap serial).2.map TelRilRequest.serialId).count n +
      ((ResponsePc.send (findTelRilRequest requestMap serial).1).taken.map
        TelRilRequest.serialId).count n ≤ (requestMap.map TelRilRequest.serialId).count n := by
  rw [findTelRilRequest]
  cases hf : requestMap.find? (fun request => request.serialId = serial) with
  | none => simp [ResponsePc.taken]
  | some request =>
    have hsr : request.serialId = serial := by simpa using find?_some hf
    have hm := mem_of_find?_eq_some hf
    have hsb : (requestMap.filter fun other => other.serialId ≠ serial).Sublist requestMap :=
      filter_sublist
    by_cases hn : n = serial
    · have hg : ((requestMap.filter fun other => other.serialId ≠ serial).map
          TelRilRequest.serialId).count n = 0 := by
        rw [count_eq_zero]
        intro hin
        obtain ⟨other, hot, heq⟩ := mem_map.1 hin
        have := (mem_filter.1 hot).2
        simp only [decide_not, Bool.not_eq_true', decide_eq_false_iff_not] at this
        exact this (heq.trans hn)
      have hp : 0 < (requestMap.map TelRilRequest.serialId).count n :=
        count_pos_iff.2 (mem_map.2 ⟨request, hm, hsr.trans hn.symm⟩)
      simp only [ResponsePc.taken, map_cons, map_nil]
      have : [request.serialId].count n ≤ 1 := count_le_length
      omega
    · have hnn : [request.serialId].count n = 0 := by
        rw [count_eq_zero, mem_singleton, hsr]
        exact hn
      simp only [ResponsePc.taken, map_cons, map_nil, hnn]
      exact (hsb.map TelRilRequest.serialId).count_le n

theorem mem_findTelRilRequest :
    request ∈ (findTelRilRequest requestMap serial).2 ↔
      request ∈ requestMap ∧ request.serialId ≠ serial := by
  rw [findTelRilRequest]
  split
  · rename_i hnn
    have hne := find?_eq_none.1 hnn request
    simp only [decide_eq_true_eq] at hne
    exact ⟨fun h => ⟨h, hne h⟩, And.left⟩
  · simp

theorem found_findTelRilRequest (h : (findTelRilRequest requestMap serial).1 = some request) :
    request ∈ requestMap ∧ request.serialId = serial := by
  rw [findTelRilRequest] at h
  split at h
  · cases h
  · rename_i hf
    cases h
    exact ⟨mem_of_find?_eq_some hf, by simpa using find?_some hf⟩

theorem ResponsePc.mem_taken_send :
    request ∈ (ResponsePc.send found).taken ↔ found = some request := by
  cases found with
  | none => simp [ResponsePc.taken]
  | some other => simp [ResponsePc.taken, eq_comm]

theorem Inv.find (h : Inv s) (hrs : s.responses[k]? = some (response, .find)) :
    Inv { s with
      requestMap := (findTelRilRequest s.requestMap response.iResponseInfo.serial).2
      responses := s.responses.set k
        (response, .send (findTelRilRequest s.requestMap response.iResponseInfo.serial).1) } := by
  refine h.respond hrs ?_ (fun request h => (mem_findTelRilRequest.1 h).1) ?_ h.sent
  · intro n
    have ho : (s.requestMap.map TelRilRequest.serialId).count n ≤ 1 := by
      have hn := h.once n
      rw [State.custody] at hn
      omega
    have := count_findTelRilRequest response.iResponseInfo.serial n ho
    omega
  · intro request hrq
    obtain ⟨hm, hs⟩ := found_findTelRilRequest (ResponsePc.mem_taken_send.1 hrq)
    exact ⟨h.map request hm, hs⟩

theorem Inv.send (h : Inv s) (accepted : Bool)
    (hr : s.responses[k]? = some (response, .send found)) :
    Inv { s with
      responses := s.responses.set k
        (response, .returned (response.deliver s.destroyed accepted found).1)
      sent := (response.deliver s.destroyed accepted found).2.toList ++ s.sent } := by
  rcases hdl : response.deliver s.destroyed accepted found with ⟨_, _ | e⟩
  · exact h.respond hr (fun n => by simp [ResponsePc.taken]) (fun _ => id)
      (by simp [ResponsePc.taken]) h.sent
  obtain ⟨request, event, rfl, hp, hs, hon, hid⟩ := Response.deliver_eq_some hdl
  obtain ⟨_, hm⟩ := h.taken _ (mem_of_getElem? hr) request (by
    simp [ResponsePc.taken])
  refine h.respond hr ?_ (fun _ => id) (by simp [ResponsePc.taken]) ?_
  · intro n
    simp only [ResponsePc.taken, toList_some, singleton_append, map_cons, hs, hm, count_cons]
    omega
  · intro other hot
    rcases mem_cons.1 hot with rfl | hol
    · refine ⟨event, ?_, hon, hid⟩
      rwa [hs, ← hm, ← hp]
    · exact h.sent other hol

theorem Inv.step (h : Inv s) (hcn : s.calls.length < 2 ^ 31 - 2) (hst : step s l = some s') :
    Inv s' := by
  have hm := h.serial.lt_max hcn
  cases step_cases hst with
  | request call hpc => exact h.request hpc
  | advance i call pc hcl hsr hins hrt =>
    have hno : pc ≠ .serialReset := by
      intro hpc
      have := hrt hpc
      omega
    exact h.frame (fun request hin => entered_set { call with pc } hcl rfl rfl hins hin)
      (h.serial.set hcl (.inl ⟨hsr, rfl⟩) hno) rfl rfl rfl
  | reset i call hcl hpc =>
    exact absurd hpc (h.serial.noReset call (mem_of_getElem? hcl))
  | increment i call hcl hpc =>
    have hnn : call.serialId = none := by rw [Call.serialId, hpc]
    have hnt : call.inserted = none := by rw [Call.inserted, hpc]
    have hnx : increment s.nextSerialId = s.nextSerialId + 1 := by
      rw [increment, if_neg (by omega)]
    refine h.frame (fun request hin => entered_set { call with pc := .insert s.nextSerialId }
      hcl rfl rfl (by simp [hnt]) hin) ?_ rfl rfl rfl
    exact h.serial.set hcl (.inr ⟨hnn, rfl, hnx⟩) (by simp)
  | insert i call serialId hcl hpc => exact h.insert hcl hpc
  | response response =>
    have hcs : ∀ n, ({ s with responses := s.responses ++ [(response, .find)] } :
        State α).custody n = s.custody n := by
      intro n
      simp only [State.custody, count_flatMap_append
        (fun response => response.2.taken.map TelRilRequest.serialId)
        n s.responses (response, .find) rfl]
    refine ⟨h.serial, fun n => hcs n ▸ h.once n, h.map, ?_, h.sent⟩
    intro other hot request hrq
    rcases mem_concat.1 hot with hol | rfl
    · exact h.taken other hol request hrq
    · exact absurd hrq (by simp [ResponsePc.taken])
  | null k response hrs =>
    exact h.respond hrs (fun n => by simp [ResponsePc.taken]) (fun _ => id)
      (by simp [ResponsePc.taken]) h.sent
  | find k response hrs => exact h.find hrs
  | send k response found accepted hrs => exact h.send accepted hrs
  | other bases powerOffMode destroyed =>
    exact h.frame (fun request hin => hin) h.serial rfl rfl rfl

theorem calls_length_le (hs : step s l = some s') : s.calls.length ≤ s'.calls.length := by
  cases step_cases hs with
  | request call hpc => simp
  | advance | reset | increment | insert => simp [State.setPc]
  | response | null | find | send | other => exact Nat.le_refl _

theorem inv_init (bases : List TelRilBase) : Inv ({ bases } : State α) where
  serial := ⟨rfl, by simp, by simp, by simp⟩
  once := by simp [State.custody]
  map := by simp
  taken := by simp
  sent := by simp

theorem inv_run {bases : List TelRilBase} {ls : List (Label α)}
    (hr : runLabels step { bases } ls = some s) (hc : s.calls.length < 2 ^ 31 - 2) : Inv s := by
  have hs : ∀ {s s' : State α} {l : Label α}, (s.calls.length < 2 ^ 31 - 2 → Inv s) →
      step s l = some s' → s'.calls.length < 2 ^ 31 - 2 → Inv s' := by
    intro s s' l h hs hc
    have hb := Nat.lt_of_le_of_lt (calls_length_le hs) hc
    exact (h hb).step hb hs
  exact invariant_every_run hs ls (fun _ => inv_init bases) hr hc

/-- **Responses reach their own requester.** With fewer than `2 ^ 31 - 2` requests, the event sent
for a response goes to the owner and has the id of the event of the one request made with the
response's serial number, and no request gets two events. -/
theorem response_reaches_requester {bases : List TelRilBase} {ls : List (Label α)} {s : State α}
    (hrun : runLabels step { bases } ls = some s) (hcount : s.calls.length < 2 ^ 31 - 2) :
    (∀ e ∈ s.sent, ∃ (i : Nat) (call : Call) (event : InnerEvent), s.calls[i]? = some call ∧
      call.serialId = some e.serial ∧
      (∀ (j : Nat) (other : Call), s.calls[j]? = some other → other.serialId = some e.serial →
        j = i) ∧
      call.response = some event ∧ event.owner = some e.handler ∧
      event.innerEventId = e.eventId) ∧
    (s.sent.map SentEvent.serial).Nodup := by
  have h := inv_run hrun hcount
  refine ⟨?_, ?_⟩
  · intro e he
    obtain ⟨event, ⟨call, hcl, hin, hrs⟩, hon, hid⟩ := h.sent e he
    obtain ⟨i, hi⟩ := getElem?_of_mem hcl
    have hs := Call.serialId_of_inserted hin
    refine ⟨i, call, event, hi, hs, ?_, hrs, hon, hid.symm⟩
    intro j other hj hot
    exact h.serial.unique j i other call e.serial hj hi hot hs
  · rw [nodup_iff_count_le_one]
    intro n
    have hn := h.once n
    rw [State.custody] at hn
    omega

/-- One request to each of two slots, answered in the other order; the second one twice, and a
serial number that nobody has. -/
def crossedRun : List (Label Nat) :=
  List.flatten
    [[Label.request 0 "Dial" (some ⟨1, some 7, 0⟩), Label.request 1 "Hangup" (some ⟨2, some 8, 5⟩)],
      List.flatten (List.replicate 6 [Label.requestStep 0 0, Label.requestStep 1 (-1)]),
      [Label.response ⟨"HangupResponse", ⟨0, 2, 1⟩, .noData⟩,
        Label.response ⟨"DialResponse", ⟨0, 1, 0⟩, .shared (some 42)⟩,
        Label.response ⟨"HangupResponse", ⟨0, 2, 0⟩, .noData⟩,
        Label.response ⟨"HangupResponse", ⟨0, 9, 0⟩, .noData⟩],
      List.flatten ((List.range 4).map fun k => [Label.responseStep k true, Label.responseStep k true])]

theorem response_reaches_requester_crossed :
    ∃ s : State Nat, s.sent = [⟨1, 7, 1, .data 42⟩, ⟨2, 8, 2, .info ⟨5, 2, 1⟩⟩] ∧
      (∀ e ∈ s.sent, ∃ (i : Nat) (call : Call) (event : InnerEvent), s.calls[i]? = some call ∧
        call.serialId = some e.serial ∧
        (∀ (j : Nat) (other : Call), s.calls[j]? = some other → other.serialId = some e.serial →
          j = i) ∧
        call.response = some event ∧ event.owner = some e.handler ∧
        event.innerEventId = e.eventId) ∧
      (s.sent.map SentEvent.serial).Nodup := by
  obtain ⟨s, hr, hc, hs⟩ : ∃ s,
      runLabels step { bases := [⟨0, true, []⟩, ⟨1, true, []⟩] } crossedRun = some s ∧
        s.calls.length < 2 ^ 31 - 2 ∧
        s.sent = [⟨1, 7, 1, .data 42⟩, ⟨2, 8, 2, .info ⟨5, 2, 1⟩⟩] :=
    exists_run _ (by decide +kernel)
  exact ⟨s, hs, response_reaches_requester hr hc⟩

/-- **In every state the number of a request is in at most one place**: in the map, with a response
that took it out, or in a sent event, and only after a call entered it. No two calls have one
number. -/
theorem request_in_one_place {bases : List TelRilBase} {ls : List (Label α)} {s : State α}
    (hrun : runLabels step { bases } ls = some s) (hcount : s.calls.length < 2 ^ 31 - 2) :
    (∀ n, s.custody n ≤ 1) ∧ (∀ n, 0 < s.custody n → ∃ call ∈ s.calls, call.inserted = some n) ∧
      ∀ (i j : Nat) (call call' : Call) (n : Int), s.calls[i]? = some call →
        s.calls[j]? = some call' → call.serialId = some n → call'.serialId = some n → i = j := by
  have h := inv_run hrun hcount
  exact ⟨h.once, fun n hn => h.custody_entered hn, h.serial.unique⟩

theorem request_in_one_place_crossed :
    ∃ s : State Nat, s.calls.length = 2 ∧ s.custody 1 ≤ 1 ∧ s.custody 2 ≤ 1 := by
  obtain ⟨s, hr, hc⟩ : ∃ s,
      runLabels step { bases := [⟨0, true, []⟩, ⟨1, true, []⟩] } crossedRun = some s ∧
        s.calls.length = 2 := exists_run _ (by decide +kernel)
  obtain ⟨hon, -⟩ := request_in_one_place hr (by rw [hc]; decide)
  exact ⟨s, hc, hon 1, hon 2⟩

end Step

end TelephonyCore.Ril
