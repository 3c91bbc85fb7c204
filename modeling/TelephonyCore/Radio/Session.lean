import TelephonyCore.Radio.Controller
import Mathlib.Data.List.Perm.Subperm
import Mathlib.Tactic.Cases

/-!
# `RadioProtocolController`: sessions

The machine around the handlers: callers of `SetRadioProtocol`, a modem that answers the requests of
a session in any order and as late as it likes, a notification of every slot that was sent an
update, the timeout event, and answers to `GetRadioProtocol`. A handler is one step, and so is
`SetRadioProtocol` up to its wait. The modem answers a request at most once: a request waits in
`outstanding`, and an update also in `toNotify`, until it is answered.

A call returns when it finds `isCommunicating_` false, or when its wait of sixty seconds is over.
What it returns is whatever `communicationResponseResult_` is then.
-/

namespace TelephonyCore.Radio

/-- The messages that `communicatingSlotCount_` counts. -/
inductive Await where
  | check
  | notify
  | complete
deriving DecidableEq

/-- The request that a message is the answer to. -/
def Await.eventId : Await → EventId
  | .check => .CHECK_RADIO_PROTOCOL
  | .notify => .UPDATE_RADIO_PROTOCOL
  | .complete => .SET_RADIO_PROTOCOL_COMPLETE

/-- Requests sent and messages counted, with their outcome. -/
inductive Entry where
  | sent (request : Request)
  | received (kind : Await) (slotId : Nat) (ok : Bool)
deriving DecidableEq

structure Session where
  number : Nat := 0
  start : List RadioProtocol := []
  log : List Entry := []
deriving DecidableEq

structure Returned where
  result : Bool
  radioProtocol : List RadioProtocol
  session : Session
deriving DecidableEq

structure Call where
  session : Nat
  returned : Option Returned := none
deriving DecidableEq

structure State where
  controller : Controller
  outstanding : List Request := []
  toNotify : List Request := []
  session : Session := {}
  calls : List Call := []
deriving DecidableEq

def State.after (s : State) (c : Controller) (entries : List Entry) : State :=
  { s with
    controller := { c with outbox := [] }
    outstanding := s.outstanding ++ c.outbox
    toNotify := s.toNotify ++ c.outbox.filter (fun r => r.eventId = .UPDATE_RADIO_PROTOCOL)
    session := { s.session with log := s.session.log ++ (entries ++ c.outbox.map .sent) } }

def State.newSession (s : State) : State :=
  { s with
    session := ⟨s.session.number + 1, s.controller.radioProtocol, []⟩
    calls := s.calls ++ [{ session := s.session.number + 1 }] }

def State.returned (s : State) : Returned :=
  ⟨s.controller.communicationResponseResult, s.controller.radioProtocol, s.session⟩

inductive Label where
  | setRadioProtocol
  | answer (i : Nat) (answer : Answer)
  | notify (i : Nat) (radioProtocol : RadioProtocol)
  | timeout (sessionId : Int)
  | getRadioProtocol (radioProtocol : RadioProtocol)
  | returns (i : Nat) (waitTimeout : Bool)

/-- The answer to a request counts for the running session. -/
def Controller.countsAnswer (c : Controller) (r : Request) (a : Answer) : List Entry :=
  if c.isCommunicating && c.accepts a then
    match r.eventId with
    | .CHECK_RADIO_PROTOCOL => [.received .check r.slotId (a ≠ .error)]
    | .UPDATE_RADIO_PROTOCOL => []
    | .SET_RADIO_PROTOCOL_COMPLETE => [.received .complete r.slotId (a ≠ .error)]
  else []

def Controller.countsNotify (c : Controller) (r : Request) (p : RadioProtocol) : List Entry :=
  if c.isCommunicating && p.sessionId == c.sessionId then
    [.received .notify r.slotId (p.status ≠ .FAIL)]
  else []

/-! Nothing counts outside a session, nor does an answer that is refused. -/

variable {c : Controller}

theorem countsAnswer_of_idle (h : c.isCommunicating = false) (r : Request) (a : Answer) :
    c.countsAnswer r a = [] := by
  rw [Controller.countsAnswer, h]
  rfl

theorem countsAnswer_of_refused {a : Answer} (h : c.accepts a = false) (r : Request) :
    c.countsAnswer r a = [] := by
  simp [Controller.countsAnswer, h]

theorem countsNotify_of_idle (h : c.isCommunicating = false) (r : Request) (p : RadioProtocol) :
    c.countsNotify r p = [] := by
  rw [Controller.countsNotify, h]
  rfl

def step (s : State) : Label → Option State
  | .setRadioProtocol =>
    -- a call during a session returns false at once
    if s.controller.isCommunicating then some s
    else some (s.newSession.after s.controller.setRadioProtocol [])
  | .answer i a =>
    match s.outstanding[i]? with
    | none => none
    | some r =>
      some ({ s with outstanding := s.outstanding.eraseIdx i }.after
        (s.controller.processAnswer r.eventId a) (s.controller.countsAnswer r a))
  | .notify i p =>
    match s.toNotify[i]? with
    | none => none
    | some r =>
      some ({ s with toNotify := s.toNotify.eraseIdx i }.after
        (s.controller.processRadioProtocolNotify p) (s.controller.countsNotify r p))
  | .timeout sessionId =>
    if sessionId ∈ s.controller.timeouts then
      some (s.after
        ({ s.controller with
          timeouts := s.controller.timeouts.erase sessionId }.processSetRadioProtocolTimeout
          sessionId) [])
    else none
  | .getRadioProtocol p => some (s.after (s.controller.updateRadioProtocol p) [])
  | .returns i waitTimeout =>
    match s.calls[i]? with
    | none => none
    | some call =>
      if call.returned = none ∧ (s.controller.isCommunicating = false ∨ waitTimeout) then
        some { s with calls := s.calls.set i { call with returned := some s.returned } }
      else none

/-! ## What a step can do -/

inductive Stepped (s : State) : Label → State → Prop
  | refuse (hbusy : s.controller.isCommunicating = true) : Stepped s .setRadioProtocol s
  | begin (hidle : s.controller.isCommunicating = false) :
    Stepped s .setRadioProtocol (s.newSession.after s.controller.setRadioProtocol [])
  | answer {i : Nat} {r : Request} (a : Answer) (hget : s.outstanding[i]? = some r) :
    Stepped s (.answer i a) ({ s with outstanding := s.outstanding.eraseIdx i }.after
      (s.controller.processAnswer r.eventId a) (s.controller.countsAnswer r a))
  | notify {i : Nat} {r : Request} (p : RadioProtocol) (hget : s.toNotify[i]? = some r) :
    Stepped s (.notify i p) ({ s with toNotify := s.toNotify.eraseIdx i }.after
      (s.controller.processRadioProtocolNotify p) (s.controller.countsNotify r p))
  | timeout {sessionId : Int} (hmem : sessionId ∈ s.controller.timeouts) :
    Stepped s (.timeout sessionId) (s.after ({ s.controller with
      timeouts := s.controller.timeouts.erase sessionId }.processSetRadioProtocolTimeout
        sessionId) [])
  | getRadioProtocol (p : RadioProtocol) :
    Stepped s (.getRadioProtocol p) (s.after (s.controller.updateRadioProtocol p) [])
  | returns {i : Nat} {call : Call} {waitTimeout : Bool} (hget : s.calls[i]? = some call)
      (hfirst : call.returned = none)
      (hwhen : s.controller.isCommunicating = false ∨ waitTimeout = true) :
    Stepped s (.returns i waitTimeout)
      { s with calls := s.calls.set i { call with returned := some s.returned } }

theorem step_stepped {s s' : State} {l : Label} (h : step s l = some s') : Stepped s l s' := by
  cases l with
  | setRadioProtocol =>
    rw [step] at h
    split at h
    next hb =>
      cases h
      exact .refuse hb
    next hid =>
      cases h
      exact .begin (Bool.eq_false_of_not_eq_true hid)
  | answer i a =>
    rw [step] at h
    split at h
    next => cases h
    next r hg =>
      cases h
      exact .answer a hg
  | notify i p =>
    rw [step] at h
    split at h
    next => cases h
    next r hg =>
      cases h
      exact .notify p hg
  | timeout sessionId =>
    rw [step] at h
    split at h
    next hm =>
      cases h
      exact .timeout hm
    next => cases h
  | getRadioProtocol p =>
    cases h
    exact .getRadioProtocol p
  | returns i waitTimeout =>
    rw [step] at h
    split at h
    next => cases h
    next call hg =>
      split at h
      next hw =>
        cases h
        exact .returns hg hw.1 hw.2
      next => cases h

end TelephonyCore.Radio
