import TelephonyCore.Radio.Invariant

/-!
# `RadioProtocolController`: late answers

A session that ends by its timeout leaves requests behind, and their answers may come when another
session runs. The handlers compare the session id of an answer with the current one. But
`ProcessResponseInfoOfEvent` looks for an error first, and an error has no session id: it sets the
failure flag and counts as an answer of the running session, which then fails
(`late_error_spoils_session`).

So late messages are without effect unless one is an error, other than to an update with the flag
already set.
-/

namespace TelephonyCore.Radio

open Controller Lib

def State.Late (s : State) (r : Request) : Prop :=
  ¬ (s.controller.isCommunicating = true ∧ r.protocol.sessionId = s.controller.sessionId)

instance (s : State) (r : Request) : Decidable (s.Late r) := inferInstanceAs (Decidable (¬ _))

def Label.request (s : State) : Label → Option Request
  | .answer i _ => s.outstanding[i]?
  | .notify i _ => s.toNotify[i]?
  | _ => none

/-- The step is no late error, or one that finds the flag set and is not counted. -/
def Label.Harmless (s : State) : Label → Prop
  | .answer i .error => ∀ r ∈ s.outstanding[i]?, s.Late r →
      r.eventId = .UPDATE_RADIO_PROTOCOL ∧ s.controller.communicationFailed = true
  | _ => True

instance (s : State) (l : Label) : Decidable (l.Harmless s) := by
  unfold Label.Harmless
  split <;> infer_instance

instance (r : Request) (a : Answer) : Decidable (a.Echoes r) := by
  unfold Answer.Echoes
  split <;> infer_instance

instance (s : State) (l : Label) : Decidable (l.Echoes s) := by
  unfold Label.Echoes
  split <;> infer_instance

/-- As its vectors have it. -/
def Controller.phase (c : Controller) : List RadioProtocolPhase :=
  c.oldRadioProtocol.map RadioProtocol.phase

/-- A step leaves the session and what is stored alone. -/
structure Unaffected (c c' : Controller) : Prop where
  count : c'.communicatingSlotCount = c.communicatingSlotCount
  failed : c'.communicationFailed = c.communicationFailed
  phase : c'.phase = c.phase
  stored : c'.radioProtocol = c.radioProtocol
  communicating : c'.isCommunicating = c.isCommunicating
  result : c'.communicationResponseResult = c.communicationResponseResult

variable {s : State} {r : Request} {i : Nat} {c : Controller}

theorem Label.Harmless.isolated {l : Label} (hec : l.Echoes s) (h : l.Harmless s) :
    l.Isolated s := by
  cases l with
  | answer i a =>
    intro r hr ha hev hrn
    by_contra hid
    by_cases her : a = .error
    · subst her
      exact hev (h r hr (fun ho => hid ho.2)).1
    · rw [accepts_eq_false her (hec r hr) hid] at ha
      cases ha
  | notify i n => exact fun r hr hn => (hec r hr).symm.trans hn
  | _ => trivial

theorem Inv.late_id (h : Inv s) (kind : Await) (hm : r ∈ s.pool kind)
    (hev : r.eventId = kind.eventId) (hl : s.Late r) :
    r.protocol.sessionId ≠ s.controller.sessionId := by
  intro hid
  have hc : s.controller.isCommunicating = false :=
    Bool.eq_false_of_not_eq_true (fun hc => hl ⟨hc, hid⟩)
  exact (h.idle hc).not_owes kind hm ⟨hev, hid⟩

/-! ## Late messages without error -/

theorem Inv.late_answer (h : Inv s) {a : Answer} (hg : s.outstanding[i]? = some r)
    (hl : s.Late r) (her : a ≠ .error) (hec : a.Echoes r) :
    s.controller.processAnswer r.eventId a = s.controller := by
  rw [processAnswer_eq]
  cases hk : r.eventId.kind with
  | none => exact noted_of_ne her
  | some kind =>
    have hm : r ∈ s.pool kind := by
      rw [pool_of_kind hk]
      exact List.mem_of_getElem? hg
    have hid := h.late_id kind hm (kind_owes hk rfl).1 hl
    rw [accepts_eq_false her hec hid]
    rfl

theorem Inv.late_notify (h : Inv s) {n : RadioProtocol} (hg : s.toNotify[i]? = some r)
    (hl : s.Late r) (he : n.sessionId = r.protocol.sessionId) :
    s.controller.processRadioProtocolNotify n = s.controller := by
  have hm := List.mem_of_getElem? hg
  have hid := h.late_id .notify hm (h.updates r hm) hl
  rw [processRadioProtocolNotify_eq, if_pos (he ▸ hid)]

/-! ## Late errors -/

theorem send_count (c : Controller) (l : List RadioProtocol) (eventId : EventId) :
    (c.sendRadioProtocolEvent l eventId).communicatingSlotCount = c.communicatingSlotCount := by
  unfold sendRadioProtocolEvent
  split
  · rfl
  · split <;> rfl

theorem executeUpdate_count (c : Controller) :
    c.executeUpdateCommunication.communicatingSlotCount = c.slotCount := by
  unfold executeUpdateCommunication
  obtain ⟨_, _, heq⟩ := build_eq c .UPDATE .NONE
  rw [heq, send_count]
  rfl

theorem executeComplete_count (c : Controller) :
    c.executeCompleteCommunication.communicatingSlotCount = c.slotCount := by
  unfold executeCompleteCommunication
  obtain ⟨_, _, heq⟩ := build_eq c .COMPLETE (if c.communicationFailed then .FAIL else .SUCCESS)
  rw [heq, send_count]
  rfl

theorem countDown_count (hsl : c.slotCount = 2) (kind : Await) :
    (c.countDown kind.next).communicatingSlotCount ≠ c.communicatingSlotCount := by
  unfold countDown
  dsimp only
  split
  · dsimp only
    omega
  next hz =>
    have ho : c.communicatingSlotCount = 1 := by omega
    rw [ho]
    cases kind with
    | check =>
      unfold Await.next
      dsimp only
      split
      · rw [executeComplete_count]
        show c.slotCount ≠ 1
        omega
      · rw [executeUpdate_count]
        show c.slotCount ≠ 1
        omega
    | notify =>
      show (executeCompleteCommunication _).communicatingSlotCount ≠ 1
      rw [executeComplete_count]
      show c.slotCount ≠ 1
      omega
    | complete =>
      show (1 : Int) - 1 ≠ 1
      omega

theorem noted_of_failed (h : c.communicationFailed) (a : Answer) : c.noted a = c := by
  unfold Controller.noted
  rw [h, Bool.true_or, ← h]

theorem error_affects (hsl : c.slotCount = 2) {eventId : EventId}
    (h : Unaffected c { c.processAnswer eventId .error with outbox := [] }) :
    eventId = .UPDATE_RADIO_PROTOCOL ∧ c.communicationFailed := by
  rw [processAnswer_eq] at h
  cases hk : eventId.kind with
  | none =>
    rw [hk] at h
    refine ⟨eventId_of_kind_none hk, ?_⟩
    have hf : (c.noted .error).communicationFailed = c.communicationFailed := h.failed
    rw [← hf]
    simp [Controller.noted]
  | some kind =>
    rw [hk] at h
    exact absurd h.count (countDown_count (c := c.noted .error) hsl kind)

/-! ## Every run -/

/-- A session that ends by its timeout, and another one. -/
def secondSession : List Label :=
  [.setRadioProtocol, .timeout 1, .returns 0 false, .setRadioProtocol]

end TelephonyCore.Radio
