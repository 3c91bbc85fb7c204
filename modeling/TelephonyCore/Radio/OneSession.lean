import TelephonyCore.Radio.Invariant

/-!
# `RadioProtocolController`: the run of one session

A session goes on until the controller is idle again; while no other one is started, its number and
its log stay what they are then, whatever the modem still sends.
-/

namespace TelephonyCore.Radio

open Controller Lib List

variable {s s' : State} {c : Controller} {l : Label} {session : Session}

/-- A call while a session runs is refused. -/
def Label.StartsNone (s : State) : Label → Prop
  | .setRadioProtocol => s.controller.isCommunicating = true
  | _ => True

instance (s : State) (l : Label) : Decidable (l.StartsNone s) := by
  unfold Label.StartsNone
  split <;> infer_instance

instance (s : State) (r : Request) (a : Answer) : Decidable (s.Owns r a) := by
  unfold State.Owns
  infer_instance

instance (s : State) : (l : Label) → Decidable (l.Isolated s)
  | .answer _ _ => inferInstanceAs (Decidable (∀ r ∈ _, s.Owns r _))
  | .notify _ _ => inferInstanceAs (Decidable (∀ _ ∈ _, _ → _))
  | .setRadioProtocol | .timeout _ | .getRadioProtocol _ | .returns .. => .isTrue trivial

/-! ## After the session -/

structure EndedWith (session : Session) (s : State) : Prop extends Ended s.controller where
  session : s.session = session

theorem after_endedWith (hs : s.session = session) (h : Ended c) :
    EndedWith session (s.after c []) := by
  refine ⟨{ h with outbox := rfl }, ?_⟩
  unfold State.after
  rw [h.outbox, hs]
  simp

theorem Ended.processAnswer (h : Ended c) (eventId : EventId) (a : Answer) :
    Ended (c.processAnswer eventId a) := by
  have hn : Ended (c.noted a) := { h with }
  rw [processAnswer_eq]
  split
  · split
    · exact hn.countDown _
    · exact h
  · exact hn

theorem Ended.processRadioProtocolNotify (h : Ended c) (n : RadioProtocol) :
    Ended (c.processRadioProtocolNotify n) := by
  have hn : Ended (c.notified n) := by
    obtain ⟨_, -, heq⟩ := notified_eq c n
    rw [heq]
    exact { h with }
  rw [processRadioProtocolNotify_eq]
  split
  · exact h
  · exact hn.countDown _

theorem Stepped.endedWith (h : Stepped s l s') (hen : EndedWith session s)
    (ho : l.StartsNone s) : EndedWith session s' := by
  obtain ⟨hen, rfl⟩ := hen
  cases h with
  | refuse hb | returns hg hf hw => exact ⟨hen, rfl⟩
  | begin hid => cases hid.symm.trans ho
  | @answer i r a hg =>
    rw [countsAnswer_of_idle hen.communicating]
    exact after_endedWith (by rfl) (hen.processAnswer r.eventId a)
  | @notify i r n hg =>
    rw [countsNotify_of_idle hen.communicating]
    exact after_endedWith (by rfl) (hen.processRadioProtocolNotify n)
  | timeout hm =>
    rw [hen.timeouts] at hm
    cases hm
  | getRadioProtocol n =>
    obtain ⟨_, -, heq⟩ := updateRadioProtocol_eq s.controller n
    rw [heq]
    exact after_endedWith rfl { hen with }

end TelephonyCore.Radio
