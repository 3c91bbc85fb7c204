import TelephonyCore.Radio.OneSession

/-!
# `RadioProtocolController`: what `radioProtocol_` holds

`radioProtocol_` is written by the notifications of a session, one slot at a time and in the middle
of it. As long as a successful notification reports what was sent to its slot, and no answer to
`GetRadioProtocol` comes in between, what is stored can be read off the session: a slot that has
notified success has the technology and the modem of the other slot, and a slot that has not has its
own (`Content`).
-/

namespace TelephonyCore.Radio

open Controller List

def RadioProtocol.setting (p : RadioProtocol) : Int × Int := (p.technology, p.modemId)

/-- Technology and modem of every slot. -/
def settings (l : List RadioProtocol) : List (Int × Int) := l.map RadioProtocol.setting

def Session.notified (session : Session) (i : Nat) : Bool :=
  decide (.received .notify i true ∈ session.log)

/-- What `radioProtocol_` should hold by the log of the session. -/
def Session.expected (session : Session) : List (Int × Int) :=
  (settings session.start).mapIdx (fun i x =>
    if session.notified i then (settings session.start).reverse.getD i x else x)

def Content (s : State) : Prop := settings s.controller.radioProtocol = s.session.expected

variable {session : Session} {p q : RadioProtocol}

theorem expected_pair (h : session.start = [p, q]) :
    session.expected = [if session.notified 0 then q.setting else p.setting,
        if session.notified 1 then p.setting else q.setting] := by
  simp [Session.expected, settings, h]

theorem expected_of_none (h : ∀ i, session.notified i = false) :
    session.expected = settings session.start := by
  unfold Session.expected
  apply ext_getElem?
  intro i
  simp [h]

theorem expected_of_succeeded (h : session.Succeeded) :
    session.expected = (settings session.start).reverse := by
  obtain ⟨k, p, q, _, _, _, hst, -, hys, -, hl⟩ := h
  have hn : ∀ i ∈ [0, 1], session.notified i := by
    intro i hi
    refine decide_eq_true ?_
    rw [hl]
    refine mem_append_left _ (mem_append_right _ ?_)
    refine mem_append_right _ ?_
    simpa using hys.mem_iff.2 hi
  rw [expected_pair hst, hn 0 (by simp), hn 1 (by simp), hst]
  rfl

/-! ## Steps that notify nothing -/

def Entry.notifies : Entry → Bool
  | .received .notify _ ok => ok
  | _ => false

def NoNotified (entries : List Entry) : Prop := ∀ e ∈ entries, e.notifies = false

instance (entries : List Entry) : Decidable (NoNotified entries) :=
  inferInstanceAs (Decidable (∀ e ∈ entries, e.notifies = false))

variable {entries : List Entry}

theorem NoNotified.not_mem (h : NoNotified entries) (i : Nat) :
    .received .notify i true ∉ entries := by
  intro hi
  exact absurd (h _ hi) (by simp [Entry.notifies])

theorem NoNotified.notified (h : NoNotified session.log) (i : Nat) : session.notified i = false :=
  decide_eq_false (h.not_mem i)

theorem noNotified_nil : NoNotified [] := by
  intro e he
  cases he

theorem noNotified_sent (rs : List Request) : NoNotified (rs.map .sent) := by
  intro e he
  obtain ⟨r, -, rfl⟩ := mem_map.1 he
  rfl

theorem NoNotified.append {entries' : List Entry} (h : NoNotified entries)
    (h' : NoNotified entries') : NoNotified (entries ++ entries') := by
  intro e he
  rcases mem_append.1 he with he | he
  · exact h e he
  · exact h' e he

theorem noNotified_answer (c : Controller) (r : Request) (a : Answer) :
    NoNotified (c.countsAnswer r a) := by
  unfold Controller.countsAnswer NoNotified
  split
  · cases r.eventId <;> simp [Entry.notifies]
  · simp

theorem notified_after (s : State) (c : Controller) (h : NoNotified entries) (i : Nat) :
    (s.after c entries).session.notified i = s.session.notified i := by
  have hn := (h.append (noNotified_sent c.outbox)).not_mem i
  refine decide_eq_decide.2 ?_
  show _ ∈ s.session.log ++ (entries ++ c.outbox.map .sent) ↔ _
  rw [mem_append]
  exact or_iff_left hn

theorem expected_congr {session' : Session} (hst : session'.start = session.start)
    (hn : ∀ i, session'.notified i = session.notified i) :
    session'.expected = session.expected := by
  unfold Session.expected
  rw [hst]
  simp only [hn]

variable {s s₁ : State} {c : Controller} {status : RadioProtocolStatus} {r : Request} {i : Nat}

theorem Content.after (h : Content s) (hss : s₁.session = s.session)
    (hst : c.radioProtocol = s.controller.radioProtocol) (hen : NoNotified entries) :
    Content (s₁.after c entries) := by
  have hep : (s₁.after c entries).session.expected = s.session.expected := by
    refine expected_congr ?_ (fun i => ?_)
    · show s₁.session.start = s.session.start
      rw [hss]
    · rw [notified_after s₁ c hen, hss]
  show settings c.radioProtocol = _
  rw [hep, hst]
  exact h

/-! ## A notification -/

/-- A successful notification reports what was sent to the slot. -/
def RadioProtocol.Reports (n : RadioProtocol) (r : Request) : Prop :=
  n.status ≠ .FAIL → n.slotId = r.slotId ∧ n.sessionId = r.protocol.sessionId ∧
    n.technology = r.protocol.technology ∧ n.modemId = r.protocol.modemId

instance (n : RadioProtocol) (r : Request) : Decidable (n.Reports r) :=
  inferInstanceAs (Decidable (_ → _))

def Label.Reports (s : State) : Label → Prop
  | .notify i n => ∀ r ∈ s.toNotify[i]?, n.Reports r
  | _ => True

def Label.NoGet : Label → Prop
  | .getRadioProtocol _ => False
  | _ => True

theorem mem_updates {k : Int} (h : r ∈ Await.notify.requests k status p q) :
    (r.slotId = 0 ∧ r.protocol.setting = q.setting) ∨
      (r.slotId = 1 ∧ r.protocol.setting = p.setting) := by
  simp only [Await.requests, requestsTo, pairOf, zipIdx_cons, zipIdx_nil,
    map_cons, map_nil, mem_cons, not_mem_nil, or_false] at h
  rcases h with rfl | rfl
  · exact .inl ⟨rfl, rfl⟩
  · exact .inr ⟨rfl, rfl⟩

theorem Active.mem_updates {pre : List Entry} {done : List (Nat × Bool)}
    (h : Active s .notify status p q pre done) (hev : r.eventId = .UPDATE_RADIO_PROTOCOL)
    (hs : .sent r ∈ s.session.log) : (r.slotId = 0 ∧ r.protocol.setting = q.setting) ∨
      (r.slotId = 1 ∧ r.protocol.setting = p.setting) := by
  rw [h.log] at hs
  rcases mem_append.1 hs with hs | hs
  · -- before this phase only checks were sent
    obtain ⟨-, _, -, rfl⟩ := h.before
    have hc := (mem_requests (mem_of_sent hs)).1
    rw [hev] at hc
    cases hc
  · exact Radio.mem_updates (mem_of_sent hs)

variable {n : RadioProtocol}

theorem settings_updateRadioProtocol (hs : n.slotId = i) (hlt : i < c.radioProtocol.length) :
    settings (c.updateRadioProtocol n).radioProtocol =
      (settings c.radioProtocol).set i n.setting := by
  unfold updateRadioProtocol
  rw [if_pos (by omega)]
  apply ext_getElem?
  intro j
  simp only [settings, hs]
  by_cases hj : i = j
  · subst hj
    simp [hlt, RadioProtocol.setting]
  · simp [hj]

theorem notified_received (s : State) (c : Controller) (i j : Nat) :
    (s.after c [.received .notify i true]).session.notified j =
      (s.session.notified j || decide (j = i)) := by
  unfold Session.notified
  rw [← Bool.decide_or]
  refine decide_eq_decide.2 ?_
  show _ ∈ s.session.log ++ ([.received .notify i true] ++ c.outbox.map .sent) ↔ _
  simp

theorem Content.notified (h : Content s) (hst : s.session.start = [p, q])
    (hss : s₁.session = s.session) (ht : s.controller.radioProtocol.length = 2)
    (hu : (r.slotId = 0 ∧ r.protocol.setting = q.setting) ∨
      (r.slotId = 1 ∧ r.protocol.setting = p.setting)) (hsl : n.slotId = r.slotId)
    (hse : n.setting = r.protocol.setting)
    (hso : c.radioProtocol = (s.controller.updateRadioProtocol n).radioProtocol) :
    Content (s₁.after c [.received .notify r.slotId true]) := by
  have hst' : (s₁.after c [.received .notify r.slotId true]).session.start = [p, q] :=
    (congrArg Session.start hss).trans hst
  have hlt : r.slotId < s.controller.radioProtocol.length := by omega
  show settings c.radioProtocol = _
  rw [hso, settings_updateRadioProtocol hsl hlt, hse, h, expected_pair hst,
    expected_pair hst', notified_received, notified_received, hss]
  rcases hu with ⟨hz, hot⟩ | ⟨hon, hot⟩
  · rw [hz, hot]
    simp
  · rw [hon, hot]
    simp

/-! ## One step -/

theorem timeout_stored (c : Controller) (k : Int) :
    (c.processSetRadioProtocolTimeout k).radioProtocol = c.radioProtocol := by
  unfold processSetRadioProtocolTimeout
  split
  · rfl
  · exact (executeComplete_frame _).1

theorem Content.notify (h : Content s) (hin : Inv s) (hg : s.toNotify[i]? = some r)
    (hon : n.sessionId = s.controller.sessionId →
      r.protocol.sessionId = s.controller.sessionId) (hr : n.Reports r) :
    Content ({ s with toNotify := s.toNotify.eraseIdx i }.after
      (s.controller.processRadioProtocolNotify n) (s.controller.countsNotify r n)) := by
  rw [processRadioProtocolNotify_eq]
  unfold Controller.countsNotify
  by_cases hid : n.sessionId = s.controller.sessionId
  · have hme := mem_of_getElem? hg
    have hos := hin.notify_owes hg (hon hid)
    rcases hin.mode with hmd | ⟨_, status, p, q, _, _, hmd⟩
    · exact absurd hos (hmd.not_owes .notify hme)
    obtain rfl := hmd.kind_eq .notify hme hos
    have hfr := (countDown_frame .notify (s.controller.notified n)).1
    rw [if_neg (not_not.2 hid), hid, hmd.running.communicating, beq_self_eq_true,
      Bool.and_self, if_pos rfl]
    by_cases hfl : n.status = .FAIL
    · refine h.after rfl (hfr.trans ?_) ?_
      · unfold Controller.notified
        rw [if_pos hfl]
      · intro e he
        obtain rfl := mem_singleton.1 he
        simp [Entry.notifies, hfl]
    · obtain ⟨hsl, -, ht, hmm⟩ := hr hfl
      have hsn := hin.logged r hme (hon hid)
      rw [show decide (n.status ≠ .FAIL) = true from decide_eq_true hfl]
      refine h.notified hmd.start rfl hin.two (hmd.mem_updates hos.1 hsn) hsl
        (Prod.ext ht hmm) (hfr.trans ?_)
      unfold Controller.notified
      rw [if_neg hfl]
  · rw [if_pos hid, beq_false_of_ne hid, Bool.and_false, if_neg (by simp)]
    exact h.after rfl rfl noNotified_nil

/-- **What is stored** follows the log in every step of a session. -/
theorem Stepped.content {s' : State} {l : Label} (hs : Stepped s l s') (hin : Inv s)
    (hio : l.Isolated s) (hr : l.Reports s) (hn : l.NoGet) (ho : l.StartsNone s)
    (h : Content s) : Content s' := by
  cases hs with
  | refuse hb => exact h
  | begin hid => cases hid.symm.trans ho
  | @answer i r a hg =>
    exact h.after rfl (processAnswer_frame s.controller r.eventId a).1
      (noNotified_answer s.controller r a)
  | notify n hg => exact h.notify hin hg (hio _ hg) (hr _ hg)
  | timeout hm =>
    refine h.after rfl ?_ noNotified_nil
    exact timeout_stored _ _
  | getRadioProtocol n => exact absurd hn id
  | returns hg hf hw => exact h

theorem begin_log (s : State) : NoNotified (s.newSession.after
    s.controller.setRadioProtocol []).session.log := by
  show NoNotified ([] ++ ([] ++ s.controller.setRadioProtocol.outbox.map .sent))
  exact noNotified_sent _

theorem setRadioProtocol_stored (c : Controller) :
    c.setRadioProtocol.radioProtocol = c.radioProtocol := by
  unfold Controller.setRadioProtocol executeCheckCommunication
  rw [(send_frame ..).1]
  exact (build_frame ..).1

theorem begin_content (s : State) :
    Content (s.newSession.after s.controller.setRadioProtocol []) := by
  unfold Content
  rw [expected_of_none (begin_log s).notified]
  show settings s.controller.setRadioProtocol.radioProtocol = settings s.controller.radioProtocol
  rw [setRadioProtocol_stored]

end TelephonyCore.Radio
