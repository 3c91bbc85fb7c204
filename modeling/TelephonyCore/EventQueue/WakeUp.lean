import TelephonyCore.EventQueue.Machine
import TelephonyCore.Lib.Slots

/-!
# `TelEventQueue`: does every queued event get its wake-up?

A queued event needs a pending task with the current queue id that starts in time. A `Submit` whose
event is not before `curHandleTime_` does nothing, on the ground that a task for that time is
under way.

That it is under way goes through four carriers (`Covered`): a pending task with the current id and
an early enough start; a `Submit` that will replace the id and submit under the new one; a thread
with the current id that has yet to read the lists; and one that has read them and got a time early
enough.

It breaks in the gap between reading the lists and `SubmitToFFRT`. A task body in that gap still
shows the time of its own, started task in `curHandleTime_`; a `Submit` for a time earlier than the
body has read compares with that and returns, and the body submits a task for the later time. There
are three smaller gaps: the clock may move on before `submit_h`; `SubmitInner` may find the lists
empty while `curHandleTime_` still stands for a cleared task; and an event at `TimePoint::max()`
never gets a task. `Label.Unraced` excludes the four.
-/

namespace TelephonyCore.EventQueue

open Lib List

/-! ## Who carries a wake-up -/

/-- The thread will submit a task for the lists as they are now, or as it has read them, unless the
queue id is replaced. -/
def Pc.Live (s : State) : Pc → Prop
  | .checkQueueId | .resetQueueId | .nextQueueId | .clearCurrentTask | .loadQueueId => True
  | .popEvent queueId | .getHandleTime queueId => queueId = s.queueId
  | .readClock queueId _ | .submitToFFRT queueId _ _ => queueId = s.queueId
  | .processEvent queueId _ isNeedSubmit => queueId = s.queueId ∧ isNeedSubmit = true
  | _ => False

instance (s : State) (pc : Pc) : Decidable (pc.Live s) := by
  unfold Pc.Live
  split <;> infer_instance

/-- The handle time `SubmitInner` has read and not yet submitted a task for. -/
def Pc.snapshot : Pc → Option Int
  | .readClock _ handleTime => some handleTime
  | .submitToFFRT _ handleTime _ => some handleTime
  | _ => none

def Pc.Carries (s : State) (time : Int) (pc : Pc) : Prop :=
  pc.Live s ∧ ∀ h ∈ pc.snapshot, h ≤ max s.now time

/-- A pending task with the current id starts in time. -/
def TaskBy (s : State) (time : Int) : Prop :=
  ∃ task ∈ s.pending, task.queueId = s.queueId ∧ task.startTime ≤ max s.now time

/-- Something under way ends in such a task. -/
def Covered (s : State) (time : Int) : Prop :=
  TaskBy s time ∨ ∃ t ∈ s.threads, t.pc.Carries s time

/-- As `Covered`, with any reading of the lists. -/
def Alive (s : State) (time : Int) : Prop :=
  TaskBy s time ∨ ∃ t ∈ s.threads, t.pc.Live s

/-! ## The condition -/

def Job.event : Job → Option Event
  | .submit event => event
  | .task => none

/-- No thread with the current id is about to submit a later task. -/
def NoneLater (s : State) (e : Event) : Prop :=
  ∀ t ∈ s.threads, t.pc.Live s →
    ∀ h ∈ t.pc.snapshot, h ≤ max s.now (max s.curHandleTime e.handleTime)

instance (s : State) (e : Event) : Decidable (NoneLater s e) := by
  unfold NoneLater
  infer_instance

def Pc.readsCur (curFirst : Bool) : Pc → Bool
  | .inserted => curFirst
  | .gotHandleTime _ => true
  | _ => false

/-- The state before the step of a thread is none of the gaps in which a thread acts. -/
def Thread.Unraced (s : State) (curFirst : Bool) (t : Thread) : Prop :=
  match t.pc with
  | .getHandleTime queueId =>
    queueId = s.queueId → s.queue.lists.isEmpty = true → s.curHandleTime = timePointMax
  | pc =>
    pc.readsCur curFirst = true → ∀ e ∈ t.job.event, e ∈ s.queue.lists.queued → NoneLater s e

instance (s : State) (curFirst : Bool) (t : Thread) : Decidable (t.Unraced s curFirst) := by
  unfold Thread.Unraced
  split <;> infer_instance

/-- The time for which the thread has computed a delay that it has not given to `submit_h`. -/
def Pc.delayedTo : Pc → Option Int
  | .submitToFFRT _ handleTime _ => some handleTime
  | _ => none

/-- None of the gaps. The clock stands still between its reading in `SubmitInner` and `submit_h`,
unless the time to wait for is already over. -/
def Label.Unraced (s : State) : Label → Prop
  | .tick _ => ∀ t ∈ s.threads, ∀ handleTime ∈ t.pc.delayedTo, handleTime ≤ s.now
  | .submit event _ => ∀ e ∈ event, e.handleTime < timePointMax
  | .thread i curFirst => ∀ t ∈ s.threads[i]?, t.Unraced s curFirst
  | _ => True

instance (s : State) : (l : Label) → Decidable (l.Unraced s)
  | .tick _ => inferInstanceAs (Decidable (∀ t ∈ _, _))
  | .submit .. => inferInstanceAs (Decidable (∀ e ∈ _, _))
  | .thread .. => inferInstanceAs (Decidable (∀ t ∈ _, _))
  | .removeEvent _ | .removeAllEvents | .start _ => .isTrue trivial

/-! ## The invariant -/

/-- The `Submit` of a queued event has not compared yet, and is not misled. -/
def Pc.Undecided (s : State) (e : Event) : Pc → Prop
  | .inserted => True
  | .gotHandleTime handleTime => handleTime ≤ max s.now e.handleTime
  | .gotCurHandleTime curHandleTime =>
    curHandleTime < timePointMax → Covered s (max curHandleTime e.handleTime)
  | _ => False

/-- The delay of a task about to be submitted is the one from now to its handle time. -/
def Pc.Measured (s : State) : Pc → Prop
  | .submitToFFRT _ handleTime delay => delay = delayTime handleTime s.now
  | _ => True

structure WakesUp (s : State) : Prop where
  lists : Inv s.queue
  delays : ∀ t ∈ s.threads, t.pc.Measured s
  finite : ∀ e ∈ s.queue.lists.queued, e.handleTime < timePointMax
  clock : s.now < timePointMax
  alive : s.curHandleTime < timePointMax → Alive s s.curHandleTime
  covered : ∀ e ∈ s.queue.lists.queued, Covered s e.handleTime ∨
    ∃ t ∈ s.threads, t.job.event = some e ∧ t.pc.Undecided s e

variable {s : State}

theorem WakesUp.readable (h : WakesUp s) : s.Readable := readable_of_finite h.finite

variable {e : Event} {handleTime : Int} {job : Job} {l : Label}

theorem WakesUp.getHandleTime_le (h : WakesUp s) (hr : s.getHandleTime = some handleTime)
    (he : e ∈ s.queue.lists.queued) : handleTime ≤ max s.now e.handleTime := by
  obtain ⟨t, ht, hle⟩ := getHandleTime_spec h.lists h.readable
  cases hr.symm.trans ht
  exact hle e he

theorem WakesUp.lt_max (h : WakesUp s) (he : e ∈ s.queue.lists.queued) :
    max s.now e.handleTime < timePointMax :=
  max_lt h.clock (h.finite e he)

/-! ## Carriers from one state to the next -/

variable {s' : State} {time time' : Int}

theorem TaskBy.mono (h : TaskBy s time) (hid : s'.queueId = s.queueId)
    (ht : max s.now time ≤ max s'.now time') (hp : s.pending ⊆ s'.pending) : TaskBy s' time' := by
  obtain ⟨task, hm, hq, hst⟩ := h
  exact ⟨task, hp hm, hq.trans hid.symm, le_trans hst ht⟩

variable {pc : Pc}

theorem Pc.Live.congr (h : pc.Live s) (hid : s'.queueId = s.queueId) : pc.Live s' := by
  unfold Pc.Live at h ⊢
  rw [hid]
  exact h

theorem Pc.Carries.mono (h : pc.Carries s time) (hid : s'.queueId = s.queueId)
    (htm : max s.now time ≤ max s'.now time') : pc.Carries s' time' :=
  ⟨h.1.congr hid, fun t ht => le_trans (h.2 t ht) htm⟩

theorem Covered.mono (h : Covered s time) (hid : s'.queueId = s.queueId)
    (htm : max s.now time ≤ max s'.now time') (hp : s.pending ⊆ s'.pending)
    (hth : s.threads ⊆ s'.threads) : Covered s' time' := by
  rcases h with hts | ⟨t, ht, hc⟩
  · exact .inl (hts.mono hid htm hp)
  · exact .inr ⟨t, hth ht, hc.mono hid htm⟩

theorem Alive.mono (h : Alive s time) (hid : s'.queueId = s.queueId) (hn : s.now ≤ s'.now)
    (hp : s.pending ⊆ s'.pending) (hth : s.threads ⊆ s'.threads) : Alive s' time := by
  rcases h with hts | ⟨t, ht, hl⟩
  · exact .inl (hts.mono hid (max_le_max hn (le_refl _)) hp)
  · exact .inr ⟨t, hth ht, hl.congr hid⟩

theorem Alive.covered (h : Alive s s.curHandleTime) (hn : NoneLater s e) :
    Covered s (max s.curHandleTime e.handleTime) := by
  rcases h with hts | ⟨t, ht, hl⟩
  · refine .inl (hts.mono rfl ?_ (.refl _))
    exact max_le_max (le_refl _) (le_max_left _ _)
  · exact .inr ⟨t, ht, hl, hn t ht hl⟩

/-! ## One step of a thread -/

variable {curFirst : Bool} {pc' : Pc}

theorem Advanced.carries_or_frame (h : Advanced s curFirst pc s' pc') :
    (∀ time, pc'.Carries s' time) ∨ (s'.queueId = s.queueId ∧ s.pending ⊆ s'.pending) := by
  cases h with
  | resetQueueId | nextQueueId | clearCurrentTask =>
    exact .inl (fun _ => ⟨trivial, by simp [Pc.snapshot]⟩)
  | submitToFFRT queueId handleTime delayTime =>
    right
    unfold State.submitToFFRT
    split
    · exact ⟨rfl, .refl _⟩
    · exact ⟨rfl, subset_append_left _ _⟩
  | _ => exact .inr ⟨rfl, .refl _⟩

/-- A task is not late: its delay, cut to microseconds, ends by the handle time. -/
theorem delayTime_le (handleTime now : Int) :
    now + 1000 * delayTime handleTime now ≤ max now handleTime := by
  unfold delayTime
  split <;> omega

theorem taskBy_submitToFFRT (hle : max s.now handleTime ≤ max s.now time) :
    TaskBy (s.submitToFFRT s.queueId handleTime (delayTime handleTime s.now)) time := by
  unfold State.submitToFFRT
  rw [if_neg (not_not.2 rfl)]
  refine ⟨_, mem_append_right _ (mem_singleton.2 rfl), rfl, ?_⟩
  exact le_trans (delayTime_le handleTime s.now) hle

theorem Advanced.measured (h : Advanced s curFirst pc s' pc') : pc'.Measured s' := by
  cases h with
  | readClock queueId handleTime => exact rfl
  | compareCurHandleTime handleTime | compareHandleTime curHandleTime hre =>
    unfold afterCompare
    split <;> trivial
  | checkQueueId | processEvent queueId event isNeedSubmit | getHandleTime queueId hre =>
    split <;> trivial
  | _ => trivial

theorem Pc.Measured.congr (h : pc.Measured s) (hn : s'.now = s.now) : pc.Measured s' := by
  unfold Pc.Measured at h ⊢
  rw [hn]
  exact h

theorem Stepped.measured (h : Stepped s l s') (hd : ∀ t ∈ s.threads, t.pc.Measured s)
    (hun : l.Unraced s) : ∀ t ∈ s'.threads, t.pc.Measured s' := by
  cases h with
  | tick hle hlt =>
    rintro ⟨job, pc⟩ ht
    have hm := hd _ ht
    have hdue := hun _ ht
    cases pc with
    | submitToFFRT queueId handleTime delay =>
      have hover := hdue handleTime rfl
      simp only [Pc.Measured, delayTime] at hm ⊢
      rw [if_neg (by omega)] at hm ⊢
      exact hm
    | _ => trivial
  | submit event priority | start hm htm => exact forall_mem_concat hd trivial
  | @thread i t curFirst s₁ pc hg had =>
    have hn : s₁.now = s.now := had.now_eq
    exact forall_mem_set (fun t ht => (hd t ht).congr hn) had.measured
  | _ => exact hd

/-- **The duty is handed on.** A carrier is still one after its step, or has submitted the task. -/
theorem Advanced.carries (h : Advanced s curFirst pc s' pc') (hw : WakesUp s)
    (hdl : pc.Measured s) (hc : pc.Carries s time)
    (he : e ∈ s.queue.lists.queued) (he' : e ∈ s'.queue.lists.queued) (hle : e.handleTime ≤ time) :
    pc'.Carries s' time ∨ TaskBy s' time := by
  obtain ⟨hlv, hs⟩ := hc
  cases h with
  | checkQueueId =>
    left
    split <;> exact ⟨trivial, by simp [Pc.snapshot]⟩
  | resetQueueId | nextQueueId | clearCurrentTask => exact .inl ⟨trivial, by simp [Pc.snapshot]⟩
  | loadQueueId => exact .inl ⟨rfl, by simp [Pc.snapshot]⟩
  | popNothing hgd =>
    rcases hgd with hem | hne
    · rw [EventLists.isEmpty_iff.1 hem] at he
      exact absurd he not_mem_nil
    · exact absurd hlv hne
  | popLast hne hp hem =>
    rw [EventLists.isEmpty_iff.1 hem] at he'
    exact absurd he' not_mem_nil
  | popNext hne hp hm => exact .inl ⟨⟨rfl, rfl⟩, by simp [Pc.snapshot]⟩
  | processEvent queueId event isNeedSubmit =>
    obtain ⟨hq, rfl⟩ := hlv
    exact .inl ⟨hq, by simp [Pc.snapshot]⟩
  | getHandleTime queueId hre =>
    have hrd := hw.getHandleTime_le hre he
    have hlt := hw.lt_max he
    rw [if_neg (by omega)]
    refine .inl ⟨hlv, fun t ht => ?_⟩
    cases ht
    exact le_trans hrd (max_le_max (le_refl _) hle)
  | readClock queueId handleTime => exact .inl ⟨hlv, hs⟩
  | submitToFFRT queueId handleTime delayTime =>
    obtain rfl : queueId = s.queueId := hlv
    obtain rfl := hdl
    refine .inr (taskBy_submitToFFRT ?_)
    exact max_le (le_max_left _ _) (hs handleTime rfl)
  | readCurHandleTime | readHandleTime hre | compareCurHandleTime handleTime
  | compareHandleTime curHandleTime hre | returned =>
    exact absurd hlv id

theorem Advanced.live (h : Advanced s curFirst pc s' pc') (hw : WakesUp s)
    (hun : Thread.Unraced s curFirst ⟨job, pc⟩) (hdl : pc.Measured s) (hlv : pc.Live s)
    (hc : s'.curHandleTime < timePointMax) : pc'.Live s' ∨ TaskBy s' s'.curHandleTime := by
  cases h with
  | checkQueueId =>
    left
    split <;> trivial
  | resetQueueId | nextQueueId | clearCurrentTask => exact .inl trivial
  | loadQueueId => exact .inl rfl
  | popNothing hgd | popLast hne hp hem => exact absurd hc (lt_irrefl _)
  | popNext hne hp hm => exact .inl ⟨rfl, rfl⟩
  | processEvent queueId event isNeedSubmit =>
    obtain ⟨hq, rfl⟩ := hlv
    exact .inl hq
  | getHandleTime queueId hre =>
    cases hq : s.queue.lists.queued with
    | nil =>
      rw [hun hlv (EventLists.isEmpty_iff.2 hq)] at hc
      exact absurd hc (lt_irrefl _)
    | cons e l =>
      have he : e ∈ s.queue.lists.queued := by
        rw [hq]
        exact mem_cons_self
      have hrd := hw.getHandleTime_le hre he
      have hlt := hw.lt_max he
      rw [if_neg (by omega)]
      exact .inl hlv
  | readClock queueId handleTime => exact .inl hlv
  | submitToFFRT queueId handleTime delayTime =>
    obtain rfl : queueId = s.queueId := hlv
    right
    have hc' : (s.submitToFFRT s.queueId handleTime delayTime).curHandleTime = handleTime := by
      unfold State.submitToFFRT
      rw [if_neg (not_not.2 rfl)]
    rw [hc']
    obtain rfl := hdl
    exact taskBy_submitToFFRT (le_refl _)
  | readCurHandleTime => exact absurd hlv id
  | readHandleTime hre => exact absurd hlv id
  | compareCurHandleTime handleTime => exact absurd hlv id
  | compareHandleTime curHandleTime hre => exact absurd hlv id
  | returned => exact absurd hlv id

theorem Advanced.cur_eq (h : Advanced s curFirst pc s' pc') (hl : ¬ pc.Live s)
    (hc : s'.curHandleTime < timePointMax) : s'.curHandleTime = s.curHandleTime := by
  cases h with
  | popNothing hgd => exact absurd hc (lt_irrefl _)
  | popLast hne hp he => exact absurd hc (lt_irrefl _)
  | clearCurrentTask => exact absurd trivial hl
  | submitToFFRT queueId handleTime delayTime =>
    unfold State.submitToFFRT at hc
    rw [if_pos (show queueId ≠ s.queueId from hl)] at hc
    exact absurd hc (lt_irrefl _)
  | _ => rfl

/-! ## One step of the machine -/

theorem start_carries {task task' : Task} (hm : task' ∈ s.pending)
    (hq : task'.queueId = s.queueId) (hst : task'.startTime ≤ max s.now time) :
    Covered { s with
      pending := s.pending.erase task
      threads := s.threads ++ [⟨.task, .popEvent task.queueId⟩] } time := by
  by_cases heq : task' = task
  · subst heq
    exact .inr ⟨_, mem_append_right _ (mem_singleton.2 rfl), hq, by simp [Pc.snapshot]⟩
  · exact .inl ⟨task', (mem_erase_of_ne heq).2 hm, hq, hst⟩

theorem Stepped.covered (h : Stepped s l s') (hw : WakesUp s) (hun : l.Unraced s)
    (he : e ∈ s.queue.lists.queued) (he' : e ∈ s'.queue.lists.queued) (hle : e.handleTime ≤ time)
    (hcv : Covered s time) : Covered s' time := by
  cases h with
  | tick hcl hlt =>
    exact hcv.mono rfl (max_le_max hcl (le_refl _)) (.refl _) (.refl _)
  | submit event priority =>
    exact hcv.mono rfl (le_refl _) (.refl _) (subset_append_left _ _)
  | removeEvent innerEventId | removeAllEvents =>
    exact hcv.mono rfl (le_refl _) (.refl _) (.refl _)
  | start hm htm =>
    rcases hcv with ⟨_, hm', hq, hst⟩ | ⟨t, ht, hcr⟩
    · exact start_carries hm' hq hst
    · exact .inr ⟨t, mem_append_left _ ht, hcr⟩
  | thread hg had =>
    rcases had.carries_or_frame with hcr | ⟨hid, hp⟩
    · exact .inr ⟨_, mem_set_self _ hg, hcr time⟩
    · have htm := le_of_eq (congrArg (max · time) had.now_eq.symm)
      rcases hcv with hts | ⟨t', ht', hcr⟩
      · exact .inl (hts.mono hid htm hp)
      · rcases eq_or_mem_set hg _ ht' with rfl | hm
        · rcases had.carries hw (hw.delays _ ht') hcr he he' hle with hcr' | hts
          · exact .inr ⟨_, mem_set_self _ hg, hcr'⟩
          · exact .inl hts
        · exact .inr ⟨t', hm, hcr.mono hid htm⟩
  | undefined hg had => exact absurd had (advance_isSome hw.lists (fun _ => hw.readable))

theorem Stepped.alive (h : Stepped s l s') (hw : WakesUp s) (hun : l.Unraced s)
    (hcr : s'.curHandleTime < timePointMax) : Alive s' s'.curHandleTime := by
  cases h with
  | tick hcl hlt =>
    exact (hw.alive hcr).mono rfl hcl (.refl _) (.refl _)
  | submit event priority =>
    exact (hw.alive hcr).mono rfl (le_refl _) (.refl _) (subset_append_left _ _)
  | removeEvent innerEventId =>
    split at hcr
    next => exact absurd hcr (lt_irrefl _)
    next hmr =>
      rw [if_neg hmr]
      exact (hw.alive hcr).mono rfl (le_refl _) (.refl _) (.refl _)
  | removeAllEvents => exact absurd hcr (lt_irrefl _)
  | start hmm htm =>
    rcases hw.alive hcr with ⟨_, hmm', hq, hst⟩ | ⟨t, ht, hlv⟩
    · rcases start_carries hmm' hq hst with hts | ⟨t, ht, hca⟩
      · exact .inl hts
      · exact .inr ⟨t, ht, hca.1⟩
    · exact .inr ⟨t, mem_append_left _ ht, hlv⟩
  | @thread i t curFirst s₁ pc hg had =>
    by_cases hlv : t.pc.Live s
    · rcases had.live hw (hun _ hg) (hw.delays t (mem_of_getElem? hg)) hlv hcr with hlv' | hts
      · exact .inr ⟨_, mem_set_self _ hg, hlv'⟩
      · exact .inl hts
    · have heq := had.cur_eq hlv hcr
      rcases had.carries_or_frame with hca | ⟨hid, hp⟩
      · exact .inr ⟨_, mem_set_self _ hg, (hca 0).1⟩
      · show Alive _ s₁.curHandleTime
        rw [heq] at hcr ⊢
        rcases hw.alive hcr with hts | ⟨t', ht', hlv'⟩
        · exact .inl (hts.mono hid (le_of_eq (congrArg (max · _) had.now_eq.symm)) hp)
        · rcases eq_or_mem_set hg _ ht' with rfl | hmm
          · exact absurd hlv' hlv
          · exact .inr ⟨t', hmm, hlv'.congr hid⟩
  | undefined hg had => exact absurd had (advance_isSome hw.lists (fun _ => hw.readable))

/-- The `Submit` of a queued event stays undecided, goes on to submit a task, or returns and
something else covers the event. -/
theorem Advanced.undecided (h : Advanced s curFirst pc s' pc') (hw : WakesUp s)
    (hun : Thread.Unraced s curFirst ⟨job, pc⟩) (hj : job.event = some e)
    (he : e ∈ s.queue.lists.queued) (hud : pc.Undecided s e) :
    (∀ time, pc'.Carries s' time) ∨ Covered s e.handleTime ∨ (s' = s ∧ pc'.Undecided s e) := by
  have hb := hw.lt_max he
  -- a handle time the comparison can use, not before a time that is covered
  have hrt : ∀ {handleTime curHandleTime : Int}, handleTime ≤ max s.now e.handleTime →
      (curHandleTime < timePointMax → Covered s (max curHandleTime e.handleTime)) →
      (∀ time, (afterCompare handleTime curHandleTime).Carries s time) ∨
        Covered s e.handleTime := by
    intro handleTime curHandleTime hh hcv
    unfold afterCompare
    by_cases hlt : handleTime < curHandleTime
    · rw [if_pos hlt]
      exact .inl (fun _ => ⟨trivial, by simp [Pc.snapshot]⟩)
    · right
      refine (hcv (by omega)).mono rfl ?_ (.refl _) (.refl _)
      omega
  cases h with
  | readCurHandleTime =>
    refine .inr (.inr ⟨rfl, fun hcr => ?_⟩)
    exact (hw.alive hcr).covered (hun rfl e hj he)
  | readHandleTime hrd => exact .inr (.inr ⟨rfl, hw.getHandleTime_le hrd he⟩)
  | compareCurHandleTime handleTime =>
    refine (hrt hud (fun hcr => ?_)).imp_right .inl
    exact (hw.alive hcr).covered (hun rfl e hj he)
  | compareHandleTime curHandleTime hrd =>
    exact (hrt (hw.getHandleTime_le hrd he) hud).imp_right .inl
  | _ => exact absurd hud id

theorem Pc.Undecided.step (h : pc.Undecided s e) (hn : s.now ≤ s'.now)
    (hs : ∀ time, e.handleTime ≤ time → Covered s time → Covered s' time) : pc.Undecided s' e := by
  cases pc with
  | inserted => trivial
  | gotHandleTime handleTime => exact le_trans h (max_le_max hn (le_refl _))
  | gotCurHandleTime curHandleTime => exact fun hc => hs _ (le_max_right _ _) (h hc)
  | _ => exact absurd h id

theorem Stepped.undecided {t : Thread} (h : Stepped s l s') (hw : WakesUp s) (hun : l.Unraced s)
    (he : e ∈ s.queue.lists.queued) (ht : t ∈ s.threads) (hj : t.job.event = some e)
    (hud : t.pc.Undecided s e)
    (hsp : ∀ time, e.handleTime ≤ time → Covered s time → Covered s' time) :
    Covered s' e.handleTime ∨ ∃ t ∈ s'.threads, t.job.event = some e ∧ t.pc.Undecided s' e := by
  have hst : t ∈ s'.threads → ∃ t ∈ s'.threads, t.job.event = some e ∧ t.pc.Undecided s' e :=
    fun hm => ⟨t, hm, hj, hud.step h.now_le hsp⟩
  cases h with
  | submit event priority | start hm htm => exact .inr (hst (mem_append_left _ ht))
  | thread hg had =>
    rcases eq_or_mem_set hg _ ht with rfl | hm
    · rcases had.undecided hw (hun _ hg) hj he hud with hcr | hcv | ⟨rfl, hud'⟩
      · exact .inl (.inr ⟨_, mem_set_self _ hg, hcr _⟩)
      · exact .inl (hsp _ (le_refl _) hcv)
      · exact .inr ⟨_, mem_set_self _ hg, hj, hud'.step (le_refl _) hsp⟩
    · exact .inr (hst hm)
  | _ => exact .inr (hst ht)

theorem Stepped.wakesUp (h : Stepped s l s') (hw : WakesUp s) (hun : l.Unraced s) : WakesUp s' := by
  have hdf : l.Defined s := by
    cases l with
    | thread i curFirst => exact fun _ _ _ => hw.readable
    | _ => trivial
  refine ⟨h.inv hw.lists hdf, h.measured hw.delays hun, ?_, ?_, h.alive hw hun, ?_⟩
  · intro e he
    rcases h.queued_cases he with ho | ⟨event, priority, rfl, rfl⟩
    · exact hw.finite e ho
    · exact hun event rfl
  · cases h with
    | tick hle hlt => exact hlt
    | thread hg had => exact lt_of_eq_of_lt had.now_eq hw.clock
    | _ => exact hw.clock
  · intro e he'
    rcases h.queued_cases he' with he | ⟨event, priority, rfl, rfl⟩
    · have hs : ∀ time, e.handleTime ≤ time → Covered s time → Covered s' time :=
        fun _ hle hc => h.covered hw hun he he' hle hc
      rcases hw.covered e he with hc | ⟨t, ht, hj, hud⟩
      · exact .inl (hs _ (le_refl _) hc)
      · exact h.undecided hw hun he ht hj hud hs
    · -- the new event is undecided with its `Submit`
      right
      cases h
      exact ⟨_, mem_append_right _ (mem_singleton.2 rfl), rfl, trivial⟩

/-! ## Whole runs -/

theorem wakesUp_init {now : Int} (hn : now < timePointMax) : WakesUp (.init now) where
  lists := inv_init
  delays := fun _ ht => absurd ht not_mem_nil
  finite := fun _ he => absurd he not_mem_nil
  clock := hn
  alive := fun h => absurd h (lt_irrefl _)
  covered := fun _ he => absurd he not_mem_nil

/-- The queued events have a pending task with the current queue id that starts in time. -/
def State.WokenInTime (s : State) : Prop :=
  s.queue.lists.queued ≠ [] →
    ∃ task ∈ s.pending, task.queueId = s.queueId ∧
      ∀ e ∈ s.queue.lists.queued, task.startTime ≤ max s.now e.handleTime

theorem WakesUp.wokenInTime (h : WakesUp s) (hqt : s.Quiet) : s.WokenInTime := by
  intro hne
  obtain ⟨first, hf⟩ := exists_mem_of_ne_nil _ hne
  obtain ⟨e, he, hmn⟩ := s.queue.lists.queued.toFinset.exists_min_image Event.handleTime
    ⟨first, mem_toFinset.2 hf⟩
  -- nobody is left who could be live or undecided
  rcases h.covered e (mem_toFinset.1 he) with
    (⟨task, hmm, hq, hst⟩ | ⟨t, ht, hl, -⟩) | ⟨t, ht, -, hu⟩
  · refine ⟨task, hmm, hq, fun e' he' => le_trans hst ?_⟩
    exact max_le_max (le_refl _) (hmn e' (mem_toFinset.2 he'))
  · rw [hqt t ht] at hl
    exact absurd hl id
  · rw [hqt t ht] at hu
    exact absurd hu id

/-- **No wake-up is lost** in a run of unraced steps, whenever no `Submit` and no task body is in
progress. -/
theorem no_lost_wakeUp (now : Int) (hnow : now < timePointMax) (ls : List Label) (s : State)
    (hrun : runLabels step (State.init now) ls = some s)
    (hunraced : StepsMeet step (fun s l => l.Unraced s) (State.init now) ls)
    (hquiet : s.Quiet) : s.queue.undefinedRead = false ∧ s.WokenInTime := by
  have hw := invariant_run (fun hw hun hs => (step_stepped hs).wakesUp hw hun)
    ls (wakesUp_init hnow) hunraced hrun
  exact ⟨hw.lists.defined, hw.wokenInTime hquiet⟩

/-! ## Two runs -/

instance (s : State) : Decidable s.Quiet := inferInstanceAs (Decidable (∀ t ∈ s.threads, _))

instance (s : State) : Decidable s.WokenInTime := by
  unfold State.WokenInTime
  infer_instance

theorem firstSecond_le : (1000000000 : Int) ≤ timePointMax := by decide

theorem hundredthSecond_le : (100000000000 : Int) ≤ timePointMax := by decide

/-- Events for the first and the hundredth second; the first task has read the lists. -/
def bodyHasRead : List Label :=
  [Label.submit (some ⟨1, 1000000000, true, 0, firstSecond_le⟩) .other] ++
    List.replicate 9 (Label.thread 0 false) ++
    [Label.submit (some ⟨2, 100000000000, true, 0, hundredthSecond_le⟩) .other] ++
    List.replicate 2 (Label.thread 1 false) ++
    [Label.tick 1000000000, Label.start ⟨0, 1, 1000000000⟩] ++ List.replicate 3 (Label.thread 2 false)

def thenSubmit : List Label :=
  bodyHasRead ++ List.replicate 2 (Label.thread 2 false) ++
    [Label.submit (some ⟨3, 2000000000, true, 0, by decide⟩) .other] ++
    List.replicate 9 (Label.thread 3 true)

def submitInBetween : List Label :=
  bodyHasRead ++ [Label.submit (some ⟨3, 2000000000, true, 0, by decide⟩) .other] ++
    List.replicate 2 (Label.thread 3 true) ++ List.replicate 2 (Label.thread 2 false)

theorem no_lost_wakeUp_thenSubmit :
    ∃ s, runLabels step (State.init 0) thenSubmit = some s ∧
      s.queue.lists.queued.map Event.innerEventId = [3, 2] ∧ s.WokenInTime := by
  refine ⟨_, rfl, by decide, ?_⟩
  exact (no_lost_wakeUp 0 (by decide) thenSubmit _ rfl (by decide) (by decide)).2

/-- The event for the second second is left with a task for the hundredth. -/
theorem submit_in_gap_loses_wakeUp :
    ∃ s, runLabels step (State.init 0) submitInBetween = some s ∧ s.Quiet ∧
      s.queue.undefinedRead = false ∧ s.now = 1000000000 ∧
      s.queue.lists.queued.map Event.handleTime = [2000000000, 100000000000] ∧
      s.pending.map Task.startTime = [100000000000] ∧ ¬ s.WokenInTime := by
  refine ⟨_, rfl, by decide, by decide, by decide, by decide, by decide, by decide⟩

end TelephonyCore.EventQueue
