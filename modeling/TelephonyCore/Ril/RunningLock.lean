import TelephonyCore.Ril.Requests
import Mathlib.Data.List.Perm.Subperm

/-!
# The running lock of requests to the modem

`TelRilHandler` keeps the device awake while the modem has requests to answer. A request enters its
serial number into `reqSerialSet_`, takes `reqRunningLock_` and sends a delayed event
(`ApplyRunningLock`). An answer takes the number out again, and the last one releases the lock
(`ReduceRunningLock`); so does the delayed event when its request is still the latest one
(`ReleaseRunningLock`).

A set with one element is emptied whichever number is to be taken out, so that the delayed event of
a request answered long ago, or an answer after the delayed event of its request, releases the lock
under another request (`lock_released_early`). And the event compares its number with the latest one
before it takes the mutex. `OwnNumber` excludes both.
-/

namespace TelephonyCore.Ril.RunningLock

open Lib List

/-! ## The handler -/

/-- `RUNNING_LOCK_DEFAULT_TIMEOUT_MS` -/
def TIMEOUT : Nat := 60000

structure TelRilHandler where
  reqLockSerialNum : Int := 0
  /-- a `std::set` -/
  reqSerialSet : List Int := []
  /-- `reqRunningLock_->IsUsed()` -/
  reqRunningLock : Bool := false
deriving DecidableEq

namespace TelRilHandler

/-- For `NORMAL_RUNNING_LOCK`, without the event. -/
def applyRunningLock (handler : TelRilHandler) (serialId : Int) : TelRilHandler where
  reqLockSerialNum := serialId
  reqSerialSet :=
    if serialId ∈ handler.reqSerialSet then handler.reqSerialSet
    else serialId :: handler.reqSerialSet
  reqRunningLock := true

/-- And what `ReduceRunningLock` does with a set of one. -/
def releaseRunningLock (handler : TelRilHandler) : TelRilHandler :=
  { handler with reqSerialSet := [], reqRunningLock := false }

def reduceRunningLock (handler : TelRilHandler) (serialId : Int) : TelRilHandler :=
  if handler.reqSerialSet.length > 1 then
    { handler with reqSerialSet := handler.reqSerialSet.filter (· ≠ serialId) }
  else handler.releaseRunningLock

end TelRilHandler

/-! ## The machine -/

structure Request where
  serialId : Int
  created : Nat
  answered : Bool := false
deriving DecidableEq

/-- A `RUNNING_LOCK_TIMEOUT_EVENT_ID` on its way. -/
structure TimeoutEvent where
  serial : Int
  due : Nat
deriving DecidableEq

structure State where
  /-- in milliseconds -/
  now : Nat := 0
  nextSerialId : Int := 1
  /-- numbers of requests that are about to be entered -/
  taken : List Int := []
  requestMap : List TelRilRequest := []
  handler : TelRilHandler := {}
  events : List TimeoutEvent := []
  /-- the event `ProcessEvent` is at, and whether its number was the latest -/
  processing : Option (TimeoutEvent × Bool) := none
  requests : List Request := []
deriving DecidableEq

inductive Label where
  | tick (ms : Nat)
  | getNextSerialId
  /-- `CreateTelRilRequest` from `requestLock_` on -/
  | create (serialId : Int)
  | respond (serial : Int)
  /-- `ProcessEvent` takes an event and compares its number -/
  | timeout (k : Nat)
  /-- `ProcessEvent` releases or reduces -/
  | process

def State.create (s : State) (serialId : Int) : State :=
  { s with
    taken := s.taken.erase serialId
    requestMap := insertRequest s.requestMap ⟨serialId, none⟩
    handler := s.handler.applyRunningLock serialId
    events := s.events ++ [⟨serialId, s.now + TIMEOUT⟩]
    requests := s.requests ++ [⟨serialId, s.now, false⟩] }

def Request.respond (serial : Int) (request : Request) : Request :=
  if request.serialId = serial then { request with answered := true } else request

def State.respond (s : State) (serial : Int) : State :=
  { s with
    requestMap := (findTelRilRequest s.requestMap serial).2
    handler := s.handler.reduceRunningLock serial
    requests := s.requests.map (Request.respond serial) }

def step (s : State) : Label → Option State
  | .tick ms => some { s with now := s.now + ms }
  | .getNextSerialId =>
    -- the test and the reset, then the increment
    let nextSerialId := if s.nextSerialId ≥ INT32_MAX then 1 else s.nextSerialId
    some { s with nextSerialId := increment nextSerialId, taken := s.taken ++ [nextSerialId] }
  | .create serialId => if serialId ∈ s.taken then some (s.create serialId) else none
  | .respond serial =>
    if (findTelRilRequest s.requestMap serial).1.isSome then some (s.respond serial) else none
  | .timeout k =>
    match s.processing, s.events[k]? with
    | none, some event =>
      if event.due ≤ s.now then
        some { s with
          events := s.events.eraseIdx k
          processing := some (event, event.serial = s.handler.reqLockSerialNum) }
      else none
    | _, _ => none
  | .process => do
    let (event, latest) ← s.processing
    some { s with
      handler :=
        if latest then s.handler.releaseRunningLock else s.handler.reduceRunningLock event.serial
      processing := none }

/-! ## What a step can do -/

inductive Step (s : State) : Label → State → Prop
  | tick (ms : Nat) : Step s (.tick ms) { s with now := s.now + ms }
  | getNextSerialId :
    Step s .getNextSerialId
      { s with
        nextSerialId := increment (if s.nextSerialId ≥ INT32_MAX then 1 else s.nextSerialId)
        taken := s.taken ++ [if s.nextSerialId ≥ INT32_MAX then 1 else s.nextSerialId] }
  | create (serialId : Int) (htaken : serialId ∈ s.taken) :
    Step s (.create serialId) (s.create serialId)
  | respond (serial : Int) : Step s (.respond serial) (s.respond serial)
  | timeout (k : Nat) (event : TimeoutEvent) (hevent : s.events[k]? = some event)
    (hdue : event.due ≤ s.now) :
    Step s (.timeout k)
      { s with
        events := s.events.eraseIdx k
        processing := some (event, event.serial = s.handler.reqLockSerialNum) }
  | release (event : TimeoutEvent) (hprocessing : s.processing = some (event, true)) :
    Step s .process { s with handler := s.handler.releaseRunningLock, processing := none }
  | reduce (event : TimeoutEvent) (hprocessing : s.processing = some (event, false)) :
    Step s .process
      { s with handler := s.handler.reduceRunningLock event.serial, processing := none }

variable {s s' : State} {l : Label} {other serialId : Int} {handler : TelRilHandler}
  {event : TimeoutEvent}

theorem step_cases (h : step s l = some s') : Step s l s' := by
  cases l with
  | tick ms =>
    cases h
    exact .tick ms
  | getNextSerialId =>
    cases h
    exact .getNextSerialId
  | create serialId =>
    obtain ⟨htk, ⟨⟩⟩ := Option.ite_none_right_eq_some.1 h
    exact .create serialId htk
  | respond serial =>
    obtain ⟨-, ⟨⟩⟩ := Option.ite_none_right_eq_some.1 h
    exact .respond serial
  | timeout k =>
    simp only [step] at h
    split at h
    next event hid hev =>
      obtain ⟨hdu, ⟨⟩⟩ := Option.ite_none_right_eq_some.1 h
      exact .timeout k event hev hdu
    next => cases h
  | process =>
    obtain ⟨⟨event, latest⟩, hp, h⟩ := Option.bind_eq_some_iff.1 h
    cases h
    cases latest with
    | true => exact .release event hp
    | false => exact .reduce event hp

/-! ## Numbers that are not reused -/

/-- A set of one is reduced by its own number only; an event releases the lock while its number is
the latest; the counter does not start over. -/
def OwnNumber (s : State) : Label → Prop
  | .getNextSerialId => s.nextSerialId < INT32_MAX
  | .respond serial => s.handler.reqSerialSet.length = 1 → serial ∈ s.handler.reqSerialSet
  | .process =>
    ∀ p ∈ s.processing,
      if p.2 then p.1.serial = s.handler.reqLockSerialNum
      else s.handler.reqSerialSet.length = 1 → p.1.serial ∈ s.handler.reqSerialSet
  | _ => True

instance (s : State) (l : Label) : Decidable (OwnNumber s l) := by
  unfold OwnNumber
  split <;> infer_instance

def State.numbers (s : State) : List Int := s.taken ++ s.requests.map Request.serialId

structure Numbered (s : State) : Prop where
  below : ∀ serial ∈ s.numbers, serial < s.nextSerialId
  nodup : s.numbers.Nodup

@[simp] theorem respond_serialId (serial : Int) (request : Request) :
    (request.respond serial).serialId = request.serialId := by
  unfold Request.respond
  split <;> rfl

@[simp] theorem respond_created (serial : Int) (request : Request) :
    (request.respond serial).created = request.created := by
  unfold Request.respond
  split <;> rfl

theorem map_respond_serialId (serial : Int) (requests : List Request) :
    (requests.map (Request.respond serial)).map Request.serialId
      = requests.map Request.serialId := by
  rw [map_map]
  exact map_congr_left fun request _ => respond_serialId serial request

theorem Numbered.getNextSerialId (h : Numbered s) (hb : s.nextSerialId < INT32_MAX) :
    Numbered { s with
      nextSerialId := increment (if s.nextSerialId ≥ INT32_MAX then 1 else s.nextSerialId)
      taken := s.taken ++ [if s.nextSerialId ≥ INT32_MAX then 1 else s.nextSerialId] } := by
  rw [if_neg (Int.not_le.2 hb), increment, if_neg (Int.ne_of_lt hb)]
  have hp : (s.taken ++ [s.nextSerialId] ++ s.requests.map Request.serialId).Perm
      (s.nextSerialId :: s.numbers) := by
    rw [append_assoc]
    exact perm_middle
  have hf : s.nextSerialId ∉ s.numbers := fun hm =>
    Int.lt_irrefl _ (h.below s.nextSerialId hm)
  constructor
  · intro serial hs
    rcases mem_cons.1 (hp.mem_iff.1 hs) with rfl | ho
    · exact Int.lt_succ _
    · exact Int.lt_trans (h.below serial ho) (Int.lt_succ _)
  · exact hp.nodup_iff.2 (nodup_cons.2 ⟨hf, h.nodup⟩)

theorem Numbered.create (h : Numbered s) (htk : serialId ∈ s.taken) :
    Numbered (s.create serialId) := by
  have hp : (s.create serialId).numbers.Perm s.numbers := by
    unfold State.numbers State.create
    rw [map_append, ← append_assoc]
    refine perm_append_comm.trans ?_
    show (serialId :: s.taken.erase serialId ++ s.requests.map Request.serialId).Perm _
    exact (perm_cons_erase htk).symm.append_right _
  exact ⟨fun serial hs => h.below serial (hp.mem_iff.1 hs), hp.nodup_iff.2 h.nodup⟩

theorem Numbered.respond (h : Numbered s) (serial : Int) : Numbered (s.respond serial) := by
  have hn : (s.respond serial).numbers = s.numbers :=
    congrArg (s.taken ++ ·) (map_respond_serialId serial s.requests)
  exact ⟨by rw [hn]; exact h.below, by rw [hn]; exact h.nodup⟩

theorem Numbered.eq_of_serialId (h : Numbered s) {r other : Request} (hr : r ∈ s.requests)
    (ho : other ∈ s.requests) (heq : r.serialId = other.serialId) : r = other :=
  inj_on_of_nodup_map (List.Nodup.of_append_right h.nodup) hr ho heq

/-! ## The set and the lock -/

theorem mem_applyRunningLock (h : other = serialId ∨ other ∈ handler.reqSerialSet) :
    other ∈ (handler.applyRunningLock serialId).reqSerialSet := by
  unfold TelRilHandler.applyRunningLock
  simp only
  split
  next hm =>
    rcases h with rfl | h
    · exact hm
    · exact h
  next => exact mem_cons.2 h

theorem reduceRunningLock_serialNum (handler : TelRilHandler) (serial : Int) :
    (handler.reduceRunningLock serial).reqLockSerialNum = handler.reqLockSerialNum := by
  unfold TelRilHandler.reduceRunningLock
  split <;> rfl

theorem mem_reduceRunningLock {serial : Int}
    (hown : handler.reqSerialSet.length = 1 → serial ∈ handler.reqSerialSet)
    (h : other ∈ handler.reqSerialSet) (hne : other ≠ serial) :
    other ∈ (handler.reduceRunningLock serial).reqSerialSet := by
  unfold TelRilHandler.reduceRunningLock
  split
  next => exact mem_filter.2 ⟨h, decide_eq_true hne⟩
  next hsm =>
    -- the set has one element, and both numbers are in it
    have hoe : handler.reqSerialSet.length = 1 := by
      have hp := length_pos_of_mem h
      omega
    obtain ⟨only, hon⟩ := length_eq_one_iff.1 hoe
    have hsr := hown hoe
    rw [hon, mem_singleton] at h hsr
    exact absurd (h.trans hsr.symm) hne

theorem held_reduceRunningLock (serial : Int)
    (h : handler.reqSerialSet ≠ [] → handler.reqRunningLock)
    (hne : (handler.reduceRunningLock serial).reqSerialSet ≠ []) :
    (handler.reduceRunningLock serial).reqRunningLock := by
  unfold TelRilHandler.reduceRunningLock at hne ⊢
  split at hne
  next hm =>
    rw [if_pos hm]
    exact h (ne_nil_of_length_pos (by omega))
  next => exact absurd rfl hne

/-! ## The lock is held while a young request is not answered -/

structure Inv (s : State) : Prop where
  numbered : Numbered s
  held : s.handler.reqSerialSet ≠ [] → s.handler.reqRunningLock = true
  young : ∀ r ∈ s.requests, r.answered = false → s.now < r.created + TIMEOUT →
    r.serialId ∈ s.handler.reqSerialSet
  past : ∀ r ∈ s.requests, r.created ≤ s.now
  /-- the latest number is that of the youngest request -/
  latest : ∀ r ∈ s.requests, r.serialId = s.handler.reqLockSerialNum →
    ∀ other ∈ s.requests, other.created ≤ r.created
  events : ∀ event ∈ s.events, ∃ r ∈ s.requests, r.serialId = event.serial ∧
    r.created + TIMEOUT ≤ event.due
  /-- the request of an event that is processed is no longer young -/
  processing : ∀ p ∈ s.processing, ∃ r ∈ s.requests, r.serialId = p.1.serial ∧
    r.created + TIMEOUT ≤ s.now

theorem inv_init : Inv {} :=
  ⟨⟨by simp [State.numbers], nodup_nil⟩, by simp, by simp, by simp, by simp, by simp, by simp⟩

theorem Inv.tick (h : Inv s) (ms : Nat) : Inv { s with now := s.now + ms } := { h with
  numbered := ⟨h.numbered.below, h.numbered.nodup⟩
  young r hr han hag := by
    have hag' : s.now + ms < r.created + TIMEOUT := hag
    exact h.young r hr han (by omega)
  past r hr := Nat.le_trans (h.past r hr) (Nat.le_add_right _ _)
  processing p hp := by
    obtain ⟨r, hr, hs, ho⟩ := h.processing p hp
    exact ⟨r, hr, hs, Nat.le_trans ho (Nat.le_add_right _ _)⟩ }

theorem Inv.create (h : Inv s) (htk : serialId ∈ s.taken) : Inv (s.create serialId) := by
  have hn : serialId ∉ s.requests.map Request.serialId := fun hm =>
    disjoint_of_nodup_append h.numbered.nodup htk hm
  refine ⟨h.numbered.create htk, fun _ => rfl, ?_, ?_, ?_, ?_, ?_⟩
  · intro r hr han hag
    rcases mem_concat.1 hr with hol | rfl
    · exact mem_applyRunningLock (.inr (h.young r hol han hag))
    · exact mem_applyRunningLock (.inl rfl)
  · exact forall_mem_concat h.past (Nat.le_refl _)
  · intro r hr hs other hot
    have hr' : r = ⟨serialId, s.now, false⟩ := by
      rcases mem_append.1 hr with hol | hl
      · have hm := mem_map_of_mem (f := Request.serialId) hol
        rw [hs] at hm
        exact absurd hm hn
      · exact mem_singleton.1 hl
    subst hr'
    rcases mem_concat.1 hot with hol | rfl
    · exact h.past other hol
    · exact Nat.le_refl _
  · intro event hev
    rcases mem_concat.1 hev with hol | rfl
    · obtain ⟨r, hr, hdu⟩ := h.events event hol
      exact ⟨r, mem_append_left _ hr, hdu⟩
    · exact ⟨_, mem_append_right _ (mem_singleton_self _), rfl, Nat.le_refl _⟩
  · intro p hp
    obtain ⟨r, hr, hol⟩ := h.processing p hp
    exact ⟨r, mem_append_left _ hr, hol⟩

theorem exists_respond {requests : List Request} {p : Request → Prop} (serial : Int)
    (hp : ∀ r, p r → p (r.respond serial)) (h : ∃ r ∈ requests, p r) :
    ∃ r ∈ requests.map (Request.respond serial), p r := by
  obtain ⟨r, hr, hpr⟩ := h
  exact ⟨r.respond serial, mem_map_of_mem hr, hp r hpr⟩

theorem Inv.respond (h : Inv s) (serial : Int)
    (hon : s.handler.reqSerialSet.length = 1 → serial ∈ s.handler.reqSerialSet) :
    Inv (s.respond serial) where
  numbered := h.numbered.respond serial
  held := held_reduceRunningLock serial h.held
  young r hr han hag := by
    obtain ⟨old, hol, rfl⟩ := mem_map.1 hr
    rw [respond_created] at hag
    rw [respond_serialId]
    by_cases hs : old.serialId = serial
    · exact absurd han (by simp [Request.respond, hs])
    · rw [Request.respond, if_neg hs] at han
      exact mem_reduceRunningLock hon (h.young old hol han hag) hs
  past r hr := by
    obtain ⟨old, hol, rfl⟩ := mem_map.1 hr
    rw [respond_created]
    exact h.past old hol
  latest r hr hs other hot := by
    obtain ⟨old, hol, rfl⟩ := mem_map.1 hr
    obtain ⟨old', hol', rfl⟩ := mem_map.1 hot
    rw [respond_created, respond_created]
    rw [respond_serialId] at hs
    have hn := reduceRunningLock_serialNum s.handler serial
    exact h.latest old hol (hs.trans hn) old' hol'
  events event hev := exists_respond serial (fun r hr => by simpa using hr) (h.events event hev)
  processing p hp := exists_respond serial (fun r hr => by simpa using hr) (h.processing p hp)

theorem Inv.timeout (h : Inv s) {k : Nat} (latest : Bool) (hev : s.events[k]? = some event)
    (hdu : event.due ≤ s.now) :
    Inv { s with events := s.events.eraseIdx k, processing := some (event, latest) } := { h with
  numbered := ⟨h.numbered.below, h.numbered.nodup⟩
  events e he := h.events e (mem_of_mem_eraseIdx he)
  processing p hp := by
    cases hp
    obtain ⟨r, hr, hs, ho⟩ := h.events event (mem_of_getElem? hev)
    exact ⟨r, hr, hs, Nat.le_trans ho hdu⟩ }

theorem Inv.release (h : Inv s) (hpr : s.processing = some (event, true))
    (hls : event.serial = s.handler.reqLockSerialNum) :
    Inv { s with handler := s.handler.releaseRunningLock, processing := none } := { h with
  numbered := ⟨h.numbered.below, h.numbered.nodup⟩
  held hne := absurd rfl hne
  young r hr _ hag := by
    obtain ⟨own, hon, hs, hol⟩ := h.processing _ hpr
    have hle := h.latest own hon (hs.trans hls) r hr
    have hag' : s.now < r.created + TIMEOUT := hag
    omega
  processing p hp := absurd hp (by simp) }

theorem Inv.reduce (h : Inv s) (hpr : s.processing = some (event, false))
    (hon : s.handler.reqSerialSet.length = 1 → event.serial ∈ s.handler.reqSerialSet) :
    Inv { s with handler := s.handler.reduceRunningLock event.serial, processing := none } := { h with
  numbered := ⟨h.numbered.below, h.numbered.nodup⟩
  held := held_reduceRunningLock event.serial h.held
  young r hr han hag := by
    have hag' : s.now < r.created + TIMEOUT := hag
    refine mem_reduceRunningLock hon (h.young r hr han hag') ?_
    intro heq
    -- the request of the event is old
    obtain ⟨own, hm, hs, hol⟩ := h.processing _ hpr
    obtain rfl := h.numbered.eq_of_serialId hr hm (heq.trans hs.symm)
    omega
  latest r hr hs := h.latest r hr (hs.trans (reduceRunningLock_serialNum s.handler event.serial))
  processing p hp := absurd hp (by simp) }

theorem Inv.step (h : Inv s) (ho : OwnNumber s l) (hs : step s l = some s') : Inv s' := by
  cases step_cases hs with
  | tick ms => exact h.tick ms
  | getNextSerialId =>
    exact ⟨h.numbered.getNextSerialId ho, h.held, h.young, h.past, h.latest, h.events, h.processing⟩
  | create serialId htk => exact h.create htk
  | respond serial => exact h.respond serial ho
  | timeout k event hev hdu => exact h.timeout _ hev hdu
  | release event hp => exact h.release hp (ho _ hp)
  | reduce event hp => exact h.reduce hp (ho _ hp)

/-- **The device stays awake**: the lock is held while a request created less than
`RUNNING_LOCK_DEFAULT_TIMEOUT_MS` ago is not answered. -/
theorem running_lock_held {run : List Label} {s : State} (hown : StepsMeet step OwnNumber {} run)
    (hrun : runLabels step {} run = some s) {r : Request} (hr : r ∈ s.requests)
    (hanswered : r.answered = false) (hage : s.now < r.created + TIMEOUT) :
    s.handler.reqRunningLock = true := by
  have hin : Inv s := invariant_run Inv.step run inv_init hown hrun
  exact hin.held (ne_nil_of_mem (hin.young r hr hanswered hage))

/-- The first is answered at once. Its event finds the numbers of two others in the set. -/
def threeRequestsRun : List Label :=
  [.getNextSerialId, .create 1, .tick 1000, .getNextSerialId, .getNextSerialId, .create 3, .create 2,
    .respond 1, .tick 59000, .timeout 0, .process]

theorem running_lock_held_three :
    ∃ s r, StepsMeet step OwnNumber {} threeRequestsRun ∧
      runLabels step {} threeRequestsRun = some s ∧ r ∈ s.requests ∧ r.answered = false ∧
      s.now < r.created + TIMEOUT ∧ s.handler.reqRunningLock = true := by
  obtain ⟨s, ho, hrn, r, hr, han, hag⟩ : ∃ s, StepsMeet step OwnNumber {} threeRequestsRun ∧
      runLabels step {} threeRequestsRun = some s ∧
      ∃ r ∈ s.requests, r.answered = false ∧ s.now < r.created + TIMEOUT :=
    exists_run_meeting _ (by decide +kernel)
  exact ⟨s, r, ho, hrn, hr, han, hag, running_lock_held ho hrn hr han hag⟩

/-- Of two requests within a second the first is answered at once. Its event comes after a minute,
finds one number in the set and releases the lock; the other request is 59 seconds old. -/
theorem lock_released_early :
    ∃ run s r, runLabels step {} run = some s ∧ r ∈ s.requests ∧ r.answered = false ∧
      s.now < r.created + TIMEOUT ∧ s.handler.reqRunningLock = false := by
  obtain ⟨s, hrn, hh, r, hr, han, hag⟩ : ∃ s,
      runLabels step {}
        [.getNextSerialId, .create 1, .tick 1000, .getNextSerialId, .create 2, .respond 1,
          .tick 59000, .timeout 0, .process] = some s ∧
      s.handler.reqRunningLock = false ∧
      ∃ r ∈ s.requests, r.answered = false ∧ s.now < r.created + TIMEOUT :=
    exists_run _ (by decide +kernel)
  exact ⟨_, s, r, hrn, hr, han, hag, hh⟩

/-! ## The lock is released in the end -/

def State.Expired (s : State) (r : Request) : Prop :=
  (∀ event ∈ s.events, event.serial ≠ r.serialId) ∧ ∀ p ∈ s.processing, p.1.serial ≠ r.serialId

/-- Every number in the set is that of an open request, and the lock is held for a reason. An answer
or an event takes at least its own number. -/
structure OpenInv (s : State) : Prop where
  isOpen : ∀ n ∈ s.handler.reqSerialSet,
    ∃ r ∈ s.requests, r.serialId = n ∧ r.answered = false ∧ ¬ s.Expired r
  nodup : s.handler.reqSerialSet.Nodup
  held : s.handler.reqRunningLock → s.handler.reqSerialSet ≠ []

theorem OpenInv.reduceRunningLock (h : OpenInv s) (serial : Int) :
    let handler := s.handler.reduceRunningLock serial
    (∀ n ∈ handler.reqSerialSet, n ∈ s.handler.reqSerialSet ∧ n ≠ serial) ∧
      handler.reqSerialSet.Nodup ∧ (handler.reqRunningLock → handler.reqSerialSet ≠ []) := by
  unfold TelRilHandler.reduceRunningLock
  split
  next hm =>
    refine ⟨by simp, h.nodup.filter _, fun _ hnl => ?_⟩
    -- a set of two has another number
    have hal : ∀ n ∈ s.handler.reqSerialSet, n = serial := by simpa using hnl
    have hle := (subperm_of_subset h.nodup
      (fun n hn => mem_singleton.2 (hal n hn))).length_le
    exact absurd hm (Nat.not_lt.2 hle)
  next => exact ⟨by simp [TelRilHandler.releaseRunningLock], nodup_nil, nofun⟩

theorem OpenInv.create (h : OpenInv s) (serialId : Int) : OpenInv (s.create serialId) := by
  have hst : ∀ n, n ∈ (s.create serialId).handler.reqSerialSet ↔
      n = serialId ∨ n ∈ s.handler.reqSerialSet := by
    intro n
    simp only [State.create, TelRilHandler.applyRunningLock]
    split <;> simp_all
  refine ⟨fun n hn => ?_, ?_, fun _ => ne_nil_of_mem ((hst serialId).2 (.inl rfl))⟩
  · rcases (hst n).1 hn with rfl | ho
    · exact ⟨_, mem_append_right _ (mem_singleton_self _), rfl, rfl,
        fun hep => hep.1 _ (mem_append_right _ (mem_singleton_self _)) rfl⟩
    · obtain ⟨r, hr, hsr, han, hp⟩ := h.isOpen n ho
      refine ⟨r, mem_append_left _ hr, hsr, han, fun hep => hp ?_⟩
      exact ⟨fun event hev => hep.1 event (mem_append_left _ hev), hep.2⟩
  · simp only [State.create, TelRilHandler.applyRunningLock]
    split
    next => exact h.nodup
    next hnw => exact nodup_cons.2 ⟨hnw, h.nodup⟩

theorem OpenInv.step (h : OpenInv s) (hst : step s l = some s') : OpenInv s' := by
  cases l with
  | tick ms | getNextSerialId =>
    cases hst
    exact ⟨h.isOpen, h.nodup, h.held⟩
  | create serialId =>
    obtain ⟨-, ⟨⟩⟩ := Option.ite_none_right_eq_some.1 hst
    exact h.create serialId
  | respond serial =>
    obtain ⟨-, ⟨⟩⟩ := Option.ite_none_right_eq_some.1 hst
    obtain ⟨hg, hnd, hh⟩ := h.reduceRunningLock serial
    refine ⟨fun n hn => ?_, hnd, hh⟩
    obtain ⟨hol, hne⟩ := hg n hn
    obtain ⟨r, hr, hsr, hop⟩ := h.isOpen n hol
    have hsm : r.respond serial = r := if_neg (hsr ▸ hne)
    exact ⟨r, mem_map.2 ⟨r, hr, hsm⟩, hsr, hop⟩
  | timeout k =>
    simp only [RunningLock.step] at hst
    split at hst
    next event hid hev =>
      obtain ⟨-, ⟨⟩⟩ := Option.ite_none_right_eq_some.1 hst
      refine ⟨fun n hn => ?_, h.nodup, h.held⟩
      obtain ⟨r, hr, hsr, han, hpn⟩ := h.isOpen n hn
      refine ⟨r, hr, hsr, han, fun hep => hpn ⟨fun e he => ?_, by simp [hid]⟩⟩
      by_cases heq : e = event
      · exact heq ▸ hep.2 _ rfl
      · exact hep.1 e (mem_eraseIdx_of_ne hev he heq)
    next => cases hst
  | process =>
    obtain ⟨⟨event, latest⟩, hpr, hst⟩ := Option.bind_eq_some_iff.1 hst
    cases hst
    cases latest with
    | true => exact ⟨fun n hn => absurd hn not_mem_nil, nodup_nil, nofun⟩
    | false =>
      obtain ⟨hg, hnd, hh⟩ := h.reduceRunningLock event.serial
      refine ⟨fun n hn => ?_, hnd, hh⟩
      obtain ⟨hol, hne⟩ := hg n hn
      obtain ⟨r, hr, hsr, han, hpn⟩ := h.isOpen n hol
      refine ⟨r, hr, hsr, han, fun hep => hpn ⟨hep.1, fun p hp heq => ?_⟩⟩
      cases hpr.symm.trans hp
      exact hne (hsr.symm.trans heq.symm)

/-- When each request was answered or its event was processed, the lock is not held and the set is
empty. -/
theorem running_lock_released {run : List Label} {s : State} (hrun : runLabels step {} run = some s)
    (hall : ∀ r ∈ s.requests, r.answered = true ∨ s.Expired r) :
    s.handler.reqRunningLock = false ∧ s.handler.reqSerialSet = [] := by
  have hin : OpenInv s := invariant_every_run OpenInv.step run ⟨by simp, nodup_nil, by simp⟩ hrun
  have hem : s.handler.reqSerialSet = [] := by
    refine eq_nil_iff_forall_not_mem.2 fun n hn => ?_
    obtain ⟨r, hr, -, han, hp⟩ := hin.isOpen n hn
    rcases hall r hr with hy | hep
    · cases han.symm.trans hy
    · exact hp hep
  refine ⟨?_, hem⟩
  by_contra hh
  exact hin.held (Bool.not_eq_false _ ▸ hh) hem

/-- The third request is answered, and the events of the others are processed. -/
theorem running_lock_released_three :
    ∃ s, runLabels step {} (threeRequestsRun ++ [.respond 3, .tick 1000, .timeout 0, .process,
        .timeout 0, .process]) = some s ∧ s.requests.length = 3 ∧
      s.handler.reqRunningLock = false := by
  obtain ⟨s, hrn, hc, ha⟩ : ∃ s, runLabels step {} (threeRequestsRun ++ [.respond 3,
        .tick 1000, .timeout 0, .process, .timeout 0, .process]) = some s ∧
      s.requests.length = 3 ∧ s.events = [] ∧ s.processing = none := exists_run _ (by decide +kernel)
  refine ⟨s, hrn, hc, (running_lock_released hrn fun r hr => .inr ?_).1⟩
  exact ⟨by simp [ha.1], by simp [ha.2]⟩

/-- **The lock is held only for open requests**: in every state each number in the set is there once
and is that of a request that is neither answered nor timed out, and the lock is held with such a
number in the set. -/
theorem lock_held_for_request {run : List Label} {s : State}
    (hrun : runLabels step {} run = some s) :
    s.handler.reqSerialSet.Nodup ∧
      (∀ n ∈ s.handler.reqSerialSet,
        ∃ r ∈ s.requests, r.serialId = n ∧ r.answered = false ∧ ¬ s.Expired r) ∧
      (s.handler.reqRunningLock → ∃ r ∈ s.requests, r.answered = false ∧ ¬ s.Expired r) := by
  have h := invariant_every_run OpenInv.step run ⟨by simp, nodup_nil, by simp⟩ hrun
  refine ⟨h.nodup, h.isOpen, fun hl => ?_⟩
  obtain ⟨n, hn⟩ := exists_mem_of_ne_nil _ (h.held hl)
  obtain ⟨r, hr, -, ho⟩ := h.isOpen n hn
  exact ⟨r, hr, ho⟩

theorem lock_held_for_request_three :
    ∃ s, runLabels step {} threeRequestsRun = some s ∧
      ∃ r ∈ s.requests, r.answered = false ∧ ¬ s.Expired r := by
  obtain ⟨s, hr, hl⟩ : ∃ s, runLabels step {} threeRequestsRun = some s ∧
      s.handler.reqRunningLock = true := exists_run _ (by decide +kernel)
  exact ⟨s, hr, (lock_held_for_request hr).2.2 hl⟩

end TelephonyCore.Ril.RunningLock
