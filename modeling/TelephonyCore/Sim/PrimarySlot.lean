import TelephonyCore.Lib.Slots
import TelephonyCore.Lib.Transition

/-!
# `MultiSimController`: telling the modem the primary slot

`SetPrimarySlotToRil` raises `isSettingPrimarySlotToRil_`, lowers `setPrimarySlotResponseResult_`,
sends its request with a delayed event for the case of no answer, and waits until the flag is down.
`ProcessRilSetPrimarySlotResponse` takes the flag down and sets the result, for an answer, for the
delayed event, or for a request that could not be sent. It does not hold the mutex, so every access
is a step here.

A call that looks at the flag between the two writes returns `false` although the modem has done
what was asked (`success_not_reported`). `Undisturbed` excludes this, another call or its events, a
second event, and a notification between the test of the flag and the wait.
-/

namespace TelephonyCore.Sim.PrimarySlot

open Lib List Option

/-! ## The calls -/

def NONE : Int := 0

inductive Pc where
  /-- the test at the start, without the mutex -/
  | check
  | lock
  | raiseFlag
  | lowerResult
  | sendRequest
  | sendTimeout
  /-- `ProcessRilSetPrimarySlotResponse(false)` in the call itself -/
  | failFlag
  | failResult
  | failNotify
  /-- the test of the loop -/
  | test
  /-- the flag was up: release the mutex and wait -/
  | beginWait
  | waiting
  | reacquire
  | readResult
  | returned (value : Bool)
deriving DecidableEq

structure Call where
  slotId : Int
  /-- `telRilManager` and the event are there -/
  connected : Bool
  pc : Pc := .check
  sent : Bool := false
  /-- the delayed event was sent -/
  timer : Bool := false
  /-- the event of the answer, with the error of its `RadioResponseInfo` or without one -/
  answered : Option (Option Int) := none
  /-- the delayed event was handled -/
  expired : Bool := false
  /-- the answer came without error before the delayed event -/
  inTime : Bool := false
deriving DecidableEq

structure Shared where
  isSettingPrimarySlotToRil : Bool := false
  setPrimarySlotResponseResult : Bool := false
  /-- the call that holds `setPrimarySlotToRilMutex_` -/
  mutex : Option Nat := none
deriving DecidableEq

/-- `ProcessRilSetPrimarySlotResponse` on the thread of the events, for an event of call `i`. -/
inductive Handler where
  | idle
  | lowerFlag (i : Nat) (result : Bool)
  | setResult (i : Nat) (result : Bool)
  | notify (i : Nat)
deriving DecidableEq

structure State where
  calls : List Call := []
  shared : Shared := {}
  handler : Handler := .idle
deriving DecidableEq

inductive Label where
  | call (slotId : Int) (connected : Bool)
  | step (i : Nat)
  /-- a waiting call wakes up without a notification -/
  | spurious (i : Nat)
  | answer (i : Nat) (response : Option Int)
  | timeout (i : Nat)
  | handler

def Call.advance (i : Nat) (c : Call) (m : Shared) : Option (Call × Shared × Bool) :=
  match c.pc with
  | .check =>
    some ({ c with pc := if m.isSettingPrimarySlotToRil then .returned false else .lock }, m, false)
  | .lock =>
    if m.mutex = none then some ({ c with pc := .raiseFlag }, { m with mutex := some i }, false)
    else none
  | .raiseFlag =>
    some ({ c with pc := .lowerResult }, { m with isSettingPrimarySlotToRil := true }, false)
  | .lowerResult =>
    some ({ c with pc := if c.connected then .sendRequest else .failFlag },
      { m with setPrimarySlotResponseResult := false }, false)
  | .sendRequest => some ({ c with pc := .sendTimeout, sent := true }, m, false)
  | .sendTimeout => some ({ c with pc := .test, timer := true }, m, false)
  | .failFlag =>
    some ({ c with pc := .failResult }, { m with isSettingPrimarySlotToRil := false }, false)
  | .failResult =>
    some ({ c with pc := .failNotify }, { m with setPrimarySlotResponseResult := false }, false)
  | .failNotify => some ({ c with pc := .test }, m, true)
  | .test =>
    some ({ c with pc := if m.isSettingPrimarySlotToRil then .beginWait else .readResult },
      m, false)
  | .beginWait => some ({ c with pc := .waiting }, { m with mutex := none }, false)
  | .waiting => none
  | .reacquire =>
    if m.mutex = none then some ({ c with pc := .test }, { m with mutex := some i }, false)
    else none
  | .readResult =>
    some ({ c with pc := .returned m.setPrimarySlotResponseResult },
      { m with mutex := none }, false)
  | .returned _ => none

def Call.notified (c : Call) : Call := if c.pc = .waiting then { c with pc := .reacquire } else c

def State.notifyAll (s : State) : State := { s with calls := s.calls.map Call.notified }

/-- Without a `RadioResponseInfo` it returns at once. -/
def State.answer (s : State) (i : Nat) (c : Call) (response : Option Int) : State :=
  match response with
  | none => { s with calls := s.calls.set i { c with answered := some none } }
  | some error =>
    { s with
      calls := s.calls.set i { c with
        answered := some (some error)
        inTime := c.inTime || (error = NONE && !c.expired) }
      handler := .lowerFlag i (error = NONE) }

def State.timeout (s : State) (i : Nat) (c : Call) : State :=
  { s with calls := s.calls.set i { c with expired := true }, handler := .lowerFlag i false }

def State.handle (s : State) : Option State :=
  match s.handler with
  | .idle => none
  | .lowerFlag i result =>
    some { s with
      shared := { s.shared with isSettingPrimarySlotToRil := false }
      handler := .setResult i result }
  | .setResult i result =>
    some { s with
      shared := { s.shared with setPrimarySlotResponseResult := result }
      handler := .notify i }
  | .notify _ => some { s.notifyAll with handler := .idle }

def step (s : State) : Label → Option State
  | .call slotId connected => some { s with calls := s.calls ++ [{ slotId, connected }] }
  | .step i => do
    let c ← s.calls[i]?
    let (c', shared, notify) ← c.advance i s.shared
    let s := { s with calls := s.calls.set i c', shared }
    some (if notify then s.notifyAll else s)
  | .spurious i => do
    let c ← s.calls[i]?
    if c.pc = .waiting then some { s with calls := s.calls.set i { c with pc := .reacquire } }
    else none
  | .answer i response => do
    let c ← s.calls[i]?
    if s.handler = .idle ∧ c.sent ∧ c.answered = none then some (s.answer i c response) else none
  | .timeout i => do
    let c ← s.calls[i]?
    if s.handler = .idle ∧ c.timer ∧ ¬c.expired then some (s.timeout i c) else none
  | .handler => s.handle

/-! ## A call that runs alone -/

/-- Between the test at the start and the return. -/
def Pc.inProgress : Pc → Bool
  | .check | .returned _ => false
  | _ => true

/-- The call has an event that decides its result. -/
def Call.decided (c : Call) : Bool := c.expired || (c.answered.getD none).isSome

def Handler.isSetResult : Handler → Bool
  | .setResult _ _ => true
  | _ => false

def Handler.isNotify : Handler → Bool
  | .notify _ => true
  | _ => false

/-- No other call and no event of another call while a call runs, and no second event of its own; no
look at the flag between the two writes, and no notification between its test and its wait. -/
def Undisturbed (s : State) : Label → Prop
  | .step i =>
    ∀ c ∈ s.calls[i]?,
      (c.pc = .check → s.shared.isSettingPrimarySlotToRil = false →
        s.handler = .idle ∧ ∀ other ∈ s.calls, other.pc.inProgress = false) ∧
      (c.pc = .test → s.handler.isSetResult = false)
  | .answer i response =>
    response ≠ none → (∀ other ∈ s.calls.eraseIdx i, other.pc.inProgress = false) ∧
      ∀ c ∈ s.calls[i]?, c.pc.inProgress = true → c.decided = false
  | .timeout i =>
    (∀ other ∈ s.calls.eraseIdx i, other.pc.inProgress = false) ∧
      ∀ c ∈ s.calls[i]?, c.pc.inProgress = true → c.decided = false
  | .handler => s.handler.isNotify = true → ∀ c ∈ s.calls, c.pc ≠ .beginWait
  | _ => True

instance (s : State) (l : Label) : Decidable (Undisturbed s l) := by
  unfold Undisturbed
  split <;> infer_instance

/-! ## One call -/

inductive Advances (i : Nat) (c : Call) (m : Shared) : Call → Shared → Bool → Prop
  | refuse (hpc : c.pc = .check) : Advances i c m { c with pc := .returned false } m false
  | enter (hpc : c.pc = .check) (hflag : m.isSettingPrimarySlotToRil = false) :
    Advances i c m { c with pc := .lock } m false
  | lock (hpc : c.pc = .lock) :
    Advances i c m { c with pc := .raiseFlag } { m with mutex := some i } false
  | raiseFlag (hpc : c.pc = .raiseFlag) :
    Advances i c m { c with pc := .lowerResult } { m with isSettingPrimarySlotToRil := true } false
  | lowerResult (hpc : c.pc = .lowerResult) :
    Advances i c m { c with pc := if c.connected then .sendRequest else .failFlag }
      { m with setPrimarySlotResponseResult := false } false
  | sendRequest (hpc : c.pc = .sendRequest) :
    Advances i c m { c with pc := .sendTimeout, sent := true } m false
  | sendTimeout (hpc : c.pc = .sendTimeout) :
    Advances i c m { c with pc := .test, timer := true } m false
  | failFlag (hpc : c.pc = .failFlag) :
    Advances i c m { c with pc := .failResult } { m with isSettingPrimarySlotToRil := false } false
  | failResult (hpc : c.pc = .failResult) :
    Advances i c m { c with pc := .failNotify }
      { m with setPrimarySlotResponseResult := false } false
  | failNotify (hpc : c.pc = .failNotify) : Advances i c m { c with pc := .test } m true
  | test (hpc : c.pc = .test) :
    Advances i c m
      { c with pc := if m.isSettingPrimarySlotToRil then .beginWait else .readResult } m false
  | beginWait (hpc : c.pc = .beginWait) :
    Advances i c m { c with pc := .waiting } { m with mutex := none } false
  | reacquire (hpc : c.pc = .reacquire) :
    Advances i c m { c with pc := .test } { m with mutex := some i } false
  | readResult (hpc : c.pc = .readResult) :
    Advances i c m { c with pc := .returned m.setPrimarySlotResponseResult }
      { m with mutex := none } false

variable {c c' : Call}

theorem advance_cases {i : Nat} {m m' : Shared} {notify : Bool}
    (h : c.advance i m = some (c', m', notify)) : Advances i c m c' m' notify := by
  rw [Call.advance] at h
  cases hpc : c.pc with rw [hpc] at h
  | check =>
    cases hf : m.isSettingPrimarySlotToRil with
    | true =>
      rw [hf] at h
      cases h
      exact .refuse hpc
    | false =>
      rw [hf] at h
      cases h
      exact .enter hpc hf
  | lock =>
    obtain ⟨-, ⟨⟩⟩ := ite_none_right_eq_some.1 h
    exact .lock hpc
  | reacquire =>
    obtain ⟨-, ⟨⟩⟩ := ite_none_right_eq_some.1 h
    exact .reacquire hpc
  | waiting | returned => cases h
  | _ =>
    -- one constructor of `Advances` for each of the other places
    cases h
    constructor
    exact hpc

/-- Where a call can be, with a modem or without and before its request or after it. -/
def Pc.fits (connected sent : Bool) : Pc → Bool
  | .check | .lock | .raiseFlag | .lowerResult => !sent
  | .sendRequest => connected && !sent
  | .sendTimeout => sent
  | .failFlag | .failResult | .failNotify => !connected && !sent
  | _ => true

/-- The flag is up because of the call, unless an event has taken it down. -/
def Pc.flagUp : Pc → Bool
  | .lowerResult | .sendRequest | .sendTimeout | .test | .beginWait | .waiting | .reacquire => true
  | _ => false

structure CallOk (c : Call) : Prop where
  unsent : c.sent = false → c.answered = none ∧ c.timer = false ∧ c.expired = false
  connected : c.connected = false → c.sent = false
  fits : c.pc.fits c.connected c.sent = true
  undecided : c.decided = false → c.inTime = false
  returned : ∀ value, c.pc = .returned value → c.sent = true → c.decided = true ∧ value = c.inTime

theorem CallOk.undecided_of_unsent (h : CallOk c) (hs : c.sent = false) : c.decided = false := by
  obtain ⟨ha, -, he⟩ := h.unsent hs
  simp [Call.decided, ha, he]

theorem CallOk.connected_of_sent (h : CallOk c) (hs : c.sent) : c.connected := by
  cases hc : c.connected with
  | true => rfl
  | false => cases (h.connected hc).symm.trans hs

theorem CallOk.setPc (h : CallOk c) (pc : Pc) (hf : pc.fits c.connected c.sent)
    (hr : ∀ value, pc = .returned value → c.sent →
      c.decided ∧ value = c.inTime) : CallOk { c with pc } :=
  ⟨h.unsent, h.connected, hf, h.undecided, hr⟩

def Tracks (m : Shared) (handler : Handler) (c : Call) : Prop :=
  match handler with
  | .idle =>
    (c.decided = true → m.isSettingPrimarySlotToRil = false ∧
      m.setPrimarySlotResponseResult = c.inTime ∧ c.pc ≠ .waiting ∧ c.pc ≠ .beginWait) ∧
    (c.decided = false → c.connected = true → c.pc ≠ .readResult ∧
      (c.pc.flagUp = true → m.isSettingPrimarySlotToRil = true))
  | .lowerFlag _ result =>
    (c.decided = true ∧ result = c.inTime ∧ m.isSettingPrimarySlotToRil = true) ∧ c.pc ≠ .readResult
  | .setResult _ result =>
    (c.decided = true ∧ result = c.inTime ∧ m.isSettingPrimarySlotToRil = false) ∧
      c.pc ≠ .readResult
  | .notify _ =>
    c.decided = true ∧ m.isSettingPrimarySlotToRil = false ∧
      m.setPrimarySlotResponseResult = c.inTime

section OneCall

variable {m m' : Shared} {handler : Handler} {i : Nat} {c c' : Call}

theorem Tracks.idle (h : Tracks m handler c) (hu : c.decided = false) : handler = .idle := by
  cases handler with
  | idle => rfl
  | lowerFlag j result | setResult j result => cases hu.symm.trans h.1.1
  | notify j => cases hu.symm.trans h.1

theorem tracks_undecided (hu : c.decided = false) (h : c.connected → c.pc ≠ .readResult ∧
      (c.pc.flagUp → m.isSettingPrimarySlotToRil)) : Tracks m .idle c :=
  ⟨fun hdc => absurd (hu.symm.trans hdc) (by simp), fun _ => h⟩

theorem Tracks.moves (h : Tracks m handler c)
    (hfg : m'.isSettingPrimarySlotToRil = m.isSettingPrimarySlotToRil)
    (hrs : m'.setPrimarySlotResponseResult = m.setPrimarySlotResponseResult)
    (hdc : c'.decided = c.decided) (hin : c'.inTime = c.inTime)
    (hcn : c'.connected = c.connected) (hrd : c'.pc ≠ .readResult)
    (hw : c'.pc = .waiting ∨ c'.pc = .beginWait → c.pc = .beginWait)
    (hup : c'.pc.flagUp → c.pc.flagUp) : Tracks m' handler c' := by
  cases handler with
  | idle =>
    constructor
    · intro hd
      obtain ⟨hl, hre, -, ho⟩ := h.1 (hdc ▸ hd)
      exact ⟨hfg.trans hl, hrs.trans (hre.trans hin.symm),
        fun heq => ho (hw (.inl heq)), fun heq => ho (hw (.inr heq))⟩
    · intro hd hc
      obtain ⟨-, hfl⟩ := h.2 (hdc ▸ hd) (hcn ▸ hc)
      exact ⟨hrd, fun hu => hfg.trans (hfl (hup hu))⟩
  | lowerFlag j result | setResult j result =>
    obtain ⟨⟨hd, hr, hf⟩, -⟩ := h
    exact ⟨⟨hdc.trans hd, hr.trans hin.symm, hfg.trans hf⟩, hrd⟩
  | notify j =>
    obtain ⟨hd, hf, hr⟩ := h
    exact ⟨hdc.trans hd, hfg.trans hf, hrs.trans (hr.trans hin.symm)⟩

theorem Tracks.test (h : Tracks m handler c) (hpc : c.pc = .test)
    (hs : handler.isSetResult = false) :
    Tracks m handler
      { c with pc := if m.isSettingPrimarySlotToRil then .beginWait else .readResult } := by
  cases handler with
  | idle =>
    constructor
    · intro hd
      obtain ⟨hl, hr, -, -⟩ := h.1 hd
      simp [hl, hr]
    · intro hd hc
      obtain ⟨-, hup⟩ := h.2 hd hc
      have hf := hup (by rw [hpc]; rfl)
      simp [hf]
  | lowerFlag j result => exact ⟨h.1, by simp [h.1.2.2]⟩
  | setResult j result => exact absurd hs (by simp [Handler.isSetResult])
  | notify j => exact h

theorem Tracks.readResult (h : Tracks m handler c) (hok : CallOk c) (hpc : c.pc = .readResult)
    (hs : c.sent) : c.decided ∧ m.setPrimarySlotResponseResult = c.inTime := by
  cases handler with
  | idle =>
    cases hd : c.decided with
    | true => exact ⟨rfl, (h.1 hd).2.1⟩
    | false => exact absurd hpc (h.2 hd (hok.connected_of_sent hs)).1
  | lowerFlag j result | setResult j result => exact absurd hpc h.2
  | notify j => exact ⟨h.1, h.2.2⟩

theorem CallOk.advance {notify : Bool} (h : CallOk c) (htr : c.pc.inProgress → Tracks m handler c)
    (hst : Advances i c m c' m' notify) : CallOk c' := by
  have hf := h.fits
  cases hst with
  | refuse hpc =>
    have hsn : c.sent = false := by simpa [hpc, Pc.fits] using hf
    exact h.setPc _ rfl (fun _ _ hs => absurd (hsn.symm.trans hs) (by simp))
  | enter hpc | lock hpc | raiseFlag hpc | failFlag hpc | failResult hpc =>
    exact h.setPc _ (hpc ▸ hf :) (by simp)
  | lowerResult hpc =>
    have hsn : c.sent = false := by simpa [hpc, Pc.fits] using hf
    refine h.setPc _ ?_ (fun value heq => ?_)
    · split
      next hc => simp [Pc.fits, hc, hsn]
      next hc => simp [Pc.fits, hc, hsn]
    · split at heq <;> simp at heq
  | sendRequest hpc =>
    rw [hpc] at hf
    obtain ⟨hcn, -⟩ := Bool.and_eq_true_iff.1 hf
    exact ⟨by simp, by simp [hcn], rfl, h.undecided, by simp⟩
  | sendTimeout hpc =>
    have hsn : c.sent := by simpa [hpc, Pc.fits] using hf
    exact ⟨by simp [hsn], h.connected, rfl, h.undecided, by simp⟩
  | failNotify | beginWait | reacquire => exact h.setPc _ rfl (by simp)
  | test =>
    refine h.setPc _ (by split <;> rfl) (fun value heq => ?_)
    split at heq <;> simp at heq
  | readResult hpc =>
    refine h.setPc _ rfl (fun value heq hsn => ?_)
    obtain rfl := Pc.returned.inj heq
    exact (htr (by rw [hpc]; rfl)).readResult h hpc hsn

theorem Tracks.idle_of_unsent (h : Tracks m handler c) (hok : CallOk c) (hs : c.sent = false) :
    handler = .idle :=
  h.idle (hok.undecided_of_unsent hs)

theorem Tracks.without_modem (h : Tracks m handler c) (hok : CallOk c)
    (hf : (!c.connected && !c.sent)) (pc : Pc) : Tracks m' handler { c with pc } := by
  obtain ⟨hc, hs⟩ : c.connected = false ∧ c.sent = false := by simpa using hf
  rw [h.idle_of_unsent hok hs]
  exact tracks_undecided (hok.undecided_of_unsent hs) (by simp [hc])

theorem Tracks.advance {notify : Bool} (h : Tracks m handler c) (hok : CallOk c)
    (hr : c.pc.inProgress) (ht : c.pc = .test → handler.isSetResult = false)
    (hst : Advances i c m c' m' notify) (hr' : c'.pc.inProgress) : Tracks m' handler c' := by
  have hft := hok.fits
  cases hst with
  | refuse hpc | enter hpc => exact absurd hr (by simp [hpc, Pc.inProgress])
  | lock hpc => exact h.moves rfl rfl rfl rfl rfl (by simp) (by simp) (by simp [Pc.flagUp])
  | raiseFlag hpc =>
    have hsn : c.sent = false := by simpa [hpc, Pc.fits] using hft
    rw [h.idle_of_unsent hok hsn]
    exact tracks_undecided (hok.undecided_of_unsent hsn) (by simp)
  | lowerResult hpc =>
    have hsn : c.sent = false := by simpa [hpc, Pc.fits] using hft
    have hu := hok.undecided_of_unsent hsn
    obtain rfl := h.idle hu
    refine tracks_undecided hu fun hc => ?_
    have hfl := (h.2 hu hc).2 (by rw [hpc]; rfl)
    rw [show c.connected = true from hc]
    exact ⟨by simp, fun _ => hfl⟩
  | sendRequest hpc | sendTimeout hpc | reacquire hpc =>
    exact h.moves rfl rfl rfl rfl rfl (by simp) (by simp) (by simp [hpc, Pc.flagUp])
  | failFlag hpc | failResult hpc | failNotify hpc => exact h.without_modem hok (hpc ▸ hft :) _
  | test hpc => exact h.test hpc (ht hpc)
  | beginWait hpc =>
    exact h.moves rfl rfl rfl rfl rfl (by simp) (fun _ => hpc) (by simp [hpc, Pc.flagUp])
  | readResult hpc => exact absurd hr' (by simp [Pc.inProgress])

theorem Tracks.decide (h : Tracks m .idle c) (hok : CallOk c) (hrn : c.pc.inProgress)
    (hs : c.sent) (hun : c.decided = false) : m.isSettingPrimarySlotToRil ∧ c.pc ≠ .readResult := by
  obtain ⟨hrd, hup⟩ := h.2 hun (hok.connected_of_sent hs)
  refine ⟨hup ?_, hrd⟩
  have hf := hok.fits
  cases hpc : c.pc <;> simp_all [Pc.fits, Pc.flagUp, Pc.inProgress]

theorem CallOk.answer (h : CallOk c) (hsn : c.sent) (han : c.answered = none) (error : Int) :
    CallOk { c with
      answered := some (some error)
      inTime := c.inTime || (error = NONE && !c.expired) } := { h with
  unsent hs := absurd (hsn.symm.trans hs) (by simp)
  undecided hd := absurd hd (by simp [Call.decided])
  returned value hpc hs := by
    obtain ⟨hdc, rfl⟩ := h.returned value hpc hs
    -- the call was decided without an answer
    have he : c.expired := by simpa [Call.decided, han] using hdc
    exact ⟨by simp [Call.decided], by simp [he]⟩ }

theorem CallOk.answerWithoutInfo (h : CallOk c) (hsn : c.sent)
    (ha : c.answered = none) : CallOk { c with answered := some none } := { h with
  unsent hs := absurd (hsn.symm.trans hs) (by simp)
  undecided hd := h.undecided (by simpa [Call.decided, ha] using hd)
  returned value hpc hs := by
    obtain ⟨hdc, rfl⟩ := h.returned value hpc hs
    exact ⟨by simpa [Call.decided, ha] using hdc, rfl⟩ }

theorem CallOk.timeout (h : CallOk c) (ht : c.timer) :
    CallOk { c with expired := true } := { h with
  unsent hs := absurd ((h.unsent hs).2.1.symm.trans ht) (by simp)
  undecided hd := absurd hd (by simp [Call.decided])
  returned value hpc hs := ⟨by simp [Call.decided], (h.returned value hpc hs).2⟩ }

theorem CallOk.notified (h : CallOk c) : CallOk c.notified := by
  unfold Call.notified
  split
  next => exact h.setPc _ rfl (by simp)
  next => exact h

theorem notified_inProgress (c : Call) : c.notified.pc.inProgress = c.pc.inProgress := by
  unfold Call.notified
  split
  next hpc =>
    rw [hpc]
    rfl
  next => rfl

theorem Tracks.wakes (h : Tracks m handler c) (hpc : c.pc = .waiting) :
    Tracks m handler { c with pc := .reacquire } :=
  h.moves rfl rfl rfl rfl rfl (by simp) (by simp) (by simp [hpc, Pc.flagUp])

theorem Tracks.notified (h : Tracks m handler c) : Tracks m handler c.notified := by
  unfold Call.notified
  split
  next hpc => exact h.wakes hpc
  next => exact h

theorem Tracks.notify {j : Nat} (h : Tracks m (.notify j) c) (hw : c.pc ≠ .beginWait) :
    Tracks m .idle c.notified := by
  obtain ⟨hdc, hf, hr⟩ := h
  unfold Call.notified
  split
  next hpc =>
    refine ⟨fun _ => ⟨hf, hr, by simp, by simp⟩, fun hd => ?_⟩
    cases hdc.symm.trans hd
  next hpc =>
    refine ⟨fun _ => ⟨hf, hr, hpc, hw⟩, fun hd => ?_⟩
    cases hdc.symm.trans hd

end OneCall

/-! ## All calls -/

structure Inv (s : State) : Prop where
  calls : ∀ c ∈ s.calls, CallOk c
  /-- one call runs at a time -/
  alone : ∀ (i j : Nat) (c other : Call), s.calls[i]? = some c → s.calls[j]? = some other →
    c.pc.inProgress = true → other.pc.inProgress = true → i = j
  tracks : ∀ c ∈ s.calls, c.pc.inProgress = true → Tracks s.shared s.handler c

theorem inv_init : Inv {} := ⟨by simp, by simp, by simp⟩

section AllCalls

variable {s s' : State} {i : Nat} {c : Call}

theorem Inv.others_rest (h : Inv s) (hc : s.calls[i]? = some c) (hrn : c.pc.inProgress) :
    ∀ other ∈ s.calls.eraseIdx i, other.pc.inProgress = false := by
  intro other ho
  obtain ⟨j, hji, hj⟩ := mem_eraseIdx_iff_getElem?.1 ho
  cases hrs : other.pc.inProgress with
  | false => rfl
  | true => exact absurd (h.alone i j c other hc hj hrn hrs).symm hji

theorem Inv.set (h : Inv s) (c' : Call) (shared : Shared) (handler : Handler) (hok : CallOk c')
    (hot : ∀ other ∈ s.calls.eraseIdx i, other.pc.inProgress →
      c'.pc.inProgress = false ∧ shared = s.shared ∧ handler = s.handler)
    (htr : c'.pc.inProgress → Tracks shared handler c') :
    Inv ⟨s.calls.set i c', shared, handler⟩ where
  calls other hoh := by
    rcases mem_or_eq_of_mem_set hoh with hol | rfl
    · exact h.calls other hol
    · exact hok
  alone a b ca cb ha hb hra hrb := by
    rcases getElem?_of_set ha with ⟨rfl, rfl⟩ | ⟨hai, hca⟩
    · rcases getElem?_of_set hb with ⟨rfl, -⟩ | ⟨hbi, hcb⟩
      · rfl
      · have hrs := (hot cb (mem_eraseIdx_iff_getElem?.2 ⟨b, hbi, hcb⟩) hrb).1
        cases hrs.symm.trans hra
    · rcases getElem?_of_set hb with ⟨rfl, rfl⟩ | ⟨-, hcb⟩
      · have hrs := (hot ca (mem_eraseIdx_iff_getElem?.2 ⟨a, hai, hca⟩) hra).1
        cases hrs.symm.trans hrb
      · exact h.alone a b ca cb hca hcb hra hrb
  tracks other hoh hrn := by
    rcases mem_eraseIdx_of_mem_set hoh with rfl | hm
    · exact htr hrn
    · obtain ⟨-, rfl, rfl⟩ := hot other hm hrn
      exact h.tracks other (mem_of_mem_eraseIdx hm) hrn

theorem Inv.call (h : Inv s) (slotId : Int) (connected : Bool) :
    Inv { s with calls := s.calls ++ [{ slotId, connected }] } := by
  have hn : ∀ {k : Nat} {other : Call},
      (s.calls ++ [({ slotId, connected } : Call)])[k]? = some other →
      other.pc.inProgress → s.calls[k]? = some other := by
    intro k other hk hrn
    rw [getElem?_append] at hk
    split at hk
    next => exact hk
    next =>
      obtain ⟨-, rfl⟩ := getElem?_singleton_eq_some hk
      exact absurd hrn (by simp [Pc.inProgress])
  refine ⟨fun other hot => ?_, fun a b ca cb ha hb hra hrb => ?_, fun other hot hrn => ?_⟩
  · rcases mem_concat.1 hot with hol | rfl
    · exact h.calls other hol
    · exact ⟨by simp, by simp, rfl, by simp, by simp⟩
  · exact h.alone a b ca cb (hn ha hra) (hn hb hrb) hra hrb
  · obtain ⟨k, hk⟩ := getElem?_of_mem hot
    exact h.tracks other (mem_of_getElem? (hn hk hrn)) hrn

theorem Inv.notifyAll (h : Inv s) (handler : Handler)
    (htr : ∀ c ∈ s.calls, c.pc.inProgress → Tracks s.shared handler c.notified) :
    Inv { s.notifyAll with handler } where
  calls other ho := by
    obtain ⟨c, hc, rfl⟩ := mem_map.1 ho
    exact (h.calls c hc).notified
  alone a b ca cb ha hb hra hrb := by
    have ha : (s.calls.map .notified)[a]? = some ca := ha
    have hb : (s.calls.map .notified)[b]? = some cb := hb
    rw [getElem?_map] at ha hb
    obtain ⟨c, hc, rfl⟩ := map_eq_some_iff.1 ha
    obtain ⟨d, hd, rfl⟩ := map_eq_some_iff.1 hb
    rw [notified_inProgress] at hra hrb
    exact h.alone a b c d hc hd hra hrb
  tracks other ho hrn := by
    obtain ⟨c, hc, rfl⟩ := mem_map.1 ho
    rw [notified_inProgress] at hrn
    exact htr c hc hrn

theorem Inv.advance {shared : Shared} {notify : Bool} (h : Inv s) (hc : s.calls[i]? = some c)
    (hmt : Undisturbed s (.step i)) (hst : Advances i c s.shared c' shared notify) :
    Inv { s with calls := s.calls.set i c', shared } := by
  have hmm := mem_of_getElem? hc
  have hok := h.calls c hmm
  obtain ⟨hch, ht⟩ := hmt c hc
  refine h.set c' shared s.handler (hok.advance (h.tracks c hmm) hst) ?_ ?_
  · intro other hot hrn
    cases hrs : c.pc.inProgress with
    | true => cases (h.others_rest hc hrs other hot).symm.trans hrn
    | false =>
      cases hst with
      | refuse => exact ⟨rfl, rfl, rfl⟩
      | enter hpc hf =>
        have hid := (hch hpc hf).2 other (mem_of_mem_eraseIdx hot)
        cases hid.symm.trans hrn
      | _ hpc => exact absurd hrs (by simp [hpc, Pc.inProgress])
  · intro hrn'
    cases hrn : c.pc.inProgress with
    | true => exact (h.tracks c hmm hrn).advance hok hrn ht hst hrn'
    | false =>
      cases hst with
      | refuse => exact absurd hrn' (by simp [Pc.inProgress])
      | enter hpc hf =>
        have hsn : c.sent = false := by simpa [hpc, Pc.fits] using hok.fits
        rw [(hch hpc hf).1]
        exact tracks_undecided (hok.undecided_of_unsent hsn) (by simp [Pc.flagUp])
      | _ hpc => exact absurd hrn (by simp [hpc, Pc.inProgress])

theorem Inv.answer (h : Inv s) (hc : s.calls[i]? = some c) (hid : s.handler = .idle)
    (hsn : c.sent) (han : c.answered = none) (response : Option Int)
    (hmt : Undisturbed s (.answer i response)) : Inv (s.answer i c response) := by
  have hmm := mem_of_getElem? hc
  have hok := h.calls c hmm
  cases response with
  | none =>
    refine h.set _ s.shared s.handler (hok.answerWithoutInfo hsn han) ?_ ?_
    · intro other hoh hrn
      refine ⟨?_, rfl, rfl⟩
      cases hrs : c.pc.inProgress with
      | false => rfl
      | true => cases (h.others_rest hc hrs other hoh).symm.trans hrn
    · intro hrn
      have hsm : Call.decided { c with answered := some none } = c.decided := by
        simp [Call.decided, han]
      have htr := h.tracks c hmm hrn
      rw [hid] at htr ⊢
      exact ⟨fun hd => htr.1 (hsm.symm.trans hd), fun hd => htr.2 (hsm.symm.trans hd)⟩
  | some error =>
    obtain ⟨hot, hon⟩ := hmt (by simp)
    refine h.set _ s.shared _ (hok.answer hsn han error) ?_ ?_
    · intro other hoh hrn
      cases (hot other hoh).symm.trans hrn
    · intro hrn
      have hu := hon c hc hrn
      have htr := h.tracks c hmm hrn
      rw [hid] at htr
      obtain ⟨hf, hrd⟩ := htr.decide hok hrn hsn hu
      have he : c.expired = false := (Bool.or_eq_false_iff.1 hu).1
      exact ⟨⟨by simp [Call.decided], by simp [hok.undecided hu, he], hf⟩, hrd⟩

theorem Inv.timeout (h : Inv s) (hc : s.calls[i]? = some c) (hid : s.handler = .idle)
    (htm : c.timer) (hmt : Undisturbed s (.timeout i)) : Inv (s.timeout i c) := by
  have hmm := mem_of_getElem? hc
  have hok := h.calls c hmm
  obtain ⟨hot, hon⟩ := hmt
  refine h.set _ s.shared _ (hok.timeout htm) ?_ ?_
  · intro other hoh hrn
    cases (hot other hoh).symm.trans hrn
  · intro hrn
    have hu := hon c hc hrn
    have hsn : c.sent := by
      cases hs : c.sent with
      | true => rfl
      | false => cases (hok.unsent hs).2.1.symm.trans htm
    have htr := h.tracks c hmm hrn
    rw [hid] at htr
    obtain ⟨hf, hrd⟩ := htr.decide hok hrn hsn hu
    exact ⟨⟨by simp [Call.decided], (hok.undecided hu).symm, hf⟩, hrd⟩

theorem Inv.handle (h : Inv s) (hmt : Undisturbed s .handler) (hs : s.handle = some s') :
    Inv s' := by
  unfold State.handle at hs
  split at hs
  case h_1 => cases hs
  case h_2 j result hhd =>
    cases hs
    refine ⟨h.calls, h.alone, fun c hc hr => ?_⟩
    have htr := h.tracks c hc hr
    rw [hhd] at htr
    exact ⟨⟨htr.1.1, htr.1.2.1, rfl⟩, htr.2⟩
  case h_3 j result hhd =>
    cases hs
    refine ⟨h.calls, h.alone, fun c hc hr => ?_⟩
    have htr := h.tracks c hc hr
    rw [hhd] at htr
    exact ⟨htr.1.1, htr.1.2.2, htr.1.2.1⟩
  case h_4 j hhd =>
    cases hs
    refine h.notifyAll .idle fun c hc hr => ?_
    have htr := h.tracks c hc hr
    rw [hhd] at htr
    exact htr.notify (hmt (by rw [hhd]; rfl) c hc)

theorem Inv.step {l : Label} (h : Inv s) (hmt : Undisturbed s l) (hst : step s l = some s') :
    Inv s' := by
  cases l with
  | call slotId connected =>
    cases hst
    exact h.call slotId connected
  | step i =>
    obtain ⟨c, hc, hst⟩ := bind_eq_some_iff.1 hst
    obtain ⟨⟨_, shared, notify⟩, hav, hst⟩ := bind_eq_some_iff.1 hst
    cases hst
    have hin := h.advance hc hmt (advance_cases hav)
    cases notify with
    | false => exact hin
    | true => exact hin.notifyAll s.handler fun c hc hr => (hin.tracks c hc hr).notified
  | spurious i =>
    obtain ⟨c, hc, hst⟩ := bind_eq_some_iff.1 hst
    obtain ⟨hpc, ⟨⟩⟩ := ite_none_right_eq_some.1 hst
    have hmm := mem_of_getElem? hc
    have hr : c.pc.inProgress := by rw [hpc]; rfl
    refine h.set _ s.shared s.handler ((h.calls c hmm).setPc _ rfl (by simp)) ?_ ?_
    · intro other ho ho'
      cases (h.others_rest hc hr other ho).symm.trans ho'
    · exact fun _ => (h.tracks c hmm hr).wakes hpc
  | answer i response =>
    obtain ⟨c, hc, hst⟩ := bind_eq_some_iff.1 hst
    obtain ⟨⟨hid, hsn, han⟩, ⟨⟩⟩ := ite_none_right_eq_some.1 hst
    exact h.answer hc hid hsn han response hmt
  | timeout i =>
    obtain ⟨c, hc, hst⟩ := bind_eq_some_iff.1 hst
    obtain ⟨⟨hid, ht, -⟩, ⟨⟩⟩ := ite_none_right_eq_some.1 hst
    exact h.timeout hc hid ht hmt
  | handler => exact h.handle hmt hst

end AllCalls

/-- If the calls are undisturbed, one that sent its request returns `true` exactly when its answer
came without error before its delayed event, and does not wait any more once one of the two has been
handled. -/
theorem primary_slot_result (labels : List Label) (s : State)
    (hmeets : StepsMeet step Undisturbed {} labels) (hrun : runLabels step {} labels = some s) :
    ∀ c ∈ s.calls, c.sent = true →
      (∀ value, c.pc = .returned value → (value = true ↔ c.inTime = true)) ∧
      (c.decided = true → s.handler = .idle → c.pc ≠ .waiting) := by
  intro c hc hs
  have hin := invariant_run .step labels inv_init hmeets hrun
  constructor
  · intro value hpc
    obtain ⟨-, rfl⟩ := (hin.calls c hc).returned value hpc hs
    exact .rfl
  · intro hdc hid hpc
    have ht := hin.tracks c hc (by rw [hpc]; rfl)
    rw [hid] at ht
    exact (ht.1 hdc).2.2.1 hpc

def untilWait (i : Nat) : List Label :=
  [.call 0 true, .step i, .step i, .step i, .step i, .step i, .step i, .step i, .step i]

/-- The first call gets its answer while it waits, the second one none in time. -/
def answeredThenLate : List Label :=
  untilWait 0 ++ [.answer 0 (some NONE), .handler, .handler, .handler, .step 0, .step 0, .step 0] ++
    [.timeout 0, .handler, .handler, .handler] ++
    untilWait 1 ++ [.timeout 1, .handler, .handler, .handler, .step 1, .step 1, .step 1]

theorem primary_slot_result_two :
    ∃ s, runLabels step {} answeredThenLate = some s ∧
      s.calls.map Call.pc = [.returned true, .returned false] ∧
      ∀ c ∈ s.calls, c.pc = .returned true ↔ c.inTime = true := by
  obtain ⟨s, hm, hrn, hps, hs⟩ :
      ∃ s, StepsMeet step Undisturbed {} answeredThenLate ∧
        runLabels step {} answeredThenLate = some s ∧
        s.calls.map Call.pc = [.returned true, .returned false] ∧ ∀ c ∈ s.calls, c.sent = true :=
    exists_run_meeting _ (by decide +kernel)
  refine ⟨s, hrn, hps, fun c hc => ?_⟩
  have hrs := (primary_slot_result _ s hm hrn c hc (hs c hc)).1
  have hpc : c.pc ∈ [.returned true, .returned false] := hps ▸ mem_map_of_mem hc
  rcases mem_pair.1 hpc with hpc | hpc
  · exact ⟨fun _ => (hrs true hpc).1 rfl, fun _ => hpc⟩
  · have hf := hrs false hpc
    rw [hpc]
    simpa using hf

/-- The answer comes without error and in time, but the call looks at the flag when it is down and
the result is not set. -/
theorem success_not_reported :
    ∃ s, runLabels step {} [.call 0 true, .step 0, .step 0, .step 0, .step 0, .step 0, .step 0,
        .answer 0 (some NONE), .handler, .step 0, .step 0] = some s ∧
      ∃ c ∈ s.calls, c.sent = true ∧ c.inTime = true ∧ c.pc = .returned false :=
  exists_run _ (by decide +kernel)

end TelephonyCore.Sim.PrimarySlot
