import TelephonyCore.Lib.Slots
import TelephonyCore.Lib.Transition
import Mathlib.Tactic.Cases

/-!
# `EsimFile`: the logical channel

Every eSIM operation takes a logical channel with `ObtainChannelSuccessExclusive` and gives it back
with `SyncCloseChannel`. One member `currentChannelId_` stands for the channel of whoever has one.

`occupyChannelMutex_` is held from the start of either function to its return, across its wait. It
does not cover an answer that comes when the wait is over: `ProcessEsimOpenChannelDone` stores the
channel first and looks afterwards, with a `try_lock`, whether somebody is there to use it; if the
lock is free it closes the channel itself. So the handler is two steps.

The channel the modem returned last is safe as long as somebody will close it (`Resp`): an operation
that has `SyncCloseChannel` before it, or the handler that is about to try the lock. The steps that
break it change `currentChannelId_` under such a channel; `Orderly` rules out these and no others.
-/

namespace TelephonyCore.Esim.Channel

open Lib List Option

/-! ## The machine -/

/-- Where an operation is. The points from `occupy` to `inUse` are in
`ObtainChannelSuccessExclusive`, those from `useChannel` on before and in
`SyncCloseChannel`. -/
inductive Pc where
  | occupy
  | testOpen
  | inUse
  | openChannel
  | waitOpen
  | woken
  | leave (ok : Bool)
  | release (ok : Bool)
  | useChannel
  | closeLoop (tryCnt : Nat)
  | closeChannel (tryCnt : Nat)
  | waitClosed (tryCnt : Nat)
  | reset
  | releaseClosed
  | finished (ok : Bool)
deriving DecidableEq

/-- The members, the operations by number, and what is on its way to the modem and back. -/
structure State where
  currentChannelId : Int := 0
  /-- the operation that holds `occupyChannelMutex_` -/
  occupied : Option Nat := none
  ops : List Pc := []
  /-- open requests without an answer, as the operation that sent them -/
  opens : List Nat := []
  closes : List Int := []
  /-- the event thread is before the `try_lock`, for the request of this operation -/
  handler : Option Nat := none
  returned : List Int := []
  closeRequests : List Int := []
deriving DecidableEq

def State.isLogicChannelOpen (s : State) : Bool := 0 < s.currentChannelId

def State.goto (s : State) (i : Nat) (pc : Pc) : State := { s with ops := s.ops.set i pc }

/-- Both requests to close name `currentChannelId_`, and the handlers of both answers do the same to
it. -/
def State.processEsimCloseChannel (s : State) : State :=
  { s with
    closes := s.closes ++ [s.currentChannelId]
    closeRequests := s.closeRequests ++ [s.currentChannelId] }

/-- One step of `ObtainChannelSuccessExclusive`. What a wait returns is only logged. -/
def State.obtainChannelSuccessExclusive (s : State) (i : Nat) (deadline : Bool) :
    Pc → Option State
  | .occupy =>
    if s.occupied = none then some ({ s with occupied := some i }.goto i .testOpen) else none
  | .testOpen => some (s.goto i (if s.isLogicChannelOpen then .inUse else .openChannel))
  | .inUse => some ({ s with occupied := none }.goto i (.finished false))
  | .openChannel => some ({ s with opens := s.opens ++ [i] }.goto i .waitOpen)
  | .waitOpen => if s.isLogicChannelOpen || deadline then some (s.goto i .woken) else none
  | .woken => some (s.goto i (.leave s.isLogicChannelOpen))
  | .leave ok => some (s.goto i (.release ok))
  | .release ok =>
    some ({ s with occupied := none }.goto i (if ok then .useChannel else .finished false))
  | _ => none

def State.syncCloseChannel (s : State) (i : Nat) (deadline : Bool) : Pc → Option State
  | .useChannel =>
    if s.occupied = none then some ({ s with occupied := some i }.goto i (.closeLoop 0)) else none
  | .closeLoop tryCnt =>
    some (s.goto i (if s.isLogicChannelOpen then .closeChannel tryCnt else .reset))
  | .closeChannel tryCnt => some (s.processEsimCloseChannel.goto i (.waitClosed tryCnt))
  | .waitClosed tryCnt =>
    if !s.isLogicChannelOpen then some (s.goto i .reset)
    else if deadline then
      some (s.goto i (if tryCnt + 1 ≥ 2 then .reset else .closeLoop (tryCnt + 1)))
    else none
  | .reset => some ({ s with currentChannelId := 0 }.goto i .releaseClosed)
  | .releaseClosed => some ({ s with occupied := none }.goto i (.finished true))
  | _ => none

def State.processEsimOpenChannelDone (s : State) (i : Nat) (channelId : Int) : State :=
  if channelId ≤ 0 then s
  else
    { s with
      currentChannelId := channelId
      handler := some i
      returned := s.returned ++ [channelId] }

def State.releaseSpareChannel (s : State) : State :=
  if s.occupied = none then { s.processEsimCloseChannel with handler := none }
  else { s with handler := none }

def Pc.holdsOpenMutex : Pc → Bool
  | .woken | .leave _ => true
  | _ => false

inductive Label where
  | operation (i : Nat) (deadline : Bool)
  | openDone (i : Nat) (channelId : Int)
  | tryLock
  | closeDone (channelId : Int)
deriving DecidableEq

/-- An operation takes a step, or the event thread takes the answer to the open request
of operation `i` or to the close request of a channel. -/
def step (s : State) : Label → Option State
  | .operation i deadline =>
    match s.ops[i]? with
    | none => none
    | some pc =>
      (s.obtainChannelSuccessExclusive i deadline pc).or (s.syncCloseChannel i deadline pc)
  | .openDone i channelId =>
    if s.handler = none ∧ i ∈ s.opens ∧ ¬ s.ops.any Pc.holdsOpenMutex then
      some ({ s with opens := s.opens.erase i }.processEsimOpenChannelDone i channelId)
    else none
  | .tryLock => if s.handler.isSome then some s.releaseSpareChannel else none
  | .closeDone channelId =>
    if s.handler = none ∧ channelId ∈ s.closes then
      some { s with closes := s.closes.erase channelId, currentChannelId := 0 }
    else none

def State.init (n : Nat) : State := { ops := List.replicate n .occupy }

def Pc.running : Pc → Bool
  | .occupy | .finished _ => false
  | _ => true

/-- No operation is running and no answer of the modem is outstanding. -/
def State.Quiescent (s : State) : Prop :=
  (∀ pc ∈ s.ops, ¬ pc.running) ∧ s.opens = [] ∧ s.closes = [] ∧ s.handler = none

instance (s : State) : Decidable s.Quiescent := by unfold State.Quiescent; infer_instance

/-- The modem answers with a channel that it has not returned before. -/
def Fresh (s : State) : Label → Prop
  | .openDone _ channelId => 0 < channelId ∧ channelId ∉ s.returned
  | _ => True

instance (s : State) (l : Label) : Decidable (Fresh s l) := by
  cases l <;> unfold Fresh <;> infer_instance

/-- **A channel is lost** when the answer to an operation that gave up comes while the next one
waits. That one takes channel 5 and leaves; its own channel 7 then takes the place of 5 in
`currentChannelId_` and is closed as spare. -/
theorem lost_channel :
    ∃ ls s, runLabels step (.init 2) ls = some s ∧ StepsMeet step Fresh (.init 2) ls ∧
      s.Quiescent ∧ 5 ∈ s.returned ∧ 5 ∉ s.closeRequests := by
  let op := fun i => Label.operation i false
  let ls : List Label :=
    [op 0, op 0, op 0, .operation 0 true, op 0, op 0, op 0,
      op 1, op 1, op 1, .openDone 0 5, .tryLock, op 1, op 1, op 1, op 1,
      .openDone 1 7, .tryLock, .closeDone 7, op 1, op 1, op 1, op 1]
  refine ⟨ls, ((runLabels step (.init 2) ls).getD {}), ?_⟩
  decide +kernel

/-! ## Who will close the channel -/

/-- The points at which an operation holds `occupyChannelMutex_`. -/
@[simp] def Pc.holds : Pc → Bool
  | .occupy | .useChannel | .finished _ => false
  | _ => true

/-- The operation took its wait for failed. -/
@[simp] def Pc.givenUp : Pc → Bool
  | .leave false | .release false | .finished false => true
  | _ => false

/-- The operation has yet to close whatever channel it finds open. -/
@[simp] def Pc.carries : Pc → Bool
  | .waitOpen | .woken | .leave true | .release true => true
  | .useChannel | .closeLoop _ | .closeChannel _ => true
  | _ => false

/-- The operation is past its close request. -/
@[simp] def Pc.closed : Pc → Bool
  | .waitClosed _ | .reset => true
  | _ => false

/-- The operation waits for its channel. -/
@[simp] def Pc.waits : Pc → Bool
  | .waitOpen | .woken => true
  | _ => false

/-- An open answer finds no open channel, and its operation waiting or the mutex free; the
`try_lock` finds the mutex free or an operation that has not given up; a close answer finds no other
open channel. -/
def Orderly (s : State) : Label → Prop
  | .openDone i _ =>
    ¬ s.isLogicChannelOpen ∧ (s.occupied = none ∨ s.ops[i]? = some .waitOpen)
  | .tryLock => s.occupied = none ∨ ∃ i ∈ s.handler, ∀ pc ∈ s.ops[i]?, ¬ pc.givenUp
  | .closeDone channelId => s.isLogicChannelOpen → channelId = s.currentChannelId
  | _ => True

instance (s : State) (l : Label) : Decidable (Orderly s l) := by
  cases l <;> unfold Orderly <;> infer_instance

/-- Somebody is going to close the channel in `currentChannelId_`. -/
def State.Resp (s : State) : Prop :=
  (∃ i pc, s.handler = some i ∧ s.ops[i]? = some pc ∧ pc.givenUp) ∨
    ∃ (i : Nat) (pc : Pc), s.ops[i]? = some pc ∧ pc.carries

structure OpOk (s : State) (i : Nat) (pc : Pc) : Prop where
  mutex : pc.holds ↔ s.occupied = some i
  asking : pc = .openChannel → ¬ s.isLogicChannelOpen
  pending : i ∈ s.opens → pc.givenUp ∨ pc.waits ∧ ¬ s.isLogicChannelOpen
  closing : pc.closed → s.isLogicChannelOpen → s.currentChannelId ∈ s.closeRequests

structure Inv (s : State) : Prop where
  ops : ∀ i pc, s.ops[i]? = some pc → OpOk s i pc
  asked : ∀ i ∈ s.opens, i < s.ops.length
  once : s.opens.Nodup
  closes : s.closes ⊆ s.closeRequests
  /-- the only channel not closed yet is the current one, and it will be -/
  safe : ∀ id ∈ s.returned, id ∈ s.closeRequests ∨ 0 < id ∧ id = s.currentChannelId ∧ s.Resp

theorem inv_init (n : Nat) : Inv (.init n) where
  ops := by
    intro i pc hpc
    obtain rfl := eq_of_mem_replicate (mem_of_getElem? hpc)
    exact { mutex := by simp [State.init], asking := by simp, pending := by simp [State.init],
            closing := by simp }
  asked := by simp [State.init]
  once := by simp [State.init]
  closes := by simp [State.init]
  safe := by simp [State.init]

/-! ## One step -/

variable {s s' : State} {pc : Pc} {j : Nat} {deadline : Bool} {channelId : Int}

theorem OpOk.frame (h : OpOk s j pc) (hoc : s'.occupied = some j ↔ s.occupied = some j)
    (hcr : s'.isLogicChannelOpen → s.isLogicChannelOpen ∧ s'.currentChannelId = s.currentChannelId)
    (hr : s.closeRequests ⊆ s'.closeRequests) (hon : j ∈ s'.opens → j ∈ s.opens) :
    OpOk s' j pc where
  mutex := h.mutex.trans hoc.symm
  asking := by
    intro hpc hop
    exact h.asking hpc (hcr hop).1
  pending := by
    intro hj
    rcases h.pending (hon hj) with hup | ⟨hw, hcl⟩
    · exact .inl hup
    · exact .inr ⟨hw, fun hop => hcl (hcr hop).1⟩
  closing := by
    intro hpc hop
    obtain ⟨hb, hid⟩ := hcr hop
    rw [hid]
    exact hr (h.closing hpc hb)

/-- What a step of an operation may do to its point: it never drops a channel that is open. -/
structure Moves (isOpen : Bool) (pc pc' : Pc) : Prop where
  asking : pc' = .openChannel → ¬ isOpen
  givenUp : pc.givenUp → pc'.givenUp
  waits : pc.waits → ¬ isOpen → pc'.givenUp ∨ pc'.waits
  carries : pc.carries → isOpen → pc'.carries
  closed : pc'.closed → isOpen → pc.closed

variable {i : Nat} {pc' : Pc}

theorem State.Resp.moves (h : s.Resp) (hpc : s.ops[i]? = some pc)
    (hop : s'.ops = s.ops.set i pc') (hhd : s'.handler = s.handler)
    (hup : pc.givenUp → pc'.givenUp) (hcr : pc.carries → pc'.carries) : s'.Resp := by
  have hnw : s'.ops[i]? = some pc' := by
    rw [hop, getElem?_set_self (List.getElem?_eq_some_iff.1 hpc).1]
  have hot : ∀ j, j ≠ i → s'.ops[j]? = s.ops[j]? := by
    intro j hj
    rw [hop, getElem?_set_ne (.symm hj)]
  rcases h with ⟨j, q, hj, hq, hg⟩ | ⟨j, q, hq, hca⟩
  · rcases eq_or_ne j i with rfl | hne
    · obtain rfl : pc = q := some.inj (hpc.symm.trans hq)
      exact .inl ⟨j, pc', hhd.trans hj, hnw, hup hg⟩
    · exact .inl ⟨j, q, hhd.trans hj, (hot j hne).trans hq, hg⟩
  · rcases eq_or_ne j i with rfl | hne
    · obtain rfl : pc = q := some.inj (hpc.symm.trans hq)
      exact .inr ⟨j, pc', hnw, hcr hca⟩
    · exact .inr ⟨j, q, (hot j hne).trans hq, hca⟩

theorem ops_set {P : Nat → Pc → Prop} {ops : List Pc} (hon : P i pc')
    (hot : ∀ j pc, j ≠ i → ops[j]? = some pc → P j pc) :
    ∀ j pc, (ops.set i pc')[j]? = some pc → P j pc := by
  intro j pc hj
  rcases eq_or_ne j i with rfl | hne
  · rw [getElem?_set_self'] at hj
    cases hol : ops[j]? with
    | none =>
      rw [hol] at hj
      cases hj
    | some old =>
      rw [hol] at hj
      obtain rfl : pc' = pc := some.inj hj
      exact hon
  · rw [getElem?_set_ne (.symm hne)] at hj
    exact hot j pc hne hj

theorem Inv.move {occupied : Option Nat} (h : Inv s) (hpc : s.ops[i]? = some pc)
    (hm : Moves s.isLogicChannelOpen pc pc')
    (hoc : ∀ j, j ≠ i → (occupied = some j ↔ s.occupied = some j))
    (hho : pc'.holds ↔ occupied = some i) :
    Inv ({ s with occupied := occupied }.goto i pc') := { h with
  ops := by
    refine ops_set ?_ ?_
    · have hok := h.ops i pc hpc
      exact {
        mutex := hho
        asking := hm.asking
        pending := by
          intro hi
          rcases hok.pending hi with hup | ⟨hwt, hcl⟩
          · exact .inl (hm.givenUp hup)
          · exact (hm.waits hwt hcl).imp_right (fun hw => ⟨hw, hcl⟩)
        closing := fun hc hop => hok.closing (hm.closed hc hop) hop }
    · intro j q hj hq
      exact (h.ops j q hq).frame (hoc j hj) (fun hop => ⟨hop, rfl⟩)
        (fun _ hid => hid) id
  asked := by
    intro j hj
    simpa [State.goto] using h.asked j hj
  safe := by
    intro id hid
    refine (h.safe id hid).imp_right ?_
    rintro ⟨hps, hcr, hr⟩
    have hop : s.isLogicChannelOpen := by
      rw [State.isLogicChannelOpen, ← hcr]
      exact decide_eq_true hps
    exact ⟨hps, hcr, hr.moves hpc rfl rfl hm.givenUp
      (fun hca => hm.carries hca hop)⟩ }

theorem Inv.stay (h : Inv s) (hpc : s.ops[i]? = some pc)
    (hm : Moves s.isLogicChannelOpen pc pc') (hho : pc'.holds = pc.holds) : Inv (s.goto i pc') :=
  h.move hpc hm (fun _ _ => .rfl) (hho ▸ (h.ops i pc hpc).mutex)

theorem Inv.lock (h : Inv s) (hpc : s.ops[i]? = some pc)
    (hm : Moves s.isLogicChannelOpen pc pc') (hf : s.occupied = none) (hho : pc'.holds) :
    Inv ({ s with occupied := some i }.goto i pc') := by
  refine h.move hpc hm ?_ (iff_of_true hho rfl)
  intro j hj
  simp [hf, Ne.symm hj]

theorem Inv.unlock (h : Inv s) (hpc : s.ops[i]? = some pc)
    (hm : Moves s.isLogicChannelOpen pc pc') (hhl : pc.holds) (hho : ¬ pc'.holds) :
    Inv ({ s with occupied := none }.goto i pc') := by
  refine h.move hpc hm ?_ (iff_of_false hho (by simp))
  intro j hj
  simp [(h.ops i pc hpc).mutex.1 hhl, Ne.symm hj]

theorem State.not_isLogicChannelOpen_zero (s : State) :
    ¬ State.isLogicChannelOpen { s with currentChannelId := 0 } := by
  simp [State.isLogicChannelOpen]

theorem Inv.openChannel (h : Inv s) (hpc : s.ops[i]? = some .openChannel) :
    Inv ({ s with opens := s.opens ++ [i] }.goto i .waitOpen) := by
  have hok := h.ops i _ hpc
  have hn : i ∉ s.opens := by
    intro hi
    simpa using hok.pending hi
  exact {
    ops := by
      refine ops_set ?_ ?_
      · exact {
          mutex := hok.mutex
          asking := by simp
          pending := fun _ => .inr ⟨rfl, hok.asking rfl⟩
          closing := by simp }
      · intro j q hj hq
        refine (h.ops j q hq).frame .rfl (fun hop => ⟨hop, rfl⟩) (fun _ hid => hid) ?_
        intro hm
        simpa [State.goto, hj] using hm
    asked := by
      intro j hj
      have hi := (List.getElem?_eq_some_iff.1 hpc).1
      rcases mem_concat.1 hj with hol | rfl
      · simpa [State.goto] using h.asked j hol
      · simpa [State.goto] using hi
    once := by
      refine nodup_append.2 ⟨h.once, pairwise_singleton _ i, ?_⟩
      intro a ha b hb hab
      obtain rfl := mem_singleton.1 hb
      exact hn (hab ▸ ha)
    closes := h.closes
    safe := by
      intro id hid
      refine (h.safe id hid).imp_right ?_
      rintro ⟨hps, hc, hr⟩
      exact ⟨hps, hc, hr.moves hpc rfl rfl (by simp)
        (by simp)⟩ }

theorem Inv.mem_closeRequests (h : Inv s) :
    ∀ id ∈ s.returned, id ∈ s.processEsimCloseChannel.closeRequests := by
  intro id hid
  refine mem_append.2 ((h.safe id hid).imp_right ?_)
  rintro ⟨_, hc, _⟩
  exact mem_singleton.2 hc

theorem Inv.closes_request (h : Inv s) :
    s.processEsimCloseChannel.closes ⊆ s.processEsimCloseChannel.closeRequests := by
  intro id hid
  exact mem_append.2 ((mem_append.1 hid).imp_left (fun ho => h.closes ho))

theorem Inv.closeChannel {tryCnt : Nat} (h : Inv s)
    (hpc : s.ops[i]? = some (.closeChannel tryCnt)) :
    Inv (s.processEsimCloseChannel.goto i (.waitClosed tryCnt)) where
  ops := by
    have hok := h.ops i _ hpc
    refine ops_set ?_ ?_
    · exact {
        mutex := hok.mutex
        asking := by simp
        pending := by
          intro hi
          simpa using hok.pending hi
        closing := fun _ _ => mem_append_right _ (mem_singleton.2 rfl) }
    · intro j q _ hq
      exact (h.ops j q hq).frame .rfl (fun hop => ⟨hop, rfl⟩)
        (subset_append_left _ _) id
  asked := by
    intro j hj
    simpa [State.goto, State.processEsimCloseChannel] using h.asked j hj
  once := h.once
  closes := h.closes_request
  safe := fun id hid => .inl (h.mem_closeRequests id hid)

theorem Inv.all_closed (h : Inv s)
    (hcl : s.isLogicChannelOpen → s.currentChannelId ∈ s.closeRequests) :
    ∀ id ∈ s.returned, id ∈ s.closeRequests := by
  intro id hid
  rcases h.safe id hid with hdn | ⟨hp, rfl, _⟩
  · exact hdn
  · exact hcl (decide_eq_true hp)

theorem Inv.reset (h : Inv s) (hpc : s.ops[i]? = some .reset) :
    Inv ({ s with currentChannelId := 0 }.goto i .releaseClosed) := { h with
  ops := by
    have hok := h.ops i _ hpc
    refine ops_set ?_ ?_
    · exact {
        mutex := hok.mutex
        asking := by simp
        pending := by
          intro hi
          simpa using hok.pending hi
        closing := by simp }
    · intro j q _ hq
      exact (h.ops j q hq).frame .rfl
        (fun hop => absurd hop s.not_isLogicChannelOpen_zero) (fun _ hid => hid) id
  asked := by
    intro j hj
    simpa [State.goto] using h.asked j hj
  safe := fun id hid => .inl (h.all_closed ((h.ops i _ hpc).closing rfl) id hid) }

theorem Inv.obtainChannelSuccessExclusive (h : Inv s) (hpc : s.ops[i]? = some pc)
    (hs : s.obtainChannelSuccessExclusive i deadline pc = some s') : Inv s' := by
  cases pc with
  | occupy =>
    obtain ⟨hf, ⟨⟩⟩ := ite_none_right_eq_some.1 hs
    exact h.lock hpc (by constructor <;> simp)
      hf rfl
  | testOpen =>
    cases hs
    refine h.stay hpc ?_ ?_ <;> cases s.isLogicChannelOpen
    · constructor <;> simp
    · constructor <;> simp
    · rfl
    · rfl
  | inUse =>
    cases hs
    exact h.unlock hpc (by constructor <;> simp)
      rfl (by simp)
  | openChannel =>
    cases hs
    exact h.openChannel hpc
  | waitOpen =>
    obtain ⟨_, ⟨⟩⟩ := ite_none_right_eq_some.1 hs
    exact h.stay hpc (by constructor <;> simp) rfl
  | woken =>
    -- a wait that ends on an open channel is never taken for failed
    cases hs
    refine h.stay hpc ?_ rfl
    cases s.isLogicChannelOpen <;> constructor <;>
      simp
  | leave ok =>
    cases hs
    refine h.stay hpc ?_ rfl
    cases ok <;> constructor <;> simp
  | release ok =>
    cases hs
    cases ok with
    | false | true =>
      exact h.unlock hpc (by constructor <;> simp)
        rfl (by simp)
  | _ => exact absurd hs (by simp [State.obtainChannelSuccessExclusive])

theorem Inv.syncCloseChannel (h : Inv s) (hpc : s.ops[i]? = some pc)
    (hs : s.syncCloseChannel i deadline pc = some s') : Inv s' := by
  cases pc with
  | useChannel =>
    obtain ⟨hf, ⟨⟩⟩ := ite_none_right_eq_some.1 hs
    exact h.lock hpc (by constructor <;> simp)
      hf rfl
  | closeLoop tryCnt =>
    cases hs
    refine h.stay hpc ?_ ?_ <;> cases s.isLogicChannelOpen
    · constructor <;> simp
    · constructor <;> simp
    · rfl
    · rfl
  | closeChannel tryCnt =>
    cases hs
    exact h.closeChannel hpc
  | waitClosed tryCnt =>
    have hm : ∀ pc', (pc' = .reset ∨ ∃ n, pc' = .closeLoop n) → Inv (s.goto i pc') := by
      rintro pc' (rfl | ⟨n, rfl⟩)
      · exact h.stay hpc
          (by constructor <;> simp) rfl
      · exact h.stay hpc
          (by constructor <;> simp) rfl
    rw [State.syncCloseChannel] at hs
    split at hs
    · cases hs
      exact hm _ (.inl rfl)
    · obtain ⟨_, ⟨⟩⟩ := ite_none_right_eq_some.1 hs
      refine hm _ ?_
      split
      · exact .inl rfl
      · exact .inr ⟨_, rfl⟩
  | reset =>
    cases hs
    exact h.reset hpc
  | releaseClosed =>
    cases hs
    exact h.unlock hpc (by constructor <;> simp)
      rfl (by simp)
  | _ => exact absurd hs (by simp [State.syncCloseChannel])

/-- Nobody is inside `ObtainChannelSuccessExclusive` or `SyncCloseChannel` but the
operation an orderly open answer is for. -/
theorem Inv.holds_only (h : Inv s) (ho : s.occupied = none ∨ s.ops[i]? = some .waitOpen)
    (hpc : s.ops[j]? = some pc) (hne : j ≠ i) : pc.holds = false := by
  rw [← Bool.not_eq_true]
  intro hho
  have hj := (h.ops j pc hpc).mutex.1 hho
  rcases ho with hf | hw
  · cases hj.symm.trans hf
  · have hi := (h.ops i _ hw).mutex.1 rfl
    exact hne (some.inj (hj.symm.trans hi))

theorem Inv.processEsimOpenChannelDone (h : Inv s) (hi : i ∈ s.opens)
    (hcl : ¬ s.isLogicChannelOpen) (hor : s.occupied = none ∨ s.ops[i]? = some .waitOpen)
    (hid : 0 < channelId) :
    Inv { s with
      opens := s.opens.erase i
      currentChannelId := channelId
      handler := some i
      returned := s.returned ++ [channelId] } where
  ops := by
    intro j pc hpc
    have hok := h.ops j pc hpc
    have hpd : j ∈ s.opens.erase i → pc.givenUp := by
      intro hj
      obtain ⟨hne, hm⟩ := h.once.mem_erase_iff.1 hj
      rcases hok.pending hm with hup | ⟨hw, _⟩
      · exact hup
      · have hho := h.holds_only hor hpc hne
        cases pc <;> simp_all
    have hpn : pc.holds = false ∨ pc = .waitOpen ∨ pc = .woken ∨ pc.givenUp := by
      rcases eq_or_ne j i with rfl | hne
      · rcases hok.pending hi with hup | ⟨hw, _⟩
        · exact .inr (.inr (.inr hup))
        · cases pc <;> simp_all
      · exact .inl (h.holds_only hor hpc hne)
    exact {
      mutex := hok.mutex
      asking := by
        rintro rfl
        simp at hpn
      pending := fun hj => .inl (hpd hj)
      closing := by
        intro hpc' _
        cases pc <;> simp_all }
  asked := fun j hj => h.asked j (mem_of_mem_erase hj)
  once := h.once.erase i
  closes := h.closes
  safe := by
    intro id hm
    rcases mem_concat.1 hm with hol | rfl
    · exact .inl (h.all_closed (fun hop => absurd hop hcl) id hol)
    · refine .inr ⟨hid, rfl, ?_⟩
      -- the operation that asked gave up, or it waits and will take the channel
      obtain ⟨pc, hpc⟩ : ∃ pc, s.ops[i]? = some pc := ⟨_, getElem?_eq_getElem (h.asked i hi)⟩
      rcases (h.ops i pc hpc).pending hi with hup | ⟨hw, _⟩
      · exact .inl ⟨i, pc, rfl, hpc, hup⟩
      · refine .inr ⟨i, pc, hpc, ?_⟩
        cases pc <;> simp_all

theorem Inv.releaseSpareChannel (h : Inv s)
    (hor : s.occupied = none ∨ ∃ i ∈ s.handler, ∀ pc ∈ s.ops[i]?, ¬ pc.givenUp) :
    Inv s.releaseSpareChannel := by
  rw [State.releaseSpareChannel]
  split
  next hf =>
    exact { h with
      ops := fun j pc hpc => (h.ops j pc hpc).frame .rfl (fun hop => ⟨hop, rfl⟩)
        (subset_append_left _ _) id
      closes := h.closes_request
      safe := fun id hid => .inl (h.mem_closeRequests id hid) }
  next hh =>
    obtain ⟨i, hi, hup⟩ := hor.resolve_left hh
    exact {
      ops := fun j pc hpc => (h.ops j pc hpc).frame .rfl (fun hop => ⟨hop, rfl⟩)
        (fun _ hid => hid) id
      asked := h.asked
      once := h.once
      closes := h.closes
      safe := by
        intro id hid
        refine (h.safe id hid).imp_right ?_
        rintro ⟨hps, hcu, ⟨j, pc, hj, hpc, hg⟩ | hcr⟩
        · obtain rfl : i = j := some.inj (hi.symm.trans hj)
          exact absurd hg (hup pc hpc)
        · exact ⟨hps, hcu, .inr hcr⟩ }

theorem Inv.processEsimCloseChannelDone (h : Inv s) (hm : channelId ∈ s.closes)
    (hor : s.isLogicChannelOpen → channelId = s.currentChannelId) :
    Inv { s with closes := s.closes.erase channelId, currentChannelId := 0 } := { h with
  ops := fun j pc hpc => (h.ops j pc hpc).frame .rfl
    (fun hop => absurd hop s.not_isLogicChannelOpen_zero) (fun _ hid => hid) id
  closes := fun _ hid => h.closes (mem_of_mem_erase hid)
  safe := fun id hid =>
    .inl (h.all_closed (fun hop => hor hop ▸ h.closes hm) id hid) }

theorem Inv.step {l : Label} (h : Inv s) (hor : Orderly s l) (hst : step s l = some s') :
    Inv s' := by
  cases l with
  | operation i deadline =>
    rw [Channel.step] at hst
    cases hpc : s.ops[i]? with
    | none => exact absurd hst (by simp [hpc])
    | some pc =>
      rw [hpc] at hst
      rcases or_eq_some_iff.1 hst with hob | ⟨_, hsy⟩
      · exact h.obtainChannelSuccessExclusive hpc hob
      · exact h.syncCloseChannel hpc hsy
  | openDone i channelId =>
    obtain ⟨⟨_, hi, _⟩, ⟨⟩⟩ := ite_none_right_eq_some.1 hst
    rw [State.processEsimOpenChannelDone]
    split
    next => exact { h with
      ops := fun j pc hpc => (h.ops j pc hpc).frame .rfl (fun hop => ⟨hop, rfl⟩)
        (fun _ hid => hid) mem_of_mem_erase
      asked := fun j hj => h.asked j (mem_of_mem_erase hj)
      once := h.once.erase i }
    next hid =>
      exact h.processEsimOpenChannelDone hi hor.1 hor.2 (Int.not_le.1 hid)
  | tryLock =>
    obtain ⟨_, ⟨⟩⟩ := ite_none_right_eq_some.1 hst
    exact h.releaseSpareChannel hor
  | closeDone channelId =>
    obtain ⟨⟨_, hm⟩, ⟨⟩⟩ := ite_none_right_eq_some.1 hst
    exact h.processEsimCloseChannelDone hm hor

/-! ## Whole runs -/

/-- **No channel leaks** from a run in which the answers are handled orderly: once nothing is
running or outstanding, a close was requested for every channel that the modem returned. -/
theorem channels_closed {n : Nat} {ls : List Label} {s : State}
    (horderly : StepsMeet step Orderly (.init n) ls)
    (hrun : runLabels step (.init n) ls = some s) (hquiet : s.Quiescent) :
    ∀ id ∈ s.returned, id ∈ s.closeRequests := by
  have hin := invariant_run .step ls (inv_init n) horderly hrun
  intro id hid
  rcases hin.safe id hid with hdn | ⟨_, _, hrp⟩
  · exact hdn
  · obtain ⟨hrs, _, _, hh⟩ := hquiet
    rcases hrp with ⟨i, pc, hi, _⟩ | ⟨i, pc, hpc, _⟩
    · cases hi.symm.trans hh
    · have hdn := hrs pc (mem_of_getElem? hpc)
      cases pc <;> simp_all [Pc.running]

/-- The answer to the second operation comes when it has given up, and nobody is there. -/
theorem channels_closed_late_answer :
    ∃ ls s, StepsMeet step Orderly (.init 2) ls ∧ runLabels step (.init 2) ls = some s ∧
      s.Quiescent ∧ s.returned = [5, 7] ∧ ∀ id ∈ s.returned, id ∈ s.closeRequests := by
  let op := fun i => Label.operation i false
  let ls : List Label :=
    [op 0, op 0, op 0, .openDone 0 5, .tryLock, op 0, op 0, op 0, op 0,
      op 0, op 0, op 0, .closeDone 5, op 0, op 0, op 0,
      op 1, op 1, op 1, .operation 1 true, op 1, op 1, op 1,
      .openDone 1 7, .tryLock, .closeDone 7]
  obtain ⟨s, ho, hrn, hq, hrt⟩ : ∃ s, StepsMeet step Orderly (.init 2) ls ∧
      runLabels step (.init 2) ls = some s ∧ s.Quiescent ∧ s.returned = [5, 7] :=
    exists_run_meeting _ (by decide +kernel)
  exact ⟨ls, s, ho, hrn, hq, hrt, channels_closed ho hrn hq⟩

/-- **One operation and one channel at a time**: in every state of an orderly run at most one
operation holds the mutex, at most one channel that the modem opened has not been asked to close,
and some operation or handler is going to close it. -/
theorem one_channel_open {n : Nat} {ls : List Label} {s : State}
    (horderly : StepsMeet step Orderly (.init n) ls)
    (hrun : runLabels step (.init n) ls = some s) :
    (∀ (i j : Nat) (pc pc' : Pc), s.ops[i]? = some pc → s.ops[j]? = some pc' → pc.holds →
        pc'.holds → i = j) ∧
      ∃ id, ∀ id' ∈ s.returned, id' ∉ s.closeRequests → id' = id ∧ s.Resp := by
  have h := invariant_run .step ls (inv_init n) horderly hrun
  constructor
  · intro i j pc pc' hi hj hpc hpc'
    have hoc := (h.ops i pc hi).mutex.1 hpc
    exact Option.some.inj (hoc.symm.trans ((h.ops j pc' hj).mutex.1 hpc'))
  · refine ⟨s.currentChannelId, fun id' hm hnc => ?_⟩
    obtain ⟨-, hid, hrp⟩ := (h.safe id' hm).resolve_left hnc
    exact ⟨hid, hrp⟩

/-- The first operation has its channel, the second has yet to take the mutex. -/
theorem one_channel_open_first :
    ∃ ls s, runLabels step (.init 2) ls = some s ∧ s.returned = [5] ∧ s.closeRequests = [] ∧
      s.Resp := by
  let ls : List Label := List.replicate 3 (.operation 0 false) ++ [.openDone 0 5]
  obtain ⟨s, ho, hr, hrt, hcl⟩ : ∃ s, StepsMeet step Orderly (.init 2) ls ∧
      runLabels step (.init 2) ls = some s ∧ s.returned = [5] ∧ s.closeRequests = [] :=
    exists_run_meeting _ (by decide +kernel)
  obtain ⟨id, hid⟩ := (one_channel_open ho hr).2
  exact ⟨ls, s, hr, hrt, hcl, (hid 5 (by simp [hrt]) (by simp [hcl])).2⟩

end TelephonyCore.Esim.Channel
