import Mathlib.Data.List.Count
import TelephonyCore.Lib.Transition

/-!
# Rounds of registration requests

`RadioOnState` starts a round: it sets `msgNum_` to three, takes a new serial number and asks the
modem for the operator and for the PS and the CS registration. Every answer of the round takes one
off `msgNum_`, and the one that brings it to zero runs `UpdateNetworkState` on the answers stored. A
forced round starts whether or not the previous one is complete.

The handlers know answers of earlier rounds by their serial number, but look at it only after they
have stored the answer. So a late answer can take the place of the present one of its kind. If no
late answer comes between the present one of its kind and the end of the round (`InOrder`),
`UpdateNetworkState` sees the answers of its round. The handlers and `RadioOnState` run one after
the other.
-/

namespace TelephonyCore.Network.Registration

open Lib List

/-! ## The counters of `NetworkSearchManagerInner` -/

def MSG_NUM : Int := 3

def SERIAL_NUMBER_DEFAULT : Int := -1

def SERIAL_NUMBER_THRESHOLD : Int := 1000

structure Inner where
  msgNum : Int := 0
  serialNum : Int := SERIAL_NUMBER_DEFAULT
  skipFlag : Bool := false
deriving DecidableEq

def Inner.initMsgNum (inner : Inner) : Inner := { inner with msgNum := MSG_NUM }

def Inner.checkIsNeedNotify (inner : Inner) : Bool := inner.msgNum = 0

def Inner.decMsgNum (inner : Inner) : Inner := { inner with msgNum := inner.msgNum - 1 }

def Inner.increaseSerialNum (inner : Inner) : Inner :=
  { inner with
    serialNum :=
      if inner.serialNum ≥ SERIAL_NUMBER_THRESHOLD then SERIAL_NUMBER_DEFAULT + 1
      else inner.serialNum + 1 }

def Inner.setSkipUnsolRptFlag (inner : Inner) (res : Bool) : Inner := { inner with skipFlag := res }

/-! ## The handler -/

inductive Kind where
  | operator
  | ps
  | cs
deriving DecidableEq

def REG_MT_EMERGENCY : Int := 6

/-- `OperatorInfoResult`, `PsRegStatusResultInfo` or `CsRegStatusInfo`: the serial number, the
registration status of the latter two, and the rest. -/
structure Result where
  flag : Int
  regStatus : Int
  data : Nat
deriving DecidableEq

structure Request where
  kind : Kind
  round : Nat
  serialNum : Int
deriving DecidableEq

/-- The answer to the request of a kind in a round; `none` is an error. -/
structure Answer where
  kind : Kind
  round : Nat
  result : Option Result
deriving DecidableEq

/-- `UpdateNetworkState` ran as `msgNum_` was zero: on what, and which answers there were. -/
structure Update where
  round : Nat
  stored : Kind → Option Result
  answered : List Answer

structure State where
  inner : Inner := {}
  isCsCapable : Bool := true
  radioOn : Bool := true
  /-- `operatorInfoResult_`, `psRegStatusResultInfo_` and `csRegStatusInfo_` -/
  stored : Kind → Option Result := fun _ => none
  /-- how many rounds have started; the last is the present one -/
  round : Nat := 0
  outstanding : List Request := []
  answered : List Answer := []
  updates : List Update := []

def State.radioOnState (s : State) (forceNotify : Bool) : State :=
  if !s.inner.checkIsNeedNotify && !forceNotify then
    { s with inner := s.inner.setSkipUnsolRptFlag true }
  else
    let inner := s.inner.initMsgNum.increaseSerialNum
    if inner.serialNum = SERIAL_NUMBER_DEFAULT then { s with inner }
    else
      { s with
        inner
        round := s.round + 1
        outstanding := ⟨.operator, s.round + 1, inner.serialNum⟩ ::
          ⟨.ps, s.round + 1, inner.serialNum⟩ :: ⟨.cs, s.round + 1, inner.serialNum⟩ ::
          s.outstanding }

def State.record (s : State) : State :=
  if s.inner.checkIsNeedNotify then
    { s with updates := ⟨s.round, s.stored, s.answered⟩ :: s.updates }
  else s

def State.updateNetworkState (s : State) : State :=
  if s.inner.skipFlag && s.inner.checkIsNeedNotify then
    let s := s.record.radioOnState true
    { s with inner := s.inner.setSkipUnsolRptFlag false }
  else s.record

/-- `respInfo` is the serial number in the `RadioResponseInfo` of the event, if it has one. -/
def State.handleResponseError (s : State) (respInfo : Option Int) : State :=
  match respInfo with
  | none => s
  | some flag =>
    if flag ≠ s.inner.serialNum then s
    else
      let s := { s with inner := s.inner.decMsgNum }
      if s.inner.checkIsNeedNotify then s.updateNetworkState else s

/-- The three handlers: the answer is stored, and then looked at. -/
def State.handle (s : State) (kind : Kind) (readsRegStatus : Bool) (result : Option Result)
    (respInfo : Option Int) : State :=
  let s := { s with stored := Function.update s.stored kind result }
  match result with
  | none => s.handleResponseError respInfo
  | some info =>
    if info.flag ≠ s.inner.serialNum then s
    else
      let s := { s with inner := s.inner.decMsgNum }
      if !s.radioOn then s
      else
        let isEmergency := readsRegStatus && info.regStatus = REG_MT_EMERGENCY && s.isCsCapable
        if s.inner.checkIsNeedNotify || isEmergency then s.updateNetworkState else s

def State.radioRilDataRegState (s : State) : Option Result → Option Int → State :=
  s.handle .ps true

def State.radioRilVoiceRegState (s : State) : Option Result → Option Int → State :=
  s.handle .cs true

def State.radioRilOperator (s : State) : Option Result → Option Int → State :=
  s.handle .operator false

/-! ## The machine -/

inductive Label where
  | radioOnState (forceNotify : Bool)
  /-- a result, by its registration status and data, or an error -/
  | answer (request : Request) (content : Option (Int × Nat))
  | radioState (on : Bool)

def Request.result (request : Request) (content : Option (Int × Nat)) : Option Result :=
  content.map fun (regStatus, data) => ⟨request.serialNum, regStatus, data⟩

def State.take (s : State) (request : Request) (result : Option Result) : State :=
  { s with
    outstanding := s.outstanding.erase request
    answered := ⟨request.kind, request.round, result⟩ :: s.answered }

def State.processEvent (s : State) : Kind → Option Result → Option Int → State
  | .operator => s.radioRilOperator
  | .ps => s.radioRilDataRegState
  | .cs => s.radioRilVoiceRegState

def step (s : State) : Label → Option State
  | .radioOnState forceNotify => some (s.radioOnState forceNotify)
  | .answer request content =>
    if request ∈ s.outstanding then
      let result := request.result content
      some ((s.take request result).processEvent request.kind result (some request.serialNum))
    else none
  | .radioState on => some { s with radioOn := on }

/-- The present round has a request of the kind without answer. -/
def State.Pending (s : State) (kind : Kind) : Prop :=
  ∃ request ∈ s.outstanding, request.kind = kind ∧ request.round = s.round

instance (s : State) (kind : Kind) : Decidable (s.Pending kind) :=
  inferInstanceAs (Decidable (∃ request ∈ s.outstanding, _))

/-- Each of the three is the answer to the request of the round. -/
def Update.OfRound (u : Update) : Prop :=
  ∀ (kind : Kind) (result : Option Result),
    ⟨kind, u.round, result⟩ ∈ u.answered ↔ result = u.stored kind

/-- A late answer comes before the present one of its kind, or after the round is complete. -/
def InOrder (s : State) : Label → Prop
  | .answer request _ =>
    request.round = s.round ∨ s.inner.msgNum = 0 ∨ s.Pending request.kind
  | _ => True

instance (s : State) (l : Label) : Decidable (InOrder s l) := by
  unfold InOrder
  split <;> infer_instance

/-! ## What holds between the events -/

structure Inv (s : State) : Prop where
  serial : s.inner.serialNum = s.round - 1
  requests : ∀ request ∈ s.outstanding,
    request.serialNum = request.round - 1 ∧ 0 < request.round ∧ request.round ≤ s.round
  nodup : s.outstanding.Nodup
  answers : ∀ answer ∈ s.answered, answer.round ≤ s.round
  /-- a request that waits has no answer -/
  waiting : ∀ request ∈ s.outstanding, ∀ answer ∈ s.answered,
    answer.kind = request.kind → answer.round ≠ request.round
  once : ∀ answer ∈ s.answered, ∀ other ∈ s.answered, answer.kind = other.kind →
    answer.round = other.round → answer = other
  count : s.inner.msgNum = s.outstanding.countP (fun request => request.round = s.round)
  /-- what is stored during a round is the answer of the round, once that has come -/
  present : ∀ kind, s.round = 0 ∨ s.Pending kind ∨
    ∃ result, ⟨kind, s.round, result⟩ ∈ s.answered ∧ (s.inner.msgNum ≠ 0 → s.stored kind = result)
  updates : ∀ u ∈ s.updates, u.OfRound

/-- The part of the invariant that needs no order of the answers. -/
structure CountInv (s : State) : Prop where
  serial : s.inner.serialNum = s.round - 1
  requests : ∀ request ∈ s.outstanding,
    request.serialNum = request.round - 1 ∧ 0 < request.round ∧ request.round ≤ s.round
  nodup : s.outstanding.Nodup
  count : s.inner.msgNum = s.outstanding.countP (fun request => request.round = s.round)

variable {s s' : State} {request : Request} {l : Label}

theorem Inv.counted (h : Inv s) : CountInv s := ⟨h.serial, h.requests, h.nodup, h.count⟩

def State.seen (s : State) : Update := ⟨s.round, s.stored, s.answered⟩

theorem inv_init (isCsCapable radioOn : Bool) : Inv { isCsCapable, radioOn } where
  serial := rfl
  requests := by simp
  nodup := nodup_nil
  answers := by simp
  waiting := by simp
  once := by simp
  count := rfl
  present := fun _ => .inl rfl
  updates := by simp

theorem Inv.setSkipUnsolRptFlag (h : Inv s) (res : Bool) :
    Inv { s with inner := s.inner.setSkipUnsolRptFlag res } :=
  { h with }

theorem Inv.radioState (h : Inv s) (on : Bool) : Inv { s with radioOn := on } :=
  { h with }

theorem CountInv.increaseSerialNum (h : CountInv s) (hr : s.round < 1000) :
    s.inner.initMsgNum.increaseSerialNum.serialNum = s.round := by
  have hs := h.serial
  have hl : ¬s.inner.serialNum ≥ SERIAL_NUMBER_THRESHOLD := by
    rw [SERIAL_NUMBER_THRESHOLD]
    omega
  have hn : s.inner.initMsgNum.increaseSerialNum.serialNum = s.inner.serialNum + 1 := if_neg hl
  omega

/-- The round that `RadioOnState` starts. -/
def State.start (s : State) : State :=
  { s with
    inner := s.inner.initMsgNum.increaseSerialNum
    round := s.round + 1
    outstanding := ⟨.operator, s.round + 1, s.round⟩ :: ⟨.ps, s.round + 1, s.round⟩ ::
      ⟨.cs, s.round + 1, s.round⟩ :: s.outstanding }

theorem CountInv.radioOnState_eq (h : CountInv s) (hr : s.round < 1000) (forceNotify : Bool) :
    s.radioOnState forceNotify =
      if !s.inner.checkIsNeedNotify && !forceNotify then
        { s with inner := s.inner.setSkipUnsolRptFlag true } else s.start := by
  have hs := h.increaseSerialNum hr
  have hne : (s.round : Int) ≠ SERIAL_NUMBER_DEFAULT := by
    rw [SERIAL_NUMBER_DEFAULT]
    omega
  simp only [State.radioOnState, hs]
  rfl

theorem CountInv.start (h : CountInv s) (hrn : s.round < 1000) : CountInv s.start := by
  have hs := h.increaseSerialNum hrn
  have hb : ∀ request ∈ s.outstanding, request.round ≠ s.round + 1 := by
    intro request hrq
    have := (h.requests request hrq).2.2
    omega
  exact {
    serial := by
      simp only [State.start]
      omega
    requests := by
      intro request hrq
      simp only [State.start, mem_cons] at hrq
      rcases hrq with rfl | rfl | rfl | ho
      · exact ⟨by simp, by simp, Nat.le_refl _⟩
      · exact ⟨by simp, by simp, Nat.le_refl _⟩
      · exact ⟨by simp, by simp, Nat.le_refl _⟩
      · obtain ⟨hnm, hp, hle⟩ := h.requests request ho
        exact ⟨hnm, hp, Nat.le_succ_of_le hle⟩
    nodup := by
      have hnw : ∀ kind, (⟨kind, s.round + 1, s.round⟩ : Request) ∉ s.outstanding :=
        fun kind hmem => hb _ hmem rfl
      simp [State.start, h.nodup, hnw]
    count := by
      have hz : s.outstanding.countP (fun request => request.round = s.round + 1) = 0 := by
        rw [countP_eq_zero]
        intro request hrq
        simpa using hb request hrq
      simp [State.start, Inner.increaseSerialNum, Inner.initMsgNum, MSG_NUM, hz] }

theorem Inv.radioOnState (h : Inv s) (hrn : s.round < 1000) (forceNotify : Bool) :
    Inv (s.radioOnState forceNotify) := by
  rw [h.counted.radioOnState_eq hrn]
  split
  · exact h.setSkipUnsolRptFlag true
  have hb : ∀ answer ∈ s.answered, answer.round ≠ s.round + 1 := by
    intro answer han
    have := h.answers answer han
    omega
  obtain ⟨hs, hrq, hnd, hc⟩ := h.counted.start hrn
  exact { h with
    serial := hs
    requests := hrq
    nodup := hnd
    count := hc
    answers := fun answer han => Nat.le_succ_of_le (h.answers answer han)
    waiting := by
      intro request hre answer han hk
      simp only [State.start, mem_cons] at hre
      rcases hre with rfl | rfl | rfl | ho
      · exact hb answer han
      · exact hb answer han
      · exact hb answer han
      · exact h.waiting request ho answer han hk
    present := by
      intro kind
      refine .inr (.inl ⟨⟨kind, s.round + 1, s.round⟩, ?_, rfl, rfl⟩)
      cases kind <;> simp [State.start] }

theorem Inv.record (h : Inv s) (hs : s.inner.msgNum = 0 → s.seen.OfRound) : Inv s.record := by
  rw [State.record]
  split
  next hz =>
    refine ⟨h.serial, h.requests, h.nodup, h.answers, h.waiting, h.once, h.count, h.present, ?_⟩
    intro u hu
    rcases mem_cons.1 hu with rfl | ho
    · exact hs (of_decide_eq_true hz)
    · exact h.updates u ho
  next => exact h

theorem record_round (s : State) : s.record.round = s.round := by
  rw [State.record]
  split <;> rfl

theorem Inv.updateNetworkState (h : Inv s) (hrn : s.round < 1000)
    (hsn : s.inner.msgNum = 0 → s.seen.OfRound) : Inv s.updateNetworkState := by
  rw [State.updateNetworkState]
  have hrc := h.record hsn
  split
  · have hst := hrc.radioOnState (by rw [record_round]; exact hrn) true
    exact hst.setSkipUnsolRptFlag false
  · exact hrc

def State.store (s : State) (request : Request) (result : Option Result) : State :=
  { s.take request result with stored := Function.update s.stored request.kind result }

/-- And counted, if it is one of the present round. -/
def State.count (s : State) (request : Request) (result : Option Result) : State :=
  { s.store request result with inner := s.inner.decMsgNum }

theorem CountInv.late_iff (h : CountInv s) (hmem : request ∈ s.outstanding) :
    request.serialNum ≠ s.inner.serialNum ↔ request.round ≠ s.round := by
  have hn := (h.requests request hmem).1
  have hs := h.serial
  omega

theorem countP_erase_request (hmem : request ∈ s.outstanding) :
    (s.outstanding.erase request).countP (fun other => other.round = s.round) +
      (if request.round = s.round then 1 else 0) =
    s.outstanding.countP (fun other => other.round = s.round) := by
  have hp : request.round = s.round →
      0 < s.outstanding.countP (fun other => other.round = s.round) := fun hr =>
    countP_pos_iff.2 ⟨request, hmem, by simpa using hr⟩
  rw [countP_erase]
  by_cases hr : request.round = s.round
  · have := hp hr
    simp only [hmem, hr, decide_true, and_self, if_true]
    omega
  · simp [hr]

theorem CountInv.store (h : CountInv s) (hmem : request ∈ s.outstanding)
    (hl : request.round ≠ s.round) (result : Option Result) :
    CountInv (s.store request result) where
  serial := h.serial
  requests := fun other ho => h.requests other (h.nodup.mem_erase_iff.1 ho).2
  nodup := h.nodup.erase request
  count := by
    have he := countP_erase_request hmem
    rw [if_neg hl] at he
    exact h.count.trans (congrArg _ he.symm)

theorem CountInv.counts (h : CountInv s) (hmem : request ∈ s.outstanding)
    (hr : request.round = s.round) (result : Option Result) :
    CountInv (s.count request result) where
  serial := h.serial
  requests := fun other ho => h.requests other (h.nodup.mem_erase_iff.1 ho).2
  nodup := h.nodup.erase request
  count := by
    have he := countP_erase_request hmem
    rw [if_pos hr] at he
    have hc := h.count
    show s.inner.msgNum - 1 =
      ((s.outstanding.erase request).countP (fun other => other.round = s.round) : Int)
    omega

section Answer

variable {s : State} {request : Request} (result : Option Result) (h : Inv s)
  (hmem : request ∈ s.outstanding)

include h hmem

theorem Inv.request_unique {other : Request} (ho : other ∈ s.outstanding)
    (hk : other.kind = request.kind) (hr : other.round = request.round) : other = request := by
  obtain ⟨kind, round, _⟩ := request
  obtain ⟨_, _, _⟩ := other
  have hn := (h.requests _ hmem).1
  have hn' := (h.requests _ ho).1
  simp only at hk hr hn hn'
  rw [hk, hr, hn, hn', hr]

theorem Inv.store_waiting : ∀ other ∈ (s.store request result).outstanding,
    ∀ answer ∈ (s.store request result).answered, answer.kind = other.kind →
      answer.round ≠ other.round := by
  intro other hot answer ha hk hr
  obtain ⟨hne, hot⟩ := h.nodup.mem_erase_iff.1 hot
  rcases mem_cons.1 ha with rfl | hol
  · exact hne (h.request_unique hmem hot hk.symm hr.symm)
  · exact h.waiting other hot answer hol hk hr

theorem Inv.store_once : ∀ answer ∈ (s.store request result).answered,
    ∀ other ∈ (s.store request result).answered, answer.kind = other.kind →
      answer.round = other.round → answer = other := by
  intro answer ha other hot hk hr
  rcases mem_cons.1 ha with rfl | hol
  · rcases mem_cons.1 hot with rfl | hol'
    · rfl
    · exact absurd hr.symm (h.waiting request hmem other hol' hk.symm)
  · rcases mem_cons.1 hot with rfl | hol'
    · exact absurd hr (h.waiting request hmem answer hol hk)
    · exact h.once answer hol other hol' hk hr

theorem Inv.store_answers : ∀ answer ∈ (s.store request result).answered,
    answer.round ≤ s.round := by
  intro answer ha
  rcases mem_cons.1 ha with rfl | ho
  · exact (h.requests request hmem).2.2
  · exact h.answers answer ho

theorem Inv.store_pending {kind : Kind} (hp : s.Pending kind)
    (ho : kind ≠ request.kind ∨ request.round ≠ s.round) :
    (s.store request result).Pending kind := by
  obtain ⟨other, hm', hk, hr⟩ := hp
  refine ⟨other, h.nodup.mem_erase_iff.2 ⟨?_, hm'⟩, hk, hr⟩
  rintro rfl
  rcases ho with hne | hne
  · exact hne hk.symm
  · exact hne hr

/-- A late answer, in order, does not take the place of an answer of the round. -/
theorem Inv.store_late (hl : request.round ≠ s.round)
    (ho : s.inner.msgNum = 0 ∨ s.Pending request.kind) : Inv (s.store request result) := { h with
  requests := (h.counted.store hmem hl result).requests
  nodup := h.nodup.erase request
  answers := h.store_answers result hmem
  waiting := h.store_waiting result hmem
  once := h.store_once result hmem
  count := (h.counted.store hmem hl result).count
  present := by
    intro kind
    rcases h.present kind with hz | hp | ⟨stored, ha, hs⟩
    · exact .inl hz
    · exact .inr (.inl (h.store_pending result hmem hp (.inr hl)))
    · refine .inr ?_
      by_cases hk : kind = request.kind
      · subst hk
        rcases ho with hz | hp
        · exact .inr ⟨stored, mem_cons_of_mem _ ha, fun hne => absurd hz hne⟩
        · exact .inl (h.store_pending result hmem hp (.inr hl))
      · refine .inr ⟨stored, mem_cons_of_mem _ ha, fun hne => ?_⟩
        rw [← hs hne]
        exact Function.update_of_ne hk _ _ }

theorem Inv.store_present (hr : request.round = s.round) (kind : Kind) :
    (s.store request result).Pending kind ∨
      ⟨kind, s.round, (s.store request result).stored kind⟩ ∈ (s.store request result).answered := by
  by_cases hk : kind = request.kind
  · refine .inr (mem_cons.2 (.inl ?_))
    rw [hk, ← hr]
    simp only [State.store, Function.update_self]
  have hps : s.inner.msgNum ≠ 0 := by
    have he := countP_erase_request hmem
    rw [if_pos hr] at he
    have hc := h.count
    omega
  rcases h.present kind with _ | hpn | ⟨stored, han, hs⟩
  · have := (h.requests request hmem).2.1
    omega
  · exact .inl (h.store_pending result hmem hpn (.inl hk))
  · refine .inr (mem_cons_of_mem _ ?_)
    simp only [State.store, Function.update_of_ne hk, hs hps]
    exact han

theorem Inv.count_present (hr : request.round = s.round) : Inv (s.count request result) := { h with
  requests := (h.counted.counts hmem hr result).requests
  nodup := h.nodup.erase request
  answers := h.store_answers result hmem
  waiting := h.store_waiting result hmem
  once := h.store_once result hmem
  count := (h.counted.counts hmem hr result).count
  present := by
    intro kind
    rcases h.store_present result hmem hr kind with hp | ha
    · exact .inr (.inl hp)
    · exact .inr (.inr ⟨_, ha, fun _ => rfl⟩) }

theorem Inv.count_seen (hr : request.round = s.round)
    (hl : (s.count request result).inner.msgNum = 0) : (s.count request result).seen.OfRound := by
  have he := countP_erase_request hmem
  rw [if_pos hr] at he
  have hc := h.count
  have hdc : (s.count request result).inner.msgNum = s.inner.msgNum - 1 := rfl
  have hn : ∀ kind, ¬(s.store request result).Pending kind := by
    rintro kind ⟨other, ho, _, ho'⟩
    have : 0 < (s.outstanding.erase request).countP (fun other => other.round = s.round) :=
      countP_pos_iff.2 ⟨other, ho, decide_eq_true ho'⟩
    omega
  have hs : ∀ kind,
      ⟨kind, s.round, (s.store request result).stored kind⟩ ∈
        (s.store request result).answered := fun kind =>
    (h.store_present result hmem hr kind).resolve_left (hn kind)
  intro kind other
  refine ⟨fun ho => ?_, ?_⟩
  · have := h.store_once result hmem _ ho _ (hs kind) rfl rfl
    exact congrArg Answer.result this
  · rintro rfl
    exact hs kind

end Answer

/-- With the radio on, the last answer of a round leads to an update. -/
theorem handle_take (s : State) (request : Request) (content : Option (Int × Nat))
    (readsRegStatus : Bool) :
    ∃ updates : Bool, (s.radioOn → s.inner.decMsgNum.checkIsNeedNotify → updates) ∧
      (s.take request (request.result content)).handle request.kind readsRegStatus
        (request.result content) (some request.serialNum) =
      if request.serialNum ≠ s.inner.serialNum then s.store request (request.result content)
      else if updates then (s.count request (request.result content)).updateNetworkState
      else s.count request (request.result content) := by
  cases content with
  | none => exact ⟨s.inner.decMsgNum.checkIsNeedNotify, fun _ => id, rfl⟩
  | some info =>
    let notifies := s.inner.decMsgNum.checkIsNeedNotify ||
      (readsRegStatus && info.1 = REG_MT_EMERGENCY && s.isCsCapable)
    refine ⟨s.radioOn && notifies, fun hon hl => by simp [hon, hl, notifies], ?_⟩
    have hs : (s.take request (request.result (some info))).handle request.kind readsRegStatus
        (request.result (some info)) (some request.serialNum) =
      if request.serialNum ≠ s.inner.serialNum then s.store request (request.result (some info))
      else if !s.radioOn then s.count request (request.result (some info))
      else if notifies then (s.count request (request.result (some info))).updateNetworkState
      else s.count request (request.result (some info)) := rfl
    rw [hs]
    cases s.radioOn with
    | true | false => rfl

variable {content : Option (Int × Nat)}

theorem step_answer (hs : step s (.answer request content) = some s') :
    request ∈ s.outstanding ∧ ∃ updates : Bool,
      (s.radioOn → s.inner.decMsgNum.checkIsNeedNotify → updates) ∧
      s' = if request.serialNum ≠ s.inner.serialNum then s.store request (request.result content)
        else if updates then (s.count request (request.result content)).updateNetworkState
        else s.count request (request.result content) := by
  obtain ⟨hmem, ⟨⟩⟩ := Option.ite_none_right_eq_some.1 hs
  refine ⟨hmem, ?_⟩
  obtain ⟨kind, _, serialNum⟩ := request
  cases kind with
  | operator => exact handle_take s _ content false
  | ps | cs => exact handle_take s _ content true

theorem Inv.answer (h : Inv s) (hr : s.round < 1000) (ho : InOrder s (.answer request content))
    (hs : Registration.step s (.answer request content) = some s') : Inv s' := by
  obtain ⟨hmem, updates, -, rfl⟩ := step_answer hs
  have hl := h.counted.late_iff hmem
  by_cases hr' : request.round = s.round
  · rw [if_neg (fun hne => hl.1 hne hr')]
    have hc := h.count_present (request.result content) hmem hr'
    cases updates with
    | true =>
      exact hc.updateNetworkState hr
        (h.count_seen (request.result content) hmem hr')
    | false => exact hc
  · rw [if_pos (hl.2 hr')]
    exact h.store_late (request.result content) hmem hr' (ho.resolve_left hr')

theorem Inv.step (h : Inv s) (hr : s.round < 1000) (ho : InOrder s l)
    (hs : step s l = some s') : Inv s' := by
  cases l with
  | radioOnState forceNotify =>
    cases hs
    exact h.radioOnState hr forceNotify
  | answer request content => exact h.answer hr ho hs
  | radioState on =>
    cases hs
    exact h.radioState on

theorem round_le_radioOnState (s : State) (forceNotify : Bool) :
    s.round ≤ (s.radioOnState forceNotify).round := by
  rw [State.radioOnState]
  split
  · exact Nat.le_refl _
  · simp only
    split
    · exact Nat.le_refl _
    · exact Nat.le_succ _

theorem round_le_updateNetworkState (s : State) : s.round ≤ s.updateNetworkState.round := by
  have hr := record_round s
  rw [State.updateNetworkState]
  split
  · rw [← hr]
    exact round_le_radioOnState s.record true
  · exact Nat.le_of_eq hr.symm

theorem round_le_step (hs : step s l = some s') : s.round ≤ s'.round := by
  cases l with
  | radioOnState forceNotify =>
    cases hs
    exact round_le_radioOnState s forceNotify
  | answer request content =>
    obtain ⟨-, _, -, rfl⟩ := step_answer hs
    split
    · exact Nat.le_refl _
    · split
      · exact round_le_updateNetworkState (s.count request (request.result content))
      · exact Nat.le_refl _
  | radioState on =>
    cases hs
    exact Nat.le_refl _

/-- **Rounds do not mix**, if late answers keep to the order: in fewer rounds than the threshold,
whenever `UpdateNetworkState` runs because `msgNum_` is zero, each of the three is the answer to the
request of the present round, or null if that was an error. -/
theorem rounds_do_not_mix {isCsCapable radioOn : Bool} {ls : List Label} {s : State}
    (horder : StepsMeet step InOrder { isCsCapable, radioOn } ls)
    (hrun : runLabels step { isCsCapable, radioOn } ls = some s) (hround : s.round < 1000) :
    ∀ u ∈ s.updates, u.OfRound := by
  have hs : ∀ {s s' : State} {l : Label}, (s.round < 1000 → Inv s) → InOrder s l →
      step s l = some s' → s'.round < 1000 → Inv s' := by
    intro s s' l h horder hs hround
    have hb := Nat.lt_of_le_of_lt (round_le_step hs) hround
    exact (h hb).step hb horder hs
  exact (invariant_run hs ls (fun _ => inv_init isCsCapable radioOn) horder hrun hround).updates

/-- The first round is abandoned for the second, and its PS answer comes first; a third starts by
itself, as a request for it was skipped. -/
def overtakingRun : List Label :=
  [Label.radioOnState false, Label.radioOnState true, Label.radioOnState false,
    Label.answer ⟨.operator, 2, 1⟩ (some (0, 21)), Label.answer ⟨.ps, 1, 0⟩ (some (0, 12)),
    Label.answer ⟨.ps, 2, 1⟩ (some (1, 22)), Label.answer ⟨.cs, 2, 1⟩ none]

theorem rounds_do_not_mix_overtaking :
    ∃ s : State, s.round = 3 ∧ s.updates.length = 1 ∧ ∀ u ∈ s.updates, u.OfRound := by
  obtain ⟨s, ho, hru, hrn, hu⟩ : ∃ s, StepsMeet step InOrder {} overtakingRun ∧
      runLabels step {} overtakingRun = some s ∧ s.round = 3 ∧ s.updates.length = 1 :=
    exists_run_meeting _ (by decide +kernel)
  exact ⟨s, hrn, hu, rounds_do_not_mix ho hru (by omega)⟩

/-- The PS answer of the first round comes after that of the second. -/
def lateRun : List Label :=
  [Label.radioOnState false, Label.radioOnState true,
    Label.answer ⟨.operator, 2, 1⟩ (some (0, 21)), Label.answer ⟨.ps, 2, 1⟩ (some (1, 22)),
    Label.answer ⟨.ps, 1, 0⟩ (some (0, 12)), Label.answer ⟨.cs, 2, 1⟩ (some (1, 23))]

/-- **A late answer is used**: `UpdateNetworkState` runs in the second round on the PS answer of the
first one. -/
theorem late_answer_used :
    ∃ ls s, runLabels step {} ls = some s ∧ s.round < 1000 ∧
      ∃ u ∈ s.updates, u.round = 2 ∧ u.stored .ps = some ⟨0, 0, 12⟩ ∧
        ⟨.ps, 2, some ⟨1, 1, 22⟩⟩ ∈ u.answered ∧ ¬u.OfRound := by
  obtain ⟨s, hru, hrn, u, hu, hl, hs, han⟩ : ∃ s,
      runLabels step {} lateRun = some s ∧ s.round < 1000 ∧ ∃ u ∈ s.updates, u.round = 2 ∧
        u.stored .ps = some ⟨0, 0, 12⟩ ∧ ⟨.ps, 2, some ⟨1, 1, 22⟩⟩ ∈ u.answered :=
    exists_run _ (by decide +kernel)
  refine ⟨lateRun, s, hru, hrn, u, hu, hl, hs, han, fun hrn => ?_⟩
  have heq := (hrn .ps (some ⟨1, 1, 22⟩)).1 (hl ▸ han)
  rw [hs] at heq
  cases heq

/-! ## No report is ignored -/

/-- With the radio on, a report is remembered only during a round, and a round without requests that
wait has led to an update. -/
structure ReportInv (s : State) : Prop where
  counted : CountInv s
  radioOn : s.radioOn = true
  skipped : s.inner.skipFlag → s.inner.msgNum ≠ 0
  completed : s.inner.msgNum = 0 → s.round = 0 ∨ ∃ u ∈ s.updates, u.round = s.round

/-- The report that came in round `n` has led to a new round, or is remembered. -/
def State.Reported (n : Nat) (s : State) : Prop := n < s.round ∨ (n = s.round ∧ s.inner.skipFlag)

def RadioStaysOn (_ : State) : Label → Prop
  | .radioState on => on = true
  | _ => True

instance (s : State) (l : Label) : Decidable (RadioStaysOn s l) := by
  unfold RadioStaysOn
  split <;> infer_instance

section Report

variable {s : State}

theorem ReportInv.of_busy (h : CountInv s) (hon : s.radioOn = true) (hb : s.inner.msgNum ≠ 0) :
    ReportInv s :=
  ⟨h, hon, fun _ => hb, fun hz => absurd hz hb⟩

theorem ReportInv.radioOnState (h : ReportInv s) (hrn : s.round < 1000) (forceNotify : Bool) :
    ReportInv (s.radioOnState forceNotify) ∧ (s.radioOnState forceNotify).Reported s.round := by
  rw [h.counted.radioOnState_eq hrn]
  split
  next hsk =>
    have hb : s.inner.msgNum ≠ 0 := by
      have hch := (Bool.and_eq_true_iff.1 hsk).1
      simpa [Inner.checkIsNeedNotify] using hch
    obtain ⟨hsr, hrq, hnd, hcn⟩ := h.counted
    exact ⟨.of_busy ⟨hsr, hrq, hnd, hcn⟩ h.radioOn hb, .inr ⟨rfl, rfl⟩⟩
  next =>
    have hb : s.start.inner.msgNum ≠ 0 := by
      show MSG_NUM ≠ 0
      decide
    exact ⟨.of_busy (h.counted.start hrn) h.radioOn hb, .inl (Nat.lt_succ_self _)⟩

/-- The last answer of a round updates, and starts a round for a report that was remembered. -/
theorem ReportInv.updateNetworkState (h : CountInv s) (hon : s.radioOn = true)
    (hrn : s.round < 1000) :
    ReportInv s.updateNetworkState ∧ ∀ n, s.Reported n → s.updateNetworkState.Reported n := by
  by_cases hz : s.inner.msgNum = 0
  · have hch : s.inner.checkIsNeedNotify = true := decide_eq_true hz
    obtain ⟨hsr, hrq, hnd, hcn⟩ := h
    have hrc : s.record = { s with updates := s.seen :: s.updates } := if_pos hch
    rw [State.updateNetworkState, hrc, hch, Bool.and_true]
    split
    next =>
      have haf : CountInv { s with updates := s.seen :: s.updates } := ⟨hsr, hrq, hnd, hcn⟩
      rw [haf.radioOnState_eq hrn, if_neg (by simp)]
      obtain ⟨hsr, hrq, hnd, hcn⟩ := haf.start hrn
      have hb : MSG_NUM ≠ 0 := by decide
      refine ⟨.of_busy ⟨hsr, hrq, hnd, hcn⟩ hon hb, fun n hrp => .inl ?_⟩
      show n < s.round + 1
      rcases hrp with hlt | ⟨rfl, -⟩
      · exact Nat.lt_succ_of_lt hlt
      · exact Nat.lt_succ_self _
    next hsk =>
      refine ⟨⟨⟨hsr, hrq, hnd, hcn⟩, hon, fun hy => absurd hy hsk, fun _ => ?_⟩, fun _ => id⟩
      exact .inr ⟨_, mem_cons_self, rfl⟩
  · have hch : s.inner.checkIsNeedNotify = false := decide_eq_false hz
    have hsm : s.updateNetworkState = s := by
      simp [State.updateNetworkState, State.record, hch]
    rw [hsm]
    exact ⟨.of_busy h hon hz, fun _ => id⟩

theorem ReportInv.answer (h : ReportInv s) (hr : s.round < 1000)
    (hs : Registration.step s (.answer request content) = some s') :
    ReportInv s' ∧ ∀ n, s.Reported n → s'.Reported n := by
  obtain ⟨hmem, updates, hls, rfl⟩ := step_answer hs
  by_cases hla : request.round = s.round
  · rw [if_neg (fun hne => (h.counted.late_iff hmem).1 hne hla)]
    have hc := h.counted.counts hmem hla (request.result content)
    cases updates with
    | true => exact ReportInv.updateNetworkState hc h.radioOn hr
    | false =>
      refine ⟨.of_busy hc h.radioOn fun hz => ?_, fun _ => id⟩
      cases hls h.radioOn (decide_eq_true hz)
  · rw [if_pos ((h.counted.late_iff hmem).2 hla)]
    exact ⟨⟨h.counted.store hmem hla _, h.radioOn, h.skipped, h.completed⟩, fun _ => id⟩

theorem ReportInv.step (h : ReportInv s) (hrn : s.round < 1000) (hon : RadioStaysOn s l)
    (hst : step s l = some s') : ReportInv s' ∧ ∀ n, s.Reported n → s'.Reported n := by
  cases l with
  | radioOnState forceNotify =>
    cases hst
    obtain ⟨hin, hnw⟩ := h.radioOnState hrn forceNotify
    refine ⟨hin, fun n hrp => ?_⟩
    rcases hrp with hlt | ⟨rfl, -⟩
    · exact .inl (Nat.lt_of_lt_of_le hlt (round_le_radioOnState s forceNotify))
    · exact hnw
  | answer request content => exact h.answer hrn hst
  | radioState on =>
    cases hst
    obtain ⟨⟨hsr, hrq, hnd, hcn⟩, _, hsk, hcp⟩ := h
    exact ⟨⟨⟨hsr, hrq, hnd, hcn⟩, hon, hsk, hcp⟩, fun _ => id⟩

theorem reportInv_run {n : Nat} {s₀ s : State} {ls : List Label} (h : s₀.round < 1000 → ReportInv s₀)
    (hon : StepsMeet step RadioStaysOn s₀ ls) (hru : runLabels step s₀ ls = some s)
    (hrn : s.round < 1000) : ReportInv s ∧ (s₀.Reported n → s.Reported n) := by
  have hst : ∀ {s s' : State} {l : Label},
      (s.round < 1000 → ReportInv s ∧ (s₀.Reported n → s.Reported n)) → RadioStaysOn s l →
      step s l = some s' → s'.round < 1000 → ReportInv s' ∧ (s₀.Reported n → s'.Reported n) := by
    intro s s' l hs hon hst hrn
    have hbf := Nat.lt_of_le_of_lt (round_le_step hst) hrn
    obtain ⟨hin, hrp⟩ := hs hbf
    obtain ⟨hin', hkp⟩ := hin.step hbf hon hst
    exact ⟨hin', fun hy => hkp n (hrp hy)⟩
  exact invariant_run hst ls (fun hbl => ⟨h hbl, id⟩) hon hru hrn

end Report

theorem reportInv_init (isCsCapable : Bool) : ReportInv { isCsCapable } :=
  ⟨(inv_init isCsCapable true).counted, rfl, by simp, fun _ => .inl rfl⟩

/-- **No report is ignored**: with the radio on and fewer rounds than the threshold, after a call of
`RadioOnState` every state without unanswered requests has a later round than the one before the
call, which has led to an update. -/
theorem no_report_ignored {isCsCapable forceNotify : Bool} {before after : List Label} {s₀ s : State}
    (honBefore : StepsMeet step RadioStaysOn { isCsCapable } before)
    (hbefore : runLabels step { isCsCapable } before = some s₀)
    (honAfter : StepsMeet step RadioStaysOn (s₀.radioOnState forceNotify) after)
    (hafter : runLabels step (s₀.radioOnState forceNotify) after = some s)
    (hround : s.round < 1000) (hnone : s.outstanding = []) :
    s₀.round < s.round ∧ ∃ u ∈ s.updates, u.round = s.round := by
  have hle : (s₀.radioOnState forceNotify).round ≤ s.round :=
    invariant_every_run (fun hle hst => Nat.le_trans hle (round_le_step hst)) after
      (Nat.le_refl _) hafter
  have hbl := Nat.lt_of_le_of_lt (round_le_radioOnState s₀ forceNotify)
    (Nat.lt_of_le_of_lt hle hround)
  have hin := (reportInv_run (n := 0) (fun _ => reportInv_init isCsCapable) honBefore hbefore
    hbl).1
  obtain ⟨hc, hrp⟩ := hin.radioOnState hbl forceNotify
  obtain ⟨he, hk⟩ := reportInv_run (n := s₀.round) (fun _ => hc) honAfter hafter hround
  have hz : s.inner.msgNum = 0 := by
    rw [he.counted.count, hnone]
    rfl
  have hlt : s₀.round < s.round := (hk hrp).resolve_right fun hsk => he.skipped hsk.2 hz
  exact ⟨hlt, (he.completed hz).resolve_left (by omega)⟩

def firstRound : List Label :=
  [.radioOnState false, .answer ⟨.operator, 1, 0⟩ none, .answer ⟨.ps, 1, 0⟩ (some (6, 12))]

def secondRound : List Label :=
  [.answer ⟨.cs, 1, 0⟩ (some (1, 13)), .answer ⟨.cs, 2, 1⟩ none, .answer ⟨.ps, 2, 1⟩ (some (1, 22)),
    .answer ⟨.operator, 2, 1⟩ none]

/-- A report comes while the first round waits for its last answer, which starts the second. -/
theorem no_report_ignored_skipped :
    ∃ s : State, s.round = 2 ∧ ∃ u ∈ s.updates, u.round = 2 := by
  obtain ⟨s₀, hon, hb, hoA, he⟩ : ∃ s₀,
      StepsMeet step RadioStaysOn {} firstRound ∧ runLabels step {} firstRound = some s₀ ∧
        StepsMeet step RadioStaysOn (s₀.radioOnState false) secondRound ∧
        (runLabels step (s₀.radioOnState false) secondRound).any
          fun s => s.round = 2 ∧ s.outstanding = [] :=
    exists_run_meeting _ (by decide +kernel)
  obtain ⟨s, ha, hr, hn⟩ := exists_run _ he
  obtain ⟨-, hu⟩ := no_report_ignored hon hb hoA ha (by omega) hn
  exact ⟨s, hr, hr ▸ hu⟩

/-- **The counter**, in whatever order answers come: `msgNum_` counts the unanswered requests of
the present round, a report is remembered only while there are any, and a round without any has
led to an update. -/
theorem answers_counted {isCsCapable : Bool} {ls : List Label} {s : State}
    (hon : StepsMeet step RadioStaysOn { isCsCapable } ls)
    (hrun : runLabels step { isCsCapable } ls = some s) (hround : s.round < 1000) :
    s.inner.msgNum = s.outstanding.countP (fun request => request.round = s.round) ∧
      (s.inner.skipFlag → s.inner.msgNum ≠ 0) ∧
      (s.inner.msgNum = 0 → s.round = 0 ∨ ∃ u ∈ s.updates, u.round = s.round) := by
  obtain ⟨⟨hc, -, hsk, hcp⟩, -⟩ :=
    reportInv_run (n := 0) (fun _ => reportInv_init isCsCapable) hon hrun hround
  exact ⟨hc.count, hsk, hcp⟩

theorem answers_counted_late : ∃ s, runLabels step {} lateRun = some s ∧
    s.inner.msgNum = s.outstanding.countP (fun request => request.round = s.round) ∧
    (s.inner.skipFlag → s.inner.msgNum ≠ 0) ∧
    (s.inner.msgNum = 0 → s.round = 0 ∨ ∃ u ∈ s.updates, u.round = s.round) := by
  obtain ⟨s, hon, hr, hrn⟩ : ∃ s, StepsMeet step RadioStaysOn {} lateRun ∧
      runLabels step {} lateRun = some s ∧ s.round < 1000 := exists_run_meeting _ (by decide +kernel)
  exact ⟨s, hr, answers_counted hon hr hrn⟩

end TelephonyCore.Network.Registration
