import TelephonyCore.Lib.Slots
import TelephonyCore.Lib.Transition

/-!
# Calls that wait for an answer in a shared memory

A call takes a mutex, prepares a memory that all calls share, sends a request and waits, with the
mutex released, until the memory says that it may go on or its deadline has passed; then it reads
its result off the memory. The answers are handled one after the other by a thread that does not
take the mutex: its writes are steps of their own.

`Protocol` are the functions of such an interface and `step` is every interleaving of its calls. To
show that a call returns what its own request was answered, one gives a property `Good` that the
call's own steps establish, and says which other steps may spoil it (`answerTouches`,
`expireTouches`). `returned_good` is the rule: in a run where no such step is taken while the call
waits, `Good` holds when it reads its result.
-/

namespace TelephonyCore.Lib.WaitingCalls

open List

variable {Op Answer Write Mem Value : Type}

/-! ## The machine -/

structure Protocol (Op Answer Write Mem Value : Type) where
  /-- the section before the wait, with the result of a call that sends no request -/
  start : Op → Mem → Mem × Option Value
  accepts : Op → Answer → Bool
  /-- what the handler of an answer writes -/
  writes : Op → Answer → List Write
  perform : Write → Mem → Mem
  ready : Op → Mem → Bool
  /-- what a call does when its deadline has passed -/
  expire : Op → Mem → Mem
  finish : Op → Mem → Value

structure Progress (Answer Write : Type) where
  answer : Answer
  rest : List Write
deriving DecidableEq

/-- `progress` is how far the answer to a call was handled when the call returned. -/
inductive Pc (Answer Write Value : Type) where
  | waiting
  | returned (value : Value) (progress : Option (Progress Answer Write))
deriving DecidableEq

def Pc.isWaiting : Pc Answer Write Value → Bool
  | .waiting => true
  | .returned _ _ => false

structure Call (Op Answer Write Value : Type) where
  op : Op
  sent : Bool
  pc : Pc Answer Write Value
  progress : Option (Progress Answer Write)
deriving DecidableEq

structure State (Op Answer Write Mem Value : Type) where
  mem : Mem
  calls : List (Call Op Answer Write Value) := []
  /-- the call whose answer is being handled -/
  handling : Option Nat := none
deriving DecidableEq

inductive Label (Op Answer : Type) where
  | call (op : Op)
  /-- the handler takes the answer to the request of a call -/
  | answer (i : Nat) (answer : Answer)
  /-- a write of the handler, or its end -/
  | write
  /-- a call goes on, because it may or because its deadline has passed -/
  | wake (i : Nat) (deadline : Bool)

def Protocol.begin (P : Protocol Op Answer Write Mem Value)
    (s : State Op Answer Write Mem Value) (op : Op) : State Op Answer Write Mem Value :=
  match P.start op s.mem with
  | (mem, none) => { s with mem := mem, calls := s.calls ++ [⟨op, true, .waiting, none⟩] }
  | (mem, some value) =>
    { s with mem := mem, calls := s.calls ++ [⟨op, false, .returned value none, none⟩] }

/-- The memory a call reads its result off. -/
def Protocol.atEnd (P : Protocol Op Answer Write Mem Value) (op : Op) (deadline : Bool) (mem : Mem) :
    Mem :=
  if deadline then P.expire op mem else mem

def step (P : Protocol Op Answer Write Mem Value) (s : State Op Answer Write Mem Value) :
    Label Op Answer → Option (State Op Answer Write Mem Value)
  | .call op => some (P.begin s op)
  | .answer i answer =>
    match s.handling, s.calls[i]? with
    | none, some call =>
      if call.sent && call.progress.isNone && P.accepts call.op answer then
        some { s with
          calls := s.calls.set i { call with progress := some ⟨answer, P.writes call.op answer⟩ }
          handling := some i }
      else none
    | _, _ => none
  | .write => do
    let i ← s.handling
    let call ← s.calls[i]?
    match call.progress with
    | some ⟨answer, w :: rest⟩ =>
      some { s with
        mem := P.perform w s.mem
        calls := s.calls.set i { call with progress := some ⟨answer, rest⟩ } }
    | _ => some { s with handling := none }
  | .wake i deadline =>
    match s.calls[i]? with
    | some call =>
      if call.pc.isWaiting && (P.ready call.op s.mem || deadline) then
        some { s with
          mem := P.atEnd call.op deadline s.mem
          calls := s.calls.set i { call with
            pc := .returned (P.finish call.op (P.atEnd call.op deadline s.mem)) call.progress } }
      else none
    | none => none

/-! ## What a step can do -/

inductive Step (P : Protocol Op Answer Write Mem Value) (s : State Op Answer Write Mem Value) :
    Label Op Answer → State Op Answer Write Mem Value → Prop
  | begin (op : Op) : Step P s (.call op) (P.begin s op)
  | answer (i : Nat) (call : Call Op Answer Write Value) (answer : Answer)
    (hcall : s.calls[i]? = some call) (hnone : call.progress = none)
    (haccepts : P.accepts call.op answer = true) :
    Step P s (.answer i answer)
      { s with
        calls := s.calls.set i { call with progress := some ⟨answer, P.writes call.op answer⟩ }
        handling := some i }
  | write (i : Nat) (call : Call Op Answer Write Value) (answer : Answer) (w : Write)
    (rest : List Write) (hhandling : s.handling = some i) (hcall : s.calls[i]? = some call)
    (hprogress : call.progress = some ⟨answer, w :: rest⟩) :
    Step P s .write
      { s with
        mem := P.perform w s.mem
        calls := s.calls.set i { call with progress := some ⟨answer, rest⟩ } }
  | handled : Step P s .write { s with handling := none }
  | wake (i : Nat) (call : Call Op Answer Write Value) (deadline : Bool)
    (hcall : s.calls[i]? = some call) (hwaiting : call.pc.isWaiting = true)
    (hready : deadline = true ∨ P.ready call.op s.mem = true) :
    Step P s (.wake i deadline)
      { s with
        mem := P.atEnd call.op deadline s.mem
        calls := s.calls.set i { call with
          pc := .returned (P.finish call.op (P.atEnd call.op deadline s.mem)) call.progress } }

variable {s' : State Op Answer Write Mem Value} {l : Label Op Answer}
  {call : Call Op Answer Write Value}

theorem step_cases {P : Protocol Op Answer Write Mem Value} {s : State Op Answer Write Mem Value}
    (h : step P s l = some s') : Step P s l s' := by
  cases l with
  | call op =>
    cases h
    exact .begin op
  | answer i answer =>
    simp only [step] at h
    split at h
    next call hid hc =>
      obtain ⟨ho, ⟨⟩⟩ := Option.ite_none_right_eq_some.1 h
      simp only [Bool.and_eq_true, Option.isNone_iff_eq_none] at ho
      exact .answer i call answer hc ho.1.2 ho.2
    next => cases h
  | write =>
    obtain ⟨i, hhg, h⟩ := Option.bind_eq_some_iff.1 h
    obtain ⟨call, hc, h⟩ := Option.bind_eq_some_iff.1 h
    split at h
    next answer w rest hp =>
      cases h
      exact .write i call answer w rest hhg hc hp
    next =>
      cases h
      exact .handled
  | wake i deadline =>
    simp only [step] at h
    split at h
    next call hc =>
      obtain ⟨ha, ⟨⟩⟩ := Option.ite_none_right_eq_some.1 h
      simp only [Bool.and_eq_true, Bool.or_eq_true] at ha
      exact .wake i call deadline hc ha.1 ha.2.symm
    next => cases h

/-! ## What a call may rely on -/

section

variable (answerTouches expireTouches : Op → Op → Bool)
variable (wakes : Op → Option (Progress Answer Write) → Mem → Bool)

/-- While a call waits, no answer to another call and no deadline of another call touches what it
reads; and it goes on only in a situation that `wakes` allows. -/
def Undisturbed (s : State Op Answer Write Mem Value) : Label Op Answer → Prop
  | .write =>
    ∀ i ∈ s.handling, ∀ own ∈ s.calls[i]?, ∀ call ∈ s.calls.eraseIdx i,
      call.pc.isWaiting = true → answerTouches own.op call.op = false
  | .wake i deadline =>
    ∀ own ∈ s.calls[i]?, wakes own.op own.progress s.mem = true ∧
      (deadline = true → ∀ call ∈ s.calls.eraseIdx i,
        call.pc.isWaiting = true → expireTouches own.op call.op = false)
  | _ => True

instance (s : State Op Answer Write Mem Value) (l : Label Op Answer) :
    Decidable (Undisturbed answerTouches expireTouches wakes s l) := by
  unfold Undisturbed
  split <;> infer_instance

variable (P : Protocol Op Answer Write Mem Value)
variable (Good : Op → Option (Progress Answer Write) → Mem → Prop)

/-- `Good` is established by the call's own steps and kept by the steps that do not touch what
it reads. -/
structure Rules : Prop where
  start_own : ∀ op mem, (P.start op mem).2 = none → Good op none (P.start op mem).1
  start_other : ∀ op other progress mem, Good op progress mem →
    Good op progress (P.start other mem).1
  answer_own : ∀ op answer mem, P.accepts op answer = true → Good op none mem →
    Good op (some ⟨answer, P.writes op answer⟩) mem
  write_own : ∀ op answer w rest mem, (w :: rest).IsSuffix (P.writes op answer) →
    Good op (some ⟨answer, w :: rest⟩) mem → Good op (some ⟨answer, rest⟩) (P.perform w mem)
  write_other : ∀ op other answer w progress mem, answerTouches other op = false →
    w ∈ P.writes other answer → Good op progress mem → Good op progress (P.perform w mem)
  expire_other : ∀ op other progress mem, expireTouches other op = false →
    Good op progress mem → Good op progress (P.expire other mem)

def Returned (op : Op) (sent : Bool) (value : Value)
    (progress : Option (Progress Answer Write)) : Prop :=
  if sent then
    ∃ mem, Good op progress mem ∧ wakes op progress mem = true ∧
      (P.ready op mem = true ∧ value = P.finish op mem ∨ value = P.finish op (P.expire op mem))
  else ∃ mem, (P.start op mem).2 = some value

structure Inv (s : State Op Answer Write Mem Value) : Prop where
  rest : ∀ call ∈ s.calls, ∀ answer rest, call.progress = some ⟨answer, rest⟩ →
    rest.IsSuffix (P.writes call.op answer)
  waiting : ∀ call ∈ s.calls, call.pc.isWaiting = true → Good call.op call.progress s.mem
  returned : ∀ call ∈ s.calls, ∀ value progress, call.pc = .returned value progress →
    Returned wakes P Good call.op call.sent value progress
  sent : ∀ call ∈ s.calls, call.pc.isWaiting = true → call.sent = true

variable {answerTouches expireTouches wakes P Good}

theorem inv_init (mem : Mem) : Inv wakes P Good ⟨mem, [], none⟩ :=
  ⟨by simp, by simp, by simp, by simp⟩

variable {s : State Op Answer Write Mem Value}

theorem Inv.append (h : Inv wakes P Good s) (mem : Mem) (new : Call Op Answer Write Value)
    (hpr : new.progress = none) (hm : ∀ op progress, Good op progress s.mem → Good op progress mem)
    (hn : if new.pc.isWaiting then new.sent ∧ Good new.op none mem
      else ∀ value progress, new.pc = .returned value progress →
        Returned wakes P Good new.op new.sent value progress) :
    Inv wakes P Good { s with mem := mem, calls := s.calls ++ [new] } where
  rest := by
    refine forall_mem_concat h.rest ?_
    intro answer rest hr
    cases hpr.symm.trans hr
  waiting := by
    intro call hc hw
    rcases mem_concat.1 hc with ho | rfl
    · exact hm _ _ (h.waiting call ho hw)
    · rw [if_pos hw] at hn
      rw [hpr]
      exact hn.2
  returned := by
    refine forall_mem_concat h.returned ?_
    intro value progress hpc
    rw [if_neg (by simp [hpc, Pc.isWaiting])] at hn
    exact hn value progress hpc
  sent := by
    refine forall_mem_concat h.sent ?_
    intro hw
    rw [if_pos hw] at hn
    exact hn.1

theorem Inv.begin (h : Inv wakes P Good s) (rules : Rules answerTouches expireTouches P Good)
    (op : Op) : Inv wakes P Good (P.begin s op) := by
  have hm := fun op' progress => rules.start_other op' op progress s.mem
  have ho := rules.start_own op s.mem
  unfold Protocol.begin
  rcases hst : P.start op s.mem with ⟨mem, _ | value⟩
  · rw [hst] at hm ho
    exact h.append mem _ rfl hm (by simpa [Pc.isWaiting] using ho rfl)
  · rw [hst] at hm
    refine h.append mem _ rfl hm ?_
    rw [if_neg (by simp [Pc.isWaiting])]
    intro value' progress hpc
    obtain ⟨rfl, -⟩ := Pc.returned.inj hpc
    exact ⟨s.mem, by rw [hst]⟩

theorem Inv.set (h : Inv wakes P Good s) {i : Nat} (hc : s.calls[i]? = some call) (mem : Mem)
    (handling : Option Nat) (new : Call Op Answer Write Value) (hop : new.op = call.op)
    (hs : new.sent = call.sent) (hrs : ∀ answer rest, new.progress = some ⟨answer, rest⟩ →
      rest.IsSuffix (P.writes new.op answer))
    (hot : ∀ other ∈ s.calls.eraseIdx i, other.pc.isWaiting →
      Good other.op other.progress s.mem → Good other.op other.progress mem)
    (hwn : new.pc.isWaiting → call.pc.isWaiting ∧ Good new.op new.progress mem)
    (hrt : ∀ value progress, new.pc = .returned value progress →
      Returned wakes P Good new.op new.sent value progress) :
    Inv wakes P Good ⟨mem, s.calls.set i new, handling⟩ where
  rest := forall_mem_set h.rest hrs
  waiting := by
    intro other hoh hwt
    rcases mem_eraseIdx_of_mem_set hoh with rfl | hm
    · exact (hwn hwt).2
    · exact hot other hm hwt (h.waiting other (mem_of_mem_eraseIdx hm) hwt)
  returned := forall_mem_set h.returned hrt
  sent := by
    refine forall_mem_set h.sent ?_
    intro hwt
    rw [hs]
    exact h.sent call (mem_of_getElem? hc) (hwn hwt).1

theorem Inv.step (rules : Rules answerTouches expireTouches P Good) (h : Inv wakes P Good s)
    (hk : Undisturbed answerTouches expireTouches wakes s l) (hst : step P s l = some s') :
    Inv wakes P Good s' := by
  cases step_cases hst with
  | begin op => exact h.begin rules op
  | answer i call answer hc hn hac =>
    have hm := mem_of_getElem? hc
    refine h.set hc s.mem (some i) _ rfl rfl ?_ (fun _ _ _ hg => hg) ?_ ?_
    · intro answer' rest hpr
      cases hpr
      exact suffix_refl _
    · intro hwn
      have hg := h.waiting call hm hwn
      rw [hn] at hg
      exact ⟨hwn, rules.answer_own call.op answer s.mem hac hg⟩
    · exact h.returned call hm
  | write i call answer w rest hhg hc hpr =>
    have hm := mem_of_getElem? hc
    have hsf := h.rest call hm answer (w :: rest) hpr
    refine h.set hc (P.perform w s.mem) s.handling _ rfl rfl ?_ ?_ ?_ ?_
    · intro answer' rest' hpr'
      cases hpr'
      exact (suffix_cons w rest).trans hsf
    · intro other ho hwn hg
      have ht := hk i hhg call hc other ho hwn
      exact rules.write_other other.op call.op answer w other.progress s.mem ht
        (hsf.subset (mem_cons_self ..)) hg
    · intro hwn
      have hg := h.waiting call hm hwn
      rw [hpr] at hg
      exact ⟨hwn, rules.write_own call.op answer w rest s.mem hsf hg⟩
    · exact h.returned call hm
  | handled => exact { h with }
  | wake i call deadline hc hwn hr =>
    have hm := mem_of_getElem? hc
    have hg := h.waiting call hm hwn
    obtain ⟨hwk, he⟩ := hk call hc
    refine h.set hc (P.atEnd call.op deadline s.mem) s.handling _ rfl rfl ?_ ?_ ?_ ?_
    · exact fun answer rest hpr => h.rest call hm answer rest hpr
    · intro other ho hwt hg'
      unfold Protocol.atEnd
      split
      next hdl =>
        exact rules.expire_other other.op call.op other.progress s.mem
          (he hdl other ho hwt) hg'
      next => exact hg'
    · intro hwt
      exact absurd hwt (by simp [Pc.isWaiting])
    · intro value progress hpc
      obtain ⟨rfl, rfl⟩ := Pc.returned.inj hpc
      rw [Returned, if_pos (h.sent call hm hwn)]
      refine ⟨s.mem, hg, hwk, ?_⟩
      unfold Protocol.atEnd
      split
      next => exact .inr rfl
      next hdl => exact .inl ⟨hr.resolve_left hdl, rfl⟩

/-- **What a call relies on holds when it reads its result.** -/
theorem returned_good (rules : Rules answerTouches expireTouches P Good) (mem : Mem)
    {run : List (Label Op Answer)}
    (hkp : StepsMeet (step P) (Undisturbed answerTouches expireTouches wakes) ⟨mem, [], none⟩ run)
    (hr : runLabels (step P) ⟨mem, [], none⟩ run = some s) (hc : call ∈ s.calls)
    {value : Value} {progress : Option (Progress Answer Write)}
    (hpc : call.pc = .returned value progress) :
    Returned wakes P Good call.op call.sent value progress := by
  have hin : Inv wakes P Good s :=
    invariant_run (fun h hk hs => Inv.step rules h hk hs) run (inv_init mem) hkp hr
  exact hin.returned call hc value progress hpc

end

end TelephonyCore.Lib.WaitingCalls
