import TelephonyCore.Ril.Requests

/-!
# Requests that stay in the map

A request enters the map before the modem is called, and leaves it when a response looks for it.
Nothing takes it out when the call of the modem fails, and the template of `Response` for shared
pointers returns before it looks when the pointer is null. `Ledger` records the responses of a run.
-/

namespace TelephonyCore.Ril

open Lib List Option

variable {α : Type}

/-- The responses that came for requests in the map: the serial number, and whether `Response`
returned without looking for it. -/
structure Ledger (α : Type) where
  state : State α
  arrived : List (Int × Bool) := []

def State.arrival (s : State α) : Label α → Option (Int × Bool)
  | .responseStep k _ => do
    let (response, pc) ← s.responses[k]?
    let n := response.iResponseInfo.serial
    if pc = .find ∧ ∃ call ∈ s.calls, call.inserted = some n then some (n, response.isNull)
    else none
  | _ => none

def Ledger.step (m : Ledger α) (l : Label α) : Option (Ledger α) := do
  let s ← Ril.step m.state l
  some ⟨s, (m.state.arrival l).toList ++ m.arrived⟩

def Ledger.Accepted (m : Ledger α) (request : TelRilRequest) : Prop :=
  ∃ call ∈ m.state.calls, call.pc = .returned (some request.serialId) (.code 0) ∧
    call.response = request.pointer

/-- The map holds the requests that were accepted and for which no response has come. -/
def Ledger.Exact (m : Ledger α) : Prop :=
  ∀ request, request ∈ m.state.requestMap ↔
    m.Accepted request ∧ ∀ null, (request.serialId, null) ∉ m.arrived

structure LedgerInv (m : Ledger α) : Prop where
  inv : Inv m.state
  map_iff : ∀ request, request ∈ m.state.requestMap ↔
    m.state.Entered request ∧ (request.serialId, false) ∉ m.arrived
  entered : ∀ entry ∈ m.arrived, ∃ pointer, m.state.Entered ⟨entry.1, pointer⟩

section Step

variable {m m' : Ledger α} {s s' : State α} {call : Call}

theorem entered_set_iff {i : Nat} {call' : Call} (hcl : s.calls[i]? = some call)
    (hcs : s'.calls = s.calls.set i call') (hr : call'.response = call.response)
    (hin : call'.inserted = call.inserted) (request : TelRilRequest) :
    s'.Entered request ↔ s.Entered request := by
  obtain ⟨hlt, hg⟩ := List.getElem?_eq_some_iff.1 hcl
  have hcl' : s'.calls[i]? = some call' := by rw [hcs, getElem?_set_self hlt]
  have hb : s.calls = s'.calls.set i call := by
    rw [hcs, set_set, ← hg, set_getElem_self]
  exact ⟨entered_set call hcl' hb hr.symm fun _ => hin.symm,
    entered_set call' hcl hcs hr fun _ => hin⟩

theorem LedgerInv.frame (h : LedgerInv m) (hiv : Inv s')
    (hm : ∀ request, request ∈ s'.requestMap ↔ request ∈ m.state.requestMap)
    (hen : ∀ request, s'.Entered request ↔ m.state.Entered request) :
    LedgerInv ⟨s', m.arrived⟩ := by
  refine ⟨hiv, fun request => ?_, fun entry het => ?_⟩
  · rw [hm, hen]
    exact h.map_iff request
  · obtain ⟨pointer, hin⟩ := h.entered entry het
    exact ⟨pointer, (hen _).2 hin⟩

theorem LedgerInv.insert (h : LedgerInv m) {i : Nat} {serialId : Int}
    (hcl : m.state.calls[i]? = some call) (hpc : call.pc = .insert serialId)
    (hmp : s'.requestMap = insertRequest m.state.requestMap ⟨serialId, call.response⟩)
    (hcs : s'.calls = m.state.calls.set i { call with pc := .callModem serialId })
    (hiv : Inv s') : LedgerInv ⟨s', m.arrived⟩ := by
  have hf := h.inv.serial.not_inserted hcl hpc
  have hk : ∀ {request}, m.state.Entered request → s'.Entered request := fun hin =>
    entered_set _ hcl hcs rfl (by simp [Call.inserted, hpc]) hin
  refine ⟨hiv, fun request => ?_, fun entry he => ?_⟩
  · rw [hmp, h.inv.insertRequest_eq hcl hpc, mem_cons, h.map_iff]
    constructor
    · rintro (rfl | ⟨hin, hn⟩)
      · refine ⟨⟨{ call with pc := .callModem serialId }, ?_, rfl, rfl⟩, fun hmm => ?_⟩
        · rw [hcs]
          exact mem_set_self _ hcl
        · obtain ⟨pointer, other, hot, hin, -⟩ := h.entered _ hmm
          exact hf other hot hin
      · exact ⟨hk hin, hn⟩
    · rintro ⟨⟨other, hot, hin, hr⟩, hn⟩
      rw [hcs] at hot
      rcases mem_or_eq_of_mem_set hot with hol | rfl
      · exact .inr ⟨⟨other, hol, hin, hr⟩, hn⟩
      · obtain ⟨n, pointer⟩ := request
        cases hin
        cases hr
        exact .inl rfl
  · obtain ⟨pointer, hin⟩ := h.entered entry he
    exact ⟨pointer, hk hin⟩

theorem LedgerInv.requestStep (h : LedgerInv m) {i : Nat} {base : TelRilBase} {modem : Int}
    (hc : m.state.calls[i]? = some call)
    (hs : m.state.requestStep i call base modem = some s') (hin : Inv s') :
    LedgerInv ⟨s', m.arrived⟩ := by
  obtain ⟨b, _, _, pc⟩ := call
  cases pc with
  | insert serialId =>
    cases hs
    exact h.insert hc rfl rfl rfl hin
  | getRilInterface | isNeedBlock | serialTest =>
    cases hs
    exact h.frame hin (fun _ => .rfl) (entered_set_iff hc rfl rfl (by dsimp only; split <;> rfl))
  | serialReset | serialIncrement | callModem =>
    cases hs
    exact h.frame hin (fun _ => .rfl) (entered_set_iff hc rfl rfl rfl)
  | returned => cases hs

theorem LedgerInv.find (h : LedgerInv m) {k : Nat} {response : Response α} (accepted : Bool)
    (hr : m.state.responses[k]? = some (response, .find))
    (hst : m.state.responseStep k response accepted .find = some s') (hiv : Inv s') :
    LedgerInv ⟨s', (m.state.arrival (.responseStep k accepted)).toList ++ m.arrived⟩ := by
  have haf : s'.calls = m.state.calls ∧ ∀ request, request ∈ s'.requestMap ↔
      request ∈ m.state.requestMap ∧
        (response.isNull = false → request.serialId ≠ response.iResponseInfo.serial) := by
    simp only [State.responseStep] at hst
    split at hst
    next hnl =>
      cases hst
      simp [hnl]
    next hnl =>
      cases hst
      simp [hnl, mem_findTelRilRequest]
  obtain ⟨hcs, hmp⟩ := haf
  have hen : ∀ request, s'.Entered request ↔ m.state.Entered request := by
    simp [State.Entered, hcs]
  simp only [State.arrival, hr, bind_eq_bind, bind_some, true_and]
  split
  next hmd =>
    refine ⟨hiv, fun request => ?_, forall_mem_cons.2 ⟨?_, fun entry het => ?_⟩⟩
    · rw [hmp, h.map_iff, hen, toList_some, singleton_append, mem_cons, Prod.mk.injEq]
      grind
    · obtain ⟨call, hcl, hin⟩ := hmd
      exact ⟨call.response, (hen _).2 ⟨call, hcl, hin, rfl⟩⟩
    · obtain ⟨pointer, hin⟩ := h.entered entry het
      exact ⟨pointer, (hen _).2 hin⟩
  next hnn =>
    refine h.frame hiv (fun request => ?_) hen
    rw [hmp]
    refine and_iff_left_of_imp fun hin _ hsr => ?_
    obtain ⟨call, hcl, hins, -⟩ := h.inv.map request hin
    exact hnn ⟨call, hcl, hsr ▸ hins⟩

theorem LedgerInv.step {l : Label α} (h : LedgerInv m) (hcn : m.state.calls.length < 2 ^ 31 - 2)
    (hst : m.step l = some m') : LedgerInv m' := by
  obtain ⟨_, hs, hst⟩ := bind_eq_some_iff.1 hst
  cases hst
  have hin := h.inv.step hcn hs
  cases l with
  | request base funcName response =>
    obtain ⟨-, ⟨⟩⟩ := ite_none_right_eq_some.1 hs
    refine h.frame hin (fun _ => .rfl) fun request => ?_
    simp [State.Entered, Call.inserted]
  | requestStep i modem =>
    obtain ⟨_, hcl, hs⟩ := bind_eq_some_iff.1 hs
    obtain ⟨base, -, hs⟩ := bind_eq_some_iff.1 hs
    exact h.requestStep hcl hs hin
  | responseStep k accepted =>
    obtain ⟨⟨response, pc⟩, hr, hs⟩ := bind_eq_some_iff.1 hs
    cases pc with
    | find => exact h.find accepted hr hs hin
    | send found =>
      have hn : m.state.arrival (.responseStep k accepted) = none := by
        simp [State.arrival, hr]
      rw [hn]
      cases hs
      exact h.frame hin (fun _ => .rfl) fun _ => .rfl
    | returned => cases hs
  | resetRilInterface b rilInterface =>
    obtain ⟨base, -, hs⟩ := bind_eq_some_iff.1 hs
    cases hs
    exact h.frame hin (fun _ => .rfl) fun _ => .rfl
  | response | setPowerOffMode | destroy =>
    cases hs
    exact h.frame hin (fun _ => .rfl) fun _ => .rfl

end Step

theorem ledgerInv_run {bases : List TelRilBase} {ls : List (Label α)} {m : Ledger α}
    (hr : runLabels Ledger.step ⟨{ bases }, []⟩ ls = some m)
    (hc : m.state.calls.length < 2 ^ 31 - 2) : LedgerInv m := by
  have hst : ∀ {m m' : Ledger α} {l : Label α},
      (m.state.calls.length < 2 ^ 31 - 2 → LedgerInv m) → m.step l = some m' →
      m'.state.calls.length < 2 ^ 31 - 2 → LedgerInv m' := by
    intro m m' l h hst hc
    obtain ⟨_, hs, heq⟩ := bind_eq_some_iff.1 hst
    cases heq
    have hb := Nat.lt_of_le_of_lt (calls_length_le hs) hc
    exact (h hb).step hb hst
  refine invariant_every_run hst ls (fun _ => ⟨inv_init bases, ?_, ?_⟩) hr hc
  · simp [State.Entered]
  · simp

/-- With fewer than `2 ^ 31 - 2` requests, in every state: the map holds exactly the accepted
requests without a response if and only if every request that no response has looked for was
accepted, and has not been answered with a null pointer. -/
theorem no_request_leaked_iff {bases : List TelRilBase} {ls : List (Label α)} {m : Ledger α}
    (hrun : runLabels Ledger.step ⟨{ bases }, []⟩ ls = some m)
    (hcount : m.state.calls.length < 2 ^ 31 - 2) :
    m.Exact ↔ ∀ call ∈ m.state.calls, ∀ n, call.inserted = some n → (n, false) ∉ m.arrived →
      call.pc = .returned (some n) (.code 0) ∧ (n, true) ∉ m.arrived := by
  have h := ledgerInv_run hrun hcount
  constructor
  · intro he call hcl n hin hnt
    have hm := (h.map_iff ⟨n, call.response⟩).2 ⟨⟨call, hcl, hin, rfl⟩, hnt⟩
    obtain ⟨⟨own, ho, hpc, -⟩, hnn⟩ := (he _).1 hm
    -- the accepted call is this one: serial numbers are different
    obtain ⟨i, hi⟩ := getElem?_of_mem hcl
    obtain ⟨j, hj⟩ := getElem?_of_mem ho
    obtain rfl := h.inv.serial.unique i j call own n hi hj (Call.serialId_of_inserted hin)
      (by rw [Call.serialId, hpc])
    cases hi.symm.trans hj
    exact ⟨hpc, hnn true⟩
  · intro hal request
    rw [h.map_iff]
    constructor
    · rintro ⟨⟨call, hcl, hin, hrs⟩, hnt⟩
      obtain ⟨hpc, hnl⟩ := hal call hcl _ hin hnt
      refine ⟨⟨call, hcl, hpc, hrs⟩, fun null => ?_⟩
      cases null with
      | true => exact hnl
      | false => exact hnt
    · rintro ⟨⟨call, hcl, hpc, hrs⟩, hnn⟩
      exact ⟨⟨call, hcl, by rw [Call.inserted, hpc], hrs⟩, hnn false⟩

theorem no_request_leaked_crossed :
    ∃ m : Ledger Nat, m.state.requestMap = [] ∧ m.Exact := by
  obtain ⟨m, hr, hcn, hm, ha⟩ : ∃ m,
      runLabels Ledger.step ⟨{ bases := [⟨0, true, []⟩, ⟨1, true, []⟩] }, []⟩ crossedRun = some m ∧
        m.state.calls.length < 2 ^ 31 - 2 ∧ m.state.requestMap = [] ∧
        ∀ call ∈ m.state.calls, ∀ n ∈ call.inserted, (n, false) ∈ m.arrived :=
    exists_run _ (by decide +kernel)
  refine ⟨m, hm, (no_request_leaked_iff hr hcn).2 fun call hcl n hin hn => ?_⟩
  exact absurd (ha call hcl n hin) hn

/-- The modem refuses the first request and answers the second one with a null pointer. -/
def leakingRun : List (Label Nat) :=
  [.request 0 "Dial" none, .request 0 "Hangup" none] ++
    (List.replicate 6 [.requestStep 0 (-1), .requestStep 1 0]).flatten ++
    [.response ⟨"HangupResponse", ⟨0, 2, 0⟩, .shared none⟩, .responseStep 0 true]

theorem refused_request_leaked :
    ∃ m : Ledger Nat,
      runLabels Ledger.step ⟨{ bases := [⟨0, true, []⟩] }, []⟩ leakingRun = some m ∧
        m.state.calls.map Call.pc =
          [.returned (some 1) (.code (-1)), .returned (some 2) (.code 0)] ∧
        m.state.responses.map Prod.snd = [.returned .localPtrNull] ∧ m.arrived = [(2, true)] ∧
        m.state.requestMap = [⟨2, none⟩, ⟨1, none⟩] ∧ ¬ m.Exact := by
  obtain ⟨m, hrn, hc, hrs, ha, hm⟩ : ∃ m,
      runLabels Ledger.step ⟨{ bases := [⟨0, true, []⟩] }, []⟩ leakingRun = some m ∧
        m.state.calls.map Call.pc =
          [.returned (some 1) (.code (-1)), .returned (some 2) (.code 0)] ∧
        m.state.responses.map Prod.snd = [.returned .localPtrNull] ∧ m.arrived = [(2, true)] ∧
        m.state.requestMap = [⟨2, none⟩, ⟨1, none⟩] :=
    exists_run _ (by decide +kernel)
  refine ⟨m, hrn, hc, hrs, ha, hm, fun he => ?_⟩
  exact ((he ⟨2, none⟩).1 (by simp [hm])).2 true (by simp [ha])

/-- **The map in every state**: the requests that were entered, accepted or not, and whose number no
response with data has brought since. -/
theorem map_holds_unanswered {bases : List TelRilBase} {ls : List (Label α)} {m : Ledger α}
    (hrun : runLabels Ledger.step ⟨{ bases }, []⟩ ls = some m)
    (hcount : m.state.calls.length < 2 ^ 31 - 2) (request : TelRilRequest) :
    request ∈ m.state.requestMap ↔
      m.state.Entered request ∧ (request.serialId, false) ∉ m.arrived :=
  (ledgerInv_run hrun hcount).map_iff request

theorem map_holds_unanswered_leaking :
    ∃ m : Ledger Nat, m.state.Entered ⟨1, none⟩ ∧ (1, false) ∉ m.arrived := by
  obtain ⟨m, hr, hc, hm⟩ : ∃ m,
      runLabels Ledger.step ⟨{ bases := [⟨0, true, []⟩] }, []⟩ leakingRun = some m ∧
        m.state.calls.length < 2 ^ 31 - 2 ∧ ⟨1, none⟩ ∈ m.state.requestMap :=
    exists_run _ (by decide +kernel)
  exact ⟨m, (map_holds_unanswered hr hc ⟨1, none⟩).1 hm⟩

end TelephonyCore.Ril
