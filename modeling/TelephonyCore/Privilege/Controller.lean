import TelephonyCore.Privilege.OperatorRule
import Mathlib.Data.List.DropRight

/-!
# `IccOperatorPrivilegeController`: loading the rules

When the card is ready the controller opens a channel to the application that holds the rules, asks
for them and, as long as the object it has so far is not complete, for more; it then parses the
object and closes the channel.

`IsOneTlvCompleted` is to compare the size of the data with the length in its header. It hands
`std::from_chars` the address of the last digit of the length as the end, so that only the first
digit is read: an object is complete to it from the first sixteenth of its length on.
-/

namespace TelephonyCore.Privilege

open Codec List

/-! ## Members and handlers -/

def TAG_BYTES : Nat := 4
def LEN_BYTES : Nat := 2
def CHR_BYTES : Nat := 2
def P2 : Int := 0x40
def P2_EXTENDED_DATA : Int := 0x60

/-- `std::from_chars(first, last, len, 16)` on a `size_t` that is zero before. -/
def fromCharsSize (s : StdString) : Nat := strtolDigits 0 s

def isOneTlvCompleted (s : StdString) : Bool :=
  if s.length < TAG_BYTES + LEN_BYTES then false
  else
    let lenStr := (s.drop TAG_BYTES).take LEN_BYTES
    -- the end of the range is the address of the last character, which is not read
    let len := fromCharsSize lenStr.dropLast
    s.length ≥ CHR_BYTES * len + TAG_BYTES + LEN_BYTES

/-- In the groups `ProcessSimStateChanged` makes of them. -/
inductive SimState where
  | unknown
  | notPresent
  | notReady
  | locked
  | ready
  | loaded
deriving DecidableEq

inductive Request where
  | openLogicalChannel
  | transmit (channelId : Int) (p2 : Int)
  | closeLogicalChannel (channelId : Int)
deriving DecidableEq

/-- The members of `LogicalStateMachine`, and `rules_`. -/
structure Controller where
  isTransmitting : Bool := false
  isAvailable : Bool := false
  currentChannelId : Int := -1
  currData : StdString := []
  rules : List IccOperatorRule := []
deriving DecidableEq

/-- When it comes out of its loop. -/
def Controller.successLoaded (c : Controller) : Bool := c.isAvailable && !c.isTransmitting

def Controller.setSimAvailable (c : Controller) (available : Bool) : Controller :=
  { c with
    isAvailable := available
    currentChannelId := if available then c.currentChannelId else -1 }

def Controller.setForOpenChannel (c : Controller) : Controller :=
  { c with isTransmitting := true, currData := [], currentChannelId := 0 }

def Controller.setForCloseChannel (c : Controller) : Controller :=
  { c with isTransmitting := false }

def Controller.isAppropriateToOpenChannel (c : Controller) (isTimeOut : Bool) : Bool :=
  c.currentChannelId < 0 || isTimeOut

def Controller.openChannel (c : Controller) (isTimeOut : Bool) : Controller × List Request :=
  if !c.isAppropriateToOpenChannel isTimeOut then (c, [])
  else ({ c with rules := [] }.setForOpenChannel, [.openLogicalChannel])

def Controller.processSimStateChanged (c : Controller) (state : SimState) (isTimeOut : Bool) :
    Controller × List Request :=
  match state with
  | .unknown | .notReady | .notPresent => ({ c.setSimAvailable false with rules := [] }, [])
  | .loaded | .ready => (c.setSimAvailable true).openChannel isTimeOut
  | .locked => (c, [])

/-- `none` is a null result. -/
def Controller.processOpenLogicalChannelDone (c : Controller) (isTimeOut : Bool)
    (channelId : Option Int) : Controller × List Request :=
  if isTimeOut then ({ c.setForCloseChannel with currentChannelId := -1 }, [])
  else
    match channelId with
    | none => (c, [])
    | some channelId =>
      let c := { c with currentChannelId := channelId }
      if channelId ≤ 0 then (c, []) else (c, [.transmit channelId P2])

/-- The end of `ProcessTransmitLogicalChannelDone`. -/
def Controller.closeChannel (c : Controller) : Controller × List Request :=
  (c.setForCloseChannel,
    if c.currentChannelId > 0 then [.closeLogicalChannel c.currentChannelId] else [])

/-- `CreateFromTLV` clears the rules before it fails. -/
def Controller.processTransmitLogicalChannelDone (c : Controller) (isTimeOut : Bool)
    (response : Option StdString) : Controller × List Request :=
  match response with
  | none => c.closeChannel
  | some response =>
    if c.currentChannelId ≤ 0 then c.closeChannel
    else if isTimeOut then c.closeChannel
    else
      let c := { c with currData := c.currData ++ response }
      if !isOneTlvCompleted c.currData then (c, [.transmit c.currentChannelId P2_EXTENDED_DATA])
      else { c with rules := (createFromTLV c.currData).getD [] }.closeChannel

def Controller.processCloseLogicalChannelDone (c : Controller) : Controller :=
  { c with currentChannelId := -1 }

def IccOperatorRule.matche (rule : IccOperatorRule) (certHash packageName : StdString) : Bool :=
  let res := rule.certificate == certHash
  if rule.packageName.isEmpty then res else res && rule.packageName == packageName

def strip (src : StdString) : StdString := (src.rdropWhile isSpace).dropWhile isSpace

inductive Privileges where
  | TELEPHONY_ERR_NO_SIM_CARD
  | TELEPHONY_ERR_SUCCESS (hasOperatorPrivileges : Bool)
deriving DecidableEq

/-- From the moment `SuccessLoaded` returns. It tries to load again when the rules are not loaded
and time is over. -/
def Controller.hasOperatorPrivileges (c : Controller) (state : SimState) (isTimeOut : Bool)
    (certHash packageName : StdString) : Privileges × Controller × List Request :=
  let (c, requests) :=
    if !c.successLoaded && isTimeOut then c.processSimStateChanged state isTimeOut else (c, [])
  if !c.isAvailable then (.TELEPHONY_ERR_NO_SIM_CARD, c, requests)
  else
    (.TELEPHONY_ERR_SUCCESS (c.rules.any fun rule => rule.matche (strip certHash) (strip packageName)),
      c, requests)

/-! ## When an object counts as complete -/

/-- A response: FF40, a length in two hex digits, and as many bytes. -/
structure IsResponse (response : StdString) (hi lo : Nat) : Prop where
  hi_lt : hi < 16
  lo_lt : lo < 16
  text : ∃ value, value.length = 2 * (hi * 16 + lo) ∧
    response = TAG_ALL_RULE ++ hexDigit hi :: hexDigit lo :: value

variable {chunk response : StdString} {hi lo : Nat}

theorem IsResponse.length (h : IsResponse response hi lo) :
    response.length = 6 + 2 * (hi * 16 + lo) := by
  obtain ⟨_, hv, rfl⟩ := h.text
  simp only [length_append, length_cons, show TAG_ALL_RULE.length = 4 from rfl]
  omega

/-- **When the beginning of a response counts as complete.** -/
theorem isOneTlvCompleted_iff (h : IsResponse response hi lo) {data : StdString}
    (hdt : data <+: response) : isOneTlvCompleted data ↔ 6 + 2 * hi ≤ data.length := by
  obtain ⟨value, _, rfl⟩ := h.text
  rw [isOneTlvCompleted]
  by_cases hsh : data.length < TAG_BYTES + LEN_BYTES
  · rw [if_pos hsh]
    rw [TAG_BYTES, LEN_BYTES] at hsh
    exact iff_of_false (by simp) (by omega)
  · rw [if_neg hsh]
    rw [TAG_BYTES, LEN_BYTES] at hsh
    -- the header is all there
    obtain ⟨rest, hr⟩ : ∃ rest, data = TAG_ALL_RULE ++ hexDigit hi :: hexDigit lo :: rest := by
      have ht := prefix_iff_eq_take.1 hdt
      obtain ⟨m, hm⟩ : ∃ m, data.length = m + 6 := ⟨data.length - 6, by omega⟩
      refine ⟨value.take m, ?_⟩
      rw [ht, hm, show m + 6 = TAG_ALL_RULE.length + (m + 2) by
        rw [show TAG_ALL_RULE.length = 4 from rfl]; omega, take_length_add_append]
      rfl
    have hl : fromCharsSize ((data.drop TAG_BYTES).take LEN_BYTES).dropLast = hi := by
      have hdr : data.drop TAG_BYTES = hexDigit hi :: hexDigit lo :: rest := by
        rw [hr]
        exact drop_left' rfl
      rw [hdr]
      show strtolDigits 0 [hexDigit hi] = hi
      simp [strtolDigits, hexVal_hexDigit hi h.hi_lt]
    simp only [hl]
    rw [decide_eq_true_iff, CHR_BYTES, TAG_BYTES, LEN_BYTES]
    omega

/-! ## Putting a response together -/

/-- One answer after the other, without a timeout: the members after each and what it requests. -/
def deliver (c : Controller) : List StdString → List (Controller × List Request)
  | [] => []
  | chunk :: rest =>
    let out := c.processTransmitLogicalChannelDone false (some chunk)
    out :: deliver out.1 rest

/-- After every answer but the last more is asked for; after the last the channel is closed
and the rules are those of the whole response. -/
def Reassembled (c : Controller) (chunks : List StdString) (response : StdString) : Prop :=
  (∀ out ∈ (deliver c chunks).dropLast, out.2 = [.transmit c.currentChannelId P2_EXTENDED_DATA]) ∧
    ∃ out ∈ (deliver c chunks).getLast?,
      out.2 = [.closeLogicalChannel c.currentChannelId] ∧
        out.1.rules = (createFromTLV response).getD []

/-- The answers before the last end before the point where the response counts as complete. -/
def EndEarly (hi : Nat) (chunks : List StdString) : Prop :=
  ∀ front, front <+: chunks → front ≠ chunks → front.flatten.length < 6 + 2 * hi

section Handler

variable {c : Controller} {response : StdString} {hi lo : Nat} (hresponse : IsResponse response hi lo)
  (hchannel : 0 < c.currentChannelId)

include hresponse hchannel

theorem processTransmit_more (hdt : c.currData ++ chunk <+: response)
    (he : (c.currData ++ chunk).length < 6 + 2 * hi) :
    c.processTransmitLogicalChannelDone false (some chunk) =
      ({ c with currData := c.currData ++ chunk },
        [.transmit c.currentChannelId P2_EXTENDED_DATA]) := by
  have ho : ¬ isOneTlvCompleted (c.currData ++ chunk) := by
    rw [isOneTlvCompleted_iff hresponse hdt]
    omega
  rw [Controller.processTransmitLogicalChannelDone, if_neg (by omega), if_neg (by simp)]
  simp only [ho, Bool.not_false, if_true]

theorem processTransmit_close (hdt : c.currData ++ chunk <+: response)
    (hl : 6 + 2 * hi ≤ (c.currData ++ chunk).length) :
    c.processTransmitLogicalChannelDone false (some chunk) = ({ c with
          currData := c.currData ++ chunk
          rules := (createFromTLV (c.currData ++ chunk)).getD []
          isTransmitting := false },
        [.closeLogicalChannel c.currentChannelId]) := by
  have hdn := (isOneTlvCompleted_iff hresponse hdt).2 hl
  rw [Controller.processTransmitLogicalChannelDone, if_neg (by omega), if_neg (by simp)]
  simp only [hdn, Bool.not_true, Bool.false_eq_true, if_false, Controller.closeChannel,
    Controller.setForCloseChannel, hchannel, if_true]

end Handler

theorem forall_proper_prefix_cons {rest : List StdString} {P : List StdString → Prop} :
    (∀ front, front <+: chunk :: rest ∧ front ≠ chunk :: rest → P front) ↔
      P [] ∧ ∀ tail, tail <+: rest ∧ tail ≠ rest → P (chunk :: tail) := by
  constructor
  · intro h
    refine ⟨h [] ⟨List.nil_prefix, by simp⟩, ?_⟩
    rintro tail ⟨ht, hne⟩
    refine h (chunk :: tail) ⟨cons_prefix_cons.2 ⟨rfl, ht⟩, ?_⟩
    exact fun heq => hne (List.cons.inj heq).2
  · rintro ⟨hnl, hc⟩ front ⟨hf, hne⟩
    cases front with
    | nil => exact hnl
    | cons head tail =>
      obtain ⟨rfl, ht⟩ := cons_prefix_cons.1 hf
      exact hc tail ⟨ht, fun h => hne (h ▸ rfl)⟩

/-- The induction is on the answers still to come; the data so far is short of the point. -/
theorem reassembled_from (hresponse : IsResponse response hi lo) :
    ∀ chunks c, chunks ≠ [] → 0 < c.currentChannelId →
      c.currData.length < 6 + 2 * hi → c.currData ++ chunks.flatten = response →
      (Reassembled c chunks response ↔ ∀ front, front <+: chunks ∧ front ≠ chunks →
          (c.currData ++ front.flatten).length < 6 + 2 * hi) := by
  have hsz := hresponse.length
  intro chunks
  induction chunks with
  | nil =>
    intro c hne
    exact absurd rfl hne
  | cons chunk rest ih =>
    intro c _ hchannel hst hdt
    have hrd : c.currData ++ chunk <+: response :=
      ⟨rest.flatten, by rw [← hdt, flatten_cons, append_assoc]⟩
    rw [forall_proper_prefix_cons]
    simp only [flatten_nil, append_nil, hst, true_and]
    cases rest with
    | nil =>
      -- the last answer completes the response
      have hwh : c.currData ++ chunk = response := by simpa using hdt
      have hcl := processTransmit_close hresponse hchannel hrd (by rw [hwh]; omega)
      refine iff_of_true ?_ ?_
      · simp [Reassembled, deliver, hcl, hwh]
      · rintro _ ⟨ht, hne⟩
        exact absurd (prefix_nil.1 ht) hne
    | cons next rest =>
      by_cases he : (c.currData ++ chunk).length < 6 + 2 * hi
      · have hm := processTransmit_more hresponse hchannel hrd he
        have hrs := ih { c with currData := c.currData ++ chunk } (by simp) hchannel he
          (by rw [← hdt, flatten_cons (l := chunk), append_assoc])
        rw [Reassembled, deliver, hm]
        simp only [flatten_cons, ← append_assoc] at hrs ⊢
        rw [← hrs, Reassembled]
        simp [deliver]
      · -- the object counts as complete too early
        have hcl := processTransmit_close hresponse hchannel hrd (by omega)
        refine iff_of_false ?_ ?_
        · rintro ⟨hm, _⟩
          have h := hm (_, _) (by
            rw [deliver, hcl, deliver]
            exact mem_cons_self)
          cases h
        · intro h
          exact he (by simpa using h [] ⟨by simp, by simp⟩)

/-- **A response is put together** from its answers exactly if those before the last end
before the point where it counts as complete. -/
theorem reassembled_iff {response : StdString} {hi lo : Nat}
    (hresponse : IsResponse response hi lo) {chunks : List StdString} (hne : chunks ≠ [])
    (hchunks : chunks.flatten = response) {c : Controller} (hchannel : 0 < c.currentChannelId)
    (hempty : c.currData = []) : Reassembled c chunks response ↔ EndEarly hi chunks := by
  rw [reassembled_from hresponse chunks c hne hchannel (by rw [hempty]; simp) (by
    rw [hempty, nil_append, hchunks]), hempty]
  simp only [nil_append, EndEarly, and_imp]

def twoRules : StdString := tlv TAG_ALL_RULE (ruleText namedRule ++ ruleText plainRule)

theorem isResponse_twoRules : IsResponse twoRules 1 12 where
  hi_lt := by decide
  lo_lt := by decide
  text := ⟨ruleText namedRule ++ ruleText plainRule, by decide +kernel, by decide +kernel⟩

/-- **A response is cut off**: with the first of the two rules it counts as complete, the
channel is closed, and the second is lost. -/
theorem response_cut_off :
    IsResponse twoRules 1 12 ∧ (createFromTLV twoRules).map List.length = some 2 ∧
      38 < twoRules.length ∧
      let out := Controller.processTransmitLogicalChannelDone { currentChannelId := 1 } false
        (some (twoRules.take 38))
      out.2 = [.closeLogicalChannel 1] ∧ out.1.rules.length = 1 :=
  ⟨isResponse_twoRules, by decide +kernel, by decide +kernel, by decide +kernel⟩

/-- Three answers that end after three, seven and all characters. -/
theorem reassembled_three_answers :
    Reassembled { currentChannelId := 1 }
      [twoRules.take 3, (twoRules.drop 3).take 4, twoRules.drop 7] twoRules := by
  refine (reassembled_iff isResponse_twoRules (by simp) (by decide +kernel) (by decide) rfl).2 ?_
  have he : ∀ front ∈ [twoRules.take 3, (twoRules.drop 3).take 4, twoRules.drop 7].inits,
      front ≠ [twoRules.take 3, (twoRules.drop 3).take 4, twoRules.drop 7] →
        front.flatten.length < 8 := by decide +kernel
  exact fun front hf => he front ((mem_inits _ _).2 hf)

end TelephonyCore.Privilege
