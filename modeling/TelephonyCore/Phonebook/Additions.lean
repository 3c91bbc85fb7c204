import TelephonyCore.Phonebook.WriteResult
import TelephonyCore.Phonebook.ContactRoundTrip

/-!
# Where additions are written

An addition is written to the first record that is empty in the cached list. The list learns of the
write when the card has answered it, and `mtx_` is free as soon as the call waits. So a second
addition may write to the same record, and one contact is lost.

A record that was written is safe while the list shows a contact in it, and until then while the
change is on its way to the cache (`State.Kept`). So a record is a new one if every earlier write
has arrived in the list when it is chosen. `OneAtATime` asks for this and two things more: a contact
with neither name nor number leaves its record empty, and the list of a slow load must not show a
record as empty whose write the cache knows of.
-/

namespace TelephonyCore.Phonebook.Manager

open Codec Lib List Cache Update

def State.Succeeded (s : State) (i : Nat) : Prop :=
  ∃ thread ∈ s.threads[i]?, ∃ list, thread.pc = .returned .success list

def State.DistinctRecords (s : State) : Prop :=
  ∀ w ∈ s.cardWrites, ∀ w' ∈ s.cardWrites, w.1 ≠ w'.1 → s.Succeeded w.1 → s.Succeeded w'.1 →
    w.2.fileNum ≠ w'.2.fileNum

def State.SuccessesWritten (s : State) : Prop :=
  ∀ i call list, s.threads[i]? = some ⟨call, .returned .success list⟩ → call.op.isWrite →
    ∃ command, (i, command) ∈ s.cardWrites

/-- Additions of one type, beside queries; every write of the card succeeds. -/
def AdditionsOf (type : Int) : Label → Prop
  | .call call => ¬ call.op.isWrite ∨ call.op = .add ∧ call.type = type
  | .updateRecordDone _ exception => exception = none
  | _ => True

instance (type : Int) : (l : Label) → Decidable (AdditionsOf type l)
  | .call _ => inferInstanceAs (Decidable (_ ∨ _))
  | .updateRecordDone .. => inferInstanceAs (Decidable (_ = none))
  | .caller .. | .allLoaded .. | .pbrLoaded .. | .obtainDetailsDone _ | .loadDone _ | .notify
  | .linearSizeDone .. | .changeDone _ | .writeDone _ | .simStateChanged _ => .isTrue trivial

/-- The second call chooses its record while the first one waits. -/
def twoAtOnceRun : List Label :=
  List.flatten [ [.call ⟨.add, SIM_ADN, contactAnn⟩, .call ⟨.add, SIM_ADN, contactBob⟩],
    steps 0 5, firstLoad, steps 0 5,
    steps 1 5, [.loadDone 0, .notify], steps 1 5,
    [.linearSizeDone 0 (.size 17), .linearSizeDone 1 (.size 17), .updateRecordDone 0 none,
      .updateRecordDone 1 none, .changeDone 0, .changeDone 1, .writeDone 0],
    steps 0 2, [.writeDone 0], steps 1 2]

/-- **Two additions at once are written to the same record.** -/
theorem same_record_twice :
    ∃ s, StepsMeet (step basicUtf) (fun _ => AdditionsOf SIM_ADN) {} twoAtOnceRun ∧
      runLabels (step basicUtf) {} twoAtOnceRun = some s ∧
      s.threads.map Thread.pc = [.returned .success [], .returned .success []] ∧
      s.cardWrites.map (fun w => (w.1, w.2.fileNum)) = [(0, 1), (1, 1)] :=
  exists_run_meeting _ (by decide +kernel)

/-! ## The condition -/

/-- The cache has been told of the change. -/
def Update.settled (update : Update) : Bool :=
  match update.stage with
  | .done _ => true
  | _ => false

/-- The change wrote to the record, or is about to, and is on its way to the cache. -/
def Update.unconfirmed (update : Update) (index : Int) : Bool :=
  match update.stage with
  | .write infor _ => infor.index == index
  | .change _ index' (.ok _) => index' == index
  | _ => false

/-- The list has a contact in the record. -/
def shows (list : List Contact) (index : Int) : Bool :=
  1 ≤ index && list[(index - 1).toNat]?.any fun contact => !contact.isEmpty

/-- The list that a load brings to the cache. -/
def Load.brings (load : Load) : Option (List Contact) :=
  match load.stage with
  | .details list => list
  | _ => none

/-- A contact is given a record only when the cache knows of all changes before; a list that is
loaded shows the records the cache knows to be written. -/
def OneAtATime (type : Int) (s : State) : Label → Prop
  | .caller i _ _ =>
    ∀ thread ∈ s.threads[i]?, thread.pc = .writeToIcc →
      (∀ update ∈ s.updates, update.settled) ∧ ∀ info ∈ thread.call.diallingNumber, ¬ info.isEmpty
  | .obtainDetailsDone k =>
    ∀ load ∈ s.loads[k]?, load.fileId = getFileIdForType type → ∀ list ∈ load.brings,
      ∀ w ∈ s.cardWrites, (∀ update ∈ s.updates, ¬ update.unconfirmed w.2.fileNum) →
        shows list w.2.fileNum
  | _ => True

instance (type : Int) (s : State) : (l : Label) → Decidable (OneAtATime type s l)
  | .caller .. => inferInstanceAs (Decidable (∀ thread ∈ _, _))
  | .obtainDetailsDone _ => inferInstanceAs (Decidable (∀ load ∈ _, _))
  | .call _ | .allLoaded .. | .pbrLoaded .. | .loadDone _ | .notify | .linearSizeDone ..
  | .updateRecordDone .. | .changeDone _ | .writeDone _ | .simStateChanged _ => .isTrue trivial

/-! ## A contact stays in its record -/

variable {index : Int} {contact : Contact}
  {list : List Contact} {info : DiallingNumbersInfo} {infor infor' : UpdateInfor}
  {answer : SizeAnswer} {command : UpdateCommand} {fileId : FileId} {call : Call} {l : Label}

theorem shows_set (h : shows list index) (n : Nat) (hc : ¬ contact.isEmpty) :
    shows (list.set n contact) index := by
  rw [shows, Bool.and_eq_true, Option.any_eq_true] at h ⊢
  obtain ⟨hid, old, ho, hs⟩ := h
  refine ⟨hid, ?_⟩
  by_cases hn : n = (index - 1).toNat
  · subst hn
    refine ⟨contact, ?_, by simpa using hc⟩
    rw [getElem?_set_self (List.getElem?_eq_some_iff.1 ho).1]
  · exact ⟨old, by rw [getElem?_set_ne hn]; exact ho, hs⟩

theorem shows_set_self (hf : 1 ≤ index) (hto : index ≤ list.length)
    (hc : ¬ contact.isEmpty) : shows (list.set (index - 1).toNat contact) index := by
  rw [shows, Bool.and_eq_true, Option.any_eq_true]
  refine ⟨by simpa using hf, contact, ?_, by simpa using hc⟩
  rw [getElem?_set_self (by omega)]

theorem formatName_name_ne_nil (utf : Utf) (h : info.name ≠ []) :
    (formatName utf info).name ≠ [] := by
  simp only [formatName]
  generalize hm : (if isChineseString (trim (utf.str16ToStr8 info.name)) = true then
    MAX_CHINESE_NAME else MAX_ENGLISH_NAME) = nameMaxNum
  have hp : 0 < nameMaxNum := by
    rw [← hm]
    split <;> decide
  split
  next hl =>
    -- what is left of a name that is cut is not empty
    intro hn
    rcases take_eq_nil_iff.1 hn with _ | hw
    · omega
    · rw [hw] at hl
      simp at hl
  next => exact h

variable {utf : Utf}

theorem formatNameAndNumber_ne_nil (hu : utf.FaithfulOnAscii) {info' : DiallingNumbersInfo}
    (hf : formatNameAndNumber utf info false = (true, info')) :
    (info.name ≠ [] → info'.name ≠ []) ∧ (info.number ≠ [] → info'.number ≠ []) := by
  refine ⟨fun hnm => ?_, fun hnu => ?_⟩
  · rw [formatNameAndNumber_name hf]
    exact formatName_name_ne_nil utf hnm
  · simp only [formatNameAndNumber, Bool.false_eq_true, if_false] at hf
    split at hf
    next hl =>
      split at hf
      next hv =>
        obtain rfl := (Prod.mk.inj hf).2
        rw [hu.str8ToStr16_ascii _ (isAscii_of_isValidNumberString hv), widen]
        intro hnl
        -- the number is longer than what is taken of it
        rcases take_eq_nil_iff.1 (map_eq_nil_iff.1 hnl) with hz | ht
        · cases hz
        · rw [ht, hu.str8ToStr16_ascii [] (by simp [IsAscii])] at hl
          simp [widen] at hl
      next => exact absurd (Prod.mk.inj hf).1 (by simp)
    next =>
      rw [← (Prod.mk.inj hf).2, formatName_number]
      exact hnu

theorem not_isEmpty_iff :
    ¬ contact.isEmpty ↔ contact.name ≠ [] ∨ contact.number ≠ [] ∨ contact.emails ≠ [] := by
  simp only [Contact.isEmpty, Bool.and_eq_true, List.isEmpty_iff, not_and_or, or_assoc]

theorem processLinearSizeDone_not_isEmpty (hu : utf.FaithfulOnAscii)
    (h : processLinearSizeDone utf infor answer = .ok (infor', command))
    (hdl : infor.isDel = false) (hc : ¬ infor.diallingNumber.isEmpty) :
    ¬ infor'.diallingNumber.isEmpty := by
  obtain ⟨_, _, _, hs, hf⟩ := processLinearSizeDone_ok h
  have he := congrArg Contact.emails hs
  rw [hdl] at hf
  obtain ⟨hnm, hnu⟩ := formatNameAndNumber_ne_nil hu hf
  rw [not_isEmpty_iff] at hc ⊢
  rw [he]
  exact hc.imp hnm (.imp hnu id)

/-! ## The invariant -/

/-- The change is on its way to the cache, or the list has a contact in the record. -/
def State.Kept (s : State) (fileId : FileId) (index : Int) : Prop :=
  (∃ update ∈ s.updates, update.unconfirmed index) ∨
    ∀ list, s.cache.loadReadyDiallingNumbers fileId = some list → shows list index

/-- A change is an addition to the file. -/
def UpdateStage.AddsTo (fileId : FileId) : UpdateStage → Prop
  | .size infor =>
    infor.fileId = fileId ∧ infor.isDel = false ∧ ¬ infor.diallingNumber.isEmpty
  | .write infor _ => infor.fileId = fileId ∧ ¬ infor.diallingNumber.isEmpty
  | .change fileId' _ (.ok contact) => fileId' = fileId ∧ ¬ contact.isEmpty
  | _ => True

def State.WritesAdd (s : State) (type : Int) : Prop :=
  ∀ (i : Nat) (call : Call) (pc : Pc), s.threads[i]? = some ⟨call, pc⟩ →
    pc.inWrite ∨ call.op.isWrite → call.op = .add ∧ call.type = type

structure AddInv (type : Int) (s : State) : Prop where
  calls : s.WritesAdd type
  updates : ∀ update ∈ s.updates, update.stage.AddsTo (getFileIdForType type)
  /-- at most one change is not settled -/
  single : ∀ (a b : Nat) (u v : Update), s.updates[a]? = some u → s.updates[b]? = some v → ¬ u.settled →
    ¬ v.settled → a = b
  kept : ∀ w ∈ s.cardWrites, s.Kept (getFileIdForType type) w.2.fileNum
  /-- a record that is chosen and not yet written is a new one -/
  fresh : ∀ update ∈ s.updates, ∀ infor, update.stage = .size infor →
    ∀ w ∈ s.cardWrites, w.2.fileNum ≠ infor.index
  distinct : s.cardWrites.Pairwise fun w w' => w.2.fileNum ≠ w'.2.fileNum

theorem addInv_init (type : Int) : AddInv type {} where
  calls := by simp [State.WritesAdd]
  updates := by simp
  single := by simp
  kept := by simp
  fresh := by simp
  distinct := .nil

variable {type : Int} {s s' : State}

theorem AddInv.frame (h : AddInv type s) (hu : s'.updates = s.updates)
    (hwr : s'.cardWrites = s.cardWrites) (hcs : s'.WritesAdd type)
    (hk : ∀ w ∈ s.cardWrites, s.Kept (getFileIdForType type) w.2.fileNum →
      s'.Kept (getFileIdForType type) w.2.fileNum) :
    AddInv type s' where
  calls := hcs
  updates := hu ▸ h.updates
  single := hu ▸ h.single
  kept := by
    intro w hw
    rw [hwr] at hw
    exact hk w hw (h.kept w hw)
  fresh := by
    rw [hu, hwr]
    exact h.fresh
  distinct := hwr ▸ h.distinct

theorem State.Kept.of_eq (h : s.Kept fileId index) (hu : s'.updates = s.updates)
    (hca : s'.cache.loadReadyDiallingNumbers fileId =
      s.cache.loadReadyDiallingNumbers fileId) : s'.Kept fileId index := by
  rw [State.Kept, hu, hca]
  exact h

variable {i : Nat}

theorem AddInv.calls_set (h : AddInv type s) {pc pc' : Pc} (hth : s.threads[i]? = some ⟨call, pc⟩)
    (hts : s'.threads = s.threads.set i ⟨call, pc'⟩)
    (hpc : pc'.inWrite → pc.inWrite ∨ call.op.isWrite) : s'.WritesAdd type := by
  intro j call' pc'' hj hwr
  rw [hts] at hj
  rcases threads_set hj with ⟨rfl, hmv⟩ | ⟨_, hol⟩
  · obtain ⟨rfl, rfl⟩ := Thread.mk.inj hmv
    refine h.calls j call' pc hth ?_
    rcases hwr with hin | hop
    · exact hpc hin
    · exact .inr hop
  · exact h.calls j call' pc'' hol hwr

theorem AddInv.enters (h : AddInv type s)
    (hc : ¬ call.op.isWrite ∨ call.op = .add ∧ call.type = type) :
    AddInv type { s with threads := s.threads ++ [⟨call, .queryLock⟩] } := by
  refine h.frame rfl rfl ?_ (fun w _ hk => hk.of_eq rfl rfl)
  intro i call' pc hi hwr
  rcases threads_append hi with hnw | hol
  · cases hnw
    rcases hwr with hin | hop
    · simp at hin
    · exact hc.resolve_left (fun hnt => hnt hop)
  · exact h.calls i call' pc hol hwr

/-! ## Changes -/

variable {k : Nat} {old new : Update}

theorem unsettled_of_set {updates : List Update} (hk : updates[k]? = some old)
    (ho : ¬ old.settled) {a : Nat} {u : Update} (ha : (updates.set k new)[a]? = some u)
    (hu : ¬ u.settled) : ∃ v, updates[a]? = some v ∧ ¬ v.settled := by
  by_cases hak : k = a
  · subst hak
    exact ⟨old, hk, ho⟩
  · rw [getElem?_set_ne hak] at ha
    exact ⟨u, ha, hu⟩

theorem State.Kept.set (h : s.Kept fileId index) (hk : s.updates[k]? = some old)
    (hup : s'.updates = s.updates.set k new) (hca : s'.cache = s.cache)
    (hmv : old.unconfirmed index → new.unconfirmed index) : s'.Kept fileId index := by
  rcases h with ⟨update, hmm, hun⟩ | hsh
  · left
    rw [hup]
    rcases eq_or_mem_set hk new hmm with rfl | hst
    · have hlt := (List.getElem?_eq_some_iff.1 hk).1
      exact ⟨new, mem_set hlt new, hmv hun⟩
    · exact ⟨update, hst, hun⟩
  · right
    rw [hca]
    exact hsh

theorem AddInv.moves (h : AddInv type s) (hk : s.updates[k]? = some old) (ho : ¬ old.settled)
    (hup : s'.updates = s.updates.set k new) (ht : s'.threads = s.threads)
    (hwr : s'.cardWrites = s.cardWrites) (had : new.stage.AddsTo (getFileIdForType type))
    (hsz : ∀ infor, new.stage ≠ .size infor) (hkp : ∀ index, s.Kept (getFileIdForType type) index →
      s'.Kept (getFileIdForType type) index) : AddInv type s' where
  calls := by
    rw [State.WritesAdd, ht]
    exact h.calls
  updates := by
    intro update hm
    rw [hup] at hm
    rcases mem_or_eq_of_mem_set hm with hm | rfl
    · exact h.updates update hm
    · exact had
  single := by
    intro a b u v ha hb hu hv
    rw [hup] at ha hb
    obtain ⟨u', ha', hu'⟩ := unsettled_of_set hk ho ha hu
    obtain ⟨v', hb', hv'⟩ := unsettled_of_set hk ho hb hv
    exact h.single a b u' v' ha' hb' hu' hv'
  kept := by
    intro w hw
    rw [hwr] at hw
    exact hkp _ (h.kept w hw)
  fresh := by
    intro update hm infor hsg
    rw [hup] at hm
    rw [hwr]
    rcases mem_or_eq_of_mem_set hm with hm | rfl
    · exact h.fresh update hm infor hsg
    · exact absurd hsg (hsz infor)
  distinct := hwr ▸ h.distinct

variable {caller : Nat}

theorem AddInv.written (hut : utf.FaithfulOnAscii) (h : AddInv type s)
    (hk : s.updates[k]? = some ⟨caller, .size infor⟩)
    (hok : processLinearSizeDone utf infor answer = .ok (infor', command)) :
    AddInv type { s with
      updates := s.updates.set k ⟨caller, .write infor' command⟩
      cardWrites := s.cardWrites ++ [(caller, command)] } := by
  have hmm := mem_of_getElem? hk
  obtain ⟨hfi, hdl, hc⟩ := h.updates _ hmm
  obtain ⟨hfi', hid', hfl, _, _⟩ := processLinearSizeDone_ok hok
  have hc' := processLinearSizeDone_not_isEmpty hut hok hdl hc
  have hlt := (List.getElem?_eq_some_iff.1 hk).1
  have hmv : AddInv type { s with updates := s.updates.set k ⟨caller, .write infor' command⟩ } :=
    h.moves hk (by simp [settled]) rfl rfl rfl ⟨hfi'.trans hfi, hc'⟩ (by simp)
      (fun index hkp => hkp.set hk rfl rfl (by simp [unconfirmed]))
  exact { hmv with
    kept := by
      intro w hw
      rcases mem_concat.1 hw with hw | rfl
      · exact hmv.kept w hw
      · exact .inl ⟨_, mem_set hlt _, by simp [unconfirmed, hid', hfl]⟩
    fresh := by
      intro update hup infor'' hsg
      -- a second chosen record would be a second change that is not settled
      obtain ⟨b, hb⟩ := mem_iff_getElem?.1 hup
      obtain rfl : b = k := by
        refine hmv.single b k update ⟨caller, .write infor' command⟩ hb ?_ ?_ ?_
        · exact getElem?_set_self hlt
        · simp [settled, hsg]
        · simp [settled]
      rw [getElem?_set_self hlt] at hb
      rw [← Option.some.inj hb] at hsg
      cases hsg
    distinct := by
      refine pairwise_append.2 ⟨h.distinct, pairwise_singleton .., ?_⟩
      intro w hw w' hw'
      rw [mem_singleton.1 hw', hfl]
      exact h.fresh _ hmm infor rfl w hw }

theorem AddInv.changed (h : AddInv type s) {cache : Cache}
    (hk : s.updates[k]? = some ⟨caller, .change fileId index (.ok contact)⟩)
    (hca : s.cache.processChangeDiallingNumbersDone fileId index (.ok contact) = some cache) :
    AddInv type { s with cache, updates := s.updates.set k ⟨caller, .done none⟩ } := by
  obtain ⟨rfl, hcn⟩ := h.updates _ (mem_of_getElem? hk)
  refine h.moves hk (by simp [settled]) rfl rfl rfl trivial (by simp) ?_
  intro index' hkp
  rcases hkp with ⟨update, hm, hun⟩ | hsh
  · rcases eq_or_mem_set hk ⟨caller, .done none⟩ hm with rfl | hst
    · -- the record of this change
      right
      intro list' hl'
      obtain rfl : index = index' := by simpa [unconfirmed] using hun
      obtain ⟨list, _, hf, hto, rfl⟩ := processChangeDiallingNumbersDone_ok hca hl'
      exact shows_set_self hf hto hcn
    · exact .inl ⟨update, hst, hun⟩
  · right
    intro list' hl'
    obtain ⟨list, hl, _, _, rfl⟩ := processChangeDiallingNumbersDone_ok hca hl'
    exact shows_set (hsh list hl) _ hcn

theorem AddInv.done (h : AddInv type s) {exception : Option RadioError}
    (hk : s.updates[k]? = some ⟨caller, .done exception⟩) (flag : Bool) :
    AddInv type { s with updates := s.updates.eraseIdx k, hasEventDone := flag } := { h with
  updates := fun update hm => h.updates update (mem_of_mem_eraseIdx hm)
  single := by
    intro a b u v ha hb hu hv
    have hab := h.single _ _ u v (getElem?_of_eraseIdx ha) (getElem?_of_eraseIdx hb) hu hv
    split at hab <;> split at hab <;> omega
  kept := by
    intro w hw
    rcases h.kept w hw with ⟨update, hm, hun⟩ | hs
    · obtain ⟨n, hn⟩ := mem_iff_getElem?.1 hm
      have hnk : n ≠ k := by
        rintro rfl
        rw [Option.some.inj (hn.symm.trans hk)] at hun
        simp [unconfirmed] at hun
      exact .inl ⟨update, mem_eraseIdx_iff_getElem?.2 ⟨n, hnk, hn⟩, hun⟩
    · exact .inr hs
  fresh := fun update hm => h.fresh update (mem_of_mem_eraseIdx hm) }

theorem AddInv.update (hu : utf.FaithfulOnAscii) (h : AddInv type s) (ha : AdditionsOf type l)
    (hs : UpdateStep utf s l s') : AddInv type s' := by
  cases hs with
  | written hk hok => exact h.written hu hk hok
  | refused exception hk | failed hk =>
    exact h.moves hk (by simp [settled]) rfl rfl rfl trivial (by simp)
      (fun index hkp => hkp.set hk rfl rfl (by simp [unconfirmed]))
  | answered exception hk =>
    obtain rfl : exception = none := ha
    obtain ⟨hf, hcn⟩ := h.updates _ (mem_of_getElem? hk)
    exact h.moves hk (by simp [settled]) rfl rfl rfl ⟨hf, hcn⟩ (by simp)
      (fun index hkp => hkp.set hk rfl rfl
        (by simp [unconfirmed, processUpdateRecordDone]))
  | changed hk hca => exact h.changed hk hca
  | done hk => exact h.done hk _

/-! ## Calls and loads -/

theorem AddInv.appends (h : AddInv type s) (hst : ∀ update ∈ s.updates, update.settled)
    (hup : s'.updates = s.updates ++ [new]) (hwr : s'.cardWrites = s.cardWrites)
    (hca : s'.cache = s.cache) (hcs : s'.WritesAdd type)
    (had : new.stage.AddsTo (getFileIdForType type))
    (hf : ∀ infor, new.stage = .size infor → ∀ w ∈ s.cardWrites,
      w.2.fileNum ≠ infor.index) : AddInv type s' where
  calls := hcs
  updates := by
    intro update hm
    rw [hup] at hm
    rcases mem_concat.1 hm with hm | rfl
    · exact h.updates update hm
    · exact had
  single := by
    -- the new change is the one that may be unsettled
    have hls : ∀ {a : Nat} {u : Update}, s'.updates[a]? = some u → ¬ u.settled →
        a = s.updates.length := by
      intro a u ha hu
      rw [hup] at ha
      have hle := (List.getElem?_eq_some_iff.1 ha).1
      rw [length_append, length_singleton] at hle
      by_contra hne
      rw [getElem?_append_left (by omega)] at ha
      exact hu (hst u (mem_of_getElem? ha))
    intro a b u v ha hb hu hv
    exact (hls ha hu).trans (hls hb hv).symm
  kept := by
    intro w hw
    rw [hwr] at hw
    rw [State.Kept, hup, hca]
    exact (h.kept w hw).imp (fun ⟨update, hm, hun⟩ =>
      ⟨update, mem_append_left _ hm, hun⟩) id
  fresh := by
    intro update hm infor hsg w hw
    rw [hup] at hm
    rw [hwr] at hw
    rcases mem_concat.1 hm with hm | rfl
    · exact h.fresh update hm infor hsg w hw
    · exact hf infor hsg w hw
  distinct := hwr ▸ h.distinct

theorem AddInv.fresh_of_empty (h : AddInv type s) (hst : ∀ update ∈ s.updates, update.settled)
    (hl : s.cache.loadReadyDiallingNumbers (getFileIdForType type) = some list)
    (hid : s.cache.checkValueAndOperation list ADD_FLAG (getFileIdForType type) = some index) :
    ∀ w ∈ s.cardWrites, w.2.fileNum ≠ index := by
  rintro w hw rfl
  have hsh : shows list w.2.fileNum := by
    rcases h.kept w hw with ⟨update, hm, hun⟩ | hsh
    · have hdn := hst update hm
      rw [settled] at hdn
      split at hdn
      next hsg => simp [unconfirmed, hsg] at hun
      next => cases hdn
    · exact hsh list hl
  rw [shows, Bool.and_eq_true, Option.any_eq_true] at hsh
  obtain ⟨hp, _, hcn, hfl⟩ := hsh
  rcases checkValueAndOperation_add hid with hfg | ⟨count, _, he, his, hct⟩
  · rw [hfg] at hp
    cases hp
  · rw [hct, show ((count : Int) + 1 - 1).toNat = count by omega, he] at hcn
    rw [← Option.some.inj hcn, his] at hfl
    simp at hfl

theorem AddInv.writeToIcc (h : AddInv type s) {info : Contact}
    (hth : s.threads[i]? = some ⟨call, .writeToIcc⟩)
    (hst : ∀ update ∈ s.updates, update.settled) (hcn : ¬ info.isEmpty) :
    AddInv type ({ s.writeToIcc utf i call info with mtx := none }.goto i call .writeWait) := by
  obtain ⟨hop, hty⟩ := h.calls i call _ hth (.inl rfl)
  have hid : call.op.index info = ADD_FLAG := by rw [Op.index, if_pos hop]
  have hdl : decide (call.op = .del) = false := by simp [hop]
  refine h.appends hst rfl rfl rfl (h.calls_set hth rfl (fun _ => .inl rfl)) ?_ ?_
  · simp only [hid, hdl, hty]
    split
    next infor hok =>
      obtain ⟨_, _, _, hf, hiD, he⟩ := updateDiallingNumberToIcc_add hok
      exact ⟨hf, hiD, by rw [he]; exact hcn⟩
    next => trivial
  · intro infor hsg
    simp only [hid, hdl, hty] at hsg
    split at hsg
    next infor' hok =>
      obtain rfl := UpdateStage.size.inj hsg
      obtain ⟨_, hl, hch, _⟩ := updateDiallingNumberToIcc_add hok
      exact h.fresh_of_empty hst hl hch
    next => cases hsg

theorem AddInv.write (h : AddInv type s) {hasSimCard deadline : Bool} {pc : Pc}
    (hth : s.threads[i]? = some ⟨call, pc⟩) (ho : OneAtATime type s (.caller i hasSimCard deadline))
    (hst : s.writeIccDiallingNumbers utf i call hasSimCard deadline pc = some s') :
    AddInv type s' := by
  -- all steps but one leave the cache and the changes alone
  have hg : ∀ {pc' : Pc} {mtx : Option Nat} {hasEventDone : Bool}, pc.inWrite →
      AddInv type ({ s with mtx, hasEventDone }.goto i call pc') :=
    fun hin => h.frame rfl rfl (h.calls_set hth rfl (fun _ => .inl hin))
      (fun w _ hk => hk.of_eq rfl rfl)
  cases pc with
  | writeLock =>
    obtain ⟨mtx, pc', rfl, _⟩ := writeLock_step hst
    exact hg rfl
  | lowerFlag | writeReturn =>
    cases hst
    exact hg rfl
  | writeToIcc =>
    obtain ⟨info, hif, rfl⟩ := Option.map_eq_some_iff.1 hst
    obtain ⟨hse, hc⟩ := ho _ hth rfl
    exact h.writeToIcc hth hse (hc info hif)
  | writeWait =>
    obtain ⟨_, ⟨⟩⟩ := Option.ite_none_right_eq_some.1 hst
    exact hg rfl
  | _ => exact absurd hst (by simp [State.writeIccDiallingNumbers])

theorem getFileIdForType_ne_pbr (type : Int) : getFileIdForType type ≠ ELEMENTARY_FILE_PBR := by
  rw [getFileIdForType]
  split
  · decide
  · split
    · decide
    · split <;> decide

theorem AddInv.load (h : AddInv type s) (ho : OneAtATime type s l)
    (hs : LoadStep utf s l s') : AddInv type s' := by
  cases hs with
  | @details k caller fileId list hld =>
    refine h.frame rfl rfl h.calls (fun w hw hk => ?_)
    by_cases hp : fileId = ELEMENTARY_FILE_PBR
    · refine hk.of_eq rfl ?_
      simp only [if_pos hp]
      exact s.cache.loadReady_processObtainPbrDetailsDone
        (hp ▸ getFileIdForType_ne_pbr type) list
    · by_cases hf : getFileIdForType type = fileId
      · -- the file of the additions: what is not on its way, the new list shows
        by_cases hun : ∃ update ∈ s.updates, update.unconfirmed w.2.fileNum
        · exact .inl hun
        · right
          intro list' hls'
          simp only [if_neg hp, processObtainAdnDetailsDone, hf, loadReady_insert_self] at hls'
          subst hls'
          exact ho _ hld hf.symm list' rfl w hw
            (fun update hm hu => hun ⟨update, hm, hu⟩)
      · refine hk.of_eq rfl ?_
        simp only [if_neg hp]
        exact s.cache.loadReady_insert_of_ne hf list
  | _ => exact h.frame rfl rfl h.calls (fun w _ hk => hk.of_eq rfl rfl)

theorem AddInv.step (hut : utf.FaithfulOnAscii) (h : AddInv type s)
    (hmt : AdditionsOf type l ∧ OneAtATime type s l) (hs : step utf s l = some s') :
    AddInv type s' := by
  obtain ⟨had, ho⟩ := hmt
  cases step_cases hs with
  | call call => exact h.enters had
  | query hth hqy =>
    have hfr := queryFrame hqy
    obtain ⟨_, hts, hqd⟩ := hfr.thread
    exact h.frame hfr.updates hfr.cardWrites
      (h.calls_set hth hts (fun hin => .inr (hqd.write hin)))
      (fun w _ hk => hk.of_eq hfr.updates (by rw [hfr.cache]))
  | write hth hwr => exact h.write hth ho hwr
  | simState state =>
    cases state with
    | notPresent =>
      refine h.frame rfl rfl h.calls (fun w _ hk => hk.imp id (fun _ list hls => ?_))
      -- no list is left
      exact absurd hls (by simp [State.processSimStateChanged, clearDiallingNumberCache,
        loadReadyDiallingNumbers])
    | ready => exact h.enters (.inl (by simp [Op.isWrite]))
    | other => exact h
  | load hld => exact h.load ho hld
  | update hup => exact h.update hut had hup

/-! ## Whole runs -/

/-- **Additions go to different records** in every run that gives a record to one only when the
cache knows of those before; and to some record at all if the answers find their own calls. -/
theorem additions_distinct {utf : Utf} (hutf : utf.FaithfulOnAscii) {type : Int} {ls : List Label}
    {s : State}
    (hmeets : StepsMeet (step utf) (fun s l => AdditionsOf type l ∧ OneAtATime type s l) {} ls)
    (hrun : runLabels (step utf) {} ls = some s) :
    s.DistinctRecords ∧ (StepsMeet (step utf) OwnAnswer {} ls → s.SuccessesWritten) := by
  constructor
  · have hin : AddInv type s := invariant_run (.step hutf) ls (addInv_init type) hmeets hrun
    intro w hw w' hw' hne _ _
    have hsy : Std.Symm fun w w' : Nat × UpdateCommand => w.2.fileNum ≠ w'.2.fileNum :=
      ⟨fun _ _ h => h.symm⟩
    exact hin.distinct.forall hw hw' (fun heq => hne (congrArg Prod.fst heq))
  · intro ho i call list hi hwr
    have han := (invariant_run .step ls writeInv_init ho hrun).returned i call list
    have hsn : SentInv s := invariant_run (fun h _ hst => .step h hst) ls sentInv_init ho hrun
    exact hsn.answered i (han hi hwr)

/-- The second call loads while the first one waits, and chooses its record afterwards. -/
def oneAtATimeRun : List Label :=
  List.flatten [ [.call ⟨.add, SIM_ADN, contactAnn⟩, .call ⟨.add, SIM_ADN, contactBob⟩],
    steps 0 5, firstLoad, steps 0 5, steps 1 5,
    [.linearSizeDone 0 (.size 17), .updateRecordDone 0 none, .loadDone 0, .notify,
      .changeDone 0, .writeDone 0],
    steps 0 2, steps 1 5,
    [.linearSizeDone 0 (.size 17), .updateRecordDone 0 none, .changeDone 0, .writeDone 0],
    steps 1 2]

theorem additions_distinct_one_at_a_time :
    ∃ s, StepsMeet (step basicUtf)
        (fun s l => AdditionsOf SIM_ADN l ∧ OneAtATime SIM_ADN s l) {} oneAtATimeRun ∧
      runLabels (step basicUtf) {} oneAtATimeRun = some s ∧
      s.threads.map Thread.pc = [.returned .success [], .returned .success []] ∧
      s.cardWrites.map (fun w => (w.1, w.2.fileNum)) = [(0, 1), (1, 2)] ∧
      s.DistinctRecords ∧ s.SuccessesWritten := by
  obtain ⟨s, hm, hrn, hrt, hw⟩ : ∃ s, StepsMeet (step basicUtf)
        (fun s l => AdditionsOf SIM_ADN l ∧ OneAtATime SIM_ADN s l) {} oneAtATimeRun ∧
      runLabels (step basicUtf) {} oneAtATimeRun = some s ∧
      s.threads.map Thread.pc = [.returned .success [], .returned .success []] ∧
      s.cardWrites.map (fun w => (w.1, w.2.fileNum)) = [(0, 1), (1, 2)] :=
    exists_run_meeting _ (by decide +kernel)
  have ho : StepsMeet (step basicUtf) OwnAnswer {} oneAtATimeRun := by decide +kernel
  obtain ⟨hds, hal⟩ := additions_distinct basicUtf_faithful.toFaithfulOnAscii hm hrn
  exact ⟨s, hm, hrn, hrt, hw, hds, hal ho⟩

end TelephonyCore.Phonebook.Manager
