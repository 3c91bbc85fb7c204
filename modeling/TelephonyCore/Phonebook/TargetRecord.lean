import TelephonyCore.Phonebook.Cache

/-!
# The record of a change

`UpdateDiallingNumberToIcc` is called for additions, changes and deletions. The record of an
addition is the first empty one, a change names its record, and a deletion names it or, without an
index, the contact. `IsTarget` says so for the cached list, whose records are numbered from 1.

A search that fails has to end in an error. It does for changes and deletions. For `ADD_FLAG` there
is no case behind the loop in `CheckValueAndOperation`, so that in a full list the flag itself is
taken for the record, and a deletion of the record -1 is taken for an addition.
-/

namespace TelephonyCore.Phonebook

open List

/-- Record `i` is at position `i`, counted from 1. -/
def Numbered (list : List Contact) : Prop :=
  ∀ (count : Nat) (record : Contact), list[count]? = some record → record.index = count + 1

def IsTarget (list : List Contact) (info : Contact) (index : Int) (isDel : Bool) (count : Nat) :
    Prop :=
  ∃ record, list[count]? = some record ∧
    if index = ADD_FLAG ∧ isDel = false then
      record.isEmpty = true ∧ ∀ before ∈ list.take count, before.isEmpty = false
    else
      record.isEmpty = false ∧
        if isDel = true ∧ index = EMPTY_INDEX then isDiallingNumberEqual info record = true
        else index = count + 1

/-- The request is for the record of the change, and without such a record there is an error and no
request. -/
structure ChangeMeets (list : List Contact) (info : Contact) (index : Int) (isDel : Bool)
    (result : Except RadioError UpdateInfor) : Prop where
  target : ∀ infor, result = .ok infor →
    ∃ count, IsTarget list info index isDel count ∧ infor.index = count + 1
  missing : (¬∃ count, IsTarget list info index isDel count) → result = .error loaderError

/-! ## The searches -/

theorem searchIndexByNameAndNumber_cases (info : Contact) :
    ∀ list index, searchIndexByNameAndNumber list info index = index ∨
      ∃ record ∈ list, isDiallingNumberEqual info record ∧
        searchIndexByNameAndNumber list info index = record.index
  | [], _ => .inl rfl
  | item :: list, index => by
    have hc : searchIndexByNameAndNumber (item :: list) info index =
        searchIndexByNameAndNumber list info
          (if isDiallingNumberEqual info item then item.index else index) := rfl
    rw [hc]
    obtain hk | ⟨record, hm, he, hid⟩ := searchIndexByNameAndNumber_cases info list
      (if isDiallingNumberEqual info item then item.index else index)
    · rw [hk]
      by_cases hit : isDiallingNumberEqual info item
      · rw [if_pos hit]
        exact .inr ⟨item, mem_cons_self, hit, rfl⟩
      · rw [if_neg hit]
        exact .inl rfl
    · exact .inr ⟨record, mem_cons_of_mem _ hm, he, hid⟩

section Change

variable {cache : Cache} {utf : Utf} {fileId : FileId} {list : List Contact} {info : Contact}
  {index : Int} {isDel : Bool}

theorem record_of_check (hls : cache.loadReadyDiallingNumbers fileId = some list)
    (hnm : Numbered list) (hne : index ≠ ADD_FLAG) {index' : Int}
    (h : cache.checkValueAndOperation list index fileId = some index') :
    index' = index ∧ ∃ (count : Nat) (record : Contact), list[count]? = some record ∧
      record.isEmpty = false ∧ index = count + 1 := by
  refine ⟨Cache.checkValueAndOperation_of_ne h hne, ?_⟩
  rw [Cache.checkValueAndOperation, if_neg hne, hls] at h
  obtain ⟨hps, -⟩ := Option.ite_none_left_eq_some.1 h
  simp only [Bool.or_eq_true, not_or, decide_eq_true_iff] at hps
  obtain ⟨⟨_, _⟩, han⟩ := hps
  have hlt : (index - 1).toNat < list.length := by omega
  have hg := getElem?_eq_getElem hlt
  have hid : list[(index - 1).toNat].index = index := by
    have hpn := hnm _ _ hg
    omega
  refine ⟨(index - 1).toNat, _, hg, ?_, by omega⟩
  by_contra he
  rw [Bool.not_eq_false] at he
  apply han
  rw [any_eq_true]
  exact ⟨_, getElem_mem hlt, by rw [hid, he]; simp⟩

theorem update_add (utf : Utf) (info : Contact) (isDel : Bool)
    (hl : cache.loadReadyDiallingNumbers fileId = some list) :
    ∃ infor, cache.updateDiallingNumberToIcc utf fileId info ADD_FLAG isDel = .ok infor ∧
      infor.index = ((list.findIdx? Contact.isEmpty).map fun count => (count : Int) + 1).getD
        ADD_FLAG := by
  have hf : (isDel && ADD_FLAG == EMPTY_INDEX) = false := Bool.and_false isDel
  simp only [Cache.updateDiallingNumberToIcc, hl, hf, Cache.checkValueAndOperation]
  cases list.findIdx? Contact.isEmpty with
  | none | some count => exact ⟨_, rfl, rfl⟩

theorem target_of_ok (hl : cache.loadReadyDiallingNumbers fileId = some list)
    (hnm : Numbered list) (hne : index ≠ ADD_FLAG) {infor : UpdateInfor}
    (h : cache.updateDiallingNumberToIcc utf fileId info index isDel = .ok infor) :
    ∃ count, IsTarget list info index isDel count ∧ infor.index = count + 1 := by
  obtain ⟨_, hl', hch, -⟩ := Cache.updateDiallingNumberToIcc_ok h
  cases hl.symm.trans hl'
  by_cases hs : isDel ∧ index = EMPTY_INDEX
  · have hcn : (isDel && index == EMPTY_INDEX) := by simp [hs]
    rw [if_pos hcn] at hch
    obtain hk | ⟨record, hm, he, hfd⟩ := searchIndexByNameAndNumber_cases info list index
    · -- no contact is equal, and the index 0 is not let through
      rw [hk] at hch
      obtain ⟨-, count, -, -, -, hct⟩ := record_of_check hl hnm hne hch
      rw [hs.2, EMPTY_INDEX] at hct
      omega
    · obtain ⟨position, hp⟩ := mem_iff_getElem?.1 hm
      have hid := hnm position record hp
      have hfn : record.index ≠ ADD_FLAG := by
        rw [hid, ADD_FLAG]
        omega
      rw [hfd] at hch
      obtain ⟨ht, count, record', hg, hfl, hct⟩ := record_of_check hl hnm hfn hch
      obtain rfl : count = position := by omega
      obtain rfl := Option.some.inj (hg.symm.trans hp)
      refine ⟨count, ⟨record', hg, ?_⟩, by omega⟩
      rw [if_neg fun h => hne h.1, if_pos hs]
      exact ⟨hfl, he⟩
  · have hcn : (isDel && index == EMPTY_INDEX) = false := by simpa using hs
    rw [hcn, if_neg Bool.false_ne_true] at hch
    obtain ⟨ht, count, record, hg, hfl, hct⟩ := record_of_check hl hnm hne hch
    refine ⟨count, ⟨record, hg, ?_⟩, by omega⟩
    rw [if_neg fun h => hne h.1, if_neg hs]
    exact ⟨hfl, hct⟩

theorem error_of_update {exception : RadioError}
    (h : cache.updateDiallingNumberToIcc utf fileId info index isDel = .error exception) :
    exception = loaderError := by
  rw [Cache.updateDiallingNumberToIcc] at h
  split at h
  · exact (Except.error.inj h).symm
  simp only at h
  split at h
  · exact (Except.error.inj h).symm
  · cases h

theorem changeMeets_of_target (ht : ∀ infor,
    cache.updateDiallingNumberToIcc utf fileId info index isDel = .ok infor →
      ∃ count, IsTarget list info index isDel count ∧ infor.index = count + 1) :
    ChangeMeets list info index isDel
      (cache.updateDiallingNumberToIcc utf fileId info index isDel) := by
  refine ⟨ht, fun hn => ?_⟩
  cases hr : cache.updateDiallingNumberToIcc utf fileId info index isDel with
  | error exception => rw [error_of_update hr]
  | ok infor =>
    obtain ⟨count, hc, -⟩ := ht infor hr
    exact absurd ⟨count, hc⟩ hn

theorem isTarget_of_findIdx? {count : Nat} (h : list.findIdx? Contact.isEmpty = some count) :
    IsTarget list info ADD_FLAG false count := by
  obtain ⟨hlt, he, hb⟩ := findIdx?_eq_some_iff_getElem.1 h
  refine ⟨list[count], getElem?_eq_getElem hlt, ?_⟩
  refine ⟨he, fun before hm => ?_⟩
  obtain ⟨position, _, rfl⟩ := mem_take_iff_getElem.1 hm
  exact (Bool.not_eq_true _).mp (hb position (by omega))

end Change

/-- **The record of a change** is found, and reported if it is missing, except for `ADD_FLAG` in a
deletion or in a full list. -/
theorem change_target_iff (cache : Cache) (utf : Utf) (fileId : FileId) (list : List Contact)
    (hlist : cache.loadReadyDiallingNumbers fileId = some list) (hnumbered : Numbered list)
    (info : Contact) (index : Int) (isDel : Bool) :
    ChangeMeets list info index isDel
        (cache.updateDiallingNumberToIcc utf fileId info index isDel) ↔
      (index = ADD_FLAG → isDel = false ∧ ∃ record ∈ list, record.isEmpty = true) := by
  constructor
  · rintro hmt rfl
    obtain ⟨infor, hok, hin⟩ := update_add utf info isDel hlist
    obtain ⟨count, ⟨record, -, hr⟩, _⟩ := hmt.target infor hok
    have he : ∃ record ∈ list, record.isEmpty = true := by
      cases hf : list.findIdx? Contact.isEmpty with
      | none =>
        rw [hf] at hin
        change infor.index = -1 at hin
        omega
      | some position =>
        obtain ⟨hlt, he, -⟩ := findIdx?_eq_some_iff_getElem.1 hf
        exact ⟨_, getElem_mem hlt, he⟩
    refine ⟨?_, he⟩
    by_contra hdl
    rw [if_neg fun h => hdl h.2, if_neg fun h => absurd h.2 (by decide), ADD_FLAG] at hr
    omega
  · intro hc
    apply changeMeets_of_target
    intro infor hok
    by_cases had : index = ADD_FLAG
    · subst had
      obtain ⟨rfl, record, hmm, he⟩ := hc rfl
      obtain ⟨_, hok', hin⟩ := update_add utf info false hlist
      obtain rfl := Except.ok.inj (hok.symm.trans hok')
      cases hf : list.findIdx? Contact.isEmpty with
      | none =>
        rw [findIdx?_eq_none_iff.1 hf record hmm] at he
        cases he
      | some count =>
        rw [hf] at hin
        exact ⟨count, isTarget_of_findIdx? hf, hin⟩
    · exact target_of_ok hlist hnumbered had hok

def firstContact : Contact := { name := [65], number := [], index := 1 }

def adnCache (list : List Contact) : Cache := ({} : Cache).insert ELEMENTARY_FILE_ADN (some list)

theorem change_target_add :
    ChangeMeets [firstContact, { name := [], number := [], index := 2 }]
      { name := [66], number := [] } ADD_FLAG false
      ((adnCache [firstContact, { name := [], number := [], index := 2 }]).updateDiallingNumberToIcc
        basicUtf ELEMENTARY_FILE_ADN { name := [66], number := [] } ADD_FLAG false) := by
  refine (change_target_iff _ basicUtf ELEMENTARY_FILE_ADN _ rfl ?_ _ _ _).2 fun _ =>
    ⟨rfl, { name := [], number := [], index := 2 }, by simp, rfl⟩
  rintro (_ | _ | _) _ h
  · exact Option.some.inj h ▸ rfl
  · exact Option.some.inj h ▸ rfl
  · cases h

/-- In a full phone book an addition goes to the record -1. -/
theorem full_list_written_at_flag :
    ∃ infor, (adnCache [firstContact]).updateDiallingNumberToIcc basicUtf ELEMENTARY_FILE_ADN
        { name := [66], number := [] } ADD_FLAG false = .ok infor ∧ infor.index = -1 ∧
      Numbered [firstContact] ∧
      ¬ChangeMeets [firstContact] { name := [66], number := [] } ADD_FLAG false (.ok infor) := by
  refine ⟨_, rfl, rfl, ?_, fun hm => ?_⟩
  · rintro (_ | count) _ h
    · exact Option.some.inj h ▸ rfl
    · cases h
  · obtain ⟨count, -, hc⟩ := hm.target _ rfl
    change (-1 : Int) = count + 1 at hc
    omega

end TelephonyCore.Phonebook
