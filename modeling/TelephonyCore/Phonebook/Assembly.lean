import Mathlib.Algebra.Order.BigOperators.Group.List
import TelephonyCore.Phonebook.UsimService

/-!
# `ProcessQueryDone`: the phone book from the files of its sets

The phone book should be the contacts of the ADN files, in the order of the PBR records, each with
its additional number. It is, except for two kinds of records. Where the numbers are found through
an IAP file of another length than the ADN file, the contacts are left out. And every ANR file that
is not of type 1 is taken for one of type 2.
-/

namespace TelephonyCore.Phonebook.Usim

open Codec List

namespace Files

variable (files : Files) (pbr : UsimDiallingNumberFile)

/-- Empty where there is none. -/
def additionalNumber (i : Nat) : U16String :=
  match (pbr.fileIds .anr).bind files.anrs with
  | none => []
  | some anrList =>
    if pbr.parentTag .anr = TYPE1_FLAG then anrList.getD i []
    else if pbr.parentTag .anr = TYPE2_FLAG then
      (do
        let iapList ← (pbr.fileIds .iap).bind files.iaps
        let mapping ← iapList[i]?
        anrOfIap anrList (pbr.tagIndex .anr) mapping).getD []
    else []

def contacts : List Contact :=
  (((pbr.fileIds .adn).bind files.adns).getD []).mapIdx fun i contact =>
    mergeNumber contact (files.additionalNumber pbr i)

/-- An IAP file that is read is as long as the ADN file, and the ANR file is of type 2 or has no
number for it. -/
def IapFits : Prop :=
  ∀ adnList anrList iapList, (pbr.fileIds .adn).bind files.adns = some adnList →
    (pbr.fileIds .anr).bind files.anrs = some anrList → pbr.parentTag .anr ≠ TYPE1_FLAG →
    (pbr.fileIds .iap).bind files.iaps = some iapList →
    adnList = [] ∨ iapList.length = adnList.length ∧ (pbr.parentTag .anr = TYPE2_FLAG ∨
      ∀ mapping ∈ iapList, (anrOfIap anrList (pbr.tagIndex .anr) mapping).getD [] = [])

def included : List Contact :=
  match files.assemble pbr with
  | some (_, adnList, true) => adnList
  | _ => []

variable {files pbr}

/-! ## One record -/

theorem mergeNumber_eq_self {contact : Contact} {anr : U16String} :
    mergeNumber contact anr = contact ↔ anr = [] := by
  refine ⟨fun heq => ?_, fun hnl => by simp [hnl, mergeNumber]⟩
  by_contra hne
  have hl := congrArg (·.number.length) heq
  simp [mergeNumber, hne] at hl

theorem mapIdx_contact (adnList : List Contact) :
    adnList.mapIdx (fun _ contact => mergeNumber contact []) = adnList :=
  ext_getElem? fun i => by simp [mergeNumber]

section Iap

variable {number : List UInt8 → Option U16String} {adnList : List Contact}
  {iapList : List (List UInt8)}

theorem zipWith_mergeNumber (hl : iapList.length = adnList.length) :
    .zipWith (fun contact mapping => mergeNumber contact ((number mapping).getD [])) adnList
        iapList =
      adnList.mapIdx fun i contact => mergeNumber contact ((iapList[i]?.bind number).getD []) := by
  refine ext_getElem (by simp [hl]) fun i hi _ => ?_
  simp at hi
  simp [hi]

theorem zipWith_mergeNumber_eq_self :
    ∀ {adnList : List Contact} {iapList : List (List UInt8)}, iapList.length = adnList.length →
      (.zipWith (fun contact mapping => mergeNumber contact ((number mapping).getD [])) adnList
        iapList = adnList ↔ ∀ mapping ∈ iapList, (number mapping).getD [] = [])
  | [], [], _ => by simp
  | contact :: adnList, mapping :: iapList, hl => by
    simp [mergeNumber_eq_self, zipWith_mergeNumber_eq_self (Nat.succ.inj hl)]

end Iap

theorem included_spec : (files.included pbr).length ≤ (files.contacts pbr).length ∧
      (files.included pbr = files.contacts pbr ↔ files.IapFits pbr) := by
  unfold contacts additionalNumber IapFits
  cases had : pbr.fileIds .adn with
  | none => simp [included, assemble, had]
  | some adn =>
  cases han : files.adns adn with
  | none => simp [included, assemble, had, han]
  | some adnList =>
  cases har : (pbr.fileIds .anr).bind files.anrs with
  | none => simp [included, assemble, had, han, har, mapIdx_contact]
  | some anrList =>
  by_cases ht : pbr.parentTag .anr = TYPE1_FLAG
  · simp [included, assemble, had, han, har, ht, mergeNumbers]
  cases hip : (pbr.fileIds .iap).bind files.iaps with
  | none => simp [included, assemble, had, han, har, ht, hip, mapIdx_contact]
  | some iapList =>
  by_cases hl : iapList.length = adnList.length
  · have hin : files.included pbr = .zipWith (fun contact mapping =>
        mergeNumber contact ((anrOfIap anrList (pbr.tagIndex .anr) mapping).getD [])) adnList
          iapList := by
      simp only [included, assemble, had, han, har, hip, hl, bind, Option.bind_some,
        if_neg ht, ne_eq, not_true_eq_false, if_false]
      congr 1
      funext contact mapping
      cases anrOfIap anrList (pbr.tagIndex .anr) mapping <;> rfl
    by_cases ht2 : pbr.parentTag .anr = TYPE2_FLAG
    · have hne : TYPE2_FLAG ≠ TYPE1_FLAG := by decide
      simp [hin, han, hl, ht2, hne, zipWith_mergeNumber]
    · simp [hin, han, ht, hl, ht2, mapIdx_contact, zipWith_mergeNumber_eq_self]
      intro hnl
      simp [hnl] at hl
      simp [hl]
  · simp [included, assemble, had, han, har, ht, hip, hl]

/-! ## All records -/

theorem assemble_update {adn : FileId} {adnList : List Contact} (hne : pbr.fileIds .adn ≠ some adn) :
    { files with adns := Function.update files.adns adn (some adnList) }.assemble pbr =
      files.assemble pbr := by
  unfold assemble
  cases had : pbr.fileIds .adn with
  | none => rfl
  | some own =>
    have ho : own ≠ adn := fun heq => hne (heq ▸ had)
    simp [ho]

theorem assemble_adn {adn : FileId} {rest : List Contact × Bool}
    (ham : files.assemble pbr = some (adn, rest)) : pbr.fileIds .adn = some adn := by
  unfold assemble at ham
  cases had : pbr.fileIds .adn with
  | none => simp [had] at ham
  | some own =>
    cases han : files.adns own with
    | none => simp [had, han] at ham
    | some adnList =>
      split at ham
      all_goals grind

def assembled (loop : Files × List FileId) (pbr : UsimDiallingNumberFile) : Files × List FileId :=
  match loop.1.assemble pbr with
  | none => loop
  | some (adn, adnList, included) =>
    ({ loop.1 with adns := Function.update loop.1.adns adn (some adnList) },
      if included then loop.2 ++ [adn] else loop.2)

theorem processQueryDone_eq (pbrFiles : List UsimDiallingNumberFile) :
    files.processQueryDone pbrFiles = (pbrFiles.foldl assembled (files, [])).2.flatMap fun adn =>
        ((pbrFiles.foldl assembled (files, [])).1.adns adn).getD [] := rfl

theorem foldl_assembled : ∀ (pbrFiles : List UsimDiallingNumberFile) files
    order, (order ++ pbrFiles.filterMap (·.fileIds .adn)).Nodup →
    ((pbrFiles.foldl assembled (files, order)).2.flatMap fun adn =>
      ((pbrFiles.foldl assembled (files, order)).1.adns adn).getD []) =
      (order.flatMap fun adn => (files.adns adn).getD []) ++ pbrFiles.flatMap files.included
  | [], files, order, _ => by simp
  | pbr :: pbrFiles, files, order, hnd => by
    cases ham : files.assemble pbr with
    | none =>
      have hr : (order ++ pbrFiles.filterMap (·.fileIds .adn)).Nodup :=
        hnd.sublist (((sublist_cons_self pbr pbrFiles).filterMap _).append_left order)
      simp [assembled, ham, included, foldl_assembled pbrFiles files order hr]
    | some entry =>
      obtain ⟨adn, adnList, inResult⟩ := entry
      have had := assemble_adn ham
      simp only [filterMap_cons, had] at hnd
      obtain ⟨hnt, hr⟩ := nodup_cons.1 (nodup_middle.1 hnd)
      rw [mem_append, not_or] at hnt
      have ho : (order.flatMap fun a =>
          (Function.update files.adns adn (some adnList) a).getD []) =
          order.flatMap fun a => (files.adns a).getD [] := by
        refine flatMap_congr fun a ha => ?_
        have hne : a ≠ adn := fun heq => hnt.1 (heq ▸ ha)
        rw [Function.update_of_ne hne]
      have hl : pbrFiles.flatMap
          { files with adns := Function.update files.adns adn (some adnList) }.included =
          pbrFiles.flatMap files.included := by
        refine flatMap_congr fun later hm => ?_
        have hne : later.fileIds .adn ≠ some adn := fun heq =>
          hnt.2 (mem_filterMap.2 ⟨later, hm, heq⟩)
        rw [included, assemble_update hne, included]
      cases inResult with
      | false =>
        simp [assembled, ham, included, foldl_assembled pbrFiles _ order hr, ho]
        exact hl
      | true =>
        have hnx : (order ++ [adn] ++ pbrFiles.filterMap (·.fileIds .adn)).Nodup := by
          simpa using hnd
        simp [assembled, ham, included, foldl_assembled pbrFiles _ _ hnx, ho]
        exact hl

end Files

theorem flatMap_eq_flatMap_iff {α β : Type} {f g : α → List β} :
    ∀ {l : List α}, (∀ x ∈ l, (f x).length ≤ (g x).length) →
      (l.flatMap f = l.flatMap g ↔ ∀ x ∈ l, f x = g x)
  | [], _ => by simp
  | x :: l, hle => by
    obtain ⟨_, hl⟩ := forall_mem_cons.1 hle
    rw [flatMap_cons, flatMap_cons, forall_mem_cons, ← flatMap_eq_flatMap_iff hl]
    refine ⟨fun heq => ?_, fun ⟨hf, hr⟩ => by rw [hf, hr]⟩
    have hs := congrArg List.length heq
    have hr : (l.flatMap f).length ≤ (l.flatMap g).length := by
      rw [length_flatMap, length_flatMap]
      exact sum_le_sum hl
    rw [length_append, length_append] at hs
    exact append_inj heq (by omega)

/-- The phone book has all contacts, in order and with their additional numbers, exactly when each
IAP file that is read fits its ADN file. -/
theorem phone_book_assembled_iff (files : Files) (pbrFiles : List UsimDiallingNumberFile)
    (hdistinct : (pbrFiles.filterMap (·.fileIds .adn)).Nodup) :
    files.processQueryDone pbrFiles = pbrFiles.flatMap files.contacts ↔
      ∀ pbr ∈ pbrFiles, files.IapFits pbr := by
  rw [Files.processQueryDone_eq, Files.foldl_assembled pbrFiles files [] hdistinct,
    flatMap_nil, nil_append]
  exact (flatMap_eq_flatMap_iff fun _ _ => Files.included_spec.1).trans
    (forall₂_congr fun _ _ => Files.included_spec.2)

def person : Contact where
  name := widen (ascii "A")
  number := widen (ascii "4")

def book (iapList : List (List UInt8)) : Files where
  adns := fun fileId => if fileId = 1 then some [person] else none
  anrs := fun fileId => if fileId = 2 then some [widen (ascii "5")] else none
  iaps := fun fileId => if fileId = 3 then some iapList else none

def bookEntry : UsimDiallingNumberFile where
  fileIds
    | .adn => some 1
    | .anr => some 2
    | .iap => some 3
    | .ext1 => none
  parentTag := fun _ => TYPE2_FLAG

theorem phone_book_assembled_one :
    (book [[1]]).processQueryDone [bookEntry] = [bookEntry].flatMap (book [[1]]).contacts :=
  (phone_book_assembled_iff (book [[1]]) [bookEntry] (by decide)).2 (by
    intro pbr hm adnList anrList iapList had han _ hip
    obtain rfl := mem_singleton.1 hm
    obtain rfl := Option.some.inj had
    obtain rfl := Option.some.inj hip
    exact .inr ⟨rfl, .inl rfl⟩)

/-- The IAP file has a record more than the ADN file, and the contact is missing. -/
theorem long_iap_loses_contact :
    (book [[1], [255]]).adns 1 = some [person] ∧
      (book [[1], [255]]).processQueryDone [bookEntry] = [] :=
  ⟨rfl, rfl⟩

end TelephonyCore.Phonebook.Usim
