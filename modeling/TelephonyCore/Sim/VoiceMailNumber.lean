import TelephonyCore.Phonebook.SimUtils

/-!
# `SimFile`: setting the voice mail number

`UpdateVoiceMail` writes the contact to EF_MBDN, or to the CPHS mailbox if the card has no index for
the first. After an answer for EF_MBDN, `ProcessSetMbdn` writes the CPHS mailbox as well, from the
stored fields, with the number as the name and the name as the number.
-/

namespace TelephonyCore.Sim.VoiceMailNumber

open Codec Phonebook

inductive ElementaryFile where
  | mbdn
  | mailboxCphs
  | ext1
  | ext6
deriving DecidableEq

structure DiallingNumbersInfo where
  name : U16String
  number : U16String
deriving DecidableEq

/-- A `DiallingNumberUpdateInfor`. -/
structure UpdateRequest where
  diallingNumber : DiallingNumbersInfo
  fileId : ElementaryFile
  extFile : ElementaryFile
  index : Int
deriving DecidableEq

/-- `Str8ToStr16` and `Str16ToStr8`, which lose nothing. -/
structure Conversion where
  str8ToStr16 : StdString → U16String
  str16ToStr8 : U16String → StdString
  inverse : ∀ s, str16ToStr8 (str8ToStr16 s) = s

structure SimFile where
  indexOfMailbox : Int
  cphsInfo : StdString
  voiceMailNum : StdString
  voiceMailTag : StdString
  waitResult : Bool := false
deriving DecidableEq

variable (conv : Conversion)

def Conversion.contact (name number : StdString) : DiallingNumbersInfo :=
  ⟨conv.str8ToStr16 name, conv.str8ToStr16 number⟩

/-- The buffer is one zero byte longer than its text. -/
def cphsVoiceMailAvailable (cphsInfo : StdString) : Bool :=
  match hexStringConvertToBytes cphsInfo with
  | some dataByte => dataByte.getD 1 0 &&& 0x30 == 0x30
  | none => false

def mailboxIndexed (indexOfMailbox : Int) : Bool := indexOfMailbox != 0 && indexOfMailbox != 0xFF

/-- `UpdateVoiceMail` up to its wait where `VoiceMailNotEditToSim` is false, and its requests. -/
def updateVoiceMail (mailName mailNumber : StdString) (s : SimFile) :
    SimFile × List UpdateRequest :=
  let diallingNumber := conv.contact mailName mailNumber
  ({ s with waitResult := false },
    if mailboxIndexed s.indexOfMailbox then [⟨diallingNumber, .mbdn, .ext6, s.indexOfMailbox⟩]
    else if cphsVoiceMailAvailable s.cphsInfo then [⟨diallingNumber, .mailboxCphs, .ext1, 1⟩]
    else [])

/-- The part that both handlers have: a success stores the contact written and ends the wait. -/
def storeResult (result : DiallingNumbersInfo) (success : Bool) (s : SimFile) : SimFile :=
  if success then
    { s with
      voiceMailNum := conv.str16ToStr8 result.number
      voiceMailTag := conv.str16ToStr8 result.name
      waitResult := true }
  else s

def processSetCphsMailbox (result : DiallingNumbersInfo) (success : Bool) (s : SimFile) :
    SimFile × List UpdateRequest :=
  (storeResult conv result success s, [])

def processSetMbdn (result : DiallingNumbersInfo) (success : Bool) (s : SimFile) :
    SimFile × List UpdateRequest :=
  let s := storeResult conv result success s
  (s,
    if cphsVoiceMailAvailable s.cphsInfo then
      -- the two fields are the other way round
      [⟨conv.contact s.voiceMailNum s.voiceMailTag, .mailboxCphs, .ext1, 1⟩]
    else [])

/-- The file, the requests that wait for an answer, and all requests. -/
structure Run where
  file : SimFile
  pending : List UpdateRequest
  sent : List UpdateRequest
deriving DecidableEq

/-- The answer to the oldest request. -/
def Run.answer (success : Bool) (r : Run) : Run :=
  match r.pending with
  | [] => r
  | infor :: rest =>
    let process := if infor.fileId = .mbdn then processSetMbdn else processSetCphsMailbox
    let (file, requests) := process conv infor.diallingNumber success r.file
    ⟨file, rest ++ requests, r.sent ++ requests⟩

def Run.start (mailName mailNumber : StdString) (s : SimFile) : Run :=
  let (file, requests) := updateVoiceMail conv mailName mailNumber s
  ⟨file, requests, requests⟩

/-- All is answered, each request carries the contact, and a call that has returned true, in
whichever state its wait ended, leaves the contact in the fields. -/
def ContactKept (mailName mailNumber : StdString) (first second : Bool) (s : SimFile) : Prop :=
  let called := Run.start conv mailName mailNumber s
  let answered := called.answer conv first
  let final := answered.answer conv second
  final.pending = [] ∧
    (∀ infor ∈ final.sent, infor.diallingNumber = conv.contact mailName mailNumber) ∧
    ∀ r ∈ [called, answered, final], r.file.waitResult = true →
      final.file.voiceMailNum = mailNumber ∧ final.file.voiceMailTag = mailName

variable {conv}

theorem contact_inj {a b c d : StdString} :
    conv.contact a b = conv.contact c d ↔ a = c ∧ b = d := by
  have hin : ∀ s t, conv.str8ToStr16 s = conv.str8ToStr16 t ↔ s = t := fun s t =>
    ⟨fun h => by rw [← conv.inverse s, h, conv.inverse], congrArg _⟩
  simp only [Conversion.contact, DiallingNumbersInfo.mk.injEq, hin]

@[simp] theorem str16ToStr8_contact_name (a b : StdString) :
    conv.str16ToStr8 (conv.contact a b).name = a := conv.inverse a

@[simp] theorem str16ToStr8_contact_number (a b : StdString) :
    conv.str16ToStr8 (conv.contact a b).number = b := conv.inverse b

/-- The contact is kept unless a second file is written after the first: then exactly if the name is
the number or, after a failure of the first, if the stored contact is the new one reversed. -/
theorem voice_mail_contact_kept_iff (mailName mailNumber : StdString) (first second : Bool)
    (s : SimFile) :
    ContactKept conv mailName mailNumber first second s ↔
      mailboxIndexed s.indexOfMailbox = false ∨ cphsVoiceMailAvailable s.cphsInfo = false ∨
        if first then mailName = mailNumber
        else s.voiceMailNum = mailName ∧ s.voiceMailTag = mailNumber := by
  cases hi : mailboxIndexed s.indexOfMailbox <;> cases hc : cphsVoiceMailAvailable s.cphsInfo <;>
    cases first <;> cases second <;>
    simp [ContactKept, Run.start, updateVoiceMail, hi, hc, Run.answer, processSetMbdn,
      processSetCphsMailbox, storeResult, contact_inj]
  -- the second file, after a failure and after a success of the first
  · exact fun hn ht => ⟨ht, hn⟩
  · exact .symm
  · exact ⟨fun h => h.2.1, fun h => ⟨⟨h.symm, h⟩, h, h.symm⟩⟩

def sampleConversion : Conversion where
  str8ToStr16 := widen
  str16ToStr8 := (·.map UInt16.toUInt8)
  inverse s := by simp [widen, Function.comp_def]

/-- Both writes succeed: the CPHS mailbox and the fields have the name and the number exchanged. -/
theorem voice_mail_contact_reversed :
    let final := ((Run.start sampleConversion (ascii "Box") (ascii "123")
      ⟨1, ascii "0330", [], [], false⟩).answer sampleConversion true).answer sampleConversion true
    final.sent.map UpdateRequest.diallingNumber =
        [sampleConversion.contact (ascii "Box") (ascii "123"),
          sampleConversion.contact (ascii "123") (ascii "Box")] ∧
      final.pending = [] ∧ final.file.waitResult = true ∧
      final.file.voiceMailNum = ascii "Box" ∧ final.file.voiceMailTag = ascii "123" := by
  decide

end TelephonyCore.Sim.VoiceMailNumber
