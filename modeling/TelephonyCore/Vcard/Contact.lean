import TelephonyCore.Vcard.Decoder

/-!
# `VCardContact` and the listener of an import

What `AddRawData` makes of a property, for the texts that are stored as they are: the display name,
nicknames, organizations with their titles, and notes. The other branches of `AddDatas` change other
data of the contact only, and leave these as they are.
-/

namespace TelephonyCore.Vcard

open Codec

def VCARD_TYPE_X_OHOS_CUSTOM := ascii "X_OHOS_CUSTOM"
def VCARD_TYPE_X_MOBILE_CUSTOM := ascii "X-OHOS-CUSTOM"

structure VCardOrganizationData where
  organization : StdString := []
  departmentName : StdString := []
  company : StdString := []
  title : StdString := []
deriving DecidableEq

structure VCardContact where
  displayName : StdString := []
  nicknames : List StdString := []
  organizations : List VCardOrganizationData := []
  notes : List StdString := []
deriving DecidableEq

def trimListToString : List StdString → StdString
  | [] => []
  | [str] => str
  | strs => strs.flatMap (· ++ ascii ";")

/-- Changes the first organization with `isFree`, or adds `new` when there is none. -/
def setFirst (isFree : VCardOrganizationData → Bool)
    (set : VCardOrganizationData → VCardOrganizationData) (new : VCardOrganizationData) :
    List VCardOrganizationData → List VCardOrganizationData
  | [] => [new]
  | data :: rest => if isFree data then set data :: rest else data :: setFirst isFree set new rest

namespace VCardContact

def handleTitleValue (contact : VCardContact) (title : StdString) : VCardContact :=
  let isFree := fun data : VCardOrganizationData => decide (data.title = [])
  let organizations := setFirst isFree ({ · with title }) { title } contact.organizations
  { contact with organizations }

def handleOrgValue (contact : VCardContact) (orgList : List StdString) : VCardContact :=
  let organization := orgList.headD []
  let departmentName := (ascii " ").intercalate orgList.tail
  let isFree := fun data : VCardOrganizationData =>
    decide (data.organization = [] ∧ data.departmentName = [])
  let organizations := setFirst isFree ({ · with organization, departmentName })
    { organization, departmentName } contact.organizations
  { contact with organizations }

def addOrganizationsData (contact : VCardContact) (rawData : VCardRawData)
    (propValue : StdString) : VCardContact :=
  if rawData.params = [] then
    { contact with organizations := contact.organizations ++ [{ company := rawData.rawValue }] }
  else if rawData.params.any (·.1 == VCARD_PARAM_TYPE) then contact.handleOrgValue rawData.values
  else { contact with organizations := contact.organizations ++ [{ company := propValue }] }

/-- `AddCustom`, which stores nicknames among others. -/
def addCustom (contact : VCardContact) (value : StdString) : VCardContact :=
  let values := split value (ascii ";")
  if values.headD [] = ascii "nickname" then
    { contact with nicknames := contact.nicknames ++ [values.getD 1 []] }
  else contact

/-- `AddRawData` with `AddDatas` and `AddOtherDatas`. -/
def addRawData (contact : VCardContact) (rawData : VCardRawData) : VCardContact :=
  let propValue := trimListToString rawData.values
  -- titles, notes and custom values of a property without parameters are not decoded
  let value := if rawData.params = [] then rawData.rawValue else propValue
  let name := rawData.name
  if rawData.values = [] ∧ rawData.bytes = [] then contact
  else if name = VCARD_TYPE_FN then { contact with displayName := rawData.values.headD [] }
  else if name = VCARD_TYPE_NICKNAME then
    { contact with nicknames := contact.nicknames ++ [propValue] }
  else if name = VCARD_TYPE_ORG then contact.addOrganizationsData rawData propValue
  else if name = VCARD_TYPE_TITLE then contact.handleTitleValue value
  else if name = VCARD_TYPE_NOTE then { contact with notes := contact.notes ++ [value] }
  else if name = VCARD_TYPE_X_OHOS_CUSTOM ∨ name = VCARD_TYPE_X_MOBILE_CUSTOM then
    contact.addCustom value
  else contact

end VCardContact

/-- A contact may be a null pointer. -/
structure DecodeListener where
  contacts : List (Option VCardContact) := []
  currentContact : Option VCardContact := none

def DecodeListener.on (listener : DecodeListener) : Event → DecodeListener
  | .started => { listener with contacts := [] }
  | .ended => listener
  | .oneContactStarted => { listener with currentContact := some {} }
  | .oneContactEnded =>
    { contacts := listener.contacts ++ [listener.currentContact], currentContact := none }
  | .rawDataCreated rawData =>
    { listener with currentContact := listener.currentContact.map (·.addRawData rawData) }

def imported (events : List Event) : List (Option VCardContact) :=
  (events.foldl DecodeListener.on {}).contacts

end TelephonyCore.Vcard
