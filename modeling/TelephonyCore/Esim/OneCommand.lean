import TelephonyCore.Codec.StoreData
import TelephonyCore.Esim.BuilderAdditions

/-!
# The operations that send one command

Twenty-one functions of `EsimFile` build an ASN.1 command, turn it into one request with
`CommBuildOneApduReqInfo` and hand that to the RIL manager; `ProcessSendApduData` does the same with
a text of its caller. Each is `sendCommand` at its own builder.

A command of more than 255 bytes is cut into several STORE DATA commands, and only the first of them
becomes a request. A command that cannot be built or written becomes a request of default values.
Neither is reported.
-/

namespace TelephonyCore.Esim

open Codec List Option RequestApduBuild

def TAG_ESIM_CANCEL_SESSION : UInt32 := 0xBF41
def TAG_ESIM_TAG_LIST : UInt32 := 0x5C
def TAG_ESIM_NICKNAME : UInt32 := 0x90
def TAG_ESIM_ICCID : UInt32 := 0x5A
def TAG_ESIM_PROFILE_STATE : UInt32 := 0x9F70
def TAG_ESIM_OBTAIN_OPERATOR_NAME : UInt32 := 0x91
def TAG_ESIM_PROFILE_CLASS : UInt32 := 0x95
def TAG_ESIM_PROFILE_POLICY_RULE : UInt32 := 0x99
def TAG_ESIM_PROFILE_NAME : UInt32 := 0x92
def TAG_ESIM_OPERATOR_ID : UInt32 := 0xB7
def TAG_ESIM_CARRIER_PRIVILEGE_RULES : UInt32 := 0xBF76
def TAG_ESIM_PORT : UInt32 := 0x9F24
def TAG_ESIM_CTX_2 : UInt32 := 0x82
def TAG_ESIM_SEQUENCE : UInt32 := 0x30
def TAG_ESIM_GET_PROFILES : UInt32 := 0xBF2D
def TAG_ESIM_DISABLE_PROFILE : UInt32 := 0xBF32
def TAG_ESIM_ENABLE_PROFILE : UInt32 := 0xBF31
def TAG_ESIM_GET_EID : UInt32 := 0xBF3E
def TAG_ESIM_SET_NICKNAME : UInt32 := 0xBF29
def TAG_ESIM_DELETE_PROFILE : UInt32 := 0xBF33
def TAG_ESIM_GET_CONFIGURED_ADDRESSES : UInt32 := 0xBF3C
def TAG_ESIM_SET_DEFAULT_SMDP_ADDRESS : UInt32 := 0xBF3F
def TAG_ESIM_GET_RAT : UInt32 := 0xBF43
def TAG_ESIM_EUICC_MEMORY_RESET : UInt32 := 0xBF34
def TAG_ESIM_GET_EUICC_CHALLENGE : UInt32 := 0xBF2E
def TAG_ESIM_GET_EUICC_INFO_1 : UInt32 := 0xBF20
def TAG_ESIM_GET_EUICC_INFO_2 : UInt32 := 0xBF22
def TAG_ESIM_LIST_NOTIFICATION : UInt32 := 0xBF28
def TAG_ESIM_RETRIEVE_NOTIFICATIONS_LIST : UInt32 := 0xBF2B
def TAG_ESIM_REMOVE_NOTIFICATION_FROM_LIST : UInt32 := 0xBF30
def TAG_ESIM_GET_CONTRACT_INFO : UInt32 := 0xBF71
def PROFILE_DEFAULT_NUMBER : UInt32 := 256
def EUICC_MEMORY_RESET_BIT_STR_FILL_LEN : UInt8 := 0x05
def EUICC_MEMORY_RESET_BIT_STR_VALUE : UInt8 := 0xA0

def ascii (s : String) : StdString := s.toList.map fun c => UInt8.ofNat c.toNat

def KEY_IMEI : StdString := ascii "kIMEI"
def KEY_IMEI2 : StdString := ascii "kIMEI2"
def KEY_NONCE : StdString := ascii "kNonce"
def KEY_TIMESTAMP : StdString := ascii "kTimestamp"

/-! ## What the operations read -/

structure EsimApduData where
  unusedDefaultReqHeadFlag : Bool := false
  data : List UInt16 := []
  instructionType : Int32 := 0
  instruction : Int32 := 0
  p1 : Int32 := 0
  p2 : Int32 := 0
  p3 : Int32 := 0

structure EsimProfile where
  iccId : List UInt16 := []
  portIndex : Int32 := 0
  nickname : List UInt16 := []
  seqNumber : Int32 := 0
  transactionId : List UInt16 := []
  cancelReason : UInt32 := 1
  defaultSmdpAddress : List UInt16 := []
  apduData : EsimApduData := {}

structure MapMetaData where
  nonce : List UInt16 := []
  imei : List UInt16 := []
  imei2 : List UInt16 := []
  timestamp : List UInt16 := []

structure GetContractInfoRequest where
  euiccCiPkidToBeUsed : List UInt16 := []
  mapMetaData : MapMetaData := {}
  ePkPosHpke : List UInt16 := []

inductive TransmitResult where
  | TELEPHONY_ERR_SUCCESS
  | TELEPHONY_ERR_FAIL
  | other
deriving DecidableEq

/-- The members and the surroundings that these operations read; a RIL manager that is gone and a
system parameter that is not set are `none`. -/
structure EsimFile where
  text : TextCodec
  str16ToStr8 : List UInt16 → StdString
  currentChannelId : Int32
  telRilManager : Option TransmitResult
  esimProfile : EsimProfile := {}
  getContractInfoRequest : GetContractInfoRequest := {}
  supportEsimMep : Option Bool := none
  esimMepRefreshFlag : Option Bool := none

namespace EsimFile

def isLogicChannelOpen (f : EsimFile) : Bool := 0 < f.currentChannelId

def getBoolParameter (value : Option Bool) (default : Bool) : Bool := value.getD default

end EsimFile

def bcdToBytes (bcd : StdString) : List UInt8 := hexStrToBytes (swapHexCharPair bcd)

def addBytes (builder : Asn1Builder) (tag : UInt32) (bytes : List UInt8) : Asn1Builder :=
  (builder.asn1AddChildAsBytes tag bytes (UInt32.ofNat bytes.length)).2

/-! ## The request -/

variable {R : Type}

/-- `CommBuildOneApduReqInfo`, over the default request of its callers; `none` where
`BuildStoreData` does not return. -/
def commBuildOneApduReqInfo (f : EsimFile) (s : Session R) (builder : Asn1Builder) :
    Option (ApduSimIORequestInfo × Session R) :=
  let (hexStrLen, hexStr) := asn1BuilderToHexStr builder
  if hexStrLen = 0 then some ({}, s)
  else do
    let codec : RequestApduBuild := { channelId := f.currentChannelId }
    let codec ← codec.buildStoreDataChecked hexStr
    match codec.getCommands.1 with
    | [] => return ({}, s)
    | apduCommand :: _ => return copyApdCmdToReqInfo s apduCommand

inductive ResultCheck where
  | ignored
  | notSuccess
  | isFail
deriving DecidableEq

def ResultCheck.accepts : ResultCheck → TransmitResult → Bool
  | ignored, _ => true
  | notSuccess, apduResult => apduResult == .TELEPHONY_ERR_SUCCESS
  | isFail, apduResult => apduResult != .TELEPHONY_ERR_FAIL

/-- The end of every operation: hand the request to the RIL manager. -/
def transmit (f : EsimFile) (check : ResultCheck) (reqInfo : ApduSimIORequestInfo)
    (s : Session R) : Bool × Session R :=
  match f.telRilManager with
  | none => (false, s)
  | some apduResult => (check.accepts apduResult, simTransmitApduLogicalChannel s reqInfo)

/-- The common shape of the operations with an ASN.1 command; `builder` is `none` where the
operation gives up. -/
def sendCommand (f : EsimFile) (s : Session R) (check : ResultCheck)
    (builder : Option Asn1Builder) : Option (Bool × Session R) :=
  if f.isLogicChannelOpen then
    match builder with
    | none => some (false, s)
    | some builder => do
      let (reqInfo, s) ← commBuildOneApduReqInfo f s builder
      return transmit f check reqInfo s
  else some (false, s)

/-! ## The commands -/

namespace EsimFile

def getProfileTagList (f : EsimFile) : List UInt8 :=
  let tags := [TAG_ESIM_ICCID, TAG_ESIM_NICKNAME, TAG_ESIM_OBTAIN_OPERATOR_NAME,
    TAG_ESIM_PROFILE_NAME, TAG_ESIM_OPERATOR_ID,
    TAG_ESIM_PROFILE_STATE / PROFILE_DEFAULT_NUMBER,
    TAG_ESIM_PROFILE_STATE % PROFILE_DEFAULT_NUMBER,
    TAG_ESIM_PROFILE_CLASS, TAG_ESIM_PROFILE_POLICY_RULE,
    TAG_ESIM_CARRIER_PRIVILEGE_RULES / PROFILE_DEFAULT_NUMBER,
    TAG_ESIM_CARRIER_PRIVILEGE_RULES % PROFILE_DEFAULT_NUMBER]
  let ports := if getBoolParameter f.supportEsimMep false then
    [TAG_ESIM_PORT / PROFILE_DEFAULT_NUMBER, TAG_ESIM_PORT % PROFILE_DEFAULT_NUMBER] else []
  (tags ++ ports).map UInt32.toUInt8

/-- The node with the ICCID of `esimProfile_` in a constructed object 0. -/
def iccidNode (f : EsimFile) : Option Asn1Node :=
  (addBytes { tag := TAG_ESIM_CTX_COMP_0 } TAG_ESIM_ICCID
    (bcdToBytes (f.text.toUtf8 f.esimProfile.iccId))).asn1Build.1

def eidCommand : Asn1Builder :=
  addBytes { tag := TAG_ESIM_GET_EID } TAG_ESIM_TAG_LIST [TAG_ESIM_EID.toUInt8]

def allProfilesCommand (f : EsimFile) : Asn1Builder :=
  addBytes { tag := TAG_ESIM_GET_PROFILES } TAG_ESIM_TAG_LIST f.getProfileTagList

def disableProfileCommand (f : EsimFile) : Option Asn1Builder := do
  let builder : Asn1Builder := { tag := TAG_ESIM_DISABLE_PROFILE }
  let subNode ← f.iccidNode
  let refreshFlag := if getBoolParameter f.supportEsimMep false then
    getBoolParameter f.esimMepRefreshFlag false else true
  return ((builder.asn1AddChild (some subNode)).asn1AddChildAsBoolean TAG_ESIM_CTX_1 refreshFlag).2

/-- Here a null ICCID node is added as it is. -/
def getProfileCommand (f : EsimFile) : Asn1Builder :=
  let builder : Asn1Builder := { tag := TAG_ESIM_GET_PROFILES }
  addBytes (builder.asn1AddChild f.iccidNode) TAG_ESIM_TAG_LIST f.getProfileTagList

def cancelSessionCommand (f : EsimFile) : Asn1Builder :=
  let builder : Asn1Builder := { tag := TAG_ESIM_CANCEL_SESSION }
  let builder := addBytes builder TAG_ESIM_CTX_0
    (hexStrToBytes (f.str16ToStr8 f.esimProfile.transactionId))
  (builder.asn1AddChildAsInteger TAG_ESIM_CTX_1 f.esimProfile.cancelReason).2

def establishDefaultSmdpAddressCommand (f : EsimFile) : Asn1Builder :=
  let builder : Asn1Builder := { tag := TAG_ESIM_SET_DEFAULT_SMDP_ADDRESS }
  (builder.asn1AddChildAsString TAG_ESIM_TARGET_ADDR
    (f.text.toUtf8 f.esimProfile.defaultSmdpAddress)).2

def resetMemoryCommand : Asn1Builder :=
  addBytes { tag := TAG_ESIM_EUICC_MEMORY_RESET } TAG_ESIM_CTX_2
    [EUICC_MEMORY_RESET_BIT_STR_FILL_LEN, EUICC_MEMORY_RESET_BIT_STR_VALUE]

def listNotificationsCommand (events : Int32) : Asn1Builder :=
  let builder : Asn1Builder := { tag := TAG_ESIM_LIST_NOTIFICATION }
  (builder.asn1AddChildAsBits TAG_ESIM_CTX_1 events).2

def retrieveNotificationListCommand (events : Int32) : Asn1Builder :=
  let builder : Asn1Builder := { tag := TAG_ESIM_RETRIEVE_NOTIFICATIONS_LIST }
  let compBuilder : Asn1Builder := { tag := TAG_ESIM_CTX_COMP_0 }
  builder.asn1AddChild (compBuilder.asn1AddChildAsBits TAG_ESIM_CTX_1 events).2.asn1Build.1

def retrieveNotificationCommand (f : EsimFile) : Asn1Builder :=
  let builder : Asn1Builder := { tag := TAG_ESIM_RETRIEVE_NOTIFICATIONS_LIST }
  let subBuilder : Asn1Builder := { tag := TAG_ESIM_CTX_COMP_0 }
  builder.asn1AddChild
    (subBuilder.asn1AddChildAsSignedInteger TAG_ESIM_CTX_0 f.esimProfile.seqNumber).2.asn1Build.1

def removeNotificationCommand (f : EsimFile) : Asn1Builder :=
  let builder : Asn1Builder := { tag := TAG_ESIM_REMOVE_NOTIFICATION_FROM_LIST }
  (builder.asn1AddChildAsSignedInteger TAG_ESIM_CTX_0 f.esimProfile.seqNumber).2

def deleteProfileCommand (f : EsimFile) : Asn1Builder :=
  addBytes { tag := TAG_ESIM_DELETE_PROFILE } TAG_ESIM_ICCID
    (bcdToBytes (f.text.toUtf8 f.esimProfile.iccId))

def setNicknameCommand (f : EsimFile) : Asn1Builder :=
  let builder := addBytes { tag := TAG_ESIM_SET_NICKNAME } TAG_ESIM_ICCID
    (bcdToBytes (f.text.toUtf8 f.esimProfile.iccId))
  (builder.asn1AddChildAsString TAG_ESIM_NICKNAME (f.text.toUtf8 f.esimProfile.nickname)).2

/-- The parameter has another default here than in the other commands. -/
def switchToProfileCommand (f : EsimFile) : Option Asn1Builder := do
  let builder : Asn1Builder := { tag := TAG_ESIM_ENABLE_PROFILE }
  let subNode ← f.iccidNode
  let builder := builder.asn1AddChild (some subNode)
  if getBoolParameter f.supportEsimMep true then
    let refreshFlag := getBoolParameter f.esimMepRefreshFlag false
    let builder := (builder.asn1AddChildAsBoolean TAG_ESIM_CTX_1 refreshFlag).2
    return (builder.asn1AddChildAsInteger TAG_ESIM_CTX_2 f.esimProfile.portIndex.toUInt32).2
  else return (builder.asn1AddChildAsBoolean TAG_ESIM_CTX_1 true).2

/-- The command is built once before it is built for the request. -/
def euiccInfo2Command : Asn1Builder :=
  ({ tag := TAG_ESIM_GET_EUICC_INFO_2 } : Asn1Builder).asn1Build.2

def getKeyValueSequenceNode (kTag : UInt32) (key : StdString) (vTag : UInt32) (value : StdString) :
    Option Asn1Node :=
  let builder : Asn1Builder := { tag := TAG_ESIM_SEQUENCE }
  let builder := (builder.asn1AddChildAsString kTag key).2
  let builder :=
    if vTag = TAG_ESIM_OCTET_STRING_TYPE then addBytes builder vTag (hexStrToBytes value)
    else (builder.asn1AddChildAsString vTag value).2
  builder.asn1Build.1

def getMapMetaDataNode (f : EsimFile) : Option Asn1Node :=
  let metaData := f.getContractInfoRequest.mapMetaData
  let builder : Asn1Builder := { tag := TAG_ESIM_SEQUENCE }
  let builder := builder.asn1AddChild (getKeyValueSequenceNode TAG_ESIM_TARGET_ADDR KEY_IMEI
    TAG_ESIM_TARGET_ADDR (f.text.toUtf8 metaData.imei))
  let builder := builder.asn1AddChild (getKeyValueSequenceNode TAG_ESIM_TARGET_ADDR KEY_IMEI2
    TAG_ESIM_TARGET_ADDR (f.text.toUtf8 metaData.imei2))
  let builder := builder.asn1AddChild (getKeyValueSequenceNode TAG_ESIM_TARGET_ADDR KEY_NONCE
    TAG_ESIM_OCTET_STRING_TYPE (f.text.toUtf8 metaData.nonce))
  let builder := builder.asn1AddChild (getKeyValueSequenceNode TAG_ESIM_TARGET_ADDR KEY_TIMESTAMP
    TAG_ESIM_TARGET_ADDR (f.text.toUtf8 metaData.timestamp))
  builder.asn1Build.1

def getContractInfoCommand (f : EsimFile) : Option Asn1Builder := do
  let request := f.getContractInfoRequest
  let builder := addBytes { tag := TAG_ESIM_GET_CONTRACT_INFO } TAG_ESIM_OCTET_STRING_TYPE
    (hexStrToBytes (f.text.toUtf8 request.euiccCiPkidToBeUsed))
  let mapMetaDataNode ← f.getMapMetaDataNode
  let builder := builder.asn1AddChild (some mapMetaDataNode)
  return addBytes builder TAG_ESIM_OCTET_STRING_TYPE
    (hexStrToBytes (f.text.toUtf8 request.ePkPosHpke))

/-! ## The operations -/

variable (f : EsimFile) (s : Session R)

def processObtainEid := sendCommand f s .ignored (some eidCommand)

def processObtainEuiccInfo1 := sendCommand f s .ignored (some { tag := TAG_ESIM_GET_EUICC_INFO_1 })

def processRequestAllProfiles := sendCommand f s .ignored (some f.allProfilesCommand)

def processDisableProfile := sendCommand f s .notSuccess f.disableProfileCommand

def processObtainSmdsAddress :=
  sendCommand f s .notSuccess (some { tag := TAG_ESIM_GET_CONFIGURED_ADDRESSES })

def processRequestRulesAuthTable := sendCommand f s .isFail (some { tag := TAG_ESIM_GET_RAT })

def processObtainEuiccChallenge :=
  sendCommand f s .isFail (some { tag := TAG_ESIM_GET_EUICC_CHALLENGE })

def processObtainDefaultSmdpAddress :=
  sendCommand f s .isFail (some { tag := TAG_ESIM_GET_CONFIGURED_ADDRESSES })

def processGetProfile := sendCommand f s .isFail (some f.getProfileCommand)

def processCancelSession := sendCommand f s .isFail (some f.cancelSessionCommand)

def processEstablishDefaultSmdpAddress :=
  sendCommand f s .ignored (some f.establishDefaultSmdpAddressCommand)

def processResetMemory := sendCommand f s .isFail (some resetMemoryCommand)

def processListNotifications (events : Int32) :=
  sendCommand f s .isFail (some (listNotificationsCommand events))

def processRetrieveNotificationList (events : Int32) :=
  sendCommand f s .isFail (some (retrieveNotificationListCommand events))

def processRetrieveNotification := sendCommand f s .isFail (some f.retrieveNotificationCommand)

def processRemoveNotification := sendCommand f s .isFail (some f.removeNotificationCommand)

def processDeleteProfile := sendCommand f s .isFail (some f.deleteProfileCommand)

def processSetNickname := sendCommand f s .isFail (some f.setNicknameCommand)

def processSwitchToProfile := sendCommand f s .isFail f.switchToProfileCommand

def processObtainEuiccInfo2 := sendCommand f s .isFail (some euiccInfo2Command)

def processGetContractInfo := sendCommand f s .isFail f.getContractInfoCommand

def apduHex : StdString := f.text.toUtf8 f.esimProfile.apduData.data

/-- The header the caller asks for, if it does not want the one of STORE DATA. -/
def withOwnHead (apduData : EsimApduData) (reqInfo : ApduSimIORequestInfo) :
    ApduSimIORequestInfo :=
  if apduData.unusedDefaultReqHeadFlag then
    { reqInfo with
      type := apduData.instructionType, instruction := apduData.instruction
      p1 := apduData.p1, p2 := apduData.p2, p3 := apduData.p3 }
  else reqInfo

def processSendApduData : Option (Bool × Session R) :=
  if f.isLogicChannelOpen then do
    let codec ← ({ channelId := f.currentChannelId } : RequestApduBuild).buildStoreDataChecked
      f.apduHex
    match codec.getCommands.1 with
    | [] => return (false, s)
    | apdCmd :: _ =>
      let (reqInfo, s) := copyApdCmdToReqInfo s apdCmd
      return transmit f .isFail (withOwnHead f.esimProfile.apduData reqInfo) s
  else some (false, s)

end EsimFile

/-- The callers of `CommBuildOneApduReqInfo`. -/
inductive OneCommand where
  | obtainEid
  | obtainEuiccInfo1
  | requestAllProfiles
  | disableProfile
  | obtainSmdsAddress
  | requestRulesAuthTable
  | obtainEuiccChallenge
  | obtainDefaultSmdpAddress
  | getProfile
  | cancelSession
  | establishDefaultSmdpAddress
  | resetMemory
  | listNotifications (events : Int32)
  | retrieveNotificationList (events : Int32)
  | retrieveNotification
  | removeNotification
  | deleteProfile
  | setNickname
  | switchToProfile
  | obtainEuiccInfo2
  | getContractInfo

namespace OneCommand

def run (f : EsimFile) (s : Session R) : OneCommand → Option (Bool × Session R)
  | obtainEid => f.processObtainEid s
  | obtainEuiccInfo1 => f.processObtainEuiccInfo1 s
  | requestAllProfiles => f.processRequestAllProfiles s
  | disableProfile => f.processDisableProfile s
  | obtainSmdsAddress => f.processObtainSmdsAddress s
  | requestRulesAuthTable => f.processRequestRulesAuthTable s
  | obtainEuiccChallenge => f.processObtainEuiccChallenge s
  | obtainDefaultSmdpAddress => f.processObtainDefaultSmdpAddress s
  | getProfile => f.processGetProfile s
  | cancelSession => f.processCancelSession s
  | establishDefaultSmdpAddress => f.processEstablishDefaultSmdpAddress s
  | resetMemory => f.processResetMemory s
  | listNotifications events => f.processListNotifications s events
  | retrieveNotificationList events => f.processRetrieveNotificationList s events
  | retrieveNotification => f.processRetrieveNotification s
  | removeNotification => f.processRemoveNotification s
  | deleteProfile => f.processDeleteProfile s
  | setNickname => f.processSetNickname s
  | switchToProfile => f.processSwitchToProfile s
  | obtainEuiccInfo2 => f.processObtainEuiccInfo2 s
  | getContractInfo => f.processGetContractInfo s

def command (f : EsimFile) : OneCommand → Option Asn1Builder
  | obtainEid => some EsimFile.eidCommand
  | obtainEuiccInfo1 => some { tag := TAG_ESIM_GET_EUICC_INFO_1 }
  | requestAllProfiles => some f.allProfilesCommand
  | disableProfile => f.disableProfileCommand
  | obtainSmdsAddress => some { tag := TAG_ESIM_GET_CONFIGURED_ADDRESSES }
  | requestRulesAuthTable => some { tag := TAG_ESIM_GET_RAT }
  | obtainEuiccChallenge => some { tag := TAG_ESIM_GET_EUICC_CHALLENGE }
  | obtainDefaultSmdpAddress => some { tag := TAG_ESIM_GET_CONFIGURED_ADDRESSES }
  | getProfile => some f.getProfileCommand
  | cancelSession => some f.cancelSessionCommand
  | establishDefaultSmdpAddress => some f.establishDefaultSmdpAddressCommand
  | resetMemory => some EsimFile.resetMemoryCommand
  | listNotifications events => some (EsimFile.listNotificationsCommand events)
  | retrieveNotificationList events => some (EsimFile.retrieveNotificationListCommand events)
  | retrieveNotification => some f.retrieveNotificationCommand
  | removeNotification => some f.removeNotificationCommand
  | deleteProfile => some f.deleteProfileCommand
  | setNickname => some f.setNicknameCommand
  | switchToProfile => f.switchToProfileCommand
  | obtainEuiccInfo2 => some EsimFile.euiccInfo2Command
  | getContractInfo => f.getContractInfoCommand

def check : OneCommand → ResultCheck
  | obtainEid | obtainEuiccInfo1 | requestAllProfiles | establishDefaultSmdpAddress => .ignored
  | disableProfile | obtainSmdsAddress => .notSuccess
  | _ => .isFail

theorem run_eq_sendCommand (f : EsimFile) (s : Session R) (op : OneCommand) :
    op.run f s = sendCommand f s op.check (op.command f) := by
  cases op <;> rfl

end OneCommand

/-! ## The whole command -/

def commandHex (builder : Asn1Builder) : Option StdString :=
  builder.asn1Build.1.map fun node => upperHex node.asn1Write

def payloads (sent : List ApduSimIORequestInfo) : StdString :=
  sent.flatMap fun reqInfo => reqInfo.data

def WholeSent (run : Option (Bool × Session R)) (s : Session R) (encoding : Option StdString) :
    Prop :=
  ∃ ok s', run = some (ok, s') ∧
    (ok = false ∨ ∃ sent, s'.sent = s.sent ++ sent ∧ encoding = some (payloads sent))

/-- There is no RIL manager, or its result makes the operation fail. -/
def Rejected (f : EsimFile) (check : ResultCheck) : Prop :=
  ∀ apduResult, f.telRilManager = some apduResult → check.accepts apduResult = false

theorem collectChildren_total_le {children : List (Option Asn1Node)} {dataLen total : UInt32}
    {moved nodes : List Asn1Node}
    (h : Asn1Builder.collectChildren children dataLen moved = some (total, nodes))
    (hr : dataLen.toNat + 10240 * children.length < 2 ^ 32) :
    total.toNat ≤ dataLen.toNat + 10240 * children.length := by
  induction children generalizing dataLen moved with
  | nil =>
    cases h
    exact Nat.le_add_right _ _
  | cons child rest ih =>
    rw [length_cons, Nat.mul_succ] at hr ⊢
    cases child with
    | none =>
      cases h
      omega
    | some node =>
      rw [Asn1Builder.collectChildren] at h
      split at h
      next => cases h
      next hsh =>
        have hn : node.getEncodedLength.toNat ≤ 10240 := by
          rw [gt_iff_lt, UInt32.lt_iff_toNat_lt, Nat.not_lt] at hsh
          exact hsh
        have had : (dataLen + node.getEncodedLength).toNat
            = dataLen.toNat + node.getEncodedLength.toNat :=
          toNat_add_of_lt (by omega)
        have ht := ih h (by omega)
        omega

variable {builder : Asn1Builder} {node : Asn1Node}

theorem asn1Build_encodedLength_ne_zero (h : builder.asn1Build.1 = some node) :
    node.encodedLength ≠ 0 := by
  unfold Asn1Builder.asn1Build at h
  split at h
  next => cases h
  next hc =>
    have hc' : builder.children.length ≤ 255 := Nat.le_of_not_lt hc
    split at h
    next => cases h
    next total moved hlp =>
      cases h
      have ht := collectChildren_total_le hlp (by
        show 0 + 10240 * builder.children.length < 2 ^ 32
        omega)
      have hln := Asn1Node.encodedLength_toNat builder.tag (n := total.toNat) (by
        rw [UInt32.toNat_zero] at ht
        omega)
      rw [UInt32.ofNat_toNat, Lib.Der.header_length] at hln
      intro hz
      rw [show byteCountForUint builder.tag + calculateEncodedBytesNumForLength total + total = 0
        from hz, UInt32.toNat_zero] at hln
      have hp := Lib.Der.byteCount_pos builder.tag.toNat
      omega

theorem wholeSent_transmit_iff {f : EsimFile} {check : ResultCheck} {s s' : Session R}
    {reqInfo : ApduSimIORequestInfo} {encoding : Option StdString} (hs : s'.sent = s.sent) :
    WholeSent (some (transmit f check reqInfo s')) s encoding ↔
      Rejected f check ∨ encoding = some reqInfo.data := by
  unfold transmit Rejected
  cases hrl : f.telRilManager with
  | none =>
    refine iff_of_true ⟨false, s', rfl, .inl rfl⟩ (.inl ?_)
    intro apduResult h
    cases h
  | some apduResult =>
    constructor
    · rintro ⟨_, t, hrn, hok | ⟨sent, hs', he⟩⟩
      · refine .inl ?_
        rintro r ⟨⟩
        cases hrn
        exact hok
      · cases hrn
        simp only [simTransmitApduLogicalChannel, hs, append_cancel_left_eq] at hs'
        subst hs'
        rw [he]
        exact .inr (by simp [payloads])
    · intro h
      refine ⟨_, _, rfl, ?_⟩
      rcases h with h | h
      · exact .inl (h apduResult rfl)
      · refine .inr ⟨[reqInfo], by simp [simTransmitApduLogicalChannel, hs], ?_⟩
        rw [h]
        simp [payloads]

theorem asn1BuilderToHexStr_of_some (h : builder.asn1Build.1 = some node) :
    (asn1BuilderToHexStr builder).2 = bytesToHexStr node.asn1Write := by
  unfold asn1BuilderToHexStr
  rw [h]
  show bytesToHexStr (if node.encodedLength = 0 then [] else node.asn1Write) = _
  rw [if_neg (asn1Build_encodedLength_ne_zero h)]

theorem bytesToHexStr_length_le (bytes : List UInt8) : (bytesToHexStr bytes).length ≤ 491520 := by
  by_cases h : bytes.length ≤ MAX_BPP_LENGTH
  · rw [bytesToHexStr_length h]
    have : MAX_BPP_LENGTH = 245760 := rfl
    omega
  · rw [bytesToHexStr, if_pos (Nat.lt_of_not_le h)]
    simp

/-- The text of a command is short or empty, so `BuildStoreData` returns. -/
theorem buildStoreDataChecked_returns (codec : RequestApduBuild) (bytes : List UInt8) :
    ∃ codec', codec.buildStoreDataChecked (bytesToHexStr bytes) = some codec' := by
  have hle := bytesToHexStr_length_le bytes
  have hc := (subCmds_le (bytesToHexStr bytes)).1
  rw [← isSome_iff_exists, buildStoreDataChecked_isSome_iff]
  exact Nat.le_trans hc (Nat.le_trans hle (by decide))

theorem commBuildOneApduReqInfo_spec (f : EsimFile) (s : Session R) (builder : Asn1Builder) :
    ∃ reqInfo s', commBuildOneApduReqInfo f s builder = some (reqInfo, s') ∧ s'.sent = s.sent ∧
      (commandHex builder = some reqInfo.data ↔
        ∃ node, builder.asn1Build.1 = some node ∧ node.asn1Write.length ≤ 255) := by
  unfold commBuildOneApduReqInfo commandHex
  cases hbd : builder.asn1Build.1 with
  | none =>
    have hhe : asn1BuilderToHexStr builder = (0, []) := by
      unfold asn1BuilderToHexStr
      rw [hbd]
    rw [hhe]
    exact ⟨{}, s, rfl, rfl, iff_of_false (by simp) (by simp)⟩
  | some node =>
    have hhe := asn1BuilderToHexStr_of_some hbd
    have hhx : (asn1BuilderToHexStr builder).1
        = .ofNat (bytesToHexStr node.asn1Write).length := by
      rw [← hhe]
      unfold asn1BuilderToHexStr
      rw [hbd]
    have hle := bytesToHexStr_length_le node.asn1Write
    simp only [hhe, hhx, map_some, some.injEq, exists_eq_left']
    by_cases he : bytesToHexStr node.asn1Write = []
    · -- nothing is written: the request keeps its empty payload
      rw [he]
      refine ⟨{}, s, rfl, rfl, ?_, ?_⟩
      · intro h
        have hlen := congrArg List.length h
        rw [upperHex_length, length_nil] at hlen
        omega
      · intro h
        rw [← bytesToHexStr_eq (Nat.le_trans h (by decide)), he]
    · have hp : 0 < (bytesToHexStr node.asn1Write).length := length_pos_iff.2 he
      have hbs : node.asn1Write.length ≤ MAX_BPP_LENGTH := by
        by_contra hln
        exact he (if_pos (Nat.lt_of_not_le hln))
      have hne : UInt32.ofNat (bytesToHexStr node.asn1Write).length ≠ 0 := by
        intro h
        have hm := congrArg UInt32.toNat h
        rw [UInt32.toNat_ofNat', UInt32.toNat_zero, Nat.mod_eq_of_lt (by omega)] at hm
        omega
      obtain ⟨_, hcd⟩ := buildStoreDataChecked_returns
        { channelId := f.currentChannelId } node.asn1Write
      obtain ⟨cmd, _, hcm, hcmd⟩ := buildStoreDataChecked_first hcd
      refine ⟨(copyApdCmdToReqInfo s cmd).1, (copyApdCmdToReqInfo s cmd).2, ?_, rfl, ?_⟩
      · rw [if_neg hne, hcd]
        simp only [bind_eq_bind, bind_some, hcm]
        rfl
      · show upperHex node.asn1Write = cmd.data.cmdHex ↔ _
        rw [hcmd, ← bytesToHexStr_eq hbs, eq_comm, first_eq_iff,
          subCmds_le_one_iff (by omega), bytesToHexStr_length hbs]
        omega

theorem wholeSent_sendCommand_iff (f : EsimFile) (s : Session R) (check : ResultCheck)
    (command : Option Asn1Builder) :
    WholeSent (sendCommand f s check command) s (command.bind commandHex) ↔
      f.isLogicChannelOpen = false ∨ command = none ∨ Rejected f check ∨
        ∃ builder node, command = some builder ∧ builder.asn1Build.1 = some node ∧
          node.asn1Write.length ≤ 255 := by
  unfold sendCommand
  cases ho : f.isLogicChannelOpen with
  | false => exact iff_of_true ⟨false, s, rfl, .inl rfl⟩ (.inl rfl)
  | true =>
    cases command with
    | none => exact iff_of_true ⟨false, s, rfl, .inl rfl⟩ (.inr (.inl rfl))
    | some builder =>
      obtain ⟨reqInfo, s', hr, hs, hwh⟩ := commBuildOneApduReqInfo_spec f s builder
      simp only [if_true, hr, bind_eq_bind, bind_some]
      rw [show (pure (transmit f check reqInfo s') : Option _) = some (transmit f check reqInfo s')
        from rfl, wholeSent_transmit_iff hs, hwh]
      simp

theorem withOwnHead_data (apduData : EsimApduData) (reqInfo : ApduSimIORequestInfo) :
    (EsimFile.withOwnHead apduData reqInfo).data = reqInfo.data := by
  unfold EsimFile.withOwnHead
  split <;> rfl

theorem wholeSent_sendApduData_iff (f : EsimFile) (s : Session R) :
    WholeSent (f.processSendApduData s) s (some f.apduHex) ↔
      f.isLogicChannelOpen = false ∨ RequestApduBuild.subCmds f.apduHex ≤ 1 ∨
        (510 * (RequestApduBuild.subCmds f.apduHex - 1) ≤ 2 ^ 31 - 1 ∧ Rejected f .isFail) := by
  unfold EsimFile.processSendApduData
  cases hop : f.isLogicChannelOpen with
  | false => exact iff_of_true ⟨false, s, rfl, .inl rfl⟩ (.inl rfl)
  | true =>
    have hrt := buildStoreDataChecked_isSome_iff
      { channelId := f.currentChannelId } f.apduHex
    cases hcd : ({ channelId := f.currentChannelId } : RequestApduBuild).buildStoreDataChecked
        f.apduHex with
    | none =>
      -- the cursor overflows: there is no result, and more than one command
      rw [hcd] at hrt
      have hl : ¬ 510 * (subCmds f.apduHex - 1) ≤ 2 ^ 31 - 1 := fun h => absurd (hrt.2 h) (by simp)
      refine iff_of_false ?_ ?_
      · rintro ⟨_, _, hrn, -⟩
        cases hrn
      · rintro (h | h | ⟨h, -⟩)
        · cases h
        · omega
        · exact hl h
    | some codec =>
      rw [hcd] at hrt
      have hf : 510 * (subCmds f.apduHex - 1) ≤ 2 ^ 31 - 1 := hrt.1 rfl
      obtain ⟨cmd, _, hcm, hcmd⟩ := buildStoreDataChecked_first hcd
      have hs : (copyApdCmdToReqInfo s cmd).2.sent = s.sent := rfl
      simp only [if_true, bind_eq_bind, bind_some, hcm]
      rw [show ∀ r, (pure r : Option _) = some r from fun _ => rfl,
        wholeSent_transmit_iff hs, withOwnHead_data, some.injEq,
        show (copyApdCmdToReqInfo s cmd).1.data = cmd.data.cmdHex from rfl, hcmd, eq_comm,
        first_eq_iff]
      constructor
      · rintro (hrj | hon)
        · exact .inr (.inr ⟨hf, hrj⟩)
        · exact .inr (.inl hon)
      · rintro (h | hon | ⟨-, hrj⟩)
        · cases h
        · exact .inr hon
        · exact .inl hrj

/-- **The whole command is sent, or failure is reported**, exactly when: for an ASN.1 command, the
channel is closed, the command is given up or fits 255 bytes, or the transmission is rejected; for
the text of `ProcessSendApduData`, the channel is closed, the code counts one command, or the
transmission is rejected. -/
theorem whole_command_sent_iff (f : EsimFile) (s : Session R) :
    (∀ op : OneCommand, WholeSent (op.run f s) s ((op.command f).bind commandHex) ↔
      f.isLogicChannelOpen = false ∨ op.command f = none ∨ Rejected f op.check ∨
        ∃ builder node, op.command f = some builder ∧ builder.asn1Build.1 = some node ∧
          node.asn1Write.length ≤ 255) ∧
    (WholeSent (f.processSendApduData s) s (some f.apduHex) ↔
      f.isLogicChannelOpen = false ∨ RequestApduBuild.subCmds f.apduHex ≤ 1 ∨
        (510 * (RequestApduBuild.subCmds f.apduHex - 1) ≤ 2 ^ 31 - 1 ∧ Rejected f .isFail)) := by
  refine ⟨?_, wholeSent_sendApduData_iff f s⟩
  intro op
  rw [op.run_eq_sendCommand]
  exact wholeSent_sendCommand_iff f s op.check (op.command f)

def sampleFile (apduData : EsimApduData) : EsimFile where
  text := plainText
  str16ToStr8 := plainText.toUtf8
  currentChannelId := 1
  telRilManager := some .TELEPHONY_ERR_SUCCESS
  esimProfile := { apduData := apduData }

/-- Of 256 bytes the first 255 are sent, and the operation returns true. -/
theorem last_byte_not_sent :
    ¬ WholeSent ((sampleFile { data := List.replicate 512 0x30 }).processSendApduData
        { result := () }) { result := () }
      (some (sampleFile { data := List.replicate 512 0x30 }).apduHex) := by
  have hh : (sampleFile { data := .replicate 512 0x30 }).apduHex
      = .replicate 512 0x30 := map_replicate
  rw [wholeSent_sendApduData_iff, hh, subCmds_le_one_iff (by rw [length_replicate]; decide)]
  rintro (h | h | ⟨-, h⟩)
  · cases h
  · rw [length_replicate] at h
    omega
  · cases h .TELEPHONY_ERR_SUCCESS rfl

end TelephonyCore.Esim
