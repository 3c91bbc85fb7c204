import TelephonyCore.EventQueue.Punctual
import TelephonyCore.EventQueue.WakeUp
import TelephonyCore.Radio.Isolation
import TelephonyCore.Radio.Abort
import TelephonyCore.Radio.Atomic
import TelephonyCore.Radio.Success
import TelephonyCore.Esim.Channel
import TelephonyCore.Esim.Ready
import TelephonyCore.Privilege.Loads
import TelephonyCore.Phonebook.Additions
import TelephonyCore.Network.Registration
import TelephonyCore.Network.StateChange
import TelephonyCore.Sim.FileController
import TelephonyCore.Sim.OwnAnswers
import TelephonyCore.Phonebook.UsimCache
import TelephonyCore.Phonebook.UsimCallers
import TelephonyCore.Phonebook.Queries
import TelephonyCore.Sim.SmsController
import TelephonyCore.Sim.StkCommands
import TelephonyCore.Sim.StkRequests
import TelephonyCore.Ril.RunningLock
import TelephonyCore.Sim.PrimarySlot
import TelephonyCore.Vcard.Photo
import TelephonyCore.Vcard.Text
import TelephonyCore.Codec.DecoderCursor
import TelephonyCore.Codec.ResetResponse
import TelephonyCore.Esim.Reassembly
import TelephonyCore.Esim.RulesAuthTable
import TelephonyCore.Phonebook.NumberFields
import TelephonyCore.Phonebook.NumberReads
import TelephonyCore.Phonebook.RecordLayout
import TelephonyCore.Phonebook.UcsNames
import TelephonyCore.Sim.NetworkNames
import TelephonyCore.Privilege.RuleExtents
import TelephonyCore.Phonebook.TargetRecord
import TelephonyCore.Sim.DisplayPlmns
import TelephonyCore.Ril.Leaks
import TelephonyCore.Sim.Accounts
import TelephonyCore.Sim.SlotSwitch
import TelephonyCore.Sim.ProviderName
import TelephonyCore.Phonebook.Assembly
import TelephonyCore.Sim.CacheSync
import TelephonyCore.Network.NitzUpdate
import TelephonyCore.Sim.CarrierRules
import TelephonyCore.Sim.VoiceMailNumber
import TelephonyCore.Network.CustomNames
import TelephonyCore.Vcard.PlainValues
import TelephonyCore.Vcard.Parameters
import TelephonyCore.Sim.HexCodecs
import TelephonyCore.Sim.OperatorConfigCache
