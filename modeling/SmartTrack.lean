import SmartTrack.Runs
import SmartTrack.Bytes
import SmartTrack.Records
import SmartTrack.Zephyr
import SmartTrack.VisionAdvt
import SmartTrack.Storage
import SmartTrack.Tag
import SmartTrack.CustomServices
import SmartTrack.ProductionMsg
import SmartTrack.TagSystem
import SmartTrack.Sessions
import SmartTrack.Provenance
import SmartTrack.Registers
import SmartTrack.Settings
import SmartTrack.FpAdv
import SmartTrack.Locator
import SmartTrack.FpLink
import SmartTrack.FpPolicy
import SmartTrack.FactoryReset
import SmartTrack.Loading
import SmartTrack.SavedSettings
import SmartTrack.Mailbox
import SmartTrack.CommandFrames
import SmartTrack.Uart
import SmartTrack.OwnBytes
import SmartTrack.Gate
import SmartTrack.AirTime
import SmartTrack.EnergySaving
import SmartTrack.AdvtInterval
import SmartTrack.Device
import SmartTrack.Broadcast
import SmartTrack.LocalTime
import SmartTrack.Battery
import SmartTrack.LockOut
import SmartTrack.FpReady
import SmartTrack.OneSession
import SmartTrack.SessionTimers
import SmartTrack.DayWindow
import SmartTrack.ButtonRequests
import SmartTrack.FpSession
import SmartTrack.Ringing
import SmartTrack.UartPower
import SmartTrack.Checksum
import SmartTrack.Framing
import SmartTrack.Panel
import SmartTrack.BatteryLevel
import SmartTrack.Holds
import SmartTrack.FpPayload
import SmartTrack.LongWrites
import SmartTrack.RxBuffers
import SmartTrack.Identities
import SmartTrack.PairedTag
import SmartTrack.Prefixed
import SmartTrack.ReplyLine
import SmartTrack.Dialogue
