-- The state of the tag that the handlers share: one record for the static
-- variables of each source file, the connections of the Bluetooth host, and how
-- far the handler that sleeps on the system work queue has come.
import SmartTrack.Storage
import SmartTrack.TimeManager

open bytes smart_track.zephyr smart_track.production smart_track.storage smart_track.vision_advt
  smart_track.time_manager

namespace smart_track.tag

abbrev CUSTOM_MAX_DATA_LEN : Nat := 240
abbrev UART_RX_BUF_SIZE : Nat := 64
abbrev UART_TX_BUF_SIZE : Nat := 32

instance : NeZero CUSTOM_MAX_DATA_LEN := ⟨by decide⟩

instance : NeZero UART_RX_BUF_SIZE := ⟨by decide⟩

/-- The static variables of `vision_custom_services.c`. -/
structure CustomServices where
  write_buffer : Bytes CUSTOM_MAX_DATA_LEN := fun _ => 0
  write_len : Nat := 0
  notify_buffer : Bytes CUSTOM_MAX_DATA_LEN := fun _ => 0
  notify_len : Nat := 0
  active_local_id : Nat := 0xFF
  is_notifying_enabled : Bool := false
  bool_UserAuthorization : Bool := false
  bool_ConfigDataWrite : Bool := false
  bool_DynamicDataWrite : Bool := false
  bool_AdvtIntervalUpdated : Bool := false
  current_conn : Option Conn := none
  parse_and_reply_work : Bool := false
  authorisation_timout_work : Delayable := none
  connection_timout_work : Delayable := none

/-- The static variables of `vision_production.c` that its command handler uses. -/
structure ProductionTool where
  tx_buf : Bytes UART_TX_BUF_SIZE := fun _ => 0
  bool_ProductionDataWrite : Bool := false
  bool_ConfigDataWrite : Bool := false
  bool_DynamicDataWrite : Bool := false
  uart_lifetime_timeout_work : Delayable := none

/-- The static variables of `dfu.c`. -/
structure Dfu where
  dfu_mode : Bool := false
  dfu_mode_timeout_work : Delayable := none

/-- The connections of the host: the identity of each live link, and how many references
the custom service module holds on each connection object. -/
structure Host where
  link : Conn → Option Nat := fun _ => none
  refs : Conn → Nat := fun _ => 0

/-- What a call of `ble_custom_service_initiate_disconnect` goes on with when it returns. -/
inductive After
  /-- The handler that called it is done. -/
  | done
  /-- The command handler goes on to `app_graceful_self_restart`. -/
  | restart
  /-- `app_graceful_self_restart` goes on to the reset. -/
  | reboot
  deriving DecidableEq

/-- A handler that sleeps on the system work queue, and lets no other handler run there. -/
inductive Doze
  /-- The command handler lets the reply clear the air. -/
  | reply (bool_disconnect bool_restart : Bool)
  /-- `ble_custom_service_initiate_disconnect` holds a reference on the connection. -/
  | disconnecting (conn_to_disconnect : Conn) (after : After)
  /-- `app_graceful_self_restart` is about to reset the chip. -/
  | rebooting
  deriving DecidableEq

/-- What the board and the chip set: the tick rate and the factory address. -/
structure Board where
  CONFIG_SYS_CLOCK_TICKS_PER_SEC : Nat
  ficr : Ficr

structure Tag where
  board : Board
  svc : CustomServices := {}
  tool : ProductionTool := {}
  storage : Storage
  time : TimeManager
  uptime : Nat
  advt : Advt := {}
  dfu : Dfu := {}
  host : Host := {}
  doze : Option Doze := none

/-! ## Connection references -/

def btConnRef (t : Tag) (c : Conn) : Tag :=
  { t with host := { t.host with refs := Function.update t.host.refs c (t.host.refs c + 1) } }

def btConnUnref (t : Tag) (c : Conn) : Tag :=
  { t with host := { t.host with refs := Function.update t.host.refs c (t.host.refs c - 1) } }

@[simp] theorem btConnUnref_btConnRef (t : Tag) (c : Conn) : btConnUnref (btConnRef t c) c = t := by
  simp [btConnUnref, btConnRef]

/-! ## The clock and the DFU mode, as the command handlers call them -/

def syncSetUtc (t : Tag) (epoch : UInt32) : Tag :=
  { t with time :=
      appTimeSyncSetUtc t.board.CONFIG_SYS_CLOCK_TICKS_PER_SEC t.time t.uptime epoch }

def getUtcEpoch (t : Tag) : UInt32 :=
  appTimeGetUtcEpoch t.board.CONFIG_SYS_CLOCK_TICKS_PER_SEC t.time t.uptime

def DFU_MODE_TIMEOUT_MIN : Nat := 2

def dfuModeChange (d : Dfu) (new_mode : Bool) : Dfu := { d with dfu_mode := new_mode }

def dfuModeActionHandle (d : Dfu) : Dfu :=
  dfuModeChange
    { d with dfu_mode_timeout_work :=
        kWorkReschedule d.dfu_mode_timeout_work (K_MINUTES DFU_MODE_TIMEOUT_MIN) } true

def appDfuEnterModeCustom (t : Tag) : Tag := { t with dfu := dfuModeActionHandle t.dfu }

/-! ## Boot -/

/-- What a boot meets: the codes of its calls, and the uptime when it comes to the clock. -/
structure BootIo where
  load : LoadIo
  adv : InitIo
  ticks : Nat

/-- The part of `init_work_handle` that brings up the Vision side, after a reset that keeps
flash and the retained block. A step that fails ends it, as it does there. -/
def boot (board : Board) (nvs : Nvs) (retained : RetainedTimeBlock) (io : BootIo) : Tag :=
  let (storage, loadRc) := appStorageVerifyAndLoad (atReset nvs) board.ficr io.load
  let t : Tag :=
    { board := board, storage := storage, time := { static_retained_time := retained },
      uptime := io.ticks }
  if loadRc ≠ 0 then
    t
  else
    let (advt, advRc) := bleAdvCustomInit t.advt storage.gst_ProductionData io.adv
    if advRc ≠ 0 then
      { t with advt := advt }
    else
      { t with advt := advt, time := appTimeActivitiesInit t.time t.uptime }

/-- `sys_reboot`. -/
def sysReboot (t : Tag) (io : BootIo) : Tag :=
  boot t.board t.storage.nvs t.time.static_retained_time io

end smart_track.tag
