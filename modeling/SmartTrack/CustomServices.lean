-- The custom GATT service (`vision_custom_services.c`): the characteristic
-- callbacks, the command handler with its reply, the connection callbacks and
-- the timers.
import SmartTrack.Tag

open bytes smart_track.zephyr smart_track.production smart_track.storage smart_track.vision_advt
  smart_track.time_manager smart_track.tag

namespace smart_track.custom_services

/-! ## The commands -/

def FAIL : UInt8 := 0
def SUCCESS : UInt8 := 1

def INVALID_PASSWD : UInt8 := 1
def AUTHORIZATION_FAIL : UInt8 := 3
def INVALID_SUB_COMMAND : UInt8 := 7
def INVALID_VALUE : UInt8 := 8
def INVALID_RTC : UInt8 := 10

def HARDWARE_MAJOR : UInt8 := 1
def HARDWARE_MINOR : UInt8 := 0
def AUTHO_TOUT_TIME_SEC : Nat := 20
def DISCC_TIME_SEC : Nat := 60
def GLOBAL_ENERGY_SAVE_CONFIG1 : UInt8 := 1

def PROVIDE_PASSWORD : UInt8 := 138

/-- The commands that the authorised branch knows. The two of the motion sensor are not
compiled in. -/
inductive Command
  | SET_REAL_TIME_CLOCK
  | READ_CURRENT_TIME
  | READ_ASSOCIATION_PARA
  | SET_ADV_PERIOD
  | SET_ENERGY_SAVE_TIME
  | READ_ENERGY_SAVING_PARA
  | RESTART_DEVICE
  | PUT_DEVICE_IN_OTA_DFU_MODE
  | READ_BLE_MAC_ADDR
  | READ_FIRMWARE_DETAIL
  | READ_DIAGNOSTIC_DATA
  deriving DecidableEq

def Command.ofByte (b : UInt8) : Option Command :=
  if b = 3 then some .SET_REAL_TIME_CLOCK
  else if b = 130 then some .READ_CURRENT_TIME
  else if b = 169 then some .READ_ASSOCIATION_PARA
  else if b = 8 then some .SET_ADV_PERIOD
  else if b = 29 then some .SET_ENERGY_SAVE_TIME
  else if b = 161 then some .READ_ENERGY_SAVING_PARA
  else if b = 131 then some .RESTART_DEVICE
  else if b = 142 then some .PUT_DEVICE_IN_OTA_DFU_MODE
  else if b = 172 then some .READ_BLE_MAC_ADDR
  else if b = 129 then some .READ_FIRMWARE_DETAIL
  else if b = 160 then some .READ_DIAGNOSTIC_DATA
  else none

/-- What a command answers: the first `response_len` bytes of the reply buffer, and whether
the link is dropped and the tag restarted after it. -/
structure Reply where
  local_reply_buf : List UInt8
  bool_disconnect : Bool := false
  bool_restart : Bool := false
  deriving DecidableEq

/-- A frame in the handler's own buffer, zero after its last byte. -/
abbrev Frame := Bytes CUSTOM_MAX_DATA_LEN

def invalidSubCommand : Reply :=
  { local_reply_buf := [FAIL, INVALID_SUB_COMMAND], bool_disconnect := true }

def setEnergySave (t : Tag) (start stop : UInt16) : Tag :=
  { t with
    storage :=
      { t.storage with gst_ConfigData :=
          { t.storage.gst_ConfigData with energy_save_para :=
              { t.storage.gst_ConfigData.energy_save_para with
                u16_StartMinutes := start, u16_EndMinutes := stop } } }
    svc := { t.svc with bool_ConfigDataWrite := true } }

def setAdvPeriod (t : Tag) (interval : UInt16) : Tag :=
  { t with
    storage :=
      { t.storage with gst_ConfigData :=
          { t.storage.gst_ConfigData with mu16_AdvertismentInterval := interval } }
    svc := { t.svc with bool_AdvtIntervalUpdated := true, bool_ConfigDataWrite := true } }

/-- The two assignments of a set clock command, which both channels make. -/
def setClockRecords (st : Storage) (epoch : UInt32) (zone : UInt16) : Storage :=
  { st with
    gst_DynamicData := { st.gst_DynamicData with mu32_CurrentTime := epoch }
    gst_ConfigData := { st.gst_ConfigData with s16_TimeZoneOffset := zone } }

/-- The `switch` of the authorised branch. -/
def authorisedCommand (t : Tag) (temp_buf : Frame) : Tag × Reply :=
  match Command.ofByte (temp_buf 0) with
  | some .SET_REAL_TIME_CLOCK =>
    let epoch := ofLe32 (temp_buf 1) (temp_buf 2) (temp_buf 3) (temp_buf 4)
    let zone := ofLe16 (temp_buf 5) (temp_buf 6)
    let t :=
      { t with
        storage := setClockRecords t.storage epoch zone
        svc := { t.svc with bool_ConfigDataWrite := true, bool_DynamicDataWrite := true } }
    (syncSetUtc t epoch, { local_reply_buf := [SUCCESS] })
  | some .READ_CURRENT_TIME =>
    let live_epoch := getUtcEpoch t
    if live_epoch ≠ 0 then
      (t, { local_reply_buf := SUCCESS :: le32 live_epoch })
    else
      (t, { local_reply_buf := [FAIL, INVALID_RTC] })
  | some .READ_ASSOCIATION_PARA =>
    if temp_buf 1 = 6 then
      (t, { local_reply_buf := SUCCESS :: 6 :: le16 t.storage.gst_ConfigData.s16_TimeZoneOffset })
    else
      (t, invalidSubCommand)
  | some .SET_ADV_PERIOD =>
    let lu16_temp_var := ofLe16 (temp_buf 1) (temp_buf 2)
    if 100 ≤ lu16_temp_var ∧ lu16_temp_var ≤ 5000 then
      (setAdvPeriod t lu16_temp_var, { local_reply_buf := [SUCCESS] })
    else
      (t, { local_reply_buf := [FAIL, INVALID_VALUE], bool_disconnect := true })
  | some .SET_ENERGY_SAVE_TIME =>
    if temp_buf 1 = GLOBAL_ENERGY_SAVE_CONFIG1 then
      (setEnergySave t (ofLe16 (temp_buf 2) (temp_buf 3)) (ofLe16 (temp_buf 4) (temp_buf 5)),
        { local_reply_buf := [SUCCESS] })
    else
      (t, invalidSubCommand)
  | some .READ_ENERGY_SAVING_PARA =>
    let para := t.storage.gst_ConfigData.energy_save_para
    (t, { local_reply_buf := SUCCESS :: (le16 para.u16_StartMinutes ++ le16 para.u16_EndMinutes) })
  | some .RESTART_DEVICE =>
    (t, { local_reply_buf := [SUCCESS], bool_disconnect := true, bool_restart := true })
  | some .PUT_DEVICE_IN_OTA_DFU_MODE =>
    (appDfuEnterModeCustom t, { local_reply_buf := [SUCCESS] })
  | some .READ_BLE_MAC_ADDR =>
    if temp_buf 1 = 1 then
      (t, { local_reply_buf := SUCCESS :: listOf (getFactoryMacCopy t.storage) })
    else
      (t, invalidSubCommand)
  | some .READ_FIRMWARE_DETAIL =>
    (t, { local_reply_buf := [SUCCESS, APP_VERSION_MAJOR, APP_VERSION_MINOR] })
  | some .READ_DIAGNOSTIC_DATA =>
    (t, { local_reply_buf := SUCCESS :: le16 t.storage.gst_DynamicData.mu16_ResetCnt })
  | none => (t, invalidSubCommand)

/-- The `memcmp` of a login frame with the password. -/
def passwordMatches (t : Tag) (temp_buf : Frame) : Bool :=
  decide (window temp_buf 1 MAX_PASSWORD_SIZE (by decide) =
    t.storage.gst_ProductionData.mu8ar_Password)

def grantAuthorization (t : Tag) : Tag :=
  { t with svc :=
      { t.svc with
        bool_UserAuthorization := true
        authorisation_timout_work := kWorkCancelDelayable t.svc.authorisation_timout_work
        connection_timout_work :=
          kWorkSchedule t.svc.connection_timout_work (K_SECONDS DISCC_TIME_SEC) } }

/-- The branch for a client that is not authorised. -/
def loginCommand (t : Tag) (temp_buf : Frame) : Tag × Reply :=
  if temp_buf 0 ≠ PROVIDE_PASSWORD then
    ({ t with svc :=
        { t.svc with
          authorisation_timout_work := kWorkCancelDelayable t.svc.authorisation_timout_work } },
      { local_reply_buf := [FAIL, AUTHORIZATION_FAIL], bool_disconnect := true })
  else if passwordMatches t temp_buf then
    (grantAuthorization t,
      { local_reply_buf :=
          [SUCCESS, APP_VERSION_MAJOR, APP_VERSION_MINOR, 0xFF, 0xFF, 0, 0, 0, 0, 0, 0, 0,
            HARDWARE_MAJOR, HARDWARE_MINOR] })
  else
    (t, { local_reply_buf := [FAIL, INVALID_PASSWD], bool_disconnect := true })

def command (t : Tag) (temp_buf : Frame) : Tag × Reply :=
  if t.svc.bool_UserAuthorization = false then
    loginCommand t temp_buf
  else
    authorisedCommand
      { t with svc :=
          { t.svc with
            connection_timout_work :=
              kWorkReschedule t.svc.connection_timout_work (K_SECONDS DISCC_TIME_SEC) } }
      temp_buf

/-! ## The characteristics -/

/-- The bytes that `bt_gatt_attr_read` gives to a read of the notify characteristic. -/
def readNotifyChar (t : Tag) (len offset : Nat) : List UInt8 :=
  slice t.svc.notify_buffer t.svc.notify_len offset len

def BT_ATT_ERR_INVALID_ATTRIBUTE_LEN : Int := 0x0d

def writeIncomingChar (t : Tag) (buf : List UInt8) (offset : Nat) : Tag × Int :=
  if CUSTOM_MAX_DATA_LEN < offset + buf.length then
    (t, -BT_ATT_ERR_INVALID_ATTRIBUTE_LEN)
  else
    ({ t with svc :=
        { t.svc with
          write_buffer := memcpy t.svc.write_buffer offset buf
          write_len := max t.svc.write_len (offset + buf.length)
          parse_and_reply_work := true } },
      buf.length)

def BT_GATT_CCC_NOTIFY : Nat := 1

def cccdChangedCb (t : Tag) (value : Nat) : Tag :=
  { t with svc := { t.svc with is_notifying_enabled := decide (value = BT_GATT_CCC_NOTIFY) } }

/-- Bytes that went out to a connection. -/
abbrev Delivery := Option (Conn × List UInt8)

/-- What the host answers to one notification. -/
structure NotifyIo where
  negotiated_mtu : Nat
  notifyRc : Int
  deriving DecidableEq

def bleCustomServiceSendNotification (t : Tag) (conn : Conn) (data : List UInt8)
    (io : NotifyIo) : Tag × Int × Delivery :=
  if CUSTOM_MAX_DATA_LEN < data.length then
    (t, -EINVAL, none)
  else
    let t := { t with svc :=
        { t.svc with
          notify_buffer := memcpy t.svc.notify_buffer 0 data
          notify_len := data.length } }
    if t.svc.is_notifying_enabled = false then
      (t, -EACCES, none)
    else if io.negotiated_mtu < data.length + 3 then
      (t, -EACCES, none)
    else
      (t, io.notifyRc, if io.notifyRc = 0 then some (conn, data) else none)

/-! ## The end of a session -/

/-- `app_graceful_self_restart` has dropped the link and waits for the reset. -/
def rebootSoon (t : Tag) : Tag := { t with doze := some .rebooting }

/-- `ble_custom_service_initiate_disconnect`, up to its sleep. With no connection it returns
at once, and `rest` is what its caller does then. -/
def disconnectThen (t : Tag) (after : After) (rest : Tag → Tag) : Tag :=
  match t.svc.current_conn with
  | none => rest t
  | some conn_to_disconnect =>
    { btConnRef t conn_to_disconnect with
      doze := some (.disconnecting conn_to_disconnect after) }

def appGracefulSelfRestart (t : Tag) : Tag := disconnectThen t .reboot rebootSoon

/-- The caller of `ble_custom_service_initiate_disconnect` goes on. -/
def resume : After → Tag → Tag
  | .done, t => { t with doze := none }
  | .restart, t => appGracefulSelfRestart t
  | .reboot, t => rebootSoon t

def bleCustomServiceInitiateDisconnect (t : Tag) (after : After) : Tag :=
  disconnectThen t after (resume after)

def authorisationTimoutWorkHandler (t : Tag) : Tag :=
  bleCustomServiceInitiateDisconnect
    { t with svc := { t.svc with authorisation_timout_work := none } } .done

def connectionTimoutWorkHandler (t : Tag) : Tag :=
  bleCustomServiceInitiateDisconnect
    { t with svc := { t.svc with connection_timout_work := none } } .done

/-- The handler that sleeps goes on. The disconnect that it asks of the host comes back as a
`disconnected` callback. -/
def wake (t : Tag) (io : BootIo) : Tag :=
  match t.doze with
  | none => t
  | some (.reply bool_disconnect bool_restart) =>
    if bool_disconnect then
      bleCustomServiceInitiateDisconnect t (if bool_restart then .restart else .done)
    else if bool_restart then
      appGracefulSelfRestart t
    else
      { t with doze := none }
  | some (.disconnecting c after) => resume after (btConnUnref t c)
  | some .rebooting => sysReboot t io

/-! ## The command handler -/

/-- What the host and flash answer to one run of the handler. -/
structure ParseIo where
  notify : NotifyIo
  configRc : Int
  dynamicRc : Int
  deriving DecidableEq

/-- The frame that the handler takes out of the write buffer. -/
def takenFrame (t : Tag) : Frame := fun i =>
  if i.val < t.svc.write_len then t.svc.write_buffer i else 0

/-- The handler takes the pending frame out of the write buffer. -/
def takeFrame (t : Tag) : Tag :=
  { t with svc := { t.svc with write_len := 0, parse_and_reply_work := false } }

def flushConfig (t : Tag) (rc : Int) : Tag :=
  if t.svc.bool_ConfigDataWrite then
    { t with
      svc := { t.svc with bool_ConfigDataWrite := false }
      storage := { t.storage with
        nvs := configSlot.save t.storage.nvs t.storage.gst_ConfigData rc } }
  else
    t

def flushDynamic (t : Tag) (rc : Int) : Tag :=
  if t.svc.bool_DynamicDataWrite then
    { t with
      svc := { t.svc with bool_DynamicDataWrite := false }
      storage := { t.storage with
        nvs := dynamicSlot.save t.storage.nvs t.storage.gst_DynamicData rc } }
  else
    t

/-- The end of a handler run: the handler sleeps if the link has to go. -/
def endOfRun (t : Tag) (reply : Reply) : Tag :=
  if reply.bool_disconnect || reply.bool_restart then
    { t with
      svc := { t.svc with
        connection_timout_work := kWorkCancelDelayable t.svc.connection_timout_work }
      doze := some (.reply reply.bool_disconnect reply.bool_restart) }
  else
    t

/-- What the handler does with a frame: it executes the command, sends the reply and saves
the records. -/
def handleFrame (t : Tag) (conn_to_use : Conn) (temp_buf : Frame) (io : ParseIo) :
    Tag × Delivery :=
  let (t, reply) := command t temp_buf
  let (t, _, delivery) :=
    bleCustomServiceSendNotification t conn_to_use reply.local_reply_buf io.notify
  let t := btConnUnref t conn_to_use
  (endOfRun (flushDynamic (flushConfig t io.configRc) io.dynamicRc) reply, delivery)

def bleParseAndReplyWorkHandler (t : Tag) (io : ParseIo) : Tag × Delivery :=
  let temp_buf := takenFrame t
  let current_data_len := t.svc.write_len
  let t := takeFrame t
  match t.svc.current_conn with
  | none => (t, none)
  | some conn_to_use =>
    let t := btConnRef t conn_to_use
    if current_data_len = 0 then
      (btConnUnref t conn_to_use, none)
    else
      handleFrame t conn_to_use temp_buf io

/-! ## The connection callbacks -/

/-- The callback of the service. `infoRc` is the code of `bt_conn_get_info`. -/
def connected (t : Tag) (conn : Conn) (id err : Nat) (infoRc : Int) : Tag :=
  if err ≠ 0 then
    t
  else
    let t := btConnRef { t with svc := { t.svc with current_conn := some conn } } conn
    if infoRc = 0 then
      let t := { t with svc := { t.svc with active_local_id := id } }
      if (id : Int) = getVisionId t.advt then
        { t with svc :=
            { t.svc with
              bool_UserAuthorization := false
              authorisation_timout_work := kWorkSchedule t.svc.authorisation_timout_work
                (K_SECONDS AUTHO_TOUT_TIME_SEC) } }
      else
        t
    else
      t

/-- The codes that the controller gives to the end of a session. -/
structure DisconnectIo where
  interval : IntervalIo
  startRc : Int
  deriving DecidableEq

/-- The service gives up its reference on a connection that is gone. -/
def releaseConn (t : Tag) (conn : Conn) : Tag :=
  if t.svc.current_conn = some conn then
    { btConnUnref t conn with svc := { t.svc with current_conn := none } }
  else
    t

/-- The Vision branch of `disconnected`: the end of a Vision session. -/
def visionBranch (t : Tag) (io : DisconnectIo) : Tag :=
  let need_interval_update := t.svc.bool_AdvtIntervalUpdated
  let interval := t.storage.gst_ConfigData.mu16_AdvertismentInterval.toNat
  let t := { t with svc :=
      { t.svc with
        active_local_id := 0xFF
        bool_AdvtIntervalUpdated := false
        bool_UserAuthorization := false
        authorisation_timout_work := kWorkCancelDelayable t.svc.authorisation_timout_work
        connection_timout_work := kWorkCancelDelayable t.svc.connection_timout_work } }
  let advt :=
    if need_interval_update then
      (bleAdvCustomUpdateInterval t.advt interval (interval + 10) io.interval).1
    else
      t.advt
  { t with advt := (bleAdvCustomStart advt io.startRc).1 }

/-- The Vision branch is chosen by the identity of the last connection. -/
def RunsVisionBranch (t : Tag) : Prop := (t.svc.active_local_id : Int) = getVisionId t.advt

instance (t : Tag) : Decidable (RunsVisionBranch t) := inferInstanceAs (Decidable (_ = _))

def disconnected (t : Tag) (conn : Conn) (io : DisconnectIo) : Tag :=
  if RunsVisionBranch t then
    visionBranch (releaseConn t conn) io
  else
    releaseConn t conn

end smart_track.custom_services
