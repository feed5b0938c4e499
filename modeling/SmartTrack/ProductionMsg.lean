-- The UART production commands (`vision_production.c`): the checksum, the frame
-- that the reply is built in, and the command handler.
import SmartTrack.CustomServices

open bytes smart_track.zephyr smart_track.storage smart_track.vision_advt smart_track.tag
  smart_track.custom_services

namespace smart_track.production

/-! ## Frames -/

/-- The buffer of a received frame. What stands after its last byte is left over. -/
abbrev UartBuf := Bytes UART_RX_BUF_SIZE

def FindChecksum (msg : List UInt8) : UInt8 :=
  let lu32_Total := (msg.map UInt8.toNat).sum % 256
  UInt8.ofNat ((255 - lu32_Total + 1) % 256)

/-- The last byte of a frame is the checksum of the others. -/
def checksumValid (data : UartBuf) (len : Nat) : Bool :=
  decide (FindChecksum ((listOf data).take (len - 1)) = (listOf data).getD (len - 1) 0)

def INVALID_PROD_COMMAND : UInt8 := 2
def UART_DISABLE_TIMEOUT_MIN : Nat := 2

inductive ToolCommand
  | TOOL_RESET_CMD
  | TOOL_SET_DEFULT_PASSW
  | TOOL_SET_SERIAL_OF_DUT_CMD
  | TOOL_SET_MAC_OF_DUT_CMD
  | TOOL_SET_CLOCK_CMD
  | TOOL_SET_DEVICE_CONFIG
  | TOOL_READ_SERIAL_OF_DUT_CMD
  | TOOL_READ_MAC_OF_DUT_CMD
  | TOOL_READ_BLE_MAC_OF_DUT_CMD
  | TOOL_READ_FW_VER_CMD
  | TOOL_READ_DEVICE_CONFIG
  deriving DecidableEq

def ToolCommand.ofByte (b : UInt8) : Option ToolCommand :=
  if b = 0x01 then some .TOOL_RESET_CMD
  else if b = 0x3A then some .TOOL_SET_DEFULT_PASSW
  else if b = 0x0A then some .TOOL_SET_SERIAL_OF_DUT_CMD
  else if b = 0x0C then some .TOOL_SET_MAC_OF_DUT_CMD
  else if b = 0x21 then some .TOOL_SET_CLOCK_CMD
  else if b = 0x3C then some .TOOL_SET_DEVICE_CONFIG
  else if b = 0x0B then some .TOOL_READ_SERIAL_OF_DUT_CMD
  else if b = 0x0D then some .TOOL_READ_MAC_OF_DUT_CMD
  else if b = 0x0E then some .TOOL_READ_BLE_MAC_OF_DUT_CMD
  else if b = 0x16 then some .TOOL_READ_FW_VER_CMD
  else if b = 0x3D then some .TOOL_READ_DEVICE_CONFIG
  else none

/-! ## The command handler -/

/-- A reply in `tx_buf`: its length, the command with bit 7 set, the payload and the
checksum. -/
def replyFrame (command : UInt8) (payload : List UInt8) : List UInt8 :=
  let body := UInt8.ofNat (payload.length + 2) :: (command ||| 0x80) :: payload
  body ++ [FindChecksum body]

/-- The reply is built in `tx_buf` and goes to `app_uart_transmit`. -/
def reply (t : Tag) (command : UInt8) (payload : List UInt8) : Tag × Option (List UInt8) :=
  let frame := replyFrame command payload
  ({ t with tool := { t.tool with tx_buf := memcpy t.tool.tx_buf 0 frame } }, some frame)

/-- The production record changes, and waits to be saved. -/
def setProduction (t : Tag) (prod : ProductionData) : Tag :=
  { t with
    storage := { t.storage with gst_ProductionData := prod }
    tool := { t.tool with bool_ProductionDataWrite := true } }

/-- `TOOL_SET_CLOCK_CMD`. -/
def setClock (t : Tag) (epoch : UInt32) (zone : UInt16) : Tag :=
  syncSetUtc
    { t with
      storage := setClockRecords t.storage epoch zone
      tool := { t.tool with bool_ConfigDataWrite := true, bool_DynamicDataWrite := true } }
    epoch

/-- The `switch` of the handler. The third component says that `app_self_restart` was called,
from which the handler does not come back. -/
def toolCommand (t : Tag) (data : UartBuf) : Tag × Option (List UInt8) × Bool :=
  let prod := t.storage.gst_ProductionData
  let answer (t : Tag) (payload : List UInt8) : Tag × Option (List UInt8) × Bool :=
    let (t, sent) := reply t (data 1) payload
    (t, sent, false)
  match ToolCommand.ofByte (data 1) with
  | some .TOOL_RESET_CMD =>
    let (t, sent) := reply t (data 1) [SUCCESS]
    (t, sent, true)
  | some .TOOL_SET_DEFULT_PASSW =>
    answer (setProduction t { prod with
      mu8ar_Password := window data 2 MAX_PASSWORD_SIZE (by decide) }) [SUCCESS]
  | some .TOOL_SET_SERIAL_OF_DUT_CMD =>
    answer (setProduction t { prod with
      mu8_SerialNumber := window data 2 SR_NUM_SIZE (by decide) }) [SUCCESS]
  | some .TOOL_SET_MAC_OF_DUT_CMD =>
    answer (setProduction t { prod with
      mu8ar_MACAddr := reversed (window data 2 BLE_GAP_ADDR_LEN (by decide)) }) [SUCCESS]
  | some .TOOL_SET_CLOCK_CMD =>
    answer (setClock t (ofLe32 (data 2) (data 3) (data 4) (data 5)) (ofLe16 (data 6) (data 7)))
      [SUCCESS]
  | some .TOOL_SET_DEVICE_CONFIG =>
    if data 2 = 0 then
      answer (setProduction t { prod with
        mu8ar_ModelNumber := window data 3 MODEL_NUMBER_LEN (by decide) }) [data 2, SUCCESS]
    else
      answer t [data 2, INVALID_PROD_COMMAND]
  | some .TOOL_READ_SERIAL_OF_DUT_CMD => answer t (listOf prod.mu8_SerialNumber)
  | some .TOOL_READ_MAC_OF_DUT_CMD => answer t (listOf (reversed prod.mu8ar_MACAddr))
  | some .TOOL_READ_BLE_MAC_OF_DUT_CMD => answer t (listOf (getFactoryMacCopy t.storage))
  | some .TOOL_READ_FW_VER_CMD =>
    answer t [APP_VERSION_MAJOR, APP_VERSION_MINOR, HARDWARE_MAJOR, HARDWARE_MINOR]
  | some .TOOL_READ_DEVICE_CONFIG =>
    if data 2 = 0 then
      answer t (data 2 :: SUCCESS :: listOf prod.mu8ar_ModelNumber)
    else
      answer t [data 2, INVALID_PROD_COMMAND]
  | none => (t, none, false)

/-- The codes of the writes that the handler can come to. -/
abbrev ToolIo := LoadIo

def flushTool (t : Tag) (io : ToolIo) : Tag :=
  let t :=
    if t.tool.bool_ProductionDataWrite then
      { t with
        tool := { t.tool with bool_ProductionDataWrite := false }
        storage := { t.storage with
          nvs := productionSlot.save t.storage.nvs t.storage.gst_ProductionData io.productionRc } }
    else t
  let t :=
    if t.tool.bool_ConfigDataWrite then
      { t with
        tool := { t.tool with bool_ConfigDataWrite := false }
        storage := { t.storage with
          nvs := configSlot.save t.storage.nvs t.storage.gst_ConfigData io.configRc } }
    else t
  if t.tool.bool_DynamicDataWrite then
    { t with
      tool := { t.tool with bool_DynamicDataWrite := false }
      storage := { t.storage with
        nvs := dynamicSlot.save t.storage.nvs t.storage.gst_DynamicData io.dynamicRc } }
  else t

/-- The handler, and what it gives to `app_uart_transmit`. `bootIo` is what the boot meets
that follows a `TOOL_RESET_CMD`. -/
def processProductionMsg (t : Tag) (data : UartBuf) (len : Nat) (io : ToolIo) (bootIo : BootIo) :
    Tag × Option (List UInt8) :=
  if len < 2 then
    (t, none)
  else if checksumValid data len then
    let t := { t with tool :=
        { t.tool with
          uart_lifetime_timeout_work := kWorkReschedule t.tool.uart_lifetime_timeout_work
            (K_MINUTES UART_DISABLE_TIMEOUT_MIN) } }
    let (t, sent, restarts) := toolCommand t data
    if restarts then
      (sysReboot t bootIo, sent)
    else
      (flushTool t io, sent)
  else
    (flushTool t io, none)

/-! ## What a message touches -/

/-- The tag as a valid message finds it: the UART stays on for longer. -/
def keptAwake (t : Tag) : Tag :=
  { t with tool :=
      { t.tool with
        uart_lifetime_timeout_work := kWorkReschedule t.tool.uart_lifetime_timeout_work
          (K_MINUTES UART_DISABLE_TIMEOUT_MIN) } }

theorem toolMsg_ignored (t : Tag) (data : UartBuf) (len : Nat) (io : ToolIo) (bootIo : BootIo)
    (h : ¬ (2 ≤ len ∧ checksumValid data len = true)) :
    (processProductionMsg t data len io bootIo).1 = t ∨
      (processProductionMsg t data len io bootIo).1 = flushTool t io := by
  unfold processProductionMsg
  split
  · exact Or.inl rfl
  · rename_i hlen
    rw [if_neg]
    · exact Or.inr rfl
    · intro hsum
      exact h ⟨Nat.not_lt.mp hlen, hsum⟩

theorem toolMsg_valid (t : Tag) (data : UartBuf) (len : Nat) (io : ToolIo) (bootIo : BootIo)
    (hlen : 2 ≤ len) (hsum : checksumValid data len = true) :
    processProductionMsg t data len io bootIo =
      (if (toolCommand (keptAwake t) data).2.2 = true then
          sysReboot (toolCommand (keptAwake t) data).1 bootIo
        else flushTool (toolCommand (keptAwake t) data).1 io,
        (toolCommand (keptAwake t) data).2.1) := by
  unfold processProductionMsg
  rw [if_neg (by omega), if_pos hsum]
  simp only
  split
  · rename_i hr
    change (toolCommand (keptAwake t) data).2.2 = true at hr
    rw [if_pos hr]
    rfl
  · rename_i hr
    change ¬ (toolCommand (keptAwake t) data).2.2 = true at hr
    rw [if_neg hr]
    rfl

/-- The message resets the tag. -/
def ResetsTag (data : UartBuf) (len : Nat) : Prop :=
  2 ≤ len ∧ checksumValid data len = true ∧
    ToolCommand.ofByte (data 1) = some .TOOL_RESET_CMD

instance (data : UartBuf) (len : Nat) : Decidable (ResetsTag data len) :=
  inferInstanceAs (Decidable (_ ∧ _ ∧ _))

/-- A command writes the records, the clock and the variables of its own file only, and just
the reset command restarts the tag. -/
theorem toolCommand_frame (t : Tag) (data : UartBuf) :
    (∃ tool storage time,
        (toolCommand t data).1 = { t with tool := tool, storage := storage, time := time }) ∧
      ((toolCommand t data).2.2 = true ↔
        ToolCommand.ofByte (data 1) = some .TOOL_RESET_CMD) := by
  unfold toolCommand
  simp only
  split
  all_goals try split
  all_goals
    rename_i hcmd
    refine ⟨⟨_, _, _, rfl⟩, ?_⟩
    simp_all

theorem flushTool_frame (t : Tag) (io : ToolIo) :
    ∃ tool storage, flushTool t io = { t with tool := tool, storage := storage } := by
  unfold flushTool
  simp only
  split_ifs <;> exact ⟨_, _, rfl⟩

/-- A message that does not reset the tag leaves the rest of it alone. -/
theorem toolMsg_frame (t : Tag) {data : UartBuf} {len : Nat} (io : ToolIo) (bootIo : BootIo)
    (h : ¬ ResetsTag data len) :
    ∃ tool storage time, (processProductionMsg t data len io bootIo).1 =
      { t with tool := tool, storage := storage, time := time } := by
  by_cases hvalid : 2 ≤ len ∧ checksumValid data len = true
  · obtain ⟨⟨tool, storage, time, hcmd⟩, hreset⟩ := toolCommand_frame (keptAwake t) data
    have hstays : ¬ (toolCommand (keptAwake t) data).2.2 = true :=
      fun hr => h ⟨hvalid.1, hvalid.2, hreset.mp hr⟩
    obtain ⟨tool', storage', hflush⟩ := flushTool_frame
      { keptAwake t with tool := tool, storage := storage, time := time } io
    rw [toolMsg_valid t data len io bootIo hvalid.1 hvalid.2, if_neg hstays, hcmd]
    exact ⟨tool', storage', time, hflush⟩
  · rcases toolMsg_ignored t data len io bootIo hvalid with heq | heq
    · exact ⟨t.tool, t.storage, t.time, heq⟩
    · obtain ⟨tool, storage, hflush⟩ := flushTool_frame t io
      exact ⟨tool, storage, t.time, heq.trans hflush⟩

theorem toolMsg_reset (t : Tag) {data : UartBuf} {len : Nat} (io : ToolIo) (bootIo : BootIo)
    (h : ResetsTag data len) :
    (processProductionMsg t data len io bootIo).1 = sysReboot t bootIo := by
  obtain ⟨hlen, hsum, hcmd⟩ := h
  obtain ⟨⟨tool, storage, time, _⟩, hreset⟩ := toolCommand_frame (keptAwake t) data
  rw [toolMsg_valid t data len io bootIo hlen hsum, if_pos (hreset.mpr hcmd)]
  unfold toolCommand
  simp only [keptAwake, hcmd]
  rfl

end smart_track.production
