-- The frames of the production commands, in both directions. A frame is taken if its
-- bytes sum up to zero, and dropped without a trace if not; every reply is built in
-- `tx_buf` with lengths and positions that agree, and would be taken itself.
import Mathlib.Data.ZMod.Basic
import SmartTrack.Checksum
import SmartTrack.OwnBytes
import SmartTrack.SavedSettings

open bytes smart_track.zephyr smart_track.production smart_track.storage smart_track.tag
  smart_track.custom_services smart_track.own_bytes smart_track.saved_settings
open smart_track.time_manager (RetainedTimeBlock)
open smart_track.vision_advt (APP_VERSION_MAJOR APP_VERSION_MINOR)

namespace smart_track.framing

/-! ## The replies as the handler builds them -/

/-- The byte that the source has for a command. -/
def commandByte : ToolCommand → UInt8
  | .TOOL_RESET_CMD => 0x01
  | .TOOL_SET_DEFULT_PASSW => 0x3A
  | .TOOL_SET_SERIAL_OF_DUT_CMD => 0x0A
  | .TOOL_SET_MAC_OF_DUT_CMD => 0x0C
  | .TOOL_SET_CLOCK_CMD => 0x21
  | .TOOL_SET_DEVICE_CONFIG => 0x3C
  | .TOOL_READ_SERIAL_OF_DUT_CMD => 0x0B
  | .TOOL_READ_MAC_OF_DUT_CMD => 0x0D
  | .TOOL_READ_BLE_MAC_OF_DUT_CMD => 0x0E
  | .TOOL_READ_FW_VER_CMD => 0x16
  | .TOOL_READ_DEVICE_CONFIG => 0x3D

/-- One case of the handler, by its own numbers: what it stores in `tx_buf`, then
`tx_buf[sumAt] = FindChecksum(tx_buf, sumCount)` and `app_uart_transmit(tx_buf, sentCount)`. -/
structure ReplyCase where
  stores : List (Nat × List UInt8)
  sumAt : Nat
  sumCount : Nat
  sentCount : Nat

/-- What is in `tx_buf` when the case has built its reply. -/
def ReplyCase.build (r : ReplyCase) (tx_buf : Bytes UART_TX_BUF_SIZE) : Bytes UART_TX_BUF_SIZE :=
  memcpy (storeAll tx_buf r.stores) r.sumAt
    [FindChecksum ((listOf (storeAll tx_buf r.stores)).take r.sumCount)]

/-- What `app_uart_transmit` reads. -/
def ReplyCase.transmitted (r : ReplyCase) (tx_buf : Bytes UART_TX_BUF_SIZE) : List UInt8 :=
  (listOf (r.build tx_buf)).take r.sentCount

/-- Nothing that the case reads or stores is outside `tx_buf`. -/
structure ReplyCase.Fits (r : ReplyCase) : Prop where
  stores : ∀ p ∈ r.stores, p.1 + p.2.length ≤ UART_TX_BUF_SIZE
  checksum : r.sumAt < UART_TX_BUF_SIZE
  summed : r.sumCount ≤ UART_TX_BUF_SIZE
  sent : r.sentCount ≤ UART_TX_BUF_SIZE

/-- The cases that only say SUCCESS. -/
def successCase (command : UInt8) : ReplyCase :=
  { stores := [(0, [3]), (1, [command ||| 0x80]), (2, [SUCCESS])]
    sumAt := 3
    sumCount := 3
    sentCount := 4 }

/-- The cases that give back the subcommand with a status. -/
def statusCase (command sub status : UInt8) : ReplyCase :=
  { stores := [(0, [4]), (1, [command ||| 0x80]), (2, [sub]), (3, [status])]
    sumAt := 4
    sumCount := 4
    sentCount := 5 }

def readSerialCase (serial : Bytes SR_NUM_SIZE) : ReplyCase :=
  { stores := [(0, [20]), (1, [commandByte .TOOL_READ_SERIAL_OF_DUT_CMD ||| 0x80]),
      (2, listOf serial)]
    sumAt := 20
    sumCount := 20
    sentCount := 21 }

/-- The loop gives out the address from its last byte on. -/
def readMacCase (mac : Bytes BLE_GAP_ADDR_LEN) : ReplyCase :=
  { stores := (0, [8]) :: (1, [commandByte .TOOL_READ_MAC_OF_DUT_CMD ||| 0x80]) ::
      bytewise 2 (reversed mac)
    sumAt := 8
    sumCount := 8
    sentCount := 9 }

def readBleMacCase (mac : Bytes BLE_GAP_ADDR_LEN) : ReplyCase :=
  { stores := [(0, [8]), (1, [commandByte .TOOL_READ_BLE_MAC_OF_DUT_CMD ||| 0x80]),
      (2, listOf mac)]
    sumAt := 8
    sumCount := 8
    sentCount := 9 }

def readFwVerCase : ReplyCase :=
  { stores := [(0, [6]), (1, [commandByte .TOOL_READ_FW_VER_CMD ||| 0x80]),
      (2, [APP_VERSION_MAJOR]), (3, [APP_VERSION_MINOR]), (4, [HARDWARE_MAJOR]),
      (5, [HARDWARE_MINOR])]
    sumAt := 6
    sumCount := 6
    sentCount := 7 }

def readModelCase (sub : UInt8) (model : Bytes MODEL_NUMBER_LEN) : ReplyCase :=
  { stores := [(0, [16]), (1, [commandByte .TOOL_READ_DEVICE_CONFIG ||| 0x80]), (2, [sub]),
      (3, [SUCCESS]), (4, listOf model)]
    sumAt := 16
    sumCount := 16
    sentCount := 17 }

/-- The case that answers a message, if one does. -/
def replyCase (t : Tag) (data : UartBuf) : Option ReplyCase :=
  match ToolCommand.ofByte (data 1) with
  | some .TOOL_RESET_CMD => some (successCase (commandByte .TOOL_RESET_CMD))
  | some .TOOL_SET_DEFULT_PASSW => some (successCase (data 1))
  | some .TOOL_SET_SERIAL_OF_DUT_CMD =>
    some (successCase (commandByte .TOOL_SET_SERIAL_OF_DUT_CMD))
  | some .TOOL_SET_MAC_OF_DUT_CMD => some (successCase (commandByte .TOOL_SET_MAC_OF_DUT_CMD))
  | some .TOOL_SET_CLOCK_CMD => some (successCase (commandByte .TOOL_SET_CLOCK_CMD))
  | some .TOOL_SET_DEVICE_CONFIG =>
    if data 2 = 0 then some (statusCase (commandByte .TOOL_SET_DEVICE_CONFIG) (data 2) SUCCESS)
    else
      some (statusCase (commandByte .TOOL_SET_DEVICE_CONFIG) (data 2) INVALID_PROD_COMMAND)
  | some .TOOL_READ_SERIAL_OF_DUT_CMD =>
    some (readSerialCase t.storage.gst_ProductionData.mu8_SerialNumber)
  | some .TOOL_READ_MAC_OF_DUT_CMD =>
    some (readMacCase t.storage.gst_ProductionData.mu8ar_MACAddr)
  | some .TOOL_READ_BLE_MAC_OF_DUT_CMD => some (readBleMacCase (getFactoryMacCopy t.storage))
  | some .TOOL_READ_FW_VER_CMD => some readFwVerCase
  | some .TOOL_READ_DEVICE_CONFIG =>
    if data 2 = 0 then
      some (readModelCase (data 2) t.storage.gst_ProductionData.mu8ar_ModelNumber)
    else
      some (statusCase (commandByte .TOOL_READ_DEVICE_CONFIG) (data 2) INVALID_PROD_COMMAND)
  | none => none

/-! ## The law -/

/-- The frame of `len` bytes in the buffer. -/
def received (data : UartBuf) (len : Nat) : List UInt8 := (listOf data).take len

/-- The sum of all bytes of the frame is 0 modulo 256. -/
def SumsToZero (frame : List UInt8) : Prop := (frame.map UInt8.toNat).sum % 256 = 0

/-- The handler acts on the message: the UART stays on, the command is executed, what it
changed is saved, and the reply goes out. -/
def acted (t : Tag) (data : UartBuf) (io : ToolIo) (bootIo : BootIo) :
    Tag × Option (List UInt8) :=
  let (u, sent, restarts) := toolCommand (keptAwake t) data
  (if restarts then sysReboot u bootIo else flushTool u io, sent)

/-- The message leaves no trace: no state changes, nothing is written to flash, and no reply
goes out. -/
structure Dropped (t : Tag) (data : UartBuf) (len : Nat) (io : ToolIo) (bootIo : BootIo) :
    Prop where
  result : processProductionMsg t data len io bootIo = (t, none)
  writes : nvsWrites t data len = []

/-- A reply is built within `tx_buf` by the case of its command, and is a frame itself. -/
structure SoundReply (t : Tag) (data : UartBuf) (frame : List UInt8) : Prop where
  built : ∃ r, replyCase t data = some r ∧ r.Fits ∧ frame = r.transmitted t.tool.tx_buf ∧
    frame.length = r.sentCount
  sum : SumsToZero frame
  length : (frame.getD 0 0).toNat + 1 = frame.length
  command : frame.getD 1 0 = data 1 ||| 0x80

/-- The handler in a state does with a message of `len` bytes what its framing asks for. -/
structure SoundFraming (t : Tag) (data : UartBuf) (len : Nat) (io : ToolIo) (bootIo : BootIo) :
    Prop where
  taken : SumsToZero (received data len) →
    processProductionMsg t data len io bootIo = acted t data io bootIo
  dropped : ¬ SumsToZero (received data len) → Dropped t data len io bootIo
  -- An unknown command only starts the delay again, which shows unless it has just begun.
  acts : t.tool.uart_lifetime_timeout_work ≠ some (K_MINUTES UART_DISABLE_TIMEOUT_MIN) →
    (processProductionMsg t data len io bootIo ≠ (t, none) ↔ SumsToZero (received data len))
  guarded : SumsToZero (received data len) → ∀ (j : Fin UART_RX_BUF_SIZE) (b : UInt8),
    j.val < len → b ≠ data j → Dropped t (Function.update data j b) len io bootIo
  replies : ∀ frame, (processProductionMsg t data len io bootIo).2 = some frame →
    SoundReply t data frame

/-- In this state, the framing is sound for every message of 2 to 64 bytes. -/
def FramesSoundly (t : Tag) : Prop :=
  ∀ (data : UartBuf) (len : Nat) (io : ToolIo) (bootIo : BootIo), 2 ≤ len →
    len ≤ UART_RX_BUF_SIZE → SoundFraming t data len io bootIo

/-! ## The checksum -/

/-- A byte as a summand of the checksum. -/
def byteWeight (b : UInt8) : ZMod 256 := b.toNat

theorem byteWeight_injective {a b : UInt8} (h : byteWeight a = byteWeight b) : a = b := by
  have hmod := (ZMod.natCast_eq_natCast_iff' a.toNat b.toNat 256).mp h
  have ha := a.toNat_lt
  have hb := b.toNat_lt
  apply UInt8.toNat_inj.mp
  omega

theorem sum_byteWeight (frame : List UInt8) :
    (frame.map byteWeight).sum = ((frame.map UInt8.toNat).sum : Nat) := by
  rw [Nat.cast_list_sum, List.map_map]
  rfl

theorem sumsToZero_iff (frame : List UInt8) :
    SumsToZero frame ↔ checksum.Passes byteWeight frame := by
  unfold SumsToZero checksum.Passes
  rw [sum_byteWeight, ZMod.natCast_eq_zero_iff, Nat.dvd_iff_mod_eq_zero]

theorem byteWeight_FindChecksum (body : List UInt8) :
    byteWeight (FindChecksum body) = -(body.map byteWeight).sum := by
  rw [sum_byteWeight, eq_neg_iff_add_eq_zero]
  unfold byteWeight FindChecksum
  rw [UInt8.toNat_ofNat', ← Nat.cast_add, ZMod.natCast_eq_zero_iff]
  omega

/-- The checksum is the one byte that makes a frame of the bytes before it. -/
theorem sumsToZero_concat (body : List UInt8) (c : UInt8) :
    SumsToZero (body ++ [c]) ↔ FindChecksum body = c := by
  rw [sumsToZero_iff, checksum.passes_concat, ← byteWeight_FindChecksum]
  constructor
  · intro h
    exact (byteWeight_injective h).symm
  · rintro rfl
    rfl

/-- The check of the handler is about the sum of the whole frame. -/
theorem checksumValid_iff {data : UartBuf} {len : Nat} (hlen : 2 ≤ len)
    (hmax : len ≤ UART_RX_BUF_SIZE) :
    checksumValid data len = true ↔ SumsToZero (received data len) := by
  have hsplit : received data len =
      (listOf data).take (len - 1) ++ [(listOf data).getD (len - 1) 0] := by
    have hlast : len - 1 < (listOf data).length := by
      rw [listOf_length]
      omega
    unfold received
    rw [← List.getElem_eq_getD (h := hlast), ← List.take_succ_eq_append_getElem hlast,
      Nat.sub_add_cancel (by omega)]
  rw [hsplit, sumsToZero_concat]
  unfold checksumValid
  exact decide_eq_true_iff

theorem received_update (data : UartBuf) (j : Fin UART_RX_BUF_SIZE) (b : UInt8) (len : Nat) :
    received (Function.update data j b) len = (received data len).set j.val b := by
  unfold received
  rw [listOf_update, List.take_set]

/-- A frame with another byte in one place is no frame. -/
theorem not_sumsToZero_update {data : UartBuf} {len : Nat} {j : Fin UART_RX_BUF_SIZE} {b : UInt8}
    (hsum : SumsToZero (received data len)) (hj : j.val < len) (hb : b ≠ data j) :
    ¬ SumsToZero (received (Function.update data j b) len) := by
  have hlen : j.val < (received data len).length := by
    simp [received, hj]
  have hbyte : (received data len)[j.val] = data j := by
    simp only [received, listOf, List.getElem_take, List.getElem_ofFn]
  rw [received_update, sumsToZero_iff]
  refine checksum.not_passes_set ((sumsToZero_iff _).mp hsum) hlen ?_
  rw [hbyte]
  exact fun h => hb (byteWeight_injective h)

/-! ## What the cases build -/

/-- The numbers of a case agree with each other and with the sizes of what it copies. -/
structure ReplyCase.Builds (r : ReplyCase) (command : UInt8) (payload : List UInt8) : Prop where
  contiguous : Contiguous 0 r.stores
  body : r.stores.flatMap Prod.snd =
    UInt8.ofNat (payload.length + 2) :: (command ||| 0x80) :: payload
  sumAt : r.sumAt = payload.length + 2
  sumCount : r.sumCount = payload.length + 2
  sentCount : r.sentCount = payload.length + 3
  short : payload.length + 3 ≤ UART_TX_BUF_SIZE

theorem replyFrame_length (command : UInt8) (payload : List UInt8) :
    (replyFrame command payload).length = payload.length + 3 := by
  simp [replyFrame]

theorem replyFrame_sumsToZero (command : UInt8) (payload : List UInt8) :
    SumsToZero (replyFrame command payload) :=
  (sumsToZero_concat _ _).mpr rfl

section builds

variable {r : ReplyCase} {command : UInt8} {payload : List UInt8}

/-- The case leaves the frame of its command and payload at the start of `tx_buf`. -/
theorem ReplyCase.Builds.build (h : r.Builds command payload) (tx_buf : Bytes UART_TX_BUF_SIZE) :
    r.build tx_buf = memcpy tx_buf 0 (replyFrame command payload) := by
  have hlen : (r.stores.flatMap Prod.snd).length = payload.length + 2 := by
    rw [h.body]
    rfl
  have hshort := h.short
  have hsummed : (listOf (storeAll tx_buf r.stores)).take r.sumCount =
      r.stores.flatMap Prod.snd := by
    rw [storeAll_contiguous h.contiguous, h.sumCount, ← hlen]
    exact take_memcpy tx_buf (by omega)
  have happend := memcpy_append tx_buf 0 (r.stores.flatMap Prod.snd)
    [FindChecksum (r.stores.flatMap Prod.snd)]
  unfold ReplyCase.build
  rw [hsummed, storeAll_contiguous h.contiguous, h.sumAt, ← hlen]
  rw [Nat.zero_add] at happend
  rw [happend, h.body]
  rfl

theorem ReplyCase.Builds.transmitted (h : r.Builds command payload)
    (tx_buf : Bytes UART_TX_BUF_SIZE) : r.transmitted tx_buf = replyFrame command payload := by
  unfold ReplyCase.transmitted
  rw [h.build, h.sentCount, ← replyFrame_length command payload]
  apply take_memcpy
  rw [replyFrame_length]
  exact h.short

theorem ReplyCase.Builds.fits (h : r.Builds command payload) : r.Fits := by
  have hshort := h.short
  have hlen : (r.stores.flatMap Prod.snd).length = payload.length + 2 := by
    rw [h.body]
    rfl
  refine ⟨?_, ?_, ?_, ?_⟩
  · intro p hp
    have hwithin := contiguous_within h.contiguous hp
    omega
  · rw [h.sumAt]
    omega
  · rw [h.sumCount]
    omega
  · rw [h.sentCount]
    exact hshort

end builds

theorem successCase_builds (command : UInt8) : (successCase command).Builds command [SUCCESS] :=
  ⟨by simp [Contiguous, successCase], rfl, rfl, rfl, rfl, by decide⟩

theorem statusCase_builds (command sub status : UInt8) :
    (statusCase command sub status).Builds command [sub, status] :=
  ⟨by simp [Contiguous, statusCase], rfl, rfl, rfl, rfl, by simp [UART_TX_BUF_SIZE]⟩

theorem readSerialCase_builds (serial : Bytes SR_NUM_SIZE) :
    (readSerialCase serial).Builds (commandByte .TOOL_READ_SERIAL_OF_DUT_CMD) (listOf serial) := by
  constructor <;> simp [readSerialCase, Contiguous, SR_NUM_SIZE, UART_TX_BUF_SIZE]

theorem readMacCase_builds (mac : Bytes BLE_GAP_ADDR_LEN) :
    (readMacCase mac).Builds (commandByte .TOOL_READ_MAC_OF_DUT_CMD) (listOf (reversed mac)) := by
  have hloop := contiguous_bytewise 2 (reversed mac)
  constructor <;>
    simp [readMacCase, Contiguous, hloop, flatMap_bytewise, BLE_GAP_ADDR_LEN, UART_TX_BUF_SIZE]

theorem readBleMacCase_builds (mac : Bytes BLE_GAP_ADDR_LEN) :
    (readBleMacCase mac).Builds (commandByte .TOOL_READ_BLE_MAC_OF_DUT_CMD) (listOf mac) := by
  constructor <;> simp [readBleMacCase, Contiguous, BLE_GAP_ADDR_LEN, UART_TX_BUF_SIZE]

theorem readFwVerCase_builds :
    readFwVerCase.Builds (commandByte .TOOL_READ_FW_VER_CMD)
      [APP_VERSION_MAJOR, APP_VERSION_MINOR, HARDWARE_MAJOR, HARDWARE_MINOR] := by
  constructor <;> simp [readFwVerCase, Contiguous, UART_TX_BUF_SIZE]

theorem readModelCase_builds (sub : UInt8) (model : Bytes MODEL_NUMBER_LEN) :
    (readModelCase sub model).Builds (commandByte .TOOL_READ_DEVICE_CONFIG)
      (sub :: SUCCESS :: listOf model) := by
  constructor <;> simp [readModelCase, Contiguous, MODEL_NUMBER_LEN, UART_TX_BUF_SIZE]

/-- One link of a chain of `else if`. -/
theorem of_ite_some {α : Type*} {p : Prop} [Decidable p] {x y : α} {o : Option α}
    (h : (if p then some x else o) = some y) : p ∧ x = y ∨ o = some y := by
  split at h
  · rename_i hp
    exact Or.inl ⟨hp, Option.some.inj h⟩
  · exact Or.inr h

theorem commandByte_ofByte {b : UInt8} {cmd : ToolCommand}
    (h : ToolCommand.ofByte b = some cmd) : commandByte cmd = b := by
  unfold ToolCommand.ofByte at h
  iterate 11
    rcases of_ite_some h with ⟨rfl, rfl⟩ | h
    · rfl
  cases h

/-- A command that has a case answers with the frame that the case builds, and no other command
answers. -/
theorem toolCommand_answers (t : Tag) (data : UartBuf) :
    (replyCase t data = none ∧ toolCommand t data = (t, none, false)) ∨
      ∃ r payload, replyCase t data = some r ∧ r.Builds (data 1) payload ∧
        (toolCommand t data).2.1 = some (replyFrame (data 1) payload) ∧
        (toolCommand t data).1.tool.tx_buf =
          memcpy t.tool.tx_buf 0 (replyFrame (data 1) payload) := by
  unfold replyCase toolCommand
  cases hcmd : ToolCommand.ofByte (data 1) with
  | none => exact Or.inl ⟨rfl, rfl⟩
  | some cmd =>
    right
    rw [← commandByte_ofByte hcmd]
    cases cmd with
    | TOOL_RESET_CMD => exact ⟨_, _, rfl, successCase_builds _, rfl, rfl⟩
    | TOOL_SET_DEFULT_PASSW => exact ⟨_, _, rfl, successCase_builds _, rfl, rfl⟩
    | TOOL_SET_SERIAL_OF_DUT_CMD => exact ⟨_, _, rfl, successCase_builds _, rfl, rfl⟩
    | TOOL_SET_MAC_OF_DUT_CMD => exact ⟨_, _, rfl, successCase_builds _, rfl, rfl⟩
    | TOOL_SET_CLOCK_CMD => exact ⟨_, _, rfl, successCase_builds _, rfl, rfl⟩
    | TOOL_SET_DEVICE_CONFIG =>
      simp only
      split <;> exact ⟨_, _, rfl, statusCase_builds _ _ _, rfl, rfl⟩
    | TOOL_READ_SERIAL_OF_DUT_CMD => exact ⟨_, _, rfl, readSerialCase_builds _, rfl, rfl⟩
    | TOOL_READ_MAC_OF_DUT_CMD => exact ⟨_, _, rfl, readMacCase_builds _, rfl, rfl⟩
    | TOOL_READ_BLE_MAC_OF_DUT_CMD => exact ⟨_, _, rfl, readBleMacCase_builds _, rfl, rfl⟩
    | TOOL_READ_FW_VER_CMD => exact ⟨_, _, rfl, readFwVerCase_builds, rfl, rfl⟩
    | TOOL_READ_DEVICE_CONFIG =>
      simp only
      split
      · exact ⟨_, _, rfl, readModelCase_builds _ _, rfl, rfl⟩
      · exact ⟨_, _, rfl, statusCase_builds _ _ _, rfl, rfl⟩

/-- The command leaves in `tx_buf`, and sends, what its case builds with the numbers of the
source. -/
theorem toolCommand_builds (t : Tag) (data : UartBuf) :
    (toolCommand t data).2.1 =
        (replyCase t data).map (fun r => r.transmitted t.tool.tx_buf) ∧
      (toolCommand t data).1.tool.tx_buf =
        ((replyCase t data).map (fun r => r.build t.tool.tx_buf)).getD t.tool.tx_buf := by
  rcases toolCommand_answers t data with ⟨hnone, heq⟩ | ⟨r, payload, hr, hbuilds, hsent, hbuf⟩
  · rw [hnone, heq]
    exact ⟨rfl, rfl⟩
  · rw [hr, hsent, hbuf, Option.map_some, Option.map_some, hbuilds.transmitted, hbuilds.build]
    exact ⟨rfl, rfl⟩

/-- Every reply is sound. -/
theorem toolCommand_sound (t : Tag) (data : UartBuf) {frame : List UInt8}
    (h : (toolCommand t data).2.1 = some frame) : SoundReply t data frame := by
  rcases toolCommand_answers t data with ⟨_, heq⟩ | ⟨r, payload, hr, hbuilds, hsent, _⟩
  · rw [heq] at h
    cases h
  · rw [hsent, Option.some.injEq] at h
    subst h
    have hlen := replyFrame_length (data 1) payload
    have hshort : payload.length + 3 ≤ 32 := hbuilds.short
    refine ⟨⟨r, hr, hbuilds.fits, (hbuilds.transmitted _).symm, ?_⟩,
      replyFrame_sumsToZero _ _, ?_, rfl⟩
    · rw [hlen, hbuilds.sentCount]
    · have hfirst : ((replyFrame (data 1) payload).getD 0 0).toNat =
          (payload.length + 2) % 256 := UInt8.toNat_ofNat'
      rw [hfirst, hlen]
      omega

/-! ## Between two messages -/

/-- No record that the production tool changed waits to be saved. -/
structure Settled (t : Tag) : Prop where
  production : t.tool.bool_ProductionDataWrite = false
  config : t.tool.bool_ConfigDataWrite = false
  dynamic : t.tool.bool_DynamicDataWrite = false

theorem flushTool_of_settled {t : Tag} (h : Settled t) (io : ToolIo) : flushTool t io = t := by
  unfold flushTool
  simp [h.production, h.config, h.dynamic]

theorem flushWrites_of_settled {t : Tag} (h : Settled t) : flushWrites t = [] := by
  unfold flushWrites
  simp [h.production, h.config, h.dynamic]

theorem settled_flushTool (t : Tag) (io : ToolIo) : Settled (flushTool t io) := by
  obtain ⟨hprod, hconf, _⟩ := flushTool_unmarked t io
  refine ⟨hprod, hconf, ?_⟩
  unfold flushTool
  simp only
  split_ifs <;> simp_all

theorem settled_boot (board : Board) (nvs : Nvs) (retained : RetainedTimeBlock) (io : BootIo) :
    Settled (boot board nvs retained io) := by
  have htool := boot_tool board nvs retained io
  exact ⟨by rw [htool], by rw [htool], by rw [htool]⟩

theorem Settled.congr {t u : Tag} (h : Settled t) (htool : u.tool = t.tool) : Settled u :=
  ⟨by rw [htool]; exact h.production, by rw [htool]; exact h.config,
    by rw [htool]; exact h.dynamic⟩

theorem settled_toolMsg {t : Tag} (h : Settled t) (data : UartBuf) (len : Nat) (io : ToolIo)
    (bootIo : BootIo) : Settled (processProductionMsg t data len io bootIo).1 := by
  by_cases hvalid : 2 ≤ len ∧ checksumValid data len = true
  · rw [toolMsg_valid t data len io bootIo hvalid.1 hvalid.2]
    split
    · exact settled_boot _ _ _ _
    · exact settled_flushTool _ io
  · rcases toolMsg_ignored t data len io bootIo hvalid with heq | heq
    · rw [heq]
      exact h
    · rw [heq]
      exact settled_flushTool t io

theorem settled_next (t : Tag) (e : Event) (h : Settled t) : Settled (next t e) := by
  have hquiet : QuietEvent e → Settled (next t e) := by
    intro he
    rcases quiet_settings t e he with hs | ⟨io, hboot⟩
    · exact h.congr hs.tool
    · rw [hboot]
      exact settled_boot _ _ _ _
  cases e with
  | parseAndReply io => exact h.congr (parse_tool t io)
  | toolMsg data len io bootIo => exact settled_toolMsg h data len io bootIo
  | _ => exact hquiet trivial

/-! ## One message, and every run -/

theorem flushTool_lifetime (t : Tag) (io : ToolIo) :
    (flushTool t io).tool.uart_lifetime_timeout_work = t.tool.uart_lifetime_timeout_work := by
  unfold flushTool
  simp only
  split_ifs <;> rfl

/-- A message that is acted on leaves a trace: it is answered, or at least the UART stays on for
longer. -/
theorem acted_ne {t : Tag} (data : UartBuf) (io : ToolIo) (bootIo : BootIo)
    (htimer : t.tool.uart_lifetime_timeout_work ≠ some (K_MINUTES UART_DISABLE_TIMEOUT_MIN)) :
    acted t data io bootIo ≠ (t, none) := by
  intro heq
  rcases toolCommand_answers (keptAwake t) data with ⟨_, hquiet⟩ | ⟨r, payload, _, _, hsent, _⟩
  · -- An unknown command: all that happens is the new delay.
    unfold acted at heq
    rw [hquiet] at heq
    have hstate : flushTool (keptAwake t) io = t := congrArg Prod.fst heq
    have hlife := flushTool_lifetime (keptAwake t) io
    rw [hstate] at hlife
    exact htimer hlife
  · have hnone : (toolCommand (keptAwake t) data).2.1 = none := congrArg Prod.snd heq
    rw [hsent] at hnone
    cases hnone

theorem dropped_of_sum {t : Tag} (h : Settled t) {data : UartBuf} {len : Nat} (io : ToolIo)
    (bootIo : BootIo) (hlen : 2 ≤ len) (hmax : len ≤ UART_RX_BUF_SIZE)
    (hsum : ¬ SumsToZero (received data len)) : Dropped t data len io bootIo := by
  have hbad : ¬ checksumValid data len = true :=
    fun hc => hsum ((checksumValid_iff hlen hmax).mp hc)
  constructor
  · unfold processProductionMsg
    rw [if_neg (by omega), if_neg hbad, flushTool_of_settled h]
  · unfold nvsWrites
    rw [if_neg (by omega), if_neg hbad, flushWrites_of_settled h]

theorem taken_of_sum (t : Tag) {data : UartBuf} {len : Nat} (io : ToolIo) (bootIo : BootIo)
    (hlen : 2 ≤ len) (hmax : len ≤ UART_RX_BUF_SIZE) (hsum : SumsToZero (received data len)) :
    processProductionMsg t data len io bootIo = acted t data io bootIo :=
  toolMsg_valid t data len io bootIo hlen ((checksumValid_iff hlen hmax).mpr hsum)

/-- Whatever a message brings, a tag with nothing left to save frames it soundly. -/
theorem framesSoundly_of_settled {t : Tag} (h : Settled t) : FramesSoundly t := by
  intro data len io bootIo hlen hmax
  have htaken : SumsToZero (received data len) →
      processProductionMsg t data len io bootIo = acted t data io bootIo :=
    taken_of_sum t io bootIo hlen hmax
  have hdropped : ¬ SumsToZero (received data len) → Dropped t data len io bootIo :=
    dropped_of_sum h io bootIo hlen hmax
  refine ⟨htaken, hdropped, ?_, ?_, ?_⟩
  · intro htimer
    constructor
    · intro hne
      by_contra hsum
      exact hne (hdropped hsum).result
    · intro hsum
      rw [htaken hsum]
      exact acted_ne data io bootIo htimer
  · intro hsum j b hj hb
    exact dropped_of_sum h io bootIo hlen hmax (not_sumsToZero_update hsum hj hb)
  · intro frame hsent
    by_cases hsum : SumsToZero (received data len)
    · rw [htaken hsum] at hsent
      obtain ⟨⟨r, hr, hfits, hframe, hcount⟩, hzero, hfirst, hsecond⟩ :=
        toolCommand_sound (keptAwake t) data hsent
      exact ⟨⟨r, hr, hfits, hframe, hcount⟩, hzero, hfirst, hsecond⟩
    · rw [(hdropped hsum).result] at hsent
      cases hsent

/-- In every state of a run the framing of the production commands is sound, in both
directions. -/
theorem production_frames_are_sound_in_both_directions {t : Tag} {es : List Event}
    (h : system.Run t es) : system.States FramesSoundly t es := by
  obtain ⟨⟨board, nvs, retained, io, rfl⟩, hallowed⟩ := h
  exact runs.System.states_of_invariant (fun t e hs _ => settled_next t e hs)
    (fun t hs => framesSoundly_of_settled hs) (settled_boot board nvs retained io) hallowed

/-- A request for the version. -/
def versionFrame : UartBuf := padded _ [2, 0x16, 0xE8]

theorem a_version_request_is_framed_soundly :
    system.States FramesSoundly factoryTag [.toolMsg versionFrame 3 quietBoot.load quietBoot] ∧
      (processProductionMsg factoryTag versionFrame 3 quietBoot.load quietBoot).2 =
        some [6, 0x96, 1, 0, 1, 0, 0x62] :=
  ⟨production_frames_are_sound_in_both_directions ⟨factoryTag_starts, by decide +kernel⟩,
    by decide +kernel⟩

end smart_track.framing
