-- The settings of the tag over both channels: what a set command carries, what
-- the read commands and the login answer, and that the two agree across the
-- channels and across restarts.
import SmartTrack.Provenance
import SmartTrack.Registers

open bytes registers smart_track.zephyr smart_track.production smart_track.storage
  smart_track.tag smart_track.custom_services
open smart_track.time_manager (RetainedTimeBlock)
open smart_track.provenance (loginFrame quietRun)

namespace smart_track.settings

/-! ## The parameters and the frames -/

/-- What set commands change. The advertising interval has no read command. -/
inductive Param
  | timeZone
  | advInterval
  | energyStart
  | energyEnd
  | serialNumber
  | macAddr
  | modelNumber
  | password
  deriving DecidableEq

/-- The value of each parameter, in the bytes in which it travels. The MAC address travels
high byte first, the numbers low byte first. -/
def stored (st : Storage) : Param → List UInt8
  | .timeZone => le16 st.gst_ConfigData.s16_TimeZoneOffset
  | .advInterval => le16 st.gst_ConfigData.mu16_AdvertismentInterval
  | .energyStart => le16 st.gst_ConfigData.energy_save_para.u16_StartMinutes
  | .energyEnd => le16 st.gst_ConfigData.energy_save_para.u16_EndMinutes
  | .serialNumber => listOf st.gst_ProductionData.mu8_SerialNumber
  | .macAddr => listOf (reversed st.gst_ProductionData.mu8ar_MACAddr)
  | .modelNumber => listOf st.gst_ProductionData.mu8ar_ModelNumber
  | .password => listOf st.gst_ProductionData.mu8ar_Password

/-- The frame that waits for the command handler. -/
def received (t : Tag) : List UInt8 := (listOf t.svc.write_buffer).take t.svc.write_len

def toolFrame (data : UartBuf) (len : Nat) : List UInt8 := (listOf data).take len

/-- The length of each command, with what it carries. -/
def bleLength (frame : List UInt8) : Nat :=
  match Command.ofByte (frame.getD 0 0) with
  | some .SET_REAL_TIME_CLOCK => 7
  | some .READ_ASSOCIATION_PARA => 2
  | some .SET_ADV_PERIOD => 3
  | some .SET_ENERGY_SAVE_TIME => 6
  | some .READ_BLE_MAC_ADDR => 2
  | some _ => 1
  | none => if frame.getD 0 0 = PROVIDE_PASSWORD then 17 else 1

/-- The length of each production command, with its length byte and its checksum. -/
def toolLength (frame : List UInt8) : Nat :=
  match ToolCommand.ofByte (frame.getD 1 0) with
  | some .TOOL_SET_DEFULT_PASSW => 19
  | some .TOOL_SET_SERIAL_OF_DUT_CMD => 21
  | some .TOOL_SET_MAC_OF_DUT_CMD => 9
  | some .TOOL_SET_CLOCK_CMD => 9
  | some .TOOL_SET_DEVICE_CONFIG => 16
  | some .TOOL_READ_DEVICE_CONFIG => 4
  | _ => 3

/-- What an authorised command sets. -/
def bleCarries (frame : List UInt8) : List (Param × List UInt8) :=
  match Command.ofByte (frame.getD 0 0) with
  | some .SET_REAL_TIME_CLOCK => [(.timeZone, field frame 5 2)]
  | some .SET_ADV_PERIOD =>
    if 100 ≤ ofLe (field frame 1 2) ∧ ofLe (field frame 1 2) ≤ 5000 then
      [(.advInterval, field frame 1 2)]
    else
      []
  | some .SET_ENERGY_SAVE_TIME =>
    if frame.getD 1 0 = 1 then
      [(.energyStart, field frame 2 2), (.energyEnd, field frame 4 2)]
    else
      []
  | _ => []

def toolCarries (frame : List UInt8) : List (Param × List UInt8) :=
  match ToolCommand.ofByte (frame.getD 1 0) with
  | some .TOOL_SET_DEFULT_PASSW => [(.password, field frame 2 16)]
  | some .TOOL_SET_SERIAL_OF_DUT_CMD => [(.serialNumber, field frame 2 18)]
  | some .TOOL_SET_MAC_OF_DUT_CMD => [(.macAddr, field frame 2 6)]
  | some .TOOL_SET_CLOCK_CMD => [(.timeZone, field frame 6 2)]
  | some .TOOL_SET_DEVICE_CONFIG =>
    if frame.getD 2 0 = 0 then [(.modelNumber, field frame 3 12)] else []
  | _ => []

/-- What the event sets: a frame counts if the handler takes it as a command. -/
def carried (t : Tag) : Event → List (Param × List UInt8)
  | .parseAndReply _ =>
    if executes t ≠ none ∧ t.svc.bool_UserAuthorization = true then bleCarries (received t) else []
  | .toolMsg data len _ _ =>
    if 2 ≤ len ∧ checksumValid data len = true then toolCarries (toolFrame data len) else []
  | _ => []

/-- What a read command over BLE has to answer when the parameters have the values `v`. -/
def bleAnswer (v : Param → List UInt8) (frame : List UInt8) : Option (List UInt8) :=
  match Command.ofByte (frame.getD 0 0) with
  | some .READ_ASSOCIATION_PARA =>
    if frame.getD 1 0 = 6 then some (SUCCESS :: 6 :: v .timeZone) else none
  | some .READ_ENERGY_SAVING_PARA => some (SUCCESS :: (v .energyStart ++ v .energyEnd))
  | _ => none

/-- What a read command over the UART has to answer, as the payload of the reply. -/
def toolAnswer (v : Param → List UInt8) (frame : List UInt8) : Option (List UInt8) :=
  match ToolCommand.ofByte (frame.getD 1 0) with
  | some .TOOL_READ_SERIAL_OF_DUT_CMD => some (v .serialNumber)
  | some .TOOL_READ_MAC_OF_DUT_CMD => some (v .macAddr)
  | some .TOOL_READ_DEVICE_CONFIG =>
    if frame.getD 2 0 = 0 then some (0 :: SUCCESS :: v .modelNumber) else none
  | _ => none

/-- The frame that is executed has the length of its command. -/
def FullLength (t : Tag) : Event → Prop
  | .parseAndReply _ => executes t ≠ none → bleLength (received t) ≤ (received t).length
  | .toolMsg data len _ _ =>
    2 ≤ len → checksumValid data len = true →
      toolLength (toolFrame data len) ≤ (toolFrame data len).length
  | _ => True

def WritesSucceed : Event → Prop
  | .parseAndReply io => 0 ≤ io.configRc ∧ 0 ≤ io.dynamicRc
  | .toolMsg _ _ io bootIo => io.Succeeds ∧ bootIo.load.Succeeds
  | .wake io => io.load.Succeeds
  | _ => True

instance (t : Tag) (e : Event) : Decidable (FullLength t e) := by
  apply Event.casesOn (motive := fun e => Decidable (FullLength t e)) e
  all_goals
    intros
    unfold FullLength
    infer_instance

instance (e : Event) : Decidable (WritesSucceed e) := by
  apply Event.casesOn (motive := fun e => Decidable (WritesSucceed e)) e
  all_goals
    intros
    unfold WritesSucceed
    infer_instance

/-- The read commands and the login go by the values `v`. -/
def ReadsGive (v : Param → List UInt8) (t : Tag) : Event → Prop
  | .parseAndReply io =>
    executes t ≠ none →
      (t.svc.bool_UserAuthorization = true → ∀ answer, bleAnswer v (received t) = some answer →
        readNotifyChar (next t (.parseAndReply io)) CUSTOM_MAX_DATA_LEN 0 = answer ∧
          ∀ d, (bleParseAndReplyWorkHandler t io).2 = some d → d.2 = answer) ∧
      (t.svc.bool_UserAuthorization = false →
        ((next t (.parseAndReply io)).svc.bool_UserAuthorization = true ↔
          (received t).getD 0 0 = PROVIDE_PASSWORD ∧ field (received t) 1 16 = v .password))
  | .toolMsg data len io bootIo =>
    2 ≤ len → checksumValid data len = true →
      ∀ answer, toolAnswer v (toolFrame data len) = some answer →
        (processProductionMsg t data len io bootIo).2 =
          some (replyFrame ((toolFrame data len).getD 1 0) answer)
  | _ => True

/-- A step leaves every parameter alone that it does not carry. A set command that carries
no time leaves the clock alone as well. -/
def KeepsOthers (t : Tag) (e : Event) : Prop :=
  (∀ p, (∀ s ∈ carried t e, s.1 ≠ p) → stored (next t e).storage p = stored t.storage p) ∧
    (carried t e ≠ [] → (∀ s ∈ carried t e, s.1 ≠ .timeZone) →
      (next t e).storage.gst_DynamicData = t.storage.gst_DynamicData ∧ (next t e).time = t.time)

/-! ## The bytes of a frame in the buffer of its handler -/

theorem takenFrame_eq (t : Tag) (i : Fin CUSTOM_MAX_DATA_LEN) :
    takenFrame t i = (received t).getD i.val 0 :=
  (getD_take_listOf t.svc.write_buffer t.svc.write_len i).symm

theorem toolFrame_eq (data : UartBuf) (len : Nat) (i : Fin UART_RX_BUF_SIZE)
    (h : i.val < (toolFrame data len).length) : data i = (toolFrame data len).getD i.val 0 := by
  have hlen : i.val < len := by
    simp only [toolFrame, List.length_take] at h
    omega
  rw [toolFrame, getD_take_listOf, if_pos hlen]

/-! ## What the commands do to the parameters -/

theorem stored_setClockRecords (st : Storage) (epoch : UInt32) (a b : UInt8) :
    stored (setClockRecords st epoch (ofLe16 a b)) =
      Function.update (stored st) .timeZone [a, b] := by
  funext p
  cases p with
  | timeZone => simp [stored, setClockRecords, le16_ofLe16]
  | _ => rfl

theorem stored_setAdvPeriod (t : Tag) (a b : UInt8) :
    stored (setAdvPeriod t (ofLe16 a b)).storage =
      Function.update (stored t.storage) .advInterval [a, b] := by
  funext p
  cases p with
  | advInterval => simp [stored, setAdvPeriod, le16_ofLe16]
  | _ => rfl

theorem stored_setEnergySave (t : Tag) (a b c d : UInt8) :
    stored (setEnergySave t (ofLe16 a b) (ofLe16 c d)).storage =
      Function.update (Function.update (stored t.storage) .energyEnd [c, d])
        .energyStart [a, b] := by
  funext p
  cases p with
  | energyStart => simp [stored, setEnergySave, le16_ofLe16]
  | energyEnd => simp [stored, setEnergySave, le16_ofLe16]
  | _ => rfl

theorem adv_period_in_range (a b : UInt8) :
    (100 ≤ ofLe16 a b ∧ ofLe16 a b ≤ 5000) ↔ (100 ≤ ofLe [a, b] ∧ ofLe [a, b] ≤ 5000) := by
  rw [UInt16.le_iff_toNat_le, UInt16.le_iff_toNat_le, ofLe16_toNat]
  exact Iff.rfl

/-- An authorised command sets what its frame carries, and nothing else. -/
theorem authorisedCommand_stored (t : Tag) (f : Frame) {frame : List UInt8}
    (hf : ∀ i : Fin CUSTOM_MAX_DATA_LEN, f i = frame.getD i.val 0)
    (hlen : bleLength frame ≤ frame.length) :
    stored (authorisedCommand t f).1.storage = valueNow (stored t.storage) (bleCarries frame) := by
  have h0 : f 0 = frame.getD 0 0 := hf 0
  have h1 : f 1 = frame.getD 1 0 := hf 1
  have h2 : f 2 = frame.getD 2 0 := hf 2
  unfold authorisedCommand bleCarries
  unfold bleLength at hlen
  rw [h0]
  cases hcmd : Command.ofByte (frame.getD 0 0) with
  | none => rfl
  | some cmd =>
    rw [hcmd] at hlen
    cases cmd with
    | SET_REAL_TIME_CLOCK =>
      have h5 : f 5 = frame.getD 5 0 := hf 5
      have h6 : f 6 = frame.getD 6 0 := hf 6
      simp only [syncSetUtc, h5, h6, stored_setClockRecords, field_two hlen, valueNow_cons,
        valueNow_nil]
    | SET_ADV_PERIOD =>
      simp only [h1, h2, adv_period_in_range, field_two hlen]
      split
      · rw [stored_setAdvPeriod, valueNow_cons, valueNow_nil]
      · rfl
    | SET_ENERGY_SAVE_TIME =>
      have h3 : f 3 = frame.getD 3 0 := hf 3
      have h4 : f 4 = frame.getD 4 0 := hf 4
      have h5 : f 5 = frame.getD 5 0 := hf 5
      have hstart : field frame 2 2 = [frame.getD 2 0, frame.getD 3 0] :=
        field_two (by simp only at hlen; omega)
      simp only [h1, h2, h3, h4, h5, hstart, field_two hlen, GLOBAL_ENERGY_SAVE_CONFIG1]
      split
      · rw [stored_setEnergySave, valueNow_cons, valueNow_cons, valueNow_nil]
      · rfl
    | READ_CURRENT_TIME =>
      simp only
      split <;> rfl
    | READ_ASSOCIATION_PARA =>
      simp only
      split <;> rfl
    | READ_BLE_MAC_ADDR =>
      simp only
      split <;> rfl
    | _ => rfl

/-- A command leaves the production record and flash alone, and marks the configuration if
it changes it. -/
theorem authorisedCommand_records (t : Tag) (f : Frame) :
    let u := (authorisedCommand t f).1
    u.storage.nvs = t.storage.nvs ∧
      u.storage.gst_ProductionData = t.storage.gst_ProductionData ∧
      (u.storage.gst_ConfigData = t.storage.gst_ConfigData ∨
        u.svc.bool_ConfigDataWrite = true ∧
          u.storage.gst_ConfigData.mu16_MagicNumber =
            t.storage.gst_ConfigData.mu16_MagicNumber) := by
  unfold authorisedCommand
  simp only
  split
  all_goals try split
  all_goals first
    | exact ⟨rfl, rfl, Or.inl rfl⟩
    | exact ⟨rfl, rfl, Or.inr ⟨rfl, rfl⟩⟩

/-- Only the set clock command touches the clock. -/
theorem authorisedCommand_clock (t : Tag) (f : Frame)
    (h : Command.ofByte (f 0) ≠ some .SET_REAL_TIME_CLOCK) :
    (authorisedCommand t f).1.storage.gst_DynamicData = t.storage.gst_DynamicData ∧
      (authorisedCommand t f).1.time = t.time := by
  unfold authorisedCommand
  simp only
  split
  · rename_i hcmd
    exact absurd hcmd h
  all_goals try split
  all_goals exact ⟨rfl, rfl⟩

theorem stored_setClock (t : Tag) (epoch : UInt32) (a b : UInt8) :
    stored (setClock t epoch (ofLe16 a b)).storage =
      Function.update (stored t.storage) .timeZone [a, b] :=
  stored_setClockRecords t.storage epoch a b

section production

variable (t : Tag)

theorem stored_set_password (b : Bytes MAX_PASSWORD_SIZE) :
    stored (setProduction t { t.storage.gst_ProductionData with mu8ar_Password := b }).storage =
      Function.update (stored t.storage) .password (listOf b) := by
  funext p
  cases p <;> rfl

theorem stored_set_serial (b : Bytes SR_NUM_SIZE) :
    stored (setProduction t { t.storage.gst_ProductionData with mu8_SerialNumber := b }).storage =
      Function.update (stored t.storage) .serialNumber (listOf b) := by
  funext p
  cases p <;> rfl

/-- The address is reversed when it is set, and reversed again when it is read. -/
theorem stored_set_mac (b : Bytes BLE_GAP_ADDR_LEN) :
    stored (setProduction t
        { t.storage.gst_ProductionData with mu8ar_MACAddr := reversed b }).storage =
      Function.update (stored t.storage) .macAddr (listOf b) := by
  funext p
  cases p with
  | macAddr => simp [stored, setProduction, reversed_reversed]
  | _ => rfl

theorem stored_set_model (b : Bytes MODEL_NUMBER_LEN) :
    stored (setProduction t { t.storage.gst_ProductionData with mu8ar_ModelNumber := b }).storage =
      Function.update (stored t.storage) .modelNumber (listOf b) := by
  funext p
  cases p <;> rfl

end production

/-- A production command sets what its frame carries, and nothing else. -/
theorem toolCommand_stored (t : Tag) (data : UartBuf) {frame : List UInt8}
    (hf : ∀ i : Fin UART_RX_BUF_SIZE, i.val < frame.length → data i = frame.getD i.val 0)
    (hlen : toolLength frame ≤ frame.length) :
    stored (toolCommand t data).1.storage = valueNow (stored t.storage) (toolCarries frame) := by
  have hthree : 3 ≤ toolLength frame := by
    unfold toolLength
    split <;> omega
  have h1 : data 1 = frame.getD 1 0 := hf 1 (show 1 < frame.length by omega)
  have h2 : data 2 = frame.getD 2 0 := hf 2 (show 2 < frame.length by omega)
  unfold toolCommand toolCarries
  unfold toolLength at hlen
  simp only [h1, h2]
  cases hcmd : ToolCommand.ofByte (frame.getD 1 0) with
  | none => rfl
  | some cmd =>
    rw [hcmd] at hlen
    cases cmd with
    | TOOL_SET_DEFULT_PASSW =>
      have hfull : 2 + 16 ≤ frame.length := Nat.le_of_succ_le hlen
      simp only [reply]
      rw [stored_set_password, listOf_window _ hf hfull, valueNow_cons, valueNow_nil]
    | TOOL_SET_SERIAL_OF_DUT_CMD =>
      have hfull : 2 + 18 ≤ frame.length := Nat.le_of_succ_le hlen
      simp only [reply]
      rw [stored_set_serial, listOf_window _ hf hfull, valueNow_cons, valueNow_nil]
    | TOOL_SET_MAC_OF_DUT_CMD =>
      have hfull : 2 + 6 ≤ frame.length := Nat.le_of_succ_le hlen
      simp only [reply]
      rw [stored_set_mac, listOf_window _ hf hfull, valueNow_cons, valueNow_nil]
    | TOOL_SET_CLOCK_CMD =>
      have hfull : 9 ≤ frame.length := hlen
      have h6 : data 6 = frame.getD 6 0 := hf 6 (show 6 < frame.length by omega)
      have h7 : data 7 = frame.getD 7 0 := hf 7 (show 7 < frame.length by omega)
      have hzone : field frame 6 2 = [frame.getD 6 0, frame.getD 7 0] := field_two (by omega)
      simp only [reply]
      rw [stored_setClock, h6, h7, hzone, valueNow_cons, valueNow_nil]
    | TOOL_SET_DEVICE_CONFIG =>
      have hfull : 3 + 12 ≤ frame.length := Nat.le_of_succ_le hlen
      simp only [reply]
      split
      · rw [stored_set_model, listOf_window _ hf hfull, valueNow_cons, valueNow_nil]
      · rfl
    | TOOL_READ_DEVICE_CONFIG =>
      simp only [reply]
      split <;> rfl
    | _ => rfl

/-- A production command leaves flash alone, and marks each record that it changes. -/
theorem toolCommand_records (t : Tag) (data : UartBuf) :
    let u := (toolCommand t data).1
    u.storage.nvs = t.storage.nvs ∧
      (u.storage.gst_ProductionData = t.storage.gst_ProductionData ∨
        u.tool.bool_ProductionDataWrite = true ∧
          u.storage.gst_ProductionData.mu16_MagicNumber =
            t.storage.gst_ProductionData.mu16_MagicNumber) ∧
      (u.storage.gst_ConfigData = t.storage.gst_ConfigData ∨
        u.tool.bool_ConfigDataWrite = true ∧
          u.storage.gst_ConfigData.mu16_MagicNumber =
            t.storage.gst_ConfigData.mu16_MagicNumber) := by
  unfold toolCommand
  simp only
  split
  all_goals try split
  all_goals first
    | exact ⟨rfl, Or.inl rfl, Or.inl rfl⟩
    | exact ⟨rfl, Or.inr ⟨rfl, rfl⟩, Or.inl rfl⟩
    | exact ⟨rfl, Or.inl rfl, Or.inr ⟨rfl, rfl⟩⟩

theorem toolCommand_clock (t : Tag) (data : UartBuf)
    (h : ToolCommand.ofByte (data 1) ≠ some .TOOL_SET_CLOCK_CMD) :
    (toolCommand t data).1.storage.gst_DynamicData = t.storage.gst_DynamicData ∧
      (toolCommand t data).1.time = t.time := by
  unfold toolCommand
  simp only
  cases hcmd : ToolCommand.ofByte (data 1) with
  | none => exact ⟨rfl, rfl⟩
  | some cmd =>
    cases cmd with
    | TOOL_SET_CLOCK_CMD => exact absurd hcmd h
    | TOOL_SET_DEVICE_CONFIG =>
      simp only
      split <;> exact ⟨rfl, rfl⟩
    | TOOL_READ_DEVICE_CONFIG =>
      simp only
      split <;> exact ⟨rfl, rfl⟩
    | _ => exact ⟨rfl, rfl⟩

/-- A reset command has changed no record when it resets the tag. -/
theorem toolCommand_restart (t : Tag) (data : UartBuf) (h : (toolCommand t data).2.2 = true) :
    (toolCommand t data).1.storage = t.storage ∧
      ToolCommand.ofByte (data 1) = some .TOOL_RESET_CMD := by
  unfold toolCommand at h ⊢
  simp only at h ⊢
  split at h
  · rename_i hcmd
    rw [hcmd]
    exact ⟨rfl, rfl⟩
  all_goals try split at h
  all_goals cases h

/-! ## Saving -/

/-- The record in RAM is the one in flash, or is good and waits to be saved there. -/
def Pending {α : Type} (slot : Slot α) (nvs : Nvs) (r : α) (dirty : Bool) : Prop :=
  slot.Holds nvs r ∨ dirty = true ∧ slot.magicOf r = slot.magic

/-- A handler that changed a record only together with its mark has lost nothing. -/
theorem pending_of_marked {α : Type} {slot : Slot α} {nvs : Nvs} {r s : α} {dirty : Bool}
    (h : slot.Holds nvs r) (hs : s = r ∨ dirty = true ∧ slot.magicOf s = slot.magicOf r) :
    Pending slot nvs s dirty := by
  rcases hs with rfl | ⟨hdirty, hmagic⟩
  · exact Or.inl h
  · exact Or.inr ⟨hdirty, hmagic.trans h.magic_ok⟩

/-- Flash after the save of a record that is marked. -/
def saveMarked {α : Type} (slot : Slot α) (nvs : Nvs) (r : α) (rc : Int) (dirty : Bool) : Nvs :=
  if dirty then slot.save nvs r rc else nvs

theorem saveMarked_holds {α : Type} {slot : Slot α} {nvs : Nvs} {r : α} {rc : Int} {dirty : Bool}
    (h : Pending slot nvs r dirty) (hrc : 0 ≤ rc) :
    slot.Holds (saveMarked slot nvs r rc dirty) r := by
  unfold saveMarked
  rcases h with hold | ⟨hdirty, hmagic⟩
  · split
    · exact slot.save_holds nvs r hrc hold.magic_ok
    · exact hold
  · rw [if_pos hdirty]
    exact slot.save_holds nvs r hrc hmagic

theorem saveMarked_other {α β : Type} {slot : Slot α} {other : Slot β} {nvs : Nvs} (r : α) {s : β}
    (rc : Int) (dirty : Bool) (hkey : other.key ≠ slot.key) (h : other.Holds nvs s) :
    other.Holds (saveMarked slot nvs r rc dirty) s := by
  unfold saveMarked
  split
  · exact slot.save_holds_other other r rc hkey h
  · exact h

theorem saveMarked_pending {α β : Type} {slot : Slot α} {other : Slot β} {nvs : Nvs} (r : α)
    {s : β} {waits : Bool} (rc : Int) (dirty : Bool) (hkey : other.key ≠ slot.key)
    (h : Pending other nvs s waits) : Pending other (saveMarked slot nvs r rc dirty) s waits := by
  rcases h with hold | hmark
  · exact Or.inl (saveMarked_other r rc dirty hkey hold)
  · exact Or.inr hmark

theorem flush_storage (t : Tag) (configRc dynamicRc : Int) :
    (flushDynamic (flushConfig t configRc) dynamicRc).storage =
      { t.storage with
        nvs := saveMarked dynamicSlot
          (saveMarked configSlot t.storage.nvs t.storage.gst_ConfigData configRc
            t.svc.bool_ConfigDataWrite)
          t.storage.gst_DynamicData dynamicRc t.svc.bool_DynamicDataWrite } := by
  unfold flushDynamic flushConfig saveMarked
  split_ifs <;> rfl

theorem flushTool_storage (t : Tag) (io : ToolIo) :
    (flushTool t io).storage =
      { t.storage with
        nvs := saveMarked dynamicSlot
          (saveMarked configSlot
            (saveMarked productionSlot t.storage.nvs t.storage.gst_ProductionData
              io.productionRc t.tool.bool_ProductionDataWrite)
            t.storage.gst_ConfigData io.configRc t.tool.bool_ConfigDataWrite)
          t.storage.gst_DynamicData io.dynamicRc t.tool.bool_DynamicDataWrite } := by
  unfold flushTool saveMarked
  simp only
  split_ifs <;> rfl

theorem flushTool_time (t : Tag) (io : ToolIo) : (flushTool t io).time = t.time := by
  unfold flushTool
  simp only
  split_ifs <;> rfl

/-- What a handler saves at its end brings RAM and flash in step. -/
theorem flush_inSync {t : Tag} {configRc : Int} (dynamicRc : Int) (hrc : 0 ≤ configRc)
    (hprod : productionSlot.Holds t.storage.nvs t.storage.gst_ProductionData)
    (hconf : Pending configSlot t.storage.nvs t.storage.gst_ConfigData
      t.svc.bool_ConfigDataWrite) :
    InSync (flushDynamic (flushConfig t configRc) dynamicRc).storage := by
  rw [flush_storage]
  constructor
  · apply saveMarked_other _ _ _ (by decide)
    exact saveMarked_other _ _ _ (by decide) hprod
  · apply saveMarked_other _ _ _ (by decide)
    exact saveMarked_holds hconf hrc

theorem flushTool_inSync {t : Tag} {io : ToolIo} (hio : io.Succeeds)
    (hprod : Pending productionSlot t.storage.nvs t.storage.gst_ProductionData
      t.tool.bool_ProductionDataWrite)
    (hconf : Pending configSlot t.storage.nvs t.storage.gst_ConfigData
      t.tool.bool_ConfigDataWrite) :
    InSync (flushTool t io).storage := by
  rw [flushTool_storage]
  constructor
  · apply saveMarked_other _ _ _ (by decide)
    apply saveMarked_other _ _ _ (by decide)
    exact saveMarked_holds hprod hio.production
  · apply saveMarked_other _ _ _ (by decide)
    exact saveMarked_holds (saveMarked_pending _ _ _ (by decide) hconf) hio.config

/-! ## One run of the command handler -/

theorem loginCommand_records (t : Tag) (f : Frame) :
    (loginCommand t f).1.storage = t.storage ∧ (loginCommand t f).1.time = t.time := by
  unfold loginCommand
  split_ifs <;> exact ⟨rfl, rfl⟩

theorem command_pending (t : Tag) (f : Frame) (h : InSync t.storage) :
    let u := (command t f).1
    productionSlot.Holds u.storage.nvs u.storage.gst_ProductionData ∧
      Pending configSlot u.storage.nvs u.storage.gst_ConfigData u.svc.bool_ConfigDataWrite := by
  unfold command
  split
  · simp only [(loginCommand_records t f).1]
    exact ⟨h.production, Or.inl h.config⟩
  · obtain ⟨hnvs, hprod, hconf⟩ := authorisedCommand_records
      { t with svc :=
          { t.svc with
            connection_timout_work :=
              kWorkReschedule t.svc.connection_timout_work (K_SECONDS DISCC_TIME_SEC) } } f
    simp only [hnvs, hprod]
    exact ⟨h.production, pending_of_marked h.config hconf⟩

theorem command_stored (t : Tag) (f : Frame) {frame : List UInt8}
    (hf : ∀ i : Fin CUSTOM_MAX_DATA_LEN, f i = frame.getD i.val 0)
    (hlen : bleLength frame ≤ frame.length) :
    stored (command t f).1.storage =
      valueNow (stored t.storage)
        (if t.svc.bool_UserAuthorization = true then bleCarries frame else []) := by
  unfold command
  cases hauth : t.svc.bool_UserAuthorization with
  | false =>
    simp only [if_true, (loginCommand_records t f).1, Bool.false_eq_true, if_false, valueNow_nil]
  | true =>
    simp only [Bool.true_eq_false, if_false, if_true]
    exact authorisedCommand_stored _ f hf hlen

/-- The reply and the end of the run change no record but for what is saved. -/
theorem handleFrame_records (t : Tag) (c : Conn) (f : Frame) (io : ParseIo) :
    (handleFrame t c f io).1.storage =
        (flushDynamic (flushConfig (command t f).1 io.configRc) io.dynamicRc).storage ∧
      (handleFrame t c f io).1.time = (command t f).1.time := by
  have hend : ∀ (u : Tag) (reply : Reply),
      (endOfRun u reply).storage = u.storage ∧ (endOfRun u reply).time = u.time := by
    intro u reply
    unfold endOfRun
    split <;> exact ⟨rfl, rfl⟩
  have htime : ∀ (u : Tag) (rc drc : Int), (flushDynamic (flushConfig u rc) drc).time = u.time := by
    intro u rc drc
    unfold flushDynamic flushConfig
    split_ifs <;> rfl
  unfold handleFrame
  simp only [hend, htime, flush_storage]
  unfold bleCustomServiceSendNotification
  simp only
  split_ifs <;> exact ⟨rfl, rfl⟩

theorem carried_parse_idle {t : Tag} {io : ParseIo} (h : executes t = none) :
    carried t (.parseAndReply io) = [] := by
  simp [carried, h]

/-- A run of the handler sets what its frame carries, and saves it. -/
theorem parse_stored (t : Tag) (io : ParseIo) (hfull : FullLength t (.parseAndReply io))
    (hio : WritesSucceed (.parseAndReply io)) (h : InSync t.storage) :
    let u := (bleParseAndReplyWorkHandler t io).1
    InSync u.storage ∧
      stored u.storage = valueNow (stored t.storage) (carried t (.parseAndReply io)) := by
  cases hex : executes t with
  | none =>
    rw [parse_idle t io hex, carried_parse_idle hex]
    exact ⟨h, rfl⟩
  | some c =>
    have hne : executes t ≠ none := by simp [hex]
    obtain ⟨hprod, hconf⟩ := command_pending (btConnRef (takeFrame t) c) (takenFrame t) h
    have hsets := command_stored (btConnRef (takeFrame t) c) (takenFrame t) (takenFrame_eq t)
      (hfull hne)
    have hcarried : carried t (.parseAndReply io) =
        if t.svc.bool_UserAuthorization = true then bleCarries (received t) else [] := by
      simp [carried, hex]
    simp only [parse_busy t c io hex, (handleFrame_records _ c (takenFrame t) io).1]
    refine ⟨flush_inSync _ hio.1 hprod hconf, ?_⟩
    rw [flush_storage, hcarried]
    exact hsets

theorem send_reply (t : Tag) (c : Conn) {data : List UInt8} (io : NotifyIo)
    (h : data.length ≤ CUSTOM_MAX_DATA_LEN) :
    readNotifyChar (bleCustomServiceSendNotification t c data io).1 CUSTOM_MAX_DATA_LEN 0 = data ∧
      ∀ d, (bleCustomServiceSendNotification t c data io).2.2 = some d → d.2 = data := by
  unfold bleCustomServiceSendNotification
  rw [if_neg (Nat.not_lt.mpr h)]
  simp only
  split_ifs
  · exact ⟨slice_memcpy _ h, fun d hd => absurd hd (by simp)⟩
  · exact ⟨slice_memcpy _ h, fun d hd => absurd hd (by simp)⟩
  · refine ⟨slice_memcpy _ h, ?_⟩
    intro d hd
    cases hd
    rfl
  · exact ⟨slice_memcpy _ h, fun d hd => absurd hd (by simp)⟩

/-- The reply of the command is what can be read afterwards, and what is notified. -/
theorem handleFrame_reply (t : Tag) (c : Conn) (f : Frame) (io : ParseIo)
    (h : (command t f).2.local_reply_buf.length ≤ CUSTOM_MAX_DATA_LEN) :
    readNotifyChar (handleFrame t c f io).1 CUSTOM_MAX_DATA_LEN 0 =
        (command t f).2.local_reply_buf ∧
      ∀ d, (handleFrame t c f io).2 = some d → d.2 = (command t f).2.local_reply_buf := by
  have hend : ∀ (u : Tag) (reply : Reply) (rc drc : Int),
      readNotifyChar (endOfRun (flushDynamic (flushConfig u rc) drc) reply)
        CUSTOM_MAX_DATA_LEN 0 = readNotifyChar u CUSTOM_MAX_DATA_LEN 0 := by
    intro u reply rc drc
    unfold endOfRun flushDynamic flushConfig
    split_ifs <;> rfl
  obtain ⟨hread, hsent⟩ := send_reply (command t f).1 c io.notify h
  unfold handleFrame
  simp only [hend]
  exact ⟨hread, hsent⟩

/-- A read command answers with the values in the records. -/
theorem authorisedCommand_answer (t : Tag) (f : Frame) {frame answer : List UInt8}
    (hf : ∀ i : Fin CUSTOM_MAX_DATA_LEN, f i = frame.getD i.val 0)
    (h : bleAnswer (stored t.storage) frame = some answer) :
    (authorisedCommand t f).2.local_reply_buf = answer ∧
      answer.length ≤ CUSTOM_MAX_DATA_LEN := by
  have h0 : f 0 = frame.getD 0 0 := hf 0
  have h1 : f 1 = frame.getD 1 0 := hf 1
  unfold bleAnswer at h
  unfold authorisedCommand
  rw [h0]
  cases hcmd : Command.ofByte (frame.getD 0 0) with
  | none =>
    rw [hcmd] at h
    cases h
  | some cmd =>
    rw [hcmd] at h
    cases cmd with
    | READ_ASSOCIATION_PARA =>
      simp only [Option.ite_none_right_eq_some, Option.some.injEq] at h
      obtain ⟨hsub, rfl⟩ := h
      simp only [h1, hsub, if_true]
      exact ⟨rfl, by simp [stored, le16, CUSTOM_MAX_DATA_LEN]⟩
    | READ_ENERGY_SAVING_PARA =>
      simp only [Option.some.injEq] at h
      subst h
      exact ⟨rfl, by simp [stored, le16, CUSTOM_MAX_DATA_LEN]⟩
    | _ => cases h

theorem command_answer (t : Tag) (f : Frame) {frame answer : List UInt8}
    (hf : ∀ i : Fin CUSTOM_MAX_DATA_LEN, f i = frame.getD i.val 0)
    (hauth : t.svc.bool_UserAuthorization = true)
    (h : bleAnswer (stored t.storage) frame = some answer) :
    (command t f).2.local_reply_buf = answer ∧ answer.length ≤ CUSTOM_MAX_DATA_LEN := by
  unfold command
  rw [if_neg (by simp [hauth])]
  exact authorisedCommand_answer _ f hf h

theorem passwordMatches_iff (t : Tag) (f : Frame) {frame : List UInt8}
    (hf : ∀ i : Fin CUSTOM_MAX_DATA_LEN, f i = frame.getD i.val 0) (hlen : 17 ≤ frame.length) :
    passwordMatches t f = true ↔ field frame 1 16 = stored t.storage .password := by
  have hfield : listOf (window f 1 MAX_PASSWORD_SIZE (by decide)) = field frame 1 16 :=
    listOf_window _ (fun i _ => hf i) hlen
  unfold passwordMatches
  rw [decide_eq_true_eq, ← hfield]
  constructor
  · intro heq
    rw [heq]
    rfl
  · intro heq
    exact listOf_injective heq

/-- The commands of a run of the handler see the records as they are. -/
theorem parse_readsGive (t : Tag) (io : ParseIo) (hfull : FullLength t (.parseAndReply io)) :
    ReadsGive (stored t.storage) t (.parseAndReply io) := by
  intro hex
  obtain ⟨c, hc⟩ := Option.ne_none_iff_exists'.mp hex
  constructor
  · intro hauth answer hanswer
    obtain ⟨hreply, hshort⟩ := command_answer (btConnRef (takeFrame t) c) (takenFrame t)
      (takenFrame_eq t) hauth hanswer
    obtain ⟨hread, hsent⟩ := handleFrame_reply (btConnRef (takeFrame t) c) c (takenFrame t) io
      (by rw [hreply]; exact hshort)
    rw [hreply] at hread hsent
    rw [next, parse_busy t c io hc]
    exact ⟨hread, hsent⟩
  · intro hauth
    rw [next, parse_authorization, hauth, hc]
    simp only [Bool.false_or, Option.isSome_some, Bool.true_and, isLogin, Bool.and_eq_true,
      decide_eq_true_eq]
    have h0 : takenFrame t 0 = (received t).getD 0 0 := takenFrame_eq t 0
    rw [h0]
    apply and_congr_right
    intro hlogin
    apply passwordMatches_iff t _ (takenFrame_eq t)
    have hlen := hfull hex
    have hnone : Command.ofByte PROVIDE_PASSWORD = none := by decide
    unfold bleLength at hlen
    rw [hlogin, hnone] at hlen
    simpa using hlen

/-! ## One production command -/

theorem boot_storage (board : Board) (nvs : Nvs) (retained : RetainedTimeBlock) (io : BootIo) :
    (boot board nvs retained io).storage =
      (appStorageVerifyAndLoad (atReset nvs) board.ficr io.load).1 := by
  unfold boot
  simp only
  split
  · rfl
  · split <;> rfl

/-- A restart brings the parameters back from flash. -/
theorem sysReboot_stored (t : Tag) {io : BootIo} (hio : io.load.Succeeds) (h : InSync t.storage) :
    InSync (sysReboot t io).storage ∧ stored (sysReboot t io).storage = stored t.storage := by
  obtain ⟨hprod, hconf⟩ := appStorageVerifyAndLoad_settings h t.board.ficr io.load
  unfold sysReboot
  rw [boot_storage]
  refine ⟨(appStorageVerifyAndLoad_inSync t.storage.nvs t.board.ficr hio).1, ?_⟩
  funext p
  cases p <;> simp only [stored, hprod, hconf]

/-- A valid frame is executed on the tag as it is, but for the timer of the UART. -/
theorem toolMsg_executed (t : Tag) (data : UartBuf) (len : Nat) (io : ToolIo) (bootIo : BootIo)
    (hlen : 2 ≤ len) (hsum : checksumValid data len = true) :
    ∃ u : Tag, u.storage = t.storage ∧ u.time = t.time ∧
      processProductionMsg t data len io bootIo =
        (if (toolCommand u data).2.2 = true then sysReboot (toolCommand u data).1 bootIo
          else flushTool (toolCommand u data).1 io, (toolCommand u data).2.1) := by
  exact ⟨keptAwake t, rfl, rfl, toolMsg_valid t data len io bootIo hlen hsum⟩

theorem toolMsg_stored (t : Tag) (data : UartBuf) (len : Nat) (io : ToolIo) (bootIo : BootIo)
    (hfull : FullLength t (.toolMsg data len io bootIo))
    (hio : WritesSucceed (.toolMsg data len io bootIo)) (h : InSync t.storage) :
    let u := (processProductionMsg t data len io bootIo).1
    InSync u.storage ∧
      stored u.storage = valueNow (stored t.storage) (carried t (.toolMsg data len io bootIo)) := by
  obtain ⟨htool, hboot⟩ := hio
  by_cases hvalid : 2 ≤ len ∧ checksumValid data len = true
  · obtain ⟨u, hst, _, heq⟩ := toolMsg_executed t data len io bootIo hvalid.1 hvalid.2
    have hsets := toolCommand_stored u data (toolFrame_eq data len) (hfull hvalid.1 hvalid.2)
    have hcarried : carried t (.toolMsg data len io bootIo) = toolCarries (toolFrame data len) :=
      if_pos hvalid
    rw [← hst] at h
    rw [hcarried, ← hst, ← hsets]
    simp only [heq]
    split
    · rename_i hrestart
      obtain ⟨hsame, _⟩ := toolCommand_restart u data hrestart
      exact sysReboot_stored _ hboot (by rw [hsame]; exact h)
    · obtain ⟨hnvs, hprod, hconf⟩ := toolCommand_records u data
      refine ⟨flushTool_inSync htool ?_ ?_, by rw [flushTool_storage]; rfl⟩
      · rw [hnvs]
        exact pending_of_marked h.production hprod
      · rw [hnvs]
        exact pending_of_marked h.config hconf
  · have hcarried : carried t (.toolMsg data len io bootIo) = [] := if_neg hvalid
    rw [hcarried, valueNow_nil]
    rcases toolMsg_ignored t data len io bootIo hvalid with heq | heq
    · simp only [heq]
      exact ⟨h, trivial⟩
    · simp only [heq]
      refine ⟨flushTool_inSync htool (Or.inl h.production) (Or.inl h.config), ?_⟩
      rw [flushTool_storage]
      rfl

/-- A read command of the production tool answers with the values in the records. -/
theorem toolCommand_answer (t : Tag) (data : UartBuf) {frame answer : List UInt8}
    (hf : ∀ i : Fin UART_RX_BUF_SIZE, i.val < frame.length → data i = frame.getD i.val 0)
    (hlen : toolLength frame ≤ frame.length)
    (h : toolAnswer (stored t.storage) frame = some answer) :
    (toolCommand t data).2.1 = some (replyFrame (frame.getD 1 0) answer) := by
  have hthree : 3 ≤ toolLength frame := by
    unfold toolLength
    split <;> omega
  have h1 : data 1 = frame.getD 1 0 := hf 1 (show 1 < frame.length by omega)
  have h2 : data 2 = frame.getD 2 0 := hf 2 (show 2 < frame.length by omega)
  unfold toolAnswer at h
  unfold toolCommand
  simp only [h1, h2]
  cases hcmd : ToolCommand.ofByte (frame.getD 1 0) with
  | none =>
    rw [hcmd] at h
    cases h
  | some cmd =>
    rw [hcmd] at h
    cases cmd with
    | TOOL_READ_SERIAL_OF_DUT_CMD =>
      cases h
      rfl
    | TOOL_READ_MAC_OF_DUT_CMD =>
      cases h
      rfl
    | TOOL_READ_DEVICE_CONFIG =>
      simp only [Option.ite_none_right_eq_some, Option.some.injEq] at h
      obtain ⟨hsub, rfl⟩ := h
      simp only [hsub, if_true]
      rfl
    | _ => cases h

theorem toolMsg_readsGive (t : Tag) (data : UartBuf) (len : Nat) (io : ToolIo) (bootIo : BootIo)
    (hfull : FullLength t (.toolMsg data len io bootIo)) :
    ReadsGive (stored t.storage) t (.toolMsg data len io bootIo) := by
  intro hlen hsum answer hanswer
  obtain ⟨u, hst, _, heq⟩ := toolMsg_executed t data len io bootIo hlen hsum
  rw [heq]
  rw [← hst] at hanswer
  exact toolCommand_answer u data (toolFrame_eq data len) (hfull hlen hsum) hanswer

/-! ## Every step, and every run -/

theorem linkUp_storage (t : Tag) (c : Conn) (id err : Nat) (infoRc : Int) :
    (linkUp t c id err infoRc).storage = t.storage := by
  unfold linkUp custom_services.connected
  simp only
  split_ifs <;> rfl

theorem linkDown_storage (t : Tag) (c : Conn) (io : DisconnectIo) :
    (linkDown t c io).storage = t.storage := by
  unfold linkDown custom_services.disconnected visionBranch releaseConn
  simp only
  split_ifs <;> rfl

theorem stored_of_same {t u : Tag} (h : InSync t.storage) (hst : u.storage = t.storage) :
    InSync u.storage ∧ stored u.storage = stored t.storage := by
  rw [hst]
  exact ⟨h, rfl⟩

theorem stored_of_keeps {t u : Tag} (h : InSync t.storage) (hu : SameButDoze t u) :
    InSync u.storage ∧ stored u.storage = stored t.storage := by
  obtain ⟨refs, doze, rfl⟩ := hu
  exact ⟨h, rfl⟩

/-- Every event sets what it carries, and leaves RAM and flash in step. -/
theorem next_stored (t : Tag) (e : Event) (hfull : FullLength t e) (hio : WritesSucceed e)
    (h : InSync t.storage) :
    InSync (next t e).storage ∧
      stored (next t e).storage = valueNow (stored t.storage) (carried t e) := by
  cases e with
  | connected c id err infoRc => exact stored_of_same h (linkUp_storage t c id err infoRc)
  | disconnected c io => exact stored_of_same h (linkDown_storage t c io)
  | write c buf offset =>
    apply stored_of_same h
    rw [next, writeIncomingChar]
    split <;> rfl
  | parseAndReply io => exact parse_stored t io hfull hio h
  | authorisationTimeout =>
    exact stored_of_keeps (t := { t with svc := { t.svc with authorisation_timout_work := none } })
      h (initiateDisconnect_keeps .done _)
  | connectionTimeout =>
    exact stored_of_keeps (t := { t with svc := { t.svc with connection_timout_work := none } })
      h (initiateDisconnect_keeps .done _)
  | initiateDisconnect => exact stored_of_keeps h (initiateDisconnect_keeps .done t)
  | wake io =>
    rcases wake_keeps t io with hk | hk
    · exact stored_of_keeps h hk
    · rw [next, hk]
      exact sysReboot_stored t hio h
  | toolMsg data len io bootIo => exact toolMsg_stored t data len io bootIo hfull hio h
  | supervisor rc => exact ⟨⟨h.production, h.config⟩, rfl⟩
  | _ => exact ⟨h, rfl⟩

/-- A frame that carries no time zone is no set clock command. -/
theorem bleCarries_clock {frame : List UInt8} (h : ∀ s ∈ bleCarries frame, s.1 ≠ .timeZone) :
    Command.ofByte (frame.getD 0 0) ≠ some .SET_REAL_TIME_CLOCK := by
  intro hcmd
  unfold bleCarries at h
  rw [hcmd] at h
  exact h _ (List.mem_cons_self ..) rfl

theorem toolCarries_clock {frame : List UInt8} (h : ∀ s ∈ toolCarries frame, s.1 ≠ .timeZone) :
    ToolCommand.ofByte (frame.getD 1 0) ≠ some .TOOL_SET_CLOCK_CMD := by
  intro hcmd
  unfold toolCarries at h
  rw [hcmd] at h
  exact h _ (List.mem_cons_self ..) rfl

theorem command_clock (t : Tag) (f : Frame)
    (h : Command.ofByte (f 0) ≠ some .SET_REAL_TIME_CLOCK) :
    (command t f).1.storage.gst_DynamicData = t.storage.gst_DynamicData ∧
      (command t f).1.time = t.time := by
  unfold command
  split
  · obtain ⟨hst, htime⟩ := loginCommand_records t f
    rw [hst, htime]
    exact ⟨rfl, rfl⟩
  · exact authorisedCommand_clock _ f h

theorem parse_clock (t : Tag) (io : ParseIo) (hsets : carried t (.parseAndReply io) ≠ [])
    (h : ∀ s ∈ carried t (.parseAndReply io), s.1 ≠ .timeZone) :
    (next t (.parseAndReply io)).storage.gst_DynamicData = t.storage.gst_DynamicData ∧
      (next t (.parseAndReply io)).time = t.time := by
  by_cases htakes : executes t ≠ none ∧ t.svc.bool_UserAuthorization = true
  · obtain ⟨c, hc⟩ := Option.ne_none_iff_exists'.mp htakes.1
    have hcarried : carried t (.parseAndReply io) = bleCarries (received t) := if_pos htakes
    rw [hcarried] at h
    have h0 : takenFrame t 0 = (received t).getD 0 0 := takenFrame_eq t 0
    have hcmd := bleCarries_clock h
    rw [← h0] at hcmd
    obtain ⟨hst, htime⟩ := handleFrame_records (btConnRef (takeFrame t) c) c (takenFrame t) io
    obtain ⟨hdyn, hclock⟩ := command_clock (btConnRef (takeFrame t) c) (takenFrame t) hcmd
    rw [next, parse_busy t c io hc, hst, htime, flush_storage]
    exact ⟨hdyn, hclock⟩
  · exact absurd (if_neg htakes) hsets

/-- A production command that carries no time does not set the clock, and one that carries
anything does not restart the tag. -/
theorem toolMsg_clock (t : Tag) (data : UartBuf) (len : Nat) (io : ToolIo) (bootIo : BootIo)
    (hsets : carried t (.toolMsg data len io bootIo) ≠ [])
    (h : ∀ s ∈ carried t (.toolMsg data len io bootIo), s.1 ≠ .timeZone) :
    let u := (processProductionMsg t data len io bootIo).1
    u.storage.gst_DynamicData = t.storage.gst_DynamicData ∧ u.time = t.time := by
  by_cases hvalid : 2 ≤ len ∧ checksumValid data len = true
  · have hcarried : carried t (.toolMsg data len io bootIo) = toolCarries (toolFrame data len) :=
      if_pos hvalid
    rw [hcarried] at h hsets
    obtain ⟨u, hst, htime, heq⟩ := toolMsg_executed t data len io bootIo hvalid.1 hvalid.2
    have h1 : data 1 = (toolFrame data len).getD 1 0 := by
      apply toolFrame_eq data len 1
      simp only [toolFrame, List.length_take, listOf_length]
      exact Nat.lt_min.mpr ⟨hvalid.1, by decide⟩
    have hcmd := toolCarries_clock h
    rw [← h1] at hcmd
    obtain ⟨hdyn, hclock⟩ := toolCommand_clock u data hcmd
    have hstays : (toolCommand u data).2.2 ≠ true := by
      intro hrestart
      obtain ⟨_, hreset⟩ := toolCommand_restart u data hrestart
      apply hsets
      rw [h1] at hreset
      unfold toolCarries
      rw [hreset]
    simp only [heq, if_neg hstays]
    rw [flushTool_storage, flushTool_time, ← hst, ← htime]
    exact ⟨hdyn, hclock⟩
  · exact absurd (if_neg hvalid) hsets

/-- A set command that carries no time leaves the clock alone. -/
theorem next_clock (t : Tag) (e : Event) (hsets : carried t e ≠ [])
    (h : ∀ s ∈ carried t e, s.1 ≠ .timeZone) :
    (next t e).storage.gst_DynamicData = t.storage.gst_DynamicData ∧ (next t e).time = t.time := by
  cases e with
  | parseAndReply io => exact parse_clock t io hsets h
  | toolMsg data len io bootIo => exact toolMsg_clock t data len io bootIo hsets h
  | _ => exact absurd rfl hsets

theorem readsGive_next (t : Tag) (e : Event) (hfull : FullLength t e) :
    ReadsGive (stored t.storage) t e := by
  cases e with
  | parseAndReply io => exact parse_readsGive t io hfull
  | toolMsg data len io bootIo => exact toolMsg_readsGive t data len io bootIo hfull
  | _ => trivial

/-- The tag with a log of what was set, the latest first. -/
def recorded : runs.System (Tag × List (Param × List UInt8)) Event :=
  system.watch [] (fun log t e => carried t e ++ log)

/-- A boot whose writes succeed. -/
def BootsWell (t : Tag) : Prop :=
  ∃ board nvs retained io, io.load.Succeeds ∧ t = boot board nvs retained io

/-- RAM and flash are in step, and hold what was set last. -/
def Agrees (before : Param → List UInt8) (p : Tag × List (Param × List UInt8)) : Prop :=
  InSync p.1.storage ∧ stored p.1.storage = valueNow before p.2

theorem agrees_next (before : Param → List UInt8) (p : Tag × List (Param × List UInt8))
    (e : Event) (h : Agrees before p) (hfull : FullLength p.1 e) (hio : WritesSucceed e) :
    (ReadsGive (valueNow before p.2) p.1 e ∧ KeepsOthers p.1 e) ∧
      Agrees before (recorded.next p e) := by
  obtain ⟨hsync, hvalue⟩ := h
  obtain ⟨hsync', hnext⟩ := next_stored p.1 e hfull hio hsync
  have hreads := readsGive_next p.1 e hfull
  rw [hvalue] at hreads
  refine ⟨⟨hreads, ?_, next_clock p.1 e⟩, hsync', ?_⟩
  · intro q hq
    rw [hnext, valueNow_of_not_set _ hq]
  · calc stored (next p.1 e).storage
        = valueNow (stored p.1.storage) (carried p.1 e) := hnext
      _ = valueNow (valueNow before p.2) (carried p.1 e) := by rw [hvalue]
      _ = valueNow before (carried p.1 e ++ p.2) := (valueNow_append before _ _).symm

/-- Whatever is set over one channel is read over the other, before and after any restart:
each read command and each login go by the latest set command for their parameter, or by
what the boot loaded, and no set command changes another parameter. -/
theorem reads_give_the_latest_set (t : Tag) (es : List Event) (hboot : BootsWell t)
    (h : system.Steps (fun t e => FullLength t e ∧ WritesSucceed e) t es) :
    recorded.Steps
      (fun p e => ReadsGive (valueNow (stored t.storage) p.2) p.1 e ∧ KeepsOthers p.1 e)
      (t, []) es := by
  obtain ⟨board, nvs, retained, io, hio, rfl⟩ := hboot
  have hstart : Agrees (stored (boot board nvs retained io).storage)
      (boot board nvs retained io, []) := by
    refine ⟨?_, rfl⟩
    rw [boot_storage]
    exact (appStorageVerifyAndLoad_inSync nvs board.ficr hio).1
  exact (runs.System.steps_of_invariant
    (fun p e hp hgood => agrees_next _ p e hp hgood.1 hgood.2) hstart
    ((system.watch_steps [] _ _ es).mpr h)).1

/-- The production tool sets the clock, with a time zone of an hour, and restarts the tag. A
client then logs in and reads the time zone. -/
theorem a_zone_set_over_the_uart_is_read_over_ble :
    recorded.Steps
      (fun p e => ReadsGive (valueNow (stored factoryTag.storage) p.2) p.1 e ∧ KeepsOthers p.1 e)
      (factoryTag, [])
      [.toolMsg (padded _ [8, 0x21, 0, 0, 0, 0, 60, 0, 155]) 9 quietBoot.load quietBoot,
        .toolMsg (padded _ [2, 1, 253]) 3 quietBoot.load quietBoot, .customStart 0,
        .connected 0 2 0 0, .write 0 loginFrame 0, .parseAndReply quietRun,
        .write 0 [169, 6] 0, .parseAndReply quietRun] :=
  reads_give_the_latest_set factoryTag _ ⟨_, _, _, _, by decide, rfl⟩ (by decide +kernel)

end smart_track.settings
