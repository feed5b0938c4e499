-- Settings in RAM and in flash. A handler that changes a record marks it, takes
-- the mark back and then writes; the code of the write is ignored, so a record
-- whose write fails differs from flash without a mark.
import SmartTrack.Loading
import SmartTrack.Settings

open bytes smart_track.zephyr smart_track.production smart_track.storage smart_track.tag
  smart_track.custom_services smart_track.loading smart_track.settings
open smart_track.time_manager (RetainedTimeBlock)
open smart_track.provenance (loginFrame quietRun)

namespace smart_track.saved_settings

/-! ## The law and its condition -/

/-- Flash has the bytes of the record, or a mark says that it is still to be written. -/
def Kept {α : Type} (slot : Slot α) (nvs : Nvs) (r : α) (dirty : Bool) : Prop :=
  nvs slot.key = some (slot.layout.toBytes r) ∨ dirty = true

/-- The settings in RAM and in flash have not drifted apart, and the next boot brings them
back. -/
structure NoDrift (t : Tag) : Prop where
  production : Kept productionSlot t.storage.nvs t.storage.gst_ProductionData
    t.tool.bool_ProductionDataWrite
  config : Kept configSlot t.storage.nvs t.storage.gst_ConfigData
    (t.svc.bool_ConfigDataWrite || t.tool.bool_ConfigDataWrite)
  survives : ∀ io, (sysReboot t io).storage.gst_ProductionData = t.storage.gst_ProductionData ∧
    (sysReboot t io).storage.gst_ConfigData = t.storage.gst_ConfigData

/-- An authorised command that changes the configuration. -/
def BleChanges (config : ConfigData) (f : Frame) : Prop :=
  match Command.ofByte (f 0) with
  | some .SET_REAL_TIME_CLOCK => ofLe16 (f 5) (f 6) ≠ config.s16_TimeZoneOffset
  | some .SET_ADV_PERIOD =>
    (100 ≤ ofLe16 (f 1) (f 2) ∧ ofLe16 (f 1) (f 2) ≤ 5000) ∧
      ofLe16 (f 1) (f 2) ≠ config.mu16_AdvertismentInterval
  | some .SET_ENERGY_SAVE_TIME =>
    f 1 = GLOBAL_ENERGY_SAVE_CONFIG1 ∧
      ¬ (ofLe16 (f 2) (f 3) = config.energy_save_para.u16_StartMinutes ∧
        ofLe16 (f 4) (f 5) = config.energy_save_para.u16_EndMinutes)
  | _ => False

theorem password_fits : 2 + MAX_PASSWORD_SIZE ≤ UART_RX_BUF_SIZE := by decide

theorem serial_fits : 2 + SR_NUM_SIZE ≤ UART_RX_BUF_SIZE := by decide

theorem mac_fits : 2 + BLE_GAP_ADDR_LEN ≤ UART_RX_BUF_SIZE := by decide

theorem model_fits : 3 + MODEL_NUMBER_LEN ≤ UART_RX_BUF_SIZE := by decide

/-- A production command that changes the production record. -/
def ToolChangesProduction (prod : ProductionData) (data : UartBuf) : Prop :=
  match ToolCommand.ofByte (data 1) with
  | some .TOOL_SET_DEFULT_PASSW =>
    window data 2 MAX_PASSWORD_SIZE password_fits ≠ prod.mu8ar_Password
  | some .TOOL_SET_SERIAL_OF_DUT_CMD =>
    window data 2 SR_NUM_SIZE serial_fits ≠ prod.mu8_SerialNumber
  | some .TOOL_SET_MAC_OF_DUT_CMD =>
    reversed (window data 2 BLE_GAP_ADDR_LEN mac_fits) ≠ prod.mu8ar_MACAddr
  | some .TOOL_SET_DEVICE_CONFIG =>
    data 2 = 0 ∧ window data 3 MODEL_NUMBER_LEN model_fits ≠ prod.mu8ar_ModelNumber
  | _ => False

/-- A production command that changes the configuration. -/
def ToolChangesConfig (config : ConfigData) (data : UartBuf) : Prop :=
  ToolCommand.ofByte (data 1) = some .TOOL_SET_CLOCK_CMD ∧
    ofLe16 (data 6) (data 7) ≠ config.s16_TimeZoneOffset

/-- The write of a record that a command changes succeeds. -/
def WritesLand (t : Tag) : Event → Prop
  | .parseAndReply io =>
    executes t ≠ none → t.svc.bool_UserAuthorization = true →
      BleChanges t.storage.gst_ConfigData (takenFrame t) → 0 ≤ io.configRc
  | .toolMsg data len io _ =>
    2 ≤ len → checksumValid data len = true →
      (ToolChangesProduction t.storage.gst_ProductionData data → 0 ≤ io.productionRc) ∧
        (ToolChangesConfig t.storage.gst_ConfigData data → 0 ≤ io.configRc)
  | _ => True

/-- A boot leaves flash with the record that it loads: what it takes has the length of the
record, and the write of the defaults succeeds. -/
def LoadsInStep {α : Type} (slot : Slot α) (nvs : Nvs) (rc : Int) : Prop :=
  Complete slot nvs (slot.layout.ofBytes []) ∧
    (¬ Takes slot nvs (slot.layout.ofBytes []) → 0 ≤ rc)

/-! ## What the commands change -/

theorem authorisedCommand_changes (t : Tag) (f : Frame) :
    (authorisedCommand t f).1.storage.gst_ConfigData ≠ t.storage.gst_ConfigData ↔
      BleChanges t.storage.gst_ConfigData f := by
  unfold authorisedCommand BleChanges
  cases Command.ofByte (f 0) with
  | none => simp
  | some cmd =>
    cases cmd with
    | SET_REAL_TIME_CLOCK => simp [syncSetUtc, setClockRecords, ConfigData.ext_iff]
    | SET_ADV_PERIOD =>
      simp only
      split
      · rename_i hrange
        simp [setAdvPeriod, hrange, ConfigData.ext_iff]
      · rename_i hrange
        simp [hrange]
    | SET_ENERGY_SAVE_TIME =>
      simp only
      split
      · rename_i hsub
        simp [setEnergySave, hsub, ConfigData.ext_iff, EnergySavePara.ext_iff]
      · rename_i hsub
        simp [hsub]
    | _ =>
      simp only
      try split
      all_goals simp [appDfuEnterModeCustom]

theorem toolCommand_changes (t : Tag) (data : UartBuf) :
    ((toolCommand t data).1.storage.gst_ProductionData ≠ t.storage.gst_ProductionData ↔
        ToolChangesProduction t.storage.gst_ProductionData data) ∧
      ((toolCommand t data).1.storage.gst_ConfigData ≠ t.storage.gst_ConfigData ↔
        ToolChangesConfig t.storage.gst_ConfigData data) := by
  unfold toolCommand ToolChangesProduction ToolChangesConfig
  cases ToolCommand.ofByte (data 1) with
  | none => simp
  | some cmd =>
    cases cmd with
    | TOOL_SET_CLOCK_CMD =>
      simp [reply, setClock, syncSetUtc, setClockRecords, ConfigData.ext_iff]
    | TOOL_SET_DEVICE_CONFIG =>
      simp only
      split
      · rename_i hsub
        simp [reply, setProduction, hsub, ProductionData.ext_iff]
      · rename_i hsub
        simp [reply, hsub]
    | TOOL_READ_DEVICE_CONFIG =>
      simp only
      split <;> simp [reply]
    | _ => simp [reply, setProduction, ProductionData.ext_iff]

/-! ## What a save leaves in flash -/

section save

variable {α β : Type} {slot : Slot α} {other : Slot β} {nvs nvs' : Nvs} {r s : α}

theorem stored_congr (slot : Slot α) (hkey : nvs' slot.key = nvs slot.key) :
    Stored slot nvs' r ↔ Stored slot nvs r := by
  constructor
  · intro h
    exact ⟨hkey ▸ h.bytes, h.magic_ok⟩
  · intro h
    exact ⟨hkey.trans h.bytes, h.magic_ok⟩

theorem stored_holds (h : Stored slot nvs r) : slot.Holds nvs r := by
  have hread := readNvsData_of_bytes nvs slot.key slot.layout (slot.layout.ofBytes []) r h.bytes
  refine ⟨?_, ?_, h.magic_ok⟩
  · rw [hread]
    exact Int.natCast_nonneg _
  · rw [hread]

theorem stored_unique (h : Stored slot nvs r) (hs : nvs slot.key = some (slot.layout.toBytes s)) :
    s = r := by
  have hbytes := h.bytes
  rw [hs, Option.some.injEq] at hbytes
  calc s = slot.layout.ofBytes (slot.layout.toBytes s) := (slot.layout.ofBytes_toBytes s).symm
    _ = slot.layout.ofBytes (slot.layout.toBytes r) := by rw [hbytes]
    _ = r := slot.layout.ofBytes_toBytes r

theorem saveMarked_key (slot : Slot α) (nvs : Nvs) (r : α) (rc : Int) (dirty : Bool) (key : Nat)
    (h : key ≠ slot.key) : saveMarked slot nvs r rc dirty key = nvs key := by
  unfold saveMarked
  split
  · exact writeNvsData_other nvs _ rc h
  · rfl

/-- A save brings flash up to a changed record just when its write succeeds. -/
theorem saveMarked_stored (slot : Slot α) (rc : Int) {dirty : Bool} (h : Stored slot nvs r)
    (hs : s = r ∨ dirty = true ∧ slot.magicOf s = slot.magicOf r) :
    Stored slot (saveMarked slot nvs s rc dirty) s ↔ (s ≠ r → 0 ≤ rc) := by
  by_cases hrc : 0 ≤ rc
  · refine iff_of_true ?_ (fun _ => hrc)
    unfold saveMarked
    split
    · refine ⟨writeNvsData_self nvs slot.key _ hrc, ?_⟩
      rcases hs with rfl | ⟨_, hmagic⟩
      · exact h.magic_ok
      · exact hmagic.trans h.magic_ok
    · rename_i hclean
      rcases hs with rfl | ⟨hdirty, _⟩
      · exact h
      · exact absurd hdirty hclean
  · -- The write fails, and flash has the old record.
    have hflash : saveMarked slot nvs s rc dirty = nvs := by
      unfold saveMarked Slot.save writeNvsData
      rw [if_pos (Int.not_le.mp hrc), ite_self]
    rw [hflash]
    constructor
    · intro hnew hne
      exact absurd (stored_unique h hnew.bytes) hne
    · intro hsame
      have hsr : s = r := by
        by_contra hne
        exact hrc (hsame hne)
      rw [hsr]
      exact h

end save

/-! ## Between two handlers -/

/-- No record is marked. -/
structure Unmarked (t : Tag) : Prop where
  production : t.tool.bool_ProductionDataWrite = false
  config : t.tool.bool_ConfigDataWrite = false
  ble_config : t.svc.bool_ConfigDataWrite = false

/-- Both records are in flash, with their magic numbers. -/
structure Saved (st : Storage) : Prop where
  production : Stored productionSlot st.nvs st.gst_ProductionData
  config : Stored configSlot st.nvs st.gst_ConfigData

/-- Whatever a check comes to, the record in RAM has its magic number. -/
theorem verifyAndLoad_magic {α : Type} (slot : Slot α) (nvs : Nvs) (ram : α) (rc : Int)
    (hdef : slot.magicOf slot.defaults = slot.magic) :
    slot.magicOf (slot.verifyAndLoad nvs ram rc).ram = slot.magic := by
  unfold Slot.verifyAndLoad
  simp only
  split
  · exact hdef
  · rename_i hgood
    exact not_not.mp (not_or.mp hgood).2

theorem boot_magic (t : Tag) (io : BootIo) (hio : io.load.Succeeds) :
    (sysReboot t io).storage.gst_ProductionData.mu16_MagicNumber = PRODUCTION_MAGIC_NUMBER ∧
      (sysReboot t io).storage.gst_ConfigData.mu16_MagicNumber = CONFIG_MAGIC_NUMBER := by
  have hload := appStorageVerifyAndLoad_eq (atReset t.storage.nvs) t.board.ficr hio
  unfold sysReboot
  rw [boot_storage, hload]
  exact ⟨verifyAndLoad_magic productionSlot _ _ _ rfl, verifyAndLoad_magic configSlot _ _ _ rfl⟩

/-- While no record is marked, the settings have not drifted apart just when both records are
in flash. -/
theorem noDrift_iff_saved {t : Tag} (h : Unmarked t) : NoDrift t ↔ Saved t.storage := by
  constructor
  · intro hd
    obtain ⟨hprod, hconf⟩ := hd.survives quietBoot
    obtain ⟨hprodMagic, hconfMagic⟩ := boot_magic t quietBoot (by decide)
    rw [hprod] at hprodMagic
    rw [hconf] at hconfMagic
    refine ⟨⟨?_, hprodMagic⟩, ⟨?_, hconfMagic⟩⟩
    · rcases hd.production with hbytes | hmark
      · exact hbytes
      · rw [h.production] at hmark
        contradiction
    · rcases hd.config with hbytes | hmark
      · exact hbytes
      · rw [h.ble_config, h.config] at hmark
        contradiction
  · intro hs
    refine ⟨Or.inl hs.production.bytes, Or.inl hs.config.bytes, ?_⟩
    intro io
    have hsync : InSync t.storage := ⟨stored_holds hs.production, stored_holds hs.config⟩
    have hboot := appStorageVerifyAndLoad_settings hsync t.board.ficr io.load
    unfold sysReboot
    rw [boot_storage]
    exact hboot

theorem saved_of_nvs (st : Storage) (nvs : Nvs) (hprod : nvs PRODUCTION_DATA_KEY =
      st.nvs PRODUCTION_DATA_KEY) (hconf : nvs CONFIG_DATA_KEY = st.nvs CONFIG_DATA_KEY) :
    Saved { st with nvs := nvs } ↔ Saved st := by
  constructor
  · intro h
    exact ⟨(stored_congr productionSlot hprod).mp h.production,
      (stored_congr configSlot hconf).mp h.config⟩
  · intro h
    exact ⟨(stored_congr productionSlot hprod).mpr h.production,
      (stored_congr configSlot hconf).mpr h.config⟩

/-! ## The boot -/

/-- One check leaves its record in flash just when it loads in step. -/
theorem verifyAndLoad_stored {α : Type} (slot : Slot α) (hexact : slot.layout.Exact)
    (hdef : slot.magicOf slot.defaults = slot.magic) (nvs : Nvs) (rc : Int) :
    Stored slot (slot.verifyAndLoad nvs (slot.layout.ofBytes []) rc).nvs
        (slot.verifyAndLoad nvs (slot.layout.ofBytes []) rc).ram ↔ LoadsInStep slot nvs rc := by
  unfold LoadsInStep
  by_cases htakes : Takes slot nvs (slot.layout.ofBytes [])
  · rw [verifyAndLoad_takes htakes, stored_iff hexact htakes]
    simp [Complete, htakes]
  · by_cases hrc : 0 ≤ rc
    · rw [verifyAndLoad_default htakes hrc]
      refine iff_of_true ⟨writeNvsData_self nvs slot.key _ hrc, hdef⟩ ?_
      exact ⟨fun h => absurd h htakes, fun _ => hrc⟩
    · -- Flash has what was not taken, so it is not the default record either.
      refine iff_of_false ?_ (fun h => hrc (h.2 htakes))
      intro hs
      apply htakes
      have hload : slot.verifyAndLoad nvs (slot.layout.ofBytes []) rc =
          { ram := slot.defaults, nvs := nvs, valid := false, rc := rc } := by
        unfold Slot.verifyAndLoad Slot.save writeNvsData
        have hbad : (readNvsData nvs slot.key slot.layout (slot.layout.ofBytes [])).1 < 0 ∨
            slot.magicOf (readNvsData nvs slot.key slot.layout (slot.layout.ofBytes [])).2 ≠
              slot.magic := by
          by_contra hgood
          rw [not_or, Int.not_lt, not_not] at hgood
          exact htakes hgood
        simp only [if_pos hbad, if_pos (Int.not_le.mp hrc)]
      rw [hload] at hs
      have hread := readNvsData_of_bytes nvs slot.key slot.layout (slot.layout.ofBytes [])
        slot.defaults hs.bytes
      unfold Takes
      rw [hread]
      exact ⟨Int.natCast_nonneg _, hdef⟩

section load

variable (nvs : Nvs) (ficr : Ficr) (io : LoadIo)

/-- The later checks leave the keys of the earlier ones alone. -/
theorem dynamic_key (key : Nat) (h : key ≠ DYNAMIC_DATA_KEY) :
    (countReset (dynamicSlot.verifyAndLoad nvs (dynamicLayout.ofBytes []) io.dynamicRc)
      io.dynamicRc).nvs key = nvs key := by
  rw [countReset_key _ _ h, dynamicSlot.verifyAndLoad_key _ _ _ h]

/-- The check of the production record is the last that touches it, in RAM and in flash. -/
theorem load_production :
    let prod := productionSlot.verifyAndLoad nvs (productionLayout.ofBytes []) io.productionRc
    let st := (appStorageVerifyAndLoad (atReset nvs) ficr io).1
    st.gst_ProductionData = prod.ram ∧
      st.nvs PRODUCTION_DATA_KEY = prod.nvs PRODUCTION_DATA_KEY := by
  intro prod
  let config := configSlot.verifyAndLoad prod.nvs (configLayout.ofBytes []) io.configRc
  have hconf : config.nvs PRODUCTION_DATA_KEY = prod.nvs PRODUCTION_DATA_KEY :=
    configSlot.verifyAndLoad_key prod.nvs _ _ (by decide)
  have hdyn := (dynamic_key config.nvs io PRODUCTION_DATA_KEY (by decide)).trans hconf
  unfold appStorageVerifyAndLoad
  by_cases hprodRc : prod.rc < 0
  · simp [prod, atReset, hprodRc]
  by_cases hconfRc : config.rc < 0
  · simpa [prod, config, atReset, hprodRc, hconfRc] using hconf
  by_cases hdynRc : (countReset (dynamicSlot.verifyAndLoad config.nvs (dynamicLayout.ofBytes [])
      io.dynamicRc) io.dynamicRc).rc < 0
  all_goals simpa [prod, config, atReset, hprodRc, hconfRc, hdynRc] using hdyn

/-- The same of the configuration, if the boot comes to it. -/
theorem load_config
    (h : (productionSlot.verifyAndLoad nvs (productionLayout.ofBytes []) io.productionRc).rc = 0) :
    let prod := productionSlot.verifyAndLoad nvs (productionLayout.ofBytes []) io.productionRc
    let config := configSlot.verifyAndLoad prod.nvs (configLayout.ofBytes []) io.configRc
    let st := (appStorageVerifyAndLoad (atReset nvs) ficr io).1
    st.gst_ConfigData = config.ram ∧ st.nvs CONFIG_DATA_KEY = config.nvs CONFIG_DATA_KEY := by
  intro prod config
  have hdyn := dynamic_key config.nvs io CONFIG_DATA_KEY (by decide)
  unfold appStorageVerifyAndLoad
  by_cases hconfRc : config.rc < 0
  · simp [prod, config, atReset, h, hconfRc]
  by_cases hdynRc : (countReset (dynamicSlot.verifyAndLoad config.nvs (dynamicLayout.ofBytes [])
      io.dynamicRc) io.dynamicRc).rc < 0
  all_goals simpa [prod, config, atReset, h, hconfRc, hdynRc] using hdyn

end load

theorem verifyAndLoad_rc_of_step {α : Type} {slot : Slot α} {nvs : Nvs} {rc : Int}
    (h : LoadsInStep slot nvs rc) :
    (slot.verifyAndLoad nvs (slot.layout.ofBytes []) rc).rc = 0 := by
  by_cases htakes : Takes slot nvs (slot.layout.ofBytes [])
  · rw [verifyAndLoad_takes htakes]
  · exact slot.verifyAndLoad_rc nvs _ (h.2 htakes)

theorem loadsInStep_congr {α : Type} {slot : Slot α} {nvs nvs' : Nvs} {rc : Int}
    (hkey : nvs' slot.key = nvs slot.key) : LoadsInStep slot nvs' rc ↔ LoadsInStep slot nvs rc := by
  unfold LoadsInStep Complete
  rw [takes_congr hkey, readNvsData_congr hkey]

/-- A boot has both records in flash just when it loads both in step. -/
theorem saved_boot (board : Board) (nvs : Nvs) (retained : RetainedTimeBlock) (io : BootIo) :
    Saved (boot board nvs retained io).storage ↔
      LoadsInStep productionSlot nvs io.load.productionRc ∧
        LoadsInStep configSlot nvs io.load.configRc := by
  rw [boot_storage]
  obtain ⟨hprod, hprodKey⟩ := load_production nvs board.ficr io.load
  have hprodStored := verifyAndLoad_stored productionSlot productionLayout_exact rfl nvs
    io.load.productionRc
  by_cases hp : LoadsInStep productionSlot nvs io.load.productionRc
  · obtain ⟨hconf, hconfKey⟩ := load_config nvs board.ficr io.load (verifyAndLoad_rc_of_step hp)
    have hconfStored := verifyAndLoad_stored configSlot configLayout_exact rfl
      (productionSlot.verifyAndLoad nvs (productionLayout.ofBytes []) io.load.productionRc).nvs
      io.load.configRc
    rw [loadsInStep_congr (productionSlot.verifyAndLoad_key nvs _ _ (by decide))] at hconfStored
    constructor
    · intro hs
      refine ⟨hp, hconfStored.mp ?_⟩
      have hc := hs.config
      rw [hconf] at hc
      exact (stored_congr configSlot hconfKey).mp hc
    · rintro ⟨_, hc⟩
      constructor
      · rw [hprod]
        exact (stored_congr productionSlot hprodKey).mpr (hprodStored.mpr hp)
      · rw [hconf]
        exact (stored_congr configSlot hconfKey).mpr (hconfStored.mpr hc)
  · refine iff_of_false ?_ (fun h => hp h.1)
    intro hs
    have hs' := hs.production
    rw [hprod] at hs'
    exact hp (hprodStored.mp ((stored_congr productionSlot hprodKey).mp hs'))

/-- What is in flash is loaded in step, whatever the writes of the boot come to. -/
theorem loadsInStep_of_stored {α : Type} {slot : Slot α} {nvs : Nvs} {r : α}
    (h : Stored slot nvs r) (rc : Int) : LoadsInStep slot nvs rc := by
  have hread := readNvsData_of_bytes nvs slot.key slot.layout (slot.layout.ofBytes []) r h.bytes
  refine ⟨fun _ => by rw [hread], fun hno => absurd ?_ hno⟩
  unfold Takes
  rw [hread]
  exact ⟨Int.natCast_nonneg _, h.magic_ok⟩

theorem saved_reboot {t : Tag} (h : Saved t.storage) (io : BootIo) :
    Saved (sysReboot t io).storage :=
  (saved_boot _ _ _ _).mpr ⟨loadsInStep_of_stored h.production _, loadsInStep_of_stored h.config _⟩

/-! ## The handlers -/

/-- The settings and their marks are the same in both. -/
structure SameSettings (t u : Tag) : Prop where
  production : u.storage.gst_ProductionData = t.storage.gst_ProductionData
  config : u.storage.gst_ConfigData = t.storage.gst_ConfigData
  nvs : u.storage.nvs = t.storage.nvs
  ble_mark : u.svc.bool_ConfigDataWrite = t.svc.bool_ConfigDataWrite
  tool : u.tool = t.tool

theorem SameSettings.unmarked {t u : Tag} (h : SameSettings t u) (ht : Unmarked t) : Unmarked u :=
  ⟨by rw [h.tool]; exact ht.production, by rw [h.tool]; exact ht.config,
    by rw [h.ble_mark]; exact ht.ble_config⟩

theorem SameSettings.saved {t u : Tag} (h : SameSettings t u) :
    Saved u.storage ↔ Saved t.storage := by
  constructor
  · rintro ⟨hprod, hconf⟩
    rw [h.nvs, h.production] at hprod
    rw [h.nvs, h.config] at hconf
    exact ⟨hprod, hconf⟩
  · rintro ⟨hprod, hconf⟩
    constructor
    · rw [h.nvs, h.production]
      exact hprod
    · rw [h.nvs, h.config]
      exact hconf

theorem SameButDoze.settings {t u : Tag} (h : SameButDoze t u) : SameSettings t u := by
  obtain ⟨refs, doze, rfl⟩ := h
  exact ⟨rfl, rfl, rfl, rfl, rfl⟩

/-- Whatever ran, nothing is marked between two handlers. -/
theorem flush_unmarked (t : Tag) (configRc dynamicRc : Int) :
    (flushDynamic (flushConfig t configRc) dynamicRc).svc.bool_ConfigDataWrite = false ∧
      (flushDynamic (flushConfig t configRc) dynamicRc).tool = t.tool := by
  unfold flushDynamic flushConfig
  split_ifs with hconfig <;> simp_all

theorem flushTool_unmarked (t : Tag) (io : ToolIo) :
    (flushTool t io).tool.bool_ProductionDataWrite = false ∧
      (flushTool t io).tool.bool_ConfigDataWrite = false ∧
      (flushTool t io).svc = t.svc := by
  unfold flushTool
  simp only
  split_ifs <;> simp_all

theorem command_tool (t : Tag) (f : Frame) : (command t f).1.tool = t.tool := by
  unfold command loginCommand authorisedCommand
  simp only
  split_ifs <;> try rfl
  all_goals split <;> rfl

theorem send_tool (t : Tag) (c : Conn) (data : List UInt8) (io : NotifyIo) :
    (bleCustomServiceSendNotification t c data io).1.tool = t.tool := by
  unfold bleCustomServiceSendNotification
  simp only
  split_ifs <;> rfl

theorem endOfRun_marks (t : Tag) (reply : Reply) : (endOfRun t reply).tool = t.tool ∧
    (endOfRun t reply).svc.bool_ConfigDataWrite = t.svc.bool_ConfigDataWrite := by
  unfold endOfRun
  split <;> exact ⟨rfl, rfl⟩

/-- The commands of the service never touch the state of the production tool. -/
theorem handleFrame_tool (t : Tag) (c : Conn) (f : Frame) (io : ParseIo) :
    (handleFrame t c f io).1.tool = t.tool := by
  unfold handleFrame
  simp only [endOfRun_marks, flush_unmarked, btConnUnref, send_tool, command_tool]

theorem parse_tool (t : Tag) (io : ParseIo) :
    (bleParseAndReplyWorkHandler t io).1.tool = t.tool := by
  cases hex : executes t with
  | none => rw [parse_idle t io hex]; rfl
  | some c => rw [parse_busy t c io hex, handleFrame_tool]; rfl

theorem handleFrame_unmarked {t : Tag} (c : Conn) (f : Frame) (io : ParseIo) (h : Unmarked t) :
    Unmarked (handleFrame t c f io).1 := by
  have htool := handleFrame_tool t c f io
  refine ⟨by rw [htool]; exact h.production, by rw [htool]; exact h.config, ?_⟩
  unfold handleFrame
  simp only [endOfRun_marks, flush_unmarked]

/-- A boot starts the production tool anew. -/
theorem boot_tool (board : Board) (nvs : Nvs) (retained : RetainedTimeBlock) (io : BootIo) :
    (boot board nvs retained io).tool = {} := by
  unfold boot
  simp only
  split
  · rfl
  · split <;> rfl

theorem unmarked_boot (board : Board) (nvs : Nvs) (retained : RetainedTimeBlock) (io : BootIo) :
    Unmarked (boot board nvs retained io) := by
  have htool := boot_tool board nvs retained io
  have hsvc := (boot_fresh board nvs retained io).svc
  exact ⟨by rw [htool], by rw [htool], by rw [hsvc]⟩

/-- What a flush of the service leaves of a configuration that was marked if it changed. -/
theorem flush_saved {t u : Tag} (configRc dynamicRc : Int) (h : Saved t.storage)
    (hnvs : u.storage.nvs = t.storage.nvs)
    (hprod : u.storage.gst_ProductionData = t.storage.gst_ProductionData)
    (hconf : u.storage.gst_ConfigData = t.storage.gst_ConfigData ∨
      u.svc.bool_ConfigDataWrite = true ∧ u.storage.gst_ConfigData.mu16_MagicNumber =
        t.storage.gst_ConfigData.mu16_MagicNumber) :
    Saved (flushDynamic (flushConfig u configRc) dynamicRc).storage ↔
      (u.storage.gst_ConfigData ≠ t.storage.gst_ConfigData → 0 ≤ configRc) := by
  have hsave := saveMarked_stored configSlot configRc h.config hconf
  rw [flush_storage, saved_of_nvs
    { u.storage with
      nvs := saveMarked configSlot u.storage.nvs u.storage.gst_ConfigData configRc
        u.svc.bool_ConfigDataWrite }
    (saveMarked dynamicSlot _ _ _ _)
    (saveMarked_key dynamicSlot _ _ _ _ _ (by decide))
    (saveMarked_key dynamicSlot _ _ _ _ _ (by decide)), ← hsave, hnvs]
  constructor
  · intro hs
    exact hs.config
  · intro hs
    refine ⟨?_, hs⟩
    rw [hprod]
    exact (stored_congr productionSlot (saveMarked_key configSlot _ _ _ _ _ (by decide))).mpr
      h.production

theorem flushTool_saved {t u : Tag} (io : ToolIo) (h : Saved t.storage)
    (hnvs : u.storage.nvs = t.storage.nvs)
    (hprod : u.storage.gst_ProductionData = t.storage.gst_ProductionData ∨
      u.tool.bool_ProductionDataWrite = true ∧ u.storage.gst_ProductionData.mu16_MagicNumber =
        t.storage.gst_ProductionData.mu16_MagicNumber)
    (hconf : u.storage.gst_ConfigData = t.storage.gst_ConfigData ∨
      u.tool.bool_ConfigDataWrite = true ∧ u.storage.gst_ConfigData.mu16_MagicNumber =
        t.storage.gst_ConfigData.mu16_MagicNumber) :
    Saved (flushTool u io).storage ↔
      (u.storage.gst_ProductionData ≠ t.storage.gst_ProductionData → 0 ≤ io.productionRc) ∧
        (u.storage.gst_ConfigData ≠ t.storage.gst_ConfigData → 0 ≤ io.configRc) := by
  have hsaveProd := saveMarked_stored productionSlot io.productionRc
    h.production hprod
  have hother := (stored_congr configSlot (saveMarked_key productionSlot t.storage.nvs
    u.storage.gst_ProductionData io.productionRc u.tool.bool_ProductionDataWrite _
    (by decide))).mpr h.config
  have hsaveConf := saveMarked_stored configSlot io.configRc hother hconf
  rw [flushTool_storage, saved_of_nvs
    { u.storage with
      nvs := saveMarked configSlot
        (saveMarked productionSlot u.storage.nvs u.storage.gst_ProductionData io.productionRc
          u.tool.bool_ProductionDataWrite)
        u.storage.gst_ConfigData io.configRc u.tool.bool_ConfigDataWrite }
    (saveMarked dynamicSlot _ _ _ _)
    (saveMarked_key dynamicSlot _ _ _ _ _ (by decide))
    (saveMarked_key dynamicSlot _ _ _ _ _ (by decide)), ← hsaveProd, ← hsaveConf, hnvs]
  have hkey := saveMarked_key configSlot (saveMarked productionSlot t.storage.nvs
    u.storage.gst_ProductionData io.productionRc u.tool.bool_ProductionDataWrite)
    u.storage.gst_ConfigData io.configRc u.tool.bool_ConfigDataWrite productionSlot.key (by decide)
  constructor
  · intro hs
    exact ⟨(stored_congr productionSlot hkey).mp hs.production, hs.config⟩
  · rintro ⟨hp, hc⟩
    exact ⟨(stored_congr productionSlot hkey).mpr hp, hc⟩

/-- A command as the handler executes it: it leaves flash and the production record alone. -/
theorem command_changes (t : Tag) (f : Frame) :
    let u := (command t f).1
    u.storage.nvs = t.storage.nvs ∧
      u.storage.gst_ProductionData = t.storage.gst_ProductionData ∧
      (u.storage.gst_ConfigData = t.storage.gst_ConfigData ∨
        u.svc.bool_ConfigDataWrite = true ∧ u.storage.gst_ConfigData.mu16_MagicNumber =
          t.storage.gst_ConfigData.mu16_MagicNumber) ∧
      (u.storage.gst_ConfigData ≠ t.storage.gst_ConfigData ↔
        t.svc.bool_UserAuthorization = true ∧ BleChanges t.storage.gst_ConfigData f) := by
  unfold command
  split
  · rename_i hauth
    simp [(loginCommand_records t f).1, hauth]
  · rename_i hauth
    simp only [Bool.not_eq_false] at hauth
    obtain ⟨hnvs, hprod, hconf⟩ := authorisedCommand_records
      { t with svc :=
          { t.svc with
            connection_timout_work :=
              kWorkReschedule t.svc.connection_timout_work (K_SECONDS DISCC_TIME_SEC) } } f
    refine ⟨hnvs, hprod, hconf, ?_⟩
    rw [authorisedCommand_changes]
    simp [hauth]

/-- A run of the command handler leaves the settings in flash just when its write lands. -/
theorem parse_saved (t : Tag) (io : ParseIo) (h : Saved t.storage) :
    Saved (bleParseAndReplyWorkHandler t io).1.storage ↔ WritesLand t (.parseAndReply io) := by
  unfold WritesLand
  cases hex : executes t with
  | none =>
    rw [parse_idle t io hex]
    exact iff_of_true h (fun hne => absurd rfl hne)
  | some c =>
    obtain ⟨hnvs, hprod, hconf, hchange⟩ := command_changes (btConnRef (takeFrame t) c)
      (takenFrame t)
    rw [parse_busy t c io hex, (handleFrame_records _ c (takenFrame t) io).1,
      flush_saved (t := t) io.configRc io.dynamicRc h hnvs hprod hconf]
    constructor
    · intro hland _ hauth hble
      exact hland (hchange.mpr ⟨hauth, hble⟩)
    · intro hland hne
      obtain ⟨hauth, hble⟩ := hchange.mp hne
      exact hland (by simp) hauth hble

/-- A production message leaves the settings in flash just when its writes land. -/
theorem toolMsg_saved (t : Tag) (data : UartBuf) (len : Nat) (io : ToolIo) (bootIo : BootIo)
    (h : Saved t.storage) :
    Saved (processProductionMsg t data len io bootIo).1.storage ↔
      WritesLand t (.toolMsg data len io bootIo) := by
  unfold WritesLand
  by_cases hvalid : 2 ≤ len ∧ checksumValid data len = true
  · obtain ⟨u, hst, _, heq⟩ := toolMsg_executed t data len io bootIo hvalid.1 hvalid.2
    obtain ⟨hnvs, hprod, hconf⟩ := toolCommand_records u data
    obtain ⟨hprodChange, hconfChange⟩ := toolCommand_changes u data
    rw [← hst] at h ⊢
    simp only [heq, hvalid, true_implies]
    rw [← hprodChange, ← hconfChange]
    split
    · rename_i hrestart
      obtain ⟨hsame, _⟩ := toolCommand_restart u data hrestart
      rw [hsame]
      refine iff_of_true (saved_reboot (by rw [hsame]; exact h) bootIo) ?_
      exact ⟨fun hne => absurd rfl hne, fun hne => absurd rfl hne⟩
    · exact flushTool_saved io h hnvs hprod hconf
  · have hland : 2 ≤ len → checksumValid data len = true →
        (ToolChangesProduction t.storage.gst_ProductionData data → 0 ≤ io.productionRc) ∧
          (ToolChangesConfig t.storage.gst_ConfigData data → 0 ≤ io.configRc) :=
      fun hlen hsum => absurd ⟨hlen, hsum⟩ hvalid
    rcases toolMsg_ignored t data len io bootIo hvalid with heq | heq
    · rw [heq]
      exact iff_of_true h hland
    · rw [heq]
      refine iff_of_true ?_ hland
      refine (flushTool_saved io h rfl (Or.inl rfl) (Or.inl rfl)).mpr ?_
      exact ⟨fun hne => absurd rfl hne, fun hne => absurd rfl hne⟩

theorem toolMsg_unmarked (t : Tag) (data : UartBuf) (len : Nat) (io : ToolIo) (bootIo : BootIo)
    (h : Unmarked t) : Unmarked (processProductionMsg t data len io bootIo).1 := by
  have hflush : ∀ u : Tag, u.svc.bool_ConfigDataWrite = false → Unmarked (flushTool u io) := by
    intro u hu
    obtain ⟨hprod, hconf, hsvc⟩ := flushTool_unmarked u io
    exact ⟨hprod, hconf, by rw [hsvc]; exact hu⟩
  unfold processProductionMsg
  split
  · exact h
  split
  · simp only
    split
    · exact unmarked_boot _ _ _ _
    · apply hflush
      unfold toolCommand
      simp only
      split <;> try split
      all_goals exact h.ble_config
  · exact hflush t h.ble_config

/-! ## Every step, and every run -/

/-- The events that run neither command handler. -/
def QuietEvent : Event → Prop
  | .parseAndReply _ => False
  | .toolMsg .. => False
  | _ => True

/-- Every other event leaves the settings alone, or restarts the tag. -/
theorem quiet_settings (t : Tag) (e : Event) (h : QuietEvent e) :
    SameSettings t (next t e) ∨ ∃ io, next t e = sysReboot t io := by
  cases e with
  | parseAndReply io => exact False.elim h
  | toolMsg data len io bootIo => exact False.elim h
  | connected c id err infoRc =>
    left
    rw [next]
    unfold linkUp custom_services.connected
    simp only
    split_ifs <;> exact ⟨rfl, rfl, rfl, rfl, rfl⟩
  | disconnected c io =>
    left
    rw [next]
    unfold linkDown custom_services.disconnected visionBranch releaseConn
    simp only
    split_ifs <;> exact ⟨rfl, rfl, rfl, rfl, rfl⟩
  | write c buf offset =>
    left
    rw [next]
    unfold writeIncomingChar
    split <;> exact ⟨rfl, rfl, rfl, rfl, rfl⟩
  | authorisationTimeout =>
    have hk := SameButDoze.settings (initiateDisconnect_keeps .done
      { t with svc := { t.svc with authorisation_timout_work := none } })
    exact Or.inl ⟨hk.production, hk.config, hk.nvs, hk.ble_mark, hk.tool⟩
  | connectionTimeout =>
    have hk := SameButDoze.settings (initiateDisconnect_keeps .done
      { t with svc := { t.svc with connection_timout_work := none } })
    exact Or.inl ⟨hk.production, hk.config, hk.nvs, hk.ble_mark, hk.tool⟩
  | initiateDisconnect => exact Or.inl (SameButDoze.settings (initiateDisconnect_keeps .done t))
  | wake io =>
    rcases wake_keeps t io with hk | hk
    · exact Or.inl (SameButDoze.settings hk)
    · exact Or.inr ⟨io, hk⟩
  | _ => exact Or.inl ⟨rfl, rfl, rfl, rfl, rfl⟩

theorem unmarked_next (t : Tag) (e : Event) (h : Unmarked t) : Unmarked (next t e) := by
  have hquiet : QuietEvent e → Unmarked (next t e) := by
    intro he
    rcases quiet_settings t e he with hs | ⟨io, hboot⟩
    · exact hs.unmarked h
    · rw [hboot]
      exact unmarked_boot _ _ _ _
  cases e with
  | parseAndReply io =>
    rw [next]
    cases hex : executes t with
    | none =>
      rw [parse_idle t io hex]
      exact ⟨h.production, h.config, h.ble_config⟩
    | some c =>
      rw [parse_busy t c io hex]
      exact handleFrame_unmarked c _ io ⟨h.production, h.config, h.ble_config⟩
  | toolMsg data len io bootIo => exact toolMsg_unmarked t data len io bootIo h
  | _ => exact hquiet trivial

theorem saved_next (t : Tag) (e : Event) (h : Saved t.storage) :
    Saved (next t e).storage ↔ WritesLand t e := by
  have hquiet : QuietEvent e → Saved (next t e).storage := by
    intro he
    rcases quiet_settings t e he with hs | ⟨io, hboot⟩
    · exact hs.saved.mpr h
    · rw [hboot]
      exact saved_reboot h io
  cases e with
  | parseAndReply io => exact parse_saved t io h
  | toolMsg data len io bootIo => exact toolMsg_saved t data len io bootIo h
  | _ => exact iff_of_true (hquiet trivial) trivial

/-- In a run from a boot the settings never drift apart from flash, and always survive a
restart, just when the boot loads in step and every write of a record that a command changes
succeeds. -/
theorem settings_keep_to_flash_while_writes_land (board : Board) (nvs : Nvs)
    (retained : RetainedTimeBlock) (io : BootIo) (es : List Event) :
    system.States NoDrift (boot board nvs retained io) es ↔
      (LoadsInStep productionSlot nvs io.load.productionRc ∧
          LoadsInStep configSlot nvs io.load.configRc) ∧
        system.Steps WritesLand (boot board nvs retained io) es := by
  have h0 := unmarked_boot board nvs retained io
  rw [← saved_boot board nvs retained io, ← noDrift_iff_saved h0]
  have hstep : ∀ t e, Unmarked t → NoDrift t → True → (NoDrift (next t e) ↔ WritesLand t e) := by
    intro t e hm hd _
    rw [noDrift_iff_saved (unmarked_next t e hm)]
    exact saved_next t e ((noDrift_iff_saved hm).mp hd)
  have hrun : NoDrift (boot board nvs retained io) →
      (system.States NoDrift (boot board nvs retained io) es ↔
        system.Steps WritesLand (boot board nvs retained io) es) :=
    fun hfirst => runs.System.states_iff_steps (fun t e hm _ _ => unmarked_next t e hm) hstep
      h0 hfirst (runs.System.steps_trivial _ es)
  constructor
  · intro hs
    have hfirst := runs.System.states_first hs
    exact ⟨hfirst, (hrun hfirst).mp hs⟩
  · rintro ⟨hfirst, hland⟩
    exact (hrun hfirst).mpr hland

/-- The advertising interval is set to a second, and the write fails: the reply is SUCCESS, no
mark is left, and the next boot brings back the two seconds. -/
theorem a_failed_write_is_lost :
    ¬ ∀ (t : Tag) (es : List Event), system.Run t es → Saved t.storage →
      system.States NoDrift t es := by
  intro h
  have hruns : system.Run factoryTag
      [.connected 0 2 0 0, .write 0 loginFrame 0, .parseAndReply quietRun,
        .write 0 [8, 0xE8, 3] 0, .parseAndReply { quietRun with configRc := -5 }] :=
    ⟨factoryTag_starts, by decide +kernel⟩
  have hsaved : Saved factoryTag.storage := by
    refine ⟨⟨?_, ?_⟩, ⟨?_, ?_⟩⟩ <;> decide +kernel
  have hdrift := runs.System.states_last (h _ _ hruns hsaved)
  rcases hdrift.config with hbytes | hmark
  · exact absurd hbytes (by decide +kernel)
  · exact absurd hmark (by decide +kernel)

end smart_track.saved_settings
