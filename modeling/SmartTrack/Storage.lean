-- The three records in RAM and in flash (`vision_nvs_storage.c`,
-- `vision_bootup.c`): a boot takes a stored record whose magic number is right,
-- and puts the defaults in the place of any other.
import SmartTrack.Records

open bytes smart_track.production

namespace smart_track.storage

/-! ## Flash -/

def PRODUCTION_DATA_KEY : Nat := 1
def CONFIG_DATA_KEY : Nat := 2
def DYNAMIC_DATA_KEY : Nat := 3

/-- What flash holds under each key. A key that `nvs_read` cannot read holds `none`. -/
abbrev Nvs := Nat → Option (List UInt8)

def ENOENT : Int := 2

/-- The code of a read, and the memory of the record after it. -/
def readNvsData {α : Type} (nvs : Nvs) (key_id : Nat) (layout : Layout α) (read_buff : α) :
    Int × α :=
  match nvs key_id with
  | none => (-ENOENT, read_buff)
  | some data =>
    (data.length, layout.ofBytes (overlay layout.size (layout.toBytes read_buff) data))

/-- A write that fails leaves flash as it is. `rc` is the code of `nvs_write`. -/
def writeNvsData (nvs : Nvs) (key_id : Nat) (write_buff : List UInt8) (rc : Int) : Nvs :=
  if rc < 0 then nvs else Function.update nvs key_id (some write_buff)

theorem writeNvsData_self (nvs : Nvs) (key : Nat) (data : List UInt8) {rc : Int} (h : 0 ≤ rc) :
    writeNvsData nvs key data rc key = some data := by
  unfold writeNvsData
  rw [if_neg (by omega), Function.update_self]

theorem writeNvsData_other (nvs : Nvs) {key other : Nat} (data : List UInt8) (rc : Int)
    (h : other ≠ key) : writeNvsData nvs key data rc other = nvs other := by
  unfold writeNvsData
  split
  · rfl
  · rw [Function.update_of_ne h]

/-! ## The defaults -/

def PRODUCTION_MAGIC_NUMBER : UInt16 := 0x5650
def CONFIG_MAGIC_NUMBER : UInt16 := 0x5643
def DYNAMIC_MAGIC_NUMBER : UInt16 := 0x5644

def DEFAULT_MAC : List UInt8 := [0x1C, 0xCA, 0xE3, 0x20, 0x00, 0x05]

/-- `"SBC-ST104400090005"`. -/
def DEFAULT_SRNUM : List UInt8 :=
  [0x53, 0x42, 0x43, 0x2D, 0x53, 0x54, 0x31, 0x30, 0x34, 0x34, 0x30, 0x30, 0x30, 0x39, 0x30, 0x30,
    0x30, 0x35]

/-- `"ins!gm@?"`. -/
def DEFAULT_PASSWORD : List UInt8 := [0x69, 0x6E, 0x73, 0x21, 0x67, 0x6D, 0x40, 0x3F]

/-- The bits of the `float` 2160000. -/
def FULL_BAT_CAPACITY_uAH : UInt32 := 0x4A03D600

def loadFactoryProductionDefaults : ProductionData :=
  { mu16_MagicNumber := PRODUCTION_MAGIC_NUMBER
    mu8ar_MACAddr := padded BLE_GAP_ADDR_LEN DEFAULT_MAC
    mu8_SerialNumber := padded SR_NUM_SIZE DEFAULT_SRNUM
    mu8ar_Password := padded MAX_PASSWORD_SIZE DEFAULT_PASSWORD
    mu8ar_ModelNumber := fun _ => 0
    padding := fun _ => 0 }

def loadFieldConfigDefaults : ConfigData :=
  { mu16_MagicNumber := CONFIG_MAGIC_NUMBER
    mu16_AdvertismentInterval := 2000
    mu8_TxPow := 4
    mu8_Movement_INT_THS := 10
    mu8_Movement_INT_TIME := 10
    mu8_DeepSleepControl := 1
    s16_TimeZoneOffset := 330
    energy_save_para :=
      { u16_StartMinutes := 1320, u16_EndMinutes := 360
        mu16_EnergySavingAdvInterval := 5000, mu8_EnergySavingGlobalTxPow := 0 }
    padding := fun _ => 0 }

def loadDynamicRuntimeDefaults : DynamicData :=
  { mu16_MagicNumber := DYNAMIC_MAGIC_NUMBER
    f32_RemainingBatCap := FULL_BAT_CAPACITY_uAH
    mu16_ResetCnt := 0
    mu32_CurrentTime := 1780825185 }

/-! ## The check at boot

The three records go through the same check; a slot says what is special to each. -/

/-- A record in flash: its key, its layout, where its magic number is and what it has to be,
and the defaults. -/
structure Slot (α : Type) where
  key : Nat
  layout : Layout α
  magicOf : α → UInt16
  magic : UInt16
  defaults : α

def productionSlot : Slot ProductionData where
  key := PRODUCTION_DATA_KEY
  layout := productionLayout
  magicOf := ProductionData.mu16_MagicNumber
  magic := PRODUCTION_MAGIC_NUMBER
  defaults := loadFactoryProductionDefaults

def configSlot : Slot ConfigData where
  key := CONFIG_DATA_KEY
  layout := configLayout
  magicOf := ConfigData.mu16_MagicNumber
  magic := CONFIG_MAGIC_NUMBER
  defaults := loadFieldConfigDefaults

def dynamicSlot : Slot DynamicData where
  key := DYNAMIC_DATA_KEY
  layout := dynamicLayout
  magicOf := DynamicData.mu16_MagicNumber
  magic := DYNAMIC_MAGIC_NUMBER
  defaults := loadDynamicRuntimeDefaults

variable {α : Type}

/-- The write of a record to its slot. -/
def Slot.save (slot : Slot α) (nvs : Nvs) (r : α) (rc : Int) : Nvs :=
  writeNvsData nvs slot.key (slot.layout.toBytes r) rc

/-- What one check leaves: the record in RAM, flash, whether the stored record was taken,
and the code (0, or that of a failed write). -/
structure Loaded (α : Type) where
  ram : α
  nvs : Nvs
  valid : Bool
  rc : Int

def Slot.verifyAndLoad (slot : Slot α) (nvs : Nvs) (ram : α) (writeRc : Int) : Loaded α :=
  let (rc, ram) := readNvsData nvs slot.key slot.layout ram
  if rc < 0 ∨ slot.magicOf ram ≠ slot.magic then
    { ram := slot.defaults, nvs := slot.save nvs slot.defaults writeRc, valid := false,
      rc := if writeRc < 0 then writeRc else 0 }
  else
    { ram := ram, nvs := nvs, valid := true, rc := 0 }

/-- The records in RAM, flash, and the address that the chip came with. -/
structure Storage where
  gst_ProductionData : ProductionData
  gst_ConfigData : ConfigData
  gst_DynamicData : DynamicData
  nvs : Nvs
  factory_mac : Bytes BLE_GAP_ADDR_LEN

/-- The codes of the writes that a boot can come to. -/
structure LoadIo where
  productionRc : Int
  configRc : Int
  dynamicRc : Int

/-- The two words of `NRF_FICR->DEVICEADDR`. -/
structure Ficr where
  addr_low : UInt32
  addr_high : UInt32

def readRawFactoryMac (ficr : Ficr) : Bytes BLE_GAP_ADDR_LEN :=
  padded BLE_GAP_ADDR_LEN
    [(ficr.addr_high >>> 8).toUInt8 ||| 0xC0, ficr.addr_high.toUInt8,
      (ficr.addr_low >>> 24).toUInt8, (ficr.addr_low >>> 16).toUInt8,
      (ficr.addr_low >>> 8).toUInt8, ficr.addr_low.toUInt8]

/-- The boot counts itself in a stored record. The code of this write is ignored. -/
def countReset (dynamic : Loaded DynamicData) (writeRc : Int) : Loaded DynamicData :=
  if dynamic.valid then
    let counted := { dynamic.ram with mu16_ResetCnt := dynamic.ram.mu16_ResetCnt + 1 }
    { dynamic with ram := counted, nvs := dynamicSlot.save dynamic.nvs counted writeRc }
  else
    dynamic

def appStorageVerifyAndLoad (st : Storage) (ficr : Ficr) (io : LoadIo) : Storage × Int :=
  let prod := productionSlot.verifyAndLoad st.nvs st.gst_ProductionData io.productionRc
  let st := { st with gst_ProductionData := prod.ram, nvs := prod.nvs }
  if prod.rc < 0 then
    (st, prod.rc)
  else
    let config := configSlot.verifyAndLoad st.nvs st.gst_ConfigData io.configRc
    let st := { st with gst_ConfigData := config.ram, nvs := config.nvs }
    if config.rc < 0 then
      (st, config.rc)
    else
      let dynamic := countReset
        (dynamicSlot.verifyAndLoad st.nvs st.gst_DynamicData io.dynamicRc) io.dynamicRc
      let st := { st with gst_DynamicData := dynamic.ram, nvs := dynamic.nvs }
      if dynamic.rc < 0 then
        (st, dynamic.rc)
      else
        ({ st with factory_mac := readRawFactoryMac ficr }, 0)

def getFactoryMacCopy (st : Storage) : Bytes BLE_GAP_ADDR_LEN := st.factory_mac

/-- The state of the file at a reset: flash, and RAM that is zero. -/
def atReset (nvs : Nvs) : Storage :=
  { gst_ProductionData := productionLayout.ofBytes []
    gst_ConfigData := configLayout.ofBytes []
    gst_DynamicData := dynamicLayout.ofBytes []
    nvs := nvs
    factory_mac := fun _ => 0 }

/-! ## What a boot loads -/

/-- A boot takes the record `r` from the slot. -/
structure Slot.Holds (slot : Slot α) (nvs : Nvs) (r : α) : Prop where
  readable : 0 ≤ (readNvsData nvs slot.key slot.layout (slot.layout.ofBytes [])).1
  reads : (readNvsData nvs slot.key slot.layout (slot.layout.ofBytes [])).2 = r
  magic_ok : slot.magicOf r = slot.magic

theorem readNvsData_of_bytes (nvs : Nvs) (key : Nat) (layout : Layout α) (ram r : α)
    (h : nvs key = some (layout.toBytes r)) :
    readNvsData nvs key layout ram = ((layout.size : Int), r) := by
  have hlen : (layout.toBytes r).length = (layout.toBytes ram).length := by
    rw [layout.toBytes_length, layout.toBytes_length]
  have hsize : layout.size = (layout.toBytes ram).length := (layout.toBytes_length ram).symm
  unfold readNvsData
  rw [h]
  simp only
  rw [layout.toBytes_length, hsize, overlay_full _ _ hlen, layout.ofBytes_toBytes]

/-- Only what stands under its own key matters to a read. -/
theorem readNvsData_congr {nvs nvs' : Nvs} {key : Nat} (h : nvs' key = nvs key)
    (layout : Layout α) (ram : α) :
    readNvsData nvs' key layout ram = readNvsData nvs key layout ram := by
  unfold readNvsData
  rw [h]

theorem Slot.verifyAndLoad_of_holds (slot : Slot α) {nvs : Nvs} {r : α} (h : slot.Holds nvs r)
    (writeRc : Int) :
    slot.verifyAndLoad nvs (slot.layout.ofBytes []) writeRc =
      { ram := r, nvs := nvs, valid := true, rc := 0 } := by
  obtain ⟨hread, hr, hmagic⟩ := h
  unfold Slot.verifyAndLoad
  simp only [hr]
  rw [if_neg]
  intro hbad
  rcases hbad with hneg | hne
  · exact absurd hneg (by omega)
  · exact hne hmagic

theorem Slot.save_holds (slot : Slot α) (nvs : Nvs) (r : α) {rc : Int} (hrc : 0 ≤ rc)
    (hmagic : slot.magicOf r = slot.magic) : slot.Holds (slot.save nvs r rc) r := by
  have hread := readNvsData_of_bytes (slot.save nvs r rc) slot.key slot.layout
    (slot.layout.ofBytes []) r (writeNvsData_self nvs slot.key _ hrc)
  refine ⟨?_, ?_, hmagic⟩
  · rw [hread]; exact Int.natCast_nonneg _
  · rw [hread]

theorem Slot.holds_congr (slot : Slot α) {nvs nvs' : Nvs} {r : α}
    (hkey : nvs' slot.key = nvs slot.key) (h : slot.Holds nvs r) : slot.Holds nvs' r := by
  have hread := readNvsData_congr hkey slot.layout (slot.layout.ofBytes [])
  refine ⟨?_, ?_, h.magic_ok⟩
  · rw [hread]; exact h.readable
  · rw [hread]; exact h.reads

theorem Slot.save_holds_other {β : Type} (slot : Slot α) (other : Slot β) {nvs : Nvs} (r : α)
    {s : β} (rc : Int) (hkey : other.key ≠ slot.key) (h : other.Holds nvs s) :
    other.Holds (slot.save nvs r rc) s :=
  other.holds_congr (writeNvsData_other nvs _ rc hkey) h

/-- Whatever flash held, after a check whose write succeeds it holds the record in RAM. -/
theorem Slot.verifyAndLoad_holds (slot : Slot α) (nvs : Nvs) {writeRc : Int} (hrc : 0 ≤ writeRc)
    (hdef : slot.magicOf slot.defaults = slot.magic) :
    let loaded := slot.verifyAndLoad nvs (slot.layout.ofBytes []) writeRc
    slot.Holds loaded.nvs loaded.ram ∧ loaded.rc = 0 := by
  simp only [Slot.verifyAndLoad]
  split
  · refine ⟨slot.save_holds nvs slot.defaults hrc hdef, ?_⟩
    rw [if_neg (by omega)]
  · rename_i hgood
    obtain ⟨hread, hmagic⟩ := not_or.mp hgood
    exact ⟨⟨Int.not_lt.mp hread, rfl, not_not.mp hmagic⟩, rfl⟩

theorem Slot.verifyAndLoad_other {β : Type} (slot : Slot α) (other : Slot β) {nvs : Nvs}
    (ram : α) {s : β} (rc : Int) (hkey : other.key ≠ slot.key) (h : other.Holds nvs s) :
    other.Holds (slot.verifyAndLoad nvs ram rc).nvs s := by
  unfold Slot.verifyAndLoad
  simp only
  split
  · exact slot.save_holds_other other _ rc hkey h
  · exact h

/-- A check leaves the other keys alone. -/
theorem Slot.verifyAndLoad_key (slot : Slot α) (nvs : Nvs) (ram : α) (rc : Int) {key : Nat}
    (h : key ≠ slot.key) : (slot.verifyAndLoad nvs ram rc).nvs key = nvs key := by
  unfold Slot.verifyAndLoad
  simp only
  split
  · exact writeNvsData_other nvs _ rc h
  · rfl

/-- The settings in RAM are those that a boot takes from flash. -/
structure InSync (st : Storage) : Prop where
  production : productionSlot.Holds st.nvs st.gst_ProductionData
  config : configSlot.Holds st.nvs st.gst_ConfigData

/-- The writes of a boot all succeed. -/
structure LoadIo.Succeeds (io : LoadIo) : Prop where
  production : 0 ≤ io.productionRc
  config : 0 ≤ io.configRc
  dynamic : 0 ≤ io.dynamicRc

instance (io : LoadIo) : Decidable io.Succeeds :=
  decidable_of_iff (0 ≤ io.productionRc ∧ 0 ≤ io.configRc ∧ 0 ≤ io.dynamicRc)
    ⟨fun h => ⟨h.1, h.2.1, h.2.2⟩, fun h => ⟨h.production, h.config, h.dynamic⟩⟩

theorem Slot.verifyAndLoad_rc (slot : Slot α) (nvs : Nvs) (ram : α) {writeRc : Int}
    (h : 0 ≤ writeRc) : (slot.verifyAndLoad nvs ram writeRc).rc = 0 := by
  unfold Slot.verifyAndLoad
  simp only
  split
  · rw [if_neg (by omega)]
  · rfl

theorem countReset_rc (dynamic : Loaded DynamicData) (writeRc : Int) :
    (countReset dynamic writeRc).rc = dynamic.rc := by
  unfold countReset
  split <;> rfl

/-- The third layer of the check leaves the other two records alone. -/
theorem countReset_other {β : Type} (other : Slot β) {nvs : Nvs} {ram : DynamicData} {s : β}
    (rc : Int) (hkey : other.key ≠ DYNAMIC_DATA_KEY) (h : other.Holds nvs s) :
    other.Holds (countReset (dynamicSlot.verifyAndLoad nvs ram rc) rc).nvs s := by
  have hloaded := dynamicSlot.verifyAndLoad_other other ram rc hkey h
  unfold countReset
  split
  · exact dynamicSlot.save_holds_other other _ rc hkey hloaded
  · exact hloaded

/-- A boot whose writes succeed comes up, with the settings of RAM and flash in step. -/
theorem appStorageVerifyAndLoad_inSync (nvs : Nvs) (ficr : Ficr) {io : LoadIo}
    (hio : io.Succeeds) :
    InSync (appStorageVerifyAndLoad (atReset nvs) ficr io).1 ∧
      (appStorageVerifyAndLoad (atReset nvs) ficr io).2 = 0 := by
  obtain ⟨hprod, hprodRc⟩ := productionSlot.verifyAndLoad_holds nvs hio.production rfl
  have hprod := configSlot.verifyAndLoad_other productionSlot (configLayout.ofBytes [])
    io.configRc (by decide) hprod
  obtain ⟨hconf, hconfRc⟩ := configSlot.verifyAndLoad_holds
    (productionSlot.verifyAndLoad nvs (productionLayout.ofBytes []) io.productionRc).nvs
    hio.config rfl
  simp only [productionSlot, configSlot] at hprod hprodRc hconf hconfRc
  unfold appStorageVerifyAndLoad
  simp only [atReset, productionSlot, configSlot, hprodRc, hconfRc, Int.lt_irrefl, if_false,
    countReset_rc, dynamicSlot.verifyAndLoad_rc _ _ hio.dynamic]
  exact ⟨⟨countReset_other productionSlot _ (by decide) hprod,
    countReset_other configSlot _ (by decide) hconf⟩, trivial⟩

/-- A boot of a tag that was in step brings its settings back. -/
theorem appStorageVerifyAndLoad_settings {st : Storage} (h : InSync st) (ficr : Ficr)
    (io : LoadIo) :
    let booted := (appStorageVerifyAndLoad (atReset st.nvs) ficr io).1
    booted.gst_ProductionData = st.gst_ProductionData ∧
      booted.gst_ConfigData = st.gst_ConfigData := by
  have hprod := productionSlot.verifyAndLoad_of_holds h.production io.productionRc
  have hconf := configSlot.verifyAndLoad_of_holds h.config io.configRc
  simp only [productionSlot, configSlot] at hprod hconf
  unfold appStorageVerifyAndLoad
  simp only [atReset, productionSlot, configSlot, hprod, hconf, Int.lt_irrefl, if_false]
  split <;> exact ⟨rfl, rfl⟩

end smart_track.storage
