-- What a boot takes from flash. The check looks at the code of the read and at
-- the magic number, and not at how long the stored record is, so it also takes a
-- record of another length that begins like one of its own.
import SmartTrack.Storage

open bytes smart_track.production smart_track.storage

namespace smart_track.loading

variable {α : Type}

/-! ## One record -/

/-- Flash holds just the bytes of `r`, with the right magic number. -/
structure Stored (slot : Slot α) (nvs : Nvs) (r : α) : Prop where
  bytes : nvs slot.key = some (slot.layout.toBytes r)
  magic_ok : slot.magicOf r = slot.magic

/-- The check takes what is in flash: it can be read, and the magic number is right. -/
def Takes (slot : Slot α) (nvs : Nvs) (ram : α) : Prop :=
  0 ≤ (readNvsData nvs slot.key slot.layout ram).1 ∧
    slot.magicOf (readNvsData nvs slot.key slot.layout ram).2 = slot.magic

/-- If the check takes what is in flash, it has the length of the record. -/
def Complete (slot : Slot α) (nvs : Nvs) (ram : α) : Prop :=
  Takes slot nvs ram → (readNvsData nvs slot.key slot.layout ram).1 = slot.layout.size

theorem verifyAndLoad_takes {slot : Slot α} {nvs : Nvs} {ram : α} (h : Takes slot nvs ram)
    (rc : Int) :
    slot.verifyAndLoad nvs ram rc =
      { ram := (readNvsData nvs slot.key slot.layout ram).2, nvs := nvs, valid := true,
        rc := 0 } := by
  unfold Slot.verifyAndLoad
  simp only
  rw [if_neg]
  rintro (hneg | hmagic)
  · exact absurd h.1 (Int.not_le.mpr hneg)
  · exact hmagic h.2

theorem verifyAndLoad_default {slot : Slot α} {nvs : Nvs} {ram : α} (h : ¬ Takes slot nvs ram)
    {rc : Int} (hrc : 0 ≤ rc) :
    slot.verifyAndLoad nvs ram rc =
      { ram := slot.defaults, nvs := slot.save nvs slot.defaults rc, valid := false, rc := 0 } := by
  unfold Slot.verifyAndLoad
  simp only
  rw [if_pos, if_neg (Int.not_lt.mpr hrc)]
  by_contra hgood
  rw [not_or, Int.not_lt, not_not] at hgood
  exact h hgood

/-- A record that is read whole is the stored one. -/
theorem stored_iff {slot : Slot α} (hexact : slot.layout.Exact) {nvs : Nvs} {ram : α}
    (h : Takes slot nvs ram) :
    Stored slot nvs (readNvsData nvs slot.key slot.layout ram).2 ↔
      (readNvsData nvs slot.key slot.layout ram).1 = slot.layout.size := by
  obtain ⟨hread, hmagic⟩ := h
  cases hdata : nvs slot.key with
  | none => simp [readNvsData, hdata, ENOENT] at hread
  | some data =>
    have hlen : (readNvsData nvs slot.key slot.layout ram).1 = data.length := by
      simp [readNvsData, hdata]
    rw [hlen]
    constructor
    · intro hs
      have hbytes := hs.bytes
      rw [hdata, Option.some.injEq] at hbytes
      rw [hbytes, slot.layout.toBytes_length]
    · intro hsize
      have hwhole : data.length = slot.layout.size := Int.ofNat_inj.mp hsize
      have hback := slot.layout.toBytes_length ram
      have hr : (readNvsData nvs slot.key slot.layout ram).2 = slot.layout.ofBytes data := by
        simp only [readNvsData, hdata]
        rw [← hback, overlay_full _ _ (hwhole.trans hback.symm)]
      refine ⟨?_, hmagic⟩
      rw [hr, hexact data hwhole, hdata]

theorem takes_congr {slot : Slot α} {nvs nvs' : Nvs} {ram : α} (h : nvs' slot.key = nvs slot.key) :
    Takes slot nvs' ram ↔ Takes slot nvs ram := by
  unfold Takes
  rw [readNvsData_congr h]

/-- After a check the record in RAM is the stored one or the default one, and flash has its
bytes, just when what the check takes has the right length. -/
theorem verifyAndLoad_whole (slot : Slot α) (hexact : slot.layout.Exact) {nvs nvs' : Nvs}
    (hkey : nvs' slot.key = nvs slot.key) (ram : α) {rc : Int} (hrc : 0 ≤ rc) :
    ((Stored slot nvs (slot.verifyAndLoad nvs' ram rc).ram ∨
          (slot.verifyAndLoad nvs' ram rc).ram = slot.defaults) ∧
        (slot.verifyAndLoad nvs' ram rc).nvs slot.key =
          some (slot.layout.toBytes (slot.verifyAndLoad nvs' ram rc).ram)) ↔
      Complete slot nvs ram := by
  by_cases htakes : Takes slot nvs ram
  · have hstored := stored_iff hexact htakes
    rw [verifyAndLoad_takes ((takes_congr hkey).mpr htakes), readNvsData_congr hkey]
    simp only [hkey]
    constructor
    · rintro ⟨_, hbytes⟩ _
      exact hstored.mp ⟨hbytes, htakes.2⟩
    · intro hcomplete
      have hs := hstored.mpr (hcomplete htakes)
      exact ⟨Or.inl hs, hs.bytes⟩
  · rw [verifyAndLoad_default (fun h => htakes ((takes_congr hkey).mp h)) hrc]
    refine iff_of_true ⟨Or.inr rfl, ?_⟩ (fun h => absurd h htakes)
    exact writeNvsData_self nvs' slot.key _ hrc

/-! ## The record that counts the boots -/

def counted (r : DynamicData) : DynamicData := { r with mu16_ResetCnt := r.mu16_ResetCnt + 1 }

/-- What is read counts up to the default record: a count that wraps to zero. -/
def CountsToDefault (nvs : Nvs) (ram : DynamicData) : Prop :=
  counted (readNvsData nvs dynamicSlot.key dynamicSlot.layout ram).2 = dynamicSlot.defaults

theorem countReset_whole {nvs nvs' : Nvs} (hkey : nvs' dynamicSlot.key = nvs dynamicSlot.key)
    (ram : DynamicData) {rc : Int} (hrc : 0 ≤ rc) :
    let loaded := countReset (dynamicSlot.verifyAndLoad nvs' ram rc) rc
    (((∃ r, Stored dynamicSlot nvs r ∧ loaded.ram = counted r) ∨
          loaded.ram = dynamicSlot.defaults) ∧
        loaded.nvs dynamicSlot.key = some (dynamicSlot.layout.toBytes loaded.ram)) ↔
      (Complete dynamicSlot nvs ram ∨ CountsToDefault nvs ram) := by
  by_cases htakes : Takes dynamicSlot nvs ram
  · have hstored := stored_iff dynamicLayout_exact htakes
    rw [verifyAndLoad_takes ((takes_congr hkey).mpr htakes), readNvsData_congr hkey]
    simp only [countReset, if_true]
    constructor
    · rintro ⟨⟨r, hr, _⟩ | hdefault, _⟩
      · -- The stored bytes are those of `r`, so they are all read.
        refine Or.inl (fun _ => ?_)
        rw [readNvsData_of_bytes nvs _ _ ram r hr.bytes]
      · exact Or.inr hdefault
    · intro h
      refine ⟨?_, writeNvsData_self nvs' _ _ hrc⟩
      rcases h with hcomplete | hdefault
      · exact Or.inl ⟨_, hstored.mpr (hcomplete htakes), rfl⟩
      · exact Or.inr hdefault
  · rw [verifyAndLoad_default (fun h => htakes ((takes_congr hkey).mp h)) hrc]
    refine iff_of_true ⟨Or.inr rfl, ?_⟩ (Or.inl (fun h => absurd h htakes))
    exact writeNvsData_self nvs' _ _ hrc

/-! ## The three records -/

/-- Each record is the stored one, of its full length and with its magic number, or the
default one; the record that counts the boots has counted this one. Flash has their bytes. -/
structure LoadedWhole (nvs : Nvs) (st : Storage) : Prop where
  production : Stored productionSlot nvs st.gst_ProductionData ∨
    st.gst_ProductionData = loadFactoryProductionDefaults
  config : Stored configSlot nvs st.gst_ConfigData ∨ st.gst_ConfigData = loadFieldConfigDefaults
  dynamic : (∃ r, Stored dynamicSlot nvs r ∧ st.gst_DynamicData = counted r) ∨
    st.gst_DynamicData = loadDynamicRuntimeDefaults
  production_saved : st.nvs PRODUCTION_DATA_KEY = some st.gst_ProductionData.toBytes
  config_saved : st.nvs CONFIG_DATA_KEY = some st.gst_ConfigData.toBytes
  dynamic_saved : st.nvs DYNAMIC_DATA_KEY = some st.gst_DynamicData.toBytes

/-- What a boot comes to when its writes succeed. -/
theorem appStorageVerifyAndLoad_eq (st : Storage) (ficr : Ficr) {io : LoadIo} (hio : io.Succeeds) :
    let prod := productionSlot.verifyAndLoad st.nvs st.gst_ProductionData io.productionRc
    let config := configSlot.verifyAndLoad prod.nvs st.gst_ConfigData io.configRc
    let dynamic := countReset
      (dynamicSlot.verifyAndLoad config.nvs st.gst_DynamicData io.dynamicRc) io.dynamicRc
    appStorageVerifyAndLoad st ficr io =
      ({ gst_ProductionData := prod.ram, gst_ConfigData := config.ram,
         gst_DynamicData := dynamic.ram, nvs := dynamic.nvs,
         factory_mac := readRawFactoryMac ficr }, 0) := by
  unfold appStorageVerifyAndLoad
  simp only [productionSlot.verifyAndLoad_rc _ _ hio.production,
    configSlot.verifyAndLoad_rc _ _ hio.config, countReset_rc,
    dynamicSlot.verifyAndLoad_rc _ _ hio.dynamic, Int.lt_irrefl, if_false]

theorem countReset_key (dynamic : Loaded DynamicData) (rc : Int) {key : Nat}
    (h : key ≠ DYNAMIC_DATA_KEY) : (countReset dynamic rc).nvs key = dynamic.nvs key := by
  unfold countReset
  split
  · exact writeNvsData_other _ _ rc h
  · rfl

/-- A boot whose writes succeed loads whole records only, just when what it takes under each
key has the length of the record; a record of another length that counts up to the default
one passes for that. -/
theorem a_boot_loads_whole_records_of_full_length (st : Storage) (ficr : Ficr) (io : LoadIo)
    (hio : io.Succeeds) :
    (appStorageVerifyAndLoad st ficr io).2 = 0 ∧
      (LoadedWhole st.nvs (appStorageVerifyAndLoad st ficr io).1 ↔
        Complete productionSlot st.nvs st.gst_ProductionData ∧
          Complete configSlot st.nvs st.gst_ConfigData ∧
          (Complete dynamicSlot st.nvs st.gst_DynamicData ∨
            CountsToDefault st.nvs st.gst_DynamicData)) := by
  rw [appStorageVerifyAndLoad_eq st ficr hio]
  refine ⟨rfl, ?_⟩
  have hconfKey := productionSlot.verifyAndLoad_key st.nvs st.gst_ProductionData io.productionRc
    (show CONFIG_DATA_KEY ≠ PRODUCTION_DATA_KEY by decide)
  have hdynKey := productionSlot.verifyAndLoad_key st.nvs st.gst_ProductionData io.productionRc
    (show DYNAMIC_DATA_KEY ≠ PRODUCTION_DATA_KEY by decide)
  have hprod := verifyAndLoad_whole productionSlot productionLayout_exact
    (Eq.refl (st.nvs productionSlot.key)) st.gst_ProductionData hio.production
  have hconf := verifyAndLoad_whole configSlot configLayout_exact hconfKey st.gst_ConfigData
    hio.config
  generalize productionSlot.verifyAndLoad st.nvs st.gst_ProductionData io.productionRc = prod at *
  have hdynKey' := configSlot.verifyAndLoad_key prod.nvs st.gst_ConfigData io.configRc
    (show DYNAMIC_DATA_KEY ≠ CONFIG_DATA_KEY by decide)
  have hprodKey := configSlot.verifyAndLoad_key prod.nvs st.gst_ConfigData io.configRc
    (show PRODUCTION_DATA_KEY ≠ CONFIG_DATA_KEY by decide)
  have hdyn := countReset_whole (hdynKey'.trans hdynKey) st.gst_DynamicData hio.dynamic
  simp only at hdyn
  generalize configSlot.verifyAndLoad prod.nvs st.gst_ConfigData io.configRc = config at *
  have hlast : ∀ key, key ≠ DYNAMIC_DATA_KEY →
      (countReset (dynamicSlot.verifyAndLoad config.nvs st.gst_DynamicData io.dynamicRc)
        io.dynamicRc).nvs key = config.nvs key := by
    intro key hkey
    rw [countReset_key _ _ hkey, dynamicSlot.verifyAndLoad_key _ _ _ hkey]
  have hprodLast := (hlast PRODUCTION_DATA_KEY (by decide)).trans hprodKey
  have hconfLast := hlast CONFIG_DATA_KEY (by decide)
  rw [← hprod, ← hconf, ← hdyn]
  constructor
  · intro h
    refine ⟨⟨h.production, ?_⟩, ⟨h.config, ?_⟩, h.dynamic, h.dynamic_saved⟩
    · exact hprodLast.symm.trans h.production_saved
    · exact hconfLast.symm.trans h.config_saved
  · rintro ⟨⟨hp, hps⟩, ⟨hc, hcs⟩, hd, hds⟩
    exact ⟨hp, hc, hd, hprodLast.trans hps, hconfLast.trans hcs, hds⟩

/-- Codes of writes that all succeed. -/
def goodLoad : LoadIo := { productionRc := 0, configRc := 0, dynamicRc := 0 }

/-- Flash after its owner set a password of its own and an interval of a second, and three boots. -/
def usedFlash : Nvs := fun key =>
  if key = PRODUCTION_DATA_KEY then
    some { loadFactoryProductionDefaults with mu8ar_Password := fun _ => 0x31 }.toBytes
  else if key = CONFIG_DATA_KEY then
    some { loadFieldConfigDefaults with mu16_AdvertismentInterval := 1000 }.toBytes
  else if key = DYNAMIC_DATA_KEY then
    some { loadDynamicRuntimeDefaults with mu16_ResetCnt := 3 }.toBytes
  else
    none

/-- A boot loads the three records that are stored. -/
theorem a_used_flash_loads_whole :
    LoadedWhole usedFlash
      (appStorageVerifyAndLoad (atReset usedFlash) { addr_low := 0, addr_high := 0 }
        goodLoad).1 := by
  refine ((a_boot_loads_whole_records_of_full_length (atReset usedFlash) _ goodLoad
    (by decide)).2).mpr ⟨?_, ?_, Or.inl ?_⟩
  all_goals intro _
  · rw [readNvsData_of_bytes _ _ _ _
      { loadFactoryProductionDefaults with mu8ar_Password := fun _ => 0x31 } rfl]
  · rw [readNvsData_of_bytes _ _ _ _
      { loadFieldConfigDefaults with mu16_AdvertismentInterval := 1000 } rfl]
  · rw [readNvsData_of_bytes _ _ _ _ { loadDynamicRuntimeDefaults with mu16_ResetCnt := 3 } rfl]

/-- Flash after a write of the production record by a firmware that only had its first field. -/
def shortFlash : Nvs := fun key => if key = PRODUCTION_DATA_KEY then some [0x50, 0x56] else none

/-- The magic number alone is taken for a production record: the tag runs with an address and
a password of zeros. -/
theorem a_record_of_two_bytes_is_taken :
    ¬ ∀ (st : Storage) (ficr : Ficr) (io : LoadIo), io.Succeeds →
      (appStorageVerifyAndLoad st ficr io).2 = 0 →
        LoadedWhole st.nvs (appStorageVerifyAndLoad st ficr io).1 := by
  intro h
  have hwhole := h (atReset shortFlash) { addr_low := 0, addr_high := 0 } goodLoad (by decide)
    (by decide)
  rcases hwhole.production with hstored | hdefault
  · exact absurd hstored.bytes (by decide)
  · exact absurd hdefault (by decide)

end smart_track.loading
