-- The battery (`vision_battery.c`): the percentage that is read off the voltage of a
-- worn cell, and the counter that stands for it while the voltage still says nothing.
-- The counter follows the capacity in the dynamic record, which is a `float` in the
-- code and a rational number here.
import SmartTrack.Broadcast
import SmartTrack.Loading

open mirror smart_track.production smart_track.storage smart_track.vision_advt
  smart_track.broadcast

namespace smart_track.battery

/-! ## The voltage table -/

def gu16_voltTable : List UInt16 :=
  [2900, 2935, 2970, 3005, 3040, 3075, 3110, 3145, 3180, 3215, 3250, 3285, 3320, 3355, 3390]

def gu8_pergTable : List UInt8 := [5, 10, 15, 20, 25, 30, 35, 40, 45, 50, 55, 60, 65, 70, 75]

/-- The scan of the table, from the entry below `i` down. -/
def scanFrom (BatVolt : Int) : Nat → UInt8
  | 0 => 0
  | i + 1 =>
    if ((gu16_voltTable.getD i 0).toNat : Int) ≤ BatVolt then gu8_pergTable.getD i 0
    else scanFrom BatVolt i

def gu8Volt2PercentTable (BatVolt : Int) : UInt8 := scanFrom BatVolt 15

/-! ## The state -/

def FULL_BAT_CAPACITY : ℚ := 2160000
def AVG_DEEPSLEEP_CRNT_uAH : ℚ := 14
def DEFAULT_BATT_PER : ℚ := 100

/-- `st_DynamicData_t`, with the capacity as the number that its `float` stands for. -/
structure Dynamic where
  f32_RemainingBatCap : ℚ
  mu16_ResetCnt : UInt16
  mu32_CurrentTime : UInt32

/-- The counters of the file, the record, and what flash has under its key. -/
structure Battery where
  gst_DynamicData : Dynamic
  nvs : Option Dynamic
  gu8_ActBasedBattPercent : UInt8 := 0
  gu8_LastActBasedBattPercent : UInt8 := 0

def voltageToPercentConvert (b : Battery) (val : Int) : UInt8 :=
  if val < 3400 then gu8Volt2PercentTable val else b.gu8_ActBasedBattPercent

/-- `battery_voltage_get` and `battery_measure`: what a reading comes to, in the broadcast
and as the charge. -/
def batteryMeasure (b : Battery) (a : Advt) (val_mv voltageRc levelRc : Int) : Advt × UInt8 :=
  let charge := voltageToPercentConvert b val_mv
  (updateAdvBatLevel (updateAdvBatmV a (toUInt16 val_mv) voltageRc) charge levelRc, charge)

/-! ## The record in flash -/

/-- A write that fails leaves flash as it is. -/
def save (nvs : Option Dynamic) (r : Dynamic) (writeRc : Int) : Option Dynamic :=
  if writeRc < 0 then nvs else some r

def dynamicDefaults : Dynamic :=
  { f32_RemainingBatCap := FULL_BAT_CAPACITY, mu16_ResetCnt := 0, mu32_CurrentTime := 1780825185 }

def countBoot (r : Dynamic) : Dynamic := { r with mu16_ResetCnt := r.mu16_ResetCnt + 1 }

/-- Whether the boot comes to the dynamic record, and the code of its write there. -/
structure BootIo where
  reached : Bool
  writeRc : Int

/-- The record as a boot takes it from flash, where it is whole or missing. The counters
start at zero. -/
def boot (nvs : Option Dynamic) (io : BootIo) : Battery :=
  if io.reached then
    let r := (nvs.map countBoot).getD dynamicDefaults
    { gst_DynamicData := r, nvs := save nvs r io.writeRc }
  else
    { gst_DynamicData := { f32_RemainingBatCap := 0, mu16_ResetCnt := 0, mu32_CurrentTime := 0 },
      nvs := nvs }

/-! ## The hourly work -/

/-- The capacity in percent, cut to a whole number. -/
def percentOf (cap : ℚ) : UInt8 := UInt8.ofNat ⌊cap / FULL_BAT_CAPACITY * DEFAULT_BATT_PER⌋₊

def discharged (cap : ℚ) : ℚ :=
  let cap := cap - AVG_DEEPSLEEP_CRNT_uAH
  if cap < 0 then 0 else cap

def activityBatteryPercentageWorkHandler (b : Battery) (writeRc : Int) : Battery :=
  let r := { b.gst_DynamicData with
    f32_RemainingBatCap := discharged b.gst_DynamicData.f32_RemainingBatCap }
  let percent := percentOf r.f32_RemainingBatCap
  let b := { b with gst_DynamicData := r, gu8_ActBasedBattPercent := percent }
  if percent ≠ b.gu8_LastActBasedBattPercent then
    { b with gu8_LastActBasedBattPercent := percent, nvs := save b.nvs r writeRc }
  else
    b

/-! ## The runs -/

/-- The set clock commands of both channels write the record as well. The supervisor only
changes its time in RAM. -/
inductive Event
  | activity (writeRc : Int)
  | setClock (epoch : UInt32) (writeRc : Int)
  | supervisor (current_live_time : UInt32)
  | reboot (io : BootIo)

def withTime (r : Dynamic) (epoch : UInt32) : Dynamic := { r with mu32_CurrentTime := epoch }

def next (b : Battery) : Event → Battery
  | .activity rc => activityBatteryPercentageWorkHandler b rc
  | .setClock epoch rc =>
    let r := withTime b.gst_DynamicData epoch
    { b with gst_DynamicData := r, nvs := save b.nvs r rc }
  | .supervisor time => { b with gst_DynamicData := withTime b.gst_DynamicData time }
  | .reboot io => boot b.nvs io

/-- The capacity in RAM. -/
def live (b : Battery) : ℚ := b.gst_DynamicData.f32_RemainingBatCap

/-- The runs that start at a boot, with no more than the full capacity in flash. -/
def system : runs.System Battery Event where
  start b := ∃ nvs io, (∀ r ∈ nvs, r.f32_RemainingBatCap ≤ FULL_BAT_CAPACITY) ∧ b = boot nvs io
  allowed _ _ := True
  next := next

/-! ## The percentage of a capacity -/

theorem discharged_nonneg (cap : ℚ) : 0 ≤ discharged cap := by
  unfold discharged
  simp only
  split_ifs with h
  · exact le_refl 0
  · exact not_lt.mp h

theorem discharged_full {cap : ℚ} (h : cap ≤ FULL_BAT_CAPACITY) :
    discharged cap ≤ FULL_BAT_CAPACITY := by
  have hfull : (0 : ℚ) ≤ FULL_BAT_CAPACITY := by norm_num [FULL_BAT_CAPACITY]
  have hstep : (0 : ℚ) ≤ AVG_DEEPSLEEP_CRNT_uAH := by norm_num [AVG_DEEPSLEEP_CRNT_uAH]
  unfold discharged
  simp only
  split_ifs
  · exact hfull
  · exact (sub_le_self cap hstep).trans h

theorem percentOf_toNat {cap : ℚ} (h : cap ≤ FULL_BAT_CAPACITY) :
    (percentOf cap).toNat = ⌊cap / 21600⌋₊ := by
  have heq : cap / FULL_BAT_CAPACITY * DEFAULT_BATT_PER = cap / 21600 := by
    simp only [FULL_BAT_CAPACITY, DEFAULT_BATT_PER]
    ring
  have hle : ⌊cap / 21600⌋₊ ≤ 100 := by
    apply Nat.floor_le_of_le
    simp only [FULL_BAT_CAPACITY] at h
    push_cast
    linarith
  unfold percentOf
  rw [heq, UInt8.toNat_ofNat', Nat.mod_eq_of_lt (by omega)]

theorem percentOf_le {cap : ℚ} (h : cap ≤ FULL_BAT_CAPACITY) : (percentOf cap).toNat ≤ 100 := by
  rw [percentOf_toNat h]
  apply Nat.floor_le_of_le
  simp only [FULL_BAT_CAPACITY] at h
  push_cast
  linarith

/-- One percent is 21600 µAh. -/
theorem percentOf_zero_iff {cap : ℚ} (h : cap ≤ FULL_BAT_CAPACITY) :
    percentOf cap = 0 ↔ cap < 21600 := by
  rw [← UInt8.toNat_inj, percentOf_toNat h]
  change ⌊cap / 21600⌋₊ = 0 ↔ _
  rw [Nat.floor_eq_zero, div_lt_one (by norm_num)]

/-! ## The charge and the voltage -/

/-- The entry of five percent more for each of the fifteen voltages. -/
theorem pergTable_eq {i : Nat} (h : i < 15) : (gu8_pergTable.getD i 0).toNat = 5 * (i + 1) := by
  interval_cases i <;> rfl

theorem scanFrom_le (v : Int) {i : Nat} (h : i ≤ 15) : (scanFrom v i).toNat ≤ 5 * i := by
  induction i with
  | zero => exact le_refl 0
  | succ i ih =>
    unfold scanFrom
    split
    · rw [pergTable_eq (by omega)]
    · have hrest := ih (by omega)
      omega

/-- A lower voltage gets no further down than a higher one, and the entries only fall on
the way down. -/
theorem scanFrom_mono {v1 v2 : Int} (hv : v1 ≤ v2) {i : Nat} (h : i ≤ 15) :
    (scanFrom v1 i).toNat ≤ (scanFrom v2 i).toNat := by
  induction i with
  | zero => exact le_refl _
  | succ i ih =>
    have hrest := ih (by omega)
    have hfirst := scanFrom_le v1 (i := i) (by omega)
    have hentry := pergTable_eq (i := i) (by omega)
    unfold scanFrom
    split_ifs
    · exact le_refl _
    · omega
    · omega
    · exact hrest

/-- After a reading the broadcast has the charge that it came to. -/
theorem batteryMeasure_level (b : Battery) (a : Advt) (val_mv voltageRc levelRc : Int) :
    (batteryMeasure b a val_mv voltageRc levelRc).1.active_svc_data.data.BatPercentage =
      (batteryMeasure b a val_mv voltageRc levelRc).2 := by
  unfold batteryMeasure
  simp only
  generalize voltageToPercentConvert b val_mv = charge
  have hput := congrArg Mirror.cached
    (mirror_next (updateAdvBatmV a (toUInt16 val_mv) voltageRc) (.batLevel charge levelRc))
  rw [Mirror.put_cached] at hput
  exact congrArg (fun p => p.1.data.BatPercentage) hput

theorem table_le (v : Int) : (gu8Volt2PercentTable v).toNat ≤ 75 := scanFrom_le v (le_refl 15)

def IsInt32 (v : Int) : Prop := -2 ^ 31 ≤ v ∧ v < 2 ^ 31

/-- The charge never rises when the voltage falls, and is a percentage. -/
def FallsWithVoltage (b : Battery) : Prop :=
  ∀ v1 v2 : Int, IsInt32 v1 → IsInt32 v2 → v1 ≤ v2 →
    voltageToPercentConvert b v1 ≤ voltageToPercentConvert b v2 ∧
      voltageToPercentConvert b v1 ≤ 100 ∧ voltageToPercentConvert b v2 ≤ 100

/-- The table ends at 75 %, so the counter has to stand there or above. -/
theorem fallsWithVoltage_iff {b : Battery} (h : b.gu8_ActBasedBattPercent.toNat ≤ 100) :
    FallsWithVoltage b ↔ 75 ≤ b.gu8_ActBasedBattPercent := by
  constructor
  · intro hfalls
    exact (hfalls 3399 3400 (by constructor <;> norm_num) (by constructor <;> norm_num)
      (by norm_num)).1
  · intro hcounter v1 v2 _ _ hv
    have htop : (75 : Nat) ≤ b.gu8_ActBasedBattPercent.toNat := hcounter
    have hmono := scanFrom_mono hv (le_refl 15)
    have hle1 := table_le v1
    have hle2 := table_le v2
    simp only [gu8Volt2PercentTable] at hle1 hle2
    simp only [voltageToPercentConvert, gu8Volt2PercentTable, UInt8.le_iff_toNat_le]
    change _ ∧ _ ≤ 100 ∧ _ ≤ 100
    split_ifs <;> omega

/-- Neither flash nor RAM has more than the full capacity, and the counter is a percentage. -/
structure Bounded (b : Battery) : Prop where
  live_le : live b ≤ FULL_BAT_CAPACITY
  nvs_le : ∀ r ∈ b.nvs, r.f32_RemainingBatCap ≤ FULL_BAT_CAPACITY
  counter_le : b.gu8_ActBasedBattPercent.toNat ≤ 100

theorem save_le {nvs : Option Dynamic} {r : Dynamic} (rc : Int)
    (hnvs : ∀ r ∈ nvs, r.f32_RemainingBatCap ≤ FULL_BAT_CAPACITY)
    (hr : r.f32_RemainingBatCap ≤ FULL_BAT_CAPACITY) :
    ∀ r' ∈ save nvs r rc, r'.f32_RemainingBatCap ≤ FULL_BAT_CAPACITY := by
  unfold save
  split
  · exact hnvs
  · rintro r' ⟨⟩
    exact hr

theorem boot_bounded {nvs : Option Dynamic} (io : BootIo)
    (hnvs : ∀ r ∈ nvs, r.f32_RemainingBatCap ≤ FULL_BAT_CAPACITY) : Bounded (boot nvs io) := by
  unfold boot
  split
  · have hr : ((nvs.map countBoot).getD dynamicDefaults).f32_RemainingBatCap ≤
        FULL_BAT_CAPACITY := by
      cases nvs with
      | none => exact le_refl _
      | some r => exact hnvs r rfl
    exact ⟨hr, save_le io.writeRc hnvs hr, Nat.zero_le _⟩
  · exact ⟨by norm_num [live, FULL_BAT_CAPACITY], hnvs, Nat.zero_le _⟩

theorem bounded_next {b : Battery} (e : Event) (h : Bounded b) : Bounded (next b e) := by
  cases e with
  | activity rc =>
    have hcap := discharged_full h.live_le
    simp only [next, activityBatteryPercentageWorkHandler]
    split
    · exact ⟨hcap, save_le rc h.nvs_le hcap, percentOf_le hcap⟩
    · exact ⟨hcap, h.nvs_le, percentOf_le hcap⟩
  | setClock epoch rc => exact ⟨h.live_le, save_le rc h.nvs_le h.live_le, h.counter_le⟩
  | supervisor time => exact ⟨h.live_le, h.nvs_le, h.counter_le⟩
  | reboot io => exact boot_bounded io h.nvs_le

/-- In every state of a run the charge follows the voltage just when the counter is at 75 or
above. -/
theorem the_charge_falls_with_the_voltage (b : Battery) (es : List Event) (h : system.Run b es) :
    FallsWithVoltage (system.run b es) ↔ 75 ≤ (system.run b es).gu8_ActBasedBattPercent := by
  have hbounded : Bounded (system.run b es) := by
    refine runs.System.run_invariant (I := Bounded) (fun b e hb _ => bounded_next e hb) ?_ h.2
    obtain ⟨nvs, io, hnvs, rfl⟩ := h.1
    exact boot_bounded io hnvs
  exact fallsWithVoltage_iff hbounded.counter_le

/-- A boot from an empty flash, where every write succeeds. -/
def firstBoot : Battery := boot none { reached := true, writeRc := 0 }

theorem firstBoot_starts : system.start firstBoot := ⟨none, _, by simp, rfl⟩

theorem the_first_hour_puts_the_charge_in_order :
    FallsWithVoltage (system.run firstBoot [.activity 0]) :=
  (the_charge_falls_with_the_voltage firstBoot [.activity 0]
    ⟨firstBoot_starts, by simp [system]⟩).mpr (by decide +kernel)

/-- Before the first hourly work a full cell reads 0 % and one at 3.399 V reads 75 %. -/
theorem a_full_cell_reads_empty_after_a_boot :
    ¬ ∀ (b : Battery) (es : List Event), system.Run b es → FallsWithVoltage (system.run b es) := by
  intro h
  have hfalls := h firstBoot [] ⟨firstBoot_starts, trivial⟩ 3399 3400
    (by constructor <;> norm_num) (by constructor <;> norm_num) (by norm_num)
  revert hfalls
  decide

/-! ## The capacity in flash -/

/-- The capacity in percent of the full one. -/
def percentage (cap : ℚ) : Int := ⌊100 * cap / FULL_BAT_CAPACITY⌋

/-- Flash has the percentage of the capacity in RAM. -/
def Follows (b : Battery) : Prop :=
  b.nvs.map (fun r => percentage r.f32_RemainingBatCap) = some (percentage (live b))

instance (b : Battery) : Decidable (Follows b) := inferInstanceAs (Decidable (_ = _))

/-- The writes of the event succeed, and a boot comes to the record. -/
def Succeeds : Event → Prop
  | .activity rc => 0 ≤ rc
  | .setClock _ rc => 0 ≤ rc
  | .supervisor _ => True
  | .reboot io => io.reached = true ∧ 0 ≤ io.writeRc

/-- The runs from an empty flash in which every write succeeds. -/
def fromDefaults : runs.System Battery Event where
  start b := ∃ rc, 0 ≤ rc ∧ b = boot none { reached := true, writeRc := rc }
  allowed _ e := Succeeds e
  next := next

/-- The hourly work leaves flash at the percentage of RAM. -/
def FollowsAfter (b : Battery) : Event → Prop
  | .activity rc => Follows (next b (.activity rc))
  | _ => True

/-- The first work after a boot takes the capacity from 1 % to 0 %. -/
def FallsToZeroUnseen (b : Battery) : Prop :=
  b.gu8_LastActBasedBattPercent = 0 ∧ 21600 ≤ live b ∧ live b < 21600 + AVG_DEEPSLEEP_CRNT_uAH

instance (b : Battery) : Decidable (FallsToZeroUnseen b) := inferInstanceAs (Decidable (_ ∧ _))

/-- The hourly work does not meet the last step of the capacity with a counter that a boot
has set to zero. -/
def SeesTheChange (b : Battery) : Event → Prop
  | .activity _ => ¬ FallsToZeroUnseen b
  | _ => True

instance (b : Battery) (e : Event) : Decidable (SeesTheChange b e) := by
  apply Event.casesOn (motive := fun e => Decidable (SeesTheChange b e)) e
  all_goals
    intros
    unfold SeesTheChange
    infer_instance

theorem percentage_eq (cap : ℚ) : percentage cap = ⌊cap / 21600⌋ := by
  have heq : 100 * cap / FULL_BAT_CAPACITY = cap / 21600 := by
    simp only [FULL_BAT_CAPACITY]
    ring
  rw [percentage, heq]

theorem percentOf_eq {cap : ℚ} (h0 : 0 ≤ cap) (h : cap ≤ FULL_BAT_CAPACITY) :
    ((percentOf cap).toNat : Int) = percentage cap := by
  rw [percentOf_toNat h, percentage_eq, Int.natCast_floor_eq_floor (by positivity)]

/-- The capacities in RAM and in flash are those a cell can have, with one percentage; so has
the counter of the last write, unless it has not been set since the boot. -/
structure Kept (b : Battery) : Prop where
  nonneg : 0 ≤ live b
  le_full : live b ≤ FULL_BAT_CAPACITY
  nvs_nonneg : ∀ r ∈ b.nvs, 0 ≤ r.f32_RemainingBatCap
  nvs_le_full : ∀ r ∈ b.nvs, r.f32_RemainingBatCap ≤ FULL_BAT_CAPACITY
  follows : Follows b
  last : b.gu8_LastActBasedBattPercent = 0 ∨
    b.gu8_LastActBasedBattPercent = percentOf (live b)

theorem save_ok {rc : Int} (nvs : Option Dynamic) (r : Dynamic) (h : 0 ≤ rc) :
    save nvs r rc = some r := if_neg (by omega)

/-- A record in flash that has the capacity of RAM. -/
theorem follows_of_saved {b : Battery} {r : Dynamic} (hnvs : b.nvs = some r)
    (hr : r.f32_RemainingBatCap = live b) : Follows b := by
  unfold Follows
  rw [hnvs, ← hr]
  rfl

theorem percentage_inj {c c' : ℚ} (hc0 : 0 ≤ c) (hc : c ≤ FULL_BAT_CAPACITY) (hc0' : 0 ≤ c')
    (hc' : c' ≤ FULL_BAT_CAPACITY) : percentage c = percentage c' ↔ percentOf c = percentOf c' := by
  rw [← percentOf_eq hc0 hc, ← percentOf_eq hc0' hc', Int.ofNat_inj, UInt8.toNat_inj]

/-- The capacity falls from 1 % to 0 % in the hour just when it is less than an hour's use
above 1 %. -/
theorem falls_to_zero_iff {c : ℚ} (h : c ≤ FULL_BAT_CAPACITY) :
    percentOf (discharged c) = 0 ∧ percentOf c ≠ 0 ↔
      21600 ≤ c ∧ c < 21600 + AVG_DEEPSLEEP_CRNT_uAH := by
  rw [percentOf_zero_iff (discharged_full h), Ne, percentOf_zero_iff h, not_lt, and_comm]
  refine and_congr_right (fun hc => ?_)
  have hstep : AVG_DEEPSLEEP_CRNT_uAH = 14 := rfl
  unfold discharged
  simp only
  rw [if_neg (by rw [hstep]; linarith), sub_lt_iff_lt_add]

theorem live_activity (b : Battery) (rc : Int) :
    live (next b (.activity rc)) = discharged (live b) := by
  simp only [next, activityBatteryPercentageWorkHandler]
  split <;> rfl

/-- After the work the counter of the last write is the percentage. -/
theorem last_activity (b : Battery) (rc : Int) :
    (next b (.activity rc)).gu8_LastActBasedBattPercent = percentOf (discharged (live b)) := by
  simp only [next, activityBatteryPercentageWorkHandler]
  split
  · rfl
  · rename_i hsame
    exact (not_not.mp hsame).symm

/-- The work writes a changed percentage only. -/
theorem nvs_activity (b : Battery) (rc : Int) :
    (next b (.activity rc)).nvs =
      if percentOf (discharged (live b)) ≠ b.gu8_LastActBasedBattPercent then
        save b.nvs (next b (.activity rc)).gst_DynamicData rc
      else b.nvs := by
  simp only [next, activityBatteryPercentageWorkHandler, live]
  split <;> rfl

theorem follows_activity {b : Battery} (h : Kept b) {rc : Int} (hrc : 0 ≤ rc) :
    Follows (next b (.activity rc)) ↔ ¬ FallsToZeroUnseen b := by
  have hfalls := falls_to_zero_iff h.le_full
  have hnvs := nvs_activity b rc
  by_cases hchange : percentOf (discharged (live b)) ≠ b.gu8_LastActBasedBattPercent
  · -- The record is written.
    rw [if_pos hchange, save_ok _ _ hrc] at hnvs
    refine iff_of_true (follows_of_saved hnvs rfl) ?_
    rintro ⟨hlast, hrange⟩
    exact hchange ((hfalls.mpr hrange).1.trans hlast.symm)
  · -- Flash keeps what it has.
    rw [if_neg hchange] at hnvs
    have hkeep : Follows (next b (.activity rc)) ↔
        percentOf (live b) = percentOf (discharged (live b)) := by
      rw [← percentage_inj h.nonneg h.le_full (discharged_nonneg _) (discharged_full h.le_full)]
      have hfollows := h.follows
      unfold Follows at hfollows ⊢
      rw [hnvs, hfollows, live_activity, Option.some.injEq]
    rw [hkeep]
    rw [not_not] at hchange
    rcases h.last with hzero | hlast
    · unfold FallsToZeroUnseen
      rw [← hfalls, hchange, hzero]
      simp
    · refine iff_of_true (hlast.symm.trans hchange.symm) ?_
      rintro ⟨hzero, hrange⟩
      exact (hfalls.mpr hrange).2 (hlast.symm.trans hzero)

theorem kept_boot {nvs : Option Dynamic} {io : BootIo} (hreached : io.reached = true)
    (hrc : 0 ≤ io.writeRc) (hnonneg : ∀ r ∈ nvs, 0 ≤ r.f32_RemainingBatCap)
    (hfull : ∀ r ∈ nvs, r.f32_RemainingBatCap ≤ FULL_BAT_CAPACITY) : Kept (boot nvs io) := by
  have hram : 0 ≤ ((nvs.map countBoot).getD dynamicDefaults).f32_RemainingBatCap ∧
      ((nvs.map countBoot).getD dynamicDefaults).f32_RemainingBatCap ≤ FULL_BAT_CAPACITY := by
    cases nvs with
    | none => constructor <;> norm_num [dynamicDefaults, FULL_BAT_CAPACITY]
    | some r => exact ⟨hnonneg r rfl, hfull r rfl⟩
  have heq : boot nvs io =
      { gst_DynamicData := (nvs.map countBoot).getD dynamicDefaults,
        nvs := some ((nvs.map countBoot).getD dynamicDefaults) } := by
    unfold boot
    rw [if_pos hreached]
    simp only [save_ok _ _ hrc]
  rw [heq]
  refine ⟨hram.1, hram.2, ?_, ?_, follows_of_saved rfl rfl, Or.inl rfl⟩
  · rintro r ⟨⟩
    exact hram.1
  · rintro r ⟨⟩
    exact hram.2

theorem kept_next {b : Battery} {e : Event} (h : Kept b) (hok : Succeeds e)
    (hsees : SeesTheChange b e) : Kept (next b e) := by
  cases e with
  | activity rc =>
    have hlive := live_activity b rc
    have hnonneg : 0 ≤ live (next b (.activity rc)) := by
      rw [hlive]
      exact discharged_nonneg _
    have hfull : live (next b (.activity rc)) ≤ FULL_BAT_CAPACITY := by
      rw [hlive]
      exact discharged_full h.le_full
    refine ⟨hnonneg, hfull, ?_, ?_, (follows_activity h hok).mpr hsees, ?_⟩
    · rw [nvs_activity]
      split_ifs
      · rw [save_ok _ _ hok]
        rintro r ⟨⟩
        exact hnonneg
      · exact h.nvs_nonneg
    · rw [nvs_activity]
      split_ifs
      · exact save_le rc h.nvs_le_full hfull
      · exact h.nvs_le_full
    · right
      rw [last_activity, hlive]
  | setClock epoch rc =>
    have hnvs : (next b (.setClock epoch rc)).nvs = some (withTime b.gst_DynamicData epoch) :=
      save_ok _ _ hok
    refine ⟨h.nonneg, h.le_full, ?_, ?_, follows_of_saved hnvs rfl, h.last⟩
    · rw [hnvs]
      rintro r ⟨⟩
      exact h.nonneg
    · exact save_le rc h.nvs_le_full h.le_full
  | supervisor time => exact ⟨h.nonneg, h.le_full, h.nvs_nonneg, h.nvs_le_full, h.follows, h.last⟩
  | reboot io => exact kept_boot hok.1 hok.2 h.nvs_nonneg h.nvs_le_full

/-- In a run from an empty flash every hourly work leaves flash at the percentage of RAM just
when none takes the capacity from 1 % to 0 % as the first work after a boot. -/
theorem flash_follows_while_the_change_is_seen (b : Battery) (es : List Event)
    (h : fromDefaults.Run b es) :
    fromDefaults.Steps FollowsAfter b es ↔ fromDefaults.Steps SeesTheChange b es := by
  refine runs.System.steps_iff_steps (I := Kept) ?_
    (fun _ _ hk hok hc => kept_next hk hok hc) ?_ h.2
  · intro b e hk hok
    cases e with
    | activity rc => exact follows_activity hk hok
    | setClock => exact Iff.rfl
    | supervisor => exact Iff.rfl
    | reboot => exact Iff.rfl
  · obtain ⟨rc, hrc, rfl⟩ := h.1
    exact kept_boot rfl hrc (by simp) (by simp)

theorem firstBoot_from_defaults : fromDefaults.start firstBoot := ⟨0, le_refl 0, rfl⟩

theorem the_first_hours_are_followed :
    fromDefaults.Steps FollowsAfter firstBoot
      [.activity 0, .setClock 1780825185 0, .reboot { reached := true, writeRc := 0 },
        .activity 0] :=
  (flash_follows_while_the_change_is_seen firstBoot _
    ⟨firstBoot_from_defaults, by simp [fromDefaults, Succeeds]⟩).mpr (by decide +kernel)

theorem run_activity {b : Battery} {n : Nat} (h : AVG_DEEPSLEEP_CRNT_uAH * n ≤ live b) :
    live (fromDefaults.run b (List.replicate n (.activity 0))) =
      live b - AVG_DEEPSLEEP_CRNT_uAH * n := by
  induction n generalizing b with
  | zero => simp
  | succ n ih =>
    have hstep : AVG_DEEPSLEEP_CRNT_uAH = 14 := rfl
    have hlive : live (fromDefaults.next b (.activity 0)) = live b - AVG_DEEPSLEEP_CRNT_uAH := by
      change live (next b (.activity 0)) = _
      rw [live_activity]
      refine if_neg ?_
      push_cast at h
      rw [hstep] at h ⊢
      nlinarith [n.cast_nonneg (α := ℚ)]
    rw [List.replicate_succ, runs.System.run_cons, ih ?_, hlive]
    · push_cast
      ring
    · rw [hlive]
      push_cast at h
      linarith

/-- Seventeen years of use, to a capacity of 21612 µAh. -/
def worn : List Event := List.replicate 152742 (.activity 0)

theorem worn_live : live (fromDefaults.run firstBoot worn) = 21612 := by
  have hfull : live firstBoot = 2160000 := rfl
  have hstep : AVG_DEEPSLEEP_CRNT_uAH = 14 := rfl
  have hrun := run_activity (b := firstBoot) (n := 152742) (by rw [hfull, hstep]; norm_num)
  rw [hfull, hstep] at hrun
  norm_num at hrun
  exact hrun

/-- The clock is set, the tag restarts, and an hour later the work runs. -/
def restarted : List Event :=
  [.setClock 1780825185 0, .reboot { reached := true, writeRc := 0 }, .activity 0]

/-- After a restart at 21612 µAh the work leaves flash behind. -/
theorem restarted_behind {b : Battery} (h : live b = 21612) :
    ¬ fromDefaults.Steps FollowsAfter b restarted := by
  rintro ⟨-, -, hfollows, -⟩
  have hfull : FULL_BAT_CAPACITY = 2160000 := rfl
  have hlive : b.gst_DynamicData.f32_RemainingBatCap = 21612 := h
  have hsaved : ∀ r ∈ (next b (.setClock 1780825185 0)).nvs, r.f32_RemainingBatCap = 21612 := by
    rintro r ⟨⟩
    exact hlive
  have hkept :
      Kept (boot (next b (.setClock 1780825185 0)).nvs { reached := true, writeRc := 0 }) := by
    refine kept_boot rfl (le_refl 0) ?_ ?_
    · intro r hr
      rw [hsaved r hr]
      norm_num
    · intro r hr
      rw [hsaved r hr, hfull]
      norm_num
  refine (follows_activity hkept (le_refl 0)).mp hfollows ⟨rfl, ?_⟩
  change 21600 ≤ b.gst_DynamicData.f32_RemainingBatCap ∧
    b.gst_DynamicData.f32_RemainingBatCap < 21600 + 14
  rw [hlive]
  norm_num

/-- The clock is set at 1 %, and the tag restarts; the next hour takes the capacity to 0 %,
which is what the counter starts at, and flash stays at 1 %. -/
theorem the_last_percent_stays_in_flash :
    ¬ ∀ (b : Battery) (es : List Event), fromDefaults.Run b es →
      fromDefaults.Steps FollowsAfter b es := by
  intro h
  have hallowed : fromDefaults.Steps fromDefaults.allowed firstBoot (worn ++ restarted) := by
    refine runs.System.steps_of_forall (fun e he _ => ?_)
    rcases List.mem_append.mp he with hworn | hrest
    · rw [List.eq_of_mem_replicate hworn]
      exact le_refl 0
    · clear he
      revert e
      simp [restarted, fromDefaults, Succeeds]
  have hsteps := h firstBoot (worn ++ restarted) ⟨firstBoot_from_defaults, hallowed⟩
  rw [runs.System.steps_append] at hsteps
  exact restarted_behind worn_live hsteps.2

/-! ## The record of bytes -/

/-- The record that flash has, with its capacity bits as the number that they stand for. -/
def ofRecord (value : UInt32 → ℚ) (d : DynamicData) : Dynamic :=
  { f32_RemainingBatCap := value d.f32_RemainingBatCap, mu16_ResetCnt := d.mu16_ResetCnt,
    mu32_CurrentTime := d.mu32_CurrentTime }

/-- Flash has what the model says that it has. -/
def InFlash (value : UInt32 → ℚ) (nvs : Nvs) : Option Dynamic → Prop
  | none => nvs dynamicSlot.key = none
  | some r => ∃ d, dynamicSlot.Holds nvs d ∧ ofRecord value d = r

/-- A write of the record in RAM is a write of its bytes. -/
theorem save_inFlash {value : UInt32 → ℚ} {nvs : Nvs} {old : Option Dynamic} {d : DynamicData}
    (hmagic : d.mu16_MagicNumber = DYNAMIC_MAGIC_NUMBER) (rc : Int) (h : InFlash value nvs old) :
    InFlash value (dynamicSlot.save nvs d rc) (save old (ofRecord value d) rc) := by
  unfold save
  split
  · rename_i hrc
    have hsame : dynamicSlot.save nvs d rc = nvs := if_pos hrc
    rw [hsame]
    exact h
  · rename_i hrc
    exact ⟨d, dynamicSlot.save_holds nvs d (by omega) hmagic, rfl⟩

/-- A boot that comes to the record takes from the bytes what the model says. -/
theorem boot_inFlash {value : UInt32 → ℚ} (hfull : value FULL_BAT_CAPACITY_uAH = FULL_BAT_CAPACITY)
    {nvs : Nvs} {old : Option Dynamic} (h : InFlash value nvs old) (rc : Int) :
    let loaded := countReset
      (dynamicSlot.verifyAndLoad nvs (dynamicSlot.layout.ofBytes []) rc) rc
    ofRecord value loaded.ram = (boot old { reached := true, writeRc := rc }).gst_DynamicData ∧
      InFlash value loaded.nvs (boot old { reached := true, writeRc := rc }).nvs := by
  cases old with
  | none =>
    have hkey : nvs dynamicSlot.key = none := h
    have hloaded : dynamicSlot.verifyAndLoad nvs (dynamicSlot.layout.ofBytes []) rc =
        { ram := loadDynamicRuntimeDefaults,
          nvs := dynamicSlot.save nvs loadDynamicRuntimeDefaults rc, valid := false,
          rc := if rc < 0 then rc else 0 } := by
      unfold Slot.verifyAndLoad
      simp only [readNvsData, hkey]
      exact if_pos (Or.inl (by decide))
    have hdefaults : ofRecord value loadDynamicRuntimeDefaults = dynamicDefaults := by
      simp [ofRecord, dynamicDefaults, loadDynamicRuntimeDefaults, hfull]
    simp only [hloaded, countReset]
    refine ⟨hdefaults, ?_⟩
    have hold : InFlash value nvs none := h
    have hsaved := save_inFlash (d := loadDynamicRuntimeDefaults) rfl rc hold
    rw [hdefaults] at hsaved
    exact hsaved
  | some r =>
    obtain ⟨d, hholds, rfl⟩ := h
    simp only [dynamicSlot.verifyAndLoad_of_holds hholds, countReset]
    refine ⟨rfl, ?_⟩
    have hcounted : (loading.counted d).mu16_MagicNumber = DYNAMIC_MAGIC_NUMBER := hholds.magic_ok
    have hold : InFlash value nvs (some (ofRecord value d)) := ⟨d, hholds, rfl⟩
    exact save_inFlash hcounted rc hold

end smart_track.battery
