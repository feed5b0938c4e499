-- The battery level on its way out (`vision_battery.c`). A reading goes into the data of the Vision
-- set at once; the work that follows it hands the charge to the stack, which has a broadcast of
-- its own. The level is only noted when the stack has taken it.
import SmartTrack.Battery
import SmartTrack.Zephyr

open mirror smart_track.zephyr smart_track.production smart_track.vision_advt
open smart_track.battery (Battery batteryMeasure activityBatteryPercentageWorkHandler Bounded)

namespace smart_track.charge

def CONFIG_APP_BATTERY_VOLTAGE_POLL_INTERVAL : Nat := 10
def CONFIG_APP_BATTERY_PERCENTAGE_CAL_INTERVAL : Nat := 60

/-- The static variables of the file, those inside of functions included, with the broadcast and
the level that the stack has taken beside them. -/
structure Gauge where
  battery : Battery
  advt : Advt
  battery_charge : UInt8 := 0
  battery_level : UInt8 := 0xFF
  stack_level : Option UInt8 := none
  battery_level_set_work : Bool := false
  battery_periodic_poll_work : Delayable := none
  activity_battery_percentage_work : Delayable := none

/-- The codes that a reading meets: of the ADC, and of the controller for each of the two changes
of the broadcast. -/
structure MeasureIo where
  adcRc : Int
  val_mv : Int
  voltageRc : Int
  levelRc : Int

def measure (g : Gauge) (io : MeasureIo) : Gauge × Int :=
  if io.adcRc ≠ 0 then
    (g, io.adcRc)
  else
    let (a, charge) := batteryMeasure g.battery g.advt io.val_mv io.voltageRc io.levelRc
    ({ g with advt := a, battery_charge := charge }, 0)

/-- `rc` is the code of `bt_fast_pair_fmdn_battery_level_set`. -/
def batteryLevelSet (g : Gauge) (forced_set : Bool) (rc : Int) : Gauge × Int :=
  if forced_set = false ∧ g.battery_level = g.battery_charge then
    (g, 0)
  else if rc ≠ 0 then
    (g, rc)
  else
    ({ g with stack_level := some g.battery_charge, battery_level := g.battery_charge }, 0)

def batteryPeriodicPollHandler (g : Gauge) (io : MeasureIo) : Gauge :=
  let (g, _) := measure { g with battery_periodic_poll_work := none } io
  { g with
    battery_level_set_work := true
    battery_periodic_poll_work := kWorkSchedule g.battery_periodic_poll_work
      (K_MINUTES CONFIG_APP_BATTERY_VOLTAGE_POLL_INTERVAL) }

def batteryLevelSetWorkHandler (g : Gauge) (rc : Int) : Gauge :=
  (batteryLevelSet { g with battery_level_set_work := false } false rc).1

def activityWork (g : Gauge) (writeRc : Int) : Gauge :=
  { g with
    battery := activityBatteryPercentageWorkHandler g.battery writeRc
    activity_battery_percentage_work := kWorkSchedule none
      (K_MINUTES CONFIG_APP_BATTERY_PERCENTAGE_CAL_INTERVAL) }

def batteryLevelSetInit (g : Gauge) (io : MeasureIo) (rc : Int) : Gauge × Int :=
  let (g, err) := measure g io
  if err ≠ 0 then (g, err) else batteryLevelSet g true rc

/-- `hwRc` is what `battery_init` makes of the ADC. -/
def appBatteryInit (g : Gauge) (hwRc : Int) (io : MeasureIo) (rc : Int) : Gauge × Int :=
  if hwRc ≠ 0 then
    (g, hwRc)
  else
    let (g, err) := batteryLevelSetInit g io rc
    if err ≠ 0 then
      (g, err)
    else
      ({ g with
        activity_battery_percentage_work :=
          kWorkSchedule g.activity_battery_percentage_work K_NO_WAIT
        battery_periodic_poll_work := kWorkSchedule g.battery_periodic_poll_work K_NO_WAIT }, 0)

/-! ## The runs -/

/-- The codes of a boot that comes through `app_battery_init`, and what comes after it. -/
structure BootIo where
  hwRc : Int
  measure : MeasureIo
  setRc : Int
  storage : battery.BootIo
  production : ProductionData
  advt : InitIo

/-- The Vision set is made after the first reading, on data that is cleared. -/
def boot (nvs : Option battery.Dynamic) (io : BootIo) : Gauge × Int :=
  let (g, err) := appBatteryInit { battery := battery.boot nvs io.storage, advt := {} }
    io.hwRc io.measure io.setRc
  if err ≠ 0 then (g, err)
  else ({ g with advt := (bleAdvCustomInit g.advt io.production io.advt).1 }, 0)

/-- The set clock commands and the supervisor change the record as well. -/
inductive Event
  | poll (io : MeasureIo)
  | levelSetWork (rc : Int)
  | activity (writeRc : Int)
  | setClock (epoch : UInt32) (writeRc : Int)
  | supervisor (current_live_time : UInt32)

def next (g : Gauge) : Event → Gauge
  | .poll io => batteryPeriodicPollHandler g io
  | .levelSetWork rc => batteryLevelSetWorkHandler g rc
  | .activity rc => activityWork g rc
  | .setClock epoch rc => { g with battery := battery.next g.battery (.setClock epoch rc) }
  | .supervisor time => { g with battery := battery.next g.battery (.supervisor time) }

def Allowed (g : Gauge) : Event → Prop
  | .poll _ => g.battery_periodic_poll_work ≠ none
  | .levelSetWork _ => g.battery_level_set_work = true
  | .activity _ => g.activity_battery_percentage_work ≠ none
  | _ => True

instance (g : Gauge) (e : Event) : Decidable (Allowed g e) := by
  apply Event.casesOn (motive := fun e => Decidable (Allowed g e)) e
  all_goals
    intros
    unfold Allowed
    infer_instance

/-- The runs start at a boot that comes through, with no more than the full capacity in flash. -/
def system : runs.System Gauge Event where
  start g := ∃ nvs io, (∀ r ∈ nvs, r.f32_RemainingBatCap ≤ battery.FULL_BAT_CAPACITY) ∧
    boot nvs io = (g, 0)
  allowed := Allowed
  next := next

instance (g : Gauge) (e : Event) : Decidable (system.allowed g e) :=
  inferInstanceAs (Decidable (Allowed g e))

/-! ## What is out of date, and why -/

/-- The noted level, and what the stack has taken. -/
def levelMirror (g : Gauge) : Mirror UInt8 := { cached := g.battery_level, held := g.stack_level }

/-- The changes of the Vision data that a reading makes. -/
def changes (g : Gauge) (io : MeasureIo) : List broadcast.Event :=
  [.batmV (broadcast.toUInt16 io.val_mv) io.voltageRc,
    .batLevel (battery.voltageToPercentConvert g.battery io.val_mv) io.levelRc]

/-- The watcher notes whether a reading has succeeded since the boot, how the controller answered
the changes of the Vision data, and whether the stack has refused the level since the last one
that it took. -/
structure Notes where
  measured : Bool := false
  answers : Mirror.Standing (BleServiceData × BleMfgData)
  refused : Bool := false
  deriving DecidableEq

/-- The notes of a boot: the controller has the data of an init that came through, and after
another one whatever it has counts as a refusal. -/
def firstNotes (g : Gauge) : Notes :=
  { answers :=
      if broadcast.Broadcasts g.advt then .taken else .refused (broadcast.accepted g.advt) }

def note (n : Notes) (g : Gauge) : Event → Notes
  | .poll io =>
    if io.adcRc = 0 then
      { n with
        measured := true
        answers := (broadcast.watched.run (g.advt, n.answers) (changes g io)).2 }
    else
      n
  | .levelSetWork rc =>
    if g.battery_level = g.battery_charge then { n with refused := false }
    else { n with refused := decide (rc ≠ 0) }
  | _ => n

def watched (first : Notes) : runs.System (Gauge × Notes) Event := system.watch first note

/-- The level of the stack is the charge, unless it is on its way or was refused. -/
def StackFollows (p : Gauge × Notes) : Prop :=
  p.1.stack_level = some p.1.battery_charge ∨ p.1.battery_level_set_work = true ∨
    p.2.refused = true

/-- From the first reading on the data block of the Vision set has the charge, and so has the
payload that the controller took last, unless a refusal of it still counts. -/
def VisionFollows (p : Gauge × Notes) : Prop :=
  p.2.measured = true →
    p.1.advt.active_svc_data.data.BatPercentage = p.1.battery_charge ∧
      (p.2.answers.Settled (broadcast.active p.1.advt) →
        (broadcast.accepted p.1.advt).map (fun data => data.1.data.BatPercentage) =
          some p.1.battery_charge)

/-- The readings and the count go on, and the charge is a percentage. -/
structure GoesOn (g : Gauge) : Prop where
  poll : g.battery_periodic_poll_work ≠ none
  activity : g.activity_battery_percentage_work ≠ none
  percentage : g.battery_charge.toNat ≤ 100

structure Sound (p : Gauge × Notes) : Prop where
  noted : (levelMirror p.1).InSync
  stack : StackFollows p
  level : p.2.measured = true →
    p.1.advt.active_svc_data.data.BatPercentage = p.1.battery_charge
  told : broadcast.Told (p.1.advt, p.2.answers)
  goes_on : GoesOn p.1
  bounded : Bounded p.1.battery

theorem Sound.vision {p : Gauge × Notes} (h : Sound p) : VisionFollows p := by
  intro hmeasured
  have hlevel := h.level hmeasured
  refine ⟨hlevel, fun hsettled => ?_⟩
  have hsync : broadcast.accepted p.1.advt = some (broadcast.active p.1.advt) :=
    (Mirror.inSync_iff_settled h.told).mpr hsettled
  rw [hsync, Option.map_some]
  exact congrArg some hlevel

/-! ## One step -/

theorem levelSet_mirror (g : Gauge) (forced_set : Bool) (rc : Int) :
    levelMirror (batteryLevelSet g forced_set rc).1 =
      (levelMirror g).send g.battery_charge forced_set (decide (rc = 0)) := by
  unfold batteryLevelSet Mirror.send levelMirror
  split
  · rfl
  · by_cases hrc : rc = 0
    · simp [hrc]
    · simp [hrc]

/-- A set changes nothing else. -/
theorem levelSet_frame (g : Gauge) (forced_set : Bool) (rc : Int) :
    ∃ level stack, (batteryLevelSet g forced_set rc).1 =
      { g with battery_level := level, stack_level := stack } := by
  unfold batteryLevelSet
  split_ifs <;> exact ⟨_, _, rfl⟩

/-- A reading makes its changes to the Vision data. -/
theorem measure_advt (g : Gauge) (io : MeasureIo) (h : io.adcRc = 0) :
    (measure g io).1.advt = broadcast.system.run g.advt (changes g io) := by
  unfold measure
  rw [if_neg (not_not_intro h)]
  rfl

theorem told_measure {g : Gauge} {s : Mirror.Standing (BleServiceData × BleMfgData)}
    (io : MeasureIo) (hadc : io.adcRc = 0) (h : broadcast.Told (g.advt, s)) :
    broadcast.Told
      ((measure g io).1.advt, (broadcast.watched.run (g.advt, s) (changes g io)).2) := by
  have htold : broadcast.Told (broadcast.watched.run (g.advt, s) (changes g io)) :=
    runs.System.run_invariant (A := fun _ _ => True)
      (fun p e hp _ => broadcast.told_next p e hp) h (runs.System.steps_trivial _ _)
  rw [measure_advt g io hadc]
  rw [← broadcast.system.watch_run_fst .taken broadcast.note (g.advt, s) (changes g io)]
  exact htold

/-- A reading goes into the data block and the charge together. -/
theorem measure_level (g : Gauge) (io : MeasureIo) (h : io.adcRc = 0) :
    (measure g io).1.advt.active_svc_data.data.BatPercentage = (measure g io).1.battery_charge := by
  unfold measure
  rw [if_neg (not_not_intro h)]
  exact battery.batteryMeasure_level g.battery g.advt io.val_mv io.voltageRc io.levelRc

theorem charge_le {b : Battery} (a : Advt) (val_mv voltageRc levelRc : Int) (h : Bounded b) :
    (batteryMeasure b a val_mv voltageRc levelRc).2.toNat ≤ 100 := by
  show (battery.voltageToPercentConvert b val_mv).toNat ≤ 100
  unfold battery.voltageToPercentConvert
  split
  · have htable := battery.table_le val_mv
    omega
  · exact h.counter_le

theorem measure_frame (g : Gauge) (io : MeasureIo) (h : Bounded g.battery) :
    ∃ advt charge, (measure g io).1 = { g with advt := advt, battery_charge := charge } ∧
      (g.battery_charge.toNat ≤ 100 → charge.toNat ≤ 100) ∧
      (io.adcRc ≠ 0 → advt = g.advt ∧ charge = g.battery_charge) := by
  unfold measure
  split
  · exact ⟨_, _, rfl, id, fun _ => ⟨rfl, rfl⟩⟩
  · rename_i hadc
    exact ⟨_, _, rfl, fun _ => charge_le _ _ _ _ h, fun hno => absurd hno hadc⟩

theorem sound_poll {p : Gauge × Notes} (io : MeasureIo) (h : Sound p) :
    Sound (next p.1 (.poll io), note p.2 p.1 (.poll io)) := by
  obtain ⟨g, n⟩ := p
  obtain ⟨advt, charge, heq, hle, hfailed⟩ := measure_frame
    { g with battery_periodic_poll_work := none } io h.bounded
  have hnext : next g (.poll io) = { g with
      advt := advt
      battery_charge := charge
      battery_level_set_work := true
      battery_periodic_poll_work :=
        some (K_MINUTES CONFIG_APP_BATTERY_VOLTAGE_POLL_INTERVAL) } := by
    show batteryPeriodicPollHandler g io = _
    unfold batteryPeriodicPollHandler
    simp only [heq]
    rfl
  have hpercentage : charge.toNat ≤ 100 := hle h.goes_on.percentage
  show Sound (next g (.poll io), note n g (.poll io))
  rw [hnext]
  by_cases hadc : io.adcRc = 0
  · have hlevel := measure_level { g with battery_periodic_poll_work := none } io hadc
    have htold := told_measure (g := { g with battery_periodic_poll_work := none }) io hadc h.told
    rw [heq] at hlevel htold
    simp only [note, if_pos hadc]
    exact ⟨h.noted, Or.inr (Or.inl rfl), fun _ => hlevel, htold,
      ⟨by simp, h.goes_on.activity, hpercentage⟩, h.bounded⟩
  · obtain ⟨hadvt, hcharge⟩ := hfailed hadc
    simp only [note, if_neg hadc, hadvt, hcharge]
    exact ⟨h.noted, Or.inr (Or.inl rfl), h.level, h.told,
      ⟨by simp, h.goes_on.activity, h.goes_on.percentage⟩, h.bounded⟩

/-- The stack has the charge after a set just when it takes it, or has it already. -/
theorem levelSet_held {g : Gauge} (rc : Int) (h : (levelMirror g).InSync) :
    (batteryLevelSetWorkHandler g rc).stack_level = some g.battery_charge ↔
      rc = 0 ∨ g.stack_level = some g.battery_charge := by
  have hmirror := levelSet_mirror { g with battery_level_set_work := false } false rc
  have hsend := Mirror.held_send g.battery_charge false (decide (rc = 0)) h
  rw [decide_eq_true_iff] at hsend
  exact (iff_of_eq (congrArg (fun m => m.held = some g.battery_charge) hmirror)).trans hsend

theorem sound_levelSet {p : Gauge × Notes} (rc : Int) (h : Sound p) :
    Sound (next p.1 (.levelSetWork rc), note p.2 p.1 (.levelSetWork rc)) := by
  obtain ⟨g, n⟩ := p
  have hmirror := levelSet_mirror { g with battery_level_set_work := false } false rc
  obtain ⟨level, stack, heq⟩ := levelSet_frame { g with battery_level_set_work := false } false rc
  have hnoted : (levelMirror { g with battery_level_set_work := false }).InSync := h.noted
  have hheld : stack = some g.battery_charge ↔ rc = 0 ∨ g.stack_level = some g.battery_charge := by
    have hset := levelSet_held rc h.noted
    unfold batteryLevelSetWorkHandler at hset
    rw [heq] at hset
    exact hset
  have hsync : (levelMirror (batteryLevelSet
      { g with battery_level_set_work := false } false rc).1).InSync := by
    rw [hmirror]
    exact Mirror.inSync_send hnoted
  show Sound ((batteryLevelSet { g with battery_level_set_work := false } false rc).1,
    note n g (.levelSetWork rc))
  rw [heq] at hsync ⊢
  obtain ⟨refused, hnotes⟩ :
      ∃ refused, note n g (.levelSetWork rc) = { n with refused := refused } := by
    unfold note
    simp only
    split <;> exact ⟨_, rfl⟩
  refine ⟨hsync, ?_, ?_, ?_, ⟨h.goes_on.poll, h.goes_on.activity, h.goes_on.percentage⟩, h.bounded⟩
  · -- The watcher notes a refusal only where the level was not the charge before.
    by_cases hskip : g.battery_level = g.battery_charge
    · exact Or.inl (hheld.mpr (Or.inr (h.noted.trans (congrArg some hskip))))
    · by_cases hrc : rc = 0
      · exact Or.inl (hheld.mpr (Or.inl hrc))
      · refine Or.inr (Or.inr ?_)
        simp [note, hskip, hrc]
  · rw [hnotes]
    exact h.level
  · rw [hnotes]
    exact h.told

theorem sound_next (first : Notes) (p : Gauge × Notes) (e : Event) (h : Sound p)
    (_ha : Allowed p.1 e) : Sound ((watched first).next p e) := by
  cases e with
  | poll io => exact sound_poll io h
  | levelSetWork rc => exact sound_levelSet rc h
  | activity rc =>
    exact ⟨h.noted, h.stack, h.level, h.told, ⟨h.goes_on.poll, by simp [watched,
      runs.System.watch, system, next, activityWork, kWorkSchedule], h.goes_on.percentage⟩,
      battery.bounded_next (.activity rc) h.bounded⟩
  | setClock epoch rc =>
    exact ⟨h.noted, h.stack, h.level, h.told,
      ⟨h.goes_on.poll, h.goes_on.activity, h.goes_on.percentage⟩,
      battery.bounded_next (.setClock epoch rc) h.bounded⟩
  | supervisor time =>
    exact ⟨h.noted, h.stack, h.level, h.told,
      ⟨h.goes_on.poll, h.goes_on.activity, h.goes_on.percentage⟩,
      battery.bounded_next (.supervisor time) h.bounded⟩

/-! ## The boot -/

/-- An initialisation that comes through has had a reading, and the stack has taken it. -/
theorem init_spec {g g' : Gauge} {hwRc rc : Int} {io : MeasureIo}
    (h : appBatteryInit g hwRc io rc = (g', 0)) :
    ∃ read : Gauge, read = (measure g io).1 ∧ g' =
      { read with
        battery_level := read.battery_charge
        stack_level := some read.battery_charge
        activity_battery_percentage_work :=
          kWorkSchedule read.activity_battery_percentage_work K_NO_WAIT
        battery_periodic_poll_work :=
          kWorkSchedule read.battery_periodic_poll_work K_NO_WAIT } := by
  refine ⟨_, rfl, ?_⟩
  unfold appBatteryInit batteryLevelSetInit batteryLevelSet at h
  simp only [Bool.true_eq_false, false_and, if_false] at h
  by_cases hhw : hwRc = 0
  · by_cases hread : (measure g io).2 = 0
    · by_cases hrc : rc = 0
      · simp only [hhw, hread, hrc, ne_eq, not_true_eq_false, if_false, Prod.mk.injEq,
          and_true] at h
        exact h.symm
      · simp [hhw, hread, hrc] at h
    · simp only [hhw, hread, ne_eq, not_true_eq_false, not_false_eq_true, if_false, if_true] at h
      exact absurd (congrArg Prod.snd h) hread
  · simp [hhw] at h

theorem schedule_pending (w : Delayable) (ms : Nat) : kWorkSchedule w ms ≠ none := by
  unfold kWorkSchedule
  cases w <;> simp

theorem told_first (g : Gauge) : broadcast.Told (g.advt, (firstNotes g).answers) := by
  unfold firstNotes
  simp only
  split
  · rename_i hon
    exact hon
  · exact rfl

/-- The first set is forced, and a boot that comes through has it taken. -/
theorem boot_sound {nvs : Option battery.Dynamic} {io : BootIo} {g : Gauge}
    (hnvs : ∀ r ∈ nvs, r.f32_RemainingBatCap ≤ battery.FULL_BAT_CAPACITY)
    (h : boot nvs io = (g, 0)) : Sound (g, firstNotes g) := by
  have hbounded := battery.boot_bounded io.storage hnvs
  obtain ⟨advt, charge, heq, hle, _⟩ := measure_frame
    { battery := battery.boot nvs io.storage, advt := {} } io.measure hbounded
  have hpercentage : charge.toNat ≤ 100 := hle (Nat.zero_le _)
  unfold boot at h
  rcases hinit : appBatteryInit { battery := battery.boot nvs io.storage, advt := {} } io.hwRc
    io.measure io.setRc with ⟨g', err⟩
  simp only [hinit] at h
  by_cases herr : err = 0
  · subst herr
    obtain ⟨read, hread, hg'⟩ := init_spec hinit
    rw [heq] at hread
    subst hread hg'
    simp only [ne_eq, not_true_eq_false, if_false, Prod.mk.injEq, and_true] at h
    subst h
    refine ⟨rfl, Or.inl rfl, (fun hmeasured => by cases hmeasured), told_first _, ?_, hbounded⟩
    exact ⟨schedule_pending none K_NO_WAIT, schedule_pending none K_NO_WAIT, hpercentage⟩
  · simp [herr] at h

/-! ## The law -/

/-- A set brings the charge to the stack just when the stack takes it, or has it already. -/
def SetMakesGood (g : Gauge) : Event → Prop
  | .levelSetWork rc =>
    (next g (.levelSetWork rc)).stack_level = some g.battery_charge ↔
      rc = 0 ∨ g.stack_level = some g.battery_charge
  | _ => True

theorem set_makes_good {g : Gauge} (e : Event) (h : (levelMirror g).InSync) : SetMakesGood g e := by
  cases e with
  | levelSetWork rc => exact levelSet_held rc h
  | _ => trivial

/-- In every state of every run the readings and the count go on, and the charge is a percentage;
from the first reading on the data of the Vision set has the charge, and the controller has it
unless it refused it; and the stack has it too, unless it is on its way or the stack has refused
it. What was refused is made good by the next set that the stack takes. -/
theorem both_broadcasts_have_the_charge (g : Gauge) (es : List Event) (h : system.Run g es) :
    (watched (firstNotes g)).States (fun p => GoesOn p.1 ∧ VisionFollows p ∧ StackFollows p)
        (g, firstNotes g) es ∧
      system.Steps SetMakesGood g es := by
  obtain ⟨⟨nvs, io, hnvs, hboot⟩, hA⟩ := h
  have h0 := boot_sound hnvs hboot
  have hwatched : (watched (firstNotes g)).Steps (fun p e => Allowed p.1 e) (g, firstNotes g) es :=
    (system.watch_steps (firstNotes g) note (g, firstNotes g) es).mpr hA
  constructor
  · exact runs.System.states_of_invariant (sound_next _)
      (fun p hp => ⟨hp.goes_on, hp.vision, hp.stack⟩) h0 hwatched
  · rw [← system.watch_steps (firstNotes g) note (g, firstNotes g) es]
    exact (runs.System.steps_of_invariant
      (fun p e hp ha => ⟨set_makes_good e hp.noted, sound_next (firstNotes g) p e hp ha⟩)
      h0 hwatched).1

/-- A boot on an empty flash, where every call succeeds. -/
def firstIo : BootIo :=
  { hwRc := 0, measure := { adcRc := 0, val_mv := 2950, voltageRc := 0, levelRc := 0 }, setRc := 0,
    storage := { reached := true, writeRc := 0 }
    production := storage.loadFactoryProductionDefaults
    advt :=
      { enableRc := 0, activeIdentities := 2, idCreateRc := ⟨2, broadcast.third_identity⟩,
        advCreateRc := 0, setDataRc := 0 } }

def firstGauge : Gauge := (boot none firstIo).1

/-- The cell gets weaker, the stack refuses the first set that follows, and the controller the
level after that. -/
def refusedOnce : List Event :=
  [.poll { adcRc := 0, val_mv := 2910, voltageRc := 0, levelRc := 0 }, .levelSetWork (-EINVAL),
    .poll { adcRc := -EINVAL, val_mv := 0, voltageRc := 0, levelRc := 0 }, .levelSetWork 0,
    .poll { adcRc := 0, val_mv := 2700, voltageRc := 0, levelRc := -EINVAL },
    .poll { adcRc := 0, val_mv := 2600, voltageRc := 0, levelRc := 0 }]

theorem a_refused_level_is_made_good :
    (watched (firstNotes firstGauge)).States
        (fun p => GoesOn p.1 ∧ VisionFollows p ∧ StackFollows p)
        (firstGauge, firstNotes firstGauge) refusedOnce ∧
      system.Steps SetMakesGood firstGauge refusedOnce :=
  both_broadcasts_have_the_charge firstGauge refusedOnce
    ⟨⟨none, firstIo, by simp, rfl⟩, by decide⟩

end smart_track.charge
