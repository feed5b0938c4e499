-- The clock of the tag (`vision_time_manager.c`). The live time is an anchor and
-- the ticks since then; a copy of it in retained RAM is made at a sync and by
-- the supervisor. The law here says how far the time can fall back at a reset.
import SmartTrack.VisionAdvt

open bytes smart_track.zephyr smart_track.production smart_track.vision_advt

namespace smart_track.time_manager

def TIME_MAGIC_VALIDATED : UInt32 := 0xDEADBEEF

/-- `struct retained_time_block`, in RAM that a warm reset keeps. -/
structure RetainedTimeBlock where
  u32_MagicMarker : UInt32
  u32_LastSavedUtcEpoch : UInt32
  s64_LastSavedUptimeMs : Int
  deriving DecidableEq

/-- The static variables of the file. `Advtflag` is the one inside the supervisor. -/
structure TimeManager where
  static_retained_time : RetainedTimeBlock
  s64_BaseUtcEpoch : Int := 0
  s64_BaseUptimeTicks : Int := 0
  bool_IsTimeSynchronized : Bool := false
  time_supervisor_work : Delayable := none
  Advtflag : Bool := false
  deriving DecidableEq

-- `hz` is CONFIG_SYS_CLOCK_TICKS_PER_SEC, which the board sets.
variable (hz : Nat)

/-! ## The functions of the file

`now` is `k_uptime_ticks()`. -/

def kUptimeGet (now : Nat) : Int := (now * 1000 / hz : Nat)

/-- The conversion of an `int64_t` to a `uint32_t`. -/
def toUInt32 (x : Int) : UInt32 := UInt32.ofNat (x % 2 ^ 32).toNat

/-- The value of an `int16_t` that is stored as its bits. -/
def int16 (x : UInt16) : Int := x.toBitVec.toInt

def appTimeSyncSetUtc (t : TimeManager) (now : Nat) (u32_IncomingEpochSeconds : UInt32) :
    TimeManager :=
  { t with
    s64_BaseUptimeTicks := now
    s64_BaseUtcEpoch := u32_IncomingEpochSeconds.toNat
    bool_IsTimeSynchronized := true
    static_retained_time :=
      { u32_LastSavedUtcEpoch := u32_IncomingEpochSeconds
        s64_LastSavedUptimeMs := kUptimeGet hz now
        u32_MagicMarker := TIME_MAGIC_VALIDATED } }

/-- The live time before it is cut to 32 bits. -/
def liveEpoch (t : TimeManager) (now : Nat) : Int :=
  t.s64_BaseUtcEpoch + ((now : Int) - t.s64_BaseUptimeTicks).tdiv hz

def appTimeGetUtcEpoch (t : TimeManager) (now : Nat) : UInt32 :=
  if t.bool_IsTimeSynchronized then
    toUInt32 (liveEpoch hz t now)
  else
    0

def appTimeGetLocalMinutesOfDay (t : TimeManager) (now : Nat) (gst_ConfigData : ConfigData) :
    UInt16 :=
  let current_utc := appTimeGetUtcEpoch hz t now
  if current_utc = 0 then
    0
  else
    let local_timestamp : Int := current_utc.toNat + int16 gst_ConfigData.s16_TimeZoneOffset * 60
    -- The divisor is unsigned, so the remainder is taken of the timestamp modulo 2^64.
    let seconds_in_day := (local_timestamp % 2 ^ 64).toNat % 86400
    UInt16.ofNat (seconds_in_day / 60)

def appTimeIsWithinEnergySavingWindow (t : TimeManager) (now : Nat)
    (gst_ConfigData : ConfigData) : Bool :=
  if t.bool_IsTimeSynchronized = false then
    false
  else
    let current_min := appTimeGetLocalMinutesOfDay hz t now gst_ConfigData
    let start_min := gst_ConfigData.energy_save_para.u16_StartMinutes
    let end_min := gst_ConfigData.energy_save_para.u16_EndMinutes
    if start_min = 0xFFFF ∨ end_min = 0xFFFF then
      false
    else if start_min < end_min then
      decide (start_min ≤ current_min ∧ current_min < end_min)
    else
      decide (start_min ≤ current_min ∨ current_min < end_min)

/-- The part of the supervisor that saves the time. -/
def saveLiveTime (t : TimeManager) (now : Nat) : TimeManager :=
  { t with
    static_retained_time :=
      { u32_LastSavedUtcEpoch := appTimeGetUtcEpoch hz t now
        s64_LastSavedUptimeMs := kUptimeGet hz now
        u32_MagicMarker := TIME_MAGIC_VALIDATED } }

/-- The part of the supervisor that keeps the Vision set off air in the energy-saving
window. `advRc` is the code of the one controller call that it can come to. -/
def applyEnergySavingWindow (t : TimeManager) (now : Nat) (gst_ConfigData : ConfigData)
    (a : Advt) (advRc : Int) : TimeManager × Advt :=
  if appTimeIsWithinEnergySavingWindow hz t now gst_ConfigData then
    if t.Advtflag = false then
      ({ t with Advtflag := true }, (bleAdvCustomStop a advRc).1)
    else
      (t, a)
  else if t.Advtflag then
    ({ t with Advtflag := false }, (bleAdvCustomStart a advRc).1)
  else
    (t, a)

def timeSupervisorWorkHandler (t : TimeManager) (now : Nat) (gst_ConfigData : ConfigData)
    (gst_DynamicData : DynamicData) (a : Advt) (advRc : Int) :
    TimeManager × DynamicData × Advt :=
  let t := { t with time_supervisor_work := none }
  let t := { t with time_supervisor_work := kWorkSchedule t.time_supervisor_work (K_SECONDS 60) }
  if t.bool_IsTimeSynchronized then
    let current_live_time := appTimeGetUtcEpoch hz t now
    let gst_DynamicData := { gst_DynamicData with mu32_CurrentTime := current_live_time }
    let t := saveLiveTime hz t now
    let (t, a) := applyEnergySavingWindow hz t now gst_ConfigData a advRc
    (t, gst_DynamicData, a)
  else
    (t, gst_DynamicData, a)

def appTimeManagerBootRecover (t : TimeManager) (now : Nat) : TimeManager :=
  if t.static_retained_time.u32_MagicMarker = TIME_MAGIC_VALIDATED then
    let estimated_boot_loss_sec : Int := 1
    { t with
      s64_BaseUtcEpoch :=
        t.static_retained_time.u32_LastSavedUtcEpoch.toNat + estimated_boot_loss_sec
      s64_BaseUptimeTicks := now
      bool_IsTimeSynchronized := true }
  else
    { t with bool_IsTimeSynchronized := false }

def appTimeActivitiesInit (t : TimeManager) (now : Nat) : TimeManager :=
  let t := appTimeManagerBootRecover t now
  { t with time_supervisor_work := kWorkSchedule none K_NO_WAIT }

/-! ## The runs of the clock -/

/-- The file and the uptime of the kernel. -/
structure Clock where
  uptime : Nat
  time : TimeManager
  deriving DecidableEq

/-- The supervisor takes what it needs of the rest of the tag from its event. A warm reset
restarts the uptime; `ticks` is how far it is when the boot comes to the clock. -/
inductive Event
  | elapse (ticks : Nat)
  | sync (u32_IncomingEpochSeconds : UInt32)
  | supervisor (gst_ConfigData : ConfigData) (gst_DynamicData : DynamicData) (a : Advt)
      (advRc : Int)
  | read
  | warmReset (ticks : Nat)

/-- The tag after a reset that keeps the retained block `r`. -/
def boot (r : RetainedTimeBlock) (ticks : Nat) : Clock :=
  { uptime := ticks, time := appTimeActivitiesInit { static_retained_time := r } ticks }

def next (c : Clock) : Event → Clock
  | .elapse ticks => { c with uptime := c.uptime + ticks }
  | .sync epoch =>
    { c with time := appTimeSyncSetUtc hz c.time c.uptime epoch }
  | .supervisor config dynamic a rc =>
    { c with time := (timeSupervisorWorkHandler hz c.time c.uptime config dynamic a rc).1 }
  | .read => c
  | .warmReset ticks => boot c.time.static_retained_time ticks

/-- The value that a read returns. -/
def reading (c : Clock) : Nat := (appTimeGetUtcEpoch hz c.time c.uptime).toNat

/-- The copy of the time in retained RAM. -/
def saved (c : Clock) : Nat := c.time.static_retained_time.u32_LastSavedUtcEpoch.toNat

/-- The epoch still fits into 32 bits. -/
def NoWrap (c : Clock) : Prop :=
  liveEpoch hz c.time c.uptime < 2 ^ 32

instance (c : Clock) : Decidable (NoWrap hz c) :=
  inferInstanceAs (Decidable (_ < _))

/-- The runs that start at a boot, with any content of the retained RAM, and in which the
epoch never wraps. -/
def system : runs.System Clock Event where
  start c := (∃ r ticks, c = boot r ticks) ∧ NoWrap hz c
  allowed c e := NoWrap hz (next hz c e)
  next := next hz

instance (c : Clock) (e : Event) : Decidable ((system hz).allowed c e) :=
  inferInstanceAs (Decidable (NoWrap hz _))

/-- No event of the list sets the clock. -/
def NoSync (es : List Event) : Prop := ∀ e ∈ es, ∀ epoch, e ≠ .sync epoch

/-- The time is saved before the first warm reset of the list. -/
def SavedFirst : List Event → Prop
  | [] => True
  | .supervisor .. :: _ => True
  | .warmReset _ :: _ => False
  | _ :: es => SavedFirst es

/-! ## What every run of the clock keeps -/

/-- What holds in every state of a run. -/
structure Sound (c : Clock) : Prop where
  anchored : c.time.s64_BaseUptimeTicks ≤ c.uptime
  since_1970 : 0 ≤ c.time.s64_BaseUtcEpoch
  fits : NoWrap hz c
  marked : c.time.bool_IsTimeSynchronized = true →
    c.time.static_retained_time.u32_MagicMarker = TIME_MAGIC_VALIDATED
  saved_le : c.time.bool_IsTimeSynchronized = true → saved c ≤ reading hz c

variable {hz}

theorem toUInt32_toNat {x : Int} (h0 : 0 ≤ x) (h : x < 2 ^ 32) : (toUInt32 x).toNat = x.toNat := by
  unfold toUInt32
  rw [Int.emod_eq_of_lt h0 h, UInt32.toNat_ofNat', Nat.mod_eq_of_lt]
  omega

theorem liveEpoch_eq (hz : Nat) {c : Clock} (h : c.time.s64_BaseUptimeTicks ≤ c.uptime) :
    liveEpoch hz c.time c.uptime =
      c.time.s64_BaseUtcEpoch + ((c.uptime : Int) - c.time.s64_BaseUptimeTicks) / hz := by
  unfold liveEpoch
  rw [Int.tdiv_eq_ediv_of_nonneg (by omega)]

theorem base_le_liveEpoch (hz : Nat) {c : Clock} (h : c.time.s64_BaseUptimeTicks ≤ c.uptime) :
    c.time.s64_BaseUtcEpoch ≤ liveEpoch hz c.time c.uptime := by
  have hdiv : 0 ≤ ((c.uptime : Int) - c.time.s64_BaseUptimeTicks) / hz :=
    Int.ediv_nonneg (by omega) (by omega)
  rw [liveEpoch_eq hz h]
  omega

theorem reading_unsynchronized {c : Clock} (h : c.time.bool_IsTimeSynchronized = false) :
    reading hz c = 0 := by
  simp [reading, appTimeGetUtcEpoch, h]

/-- While nothing wraps, a read of a synchronized clock gives the live time. -/
theorem reading_eq (hz : Nat) {c : Clock} (hs : c.time.bool_IsTimeSynchronized = true)
    (h : c.time.s64_BaseUptimeTicks ≤ c.uptime) (h0 : 0 ≤ c.time.s64_BaseUtcEpoch)
    (hw : NoWrap hz c) : (reading hz c : Int) = liveEpoch hz c.time c.uptime := by
  have hlive := base_le_liveEpoch hz h
  have hread : reading hz c = (liveEpoch hz c.time c.uptime).toNat := by
    unfold reading appTimeGetUtcEpoch
    rw [if_pos hs, toUInt32_toNat (by omega) hw]
  rw [hread]
  omega

theorem Sound.reading_live {c : Clock} (h : Sound hz c)
    (hs : c.time.bool_IsTimeSynchronized = true) :
    (reading hz c : Int) = liveEpoch hz c.time c.uptime :=
  reading_eq hz hs h.anchored h.since_1970 h.fits

theorem liveEpoch_mono (hz : Nat) {t : TimeManager} {now later : Nat}
    (h0 : t.s64_BaseUptimeTicks ≤ now) (h : now ≤ later) :
    liveEpoch hz t now ≤ liveEpoch hz t later := by
  have hnow := liveEpoch_eq hz (c := ⟨now, t⟩) h0
  have hlater := liveEpoch_eq hz (c := ⟨later, t⟩) (by dsimp only; omega)
  dsimp only at hnow hlater
  rw [hnow, hlater]
  rcases Nat.eq_zero_or_pos hz with hz0 | hz0
  · simp [hz0]
  · have hdiv : ((now : Int) - t.s64_BaseUptimeTicks) / hz ≤
        ((later : Int) - t.s64_BaseUptimeTicks) / hz :=
      Int.ediv_le_ediv (by omega) (by omega)
    omega

theorem reading_elapse {c : Clock} (h : Sound hz c) (ticks : Nat)
    (hw : NoWrap hz (next hz c (.elapse ticks))) :
    reading hz c ≤ reading hz (next hz c (.elapse ticks)) := by
  cases hs : c.time.bool_IsTimeSynchronized with
  | false => rw [reading_unsynchronized hs]; exact Nat.zero_le _
  | true =>
    have hanch := h.anchored
    have hle : c.time.s64_BaseUptimeTicks ≤ ((c.uptime + ticks : Nat) : Int) := by omega
    have hnow := h.reading_live hs
    have hlater := reading_eq hz (c := next hz c (.elapse ticks)) hs hle h.since_1970 hw
    have hmono := liveEpoch_mono hz hanch (Nat.le_add_right c.uptime ticks)
    simp only [next] at hlater
    simp only [next]
    omega

/-- The window only moves `Advtflag`. -/
theorem applyEnergySavingWindow_time (hz : Nat) (t : TimeManager) (now : Nat) (config : ConfigData)
    (a : Advt) (rc : Int) :
    ∃ flag, (applyEnergySavingWindow hz t now config a rc).1 = { t with Advtflag := flag } := by
  unfold applyEnergySavingWindow
  split
  · split
    · exact ⟨_, rfl⟩
    · exact ⟨t.Advtflag, rfl⟩
  · split
    · exact ⟨_, rfl⟩
    · exact ⟨t.Advtflag, rfl⟩

/-- What the supervisor does to the clock: it saves the live time of a synchronized one. -/
theorem supervisor_time (hz : Nat) (t : TimeManager) (now : Nat) (config : ConfigData)
    (dynamic : DynamicData) (a : Advt) (rc : Int) :
    ∃ work flag,
      (timeSupervisorWorkHandler hz t now config dynamic a rc).1 =
        { (if t.bool_IsTimeSynchronized then saveLiveTime hz t now else t) with
          time_supervisor_work := work, Advtflag := flag } := by
  unfold timeSupervisorWorkHandler
  cases hs : t.bool_IsTimeSynchronized with
  | false =>
    exact ⟨kWorkSchedule none (K_SECONDS 60), t.Advtflag, by simp [hs]⟩
  | true =>
    simp only [if_true]
    obtain ⟨flag, hflag⟩ := applyEnergySavingWindow_time hz
      (saveLiveTime hz
        { t with time_supervisor_work := kWorkSchedule none (K_SECONDS 60) }
        now) now config a rc
    refine ⟨kWorkSchedule none (K_SECONDS 60), flag, ?_⟩
    rw [hs] at hflag
    rw [hflag]
    simp [saveLiveTime, appTimeGetUtcEpoch, liveEpoch, hs]

theorem reading_congr {c d : Clock} (hu : d.uptime = c.uptime)
    (hs : d.time.bool_IsTimeSynchronized = c.time.bool_IsTimeSynchronized)
    (he : d.time.s64_BaseUtcEpoch = c.time.s64_BaseUtcEpoch)
    (ht : d.time.s64_BaseUptimeTicks = c.time.s64_BaseUptimeTicks) :
    reading hz d = reading hz c := by
  simp only [reading, appTimeGetUtcEpoch, liveEpoch, hu, hs, he, ht]

section supervisor

variable (c : Clock) (config : ConfigData) (dynamic : DynamicData) (a : Advt) (rc : Int)

theorem supervisor_keeps (hz : Nat) :
    let d := next hz c (.supervisor config dynamic a rc)
    d.uptime = c.uptime ∧
      d.time.bool_IsTimeSynchronized = c.time.bool_IsTimeSynchronized ∧
      d.time.s64_BaseUtcEpoch = c.time.s64_BaseUtcEpoch ∧
      d.time.s64_BaseUptimeTicks = c.time.s64_BaseUptimeTicks := by
  obtain ⟨work, flag, h⟩ := supervisor_time hz c.time c.uptime config dynamic a rc
  simp only [next, h]
  refine ⟨trivial, ?_, ?_, ?_⟩
  all_goals split <;> rfl

theorem reading_supervisor :
    reading hz (next hz c (.supervisor config dynamic a rc)) = reading hz c := by
  obtain ⟨hu, hs, he, ht⟩ := supervisor_keeps c config dynamic a rc hz
  exact reading_congr hu hs he ht

/-- After the supervisor the retained copy of a synchronized clock is the live time. -/
theorem saved_supervisor (hs : c.time.bool_IsTimeSynchronized = true) :
    saved (next hz c (.supervisor config dynamic a rc)) = reading hz c ∧
      (next hz c (.supervisor config dynamic a rc)).time.static_retained_time.u32_MagicMarker =
        TIME_MAGIC_VALIDATED := by
  obtain ⟨work, flag, h⟩ := supervisor_time hz c.time c.uptime config dynamic a rc
  rw [if_pos hs] at h
  simp only [saved, next, h]
  exact ⟨rfl, rfl⟩

end supervisor

/-- What a warm reset makes of a marked copy: the clock goes on one second past it. -/
theorem boot_marked {r : RetainedTimeBlock} (h : r.u32_MagicMarker = TIME_MAGIC_VALIDATED)
    (ticks : Nat) :
    (boot r ticks).time.bool_IsTimeSynchronized = true ∧
      (boot r ticks).time.s64_BaseUtcEpoch = r.u32_LastSavedUtcEpoch.toNat + 1 ∧
      (boot r ticks).time.s64_BaseUptimeTicks = ticks := by
  simp [boot, appTimeActivitiesInit, appTimeManagerBootRecover, h]

theorem boot_unmarked {r : RetainedTimeBlock} (h : r.u32_MagicMarker ≠ TIME_MAGIC_VALIDATED)
    (ticks : Nat) :
    (boot r ticks).time.bool_IsTimeSynchronized = false ∧
      (boot r ticks).time.s64_BaseUtcEpoch = 0 ∧
      (boot r ticks).time.s64_BaseUptimeTicks = 0 := by
  simp [boot, appTimeActivitiesInit, appTimeManagerBootRecover, h]

theorem boot_retained (r : RetainedTimeBlock) (ticks : Nat) :
    (boot r ticks).time.static_retained_time = r ∧ (boot r ticks).uptime = ticks := by
  unfold boot appTimeActivitiesInit appTimeManagerBootRecover
  refine ⟨?_, rfl⟩
  dsimp only
  split <;> rfl

theorem reading_boot {r : RetainedTimeBlock} (h : r.u32_MagicMarker = TIME_MAGIC_VALIDATED)
    (ticks : Nat) (hw : NoWrap hz (boot r ticks)) :
    reading hz (boot r ticks) = r.u32_LastSavedUtcEpoch.toNat + 1 := by
  obtain ⟨hs, he, ht⟩ := boot_marked h ticks
  obtain ⟨_, hu⟩ := boot_retained r ticks
  have hlive := reading_eq hz hs (by omega) (by omega) hw
  rw [liveEpoch_eq hz (by omega), he, ht, hu] at hlive
  simp at hlive
  omega

theorem sound_boot (r : RetainedTimeBlock) (ticks : Nat) (hw : NoWrap hz (boot r ticks)) :
    Sound hz (boot r ticks) := by
  obtain ⟨hr, hu⟩ := boot_retained r ticks
  by_cases h : r.u32_MagicMarker = TIME_MAGIC_VALIDATED
  · obtain ⟨_, he, ht⟩ := boot_marked h ticks
    have hread := reading_boot h ticks hw
    refine ⟨by omega, by omega, hw, fun _ => by rw [hr]; exact h, fun _ => ?_⟩
    rw [hread]
    unfold saved
    rw [hr]
    omega
  · obtain ⟨hs, he, ht⟩ := boot_unmarked h ticks
    refine ⟨by omega, by omega, hw, fun h1 => ?_, fun h1 => ?_⟩
    · rw [hs] at h1; contradiction
    · rw [hs] at h1; contradiction

theorem sound_sync (c : Clock) (epoch : UInt32) (hw : NoWrap hz (next hz c (.sync epoch))) :
    Sound hz (next hz c (.sync epoch)) := by
  have hanch : (next hz c (.sync epoch)).time.s64_BaseUptimeTicks ≤
      (next hz c (.sync epoch)).uptime := Int.le_refl _
  have h0 : 0 ≤ (next hz c (.sync epoch)).time.s64_BaseUtcEpoch := Int.natCast_nonneg _
  refine ⟨hanch, h0, hw, fun _ => rfl, fun hs => ?_⟩
  have hread := reading_eq hz hs hanch h0 hw
  have hbase := base_le_liveEpoch hz hanch
  have hsaved : (saved (next hz c (.sync epoch)) : Int) =
      (next hz c (.sync epoch)).time.s64_BaseUtcEpoch := rfl
  omega

theorem sound_next (c : Clock) (e : Event) (h : Sound hz c) (hw : NoWrap hz (next hz c e)) :
    Sound hz (next hz c e) := by
  cases e with
  | elapse ticks =>
    have hanch := h.anchored
    have hread := reading_elapse h ticks hw
    refine ⟨?_, h.since_1970, hw, h.marked, fun hs => ?_⟩
    · simp only [next]; omega
    · exact (h.saved_le hs).trans hread
  | sync epoch => exact sound_sync c epoch hw
  | supervisor config dynamic a rc =>
    obtain ⟨hu, hs, he, ht⟩ := supervisor_keeps c config dynamic a rc hz
    refine ⟨by rw [hu, ht]; exact h.anchored, by rw [he]; exact h.since_1970, hw, ?_, ?_⟩
    · intro hs'
      exact (saved_supervisor c config dynamic a rc (hs ▸ hs')).2
    · intro hs'
      rw [(saved_supervisor c config dynamic a rc (hs ▸ hs')).1, reading_supervisor]
  | read => exact h
  | warmReset ticks => exact sound_boot _ _ hw

/-! ## Between two syncs -/

/-- A synchronized clock stays so, and its saved copy never gets smaller until the next
sync. -/
theorem saved_next (c : Clock) (e : Event) (h : Sound hz c)
    (hs : c.time.bool_IsTimeSynchronized = true) (he : ∀ epoch, e ≠ .sync epoch) :
    (next hz c e).time.bool_IsTimeSynchronized = true ∧ saved c ≤ saved (next hz c e) := by
  cases e with
  | elapse ticks => exact ⟨hs, Nat.le_refl _⟩
  | sync epoch => exact absurd rfl (he epoch)
  | supervisor config dynamic a rc =>
    obtain ⟨_, hs', _, _⟩ := supervisor_keeps c config dynamic a rc hz
    refine ⟨hs'.trans hs, ?_⟩
    rw [(saved_supervisor c config dynamic a rc hs).1]
    exact h.saved_le hs
  | read => exact ⟨hs, Nat.le_refl _⟩
  | warmReset ticks =>
    refine ⟨(boot_marked (h.marked hs) ticks).1, ?_⟩
    simp only [next, saved]
    rw [(boot_retained _ ticks).1]

theorem NoSync.cons {e : Event} {es : List Event} (h : NoSync (e :: es)) :
    (∀ epoch, e ≠ .sync epoch) ∧ NoSync es := by
  refine ⟨h e List.mem_cons_self, ?_⟩
  intro f hf
  exact h f (List.mem_cons_of_mem _ hf)

/-- Once a value is saved, no later read goes below it. -/
theorem no_read_below_saved {v : Nat} {es : List Event} {c : Clock} (h : Sound hz c)
    (hs : c.time.bool_IsTimeSynchronized = true) (hv : v ≤ saved c)
    (hA : (system hz).Steps (system hz).allowed c es) (hn : NoSync es) :
    (system hz).States (fun d => v ≤ reading hz d) c es := by
  induction es generalizing c with
  | nil => exact hv.trans (h.saved_le hs)
  | cons e es ih =>
    obtain ⟨he, hn⟩ := hn.cons
    obtain ⟨hs', hmono⟩ := saved_next c e h hs he
    refine ⟨hv.trans (h.saved_le hs), ?_⟩
    exact ih (sound_next c e h hA.1) hs' (hv.trans hmono) hA.2 hn

/-- A value that is read stays a lower bound of the reads just when it is saved before the
next warm reset, or is at most one second past the saved copy. -/
theorem no_read_below_iff {v : Nat} {es : List Event} {c : Clock} (h : Sound hz c)
    (hs : c.time.bool_IsTimeSynchronized = true) (hv : v ≤ reading hz c)
    (hA : (system hz).Steps (system hz).allowed c es) (hn : NoSync es) :
    (system hz).States (fun d => v ≤ reading hz d) c es ↔ SavedFirst es ∨ v ≤ saved c + 1 := by
  induction es generalizing c with
  | nil => exact iff_of_true hv (Or.inl trivial)
  | cons e es ih =>
    obtain ⟨he, hrest⟩ := hn.cons
    have hnext := sound_next c e h hA.1
    obtain ⟨hs', hmono⟩ := saved_next c e h hs he
    have hstates : (system hz).States (fun d => v ≤ reading hz d) c (e :: es) ↔
        (system hz).States (fun d => v ≤ reading hz d) (next hz c e) es := by
      simp only [runs.System.States, hv, true_and]
      rfl
    rw [hstates]
    cases e with
    | elapse ticks => exact ih hnext hs' (hv.trans (reading_elapse h ticks hA.1)) hA.2 hrest
    | sync epoch => exact absurd rfl (he epoch)
    | supervisor config dynamic a rc =>
      refine iff_of_true ?_ (Or.inl trivial)
      refine no_read_below_saved hnext hs' ?_ hA.2 hrest
      rw [(saved_supervisor c config dynamic a rc hs).1]
      exact hv
    | read => exact ih hnext hs' hv hA.2 hrest
    | warmReset ticks =>
      have hread : reading hz (next hz c (.warmReset ticks)) = saved c + 1 :=
        reading_boot (h.marked hs) ticks hA.1
      have hsaved : saved (next hz c (.warmReset ticks)) = saved c := by
        simp only [next, saved]
        rw [(boot_retained _ ticks).1]
      simp only [SavedFirst, false_or]
      constructor
      · intro hst
        have hfirst := runs.System.states_first hst
        omega
      · intro hle
        have hiff := ih hnext hs' (by omega) hA.2 hrest
        exact hiff.mpr (Or.inr (by omega))

/-! ## The law -/

/-- Between two syncs no read is below an earlier one just when the earlier value is saved
before the next warm reset, or is at most one second past the last saved copy. Whatever the
resets do, no read is below the last saved copy. -/
theorem the_clock_falls_back_only_past_an_unsaved_reset (c : Clock) (before es : List Event)
    (h : (system hz).Run c (before ++ es)) (hn : NoSync es) :
    let first := (system hz).run c before
    ((system hz).States (fun d => reading hz first ≤ reading hz d) first es ↔
        SavedFirst es ∨ reading hz first ≤ saved first + 1) ∧
      (first.time.bool_IsTimeSynchronized = true →
        (system hz).States (fun d => saved first ≤ reading hz d) first es) := by
  intro first
  obtain ⟨⟨⟨r, ticks, hboot⟩, hw⟩, hA⟩ := h
  obtain ⟨hbefore, hafter⟩ := (runs.System.steps_append c before es).mp hA
  have hsound : Sound hz first :=
    runs.System.run_invariant (fun d e hd hwd => sound_next d e hd hwd)
      (hboot ▸ sound_boot r ticks (hboot ▸ hw)) hbefore
  refine ⟨?_, fun hs => no_read_below_saved hsound hs (Nat.le_refl _) hafter hn⟩
  cases hs : first.time.bool_IsTimeSynchronized with
  | true => exact no_read_below_iff hsound hs (Nat.le_refl _) hafter hn
  | false =>
    have hzero : reading hz first = 0 := reading_unsynchronized hs
    rw [hzero]
    refine iff_of_true ?_ (Or.inr (Nat.zero_le _))
    have hall : ∀ (es : List Event) (d : Clock),
        (system hz).States (fun d => 0 ≤ reading hz d) d es := by
      intro es
      induction es with
      | nil => intro d; exact Nat.zero_le _
      | cons e es ih => intro d; exact ⟨Nat.zero_le _, ih _⟩
    exact hall es first

def emptyBlock : RetainedTimeBlock :=
  { u32_MagicMarker := 0, u32_LastSavedUtcEpoch := 0, s64_LastSavedUptimeMs := 0 }

/-- A reset half a second after a sync, at 32768 ticks to the second: the reads go on. -/
theorem a_reset_right_after_a_sync_keeps_the_order :
    let first := (system 32768).run (boot emptyBlock 0) [.sync 1000, .elapse 16384]
    (system 32768).States (fun d => reading 32768 first ≤ reading 32768 d) first
      [.read, .warmReset 0, .elapse 32768, .read] :=
  (the_clock_falls_back_only_past_an_unsaved_reset (boot emptyBlock 0)
    [.sync 1000, .elapse 16384] [.read, .warmReset 0, .elapse 32768, .read]
    ⟨⟨⟨_, _, rfl⟩, by decide⟩, by decide⟩ (by simp [NoSync])).1.mpr (Or.inr (by decide))

/-- Two seconds after a sync the tag reads 1002; after a warm reset it reads 1001. -/
theorem a_warm_reset_sets_the_clock_back :
    ¬ ∀ (hz : Nat) (c : Clock) (before es : List Event),
      (system hz).Run c (before ++ es) → NoSync es →
        let first := (system hz).run c before
        (system hz).States (fun d => reading hz first ≤ reading hz d) first es := by
  intro h
  have hback := h 32768 (boot emptyBlock 0) [.sync 1000, .elapse 65536] [.warmReset 0]
    ⟨⟨⟨_, _, rfl⟩, by decide⟩, by decide⟩ (by simp [NoSync])
  revert hback
  decide

end smart_track.time_manager
