-- The energy-saving window as an arc of the day: the code has one test for a window that
-- ends on the day it starts and another for one that goes on past midnight, and both say
-- how far the minute is from the start.
import SmartTrack.LockOut

open smart_track.production
open smart_track.time_manager (TimeManager appTimeGetLocalMinutesOfDay appTimeGetUtcEpoch
  appTimeIsWithinEnergySavingWindow minuteOf_lt localMinutes_eq)
open smart_track.lock_out (InWindow NO_WINDOW within_iff)

/-! ## Arcs of a circle of `n` points -/

namespace arc

variable {n s e m : Int}

/-- The points from `s` up to `e`, `e` itself left out. -/
def InArc (n s e m : Int) : Prop := (m - s) % n < (e - s) % n

/-- How far one point lies past another. -/
theorem sub_emod (hs : 0 ≤ s) (hsn : s < n) (hm : 0 ≤ m) (hmn : m < n) :
    (m - s) % n = if s ≤ m then m - s else m - s + n := by
  split
  · exact Int.emod_eq_of_lt (by omega) (by omega)
  · rw [← Int.add_emod_right]
    exact Int.emod_eq_of_lt (by omega) (by omega)

/-- An arc that does not pass the point 0 is an interval, and one that does leaves an interval
out. -/
theorem inArc_iff (hs : 0 ≤ s) (hsn : s < n) (he : 0 ≤ e) (hen : e < n) (hne : s ≠ e)
    (hm : 0 ≤ m) (hmn : m < n) :
    InArc n s e m ↔ if s < e then s ≤ m ∧ m < e else s ≤ m ∨ m < e := by
  unfold InArc
  rw [sub_emod hs hsn hm hmn, sub_emod hs hsn he hen]
  split_ifs <;> omega

/-- The two arcs between two points are the two parts of the circle. -/
theorem inArc_swap (hs : 0 ≤ s) (hsn : s < n) (he : 0 ≤ e) (hen : e < n) (hne : s ≠ e)
    (hm : 0 ≤ m) (hmn : m < n) : InArc n e s m ↔ ¬ InArc n s e m := by
  rw [inArc_iff hs hsn he hen hne hm hmn, inArc_iff he hen hs hsn hne.symm hm hmn]
  split_ifs <;> omega

end arc

namespace smart_track.day_window

open arc

/-! ## The window -/

/-- A window with both ends on the day is the arc between them. -/
theorem inWindow_iff {start stop m : Nat} (hs : start < 1440) (he : stop < 1440)
    (hne : start ≠ stop) (hm : m < 1440) :
    InWindow start stop m ↔ InArc 1440 start stop m := by
  rw [inArc_iff (by omega) (by omega) (by omega) (by omega) (by omega) (by omega) (by omega)]
  unfold InWindow NO_WINDOW
  split_ifs <;> omega

section window

variable (hz : Nat) (t : TimeManager) (now : Nat) (gst_ConfigData : ConfigData)

/-- A clock that reads nothing gives the first minute of the day. -/
theorem localMinutes_lt : (appTimeGetLocalMinutesOfDay hz t now gst_ConfigData).toNat < 1440 := by
  by_cases h : appTimeGetUtcEpoch hz t now = 0
  · unfold appTimeGetLocalMinutesOfDay
    rw [if_pos h]
    decide
  · rw [localMinutes_eq hz t now gst_ConfigData h]
    exact minuteOf_lt _

/-- The configuration with the other window between the same two minutes. -/
def otherWindow : ConfigData :=
  { gst_ConfigData with energy_save_para :=
      { gst_ConfigData.energy_save_para with
        u16_StartMinutes := gst_ConfigData.energy_save_para.u16_EndMinutes
        u16_EndMinutes := gst_ConfigData.energy_save_para.u16_StartMinutes } }

/-- The window holds the minutes that are fewer past its start than its end is. So the two
windows between two minutes never overlap and leave no minute out. -/
theorem the_window_is_the_arc_from_its_start {start stop : UInt16}
    (hsync : t.bool_IsTimeSynchronized = true)
    (hstart : gst_ConfigData.energy_save_para.u16_StartMinutes = start)
    (hstop : gst_ConfigData.energy_save_para.u16_EndMinutes = stop)
    (hs : start.toNat < 1440) (he : stop.toNat < 1440) (hne : start ≠ stop) :
    (appTimeIsWithinEnergySavingWindow hz t now gst_ConfigData = true ↔
        ((appTimeGetLocalMinutesOfDay hz t now gst_ConfigData).toNat - start.toNat : Int) % 1440 <
          (stop.toNat - start.toNat : Int) % 1440) ∧
      (appTimeIsWithinEnergySavingWindow hz t now (otherWindow gst_ConfigData) = true ↔
        appTimeIsWithinEnergySavingWindow hz t now gst_ConfigData = false) := by
  subst hstart hstop
  have hm := localMinutes_lt hz t now gst_ConfigData
  have hne' : gst_ConfigData.energy_save_para.u16_StartMinutes.toNat ≠
      gst_ConfigData.energy_save_para.u16_EndMinutes.toNat := fun h => hne (UInt16.toNat_inj.mp h)
  have hwindow : appTimeIsWithinEnergySavingWindow hz t now gst_ConfigData = true ↔
      InArc 1440 gst_ConfigData.energy_save_para.u16_StartMinutes.toNat
        gst_ConfigData.energy_save_para.u16_EndMinutes.toNat
        (appTimeGetLocalMinutesOfDay hz t now gst_ConfigData).toNat :=
    (within_iff hz gst_ConfigData ⟨hsync, rfl⟩).trans (inWindow_iff hs he hne' hm)
  have hother : appTimeIsWithinEnergySavingWindow hz t now (otherWindow gst_ConfigData) = true ↔
      InArc 1440 gst_ConfigData.energy_save_para.u16_EndMinutes.toNat
        gst_ConfigData.energy_save_para.u16_StartMinutes.toNat
        (appTimeGetLocalMinutesOfDay hz t now gst_ConfigData).toNat :=
    (within_iff hz (otherWindow gst_ConfigData) ⟨hsync, rfl⟩).trans
      (inWindow_iff he hs hne'.symm hm)
  refine ⟨hwindow, hother.trans ?_⟩
  rw [← Bool.not_eq_true, hwindow]
  exact inArc_swap (by omega) (by omega) (by omega) (by omega) (by omega) (by omega) (by omega)

end window

/-- A clock at noon of its first day, and the window from 22:00 to 06:00. -/
def nightWindow : ConfigData :=
  { storage.loadFieldConfigDefaults with
    s16_TimeZoneOffset := 0
    energy_save_para := { storage.loadFieldConfigDefaults.energy_save_para with
      u16_StartMinutes := 1320
      u16_EndMinutes := 360 } }

theorem noon_is_out_of_the_night :
    appTimeIsWithinEnergySavingWindow 32768 (time_manager.setTo 43200) 0 nightWindow = false ∧
      appTimeIsWithinEnergySavingWindow 32768 (time_manager.setTo 43200) 0
        (otherWindow nightWindow) = true := by
  have hnight := the_window_is_the_arc_from_its_start 32768 (time_manager.setTo 43200) 0
    nightWindow (by decide) rfl rfl (by decide) (by decide) (by decide)
  have hout : appTimeIsWithinEnergySavingWindow 32768 (time_manager.setTo 43200) 0
      nightWindow = false := by decide
  exact ⟨hout, hnight.2.mpr hout⟩

end smart_track.day_window
