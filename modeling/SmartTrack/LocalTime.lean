-- The local minute of the day. The code reduces a signed timestamp by an unsigned
-- divisor, so a timestamp before 1970 goes through the remainder of 2^64 first; the
-- law here says that just these timestamps come out wrong.
import SmartTrack.Storage
import SmartTrack.TimeManager

open smart_track.production

namespace smart_track.time_manager

/-! ## The minute of a timestamp -/

/-- What the code makes of a timestamp. -/
def minuteOf (local_timestamp : Int) : Nat := (local_timestamp % 2 ^ 64).toNat % 86400 / 60

theorem minuteOf_lt (x : Int) : minuteOf x < 1440 := by
  unfold minuteOf
  omega

theorem minuteOf_nonneg {x : Int} (h : 0 ≤ x) (hx : x < 2 ^ 63) :
    (minuteOf x : Int) = x / 60 % 1440 := by
  have hself : x % 2 ^ 64 = x := Int.emod_eq_of_lt h (by omega)
  unfold minuteOf
  rw [hself]
  omega

/-- 2^64 seconds are no whole number of days: they leave seven hours and 16 seconds. -/
theorem minuteOf_neg {x : Int} (h : x < 0) (hx : -2 ^ 63 ≤ x) :
    (minuteOf x : Int) ≠ x / 60 % 1440 := by
  have hwrap : x % 2 ^ 64 = x + 2 ^ 64 := by omega
  unfold minuteOf
  rw [hwrap]
  omega

theorem int16_bounds (x : UInt16) : -2 ^ 15 ≤ int16 x ∧ int16 x < 2 ^ 15 :=
  ⟨x.toBitVec.le_toInt, x.toBitVec.toInt_lt⟩

/-! ## The law -/

/-- The timestamp of local time, in seconds. -/
def localTimestamp (u : UInt32) (gst_ConfigData : ConfigData) : Int :=
  u.toNat + int16 gst_ConfigData.s16_TimeZoneOffset * 60

section minutes

variable (hz : Nat) (t : TimeManager) (now : Nat) (gst_ConfigData : ConfigData)

theorem localMinutes_eq (h : appTimeGetUtcEpoch hz t now ≠ 0) :
    (appTimeGetLocalMinutesOfDay hz t now gst_ConfigData).toNat =
      minuteOf (localTimestamp (appTimeGetUtcEpoch hz t now) gst_ConfigData) := by
  have hlt := minuteOf_lt (localTimestamp (appTimeGetUtcEpoch hz t now) gst_ConfigData)
  unfold appTimeGetLocalMinutesOfDay
  rw [if_neg h]
  change (UInt16.ofNat (minuteOf (localTimestamp _ gst_ConfigData))).toNat = _
  rw [UInt16.toNat_ofNat', Nat.mod_eq_of_lt]
  omega

/-- The minutes of the local day, as the number of whole minutes since 1970 in local time gives
them. -/
def MinuteIsRight : Prop :=
  let minutes := (appTimeGetLocalMinutesOfDay hz t now gst_ConfigData).toNat
  (minutes : Int) =
      localTimestamp (appTimeGetUtcEpoch hz t now) gst_ConfigData / 60 % 1440 ∧
    minutes < 1440

/-- Whatever the clock was set to, the minute is right just when local time is not before 1970.
A clock that is not synchronized gives the epoch 0. -/
theorem the_minute_is_right_from_1970_on (h : 1 ≤ appTimeGetUtcEpoch hz t now) :
    MinuteIsRight hz t now gst_ConfigData ↔
      0 ≤ localTimestamp (appTimeGetUtcEpoch hz t now) gst_ConfigData := by
  have hne : appTimeGetUtcEpoch hz t now ≠ 0 := by
    rintro hzero
    rw [hzero] at h
    exact absurd h (by decide)
  obtain ⟨hlow, hhigh⟩ := int16_bounds gst_ConfigData.s16_TimeZoneOffset
  have hu := (appTimeGetUtcEpoch hz t now).toNat_lt
  have hlt := minuteOf_lt (localTimestamp (appTimeGetUtcEpoch hz t now) gst_ConfigData)
  unfold MinuteIsRight
  simp only [localMinutes_eq hz t now gst_ConfigData hne]
  by_cases hneg : localTimestamp (appTimeGetUtcEpoch hz t now) gst_ConfigData < 0
  · have hwrong := minuteOf_neg hneg (by unfold localTimestamp; omega)
    exact iff_of_false (fun hr => hwrong hr.1) (by omega)
  · have hright := minuteOf_nonneg (not_lt.mp hneg) (by unfold localTimestamp; omega)
    exact iff_of_true ⟨hright, hlt⟩ (not_lt.mp hneg)

end minutes

/-- A clock that was just set. -/
def setTo (epoch : UInt32) : TimeManager :=
  appTimeSyncSetUtc 32768
    { static_retained_time :=
        { u32_MagicMarker := 0, u32_LastSavedUtcEpoch := 0, s64_LastSavedUptimeMs := 0 } }
    0 epoch

/-- The defaults, in a time zone one minute west. -/
def oneMinuteWest : ConfigData :=
  { storage.loadFieldConfigDefaults with s16_TimeZoneOffset := 0xFFFF }

theorem the_minute_of_an_ordinary_date_is_right :
    MinuteIsRight 32768 (setTo 1780825185) 0 oneMinuteWest :=
  (the_minute_is_right_from_1970_on 32768 (setTo 1780825185) 0 oneMinuteWest (by decide)).mpr
    (by decide)

/-- The clock is set to one second past its epoch, one minute west: 06:59 where it is one minute
to midnight. -/
theorem a_minute_before_1970_is_seven_hours_off :
    ¬ ∀ (hz : Nat) (t : TimeManager) (now : Nat) (gst_ConfigData : ConfigData),
      t.bool_IsTimeSynchronized = true → 1 ≤ appTimeGetUtcEpoch hz t now →
        MinuteIsRight hz t now gst_ConfigData := by
  intro h
  have hright := h 32768 (setTo 1) 0 oneMinuteWest (by decide) (by decide)
  revert hright
  unfold MinuteIsRight
  decide

end smart_track.time_manager
