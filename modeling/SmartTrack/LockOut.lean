-- The energy-saving window as a client can set it. The Vision set is off air inside the
-- window, so a window that takes up the whole day locks the client out: no later frame
-- can set another one.
import SmartTrack.LocalTime
import SmartTrack.WholeFrames

open bytes smart_track.production smart_track.tag smart_track.custom_services
  smart_track.settings smart_track.whole_frames
open smart_track.time_manager (TimeManager RetainedTimeBlock appTimeGetLocalMinutesOfDay
  appTimeGetUtcEpoch appTimeSyncSetUtc appTimeIsWithinEnergySavingWindow liveEpoch toUInt32
  toUInt32_toNat localMinutes_eq localTimestamp minuteOf_nonneg int16 int16_bounds)
open smart_track.provenance (quietRun)

namespace smart_track.lock_out

/-! ## The minutes of a window -/

def NO_WINDOW : Nat := 0xFFFF

/-- The minute `m` lies in the window. A window that does not end after its start goes on past
midnight, and one of the value that stands for none has no minute. -/
def InWindow (start stop m : Nat) : Prop :=
  start ≠ NO_WINDOW ∧ stop ≠ NO_WINDOW ∧
    if start < stop then start ≤ m ∧ m < stop else start ≤ m ∨ m < stop

/-- Some minute of the day is left out of the window. -/
def LeavesOpen (start stop : Nat) : Prop :=
  start = NO_WINDOW ∨ stop = NO_WINDOW ∨ start < stop ∧ (0 < start ∨ stop < 1440) ∨
    stop < start ∧ stop < 1440

instance (start stop : Nat) : Decidable (LeavesOpen start stop) :=
  inferInstanceAs (Decidable (_ ∨ _))

/-- The minute that is left out is the first of the day, or the one at which the window ends. -/
theorem leavesOpen_iff (start stop : Nat) :
    (∃ m < 1440, ¬ InWindow start stop m) ↔ LeavesOpen start stop := by
  unfold InWindow LeavesOpen
  constructor
  · rintro ⟨m, hm, hout⟩
    by_contra hclosed
    apply hout
    split_ifs <;> omega
  · rintro (h | h | ⟨hlt, h | h⟩ | ⟨hlt, h⟩)
    · exact ⟨0, by omega, fun hin => hin.1 h⟩
    · exact ⟨0, by omega, fun hin => hin.2.1 h⟩
    · refine ⟨0, by omega, ?_⟩
      rw [if_pos hlt]
      omega
    · refine ⟨stop, h, ?_⟩
      rw [if_pos hlt]
      omega
    · refine ⟨stop, h, ?_⟩
      rw [if_neg (by omega)]
      omega

/-! ## The clock and the window -/

section clock

variable (hz : Nat) (gst_ConfigData : ConfigData)

/-- The clock is synchronized, and shows the local minute `m`. -/
def Shows (t : TimeManager) (now m : Nat) : Prop :=
  t.bool_IsTimeSynchronized = true ∧
    (appTimeGetLocalMinutesOfDay hz t now gst_ConfigData).toNat = m

/-- There is a minute of the day that the clock can show, and at which it is never in the
window. -/
def StaysOpen : Prop :=
  ∃ m < 1440, (∃ t now, Shows hz gst_ConfigData t now m) ∧
    ∀ t now, Shows hz gst_ConfigData t now m →
      appTimeIsWithinEnergySavingWindow hz t now gst_ConfigData = false

/-- A synchronized clock is in the window just when its minute is. -/
theorem within_iff {t : TimeManager} {now m : Nat} (h : Shows hz gst_ConfigData t now m) :
    appTimeIsWithinEnergySavingWindow hz t now gst_ConfigData = true ↔
      InWindow gst_ConfigData.energy_save_para.u16_StartMinutes.toNat
        gst_ConfigData.energy_save_para.u16_EndMinutes.toNat m := by
  obtain ⟨hsync, rfl⟩ := h
  unfold appTimeIsWithinEnergySavingWindow InWindow
  generalize gst_ConfigData.energy_save_para.u16_StartMinutes = start
  generalize gst_ConfigData.energy_save_para.u16_EndMinutes = stop
  have hnone : ∀ x : UInt16, x.toNat = NO_WINDOW ↔ x = 0xFFFF := by
    intro x
    exact UInt16.toNat_inj (b := 0xFFFF)
  rw [if_neg (by simp [hsync])]
  simp only [ne_eq, hnone, ← UInt16.lt_iff_toNat_lt, ← UInt16.le_iff_toNat_le]
  by_cases hoff : start = 0xFFFF ∨ stop = 0xFFFF
  · rw [if_pos hoff]
    refine iff_of_false (by decide) (fun hin => ?_)
    rcases hoff with hstart | hstop
    · exact hin.1 hstart
    · exact hin.2.1 hstop
  · rw [if_neg hoff]
    rw [not_or] at hoff
    simp only [hoff, not_false_eq_true, true_and]
    split_ifs <;> exact decide_eq_true_iff

/-- The retained block of a chip that was never set. -/
def NO_TIME : RetainedTimeBlock :=
  { u32_MagicMarker := 0, u32_LastSavedUtcEpoch := 0, s64_LastSavedUptimeMs := 0 }

/-- An epoch in 1970 at which it is the minute `m` in the time zone of the tag. -/
def epochAt (m : Nat) : UInt32 :=
  UInt32.ofNat (60 * (144000 + m - int16 gst_ConfigData.s16_TimeZoneOffset)).toNat

/-- A clock that has just been set reads what it was set to. -/
theorem read_after_sync (t : TimeManager) (epoch : UInt32) :
    appTimeGetUtcEpoch hz (appTimeSyncSetUtc hz t 0 epoch) 0 = epoch := by
  have hlive : liveEpoch hz (appTimeSyncSetUtc hz t 0 epoch) 0 = epoch.toNat := by
    simp [liveEpoch, appTimeSyncSetUtc]
  have hlt := epoch.toNat_lt
  have hread : appTimeGetUtcEpoch hz (appTimeSyncSetUtc hz t 0 epoch) 0 =
      toUInt32 (liveEpoch hz (appTimeSyncSetUtc hz t 0 epoch) 0) := if_pos rfl
  rw [hread, hlive, ← UInt32.toNat_inj, toUInt32_toNat (by omega) (by omega)]
  omega

/-- The clock can be set to show any minute. -/
theorem shows_any {m : Nat} (hm : m < 1440) : ∃ t now, Shows hz gst_ConfigData t now m := by
  obtain ⟨hlow, hhigh⟩ := int16_bounds gst_ConfigData.s16_TimeZoneOffset
  have hepoch : ((epochAt gst_ConfigData m).toNat : Int) =
      60 * (144000 + m - int16 gst_ConfigData.s16_TimeZoneOffset) := by
    unfold epochAt
    rw [UInt32.toNat_ofNat']
    omega
  have hlocal : localTimestamp (epochAt gst_ConfigData m) gst_ConfigData = 60 * (144000 + m) := by
    unfold localTimestamp
    omega
  have hne : epochAt gst_ConfigData m ≠ 0 := by
    intro hzero
    rw [hzero] at hepoch
    change (0 : Int) = _ at hepoch
    omega
  have hread := read_after_sync hz { static_retained_time := NO_TIME } (epochAt gst_ConfigData m)
  have hminute := minuteOf_nonneg (x := 60 * (144000 + m)) (by omega) (by omega)
  refine ⟨appTimeSyncSetUtc hz { static_retained_time := NO_TIME } 0 (epochAt gst_ConfigData m), 0,
    rfl, ?_⟩
  rw [localMinutes_eq hz _ 0 gst_ConfigData (by rw [hread]; exact hne), hread, hlocal]
  omega

theorem staysOpen_iff :
    StaysOpen hz gst_ConfigData ↔
      LeavesOpen gst_ConfigData.energy_save_para.u16_StartMinutes.toNat
        gst_ConfigData.energy_save_para.u16_EndMinutes.toNat := by
  rw [← leavesOpen_iff]
  constructor
  · rintro ⟨m, hm, ⟨t, now, hshows⟩, hout⟩
    refine ⟨m, hm, fun hin => ?_⟩
    have hwithin := (within_iff hz gst_ConfigData hshows).mpr hin
    rw [hout t now hshows] at hwithin
    contradiction
  · rintro ⟨m, hm, hout⟩
    refine ⟨m, hm, shows_any hz gst_ConfigData hm, fun t now hshows => ?_⟩
    by_contra hwithin
    rw [Bool.not_eq_false] at hwithin
    exact hout ((within_iff hz gst_ConfigData hshows).mp hwithin)

end clock

/-! ## The frames that set the window -/

/-- The frame that the handler would execute now is an authorised one that sets the window. -/
def SetsWindow (t : Tag) : Prop :=
  executes t ≠ none ∧ t.svc.bool_UserAuthorization = true ∧
    Command.ofByte (takenFrame t 0) = some .SET_ENERGY_SAVE_TIME

instance (t : Tag) : Decidable (SetsWindow t) := inferInstanceAs (Decidable (_ ∧ _))

def frameStart (t : Tag) : UInt16 := ofLe16 (takenFrame t 2) (takenFrame t 3)

def frameStop (t : Tag) : UInt16 := ofLe16 (takenFrame t 4) (takenFrame t 5)

/-- After a frame that sets the window and is answered SUCCESS the tag stays open. -/
def KeepsOpen (t : Tag) : tag.Event → Prop
  | .parseAndReply io =>
    SetsWindow t → answer t io = some SUCCESS →
      StaysOpen t.board.CONFIG_SYS_CLOCK_TICKS_PER_SEC
        (next t (.parseAndReply io)).storage.gst_ConfigData
  | _ => True

/-- A frame that sets the window leaves some minute out. The bytes that it does not have are
zeros. -/
def FrameLeavesOpen (t : Tag) : tag.Event → Prop
  | .parseAndReply _ =>
    SetsWindow t → takenFrame t 1 = GLOBAL_ENERGY_SAVE_CONFIG1 →
      LeavesOpen (frameStart t).toNat (frameStop t).toNat
  | _ => True

instance (t : Tag) (e : tag.Event) : Decidable (FrameLeavesOpen t e) := by
  apply tag.Event.casesOn (motive := fun e => Decidable (FrameLeavesOpen t e)) e
  all_goals
    intros
    unfold FrameLeavesOpen
    infer_instance

/-- The command is answered SUCCESS for the one sub-command that it knows. -/
theorem answer_success_iff {t : Tag} (io : ParseIo) (h : SetsWindow t) :
    answer t io = some SUCCESS ↔ takenFrame t 1 = GLOBAL_ENERGY_SAVE_CONFIG1 := by
  obtain ⟨hexec, hauth, hcmd⟩ := h
  obtain ⟨c, hc⟩ := Option.ne_none_iff_exists'.mp hexec
  rw [answer_eq io hc hauth]
  unfold authorisedCommand
  simp only [hcmd]
  by_cases hsub : takenFrame t 1 = GLOBAL_ENERGY_SAVE_CONFIG1
  · rw [if_pos hsub]
    exact iff_of_true rfl hsub
  · rw [if_neg hsub]
    exact iff_of_false (by simp [invalidSubCommand, FAIL, SUCCESS]) hsub

/-- The window that the frame brings is the one of the configuration afterwards. -/
theorem window_set {t : Tag} (io : ParseIo) (h : SetsWindow t)
    (hsub : takenFrame t 1 = GLOBAL_ENERGY_SAVE_CONFIG1) :
    let para := (next t (.parseAndReply io)).storage.gst_ConfigData.energy_save_para
    para.u16_StartMinutes = frameStart t ∧ para.u16_EndMinutes = frameStop t := by
  obtain ⟨hexec, hauth, hcmd⟩ := h
  obtain ⟨c, hc⟩ := Option.ne_none_iff_exists'.mp hexec
  have hconfig : (next t (.parseAndReply io)).storage.gst_ConfigData =
      (setEnergySave (postponed (btConnRef (takeFrame t) c)) (frameStart t)
        (frameStop t)).storage.gst_ConfigData := by
    have hrun := congrArg Lasting.gst_ConfigData (runWith_lasting (c := c) io hauth (takenFrame t))
    simp only [lasting, flush_storage] at hrun
    rw [next, parse_busy t c io hc]
    refine hrun.trans ?_
    unfold authorisedCommand
    simp only [hcmd, hsub, if_true]
    rfl
  rw [hconfig]
  exact ⟨rfl, rfl⟩

theorem keepsOpen_iff (t : Tag) (e : tag.Event) : KeepsOpen t e ↔ FrameLeavesOpen t e := by
  cases e with
  | parseAndReply io =>
    refine forall_congr' (fun hsets => ?_)
    rw [answer_success_iff io hsets]
    refine forall_congr' (fun hsub => ?_)
    obtain ⟨hstart, hstop⟩ := window_set io hsets hsub
    rw [staysOpen_iff, hstart, hstop]
  | _ => exact Iff.rfl

/-- From any state, and so from the defaults, every window that is set leaves the tag a minute
to be reached at just when every frame that sets one does. -/
theorem the_tag_stays_open_while_frames_leave_it_open (t : Tag) (es : List tag.Event) :
    system.Steps KeepsOpen t es ↔ system.Steps FrameLeavesOpen t es :=
  runs.System.steps_congr (A := fun _ _ => True) (I := fun _ => True) (fun _ _ _ _ => trivial)
    (fun t e _ _ => keepsOpen_iff t e) trivial (runs.System.steps_trivial t es)

/-- The window of the defaults ends at six in the morning. -/
example : LeavesOpen 1320 360 := by decide

/-- A frame of two bytes is taken for a window from midnight to midnight, and no minute is left
for a frame that would set another one. -/
theorem two_bytes_lock_the_client_out :
    ¬ ∀ (t : Tag) (es : List tag.Event), system.Run t es → system.Steps KeepsOpen t es := by
  intro h
  have hrun : system.Run factoryTag (loggedIn [0x1D, 1] ++ [.parseAndReply quietRun]) :=
    ⟨factoryTag_starts, by decide +kernel⟩
  have hsteps := (runs.System.steps_append _ _ _).mp (h factoryTag _ hrun)
  have hopen := (keepsOpen_iff _ _).mp hsteps.2.1
  revert hopen
  decide +kernel

end smart_track.lock_out
