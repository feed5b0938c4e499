-- The energy-saving window. The supervisor takes the Vision set off air in the window
-- and puts it back afterwards; one law says when the window is silent, the other when
-- a call of the supervisor that failed is made again.
import SmartTrack.AirTime
import SmartTrack.Sessions

open smart_track.zephyr smart_track.production smart_track.tag smart_track.custom_services
  smart_track.air_time
open smart_track.vision_advt (Advt bleAdvCustomStart bleAdvCustomStop onVisionSet onAir Tracks
  FlagSafe onAir_start onAir_stop off_connected off_of_unmade run_onlySet start_onlySet tracks_start
  tracks_stop tracks_connected tracks_run)
open smart_track.time_manager (TIME_MAGIC_VALIDATED)
open smart_track.sessions (quietIo)

namespace smart_track.energy_saving

/-! ## The silence of the window -/

/-- The controller takes the calls that start and stop the set. -/
def CallsSucceed : Event → Prop
  | .disconnected _ io =>
    io.interval.stopRc = 0 ∧ io.interval.updateRc = 0 ∧ io.interval.startRc = 0 ∧ io.startRc = 0
  | .customStart rc => rc = 0
  | .customStop rc => rc = 0
  | .supervisor rc => rc = 0
  | _ => True

instance (e : Event) : Decidable (CallsSucceed e) := by
  apply Event.casesOn (motive := fun e => Decidable (CallsSucceed e)) e
  all_goals
    intros
    unfold CallsSucceed
    infer_instance

/-- After a tick inside the window the set is off air. -/
def SilentInside (t : Tag) : Event → Prop
  | .supervisor rc => insideWindow t = true → onAir (superviseTime t rc).advt = false
  | _ => True

/-- Nothing starts the set while the supervisor holds it off air: no Vision session ends and no
provisioning is reported. And the callback of a link is only that of a Vision link, while
the set is on air. -/
def HoldsOff (t : Tag) : Event → Prop
  | .connected _ id err _ => onVisionSet t.advt id err ∨ t.advt.is_advertising = false
  | .disconnected _ _ => t.time.Advtflag = true → t.advt.adv_set ≠ none → ¬ RunsVisionBranch t
  | .customStart _ => t.time.Advtflag = true → t.advt.adv_set = none
  | _ => True

instance (t : Tag) (e : Event) : Decidable (HoldsOff t e) := by
  apply Event.casesOn (motive := fun e => Decidable (HoldsOff t e)) e
  all_goals
    intros
    unfold HoldsOff
    infer_instance

/-- While the flag of the supervisor is up, the set is off air. -/
structure HeldOff (t : Tag) : Prop where
  tracks : Tracks t.advt
  off : t.time.Advtflag = true → onAir t.advt = false

theorem HeldOff.of_same {t u : Tag} (h : HeldOff t) (hadvt : u.advt = t.advt)
    (hflag : u.time.Advtflag = t.time.Advtflag) : HeldOff u :=
  ⟨hadvt ▸ h.tracks, fun hup => hadvt ▸ h.off (hflag ▸ hup)⟩

theorem heldOff_of_reset {t : Tag} (hstart : vision_advt.system.start t.advt)
    (hflag : t.time.Advtflag = false) : HeldOff t := by
  refine ⟨hstart.1.trans hstart.2.symm, ?_⟩
  intro hup
  rw [hflag] at hup
  contradiction

theorem sessionEnd_safe {t : Tag} {io : DisconnectIo} (h : io.interval.startRc = 0) :
    vision_advt.system.Steps FlagSafe t.advt (sessionEndCalls t io) := by
  unfold sessionEndCalls
  simp only
  split
  · exact ⟨fun _ _ _ => h, trivial, trivial⟩
  · exact ⟨trivial, trivial⟩

/-- A tick keeps the set off air in the window, if it can stop it. -/
theorem heldOff_supervisor {t : Tag} {rc : Int} (h : HeldOff t)
    (hstop : insideWindow t = true → t.time.Advtflag = false → onAir t.advt = true → rc = 0) :
    HeldOff (superviseTime t rc) := by
  rcases supervisor_cases t rc with ⟨hin, hdown, hup, hadvt⟩ | ⟨_, _, _, hdown, hadvt⟩ |
    ⟨_, _, hflag, hadvt⟩
  · refine ⟨?_, fun _ => ?_⟩
    · rw [hadvt]
      exact tracks_stop t.advt rc h.tracks
    · rw [hadvt, ← Bool.not_eq_true, onAir_stop rc h.tracks]
      rintro ⟨hair, hrc⟩
      exact hrc (hstop hin hdown hair)
  · refine ⟨?_, fun hup => by rw [hdown] at hup; contradiction⟩
    rw [hadvt]
    exact tracks_start t.advt rc h.tracks
  · exact h.of_same hadvt hflag

theorem heldOff_linkUp {t : Tag} {c : Conn} {id : Fin CONFIG_BT_ID_MAX} {err : Nat} {infoRc : Int}
    (h : HeldOff t) (hc : HoldsOff t (.connected c id err infoRc)) :
    HeldOff (linkUp t c id err infoRc) := by
  refine ⟨?_, fun hup => ?_⟩
  · rw [linkUp_advt]
    exact (tracks_connected t.advt id err h.tracks).mpr hc
  · rw [(linkUp_frame t c id err infoRc).1] at hup
    rw [linkUp_advt]
    exact off_connected id err (h.off hup)

theorem heldOff_linkDown {t : Tag} {c : Conn} {io : DisconnectIo} (h : HeldOff t)
    (hok : CallsSucceed (.disconnected c io)) (hc : HoldsOff t (.disconnected c io)) :
    HeldOff (linkDown t c io) := by
  by_cases hv : RunsVisionBranch t
  · obtain ⟨hadvt, htime, _⟩ := linkDown_vision t c io hv
    refine ⟨?_, fun hup => ?_⟩
    · rw [hadvt]
      exact tracks_run h.tracks (sessionEnd_safe hok.2.2.1)
    · rw [htime] at hup
      rw [hadvt]
      by_cases hset : t.advt.adv_set = none
      · exact off_of_unmade ((run_onlySet _ _).unmade.mpr hset)
      · exact absurd hv (hc hup hset)
  · have hsame := linkDown_other t c io hv
    exact h.of_same hsame.advt (congrArg _ hsame.time)

theorem heldOff_next {t : Tag} {e : Event} (h : HeldOff t) (hok : CallsSucceed e)
    (hc : HoldsOff t e) : HeldOff (next t e) := by
  induction e using set_cases t with
  | reset e io hreset =>
    obtain ⟨hstart, hflag⟩ := reset_off hreset
    exact heldOff_of_reset hstart hflag
  | quiet e _ _ hsame => exact h.of_same hsame.advt hsame.Advtflag
  | connected c id err infoRc => exact heldOff_linkUp h hc
  | disconnected c io => exact heldOff_linkDown h hok hc
  | customStart rc =>
    refine ⟨tracks_start t.advt rc h.tracks, fun hup => ?_⟩
    exact off_of_unmade ((start_onlySet t.advt rc).unmade.mpr (hc hup))
  | customStop rc =>
    refine ⟨tracks_stop t.advt rc h.tracks, fun hup => ?_⟩
    have hoff : onAir t.advt = false := h.off hup
    change onAir (bleAdvCustomStop t.advt rc).1 = false
    rw [← Bool.not_eq_true, onAir_stop rc h.tracks, hoff]
    simp
  | supervisor rc => exact heldOff_supervisor h (fun _ _ _ => hok)

theorem silent_of_heldOff {t : Tag} {rc : Int} (hin : insideWindow t = true)
    (h : HeldOff (superviseTime t rc)) : onAir (superviseTime t rc).advt = false := by
  refine h.off ?_
  have hsync : t.time.bool_IsTimeSynchronized = true := by
    by_contra hsync
    simp only [Bool.not_eq_true] at hsync
    rw [outside_of_unsynchronized hsync] at hin
    contradiction
  rw [(superviseTime_advt t rc).2, hsync, hin]
  rfl

/-- In every run from a boot in which the controller takes each call, a tick inside the window
leaves the set off air, if nothing starts the set while the supervisor holds it off. -/
theorem the_window_is_silent_while_nothing_starts_the_set (t : Tag) (es : List Event)
    (h : system.Run t es) (hok : system.Steps (fun _ e => CallsSucceed e) t es)
    (hc : system.Steps HoldsOff t es) : system.Steps SilentInside t es := by
  have h0 : HeldOff t := by
    obtain ⟨board, nvs, retained, io, rfl⟩ := h.1
    obtain ⟨hstart, hflag⟩ := boot_off board nvs retained io
    exact heldOff_of_reset hstart hflag
  refine (runs.System.steps_of_invariant (I := HeldOff)
    (A := fun t e => CallsSucceed e ∧ HoldsOff t e) ?_ h0
    ((runs.System.steps_and t es).mpr ⟨hok, hc⟩)).1
  intro t e hheld ha
  have hnext := heldOff_next hheld ha.1 ha.2
  refine ⟨?_, hnext⟩
  cases e with
  | supervisor rc =>
    intro hin
    exact silent_of_heldOff hin hnext
  | _ => trivial

/-- A tag in the last minute before its window, 21:59 in the zone of the defaults. -/
def eveningTag : Tag :=
  boot factoryTag.board (fun _ => none)
    { u32_MagicMarker := TIME_MAGIC_VALIDATED, u32_LastSavedUtcEpoch := 1728059340,
      s64_LastSavedUptimeMs := 0 }
    quietBoot

theorem eveningTag_starts : system.start eveningTag := ⟨_, _, _, _, rfl⟩

def minutes (n : Nat) : Event := .elapse (n * 60 * 32768)

example : insideWindow eveningTag = false ∧ insideWindow (next eveningTag (minutes 1)) = true := by
  decide +kernel

/-- The set goes off air when the window begins, and on air when it has ended. -/
theorem a_night_is_silent :
    system.Steps SilentInside eveningTag
      [.customStart 0, .supervisor 0, minutes 1, .supervisor 0, minutes 480, .supervisor 0] :=
  the_window_is_silent_while_nothing_starts_the_set eveningTag _
    ⟨eveningTag_starts, by decide +kernel⟩ (by decide +kernel) (by decide +kernel)

/-- A Vision client stays connected over the start of the window: the end of its session puts
the set on air, and the next tick leaves it there. -/
theorem a_session_over_the_start_breaks_the_silence :
    ¬ ∀ (t : Tag) (es : List Event), system.Run t es →
      system.Steps (fun _ e => CallsSucceed e) t es → system.Steps SilentInside t es := by
  intro h
  have hsteps := h eveningTag
    [.customStart 0, .connected 0 2 0 0, minutes 1, .supervisor 0, .disconnected 0 quietIo,
      .supervisor 0]
    ⟨eveningTag_starts, by decide +kernel⟩ (by decide +kernel)
  have hlast := hsteps.2.2.2.2.2.1 (by decide +kernel)
  revert hlast
  decide +kernel

/-! ## The calls of the supervisor -/

/-- The runs of the supervisor: its ticks, and any event between them that neither starts nor
stops the set. They begin where the flags say what the controller does. -/
def supervised : runs.System Tag Event where
  start := HeldOff
  allowed t e := (∃ rc, e = .supervisor rc) ∨ ¬ Drives e ∧ resetBy t e = none
  next := next

/-- What a watcher has to know of the window: whether the last tick was inside, and whether
the supervisor took a set off air in it, or in the last one. -/
structure Window where
  inside : Bool := false
  silenced : Bool := false

def note (w : Window) (t : Tag) : Event → Window
  | .supervisor rc =>
    if insideWindow t then
      { inside := true
        silenced := w.inside && w.silenced ||
          onAir t.advt && ! onAir (superviseTime t rc).advt }
    else
      { w with inside := false }
  | _ => w

def watched : runs.System (Tag × Window) Event := supervised.watch {} note

/-- After a tick inside the window the set is off air, or the next tick stops it. After a tick
outside, a set that was taken off air is on air again, or the next tick starts it. -/
def NotForgotten (p : Tag × Window) : Event → Prop
  | .supervisor rc =>
    let u := superviseTime p.1 rc
    if insideWindow p.1 then
      onAir u.advt = false ∨ u.time.Advtflag = false
    else
      p.2.silenced = true → onAir u.advt = true ∨ u.time.Advtflag = true
  | _ => True

/-- The tick that stops a set on air gets through, and so does the one that starts a set again
that was taken off air. -/
def GetsThrough (p : Tag × Window) : Event → Prop
  | .supervisor rc =>
    if insideWindow p.1 then
      p.1.time.Advtflag = false → onAir p.1.advt = true → rc = 0
    else
      p.1.time.bool_IsTimeSynchronized = true → p.1.time.Advtflag = true →
        p.2.silenced = true → rc = 0
  | _ => True

/-- A set that was taken off air is made, and is on air or due to be. -/
structure Remembered (p : Tag × Window) : Prop extends HeldOff p.1 where
  made : p.2.silenced = true → p.1.advt.adv_set ≠ none
  due : p.2.silenced = true → onAir p.1.advt = true ∨ p.1.time.Advtflag = true

theorem note_silenced {w : Window} {t : Tag} {rc : Int}
    (h : (note w t (.supervisor rc)).silenced = true) :
    w.silenced = true ∨ onAir t.advt = true ∧ onAir (superviseTime t rc).advt = false := by
  simp only [note] at h
  split at h
  · simp only [Bool.or_eq_true, Bool.and_eq_true, Bool.not_eq_true'] at h
    rcases h with ⟨_, hsilenced⟩ | hoff
    · exact Or.inl hsilenced
    · exact Or.inr hoff
  · exact Or.inl h

theorem made_of_onAir {a : Advt} (h : onAir a = true) : a.adv_set ≠ none := by
  intro hnone
  rw [off_of_unmade hnone] at h
  contradiction

theorem notForgotten_iff {p : Tag × Window} (rc : Int) (h : Remembered p) :
    NotForgotten p (.supervisor rc) ↔ GetsThrough p (.supervisor rc) := by
  simp only [NotForgotten, GetsThrough]
  rcases supervisor_cases p.1 rc with ⟨hin, hdown, hup, hadvt⟩ |
    ⟨hout, hsync, hup, hdown, hadvt⟩ | ⟨hin, hout, hflag, hadvt⟩
  · -- The tick stops the set.
    rw [if_pos hin, if_pos hin, hadvt, hup, ← Bool.not_eq_true, onAir_stop rc h.tracks]
    simp [hdown]
  · -- The tick starts the set.
    have hoff := h.off hup
    rw [if_neg (by simp [hout]), if_neg (by simp [hout]), hadvt, hdown,
      onAir_start rc h.tracks, hoff]
    simp only [Bool.false_eq_true, false_or, or_false, hsync, hup, true_implies]
    exact forall_congr' fun hs => and_iff_right (h.made hs)
  · -- The tick makes no call.
    rw [hadvt, hflag]
    split
    · rename_i hi
      simp [hin hi, h.off (hin hi)]
    · rename_i hi
      simp only [Bool.not_eq_true] at hi
      refine iff_of_true h.due ?_
      intro hsync hup
      rw [hout hi hsync] at hup
      contradiction

theorem remembered_supervisor {p : Tag × Window} {rc : Int} (h : Remembered p)
    (hc : GetsThrough p (.supervisor rc)) :
    Remembered (superviseTime p.1 rc, note p.2 p.1 (.supervisor rc)) := by
  simp only [GetsThrough] at hc
  refine ⟨heldOff_supervisor h.toHeldOff ?_, ?_, ?_⟩
  · intro hin hdown hair
    rw [if_pos hin] at hc
    exact hc hdown hair
  · intro hs
    have hmade : p.1.advt.adv_set ≠ none := by
      rcases note_silenced hs with hsilenced | ⟨hair, _⟩
      · exact h.made hsilenced
      · exact made_of_onAir hair
    rw [(superviseTime_advt p.1 rc).1]
    exact mt (run_onlySet _ _).unmade.mp hmade
  · intro hs
    change onAir (superviseTime p.1 rc).advt = true ∨ (superviseTime p.1 rc).time.Advtflag = true
    rcases supervisor_cases p.1 rc with ⟨_, _, hup, _⟩ | ⟨hout, hsync, hup, _, hadvt⟩ |
      ⟨_, _, hflag, hadvt⟩
    · exact Or.inr hup
    · left
      have hsilenced : p.2.silenced = true := by
        simpa [note, hout] using hs
      rw [if_neg (by simp [hout])] at hc
      rw [hadvt, onAir_start rc h.tracks]
      exact Or.inr ⟨h.made hsilenced, hc hsync hup hsilenced⟩
    · rw [hadvt, hflag]
      rcases note_silenced hs with hsilenced | ⟨hair, hoff⟩
      · exact h.due hsilenced
      · exact Or.inl hair

theorem remembered_quiet {p : Tag × Window} {e : Event} (h : Remembered p) (hd : ¬ Drives e)
    (hreset : resetBy p.1 e = none) : Remembered (watched.next p e) := by
  have hsame := quiet_set p.1 e hd hreset
  have hnote : note p.2 p.1 e = p.2 := by
    cases e <;> first | rfl | exact absurd trivial hd
  change Remembered (next p.1 e, note p.2 p.1 e)
  rw [hnote]
  refine ⟨h.toHeldOff.of_same hsame.advt hsame.Advtflag, ?_, ?_⟩
  · rw [hsame.advt]
    exact h.made
  · rw [hsame.advt, hsame.Advtflag]
    exact h.due

/-- In every run of the supervisor no failed call is forgotten just when the ticks get through
that stop a set on air and that start a silenced one. -/
theorem no_call_is_forgotten_while_calls_get_through (t : Tag) (es : List Event)
    (h : supervised.Run t es) :
    watched.Steps NotForgotten (t, {}) es ↔ watched.Steps GetsThrough (t, {}) es := by
  have h0 : Remembered (t, {}) := ⟨h.1, Bool.noConfusion, Bool.noConfusion⟩
  have hA := (supervised.watch_steps ({} : Window) note (t, {}) es).mpr h.2
  refine runs.System.steps_iff_steps (I := Remembered) ?_ ?_ h0 hA
  · rintro p e hp (⟨rc, rfl⟩ | ⟨hd, _⟩)
    · exact notForgotten_iff rc hp
    · cases e <;> first | exact Iff.rfl | exact absurd trivial hd
  · rintro p e hp (⟨rc, rfl⟩ | ⟨hd, hreset⟩) hc
    · exact remembered_supervisor hp hc
    · exact remembered_quiet hp hd hreset

instance (p : Tag × Window) (e : Event) : Decidable (GetsThrough p e) := by
  apply Event.casesOn (motive := fun e => Decidable (GetsThrough p e)) e
  all_goals
    intros
    unfold GetsThrough
    infer_instance

/-- The same tag with its set on air. -/
def eveningOnAir : Tag := next eveningTag (.customStart 0)

theorem eveningOnAir_starts : supervised.start eveningOnAir :=
  ⟨by decide +kernel, by decide +kernel⟩

/-- The ticks before, in and after the window. -/
def night : List Event := [.supervisor 0, minutes 1, .supervisor 0, minutes 480, .supervisor 0]

theorem a_night_of_calls_is_kept : watched.Steps NotForgotten (eveningOnAir, {}) night :=
  (no_call_is_forgotten_while_calls_get_through eveningOnAir night
    ⟨eveningOnAir_starts, Or.inl ⟨0, rfl⟩, Or.inr ⟨id, rfl⟩, Or.inl ⟨0, rfl⟩, Or.inr ⟨id, rfl⟩,
      Or.inl ⟨0, rfl⟩, trivial⟩).mpr (by decide +kernel)

/-- The stop at the start of the window fails: the set stays on air, and the flag says that it
was stopped. -/
theorem a_failed_stop_is_forgotten :
    ¬ ∀ (t : Tag) (es : List Event), supervised.Run t es →
      watched.Steps NotForgotten (t, {}) es := by
  intro h
  have hsteps := h eveningOnAir [minutes 1, .supervisor (-5)]
    ⟨eveningOnAir_starts, Or.inr ⟨id, rfl⟩, Or.inl ⟨-5, rfl⟩, trivial⟩
  rcases hsteps.2.1 with hoff | hdown
  · exact absurd hoff (by decide +kernel)
  · exact absurd hdown (by decide +kernel)

end smart_track.energy_saving
