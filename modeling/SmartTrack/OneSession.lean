-- One Vision session at a time: the Vision set is off air while a Vision link is live. A
-- link that comes up takes the set off air, so only a call that starts the set can break
-- this, and the start looks at nothing but its own flag.
import SmartTrack.EnergySaving

open smart_track.zephyr smart_track.tag smart_track.custom_services smart_track.air_time
  smart_track.sessions smart_track.energy_saving
open smart_track.vision_advt (Advt bleAdvCustomStart bleAdvCustomStop bleAdvCustomUpdateInterval
  IntervalIo onAir getVisionId onVisionSet onAir_setEnabled onAir_linkAccepted
  onAir_updateParam updateParam_is_advertising)

namespace smart_track.one_session

/-! ## The law -/

/-- The set is not on air while a Vision link is live. -/
def OneSession (t : Tag) : Prop := onAir t.advt = true → ∀ c, ¬ OnVision t c

instance (t : Tag) : Decidable (OneSession t) := inferInstanceAs (Decidable (_ → _))

/-- The event calls `ble_adv_custom_start`: it reports the provisioning, or ends a Vision
session, or is the first tick of the supervisor after the window. -/
def CallsStart (t : Tag) : Event → Prop
  | .customStart _ => True
  | .disconnected .. => RunsVisionBranch t
  | .supervisor _ =>
    insideWindow t = false ∧ t.time.bool_IsTimeSynchronized = true ∧ t.time.Advtflag = true
  | _ => False

/-- The links that are live while the event runs: one that goes down is gone. -/
def liveDuring (t : Tag) : Event → Conn → Prop
  | .disconnected c _ => fun d => d ≠ c ∧ OnVision t d
  | _ => OnVision t

/-- A call that puts the set on air finds no Vision link live. -/
def StartsAlone (t : Tag) (e : Event) : Prop :=
  CallsStart t e → t.advt.is_advertising = false → t.advt.adv_set ≠ none →
    ∀ c, ¬ liveDuring t e c

instance (t : Tag) (e : Event) : Decidable (CallsStart t e) := by
  apply Event.casesOn (motive := fun e => Decidable (CallsStart t e)) e
  all_goals
    intros
    unfold CallsStart
    infer_instance

instance (t : Tag) (e : Event) (c : Conn) : Decidable (liveDuring t e c) := by
  apply Event.casesOn (motive := fun e => Decidable (liveDuring t e c)) e
  all_goals
    intros
    unfold liveDuring
    infer_instance

instance (t : Tag) (e : Event) : Decidable (StartsAlone t e) :=
  inferInstanceAs (Decidable (_ → _))

/-! ## The calls on the set -/

/-- A set that the file takes for started is on air. -/
def UpOnAir (a : Advt) : Prop := a.is_advertising = true → onAir a = true

theorem onAir_start_iff (a : Advt) :
    onAir (bleAdvCustomStart a 0).1 = true ↔
      onAir a = true ∨ a.is_advertising = false ∧ a.adv_set ≠ none := by
  unfold bleAdvCustomStart
  by_cases hup : a.is_advertising = true
  · simp [hup]
  rw [if_neg hup]
  by_cases hset : a.adv_set = none
  · simp [hset]
  rw [if_neg hset]
  have hair : onAir (vision_advt.setEnabled a true) = true := onAir_setEnabled a true hset
  simp only [Bool.not_eq_true] at hup
  exact iff_of_true hair (Or.inr ⟨hup, hset⟩)

theorem upOnAir_start {a : Advt} (h : UpOnAir a) : UpOnAir (bleAdvCustomStart a 0).1 := by
  intro _
  rw [onAir_start_iff]
  by_cases hup : a.is_advertising = true
  · exact Or.inl (h hup)
  · rename_i hafter
    simp only [Bool.not_eq_true] at hup
    refine Or.inr ⟨hup, fun hset => ?_⟩
    simp [bleAdvCustomStart, hup, hset] at hafter

/-- A stop only takes the set off air. -/
theorem onAir_of_stop {a : Advt} (h : onAir (bleAdvCustomStop a 0).1 = true) : onAir a = true := by
  unfold bleAdvCustomStop at h
  split at h
  · exact h
  · rename_i hset
    have hoff : onAir (vision_advt.setEnabled a false) = false :=
      onAir_setEnabled a false (not_or.mp hset).2
    exact absurd (hoff.symm.trans h) (by decide)

theorem upOnAir_stop {a : Advt} (h : UpOnAir a) : UpOnAir (bleAdvCustomStop a 0).1 := by
  unfold bleAdvCustomStop
  split
  · exact h
  · intro hup
    exact absurd hup (by simp)

/-- A change of the interval that the controller takes leaves the set on air or off. -/
theorem interval_quiet {a : Advt} (h : UpOnAir a) (lo hi : Nat) {io : IntervalIo}
    (hstop : io.stopRc = 0) (hupdate : io.updateRc = 0) (hstart : io.startRc = 0) :
    onAir (bleAdvCustomUpdateInterval a lo hi io).1 = onAir a ∧
      (bleAdvCustomUpdateInterval a lo hi io).1.is_advertising = a.is_advertising := by
  unfold bleAdvCustomUpdateInterval
  simp only [hstop, hupdate, hstart, ne_eq, not_true_eq_false, if_false]
  split_ifs with hset hup
  · exact ⟨rfl, rfl⟩
  · -- The set is stopped and started again.
    have hmade := vision_advt.set_updateParam
      { vision_advt.btLeExtAdvStop a 0 with is_advertising := false }
      { id := a.Vision_id, sid := 1, secondary_max_skip := 0, options := [.conn, .useIdentity],
        interval_min := vision_advt.advTicks lo, interval_max := vision_advt.advTicks hi } 0
      (by simpa [vision_advt.btLeExtAdvStop, vision_advt.setEnabled] using hset)
    exact ⟨(onAir_setEnabled _ true hmade).trans (h hup).symm, hup.symm⟩
  · exact ⟨onAir_updateParam a _ 0, updateParam_is_advertising a _ 0⟩

/-- The end of a Vision session puts the set on air, unless the file takes it for started. -/
theorem sessionEnd_onAir {t : Tag} {c : Conn} {io : DisconnectIo} (h : UpOnAir t.advt)
    (hok : CallsSucceed (.disconnected c io)) :
    let a := vision_advt.system.run t.advt (sessionEndCalls t io)
    (onAir a = true ↔
        onAir t.advt = true ∨ t.advt.is_advertising = false ∧ t.advt.adv_set ≠ none) ∧
      UpOnAir a := by
  obtain ⟨hstop, hupdate, hstart, hagain⟩ := hok
  have hkey : ∀ b : Advt, onAir b = onAir t.advt → b.is_advertising = t.advt.is_advertising →
      (b.adv_set = none ↔ t.advt.adv_set = none) →
      (onAir (bleAdvCustomStart b 0).1 = true ↔
        onAir t.advt = true ∨ t.advt.is_advertising = false ∧ t.advt.adv_set ≠ none) ∧
      UpOnAir (bleAdvCustomStart b 0).1 := by
    intro b hair hflag hunmade
    refine ⟨?_, upOnAir_start ?_⟩
    · rw [onAir_start_iff, hair, hflag, Ne, hunmade]
    · unfold UpOnAir
      rw [hair, hflag]
      exact h
  unfold sessionEndCalls
  simp only [hagain]
  split
  · obtain ⟨hair, hflag⟩ := interval_quiet h
      t.storage.gst_ConfigData.mu16_AdvertismentInterval.toNat
      (t.storage.gst_ConfigData.mu16_AdvertismentInterval.toNat + 10) hstop hupdate hstart
    exact hkey _ hair hflag (vision_advt.updateInterval_onlySet _ _ _ io.interval).unmade
  · exact hkey t.advt rfl rfl Iff.rfl

/-! ## The links -/

/-- An event that does not drive the set brings no link up. -/
theorem onVision_quiet {t : Tag} {e : Event} {c : Conn} (hd : ¬ Drives e)
    (h : OnVision (next t e) c) : OnVision t c := by
  have hhost : ∀ u : Tag, u.host = t.host → getVisionId u.advt = getVisionId t.advt →
      OnVision u c → OnVision t c :=
    fun u hsame hid hu => (onVision_of (by rw [hsame]) hid).mp hu
  by_cases hq : Quiet e
  · rcases quiet_next t e hq with hs | hf
    · exact (onVision_of (congrFun hs.link c) hs.vision_id).mp h
    · simp [OnVision, hf.host] at h
  cases e with
  | write d buf offset =>
    obtain ⟨_, _, _, _, hsame, _, hadvt⟩ := write_same t buf offset
    exact hhost _ hsame (congrArg _ hadvt) h
  | parseAndReply io =>
    have hrun := parse_afterRun t io
    exact hhost _ hrun.host hrun.vision_id h
  | connected => exact absurd trivial hd
  | disconnected => exact absurd trivial hd
  | _ => exact absurd trivial hq

theorem oneSession_linkUp {t : Tag} {c : Conn} {id err : Nat} {infoRc : Int}
    (h : OneSession t) : OneSession (linkUp t c id err infoRc) := by
  intro hair d hd
  have hid := linkUp_Vision_id t c id err infoRc
  rw [linkUp_advt, vision_advt.next] at hair
  change onAir (if onVisionSet t.advt id err then _ else _) = true at hair
  by_cases hv : onVisionSet t.advt id err
  · -- The link takes the set off air.
    rw [if_pos hv, onAir_linkAccepted] at hair
    contradiction
  rw [if_neg hv] at hair
  by_cases herr : err = 0
  · subst herr
    obtain ⟨_, hlink, _, _⟩ := linkUp_links t c id infoRc
    by_cases hdc : d = c
    · subst hdc
      unfold OnVision at hd
      rw [hlink, Function.update_self, hid] at hd
      exact hv ⟨rfl, hd⟩
    · have hkeep : (linkUp t c id 0 infoRc).host.link d = t.host.link d := by
        rw [hlink, Function.update_of_ne hdc]
      exact h hair d ((onVision_of hkeep hid).mp hd)
  · obtain ⟨_, hhost, _⟩ := linkUp_failed t c id err infoRc herr
    exact h hair d ((onVision_of (by rw [hhost]) hid).mp hd)

/-! ## One step -/

theorem upOnAir_of_start {a : Advt} (h : vision_advt.system.start a) : UpOnAir a := by
  intro hup
  rw [h.1] at hup
  contradiction

theorem upOnAir_next {t : Tag} {e : Event} (h : UpOnAir t.advt) (hok : CallsSucceed e) :
    UpOnAir (next t e).advt := by
  induction e using set_cases t with
  | reset e io hreset => exact upOnAir_of_start (reset_off hreset).1
  | quiet e _ _ hsame =>
    rw [hsame.advt]
    exact h
  | connected c id err infoRc =>
    rw [next, linkUp_advt]
    intro hup
    exact absurd hup (by simp [vision_advt.next, vision_advt.connected])
  | disconnected c io =>
    by_cases hv : RunsVisionBranch t
    · rw [next, (linkDown_vision t c io hv).1]
      exact (sessionEnd_onAir (c := c) h hok).2
    · rw [next, (linkDown_other t c io hv).advt]
      exact h
  | customStart rc =>
    rw [show rc = 0 from hok]
    exact upOnAir_start h
  | customStop rc =>
    rw [show rc = 0 from hok]
    exact upOnAir_stop h
  | supervisor rc =>
    rw [show rc = 0 from hok, next]
    rcases supervisor_cases t 0 with ⟨_, _, _, hadvt⟩ | ⟨_, _, _, _, hadvt⟩ | ⟨_, _, _, hadvt⟩
    · rw [hadvt]
      exact upOnAir_stop h
    · rw [hadvt]
      exact upOnAir_start h
    · rw [hadvt]
      exact h

/-- The set is put on air by a start, while the links `live` are up. -/
theorem oneSession_started {t u : Tag} {live : Conn → Prop} (h : OneSession t)
    (hair : onAir u.advt = true ↔
      onAir t.advt = true ∨ t.advt.is_advertising = false ∧ t.advt.adv_set ≠ none)
    (hlive : ∀ c, OnVision u c ↔ live c) (hsub : ∀ c, live c → OnVision t c) :
    OneSession u ↔
      (t.advt.is_advertising = false → t.advt.adv_set ≠ none → ∀ c, ¬ live c) := by
  unfold OneSession
  rw [hair]
  constructor
  · intro hq hdown hset c hc
    exact hq (Or.inr ⟨hdown, hset⟩) c ((hlive c).mpr hc)
  · rintro hc (hon | ⟨hdown, hset⟩) c hv
    · exact h hon c (hsub c ((hlive c).mp hv))
    · exact hc hdown hset c ((hlive c).mp hv)

/-- A call that only takes the set off air, or leaves it, while no link comes up. -/
theorem oneSession_of {t u : Tag} (h : OneSession t)
    (hair : onAir u.advt = true → onAir t.advt = true) (hlive : ∀ c, OnVision u c → OnVision t c) :
    OneSession u := fun hon c hv => h (hair hon) c (hlive c hv)

theorem oneSession_linkDown {t : Tag} {c : Conn} {io : DisconnectIo} (hup : UpOnAir t.advt)
    (h : OneSession t) (hok : CallsSucceed (.disconnected c io)) :
    OneSession (linkDown t c io) ↔ StartsAlone t (.disconnected c io) := by
  obtain ⟨hlink, hid, _⟩ := linkDown_identity t c io
  have hlive : ∀ d, OnVision (linkDown t c io) d ↔ d ≠ c ∧ OnVision t d := by
    intro d
    by_cases hdc : d = c
    · subst hdc
      simp [OnVision, hlink]
    · have hkeep : (linkDown t c io).host.link d = t.host.link d := by
        rw [hlink, Function.update_of_ne hdc]
      rw [onVision_of hkeep hid]
      simp [hdc]
  by_cases hv : RunsVisionBranch t
  · have hair := (sessionEnd_onAir (c := c) hup hok).1
    rw [← (linkDown_vision t c io hv).1] at hair
    rw [oneSession_started h hair hlive (fun d hd => hd.2)]
    exact ⟨fun hc _ => hc, fun hc => hc hv⟩
  · have hsame := (linkDown_other t c io hv).advt
    have hair : onAir (linkDown t c io).advt = true → onAir t.advt = true := by
      rw [hsame]
      exact id
    refine iff_of_true (oneSession_of h hair fun d hd => ((hlive d).mp hd).2) ?_
    exact fun hstarts => absurd hstarts hv

/-- A start by an event that leaves the links alone. -/
theorem oneSession_start {t u : Tag} (h : OneSession t)
    (hadvt : u.advt = (bleAdvCustomStart t.advt 0).1) (hsame : SameSession t u) :
    OneSession u ↔
      (t.advt.is_advertising = false → t.advt.adv_set ≠ none → ∀ c, ¬ OnVision t c) := by
  refine oneSession_started h ?_ (fun c => onVision_of (by rw [hsame.host]) hsame.vision_id)
    (fun _ => id)
  rw [hadvt]
  exact onAir_start_iff t.advt

/-- A tick of the supervisor outside the window is a start, and any other is not. -/
theorem oneSession_supervisor {t : Tag} (h : OneSession t) :
    OneSession (next t (.supervisor 0)) ↔ StartsAlone t (.supervisor 0) := by
  have hsame := superviseTime_same t 0
  have hlive : ∀ c, OnVision (superviseTime t 0) c → OnVision t c := fun c hv =>
    (onVision_of (by rw [hsame.host]) hsame.vision_id).mp hv
  rcases supervisor_cases t 0 with ⟨hin, _, _, hadvt⟩ | ⟨hout, hsync, hflag, _, hadvt⟩ |
    ⟨_, hnot, _, hadvt⟩
  · refine iff_of_true (oneSession_of h ?_ hlive) ?_
    · rw [next, hadvt]
      exact onAir_of_stop
    · rintro ⟨hout, _⟩
      rw [hin] at hout
      contradiction
  · rw [next, oneSession_start h hadvt hsame]
    exact ⟨fun hc _ => hc, fun hc => hc ⟨hout, hsync, hflag⟩⟩
  · refine iff_of_true (oneSession_of h ?_ hlive) ?_
    · rw [next, hadvt]
      exact id
    · rintro ⟨hout, hsync, hflag⟩
      rw [hnot hout hsync] at hflag
      contradiction

/-- While the set is not on air with a Vision link live, this stays so just when each start
finds no Vision link live. -/
theorem oneSession_next {t : Tag} {e : Event} (hup : UpOnAir t.advt) (h : OneSession t)
    (hok : CallsSucceed e) : OneSession (next t e) ↔ StartsAlone t e := by
  induction e using set_cases t with
  | reset e io hreset =>
    have hoff := (reset_off hreset).1.2
    refine iff_of_true (fun hair => absurd (hoff.symm.trans hair) (by decide)) ?_
    intro hstarts
    cases e <;> first | exact False.elim hstarts | simp [resetBy] at hreset
  | quiet e hd _ hsame =>
    refine iff_of_true (oneSession_of h (by rw [hsame.advt]; exact id)
      fun c hv => onVision_quiet hd hv) ?_
    intro hstarts
    cases e <;> first | exact False.elim hstarts | exact absurd trivial hd
  | connected c id err infoRc =>
    exact iff_of_true (oneSession_linkUp h) (fun hstarts => hstarts.elim)
  | disconnected c io => exact oneSession_linkDown hup h hok
  | customStart rc =>
    have hrc : rc = 0 := hok
    subst hrc
    rw [oneSession_start h rfl (customStart_same t 0)]
    exact ⟨fun hc _ => hc, fun hc => hc trivial⟩
  | customStop rc =>
    have hrc : rc = 0 := hok
    subst hrc
    have hsame := customStop_same t 0
    refine iff_of_true (oneSession_of h onAir_of_stop fun c hv =>
      (onVision_of (by rw [hsame.host]) hsame.vision_id).mp hv) (fun hstarts => hstarts.elim)
  | supervisor rc =>
    have hrc : rc = 0 := hok
    subst hrc
    exact oneSession_supervisor h

/-! ## Every run -/

/-- In a run from a boot in which the controller takes each call, the set is never on air
while a Vision link is live, just when no call starts the set while one is. -/
theorem one_session_at_a_time_while_starts_find_none (t : Tag) (es : List Event)
    (h : system.Run t es) (hok : system.Steps (fun _ e => CallsSucceed e) t es) :
    system.States OneSession t es ↔ system.Steps StartsAlone t es := by
  have hstart : vision_advt.system.start t.advt := by
    obtain ⟨board, nvs, retained, io, rfl⟩ := h.1
    exact (boot_off board nvs retained io).1
  refine runs.System.states_iff_steps (I := fun t => UpOnAir t.advt)
    (A := fun _ e => CallsSucceed e) (fun _ _ hup _ ha => upOnAir_next hup ha)
    (fun _ _ hup hq ha => oneSession_next hup hq ha) (upOnAir_of_start hstart) ?_ hok
  intro hair
  exact absurd (hstart.2.symm.trans hair) (by decide)

theorem a_session_within_the_day_is_the_only_one :
    system.States OneSession eveningTag
      [.customStart 0, .connected 0 2 0 0, .disconnected 0 quietIo, minutes 1, .supervisor 0,
        minutes 480, .supervisor 0] :=
  (one_session_at_a_time_while_starts_find_none eveningTag _
    ⟨eveningTag_starts, by decide +kernel⟩ (by decide +kernel)).mpr (by decide +kernel)

/-- A Vision client stays connected over the window: the first tick after it puts the set on air,
and a second client can connect. -/
theorem the_end_of_the_window_admits_a_second_session :
    ¬ ∀ (t : Tag) (es : List Event), system.Run t es →
      system.Steps (fun _ e => CallsSucceed e) t es → system.States OneSession t es := by
  intro h
  have hstates := h eveningTag
    [.customStart 0, .connected 0 2 0 0, minutes 1, .supervisor 0, minutes 480, .supervisor 0]
    ⟨eveningTag_starts, by decide +kernel⟩ (by decide +kernel)
  have hlast := runs.System.states_last hstates
  revert hlast
  decide +kernel

end smart_track.one_session
