-- What puts the Vision set on air and takes it off, along a run of the tag: links,
-- the calls of `main.c`, the supervisor and restarts. Every other event leaves the set
-- alone.
import SmartTrack.TagSystem

open bytes smart_track.zephyr smart_track.production smart_track.storage smart_track.tag
  smart_track.custom_services
open smart_track.vision_advt (Advt bleAdvCustomStart bleAdvCustomStop getVisionId)
open smart_track.time_manager (TimeManager appTimeIsWithinEnergySavingWindow
  timeSupervisorWorkHandler applyEnergySavingWindow saveLiveTime RetainedTimeBlock
  appTimeActivitiesInit appTimeManagerBootRecover)

namespace smart_track.air_time

/-! ## The events that leave the set alone -/

/-- The set and all that decides on its next start are the same in both; the interval only
changes with its mark. -/
structure SameSet (t u : Tag) : Prop where
  advt : u.advt = t.advt
  Advtflag : u.time.Advtflag = t.time.Advtflag
  active_local_id : u.svc.active_local_id = t.svc.active_local_id
  interval : u.svc.bool_AdvtIntervalUpdated = true ∨
    u.svc.bool_AdvtIntervalUpdated = t.svc.bool_AdvtIntervalUpdated ∧
      u.storage.gst_ConfigData.mu16_AdvertismentInterval =
        t.storage.gst_ConfigData.mu16_AdvertismentInterval

theorem SameSet.refl (t : Tag) : SameSet t t := ⟨rfl, rfl, rfl, Or.inr ⟨rfl, rfl⟩⟩

theorem SameSet.trans {t u v : Tag} (h : SameSet t u) (k : SameSet u v) : SameSet t v := by
  refine ⟨k.advt.trans h.advt, k.Advtflag.trans h.Advtflag,
    k.active_local_id.trans h.active_local_id, ?_⟩
  rcases k.interval with hup | ⟨hmark, hms⟩
  · exact Or.inl hup
  · rw [hmark, hms]
    exact h.interval

theorem SameButDoze.set {t u : Tag} (h : SameButDoze t u) : SameSet t u := by
  obtain ⟨refs, doze, rfl⟩ := h
  exact ⟨rfl, rfl, rfl, Or.inr ⟨rfl, rfl⟩⟩

/-- The boot that an event ends in. -/
def resetBy (t : Tag) : Event → Option BootIo
  | .wake io => if t.doze = some .rebooting then some io else none
  | .toolMsg data len _ bootIo => if ResetsTag data len then some bootIo else none
  | _ => none

/-- The events that start and stop the set, or see a link come or go. -/
def Drives : Event → Prop
  | .connected .. => True
  | .disconnected .. => True
  | .customStart _ => True
  | .customStop _ => True
  | .supervisor _ => True
  | _ => False

theorem resetBy_next {t : Tag} {e : Event} {io : BootIo} (h : resetBy t e = some io) :
    next t e = sysReboot t io := by
  cases e with
  | wake bootIo =>
    simp only [resetBy, Option.ite_none_right_eq_some, Option.some.injEq] at h
    obtain ⟨hdoze, rfl⟩ := h
    simp [next, wake, hdoze]
  | toolMsg data len toolIo bootIo =>
    simp only [resetBy, Option.ite_none_right_eq_some, Option.some.injEq] at h
    obtain ⟨hreset, rfl⟩ := h
    exact toolMsg_reset t toolIo bootIo hreset
  | _ => simp [resetBy] at h

/-! ## The handlers -/

theorem command_set (t : Tag) (f : Frame) : SameSet t (command t f).1 := by
  unfold command loginCommand grantAuthorization
  split_ifs
  · exact ⟨rfl, rfl, rfl, Or.inr ⟨rfl, rfl⟩⟩
  · exact ⟨rfl, rfl, rfl, Or.inr ⟨rfl, rfl⟩⟩
  · exact .refl t
  · unfold authorisedCommand
    simp only
    split
    all_goals try split
    all_goals first
      | exact ⟨rfl, rfl, rfl, Or.inl rfl⟩
      | exact ⟨rfl, rfl, rfl, Or.inr ⟨rfl, rfl⟩⟩

theorem send_set (t : Tag) (c : Conn) (data : List UInt8) (io : NotifyIo) :
    SameSet t (bleCustomServiceSendNotification t c data io).1 := by
  unfold bleCustomServiceSendNotification
  simp only
  split_ifs <;> exact ⟨rfl, rfl, rfl, Or.inr ⟨rfl, rfl⟩⟩

theorem endOfRun_set (t : Tag) (reply : Reply) (configRc dynamicRc : Int) :
    SameSet t (endOfRun (flushDynamic (flushConfig t configRc) dynamicRc) reply) := by
  unfold endOfRun flushDynamic flushConfig
  split_ifs <;> exact ⟨rfl, rfl, rfl, Or.inr ⟨rfl, rfl⟩⟩

theorem handleFrame_set (t : Tag) (c : Conn) (f : Frame) (io : ParseIo) :
    SameSet t (handleFrame t c f io).1 := by
  have hunref : ∀ u : Tag, SameSet u (btConnUnref u c) :=
    fun u => ⟨rfl, rfl, rfl, Or.inr ⟨rfl, rfl⟩⟩
  refine (command_set t f).trans ((send_set (command t f).1 c
    (command t f).2.local_reply_buf io.notify).trans ((hunref _).trans ?_))
  exact endOfRun_set _ (command t f).2 io.configRc io.dynamicRc

theorem parse_set (t : Tag) (io : ParseIo) : SameSet t (bleParseAndReplyWorkHandler t io).1 := by
  cases hex : executes t with
  | none =>
    rw [parse_idle t io hex]
    exact ⟨rfl, rfl, rfl, Or.inr ⟨rfl, rfl⟩⟩
  | some c =>
    rw [parse_busy t c io hex]
    have htake : SameSet t (btConnRef (takeFrame t) c) :=
      ⟨rfl, rfl, rfl, Or.inr ⟨rfl, rfl⟩⟩
    exact htake.trans (handleFrame_set _ c (takenFrame t) io)

theorem toolCommand_set (t : Tag) (data : UartBuf) : SameSet t (toolCommand t data).1 := by
  unfold toolCommand
  simp only
  split
  all_goals try split
  all_goals exact ⟨rfl, rfl, rfl, Or.inr ⟨rfl, rfl⟩⟩

theorem flushTool_set (t : Tag) (io : ToolIo) : SameSet t (flushTool t io) := by
  unfold flushTool
  simp only
  split_ifs <;> exact ⟨rfl, rfl, rfl, Or.inr ⟨rfl, rfl⟩⟩

theorem toolMsg_set (t : Tag) {data : UartBuf} {len : Nat} (io : ToolIo) (bootIo : BootIo)
    (h : ¬ ResetsTag data len) : SameSet t (processProductionMsg t data len io bootIo).1 := by
  by_cases hvalid : 2 ≤ len ∧ checksumValid data len = true
  · have hstays : ¬ (toolCommand (keptAwake t) data).2.2 = true := fun hr =>
      h ⟨hvalid.1, hvalid.2, (toolCommand_frame (keptAwake t) data).2.mp hr⟩
    rw [toolMsg_valid t data len io bootIo hvalid.1 hvalid.2, if_neg hstays]
    have hawake : SameSet t (keptAwake t) := ⟨rfl, rfl, rfl, Or.inr ⟨rfl, rfl⟩⟩
    exact (hawake.trans (toolCommand_set _ data)).trans (flushTool_set _ io)
  · rcases toolMsg_ignored t data len io bootIo hvalid with heq | heq
    · rw [heq]
      exact .refl t
    · rw [heq]
      exact flushTool_set t io

/-- An event that neither drives the set nor ends in a boot leaves the set alone. -/
theorem quiet_set (t : Tag) (e : Event) (hdrives : ¬ Drives e) (hreset : resetBy t e = none) :
    SameSet t (next t e) := by
  cases e with
  | connected c id err infoRc => exact absurd trivial hdrives
  | disconnected c io => exact absurd trivial hdrives
  | customStart rc => exact absurd trivial hdrives
  | customStop rc => exact absurd trivial hdrives
  | supervisor rc => exact absurd trivial hdrives
  | write c buf offset =>
    rw [next]
    unfold writeIncomingChar
    split <;> exact ⟨rfl, rfl, rfl, Or.inr ⟨rfl, rfl⟩⟩
  | read c len offset => exact .refl t
  | cccdChanged c value => exact ⟨rfl, rfl, rfl, Or.inr ⟨rfl, rfl⟩⟩
  | parseAndReply io => exact parse_set t io
  | authorisationTimeout =>
    have hsame : SameSet t { t with svc := { t.svc with authorisation_timout_work := none } } :=
      ⟨rfl, rfl, rfl, Or.inr ⟨rfl, rfl⟩⟩
    exact hsame.trans (SameButDoze.set (initiateDisconnect_keeps .done _))
  | connectionTimeout =>
    have hsame : SameSet t { t with svc := { t.svc with connection_timout_work := none } } :=
      ⟨rfl, rfl, rfl, Or.inr ⟨rfl, rfl⟩⟩
    exact hsame.trans (SameButDoze.set (initiateDisconnect_keeps .done _))
  | initiateDisconnect => exact SameButDoze.set (initiateDisconnect_keeps .done t)
  | wake io =>
    refine SameButDoze.set (wake_stays t io ?_)
    intro hdoze
    simp [resetBy, hdoze] at hreset
  | toolMsg data len io bootIo =>
    refine toolMsg_set t io bootIo ?_
    intro h
    simp [resetBy, h] at hreset
  | elapse ticks => exact ⟨rfl, rfl, rfl, Or.inr ⟨rfl, rfl⟩⟩

/-- The ways in which an event meets the set. -/
theorem set_cases (t : Tag) {motive : Event → Prop}
    (reset : ∀ e io, resetBy t e = some io → motive e)
    (quiet : ∀ e, ¬ Drives e → resetBy t e = none → SameSet t (next t e) → motive e)
    (connected : ∀ c id err infoRc, motive (.connected c id err infoRc))
    (disconnected : ∀ c io, motive (.disconnected c io))
    (customStart : ∀ rc, motive (.customStart rc))
    (customStop : ∀ rc, motive (.customStop rc))
    (supervisor : ∀ rc, motive (.supervisor rc)) (e : Event) : motive e := by
  cases hreset : resetBy t e with
  | some io => exact reset e io hreset
  | none =>
    by_cases hd : Drives e
    · cases e with
      | connected c id err infoRc => exact connected c id err infoRc
      | disconnected c io => exact disconnected c io
      | customStart rc => exact customStart rc
      | customStop rc => exact customStop rc
      | supervisor rc => exact supervisor rc
      | _ => exact False.elim hd
    · exact quiet e hd hreset (quiet_set t e hd hreset)

/-! ## The calls that an event makes -/

/-- What `app_time_is_within_energy_saving_window` tells the supervisor. -/
def insideWindow (t : Tag) : Bool :=
  appTimeIsWithinEnergySavingWindow t.board.CONFIG_SYS_CLOCK_TICKS_PER_SEC t.time t.uptime
    t.storage.gst_ConfigData

def supervisorCalls (t : Tag) (advRc : Int) : List vision_advt.Event :=
  if insideWindow t then
    if t.time.Advtflag then [] else [.stop advRc]
  else if t.time.bool_IsTimeSynchronized = true ∧ t.time.Advtflag = true then [.start advRc]
  else []

/-- The end of a Vision session. -/
def sessionEndCalls (t : Tag) (io : DisconnectIo) : List vision_advt.Event :=
  let interval := t.storage.gst_ConfigData.mu16_AdvertismentInterval.toNat
  if t.svc.bool_AdvtIntervalUpdated then
    [.updateInterval interval (interval + 10) io.interval, .start io.startRc]
  else
    [.start io.startRc]

/-- What the set sees of an event of the tag. -/
def calls (t : Tag) : Event → List vision_advt.Event
  | .connected _ id err _ => [.connected id err]
  | .disconnected _ io => if RunsVisionBranch t then sessionEndCalls t io else []
  | .customStart rc => [.start rc]
  | .customStop rc => [.stop rc]
  | .supervisor rc => supervisorCalls t rc
  | _ => []

theorem outside_of_unsynchronized {t : Tag} (h : t.time.bool_IsTimeSynchronized = false) :
    insideWindow t = false := by
  simp [insideWindow, appTimeIsWithinEnergySavingWindow, h]

/-- The callbacks of the service touch neither the set nor its interval, the end of a Vision
session apart. -/
structure SameInterval (t u : Tag) : Prop where
  advt : u.advt = t.advt
  time : u.time = t.time
  storage : u.storage = t.storage
  mark : u.svc.bool_AdvtIntervalUpdated = t.svc.bool_AdvtIntervalUpdated

theorem connected_interval (t : Tag) (c : Conn) (id err : Nat) (infoRc : Int) :
    SameInterval t (custom_services.connected t c id err infoRc) := by
  unfold custom_services.connected
  simp only
  split_ifs <;> exact ⟨rfl, rfl, rfl, rfl⟩

theorem connected_active (t : Tag) (c : Conn) (id err : Nat) (infoRc : Int) :
    (custom_services.connected t c id err infoRc).svc.active_local_id = t.svc.active_local_id ∨
      err = 0 ∧ (custom_services.connected t c id err infoRc).svc.active_local_id = id := by
  unfold custom_services.connected
  simp only
  split_ifs with herr hinfo hvision
  · exact Or.inl rfl
  · exact Or.inr ⟨not_not.mp herr, rfl⟩
  · exact Or.inr ⟨not_not.mp herr, rfl⟩
  · exact Or.inl rfl

theorem releaseConn_interval (t : Tag) (c : Conn) : SameInterval t (releaseConn t c) := by
  unfold releaseConn
  split <;> exact ⟨rfl, rfl, rfl, rfl⟩

theorem linkUp_advt (t : Tag) (c : Conn) (id err : Nat) (infoRc : Int) :
    (linkUp t c id err infoRc).advt = vision_advt.next t.advt (.connected id err) :=
  (connected_interval _ c id err infoRc).advt

/-- The identity of the last connection is that of a link that comes up. -/
theorem linkUp_active (t : Tag) (c : Conn) (id err : Nat) (infoRc : Int) :
    (linkUp t c id err infoRc).svc.active_local_id = t.svc.active_local_id ∨
      err = 0 ∧ (linkUp t c id err infoRc).svc.active_local_id = id :=
  connected_active _ c id err infoRc

theorem linkUp_frame (t : Tag) (c : Conn) (id err : Nat) (infoRc : Int) :
    (linkUp t c id err infoRc).time = t.time ∧ (linkUp t c id err infoRc).storage = t.storage ∧
      (linkUp t c id err infoRc).svc.bool_AdvtIntervalUpdated =
        t.svc.bool_AdvtIntervalUpdated := by
  exact ⟨(connected_interval _ c id err infoRc).time,
    (connected_interval _ c id err infoRc).storage, (connected_interval _ c id err infoRc).mark⟩

theorem visionBranch_advt (t : Tag) (io : DisconnectIo) :
    (visionBranch t io).advt = vision_advt.system.run t.advt (sessionEndCalls t io) := by
  unfold visionBranch sessionEndCalls
  simp only
  split <;> rfl

theorem linkDown_other (t : Tag) (c : Conn) (io : DisconnectIo) (h : ¬ RunsVisionBranch t) :
    SameInterval t (linkDown t c io) := by
  have hdown : linkDown t c io = releaseConn
      { t with host := { t.host with link := Function.update t.host.link c none } } c := if_neg h
  have hr := releaseConn_interval
    { t with host := { t.host with link := Function.update t.host.link c none } } c
  rw [hdown]
  exact ⟨hr.advt, hr.time, hr.storage, hr.mark⟩

theorem linkDown_active {t : Tag} (c : Conn) (io : DisconnectIo) (h : ¬ RunsVisionBranch t) :
    (linkDown t c io).svc.active_local_id = t.svc.active_local_id := by
  have hdown : linkDown t c io = releaseConn
      { t with host := { t.host with link := Function.update t.host.link c none } } c := if_neg h
  rw [hdown]
  unfold releaseConn
  split <;> rfl

theorem linkDown_vision (t : Tag) (c : Conn) (io : DisconnectIo) (h : RunsVisionBranch t) :
    (linkDown t c io).advt = vision_advt.system.run t.advt (sessionEndCalls t io) ∧
      (linkDown t c io).time = t.time ∧ (linkDown t c io).storage = t.storage ∧
      (linkDown t c io).svc.bool_AdvtIntervalUpdated = false := by
  have hdown : linkDown t c io = visionBranch (releaseConn
      { t with host := { t.host with link := Function.update t.host.link c none } } c) io :=
    if_pos h
  have hr := releaseConn_interval
    { t with host := { t.host with link := Function.update t.host.link c none } } c
  rw [hdown]
  refine ⟨?_, hr.time, hr.storage, rfl⟩
  rw [visionBranch_advt]
  unfold sessionEndCalls
  rw [hr.advt, hr.storage, hr.mark]

theorem applyWindow_calls (hz : Nat) (time : TimeManager) (now : Nat) (config : ConfigData)
    (a : Advt) (advRc : Int) :
    let inside := appTimeIsWithinEnergySavingWindow hz time now config
    (applyEnergySavingWindow hz time now config a advRc).2 = vision_advt.system.run a
        (if inside then if time.Advtflag then [] else [.stop advRc]
          else if time.Advtflag then [.start advRc] else []) ∧
      (applyEnergySavingWindow hz time now config a advRc).1.Advtflag = inside := by
  unfold applyEnergySavingWindow
  simp only
  split
  · rename_i hin
    cases hflag : time.Advtflag <;> simp [hin, vision_advt.system, vision_advt.next]
    exact hflag
  · rename_i hin
    simp only [Bool.not_eq_true] at hin
    cases hflag : time.Advtflag <;> simp [hin, vision_advt.system, vision_advt.next]
    exact hflag

/-- The flag of the supervisor says whether its last tick was inside the window. -/
theorem superviseTime_advt (t : Tag) (advRc : Int) :
    (superviseTime t advRc).advt = vision_advt.system.run t.advt (supervisorCalls t advRc) ∧
      (superviseTime t advRc).time.Advtflag =
        (if t.time.bool_IsTimeSynchronized then insideWindow t else t.time.Advtflag) := by
  cases hsync : t.time.bool_IsTimeSynchronized with
  | false =>
    simp [superviseTime, timeSupervisorWorkHandler, supervisorCalls, hsync,
      outside_of_unsynchronized hsync]
  | true =>
    let saved := saveLiveTime t.board.CONFIG_SYS_CLOCK_TICKS_PER_SEC
      { t.time with
        time_supervisor_work := kWorkSchedule none (K_SECONDS 60) } t.uptime
    have hrun : superviseTime t advRc =
        { superviseTime t advRc with
          time := (applyEnergySavingWindow t.board.CONFIG_SYS_CLOCK_TICKS_PER_SEC saved t.uptime
            t.storage.gst_ConfigData t.advt advRc).1
          advt := (applyEnergySavingWindow t.board.CONFIG_SYS_CLOCK_TICKS_PER_SEC saved t.uptime
            t.storage.gst_ConfigData t.advt advRc).2 } := by
      simp [superviseTime, timeSupervisorWorkHandler, hsync, saved]
    have hinside : appTimeIsWithinEnergySavingWindow t.board.CONFIG_SYS_CLOCK_TICKS_PER_SEC saved
        t.uptime t.storage.gst_ConfigData = insideWindow t := rfl
    have hflag : saved.Advtflag = t.time.Advtflag := rfl
    obtain ⟨hadvt, hnow⟩ := applyWindow_calls t.board.CONFIG_SYS_CLOCK_TICKS_PER_SEC saved
      t.uptime t.storage.gst_ConfigData t.advt advRc
    simp only [hinside, hflag] at hadvt hnow
    rw [hrun]
    simp only [supervisorCalls, hsync, true_and, if_true]
    exact ⟨hadvt, hnow⟩

/-- What a tick does, by the window and the flag. -/
theorem supervisor_cases (t : Tag) (rc : Int) :
    let u := superviseTime t rc
    insideWindow t = true ∧ t.time.Advtflag = false ∧ u.time.Advtflag = true ∧
        u.advt = (bleAdvCustomStop t.advt rc).1 ∨
      insideWindow t = false ∧ t.time.bool_IsTimeSynchronized = true ∧ t.time.Advtflag = true ∧
        u.time.Advtflag = false ∧ u.advt = (bleAdvCustomStart t.advt rc).1 ∨
      (insideWindow t = true → t.time.Advtflag = true) ∧
        (insideWindow t = false → t.time.bool_IsTimeSynchronized = true →
          t.time.Advtflag = false) ∧
        u.time.Advtflag = t.time.Advtflag ∧ u.advt = t.advt := by
  obtain ⟨hadvt, hflag⟩ := superviseTime_advt t rc
  cases hsync : t.time.bool_IsTimeSynchronized with
  | false =>
    have hout := outside_of_unsynchronized hsync
    simp [hadvt, hflag, supervisorCalls, hsync, hout]
  | true =>
    cases hin : insideWindow t <;> cases hup : t.time.Advtflag <;>
      simp [hadvt, hflag, supervisorCalls, hsync, hin, hup, vision_advt.system, vision_advt.next]

/-- A tag that does not restart makes the calls of its event. -/
theorem next_advt {t : Tag} {e : Event} (h : resetBy t e = none) :
    (next t e).advt = vision_advt.system.run t.advt (calls t e) := by
  induction e using set_cases t with
  | reset e io hreset => simp [hreset] at h
  | quiet e hd _ hsame =>
    rw [hsame.advt]
    cases e <;> first | rfl | exact absurd trivial hd
  | connected c id err infoRc => exact linkUp_advt t c id err infoRc
  | disconnected c io =>
    simp only [calls]
    split
    · rename_i hv
      exact (linkDown_vision t c io hv).1
    · rename_i hv
      exact (linkDown_other t c io hv).advt
  | customStart rc => rfl
  | customStop rc => rfl
  | supervisor rc => exact (superviseTime_advt t rc).1

/-- And so it keeps the identity of its set. -/
theorem next_Vision_id {t : Tag} {e : Event} (h : resetBy t e = none) :
    getVisionId (next t e).advt = getVisionId t.advt := by
  rw [next_advt h]
  exact (vision_advt.run_onlySet t.advt _).vision_id

/-! ## The boot -/

/-- A boot leaves the set off air, and the flag of the supervisor down. -/
theorem boot_off (board : Board) (nvs : Nvs) (retained : RetainedTimeBlock) (io : BootIo) :
    let t := boot board nvs retained io
    vision_advt.system.start t.advt ∧ t.time.Advtflag = false := by
  unfold boot appTimeActivitiesInit appTimeManagerBootRecover
  simp only
  split
  · exact ⟨⟨rfl, rfl⟩, rfl⟩
  · split
    · exact ⟨vision_advt.init_starts _ _, rfl⟩
    · refine ⟨vision_advt.init_starts _ _, ?_⟩
      split <;> rfl

theorem reset_off {t : Tag} {e : Event} {io : BootIo} (h : resetBy t e = some io) :
    vision_advt.system.start (next t e).advt ∧ (next t e).time.Advtflag = false := by
  rw [resetBy_next h]
  exact boot_off _ _ _ _

end smart_track.air_time
