-- The runs of the tag: its events, which of them its environment can bring
-- about in a state, and what each does.
import SmartTrack.ProductionMsg
import SmartTrack.Runs

open bytes smart_track.zephyr smart_track.production smart_track.storage smart_track.vision_advt
  smart_track.time_manager smart_track.tag smart_track.custom_services

namespace smart_track.tag

/-- The events of the tag. `customStart` is the call with which `main.c` follows a provisioning.
`customStop` is a call of `ble_adv_custom_stop` by another file; none of the tag makes one. -/
inductive Event
  | connected (c : Conn) (id : Fin CONFIG_BT_ID_MAX) (err : Nat) (infoRc : Int)
  | disconnected (c : Conn) (io : DisconnectIo)
  | write (c : Conn) (buf : List UInt8) (offset : Nat)
  | read (c : Conn) (len offset : Nat)
  | cccdChanged (c : Conn) (value : Nat)
  | parseAndReply (io : ParseIo)
  | authorisationTimeout
  | connectionTimeout
  | initiateDisconnect
  | wake (io : BootIo)
  | toolMsg (data : UartBuf) (len : Nat) (io : ToolIo) (bootIo : BootIo)
  | customStart (startRc : Int)
  | customStop (stopRc : Int)
  | supervisor (advRc : Int)
  | elapse (ticks : Nat)

/-- A link comes up. Every file that registered a callback sees it. -/
def linkUp (t : Tag) (c : Conn) (id err : Nat) (infoRc : Int) : Tag :=
  let advt := if onVisionSet t.advt id err then linkAccepted t.advt else t.advt
  let host := if err = 0 then { t.host with link := Function.update t.host.link c (some id) }
    else t.host
  custom_services.connected { t with advt := vision_advt.connected advt, host := host }
    c id err infoRc

def linkDown (t : Tag) (c : Conn) (io : DisconnectIo) : Tag :=
  custom_services.disconnected
    { t with host := { t.host with link := Function.update t.host.link c none } } c io

def superviseTime (t : Tag) (advRc : Int) : Tag :=
  let (time, dynamic, advt) :=
    timeSupervisorWorkHandler t.board.CONFIG_SYS_CLOCK_TICKS_PER_SEC t.time t.uptime
      t.storage.gst_ConfigData t.storage.gst_DynamicData t.advt advRc
  { t with
    time := time, advt := advt
    storage := { t.storage with gst_DynamicData := dynamic } }

def next (t : Tag) : Event → Tag
  | .connected c id err infoRc => linkUp t c id err infoRc
  | .disconnected c io => linkDown t c io
  | .write _ buf offset => (writeIncomingChar t buf offset).1
  | .read .. => t
  | .cccdChanged _ value => cccdChangedCb t value
  | .parseAndReply io => (bleParseAndReplyWorkHandler t io).1
  | .authorisationTimeout => authorisationTimoutWorkHandler t
  | .connectionTimeout => connectionTimoutWorkHandler t
  | .initiateDisconnect => bleCustomServiceInitiateDisconnect t .done
  | .wake io => wake t io
  | .toolMsg data len io bootIo => (processProductionMsg t data len io bootIo).1
  | .customStart startRc => { t with advt := (bleAdvCustomStart t.advt startRc).1 }
  | .customStop stopRc => { t with advt := (bleAdvCustomStop t.advt stopRc).1 }
  | .supervisor advRc => superviseTime t advRc
  | .elapse ticks => { t with uptime := t.uptime + ticks }

/-- A link only comes up on a connection object that nobody holds, only a live link makes a
request or goes down, and the handlers of the system work queue run one at a time. -/
def Allowed (t : Tag) : Event → Prop
  | .connected c _ _ _ => t.host.link c = none ∧ t.host.refs c = 0
  | .disconnected c _ => t.host.link c ≠ none
  | .write c _ _ => t.host.link c ≠ none
  | .read c _ _ => t.host.link c ≠ none
  | .cccdChanged c _ => t.host.link c ≠ none
  | .parseAndReply _ => t.doze = none ∧ t.svc.parse_and_reply_work = true
  | .authorisationTimeout => t.doze = none ∧ t.svc.authorisation_timout_work ≠ none
  | .connectionTimeout => t.doze = none ∧ t.svc.connection_timout_work ≠ none
  | .initiateDisconnect => t.doze = none
  | .wake _ => t.doze ≠ none
  | .toolMsg _ len _ _ => t.doze = none ∧ len ≤ UART_RX_BUF_SIZE
  | .customStart _ => True
  | .customStop _ => True
  | .supervisor _ => t.doze = none
  | .elapse _ => True

instance (t : Tag) (e : Event) : Decidable (Allowed t e) := by
  apply Event.casesOn (motive := fun e => Decidable (Allowed t e)) e
  all_goals
    intros
    unfold Allowed
    infer_instance

/-- The runs start at any boot. -/
def system : runs.System Tag Event where
  start t := ∃ board nvs retained io, t = boot board nvs retained io
  allowed := Allowed
  next := next

instance (t : Tag) (e : Event) : Decidable (system.allowed t e) :=
  inferInstanceAs (Decidable (Allowed t e))

/-- A boot that nothing fails in. The Vision set gets the third identity. -/
def quietBoot : BootIo :=
  { load := { productionRc := 0, configRc := 0, dynamicRc := 0 }
    adv :=
      { enableRc := 0, activeIdentities := 2, idCreateRc := ⟨2, by decide⟩, advCreateRc := 0,
        setDataRc := 0 }
    ticks := 0 }

/-- A tag on its first boot: flash is empty. -/
def factoryTag : Tag :=
  boot
    { CONFIG_SYS_CLOCK_TICKS_PER_SEC := 32768, ficr := { addr_low := 0, addr_high := 0 } }
    (fun _ => none)
    { u32_MagicMarker := 0, u32_LastSavedUtcEpoch := 0, s64_LastSavedUptimeMs := 0 }
    quietBoot

theorem factoryTag_starts : system.start factoryTag := ⟨_, _, _, _, rfl⟩

example : getVisionId factoryTag.advt = 2 := by decide

/-- A link that failed only reaches the flag of the Vision set. -/
theorem linkUp_failed (t : Tag) (c : Conn) (id : Nat) {err : Nat} (infoRc : Int) (h : err ≠ 0) :
    linkUp t c id err infoRc = { t with advt := vision_advt.connected t.advt } := by
  unfold linkUp custom_services.connected onVisionSet
  simp [h]

/-! ## What a handler leaves alone

The laws on sessions follow a few fields of the tag. Most handlers touch none of them. -/

/-- The connections and the frame that waits are the same in both. -/
structure SameLinks (t u : Tag) : Prop where
  current_conn : u.svc.current_conn = t.svc.current_conn
  active_local_id : u.svc.active_local_id = t.svc.active_local_id
  write_buffer : u.svc.write_buffer = t.svc.write_buffer
  write_len : u.svc.write_len = t.svc.write_len
  host : u.host = t.host
  doze : u.doze = t.doze
  vision_id : getVisionId u.advt = getVisionId t.advt

/-- The authorisation and the last reply are the same as well. -/
structure SameSession (t u : Tag) : Prop extends SameLinks t u where
  authorization : u.svc.bool_UserAuthorization = t.svc.bool_UserAuthorization
  notify_len : u.svc.notify_len = t.svc.notify_len

theorem SameLinks.trans {t u v : Tag} (h : SameLinks t u) (k : SameLinks u v) :
    SameLinks t v where
  current_conn := k.current_conn.trans h.current_conn
  active_local_id := k.active_local_id.trans h.active_local_id
  write_buffer := k.write_buffer.trans h.write_buffer
  write_len := k.write_len.trans h.write_len
  host := k.host.trans h.host
  doze := k.doze.trans h.doze
  vision_id := k.vision_id.trans h.vision_id

theorem SameLinks.refl (t : Tag) : SameLinks t t := ⟨rfl, rfl, rfl, rfl, rfl, rfl, rfl⟩

theorem SameSession.refl (t : Tag) : SameSession t t := ⟨.refl t, rfl, rfl⟩

theorem SameSession.trans {t u v : Tag} (h : SameSession t u) (k : SameSession u v) :
    SameSession t v :=
  ⟨h.toSameLinks.trans k.toSameLinks, k.authorization.trans h.authorization,
    k.notify_len.trans h.notify_len⟩

/-- A handler that leaves the host and the identity alone, and of the service all but the
flags for work to come. -/
theorem sameSession_of_service {t u : Tag}
    (hsvc : u.svc = { t.svc with
      bool_ConfigDataWrite := u.svc.bool_ConfigDataWrite
      bool_DynamicDataWrite := u.svc.bool_DynamicDataWrite
      bool_AdvtIntervalUpdated := u.svc.bool_AdvtIntervalUpdated })
    (hhost : u.host = t.host) (hdoze : u.doze = t.doze)
    (hid : getVisionId u.advt = getVisionId t.advt) : SameSession t u := by
  refine ⟨⟨?_, ?_, ?_, ?_, hhost, hdoze, hid⟩, ?_, ?_⟩
  all_goals rw [hsvc]

theorem flushConfig_same (t : Tag) (rc : Int) : SameSession t (flushConfig t rc) := by
  unfold flushConfig
  split
  · exact sameSession_of_service rfl rfl rfl rfl
  · exact .refl t

theorem flushDynamic_same (t : Tag) (rc : Int) : SameSession t (flushDynamic t rc) := by
  unfold flushDynamic
  split
  · exact sameSession_of_service rfl rfl rfl rfl
  · exact .refl t

/-- No command of the authorised branch touches the session. -/
theorem authorisedCommand_same (t : Tag) (f : Frame) :
    SameSession t (authorisedCommand t f).1 := by
  unfold authorisedCommand
  simp only
  split
  all_goals try split
  all_goals exact sameSession_of_service rfl rfl rfl rfl

theorem toolCommand_same (t : Tag) (data : UartBuf) : SameSession t (toolCommand t data).1 := by
  unfold toolCommand
  simp only
  split
  all_goals try split
  all_goals exact sameSession_of_service rfl rfl rfl rfl

theorem flushTool_same (t : Tag) (io : ToolIo) : SameSession t (flushTool t io) := by
  unfold flushTool
  simp only
  split_ifs <;> exact sameSession_of_service rfl rfl rfl rfl

theorem superviseTime_same (t : Tag) (rc : Int) : SameSession t (superviseTime t rc) := by
  have hid : getVisionId (superviseTime t rc).advt = getVisionId t.advt := by
    unfold superviseTime timeSupervisorWorkHandler applyEnergySavingWindow
    simp only
    split_ifs <;> first | rfl | exact stop_Vision_id _ _ | exact start_Vision_id _ _
  exact sameSession_of_service rfl rfl rfl hid

theorem customStart_same (t : Tag) (rc : Int) : SameSession t (next t (.customStart rc)) :=
  sameSession_of_service rfl rfl rfl (start_Vision_id _ _)

theorem customStop_same (t : Tag) (rc : Int) : SameSession t (next t (.customStop rc)) :=
  sameSession_of_service rfl rfl rfl (stop_Vision_id _ _)

/-- A production command leaves the session alone, or resets the tag. -/
theorem toolMsg_same (t : Tag) (data : UartBuf) (len : Nat) (io : ToolIo) (bootIo : BootIo) :
    SameSession t (processProductionMsg t data len io bootIo).1 ∨
      ∃ u, SameSession t u ∧
        (processProductionMsg t data len io bootIo).1 = sysReboot u bootIo := by
  unfold processProductionMsg
  by_cases hlen : len < 2
  · rw [if_pos hlen]
    exact Or.inl (.refl t)
  rw [if_neg hlen]
  by_cases hsum : checksumValid data len = true
  · rw [if_pos hsum]
    simp only
    have halive : SameSession t
        { t with tool :=
            { t.tool with
              uart_lifetime_timeout_work := kWorkReschedule t.tool.uart_lifetime_timeout_work
                (K_MINUTES UART_DISABLE_TIMEOUT_MIN) } } :=
      sameSession_of_service rfl rfl rfl rfl
    have hstart := halive.trans (toolCommand_same _ data)
    split
    · exact Or.inr ⟨_, hstart, rfl⟩
    · exact Or.inl (hstart.trans (flushTool_same _ io))
  · rw [if_neg hsum]
    exact Or.inl (flushTool_same t io)

/-- A write touches the frame that waits, and nothing else of the session. -/
theorem write_same (t : Tag) (buf : List UInt8) (offset : Nat) :
    let u := (writeIncomingChar t buf offset).1
    u.svc.current_conn = t.svc.current_conn ∧ u.svc.active_local_id = t.svc.active_local_id ∧
      u.svc.bool_UserAuthorization = t.svc.bool_UserAuthorization ∧
      u.svc.notify_len = t.svc.notify_len ∧ u.host = t.host ∧ u.doze = t.doze ∧
      u.advt = t.advt := by
  unfold writeIncomingChar
  split <;> exact ⟨rfl, rfl, rfl, rfl, rfl, rfl, rfl⟩

/-! ## One run of the command handler -/

/-- The connection whose frame the handler would execute now. -/
def executes (t : Tag) : Option Conn := if t.svc.write_len = 0 then none else t.svc.current_conn

theorem executes_some {t : Tag} {c : Conn} (h : executes t = some c) :
    t.svc.current_conn = some c ∧ t.svc.write_len ≠ 0 := by
  unfold executes at h
  split at h
  · cases h
  · rename_i hlen
    exact ⟨h, hlen⟩

/-- The frame that waits is a login with the right password. -/
def isLogin (t : Tag) : Bool :=
  decide (takenFrame t 0 = PROVIDE_PASSWORD) && passwordMatches t (takenFrame t)

theorem loginCommand_links (t : Tag) (f : Frame) : SameLinks t (loginCommand t f).1 := by
  unfold loginCommand
  split_ifs <;> exact ⟨rfl, rfl, rfl, rfl, rfl, rfl, rfl⟩

theorem loginCommand_authorization (t : Tag) (f : Frame) :
    (loginCommand t f).1.svc.bool_UserAuthorization =
      (t.svc.bool_UserAuthorization ||
        (decide (f 0 = PROVIDE_PASSWORD) && passwordMatches t f)) := by
  unfold loginCommand
  split_ifs with hid hpass
  · simp [hid]
  · simp only [not_not] at hid
    simp [hid, hpass, grantAuthorization]
  · simp [hpass]

theorem command_links (t : Tag) (f : Frame) : SameLinks t (command t f).1 := by
  unfold command
  split
  · exact loginCommand_links t f
  · refine SameLinks.trans ?_ (authorisedCommand_same _ f).toSameLinks
    exact ⟨rfl, rfl, rfl, rfl, rfl, rfl, rfl⟩

/-- Only a login changes the authorisation, and it only grants it. -/
theorem command_authorization (t : Tag) (f : Frame) :
    (command t f).1.svc.bool_UserAuthorization =
      (t.svc.bool_UserAuthorization ||
        (decide (f 0 = PROVIDE_PASSWORD) && passwordMatches t f)) := by
  unfold command
  split
  · exact loginCommand_authorization t f
  · rename_i hauth
    simp only [Bool.not_eq_false] at hauth
    rw [(authorisedCommand_same _ f).authorization]
    simp [hauth]

theorem send_links (t : Tag) (c : Conn) (data : List UInt8) (io : NotifyIo) :
    SameLinks t (bleCustomServiceSendNotification t c data io).1 ∧
      (bleCustomServiceSendNotification t c data io).1.svc.bool_UserAuthorization =
        t.svc.bool_UserAuthorization := by
  unfold bleCustomServiceSendNotification
  simp only
  split_ifs <;> exact ⟨⟨rfl, rfl, rfl, rfl, rfl, rfl, rfl⟩, rfl⟩

/-- Bytes only go out to the connection that was given. -/
theorem send_delivery (t : Tag) (c : Conn) (data : List UInt8) (io : NotifyIo) :
    (bleCustomServiceSendNotification t c data io).2.2 = none ∨
      (bleCustomServiceSendNotification t c data io).2.2 = some (c, data) := by
  unfold bleCustomServiceSendNotification
  simp only
  split_ifs <;> simp

/-- What a run of the handler leaves of the session. -/
structure AfterRun (t u : Tag) : Prop where
  current_conn : u.svc.current_conn = t.svc.current_conn
  active_local_id : u.svc.active_local_id = t.svc.active_local_id
  write_buffer : u.svc.write_buffer = t.svc.write_buffer
  write_len : u.svc.write_len = 0
  host : u.host = t.host
  doze : u.doze = t.doze ∨ ∃ d r, u.doze = some (.reply d r)
  vision_id : getVisionId u.advt = getVisionId t.advt

theorem unref_links {t u : Tag} {c : Conn} (h : SameLinks (btConnRef t c) u) :
    SameLinks t (btConnUnref u c) := by
  have hhost : (btConnUnref u c).host = t.host := by
    have heq : (btConnUnref u c).host = (btConnUnref (btConnRef t c) c).host := by
      simp only [btConnUnref, h.host]
    rw [heq, btConnUnref_btConnRef]
  exact ⟨h.current_conn, h.active_local_id, h.write_buffer, h.write_len, hhost, h.doze,
    h.vision_id⟩

section run

variable (t : Tag) (c : Conn) (f : Frame) (io : ParseIo)

/-- Between the reference on the connection and its release the links stay as they are. -/
theorem handleFrame_spec :
    ∃ u reply, (handleFrame (btConnRef t c) c f io).1 = endOfRun u reply ∧ SameLinks t u ∧
      u.svc.bool_UserAuthorization = (t.svc.bool_UserAuthorization ||
        (decide (f 0 = PROVIDE_PASSWORD) && passwordMatches t f)) := by
  have hcmd := command_links (btConnRef t c) f
  have hauth := command_authorization (btConnRef t c) f
  obtain ⟨hsend, hsendAuth⟩ := send_links (command (btConnRef t c) f).1 c
    (command (btConnRef t c) f).2.local_reply_buf io.notify
  have hunref := unref_links (hcmd.trans hsend)
  have hrun : (handleFrame (btConnRef t c) c f io).1 =
      endOfRun (flushDynamic (flushConfig (btConnUnref (bleCustomServiceSendNotification
        (command (btConnRef t c) f).1 c (command (btConnRef t c) f).2.local_reply_buf
        io.notify).1 c) io.configRc) io.dynamicRc) (command (btConnRef t c) f).2 := rfl
  generalize (bleCustomServiceSendNotification (command (btConnRef t c) f).1 c
    (command (btConnRef t c) f).2.local_reply_buf io.notify).1 = sent at *
  have hconfig := flushConfig_same (btConnUnref sent c) io.configRc
  have hflush := hconfig.trans (flushDynamic_same _ io.dynamicRc)
  refine ⟨flushDynamic (flushConfig (btConnUnref sent c) io.configRc) io.dynamicRc,
    (command (btConnRef t c) f).2, hrun, hunref.trans hflush.toSameLinks, ?_⟩
  rw [hflush.authorization]
  exact hsendAuth.trans hauth

theorem handleFrame_delivery :
    (handleFrame t c f io).2 = none ∨ ∃ data, (handleFrame t c f io).2 = some (c, data) := by
  rcases send_delivery (command t f).1 c (command t f).2.local_reply_buf io.notify with h | h
  · exact Or.inl h
  · exact Or.inr ⟨_, h⟩

theorem parse_idle (h : executes t = none) :
    bleParseAndReplyWorkHandler t io = (takeFrame t, none) := by
  unfold executes at h
  unfold bleParseAndReplyWorkHandler
  cases hc : t.svc.current_conn with
  | none => simp [takeFrame, hc]
  | some c =>
    have hlen : t.svc.write_len = 0 := by
      by_contra hlen
      simp [hlen, hc] at h
    simp [takeFrame, hc, hlen]

theorem parse_busy (h : executes t = some c) :
    bleParseAndReplyWorkHandler t io =
      handleFrame (btConnRef (takeFrame t) c) c (takenFrame t) io := by
  unfold executes at h
  unfold bleParseAndReplyWorkHandler
  by_cases hlen : t.svc.write_len = 0
  · simp [hlen] at h
  · rw [if_neg hlen] at h
    simp [takeFrame, h, hlen]

theorem parse_afterRun : AfterRun t (bleParseAndReplyWorkHandler t io).1 := by
  cases hex : executes t with
  | none =>
    rw [parse_idle t io hex]
    exact ⟨rfl, rfl, rfl, rfl, rfl, Or.inl rfl, rfl⟩
  | some c =>
    rw [parse_busy t c io hex]
    obtain ⟨u, reply, heq, hu, _⟩ := handleFrame_spec (takeFrame t) c (takenFrame t) io
    rw [heq]
    unfold endOfRun
    split
    · exact ⟨hu.current_conn, hu.active_local_id, hu.write_buffer, hu.write_len, hu.host,
        Or.inr ⟨_, _, rfl⟩, hu.vision_id⟩
    · exact ⟨hu.current_conn, hu.active_local_id, hu.write_buffer, hu.write_len, hu.host,
        Or.inl hu.doze, hu.vision_id⟩

/-- A run of the handler grants the authorisation to a right login, and changes it in no
other way. -/
theorem parse_authorization :
    (bleParseAndReplyWorkHandler t io).1.svc.bool_UserAuthorization =
      (t.svc.bool_UserAuthorization || ((executes t).isSome && isLogin t)) := by
  cases hex : executes t with
  | none =>
    rw [parse_idle t io hex]
    simp [takeFrame]
  | some c =>
    rw [parse_busy t c io hex]
    obtain ⟨u, reply, heq, _, hauth⟩ := handleFrame_spec (takeFrame t) c (takenFrame t) io
    rw [heq]
    have hend : (endOfRun u reply).svc.bool_UserAuthorization = u.svc.bool_UserAuthorization := by
      unfold endOfRun
      split <;> rfl
    rw [hend, hauth]
    rfl

theorem parse_delivery {data : List UInt8}
    (h : (bleParseAndReplyWorkHandler t io).2 = some (c, data)) : executes t = some c := by
  cases hex : executes t with
  | none =>
    rw [parse_idle t io hex] at h
    cases h
  | some d =>
    rw [parse_busy t d io hex] at h
    rcases handleFrame_delivery (btConnRef (takeFrame t) d) d (takenFrame t) io with hn | ⟨x, hx⟩
    · rw [hn] at h; cases h
    · rw [hx] at h; cases h; rfl

end run

/-! ## The boot -/

/-- A tag that has just booted has no link, no session and nothing to do. -/
structure Fresh (t : Tag) : Prop where
  svc : t.svc = {}
  host : t.host = {}
  doze : t.doze = none
  vision_id : getVisionId t.advt < CONFIG_BT_ID_MAX

theorem boot_fresh (board : Board) (nvs : Nvs) (retained : RetainedTimeBlock) (io : BootIo) :
    Fresh (boot board nvs retained io) := by
  have hnone : getVisionId ({} : Advt) < CONFIG_BT_ID_MAX := by decide
  unfold boot
  simp only
  split
  · exact ⟨rfl, rfl, rfl, hnone⟩
  · split
    · exact ⟨rfl, rfl, rfl, init_Vision_id _ _⟩
    · exact ⟨rfl, rfl, rfl, init_Vision_id _ _⟩

/-! ## The handlers that drop a link, and the events that leave the dialogue alone -/

/-- Only the references on connections differ, and what sleeps on the work queue. -/
def SameButDoze (t u : Tag) : Prop :=
  ∃ refs doze, u = { t with host := { t.host with refs := refs }, doze := doze }

theorem disconnectThen_keeps {t : Tag} {after : After} {rest : Tag → Tag}
    (h : SameButDoze t (rest t)) : SameButDoze t (disconnectThen t after rest) := by
  unfold disconnectThen
  split
  · exact h
  · exact ⟨_, _, rfl⟩

/-- The ways out of a session touch neither the links nor the state of the service. -/
theorem resume_keeps (after : After) (t : Tag) : SameButDoze t (resume after t) := by
  cases after with
  | done => exact ⟨_, _, rfl⟩
  | restart => exact disconnectThen_keeps ⟨_, _, rfl⟩
  | reboot => exact ⟨_, _, rfl⟩

theorem initiateDisconnect_keeps (after : After) (t : Tag) :
    SameButDoze t (bleCustomServiceInitiateDisconnect t after) :=
  disconnectThen_keeps (resume_keeps after t)

/-- A handler that wakes goes on with the session as it is, unless the tag is to restart. -/
theorem wake_stays (t : Tag) (io : BootIo) (h : t.doze ≠ some .rebooting) :
    SameButDoze t (wake t io) := by
  unfold wake
  split
  · exact ⟨_, _, rfl⟩
  · split
    · exact initiateDisconnect_keeps _ t
    · split
      · exact disconnectThen_keeps ⟨_, _, rfl⟩
      · exact ⟨_, _, rfl⟩
  · rename_i c after _
    obtain ⟨refs, doze, hresume⟩ := resume_keeps after (btConnUnref t c)
    exact ⟨refs, doze, hresume⟩
  · rename_i hdoze
    exact absurd hdoze h

theorem wake_resets (t : Tag) (io : BootIo) (h : t.doze = some .rebooting) :
    wake t io = sysReboot t io := by
  simp [wake, h]

theorem wake_keeps (t : Tag) (io : BootIo) :
    SameButDoze t (wake t io) ∨ wake t io = sysReboot t io := by
  by_cases h : t.doze = some .rebooting
  · exact Or.inr (wake_resets t io h)
  · exact Or.inl (wake_stays t io h)

theorem sysReboot_fresh (t : Tag) (io : BootIo) : Fresh (sysReboot t io) :=
  boot_fresh _ _ _ _

/-- What a client sees of the service is the same in both. -/
structure SameDialogue (t u : Tag) : Prop where
  current_conn : u.svc.current_conn = t.svc.current_conn
  active_local_id : u.svc.active_local_id = t.svc.active_local_id
  write_len : u.svc.write_len = t.svc.write_len
  authorization : u.svc.bool_UserAuthorization = t.svc.bool_UserAuthorization
  notify_len : u.svc.notify_len = t.svc.notify_len
  link : u.host.link = t.host.link
  vision_id : getVisionId u.advt = getVisionId t.advt

theorem SameSession.dialogue {t u : Tag} (h : SameSession t u) : SameDialogue t u :=
  ⟨h.current_conn, h.active_local_id, h.write_len, h.authorization, h.notify_len,
    congrArg _ h.host, h.vision_id⟩

theorem SameButDoze.dialogue {t u : Tag} (h : SameButDoze t u) : SameDialogue t u := by
  obtain ⟨refs, doze, rfl⟩ := h
  exact ⟨rfl, rfl, rfl, rfl, rfl, rfl, rfl⟩

/-- The events that are no link, no write and no run of the command handler. -/
def Quiet : Event → Prop
  | .connected .. => False
  | .disconnected .. => False
  | .write .. => False
  | .parseAndReply _ => False
  | _ => True

/-- A quiet event leaves the dialogue as it is, or resets the tag. -/
theorem quiet_next (t : Tag) (e : Event) (h : Quiet e) :
    SameDialogue t (next t e) ∨ Fresh (next t e) := by
  cases e with
  | connected c id err infoRc => exact False.elim h
  | disconnected c io => exact False.elim h
  | write c buf offset => exact False.elim h
  | parseAndReply io => exact False.elim h
  | read c len offset => exact Or.inl (SameSession.refl t).dialogue
  | cccdChanged c value => exact Or.inl ⟨rfl, rfl, rfl, rfl, rfl, rfl, rfl⟩
  | authorisationTimeout =>
    have hk := (initiateDisconnect_keeps .done
      { t with svc := { t.svc with authorisation_timout_work := none } }).dialogue
    exact Or.inl ⟨hk.current_conn, hk.active_local_id, hk.write_len, hk.authorization,
      hk.notify_len, hk.link, hk.vision_id⟩
  | connectionTimeout =>
    have hk := (initiateDisconnect_keeps .done
      { t with svc := { t.svc with connection_timout_work := none } }).dialogue
    exact Or.inl ⟨hk.current_conn, hk.active_local_id, hk.write_len, hk.authorization,
      hk.notify_len, hk.link, hk.vision_id⟩
  | initiateDisconnect => exact Or.inl ((initiateDisconnect_keeps .done t).dialogue)
  | wake io =>
    rcases wake_keeps t io with hk | hk
    · exact Or.inl hk.dialogue
    · rw [next, hk]
      exact Or.inr (sysReboot_fresh t io)
  | toolMsg data len io bootIo =>
    rcases toolMsg_same t data len io bootIo with hs | ⟨u, _, hu⟩
    · exact Or.inl hs.dialogue
    · rw [next, hu]
      exact Or.inr (sysReboot_fresh u bootIo)
  | customStart rc => exact Or.inl (customStart_same t rc).dialogue
  | customStop rc => exact Or.inl (customStop_same t rc).dialogue
  | supervisor rc => exact Or.inl (superviseTime_same t rc).dialogue
  | elapse ticks => exact Or.inl ⟨rfl, rfl, rfl, rfl, rfl, rfl, rfl⟩

end smart_track.tag
