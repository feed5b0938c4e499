-- The command frames of one BLE client. The write buffer with its running length
-- is a place for one frame between the characteristic and the command handler.
import SmartTrack.Mailbox
import SmartTrack.Settings

open bytes mailbox smart_track.zephyr smart_track.storage smart_track.tag
  smart_track.custom_services smart_track.settings
open smart_track.production (ResetsTag toolMsg_frame)
open smart_track.provenance (loginFrame intervalFrame quietRun)

namespace smart_track.command_frames

/-! ## The runs with one client -/

/-- The client `c` stays connected, alone, and its writes at offset 0 are accepted. -/
def OneClient (c : Conn) (t : Tag) : Event → Prop
  | .write conn buf offset => conn = c ∧ offset = 0 ∧ buf.length ≤ CUSTOM_MAX_DATA_LEN
  | .connected _ _ err _ => err ≠ 0
  | .disconnected conn _ => conn ≠ c
  | .wake _ => t.doze ≠ some .rebooting
  | .toolMsg data len _ _ => ¬ ResetsTag data len
  | _ => True

instance (c : Conn) (t : Tag) (e : Event) : Decidable (OneClient c t e) := by
  apply Event.casesOn (motive := fun e => Decidable (OneClient c t e)) e
  all_goals
    intros
    unfold OneClient
    infer_instance

def oneClient (c : Conn) : runs.System Tag Event where
  start t := t.svc.current_conn = some c ∧ t.svc.write_len = 0
  allowed t e := Allowed t e ∧ OneClient c t e
  next := next

instance (c : Conn) (t : Tag) (e : Event) : Decidable ((oneClient c).allowed t e) :=
  inferInstanceAs (Decidable (_ ∧ _))

/-! ## The buffer as a place for one frame -/

/-- The frame that the handler would parse now. -/
def waitingFrame (t : Tag) : Option (List UInt8) := (executes t).map fun _ => received t

/-- A write puts its bytes there, and the handler takes what is there and parses it. -/
def frameAct : Event → Act (List UInt8)
  | .write _ buf _ => .put buf
  | .parseAndReply _ => .take
  | _ => .other

/-- The client is there, and a frame that waits is submitted. -/
structure Serving (c : Conn) (t : Tag) : Prop where
  conn : t.svc.current_conn = some c
  submitted : t.svc.write_len ≠ 0 → t.svc.parse_and_reply_work = true

/-- What the place goes by is the same in both. -/
structure SameFrame (t u : Tag) : Prop where
  current_conn : u.svc.current_conn = t.svc.current_conn
  write_buffer : u.svc.write_buffer = t.svc.write_buffer
  write_len : u.svc.write_len = t.svc.write_len
  parse_and_reply_work : u.svc.parse_and_reply_work = t.svc.parse_and_reply_work

theorem SameFrame.waitingFrame {t u : Tag} (h : SameFrame t u) :
    waitingFrame u = waitingFrame t := by
  unfold command_frames.waitingFrame executes received
  rw [h.current_conn, h.write_buffer, h.write_len]

theorem SameFrame.serving {c : Conn} {t u : Tag} (h : SameFrame t u) (hs : Serving c t) :
    Serving c u := by
  refine ⟨h.current_conn.trans hs.conn, ?_⟩
  rw [h.write_len, h.parse_and_reply_work]
  exact hs.submitted

theorem SameButDoze.frame {t u : Tag} (h : SameButDoze t u) : SameFrame t u := by
  obtain ⟨refs, doze, rfl⟩ := h
  exact ⟨rfl, rfl, rfl, rfl⟩

theorem visionBranch_frame (t : Tag) (io : DisconnectIo) : SameFrame t (visionBranch t io) :=
  ⟨rfl, rfl, rfl, rfl⟩

/-- The end of another link releases another connection. -/
theorem disconnected_frame {c : Conn} {t : Tag} (conn : Conn) (io : DisconnectIo)
    (hs : t.svc.current_conn = some c) (h : conn ≠ c) :
    SameFrame t (disconnected t conn io) := by
  have hrelease : releaseConn t conn = t := by
    unfold releaseConn
    rw [if_neg]
    rw [hs]
    intro heq
    exact h (Option.some.inj heq).symm
  unfold disconnected
  rw [hrelease]
  split
  · exact visionBranch_frame t io
  · exact ⟨rfl, rfl, rfl, rfl⟩

theorem wake_frame (t : Tag) (io : BootIo) (h : t.doze ≠ some .rebooting) :
    SameFrame t (wake t io) := by
  unfold wake
  split
  · exact ⟨rfl, rfl, rfl, rfl⟩
  · split
    · exact SameButDoze.frame (initiateDisconnect_keeps _ t)
    · split
      · exact SameButDoze.frame (disconnectThen_keeps ⟨_, _, rfl⟩)
      · exact ⟨rfl, rfl, rfl, rfl⟩
  · rename_i conn after _
    have hk := SameButDoze.frame (resume_keeps after (btConnUnref t conn))
    exact ⟨hk.current_conn, hk.write_buffer, hk.write_len, hk.parse_and_reply_work⟩
  · rename_i hdoze
    exact absurd hdoze h

/-- Only a write and the handler touch the place. -/
theorem other_frame {c : Conn} {t : Tag} {e : Event} (hs : Serving c t) (ha : OneClient c t e)
    (h : frameAct e = .other) : SameFrame t (next t e) := by
  cases e with
  | write conn buf offset => cases h
  | parseAndReply io => cases h
  | connected conn id err infoRc =>
    rw [next, linkUp_failed t conn id infoRc ha]
    exact ⟨rfl, rfl, rfl, rfl⟩
  | disconnected conn io =>
    have hk := disconnected_frame (t := { t with host :=
      { t.host with link := Function.update t.host.link conn none } }) conn io hs.conn ha
    exact ⟨hk.current_conn, hk.write_buffer, hk.write_len, hk.parse_and_reply_work⟩
  | authorisationTimeout =>
    have hk := SameButDoze.frame (initiateDisconnect_keeps .done
      { t with svc := { t.svc with authorisation_timout_work := none } })
    exact ⟨hk.current_conn, hk.write_buffer, hk.write_len, hk.parse_and_reply_work⟩
  | connectionTimeout =>
    have hk := SameButDoze.frame (initiateDisconnect_keeps .done
      { t with svc := { t.svc with connection_timout_work := none } })
    exact ⟨hk.current_conn, hk.write_buffer, hk.write_len, hk.parse_and_reply_work⟩
  | initiateDisconnect => exact SameButDoze.frame (initiateDisconnect_keeps .done t)
  | wake io => exact wake_frame t io ha
  | toolMsg data len io bootIo =>
    obtain ⟨tool, storage, time, heq⟩ := toolMsg_frame t io bootIo ha
    rw [next, heq]
    exact ⟨rfl, rfl, rfl, rfl⟩
  | _ => exact ⟨rfl, rfl, rfl, rfl⟩

/-! ## The writes and the handler -/

/-- What a write into the empty buffer leaves there. -/
theorem write_waiting {c : Conn} {t : Tag} (hs : Serving c t) (hempty : t.svc.write_len = 0)
    {buf : List UInt8} (hlen : buf.length ≤ CUSTOM_MAX_DATA_LEN) :
    waitingFrame (writeIncomingChar t buf 0).1 = if buf = [] then none else some buf := by
  have hfits : ¬ CUSTOM_MAX_DATA_LEN < 0 + buf.length := by omega
  have hframe := take_memcpy t.svc.write_buffer hlen
  have hwrite : (writeIncomingChar t buf 0).1 =
      { t with svc :=
          { t.svc with
            write_buffer := memcpy t.svc.write_buffer 0 buf
            write_len := buf.length
            parse_and_reply_work := true } } := by
    unfold writeIncomingChar
    rw [if_neg hfits]
    simp [hempty]
  rw [hwrite]
  simp only [waitingFrame, executes, received, hs.conn, hframe, List.length_eq_zero_iff]
  split <;> rfl

theorem write_serving {c : Conn} {t : Tag} (hs : Serving c t) (buf : List UInt8) (offset : Nat) :
    Serving c (writeIncomingChar t buf offset).1 := by
  unfold writeIncomingChar
  split
  · exact hs
  · exact ⟨hs.conn, fun _ => rfl⟩

theorem waitingFrame_none {c : Conn} {t : Tag} (hs : Serving c t) :
    waitingFrame t = none ↔ t.svc.write_len = 0 := by
  unfold waitingFrame executes
  rw [Option.map_eq_none_iff, hs.conn]
  simp

/-- A run of the handler empties the buffer, whatever it does with the frame. -/
theorem parse_serving {c : Conn} {t : Tag} (hs : Serving c t) (io : ParseIo) :
    Serving c (bleParseAndReplyWorkHandler t io).1 ∧
      waitingFrame (bleParseAndReplyWorkHandler t io).1 = none := by
  have hafter := parse_afterRun t io
  have hserving : Serving c (bleParseAndReplyWorkHandler t io).1 :=
    ⟨hafter.current_conn.trans hs.conn, fun hlen => absurd hafter.write_len hlen⟩
  exact ⟨hserving, (waitingFrame_none hserving).mpr hafter.write_len⟩

theorem serving_next (c : Conn) (t : Tag) (e : Event) (hs : Serving c t)
    (ha : (oneClient c).allowed t e) : Serving c (next t e) := by
  cases hact : frameAct e with
  | other => exact (other_frame hs ha.2 hact).serving hs
  | put buf =>
    cases e with
    | write conn buf offset => exact write_serving hs buf offset
    | _ => cases hact
  | take =>
    cases e with
    | parseAndReply io => exact (parse_serving hs io).1
    | _ => cases hact
  | drop => cases e <;> cases hact

/-- The write buffer of the client `c`. -/
def frameBox (c : Conn) : Mailbox (oneClient c) (List UInt8) where
  Inv := Serving c
  content := waitingFrame
  pending t := t.svc.parse_and_reply_work
  act _ e := frameAct e
  inv_next := serving_next c
  submitted t hs hne := by
    apply hs.submitted
    intro hlen
    exact hne ((waitingFrame_none hs).mpr hlen)
  put_empty t e buf hs ha hact hempty := by
    cases e with
    | write conn data offset =>
      cases hact
      obtain ⟨_, _, rfl, hlen⟩ := ha
      have hwait := write_waiting hs ((waitingFrame_none hs).mp hempty) hlen
      change waitingFrame (writeIncomingChar t buf 0).1 = none ∨
        waitingFrame (writeIncomingChar t buf 0).1 = some buf
      rw [hwait]
      split
      · exact Or.inl rfl
      · exact Or.inr rfl
    | _ => cases hact
  emptied t e hs ha hact := by
    rcases hact with hact | hact
    · cases e with
      | parseAndReply io => exact (parse_serving hs io).2
      | _ => cases hact
    · cases e <;> cases hact
  untouched t e hs ha hact := (other_frame hs ha.2 hact).waitingFrame

/-! ## The law -/

/-- A write brings bytes, and finds the buffer empty. -/
def WritesAlone (t : Tag) : Event → Prop
  | .write _ buf _ => t.svc.write_len = 0 ∧ buf ≠ []
  | _ => True

theorem clean_iff (c : Conn) (t : Tag) (e : Event) (hs : Serving c t)
    (ha : (oneClient c).allowed t e) : (frameBox c).Clean t e ↔ WritesAlone t e := by
  cases e with
  | write conn buf offset =>
    obtain ⟨_, _, rfl, hlen⟩ := ha
    change waitingFrame t = none ∧ waitingFrame (writeIncomingChar t buf 0).1 = some buf ↔
      t.svc.write_len = 0 ∧ buf ≠ []
    rw [waitingFrame_none hs]
    apply and_congr_right
    intro hempty
    rw [write_waiting hs hempty hlen]
    split <;> simp_all
  | _ => exact Iff.rfl

/-- Once no submitted work is pending, the handler has parsed just the frames that the client
wrote, in order and each once, if and only if every write brought bytes and found the buffer
empty. -/
theorem frames_are_handled_once_while_each_finds_the_buffer_empty (c : Conn) (t : Tag)
    (es : List Event) (h : (oneClient c).Run t es)
    (hidle : ((oneClient c).run t es).svc.parse_and_reply_work = false) :
    let log := ((frameBox c).logged.run (t, {}) es).2
    log.taken = log.put ↔ (oneClient c).Steps WritesAlone t es := by
  obtain ⟨⟨hconn, hempty⟩, hA⟩ := h
  have hs : Serving c t := ⟨hconn, fun hlen => absurd hempty hlen⟩
  rw [← runs.System.steps_congr (serving_next c) (clean_iff c) hs hA]
  exact (frameBox c).taken_eq_put_iff hs ((waitingFrame_none hs).mpr hempty) hA hidle

/-- A factory tag with a client on the Vision identity. -/
def connectedTag : Tag := next factoryTag (.connected 0 2 0 0)

/-- The client logs in and sets the interval, one command after the other. -/
theorem two_commands_in_turn_are_handled :
    let log := ((frameBox 0).logged.run (connectedTag, {})
      [.write 0 loginFrame 0, .parseAndReply quietRun, .write 0 intervalFrame 0,
        .parseAndReply quietRun]).2
    log.taken = log.put :=
  (frames_are_handled_once_while_each_finds_the_buffer_empty 0 connectedTag
    [.write 0 loginFrame 0, .parseAndReply quietRun, .write 0 intervalFrame 0,
      .parseAndReply quietRun] ⟨⟨by decide, by decide⟩, by decide +kernel⟩
    (by decide +kernel)).mpr
      ⟨⟨by decide, by decide⟩, trivial, ⟨by decide, by decide +kernel⟩, trivial, trivial⟩

/-- The client writes four bytes and then one, before the handler runs: it parses one frame of
four bytes that begins with the second write. -/
theorem two_writes_before_a_run_are_mixed :
    ¬ ∀ (c : Conn) (t : Tag) (es : List Event), (oneClient c).Run t es →
      ((oneClient c).run t es).svc.parse_and_reply_work = false →
        let log := ((frameBox c).logged.run (t, {}) es).2
        log.taken = log.put := by
  intro h
  have hmixed := h 0 connectedTag
    [.write 0 [8, 0xE8, 3, 0] 0, .write 0 [129] 0, .parseAndReply quietRun]
    ⟨⟨by decide, by decide⟩, by decide +kernel⟩ (by decide +kernel)
  revert hmixed
  decide +kernel

end smart_track.command_frames
