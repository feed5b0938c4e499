-- Frames and replies that do not fit into one packet. A client writes a long frame in pieces and
-- reads a long reply in pieces, each piece where the last one ended, while the handler runs in
-- between as it pleases.
import SmartTrack.AirTime
import SmartTrack.WholeFrames

open bytes smart_track.zephyr smart_track.tag
  smart_track.custom_services smart_track.production smart_track.air_time
open smart_track.settings (received)
open smart_track.provenance (loginFrame quietRun)

namespace smart_track.long_writes

/-! ## What the events do to the buffers -/

/-- The buffers of the two characteristics are the same in both. -/
structure SameMail (t u : Tag) : Prop where
  write_buffer : u.svc.write_buffer = t.svc.write_buffer
  write_len : u.svc.write_len = t.svc.write_len
  notify_buffer : u.svc.notify_buffer = t.svc.notify_buffer
  notify_len : u.svc.notify_len = t.svc.notify_len

theorem sameButDoze_mail {t u : Tag} (h : SameButDoze t u) : SameMail t u := by
  obtain ⟨refs, doze, rfl⟩ := h
  exact ⟨rfl, rfl, rfl, rfl⟩

theorem linkUp_mail (t : Tag) (c : Conn) (id err : Nat) (infoRc : Int) :
    SameMail t (linkUp t c id err infoRc) := by
  unfold linkUp custom_services.connected
  simp only
  split_ifs <;> exact ⟨rfl, rfl, rfl, rfl⟩

theorem linkDown_mail (t : Tag) (c : Conn) (io : DisconnectIo) :
    SameMail t (linkDown t c io) := by
  unfold linkDown custom_services.disconnected visionBranch releaseConn
  simp only
  split_ifs <;> exact ⟨rfl, rfl, rfl, rfl⟩

/-- Only the writes and the handler touch the buffers, until the tag resets. -/
theorem mail_next {t : Tag} {e : Event} (hup : resetBy t e = none)
    (hwrite : ∀ c buf offset, e ≠ .write c buf offset) (hparse : ∀ io, e ≠ .parseAndReply io) :
    SameMail t (next t e) := by
  cases e with
  | connected c id err infoRc => exact linkUp_mail t c id err infoRc
  | disconnected c io => exact linkDown_mail t c io
  | write c buf offset => exact absurd rfl (hwrite c buf offset)
  | parseAndReply io => exact absurd rfl (hparse io)
  | authorisationTimeout =>
    have h := sameButDoze_mail (initiateDisconnect_keeps .done
      { t with svc := { t.svc with authorisation_timout_work := none } })
    exact ⟨h.write_buffer, h.write_len, h.notify_buffer, h.notify_len⟩
  | connectionTimeout =>
    have h := sameButDoze_mail (initiateDisconnect_keeps .done
      { t with svc := { t.svc with connection_timout_work := none } })
    exact ⟨h.write_buffer, h.write_len, h.notify_buffer, h.notify_len⟩
  | initiateDisconnect => exact sameButDoze_mail (initiateDisconnect_keeps .done t)
  | wake io =>
    simp only [resetBy, ite_eq_right_iff, reduceCtorEq, imp_false] at hup
    exact sameButDoze_mail (wake_stays t io hup)
  | toolMsg data len io bootIo =>
    simp only [resetBy, ite_eq_right_iff, reduceCtorEq, imp_false] at hup
    obtain ⟨tool, storage, time, heq⟩ := toolMsg_frame t io bootIo hup
    rw [next, heq]
    exact ⟨rfl, rfl, rfl, rfl⟩
  | _ => exact ⟨rfl, rfl, rfl, rfl⟩

/-! ## A frame in pieces -/

/-- The pieces that were written, each with its offset. -/
def writesOf (es : List Event) : List (Nat × List UInt8) :=
  es.flatMap fun
    | .write _ buf offset => [(offset, buf)]
    | _ => []

/-- Whether a piece came after the last run of the handler. -/
def waits (w : Bool) : Event → Bool
  | .write .. => true
  | .parseAndReply _ => false
  | _ => w

/-- The buffer starts with what was written, and the handler is to take all of it or nothing. -/
structure Holds (frame : List UInt8) (w : Bool) (t : Tag) : Prop where
  front : (listOf t.svc.write_buffer).take frame.length = frame
  write_len : t.svc.write_len = if w then frame.length else 0

theorem holds_of_sameMail {frame : List UInt8} {w : Bool} {t u : Tag} (hmail : SameMail t u)
    (h : Holds frame w t) : Holds frame w u := by
  constructor
  · rw [hmail.write_buffer]
    exact h.front
  · rw [hmail.write_len]
    exact h.write_len

/-- The next piece extends the frame, also when the handler took the front in between. -/
theorem holds_write {frame buf : List UInt8} {w : Bool} {t : Tag} (h : Holds frame w t)
    (hfit : frame.length + buf.length ≤ CUSTOM_MAX_DATA_LEN) :
    Holds (frame ++ buf) true (writeIncomingChar t buf frame.length).1 := by
  have hmax : max t.svc.write_len (frame.length + buf.length) = frame.length + buf.length := by
    rw [h.write_len]
    split <;> omega
  unfold writeIncomingChar
  rw [if_neg (Nat.not_lt.mpr hfit)]
  constructor
  · rw [List.length_append]
    exact take_memcpy_behind t.svc.write_buffer h.front hfit
  · simp only [hmax, if_true, List.length_append]

theorem holds_parse {frame : List UInt8} {w : Bool} {t : Tag} (io : ParseIo)
    (h : Holds frame w t) : Holds frame false (bleParseAndReplyWorkHandler t io).1 := by
  have hrun := parse_afterRun t io
  constructor
  · rw [hrun.write_buffer]
    exact h.front
  · exact hrun.write_len

/-- The pieces of `fs` go on where the frame ends. -/
theorem holds_run {t : Tag} {fs : List Event} {frame : List UInt8} {w : Bool}
    (h : Holds frame w t) (hpieces : Contiguous frame.length (writesOf fs))
    (hfit : frame.length + ((writesOf fs).flatMap Prod.snd).length ≤ CUSTOM_MAX_DATA_LEN)
    (hup : system.Steps (fun s e => resetBy s e = none) t fs) :
    Holds (frame ++ (writesOf fs).flatMap Prod.snd) (fs.foldl waits w) (system.run t fs) := by
  induction fs generalizing t frame w with
  | nil => simpa [writesOf] using h
  | cons e fs ih =>
    cases hcase : e with
    | write c buf offset =>
      subst hcase
      obtain ⟨hat, hrest⟩ : offset = frame.length ∧
          Contiguous (frame.length + buf.length) (writesOf fs) := hpieces
      have hsum : frame.length + (buf ++ (writesOf fs).flatMap Prod.snd).length
          ≤ CUSTOM_MAX_DATA_LEN := hfit
      subst hat
      rw [List.length_append] at hsum
      have hnext := holds_write h (show frame.length + buf.length ≤ _ by omega)
      rw [← List.length_append] at hrest
      have hrun := ih hnext hrest (by rw [List.length_append]; omega) hup.2
      rw [List.append_assoc] at hrun
      exact hrun
    | parseAndReply io =>
      subst hcase
      exact ih (holds_parse io h) hpieces hfit hup.2
    | _ =>
      subst hcase
      exact ih (holds_of_sameMail (mail_next hup.1 (by simp) (by simp)) h) hpieces hfit hup.2

/-- A client alone writes a frame of at most the size of the buffer in pieces to an empty buffer,
each piece where the last one ended. Whatever else happens but a reset, and however often the
handler runs in between, it finds all that was written so far if a piece came since its last run,
and nothing otherwise: a frame is executed once for every front of it that the handler gets to
see. -/
theorem a_frame_in_pieces_waits_with_all_its_pieces (t : Tag) (fs : List Event)
    (hempty : t.svc.write_len = 0) (hpieces : Contiguous 0 (writesOf fs))
    (hfit : ((writesOf fs).flatMap Prod.snd).length ≤ CUSTOM_MAX_DATA_LEN)
    (hup : system.Steps (fun s e => resetBy s e = none) t fs) :
    received (system.run t fs) =
      if fs.foldl waits false then (writesOf fs).flatMap Prod.snd else [] := by
  have h : Holds [] false t := ⟨rfl, hempty⟩
  have hrun := holds_run h hpieces (by simpa using hfit) hup
  rw [List.nil_append] at hrun
  unfold received
  rw [hrun.write_len]
  split
  · exact hrun.front
  · exact List.take_zero

/-- A client that has logged in. -/
def loggedInTag : Tag :=
  system.run factoryTag [.connected 0 2 0 0, .write 0 loginFrame 0, .parseAndReply quietRun]

/-- The handler sees the first piece of a set clock command, and then the whole of it. -/
def clockInPieces : List Event :=
  [.write 0 [3, 0x21, 0x96, 0x25] 0, .parseAndReply quietRun, .write 0 [0x6A, 60, 0] 4]

theorem a_clock_in_pieces_waits_whole :
    received (system.run loggedInTag clockInPieces) = [3, 0x21, 0x96, 0x25, 0x6A, 60, 0] :=
  a_frame_in_pieces_waits_with_all_its_pieces loggedInTag clockInPieces (by decide +kernel)
    ⟨rfl, rfl, trivial⟩ (by decide) (by decide +kernel)

/-! ## A reply in pieces -/

/-- The bytes that an event gives to the client `c`. -/
def readOut (c : Conn) (t : Tag) : Event → List UInt8
  | .read c' len offset => if c' = c then readNotifyChar t len offset else []
  | _ => []

/-- The tag with a client that counts the bytes it got. -/
def reader (c : Conn) : runs.System (Tag × Nat) Event :=
  system.watch 0 (fun got t e => got + (readOut c t e).length)

/-- A read of the client goes on where its last one ended. -/
def ReadsOn (c : Conn) (p : Tag × Nat) : Event → Prop
  | .read c' _ offset => c' = c → offset = p.2
  | _ => True

/-- The event is a run of the handler that executes a command. -/
def Answers (t : Tag) : Event → Prop
  | .parseAndReply _ => executes t ≠ none
  | _ => False

instance (c : Conn) (p : Tag × Nat) (e : Event) : Decidable (ReadsOn c p e) := by
  apply Event.casesOn (motive := fun e => Decidable (ReadsOn c p e)) e
  all_goals
    intros
    unfold ReadsOn
    infer_instance

instance (t : Tag) (e : Event) : Decidable (Answers t e) := by
  apply Event.casesOn (motive := fun e => Decidable (Answers t e)) e
  all_goals
    intros
    unfold Answers
    infer_instance

def lastReply (t : Tag) : List UInt8 := (listOf t.svc.notify_buffer).take t.svc.notify_len

theorem reply_next {t : Tag} {e : Event} (hup : resetBy t e = none) (hquiet : ¬ Answers t e) :
    lastReply (next t e) = lastReply t := by
  unfold lastReply
  cases hcase : e with
  | write c buf offset =>
    unfold next writeIncomingChar
    simp only
    split <;> rfl
  | parseAndReply io =>
    subst hcase
    have hidle : executes t = none := by simpa [Answers] using hquiet
    rw [next, parse_idle t io hidle]
    rfl
  | _ =>
    subst hcase
    have hmail := mail_next hup (by simp) (by simp)
    rw [hmail.notify_buffer, hmail.notify_len]

/-- A read that goes on at `n` gives the front of what is left there. -/
theorem readOut_front {c : Conn} {t : Tag} {n : Nat} {e : Event} (hon : ReadsOn c (t, n) e) :
    readOut c t e = ((lastReply t).drop n).take (readOut c t e).length := by
  cases e with
  | read c' len offset =>
    by_cases hown : c' = c
    · have hat : offset = n := hon hown
      subst hat
      have hout : readOut c t (.read c' len offset) = ((lastReply t).drop offset).take len :=
        if_pos hown
      rw [hout, List.length_take, ← List.take_take, List.take_length]
    · have hout : readOut c t (.read c' len offset) = [] := if_neg hown
      rw [hout]
      rfl
  | _ => rfl

/-- What a client reads from `n` on is the reply from there. -/
theorem reads_run {c : Conn} {t : Tag} {fs : List Event} (n : Nat)
    (hkept : system.Steps (fun s e => resetBy s e = none ∧ ¬ Answers s e) t fs)
    (hon : (reader c).Steps (ReadsOn c) (t, n) fs) :
    system.outputs (readOut c) t fs =
        ((lastReply t).drop n).take (system.outputs (readOut c) t fs).length ∧
      lastReply (system.run t fs) = lastReply t := by
  induction fs generalizing t n with
  | nil => exact ⟨rfl, rfl⟩
  | cons e fs ih =>
    obtain ⟨hrest, hend⟩ := ih (n + (readOut c t e).length) hkept.2 hon.2
    have hsame := reply_next hkept.1.1 hkept.1.2
    have hnext : lastReply (system.next t e) = lastReply t := hsame
    rw [hnext] at hrest hend
    refine ⟨?_, hend⟩
    rw [runs.System.outputs_cons, List.length_append, List.take_add, List.drop_drop,
      ← readOut_front hon.1, ← hrest]

theorem command_length (t : Tag) (f : Frame) :
    (command t f).2.local_reply_buf.length ≤ CUSTOM_MAX_DATA_LEN := by
  unfold command
  split
  · unfold loginCommand
    split_ifs <;> simp [CUSTOM_MAX_DATA_LEN]
  · exact whole_frames.authorisedCommand_length _ f

/-- What the command that waits from the client `c` is answered. -/
def answerTo (t : Tag) (c : Conn) : List UInt8 :=
  (command (btConnRef (takeFrame t) c) (takenFrame t)).2.local_reply_buf

/-- After a run of the handler the reply is that of its command. -/
theorem lastReply_run {t : Tag} {c : Conn} (io : ParseIo) (hexec : executes t = some c) :
    lastReply (next t (.parseAndReply io)) = answerTo t c := by
  have hlen := command_length (btConnRef (takeFrame t) c) (takenFrame t)
  have hread := (settings.handleFrame_reply _ c (takenFrame t) io hlen).1
  unfold readNotifyChar slice at hread
  rw [List.drop_zero, List.take_of_length_le (by simp)] at hread
  rw [next, parse_busy t c io hexec]
  exact hread

/-- What the client reads in the events `fs` after the handler has run. -/
def readBack (c : Conn) (t : Tag) (io : ParseIo) (fs : List Event) : List UInt8 :=
  system.outputs (readOut c) (next t (.parseAndReply io)) fs

/-- A client reads the answer to its command in pieces, each piece where the last one ended. Until
the handler executes the next command or the tag resets it gets a front of just that answer, and
all of it once a read comes back short. Other clients may read as they like. -/
theorem a_reply_in_pieces_is_read_whole (t : Tag) (c : Conn) (io : ParseIo) (fs : List Event)
    (hexec : executes t = some c)
    (hkept : system.Steps (fun s e => resetBy s e = none ∧ ¬ Answers s e)
      (next t (.parseAndReply io)) fs)
    (hon : (reader c).Steps (ReadsOn c) (next t (.parseAndReply io), 0) fs) :
    readBack c t io fs <+: answerTo t c ∧
      ∀ len, (readNotifyChar (system.run t (.parseAndReply io :: fs)) len
          (readBack c t io fs).length).length < len →
        readBack c t io fs ++ readNotifyChar (system.run t (.parseAndReply io :: fs)) len
          (readBack c t io fs).length = answerTo t c := by
  obtain ⟨hread, hend⟩ := reads_run 0 hkept hon
  rw [lastReply_run io hexec] at hread hend
  rw [List.drop_zero] at hread
  have hfront : readBack c t io fs = (answerTo t c).take (readBack c t io fs).length := hread
  refine ⟨?_, ?_⟩
  · rw [hfront]
    exact List.take_prefix _ _
  · intro len hshort
    have hlast : readNotifyChar (system.run t (.parseAndReply io :: fs)) len
        (readBack c t io fs).length =
          ((answerTo t c).drop (readBack c t io fs).length).take len := by
      rw [← hend]
      rfl
    rw [hlast] at hshort ⊢
    rw [List.length_take] at hshort
    rw [List.take_of_length_le (by omega)]
    calc readBack c t io fs ++ (answerTo t c).drop (readBack c t io fs).length
        = (answerTo t c).take (readBack c t io fs).length ++
            (answerTo t c).drop (readBack c t io fs).length := by rw [← hfront]
      _ = answerTo t c := List.take_append_drop _ _

/-- A client that has asked for the firmware. -/
def askedForFirmware : Tag := system.run loggedInTag [.write 0 [129] 0]

/-- It reads two bytes, and another client reads as well. -/
def readsOfTwo : List Event := [.read 0 2 0, .connected 1 1 0 0, .read 1 20 1]

theorem the_firmware_is_read_in_two_pieces :
    readBack 0 askedForFirmware quietRun readsOfTwo ++
        readNotifyChar (system.run askedForFirmware (.parseAndReply quietRun :: readsOfTwo)) 2
          (readBack 0 askedForFirmware quietRun readsOfTwo).length =
      answerTo askedForFirmware 0 :=
  (a_reply_in_pieces_is_read_whole askedForFirmware 0 quietRun readsOfTwo (by decide +kernel)
    (by decide +kernel) (by decide +kernel)).2 2 (by decide +kernel)

end smart_track.long_writes
