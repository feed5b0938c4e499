-- Who wrote the frames that the service executes, and who asked for the replies
-- that it sends. A watcher notes the writer of each byte, the sessions that
-- presented the password, and the frame that the last reply answers.
import SmartTrack.Sessions

open bytes smart_track.zephyr smart_track.production smart_track.tag smart_track.custom_services
  smart_track.sessions
open smart_track.vision_advt (getVisionId onVisionSet)

namespace smart_track.provenance

/-! ## The watcher -/

/-- A session: a connection, and how often a link has come up on it. -/
abbrev Session := Conn × Nat

structure Ledger where
  sessionsOf : Conn → Nat := fun _ => 0
  writer : Fin CUSTOM_MAX_DATA_LEN → Option Session := fun _ => none
  presented : List Session := []
  answered : List (Option Session) := []
  addressee : Option Session := none

/-- The present session of a connection. -/
def session (g : Ledger) (c : Conn) : Session := (c, g.sessionsOf c)

/-- The session goes on: its connection is live, and has not come up again since. -/
def Live (t : Tag) (g : Ledger) (s : Session) : Prop :=
  t.host.link s.1 ≠ none ∧ session g s.1 = s

instance (t : Tag) (g : Ledger) (s : Session) : Decidable (Live t g s) :=
  inferInstanceAs (Decidable (_ ∧ _))

/-- All bytes of the frame that waits were written by the session. -/
def WroteFrame (t : Tag) (g : Ledger) (s : Session) : Prop :=
  ∀ i : Fin CUSTOM_MAX_DATA_LEN, i.val < t.svc.write_len → g.writer i = some s

instance (t : Tag) (g : Ledger) (s : Session) : Decidable (WroteFrame t g s) :=
  inferInstanceAs (Decidable (∀ _, _ → _))

/-- The writers of the bytes of the frame that waits. -/
def frameWriters (t : Tag) (g : Ledger) : List (Option Session) :=
  (List.ofFn g.writer).take t.svc.write_len

def noteConnected (g : Ledger) (c : Conn) (err : Nat) : Ledger :=
  if err = 0 then
    { g with sessionsOf := Function.update g.sessionsOf c (g.sessionsOf c + 1) }
  else
    g

/-- A write that is taken: its bytes now belong to the session of the connection. -/
def noteWrite (g : Ledger) (c : Conn) (buf : List UInt8) (offset : Nat) : Ledger :=
  if CUSTOM_MAX_DATA_LEN < offset + buf.length then
    g
  else
    { g with writer := fun i =>
        if offset ≤ i.val ∧ i.val < offset + buf.length then some (session g c) else g.writer i }

/-- The sessions that present the password with the frame that waits: those that wrote all
of a login frame. -/
def presentsNow (t : Tag) (g : Ledger) : List Session :=
  if isLogin t then
    ((List.finRange CONFIG_BT_MAX_CONN).map (session g)).filter (fun s => WroteFrame t g s)
  else
    []

/-- A run of the command handler: the frame is answered to the current connection. -/
def noteRun (t : Tag) (g : Ledger) : Ledger :=
  match executes t with
  | none => g
  | some c =>
    { g with
      presented := presentsNow t g ++ g.presented
      answered := frameWriters t g
      addressee := some (session g c) }

def note (g : Ledger) (t : Tag) : Event → Ledger
  | .connected c _ err _ => noteConnected g c err
  | .write c buf offset => noteWrite g c buf offset
  | .parseAndReply _ => noteRun t g
  | _ => g

/-- The tag with the watcher beside it. -/
def watched : runs.System (Tag × Ledger) Event := system.watch {} note

instance (p : Tag × Ledger) (e : Event) : Decidable (watched.allowed p e) :=
  inferInstanceAs (Decidable (Allowed p.1 e))

/-! ## Authorised frames -/

/-- Every byte of the frame that waits comes from a session that goes on, and that has
presented the password. -/
def Trusted (t : Tag) (g : Ledger) : Prop :=
  ∀ i : Fin CUSTOM_MAX_DATA_LEN, i.val < t.svc.write_len →
    ∃ s, g.writer i = some s ∧ Live t g s ∧ s ∈ g.presented

instance (t : Tag) (g : Ledger) : Decidable (Trusted t g) :=
  decidable_of_iff
    (∀ i : Fin CUSTOM_MAX_DATA_LEN, i.val < t.svc.write_len →
      (g.writer i).any (fun s => decide (Live t g s ∧ s ∈ g.presented)) = true)
    (by simp only [Option.any_eq_true, decide_eq_true_eq]; rfl)

/-- A run of the handler in the authorised branch executes a command of a trusted frame. -/
def ExecutesTrusted (p : Tag × Ledger) : Event → Prop
  | .parseAndReply _ =>
    executes p.1 ≠ none → p.1.svc.bool_UserAuthorization = true →
      takenFrame p.1 0 ≠ PROVIDE_PASSWORD → Trusted p.1 p.2
  | _ => True

/-- The three kinds of event that bring foreign bytes under an authorisation are ruled out.
While it is granted,
* a write to the followed link's frame comes from a session that presented the password, and
  leaves no gap;
* a link that is not the followed one does not leave bytes behind in the frame;
* a link that does not start a Vision session finds only a trusted frame. -/
def KeepsTrust (p : Tag × Ledger) : Event → Prop
  | .write c buf offset =>
    p.1.svc.bool_UserAuthorization = true → p.1.svc.current_conn ≠ none →
      offset + buf.length ≤ CUSTOM_MAX_DATA_LEN →
      session p.2 c ∈ p.2.presented ∧ offset ≤ p.1.svc.write_len
  | .disconnected c _ =>
    p.1.svc.bool_UserAuthorization = true → p.1.svc.current_conn ≠ none →
      p.1.svc.current_conn ≠ some c → ¬ RunsVisionBranch p.1 →
      ∀ i : Fin CUSTOM_MAX_DATA_LEN, i.val < p.1.svc.write_len →
        p.2.writer i ≠ some (session p.2 c)
  | .connected _ id err infoRc =>
    p.1.svc.bool_UserAuthorization = true → p.1.svc.current_conn = none → err = 0 →
      ¬ (infoRc = 0 ∧ ((id : Nat) : Int) = getVisionId p.1.advt) → Trusted p.1 p.2
  | _ => True

instance (p : Tag × Ledger) (e : Event) : Decidable (KeepsTrust p e) := by
  apply Event.casesOn (motive := fun e => Decidable (KeepsTrust p e)) e
  all_goals
    intros
    unfold KeepsTrust
    infer_instance

/-- While a link is followed under an authorisation, the frame that waits is trusted. -/
def TrustKept (p : Tag × Ledger) : Prop :=
  p.1.svc.bool_UserAuthorization = true → p.1.svc.current_conn ≠ none → Trusted p.1 p.2

theorem note_quiet (g : Ledger) (t : Tag) (e : Event) (h : Quiet e) : note g t e = g := by
  cases e <;> first | rfl | exact False.elim h

/-- A write changes the writers, and nothing else in the notes. -/
theorem noteWrite_frame (g : Ledger) (c : Conn) (buf : List UInt8) (offset : Nat) :
    ∃ writer, noteWrite g c buf offset = { g with writer := writer } := by
  unfold noteWrite
  split
  · exact ⟨_, rfl⟩
  · exact ⟨_, rfl⟩

/-- After a write without a gap each waiting byte is one that it wrote, or waited before. -/
theorem writer_write {t : Tag} (g : Ledger) (c : Conn) {buf : List UInt8} {offset : Nat}
    (hgap : offset + buf.length ≤ CUSTOM_MAX_DATA_LEN → offset ≤ t.svc.write_len)
    (i : Fin CUSTOM_MAX_DATA_LEN)
    (hi : i.val < (writeIncomingChar t buf offset).1.svc.write_len) :
    offset + buf.length ≤ CUSTOM_MAX_DATA_LEN ∧
        (noteWrite g c buf offset).writer i = some (session g c) ∨
      i.val < t.svc.write_len ∧ (noteWrite g c buf offset).writer i = g.writer i := by
  unfold writeIncomingChar at hi
  unfold noteWrite
  split at hi
  · rename_i hlong
    rw [if_pos hlong]
    exact Or.inr ⟨hi, rfl⟩
  · rename_i hfits
    rw [if_neg hfits]
    rw [not_lt] at hfits
    by_cases hin : offset ≤ i.val ∧ i.val < offset + buf.length
    · exact Or.inl ⟨hfits, if_pos hin⟩
    · have hgap := hgap hfits
      refine Or.inr ⟨?_, if_neg hin⟩
      rcases lt_max_iff.mp hi with hlt | hlt
      · exact hlt
      · by_contra hge
        exact hin ⟨by omega, hlt⟩

theorem trusted_of {t u : Tag} {g : Ledger} (h : Trusted t g)
    (hlen : u.svc.write_len = t.svc.write_len) (hlink : u.host.link = t.host.link) :
    Trusted u g := by
  intro i hi
  obtain ⟨s, hs, hlive, hpres⟩ := h i (hlen ▸ hi)
  exact ⟨s, hs, ⟨hlink ▸ hlive.1, hlive.2⟩, hpres⟩

/-- A link that comes up on a free connection ends no session. -/
theorem trusted_linkUp {t : Tag} {g : Ledger} {c : Conn} {id : Nat} {infoRc : Int}
    (hfree : t.host.link c = none) (h : Trusted t g) :
    Trusted (linkUp t c id 0 infoRc) (noteConnected g c 0) := by
  obtain ⟨_, hlink, _, _⟩ := linkUp_links t c id infoRc
  obtain ⟨_, hlen, _⟩ := linkUp_dialogue t c id infoRc
  intro i hi
  obtain ⟨s, hs, ⟨hup, hsame⟩, hpres⟩ := h i (hlen ▸ hi)
  have hne : s.1 ≠ c := by
    intro he
    rw [he] at hup
    exact hup hfree
  refine ⟨s, hs, ⟨?_, ?_⟩, hpres⟩
  · rw [hlink, Function.update_of_ne hne]
    exact hup
  · simp only [session, noteConnected, if_true, Function.update_of_ne hne]
    exact hsame

/-- A link that goes down and wrote nothing of the frame ends no session of it. -/
theorem trusted_linkDown {t : Tag} {g : Ledger} {c : Conn} {io : DisconnectIo}
    (hnone : ∀ i : Fin CUSTOM_MAX_DATA_LEN, i.val < t.svc.write_len →
      g.writer i ≠ some (session g c)) (h : Trusted t g) : Trusted (linkDown t c io) g := by
  obtain ⟨_, hlen, _, _, hlink⟩ := linkDown_dialogue t c io
  intro i hi
  have hi' : i.val < t.svc.write_len := hlen ▸ hi
  obtain ⟨s, hs, ⟨hup, hsame⟩, hpres⟩ := h i hi'
  have hne : s.1 ≠ c := by
    intro he
    rw [he] at hsame
    exact hnone i hi' (hs.trans (congrArg some hsame.symm))
  refine ⟨s, hs, ⟨?_, hsame⟩, hpres⟩
  rw [hlink, Function.update_of_ne hne]
  exact hup

/-- The bytes of a session that presented the password, put right after the others, keep
the frame trusted. -/
theorem trusted_write {t : Tag} {g : Ledger} {c : Conn} {buf : List UInt8} {offset : Nat}
    (hup : t.host.link c ≠ none)
    (hkeeps : offset + buf.length ≤ CUSTOM_MAX_DATA_LEN →
      session g c ∈ g.presented ∧ offset ≤ t.svc.write_len)
    (h : Trusted t g) : Trusted (writeIncomingChar t buf offset).1 (noteWrite g c buf offset) := by
  obtain ⟨_, _, _, _, hhost, _, _⟩ := write_same t buf offset
  obtain ⟨writer, hnote⟩ := noteWrite_frame g c buf offset
  intro i hi
  rcases writer_write g c (fun hfits => (hkeeps hfits).2) i hi with ⟨hfits, hnew⟩ | ⟨hold, hsame⟩
  · refine ⟨session g c, hnew, ⟨?_, ?_⟩, ?_⟩
    · rw [hhost]
      exact hup
    · rw [hnote]
      rfl
    · rw [hnote]
      exact (hkeeps hfits).1
  · obtain ⟨s, hs, ⟨hlink, hsession⟩, hpres⟩ := h i hold
    refine ⟨s, hsame.trans hs, ⟨?_, ?_⟩, ?_⟩
    · rw [hhost]
      exact hlink
    · rw [hnote]
      exact hsession
    · rw [hnote]
      exact hpres

/-! ### One event -/

/-- Trust goes on if it does so while a link is followed under an authorisation. -/
theorem trust_quiet {t : Tag} {g : Ledger} {e : Event} (hq : Quiet e) (h : TrustKept (t, g)) :
    TrustKept (next t e, g) := by
  intro hauth hcur
  simp only at hauth hcur ⊢
  rcases quiet_next t e hq with hs | hf
  · rw [hs.authorization] at hauth
    rw [hs.current_conn] at hcur
    exact trusted_of (h hauth hcur) hs.write_len hs.link
  · rw [hf.svc] at hauth
    cases hauth

theorem trust_connected {t : Tag} {g : Ledger} {c : Conn} {id : Fin CONFIG_BT_ID_MAX} {err : Nat}
    {infoRc : Int}
    (hfree : t.host.link c = none) (h : TrustKept (t, g))
    (hkeeps : KeepsTrust (t, g) (.connected c id err infoRc)) :
    TrustKept (linkUp t c id err infoRc, noteConnected g c err) := by
  intro hauth hcur
  simp only at hauth hcur ⊢
  by_cases herr : err = 0
  · subst herr
    rw [(linkUp_dialogue t c id infoRc).1] at hauth
    simp only [Bool.and_eq_true, Bool.not_eq_true', decide_eq_false_iff_not] at hauth
    obtain ⟨hbefore, hforeign⟩ := hauth
    apply trusted_linkUp hfree
    by_cases hnone : t.svc.current_conn = none
    · exact hkeeps hbefore hnone rfl hforeign
    · exact h hbefore hnone
  · obtain ⟨hsvc, hhost, _⟩ := linkUp_failed t c id err infoRc herr
    rw [hsvc] at hauth hcur
    rw [noteConnected, if_neg herr]
    exact trusted_of (h hauth hcur) (congrArg _ hsvc) (congrArg _ hhost)

theorem trust_disconnected {t : Tag} {g : Ledger} {c : Conn} {io : DisconnectIo}
    (h : TrustKept (t, g)) (hkeeps : KeepsTrust (t, g) (.disconnected c io)) :
    TrustKept (linkDown t c io, g) := by
  intro hauth hcur
  simp only at hauth hcur ⊢
  obtain ⟨hflag, _, _, hfollow, _⟩ := linkDown_dialogue t c io
  rw [hflag] at hauth
  rw [hfollow] at hcur
  simp only [Bool.and_eq_true, Bool.not_eq_true', decide_eq_false_iff_not] at hauth
  split_ifs at hcur with hc
  · exact absurd rfl hcur
  exact trusted_linkDown (hkeeps hauth.1 hcur hc hauth.2) (h hauth.1 hcur)

theorem trust_write {t : Tag} {g : Ledger} {c : Conn} {buf : List UInt8} {offset : Nat}
    (hup : t.host.link c ≠ none) (h : TrustKept (t, g))
    (hkeeps : KeepsTrust (t, g) (.write c buf offset)) :
    TrustKept ((writeIncomingChar t buf offset).1, noteWrite g c buf offset) := by
  intro hauth hcur
  obtain ⟨hfollow, _, hflag, _, _, _, _⟩ := write_same t buf offset
  simp only [hfollow, hflag] at hauth hcur ⊢
  exact trusted_write hup (hkeeps hauth hcur) (h hauth hcur)

/-- While the events keep the trust, the handler executes trusted frames only, and the trust
goes on. -/
theorem trust_next (p : Tag × Ledger) (e : Event) (h : TrustKept p)
    (ha : watched.allowed p e ∧ KeepsTrust p e) :
    ExecutesTrusted p e ∧ TrustKept (watched.next p e) := by
  obtain ⟨t, g⟩ := p
  obtain ⟨hallowed, hkeeps⟩ := ha
  change Allowed t e at hallowed
  change ExecutesTrusted (t, g) e ∧ TrustKept (next t e, note g t e)
  by_cases hq : Quiet e
  · have hexec : ExecutesTrusted (t, g) e := by
      cases e <;> first | exact trivial | exact False.elim hq
    rw [note_quiet g t e hq]
    exact ⟨hexec, trust_quiet hq h⟩
  cases e with
  | connected c id err infoRc => exact ⟨trivial, trust_connected hallowed.1 h hkeeps⟩
  | disconnected c io => exact ⟨trivial, trust_disconnected h hkeeps⟩
  | write c buf offset => exact ⟨trivial, trust_write hallowed h hkeeps⟩
  | parseAndReply io =>
    constructor
    · intro hexec hauth _
      refine h hauth ?_
      intro hnone
      apply hexec
      unfold executes
      rw [hnone, ite_self]
    · intro _ _ i hi
      have hlen := (parse_afterRun t io).write_len
      simp only [next] at hi
      omega
  | _ => exact absurd trivial hq

/-! ## The law of authorised frames -/

/-- Along a run whose events keep the trust, each command of the authorised branch is
executed from a frame of which every byte was written by a session that goes on and that
presented the password. -/
theorem commands_come_from_sessions_that_presented_the_password (t : Tag) (es : List Event)
    (h : system.Run t es) (hkeeps : watched.Steps KeepsTrust (t, {}) es) :
    watched.Steps ExecutesTrusted (t, {}) es := by
  obtain ⟨⟨board, nvs, retained, io, hboot⟩, hA⟩ := h
  have hfresh : Fresh t := hboot ▸ boot_fresh board nvs retained io
  have h0 : TrustKept (t, {}) := by
    intro hauth _
    rw [hfresh.svc] at hauth
    cases hauth
  have hall : watched.Steps watched.allowed (t, {}) es :=
    (runs.System.watch_steps (P := Allowed) system ({} : Ledger) note (t, {}) es).mpr hA
  exact (runs.System.steps_of_invariant (fun p e hp ha => trust_next p e hp ha) h0
    ((runs.System.steps_and _ es).mpr ⟨hall, hkeeps⟩)).1

/-- A login with the default password. -/
def loginFrame : List UInt8 :=
  [138, 0x69, 0x6E, 0x73, 0x21, 0x67, 0x6D, 0x40, 0x3F, 0, 0, 0, 0, 0, 0, 0, 0]

/-- The command that sets the advertising interval to a second. -/
def intervalFrame : List UInt8 := [8, 0xE8, 0x03]

/-- The host sends each notification, and flash takes each write. -/
def quietRun : ParseIo :=
  { notify := { negotiated_mtu := 247, notifyRc := 0 }, configRc := 20, dynamicRc := 12 }

/-- A client logs in and sets the interval. Under its authorisation a Fast Pair link comes up, the
client goes, and another link finds an empty frame. -/
theorem a_session_that_logged_in_is_trusted :
    watched.Steps ExecutesTrusted (factoryTag, {})
      [.customStart 0, .connected 0 2 0 0, .write 0 loginFrame 0, .parseAndReply quietRun,
        .write 0 intervalFrame 0, .parseAndReply quietRun, .connected 1 1 0 0,
        .disconnected 0 quietIo, .disconnected 1 quietIo, .connected 2 1 0 0] :=
  commands_come_from_sessions_that_presented_the_password factoryTag _
    ⟨factoryTag_starts, by decide +kernel⟩ (by decide +kernel)

/-- A Vision client logs in, a Fast Pair link comes up and writes a command: the service
executes it. -/
theorem a_fast_pair_link_uses_the_login_of_a_vision_client :
    ¬ ∀ (t : Tag) (es : List Event), system.Run t es →
      watched.Steps ExecutesTrusted (t, {}) es := by
  intro h
  have hsteps := h factoryTag
    [.customStart 0, .connected 0 2 0 0, .write 0 loginFrame 0, .parseAndReply quietRun,
      .connected 1 1 0 0, .write 1 intervalFrame 0, .parseAndReply quietRun]
    ⟨factoryTag_starts, by decide +kernel⟩
  have htrusted := hsteps.2.2.2.2.2.2.1 (by decide +kernel) (by decide +kernel)
    (by decide +kernel)
  revert htrusted
  decide +kernel

/-! ## Replies -/

/-- What goes out to a connection, as a notification or as the answer to a read, is the reply
to a frame that this very session wrote. -/
def RepliesStay (p : Tag × Ledger) : Event → Prop
  | .parseAndReply io =>
    ∀ c data, (bleParseAndReplyWorkHandler p.1 io).2 = some (c, data) →
      p.1.svc.write_len ≠ 0 ∧ WroteFrame p.1 p.2 (session p.2 c)
  | .read c len offset =>
    readNotifyChar p.1 len offset ≠ [] →
      p.2.answered ≠ [] ∧ ∀ s ∈ p.2.answered, s = some (session p.2 c)
  | _ => True

/-- The three kinds of event that take a reply out of its session are ruled out:
* a write while the service follows another link, or with a gap before it;
* a link that comes up while a frame waits;
* a read by a session that is not the one that the last reply was sent to. -/
def KeepsReplies (p : Tag × Ledger) : Event → Prop
  | .write c buf offset =>
    offset + buf.length ≤ CUSTOM_MAX_DATA_LEN → p.1.svc.current_conn ≠ none →
      p.1.svc.current_conn = some c ∧ offset ≤ p.1.svc.write_len
  | .connected _ _ err _ => err = 0 → p.1.svc.write_len = 0
  | .read c len offset =>
    offset < p.1.svc.notify_len → 0 < len → p.2.addressee = some (session p.2 c)
  | _ => True

instance (p : Tag × Ledger) (e : Event) : Decidable (KeepsReplies p e) := by
  apply Event.casesOn (motive := fun e => Decidable (KeepsReplies p e)) e
  all_goals
    intros
    unfold KeepsReplies
    infer_instance

/-- The link that is followed wrote the frame that waits, and the session that got the last
reply wrote the frame before. -/
structure RepliesKept (p : Tag × Ledger) : Prop where
  waits : ∀ c, p.1.svc.current_conn = some c → WroteFrame p.1 p.2 (session p.2 c)
  answered : ∀ s, p.2.addressee = some s → p.2.answered ≠ [] ∧ ∀ x ∈ p.2.answered, x = some s

theorem frameWriters_of_wrote {t : Tag} {g : Ledger} {s : Session} (h : WroteFrame t g s)
    (hlen : t.svc.write_len ≠ 0) :
    frameWriters t g ≠ [] ∧ ∀ x ∈ frameWriters t g, x = some s := by
  constructor
  · apply List.ne_nil_of_length_pos
    rw [frameWriters, List.length_take, List.length_ofFn]
    exact lt_min (Nat.pos_of_ne_zero hlen) (by decide)
  · intro x hx
    obtain ⟨i, hi, hget⟩ := List.mem_iff_getElem.mp hx
    simp only [frameWriters, List.length_take, List.length_ofFn] at hi
    have hlt : i < t.svc.write_len := by omega
    have hmax : i < CUSTOM_MAX_DATA_LEN := by omega
    rw [← hget]
    simp only [frameWriters, List.getElem_take, List.getElem_ofFn]
    exact h ⟨i, hmax⟩ hlt

/-- A write of the session that is followed, right after its other bytes. -/
theorem wrote_write {t : Tag} {g : Ledger} {c d : Conn} {buf : List UInt8} {offset : Nat}
    (hkeeps : offset + buf.length ≤ CUSTOM_MAX_DATA_LEN → c = d ∧ offset ≤ t.svc.write_len)
    (h : WroteFrame t g (session g d)) :
    WroteFrame (writeIncomingChar t buf offset).1 (noteWrite g c buf offset) (session g d) := by
  intro i hi
  rcases writer_write g c (fun hfits => (hkeeps hfits).2) i hi with ⟨hfits, hnew⟩ | ⟨hold, hsame⟩
  · rw [hnew, (hkeeps hfits).1]
  · rw [hsame]
    exact h i hold

theorem noteConnected_replies (g : Ledger) (c : Conn) (err : Nat) :
    (noteConnected g c err).addressee = g.addressee ∧
      (noteConnected g c err).answered = g.answered := by
  unfold noteConnected
  split <;> exact ⟨rfl, rfl⟩

/-- A run of the handler: the frame is answered to the session that wrote it. -/
theorem repliesKept_run (t : Tag) (g : Ledger) (io : ParseIo) (h : RepliesKept (t, g)) :
    RepliesKept ((bleParseAndReplyWorkHandler t io).1, noteRun t g) := by
  have hlen := (parse_afterRun t io).write_len
  constructor
  · intro c _ i hi
    simp only at hi
    omega
  · intro s hs
    simp only [noteRun] at hs ⊢
    cases hex : executes t with
    | none =>
      rw [hex] at hs
      exact h.answered s hs
    | some c =>
      obtain ⟨hcur, hne⟩ := executes_some hex
      rw [hex] at hs
      simp only [Option.some.injEq] at hs
      rw [← hs]
      exact frameWriters_of_wrote (h.waits c hcur) hne

/-! ### One event -/

theorem replies_quiet {t : Tag} {g : Ledger} {e : Event} (hq : Quiet e)
    (h : RepliesKept (t, g)) : RepliesKept (next t e, g) := by
  refine ⟨?_, h.answered⟩
  intro c hc i hi
  rcases quiet_next t e hq with hs | hf
  · simp only [hs.current_conn, hs.write_len] at hc hi
    exact h.waits c hc i hi
  · simp only [hf.svc] at hc
    cases hc

/-- A read gets bytes of the last reply, or none. -/
theorem read_stays {t : Tag} {g : Ledger} {c : Conn} {len offset : Nat}
    (h : RepliesKept (t, g)) (hkeeps : KeepsReplies (t, g) (.read c len offset)) :
    RepliesStay (t, g) (.read c len offset) := by
  intro hbytes
  obtain ⟨hoff, hlen⟩ := slice_ne_nil hbytes
  exact h.answered _ (hkeeps hoff hlen)

theorem replies_connected {t : Tag} {g : Ledger} {c : Conn} {id : Fin CONFIG_BT_ID_MAX}
    {err : Nat} {infoRc : Int} (h : RepliesKept (t, g))
    (hkeeps : KeepsReplies (t, g) (.connected c id err infoRc)) :
    RepliesKept (linkUp t c id err infoRc, noteConnected g c err) := by
  constructor
  · intro d hd i hi
    simp only at hd hi ⊢
    by_cases herr : err = 0
    · subst herr
      rw [(linkUp_dialogue t c id infoRc).2.1, hkeeps rfl] at hi
      omega
    · obtain ⟨hsvc, _, _⟩ := linkUp_failed t c id err infoRc herr
      rw [hsvc] at hd hi
      rw [noteConnected, if_neg herr]
      exact h.waits d hd i hi
  · obtain ⟨haddr, hans⟩ := noteConnected_replies g c err
    intro s hs
    simp only [haddr, hans] at hs ⊢
    exact h.answered s hs

theorem replies_disconnected {t : Tag} {g : Ledger} {c : Conn} {io : DisconnectIo}
    (h : RepliesKept (t, g)) : RepliesKept (linkDown t c io, g) := by
  obtain ⟨_, hlen, _, hfollow, _⟩ := linkDown_dialogue t c io
  refine ⟨?_, h.answered⟩
  intro d hd i hi
  simp only [hfollow, hlen] at hd hi ⊢
  split_ifs at hd
  exact h.waits d hd i hi

theorem replies_write {t : Tag} {g : Ledger} {c : Conn} {buf : List UInt8} {offset : Nat}
    (h : RepliesKept (t, g)) (hkeeps : KeepsReplies (t, g) (.write c buf offset)) :
    RepliesKept ((writeIncomingChar t buf offset).1, noteWrite g c buf offset) := by
  obtain ⟨hfollow, _, _, _, _, _, _⟩ := write_same t buf offset
  obtain ⟨writer, hnote⟩ := noteWrite_frame g c buf offset
  constructor
  · intro d hd
    simp only [hfollow] at hd
    have hown : offset + buf.length ≤ CUSTOM_MAX_DATA_LEN → c = d ∧ offset ≤ t.svc.write_len := by
      intro hfits
      obtain ⟨hc, hgap⟩ := hkeeps hfits (by simp [hd])
      exact ⟨Option.some.inj (hc.symm.trans hd), hgap⟩
    have hwrote := wrote_write hown (h.waits d hd)
    simp only [hnote] at hwrote ⊢
    exact hwrote
  · rw [hnote]
    exact h.answered

/-- While the events keep the replies in their sessions, no byte of a reply leaves its
session, and it goes on like that. -/
theorem replies_next (p : Tag × Ledger) (e : Event) (h : RepliesKept p)
    (hkeeps : KeepsReplies p e) : RepliesStay p e ∧ RepliesKept (watched.next p e) := by
  obtain ⟨t, g⟩ := p
  change RepliesStay (t, g) e ∧ RepliesKept (next t e, note g t e)
  by_cases hq : Quiet e
  · rw [note_quiet g t e hq]
    refine ⟨?_, replies_quiet hq h⟩
    cases e with
    | read c len offset => exact read_stays h hkeeps
    | _ => first | exact trivial | exact False.elim hq
  cases e with
  | connected c id err infoRc => exact ⟨trivial, replies_connected h hkeeps⟩
  | disconnected c io => exact ⟨trivial, replies_disconnected h⟩
  | write c buf offset => exact ⟨trivial, replies_write h hkeeps⟩
  | parseAndReply io =>
    refine ⟨?_, repliesKept_run t g io h⟩
    intro c data hsent
    obtain ⟨hcur, hne⟩ := executes_some (parse_delivery t c io hsent)
    exact ⟨hne, h.waits c hcur⟩
  | _ => exact absurd trivial hq

/-- Along a run whose events keep the replies in their sessions, every byte that goes out to
a connection belongs to the reply to a frame that it wrote in its present session. -/
theorem replies_stay_in_the_session_that_asked (t : Tag) (es : List Event)
    (h : system.Run t es) (hkeeps : watched.Steps KeepsReplies (t, {}) es) :
    watched.Steps RepliesStay (t, {}) es := by
  obtain ⟨⟨board, nvs, retained, io, hboot⟩, _⟩ := h
  have hfresh : Fresh t := hboot ▸ boot_fresh board nvs retained io
  have h0 : RepliesKept (t, {}) := by
    refine ⟨fun c hc => ?_, fun s hs => ?_⟩
    · simp only [hfresh.svc] at hc
      cases hc
    · cases hs
  exact (runs.System.steps_of_invariant (fun p e hp hk => replies_next p e hp hk) h0 hkeeps).1

theorem a_session_reads_its_own_reply :
    watched.Steps RepliesStay (factoryTag, {})
      [.customStart 0, .connected 0 2 0 0, .cccdChanged 0 1, .write 0 loginFrame 0,
        .parseAndReply quietRun, .read 0 240 0, .disconnected 0 quietIo] :=
  replies_stay_in_the_session_that_asked factoryTag _
    ⟨factoryTag_starts, by decide +kernel⟩ (by decide +kernel)

/-- A Vision session ends, a Fast Pair link comes up and reads the notify characteristic: it
gets the reply of the session before. -/
theorem a_reply_is_read_after_its_session :
    ¬ ∀ (t : Tag) (es : List Event), system.Run t es →
      watched.Steps RepliesStay (t, {}) es := by
  intro h
  have hsteps := h factoryTag
    [.customStart 0, .connected 0 2 0 0, .write 0 loginFrame 0, .parseAndReply quietRun,
      .disconnected 0 quietIo, .connected 1 1 0 0, .read 1 240 0]
    ⟨factoryTag_starts, by decide +kernel⟩
  have hown := (hsteps.2.2.2.2.2.2.1 (by decide +kernel)).2 (some (0, 1)) (by decide +kernel)
  revert hown
  decide +kernel

end smart_track.provenance
