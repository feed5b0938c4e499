-- The two timers of a session carry no link: at its expiry a timer drops the link that the
-- service follows then. A watcher numbers the links as they come up, and notes the link for
-- which each timer was last scheduled.
import SmartTrack.Provenance

open smart_track.zephyr smart_track.production smart_track.tag smart_track.custom_services
  smart_track.sessions
open smart_track.vision_advt (getVisionId)
open smart_track.provenance (loginFrame quietRun)

namespace smart_track.session_timers

/-! ## The watcher -/

/-- A connection object can come to stand for one link after another, so links have numbers
of their own. -/
structure Ledger where
  links : Nat := 0
  linkOf : Conn → Nat := fun _ => 0
  authorisation : Option Nat := none
  connection : Option Nat := none
  dropping : Option Nat := none

/-- The call of `k_work_schedule` by a link that comes up on the Vision identity has an
effect: the authorisation timer is not pending. -/
def ArmsAuthorisation (t : Tag) (id : Nat) (infoRc : Int) : Prop :=
  infoRc = 0 ∧ (id : Int) = getVisionId t.advt ∧ t.svc.authorisation_timout_work = none

instance (t : Tag) (id : Nat) (infoRc : Int) : Decidable (ArmsAuthorisation t id infoRc) :=
  inferInstanceAs (Decidable (_ ∧ _))

/-- The frame that waits schedules the connection timer: each command of the authorised
branch does, and a login does unless the timer is pending. -/
def ArmsConnection (t : Tag) : Prop :=
  t.svc.bool_UserAuthorization = true ∨
    isLogin t = true ∧ t.svc.connection_timout_work = none

instance (t : Tag) : Decidable (ArmsConnection t) := inferInstanceAs (Decidable (_ ∨ _))

def noteConnected (g : Ledger) (t : Tag) (c : Conn) (id err : Nat) (infoRc : Int) : Ledger :=
  if err = 0 then
    { g with
      links := g.links + 1
      linkOf := Function.update g.linkOf c (g.links + 1)
      authorisation :=
        if ArmsAuthorisation t id infoRc then some (g.links + 1) else g.authorisation }
  else
    g

/-- A frame is executed for the link that the service follows. -/
def noteRun (g : Ledger) (t : Tag) : Ledger :=
  match executes t with
  | none => g
  | some c => if ArmsConnection t then { g with connection := some (g.linkOf c) } else g

/-- A timer expires. While the handler sleeps, it works for the link of the timer. -/
def noteExpiry (g : Ledger) (t : Tag) (armed : Option Nat) : Ledger :=
  { g with dropping := if t.svc.current_conn = none then none else armed }

def note (g : Ledger) (t : Tag) : Event → Ledger
  | .connected c id err infoRc => noteConnected g t c id err infoRc
  | .parseAndReply _ => noteRun g t
  | .authorisationTimeout => noteExpiry g t g.authorisation
  | .connectionTimeout => noteExpiry g t g.connection
  | .wake _ => { g with dropping := none }
  | _ => g

def watched : runs.System (Tag × Ledger) Event := system.watch {} note

instance (p : Tag × Ledger) (e : Event) : Decidable (watched.allowed p e) :=
  inferInstanceAs (Decidable (Allowed p.1 e))

/-! ## The law -/

/-- The connection that the handler has the host drop, as soon as it has slept. -/
def requestsDrop (t : Tag) (e : Event) : Option Conn :=
  match (next t e).doze with
  | some (.disconnecting c _) => some c
  | _ => none

/-- A timer drops a Vision link, the one for which it was last scheduled: that is the link
when it expires, and still when the handler has slept. The authorisation timer misses no such
link. -/
def DropsItsLink (p : Tag × Ledger) : Event → Prop
  | .authorisationTimeout =>
    (∀ c, requestsDrop p.1 .authorisationTimeout = some c →
      OnVision p.1 c ∧ p.2.authorisation = some (p.2.linkOf c)) ∧
    ∀ c, p.1.host.link c ≠ none → p.2.authorisation = some (p.2.linkOf c) →
      requestsDrop p.1 .authorisationTimeout = some c
  | .connectionTimeout =>
    ∀ c, requestsDrop p.1 .connectionTimeout = some c →
      OnVision p.1 c ∧ p.2.connection = some (p.2.linkOf c)
  | .wake _ =>
    ∀ n, p.2.dropping = some n →
      ∃ c, p.1.doze = some (.disconnecting c .done) ∧ p.2.linkOf c = n ∧
        (p.1.host.link c ≠ none → OnVision p.1 c)
  | _ => True

/-- No link has come up since the timer was scheduled. For the connection timer, the link is
on the Vision identity; and it does not matter while the service follows no link, for the
authorisation timer if its link is gone. -/
def NotOvertaken (p : Tag × Ledger) : Event → Prop
  | .authorisationTimeout =>
    p.2.authorisation = some p.2.links ∨
      p.1.svc.current_conn = none ∧
        ∀ c, p.1.host.link c ≠ none → p.2.authorisation ≠ some (p.2.linkOf c)
  | .connectionTimeout =>
    ∀ c, p.1.svc.current_conn = some c → OnVision p.1 c ∧ p.2.connection = some p.2.links
  | _ => True

instance (p : Tag × Ledger) (e : Event) : Decidable (DropsItsLink p e) := by
  apply Event.casesOn (motive := fun e => Decidable (DropsItsLink p e)) e
  all_goals
    intros
    unfold DropsItsLink
    infer_instance

instance (p : Tag × Ledger) (e : Event) : Decidable (NotOvertaken p e) := by
  apply Event.casesOn (motive := fun e => Decidable (NotOvertaken p e)) e
  all_goals
    intros
    unfold NotOvertaken
    infer_instance

/-! ## What schedules a timer

The notes miss no scheduling: a timer that is pending was scheduled for a link that they
know. -/

/-- What is pending in the second was pending in the first. -/
structure NoneScheduled (t u : Tag) : Prop where
  authorisation : u.svc.authorisation_timout_work ≠ none → t.svc.authorisation_timout_work ≠ none
  connection : u.svc.connection_timout_work ≠ none → t.svc.connection_timout_work ≠ none

theorem NoneScheduled.trans {t u v : Tag} (h : NoneScheduled t u) (k : NoneScheduled u v) :
    NoneScheduled t v :=
  ⟨fun hv => h.authorisation (k.authorisation hv), fun hv => h.connection (k.connection hv)⟩

theorem SameButDoze.noneScheduled {t u : Tag} (h : SameButDoze t u) : NoneScheduled t u := by
  obtain ⟨refs, doze, rfl⟩ := h
  exact ⟨id, id⟩

theorem noneScheduled_fresh {t u : Tag} (h : Fresh u) : NoneScheduled t u := by
  constructor <;> simp [h.svc]

/-- No command of the authorised branch touches a timer. -/
theorem authorisedCommand_timers (t : Tag) (f : Frame) :
    (authorisedCommand t f).1.svc.authorisation_timout_work = t.svc.authorisation_timout_work ∧
      (authorisedCommand t f).1.svc.connection_timout_work = t.svc.connection_timout_work := by
  unfold authorisedCommand
  simp only
  split
  all_goals try split
  all_goals exact ⟨rfl, rfl⟩

/-- After the command the handler only cancels. -/
theorem handleFrame_timers (t : Tag) (c : Conn) (f : Frame) (io : ParseIo) :
    NoneScheduled (command t f).1 (handleFrame t c f io).1 := by
  have hsend : NoneScheduled (command t f).1 (bleCustomServiceSendNotification (command t f).1 c
      (command t f).2.local_reply_buf io.notify).1 := by
    unfold bleCustomServiceSendNotification
    simp only
    split_ifs <;> exact ⟨id, id⟩
  have hend : ∀ u, NoneScheduled u
      (endOfRun (flushDynamic (flushConfig u io.configRc) io.dynamicRc) (command t f).2) := by
    intro u
    unfold endOfRun flushDynamic flushConfig
    split_ifs <;> exact ⟨id, by first | exact id | exact fun h => absurd rfl h⟩
  have hunref : ∀ u, NoneScheduled u (btConnUnref u c) := fun u => ⟨id, id⟩
  exact hsend.trans ((hunref _).trans (hend _))

/-- A command never schedules the authorisation timer. -/
theorem command_authorisation_timer (t : Tag) (f : Frame)
    (h : (command t f).1.svc.authorisation_timout_work ≠ none) :
    t.svc.authorisation_timout_work ≠ none := by
  unfold command loginCommand at h
  split_ifs at h
  · exact absurd rfl h
  · exact absurd rfl h
  · exact h
  · rw [(authorisedCommand_timers _ f).1] at h
    exact h

/-- The connection timer is scheduled by an authorised command or a login. -/
theorem command_connection_timer (t : Tag) (f : Frame)
    (h : (command t f).1.svc.connection_timout_work ≠ none) :
    t.svc.connection_timout_work ≠ none ∨ t.svc.bool_UserAuthorization = true ∨
      f 0 = PROVIDE_PASSWORD ∧ passwordMatches t f = true := by
  unfold command loginCommand at h
  split_ifs at h with hauth hid hpass
  · exact Or.inl h
  · exact Or.inr (Or.inr ⟨not_not.mp hid, hpass⟩)
  · exact Or.inl h
  · exact Or.inr (Or.inl (by simpa using hauth))

theorem parse_timers (t : Tag) (io : ParseIo) :
    let u := (bleParseAndReplyWorkHandler t io).1
    (u.svc.authorisation_timout_work ≠ none → t.svc.authorisation_timout_work ≠ none) ∧
      (u.svc.connection_timout_work ≠ none →
        t.svc.connection_timout_work ≠ none ∨ executes t ≠ none ∧ ArmsConnection t) := by
  cases hex : executes t with
  | none =>
    rw [parse_idle t io hex]
    exact ⟨id, Or.inl⟩
  | some c =>
    rw [parse_busy t c io hex]
    have hrun := handleFrame_timers (btConnRef (takeFrame t) c) c (takenFrame t) io
    refine ⟨fun hu => ?_, fun hu => ?_⟩
    · exact command_authorisation_timer (btConnRef (takeFrame t) c) _ (hrun.authorisation hu)
    by_cases hpend : t.svc.connection_timout_work = none
    · refine Or.inr ⟨Option.some_ne_none c, ?_⟩
      rcases command_connection_timer _ _ (hrun.connection hu) with hold | hauth | ⟨hid, hpass⟩
      · exact absurd hpend hold
      · exact Or.inl hauth
      · have hmatches : passwordMatches t (takenFrame t) = true := hpass
        exact Or.inr ⟨by simp [isLogin, hid, hmatches], hpend⟩
    · exact Or.inl hpend

theorem connected_timers (t : Tag) (c : Conn) (id err : Nat) (infoRc : Int) :
    let u := custom_services.connected t c id err infoRc
    u.svc.connection_timout_work = t.svc.connection_timout_work ∧
      u.svc.authorisation_timout_work =
        if err = 0 ∧ infoRc = 0 ∧ (id : Int) = getVisionId t.advt then
          kWorkSchedule t.svc.authorisation_timout_work (K_SECONDS AUTHO_TOUT_TIME_SEC)
        else t.svc.authorisation_timout_work := by
  unfold custom_services.connected
  by_cases herr : err = 0
  · by_cases hinfo : infoRc = 0
    · by_cases hv : (id : Int) = getVisionId t.advt
      · simp [herr, hinfo, hv, btConnRef]
      · simp [herr, hinfo, hv, btConnRef]
    · simp [herr, hinfo, btConnRef]
  · simp [herr]

/-- A link that comes up schedules the authorisation timer just when it is noted for it. -/
theorem linkUp_timers (t : Tag) (c : Conn) (id err : Nat) (infoRc : Int) :
    (linkUp t c id err infoRc).svc.connection_timout_work = t.svc.connection_timout_work ∧
      (linkUp t c id err infoRc).svc.authorisation_timout_work =
        if err = 0 ∧ ArmsAuthorisation t id infoRc then some (K_SECONDS AUTHO_TOUT_TIME_SEC)
        else t.svc.authorisation_timout_work := by
  unfold linkUp ArmsAuthorisation
  simp only [connected_timers, accepted_Vision_id]
  refine ⟨trivial, ?_⟩
  by_cases hpend : t.svc.authorisation_timout_work = none
  · simp [hpend, kWorkSchedule]
  · obtain ⟨ms, hms⟩ := Option.ne_none_iff_exists'.mp hpend
    simp [hms, kWorkSchedule]

theorem linkDown_timers (t : Tag) (c : Conn) (io : DisconnectIo) :
    NoneScheduled t (linkDown t c io) := by
  have hrelease : ∀ u, (releaseConn u c).svc.authorisation_timout_work =
      u.svc.authorisation_timout_work ∧
      (releaseConn u c).svc.connection_timout_work = u.svc.connection_timout_work := by
    intro u
    unfold releaseConn
    split <;> exact ⟨rfl, rfl⟩
  rw [linkDown_branch]
  simp only
  split_ifs
  · exact ⟨fun h => absurd rfl h, fun h => absurd rfl h⟩
  · constructor
    · rw [(hrelease _).1]
      exact id
    · rw [(hrelease _).2]
      exact id

/-- The service schedules its timers nowhere else. -/
theorem noneScheduled_next (t : Tag) (e : Event) (hup : ∀ c id err infoRc,
    e ≠ .connected c id err infoRc) (hrun : ∀ io, e ≠ .parseAndReply io) :
    NoneScheduled t (next t e) := by
  cases e with
  | connected c id err infoRc => exact absurd rfl (hup c id err infoRc)
  | parseAndReply io => exact absurd rfl (hrun io)
  | disconnected c io => exact linkDown_timers t c io
  | write c buf offset =>
    rw [next]
    unfold writeIncomingChar
    split <;> exact ⟨id, id⟩
  | authorisationTimeout =>
    have hclear : NoneScheduled t
        { t with svc := { t.svc with authorisation_timout_work := none } } :=
      ⟨fun h => absurd rfl h, id⟩
    exact hclear.trans (SameButDoze.noneScheduled (initiateDisconnect_keeps .done _))
  | connectionTimeout =>
    have hclear : NoneScheduled t
        { t with svc := { t.svc with connection_timout_work := none } } :=
      ⟨id, fun h => absurd rfl h⟩
    exact hclear.trans (SameButDoze.noneScheduled (initiateDisconnect_keeps .done _))
  | initiateDisconnect => exact SameButDoze.noneScheduled (initiateDisconnect_keeps .done t)
  | wake io =>
    rcases wake_keeps t io with hk | hk
    · exact SameButDoze.noneScheduled hk
    · rw [next, hk]
      exact noneScheduled_fresh (sysReboot_fresh t io)
  | toolMsg data len io bootIo =>
    rw [next]
    by_cases hreset : ResetsTag data len
    · rw [toolMsg_reset t io bootIo hreset]
      exact noneScheduled_fresh (sysReboot_fresh t bootIo)
    · obtain ⟨tool, storage, time, heq⟩ := toolMsg_frame t io bootIo hreset
      rw [heq]
      exact ⟨id, id⟩
  | _ => exact ⟨id, id⟩

/-- The notes know the link of each timer that is pending. -/
structure PendingNoted (p : Tag × Ledger) : Prop where
  authorisation : p.1.svc.authorisation_timout_work ≠ none → p.2.authorisation ≠ none
  connection : p.1.svc.connection_timout_work ≠ none → p.2.connection ≠ none

theorem pendingNoted_connected {t : Tag} {g : Ledger} {c : Conn} {id err : Nat} {infoRc : Int}
    (h : PendingNoted (t, g)) :
    PendingNoted (linkUp t c id err infoRc, noteConnected g t c id err infoRc) := by
  obtain ⟨hconnection, hauthorisation⟩ := linkUp_timers t c id err infoRc
  constructor
  · simp only [hauthorisation, noteConnected]
    intro hpend
    by_cases herr : err = 0
    · by_cases harms : ArmsAuthorisation t id infoRc
      · simp [herr, harms]
      · rw [if_neg (fun hboth => harms hboth.2)] at hpend
        simpa [herr, harms] using h.authorisation hpend
    · rw [if_neg (fun hboth => herr hboth.1)] at hpend
      simpa [herr] using h.authorisation hpend
  · simp only [hconnection, noteConnected]
    intro hpend
    split_ifs <;> exact h.connection hpend

theorem pendingNoted_run {t : Tag} {g : Ledger} (io : ParseIo) (h : PendingNoted (t, g)) :
    PendingNoted ((bleParseAndReplyWorkHandler t io).1, noteRun g t) := by
  obtain ⟨hauthorisation, hconnection⟩ := parse_timers t io
  have hkeep : (noteRun g t).authorisation = g.authorisation := by
    unfold noteRun
    split
    · rfl
    · split_ifs <;> rfl
  constructor
  · intro hpend
    rw [hkeep]
    exact h.authorisation (hauthorisation hpend)
  · intro hpend
    simp only [noteRun]
    split
    · rename_i hidle
      rcases hconnection hpend with hold | ⟨hexec, _⟩
      · exact h.connection hold
      · exact absurd hidle hexec
    · split_ifs with harms
      · exact Option.some_ne_none _
      · rcases hconnection hpend with hold | ⟨_, hnow⟩
        · exact h.connection hold
        · exact absurd hnow harms

theorem pendingNoted_next {p : Tag × Ledger} (e : Event) (h : PendingNoted p) :
    PendingNoted (watched.next p e) := by
  obtain ⟨t, g⟩ := p
  by_cases hup : ∃ c id err infoRc, e = .connected c id err infoRc
  · obtain ⟨c, id, err, infoRc, rfl⟩ := hup
    exact pendingNoted_connected h
  by_cases hrun : ∃ io, e = .parseAndReply io
  · obtain ⟨io, rfl⟩ := hrun
    exact pendingNoted_run io h
  have hnone := noneScheduled_next t e
    (fun c id err infoRc he => hup ⟨c, id, err, infoRc, he⟩) (fun io he => hrun ⟨io, he⟩)
  have hkeep : (note g t e).authorisation = g.authorisation ∧
      (note g t e).connection = g.connection := by
    cases e with
    | connected c id err infoRc => exact absurd ⟨c, id, err, infoRc, rfl⟩ hup
    | parseAndReply io => exact absurd ⟨io, rfl⟩ hrun
    | _ => exact ⟨rfl, rfl⟩
  constructor
  · intro hpend
    exact hkeep.1 ▸ h.authorisation (hnone.authorisation hpend)
  · intro hpend
    exact hkeep.2 ▸ h.connection (hnone.connection hpend)

/-- In every state of a run the notes know the link of each timer that is pending. -/
theorem pending_timers_are_noted (t : Tag) (es : List Event) (h : system.Run t es) :
    watched.States PendingNoted (t, {}) es := by
  obtain ⟨⟨board, nvs, retained, io, hboot⟩, _⟩ := h
  have hfresh : Fresh t := hboot ▸ boot_fresh board nvs retained io
  have h0 : PendingNoted (t, {}) := by
    constructor <;> simp [hfresh.svc]
  exact runs.System.states_of_invariant (fun _ e hp _ => pendingNoted_next e hp) (fun _ hp => hp)
    h0 (runs.System.steps_trivial _ es)

/-! ## The numbers of the links -/

/-- The link that the service follows is the last that came up, and no other live link is
that one. The authorisation timer was scheduled for a link on the Vision identity. -/
structure Numbered (t : Tag) (g : Ledger) : Prop where
  linkOf_le : ∀ c, g.linkOf c ≤ g.links
  armed_le : ∀ n, g.authorisation = some n → n ≤ g.links
  follows : ∀ c, t.svc.current_conn = some c ↔ t.host.link c ≠ none ∧ g.linkOf c = g.links
  onVision : ∀ c, t.host.link c ≠ none → g.authorisation = some (g.linkOf c) → OnVision t c

/-- If no link came up since the authorisation timer was scheduled, it was scheduled for the
link that the service follows. -/
theorem Numbered.owns {t : Tag} {g : Ledger} {c : Conn} (h : Numbered t g)
    (howner : g.authorisation = some g.links) (hc : t.svc.current_conn = some c) :
    OnVision t c ∧ g.authorisation = some (g.linkOf c) := by
  obtain ⟨hup, hlast⟩ := (h.follows c).mp hc
  have howns : g.authorisation = some (g.linkOf c) := by
    rw [hlast]
    exact howner
  exact ⟨h.onVision c hup howns, howns⟩

/-- The notes on the numbers are the same in both. -/
structure SameNumbers (g g' : Ledger) : Prop where
  links : g'.links = g.links
  linkOf : g'.linkOf = g.linkOf
  authorisation : g'.authorisation = g.authorisation

/-- Only a link that comes up changes the numbers. -/
theorem note_numbers (g : Ledger) (t : Tag) (e : Event)
    (hup : ∀ c id infoRc, e ≠ .connected c id 0 infoRc) : SameNumbers g (note g t e) := by
  cases e with
  | connected c id err infoRc =>
    have herr : err ≠ 0 := by
      rintro rfl
      exact hup c id infoRc rfl
    rw [note, noteConnected, if_neg herr]
    exact ⟨rfl, rfl, rfl⟩
  | parseAndReply io =>
    rw [note]
    unfold noteRun
    split
    · exact ⟨rfl, rfl, rfl⟩
    · split_ifs <;> exact ⟨rfl, rfl, rfl⟩
  | _ => exact ⟨rfl, rfl, rfl⟩

/-- After a boot there is no link. -/
theorem numbered_fresh {t : Tag} {g : Ledger} (hf : Fresh t) (hle : ∀ c, g.linkOf c ≤ g.links)
    (harmed : ∀ n, g.authorisation = some n → n ≤ g.links) : Numbered t g := by
  have hlink : ∀ c, t.host.link c = none := by
    intro c
    rw [hf.host]
  refine ⟨hle, harmed, fun c => ?_, fun c hc => absurd (hlink c) hc⟩
  rw [hf.svc]
  simp [hlink c]

/-- The numbers go on with the links. -/
theorem numbered_of {t u : Tag} {g g' : Ledger} (h : Numbered t g) (hg : SameNumbers g g')
    (hcur : u.svc.current_conn = t.svc.current_conn) (hlink : u.host.link = t.host.link)
    (hid : getVisionId u.advt = getVisionId t.advt) : Numbered u g' := by
  refine ⟨?_, ?_, ?_, ?_⟩
  · rw [hg.linkOf, hg.links]
    exact h.linkOf_le
  · rw [hg.authorisation, hg.links]
    exact h.armed_le
  · rw [hg.linkOf, hg.links, hcur, hlink]
    exact h.follows
  · rw [hg.linkOf, hg.authorisation, hlink]
    intro c hc harmed
    exact (onVision_of (by rw [hlink]) hid).mpr (h.onVision c hc harmed)

/-- A link that comes up is on the Vision identity if the authorisation timer is scheduled
for it, and has another number than the link of a timer that is pending. -/
theorem armed_linkUp {t : Tag} {g : Ledger} {c d : Conn} {id : Nat} {infoRc : Int}
    (h : Numbered t g) (hd : (linkUp t c id 0 infoRc).host.link d ≠ none)
    (harmed : (if ArmsAuthorisation t id infoRc then some (g.links + 1) else g.authorisation) =
      some (Function.update g.linkOf c (g.links + 1) d)) :
    OnVision (linkUp t c id 0 infoRc) d := by
  have hlink := (linkUp_links t c id infoRc).2.1
  have hid := linkUp_Vision_id t c id 0 infoRc
  by_cases hdc : d = c
  · subst hdc
    rw [Function.update_self] at harmed
    split_ifs at harmed with harms
    · unfold OnVision
      rw [hlink, hid, Function.update_self]
      exact harms.2.1
    · have hle := h.armed_le _ harmed
      omega
  · have hkeep : (linkUp t c id 0 infoRc).host.link d = t.host.link d := by
      rw [hlink, Function.update_of_ne hdc]
    rw [Function.update_of_ne hdc] at harmed
    split_ifs at harmed with harms
    · have hle := h.linkOf_le d
      simp only [Option.some.injEq] at harmed
      omega
    · exact (onVision_of hkeep hid).mpr (h.onVision d (hkeep ▸ hd) harmed)

theorem numbered_linkUp {t : Tag} {g : Ledger} {c : Conn} {id : Fin CONFIG_BT_ID_MAX} {infoRc : Int}
    (h : Numbered t g) : Numbered (linkUp t c id 0 infoRc) (noteConnected g t c id 0 infoRc) := by
  obtain ⟨hcur, hlink, _, _⟩ := linkUp_links t c id infoRc
  rw [noteConnected, if_pos rfl]
  refine ⟨?_, ?_, ?_, ?_⟩
  · intro d
    simp only [Function.update_apply]
    split_ifs
    · exact le_refl _
    · exact Nat.le_succ_of_le (h.linkOf_le d)
  · intro n hn
    simp only at hn
    split_ifs at hn
    · cases hn
      exact le_refl _
    · exact Nat.le_succ_of_le (h.armed_le n hn)
  · intro d
    rw [hcur, hlink]
    simp only [Function.update_apply, Option.some.injEq]
    by_cases hdc : d = c
    · simp [hdc]
    · have hle := h.linkOf_le d
      rw [if_neg hdc, if_neg hdc]
      refine iff_of_false (Ne.symm hdc) (fun hlast => ?_)
      omega
  · exact fun d => armed_linkUp h

theorem numbered_linkDown {t : Tag} {g : Ledger} {c : Conn} {io : DisconnectIo}
    (h : Numbered t g) : Numbered (linkDown t c io) g := by
  obtain ⟨_, _, _, hcur, hlink⟩ := linkDown_dialogue t c io
  have hid := (linkDown_identity t c io).2.1
  refine ⟨h.linkOf_le, h.armed_le, ?_, ?_⟩
  · intro d
    rw [hcur, hlink]
    simp only [Function.update_apply]
    have hd := h.follows d
    by_cases hdc : d = c
    · subst hdc
      by_cases hfollow : t.svc.current_conn = some d <;> simp [hfollow]
    · rw [if_neg hdc, ← hd]
      by_cases hfollow : t.svc.current_conn = some c
      · simp [hfollow, Ne.symm hdc]
      · rw [if_neg hfollow]
  · intro d hd harmed
    rw [hlink] at hd
    by_cases hdc : d = c
    · subst hdc
      simp at hd
    · have hkeep : (linkDown t c io).host.link d = t.host.link d := by
        rw [hlink, Function.update_of_ne hdc]
      rw [Function.update_of_ne hdc] at hd
      exact (onVision_of hkeep hid).mpr (h.onVision d hd harmed)

theorem numbered_next {t : Tag} {g : Ledger} (e : Event) (h : Numbered t g) :
    Numbered (next t e) (note g t e) := by
  by_cases hup : ∃ c id infoRc, e = .connected c id 0 infoRc
  · obtain ⟨c, id, infoRc, rfl⟩ := hup
    exact numbered_linkUp h
  have hg := note_numbers g t e (fun c id infoRc he => hup ⟨c, id, infoRc, he⟩)
  by_cases hq : Quiet e
  · rcases quiet_next t e hq with hs | hf
    · exact numbered_of h hg hs.current_conn hs.link hs.vision_id
    · refine numbered_fresh hf ?_ ?_
      · rw [hg.linkOf, hg.links]
        exact h.linkOf_le
      · rw [hg.authorisation, hg.links]
        exact h.armed_le
  cases e with
  | connected c id err infoRc =>
    have herr : err ≠ 0 := by
      rintro rfl
      exact hup ⟨c, id, infoRc, rfl⟩
    obtain ⟨hsvc, hhost, _⟩ := linkUp_failed t c id err infoRc herr
    exact numbered_of h hg (congrArg _ hsvc) (congrArg _ hhost)
      (linkUp_Vision_id t c id err infoRc)
  | disconnected c io => exact numbered_linkDown h
  | write c buf offset =>
    obtain ⟨hcur, _, _, _, hhost, _, hadvt⟩ := write_same t buf offset
    exact numbered_of h hg hcur (congrArg _ hhost) (congrArg _ hadvt)
  | parseAndReply io =>
    have hrun := parse_afterRun t io
    exact numbered_of h hg hrun.current_conn (congrArg _ hrun.host) hrun.vision_id
  | _ => exact absurd trivial hq

/-! ## The link that is dropped -/

theorem requestsDrop_initiate {t u : Tag} {e : Event}
    (h : next t e = bleCustomServiceInitiateDisconnect u .done) :
    requestsDrop t e = u.svc.current_conn := by
  unfold requestsDrop
  rw [h]
  unfold bleCustomServiceInitiateDisconnect disconnectThen
  cases u.svc.current_conn <;> rfl

/-- At its expiry a timer has the link dropped that the service follows. -/
theorem requestsDrop_timeouts (t : Tag) :
    requestsDrop t .authorisationTimeout = t.svc.current_conn ∧
      requestsDrop t .connectionTimeout = t.svc.current_conn :=
  ⟨requestsDrop_initiate
      (u := { t with svc := { t.svc with authorisation_timout_work := none } }) rfl,
    requestsDrop_initiate
      (u := { t with svc := { t.svc with connection_timout_work := none } }) rfl⟩

/-- While the handler of a timer sleeps, the connection that it holds keeps to the link of
the timer. -/
def Sleeps (t : Tag) (g : Ledger) : Prop :=
  ∀ n, g.dropping = some n → ∃ c, t.doze = some (.disconnecting c .done) ∧ g.linkOf c = n ∧
    (t.host.link c ≠ none → OnVision t c)

theorem sleeps_none {t : Tag} {g : Ledger} (h : g.dropping = none) : Sleeps t g := by
  intro n hn
  rw [h] at hn
  cases hn

/-- No handler sleeps, so none works for a timer. -/
theorem Sleeps.awake {t : Tag} {g : Ledger} (h : Sleeps t g) (hdoze : t.doze = none) :
    g.dropping = none := by
  cases hd : g.dropping with
  | none => rfl
  | some n =>
    obtain ⟨c, hc, _⟩ := h n hd
    rw [hdoze] at hc
    cases hc

theorem sleeps_of {t u : Tag} {g : Ledger} (h : Sleeps t g) (hdoze : u.doze = t.doze)
    (hlink : ∀ c, u.host.link c = t.host.link c ∨ u.host.link c = none)
    (hid : getVisionId u.advt = getVisionId t.advt) : Sleeps u g := by
  intro n hn
  obtain ⟨c, hc, hnum, hvision⟩ := h n hn
  refine ⟨c, hdoze.trans hc, hnum, fun hup => ?_⟩
  rcases hlink c with hsame | hgone
  · exact (onVision_of hsame hid).mpr (hvision (hsame ▸ hup))
  · exact absurd hgone hup

/-- The connection that the handler holds is not free, so no other link comes up on it. -/
theorem sleeps_linkUp {t : Tag} {g : Ledger} {lost : Conn → Nat} {c : Conn}
    {id : Fin CONFIG_BT_ID_MAX} {infoRc : Int} (hrefs : Counted lost t) (h : Sleeps t g)
    (hfree : t.host.refs c = 0) :
    Sleeps (linkUp t c id 0 infoRc) (noteConnected g t c id 0 infoRc) := by
  obtain ⟨_, hlink, _, hdoze⟩ := linkUp_links t c id infoRc
  have hid := linkUp_Vision_id t c id 0 infoRc
  rw [noteConnected, if_pos rfl]
  intro n hn
  obtain ⟨d, hd, hnum, hvision⟩ := h n hn
  have hdc : d ≠ c := by
    rintro rfl
    exact hrefs.refs_ne_zero hd hfree
  have hkeep : (linkUp t c id 0 infoRc).host.link d = t.host.link d := by
    rw [hlink, Function.update_of_ne hdc]
  refine ⟨d, hdoze.trans hd, ?_, fun hup => (onVision_of hkeep hid).mpr (hvision (hkeep ▸ hup))⟩
  simp only [Function.update_of_ne hdc]
  exact hnum

/-- A timer that expires with its own link followed starts to sleep for that link. -/
theorem sleeps_expiry {t u : Tag} {g : Ledger} {armed : Option Nat}
    (hdoze : ∀ c, t.svc.current_conn = some c → u.doze = some (.disconnecting c .done))
    (hlink : u.host.link = t.host.link) (hid : getVisionId u.advt = getVisionId t.advt)
    (harmed : ∀ c, t.svc.current_conn = some c → OnVision t c ∧ armed = some (g.linkOf c)) :
    Sleeps u (noteExpiry g t armed) := by
  cases hcur : t.svc.current_conn with
  | none => exact sleeps_none (by rw [noteExpiry, hcur, if_pos rfl])
  | some c =>
    obtain ⟨hvision, howner⟩ := harmed c hcur
    intro n hn
    simp only [noteExpiry, hcur, reduceCtorEq, if_false, howner, Option.some.injEq] at hn
    exact ⟨c, hdoze c hcur, hn, fun _ => (onVision_of (by rw [hlink]) hid).mpr hvision⟩

theorem initiateDisconnect_doze {t : Tag} {c : Conn} (h : t.svc.current_conn = some c) :
    (bleCustomServiceInitiateDisconnect t .done).doze = some (.disconnecting c .done) := by
  unfold bleCustomServiceInitiateDisconnect disconnectThen
  rw [h]

theorem noteRun_dropping (g : Ledger) (t : Tag) : (noteRun g t).dropping = g.dropping := by
  unfold noteRun
  split
  · rfl
  · split_ifs <;> rfl

theorem linkDown_doze (t : Tag) (c : Conn) (io : DisconnectIo) :
    (linkDown t c io).doze = t.doze := by
  rw [(linkDown_links t c io).2.2]
  unfold releaseConn
  split <;> rfl

/-! ## One event -/

structure Watched (p : Tag × Ledger) : Prop where
  numbered : Numbered p.1 p.2
  counted : ∃ lost, Counted lost p.1
  sleeps : Sleeps p.1 p.2

/-- While no timer is overtaken, the handler of each sleeps for the link of the timer. -/
theorem sleeps_next {t : Tag} {g : Ledger} {e : Event} (h : Watched (t, g)) (ha : Allowed t e)
    (hnot : NotOvertaken (t, g) e) : Sleeps (next t e) (note g t e) := by
  obtain ⟨hnum, ⟨lost, hrefs⟩, hsleeps⟩ := h
  cases e with
  | connected c id err infoRc =>
    by_cases herr : err = 0
    · subst herr
      exact sleeps_linkUp hrefs hsleeps ha.2
    · obtain ⟨_, hhost, hdoze⟩ := linkUp_failed t c id err infoRc herr
      rw [note, noteConnected, if_neg herr]
      exact sleeps_of hsleeps hdoze (fun d => Or.inl (by rw [next, hhost]))
        (linkUp_Vision_id t c id err infoRc)
  | disconnected c io =>
    obtain ⟨hlink, hid, _⟩ := linkDown_identity t c io
    refine sleeps_of hsleeps (linkDown_doze t c io) (fun d => ?_) hid
    rw [next, hlink]
    by_cases hdc : d = c
    · exact Or.inr (by rw [hdc, Function.update_self])
    · exact Or.inl (Function.update_of_ne hdc _ _)
  | write c buf offset =>
    obtain ⟨_, _, _, _, hhost, hdoze, hadvt⟩ := write_same t buf offset
    exact sleeps_of hsleeps hdoze (fun d => Or.inl (by rw [next, hhost])) (congrArg _ hadvt)
  | parseAndReply io => exact sleeps_none ((noteRun_dropping g t).trans (hsleeps.awake ha.1))
  | authorisationTimeout =>
    have hkeeps := (initiateDisconnect_keeps .done
      { t with svc := { t.svc with authorisation_timout_work := none } }).dialogue
    refine sleeps_expiry (fun c hc => initiateDisconnect_doze hc) hkeeps.link hkeeps.vision_id ?_
    intro c hc
    rcases hnot with howner | ⟨hnone, _⟩
    · exact hnum.owns howner hc
    · exact absurd (hc.symm.trans hnone) (Option.some_ne_none c)
  | connectionTimeout =>
    have hkeeps := (initiateDisconnect_keeps .done
      { t with svc := { t.svc with connection_timout_work := none } }).dialogue
    refine sleeps_expiry (fun c hc => initiateDisconnect_doze hc) hkeeps.link hkeeps.vision_id ?_
    intro c hc
    obtain ⟨hvision, howner⟩ := hnot c hc
    refine ⟨hvision, ?_⟩
    rw [((hnum.follows c).mp hc).2]
    exact howner
  | wake io => exact sleeps_none rfl
  | initiateDisconnect => exact sleeps_none (hsleeps.awake ha)
  | toolMsg data len io bootIo => exact sleeps_none (hsleeps.awake ha.1)
  | supervisor rc => exact sleeps_none (hsleeps.awake ha)
  | customStart rc =>
    exact sleeps_of hsleeps rfl (fun _ => Or.inl rfl) (customStart_same t rc).vision_id
  | customStop rc =>
    exact sleeps_of hsleeps rfl (fun _ => Or.inl rfl) (customStop_same t rc).vision_id
  | _ => exact sleeps_of hsleeps rfl (fun _ => Or.inl rfl) rfl

theorem counted_keeps {t : Tag} {e : Event} (h : ∃ lost, Counted lost t) (ha : Allowed t e) :
    ∃ lost, Counted lost (next t e) := by
  obtain ⟨lost, hrefs⟩ := h
  by_cases hup : ∃ c id infoRc, e = .connected c id 0 infoRc
  · obtain ⟨c, id, infoRc, rfl⟩ := hup
    exact ⟨_, counted_linkUp t c id infoRc hrefs ha.2⟩
  · rcases counted_next hrefs ha (fun c id infoRc he => hup ⟨c, id, infoRc, he⟩) with hc | hf
    · exact ⟨lost, hc⟩
    · exact ⟨0, counted_fresh hf⟩

theorem watched_next {p : Tag × Ledger} {e : Event} (h : Watched p) (ha : watched.allowed p e)
    (hnot : NotOvertaken p e) : Watched (watched.next p e) :=
  ⟨numbered_next e h.numbered, counted_keeps h.counted ha, sleeps_next h ha hnot⟩

/-- A timer drops the link for which it was last scheduled, just when it is not overtaken. -/
theorem dropsItsLink_iff {p : Tag × Ledger} (e : Event) (h : Watched p) :
    DropsItsLink p e ↔ NotOvertaken p e := by
  obtain ⟨t, g⟩ := p
  obtain ⟨hnum, _, hsleeps⟩ := h
  obtain ⟨hauthorisation, hconnection⟩ := requestsDrop_timeouts t
  cases e with
  | authorisationTimeout =>
    simp only [DropsItsLink, NotOvertaken, hauthorisation]
    constructor
    · rintro ⟨hown, hmiss⟩
      cases hcur : t.svc.current_conn with
      | none =>
        refine Or.inr ⟨rfl, fun c hup howns => ?_⟩
        have hfollow := hmiss c hup howns
        rw [hcur] at hfollow
        cases hfollow
      | some c =>
        have hlast := ((hnum.follows c).mp hcur).2
        exact Or.inl (hlast ▸ (hown c hcur).2)
    · rintro (howner | ⟨hnone, hgone⟩)
      · refine ⟨fun c hc => hnum.owns howner hc, fun c hup howns => ?_⟩
        rw [howner, Option.some.injEq] at howns
        exact (hnum.follows c).mpr ⟨hup, howns.symm⟩
      · refine ⟨fun c hc => ?_, fun c hup howns => absurd howns (hgone c hup)⟩
        rw [hnone] at hc
        cases hc
  | connectionTimeout =>
    simp only [DropsItsLink, NotOvertaken, hconnection]
    refine forall₂_congr fun c hc => and_congr_right fun _ => ?_
    rw [((hnum.follows c).mp hc).2]
  | wake io => exact iff_of_true hsleeps trivial
  | _ => exact Iff.rfl

/-! ## Every run -/

/-- In a run from a boot each timer drops the Vision link for which it was last scheduled,
just when no link comes up between the scheduling and the expiry. -/
theorem timers_drop_their_link_while_none_is_overtaken (t : Tag) (es : List Event)
    (h : system.Run t es) :
    watched.Steps DropsItsLink (t, {}) es ↔ watched.Steps NotOvertaken (t, {}) es := by
  obtain ⟨⟨board, nvs, retained, io, hboot⟩, hA⟩ := h
  have hfresh : Fresh t := hboot ▸ boot_fresh board nvs retained io
  have h0 : Watched (t, {}) := by
    refine ⟨numbered_fresh hfresh (fun _ => le_refl _) ?_, ⟨0, counted_fresh hfresh⟩,
      sleeps_none rfl⟩
    intro n hn
    cases hn
  have hall : watched.Steps watched.allowed (t, {}) es :=
    (runs.System.watch_steps (P := Allowed) system ({} : Ledger) note (t, {}) es).mpr hA
  exact runs.System.steps_iff_steps (I := Watched) (fun _ e hp _ => dropsItsLink_iff e hp)
    (fun _ _ hp ha hnot => watched_next hp ha hnot) h0 hall

/-- A Vision client that does not log in is dropped, and so is one that logs in and falls
silent. -/
theorem a_single_vision_link_is_dropped_by_its_timers :
    watched.Steps DropsItsLink (factoryTag, {})
      [.customStart 0, .connected 0 2 0 0, .authorisationTimeout, .wake quietBoot,
        .disconnected 0 quietIo, .connected 1 2 0 0, .write 1 loginFrame 0, .parseAndReply quietRun,
        .connectionTimeout, .wake quietBoot, .disconnected 1 quietIo] :=
  (timers_drop_their_link_while_none_is_overtaken factoryTag _
    ⟨factoryTag_starts, by decide +kernel⟩).mpr (by decide +kernel)

/-- A Fast Pair link comes up beside a Vision link that does not log in: the authorisation
timer drops the Fast Pair link, and the Vision link stays. -/
theorem the_authorisation_timer_drops_a_fast_pair_link :
    ¬ ∀ (t : Tag) (es : List Event), system.Run t es →
      watched.Steps DropsItsLink (t, {}) es := by
  intro h
  have hsteps := h factoryTag
    [.customStart 0, .connected 0 2 0 0, .connected 1 1 0 0, .authorisationTimeout]
    ⟨factoryTag_starts, by decide +kernel⟩
  have hdrop := hsteps.2.2.2.1
  revert hdrop
  decide +kernel

end smart_track.session_timers
