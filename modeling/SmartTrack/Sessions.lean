-- The laws on the links of the custom service: what its references on the
-- connections come to, and for which links the end of a session is run.
import SmartTrack.TagSystem

open bytes smart_track.zephyr smart_track.production smart_track.tag smart_track.custom_services
open smart_track.vision_advt (getVisionId onVisionSet start_Vision_id updateInterval_Vision_id)

namespace smart_track.sessions

/-! ## The links that come up and go down -/

/-- A link that came up: the service follows it, with a reference of its own. -/
theorem linkUp_links (t : Tag) (c : Conn) (id : Nat) (infoRc : Int) :
    (linkUp t c id 0 infoRc).svc.current_conn = some c ∧
      (linkUp t c id 0 infoRc).host.link = Function.update t.host.link c (some id) ∧
      (linkUp t c id 0 infoRc).host.refs = Function.update t.host.refs c (t.host.refs c + 1) ∧
      (linkUp t c id 0 infoRc).doze = t.doze := by
  unfold linkUp custom_services.connected
  simp only [ne_eq, not_true_eq_false, if_false, if_true]
  split_ifs <;> exact ⟨rfl, rfl, rfl, rfl⟩

/-- A link that failed leaves the service as it is. -/
theorem linkUp_failed (t : Tag) (c : Conn) (id err : Nat) (infoRc : Int) (h : err ≠ 0) :
    (linkUp t c id err infoRc).svc = t.svc ∧ (linkUp t c id err infoRc).host = t.host ∧
      (linkUp t c id err infoRc).doze = t.doze := by
  unfold linkUp custom_services.connected
  rw [if_pos h, if_neg h]
  exact ⟨rfl, rfl, rfl⟩

/-- The Vision branch touches no link and no reference. -/
theorem linkDown_links (t : Tag) (c : Conn) (io : DisconnectIo) :
    let gone : Tag := { t with host := { t.host with link := Function.update t.host.link c none } }
    (linkDown t c io).svc.current_conn = (releaseConn gone c).svc.current_conn ∧
      (linkDown t c io).host = (releaseConn gone c).host ∧
      (linkDown t c io).doze = (releaseConn gone c).doze := by
  unfold linkDown custom_services.disconnected
  simp only
  split <;> exact ⟨rfl, rfl, rfl⟩

/-- The flags that the Vision file keeps on a link do not touch its identity. -/
theorem accepted_Vision_id (a : vision_advt.Advt) (id err : Nat) :
    getVisionId (vision_advt.connected
      (if onVisionSet a id err then vision_advt.linkAccepted a else a)) = getVisionId a := by
  split_ifs <;> rfl

theorem linkUp_Vision_id (t : Tag) (c : Conn) (id err : Nat) (infoRc : Int) :
    getVisionId (linkUp t c id err infoRc).advt = getVisionId t.advt := by
  rw [← accepted_Vision_id t.advt id err]
  unfold linkUp custom_services.connected
  simp only
  split_ifs <;> rfl

/-- A link that comes up ends the authorisation if it starts a Vision session. It leaves the
frame that waits and the last reply. -/
theorem linkUp_dialogue (t : Tag) (c : Conn) (id : Nat) (infoRc : Int) :
    (linkUp t c id 0 infoRc).svc.bool_UserAuthorization =
        (t.svc.bool_UserAuthorization &&
          !decide (infoRc = 0 ∧ (id : Int) = getVisionId t.advt)) ∧
      (linkUp t c id 0 infoRc).svc.write_len = t.svc.write_len ∧
      (linkUp t c id 0 infoRc).svc.notify_len = t.svc.notify_len := by
  unfold linkUp custom_services.connected
  simp only [ne_eq, not_true_eq_false, if_false, if_true, accepted_Vision_id, btConnRef]
  by_cases hinfo : infoRc = 0
  · by_cases hv : (id : Int) = getVisionId t.advt
    · simp [hinfo, hv]
    · simp [hinfo, hv]
  · simp [hinfo]

/-- A link that goes down ends the authorisation with the Vision branch. -/
theorem linkDown_dialogue (t : Tag) (c : Conn) (io : DisconnectIo) :
    (linkDown t c io).svc.bool_UserAuthorization =
        (t.svc.bool_UserAuthorization && !decide (RunsVisionBranch t)) ∧
      (linkDown t c io).svc.write_len = t.svc.write_len ∧
      (linkDown t c io).svc.notify_len = t.svc.notify_len ∧
      (linkDown t c io).svc.current_conn =
        (if t.svc.current_conn = some c then none else t.svc.current_conn) ∧
      (linkDown t c io).host.link = Function.update t.host.link c none := by
  have hruns : RunsVisionBranch
      { t with host := { t.host with link := Function.update t.host.link c none } } ↔
      RunsVisionBranch t := Iff.rfl
  unfold linkDown custom_services.disconnected releaseConn visionBranch
  by_cases hv : RunsVisionBranch t <;> by_cases hc : t.svc.current_conn = some c
  all_goals simp [hruns, hv, hc, btConnUnref]

/-! ## References -/

/-- The connection that the service follows is live. -/
def CurrentLive (t : Tag) : Prop := ∀ c, t.svc.current_conn = some c → t.host.link c ≠ none

theorem currentLive_of {t u : Tag} (h : CurrentLive t)
    (hcur : u.svc.current_conn = t.svc.current_conn) (hlink : u.host.link = t.host.link) :
    CurrentLive u := by
  intro c hc
  rw [hlink]
  exact h c (hcur.symm.trans hc)

theorem currentLive_fresh {t : Tag} (h : Fresh t) : CurrentLive t := by
  intro c hc
  rw [h.svc] at hc
  cases hc

theorem currentLive_linkDown (t : Tag) (c : Conn) (io : DisconnectIo) (h : CurrentLive t) :
    CurrentLive (linkDown t c io) := by
  obtain ⟨hcur, hhost, _⟩ := linkDown_links t c io
  intro d hd
  rw [hcur] at hd
  rw [hhost]
  unfold releaseConn at hd ⊢
  split at hd
  · cases hd
  · rename_i hne
    simp only at hd hne
    have hdc : d ≠ c := by
      rintro rfl
      exact hne hd
    rw [if_neg hne]
    simp only [Function.update_of_ne hdc]
    exact h d hd

theorem currentLive_next (t : Tag) (e : Event) (h : CurrentLive t) : CurrentLive (next t e) := by
  by_cases hq : Quiet e
  · rcases quiet_next t e hq with hs | hf
    · exact currentLive_of h hs.current_conn hs.link
    · exact currentLive_fresh hf
  cases e with
  | connected c id err infoRc =>
    by_cases herr : err = 0
    · subst herr
      obtain ⟨hcur, hlink, _, _⟩ := linkUp_links t c id infoRc
      intro d hd
      change (linkUp t c id 0 infoRc).svc.current_conn = some d at hd
      change (linkUp t c id 0 infoRc).host.link d ≠ none
      rw [hcur] at hd
      cases hd
      rw [hlink, Function.update_self]
      exact Option.some_ne_none _
    · obtain ⟨hsvc, hhost, _⟩ := linkUp_failed t c id err infoRc herr
      exact currentLive_of h (congrArg _ hsvc) (congrArg _ hhost)
  | disconnected c io => exact currentLive_linkDown t c io h
  | write c buf offset =>
    obtain ⟨hcur, _, _, _, hhost, _, _⟩ := write_same t buf offset
    exact currentLive_of h hcur (congrArg _ hhost)
  | parseAndReply io =>
    have hrun := parse_afterRun t io
    exact currentLive_of h hrun.current_conn (congrArg _ hrun.host)
  | _ => exact absurd trivial hq

/-- The reference that the service holds for its current connection. -/
def currentRef (t : Tag) (c : Conn) : Nat := if t.svc.current_conn = some c then 1 else 0

/-- The reference that a sleeping handler holds. Between two handler executions there is
none. -/
def heldBy : Option Doze → Conn → Nat
  | some (.disconnecting d _), c => if d = c then 1 else 0
  | _, _ => 0

/-- The references of the service are those of its current connection and of the handler
that sleeps, and between two handler executions none is left on a link that is gone. -/
structure RefsConserved (t : Tag) : Prop where
  counted : ∀ c, t.host.refs c = currentRef t c + heldBy t.doze c
  released : t.doze = none → ∀ c, t.host.link c = none → t.host.refs c = 0

/-- A link comes up only while the service follows no other. -/
def AloneOnConnect (t : Tag) : Event → Prop
  | .connected _ _ err _ => err = 0 → t.svc.current_conn = none
  | _ => True

instance (t : Tag) (e : Event) : Decidable (AloneOnConnect t e) := by
  apply Event.casesOn (motive := fun e => Decidable (AloneOnConnect t e)) e
  all_goals
    intros
    unfold AloneOnConnect
    infer_instance

/-- The references of a connection: that of the service, that of the handler that sleeps,
and those that were lost. -/
def Counted (lost : Conn → Nat) (t : Tag) : Prop :=
  ∀ c, t.host.refs c = currentRef t c + heldBy t.doze c + lost c

theorem refsConserved_of {t : Tag} (hlive : CurrentLive t) (h : Counted 0 t) :
    RefsConserved t := by
  refine ⟨h, fun hdoze c hlink => ?_⟩
  have hcur : t.svc.current_conn ≠ some c := fun hc => hlive c hc hlink
  rw [h c, hdoze]
  simp [currentRef, hcur, heldBy]

theorem counted_fresh {t : Tag} (h : Fresh t) : Counted 0 t := by
  intro c
  rw [h.host, h.doze]
  simp [currentRef, h.svc, heldBy]

section lost

variable {lost : Conn → Nat}

theorem counted_of {t u : Tag} (h : Counted lost t)
    (hcur : u.svc.current_conn = t.svc.current_conn) (hhost : u.host = t.host)
    (hdoze : ∀ c, heldBy u.doze c = heldBy t.doze c) : Counted lost u := by
  intro c
  rw [hhost, hdoze c, currentRef, hcur]
  exact h c

/-- While no handler sleeps with a reference, the references are those of the service. -/
theorem counted_awake {t : Tag} (h : Counted lost t) (hdoze : ∀ c, heldBy t.doze c = 0) (c : Conn) :
    t.host.refs c = currentRef t c + lost c := by
  have hc := h c
  rw [hdoze c] at hc
  exact hc

/-- A handler that sleeps with a reference has one. -/
theorem Counted.refs_ne_zero {t : Tag} {c : Conn} {after : After} (h : Counted lost t)
    (hdoze : t.doze = some (.disconnecting c after)) : t.host.refs c ≠ 0 := by
  have hc := h c
  rw [hdoze, heldBy, if_pos rfl] at hc
  omega

/-- A call of `ble_custom_service_initiate_disconnect` takes one reference, and sleeps with
it. -/
theorem counted_disconnectThen {t : Tag} {after : After} {rest : Tag → Tag}
    (h : ∀ c, t.host.refs c = currentRef t c + lost c) (hrest : Counted lost (rest t)) :
    Counted lost (disconnectThen t after rest) := by
  intro c
  unfold disconnectThen
  cases hcur : t.svc.current_conn with
  | none => exact hrest c
  | some d =>
    simp only [btConnRef, currentRef, heldBy, hcur, Option.some.injEq]
    by_cases hdc : d = c
    · subst hdc
      have hd := h d
      simp only [currentRef, hcur, if_true] at hd
      rw [Function.update_self, hd]
      simp only [if_true]
      omega
    · have hc := h c
      simp only [currentRef, hcur, Option.some.injEq, hdc, if_false] at hc
      rw [Function.update_of_ne (Ne.symm hdc), hc]
      simp [hdc]

theorem counted_resume {t : Tag} (h : ∀ c, t.host.refs c = currentRef t c + lost c)
    (after : After) : Counted lost (resume after t) := by
  cases after with
  | done => exact h
  | restart => exact counted_disconnectThen h h
  | reboot => exact h

theorem counted_initiateDisconnect {t : Tag}
    (h : ∀ c, t.host.refs c = currentRef t c + lost c) (after : After) :
    Counted lost (bleCustomServiceInitiateDisconnect t after) :=
  counted_disconnectThen h (counted_resume h after)

theorem counted_wake (t : Tag) (io : BootIo) (h : Counted lost t)
    (hstays : t.doze ≠ some .rebooting) : Counted lost (wake t io) := by
  unfold wake
  split
  · exact h
  · rename_i hd
    have hawake := counted_awake h (fun c => by rw [hd]; rfl)
    split
    · exact counted_initiateDisconnect hawake _
    · split
      · exact counted_disconnectThen hawake hawake
      · exact hawake
  · -- The handler gives up the reference that it slept with.
    rename_i d after hd
    have hback : ∀ c, (btConnUnref t d).host.refs c = currentRef (btConnUnref t d) c + lost c := by
      intro c
      have hc := h c
      have hcur : currentRef (btConnUnref t d) c = currentRef t c := rfl
      rw [hd] at hc
      rw [hcur]
      simp only [btConnUnref, heldBy] at hc ⊢
      by_cases hdc : d = c
      · subst hdc
        rw [if_pos rfl] at hc
        rw [Function.update_self]
        omega
      · rw [if_neg hdc, Nat.add_zero] at hc
        rw [Function.update_of_ne (Ne.symm hdc), hc]
    exact counted_resume hback after
  · rename_i hdoze
    exact absurd hdoze hstays

theorem counted_linkDown (t : Tag) (c : Conn) (io : DisconnectIo) (h : Counted lost t) :
    Counted lost (linkDown t c io) := by
  obtain ⟨hcur, hhost, hdoze⟩ := linkDown_links t c io
  intro d
  rw [hhost, hdoze, currentRef, hcur]
  have hd := h d
  unfold releaseConn
  split
  · -- The service followed this link, and releases it.
    rename_i hfollow
    simp only at hfollow
    simp only [btConnUnref, currentRef, hfollow, Option.some.injEq] at hd ⊢
    by_cases hcd : c = d
    · subst hcd
      rw [Function.update_self, hd]
      simp only [if_true, reduceCtorEq, if_false]
      omega
    · rw [Function.update_of_ne (Ne.symm hcd), hd]
      simp [hcd]
  · exact hd

/-- A link that comes up loses the reference on the link that the service followed. -/
theorem counted_linkUp (t : Tag) (c : Conn) (id : Nat) (infoRc : Int) (h : Counted lost t)
    (hfree : t.host.refs c = 0) :
    Counted (fun d => lost d + currentRef t d) (linkUp t c id 0 infoRc) := by
  obtain ⟨hcur, _, hrefs, hdoze⟩ := linkUp_links t c id infoRc
  intro d
  have hbefore := h d
  simp only [hrefs, hdoze, currentRef, hcur, Option.some.injEq] at hbefore ⊢
  by_cases hcd : c = d
  · subst hcd
    rw [Function.update_self, if_pos rfl]
    omega
  · rw [Function.update_of_ne (Ne.symm hcd), if_neg hcd]
    omega

/-- Every step but a link that comes up loses no reference. -/
theorem counted_next {t : Tag} {e : Event} (h : Counted lost t) (ha : Allowed t e)
    (hup : ∀ c id infoRc, e ≠ .connected c id 0 infoRc) :
    Counted lost (next t e) ∨ Fresh (next t e) := by
  cases e with
  | connected c id err infoRc =>
    have herr : err ≠ 0 := by
      rintro rfl
      exact hup c id infoRc rfl
    obtain ⟨hsvc, hhost, hdoze⟩ := linkUp_failed t c id err infoRc herr
    exact Or.inl (counted_of h (congrArg _ hsvc) hhost (fun c => by rw [next, hdoze]))
  | disconnected c io => exact Or.inl (counted_linkDown t c io h)
  | write c buf offset =>
    obtain ⟨hcur, _, _, _, hhost, hdoze, _⟩ := write_same t buf offset
    exact Or.inl (counted_of h hcur hhost (fun c => by rw [next, hdoze]))
  | read c len offset => exact Or.inl h
  | cccdChanged c value => exact Or.inl h
  | parseAndReply io =>
    have hrun := parse_afterRun t io
    refine Or.inl (counted_of h hrun.current_conn hrun.host ?_)
    intro c
    rw [next, ha.1]
    rcases hrun.doze with hd | ⟨d, r, hd⟩
    · rw [hd, ha.1]
    · rw [hd]
      rfl
  | authorisationTimeout =>
    have hawake := counted_awake h (fun c => by rw [ha.1]; rfl)
    exact Or.inl (counted_initiateDisconnect
      (t := { t with svc := { t.svc with authorisation_timout_work := none } }) hawake .done)
  | connectionTimeout =>
    have hawake := counted_awake h (fun c => by rw [ha.1]; rfl)
    exact Or.inl (counted_initiateDisconnect
      (t := { t with svc := { t.svc with connection_timout_work := none } }) hawake .done)
  | initiateDisconnect =>
    have hawake := counted_awake h (fun c => by rw [show t.doze = none from ha]; rfl)
    exact Or.inl (counted_initiateDisconnect hawake .done)
  | wake io =>
    by_cases hdoze : t.doze = some .rebooting
    · rw [next, wake_resets t io hdoze]
      exact Or.inr (sysReboot_fresh t io)
    · exact Or.inl (counted_wake t io h hdoze)
  | toolMsg data len io bootIo =>
    rcases toolMsg_same t data len io bootIo with hs | ⟨u, _, hu⟩
    · exact Or.inl (counted_of h hs.current_conn hs.host (fun c => by rw [next, hs.doze]))
    · rw [next, hu]
      exact Or.inr (sysReboot_fresh u bootIo)
  | customStart rc => exact Or.inl h
  | customStop rc => exact Or.inl h
  | supervisor rc =>
    have hs := superviseTime_same t rc
    exact Or.inl (counted_of h hs.current_conn hs.host (fun c => by rw [next, hs.doze]))
  | elapse ticks => exact Or.inl h

end lost

/-- A link that comes up leaves the references in order just when the service follows no
other link: its reference on that one would be lost. -/
theorem counted_linkUp_iff (t : Tag) (c : Conn) (id : Nat) (infoRc : Int) (h : RefsConserved t)
    (hfree : t.host.refs c = 0) :
    Counted 0 (linkUp t c id 0 infoRc) ↔ t.svc.current_conn = none := by
  have hbefore : Counted 0 t := h.counted
  have hup := counted_linkUp t c id infoRc hbefore hfree
  constructor
  · intro hall
    cases hold : t.svc.current_conn with
    | none => rfl
    | some d =>
      have hnow := hall d
      have hlost := hup d
      have hone : currentRef t d = 1 := by
        rw [currentRef, hold, if_pos rfl]
      simp only [hone, Pi.zero_apply] at hnow hlost
      omega
  · intro hnone d
    have hd := hup d
    have hzero : currentRef t d = 0 := by
      rw [currentRef, hnone, if_neg (Option.some_ne_none d).symm]
    simp only [hzero, Nat.add_zero] at hd
    exact hd

/-- One step keeps the references in order just when it brings up no second link. -/
theorem refsConserved_next (t : Tag) (e : Event) (hlive : CurrentLive t) (h : RefsConserved t)
    (ha : Allowed t e) : RefsConserved (next t e) ↔ AloneOnConnect t e := by
  have hback := refsConserved_of (currentLive_next t e hlive)
  by_cases hup : ∃ c id infoRc, e = .connected c id 0 infoRc
  · obtain ⟨c, id, infoRc, rfl⟩ := hup
    have hcounted := counted_linkUp_iff t c id infoRc h ha.2
    constructor
    · intro hnext _
      exact hcounted.mp hnext.counted
    · intro halone
      exact hback (hcounted.mpr (halone rfl))
  · have hquiet : ∀ c id infoRc, e ≠ .connected c id 0 infoRc :=
      fun c id infoRc he => hup ⟨c, id, infoRc, he⟩
    have hbefore : Counted 0 t := h.counted
    have hnext : Counted 0 (next t e) := by
      rcases counted_next hbefore ha hquiet with hc | hf
      · exact hc
      · exact counted_fresh hf
    refine iff_of_true (hback hnext) ?_
    cases e with
    | connected c id err infoRc =>
      rintro rfl
      exact absurd rfl (hquiet c id infoRc)
    | _ => trivial

/-- The references on connections are in order in every state of a run just when each link
comes up while the service follows no other. -/
theorem references_are_conserved_while_links_come_alone (t : Tag) (es : List Event)
    (h : system.Run t es) :
    system.States RefsConserved t es ↔ system.Steps AloneOnConnect t es := by
  obtain ⟨⟨board, nvs, retained, io, hboot⟩, hA⟩ := h
  have hfresh : Fresh t := hboot ▸ boot_fresh board nvs retained io
  have hlive := currentLive_fresh hfresh
  exact runs.System.states_iff_steps (fun t e hl _ _ => currentLive_next t e hl)
    (fun t e hl hr ha => refsConserved_next t e hl hr ha) hlive
    (refsConserved_of hlive (counted_fresh hfresh)) hA

/-- What the controller answers when nothing fails. -/
def quietIo : DisconnectIo :=
  { interval := { stopRc := 0, updateRc := 0, startRc := 0 }, startRc := 0 }

theorem a_single_link_keeps_its_reference :
    system.States RefsConserved factoryTag
      [.customStart 0, .connected 0 2 0 0, .initiateDisconnect, .disconnected 0 quietIo,
        .connected 1 1 0 0] :=
  (references_are_conserved_while_links_come_alone factoryTag _
    ⟨factoryTag_starts, by decide⟩).mpr (by decide)

/-- A Vision link and a Fast Pair link that overlap: both go down, and the reference on the
first is never given back. -/
theorem overlapping_links_lose_a_reference :
    ¬ ∀ (t : Tag) (es : List Event), system.Run t es → system.States RefsConserved t es := by
  intro h
  have hrun := h factoryTag
    [.customStart 0, .connected 0 2 0 0, .connected 1 1 0 0, .disconnected 1 quietIo,
      .disconnected 0 quietIo]
    ⟨factoryTag_starts, by decide⟩
  have hlost := (runs.System.states_last hrun).released (by decide) 0 (by decide)
  revert hlost
  decide

/-! ## The end of a Vision session -/

/-- The link of a connection stands on the Vision identity. -/
def OnVision (t : Tag) (c : Conn) : Prop :=
  match t.host.link c with
  | none => False
  | some id => (id : Int) = getVisionId t.advt

instance (t : Tag) (c : Conn) : Decidable (OnVision t c) := by
  unfold OnVision
  cases t.host.link c <;> infer_instance

theorem onVision_of {t u : Tag} {c : Conn} (hlink : u.host.link c = t.host.link c)
    (hid : getVisionId u.advt = getVisionId t.advt) : OnVision u c ↔ OnVision t c := by
  unfold OnVision
  rw [hlink, hid]

/-- How many links stand on the Vision identity. -/
def visionLinks (t : Tag) : Nat := (Finset.univ.filter (OnVision t)).card

/-- `bt_conn_get_info` succeeds. -/
def InfoSucceeds (_ : Tag) : Event → Prop
  | .connected _ _ _ infoRc => infoRc = 0
  | _ => True

/-- A link that goes down runs the Vision branch just when it stands on the Vision identity.
Any other link only gives up the reference of the service. -/
def CleanupFitsLink (t : Tag) : Event → Prop
  | .disconnected c io =>
    let gone : Tag := { t with host := { t.host with link := Function.update t.host.link c none } }
    (RunsVisionBranch gone ↔ OnVision t c) ∧
      next t (.disconnected c io) =
        if OnVision t c then visionBranch (releaseConn gone c) io else releaseConn gone c
  | _ => True

/-- While a Vision link is live no link comes up, and no other link goes down. -/
def VisionLinkAlone (t : Tag) : Event → Prop
  | .connected _ _ err _ => err = 0 → visionLinks t = 0
  | .disconnected c _ => visionLinks t ≠ 0 → OnVision t c
  | _ => True

instance (t : Tag) (e : Event) : Decidable (VisionLinkAlone t e) := by
  apply Event.casesOn (motive := fun e => Decidable (VisionLinkAlone t e)) e
  all_goals
    intros
    unfold VisionLinkAlone
    infer_instance

/-- The service knows of the Vision links, of which there is one at most. -/
structure Balanced (t : Tag) : Prop where
  counted : visionLinks t = if RunsVisionBranch t then 1 else 0
  vision_id : getVisionId t.advt < CONFIG_BT_ID_MAX

theorem visionLinks_of {t u : Tag} (hlink : u.host.link = t.host.link)
    (hid : getVisionId u.advt = getVisionId t.advt) : visionLinks u = visionLinks t := by
  unfold visionLinks
  congr 1
  exact Finset.filter_congr fun c _ => onVision_of (congrFun hlink c) hid

theorem visionLinks_pos {t : Tag} {c : Conn} (h : OnVision t c) : visionLinks t ≠ 0 := by
  unfold visionLinks
  rw [Finset.card_ne_zero]
  exact ⟨c, by simpa using h⟩

/-- A link that comes up counts if it stands on the Vision identity. -/
theorem visionLinks_up {t u : Tag} {c : Conn} {id : Nat} (hfree : t.host.link c = none)
    (hlink : u.host.link = Function.update t.host.link c (some id))
    (hid : getVisionId u.advt = getVisionId t.advt) :
    visionLinks u = visionLinks t + if (id : Int) = getVisionId t.advt then 1 else 0 := by
  have hother : ∀ d, d ≠ c → (OnVision u d ↔ OnVision t d) := by
    intro d hd
    exact onVision_of (by rw [hlink, Function.update_of_ne hd]) hid
  have hself : OnVision u c ↔ (id : Int) = getVisionId t.advt := by
    unfold OnVision
    rw [hlink, hid, Function.update_self]
  have hnot : ¬ OnVision t c := by
    unfold OnVision
    simp [hfree]
  unfold visionLinks
  by_cases hv : (id : Int) = getVisionId t.advt
  · have hins : Finset.univ.filter (OnVision u) = insert c (Finset.univ.filter (OnVision t)) := by
      ext d
      by_cases hd : d = c
      · subst hd
        simp [hself, hv]
      · simp [hother d hd, hd]
    rw [hins, Finset.card_insert_of_notMem (by simpa using hnot), if_pos hv]
  · have hsame : Finset.univ.filter (OnVision u) = Finset.univ.filter (OnVision t) := by
      ext d
      by_cases hd : d = c
      · subst hd
        simp [hself, hv, hnot]
      · simp [hother d hd]
    rw [hsame, if_neg hv]
    rfl

/-- A link that goes down no longer counts. -/
theorem visionLinks_down {t u : Tag} {c : Conn}
    (hlink : u.host.link = Function.update t.host.link c none)
    (hid : getVisionId u.advt = getVisionId t.advt) :
    visionLinks u = visionLinks t - if OnVision t c then 1 else 0 := by
  have hers : Finset.univ.filter (OnVision u) = (Finset.univ.filter (OnVision t)).erase c := by
    ext d
    by_cases hd : d = c
    · subst hd
      simp [OnVision, hlink]
    · simp [OnVision, hlink, hid, hd]
  unfold visionLinks
  rw [hers]
  by_cases hv : OnVision t c
  · rw [Finset.card_erase_of_mem (by simpa using hv), if_pos hv]
  · rw [Finset.erase_eq_of_notMem (by simpa using hv), if_neg hv, Nat.sub_zero]

theorem linkUp_identity (t : Tag) (c : Conn) (id : Nat) :
    (linkUp t c id 0 0).svc.active_local_id = id ∧
      getVisionId (linkUp t c id 0 0).advt = getVisionId t.advt := by
  refine ⟨?_, linkUp_Vision_id t c id 0 0⟩
  unfold linkUp custom_services.connected
  simp only [ne_eq, not_true_eq_false, if_false, if_true]
  split_ifs <;> rfl

theorem visionBranch_identity (t : Tag) (io : DisconnectIo) :
    (visionBranch t io).svc.active_local_id = 0xFF ∧
      getVisionId (visionBranch t io).advt = getVisionId t.advt := by
  refine ⟨rfl, ?_⟩
  unfold visionBranch
  simp only
  rw [start_Vision_id]
  split_ifs
  · exact updateInterval_Vision_id _ _ _ _
  · rfl

theorem releaseConn_keeps (t : Tag) (c : Conn) :
    (releaseConn t c).svc.active_local_id = t.svc.active_local_id ∧
      (releaseConn t c).host.link = t.host.link ∧ (releaseConn t c).advt = t.advt := by
  unfold releaseConn
  split <;> exact ⟨rfl, rfl, rfl⟩

/-- The branch that a link down takes, in terms of the tag before it. -/
theorem linkDown_branch (t : Tag) (c : Conn) (io : DisconnectIo) :
    let gone : Tag := { t with host := { t.host with link := Function.update t.host.link c none } }
    linkDown t c io = if RunsVisionBranch t then visionBranch (releaseConn gone c) io
      else releaseConn gone c := rfl

theorem linkDown_identity (t : Tag) (c : Conn) (io : DisconnectIo) :
    (linkDown t c io).host.link = Function.update t.host.link c none ∧
      getVisionId (linkDown t c io).advt = getVisionId t.advt ∧
      (linkDown t c io).svc.active_local_id =
        if RunsVisionBranch t then 0xFF else t.svc.active_local_id := by
  obtain ⟨hactive, hlink, hadvt⟩ := releaseConn_keeps
    { t with host := { t.host with link := Function.update t.host.link c none } } c
  rw [linkDown_branch]
  simp only
  split_ifs
  · exact ⟨hlink, (visionBranch_identity _ io).2.trans (congrArg _ hadvt), rfl⟩
  · exact ⟨hlink, congrArg _ hadvt, hactive⟩

theorem cleanupFits_iff (t : Tag) (c : Conn) (io : DisconnectIo) :
    CleanupFitsLink t (.disconnected c io) ↔ (RunsVisionBranch t ↔ OnVision t c) := by
  constructor
  · intro h
    exact h.1
  · intro h
    refine ⟨h, ?_⟩
    change linkDown t c io = _
    rw [linkDown_branch]
    simp only [h]

/-- The value that stands for no connection is no identity of the host. -/
theorem active_ne_vision {t : Tag} (h : getVisionId t.advt < CONFIG_BT_ID_MAX) :
    ((0xFF : Nat) : Int) ≠ getVisionId t.advt := by
  simp only [CONFIG_BT_ID_MAX] at h
  omega

theorem balanced_fresh {t : Tag} (h : Fresh t) : Balanced t := by
  have hid := h.vision_id
  refine ⟨?_, hid⟩
  have hruns : ¬ RunsVisionBranch t := by
    unfold RunsVisionBranch
    rw [h.svc]
    exact active_ne_vision hid
  have hnone : ∀ c, ¬ OnVision t c := by
    intro c
    unfold OnVision
    simp [h.host]
  rw [if_neg hruns]
  unfold visionLinks
  rw [Finset.card_eq_zero, Finset.filter_eq_empty_iff]
  intro c _
  exact hnone c

theorem balanced_of {t u : Tag} (h : Balanced t) (hlink : u.host.link = t.host.link)
    (hid : getVisionId u.advt = getVisionId t.advt)
    (hactive : u.svc.active_local_id = t.svc.active_local_id) : Balanced u := by
  have hruns : RunsVisionBranch u ↔ RunsVisionBranch t := by
    unfold RunsVisionBranch
    rw [hactive, hid]
  refine ⟨?_, hid ▸ h.vision_id⟩
  rw [visionLinks_of hlink hid, h.counted]
  exact if_congr hruns.symm rfl rfl

/-- The service knows of a Vision link while there is one. -/
theorem Balanced.runs_iff {t : Tag} (h : Balanced t) : RunsVisionBranch t ↔ visionLinks t ≠ 0 := by
  have hc := h.counted
  split_ifs at hc with hruns
  · exact iff_of_true hruns (by omega)
  · exact iff_of_false hruns (by omega)

theorem balanced_linkUp {t : Tag} {c : Conn} {id : Nat} (h : Balanced t)
    (hfree : t.host.link c = none) (hnone : visionLinks t = 0) : Balanced (linkUp t c id 0 0) := by
  obtain ⟨_, hlink, _, _⟩ := linkUp_links t c id 0
  obtain ⟨hactive, hid⟩ := linkUp_identity t c id
  have hruns : RunsVisionBranch (linkUp t c id 0 0) ↔ (id : Int) = getVisionId t.advt := by
    unfold RunsVisionBranch
    rw [hactive, hid]
  refine ⟨?_, hid ▸ h.vision_id⟩
  rw [visionLinks_up hfree hlink hid, hnone, Nat.zero_add]
  exact if_congr hruns.symm rfl rfl

theorem balanced_linkDown {t : Tag} {c : Conn} (io : DisconnectIo) (h : Balanced t)
    (hfits : RunsVisionBranch t ↔ OnVision t c) : Balanced (linkDown t c io) := by
  obtain ⟨hlink, hid, hactive⟩ := linkDown_identity t c io
  refine ⟨?_, hid ▸ h.vision_id⟩
  rw [visionLinks_down hlink hid, h.counted]
  have hruns : RunsVisionBranch (linkDown t c io) ↔ False := by
    unfold RunsVisionBranch
    rw [hactive, hid]
    split_ifs with hr
    · simpa using active_ne_vision h.vision_id
    · simpa [RunsVisionBranch] using hr
  simp [hruns, hfits]

/-- While a Vision link has the tag to itself, its end is run for it and for no other link,
and the service keeps knowing of it. -/
theorem cleanup_next (t : Tag) (e : Event) (h : Balanced t)
    (ha : (Allowed t e ∧ InfoSucceeds t e) ∧ VisionLinkAlone t e) :
    CleanupFitsLink t e ∧ Balanced (next t e) := by
  obtain ⟨⟨hallowed, hinfo⟩, halone⟩ := ha
  by_cases hq : Quiet e
  · have hfits : CleanupFitsLink t e := by
      cases e <;> first | exact trivial | exact False.elim hq
    refine ⟨hfits, ?_⟩
    rcases quiet_next t e hq with hs | hf
    · exact balanced_of h hs.link hs.vision_id hs.active_local_id
    · exact balanced_fresh hf
  cases e with
  | connected c id err infoRc =>
    refine ⟨trivial, ?_⟩
    by_cases herr : err = 0
    · subst herr
      rw [show infoRc = 0 from hinfo]
      exact balanced_linkUp h hallowed.1 (halone rfl)
    · obtain ⟨hsvc, hhost, _⟩ := linkUp_failed t c id err infoRc herr
      exact balanced_of h (congrArg _ hhost) (linkUp_Vision_id t c id err infoRc)
        (congrArg _ hsvc)
  | disconnected c io =>
    have hfits : RunsVisionBranch t ↔ OnVision t c := by
      rw [h.runs_iff]
      exact ⟨halone, visionLinks_pos⟩
    exact ⟨(cleanupFits_iff t c io).mpr hfits, balanced_linkDown io h hfits⟩
  | write c buf offset =>
    obtain ⟨_, hactive, _, _, hhost, _, hadvt⟩ := write_same t buf offset
    exact ⟨trivial, balanced_of h (congrArg _ hhost) (congrArg _ hadvt) hactive⟩
  | parseAndReply io =>
    have hrun := parse_afterRun t io
    exact ⟨trivial, balanced_of h (congrArg _ hrun.host) hrun.vision_id hrun.active_local_id⟩
  | _ => exact absurd trivial hq

/-- There is a Vision link that the service does not know of: its end will not be run. -/
def Forgotten (t : Tag) : Prop := (if RunsVisionBranch t then 1 else 0) < visionLinks t

/-- A callback of the host on a link. -/
def LinkEvent : Event → Prop
  | .connected .. => True
  | .disconnected .. => True
  | _ => False

theorem forgotten_linkUp {t : Tag} {c : Conn} {id : Nat} (hfree : t.host.link c = none)
    (hsome : visionLinks t ≠ 0) : Forgotten (linkUp t c id 0 0) := by
  obtain ⟨_, hlink, _, _⟩ := linkUp_links t c id 0
  obtain ⟨hactive, hid⟩ := linkUp_identity t c id
  have hruns : RunsVisionBranch (linkUp t c id 0 0) ↔ (id : Int) = getVisionId t.advt := by
    unfold RunsVisionBranch
    rw [hactive, hid]
  unfold Forgotten
  rw [visionLinks_up hfree hlink hid, if_congr hruns rfl rfl]
  omega

/-- A forgotten link stays forgotten while every end that is run fits its link. -/
theorem forgotten_next (t : Tag) (e : Event) (h : Forgotten t)
    (hid : getVisionId t.advt < CONFIG_BT_ID_MAX) (hlinkEvent : LinkEvent e)
    (ha : Allowed t e ∧ InfoSucceeds t e) (hfits : CleanupFitsLink t e) :
    Forgotten (next t e) ∧ getVisionId (next t e).advt < CONFIG_BT_ID_MAX := by
  unfold Forgotten at h
  cases e with
  | connected c id err infoRc =>
    by_cases herr : err = 0
    · subst herr
      rw [show infoRc = 0 from ha.2]
      exact ⟨forgotten_linkUp ha.1.1 (by omega), (linkUp_identity t c id).2 ▸ hid⟩
    · obtain ⟨hsvc, hhost, _⟩ := linkUp_failed t c id err infoRc herr
      have hid' := linkUp_Vision_id t c id err infoRc
      have hruns : RunsVisionBranch (linkUp t c id err infoRc) ↔ RunsVisionBranch t := by
        unfold RunsVisionBranch
        rw [hsvc, hid']
      refine ⟨?_, hid' ▸ hid⟩
      unfold Forgotten
      rw [next, visionLinks_of (congrArg _ hhost) hid', if_congr hruns rfl rfl]
      exact h
  | disconnected c io =>
    have hiff := (cleanupFits_iff t c io).mp hfits
    obtain ⟨hlink, hid', hactive⟩ := linkDown_identity t c io
    have hruns : ¬ RunsVisionBranch (linkDown t c io) := by
      unfold RunsVisionBranch
      rw [hactive, hid']
      split_ifs with hr
      · exact active_ne_vision hid
      · exact hr
    refine ⟨?_, hid' ▸ hid⟩
    unfold Forgotten
    rw [next, if_neg hruns, visionLinks_down hlink hid']
    by_cases hv : OnVision t c
    · rw [if_pos (hiff.mpr hv)] at h
      rw [if_pos hv]
      omega
    · rw [if_neg (fun hr => hv (hiff.mp hr))] at h
      rw [if_neg hv]
      omega
  | _ => exact absurd hlinkEvent id

/-- After the first link that breaks in on a Vision link, there is a forgotten one. -/
theorem forgotten_of_not_alone (t : Tag) (e : Event) (h : Balanced t) (hlinkEvent : LinkEvent e)
    (ha : Allowed t e ∧ InfoSucceeds t e) (hfits : CleanupFitsLink t e)
    (hnot : ¬ VisionLinkAlone t e) : Forgotten (next t e) := by
  cases e with
  | connected c id err infoRc =>
    simp only [VisionLinkAlone, Classical.not_imp] at hnot
    obtain ⟨herr, hsome⟩ := hnot
    subst herr
    rw [show infoRc = 0 from ha.2]
    exact forgotten_linkUp ha.1.1 hsome
  | disconnected c io =>
    simp only [VisionLinkAlone, Classical.not_imp] at hnot
    obtain ⟨hsome, hv⟩ := hnot
    have hiff := (cleanupFits_iff t c io).mp hfits
    exact absurd (hiff.mp (h.runs_iff.mpr hsome)) hv
  | _ => exact absurd hlinkEvent id

theorem forgotten_run {t : Tag} {es : List Event} (h : Forgotten t)
    (hid : getVisionId t.advt < CONFIG_BT_ID_MAX) (hlinks : ∀ e ∈ es, LinkEvent e)
    (hA : system.Steps (fun t e => Allowed t e ∧ InfoSucceeds t e) t es)
    (hfits : system.Steps CleanupFitsLink t es) : visionLinks (system.run t es) ≠ 0 := by
  induction es generalizing t with
  | nil =>
    unfold Forgotten at h
    exact Nat.ne_zero_of_lt h
  | cons e es ih =>
    obtain ⟨hnext, hid'⟩ :=
      forgotten_next t e h hid (hlinks e List.mem_cons_self) hA.1 hfits.1
    exact ih hnext hid' (fun f hf => hlinks f (List.mem_cons_of_mem _ hf)) hA.2 hfits.2

theorem alone_of_fits {t : Tag} {es : List Event} (h : Balanced t)
    (hlinks : ∀ e ∈ es, LinkEvent e)
    (hA : system.Steps (fun t e => Allowed t e ∧ InfoSucceeds t e) t es)
    (hend : visionLinks (system.run t es) = 0) (hfits : system.Steps CleanupFitsLink t es) :
    system.Steps VisionLinkAlone t es := by
  induction es generalizing t with
  | nil => trivial
  | cons e es ih =>
    have hlink := hlinks e List.mem_cons_self
    have hrest : ∀ f ∈ es, LinkEvent f := fun f hf => hlinks f (List.mem_cons_of_mem _ hf)
    by_cases halone : VisionLinkAlone t e
    · obtain ⟨_, hnext⟩ := cleanup_next t e h ⟨hA.1, halone⟩
      exact ⟨halone, ih hnext hrest hA.2 hend hfits.2⟩
    · have hforgot := forgotten_of_not_alone t e h hlink hA.1 hfits.1 halone
      have hid : getVisionId (next t e).advt < CONFIG_BT_ID_MAX := by
        cases e with
        | connected c id err infoRc =>
          by_cases herr : err = 0
          · subst herr
            rw [show infoRc = 0 from hA.1.2]
            exact (linkUp_identity t c id).2 ▸ h.vision_id
          · exact linkUp_Vision_id t c id err infoRc ▸ h.vision_id
        | disconnected c io => exact (linkDown_identity t c io).2.1 ▸ h.vision_id
        | _ => exact absurd hlink id
      have hsome : visionLinks (system.run (next t e) es) ≠ 0 :=
        forgotten_run hforgot hid hrest hA.2 hfits.2
      exact absurd hend hsome

/-- The end of a Vision session is run for the Vision link and for no other, while each
Vision link has the tag to itself. Among the runs of callbacks that leave no Vision link up,
there is no other way. -/
theorem cleanup_fits_the_link_while_vision_links_are_alone (t : Tag) (es : List Event)
    (h : system.Run t es) (hinfo : system.Steps InfoSucceeds t es) :
    (system.Steps VisionLinkAlone t es → system.Steps CleanupFitsLink t es) ∧
      ((∀ e ∈ es, LinkEvent e) → visionLinks (system.run t es) = 0 →
        system.Steps CleanupFitsLink t es → system.Steps VisionLinkAlone t es) := by
  obtain ⟨⟨board, nvs, retained, io, hboot⟩, hA⟩ := h
  have hbal : Balanced t := balanced_fresh (hboot ▸ boot_fresh board nvs retained io)
  have hboth := (runs.System.steps_and t es).mpr ⟨hA, hinfo⟩
  constructor
  · intro halone
    exact (runs.System.steps_of_invariant (fun t e hb ha => cleanup_next t e hb ha) hbal
      ((runs.System.steps_and t es).mpr ⟨hboth, halone⟩)).1
  · intro hlinks hend hfits
    exact alone_of_fits hbal hlinks hboth hend hfits

theorem a_single_vision_link_is_cleaned_up :
    system.Steps CleanupFitsLink factoryTag
      [.customStart 0, .connected 0 2 0 0, .disconnected 0 quietIo, .connected 1 1 0 0,
        .disconnected 1 quietIo] :=
  (cleanup_fits_the_link_while_vision_links_are_alone factoryTag _
    ⟨factoryTag_starts, by decide⟩ (by simp [InfoSucceeds])).1 (by decide)

/-- A Fast Pair link comes up during a Vision session, so the end of the session is never
run: the tag stays off air and the authorisation stays granted. -/
theorem a_fast_pair_link_takes_the_cleanup_from_a_vision_link :
    ¬ ∀ (t : Tag) (es : List Event), system.Run t es → system.Steps InfoSucceeds t es →
      system.Steps CleanupFitsLink t es := by
  intro h
  have hsteps := h factoryTag
    [.customStart 0, .connected 0 2 0 0, .connected 1 1 0 0, .disconnected 0 quietIo]
    ⟨factoryTag_starts, by decide⟩ (by simp [InfoSucceeds])
  have hiff := hsteps.2.2.2.1.1
  revert hiff
  decide

end smart_track.sessions
