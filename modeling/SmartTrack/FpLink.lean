-- The Fast Pair set serves one link. Its flag follows the mode and the link, as
-- long as the work that starts the set again only runs when the link is gone.
import SmartTrack.Locator

open smart_track.zephyr smart_track.fp_adv smart_track.locator

namespace smart_track.fp_link

/-! ## What holds of the set -/

/-- The set is inactive under a link, the assertion has held, and with no link, no restart
to come and no failed call the set is active just when the mode is not off. -/
structure ServesOneLink (a : FpAdv) : Prop where
  one_link : a.fp_adv_set_active = true → a.fp_conn = none
  assertion_held : a.assertion_held = true
  follows_mode : a.is_enabled = true → a.fp_conn = none → a.fp_adv_restart_work = false →
    a.calls_succeeded = true → (a.fp_adv_set_active = true ↔ a.fp_adv_mode ≠ .OFF)

/-- While the assertion holds: the set is inactive under a link and while the mode is off,
and active otherwise unless a restart is to come. -/
structure Tracks (a : FpAdv) : Prop where
  one_link : a.fp_adv_set_active = true → a.fp_conn = none
  off_inactive : a.calls_succeeded = true → a.fp_adv_mode = .OFF → a.fp_adv_set_active = false
  on_active : a.calls_succeeded = true → a.fp_conn = none → a.fp_adv_restart_work = false →
    a.fp_adv_mode ≠ .OFF → a.fp_adv_set_active = true

structure Inv (a : FpAdv) : Prop where
  off : a.is_enabled = false → a.fp_adv_mode = .OFF
  tracks : a.assertion_held = true → Tracks a

/-- While the invariant holds, nothing but the assertion can go wrong. -/
theorem servesOneLink_iff {a : FpAdv} (h : Inv a) :
    ServesOneLink a ↔ a.assertion_held = true := by
  constructor
  · intro hs
    exact hs.assertion_held
  · intro hheld
    have ht := h.tracks hheld
    refine ⟨ht.one_link, hheld, ?_⟩
    intro _ hconn hwork hcalls
    constructor
    · intro hactive hoff
      rw [ht.off_inactive hcalls hoff] at hactive
      cases hactive
    · exact ht.on_active hcalls hconn hwork

/-! ## A change of mode -/

theorem modeSet_tracks {a : FpAdv} (m : Mode) (io : StackIo) (h : Tracks a) :
    Tracks (fpAdvModeSet a m io) := by
  rcases modeSet_spec a m io with ⟨hm | hconn, heq⟩ | ⟨hconn, active, calls, heq, hcalls⟩
  · rw [heq, hm]
    exact h
  · have hidle : a.fp_adv_set_active = false := by
      by_contra hactive
      exact hconn (h.one_link (by simpa using hactive))
    rw [heq]
    refine ⟨?_, fun _ _ => hidle, fun _ hnone => absurd hnone hconn⟩
    intro hactive
    rw [hidle] at hactive
    cases hactive
  · rw [heq]
    refine ⟨fun _ => hconn, ?_, ?_⟩
    · intro hc hoff
      by_contra hactive
      exact (hcalls hc).2.mp (by simpa using hactive) hoff
    · intro hc _ _ hon
      exact (hcalls hc).2.mpr hon

theorem modeUpdate_tracks {a : FpAdv} (io : StackIo) (h : Tracks a) :
    Tracks (fpAdvModeUpdate a io) := by
  unfold fpAdvModeUpdate
  split
  · exact modeSet_tracks _ io h
  · exact h

/-! ## Every function keeps the invariant -/

/-- What only touches other fields, or marks a failed call, keeps the invariant. -/
theorem Inv.mono {a b : FpAdv} (h : Inv a) (henabled : b.is_enabled = a.is_enabled)
    (hmode : b.fp_adv_mode = a.fp_adv_mode) (hactive : b.fp_adv_set_active = a.fp_adv_set_active)
    (hconn : b.fp_conn = a.fp_conn) (hwork : b.fp_adv_restart_work = a.fp_adv_restart_work)
    (hheld : b.assertion_held = a.assertion_held)
    (hcalls : b.calls_succeeded = true → a.calls_succeeded = true) : Inv b := by
  constructor
  · rw [henabled, hmode]
    exact h.off
  · intro hb
    have ht := h.tracks (hheld ▸ hb)
    constructor
    · rw [hactive, hconn]
      exact ht.one_link
    · rw [hmode, hactive]
      exact fun hc => ht.off_inactive (hcalls hc)
    · rw [hmode, hactive, hconn, hwork]
      exact fun hc => ht.on_active (hcalls hc)

/-- The step from `a` to `b` keeps the invariant, and no assertion fails in it. -/
structure Keeps (a b : FpAdv) : Prop where
  inv : Inv a → Inv b
  held : b.assertion_held = a.assertion_held

theorem Keeps.refl (a : FpAdv) : Keeps a a := ⟨fun h => h, rfl⟩

theorem Keeps.trans {a b c : FpAdv} (h : Keeps a b) (k : Keeps b c) : Keeps a c :=
  ⟨fun hi => k.inv (h.inv hi), k.held.trans h.held⟩

/-- The requests and what is known of the Account Key and the provisioning may change. -/
theorem keeps_knowledge (a : FpAdv) (provisioned key suspended : Bool) (work : Delayable)
    (bm : BitVec 32) :
    Keeps a { a with
      fmdn_provisioned := provisioned
      fp_account_key_present := key
      fp_adv_rpa_rotation_suspended := suspended
      fp_adv_rpa_suspension_work := work
      fp_adv_request_bm := bm } :=
  ⟨fun h => h.mono rfl rfl rfl rfl rfl rfl id, rfl⟩

theorem keeps_of_onlySet {a b : FpAdv} (h : OnlySet a b) : Keeps a b := by
  obtain ⟨set, calls, rfl, hcalls⟩ := h
  exact ⟨fun hi => hi.mono rfl rfl rfl rfl rfl rfl hcalls, rfl⟩

theorem request_keeps (a : FpAdv) (trigger : Trigger) (enable : Bool) (io : StackIo) :
    Keeps a (appFpAdvRequest a trigger enable io) := by
  rcases request_cases a trigger enable io with ⟨_, heq⟩ | ⟨_, ⟨_, heq⟩ | ⟨henabled, heq⟩⟩
  · rw [heq]
    exact .refl a
  · rw [heq]
    exact keeps_knowledge a _ _ _ _ _
  · rw [heq]
    obtain ⟨active, calls, hupdate⟩ := modeUpdate_frame { a with
      fp_adv_request_bm :=
        writeBit a.fp_adv_request_bm (fpAdvTriggerIdxGet trigger) enable } io
    refine ⟨fun h => ⟨?_, ?_⟩, by rw [hupdate]⟩
    · intro hdisabled
      rw [hupdate] at hdisabled
      simp only [henabled] at hdisabled
      cases hdisabled
    · intro hheld
      rw [hupdate] at hheld
      have ht := h.tracks hheld
      exact modeUpdate_tracks io ⟨ht.one_link, ht.off_inactive, ht.on_active⟩

/-- The module comes up in the mode that the triggers ask for. -/
theorem switchOn_keeps (a : FpAdv) (io : StackIo) :
    Keeps a { fpAdvModeUpdate a io with is_enabled := true } := by
  obtain ⟨active, calls, heq⟩ := modeUpdate_frame a io
  refine ⟨fun h => ⟨fun hdisabled => absurd hdisabled (by simp), ?_⟩, by rw [heq]⟩
  intro hheld
  have hbefore : a.assertion_held = true := by
    rw [heq] at hheld
    exact hheld
  have ht := modeUpdate_tracks io (h.tracks hbefore)
  exact ⟨ht.one_link, ht.off_inactive, ht.on_active⟩

theorem enable_keeps (a : FpAdv) (stored : Stored) (io : StackIo) :
    Keeps a (appFpAdvEnable a stored io).1 := by
  rcases enable_cases a stored io with ⟨_, heq⟩ | ⟨_, b, hb, hup⟩
  · rw [heq]
    exact .refl a
  · have hread : Keeps a b := by
      refine Keeps.trans ?_ (keeps_of_onlySet hb)
      exact keeps_knowledge a _ _ _ _ _
    rcases hup with ⟨heq, _⟩ | heq
    · rw [heq]
      exact hread
    · rw [heq]
      exact hread.trans (switchOn_keeps b io)

theorem disable_keeps (a : FpAdv) (io : StackIo) : Keeps a (appFpAdvDisable a io).1 := by
  rcases disable_cases a io with ⟨_, heq⟩ | ⟨_, hset⟩
  · rw [heq]
    exact .refl a
  · refine Keeps.trans ?_ (keeps_of_onlySet hset)
    obtain ⟨active, calls, heq⟩ := modeSet_frame
      (fpAdvRpaSuspensionCancel { a with is_enabled := false }) .OFF io
    refine ⟨fun h => ⟨fun _ => by rw [heq], ?_⟩, by rw [heq]; rfl⟩
    intro hheld
    rw [heq] at hheld
    have ht := h.tracks hheld
    exact modeSet_tracks .OFF io ⟨ht.one_link, ht.off_inactive, ht.on_active⟩

/-! ## The callbacks -/

theorem connected_keeps (a : FpAdv) (err : Nat) : Keeps a (fp_adv.connected a err) := by
  unfold fp_adv.connected
  split
  · refine ⟨fun h => ⟨h.off, fun hheld => ?_⟩, rfl⟩
    have ht := h.tracks hheld
    exact ⟨ht.one_link, ht.off_inactive, fun _ _ hwork => absurd hwork (by simp)⟩
  · exact .refl a

theorem fpAdvConnected_keeps (a : FpAdv) (conn : Conn) : Keeps a (fpAdvConnected a conn) := by
  refine ⟨fun h => ⟨h.off, fun _ => ⟨?_, fun _ _ => rfl, ?_⟩⟩, rfl⟩
  · intro hactive
    cases hactive
  · intro _ hconn
    cases hconn

theorem disconnected_keeps (a : FpAdv) (conn : Conn) : Keeps a (fp_adv.disconnected a conn) := by
  unfold fp_adv.disconnected
  split
  · refine ⟨fun h => ⟨h.off, fun hheld => ?_⟩, rfl⟩
    have ht := h.tracks hheld
    exact ⟨fun _ => rfl, ht.off_inactive, fun _ _ hwork => absurd hwork (by simp)⟩
  · exact .refl a

theorem rpaSuspensionWork_keeps (a : FpAdv) : Keeps a (fpAdvRpaSuspensionWorkHandle a) :=
  keeps_knowledge a _ _ _ _ _

theorem fpProvisioning_keeps (a : FpAdv) (provisioned : Bool) (io : StackIo) :
    Keeps a (fpAdvProvisioningStateChanged a provisioned io) := by
  unfold fpAdvProvisioningStateChanged fpAdvSetRotate
  simp only
  split_ifs
  · exact keeps_knowledge a _ _ _ _ _
  · refine Keeps.trans ?_ (keeps_of_onlySet (called_onlySet _ _))
    exact keeps_knowledge a _ _ _ _ _
  · exact keeps_knowledge a _ _ _ _ _

theorem fpAccountKey_keeps (a : FpAdv) (stored : Stored) :
    Keeps a (fpAdvAccountKeyWritten a stored) := by
  unfold fpAdvAccountKeyWritten
  simp only
  split <;> exact keeps_knowledge a _ _ _ _ _

/-- The restart work keeps the invariant, and it fails the assertion under a link. -/
theorem restartWork_spec (a : FpAdv) (io : StackIo) :
    (Inv a → Inv (fpAdvRestartWorkHandle a io)) ∧
      (fpAdvRestartWorkHandle a io).assertion_held =
        (a.assertion_held && decide (a.is_enabled = true → a.fp_conn = none)) := by
  unfold fpAdvRestartWorkHandle
  simp only
  cases henabled : a.is_enabled with
  | false =>
    refine ⟨fun h => ⟨fun _ => h.off henabled, fun hheld => ?_⟩, by simp⟩
    have ht := h.tracks hheld
    exact ⟨ht.one_link, ht.off_inactive, fun _ _ _ hon => absurd (h.off henabled) hon⟩
  | true =>
    obtain ⟨active, calls, heq, hcalls⟩ := update_spec { a with fp_adv_restart_work := false } io
    simp only [henabled] at heq
    simp only [if_true]
    rw [heq]
    refine ⟨fun h => ⟨fun hdisabled => absurd hdisabled (by simp), fun hheld => ?_⟩, by simp⟩
    simp only [Bool.and_eq_true, decide_eq_true_eq] at hheld
    refine ⟨fun _ => hheld.2, ?_, ?_⟩
    · intro hc hoff
      by_contra hactive
      exact (hcalls hc).2.mp (by simpa using hactive) hoff
    · intro hc _ _ hon
      exact (hcalls hc).2.mpr hon

/-! ## The locator -/

theorem prepare_keeps (l : Locator) (io : ResetIo) :
    Keeps l.fp (fmdnFactoryResetPrepare l io).fp :=
  ((request_keeps l.fp _ _ _).trans (request_keeps _ _ _ _)).trans (request_keeps _ _ _ _)

theorem inv_fresh : Inv {} :=
  ⟨fun _ => rfl, fun _ => ⟨fun _ => rfl, fun _ _ => rfl, fun _ _ _ hon => absurd rfl hon⟩⟩

theorem boot_fp (stored : Stored) (io : BootIo) : Keeps {} (boot stored io).fp := by
  have hup := enable_keeps {} stored io.fp
  unfold boot
  simp only
  split
  · exact .refl _
  · split
    · exact hup
    · rw [init_fp]
      exact hup

theorem sysReboot_keeps (l : Locator) (io : BootIo) : Keeps l.fp (sysReboot l io).fp := by
  have hup := boot_fp l.stored io
  have hheld : (boot l.stored io).fp.assertion_held = true := hup.held
  have hinv := hup.inv inv_fresh
  refine ⟨fun _ => ⟨hinv.off, fun _ => ?_⟩, by simp [sysReboot, hheld]⟩
  have ht := hinv.tracks hheld
  exact ⟨ht.one_link, ht.off_inactive, ht.on_active⟩

/-- A factory reset gets some way down and up again, and the tag restarts if it gets through. -/
theorem factoryResetPerform_keeps (l : Locator) (io : ResetIo) :
    Keeps l.fp (factoryResetPerform l io).fp := by
  have hprepare := prepare_keeps
    { l with reset := { l.reset with factory_reset_state := .IN_PROGRESS } } io
  unfold factoryResetPerform btFastPairFactoryReset
  simp only
  cases hready : l.fp.is_enabled with
  | false =>
    simp only [Bool.false_eq_true, if_false]
    split_ifs
    · exact .refl l.fp
    all_goals try rw [finish_fp]
    all_goals try refine Keeps.trans ?_ (sysReboot_keeps _ io.boot)
    all_goals exact hprepare
  | true =>
    have hdown := hprepare.trans (disable_keeps _ io.fpDisable)
    simp only [if_true]
    split_ifs
    · exact .refl l.fp
    all_goals try rw [finish_fp]
    all_goals try refine Keeps.trans ?_ (sysReboot_keeps _ io.boot)
    all_goals first
      | exact hdown
      | exact hdown.trans (enable_keeps _ _ _)

theorem accountKeyWritten_keeps (l : Locator) (io : StackIo) :
    Keeps l.fp (accountKeyWritten l io).fp := by
  have hkey := fpAccountKey_keeps l.fp { l.stored with has_account_key := true }
  unfold accountKeyWritten fpAccountKeyWritten fmdnFactoryResetSchedule
  simp only
  split
  · exact hkey.trans (request_keeps _ _ _ io)
  · exact hkey

theorem provisioningStateChanged_keeps (l : Locator) (provisioned : Bool) (io : ProvisioningIo) :
    Keeps l.fp (provisioningStateChanged l provisioned io).fp := by
  have hfp := fpProvisioning_keeps l.fp provisioned io.rotate
  unfold provisioningStateChanged fmdnProvisioningStateChanged fmdnFactoryResetCancel
  simp only
  split
  · refine Keeps.trans ?_ (request_keeps _ _ _ io.ui)
    refine Keeps.trans ?_ (request_keeps _ _ _ io.fmdn)
    split <;> exact hfp
  · exact hfp.trans (request_keeps _ _ _ io.clock)

theorem clockSynced_keeps (l : Locator) (io : StackIo) : Keeps l.fp (fmdnClockSynced l io).fp := by
  unfold fmdnClockSynced
  split
  · exact request_keeps _ _ _ io
  · exact .refl l.fp

theorem fpAdvModeChange_keeps (l : Locator) (io : StackIo) :
    Keeps l.fp (fpAdvModeChange l io).fp := by
  unfold fpAdvModeChange
  split
  · exact .refl l.fp
  · exact request_keeps _ _ _ io

theorem toggle_keeps (l : Locator) (io : ToggleIo) :
    Keeps l.fp (fmdnAdvtModeChangeHandle l io).fp := by
  unfold fmdnAdvtModeChangeHandle
  simp only
  split_ifs
  all_goals try rw [finish_fp]
  all_goals first
    | exact .refl l.fp
    | exact request_keeps l.fp _ _ _

/-! ## The runs -/

/-- The restart work does not run under a link of an enabled module. -/
def RestartsWithoutLink (l : Locator) : Event → Prop
  | .restartWork _ => l.fp.is_enabled = true → l.fp.fp_conn = none
  | _ => True

instance (l : Locator) (e : Event) : Decidable (RestartsWithoutLink l e) := by
  apply Event.casesOn (motive := fun e => Decidable (RestartsWithoutLink l e)) e
  all_goals
    intros
    unfold RestartsWithoutLink
    infer_instance

/-- Every event but the restart work keeps the set in order by itself. -/
theorem next_keeps (l : Locator) (e : Event) (h : ∀ io, e ≠ .restartWork io) :
    Keeps l.fp (next l e).fp := by
  cases e with
  | connected err => exact connected_keeps l.fp err
  | fpAdvConnected conn => exact fpAdvConnected_keeps l.fp conn
  | disconnected conn => exact disconnected_keeps l.fp conn
  | restartWork io => exact absurd rfl (h io)
  | rpaExpired io => exact keeps_of_onlySet (rpaExpired_onlySet l.fp io)
  | rpaSuspensionWork => exact rpaSuspensionWork_keeps l.fp
  | request trigger enable io => exact request_keeps l.fp trigger enable io
  | enable io => exact enable_keeps l.fp l.stored io
  | disable io => exact disable_keeps l.fp io
  | accountKeyWritten io => exact accountKeyWritten_keeps l io
  | provisioningStateChanged provisioned io => exact provisioningStateChanged_keeps l provisioned io
  | clockSynced io => exact clockSynced_keeps l io
  | stopDiscoverable io => exact request_keeps l.fp _ _ io
  | fpAdvModeChange io => exact fpAdvModeChange_keeps l io
  | fmdnAdvModeChange io => exact toggle_keeps l io
  | factoryResetRequest => exact .refl l.fp
  | factoryResetWork io =>
    exact factoryResetPerform_keeps
      { l with reset := { l.reset with factory_reset_work := none } } io
  | reboot io => exact sysReboot_keeps l io

theorem next_inv (l : Locator) (e : Event) (h : Inv l.fp) : Inv (next l e).fp := by
  by_cases hwork : ∃ io, e = .restartWork io
  · obtain ⟨io, rfl⟩ := hwork
    exact (restartWork_spec l.fp io).1 h
  · exact (next_keeps l e (fun io he => hwork ⟨io, he⟩)).inv h

/-- The assertion goes on to hold just when the work does not run under a link. -/
theorem next_held (l : Locator) (e : Event) (h : l.fp.assertion_held = true) :
    (next l e).fp.assertion_held = true ↔ RestartsWithoutLink l e := by
  by_cases hwork : ∃ io, e = .restartWork io
  · obtain ⟨io, rfl⟩ := hwork
    rw [next, (restartWork_spec l.fp io).2, h, Bool.true_and, decide_eq_true_eq]
    exact Iff.rfl
  · rw [(next_keeps l e (fun io he => hwork ⟨io, he⟩)).held, h]
    have hfree : RestartsWithoutLink l e := by
      cases e with
      | restartWork io => exact absurd ⟨io, rfl⟩ hwork
      | _ => trivial
    exact iff_of_true rfl hfree

/-- The set serves one link in every state of a run just when the work that starts it again
never runs under a link. -/
theorem the_set_serves_one_link_while_restarts_wait_for_it (l : Locator) (es : List Event)
    (h : system.Run l es) :
    system.States (fun l => ServesOneLink l.fp) l es ↔ system.Steps RestartsWithoutLink l es := by
  obtain ⟨⟨stored, io, rfl⟩, hA⟩ := h
  have hup := boot_fp stored io
  have hinv := hup.inv inv_fresh
  have hserves : ServesOneLink (boot stored io).fp := (servesOneLink_iff hinv).mpr hup.held
  refine runs.System.states_iff_steps (fun l e hi _ _ => next_inv l e hi) ?_ hinv hserves hA
  intro l e hi hq _
  exact (servesOneLink_iff (next_inv l e hi)).trans (next_held l e hq.assertion_held)

/-- A Fast Pair link comes up and goes down, and the set starts again. -/
theorem a_link_that_ends_brings_the_set_back :
    system.States (fun l => ServesOneLink l.fp) freshLocator
      [.request .ui true quietStack, .fpAdvConnected 0, .disconnected 0, .restartWork quietStack] :=
  (the_set_serves_one_link_while_restarts_wait_for_it freshLocator _
    ⟨⟨_, _, rfl⟩, by decide⟩).mpr (by decide)

/-- A connection fails while the set serves a link, and the work restarts the set. -/
theorem a_failed_connection_restarts_the_set_under_a_link :
    ¬ ∀ (l : Locator) (es : List Event), system.Run l es →
      system.States (fun l => ServesOneLink l.fp) l es := by
  intro h
  have hrun := h freshLocator
    [.request .ui true quietStack, .fpAdvConnected 0, .connected 1, .restartWork quietStack]
    ⟨⟨_, _, rfl⟩, by decide⟩
  have hlast := runs.System.states_last hrun
  have hactive := hlast.one_link (by decide)
  revert hactive
  decide

end smart_track.fp_link
