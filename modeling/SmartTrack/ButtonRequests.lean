-- What the requests of the button leave behind in `main.c` and `factory_reset.c`: a request
-- for advertising that ends by itself, the flag of the locator toggle, and a request for a
-- factory reset that only the next boot would look at.
import SmartTrack.FactoryReset
import SmartTrack.FpPolicy

open smart_track.zephyr smart_track.fp_adv smart_track.locator smart_track.fp_policy
open smart_track.factory_reset (StartsThrough BootsThrough ReachesInit erased quietProvisioning
  quietReset)

namespace smart_track.button_requests

/-! ## The request for advertising -/

/-- The trigger of the user belongs to `main.c`, and nobody else raises or drops it. -/
def LeavesUi (_l : Locator) : Event → Prop
  | .request trigger _ _ => trigger ≠ .ui
  | _ => True

instance (l : Locator) (e : Event) : Decidable (LeavesUi l e) := by
  apply Event.casesOn (motive := fun e => Decidable (LeavesUi l e)) e
  all_goals
    intros
    unfold LeavesUi
    infer_instance

/-- The flag of `main.c` is the bit of the trigger, and while it is set `main.c` has no
provisioning on record and the work that clears it is pending. -/
def Timed (l : Locator) : Prop :=
  l.main.fp_adv_ui_request = isRequested l.fp .ui ∧
    (l.main.fp_adv_ui_request = true →
      l.main.fmdn_provisioned = false ∧ l.main.stop_discoverable_work ≠ none)

/-- While the flag is set, no provisioning is stored. -/
def AskedUnprovisioned (l : Locator) : Prop :=
  l.main.fp_adv_ui_request = true → l.stored.is_provisioned = false

/-- A tag in `k_panic` has no request either. -/
structure Bounded (l : Locator) : Prop where
  bit : l.main.fp_adv_ui_request = isRequested l.fp .ui
  free : l.main.fp_adv_ui_request = true → l.main.fmdn_provisioned = false
  work : l.main.fp_adv_ui_request = true → l.main.stop_discoverable_work ≠ none
  running : l.main.fp_adv_ui_request = true → l.halted = false

/-- There is no request. -/
structure Unasked (l : Locator) : Prop where
  flag : l.main.fp_adv_ui_request = false
  bit : isRequested l.fp .ui = false

theorem Unasked.bounded {l : Locator} (h : Unasked l) : Bounded l := by
  refine ⟨h.flag.trans h.bit.symm, ?_, ?_, ?_⟩
  all_goals
    intro hflag
    exact absurd (h.flag.symm.trans hflag) (by decide)

theorem Unasked.finish {l : Locator} {err : Int} (h : Unasked l) : Unasked (finish l err) := by
  unfold locator.finish
  split <;> exact ⟨h.flag, h.bit⟩

theorem Bounded.of_provisioned {l : Locator} (h : Bounded l)
    (hprov : l.main.fmdn_provisioned = true) : Unasked l := by
  have hflag : l.main.fp_adv_ui_request = false := by
    by_contra hset
    exact absurd ((h.free (by simpa using hset)).symm.trans hprov) (by decide)
  exact ⟨hflag, h.bit.symm.trans hflag⟩

/-- The requests of the other triggers do not touch the bit. -/
theorem request_ui {a : FpAdv} {trigger : Trigger} (enable : Bool) (io : StackIo)
    (h : trigger ≠ .ui) :
    isRequested (appFpAdvRequest a trigger enable io) .ui = isRequested a .ui := by
  rw [request_isRequested, if_neg h.symm]

theorem requestUi_ui (a : FpAdv) (enable : Bool) (io : StackIo) :
    isRequested (appFpAdvRequest a .ui enable io) .ui = enable := by
  rw [request_isRequested, if_pos rfl]

theorem requestUi_unasked (l : Locator) (io : StackIo) : Unasked (requestUi l false io) :=
  ⟨rfl, requestUi_ui _ false io⟩

theorem disable_ui (a : FpAdv) (io : StackIo) :
    isRequested (appFpAdvDisable a io).1 .ui = isRequested a .ui := by
  unfold isRequested
  rw [(disable_frame a io).2]

/-- A change of the module that leaves the bit alone. -/
theorem Bounded.with_fp {l : Locator} {a : FpAdv} (h : Bounded l)
    (hbit : isRequested a .ui = isRequested l.fp .ui) : Bounded { l with fp := a } :=
  ⟨h.bit.trans hbit.symm, h.free, h.work, h.running⟩

theorem boot_unasked (stored : Stored) (io : BootIo) : Unasked (boot stored io) := by
  have hdown : isRequested {} .ui = false := by decide
  have hup : isRequested (appFpAdvEnable {} stored io.fp).1 .ui = false :=
    (enable_isRequested {} stored io.fp .ui).trans hdown
  unfold boot
  simp only
  split
  · exact ⟨rfl, hdown⟩
  · split
    · exact ⟨rfl, hup⟩
    · unfold fmdnProvisioningStateInit fmdnProvisioningStateSet fmdnFactoryResetSchedule
      simp only
      split_ifs <;> exact ⟨rfl, hup⟩

theorem sysReboot_unasked (l : Locator) (io : BootIo) : Unasked (sysReboot l io) := by
  have h := boot_unasked l.stored io
  exact ⟨h.flag, h.bit⟩

/-- A factory reset drops the request before anything else. -/
theorem reset_bounded {l : Locator} (io : ResetIo) (h : Bounded l) :
    Bounded (factoryResetPerform l io) := by
  have hprepare : Unasked (prepared l io) := requestUi_unasked _ io.ui
  have hdown : isRequested (takenDown l io) .ui = false := by
    unfold takenDown
    split
    · exact (disable_ui _ io.fpDisable).trans hprepare.bit
    · exact hprepare.bit
  rcases factoryResetPerform_outcome l io with
    ⟨_, heq⟩ | ⟨fp, stored, ready, hleft, heq⟩ | ⟨u, _, heq⟩
  · rw [heq]
    exact h
  · have hbit : isRequested fp .ui = false := by
      rcases hleft with ⟨rfl, _⟩ | ⟨rfl, _, _⟩
      · exact hdown
      · exact (enable_isRequested _ _ io.fpEnable .ui).trans hdown
    rw [heq]
    exact Unasked.bounded ⟨hprepare.flag, hbit⟩
  · rw [heq]
    exact (sysReboot_unasked u io.boot).bounded

theorem accountKey_bounded {l : Locator} (io : StackIo) (h : Bounded l) :
    Bounded (locator.accountKeyWritten l io) := by
  have hwritten : isRequested (fpAdvAccountKeyWritten l.fp
      { l.stored with has_account_key := true }) .ui = isRequested l.fp .ui :=
    (accountKey_fields l.fp _).isRequested .ui
  have hrequest : ∀ b : FpAdv, isRequested b .ui = isRequested l.fp .ui →
      isRequested (appFpAdvRequest b .fmdn_provisioning true io) .ui = isRequested l.fp .ui :=
    fun b hb => (request_ui true io (by decide)).trans hb
  unfold locator.accountKeyWritten fpAccountKeyWritten
  simp only
  split
  · exact ⟨h.bit.trans (hrequest _ hwritten).symm, h.free, h.work, h.running⟩
  · exact ⟨h.bit.trans hwritten.symm, h.free, h.work, h.running⟩

/-- A provisioning drops the request. One that ends finds none, so the timer that it cancels
was not needed. -/
theorem provisioning_bounded {l : Locator} (provisioned : Bool) (io : ProvisioningIo)
    (h : Bounded l) : Bounded (locator.provisioningStateChanged l provisioned io) := by
  cases provisioned with
  | true => exact (requestUi_unasked _ io.ui).bounded
  | false =>
    have hrotated : isRequested (fpAdvProvisioningStateChanged l.fp false io.rotate) .ui =
        isRequested l.fp .ui := (fpProvisioning_same l.fp false io.rotate).isRequested .ui
    have hbit : isRequested (appFpAdvRequest
        (fpAdvProvisioningStateChanged l.fp false io.rotate) .clock_sync false io.clock) .ui =
          isRequested l.fp .ui := (request_ui false io.clock (by decide)).trans hrotated
    show Bounded (request (fmdnFactoryResetSchedule _ _ _) .clock_sync false io.clock)
    by_cases hsame : l.main.fmdn_provisioned = false
    · have hset : fmdnProvisioningStateSet l.main false = l.main := by
        unfold fmdnProvisioningStateSet
        rw [if_pos hsame]
      rw [hset]
      exact ⟨h.bit.trans hbit.symm, h.free, h.work, h.running⟩
    · obtain ⟨hflag, hzero⟩ := h.of_provisioned (by simpa using hsame)
      apply Unasked.bounded
      refine ⟨?_, hbit.trans hzero⟩
      show (fmdnProvisioningStateSet l.main false).fp_adv_ui_request = false
      unfold fmdnProvisioningStateSet
      split <;> exact hflag

theorem modeChange_bounded {l : Locator} (io : StackIo) (hrun : l.halted = false)
    (h : Bounded l) : Bounded (locator.fpAdvModeChange l io) := by
  unfold locator.fpAdvModeChange
  split
  · exact h
  · rename_i hprov
    have hfree : l.main.fmdn_provisioned = false := by simpa using hprov
    refine ⟨(requestUi_ui _ _ io).symm, fun _ => hfree, ?_, fun _ => hrun⟩
    intro hflag
    have hset : (! l.main.fp_adv_ui_request) = true := hflag
    show (if (! l.main.fp_adv_ui_request) = true then
      kWorkSchedule l.main.stop_discoverable_work (K_MINUTES DISC_ADV_TIMEOUT_MS) else _) ≠ none
    rw [if_pos hset]
    unfold kWorkSchedule
    cases l.main.stop_discoverable_work <;> simp

/-- The toggle only works on a tag that is provisioned, which has no request. -/
theorem toggle_bounded {l : Locator} (io : ToggleIo) (h : Bounded l) :
    Bounded (fmdnAdvtModeChangeHandle l io) := by
  unfold fmdnAdvtModeChangeHandle
  split
  · exact h
  rename_i hprov
  obtain ⟨hflag, hbit⟩ := h.of_provisioned (by simpa using hprov)
  have hclock : isRequested (appFpAdvRequest l.fp .clock_sync false io.clock) .ui = false :=
    (request_ui false io.clock (by decide)).trans hbit
  apply Unasked.bounded
  simp only
  split_ifs
  all_goals first
    | exact Unasked.finish ⟨hflag, hbit⟩
    | exact Unasked.finish ⟨hflag, hclock⟩

theorem bounded_next (l : Locator) (e : Event) (h : Bounded l) (ha : Allowed l e)
    (hui : LeavesUi l e) : Bounded (next l e) := by
  cases e with
  | connected err => exact h.with_fp ((connected_same l.fp err).isRequested .ui)
  | fpAdvConnected conn => exact h.with_fp rfl
  | disconnected conn => exact h.with_fp ((disconnected_same l.fp conn).isRequested .ui)
  | restartWork io => exact h.with_fp ((restartWork_same l.fp io).isRequested .ui)
  | rpaExpired io =>
    exact h.with_fp ((sameRequests_of_onlySet (rpaExpired_onlySet l.fp io)).isRequested .ui)
  | rpaSuspensionWork => exact h.with_fp rfl
  | request trigger enable io => exact h.with_fp (request_ui enable io hui)
  | enable io => exact h.with_fp (enable_isRequested l.fp l.stored io .ui)
  | disable io => exact h.with_fp (disable_ui l.fp io)
  | accountKeyWritten io => exact accountKey_bounded io h
  | provisioningStateChanged provisioned io => exact provisioning_bounded provisioned io h
  | clockSynced io =>
    rw [next, fmdnClockSynced]
    split
    · have hbit : isRequested (appFpAdvRequest l.fp .clock_sync false io) .ui =
          isRequested l.fp .ui := request_ui false io (by decide)
      exact ⟨h.bit.trans hbit.symm, h.free, h.work, h.running⟩
    · exact h
  | stopDiscoverable io => exact (requestUi_unasked _ io).bounded
  | fpAdvModeChange io => exact modeChange_bounded io ha h
  | fmdnAdvModeChange io => exact toggle_bounded io h
  | factoryResetRequest => exact ⟨h.bit, h.free, h.work, h.running⟩
  | factoryResetWork io => exact reset_bounded io ⟨h.bit, h.free, h.work, h.running⟩
  | reboot io => exact (sysReboot_unasked l io).bounded

/-! ## What `main.c` has on record -/

/-- The record of `main.c` is what is stored. -/
def OnRecord (l : Locator) : Prop :=
  l.halted = false → l.main.fmdn_provisioned = l.stored.is_provisioned

/-- Neither the record nor what is stored differs. -/
structure SameRecord (l u : Locator) : Prop where
  main : u.main.fmdn_provisioned = l.main.fmdn_provisioned
  stored : u.stored.is_provisioned = l.stored.is_provisioned
  halted : u.halted = false → l.halted = false

theorem OnRecord.same {l u : Locator} (h : OnRecord l) (hsame : SameRecord l u) : OnRecord u := by
  intro hrun
  rw [hsame.main, hsame.stored]
  exact h (hsame.halted hrun)

theorem stateSet_provisioned (m : Main) (provisioned : Bool) :
    (fmdnProvisioningStateSet m provisioned).fmdn_provisioned = provisioned := by
  unfold fmdnProvisioningStateSet
  split
  · rename_i hsame
    exact hsame
  · rfl

theorem boot_onRecord {stored : Stored} {io : BootIo} (hinit : ReachesInit stored io) :
    OnRecord (boot stored io) := by
  intro _
  unfold boot
  simp only [hinit.1, ne_eq, not_true_eq_false, if_false, hinit.2]
  unfold fmdnProvisioningStateInit fmdnFactoryResetSchedule
  simp only
  split <;> exact stateSet_provisioned _ _

theorem reset_onRecord {l : Locator} {io : ResetIo} (hinit : ReachesInit erased io.boot)
    (h : OnRecord l) : OnRecord (factoryResetPerform l io) := by
  rcases factoryResetPerform_cases l io with ⟨_, heq⟩ | ⟨hhalted, _⟩ | ⟨u, hu, heq⟩
  · rw [heq]
    exact h
  · intro hrun
    exact absurd (hhalted.symm.trans hrun) (by decide)
  · rw [heq]
    have hbooted : OnRecord (boot u.stored io.boot) := by
      rw [hu]
      exact boot_onRecord hinit
    exact hbooted.same ⟨rfl, rfl, id⟩

theorem provisioning_onRecord (l : Locator) (provisioned : Bool) (io : ProvisioningIo) :
    OnRecord (locator.provisioningStateChanged l provisioned io) := by
  have hset := stateSet_provisioned l.main provisioned
  intro _
  unfold locator.provisioningStateChanged fmdnProvisioningStateChanged
  simp only
  split
  · split <;> exact hset
  · exact hset

theorem toggle_sameRecord (l : Locator) (io : ToggleIo) :
    SameRecord l (fmdnAdvtModeChangeHandle l io) := by
  have hfinish : ∀ (u : Locator) (err : Int), SameRecord l u → SameRecord l (finish u err) := by
    intro u err hu
    unfold finish
    split
    · exact ⟨hu.main, hu.stored, fun hrun => by cases hrun⟩
    · exact hu
  unfold fmdnAdvtModeChangeHandle
  simp only
  split_ifs
  · exact ⟨rfl, rfl, id⟩
  all_goals exact hfinish _ _ ⟨rfl, rfl, id⟩

theorem onRecord_next (l : Locator) (e : Event) (h : OnRecord l) (hboot : BootsThrough l e) :
    OnRecord (next l e) := by
  have hkept : OnlyAdvertises e → OnRecord (next l e) := by
    intro he
    obtain ⟨fp, ui, work, sync, done, heq⟩ := onlyAdvertises_next l he
    rw [heq]
    exact h.same ⟨rfl, rfl, id⟩
  cases e with
  | accountKeyWritten io =>
    apply h.same
    show SameRecord l (locator.accountKeyWritten l io)
    unfold locator.accountKeyWritten fpAccountKeyWritten
    simp only
    split <;> exact ⟨rfl, rfl, id⟩
  | provisioningStateChanged provisioned io => exact provisioning_onRecord l provisioned io
  | fmdnAdvModeChange io => exact h.same (toggle_sameRecord l io)
  | factoryResetRequest => exact h.same ⟨rfl, rfl, id⟩
  | factoryResetWork io =>
    exact reset_onRecord hboot
      (h.same (u := { l with reset := { l.reset with factory_reset_work := none } })
        ⟨rfl, rfl, id⟩)
  | reboot io => exact (boot_onRecord hboot).same ⟨rfl, rfl, id⟩
  | _ => exact hkept trivial

/-- In every state of every run the flag of `main.c` is the bit of the trigger, and while it is
set the work that clears it is pending and `main.c` has no provisioning on record; and if every
boot comes through, none is stored. -/
theorem the_request_of_the_user_is_timed (l : Locator) (es : List Event)
    (h : system.Run l es) (hui : system.Steps LeavesUi l es) :
    system.States Timed l es ∧
      (StartsThrough l → system.Steps BootsThrough l es →
        system.States AskedUnprovisioned l es) := by
  obtain ⟨hstart, hA⟩ := h
  have hbounded : Bounded l := by
    obtain ⟨stored, io, rfl⟩ := hstart
    exact (boot_unasked stored io).bounded
  have hsteps := (runs.System.steps_and l es).mpr ⟨hA, hui⟩
  constructor
  · exact runs.System.states_of_invariant (fun l e hl hboth => bounded_next l e hl hboth.1 hboth.2)
      (fun l hl => ⟨hl.bit, fun hflag => ⟨hl.free hflag, hl.work hflag⟩⟩) hbounded hsteps
  · rintro ⟨stored, io, hinit, rfl⟩ hboots
    refine runs.System.states_of_invariant (I := fun l => Bounded l ∧ OnRecord l) ?_ ?_
      ⟨hbounded, boot_onRecord hinit⟩ ((runs.System.steps_and _ es).mpr ⟨hsteps, hboots⟩)
    · intro l e hl hall
      exact ⟨bounded_next l e hl.1 hall.1.1 hall.1.2, onRecord_next l e hl.2 hall.2⟩
    · intro l hl hflag
      rw [← hl.2 (hl.1.running hflag)]
      exact hl.1.free hflag

/-- The user asks twice, a key is written and the tag is provisioned and taken back. -/
def asked : List Event :=
  [.fpAdvModeChange quietStack, .fpAdvModeChange quietStack, .fpAdvModeChange quietStack,
    .accountKeyWritten quietStack, .provisioningStateChanged true quietProvisioning,
    .provisioningStateChanged false quietProvisioning]

theorem a_pairing_ends_the_request :
    system.States Timed freshLocator asked ∧
      system.States AskedUnprovisioned freshLocator asked := by
  have hrun := the_request_of_the_user_is_timed freshLocator asked ⟨⟨_, _, rfl⟩, by decide⟩
    (by decide)
  exact ⟨hrun.1, hrun.2 ⟨_, _, by decide, rfl⟩ (by decide)⟩

/-! ## The toggle of the locator -/

/-- The provisioning only changes while the Fast Pair subsystem is enabled. -/
def ReadyCallbacks (l : Locator) : Event → Prop
  | .provisioningStateChanged _ _ => l.fast_pair_ready = true
  | _ => True

instance (l : Locator) (e : Event) : Decidable (ReadyCallbacks l e) := by
  apply Event.casesOn (motive := fun e => Decidable (ReadyCallbacks l e)) e
  all_goals
    intros
    unfold ReadyCallbacks
    infer_instance

/-- While `main.c` has a provisioning on record, its flag says whether the subsystem is
enabled. -/
def FlagIsReady (l : Locator) : Prop :=
  l.halted = false → l.main.fmdn_provisioned = true →
    l.main.fmdn_enable_flag = l.fast_pair_ready

/-- What the toggle does is the same whatever stands in `err` when it starts. -/
def AssignsErr (l : Locator) : Event → Prop
  | .fmdnAdvModeChange io =>
    ∀ err, fmdnAdvtModeChangeHandle l { io with unsetErr := err } = fmdnAdvtModeChangeHandle l io
  | _ => True

/-- The fields that the law of the flag looks at are the same in both. -/
structure SameFlag (l u : Locator) : Prop where
  provisioned : u.main.fmdn_provisioned = l.main.fmdn_provisioned
  flag : u.main.fmdn_enable_flag = l.main.fmdn_enable_flag
  ready : u.fast_pair_ready = l.fast_pair_ready
  halted : u.halted = false → l.halted = false

theorem FlagIsReady.same {l u : Locator} (h : FlagIsReady l) (hsame : SameFlag l u) :
    FlagIsReady u := by
  intro hrun
  rw [hsame.provisioned, hsame.flag, hsame.ready]
  exact h (hsame.halted hrun)

/-- A record that changes takes the flag with it. -/
theorem stateSet_flag (m : Main) (provisioned : Bool) {ready : Bool}
    (hready : provisioned = true → ready = true)
    (h : m.fmdn_provisioned = true → m.fmdn_enable_flag = ready) :
    (fmdnProvisioningStateSet m provisioned).fmdn_provisioned = true →
      (fmdnProvisioningStateSet m provisioned).fmdn_enable_flag = ready := by
  unfold fmdnProvisioningStateSet
  split
  · exact h
  · intro hprov
    exact hprov.trans (hready hprov).symm

theorem boot_flag (stored : Stored) (io : BootIo) : FlagIsReady (boot stored io) := by
  have hset := stateSet_flag {} stored.is_provisioned (fun _ => rfl) (fun hprov => by cases hprov)
  intro _
  unfold boot
  simp only
  split
  · intro hprov
    cases hprov
  · split
    · intro hprov
      cases hprov
    · unfold fmdnProvisioningStateInit fmdnFactoryResetSchedule
      simp only
      split <;> exact hset

theorem sysReboot_flag (l : Locator) (io : BootIo) : FlagIsReady (sysReboot l io) :=
  (boot_flag l.stored io).same ⟨rfl, rfl, rfl, id⟩

theorem reset_flag {l : Locator} (io : ResetIo) (h : FlagIsReady l) :
    FlagIsReady (factoryResetPerform l io) := by
  rcases factoryResetPerform_cases l io with ⟨_, heq⟩ | ⟨hhalted, _⟩ | ⟨u, _, heq⟩
  · rw [heq]
    exact h
  · intro hrun
    exact absurd (hhalted.symm.trans hrun) (by decide)
  · rw [heq]
    exact sysReboot_flag u io.boot

theorem provisioning_flag {l : Locator} (provisioned : Bool) (io : ProvisioningIo)
    (hrun : l.halted = false) (hready : l.fast_pair_ready = true) (h : FlagIsReady l) :
    FlagIsReady (locator.provisioningStateChanged l provisioned io) := by
  have hset := stateSet_flag l.main provisioned (fun _ => hready) (h hrun)
  intro _
  unfold locator.provisioningStateChanged fmdnProvisioningStateChanged
  simp only
  split
  · split <;> exact hset
  · exact hset

/-- A call that fails ends in `k_panic`, and one that succeeds brings the subsystem to where
the flag is. -/
theorem toggle_flag {l : Locator} (io : ToggleIo) (hrun : l.halted = false) (h : FlagIsReady l) :
    FlagIsReady (fmdnAdvtModeChangeHandle l io) := by
  have hpanic : ∀ (u : Locator) (err : Int), err ≠ 0 → FlagIsReady (finish u err) := by
    intro u err herr hstill
    unfold finish at hstill
    rw [if_pos herr] at hstill
    cases hstill
  unfold fmdnAdvtModeChangeHandle
  split
  · exact h
  rename_i hprov
  have hsame := h hrun (by simpa using hprov)
  cases hflag : l.main.fmdn_enable_flag with
  | true =>
    simp only [Bool.not_true, if_true, ← hsame, hflag]
    split
    · rename_i hrc
      exact hpanic _ _ hrc
    · exact fun _ _ => rfl
  | false =>
    simp only [Bool.not_false, Bool.true_eq_false, if_false, ← hsame, hflag, if_true]
    split
    · rename_i hrc
      exact hpanic _ _ hrc
    · exact fun _ _ => rfl

/-- While the flag says whether the subsystem is enabled, the toggle always makes its call. -/
theorem toggle_assigns {l : Locator} (io : ToggleIo) (hrun : l.halted = false)
    (h : FlagIsReady l) : AssignsErr l (.fmdnAdvModeChange io) := by
  intro err
  unfold fmdnAdvtModeChangeHandle
  by_cases hprov : l.main.fmdn_provisioned = false
  · rw [if_pos hprov, if_pos hprov]
  · have hsame := h hrun (by simpa using hprov)
    rw [if_neg hprov, if_neg hprov]
    cases hflag : l.main.fmdn_enable_flag <;> simp [← hsame, hflag]

theorem flag_next (l : Locator) (e : Event) (h : FlagIsReady l) (ha : Allowed l e)
    (hready : ReadyCallbacks l e) : FlagIsReady (next l e) := by
  have hkept : OnlyAdvertises e → FlagIsReady (next l e) := by
    intro he
    obtain ⟨fp, ui, work, sync, done, heq⟩ := onlyAdvertises_next l he
    rw [heq]
    exact h.same ⟨rfl, rfl, rfl, id⟩
  cases e with
  | accountKeyWritten io =>
    apply h.same
    show SameFlag l (locator.accountKeyWritten l io)
    unfold locator.accountKeyWritten fpAccountKeyWritten
    simp only
    split <;> exact ⟨rfl, rfl, rfl, id⟩
  | provisioningStateChanged provisioned io => exact provisioning_flag provisioned io ha.1 hready h
  | fmdnAdvModeChange io => exact toggle_flag io ha h
  | factoryResetRequest => exact h.same ⟨rfl, rfl, rfl, id⟩
  | factoryResetWork io =>
    exact reset_flag io
      (h.same (u := { l with reset := { l.reset with factory_reset_work := none } })
        ⟨rfl, rfl, rfl, id⟩)
  | reboot io => exact sysReboot_flag l io
  | _ => exact hkept trivial

/-- While provisioning callbacks only come over an enabled subsystem, the flag of a provisioned
tag says whether it is enabled, and the toggle never looks at an `err` that is not assigned. -/
theorem the_toggle_assigns_err (l : Locator) (es : List Event) (h : system.Run l es)
    (hready : system.Steps ReadyCallbacks l es) :
    system.States FlagIsReady l es ∧ system.Steps AssignsErr l es := by
  obtain ⟨⟨stored, io, rfl⟩, hA⟩ := h
  have hsteps := (runs.System.steps_and _ es).mpr ⟨hA, hready⟩
  refine ⟨runs.System.states_of_invariant
    (fun l e hl hboth => flag_next l e hl hboth.1 hboth.2) (fun _ hl => hl)
    (boot_flag stored io) hsteps, ?_⟩
  refine (runs.System.steps_of_invariant (I := FlagIsReady) ?_ (boot_flag stored io) hsteps).1
  intro l e hl hboth
  refine ⟨?_, flag_next l e hl hboth.1 hboth.2⟩
  cases e with
  | fmdnAdvModeChange io => exact toggle_assigns io hboth.1 hl
  | _ => trivial

/-- A tag is provisioned, and the locator is switched off and on again. -/
def toggledTwice : List Event :=
  [.accountKeyWritten quietStack, .provisioningStateChanged true quietProvisioning,
    .fmdnAdvModeChange { fastPairRc := 0, unsetErr := -5, clock := quietStack },
    .fmdnAdvModeChange { fastPairRc := 0, unsetErr := -5, clock := quietStack }]

theorem two_toggles_are_safe :
    system.States FlagIsReady freshLocator toggledTwice ∧
      system.Steps AssignsErr freshLocator toggledTwice :=
  the_toggle_assigns_err freshLocator toggledTwice ⟨⟨_, _, rfl⟩, by decide⟩ (by decide)

/-! ## The request for a factory reset -/

/-- The events of the tag, and the calls that another module may make to `factory_reset.c`. -/
inductive ResetCall
  | tag (e : Event)
  | schedule (delay : Nat)
  | cancel

def ResetAllowed (l : Locator) : ResetCall → Prop
  | .tag e => Allowed l e
  | _ => l.halted = false

instance (l : Locator) (c : ResetCall) : Decidable (ResetAllowed l c) := by
  apply ResetCall.casesOn (motive := fun c => Decidable (ResetAllowed l c)) c
  all_goals
    intros
    unfold ResetAllowed
    infer_instance

def resetStep (l : Locator) : ResetCall → Locator
  | .tag e => next l e
  | .schedule delay => { l with reset := appFactoryResetSchedule l.reset delay }
  | .cancel => { l with reset := appFactoryResetCancel l.reset }

def resetSystem : runs.System Locator ResetCall where
  start := system.start
  allowed := ResetAllowed
  next := resetStep

instance (l : Locator) (c : ResetCall) : Decidable (resetSystem.allowed l c) :=
  inferInstanceAs (Decidable (ResetAllowed l c))

/-- A request of the user is on record only while a reset is scheduled or runs. -/
def Heard (r : FactoryReset) : Prop :=
  r.factory_reset_ui_requested = true →
    r.factory_reset_state = .PENDING ∧ r.factory_reset_work ≠ none ∨
      r.factory_reset_state = .IN_PROGRESS

instance (r : FactoryReset) : Decidable (Heard r) := inferInstanceAs (Decidable (_ → _))

/-- The user asks while a reset is scheduled or runs, and a reset that the user has asked for is
not cancelled. -/
def AsksInTime (l : Locator) : ResetCall → Prop
  | .tag .factoryResetRequest => l.reset.factory_reset_state ≠ .IDLE
  | .tag (.provisioningStateChanged provisioned _) =>
    provisioned = true → l.main.factory_reset_trigger = .PROVISIONING_TIMEOUT →
      l.reset.factory_reset_ui_requested = true → l.reset.factory_reset_state = .IN_PROGRESS
  | .cancel =>
    l.reset.factory_reset_ui_requested = true → l.reset.factory_reset_state = .IN_PROGRESS
  | _ => True

instance (l : Locator) (c : ResetCall) : Decidable (AsksInTime l c) := by
  apply ResetCall.casesOn (motive := fun c => Decidable (AsksInTime l c)) c
  · intro e
    apply Event.casesOn (motive := fun e => Decidable (AsksInTime l (.tag e))) e
    all_goals
      intros
      unfold AsksInTime
      infer_instance
  all_goals
    intros
    unfold AsksInTime
    infer_instance

/-- A reset that is pending has its work scheduled. -/
def Waits (r : FactoryReset) : Prop :=
  r.factory_reset_state = .PENDING → r.factory_reset_work ≠ none

theorem schedule_waits {r : FactoryReset} (delay : Nat) (h : Waits r) :
    Waits (appFactoryResetSchedule r delay) := by
  unfold appFactoryResetSchedule
  split
  · exact h
  · intro _
    unfold kWorkSchedule
    cases r.factory_reset_work <;> simp

theorem schedule_heard {r : FactoryReset} (delay : Nat) (h : Heard r) :
    Heard (appFactoryResetSchedule r delay) := by
  unfold appFactoryResetSchedule
  split
  · exact h
  · rename_i hidle
    rw [not_not] at hidle
    intro hasked
    rcases h hasked with ⟨hpending, _⟩ | hprogress
    · exact absurd (hidle.symm.trans hpending) (by decide)
    · exact absurd (hidle.symm.trans hprogress) (by decide)

theorem cancel_waits {r : FactoryReset} (h : Waits r) : Waits (appFactoryResetCancel r) := by
  unfold appFactoryResetCancel
  split
  · exact h
  · intro hpending
    cases hpending

/-- A cancel loses a request unless a reset runs. -/
theorem cancel_heard {r : FactoryReset} (h : Heard r) :
    Heard (appFactoryResetCancel r) ↔
      (r.factory_reset_ui_requested = true → r.factory_reset_state = .IN_PROGRESS) := by
  unfold appFactoryResetCancel
  split
  · rename_i hprogress
    exact iff_of_true h (fun _ => hprogress)
  · rename_i hstill
    constructor
    · intro hheard hasked
      rcases hheard hasked with ⟨hpending, _⟩ | hprogress
      · cases hpending
      · cases hprogress
    · intro hnone hasked
      exact absurd (hnone hasked) hstill

/-- A request is heard just when a reset is scheduled or runs. -/
theorem request_heard {r : FactoryReset} (h : Waits r) :
    Heard { r with factory_reset_ui_requested := true } ↔ r.factory_reset_state ≠ .IDLE := by
  constructor
  · intro hheard hidle
    rcases hheard rfl with ⟨hpending, _⟩ | hprogress
    · exact absurd (hidle.symm.trans hpending) (by decide)
    · exact absurd (hidle.symm.trans hprogress) (by decide)
  · intro hbusy _
    cases hstate : r.factory_reset_state with
    | IDLE => exact absurd hstate hbusy
    | PENDING => exact Or.inl ⟨rfl, h hstate⟩
    | IN_PROGRESS => exact Or.inr rfl

/-- After a boot nothing is on record, and a reset that the boot has found to be needed is
scheduled. -/
theorem boot_reset (stored : Stored) (io : BootIo) :
    Waits (boot stored io).reset ∧ (boot stored io).reset.factory_reset_ui_requested = false := by
  have hfresh : Waits {} := fun hpending => by cases hpending
  unfold boot
  simp only
  split
  · exact ⟨hfresh, rfl⟩
  · split
    · exact ⟨hfresh, rfl⟩
    · unfold fmdnProvisioningStateInit fmdnFactoryResetSchedule
      simp only
      split
      · exact ⟨schedule_waits _ hfresh, rfl⟩
      · exact ⟨hfresh, rfl⟩

theorem toggle_reset (l : Locator) (io : ToggleIo) :
    (fmdnAdvtModeChangeHandle l io).reset = l.reset := by
  unfold fmdnAdvtModeChangeHandle finish
  simp only
  split_ifs <;> rfl

/-- A reset that is carried out runs until the restart. -/
theorem reset_runs (l : Locator) (io : ResetIo) :
    (factoryResetPerform l io).reset.factory_reset_state = .IN_PROGRESS ∨
      ∃ u, factoryResetPerform l io = sysReboot u io.boot := by
  rcases factoryResetPerform_outcome l io with ⟨hstate, heq⟩ | ⟨_, _, _, _, heq⟩ | ⟨u, _, heq⟩
  · rw [heq]
    exact Or.inl hstate
  · rw [heq]
    exact Or.inl rfl
  · exact Or.inr ⟨u, heq⟩

/-- What an event does to the state of `factory_reset.c`, and what it takes for a request to be
heard then. -/
inductive ResetMove (l : Locator) (e : Event) : Prop
  | stays (hreset : (next l e).reset = l.reset) (hasks : AsksInTime l (.tag e))
  | schedules (delay : Nat) (hreset : (next l e).reset = appFactoryResetSchedule l.reset delay)
      (hasks : AsksInTime l (.tag e))
  | cancels (hreset : (next l e).reset = appFactoryResetCancel l.reset)
      (hasks : AsksInTime l (.tag e) ↔ (l.reset.factory_reset_ui_requested = true →
        l.reset.factory_reset_state = .IN_PROGRESS))
  | asks (hreset : (next l e).reset = { l.reset with factory_reset_ui_requested := true })
      (hasks : AsksInTime l (.tag e) ↔ l.reset.factory_reset_state ≠ .IDLE)
  | carriesOut (hruns : (next l e).reset.factory_reset_state = .IN_PROGRESS)
      (hasks : AsksInTime l (.tag e))
  | boots (stored : Stored) (io : BootIo) (hreset : (next l e).reset = (boot stored io).reset)
      (hasks : AsksInTime l (.tag e))

theorem reset_move (l : Locator) (e : Event) : ResetMove l e := by
  have hkept : OnlyAdvertises e → (next l e).reset = l.reset := by
    intro he
    obtain ⟨fp, ui, work, sync, done, heq⟩ := onlyAdvertises_next l he
    rw [heq]
  cases e with
  | accountKeyWritten io =>
    by_cases hkey : l.main.fp_account_key_present = false
    · refine .schedules (K_MINUTES FMDN_PROVISIONING_TIMEOUT) ?_ trivial
      show (locator.accountKeyWritten l io).reset = _
      unfold locator.accountKeyWritten fpAccountKeyWritten
      simp only [if_pos hkey]
      rfl
    · refine .stays ?_ trivial
      show (locator.accountKeyWritten l io).reset = _
      unfold locator.accountKeyWritten fpAccountKeyWritten
      simp only [if_neg hkey]
  | provisioningStateChanged provisioned io =>
    cases provisioned with
    | true =>
      have htrigger : (fmdnProvisioningStateSet l.main true).factory_reset_trigger =
          l.main.factory_reset_trigger := (factory_reset.stateSet_same l.main true).2
      have hreset : (next l (.provisioningStateChanged true io)).reset =
          if l.main.factory_reset_trigger = .PROVISIONING_TIMEOUT then appFactoryResetCancel l.reset
          else l.reset := by
        rw [← htrigger]
        show (locator.provisioningStateChanged l true io).reset = _
        unfold locator.provisioningStateChanged fmdnProvisioningStateChanged
        simp only [if_true]
        split <;> rfl
      by_cases hwaits : l.main.factory_reset_trigger = .PROVISIONING_TIMEOUT
      · rw [if_pos hwaits] at hreset
        exact .cancels hreset ⟨fun hnone => hnone rfl hwaits, fun hnone _ _ => hnone⟩
      · rw [if_neg hwaits] at hreset
        exact .stays hreset (fun _ hc => absurd hc hwaits)
    | false => exact .schedules _ rfl (fun hc => by cases hc)
  | fmdnAdvModeChange io => exact .stays (toggle_reset l io) trivial
  | factoryResetRequest => exact .asks rfl Iff.rfl
  | factoryResetWork io =>
    rcases reset_runs { l with reset := { l.reset with factory_reset_work := none } } io with
      hruns | ⟨u, heq⟩
    · exact .carriesOut hruns trivial
    · exact .boots u.stored io.boot ((congrArg Locator.reset heq).trans rfl) trivial
  | reboot io => exact .boots l.stored io rfl trivial
  | _ => exact .stays (hkept trivial) trivial

theorem waits_next {l : Locator} (e : Event) (h : Waits l.reset) : Waits (next l e).reset := by
  rcases reset_move l e with ⟨hreset, _⟩ | ⟨delay, hreset, _⟩ | ⟨hreset, _⟩ | ⟨hreset, _⟩ |
    ⟨hruns, _⟩ | ⟨stored, io, hreset, _⟩
  · rw [hreset]
    exact h
  · rw [hreset]
    exact schedule_waits delay h
  · rw [hreset]
    exact cancel_waits h
  · rw [hreset]
    exact h
  · intro hpending
    exact absurd (hruns.symm.trans hpending) (by decide)
  · rw [hreset]
    exact (boot_reset stored io).1

theorem heard_next {l : Locator} (e : Event) (hw : Waits l.reset) (h : Heard l.reset) :
    Heard (next l e).reset ↔ AsksInTime l (.tag e) := by
  rcases reset_move l e with ⟨hreset, hasks⟩ | ⟨delay, hreset, hasks⟩ | ⟨hreset, hasks⟩ |
    ⟨hreset, hasks⟩ | ⟨hruns, hasks⟩ | ⟨stored, io, hreset, hasks⟩
  · rw [hreset]
    exact iff_of_true h hasks
  · rw [hreset]
    exact iff_of_true (schedule_heard delay h) hasks
  · rw [hreset, hasks]
    exact cancel_heard h
  · rw [hreset, hasks]
    exact request_heard hw
  · exact iff_of_true (fun _ => Or.inr hruns) hasks
  · rw [hreset]
    refine iff_of_true ?_ hasks
    intro hasked
    exact absurd ((boot_reset stored io).2.symm.trans hasked) (by decide)

/-- In a run from a boot a request for a factory reset is only on record while a reset is
scheduled or runs, just when each request finds one and none is cancelled under a request. -/
theorem a_request_is_heard_while_a_reset_waits (l : Locator) (es : List ResetCall)
    (h : resetSystem.Run l es) :
    resetSystem.States (fun l => Heard l.reset) l es ↔ resetSystem.Steps AsksInTime l es := by
  obtain ⟨⟨stored, io, rfl⟩, hA⟩ := h
  obtain ⟨hwaits, hnone⟩ := boot_reset stored io
  have hheard : Heard (boot stored io).reset := fun hasked =>
    absurd (hnone.symm.trans hasked) (by decide)
  refine runs.System.states_iff_steps (I := fun l => Waits l.reset) ?_ ?_ hwaits hheard hA
  · intro l c hw _ _
    cases c with
    | tag e => exact waits_next e hw
    | schedule delay => exact schedule_waits delay hw
    | cancel => exact cancel_waits hw
  · intro l c hw hq _
    cases c with
    | tag e => exact heard_next e hw hq
    | schedule delay => exact iff_of_true (schedule_heard delay hq) trivial
    | cancel => exact cancel_heard hq

/-- The key of an account is written, the user asks for a reset, and the provisioning fails to
come. -/
theorem a_request_over_a_pending_reset_is_heard :
    resetSystem.States (fun l => Heard l.reset) freshLocator
      [.tag (.accountKeyWritten quietStack), .tag .factoryResetRequest,
        .tag (.factoryResetWork quietReset)] :=
  (a_request_is_heard_while_a_reset_waits freshLocator _ ⟨⟨_, _, rfl⟩, by decide⟩).mpr (by decide)

/-- The user asks a tag that has nothing scheduled: nothing comes of it. -/
theorem a_request_on_an_idle_tag_is_lost :
    ¬ ∀ (l : Locator) (es : List ResetCall), resetSystem.Run l es →
      resetSystem.States (fun l => Heard l.reset) l es := by
  intro h
  have hrun := h freshLocator [.tag .factoryResetRequest] ⟨⟨_, _, rfl⟩, by decide⟩
  have hlast := runs.System.states_last hrun
  revert hlast
  decide

end smart_track.button_requests
