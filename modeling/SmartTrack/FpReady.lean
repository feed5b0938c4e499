-- The Fast Pair advertising module over the Fast Pair subsystem: the module is up only
-- while the subsystem is enabled. The factory reset takes the module down first; the
-- toggle of the locator only switches the subsystem.
import SmartTrack.FpPolicy

open smart_track.fp_adv smart_track.locator smart_track.fp_policy

namespace smart_track.fp_ready

/-! ## The runs -/

/-- The module is only switched by the boot and by the factory reset. -/
def Switches : Event → Prop
  | .enable _ => True
  | .disable _ => True
  | _ => False

instance (e : Event) : Decidable (Switches e) := by
  apply Event.casesOn (motive := fun e => Decidable (Switches e)) e
  all_goals
    intros
    unfold Switches
    infer_instance

def system : runs.System Locator Event where
  start := locator.system.start
  allowed l e := Allowed l e ∧ ¬ Switches e
  next := next

/-! ## The law -/

/-- `app_fp_adv_is_ready` implies `bt_fast_pair_is_ready`. -/
def UpOverReady (l : Locator) : Prop := l.fp.is_enabled = true → l.fast_pair_ready = true

instance (l : Locator) : Decidable (UpOverReady l) := inferInstanceAs (Decidable (_ → _))

/-- The tag when a factory reset has taken down the module, and the subsystem under it. -/
def bothDown (l : Locator) (io : ResetIo) : Locator :=
  let l := fmdnFactoryResetPrepare
    { l with reset := { l.reset with factory_reset_state := .IN_PROGRESS } } io
  { l with fp := (appFpAdvDisable l.fp io.fpDisable).1, fast_pair_ready := false }

/-- The tag in which a factory reset calls `app_fp_adv_enable`, if it comes to the call. -/
def atEnable (l : Locator) (io : ResetIo) : Option Locator :=
  let disabled := appFpAdvDisable (fmdnFactoryResetPrepare
    { l with reset := { l.reset with factory_reset_state := .IN_PROGRESS } } io).fp io.fpDisable
  if l.reset.factory_reset_state ≠ .IN_PROGRESS ∧ l.fp.is_enabled = true ∧ disabled.2 = 0 ∧
      (l.fast_pair_ready = true → io.disableRc = 0) ∧ io.factoryResetRc = 0 ∧
      (l.fast_pair_ready = true → io.enableRc = 0) then
    some { btFastPairFactoryReset (bothDown l io) io.factoryResetRc with
      fast_pair_ready := l.fast_pair_ready }
  else
    none

/-- The rest of the factory reset, from that call on. -/
def fromEnable (l : Locator) (io : ResetIo) : Locator :=
  let (fp, err) := appFpAdvEnable l.fp l.stored io.fpEnable
  let l := { l with fp := fp }
  if err ≠ 0 then finish l err else sysReboot (fmdnFactoryResetExecuted l) io.boot

/-- The first assertion of `app_fp_adv_enable` holds wherever a factory reset calls it. A boot
calls it right after it has enabled the subsystem. -/
def AssertionHolds (l : Locator) : Event → Prop
  | .factoryResetWork io =>
    ∀ u ∈ atEnable { l with reset := { l.reset with factory_reset_work := none } } io,
      u.fast_pair_ready = true
  | _ => True

instance (l : Locator) (e : Event) : Decidable (AssertionHolds l e) := by
  apply Event.casesOn (motive := fun e => Decidable (AssertionHolds l e)) e
  all_goals
    intros
    unfold AssertionHolds
    infer_instance

/-- The toggle does not disable the subsystem under the module: it is not accepted, or it does
not switch the locator off, or the module is down, or the subsystem stays as it is. -/
def LeavesReady (l : Locator) : Event → Prop
  | .fmdnAdvModeChange io =>
    ¬ (l.main.fmdn_provisioned = true ∧ l.main.fmdn_enable_flag = true ∧
      l.fp.is_enabled = true ∧ io.fastPairRc = 0)
  | _ => True

instance (l : Locator) (e : Event) : Decidable (LeavesReady l e) := by
  apply Event.casesOn (motive := fun e => Decidable (LeavesReady l e)) e
  all_goals
    intros
    unfold LeavesReady
    infer_instance

/-! ## The call of the factory reset -/

/-- A factory reset that comes to the call goes on from there. -/
theorem perform_atEnable {l u : Locator} {io : ResetIo} (h : atEnable l io = some u) :
    factoryResetPerform l io = fromEnable u io := by
  unfold atEnable at h
  simp only [Option.ite_none_right_eq_some, Option.some.injEq] at h
  obtain ⟨⟨hstate, hup, hdown, hdisable, hreset, henable⟩, rfl⟩ := h
  unfold factoryResetPerform fromEnable bothDown
  simp only [hup, if_neg hstate, if_true, hdown]
  rw [if_neg (by simp), if_neg (by tauto), if_neg (by simp [hreset]), if_neg (by tauto)]

theorem atEnable_ready {l u : Locator} {io : ResetIo} (h : atEnable l io = some u) :
    l.fp.is_enabled = true ∧ u.fast_pair_ready = l.fast_pair_ready := by
  unfold atEnable at h
  simp only [Option.ite_none_right_eq_some, Option.some.injEq] at h
  obtain ⟨⟨_, hup, _⟩, rfl⟩ := h
  exact ⟨hup, rfl⟩

/-! ## One step -/

/-- Neither the module nor the subsystem is switched. -/
structure SameReady (l u : Locator) : Prop where
  enabled : u.fp.is_enabled = l.fp.is_enabled
  ready : u.fast_pair_ready = l.fast_pair_ready

theorem SameReady.refl (l : Locator) : SameReady l l := ⟨rfl, rfl⟩

theorem SameReady.trans {l u v : Locator} (h : SameReady l u) (k : SameReady u v) :
    SameReady l v := ⟨k.enabled.trans h.enabled, k.ready.trans h.ready⟩

theorem SameReady.upOverReady {l u : Locator} (h : SameReady l u) (hl : UpOverReady l) :
    UpOverReady u := by
  unfold UpOverReady
  rw [h.enabled, h.ready]
  exact hl

theorem request_sameReady (l : Locator) (trigger : Trigger) (enable : Bool) (io : StackIo) :
    SameReady l (request l trigger enable io) := ⟨request_enabled l.fp trigger enable io, rfl⟩

theorem requestUi_sameReady (l : Locator) (enable : Bool) (io : StackIo) :
    SameReady l (requestUi l enable io) := ⟨request_enabled l.fp .ui enable io, rfl⟩

theorem accountKey_sameReady (l : Locator) (io : StackIo) :
    SameReady l (locator.accountKeyWritten l io) := by
  have hwritten : (fpAdvAccountKeyWritten l.fp
      { l.stored with has_account_key := true }).is_enabled = l.fp.is_enabled := by
    unfold fpAdvAccountKeyWritten
    simp only
    split <;> rfl
  unfold locator.accountKeyWritten fpAccountKeyWritten
  simp only
  split
  · exact ⟨(request_enabled _ _ _ _).trans hwritten, rfl⟩
  · exact ⟨hwritten, rfl⟩

theorem provisioning_sameReady (l : Locator) (provisioned : Bool) (io : ProvisioningIo) :
    SameReady l (locator.provisioningStateChanged l provisioned io) := by
  have hrotated := (fpProvisioning_same l.fp provisioned io.rotate).enabled
  unfold locator.provisioningStateChanged fmdnProvisioningStateChanged
  simp only
  split
  · split
    · exact ⟨((request_enabled _ _ _ _).trans (request_enabled _ _ _ _)).trans hrotated, rfl⟩
    · exact ⟨((request_enabled _ _ _ _).trans (request_enabled _ _ _ _)).trans hrotated, rfl⟩
  · exact ⟨(request_enabled _ _ _ _).trans hrotated, rfl⟩

theorem finish_sameReady (l : Locator) (err : Int) : SameReady l (finish l err) := by
  unfold finish
  split <;> exact ⟨rfl, rfl⟩

/-- The toggle leaves the module as it is. -/
theorem toggle_enabled (l : Locator) (io : ToggleIo) :
    (fmdnAdvtModeChangeHandle l io).fp.is_enabled = l.fp.is_enabled := by
  unfold fmdnAdvtModeChangeHandle
  simp only
  split_ifs
  · rfl
  · exact (finish_sameReady _ _).enabled
  · exact (finish_sameReady _ _).enabled.trans (request_enabled _ _ _ _)
  · exact (finish_sameReady _ _).enabled.trans (request_enabled _ _ _ _)
  · exact (finish_sameReady _ _).enabled
  · exact (finish_sameReady _ _).enabled
  · exact (finish_sameReady _ _).enabled

/-- It disables an enabled subsystem just when it switches the locator off. -/
theorem toggle_disables_iff {l : Locator} (io : ToggleIo) (hready : l.fast_pair_ready = true) :
    (fmdnAdvtModeChangeHandle l io).fast_pair_ready = false ↔
      l.main.fmdn_provisioned = true ∧ l.main.fmdn_enable_flag = true ∧ io.fastPairRc = 0 := by
  unfold fmdnAdvtModeChangeHandle
  simp only
  split_ifs with hprov hflag hrc hrc
  · simp [hprov, hready]
  · rw [(finish_sameReady _ _).ready]
    simp [hready, hrc]
  · rw [(finish_sameReady _ _).ready]
    simp_all [request]
  all_goals
    rw [(finish_sameReady _ _).ready]
    simp_all

/-- A boot enables the subsystem before the module. -/
theorem boot_upOverReady (stored : Stored) (io : locator.BootIo) :
    UpOverReady (locator.boot stored io) := by
  unfold locator.boot UpOverReady
  simp only
  split
  · exact id
  · split
    · exact fun _ => rfl
    · intro _
      unfold fmdnProvisioningStateInit fmdnFactoryResetSchedule
      simp only
      split <;> rfl

/-- A factory reset ends as it began, or with the module down, or in a boot. -/
theorem reset_upOverReady {l : Locator} (io : ResetIo) (h : UpOverReady l) :
    UpOverReady (factoryResetPerform l io) := by
  rcases factoryResetPerform_cases l io with ⟨_, heq⟩ | ⟨_, hoff⟩ | ⟨u, _, heq⟩
  · rw [heq]
    exact h
  · intro hup
    rw [hoff] at hup
    contradiction
  · rw [heq]
    exact boot_upOverReady u.stored io.boot

theorem toggle_upOverReady {l : Locator} (io : ToggleIo) (h : UpOverReady l) :
    UpOverReady (next l (.fmdnAdvModeChange io)) ↔ LeavesReady l (.fmdnAdvModeChange io) := by
  cases hup : l.fp.is_enabled with
  | false =>
    refine iff_of_true ?_ (fun hoff => ?_)
    · intro hstill
      rw [next, toggle_enabled, hup] at hstill
      contradiction
    · rw [hup] at hoff
      exact absurd hoff.2.2.1 (by decide)
  | true =>
    have hstill : (next l (.fmdnAdvModeChange io)).fp.is_enabled = true :=
      (toggle_enabled l io).trans hup
    have hdisables := toggle_disables_iff io (h hup)
    have hnext : UpOverReady (next l (.fmdnAdvModeChange io)) ↔
        ¬ (fmdnAdvtModeChangeHandle l io).fast_pair_ready = false := by
      rw [Bool.not_eq_false]
      exact ⟨fun hq => hq hstill, fun hq _ => hq⟩
    rw [hnext, hdisables]
    simp [LeavesReady, hup]

/-- The toggle is the one handler that can take the subsystem away under the module. -/
theorem upOverReady_next {l : Locator} {e : Event} (h : UpOverReady l) (he : ¬ Switches e) :
    UpOverReady (next l e) ↔ LeavesReady l e := by
  cases e with
  | fmdnAdvModeChange io => exact toggle_upOverReady io h
  | enable io => exact absurd trivial he
  | disable io => exact absurd trivial he
  | connected err =>
    exact iff_of_true (SameReady.upOverReady ⟨(connected_same l.fp err).enabled, rfl⟩ h) trivial
  | fpAdvConnected conn => exact iff_of_true h trivial
  | disconnected conn =>
    exact iff_of_true (SameReady.upOverReady ⟨(disconnected_same l.fp conn).enabled, rfl⟩ h) trivial
  | restartWork io =>
    exact iff_of_true (SameReady.upOverReady ⟨(restartWork_same l.fp io).enabled, rfl⟩ h) trivial
  | rpaExpired io =>
    have hsame := (sameRequests_of_onlySet (rpaExpired_onlySet l.fp io)).enabled
    exact iff_of_true (SameReady.upOverReady ⟨hsame, rfl⟩ h) trivial
  | rpaSuspensionWork => exact iff_of_true h trivial
  | request trigger enable io =>
    exact iff_of_true ((request_sameReady l trigger enable io).upOverReady h) trivial
  | accountKeyWritten io => exact iff_of_true ((accountKey_sameReady l io).upOverReady h) trivial
  | provisioningStateChanged provisioned io =>
    exact iff_of_true ((provisioning_sameReady l provisioned io).upOverReady h) trivial
  | clockSynced io =>
    refine iff_of_true ?_ trivial
    rw [next, fmdnClockSynced]
    split
    · exact (request_sameReady l .clock_sync false io).upOverReady h
    · exact h
  | stopDiscoverable io =>
    exact iff_of_true ((requestUi_sameReady _ false io).upOverReady h) trivial
  | fpAdvModeChange io =>
    refine iff_of_true ?_ trivial
    rw [next, locator.fpAdvModeChange]
    split
    · exact h
    · exact (requestUi_sameReady l _ io).upOverReady h
  | factoryResetRequest => exact iff_of_true h trivial
  | factoryResetWork io => exact iff_of_true (reset_upOverReady io h) trivial
  | reboot io => exact iff_of_true (boot_upOverReady l.stored io) trivial

/-- While the module is only up over an enabled subsystem, the factory reset calls
`app_fp_adv_enable` over an enabled subsystem. -/
theorem assertion_of_upOverReady {l : Locator} (e : Event) (h : UpOverReady l) :
    AssertionHolds l e := by
  cases e with
  | factoryResetWork io =>
    intro u hu
    obtain ⟨hup, hready⟩ := atEnable_ready hu
    rw [hready]
    exact h hup
  | _ => trivial

/-! ## Every run -/

/-- In a run from a boot the module is only up over an enabled subsystem, and the assertion of
`app_fp_adv_enable` holds, just when no toggle disables the subsystem under the module. -/
theorem the_module_is_up_over_the_subsystem_while_toggles_leave_it (l : Locator)
    (es : List Event) (h : system.Run l es) :
    system.States UpOverReady l es ∧ system.Steps AssertionHolds l es ↔
      system.Steps LeavesReady l es := by
  have hstart : UpOverReady l := by
    obtain ⟨stored, io, rfl⟩ := h.1
    exact boot_upOverReady stored io
  refine runs.System.states_and_steps_iff (I := fun _ => True) (fun _ _ _ _ _ => trivial) ?_
    trivial hstart h.2
  intro l e _ hup ha
  have hassert := assertion_of_upOverReady e hup
  have hnext := upOverReady_next hup ha.2
  exact ⟨fun hboth => hnext.mp hboth.2, fun hc => ⟨hassert, hnext.mpr hc⟩⟩

instance (l : Locator) (e : Event) : Decidable (system.allowed l e) :=
  inferInstanceAs (Decidable (_ ∧ _))

def quietProvisioning : ProvisioningIo :=
  { rotate := quietStack, fmdn := quietStack, ui := quietStack, clock := quietStack }

def quietReset : ResetIo :=
  { fmdn := quietStack, clock := quietStack, ui := quietStack, fpDisable := quietStack,
    disableRc := 0, factoryResetRc := 0, enableRc := 0, fpEnable := quietStack,
    boot := quietBoot }

/-- The tag is paired, and unpaired and reset. -/
theorem a_reset_after_an_unpairing_keeps_the_order :
    let es := [.accountKeyWritten quietStack, .provisioningStateChanged true quietProvisioning,
      .provisioningStateChanged false quietProvisioning, .factoryResetWork quietReset]
    system.States UpOverReady freshLocator es ∧ system.Steps AssertionHolds freshLocator es :=
  (the_module_is_up_over_the_subsystem_while_toggles_leave_it freshLocator _
    ⟨⟨_, _, rfl⟩, by decide⟩).mpr (by decide)

/-- The locator is switched off. -/
def toggled : List Event :=
  [.accountKeyWritten quietStack, .provisioningStateChanged true quietProvisioning,
    .provisioningStateChanged false quietProvisioning,
    .provisioningStateChanged true quietProvisioning,
    .fmdnAdvModeChange { fastPairRc := 0, unsetErr := 0, clock := quietStack }]

/-- The toggle leaves the module up over a disabled subsystem; a reset that was scheduled before
takes it down, and enables it while the subsystem is still disabled. -/
theorem a_toggle_takes_the_subsystem_away :
    (¬ ∀ (l : Locator) (es : List Event), system.Run l es → system.States UpOverReady l es) ∧
      ¬ ∀ (l : Locator) (es : List Event), system.Run l es → system.Steps AssertionHolds l es := by
  constructor
  · intro h
    have hlast := runs.System.states_last (h freshLocator toggled ⟨⟨_, _, rfl⟩, by decide⟩)
    revert hlast
    decide
  · intro h
    have hsteps := h freshLocator (toggled ++ [.factoryResetWork quietReset])
      ⟨⟨_, _, rfl⟩, by decide⟩
    have hreset := ((runs.System.steps_append _ _ _).mp hsteps).2.1
    have hcall := hreset _ (Option.get_mem (show (atEnable _ quietReset).isSome by decide))
    revert hcall
    decide

end smart_track.fp_ready
