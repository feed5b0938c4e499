-- The locator side of the tag: what `main.c` makes of the Account Key, the
-- provisioning and the button, the factory reset of `factory_reset.c`, and the
-- runs of the two together with the Fast Pair advertising.
import SmartTrack.FpAdv
import SmartTrack.Runs

open smart_track.zephyr smart_track.fp_adv

namespace smart_track.locator

def FACTORY_RESET_DELAY : Nat := 3
def FMDN_PROVISIONING_TIMEOUT : Nat := 5
def DISC_ADV_TIMEOUT_MS : Nat := 2

/-- `enum factory_reset_trigger`. -/
inductive FactoryResetTrigger
  | NONE
  | KEY_STATE_MISMATCH
  | PROVISIONING_TIMEOUT
  deriving DecidableEq, Repr

/-- The static variables of `main.c` that follow the provisioning. -/
structure Main where
  fmdn_provisioned : Bool := false
  fp_account_key_present : Bool := false
  fp_adv_ui_request : Bool := false
  fmdn_enable_flag : Bool := false
  fp_adv_clock_sync_done : Bool := false
  fp_adv_clock_sync_enabled : Bool := false
  factory_reset_trigger : FactoryResetTrigger := .NONE
  stop_discoverable_work : Delayable := none
  /-- Not in the code: the assertions of `fmdn_factory_reset_executed` have held whenever they
  were reached. -/
  assertion_held : Bool := true
  deriving DecidableEq

/-- `enum app_factory_reset_state`. -/
inductive FactoryResetState
  | IDLE
  | PENDING
  | IN_PROGRESS
  deriving DecidableEq, Repr

/-- The static variables of `factory_reset.c`. -/
structure FactoryReset where
  factory_reset_work : Delayable := none
  factory_reset_state : FactoryResetState := .IDLE
  factory_reset_ui_requested : Bool := false
  deriving DecidableEq

/-- `stored` is what the Fast Pair subsystem has in flash, and `fast_pair_ready` whether it
is enabled. A tag that is `halted` is in `k_panic`. -/
structure Locator where
  stored : Stored
  fast_pair_ready : Bool := false
  fp : FpAdv := {}
  main : Main := {}
  reset : FactoryReset := {}
  halted : Bool := false
  deriving DecidableEq

/-! ## Scheduling a factory reset -/

def appFactoryResetSchedule (r : FactoryReset) (delay : Nat) : FactoryReset :=
  if r.factory_reset_state ≠ .IDLE then
    r
  else
    { r with
      factory_reset_work := kWorkSchedule r.factory_reset_work delay
      factory_reset_state := .PENDING }

def appFactoryResetCancel (r : FactoryReset) : FactoryReset :=
  if r.factory_reset_state = .IN_PROGRESS then
    r
  else
    { r with
      factory_reset_work := kWorkCancelDelayable r.factory_reset_work
      factory_reset_state := .IDLE }

/-- The trigger is noted even when the schedule was rejected. -/
def fmdnFactoryResetSchedule (l : Locator) (trigger : FactoryResetTrigger) (delay : Nat) :
    Locator :=
  { l with
    reset := appFactoryResetSchedule l.reset delay
    main := { l.main with factory_reset_trigger := trigger } }

def fmdnFactoryResetCancel (l : Locator) : Locator :=
  { l with
    reset := appFactoryResetCancel l.reset
    main := { l.main with factory_reset_trigger := .NONE } }

/-! ## Requests for advertising -/

def request (l : Locator) (trigger : Trigger) (enable : Bool) (io : StackIo) : Locator :=
  { l with fp := appFpAdvRequest l.fp trigger enable io }

/-- The request of the user follows the flag. -/
def requestUi (l : Locator) (enable : Bool) (io : StackIo) : Locator :=
  request { l with main := { l.main with fp_adv_ui_request := enable } } .ui enable io

def stopDiscoverableAdv (l : Locator) (io : StackIo) : Locator :=
  requestUi { l with main := { l.main with stop_discoverable_work := none } } false io

/-! ## The Account Key and the provisioning -/

/-- The callback of `main.c`. It comes after that of `fp_adv.c`. -/
def fpAccountKeyWritten (l : Locator) (io : StackIo) : Locator :=
  let l :=
    if l.main.fp_account_key_present = false then
      fmdnFactoryResetSchedule (request l .fmdn_provisioning true io) .PROVISIONING_TIMEOUT
        (K_MINUTES FMDN_PROVISIONING_TIMEOUT)
    else
      l
  { l with main := { l.main with fp_account_key_present := l.stored.has_account_key } }

/-- An Account Key is written: both callbacks run. -/
def accountKeyWritten (l : Locator) (io : StackIo) : Locator :=
  let stored := { l.stored with has_account_key := true }
  fpAccountKeyWritten
    { l with stored := stored, fp := fpAdvAccountKeyWritten l.fp stored } io

def fmdnProvisioningStateSet (m : Main) (provisioned : Bool) : Main :=
  if m.fmdn_provisioned = provisioned then
    m
  else
    { m with
      fmdn_provisioned := provisioned
      fmdn_enable_flag := provisioned
      stop_discoverable_work := kWorkCancelDelayable m.stop_discoverable_work }

/-- The codes of the stack for the calls that one handler makes one after the other. -/
structure ProvisioningIo where
  rotate : StackIo
  fmdn : StackIo
  ui : StackIo
  clock : StackIo
  deriving DecidableEq

/-- The callback of `main.c`. The Vision set that a provisioning starts is not part of this
state. -/
def fmdnProvisioningStateChanged (l : Locator) (provisioned : Bool) (io : ProvisioningIo) :
    Locator :=
  let l := { l with main := fmdnProvisioningStateSet l.main provisioned }
  if provisioned then
    let l :=
      if l.main.factory_reset_trigger = .PROVISIONING_TIMEOUT then fmdnFactoryResetCancel l else l
    requestUi (request l .fmdn_provisioning false io.fmdn) false io.ui
  else
    request (fmdnFactoryResetSchedule l .KEY_STATE_MISMATCH (K_SECONDS FACTORY_RESET_DELAY))
      .clock_sync false io.clock

/-- The provisioning changes: both callbacks run. -/
def provisioningStateChanged (l : Locator) (provisioned : Bool) (io : ProvisioningIo) : Locator :=
  fmdnProvisioningStateChanged
    { l with
      stored := { l.stored with is_provisioned := provisioned }
      fp := fpAdvProvisioningStateChanged l.fp provisioned io.rotate }
    provisioned io

/-- At boot, when the subsystem and the advertising are up. -/
def fmdnProvisioningStateInit (l : Locator) : Locator :=
  let provisioned := l.stored.is_provisioned
  let m := fmdnProvisioningStateSet l.main provisioned
  let l := { l with main := { m with fp_account_key_present := l.stored.has_account_key } }
  if l.main.fp_account_key_present ≠ provisioned then
    fmdnFactoryResetSchedule l .KEY_STATE_MISMATCH K_NO_WAIT
  else
    l

def fmdnClockSynced (l : Locator) (io : StackIo) : Locator :=
  if l.main.fmdn_provisioned then
    let l := request l .clock_sync false io
    { l with main :=
        { l.main with fp_adv_clock_sync_enabled := false, fp_adv_clock_sync_done := true } }
  else
    l

/-! ## The button -/

/-- `APP_UI_REQUEST_FP_ADV_MODE_CHANGE`. -/
def fpAdvModeChange (l : Locator) (io : StackIo) : Locator :=
  if l.main.fmdn_provisioned then
    l
  else
    let l := requestUi l (! l.main.fp_adv_ui_request) io
    { l with main :=
        { l.main with stop_discoverable_work :=
            if l.main.fp_adv_ui_request then
              kWorkSchedule l.main.stop_discoverable_work (K_MINUTES DISC_ADV_TIMEOUT_MS)
            else
              kWorkCancelDelayable l.main.stop_discoverable_work } }

/-- What the toggle of the locator meets: the code of the call, and what stands in `err`
where no call is made. -/
structure ToggleIo where
  fastPairRc : Int
  unsetErr : Int
  clock : StackIo
  deriving DecidableEq

/-- `finish`: an error ends in `k_panic`. -/
def finish (l : Locator) (err : Int) : Locator := if err ≠ 0 then { l with halted := true } else l

/-- The toggle of the locator, `APP_UI_REQUEST_FMDN_ADV_MODE_CHANGE`. The code does not
initialise `err`. -/
def fmdnAdvtModeChangeHandle (l : Locator) (io : ToggleIo) : Locator :=
  if l.main.fmdn_provisioned = false then
    l
  else
    let flag := ! l.main.fmdn_enable_flag
    let l := { l with main := { l.main with fmdn_enable_flag := flag } }
    if flag = false then
      if l.fast_pair_ready then
        if io.fastPairRc ≠ 0 then
          finish l io.fastPairRc
        else
          finish (request { l with fast_pair_ready := false } .clock_sync false io.clock) 0
      else
        finish (request l .clock_sync false io.clock) io.unsetErr
    else if l.fast_pair_ready = false then
      if io.fastPairRc ≠ 0 then
        finish l io.fastPairRc
      else
        finish { l with fast_pair_ready := true } 0
    else
      finish l io.unsetErr

/-- `APP_UI_REQUEST_FACTORY_RESET`. -/
def factoryResetRequestHandle (l : Locator) : Locator :=
  { l with reset := { l.reset with factory_reset_ui_requested := true } }

/-! ## Boot and factory reset -/

/-- The codes that a boot meets on the way to `fmdn_provisioning_state_init`. -/
structure BootIo where
  fastPairRc : Int
  fp : StackIo
  deriving DecidableEq

/-- The part of `init_work_handle` that brings up the locator, on RAM that is zero and with
no button pressed meanwhile. A step that fails ends it. -/
def boot (stored : Stored) (io : BootIo) : Locator :=
  let l : Locator := { stored := stored }
  if io.fastPairRc ≠ 0 then
    l
  else
    let l := { l with fast_pair_ready := true }
    let (fp, err) := appFpAdvEnable l.fp l.stored io.fp
    let l := { l with fp := fp }
    if err ≠ 0 then l else fmdnProvisioningStateInit l

/-- `sys_reboot`. The marks of a failed assertion outlive it. -/
def sysReboot (l : Locator) (io : BootIo) : Locator :=
  let booted := boot l.stored io
  { booted with
    fp := { booted.fp with assertion_held := l.fp.assertion_held && booted.fp.assertion_held }
    main := { booted.main with assertion_held := l.main.assertion_held } }

/-- The codes that a factory reset meets, and the boot that follows it. -/
structure ResetIo where
  fmdn : StackIo
  clock : StackIo
  ui : StackIo
  fpDisable : StackIo
  disableRc : Int
  factoryResetRc : Int
  enableRc : Int
  fpEnable : StackIo
  boot : BootIo
  deriving DecidableEq

/-- The callback of `main.c`. That of `dfu.c` ends the DFU mode, which is not part of this
state. -/
def fmdnFactoryResetPrepare (l : Locator) (io : ResetIo) : Locator :=
  let l := request (request l .fmdn_provisioning false io.fmdn) .clock_sync false io.clock
  requestUi { l with main := { l.main with fp_adv_clock_sync_enabled := false } } false io.ui

/-- The callback of `main.c`. It asserts that neither a key nor a provisioning is left. -/
def fmdnFactoryResetExecuted (l : Locator) : Locator :=
  let fp_account_key_present :=
    if l.fast_pair_ready then l.stored.has_account_key else l.main.fp_account_key_present
  { l with main :=
      { l.main with
        factory_reset_trigger := .NONE
        fp_account_key_present := fp_account_key_present
        assertion_held :=
          l.main.assertion_held && ! fp_account_key_present && ! l.main.fmdn_provisioned } }

/-- `bt_fast_pair_factory_reset` erases the Account Key and the provisioning. -/
def btFastPairFactoryReset (l : Locator) (rc : Int) : Locator :=
  if rc ≠ 0 then l
  else { l with stored := { has_account_key := false, is_provisioned := false } }

/-- The steps of a factory reset from the first to the restart. A step that fails ends in
`k_panic`. -/
def factoryResetPerform (l : Locator) (io : ResetIo) : Locator :=
  let fast_pair_is_ready := l.fast_pair_ready
  let fp_adv_is_ready := l.fp.is_enabled
  if l.reset.factory_reset_state = .IN_PROGRESS then
    l
  else
    let l := { l with reset := { l.reset with factory_reset_state := .IN_PROGRESS } }
    let l := fmdnFactoryResetPrepare l io
    let (fp, err) := if fp_adv_is_ready then appFpAdvDisable l.fp io.fpDisable else (l.fp, 0)
    let l := { l with fp := fp }
    if err ≠ 0 then finish l err
    else if fast_pair_is_ready = true ∧ io.disableRc ≠ 0 then finish l io.disableRc
    else
      let l := { l with fast_pair_ready := false }
      let l := btFastPairFactoryReset l io.factoryResetRc
      if io.factoryResetRc ≠ 0 then finish l io.factoryResetRc
      else if fast_pair_is_ready = true ∧ io.enableRc ≠ 0 then finish l io.enableRc
      else
        let l := { l with fast_pair_ready := fast_pair_is_ready }
        let (fp, err) :=
          if fp_adv_is_ready then appFpAdvEnable l.fp l.stored io.fpEnable else (l.fp, 0)
        let l := { l with fp := fp }
        if err ≠ 0 then finish l err
        else
          sysReboot (fmdnFactoryResetExecuted l) io.boot

def factoryResetWorkHandle (l : Locator) (io : ResetIo) : Locator :=
  factoryResetPerform
    { l with reset := { l.reset with factory_reset_work := none } } io

/-! ## The runs -/

inductive Event
  | connected (err : Nat)
  | fpAdvConnected (conn : Conn)
  | disconnected (conn : Conn)
  | restartWork (io : StackIo)
  | rpaExpired (io : RpaIo)
  | rpaSuspensionWork
  | request (trigger : Trigger) (enable : Bool) (io : StackIo)
  | enable (io : StackIo)
  | disable (io : StackIo)
  | accountKeyWritten (io : StackIo)
  | provisioningStateChanged (provisioned : Bool) (io : ProvisioningIo)
  | clockSynced (io : StackIo)
  | stopDiscoverable (io : StackIo)
  | fpAdvModeChange (io : StackIo)
  | fmdnAdvModeChange (io : ToggleIo)
  | factoryResetRequest
  | factoryResetWork (io : ResetIo)
  | reboot (io : BootIo)

def next (l : Locator) : Event → Locator
  | .connected err => { l with fp := connected l.fp err }
  | .fpAdvConnected conn => { l with fp := fpAdvConnected l.fp conn }
  | .disconnected conn => { l with fp := disconnected l.fp conn }
  | .restartWork io => { l with fp := fpAdvRestartWorkHandle l.fp io }
  | .rpaExpired io => { l with fp := (fpAdvRpaExpired l.fp io).1 }
  | .rpaSuspensionWork => { l with fp := fpAdvRpaSuspensionWorkHandle l.fp }
  | .request trigger enable io => request l trigger enable io
  | .enable io => { l with fp := (appFpAdvEnable l.fp l.stored io).1 }
  | .disable io => { l with fp := (appFpAdvDisable l.fp io).1 }
  | .accountKeyWritten io => accountKeyWritten l io
  | .provisioningStateChanged provisioned io => provisioningStateChanged l provisioned io
  | .clockSynced io => fmdnClockSynced l io
  | .stopDiscoverable io => stopDiscoverableAdv l io
  | .fpAdvModeChange io => fpAdvModeChange l io
  | .fmdnAdvModeChange io => fmdnAdvtModeChangeHandle l io
  | .factoryResetRequest => factoryResetRequestHandle l
  | .factoryResetWork io => factoryResetWorkHandle l io
  | .reboot io => sysReboot l io

/-- A work item only runs while it is pending, the provisioning only changes to what it is
not, and a tag in `k_panic` only restarts. -/
def Allowed (l : Locator) : Event → Prop
  | .restartWork _ => l.halted = false ∧ l.fp.fp_adv_restart_work = true
  | .rpaSuspensionWork => l.halted = false ∧ l.fp.fp_adv_rpa_suspension_work ≠ none
  | .provisioningStateChanged provisioned _ =>
    l.halted = false ∧ l.stored.is_provisioned ≠ provisioned
  | .stopDiscoverable _ => l.halted = false ∧ l.main.stop_discoverable_work ≠ none
  | .factoryResetWork _ => l.halted = false ∧ l.reset.factory_reset_work ≠ none
  | .reboot _ => True
  | _ => l.halted = false

instance (l : Locator) (e : Event) : Decidable (Allowed l e) := by
  apply Event.casesOn (motive := fun e => Decidable (Allowed l e)) e
  all_goals
    intros
    unfold Allowed
    infer_instance

/-- The runs start at any boot. -/
def system : runs.System Locator Event where
  start l := ∃ stored io, l = boot stored io
  allowed := Allowed
  next := next

instance (l : Locator) (e : Event) : Decidable (system.allowed l e) :=
  inferInstanceAs (Decidable (Allowed l e))

/-- Nothing fails. -/
def quietStack : StackIo :=
  { handleRc := 0, adRc := 0, sdRc := 0, setDataRc := 0, startRc := 0, stopRc := 0, createRc := 0,
    oobRc := 0, deleteRc := 0, disconnectRc := 0 }

def quietBoot : BootIo := { fastPairRc := 0, fp := quietStack }

/-- A tag that has never been provisioned. -/
def freshLocator : Locator := boot { has_account_key := false, is_provisioned := false } quietBoot

/-! ## The events that only advertise -/

/-- The events that only reach the module, and what `main.c` notes of its own requests. -/
def OnlyAdvertises : Event → Prop
  | .accountKeyWritten _ => False
  | .provisioningStateChanged .. => False
  | .fmdnAdvModeChange _ => False
  | .factoryResetRequest => False
  | .factoryResetWork _ => False
  | .reboot _ => False
  | _ => True

theorem onlyAdvertises_next (l : Locator) {e : Event} (h : OnlyAdvertises e) :
    ∃ fp ui work sync done, next l e =
      { l with
        fp := fp
        main := { l.main with
          fp_adv_ui_request := ui
          stop_discoverable_work := work
          fp_adv_clock_sync_enabled := sync
          fp_adv_clock_sync_done := done } } := by
  cases e with
  | accountKeyWritten io => exact False.elim h
  | provisioningStateChanged provisioned io => exact False.elim h
  | fmdnAdvModeChange io => exact False.elim h
  | factoryResetRequest => exact False.elim h
  | factoryResetWork io => exact False.elim h
  | reboot io => exact False.elim h
  | clockSynced io =>
    rw [next, fmdnClockSynced]
    split <;> exact ⟨_, _, _, _, _, rfl⟩
  | fpAdvModeChange io =>
    rw [next, fpAdvModeChange]
    split <;> exact ⟨_, _, _, _, _, rfl⟩
  | _ => exact ⟨_, _, _, _, _, rfl⟩

/-! ## What the boot and the factory reset come to -/

theorem finish_fp (l : Locator) (err : Int) : (finish l err).fp = l.fp := by
  unfold finish
  split <;> rfl

theorem init_fp (l : Locator) : (fmdnProvisioningStateInit l).fp = l.fp := by
  unfold fmdnProvisioningStateInit fmdnFactoryResetSchedule
  simp only
  split <;> rfl

theorem boot_stored (stored : Stored) (io : BootIo) : (boot stored io).stored = stored := by
  unfold boot fmdnProvisioningStateInit fmdnFactoryResetSchedule
  simp only
  split
  · rfl
  · split
    · rfl
    · split <;> rfl

theorem prepare_enabled (l : Locator) (io : ResetIo) :
    (fmdnFactoryResetPrepare l io).fp.is_enabled = l.fp.is_enabled := by
  unfold fmdnFactoryResetPrepare requestUi request
  simp only [request_enabled]

/-- The tag after the callbacks that prepare a factory reset. -/
def prepared (l : Locator) (io : ResetIo) : Locator :=
  fmdnFactoryResetPrepare
    { l with reset := { l.reset with factory_reset_state := .IN_PROGRESS } } io

/-- The module when a factory reset has taken it down. -/
def takenDown (l : Locator) (io : ResetIo) : FpAdv :=
  if l.fp.is_enabled then (appFpAdvDisable (prepared l io).fp io.fpDisable).1
  else (prepared l io).fp

theorem takenDown_enabled (l : Locator) (io : ResetIo) :
    (takenDown l io).is_enabled = false := by
  unfold takenDown
  split
  · exact (disable_frame _ _).1
  · rename_i hoff
    exact (prepare_enabled _ io).trans (by simpa using hoff)

/-- A module that a factory reset leaves in `k_panic`, with what is stored then: it is down, and
what is stored may be erased. -/
def LeftDown (l : Locator) (io : ResetIo) (fp : FpAdv) (stored : Stored) : Prop :=
  fp = takenDown l io ∧
      (stored = l.stored ∨ stored = { has_account_key := false, is_provisioned := false }) ∨
    fp = (appFpAdvEnable (takenDown l io)
        { has_account_key := false, is_provisioned := false } io.fpEnable).1 ∧
      stored = { has_account_key := false, is_provisioned := false } ∧ fp.is_enabled = false

theorem finish_failed {l : Locator} {err : Int} (herr : err ≠ 0) :
    finish l err = { l with halted := true } := if_pos herr

/-- A factory reset does nothing while one is in progress; else it fails with the module down, or
it gets through and the tag restarts with nothing stored. -/
theorem factoryResetPerform_outcome (l : Locator) (io : ResetIo) :
    l.reset.factory_reset_state = .IN_PROGRESS ∧ factoryResetPerform l io = l ∨
      (∃ fp stored ready, LeftDown l io fp stored ∧
        factoryResetPerform l io =
          { prepared l io with
            fp := fp, stored := stored, fast_pair_ready := ready, halted := true }) ∨
      ∃ u : Locator, u.stored = { has_account_key := false, is_provisioned := false } ∧
        factoryResetPerform l io = sysReboot u io.boot := by
  have hp : fmdnFactoryResetPrepare
      { l with reset := { l.reset with factory_reset_state := .IN_PROGRESS } } io =
        prepared l io := rfl
  unfold factoryResetPerform btFastPairFactoryReset LeftDown takenDown
  simp only [hp]
  by_cases hprogress : l.reset.factory_reset_state = .IN_PROGRESS
  · exact Or.inl ⟨hprogress, if_pos hprogress⟩
  refine Or.inr ?_
  rw [if_neg hprogress]
  cases hready : l.fp.is_enabled with
  | false =>
    simp only [Bool.false_eq_true, if_false]
    split_ifs with hnone hdisable hreset henable
    · contradiction
    · exact Or.inl ⟨_, _, _, Or.inl ⟨rfl, Or.inl rfl⟩, finish_failed hdisable.2⟩
    · exact Or.inl ⟨_, _, _, Or.inl ⟨rfl, Or.inl rfl⟩, finish_failed hreset⟩
    · exact Or.inl ⟨_, _, _, Or.inl ⟨rfl, Or.inr rfl⟩, finish_failed henable.2⟩
    · exact Or.inr ⟨_, rfl, rfl⟩
  | true =>
    simp only [if_true]
    split_ifs with hmodule hdisable hreset henable hup
    · exact Or.inl ⟨_, _, _, Or.inl ⟨rfl, Or.inl rfl⟩, finish_failed hmodule⟩
    · exact Or.inl ⟨_, _, _, Or.inl ⟨rfl, Or.inl rfl⟩, finish_failed hdisable.2⟩
    · exact Or.inl ⟨_, _, _, Or.inl ⟨rfl, Or.inl rfl⟩, finish_failed hreset⟩
    · exact Or.inl ⟨_, _, _, Or.inl ⟨rfl, Or.inr rfl⟩, finish_failed henable.2⟩
    · exact Or.inl ⟨_, _, _, Or.inr ⟨rfl, rfl, enable_failed hup⟩, finish_failed hup⟩
    · exact Or.inr ⟨_, rfl, rfl⟩

theorem LeftDown.enabled {l : Locator} {io : ResetIo} {fp : FpAdv} {stored : Stored}
    (h : LeftDown l io fp stored) : fp.is_enabled = false := by
  rcases h with ⟨rfl, _⟩ | ⟨_, _, hdown⟩
  · exact takenDown_enabled l io
  · exact hdown

theorem factoryResetPerform_cases (l : Locator) (io : ResetIo) :
    l.reset.factory_reset_state = .IN_PROGRESS ∧ factoryResetPerform l io = l ∨
      ((factoryResetPerform l io).halted = true ∧
        (factoryResetPerform l io).fp.is_enabled = false) ∨
      ∃ u : Locator, u.stored = { has_account_key := false, is_provisioned := false } ∧
        factoryResetPerform l io = sysReboot u io.boot := by
  rcases factoryResetPerform_outcome l io with h | ⟨fp, stored, ready, hleft, heq⟩ | h
  · exact Or.inl h
  · refine Or.inr (Or.inl ?_)
    rw [heq]
    exact ⟨rfl, hleft.enabled⟩
  · exact Or.inr (Or.inr h)

end smart_track.locator
