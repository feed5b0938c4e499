-- What `fp_adv.c` keeps between the call that enables it and the one that disables it:
-- the set has an interval that its mode allows, and the address does not stay blocked.
import SmartTrack.FactoryReset
import SmartTrack.FpPolicy

open smart_track.zephyr smart_track.fp_adv smart_track.locator smart_track.fp_policy
open smart_track.factory_reset (erased quietProvisioning)

namespace smart_track.fp_session

/-! ## Invariants of the module

What every function of `fp_adv.c` keeps is kept by every step of the tag, since the tag only
calls these functions. Only a factory reset erases what is stored, after it has disabled the
module. -/

structure ModuleInvariant (I : FpAdv → Stored → Prop) : Prop where
  fresh : ∀ s, I {} s
  request : ∀ {a s} trigger enable io, I a s → I (appFpAdvRequest a trigger enable io) s
  enable : ∀ {a s} io, I a s → I (appFpAdvEnable a s io).1 s
  disable : ∀ {a s} io, I a s → I (appFpAdvDisable a io).1 s
  fpAdvConnected : ∀ {a s} conn, I a s → I (fp_adv.fpAdvConnected a conn) s
  connected : ∀ {a s} err, I a s → I (fp_adv.connected a err) s
  disconnected : ∀ {a s} conn, I a s → I (fp_adv.disconnected a conn) s
  restartWork : ∀ {a s} io, I a s → I (fpAdvRestartWorkHandle a io) s
  rpaExpired : ∀ {a s} io, I a s → I (fpAdvRpaExpired a io).1 s
  rpaSuspensionWork : ∀ {a s}, I a s → I (fpAdvRpaSuspensionWorkHandle a) s
  accountKeyWritten : ∀ {a s}, I a s →
    I (fpAdvAccountKeyWritten a { s with has_account_key := true })
      { s with has_account_key := true }
  provisioningStateChanged : ∀ {a s} provisioned io, I a s →
    I (fpAdvProvisioningStateChanged a provisioned io) { s with is_provisioned := provisioned }
  erase : ∀ {a s}, I a s → a.is_enabled = false → I a erased
  mark : ∀ {a s} held, I a s → I { a with assertion_held := held } s

/-- The module and what is stored satisfy `I`. -/
def At (I : FpAdv → Stored → Prop) (l : Locator) : Prop := I l.fp l.stored

namespace ModuleInvariant

variable {I : FpAdv → Stored → Prop}

theorem at_finish {l : Locator} {err : Int} (h : At I l) : At I (finish l err) := by
  unfold finish
  split <;> exact h

theorem at_boot (hI : ModuleInvariant I) (stored : Stored) (io : BootIo) :
    At I (boot stored io) := by
  have hup := hI.enable io.fp (hI.fresh stored)
  unfold boot
  simp only
  split
  · exact hI.fresh stored
  · split
    · exact hup
    · unfold fmdnProvisioningStateInit fmdnFactoryResetSchedule
      simp only
      split <;> exact hup

theorem at_sysReboot (hI : ModuleInvariant I) (l : Locator) (io : BootIo) :
    At I (sysReboot l io) :=
  hI.mark _ (hI.at_boot l.stored io)

theorem at_prepare (hI : ModuleInvariant I) {l : Locator} (io : ResetIo) (h : At I l) :
    At I (prepared l io) :=
  hI.request _ _ _ (hI.request _ _ _ (hI.request _ _ _ h))

theorem at_reset (hI : ModuleInvariant I) {l : Locator} (io : ResetIo) (h : At I l) :
    At I (factoryResetPerform l io) := by
  have hprepare : I (prepared l io).fp l.stored := hI.at_prepare io h
  have hdown : I (takenDown l io) l.stored := by
    unfold takenDown
    split
    · exact hI.disable io.fpDisable hprepare
    · exact hprepare
  have herased : I (takenDown l io) erased := hI.erase hdown (takenDown_enabled l io)
  rcases factoryResetPerform_outcome l io with
    ⟨_, heq⟩ | ⟨fp, stored, ready, hleft, heq⟩ | ⟨u, _, heq⟩
  · rw [heq]
    exact h
  · rw [heq]
    rcases hleft with ⟨rfl, rfl | rfl⟩ | ⟨rfl, rfl, _⟩
    · exact hdown
    · exact herased
    · exact hI.enable io.fpEnable herased
  · rw [heq]
    exact hI.at_sysReboot u io.boot

theorem at_accountKeyWritten (hI : ModuleInvariant I) {l : Locator} (io : StackIo) (h : At I l) :
    At I (locator.accountKeyWritten l io) := by
  have hwritten := hI.accountKeyWritten h
  unfold locator.accountKeyWritten fpAccountKeyWritten
  simp only
  split
  · exact hI.request _ _ _ hwritten
  · exact hwritten

theorem at_provisioning (hI : ModuleInvariant I) {l : Locator} (provisioned : Bool)
    (io : ProvisioningIo) (h : At I l) :
    At I (locator.provisioningStateChanged l provisioned io) := by
  have hchanged := hI.provisioningStateChanged provisioned io.rotate h
  unfold locator.provisioningStateChanged fmdnProvisioningStateChanged
  simp only
  split
  · split <;> exact hI.request _ _ _ (hI.request _ _ _ hchanged)
  · exact hI.request _ _ _ hchanged

theorem at_toggle (hI : ModuleInvariant I) {l : Locator} (io : ToggleIo) (h : At I l) :
    At I (fmdnAdvtModeChangeHandle l io) := by
  have hclock := hI.request .clock_sync false io.clock h
  unfold fmdnAdvtModeChangeHandle
  simp only
  split_ifs
  all_goals first
    | exact h
    | exact at_finish h
    | exact at_finish hclock

/-- The step lemma for every invariant of the module. -/
theorem at_next (hI : ModuleInvariant I) (l : Locator) (e : Event) (h : At I l) :
    At I (next l e) := by
  cases e with
  | connected err => exact hI.connected err h
  | fpAdvConnected conn => exact hI.fpAdvConnected conn h
  | disconnected conn => exact hI.disconnected conn h
  | restartWork io => exact hI.restartWork io h
  | rpaExpired io => exact hI.rpaExpired io h
  | rpaSuspensionWork => exact hI.rpaSuspensionWork h
  | request trigger enable io => exact hI.request trigger enable io h
  | enable io => exact hI.enable io h
  | disable io => exact hI.disable io h
  | accountKeyWritten io => exact hI.at_accountKeyWritten io h
  | provisioningStateChanged provisioned io => exact hI.at_provisioning provisioned io h
  | clockSynced io =>
    rw [next, fmdnClockSynced]
    split
    · exact hI.request _ _ _ h
    · exact h
  | stopDiscoverable io => exact hI.request _ _ _ h
  | fpAdvModeChange io =>
    rw [next, locator.fpAdvModeChange]
    split
    · exact h
    · exact hI.request _ _ _ h
  | fmdnAdvModeChange io => exact hI.at_toggle io h
  | factoryResetRequest => exact h
  | factoryResetWork io => exact hI.at_reset io h
  | reboot io => exact hI.at_sysReboot l io

end ModuleInvariant

/-! ## The runs -/

/-- The events of the tag, and `bt_fast_pair_factory_reset`, which a factory reset calls between
its steps. -/
inductive Call
  | tag (e : Event)
  | factoryReset (rc : Int)

/-- What is stored is only erased while the module is disabled. -/
def Permitted (l : Locator) : Call → Prop
  | .tag e => Allowed l e
  | .factoryReset _ => l.halted = false ∧ l.fp.is_enabled = false

instance (l : Locator) (c : Call) : Decidable (Permitted l c) := by
  apply Call.casesOn (motive := fun c => Decidable (Permitted l c)) c
  all_goals
    intros
    unfold Permitted
    infer_instance

def step (l : Locator) : Call → Locator
  | .tag e => next l e
  | .factoryReset rc => btFastPairFactoryReset l rc

def system : runs.System Locator Call where
  start := locator.system.start
  allowed := Permitted
  next := step

theorem ModuleInvariant.at_step {I : FpAdv → Stored → Prop} (hI : ModuleInvariant I) (l : Locator)
    (c : Call) (h : At I l) (hc : Permitted l c) : At I (step l c) := by
  cases c with
  | tag e => exact hI.at_next l e h
  | factoryReset rc =>
    rw [step, btFastPairFactoryReset]
    split
    · exact h
    · exact hI.erase h hc.2

/-! ## The session -/

/-- A module that is down is off. One that is up knows what is stored; and if its set has the
longer interval, then a key was stored when the set was created, and still is. -/
structure InSession (a : FpAdv) (s : Stored) : Prop where
  down : a.is_enabled = false → a.fp_adv_mode = .OFF
  key : a.is_enabled = true → a.fp_account_key_present = s.has_account_key
  provisioned : a.is_enabled = true → a.fmdn_provisioned = s.is_provisioned
  created : a.is_enabled = true → a.fp_adv_set = some FP_DISC_ADV_INTERVAL ∨
    a.fp_adv_set = some FP_NDISC_ADV_INTERVAL ∧ s.has_account_key = true ∧
      a.fp_adv_mode ≠ .DISCOVERABLE
  suspended : a.fp_adv_rpa_rotation_suspended = true → a.fp_adv_rpa_suspension_work ≠ none

/-- The fields that the session looks at are the same in both. -/
structure SameSession (a b : FpAdv) : Prop where
  enabled : b.is_enabled = a.is_enabled
  mode : b.fp_adv_mode = a.fp_adv_mode
  key : b.fp_account_key_present = a.fp_account_key_present
  provisioned : b.fmdn_provisioned = a.fmdn_provisioned
  set : b.fp_adv_set = a.fp_adv_set
  suspended : b.fp_adv_rpa_rotation_suspended = a.fp_adv_rpa_rotation_suspended
  work : b.fp_adv_rpa_suspension_work = a.fp_adv_rpa_suspension_work

theorem InSession.same {a b : FpAdv} {s : Stored} (ha : InSession a s) (h : SameSession a b) :
    InSession b s := by
  constructor
  · rw [h.enabled, h.mode]
    exact ha.down
  · rw [h.enabled, h.key]
    exact ha.key
  · rw [h.enabled, h.provisioned]
    exact ha.provisioned
  · rw [h.enabled, h.set, h.mode]
    exact ha.created
  · rw [h.suspended, h.work]
    exact ha.suspended

theorem restartWork_session (a : FpAdv) (io : StackIo) :
    SameSession a (fpAdvRestartWorkHandle a io) := by
  unfold fpAdvRestartWorkHandle
  simp only
  split
  · obtain ⟨active, calls, heq, _⟩ := update_spec { a with fp_adv_restart_work := false } io
    rw [heq]
    exact ⟨rfl, rfl, rfl, rfl, rfl, rfl, rfl⟩
  · exact ⟨rfl, rfl, rfl, rfl, rfl, rfl, rfl⟩

theorem rpaExpired_session (a : FpAdv) (io : RpaIo) : SameSession a (fpAdvRpaExpired a io).1 := by
  unfold fpAdvRpaExpired
  simp only
  split_ifs <;> exact ⟨rfl, rfl, rfl, rfl, rfl, rfl, rfl⟩

/-- A request leaves alone what a session started with, and computes the mode of one that is
up. -/
theorem request_frame (a : FpAdv) (trigger : Trigger) (enable : Bool) (io : StackIo) :
    ∃ bits mode active calls, appFpAdvRequest a trigger enable io =
        { a with
          fp_adv_request_bm := bits
          fp_adv_mode := mode
          fp_adv_set_active := active
          calls_succeeded := calls } ∧
      (mode = a.fp_adv_mode ∨ a.is_enabled = true ∧
        (a.fp_account_key_present = true → mode ≠ .DISCOVERABLE)) := by
  rcases request_cases a trigger enable io with ⟨_, heq⟩ | ⟨_, ⟨_, heq⟩ | ⟨hon, heq⟩⟩
  · exact ⟨_, _, _, _, heq, Or.inl rfl⟩
  · exact ⟨_, _, _, _, heq, Or.inl rfl⟩
  · obtain ⟨active, calls, hupdate⟩ := modeUpdate_frame { a with
      fp_adv_request_bm := writeBit a.fp_adv_request_bm (fpAdvTriggerIdxGet trigger) enable } io
    refine ⟨_, _, _, _, heq.trans hupdate, Or.inr ⟨hon, ?_⟩⟩
    intro hkey
    unfold requestedMode
    simp only [hkey, if_true]
    split <;> simp

theorem request_inSession {a : FpAdv} {s : Stored} (trigger : Trigger) (enable : Bool)
    (io : StackIo) (h : InSession a s) : InSession (appFpAdvRequest a trigger enable io) s := by
  obtain ⟨bits, mode, active, calls, heq, hmode⟩ := request_frame a trigger enable io
  rw [heq]
  refine ⟨?_, h.key, h.provisioned, ?_, h.suspended⟩
  · intro hoff
    rcases hmode with hsame | ⟨hon, _⟩
    · exact hsame.trans (h.down hoff)
    · exact absurd (hon.symm.trans hoff) (by decide)
  · intro hon
    rcases h.created hon with hset | ⟨hset, hkey, hold⟩
    · exact Or.inl hset
    · refine Or.inr ⟨hset, hkey, ?_⟩
      rcases hmode with hsame | ⟨_, hnew⟩
      · rw [hsame]
        exact hold
      · exact hnew ((h.key hon).trans hkey)

/-- A call that succeeds has created the set for the key that was stored. -/
theorem enable_created {a : FpAdv} {s : Stored} {io : StackIo} (hoff : a.is_enabled = false)
    (hok : (appFpAdvEnable a s io).2 = 0) :
    ∃ calls, (appFpAdvEnable a s io).1 =
      { fpAdvModeUpdate { a with
          fp_account_key_present := s.has_account_key
          fmdn_provisioned := s.is_provisioned
          fp_adv_set := some
            (if s.has_account_key then FP_NDISC_ADV_INTERVAL else FP_DISC_ADV_INTERVAL)
          calls_succeeded := calls } io with is_enabled := true } := by
  unfold appFpAdvEnable fpAdvSetSetup fpAdvSetRotate at *
  simp only [hoff, Bool.false_eq_true, if_false] at hok ⊢
  by_cases hcreate : io.createRc = 0
  · simp only [hcreate, ne_eq, not_true_eq_false, if_false] at hok ⊢
    by_cases hrotate : s.is_provisioned = false
    · simp only [if_pos hrotate] at hok ⊢
      split at hok
      · rename_i hoob
        exact absurd hok hoob
      · rename_i hoob
        rw [if_neg hoob]
        exact ⟨_, rfl⟩
    · simp only [if_neg hrotate, not_true_eq_false, if_false]
      exact ⟨_, rfl⟩
  · simp only [if_pos hcreate] at hok
    exact absurd hok hcreate

theorem enable_inSession {a : FpAdv} {s : Stored} (io : StackIo) (h : InSession a s) :
    InSession (appFpAdvEnable a s io).1 s := by
  by_cases hon : a.is_enabled = true
  · unfold appFpAdvEnable
    rw [if_pos hon]
    exact h
  rw [Bool.not_eq_true] at hon
  by_cases hok : (appFpAdvEnable a s io).2 = 0
  · obtain ⟨calls, heq⟩ := enable_created hon hok
    rw [heq]
    obtain ⟨active, done, hmode⟩ := modeUpdate_frame { a with
      fp_account_key_present := s.has_account_key
      fmdn_provisioned := s.is_provisioned
      fp_adv_set := some
        (if s.has_account_key then FP_NDISC_ADV_INTERVAL else FP_DISC_ADV_INTERVAL)
      calls_succeeded := calls } io
    rw [hmode]
    refine ⟨fun hoff => (by cases hoff), fun _ => rfl, fun _ => rfl, fun _ => ?_, h.suspended⟩
    cases hkey : s.has_account_key with
    | false => exact Or.inl rfl
    | true =>
      refine Or.inr ⟨rfl, rfl, ?_⟩
      unfold requestedMode
      simp only [if_true]
      split <;> simp
  · -- A call that fails leaves the module down.
    have hdown := enable_failed hok
    rcases enable_cases a s io with ⟨hup, _⟩ | ⟨_, b, hb, ⟨heq, _⟩ | heq⟩
    · exact absurd (hon.symm.trans hup) (by decide)
    · obtain ⟨set, calls, rfl, _⟩ := hb
      rw [heq] at hdown ⊢
      refine ⟨fun _ => h.down hon, ?_, ?_, ?_, h.suspended⟩
      all_goals
        intro hup
        exact absurd (hdown.symm.trans hup) (by decide)
    · rw [heq] at hok
      exact absurd rfl hok

theorem disable_inSession {a : FpAdv} {s : Stored} (io : StackIo) (h : InSession a s) :
    InSession (appFpAdvDisable a io).1 s := by
  rcases disable_cases a io with ⟨_, heq⟩ | ⟨_, set, calls, heq, _⟩
  · rw [heq]
    exact h
  · obtain ⟨active, done, hmode⟩ := modeSet_frame
      (fpAdvRpaSuspensionCancel { a with is_enabled := false }) .OFF io
    rw [heq, hmode]
    refine ⟨fun _ => rfl, ?_, ?_, ?_, ?_⟩
    all_goals
      intro hup
      cases hup

theorem accountKeyWritten_inSession {a : FpAdv} {s : Stored} (h : InSession a s) :
    InSession (fpAdvAccountKeyWritten a { s with has_account_key := true })
      { s with has_account_key := true } := by
  have hcreated : a.is_enabled = true → a.fp_adv_set = some FP_DISC_ADV_INTERVAL ∨
      a.fp_adv_set = some FP_NDISC_ADV_INTERVAL ∧ true = true ∧ a.fp_adv_mode ≠ .DISCOVERABLE := by
    intro hon
    exact (h.created hon).imp_right (fun hlong => ⟨hlong.1, rfl, hlong.2.2⟩)
  unfold fpAdvAccountKeyWritten
  simp only
  split
  · refine ⟨h.down, fun _ => rfl, h.provisioned, hcreated, fun _ => ?_⟩
    unfold kWorkSchedule
    cases a.fp_adv_rpa_suspension_work <;> simp
  · exact ⟨h.down, fun _ => rfl, h.provisioned, hcreated, h.suspended⟩

theorem provisioning_inSession {a : FpAdv} {s : Stored} (provisioned : Bool) (io : StackIo)
    (h : InSession a s) :
    InSession (fpAdvProvisioningStateChanged a provisioned io)
      { s with is_provisioned := provisioned } := by
  unfold fpAdvProvisioningStateChanged
  simp only
  split_ifs
  · exact ⟨h.down, h.key, fun _ => rfl, h.created, h.suspended⟩
  · exact ⟨h.down, h.key, fun _ => rfl, h.created, h.suspended⟩
  · exact ⟨h.down, h.key, fun _ => rfl, h.created, fun hsusp => (by cases hsusp)⟩

/-- What every function of the module keeps. -/
theorem inSession_invariant : ModuleInvariant InSession where
  fresh s := by
    refine ⟨fun _ => rfl, ?_, ?_, ?_, ?_⟩
    all_goals
      intro hup
      cases hup
  request trigger enable io h := request_inSession trigger enable io h
  enable io h := enable_inSession io h
  disable io h := disable_inSession io h
  fpAdvConnected conn h := h.same ⟨rfl, rfl, rfl, rfl, rfl, rfl, rfl⟩
  connected err h := by
    unfold fp_adv.connected
    split
    · exact h.same ⟨rfl, rfl, rfl, rfl, rfl, rfl, rfl⟩
    · exact h
  disconnected conn h := by
    unfold fp_adv.disconnected
    split
    · exact h.same ⟨rfl, rfl, rfl, rfl, rfl, rfl, rfl⟩
    · exact h
  restartWork io h := h.same (restartWork_session _ io)
  rpaExpired io h := h.same (rpaExpired_session _ io)
  rpaSuspensionWork h := ⟨h.down, h.key, h.provisioned, h.created, fun hsusp => by cases hsusp⟩
  accountKeyWritten h := accountKeyWritten_inSession h
  provisioningStateChanged provisioned io h := provisioning_inSession provisioned io h
  erase h hoff := by
    refine ⟨h.down, ?_, ?_, ?_, h.suspended⟩
    all_goals
      intro hup
      rw [hoff] at hup
      cases hup
  mark held h := h.same ⟨rfl, rfl, rfl, rfl, rfl, rfl, rfl⟩

/-! ## The interval -/

/-- The limit of the mode in milliseconds. -/
def maxIntervalMs : Mode → Option Nat
  | .OFF => none
  | .DISCOVERABLE => some 100
  | .NOT_DISCOVERABLE => some 250

/-- An advertising interval is a number of 625 microseconds. -/
def intervalUs (interval : Nat) : Nat := 625 * interval

/-- A set on air was created with an interval that the mode allows. -/
def IntervalAllowed (l : Locator) : Prop :=
  l.fp.fp_adv_set_active = true → ∀ limit ∈ maxIntervalMs l.fp.fp_adv_mode,
    ∃ interval, l.fp.fp_adv_set = some interval ∧ intervalUs interval ≤ 1000 * limit

/-- The shorter interval suits every mode, and the longer one suits any but the discoverable. -/
theorem interval_suits {mode : Mode} {limit : Nat} (hlimit : limit ∈ maxIntervalMs mode) :
    intervalUs FP_DISC_ADV_INTERVAL ≤ 1000 * limit ∧
      (mode ≠ .DISCOVERABLE → intervalUs FP_NDISC_ADV_INTERVAL ≤ 1000 * limit) := by
  cases mode with
  | OFF => cases hlimit
  | DISCOVERABLE =>
    cases hlimit
    exact ⟨by decide, fun hmode => absurd rfl hmode⟩
  | NOT_DISCOVERABLE =>
    cases hlimit
    exact ⟨by decide, fun _ => by decide⟩

theorem intervalAllowed_of {l : Locator} (h : At InSession l) : IntervalAllowed l := by
  intro _ limit hlimit
  have hon : l.fp.is_enabled = true := by
    by_contra hoff
    rw [h.down (by simpa using hoff)] at hlimit
    cases hlimit
  obtain ⟨hshort, hlong⟩ := interval_suits hlimit
  rcases h.created hon with hset | ⟨hset, _, hmode⟩
  · exact ⟨_, hset, hshort⟩
  · exact ⟨_, hset, hlong hmode⟩

/-- In every state of every run, the set on air has an interval that the mode allows. -/
theorem the_interval_is_within_the_limit_of_the_mode (l : Locator) (es : List Call)
    (h : system.Run l es) : system.States IntervalAllowed l es := by
  obtain ⟨⟨stored, io, rfl⟩, hA⟩ := h
  exact runs.System.states_of_invariant
    (fun l c hl hc => inSession_invariant.at_step l c hl hc) (fun l hl => intervalAllowed_of hl)
    (inSession_invariant.at_boot stored io) hA

/-- The user asks for advertising, and the module is restarted after the first key. -/
def restarted : List Call :=
  [.tag (.request .ui true quietStack), .tag (.accountKeyWritten quietStack),
    .tag (.disable quietStack), .tag (.enable quietStack)]

instance (l : Locator) (c : Call) : Decidable (system.allowed l c) :=
  inferInstanceAs (Decidable (Permitted l c))

theorem a_restart_keeps_the_limit : system.States IntervalAllowed freshLocator restarted :=
  the_interval_is_within_the_limit_of_the_mode freshLocator restarted ⟨⟨_, _, rfl⟩, by decide⟩

/-! ## The suspension of the address -/

/-- The timer that ends the suspension is pending while the suspension lasts, and ends it. -/
def SuspensionEnds (l : Locator) : Prop :=
  l.fp.fp_adv_rpa_rotation_suspended = true → l.fp.fp_adv_rpa_suspension_work ≠ none ∧
    (next l .rpaSuspensionWork).fp.fp_adv_rpa_rotation_suspended = false

/-- The watcher notes the first Account Key of a tag that is enabled and not provisioned, until
the tag is provisioned, the timer runs out or the module is disabled. -/
def note (held : Bool) (l : Locator) : Call → Bool
  | .tag (.accountKeyWritten _) =>
    held || l.fp.is_enabled && ! l.stored.has_account_key && ! l.stored.is_provisioned
  | .tag (.provisioningStateChanged provisioned _) => held && ! provisioned
  | .tag .rpaSuspensionWork => false
  | .tag (.disable _) => false
  | .tag (.factoryResetWork _) => held && decide (l.reset.factory_reset_state = .IN_PROGRESS)
  | .tag (.reboot _) => false
  | _ => held

def watched : runs.System (Locator × Bool) Call := system.watch false note

/-- While the watcher has the key noted, the callback does not let the address rotate. -/
def Holds (p : Locator × Bool) : Prop := p.2 = true → ∀ io, (fpAdvRpaExpired p.1.fp io).2 = false

/-- The module is up and the rotation suspended. -/
def Suspended (l : Locator) : Prop :=
  l.fp.is_enabled = true ∧ l.fp.fp_adv_rpa_rotation_suspended = true

theorem expired_of_suspended {a : FpAdv} (io : RpaIo) (h : a.fp_adv_rpa_rotation_suspended = true) :
    (fpAdvRpaExpired a io).2 = false := by
  unfold fpAdvRpaExpired
  simp [h]

theorem request_suspended {a : FpAdv} (trigger : Trigger) (enable : Bool) (io : StackIo)
    (h : a.is_enabled = true ∧ a.fp_adv_rpa_rotation_suspended = true) :
    (appFpAdvRequest a trigger enable io).is_enabled = true ∧
      (appFpAdvRequest a trigger enable io).fp_adv_rpa_rotation_suspended = true := by
  obtain ⟨bits, mode, active, calls, heq, _⟩ := request_frame a trigger enable io
  rw [heq]
  exact h

theorem accountKey_suspended {l : Locator} (io : StackIo) (hon : l.fp.is_enabled = true)
    (h : l.fp.fp_adv_rpa_rotation_suspended = true ∨
      l.fp.fmdn_provisioned = false ∧ l.fp.fp_account_key_present = false) :
    Suspended (locator.accountKeyWritten l io) := by
  have hwritten : (fpAdvAccountKeyWritten l.fp { l.stored with has_account_key := true }).is_enabled
        = true ∧
      (fpAdvAccountKeyWritten l.fp { l.stored with has_account_key := true
        }).fp_adv_rpa_rotation_suspended = true := by
    unfold fpAdvAccountKeyWritten
    simp only
    split
    · exact ⟨hon, rfl⟩
    · rename_i hfirst
      refine ⟨hon, h.resolve_right ?_⟩
      rintro ⟨hprov, hkey⟩
      exact hfirst ⟨hprov, hkey, hon⟩
  unfold locator.accountKeyWritten fpAccountKeyWritten
  simp only
  split
  · exact request_suspended _ _ _ hwritten
  · exact hwritten

theorem toggle_suspended {l : Locator} (io : ToggleIo) (h : Suspended l) :
    Suspended (fmdnAdvtModeChangeHandle l io) := by
  have hfinish : ∀ (u : Locator) (err : Int), Suspended u → Suspended (finish u err) := by
    intro u err hu
    unfold finish
    split <;> exact hu
  have hclock := request_suspended .clock_sync false io.clock h
  unfold fmdnAdvtModeChangeHandle
  simp only
  split_ifs
  all_goals first
    | exact h
    | exact hfinish _ _ h
    | exact hfinish _ _ hclock

theorem links_suspended {l : Locator} (h : Suspended l) :
    (∀ err, Suspended { l with fp := fp_adv.connected l.fp err }) ∧
      ∀ conn, Suspended { l with fp := fp_adv.disconnected l.fp conn } := by
  obtain ⟨hon, hsusp⟩ := h
  constructor
  · intro err
    unfold fp_adv.connected
    split <;> exact ⟨hon, hsusp⟩
  · intro conn
    unfold fp_adv.disconnected
    split <;> exact ⟨hon, hsusp⟩

theorem unprovisioning_suspended {l : Locator} (io : ProvisioningIo) (h : Suspended l) :
    Suspended (locator.provisioningStateChanged l false io) := by
  have hrotated : (fpAdvProvisioningStateChanged l.fp false io.rotate).is_enabled = true ∧
      (fpAdvProvisioningStateChanged l.fp false io.rotate).fp_adv_rpa_rotation_suspended =
        true := by
    unfold fpAdvProvisioningStateChanged
    simp only [if_true]
    split <;> exact h
  exact request_suspended _ _ _ hrotated

theorem clockSynced_suspended {l : Locator} (io : StackIo) (h : Suspended l) :
    Suspended (fmdnClockSynced l io) := by
  unfold fmdnClockSynced
  split
  · exact request_suspended _ _ _ h
  · exact h

theorem modeChange_suspended {l : Locator} (io : StackIo) (h : Suspended l) :
    Suspended (locator.fpAdvModeChange l io) := by
  unfold locator.fpAdvModeChange
  split
  · exact h
  · exact request_suspended _ _ _ h

/-- A reset that is already in progress does not begin again. -/
theorem reset_suspended {l : Locator} (io : ResetIo)
    (hprogress : l.reset.factory_reset_state = .IN_PROGRESS) (h : Suspended l) :
    Suspended (factoryResetWorkHandle l io) := by
  have hsame : (factoryResetWorkHandle l io).fp = l.fp := by
    unfold factoryResetWorkHandle factoryResetPerform
    simp only [if_pos hprogress]
  unfold Suspended
  rw [hsame]
  exact h

/-- A suspension lasts over every event that does not end it. -/
theorem suspended_next (p : Locator × Bool) (c : Call) (hc : Permitted p.1 c)
    (hs : At InSession p.1) (h : p.2 = true → Suspended p.1) :
    (watched.next p c).2 = true → Suspended (watched.next p c).1 := by
  obtain ⟨l, held⟩ := p
  intro hheld
  cases c with
  | factoryReset rc =>
    obtain ⟨hon, _⟩ := h hheld
    exact absurd (hon.symm.trans hc.2) (by decide)
  | tag e =>
    cases e with
    | connected err => exact (links_suspended (h hheld)).1 err
    | fpAdvConnected conn => exact h hheld
    | disconnected conn => exact (links_suspended (h hheld)).2 conn
    | restartWork io =>
      have hsame := restartWork_session l.fp io
      exact ⟨hsame.enabled.trans (h hheld).1, hsame.suspended.trans (h hheld).2⟩
    | rpaExpired io =>
      have hsame := rpaExpired_session l.fp io
      exact ⟨hsame.enabled.trans (h hheld).1, hsame.suspended.trans (h hheld).2⟩
    | request trigger enable io => exact request_suspended trigger enable io (h hheld)
    | enable io =>
      have hup := h hheld
      show Suspended { l with fp := (appFpAdvEnable l.fp l.stored io).1 }
      unfold appFpAdvEnable
      rw [if_pos hup.1]
      exact hup
    | accountKeyWritten io =>
      simp only [watched, runs.System.watch, note, Bool.or_eq_true, Bool.and_eq_true,
        Bool.not_eq_true'] at hheld
      rcases hheld with hold | ⟨⟨hon, hkey⟩, hprov⟩
      · exact accountKey_suspended io (h hold).1 (Or.inl (h hold).2)
      · exact accountKey_suspended io hon
          (Or.inr ⟨(hs.provisioned hon).trans hprov, (hs.key hon).trans hkey⟩)
    | provisioningStateChanged provisioned io =>
      simp only [watched, runs.System.watch, note, Bool.and_eq_true, Bool.not_eq_true'] at hheld
      obtain ⟨hold, rfl⟩ := hheld
      exact unprovisioning_suspended io (h hold)
    | clockSynced io => exact clockSynced_suspended io (h hheld)
    | stopDiscoverable io => exact request_suspended _ _ _ (h hheld)
    | fpAdvModeChange io => exact modeChange_suspended io (h hheld)
    | fmdnAdvModeChange io => exact toggle_suspended io (h hheld)
    | factoryResetRequest => exact h hheld
    | factoryResetWork io =>
      simp only [watched, runs.System.watch, note, Bool.and_eq_true, decide_eq_true_eq] at hheld
      exact reset_suspended io hheld.2 (h hheld.1)
    | rpaSuspensionWork => cases hheld
    | disable io => cases hheld
    | reboot io => cases hheld

/-- From the first Account Key of an enabled tag that is not provisioned, the callback keeps the
address until the tag is provisioned, the timer runs out or the module is disabled. And a timer
that ends the suspension is always pending. -/
theorem a_first_key_holds_the_address_for_a_time (l : Locator) (es : List Call)
    (h : system.Run l es) :
    watched.States Holds (l, false) es ∧ system.States SuspensionEnds l es := by
  obtain ⟨⟨stored, io, rfl⟩, hA⟩ := h
  have hstart := inSession_invariant.at_boot stored io
  have hwatched := (system.watch_steps (P := Permitted) false note (boot stored io, false)
    es).mpr hA
  constructor
  · refine runs.System.states_of_invariant (S := watched)
      (A := fun p c => Permitted p.1 c)
      (I := fun p => At InSession p.1 ∧ (p.2 = true → Suspended p.1)) ?_ ?_
      ⟨hstart, fun hheld => by cases hheld⟩ hwatched
    · intro p c hp hc
      exact ⟨inSession_invariant.at_step p.1 c hp.1 hc, suspended_next p c hc hp.1 hp.2⟩
    · intro p hp hheld rpa
      exact expired_of_suspended rpa (hp.2 hheld).2
  · exact runs.System.states_of_invariant
      (fun l c hl hc => inSession_invariant.at_step l c hl hc)
      (fun l hl hsusp => ⟨hl.suspended hsusp, rfl⟩) hstart hA

/-- A tag is taken into an account and provisioned, and what is stored is erased. -/
def paired : List Call :=
  [.tag (.request .ui true quietStack), .tag (.accountKeyWritten quietStack),
    .tag (.provisioningStateChanged true quietProvisioning), .tag (.disable quietStack),
    .factoryReset 0, .tag (.enable quietStack)]

theorem a_pairing_holds_the_address :
    watched.States Holds (freshLocator, false) paired ∧
      system.States SuspensionEnds freshLocator paired :=
  a_first_key_holds_the_address_for_a_time freshLocator paired ⟨⟨_, _, rfl⟩, by decide⟩

end smart_track.fp_session
