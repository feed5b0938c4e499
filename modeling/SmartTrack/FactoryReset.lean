-- When a factory reset hits a paired tag. A pending reset is only cancelled by a
-- provisioning, and only when it waits for one; so a reset that was scheduled
-- for a mismatch is carried out even if the mismatch has gone meanwhile.
import SmartTrack.Locator

open smart_track.zephyr smart_track.fp_adv smart_track.locator

namespace smart_track.factory_reset

/-- `factory_reset_perform` is only entered while FMDN is not provisioned or no Account Key
is stored. -/
def ResetsUnpaired (l : Locator) : Event → Prop
  | .factoryResetWork _ => l.stored.is_provisioned = false ∨ l.stored.has_account_key = false
  | _ => True

instance (l : Locator) (e : Event) : Decidable (ResetsUnpaired l e) := by
  apply Event.casesOn (motive := fun e => Decidable (ResetsUnpaired l e)) e
  all_goals
    intros
    unfold ResetsUnpaired
    infer_instance

/-- The boot comes to `fmdn_provisioning_state_init`. -/
def ReachesInit (stored : Stored) (io : BootIo) : Prop :=
  io.fastPairRc = 0 ∧ (appFpAdvEnable {} stored io.fp).2 = 0

instance (stored : Stored) (io : BootIo) : Decidable (ReachesInit stored io) :=
  inferInstanceAs (Decidable (_ ∧ _))

/-- What is left in flash after `bt_fast_pair_factory_reset`. -/
def erased : Stored := { has_account_key := false, is_provisioned := false }

/-- Every boot of the run comes to `fmdn_provisioning_state_init`. -/
def BootsThrough (l : Locator) : Event → Prop
  | .reboot io => ReachesInit l.stored io
  | .factoryResetWork io => ReachesInit erased io.boot
  | _ => True

instance (l : Locator) (e : Event) : Decidable (BootsThrough l e) := by
  apply Event.casesOn (motive := fun e => Decidable (BootsThrough l e)) e
  all_goals
    intros
    unfold BootsThrough
    infer_instance

def StartsThrough (l : Locator) : Prop := ∃ stored io, ReachesInit stored io ∧ l = boot stored io

/-- The reset work goes all the way to the restart. -/
def getsThrough (l : Locator) (io : ResetIo) : Bool :=
  decide (l.reset.factory_reset_state ≠ .IN_PROGRESS) && ! (factoryResetWorkHandle l io).halted

/-! ## The watcher -/

/-- A provisioning that comes now leaves a pending reset as it is. -/
def outlastsProvisioning (l : Locator) : Bool :=
  decide (l.reset.factory_reset_work ≠ none ∧
    l.main.factory_reset_trigger ≠ .PROVISIONING_TIMEOUT)

/-- The watcher notes that a reset was left behind on a paired tag: by a provisioning that does
not cancel the one that waits, or by the first key of a tag that was provisioned before. An
unprovisioning or a restart takes the note back. -/
def note (left : Bool) (l : Locator) : Event → Bool
  | .accountKeyWritten _ =>
    left || l.stored.is_provisioned && ! l.main.fp_account_key_present
  | .provisioningStateChanged provisioned _ =>
    provisioned && l.stored.has_account_key && outlastsProvisioning l
  | .factoryResetWork _ => false
  | .reboot _ => false
  | _ => left

def watched : runs.System (Locator × Bool) Event := system.watch false note

/-- No reset was left behind when the work comes to run. -/
def NoneLeft (p : Locator × Bool) : Event → Prop
  | .factoryResetWork _ => p.2 = false
  | _ => True

instance (p : Locator × Bool) (e : Event) : Decidable (NoneLeft p e) := by
  apply Event.casesOn (motive := fun e => Decidable (NoneLeft p e)) e
  all_goals
    intros
    unfold NoneLeft
    infer_instance

/-! ## What is left behind -/

/-- A reset waits for a tag that is paired. -/
def ThreatensPaired (l : Locator) : Prop :=
  l.reset.factory_reset_work ≠ none ∧ l.stored.is_provisioned = true ∧
    l.stored.has_account_key = true

/-- `main.c` knows the key, the work waits while a reset is pending, and the watcher knows
whether it threatens a paired tag. -/
structure Kept (l : Locator) (left : Bool) : Prop where
  main_key : l.main.fp_account_key_present = l.stored.has_account_key
  idle : l.reset.factory_reset_state ≠ .IN_PROGRESS
  waits : l.reset.factory_reset_state ≠ .IDLE → l.reset.factory_reset_work ≠ none
  left_iff : left = true ↔ ThreatensPaired l

/-- The fields that the invariant looks at are the same in both. -/
structure SameReset (l u : Locator) : Prop where
  stored : u.stored = l.stored
  key : u.main.fp_account_key_present = l.main.fp_account_key_present
  state : u.reset.factory_reset_state = l.reset.factory_reset_state
  work : u.reset.factory_reset_work = l.reset.factory_reset_work

theorem SameReset.kept {l u : Locator} {left : Bool} (h : SameReset l u) (hk : Kept l left) :
    Kept u left := by
  constructor
  · rw [h.key, h.stored]
    exact hk.main_key
  · rw [h.state]
    exact hk.idle
  · rw [h.state, h.work]
    exact hk.waits
  · unfold ThreatensPaired
    rw [h.work, h.stored]
    exact hk.left_iff

theorem stateSet_same (m : Main) (provisioned : Bool) :
    (fmdnProvisioningStateSet m provisioned).fp_account_key_present = m.fp_account_key_present ∧
      (fmdnProvisioningStateSet m provisioned).factory_reset_trigger =
        m.factory_reset_trigger := by
  unfold fmdnProvisioningStateSet
  split <;> exact ⟨rfl, rfl⟩

/-- After a boot a reset only waits for a mismatch. -/
theorem boot_kept {stored : Stored} {io : BootIo} (hinit : ReachesInit stored io) :
    Kept (boot stored io) false := by
  unfold boot
  simp only [hinit.1, ne_eq, not_true_eq_false, if_false, hinit.2]
  unfold fmdnProvisioningStateInit fmdnFactoryResetSchedule appFactoryResetSchedule
  simp only [ne_eq, not_true_eq_false, if_false]
  split
  · rename_i hmismatch
    refine ⟨rfl, by simp, fun _ => by simp [kWorkSchedule], ?_⟩
    refine iff_of_false (by decide) ?_
    rintro ⟨_, hp, hkey⟩
    exact hmismatch (hkey.trans hp.symm)
  · refine ⟨rfl, by simp, fun h => absurd rfl h, iff_of_false (by decide) ?_⟩
    rintro ⟨hwork, _⟩
    exact hwork rfl

theorem sysReboot_kept {l : Locator} {io : BootIo} (hinit : ReachesInit l.stored io) :
    Kept (sysReboot l io) false :=
  SameReset.kept (l := boot l.stored io) ⟨rfl, rfl, rfl, rfl⟩ (boot_kept hinit)

/-- A schedule leaves the work pending: it was idle, or the work waits already. -/
theorem schedule_waits {r : FactoryReset} (delay : Nat)
    (hidle : r.factory_reset_state ≠ .IN_PROGRESS)
    (h : r.factory_reset_state ≠ .IDLE → r.factory_reset_work ≠ none) :
    (appFactoryResetSchedule r delay).factory_reset_state ≠ .IN_PROGRESS ∧
      (appFactoryResetSchedule r delay).factory_reset_work ≠ none := by
  unfold appFactoryResetSchedule
  split
  · rename_i hbusy
    exact ⟨hidle, h hbusy⟩
  · exact ⟨by simp, by simp [kWorkSchedule]⟩

/-- The first key leaves a reset pending, so it threatens the tag if that is provisioned. -/
theorem accountKeyWritten_kept {l : Locator} {left : Bool} (io : StackIo) (h : Kept l left) :
    Kept (accountKeyWritten l io) (note left l (.accountKeyWritten io)) := by
  unfold accountKeyWritten fpAccountKeyWritten fmdnFactoryResetSchedule
  simp only
  split
  · rename_i hmain
    have hkey : l.stored.has_account_key = false := h.main_key.symm.trans hmain
    have hnone : left = false := by
      by_contra hleft
      obtain ⟨_, _, hthreat⟩ := h.left_iff.mp (by simpa using hleft)
      rw [hkey] at hthreat
      cases hthreat
    obtain ⟨hidle, hwork⟩ :=
      schedule_waits (K_MINUTES FMDN_PROVISIONING_TIMEOUT) h.idle h.waits
    refine ⟨rfl, hidle, fun _ => hwork, ?_⟩
    simp only [note, hmain, hnone, Bool.false_or, Bool.not_false, Bool.and_true]
    exact ⟨fun hp => ⟨hwork, hp, rfl⟩, fun hthreat => hthreat.2.1⟩
  · rename_i hmain
    have hmain : l.main.fp_account_key_present = true := by simpa using hmain
    have hkey : l.stored.has_account_key = true := h.main_key.symm.trans hmain
    refine ⟨rfl, h.idle, h.waits, ?_⟩
    simp only [note, hmain, Bool.not_true, Bool.and_false, Bool.or_false]
    rw [h.left_iff]
    unfold ThreatensPaired
    simp only [hkey]

/-- A provisioning cancels the reset that waits for it, and no other. -/
theorem provisioned_kept {l : Locator} {left : Bool} (io : ProvisioningIo) (h : Kept l left) :
    Kept (provisioningStateChanged l true io)
      (note left l (.provisioningStateChanged true io)) := by
  obtain ⟨hmain, htrigger⟩ := stateSet_same l.main true
  have hcancel : (appFactoryResetCancel l.reset).factory_reset_work = none ∧
      (appFactoryResetCancel l.reset).factory_reset_state = .IDLE := by
    unfold appFactoryResetCancel
    rw [if_neg h.idle]
    exact ⟨rfl, rfl⟩
  unfold provisioningStateChanged fmdnProvisioningStateChanged requestUi request
    fmdnFactoryResetCancel
  simp only [if_true]
  split
  · rename_i hwaited
    refine ⟨hmain.trans h.main_key, ?_, ?_, ?_⟩
    · simp only [hcancel.2]
      simp
    · intro hbusy
      exact absurd hcancel.2 hbusy
    · have hleft : outlastsProvisioning l = false := by
        simp [outlastsProvisioning, ← htrigger, hwaited]
      refine iff_of_false (by simp [note, hleft]) ?_
      rintro ⟨hwork, _⟩
      exact hwork hcancel.1
  · rename_i hother
    rw [htrigger] at hother
    refine ⟨hmain.trans h.main_key, h.idle, h.waits, ?_⟩
    simp only [note, outlastsProvisioning, Bool.true_and, Bool.and_eq_true, decide_eq_true_eq]
    exact ⟨fun ⟨hkey, hwork, _⟩ => ⟨hwork, rfl, hkey⟩,
      fun ⟨hwork, _, hkey⟩ => ⟨hkey, hwork, hother⟩⟩

/-- An unprovisioning schedules a reset, and the tag is not paired any more. -/
theorem unprovisioned_kept {l : Locator} {left : Bool} (io : ProvisioningIo) (h : Kept l left) :
    Kept (provisioningStateChanged l false io)
      (note left l (.provisioningStateChanged false io)) := by
  obtain ⟨hidle, hwork⟩ := schedule_waits (K_SECONDS FACTORY_RESET_DELAY) h.idle h.waits
  unfold provisioningStateChanged fmdnProvisioningStateChanged request fmdnFactoryResetSchedule
  simp only [Bool.false_eq_true, if_false]
  refine ⟨(stateSet_same l.main false).1.trans h.main_key, hidle, fun _ => hwork, ?_⟩
  refine iff_of_false (by simp [note]) ?_
  rintro ⟨_, hp, _⟩
  cases hp

/-- A reset that does not end in `k_panic` ends in a boot with nothing stored. -/
theorem factoryReset_kept {l : Locator} {left : Bool} {io : ResetIo}
    (hinit : ReachesInit erased io.boot) (hrun : (factoryResetWorkHandle l io).halted = false)
    (h : Kept l left) : Kept (factoryResetWorkHandle l io) false := by
  unfold factoryResetWorkHandle at hrun ⊢
  rcases factoryResetPerform_cases
    { l with reset := { l.reset with factory_reset_work := none } } io with
    ⟨hprogress, _⟩ | ⟨hhalted, _⟩ | ⟨u, hu, heq⟩
  · exact absurd hprogress h.idle
  · rw [hhalted] at hrun
    cases hrun
  · rw [heq]
    apply sysReboot_kept
    rw [hu]
    exact hinit

theorem toggle_kept {l : Locator} {left : Bool} (io : ToggleIo) (h : Kept l left) :
    Kept (fmdnAdvtModeChangeHandle l io) left := by
  have hsame : SameReset l (fmdnAdvtModeChangeHandle l io) := by
    unfold fmdnAdvtModeChangeHandle finish
    simp only
    split_ifs <;> exact ⟨rfl, rfl, rfl, rfl⟩
  exact hsame.kept h

/-- A tag that runs is followed by its watcher. -/
def KeptWhileRunning (p : Locator × Bool) : Prop := p.1.halted = false → Kept p.1 p.2

theorem kept_next (p : Locator × Bool) (e : Event) (h : KeptWhileRunning p)
    (ha : Allowed p.1 e) (hboot : BootsThrough p.1 e) :
    KeptWhileRunning (watched.next p e) := by
  obtain ⟨l, left⟩ := p
  have hkept : OnlyAdvertises e → (next l e).halted = false → Kept (next l e) left := by
    intro he hrun
    obtain ⟨fp, ui, work, sync, done, heq⟩ := onlyAdvertises_next l he
    rw [heq] at hrun ⊢
    exact SameReset.kept (l := l) ⟨rfl, rfl, rfl, rfl⟩ (h hrun)
  cases e with
  | accountKeyWritten io => exact fun _ => accountKeyWritten_kept io (h ha)
  | provisioningStateChanged provisioned io =>
    cases provisioned with
    | false => exact fun _ => unprovisioned_kept io (h ha.1)
    | true => exact fun _ => provisioned_kept io (h ha.1)
  | fmdnAdvModeChange io => exact fun _ => toggle_kept io (h ha)
  | factoryResetRequest =>
    exact fun _ => SameReset.kept (l := l) ⟨rfl, rfl, rfl, rfl⟩ (h ha)
  | factoryResetWork io => exact fun hrun => factoryReset_kept hboot hrun (h ha.1)
  | reboot io => exact fun _ => sysReboot_kept hboot
  | _ => exact hkept trivial

/-- The pending work hits a paired tag just when the watcher knows of a reset left behind. -/
theorem resetsUnpaired_iff (p : Locator × Bool) (e : Event) (h : KeptWhileRunning p)
    (ha : Allowed p.1 e) : ResetsUnpaired p.1 e ↔ NoneLeft p e := by
  cases e with
  | factoryResetWork io =>
    have hleft : ¬ p.2 = true ↔ ¬ ThreatensPaired p.1 := not_congr (h ha.1).left_iff
    unfold ThreatensPaired at hleft
    simp only [ha.2, ne_eq, not_false_eq_true, true_and, not_and_or, Bool.not_eq_true] at hleft
    exact hleft.symm
  | _ => exact Iff.rfl

/-- In a run from any boot each factory reset hits a tag without a provisioning or without a key
just when none was left behind on a paired tag. -/
theorem resets_hit_unpaired_tags_while_none_is_left_behind (l : Locator) (es : List Event)
    (hstart : StartsThrough l) (h : system.Steps Allowed l es)
    (hboot : system.Steps BootsThrough l es) :
    system.Steps ResetsUnpaired l es ↔ watched.Steps NoneLeft (l, false) es := by
  have h0 : KeptWhileRunning (l, false) := by
    obtain ⟨stored, io, hinit, rfl⟩ := hstart
    exact fun _ => boot_kept hinit
  have hA := (system.watch_steps false note (l, false) es).mpr
    ((runs.System.steps_and l es).mpr ⟨h, hboot⟩)
  rw [← system.watch_steps false note (l, false) es]
  exact runs.System.steps_congr (fun p e hp hstep => kept_next p e hp hstep.1 hstep.2)
    (fun p e hp hstep => resetsUnpaired_iff p e hp hstep.1) h0 hA

def quietProvisioning : ProvisioningIo :=
  { rotate := quietStack, fmdn := quietStack, ui := quietStack, clock := quietStack }

def quietReset : ResetIo :=
  { fmdn := quietStack, clock := quietStack, ui := quietStack, fpDisable := quietStack,
    disableRc := 0, factoryResetRc := 0, enableRc := 0, fpEnable := quietStack, boot := quietBoot }

/-- A key is written, no provisioning comes, and the tag is reset; then it is paired, its owner
takes it out of the account, and it is reset again. -/
theorem an_unpaired_tag_is_erased_twice :
    system.Steps ResetsUnpaired freshLocator
      [.accountKeyWritten quietStack, .factoryResetWork quietReset,
        .accountKeyWritten quietStack, .provisioningStateChanged true quietProvisioning,
        .provisioningStateChanged false quietProvisioning, .factoryResetWork quietReset] :=
  (resets_hit_unpaired_tags_while_none_is_left_behind freshLocator _ ⟨_, _, by decide, rfl⟩
    (by decide) (by decide)).mpr (by decide)

/-- A tag that its owner takes out of the account and puts back within the delay of the reset. -/
def quickReturn : List Event :=
  [.provisioningStateChanged false quietProvisioning,
    .provisioningStateChanged true quietProvisioning, .factoryResetWork quietReset]

/-- The reset comes all the same. -/
theorem a_quick_return_is_reset :
    ¬ ∀ (l : Locator) (es : List Event), StartsThrough l → system.Steps Allowed l es →
      system.Steps BootsThrough l es → system.Steps ResetsUnpaired l es := by
  intro h
  have hrun := h (boot { has_account_key := true, is_provisioned := true } quietBoot)
    quickReturn ⟨_, _, by decide, rfl⟩ (by decide) (by decide)
  revert hrun
  decide

/-- That reset fails the assertion of `main.c` that no provisioning is left. -/
example : (system.run (boot { has_account_key := true, is_provisioned := true } quietBoot)
    quickReturn).main.assertion_held = false := by decide

end smart_track.factory_reset
