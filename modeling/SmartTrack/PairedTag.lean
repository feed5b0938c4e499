-- A tag that is provisioned has the Fast Pair advertising off. Every request for it goes through
-- `main.c`, and the call there that would ask for it after a power loss is commented out.
import SmartTrack.FactoryReset
import SmartTrack.FpLink
import SmartTrack.FpPolicy

open smart_track.fp_adv smart_track.locator smart_track.fp_policy
open smart_track.factory_reset (StartsThrough BootsThrough ReachesInit erased quietProvisioning
  stateSet_same)

namespace smart_track.paired_tag

/-! ## The environment -/

/-- Nobody but `main.c` asks for advertising. -/
def OnlyMainAsks (_l : Locator) : Event → Prop
  | .request .. => False
  | _ => True

/-- The Fast Pair subsystem provisions a tag with an Account Key only. -/
def ProvisionsWithKey (l : Locator) : Event → Prop
  | .provisioningStateChanged provisioned _ => provisioned = true → l.stored.has_account_key = true
  | _ => True

instance (l : Locator) (e : Event) : Decidable (OnlyMainAsks l e) := by
  apply Event.casesOn (motive := fun e => Decidable (OnlyMainAsks l e)) e
  all_goals
    intros
    unfold OnlyMainAsks
    infer_instance

instance (l : Locator) (e : Event) : Decidable (ProvisionsWithKey l e) := by
  apply Event.casesOn (motive := fun e => Decidable (ProvisionsWithKey l e)) e
  all_goals
    intros
    unfold ProvisionsWithKey
    infer_instance

theorem raises_of_onlyMain {l : Locator} {e : Event} (h : OnlyMainAsks l e) :
    RaisesWithKey l e := by
  cases e with
  | request trigger enable io => exact False.elim h
  | _ => trivial

/-! ## The bits of the requests -/

/-- Every bit that is set is that of a trigger. -/
def OwnBits (a : FpAdv) : Prop :=
  ∀ i < 32, a.fp_adv_request_bm.getLsbD i = true → ∃ t, fpAdvTriggerIdxGet t = i

/-- If no trigger asks, no bit is set. -/
theorem bits_zero {a : FpAdv} (h : OwnBits a) (hnone : ∀ t, isRequested a t = false) :
    a.fp_adv_request_bm = 0 := by
  apply BitVec.eq_of_getLsbD_eq
  intro i hi
  by_contra hbit
  have hset : a.fp_adv_request_bm.getLsbD i = true := by
    simpa [BitVec.getLsbD_zero] using hbit
  obtain ⟨t, rfl⟩ := h i hi hset
  have hoff := hnone t
  rw [isRequested_getLsbD, hset] at hoff
  cases hoff

theorem ownBits_of_same {a b : FpAdv} (h : b.fp_adv_request_bm = a.fp_adv_request_bm)
    (ha : OwnBits a) : OwnBits b := by
  unfold OwnBits
  rw [h]
  exact ha

theorem ownBits_request {a : FpAdv} (trigger : Trigger) (enable : Bool) (io : StackIo)
    (h : OwnBits a) : OwnBits (appFpAdvRequest a trigger enable io) := by
  have hwritten : OwnBits { a with
      fp_adv_request_bm := writeBit a.fp_adv_request_bm (fpAdvTriggerIdxGet trigger) enable } := by
    intro i hi hset
    simp only [getLsbD_writeBit _ _ hi] at hset
    split at hset
    · rename_i hsame
      exact ⟨trigger, hsame.symm⟩
    · exact h i hi hset
  rcases request_cases a trigger enable io with ⟨_, heq⟩ | ⟨_, ⟨_, heq⟩ | ⟨_, heq⟩⟩
  · rw [heq]
    exact h
  · rw [heq]
    exact hwritten
  · obtain ⟨active, calls, hupdate⟩ := modeUpdate_frame { a with
      fp_adv_request_bm := writeBit a.fp_adv_request_bm (fpAdvTriggerIdxGet trigger) enable } io
    rw [heq, hupdate]
    exact hwritten

theorem enable_bits (a : FpAdv) (stored : Stored) (io : StackIo) :
    (appFpAdvEnable a stored io).1.fp_adv_request_bm = a.fp_adv_request_bm := by
  rcases enable_cases a stored io with ⟨_, heq⟩ | ⟨_, b, hb, ⟨heq, _⟩ | heq⟩
  · rw [heq]
  · rw [heq]
    exact (sameRequests_of_onlySet hb).bits
  · obtain ⟨active, calls, hupdate⟩ := modeUpdate_frame b io
    rw [heq, hupdate]
    exact (sameRequests_of_onlySet hb).bits

/-- No trigger asks. -/
structure Silent (a : FpAdv) : Prop where
  own : OwnBits a
  unasked : ∀ t, isRequested a t = false

theorem silent_of_same {a b : FpAdv} (h : b.fp_adv_request_bm = a.fp_adv_request_bm)
    (ha : Silent a) : Silent b := by
  refine ⟨ownBits_of_same h ha.own, ?_⟩
  intro t
  unfold isRequested
  rw [h]
  exact ha.unasked t

theorem silent_fresh : Silent {} := by
  refine ⟨?_, fun t => by cases t <;> decide⟩
  intro i _ hset
  simp at hset

/-! ## The invariant -/

/-- No trigger asks while the tag is provisioned, and that of the clock never does. A tag that runs
has in `main.c` what is stored. -/
structure Paired (l : Locator) : Prop where
  own : OwnBits l.fp
  clock : isRequested l.fp .clock_sync = false
  unasked : l.stored.is_provisioned = true → ∀ t, isRequested l.fp t = false
  key : l.stored.is_provisioned = true → l.stored.has_account_key = true
  main_key : l.halted = false → l.main.fp_account_key_present = l.stored.has_account_key
  main_provisioned : l.halted = false → l.main.fmdn_provisioned = l.stored.is_provisioned

/-- A change that neither the requests nor the pairing see. -/
theorem paired_of_same {l u : Locator} (h : Paired l)
    (hbits : u.fp.fp_adv_request_bm = l.fp.fp_adv_request_bm) (hstored : u.stored = l.stored)
    (hkey : u.main.fp_account_key_present = l.main.fp_account_key_present)
    (hprov : u.main.fmdn_provisioned = l.main.fmdn_provisioned)
    (hhalted : u.halted = false → l.halted = false) : Paired u := by
  have hreq : ∀ t, isRequested u.fp t = isRequested l.fp t := by
    intro t
    unfold isRequested
    rw [hbits]
  refine ⟨ownBits_of_same hbits h.own, (hreq _).trans h.clock, ?_, ?_, ?_, ?_⟩
  · rw [hstored]
    exact fun hp t => (hreq t).trans (h.unasked hp t)
  · rw [hstored]
    exact h.key
  · rw [hstored, hkey]
    exact fun hrun => h.main_key (hhalted hrun)
  · rw [hstored, hprov]
    exact fun hrun => h.main_provisioned (hhalted hrun)

/-- A request that is dropped never harms. -/
theorem paired_drop {l : Locator} (t : Trigger) (io : StackIo) (h : Paired l) :
    Paired (request l t false io) := by
  have hreq : ∀ u, isRequested l.fp u = false →
      isRequested (appFpAdvRequest l.fp t false io) u = false := by
    intro u hu
    rw [request_isRequested]
    split
    · rfl
    · exact hu
  exact ⟨ownBits_request t false io h.own, hreq _ h.clock,
    fun hp u => hreq u (h.unasked hp u), h.key, h.main_key, h.main_provisioned⟩

/-- Only a tag that is not provisioned may ask, and never for the clock. -/
theorem paired_raise {l : Locator} {t : Trigger} (enable : Bool) (io : StackIo)
    (hfree : l.stored.is_provisioned = false) (hclock : t ≠ .clock_sync) (h : Paired l) :
    Paired (request l t enable io) := by
  refine ⟨ownBits_request t enable io h.own, ?_, ?_, h.key, h.main_key, h.main_provisioned⟩
  · rw [request, request_isRequested, if_neg hclock.symm]
    exact h.clock
  · intro hp
    exact absurd (hfree.symm.trans hp) (by decide)

theorem stateSet_provisioned (m : Main) (provisioned : Bool) :
    (fmdnProvisioningStateSet m provisioned).fmdn_provisioned = provisioned := by
  unfold fmdnProvisioningStateSet
  split
  · assumption
  · rfl

theorem boot_silent (stored : Stored) (io : BootIo) : Silent (boot stored io).fp := by
  have hup : Silent (appFpAdvEnable {} stored io.fp).1 :=
    silent_of_same (enable_bits {} stored io.fp) silent_fresh
  unfold boot
  simp only
  split
  · exact silent_fresh
  · split
    · exact hup
    · rw [init_fp]
      exact hup

theorem boot_paired {stored : Stored} {io : BootIo} (hinit : ReachesInit stored io)
    (hkey : stored.is_provisioned = true → stored.has_account_key = true) :
    Paired (boot stored io) := by
  have hsilent := boot_silent stored io
  have hmain : (boot stored io).main.fp_account_key_present = stored.has_account_key ∧
      (boot stored io).main.fmdn_provisioned = stored.is_provisioned := by
    unfold boot
    simp only [hinit.1, ne_eq, not_true_eq_false, if_false, hinit.2]
    unfold fmdnProvisioningStateInit fmdnFactoryResetSchedule
    simp only
    split <;> exact ⟨rfl, stateSet_provisioned _ _⟩
  constructor
  · exact hsilent.own
  · exact hsilent.unasked _
  · exact fun _ => hsilent.unasked
  · rw [boot_stored]
    exact hkey
  · rw [boot_stored]
    exact fun _ => hmain.1
  · rw [boot_stored]
    exact fun _ => hmain.2

theorem sysReboot_paired {l : Locator} {io : BootIo} (hinit : ReachesInit l.stored io)
    (hkey : l.stored.is_provisioned = true → l.stored.has_account_key = true) :
    Paired (sysReboot l io) :=
  paired_of_same (boot_paired hinit hkey) rfl rfl rfl rfl id

/-! ## Every event keeps the invariant -/

theorem accountKeyWritten_paired {l : Locator} (io : StackIo) (hrun : l.halted = false)
    (h : Paired l) : Paired (accountKeyWritten l io) := by
  have hfp : (fpAdvAccountKeyWritten l.fp
      { l.stored with has_account_key := true }).fp_adv_request_bm = l.fp.fp_adv_request_bm :=
    (accountKey_fields l.fp _).bits
  have hreq : ∀ t, isRequested (fpAdvAccountKeyWritten l.fp
      { l.stored with has_account_key := true }) t = isRequested l.fp t :=
    (accountKey_fields l.fp _).isRequested
  let written : Locator := { l with
    stored := { l.stored with has_account_key := true }
    fp := fpAdvAccountKeyWritten l.fp { l.stored with has_account_key := true }
    main := { l.main with fp_account_key_present := true } }
  have hwritten : Paired written :=
    ⟨ownBits_of_same hfp h.own, (hreq _).trans h.clock,
      fun hp t => (hreq t).trans (h.unasked hp t), fun _ => rfl, fun _ => rfl, h.main_provisioned⟩
  unfold accountKeyWritten fpAccountKeyWritten fmdnFactoryResetSchedule
  simp only
  split
  · -- The first key comes before the provisioning.
    rename_i hmain
    have hfree : written.stored.is_provisioned = false := by
      by_contra hp
      have hkey := h.key (by simpa using hp)
      rw [← h.main_key hrun, hmain] at hkey
      cases hkey
    have hraised := paired_raise (t := .fmdn_provisioning) true io hfree (by decide) hwritten
    exact paired_of_same hraised rfl rfl rfl rfl id
  · exact hwritten

/-- Dropping the requests of the provisioning and of the user leaves none but that of the clock. -/
theorem dropped_silent {a : FpAdv} (fmdn ui : StackIo) (hown : OwnBits a)
    (hclock : isRequested a .clock_sync = false) :
    Silent (appFpAdvRequest (appFpAdvRequest a .fmdn_provisioning false fmdn) .ui false ui) := by
  refine ⟨ownBits_request _ _ _ (ownBits_request _ _ _ hown), ?_⟩
  intro t
  rw [request_isRequested, request_isRequested]
  cases t with
  | clock_sync => exact hclock
  | fmdn_provisioning => rfl
  | ui => rfl

theorem provisioning_paired {l : Locator} {provisioned : Bool} (io : ProvisioningIo)
    (hkey : provisioned = true → l.stored.has_account_key = true) (hrun : l.halted = false)
    (h : Paired l) : Paired (provisioningStateChanged l provisioned io) := by
  have hsame := fpProvisioning_same l.fp provisioned io.rotate
  have hown := ownBits_of_same hsame.bits h.own
  have hclock := (hsame.isRequested .clock_sync).trans h.clock
  have hmainKey := (stateSet_same l.main provisioned).1.trans (h.main_key hrun)
  have hmainProv := stateSet_provisioned l.main provisioned
  cases provisioned with
  | true =>
    have hsilent := dropped_silent io.fmdn io.ui hown hclock
    unfold provisioningStateChanged fmdnProvisioningStateChanged requestUi request
      fmdnFactoryResetCancel
    simp only [if_true]
    split <;>
      exact ⟨hsilent.own, hsilent.unasked _, fun _ => hsilent.unasked, fun _ => hkey rfl,
        fun _ => hmainKey, fun _ => hmainProv⟩
  | false =>
    apply paired_drop
    exact ⟨hown, hclock, (fun hp => by cases hp), (fun hp => by cases hp), fun _ => hmainKey,
      fun _ => hmainProv⟩

theorem prepared_silent {l : Locator} (io : ResetIo) (h : OwnBits l.fp) :
    Silent (prepared l io).fp := by
  have hown : OwnBits (prepared l io).fp :=
    ownBits_request _ _ _ (ownBits_request _ _ _ (ownBits_request _ _ _ h))
  refine ⟨hown, ?_⟩
  intro t
  unfold prepared fmdnFactoryResetPrepare requestUi request
  rw [request_isRequested, request_isRequested, request_isRequested]
  cases t <;> rfl

theorem takenDown_silent {l : Locator} (io : ResetIo) (h : OwnBits l.fp) :
    Silent (takenDown l io) := by
  have hprepared := prepared_silent io h
  unfold takenDown
  split
  · exact silent_of_same (disable_frame _ _).2 hprepared
  · exact hprepared

theorem factoryReset_paired {l : Locator} {io : ResetIo} (hinit : ReachesInit erased io.boot)
    (h : Paired l) : Paired (factoryResetPerform l io) := by
  rcases factoryResetPerform_outcome l io with
    ⟨_, heq⟩ | ⟨fp, stored, ready, hleft, heq⟩ | ⟨u, hu, heq⟩
  · rw [heq]
    exact h
  · have hdown := takenDown_silent io h.own
    have hsilent : Silent fp := by
      rcases hleft with ⟨rfl, _⟩ | ⟨rfl, _, _⟩
      · exact hdown
      · exact silent_of_same (enable_bits _ _ _) hdown
    have hkey : stored.is_provisioned = true → stored.has_account_key = true := by
      rcases hleft with ⟨_, rfl | rfl⟩ | ⟨_, rfl, _⟩
      · exact h.key
      · exact fun hp => by cases hp
      · exact fun hp => by cases hp
    rw [heq]
    exact ⟨hsilent.own, hsilent.unasked _, fun _ => hsilent.unasked, hkey,
      (fun hrun => by cases hrun), (fun hrun => by cases hrun)⟩
  · rw [heq]
    apply sysReboot_paired
    · rw [hu]
      exact hinit
    · rw [hu]
      exact fun hp => by cases hp

theorem finish_paired {l : Locator} (err : Int) (h : Paired l) : Paired (finish l err) := by
  unfold finish
  split
  · exact paired_of_same h rfl rfl rfl rfl (fun hrun => by cases hrun)
  · exact h

theorem toggle_paired {l : Locator} (io : ToggleIo) (h : Paired l) :
    Paired (fmdnAdvtModeChangeHandle l io) := by
  have hflag : ∀ flag ready, Paired
      { l with fast_pair_ready := ready, main := { l.main with fmdn_enable_flag := flag } } :=
    fun _ _ => paired_of_same h rfl rfl rfl rfl id
  unfold fmdnAdvtModeChangeHandle
  simp only
  split_ifs
  · exact h
  · exact finish_paired _ (hflag _ _)
  · exact finish_paired _ (paired_drop _ _ (hflag _ _))
  · exact finish_paired _ (paired_drop _ _ (hflag _ _))
  · exact finish_paired _ (hflag _ _)
  · exact finish_paired _ (hflag _ _)
  · exact finish_paired _ (hflag _ _)

theorem paired_next {l : Locator} {e : Event} (h : Paired l) (ha : Allowed l e)
    (hboot : BootsThrough l e) (hmain : OnlyMainAsks l e) (hpair : ProvisionsWithKey l e) :
    Paired (next l e) := by
  cases e with
  | request trigger enable io => exact False.elim hmain
  | accountKeyWritten io => exact accountKeyWritten_paired io ha h
  | provisioningStateChanged provisioned io => exact provisioning_paired io hpair ha.1 h
  | fmdnAdvModeChange io => exact toggle_paired io h
  | factoryResetWork io =>
    have hstill : Paired { l with reset := { l.reset with factory_reset_work := none } } :=
      paired_of_same h rfl rfl rfl rfl id
    exact factoryReset_paired hboot hstill
  | reboot io => exact sysReboot_paired hboot h.key
  | clockSynced io =>
    rw [next, fmdnClockSynced]
    split
    · exact paired_of_same (paired_drop .clock_sync io h) rfl rfl rfl rfl id
    · exact h
  | stopDiscoverable io =>
    apply paired_drop
    exact paired_of_same h rfl rfl rfl rfl id
  | fpAdvModeChange io =>
    rw [next, locator.fpAdvModeChange]
    split
    · exact h
    · rename_i hfree
      let asked : Locator := { l with
        main := { l.main with fp_adv_ui_request := ! l.main.fp_adv_ui_request } }
      have hstored : asked.stored.is_provisioned = false := by
        show l.stored.is_provisioned = false
        rw [← h.main_provisioned ha]
        simpa using hfree
      have hasked : Paired asked := paired_of_same h rfl rfl rfl rfl id
      have hraised := paired_raise (t := .ui) (! l.main.fp_adv_ui_request) io hstored (by decide)
        hasked
      exact paired_of_same hraised rfl rfl rfl rfl id
  | enable io => exact paired_of_same h (enable_bits l.fp l.stored io) rfl rfl rfl id
  | disable io => exact paired_of_same h (disable_frame l.fp io).2 rfl rfl rfl id
  | factoryResetRequest => exact paired_of_same h rfl rfl rfl rfl id
  | connected err => exact paired_of_same h (connected_same l.fp err).bits rfl rfl rfl id
  | fpAdvConnected conn => exact paired_of_same h rfl rfl rfl rfl id
  | disconnected conn => exact paired_of_same h (disconnected_same l.fp conn).bits rfl rfl rfl id
  | restartWork io => exact paired_of_same h (restartWork_same l.fp io).bits rfl rfl rfl id
  | rpaExpired io =>
    have hbits := (sameRequests_of_onlySet (rpaExpired_onlySet l.fp io)).bits
    exact paired_of_same h hbits rfl rfl rfl id
  | rpaSuspensionWork => exact paired_of_same h rfl rfl rfl rfl id

/-! ## The runs -/

/-- No trigger asks for advertising and the mode is off; so is the set, until a call to the stack or
the assertion of `fp_adv.c` fails. -/
structure Hidden (a : FpAdv) : Prop where
  unasked : a.fp_adv_request_bm = 0
  mode : a.fp_adv_mode = .OFF
  set : a.calls_succeeded = true → a.assertion_held = true → a.fp_adv_set_active = false

theorem hidden_of {l : Locator} (hkey : KeyKnown l) (hinv : fp_link.Inv l.fp) (h : Paired l)
    (hp : l.stored.is_provisioned = true) : Hidden l.fp := by
  have hzero := bits_zero h.own (h.unasked hp)
  have hmode : l.fp.fp_adv_mode = .OFF := by
    cases hup : l.fp.is_enabled with
    | false => exact hinv.off hup
    | true =>
      rw [(hkey.settled hup).2]
      unfold requestedMode
      rw [if_neg (not_not.mpr hzero)]
  exact ⟨hzero, hmode, fun hcalls hheld => (hinv.tracks hheld).off_inactive hcalls hmode⟩

/-- While `main.c` alone asks, a tag that is provisioned has no request for Fast Pair advertising
and has its mode off in every state of every run, and the set with it while the calls succeed; and
nothing ever asks for a synchronisation of the clock. -/
theorem a_paired_tag_has_fast_pair_advertising_off (l : Locator) (es : List Event)
    (hstart : StartsThrough l)
    (hkey : l.stored.is_provisioned = true → l.stored.has_account_key = true)
    (h : system.Steps Allowed l es) (hboot : system.Steps BootsThrough l es)
    (hmain : system.Steps OnlyMainAsks l es) (hpair : system.Steps ProvisionsWithKey l es) :
    system.States (fun l => isRequested l.fp .clock_sync = false ∧
      (l.stored.is_provisioned = true → Hidden l.fp)) l es := by
  have h0 : KeyKnown l ∧ fp_link.Inv l.fp ∧ Paired l := by
    obtain ⟨stored, io, hinit, rfl⟩ := hstart
    rw [boot_stored] at hkey
    exact ⟨keyKnown_boot stored io, (fp_link.boot_fp stored io).inv fp_link.inv_fresh,
      boot_paired hinit hkey⟩
  have hsteps := (runs.System.steps_and _ es).mpr ⟨h, (runs.System.steps_and _ es).mpr
    ⟨hboot, (runs.System.steps_and _ es).mpr ⟨hmain, hpair⟩⟩⟩
  refine runs.System.states_of_invariant
    (I := fun l => KeyKnown l ∧ fp_link.Inv l.fp ∧ Paired l) ?_ ?_ h0 hsteps
  · rintro l e ⟨hk, hi, hp⟩ ⟨ha, hb, hm, hwith⟩
    exact ⟨keyKnown_next l e hk ha (raises_of_onlyMain hm), fp_link.next_inv l e hi,
      paired_next hp ha hb hm hwith⟩
  · rintro l ⟨hk, hi, hp⟩
    exact ⟨hp.clock, hidden_of hk hi hp⟩

/-- The user asks, the tag is paired, and the user asks again. -/
def pairedByTheUser : List Event :=
  [.fpAdvModeChange quietStack, .accountKeyWritten quietStack,
    .provisioningStateChanged true quietProvisioning, .fpAdvModeChange quietStack,
    .reboot quietBoot]

theorem a_tag_is_hidden_once_it_is_paired :
    system.States (fun l => isRequested l.fp .clock_sync = false ∧
      (l.stored.is_provisioned = true → Hidden l.fp)) freshLocator pairedByTheUser :=
  a_paired_tag_has_fast_pair_advertising_off freshLocator pairedByTheUser
    ⟨_, _, by decide, rfl⟩ (by decide) (by decide) (by decide) (by decide) (by decide)

end smart_track.paired_tag
