-- The Fast Pair advertising policy: no trigger, no advertising; and the set is
-- discoverable until an Account Key is stored. The mode is only computed again
-- on a request, so the first key needs the request that `main.c` makes for it.
import SmartTrack.Locator

open smart_track.zephyr smart_track.fp_adv smart_track.locator

namespace smart_track.fp_policy

/-- The mode that the policy gives. -/
def policyMode (l : Locator) : Mode :=
  if l.fp.fp_adv_request_bm = 0 then .OFF
  else if l.stored.has_account_key then .NOT_DISCOVERABLE
  else .DISCOVERABLE

def FollowsPolicy (l : Locator) : Prop :=
  l.fp.is_enabled = true → l.fp.fp_adv_mode = policyMode l

/-- The trigger of the provisioning is raised only when an Account Key is stored, but for
the request that `main.c` makes when the first key is written. -/
def RaisesWithKey (l : Locator) : Event → Prop
  | .request .fmdn_provisioning true _ => l.stored.has_account_key = true
  | _ => True

instance (l : Locator) (e : Event) : Decidable (RaisesWithKey l e) := by
  unfold RaisesWithKey
  split <;> infer_instance

/-! ## The bits of the triggers -/

theorem triggerIdx_injective {t u : Trigger} (h : fpAdvTriggerIdxGet t = fpAdvTriggerIdxGet u) :
    t = u := by
  cases t <;> cases u <;> first | rfl | exact absurd h (by decide)

theorem triggerIdx_lt (t : Trigger) : fpAdvTriggerIdxGet t < 32 := by
  cases t <;> decide

theorem isRequested_getLsbD (a : FpAdv) (t : Trigger) :
    isRequested a t = a.fp_adv_request_bm.getLsbD (fpAdvTriggerIdxGet t) :=
  and_BIT a.fp_adv_request_bm (triggerIdx_lt t)

/-- A written bit is the one trigger's, and the other triggers keep theirs. -/
theorem writeBit_getLsbD (bm : BitVec 32) (t u : Trigger) (enable : Bool) :
    (writeBit bm (fpAdvTriggerIdxGet t) enable).getLsbD (fpAdvTriggerIdxGet u) =
      if u = t then enable else bm.getLsbD (fpAdvTriggerIdxGet u) := by
  have hsame : fpAdvTriggerIdxGet u = fpAdvTriggerIdxGet t ↔ u = t :=
    ⟨triggerIdx_injective, fun h => by rw [h]⟩
  rw [getLsbD_writeBit bm _ (triggerIdx_lt u)]
  simp only [hsame]

/-! ## What the policy looks at -/

/-- The fields that the policy looks at are the same in both. -/
structure SameRequests (a b : FpAdv) : Prop where
  enabled : b.is_enabled = a.is_enabled
  key : b.fp_account_key_present = a.fp_account_key_present
  mode : b.fp_adv_mode = a.fp_adv_mode
  bits : b.fp_adv_request_bm = a.fp_adv_request_bm

/-- An enabled module knows about the key, and has the mode that the triggers ask for. -/
def Settled (a : FpAdv) (key : Bool) : Prop :=
  a.is_enabled = true → a.fp_account_key_present = key ∧ a.fp_adv_mode = requestedMode a

theorem SameRequests.settled {a b : FpAdv} {key : Bool} (h : SameRequests a b)
    (ha : Settled a key) : Settled b key := by
  unfold Settled requestedMode at *
  rw [h.enabled, h.key, h.mode, h.bits]
  exact ha

theorem SameRequests.isRequested {a b : FpAdv} (h : SameRequests a b) (t : Trigger) :
    isRequested b t = isRequested a t := by
  unfold fp_adv.isRequested
  rw [h.bits]

theorem SameRequests.refl (a : FpAdv) : SameRequests a a := ⟨rfl, rfl, rfl, rfl⟩

theorem sameRequests_of_onlySet {a b : FpAdv} (h : OnlySet a b) : SameRequests a b := by
  obtain ⟨set, calls, rfl, _⟩ := h
  exact ⟨rfl, rfl, rfl, rfl⟩

theorem update_same (a : FpAdv) (io : StackIo) : SameRequests a (fpAdvertisingUpdate a io) := by
  obtain ⟨active, calls, heq, _⟩ := update_spec a io
  rw [heq]
  exact ⟨rfl, rfl, rfl, rfl⟩

theorem restartWork_same (a : FpAdv) (io : StackIo) :
    SameRequests a (fpAdvRestartWorkHandle a io) := by
  unfold fpAdvRestartWorkHandle
  simp only
  split
  · have h := update_same { a with fp_adv_restart_work := false } io
    exact ⟨h.enabled, h.key, h.mode, h.bits⟩
  · exact ⟨rfl, rfl, rfl, rfl⟩

theorem connected_same (a : FpAdv) (err : Nat) : SameRequests a (fp_adv.connected a err) := by
  unfold fp_adv.connected
  split <;> exact ⟨rfl, rfl, rfl, rfl⟩

theorem disconnected_same (a : FpAdv) (conn : Conn) :
    SameRequests a (fp_adv.disconnected a conn) := by
  unfold fp_adv.disconnected
  split <;> exact ⟨rfl, rfl, rfl, rfl⟩

theorem fpProvisioning_same (a : FpAdv) (provisioned : Bool) (io : StackIo) :
    SameRequests a (fpAdvProvisioningStateChanged a provisioned io) := by
  unfold fpAdvProvisioningStateChanged
  simp only
  split_ifs <;> exact ⟨rfl, rfl, rfl, rfl⟩

/-! ## Requests, and the module up and down -/

/-- A request settles the mode, and a request that changes a bit does so from any mode. -/
theorem request_settled {a : FpAdv} {key : Bool} (trigger : Trigger) (enable : Bool)
    (io : StackIo) (hkey : a.is_enabled = true → a.fp_account_key_present = key)
    (hsame : isRequested a trigger = enable → Settled a key) :
    Settled (appFpAdvRequest a trigger enable io) key := by
  rcases request_cases a trigger enable io with ⟨hbit, heq⟩ | ⟨_, ⟨hoff, heq⟩ | ⟨hon, heq⟩⟩
  · rw [heq]
    exact hsame hbit
  · rw [heq]
    intro henabled
    rw [hoff] at henabled
    cases henabled
  · obtain ⟨active, calls, hupdate⟩ := modeUpdate_frame { a with
      fp_adv_request_bm :=
        writeBit a.fp_adv_request_bm (fpAdvTriggerIdxGet trigger) enable } io
    rw [heq, hupdate]
    exact fun _ => ⟨hkey hon, rfl⟩

theorem request_isRequested (a : FpAdv) (t u : Trigger) (enable : Bool) (io : StackIo) :
    isRequested (appFpAdvRequest a t enable io) u = if u = t then enable else isRequested a u := by
  have hwritten := writeBit_getLsbD a.fp_adv_request_bm t u enable
  rw [← isRequested_getLsbD a u] at hwritten
  rcases request_cases a t enable io with ⟨hsame, heq⟩ | ⟨_, ⟨_, heq⟩ | ⟨_, heq⟩⟩
  · rw [heq]
    by_cases hut : u = t
    · rw [if_pos hut, hut, hsame]
    · rw [if_neg hut]
  · rw [heq, isRequested_getLsbD]
    exact hwritten
  · obtain ⟨active, calls, hupdate⟩ := modeUpdate_frame { a with
      fp_adv_request_bm := writeBit a.fp_adv_request_bm (fpAdvTriggerIdxGet t) enable } io
    rw [heq, hupdate, isRequested_getLsbD]
    exact hwritten

theorem enable_settled {a : FpAdv} {stored : Stored} (io : StackIo)
    (h : Settled a stored.has_account_key) :
    Settled (appFpAdvEnable a stored io).1 stored.has_account_key := by
  rcases enable_cases a stored io with ⟨_, heq⟩ | ⟨hoff, b, hb, ⟨heq, _⟩ | heq⟩
  · rw [heq]
    exact h
  · rw [heq]
    intro henabled
    rw [(sameRequests_of_onlySet hb).enabled] at henabled
    simp only [hoff] at henabled
    cases henabled
  · obtain ⟨active, calls, hupdate⟩ := modeUpdate_frame b io
    rw [heq, hupdate]
    exact fun _ => ⟨(sameRequests_of_onlySet hb).key, rfl⟩

theorem enable_isRequested (a : FpAdv) (stored : Stored) (io : StackIo) (t : Trigger) :
    isRequested (appFpAdvEnable a stored io).1 t = isRequested a t := by
  rcases enable_cases a stored io with ⟨_, heq⟩ | ⟨_, b, hb, ⟨heq, _⟩ | heq⟩
  · rw [heq]
  · rw [heq]
    exact (sameRequests_of_onlySet hb).isRequested t
  · obtain ⟨active, calls, hupdate⟩ := modeUpdate_frame b io
    rw [heq, hupdate]
    exact (sameRequests_of_onlySet hb).isRequested t

/-! ## The invariant over both files -/

/-- The module is settled. While the tag runs, `main.c` only takes a key for stored that is,
and the trigger of the provisioning is only raised when a key is stored. -/
structure KeyKnown (l : Locator) : Prop where
  settled : Settled l.fp l.stored.has_account_key
  main_key : l.halted = false → l.main.fp_account_key_present = true →
    l.stored.has_account_key = true
  trigger : l.halted = false → isRequested l.fp .fmdn_provisioning = true →
    l.stored.has_account_key = true

theorem followsPolicy_of {l : Locator} (h : KeyKnown l) : FollowsPolicy l := by
  intro henabled
  obtain ⟨hkey, hmode⟩ := h.settled henabled
  rw [hmode, requestedMode, policyMode, hkey, ite_not]

/-- A change that the policy does not look at. -/
theorem keyKnown_of_same {l u : Locator} (h : KeyKnown l) (hfp : SameRequests l.fp u.fp)
    (hstored : u.stored.has_account_key = l.stored.has_account_key)
    (hmain : u.main.fp_account_key_present = l.main.fp_account_key_present)
    (hhalted : u.halted = false → l.halted = false) : KeyKnown u := by
  constructor
  · rw [hstored]
    exact hfp.settled h.settled
  · rw [hstored, hmain]
    exact fun hrun => h.main_key (hhalted hrun)
  · rw [hstored, hfp.isRequested]
    exact fun hrun => h.trigger (hhalted hrun)

theorem keyKnown_request {l : Locator} (t : Trigger) (enable : Bool) (io : StackIo)
    (h : KeyKnown l)
    (hraise : t = .fmdn_provisioning → enable = true → l.stored.has_account_key = true) :
    KeyKnown (request l t enable io) := by
  refine ⟨request_settled t enable io (fun henabled => (h.settled henabled).1)
    (fun _ => h.settled), h.main_key, ?_⟩
  intro hrun hbit
  simp only [request, request_isRequested] at hbit
  split at hbit
  · rename_i heq
    exact hraise heq.symm hbit
  · exact h.trigger hrun hbit

theorem keyKnown_requestUi {l : Locator} (enable : Bool) (io : StackIo) (h : KeyKnown l) :
    KeyKnown (requestUi l enable io) := by
  apply keyKnown_request
  · exact keyKnown_of_same h (.refl l.fp) rfl rfl id
  · intro hui
    cases hui

theorem keyKnown_boot (stored : Stored) (io : BootIo) : KeyKnown (boot stored io) := by
  have hdown : ∀ key, Settled {} key := fun key henabled => by cases henabled
  have hbit : isRequested {} .fmdn_provisioning = false := by decide
  have hup : Settled (appFpAdvEnable {} stored io.fp).1 stored.has_account_key :=
    enable_settled io.fp (hdown _)
  have hupBit := enable_isRequested {} stored io.fp .fmdn_provisioning
  rw [hbit] at hupBit
  unfold boot fmdnProvisioningStateInit fmdnFactoryResetSchedule
  simp only
  split
  · refine ⟨hdown _, fun _ hm => absurd hm (by simp), ?_⟩
    intro _ hb
    rw [hbit] at hb
    cases hb
  · have htrigger : isRequested (appFpAdvEnable {} stored io.fp).1 .fmdn_provisioning = true →
        stored.has_account_key = true := by
      intro hb
      rw [hupBit] at hb
      cases hb
    split
    · exact ⟨hup, fun _ hm => absurd hm (by simp), fun _ => htrigger⟩
    · split <;> exact ⟨hup, fun _ hm => hm, fun _ => htrigger⟩

theorem keyKnown_sysReboot (l : Locator) (io : BootIo) : KeyKnown (sysReboot l io) :=
  keyKnown_of_same (keyKnown_boot l.stored io) ⟨rfl, rfl, rfl, rfl⟩ rfl rfl id

theorem keyKnown_factoryReset {l : Locator} (io : ResetIo) (h : KeyKnown l) :
    KeyKnown (factoryResetPerform l io) := by
  rcases factoryResetPerform_cases l io with ⟨_, heq⟩ | ⟨hhalted, hoff⟩ | ⟨u, _, heq⟩
  · rw [heq]
    exact h
  · refine ⟨?_, ?_, ?_⟩
    · intro henabled
      rw [hoff] at henabled
      cases henabled
    · intro hrun
      rw [hhalted] at hrun
      cases hrun
    · intro hrun
      rw [hhalted] at hrun
      cases hrun
  · rw [heq]
    exact keyKnown_sysReboot u io.boot

/-- The callback of `fp_adv.c` takes over the flag, and does not compute the mode again. -/
theorem accountKey_fields (a : FpAdv) (stored : Stored) :
    SameRequests { a with fp_account_key_present := stored.has_account_key }
      (fpAdvAccountKeyWritten a stored) := by
  unfold fpAdvAccountKeyWritten
  simp only
  split <;> exact ⟨rfl, rfl, rfl, rfl⟩

/-- A key that is not the first changes nothing that the mode depends on. -/
theorem accountKey_again {a : FpAdv} {stored : Stored} (hkey : stored.has_account_key = true)
    (h : Settled a true) : Settled (fpAdvAccountKeyWritten a stored) true := by
  apply (accountKey_fields a stored).settled
  intro henabled
  obtain ⟨hpresent, hmode⟩ := h henabled
  refine ⟨hkey, ?_⟩
  simp only [requestedMode, hpresent, hkey] at hmode ⊢
  exact hmode

/-- After both callbacks for an Account Key the mode is right again: the request of `main.c`
comes just when the flag of `fp_adv.c` has changed. -/
theorem keyKnown_accountKeyWritten {l : Locator} (io : StackIo) (hrun : l.halted = false)
    (h : KeyKnown l) : KeyKnown (accountKeyWritten l io) := by
  have hagain : l.stored.has_account_key = true →
      Settled (fpAdvAccountKeyWritten l.fp { l.stored with has_account_key := true }) true := by
    intro hkey
    have hs := h.settled
    rw [hkey] at hs
    exact accountKey_again rfl hs
  unfold accountKeyWritten fpAccountKeyWritten fmdnFactoryResetSchedule
  simp only
  split
  · refine ⟨?_, fun _ _ => rfl, fun _ _ => rfl⟩
    apply request_settled
    · exact fun _ => (accountKey_fields _ _).key
    · intro hbit
      rw [(accountKey_fields _ _).isRequested] at hbit
      exact hagain (h.trigger hrun hbit)
  · rename_i hmain
    have hkey := h.main_key hrun (by simpa using hmain)
    exact ⟨hagain hkey, fun _ _ => rfl, fun _ _ => rfl⟩

theorem keyKnown_provisioning {l : Locator} (provisioned : Bool) (io : ProvisioningIo)
    (h : KeyKnown l) : KeyKnown (provisioningStateChanged l provisioned io) := by
  have hset : ∀ (m : Main) (p : Bool),
      (fmdnProvisioningStateSet m p).fp_account_key_present = m.fp_account_key_present := by
    intro m p
    unfold fmdnProvisioningStateSet
    split <;> rfl
  unfold provisioningStateChanged fmdnProvisioningStateChanged fmdnFactoryResetCancel
    fmdnFactoryResetSchedule
  simp only
  split
  · apply keyKnown_requestUi
    apply keyKnown_request
    · split <;> exact keyKnown_of_same h (fpProvisioning_same _ _ _) rfl (hset _ _) id
    · intro _ hraise
      cases hraise
  · apply keyKnown_request
    · exact keyKnown_of_same h (fpProvisioning_same _ _ _) rfl (hset _ _) id
    · intro hclock
      cases hclock

theorem keyKnown_toggle {l : Locator} (io : ToggleIo) (h : KeyKnown l) :
    KeyKnown (fmdnAdvtModeChangeHandle l io) := by
  have hfinish : ∀ (u : Locator) (err : Int), KeyKnown u → KeyKnown (finish u err) := by
    intro u err hu
    unfold finish
    split
    · exact keyKnown_of_same hu (.refl u.fp) rfl rfl (fun hrun => by cases hrun)
    · exact hu
  have hflag : ∀ (flag ready : Bool), KeyKnown
      { l with fast_pair_ready := ready, main := { l.main with fmdn_enable_flag := flag } } :=
    fun _ _ => keyKnown_of_same h (.refl l.fp) rfl rfl id
  unfold fmdnAdvtModeChangeHandle
  simp only
  split_ifs
  · exact h
  · exact hfinish _ _ (hflag _ _)
  · exact hfinish _ _ (keyKnown_request _ _ _ (hflag _ _) (fun hc => by cases hc))
  · exact hfinish _ _ (keyKnown_request _ _ _ (hflag _ _) (fun hc => by cases hc))
  · exact hfinish _ _ (hflag _ _)
  · exact hfinish _ _ (hflag _ _)
  · exact hfinish _ _ (hflag _ _)

/-! ## The runs -/

theorem keyKnown_next (l : Locator) (e : Event) (h : KeyKnown l) (ha : Allowed l e)
    (hraise : RaisesWithKey l e) : KeyKnown (next l e) := by
  cases e with
  | connected err => exact keyKnown_of_same h (connected_same l.fp err) rfl rfl id
  | fpAdvConnected conn => exact keyKnown_of_same h ⟨rfl, rfl, rfl, rfl⟩ rfl rfl id
  | disconnected conn => exact keyKnown_of_same h (disconnected_same l.fp conn) rfl rfl id
  | restartWork io => exact keyKnown_of_same h (restartWork_same l.fp io) rfl rfl id
  | rpaExpired io =>
    exact keyKnown_of_same h (sameRequests_of_onlySet (rpaExpired_onlySet l.fp io)) rfl rfl id
  | rpaSuspensionWork => exact keyKnown_of_same h ⟨rfl, rfl, rfl, rfl⟩ rfl rfl id
  | request trigger enable io =>
    apply keyKnown_request trigger enable io h
    rintro rfl rfl
    exact hraise
  | enable io =>
    refine ⟨enable_settled io h.settled, h.main_key, ?_⟩
    intro hrun hbit
    rw [next, enable_isRequested] at hbit
    exact h.trigger hrun hbit
  | disable io =>
    refine ⟨?_, h.main_key, ?_⟩
    · intro henabled
      rw [next, (disable_frame l.fp io).1] at henabled
      cases henabled
    · intro hrun hbit
      simp only [next, isRequested, (disable_frame l.fp io).2] at hbit
      exact h.trigger hrun hbit
  | accountKeyWritten io => exact keyKnown_accountKeyWritten io ha h
  | provisioningStateChanged provisioned io => exact keyKnown_provisioning provisioned io h
  | clockSynced io =>
    rw [next, fmdnClockSynced]
    split
    · have hreq := keyKnown_request .clock_sync false io h (fun hc => by cases hc)
      exact keyKnown_of_same hreq (.refl _) rfl rfl id
    · exact h
  | stopDiscoverable io =>
    exact keyKnown_requestUi false io (keyKnown_of_same h (.refl l.fp) rfl rfl id)
  | fpAdvModeChange io =>
    rw [next, locator.fpAdvModeChange]
    split
    · exact h
    · have hreq := keyKnown_requestUi (! l.main.fp_adv_ui_request) io h
      exact keyKnown_of_same hreq (.refl _) rfl rfl id
  | fmdnAdvModeChange io => exact keyKnown_toggle io h
  | factoryResetRequest => exact keyKnown_of_same h (.refl l.fp) rfl rfl id
  | factoryResetWork io =>
    exact keyKnown_factoryReset io (keyKnown_of_same h (.refl l.fp) rfl rfl id)
  | reboot io => exact keyKnown_sysReboot l io

/-- While nobody but `main.c` raises the trigger of the provisioning before a key is stored,
the mode follows the policy in every state in which the module is enabled. -/
theorem the_mode_follows_the_policy (l : Locator) (es : List Event) (h : system.Run l es)
    (hraise : system.Steps RaisesWithKey l es) : system.States FollowsPolicy l es := by
  obtain ⟨⟨stored, io, rfl⟩, hA⟩ := h
  exact runs.System.states_of_invariant
    (fun l e hk hboth => keyKnown_next l e hk hboth.1 hboth.2) (fun l hk => followsPolicy_of hk)
    (keyKnown_boot stored io) ((runs.System.steps_and _ es).mpr ⟨hA, hraise⟩)

instance (l : Locator) : Decidable (FollowsPolicy l) := inferInstanceAs (Decidable (_ → _))

/-- The user asks for advertising, a key is written, and the tag is provisioned. -/
theorem a_first_key_hides_the_tag :
    system.States FollowsPolicy freshLocator
      [.request .ui true quietStack, .accountKeyWritten quietStack,
        .provisioningStateChanged true
          { rotate := quietStack, fmdn := quietStack, ui := quietStack, clock := quietStack }] :=
  the_mode_follows_the_policy freshLocator _ ⟨⟨_, _, rfl⟩, by decide⟩ (by decide)

/-- The trigger of the provisioning is raised before the first key: the request of `main.c`
then changes nothing, and the tag stays discoverable. -/
theorem an_early_request_keeps_the_tag_discoverable :
    ¬ ∀ (l : Locator) (es : List Event), system.Run l es → system.States FollowsPolicy l es := by
  intro h
  have hrun := h freshLocator
    [.request .fmdn_provisioning true quietStack, .accountKeyWritten quietStack]
    ⟨⟨_, _, rfl⟩, by decide⟩
  have hlast := runs.System.states_last hrun
  revert hlast
  decide

end smart_track.fp_policy
