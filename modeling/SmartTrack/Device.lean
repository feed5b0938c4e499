-- The two sides of the tag together: the Vision side with its clock, and the locator
-- side with the provisioning. `main.c` brings them up one after the other, and starts
-- the Vision set for a provisioned tag.
import SmartTrack.AirTime
import SmartTrack.FactoryReset

open smart_track.zephyr smart_track.production smart_track.storage smart_track.air_time
open smart_track.tag (Tag Board linkUp linkDown superviseTime)
open smart_track.custom_services (RunsVisionBranch)
open smart_track.fp_adv (Stored)
open smart_track.locator (Locator provisioningStateChanged)
open smart_track.factory_reset (ReachesInit getsThrough)
open smart_track.time_manager (RetainedTimeBlock TIME_MAGIC_VALIDATED)
open smart_track.vision_advt (Advt InitIo bleAdvCustomInit bleAdvCustomStart bleAdvCustomStop
  getVisionId onAir Tracks onAir_start onAir_stop off_connected tracks_start tracks_stop)

namespace smart_track.device

structure Device where
  tag : Tag
  locator : Locator

/-! ## The boot -/

/-- What a boot meets on both sides, and the code of the start of the Vision set. -/
structure BootIo where
  tag : tag.BootIo
  locator : locator.BootIo
  startRc : Int

/-- The boot gets through `vision_frame_prepare`. -/
def VisionUp (board : Board) (nvs : Nvs) (io : tag.BootIo) : Prop :=
  let loaded := appStorageVerifyAndLoad (atReset nvs) board.ficr io.load
  loaded.2 = 0 ∧ (bleAdvCustomInit {} loaded.1.gst_ProductionData io.adv).2 = 0

instance (board : Board) (nvs : Nvs) (io : tag.BootIo) : Decidable (VisionUp board nvs io) :=
  inferInstanceAs (Decidable (_ ∧ _))

/-- `ble_adv_custom_start`, as `main.c` calls it. -/
def launchVision (d : Device) (startRc : Int) : Device :=
  { d with tag := tag.next d.tag (.customStart startRc) }

/-- The end of `fmdn_provisioning_state_init`. -/
def startIfProvisioned (d : Device) (startRc : Int) : Device :=
  if d.locator.main.fp_account_key_present ≠ d.locator.main.fmdn_provisioned then d
  else if d.locator.main.fmdn_provisioned then launchVision d startRc
  else d

/-- `init_work_handle`: the Vision side, the locator and the clock. A step that fails ends it. -/
def boot (board : Board) (nvs : Nvs) (retained : RetainedTimeBlock) (stored : Stored)
    (io : BootIo) : Device :=
  let t := tag.boot board nvs retained io.tag
  if VisionUp board nvs io.tag then
    let l := locator.boot stored io.locator
    if ReachesInit stored io.locator then
      startIfProvisioned { tag := t, locator := l } io.startRc
    else
      -- The clock is not reached.
      { tag := { t with time := { static_retained_time := retained } }, locator := l }
  else
    { tag := t, locator := { stored := stored } }

/-- A restart keeps flash, the retained block and what Fast Pair has stored. -/
def sysReboot (d : Device) (stored : Stored) (io : BootIo) : Device :=
  boot d.tag.board d.tag.storage.nvs d.tag.time.static_retained_time stored io

/-! ## The runs -/

/-- An event of one side; a link is an event of each. It carries what the other side meets if it
ends in a restart, and the code of the start of the Vision set. -/
inductive Event
  | tag (e : tag.Event) (bootIo : locator.BootIo) (startRc : Int)
  | locator (e : locator.Event) (bootIo : tag.BootIo) (startRc : Int)

/-- The boot that an event of the locator ends in. -/
def restartOf (l : Locator) : locator.Event → Option locator.BootIo
  | .reboot io => some io
  | .factoryResetWork io => if getsThrough l io then some io.boot else none
  | _ => none

/-- The callback of a provisioning starts the Vision set. -/
def provisions : locator.Event → Bool
  | .provisioningStateChanged provisioned _ => provisioned
  | _ => false

def next (d : Device) : Event → Device
  | .tag e bootIo startRc =>
    match resetBy d.tag e with
    | some tagIo =>
      sysReboot d d.locator.stored { tag := tagIo, locator := bootIo, startRc := startRc }
    | none => { d with tag := tag.next d.tag e }
  | .locator e bootIo startRc =>
    let l := locator.next d.locator e
    match restartOf d.locator e with
    | some locatorIo =>
      sysReboot d l.stored { tag := bootIo, locator := locatorIo, startRc := startRc }
    | none =>
      let d := { d with locator := l }
      if provisions e then launchVision d startRc else d

/-- `app_id_create` has made the identity of Fast Pair before, and `bt_id_create` gives the
next one. -/
def NextIdentity (io : InitIo) : Prop :=
  APP_BT_ID < io.activeIdentities ∧
    (io.idCreateRc.val < 0 ∨ io.idCreateRc.val = io.activeIdentities)

instance (io : InitIo) : Decidable (NextIdentity io) := inferInstanceAs (Decidable (_ ∧ _))

/-- A link on the identity of the Vision set is accepted by the set, so the set is on air; a link
of Fast Pair may come at any time. The calls of `main.c` are no events of their own. -/
def OwnCalls (t : Tag) : tag.Event → Prop
  | .connected _ id err _ => err = 0 → (id : Int) = getVisionId t.advt → id ≠ APP_BT_ID →
      onAir t.advt = true
  | .customStart _ => False
  | .customStop _ => False
  | _ => True

instance (t : Tag) (e : tag.Event) : Decidable (OwnCalls t e) := by
  apply tag.Event.casesOn (motive := fun e => Decidable (OwnCalls t e)) e
  all_goals
    intros
    unfold OwnCalls
    infer_instance

/-- A tag in `k_panic` only restarts. -/
def Allowed (d : Device) : Event → Prop
  | .tag e _ _ =>
    d.locator.halted = false ∧ tag.Allowed d.tag e ∧ OwnCalls d.tag e ∧
      ∀ io ∈ resetBy d.tag e, NextIdentity io.adv
  | .locator e bootIo _ => locator.Allowed d.locator e ∧ NextIdentity bootIo.adv

instance (d : Device) (e : Event) : Decidable (Allowed d e) := by
  apply Event.casesOn (motive := fun e => Decidable (Allowed d e)) e
  all_goals
    intros
    unfold Allowed
    infer_instance

/-- The runs start at any boot. -/
def system : runs.System Device Event where
  start d := ∃ board nvs retained stored io,
    NextIdentity io.tag.adv ∧ d = boot board nvs retained stored io
  allowed := Allowed
  next := next

instance (d : Device) (e : Event) : Decidable (system.allowed d e) :=
  inferInstanceAs (Decidable (Allowed d e))

/-! ## The law on an unprovisioned tag -/

def Unprovisioned (d : Device) : Prop := d.locator.main.fmdn_provisioned = false

/-- The controller does not have the Vision set enabled. -/
def OffAir (d : Device) : Prop := onAir d.tag.advt = false

instance (d : Device) : Decidable (OffAir d) := inferInstanceAs (Decidable (_ = _))

instance (d : Device) : Decidable (Unprovisioned d) := inferInstanceAs (Decidable (_ = _))

/-- The start that the supervisor makes at the end of a window fails. -/
def StartFails (d : Device) : Event → Prop
  | .tag (.supervisor rc) _ _ =>
    insideWindow d.tag = false → d.tag.time.bool_IsTimeSynchronized = true →
      d.tag.time.Advtflag = true → d.tag.advt.adv_set ≠ none → rc ≠ 0
  | _ => True

/-- While the set is off air there is no Vision session. -/
structure Sound (d : Device) : Prop where
  tracks : Tracks d.tag.advt
  no_session : ¬ RunsVisionBranch d.tag
  identity : getVisionId d.tag.advt ≠ APP_BT_ID

theorem Sound.of_same {d u : Device} (h : Sound d) (hadvt : u.tag.advt = d.tag.advt)
    (hactive : u.tag.svc.active_local_id = d.tag.svc.active_local_id) : Sound u := by
  refine ⟨hadvt ▸ h.tracks, ?_, hadvt ▸ h.identity⟩
  unfold RunsVisionBranch
  rw [hactive, hadvt]
  exact h.no_session

theorem sound_launch {d : Device} (startRc : Int) (h : Sound d) :
    Sound (launchVision d startRc) := by
  have hid := vision_advt.start_Vision_id d.tag.advt startRc
  refine ⟨tracks_start d.tag.advt startRc h.tracks, ?_, ?_⟩
  · unfold RunsVisionBranch
    exact fun hv => h.no_session (hv.trans hid)
  · exact fun hv => h.identity (hid.symm.trans hv)

theorem idCreate_identity {a : Advt} {io : InitIo} (h : NextIdentity io)
    (ha : getVisionId a ≠ APP_BT_ID) :
    getVisionId (vision_advt.appVisionCustomIdCreate a io).1 ≠ APP_BT_ID := by
  obtain ⟨hcount, hcreate⟩ := h
  unfold vision_advt.appVisionCustomIdCreate
  split_ifs with hfull hfail
  · change (2 : Int) ≠ APP_BT_ID
    decide
  · exact ha
  · change io.idCreateRc.val ≠ APP_BT_ID
    omega

/-- The Vision set does not stand on the identity of Fast Pair. -/
theorem init_identity (prod : ProductionData) {io : InitIo} (h : NextIdentity io) :
    getVisionId (bleAdvCustomInit {} prod io).1 ≠ APP_BT_ID := by
  have hnone : (-1 : Int) ≠ APP_BT_ID := by decide
  unfold bleAdvCustomInit vision_advt.btLeExtAdvSetData
  simp only
  split_ifs
  · exact hnone
  all_goals exact idCreate_identity h hnone

theorem sound_tagBoot (board : Board) (nvs : Nvs) (retained : RetainedTimeBlock)
    {io : tag.BootIo} (h : NextIdentity io.adv) (l : Locator) :
    Sound { tag := tag.boot board nvs retained io, locator := l } := by
  have hfresh := tag.boot_fresh board nvs retained io
  obtain ⟨hstart, _⟩ := boot_off board nvs retained io
  refine ⟨hstart.1.trans hstart.2.symm, ?_, ?_⟩
  · have hid := hfresh.vision_id
    intro hv
    unfold RunsVisionBranch at hv
    rw [hfresh.svc] at hv
    change ((0xFF : Nat) : Int) = _ at hv
    have hmax : CONFIG_BT_ID_MAX = 3 := rfl
    simp only at hv hid
    omega
  · unfold tag.boot
    simp only
    split
    · change (-1 : Int) ≠ APP_BT_ID
      decide
    · split <;> exact init_identity _ h

/-- A boot leaves the set off air, unless it finds the tag provisioned. -/
theorem boot_spec (board : Board) (nvs : Nvs) (retained : RetainedTimeBlock) (stored : Stored)
    (io : BootIo) (h : NextIdentity io.tag.adv) :
    Sound (boot board nvs retained stored io) ∧
      (Unprovisioned (boot board nvs retained stored io) →
        OffAir (boot board nvs retained stored io)) := by
  have hoff : ∀ l, OffAir { tag := tag.boot board nvs retained io.tag, locator := l } :=
    fun _ => (boot_off board nvs retained io.tag).1.2
  have hsound := sound_tagBoot board nvs retained h
  unfold boot
  simp only
  split
  · split
    · unfold startIfProvisioned
      split
      · exact ⟨hsound _, fun _ => hoff _⟩
      · split
        · rename_i hprov
          refine ⟨sound_launch io.startRc (hsound _), fun hfree => ?_⟩
          change (locator.boot stored io.locator).main.fmdn_provisioned = false at hfree
          rw [hfree] at hprov
          contradiction
        · exact ⟨hsound _, fun _ => hoff _⟩
    · exact ⟨(hsound (locator.boot stored io.locator)).of_same rfl rfl, fun _ =>
        hoff (locator.boot stored io.locator)⟩
  · exact ⟨hsound _, fun _ => hoff _⟩

theorem sysReboot_spec (d : Device) (stored : Stored) (io : BootIo)
    (h : NextIdentity io.tag.adv) :
    Sound (sysReboot d stored io) ∧
      (Unprovisioned (sysReboot d stored io) → OffAir (sysReboot d stored io)) :=
  boot_spec _ _ _ _ io h

theorem provisioned_of_changed (l : Locator) (io : locator.ProvisioningIo) :
    (provisioningStateChanged l true io).main.fmdn_provisioned = true := by
  unfold provisioningStateChanged locator.fmdnProvisioningStateChanged locator.requestUi
    locator.request locator.fmdnFactoryResetCancel locator.fmdnProvisioningStateSet
  simp only
  split_ifs <;> simp_all

theorem provisioned_of_provisions (l : Locator) {e : locator.Event} (h : provisions e = true) :
    (locator.next l e).main.fmdn_provisioned = true := by
  cases e with
  | provisioningStateChanged provisioned io =>
    obtain rfl : provisioned = true := h
    exact provisioned_of_changed l io
  | _ => simp [provisions] at h

/-! ## Every step -/

section next

variable {d : Device} (bootIo : locator.BootIo) (tagIo : tag.BootIo) (startRc : Int)

theorem next_resets {e : tag.Event} {io : tag.BootIo} (h : resetBy d.tag e = some io) :
    next d (.tag e bootIo startRc) =
      sysReboot d d.locator.stored { tag := io, locator := bootIo, startRc := startRc } := by
  simp [next, h]

theorem next_tag {e : tag.Event} (h : resetBy d.tag e = none) :
    next d (.tag e bootIo startRc) = { d with tag := tag.next d.tag e } := by
  simp [next, h]

theorem next_restarts {e : locator.Event} {io : locator.BootIo}
    (h : restartOf d.locator e = some io) :
    next d (.locator e tagIo startRc) = sysReboot d (locator.next d.locator e).stored
      { tag := tagIo, locator := io, startRc := startRc } := by
  simp [next, h]

theorem next_locator {e : locator.Event} (h : restartOf d.locator e = none) :
    next d (.locator e tagIo startRc) =
      if provisions e then launchVision { d with locator := locator.next d.locator e } startRc
      else { d with locator := locator.next d.locator e } := by
  simp [next, h]

end next

/-- A link that comes up while the set is off air is no Vision session. -/
theorem sound_linkUp {d : Device} {c : Conn} {id : Fin CONFIG_BT_ID_MAX} {err : Nat}
    {infoRc : Int} (h : Sound d) (hoff : OffAir d)
    (hown : OwnCalls d.tag (.connected c id err infoRc)) :
    Sound { d with tag := linkUp d.tag c id err infoRc } := by
  have hdown : d.tag.advt.is_advertising = false := h.tracks.trans hoff
  have hadvt := linkUp_advt d.tag c id err infoRc
  have hid : getVisionId (linkUp d.tag c id err infoRc).advt = getVisionId d.tag.advt := by
    rw [hadvt]
    exact (vision_advt.next_onlySet _ _).vision_id
  refine ⟨?_, ?_, fun hv => h.identity (hid.symm.trans hv)⟩
  · simp only [hadvt]
    exact (vision_advt.tracks_connected d.tag.advt id err h.tracks).mpr (Or.inr hdown)
  · simp only [RunsVisionBranch, hid]
    rcases linkUp_active d.tag c id err infoRc with hsame | ⟨herr, hnew⟩
    · rw [hsame]
      exact h.no_session
    · rw [hnew]
      intro hv
      by_cases hfast : (id : Nat) = APP_BT_ID
      · rw [hfast] at hv
        exact h.identity hv.symm
      · have hair := hown herr hv hfast
        rw [hoff] at hair
        contradiction

theorem sound_supervisor {d : Device} (rc : Int) (h : Sound d) :
    Sound { d with tag := superviseTime d.tag rc } := by
  have hid := (vision_advt.run_onlySet d.tag.advt (supervisorCalls d.tag rc)).vision_id
  rw [← (superviseTime_advt d.tag rc).1] at hid
  refine ⟨?_, fun hv => h.no_session (Eq.trans hv hid), fun hv => h.identity (hid.symm.trans hv)⟩
  change Tracks (superviseTime d.tag rc).advt
  rcases supervisor_cases d.tag rc with ⟨_, _, _, hadvt⟩ | ⟨_, _, _, _, hadvt⟩ | ⟨_, _, _, hadvt⟩
  · rw [hadvt]
    exact tracks_stop d.tag.advt rc h.tracks
  · rw [hadvt]
    exact tracks_start d.tag.advt rc h.tracks
  · rw [hadvt]
    exact h.tracks

theorem tag_sound {d : Device} {e : tag.Event} (h : Sound d) (hoff : OffAir d)
    (hown : OwnCalls d.tag e) (hreset : resetBy d.tag e = none) :
    Sound { d with tag := tag.next d.tag e } := by
  induction e using set_cases d.tag with
  | reset e io hresets => simp [hresets] at hreset
  | quiet e _ _ hsame => exact h.of_same hsame.advt hsame.active_local_id
  | connected c id err infoRc => exact sound_linkUp h hoff hown
  | disconnected c io =>
    exact h.of_same (linkDown_other d.tag c io h.no_session).advt
      (linkDown_active c io h.no_session)
  | customStart rc => exact False.elim hown
  | customStop rc => exact False.elim hown
  | supervisor rc => exact sound_supervisor rc h

/-- The one event of the Vision side that puts the set on air is a start of the supervisor. -/
theorem tag_offAir {d : Device} {e : tag.Event} (bootIo : locator.BootIo) (startRc : Int)
    (h : Sound d) (hoff : OffAir d) (hown : OwnCalls d.tag e) (hreset : resetBy d.tag e = none) :
    OffAir { d with tag := tag.next d.tag e } ↔ StartFails d (.tag e bootIo startRc) := by
  induction e using set_cases d.tag with
  | reset e io hresets => simp [hresets] at hreset
  | quiet e hd _ hsame =>
    refine iff_of_true ?_ ?_
    · change onAir (tag.next d.tag e).advt = false
      rw [hsame.advt]
      exact hoff
    · cases e with
      | supervisor rc => exact absurd trivial hd
      | _ => trivial
  | connected c id err infoRc =>
    refine iff_of_true ?_ trivial
    change onAir (linkUp d.tag c id err infoRc).advt = false
    rw [linkUp_advt]
    exact off_connected id err hoff
  | disconnected c io =>
    refine iff_of_true ?_ trivial
    change onAir (linkDown d.tag c io).advt = false
    rw [(linkDown_other d.tag c io h.no_session).advt]
    exact hoff
  | customStart rc => exact False.elim hown
  | customStop rc => exact False.elim hown
  | supervisor rc =>
    change onAir (superviseTime d.tag rc).advt = false ↔ (_ → _ → _ → _ → _)
    rcases supervisor_cases d.tag rc with ⟨hin, _, _, hadvt⟩ | ⟨hout, hsync, hup, _, hadvt⟩ |
      ⟨_, hidle, _, hadvt⟩
    · rw [hadvt, ← Bool.not_eq_true, onAir_stop rc h.tracks, hoff]
      simp [hin]
    · rw [hadvt, ← Bool.not_eq_true, onAir_start rc h.tracks, hoff]
      simp [hout, hsync, hup]
    · rw [hadvt]
      refine iff_of_true hoff ?_
      intro hout hsync hup
      rw [hidle hout hsync] at hup
      contradiction

theorem sound_next {d : Device} {e : Event} (h : Sound d) (hoff : OffAir d) (ha : Allowed d e) :
    Sound (next d e) := by
  cases e with
  | tag e bootIo startRc =>
    obtain ⟨_, _, hown, hids⟩ := ha
    cases hreset : resetBy d.tag e with
    | some io =>
      rw [next_resets bootIo startRc hreset]
      exact (sysReboot_spec d _ { tag := io, locator := bootIo, startRc := startRc }
        (hids io hreset)).1
    | none =>
      rw [next_tag bootIo startRc hreset]
      exact tag_sound h hoff hown hreset
  | locator e bootIo startRc =>
    cases hrestart : restartOf d.locator e with
    | some io =>
      rw [next_restarts bootIo startRc hrestart]
      exact (sysReboot_spec d _ { tag := bootIo, locator := io, startRc := startRc } ha.2).1
    | none =>
      rw [next_locator bootIo startRc hrestart]
      split
      · exact sound_launch startRc (h.of_same rfl rfl)
      · exact h.of_same rfl rfl

theorem offAir_next {d : Device} {e : Event} (h : Sound d) (hoff : OffAir d) (ha : Allowed d e)
    (hfree : Unprovisioned (next d e)) : OffAir (next d e) ↔ StartFails d e := by
  cases e with
  | tag e bootIo startRc =>
    obtain ⟨_, _, hown, hids⟩ := ha
    cases hreset : resetBy d.tag e with
    | some io =>
      rw [next_resets bootIo startRc hreset] at hfree ⊢
      refine iff_of_true ((sysReboot_spec d _ { tag := io, locator := bootIo, startRc := startRc }
        (hids io hreset)).2 hfree) ?_
      cases e with
      | supervisor rc => simp [resetBy] at hreset
      | _ => trivial
    | none =>
      rw [next_tag bootIo startRc hreset]
      exact tag_offAir bootIo startRc h hoff hown hreset
  | locator e bootIo startRc =>
    refine iff_of_true ?_ trivial
    cases hrestart : restartOf d.locator e with
    | some io =>
      rw [next_restarts bootIo startRc hrestart] at hfree ⊢
      exact (sysReboot_spec d _ { tag := bootIo, locator := io, startRc := startRc } ha.2).2 hfree
    | none =>
      rw [next_locator bootIo startRc hrestart] at hfree ⊢
      split at hfree
      · -- A provisioning is reported, so the tag is provisioned.
        rename_i hprov
        change (locator.next d.locator e).main.fmdn_provisioned = false at hfree
        rw [provisioned_of_provisions d.locator hprov] at hfree
        contradiction
      · rename_i hprov
        rw [if_neg hprov]
        exact hoff

/-- In every run from a boot in which the tag stays unprovisioned, the Vision set is never on
air just when each start that the supervisor makes at the end of a window fails. -/
theorem an_unprovisioned_tag_is_silent_while_starts_fail (d : Device) (es : List Event)
    (h : system.Run d es) (hfree : system.States Unprovisioned d es) :
    system.States OffAir d es ↔ system.Steps StartFails d es := by
  obtain ⟨board, nvs, retained, stored, io, hids, rfl⟩ := h.1
  obtain ⟨hsound, hoff⟩ := boot_spec board nvs retained stored io hids
  have hA := (runs.System.steps_and _ es).mpr ⟨h.2, runs.System.steps_of_states hfree⟩
  exact runs.System.states_iff_steps (I := Sound)
    (fun d e hs hq ha => sound_next hs hq ha.1)
    (fun d e hs hq ha => offAir_next hs hq ha.1 ha.2.2)
    hsound (hoff (runs.System.states_first hfree)) hA

instance (d : Device) (e : Event) : Decidable (StartFails d e) := by
  cases e with
  | tag e bootIo startRc =>
    apply tag.Event.casesOn (motive := fun e => Decidable (StartFails d (.tag e bootIo startRc))) e
    all_goals
      intros
      unfold StartFails
      infer_instance
  | locator e bootIo startRc => exact inferInstanceAs (Decidable True)

/-- A tag that was never provisioned, a minute before its window. The time comes out of retained
RAM. -/
def eveningDevice : Device :=
  boot tag.factoryTag.board (fun _ => none)
    { u32_MagicMarker := TIME_MAGIC_VALIDATED, u32_LastSavedUtcEpoch := 1728059340,
      s64_LastSavedUptimeMs := 0 }
    { has_account_key := false, is_provisioned := false }
    { tag := tag.quietBoot, locator := locator.quietBoot, startRc := 0 }

theorem eveningDevice_starts : system.start eveningDevice :=
  ⟨_, _, _, _, _, by decide, rfl⟩

/-- A tick in the window, and one after it with the code of its start. -/
def overNight (startRc : Int) : List Event :=
  [.elapse (60 * 32768), .supervisor 0, .elapse (480 * 60 * 32768), .supervisor startRc].map
    fun e => .tag e locator.quietBoot 0

theorem a_start_that_fails_keeps_the_silence :
    system.States OffAir eveningDevice (overNight (-5)) :=
  (an_unprovisioned_tag_is_silent_while_starts_fail eveningDevice _
    ⟨eveningDevice_starts, by decide +kernel⟩ (by decide +kernel)).mpr (by decide +kernel)

/-- The window ends, and the supervisor starts a set that it never stopped. -/
theorem the_end_of_a_window_starts_an_unprovisioned_tag :
    ¬ ∀ (d : Device) (es : List Event), system.Run d es → system.States Unprovisioned d es →
      system.States OffAir d es := by
  intro h
  have hlast := runs.System.states_last (h eveningDevice (overNight 0)
    ⟨eveningDevice_starts, by decide +kernel⟩ (by decide +kernel))
  revert hlast
  decide +kernel

end smart_track.device
