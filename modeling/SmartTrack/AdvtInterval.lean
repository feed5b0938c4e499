-- The parameters of the Vision set against the configured interval. The interval is
-- stored by one file, applied at the end of a session by another, and the init of the
-- set knows neither; the law says which runs keep the three together.
import SmartTrack.AirTime
import SmartTrack.Provenance
import SmartTrack.Settings

open smart_track.zephyr smart_track.production smart_track.storage smart_track.tag
  smart_track.custom_services smart_track.air_time
open smart_track.vision_advt (Advt InitIo IntervalIo advTicks getVisionId run_onlySet
  bleAdvCustomInit)
open smart_track.time_manager (RetainedTimeBlock)
open smart_track.settings (boot_storage)
open smart_track.sessions (quietIo)
open smart_track.provenance (loginFrame intervalFrame quietRun)

namespace smart_track.advt_interval

/-! ## What the parameters should be -/

/-- The parameters of the creation, with the configured interval. -/
def configuredParam (t : Tag) : AdvParam :=
  let interval := t.storage.gst_ConfigData.mu16_AdvertismentInterval.toNat
  { id := getVisionId t.advt, sid := 2, secondary_max_skip := 0, options := [.conn, .useIdentity],
    interval_min := advTicks interval, interval_max := advTicks (interval + 10) }

def NoVisionClient (t : Tag) : Prop :=
  ∀ c id, t.host.link c = some id → (id : Int) ≠ getVisionId t.advt

/-- With no Vision client and no change to come, the set runs with these parameters. -/
def RunsConfigured (t : Tag) : Prop :=
  NoVisionClient t → t.svc.bool_AdvtIntervalUpdated = false →
    ∀ set, t.advt.adv_set = some set → set.param = configuredParam t

/-- The init gets as far as the set. -/
def MakesSet (io : InitIo) : Prop :=
  (io.enableRc = 0 ∨ io.enableRc = -EALREADY) ∧
    (CONFIG_BT_ID_MAX ≤ io.activeIdentities ∨ 0 ≤ io.idCreateRc.val) ∧ io.advCreateRc = 0

instance (io : InitIo) : Decidable (MakesSet io) := inferInstanceAs (Decidable (_ ∧ _ ∧ _))

/-- A boot that makes the set loads the two seconds that the init has built in. -/
def LoadsTwoSeconds (board : Board) (nvs : Nvs) (io : BootIo) : Prop :=
  let loaded := appStorageVerifyAndLoad (atReset nvs) board.ficr io.load
  loaded.2 = 0 → MakesSet io.adv → loaded.1.gst_ConfigData.mu16_AdvertismentInterval = 2000

instance (board : Board) (nvs : Nvs) (io : BootIo) : Decidable (LoadsTwoSeconds board nvs io) :=
  inferInstanceAs (Decidable (_ → _ → _))

/-- The controller takes a change of the interval. -/
def TakesChange (a : Advt) (io : IntervalIo) : Prop :=
  io.updateRc = 0 ∧ (a.is_advertising = true → io.stopRc = 0)

instance (a : Advt) (io : IntervalIo) : Decidable (TakesChange a io) :=
  inferInstanceAs (Decidable (_ ∧ _))

/-- A change that a session leaves behind asks for two seconds again, and is not taken. -/
def LeavesTwoSeconds (t : Tag) : Event → Prop
  | .disconnected _ io =>
    RunsVisionBranch t → t.svc.bool_AdvtIntervalUpdated = true → t.advt.adv_set ≠ none →
      t.storage.gst_ConfigData.mu16_AdvertismentInterval = 2000 ∧
        ¬ TakesChange t.advt io.interval
  | _ => True

/-- The interval stays the one of the init. -/
def KeepsTwoSeconds (t : Tag) (e : Event) : Prop :=
  match resetBy t e with
  | some io => LoadsTwoSeconds t.board t.storage.nvs io
  | none => LeavesTwoSeconds t e

instance (t : Tag) (e : Event) : Decidable (LeavesTwoSeconds t e) := by
  apply Event.casesOn (motive := fun e => Decidable (LeavesTwoSeconds t e)) e
  all_goals
    intros
    unfold LeavesTwoSeconds
    infer_instance

instance (t : Tag) (e : Event) : Decidable (KeepsTwoSeconds t e) := by
  unfold KeepsTwoSeconds
  cases resetBy t e <;> infer_instance

/-! ## The parameters and the calls -/

def paramOf (a : Advt) : Option AdvParam := a.adv_set.map (·.param)

/-- What the init gives to the controller. -/
def createdParam (a : Advt) : AdvParam :=
  { id := getVisionId a, sid := 2, secondary_max_skip := 0, options := [.conn, .useIdentity],
    interval_min := 3200, interval_max := 3216 }

theorem setEnabled_param (a : Advt) (on : Bool) :
    paramOf (vision_advt.setEnabled a on) = paramOf a := by
  unfold paramOf vision_advt.setEnabled
  cases a.adv_set <;> rfl

theorem start_param (a : Advt) (rc : Int) :
    paramOf (vision_advt.bleAdvCustomStart a rc).1 = paramOf a := by
  unfold vision_advt.bleAdvCustomStart vision_advt.btLeExtAdvStart
  split_ifs
  all_goals first
    | rfl
    | exact setEnabled_param a true

theorem stop_param (a : Advt) (rc : Int) :
    paramOf (vision_advt.bleAdvCustomStop a rc).1 = paramOf a := by
  unfold vision_advt.bleAdvCustomStop vision_advt.btLeExtAdvStop
  split_ifs
  all_goals first
    | rfl
    | exact setEnabled_param a false

theorem connected_param (a : Advt) (id err : Nat) :
    paramOf (vision_advt.next a (.connected id err)) = paramOf a := by
  simp only [vision_advt.next]
  split
  · exact setEnabled_param a false
  · rfl

/-- A change that the controller does not take leaves the parameters alone. -/
theorem updateInterval_param (a : Advt) (lo hi : Nat) {io : IntervalIo} (h : ¬ TakesChange a io) :
    paramOf (vision_advt.bleAdvCustomUpdateInterval a lo hi io).1 = paramOf a := by
  unfold TakesChange at h
  unfold vision_advt.bleAdvCustomUpdateInterval
  simp only
  split
  · rfl
  split
  · rename_i hon
    split
    · rfl
    rename_i hstop
    simp only [not_not] at hstop
    split
    · -- The rollback starts the set with the parameters that it had.
      unfold vision_advt.btLeExtAdvStop vision_advt.btLeExtAdvStart
      split_ifs
      · exact (setEnabled_param _ true).trans (setEnabled_param a false)
      · exact setEnabled_param a false
    · rename_i hup
      simp only [not_not] at hup
      exact absurd ⟨hup, fun _ => hstop⟩ h
  · rename_i hoff
    have hup : io.updateRc ≠ 0 := fun hup => h ⟨hup, fun hon => absurd hon hoff⟩
    simp [vision_advt.btLeExtAdvUpdateParam, hup]

/-- The set has the parameters of the init, or was never made. -/
theorem init_param (prod : ProductionData) (io : InitIo) :
    paramOf (bleAdvCustomInit {} prod io).1 =
      if MakesSet io then some (createdParam (bleAdvCustomInit {} prod io).1) else none := by
  unfold bleAdvCustomInit vision_advt.appVisionCustomIdCreate MakesSet
  by_cases henable : io.enableRc = 0 ∨ io.enableRc = -EALREADY
  · have hgo : ¬ (io.enableRc ≠ 0 ∧ io.enableRc ≠ -EALREADY) := by tauto
    simp only [if_neg hgo, henable, true_and]
    by_cases hids : CONFIG_BT_ID_MAX ≤ io.activeIdentities
    · by_cases hcreate : io.advCreateRc = 0
      · by_cases hdata : io.setDataRc = 0 <;>
          simp [hids, hcreate, hdata, vision_advt.btLeExtAdvSetData, paramOf, createdParam,
            getVisionId]
      · simp [hids, hcreate, paramOf]
    · by_cases hid : io.idCreateRc.val < 0
      · have hnew : ¬ (0 : Int) ≤ io.idCreateRc.val := by omega
        simp [hids, hid, hnew, hid.ne, paramOf]
      · have hnew : (0 : Int) ≤ io.idCreateRc.val := by omega
        by_cases hcreate : io.advCreateRc = 0
        · by_cases hdata : io.setDataRc = 0 <;>
            simp [hids, hid, hnew, hcreate, hdata, vision_advt.btLeExtAdvSetData, paramOf,
              createdParam, getVisionId]
        · simp [hids, hid, hcreate, paramOf]
  · have hstop : io.enableRc ≠ 0 ∧ io.enableRc ≠ -EALREADY := by tauto
    simp [hstop, paramOf]

/-! ## What every step keeps -/

/-- The set has the parameters of its creation, and the interval is the one that these stand
for, or is about to change. -/
structure AsCreated (t : Tag) : Prop where
  param : ∀ p, paramOf t.advt = some p → p = createdParam t.advt
  interval : paramOf t.advt ≠ none → t.svc.bool_AdvtIntervalUpdated = false →
    t.storage.gst_ConfigData.mu16_AdvertismentInterval = 2000

theorem AsCreated.runsConfigured {t : Tag} (h : AsCreated t) : RunsConfigured t := by
  intro _ hmark set hset
  have hparam : paramOf t.advt = some set.param := by simp [paramOf, hset]
  have hinterval := h.interval (by simp [hparam]) hmark
  rw [h.param _ hparam]
  simp only [createdParam, configuredParam, hinterval]
  rfl

/-- A step that keeps the parameters, and the interval unless it leaves its mark. -/
theorem AsCreated.of_same {t u : Tag} (h : AsCreated t) (hparam : paramOf u.advt = paramOf t.advt)
    (hid : getVisionId u.advt = getVisionId t.advt)
    (hinterval : u.svc.bool_AdvtIntervalUpdated = true ∨
      u.svc.bool_AdvtIntervalUpdated = t.svc.bool_AdvtIntervalUpdated ∧
        u.storage.gst_ConfigData.mu16_AdvertismentInterval =
          t.storage.gst_ConfigData.mu16_AdvertismentInterval) : AsCreated u := by
  constructor
  · intro p hp
    rw [hparam] at hp
    simp only [h.param p hp, createdParam, hid]
  · intro hmade hmark
    rcases hinterval with hup | ⟨hsame, hms⟩
    · rw [hup] at hmark
      contradiction
    · rw [hms]
      exact h.interval (hparam ▸ hmade) (hsame ▸ hmark)

theorem asCreated_boot {board : Board} {nvs : Nvs} {io : BootIo} (retained : RetainedTimeBlock)
    (h : LoadsTwoSeconds board nvs io) : AsCreated (boot board nvs retained io) := by
  have hadvt : paramOf (boot board nvs retained io).advt = none ∨
      (appStorageVerifyAndLoad (atReset nvs) board.ficr io.load).2 = 0 ∧ MakesSet io.adv ∧
        paramOf (boot board nvs retained io).advt =
          some (createdParam (boot board nvs retained io).advt) := by
    have hinit := init_param
      (appStorageVerifyAndLoad (atReset nvs) board.ficr io.load).1.gst_ProductionData io.adv
    unfold boot
    simp only
    split
    · exact Or.inl rfl
    · rename_i hload
      simp only [not_not] at hload
      by_cases hmakes : MakesSet io.adv
      · rw [if_pos hmakes] at hinit
        right
        refine ⟨hload, hmakes, ?_⟩
        split <;> exact hinit
      · rw [if_neg hmakes] at hinit
        left
        split <;> exact hinit
  rcases hadvt with hnone | ⟨hload, hmakes, hsome⟩
  · exact ⟨by simp [hnone], fun hmade => absurd hnone hmade⟩
  · constructor
    · intro p hp
      rw [hsome] at hp
      exact (Option.some.inj hp).symm
    · intro _ _
      rw [boot_storage]
      exact h hload hmakes

theorem superviseTime_param (t : Tag) (rc : Int) :
    paramOf (superviseTime t rc).advt = paramOf t.advt := by
  rcases supervisor_cases t rc with ⟨_, _, _, hadvt⟩ | ⟨_, _, _, _, hadvt⟩ | ⟨_, _, _, hadvt⟩
  · rw [hadvt]
    exact stop_param t.advt rc
  · rw [hadvt]
    exact start_param t.advt rc
  · rw [hadvt]

/-- The end of a Vision session keeps the parameters, unless the controller takes a change. -/
theorem sessionEnd_param {t : Tag} {io : DisconnectIo}
    (h : t.svc.bool_AdvtIntervalUpdated = true → ¬ TakesChange t.advt io.interval) :
    paramOf (vision_advt.system.run t.advt (sessionEndCalls t io)) = paramOf t.advt := by
  unfold sessionEndCalls
  simp only
  split
  · rename_i hmark
    exact (start_param _ io.startRc).trans (updateInterval_param t.advt _ _ (h hmark))
  · exact start_param t.advt io.startRc

theorem asCreated_sessionEnd {t : Tag} {c : Conn} {io : DisconnectIo} (h : AsCreated t)
    (hv : RunsVisionBranch t)
    (hc : t.svc.bool_AdvtIntervalUpdated = true → t.advt.adv_set ≠ none →
      t.storage.gst_ConfigData.mu16_AdvertismentInterval = 2000 ∧
        ¬ TakesChange t.advt io.interval) : AsCreated (linkDown t c io) := by
  obtain ⟨hadvt, _, hstorage, _⟩ := linkDown_vision t c io hv
  by_cases hmade : t.advt.adv_set = none
  · have hnone : paramOf (linkDown t c io).advt = none := by
      rw [hadvt, paramOf, (run_onlySet _ _).unmade.mpr hmade]
      rfl
    exact ⟨by simp [hnone], fun hset => absurd hnone hset⟩
  · have hparam : paramOf (linkDown t c io).advt = paramOf t.advt := by
      rw [hadvt]
      exact sessionEnd_param fun hmark => (hc hmark hmade).2
    constructor
    · intro p hp
      rw [hparam] at hp
      simp only [h.param p hp, createdParam, hadvt,
        (run_onlySet t.advt _).vision_id]
    · intro hset _
      rw [hstorage]
      by_cases hmark : t.svc.bool_AdvtIntervalUpdated = true
      · exact (hc hmark hmade).1
      · exact h.interval (hparam ▸ hset) (by simpa using hmark)

theorem asCreated_next {t : Tag} {e : Event} (h : AsCreated t) (hc : KeepsTwoSeconds t e) :
    AsCreated (next t e) := by
  unfold KeepsTwoSeconds at hc
  induction e using set_cases t with
  | reset e io hreset =>
    rw [hreset] at hc
    rw [resetBy_next hreset]
    exact asCreated_boot _ hc
  | quiet e _ _ hsame =>
    refine h.of_same ?_ ?_ hsame.interval
    · rw [hsame.advt]
    · rw [hsame.advt]
  | connected c id err infoRc =>
    obtain ⟨_, hstorage, hmark⟩ := linkUp_frame t c id err infoRc
    refine h.of_same ?_ (next_Vision_id rfl) (Or.inr ⟨hmark, by rw [next, hstorage]⟩)
    rw [next, linkUp_advt]
    exact connected_param t.advt id err
  | disconnected c io =>
    by_cases hv : RunsVisionBranch t
    · exact asCreated_sessionEnd h hv (hc hv)
    · have hsame := linkDown_other t c io hv
      refine h.of_same ?_ (next_Vision_id rfl) (Or.inr ⟨hsame.mark, by rw [next, hsame.storage]⟩)
      rw [next, hsame.advt]
  | customStart rc =>
    exact h.of_same (start_param t.advt rc) (next_Vision_id rfl) (Or.inr ⟨rfl, rfl⟩)
  | customStop rc =>
    exact h.of_same (stop_param t.advt rc) (next_Vision_id rfl) (Or.inr ⟨rfl, rfl⟩)
  | supervisor rc =>
    exact h.of_same (superviseTime_param t rc) (next_Vision_id rfl) (Or.inr ⟨rfl, rfl⟩)

/-! ## The law -/

/-- In every run from a boot the set has the configured parameters, if every boot loads two
seconds and a change of the interval asks for them too and is not taken. -/
theorem the_set_runs_as_configured_at_two_seconds (board : Board) (nvs : Nvs)
    (retained : RetainedTimeBlock) (io : BootIo) (es : List Event)
    (hboot : LoadsTwoSeconds board nvs io)
    (hc : system.Steps KeepsTwoSeconds (boot board nvs retained io) es) :
    system.States RunsConfigured (boot board nvs retained io) es :=
  runs.System.states_of_invariant (I := AsCreated) (fun _ _ hi hk => asCreated_next hi hk)
    (fun _ hi => hi.runsConfigured) (asCreated_boot retained hboot) hc

/-- A client asks for the two seconds that the set has, and the controller refuses the change. -/
def refusedChange : List Event :=
  [.customStart 0, .connected 0 2 0 0, .write 0 loginFrame 0, .parseAndReply quietRun,
    .write 0 [8, 0xD0, 0x07] 0, .parseAndReply quietRun,
    .disconnected 0 { quietIo with interval := { quietIo.interval with updateRc := -5 } },
    .supervisor 0]

theorem a_refused_change_keeps_the_parameters :
    system.States RunsConfigured factoryTag refusedChange :=
  the_set_runs_as_configured_at_two_seconds _ _ _ _ _ (by decide +kernel) (by decide +kernel)

def changeOfInterval : List Event :=
  [.customStart 0, .connected 0 2 0 0, .write 0 loginFrame 0, .parseAndReply quietRun,
    .write 0 intervalFrame 0, .parseAndReply quietRun, .disconnected 0 quietIo]

/-- A client sets the interval to a second and goes: the set gets the interval, and another
advertising SID. -/
theorem a_new_interval_changes_the_sid :
    ¬ ∀ (t : Tag) (es : List Event), system.Run t es → system.States RunsConfigured t es := by
  intro h
  have hlast := runs.System.states_last (h factoryTag changeOfInterval
    ⟨factoryTag_starts, by decide +kernel⟩)
  have hclient : NoVisionClient (system.run factoryTag changeOfInterval) := by
    intro c id hlink
    have hnone : ∀ c, (system.run factoryTag changeOfInterval).host.link c = none := by
      decide +kernel
    rw [hnone c] at hlink
    contradiction
  obtain ⟨set, hset⟩ := Option.ne_none_iff_exists'.mp (show
    (system.run factoryTag changeOfInterval).advt.adv_set ≠ none by decide +kernel)
  have hsid : (paramOf (system.run factoryTag changeOfInterval).advt).map (·.sid) = some 1 := by
    decide +kernel
  have hparam := hlast hclient (by decide +kernel) set hset
  simp [paramOf, hset, hparam, configuredParam] at hsid

end smart_track.advt_interval
