-- The Vision advertising set (`vision_advt.c`). The file keeps its own record of
-- whether the set is on air, and the law here says when that record agrees with
-- the controller.
import SmartTrack.Records
import SmartTrack.Runs
import SmartTrack.Zephyr

open bytes smart_track.zephyr smart_track.production

namespace smart_track.vision_advt

/-! ## The state of the file, and the set in the controller -/

structure ServicePayload where
  Bitfield1 : UInt8 := 0
  BatPercentage : UInt8 := 0
  Bitfield2 : UInt8 := 0
  Bitfield3 : UInt8 := 0
  FWVer : UInt8 := 0
  Temp : UInt8 := 0
  LightCnt : UInt8 := 0
  deriving DecidableEq

structure BleServiceData where
  service_uuid : UInt16 := 0
  data : ServicePayload := {}
  deriving DecidableEq

structure BleMfgData where
  company_id : UInt16 := 0
  payload : Bytes BLE_GAP_ADDR_LEN := fun _ => 0
  deriving DecidableEq

/-- What `ad` and `sd` point to: the two data blocks and the name. -/
structure Payload where
  svc : BleServiceData
  mfg : BleMfgData
  name : List UInt8
  deriving DecidableEq

/-- The advertising set as the controller holds it. -/
structure AdvSet where
  param : AdvParam
  data : Option Payload := none
  enabled : Bool := false
  deriving DecidableEq

/-- The static variables of the file. `adv_set` is the handle of the set, and stands for
the set in the controller as well. -/
structure Advt where
  active_svc_data : BleServiceData := {}
  active_mfg_data : BleMfgData := {}
  device_name : List UInt8 := []
  Vision_id : Int := -1
  is_advertising : Bool := false
  adv_set : Option AdvSet := none
  deriving DecidableEq

/-- The controller has the Vision set enabled. -/
def onAir (a : Advt) : Bool :=
  match a.adv_set with
  | none => false
  | some set => set.enabled

def getVisionId (a : Advt) : Int := a.Vision_id

def payload (a : Advt) : Payload := ⟨a.active_svc_data, a.active_mfg_data, a.device_name⟩

/-! ## The controller calls

Each takes the code that the controller gives. A call that fails changes nothing. -/

def setEnabled (a : Advt) (on : Bool) : Advt :=
  { a with adv_set := a.adv_set.map fun set => { set with enabled := on } }

def btLeExtAdvStart (a : Advt) (rc : Int) : Advt := if rc = 0 then setEnabled a true else a

def btLeExtAdvStop (a : Advt) (rc : Int) : Advt := if rc = 0 then setEnabled a false else a

def btLeExtAdvUpdateParam (a : Advt) (param : AdvParam) (rc : Int) : Advt :=
  if rc = 0 then { a with adv_set := a.adv_set.map fun set => { set with param } } else a

def btLeExtAdvSetData (a : Advt) (rc : Int) : Advt :=
  if rc = 0 then
    { a with adv_set := a.adv_set.map fun set => { set with data := some (payload a) } }
  else a

/-- A link accepted on the set takes the set off air. -/
def linkAccepted (a : Advt) : Advt := setEnabled a false

@[simp] theorem setEnabled_is_advertising (a : Advt) (on : Bool) :
    (setEnabled a on).is_advertising = a.is_advertising := rfl

@[simp] theorem setEnabled_Vision_id (a : Advt) (on : Bool) :
    (setEnabled a on).Vision_id = a.Vision_id := rfl

/-! ## The functions of the file -/

def APP_VERSION_MAJOR : UInt8 := 1
def APP_VERSION_MINOR : UInt8 := 0
def COMPANY_ID : UInt16 := 0x0F2C

/-- The codes that the host gives while the set is made. `bt_id_create` gives a code, or an
identity of the host. -/
structure InitIo where
  enableRc : Int
  activeIdentities : Nat
  idCreateRc : { rc : Int // rc < CONFIG_BT_ID_MAX }
  advCreateRc : Int
  setDataRc : Int

/-- The name up to its first zero, as `snprintf` and `strlen` see it. -/
def nameOf (serial : Bytes SR_NUM_SIZE) : List UInt8 := (listOf serial).takeWhile (· ≠ 0)

def appVisionCustomIdCreate (a : Advt) (io : InitIo) : Advt × Int :=
  if CONFIG_BT_ID_MAX ≤ io.activeIdentities then
    ({ a with Vision_id := 2 }, 0)
  else if io.idCreateRc.val < 0 then
    (a, io.idCreateRc)
  else
    ({ a with Vision_id := io.idCreateRc }, 0)

def bleAdvCustomInit (a : Advt) (prod : ProductionData) (io : InitIo) : Advt × Int :=
  let a :=
    { a with
      active_svc_data :=
        { service_uuid := 0x9E83
          data :=
            { FWVer := ((APP_VERSION_MAJOR &&& 0x0F) <<< 4) ||| (APP_VERSION_MINOR &&& 0x0F) } }
      active_mfg_data := { company_id := COMPANY_ID, payload := prod.mu8ar_MACAddr }
      device_name := nameOf prod.mu8_SerialNumber }
  if io.enableRc ≠ 0 ∧ io.enableRc ≠ -EALREADY then
    (a, io.enableRc)
  else
    let (a, rc) := appVisionCustomIdCreate a io
    if rc ≠ 0 then
      (a, rc)
    else if io.advCreateRc ≠ 0 then
      (a, io.advCreateRc)
    else
      let param : AdvParam :=
        { id := a.Vision_id, sid := 2, secondary_max_skip := 0,
          options := [.conn, .useIdentity], interval_min := 3200, interval_max := 3216 }
      let a := { a with adv_set := some { param } }
      (btLeExtAdvSetData a io.setDataRc, io.setDataRc)

def bleAdvCustomStart (a : Advt) (startRc : Int) : Advt × Int :=
  if a.is_advertising then
    (a, 0)
  else if a.adv_set = none then
    (a, -EINVAL)
  else if startRc ≠ 0 then
    (a, startRc)
  else
    ({ btLeExtAdvStart a startRc with is_advertising := true }, 0)

def bleAdvCustomStop (a : Advt) (stopRc : Int) : Advt × Int :=
  if a.is_advertising = false ∨ a.adv_set = none then
    (a, 0)
  else if stopRc = 0 then
    ({ btLeExtAdvStop a stopRc with is_advertising := false }, 0)
  else
    (a, stopRc)

/-- Milliseconds to ticks of 0.625 ms, cut to 16 bits. -/
def advTicks (ms : Nat) : Nat := ms * 8 / 5 % 2 ^ 16

/-- The codes that the controller gives to one change of the interval. -/
structure IntervalIo where
  stopRc : Int
  updateRc : Int
  startRc : Int
  deriving DecidableEq

def bleAdvCustomUpdateInterval (a : Advt) (min_interval_ms max_interval_ms : Nat)
    (io : IntervalIo) : Advt × Int :=
  let dynamic_param : AdvParam :=
    { id := a.Vision_id, sid := 1, secondary_max_skip := 0, options := [.conn, .useIdentity],
      interval_min := advTicks min_interval_ms, interval_max := advTicks max_interval_ms }
  if a.adv_set = none then
    (a, -EINVAL)
  else if a.is_advertising then
    if io.stopRc ≠ 0 then
      (a, io.stopRc)
    else
      let a := { btLeExtAdvStop a io.stopRc with is_advertising := false }
      if io.updateRc ≠ 0 then
        -- The rollback looks at no code: the flag goes up whether the set is on air or not.
        ({ btLeExtAdvStart a io.startRc with is_advertising := true }, io.updateRc)
      else
        let a := btLeExtAdvUpdateParam a dynamic_param io.updateRc
        if io.startRc ≠ 0 then
          (a, io.startRc)
        else
          ({ btLeExtAdvStart a io.startRc with is_advertising := true }, 0)
  else
    (btLeExtAdvUpdateParam a dynamic_param io.updateRc, io.updateRc)

/-- The `connected` callback of the file. It fires for every link of every identity, and
also for a link that failed. -/
def connected (a : Advt) : Advt := { a with is_advertising := false }

/-! ## The identity of the set

Only the init writes it. -/

/-- Only the flag and the set itself differ, and a set that is made stays made. -/
def OnlySet (a b : Advt) : Prop :=
  ∃ up change, b = { a with is_advertising := up, adv_set := a.adv_set.map change }

theorem OnlySet.refl (a : Advt) : OnlySet a a := ⟨a.is_advertising, id, by simp⟩

theorem OnlySet.trans {a b c : Advt} (h : OnlySet a b) (k : OnlySet b c) : OnlySet a c := by
  obtain ⟨up, change, rfl⟩ := h
  obtain ⟨up', change', rfl⟩ := k
  exact ⟨up', change' ∘ change, by simp⟩

theorem onlySet_flag (a : Advt) (up : Bool) : OnlySet a { a with is_advertising := up } :=
  ⟨up, id, by simp⟩

theorem onlySet_start (a : Advt) (rc : Int) : OnlySet a (btLeExtAdvStart a rc) := by
  unfold btLeExtAdvStart
  split
  · exact ⟨_, _, rfl⟩
  · exact .refl a

theorem onlySet_stop (a : Advt) (rc : Int) : OnlySet a (btLeExtAdvStop a rc) := by
  unfold btLeExtAdvStop
  split
  · exact ⟨_, _, rfl⟩
  · exact .refl a

theorem onlySet_updateParam (a : Advt) (param : AdvParam) (rc : Int) :
    OnlySet a (btLeExtAdvUpdateParam a param rc) := by
  unfold btLeExtAdvUpdateParam
  split
  · exact ⟨_, _, rfl⟩
  · exact .refl a

theorem start_onlySet (a : Advt) (rc : Int) : OnlySet a (bleAdvCustomStart a rc).1 := by
  unfold bleAdvCustomStart
  split
  · exact .refl a
  split
  · exact .refl a
  split
  · exact .refl a
  · exact (onlySet_start a rc).trans (onlySet_flag _ true)

theorem stop_onlySet (a : Advt) (rc : Int) : OnlySet a (bleAdvCustomStop a rc).1 := by
  unfold bleAdvCustomStop
  split
  · exact .refl a
  split
  · exact (onlySet_stop a rc).trans (onlySet_flag _ false)
  · exact .refl a

theorem updateInterval_onlySet (a : Advt) (lo hi : Nat) (io : IntervalIo) :
    OnlySet a (bleAdvCustomUpdateInterval a lo hi io).1 := by
  have hdown := (onlySet_stop a io.stopRc).trans (onlySet_flag _ false)
  unfold bleAdvCustomUpdateInterval
  simp only
  split
  · exact .refl a
  split
  · split
    · exact .refl a
    split
    · exact (hdown.trans (onlySet_start _ io.startRc)).trans (onlySet_flag _ true)
    have hup := hdown.trans (onlySet_updateParam _
      { id := a.Vision_id, sid := 1, secondary_max_skip := 0, options := [.conn, .useIdentity],
        interval_min := advTicks lo, interval_max := advTicks hi } io.updateRc)
    split
    · exact hup
    · exact (hup.trans (onlySet_start _ io.startRc)).trans (onlySet_flag _ true)
  · exact onlySet_updateParam a _ io.updateRc

theorem OnlySet.vision_id {a b : Advt} (h : OnlySet a b) : getVisionId b = getVisionId a := by
  obtain ⟨up, change, rfl⟩ := h
  rfl

theorem OnlySet.unmade {a b : Advt} (h : OnlySet a b) : b.adv_set = none ↔ a.adv_set = none := by
  obtain ⟨up, change, rfl⟩ := h
  simp

theorem start_Vision_id (a : Advt) (rc : Int) :
    getVisionId (bleAdvCustomStart a rc).1 = getVisionId a :=
  (start_onlySet a rc).vision_id

theorem stop_Vision_id (a : Advt) (rc : Int) :
    getVisionId (bleAdvCustomStop a rc).1 = getVisionId a :=
  (stop_onlySet a rc).vision_id

theorem updateInterval_Vision_id (a : Advt) (lo hi : Nat) (io : IntervalIo) :
    getVisionId (bleAdvCustomUpdateInterval a lo hi io).1 = getVisionId a :=
  (updateInterval_onlySet a lo hi io).vision_id

theorem idCreate_Vision_id (a : Advt) (io : InitIo) (h : getVisionId a < CONFIG_BT_ID_MAX) :
    getVisionId (appVisionCustomIdCreate a io).1 < CONFIG_BT_ID_MAX := by
  have htwo : (2 : Int) < CONFIG_BT_ID_MAX := by decide
  unfold appVisionCustomIdCreate
  split_ifs
  · exact htwo
  · exact h
  · exact io.idCreateRc.property

/-- The set stands on an identity of the host, or on none. -/
theorem init_Vision_id (prod : ProductionData) (io : InitIo) :
    getVisionId (bleAdvCustomInit {} prod io).1 < CONFIG_BT_ID_MAX := by
  have hnone : (-1 : Int) < CONFIG_BT_ID_MAX := by decide
  unfold bleAdvCustomInit btLeExtAdvSetData
  simp only
  split_ifs
  · exact hnone
  all_goals exact idCreate_Vision_id _ io hnone

/-! ## The runs of the file -/

inductive Event
  | start (startRc : Int)
  | stop (stopRc : Int)
  | updateInterval (min_interval_ms max_interval_ms : Nat) (io : IntervalIo)
  | connected (id : Nat) (err : Nat)
  deriving DecidableEq

/-- A link that came up on the identity of the Vision set. -/
def onVisionSet (a : Advt) (id err : Nat) : Prop := err = 0 ∧ (id : Int) = getVisionId a

instance (a : Advt) (id err : Nat) : Decidable (onVisionSet a id err) :=
  inferInstanceAs (Decidable (_ ∧ _))

def next (a : Advt) : Event → Advt
  | .start rc => (bleAdvCustomStart a rc).1
  | .stop rc => (bleAdvCustomStop a rc).1
  | .updateInterval lo hi io => (bleAdvCustomUpdateInterval a lo hi io).1
  | .connected id err => connected (if onVisionSet a id err then linkAccepted a else a)

/-- The calls of the file, from a set that is off air, or not made yet. -/
def system : runs.System Advt Event where
  start a := a.is_advertising = false ∧ onAir a = false
  allowed _ _ := True
  next := next

theorem next_onlySet (a : Advt) (e : Event) : OnlySet a (next a e) := by
  cases e with
  | start rc => exact start_onlySet a rc
  | stop rc => exact stop_onlySet a rc
  | updateInterval lo hi io => exact updateInterval_onlySet a lo hi io
  | connected id err =>
    simp only [next]
    split
    · exact ⟨_, _, rfl⟩
    · exact onlySet_flag a false

theorem run_onlySet (a : Advt) (es : List Event) : OnlySet a (system.run a es) := by
  induction es generalizing a with
  | nil => exact .refl a
  | cons e es ih => exact (next_onlySet a e).trans (ih (next a e))

/-! ## The flag and the controller -/

/-- The flag says what the controller does. -/
def Tracks (a : Advt) : Prop := a.is_advertising = onAir a

instance (a : Advt) : Decidable (Tracks a) := inferInstanceAs (Decidable (_ = _))

/-- The two kinds of event that part the flag from the controller are ruled out: a callback
that is no link of the Vision set, while the flag is up, and a rollback whose restart
fails. -/
def FlagSafe (a : Advt) : Event → Prop
  | .connected id err => onVisionSet a id err ∨ a.is_advertising = false
  | .updateInterval _ _ io =>
    a.is_advertising = true → io.stopRc = 0 → io.updateRc ≠ 0 → io.startRc = 0
  | _ => True

theorem onAir_setEnabled (a : Advt) (on : Bool) (h : a.adv_set ≠ none) :
    onAir (setEnabled a on) = on := by
  unfold onAir setEnabled
  cases hs : a.adv_set with
  | none => exact absurd hs h
  | some set => rfl

theorem onAir_linkAccepted (a : Advt) : onAir (linkAccepted a) = false := by
  unfold onAir linkAccepted setEnabled
  cases a.adv_set <;> rfl

theorem tracks_start (a : Advt) (rc : Int) (h : Tracks a) : Tracks (bleAdvCustomStart a rc).1 := by
  unfold bleAdvCustomStart
  split
  · exact h
  split
  · exact h
  rename_i hset
  split
  · exact h
  · rename_i hrc
    simp only [not_not] at hrc
    simp only [Tracks, btLeExtAdvStart, hrc, if_true]
    exact (onAir_setEnabled a true hset).symm

theorem tracks_stop (a : Advt) (rc : Int) (h : Tracks a) : Tracks (bleAdvCustomStop a rc).1 := by
  unfold bleAdvCustomStop
  split
  · exact h
  rename_i hset
  obtain ⟨_, hset⟩ := not_or.mp hset
  split
  · rename_i hrc
    simp only [Tracks, btLeExtAdvStop, hrc, if_true]
    exact (onAir_setEnabled a false hset).symm
  · exact h

theorem onAir_updateParam (a : Advt) (param : AdvParam) (rc : Int) :
    onAir (btLeExtAdvUpdateParam a param rc) = onAir a := by
  unfold btLeExtAdvUpdateParam
  split
  · simp only [onAir]
    cases a.adv_set <;> rfl
  · rfl

theorem updateParam_is_advertising (a : Advt) (param : AdvParam) (rc : Int) :
    (btLeExtAdvUpdateParam a param rc).is_advertising = a.is_advertising := by
  unfold btLeExtAdvUpdateParam
  split <;> rfl

theorem set_updateParam (a : Advt) (param : AdvParam) (rc : Int) (h : a.adv_set ≠ none) :
    (btLeExtAdvUpdateParam a param rc).adv_set ≠ none := by
  unfold btLeExtAdvUpdateParam
  split
  · simpa using h
  · exact h

/-- The end of a change of the interval: a set that was taken off air is started again, and
the flag follows `up`. -/
theorem tracks_restart (a : Advt) (rc : Int) (up : Bool) (hset : a.adv_set ≠ none)
    (hoff : onAir a = false) :
    Tracks { btLeExtAdvStart a rc with is_advertising := up } ↔ (up = true ↔ rc = 0) := by
  have hair : onAir (btLeExtAdvStart a rc) = decide (rc = 0) := by
    unfold btLeExtAdvStart
    split
    · rename_i hrc
      rw [onAir_setEnabled a true hset, hrc]
      rfl
    · rename_i hrc
      rw [hoff]
      simp [hrc]
  change up = onAir (btLeExtAdvStart a rc) ↔ _
  rw [hair]
  cases up <;> simp

/-- A change of the interval keeps the flag true to the controller, unless the rollback
cannot start the set again. -/
theorem tracks_updateInterval (a : Advt) (lo hi : Nat) (io : IntervalIo) (h : Tracks a) :
    Tracks (bleAdvCustomUpdateInterval a lo hi io).1 ↔
      FlagSafe a (.updateInterval lo hi io) := by
  simp only [FlagSafe, bleAdvCustomUpdateInterval]
  by_cases hset : a.adv_set = none
  · have hoff : a.is_advertising = false := by rw [h]; simp [onAir, hset]
    simp [hset, hoff, h]
  simp only [hset, if_false]
  by_cases hon : a.is_advertising = true
  · simp only [hon, if_true, true_implies]
    by_cases hstop : io.stopRc = 0
    · simp only [hstop, ne_eq, not_true_eq_false, if_false, true_implies, btLeExtAdvStop, if_true]
      have hset' : (setEnabled a false).adv_set ≠ none := by simp [setEnabled, hset]
      have hoff := onAir_setEnabled a false hset
      by_cases hup : io.updateRc = 0
      · -- The parameters are taken: the flag follows the code of the restart.
        simp only [hup, not_true_eq_false, if_false, false_implies, iff_true]
        by_cases hstart : io.startRc = 0
        · simp only [hstart, not_true_eq_false, if_false]
          rw [tracks_restart]
          · simp
          · exact set_updateParam _ _ _ hset'
          · rw [onAir_updateParam]; exact hoff
        · simp only [hstart, not_false_eq_true, if_true]
          unfold Tracks
          rw [onAir_updateParam]
          exact hoff.symm
      · -- The rollback puts the flag up, so the restart has to succeed.
        simp only [hup, not_false_eq_true, if_true, true_implies]
        rw [tracks_restart]
        · simp
        · exact hset'
        · exact hoff
    · simp [hstop, h]
  · simp only [Bool.not_eq_true] at hon
    simp only [hon, Bool.false_eq_true, if_false, false_implies, iff_true]
    unfold Tracks
    rw [onAir_updateParam, updateParam_is_advertising]
    exact h

theorem tracks_connected (a : Advt) (id err : Nat) (h : Tracks a) :
    Tracks (next a (.connected id err)) ↔ FlagSafe a (.connected id err) := by
  simp only [next, FlagSafe]
  split
  · rename_i hv
    simp only [hv, true_or, iff_true]
    exact (onAir_linkAccepted a).symm
  · rename_i hv
    simp only [hv, false_or]
    change false = onAir a ↔ _
    rw [← h]
    exact eq_comm

theorem tracks_next (a : Advt) (e : Event) (h : Tracks a) : Tracks (next a e) ↔ FlagSafe a e := by
  cases e with
  | start rc => exact iff_of_true (tracks_start a rc h) trivial
  | stop rc => exact iff_of_true (tracks_stop a rc h) trivial
  | updateInterval lo hi io => exact tracks_updateInterval a lo hi io h
  | connected id err => exact tracks_connected a id err h

/-! ## What each call does to a set that the flag tracks -/

theorem onAir_start {a : Advt} (rc : Int) (h : Tracks a) :
    onAir (bleAdvCustomStart a rc).1 = true ↔ onAir a = true ∨ a.adv_set ≠ none ∧ rc = 0 := by
  unfold bleAdvCustomStart btLeExtAdvStart
  by_cases hon : a.is_advertising = true
  · have hair : onAir a = true := h.symm.trans hon
    simp [hon, hair]
  · have hair : onAir a = false := by
      rw [← h]
      simpa using hon
    by_cases hset : a.adv_set = none
    · simp [hon, hset, hair]
    · by_cases hrc : rc = 0
      · simp only [hon, hset, hrc, if_false, if_true, not_true_eq_false, ne_eq, and_self, or_true,
          iff_true, not_false_eq_true, Bool.false_eq_true]
        exact onAir_setEnabled a true hset
      · simp [hon, hset, hrc, hair]

theorem onAir_stop {a : Advt} (rc : Int) (h : Tracks a) :
    onAir (bleAdvCustomStop a rc).1 = true ↔ onAir a = true ∧ rc ≠ 0 := by
  unfold bleAdvCustomStop btLeExtAdvStop
  by_cases hset : a.adv_set = none
  · simp [hset, onAir]
  · by_cases hon : a.is_advertising = true
    · have hair : onAir a = true := h.symm.trans hon
      by_cases hrc : rc = 0
      · simp only [hon, hset, hrc, or_self, if_false, if_true, Bool.true_eq_false, ne_eq,
          not_true_eq_false, and_false, iff_false, Bool.not_eq_true]
        exact onAir_setEnabled a false hset
      · simp [hon, hset, hrc, hair]
    · have hair : onAir a = false := by
        rw [← h]
        simpa using hon
      simp [hon, hair]

theorem off_connected {a : Advt} (id err : Nat) (h : onAir a = false) :
    onAir (next a (.connected id err)) = false := by
  simp only [next]
  split
  · exact onAir_linkAccepted a
  · exact h

theorem off_of_unmade {a : Advt} (h : a.adv_set = none) : onAir a = false := by
  simp [onAir, h]

theorem tracks_run {a : Advt} {es : List Event} (h : Tracks a)
    (hsafe : system.Steps FlagSafe a es) : Tracks (system.run a es) :=
  runs.System.run_invariant (fun a e ht hs => (tracks_next a e ht).mpr hs) h hsafe

/-! ## The law -/

/-- The flag says what the controller does in every state of a run just when every event of
the run is safe for it. -/
theorem the_flag_tracks_the_controller_on_safe_runs (a : Advt) (es : List Event)
    (h : system.Run a es) : system.States Tracks a es ↔ system.Steps FlagSafe a es := by
  have h0 : Tracks a := h.1.1.trans h.1.2.symm
  exact runs.System.states_iff_steps (I := fun _ => True) (fun _ _ _ _ _ => trivial)
    (fun a e _ ht _ => tracks_next a e ht) trivial h0 h.2

theorem init_starts (prod : ProductionData) (io : InitIo) :
    system.start (bleAdvCustomInit {} prod io).1 := by
  unfold bleAdvCustomInit appVisionCustomIdCreate btLeExtAdvSetData
  simp only [system]
  repeat' split
  all_goals exact ⟨rfl, rfl⟩

/-- The set as `ble_adv_custom_init` leaves it, on the third identity. -/
def readySet : Advt :=
  { Vision_id := 2
    adv_set := some
      { param :=
          { id := 2, sid := 2, secondary_max_skip := 0, options := [.conn, .useIdentity],
            interval_min := 3200, interval_max := 3216 } } }

theorem a_started_set_is_tracked :
    system.States Tracks readySet [.start 0, .connected 2 0, .start 0, .stop 0] :=
  (the_flag_tracks_the_controller_on_safe_runs readySet _
    ⟨⟨rfl, rfl⟩, by simp [system]⟩).mpr
    ⟨trivial, Or.inl (by decide), trivial, trivial, trivial⟩

/-- A link on the Fast Pair identity comes up while the Vision set is on air: the flag goes
down, and the set stays on air. -/
theorem a_foreign_link_parts_the_flag_from_the_controller :
    ¬ ∀ (a : Advt) (es : List Event), system.Run a es → system.States Tracks a es := by
  intro h
  have hrun := h readySet [.start 0, .connected APP_BT_ID 0] ⟨⟨rfl, rfl⟩, by simp [system]⟩
  revert hrun
  decide

end smart_track.vision_advt
