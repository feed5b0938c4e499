-- What `fp_adv.c` tells the others: the payload of its set to the controller, the state of the
-- set to the UI, and the period of the address to the host. The state of the module itself is
-- that of `FpAdv`, which each function here carries along.
import SmartTrack.FpLink
import SmartTrack.Runs

open smart_track.zephyr smart_track.fp_adv smart_track.fp_link

namespace smart_track.fp_payload

/-! ## The period of the address -/

def FP_RPA_SEC_PER_MIN : Nat := 60
def FP_RPA_TIMEOUT : Nat := 13 * FP_RPA_SEC_PER_MIN
def FP_RPA_TIMEOUT_OFFSET_MAX : Nat := 2 * FP_RPA_SEC_PER_MIN
def MSEC_PER_SEC : Nat := 1000
def INT8_MAX : Nat := 127

/-- An `int` that is assigned to an `int16_t`. -/
def toInt16 (x : Int) : Int := x.bmod (2 ^ 16)

/-- An `int` that is assigned to a `uint16_t`. -/
def toUInt16 (x : Int) : Nat := (x % 2 ^ 16).toNat

/-- `err` and `rand` are what `sys_csrand_get` gives. The product is an `int` that goes back into
an `int16_t`. -/
def fpAdvRpaTimeoutCalculate (err : Int) (rand : Int8) : Nat :=
  if err = 0 then
    let rand_timeout_diff := toInt16 (FP_RPA_TIMEOUT_OFFSET_MAX * MSEC_PER_SEC / INT8_MAX)
    let rand_timeout_diff := toInt16 (rand_timeout_diff * rand.toInt)
    let rand_timeout_diff := toInt16 (rand_timeout_diff.tdiv MSEC_PER_SEC)
    toUInt16 (FP_RPA_TIMEOUT + rand_timeout_diff)
  else
    FP_RPA_TIMEOUT

/-- The offset without a wrap-around: a share of two minutes. -/
def intendedOffset (rand : Int8) : Int := (944 * rand.toInt).tdiv 1000

theorem toInt16_bounds (x : Int) : -32768 ≤ toInt16 x ∧ toInt16 x < 32768 := by
  unfold toInt16
  constructor
  · exact Int.le_bmod (by decide)
  · exact Int.bmod_lt (by decide)

theorem toInt16_of_bounds {x : Int} (h0 : -32768 ≤ x) (h1 : x < 32768) : toInt16 x = x :=
  Int.bmod_eq_of_le (by omega) (by omega)

theorem tdiv_thousand (x : Int) :
    1000 * x.tdiv 1000 ≤ x ∧ x < 1000 * x.tdiv 1000 + 1000 ∧ 0 ≤ x ∨
      x ≤ 1000 * x.tdiv 1000 ∧ 1000 * x.tdiv 1000 - 1000 < x ∧ x < 0 := by
  by_cases hx : 0 ≤ x
  · left
    rw [Int.tdiv_eq_ediv_of_nonneg hx]
    omega
  · right
    have hneg : x.tdiv 1000 = -((-x) / 1000) := by
      rw [← Int.tdiv_eq_ediv_of_nonneg (by omega : 0 ≤ -x), Int.neg_tdiv, neg_neg]
    rw [hneg]
    omega

/-- The offset that the code comes to. -/
theorem timeout_eq (rand : Int8) :
    (fpAdvRpaTimeoutCalculate 0 rand : Int) = 780 + (toInt16 (944 * rand.toInt)).tdiv 1000 := by
  have hfactor : toInt16 (FP_RPA_TIMEOUT_OFFSET_MAX * MSEC_PER_SEC / INT8_MAX) = 944 := by decide
  obtain ⟨hlow, hhigh⟩ := toInt16_bounds (944 * rand.toInt)
  have hdiv := tdiv_thousand (toInt16 (944 * rand.toInt))
  unfold fpAdvRpaTimeoutCalculate
  simp only [if_true, hfactor]
  have hmsec : (MSEC_PER_SEC : Int) = 1000 := rfl
  have hbase : (FP_RPA_TIMEOUT : Int) = 780 := rfl
  rw [hmsec, hbase, toInt16_of_bounds (by omega) (by omega)]
  unfold toUInt16
  omega

/-- For every random byte, and without one, the period is 13 minutes up to 32 seconds, where the
code means up to two minutes. The offset is the one that is meant just for the bytes whose product
fits into the `int16_t`. -/
theorem the_period_keeps_within_32_seconds (err : Int) (rand : Int8) :
    748 ≤ fpAdvRpaTimeoutCalculate err rand ∧ fpAdvRpaTimeoutCalculate err rand ≤ 812 ∧
      ((fpAdvRpaTimeoutCalculate 0 rand : Int) = FP_RPA_TIMEOUT + intendedOffset rand ↔
        -34 ≤ rand.toInt ∧ rand.toInt ≤ 34) := by
  obtain ⟨hlow, hhigh⟩ := toInt16_bounds (944 * rand.toInt)
  have hdiv := tdiv_thousand (toInt16 (944 * rand.toInt))
  have hmeant := tdiv_thousand (944 * rand.toInt)
  have heq := timeout_eq rand
  have hbase : (FP_RPA_TIMEOUT : Int) = 780 := rfl
  have hwithin : 748 ≤ fpAdvRpaTimeoutCalculate err rand ∧
      fpAdvRpaTimeoutCalculate err rand ≤ 812 := by
    by_cases herr : err = 0
    · subst herr
      omega
    · unfold fpAdvRpaTimeoutCalculate
      rw [if_neg herr]
      decide
  refine ⟨hwithin.1, hwithin.2, ?_⟩
  rw [heq, hbase]
  unfold intendedOffset
  constructor
  · intro hsame
    omega
  · rintro ⟨h0, h1⟩
    rw [toInt16_of_bounds (by omega) (by omega)]

/-! ## The payload and the status bit -/

def CONFIG_BT_MAX_PAIRED : Nat := 3

/-- `struct bt_le_adv_prov_adv_state`, less the handle, with what the Fast Pair provider of the
payload was told. -/
structure Payload where
  pairing_mode : Bool
  rpa_rotated : Bool
  new_adv_session : Bool
  fast_pair : Bool
  deriving DecidableEq

/-- The module with its surroundings. `bonds` are those of its identity, `payload` is what the
controller has taken for the set, and `ui_fp_adv` the status bit. -/
structure Air where
  fp : FpAdv := {}
  bonds : Nat := 0
  prov_fast_pair : Bool := false
  payload : Option Payload := none
  ui_fp_adv : Bool := false
  deriving DecidableEq

def canPair (r : Air) : Bool := decide (r.bonds < CONFIG_BT_MAX_PAIRED)

def fpAdvIsPairingMode (r : Air) : Bool := decide (r.fp.fp_adv_mode = .DISCOVERABLE) && canPair r

/-- The mode is never OFF here. -/
def fpAdvProvConfigure (r : Air) : Air :=
  match r.fp.fp_adv_mode with
  | .NOT_DISCOVERABLE => { r with prov_fast_pair := true }
  | _ => { r with prov_fast_pair := canPair r }

def payloadSet (r : Air) (rpa_rotated new_session : Bool) (io : StackIo) : Air × Int :=
  let r := fpAdvProvConfigure r
  let (fp, err) := fpAdvPayloadSet r.fp io
  let payload : Payload :=
    { pairing_mode := fpAdvIsPairingMode r, rpa_rotated := rpa_rotated,
      new_adv_session := new_session, fast_pair := r.prov_fast_pair }
  ({ r with fp := fp, payload := if err = 0 then some payload else r.payload }, err)

def stackUpdate (r : Air) (io : StackIo) : Air × Int :=
  let r := { r with fp := { r.fp with
    assertion_held := r.fp.assertion_held && decide (r.fp.fp_conn = none) } }
  if r.fp.fp_adv_mode = .OFF then
    let (fp, err) := btStackAdvertisingStop r.fp io
    ({ r with fp := fp }, err)
  else
    let (r, err) := payloadSet r false true io
    if err ≠ 0 then
      (r, err)
    else
      let (fp, err) := btStackAdvertisingStart r.fp io
      ({ r with fp := fp }, err)

/-- The state of the set goes to `main.c`, which sets the bit. -/
def fpAdvStateChangedNotify (r : Air) : Air := { r with ui_fp_adv := r.fp.fp_adv_set_active }

def advertisingUpdate (r : Air) (io : StackIo) : Air :=
  let fp_adv_set_was_active := r.fp.fp_adv_set_active
  let (r, _) := stackUpdate r io
  if fp_adv_set_was_active ≠ r.fp.fp_adv_set_active then fpAdvStateChangedNotify r else r

def modeSet (r : Air) (adv_mode : Mode) (io : StackIo) : Air :=
  if r.fp.fp_adv_mode = adv_mode then
    r
  else
    let r := { r with fp := { r.fp with fp_adv_mode := adv_mode } }
    if r.fp.fp_conn = none then advertisingUpdate r io else r

def modeUpdate (r : Air) (io : StackIo) : Air :=
  if requestedMode r.fp ≠ r.fp.fp_adv_mode then modeSet r (requestedMode r.fp) io else r

def request (r : Air) (trigger : Trigger) (enable : Bool) (io : StackIo) : Air :=
  if isRequested r.fp trigger = enable then
    r
  else
    let r := { r with fp := { r.fp with
      fp_adv_request_bm := writeBit r.fp.fp_adv_request_bm (fpAdvTriggerIdxGet trigger) enable } }
    if r.fp.is_enabled then modeUpdate r io else r

/-- A set that is made has no payload yet, and one that is deleted has none any more. -/
def setSetup (r : Air) (io : StackIo) : Air × Int :=
  let (fp, err) := fpAdvSetSetup r.fp io
  ({ r with fp := fp, payload := if err = 0 then none else r.payload }, err)

def setTeardown (r : Air) (io : StackIo) : Air × Int :=
  let (fp, err) := fpAdvSetTeardown r.fp io
  ({ r with fp := fp, payload := if err = 0 then none else r.payload }, err)

def setRotate (r : Air) (io : StackIo) : Air × Int :=
  let (fp, err) := fpAdvSetRotate r.fp io
  ({ r with fp := fp }, err)

def enable (r : Air) (stored : Stored) (io : StackIo) : Air × Int :=
  if r.fp.is_enabled then
    (r, 0)
  else
    let r := { r with fp := { r.fp with
      fp_account_key_present := stored.has_account_key
      fmdn_provisioned := stored.is_provisioned } }
    let (r, err) := setSetup r io
    if err ≠ 0 then
      (r, err)
    else
      let (r, err) := if r.fp.fmdn_provisioned = false then setRotate r io else (r, 0)
      if err ≠ 0 then
        ((setTeardown r io).1, err)
      else
        let r := modeUpdate r io
        ({ r with fp := { r.fp with is_enabled := true } }, 0)

def disable (r : Air) (io : StackIo) : Air × Int :=
  if r.fp.is_enabled = false then
    (r, 0)
  else
    let r := { r with fp := fpAdvRpaSuspensionCancel { r.fp with is_enabled := false } }
    let r := modeSet r .OFF io
    setTeardown { r with fp := fpAdvConnClear r.fp io } io

/-- The callback tells the UI in any case. -/
def setConnected (r : Air) (conn : Conn) : Air :=
  fpAdvStateChangedNotify { r with fp := fpAdvConnected r.fp conn }

def restartWorkHandle (r : Air) (io : StackIo) : Air :=
  let r := { r with fp := { r.fp with fp_adv_restart_work := false } }
  if r.fp.is_enabled then advertisingUpdate r io else r

def rpaExpired (r : Air) (io : RpaIo) : Air × Bool :=
  let (_, expire_rpa) := fpAdvRpaExpired r.fp io
  let r :=
    if r.fp.fmdn_provisioned = false ∧ io.rpaTimeoutRc ≠ -EALREADY then
      { r with fp := called r.fp io.rpaTimeoutRc }
    else
      r
  (if r.fp.fp_adv_mode ≠ .OFF then (payloadSet r expire_rpa false io.payload).1 else r, expire_rpa)

def appFpAdvPayloadRefresh (r : Air) (io : StackIo) : Air :=
  if r.fp.fp_adv_mode = .OFF then r else (payloadSet r false true io).1

/-! ## The runs -/

/-- The calls of the other modules and of the host, in any order. -/
inductive Event
  | request (trigger : Trigger) (enable : Bool) (io : StackIo)
  | enable (stored : Stored) (io : StackIo)
  | disable (io : StackIo)
  | payloadRefresh (io : StackIo)
  | setConnected (conn : Conn)
  | connected (err : Nat)
  | disconnected (conn : Conn)
  | restartWork (io : StackIo)
  | rpaExpired (io : RpaIo)
  | rpaSuspensionWork
  | provisioningStateChanged (provisioned : Bool) (io : StackIo)
  | accountKeyWritten (stored : Stored)
  | bondsChange (bonds : Nat)

def next (r : Air) : Event → Air
  | .request trigger enable io => request r trigger enable io
  | .enable stored io => (enable r stored io).1
  | .disable io => (disable r io).1
  | .payloadRefresh io => appFpAdvPayloadRefresh r io
  | .setConnected conn => setConnected r conn
  | .connected err => { r with fp := connected r.fp err }
  | .disconnected conn => { r with fp := disconnected r.fp conn }
  | .restartWork io => restartWorkHandle r io
  | .rpaExpired io => (rpaExpired r io).1
  | .rpaSuspensionWork => { r with fp := fpAdvRpaSuspensionWorkHandle r.fp }
  | .provisioningStateChanged provisioned io =>
    { r with fp := fpAdvProvisioningStateChanged r.fp provisioned io }
  | .accountKeyWritten stored => { r with fp := fpAdvAccountKeyWritten r.fp stored }
  | .bondsChange bonds => { r with bonds := bonds }

/-- The runs start at power-up. -/
def system : runs.System Air Event where
  start r := r = {}
  allowed _ _ := True
  next := next

/-! ## The module under it -/

/-- The event as the module alone takes it. -/
def moduleNext (a : FpAdv) : Event → FpAdv
  | .request trigger enable io => appFpAdvRequest a trigger enable io
  | .enable stored io => (appFpAdvEnable a stored io).1
  | .disable io => (appFpAdvDisable a io).1
  | .payloadRefresh io => if a.fp_adv_mode = .OFF then a else (fpAdvPayloadSet a io).1
  | .setConnected conn => fpAdvConnected a conn
  | .connected err => connected a err
  | .disconnected conn => disconnected a conn
  | .restartWork io => fpAdvRestartWorkHandle a io
  | .rpaExpired io => (fpAdvRpaExpired a io).1
  | .rpaSuspensionWork => fpAdvRpaSuspensionWorkHandle a
  | .provisioningStateChanged provisioned io => fpAdvProvisioningStateChanged a provisioned io
  | .accountKeyWritten stored => fpAdvAccountKeyWritten a stored
  | .bondsChange _ => a

@[simp] theorem provConfigure_fp (r : Air) : (fpAdvProvConfigure r).fp = r.fp := by
  unfold fpAdvProvConfigure
  split <;> rfl

@[simp] theorem payloadSet_fp (r : Air) (rpa_rotated new_session : Bool) (io : StackIo) :
    (payloadSet r rpa_rotated new_session io).1.fp = (fpAdvPayloadSet r.fp io).1 := by
  unfold payloadSet
  simp only [provConfigure_fp]

@[simp] theorem payloadSet_err (r : Air) (rpa_rotated new_session : Bool) (io : StackIo) :
    (payloadSet r rpa_rotated new_session io).2 = (fpAdvPayloadSet r.fp io).2 := by
  unfold payloadSet
  simp only [provConfigure_fp]

@[simp] theorem stackUpdate_fp (r : Air) (io : StackIo) :
    (stackUpdate r io).1.fp = fpAdvertisingUpdate r.fp io := by
  unfold stackUpdate fpAdvertisingUpdate btStackAdvertisingUpdate
  by_cases hoff : r.fp.fp_adv_mode = .OFF
  · simp only [hoff, if_true]
  · simp only [hoff, if_false, payloadSet_fp, payloadSet_err]
    split <;> simp

@[simp] theorem advertisingUpdate_fp (r : Air) (io : StackIo) :
    (advertisingUpdate r io).fp = fpAdvertisingUpdate r.fp io := by
  unfold advertisingUpdate
  simp only
  split <;> simp [fpAdvStateChangedNotify]

@[simp] theorem modeSet_fp (r : Air) (adv_mode : Mode) (io : StackIo) :
    (modeSet r adv_mode io).fp = fpAdvModeSet r.fp adv_mode io := by
  unfold modeSet fpAdvModeSet
  split
  · rfl
  · simp only
    split <;> simp

@[simp] theorem modeUpdate_fp (r : Air) (io : StackIo) :
    (modeUpdate r io).fp = fpAdvModeUpdate r.fp io := by
  unfold modeUpdate fpAdvModeUpdate
  split <;> simp

@[simp] theorem request_fp (r : Air) (trigger : Trigger) (enable : Bool) (io : StackIo) :
    (request r trigger enable io).fp = appFpAdvRequest r.fp trigger enable io := by
  unfold request appFpAdvRequest
  split
  · rfl
  · simp only
    split <;> simp

@[simp] theorem setSetup_fp (r : Air) (io : StackIo) :
    (setSetup r io).1.fp = (fpAdvSetSetup r.fp io).1 := rfl

@[simp] theorem setTeardown_fp (r : Air) (io : StackIo) :
    (setTeardown r io).1.fp = (fpAdvSetTeardown r.fp io).1 := rfl

@[simp] theorem enable_fp (r : Air) (stored : Stored) (io : StackIo) :
    (enable r stored io).1.fp = (appFpAdvEnable r.fp stored io).1 := by
  unfold enable appFpAdvEnable
  split
  · rfl
  · simp only [setSetup_fp]
    by_cases hcreate : io.createRc = 0
    · by_cases hprov : stored.is_provisioned = false
      · by_cases hrot : io.oobRc = 0 <;>
          simp [setSetup, fpAdvSetSetup, setRotate, fpAdvSetRotate, hcreate, hprov, hrot]
      · simp [setSetup, fpAdvSetSetup, hcreate, hprov]
    · simp [setSetup, fpAdvSetSetup, hcreate]

@[simp] theorem disable_fp (r : Air) (io : StackIo) :
    (disable r io).1.fp = (appFpAdvDisable r.fp io).1 := by
  unfold disable appFpAdvDisable
  split <;> simp

@[simp] theorem restartWorkHandle_fp (r : Air) (io : StackIo) :
    (restartWorkHandle r io).fp = fpAdvRestartWorkHandle r.fp io := by
  unfold restartWorkHandle fpAdvRestartWorkHandle
  simp only
  split <;> simp

@[simp] theorem rpaExpired_fp (r : Air) (io : RpaIo) :
    (rpaExpired r io).1.fp = (fpAdvRpaExpired r.fp io).1 := by
  unfold rpaExpired fpAdvRpaExpired
  by_cases htimeout : r.fp.fmdn_provisioned = false ∧ io.rpaTimeoutRc ≠ -EALREADY
  · have hmode : (called r.fp io.rpaTimeoutRc).fp_adv_mode = r.fp.fp_adv_mode := rfl
    by_cases hoff : r.fp.fp_adv_mode = .OFF <;> simp [htimeout, hmode, hoff]
  · by_cases hoff : r.fp.fp_adv_mode = .OFF <;> simp only [htimeout, if_false] <;> simp [hoff]

/-- The module is not affected by what is added here. -/
theorem next_fp (r : Air) (e : Event) : (next r e).fp = moduleNext r.fp e := by
  cases e with
  | payloadRefresh io =>
    show (appFpAdvPayloadRefresh r io).fp = _
    unfold appFpAdvPayloadRefresh moduleNext
    split <;> simp
  | _ => simp [next, moduleNext, setConnected, fpAdvStateChangedNotify]

/-! ## The reports -/

/-- What a payload says is right in the mode. -/
def Fits : Mode → Payload → Prop
  | .OFF, _ => False
  | .DISCOVERABLE, p => p.pairing_mode = p.fast_pair
  | .NOT_DISCOVERABLE, p => p.pairing_mode = false ∧ p.fast_pair = true

instance : ∀ m p, Decidable (Fits m p)
  | .OFF, _ => inferInstanceAs (Decidable False)
  | .DISCOVERABLE, p => inferInstanceAs (Decidable (p.pairing_mode = p.fast_pair))
  | .NOT_DISCOVERABLE, p =>
    inferInstanceAs (Decidable (p.pairing_mode = false ∧ p.fast_pair = true))

/-- The active set has a payload that fits. -/
def Announces (r : Air) : Prop :=
  r.fp.fp_adv_set_active = true → ∃ p ∈ r.payload, Fits r.fp.fp_adv_mode p

structure Reports (r : Air) : Prop where
  shown : r.ui_fp_adv = r.fp.fp_adv_set_active
  told : r.fp.calls_succeeded = true → r.fp.assertion_held = true → Announces r

/-- What only touches other fields, or marks a failed call, keeps the reports. -/
theorem Reports.mono {r r' : Air} (h : Reports r) (hbit : r'.ui_fp_adv = r.ui_fp_adv)
    (hactive : r'.fp.fp_adv_set_active = r.fp.fp_adv_set_active)
    (hmode : r'.fp.fp_adv_mode = r.fp.fp_adv_mode) (hpayload : r'.payload = r.payload)
    (hcalls : r'.fp.calls_succeeded = true → r.fp.calls_succeeded = true)
    (hheld : r'.fp.assertion_held = r.fp.assertion_held) : Reports r' := by
  constructor
  · rw [hbit, hactive, h.shown]
  · intro hc ha
    unfold Announces
    rw [hactive, hmode, hpayload]
    exact h.told (hcalls hc) (hheld ▸ ha)

theorem Reports.onlySet {r : Air} (h : Reports r) {fp : FpAdv} (hset : OnlySet r.fp fp) :
    Reports { r with fp := fp } := by
  obtain ⟨set, calls, rfl, hcalls⟩ := hset
  exact h.mono rfl rfl rfl rfl hcalls rfl

/-- Without a failed call, an idle set may lose its payload. -/
theorem Reports.drop {r : Air} (h : Reports r) {fp : FpAdv} (hset : OnlySet r.fp fp)
    (payload : Option Payload)
    (hidle : r.fp.calls_succeeded = true → r.fp.assertion_held = true →
      r.fp.fp_adv_set_active = false) :
    Reports { r with fp := fp, payload := payload } := by
  obtain ⟨set, calls, rfl, hcalls⟩ := hset
  refine ⟨h.shown, ?_⟩
  intro hc ha hactive
  have hoff := hidle (hcalls hc) ha
  rw [hoff] at hactive
  cases hactive

/-! ## An update -/

@[simp] theorem provConfigure_bit (r : Air) : (fpAdvProvConfigure r).ui_fp_adv = r.ui_fp_adv := by
  unfold fpAdvProvConfigure
  split <;> rfl

@[simp] theorem payloadSet_bit (r : Air) (rpa_rotated new_session : Bool) (io : StackIo) :
    (payloadSet r rpa_rotated new_session io).1.ui_fp_adv = r.ui_fp_adv :=
  provConfigure_bit r

/-- What is built for the mode fits it. -/
theorem payloadSet_fits {r : Air} (rpa_rotated new_session : Bool) {io : StackIo}
    (hmode : r.fp.fp_adv_mode ≠ .OFF) (herr : (fpAdvPayloadSet r.fp io).2 = 0) :
    ∃ p ∈ (payloadSet r rpa_rotated new_session io).1.payload, Fits r.fp.fp_adv_mode p := by
  have hset : (payloadSet r rpa_rotated new_session io).1.payload = some
      { pairing_mode := fpAdvIsPairingMode (fpAdvProvConfigure r), rpa_rotated := rpa_rotated,
        new_adv_session := new_session, fast_pair := (fpAdvProvConfigure r).prov_fast_pair } := by
    unfold payloadSet
    simp only [provConfigure_fp]
    exact if_pos herr
  refine ⟨_, hset, ?_⟩
  unfold fpAdvIsPairingMode
  rw [provConfigure_fp]
  cases hm : r.fp.fp_adv_mode with
  | OFF => exact absurd hm hmode
  | DISCOVERABLE => simp [Fits, fpAdvProvConfigure, hm, canPair]
  | NOT_DISCOVERABLE => simp [Fits, fpAdvProvConfigure, hm]

/-- A new payload for the mode never spoils the reports. -/
theorem payloadSet_reports {r : Air} (rpa_rotated new_session : Bool) (io : StackIo)
    (hmode : r.fp.fp_adv_mode ≠ .OFF) (h : Reports r) :
    Reports (payloadSet r rpa_rotated new_session io).1 := by
  constructor
  · rw [payloadSet_bit, payloadSet_fp]
    exact h.shown
  · intro hc _ _
    rw [payloadSet_fp, payload_called] at hc ⊢
    simp only [called, Bool.and_eq_true, decide_eq_true_eq] at hc
    exact payloadSet_fits rpa_rotated new_session hmode hc.2

theorem stackUpdate_bit (r : Air) (io : StackIo) :
    (stackUpdate r io).1.ui_fp_adv = r.ui_fp_adv := by
  unfold stackUpdate
  simp only
  split
  · rfl
  · split <;> simp

/-- After an update without a failure the set is idle, or it has a payload that fits. -/
theorem stackUpdate_announces {r : Air} {io : StackIo}
    (hcalls : (stackUpdate r io).1.fp.calls_succeeded = true) :
    Announces (stackUpdate r io).1 := by
  have hcalls' := hcalls
  obtain ⟨active, calls, heq, hdone⟩ := update_spec r.fp io
  unfold Announces
  rw [stackUpdate_fp, heq] at hcalls' ⊢
  intro hactive
  have hmode := (hdone hcalls').2.mp hactive
  let held : Air := { r with fp := { r.fp with
    assertion_held := r.fp.assertion_held && decide (r.fp.fp_conn = none) } }
  have hrun : (stackUpdate r io).1 = if (fpAdvPayloadSet held.fp io).2 ≠ 0
      then (payloadSet held false true io).1
      else { (payloadSet held false true io).1 with
        fp := (btStackAdvertisingStart (payloadSet held false true io).1.fp io).1 } := by
    unfold stackUpdate
    simp only [if_neg hmode, payloadSet_err]
    split <;> rfl
  by_cases herr : (fpAdvPayloadSet held.fp io).2 = 0
  · rw [hrun, if_neg (not_not.mpr herr)]
    exact payloadSet_fits (r := held) false true hmode herr
  · rw [hrun, if_pos herr, payloadSet_fp, payload_called] at hcalls
    simp [called, herr] at hcalls

/-- The bit is only written on a change, and it needs no more. -/
theorem advertisingUpdate_reports {r : Air} (io : StackIo)
    (h : r.ui_fp_adv = r.fp.fp_adv_set_active) : Reports (advertisingUpdate r io) := by
  unfold advertisingUpdate
  simp only
  split
  · exact ⟨rfl, fun hc _ => stackUpdate_announces hc⟩
  · rename_i hsame
    refine ⟨?_, fun hc _ => stackUpdate_announces hc⟩
    rw [stackUpdate_bit, h]
    exact not_not.mp hsame

/-! ## Every function keeps the reports -/

theorem modeSet_reports {r : Air} (adv_mode : Mode) (io : StackIo)
    (htracks : r.fp.assertion_held = true → Tracks r.fp) (h : Reports r) :
    Reports (modeSet r adv_mode io) := by
  unfold modeSet
  simp only
  split_ifs with hsame hconn
  · exact h
  · exact advertisingUpdate_reports io h.shown
  · refine ⟨h.shown, ?_⟩
    intro _ ha hactive
    exact absurd ((htracks ha).one_link hactive) hconn

theorem modeUpdate_reports {r : Air} (io : StackIo)
    (htracks : r.fp.assertion_held = true → Tracks r.fp) (h : Reports r) :
    Reports (modeUpdate r io) := by
  unfold modeUpdate
  split
  · exact modeSet_reports _ io htracks h
  · exact h

theorem request_reports {r : Air} (trigger : Trigger) (enable : Bool) (io : StackIo)
    (hinv : Inv r.fp) (h : Reports r) : Reports (request r trigger enable io) := by
  unfold request
  simp only
  split_ifs
  · exact h
  · apply modeUpdate_reports io
    · intro ha
      have ht := hinv.tracks ha
      exact ⟨ht.one_link, ht.off_inactive, ht.on_active⟩
    · exact h.mono rfl rfl rfl rfl id rfl
  · exact h.mono rfl rfl rfl rfl id rfl

/-- The set of a module that is down is idle. -/
theorem idle_of_disabled {a : FpAdv} (hinv : Inv a) (hoff : a.is_enabled = false) :
    a.calls_succeeded = true → a.assertion_held = true → a.fp_adv_set_active = false :=
  fun hc ha => (hinv.tracks ha).off_inactive hc (hinv.off hoff)

theorem setSetup_reports {r : Air} (io : StackIo) (hinv : Inv r.fp)
    (hoff : r.fp.is_enabled = false) (h : Reports r) : Reports (setSetup r io).1 := by
  have hset := setup_onlySet r.fp io
  unfold setSetup
  simp only
  split
  · exact h.drop hset none (idle_of_disabled hinv hoff)
  · exact h.onlySet hset

theorem setTeardown_reports {r : Air} (io : StackIo)
    (hidle : r.fp.calls_succeeded = true → r.fp.assertion_held = true →
      r.fp.fp_adv_set_active = false)
    (h : Reports r) : Reports (setTeardown r io).1 := by
  have hset := teardown_onlySet r.fp io
  unfold setTeardown
  simp only
  split
  · exact h.drop hset none hidle
  · exact h.onlySet hset

theorem switchOn_reports {r : Air} (io : StackIo) (hinv : Inv r.fp) (h : Reports r) :
    Reports { modeUpdate r io with fp := { (modeUpdate r io).fp with is_enabled := true } } :=
  (modeUpdate_reports io hinv.tracks h).mono rfl rfl rfl rfl id rfl

theorem enable_reports {r : Air} (stored : Stored) (io : StackIo) (hinv : Inv r.fp)
    (h : Reports r) : Reports (enable r stored io).1 := by
  unfold enable
  simp only
  split
  · exact h
  rename_i hdown
  have hoff : r.fp.is_enabled = false := by simpa using hdown
  let known : Air := { r with fp := { r.fp with
    fp_account_key_present := stored.has_account_key
    fmdn_provisioned := stored.is_provisioned } }
  have hknown : Inv known.fp := (keeps_knowledge r.fp _ _ _ _ _).inv hinv
  have hset : Reports (setSetup known io).1 :=
    setSetup_reports io hknown hoff (h.mono rfl rfl rfl rfl id rfl)
  have hinvset : Inv (setSetup known io).1.fp :=
    (keeps_of_onlySet (setup_onlySet known.fp io)).inv hknown
  have hoffset : (setSetup known io).1.fp.is_enabled = false := by
    obtain ⟨set, calls, heq, _⟩ := setup_onlySet known.fp io
    rw [setSetup_fp, heq]
    exact hoff
  split
  · exact hset
  by_cases hprov : (setSetup known io).1.fp.fmdn_provisioned = false
  · have hrot := called_onlySet (setSetup known io).1.fp io.oobRc
    have hinvrot : Inv (setRotate (setSetup known io).1 io).1.fp :=
      (keeps_of_onlySet hrot).inv hinvset
    have hreports : Reports (setRotate (setSetup known io).1 io).1 := hset.onlySet hrot
    simp only [known, hprov, if_true]
    split
    · exact setTeardown_reports io (idle_of_disabled hinvrot hoffset) hreports
    · exact switchOn_reports io hinvrot hreports
  · simp only [known, hprov]
    exact switchOn_reports io hinvset hset

theorem disable_reports {r : Air} (io : StackIo) (hinv : Inv r.fp) (h : Reports r) :
    Reports (disable r io).1 := by
  unfold disable
  simp only
  split
  · exact h
  have htracks : r.fp.assertion_held = true →
      Tracks (fpAdvRpaSuspensionCancel { r.fp with is_enabled := false }) := by
    intro ha
    have ht := hinv.tracks ha
    exact ⟨ht.one_link, ht.off_inactive, ht.on_active⟩
  have hoff : Reports (modeSet
      { r with fp := fpAdvRpaSuspensionCancel { r.fp with is_enabled := false } } .OFF io) :=
    modeSet_reports .OFF io htracks (h.mono rfl rfl rfl rfl id rfl)
  refine setTeardown_reports io ?_ (hoff.onlySet (connClear_onlySet _ io))
  -- The set is off by now, so that it is idle unless something failed.
  obtain ⟨set, calls, heq, hcalls⟩ := connClear_onlySet
    (modeSet { r with fp := fpAdvRpaSuspensionCancel { r.fp with is_enabled := false } }
      .OFF io).fp io
  obtain ⟨active, done, hmode⟩ := modeSet_frame
    (fpAdvRpaSuspensionCancel { r.fp with is_enabled := false }) .OFF io
  simp only [heq]
  intro hc ha
  rw [modeSet_fp] at ha hcalls ⊢
  have hheld : r.fp.assertion_held = true := by
    rw [hmode] at ha
    exact ha
  have ht := modeSet_tracks .OFF io (htracks hheld)
  exact ht.off_inactive (hcalls hc) (by rw [hmode])

theorem rpaExpired_reports {r : Air} (io : RpaIo) (h : Reports r) :
    Reports (rpaExpired r io).1 := by
  have hcalled : Reports { r with fp := called r.fp io.rpaTimeoutRc } :=
    h.onlySet (called_onlySet r.fp _)
  unfold rpaExpired
  simp only
  split_ifs with htimeout hmode hmode
  · exact payloadSet_reports _ false io.payload hmode hcalled
  · exact hcalled
  · exact payloadSet_reports _ false io.payload hmode h
  · exact h

theorem restartWork_reports {r : Air} (io : StackIo) (h : Reports r) :
    Reports (restartWorkHandle r io) := by
  unfold restartWorkHandle
  simp only
  split
  · exact advertisingUpdate_reports io h.shown
  · exact h.mono rfl rfl rfl rfl id rfl

theorem reports_next (r : Air) (e : Event) (hinv : Inv r.fp) (h : Reports r) :
    Reports (next r e) := by
  cases e with
  | request trigger enable io => exact request_reports trigger enable io hinv h
  | enable stored io => exact enable_reports stored io hinv h
  | disable io => exact disable_reports io hinv h
  | payloadRefresh io =>
    show Reports (appFpAdvPayloadRefresh r io)
    unfold appFpAdvPayloadRefresh
    split
    · exact h
    · rename_i hmode
      exact payloadSet_reports false true io hmode h
  | setConnected conn => exact ⟨rfl, fun _ _ hactive => absurd hactive Bool.false_ne_true⟩
  | connected err =>
    show Reports { r with fp := fp_adv.connected r.fp err }
    unfold fp_adv.connected
    split
    · exact h.mono rfl rfl rfl rfl id rfl
    · exact h
  | disconnected conn =>
    show Reports { r with fp := fp_adv.disconnected r.fp conn }
    unfold fp_adv.disconnected
    split
    · exact h.mono rfl rfl rfl rfl id rfl
    · exact h
  | restartWork io => exact restartWork_reports io h
  | rpaExpired io => exact rpaExpired_reports io h
  | rpaSuspensionWork => exact h.mono rfl rfl rfl rfl id rfl
  | provisioningStateChanged provisioned io =>
    show Reports { r with fp := fpAdvProvisioningStateChanged r.fp provisioned io }
    have hknown : Reports { r with fp := { r.fp with fmdn_provisioned := provisioned } } :=
      h.mono rfl rfl rfl rfl id rfl
    unfold fpAdvProvisioningStateChanged
    simp only
    split_ifs
    · exact hknown
    · exact hknown.onlySet (called_onlySet _ io.oobRc)
    · exact h.mono rfl rfl rfl rfl id rfl
  | accountKeyWritten stored =>
    show Reports { r with fp := fpAdvAccountKeyWritten r.fp stored }
    unfold fpAdvAccountKeyWritten
    simp only
    split_ifs
    · exact h.mono rfl rfl rfl rfl id rfl
    · exact h.mono rfl rfl rfl rfl id rfl
  | bondsChange bonds => exact ⟨h.shown, h.told⟩

/-- The module itself keeps its invariant under these events. -/
theorem moduleNext_inv (a : FpAdv) (e : Event) (h : Inv a) : Inv (moduleNext a e) := by
  cases e with
  | request trigger enable io => exact (request_keeps a trigger enable io).inv h
  | enable stored io => exact (enable_keeps a stored io).inv h
  | disable io => exact (disable_keeps a io).inv h
  | payloadRefresh io =>
    show Inv (if a.fp_adv_mode = .OFF then a else (fpAdvPayloadSet a io).1)
    split
    · exact h
    · exact (keeps_of_onlySet (called_onlySet a _)).inv h
  | setConnected conn => exact (fpAdvConnected_keeps a conn).inv h
  | connected err => exact (connected_keeps a err).inv h
  | disconnected conn => exact (disconnected_keeps a conn).inv h
  | restartWork io => exact (restartWork_spec a io).1 h
  | rpaExpired io => exact (keeps_of_onlySet (rpaExpired_onlySet a io)).inv h
  | rpaSuspensionWork => exact (rpaSuspensionWork_keeps a).inv h
  | provisioningStateChanged provisioned io =>
    exact (fpProvisioning_keeps a provisioned io).inv h
  | accountKeyWritten stored => exact (fpAccountKey_keeps a stored).inv h
  | bondsChange bonds => exact h

theorem reports_always {Q : Air → Prop} (hQ : ∀ r, Reports r → Q r) (es : List Event) :
    system.States Q {} es := by
  apply runs.System.states_of_invariant (A := fun _ _ => True)
    (I := fun r : Air => Inv r.fp ∧ Reports r) _ (fun r h => hQ r h.2)
    ⟨inv_fresh, rfl, fun _ _ hactive => absurd hactive (by simp)⟩ (runs.System.steps_trivial _ es)
  intro r e h _
  refine ⟨?_, reports_next r e h.1 h.2⟩
  show Inv (next r e).fp
  rw [next_fp]
  exact moduleNext_inv r.fp e h.1

/-- Whatever the stack answers, the UI shows in every state whether the set advertises. -/
theorem the_status_bit_is_that_of_the_set (es : List Event) :
    system.States (fun r => r.ui_fp_adv = r.fp.fp_adv_set_active) {} es :=
  reports_always (fun _ h => h.shown) es

/-- Until a call or an assertion fails, a set that advertises always has a payload, and one that is
right in the mode: the provider is on and no pairing is offered, or it is on just when pairing
is offered. -/
theorem the_payload_is_that_of_the_mode (es : List Event) :
    system.States (fun r => r.fp.calls_succeeded = true → r.fp.assertion_held = true →
      r.fp.fp_adv_set_active = true → ∃ p ∈ r.payload, Fits r.fp.fp_adv_mode p) {} es :=
  reports_always (fun _ h => h.told) es

def allDone : StackIo :=
  { handleRc := 0, adRc := 0, sdRc := 0, setDataRc := 0, startRc := 0, stopRc := 0, createRc := 0,
    oobRc := 0, deleteRc := 0, disconnectRc := 0 }

/-- With all its bonds taken, the tag is discoverable and offers nothing. -/
example :
    let r := system.run {}
      [.bondsChange 3, .request .ui true allDone, .enable ⟨false, false⟩ allDone]
    r.fp.calls_succeeded = true ∧ r.fp.fp_adv_set_active = true ∧
      r.payload = some ⟨false, false, true, false⟩ := by
  decide

end smart_track.fp_payload
