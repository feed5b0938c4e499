-- The Fast Pair advertising set (`fp_adv.c`): the requests of the triggers, the
-- mode they ask for, the link that the set serves, and the work that starts the
-- set again when that link is gone.
import SmartTrack.Zephyr

open smart_track.zephyr

namespace smart_track.fp_adv

def FP_ADV_RPA_SUSPENSION_TIMEOUT : Nat := 5
def FP_DISC_ADV_INTERVAL : Nat := 0x00A0
def FP_NDISC_ADV_INTERVAL : Nat := 0x0190

/-- `enum app_fp_adv_mode`. -/
inductive Mode
  | OFF
  | DISCOVERABLE
  | NOT_DISCOVERABLE
  deriving DecidableEq, Repr

/-- The triggers that are registered, in the order of their section. -/
inductive Trigger
  | clock_sync
  | fmdn_provisioning
  | ui
  deriving DecidableEq, Repr

def fpAdvTriggerIdxGet : Trigger → Nat
  | .clock_sync => 0
  | .fmdn_provisioning => 1
  | .ui => 2

/-- What the Fast Pair subsystem keeps in flash: whether an Account Key is stored, and
whether FMDN is provisioned. -/
structure Stored where
  has_account_key : Bool
  is_provisioned : Bool
  deriving DecidableEq

/-- The static variables of `fp_adv.c`. -/
structure FpAdv where
  is_enabled : Bool := false
  fmdn_provisioned : Bool := false
  fp_account_key_present : Bool := false
  fp_conn : Option Conn := none
  /-- The advertising set, as the interval it was created with. -/
  fp_adv_set : Option Nat := none
  fp_adv_set_active : Bool := false
  fp_adv_rpa_rotation_suspended : Bool := false
  fp_adv_mode : Mode := .OFF
  fp_adv_request_bm : BitVec 32 := 0
  fp_adv_restart_work : Bool := false
  fp_adv_rpa_suspension_work : Delayable := none
  /-- Not in the code: `__ASSERT(!fp_conn)` has held whenever it was reached. -/
  assertion_held : Bool := true
  /-- Not in the code: every call to the Bluetooth stack has given 0. -/
  calls_succeeded : Bool := true
  deriving DecidableEq

/-- What the Bluetooth stack answers to the calls that one function of the module makes. -/
structure StackIo where
  handleRc : Int
  adRc : Int
  sdRc : Int
  setDataRc : Int
  startRc : Int
  stopRc : Int
  createRc : Int
  oobRc : Int
  deleteRc : Int
  disconnectRc : Int
  deriving DecidableEq

/-- A call to the stack was made, with this code. -/
def called (a : FpAdv) (rc : Int) : FpAdv :=
  { a with calls_succeeded := a.calls_succeeded && decide (rc = 0) }

/-! ## The advertising set -/

def fpAdvRpaSuspensionCancel (a : FpAdv) : FpAdv :=
  { a with
    fp_adv_rpa_suspension_work := kWorkCancelDelayable a.fp_adv_rpa_suspension_work
    fp_adv_rpa_rotation_suspended := false }

def fpAdvRpaSuspensionWorkHandle (a : FpAdv) : FpAdv :=
  { a with fp_adv_rpa_suspension_work := none, fp_adv_rpa_rotation_suspended := false }

/-- The four calls that build and set the payload. The first that fails ends them. -/
def fpAdvPayloadSet (a : FpAdv) (io : StackIo) : FpAdv × Int :=
  let rc :=
    if io.handleRc ≠ 0 then io.handleRc
    else if io.adRc ≠ 0 then io.adRc
    else if io.sdRc ≠ 0 then io.sdRc
    else io.setDataRc
  (called a rc, rc)

def btStackAdvertisingStart (a : FpAdv) (io : StackIo) : FpAdv × Int :=
  if a.fp_adv_set_active then
    (a, 0)
  else if io.startRc ≠ 0 then
    (called a io.startRc, io.startRc)
  else
    ({ a with fp_adv_set_active := true }, 0)

def btStackAdvertisingStop (a : FpAdv) (io : StackIo) : FpAdv × Int :=
  if a.fp_adv_set_active = false then
    (a, 0)
  else if io.stopRc ≠ 0 then
    (called a io.stopRc, io.stopRc)
  else
    ({ a with fp_adv_set_active := false }, 0)

/-- A failed assertion leaves its mark, and the function goes on as in a build without
assertions. -/
def btStackAdvertisingUpdate (a : FpAdv) (io : StackIo) : FpAdv × Int :=
  let a := { a with assertion_held := a.assertion_held && decide (a.fp_conn = none) }
  if a.fp_adv_mode = .OFF then
    btStackAdvertisingStop a io
  else
    let (a, err) := fpAdvPayloadSet a io
    if err ≠ 0 then (a, err) else btStackAdvertisingStart a io

/-- A failed update is only logged. -/
def fpAdvertisingUpdate (a : FpAdv) (io : StackIo) : FpAdv := (btStackAdvertisingUpdate a io).1

def fpAdvSetRotate (a : FpAdv) (io : StackIo) : FpAdv × Int := (called a io.oobRc, io.oobRc)

def fpAdvSetSetup (a : FpAdv) (io : StackIo) : FpAdv × Int :=
  let interval :=
    if a.fp_account_key_present then FP_NDISC_ADV_INTERVAL else FP_DISC_ADV_INTERVAL
  if io.createRc ≠ 0 then
    (called a io.createRc, io.createRc)
  else
    ({ a with fp_adv_set := some interval }, 0)

def fpAdvSetTeardown (a : FpAdv) (io : StackIo) : FpAdv × Int :=
  if io.deleteRc ≠ 0 then
    (called a io.deleteRc, io.deleteRc)
  else
    ({ a with fp_adv_set := none }, 0)

/-! ## The mode -/

/-- The mode that the triggers ask for. -/
def requestedMode (a : FpAdv) : Mode :=
  if a.fp_adv_request_bm ≠ 0 then
    if a.fp_account_key_present then .NOT_DISCOVERABLE else .DISCOVERABLE
  else
    .OFF

def fpAdvModeSet (a : FpAdv) (adv_mode : Mode) (io : StackIo) : FpAdv :=
  if a.fp_adv_mode = adv_mode then
    a
  else
    let a := { a with fp_adv_mode := adv_mode }
    if a.fp_conn = none then fpAdvertisingUpdate a io else a

def fpAdvModeUpdate (a : FpAdv) (io : StackIo) : FpAdv :=
  if requestedMode a ≠ a.fp_adv_mode then fpAdvModeSet a (requestedMode a) io else a

def BIT (idx : Nat) : BitVec 32 := BitVec.twoPow 32 idx

/-- The trigger has its bit set. -/
def isRequested (a : FpAdv) (trigger : Trigger) : Bool :=
  decide (a.fp_adv_request_bm &&& BIT (fpAdvTriggerIdxGet trigger) ≠ 0)

/-- `WRITE_BIT`. -/
def writeBit (bm : BitVec 32) (idx : Nat) (enable : Bool) : BitVec 32 :=
  if enable then bm ||| BIT idx else bm &&& ~~~ BIT idx

/-- A written bit is as it was written, and the others stay. -/
theorem getLsbD_writeBit (bm : BitVec 32) (i : Nat) {j : Nat} (h : j < 32) (enable : Bool) :
    (writeBit bm i enable).getLsbD j = if j = i then enable else bm.getLsbD j := by
  by_cases hij : j = i
  · subst hij
    cases enable <;> simp [writeBit, BIT, h]
  · cases enable <;> simp [writeBit, BIT, h, hij]

/-- A mask of one bit reads that bit. -/
theorem and_BIT (bm : BitVec 32) {i : Nat} (h : i < 32) :
    decide (bm &&& BIT i ≠ 0) = bm.getLsbD i := by
  unfold BIT
  rw [BitVec.and_twoPow]
  cases hbit : bm.getLsbD i with
  | false => simp
  | true =>
    have hne : BitVec.twoPow 32 i ≠ 0 := by
      intro hzero
      have hat := congrArg (fun v => BitVec.getLsbD v i) hzero
      simp only [BitVec.getLsbD_twoPow, h] at hat
      simp at hat
    simpa using hne

def appFpAdvRequest (a : FpAdv) (trigger : Trigger) (enable : Bool) (io : StackIo) : FpAdv :=
  if isRequested a trigger = enable then
    a
  else
    let a := { a with
      fp_adv_request_bm := writeBit a.fp_adv_request_bm (fpAdvTriggerIdxGet trigger) enable }
    if a.is_enabled then fpAdvModeUpdate a io else a

def appFpAdvEnable (a : FpAdv) (stored : Stored) (io : StackIo) : FpAdv × Int :=
  if a.is_enabled then
    (a, 0)
  else
    let a := { a with
      fp_account_key_present := stored.has_account_key
      fmdn_provisioned := stored.is_provisioned }
    let (a, err) := fpAdvSetSetup a io
    if err ≠ 0 then
      (a, err)
    else
      let (a, err) := if a.fmdn_provisioned = false then fpAdvSetRotate a io else (a, 0)
      if err ≠ 0 then
        ((fpAdvSetTeardown a io).1, err)
      else
        ({ fpAdvModeUpdate a io with is_enabled := true }, 0)

/-- The disconnect that is asked for here comes back as a `disconnected` callback. -/
def fpAdvConnClear (a : FpAdv) (io : StackIo) : FpAdv :=
  if a.fp_conn = none then a else called a io.disconnectRc

def appFpAdvDisable (a : FpAdv) (io : StackIo) : FpAdv × Int :=
  if a.is_enabled = false then
    (a, 0)
  else
    let a := fpAdvRpaSuspensionCancel { a with is_enabled := false }
    fpAdvSetTeardown (fpAdvConnClear (fpAdvModeSet a .OFF io) io) io

/-! ## The callbacks -/

/-- The callback of the set: a link has come up on it. -/
def fpAdvConnected (a : FpAdv) (conn : Conn) : FpAdv :=
  { a with fp_adv_set_active := false, fp_conn := some conn }

/-- The callback for every connection of the tag. -/
def connected (a : FpAdv) (err : Nat) : FpAdv :=
  if err ≠ 0 then { a with fp_adv_restart_work := true } else a

def disconnected (a : FpAdv) (conn : Conn) : FpAdv :=
  if a.fp_conn = some conn then
    { a with fp_conn := none, fp_adv_restart_work := true }
  else
    a

def fpAdvRestartWorkHandle (a : FpAdv) (io : StackIo) : FpAdv :=
  let a := { a with fp_adv_restart_work := false }
  if a.is_enabled then fpAdvertisingUpdate a io else a

/-- The codes of the two calls that the RPA callback makes. -/
structure RpaIo where
  rpaTimeoutRc : Int
  payload : StackIo
  deriving DecidableEq

/-- Whether the address of the set may rotate. -/
def fpAdvRpaExpired (a : FpAdv) (io : RpaIo) : FpAdv × Bool :=
  let expire_rpa :=
    ! (a.fmdn_provisioned && ! a.fp_adv_set_active) && decide (a.fp_adv_mode ≠ .DISCOVERABLE) &&
      ! a.fp_adv_rpa_rotation_suspended
  let a :=
    if a.fmdn_provisioned = false ∧ io.rpaTimeoutRc ≠ -EALREADY then called a io.rpaTimeoutRc
    else a
  (if a.fp_adv_mode ≠ .OFF then (fpAdvPayloadSet a io.payload).1 else a, expire_rpa)

def fpAdvProvisioningStateChanged (a : FpAdv) (provisioned : Bool) (io : StackIo) : FpAdv :=
  let a := { a with fmdn_provisioned := provisioned }
  if a.is_enabled = false then
    a
  else if provisioned = false then
    (fpAdvSetRotate a io).1
  else
    fpAdvRpaSuspensionCancel a

def fpAdvAccountKeyWritten (a : FpAdv) (stored : Stored) : FpAdv :=
  let a :=
    if a.fmdn_provisioned = false ∧ a.fp_account_key_present = false ∧ a.is_enabled = true then
      { a with
        fp_adv_rpa_rotation_suspended := true
        fp_adv_rpa_suspension_work := kWorkSchedule a.fp_adv_rpa_suspension_work
          (K_MINUTES FP_ADV_RPA_SUSPENSION_TIMEOUT) }
    else
      a
  { a with fp_account_key_present := stored.has_account_key }

/-! ## What the functions do -/

/-- What a call to the set leaves: the flag, and the mark of a failure. If none is marked, the
flag is as it was asked for. -/
def Asks (active : Bool) (a b : FpAdv) : Prop :=
  ∃ now calls, b = { a with fp_adv_set_active := now, calls_succeeded := calls } ∧
    (calls = true → a.calls_succeeded = true ∧ now = active)

theorem called_failed (active : Bool) (a : FpAdv) {rc : Int} (h : rc ≠ 0) :
    Asks active a (called a rc) :=
  ⟨a.fp_adv_set_active, false, by simp [called, h], by simp⟩

theorem start_asks (a : FpAdv) (io : StackIo) : Asks true a (btStackAdvertisingStart a io).1 := by
  unfold btStackAdvertisingStart
  split
  · rename_i hon
    exact ⟨true, a.calls_succeeded, by simp [← hon], fun hcalls => ⟨hcalls, rfl⟩⟩
  split
  · rename_i hrc
    exact called_failed true a hrc
  · exact ⟨true, a.calls_succeeded, rfl, fun hcalls => ⟨hcalls, rfl⟩⟩

theorem stop_asks (a : FpAdv) (io : StackIo) : Asks false a (btStackAdvertisingStop a io).1 := by
  unfold btStackAdvertisingStop
  split
  · rename_i hoff
    exact ⟨false, a.calls_succeeded, by simp [← hoff], fun hcalls => ⟨hcalls, rfl⟩⟩
  split
  · rename_i hrc
    exact called_failed false a hrc
  · exact ⟨false, a.calls_succeeded, rfl, fun hcalls => ⟨hcalls, rfl⟩⟩

theorem payload_called (a : FpAdv) (io : StackIo) :
    (fpAdvPayloadSet a io).1 = called a (fpAdvPayloadSet a io).2 := rfl

theorem called_zero (a : FpAdv) : called a 0 = a := by
  simp [called]

/-- An update changes the flag, and marks what went wrong. -/
theorem update_spec (a : FpAdv) (io : StackIo) :
    ∃ active calls,
      fpAdvertisingUpdate a io =
        { a with
          fp_adv_set_active := active
          calls_succeeded := calls
          assertion_held := a.assertion_held && decide (a.fp_conn = none) } ∧
      (calls = true →
        a.calls_succeeded = true ∧ (active = true ↔ a.fp_adv_mode ≠ .OFF)) := by
  let held : FpAdv := { a with assertion_held := a.assertion_held && decide (a.fp_conn = none) }
  have hasks : Asks (decide (a.fp_adv_mode ≠ .OFF)) held (fpAdvertisingUpdate a io) := by
    by_cases hmode : a.fp_adv_mode = .OFF
    · have hrun : fpAdvertisingUpdate a io = (btStackAdvertisingStop held io).1 :=
        congrArg Prod.fst (if_pos hmode)
      rw [hrun, decide_eq_false (not_not.mpr hmode)]
      exact stop_asks held io
    · rw [decide_eq_true hmode]
      by_cases hrc : (fpAdvPayloadSet held io).2 = 0
      · have hrun : fpAdvertisingUpdate a io = (btStackAdvertisingStart held io).1 := by
          have hset : (fpAdvPayloadSet held io).1 = held := by
            rw [payload_called, hrc, called_zero]
          calc fpAdvertisingUpdate a io
              = (btStackAdvertisingStart (fpAdvPayloadSet held io).1 io).1 :=
                congrArg Prod.fst ((if_neg hmode).trans (if_neg (not_not.mpr hrc)))
            _ = (btStackAdvertisingStart held io).1 := by rw [hset]
        rw [hrun]
        exact start_asks held io
      · have hrun : fpAdvertisingUpdate a io = (fpAdvPayloadSet held io).1 :=
          congrArg Prod.fst ((if_neg hmode).trans (if_pos hrc))
        rw [hrun, payload_called]
        exact called_failed true held hrc
  obtain ⟨active, calls, heq, hcalls⟩ := hasks
  refine ⟨active, calls, heq, ?_⟩
  intro hc
  obtain ⟨hbefore, hactive⟩ := hcalls hc
  exact ⟨hbefore, by simp [hactive]⟩

/-- A change of mode either leaves the flag alone, which is right under a link or when the
mode is the old one, or updates the set. -/
theorem modeSet_spec (a : FpAdv) (m : Mode) (io : StackIo) :
    ((m = a.fp_adv_mode ∨ a.fp_conn ≠ none) ∧ fpAdvModeSet a m io = { a with fp_adv_mode := m }) ∨
      a.fp_conn = none ∧ ∃ active calls,
        fpAdvModeSet a m io =
          { a with fp_adv_mode := m, fp_adv_set_active := active, calls_succeeded := calls } ∧
        (calls = true → a.calls_succeeded = true ∧ (active = true ↔ m ≠ .OFF)) := by
  unfold fpAdvModeSet
  by_cases hm : a.fp_adv_mode = m
  · subst hm
    exact Or.inl ⟨Or.inl rfl, if_pos rfl⟩
  · rw [if_neg hm]
    by_cases hconn : a.fp_conn = none
    · obtain ⟨active, calls, heq, hcalls⟩ := update_spec { a with fp_adv_mode := m } io
      refine Or.inr ⟨hconn, active, calls, ?_, hcalls⟩
      show (if a.fp_conn = none then _ else _) = _
      rw [if_pos hconn, heq]
      simp [hconn]
    · exact Or.inl ⟨Or.inr hconn, if_neg hconn⟩

/-- What a change of mode leaves alone. -/
theorem modeSet_frame (a : FpAdv) (m : Mode) (io : StackIo) :
    ∃ active calls, fpAdvModeSet a m io =
      { a with fp_adv_mode := m, fp_adv_set_active := active, calls_succeeded := calls } := by
  rcases modeSet_spec a m io with ⟨_, heq⟩ | ⟨_, active, calls, heq, _⟩
  · exact ⟨_, _, heq⟩
  · exact ⟨active, calls, heq⟩

/-- After it the mode is the one that the triggers ask for. -/
theorem modeUpdate_frame (a : FpAdv) (io : StackIo) :
    ∃ active calls, fpAdvModeUpdate a io =
      { a with
        fp_adv_mode := requestedMode a
        fp_adv_set_active := active
        calls_succeeded := calls } := by
  unfold fpAdvModeUpdate
  split
  · exact modeSet_frame a (requestedMode a) io
  · rename_i hsame
    rw [not_not] at hsame
    rw [hsame]
    exact ⟨_, _, rfl⟩

/-- A request that changes nothing ends at once; else the bit is written, and an enabled
module computes its mode. -/
theorem request_cases (a : FpAdv) (trigger : Trigger) (enable : Bool) (io : StackIo) :
    let b := { a with
      fp_adv_request_bm := writeBit a.fp_adv_request_bm (fpAdvTriggerIdxGet trigger) enable }
    isRequested a trigger = enable ∧ appFpAdvRequest a trigger enable io = a ∨
      isRequested a trigger ≠ enable ∧
        (a.is_enabled = false ∧ appFpAdvRequest a trigger enable io = b ∨
          a.is_enabled = true ∧ appFpAdvRequest a trigger enable io = fpAdvModeUpdate b io) := by
  unfold appFpAdvRequest
  by_cases hsame : isRequested a trigger = enable
  · exact Or.inl ⟨hsame, if_pos hsame⟩
  · refine Or.inr ⟨hsame, ?_⟩
    rw [if_neg hsame]
    cases henabled : a.is_enabled with
    | false => exact Or.inl ⟨rfl, by simp⟩
    | true => exact Or.inr ⟨rfl, by simp⟩

theorem request_enabled (a : FpAdv) (t : Trigger) (enable : Bool) (io : StackIo) :
    (appFpAdvRequest a t enable io).is_enabled = a.is_enabled := by
  rcases request_cases a t enable io with ⟨_, heq⟩ | ⟨_, ⟨_, heq⟩ | ⟨_, heq⟩⟩
  · rw [heq]
  · rw [heq]
  · obtain ⟨active, calls, hupdate⟩ := modeUpdate_frame { a with
      fp_adv_request_bm := writeBit a.fp_adv_request_bm (fpAdvTriggerIdxGet t) enable } io
    rw [heq, hupdate]

/-- Only the advertising set and the mark of a failed call differ. -/
def OnlySet (a b : FpAdv) : Prop :=
  ∃ set calls, b = { a with fp_adv_set := set, calls_succeeded := calls } ∧
    (calls = true → a.calls_succeeded = true)

theorem OnlySet.refl (a : FpAdv) : OnlySet a a := ⟨_, _, rfl, id⟩

theorem OnlySet.trans {a b c : FpAdv} (h : OnlySet a b) (k : OnlySet b c) : OnlySet a c := by
  obtain ⟨set, calls, rfl, hcalls⟩ := h
  obtain ⟨set', calls', rfl, hcalls'⟩ := k
  exact ⟨set', calls', rfl, fun hc => hcalls (hcalls' hc)⟩

theorem called_onlySet (a : FpAdv) (rc : Int) : OnlySet a (called a rc) := by
  refine ⟨_, _, rfl, ?_⟩
  intro h
  simp only [Bool.and_eq_true] at h
  exact h.1

theorem setup_onlySet (a : FpAdv) (io : StackIo) : OnlySet a (fpAdvSetSetup a io).1 := by
  unfold fpAdvSetSetup
  simp only
  split
  · exact called_onlySet a _
  · exact ⟨_, _, rfl, id⟩

theorem teardown_onlySet (a : FpAdv) (io : StackIo) : OnlySet a (fpAdvSetTeardown a io).1 := by
  unfold fpAdvSetTeardown
  split
  · exact called_onlySet a _
  · exact ⟨_, _, rfl, id⟩

theorem connClear_onlySet (a : FpAdv) (io : StackIo) : OnlySet a (fpAdvConnClear a io) := by
  unfold fpAdvConnClear
  split
  · exact .refl a
  · exact called_onlySet a _

theorem rpaExpired_onlySet (a : FpAdv) (io : RpaIo) : OnlySet a (fpAdvRpaExpired a io).1 := by
  have hpayload : ∀ b : FpAdv, OnlySet b (fpAdvPayloadSet b io.payload).1 := fun b =>
    called_onlySet b _
  unfold fpAdvRpaExpired
  simp only
  split_ifs
  · exact (called_onlySet a _).trans (hpayload _)
  · exact called_onlySet a _
  · exact hpayload a
  · exact .refl a

/-- The module is up already, or it reads what is stored and then fails, or switches on. -/
theorem enable_cases (a : FpAdv) (stored : Stored) (io : StackIo) :
    a.is_enabled = true ∧ appFpAdvEnable a stored io = (a, 0) ∨
      a.is_enabled = false ∧ ∃ b,
        OnlySet { a with
          fp_account_key_present := stored.has_account_key
          fmdn_provisioned := stored.is_provisioned } b ∧
        ((appFpAdvEnable a stored io).1 = b ∧ (appFpAdvEnable a stored io).2 ≠ 0 ∨
          appFpAdvEnable a stored io = ({ fpAdvModeUpdate b io with is_enabled := true }, 0)) := by
  have hsetup := setup_onlySet { a with
    fp_account_key_present := stored.has_account_key
    fmdn_provisioned := stored.is_provisioned } io
  unfold appFpAdvEnable
  by_cases henabled : a.is_enabled = true
  · exact Or.inl ⟨henabled, if_pos henabled⟩
  · refine Or.inr ⟨by simpa using henabled, ?_⟩
    simp only [if_neg henabled]
    split
    · rename_i hcreate
      exact ⟨_, hsetup, Or.inl ⟨rfl, hcreate⟩⟩
    · split
      · have hrotate := hsetup.trans (called_onlySet _ io.oobRc)
        split
        · rename_i hoob
          exact ⟨_, hrotate.trans (teardown_onlySet _ io), Or.inl ⟨rfl, hoob⟩⟩
        · exact ⟨_, hrotate, Or.inr rfl⟩
      · split
        · rename_i hzero
          exact absurd rfl hzero
        · exact ⟨_, hsetup, Or.inr rfl⟩

theorem enable_failed {a : FpAdv} {stored : Stored} {io : StackIo}
    (herr : (appFpAdvEnable a stored io).2 ≠ 0) :
    (appFpAdvEnable a stored io).1.is_enabled = false := by
  rcases enable_cases a stored io with ⟨_, heq⟩ | ⟨hoff, b, hb, ⟨heq, _⟩ | heq⟩
  · rw [heq] at herr
    exact absurd rfl herr
  · obtain ⟨set, calls, rfl, _⟩ := hb
    rw [heq]
    exact hoff
  · rw [heq] at herr
    exact absurd rfl herr

/-- The module was down, or it goes down whatever fails: off, and then without its set. -/
theorem disable_cases (a : FpAdv) (io : StackIo) :
    a.is_enabled = false ∧ (appFpAdvDisable a io).1 = a ∨
      a.is_enabled = true ∧
        OnlySet (fpAdvModeSet (fpAdvRpaSuspensionCancel { a with is_enabled := false }) .OFF io)
          (appFpAdvDisable a io).1 := by
  unfold appFpAdvDisable
  simp only
  split
  · rename_i hoff
    exact Or.inl ⟨hoff, rfl⟩
  · rename_i hon
    exact Or.inr ⟨by simpa using hon, (connClear_onlySet _ io).trans (teardown_onlySet _ io)⟩

/-- What a disabled module looks like. -/
theorem disable_frame (a : FpAdv) (io : StackIo) :
    (appFpAdvDisable a io).1.is_enabled = false ∧
      (appFpAdvDisable a io).1.fp_adv_request_bm = a.fp_adv_request_bm := by
  rcases disable_cases a io with ⟨hoff, heq⟩ | ⟨_, set, calls, heq, _⟩
  · rw [heq]
    exact ⟨hoff, rfl⟩
  · obtain ⟨active, done, hmode⟩ := modeSet_frame
      (fpAdvRpaSuspensionCancel { a with is_enabled := false }) .OFF io
    rw [heq, hmode]
    exact ⟨rfl, rfl⟩

end smart_track.fp_adv
