-- The button and the status bits of the UI (`ui/platform_SBT.c`, `ui/common.c`), with the
-- modules that listen to its requests: `main.c`, `dfu.c`, `ring.c` and `factory_reset.c`. A
-- run goes from one boot to the next restart.
import SmartTrack.ButtonRequests
import SmartTrack.Gate
import SmartTrack.Ringing

open smart_track.zephyr
open smart_track.ui (Ui AppUiState appUiStateChangeIndicate appUiSpeakerOn appUiSpeakerOff)
open smart_track.gate (Gate UiRequest)
open smart_track.ring (Ring)
open smart_track.locator (Locator)

namespace smart_track.panel

def SPEAKER_BEEP_SHORT_ON_MS : Nat := 100
def SPEAKER_BEEP_SHORT_OFF_MS : Nat := 500
def SPEAKER_BEEP_MID_ON_MS : Nat := 250
def SPEAKER_BEEP_MID_OFF_MS : Nat := 500

def BTN_NOOP_FIRST_START_MS : Nat := 0
def BTN_FP_ADV_MODE_CHANGE_START_MS : Nat := 1000
def BTN_NOOP_SECOND_START_MS : Nat := 3000
def BTN_FMDN_ADV_DIS_ENB_START_MS : Nat := 10000
def BTN_NOOP_THIRD_START_MS : Nat := 15000
def BTN_ID_MODE_ENTER_START_MS : Nat := 20000
def BTN_NOOP_FOURTH_START_MS : Nat := 25000
def BTN_RECOVERY_MODE_ENTER_START_MS : Nat := 30000
def BTN_NOOP_FIFTH_START_MS : Nat := 35000
def BTN_DFU_MODE_ENTER_START_MS : Nat := 40000
def BTN_FACT_RESET_MODE_ENTER_START_MS : Nat := 50000
def BTN_NOOP_LAST_START_MS : Nat := 55000

/-! ## The listeners of a request -/

/-- The static variables of `btn_handle` and of the counting work, over the modules that listen.
The UI is that of `ring`. -/
structure Panel where
  locator : Locator
  gate : Gate := {}
  ring : Ring := {}
  prev_uptime : Int := 0
  btn_press_beep_work : Delayable := none

/-- What the listeners meet: the codes of `bt_fast_pair_fmdn_read_mode_enter` and of
`bt_fast_pair_fmdn_ring_state_update`, and those of the advertising. -/
structure UiIo where
  readModeRc : Int
  ringRc : Int
  stack : fp_adv.StackIo
  toggle : locator.ToggleIo

/-- The status bits that a call of the UI sets. -/
def indicate (u : Ui) (calls : List (AppUiState × Bool)) : Ui :=
  calls.foldl (fun u call => appUiStateChangeIndicate u call.1 call.2) u

def withCalls (p : Panel) (calls : List (AppUiState × Bool)) : Panel :=
  { p with ring := { p.ring with ui := indicate p.ring.ui calls } }

/-- The calls of `app_ui_state_change_indicate` that `dfu_mode_change` makes. -/
def dfuModeChangeCalls (g : Gate) (new_mode : Bool) : List (AppUiState × Bool) :=
  if g.dfu.dfu_mode = new_mode then [] else [(.DFU_MODE, new_mode)]

/-- The calls that entering a mode of the FMDN module makes. -/
def readModeCalls (g : Gate) (state : AppUiState) (rc : Int) : List (AppUiState × Bool) :=
  if g.fmdn_provisioned = false then [] else if rc ≠ 0 then [] else [(state, true)]

/-- The calls that the two listeners behind the gate make. -/
def requestCalls (g : Gate) (request : UiRequest) (rc : Int) : List (AppUiState × Bool) :=
  match request with
  | .RECOVERY_MODE_ENTER => readModeCalls g .RECOVERY_MODE rc
  | .ID_MODE_ENTER => readModeCalls g .ID_MODE rc
  | .DFU_MODE_ENTER => dfuModeChangeCalls g true
  | _ => []

def ringRequestHandle (r : Ring) (request : UiRequest) (rc : Int) : Ring :=
  if request = .RINGING_STOP then ring.ringRequestHandle r rc else r

/-- What `main.c` and `factory_reset.c` make of a request on the side of the locator. -/
def locatorRequestHandle (l : Locator) (request : UiRequest) (io : UiIo) : Locator :=
  match request with
  | .FMDN_ADV_MODE_CHANGE => locator.fmdnAdvtModeChangeHandle l io.toggle
  | .FP_ADV_MODE_CHANGE => locator.fpAdvModeChange l io.stack
  | .FACTORY_RESET => locator.factoryResetRequestHandle l
  | _ => l

/-- `app_ui_request_broadcast`: every listener gets the request. -/
def appUiRequestBroadcast (p : Panel) (request : UiRequest) (io : UiIo) : Panel :=
  let calls := requestCalls p.gate request io.readModeRc
  let p := { p with
    gate := gate.next p.gate (.uiRequest request io.readModeRc)
    locator := locatorRequestHandle p.locator request io }
  let p := withCalls p calls
  { p with ring := ringRequestHandle p.ring request io.ringRc }

/-- No request is `APP_UI_REQUEST_COUNT`. -/
def broadcast (p : Panel) (request : Option UiRequest) (io : UiIo) : Panel :=
  match request with
  | some request => appUiRequestBroadcast p request io
  | none => p

/-! ## The button -/

/-- The beeps leave the speaker off. With them the time that they take. -/
def speakerBeepPlay (u : Ui) (on_ms off_ms : Nat) : Nat → Ui × Nat
  | 0 => (u, 0)
  | cnt + 1 =>
    let (u, ms) := speakerBeepPlay (appUiSpeakerOff (appUiSpeakerOn u)) on_ms off_ms cnt
    (u, on_ms + off_ms + ms)

/-- The number of beeps, and the request, that a button held for so long gets on its release. -/
def releaseAction (hold_time : Int) : Option (Nat × UiRequest) :=
  if BTN_FP_ADV_MODE_CHANGE_START_MS < hold_time ∧ hold_time < BTN_NOOP_SECOND_START_MS then
    some (1, .FP_ADV_MODE_CHANGE)
  else if BTN_FMDN_ADV_DIS_ENB_START_MS < hold_time ∧ hold_time < BTN_NOOP_THIRD_START_MS then
    some (2, .FMDN_ADV_MODE_CHANGE)
  else if BTN_ID_MODE_ENTER_START_MS < hold_time ∧ hold_time < BTN_NOOP_FOURTH_START_MS then
    some (3, .ID_MODE_ENTER)
  else if BTN_FACT_RESET_MODE_ENTER_START_MS < hold_time ∧ hold_time < BTN_NOOP_LAST_START_MS then
    some (6, .FACTORY_RESET)
  else
    none

/-- The request that `btn_handle` broadcasts. -/
def btnRequest (p : Panel) (button_state has_changed : Bool) (uptime : Int) : Option UiRequest :=
  if has_changed = false then
    none
  else if button_state then
    if p.ring.ui.ui_state_status .RINGING then some .RINGING_STOP else none
  else if p.prev_uptime ≠ 0 then
    (releaseAction (uptime - p.prev_uptime)).map Prod.snd
  else
    none

/-- The beeps of a release come before its request. -/
def releaseBeeps (p : Panel) (uptime : Int) : Nat :=
  if p.prev_uptime ≠ 0 then
    ((releaseAction (uptime - p.prev_uptime)).map Prod.fst).getD 0
  else
    0

/-- `uptime` is what `k_uptime_get` gives. -/
def btnHandle (p : Panel) (button_state has_changed : Bool) (uptime : Int) (io : UiIo) : Panel :=
  let request := btnRequest p button_state has_changed uptime
  if has_changed = false then
    p
  else if button_state then
    broadcast { p with prev_uptime := uptime } request io
  else
    let (u, _) := speakerBeepPlay p.ring.ui SPEAKER_BEEP_SHORT_ON_MS SPEAKER_BEEP_SHORT_OFF_MS
      (releaseBeeps p uptime)
    let p := broadcast { p with ring := { p.ring with ui := u } } request io
    { p with
      prev_uptime := 0
      ring := { p.ring with ui := { p.ring.ui with btn_idx := -1 } } }

/-! ## The count of the thresholds

The call that starts it in `btn_handle` is commented out. -/

/-- `struct btn_release`, with the two numbers of its beep that play it. -/
structure BtnRelease where
  request : Option UiRequest
  start_ms : Nat
  cnt : Nat
  on_ms : Nat := SPEAKER_BEEP_SHORT_ON_MS
  off_ms : Nat := SPEAKER_BEEP_SHORT_OFF_MS

def btn_release_actions : List BtnRelease :=
  [ { request := none, start_ms := BTN_NOOP_FIRST_START_MS, cnt := 0 },
    { request := some .FP_ADV_MODE_CHANGE, start_ms := BTN_FP_ADV_MODE_CHANGE_START_MS, cnt := 1 },
    { request := none, start_ms := BTN_NOOP_SECOND_START_MS, cnt := 0 },
    { request := some .ID_MODE_ENTER, start_ms := BTN_ID_MODE_ENTER_START_MS, cnt := 2 },
    { request := none, start_ms := BTN_NOOP_THIRD_START_MS, cnt := 0 },
    { request := some .RECOVERY_MODE_ENTER, start_ms := BTN_RECOVERY_MODE_ENTER_START_MS,
      cnt := 3 },
    { request := none, start_ms := BTN_NOOP_FOURTH_START_MS, cnt := 0 },
    { request := some .DFU_MODE_ENTER, start_ms := BTN_DFU_MODE_ENTER_START_MS, cnt := 4 },
    { request := none, start_ms := BTN_NOOP_FIFTH_START_MS, cnt := 0 },
    { request := some .FACTORY_RESET, start_ms := BTN_FACT_RESET_MODE_ENTER_START_MS, cnt := 5 },
    { request := none, start_ms := BTN_NOOP_LAST_START_MS, cnt := 1,
      on_ms := SPEAKER_BEEP_MID_ON_MS, off_ms := SPEAKER_BEEP_MID_OFF_MS } ]

/-- The difference wraps around where the assertion does not hold. -/
def btnWorkTimeoutGet (idx : Nat) : Nat :=
  match btn_release_actions[idx]?, btn_release_actions[idx - 1]? with
  | some action, some before =>
    if idx = 0 then action.start_ms else (action.start_ms + 2 ^ 32 - before.start_ms) % 2 ^ 32
  | _, _ => 0

def btnPressBeepWorkHandle (p : Panel) : Panel :=
  let idx := p.ring.ui.btn_idx + 1
  let u := { p.ring.ui with btn_idx := idx }
  let u :=
    match btn_release_actions[idx.toNat]? with
    | some action =>
      if idx = 1 then (speakerBeepPlay u action.on_ms action.off_ms action.cnt).1 else u
    | none => u
  { p with
    ring := { p.ring with ui := u }
    btn_press_beep_work :=
      if idx ≥ btn_release_actions.length - 1 then none
      else kWorkReschedule none (btnWorkTimeoutGet (idx + 1).toNat) }

def cancelRingingWorkHandle (p : Panel) (io : UiIo) : Panel :=
  let p := { p with ring := { p.ring with ui := { p.ring.ui with cancel_ringing_work := none } } }
  if p.ring.ui.ui_state_status .RINGING then appUiRequestBroadcast p .RINGING_STOP io else p

/-! ## The runs -/

/-- `button_state` and `has_changed` are the bits of the one button. -/
inductive Event
  | button (button_state has_changed : Bool) (uptime : Int) (io : UiIo)
  | btnPressBeepWork
  | cancelRingingWork (io : UiIo)
  | appRunning
  | gate (e : gate.Event)
  | ring (e : ring.Event)
  | locator (e : locator.Event)
  | provisioningStateChanged (provisioned : Bool) (io : locator.ProvisioningIo) (ringRc : Int)

/-- The calls of `app_ui_state_change_indicate` behind the gate. -/
def gateCalls (g : Gate) : gate.Event → List (AppUiState × Bool)
  | .uiRequest request rc => requestCalls g request rc
  | .readModeExited .FMDN_RECOVERY => [(.RECOVERY_MODE, false)]
  | .readModeExited .DULT_ID => [(.ID_MODE, false)]
  | .dfuEnterCustom => dfuModeChangeCalls g true
  | .dfuTimeoutWork => dfuModeChangeCalls g false
  | .factoryResetPrepare => dfuModeChangeCalls g false
  | .provisioningStateSet provisioned =>
    if g.fmdn_provisioned = provisioned then [] else [(.PROVISIONED, provisioned)]
  | _ => []

def gateStep (p : Panel) (e : gate.Event) : Panel :=
  withCalls { p with gate := gate.next p.gate e } (gateCalls p.gate e)

/-- A boot without a button pressed meanwhile. -/
def boot (stored : fp_adv.Stored) (io : locator.BootIo) : Panel :=
  let l := locator.boot stored io
  gateStep { locator := l } (.provisioningStateSet l.main.fmdn_provisioned)

/-- The provisioning changes: the callbacks of `fp_adv.c`, `main.c` and `ring.c` run. -/
def provisioningStateChanged (p : Panel) (provisioned : Bool) (io : locator.ProvisioningIo)
    (ringRc : Int) : Panel :=
  let p := gateStep { p with locator := locator.provisioningStateChanged p.locator provisioned io }
    (.provisioningStateSet provisioned)
  { p with ring := ring.ringProvisioningStateChanged p.ring provisioned ringRc }

def next (p : Panel) : Event → Panel
  | .button button_state has_changed uptime io => btnHandle p button_state has_changed uptime io
  | .btnPressBeepWork => btnPressBeepWorkHandle p
  | .cancelRingingWork io => cancelRingingWorkHandle p io
  | .appRunning => withCalls p [(.APP_RUNNING, true)]
  | .gate e => gateStep p e
  | .ring e => { p with ring := ring.next p.ring e }
  | .locator e => { p with locator := locator.next p.locator e }
  | .provisioningStateChanged provisioned io rc => provisioningStateChanged p provisioned io rc

/-- The requests of the user and the changes of the provisioning reach the modules together, and
a run ends with a factory reset or a restart. -/
def OwnGate : gate.Event → Prop
  | .uiRequest _ _ => False
  | .provisioningStateSet _ => False
  | .factoryResetPrepare => False
  | .reboot => False
  | _ => True

def OwnRing : ring.Event → Prop
  | .uiStop _ => False
  | .provisioningStateChanged _ _ => False
  | _ => True

def OwnLocator : locator.Event → Prop
  | .provisioningStateChanged _ _ => False
  | .fpAdvModeChange _ => False
  | .fmdnAdvModeChange _ => False
  | .factoryResetRequest => False
  | .factoryResetWork _ => False
  | .reboot _ => False
  | _ => True

/-- A work item only runs while it is pending. -/
def Due (p : Panel) : Event → Prop
  | .btnPressBeepWork => p.btn_press_beep_work ≠ none
  | .cancelRingingWork _ => p.ring.ui.cancel_ringing_work ≠ none
  | .gate e => OwnGate e ∧ gate.Allowed p.gate e
  | .ring e => OwnRing e ∧ ring.Allowed p.ring e
  | .locator e => OwnLocator e ∧ locator.Allowed p.locator e
  | .provisioningStateChanged provisioned io _ =>
    locator.Allowed p.locator (.provisioningStateChanged provisioned io)
  | _ => True

/-- Nothing runs in `k_panic`. -/
def Allowed (p : Panel) (e : Event) : Prop := p.locator.halted = false ∧ Due p e

def system : runs.System Panel Event where
  start p := ∃ stored io, p = boot stored io
  allowed := Allowed
  next := next

/-! ## The status bits -/

/-- The flag that a status bit stands for. `ring.c` has the flag of RINGING, `fp_adv.c` that of
FP_ADV, and no module has one for the others. -/
def flagOf (g : Gate) : AppUiState → Option Bool
  | .PROVISIONED => some g.fmdn_provisioned
  | .ID_MODE => some g.fmdn_id_mode
  | .RECOVERY_MODE => some g.fmdn_recovery_mode
  | .DFU_MODE => some g.dfu.dfu_mode
  | _ => none

/-- Each bit is the flag that it stands for. -/
def BitsAgree (g : Gate) (u : Ui) : Prop :=
  ∀ state flag, flagOf g state = some flag → u.ui_state_status state = flag

/-- What the counting of the thresholds would leave behind. -/
structure Uncounted (p : Panel) : Prop where
  idx : p.ring.ui.btn_idx = -1
  beep : p.btn_press_beep_work = none
  cancel : p.ring.ui.cancel_ringing_work = none

/-! ## What a call of the UI changes -/

theorem indicate_other {u : Ui} {state : AppUiState} (active : Bool) (h : state ≠ .RINGING) :
    appUiStateChangeIndicate u state active =
      { u with ui_state_status := Function.update u.ui_state_status state active } := by
  unfold appUiStateChangeIndicate
  rw [if_neg h]

/-- Calls that do not ring only set their bits. -/
theorem indicate_eq (u : Ui) {calls : List (AppUiState × Bool)}
    (h : ∀ call ∈ calls, call.1 ≠ .RINGING) :
    ∃ status, indicate u calls = { u with ui_state_status := status } ∧
      status .RINGING = u.ui_state_status .RINGING := by
  induction calls generalizing u with
  | nil => exact ⟨_, rfl, rfl⟩
  | cons call calls ih =>
    have hcall : call.1 ≠ .RINGING := h call List.mem_cons_self
    obtain ⟨status, heq, hring⟩ := ih (appUiStateChangeIndicate u call.1 call.2)
      (fun c hc => h c (List.mem_cons_of_mem call hc))
    rw [ui.indicate_status, Function.update_of_ne hcall.symm] at hring
    rw [indicate_other call.2 hcall] at heq
    refine ⟨status, ?_, hring⟩
    show indicate (appUiStateChangeIndicate u call.1 call.2) calls = _
    rw [indicate_other call.2 hcall, heq]

/-- No call of these modules rings. -/
theorem requestCalls_quiet (g : Gate) (request : UiRequest) (rc : Int) :
    ∀ call ∈ requestCalls g request rc, call.1 ≠ .RINGING := by
  cases request with
  | RECOVERY_MODE_ENTER | ID_MODE_ENTER =>
    simp only [requestCalls, readModeCalls]
    split_ifs <;> simp
  | DFU_MODE_ENTER =>
    simp only [requestCalls, dfuModeChangeCalls]
    split_ifs <;> simp
  | _ => simp [requestCalls]

theorem gateCalls_quiet (g : Gate) (e : gate.Event) :
    ∀ call ∈ gateCalls g e, call.1 ≠ .RINGING := by
  cases e with
  | uiRequest request rc => exact requestCalls_quiet g request rc
  | readModeExited mode => cases mode <;> simp [gateCalls]
  | provisioningStateSet provisioned =>
    unfold gateCalls
    simp only
    split_ifs <;> simp
  | dfuEnterCustom | dfuTimeoutWork | factoryResetPrepare =>
    unfold gateCalls dfuModeChangeCalls
    simp only
    split_ifs <;> simp
  | _ => simp [gateCalls]

/-! ## The bits after one step -/

theorem BitsAgree.congr {g g' : Gate} {u u' : Ui} (h : BitsAgree g u)
    (hflags : ∀ state, flagOf g' state = flagOf g state)
    (hbits : ∀ state ≠ .RINGING, u'.ui_state_status state = u.ui_state_status state) :
    BitsAgree g' u' := by
  intro state flag hflag
  rw [hbits]
  · exact h state flag ((hflags state).symm.trans hflag)
  · rintro rfl
    cases hflag

/-- A call that sets the bit of the one flag that changes. -/
theorem BitsAgree.set {g g' : Gate} {u : Ui} {state : AppUiState} {flag : Bool}
    (h : BitsAgree g u) (hset : flagOf g' state = some flag)
    (hothers : ∀ other ≠ state, flagOf g' other = flagOf g other) :
    BitsAgree g' (indicate u [(state, flag)]) := by
  intro other value hvalue
  show (appUiStateChangeIndicate u state flag).ui_state_status other = value
  rw [ui.indicate_status]
  by_cases hsame : other = state
  · subst hsame
    rw [Function.update_self]
    exact Option.some.inj (hset.symm.trans hvalue)
  · rw [Function.update_of_ne hsame]
    exact h other value ((hothers other hsame).symm.trans hvalue)

/-- A call that sets a bit without a flag. -/
theorem BitsAgree.unflagged {g : Gate} {u : Ui} {state : AppUiState} (active : Bool)
    (h : BitsAgree g u) (hnone : flagOf g state = none) :
    BitsAgree g (indicate u [(state, active)]) := by
  intro other value hvalue
  show (appUiStateChangeIndicate u state active).ui_state_status other = value
  rw [ui.indicate_status, Function.update_of_ne]
  · exact h other value hvalue
  · rintro rfl
    cases hnone.symm.trans hvalue

theorem dfu_bits {g g' : Gate} {u : Ui} {new_mode : Bool} (h : BitsAgree g u)
    (hmode : g'.dfu.dfu_mode = new_mode)
    (hothers : ∀ other ≠ .DFU_MODE, flagOf g' other = flagOf g other) :
    BitsAgree g' (indicate u (dfuModeChangeCalls g new_mode)) := by
  have hset : flagOf g' .DFU_MODE = some new_mode := congrArg some hmode
  unfold dfuModeChangeCalls
  split
  · rename_i hsame
    refine h.congr (fun state => ?_) (fun _ _ => rfl)
    by_cases hstate : state = .DFU_MODE
    · subst hstate
      exact hset.trans (congrArg some hsame.symm)
    · exact hothers state hstate
  · exact h.set hset hothers

theorem request_bits {g : Gate} {u : Ui} (request : UiRequest) (rc : Int) (h : BitsAgree g u) :
    BitsAgree (gate.next g (.uiRequest request rc)) (indicate u (requestCalls g request rc)) := by
  cases request with
  | RECOVERY_MODE_ENTER =>
    show BitsAgree (gate.fmdnRecoveryModeActionHandle g rc)
      (indicate u (readModeCalls g .RECOVERY_MODE rc))
    unfold gate.fmdnRecoveryModeActionHandle readModeCalls
    split_ifs
    · exact h
    · exact h
    · exact h.set rfl (fun other hother => by cases other <;> first | rfl | contradiction)
  | ID_MODE_ENTER =>
    show BitsAgree (gate.fmdnIdModeActionHandle g rc) (indicate u (readModeCalls g .ID_MODE rc))
    unfold gate.fmdnIdModeActionHandle readModeCalls
    split_ifs
    · exact h
    · exact h
    · exact h.set rfl (fun other hother => by cases other <;> first | rfl | contradiction)
  | DFU_MODE_ENTER =>
    exact dfu_bits h rfl (fun other hother => by cases other <;> first | rfl | contradiction)
  | _ => exact h

/-- Behind the gate the bits follow the flags. -/
theorem gate_bits {g : Gate} {u : Ui} (e : gate.Event) (hown : OwnGate e ∨
      ∃ provisioned, e = .provisioningStateSet provisioned) (h : BitsAgree g u) :
    BitsAgree (gate.next g e) (indicate u (gateCalls g e)) := by
  have hkept : ∀ g' : Gate, (∀ state, flagOf g' state = flagOf g state) → BitsAgree g' u :=
    fun g' hflags => h.congr hflags (fun _ _ => rfl)
  cases e with
  | connected conn err =>
    apply hkept
    intro state
    simp only [gate.next]
    split <;> rfl
  | securityChanged conn level err =>
    apply hkept
    intro state
    simp only [gate.next, gate.securityChanged]
    split <;> rfl
  | gattAccess conn uuid =>
    apply hkept
    intro state
    simp only [gate.next, gate.gattAuthorize, gate.appDfuBtGattOperationAllow]
    split_ifs <;> rfl
  | readModeExited mode =>
    cases mode
    all_goals
      exact h.set rfl
        (fun other hother => by cases other <;> first | rfl | contradiction)
  | dfuEnterCustom | dfuTimeoutWork =>
    exact dfu_bits h rfl (fun other hother => by cases other <;> first | rfl | contradiction)
  | provisioningStateSet provisioned =>
    simp only [gateCalls]
    split
    · rename_i hsame
      apply hkept
      intro state
      cases state <;> first | rfl | exact congrArg some hsame.symm
    · exact h.set rfl
        (fun other hother => by cases other <;> first | rfl | contradiction)
  | uiRequest request rc => exact request_bits request rc h
  | factoryResetPrepare | reboot => rcases hown with hown | ⟨_, hset⟩ <;> contradiction
  | _ => exact hkept _ (fun state => by cases state <;> rfl)

/-! ## The invariant -/

structure Sound (p : Panel) : Prop where
  uncounted : Uncounted p
  bits : BitsAgree p.gate p.ring.ui
  flag : p.gate.fmdn_provisioned = p.locator.main.fmdn_provisioned
  sounds : ring.Sounds p.ring

/-- What a ring and the buzzer leave alone while no threshold is counted. -/
structure SameUser (u v : Ui) : Prop where
  idx : v.btn_idx = u.btn_idx
  cancel : u.btn_idx = -1 → v.cancel_ringing_work = u.cancel_ringing_work
  bits : ∀ state ≠ .RINGING, v.ui_state_status state = u.ui_state_status state

theorem SameUser.refl (u : Ui) : SameUser u u := ⟨rfl, fun _ => rfl, fun _ _ => rfl⟩

theorem update_user (r : Ring) (param : ring.RingStateParam) (rc : Int) :
    SameUser r.ui (ring.ringStateUpdate r param rc).ui := by
  by_cases hrc : rc = 0
  · subst hrc
    rw [ring.update_accepted]
    refine ⟨(ui.indicate_beep_state _ _ _).2, ?_, ?_⟩
    · intro hidx
      unfold appUiStateChangeIndicate
      simp only [hidx, ne_eq, not_true_eq_false, and_false, if_false]
      split_ifs <;> rfl
    · intro state hstate
      rw [ui.indicate_status, Function.update_of_ne hstate]
  · rw [ring.update_rejected param hrc]
    exact SameUser.refl r.ui

theorem ring_user (r : Ring) (e : ring.Event) : SameUser r.ui (ring.next r e).ui := by
  cases e with
  | startRequest src ring_param rc => exact update_user { r with fmdn_ring_src := src } _ rc
  | stopRequest src rc => exact update_user { r with fmdn_ring_src := src } _ rc
  | timeoutExpired src rc => exact update_user r _ rc
  | uiStop rc =>
    rw [ring.next, ring.ringRequestHandle]
    split
    · exact SameUser.refl r.ui
    · exact update_user r _ rc
  | provisioningStateChanged provisioned rc =>
    rw [ring.next, ring.ringProvisioningStateChanged]
    split
    · exact update_user r _ rc
    · exact SameUser.refl r.ui
  | beepWork =>
    rw [ring.next, ui.buzzerBeepHandle_eq]
    exact ⟨rfl, fun _ => rfl, fun _ _ => rfl⟩

theorem sound_ring {p : Panel} (e : ring.Event) (h : Sound p) (ha : ring.Allowed p.ring e) :
    Sound { p with ring := ring.next p.ring e } := by
  obtain ⟨hidx, hcancel, hbits⟩ := ring_user p.ring e
  refine ⟨⟨hidx.trans h.uncounted.idx, h.uncounted.beep, ?_⟩, ?_, h.flag, ?_⟩
  · exact (hcancel h.uncounted.idx).trans h.uncounted.cancel
  · exact h.bits.congr (fun _ => rfl) hbits
  · exact ring.sounds_next p.ring e h.sounds ha

theorem Sounds_of_status {r : Ring} {status : AppUiState → Bool} (h : ring.Sounds r)
    (hring : status .RINGING = r.ui.ui_state_status .RINGING) :
    ring.Sounds { r with ui := { r.ui with ui_state_status := status } } := by
  refine ⟨h.mask, hring.trans h.bit, ?_⟩
  intro hoff
  exact h.silent (hring.symm.trans hoff)

theorem sound_calls {p : Panel} {g : Gate} {l : Locator} {calls : List (AppUiState × Bool)}
    (h : Sound p) (hquiet : ∀ call ∈ calls, call.1 ≠ .RINGING)
    (hbits : BitsAgree g (indicate p.ring.ui calls))
    (hflag : g.fmdn_provisioned = l.main.fmdn_provisioned) :
    Sound (withCalls { p with gate := g, locator := l } calls) := by
  obtain ⟨status, heq, hring⟩ := indicate_eq p.ring.ui hquiet
  unfold withCalls
  refine ⟨⟨?_, h.uncounted.beep, ?_⟩, hbits, hflag, ?_⟩
  · simp only [heq, h.uncounted.idx]
  · simp only [heq, h.uncounted.cancel]
  · simp only [heq]
    exact Sounds_of_status h.sounds hring

/-! ## The listeners -/

theorem locatorRequest_provisioned (l : Locator) (request : UiRequest) (io : UiIo) :
    (locatorRequestHandle l request io).main.fmdn_provisioned = l.main.fmdn_provisioned := by
  cases request with
  | FMDN_ADV_MODE_CHANGE => exact (button_requests.toggle_sameRecord l io.toggle).main
  | FP_ADV_MODE_CHANGE =>
    rw [locatorRequestHandle, locator.fpAdvModeChange]
    split <;> rfl
  | _ => rfl

theorem uiRequest_provisioned (g : Gate) (request : UiRequest) (rc : Int) :
    (gate.next g (.uiRequest request rc)).fmdn_provisioned = g.fmdn_provisioned := by
  cases request with
  | RECOVERY_MODE_ENTER =>
    show (gate.fmdnRecoveryModeActionHandle g rc).fmdn_provisioned = _
    unfold gate.fmdnRecoveryModeActionHandle
    split_ifs <;> rfl
  | ID_MODE_ENTER =>
    show (gate.fmdnIdModeActionHandle g rc).fmdn_provisioned = _
    unfold gate.fmdnIdModeActionHandle
    split_ifs <;> rfl
  | _ => rfl

theorem sound_broadcast {p : Panel} (request : UiRequest) (io : UiIo) (h : Sound p) :
    Sound (appUiRequestBroadcast p request io) := by
  have hcalls := sound_calls (l := locatorRequestHandle p.locator request io) h
    (requestCalls_quiet p.gate request io.readModeRc)
    (request_bits request io.readModeRc h.bits) (by
      rw [uiRequest_provisioned, locatorRequest_provisioned]
      exact h.flag)
  unfold appUiRequestBroadcast ringRequestHandle
  simp only
  split
  · exact sound_ring (.uiStop io.ringRc) hcalls trivial
  · exact hcalls

theorem sound_asked {p : Panel} (request : Option UiRequest) (io : UiIo) (h : Sound p) :
    Sound (broadcast p request io) := by
  cases request with
  | none => exact h
  | some request => exact sound_broadcast request io h

/-! ## The button -/

theorem speakerBeepPlay_eq (u : Ui) (on_ms off_ms cnt : Nat) :
    speakerBeepPlay u on_ms off_ms cnt =
      (if cnt = 0 then u else appUiSpeakerOff u, cnt * (on_ms + off_ms)) := by
  induction cnt generalizing u with
  | zero => simp [speakerBeepPlay]
  | succ cnt ih =>
    rw [speakerBeepPlay, ih]
    have htime : on_ms + off_ms + cnt * (on_ms + off_ms) = (cnt + 1) * (on_ms + off_ms) := by ring
    simp only [htime, Nat.add_one_ne_zero, if_false, Prod.mk.injEq, and_true]
    split <;> rfl

/-- The beeps of a release end with the speaker off. -/
theorem sound_beeps {p : Panel} (cnt : Nat) (h : Sound p) :
    Sound { p with ring := { p.ring with ui :=
      (speakerBeepPlay p.ring.ui SPEAKER_BEEP_SHORT_ON_MS SPEAKER_BEEP_SHORT_OFF_MS cnt).1 } } := by
  rw [speakerBeepPlay_eq]
  simp only
  split
  · exact h
  · refine ⟨⟨h.uncounted.idx, h.uncounted.beep, h.uncounted.cancel⟩,
      h.bits.congr (fun _ => rfl) (fun _ _ => rfl), h.flag, h.sounds.mask, h.sounds.bit, ?_⟩
    intro hoff
    exact ⟨rfl, (h.sounds.silent hoff).2⟩

theorem Sound.with_uptime {p : Panel} (uptime : Int) (h : Sound p) :
    Sound { p with prev_uptime := uptime } :=
  ⟨⟨h.uncounted.idx, h.uncounted.beep, h.uncounted.cancel⟩, h.bits, h.flag, h.sounds⟩

theorem sound_button {p : Panel} (button_state has_changed : Bool) (uptime : Int) (io : UiIo)
    (h : Sound p) : Sound (btnHandle p button_state has_changed uptime io) := by
  unfold btnHandle
  simp only
  split
  · exact h
  split
  · exact sound_asked _ io (h.with_uptime uptime)
  · have hdone := sound_asked (btnRequest p button_state has_changed uptime) io
      (sound_beeps (releaseBeeps p uptime) h)
    exact ⟨⟨rfl, hdone.uncounted.beep, hdone.uncounted.cancel⟩,
      hdone.bits.congr (fun _ => rfl) (fun _ _ => rfl), hdone.flag, hdone.sounds.mask,
      hdone.sounds.bit, hdone.sounds.silent⟩

/-! ## One step of the panel -/

theorem gate_provisioned {g : Gate} {e : gate.Event} (hown : OwnGate e) :
    (gate.next g e).fmdn_provisioned = g.fmdn_provisioned := by
  cases e with
  | connected conn err =>
    simp only [gate.next]
    split <;> rfl
  | securityChanged conn level err =>
    simp only [gate.next, gate.securityChanged]
    split <;> rfl
  | gattAccess conn uuid =>
    simp only [gate.next, gate.gattAuthorize, gate.appDfuBtGattOperationAllow]
    split_ifs <;> rfl
  | readModeExited mode => cases mode <;> rfl
  | uiRequest | provisioningStateSet | factoryResetPrepare | reboot => exact False.elim hown
  | _ => rfl

theorem locator_provisioned {l : Locator} {e : locator.Event} (hown : OwnLocator e) :
    (locator.next l e).main.fmdn_provisioned = l.main.fmdn_provisioned := by
  by_cases hadv : locator.OnlyAdvertises e
  · obtain ⟨fp, ui, work, sync, done, heq⟩ := locator.onlyAdvertises_next l hadv
    rw [heq]
  · cases e with
    | accountKeyWritten io =>
      simp only [locator.next, locator.accountKeyWritten, locator.fpAccountKeyWritten]
      split <;> rfl
    | provisioningStateChanged | fmdnAdvModeChange | factoryResetRequest | factoryResetWork
    | reboot => exact False.elim hown
    | _ => exact absurd trivial hadv

theorem provisioning_provisioned (l : Locator) (provisioned : Bool) (io : locator.ProvisioningIo) :
    (locator.provisioningStateChanged l provisioned io).main.fmdn_provisioned = provisioned := by
  unfold locator.provisioningStateChanged locator.fmdnProvisioningStateChanged
  simp only
  split
  · split <;> exact button_requests.stateSet_provisioned _ _
  · exact button_requests.stateSet_provisioned _ _

theorem sound_next (p : Panel) (e : Event) (h : Sound p) (ha : Allowed p e) :
    Sound (next p e) := by
  cases e with
  | button button_state has_changed uptime io =>
    exact sound_button button_state has_changed uptime io h
  | btnPressBeepWork => exact absurd h.uncounted.beep ha.2
  | cancelRingingWork io => exact absurd h.uncounted.cancel ha.2
  | appRunning =>
    exact sound_calls h (by simp) (h.bits.unflagged true rfl) h.flag
  | gate e =>
    exact sound_calls h (gateCalls_quiet p.gate e) (gate_bits e (Or.inl ha.2.1) h.bits)
      ((gate_provisioned ha.2.1).trans h.flag)
  | ring e => exact sound_ring e h ha.2.2
  | locator e =>
    exact ⟨⟨h.uncounted.idx, h.uncounted.beep, h.uncounted.cancel⟩, h.bits,
      h.flag.trans (locator_provisioned ha.2.1).symm, h.sounds⟩
  | provisioningStateChanged provisioned io rc =>
    have hset := sound_calls (l := locator.provisioningStateChanged p.locator provisioned io) h
      (gateCalls_quiet p.gate (.provisioningStateSet provisioned))
      (gate_bits (.provisioningStateSet provisioned) (Or.inr ⟨provisioned, rfl⟩) h.bits)
      (provisioning_provisioned p.locator provisioned io).symm
    exact sound_ring (.provisioningStateChanged provisioned rc) hset trivial

theorem boot_sound (stored : fp_adv.Stored) (io : locator.BootIo) : Sound (boot stored io) := by
  have hdown : Sound { locator := { stored := stored } } := by
    refine ⟨⟨rfl, rfl, rfl⟩, ?_, rfl, rfl, rfl, fun _ => ⟨rfl, rfl⟩⟩
    intro state flag hflag
    cases state <;> first | exact Option.some.inj hflag | cases hflag
  exact sound_calls (p := { locator := { stored := stored } }) (l := locator.boot stored io) hdown
    (gateCalls_quiet {} _) (gate_bits (.provisioningStateSet _) (Or.inr ⟨_, rfl⟩) hdown.bits) rfl

/-- In every state of every run each status bit is the flag that it stands for, and that of
RINGING is what the stack rings. -/
theorem the_status_bits_follow_the_modules (p : Panel) (es : List Event) (h : system.Run p es) :
    system.States (fun p => BitsAgree p.gate p.ring.ui ∧
      p.ring.ui.ui_state_status .RINGING = decide (ring.Rings p.ring)) p es := by
  obtain ⟨⟨stored, io, rfl⟩, hA⟩ := h
  exact runs.System.states_of_invariant sound_next (fun p hp => ⟨hp.bits, hp.sounds.bit⟩)
    (boot_sound stored io) hA

def quietUi : UiIo :=
  { readModeRc := 0, ringRc := 0, stack := locator.quietStack,
    toggle := { fastPairRc := 0, unsetErr := 0, clock := locator.quietStack } }

/-- A tag that its owner has provisioned. -/
def ownedPanel : Panel :=
  boot { has_account_key := true, is_provisioned := true } locator.quietBoot

/-- A ring, and the button held for 22 seconds from the 5th on. -/
def heldThroughRing : List Event :=
  [.ring (.startRequest .FMDN_BT_GATT { active_comp_bm := 0xFF, timeout := 100 } 0),
    .button true true 5000 quietUi, .button false true 27000 quietUi]

theorem heldThroughRing_runs : system.Run ownedPanel heldThroughRing :=
  ⟨⟨_, _, rfl⟩, ⟨rfl, trivial, trivial⟩, ⟨rfl, trivial⟩, ⟨rfl, trivial⟩, trivial⟩

theorem the_bits_follow_a_hold :
    system.States (fun p => BitsAgree p.gate p.ring.ui ∧
      p.ring.ui.ui_state_status .RINGING = decide (ring.Rings p.ring)) ownedPanel
        heldThroughRing :=
  the_status_bits_follow_the_modules ownedPanel heldThroughRing heldThroughRing_runs

end smart_track.panel
