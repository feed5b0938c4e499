-- Ringing. The buzzer of `platform_SBT.c` beeps while the UI is in its RINGING state; the
-- phase of the beep outlives a ring. Over it `ring.c` keeps the source and the components
-- of the ring that the Bluetooth stack has accepted; the source is set before it accepts.
import SmartTrack.Runs
import SmartTrack.Zephyr

open smart_track.zephyr

namespace smart_track.ui

/-! ## The buzzer -/

def SPEAKER_BEEP_SHORT_ON_MS2 : Nat := 50
def SPEAKER_BEEP_SHORT_OFF_MS2 : Nat := 500

/-- `enum app_ui_state`. -/
inductive AppUiState
  | APP_RUNNING
  | RINGING
  | RECOVERY_MODE
  | ID_MODE
  | PROVISIONED
  | FP_ADV
  | DFU_MODE
  | MOTION_DETECTOR_ACTIVE
  deriving DecidableEq, Repr

/-- The static variables of `platform_SBT.c`, those inside of functions included. `speaker` is
what the PWM was last set to. -/
structure Ui where
  ui_state_status : AppUiState → Bool := fun _ => false
  btn_idx : Int := -1
  beep_state : Bool := false
  speaker : Bool := false
  buzzer_beep_work : Delayable := none
  cancel_ringing_work : Delayable := none

def appUiSpeakerOn (u : Ui) : Ui := { u with speaker := true }

def appUiSpeakerOff (u : Ui) : Ui := { u with speaker := false }

/-- A work item is not pending any more when its handler runs. -/
def buzzerBeepHandle (u : Ui) : Ui :=
  let u := { u with buzzer_beep_work := none, beep_state := ! u.beep_state }
  if u.beep_state then
    { appUiSpeakerOn u with
      buzzer_beep_work := kWorkSchedule u.buzzer_beep_work SPEAKER_BEEP_SHORT_ON_MS2 }
  else
    { appUiSpeakerOff u with
      buzzer_beep_work := kWorkSchedule u.buzzer_beep_work SPEAKER_BEEP_SHORT_OFF_MS2 }

def appUiStateChangeIndicate (u : Ui) (state : AppUiState) (active : Bool) : Ui :=
  let u := { u with ui_state_status := Function.update u.ui_state_status state active }
  if state = .RINGING then
    if active = true ∧ u.btn_idx ≠ -1 then
      { u with cancel_ringing_work := kWorkReschedule u.cancel_ringing_work 50 }
    else if active then
      { u with buzzer_beep_work := kWorkSchedule u.buzzer_beep_work K_NO_WAIT }
    else
      { appUiSpeakerOff u with buzzer_beep_work := kWorkCancelDelayable u.buzzer_beep_work }
  else
    u

/-! ## The runs of the buzzer -/

inductive Event
  | indicate (state : AppUiState) (active : Bool)
  | beepWork
  deriving DecidableEq

def next (u : Ui) : Event → Ui
  | .indicate state active => appUiStateChangeIndicate u state active
  | .beepWork => buzzerBeepHandle u

def Allowed (u : Ui) : Event → Prop
  | .indicate _ _ => True
  | .beepWork => u.buzzer_beep_work ≠ none

instance (u : Ui) (e : Event) : Decidable (Allowed u e) := by
  apply Event.casesOn (motive := fun e => Decidable (Allowed u e)) e
  all_goals
    intros
    unfold Allowed
    infer_instance

/-- The runs start at power-up, and no button is held: `btn_idx` is only counted while one is. -/
def system : runs.System Ui Event where
  start u := u = {}
  allowed := Allowed
  next := next

instance (u : Ui) (e : Event) : Decidable (system.allowed u e) :=
  inferInstanceAs (Decidable (Allowed u e))

/-- A UI that does not ring makes no sound, and none is to come. -/
def Silent (u : Ui) : Prop :=
  u.ui_state_status .RINGING = false → u.speaker = false ∧ u.buzzer_beep_work = none

/-- A ring starts from silence. -/
def StartsRing (u : Ui) (e : Event) : Prop :=
  e = .indicate .RINGING true ∧ u.ui_state_status .RINGING = false

instance (u : Ui) (e : Event) : Decidable (StartsRing u e) := inferInstanceAs (Decidable (_ ∧ _))

/-- What the next `n` runs of the beep work make of the speaker, and the delay that each of them
leaves until the next. -/
def beeps (u : Ui) : Nat → List (Bool × Delayable)
  | 0 => []
  | n + 1 =>
    ((buzzerBeepHandle u).speaker, (buzzerBeepHandle u).buzzer_beep_work) ::
      beeps (buzzerBeepHandle u) n

/-- Beeps and pauses in turn. -/
def pattern (on : Bool) : Nat → List (Bool × Delayable)
  | 0 => []
  | n + 1 =>
    (on, some (if on then SPEAKER_BEEP_SHORT_ON_MS2 else SPEAKER_BEEP_SHORT_OFF_MS2)) ::
      pattern (! on) n

/-- A ring that starts from silence beeps at once, and goes on with pauses and beeps in turn. -/
def SoundsTheSame (u : Ui) (e : Event) : Prop :=
  StartsRing u e → (next u e).buzzer_beep_work = some K_NO_WAIT ∧
    ∀ n, beeps (next u e) n = pattern true n

/-- The watcher counts the runs of the beep work. -/
def note (runs : Nat) (_u : Ui) : Event → Nat
  | .beepWork => runs + 1
  | _ => runs

def watched : runs.System (Ui × Nat) Event := system.watch 0 note

/-- A ring starts from silence only after an even number of runs of the beep work. -/
def AfterWholeBeeps (p : Ui × Nat) (e : Event) : Prop := StartsRing p.1 e → p.2 % 2 = 0

instance (p : Ui × Nat) (e : Event) : Decidable (AfterWholeBeeps p e) :=
  inferInstanceAs (Decidable (_ → _))

/-! ## What a ring sounds like -/

theorem buzzerBeepHandle_eq (u : Ui) :
    buzzerBeepHandle u = { u with
      beep_state := ! u.beep_state
      speaker := ! u.beep_state
      buzzer_beep_work := some
        (if ! u.beep_state then SPEAKER_BEEP_SHORT_ON_MS2 else SPEAKER_BEEP_SHORT_OFF_MS2) } := by
  unfold buzzerBeepHandle
  cases hphase : u.beep_state <;> rfl

/-- The beeps go on from the phase at which the last ring has stopped. -/
theorem beeps_pattern (u : Ui) (n : Nat) : beeps u n = pattern (! u.beep_state) n := by
  induction n generalizing u with
  | zero => rfl
  | succ n ih =>
    rw [beeps, pattern, ih, buzzerBeepHandle_eq]

theorem pattern_iff (on : Bool) : (∀ n, pattern on n = pattern true n) ↔ on = true := by
  constructor
  · intro h
    have hfirst := h 1
    simp only [pattern, List.cons.injEq, Prod.mk.injEq] at hfirst
    exact hfirst.1.1
  · rintro rfl n
    rfl

theorem indicate_beep_state (u : Ui) (state : AppUiState) (active : Bool) :
    (appUiStateChangeIndicate u state active).beep_state = u.beep_state ∧
      (appUiStateChangeIndicate u state active).btn_idx = u.btn_idx := by
  unfold appUiStateChangeIndicate
  simp only
  split_ifs <;> exact ⟨rfl, rfl⟩

theorem indicate_status (u : Ui) (state : AppUiState) (active : Bool) :
    (appUiStateChangeIndicate u state active).ui_state_status =
      Function.update u.ui_state_status state active := by
  unfold appUiStateChangeIndicate
  simp only
  split_ifs <;> rfl

/-- No button is held, the UI is silent unless it rings, and the phase of the beep is the parity
of the runs of the beep work. -/
structure Phased (p : Ui × Nat) : Prop where
  button : p.1.btn_idx = -1
  silent : Silent p.1
  phase : p.1.beep_state = decide (p.2 % 2 = 1)

theorem indicate_silent {u : Ui} (state : AppUiState) (active : Bool) (h : Silent u) :
    Silent (appUiStateChangeIndicate u state active) := by
  intro hoff
  rw [indicate_status] at hoff
  unfold appUiStateChangeIndicate
  by_cases hring : state = .RINGING
  · subst hring
    rw [Function.update_self] at hoff
    subst hoff
    exact ⟨rfl, rfl⟩
  · rw [Function.update_of_ne (Ne.symm hring)] at hoff
    simp only [if_neg hring]
    exact h hoff

/-- The beep work is only pending while the UI rings. -/
theorem beep_silent {u : Ui} (hwork : u.buzzer_beep_work ≠ none) (h : Silent u) :
    Silent (buzzerBeepHandle u) := by
  rw [buzzerBeepHandle_eq]
  intro hoff
  exact absurd (h hoff).2 hwork

theorem phased_next (p : Ui × Nat) (e : Event) (h : Phased p) (ha : Allowed p.1 e) :
    Phased (watched.next p e) := by
  obtain ⟨u, runs⟩ := p
  cases e with
  | indicate state active =>
    obtain ⟨hphase, hbutton⟩ := indicate_beep_state u state active
    exact ⟨hbutton.trans h.button, indicate_silent state active h.silent,
      hphase.trans h.phase⟩
  | beepWork =>
    have hphase : u.beep_state = decide (runs % 2 = 1) := h.phase
    refine ⟨?_, beep_silent ha h.silent, ?_⟩
    · show (buzzerBeepHandle u).btn_idx = -1
      rw [buzzerBeepHandle_eq]
      exact h.button
    · show (buzzerBeepHandle u).beep_state = decide ((runs + 1) % 2 = 1)
      rw [buzzerBeepHandle_eq, hphase, ← decide_not, decide_eq_decide]
      omega

theorem sounds_iff (p : Ui × Nat) (e : Event) (h : Phased p) :
    SoundsTheSame p.1 e ↔ AfterWholeBeeps p e := by
  obtain ⟨u, runs⟩ := p
  refine forall_congr' ?_
  rintro ⟨rfl, hoff⟩
  have hphase : u.beep_state = decide (runs % 2 = 1) := h.phase
  have hwork : (next u (.indicate .RINGING true)).buzzer_beep_work = some K_NO_WAIT := by
    have hbutton : u.btn_idx = -1 := h.button
    have hnone : u.buzzer_beep_work = none := (h.silent hoff).2
    simp [next, appUiStateChangeIndicate, hbutton, hnone, kWorkSchedule]
  have hbeeps : ∀ n, beeps (next u (.indicate .RINGING true)) n = pattern (! u.beep_state) n := by
    intro n
    rw [beeps_pattern, next, (indicate_beep_state u .RINGING true).1]
  simp only [hbeeps, pattern_iff, hwork, true_and]
  rw [hphase, Bool.not_eq_true', decide_eq_false_iff_not]
  omega

/-- In every run the UI makes no sound unless it rings; and every ring from silence sounds the
same just when each starts after an even number of runs of the beep work. -/
theorem rings_sound_the_same_after_whole_beeps (u : Ui) (es : List Event) (h : system.Run u es) :
    system.States Silent u es ∧ system.Steps SoundsTheSame u es ↔
      watched.Steps AfterWholeBeeps (u, 0) es := by
  obtain ⟨rfl, hA⟩ := h
  have hstart : Phased ({}, 0) := ⟨rfl, fun _ => ⟨rfl, rfl⟩, rfl⟩
  have hwatched := (system.watch_steps (P := Allowed) 0 note ({}, 0) es).mpr hA
  have hsilent : system.States Silent {} es :=
    system.watch_states 0 note phased_next (fun _ hp => hp.silent) hstart hwatched
  have hsounds : watched.Steps (fun p e => SoundsTheSame p.1 e) ({}, 0) es ↔
      watched.Steps AfterWholeBeeps ({}, 0) es :=
    runs.System.steps_congr phased_next (fun p e hp _ => sounds_iff p e hp) hstart hwatched
  rw [← hsounds]
  exact (and_iff_right hsilent).trans (system.watch_steps 0 note ({}, 0) es).symm

/-- One beep and one pause, and a second ring. -/
theorem two_rings_sound_the_same :
    system.States Silent {}
        [.indicate .RINGING true, .beepWork, .beepWork, .indicate .RINGING false,
          .indicate .RINGING true] ∧
      system.Steps SoundsTheSame {}
        [.indicate .RINGING true, .beepWork, .beepWork, .indicate .RINGING false,
          .indicate .RINGING true] :=
  (rings_sound_the_same_after_whole_beeps {} _ ⟨rfl, by decide⟩).mpr (by decide)

/-- The first ring is stopped within its first beep, so the second begins with a pause. -/
theorem a_ring_cut_short_turns_the_next_around :
    ¬ ∀ (u : Ui) (es : List Event), system.Run u es →
      system.States Silent u es ∧ system.Steps SoundsTheSame u es := by
  intro h
  have hrun := (h {} [.indicate .RINGING true, .beepWork, .indicate .RINGING false,
    .indicate .RINGING true] ⟨rfl, by decide⟩).2
  have hsounds := (hrun.2.2.2.1 ⟨rfl, rfl⟩).2 1
  revert hsounds
  decide

end smart_track.ui

namespace smart_track.ring

open ui (Ui appUiStateChangeIndicate buzzerBeepHandle)

/-! ## The ringing -/

def BT_FAST_PAIR_FMDN_RING_COMP_RIGHT : UInt8 := 1
def BT_FAST_PAIR_FMDN_RING_COMP_LEFT : UInt8 := 2
def BT_FAST_PAIR_FMDN_RING_COMP_CASE : UInt8 := 4
def BT_FAST_PAIR_FMDN_RING_COMP_BM_NONE : UInt8 := 0
def BT_FAST_PAIR_FMDN_RING_COMP_BM_ALL : UInt8 := 0xFF

/-- `enum bt_fast_pair_fmdn_ring_src`. -/
inductive RingSrc
  | FMDN_BT_GATT
  | DULT_BT_GATT
  | DULT_MOTION_DETECTOR
  deriving DecidableEq, Repr

/-- The triggers of a change, `BT_FAST_PAIR_FMDN_RING_TRIGGER_*`. -/
inductive RingTrigger
  | STARTED
  | UI_STOPPED
  | GATT_STOPPED
  | TIMEOUT_STOPPED
  deriving DecidableEq, Repr

/-- `struct bt_fast_pair_fmdn_ring_state_param`. -/
structure RingStateParam where
  trigger : RingTrigger
  active_comp_bm : UInt8
  timeout : Nat := 0
  deriving DecidableEq

/-- What the stack has accepted: the source of the last start, and the mask. -/
structure Stack where
  start_src : Option RingSrc := none
  active_comp_bm : UInt8 := BT_FAST_PAIR_FMDN_RING_COMP_BM_NONE
  deriving DecidableEq

/-- `bt_fast_pair_fmdn_ring_state_update` accepts the state with the code 0. -/
def btFastPairFmdnRingStateUpdate (s : Stack) (src : RingSrc) (param : RingStateParam) (rc : Int) :
    Stack :=
  if rc ≠ 0 then
    s
  else
    { start_src := if param.trigger = .STARTED then some src else s.start_src
      active_comp_bm := param.active_comp_bm }

/-- The static variables of `ring.c`, with the UI and the stack beside them. -/
structure Ring where
  fmdn_ring_active_comp_bm : UInt8 := 0
  fmdn_ring_src : RingSrc := .FMDN_BT_GATT
  ui : Ui := {}
  stack : Stack := {}

def ringStateUpdate (r : Ring) (param : RingStateParam) (rc : Int) : Ring :=
  let r := { r with stack := btFastPairFmdnRingStateUpdate r.stack r.fmdn_ring_src param rc }
  if rc ≠ 0 then
    r
  else
    { r with
      ui := appUiStateChangeIndicate r.ui .RINGING
        (decide (param.active_comp_bm ≠ BT_FAST_PAIR_FMDN_RING_COMP_BM_NONE))
      fmdn_ring_active_comp_bm := param.active_comp_bm }

/-- `APP_UI_REQUEST_RINGING_STOP`. -/
def ringRequestHandle (r : Ring) (rc : Int) : Ring :=
  if r.fmdn_ring_active_comp_bm = BT_FAST_PAIR_FMDN_RING_COMP_BM_NONE then
    r
  else
    ringStateUpdate r
      { trigger := .UI_STOPPED, active_comp_bm := BT_FAST_PAIR_FMDN_RING_COMP_BM_NONE } rc

def ringProvisioningStateChanged (r : Ring) (provisioned : Bool) (rc : Int) : Ring :=
  if provisioned = false ∧ r.fmdn_ring_active_comp_bm ≠ BT_FAST_PAIR_FMDN_RING_COMP_BM_NONE then
    ringStateUpdate r
      { trigger := .GATT_STOPPED, active_comp_bm := BT_FAST_PAIR_FMDN_RING_COMP_BM_NONE } rc
  else
    r

/-- The tag is built with `CONFIG_BT_FAST_PAIR_FMDN_RING_COMP_THREE`. -/
def ringCompBmAllConfiguredGet : UInt8 :=
  BT_FAST_PAIR_FMDN_RING_COMP_RIGHT ||| BT_FAST_PAIR_FMDN_RING_COMP_LEFT |||
    BT_FAST_PAIR_FMDN_RING_COMP_CASE

/-- `struct bt_fast_pair_fmdn_ring_req_param`, less the volume, which is only logged. -/
structure RingReqParam where
  active_comp_bm : UInt8
  timeout : Nat
  deriving DecidableEq

/-- The source is set whatever the stack says to it. -/
def fmdnRingStartRequest (r : Ring) (src : RingSrc) (ring_param : RingReqParam) (rc : Int) :
    Ring :=
  let active_comp_bm :=
    if ring_param.active_comp_bm = BT_FAST_PAIR_FMDN_RING_COMP_BM_ALL then
      ringCompBmAllConfiguredGet
    else
      ring_param.active_comp_bm
  ringStateUpdate { r with fmdn_ring_src := src }
    { trigger := .STARTED, active_comp_bm := active_comp_bm, timeout := ring_param.timeout } rc

def fmdnRingTimeoutExpired (r : Ring) (rc : Int) : Ring :=
  ringStateUpdate r
    { trigger := .TIMEOUT_STOPPED, active_comp_bm := BT_FAST_PAIR_FMDN_RING_COMP_BM_NONE } rc

def fmdnRingStopRequest (r : Ring) (src : RingSrc) (rc : Int) : Ring :=
  ringStateUpdate { r with fmdn_ring_src := src }
    { trigger := .GATT_STOPPED, active_comp_bm := BT_FAST_PAIR_FMDN_RING_COMP_BM_NONE } rc

/-! ## The runs of the ringing -/

inductive Event
  | startRequest (src : RingSrc) (ring_param : RingReqParam) (rc : Int)
  | stopRequest (src : RingSrc) (rc : Int)
  | timeoutExpired (src : RingSrc) (rc : Int)
  | uiStop (rc : Int)
  | provisioningStateChanged (provisioned : Bool) (rc : Int)
  | beepWork
  deriving DecidableEq

def next (r : Ring) : Event → Ring
  | .startRequest src ring_param rc => fmdnRingStartRequest r src ring_param rc
  | .stopRequest src rc => fmdnRingStopRequest r src rc
  | .timeoutExpired _ rc => fmdnRingTimeoutExpired r rc
  | .uiStop rc => ringRequestHandle r rc
  | .provisioningStateChanged provisioned rc => ringProvisioningStateChanged r provisioned rc
  | .beepWork => { r with ui := buzzerBeepHandle r.ui }

/-- The stack reports a timeout for the source of the last start that it has accepted. -/
def Allowed (r : Ring) : Event → Prop
  | .timeoutExpired src _ => r.stack.start_src = some src
  | .beepWork => r.ui.buzzer_beep_work ≠ none
  | _ => True

instance (r : Ring) (e : Event) : Decidable (Allowed r e) := by
  apply Event.casesOn (motive := fun e => Decidable (Allowed r e)) e
  all_goals
    intros
    unfold Allowed
    infer_instance

def system : runs.System Ring Event where
  start r := r = {}
  allowed := Allowed
  next := next

instance (r : Ring) (e : Event) : Decidable (system.allowed r e) :=
  inferInstanceAs (Decidable (Allowed r e))

/-! ## The law -/

/-- The stack rings. -/
def Rings (r : Ring) : Prop := r.stack.active_comp_bm ≠ BT_FAST_PAIR_FMDN_RING_COMP_BM_NONE

instance (r : Ring) : Decidable (Rings r) := inferInstanceAs (Decidable (_ ≠ _))

/-- The mask is the one that the stack has accepted last, and while it rings the source is that
of the start that it has accepted last. -/
def Agree (r : Ring) : Prop :=
  r.fmdn_ring_active_comp_bm = r.stack.active_comp_bm ∧
    (Rings r → r.stack.start_src = some r.fmdn_ring_src)

/-- The assertion of `fmdn_ring_timeout_expired`. -/
def AssertionHolds (r : Ring) : Event → Prop
  | .timeoutExpired src _ => src = r.fmdn_ring_src
  | _ => True

instance (r : Ring) (e : Event) : Decidable (AssertionHolds r e) := by
  apply Event.casesOn (motive := fun e => Decidable (AssertionHolds r e)) e
  all_goals
    intros
    unfold AssertionHolds
    infer_instance

/-- The watcher notes the source of the last request, accepted or not. -/
def note (last : Option RingSrc) (_r : Ring) : Event → Option RingSrc
  | .startRequest src _ _ => some src
  | .stopRequest src _ => some src
  | _ => last

def watched : runs.System (Ring × Option RingSrc) Event := system.watch none note

/-- A request that the stack rejects during a ring comes from the source of the last start that
it has accepted; and if a timeout comes after the ring, so does the last request before it. -/
def Orderly (p : Ring × Option RingSrc) : Event → Prop
  | .startRequest src _ rc => Rings p.1 → rc ≠ 0 → p.1.stack.start_src = some src
  | .stopRequest src rc => Rings p.1 → rc ≠ 0 → p.1.stack.start_src = some src
  | .timeoutExpired src _ => ¬ Rings p.1 → p.2 = some src
  | _ => True

instance (p : Ring × Option RingSrc) (e : Event) : Decidable (Orderly p e) := by
  apply Event.casesOn (motive := fun e => Decidable (Orderly p e)) e
  all_goals
    intros
    unfold Orderly
    infer_instance

/-! ## One step -/

/-- An update that the stack rejects changes nothing. -/
theorem update_rejected {r : Ring} {rc : Int} (param : RingStateParam) (h : rc ≠ 0) :
    ringStateUpdate r param rc = r := by
  unfold ringStateUpdate btFastPairFmdnRingStateUpdate
  simp only [if_pos h]

/-- One that it accepts brings the mask of `ring.c` along. -/
theorem update_accepted (r : Ring) (param : RingStateParam) :
    ringStateUpdate r param 0 =
      { r with
        stack :=
          { start_src :=
              if param.trigger = .STARTED then some r.fmdn_ring_src else r.stack.start_src
            active_comp_bm := param.active_comp_bm }
        ui := appUiStateChangeIndicate r.ui .RINGING
          (decide (param.active_comp_bm ≠ BT_FAST_PAIR_FMDN_RING_COMP_BM_NONE))
        fmdn_ring_active_comp_bm := param.active_comp_bm } := rfl

/-- A start that the stack accepts, or the end of a ring, leaves the two in agreement. -/
theorem update_agree {r : Ring} (param : RingStateParam) (rc : Int)
    (hparam : param.trigger = .STARTED ∨
      param.active_comp_bm = BT_FAST_PAIR_FMDN_RING_COMP_BM_NONE) :
    Agree (ringStateUpdate r param rc) ↔ (rc ≠ 0 → Agree r) := by
  by_cases hrc : rc = 0
  · subst hrc
    refine iff_of_true ?_ (fun hne => absurd rfl hne)
    rw [update_accepted]
    refine ⟨rfl, fun hrings => ?_⟩
    rcases hparam with hstart | hnone
    · exact if_pos hstart
    · exact absurd hnone hrings
  · rw [update_rejected param hrc]
    exact ⟨fun h _ => h, fun h => h hrc⟩

/-- With another source the two agree unless the stack rings for a start of a third. -/
theorem agree_source {r : Ring} (src : RingSrc) (h : Agree r) :
    Agree { r with fmdn_ring_src := src } ↔ (Rings r → r.stack.start_src = some src) :=
  and_iff_right h.1

/-- The start that the stack has accepted last was a request, so the source that `ring.c` has is
the one that the watcher has noted. -/
def Noted (p : Ring × Option RingSrc) : Prop :=
  p.1.stack.start_src ≠ none → p.2 = some p.1.fmdn_ring_src

theorem update_noted {r : Ring} {last : Option RingSrc} {param : RingStateParam} (rc : Int)
    (h : Noted (r, last)) (hparam : param.trigger ≠ .STARTED) :
    Noted (ringStateUpdate r param rc, last) := by
  by_cases hrc : rc = 0
  · subst hrc
    rw [update_accepted, if_neg hparam]
    exact h
  · rw [update_rejected param hrc]
    exact h

theorem update_source (r : Ring) (param : RingStateParam) (rc : Int) :
    (ringStateUpdate r param rc).fmdn_ring_src = r.fmdn_ring_src := by
  unfold ringStateUpdate
  simp only
  split <;> rfl

theorem noted_next (p : Ring × Option RingSrc) (e : Event) (h : Noted p) :
    Noted (watched.next p e) := by
  obtain ⟨r, last⟩ := p
  cases e with
  | startRequest src ring_param rc =>
    intro _
    exact congrArg some (update_source { r with fmdn_ring_src := src } _ rc).symm
  | stopRequest src rc =>
    intro _
    exact congrArg some (update_source { r with fmdn_ring_src := src } _ rc).symm
  | timeoutExpired src rc => exact update_noted rc h (by decide)
  | uiStop rc =>
    show Noted (ringRequestHandle r rc, last)
    unfold ringRequestHandle
    split
    · exact h
    · exact update_noted rc h (by decide)
  | provisioningStateChanged provisioned rc =>
    show Noted (ringProvisioningStateChanged r provisioned rc, last)
    unfold ringProvisioningStateChanged
    split
    · exact update_noted rc h (by decide)
    · exact h
  | beepWork => exact h

/-- While the two agree, the assertion holds and they go on to agree just when the step is
orderly. -/
theorem agree_next (p : Ring × Option RingSrc) (e : Event) (hn : Noted p) (h : Agree p.1)
    (ha : Allowed p.1 e) :
    AssertionHolds p.1 e ∧ Agree (next p.1 e) ↔ Orderly p e := by
  obtain ⟨r, last⟩ := p
  have hends : ∀ (param : RingStateParam) (rc : Int),
      param.active_comp_bm = BT_FAST_PAIR_FMDN_RING_COMP_BM_NONE →
        Agree (ringStateUpdate r param rc) :=
    fun param rc hnone => (update_agree param rc (Or.inr hnone)).mpr (fun _ => h)
  cases e with
  | startRequest src ring_param rc =>
    refine (and_iff_right trivial).trans ?_
    refine (update_agree _ rc (Or.inl rfl)).trans ?_
    rw [agree_source src h]
    exact ⟨fun hok hrings hrc => hok hrc hrings, fun hok hrc hrings => hok hrings hrc⟩
  | stopRequest src rc =>
    refine (and_iff_right trivial).trans ?_
    refine (update_agree _ rc (Or.inr rfl)).trans ?_
    rw [agree_source src h]
    exact ⟨fun hok hrings hrc => hok hrc hrings, fun hok hrc hrings => hok hrings hrc⟩
  | timeoutExpired src rc =>
    refine (and_iff_left (hends _ rc rfl)).trans ?_
    have hstart : r.stack.start_src = some src := ha
    have hlast : last = some r.fmdn_ring_src := hn (by rw [hstart]; simp)
    constructor
    · rintro rfl _
      exact hlast
    · intro hok
      by_cases hrings : Rings r
      · exact Option.some.inj (hstart.symm.trans (h.2 hrings))
      · exact Option.some.inj ((hok hrings).symm.trans hlast)
  | uiStop rc =>
    refine iff_of_true ⟨trivial, ?_⟩ trivial
    show Agree (ringRequestHandle r rc)
    unfold ringRequestHandle
    split
    · exact h
    · exact hends _ rc rfl
  | provisioningStateChanged provisioned rc =>
    refine iff_of_true ⟨trivial, ?_⟩ trivial
    show Agree (ringProvisioningStateChanged r provisioned rc)
    unfold ringProvisioningStateChanged
    split
    · exact hends _ rc rfl
    · exact h
  | beepWork => exact iff_of_true ⟨trivial, h⟩ trivial

/-! ## Every run -/

/-- In a run `ring.c` agrees with the stack, and its assertion holds, just when every step is
orderly. -/
theorem the_source_agrees_while_requests_are_orderly (r : Ring) (es : List Event)
    (h : system.Run r es) :
    system.States Agree r es ∧ system.Steps AssertionHolds r es ↔
      watched.Steps Orderly (r, none) es := by
  obtain ⟨rfl, hA⟩ := h
  have hwatched := (system.watch_steps (P := Allowed) none note ({}, none) es).mpr hA
  rw [← system.watch_states_iff none note ({}, none) es,
    ← system.watch_steps none note ({}, none) es]
  exact runs.System.states_and_steps_iff (S := watched) (I := Noted)
    (fun p e hn _ _ => noted_next p e hn) agree_next (fun hstart => absurd rfl hstart)
    ⟨rfl, fun hrings => absurd rfl hrings⟩ hwatched

/-- The UI is in its RINGING state while the stack rings, and silent otherwise. -/
structure Sounds (r : Ring) : Prop where
  mask : r.fmdn_ring_active_comp_bm = r.stack.active_comp_bm
  bit : r.ui.ui_state_status .RINGING = decide (Rings r)
  silent : ui.Silent r.ui

theorem update_sounds {r : Ring} (param : RingStateParam) (rc : Int) (h : Sounds r) :
    Sounds (ringStateUpdate r param rc) := by
  by_cases hrc : rc = 0
  · subst hrc
    rw [update_accepted]
    refine ⟨rfl, ?_, ui.indicate_silent _ _ h.silent⟩
    simp only [ui.indicate_status, Function.update_self]
    rfl
  · rw [update_rejected param hrc]
    exact h

theorem sounds_next (r : Ring) (e : Event) (h : Sounds r) (ha : Allowed r e) :
    Sounds (next r e) := by
  have hsource : ∀ src, Sounds { r with fmdn_ring_src := src } := fun src =>
    ⟨h.mask, h.bit, h.silent⟩
  cases e with
  | startRequest src ring_param rc => exact update_sounds _ rc (hsource src)
  | stopRequest src rc => exact update_sounds _ rc (hsource src)
  | timeoutExpired src rc => exact update_sounds _ rc h
  | uiStop rc =>
    rw [next, ringRequestHandle]
    split
    · exact h
    · exact update_sounds _ rc h
  | provisioningStateChanged provisioned rc =>
    rw [next, ringProvisioningStateChanged]
    split
    · exact update_sounds _ rc h
    · exact h
  | beepWork =>
    refine ⟨h.mask, ?_, ui.beep_silent ha h.silent⟩
    rw [next, ui.buzzerBeepHandle_eq]
    exact h.bit

/-- Whatever the stack rejects, the speaker is off and stays off while the stack does not ring. -/
theorem the_speaker_is_off_unless_the_stack_rings (r : Ring) (es : List Event)
    (h : system.Run r es) :
    system.States (fun r => ¬ Rings r → r.ui.speaker = false ∧ r.ui.buzzer_beep_work = none)
      r es := by
  obtain ⟨rfl, hA⟩ := h
  refine runs.System.states_of_invariant sounds_next ?_
    ⟨rfl, rfl, fun _ => ⟨rfl, rfl⟩⟩ hA
  intro r hr hquiet
  exact hr.silent (hr.bit.trans (decide_eq_false hquiet))

/-- A ring for the owner, who asks twice more in vain, and runs out. -/
def ringForOwner : List Event :=
  [.startRequest .FMDN_BT_GATT { active_comp_bm := 0xFF, timeout := 100 } 0, .beepWork,
    .startRequest .FMDN_BT_GATT { active_comp_bm := 0xFF, timeout := 100 } (-EALREADY),
    .stopRequest .FMDN_BT_GATT (-EINVAL), .timeoutExpired .FMDN_BT_GATT 0]

theorem a_ring_that_runs_out_agrees :
    system.States Agree {} ringForOwner ∧ system.Steps AssertionHolds {} ringForOwner :=
  (the_source_agrees_while_requests_are_orderly {} _ ⟨rfl, by decide⟩).mpr (by decide)

/-- The tag rings for its owner, and the stack rejects a ring for another. -/
theorem a_rejected_start_takes_the_source :
    ¬ ∀ (r : Ring) (es : List Event), system.Run r es →
      system.States Agree r es ∧ system.Steps AssertionHolds r es := by
  intro h
  have hrun := (h {} [.startRequest .FMDN_BT_GATT { active_comp_bm := 0xFF, timeout := 100 } 0,
    .startRequest .DULT_BT_GATT { active_comp_bm := 0xFF, timeout := 100 } (-EALREADY),
    .timeoutExpired .FMDN_BT_GATT 0] ⟨rfl, by decide⟩).2
  exact absurd hrun.2.2.1 (by decide)

end smart_track.ring
