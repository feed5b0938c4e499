-- What the button asks for. The requests of a run are those of the holds of the button, a press
-- ends a ring, and no hold starts the recovery mode or the DFU mode.
import SmartTrack.Panel

open smart_track.gate (Gate UiRequest)
open smart_track.ring (Ring)

namespace smart_track.panel

/-! ## The holds of the button -/

/-- What the button does, and when. -/
inductive Edge
  | press (uptime : Int)
  | release (uptime : Int)
  deriving DecidableEq

/-- A hold is a press and the release right after it. At an uptime of 0 the code takes a press
for none. -/
def holds : List Edge → List Int
  | .press t :: .release u :: es => if t = 0 then holds es else (u - t) :: holds es
  | _ :: es => holds es
  | [] => []

def edges : Event → List Edge
  | .button true true uptime _ => [.press uptime]
  | .button false true uptime _ => [.release uptime]
  | _ => []

/-- The requests that a step broadcasts. -/
def asked (p : Panel) : Event → List UiRequest
  | .button button_state has_changed uptime _ =>
    (btnRequest p button_state has_changed uptime).toList
  | .cancelRingingWork _ =>
    if p.ring.ui.ui_state_status .RINGING then [.RINGING_STOP] else []
  | _ => []

/-- The press that the code has noted. -/
def noted (p : Panel) : List Edge := if p.prev_uptime = 0 then [] else [.press p.prev_uptime]

/-- The requests that a hold may ask for. -/
def holdRequests : List UiRequest :=
  [.FP_ADV_MODE_CHANGE, .FMDN_ADV_MODE_CHANGE, .ID_MODE_ENTER, .FACTORY_RESET]

theorem releaseAction_request (hold : Int) :
    releaseAction hold = none ∨
      ∃ cnt request, releaseAction hold = some (cnt, request) ∧ request ∈ holdRequests := by
  unfold releaseAction
  split_ifs
  · exact Or.inr ⟨_, _, rfl, by decide⟩
  · exact Or.inr ⟨_, _, rfl, by decide⟩
  · exact Or.inr ⟨_, _, rfl, by decide⟩
  · exact Or.inr ⟨_, _, rfl, by decide⟩
  · exact Or.inl rfl

theorem holds_release (u : Int) (es : List Edge) : holds (.release u :: es) = holds es := by
  rw [holds]
  simp

theorem holds_press_press (t u : Int) (es : List Edge) :
    holds (.press t :: .press u :: es) = holds (.press u :: es) := by
  rw [holds]
  simp

theorem holds_press_zero (es : List Edge) : holds (.press 0 :: es) = holds es := by
  cases es with
  | nil => simp [holds]
  | cons e es =>
    cases e with
    | press u => exact holds_press_press 0 u es
    | release u => simp [holds]

theorem broadcast_uptime (p : Panel) (request : Option UiRequest) (io : UiIo) :
    (broadcast p request io).prev_uptime = p.prev_uptime := by
  cases request <;> rfl

theorem next_uptime (p : Panel) {e : Event} (h : edges e = []) :
    (next p e).prev_uptime = p.prev_uptime := by
  cases e with
  | button button_state has_changed uptime io =>
    cases has_changed with
    | false => rfl
    | true => cases button_state <;> cases h
  | cancelRingingWork io =>
    rw [next, cancelRingingWorkHandle]
    simp only
    split <;> rfl
  | _ => rfl

/-- A step without an edge asks at most to end a ring. -/
theorem asked_quiet (p : Panel) {e : Event} (h : edges e = []) :
    (asked p e).filter (· ≠ .RINGING_STOP) = [] := by
  cases e with
  | button button_state has_changed uptime io =>
    cases has_changed with
    | false => rfl
    | true => cases button_state <;> cases h
  | cancelRingingWork io =>
    rw [asked]
    split <;> rfl
  | _ => rfl

/-- An edge asks for what the hold that it ends asks for. -/
theorem edge_holds (p : Panel) {e : Event} (h : edges e ≠ []) (es : List Edge) :
    ∃ ended : List Int,
      (asked p e).filter (· ≠ .RINGING_STOP) =
          ended.filterMap (fun hold => (releaseAction hold).map Prod.snd) ∧
        holds (noted p ++ (edges e ++ es)) = ended ++ holds (noted (next p e) ++ es) := by
  cases e with
  | button button_state has_changed uptime io =>
    cases has_changed with
    | false => exact absurd (by cases button_state <;> rfl) h
    | true =>
      cases button_state with
      | true =>
        have hnext : (next p (.button true true uptime io)).prev_uptime = uptime :=
          broadcast_uptime _ _ io
        refine ⟨[], ?_, ?_⟩
        · simp only [asked, btnRequest, Bool.true_eq_false, if_false, if_true]
          split <;> rfl
        · have hpress : holds (noted p ++ .press uptime :: es) = holds (.press uptime :: es) := by
            unfold noted
            split
            · rfl
            · exact holds_press_press p.prev_uptime uptime es
          show holds (noted p ++ .press uptime :: es) = holds (noted (next p _) ++ es)
          rw [hpress, noted, hnext]
          split
          · rename_i hzero
            rw [hzero]
            exact holds_press_zero es
          · rfl
      | false =>
        have hnoted : noted (next p (.button false true uptime io)) = [] := rfl
        rw [hnoted]
        by_cases hprev : p.prev_uptime = 0
        · refine ⟨[], ?_, ?_⟩
          · simp [asked, btnRequest, hprev]
          · simp only [noted, hprev, if_true, List.nil_append]
            exact holds_release uptime es
        · refine ⟨[uptime - p.prev_uptime], ?_, ?_⟩
          · have hasked : asked p (.button false true uptime io) =
                ((releaseAction (uptime - p.prev_uptime)).map Prod.snd).toList := by
              simp [asked, btnRequest, hprev]
            rw [hasked]
            rcases releaseAction_request (uptime - p.prev_uptime) with hnone | ⟨cnt, r, hsome, hr⟩
            · simp [hnone]
            · have hstop : r ≠ .RINGING_STOP := by
                rintro rfl
                exact absurd hr (by decide)
              simp [hsome, hstop]
          · simp only [noted, hprev, if_false]
            exact (holds.eq_1 p.prev_uptime uptime es).trans (if_neg hprev)
  | _ => exact absurd rfl h

theorem asked_holds (p : Panel) (es : List Event) :
    (system.outputs asked p es).filter (· ≠ .RINGING_STOP) =
      (holds (noted p ++ es.flatMap edges)).filterMap
        (fun hold => (releaseAction hold).map Prod.snd) := by
  induction es generalizing p with
  | nil =>
    unfold noted
    split <;> simp [holds]
  | cons e es ih =>
    rw [runs.System.outputs_cons, List.filter_append, List.flatMap_cons]
    by_cases hedge : edges e = []
    · have hnoted : noted (next p e) = noted p := by
        unfold noted
        rw [next_uptime p hedge]
      rw [asked_quiet p hedge, hedge, List.nil_append, List.nil_append, ← hnoted]
      exact ih (next p e)
    · obtain ⟨ended, hasked, hholds⟩ := edge_holds p hedge (es.flatMap edges)
      rw [hasked, hholds, List.filterMap_append]
      exact congrArg _ (ih (next p e))

/-- Over every run the requests of the button, those that end a ring apart, are what the holds ask
for: one request for each hold that ends within a window, in this order, and no other. -/
theorem the_requests_are_those_of_the_holds (p : Panel) (es : List Event) (h : system.Run p es) :
    (system.outputs asked p es).filter (· ≠ .RINGING_STOP) =
      (holds (es.flatMap edges)).filterMap (fun hold => (releaseAction hold).map Prod.snd) := by
  obtain ⟨⟨stored, io, rfl⟩, _⟩ := h
  exact asked_holds (boot stored io) es

theorem a_hold_of_22_seconds_asks_for_the_id_mode :
    (system.outputs asked ownedPanel heldThroughRing).filter (· ≠ .RINGING_STOP) =
      [.ID_MODE_ENTER] :=
  (the_requests_are_those_of_the_holds ownedPanel heldThroughRing heldThroughRing_runs).trans rfl

/-! ## A press while the tag rings -/

/-- The stack does not ring, the UI knows, and neither a sound nor a stop is to come. -/
structure Quiet (p : Panel) : Prop where
  stack : ¬ ring.Rings p.ring
  bit : p.ring.ui.ui_state_status .RINGING = false
  speaker : p.ring.ui.speaker = false
  work : p.ring.ui.buzzer_beep_work = none
  cancel : p.ring.ui.cancel_ringing_work = none

theorem Sound.quiet {p : Panel} (h : Sound p) (hoff : p.ring.ui.ui_state_status .RINGING = false) :
    Quiet p := by
  obtain ⟨hspeaker, hwork⟩ := h.sounds.silent hoff
  exact ⟨of_decide_eq_false (h.sounds.bit.symm.trans hoff), hoff, hspeaker, hwork,
    h.uncounted.cancel⟩

/-- A stop that the stack accepts ends the ring. -/
theorem stop_ends {r : Ring} (h : ring.Sounds r) :
    (ring.ringRequestHandle r 0).ui.ui_state_status .RINGING = false := by
  unfold ring.ringRequestHandle
  split
  · rename_i hmask
    rw [h.bit]
    apply decide_eq_false
    intro hrings
    exact hrings (h.mask.symm.trans hmask)
  · rw [ring.update_accepted, ui.indicate_status, Function.update_self]
    rfl

/-- A press ends a ring, unless the stack rejects the stop. -/
def PressSilences (p : Panel) : Event → Prop
  | .button true true uptime io => io.ringRc = 0 → Quiet (next p (.button true true uptime io))
  | _ => True

theorem press_silences {p : Panel} (e : Event) (h : Sound p) (ha : Allowed p e) :
    PressSilences p e := by
  unfold PressSilences
  split
  · rename_i uptime io
    intro hrc
    apply (sound_next p _ h ha).quiet
    show (broadcast { p with prev_uptime := uptime }
      (btnRequest p true true uptime) io).ring.ui.ui_state_status .RINGING = false
    cases hring : p.ring.ui.ui_state_status .RINGING with
    | false =>
      have hnone : btnRequest p true true uptime = none := by
        simp [btnRequest, hring]
      rw [hnone]
      exact hring
    | true =>
      have hstop : btnRequest p true true uptime = some .RINGING_STOP := by
        simp [btnRequest, hring]
      rw [hstop]
      show (ring.ringRequestHandle p.ring io.ringRc).ui.ui_state_status .RINGING = false
      rw [hrc]
      exact stop_ends h.sounds
  · trivial

/-- In every run a press leaves the tag silent, whatever it did before, unless the stack rejects
the stop. -/
theorem a_press_silences_the_tag (p : Panel) (es : List Event) (h : system.Run p es) :
    system.Steps PressSilences p es := by
  obtain ⟨⟨stored, io, rfl⟩, hA⟩ := h
  have hstep : ∀ p e, Sound p → system.allowed p e → PressSilences p e ∧ Sound (next p e) :=
    fun p e hp ha => ⟨press_silences e hp ha, sound_next p e hp ha⟩
  exact (runs.System.steps_of_invariant hstep (boot_sound stored io) hA).1

theorem a_press_silences_an_owned_tag : system.Steps PressSilences ownedPanel heldThroughRing :=
  a_press_silences_the_tag ownedPanel heldThroughRing heldThroughRing_runs

/-! ## What the button does not reach -/

/-- What a step brings to the gate. -/
def gateEvent (p : Panel) : Event → Option gate.Event
  | .button button_state has_changed uptime io =>
    (btnRequest p button_state has_changed uptime).map
      (fun request => .uiRequest request io.readModeRc)
  | .cancelRingingWork io =>
    if p.ring.ui.ui_state_status .RINGING then some (.uiRequest .RINGING_STOP io.readModeRc)
    else none
  | .gate e => some e
  | .provisioningStateChanged provisioned _ _ => some (.provisioningStateSet provisioned)
  | _ => none

theorem broadcast_gate (p : Panel) (request : Option UiRequest) (io : UiIo) :
    (broadcast p request io).gate =
      ((request.map (fun r => gate.next p.gate (.uiRequest r io.readModeRc))).getD p.gate) := by
  cases request <;> rfl

/-- The gate of the panel takes the events that the step brings to it. -/
theorem next_gate (p : Panel) (e : Event) :
    (next p e).gate = ((gateEvent p e).map (gate.next p.gate)).getD p.gate := by
  cases e with
  | button button_state has_changed uptime io =>
    rw [next, btnHandle, gateEvent, Option.map_map]
    cases has_changed with
    | false => rfl
    | true => cases button_state <;> exact broadcast_gate _ _ io
  | cancelRingingWork io =>
    rw [next, cancelRingingWorkHandle, gateEvent]
    simp only
    split <;> rfl
  | _ => rfl

/-- The requests that the panel ever broadcasts. -/
def Reached (request : UiRequest) : Prop := request = .RINGING_STOP ∨ request ∈ holdRequests

theorem asked_reached (p : Panel) (e : Event) : ∀ request ∈ asked p e, Reached request := by
  intro request hmem
  cases e with
  | button button_state has_changed uptime io =>
    simp only [asked, btnRequest, Option.mem_toList] at hmem
    split_ifs at hmem with hchanged hpress hring hprev
    · exact Or.inl (Option.some.inj hmem).symm
    · rcases releaseAction_request (uptime - p.prev_uptime) with hnone | ⟨cnt, r, hsome, hr⟩
      · simp [hnone] at hmem
      · simp only [hsome, Option.map_some, Option.some.injEq] at hmem
        exact Or.inr (hmem ▸ hr)
  | cancelRingingWork io =>
    rw [asked] at hmem
    split at hmem
    · exact Or.inl (List.mem_singleton.mp hmem)
    · cases hmem
  | _ => cases hmem

/-- A request that the panel broadcasts neither starts the recovery mode nor the DFU mode. -/
theorem reached_modes {g : Gate} {request : UiRequest} (rc : Int) (h : Reached request) :
    (gate.next g (.uiRequest request rc)).fmdn_recovery_mode = g.fmdn_recovery_mode ∧
      (gate.next g (.uiRequest request rc)).dfu = g.dfu := by
  rcases h with rfl | h
  · exact ⟨rfl, rfl⟩
  · simp only [holdRequests, List.mem_cons, List.not_mem_nil, or_false] at h
    rcases h with rfl | rfl | rfl | rfl
    · exact ⟨rfl, rfl⟩
    · exact ⟨rfl, rfl⟩
    · show (gate.fmdnIdModeActionHandle g rc).fmdn_recovery_mode = _ ∧
        (gate.fmdnIdModeActionHandle g rc).dfu = _
      unfold gate.fmdnIdModeActionHandle
      split_ifs <;> exact ⟨rfl, rfl⟩
    · exact ⟨rfl, rfl⟩

/-- Every request that the gate gets is one that the panel broadcasts. -/
theorem gateEvent_reached {p : Panel} {e : Event} {request : UiRequest} {rc : Int}
    (h : gateEvent p e = some (.uiRequest request rc)) (ha : Allowed p e) : Reached request := by
  cases e with
  | button button_state has_changed uptime io =>
    simp only [gateEvent, Option.map_eq_some_iff] at h
    obtain ⟨r, hr, heq⟩ := h
    cases heq
    exact asked_reached p (.button button_state has_changed uptime io) request
      (by simp [asked, hr])
  | cancelRingingWork io =>
    simp only [gateEvent] at h
    split at h
    · cases h
      exact Or.inl rfl
    · cases h
  | gate e =>
    cases h
    exact False.elim ha.2.1
  | _ => cases h

/-- The BLE command that enters the DFU mode. -/
def DfuCommand : Event → Prop
  | .gate .dfuEnterCustom => True
  | _ => False

/-- The recovery mode never starts, and the DFU mode only with its command. -/
theorem modes_next {p : Panel} {e : Event} (ha : Allowed p e)
    (h : p.gate.fmdn_recovery_mode = false) :
    (next p e).gate.fmdn_recovery_mode = false ∧
      (¬ DfuCommand e → p.gate.dfu.dfu_mode = false → (next p e).gate.dfu.dfu_mode = false) := by
  rw [next_gate]
  cases hevent : gateEvent p e with
  | none => exact ⟨h, fun _ hdfu => hdfu⟩
  | some ge =>
    show (gate.next p.gate ge).fmdn_recovery_mode = false ∧ (_ → _ →
      (gate.next p.gate ge).dfu.dfu_mode = false)
    cases ge with
    | uiRequest request rc =>
      obtain ⟨hrecovery, hdfu⟩ := reached_modes (g := p.gate) rc (gateEvent_reached hevent ha)
      exact ⟨hrecovery.trans h, fun _ hoff => (congrArg _ hdfu).trans hoff⟩
    | readModeExited mode => cases mode <;> exact ⟨by first | rfl | exact h, fun _ hoff => hoff⟩
    | dfuEnterCustom =>
      refine ⟨h, fun hno _ => absurd ?_ hno⟩
      cases e with
      | gate e =>
        cases hevent
        trivial
      | button button_state has_changed uptime io =>
        simp [gateEvent] at hevent
      | cancelRingingWork io =>
        simp only [gateEvent] at hevent
        split at hevent <;> cases hevent
      | _ => cases hevent
    | connected conn err =>
      simp only [gate.next]
      split <;> exact ⟨h, fun _ hoff => hoff⟩
    | securityChanged conn level err =>
      simp only [gate.next, gate.securityChanged]
      split <;> exact ⟨h, fun _ hoff => hoff⟩
    | gattAccess conn uuid =>
      simp only [gate.next, gate.gattAuthorize, gate.appDfuBtGattOperationAllow]
      split_ifs <;> exact ⟨h, fun _ hoff => hoff⟩
    | dfuTimeoutWork => exact ⟨h, fun _ _ => rfl⟩
    | factoryResetPrepare => exact ⟨h, fun _ _ => rfl⟩
    | reboot => exact ⟨rfl, fun _ _ => rfl⟩
    | _ => exact ⟨h, fun _ hoff => hoff⟩

/-- The recovery mode is never entered, no threshold is ever counted, and without its BLE command
the tag is never in the DFU mode, whatever the user does with the button. -/
theorem the_button_never_starts_recovery_or_dfu (p : Panel) (es : List Event)
    (h : system.Run p es) :
    system.States (fun p => p.gate.fmdn_recovery_mode = false ∧
        p.ring.ui.ui_state_status .RECOVERY_MODE = false ∧ Uncounted p) p es ∧
      (system.Steps (fun _ e => ¬ DfuCommand e) p es →
        system.States (fun p => p.gate.dfu.dfu_mode = false) p es) := by
  obtain ⟨⟨stored, io, rfl⟩, hA⟩ := h
  have hsound := boot_sound stored io
  constructor
  · refine runs.System.states_of_invariant
      (I := fun p => Sound p ∧ p.gate.fmdn_recovery_mode = false) ?_ ?_ ⟨hsound, rfl⟩ hA
    · exact fun p e hp ha => ⟨sound_next p e hp.1 ha, (modes_next ha hp.2).1⟩
    · exact fun p hp => ⟨hp.2, hp.1.bits .RECOVERY_MODE _ (congrArg some hp.2), hp.1.uncounted⟩
  · intro hno
    refine runs.System.states_of_invariant
      (I := fun p => p.gate.fmdn_recovery_mode = false ∧ p.gate.dfu.dfu_mode = false) ?_
      (fun p hp => hp.2) ⟨rfl, rfl⟩ ((runs.System.steps_and _ es).mpr ⟨hA, hno⟩)
    intro p e hp ha
    obtain ⟨hrecovery, hdfu⟩ := modes_next ha.1 hp.1
    exact ⟨hrecovery, hdfu ha.2 hp.2⟩

theorem a_hold_starts_neither_recovery_nor_dfu :
    system.States (fun p => p.gate.fmdn_recovery_mode = false ∧
        p.ring.ui.ui_state_status .RECOVERY_MODE = false ∧ Uncounted p) ownedPanel
          heldThroughRing ∧
      (system.Steps (fun _ e => ¬ DfuCommand e) ownedPanel heldThroughRing →
        system.States (fun p => p.gate.dfu.dfu_mode = false) ownedPanel heldThroughRing) :=
  the_button_never_starts_recovery_or_dfu ownedPanel heldThroughRing heldThroughRing_runs

end smart_track.panel
