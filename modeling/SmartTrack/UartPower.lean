-- The UART device under `app_uart_enable` and `app_uart_disable`. Each call takes the device
-- through two steps that can fail, and one flag says what has come of them; a disable that
-- fails in its second step leaves the flag up and the reception off.
import SmartTrack.Uart

open smart_track.zephyr

namespace smart_track.uart_power

/-! ## The device -/

inductive PmDeviceAction
  | RESUME
  | SUSPEND
  deriving DecidableEq, Repr

/-- What the calls to the driver have brought the device to. -/
structure UartDev where
  resumed : Bool
  rx_enabled : Bool
  deriving DecidableEq

/-- A call that fails leaves the device as it is. -/
def pmDeviceActionRun (uart_dev : UartDev) (action : PmDeviceAction) (rc : Int) : UartDev :=
  if rc ≠ 0 then uart_dev else { uart_dev with resumed := decide (action = .RESUME) }

def uartRxEnable (uart_dev : UartDev) (rc : Int) : UartDev :=
  if rc ≠ 0 then uart_dev else { uart_dev with rx_enabled := true }

def uartRxDisable (uart_dev : UartDev) (rc : Int) : UartDev :=
  if rc ≠ 0 then uart_dev else { uart_dev with rx_enabled := false }

/-- The file over its device. -/
structure Powered where
  uart : uart.Uart
  uart_dev : UartDev

/-- The codes of the calls that `app_uart_enable` makes. `undoRc` is that of the suspend after a
reception that could not be enabled. -/
structure EnableIo where
  resumeRc : Int
  rxEnableRc : Int
  undoRc : Int
  deriving DecidableEq

structure DisableIo where
  rxDisableRc : Int
  suspendRc : Int
  deriving DecidableEq

def appUartEnable (s : Powered) (io : EnableIo) : Powered × Int :=
  if s.uart.uart_is_powered then
    (s, 0)
  else
    let s := { s with uart_dev := pmDeviceActionRun s.uart_dev .RESUME io.resumeRc }
    if io.resumeRc ≠ 0 ∧ io.resumeRc ≠ -EALREADY then
      (s, io.resumeRc)
    else
      let s : Powered :=
        { uart := { s.uart with rx_swap_toggle := false }
          uart_dev := uartRxEnable s.uart_dev io.rxEnableRc }
      if io.rxEnableRc ≠ 0 then
        ({ s with uart_dev := pmDeviceActionRun s.uart_dev .SUSPEND io.undoRc }, io.rxEnableRc)
      else
        ({ s with uart := { s.uart with uart_is_powered := true } }, 0)

/-- The code of `uart_rx_disable` is not looked at. -/
def appUartDisable (s : Powered) (io : DisableIo) : Powered × Int :=
  if s.uart.uart_is_powered = false then
    (s, 0)
  else
    let s := { s with uart_dev := uartRxDisable s.uart_dev io.rxDisableRc }
    let s := { s with uart_dev := pmDeviceActionRun s.uart_dev .SUSPEND io.suspendRc }
    if io.suspendRc = 0 then
      ({ s with uart := { s.uart with uart_is_powered := false } }, io.suspendRc)
    else
      (s, io.suspendRc)

def uartLifetimeTimeoutHandler (s : Powered) (io : DisableIo) : Powered :=
  (appUartDisable
    { s with uart := { s.uart with tag := { s.uart.tag with tool :=
      { s.uart.tag.tool with uart_lifetime_timeout_work := none } } } } io).1

/-! ## The file without its device -/

/-- To the rest of the file, these are the functions of the model without the device. -/
theorem enable_uart (s : Powered) (io : EnableIo) :
    ((appUartEnable s io).1.uart, (appUartEnable s io).2) =
      uart.appUartEnable s.uart
        { device_is_ready := true, callbackRc := 0, resumeRc := io.resumeRc,
          rxEnableRc := io.rxEnableRc } := by
  unfold appUartEnable uart.appUartEnable
  simp only
  split_ifs <;> rfl

theorem disable_uart (s : Powered) (io : DisableIo) :
    ((appUartDisable s io).1.uart, (appUartDisable s io).2) =
      uart.appUartDisable s.uart io.suspendRc := by
  unfold appUartDisable uart.appUartDisable
  simp only
  split_ifs <;> rfl

theorem timeout_uart (s : Powered) (io : DisableIo) :
    (uartLifetimeTimeoutHandler s io).uart =
      uart.uartLifetimeTimeoutHandler s.uart io.suspendRc :=
  congrArg Prod.fst (disable_uart _ io)

/-! ## The runs -/

inductive Event
  | enable (io : EnableIo)
  | disable (io : DisableIo)
  | lifetimeTimeout (io : DisableIo)
  deriving DecidableEq

def next (s : Powered) : Event → Powered
  | .enable io => (appUartEnable s io).1
  | .disable io => (appUartDisable s io).1
  | .lifetimeTimeout io => uartLifetimeTimeoutHandler s io

/-- The calls come in any order, over a device in any state. -/
def system : runs.System Powered Event where
  start s := s.uart.uart_is_powered = false
  allowed _ _ := True
  next := next

/-- An enable that returns 0 leaves the device resumed, and its reception enabled. -/
def TruthfulEnable (s : Powered) : Event → Prop
  | .enable io => (appUartEnable s io).2 = 0 →
    (appUartEnable s io).1.uart_dev = { resumed := true, rx_enabled := true }
  | _ => True

/-- What a disable that gets as far as the device makes of the note: the reception is off under
a flag that is still up. -/
def noteDisable (half : Bool) (s : Powered) (io : DisableIo) : Bool :=
  if s.uart.uart_is_powered = false then half
  else decide (io.suspendRc ≠ 0) && (half || decide (io.rxDisableRc = 0))

/-- The watcher notes a disable that has stopped the reception and then failed to suspend, until
one gets through. -/
def note (half : Bool) (s : Powered) : Event → Bool
  | .enable _ => half
  | .disable io => noteDisable half s io
  | .lifetimeTimeout io => noteDisable half s io

def watched : runs.System (Powered × Bool) Event := system.watch false note

/-- No enable comes after a disable that has failed half-way; and the device is only said to be
resumed already if it is. -/
def EnablesWhole (p : Powered × Bool) : Event → Prop
  | .enable io =>
    (p.1.uart.uart_is_powered = true → p.2 = false) ∧
      (p.1.uart.uart_is_powered = false → io.resumeRc = -EALREADY → io.rxEnableRc = 0 →
        p.1.uart_dev.resumed = true)
  | _ => True

instance (p : Powered × Bool) (e : Event) : Decidable (EnablesWhole p e) := by
  apply Event.casesOn (motive := fun e => Decidable (EnablesWhole p e)) e
  all_goals
    intros
    unfold EnablesWhole
    infer_instance

/-! ## One step -/

/-- Under the flag the device is resumed, and its reception is enabled unless a disable has
failed half-way. -/
structure Sound (p : Powered × Bool) : Prop where
  down : p.1.uart.uart_is_powered = false → p.2 = false
  dev : p.1.uart.uart_is_powered = true →
    p.1.uart_dev = { resumed := true, rx_enabled := ! p.2 }

/-- An enable of a file that is down succeeds just when both calls do. -/
theorem enable_down {s : Powered} (io : EnableIo) (hoff : s.uart.uart_is_powered = false) :
    ((appUartEnable s io).2 = 0 ↔
        (io.resumeRc = 0 ∨ io.resumeRc = -EALREADY) ∧ io.rxEnableRc = 0) ∧
      ((appUartEnable s io).2 ≠ 0 → (appUartEnable s io).1.uart.uart_is_powered = false) ∧
      ((appUartEnable s io).2 = 0 → (appUartEnable s io).1.uart.uart_is_powered = true ∧
        (appUartEnable s io).1.uart_dev =
          { resumed := decide (io.resumeRc = 0) || s.uart_dev.resumed, rx_enabled := true }) := by
  unfold appUartEnable
  rw [hoff]
  simp only [Bool.false_eq_true, if_false]
  by_cases hresume : io.resumeRc ≠ 0 ∧ io.resumeRc ≠ -EALREADY
  · rw [if_pos hresume]
    have hne := hresume.1
    exact ⟨by simp [hresume], fun _ => hoff, fun h => absurd h hne⟩
  · rw [if_neg hresume]
    have hok : io.resumeRc = 0 ∨ io.resumeRc = -EALREADY := by tauto
    by_cases hrx : io.rxEnableRc = 0
    · rw [if_neg (not_not.mpr hrx)]
      refine ⟨iff_of_true rfl ⟨hok, hrx⟩, fun h => absurd rfl h, fun _ => ⟨rfl, ?_⟩⟩
      simp only [uartRxEnable, hrx, ne_eq, not_true_eq_false, if_false, pmDeviceActionRun]
      by_cases hzero : io.resumeRc = 0 <;> simp [hzero]
    · rw [if_pos hrx]
      exact ⟨by simp [hrx], fun _ => hoff, fun h => absurd h hrx⟩

theorem enable_up {s : Powered} (io : EnableIo) (hon : s.uart.uart_is_powered = true) :
    appUartEnable s io = (s, 0) := if_pos hon

/-- With the note a file that is up tells the truth just when no disable has failed half-way. -/
theorem truthful_iff (p : Powered × Bool) (e : Event) (h : Sound p) :
    TruthfulEnable p.1 e ↔ EnablesWhole p e := by
  obtain ⟨s, half⟩ := p
  cases e with
  | enable io =>
    cases hpower : s.uart.uart_is_powered with
    | true =>
      have hdev : s.uart_dev = { resumed := true, rx_enabled := ! half } := h.dev hpower
      simp only [TruthfulEnable, EnablesWhole, enable_up io hpower, hdev, hpower]
      cases half <;> simp
    | false =>
      obtain ⟨hzero, _, hdev⟩ := enable_down io hpower
      constructor
      · intro htrue
        refine ⟨fun hup => absurd (hpower.symm.trans hup) (by decide), fun _ halready hrx => ?_⟩
        have hret := hzero.mpr ⟨Or.inr halready, hrx⟩
        have heq := (hdev hret).2.symm.trans (htrue hret)
        simpa [halready, EALREADY] using heq
      · rintro ⟨_, hreal⟩ hret
        obtain ⟨hresume, hrx⟩ := hzero.mp hret
        rw [(hdev hret).2]
        rcases hresume with hok | halready
        · simp [hok]
        · have hresumed : s.uart_dev.resumed = true := hreal hpower halready hrx
          simp [hresumed]
  | disable io => exact Iff.rfl
  | lifetimeTimeout io => exact Iff.rfl

/-- A disable keeps the note true. -/
theorem disable_sound {s : Powered} {half : Bool} (io : DisableIo) (h : Sound (s, half)) :
    Sound ((appUartDisable s io).1, noteDisable half s io) := by
  unfold appUartDisable noteDisable
  cases hpower : s.uart.uart_is_powered with
  | false =>
    simp only [if_true]
    exact h
  | true =>
    have hdev : s.uart_dev = { resumed := true, rx_enabled := ! half } := h.dev hpower
    simp only [Bool.true_eq_false, if_false]
    by_cases hsuspend : io.suspendRc = 0
    · rw [if_pos hsuspend]
      exact ⟨fun _ => by simp [hsuspend], fun hup => by cases hup⟩
    · rw [if_neg hsuspend]
      refine ⟨fun hoff => absurd (hpower.symm.trans hoff) (by decide), fun _ => ?_⟩
      simp only [pmDeviceActionRun, uartRxDisable, hdev]
      by_cases hrx : io.rxDisableRc = 0 <;> simp [hrx, hsuspend]

theorem sound_next (p : Powered × Bool) (e : Event) (h : Sound p) (hc : EnablesWhole p e) :
    Sound (watched.next p e) := by
  obtain ⟨s, half⟩ := p
  cases e with
  | enable io =>
    show Sound ((appUartEnable s io).1, half)
    cases hpower : s.uart.uart_is_powered with
    | true =>
      rw [enable_up io hpower]
      exact h
    | false =>
      obtain ⟨hzero, hfailed, hdev⟩ := enable_down io hpower
      have hwhole : half = false := h.down hpower
      by_cases hret : (appUartEnable s io).2 = 0
      · obtain ⟨hup, heq⟩ := hdev hret
        refine ⟨fun hoff => absurd (hup.symm.trans hoff) (by decide), fun _ => ?_⟩
        obtain ⟨hresume, hrx⟩ := hzero.mp hret
        show (appUartEnable s io).1.uart_dev = _
        rw [heq, hwhole]
        rcases hresume with hok | halready
        · simp [hok]
        · have hresumed : s.uart_dev.resumed = true := hc.2 hpower halready hrx
          simp [hresumed]
      · refine ⟨fun _ => hwhole, fun hup => ?_⟩
        exact absurd ((hfailed hret).symm.trans hup) (by decide)
  | disable io => exact disable_sound io h
  | lifetimeTimeout io => exact disable_sound io ⟨h.down, h.dev⟩

/-! ## Every run -/

/-- An enable that returns 0 leaves the device receiving, just when none comes after a disable
that has failed half-way and the driver does not take a suspended device for a resumed one. -/
theorem an_enable_is_truthful_unless_a_disable_failed_halfway (s : Powered) (es : List Event)
    (h : system.Run s es) :
    system.Steps TruthfulEnable s es ↔ watched.Steps EnablesWhole (s, false) es := by
  have hsound : Sound (s, false) := by
    refine ⟨fun _ => rfl, fun hup => ?_⟩
    exact absurd (h.1.symm.trans hup) (by decide)
  rw [← system.watch_steps false note (s, false) es]
  exact runs.System.steps_iff_steps (S := watched) (fun p e hp _ => truthful_iff p e hp)
    (fun p e hp _ hc => sound_next p e hp hc) hsound (runs.System.steps_trivial _ es)

/-- The file after power-up, over a device that is suspended. -/
def asleep : Powered :=
  { uart := { tag := tag.factoryTag }, uart_dev := { resumed := false, rx_enabled := false } }

/-- An enable, a disable whose suspend fails, one whose calls all do, and an enable. -/
theorem an_enable_after_a_whole_disable_is_truthful :
    system.Steps TruthfulEnable asleep
      [.enable { resumeRc := 0, rxEnableRc := 0, undoRc := 0 },
        .disable { rxDisableRc := 0, suspendRc := -5 },
        .lifetimeTimeout { rxDisableRc := -5, suspendRc := 0 },
        .enable { resumeRc := 0, rxEnableRc := 0, undoRc := 0 }] :=
  (an_enable_is_truthful_unless_a_disable_failed_halfway asleep _
    ⟨rfl, runs.System.steps_trivial _ _⟩).mpr (by decide)

/-- The reception is stopped, the suspend fails, and the next enable finds nothing to do. -/
theorem an_enable_returns_zero_over_a_deaf_device :
    ¬ ∀ (s : Powered) (es : List Event), system.Run s es →
      system.Steps TruthfulEnable s es := by
  intro h
  have hrun := h asleep
    [.enable { resumeRc := 0, rxEnableRc := 0, undoRc := 0 },
      .disable { rxDisableRc := 0, suspendRc := -5 },
      .enable { resumeRc := 0, rxEnableRc := 0, undoRc := 0 }]
    ⟨rfl, runs.System.steps_trivial _ _⟩
  have hdev := hrun.2.2.1 rfl
  exact absurd hdev (by decide)

end smart_track.uart_power
