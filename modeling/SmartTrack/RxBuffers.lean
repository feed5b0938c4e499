-- The two DMA buffers of the UART. The driver asks for the next buffer while it fills one; the
-- callback hands them out in turn, and starts with the second at each enable. The driver is
-- taken as its interface has it: it refuses to start a reception that runs, and to stop one
-- that does not.
import SmartTrack.UartPower

open smart_track.uart (RxBuf UartEvent uartAsyncCallback)
open smart_track.uart_power (Powered EnableIo DisableIo appUartEnable appUartDisable
  uartLifetimeTimeoutHandler)
open smart_track.zephyr (EALREADY)

namespace smart_track.rx_buffers

/-! ## The driver beside the file -/

/-- The buffer that the driver fills, and the one that it goes on with. -/
structure Reception where
  active : RxBuf
  following : Option RxBuf := none
  deriving DecidableEq

/-- The file over its device, with the reception that runs. -/
structure Receiver where
  power : Powered
  rx : Option Reception := none

/-- The call of `uart_rx_enable` is made, and succeeds. -/
def StartsReception (s : Receiver) (io : EnableIo) : Prop :=
  s.power.uart.uart_is_powered = false ∧ (io.resumeRc = 0 ∨ io.resumeRc = -EALREADY) ∧
    io.rxEnableRc = 0

instance (s : Receiver) (io : EnableIo) : Decidable (StartsReception s io) :=
  inferInstanceAs (Decidable (_ ∧ _ ∧ _))

/-- The call of `uart_rx_disable` is made, and succeeds. -/
def StopsReception (s : Receiver) (io : DisableIo) : Prop :=
  s.power.uart.uart_is_powered = true ∧ io.rxDisableRc = 0

instance (s : Receiver) (io : DisableIo) : Decidable (StopsReception s io) :=
  inferInstanceAs (Decidable (_ ∧ _))

def enable (s : Receiver) (io : EnableIo) : Receiver :=
  { power := (appUartEnable s.power io).1
    rx := if StartsReception s io then some { active := .rx_buf_1 } else s.rx }

def disable (s : Receiver) (io : DisableIo) : Receiver :=
  { power := (appUartDisable s.power io).1
    rx := if StopsReception s io then none else s.rx }

def timeout (s : Receiver) (io : DisableIo) : Receiver :=
  { power := uartLifetimeTimeoutHandler s.power io
    rx := if StopsReception s io then none else s.rx }

/-- An event of the driver, and the buffer that the callback answers it with. -/
def callback (s : Receiver) (e : UartEvent) : Receiver :=
  let (u, buf) := uartAsyncCallback s.power.uart e
  { power := { s.power with uart := u }
    rx := s.rx.map (fun r => { r with following := buf.or r.following }) }

/-! ## The runs -/

/-- `bufferFull` takes the driver to the next buffer, and ends the reception if there is none. -/
inductive Event
  | enable (io : EnableIo)
  | disable (io : DisableIo)
  | lifetimeTimeout (io : DisableIo)
  | rxRdy (chunk : List UInt8)
  | bufRequest
  | bufferFull

def next (s : Receiver) : Event → Receiver
  | .enable io => enable s io
  | .disable io => disable s io
  | .lifetimeTimeout io => timeout s io
  | .rxRdy chunk => callback s (.UART_RX_RDY chunk)
  | .bufRequest => callback s .UART_RX_BUF_REQUEST
  | .bufferFull => { s with rx := s.rx.bind (fun r => r.following.map (fun b => { active := b })) }

/-- What the interface of the driver promises. A reception that runs is not started again, and a
disable is only refused when none runs; chunks come while one runs, and a buffer is only asked for
while the driver has none to go on with. -/
def Allowed (s : Receiver) : Event → Prop
  | .enable io => StartsReception s io → s.rx = none
  | .disable io => s.power.uart.uart_is_powered = true → io.rxDisableRc ≠ 0 → s.rx = none
  | .lifetimeTimeout io => s.power.uart.uart_is_powered = true → io.rxDisableRc ≠ 0 → s.rx = none
  | .rxRdy _ => s.rx ≠ none
  | .bufRequest => ∃ r ∈ s.rx, r.following = none
  | .bufferFull => s.rx ≠ none

instance (s : Receiver) (e : Event) : Decidable (Allowed s e) := by
  apply Event.casesOn (motive := fun e => Decidable (Allowed s e)) e
  all_goals
    intros
    unfold Allowed
    infer_instance

/-- The runs start with the UART down. -/
def system : runs.System Receiver Event where
  start s := s.power.uart.uart_is_powered = false ∧ s.rx = none
  allowed := Allowed
  next := next

instance (s : Receiver) (e : Event) : Decidable (system.allowed s e) :=
  inferInstanceAs (Decidable (Allowed s e))

/-! ## The law -/

/-- The driver is never handed the buffer that it fills. -/
def HandsOverTheOther (s : Receiver) : Event → Prop
  | .bufRequest => ∀ r ∈ s.rx, ∀ buf ∈ (uartAsyncCallback s.power.uart .UART_RX_BUF_REQUEST).2,
      buf ≠ r.active
  | _ => True

/-- The buffer that was handed out last: the one to go on with, or the one that is filled. -/
def lastHanded (r : Reception) : RxBuf := r.following.getD r.active

/-- The toggle tells which buffer went out last, and the two buffers of a reception differ. -/
structure InTurn (s : Receiver) (r : Reception) : Prop where
  toggle : s.power.uart.rx_swap_toggle = decide (lastHanded r = .rx_buf_2)
  apart : ∀ buf ∈ r.following, buf ≠ r.active

/-- A UART that is down does not receive. -/
structure Sound (s : Receiver) : Prop where
  down : s.power.uart.uart_is_powered = false → s.rx = none
  turns : ∀ r ∈ s.rx, InTurn s r

theorem sound_of_none {s : Receiver} (h : s.rx = none) : Sound s := by
  refine ⟨fun _ => h, ?_⟩
  intro r hr
  rw [h] at hr
  cases hr

theorem enable_powered (s : Powered) (io : EnableIo) (h : s.uart.uart_is_powered = true) :
    (appUartEnable s io).1 = s := by
  unfold appUartEnable
  rw [if_pos h]

/-- An enable that starts a reception also starts the turns of the buffers. -/
theorem enable_starts {s : Receiver} {io : EnableIo} (h : StartsReception s io) :
    (appUartEnable s.power io).1.uart.uart_is_powered = true ∧
      (appUartEnable s.power io).1.uart.rx_swap_toggle = false := by
  obtain ⟨hdown, hresume, hrx⟩ := h
  have hpast : ¬ (io.resumeRc ≠ 0 ∧ io.resumeRc ≠ -EALREADY) := by
    rintro ⟨h0, halready⟩
    exact hresume.elim h0 halready
  unfold appUartEnable
  simp only [hdown, hrx, Bool.false_eq_true, if_false, if_neg hpast, ne_eq, not_true_eq_false,
    and_self]

theorem sound_enable {s : Receiver} (io : EnableIo) (h : Sound s) : Sound (enable s io) := by
  unfold enable
  by_cases hstart : StartsReception s io
  · obtain ⟨hpowered, htoggle⟩ := enable_starts hstart
    rw [if_pos hstart]
    refine ⟨fun hdown => absurd (hpowered.symm.trans hdown) (by decide), ?_⟩
    rintro r ⟨⟩
    refine ⟨htoggle, ?_⟩
    rintro buf ⟨⟩
  · rw [if_neg hstart]
    cases hpowered : s.power.uart.uart_is_powered with
    | false => exact sound_of_none (h.down hpowered)
    | true =>
      rw [enable_powered s.power io hpowered]
      exact h

/-- After a disable nothing is received: a reception that runs is stopped. -/
theorem stopped {s : Receiver} {io : DisableIo} (h : Sound s)
    (ha : s.power.uart.uart_is_powered = true → io.rxDisableRc ≠ 0 → s.rx = none) :
    (if StopsReception s io then none else s.rx) = none := by
  split
  · rfl
  · rename_i hgoes
    cases hpowered : s.power.uart.uart_is_powered with
    | false => exact h.down hpowered
    | true => exact ha hpowered (fun hrc => hgoes ⟨hpowered, hrc⟩)

/-- A chunk leaves the power and the turns alone. -/
theorem rxRdy_frame (u : uart.Uart) (chunk : List UInt8) :
    (uartAsyncCallback u (.UART_RX_RDY chunk)).1.uart_is_powered = u.uart_is_powered ∧
      (uartAsyncCallback u (.UART_RX_RDY chunk)).1.rx_swap_toggle = u.rx_swap_toggle ∧
      (uartAsyncCallback u (.UART_RX_RDY chunk)).2 = none := by
  unfold uartAsyncCallback
  simp only
  split_ifs <;> exact ⟨rfl, rfl, rfl⟩

theorem sound_rxRdy {s : Receiver} (chunk : List UInt8) (h : Sound s) :
    Sound (callback s (.UART_RX_RDY chunk)) := by
  obtain ⟨hpowered, htoggle, hbuf⟩ := rxRdy_frame s.power.uart chunk
  have hrx : (callback s (.UART_RX_RDY chunk)).rx = s.rx := by
    unfold callback
    simp only [hbuf, Option.none_or]
    simp
  constructor
  · intro hdown
    rw [hrx]
    exact h.down (hpowered.symm.trans hdown)
  · intro r hr
    rw [hrx] at hr
    exact ⟨htoggle.trans (h.turns r hr).toggle, (h.turns r hr).apart⟩

/-- The buffer that is handed out is the one that did not go out last. -/
theorem request_hands_over {s : Receiver} {r : Reception} (h : InTurn s r) :
    ∃ buf, (uartAsyncCallback s.power.uart .UART_RX_BUF_REQUEST).2 = some buf ∧
      buf ≠ lastHanded r ∧ (! s.power.uart.rx_swap_toggle) = decide (buf = .rx_buf_2) := by
  refine ⟨_, rfl, ?_, ?_⟩
  · rw [h.toggle]
    cases lastHanded r <;> decide
  · cases s.power.uart.rx_swap_toggle <;> decide

theorem sound_request {s : Receiver} (h : Sound s) (ha : Allowed s .bufRequest) :
    Sound (callback s .UART_RX_BUF_REQUEST) := by
  obtain ⟨r, hrx, hnone⟩ := ha
  have hturn := h.turns r hrx
  obtain ⟨buf, hbuf, hother, htoggle⟩ := request_hands_over hturn
  have hnext : (callback s .UART_RX_BUF_REQUEST).rx =
      some { active := r.active, following := some buf } := by
    show s.rx.map (fun r => { r with following :=
      (uartAsyncCallback s.power.uart .UART_RX_BUF_REQUEST).2.or r.following }) = _
    rw [hbuf, Option.mem_def.mp hrx]
    rfl
  constructor
  · intro hdown
    cases (h.down hdown).symm.trans hrx
  · intro r' hr'
    rw [hnext] at hr'
    cases hr'
    refine ⟨htoggle, ?_⟩
    rintro b ⟨⟩
    unfold lastHanded at hother
    rw [hnone] at hother
    exact hother

theorem sound_bufferFull {s : Receiver} (h : Sound s) : Sound (next s .bufferFull) := by
  cases hrx : s.rx with
  | none => exact sound_of_none (by rw [next, hrx]; rfl)
  | some r =>
    cases hfollowing : r.following with
    | none => exact sound_of_none (by simp [next, hrx, hfollowing])
    | some b =>
      have hnext : (next s .bufferFull).rx = some { active := b } := by
        simp [next, hrx, hfollowing]
      have hturn := h.turns r hrx
      constructor
      · intro hdown
        cases (h.down hdown).symm.trans hrx
      · intro r' hr'
        rw [hnext] at hr'
        cases hr'
        refine ⟨?_, by rintro buf ⟨⟩⟩
        have htoggle := hturn.toggle
        unfold lastHanded at htoggle
        rw [hfollowing] at htoggle
        exact htoggle

theorem sound_next (s : Receiver) (e : Event) (h : Sound s) (ha : Allowed s e) :
    Sound (next s e) := by
  cases e with
  | enable io => exact sound_enable io h
  | disable io => exact sound_of_none (stopped h ha)
  | lifetimeTimeout io => exact sound_of_none (stopped h ha)
  | rxRdy chunk => exact sound_rxRdy chunk h
  | bufRequest => exact sound_request h ha
  | bufferFull => exact sound_bufferFull h

theorem hands_over_the_other {s : Receiver} (e : Event) (h : Sound s) (ha : Allowed s e) :
    HandsOverTheOther s e := by
  cases e with
  | bufRequest =>
    obtain ⟨r, hrx, hnone⟩ := ha
    intro r' hr' buf hbuf
    cases hrx.symm.trans hr'
    obtain ⟨other, hother, hne, _⟩ := request_hands_over (h.turns r hrx)
    rw [hother] at hbuf
    cases hbuf
    unfold lastHanded at hne
    rw [hnone] at hne
    exact hne
  | _ => trivial

/-- Over every run, with calls that fail as the interface of the driver lets them, the callback
never hands the driver the buffer that it fills, and the two buffers of a reception always
differ. -/
theorem the_driver_never_gets_the_buffer_it_fills (s : Receiver) (es : List Event)
    (h : system.Run s es) :
    system.Steps HandsOverTheOther s es ∧
      system.States (fun s => ∀ r ∈ s.rx, ∀ buf ∈ r.following, buf ≠ r.active) s es := by
  obtain ⟨⟨hdown, hnone⟩, hA⟩ := h
  have hstep : ∀ s e, Sound s → system.allowed s e → HandsOverTheOther s e ∧ Sound (next s e) :=
    fun s e hs ha => ⟨hands_over_the_other e hs ha, sound_next s e hs ha⟩
  constructor
  · exact (runs.System.steps_of_invariant hstep (sound_of_none hnone) hA).1
  · exact runs.System.states_of_invariant sound_next (fun s hs r hr => (hs.turns r hr).apart)
      (sound_of_none hnone) hA

/-- Three buffers are filled, and the UART goes down and comes up again. -/
def threeBuffers : List Event :=
  [.enable { resumeRc := 0, rxEnableRc := 0, undoRc := 0 }, .bufRequest, .bufferFull, .bufRequest,
    .bufferFull, .disable { rxDisableRc := 0, suspendRc := 0 },
    .enable { resumeRc := -EALREADY, rxEnableRc := 0, undoRc := 0 }, .bufRequest]

theorem three_buffers_go_out_in_turn :
    system.Steps HandsOverTheOther { power := uart_power.asleep } threeBuffers ∧
      system.States (fun s => ∀ r ∈ s.rx, ∀ buf ∈ r.following, buf ≠ r.active)
        { power := uart_power.asleep } threeBuffers :=
  the_driver_never_gets_the_buffer_it_fills { power := uart_power.asleep } threeBuffers
    ⟨⟨rfl, rfl⟩, by decide⟩

end smart_track.rx_buffers
