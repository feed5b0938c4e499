-- The UART of the production tool (`vision_production.c`): the driver callback,
-- the power management and the work item that hands a chunk on. One buffer with
-- its length is a place for one chunk between the callback and the handler.
import SmartTrack.Mailbox
import SmartTrack.TagSystem

open bytes mailbox smart_track.zephyr smart_track.storage smart_track.tag smart_track.production

namespace smart_track.uart

def UART_INIT_DISABLE_TIMEOUT_SEC : Nat := 30

/-! ## The state of the file -/

/-- The static variables of the file that `ProductionTool` does not have, beside the tag.
`process_buf` is the message of a handler that has not returned yet, with its length. -/
structure Uart where
  tag : Tag
  deferred_rx_work_buf : UartBuf := fun _ => 0
  deferred_rx_work_len : Nat := 0
  uart_is_powered : Bool := false
  rx_swap_toggle : Bool := false
  uart_msg_processing_work : Bool := false
  process_buf : Option (UartBuf × Nat) := none

/-- The two DMA buffers that the driver fills in turn. -/
inductive RxBuf
  | rx_buf_1
  | rx_buf_2
  deriving DecidableEq

/-- What the driver tells the callback. A chunk is the bytes at `rx.buf + rx.offset`. -/
inductive UartEvent
  | UART_RX_RDY (chunk : List UInt8)
  | UART_RX_BUF_REQUEST
  | other
  deriving DecidableEq

/-- A chunk that the callback takes. -/
def Accepted (u : Uart) (chunk : List UInt8) : Prop :=
  u.uart_is_powered = true ∧ 0 < chunk.length ∧ chunk.length ≤ UART_RX_BUF_SIZE

instance (u : Uart) (chunk : List UInt8) : Decidable (Accepted u chunk) :=
  inferInstanceAs (Decidable (_ ∧ _ ∧ _))

/-! ## The functions of the file -/

/-- The callback, and the buffer that it gives to the driver. -/
def uartAsyncCallback (u : Uart) : UartEvent → Uart × Option RxBuf
  | .UART_RX_RDY chunk =>
    if u.uart_is_powered = false then
      (u, none)
    else if 0 < chunk.length ∧ chunk.length ≤ UART_RX_BUF_SIZE then
      ({ u with
          deferred_rx_work_buf := memcpy u.deferred_rx_work_buf 0 chunk
          deferred_rx_work_len := chunk.length
          uart_msg_processing_work := true }, none)
    else
      (u, none)
  | .UART_RX_BUF_REQUEST =>
    ({ u with rx_swap_toggle := !u.rx_swap_toggle },
      some (if u.rx_swap_toggle then .rx_buf_1 else .rx_buf_2))
  | .other => (u, none)

/-- What the device answers while it is brought up. -/
structure EnableIo where
  device_is_ready : Bool
  callbackRc : Int
  resumeRc : Int
  rxEnableRc : Int
  deriving DecidableEq

def appUartInit (u : Uart) (io : EnableIo) : Uart × Int :=
  if io.device_is_ready = false then
    (u, -ENODEV)
  else if io.callbackRc ≠ 0 then
    (u, io.callbackRc)
  else
    ({ u with
        tag := { u.tag with tool := { u.tag.tool with uart_lifetime_timeout_work := none } }
        uart_msg_processing_work := false }, 0)

def appUartEnable (u : Uart) (io : EnableIo) : Uart × Int :=
  if u.uart_is_powered then
    (u, 0)
  else if io.resumeRc ≠ 0 ∧ io.resumeRc ≠ -EALREADY then
    (u, io.resumeRc)
  else
    let u := { u with rx_swap_toggle := false }
    if io.rxEnableRc ≠ 0 then
      (u, io.rxEnableRc)
    else
      ({ u with uart_is_powered := true }, 0)

def appUartDisable (u : Uart) (suspendRc : Int) : Uart × Int :=
  if u.uart_is_powered = false then
    (u, 0)
  else if suspendRc = 0 then
    ({ u with uart_is_powered := false }, suspendRc)
  else
    (u, suspendRc)

def appUartBootSequenceStart (u : Uart) (io : EnableIo) : Uart :=
  let (u, initRc) := appUartInit u io
  if initRc = 0 then
    let (u, enableRc) := appUartEnable u io
    if enableRc = 0 then
      { u with tag := { u.tag with tool :=
          { u.tag.tool with
            uart_lifetime_timeout_work := kWorkSchedule u.tag.tool.uart_lifetime_timeout_work
              (K_SECONDS UART_INIT_DISABLE_TIMEOUT_SEC) } } }
    else
      u
  else
    u

def uartLifetimeTimeoutHandler (u : Uart) (suspendRc : Int) : Uart :=
  (appUartDisable
    { u with tag := { u.tag with tool := { u.tag.tool with uart_lifetime_timeout_work := none } } }
    suspendRc).1

/-- The handler up to its call of `ProcessProductionMsg`. Its buffer starts with what is left
on the stack. -/
def deferredMsgProcessingHandler (u : Uart) (stack : UartBuf) : Uart :=
  let u := { u with uart_msg_processing_work := false }
  if 0 < u.deferred_rx_work_len then
    let process_buf : UartBuf := fun i =>
      if i.val < u.deferred_rx_work_len then u.deferred_rx_work_buf i else stack i
    { u with
      process_buf := some (process_buf, u.deferred_rx_work_len), deferred_rx_work_len := 0 }
  else
    u

/-- `ProcessProductionMsg` runs. A reset zeroes the variables of the file, and the boot brings
the UART up. -/
def processMsg (u : Uart) (io : ToolIo) (bootIo : BootIo) (uartIo : EnableIo) : Uart :=
  match u.process_buf with
  | none => u
  | some (data, len) =>
    let tag := (processProductionMsg u.tag data len io bootIo).1
    if ResetsTag data len then
      appUartBootSequenceStart { tag := tag } uartIo
    else
      { u with tag := tag, process_buf := none }

/-! ## The runs of the file -/

inductive Event
  | callback (evt : UartEvent)
  | deferredMsg (stack : UartBuf)
  | processMsg (io : ToolIo) (bootIo : BootIo) (uartIo : EnableIo)
  | lifetimeTimeout (suspendRc : Int)

def next (u : Uart) : Event → Uart
  | .callback evt => (uartAsyncCallback u evt).1
  | .deferredMsg stack => deferredMsgProcessingHandler u stack
  | .processMsg io bootIo uartIo => processMsg u io bootIo uartIo
  | .lifetimeTimeout suspendRc => uartLifetimeTimeoutHandler u suspendRc

/-- The driver calls at any time. The handlers of the system work queue run one at a time. -/
def Allowed (u : Uart) : Event → Prop
  | .callback _ => True
  | .deferredMsg _ => u.process_buf = none ∧ u.uart_msg_processing_work = true
  | .processMsg .. => u.process_buf ≠ none
  | .lifetimeTimeout _ =>
    u.process_buf = none ∧ u.tag.tool.uart_lifetime_timeout_work ≠ none

instance (u : Uart) (e : Event) : Decidable (Allowed u e) := by
  apply Event.casesOn (motive := fun e => Decidable (Allowed u e)) e
  all_goals
    intros
    unfold Allowed
    infer_instance

/-- The runs start with no chunk that waits, as after a boot. -/
def system : runs.System Uart Event where
  start u := u.deferred_rx_work_len = 0
  allowed := Allowed
  next := next

instance (u : Uart) (e : Event) : Decidable (system.allowed u e) :=
  inferInstanceAs (Decidable (Allowed u e))

/-! ## The buffer as a place for one chunk -/

/-- The chunk that waits for the handler. -/
def waitingChunk (u : Uart) : Option (List UInt8) :=
  if u.deferred_rx_work_len = 0 then
    none
  else
    some ((listOf u.deferred_rx_work_buf).take u.deferred_rx_work_len)

/-- The message that the handler works on resets the tag. -/
def RestartsNow (u : Uart) : Prop := ∃ m ∈ u.process_buf, ResetsTag m.1 m.2

instance (u : Uart) : Decidable (RestartsNow u) :=
  inferInstanceAs (Decidable (∃ m ∈ u.process_buf, ResetsTag m.1 m.2))

/-- The callback puts a chunk there, the handler takes it and passes it on, and a restart
drops it. -/
def chunkAct (u : Uart) : Event → Act (List UInt8)
  | .callback (.UART_RX_RDY chunk) => if Accepted u chunk then .put chunk else .other
  | .deferredMsg _ => .take
  | .processMsg .. => if RestartsNow u then .drop else .other
  | _ => .other

/-- A chunk that waits is submitted. -/
def Submitted (u : Uart) : Prop :=
  u.deferred_rx_work_len ≠ 0 → u.uart_msg_processing_work = true

theorem waitingChunk_none (u : Uart) : waitingChunk u = none ↔ u.deferred_rx_work_len = 0 := by
  unfold waitingChunk
  split <;> simp_all

/-- What the handler passes to `ProcessProductionMsg` is the chunk that waits, with what is left
on the stack after it. -/
theorem deferredMsg_passes_on (u : Uart) (stack : UartBuf) (h : u.process_buf = none) :
    (deferredMsgProcessingHandler u stack).process_buf.map (fun m => (listOf m.1).take m.2) =
      waitingChunk u := by
  unfold deferredMsgProcessingHandler waitingChunk
  simp only
  by_cases hlen : u.deferred_rx_work_len = 0
  · simp [hlen, h]
  · rw [if_pos (Nat.pos_of_ne_zero hlen), if_neg hlen]
    simp only [Option.map_some, Option.some.injEq]
    apply take_listOf_congr
    intro i hi
    exact if_pos hi

theorem deferredMsg_empties (u : Uart) (stack : UartBuf) :
    (deferredMsgProcessingHandler u stack).deferred_rx_work_len = 0 := by
  unfold deferredMsgProcessingHandler
  simp only
  split
  · rfl
  · rename_i hlen
    exact Nat.eq_zero_of_not_pos hlen

theorem bootSequence_len (u : Uart) (io : EnableIo) :
    (appUartBootSequenceStart u io).deferred_rx_work_len = u.deferred_rx_work_len := by
  unfold appUartBootSequenceStart appUartInit appUartEnable
  simp only
  split_ifs <;> rfl

/-- A reset leaves no chunk behind. -/
theorem processMsg_restarts {u : Uart} (h : RestartsNow u) (io : ToolIo) (bootIo : BootIo)
    (uartIo : EnableIo) : (processMsg u io bootIo uartIo).deferred_rx_work_len = 0 := by
  obtain ⟨m, hm, hreset⟩ := h
  unfold processMsg
  rw [Option.mem_def.mp hm]
  simp only [if_pos hreset]
  exact bootSequence_len _ uartIo

theorem processMsg_stays {u : Uart} (h : ¬ RestartsNow u) (io : ToolIo) (bootIo : BootIo)
    (uartIo : EnableIo) :
    ∃ tag, processMsg u io bootIo uartIo = { u with tag := tag, process_buf := none } := by
  unfold processMsg
  split
  · rename_i hmsg
    exact ⟨u.tag, by rw [← hmsg]⟩
  · rename_i data len hmsg
    have hstays : ¬ ResetsTag data len := fun hreset => h ⟨(data, len), hmsg, hreset⟩
    exact ⟨_, if_neg hstays⟩

theorem rxRdy_accepted {u : Uart} {chunk : List UInt8} (h : Accepted u chunk) :
    (uartAsyncCallback u (.UART_RX_RDY chunk)).1 =
      { u with
        deferred_rx_work_buf := memcpy u.deferred_rx_work_buf 0 chunk
        deferred_rx_work_len := chunk.length
        uart_msg_processing_work := true } := by
  obtain ⟨hpower, hlen⟩ := h
  simp [uartAsyncCallback, hpower, hlen]

theorem rxRdy_ignored {u : Uart} {chunk : List UInt8} (h : ¬ Accepted u chunk) :
    (uartAsyncCallback u (.UART_RX_RDY chunk)).1 = u := by
  unfold uartAsyncCallback
  simp only
  split
  · rfl
  · rename_i hpower
    rw [if_neg]
    intro hlen
    exact h ⟨by simpa using hpower, hlen⟩

/-- The last accepted chunk is the one that waits. -/
theorem rxRdy_waiting {u : Uart} {chunk : List UInt8} (h : Accepted u chunk) :
    waitingChunk (uartAsyncCallback u (.UART_RX_RDY chunk)).1 = some chunk := by
  rw [rxRdy_accepted h]
  unfold waitingChunk
  rw [if_neg (Nat.ne_of_gt h.2.1), take_memcpy _ h.2.2]

/-- Every other event leaves the place as it is. -/
theorem other_chunk {u : Uart} {e : Event} (h : chunkAct u e = .other) :
    waitingChunk (next u e) = waitingChunk u ∧ (Submitted u → Submitted (next u e)) := by
  cases e with
  | callback evt =>
    cases evt with
    | UART_RX_RDY chunk =>
      have hignored : ¬ Accepted u chunk := by
        intro hacc
        rw [chunkAct, if_pos hacc] at h
        cases h
      rw [next, rxRdy_ignored hignored]
      exact ⟨rfl, id⟩
    | UART_RX_BUF_REQUEST => exact ⟨rfl, id⟩
    | other => exact ⟨rfl, id⟩
  | deferredMsg stack => cases h
  | processMsg io bootIo uartIo =>
    have hstays : ¬ RestartsNow u := by
      intro hr
      rw [chunkAct, if_pos hr] at h
      cases h
    obtain ⟨tag, heq⟩ := processMsg_stays hstays io bootIo uartIo
    rw [next, heq]
    exact ⟨rfl, id⟩
  | lifetimeTimeout suspendRc =>
    rw [next]
    unfold uartLifetimeTimeoutHandler appUartDisable
    simp only
    split_ifs <;> exact ⟨rfl, id⟩

theorem submitted_next (u : Uart) (e : Event) (hs : Submitted u) (_ha : system.allowed u e) :
    Submitted (next u e) := by
  cases e with
  | callback evt =>
    cases evt with
    | UART_RX_RDY chunk =>
      by_cases hacc : Accepted u chunk
      · rw [next, rxRdy_accepted hacc]
        exact fun _ => rfl
      · rw [next, rxRdy_ignored hacc]
        exact hs
    | UART_RX_BUF_REQUEST => exact hs
    | other => exact hs
  | deferredMsg stack => exact fun hlen => absurd (deferredMsg_empties u stack) hlen
  | processMsg io bootIo uartIo =>
    by_cases hr : RestartsNow u
    · exact fun hlen => absurd (processMsg_restarts hr io bootIo uartIo) hlen
    · exact (other_chunk (e := .processMsg io bootIo uartIo) (if_neg hr)).2 hs
  | lifetimeTimeout suspendRc => exact (other_chunk (e := .lifetimeTimeout suspendRc) rfl).2 hs

/-- The receive buffer. A message is pending until `ProcessProductionMsg` is done with it. -/
def chunkBox : Mailbox system (List UInt8) where
  Inv := Submitted
  content := waitingChunk
  pending u := u.uart_msg_processing_work || u.process_buf.isSome
  act := chunkAct
  inv_next := submitted_next
  submitted u hs hne := by
    have hwork := hs (fun hlen => hne ((waitingChunk_none u).mpr hlen))
    simp [hwork]
  put_empty u e chunk hs _ hact _ := by
    cases e with
    | callback evt =>
      cases evt with
      | UART_RX_RDY data =>
        rw [chunkAct] at hact
        split at hact
        · rename_i hacc
          cases hact
          exact Or.inr (rxRdy_waiting hacc)
        · cases hact
      | UART_RX_BUF_REQUEST => cases hact
      | other => cases hact
    | deferredMsg stack => cases hact
    | processMsg io bootIo uartIo =>
      rw [chunkAct] at hact
      split at hact <;> cases hact
    | lifetimeTimeout suspendRc => cases hact
  emptied u e _ _ hact := by
    rw [waitingChunk_none]
    cases e with
    | callback evt =>
      exfalso
      cases evt with
      | UART_RX_RDY chunk =>
        rw [chunkAct] at hact
        split at hact <;> simp at hact
      | UART_RX_BUF_REQUEST => simp [chunkAct] at hact
      | other => simp [chunkAct] at hact
    | deferredMsg stack => exact deferredMsg_empties u stack
    | processMsg io bootIo uartIo =>
      by_cases hr : RestartsNow u
      · exact processMsg_restarts hr io bootIo uartIo
      · simp [chunkAct, hr] at hact
    | lifetimeTimeout suspendRc => simp [chunkAct] at hact
  untouched _ _ _ _ hact := (other_chunk hact).1

/-! ## The law -/

/-- A chunk finds the buffer empty, and so does a restart. -/
def StandsAlone (u : Uart) : Event → Prop
  | .callback (.UART_RX_RDY chunk) => Accepted u chunk → u.deferred_rx_work_len = 0
  | .processMsg .. => RestartsNow u → u.deferred_rx_work_len = 0
  | _ => True

theorem clean_iff (u : Uart) (e : Event) : chunkBox.Clean u e ↔ StandsAlone u e := by
  cases e with
  | callback evt =>
    cases evt with
    | UART_RX_RDY chunk =>
      simp only [Mailbox.Clean, chunkBox, chunkAct, StandsAlone]
      by_cases hacc : Accepted u chunk
      · simp only [waitingChunk_none, hacc, if_true, true_implies]
        exact and_iff_left (rxRdy_waiting hacc)
      · simp [hacc]
    | UART_RX_BUF_REQUEST => exact Iff.rfl
    | other => exact Iff.rfl
  | deferredMsg stack => exact Iff.rfl
  | processMsg io bootIo uartIo =>
    simp only [Mailbox.Clean, chunkBox, chunkAct, StandsAlone]
    by_cases hr : RestartsNow u
    · simp only [waitingChunk_none, hr, if_true, true_implies]
    · simp [hr]
  | lifetimeTimeout suspendRc => exact Iff.rfl

/-- Once no submitted work is pending, `ProcessProductionMsg` was given just the chunks that
were received, in order and each once, if and only if every chunk, and every restart, found
the buffer empty. -/
theorem chunks_are_passed_on_once_while_each_finds_the_buffer_empty (u : Uart) (es : List Event)
    (h : system.Run u es)
    (hidle : (system.run u es).uart_msg_processing_work = false ∧
      (system.run u es).process_buf = none) :
    let log := (chunkBox.logged.run (u, {}) es).2
    log.taken = log.put ↔ system.Steps StandsAlone u es := by
  obtain ⟨hempty, hA⟩ := h
  have hs : Submitted u := fun hlen => absurd hempty hlen
  have hpending : chunkBox.pending (system.run u es) = false := by
    simp [chunkBox, hidle.1, hidle.2]
  rw [← runs.System.steps_congr submitted_next (fun u e _ _ => clean_iff u e) hs hA]
  exact chunkBox.taken_eq_put_iff hs ((waitingChunk_none u).mpr hempty) hA hpending

def quietEnable : EnableIo :=
  { device_is_ready := true, callbackRc := 0, resumeRc := 0, rxEnableRc := 0 }

/-- A UART that a boot has brought up. -/
def bootedUart : Uart := appUartBootSequenceStart { tag := factoryTag } quietEnable

def noStack : UartBuf := fun _ => 0

/-- The production tool sends two requests, the second when the first is done. -/
def requestsInTurn : List Event :=
  [.callback (.UART_RX_RDY [2, 0x16, 0xE8]), .deferredMsg noStack,
    .processMsg quietBoot.load quietBoot quietEnable,
    .callback (.UART_RX_RDY [2, 0x0B, 0xF3]), .deferredMsg noStack,
    .processMsg quietBoot.load quietBoot quietEnable]

theorem two_chunks_in_turn_are_passed_on :
    let log := (chunkBox.logged.run (bootedUart, {}) requestsInTurn).2
    log.taken = log.put :=
  (chunks_are_passed_on_once_while_each_finds_the_buffer_empty bootedUart requestsInTurn
    ⟨rfl, by decide⟩ (by decide)).mpr
      ⟨fun _ => rfl, trivial, fun _ => by decide, fun _ => by decide, trivial,
        fun _ => by decide, trivial⟩

/-- Two chunks arrive before the work item runs: the first is lost. -/
theorem a_second_chunk_overwrites_the_first :
    ¬ ∀ (u : Uart) (es : List Event), system.Run u es →
      ((system.run u es).uart_msg_processing_work = false ∧
        (system.run u es).process_buf = none) →
          let log := (chunkBox.logged.run (u, {}) es).2
          log.taken = log.put := by
  intro h
  have hlost := h bootedUart
    [.callback (.UART_RX_RDY [2, 0x16, 0xE8]), .callback (.UART_RX_RDY [2, 0x0B, 0xF3]),
      .deferredMsg noStack,
      .processMsg quietBoot.load quietBoot quietEnable]
    ⟨rfl, by decide⟩ (by decide)
  revert hlost
  decide

end smart_track.uart
