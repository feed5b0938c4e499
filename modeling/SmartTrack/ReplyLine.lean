-- The line to the production tool. A reply is built in `tx_buf` and goes out of it byte by byte
-- while the next message may already be handled: that one writes over a buffer that is still
-- being sent, and its own reply is refused by a driver that is busy.
import SmartTrack.Framing
import SmartTrack.Prefixed
import SmartTrack.Uart

open bytes smart_track.zephyr smart_track.tag smart_track.production
open smart_track.uart (Uart UartEvent EnableIo uartAsyncCallback deferredMsgProcessingHandler
  uartLifetimeTimeoutHandler appUartBootSequenceStart)
open smart_track.framing (replyCase replyFrame_length)

namespace smart_track.reply_line

/-! ## The driver beside the file -/

def EBUSY : Int := 16

/-- A transmission that runs: how many bytes of `tx_buf` it was started with, and how many are
out. -/
structure Transmission where
  len : Nat
  sent : Nat := 0
  deriving DecidableEq

/-- The file with the transmission of its driver, and what has gone over the line. `restarting`
is the reset that `app_self_restart` is about to make, with what the boot will meet. -/
structure Line where
  uart : Uart
  tx : Option Transmission := none
  restarting : Option (BootIo × EnableIo) := none
  wire : List UInt8 := []

abbrev Line.tx_buf (s : Line) : Bytes UART_TX_BUF_SIZE := s.uart.tag.tool.tx_buf

/-- The driver sends one buffer at a time. `rc` is what it says to a call that finds it free. -/
def uartTx (s : Line) (len : Nat) (rc : Int) : Line × Int :=
  if s.tx ≠ none then
    (s, -EBUSY)
  else if rc ≠ 0 then
    (s, rc)
  else
    ({ s with tx := some { len := len } }, 0)

def appUartTransmit (s : Line) (len : Nat) (rc : Int) : Line × Int :=
  if s.uart.uart_is_powered = false then
    (s, -EACCES)
  else
    uartTx s len rc

/-- The handler does not look at the code of `app_uart_transmit`. -/
def answer (s : Line) (sent : Option (List UInt8)) (rc : Int) : Line :=
  match sent with
  | some frame => (appUartTransmit s frame.length rc).1
  | none => s

/-- `ProcessProductionMsg`, up to the reset if it comes to one. -/
def processUpToReset (t : Tag) (data : UartBuf) (len : Nat) (io : ToolIo) (bootIo : BootIo) :
    Tag × Option (List UInt8) :=
  if ResetsTag data len then
    let (t, sent, _) := toolCommand (keptAwake t) data
    (t, sent)
  else
    processProductionMsg t data len io bootIo

/-- The handler works on its message. -/
def processMsg (s : Line) (io : ToolIo) (bootIo : BootIo) (uartIo : EnableIo) (rc : Int) : Line :=
  match s.uart.process_buf with
  | none => s
  | some (data, len) =>
    let (tag, sent) := processUpToReset s.uart.tag data len io bootIo
    let s :=
      if ResetsTag data len then
        { s with uart := { s.uart with tag := tag }, restarting := some (bootIo, uartIo) }
      else
        { s with uart := { s.uart with tag := tag, process_buf := none } }
    answer s sent rc

/-- The reset, and the boot that follows. -/
def restart (s : Line) : Line :=
  match s.restarting with
  | none => s
  | some (bootIo, uartIo) =>
    { s with
      uart := appUartBootSequenceStart { tag := sysReboot s.uart.tag bootIo } uartIo
      restarting := none }

/-- The driver reads a byte of `tx_buf` when its turn has come. -/
def byteOut (s : Line) : Line :=
  match s.tx with
  | none => s
  | some tx =>
    { s with
      tx := some { tx with sent := tx.sent + 1 }
      wire := s.wire ++ [(listOf s.tx_buf).getD tx.sent 0] }

/-! ## The runs -/

inductive Event
  | callback (evt : UartEvent)
  | deferredMsg (stack : UartBuf)
  | processMsg (io : ToolIo) (bootIo : BootIo) (uartIo : EnableIo) (rc : Int)
  | restart
  | lifetimeTimeout (suspendRc : Int)
  | byteOut
  | txDone

def next (s : Line) : Event → Line
  | .callback evt => { s with uart := (uartAsyncCallback s.uart evt).1 }
  | .deferredMsg stack => { s with uart := deferredMsgProcessingHandler s.uart stack }
  | .processMsg io bootIo uartIo rc => processMsg s io bootIo uartIo rc
  | .restart => restart s
  | .lifetimeTimeout suspendRc => { s with uart := uartLifetimeTimeoutHandler s.uart suspendRc }
  | .byteOut => byteOut s
  | .txDone => { s with tx := none }

/-- The handlers run one at a time. Before the device is suspended `app_uart_disable` sleeps for
10 ms: at the default baud rate of the board, which none of these files sets, a whole `tx_buf` goes
out in that time. The sleeps before a reset are longer. -/
def Allowed (s : Line) : Event → Prop
  | .callback _ => True
  | .deferredMsg stack => uart.Allowed s.uart (.deferredMsg stack)
  | .processMsg .. => s.uart.process_buf ≠ none ∧ s.restarting = none
  | .restart => s.restarting ≠ none ∧ s.tx = none
  | .lifetimeTimeout suspendRc =>
    uart.Allowed s.uart (.lifetimeTimeout suspendRc) ∧
      (s.uart.uart_is_powered = true → s.tx = none)
  | .byteOut => ∃ tx ∈ s.tx, tx.sent < tx.len
  | .txDone => ∃ tx ∈ s.tx, tx.sent = tx.len

instance (s : Line) (e : Event) : Decidable (Allowed s e) := by
  apply Event.casesOn (motive := fun e => Decidable (Allowed s e)) e
  all_goals
    intros
    unfold Allowed
    infer_instance

/-- The runs start after a boot, with a line that nothing has gone over. -/
def system : runs.System Line Event where
  start s := s.uart.deferred_rx_work_len = 0 ∧ s.tx = none ∧ s.restarting = none ∧ s.wire = []
  allowed := Allowed
  next := next

instance (s : Line) (e : Event) : Decidable (system.allowed s e) :=
  inferInstanceAs (Decidable (Allowed s e))

/-! ## The law -/

/-- The replies that the handler builds. -/
def replies (s : Line) : Event → List (List UInt8)
  | .processMsg io bootIo _ _ =>
    (s.uart.process_buf.bind
      (fun m => (processProductionMsg s.uart.tag m.1 m.2 io bootIo).2)).toList
  | _ => []

/-- What of `tx_buf` is still to be sent. -/
def outstanding (s : Line) : List UInt8 :=
  match s.tx with
  | none => []
  | some tx => ((listOf s.tx_buf).take tx.len).drop tx.sent

/-- A frame has a byte more than its first byte says. -/
def frameSize (first : UInt8) : Nat := first.toNat + 1

/-- Once the last transmission is through, the tool that goes by the first byte of each frame has
read the replies of the run, in order and nothing else. -/
def TheToolReads (s : Line) (es : List Event) : Prop :=
  prefixed.read frameSize ((system.run s es).wire ++ outstanding (system.run s es)) =
    { frames := system.outputs replies s es, part := [] }

/-- The message is a frame, with a command of the list. -/
def Answered (data : UartBuf) (len : Nat) : Prop :=
  (2 ≤ len ∧ checksumValid data len = true) ∧ ToolCommand.ofByte (data 1) ≠ none

/-- The handler works on a message that it answers. -/
def IsAnswered (s : Line) : Prop := ∃ m ∈ s.uart.process_buf, Answered m.1 m.2

/-- A message is answered while the UART is up, the reply before is out, and the driver takes
the new one. -/
def OnAFreeLine (s : Line) : Event → Prop
  | .processMsg _ _ _ rc =>
    IsAnswered s → s.uart.uart_is_powered = true ∧ s.tx = none ∧ rc = 0
  | _ => True

instance (data : UartBuf) (len : Nat) : Decidable (Answered data len) :=
  inferInstanceAs (Decidable ((_ ∧ _) ∧ _))

instance (s : Line) : Decidable (IsAnswered s) :=
  inferInstanceAs (Decidable (∃ m ∈ s.uart.process_buf, _))

instance (s : Line) (e : Event) : Decidable (OnAFreeLine s e) := by
  apply Event.casesOn (motive := fun e => Decidable (OnAFreeLine s e)) e
  all_goals
    intros
    unfold OnAFreeLine
    infer_instance

/-! ## The file without its line -/

theorem transmit_eq (s : Line) (len : Nat) (rc : Int) :
    (appUartTransmit s len rc).1 =
      { s with tx :=
          if s.uart.uart_is_powered = true ∧ s.tx = none ∧ rc = 0 then some { len := len }
          else s.tx } := by
  by_cases hfree : s.uart.uart_is_powered = true ∧ s.tx = none ∧ rc = 0
  · obtain ⟨hpower, htx, hrc⟩ := hfree
    simp [appUartTransmit, uartTx, hpower, htx, hrc]
  · rw [if_neg hfree]
    unfold appUartTransmit uartTx
    split_ifs with hpower htx hrc
    · rfl
    · rfl
    · rfl
    · exact absurd ⟨Bool.not_eq_false _ ▸ hpower, not_not.mp htx, not_not.mp hrc⟩ hfree

theorem answer_uart (s : Line) (sent : Option (List UInt8)) (rc : Int) :
    (answer s sent rc).uart = s.uart := by
  cases sent with
  | none => rfl
  | some frame => rw [answer, transmit_eq]

theorem answer_restarting (s : Line) (sent : Option (List UInt8)) (rc : Int) :
    (answer s sent rc).restarting = s.restarting := by
  cases sent with
  | none => rfl
  | some frame => rw [answer, transmit_eq]

theorem upToReset_stays (t : Tag) {data : UartBuf} {len : Nat} (io : ToolIo) (bootIo : BootIo)
    (h : ¬ ResetsTag data len) :
    processUpToReset t data len io bootIo = processProductionMsg t data len io bootIo := if_neg h

theorem upToReset_sent (t : Tag) (data : UartBuf) (len : Nat) (io : ToolIo) (bootIo : BootIo) :
    (processUpToReset t data len io bootIo).2 =
      (processProductionMsg t data len io bootIo).2 := by
  unfold processUpToReset
  split
  · rename_i hreset
    rw [toolMsg_valid t data len io bootIo hreset.1 hreset.2.1]
  · rfl

/-- What the reset finds is as good as the tag that the message found. -/
theorem sysReboot_upToReset (t : Tag) {data : UartBuf} {len : Nat} (io : ToolIo)
    (bootIo bootIo' : BootIo) (h : ResetsTag data len) :
    sysReboot (processUpToReset t data len io bootIo).1 bootIo' = sysReboot t bootIo' := by
  obtain ⟨_, hreset⟩ := toolCommand_frame (keptAwake t) data
  rw [← toolMsg_reset t io bootIo' h, toolMsg_valid t data len io bootIo' h.1 h.2.1,
    if_pos (hreset.mpr h.2.2)]
  unfold processUpToReset
  rw [if_pos h]

/-- The events of the file in an event of the line. A message that resets the tag is over when
the reset is. -/
def fileEvents (s : Line) : Event → List uart.Event
  | .callback evt => [.callback evt]
  | .deferredMsg stack => [.deferredMsg stack]
  | .processMsg io bootIo uartIo _ =>
    if uart.RestartsNow s.uart then [] else [.processMsg io bootIo uartIo]
  | .restart =>
    match s.restarting with
    | some (bootIo, uartIo) => [.processMsg bootIo.load bootIo uartIo]
    | none => []
  | .lifetimeTimeout suspendRc => [.lifetimeTimeout suspendRc]
  | .byteOut => []
  | .txDone => []

/-- The file of the line is `u`. While a reset is to come, it has already been told so, and the
reset takes both to the same state. -/
def Shadows (s : Line) (u : Uart) : Prop :=
  match s.restarting with
  | none => s.uart = u
  | some _ =>
    uart.RestartsNow u ∧
      ∃ tag, s.uart = { u with tag := tag } ∧
        ∀ bootIo, sysReboot tag bootIo = sysReboot u.tag bootIo

theorem shadows_none {s : Line} {u : Uart} (h : s.restarting = none) :
    Shadows s u ↔ s.uart = u := by
  unfold Shadows
  rw [h]

/-- A message that does not reset the tag is handled as in the file without its line. -/
theorem processMsg_uart {s : Line} (io : ToolIo) (bootIo : BootIo) (uartIo : EnableIo) (rc : Int)
    (h : ¬ uart.RestartsNow s.uart) :
    (processMsg s io bootIo uartIo rc).uart = uart.processMsg s.uart io bootIo uartIo ∧
      (processMsg s io bootIo uartIo rc).restarting = s.restarting := by
  unfold processMsg uart.processMsg
  cases hmsg : s.uart.process_buf with
  | none => exact ⟨rfl, rfl⟩
  | some m =>
    have hstays : ¬ ResetsTag m.1 m.2 := fun hreset => h ⟨m, hmsg, hreset⟩
    simp only [if_neg hstays, answer_uart, answer_restarting, and_true]
    rw [upToReset_stays _ io bootIo hstays]

/-- A message that resets the tag leaves the reset to come. -/
theorem processMsg_resets {s : Line} (io : ToolIo) (bootIo : BootIo) (uartIo : EnableIo) (rc : Int)
    (h : uart.RestartsNow s.uart) : Shadows (processMsg s io bootIo uartIo rc) s.uart := by
  obtain ⟨m, hmsg, hreset⟩ := h
  unfold Shadows processMsg
  rw [Option.mem_def.mp hmsg]
  simp only [if_pos hreset, answer_restarting, answer_uart]
  refine ⟨⟨m, hmsg, hreset⟩, (processUpToReset s.uart.tag m.1 m.2 io bootIo).1, ?_, ?_⟩
  · rw [hmsg]
  · intro bootIo'
    exact sysReboot_upToReset s.uart.tag io bootIo bootIo' hreset

/-- The reset takes the file where its message would have taken it at once. -/
theorem restart_uart {s : Line} {u : Uart} {bootIo : BootIo} {uartIo : EnableIo}
    (h : Shadows s u) (hr : s.restarting = some (bootIo, uartIo)) :
    Shadows (restart s) (uart.processMsg u bootIo.load bootIo uartIo) := by
  unfold Shadows at h
  rw [hr] at h
  obtain ⟨⟨m, hmsg, hreset⟩, tag, htag, hboot⟩ := h
  have hdone : restart s =
      { s with
        uart := appUartBootSequenceStart { tag := sysReboot s.uart.tag bootIo } uartIo
        restarting := none } := by
    unfold restart
    rw [hr]
  rw [hdone, shadows_none rfl]
  unfold uart.processMsg
  rw [Option.mem_def.mp hmsg]
  simp only [if_pos hreset]
  rw [toolMsg_reset u.tag bootIo.load bootIo hreset, ← hboot, htag]

theorem shadows_same {s s' : Line} {u : Uart} (hu : s'.uart = s.uart)
    (hr : s'.restarting = s.restarting) (h : Shadows s u) : Shadows s' u := by
  unfold Shadows
  rw [hu, hr]
  exact h

/-- A handler that has no message is not about to reset the tag. -/
theorem not_restarting {s : Line} {u : Uart} (h : Shadows s u) (hidle : s.uart.process_buf = none) :
    s.restarting = none := by
  unfold Shadows at h
  cases hr : s.restarting with
  | none => rfl
  | some r =>
    rw [hr] at h
    obtain ⟨⟨m, hmsg, _⟩, tag, htag, _⟩ := h
    have hbusy : u.process_buf = none := by
      rw [htag] at hidle
      exact hidle
    rw [hbusy] at hmsg
    cases hmsg

theorem callback_tag (u : Uart) (tag : Tag) (evt : UartEvent) :
    (uartAsyncCallback { u with tag := tag } evt).1 =
      { (uartAsyncCallback u evt).1 with tag := tag } := by
  unfold uartAsyncCallback
  cases evt with
  | UART_RX_RDY chunk =>
    simp only
    split_ifs <;> rfl
  | _ => rfl

theorem callback_keeps (u : Uart) (evt : UartEvent) :
    (uartAsyncCallback u evt).1.tag = u.tag ∧
      (uartAsyncCallback u evt).1.process_buf = u.process_buf := by
  unfold uartAsyncCallback
  split
  · split_ifs <;> exact ⟨rfl, rfl⟩
  · exact ⟨rfl, rfl⟩
  · exact ⟨rfl, rfl⟩

/-- The driver also calls while a reset is to come. -/
theorem shadows_callback {s : Line} {u : Uart} (evt : UartEvent) (h : Shadows s u) :
    Shadows { s with uart := (uartAsyncCallback s.uart evt).1 } (uartAsyncCallback u evt).1 := by
  obtain ⟨htag, hmsg⟩ := callback_keeps u evt
  unfold Shadows at h ⊢
  cases hr : s.restarting with
  | none =>
    rw [hr] at h
    simp only
    rw [h]
  | some r =>
    rw [hr] at h
    obtain ⟨hresets, tag, heq, hboot⟩ := h
    refine ⟨?_, tag, ?_, ?_⟩
    · unfold uart.RestartsNow
      rw [hmsg]
      exact hresets
    · rw [heq, callback_tag]
    · rw [htag]
      exact hboot

/-- Each step of the line is one of the file, or none. -/
theorem shadows_next (s : Line) (u : Uart) (e : Event) (h : Shadows s u) (ha : Allowed s e) :
    uart.system.Steps uart.system.allowed u (fileEvents s e) ∧
      Shadows (next s e) (uart.system.run u (fileEvents s e)) := by
  cases e with
  | callback evt => exact ⟨⟨trivial, trivial⟩, shadows_callback evt h⟩
  | deferredMsg stack =>
    have hr := not_restarting h ha.1
    obtain rfl := (shadows_none hr).mp h
    have hnext : (next s (.deferredMsg stack)).restarting = none := hr
    exact ⟨⟨ha, trivial⟩, (shadows_none hnext).mpr rfl⟩
  | processMsg io bootIo uartIo rc =>
    have hr : s.restarting = none := ha.2
    obtain rfl := (shadows_none hr).mp h
    rw [fileEvents]
    by_cases hresets : uart.RestartsNow s.uart
    · rw [if_pos hresets]
      exact ⟨trivial, processMsg_resets io bootIo uartIo rc hresets⟩
    · obtain ⟨huart, hstill⟩ := processMsg_uart io bootIo uartIo rc hresets
      rw [if_neg hresets]
      exact ⟨⟨ha.1, trivial⟩, (shadows_none (hstill.trans hr)).mpr huart⟩
  | restart =>
    obtain ⟨⟨bootIo, uartIo⟩, hr⟩ := Option.ne_none_iff_exists'.mp ha.1
    have hpending : u.process_buf ≠ none := by
      unfold Shadows at h
      rw [hr] at h
      obtain ⟨⟨m, hmsg, _⟩, _⟩ := h
      rw [Option.mem_def.mp hmsg]
      exact Option.some_ne_none m
    rw [fileEvents, hr]
    exact ⟨⟨hpending, trivial⟩, restart_uart h hr⟩
  | lifetimeTimeout suspendRc =>
    have hr := not_restarting h ha.1.1
    obtain rfl := (shadows_none hr).mp h
    have hnext : (next s (.lifetimeTimeout suspendRc)).restarting = none := hr
    exact ⟨⟨ha.1, trivial⟩, (shadows_none hnext).mpr rfl⟩
  | byteOut =>
    refine ⟨trivial, shadows_same ?_ ?_ h⟩
    · unfold next byteOut
      cases s.tx <;> rfl
    · unfold next byteOut
      cases s.tx <;> rfl
  | txDone => exact ⟨trivial, shadows_same rfl rfl h⟩

/-- Under the line the file runs as it does without: what its messages do, and which chunks they
come from, is what it is there. -/
theorem the_file_runs_as_without_its_line (s : Line) (es : List Event) (h : system.Run s es) :
    uart.system.Run s.uart (system.outputs fileEvents s es) ∧
      Shadows (system.run s es) (uart.system.run s.uart (system.outputs fileEvents s es)) := by
  obtain ⟨⟨hempty, _, hr, _⟩, hA⟩ := h
  obtain ⟨hsteps, hend⟩ := runs.System.simulates (S := system) (T := uart.system)
    (fun s u e => shadows_next s u e) ((shadows_none hr).mpr rfl) hA
  exact ⟨⟨hempty, hsteps⟩, hend⟩

/-- The line after a boot that has brought the UART up. -/
def bootedLine : Line := { uart := uart.bootedUart }

/-- A message of the tool is received and handled. -/
def asked (chunk : List UInt8) : List Event :=
  [.callback (.UART_RX_RDY chunk), .deferredMsg uart.noStack,
    .processMsg quietBoot.load quietBoot uart.quietEnable 0]

/-- A reply goes out. -/
def sentOut (len : Nat) : List Event := List.replicate len .byteOut ++ [.txDone]

/-- The tool asks for the version, waits for the answer, and resets the tag. -/
def waitingTool : List Event :=
  asked [2, 0x16, 0xE8] ++ sentOut 7 ++ asked [2, 0x01, 0xFD] ++ sentOut 4 ++ [.restart]

theorem a_reset_in_two_steps_is_one_of_the_file :
    uart.system.Run uart.bootedUart (system.outputs fileEvents bootedLine waitingTool) ∧
      Shadows (system.run bootedLine waitingTool)
        (uart.system.run uart.bootedUart (system.outputs fileEvents bootedLine waitingTool)) :=
  the_file_runs_as_without_its_line bootedLine waitingTool
    ⟨⟨rfl, rfl, rfl, rfl⟩, by decide +kernel⟩

/-! ## One message -/

theorem flushTool_tx_buf (t : Tag) (io : ToolIo) :
    (flushTool t io).tool.tx_buf = t.tool.tx_buf := by
  unfold flushTool
  simp only
  split_ifs <;> rfl

theorem replyCase_none_iff (t : Tag) (data : UartBuf) :
    replyCase t data = none ↔ ToolCommand.ofByte (data 1) = none := by
  unfold replyCase
  split
  all_goals try split
  all_goals
    rename_i hcmd
    simp_all

/-- A reply is a frame, by its first byte. -/
theorem replyFrame_framed {command : UInt8} {payload : List UInt8}
    (h : payload.length + 3 ≤ UART_TX_BUF_SIZE) :
    prefixed.Framed frameSize (replyFrame command payload) := by
  unfold UART_TX_BUF_SIZE at h
  have hlen := replyFrame_length command payload
  have hfirst : (UInt8.ofNat (payload.length + 2)).toNat = payload.length + 2 := by
    rw [UInt8.toNat_ofNat']
    omega
  simp only [replyFrame, List.cons_append, List.length_cons] at hlen
  simp only [replyFrame, List.cons_append, prefixed.Framed, frameSize, List.length_cons, hfirst]
  omega

/-- An ignored message builds nothing. -/
theorem upToReset_ignored (t : Tag) {data : UartBuf} {len : Nat} (io : ToolIo) (bootIo : BootIo)
    (h : ¬ (2 ≤ len ∧ checksumValid data len = true)) :
    (processUpToReset t data len io bootIo).2 = none ∧
      (processUpToReset t data len io bootIo).1.tool.tx_buf = t.tool.tx_buf := by
  have hstays : ¬ ResetsTag data len := fun hreset => h ⟨hreset.1, hreset.2.1⟩
  rw [upToReset_stays t io bootIo hstays]
  unfold processProductionMsg
  split_ifs with hlen hsum
  · exact ⟨rfl, rfl⟩
  · exact absurd ⟨Nat.not_lt.mp hlen, hsum⟩ h
  · exact ⟨rfl, flushTool_tx_buf t io⟩

/-- A valid message leaves in `tx_buf`, and sends, what its command does. -/
theorem upToReset_valid (t : Tag) {data : UartBuf} {len : Nat} (io : ToolIo) (bootIo : BootIo)
    (h : 2 ≤ len ∧ checksumValid data len = true) :
    (processUpToReset t data len io bootIo).2 = (toolCommand (keptAwake t) data).2.1 ∧
      (processUpToReset t data len io bootIo).1.tool.tx_buf =
        (toolCommand (keptAwake t) data).1.tool.tx_buf := by
  obtain ⟨_, hreset⟩ := toolCommand_frame (keptAwake t) data
  rw [upToReset_sent, toolMsg_valid t data len io bootIo h.1 h.2]
  refine ⟨rfl, ?_⟩
  unfold processUpToReset
  split
  · rfl
  · rename_i hstays
    have hno : ¬ (toolCommand (keptAwake t) data).2.2 = true :=
      fun hr => hstays ⟨h.1, h.2, hreset.mp hr⟩
    rw [toolMsg_valid t data len io bootIo h.1 h.2, if_neg hno]
    exact flushTool_tx_buf _ io

/-- A message is answered with one frame, which stands at the start of `tx_buf`, or not at all. -/
theorem upToReset_cases (t : Tag) (data : UartBuf) (len : Nat) (io : ToolIo) (bootIo : BootIo) :
    (¬ Answered data len ∧ (processUpToReset t data len io bootIo).2 = none ∧
        (processUpToReset t data len io bootIo).1.tool.tx_buf = t.tool.tx_buf) ∨
      (Answered data len ∧ ∃ payload : List UInt8, payload.length + 3 ≤ UART_TX_BUF_SIZE ∧
        (processUpToReset t data len io bootIo).2 = some (replyFrame (data 1) payload) ∧
        (processUpToReset t data len io bootIo).1.tool.tx_buf =
          memcpy t.tool.tx_buf 0 (replyFrame (data 1) payload)) := by
  by_cases hvalid : 2 ≤ len ∧ checksumValid data len = true
  · obtain ⟨hsent, hbuf⟩ := upToReset_valid t io bootIo hvalid
    rcases framing.toolCommand_answers (keptAwake t) data with
      ⟨hnone, heq⟩ | ⟨r, payload, hr, hbuilds, hframe, hwritten⟩
    · have hunknown := (replyCase_none_iff (keptAwake t) data).mp hnone
      left
      exact ⟨fun hans => hans.2 hunknown, by rw [hsent, heq], by rw [hbuf, heq]; rfl⟩
    · have hknown : ToolCommand.ofByte (data 1) ≠ none := by
        intro hunknown
        rw [(replyCase_none_iff (keptAwake t) data).mpr hunknown] at hr
        cases hr
      right
      exact ⟨⟨hvalid, hknown⟩, payload, hbuilds.short, hsent.trans hframe, hbuf.trans hwritten⟩
  · obtain ⟨hsent, hbuf⟩ := upToReset_ignored t io bootIo hvalid
    exact Or.inl ⟨fun hans => hvalid hans.1, hsent, hbuf⟩

/-- What a message that is not answered leaves as it was: all that the line is about. -/
theorem processMsg_silent {s : Line} (io : ToolIo) (bootIo : BootIo) (uartIo : EnableIo) (rc : Int)
    (h : ¬ IsAnswered s) :
    replies s (.processMsg io bootIo uartIo rc) = [] ∧
      (processMsg s io bootIo uartIo rc).tx_buf = s.tx_buf ∧
      (processMsg s io bootIo uartIo rc).tx = s.tx ∧
      (processMsg s io bootIo uartIo rc).wire = s.wire := by
  unfold replies processMsg
  cases hmsg : s.uart.process_buf with
  | none => exact ⟨rfl, rfl, rfl, rfl⟩
  | some m =>
    have hno : ¬ Answered m.1 m.2 := fun hans => h ⟨m, hmsg, hans⟩
    rcases upToReset_cases s.uart.tag m.1 m.2 io bootIo with ⟨_, hsent, hbuf⟩ | ⟨hans, _⟩
    · simp only [Option.bind_some, ← upToReset_sent, hsent, answer]
      split <;> exact ⟨rfl, hbuf, rfl, rfl⟩
    · exact absurd hans hno

/-- A message that is answered: its reply stands in `tx_buf`, and its transmission starts if the
line is free. -/
theorem processMsg_replies {s : Line} (io : ToolIo) (bootIo : BootIo) (uartIo : EnableIo)
    (rc : Int) (h : IsAnswered s) :
    ∃ frame : List UInt8, prefixed.Framed frameSize frame ∧ frame.length ≤ UART_TX_BUF_SIZE ∧
      replies s (.processMsg io bootIo uartIo rc) = [frame] ∧
      (processMsg s io bootIo uartIo rc).tx_buf = memcpy s.tx_buf 0 frame ∧
      (processMsg s io bootIo uartIo rc).wire = s.wire ∧
      (processMsg s io bootIo uartIo rc).tx =
        if s.uart.uart_is_powered = true ∧ s.tx = none ∧ rc = 0 then some { len := frame.length }
        else s.tx := by
  obtain ⟨m, hmsg, hans⟩ := h
  rcases upToReset_cases s.uart.tag m.1 m.2 io bootIo with
    ⟨hno, _⟩ | ⟨_, payload, hshort, hsent, hbuf⟩
  · exact absurd hans hno
  · have hfits : (replyFrame (m.1 1) payload).length ≤ UART_TX_BUF_SIZE := by
      rw [replyFrame_length]
      exact hshort
    refine ⟨replyFrame (m.1 1) payload, replyFrame_framed hshort, hfits, ?_⟩
    unfold replies processMsg
    rw [Option.mem_def.mp hmsg]
    simp only [Option.bind_some, ← upToReset_sent, hsent, answer, transmit_eq]
    split <;> exact ⟨rfl, hbuf, rfl, rfl⟩

/-! ## One step of the line -/

/-- What has gone over the line, and what is on its way. -/
def carried (s : Line) : List UInt8 := s.wire ++ outstanding s

/-- A transmission keeps within its length, and within `tx_buf`. -/
def Bounded (s : Line) : Prop :=
  ∀ tx ∈ s.tx, tx.sent ≤ tx.len ∧ tx.len ≤ UART_TX_BUF_SIZE

theorem outstanding_idle {s : Line} (h : s.tx = none) : outstanding s = [] := by
  unfold outstanding
  rw [h]

theorem outstanding_running {s : Line} {tx : Transmission} (h : s.tx = some tx) :
    outstanding s = ((listOf s.tx_buf).take tx.len).drop tx.sent := by
  unfold outstanding
  rw [h]

theorem carried_congr {s u : Line} (hbuf : u.tx_buf = s.tx_buf) (htx : u.tx = s.tx)
    (hwire : u.wire = s.wire) : carried u = carried s := by
  unfold carried outstanding
  rw [hbuf, htx, hwire]

/-- How much is on its way does not hang on what the buffer holds. -/
theorem carried_length_congr {s u : Line} (htx : u.tx = s.tx) (hwire : u.wire = s.wire) :
    (carried u).length = (carried s).length := by
  unfold carried outstanding
  rw [htx, hwire]
  cases s.tx with
  | none => rfl
  | some tx => simp

theorem carried_byteOut {s : Line} (hb : Bounded s) (h : ∃ tx ∈ s.tx, tx.sent < tx.len) :
    carried (byteOut s) = carried s := by
  obtain ⟨tx, htx, hsent⟩ := h
  obtain ⟨_, hlen⟩ := hb tx htx
  have hlt : tx.sent < ((listOf s.tx_buf).take tx.len).length := by
    rw [List.length_take, listOf_length]
    omega
  have hbyte : (listOf s.tx_buf).getD tx.sent 0 = ((listOf s.tx_buf).take tx.len)[tx.sent] := by
    rw [List.getElem_take, List.getElem_eq_getD]
  have hout : byteOut s =
      { s with
        tx := some { tx with sent := tx.sent + 1 }
        wire := s.wire ++ [(listOf s.tx_buf).getD tx.sent 0] } := by
    unfold byteOut
    rw [Option.mem_def.mp htx]
  have hdrop := List.drop_eq_getElem_cons hlt
  rw [hout, carried, carried, outstanding_running htx, outstanding_running rfl, hdrop, hbyte,
    List.append_assoc, List.singleton_append]

theorem carried_txDone {s : Line} (h : ∃ tx ∈ s.tx, tx.sent = tx.len) :
    carried { s with tx := none } = carried s := by
  obtain ⟨tx, htx, hsent⟩ := h
  have hout : outstanding s = [] := by
    rw [outstanding_running htx, hsent]
    simp
  rw [carried, carried, hout, outstanding_idle rfl]

theorem timeout_tx_buf (u : Uart) (suspendRc : Int) :
    (uartLifetimeTimeoutHandler u suspendRc).tag.tool.tx_buf = u.tag.tool.tx_buf := by
  unfold uartLifetimeTimeoutHandler uart.appUartDisable
  simp only
  split_ifs <;> rfl

theorem callback_tx_buf (u : Uart) (evt : UartEvent) :
    (uartAsyncCallback u evt).1.tag.tool.tx_buf = u.tag.tool.tx_buf := by
  unfold uartAsyncCallback
  split
  · split_ifs <;> rfl
  · rfl
  · rfl

theorem deferredMsg_tx_buf (u : Uart) (stack : UartBuf) :
    (deferredMsgProcessingHandler u stack).tag.tool.tx_buf = u.tag.tool.tx_buf := by
  unfold deferredMsgProcessingHandler
  simp only
  split <;> rfl

theorem restart_line (s : Line) : (restart s).tx = s.tx ∧ (restart s).wire = s.wire := by
  unfold restart
  cases s.restarting <;> exact ⟨rfl, rfl⟩

/-- The reset finds the line idle. -/
theorem carried_restart {s : Line} (h : s.tx = none) : carried (restart s) = carried s := by
  obtain ⟨htx, hwire⟩ := restart_line s
  rw [carried, carried, hwire, outstanding_idle h, outstanding_idle (htx.trans h)]

theorem carried_nothing {s : Line} {e : Event} (hno : replies s e = [])
    (h : carried (next s e) = carried s) :
    carried (next s e) = carried s ++ (replies s e).flatten := by
  rw [hno, h, List.flatten_nil, List.append_nil]

/-- What goes over the line is what was to be sent; a reply that starts on a free line is added
to it whole. -/
theorem carried_next {s : Line} {e : Event} (hb : Bounded s) (ha : Allowed s e)
    (hc : OnAFreeLine s e) : carried (next s e) = carried s ++ (replies s e).flatten := by
  cases e with
  | callback evt => exact carried_nothing rfl (carried_congr (callback_tx_buf s.uart evt) rfl rfl)
  | deferredMsg stack =>
    exact carried_nothing rfl (carried_congr (deferredMsg_tx_buf s.uart stack) rfl rfl)
  | processMsg io bootIo uartIo rc =>
    by_cases hans : IsAnswered s
    · obtain ⟨frame, _, hfits, hreplies, hbuf, hwire, htx⟩ :=
        processMsg_replies io bootIo uartIo rc hans
      have hfree := hc hans
      rw [if_pos hfree] at htx
      have hout : outstanding (processMsg s io bootIo uartIo rc) = frame := by
        rw [outstanding_running htx, hbuf]
        exact take_memcpy s.tx_buf hfits
      rw [next, carried, carried, hout, hwire, outstanding_idle hfree.2.1, hreplies]
      simp
    · obtain ⟨hreplies, hbuf, htx, hwire⟩ := processMsg_silent io bootIo uartIo rc hans
      exact carried_nothing hreplies (carried_congr hbuf htx hwire)
  | restart => exact carried_nothing rfl (carried_restart ha.2)
  | lifetimeTimeout suspendRc =>
    exact carried_nothing rfl (carried_congr (timeout_tx_buf s.uart suspendRc) rfl rfl)
  | byteOut => exact carried_nothing rfl (carried_byteOut hb ha)
  | txDone => exact carried_nothing rfl (carried_txDone ha)

/-- A reply that comes at another time is lost, and what else it does to the line makes that no
longer. -/
theorem carried_loses {s : Line} {e : Event} (hc : ¬ OnAFreeLine s e) :
    (carried (next s e)).length < (carried s ++ (replies s e).flatten).length := by
  cases e with
  | processMsg io bootIo uartIo rc =>
    simp only [OnAFreeLine, Classical.not_imp] at hc
    obtain ⟨hans, hbusy⟩ := hc
    obtain ⟨frame, hframed, _, hreplies, _, hwire, htx⟩ :=
      processMsg_replies io bootIo uartIo rc hans
    rw [if_neg hbusy] at htx
    have hpos : 0 < frame.length := by
      apply List.length_pos_iff.mpr
      rintro rfl
      exact hframed
    have hsame : (carried (processMsg s io bootIo uartIo rc)).length = (carried s).length :=
      carried_length_congr htx hwire
    rw [next, hreplies, List.length_append]
    simp only [List.flatten_cons, List.flatten_nil, List.append_nil]
    omega
  | _ => exact absurd trivial hc

theorem bounded_next {s : Line} {e : Event} (hb : Bounded s) (ha : Allowed s e) :
    Bounded (next s e) := by
  cases e with
  | callback evt => exact hb
  | deferredMsg stack => exact hb
  | processMsg io bootIo uartIo rc =>
    by_cases hans : IsAnswered s
    · obtain ⟨frame, _, hfits, _, _, _, htx⟩ := processMsg_replies io bootIo uartIo rc hans
      intro tx hmem
      rw [next, htx] at hmem
      split at hmem
      · cases hmem
        exact ⟨Nat.zero_le _, hfits⟩
      · exact hb tx hmem
    · obtain ⟨_, _, htx, _⟩ := processMsg_silent io bootIo uartIo rc hans
      intro tx hmem
      rw [next, htx] at hmem
      exact hb tx hmem
  | restart =>
    intro tx hmem
    rw [next, (restart_line s).1] at hmem
    exact hb tx hmem
  | lifetimeTimeout suspendRc => exact hb
  | byteOut =>
    obtain ⟨tx, htx, hsent⟩ := ha
    obtain ⟨_, hlen⟩ := hb tx htx
    intro tx' hmem
    rw [next, byteOut, Option.mem_def.mp htx] at hmem
    cases hmem
    exact ⟨hsent, hlen⟩
  | txDone =>
    intro tx hmem
    cases hmem

/-! ## Every run -/

theorem replies_framed (s : Line) (e : Event) : ∀ frame ∈ replies s e,
    prefixed.Framed frameSize frame := by
  intro frame hmem
  cases e with
  | processMsg io bootIo uartIo rc =>
    by_cases hans : IsAnswered s
    · obtain ⟨reply, hframed, _, hreplies, _⟩ := processMsg_replies io bootIo uartIo rc hans
      rw [hreplies, List.mem_singleton] at hmem
      rw [hmem]
      exact hframed
    · rw [(processMsg_silent io bootIo uartIo rc hans).1] at hmem
      cases hmem
  | _ => cases hmem

/-- The line carries every reply whole just when each starts on a free line. -/
theorem carried_whole_iff {s : Line} {es : List Event} (h : system.Run s es) :
    carried (system.run s es) = (system.outputs replies s es).flatten ↔
      system.Steps OnAFreeLine s es := by
  obtain ⟨⟨_, hidle, _, hwire⟩, hA⟩ := h
  have hb : Bounded s := by
    intro tx hmem
    rw [hidle] at hmem
    cases hmem
  have hstart : carried s = [] := by
    rw [carried, hwire, outstanding_idle hidle]
    rfl
  have hcarried : carried (system.run s es) =
      carried s ++ system.outputs (fun s e => (replies s e).flatten) s es ↔
        system.Steps OnAFreeLine s es :=
    runs.System.carried_iff_steps (fun s e hb ha => bounded_next hb ha)
      (fun s e hb ha hc => carried_next hb ha hc) (fun s e _ _ hc => carried_loses hc) hb hA
  rw [hstart, List.nil_append, ← runs.System.outputs_flatten] at hcarried
  exact hcarried

theorem reads_of_carried {s : Line} {es : List Event}
    (h : carried (system.run s es) = (system.outputs replies s es).flatten) :
    TheToolReads s es := by
  have hframed : ∀ frame ∈ system.outputs replies s es, prefixed.Framed frameSize frame :=
    fun frame hmem => runs.System.mem_outputs replies_framed hmem
  unfold TheToolReads
  rw [← prefixed.read_flatten hframed, ← h]
  rfl

/-- The tool reads every reply, whole and in order, just when each message that is answered
comes to a UART that is up, after the reply before is out. -/
theorem the_tool_reads_every_reply_if_each_finds_the_line_free (s : Line) (es : List Event)
    (h : system.Run s es) : TheToolReads s es ↔ system.Steps OnAFreeLine s es := by
  rw [← carried_whole_iff h]
  constructor
  · intro hread
    have hjoined := prefixed.read_joined frameSize (carried (system.run s es))
    rw [show prefixed.read frameSize (carried (system.run s es)) = _ from hread] at hjoined
    simpa using hjoined.symm
  · exact reads_of_carried

theorem a_tool_that_waits_reads_both_replies : TheToolReads bootedLine waitingTool :=
  (the_tool_reads_every_reply_if_each_finds_the_line_free bootedLine waitingTool
    ⟨⟨rfl, rfl, rfl, rfl⟩, by decide +kernel⟩).mpr (by decide +kernel)

/-- A second request right after the first: its reply is refused, the first goes out of a buffer
that holds the second, and the tool waits for more of it. -/
example :
    prefixed.read frameSize (system.run bootedLine
        (asked [2, 0x16, 0xE8] ++ asked [2, 0x0D, 0xF1] ++ sentOut 7)).wire =
      { frames := [], part := [8, 0x8D, 5, 0, 32, 227, 202] } := by
  decide +kernel

end smart_track.reply_line
