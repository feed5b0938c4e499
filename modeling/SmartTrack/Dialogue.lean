-- A production tool that waits. Its bytes come in chunks as the driver cuts them. When a chunk only
-- comes once the one before is dealt with, each is handled once, in its order, and the tool reads
-- one reply for each chunk that is a request.
import SmartTrack.ReplyLine

open bytes smart_track.production smart_track.reply_line
open smart_track.tag (UART_RX_BUF_SIZE)
open smart_track.uart (Uart UartEvent EnableIo Accepted deferredMsgProcessingHandler
  uartLifetimeTimeoutHandler waitingChunk waitingChunk_none)
open smart_track.framing (SumsToZero checksumValid_iff)

namespace smart_track.dialogue

/-! ## The two sides -/

/-- The chunks that the callback takes. -/
def received (s : Line) : Event → List (List UInt8)
  | .callback (.UART_RX_RDY chunk) => if Accepted s.uart chunk then [chunk] else []
  | _ => []

/-- The bytes of a message. -/
def message (m : UartBuf × Nat) : List UInt8 := (listOf m.1).take m.2

/-- The chunks that `ProcessProductionMsg` is given. -/
def handled (s : Line) : Event → List (List UInt8)
  | .processMsg .. => (s.uart.process_buf.map message).toList
  | _ => []

/-- The chunks that were taken and are still to be handled. -/
def pending (s : Line) : List (List UInt8) :=
  (if s.restarting = none then (s.uart.process_buf.map message).toList else []) ++
    (waitingChunk s.uart).toList

instance (frame : List UInt8) : Decidable (SumsToZero frame) :=
  inferInstanceAs (Decidable (_ = _))

/-- The command byte of the reply to a chunk. It has one if it is a frame with a command of the
list; a part of a request that the driver cut in two is judged by itself. -/
def replyTo (chunk : List UInt8) : Option UInt8 :=
  if 2 ≤ chunk.length ∧ SumsToZero chunk ∧ ToolCommand.ofByte (chunk.getD 1 0) ≠ none then
    some (chunk.getD 1 0 ||| 0x80)
  else
    none

/-- The command byte of a reply. -/
def commandOf (reply : List UInt8) : UInt8 := reply.getD 1 0

/-- A chunk comes when the last one is handled and its reply is out; the UART does not time out
under a chunk that waits, and the driver takes each reply. -/
def Waits (s : Line) : Event → Prop
  | .callback (.UART_RX_RDY _) =>
    s.uart.deferred_rx_work_len = 0 ∧ s.uart.process_buf = none ∧ s.tx = none
  | .processMsg _ _ _ rc => rc = 0
  | .lifetimeTimeout _ => s.uart.deferred_rx_work_len = 0
  | _ => True

instance (s : Line) (e : Event) : Decidable (Waits s e) := by
  apply Event.casesOn (motive := fun e => Decidable (Waits s e)) e
  all_goals
    intros
    unfold Waits
    try split
    all_goals infer_instance

/-! ## One chunk at a time -/

/-- One chunk is underway at a time, and its reply will find the line free. -/
structure Orderly (s : Line) : Prop where
  alone : s.uart.process_buf ≠ none → s.uart.deferred_rx_work_len = 0
  free : s.uart.process_buf ≠ none ∨ s.uart.deferred_rx_work_len ≠ 0 → s.restarting = none →
    s.uart.uart_is_powered = true ∧ s.tx = none
  resetting : s.uart.process_buf = none → s.restarting = none
  waiting_len : s.uart.deferred_rx_work_len ≤ UART_RX_BUF_SIZE
  message_len : ∀ m ∈ s.uart.process_buf, m.2 ≤ UART_RX_BUF_SIZE

theorem orderly_idle {s : Line} (hidle : s.uart.process_buf = none)
    (hzero : s.uart.deferred_rx_work_len = 0) (hr : s.restarting = none) : Orderly s := by
  refine ⟨fun hbusy => absurd hidle hbusy, ?_, fun _ => hr, ?_, ?_⟩
  · rintro (hbusy | hbusy)
    · exact absurd hidle hbusy
    · exact absurd hzero hbusy
  · rw [hzero]
    exact Nat.zero_le _
  · intro m hm
    rw [hidle] at hm
    cases hm

/-- The message that resets the tag is the only one until the reset. -/
theorem orderly_resetting {s : Line} (hbusy : s.uart.process_buf ≠ none)
    (hzero : s.uart.deferred_rx_work_len = 0) (hr : s.restarting ≠ none)
    (hlen : ∀ m ∈ s.uart.process_buf, m.2 ≤ UART_RX_BUF_SIZE) : Orderly s := by
  refine ⟨fun _ => hzero, fun _ hnot => absurd hnot hr, fun hidle => absurd hidle hbusy, ?_, hlen⟩
  rw [hzero]
  exact Nat.zero_le _

/-- What an event keeps of the chunks that are underway. -/
structure SameChunks (s u : Line) : Prop where
  process_buf : u.uart.process_buf = s.uart.process_buf
  waiting_len : u.uart.deferred_rx_work_len = s.uart.deferred_rx_work_len
  waiting : waitingChunk u.uart = waitingChunk s.uart
  restarting : u.restarting = s.restarting

theorem SameChunks.pending {s u : Line} (h : SameChunks s u) : pending u = pending s := by
  unfold dialogue.pending
  rw [h.process_buf, h.waiting, h.restarting]

theorem SameChunks.orderly {s u : Line} (h : SameChunks s u) (hs : Orderly s)
    (hfree : s.uart.process_buf ≠ none ∨ s.uart.deferred_rx_work_len ≠ 0 → s.restarting = none →
      s.tx = none → u.uart.uart_is_powered = s.uart.uart_is_powered ∧ u.tx = none) :
    Orderly u := by
  refine ⟨?_, ?_, ?_, ?_, ?_⟩
  · rw [h.process_buf, h.waiting_len]
    exact hs.alone
  · rw [h.process_buf, h.waiting_len, h.restarting]
    intro hbusy hr
    obtain ⟨hpower, htx⟩ := hs.free hbusy hr
    obtain ⟨hsame, hfreed⟩ := hfree hbusy hr htx
    exact ⟨hsame.trans hpower, hfreed⟩
  · rw [h.process_buf, h.restarting]
    exact hs.resetting
  · rw [h.waiting_len]
    exact hs.waiting_len
  · rw [h.process_buf]
    exact hs.message_len

/-- The handler takes the chunk that waits, if one does. -/
theorem deferredMsg_cases (u : Uart) (stack : UartBuf) :
    (u.deferred_rx_work_len = 0 ∧
        deferredMsgProcessingHandler u stack = { u with uart_msg_processing_work := false }) ∨
      (u.deferred_rx_work_len ≠ 0 ∧ ∃ process_buf : UartBuf,
        deferredMsgProcessingHandler u stack =
          { u with
            uart_msg_processing_work := false
            process_buf := some (process_buf, u.deferred_rx_work_len)
            deferred_rx_work_len := 0 }) := by
  unfold deferredMsgProcessingHandler
  simp only
  split
  · rename_i hpos
    exact Or.inr ⟨Nat.ne_of_gt hpos, _, rfl⟩
  · rename_i hzero
    exact Or.inl ⟨Nat.eq_zero_of_not_pos hzero, rfl⟩

theorem timeout_chunks (u : Uart) (suspendRc : Int) :
    (uartLifetimeTimeoutHandler u suspendRc).process_buf = u.process_buf ∧
      (uartLifetimeTimeoutHandler u suspendRc).deferred_rx_work_len = u.deferred_rx_work_len ∧
      waitingChunk (uartLifetimeTimeoutHandler u suspendRc) = waitingChunk u := by
  unfold uartLifetimeTimeoutHandler uart.appUartDisable
  simp only
  split_ifs <;> exact ⟨rfl, rfl, rfl⟩

theorem bootSequence_process_buf (u : Uart) (io : EnableIo) :
    (uart.appUartBootSequenceStart u io).process_buf = u.process_buf := by
  unfold uart.appUartBootSequenceStart uart.appUartInit uart.appUartEnable
  simp only
  split_ifs <;> rfl

/-- After a reset no chunk is underway. -/
theorem restart_idle {s : Line} (h : s.restarting ≠ none) :
    (restart s).uart.process_buf = none ∧ (restart s).uart.deferred_rx_work_len = 0 ∧
      (restart s).restarting = none := by
  obtain ⟨⟨bootIo, uartIo⟩, hr⟩ := Option.ne_none_iff_exists'.mp h
  unfold restart
  rw [hr]
  exact ⟨bootSequence_process_buf _ uartIo, uart.bootSequence_len _ uartIo, rfl⟩

/-- The handler is done with a message, or stops before the reset. -/
theorem processMsg_chunks {s : Line} (io : ToolIo) (bootIo : tag.BootIo) (uartIo : EnableIo)
    (rc : Int) :
    (processMsg s io bootIo uartIo rc).uart.deferred_rx_work_len = s.uart.deferred_rx_work_len ∧
      waitingChunk (processMsg s io bootIo uartIo rc).uart = waitingChunk s.uart ∧
      ((processMsg s io bootIo uartIo rc).uart.process_buf = none ∧
          (processMsg s io bootIo uartIo rc).restarting = s.restarting ∨
        (processMsg s io bootIo uartIo rc).uart.process_buf = s.uart.process_buf ∧
          (processMsg s io bootIo uartIo rc).restarting ≠ none) := by
  unfold processMsg
  cases hmsg : s.uart.process_buf with
  | none => exact ⟨rfl, rfl, Or.inl ⟨hmsg, rfl⟩⟩
  | some m =>
    simp only [answer_uart, answer_restarting]
    split
    · exact ⟨rfl, rfl, Or.inr ⟨hmsg, Option.some_ne_none _⟩⟩
    · exact ⟨rfl, rfl, Or.inl ⟨rfl, rfl⟩⟩

/-- An event that only the driver and the line notice. -/
theorem callback_same (s : Line) {evt : UartEvent}
    (h : ∀ chunk, evt = .UART_RX_RDY chunk → ¬ Accepted s.uart chunk) :
    SameChunks s (next s (.callback evt)) ∧
      (next s (.callback evt)).uart.uart_is_powered = s.uart.uart_is_powered := by
  cases evt with
  | UART_RX_RDY chunk =>
    have hsame : next s (.callback (.UART_RX_RDY chunk)) = s := by
      rw [next, uart.rxRdy_ignored (h chunk rfl)]
    rw [hsame]
    exact ⟨⟨rfl, rfl, rfl, rfl⟩, rfl⟩
  | UART_RX_BUF_REQUEST => exact ⟨⟨rfl, rfl, rfl, rfl⟩, rfl⟩
  | other => exact ⟨⟨rfl, rfl, rfl, rfl⟩, rfl⟩

theorem byteOut_same (s : Line) :
    SameChunks s (byteOut s) ∧ (byteOut s).uart = s.uart := by
  unfold byteOut
  cases s.tx with
  | none => exact ⟨⟨rfl, rfl, rfl, rfl⟩, rfl⟩
  | some tx => exact ⟨⟨rfl, rfl, rfl, rfl⟩, rfl⟩

theorem timeout_same (s : Line) (suspendRc : Int) :
    SameChunks s (next s (.lifetimeTimeout suspendRc)) := by
  obtain ⟨hmsg, hlen, hwaiting⟩ := timeout_chunks s.uart suspendRc
  exact ⟨hmsg, hlen, hwaiting, rfl⟩

/-- A chunk that the callback takes waits, alone. -/
theorem accepted_waits {s : Line} {chunk : List UInt8} (h : Accepted s.uart chunk) :
    (next s (.callback (.UART_RX_RDY chunk))).uart.process_buf = s.uart.process_buf ∧
      (next s (.callback (.UART_RX_RDY chunk))).uart.deferred_rx_work_len = chunk.length ∧
      (next s (.callback (.UART_RX_RDY chunk))).uart.uart_is_powered = true := by
  rw [next, uart.rxRdy_accepted h]
  exact ⟨rfl, rfl, h.1⟩

/-- A chunk that comes while none is underway is alone. -/
theorem accepted_orderly {s : Line} {chunk : List UInt8} (hs : Orderly s)
    (hidle : s.uart.process_buf = none) (htx : s.tx = none) (h : Accepted s.uart chunk) :
    Orderly (next s (.callback (.UART_RX_RDY chunk))) := by
  obtain ⟨hmsg, hlen, hpower⟩ := accepted_waits h
  have hr := hs.resetting hidle
  refine ⟨?_, fun _ _ => ⟨hpower, htx⟩, fun _ => hr, ?_, ?_⟩
  · rw [hmsg]
    exact fun hbusy => absurd hidle hbusy
  · rw [hlen]
    exact h.2.2
  · rw [hmsg]
    exact hs.message_len

/-- The chunk that waits becomes the message, and leaves its place. -/
theorem deferredMsg_orderly {s : Line} (stack : UartBuf) (hs : Orderly s)
    (hidle : s.uart.process_buf = none) : Orderly (next s (.deferredMsg stack)) := by
  have hr := hs.resetting hidle
  rcases deferredMsg_cases s.uart stack with ⟨hzero, heq⟩ | ⟨hwaiting, process_buf, heq⟩
  · rw [next, heq]
    exact orderly_idle hidle hzero hr
  · have hfree := hs.free (Or.inr hwaiting) hr
    rw [next, heq]
    refine ⟨fun _ => rfl, fun _ _ => hfree, fun hnone => ?_, Nat.zero_le _, ?_⟩
    · cases hnone
    · intro m hm
      cases hm
      exact hs.waiting_len

theorem processMsg_orderly {s : Line} (io : ToolIo) (bootIo : tag.BootIo) (uartIo : EnableIo)
    (rc : Int) (hs : Orderly s) (hbusy : s.uart.process_buf ≠ none) (hr : s.restarting = none) :
    Orderly (processMsg s io bootIo uartIo rc) := by
  obtain ⟨hlen, _, hdone⟩ := processMsg_chunks (s := s) io bootIo uartIo rc
  have hzero := hlen.trans (hs.alone hbusy)
  rcases hdone with ⟨hnone, hstill⟩ | ⟨hmsg, hresets⟩
  · exact orderly_idle hnone hzero (hstill.trans hr)
  · refine orderly_resetting (hmsg.trans_ne hbusy) hzero hresets (fun m hm => ?_)
    rw [hmsg] at hm
    exact hs.message_len m hm

theorem orderly_next {s : Line} {e : Event} (hs : Orderly s) (ha : Allowed s e)
    (hw : Waits s e) : Orderly (next s e) := by
  cases e with
  | callback evt =>
    by_cases hacc : ∃ chunk, evt = .UART_RX_RDY chunk ∧ Accepted s.uart chunk
    · obtain ⟨chunk, rfl, hacc⟩ := hacc
      obtain ⟨_, hidle, htx⟩ := hw
      exact accepted_orderly hs hidle htx hacc
    · obtain ⟨hsame, hpower⟩ := callback_same s
        (fun chunk hevt hchunk => hacc ⟨chunk, hevt, hchunk⟩)
      exact hsame.orderly hs (fun _ _ htx => ⟨hpower, htx⟩)
  | deferredMsg stack => exact deferredMsg_orderly stack hs ha.1
  | processMsg io bootIo uartIo rc => exact processMsg_orderly io bootIo uartIo rc hs ha.1 ha.2
  | restart =>
    obtain ⟨hmsg, hlen, hr⟩ := restart_idle ha.1
    exact orderly_idle hmsg hlen hr
  | lifetimeTimeout suspendRc =>
    have hsame := timeout_same s suspendRc
    have hidle : s.uart.process_buf = none := ha.1.1
    exact orderly_idle (hsame.process_buf.trans hidle) (hsame.waiting_len.trans hw)
      (hsame.restarting.trans (hs.resetting hidle))
  | byteOut =>
    obtain ⟨hsame, huart⟩ := byteOut_same s
    obtain ⟨tx, hrunning, _⟩ := ha
    refine hsame.orderly hs (fun _ _ htx => ?_)
    rw [htx] at hrunning
    cases hrunning
  | txDone =>
    have hsame : SameChunks s (next s .txDone) := ⟨rfl, rfl, rfl, rfl⟩
    exact hsame.orderly hs (fun _ _ _ => ⟨rfl, rfl⟩)

/-- The reply to a chunk finds the line free. -/
theorem onAFreeLine_of_orderly {s : Line} {e : Event} (hs : Orderly s) (ha : Allowed s e)
    (hw : Waits s e) : OnAFreeLine s e := by
  cases e with
  | processMsg io bootIo uartIo rc =>
    obtain ⟨hpower, htx⟩ := hs.free (Or.inl ha.1) ha.2
    exact fun _ => ⟨hpower, htx, hw⟩
  | _ => trivial

/-! ## What comes in and what is handled -/

theorem pending_idle {s : Line} (hidle : s.uart.process_buf = none)
    (hzero : s.uart.deferred_rx_work_len = 0) : pending s = [] := by
  unfold pending
  rw [hidle, (waitingChunk_none s.uart).mpr hzero]
  simp

theorem received_ignored {s : Line} {evt : UartEvent}
    (h : ∀ chunk, evt = .UART_RX_RDY chunk → ¬ Accepted s.uart chunk) :
    received s (.callback evt) = [] := by
  cases evt with
  | UART_RX_RDY chunk => exact if_neg (h chunk rfl)
  | UART_RX_BUF_REQUEST => rfl
  | other => rfl

/-- The chunk that is taken is the one that waits. -/
theorem pending_accepted {s : Line} {chunk : List UInt8} (hidle : s.uart.process_buf = none)
    (h : Accepted s.uart chunk) :
    pending (next s (.callback (.UART_RX_RDY chunk))) = [chunk] := by
  have hmsg := (accepted_waits h).1
  have hwaits := uart.rxRdy_waiting h
  rw [pending, hmsg, hidle, next, hwaits]
  simp

/-- A chunk that the handler takes is still to be handled. -/
theorem pending_deferredMsg {s : Line} (stack : UartBuf) (hidle : s.uart.process_buf = none)
    (hr : s.restarting = none) : pending (next s (.deferredMsg stack)) = pending s := by
  have hpassed : (deferredMsgProcessingHandler s.uart stack).process_buf.map message =
      waitingChunk s.uart := uart.deferredMsg_passes_on s.uart stack hidle
  have hempty := (waitingChunk_none _).mpr (uart.deferredMsg_empties s.uart stack)
  unfold pending
  rw [next, hempty, hpassed, hidle, if_pos hr, if_pos hr]
  simp

theorem pending_processMsg {s : Line} (io : ToolIo) (bootIo : tag.BootIo) (uartIo : EnableIo)
    (rc : Int) (hzero : s.uart.deferred_rx_work_len = 0) :
    pending (processMsg s io bootIo uartIo rc) = [] := by
  obtain ⟨hlen, _, hdone⟩ := processMsg_chunks (s := s) io bootIo uartIo rc
  rcases hdone with ⟨hnone, _⟩ | ⟨_, hresets⟩
  · exact pending_idle hnone (hlen.trans hzero)
  · unfold pending
    rw [(waitingChunk_none _).mpr (hlen.trans hzero), if_neg hresets]
    rfl

/-- A chunk is taken, handled, or stays where it is. -/
theorem chunks_conserved {s : Line} {e : Event} (hs : Orderly s) (ha : Allowed s e)
    (hw : Waits s e) : pending s ++ received s e = handled s e ++ pending (next s e) := by
  cases e with
  | callback evt =>
    by_cases hacc : ∃ chunk, evt = .UART_RX_RDY chunk ∧ Accepted s.uart chunk
    · obtain ⟨chunk, rfl, hacc⟩ := hacc
      obtain ⟨hzero, hidle, _⟩ := hw
      rw [pending_accepted hidle hacc, pending_idle hidle hzero, received, if_pos hacc]
      rfl
    · have hignored : ∀ chunk, evt = .UART_RX_RDY chunk → ¬ Accepted s.uart chunk :=
        fun chunk hevt hchunk => hacc ⟨chunk, hevt, hchunk⟩
      rw [received_ignored hignored, (callback_same s hignored).1.pending]
      exact List.append_nil _
  | deferredMsg stack =>
    rw [pending_deferredMsg stack ha.1 (hs.resetting ha.1)]
    exact List.append_nil _
  | processMsg io bootIo uartIo rc =>
    have hzero := hs.alone ha.1
    rw [next, pending_processMsg io bootIo uartIo rc hzero, pending,
      (waitingChunk_none s.uart).mpr hzero, if_pos ha.2]
    simp [received, handled]
  | restart =>
    obtain ⟨hmsg, hlen, _⟩ := restart_idle ha.1
    have hbusy : s.uart.process_buf ≠ none := fun hidle => ha.1 (hs.resetting hidle)
    have hempty := (waitingChunk_none s.uart).mpr (hs.alone hbusy)
    rw [next, pending_idle hmsg hlen, pending, hempty, if_neg ha.1]
    rfl
  | lifetimeTimeout suspendRc =>
    rw [(timeout_same s suspendRc).pending]
    exact List.append_nil _
  | byteOut =>
    rw [next, (byteOut_same s).1.pending]
    exact List.append_nil _
  | txDone => exact List.append_nil _

/-! ## Which chunk is answered -/

theorem message_length {m : UartBuf × Nat} (h : m.2 ≤ UART_RX_BUF_SIZE) :
    (message m).length = m.2 := by
  unfold message
  rw [List.length_take, listOf_length]
  exact Nat.min_eq_left h

/-- A chunk is answered by its own bytes. -/
theorem replyTo_message {m : UartBuf × Nat} (h : m.2 ≤ UART_RX_BUF_SIZE) :
    replyTo (message m) = if Answered m.1 m.2 then some (m.1 1 ||| 0x80) else none := by
  unfold replyTo
  rw [message_length h]
  by_cases hlen : 2 ≤ m.2
  · have hsecond : (message m).getD 1 0 = m.1 1 := by
      have hget := getD_take_listOf m.1 m.2 1
      rw [if_pos (by exact hlen)] at hget
      exact hget
    rw [hsecond]
    refine if_congr ?_ rfl rfl
    unfold Answered
    rw [checksumValid_iff hlen h]
    exact (and_assoc).symm
  · rw [if_neg (fun hreq => hlen hreq.1), if_neg (fun hans => hlen hans.1.1)]

/-- Each chunk that is handled has the reply that its bytes ask for. -/
theorem replies_handled {s : Line} {e : Event} (hs : Orderly s) :
    (replies s e).map commandOf = (handled s e).filterMap replyTo := by
  cases e with
  | processMsg io bootIo uartIo rc =>
    unfold replies handled
    cases hmsg : s.uart.process_buf with
    | none => rfl
    | some m =>
      have hreply := replyTo_message (hs.message_len m hmsg)
      simp only [Option.bind_some, Option.map_some, Option.toList_some, List.filterMap_cons,
        List.filterMap_nil, hreply, ← upToReset_sent]
      rcases upToReset_cases s.uart.tag m.1 m.2 io bootIo with
        ⟨hno, hsent, _⟩ | ⟨hans, payload, _, hsent, _⟩
      · rw [hsent, if_neg hno]
        rfl
      · rw [hsent, if_pos hans]
        rfl
  | _ => rfl

/-! ## Every run -/

/-- A tool that waits gets each chunk handled once, in its order. When all is quiet it has read just
the replies: one for each chunk that is a frame with a command of the list, in the order of the
chunks and with the command of its own. -/
theorem a_tool_that_waits_reads_the_reply_to_each_chunk (s : Line) (es : List Event)
    (h : system.Run s es) (hidle : s.uart.process_buf = none)
    (hwaits : system.Steps Waits s es) (hquiet : pending (system.run s es) = [])
    (hout : (system.run s es).tx = none) :
    system.outputs handled s es = system.outputs received s es ∧
      prefixed.read frameSize (system.run s es).wire =
        { frames := system.outputs replies s es, part := [] } ∧
      (system.outputs replies s es).map commandOf =
        (system.outputs received s es).filterMap replyTo := by
  obtain ⟨⟨hzero, htx, hr, hwire⟩, hA⟩ := h
  have h0 : Orderly s := orderly_idle hidle hzero hr
  have hboth := (runs.System.steps_and s es).mpr ⟨hA, hwaits⟩
  have hkeep : ∀ s e, Orderly s → system.allowed s e ∧ Waits s e → Orderly (system.next s e) :=
    fun s e hs hc => orderly_next hs hc.1 hc.2
  have hconserved : pending s ++ system.outputs received s es =
      system.outputs handled s es ++ pending (system.run s es) :=
    runs.System.outputs_conserved hkeep (fun s e hs hc => chunks_conserved hs hc.1 hc.2) h0 hboth
  rw [pending_idle hidle hzero, hquiet, List.nil_append, List.append_nil] at hconserved
  have hanswered : (system.outputs replies s es).map commandOf =
      (system.outputs handled s es).filterMap replyTo := by
    rw [runs.System.outputs_map, runs.System.outputs_filterMap]
    exact runs.System.outputs_congr hkeep (fun s e hs _ => replies_handled hs) h0 hboth
  have hstep : ∀ s e, Orderly s → system.allowed s e ∧ Waits s e →
      OnAFreeLine s e ∧ Orderly (system.next s e) :=
    fun s e hs hc => ⟨onAFreeLine_of_orderly hs hc.1 hc.2, hkeep s e hs hc⟩
  have hfree := (runs.System.steps_of_invariant hstep h0 hboth).1
  have hread := reads_of_carried ((carried_whole_iff ⟨⟨hzero, htx, hr, hwire⟩, hA⟩).mpr hfree)
  unfold TheToolReads at hread
  rw [outstanding_idle hout, List.append_nil] at hread
  exact ⟨hconserved.symm, hread, hconserved ▸ hanswered⟩

/-- The tool asks for the version, sends a frame that is damaged, and resets the tag. -/
def threeRequests : List Event :=
  asked [2, 0x16, 0xE8] ++ sentOut 7 ++ asked [2, 0x0B, 0xF4] ++ asked [2, 0x01, 0xFD] ++
    sentOut 4 ++ [.restart]

theorem a_damaged_chunk_is_left_without_a_reply :
    system.outputs handled bootedLine threeRequests =
        system.outputs received bootedLine threeRequests ∧
      prefixed.read frameSize (system.run bootedLine threeRequests).wire =
        { frames := system.outputs replies bootedLine threeRequests, part := [] } ∧
      (system.outputs replies bootedLine threeRequests).map commandOf = [0x96, 0x81] := by
  obtain ⟨hhandled, hread, hcommands⟩ :=
    a_tool_that_waits_reads_the_reply_to_each_chunk bootedLine threeRequests
      ⟨⟨rfl, rfl, rfl, rfl⟩, by decide +kernel⟩ rfl (by decide +kernel) (by decide +kernel)
      (by decide +kernel)
  exact ⟨hhandled, hread, hcommands.trans (by decide +kernel)⟩

end smart_track.dialogue
