-- The bytes of a production frame. The length byte and the real length are never
-- held against what a command copies, so a short frame with a good checksum
-- brings in what is left on the stack.
import SmartTrack.Settings

open bytes smart_track.zephyr smart_track.production smart_track.storage smart_track.tag
  smart_track.custom_services smart_track.settings

namespace smart_track.own_bytes

/-! ## The law -/

/-- The writes to flash at the end of the handler, by their keys. -/
def flushWrites (t : Tag) : List (Nat × List UInt8) :=
  (if t.tool.bool_ProductionDataWrite then
    [(PRODUCTION_DATA_KEY, t.storage.gst_ProductionData.toBytes)] else []) ++
  (if t.tool.bool_ConfigDataWrite then
    [(CONFIG_DATA_KEY, t.storage.gst_ConfigData.toBytes)] else []) ++
  (if t.tool.bool_DynamicDataWrite then
    [(DYNAMIC_DATA_KEY, t.storage.gst_DynamicData.toBytes)] else [])

/-- The writes to flash of one run of the handler. -/
def nvsWrites (t : Tag) (data : UartBuf) (len : Nat) : List (Nat × List UInt8) :=
  if len < 2 then
    []
  else if checksumValid data len then
    let (t, _, restarts) := toolCommand t data
    if restarts then [] else flushWrites t
  else
    flushWrites t

/-- What a run of the handler comes to: the three records, flash with the writes to it, and
the reply. -/
structure Outcome where
  gst_ProductionData : ProductionData
  gst_ConfigData : ConfigData
  gst_DynamicData : DynamicData
  nvs : Nvs
  writes : List (Nat × List UInt8)
  sent : Option (List UInt8)

def outcome (t : Tag) (data : UartBuf) (len : Nat) (io : ToolIo) (bootIo : BootIo) : Outcome :=
  let (u, sent) := processProductionMsg t data len io bootIo
  { gst_ProductionData := u.storage.gst_ProductionData
    gst_ConfigData := u.storage.gst_ConfigData
    gst_DynamicData := u.storage.gst_DynamicData
    nvs := u.storage.nvs
    writes := nvsWrites t data len
    sent := sent }

/-- The two buffers hold the same frame of `len` bytes. -/
def SameFrame (data data' : UartBuf) (len : Nat) : Prop :=
  ∀ i : Fin UART_RX_BUF_SIZE, i.val < len → data i = data' i

/-- The command byte, and the subcommand of the commands that have one. -/
def controlLength (data : UartBuf) : Nat :=
  match ToolCommand.ofByte (data 1) with
  | some .TOOL_SET_DEVICE_CONFIG => 3
  | some .TOOL_READ_DEVICE_CONFIG => 3
  | _ => 2

/-- How far a command reads in the buffer. -/
def readLength (data : UartBuf) : Nat :=
  match ToolCommand.ofByte (data 1) with
  | some .TOOL_SET_DEFULT_PASSW => 18
  | some .TOOL_SET_SERIAL_OF_DUT_CMD => 20
  | some .TOOL_SET_MAC_OF_DUT_CMD => 8
  | some .TOOL_SET_CLOCK_CMD => 8
  | some .TOOL_SET_DEVICE_CONFIG => if data 2 = 0 then 15 else 3
  | some .TOOL_READ_DEVICE_CONFIG => 3
  | _ => 2

/-- How long a frame has to be: it holds what its command reads, and its checksum after any
data. -/
def neededLength (data : UartBuf) : Nat :=
  if controlLength data < readLength data then readLength data + 1 else readLength data

/-- The message acts only through its own bytes: what follows them changes neither the records
nor flash nor the reply, and no record takes the checksum byte as data. -/
structure ActsByOwnBytes (data : UartBuf) (len : Nat) : Prop where
  frame_decides : ∀ (t : Tag) (data' : UartBuf) (io : ToolIo) (bootIo : BootIo),
    SameFrame data data' len → outcome t data' len io bootIo = outcome t data len io bootIo
  checksum_kept_out : ∀ (t : Tag) (j : Fin UART_RX_BUF_SIZE) (b : UInt8),
    checksumValid data len = true → controlLength data ≤ j.val → j.val + 1 = len →
      (toolCommand t (Function.update data j b)).1.storage = (toolCommand t data).1.storage

/-! ## What a command reads -/

/-- A command goes by the bytes that it reads. -/
theorem toolCommand_congr (t : Tag) {data data' : UartBuf}
    (h : SameFrame data data' (readLength data)) : toolCommand t data' = toolCommand t data := by
  have h1 : data' 1 = data 1 := by
    refine (h 1 ?_).symm
    unfold readLength
    split <;> try split
    all_goals decide
  unfold toolCommand
  unfold readLength at h
  rw [h1]
  cases hcmd : ToolCommand.ofByte (data 1) with
  | none => rfl
  | some cmd =>
    rw [hcmd] at h
    cases cmd with
    | TOOL_SET_DEFULT_PASSW =>
      simp only
      rw [window_congr (a := data') (b := data) _ fun i hi => (h i hi).symm]
    | TOOL_SET_SERIAL_OF_DUT_CMD =>
      simp only
      rw [window_congr (a := data') (b := data) _ fun i hi => (h i hi).symm]
    | TOOL_SET_MAC_OF_DUT_CMD =>
      simp only
      rw [window_congr (a := data') (b := data) _ fun i hi => (h i hi).symm]
    | TOOL_SET_CLOCK_CMD =>
      simp only at h ⊢
      rw [h 2 (by decide), h 3 (by decide), h 4 (by decide), h 5 (by decide), h 6 (by decide),
        h 7 (by decide)]
    | TOOL_SET_DEVICE_CONFIG =>
      have h2 : data' 2 = data 2 := by
        refine (h 2 ?_).symm
        simp only
        split <;> decide
      simp only [h2]
      split
      · rename_i hsub
        simp only [if_pos hsub] at h
        rw [window_congr (a := data') (b := data) _ fun i hi => (h i hi).symm]
      · rfl
    | TOOL_READ_DEVICE_CONFIG =>
      simp only at h ⊢
      rw [h 2 (by decide)]
    | _ => rfl

/-- With codes that are good, the writes bring flash where the handler leaves it. -/
theorem flushTool_writes (t : Tag) {io : ToolIo} (hio : io.Succeeds) :
    (flushTool t io).storage.nvs =
      (flushWrites t).foldl (fun (nvs : Nvs) w => Function.update nvs w.1 (some w.2))
        t.storage.nvs := by
  have hprod := Int.not_lt.mpr hio.production
  have hconf := Int.not_lt.mpr hio.config
  have hdyn := Int.not_lt.mpr hio.dynamic
  rw [flushTool_storage]
  simp only [saveMarked, flushWrites, Slot.save, writeNvsData, hprod, hconf, hdyn, if_false]
  split_ifs <;> rfl

/-! ## What a byte changes -/

/-- A byte of a clock command goes into the epoch or into the zone. -/
theorem clock_update_ne {data : UartBuf} {j : Fin UART_RX_BUF_SIZE} {b : UInt8}
    (hlo : 2 ≤ j.val) (hhi : j.val < 8) (hb : b ≠ data j) :
    let sent := Function.update data j b
    ofLe32 (sent 2) (sent 3) (sent 4) (sent 5) ≠ ofLe32 (data 2) (data 3) (data 4) (data 5) ∨
      ofLe16 (sent 6) (sent 7) ≠ ofLe16 (data 6) (data 7) := by
  have hself : Function.update data j b j ≠ data j := by rwa [Function.update_self]
  by_cases hepoch : j.val < 6
  · left
    intro heq
    have hbytes := congrArg le32 heq
    simp only [le32_ofLe32, List.cons.injEq, and_true] at hbytes
    obtain ⟨h2, h3, h4, h5⟩ := hbytes
    have hj : j.val = 2 ∨ j.val = 3 ∨ j.val = 4 ∨ j.val = 5 := by omega
    rcases hj with hj | hj | hj | hj
    · obtain rfl : j = 2 := Fin.ext hj
      exact hself h2
    · obtain rfl : j = 3 := Fin.ext hj
      exact hself h3
    · obtain rfl : j = 4 := Fin.ext hj
      exact hself h4
    · obtain rfl : j = 5 := Fin.ext hj
      exact hself h5
  · right
    intro heq
    have hbytes := congrArg le16 heq
    simp only [le16_ofLe16, List.cons.injEq, and_true] at hbytes
    have hj : j.val = 6 ∨ j.val = 7 := by omega
    rcases hj with hj | hj
    · obtain rfl : j = 6 := Fin.ext hj
      exact hself hbytes.1
    · obtain rfl : j = 7 := Fin.ext hj
      exact hself hbytes.2

/-- Every byte after the control bytes that a command reads goes into a record. -/
theorem toolCommand_stores (t : Tag) (data : UartBuf) (j : Fin UART_RX_BUF_SIZE) {b : UInt8}
    (hlo : controlLength data ≤ j.val) (hhi : j.val < readLength data) (hb : b ≠ data j) :
    let u := (toolCommand t data).1.storage
    let u' := (toolCommand t (Function.update data j b)).1.storage
    u'.gst_ProductionData ≠ u.gst_ProductionData ∨ u'.gst_ConfigData ≠ u.gst_ConfigData ∨
      u'.gst_DynamicData ≠ u.gst_DynamicData := by
  have hcontrol : 2 ≤ controlLength data := by
    unfold controlLength
    split <;> decide
  have h1 : Function.update data j b 1 = data 1 := by
    apply Function.update_of_ne
    rintro rfl
    exact absurd (hcontrol.trans hlo) (by decide)
  unfold toolCommand
  unfold controlLength at hlo
  unfold readLength at hhi
  rw [h1]
  cases hcmd : ToolCommand.ofByte (data 1) with
  | none =>
    rw [hcmd] at hlo hhi
    simp only at hlo hhi
    omega
  | some cmd =>
    rw [hcmd] at hlo hhi
    cases cmd with
    | TOOL_SET_DEFULT_PASSW =>
      left
      intro heq
      exact window_update_ne (by decide) hlo hhi hb (congrArg ProductionData.mu8ar_Password heq)
    | TOOL_SET_SERIAL_OF_DUT_CMD =>
      left
      intro heq
      exact window_update_ne (by decide) hlo hhi hb (congrArg ProductionData.mu8_SerialNumber heq)
    | TOOL_SET_MAC_OF_DUT_CMD =>
      left
      intro heq
      have hmac : reversed (window (Function.update data j b) 2 BLE_GAP_ADDR_LEN (by decide)) =
          reversed (window data 2 BLE_GAP_ADDR_LEN (by decide)) :=
        congrArg ProductionData.mu8ar_MACAddr heq
      exact window_update_ne (by decide) hlo hhi hb (reversed_injective hmac)
    | TOOL_SET_CLOCK_CMD =>
      rcases clock_update_ne hlo hhi hb with hepoch | hzone
      · exact Or.inr (Or.inr fun heq => hepoch (congrArg DynamicData.mu32_CurrentTime heq))
      · exact Or.inr (Or.inl fun heq => hzone (congrArg ConfigData.s16_TimeZoneOffset heq))
    | TOOL_SET_DEVICE_CONFIG =>
      simp only at hlo hhi
      have h2 : Function.update data j b 2 = data 2 := by
        apply Function.update_of_ne
        rintro rfl
        exact absurd hlo (by decide)
      by_cases hsub : data 2 = 0
      · left
        intro heq
        rw [if_pos hsub] at hhi
        simp only [h2, if_pos hsub] at heq
        exact window_update_ne (by decide) hlo hhi hb
          (congrArg ProductionData.mu8ar_ModelNumber heq)
      · rw [if_neg hsub] at hhi
        omega
    | _ =>
      simp only at hlo hhi
      omega

/-- The commands with a subcommand send it back. -/
theorem toolCommand_echoes (t : Tag) (data : UartBuf) (h : controlLength data = 3) :
    ∃ frame, (toolCommand t data).2.1 = some frame ∧ frame.getD 2 0 = data 2 := by
  unfold controlLength at h
  unfold toolCommand
  cases hcmd : ToolCommand.ofByte (data 1) with
  | none =>
    rw [hcmd] at h
    cases h
  | some cmd =>
    rw [hcmd] at h
    cases cmd with
    | TOOL_SET_DEVICE_CONFIG =>
      simp only
      split <;> exact ⟨_, rfl, rfl⟩
    | TOOL_READ_DEVICE_CONFIG =>
      simp only
      split <;> exact ⟨_, rfl, rfl⟩
    | _ => cases h

theorem readLength_two {data data' : UartBuf} (h1 : data' 1 = data 1) :
    readLength data' = 2 ↔ readLength data = 2 := by
  unfold readLength
  rw [h1]
  split <;> try exact Iff.rfl
  split <;> split <;> simp

/-- Only the reset command restarts the tag, and it reads nothing past its command byte. -/
theorem restarts_reads (t : Tag) (data : UartBuf) (h : (toolCommand t data).2.2 = true) :
    readLength data = 2 := by
  obtain ⟨_, hcmd⟩ := toolCommand_restart t data h
  unfold readLength
  rw [hcmd]

/-! ## What a message changes -/

theorem checksumValid_congr {data data' : UartBuf} {len : Nat} (hlen : 2 ≤ len)
    (hmax : len ≤ UART_RX_BUF_SIZE) (h : SameFrame data data' len) :
    checksumValid data' len = checksumValid data len := by
  have hbody : (listOf data').take (len - 1) = (listOf data).take (len - 1) :=
    take_listOf_congr fun i hi => (h i (by omega)).symm
  have hlast : (listOf data').getD (len - 1) 0 = (listOf data).getD (len - 1) 0 := by
    have hbyte := h ⟨len - 1, by omega⟩ (by simp only; omega)
    rw [← getD_listOf data, ← getD_listOf data'] at hbyte
    exact hbyte.symm
  unfold checksumValid
  rw [hbody, hlast]

/-- The reply to a valid message is that of its command, and so are the records, unless it
resets the tag. -/
theorem outcome_command (t : Tag) (data : UartBuf) {len : Nat} (io : ToolIo) (bootIo : BootIo)
    (hlen : 2 ≤ len) (hsum : checksumValid data len = true) :
    let u := (toolCommand (keptAwake t) data).1.storage
    let o := outcome t data len io bootIo
    o.sent = (toolCommand (keptAwake t) data).2.1 ∧
      (readLength data ≠ 2 →
        o.gst_ProductionData = u.gst_ProductionData ∧ o.gst_ConfigData = u.gst_ConfigData ∧
          o.gst_DynamicData = u.gst_DynamicData) := by
  have heq := toolMsg_valid t data len io bootIo hlen hsum
  refine ⟨by simp only [outcome, heq], ?_⟩
  intro hread
  have hstays : (toolCommand (keptAwake t) data).2.2 ≠ true :=
    fun hr => hread (restarts_reads _ data hr)
  simp only [outcome, heq, if_neg hstays, flushTool_storage]
  exact ⟨trivial, trivial, trivial⟩

theorem exists_other_byte (x : UInt8) : ∃ b, b ≠ x := by
  by_cases h : x = 0
  · exact ⟨1, by rw [h]; decide⟩
  · exact ⟨0, fun h0 => h h0.symm⟩

theorem sameFrame_update (data : UartBuf) (j : Fin UART_RX_BUF_SIZE) (b : UInt8) {len : Nat}
    (h : len ≤ j.val) : SameFrame data (Function.update data j b) len := by
  intro i hi
  have hne : i ≠ j := by
    rintro rfl
    omega
  exact (Function.update_of_ne hne b data).symm

section short

variable {data : UartBuf} {len : Nat}

/-- A frame that its command reads past: the byte after it gets into a record or the reply. -/
theorem short_frame_leaks (hlen : 2 ≤ len) (hmax : len ≤ UART_RX_BUF_SIZE)
    (hsum : checksumValid data len = true) (hshort : len < controlLength data ∨
      controlLength data ≤ len ∧ len < readLength data) : ¬ ActsByOwnBytes data len := by
  intro hacts
  have hctl : controlLength data = 2 ∨ controlLength data = 3 := by
    unfold controlLength
    split <;> simp
  have hread : readLength data ≤ 20 := by
    unfold readLength
    split <;> try split
    all_goals decide
  have hsize : len < UART_RX_BUF_SIZE := by
    change len < 64
    omega
  obtain ⟨b, hb⟩ := exists_other_byte (data ⟨len, hsize⟩)
  have hsame := sameFrame_update data ⟨len, hsize⟩ b (Nat.le_refl len)
  have hout := hacts.frame_decides factoryTag _ quietBoot.load quietBoot hsame
  have hsum' := (checksumValid_congr hlen hmax hsame).trans hsum
  obtain ⟨hsent, hrecords⟩ := outcome_command factoryTag data quietBoot.load quietBoot hlen hsum
  obtain ⟨hsent', hrecords'⟩ := outcome_command factoryTag
    (Function.update data ⟨len, hsize⟩ b) quietBoot.load quietBoot hlen hsum'
  rw [hout] at hsent' hrecords'
  have h1 : Function.update data ⟨len, hsize⟩ b 1 = data 1 := (hsame 1 hlen).symm
  rcases hshort with hcontrol | ⟨hcontrol, hdata⟩
  · -- The subcommand itself is not in the frame, and it is sent back.
    have hthree : controlLength data = 3 := by omega
    have hthree' : controlLength (Function.update data ⟨len, hsize⟩ b) = 3 := by
      rw [← hthree]
      unfold controlLength
      rw [h1]
    obtain ⟨frame, hframe, hecho⟩ := toolCommand_echoes (keptAwake factoryTag) data hthree
    obtain ⟨frame', hframe', hecho'⟩ := toolCommand_echoes (keptAwake factoryTag) _ hthree'
    rw [hframe] at hsent
    rw [hframe', hsent, Option.some.injEq] at hsent'
    have htwo : (⟨len, hsize⟩ : Fin UART_RX_BUF_SIZE) = 2 := Fin.ext (by
      change len = 2
      omega)
    rw [← hsent', hecho, ← htwo, Function.update_self] at hecho'
    exact hb hecho'.symm
  · -- The byte after the frame is data.
    have hread2 : readLength data ≠ 2 := by omega
    have hread2' := (readLength_two h1).not.mpr hread2
    obtain ⟨hprod, hconf, hdyn⟩ := hrecords hread2
    obtain ⟨hprod', hconf', hdyn'⟩ := hrecords' hread2'
    rcases toolCommand_stores (keptAwake factoryTag) data ⟨len, hsize⟩ hcontrol hdata hb with
      hne | hne | hne
    · exact hne (hprod'.symm.trans hprod)
    · exact hne (hconf'.symm.trans hconf)
    · exact hne (hdyn'.symm.trans hdyn)

/-- A frame whose command reads up to its checksum stores the checksum as data. -/
theorem full_read_takes_checksum (hmax : len ≤ UART_RX_BUF_SIZE)
    (hsum : checksumValid data len = true) (hcontrol : controlLength data < len)
    (hread : len = readLength data) : ¬ ActsByOwnBytes data len := by
  intro hacts
  have hlast : len - 1 < UART_RX_BUF_SIZE := by omega
  obtain ⟨b, hb⟩ := exists_other_byte (data ⟨len - 1, hlast⟩)
  have hkept := hacts.checksum_kept_out factoryTag ⟨len - 1, hlast⟩ b hsum
    (by simp only; omega) (by simp only; omega)
  rcases toolCommand_stores factoryTag data ⟨len - 1, hlast⟩ (by simp only; omega)
    (by simp only; omega) hb with hne | hne | hne
  all_goals exact hne (by rw [hkept])

/-- A frame that is long enough for its command decides all that the message does. -/
theorem long_frame_acts (hlen : 2 ≤ len) (hmax : len ≤ UART_RX_BUF_SIZE)
    (h : checksumValid data len = true → neededLength data ≤ len) : ActsByOwnBytes data len := by
  have hread : checksumValid data len = true → readLength data ≤ len := by
    intro hsum
    have hneeded := h hsum
    unfold neededLength at hneeded
    split at hneeded <;> omega
  constructor
  · intro t data' io bootIo hsame
    have hsum' := checksumValid_congr hlen hmax hsame
    have hboth : processProductionMsg t data' len io bootIo =
          processProductionMsg t data len io bootIo ∧
        nvsWrites t data' len = nvsWrites t data len := by
      unfold nvsWrites
      rw [hsum', if_neg (Nat.not_lt.mpr hlen), if_neg (Nat.not_lt.mpr hlen)]
      by_cases hsum : checksumValid data len = true
      · have hcmd : ∀ u, toolCommand u data' = toolCommand u data := fun u =>
          toolCommand_congr u fun i hi => hsame i (hi.trans_le (hread hsum))
        rw [toolMsg_valid t data' len io bootIo hlen (hsum'.trans hsum),
          toolMsg_valid t data len io bootIo hlen hsum, hcmd, hcmd]
        exact ⟨rfl, rfl⟩
      · unfold processProductionMsg
        rw [hsum', if_neg hsum, if_neg hsum, if_neg hsum, if_neg hsum]
        exact ⟨rfl, rfl⟩
    unfold outcome
    rw [hboth.1, hboth.2]
  · intro t j b hsum hcontrol hj
    have hfar : readLength data ≤ j.val := by
      have hneeded := h hsum
      unfold neededLength at hneeded
      split at hneeded <;> omega
    rw [toolCommand_congr t (sameFrame_update data j b hfar)]

end short

/-- A message of 2 to 64 bytes acts only through its own bytes just when its checksum is wrong,
or the frame has the length that its command needs. -/
theorem a_message_acts_by_its_own_bytes_if_it_is_long_enough (data : UartBuf) (len : Nat)
    (hlen : 2 ≤ len) (hmax : len ≤ UART_RX_BUF_SIZE) :
    ActsByOwnBytes data len ↔ (checksumValid data len = true → neededLength data ≤ len) := by
  constructor
  · intro hacts hsum
    by_contra hneeded
    by_cases hshort : len < controlLength data ∨ controlLength data ≤ len ∧ len < readLength data
    · exact short_frame_leaks hlen hmax hsum hshort hacts
    · unfold neededLength at hneeded
      split at hneeded
      · exact full_read_takes_checksum hmax hsum (by omega) (by omega) hacts
      · omega
  · exact long_frame_acts hlen hmax

/-- A frame that sets the password, with all its sixteen bytes. -/
def passwordFrame : UartBuf := padded _ ([18, 0x3A] ++ List.replicate 16 0x41 ++ [0xA4])

theorem a_full_password_frame_acts_by_its_own_bytes : ActsByOwnBytes passwordFrame 19 :=
  (a_message_acts_by_its_own_bytes_if_it_is_long_enough passwordFrame 19 (by decide)
    (by decide)).mpr (fun _ => by decide)

/-- Three bytes with a good checksum set the password: the checksum and what is left on the
stack become the new one. -/
theorem a_short_password_frame_stores_the_stack :
    ¬ ∀ (data : UartBuf) (len : Nat), 2 ≤ len → len ≤ UART_RX_BUF_SIZE →
      ActsByOwnBytes data len := by
  intro h
  have hacts := h (padded _ [2, 0x3A, 0xC4]) 3 (by decide) (by decide)
  exact short_frame_leaks (by decide) (by decide) (by decide) (Or.inr (by decide)) hacts

end smart_track.own_bytes
