-- A command frame is applied whole or not at all: an answer of FAIL changes nothing that
-- lasts, and an answer of SUCCESS to a set command rests on received bytes only. The handler
-- parses a buffer with zeros after the frame and does not look at how long the frame was.
import SmartTrack.Settings

open bytes smart_track.zephyr smart_track.production smart_track.storage
  smart_track.tag smart_track.custom_services smart_track.settings
open smart_track.time_manager (TimeManager)
open smart_track.provenance (loginFrame quietRun)

namespace smart_track.whole_frames

/-! ## The law -/

/-- What outlasts the handler: the two records, flash, the clock and the DFU mode. -/
structure Lasting where
  gst_ConfigData : ConfigData
  gst_DynamicData : DynamicData
  nvs : Nvs
  time : TimeManager
  dfu : Dfu

def lasting (t : Tag) : Lasting :=
  { gst_ConfigData := t.storage.gst_ConfigData, gst_DynamicData := t.storage.gst_DynamicData,
    nvs := t.storage.nvs, time := t.time, dfu := t.dfu }

/-- Where the parameters of a set command end. The other commands set nothing. -/
def paramsEnd : Command → Option Nat
  | .SET_REAL_TIME_CLOCK => some 7
  | .SET_ADV_PERIOD => some 3
  | .SET_ENERGY_SAVE_TIME => some 6
  | _ => none

/-- The frame that waits is a set command with parameters up to `stop`. -/
def Sets (t : Tag) (stop : Nat) : Prop :=
  (Command.ofByte (takenFrame t 0)).bind paramsEnd = some stop

/-- The first byte of the answer that a run of the handler leaves to the client. -/
def answer (t : Tag) (io : ParseIo) : Option UInt8 :=
  (readNotifyChar (bleParseAndReplyWorkHandler t io).1 CUSTOM_MAX_DATA_LEN 0).head?

/-- The run of the handler for the client `c`, with `temp_buf` as what its scratch buffer
holds. -/
def runWith (t : Tag) (c : Conn) (temp_buf : Frame) (io : ParseIo) : Tag :=
  (handleFrame (btConnRef (takeFrame t) c) c temp_buf io).1

/-- The frame that waits is applied whole or not at all. What it sets does not hang on what
the scratch buffer has after it. -/
structure AppliedWhole (t : Tag) (io : ParseIo) : Prop where
  failed : answer t io = some FAIL → lasting (bleParseAndReplyWorkHandler t io).1 = lasting t
  own_bytes : ∀ stop c, Sets t stop → executes t = some c → answer t io = some SUCCESS →
    ∀ temp_buf : Frame, (∀ i, i.val < t.svc.write_len → temp_buf i = takenFrame t i) →
      lasting (bleParseAndReplyWorkHandler t io).1 = lasting (runWith t c temp_buf io)
  too_short : ∀ stop, Sets t stop → t.svc.write_len < stop → answer t io = some FAIL

/-- The frame ends before the parameters of its command do, and passes the check that the
command makes. The set clock command makes none. -/
def TakenCut (t : Tag) : Prop :=
  match Command.ofByte (takenFrame t 0) with
  | some .SET_REAL_TIME_CLOCK => t.svc.write_len < 7
  | some .SET_ADV_PERIOD => t.svc.write_len < 3 ∧ 100 ≤ takenFrame t 1
  | some .SET_ENERGY_SAVE_TIME => t.svc.write_len < 6 ∧ takenFrame t 1 = GLOBAL_ENERGY_SAVE_CONFIG1
  | _ => False

instance (t : Tag) : Decidable (TakenCut t) := by
  unfold TakenCut
  split <;> infer_instance

/-! ## The commands -/

/-- A command answers SUCCESS, or it answers FAIL and has done nothing. -/
theorem authorisedCommand_outcome (t : Tag) (f : Frame) :
    (authorisedCommand t f).2.local_reply_buf.head? = some SUCCESS ∨
      (authorisedCommand t f).2.local_reply_buf.head? = some FAIL ∧
        (authorisedCommand t f).1 = t := by
  unfold authorisedCommand
  simp only
  split
  all_goals try split
  all_goals first
    | exact Or.inl rfl
    | exact Or.inr ⟨rfl, rfl⟩

theorem authorisedCommand_fail {t : Tag} {f : Frame}
    (h : (authorisedCommand t f).2.local_reply_buf.head? = some FAIL) :
    (authorisedCommand t f).1 = t := by
  rcases authorisedCommand_outcome t f with hok | ⟨_, hsame⟩
  · rw [hok] at h
    exact absurd h (by decide)
  · exact hsame

/-- A set command reads no further than its parameters go. -/
theorem authorisedCommand_congr (t : Tag) {f g : Frame} {stop : Nat}
    (hsets : (Command.ofByte (f 0)).bind paramsEnd = some stop)
    (h : ∀ i : Fin CUSTOM_MAX_DATA_LEN, i.val < stop → g i = f i) :
    authorisedCommand t g = authorisedCommand t f := by
  have h0 : g 0 = f 0 := by
    refine h 0 ?_
    cases hcmd : Command.ofByte (f 0) with
    | none => simp [hcmd] at hsets
    | some cmd =>
      cases cmd <;> simp_all [paramsEnd] <;> omega
  unfold authorisedCommand
  rw [h0]
  cases hcmd : Command.ofByte (f 0) with
  | none => simp [hcmd] at hsets
  | some cmd =>
    simp only [hcmd, Option.bind_some] at hsets
    cases cmd with
    | SET_REAL_TIME_CLOCK =>
      cases hsets
      simp only [h 1 (by decide), h 2 (by decide), h 3 (by decide), h 4 (by decide),
        h 5 (by decide), h 6 (by decide)]
    | SET_ADV_PERIOD =>
      cases hsets
      simp only [h 1 (by decide), h 2 (by decide)]
    | SET_ENERGY_SAVE_TIME =>
      cases hsets
      simp only [h 1 (by decide), h 2 (by decide), h 3 (by decide), h 4 (by decide),
        h 5 (by decide)]
    | _ => cases hsets

/-- The bytes that a frame does not have are read as zero. -/
theorem takenFrame_after {t : Tag} {i : Fin CUSTOM_MAX_DATA_LEN} (h : t.svc.write_len ≤ i.val) :
    takenFrame t i = 0 := if_neg (Nat.not_lt.mpr h)

/-- The interval of a frame of two bytes is its second byte. -/
theorem cut_interval {a : UInt8} :
    (100 ≤ ofLe16 a 0 ∧ ofLe16 a 0 ≤ 5000) ↔ 100 ≤ a := by
  rw [UInt16.le_iff_toNat_le, UInt16.le_iff_toNat_le, ofLe16_toNat, UInt8.le_iff_toNat_le]
  have hlt := a.toNat_lt
  change 100 ≤ _ ∧ _ ≤ 5000 ↔ 100 ≤ _
  simp [ofLe]
  omega

/-- A set command that ends before its parameters do fails unless it passes its check. -/
theorem cut_fails_iff (u : Tag) {t : Tag} {stop : Nat} (hsets : Sets t stop)
    (hcut : t.svc.write_len < stop) :
    (authorisedCommand u (takenFrame t)).2.local_reply_buf.head? = some FAIL ↔ ¬ TakenCut t := by
  unfold Sets at hsets
  unfold authorisedCommand TakenCut
  cases hcmd : Command.ofByte (takenFrame t 0) with
  | none => simp [hcmd] at hsets
  | some cmd =>
    simp only [hcmd, Option.bind_some] at hsets
    cases cmd with
    | SET_REAL_TIME_CLOCK =>
      cases hsets
      simp only [hcut, not_true_eq_false, iff_false]
      decide
    | SET_ADV_PERIOD =>
      cases hsets
      have h2 : takenFrame t 2 = 0 := takenFrame_after (Nat.le_of_lt_succ hcut)
      simp only [h2, cut_interval, hcut, true_and]
      by_cases hbyte : 100 ≤ takenFrame t 1
      · rw [if_pos hbyte]
        exact iff_of_false (by simp [FAIL, SUCCESS]) (not_not_intro hbyte)
      · rw [if_neg hbyte]
        exact iff_of_true rfl hbyte
    | SET_ENERGY_SAVE_TIME =>
      cases hsets
      simp only [hcut, true_and]
      by_cases hbyte : takenFrame t 1 = GLOBAL_ENERGY_SAVE_CONFIG1
      · rw [if_pos hbyte]
        exact iff_of_false (by simp [FAIL, SUCCESS]) (not_not_intro hbyte)
      · rw [if_neg hbyte]
        exact iff_of_true rfl hbyte
    | _ => cases hsets

theorem takenCut_short {t : Tag} (h : TakenCut t) :
    ∃ stop, Sets t stop ∧ t.svc.write_len < stop := by
  unfold TakenCut at h
  unfold Sets
  cases hcmd : Command.ofByte (takenFrame t 0) with
  | none => simp [hcmd] at h
  | some cmd =>
    rw [hcmd] at h
    cases cmd with
    | SET_REAL_TIME_CLOCK => exact ⟨7, rfl, h⟩
    | SET_ADV_PERIOD => exact ⟨3, rfl, h.1⟩
    | SET_ENERGY_SAVE_TIME => exact ⟨6, rfl, h.1⟩
    | _ => exact absurd h id

theorem authorisedCommand_length (t : Tag) (f : Frame) :
    (authorisedCommand t f).2.local_reply_buf.length ≤ CUSTOM_MAX_DATA_LEN := by
  unfold authorisedCommand
  simp only
  split
  all_goals try split
  all_goals simp [invalidSubCommand, le16, le32, BLE_GAP_ADDR_LEN, CUSTOM_MAX_DATA_LEN]

/-! ## The handler -/

/-- The tag as an authorised command finds it: the end of the session is put off. -/
def postponed (t : Tag) : Tag :=
  { t with svc :=
      { t.svc with
        connection_timout_work :=
          kWorkReschedule t.svc.connection_timout_work (K_SECONDS DISCC_TIME_SEC) } }

theorem command_authorised {t : Tag} (f : Frame) (h : t.svc.bool_UserAuthorization = true) :
    command t f = authorisedCommand (postponed t) f := if_neg (by simp [h])

/-- No record of the service is marked. -/
structure Clean (t : Tag) : Prop where
  config : t.svc.bool_ConfigDataWrite = false
  dynamic : t.svc.bool_DynamicDataWrite = false

theorem flush_clean (t : Tag) (configRc dynamicRc : Int) :
    Clean (flushDynamic (flushConfig t configRc) dynamicRc) := by
  unfold flushDynamic flushConfig
  split_ifs with hconfig hdynamic hdynamic
  · exact ⟨rfl, rfl⟩
  · exact ⟨rfl, Bool.eq_false_iff.mpr hdynamic⟩
  · exact ⟨Bool.eq_false_iff.mpr hconfig, rfl⟩
  · exact ⟨Bool.eq_false_iff.mpr hconfig, Bool.eq_false_iff.mpr hdynamic⟩

theorem flush_of_clean {t : Tag} (h : Clean t) (configRc dynamicRc : Int) :
    flushDynamic (flushConfig t configRc) dynamicRc = t := by
  have hconfig : flushConfig t configRc = t := if_neg (by simp [h.config])
  rw [hconfig]
  exact if_neg (by simp [h.dynamic])

theorem endOfRun_clean {t : Tag} (reply : Reply) (h : Clean t) : Clean (endOfRun t reply) := by
  unfold endOfRun
  split
  · exact ⟨h.config, h.dynamic⟩
  · exact h

theorem handleFrame_clean (t : Tag) (c : Conn) (f : Frame) (io : ParseIo) :
    Clean (handleFrame t c f io).1 :=
  endOfRun_clean _ (flush_clean _ io.configRc io.dynamicRc)

theorem clean_of_fresh {t : Tag} (h : Fresh t) : Clean t := by
  constructor <;> rw [h.svc]

theorem clean_of_keeps {t u : Tag} (hk : SameButDoze t u) (h : Clean t) : Clean u := by
  obtain ⟨refs, doze, rfl⟩ := hk
  exact ⟨h.config, h.dynamic⟩

/-- The records are only marked while the handler runs. -/
theorem clean_next {t : Tag} (e : Event) (h : Clean t) : Clean (next t e) := by
  cases e with
  | connected c id err infoRc =>
    simp only [next, linkUp, custom_services.connected]
    split_ifs <;> exact ⟨h.config, h.dynamic⟩
  | disconnected c io =>
    simp only [next, linkDown, custom_services.disconnected, visionBranch, releaseConn]
    split_ifs <;> exact ⟨h.config, h.dynamic⟩
  | write c buf offset =>
    simp only [next, writeIncomingChar]
    split <;> exact ⟨h.config, h.dynamic⟩
  | parseAndReply io =>
    rw [next]
    cases hex : executes t with
    | none =>
      rw [parse_idle t io hex]
      exact ⟨h.config, h.dynamic⟩
    | some c =>
      rw [parse_busy t c io hex]
      exact handleFrame_clean _ c _ io
  | authorisationTimeout =>
    exact clean_of_keeps (initiateDisconnect_keeps .done _) ⟨h.config, h.dynamic⟩
  | connectionTimeout =>
    exact clean_of_keeps (initiateDisconnect_keeps .done _) ⟨h.config, h.dynamic⟩
  | initiateDisconnect => exact clean_of_keeps (initiateDisconnect_keeps .done _) h
  | wake io =>
    rcases wake_keeps t io with hk | hk
    · exact clean_of_keeps hk h
    · rw [next, hk]
      exact clean_of_fresh (sysReboot_fresh t io)
  | toolMsg data len io bootIo =>
    rw [next]
    by_cases hreset : ResetsTag data len
    · rw [toolMsg_reset t io bootIo hreset]
      exact clean_of_fresh (sysReboot_fresh t bootIo)
    · obtain ⟨tool, storage, time, heq⟩ := toolMsg_frame t io bootIo hreset
      rw [heq]
      exact ⟨h.config, h.dynamic⟩
  | _ => exact ⟨h.config, h.dynamic⟩

theorem lasting_handleFrame (t : Tag) (c : Conn) (f : Frame) (io : ParseIo) :
    lasting (handleFrame t c f io).1 =
      lasting (flushDynamic (flushConfig (command t f).1 io.configRc) io.dynamicRc) := by
  have hend : ∀ (u : Tag) (reply : Reply), (endOfRun u reply).dfu = u.dfu := by
    intro u reply
    unfold endOfRun
    split <;> rfl
  have hflush : ∀ (u : Tag) (rc drc : Int), (flushDynamic (flushConfig u rc) drc).dfu = u.dfu ∧
      (flushDynamic (flushConfig u rc) drc).time = u.time := by
    intro u rc drc
    unfold flushDynamic flushConfig
    split_ifs <;> exact ⟨rfl, rfl⟩
  have hsend : ∀ (u : Tag) (data : List UInt8) (nio : NotifyIo),
      (bleCustomServiceSendNotification u c data nio).1.dfu = u.dfu := by
    intro u data nio
    unfold bleCustomServiceSendNotification
    simp only
    split_ifs <;> rfl
  obtain ⟨hstorage, htime⟩ := handleFrame_records t c f io
  have hdfu : (handleFrame t c f io).1.dfu = (command t f).1.dfu := by
    unfold handleFrame
    simp only [hend, hflush]
    exact hsend _ _ _
  unfold lasting
  rw [hstorage, htime, hdfu, (hflush _ _ _).1, (hflush _ _ _).2]

section run

variable {t : Tag} {c : Conn} (io : ParseIo)

/-- The answer is that of the command. -/
theorem answer_eq (hexec : executes t = some c) (hauth : t.svc.bool_UserAuthorization = true) :
    answer t io = (authorisedCommand (postponed (btConnRef (takeFrame t) c))
      (takenFrame t)).2.local_reply_buf.head? := by
  have hcmd := command_authorised (t := btConnRef (takeFrame t) c) (takenFrame t) hauth
  have hlen := authorisedCommand_length (postponed (btConnRef (takeFrame t) c)) (takenFrame t)
  rw [← hcmd] at hlen ⊢
  unfold answer
  rw [parse_busy t c io hexec, (handleFrame_reply _ c (takenFrame t) io hlen).1]

/-- What an authorised run leaves for good is what its command leaves. -/
theorem runWith_lasting (hauth : t.svc.bool_UserAuthorization = true) (f : Frame) :
    lasting (runWith t c f io) =
      lasting (flushDynamic (flushConfig
        (authorisedCommand (postponed (btConnRef (takeFrame t) c)) f).1 io.configRc)
        io.dynamicRc) := by
  rw [← command_authorised (t := btConnRef (takeFrame t) c) f hauth]
  exact lasting_handleFrame _ c f io

theorem failed_keeps (hclean : Clean t) (hexec : executes t = some c)
    (hauth : t.svc.bool_UserAuthorization = true) (hfail : answer t io = some FAIL) :
    lasting (bleParseAndReplyWorkHandler t io).1 = lasting t := by
  rw [answer_eq io hexec hauth] at hfail
  have hsame := authorisedCommand_fail hfail
  have hpost : Clean (postponed (btConnRef (takeFrame t) c)) := ⟨hclean.config, hclean.dynamic⟩
  have hrun := runWith_lasting (c := c) io hauth (takenFrame t)
  rw [hsame, flush_of_clean hpost] at hrun
  rw [parse_busy t c io hexec]
  exact hrun

theorem appliedWhole_iff (hclean : Clean t) (hexec : executes t = some c)
    (hauth : t.svc.bool_UserAuthorization = true) : AppliedWhole t io ↔ ¬ TakenCut t := by
  have hfails : ∀ stop, Sets t stop → t.svc.write_len < stop →
      (answer t io = some FAIL ↔ ¬ TakenCut t) := by
    intro stop hsets hcut
    rw [answer_eq io hexec hauth]
    exact cut_fails_iff _ hsets hcut
  constructor
  · intro hwhole hcut
    obtain ⟨stop, hsets, hshort⟩ := takenCut_short hcut
    exact (hfails stop hsets hshort).mp (hwhole.too_short stop hsets hshort) hcut
  · intro hnot
    refine ⟨failed_keeps io hclean hexec hauth, ?_, fun stop hsets hshort =>
      (hfails stop hsets hshort).mpr hnot⟩
    intro stop d hsets hd hok f hf
    cases hexec.symm.trans hd
    have hlong : stop ≤ t.svc.write_len := by
      by_contra hshort
      rw [(hfails stop hsets (Nat.lt_of_not_le hshort)).mpr hnot] at hok
      exact absurd hok (by decide)
    have hcongr := authorisedCommand_congr (postponed (btConnRef (takeFrame t) c)) hsets
      (fun i hi => hf i (Nat.lt_of_lt_of_le hi hlong))
    rw [runWith_lasting io hauth f, hcongr, ← runWith_lasting io hauth (takenFrame t),
      parse_busy t c io hexec]
    rfl

end run

/-! ## Every authorised frame -/

/-- In every state that a run reaches, whatever frame waits for the handler of an authorised
session: it is applied whole or not at all just when it does not pass its check without its
parameters. -/
theorem a_frame_is_applied_whole_unless_it_is_taken_cut (t : Tag) (es : List tag.Event)
    (io : ParseIo) (h : system.Run t es) (hexec : executes (system.run t es) ≠ none)
    (hauth : (system.run t es).svc.bool_UserAuthorization = true) :
    AppliedWhole (system.run t es) io ↔ ¬ TakenCut (system.run t es) := by
  have hclean : Clean (system.run t es) := by
    refine runs.System.run_invariant (I := Clean) (fun _ e hc _ => clean_next e hc) ?_ h.2
    obtain ⟨board, nvs, retained, bootIo, rfl⟩ := h.1
    exact clean_of_fresh (boot_fresh board nvs retained bootIo)
  obtain ⟨c, hc⟩ := Option.ne_none_iff_exists'.mp hexec
  exact appliedWhole_iff io hclean hc hauth

/-- A client that has logged in, and whose next frame waits. -/
def loggedIn (frame : List UInt8) : List tag.Event :=
  [.connected 0 2 0 0, .write 0 loginFrame 0, .parseAndReply quietRun, .write 0 frame 0]

theorem a_clock_of_seven_bytes_is_applied_whole :
    AppliedWhole (system.run factoryTag (loggedIn [3, 0x21, 0x96, 0x25, 0x6A, 60, 0])) quietRun :=
  (a_frame_is_applied_whole_unless_it_is_taken_cut factoryTag
    (loggedIn [3, 0x21, 0x96, 0x25, 0x6A, 60, 0]) quietRun
    ⟨factoryTag_starts, by decide +kernel⟩ (by decide +kernel) (by decide +kernel)).mpr
    (by decide +kernel)

/-- The command byte alone sets the clock and the time zone to zero, and is answered SUCCESS. -/
theorem a_clock_of_one_byte_is_taken :
    ¬ ∀ (t : Tag) (es : List tag.Event) (io : ParseIo), system.Run t es →
      executes (system.run t es) ≠ none →
        (system.run t es).svc.bool_UserAuthorization = true →
          AppliedWhole (system.run t es) io := by
  intro h
  have hwhole := h factoryTag (loggedIn [3]) quietRun ⟨factoryTag_starts, by decide +kernel⟩
    (by decide +kernel) (by decide +kernel)
  have hsets : Sets (system.run factoryTag (loggedIn [3])) 7 := by
    unfold Sets
    decide +kernel
  have hfail := hwhole.too_short 7 hsets (by decide +kernel)
  revert hfail
  decide +kernel

end smart_track.whole_frames
