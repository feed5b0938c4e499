-- The gate on GATT accesses (`main.c`, `dfu.c`): identifying data is open to a
-- connection that was authenticated, or in the identification mode; the SMP
-- characteristic is open in the DFU mode, which always has its timeout pending.
import SmartTrack.FpAdv
import SmartTrack.Runs
import SmartTrack.Tag

open smart_track.zephyr smart_track.tag
open smart_track.fp_adv (BIT writeBit and_BIT getLsbD_writeBit)

namespace smart_track.gate

/-! ## The state of the two files -/

/-- The UUIDs that the gate tells apart. -/
inductive Uuid
  | BT_UUID_DIS_FIRMWARE_REVISION
  | BT_UUID_GAP_DEVICE_NAME
  | SMP_BT_CHR_UUID
  | other (n : Nat)
  deriving DecidableEq

inductive UiRequest
  | RINGING_STOP
  | RECOVERY_MODE_ENTER
  | ID_MODE_ENTER
  | SIMULATED_BATTERY_CHANGE
  | FP_ADV_MODE_CHANGE
  | FMDN_ADV_MODE_CHANGE
  | FACTORY_RESET
  | DFU_MODE_ENTER
  | MOTION_INDICATE
  deriving DecidableEq

/-- The static variables of the gate, and the live links of the host. A timeout that has
expired waits in the work queue: `timeout_queued`. -/
structure Gate where
  fmdn_provisioned : Bool := false
  fmdn_recovery_mode : Bool := false
  fmdn_id_mode : Bool := false
  fmdn_conn_auth_bm : BitVec 32 := 0
  dfu : Dfu := {}
  timeout_queued : Bool := false
  link : Conn → Bool := fun _ => false

/-! ## The functions of the two files -/

def fmdnConnAuthBmConnStatusSet (g : Gate) (conn : Conn) (auth_flag : Bool) : Gate :=
  { g with fmdn_conn_auth_bm := writeBit g.fmdn_conn_auth_bm conn.val auth_flag }

def fmdnConnAuthBmConnStatusGet (g : Gate) (conn : Conn) : Bool :=
  decide (g.fmdn_conn_auth_bm &&& BIT conn.val ≠ 0)

def uuid_block_list : List Uuid := [.BT_UUID_DIS_FIRMWARE_REVISION, .BT_UUID_GAP_DEVICE_NAME]

def identifyingInfoAllow (g : Gate) (conn : Conn) (uuid : Uuid) : Bool :=
  if g.fmdn_provisioned = false then
    true
  else if fmdnConnAuthBmConnStatusGet g conn then
    true
  else if g.fmdn_id_mode then
    true
  else
    ! uuid_block_list.contains uuid

def appDfuBtGattOperationAllow (g : Gate) (uuid : Uuid) : Gate × Bool :=
  if uuid ≠ .SMP_BT_CHR_UUID then
    (g, true)
  else if g.dfu.dfu_mode = false then
    (g, false)
  else
    ({ g with dfu :=
        { g.dfu with dfu_mode_timeout_work :=
            kWorkReschedule g.dfu.dfu_mode_timeout_work (K_MINUTES DFU_MODE_TIMEOUT_MIN) } },
      true)

def gattAuthorize (g : Gate) (conn : Conn) (uuid : Uuid) : Gate × Bool :=
  let (g, authorized) := appDfuBtGattOperationAllow g uuid
  (g, authorized && identifyingInfoAllow g conn uuid)

def BT_SECURITY_L2 : Nat := 2

/-- `err` is 0 for `BT_SECURITY_ERR_SUCCESS`. -/
def securityChanged (g : Gate) (conn : Conn) (level err : Nat) : Gate :=
  if err ≠ 0 ∨ level < BT_SECURITY_L2 then g else fmdnConnAuthBmConnStatusSet g conn true

def disconnected (g : Gate) (conn : Conn) : Gate := fmdnConnAuthBmConnStatusSet g conn false

def fmdnConnAuthenticated (g : Gate) (conn : Conn) : Gate :=
  fmdnConnAuthBmConnStatusSet g conn true

def fmdnProvisioningStateSet (g : Gate) (provisioned : Bool) : Gate :=
  { g with fmdn_provisioned := provisioned }

/-- `rc` is the code of `bt_fast_pair_fmdn_read_mode_enter`. -/
def fmdnRecoveryModeActionHandle (g : Gate) (rc : Int) : Gate :=
  if g.fmdn_provisioned = false then g
  else if rc ≠ 0 then g
  else { g with fmdn_recovery_mode := true }

def fmdnIdModeActionHandle (g : Gate) (rc : Int) : Gate :=
  if g.fmdn_provisioned = false then g
  else if rc ≠ 0 then g
  else { g with fmdn_id_mode := true }

def fmdnModeRequestHandle (g : Gate) (request : UiRequest) (rc : Int) : Gate :=
  match request with
  | .RECOVERY_MODE_ENTER => fmdnRecoveryModeActionHandle g rc
  | .ID_MODE_ENTER => fmdnIdModeActionHandle g rc
  | _ => g

def dfuModeRequestHandle (g : Gate) (request : UiRequest) : Gate :=
  if request = .DFU_MODE_ENTER then { g with dfu := dfuModeActionHandle g.dfu } else g

/-- The modes of the FMDN module that end by themselves. -/
inductive ReadMode
  | FMDN_RECOVERY
  | DULT_ID
  deriving DecidableEq

def fmdnReadModeExited (g : Gate) : ReadMode → Gate
  | .FMDN_RECOVERY => { g with fmdn_recovery_mode := false }
  | .DULT_ID => { g with fmdn_id_mode := false }

def dfuModeTimeoutWorkHandle (g : Gate) : Gate :=
  { g with timeout_queued := false, dfu := dfuModeChange g.dfu false }

/-- The DFU mode ends before a factory reset. -/
def dfuFactoryResetPrepare (g : Gate) : Gate := { g with dfu := dfuModeChange g.dfu false }

/-! ## The runs of the gate -/

/-- `dfuEnterCustom` is the BLE command. The timer of the DFU mode first expires, and the
handler of the timeout runs later. -/
inductive Event
  | connected (conn : Conn) (err : Nat)
  | securityChanged (conn : Conn) (level err : Nat)
  | connAuthenticated (conn : Conn)
  | disconnected (conn : Conn)
  | provisioningStateSet (provisioned : Bool)
  | uiRequest (request : UiRequest) (rc : Int)
  | readModeExited (mode : ReadMode)
  | dfuEnterCustom
  | dfuTimerExpires
  | dfuTimeoutWork
  | factoryResetPrepare
  | gattAccess (conn : Conn) (uuid : Uuid)
  | reboot

def setLink (g : Gate) (conn : Conn) (up : Bool) : Gate :=
  { g with link := Function.update g.link conn up }

def next (g : Gate) : Event → Gate
  | .connected conn err => if err = 0 then setLink g conn true else g
  | .securityChanged conn level err => securityChanged g conn level err
  | .connAuthenticated conn => fmdnConnAuthenticated g conn
  | .disconnected conn => disconnected (setLink g conn false) conn
  | .provisioningStateSet provisioned => fmdnProvisioningStateSet g provisioned
  | .uiRequest request rc => dfuModeRequestHandle (fmdnModeRequestHandle g request rc) request
  | .readModeExited mode => fmdnReadModeExited g mode
  | .dfuEnterCustom => { g with dfu := dfuModeActionHandle g.dfu }
  | .dfuTimerExpires =>
    { g with timeout_queued := true, dfu := { g.dfu with dfu_mode_timeout_work := none } }
  | .dfuTimeoutWork => dfuModeTimeoutWorkHandle g
  | .factoryResetPrepare => dfuFactoryResetPrepare g
  | .gattAccess conn uuid => (gattAuthorize g conn uuid).1
  | .reboot => {}

/-- A link comes up on an index that is free, and only a live link is authenticated, makes an
access or goes down. -/
def Allowed (g : Gate) : Event → Prop
  | .connected conn _ => g.link conn = false
  | .securityChanged conn _ _ => g.link conn = true
  | .connAuthenticated conn => g.link conn = true
  | .disconnected conn => g.link conn = true
  | .dfuTimerExpires => g.dfu.dfu_mode_timeout_work ≠ none
  | .dfuTimeoutWork => g.timeout_queued = true
  | .gattAccess conn _ => g.link conn = true
  | _ => True

instance (g : Gate) (e : Event) : Decidable (Allowed g e) := by
  apply Event.casesOn (motive := fun e => Decidable (Allowed g e)) e
  all_goals
    intros
    unfold Allowed
    infer_instance

def system : runs.System Gate Event where
  start g := g = {}
  allowed := Allowed
  next := next

instance (g : Gate) (e : Event) : Decidable (system.allowed g e) :=
  inferInstanceAs (Decidable (Allowed g e))

/-! ## What the gate has to go by -/

/-- Which links were authenticated since they came up, and whether the identification mode is
on. -/
structure Rights where
  authenticated : Conn → Bool := fun _ => false
  id_mode : Bool := false

def setAuthenticated (r : Rights) (conn : Conn) (authenticated : Bool) : Rights :=
  { r with authenticated := Function.update r.authenticated conn authenticated }

def note (r : Rights) (g : Gate) : Event → Rights
  | .connected conn err => if err = 0 then setAuthenticated r conn false else r
  | .securityChanged conn level err =>
    if err = 0 ∧ BT_SECURITY_L2 ≤ level then setAuthenticated r conn true else r
  | .connAuthenticated conn => setAuthenticated r conn true
  | .uiRequest .ID_MODE_ENTER rc =>
    if g.fmdn_provisioned = true ∧ rc = 0 then { r with id_mode := true } else r
  | .readModeExited .DULT_ID => { r with id_mode := false }
  | .reboot => {}
  | _ => r

/-- The gate with its rights noted beside it. -/
def watched : runs.System (Gate × Rights) Event := system.watch {} note

/-- An access that is allowed had a right to it. -/
def AccessGated (p : Gate × Rights) : Event → Prop
  | .gattAccess conn uuid =>
    (gattAuthorize p.1 conn uuid).2 = true →
      (uuid ∈ uuid_block_list → p.1.fmdn_provisioned = true →
        p.2.id_mode = true ∨ p.2.authenticated conn = true) ∧
      (uuid = .SMP_BT_CHR_UUID → p.1.dfu.dfu_mode = true)
  | _ => True

/-- The DFU mode is going to end. -/
def TimeoutPending (g : Gate) : Prop :=
  g.dfu.dfu_mode = true → g.timeout_queued = true ∨ g.dfu.dfu_mode_timeout_work ≠ none

/-! ## The bits of the connections -/

theorem conn_lt (c : Conn) : c.val < 32 := Nat.lt_trans c.isLt (by decide)

theorem statusGet_eq (g : Gate) (c : Conn) :
    fmdnConnAuthBmConnStatusGet g c = g.fmdn_conn_auth_bm.getLsbD c.val :=
  and_BIT g.fmdn_conn_auth_bm (conn_lt c)

theorem statusGet_set (g : Gate) (c d : Conn) (flag : Bool) :
    fmdnConnAuthBmConnStatusGet (fmdnConnAuthBmConnStatusSet g c flag) d =
      if d = c then flag else fmdnConnAuthBmConnStatusGet g d := by
  simp only [statusGet_eq, fmdnConnAuthBmConnStatusSet, getLsbD_writeBit _ _ (conn_lt d),
    Fin.val_inj]

/-! ## What every event keeps -/

/-- A bit stands only for a live link that was authenticated itself. -/
structure Sound (p : Gate × Rights) : Prop where
  bits : ∀ c, fmdnConnAuthBmConnStatusGet p.1 c = true →
    p.1.link c = true ∧ p.2.authenticated c = true
  id_mode : p.1.fmdn_id_mode = p.2.id_mode
  timeout : TimeoutPending p.1

/-- What the bits go by is the same in both. -/
theorem Sound.of_same {g g' : Gate} {r r' : Rights} (h : Sound (g, r))
    (hbm : g'.fmdn_conn_auth_bm = g.fmdn_conn_auth_bm) (hlink : g'.link = g.link)
    (hauth : r'.authenticated = r.authenticated) (hid : g'.fmdn_id_mode = r'.id_mode)
    (ht : TimeoutPending g') : Sound (g', r') := by
  refine ⟨?_, hid, ht⟩
  intro c hc
  have hbits := h.bits c
  simp only [statusGet_eq, hbm, hlink, hauth] at hc hbits ⊢
  exact hbits hc

/-- A live link is authenticated. -/
theorem sound_authenticated {g : Gate} {r : Rights} {conn : Conn} (h : Sound (g, r))
    (hlink : g.link conn = true) :
    Sound (fmdnConnAuthBmConnStatusSet g conn true, setAuthenticated r conn true) := by
  refine ⟨?_, h.id_mode, h.timeout⟩
  intro c hc
  simp only [statusGet_set] at hc
  by_cases hcc : c = conn
  · subst hcc
    exact ⟨hlink, Function.update_self ..⟩
  · rw [if_neg hcc] at hc
    obtain ⟨hl, ha⟩ := h.bits c hc
    exact ⟨hl, (Function.update_of_ne hcc ..).trans ha⟩

/-- The index of a link that comes up has no bit, since the link before it took its bit
along. -/
theorem sound_connected {g : Gate} {r : Rights} {conn : Conn} (h : Sound (g, r))
    (hfree : g.link conn = false) : Sound (setLink g conn true, setAuthenticated r conn false) := by
  refine ⟨?_, h.id_mode, h.timeout⟩
  intro c hc
  obtain ⟨hl, ha⟩ := h.bits c hc
  have hcc : c ≠ conn := by
    rintro rfl
    rw [hl] at hfree
    contradiction
  exact ⟨(Function.update_of_ne hcc ..).trans hl, (Function.update_of_ne hcc ..).trans ha⟩

theorem sound_disconnected {g : Gate} {r : Rights} (conn : Conn) (h : Sound (g, r)) :
    Sound (disconnected (setLink g conn false) conn, r) := by
  refine ⟨?_, h.id_mode, h.timeout⟩
  intro c hc
  simp only [disconnected, statusGet_set] at hc
  by_cases hcc : c = conn
  · rw [if_pos hcc] at hc
    contradiction
  · rw [if_neg hcc] at hc
    obtain ⟨hl, ha⟩ := h.bits c hc
    exact ⟨(Function.update_of_ne hcc ..).trans hl, ha⟩

theorem sound_uiRequest {g : Gate} {r : Rights} (request : UiRequest) (rc : Int)
    (h : Sound (g, r)) :
    Sound (next g (.uiRequest request rc), note r g (.uiRequest request rc)) := by
  cases request with
  | DFU_MODE_ENTER => exact h.of_same rfl rfl rfl h.id_mode (fun _ => Or.inr (by simp [next,
      dfuModeRequestHandle, dfuModeActionHandle, dfuModeChange, kWorkReschedule]))
  | ID_MODE_ENTER =>
    simp only [next, note, fmdnModeRequestHandle, fmdnIdModeActionHandle, dfuModeRequestHandle,
      reduceCtorEq, if_false]
    by_cases hp : g.fmdn_provisioned = true
    · by_cases hrc : rc = 0
      · simp only [hp, hrc, Bool.true_eq_false, ne_eq, not_true_eq_false, if_false, and_self,
          if_true]
        exact h.of_same rfl rfl rfl rfl h.timeout
      · simpa [hp, hrc] using h
    · simp only [Bool.not_eq_true] at hp
      simpa [hp] using h
  | RECOVERY_MODE_ENTER =>
    simp only [next, note, fmdnModeRequestHandle, fmdnRecoveryModeActionHandle,
      dfuModeRequestHandle, reduceCtorEq, if_false]
    split_ifs
    · exact h
    · exact h
    · exact h.of_same rfl rfl rfl h.id_mode h.timeout
  | _ => exact h

theorem sound_gattAccess {g : Gate} {r : Rights} (conn : Conn) (uuid : Uuid) (h : Sound (g, r)) :
    Sound ((gattAuthorize g conn uuid).1, r) := by
  unfold gattAuthorize appDfuBtGattOperationAllow
  simp only
  split_ifs
  · exact h
  · exact h
  · refine h.of_same rfl rfl rfl h.id_mode ?_
    exact fun _ => Or.inr (by simp [kWorkReschedule])

theorem sound_next (p : Gate × Rights) (e : Event) (h : Sound p) (ha : Allowed p.1 e) :
    Sound (watched.next p e) := by
  obtain ⟨g, r⟩ := p
  change Sound (next g e, note r g e)
  cases e with
  | connected conn err =>
    simp only [next, note]
    split
    · exact sound_connected h ha
    · exact h
  | securityChanged conn level err =>
    simp only [next, note, securityChanged]
    by_cases hgood : err = 0 ∧ BT_SECURITY_L2 ≤ level
    · rw [if_pos hgood, if_neg (by omega)]
      exact sound_authenticated h ha
    · rw [if_neg hgood, if_pos (by omega)]
      exact h
  | connAuthenticated conn => exact sound_authenticated h ha
  | disconnected conn => exact sound_disconnected conn h
  | provisioningStateSet provisioned => exact h.of_same rfl rfl rfl h.id_mode h.timeout
  | uiRequest request rc => exact sound_uiRequest request rc h
  | readModeExited mode =>
    cases mode with
    | FMDN_RECOVERY => exact h.of_same rfl rfl rfl h.id_mode h.timeout
    | DULT_ID => exact h.of_same rfl rfl rfl rfl h.timeout
  | dfuEnterCustom =>
    refine h.of_same rfl rfl rfl h.id_mode ?_
    exact fun _ => Or.inr (by simp [next, dfuModeActionHandle, dfuModeChange, kWorkReschedule])
  | dfuTimerExpires => exact h.of_same rfl rfl rfl h.id_mode (fun _ => Or.inl rfl)
  | dfuTimeoutWork =>
    exact h.of_same rfl rfl rfl h.id_mode (fun hmode => absurd hmode Bool.false_ne_true)
  | factoryResetPrepare =>
    exact h.of_same rfl rfl rfl h.id_mode (fun hmode => absurd hmode Bool.false_ne_true)
  | gattAccess conn uuid => exact sound_gattAccess conn uuid h
  | reboot =>
    refine ⟨?_, rfl, fun hmode => absurd hmode Bool.false_ne_true⟩
    intro c hc
    rw [statusGet_eq] at hc
    simp [next] at hc

/-! ## The law -/

/-- A uuid of the block list is allowed in the provisioned state only for a reason. -/
theorem identifyingInfo_reason {g : Gate} {conn : Conn} {uuid : Uuid}
    (huuid : uuid ∈ uuid_block_list) (hprov : g.fmdn_provisioned = true)
    (h : identifyingInfoAllow g conn uuid = true) :
    g.fmdn_id_mode = true ∨ fmdnConnAuthBmConnStatusGet g conn = true := by
  unfold identifyingInfoAllow at h
  rw [if_neg (by simp [hprov])] at h
  split at h
  · rename_i hbit
    exact Or.inr hbit
  · split at h
    · rename_i hid
      exact Or.inl hid
    · simp [huuid] at h

theorem access_gated {p : Gate × Rights} (h : Sound p) (e : Event) : AccessGated p e := by
  cases e with
  | gattAccess conn uuid =>
    intro hauth
    constructor
    · intro huuid hprov
      have hsmp : uuid ≠ .SMP_BT_CHR_UUID := by
        rintro rfl
        simp [uuid_block_list] at huuid
      have hallow : identifyingInfoAllow p.1 conn uuid = true := by
        simpa [gattAuthorize, appDfuBtGattOperationAllow, hsmp] using hauth
      rcases identifyingInfo_reason huuid hprov hallow with hid | hbit
      · exact Or.inl (h.id_mode ▸ hid)
      · exact Or.inr (h.bits conn hbit).2
    · rintro rfl
      by_contra hmode
      simp only [Bool.not_eq_true] at hmode
      simp [gattAuthorize, appDfuBtGattOperationAllow, hmode] at hauth
  | _ => trivial

/-- In every run from a boot, an access to identifying data in the provisioned state is allowed
only in the identification mode or to a link that was authenticated itself, and one to the SMP
characteristic only in the DFU mode; and the DFU mode always has its timeout pending. -/
theorem identifying_data_and_smp_stay_gated (es : List Event) (h : system.Run {} es) :
    watched.Steps AccessGated ({}, {}) es ∧ system.States TimeoutPending {} es := by
  have h0 : Sound ({}, {}) := by
    refine ⟨?_, rfl, fun hmode => absurd hmode Bool.false_ne_true⟩
    intro c hc
    rw [statusGet_eq] at hc
    simp at hc
  have hA := (system.watch_steps ({} : Rights) note ({}, {}) es).mpr h.2
  refine ⟨?_, ?_⟩
  · exact (runs.System.steps_of_invariant
      (fun p e hp ha => ⟨access_gated hp e, sound_next p e hp ha⟩) h0 hA).1
  · exact system.watch_states ({} : Rights) note (I := Sound) sound_next (fun p hp => hp.timeout) h0
      hA

/-- A link is authenticated and goes down; the next one on its index may read the name only
once it is authenticated itself. -/
theorem a_link_on_a_used_index_starts_without_rights :
    let es : List Event := [.provisioningStateSet true, .connected 0 0, .connAuthenticated 0,
      .gattAccess 0 .BT_UUID_GAP_DEVICE_NAME, .disconnected 0, .connected 0 0,
      .gattAccess 0 .BT_UUID_GAP_DEVICE_NAME, .dfuEnterCustom, .gattAccess 0 .SMP_BT_CHR_UUID]
    watched.Steps AccessGated ({}, {}) es ∧ system.States TimeoutPending {} es :=
  identifying_data_and_smp_stay_gated _ ⟨rfl, by decide⟩

end smart_track.gate
