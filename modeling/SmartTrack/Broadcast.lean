-- What the Vision set broadcasts: the two data blocks that the file keeps, and the copy
-- of them that the controller holds. Three functions change the blocks, and each passes
-- them on only if they changed.
import SmartTrack.Mirror
import SmartTrack.Storage
import SmartTrack.VisionAdvt

open mirror smart_track.zephyr smart_track.vision_advt
open smart_track.production (ProductionData)

namespace smart_track.broadcast

/-! ## The functions that change the data -/

/-- The service data that came in. The second component is `data_changed`. -/
def takeSvcData (a : Advt) (svc_data : Option BleServiceData) : Advt × Bool :=
  match svc_data with
  | none => (a, false)
  | some svc =>
    if a.active_svc_data ≠ svc then ({ a with active_svc_data := svc }, true) else (a, false)

def takeMfgData (a : Advt) (mfg_data : Option BleMfgData) : Advt × Bool :=
  match mfg_data with
  | none => (a, false)
  | some mfg =>
    if a.active_mfg_data ≠ mfg then ({ a with active_mfg_data := mfg }, true) else (a, false)

def bleAdvCustomUpdate (a : Advt) (svc_data : Option BleServiceData)
    (mfg_data : Option BleMfgData) (setDataRc : Int) : Advt × Int :=
  if a.adv_set = none then
    (a, -EINVAL)
  else
    let (a, svc_changed) := takeSvcData a svc_data
    let (a, mfg_changed) := takeMfgData a mfg_data
    if svc_changed || mfg_changed then
      (btLeExtAdvSetData a setDataRc, setDataRc)
    else
      (a, 0)

/-- The blocks are changed; they go to the controller if the set is made. -/
def passOn (a : Advt) (setDataRc : Int) : Advt :=
  if a.adv_set ≠ none then btLeExtAdvSetData a setDataRc else a

def withBatPercentage (svc : BleServiceData) (percent : UInt8) : BleServiceData :=
  { svc with data := { svc.data with BatPercentage := percent } }

def updateAdvBatLevel (a : Advt) (percent : UInt8) (setDataRc : Int) : Advt :=
  if a.active_svc_data.data.BatPercentage ≠ percent then
    passOn { a with active_svc_data := withBatPercentage a.active_svc_data percent } setDataRc
  else
    a

/-- The voltage in steps of 100 mV above 1.8 V, in bits 2 to 5. The steps are an `int`, which
is below zero under 1.8 V. -/
def voltageBits (mV : UInt16) : UInt8 :=
  let steps : BitVec 32 := BitVec.ofInt 32 (mV.toNat / 100 - 18)
  UInt8.ofBitVec ((steps <<< 2 &&& 0x3C).setWidth 8)

def withBitfield3 (svc : BleServiceData) (bits : UInt8) : BleServiceData :=
  { svc with data := { svc.data with Bitfield3 := bits } }

def updateAdvBatmV (a : Advt) (mV : UInt16) (setDataRc : Int) : Advt :=
  let calculated_bitfield := voltageBits mV
  if a.active_svc_data.data.Bitfield3 ≠ calculated_bitfield then
    passOn { a with active_svc_data := withBitfield3 a.active_svc_data calculated_bitfield }
      setDataRc
  else
    a

/-! ## The runs -/

/-- A call, with the code that the controller gives if it comes to it. -/
inductive Event
  | update (svc_data : Option BleServiceData) (mfg_data : Option BleMfgData) (setDataRc : Int)
  | batLevel (percent : UInt8) (setDataRc : Int)
  | batmV (mV : UInt16) (setDataRc : Int)

def next (a : Advt) : Event → Advt
  | .update svc mfg rc => (bleAdvCustomUpdate a svc mfg rc).1
  | .batLevel percent rc => updateAdvBatLevel a percent rc
  | .batmV mV rc => updateAdvBatmV a mV rc

/-- The calls that come after `ble_adv_custom_init`, whatever that came to. -/
def system : runs.System Advt Event where
  start a := ∃ before prod io, a = (bleAdvCustomInit before prod io).1
  allowed _ _ := True
  next := next

def codeOf : Event → Int
  | .update _ _ rc => rc
  | .batLevel _ rc => rc
  | .batmV _ rc => rc

/-! ## The data and its copy -/

/-- The two blocks as the file has them. -/
def active (a : Advt) : BleServiceData × BleMfgData := (a.active_svc_data, a.active_mfg_data)

/-- The two blocks that the controller accepted last. -/
def accepted (a : Advt) : Option (BleServiceData × BleMfgData) :=
  (a.adv_set.bind AdvSet.data).map fun p => (p.svc, p.mfg)

def mirrorOf (a : Advt) : Mirror (BleServiceData × BleMfgData) :=
  { cached := active a, held := accepted a }

/-- What the blocks are after a call. -/
def wanted (a : Advt) : Event → BleServiceData × BleMfgData
  | .update svc mfg _ =>
    if a.adv_set = none then active a
    else (svc.getD a.active_svc_data, mfg.getD a.active_mfg_data)
  | .batLevel percent _ => (withBatPercentage a.active_svc_data percent, a.active_mfg_data)
  | .batmV mV _ => (withBitfield3 a.active_svc_data (voltageBits mV), a.active_mfg_data)

/-- The call hands data to the controller. -/
def HandsOver (a : Advt) (e : Event) : Prop := a.adv_set ≠ none ∧ wanted a e ≠ active a

instance (a : Advt) (e : Event) : Decidable (HandsOver a e) := inferInstanceAs (Decidable (_ ∧ _))

/-- The controller rejects the data during the call. -/
def Rejected (a : Advt) (e : Event) : Prop := HandsOver a e ∧ codeOf e ≠ 0

/-- The set is made, and the controller takes the data. -/
def accepts (a : Advt) (e : Event) : Bool := decide (a.adv_set ≠ none ∧ codeOf e = 0)

/-! ## What each function does to the copy -/

theorem takeSvcData_eq (a : Advt) (svc : Option BleServiceData) :
    takeSvcData a svc =
      ({ a with active_svc_data := svc.getD a.active_svc_data },
        decide (svc.getD a.active_svc_data ≠ a.active_svc_data)) := by
  unfold takeSvcData
  cases svc with
  | none => simp
  | some svc =>
    by_cases h : a.active_svc_data = svc
    · subst h
      simp
    · simp [h, Ne.symm h]

theorem takeMfgData_eq (a : Advt) (mfg : Option BleMfgData) :
    takeMfgData a mfg =
      ({ a with active_mfg_data := mfg.getD a.active_mfg_data },
        decide (mfg.getD a.active_mfg_data ≠ a.active_mfg_data)) := by
  unfold takeMfgData
  cases mfg with
  | none => simp
  | some mfg =>
    by_cases h : a.active_mfg_data = mfg
    · subst h
      simp
    · simp [h, Ne.symm h]

theorem mirror_setData (a : Advt) (rc : Int) :
    mirrorOf (btLeExtAdvSetData a rc) =
      { cached := active a
        held := if a.adv_set ≠ none ∧ rc = 0 then some (active a) else accepted a } := by
  unfold btLeExtAdvSetData
  by_cases hrc : rc = 0
  · cases hset : a.adv_set with
    | none => simp [hrc, mirrorOf, active, accepted, hset]
    | some set => simp [hrc, mirrorOf, active, accepted, payload]
  · simp [hrc, mirrorOf]

theorem mirror_passOn (a : Advt) (rc : Int) :
    mirrorOf (passOn a rc) =
      { cached := active a
        held := if a.adv_set ≠ none ∧ rc = 0 then some (active a) else accepted a } := by
  unfold passOn
  split
  · exact mirror_setData a rc
  · rename_i hset
    simp [hset, mirrorOf]

/-- A changed block goes to the controller, if there is a set. -/
theorem mirror_change {a : Advt} {svc : BleServiceData} (rc : Int)
    (h : svc ≠ a.active_svc_data) :
    mirrorOf (passOn { a with active_svc_data := svc } rc) =
      (mirrorOf a).put (svc, a.active_mfg_data) (decide (a.adv_set ≠ none ∧ rc = 0)) := by
  have hne : (svc, a.active_mfg_data) ≠ (mirrorOf a).cached := by
    intro heq
    exact h (congrArg Prod.fst heq)
  rw [Mirror.put_new _ hne, mirror_passOn]
  simp [active, accepted, mirrorOf]

/-- Each call sets the blocks to what is wanted, through the change detector. -/
theorem mirror_next (a : Advt) (e : Event) :
    mirrorOf (next a e) = (mirrorOf a).put (wanted a e) (accepts a e) := by
  cases e with
  | update svc mfg rc =>
    simp only [next, wanted, accepts, codeOf, bleAdvCustomUpdate]
    by_cases hset : a.adv_set = none
    · rw [if_pos hset, if_pos hset, Mirror.put_same]
      rfl
    · rw [if_neg hset, if_neg hset]
      simp only [takeSvcData_eq, takeMfgData_eq]
      by_cases hsame : (svc.getD a.active_svc_data, mfg.getD a.active_mfg_data) = active a
      · rw [Mirror.put_same _ hsame]
        obtain ⟨hsvc, hmfg⟩ := Prod.mk.inj hsame
        simp [hsvc, hmfg]
      · rw [Mirror.put_new _ hsame]
        have hchanged : (decide (svc.getD a.active_svc_data ≠ a.active_svc_data) ||
            decide (mfg.getD a.active_mfg_data ≠ a.active_mfg_data)) = true := by
          by_contra hnone
          simp only [Bool.or_eq_true, decide_eq_true_eq, not_or, not_not] at hnone
          exact hsame (Prod.ext hnone.1 hnone.2)
        rw [if_pos hchanged, mirror_setData]
        simp [active, accepted, mirrorOf, hset]
  | batLevel percent rc =>
    simp only [next, wanted, accepts, codeOf, updateAdvBatLevel]
    split
    · rename_i hne
      refine mirror_change rc ?_
      intro heq
      exact hne (congrArg (fun s => s.data.BatPercentage) heq).symm
    · rename_i heq
      simp only [not_not] at heq
      rw [Mirror.put_same]
      subst heq
      rfl
  | batmV mV rc =>
    simp only [next, wanted, accepts, codeOf, updateAdvBatmV]
    split
    · rename_i hne
      refine mirror_change rc ?_
      intro heq
      exact hne (congrArg (fun s => s.data.Bitfield3) heq).symm
    · rename_i heq
      simp only [not_not] at heq
      rw [Mirror.put_same]
      rw [← heq]
      rfl

/-! ## The law on the data -/

/-- The controller broadcasts what the file has. -/
def Broadcasts (a : Advt) : Prop := accepted a = some (active a)

instance (a : Advt) : Decidable (Broadcasts a) := inferInstanceAs (Decidable (_ = _))

instance (a : Advt) (e : Event) : Decidable (Rejected a e) := inferInstanceAs (Decidable (_ ∧ _))

/-- A call in which nothing was rejected leaves the broadcast up to date. -/
def Fresh (a : Advt) (e : Event) : Prop := ¬ Rejected a e → Broadcasts (next a e)

instance (a : Advt) (e : Event) : Decidable (Fresh a e) := inferInstanceAs (Decidable (_ → _))

/-! ## The watcher -/

/-- The watcher notes how the controller answered the calls that handed data to it. -/
def note (s : Mirror.Standing (BleServiceData × BleMfgData)) (a : Advt) (e : Event) :
    Mirror.Standing (BleServiceData × BleMfgData) :=
  s.answer (active a) (wanted a e) (accepts a e)

def watched : runs.System (Advt × Mirror.Standing (BleServiceData × BleMfgData)) Event :=
  system.watch .taken note

/-- The file after its init, and the answer of the controller to that. An init that failed leaves
it with what it took before, which is nothing in a boot. -/
def atInit (before : Advt) (prod : ProductionData) (io : InitIo) :
    Advt × Mirror.Standing (BleServiceData × BleMfgData) :=
  let (a, rc) := bleAdvCustomInit before prod io
  (a, if rc = 0 then .taken else .refused (accepted a))

/-- A call that hands nothing over finds no refusal that still counts: the controller took the
data of the last call that handed any over, or the blocks are back at what they were before it
began to refuse. -/
def SkipsSettled (p : Advt × Mirror.Standing (BleServiceData × BleMfgData)) (e : Event) : Prop :=
  ¬ HandsOver p.1 e → p.2.Settled (active p.1)

instance (p : Advt × Mirror.Standing (BleServiceData × BleMfgData)) (e : Event) :
    Decidable (SkipsSettled p e) := inferInstanceAs (Decidable (_ → _))

theorem broadcasts_next (a : Advt) (e : Event) :
    Broadcasts (next a e) ↔
      wanted a e ≠ active a ∧ accepts a e = true ∨ accepted a = some (wanted a e) := by
  have hput : ((mirrorOf a).put (wanted a e) (accepts a e)).InSync ↔ _ :=
    Mirror.inSync_put (mirrorOf a)
  rw [← mirror_next] at hput
  exact hput

theorem accepted_unmade {a : Advt} (h : a.adv_set = none) : accepted a = none := by
  simp [accepted, h]

/-- A call without a rejection leaves the broadcast up to date, unless it hands nothing over and
finds it out of date. -/
theorem fresh_iff (a : Advt) (e : Event) : Fresh a e ↔ (¬ HandsOver a e → Broadcasts a) := by
  unfold Fresh
  rw [broadcasts_next]
  by_cases hsame : wanted a e = active a
  · -- The call changes nothing.
    have hnot : ¬ HandsOver a e := fun h => h.2 hsame
    have hrej : ¬ Rejected a e := fun h => hnot h.1
    simp [hnot, hrej, hsame, Broadcasts]
  · by_cases hset : a.adv_set = none
    · -- There is no set to hand anything to.
      have hnot : ¬ HandsOver a e := fun h => h.1 hset
      have hrej : ¬ Rejected a e := fun h => hnot h.1
      simp [hnot, hrej, accepts, hset, accepted_unmade hset, Broadcasts]
    · have hover : HandsOver a e := ⟨hset, hsame⟩
      refine iff_of_true (fun hrej => Or.inl ⟨hsame, ?_⟩) (fun h => absurd hover h)
      have hrc : codeOf e = 0 := by
        by_contra hne
        exact hrej ⟨hover, hne⟩
      simp [accepts, hset, hrc]

/-- The controller holds what its answers say. -/
def Told (p : Advt × Mirror.Standing (BleServiceData × BleMfgData)) : Prop :=
  p.2.Tells (mirrorOf p.1)

theorem told_next (p : Advt × Mirror.Standing (BleServiceData × BleMfgData)) (e : Event)
    (h : Told p) : Told (watched.next p e) := by
  have hput := Mirror.tells_put (wanted p.1 e) (accepts p.1 e) h
  rw [← mirror_next] at hput
  exact hput

/-- An init that gives 0 has handed over the blocks that it filled. -/
theorem told_init (before : Advt) (prod : ProductionData) (io : InitIo) :
    Told (atInit before prod io) := by
  have hmade : (bleAdvCustomInit before prod io).2 = 0 →
      Broadcasts (bleAdvCustomInit before prod io).1 := by
    unfold bleAdvCustomInit
    simp only
    intro hrc
    split_ifs at hrc ⊢ with henable hid hcreate
    · exact absurd hrc henable.1
    · exact absurd hrc hid
    · exact absurd hrc hcreate
    · simp only at hrc
      simp [Broadcasts, accepted, active, btLeExtAdvSetData, hrc, payload]
  unfold Told atInit
  simp only
  split
  · rename_i hrc
    exact hmade hrc
  · exact rfl

/-- In a run of calls after the init the broadcast is up to date after each call without a
rejection just when no call that hands nothing over comes under a refusal that still counts. -/
theorem the_broadcast_is_fresh_while_no_refusal_counts (before : Advt) (prod : ProductionData)
    (io : InitIo) (es : List Event) :
    system.Steps Fresh (bleAdvCustomInit before prod io).1 es ↔
      watched.Steps SkipsSettled (atInit before prod io) es := by
  have hfirst : (atInit before prod io).1 = (bleAdvCustomInit before prod io).1 := rfl
  rw [← hfirst, ← system.watch_steps .taken note]
  refine runs.System.steps_congr (A := fun _ _ => True) (fun p e hp _ => told_next p e hp) ?_
    (told_init before prod io) (runs.System.steps_trivial _ _)
  intro p e hp _
  rw [fresh_iff]
  exact imp_congr_right fun _ => Mirror.inSync_iff_settled hp

theorem third_identity : (2 : Int) < CONFIG_BT_ID_MAX := by decide

/-- The file after its init on the third identity. -/
def initSet : Advt :=
  (bleAdvCustomInit {} storage.loadFactoryProductionDefaults
    { enableRc := 0, activeIdentities := 2, idCreateRc := ⟨2, third_identity⟩, advCreateRc := 0,
      setDataRc := 0 }).1

theorem initSet_starts : system.start initSet := ⟨_, _, _, rfl⟩

/-- A refused level does not count once another is taken, or once the old one is back, though
the controller refuses that as well. -/
example : watched.Steps SkipsSettled
    (atInit {} storage.loadFactoryProductionDefaults
      { enableRc := 0, activeIdentities := 2, idCreateRc := ⟨2, third_identity⟩,
        advCreateRc := 0, setDataRc := 0 })
    [.batLevel 75 0, .batLevel 70 (-5), .batLevel 65 0, .batmV 2900 0, .batLevel 60 (-5),
      .batLevel 65 (-5), .batLevel 65 0] := by decide

/-- The controller rejects a new level once; the same level again is not passed on, and the old
one stays on air. -/
theorem a_rejected_level_stays_off_the_air :
    ¬ ∀ (a : Advt) (es : List Event), system.Run a es → system.Steps Fresh a es := by
  intro h
  have hrun := h initSet [.batLevel 75 (-5), .batLevel 75 0] ⟨initSet_starts, by simp [system]⟩
  revert hrun
  decide

/-! ## The voltage field -/

/-- The conversion of an `int32_t` to a `uint16_t`. -/
def toUInt16 (x : Int) : UInt16 := UInt16.ofNat (x % 2 ^ 16).toNat

/-- The field that a receiver reads out of the service data. -/
def voltageField (a : Advt) : Nat := ((a.active_svc_data.data.Bitfield3 >>> 2) &&& 0x0F).toNat

theorem toUInt16_toNat (x : Int) : ((toUInt16 x).toNat : Int) = x % 2 ^ 16 := by
  unfold toUInt16
  rw [UInt16.toNat_ofNat']
  omega

/-- The mask keeps the four bits that the field has. -/
theorem field_of_mask (x : BitVec 32) :
    ((UInt8.ofBitVec ((x <<< 2 &&& 0x3C).setWidth 8) >>> 2) &&& 0x0F).toNat = x.toNat % 16 := by
  have hmask : x <<< 2 &&& (0x3C : BitVec 32) = (x &&& 0xF) <<< 2 := by
    rw [BitVec.shiftLeft_and_distrib]
    rfl
  have hlow : (x &&& 0xF).toNat = x.toNat % 16 := by
    rw [BitVec.toNat_and]
    exact Nat.and_two_pow_sub_one_eq_mod x.toNat 4
  rw [hmask, ← hlow]
  generalize x &&& 0xF = y at hlow
  have hbyte : (UInt8.ofBitVec ((y <<< 2).setWidth 8)).toNat = 4 * y.toNat := by
    change ((y <<< 2).setWidth 8).toNat = _
    rw [BitVec.toNat_setWidth, BitVec.toNat_shiftLeft, Nat.shiftLeft_eq]
    omega
  rw [UInt8.toNat_and, UInt8.toNat_shiftRight, hbyte]
  change (4 * y.toNat) >>> 2 &&& 15 = _
  rw [Nat.shiftRight_eq_div_pow]
  have hmod := Nat.and_two_pow_sub_one_eq_mod (4 * y.toNat / 2 ^ 2) 4
  simp only [Nat.reducePow, Nat.reduceSub] at hmod ⊢
  rw [hmod]
  omega

/-- The steps go into four bits, and wrap there. -/
theorem voltageBits_field (mV : UInt16) :
    ((voltageBits mV >>> 2) &&& 0x0F).toNat = (mV.toNat / 100 + 14) % 16 := by
  have hlt := mV.toNat_lt
  have hsteps : (BitVec.ofInt 32 (mV.toNat / 100 - 18)).toNat =
      ((mV.toNat / 100 - 18 : Int) % (2 ^ 32 : Nat)).toNat := BitVec.toNat_ofInt _
  unfold voltageBits
  simp only
  rw [field_of_mask, hsteps]
  omega

/-- After a call the field is that of the voltage, whatever the controller said. -/
theorem updateAdvBatmV_field (a : Advt) (mV : UInt16) (setDataRc : Int) :
    voltageField (updateAdvBatmV a mV setDataRc) = (mV.toNat / 100 + 14) % 16 := by
  have hput := congrArg Mirror.cached (mirror_next a (.batmV mV setDataRc))
  rw [Mirror.put_cached] at hput
  have hbits : (updateAdvBatmV a mV setDataRc).active_svc_data.data.Bitfield3 = voltageBits mV :=
    congrArg (fun p => p.1.data.Bitfield3) hput
  unfold voltageField
  rw [hbits]
  exact voltageBits_field mV

/-- The voltage in whole steps of 100 mV above 1.8 V, clamped to the range of the field. -/
def clampedSteps (val_mv : Int) : Int := max 0 (min 15 (val_mv / 100 - 18))

/-- The field is that of the reading. -/
def Faithful (a : Advt) (val_mv setDataRc : Int) : Prop :=
  (voltageField (updateAdvBatmV a (toUInt16 val_mv) setDataRc) : Int) = clampedSteps val_mv

/-- The reading is in the range of the field, or wraps onto the bound that it ought to have. -/
def InRange (val_mv : Int) : Prop :=
  1800 ≤ val_mv ∧ val_mv ≤ 3399 ∨
    val_mv < 1800 ∧ val_mv % 2 ^ 16 / 100 % 16 = 2 ∨
    3400 ≤ val_mv ∧ val_mv % 2 ^ 16 / 100 % 16 = 1

instance (a : Advt) (val_mv setDataRc : Int) : Decidable (Faithful a val_mv setDataRc) :=
  inferInstanceAs (Decidable (_ = _))

/-- The advertised voltage is that of the reading just when the reading is in range. -/
theorem the_voltage_is_faithful_in_range (a : Advt) (val_mv setDataRc : Int) :
    Faithful a val_mv setDataRc ↔ InRange val_mv := by
  have hcast := toUInt16_toNat val_mv
  unfold Faithful InRange clampedSteps
  rw [updateAdvBatmV_field]
  omega

/-- A fresh cell of 3.4 V is advertised as an empty one of 1.8 V. -/
theorem a_fresh_cell_is_advertised_as_empty :
    ¬ ∀ (a : Advt) (val_mv setDataRc : Int), -2 ^ 31 ≤ val_mv → val_mv < 2 ^ 31 →
      Faithful a val_mv setDataRc := by
  intro h
  have hfield := h initSet 3400 0 (by decide) (by decide)
  revert hfield
  decide

end smart_track.broadcast
