-- The Bluetooth identities over boots and factory resets. The host keeps them in flash, `main.c`
-- and `vision_advt.c` each take one at boot, and a factory reset renews that of Fast Pair.
import SmartTrack.Storage
import SmartTrack.VisionAdvt

open smart_track.zephyr smart_track.production smart_track.vision_advt
open smart_track.storage (loadFactoryProductionDefaults)

namespace smart_track.identities

variable {α : Type*}

/-! ## The host -/

def ENOMEM : Int := 12

/-- What the host keeps in flash: the address of each identity, and how many bonds it has. -/
structure Host (α : Type*) where
  ids : List α := []
  bonds : Nat → Nat := fun _ => 0

/-- The code of one call, and the address that the controller comes up with. -/
structure IdIo (α : Type*) where
  rc : Int
  addr : α

/-- `bt_id_create`, as the host documents it: a new identity gets the next identifier, which is
returned; a full table or another failure gives a negative code and changes nothing. -/
def btIdCreate (h : Host α) (io : IdIo α) : Host α × Int :=
  if CONFIG_BT_ID_MAX ≤ h.ids.length then
    (h, -ENOMEM)
  else if io.rc < 0 then
    (h, io.rc)
  else
    ({ h with ids := h.ids ++ [io.addr] }, h.ids.length)

/-- `bt_id_reset`, as the host documents it: it does not take the default identity; another one
keeps its identifier, which is returned, gets a new address and loses its bonds. -/
def btIdReset (h : Host α) (id : Nat) (io : IdIo α) : Host α × Int :=
  if id = 0 ∨ h.ids.length ≤ id then
    (h, -EINVAL)
  else if io.rc < 0 then
    (h, io.rc)
  else
    ({ ids := h.ids.set id io.addr, bonds := Function.update h.bonds id 0 }, id)

/-- `settings_load`, as the host documents it: the identities are those of flash, and the default
one is made if there is none. -/
def settingsLoad (h : Host α) (addr : α) : Host α :=
  if h.ids = [] then { h with ids := [addr] } else h

/-! ## The functions of the source -/

/-- The loop of `app_id_create`. `io` has the answer for each number of identities. -/
def idCreateLoop (io : Nat → IdIo α) : Nat → Host α → Option (Host α × Int)
  | 0, _ => none
  | fuel + 1, h =>
    let (h, ret) := btIdCreate h (io h.ids.length)
    if ret < 0 then some (h, ret)
    else if ret ≠ APP_BT_ID then idCreateLoop io fuel h
    else some (h, 0)

def appIdCreate (h : Host α) (io : Nat → IdIo α) : Option (Host α × Int) :=
  if APP_BT_ID < h.ids.length then some (h, 0)
  else idCreateLoop io (CONFIG_BT_ID_MAX + 1) h

/-- The hook of the factory reset. -/
def btFastPairFactoryResetUserActionPerform (h : Host α) (io : IdIo α) : Host α × Int :=
  if APP_BT_ID < h.ids.length then
    let (h, id) := btIdReset h APP_BT_ID io
    if id ≠ APP_BT_ID then (h, id) else (h, 0)
  else
    (h, 0)

/-- The codes that a boot meets. `between` is the first code that is not 0 on the way from the
identity of `main.c` to that of `vision_advt.c`. -/
structure BootIo (α : Type*) where
  loadRc : Int
  default : α
  app : Nat → IdIo α
  between : Int
  production : ProductionData
  enableRc : Int
  vision : IdIo α
  advCreateRc : Int
  setDataRc : Int

theorem create_lt (h : Host α) (io : IdIo α) : (btIdCreate h io).2 < CONFIG_BT_ID_MAX := by
  have hpos : (0 : Int) < CONFIG_BT_ID_MAX := by decide
  unfold btIdCreate
  split_ifs with hfull hrc
  · have hnomem : -ENOMEM < CONFIG_BT_ID_MAX := by decide
    exact hnomem
  · exact Int.lt_trans hrc hpos
  · exact Int.ofNat_lt.mpr (Nat.lt_of_not_le hfull)

/-- What the host answers to `ble_adv_custom_init`. -/
def initIo (h : Host α) (io : BootIo α) : InitIo :=
  { enableRc := io.enableRc
    activeIdentities := h.ids.length
    idCreateRc := ⟨(btIdCreate h io.vision).2, create_lt h io.vision⟩
    advCreateRc := io.advCreateRc
    setDataRc := io.setDataRc }

/-- `ble_adv_custom_init` comes to its call of `bt_id_create`. -/
def ClaimsIdentity (h : Host α) (io : BootIo α) : Prop :=
  (io.enableRc = 0 ∨ io.enableRc = -EALREADY) ∧ h.ids.length < CONFIG_BT_ID_MAX

instance (h : Host α) (io : BootIo α) : Decidable (ClaimsIdentity h io) :=
  inferInstanceAs (Decidable (_ ∧ _))

/-- The host after the Vision identity was claimed. -/
def visionHost (h : Host α) (io : BootIo α) : Host α :=
  if ClaimsIdentity h io then (btIdCreate h io.vision).1 else h

/-! ## The runs -/

/-- The host, whether it is up, and the static variables of `vision_advt.c`. -/
structure Device (α : Type*) where
  host : Host α
  ready : Bool := false
  advt : Advt := {}

/-- A boot, as far as it comes. A step that fails ends it. -/
def boot (h : Host α) (io : BootIo α) : Device α :=
  if io.loadRc ≠ 0 then
    { host := h }
  else
    match appIdCreate (settingsLoad h io.default) io.app with
    | none => { host := settingsLoad h io.default }
    | some (h, err) =>
      if err ≠ 0 ∨ io.between ≠ 0 then
        { host := h, ready := true }
      else
        { host := visionHost h io
          ready := true
          advt := (bleAdvCustomInit {} io.production (initIo h io)).1 }

inductive Event (α : Type*)
  | boot (io : BootIo α)
  | factoryReset (io : IdIo α)
  | paired (id : Nat)

def next (d : Device α) : Event α → Device α
  | .boot io => boot d.host io
  | .factoryReset io => { d with host := (btFastPairFactoryResetUserActionPerform d.host io).1 }
  | .paired id =>
    { d with host :=
        { d.host with bonds := Function.update d.host.bonds id (d.host.bonds id + 1) } }

/-- The power may go at any time, and nothing but a boot happens before the host is up. -/
def Allowed (d : Device α) : Event α → Prop
  | .boot _ => True
  | _ => d.ready = true

/-- The runs start with the first boot of a chip. -/
def system : runs.System (Device α) (Event α) where
  start d := ∃ io, d = boot {} io
  allowed := Allowed
  next := next

/-! ## An identity stays where it is -/

/-- The event may change the address of the identity. -/
def Renews (id : Nat) : Event α → Prop
  | .factoryReset _ => id = APP_BT_ID
  | _ => False

/-- What `h` has as an identity, `h'` has as well, with its bonds. -/
structure Keeps (h h' : Host α) : Prop where
  ids : h.ids <+: h'.ids
  bonds : h'.bonds = h.bonds

theorem Keeps.refl (h : Host α) : Keeps h h := ⟨List.prefix_refl _, rfl⟩

theorem Keeps.trans {h h' h'' : Host α} (k : Keeps h h') (k' : Keeps h' h'') : Keeps h h'' :=
  ⟨k.ids.trans k'.ids, k'.bonds.trans k.bonds⟩

theorem create_keeps (h : Host α) (io : IdIo α) : Keeps h (btIdCreate h io).1 := by
  unfold btIdCreate
  split_ifs
  · exact .refl h
  · exact .refl h
  · exact ⟨List.prefix_append _ _, rfl⟩

theorem load_keeps (h : Host α) (addr : α) : Keeps h (settingsLoad h addr) := by
  unfold settingsLoad
  split
  · rename_i hnone
    refine ⟨?_, rfl⟩
    rw [hnone]
    exact List.nil_prefix
  · exact .refl h

/-- A call that succeeds gives the number of identities before it. -/
theorem create_cases (h : Host α) (io : IdIo α) :
    (btIdCreate h io).2 < 0 ∧ (btIdCreate h io).1 = h ∨
      h.ids.length < CONFIG_BT_ID_MAX ∧ (btIdCreate h io).2 = h.ids.length ∧
        (btIdCreate h io).1.ids.length = h.ids.length + 1 := by
  unfold btIdCreate
  split_ifs with hfull hrc
  · have hnomem : -ENOMEM < 0 := by decide
    exact Or.inl ⟨hnomem, rfl⟩
  · exact Or.inl ⟨hrc, rfl⟩
  · exact Or.inr ⟨Nat.lt_of_not_le hfull, rfl, List.length_append⟩

/-- What a function that claims an identity leaves. -/
structure Claimed (h h' : Host α) (err : Int) : Prop where
  keeps : Keeps h h'
  bounded : h'.ids.length ≤ CONFIG_BT_ID_MAX
  claimed : err = 0 → APP_BT_ID < h'.ids.length

theorem idCreateLoop_claims (io : Nat → IdIo α) (fuel : Nat) {h h' : Host α} {err : Int}
    (hbound : h.ids.length ≤ CONFIG_BT_ID_MAX) (hrun : idCreateLoop io fuel h = some (h', err)) :
    Claimed h h' err := by
  induction fuel generalizing h with
  | zero => cases hrun
  | succ fuel ih =>
    have hkeeps := create_keeps h (io h.ids.length)
    unfold idCreateLoop at hrun
    simp only at hrun
    rcases create_cases h (io h.ids.length) with ⟨hneg, hsame⟩ | ⟨hfree, hret, hlen⟩
    · rw [if_pos hneg, hsame] at hrun
      cases hrun
      refine ⟨.refl h', hbound, ?_⟩
      intro hzero
      rw [hzero] at hneg
      exact absurd hneg (by decide)
    · have hbound' : (btIdCreate h (io h.ids.length)).1.ids.length ≤ CONFIG_BT_ID_MAX := by
        rw [hlen]
        exact hfree
      rw [if_neg (by omega)] at hrun
      split at hrun
      · have hrest := ih hbound' hrun
        exact ⟨hkeeps.trans hrest.keeps, hrest.bounded, hrest.claimed⟩
      · rename_i happ
        cases hrun
        refine ⟨hkeeps, hbound', ?_⟩
        intro _
        rw [hlen]
        unfold APP_BT_ID at happ ⊢
        omega

/-- Every turn of the loop uses up an identity, so that it ends. -/
theorem idCreateLoop_ends (io : Nat → IdIo α) (fuel : Nat) {h : Host α}
    (hfuel : CONFIG_BT_ID_MAX < h.ids.length + fuel) (hbound : h.ids.length ≤ CONFIG_BT_ID_MAX) :
    ∃ r, idCreateLoop io fuel h = some r := by
  induction fuel generalizing h with
  | zero => omega
  | succ fuel ih =>
    unfold idCreateLoop
    simp only
    rcases create_cases h (io h.ids.length) with ⟨hneg, _⟩ | ⟨hfree, _, hlen⟩
    · exact ⟨_, if_pos hneg⟩
    · split
      · exact ⟨_, rfl⟩
      · split
        · exact ih (by omega) (by omega)
        · exact ⟨_, rfl⟩

theorem appIdCreate_claims {h : Host α} (io : Nat → IdIo α)
    (hbound : h.ids.length ≤ CONFIG_BT_ID_MAX) :
    ∃ h' err, appIdCreate h io = some (h', err) ∧ Claimed h h' err := by
  unfold appIdCreate
  split
  · rename_i happ
    exact ⟨h, 0, rfl, .refl h, hbound, fun _ => happ⟩
  · obtain ⟨⟨h', err⟩, hrun⟩ := idCreateLoop_ends io (CONFIG_BT_ID_MAX + 1) (h := h) (by omega)
      hbound
    exact ⟨h', err, hrun, idCreateLoop_claims io _ hbound hrun⟩

theorem load_bounded {h : Host α} (addr : α) (hbound : h.ids.length ≤ CONFIG_BT_ID_MAX) :
    (settingsLoad h addr).ids.length ≤ CONFIG_BT_ID_MAX := by
  unfold settingsLoad
  split
  · exact Nat.le_of_ble_eq_true rfl
  · exact hbound

/-! ## The Vision identity -/

/-- The Vision set is not there yet, or it stands on the third identity. -/
def OnThird (d : Device α) : Prop :=
  d.advt.Vision_id = -1 ∧ d.advt.adv_set = none ∨
    d.advt.Vision_id = 2 ∧ d.host.ids.length = CONFIG_BT_ID_MAX ∧
      ∀ set ∈ d.advt.adv_set, set.param.id = 2

/-- The identity that `app_vision_custom_id_create` comes to. -/
def claimedId (io : InitIo) : Int :=
  if CONFIG_BT_ID_MAX ≤ io.activeIdentities then 2 else io.idCreateRc.val

/-- The set is made on the identity that was claimed for it, if one was. -/
theorem init_on_claimed (prod : ProductionData) (io : InitIo) :
    (bleAdvCustomInit {} prod io).1.Vision_id = -1 ∧
        (bleAdvCustomInit {} prod io).1.adv_set = none ∨
      (io.enableRc = 0 ∨ io.enableRc = -EALREADY) ∧ 0 ≤ claimedId io ∧
        (bleAdvCustomInit {} prod io).1.Vision_id = claimedId io ∧
        ∀ set ∈ (bleAdvCustomInit {} prod io).1.adv_set, set.param.id = claimedId io := by
  unfold bleAdvCustomInit appVisionCustomIdCreate claimedId vision_advt.btLeExtAdvSetData
  by_cases henable : io.enableRc ≠ 0 ∧ io.enableRc ≠ -EALREADY
  · left
    simp only [if_pos henable, and_self]
  have hcomes : io.enableRc = 0 ∨ io.enableRc = -EALREADY := by tauto
  simp only [if_neg henable]
  by_cases hfull : CONFIG_BT_ID_MAX ≤ io.activeIdentities
  · right
    simp only [if_pos hfull]
    refine ⟨hcomes, by decide, ?_⟩
    split_ifs <;> simp
  by_cases hneg : io.idCreateRc.val < 0
  · left
    simp only [if_neg hfull, if_pos hneg, if_pos (show io.idCreateRc.val ≠ 0 by omega), and_self]
  · right
    simp only [if_neg hfull, if_neg hneg]
    refine ⟨hcomes, by omega, ?_⟩
    split_ifs <;> simp

/-- What every state of a run has. -/
structure Inv (d : Device α) : Prop where
  bounded : d.host.ids.length ≤ CONFIG_BT_ID_MAX
  third : OnThird d

/-- With the identity of `main.c` there, the next one is the third. -/
theorem vision_claims {h : Host α} (io : BootIo α) (hbound : h.ids.length ≤ CONFIG_BT_ID_MAX)
    (happ : APP_BT_ID < h.ids.length) :
    OnThird
        { host := visionHost h io
          ready := true
          advt := (bleAdvCustomInit {} io.production (initIo h io)).1 } ∧
      (visionHost h io).ids.length ≤ CONFIG_BT_ID_MAX ∧ Keeps h (visionHost h io) := by
  have hcreate := create_cases h io.vision
  have hbounded : (visionHost h io).ids.length ≤ CONFIG_BT_ID_MAX := by
    unfold visionHost
    split
    · rcases hcreate with ⟨_, hsame⟩ | ⟨hfree, _, hlen⟩
      · rw [hsame]
        exact hbound
      · rw [hlen]
        exact hfree
    · exact hbound
  have hkeeps : Keeps h (visionHost h io) := by
    unfold visionHost
    split
    · exact create_keeps h io.vision
    · exact .refl h
  refine ⟨?_, hbounded, hkeeps⟩
  rcases init_on_claimed io.production (initIo h io) with hnone | ⟨henable, hpos, hid, hset⟩
  · exact Or.inl hnone
  have hplace : claimedId (initIo h io) = 2 ∧
      (visionHost h io).ids.length = CONFIG_BT_ID_MAX := by
    unfold claimedId at hpos ⊢
    unfold visionHost
    by_cases hfull : CONFIG_BT_ID_MAX ≤ (initIo h io).activeIdentities
    · have hunclaimed : ¬ ClaimsIdentity h io := fun hc => Nat.not_le.mpr hc.2 hfull
      rw [if_pos hfull, if_neg hunclaimed]
      exact ⟨rfl, Nat.le_antisymm hbound hfull⟩
    · have hclaims : ClaimsIdentity h io := ⟨henable, Nat.lt_of_not_le hfull⟩
      have hlen : h.ids.length = 2 := Nat.le_antisymm (Nat.le_of_lt_succ hclaims.2) happ
      rw [if_neg hfull] at hpos ⊢
      rw [if_pos hclaims]
      rcases hcreate with ⟨hneg, _⟩ | ⟨_, hret, hnext⟩
      · exact absurd hpos (Int.not_le.mpr hneg)
      · exact ⟨hret.trans (by rw [hlen]; rfl), hnext.trans (by rw [hlen])⟩
  right
  rw [hplace.1] at hid hset
  exact ⟨hid, hplace.2, hset⟩

theorem boot_inv {h : Host α} (io : BootIo α) (hbound : h.ids.length ≤ CONFIG_BT_ID_MAX) :
    Inv (boot h io) ∧ Keeps h (boot h io).host := by
  have hnone : ∀ (g : Host α) (ready : Bool), OnThird { host := g, ready := ready } :=
    fun _ _ => Or.inl ⟨rfl, rfl⟩
  have hload := load_keeps h io.default
  obtain ⟨g, err, happ, hclaim⟩ := appIdCreate_claims io.app (load_bounded io.default hbound)
  have hkept : Keeps h g := hload.trans hclaim.keeps
  unfold boot
  split
  · exact ⟨⟨hbound, hnone _ _⟩, .refl h⟩
  rw [happ]
  simp only
  split
  · exact ⟨⟨hclaim.bounded, hnone _ _⟩, hkept⟩
  rename_i hgood
  have herr : err = 0 := by tauto
  obtain ⟨hthird, hbounded, hkeeps⟩ := vision_claims io hclaim.bounded (hclaim.claimed herr)
  exact ⟨⟨hbounded, hthird⟩, hkept.trans hkeeps⟩

theorem next_inv {d : Device α} (e : Event α) (h : Inv d) : Inv (next d e) := by
  cases e with
  | boot io => exact (boot_inv io h.bounded).1
  | factoryReset io =>
    have hlen : (btFastPairFactoryResetUserActionPerform d.host io).1.ids.length =
        d.host.ids.length := by
      unfold btFastPairFactoryResetUserActionPerform btIdReset
      simp only
      split_ifs <;> simp
    constructor
    · show (btFastPairFactoryResetUserActionPerform d.host io).1.ids.length ≤ _
      rw [hlen]
      exact h.bounded
    · unfold OnThird
      show _ ∨ _ ∧ (btFastPairFactoryResetUserActionPerform d.host io).1.ids.length = _ ∧ _
      rw [hlen]
      exact h.third
  | paired id => exact ⟨h.bounded, h.third⟩

/-- An identity has the same address as long as it is not renewed, and loses no bond. -/
theorem next_keeps {d : Device α} {e : Event α} {id : Nat} (h : Inv d) (hsame : ¬ Renews id e) :
    (∀ a, d.host.ids[id]? = some a → (next d e).host.ids[id]? = some a) ∧
      d.host.bonds id ≤ (next d e).host.bonds id := by
  cases e with
  | boot io =>
    obtain ⟨⟨rest, happ⟩, hbonds⟩ := (boot_inv io h.bounded).2
    constructor
    · intro a hid
      obtain ⟨hlt, _⟩ := List.getElem?_eq_some_iff.mp hid
      show (boot d.host io).host.ids[id]? = some a
      rw [← happ, List.getElem?_append_left hlt]
      exact hid
    · exact Nat.le_of_eq (congrFun hbonds id).symm
  | factoryReset io =>
    have hother : APP_BT_ID ≠ id := fun heq => hsame heq.symm
    unfold next btFastPairFactoryResetUserActionPerform btIdReset
    simp only
    split_ifs <;> simp [List.getElem?_set_ne hother, Function.update_of_ne hother.symm]
  | paired other =>
    refine ⟨fun a hid => hid, ?_⟩
    show d.host.bonds id ≤ Function.update d.host.bonds other (d.host.bonds other + 1) id
    rw [Function.update_apply]
    split
    · rename_i heq
      rw [heq]
      exact Nat.le_succ _
    · exact Nat.le_refl _

/-- Whatever fails in the boots and in the factory resets of a run: an identity that is there
stays with its address and its bonds, but for that of Fast Pair in a factory reset. And the Vision
set never stands on another than the third, which is neither that of Fast Pair nor the default. -/
theorem the_identities_stay_apart (d : Device α) (es fs : List (Event α))
    (h : system.Run d (es ++ fs)) :
    OnThird (system.run d (es ++ fs)) ∧
      ∀ id, (∀ e ∈ fs, ¬ Renews id e) →
        (∀ a, (system.run d es).host.ids[id]? = some a →
          (system.run d (es ++ fs)).host.ids[id]? = some a) ∧
        (system.run d es).host.bonds id ≤ (system.run d (es ++ fs)).host.bonds id := by
  obtain ⟨io, rfl⟩ := h.1
  obtain ⟨hes, hfs⟩ := (runs.System.steps_append _ es fs).mp h.2
  have h0 : Inv (boot ({} : Host α) io) := (boot_inv io (Nat.zero_le _)).1
  have hmid : Inv (system.run (boot {} io) es) :=
    runs.System.run_invariant (I := Inv) (fun s e hi _ => next_inv e hi) h0 hes
  have hend : Inv (system.run (system.run (boot {} io) es) fs) :=
    runs.System.run_invariant (I := Inv) (fun s e hi _ => next_inv e hi) hmid hfs
  rw [runs.System.run_append]
  refine ⟨hend.third, ?_⟩
  intro id hsame
  generalize system.run (boot {} io) es = mid at *
  have hrun := runs.System.run_invariant (S := system) (A := fun _ e => ¬ Renews id e)
    (I := fun s : Device α => Inv s ∧
      (∀ a, mid.host.ids[id]? = some a → s.host.ids[id]? = some a) ∧
      mid.host.bonds id ≤ s.host.bonds id) ?_ ⟨hmid, fun _ hid => hid, Nat.le_refl _⟩
    (runs.System.steps_of_forall (fun e he _ => hsame e he))
  · exact hrun.2
  · rintro s e ⟨hi, hids, hbonds⟩ hs
    obtain ⟨hids', hbonds'⟩ := next_keeps hi hs
    exact ⟨next_inv e hi, fun a hid => hids' a (hids a hid), Nat.le_trans hbonds hbonds'⟩

def quietIds : BootIo Nat :=
  { loadRc := 0, default := 10, app := fun _ => ⟨0, 11⟩, between := 0,
    production := loadFactoryProductionDefaults, enableRc := 0, vision := ⟨0, 12⟩,
    advCreateRc := 0, setDataRc := 0 }

/-- A chip whose first boot ends at the Vision identity. -/
def halfBooted : Device Nat := boot {} { quietIds with vision := ⟨-12, 0⟩ }

theorem the_vision_identity_outlives_a_factory_reset :
    (system.run halfBooted
      ([.boot quietIds] ++ [.factoryReset ⟨0, 21⟩, .boot quietIds])).host.ids[2]? = some 12 :=
  ((the_identities_stay_apart halfBooted [.boot quietIds] [.factoryReset ⟨0, 21⟩, .boot quietIds]
    ⟨⟨_, rfl⟩, trivial, rfl, trivial, trivial⟩).2 2 (by simp [Renews, APP_BT_ID])).1 12 rfl

/-- The identity of Fast Pair is a new one then. -/
example : (system.run halfBooted [.boot quietIds, .factoryReset ⟨0, 21⟩]).host.ids = [10, 21, 12] :=
  rfl

end smart_track.identities
