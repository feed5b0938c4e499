-- A value, and the copy of it that a device holds. The value is passed on only when
-- it changes, so a change that the device did not take is not passed on again.
import Mathlib.Tactic

namespace mirror

variable {α β : Type*}

/-- The value as it was last set, and what the device last accepted. -/
structure Mirror (α : Type*) where
  cached : α
  held : Option α
  deriving DecidableEq

namespace Mirror

def InSync (m : Mirror α) : Prop := m.held = some m.cached

instance [DecidableEq α] (m : Mirror α) : Decidable m.InSync := inferInstanceAs (Decidable (_ = _))

/-- A new value is set. It goes to the device if it differs from the one before. -/
def put [DecidableEq α] (m : Mirror α) (v : α) (accepts : Bool) : Mirror α :=
  if v = m.cached then m
  else { cached := v, held := if accepts then some v else m.held }

variable [DecidableEq α] (m : Mirror α) {v : α} {accepts : Bool}

@[simp] theorem put_cached : (m.put v accepts).cached = v := by
  unfold put
  split
  · rename_i h
    exact h.symm
  · rfl

theorem put_same (h : v = m.cached) : m.put v accepts = m := if_pos h

theorem put_new (h : v ≠ m.cached) :
    m.put v accepts = { cached := v, held := if accepts then some v else m.held } := if_neg h

/-- The copy is right after a new value just when the device takes it, or has it already. -/
theorem inSync_put :
    (m.put v accepts).InSync ↔ v ≠ m.cached ∧ accepts = true ∨ m.held = some v := by
  by_cases hv : v = m.cached
  · rw [put_same m hv]
    simp [InSync, hv]
  · rw [put_new m hv]
    cases accepts with
    | true => simp [InSync, hv]
    | false => simp [InSync]

/-! ## The refusals since the device last took a value

What the device holds can be told from the values that went to it and from its answers. -/

/-- The device took the last value that went to it, or it refused the last ones: then `before` is
the value that stood before the first of them. -/
inductive Standing (α : Type*)
  | taken
  | refused (before : Option α)
  deriving DecidableEq

/-- The answer to a new value `v` that replaces `cached`. A value that stays is not asked about. -/
def Standing.answer (s : Standing α) (cached v : α) (accepts : Bool) : Standing α :=
  if v = cached then s
  else if accepts then .taken
  else
    match s with
    | .taken => .refused (some cached)
    | .refused before => .refused before

/-- No refusal counts any more: the last value was taken, or the value is back at what it was
before the refusals. -/
def Standing.Settled (s : Standing α) (v : α) : Prop :=
  match s with
  | .taken => True
  | .refused before => before = some v

instance (s : Standing α) (v : α) : Decidable (s.Settled v) :=
  match s with
  | .taken => inferInstanceAs (Decidable True)
  | .refused before => inferInstanceAs (Decidable (before = some v))

/-- The device holds what the answers say. -/
def Standing.Tells (s : Standing α) (m : Mirror α) : Prop :=
  match s with
  | .taken => m.held = some m.cached
  | .refused before => m.held = before

theorem tells_put {m : Mirror α} {s : Standing α} (v : α) (accepts : Bool) (h : s.Tells m) :
    (s.answer m.cached v accepts).Tells (m.put v accepts) := by
  unfold Standing.answer
  by_cases hv : v = m.cached
  · rw [if_pos hv, put_same m hv]
    exact h
  · rw [if_neg hv, put_new m hv]
    cases accepts with
    | true => exact rfl
    | false =>
      cases s with
      | taken => exact h
      | refused before => exact h

omit [DecidableEq α] in
theorem inSync_iff_settled {m : Mirror α} {s : Standing α} (h : s.Tells m) :
    m.InSync ↔ s.Settled m.cached := by
  cases s with
  | taken => exact iff_of_true h trivial
  | refused before =>
    have hheld : m.held = before := h
    unfold InSync
    rw [hheld]
    exact Iff.rfl

/-! ## A value that is noted when it is taken -/

/-- The value goes to the device unless it is the one noted, and it is noted if the device takes
it. With `forced` it goes in any case. -/
def send (v : α) (forced accepts : Bool) : Mirror α :=
  if forced = false ∧ m.cached = v then m
  else if accepts then { cached := v, held := some v }
  else m

variable {m : Mirror α} {forced : Bool}

/-- A note that is right stays right, whatever the device takes. -/
theorem inSync_send (h : m.InSync) : (m.send v forced accepts).InSync := by
  unfold send
  split
  · exact h
  · split
    · rfl
    · exact h

/-- While the note is right, a refusal is the only reason why the device lacks the value. -/
theorem held_send (v : α) (forced accepts : Bool) (h : m.InSync) :
    (m.send v forced accepts).held = some v ↔ accepts = true ∨ m.held = some v := by
  unfold send
  split
  · rename_i hskip
    have hheld : m.held = some v := hskip.2 ▸ h
    exact ⟨fun _ => Or.inr hheld, fun _ => hheld⟩
  · split
    · rename_i haccepts
      exact ⟨fun _ => Or.inl haccepts, fun _ => rfl⟩
    · rename_i haccepts
      exact ⟨Or.inr, fun hor => hor.resolve_left haccepts⟩

end Mirror

end mirror
