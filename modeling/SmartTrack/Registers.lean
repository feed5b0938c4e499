-- Registers that keep the last value set. A device whose reads agree with its
-- sets has in each register what `valueNow` gives: the value of the latest set,
-- or the one that was there before.
import Mathlib.Data.List.Basic
import Mathlib.Logic.Function.Basic

namespace registers

variable {κ ν : Type*} [DecidableEq κ]

/-- What each register holds after the sets in `log`, the latest of which comes first. -/
def valueNow (before : κ → ν) (log : List (κ × ν)) (k : κ) : ν := (log.lookup k).getD (before k)

@[simp] theorem valueNow_nil (before : κ → ν) : valueNow before [] = before := rfl

@[simp] theorem valueNow_cons (before : κ → ν) (k : κ) (v : ν) (log : List (κ × ν)) :
    valueNow before ((k, v) :: log) = Function.update (valueNow before log) k v := by
  funext r
  unfold valueNow
  by_cases hr : r = k
  · subst hr
    simp
  · have hbeq : (r == k) = false := by simpa using hr
    rw [List.lookup_cons, hbeq, Function.update_of_ne hr]

/-- The sets of a later log come on top of those of an earlier one. -/
theorem valueNow_append (before : κ → ν) (sets log : List (κ × ν)) :
    valueNow before (sets ++ log) = valueNow (valueNow before log) sets := by
  induction sets with
  | nil => rfl
  | cons s sets ih =>
    obtain ⟨k, v⟩ := s
    rw [List.cons_append, valueNow_cons, valueNow_cons, ih]

/-- A register that no set names keeps its value. -/
theorem valueNow_of_not_set (before : κ → ν) {log : List (κ × ν)} {k : κ}
    (h : ∀ s ∈ log, s.1 ≠ k) : valueNow before log k = before k := by
  induction log with
  | nil => rfl
  | cons s log ih =>
    obtain ⟨j, v⟩ := s
    have hj : k ≠ j := fun heq => h (j, v) (List.mem_cons_self ..) heq.symm
    rw [valueNow_cons, Function.update_of_ne hj]
    apply ih
    intro s hs
    exact h s (List.mem_cons_of_mem _ hs)

end registers
