-- Frames that are closed by a checksum: the symbols have weights in a group, and a
-- frame passes when its weights sum up to zero.
import Mathlib.Algebra.BigOperators.Group.List.Basic

namespace checksum

variable {β G : Type*} [AddCommGroup G] (w : β → G)

/-- The weights of the frame sum up to zero. -/
def Passes (frame : List β) : Prop := (frame.map w).sum = 0

variable {w}

/-- The last symbol of a frame that passes is the one that makes up for the others. -/
theorem passes_concat (body : List β) (c : β) :
    Passes w (body ++ [c]) ↔ w c = -(body.map w).sum := by
  unfold Passes
  rw [List.map_append, List.sum_append, List.map_singleton, List.sum_singleton, add_comm]
  exact add_eq_zero_iff_eq_neg

theorem sum_set {frame : List β} {i : Nat} (h : i < frame.length) (b : β) :
    ((frame.set i b).map w).sum = (frame.map w).sum + (w b - w frame[i]) := by
  have hi : i < (frame.map w).length := by simpa using h
  rw [List.map_set, List.sum_set', dif_pos hi, List.getElem_map, neg_add_eq_sub]

/-- One symbol that changes its weight is always noticed. -/
theorem not_passes_set {frame : List β} (hpass : Passes w frame) {i : Nat}
    (h : i < frame.length) {b : β} (hb : w b ≠ w frame[i]) : ¬ Passes w (frame.set i b) := by
  intro hset
  unfold Passes at hpass hset
  rw [sum_set h, hpass, zero_add] at hset
  exact hb (sub_eq_zero.mp hset)

end checksum
