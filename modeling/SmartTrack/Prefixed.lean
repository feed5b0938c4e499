-- Frames that tell their own size: the first element of a frame says how many there are. A
-- reader that goes by the sizes splits a stream into the frames that it is made of.
import Mathlib.Data.List.Basic

namespace prefixed

variable {α : Type*} (size : α → Nat)

/-- As many elements as the first of them says. -/
def Framed : List α → Prop
  | [] => False
  | a :: rest => rest.length + 1 = size a

instance (frame : List α) : Decidable (Framed size frame) := by
  cases frame <;> unfold Framed <;> infer_instance

/-- What a reader has of a stream: the frames that are complete, and the start of the next. -/
structure Reading (α : Type*) where
  frames : List (List α)
  part : List α
  deriving DecidableEq

def Reading.put (r : Reading α) (a : α) : Reading α :=
  if Framed size (r.part ++ [a]) then
    { frames := r.frames ++ [r.part ++ [a]], part := [] }
  else
    { r with part := r.part ++ [a] }

def read (stream : List α) : Reading α :=
  stream.foldl (Reading.put size) { frames := [], part := [] }

/-- The reader drops nothing and adds nothing. -/
theorem put_joined (r : Reading α) (a : α) :
    (r.put size a).frames.flatten ++ (r.put size a).part = r.frames.flatten ++ r.part ++ [a] := by
  unfold Reading.put
  split <;> simp

theorem foldl_joined (r : Reading α) (stream : List α) :
    (stream.foldl (Reading.put size) r).frames.flatten ++
      (stream.foldl (Reading.put size) r).part = r.frames.flatten ++ r.part ++ stream := by
  induction stream generalizing r with
  | nil => simp
  | cons a rest ih => rw [List.foldl_cons, ih, put_joined, List.append_assoc, List.singleton_append]

theorem read_joined (stream : List α) :
    (read size stream).frames.flatten ++ (read size stream).part = stream := by
  unfold read
  rw [foldl_joined]
  rfl

variable {size}

/-- The start of a frame is no frame. -/
theorem not_framed_of_prefix {start rest : List α} (h : Framed size (start ++ rest))
    (hrest : rest ≠ []) : ¬ Framed size start := by
  cases start with
  | nil => exact id
  | cons a front =>
    have hpos : 0 < rest.length := List.length_pos_iff.mpr hrest
    simp only [List.cons_append, Framed, List.length_append] at h
    simp only [Framed]
    omega

/-- The rest of a frame completes it. -/
theorem foldl_rest {done : List (List α)} {start rest : List α} (h : Framed size (start ++ rest))
    (hrest : rest ≠ []) :
    rest.foldl (Reading.put size) { frames := done, part := start } =
      { frames := done ++ [start ++ rest], part := [] } := by
  induction rest generalizing start with
  | nil => exact absurd rfl hrest
  | cons a rest ih =>
    rw [List.append_cons] at h
    rw [List.foldl_cons]
    cases rest with
    | nil =>
      rw [List.append_nil] at h
      simp only [Reading.put, if_pos h, List.foldl_nil]
    | cons b rest =>
      have hpart := not_framed_of_prefix h (List.cons_ne_nil b rest)
      simp only [Reading.put, if_neg hpart]
      rw [ih h (List.cons_ne_nil b rest), ← List.append_cons]

theorem foldl_frames {frames : List (List α)} (h : ∀ frame ∈ frames, Framed size frame)
    (done : List (List α)) :
    frames.flatten.foldl (Reading.put size) { frames := done, part := [] } =
      { frames := done ++ frames, part := [] } := by
  induction frames generalizing done with
  | nil => simp
  | cons frame frames ih =>
    have hframe : Framed size ([] ++ frame) := h frame List.mem_cons_self
    have hne : frame ≠ [] := by
      rintro rfl
      exact hframe
    rw [List.flatten_cons, List.foldl_append, foldl_rest hframe hne,
      ih (fun f hf => h f (List.mem_cons_of_mem frame hf)), List.nil_append, List.append_assoc]
    rfl

/-- A stream of frames is read back. -/
theorem read_flatten {frames : List (List α)} (h : ∀ frame ∈ frames, Framed size frame) :
    read size frames.flatten = { frames := frames, part := [] } :=
  foldl_frames h []

end prefixed
