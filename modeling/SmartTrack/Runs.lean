-- Systems that take one event at a time, and what holds along their runs.
-- A statement about every run is one of two shapes here: `Steps P` says that `P`
-- holds of each state and the event it takes, `States Q` says that `Q` holds of
-- each state that the run passes.
import Mathlib.Data.List.Basic

namespace runs

variable {σ ε γ : Type*}

/-- A system that takes one event at a time. Its environment only gives it the events
that `allowed` lets through. -/
structure System (σ ε : Type*) where
  start : σ → Prop
  allowed : σ → ε → Prop
  next : σ → ε → σ

namespace System

variable (S : System σ ε)

def run (s : σ) (es : List ε) : σ := es.foldl S.next s

/-- `P` holds at every step: of the state before the event, and of the event. -/
def Steps (P : σ → ε → Prop) : σ → List ε → Prop
  | _, [] => True
  | s, e :: es => P s e ∧ Steps P (S.next s e) es

/-- `Q` holds of every state of the run, the first and the last one included. -/
def States (Q : σ → Prop) : σ → List ε → Prop
  | s, [] => Q s
  | s, e :: es => Q s ∧ States Q (S.next s e) es

/-- A run that the environment can bring about. -/
def Run (s : σ) (es : List ε) : Prop := S.start s ∧ S.Steps S.allowed s es

instance decidableSteps {P : σ → ε → Prop} [∀ s e, Decidable (P s e)] :
    ∀ s es, Decidable (S.Steps P s es)
  | _, [] => inferInstanceAs (Decidable True)
  | s, e :: es =>
    have := decidableSteps (P := P) (S.next s e) es
    inferInstanceAs (Decidable (P s e ∧ S.Steps P (S.next s e) es))

instance decidableStates {Q : σ → Prop} [∀ s, Decidable (Q s)] :
    ∀ s es, Decidable (S.States Q s es)
  | s, [] => inferInstanceAs (Decidable (Q s))
  | s, e :: es =>
    have := decidableStates (Q := Q) (S.next s e) es
    inferInstanceAs (Decidable (Q s ∧ S.States Q (S.next s e) es))

@[simp] theorem run_nil (s : σ) : S.run s [] = s := rfl

@[simp] theorem run_cons (s : σ) (e : ε) (es : List ε) :
    S.run s (e :: es) = S.run (S.next s e) es := rfl

theorem run_append (s : σ) (es fs : List ε) : S.run s (es ++ fs) = S.run (S.run s es) fs :=
  List.foldl_append

/-! ## Steps and states of a run -/

variable {S}
variable {P A C : σ → ε → Prop} {Q I : σ → Prop}

@[simp] theorem steps_nil (s : σ) : S.Steps P s [] := trivial

@[simp] theorem steps_cons (s : σ) (e : ε) (es : List ε) :
    S.Steps P s (e :: es) ↔ P s e ∧ S.Steps P (S.next s e) es := Iff.rfl

theorem steps_append (s : σ) (es fs : List ε) :
    S.Steps P s (es ++ fs) ↔ S.Steps P s es ∧ S.Steps P (S.run s es) fs := by
  induction es generalizing s with
  | nil => simp
  | cons e es ih => simp [ih, and_assoc]

theorem steps_and (s : σ) (es : List ε) :
    S.Steps (fun s e => P s e ∧ C s e) s es ↔ S.Steps P s es ∧ S.Steps C s es := by
  induction es generalizing s with
  | nil => simp
  | cons e es ih => simp only [steps_cons, ih]; tauto

theorem steps_trivial (s : σ) (es : List ε) : S.Steps (fun _ _ => True) s es := by
  induction es generalizing s with
  | nil => trivial
  | cons e es ih => exact ⟨trivial, ih _⟩

/-- What holds of each event in every state holds at every step. -/
theorem steps_of_forall {s : σ} {es : List ε} (h : ∀ e ∈ es, ∀ s, P s e) : S.Steps P s es := by
  induction es generalizing s with
  | nil => trivial
  | cons e es ih =>
    exact ⟨h e List.mem_cons_self s, ih (fun f hf => h f (List.mem_cons_of_mem e hf))⟩

theorem states_first {s : σ} {es : List ε} (h : S.States Q s es) : Q s := by
  cases es with
  | nil => exact h
  | cons => exact h.1

/-- What holds of every state of a run holds on both sides of every step. -/
theorem steps_of_states {s : σ} {es : List ε} (h : S.States Q s es) :
    S.Steps (fun s e => Q s ∧ Q (S.next s e)) s es := by
  induction es generalizing s with
  | nil => trivial
  | cons e es ih => exact ⟨⟨h.1, states_first h.2⟩, ih h.2⟩

theorem states_last {s : σ} {es : List ε} (h : S.States Q s es) : Q (S.run s es) := by
  induction es generalizing s with
  | nil => exact h
  | cons e es ih => exact ih h.2

/-! ## The rules for invariants -/

/-- The invariant rule: what every step keeps, and what every step gives while it holds. -/
theorem steps_of_invariant (hstep : ∀ s e, I s → A s e → P s e ∧ I (S.next s e))
    {s : σ} {es : List ε} (h0 : I s) (hA : S.Steps A s es) :
    S.Steps P s es ∧ I (S.run s es) := by
  induction es generalizing s with
  | nil => exact ⟨trivial, h0⟩
  | cons e es ih =>
    obtain ⟨hp, hi⟩ := hstep s e h0 hA.1
    obtain ⟨hs, hr⟩ := ih hi hA.2
    exact ⟨⟨hp, hs⟩, hr⟩

/-- An invariant that every step keeps holds at the end of every run. -/
theorem run_invariant (hstep : ∀ s e, I s → A s e → I (S.next s e))
    {s : σ} {es : List ε} (h0 : I s) (hA : S.Steps A s es) : I (S.run s es) :=
  (steps_of_invariant (P := fun _ _ => True)
    (fun s e hi ha => ⟨trivial, hstep s e hi ha⟩) h0 hA).2

/-- Two conditions on a step come to the same while the invariant holds, and a step that meets
them keeps the invariant: then they come to the same along a run. -/
theorem steps_iff_steps (hiff : ∀ s e, I s → A s e → (P s e ↔ C s e))
    (hkeep : ∀ s e, I s → A s e → C s e → I (S.next s e)) {s : σ} {es : List ε} (h0 : I s)
    (hA : S.Steps A s es) : S.Steps P s es ↔ S.Steps C s es := by
  induction es generalizing s with
  | nil => exact Iff.rfl
  | cons e es ih =>
    have hpc := hiff s e h0 hA.1
    constructor
    · rintro ⟨hp, hs⟩
      have hc := hpc.mp hp
      exact ⟨hc, (ih (hkeep s e h0 hA.1 hc) hA.2).mp hs⟩
    · rintro ⟨hc, hs⟩
      exact ⟨hpc.mpr hc, (ih (hkeep s e h0 hA.1 hc) hA.2).mpr hs⟩

/-- While the invariant holds, two conditions on a step come to the same. -/
theorem steps_congr (hstep : ∀ s e, I s → A s e → I (S.next s e))
    (hiff : ∀ s e, I s → A s e → (P s e ↔ C s e)) {s : σ} {es : List ε} (h0 : I s)
    (hA : S.Steps A s es) : S.Steps P s es ↔ S.Steps C s es :=
  steps_iff_steps hiff (fun s e hi ha _ => hstep s e hi ha) h0 hA

/-- What the invariant gives holds in every state of a run. -/
theorem states_of_invariant (hstep : ∀ s e, I s → A s e → I (S.next s e)) (hQ : ∀ s, I s → Q s)
    {s : σ} {es : List ε} (h0 : I s) (hA : S.Steps A s es) : S.States Q s es := by
  induction es generalizing s with
  | nil => exact hQ s h0
  | cons e es ih => exact ⟨hQ s h0, ih (hstep s e h0 hA.1) hA.2⟩

/-- While the invariant holds, a step from a state with `Q` has `P` and reaches a state with `Q`
just when it meets `C`. Then every state of a run has `Q` and every step `P` just when every step
meets `C`. -/
theorem states_and_steps_iff (hI : ∀ s e, I s → Q s → A s e → I (S.next s e))
    (hiff : ∀ s e, I s → Q s → A s e → (P s e ∧ Q (S.next s e) ↔ C s e))
    {s : σ} {es : List ε} (h0 : I s) (hQ : Q s) (hA : S.Steps A s es) :
    S.States Q s es ∧ S.Steps P s es ↔ S.Steps C s es := by
  induction es generalizing s with
  | nil => exact ⟨fun _ => trivial, fun _ => ⟨hQ, trivial⟩⟩
  | cons e es ih =>
    have hpc := hiff s e h0 hQ hA.1
    have hnext := hI s e h0 hQ hA.1
    constructor
    · rintro ⟨⟨_, hs⟩, hp, hps⟩
      have hq := states_first hs
      exact ⟨hpc.mp ⟨hp, hq⟩, (ih hnext hq hA.2).mp ⟨hs, hps⟩⟩
    · rintro ⟨hc, hcs⟩
      obtain ⟨hp, hq⟩ := hpc.mpr hc
      obtain ⟨hs, hps⟩ := (ih hnext hq hA.2).mpr hcs
      exact ⟨⟨hQ, hs⟩, hp, hps⟩

/-- The rule for the states alone. -/
theorem states_iff_steps (hI : ∀ s e, I s → Q s → A s e → I (S.next s e))
    (hiff : ∀ s e, I s → Q s → A s e → (Q (S.next s e) ↔ C s e))
    {s : σ} {es : List ε} (h0 : I s) (hQ : Q s) (hA : S.Steps A s es) :
    S.States Q s es ↔ S.Steps C s es := by
  have hboth := states_and_steps_iff (P := fun _ _ => True) hI
    (fun s e hi hq ha => (and_iff_right trivial).trans (hiff s e hi hq ha)) h0 hQ hA
  rw [← hboth]
  exact (and_iff_left (steps_trivial s es)).symm

/-- While `I` holds, a step with `C` keeps it, and a step without `C` breaks it for good: then
`J` holds from there on. -/
theorem kept_or_broken {J : σ → Prop} (hkeep : ∀ s e, I s → A s e → C s e → I (S.next s e))
    (hbreak : ∀ s e, I s → A s e → ¬ C s e → J (S.next s e))
    (hstay : ∀ s e, J s → A s e → J (S.next s e))
    {s : σ} {es : List ε} (h0 : I s) (hA : S.Steps A s es) :
    S.Steps C s es ∧ I (S.run s es) ∨ ¬ S.Steps C s es ∧ J (S.run s es) := by
  induction es generalizing s with
  | nil => exact Or.inl ⟨trivial, h0⟩
  | cons e es ih =>
    by_cases hc : C s e
    · rcases ih (hkeep s e h0 hA.1 hc) hA.2 with ⟨hs, hi⟩ | ⟨hs, hj⟩
      · exact Or.inl ⟨⟨hc, hs⟩, hi⟩
      · exact Or.inr ⟨fun h => hs h.2, hj⟩
    · have hj : J (S.run (S.next s e) es) := run_invariant hstay (hbreak s e h0 hA.1 hc) hA.2
      exact Or.inr ⟨fun h => hc h.1, hj⟩

/-! ## What a run gives out

A step may give out messages, calls or the events of a component. Along a run they come one
after the other. -/

def outputs (S : System σ ε) (out : σ → ε → List γ) : σ → List ε → List γ
  | _, [] => []
  | s, e :: es => out s e ++ outputs S out (S.next s e) es

@[simp] theorem outputs_nil (out : σ → ε → List γ) (s : σ) : S.outputs out s [] = [] := rfl

@[simp] theorem outputs_cons (out : σ → ε → List γ) (s : σ) (e : ε) (es : List ε) :
    S.outputs out s (e :: es) = out s e ++ S.outputs out (S.next s e) es := rfl

theorem outputs_flatten (out : σ → ε → List (List γ)) (s : σ) (es : List ε) :
    (S.outputs out s es).flatten = S.outputs (fun s e => (out s e).flatten) s es := by
  induction es generalizing s with
  | nil => rfl
  | cons e es ih => rw [outputs_cons, List.flatten_append, ih, outputs_cons]

/-- Steps that give out the same give out the same along a run. -/
theorem outputs_congr {out out' : σ → ε → List γ} (hI : ∀ s e, I s → A s e → I (S.next s e))
    (hout : ∀ s e, I s → A s e → out s e = out' s e) {s : σ} {es : List ε} (h0 : I s)
    (hA : S.Steps A s es) : S.outputs out s es = S.outputs out' s es := by
  induction es generalizing s with
  | nil => rfl
  | cons e es ih =>
    rw [outputs_cons, outputs_cons, hout s e h0 hA.1, ih (hI s e h0 hA.1) hA.2]

theorem outputs_map {δ : Type*} (f : γ → δ) (out : σ → ε → List γ) (s : σ) (es : List ε) :
    (S.outputs out s es).map f = S.outputs (fun s e => (out s e).map f) s es := by
  induction es generalizing s with
  | nil => rfl
  | cons e es ih => rw [outputs_cons, List.map_append, ih, outputs_cons]

theorem outputs_filterMap {δ : Type*} (f : γ → Option δ) (out : σ → ε → List γ) (s : σ)
    (es : List ε) :
    (S.outputs out s es).filterMap f = S.outputs (fun s e => (out s e).filterMap f) s es := by
  induction es generalizing s with
  | nil => rfl
  | cons e es ih => rw [outputs_cons, List.filterMap_append, ih, outputs_cons]

/-- The conservation rule: what is pending and what comes in goes out in its order, or is still
pending at the end. -/
theorem outputs_conserved {received handled : σ → ε → List γ} {pending : σ → List γ}
    (hI : ∀ s e, I s → A s e → I (S.next s e))
    (hstep : ∀ s e, I s → A s e →
      pending s ++ received s e = handled s e ++ pending (S.next s e))
    {s : σ} {es : List ε} (h0 : I s) (hA : S.Steps A s es) :
    pending s ++ S.outputs received s es =
      S.outputs handled s es ++ pending (S.run s es) := by
  induction es generalizing s with
  | nil => simp
  | cons e es ih =>
    have hrest := ih (hI s e h0 hA.1) hA.2
    rw [outputs_cons, outputs_cons, run_cons, ← List.append_assoc, hstep s e h0 hA.1,
      List.append_assoc, hrest, List.append_assoc]

theorem mem_outputs {R : γ → Prop} {out : σ → ε → List γ} (h : ∀ s e, ∀ x ∈ out s e, R x)
    {s : σ} {es : List ε} {x : γ} (hx : x ∈ S.outputs out s es) : R x := by
  induction es generalizing s with
  | nil => cases hx
  | cons e es ih =>
    rcases List.mem_append.mp hx with hfirst | hrest
    · exact h s e x hfirst
    · exact ih hrest

/-- The simulation rule: while `R` holds, the events that a step gives out are a run of the other
system to where `R` holds again. -/
theorem simulates {τ φ : Type*} {T : System τ φ} {R : σ → τ → Prop} {out : σ → ε → List φ}
    (hstep : ∀ s t e, R s t → A s e →
      T.Steps T.allowed t (out s e) ∧ R (S.next s e) (T.run t (out s e)))
    {s : σ} {t : τ} {es : List ε} (h0 : R s t) (hA : S.Steps A s es) :
    T.Steps T.allowed t (S.outputs out s es) ∧ R (S.run s es) (T.run t (S.outputs out s es)) := by
  induction es generalizing s t with
  | nil => exact ⟨trivial, h0⟩
  | cons e es ih =>
    obtain ⟨hfirst, hr⟩ := hstep s t e h0 hA.1
    obtain ⟨hrest, hend⟩ := ih hr hA.2
    rw [outputs_cons, run_cons, steps_append, run_append]
    exact ⟨⟨hfirst, hrest⟩, hend⟩

section carried

variable {out : σ → ε → List γ} {carried : σ → List γ}

/-- What a step carries on is at most what it is given, and less of it without `C`. -/
theorem carried_length_le (hI : ∀ s e, I s → A s e → I (S.next s e))
    (hcarry : ∀ s e, I s → A s e → C s e → carried (S.next s e) = carried s ++ out s e)
    (hlose : ∀ s e, I s → A s e → ¬ C s e →
      (carried (S.next s e)).length < (carried s ++ out s e).length)
    {s : σ} {es : List ε} (h0 : I s) (hA : S.Steps A s es) :
    (carried (S.run s es)).length ≤ (carried s ++ S.outputs out s es).length := by
  induction es generalizing s with
  | nil => simp
  | cons e es ih =>
    have hrest := ih (hI s e h0 hA.1) hA.2
    have hstep : (carried (S.next s e)).length ≤ (carried s ++ out s e).length := by
      by_cases hc : C s e
      · exact Nat.le_of_eq (congrArg List.length (hcarry s e h0 hA.1 hc))
      · exact Nat.le_of_lt (hlose s e h0 hA.1 hc)
    rw [outputs_cons]
    simp only [run_cons, List.length_append] at hrest hstep ⊢
    omega

/-- All that a run is given is carried on, in its order, just when every step carries on what it
is given. -/
theorem carried_iff_steps (hI : ∀ s e, I s → A s e → I (S.next s e))
    (hcarry : ∀ s e, I s → A s e → C s e → carried (S.next s e) = carried s ++ out s e)
    (hlose : ∀ s e, I s → A s e → ¬ C s e →
      (carried (S.next s e)).length < (carried s ++ out s e).length)
    {s : σ} {es : List ε} (h0 : I s) (hA : S.Steps A s es) :
    carried (S.run s es) = carried s ++ S.outputs out s es ↔ S.Steps C s es := by
  induction es generalizing s with
  | nil => simp
  | cons e es ih =>
    have hrest := ih (hI s e h0 hA.1) hA.2
    rw [run_cons, outputs_cons, ← List.append_assoc]
    constructor
    · intro hall
      have hc : C s e := by
        by_contra hc
        have hless := hlose s e h0 hA.1 hc
        have hle := carried_length_le hI hcarry hlose (hI s e h0 hA.1) hA.2
        have hlength := congrArg List.length hall
        simp only [List.length_append] at hless hle hlength
        omega
      exact ⟨hc, hrest.mp (by rw [hall, hcarry s e h0 hA.1 hc])⟩
    · rintro ⟨hc, hcs⟩
      rw [hrest.mpr hcs, hcarry s e h0 hA.1 hc]

end carried

/-! ## A watcher beside the system

A watcher keeps its own notes on a run. It never changes what the system does, so
a property of the notes is a property of the run. -/

variable (S)

/-- The system with a watcher: `note` takes down each event with the state before it. -/
def watch (notes : γ) (note : γ → σ → ε → γ) : System (σ × γ) ε where
  start p := S.start p.1 ∧ p.2 = notes
  allowed p e := S.allowed p.1 e
  next p e := (S.next p.1 e, note p.2 p.1 e)

/-- What only looks at the system holds in every state with the watcher just when it does
without. -/
theorem watch_states_iff (notes : γ) (note : γ → σ → ε → γ) (p : σ × γ) (es : List ε) :
    (S.watch notes note).States (fun q => Q q.1) p es ↔ S.States Q p.1 es := by
  induction es generalizing p with
  | nil => exact Iff.rfl
  | cons e es ih => exact and_congr Iff.rfl (ih _)

/-- What an invariant of the watched system gives of the system holds in every state. -/
theorem watch_states (notes : γ) (note : γ → σ → ε → γ) {I : σ × γ → Prop}
    (hstep : ∀ p e, I p → A p.1 e → I ((S.watch notes note).next p e)) (hQ : ∀ p, I p → Q p.1)
    {p : σ × γ} {es : List ε} (h0 : I p)
    (hA : (S.watch notes note).Steps (fun q e => A q.1 e) p es) : S.States Q p.1 es :=
  (S.watch_states_iff notes note p es).mp (states_of_invariant hstep hQ h0 hA)

theorem watch_run_fst (notes : γ) (note : γ → σ → ε → γ) (p : σ × γ) (es : List ε) :
    ((S.watch notes note).run p es).1 = S.run p.1 es := by
  induction es generalizing p with
  | nil => rfl
  | cons e es ih => exact ih _

/-- What only looks at the system is the same with and without the watcher. -/
theorem watch_steps (notes : γ) (note : γ → σ → ε → γ) (p : σ × γ) (es : List ε) :
    (S.watch notes note).Steps (fun q e => P q.1 e) p es ↔ S.Steps P p.1 es := by
  induction es generalizing p with
  | nil => simp
  | cons e es ih => exact and_congr Iff.rfl (ih _)

end System

end runs
