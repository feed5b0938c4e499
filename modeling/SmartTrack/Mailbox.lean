-- A place for one item between a producer and a consumer. What the consumer gets
-- is what the producer put in, in order and each item once, just as long as
-- every item is put into an empty place.
import SmartTrack.Runs

namespace mailbox

variable {σ ε α : Type*}

/-- What an event does to the place. `drop` empties it past the consumer. -/
inductive Act (α : Type*)
  | put (a : α)
  | take
  | drop
  | other
  deriving DecidableEq

/-- A place for one item in a system. `pending` says that the consumer is still to run. An
item put into an empty place is there, or is not; what becomes of an item put on top of
another is left open. -/
structure Mailbox (S : runs.System σ ε) (α : Type*) where
  Inv : σ → Prop
  content : σ → Option α
  pending : σ → Bool
  act : σ → ε → Act α
  inv_next : ∀ s e, Inv s → S.allowed s e → Inv (S.next s e)
  submitted : ∀ s, Inv s → content s ≠ none → pending s = true
  put_empty : ∀ s e a, Inv s → S.allowed s e → act s e = .put a → content s = none →
    content (S.next s e) = none ∨ content (S.next s e) = some a
  emptied : ∀ s e, Inv s → S.allowed s e → act s e = .take ∨ act s e = .drop →
    content (S.next s e) = none
  untouched : ∀ s e, Inv s → S.allowed s e → act s e = .other → content (S.next s e) = content s

/-- What was put in and what was taken out so far. -/
structure Log (α : Type*) where
  put : List α := []
  taken : List α := []

namespace Mailbox

variable {S : runs.System σ ε} (M : Mailbox S α)

/-- The log after one more event. -/
def note (log : Log α) (s : σ) (e : ε) : Log α :=
  match M.act s e with
  | .put a => { log with put := log.put ++ [a] }
  | .take => { log with taken := log.taken ++ (M.content s).toList }
  | _ => log

/-- The system with the log beside it. -/
def logged : runs.System (σ × Log α) ε := S.watch {} M.note

/-- The event puts its item into the empty place, or drops none. -/
def Clean (s : σ) (e : ε) : Prop :=
  match M.act s e with
  | .put a => M.content s = none ∧ M.content (S.next s e) = some a
  | .drop => M.content s = none
  | _ => True

/-- Every item that was put in was taken out or is still there, in order. -/
def Balanced (p : σ × Log α) : Prop :=
  M.Inv p.1 ∧ p.2.put = p.2.taken ++ (M.content p.1).toList

/-- An item is gone, and never comes back. -/
def Short (p : σ × Log α) : Prop :=
  M.Inv p.1 ∧ p.2.taken.length + (M.content p.1).toList.length < p.2.put.length

theorem content_length (s : σ) : (M.content s).toList.length ≤ 1 := by
  cases M.content s <;> simp

theorem balanced_next (p : σ × Log α) (e : ε) (h : M.Balanced p) (hA : S.allowed p.1 e)
    (hc : M.Clean p.1 e) : M.Balanced (M.logged.next p e) := by
  obtain ⟨hinv, hbal⟩ := h
  refine ⟨M.inv_next _ _ hinv hA, ?_⟩
  simp only [logged, runs.System.watch, note, Clean] at hc ⊢
  cases hact : M.act p.1 e with
  | put a =>
    rw [hact] at hc
    rw [hc.2, hbal, hc.1]
    simp
  | take =>
    rw [M.emptied _ _ hinv hA (Or.inl hact)]
    simpa using hbal
  | drop =>
    rw [hact] at hc
    rw [M.emptied _ _ hinv hA (Or.inr hact), hbal, hc]
  | other => rw [M.untouched _ _ hinv hA hact, hbal]

theorem short_next (p : σ × Log α) (e : ε) (h : M.Short p) (hA : S.allowed p.1 e) :
    M.Short (M.logged.next p e) := by
  obtain ⟨hinv, hshort⟩ := h
  refine ⟨M.inv_next _ _ hinv hA, ?_⟩
  have hlen := M.content_length (S.next p.1 e)
  simp only [logged, runs.System.watch, note]
  cases hact : M.act p.1 e with
  | put a =>
    -- A place that was empty has at most the new item; one that was full had an item less.
    cases hcontent : M.content p.1 with
    | none =>
      rw [hcontent] at hshort
      simp at hshort ⊢
      omega
    | some b =>
      rw [hcontent] at hshort
      simp at hshort ⊢
      omega
  | take =>
    rw [M.emptied _ _ hinv hA (Or.inl hact)]
    simpa using hshort
  | drop =>
    rw [M.emptied _ _ hinv hA (Or.inr hact)]
    simp only [Option.toList_none, List.length_nil]
    omega
  | other =>
    rw [M.untouched _ _ hinv hA hact]
    exact hshort

/-- An event that is not clean loses an item. -/
theorem short_of_unclean (p : σ × Log α) (e : ε) (h : M.Balanced p) (hA : S.allowed p.1 e)
    (hc : ¬ M.Clean p.1 e) : M.Short (M.logged.next p e) := by
  obtain ⟨hinv, hbal⟩ := h
  have hcount := congrArg List.length hbal
  rw [List.length_append] at hcount
  refine ⟨M.inv_next _ _ hinv hA, ?_⟩
  simp only [logged, runs.System.watch, note, Clean] at hc ⊢
  cases hact : M.act p.1 e with
  | put a =>
    rw [hact] at hc
    simp only [not_and] at hc
    cases hcontent : M.content p.1 with
    | none =>
      have hgone : M.content (S.next p.1 e) = none := by
        rcases M.put_empty _ _ a hinv hA hact hcontent with hn | hs
        · exact hn
        · exact absurd hs (hc hcontent)
      rw [hcontent] at hcount
      rw [hgone]
      simp at hcount ⊢
      omega
    | some b =>
      have hlen := M.content_length (S.next p.1 e)
      rw [hcontent] at hcount
      simp at hcount ⊢
      omega
  | drop =>
    rw [hact] at hc
    obtain ⟨b, hb⟩ := Option.ne_none_iff_exists'.mp hc
    rw [hb] at hcount
    rw [M.emptied _ _ hinv hA (Or.inr hact)]
    simp at hcount ⊢
    omega
  | take => exact absurd (by simp [hact]) hc
  | other => exact absurd (by simp [hact]) hc

theorem logged_steps (P : σ → ε → Prop) (s : σ) (log : Log α) (es : List ε) :
    M.logged.Steps (fun p e => P p.1 e) (s, log) es ↔ S.Steps P s es :=
  S.watch_steps ({} : Log α) M.note (s, log) es

theorem logged_run (s : σ) (log : Log α) (es : List ε) :
    (M.logged.run (s, log) es).1 = S.run s es :=
  S.watch_run_fst ({} : Log α) M.note (s, log) es

/-- From an empty place to a state where the consumer has nothing to do, it got just what was
put in, in order, if and only if every event was clean. -/
theorem taken_eq_put_iff {s : σ} {es : List ε} (hinv : M.Inv s) (hempty : M.content s = none)
    (hA : S.Steps S.allowed s es) (hidle : M.pending (S.run s es) = false) :
    (M.logged.run (s, {}) es).2.taken = (M.logged.run (s, {}) es).2.put ↔
      S.Steps M.Clean s es := by
  have h0 : M.Balanced (s, {}) := ⟨hinv, by simp [hempty]⟩
  have hend := M.logged_run s {} es
  have hnone : M.Inv (S.run s es) → M.content (S.run s es) = none := by
    intro hi
    by_contra hsome
    rw [M.submitted _ hi hsome] at hidle
    contradiction
  have hrun := runs.System.kept_or_broken (S := M.logged) (C := fun p e => M.Clean p.1 e)
    (A := fun p e => S.allowed p.1 e) (fun p e h hA => M.balanced_next p e h hA)
    (fun p e h hA => M.short_of_unclean p e h hA) (fun p e h hA => M.short_next p e h hA) h0
    ((M.logged_steps S.allowed s {} es).mpr hA)
  rw [← M.logged_steps M.Clean s {} es]
  rcases hrun with ⟨hclean, hi, hbal⟩ | ⟨hunclean, hi, hshort⟩
  · rw [hend] at hi hbal
    rw [hnone hi, Option.toList_none, List.append_nil] at hbal
    exact iff_of_true hbal.symm hclean
  · rw [hend] at hi hshort
    rw [hnone hi] at hshort
    refine iff_of_false ?_ hunclean
    intro heq
    rw [heq] at hshort
    simp at hshort

end Mailbox

end mailbox
