/-
# Pending changes and their notification

A board has channels, and on each channel a set of pending changes.  An observer
reads the pending changes of a channel and acknowledges them one at a time; a
channel may have a callback, which tells the observer to look.

Two things make such a board reliable.  A step that changes what can be observed
reports it: it clears no pending change, and calls back once for each change it
raises (`Raises`).  And whatever is not pending is as the observer saw it last
(`Board.Tracks`), which every step keeps that reports what it changes
(`Board.Tracks.step`).
-/

import Mathlib.Data.Finset.Card
import Mathlib.Logic.Function.Basic

namespace Notify

universe u v w

variable {C : Type u} {F : Type v} {α : Type w} [DecidableEq F]

/-- The pending changes of each channel, and how often its callback was called. -/
structure Board (C : Type u) (F : Type v) where
  pending : C → Finset F
  calls : C → ℕ

/-- Changes were raised and none was cleared, and each channel that has a callback
was called once for each change that is new. -/
structure Raises (installed : C → Bool) (b b' : Board C F) : Prop where
  kept : ∀ c, b.pending c ⊆ b'.pending c
  called : ∀ c, b'.calls c =
    b.calls c + if installed c then (b'.pending c \ b.pending c).card else 0

namespace Raises

variable {installed : C → Bool} {b b' b'' : Board C F}

/-- Nothing is raised. -/
theorem refl (installed : C → Bool) (b : Board C F) : Raises installed b b :=
  ⟨fun _ => Finset.Subset.refl _, fun c => by simp⟩

/-- Changes that are raised after each other. -/
theorem trans (h : Raises installed b b') (h' : Raises installed b' b'') :
    Raises installed b b'' := by
  refine ⟨fun c => (h.kept c).trans (h'.kept c), fun c => ?_⟩
  rw [h'.called c, h.called c]
  split
  · have hsplit := Finset.card_sdiff_add_card_eq_card (h.kept c)
    have hsplit' := Finset.card_sdiff_add_card_eq_card (h'.kept c)
    have hsplit'' := Finset.card_sdiff_add_card_eq_card ((h.kept c).trans (h'.kept c))
    omega
  · omega

/-- One change was raised on one channel, which was called if the change is new. -/
theorem of_insert [DecidableEq C] {c : C} {f : F}
    (hp : b'.pending = Function.update b.pending c (insert f (b.pending c)))
    (hc : b'.calls = Function.update b.calls c
      (b.calls c + if installed c ∧ f ∉ b.pending c then 1 else 0)) :
    Raises installed b b' := by
  refine ⟨fun c' => ?_, fun c' => ?_⟩
  · rcases eq_or_ne c' c with rfl | hne
    · simp [hp]
    · simp [hp, hne]
  · rcases eq_or_ne c' c with rfl | hne
    · rw [hp, hc, Function.update_self, Function.update_self]
      by_cases hf : f ∈ b.pending c'
      · simp [hf]
      · have hnew : insert f (b.pending c') \ b.pending c' = {f} := by
          rw [Finset.insert_sdiff_of_notMem _ hf, Finset.sdiff_self, insert_empty_eq]
        simp [hf, hnew]
    · simp [hp, hc, hne]

end Raises

/-! ### What the observer knows -/

/-- Whatever is not pending is now as the observer saw it last. -/
def Board.Tracks (b : Board C F) (now seen : C → F → α) : Prop :=
  ∀ c f, f ∉ b.pending c → now c f = seen c f

omit [DecidableEq F] in
/-- **No change is lost.**  After a step everything that changed is pending, and what
is pending no more was acknowledged, which is when the observer sees it. -/
theorem Board.Tracks.step {b b' : Board C F} {now now' seen seen' : C → F → α}
    {A : C → F → Prop} (ht : b.Tracks now seen)
    (hnew : ∀ c f, now' c f ≠ now c f → f ∈ b'.pending c)
    (hkept : ∀ c f, f ∈ b.pending c → f ∈ b'.pending c ∨ A c f)
    (hseen : ∀ c f, seen' c f = now c f ∧ A c f ∨
      seen' c f = seen c f ∧ ¬ A c f) : b'.Tracks now' seen' := by
  intro c f hf
  have hsame : now' c f = now c f := by
    by_contra hne
    exact hf (hnew c f hne)
  rw [hsame]
  rcases hseen c f with ⟨heq, -⟩ | ⟨heq, hnot⟩
  · exact heq.symm
  · rw [heq]
    exact ht c f fun hold => hf ((hkept c f hold).resolve_right hnot)

end Notify
