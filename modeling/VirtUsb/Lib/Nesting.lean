/-
# Resources that are given back in reverse order

A program that takes resources one after the other, and undoes what it did when a step
fails, gives them back in reverse order.  A trace of such a program is a list of acts
(`Act`).  `held` computes what is held after a trace, the last one taken first, and fails
where something is taken twice, or something is given back that is not the last one taken.

A trace that leaves nothing held gave every resource back as often as it took it
(`count_take_eq_count_give`).
-/

import Mathlib.Data.List.Basic
import Mathlib.Data.List.Nodup
import Mathlib.Data.Nat.Notation

namespace Nesting

universe u

variable {ρ : Type u} [DecidableEq ρ]

/-- A resource is taken, or given back. -/
inductive Act (ρ : Type u)
  | take (r : ρ)
  | give (r : ρ)
  deriving DecidableEq

/-- What is held after a trace that begins with `s` held. -/
def held : List ρ → List (Act ρ) → Option (List ρ)
  | s, [] => some s
  | s, .take r :: l => if r ∈ s then none else held (r :: s) l
  | s, .give r :: l => if s.head? = some r then held s.tail l else none

variable {s t : List ρ} {l m : List (Act ρ)} {r : ρ}

/-- A trace may be followed piece by piece. -/
theorem held_append (s : List ρ) (l m : List (Act ρ)) :
    held s (l ++ m) = (held s l).bind fun t => held t m := by
  induction l generalizing s with
  | nil => rfl
  | cons a l ih =>
      cases a with
      | take r =>
          simp only [List.cons_append, held]
          split
          · rfl
          · exact ih _
      | give r =>
          simp only [List.cons_append, held]
          split
          · exact ih _
          · rfl

/-- Fresh resources can be taken in any order; the last one is on top. -/
theorem held_takes (hnew : ∀ r ∈ s, r ∉ t) (hs : s.Nodup) :
    held t (s.map .take) = some (s.reverse ++ t) := by
  induction s generalizing t with
  | nil => rfl
  | cons r s ih =>
      have hr : r ∉ t := hnew r (List.mem_cons_self ..)
      have hrest : ∀ x ∈ s, x ∉ r :: t := by
        intro x hx hmem
        rcases List.mem_cons.1 hmem with rfl | hmem
        · exact (List.nodup_cons.1 hs).1 hx
        · exact hnew x (List.mem_cons_of_mem _ hx) hmem
      rw [List.map_cons, held, if_neg hr, ih hrest hs.of_cons, List.reverse_cons,
        List.append_assoc]
      rfl

/-- What is on top can be given back from the top. -/
theorem held_gives (s t : List ρ) : held (s ++ t) (s.map .give) = some t := by
  induction s with
  | nil => rfl
  | cons r s ih =>
      rw [List.map_cons, List.cons_append, held, if_pos (List.head?_cons ..)]
      exact ih

/-- **What is taken and given back in reverse order** leaves what was held before. -/
theorem held_undone (hnew : ∀ r ∈ s, r ∉ t) (hs : s.Nodup) :
    held t (s.map .take ++ s.reverse.map .give) = some t := by
  rw [held_append, held_takes hnew hs]
  exact held_gives s.reverse t

/-- **Nothing is lost**: what was held and what was taken is what was given back and what is
held. -/
theorem count_of_held (hl : held s l = some t) (r : ρ) :
    s.count r + l.count (.take r) = t.count r + l.count (.give r) := by
  induction l generalizing s with
  | nil =>
      obtain rfl := Option.some.inj hl
      rfl
  | cons a l ih =>
      cases a with
      | take r' =>
          obtain ⟨-, hl⟩ := Option.ite_none_left_eq_some.1 hl
          have hrest := ih hl
          rw [List.count_cons] at hrest
          by_cases hr : r' = r <;> simp [hr] at hrest ⊢ <;> omega
      | give r' =>
          obtain ⟨hhead, hl⟩ := Option.ite_none_right_eq_some.1 hl
          obtain ⟨rest, rfl⟩ := List.head?_eq_some_iff.1 hhead
          have hrest := ih hl
          rw [List.tail_cons] at hrest
          by_cases hr : r' = r <;> simp [hr] at hrest ⊢ <;> omega

/-- A trace that leaves nothing gives back everything it takes, as often as it takes it. -/
theorem count_take_eq_count_give (hl : held [] l = some []) (r : ρ) :
    l.count (.take r) = l.count (.give r) := by
  simpa using count_of_held hl r

end Nesting
