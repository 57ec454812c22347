/-
# How long a job waits

A lease takes the first waiting job of its resource, so a job waits for those before it
only (`State.ahead`).  Nothing but a restoration puts a job before one that waits, and each lease
of its resource takes one of those before it away (`Step.ahead_add_le`).
-/

import VirtUsb.Lib.WorkQueue.Routing

namespace WorkQueue

universe u

variable {κ τ ρ γ : Type u}

namespace Event

variable [DecidableEq ρ]

/-- The event leases a job of the resource. -/
def leases (r : ρ) : Event κ τ ρ γ → Bool
  | .leased _ job => job.resource = r
  | _ => false

/-- The event restores a job of the resource. -/
def restores (r : ρ) : Event κ τ ρ γ → Bool
  | .restored _ job => job.resource = r
  | _ => false

end Event

/-! ### The entries before an entry -/

/-- The entries with the property that are before `x`. -/
def before {α : Type u} [DecidableEq α] (p : α → Bool) (x : α) (l : List α) : ℕ :=
  (l.takeWhile fun y => y ≠ x).countP p

section Before

variable {α : Type u} [DecidableEq α] {p : α → Bool} {x y : α} {l : List α}

/-- The entries before `x`, one entry at a time. -/
theorem before_cons (p : α → Bool) (x y : α) (l : List α) :
    before p x (y :: l) = if y = x then 0 else before p x l + if p y then 1 else 0 := by
  rw [before, List.takeWhile_cons]
  by_cases hy : y = x
  · simp [hy]
  · simp [hy, before, List.countP_cons]

/-- The count follows an injective map. -/
theorem before_map {β : Type u} [DecidableEq β] {f : α → β} (hf : Function.Injective f)
    (p : β → Bool) (x : α) (l : List α) : before p (f x) (l.map f) = before (p ∘ f) x l := by
  induction l with
  | nil => rfl
  | cons y l ih =>
      rw [List.map_cons, before_cons, before_cons, ih]
      exact if_congr hf.eq_iff rfl rfl

/-- What stands behind `x` does not count. -/
theorem before_append (hx : x ∈ l) (m : List α) : before p x (l ++ m) = before p x l := by
  induction l with
  | nil => exact absurd hx List.not_mem_nil
  | cons y l ih =>
      rw [List.cons_append, before_cons, before_cons]
      by_cases hy : y = x
      · simp only [if_pos hy]
      · rw [ih ((List.mem_cons.1 hx).resolve_left (Ne.symm hy))]

/-- Erasing another entry puts nothing before `x`. -/
theorem before_erase_le (hy : y ≠ x) : before p x (l.erase y) ≤ before p x l := by
  induction l with
  | nil => exact le_rfl
  | cons z l ih =>
      rw [List.erase_cons]
      split
      · rename_i hz
        obtain rfl : z = y := beq_iff_eq.1 hz
        rw [before_cons, if_neg hy]
        exact Nat.le_add_right _ _
      · rw [before_cons, before_cons]
        split
        · exact le_rfl
        · exact Nat.add_le_add_right ih _

/-- The first entry with the property is before all others that have it. -/
theorem before_erase_find (hf : l.find? p = some y) (hx : x ∈ l) (hpx : p x = true) (hy : y ≠ x) :
    before p x (l.erase y) + 1 = before p x l := by
  induction l with
  | nil => exact absurd hx List.not_mem_nil
  | cons z l ih =>
      rw [List.find?_cons] at hf
      split at hf
      · rename_i hz
        obtain rfl := Option.some.inj hf
        rw [List.erase_cons_head, before_cons, if_neg hy, if_pos hz]
      · rename_i hz
        have hne : z ≠ x := by
          rintro rfl
          exact absurd (hpx.symm.trans hz) (by simp)
        have hzy : z ≠ y := by
          rintro rfl
          exact absurd (List.find?_some hf) (by simp [hz])
        have hrest := ih hf ((List.mem_cons.1 hx).resolve_left (Ne.symm hne))
        rw [List.erase_cons_tail (by simpa using hzy), before_cons, before_cons, if_neg hne,
          if_neg hne, if_neg (by simp [hz]), Nat.add_zero, Nat.add_zero]
        exact hrest

/-- An entry with the property that has none before it is the first one. -/
theorem find_of_before (hx : x ∈ l) (hpx : p x = true) (hb : before p x l = 0) :
    l.find? p = some x := by
  rcases hf : l.find? p with _ | y
  · exact absurd hpx (List.find?_eq_none.1 hf x hx)
  · rcases eq_or_ne y x with rfl | hne
    · rfl
    · have hbefore := before_erase_find hf hx hpx hne
      omega

end Before

variable [DecidableEq κ] [DecidableEq τ] [DecidableEq ρ] [DecidableEq γ]

/-- The waiting jobs that are leased before a job of the same resource. -/
def State.ahead (s : State κ τ ρ γ) (job : Job κ τ ρ γ) : ℕ :=
  before (fun j => j.resource = job.resource) job s.waiting

variable {s s' : State κ τ ρ γ} {job : Job κ τ ρ γ}

/-- **A step puts nothing before a waiting job**, but for a restoration, and a lease takes
away what was before it. -/
theorem Step.ahead_add_le {e : Option (Event κ τ ρ γ)} (h : Step s e s')
    (hnodup : s.waiting.Nodup) (hj : job ∈ s.waiting) (hj' : job ∈ s'.waiting) :
    s'.ahead job + (if e.any (Event.leases job.resource) then 1 else 0) ≤
      s.ahead job + if e.any (Event.restores job.resource) then 1 else 0 := by
  have hremove : ∀ other : Job κ τ ρ γ, job ∈ (s.remove other).waiting →
      (s.remove other).ahead job ≤ s.ahead job := by
    intro other hmem
    rw [State.remove] at hmem ⊢
    split
    · rename_i hother
      rw [if_pos hother] at hmem
      refine before_erase_le ?_
      rintro rfl
      exact (hnodup.mem_erase_iff.1 hmem).1 rfl
    · exact le_rfl
  cases h with
  | accept i other _ _ _ =>
      have hsame : before (fun j => j.resource = job.resource) job (s.waiting ++ [other]) =
          s.ahead job := before_append hj _
      exact Nat.le_of_eq hsame
  | lease g other _ hf =>
      have hne : other ≠ job := by
        rintro rfl
        exact (hnodup.mem_erase_iff.1 hj').1 rfl
      have hother := List.find?_some hf
      rw [decide_eq_true_eq] at hother
      by_cases hr : other.resource = job.resource
      · rw [← hother, hr] at hf
        have hbefore := before_erase_find hf hj (by simp) hne
        simpa [State.ahead, Event.leases, Event.restores, hr] using Nat.le_of_eq hbefore
      · simpa [State.ahead, Event.leases, Event.restores, hr] using before_erase_le hne
  | restore i client other _ _ _ =>
      have hcount : before (fun j => j.resource = job.resource) job (other.free :: s.waiting) ≤
          s.ahead job + if other.resource = job.resource then 1 else 0 := by
        rw [before_cons]
        split
        · exact Nat.zero_le _
        · by_cases hr : other.resource = job.resource <;> simp [State.ahead, hr]
      simpa [State.ahead, Event.leases, Event.restores] using hcount
  | take i other _ _ => exact hremove other hj'
  | drain i g other _ _ => exact hremove other hj'
  | empty i other _ _ => exact hremove other hj'
  | _ => exact le_rfl

end WorkQueue
