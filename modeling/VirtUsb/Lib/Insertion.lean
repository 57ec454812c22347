/-
# Lists with one entry more

`Inserts Q a l l'` says that `l'` is `l` with the entry `a` inserted behind entries that
all satisfy `Q`.  Adding an entry at either end, removing another one and looking for one
are the same for both lists, which is how a queue is compared with the queue from which one
entry is out on loan.
-/

import Mathlib.Data.List.Basic

namespace Sequence

universe u

variable {α : Type u}

/-- The second list is the first with `a` inserted, behind entries with `Q` only. -/
def Inserts (Q : α → Prop) (a : α) (l l' : List α) : Prop :=
  ∃ pre post, l = pre ++ post ∧ l' = pre ++ a :: post ∧ ∀ x ∈ pre, Q x

namespace Inserts

variable {Q : α → Prop} {a x : α} {l l' : List α}

/-- What stands before the new entry may be said more weakly. -/
theorem mono (h : Inserts Q a l l') {Q' : α → Prop} (hQ : ∀ x, Q x → Q' x) : Inserts Q' a l l' := by
  obtain ⟨pre, post, hl, hl', hpre⟩ := h
  exact ⟨pre, post, hl, hl', fun x hx => hQ x (hpre x hx)⟩

/-- An entry at the end of a list whose entries all have `Q`. -/
theorem concat (hl : ∀ x ∈ l, Q x) : Inserts Q a l (l ++ [a]) :=
  ⟨l, [], (List.append_nil l).symm, rfl, hl⟩

/-- An insertion into a list is one into a longer list. -/
theorem append (h : Inserts Q a l l') (k : List α) : Inserts Q a (l ++ k) (l' ++ k) := by
  obtain ⟨pre, post, rfl, rfl, hpre⟩ := h
  exact ⟨pre, post ++ k, by simp, by simp, hpre⟩

/-- An insertion behind one more entry. -/
theorem cons (h : Inserts Q a l l') (hx : Q x) : Inserts Q a (x :: l) (x :: l') := by
  obtain ⟨pre, post, rfl, rfl, hpre⟩ := h
  refine ⟨x :: pre, post, rfl, rfl, fun y hy => ?_⟩
  rcases List.mem_cons.1 hy with rfl | hy
  · exact hx
  · exact hpre y hy

/-- The entries after the insertion. -/
theorem mem_iff (h : Inserts Q a l l') : x ∈ l' ↔ x = a ∨ x ∈ l := by
  obtain ⟨pre, post, rfl, rfl, -⟩ := h
  simp only [List.mem_append, List.mem_cons]
  tauto

/-- The other entries are the same ones. -/
theorem mem_of_ne (h : Inserts Q a l l') (hx : x ≠ a) : x ∈ l ↔ x ∈ l' := by
  rw [h.mem_iff]
  exact ⟨.inr, fun hx' => hx'.resolve_left hx⟩

/-- There is one entry more. -/
theorem length_eq (h : Inserts Q a l l') : l'.length = l.length + 1 := by
  obtain ⟨pre, post, rfl, rfl, -⟩ := h
  simp only [List.length_append, List.length_cons]
  omega

/-- Looking for an entry that `a` is not. -/
theorem find? (h : Inserts Q a l l') {p : α → Bool} (ha : p a = false) :
    l.find? p = l'.find? p := by
  obtain ⟨pre, post, rfl, rfl, -⟩ := h
  simp [List.find?_append, ha]

/-- What is found first is inserted behind entries that are not looked for. -/
theorem of_find? [DecidableEq α] {p : α → Bool} (h : l'.find? p = some a) :
    Inserts (fun x => p x = false) a (l'.erase a) l' := by
  obtain ⟨ha, pre, post, rfl, hpre⟩ := List.find?_eq_some_iff_append.1 h
  have hnot : a ∉ pre := fun hmem => absurd ha (by simpa using hpre a hmem)
  refine ⟨pre, post, ?_, rfl, fun x hx => by simpa using hpre x hx⟩
  rw [List.erase_append_right _ hnot, List.erase_cons_head]

/-- Erasing another entry and inserting are independent of each other. -/
theorem erase [DecidableEq α] (h : Inserts Q a l l') (hx : x ≠ a) :
    Inserts Q a (l.erase x) (l'.erase x) := by
  obtain ⟨pre, post, rfl, rfl, hpre⟩ := h
  by_cases hmem : x ∈ pre
  · rw [List.erase_append_left _ hmem, List.erase_append_left _ hmem]
    exact ⟨_, post, rfl, rfl, fun y hy => hpre y (List.mem_of_mem_erase hy)⟩
  · have hne : ¬ (a == x) = true := by simpa using hx.symm
    rw [List.erase_append_right _ hmem, List.erase_append_right _ hmem,
      List.erase_cons_tail hne]
    exact ⟨pre, _, rfl, rfl, hpre⟩

/-- Without the inserted entry it is the first list again. -/
theorem erase_self [DecidableEq α] (h : Inserts (· ≠ a) a l l') : l'.erase a = l := by
  obtain ⟨pre, post, rfl, rfl, hpre⟩ := h
  rw [List.erase_append_right _ fun hmem => hpre a hmem rfl, List.erase_cons_head]

/-- At the front, the inserted entry is where it was among the entries without `Q`. -/
theorem filter_cons (h : Inserts Q a l l') {p : α → Bool}
    (hQ : ∀ x, Q x → p a = true → p x = false) :
    (a :: l).filter p = l'.filter p := by
  obtain ⟨pre, post, rfl, rfl, hpre⟩ := h
  by_cases ha : p a = true
  · have hnone : pre.filter p = [] := List.filter_eq_nil_iff.2 fun x hx => by
      simp [hQ x (hpre x hx) ha]
    simp [List.filter_append, hnone, ha]
  · simp [List.filter_append, ha]

/-- Mapped, the two lists differ by the new entry, up to order. -/
theorem map_perm {β : Type*} (h : Inserts Q a l l') (f : α → β) :
    (l'.map f).Perm (f a :: l.map f) := by
  obtain ⟨pre, post, rfl, rfl, -⟩ := h
  simp only [List.map_append, List.map_cons]
  exact List.perm_middle

end Inserts

end Sequence
