/-
# Lists that are updated at one place

Facts about `filterMap` over a list one entry of which is replaced, and about
sublists of a list without duplicates: the first are for a pool of agents, each
of which contributes at most one item, the second for queues whose order is
compared with the order in which their entries arrived.
-/

import Mathlib.Algebra.Order.Group.Multiset
import Mathlib.Data.List.Nodup
import Mathlib.Data.List.Perm.Basic

namespace Sequence

universe u v

variable {α : Type u} {β : Type v}

/-! ### A pool with one entry replaced -/

/-- Replacing an entry of a list exchanges its contribution to a `filterMap`. -/
theorem filterMap_set_add (f : α → Option β) (b : α) :
    ∀ {l : List α} {i : ℕ} {a : α}, l[i]? = some a →
      ((l.set i b).filterMap f : Multiset β) + (f a).toList =
        (l.filterMap f : Multiset β) + (f b).toList
  | [], _, _, h => by simp at h
  | x :: l, 0, a, h => by
      obtain rfl : x = a := by simpa using h
      rw [List.set_cons_zero, List.filterMap_cons, List.filterMap_cons]
      cases f x <;> cases f b <;>
        simp [← Multiset.cons_coe, ← Multiset.singleton_add, add_comm, add_left_comm, add_assoc]
  | x :: l, i + 1, a, h => by
      have ih := filterMap_set_add f b (l := l) (i := i) (a := a) (by simpa using h)
      rw [List.set_cons_succ, List.filterMap_cons, List.filterMap_cons]
      cases f x with
      | none => exact ih
      | some y => simp only [← Multiset.cons_coe, Multiset.cons_add, ih]

/-- An entry that contributes the same as the one it replaces changes nothing. -/
theorem filterMap_set_eq {f : α → Option β} {b : α} :
    ∀ {l : List α} {i : ℕ} {a : α}, l[i]? = some a → f b = f a →
      (l.set i b).filterMap f = l.filterMap f
  | [], _, _, h, _ => by simp at h
  | x :: l, 0, a, h, hf => by
      obtain rfl : x = a := by simpa using h
      rw [List.set_cons_zero, List.filterMap_cons, List.filterMap_cons, hf]
  | x :: l, i + 1, a, h, hf => by
      rw [List.set_cons_succ, List.filterMap_cons, List.filterMap_cons,
        filterMap_set_eq (l := l) (i := i) (a := a) (by simpa using h) hf]

/-- An entry that contributes nothing is replaced by one that contributes `x`. -/
theorem filterMap_set_of_none {f : α → Option β} {l : List α} {i : ℕ} {a b : α} {x : β}
    (h : l[i]? = some a) (ha : f a = none) (hb : f b = some x) :
    ((l.set i b).filterMap f : Multiset β) = x ::ₘ (l.filterMap f : Multiset β) := by
  have h' := filterMap_set_add f b h
  rw [ha, hb, Option.toList_none, Option.toList_some, Multiset.coe_nil, add_zero,
    Multiset.coe_singleton] at h'
  rw [h', add_comm, Multiset.singleton_add]

/-- An entry that contributes `x` is replaced by one that contributes nothing. -/
theorem filterMap_set_of_some {f : α → Option β} {l : List α} {i : ℕ} {a b : α} {x : β}
    (h : l[i]? = some a) (ha : f a = some x) (hb : f b = none) :
    (l.filterMap f : Multiset β) = x ::ₘ ((l.set i b).filterMap f : Multiset β) := by
  have h' := filterMap_set_add f b h
  rw [ha, hb, Option.toList_none, Option.toList_some, Multiset.coe_nil, add_zero,
    Multiset.coe_singleton] at h'
  rw [← h', add_comm, Multiset.singleton_add]

/-- Replacing an entry loses that entry only. -/
theorem mem_set_or {l : List α} {i : ℕ} {a b x : α} (ha : l[i]? = some a) (hx : x ∈ l) :
    x ∈ l.set i b ∨ x = a := by
  obtain ⟨j, hj⟩ := List.mem_iff_getElem?.1 hx
  rcases eq_or_ne i j with rfl | hij
  · exact .inr (Option.some.inj (hj.symm.trans ha))
  · exact .inl (List.mem_iff_getElem?.2 ⟨j, by rw [List.getElem?_set_ne hij, hj]⟩)

/-- What an update keeps of the element it replaces, it keeps of every element. -/
theorem exists_getElem?_set {P : α → Prop} {l : List α} {i j : ℕ} {a b x : α} (ha : l[i]? = some a)
    (hb : P a → P b) (hx : l[j]? = some x) (hP : P x) : ∃ y, (l.set i b)[j]? = some y ∧ P y := by
  rcases eq_or_ne i j with rfl | hij
  · obtain rfl : x = a := Option.some.inj (hx.symm.trans ha)
    exact ⟨b, List.getElem?_set_self (List.getElem?_eq_some_iff.1 ha).1, hb hP⟩
  · exact ⟨x, by rw [List.getElem?_set_ne hij, hx], hP⟩

/-- After a write, an entry is the one written or one from before. -/
theorem getElem?_set_cases {l : List α} {i j : ℕ} {a b x : α} (ha : l[i]? = some a)
    (hx : (l.set i b)[j]? = some x) : (j = i ∧ x = b) ∨ l[j]? = some x := by
  rcases eq_or_ne i j with rfl | hij
  · rw [List.getElem?_set_self (List.getElem?_eq_some_iff.1 ha).1] at hx
    exact .inl ⟨rfl, (Option.some.inj hx).symm⟩
  · exact .inr (List.getElem?_set_ne hij ▸ hx)

/-- After an append, an entry is the last one or one from before. -/
theorem getElem?_concat_cases {l : List α} {j : ℕ} {b x : α} (hx : (l ++ [b])[j]? = some x) :
    (l[j]? = none ∧ x = b) ∨ l[j]? = some x := by
  rw [List.getElem?_append] at hx
  split at hx
  · exact .inr hx
  · rename_i hj
    refine .inl ⟨List.getElem?_eq_none (Nat.le_of_not_lt hj), ?_⟩
    exact (List.mem_singleton.1 (List.mem_of_getElem? hx))

/-- An append leaves the entries where they are. -/
theorem getElem?_concat_of_some {l : List α} {j : ℕ} {x : α} (b : α) (hx : l[j]? = some x) :
    (l ++ [b])[j]? = some x := by
  rw [List.getElem?_append_left (List.getElem?_eq_some_iff.1 hx).1, hx]

/-- Two entries of a pool that contribute the same item are one entry, if the
items are all different. -/
theorem eq_of_filterMap_nodup {f : α → Option β} {l : List α} (h : (l.filterMap f).Nodup)
    {i j : ℕ} {a b : α} {x : β} (hi : l[i]? = some a) (hj : l[j]? = some b)
    (ha : f a = some x) (hb : f b = some x) : i = j := by
  obtain ⟨hil, rfl⟩ := List.getElem?_eq_some_iff.1 hi
  obtain ⟨hjl, rfl⟩ := List.getElem?_eq_some_iff.1 hj
  have hp := List.pairwise_iff_getElem.1 (List.pairwise_filterMap.1 h)
  rcases lt_trichotomy i j with hij | rfl | hij
  · exact absurd rfl (hp i j hil hjl hij x ha x hb)
  · rfl
  · exact absurd rfl (hp j i hjl hil hij x hb x ha)

/-- A write changes the entry at its index only. -/
theorem zipIdx_set (l : List α) (i : ℕ) (b : α) :
    (l.set i b).zipIdx = l.zipIdx.set i (b, i) := by
  refine List.ext_getElem? fun j => ?_
  simp only [List.getElem?_zipIdx, List.getElem?_set, List.length_zipIdx]
  split <;> simp_all

/-- An entry comes with its index. -/
theorem getElem?_zipIdx_of {l : List α} {i : ℕ} {a : α} (h : l[i]? = some a) :
    l.zipIdx[i]? = some (a, i) := by
  simp [List.getElem?_zipIdx, h]

/-- A member of a list, and the rest of it. -/
theorem coe_eq_cons_erase [DecidableEq α] {l : List α} {x : α} (h : x ∈ l) :
    (l : Multiset α) = x ::ₘ (l.erase x : Multiset α) :=
  Multiset.coe_eq_coe.2 (List.perm_cons_erase h)

/-- The first element that passes a test, and the others. -/
theorem filter_of_find [DecidableEq α] {p : α → Bool} {l : List α} {x : α}
    (hx : l.find? p = some x) :
    l.filter p = x :: (l.erase x).filter p ∧
      (l.erase x).filter (fun y => !p y) = l.filter fun y => !p y := by
  obtain ⟨hpx, as, bs, rfl, has⟩ := List.find?_eq_some_iff_append.1 hx
  have hmem : x ∉ as := fun hmem => by simpa [hpx] using has x hmem
  have hnone : as.filter p = [] := List.filter_eq_nil_iff.2 fun y hy => by simpa using has y hy
  rw [List.erase_append_right _ hmem, List.erase_cons_head]
  simp [hnone, hpx]

/-- Erasing an entry that a filter drops anyway. -/
theorem filter_erase_of_neg [DecidableEq α] {p : α → Bool} {x : α} (hx : p x = false) :
    ∀ l : List α, (l.erase x).filter p = l.filter p
  | [] => rfl
  | y :: l => by
      rcases eq_or_ne y x with rfl | hne
      · rw [List.erase_cons_head, List.filter_cons_of_neg (by simp [hx])]
      · rw [List.erase_cons_tail (by simpa using hne), List.filter_cons, List.filter_cons,
          filter_erase_of_neg hx l]

/-! ### Sublists of a list without duplicates -/

/-- In a list without duplicates two entries are in one order only. -/
theorem not_pair_sublist_of_nodup {l : List α} (hl : l.Nodup) {x y : α}
    (h : [x, y].Sublist l) : ¬ [y, x].Sublist l := by
  intro h'
  induction l with
  | nil => simp at h
  | cons z l ih =>
      have hz := (List.nodup_cons.1 hl).1
      rcases List.sublist_cons_iff.1 h with h₁ | ⟨r, hr, h₁⟩
      · rcases List.sublist_cons_iff.1 h' with h₂ | ⟨r', hr', h₂⟩
        · exact ih (List.nodup_cons.1 hl).2 h₁ h₂
        · obtain ⟨rfl, rfl⟩ := List.cons.inj hr'
          exact hz (h₁.subset (by simp))
      · obtain ⟨rfl, rfl⟩ := List.cons.inj hr
        rcases List.sublist_cons_iff.1 h' with h₂ | ⟨r', hr', h₂⟩
        · exact hz (h₂.subset (by simp))
        · obtain ⟨rfl, rfl⟩ := List.cons.inj hr'
          exact hz (List.singleton_sublist.1 h₂)

/-- A sublist of a list that grew by `y` either was one before or ends with `y`. -/
theorem concat_sublist_concat_iff {l w : List α} {x y : α} :
    (w ++ [x]).Sublist (l ++ [y]) ↔ (w ++ [x]).Sublist l ∨ (x = y ∧ w.Sublist l) := by
  constructor
  · intro h
    have h' : (x :: w.reverse).Sublist (y :: l.reverse) := by simpa using h.reverse
    rcases List.sublist_cons_iff.1 h' with h' | ⟨r, hr, h'⟩
    · exact .inl (by simpa using h'.reverse)
    · obtain ⟨rfl, rfl⟩ := List.cons.inj hr
      exact .inr ⟨rfl, by simpa using h'⟩
  · rintro (h | ⟨rfl, h⟩)
    · exact h.trans (List.sublist_append_left l [y])
    · exact h.append (List.Sublist.refl [x])

/-- **A sublist grows at its head exactly by an entry that comes before all of it.** -/
theorem cons_sublist_iff {l w : List α} (hl : l.Nodup) {x : α} (hx : x ∈ l) (hxw : x ∉ w)
    (hw : w.Sublist l) : (x :: w).Sublist l ↔ ∀ y ∈ w, ¬ [y, x].Sublist l := by
  constructor
  · intro h y hy
    exact not_pair_sublist_of_nodup hl (((List.singleton_sublist.2 hy).cons_cons x).trans h)
  · intro h
    obtain ⟨l₁, l₂, rfl⟩ := List.append_of_mem hx
    obtain ⟨w₁, w₂, rfl, h₁, h₂⟩ := List.sublist_append_iff.1 hw
    have hw₁ : w₁ = [] := by
      refine List.eq_nil_iff_forall_not_mem.2 fun y hy => h y (List.mem_append_left _ hy) ?_
      exact (List.singleton_sublist.2 (h₁.subset hy)).append
        (List.singleton_sublist.2 List.mem_cons_self)
    subst hw₁
    rcases List.sublist_cons_iff.1 h₂ with h₂ | ⟨r, rfl, -⟩
    · exact (h₂.cons_cons x).trans (List.sublist_append_right _ _)
    · exact absurd List.mem_cons_self hxw

/-! ### Elements with a given image -/

/-- What occurs once is found once. -/
theorem filter_eq_singleton_of_count {β : Type*} [DecidableEq β] {l : List α} {f : α → β} {b : β}
    (h : (l.map f).count b = 1) : ∃ x, l.filter (fun y => f y = b) = [x] := by
  rw [List.count, List.countP_map, List.countP_eq_length_filter, List.length_eq_one_iff] at h
  obtain ⟨x, hx⟩ := h
  refine ⟨x, ?_⟩
  rw [← hx]
  congr 1

end Sequence
