/-
# Reference counts

A store counts the references to its objects.  New objects get the names from `next`
on and one reference, and an object is freed by the `put` that takes its count to
zero (`Store.alloc`, `Store.get`, `Store.put`).

Who owns the references is not the business of the store: `owed k` says how many its
users have to object `k`.  The books balance (`Balanced`) when every count is what is
owed, and every object to which nothing is owed was freed, once, and no other.  Each
operation keeps this if its user accounts for the reference it takes or gives up, and
a reference that changes hands is an equation between two sums (`Balanced.of_eq`).
-/

import Mathlib.Algebra.BigOperators.Group.Finset.Basic
import Mathlib.Algebra.Group.Pi.Lemmas
import Mathlib.Algebra.GroupWithZero.Nat
import Mathlib.Data.List.Count

namespace RefCount

/-- The counts, the name of the next object, and the objects freed, in order. -/
structure Store where
  count : ℕ → ℕ
  next : ℕ
  freed : List ℕ

namespace Store

variable (s : Store) (k : ℕ)

/-- A new object under the next name, with one reference. -/
def alloc : Store := { s with count := Function.update s.count s.next 1, next := s.next + 1 }

/-- One more reference to object `k`. -/
def get : Store := { s with count := Function.update s.count k (s.count k + 1) }

/-- One reference less; the last one frees the object. -/
def put : Store :=
  { s with
    count := Function.update s.count k (s.count k - 1)
    freed := if s.count k = 1 then s.freed ++ [k] else s.freed }

end Store

/-- Every count is what is owed, and exactly the objects that are owed nothing were
freed, each of them once. -/
structure Balanced (s : Store) (owed : ℕ → ℕ) : Prop where
  count : s.count = owed
  unborn : ∀ k, s.next ≤ k → owed k = 0 ∧ k ∉ s.freed
  freed : ∀ k, k < s.next → s.freed.count k = if owed k = 0 then 1 else 0

namespace Balanced

variable {s : Store} {owed owed' : ℕ → ℕ} {k : ℕ}

/-- References that change hands leave the sum of what is owed. -/
theorem of_eq (hb : Balanced s owed) (h : owed = owed') : Balanced s owed' := h ▸ hb

/-- What is owed exists. -/
theorem lt_next (hb : Balanced s owed) (hk : 0 < owed k) : k < s.next := by
  by_contra hle
  exact absurd (hb.unborn k (Nat.not_lt.1 hle)).1 (Nat.ne_of_gt hk)

/-- **Objects that were freed** are those that exist and are owed nothing. -/
theorem mem_freed (hb : Balanced s owed) : k ∈ s.freed ↔ k < s.next ∧ owed k = 0 := by
  constructor
  · intro hmem
    have hlt : k < s.next := by
      by_contra hle
      exact (hb.unborn k (Nat.not_lt.1 hle)).2 hmem
    refine ⟨hlt, ?_⟩
    by_contra hne
    have hcount := hb.freed k hlt
    rw [if_neg hne] at hcount
    exact List.count_eq_zero.1 hcount hmem
  · rintro ⟨hlt, hzero⟩
    have hcount := hb.freed k hlt
    rw [if_pos hzero] at hcount
    exact List.count_pos_iff.1 (hcount ▸ Nat.one_pos)

/-- **No object is freed twice.** -/
theorem nodup_freed (hb : Balanced s owed) : s.freed.Nodup := by
  rw [List.nodup_iff_count_le_one]
  intro k
  by_cases hlt : k < s.next
  · rw [hb.freed k hlt]
    split <;> omega
  · rw [List.count_eq_zero.2 (hb.unborn k (Nat.not_lt.1 hlt)).2]
    exact Nat.zero_le 1

/-- **Allocation.**  Its caller owes the new object the first reference. -/
theorem alloc (hb : Balanced s owed) : Balanced s.alloc (owed + Pi.single s.next 1) := by
  obtain ⟨hnew, hfreed⟩ := hb.unborn s.next (Nat.le_refl _)
  refine ⟨?_, fun k hk => ?_, fun k hk => ?_⟩
  · funext k
    rcases eq_or_ne k s.next with rfl | hne
    · simp [Store.alloc, hnew]
    · simp [Store.alloc, hne, hb.count]
  · have hlt : s.next < k := hk
    obtain ⟨hzero, hmem⟩ := hb.unborn k (Nat.le_of_lt hlt)
    have hne : k ≠ s.next := Nat.ne_of_gt hlt
    exact ⟨by simp [hzero, hne], hmem⟩
  · have hle : k ≤ s.next := Nat.lt_succ_iff.1 hk
    rcases eq_or_ne k s.next with rfl | hne
    · simpa [Store.alloc, List.count_eq_zero] using hfreed
    · simpa [Store.alloc, hne] using hb.freed k (Nat.lt_of_le_of_ne hle hne)

/-- A reference may be taken by whoever knows of one. -/
theorem get (hb : Balanced s owed) (hk : 0 < owed k) :
    Balanced (s.get k) (owed + Pi.single k 1) := by
  have hlt := hb.lt_next hk
  refine ⟨?_, fun j hj => ?_, fun j hj => ?_⟩
  · funext j
    rcases eq_or_ne j k with rfl | hne
    · simp [Store.get, hb.count]
    · simp [Store.get, hne, hb.count]
  · have hne : j ≠ k := Nat.ne_of_gt (Nat.lt_of_lt_of_le hlt hj)
    obtain ⟨hzero, hmem⟩ := hb.unborn j hj
    exact ⟨by simp [hzero, hne], hmem⟩
  · rcases eq_or_ne j k with rfl | hne
    · have hcount := hb.freed j hlt
      rw [if_neg (Nat.ne_of_gt hk)] at hcount
      simpa [Store.get] using hcount
    · simpa [Store.get, hne] using hb.freed j hj

/-- **A reference that is given up frees its object if it was the last.** -/
theorem put (hb : Balanced s (owed + Pi.single k 1)) : Balanced (s.put k) owed := by
  have hcount : ∀ j, s.count j = owed j + (Pi.single k 1 : ℕ → ℕ) j := fun j =>
    congrFun hb.count j
  have hself : s.count k = owed k + 1 := by simpa using hcount k
  have hlt : k < s.next := hb.lt_next (by simp)
  have hother : ∀ j, j ≠ k → (owed + Pi.single k 1 : ℕ → ℕ) j = owed j := fun j hne => by
    simp [hne]
  refine ⟨?_, fun j hj => ?_, fun j hj => ?_⟩
  · funext j
    rcases eq_or_ne j k with rfl | hne
    · simp [Store.put, hself]
    · simp [Store.put, hne, hcount]
  · have hne : j ≠ k := Nat.ne_of_gt (Nat.lt_of_lt_of_le hlt hj)
    obtain ⟨hzero, hmem⟩ := hb.unborn j hj
    rw [hother j hne] at hzero
    refine ⟨hzero, ?_⟩
    rw [Store.put]
    dsimp only
    split
    · simpa [hne] using hmem
    · exact hmem
  · have hfreed := hb.freed j hj
    rcases eq_or_ne j k with rfl | hne
    · rw [if_neg (by simp)] at hfreed
      rw [Store.put]
      dsimp only
      rw [hself]
      by_cases hzero : owed j = 0
      · simp [hzero, hfreed]
      · simp [hzero, hfreed]
    · rw [hother j hne] at hfreed
      rw [← hfreed, Store.put]
      dsimp only
      split
      · rw [List.count_append, List.count_singleton]
        simp [hne.symm]
      · rfl

end Balanced

/-! ### References held by the entries of a list -/

/-- One reference for each entry. -/
def tally (l : List ℕ) : ℕ → ℕ := fun k => l.count k

/-- No references. -/
@[simp]
theorem tally_nil : tally [] = 0 := rfl

/-- One more reference in a list. -/
theorem tally_cons (k : ℕ) (l : List ℕ) : tally (k :: l) = tally l + Pi.single k 1 := by
  funext j
  rcases eq_or_ne j k with rfl | hne
  · simp [tally]
  · simp [tally, hne, hne.symm]

/-- The order of references does not matter. -/
theorem tally_perm {l l' : List ℕ} (hp : l.Perm l') : tally l = tally l' :=
  funext fun k => hp.count_eq k

/-- One more reference at the end. -/
theorem tally_append_singleton (l : List ℕ) (k : ℕ) :
    tally (l ++ [k]) = tally l + Pi.single k 1 := by
  rw [← tally_cons]
  exact tally_perm (List.perm_append_singleton k l)

/-- An entry that leaves a list gives up its reference. -/
theorem tally_map_erase {α : Type*} [BEq α] [LawfulBEq α] (f : α → ℕ) {l : List α} {x : α}
    (hx : x ∈ l) : tally (l.map f) = tally ((l.erase x).map f) + Pi.single (f x) 1 := by
  rw [← tally_cons, ← List.map_cons]
  exact tally_perm ((List.perm_cons_erase hx).map f)

/-- The references of two lists add up. -/
theorem tally_append (l l' : List ℕ) : tally (l ++ l') = tally l + tally l' :=
  funext fun _ => List.count_append

/-- The references of one agent of a pool, and those of the others. -/
theorem tally_filterMap {α : Type*} (f : α → Option ℕ) {l : List α} {i : ℕ} {a : α}
    (ha : l[i]? = some a) :
    tally (l.filterMap f) = tally ((l.eraseIdx i).filterMap f) + tally (f a).toList := by
  obtain ⟨hi, rfl⟩ := List.getElem?_eq_some_iff.1 ha
  have hperm := (List.getElem_cons_eraseIdx_perm hi).symm.filterMap f
  rw [tally_perm hperm, List.filterMap_cons, ← tally_append]
  rcases f l[i] with _ | k
  · simp
  · exact tally_perm (List.perm_append_singleton k _).symm

/-- The entries of a list, counted with weights. -/
theorem sum_tally_mul {l : List ℕ} {n : ℕ} (hl : ∀ k ∈ l, k < n) (f : ℕ → ℕ) :
    ∑ k ∈ Finset.range n, tally l k * f k = (l.map f).sum := by
  induction l with
  | nil => simp
  | cons a l ih =>
      have hrest := ih fun k hk => hl k (List.mem_cons_of_mem a hk)
      have ha := Finset.mem_range.2 (hl a List.mem_cons_self)
      simp only [tally_cons, Pi.add_apply, Nat.add_mul, Finset.sum_add_distrib, hrest, List.map_cons,
        List.sum_cons]
      rw [Finset.sum_eq_single a (fun k _ hk => by simp [hk]) (fun hn => absurd ha hn)]
      rw [Pi.single_eq_same, Nat.one_mul, Nat.add_comm]

/-- As many entries pass a test as the sum of their indicators says. -/
theorem sum_indicator {α : Type*} (l : List α) (p : α → Prop) [DecidablePred p] :
    (l.map fun x => if p x then 1 else 0).sum = l.countP p := by
  induction l with
  | nil => rfl
  | cons a l ih =>
      rw [List.map_cons, List.sum_cons, ih, List.countP_cons, Nat.add_comm]
      simp only [decide_eq_true_eq]

/-- A sum of which one term changed. -/
theorem sum_of_change {ι M : Type*} [DecidableEq ι] [AddCommMonoid M] {s : Finset ι} {f g : ι → M}
    {i : ι} {x y : M} (hi : i ∈ s) (hother : ∀ j, j ≠ i → g j = f j) (hg : g i + x = f i + y) :
    ∑ j ∈ s, g j + x = ∑ j ∈ s, f j + y := by
  have hrest : ∑ j ∈ s.erase i, g j = ∑ j ∈ s.erase i, f j :=
    Finset.sum_congr rfl fun j hj => hother j (Finset.ne_of_mem_erase hj)
  rw [← Finset.add_sum_erase s g hi, ← Finset.add_sum_erase s f hi, hrest, add_right_comm, hg,
    add_right_comm]

end RefCount
