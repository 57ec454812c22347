/-
# Directories that never reuse a name

A directory holds items under names.  It takes the names from a counter, up to a
limit, and an item that leaves the directory leaves its name behind (`Dir.apply`).

What a directory holds can therefore be read off the log of what was published in it
and retracted from it.  The names published are the numbers from one on, in order
(`Log.names_eq`); a name is held by the item that was published under it until it is
retracted, and never again (`Log.entry_iff`); and no name is retracted twice
(`Log.nodup_retracted`).
-/

import Mathlib.Data.List.Nodup
import Mathlib.Logic.Function.Basic

namespace Directory

universe u

variable {α : Type u} {limit : ℕ}

/-- What is held under each name, and the name that is given next. -/
structure Dir (α : Type u) where
  entry : ℕ → Option α
  next : ℕ

/-- An item gets a name, or a name is given up. -/
inductive Event (α : Type u)
  | publish (name : ℕ) (item : α)
  | retract (name : ℕ)
  deriving DecidableEq

namespace Event

/-- The item that the event publishes, under its name. -/
def published : Event α → Option (ℕ × α)
  | .publish n a => some (n, a)
  | .retract _ => none

/-- The name that the event retracts. -/
def retracted : Event α → Option ℕ
  | .publish _ _ => none
  | .retract n => some n

end Event

namespace Dir

/-- The empty directory, whose names start at one. -/
def empty : Dir α := ⟨fun _ => none, 1⟩

/-- An event takes place: an item is published under the next name, or the item under
some name is retracted. -/
def apply (limit : ℕ) (D : Dir α) : Event α → Option (Dir α)
  | .publish n a =>
      if n = D.next ∧ n ≤ limit then some ⟨Function.update D.entry n (some a), n + 1⟩ else none
  | .retract n =>
      if (D.entry n).isSome then some { D with entry := Function.update D.entry n none } else none

variable {D D' : Dir α} {n : ℕ} {a : α}

/-- An item is published under the next name, if one is left. -/
theorem apply_publish (h : D.apply limit (.publish n a) = some D') :
    n = D.next ∧ n ≤ limit ∧ D' = ⟨Function.update D.entry n (some a), n + 1⟩ := by
  simp only [apply] at h
  split at h
  · rename_i hn
    exact ⟨hn.1, hn.2, (Option.some.inj h).symm⟩
  · exact absurd h (by simp)

/-- Only a name that is in use can be retracted. -/
theorem apply_retract (h : D.apply limit (.retract n) = some D') :
    (∃ b, D.entry n = some b) ∧ D' = { D with entry := Function.update D.entry n none } := by
  simp only [apply] at h
  split at h
  · rename_i hn
    exact ⟨Option.isSome_iff_exists.1 hn, (Option.some.inj h).symm⟩
  · exact absurd h (by simp)

end Dir

/-- The events `l` lead from the empty directory to `D`. -/
inductive Log (limit : ℕ) : List (Event α) → Dir α → Prop
  | nil : Log limit [] .empty
  | snoc {l : List (Event α)} {D D' : Dir α} {e : Event α} :
      Log limit l D → D.apply limit e = some D' → Log limit (l ++ [e]) D'

/-- The publications of a log, each with its name. -/
def publications (l : List (Event α)) : List (ℕ × α) := l.filterMap Event.published

/-- The names given, in order. -/
def names (l : List (Event α)) : List ℕ := (publications l).map Prod.fst

/-- The names retracted, in order. -/
def retractions (l : List (Event α)) : List ℕ := l.filterMap Event.retracted

section append

variable (l : List (Event α)) (n : ℕ) (a : α)

/-- A publication is the last of the publications. -/
@[simp]
theorem publications_publish : publications (l ++ [.publish n a]) = publications l ++ [(n, a)] := by
  simp [publications, Event.published]

/-- A retraction publishes nothing. -/
@[simp]
theorem publications_retract : publications (l ++ [.retract n]) = publications l := by
  simp [publications, Event.published]

/-- A publication retracts nothing. -/
@[simp]
theorem retractions_publish : retractions (l ++ [.publish n a]) = retractions l := by
  simp [retractions, Event.retracted]

/-- A retraction is the last of the retractions. -/
@[simp]
theorem retractions_retract : retractions (l ++ [.retract n]) = retractions l ++ [n] := by
  simp [retractions, Event.retracted]

end append

namespace Log

variable {l : List (Event α)} {D : Dir α} {n : ℕ} {a : α}

/-- Names start at one. -/
theorem next_pos (h : Log limit l D) : 0 < D.next := by
  induction h with
  | nil => exact Nat.one_pos
  | @snoc l D D' e _ he ih =>
      cases e with
      | publish n a =>
          obtain ⟨-, -, rfl⟩ := Dir.apply_publish he
          exact Nat.succ_pos n
      | retract n =>
          obtain ⟨-, rfl⟩ := Dir.apply_retract he
          exact ih

/-- The next name is at most one beyond the limit. -/
theorem next_le (h : Log limit l D) : D.next ≤ limit + 1 := by
  induction h with
  | nil => exact Nat.succ_le_succ (Nat.zero_le limit)
  | @snoc l D D' e _ he ih =>
      cases e with
      | publish n a =>
          obtain ⟨-, hle, rfl⟩ := Dir.apply_publish he
          exact Nat.succ_le_succ hle
      | retract n =>
          obtain ⟨-, rfl⟩ := Dir.apply_retract he
          exact ih

/-- **The names given** are all those below the next one, in order. -/
theorem names_eq (h : Log limit l D) : names l = List.range' 1 (D.next - 1) := by
  induction h with
  | nil => rfl
  | @snoc l D D' e hl he ih =>
      cases e with
      | publish n a =>
          obtain ⟨rfl, -, rfl⟩ := Dir.apply_publish he
          have hpos := hl.next_pos
          have hsplit : D.next + 1 - 1 = (D.next - 1) + 1 := by omega
          have hlast : 1 + 1 * (D.next - 1) = D.next := by omega
          rw [names, publications_publish, List.map_append, ← names, ih, hsplit, List.range'_concat,
            hlast]
          rfl
      | retract n =>
          obtain ⟨-, rfl⟩ := Dir.apply_retract he
          rwa [names, publications_retract]

/-- The names given so far are those below the next one. -/
theorem mem_names (h : Log limit l D) : n ∈ names l ↔ 1 ≤ n ∧ n < D.next := by
  have hpos := h.next_pos
  rw [h.names_eq, List.mem_range'_1]
  omega

/-- **No name is given twice**, and later names are greater. -/
theorem pairwise_names (h : Log limit l D) : (names l).Pairwise (· < ·) := by
  rw [h.names_eq]
  exact List.pairwise_lt_range' 1

/-- A published name is below the next one. -/
theorem lt_next (h : Log limit l D) (hp : (n, a) ∈ publications l) : n < D.next :=
  (h.mem_names.1 (List.mem_map.2 ⟨(n, a), hp, rfl⟩)).2

/-- What the directory holds was published under its name. -/
theorem entry_published (h : Log limit l D) (hn : D.entry n = some a) : (n, a) ∈ publications l := by
  induction h with
  | nil => exact absurd hn (by simp [Dir.empty])
  | @snoc l D D' e _ he ih =>
      cases e with
      | publish m b =>
          obtain ⟨-, -, rfl⟩ := Dir.apply_publish he
          rw [publications_publish]
          rcases eq_or_ne n m with rfl | hne
          · obtain rfl : b = a := by simpa using hn
            simp
          · exact List.mem_append_left _ (ih (by simpa [hne] using hn))
      | retract m =>
          obtain ⟨-, rfl⟩ := Dir.apply_retract he
          rw [publications_retract]
          rcases eq_or_ne n m with rfl | hne
          · exact absurd hn (by simp)
          · exact ih (by simpa [hne] using hn)

/-- What was retracted had been published. -/
theorem retracted_published (h : Log limit l D) (hn : n ∈ retractions l) : n ∈ names l := by
  induction h with
  | nil => exact absurd hn (by simp [retractions])
  | @snoc l D D' e hl he ih =>
      cases e with
      | publish m b =>
          rw [retractions_publish] at hn
          rw [names, publications_publish, List.map_append]
          exact List.mem_append_left _ (ih hn)
      | retract m =>
          obtain ⟨⟨b, hb⟩, -⟩ := Dir.apply_retract he
          rw [retractions_retract, List.mem_append, List.mem_singleton] at hn
          rw [names, publications_retract]
          rcases hn with hn | rfl
          · exact ih hn
          · exact List.mem_map.2 ⟨(n, b), hl.entry_published hb, rfl⟩

/-- **An item is held from its publication to its retraction**, under its own name. -/
theorem entry_iff (h : Log limit l D) :
    D.entry n = some a ↔ (n, a) ∈ publications l ∧ n ∉ retractions l := by
  induction h with
  | nil => simp [Dir.empty, publications]
  | @snoc l D D' e hl he ih =>
      cases e with
      | publish m b =>
          obtain ⟨rfl, -, rfl⟩ := Dir.apply_publish he
          rw [publications_publish, retractions_publish, List.mem_append, List.mem_singleton]
          rcases eq_or_ne n D.next with rfl | hne
          · -- the name is new: nothing was published or retracted under it
            have hnew : (D.next, a) ∉ publications l := fun hp => absurd (hl.lt_next hp) (by omega)
            have hkept : D.next ∉ retractions l := fun hr =>
              absurd (hl.mem_names.1 (hl.retracted_published hr)).2 (by omega)
            simp [hnew, hkept, eq_comm]
          · simp [hne, ih]
      | retract m =>
          obtain ⟨-, rfl⟩ := Dir.apply_retract he
          rw [publications_retract, retractions_retract, List.mem_append, List.mem_singleton]
          rcases eq_or_ne n m with rfl | hne
          · simp
          · simp [hne, ih]

/-- **No name is retracted twice.** -/
theorem nodup_retracted (h : Log limit l D) : (retractions l).Nodup := by
  induction h with
  | nil => exact List.nodup_nil
  | @snoc l D D' e hl he ih =>
      cases e with
      | publish m b => rwa [retractions_publish]
      | retract m =>
          obtain ⟨⟨b, hb⟩, -⟩ := Dir.apply_retract he
          rw [retractions_retract, List.nodup_append]
          refine ⟨ih, List.nodup_singleton m, fun x hx y hy => ?_⟩
          rintro rfl
          obtain rfl := List.mem_singleton.1 hy
          exact (hl.entry_iff.1 hb).2 hx

end Log

end Directory
