/-
# References held by the agents of a pool

Agents that take turns hold references between their turns: what all of them hold
together is the sum of what each says it holds (`pool`).  An agent that takes its turn is split
off from the others (`pool_split`), and takes its place among them again with what it holds
afterwards (`pool_set`), so a turn keeps the books of the pool if it keeps its agent's own.
-/

import VirtUsb.Lib.RefCount

namespace RefCount

universe u

variable {α : Type u} {held : α → List ℕ} {agents : List α} {i : ℕ} {a a' : α} {k : ℕ}

/-- What the agents hold together, one reference for each entry. -/
def pool (held : α → List ℕ) (agents : List α) : ℕ → ℕ := tally (agents.flatMap held)

/-- One reference counts once. -/
@[simp]
theorem tally_singleton (k : ℕ) : tally [k] = Pi.single k 1 := by
  rw [tally_cons, tally_nil, zero_add]

/-- One more agent adds what it holds. -/
theorem pool_cons (a : α) (agents : List α) :
    pool held (a :: agents) = pool held agents + tally (held a) := by
  rw [pool, List.flatMap_cons, tally_append, add_comm]
  rfl

/-- An agent that joins brings what it holds. -/
theorem pool_concat (agents : List α) (a : α) :
    pool held (agents ++ [a]) = pool held agents + tally (held a) := by
  rw [pool, List.flatMap_append, tally_append, List.flatMap_singleton]
  rfl

/-- What one agent holds, and what the others do. -/
theorem pool_split (ha : agents[i]? = some a) :
    pool held agents = pool held (agents.eraseIdx i) + tally (held a) := by
  obtain ⟨hi, rfl⟩ := List.getElem?_eq_some_iff.1 ha
  rw [← pool_cons]
  exact tally_perm ((List.getElem_cons_eraseIdx_perm hi).symm.flatMap_right held)

/-- After its turn an agent holds something else, and the others what they held. -/
theorem pool_set (ha : agents[i]? = some a) (a' : α) :
    pool held (agents.set i a') = pool held (agents.eraseIdx i) + tally (held a') := by
  obtain ⟨hi, -⟩ := List.getElem?_eq_some_iff.1 ha
  have hset : (agents.set i a')[i]? = some a' := by simp [hi]
  rw [pool_split hset, List.eraseIdx_set_eq]

/-- What the pool is owed nothing of, no agent holds. -/
theorem pool_eq_zero : pool held agents k = 0 ↔ ∀ a ∈ agents, k ∉ held a := by
  rw [pool, tally, List.count_eq_zero]
  simp

end RefCount
