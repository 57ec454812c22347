/-
# Machines that take one atomic step at a time

A machine is a set of initial states and a labelled step relation.  A `Run`
keeps the state before every step beside the label of the step, so a property
of a whole run is a property of the entries of its history.  The rules below are
the ones a development over a machine needs: an invariant from its step lemma
(`Run.invariant`), the same for the runs whose steps all meet a condition
(`Run.invariant_where`, `Run.forall_visited`), a property that holds since the step that
brought it about (`Run.since`), a bound on the steps of a kind that use up a measure
(`Run.countP_add_le`, `Run.countP_add_le_add`), and the transport of runs along a simulation
(`Simulation.run`).

`Machine.ofFun` is the machine of a partial step function; `exec` runs it on a
list of actions, which is how a concrete run is exhibited, and `restrict` leaves
it only the steps that meet a condition.
-/

import Mathlib.Data.List.Basic
import Mathlib.Data.Nat.Notation
import Mathlib.Logic.Function.Iterate

namespace Transition

universe u v u' v'

/-- Initial states and a labelled step relation. -/
structure Machine (σ : Type u) (α : Type v) where
  init : σ → Prop
  step : σ → α → σ → Prop

variable {σ : Type u} {α : Type v} {M : Machine σ α}

/-- `Run M s h t`: from `s` the machine reaches `t`, and `h` lists the steps
taken, each as the state before it and its label. -/
inductive Run (M : Machine σ α) (s : σ) : List (σ × α) → σ → Prop
  | nil : Run M s [] s
  | snoc {h : List (σ × α)} {t u : σ} {a : α} :
      Run M s h t → M.step t a u → Run M s (h ++ [(t, a)]) u

/-- The states that some run from an initial state ends in. -/
def Machine.Reachable (M : Machine σ α) (t : σ) : Prop :=
  ∃ s h, M.init s ∧ Run M s h t

/-- A step is a run. -/
theorem Run.single {s t : σ} {a : α} (h : M.step s a t) : Run M s [(s, a)] t :=
  Run.snoc .nil h

/-- Two runs after each other. -/
theorem Run.trans {s t u : σ} {h k : List (σ × α)} (hst : Run M s h t) (htu : Run M t k u) :
    Run M s (h ++ k) u := by
  induction htu with
  | nil => rwa [List.append_nil]
  | snoc _ hstep ih =>
      rw [← List.append_assoc]
      exact Run.snoc ih hstep

/-- Initial states are reachable. -/
theorem Machine.Reachable.init {s : σ} (h : M.init s) : M.Reachable s :=
  ⟨s, [], h, .nil⟩

/-- What a run reaches from a reachable state is reachable. -/
theorem Machine.Reachable.run {s t : σ} {h : List (σ × α)} (hs : M.Reachable s)
    (hr : Run M s h t) : M.Reachable t := by
  obtain ⟨s₀, h₀, hi, hr₀⟩ := hs
  exact ⟨s₀, h₀ ++ h, hi, hr₀.trans hr⟩

/-- What a step reaches from a reachable state is reachable. -/
theorem Machine.Reachable.step {s t : σ} {a : α} (hs : M.Reachable s) (h : M.step s a t) :
    M.Reachable t :=
  hs.run (.single h)

/-- Every state recorded in the history of a run is reached by a prefix of it. -/
theorem Run.mem_history {s t : σ} {h : List (σ × α)} (hr : Run M s h t) {x : σ × α}
    (hx : x ∈ h) : ∃ h₁ h₂, h = h₁ ++ x :: h₂ ∧ Run M s h₁ x.1 := by
  induction hr with
  | nil => simp at hx
  | @snoc h t u a hr hstep ih =>
      rcases List.mem_append.1 hx with hx | hx
      · obtain ⟨h₁, h₂, rfl, hr₁⟩ := ih hx
        exact ⟨h₁, h₂ ++ [(t, a)], by simp, hr₁⟩
      · obtain rfl := List.mem_singleton.1 hx
        exact ⟨h, [], rfl, hr⟩

/-- **Invariants of the runs whose steps all meet a condition.** -/
theorem Run.invariant_where {I : σ → Prop} {C : σ → α → Prop}
    (hstep : ∀ s a t, I s → C s a → M.step s a t → I t) {s t : σ} {h : List (σ × α)}
    (hr : Run M s h t) (hs : I s) (hC : ∀ x ∈ h, C x.1 x.2) : I t := by
  induction hr with
  | nil => exact hs
  | @snoc h t u a hr hst ih =>
      refine hstep t a u (ih fun x hx => hC x (List.mem_append_left _ hx)) ?_ hst
      exact hC (t, a) (List.mem_append_right _ (List.mem_singleton_self _))

/-- **Invariants.**  A property kept by every step holds at the end of a run
that starts with it. -/
theorem Run.invariant {I : σ → Prop} (hstep : ∀ s a t, I s → M.step s a t → I t)
    {s t : σ} {h : List (σ × α)} (hr : Run M s h t) (hs : I s) : I t :=
  hr.invariant_where (C := fun _ _ => True) (fun s a t hI _ => hstep s a t hI) hs
    fun _ _ => trivial

/-- **An invariant** that holds initially and that every step keeps holds in every reachable state.
-/
theorem Machine.Reachable.invariant {I : σ → Prop} (hinit : ∀ s, M.init s → I s)
    (hstep : ∀ s a t, I s → M.step s a t → I t) {t : σ} (ht : M.Reachable t) : I t := by
  obtain ⟨s, h, hs, hr⟩ := ht
  exact hr.invariant hstep (hinit s hs)

/-- An invariant proved with the help of one already known of every reachable
state. -/
theorem Machine.Reachable.invariant_of {I J : σ → Prop} (hJ : ∀ s, M.Reachable s → J s)
    (hinit : ∀ s, M.init s → I s) (hstep : ∀ s a t, J s → I s → M.step s a t → I t) {t : σ}
    (ht : M.Reachable t) : I t := by
  refine (Machine.Reachable.invariant (I := fun s => M.Reachable s ∧ I s)
    (fun s hs => ⟨.init hs, hinit s hs⟩) (fun s a t hI hst => ?_) ht).2
  exact ⟨hI.1.step hst, hstep s a t (hJ s hI.1) hI.2 hst⟩

/-- **Steps that use up a measure are bounded by it.**  No step raises `μ`, the
steps marked by `B` lower it: a run has at most `μ s` of them. -/
theorem Run.countP_add_le {I : σ → Prop} {μ : σ → ℕ} {B : σ × α → Bool}
    (hI : ∀ s a t, I s → M.step s a t → I t)
    (hle : ∀ s a t, I s → M.step s a t → μ t ≤ μ s)
    (hlt : ∀ s a t, I s → M.step s a t → B (s, a) = true → μ t < μ s)
    {s t : σ} {h : List (σ × α)} (hr : Run M s h t) (hs : I s) :
    h.countP B + μ t ≤ μ s := by
  induction hr with
  | nil => simp
  | @snoc h t u a hr hst ih =>
      have hIt : I t := hr.invariant hI hs
      rw [List.countP_append, List.countP_singleton]
      split
      · have := hlt t a u hIt hst (by assumption)
        omega
      · have := hle t a u hIt hst
        omega

/-! ### The states of a run -/

/-- The states that a run passes through, the one it ends in included. -/
def visited (h : List (σ × α)) (t : σ) : List σ := h.map Prod.fst ++ [t]

/-- A run visits the states before its steps, and the one it ends in. -/
theorem mem_visited {h : List (σ × α)} {t u : σ} :
    u ∈ visited h t ↔ (∃ x ∈ h, x.1 = u) ∨ u = t := by
  simp [visited]

/-- One more step visits one more state. -/
theorem mem_visited_concat {h : List (σ × α)} {t u v : σ} {a : α} :
    v ∈ visited (h ++ [(t, a)]) u ↔ v ∈ visited h t ∨ v = u := by
  simp [visited, or_assoc]

/-- A run passes through the state it begins in. -/
theorem Run.start_mem_visited {s t : σ} {h : List (σ × α)} (hr : Run M s h t) :
    s ∈ visited h t := by
  induction hr with
  | nil => exact List.mem_singleton_self s
  | snoc _ _ ih => exact mem_visited_concat.2 (.inl ih)

/-- **Steps that use up a measure, and steps that raise it.**  The steps marked by `B` lower
`μ`, those marked by `G` may raise it by one. -/
theorem Run.countP_add_le_add {I : σ → Prop} {μ : σ → ℕ} {B G : σ × α → Bool}
    (hstep : ∀ s a t, I s → I t → M.step s a t →
      μ t + (if B (s, a) then 1 else 0) ≤ μ s + if G (s, a) then 1 else 0)
    {s t : σ} {h : List (σ × α)} (hr : Run M s h t) (hI : ∀ u ∈ visited h t, I u) :
    h.countP B + μ t ≤ μ s + h.countP G := by
  induction hr with
  | nil => simp
  | @snoc h t u a hr hst ih =>
      have hrest := ih fun v hv => hI v (mem_visited_concat.2 (.inl hv))
      have hlast := hstep t a u (hI t (mem_visited_concat.2 (.inl (mem_visited.2 (.inr rfl)))))
        (hI u (mem_visited.2 (.inr rfl))) hst
      rw [List.countP_append, List.countP_append, List.countP_singleton, List.countP_singleton]
      omega

/-- After every step comes a state of the run. -/
theorem Run.next_visited {s t : σ} {h : List (σ × α)} (hr : Run M s h t) {x : σ × α}
    (hx : x ∈ h) : ∃ u ∈ visited h t, M.step x.1 x.2 u := by
  induction hr with
  | nil => exact absurd hx List.not_mem_nil
  | @snoc h t u a _ hst ih =>
      rcases List.mem_append.1 hx with hx | hx
      · obtain ⟨v, hv, hstep⟩ := ih hx
        refine ⟨v, mem_visited.2 (.inl ?_), hstep⟩
        rcases mem_visited.1 hv with ⟨y, hy, rfl⟩ | rfl
        · exact ⟨y, List.mem_append_left _ hy, rfl⟩
        · exact ⟨(v, a), List.mem_append_right _ (List.mem_singleton_self _), rfl⟩
      · obtain rfl := List.mem_singleton.1 hx
        exact ⟨u, mem_visited.2 (.inr rfl), hst⟩

/-- An invariant of the runs whose steps all meet a condition holds all the way. -/
theorem Run.forall_visited {I : σ → Prop} {C : σ → α → Prop}
    (hstep : ∀ s a t, I s → C s a → M.step s a t → I t) {s t : σ} {h : List (σ × α)}
    (hr : Run M s h t) (hs : I s) (hC : ∀ x ∈ h, C x.1 x.2) : ∀ u ∈ visited h t, I u := by
  intro u hu
  rcases mem_visited.1 hu with ⟨x, hx, rfl⟩ | rfl
  · obtain ⟨h₁, h₂, rfl, hr₁⟩ := hr.mem_history hx
    exact hr₁.invariant_where hstep hs fun y hy => hC y (List.mem_append_left _ hy)
  · exact hr.invariant_where hstep hs hC

/-- **Since a state of the run.**  What holds in one state that a run passes through, and is kept
by the steps that meet a condition, holds where the run ends. -/
theorem Run.since {I : σ → Prop} {C : σ → α → Prop}
    (hstep : ∀ s a t, I s → C s a → M.step s a t → I t) {s t : σ} {h : List (σ × α)}
    (hr : Run M s h t) {x : σ × α} (hx : x ∈ h) (hI : I x.1) (hC : ∀ y ∈ h, C y.1 y.2) : I t := by
  induction hr with
  | nil => exact absurd hx List.not_mem_nil
  | @snoc h t u a hr hst ih =>
      refine hstep t a u ?_ (hC _ (List.mem_append_right _ (List.mem_singleton_self _))) hst
      rcases List.mem_append.1 hx with hx | hx
      · exact ih hx fun y hy => hC y (List.mem_append_left _ hy)
      · obtain rfl := List.mem_singleton.1 hx
        exact hI

/-- The run that takes the same kind of step again and again. -/
theorem Run.iterate {a : σ → α} {g : σ → σ} (hg : ∀ s, M.step s (a s) (g s)) (s : σ) (n : ℕ) :
    Run M s ((List.range n).map fun k => (g^[k] s, a (g^[k] s))) (g^[n] s) := by
  induction n with
  | zero => exact .nil
  | succ n ih =>
      rw [List.range_succ, List.map_append, List.map_singleton, Function.iterate_succ_apply']
      exact .snoc ih (hg _)

/-! ### Simulations -/

/-- `f` maps the machine `M` into the machine `N`: every step of `M` from a state
with `J` is one step of `N`, whose label may depend on the step. -/
structure Simulation {τ : Type u'} {β : Type v'} (M : Machine σ α) (N : Machine τ β)
    (J : σ → Prop) (f : σ → τ) : Prop where
  init : ∀ s, M.init s → N.init (f s)
  step : ∀ s a t, J s → M.step s a t → ∃ b, N.step (f s) b (f t)

/-- A run maps to a run. -/
theorem Simulation.run {τ : Type u'} {β : Type v'} {N : Machine τ β} {J : σ → Prop}
    {f : σ → τ} (hf : Simulation M N J f) (hJ : ∀ s, M.Reachable s → J s) {s t : σ}
    {h : List (σ × α)} (hs : M.Reachable s) (hr : Run M s h t) : ∃ k, Run N (f s) k (f t) := by
  induction hr with
  | nil => exact ⟨[], .nil⟩
  | @snoc h t u a hr hst ih =>
      obtain ⟨k, hk⟩ := ih
      obtain ⟨b, hb⟩ := hf.step t a u (hJ t (hs.run hr)) hst
      exact ⟨k ++ [(f t, b)], .snoc hk hb⟩

/-! ### Machines of a step function -/

/-- The machine of a partial step function. -/
def Machine.ofFun (init : σ → Prop) (f : σ → α → Option σ) : Machine σ α where
  init := init
  step s a t := f s a = some t

/-- The state after a list of actions. -/
def exec (f : σ → α → Option σ) : σ → List α → Option σ
  | s, [] => some s
  | s, a :: as => (f s a).bind fun t => exec f t as

/-- The actions of an execution are those of a run. -/
theorem Run.of_exec {I : σ → Prop} {f : σ → α → Option σ} :
    ∀ {as : List α} {s t : σ}, exec f s as = some t →
      ∃ h, Run (Machine.ofFun I f) s h t ∧ h.map Prod.snd = as
  | [], s, t, h => by
      obtain rfl : s = t := by simpa [exec] using h
      exact ⟨[], .nil, rfl⟩
  | a :: as, s, t, h => by
      obtain ⟨u, hu, ht⟩ := Option.bind_eq_some_iff.1 h
      obtain ⟨k, hk, rfl⟩ := Run.of_exec (I := I) ht
      exact ⟨(s, a) :: k, (Run.single (M := .ofFun I f) hu).trans hk, rfl⟩

/-- A list of actions that ends in a state passing the test `p` shows such a
state reachable. -/
theorem exists_reachable_of_exec {I : σ → Prop} {f : σ → α → Option σ} {s : σ} {l : List α}
    {p : σ → Bool} (hs : I s) (h : (exec f s l).map p = some true) :
    ∃ t, (Machine.ofFun I f).Reachable t ∧ p t = true := by
  obtain ⟨t, ht, hp⟩ := Option.map_eq_some_iff.1 h
  obtain ⟨k, hk, -⟩ := Run.of_exec (I := I) ht
  exact ⟨t, ⟨s, k, hs, hk⟩, hp⟩

/-- The steps of `f` that meet the condition `C`. -/
def restrict (f : σ → α → Option σ) (C : σ → α → Prop) [∀ s a, Decidable (C s a)] (s : σ)
    (a : α) : Option σ :=
  if C s a then f s a else none

/-- A run of the restricted steps is a run, and each of its steps met the condition. -/
theorem Run.of_restrict {I : σ → Prop} {f : σ → α → Option σ} {C : σ → α → Prop}
    [∀ s a, Decidable (C s a)] {s t : σ} {h : List (σ × α)}
    (hr : Run (.ofFun I (restrict f C)) s h t) :
    Run (.ofFun I f) s h t ∧ ∀ x ∈ h, C x.1 x.2 := by
  induction hr with
  | nil => exact ⟨.nil, by simp⟩
  | @snoc h t u a _ hst ih =>
      obtain ⟨hr, hC⟩ := ih
      obtain ⟨hc, hst⟩ : C t a ∧ f t a = some u := by
        simpa [Machine.ofFun, restrict] using hst
      refine ⟨.snoc hr hst, fun x hx => ?_⟩
      rcases List.mem_append.1 hx with hx | hx
      · exact hC x hx
      · obtain rfl := List.mem_singleton.1 hx
        exact hc

/-- A list of actions whose steps all meet a condition, as a run. -/
theorem exists_run_of_exec {I : σ → Prop} {f : σ → α → Option σ} {C : σ → α → Prop}
    [∀ s a, Decidable (C s a)] {s : σ} {l : List α} {p : σ → Bool}
    (h : (exec (restrict f C) s l).map p = some true) :
    ∃ t k, Run (.ofFun I f) s k t ∧ (∀ x ∈ k, C x.1 x.2) ∧ p t = true := by
  obtain ⟨t, ht, hp⟩ := Option.map_eq_some_iff.1 h
  obtain ⟨k, hk, -⟩ := Run.of_exec (I := I) ht
  obtain ⟨hr, hC⟩ := hk.of_restrict
  exact ⟨t, k, hr, hC, hp⟩

end Transition
