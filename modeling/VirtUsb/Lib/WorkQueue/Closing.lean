/-
# Closing the queue

From the moment the queue is closed no job is accepted and no grant made, so
what was listed and granted then is what has been taken out and removed since
plus what is still there (`listed_since_closed`, `grants_since_closed`).
Whoever removed a grant after that point drops it once (`dropped_once_since`).
-/

import VirtUsb.Lib.WorkQueue.Routing

namespace WorkQueue

open Transition

universe u

variable {κ τ ρ γ : Type u}

/-- A grant is held by the agent whose index comes with it. -/
theorem State.mem_held {s : State κ τ ρ γ} {k : ℕ} {g : Grant ρ γ} :
    (k, g) ∈ s.held ↔ ∃ a, s.agents[k]? = some a ∧ a.held = some g := by
  simp only [State.held, List.mem_filterMap, Prod.exists, Agent.heldAt, Option.map_eq_some_iff,
    Prod.mk.injEq, List.mem_zipIdx_iff_getElem?]
  constructor
  · rintro ⟨a, j, ha, g', hg, rfl, rfl⟩
    exact ⟨a, ha, hg⟩
  · rintro ⟨a, ha, hg⟩
    exact ⟨a, k, ha, g, hg, rfl, rfl⟩

variable [DecidableEq κ]

/-- Two accounts of one total, the second with a later entry: what the first has
left over. -/
theorem eq_add_of_balance {M : Type u} {a g g' r x : Multiset M} (h : a = g + r)
    (h' : a = g' + (r + x)) : g = g' + x := by
  refine add_right_cancel (b := r) ?_
  rw [← h, h', add_comm r x, add_assoc]

/-- **Jobs listed when the queue was closed** are still listed, or were taken out since. -/
theorem listed_since_closed {s t : State κ τ ρ γ} (hs : s.Sound) (ht : t.Sound)
    {l : List (Event κ τ ρ γ)} (hlog : t.log = s.log ++ l) (hacc : l.filterMap Event.accepted? = []) :
    (s.listed.map Job.free : Multiset (Job κ τ ρ γ)) =
      (t.listed.map Job.free : Multiset (Job κ τ ρ γ)) +
        ((l.filterMap Event.taken?).map fun x => x.2.free : List _) := by
  have hacc' : t.accepted = s.accepted := by simp [State.accepted, hlog, hacc]
  have htaken : t.taken = s.taken ++ l.filterMap Event.taken? := by simp [State.taken, hlog]
  have hs' := hs.ledger.accounted
  have ht' := ht.ledger.accounted
  simp only [State.ledger, hacc', htaken, Multiset.coe_add, Multiset.map_coe, List.map_append,
    List.map_map] at hs' ht'
  refine eq_add_of_balance (a := s.accepted) (r := (s.taken.map (Job.free ∘ Prod.snd) : List _))
    (hs'.trans ?_) (ht'.trans ?_)
  · simp [State.listed]
  · simp [State.listed, Function.comp_def]

/-- **Grants in force when the queue was closed** are still in force, or were removed since. -/
theorem grants_since_closed {s t : State κ τ ρ γ} (hs : s.Sound) (ht : t.Sound)
    {l : List (Event κ τ ρ γ)} (hlog : t.log = s.log ++ l) (hgr : l.filterMap Event.granted? = []) :
    (s.grants : Multiset (Grant ρ γ)) =
      t.grants + ((l.filterMap Event.revoked?).map Prod.snd : List _) := by
  have hgr' : t.granted = s.granted := by simp [State.granted, hlog, hgr]
  have hrev : t.revoked = s.revoked ++ l.filterMap Event.revoked? := by simp [State.revoked, hlog]
  have ht' := ht.grants.accounted
  simp only [State.grantLedger, hgr', hrev, Multiset.map_coe, List.map_append] at ht'
  refine eq_add_of_balance (a := s.granted) (r := (s.revoked.map Prod.snd : List _))
    hs.grants.accounted (ht'.trans ?_)
  simp [Multiset.coe_add]

/-- What agents held before and removed since, they hold now or have dropped since. -/
theorem held_since {s t : State κ τ ρ γ} (hs : s.Sound) (ht : t.Sound) {l : List (Event κ τ ρ γ)}
    (hlog : t.log = s.log ++ l) :
    (s.held : Multiset (ℕ × Grant ρ γ)) + (l.filterMap Event.revoked? : List _) =
      t.held + (l.filterMap Event.dropped? : List _) := by
  have hrev : t.revoked = s.revoked ++ l.filterMap Event.revoked? := by simp [State.revoked, hlog]
  have hdrop : t.dropped = s.dropped ++ l.filterMap Event.dropped? := by simp [State.dropped, hlog]
  have hs' : (s.revoked : Multiset (ℕ × Grant ρ γ)) = s.held + s.dropped := hs.grants.finished
  have ht' : (t.revoked : Multiset (ℕ × Grant ρ γ)) = t.held + t.dropped := ht.grants.finished
  rw [hrev, hdrop, ← Multiset.coe_add, ← Multiset.coe_add] at ht'
  refine eq_add_of_balance (a := t.revoked) (r := s.dropped) ?_ ?_
  · rw [hrev, ← Multiset.coe_add, hs', add_right_comm]
  · rw [hrev, ← Multiset.coe_add, ht']

variable [DecidableEq τ] [DecidableEq ρ] [DecidableEq γ]

/-- A closed queue accepts nothing and grants nothing. -/
theorem Step.event_of_closed {s s' : State κ τ ρ γ} {e : Event κ τ ρ γ} (h : Step s (some e) s')
    (hc : s.closed = true) : e.accepted? = none ∧ e.granted? = none := by
  cases h <;> simp_all [Event.accepted?, Event.granted?]

/-- What a run from a closed queue adds to the log. -/
theorem log_since_closed {s t : State κ τ ρ γ} {h : List (State κ τ ρ γ × Option (Event κ τ ρ γ))}
    (hr : Run machine s h t) (hc : s.closed = true) :
    t.closed = true ∧ ∃ l, t.log = s.log ++ l ∧ l.filterMap Event.accepted? = [] ∧
      l.filterMap Event.granted? = [] := by
  induction hr with
  | nil => exact ⟨hc, [], by simp, rfl, rfl⟩
  | @snoc h t u e hr hst ih =>
      obtain ⟨hct, l, hl, hacc, hgr⟩ := ih
      have hst : Step t e u := hst
      refine ⟨hst.closed_of_closed hct, l ++ e.toList, by rw [hst.log, hl, List.append_assoc], ?_, ?_⟩
      · cases e with
        | none => simpa using hacc
        | some e => simp [List.filterMap_append, hacc, (hst.event_of_closed hct).1]
      · cases e with
        | none => simpa using hgr
        | some e => simp [List.filterMap_append, hgr, (hst.event_of_closed hct).2]

/-! ### Jobs and grants found when the queue was closed -/

/-- **A job listed when the queue was closed is taken out by exactly one agent**,
once nothing is listed any more. -/
theorem taken_once_since {s t : State κ τ ρ γ} (hs : s.Sound) (ht : t.Sound)
    {l : List (Event κ τ ρ γ)} (hlog : t.log = s.log ++ l) (hacc : l.filterMap Event.accepted? = [])
    (hempty : t.listed = []) {job : Job κ τ ρ γ} (hj : job ∈ s.listed) :
    ∃ x, (l.filterMap Event.taken?).filter (fun x => x.2.free = job.free) = [x] := by
  have hsum := listed_since_closed hs ht hlog hacc
  rw [hempty, List.map_nil, Multiset.coe_nil, zero_add] at hsum
  have hnodup : (s.listed.map Job.free).Nodup := by
    have hkeys := hs.ledger.keys_nodup
    rw [add_assoc, Multiset.map_add, Multiset.nodup_add] at hkeys
    have hlisted : ((s.listed.map Job.free).map Job.key).Nodup := by
      simpa [State.ledger, State.listed, Function.comp_def] using hkeys.1
    exact List.Nodup.of_map _ hlisted
  have hcount : (s.listed.map Job.free).count job.free = 1 :=
    List.count_eq_one_of_mem hnodup (List.mem_map_of_mem hj)
  rw [← Multiset.coe_count, hsum, Multiset.coe_count] at hcount
  exact Sequence.filter_eq_singleton_of_count hcount

/-- The agent will not remove another grant. -/
def Agent.spent : Agent κ τ ρ γ → Bool
  | .carrying _ next => next.spent
  | .revoking _ => true
  | .dropping _ next => next.spent
  | .done => true
  | _ => false

/-- An agent that will not remove another grant stays one. -/
theorem Step.spent {s s' : State κ τ ρ γ} {e : Option (Event κ τ ρ γ)} (h : Step s e s') {k : ℕ}
    {x : Agent κ τ ρ γ} (hx : s.agents[k]? = some x) (hsp : x.spent = true) :
    ∃ y, s'.agents[k]? = some y ∧ y.spent = true := by
  have append : ∀ a, ∃ y, (s.agents ++ [a])[k]? = some y ∧ y.spent = true := fun a =>
    ⟨x, Sequence.getElem?_concat_of_some a hx, hsp⟩
  have set : ∀ {i : ℕ} {a b : Agent κ τ ρ γ}, s.agents[i]? = some a →
      (a.spent = true → b.spent = true) → ∃ y, (s.agents.set i b)[k]? = some y ∧ y.spent = true :=
    fun ha hb => Sequence.exists_getElem?_set (P := fun a => a.spent = true) ha hb hx hsp
  cases h with
  | stutter => exact ⟨x, hx, hsp⟩
  | lease g job _ _ => exact ⟨x, hx, hsp⟩
  | spawn a _ => exact append a
  | offer job _ _ _ => exact append _
  | quit i a ha _ => exact set ha fun _ => rfl
  | accept i job ha _ _ => exact set ha fun _ => rfl
  | restore i client job ha _ _ => exact set ha fun _ => rfl
  | take i job ha _ => exact set ha fun _ => rfl
  | drain i g job ha _ => exact set ha fun _ => rfl
  | empty i job ha _ => exact set ha nofun
  | handBack i job next ha _ => exact set ha id
  | grant i g ha _ _ => exact set ha fun _ => rfl
  | revoke i g ha _ => exact set ha fun _ => rfl
  | drained i g ha _ => exact set ha fun _ => rfl
  | close i ha => exact set ha nofun
  | emptied i ha _ => exact set ha nofun
  | evict i g rest ha _ => exact set ha nofun
  | evicted i ha _ => exact set ha fun _ => rfl
  | drop i g next ha _ => exact set ha id

/-- Only an agent that is not spent removes a grant. -/
theorem Step.not_spent_of_revoked {s s' : State κ τ ρ γ} {k : ℕ} {g : Grant ρ γ}
    (h : Step s (some (.revoked k g)) s') {x : Agent κ τ ρ γ} (hx : s.agents[k]? = some x) :
    x.spent = false := by
  cases h with
  | revoke _ _ ha _ =>
      obtain rfl := Option.some.inj (hx.symm.trans ha)
      rfl
  | evict _ _ _ ha _ =>
      obtain rfl := Option.some.inj (hx.symm.trans ha)
      rfl

/-- In a run, a spent agent removes no grant. -/
theorem not_revoked_of_spent {s t : State κ τ ρ γ}
    {h : List (State κ τ ρ γ × Option (Event κ τ ρ γ))} (hr : Run machine s h t) {k : ℕ}
    {x : Agent κ τ ρ γ} (hx : s.agents[k]? = some x) (hsp : x.spent = true) :
    (∃ y, t.agents[k]? = some y ∧ y.spent = true) ∧
      ∃ l, t.log = s.log ++ l ∧ ∀ g, .revoked k g ∉ l := by
  induction hr with
  | nil => exact ⟨⟨x, hx, hsp⟩, [], by simp, by simp⟩
  | @snoc h t u e hr hst ih =>
      obtain ⟨⟨y, hy, hyp⟩, l, hl, hno⟩ := ih
      have hst : Step t e u := hst
      refine ⟨hst.spent hy hyp, l ++ e.toList, by rw [hst.log, hl, List.append_assoc], fun g hm => ?_⟩
      rcases List.mem_append.1 hm with hm | hm
      · exact hno g hm
      · obtain rfl := Option.mem_toList.1 hm
        simp [hst.not_spent_of_revoked hy] at hyp

omit [DecidableEq τ] in
/-- **A grant in force when the queue was closed is removed by exactly one agent**,
once no grant is in force any more, and that agent drops it exactly once. -/
theorem dropped_once_since {s t : State κ τ ρ γ} (hs : s.Sound) (ht : t.Sound)
    {l : List (Event κ τ ρ γ)} (hlog : t.log = s.log ++ l) (hgr : l.filterMap Event.granted? = [])
    (hempty : t.grants = []) {g : Grant ρ γ} (hg : g ∈ s.grants)
    (hheld : ∀ k, (k, g) ∈ s.held → .revoked k g ∉ l) :
    ∃ k, (l.filterMap Event.revoked?).filter (fun x => x.2 = g) = [(k, g)] ∧
      ((k, g) ∉ t.held → (l.filterMap Event.dropped?).filter (fun x => x = (k, g)) = [(k, g)]) := by
  have hsum := grants_since_closed hs ht hlog hgr
  rw [hempty, Multiset.coe_nil, zero_add] at hsum
  have hcount : ((l.filterMap Event.revoked?).map Prod.snd).count g = 1 := by
    rw [← Multiset.coe_count, ← hsum, Multiset.coe_count]
    exact List.count_eq_one_of_mem hs.grants_nodup hg
  obtain ⟨⟨k, g'⟩, hx⟩ := Sequence.filter_eq_singleton_of_count hcount
  have hmem : (k, g') ∈ (l.filterMap Event.revoked?).filter (fun x => x.2 = g) := by
    rw [hx]
    exact List.mem_singleton_self _
  obtain ⟨hrev, hg'⟩ := List.mem_filter.1 hmem
  obtain rfl : g' = g := of_decide_eq_true hg'
  refine ⟨k, hx, fun hfree => ?_⟩
  have hrevoked : (l.filterMap Event.revoked? : Multiset _).count (k, g') = 1 := by
    rw [← Multiset.count_filter_of_pos (p := fun x => x.2 = g') rfl, Multiset.filter_coe, hx]
    exact Multiset.count_singleton_self _
  have hbefore : (s.held : Multiset _).count (k, g') = 0 := by
    refine Multiset.count_eq_zero.2 fun hin => hheld k hin ?_
    obtain ⟨e, he, heq⟩ := List.mem_filterMap.1 hrev
    rwa [Event.revoked?_eq_some.1 heq] at he
  have hafter : (t.held : Multiset _).count (k, g') = 0 := Multiset.count_eq_zero.2 hfree
  have hbalance := congrArg (Multiset.count (k, g')) (held_since hs ht hlog)
  rw [Multiset.count_add, Multiset.count_add, hrevoked, hbefore, hafter, zero_add, zero_add,
    Multiset.coe_count] at hbalance
  obtain ⟨x, hx⟩ := Sequence.filter_eq_singleton_of_count (f := id)
    (by rw [List.map_id]; exact hbalance.symm)
  have hxk : x = (k, g') := of_decide_eq_true
    (List.mem_filter.1 (hx ▸ List.mem_singleton_self x : x ∈ _)).2
  rwa [hxk] at hx

end WorkQueue
