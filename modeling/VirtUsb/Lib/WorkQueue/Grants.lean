/-
# Where every grant of a work queue is

The same for grants as the ledger for jobs: a grant that was made is in force or
was removed, what an agent removed it holds or has dropped, and no client and no
resource has two grants at a time.
-/

import VirtUsb.Lib.WorkQueue.Ledger

namespace WorkQueue

universe u

variable {κ τ ρ γ : Type u}

/-- Where each grant is: in force, removed and held, or dropped; and how it got there. -/
@[ext]
structure GrantLedger (ρ γ : Type u) where
  grants : Multiset (Grant ρ γ)
  held : Multiset (ℕ × Grant ρ γ)
  granted : Multiset (Grant ρ γ)
  revoked : Multiset (ℕ × Grant ρ γ)
  dropped : Multiset (ℕ × Grant ρ γ)

/-- The moves of one grant through the ledger. -/
inductive GrantMove : GrantLedger ρ γ → GrantLedger ρ γ → Prop
  | still (l) : GrantMove l l
  | grant (g) (G H M R D) : (∀ g' ∈ G, g'.client ≠ g.client ∧ g'.resource ≠ g.resource) →
      GrantMove ⟨G, H, M, R, D⟩ ⟨g ::ₘ G, H, g ::ₘ M, R, D⟩
  | revoke (i : ℕ) (g) (G H M R D) :
      GrantMove ⟨g ::ₘ G, H, M, R, D⟩ ⟨G, (i, g) ::ₘ H, M, (i, g) ::ₘ R, D⟩
  | drop (i : ℕ) (g) (G H M R D) :
      GrantMove ⟨G, (i, g) ::ₘ H, M, R, D⟩ ⟨G, H, M, R, (i, g) ::ₘ D⟩

/-- The balances of a ledger of grants. -/
structure GrantLedger.Sound (l : GrantLedger ρ γ) : Prop where
  accounted : l.granted = l.grants + l.revoked.map Prod.snd
  finished : l.revoked = l.held + l.dropped
  clients : (l.grants.map Grant.client).Nodup
  resources : (l.grants.map Grant.resource).Nodup

/-- **Every move keeps the grants accounted for.** -/
theorem GrantMove.sound {l l' : GrantLedger ρ γ} (h : GrantMove l l') (hl : l.Sound) :
    l'.Sound := by
  obtain ⟨hacc, hfin, hcl, hres⟩ := hl
  cases h with
  | still => exact ⟨hacc, hfin, hcl, hres⟩
  | grant g G H M R D hfresh =>
      refine ⟨by simpa using hacc, hfin, ?_, ?_⟩
      · simpa using ⟨fun g' hg' => (hfresh g' hg').1, by simpa using hcl⟩
      · simpa using ⟨fun g' hg' => (hfresh g' hg').2, by simpa using hres⟩
  | revoke i g G H M R D =>
      refine ⟨by simpa using hacc, by simpa using hfin, ?_, ?_⟩
      · exact (Multiset.nodup_cons.1 (by simpa using hcl)).2
      · exact (Multiset.nodup_cons.1 (by simpa using hres)).2
  | drop i g G H M R D => exact ⟨hacc, by simpa using hfin, hcl, hres⟩

/-- A move between ledgers that are equal to the given ones. -/
theorem GrantMove.cast {l l' m m' : GrantLedger ρ γ} (h : GrantMove m m') (hl : l = m)
    (hl' : l' = m') : GrantMove l l' := by
  subst hl hl'
  exact h

/-! ### The ledger of a state -/

/-- The grants of a state as multisets. -/
def State.grantLedger (s : State κ τ ρ γ) : GrantLedger ρ γ where
  grants := s.grants
  held := s.held
  granted := s.granted
  revoked := s.revoked
  dropped := s.dropped

/-- An agent that goes on with the same grant changes nothing about who holds what. -/
theorem State.held_set_eq {s : State κ τ ρ γ} {i : ℕ} {a b : Agent κ τ ρ γ}
    (ha : s.agents[i]? = some a) (h : b.held = a.held) :
    (s.agents.set i b).zipIdx.filterMap Agent.heldAt = s.held := by
  rw [State.held, Sequence.zipIdx_set]
  exact Sequence.filterMap_set_eq (Sequence.getElem?_zipIdx_of ha) (by simp [Agent.heldAt, h])

/-- A step that keeps the grants, and sets one agent to one that holds the same. -/
theorem GrantMove.of_set {s s' : State κ τ ρ γ} {i : ℕ} {a b : Agent κ τ ρ γ}
    (ha : s.agents[i]? = some a) (hs : s'.agents = s.agents.set i b) (hh : b.held = a.held)
    (hg : s'.grants = s.grants) (hm : s'.granted = s.granted) (hr : s'.revoked = s.revoked)
    (hd : s'.dropped = s.dropped) : GrantMove s.grantLedger s'.grantLedger := by
  have h : s'.grantLedger = s.grantLedger := by
    have hheld : s'.held = s.held := by rw [State.held, hs, State.held_set_eq ha hh]
    simp only [State.grantLedger, hheld, hg, hm, hr, hd]
  exact h ▸ .still _

/-- The same for a step that logs an event of another kind. -/
theorem GrantMove.of_event {s s' : State κ τ ρ γ} {i : ℕ} {a b : Agent κ τ ρ γ}
    {e : Event κ τ ρ γ} (ha : s.agents[i]? = some a) (hs : s'.agents = s.agents.set i b)
    (hh : b.held = a.held) (hg : s'.grants = s.grants) (hl : s'.log = s.log ++ [e])
    (hm : e.granted? = none) (hr : e.revoked? = none) (hd : e.dropped? = none) :
    GrantMove s.grantLedger s'.grantLedger :=
  .of_set ha hs hh hg (by simp [State.granted, hl, hm]) (by simp [State.revoked, hl, hr])
    (by simp [State.dropped, hl, hd])

/-- A step that removes a grant. -/
theorem GrantMove.of_revoke {s s' : State κ τ ρ γ} {i : ℕ} {a b : Agent κ τ ρ γ} {g : Grant ρ γ}
    (ha : s.agents[i]? = some a) (hs : s'.agents = s.agents.set i b) (hha : a.held = none)
    (hhb : b.held = some g) (hg : (s.grants : Multiset (Grant ρ γ)) = g ::ₘ s'.grants)
    (hl : s'.log = s.log ++ [.revoked i g]) : GrantMove s.grantLedger s'.grantLedger := by
  have hh := Sequence.filterMap_set_of_none (f := Agent.heldAt) (b := (b, i)) (x := (i, g))
    (Sequence.getElem?_zipIdx_of ha) (by simp [Agent.heldAt, hha]) (by simp [Agent.heldAt, hhb])
  rw [← Sequence.zipIdx_set] at hh
  refine GrantMove.cast (.revoke i g s'.grants s.held s.granted s.revoked s.dropped) ?_ ?_
  · exact GrantLedger.ext hg rfl rfl rfl rfl
  · refine GrantLedger.ext rfl ?_ ?_ ?_ ?_
    · simpa [State.grantLedger, State.held, hs] using hh
    · simp [State.grantLedger, State.granted, hl, Event.granted?, List.filterMap_cons]
    · simp [State.grantLedger, State.revoked, hl, Event.revoked?, ← Multiset.coe_add,
        ← Multiset.singleton_add, add_comm]
    · simp [State.grantLedger, State.dropped, hl, Event.dropped?, List.filterMap_cons]

variable [DecidableEq κ] [DecidableEq τ] [DecidableEq ρ] [DecidableEq γ]

/-- Taking out a job touches no grant. -/
@[simp]
theorem State.remove_grants (s : State κ τ ρ γ) (job : Job κ τ ρ γ) :
    (s.remove job).grants = s.grants := by
  rw [State.remove]
  split <;> rfl

/-- Taking out a job neither opens nor closes the queue. -/
@[simp]
theorem State.remove_closed (s : State κ τ ρ γ) (job : Job κ τ ρ γ) :
    (s.remove job).closed = s.closed := by
  rw [State.remove]
  split <;> rfl

/-- Taking out a job is no move of a grant. -/
theorem GrantMove.of_take {s : State κ τ ρ γ} {i : ℕ} {a next : Agent κ τ ρ γ} {job : Job κ τ ρ γ}
    (ha : s.agents[i]? = some a) (hh : next.held = a.held) :
    GrantMove s.grantLedger (State.grantLedger
      { s.remove job with
        agents := s.agents.set i (.carrying job next), log := s.log ++ [.taken i job] }) :=
  .of_event (b := .carrying job next) ha rfl hh (State.remove_grants s job) rfl rfl rfl rfl

/-- **A step moves at most one grant.** -/
theorem Step.grantMove {s s' : State κ τ ρ γ} {e : Option (Event κ τ ρ γ)} (h : Step s e s') :
    GrantMove s.grantLedger s'.grantLedger := by
  cases h with
  | stutter => exact .still _
  | spawn a ha =>
      have hs : State.grantLedger { s with agents := s.agents ++ [a] } = s.grantLedger := by
        rcases ha with rfl | rfl <;>
          simp [State.grantLedger, State.held, State.granted, State.revoked, State.dropped,
            List.zipIdx_append, List.filterMap_cons, Agent.heldAt, Agent.held]
      exact hs ▸ .still _
  | offer job _ _ _ =>
      have hs : State.grantLedger { s with agents := s.agents ++ [.offering job] } =
          s.grantLedger := by
        simp [State.grantLedger, State.held, State.granted, State.revoked, State.dropped,
          List.zipIdx_append, List.filterMap_cons, Agent.heldAt, Agent.held]
      exact hs ▸ .still _
  | quit i a ha hq =>
      have hh : a.held = none := by
        rcases hq with rfl | hq
        · rfl
        · cases a <;> first | rfl | simp [Agent.offered] at hq
      exact .of_set ha rfl hh.symm rfl rfl rfl rfl
  | accept i job ha _ _ =>
      exact .of_event ha rfl rfl rfl rfl rfl rfl rfl
  | lease g job _ _ =>
      refine GrantMove.cast (.still s.grantLedger) rfl ?_
      simp [State.grantLedger, State.held, State.granted, State.revoked, State.dropped,
        Event.granted?, Event.revoked?, Event.dropped?, List.filterMap_cons]
  | restore i client job ha _ _ =>
      exact .of_event ha rfl rfl rfl rfl rfl rfl rfl
  | take i job ha _ => exact .of_take ha rfl
  | drain i g job ha _ => exact .of_take ha rfl
  | empty i job ha _ => exact .of_take ha rfl
  | handBack i job next ha hn =>
      exact .of_event ha rfl rfl rfl rfl rfl rfl rfl
  | grant i g ha _ hfresh =>
      have hheld : State.held { s with
          grants := s.grants ++ [g], agents := s.agents.set i .done
          log := s.log ++ [.granted g] } = s.held := State.held_set_eq ha rfl
      refine GrantMove.cast (.grant g s.grants s.held s.granted s.revoked s.dropped ?_) rfl ?_
      · simpa using hfresh
      · ext1 <;> simp [State.grantLedger, hheld, State.granted, State.revoked, State.dropped,
          Event.granted?, Event.revoked?, Event.dropped?, List.filterMap_cons, ← Multiset.coe_add,
          ← Multiset.singleton_add, add_comm]
  | revoke i g ha hg => exact .of_revoke ha rfl rfl rfl (Sequence.coe_eq_cons_erase hg) rfl
  | drained i g ha _ => exact .of_set ha rfl rfl rfl rfl rfl rfl
  | close i ha =>
      exact .of_event ha rfl rfl rfl rfl rfl rfl rfl
  | emptied i ha _ => exact .of_set ha rfl rfl rfl rfl rfl rfl
  | evict i g rest ha hg => exact .of_revoke ha rfl rfl rfl (by rw [hg]; rfl) rfl
  | evicted i ha _ =>
      exact .of_event ha rfl rfl rfl rfl rfl rfl rfl
  | drop i g next ha hn =>
      have hnext : next.held = none := by rcases hn with rfl | rfl <;> rfl
      have hh := Sequence.filterMap_set_of_some (f := Agent.heldAt) (b := (next, i)) (x := (i, g))
        (Sequence.getElem?_zipIdx_of ha) rfl (by simp [Agent.heldAt, hnext])
      rw [← Sequence.zipIdx_set] at hh
      refine GrantMove.cast (.drop i g s.grants ((s.agents.set i next).zipIdx.filterMap Agent.heldAt)
        s.granted s.revoked s.dropped) ?_ ?_
      · exact GrantLedger.ext rfl hh rfl rfl rfl
      · ext1 <;> simp [State.grantLedger, State.held, State.granted, State.revoked, State.dropped,
          Event.granted?, Event.revoked?, Event.dropped?, List.filterMap_cons, ← Multiset.coe_add,
          ← Multiset.singleton_add, add_comm]

end WorkQueue
