/-
# The order of the queue, and old and new grants

The waiting jobs of a resource are in the order in which they were accepted
(`State.Ordered`) until a job is restored before one that was accepted earlier:
this is the only step that can disturb the order, and it always does
(`Step.ordered_iff`).

An agent that removed a grant takes out every waiting job of the resource it
meets, also one that was accepted later, for a newer grant.  It spares these if
no job is accepted while the jobs of an older grant are still being taken out
(`State.HandedOver.spared`).
-/

import VirtUsb.Lib.WorkQueue.Routing

namespace WorkQueue

universe u

variable {κ τ ρ γ : Type u}

/-- The agent may have removed a grant. -/
def Agent.late : Agent κ τ ρ γ → Bool
  | .idle => false
  | .offering _ => false
  | .closing => false
  | .carrying _ next => next.late
  | _ => true

variable [DecidableEq κ] [DecidableEq τ] [DecidableEq ρ] [DecidableEq γ]

/-! ### Order -/

/-- The waiting jobs of the resource are in the order of their acceptance. -/
def State.Ordered (s : State κ τ ρ γ) (r : ρ) : Prop :=
  (s.waiting.filter fun j => j.resource = r).Sublist s.accepted

/-- A step that restores a job of the resource before a waiting one that was
accepted earlier. -/
def State.Overtakes (s : State κ τ ρ γ) (r : ρ) (e : Option (Event κ τ ρ γ)) : Prop :=
  ∃ client job, e = some (.restored client job) ∧ job.resource = r ∧
    ∃ w ∈ s.waiting, w.resource = r ∧ [w, job.free].Sublist s.accepted

/-- Taking out a job keeps the order of those that wait. -/
theorem State.remove_waiting_sublist (s : State κ τ ρ γ) (job : Job κ τ ρ γ) :
    (s.remove job).waiting.Sublist s.waiting := by
  rw [State.remove]
  split
  · exact List.erase_sublist
  · exact .refl _

/-- A step that is not a restoration keeps the order. -/
theorem Step.ordered_of_not_restored {s s' : State κ τ ρ γ} {e : Option (Event κ τ ρ γ)}
    (h : Step s e s') {r : ρ} (ho : s.Ordered r)
    (hne : ∀ client job, e ≠ some (.restored client job)) : s'.Ordered r := by
  have hacc : s.accepted.Sublist s'.accepted := by
    rw [State.accepted, State.accepted, h.log, List.filterMap_append]
    exact List.sublist_append_left _ _
  have key : s'.waiting.Sublist s.waiting → s'.Ordered r := fun hw =>
    ((hw.filter _).trans ho).trans hacc
  cases h with
  | accept i job _ _ _ =>
      simp only [State.Ordered, State.accepted, List.filter_append, List.filterMap_append]
      refine ho.append ?_
      by_cases hr : job.resource = r <;> simp [hr, Event.accepted?]
  | restore i client job _ _ _ => exact absurd rfl (hne client job)
  | lease g job _ _ => exact key List.erase_sublist
  | take i job _ _ => exact key (s.remove_waiting_sublist job)
  | drain i g job _ _ => exact key (s.remove_waiting_sublist job)
  | empty i job _ _ => exact key (s.remove_waiting_sublist job)
  | _ => exact key (.refl _)

/-- **The order is lost exactly when a job is restored before an older one.** -/
theorem Step.ordered_iff {s s' : State κ τ ρ γ} {e : Option (Event κ τ ρ γ)} (h : Step s e s')
    (hs : s.ledger.Sound) {r : ρ} (ho : s.Ordered r) : s'.Ordered r ↔ ¬ s.Overtakes r e := by
  by_cases hre : ∃ client job, e = some (.restored client job)
  · obtain ⟨client, job, rfl⟩ := hre
    cases h with
    | restore i _ _ _ hl _ =>
        have hacc : State.accepted
            { s with
              waiting := job.free :: s.waiting, leased := s.leased.erase job
              agents := s.agents.set i .done, log := s.log ++ [.restored client job] } =
            s.accepted := by
          simp [State.accepted, Event.accepted?, List.filterMap_cons]
        rw [State.Ordered, hacc]
        change ((job.free :: s.waiting).filter fun j => j.resource = r).Sublist s.accepted ↔ _
        by_cases hr : job.resource = r
        · have hfree : job.free ∈ s.accepted :=
            Multiset.mem_coe.1 (hs.free_mem_accepted (by simp [State.ledger, hl]))
          have hnot : job.free ∉ s.waiting.filter fun j => j.resource = r := fun hmem =>
            hs.key_ne_of_leased (Multiset.mem_coe.2 (List.mem_of_mem_filter hmem))
              (Multiset.mem_coe.2 hl) rfl
          rw [List.filter_cons, if_pos (show decide (job.free.resource = r) = true by simp [hr]),
            Sequence.cons_sublist_iff (Multiset.coe_nodup.1 hs.accepted_nodup) hfree hnot ho]
          constructor
          · rintro hno ⟨_, _, ⟨⟩, _, w, hw, hwr, hsub⟩
            exact hno w (List.mem_filter.2 ⟨hw, by simpa using hwr⟩) hsub
          · intro hno w hw hsub
            obtain ⟨hw, hwr⟩ := List.mem_filter.1 hw
            exact hno ⟨client, job, rfl, hr, w, hw, by simpa using hwr, hsub⟩
        · rw [List.filter_cons, if_neg (by simp [hr])]
          refine iff_of_true ho ?_
          rintro ⟨_, _, ⟨⟩, hr', _⟩
          exact hr hr'
  · refine iff_of_true (h.ordered_of_not_restored ho fun client job he => hre ⟨client, job, he⟩) ?_
    rintro ⟨client, job, he, _⟩
    exact hre ⟨client, job, he⟩

/-! ### Who took a job out -/

/-- What an agent carries or has handed back, it took out itself. -/
structure State.Credited (s : State κ τ ρ γ) : Prop where
  carried : ∀ i a job, s.agents[i]? = some a → a.carried = some job → .taken i job ∈ s.log
  returned : ∀ i job, .returned i job ∈ s.log → .taken i job ∈ s.log

/-- An agent that carries a job did so before, or has taken it out right now. -/
theorem Step.carries {s s' : State κ τ ρ γ} {e : Option (Event κ τ ρ γ)} (h : Step s e s') {j : ℕ}
    {x : Agent κ τ ρ γ} {job : Job κ τ ρ γ} (hx : s'.agents[j]? = some x)
    (hj : x.carried = some job) :
    (∃ y, s.agents[j]? = some y ∧ y.carried = some job) ∨ e = some (.taken j job) := by
  have append : ∀ a : Agent κ τ ρ γ, a.carried = none → (s.agents ++ [a])[j]? = some x →
      ∃ y, s.agents[j]? = some y ∧ y.carried = some job := by
    intro a ha hx
    rcases Sequence.getElem?_concat_cases hx with ⟨-, rfl⟩ | hx
    · simp [ha] at hj
    · exact ⟨x, hx, hj⟩
  have set : ∀ {i : ℕ} {a b : Agent κ τ ρ γ}, s.agents[i]? = some a →
      (s.agents.set i b)[j]? = some x → (i = j → b.carried = some job → e = some (.taken j job)) →
      (∃ y, s.agents[j]? = some y ∧ y.carried = some job) ∨ e = some (.taken j job) := by
    intro i a b ha hx hb
    rcases Sequence.getElem?_set_cases ha hx with ⟨rfl, rfl⟩ | hx
    · exact .inr (hb rfl hj)
    · exact .inl ⟨x, hx, hj⟩
  cases h with
  | stutter => exact .inl ⟨x, hx, hj⟩
  | lease g job _ _ => exact .inl ⟨x, hx, hj⟩
  | spawn a ha => exact .inl (append a (by rcases ha with rfl | rfl <;> rfl) hx)
  | offer job _ _ _ => exact .inl (append _ rfl hx)
  | quit i a ha _ => exact set ha hx nofun
  | accept i job ha _ _ => exact set ha hx nofun
  | restore i client job ha _ _ => exact set ha hx nofun
  | take i job ha _ => exact set ha hx (by rintro rfl ⟨⟩; rfl)
  | drain i g job ha _ => exact set ha hx (by rintro rfl ⟨⟩; rfl)
  | empty i job ha _ => exact set ha hx (by rintro rfl ⟨⟩; rfl)
  | handBack i job next ha hn =>
      exact set ha hx (by rcases hn with rfl | ⟨g, rfl⟩ | rfl <;> nofun)
  | grant i g ha _ _ => exact set ha hx nofun
  | revoke i g ha _ => exact set ha hx nofun
  | drained i g ha _ => exact set ha hx nofun
  | close i ha => exact set ha hx nofun
  | emptied i ha _ => exact set ha hx nofun
  | evict i g rest ha _ => exact set ha hx nofun
  | evicted i ha _ => exact set ha hx nofun
  | drop i g next ha hn => exact set ha hx (by rcases hn with rfl | rfl <;> nofun)

/-- Every step keeps the credit: a job is carried by the agent that has just taken it out. -/
theorem State.Credited.step {s s' : State κ τ ρ γ} {e : Option (Event κ τ ρ γ)} (h : Step s e s')
    (hs : s.Credited) : s'.Credited := by
  have hsub : ∀ {x}, x ∈ s.log → x ∈ s'.log := fun hx => by
    rw [h.log]
    exact List.mem_append_left _ hx
  constructor
  · intro i a job ha hj
    rcases h.carries ha hj with ⟨b, hb, hj⟩ | rfl
    · exact hsub (hs.carried i b job hb hj)
    · rw [h.log]
      exact List.mem_append_right _ List.mem_cons_self
  · intro i job hret
    rw [h.log] at hret
    rcases List.mem_append.1 hret with hret | hret
    · exact hsub (hs.returned i job hret)
    · obtain rfl := Option.mem_toList.1 hret
      refine hsub ?_
      cases h with
      | handBack _ _ next ha _ => exact hs.carried i _ job ha rfl

/-! ### Handing over -/

/-- No agent that removed a grant still takes out jobs of a resource for which a
job was accepted since. -/
structure State.HandedOver (s : State κ τ ρ γ) : Prop where
  late : ∀ i g, .revoked i g ∈ s.log → ∃ a, s.agents[i]? = some a ∧ a.late = true
  drained : ∀ i g job, [.revoked i g, .accepted job].Sublist s.log → job.resource = g.resource →
    ∀ a, s.agents[i]? = some a → ∀ g', a.drains = some g' → g'.resource ≠ g.resource

/-- No agent that removed a grant took out a job of its resource that was
accepted after that. -/
def State.Spared (s : State κ τ ρ γ) : Prop :=
  ∀ i g job job', [.revoked i g, .accepted job].Sublist s.log → job.resource = g.resource →
    job'.key = job.key → .taken i job' ∉ s.log

/-- The step does not accept a job whose resource is still being cleared for an
older grant. -/
def State.Clear (s : State κ τ ρ γ) (e : Option (Event κ τ ρ γ)) : Prop :=
  ∀ job, e = some (.accepted job) → ∀ g, s.Draining g → g.resource ≠ job.resource

/-- An agent that may have removed a grant stays one. -/
theorem Step.late {s s' : State κ τ ρ γ} {e : Option (Event κ τ ρ γ)} (h : Step s e s') {j : ℕ}
    {x : Agent κ τ ρ γ} (hx : s.agents[j]? = some x) (hl : x.late = true) :
    ∃ y, s'.agents[j]? = some y ∧ y.late = true := by
  have append : ∀ a, ∃ y, (s.agents ++ [a])[j]? = some y ∧ y.late = true := fun a =>
    ⟨x, Sequence.getElem?_concat_of_some a hx, hl⟩
  have set : ∀ {i : ℕ} {a b : Agent κ τ ρ γ}, s.agents[i]? = some a →
      (a.late = true → b.late = true) → ∃ y, (s.agents.set i b)[j]? = some y ∧ y.late = true :=
    fun ha hb => Sequence.exists_getElem?_set (P := fun a => a.late = true) ha hb hx hl
  cases h with
  | stutter => exact ⟨x, hx, hl⟩
  | lease g job _ _ => exact ⟨x, hx, hl⟩
  | spawn a _ => exact append a
  | offer job _ _ _ => exact append _
  | quit i a ha _ => exact set ha fun _ => rfl
  | accept i job ha _ _ => exact set ha fun _ => rfl
  | restore i client job ha _ _ => exact set ha fun _ => rfl
  | take i job ha _ => exact set ha fun _ => rfl
  | drain i g job ha _ => exact set ha fun _ => rfl
  | empty i job ha _ => exact set ha nofun
  | handBack i job next ha _ => exact set ha id
  | grant i g ha _ _ => exact set ha fun _ => rfl
  | revoke i g ha _ => exact set ha fun _ => rfl
  | drained i g ha _ => exact set ha fun _ => rfl
  | close i ha => exact set ha nofun
  | emptied i ha _ => exact set ha fun _ => rfl
  | evict i g rest ha _ => exact set ha fun _ => rfl
  | evicted i ha _ => exact set ha fun _ => rfl
  | drop i g next ha hn => exact set ha fun _ => by rcases hn with rfl | rfl <;> rfl

/-- An agent that removes a grant has removed one. -/
theorem Step.late_of_revoked {s s' : State κ τ ρ γ} {i : ℕ} {g : Grant ρ γ}
    (h : Step s (some (.revoked i g)) s') : ∃ y, s'.agents[i]? = some y ∧ y.late = true := by
  cases h with
  | revoke _ _ ha _ => exact ⟨_, List.getElem?_set_self (List.getElem?_eq_some_iff.1 ha).1, rfl⟩
  | evict _ _ _ ha _ => exact ⟨_, List.getElem?_set_self (List.getElem?_eq_some_iff.1 ha).1, rfl⟩

/-- An agent that takes out the jobs of a grant did so before, or has removed it
right now. -/
theorem Step.drains {s s' : State κ τ ρ γ} {e : Option (Event κ τ ρ γ)} (h : Step s e s') {j : ℕ}
    {x : Agent κ τ ρ γ} {g : Grant ρ γ} (hx : s'.agents[j]? = some x) (hg : x.drains = some g) :
    (∃ y, s.agents[j]? = some y ∧ y.drains = some g) ∨ s.agents[j]? = some .idle := by
  have append : ∀ a : Agent κ τ ρ γ, a.drains = none → (s.agents ++ [a])[j]? = some x →
      ∃ y, s.agents[j]? = some y ∧ y.drains = some g := by
    intro a ha hx
    rcases Sequence.getElem?_concat_cases hx with ⟨-, rfl⟩ | hx
    · simp [ha] at hg
    · exact ⟨x, hx, hg⟩
  have set : ∀ {i : ℕ} {a b : Agent κ τ ρ γ}, s.agents[i]? = some a →
      (s.agents.set i b)[j]? = some x → (b.drains = some g → a.drains = some g ∨ a = .idle) →
      (∃ y, s.agents[j]? = some y ∧ y.drains = some g) ∨ s.agents[j]? = some .idle := by
    intro i a b ha hx hb
    rcases Sequence.getElem?_set_cases ha hx with ⟨rfl, rfl⟩ | hx
    · exact (hb hg).imp (fun h => ⟨a, ha, h⟩) fun h => by rw [ha, h]
    · exact .inl ⟨x, hx, hg⟩
  cases h with
  | stutter => exact .inl ⟨x, hx, hg⟩
  | lease g job _ _ => exact .inl ⟨x, hx, hg⟩
  | spawn a ha => exact .inl (append a (by rcases ha with rfl | rfl <;> rfl) hx)
  | offer job _ _ _ => exact .inl (append _ rfl hx)
  | quit i a ha _ => exact set ha hx nofun
  | accept i job ha _ _ => exact set ha hx nofun
  | restore i client job ha _ _ => exact set ha hx nofun
  | take i job ha _ => exact set ha hx nofun
  | drain i g job ha _ => exact set ha hx .inl
  | empty i job ha _ => exact set ha hx nofun
  | handBack i job next ha _ => exact set ha hx .inl
  | grant i g ha _ _ => exact set ha hx nofun
  | revoke i g ha _ => exact set ha hx (fun _ => .inr rfl)
  | drained i g ha _ => exact set ha hx nofun
  | close i ha => exact set ha hx nofun
  | emptied i ha _ => exact set ha hx nofun
  | evict i g rest ha _ => exact set ha hx nofun
  | evicted i ha _ => exact set ha hx nofun
  | drop i g next ha hn => exact set ha hx (by rcases hn with rfl | rfl <;> nofun)

namespace State

/-- A step that is clear keeps old grants from the jobs of their successors. -/
theorem HandedOver.step {s s' : State κ τ ρ γ} {e : Option (Event κ τ ρ γ)} (h : Step s e s')
    (hs : s.HandedOver) (hc : s.Clear e) : s'.HandedOver := by
  have hlate : ∀ i g, .revoked i g ∈ s.log → ∃ a, s'.agents[i]? = some a ∧ a.late = true :=
    fun i g hm => let ⟨_, ha, hl⟩ := hs.late i g hm; h.late ha hl
  constructor
  · intro i g hm
    rw [h.log] at hm
    rcases List.mem_append.1 hm with hm | hm
    · exact hlate i g hm
    · obtain rfl := Option.mem_toList.1 hm
      exact h.late_of_revoked
  · intro i g job hsub hr a ha g' hg' hgr
    rw [h.log] at hsub
    have hrev : .revoked i g ∈ s.log := by
      cases e with
      | none => simpa using hsub.subset List.mem_cons_self
      | some e =>
          rcases Sequence.concat_sublist_concat_iff (w := [_]).1 hsub with hlog | ⟨rfl, hlog⟩
          · exact hlog.subset List.mem_cons_self
          · exact hlog.subset List.mem_cons_self
    obtain ⟨b, hb, hbg⟩ : ∃ b, s.agents[i]? = some b ∧ b.drains = some g' := by
      refine (h.drains ha hg').resolve_right fun hidle => ?_
      obtain ⟨c, hc, hl⟩ := hs.late i g hrev
      obtain rfl : Agent.idle = c := Option.some.inj (hidle.symm.trans hc)
      exact absurd hl nofun
    cases e with
    | none => exact hs.drained i g job (by simpa using hsub) hr b hb g' hbg hgr
    | some e =>
        rcases Sequence.concat_sublist_concat_iff (w := [_]).1 hsub with hlog | ⟨rfl, -⟩
        · exact hs.drained i g job hlog hr b hb g' hbg hgr
        · exact hc job rfl g' ⟨b, List.mem_of_getElem? hb, hbg⟩ (hgr.trans hr.symm)

/-- **An agent spares the jobs of newer grants**, if none of them is accepted
before it has taken out those of the grant it removed. -/
theorem HandedOver.not_taken {s s' : State κ τ ρ γ} {i : ℕ} {job' : Job κ τ ρ γ}
    (h : Step s (some (.taken i job')) s') (hs : s.HandedOver) (hl : s.ledger.Sound) {g : Grant ρ γ}
    {job : Job κ τ ρ γ} (hsub : [.revoked i g, .accepted job].Sublist s.log)
    (hr : job.resource = g.resource) : job'.key ≠ job.key := by
  intro hk
  obtain ⟨a, ha, hlate⟩ := hs.late i g (hsub.subset List.mem_cons_self)
  have hacc : job ∈ s.accepted :=
    List.mem_filterMap.2 ⟨.accepted job, hsub.subset (by simp), rfl⟩
  have hfree : ∀ hj : job' ∈ s.listed, job'.resource = job.resource := by
    intro hj
    have hj' : job'.free ∈ s.ledger.accepted := hl.free_mem_accepted (by
      rcases List.mem_append.1 hj with hj | hj <;> simp [ledger, hj])
    rw [← hl.eq_of_key hj' (Multiset.mem_coe.2 hacc) hk, Job.free_resource]
  cases h with
  | take _ _ ha' _ =>
      obtain rfl := Option.some.inj (ha.symm.trans ha')
      exact absurd hlate (by simp [Agent.late])
  | empty _ _ ha' _ =>
      obtain rfl := Option.some.inj (ha.symm.trans ha')
      exact absurd hlate (by simp [Agent.late])
  | drain _ g' _ ha' hp =>
      have hres : job'.resource = g'.resource := by
        rcases Option.or_eq_some_iff.1 hp with hp | ⟨-, hp⟩
        · simpa using List.find?_some hp
        · exact (by simpa using List.find?_some hp : _ ∧ _).1
      refine hs.drained i g job hsub hr _ ha' g' rfl ?_
      rw [← hres, hfree (mem_listed_of_picks hp), hr]

/-- A job that is accepted just now was not taken out before. -/
theorem Accepted.not_taken {s s' : State κ τ ρ γ} {job job' : Job κ τ ρ γ}
    (h : Step s (some (.accepted job)) s') (hl : s.ledger.Sound) (hk : job'.key = job.key) {i : ℕ} :
    .taken i job' ∉ s.log := by
  intro hmem
  have hoff : job ∈ s.offered := by
    cases h with
    | accept _ _ ha _ _ => exact List.mem_filterMap.2 ⟨_, List.mem_of_getElem? ha, rfl⟩
  have htaken : job' ∈ s.ledger.taken :=
    Multiset.mem_coe.2 (List.mem_map.2 ⟨(i, job'), List.mem_filterMap.2 ⟨_, hmem, rfl⟩, rfl⟩)
  exact hl.key_ne_of_offered (Multiset.mem_coe.2 hoff) (Multiset.mem_add.2 (.inr htaken)) hk.symm

/-- While old grants are kept from them, no job accepted later is taken out for an old grant. -/
theorem Spared.step {s s' : State κ τ ρ γ} {e : Option (Event κ τ ρ γ)} (h : Step s e s')
    (hs : s.Spared) (hh : s.HandedOver) (hl : s.ledger.Sound) : s'.Spared := by
  intro i g job job' hsub hr hk hmem
  rw [h.log] at hsub hmem
  cases e with
  | none => exact hs i g job job' (by simpa using hsub) hr hk (by simpa using hmem)
  | some e =>
      rcases Sequence.concat_sublist_concat_iff (w := [_]).1 hsub with hlog | ⟨rfl, -⟩
      · rcases List.mem_append.1 hmem with hmem | hmem
        · exact hs i g job job' hlog hr hk hmem
        · obtain rfl := List.mem_singleton.1 hmem
          exact hh.not_taken h hl hlog hr hk
      · exact Accepted.not_taken h hl hk (by simpa using hmem)

end State

end WorkQueue
