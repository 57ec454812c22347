/-
# Who may lease what

A grant backs the jobs of its resource while it is in force, and after that for
as long as an agent still takes them out.  A waiting job always has a backed
grant for its resource, a leased job is held by the client that leased it last
and that client's grant is backed (`State.Routed`): no job is left behind by a
revocation, in whatever order the sections of the agents run.

Closing the queue does not break this, since an agent that removes grants on
closing has found both lists empty before, and nothing refills them
(`State.Shut`).
-/

import VirtUsb.Lib.WorkQueue.Grants
import Mathlib.Tactic.Abel

namespace WorkQueue

universe u

variable {κ τ ρ γ : Type u}

/-! ### Backing -/

namespace State

/-- The grant is in force, or an agent still takes out its jobs. -/
def Backed (s : State κ τ ρ γ) (g : Grant ρ γ) : Prop := g ∈ s.grants ∨ s.Draining g

/-- No listed job needs the grant. -/
def Unneeded (s : State κ τ ρ γ) (g : Grant ρ γ) : Prop :=
  (∀ j ∈ s.waiting, j.resource ≠ g.resource) ∧
    ∀ j ∈ s.leased, j.resource = g.resource → j.holder ≠ some g.client

/-- A grant stays backed if it stays in force, and the one agent that moves goes on draining what
it drained. -/
theorem Backed.of_set {s s' : State κ τ ρ γ} {g : Grant ρ γ} (hg : s.Backed g) {i : ℕ}
    {a b : Agent κ τ ρ γ} (ha : s.agents[i]? = some a) (hset : s'.agents = s.agents.set i b)
    (hgr : g ∈ s.grants → s'.Backed g) (hb : a.drains = some g → b.drains = some g) :
    s'.Backed g := by
  rcases hg with hg | ⟨x, hx, hxg⟩
  · exact hgr hg
  · rcases Sequence.mem_set_or (b := b) ha hx with hx | rfl
    · exact .inr ⟨x, hset ▸ hx, hxg⟩
    · refine .inr ⟨b, hset ▸ List.mem_set ?_ b, hb hxg⟩
      exact (List.getElem?_eq_some_iff.1 ha).1

/-- The same where that agent drained nothing. -/
theorem Backed.of_set_idle {s s' : State κ τ ρ γ} {g : Grant ρ γ} (hg : s.Backed g) {i : ℕ}
    {a b : Agent κ τ ρ γ} (ha : s.agents[i]? = some a) (hset : s'.agents = s.agents.set i b)
    (hidle : a.drains = none) (hgr : g ∈ s.grants → s'.Backed g) : s'.Backed g := by
  refine hg.of_set ha hset hgr fun hag => ?_
  rw [hidle] at hag
  exact absurd hag (by simp)

/-- A new agent takes no backing away. -/
theorem Backed.of_append {s s' : State κ τ ρ γ} {g : Grant ρ γ} (hg : s.Backed g)
    {a : Agent κ τ ρ γ} (happ : s'.agents = s.agents ++ [a])
    (hgr : g ∈ s.grants → g ∈ s'.grants) : s'.Backed g := by
  rcases hg with hg | ⟨x, hx, hxg⟩
  · exact .inl (hgr hg)
  · exact .inr ⟨x, happ ▸ List.mem_append_left _ hx, hxg⟩

/-- With nothing listed, no grant is needed. -/
theorem unneeded_of_listed {s : State κ τ ρ γ} (h : s.listed = []) (g : Grant ρ γ) :
    s.Unneeded g := by
  obtain ⟨hw, hl⟩ := List.append_eq_nil_iff.1 h
  simp [Unneeded, hw, hl]

end State

/-! ### Closing -/

/-- What an agent that is past the first section of a closing may rely on. -/
structure State.Shut (s : State κ τ ρ γ) : Prop where
  closed : ∀ a ∈ s.agents, (a.empties || a.evicts) = true → s.closed = true
  empty : ∀ a ∈ s.agents, a.evicts = true → s.listed = []
  gone : ∀ g next, .dropping g next ∈ s.agents → next.evicts = true → g ∉ s.grants

/-- Where the queue is not closed, no agent is past the first section of a closing. -/
theorem State.Shut.not_closing {s : State κ τ ρ γ} (hs : s.Shut) (hc : s.closed = false)
    {a : Agent κ τ ρ γ} (ha : a ∈ s.agents) : a.empties = false ∧ a.evicts = false := by
  by_contra hne
  have := hs.closed a ha (by cases he : a.empties <;> simp_all)
  simp [hc] at this

/-- A step that adds no job and no grant, and sets one agent to one that is not
further on with a closing. -/
theorem State.Shut.of_set {s s' : State κ τ ρ γ} (hs : s.Shut) {i : ℕ} {a b : Agent κ τ ρ γ}
    (ha : s.agents[i]? = some a) (hset : s'.agents = s.agents.set i b)
    (hc : s'.closed = s.closed) (hl : s.listed = [] → s'.listed = []) (hg : s'.grants ⊆ s.grants)
    (hbe : b.empties = true → a.empties = true) (hbv : b.evicts = true → a.evicts = true)
    (hd : ∀ g next, b = .dropping g next → next.evicts = false) : s'.Shut := by
  have hmem : a ∈ s.agents := List.mem_of_getElem? ha
  refine ⟨fun x hx hxe => ?_, fun x hx hxe => ?_, fun g next hx hxe hmg => ?_⟩
  · rw [hset] at hx
    rw [hc]
    rcases List.mem_or_eq_of_mem_set hx with hx | rfl
    · exact hs.closed x hx hxe
    · refine hs.closed a hmem ?_
      rw [Bool.or_eq_true] at hxe ⊢
      exact hxe.imp hbe hbv
  · rw [hset] at hx
    rcases List.mem_or_eq_of_mem_set hx with hx | rfl
    · exact hl (hs.empty x hx hxe)
    · exact hl (hs.empty a hmem (hbv hxe))
  · rw [hset] at hx
    rcases List.mem_or_eq_of_mem_set hx with hx | rfl
    · exact hs.gone g next hx hxe (hg hmg)
    · simp [hd g next rfl] at hxe

/-- A step that starts one more agent. -/
theorem State.Shut.of_append {s : State κ τ ρ γ} (hs : s.Shut) {a : Agent κ τ ρ γ}
    (ha : a.empties = false ∧ a.evicts = false) (hd : ∀ g next, a ≠ .dropping g next) :
    State.Shut { s with agents := s.agents ++ [a] } := by
  refine ⟨fun x hx hxe => ?_, fun x hx hxe => ?_, fun g next hx hxe => ?_⟩
  · rcases List.mem_append.1 hx with hx | hx
    · exact hs.closed x hx hxe
    · simp [List.mem_singleton.1 hx, ha] at hxe
  · rcases List.mem_append.1 hx with hx | hx
    · exact hs.empty x hx hxe
    · simp [List.mem_singleton.1 hx, ha] at hxe
  · rcases List.mem_append.1 hx with hx | hx
    · exact hs.gone g next hx hxe
    · exact absurd (List.mem_singleton.1 hx).symm (hd g next)

/-- A step of a queue that is open. -/
theorem State.Shut.of_open {s s' : State κ τ ρ γ} (hs : s.Shut) (hc : s.closed = false) {i : ℕ}
    (hset : s'.agents = s.agents.set i .done) : s'.Shut := by
  have hno : ∀ x ∈ s'.agents, x.empties = false ∧ x.evicts = false := by
    intro x hx
    rw [hset] at hx
    rcases List.mem_or_eq_of_mem_set hx with hx | rfl
    · exact hs.not_closing hc hx
    · exact ⟨rfl, rfl⟩
  refine ⟨fun x hx hxe => ?_, fun x hx hxe => ?_, fun g next hx hxe => ?_⟩
  · simp [hno x hx] at hxe
  · simp [hno x hx] at hxe
  · have := (hno _ hx).2
    simp [Agent.evicts, hxe] at this

/-- An agent that goes on without an offer adds none. -/
theorem mem_offered_of_set {l : List (Agent κ τ ρ γ)} {i : ℕ} {b : Agent κ τ ρ γ}
    (hb : b.offered = none) {j : Job κ τ ρ γ} (hj : j ∈ (l.set i b).filterMap Agent.offered) :
    j ∈ l.filterMap Agent.offered := by
  obtain ⟨x, hx, hxj⟩ := List.mem_filterMap.1 hj
  rcases List.mem_or_eq_of_mem_set hx with hx | rfl
  · exact List.mem_filterMap.2 ⟨x, hx, hxj⟩
  · simp [hb] at hxj

variable [DecidableEq κ] [DecidableEq τ] [DecidableEq ρ] [DecidableEq γ]

/-- Empty lists stay empty. -/
theorem State.remove_listed_eq_nil {s : State κ τ ρ γ} {job : Job κ τ ρ γ} (h : s.listed = []) :
    (s.remove job).listed = [] := by
  obtain ⟨hw, hl⟩ := List.append_eq_nil_iff.1 h
  simp [State.remove, State.listed, hw, hl]

/-- **Every step keeps** what a closing agent relies on. -/
theorem State.Shut.step {s s' : State κ τ ρ γ} {e : Option (Event κ τ ρ γ)} (h : Step s e s')
    (hs : s.Shut) (hnd : s.grants.Nodup) : s'.Shut := by
  cases h with
  | stutter => exact hs
  | spawn a ha => rcases ha with rfl | rfl <;> exact hs.of_append ⟨rfl, rfl⟩ nofun
  | offer job _ _ _ => exact hs.of_append ⟨rfl, rfl⟩ nofun
  | quit i a ha _ => exact hs.of_set ha rfl rfl id (List.Subset.refl _) nofun nofun nofun
  | accept i job ha hc _ => exact hs.of_open hc rfl
  | lease g job hg hf =>
      have hw : s.listed ≠ [] := List.ne_nil_of_mem
        (List.mem_append_left s.leased (List.mem_of_find?_eq_some hf))
      exact ⟨hs.closed, fun x hx hxe => absurd (hs.empty x hx hxe) hw, hs.gone⟩
  | restore i client job ha hl _ =>
      have hw : s.listed ≠ [] := List.ne_nil_of_mem (List.mem_append_right s.waiting hl)
      exact hs.of_set ha rfl rfl (absurd · hw) (List.Subset.refl _) nofun nofun nofun
  | take i job ha _ =>
      exact hs.of_set ha rfl (s.remove_closed job) State.remove_listed_eq_nil
        (by simp) nofun nofun nofun
  | drain i g job ha _ =>
      exact hs.of_set ha rfl (s.remove_closed job) State.remove_listed_eq_nil
        (by simp) nofun nofun nofun
  | empty i job ha _ =>
      exact hs.of_set ha rfl (s.remove_closed job) State.remove_listed_eq_nil
        (by simp) (fun _ => rfl) nofun nofun
  | handBack i job next ha hn =>
      refine hs.of_set ha rfl rfl id (List.Subset.refl _) id ?_ ?_ <;>
        rcases hn with rfl | ⟨g, rfl⟩ | rfl <;> nofun
  | grant i g ha hc _ => exact hs.of_open hc rfl
  | revoke i g ha _ => exact hs.of_set ha rfl rfl id List.erase_subset nofun nofun nofun
  | drained i g ha _ =>
      refine hs.of_set ha rfl rfl id (List.Subset.refl _) nofun nofun ?_
      rintro _ _ ⟨⟩
      rfl
  | close i ha =>
      refine ⟨fun _ _ _ => rfl, fun x hx hxe => ?_, fun g next hx hxe => ?_⟩
      · rcases List.mem_or_eq_of_mem_set hx with hx | rfl
        · exact hs.empty x hx hxe
        · exact absurd hxe nofun
      · rcases List.mem_or_eq_of_mem_set hx with hx | hx
        · exact hs.gone g next hx hxe
        · exact absurd hx nofun
  | emptied i ha hl =>
      refine ⟨fun x hx hxe => ?_, fun x hx hxe => hl, fun g next hx hxe => ?_⟩
      · rcases List.mem_or_eq_of_mem_set hx with hx | rfl
        · exact hs.closed x hx hxe
        · exact hs.closed _ (List.mem_of_getElem? ha) rfl
      · rcases List.mem_or_eq_of_mem_set hx with hx | hx
        · exact hs.gone g next hx hxe
        · exact absurd hx nofun
  | evict i g rest ha hg =>
      have hmem := List.mem_of_getElem? ha
      have hrest : g ∉ rest := (List.nodup_cons.1 (hg ▸ hnd)).1
      refine ⟨fun x hx hxe => ?_, fun x hx hxe => hs.empty _ hmem rfl, fun g' next hx hxe hg' => ?_⟩
      · exact hs.closed _ hmem rfl
      · rcases List.mem_or_eq_of_mem_set hx with hx | hx
        · exact hs.gone g' next hx hxe (hg ▸ List.mem_cons_of_mem g hg')
        · cases hx
          exact hrest hg'
  | evicted i ha _ => exact hs.of_set ha rfl rfl id (List.Subset.refl _) nofun nofun nofun
  | drop i g next ha hn =>
      refine hs.of_set ha rfl rfl id (List.Subset.refl _) ?_ id ?_ <;>
        rcases hn with rfl | rfl <;> nofun

/-! ### What one step does to the lists -/

/-- An event is added at the end of the log. -/
theorem Step.log {s s' : State κ τ ρ γ} {e : Option (Event κ τ ρ γ)} (h : Step s e s') :
    s'.log = s.log ++ e.toList := by
  cases h <;> simp

/-- A closed queue stays closed. -/
theorem Step.closed_of_closed {s s' : State κ τ ρ γ} {e : Option (Event κ τ ρ γ)}
    (h : Step s e s') (hs : s.closed = true) : s'.closed = true := by
  cases h <;> simp_all

/-- A client that has a grant keeps one, unless its grant is revoked or the queue is
closed. -/
theorem Step.client_granted {s s' : State κ τ ρ γ} {e : Option (Event κ τ ρ γ)}
    (h : Step s e s') (hs : s.Shut) {client : γ} (hg : ∃ g ∈ s.grants, g.client = client) :
    (∃ g ∈ s'.grants, g.client = client) ∨ s.closed = true ∨
      ∃ i g, e = some (.revoked i g) ∧ g.client = client := by
  obtain ⟨g, hmem, hc⟩ := hg
  cases h with
  | grant i g' _ _ _ => exact .inl ⟨g, List.mem_append_left _ hmem, hc⟩
  | revoke i g' _ _ =>
      rcases eq_or_ne g g' with rfl | hne
      · exact .inr (.inr ⟨i, g, rfl, hc⟩)
      · exact .inl ⟨g, (List.mem_erase_of_ne hne).2 hmem, hc⟩
  | evict i g' rest ha _ => exact .inr (.inl (hs.closed _ (List.mem_of_getElem? ha) rfl))
  | take i job => exact .inl ⟨g, by rwa [State.remove_grants], hc⟩
  | drain i g' job => exact .inl ⟨g, by rwa [State.remove_grants], hc⟩
  | empty i job => exact .inl ⟨g, by rwa [State.remove_grants], hc⟩
  | _ => exact .inl ⟨g, hmem, hc⟩

/-- Taking out a job adds none to those that wait. -/
theorem State.mem_waiting_of_remove {s : State κ τ ρ γ} {job j : Job κ τ ρ γ}
    (h : j ∈ (s.remove job).waiting) : j ∈ s.waiting := by
  rw [State.remove] at h
  split at h
  · exact List.mem_of_mem_erase h
  · exact h

/-- Taking out a job adds none to the leased ones. -/
theorem State.mem_leased_of_remove {s : State κ τ ρ γ} {job j : Job κ τ ρ γ}
    (h : j ∈ (s.remove job).leased) : j ∈ s.leased := by
  rw [State.remove] at h
  split at h
  · exact h
  · exact List.mem_of_mem_erase h

/-- A waiting job was waiting before, or was accepted, or restored. -/
theorem Step.mem_waiting {s s' : State κ τ ρ γ} {e : Option (Event κ τ ρ γ)} (h : Step s e s')
    {j : Job κ τ ρ γ} (hj : j ∈ s'.waiting) :
    j ∈ s.waiting ∨ (e = some (.accepted j) ∧ ∃ g ∈ s.grants, g.resource = j.resource) ∨
      ∃ client, ∃ job ∈ s.leased, e = some (.restored client job) ∧ job.holder = some client ∧
        j = job.free := by
  cases h with
  | accept i job _ _ hg =>
      rcases List.mem_append.1 hj with hj | hj
      · exact .inl hj
      · obtain rfl := List.mem_singleton.1 hj
        exact .inr (.inl ⟨rfl, hg⟩)
  | lease g job _ _ => exact .inl (List.mem_of_mem_erase hj)
  | restore i client job _ hl hh =>
      rcases List.mem_cons.1 hj with rfl | hj
      · exact .inr (.inr ⟨client, job, hl, rfl, hh, rfl⟩)
      · exact .inl hj
  | take i job _ _ => exact .inl (State.mem_waiting_of_remove hj)
  | drain i g job _ _ => exact .inl (State.mem_waiting_of_remove hj)
  | empty i job _ _ => exact .inl (State.mem_waiting_of_remove hj)
  | _ => exact .inl hj

/-- A leased job was leased before, or a client with a grant leased it now. -/
theorem Step.mem_leased {s s' : State κ τ ρ γ} {e : Option (Event κ τ ρ γ)} (h : Step s e s')
    {j : Job κ τ ρ γ} (hj : j ∈ s'.leased) :
    j ∈ s.leased ∨ ∃ g ∈ s.grants, ∃ job ∈ s.waiting, e = some (.leased g.client job) ∧
      job.resource = g.resource ∧ j = { job with holder := some g.client } := by
  cases h with
  | lease g job hg hf =>
      rcases List.mem_append.1 hj with hj | hj
      · exact .inl hj
      · refine .inr ⟨g, hg, job, List.mem_of_find?_eq_some hf, rfl, ?_, List.mem_singleton.1 hj⟩
        simpa using List.find?_some hf
  | restore i client job _ _ _ => exact .inl (List.mem_of_mem_erase hj)
  | take i job _ _ => exact .inl (State.mem_leased_of_remove hj)
  | drain i g job _ _ => exact .inl (State.mem_leased_of_remove hj)
  | empty i job _ _ => exact .inl (State.mem_leased_of_remove hj)
  | _ => exact .inl hj

/-- The slot that the event fills in the lists. -/
def Event.fills : Option (Event κ τ ρ γ) → Multiset τ
  | some (.accepted job) => {job.slot}
  | _ => 0

/-- The slot that the event takes out of the lists. -/
def Event.frees : Option (Event κ τ ρ γ) → Multiset τ
  | some (.taken _ job) => {job.slot}
  | _ => 0

/-- Taking out a job takes its slot out of the lists. -/
theorem State.remove_slots {s : State κ τ ρ γ} {job : Job κ τ ρ γ} (hj : job ∈ s.listed) :
    ((s.remove job).listed.map Job.slot : Multiset τ) + {job.slot} =
      (s.listed.map Job.slot : Multiset τ) := by
  rw [State.remove]
  split
  · rename_i hw
    have h := congrArg (Multiset.map Job.slot) (Sequence.coe_eq_cons_erase hw)
    simp only [Multiset.map_coe, Multiset.map_cons] at h
    simp only [State.listed, List.map_append, ← Multiset.coe_add, h, ← Multiset.singleton_add]
    abel
  · rename_i hw
    have h := congrArg (Multiset.map Job.slot)
      (Sequence.coe_eq_cons_erase ((List.mem_append.1 hj).resolve_left hw))
    simp only [Multiset.map_coe, Multiset.map_cons] at h
    simp only [State.listed, List.map_append, ← Multiset.coe_add, h, ← Multiset.singleton_add]
    abel

/-- **The slots in the two lists** change by acceptance and removal only. -/
theorem Step.slots {s s' : State κ τ ρ γ} {e : Option (Event κ τ ρ γ)} (h : Step s e s') :
    (s'.listed.map Job.slot : Multiset τ) + Event.frees e =
      (s.listed.map Job.slot : Multiset τ) + Event.fills e := by
  cases h with
  | accept i job _ _ _ =>
      simp only [State.listed, List.map_append, ← Multiset.coe_add, Event.frees, Event.fills,
        List.map_singleton, Multiset.coe_singleton]
      abel
  | lease g job _ hf =>
      have h := congrArg (Multiset.map Job.slot)
        (Sequence.coe_eq_cons_erase (List.mem_of_find?_eq_some hf))
      simp only [Multiset.map_coe, Multiset.map_cons] at h
      simp only [State.listed, List.map_append, ← Multiset.coe_add, Event.frees, Event.fills, h,
        List.map_singleton, Multiset.coe_singleton, ← Multiset.singleton_add]
      abel
  | restore i client job _ hl _ =>
      have h := congrArg (Multiset.map Job.slot) (Sequence.coe_eq_cons_erase hl)
      simp only [Multiset.map_coe, Multiset.map_cons] at h
      simp only [State.listed, List.map_append, ← Multiset.coe_add, Event.frees, Event.fills, h,
        List.map_cons, ← Multiset.cons_coe, Job.free_slot, ← Multiset.singleton_add]
      abel
  | take i job _ hj => exact (State.remove_slots hj).trans (add_zero _).symm
  | drain i g job _ hp =>
      exact (State.remove_slots (State.mem_listed_of_picks hp)).trans (add_zero _).symm
  | empty i job _ hj => exact (State.remove_slots hj).trans (add_zero _).symm
  | _ => rfl

/-- An accepted job was accepted before, or offered. -/
theorem Step.mem_accepted {s s' : State κ τ ρ γ} {e : Option (Event κ τ ρ γ)} (h : Step s e s')
    {j : Job κ τ ρ γ} (hj : j ∈ s'.accepted) : j ∈ s.accepted ∨ j ∈ s.offered := by
  rw [State.accepted, h.log, List.filterMap_append] at hj
  refine (List.mem_append.1 hj).imp id fun hj => ?_
  cases h with
  | accept i job ha _ _ =>
      obtain rfl := List.mem_singleton.1 hj
      exact List.mem_filterMap.2 ⟨_, List.mem_of_getElem? ha, rfl⟩
  | _ => simp [Event.accepted?, List.filterMap_cons] at hj

/-- No job is offered by a step that starts no agent. -/
theorem Step.offered_of_length {s s' : State κ τ ρ γ} {e : Option (Event κ τ ρ γ)}
    (h : Step s e s') (hlen : s'.agents.length = s.agents.length) {j : Job κ τ ρ γ}
    (hj : j ∈ s'.offered) : j ∈ s.offered := by
  cases h with
  | spawn a _ => simp at hlen
  | offer job _ _ _ => simp at hlen
  | stutter => exact hj
  | lease g job _ _ => exact hj
  | handBack i job next _ hn =>
      exact mem_offered_of_set (by rcases hn with rfl | ⟨g, rfl⟩ | rfl <;> rfl) hj
  | drop i g next _ hn => exact mem_offered_of_set (by rcases hn with rfl | rfl <;> rfl) hj
  | _ => exact mem_offered_of_set rfl hj

/-! ### Routing -/

/-- The last lease of a key changes by a lease of that key only. -/
theorem Step.lastLease {s s' : State κ τ ρ γ} {e : Option (Event κ τ ρ γ)} (h : Step s e s')
    (key : κ) : s'.lastLease key = (e.bind (Event.leasedBy? key)).or (s.lastLease key) := by
  rw [State.lastLease, h.log, List.filterMap_append, List.getLast?_append, State.lastLease]
  cases e with
  | none => rfl
  | some e => cases he : e.leasedBy? key <;> simp [he]

/-- Only a job that waits is leased. -/
theorem Step.mem_waiting_of_leasedBy {s s' : State κ τ ρ γ} {e : Event κ τ ρ γ}
    (h : Step s (some e) s') {key : κ} {client : γ} (he : e.leasedBy? key = some client) :
    ∃ job ∈ s.waiting, job.key = key := by
  cases h with
  | lease g job _ hf =>
      refine ⟨job, List.mem_of_find?_eq_some hf, ?_⟩
      simp only [Event.leasedBy?] at he
      split at he
      · assumption
      · exact absurd he nofun
  | _ => exact absurd he nofun

namespace State

/-- **Every listed job is backed by a grant of the right client.** -/
structure Routed (s : State κ τ ρ γ) : Prop where
  waiting : ∀ j ∈ s.waiting, ∃ g, g.resource = j.resource ∧ s.Backed g
  leased : ∀ j ∈ s.leased, ∃ client,
    j.holder = some client ∧ s.lastLease j.key = some client ∧ s.Backed ⟨j.resource, client⟩

end State

/-- **A grant stays backed for as long as a job needs it.** -/
theorem Step.backed {s s' : State κ τ ρ γ} {e : Option (Event κ τ ρ γ)} (h : Step s e s')
    (hs : s.Shut) {g : Grant ρ γ} (hg : s.Backed g) : s'.Backed g ∨ s'.Unneeded g := by
  cases h with
  | stutter => exact .inl hg
  | spawn a _ => exact .inl (hg.of_append rfl id)
  | offer job _ _ _ => exact .inl (hg.of_append rfl id)
  | quit i a ha hq =>
      refine .inl (hg.of_set ha rfl .inl fun hag => ?_)
      cases a <;> simp_all [Agent.drains, Agent.offered]
  | accept i job ha _ _ => exact .inl (hg.of_set_idle ha rfl rfl .inl)
  | lease g' job _ _ => exact .inl hg
  | restore i client job ha _ _ => exact .inl (hg.of_set_idle ha rfl rfl .inl)
  | take i job ha _ => exact .inl (hg.of_set_idle ha rfl rfl fun h => .inl (by simpa using h))
  | drain i g' job ha _ => exact .inl (hg.of_set ha rfl (fun h => .inl (by simpa using h)) id)
  | empty i job ha _ => exact .inl (hg.of_set_idle ha rfl rfl fun h => .inl (by simpa using h))
  | handBack i job next ha _ => exact .inl (hg.of_set ha rfl .inl id)
  | grant i g' ha _ _ =>
      exact .inl (hg.of_set_idle ha rfl rfl fun h => .inl (List.mem_append_left _ h))
  | revoke i g' ha hg' =>
      refine .inl (hg.of_set_idle ha rfl rfl fun h => ?_)
      rcases eq_or_ne g g' with rfl | hne
      · exact .inr ⟨.revoking g, List.mem_set (List.getElem?_eq_some_iff.1 ha).1 _, rfl⟩
      · exact .inl ((List.mem_erase_of_ne hne).2 h)
  | drained i g' ha hp =>
      rcases eq_or_ne g g' with rfl | hne
      · have hn := Option.eq_none_iff_forall_ne_some.2 hp
        rw [Option.or_eq_none_iff, List.find?_eq_none, List.find?_eq_none] at hn
        refine .inr ⟨fun j hj => by simpa using hn.1 j hj, fun j hj => by simpa using hn.2 j hj⟩
      · refine .inl (hg.of_set ha rfl .inl fun h => absurd (Option.some.inj h).symm hne)
  | close i ha => exact .inl (hg.of_set_idle ha rfl rfl .inl)
  | emptied i ha _ => exact .inl (hg.of_set_idle ha rfl rfl .inl)
  | evict i g' rest ha _ =>
      exact .inr (State.unneeded_of_listed (hs.empty _ (List.mem_of_getElem? ha) rfl) g)
  | evicted i ha _ => exact .inl (hg.of_set_idle ha rfl rfl .inl)
  | drop i g' next ha hn => exact .inl (hg.of_set_idle ha rfl rfl .inl)

/-- **Every step keeps listed jobs backed.** -/
theorem State.Routed.step {s s' : State κ τ ρ γ} {e : Option (Event κ τ ρ γ)} (h : Step s e s')
    (hr : s.Routed) (hs : s.Shut) (hl : s.ledger.Sound) : s'.Routed := by
  constructor
  · intro j hj
    have key : ∀ g : Grant ρ γ, g.resource = j.resource → s.Backed g →
        ∃ g : Grant ρ γ, g.resource = j.resource ∧ s'.Backed g := fun g hgj hg =>
      ⟨g, hgj, (h.backed hs hg).resolve_right fun hu => hu.1 j hj hgj.symm⟩
    rcases h.mem_waiting hj with hj | ⟨-, g, hg, hgj⟩ | ⟨client, job, hjob, -, hh, rfl⟩
    · obtain ⟨g, hgj, hg⟩ := hr.waiting j hj
      exact key g hgj hg
    · exact key g hgj (.inl hg)
    · obtain ⟨c, hc, -, hb⟩ := hr.leased job hjob
      exact key ⟨job.resource, c⟩ rfl hb
  · intro j hj
    rcases h.mem_leased hj with hold | ⟨g, hg, job, hjob, rfl, hres, rfl⟩
    · obtain ⟨c, hc, hlast, hb⟩ := hr.leased j hold
      refine ⟨c, hc, ?_, (h.backed hs hb).resolve_right fun hu => hu.2 j hj rfl hc⟩
      have hno : e.bind (Event.leasedBy? j.key) = none := by
        refine Option.eq_none_iff_forall_ne_some.2 fun c' hc' => ?_
        obtain ⟨ev, rfl, hev⟩ := Option.bind_eq_some_iff.1 hc'
        obtain ⟨job, hjob, hk⟩ := h.mem_waiting_of_leasedBy hev
        exact hl.key_ne_of_leased (Multiset.mem_coe.2 hjob) (Multiset.mem_coe.2 hold) hk
      rw [h.lastLease, hno, hlast, Option.none_or]
    · refine ⟨g.client, rfl, by simp [h.lastLease, Event.leasedBy?], ?_⟩
      rw [show (⟨job.resource, g.client⟩ : Grant ρ γ) = g by rw [hres]]
      exact (h.backed hs (.inl hg)).resolve_right fun hu => hu.2 _ hj hres rfl

/-! ### Every reachable state -/

/-- What holds of a work queue at all times. -/
structure State.Sound (s : State κ τ ρ γ) : Prop where
  ledger : s.ledger.Sound
  grants : s.grantLedger.Sound
  shut : s.Shut
  routed : s.Routed

omit [DecidableEq τ] [DecidableEq ρ] [DecidableEq γ] in
/-- No grant is in force twice. -/
theorem State.Sound.grants_nodup {s : State κ τ ρ γ} (hs : s.Sound) : s.grants.Nodup :=
  List.Nodup.of_map Grant.client (Multiset.coe_nodup.1 hs.grants.clients)

omit [DecidableEq τ] [DecidableEq ρ] [DecidableEq γ] in
/-- A queue before its first use is sound. -/
theorem State.Initial.sound {s : State κ τ ρ γ} (hs : s.Initial) : s.Sound := by
  obtain ⟨hg, hw, hl, hc, ha, hlog⟩ := hs
  refine ⟨⟨?_, ?_, ?_, ?_, ?_⟩, ⟨?_, ?_, ?_, ?_⟩, ⟨?_, ?_, ?_⟩, ⟨?_, ?_⟩⟩ <;>
    simp [State.ledger, State.grantLedger, State.offered, State.carried, State.held, State.accepted,
      State.taken, State.returned, State.granted, State.revoked, State.dropped, hg, hw, hl, ha, hlog]

/-- **Every step keeps a queue sound.** -/
theorem State.Sound.step {s s' : State κ τ ρ γ} {e : Option (Event κ τ ρ γ)} (h : Step s e s')
    (hs : s.Sound) : s'.Sound :=
  ⟨h.move.sound hs.ledger, h.grantMove.sound hs.grants, hs.shut.step h hs.grants_nodup,
    hs.routed.step h hs.shut hs.ledger⟩

end WorkQueue
