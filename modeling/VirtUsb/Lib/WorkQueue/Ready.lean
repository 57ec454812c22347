/-
# When a client of a work queue has something to do

A client is ready when the queue is closed or a job of its resource waits.  Only four
steps can make it so: a job is accepted or restored, a grant is given, or the queue is
closed (`Step.ready`).
-/

import VirtUsb.Lib.WorkQueue.Routing

namespace WorkQueue

universe u

variable {κ τ ρ γ : Type u}

/-- The queue is closed, or a job waits for the client. -/
def State.Ready (s : State κ τ ρ γ) (client : γ) : Prop :=
  s.closed = true ∨
    ∃ g ∈ s.grants, g.client = client ∧ ∃ job ∈ s.waiting, job.resource = g.resource

/-- An event after which a client may be ready that was not before. -/
def Event.readies : Event κ τ ρ γ → Bool
  | .accepted _ => true
  | .restored _ _ => true
  | .granted _ => true
  | .closed _ => true
  | _ => false

variable [DecidableEq κ] [DecidableEq τ] [DecidableEq ρ] [DecidableEq γ]

/-- A queue is closed by one event only. -/
theorem Step.closed {s s' : State κ τ ρ γ} {e : Option (Event κ τ ρ γ)} (h : Step s e s')
    (hc : s'.closed = true) : s.closed = true ∨ ∃ i, e = some (.closed i) := by
  cases h with
  | close i _ => exact .inr ⟨i, rfl⟩
  | take i job _ _ => exact .inl (by rwa [State.remove_closed] at hc)
  | drain i g job _ _ => exact .inl (by rwa [State.remove_closed] at hc)
  | empty i job _ _ => exact .inl (by rwa [State.remove_closed] at hc)
  | _ => exact .inl hc

/-- A grant comes into force by one event only. -/
theorem Step.mem_grants {s s' : State κ τ ρ γ} {e : Option (Event κ τ ρ γ)} (h : Step s e s')
    {g : Grant ρ γ} (hg : g ∈ s'.grants) : g ∈ s.grants ∨ e = some (.granted g) := by
  cases h with
  | grant i g' _ _ _ =>
      rcases List.mem_append.1 hg with hg | hg
      · exact .inl hg
      · obtain rfl := List.mem_singleton.1 hg
        exact .inr rfl
  | revoke i g' _ _ => exact .inl (List.mem_of_mem_erase hg)
  | evict i g' rest _ hrest => exact .inl (hrest ▸ List.mem_cons_of_mem _ hg)
  | take i job _ _ => exact .inl (by rwa [State.remove_grants] at hg)
  | drain i g' job _ _ => exact .inl (by rwa [State.remove_grants] at hg)
  | empty i job _ _ => exact .inl (by rwa [State.remove_grants] at hg)
  | _ => exact .inl hg

/-- **What makes a client ready** shows in the log. -/
theorem Step.ready {s s' : State κ τ ρ γ} {e : Option (Event κ τ ρ γ)} (h : Step s e s')
    {client : γ} (hr : s'.Ready client) :
    s.Ready client ∨ ∃ event, e = some event ∧ event.readies = true := by
  rcases hr with hc | ⟨g, hg, hclient, job, hjob, hres⟩
  · rcases h.closed hc with hc | ⟨i, he⟩
    · exact .inl (.inl hc)
    · exact .inr ⟨_, he, rfl⟩
  rcases h.mem_grants hg with hg | he
  swap
  · exact .inr ⟨_, he, rfl⟩
  rcases h.mem_waiting hjob with hjob | ⟨he, -⟩ | ⟨holder, job', -, he, -⟩
  · exact .inl (.inr ⟨g, hg, hclient, job, hjob, hres⟩)
  · exact .inr ⟨_, he, rfl⟩
  · exact .inr ⟨_, he, rfl⟩

end WorkQueue
