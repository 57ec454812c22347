/-
# A work queue with leases

Jobs wait in one queue for all resources.  A client that holds the grant of a
resource leases the oldest waiting job of that resource; it can put a leased job
back at the head of the queue, or have an agent take it out for good.  An agent
can also take a job out of either list on its own, revoke a grant and take out
what was waiting for it, or close the queue and take out everything.  An agent
that took a job out carries it until it hands it back.

Many agents run at once.  A step of the machine is one atomic section of one
agent, and every section that moves a job or a grant appends one event to the
log, which no step reads.  Keys name jobs and are never used twice; a slot is
used by one job at a time and may be used again when that job was handed back.
-/

import VirtUsb.Lib.Machine
import Mathlib.Data.List.Nodup

namespace WorkQueue

universe u

variable {κ τ ρ γ : Type u}

/-- A job, and the client that leases it. -/
structure Job (κ τ ρ γ : Type u) where
  key : κ
  slot : τ
  resource : ρ
  holder : Option γ
  deriving DecidableEq

/-- The right of a client to the jobs of a resource. -/
structure Grant (ρ γ : Type u) where
  resource : ρ
  client : γ
  deriving DecidableEq

/-- What an agent is doing, as far as the queue is concerned. -/
inductive Agent (κ τ ρ γ : Type u)
  /-- It has not removed anything yet. -/
  | idle
  /-- It is about to submit a job. -/
  | offering (job : Job κ τ ρ γ)
  /-- It took out a job and will hand it back. -/
  | carrying (job : Job κ τ ρ γ) (next : Agent κ τ ρ γ)
  /-- It removed a grant and takes out the jobs that were its. -/
  | revoking (grant : Grant ρ γ)
  /-- It closed the queue and takes out all jobs. -/
  | closing
  /-- It closed the queue and removes all grants. -/
  | evicting
  /-- It removed a grant and will drop it. -/
  | dropping (grant : Grant ρ γ) (next : Agent κ τ ρ γ)
  | done

/-- What happened to a job or a grant. -/
inductive Event (κ τ ρ γ : Type u)
  | accepted (job : Job κ τ ρ γ)
  | leased (client : γ) (job : Job κ τ ρ γ)
  | restored (client : γ) (job : Job κ τ ρ γ)
  | taken (agent : ℕ) (job : Job κ τ ρ γ)
  | returned (agent : ℕ) (job : Job κ τ ρ γ)
  | granted (grant : Grant ρ γ)
  | revoked (agent : ℕ) (grant : Grant ρ γ)
  | dropped (agent : ℕ) (grant : Grant ρ γ)
  | closed (agent : ℕ)
  | finished (agent : ℕ)
  deriving DecidableEq

/-- The two lists of jobs, the grants, what each agent is doing, and what happened so far. -/
structure State (κ τ ρ γ : Type u) where
  grants : List (Grant ρ γ)
  waiting : List (Job κ τ ρ γ)
  leased : List (Job κ τ ρ γ)
  closed : Bool
  agents : List (Agent κ τ ρ γ)
  log : List (Event κ τ ρ γ)

/-- The job without its holder. -/
def Job.free (job : Job κ τ ρ γ) : Job κ τ ρ γ := { job with holder := none }

namespace Agent

/-- The job the agent is about to submit. -/
def offered : Agent κ τ ρ γ → Option (Job κ τ ρ γ)
  | .offering job => some job
  | _ => none

/-- The job the agent will hand back. -/
def carried : Agent κ τ ρ γ → Option (Job κ τ ρ γ)
  | .carrying job _ => some job
  | _ => none

/-- The grant whose jobs the agent is still taking out. -/
def drains : Agent κ τ ρ γ → Option (Grant ρ γ)
  | .revoking grant => some grant
  | .carrying _ next => next.drains
  | _ => none

/-- The grant the agent removed and has not dropped yet. -/
def held : Agent κ τ ρ γ → Option (Grant ρ γ)
  | .revoking grant => some grant
  | .dropping grant _ => some grant
  | .carrying _ next => next.held
  | _ => none

/-- The grant an agent holds, with its index. -/
def heldAt (x : Agent κ τ ρ γ × ℕ) : Option (ℕ × Grant ρ γ) := x.1.held.map fun g => (x.2, g)

/-- The agent closed the queue and is still taking out jobs. -/
def empties : Agent κ τ ρ γ → Bool
  | .closing => true
  | .carrying _ next => next.empties
  | _ => false

/-- The agent closed the queue and found it empty. -/
def evicts : Agent κ τ ρ γ → Bool
  | .evicting => true
  | .dropping _ next => next.evicts
  | _ => false

end Agent

namespace Event

/-- The job the event accepts. -/
def accepted? : Event κ τ ρ γ → Option (Job κ τ ρ γ)
  | .accepted job => some job
  | _ => none

/-- The job the event takes out, and the agent that takes it. -/
def taken? : Event κ τ ρ γ → Option (ℕ × Job κ τ ρ γ)
  | .taken agent job => some (agent, job)
  | _ => none

/-- The job the event hands back, and the agent that does. -/
def returned? : Event κ τ ρ γ → Option (ℕ × Job κ τ ρ γ)
  | .returned agent job => some (agent, job)
  | _ => none

/-- The grant the event makes. -/
def granted? : Event κ τ ρ γ → Option (Grant ρ γ)
  | .granted grant => some grant
  | _ => none

/-- The grant the event removes, and the agent that removes it. -/
def revoked? : Event κ τ ρ γ → Option (ℕ × Grant ρ γ)
  | .revoked agent grant => some (agent, grant)
  | _ => none

/-- The grant the event drops, and the agent that drops it. -/
def dropped? : Event κ τ ρ γ → Option (ℕ × Grant ρ γ)
  | .dropped agent grant => some (agent, grant)
  | _ => none

/-- The client that leased the job with the key. -/
def leasedBy? [DecidableEq κ] (key : κ) : Event κ τ ρ γ → Option γ
  | .leased client job => if job.key = key then some client else none
  | _ => none

/-- The one event that takes a job out. -/
theorem taken?_eq_some {e : Event κ τ ρ γ} {x : ℕ × Job κ τ ρ γ} :
    e.taken? = some x ↔ e = .taken x.1 x.2 := by
  cases e <;> simp [taken?, Prod.ext_iff]

/-- The one event that removes a grant. -/
theorem revoked?_eq_some {e : Event κ τ ρ γ} {x : ℕ × Grant ρ γ} :
    e.revoked? = some x ↔ e = .revoked x.1 x.2 := by
  cases e <;> simp [revoked?, Prod.ext_iff]

end Event

namespace State

variable (s : State κ τ ρ γ)

/-- The jobs accepted so far, in the order of acceptance. -/
def accepted : List (Job κ τ ρ γ) := s.log.filterMap Event.accepted?

/-- The jobs taken out so far, each with the agent that took it. -/
def taken : List (ℕ × Job κ τ ρ γ) := s.log.filterMap Event.taken?

/-- The jobs handed back so far, each with the agent that did. -/
def returned : List (ℕ × Job κ τ ρ γ) := s.log.filterMap Event.returned?

/-- The grants made so far. -/
def granted : List (Grant ρ γ) := s.log.filterMap Event.granted?

/-- The grants removed so far, each with the agent that removed it. -/
def revoked : List (ℕ × Grant ρ γ) := s.log.filterMap Event.revoked?

/-- The grants dropped so far, each with the agent that did. -/
def dropped : List (ℕ × Grant ρ γ) := s.log.filterMap Event.dropped?

/-- The client that leased the job with the key last. -/
def lastLease [DecidableEq κ] (key : κ) : Option γ :=
  (s.log.filterMap (Event.leasedBy? key)).getLast?

/-- The jobs about to be submitted. -/
def offered : List (Job κ τ ρ γ) := s.agents.filterMap Agent.offered

/-- The jobs that will be handed back. -/
def carried : List (Job κ τ ρ γ) := s.agents.filterMap Agent.carried

/-- The grants that agents removed and did not drop yet. -/
def held : List (ℕ × Grant ρ γ) := s.agents.zipIdx.filterMap Agent.heldAt

/-- The jobs in the two lists. -/
def listed : List (Job κ τ ρ γ) := s.waiting ++ s.leased

/-- Some agent is still taking out the jobs of the grant. -/
def Draining (grant : Grant ρ γ) : Prop := ∃ a ∈ s.agents, a.drains = some grant

/-- The key belongs to a job that was submitted or is about to be. -/
def Used (key : κ) : Prop := ∃ job ∈ s.accepted ++ s.offered, job.key = key

/-- The slot belongs to a job that was not handed back yet. -/
def Busy (slot : τ) : Prop := ∃ job ∈ s.offered ++ s.listed ++ s.carried, job.slot = slot

/-- The job is the one a drain of the grant takes out next: the first waiting job
of its resource, and only after these a job its client leases. -/
def Picks [DecidableEq ρ] [DecidableEq γ] (grant : Grant ρ γ) (job : Job κ τ ρ γ) : Prop :=
  (s.waiting.find? fun j => j.resource = grant.resource).or
    (s.leased.find? fun j => j.resource = grant.resource ∧ j.holder = some grant.client) =
    some job

variable [DecidableEq κ] [DecidableEq τ] [DecidableEq ρ] [DecidableEq γ]

/-- The state without a listed job. -/
def remove (job : Job κ τ ρ γ) : State κ τ ρ γ :=
  if job ∈ s.waiting then { s with waiting := s.waiting.erase job }
  else { s with leased := s.leased.erase job }

end State

variable [DecidableEq κ] [DecidableEq τ] [DecidableEq ρ] [DecidableEq γ]

/-- One atomic section of one agent, labelled with the event it logs. -/
inductive Step : State κ τ ρ γ → Option (Event κ τ ρ γ) → State κ τ ρ γ → Prop
  | stutter (s) : Step s none s
  | spawn (s) (a) : a = .idle ∨ a = .done → Step s none { s with agents := s.agents ++ [a] }
  | offer (s) (job) : job.holder = none → ¬ s.Used job.key → ¬ s.Busy job.slot →
      Step s none { s with agents := s.agents ++ [.offering job] }
  | quit (s) (i) (a) : s.agents[i]? = some a → a = .idle ∨ a.offered.isSome →
      Step s none { s with agents := s.agents.set i .done }
  | accept (s) (i) (job) : s.agents[i]? = some (.offering job) → s.closed = false →
      (∃ g ∈ s.grants, g.resource = job.resource) →
      Step s (some (.accepted job))
        { s with
          waiting := s.waiting ++ [job], agents := s.agents.set i .done
          log := s.log ++ [.accepted job] }
  | lease (s) (g) (job) : g ∈ s.grants →
      s.waiting.find? (fun j => j.resource = g.resource) = some job →
      Step s (some (.leased g.client job))
        { s with
          waiting := s.waiting.erase job
          leased := s.leased ++ [{ job with holder := some g.client }]
          log := s.log ++ [.leased g.client job] }
  | restore (s) (i) (client) (job) : s.agents[i]? = some .idle → job ∈ s.leased →
      job.holder = some client →
      Step s (some (.restored client job))
        { s with
          waiting := job.free :: s.waiting, leased := s.leased.erase job
          agents := s.agents.set i .done, log := s.log ++ [.restored client job] }
  | take (s) (i) (job) : s.agents[i]? = some .idle → job ∈ s.listed →
      Step s (some (.taken i job))
        { s.remove job with
          agents := s.agents.set i (.carrying job .done), log := s.log ++ [.taken i job] }
  | drain (s) (i) (g) (job) : s.agents[i]? = some (.revoking g) → s.Picks g job →
      Step s (some (.taken i job))
        { s.remove job with
          agents := s.agents.set i (.carrying job (.revoking g)), log := s.log ++ [.taken i job] }
  | empty (s) (i) (job) : s.agents[i]? = some .closing → job ∈ s.listed →
      Step s (some (.taken i job))
        { s.remove job with
          agents := s.agents.set i (.carrying job .closing), log := s.log ++ [.taken i job] }
  | handBack (s) (i) (job) (next) : s.agents[i]? = some (.carrying job next) →
      next = .done ∨ (∃ g, next = .revoking g) ∨ next = .closing →
      Step s (some (.returned i job))
        { s with agents := s.agents.set i next, log := s.log ++ [.returned i job] }
  | grant (s) (i) (g) : s.agents[i]? = some .idle → s.closed = false →
      (∀ g' ∈ s.grants, g'.client ≠ g.client ∧ g'.resource ≠ g.resource) →
      Step s (some (.granted g))
        { s with
          grants := s.grants ++ [g], agents := s.agents.set i .done
          log := s.log ++ [.granted g] }
  | revoke (s) (i) (g) : s.agents[i]? = some .idle → g ∈ s.grants →
      Step s (some (.revoked i g))
        { s with
          grants := s.grants.erase g, agents := s.agents.set i (.revoking g)
          log := s.log ++ [.revoked i g] }
  | drained (s) (i) (g) : s.agents[i]? = some (.revoking g) → (∀ job, ¬ s.Picks g job) →
      Step s none { s with agents := s.agents.set i (.dropping g .done) }
  | close (s) (i) : s.agents[i]? = some .idle →
      Step s (some (.closed i))
        { s with
          closed := true, agents := s.agents.set i .closing, log := s.log ++ [.closed i] }
  | emptied (s) (i) : s.agents[i]? = some .closing → s.listed = [] →
      Step s none { s with agents := s.agents.set i .evicting }
  | evict (s) (i) (g) (rest) : s.agents[i]? = some .evicting → s.grants = g :: rest →
      Step s (some (.revoked i g))
        { s with
          grants := rest, agents := s.agents.set i (.dropping g .evicting)
          log := s.log ++ [.revoked i g] }
  | evicted (s) (i) : s.agents[i]? = some .evicting → s.grants = [] →
      Step s (some (.finished i))
        { s with agents := s.agents.set i .done, log := s.log ++ [.finished i] }
  | drop (s) (i) (g) (next) : s.agents[i]? = some (.dropping g next) →
      next = .done ∨ next = .evicting →
      Step s (some (.dropped i g))
        { s with agents := s.agents.set i next, log := s.log ++ [.dropped i g] }

/-- A queue before its first use. -/
def State.Initial (s : State κ τ ρ γ) : Prop :=
  s.grants = [] ∧ s.waiting = [] ∧ s.leased = [] ∧ s.closed = false ∧ s.agents = [] ∧ s.log = []

/-- The work queue as a machine. -/
def machine : Transition.Machine (State κ τ ρ γ) (Option (Event κ τ ρ γ)) where
  init := State.Initial
  step := Step

end WorkQueue
