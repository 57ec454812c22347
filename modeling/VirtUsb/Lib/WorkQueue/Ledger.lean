/-
# Where every job of a work queue is

The ledger of a state forgets all orders: it says how often every job is
offered, waiting, leased, carried, and how often it was accepted, taken out and
handed back.  A step moves at most one job from one entry to another
(`Step.move`), so the balances of the ledger need one short case for each kind
of move, not one for each step (`Move.sound`):

* accepted jobs are waiting, leased or taken out, and nothing else is;
* jobs taken out are carried or handed back;
* no key is used twice, and no slot is in use twice at a time.

Read together: an accepted job that was not handed back is in exactly one place.
-/

import VirtUsb.Lib.Sequence
import VirtUsb.Lib.WorkQueue.Basic

namespace WorkQueue

universe u

variable {κ τ ρ γ : Type u}

/-- Where each job is: offered, in one of the lists, carried, or handed back; and how it got there.
-/
@[ext]
structure Ledger (κ τ ρ γ : Type u) where
  offered : Multiset (Job κ τ ρ γ)
  waiting : Multiset (Job κ τ ρ γ)
  leased : Multiset (Job κ τ ρ γ)
  carried : Multiset (Job κ τ ρ γ)
  accepted : Multiset (Job κ τ ρ γ)
  taken : Multiset (Job κ τ ρ γ)
  returned : Multiset (Job κ τ ρ γ)

/-- The moves of one job through the ledger. -/
inductive Move : Ledger κ τ ρ γ → Ledger κ τ ρ γ → Prop
  | still (l) : Move l l
  | offer (job) (O W L C A T R) : job.holder = none → (∀ j ∈ A + O, j.key ≠ job.key) →
      (∀ j ∈ O + W + L + C, j.slot ≠ job.slot) →
      Move ⟨O, W, L, C, A, T, R⟩ ⟨job ::ₘ O, W, L, C, A, T, R⟩
  | withdraw (job) (O W L C A T R) : Move ⟨job ::ₘ O, W, L, C, A, T, R⟩ ⟨O, W, L, C, A, T, R⟩
  | accept (job) (O W L C A T R) :
      Move ⟨job ::ₘ O, W, L, C, A, T, R⟩ ⟨O, job ::ₘ W, L, C, job ::ₘ A, T, R⟩
  | lease (job) (client) (O W L C A T R) : Move ⟨O, job ::ₘ W, L, C, A, T, R⟩
      ⟨O, W, { job with holder := some client } ::ₘ L, C, A, T, R⟩
  | restore (job) (O W L C A T R) :
      Move ⟨O, W, job ::ₘ L, C, A, T, R⟩ ⟨O, job.free ::ₘ W, L, C, A, T, R⟩
  | takeWaiting (job) (O W L C A T R) :
      Move ⟨O, job ::ₘ W, L, C, A, T, R⟩ ⟨O, W, L, job ::ₘ C, A, job ::ₘ T, R⟩
  | takeLeased (job) (O W L C A T R) :
      Move ⟨O, W, job ::ₘ L, C, A, T, R⟩ ⟨O, W, L, job ::ₘ C, A, job ::ₘ T, R⟩
  | handBack (job) (O W L C A T R) :
      Move ⟨O, W, L, job ::ₘ C, A, T, R⟩ ⟨O, W, L, C, A, T, job ::ₘ R⟩

/-- The balances of a ledger. -/
structure Ledger.Sound (l : Ledger κ τ ρ γ) : Prop where
  plain : ∀ j ∈ l.offered + l.waiting + l.accepted, j.holder = none
  accounted : l.accepted = (l.waiting + l.leased + l.taken).map Job.free
  finished : l.taken = l.carried + l.returned
  keys : ((l.accepted + l.offered).map Job.key).Nodup
  slots : ((l.offered + l.waiting + l.leased + l.carried).map Job.slot).Nodup

/-- The key does not depend on the holder. -/
@[simp]
theorem Job.free_key (job : Job κ τ ρ γ) : job.free.key = job.key := rfl

/-- The slot does not depend on the holder. -/
@[simp]
theorem Job.free_slot (job : Job κ τ ρ γ) : job.free.slot = job.slot := rfl

/-- The resource does not depend on the holder. -/
@[simp]
theorem Job.free_resource (job : Job κ τ ρ γ) : job.free.resource = job.resource := rfl

/-- There is one holder to forget. -/
@[simp]
theorem Job.free_free (job : Job κ τ ρ γ) : job.free.free = job.free := rfl

/-- A lease changes the holder and nothing else. -/
@[simp]
theorem Job.free_lease (job : Job κ τ ρ γ) (holder : Option γ) :
    Job.free { job with holder := holder } = job.free := rfl

/-- A job without a holder. -/
theorem Job.free_eq {job : Job κ τ ρ γ} (h : job.holder = none) : job.free = job := by
  cases job
  simp_all [Job.free]

/-- **Every move keeps the jobs accounted for.** -/
theorem Move.sound {l l' : Ledger κ τ ρ γ} (h : Move l l') (hl : l.Sound) : l'.Sound := by
  obtain ⟨hplain, hacc, hfin, hkeys, hslots⟩ := hl
  cases h with
  | still => exact ⟨hplain, hacc, hfin, hkeys, hslots⟩
  | offer job O W L C A T R hh hk hs =>
      refine ⟨by simpa [hh, or_imp, forall_and] using hplain, hacc, hfin, ?_, ?_⟩
      · simpa [Multiset.add_cons] using ⟨by simpa [or_imp, forall_and] using hk, by simpa using hkeys⟩
      · simpa [Multiset.cons_add] using
          ⟨by simpa [or_imp, forall_and, and_assoc] using hs, by simpa using hslots⟩
  | withdraw job O W L C A T R =>
      refine ⟨fun j hj => hplain j (by simp at hj ⊢; tauto), hacc, hfin, ?_, ?_⟩
      · exact (Multiset.nodup_cons.1 (by simpa using hkeys)).2
      · exact (Multiset.nodup_cons.1 (by simpa using hslots)).2
  | accept job O W L C A T R =>
      have hj : job.holder = none := hplain job (by simp)
      refine ⟨fun j hj => hplain j (by simp at hj ⊢; tauto), ?_, hfin, ?_, ?_⟩
      · simp only [Multiset.cons_add, Multiset.map_cons, Job.free_eq hj]
        exact congrArg (job ::ₘ ·) hacc
      · simpa using hkeys
      · simpa using hslots
  | lease job client O W L C A T R =>
      refine ⟨fun j hj => hplain j (by simp at hj ⊢; tauto), by simpa using hacc, hfin, hkeys, ?_⟩
      simpa using hslots
  | restore job O W L C A T R =>
      refine ⟨?_, by simpa using hacc, hfin, hkeys, by simpa using hslots⟩
      simp only [Multiset.mem_add, Multiset.mem_cons] at hplain ⊢
      rintro j ((hj | rfl | hj) | hj)
      · exact hplain j (.inl (.inl hj))
      · rfl
      · exact hplain j (.inl (.inr hj))
      · exact hplain j (.inr hj)
  | takeWaiting job O W L C A T R =>
      refine ⟨fun j hj => hplain j (by simp at hj ⊢; tauto), by simpa using hacc, ?_, hkeys, ?_⟩
      · simpa using hfin
      · simpa using hslots
  | takeLeased job O W L C A T R =>
      refine ⟨hplain, by simpa using hacc, by simpa using hfin, hkeys, by simpa using hslots⟩
  | handBack job O W L C A T R =>
      refine ⟨hplain, hacc, by simpa using hfin, hkeys, ?_⟩
      exact (Multiset.nodup_cons.1 (by simpa using hslots)).2

/-- The keys of the jobs accepted so far, wherever they are now, are all different. -/
theorem Ledger.Sound.keys_nodup {l : Ledger κ τ ρ γ} (hl : l.Sound) :
    ((l.waiting + l.leased + l.carried + l.returned).map Job.key).Nodup := by
  have h := hl.keys
  have hkey : (Job.key ∘ Job.free : Job κ τ ρ γ → κ) = Job.key := rfl
  rw [hl.accounted, hl.finished, Multiset.map_add, Multiset.map_map, hkey, ← add_assoc] at h
  exact Multiset.nodup_of_le (Multiset.le_add_right _ _) h

/-- The slots of the accepted jobs are those of the jobs wherever they are now. -/
theorem Ledger.Sound.slots_accounted {l : Ledger κ τ ρ γ} (hl : l.Sound) :
    l.accepted.map Job.slot = (l.waiting + l.leased + l.carried + l.returned).map Job.slot := by
  rw [hl.accounted, hl.finished, Multiset.map_map, ← add_assoc]
  rfl

/-- No job is accepted twice. -/
theorem Ledger.Sound.accepted_nodup {l : Ledger κ τ ρ γ} (hl : l.Sound) : l.accepted.Nodup :=
  Multiset.Nodup.of_map Job.key
    (Multiset.nodup_of_le (Multiset.map_le_map (Multiset.le_add_right _ _)) hl.keys)

/-- A key names one accepted job. -/
theorem Ledger.Sound.eq_of_key {l : Ledger κ τ ρ γ} (hl : l.Sound) {j j' : Job κ τ ρ γ}
    (hj : j ∈ l.accepted) (hj' : j' ∈ l.accepted) (h : j.key = j'.key) : j = j' :=
  Multiset.inj_on_of_nodup_map hl.keys j (Multiset.mem_add.2 (.inl hj)) j'
    (Multiset.mem_add.2 (.inl hj')) h

/-- A job in a list, or one that was taken out, had been accepted. -/
theorem Ledger.Sound.free_mem_accepted {l : Ledger κ τ ρ γ} (hl : l.Sound) {j : Job κ τ ρ γ}
    (hj : j ∈ l.waiting + l.leased + l.taken) : j.free ∈ l.accepted :=
  hl.accounted ▸ Multiset.mem_map_of_mem _ hj

/-- A waiting job and a leased one have different keys. -/
theorem Ledger.Sound.key_ne_of_leased {l : Ledger κ τ ρ γ} (hl : l.Sound) {j j' : Job κ τ ρ γ}
    (hj : j ∈ l.waiting) (hj' : j' ∈ l.leased) : j.key ≠ j'.key := by
  have h := hl.keys_nodup
  rw [Multiset.map_add, Multiset.map_add, Multiset.map_add, Multiset.nodup_add, Multiset.nodup_add,
    Multiset.nodup_add] at h
  intro hk
  exact Multiset.disjoint_left.1 h.1.1.2.2 (Multiset.mem_map_of_mem _ hj)
    (hk ▸ Multiset.mem_map_of_mem _ hj')

/-- A job that is offered has a key of its own. -/
theorem Ledger.Sound.key_ne_of_offered {l : Ledger κ τ ρ γ} (hl : l.Sound) {j j' : Job κ τ ρ γ}
    (hj : j ∈ l.offered) (hj' : j' ∈ l.waiting + l.leased + l.taken) : j.key ≠ j'.key := by
  have hkeys := hl.keys
  rw [Multiset.map_add, Multiset.nodup_add] at hkeys
  intro hk
  refine Multiset.disjoint_left.1 hkeys.2.2 (?_ : j.key ∈ _) (Multiset.mem_map_of_mem _ hj)
  rw [hk, ← Job.free_key j']
  exact Multiset.mem_map_of_mem _ (hl.free_mem_accepted hj')

/-! ### The ledger of a state -/

namespace State

/-- The jobs of a state as multisets. -/
def ledger (s : State κ τ ρ γ) : Ledger κ τ ρ γ where
  offered := s.offered
  waiting := s.waiting
  leased := s.leased
  carried := s.carried
  accepted := s.accepted
  taken := s.taken.map Prod.snd
  returned := s.returned.map Prod.snd

end State

/-- A step that keeps all lists of jobs, and sets one agent to one that offers
and carries the same. -/
theorem Move.of_set {s s' : State κ τ ρ γ} {i : ℕ} {a b : Agent κ τ ρ γ}
    (ha : s.agents[i]? = some a) (hs : s'.agents = s.agents.set i b) (ho : b.offered = a.offered)
    (hc : b.carried = a.carried) (hw : s'.waiting = s.waiting) (hl : s'.leased = s.leased)
    (hacc : s'.accepted = s.accepted) (ht : s'.taken = s.taken) (hr : s'.returned = s.returned) :
    Move s.ledger s'.ledger := by
  have h : s'.ledger = s.ledger := by
    simp [State.ledger, State.offered, State.carried, hs, hw, hl, hacc, ht, hr,
      Sequence.filterMap_set_eq ha ho, Sequence.filterMap_set_eq ha hc]
  exact h ▸ .still _

/-- The same for a step that logs an event of another kind. -/
theorem Move.of_event {s s' : State κ τ ρ γ} {i : ℕ} {a b : Agent κ τ ρ γ} {e : Event κ τ ρ γ}
    (ha : s.agents[i]? = some a) (hs : s'.agents = s.agents.set i b) (ho : b.offered = a.offered)
    (hc : b.carried = a.carried) (hw : s'.waiting = s.waiting) (hl : s'.leased = s.leased)
    (hlog : s'.log = s.log ++ [e]) (hacc : e.accepted? = none) (ht : e.taken? = none)
    (hr : e.returned? = none) : Move s.ledger s'.ledger :=
  .of_set ha hs ho hc hw hl (by simp [State.accepted, hlog, hacc]) (by simp [State.taken, hlog, ht])
    (by simp [State.returned, hlog, hr])

/-- Rewriting both ends of a move. -/
theorem Move.cast {l l' m m' : Ledger κ τ ρ γ} (h : Move m m') (hl : l = m) (hl' : l' = m') :
    Move l l' := by
  subst hl hl'
  exact h

/-- What an agent may take out for a grant is in one of the lists. -/
theorem State.mem_listed_of_picks [DecidableEq ρ] [DecidableEq γ] {s : State κ τ ρ γ}
    {g : Grant ρ γ} {job : Job κ τ ρ γ} (h : s.Picks g job) : job ∈ s.listed := by
  rcases Option.or_eq_some_iff.1 h with h | ⟨-, h⟩
  · exact List.mem_append_left _ (List.mem_of_find?_eq_some h)
  · exact List.mem_append_right _ (List.mem_of_find?_eq_some h)

/-- A step that takes a listed job out, and gives it to an agent that carried none. -/
theorem Move.of_take [DecidableEq κ] [DecidableEq τ] [DecidableEq ρ] [DecidableEq γ]
    {s : State κ τ ρ γ} {i : ℕ} {a next : Agent κ τ ρ γ} {job : Job κ τ ρ γ}
    (ha : s.agents[i]? = some a) (ho : a.offered = none) (hc : a.carried = none)
    (hj : job ∈ s.listed) :
    Move s.ledger (State.ledger
      { s.remove job with
        agents := s.agents.set i (.carrying job next), log := s.log ++ [.taken i job] }) := by
  have ho' := Sequence.filterMap_set_eq (f := Agent.offered) (b := .carrying job next) ha ho.symm
  have hc' := Sequence.filterMap_set_of_none (f := Agent.carried) (b := .carrying job next) ha hc rfl
  rw [State.remove]
  split
  · rename_i hw
    refine Move.cast (.takeWaiting job s.offered (s.waiting.erase job) s.leased s.carried s.accepted
      (s.taken.map Prod.snd) (s.returned.map Prod.snd)) ?_ ?_
    · ext1 <;> simp [State.ledger, Sequence.coe_eq_cons_erase hw]
    · ext1 <;> simp [State.ledger, State.offered, State.carried, State.accepted, State.taken,
        State.returned, Event.accepted?, Event.taken?, Event.returned?, List.filterMap_cons, ho', hc']
  · rename_i hw
    have hl : job ∈ s.leased := (List.mem_append.1 hj).resolve_left hw
    refine Move.cast (.takeLeased job s.offered s.waiting (s.leased.erase job) s.carried s.accepted
      (s.taken.map Prod.snd) (s.returned.map Prod.snd)) ?_ ?_
    · ext1 <;> simp [State.ledger, Sequence.coe_eq_cons_erase hl]
    · ext1 <;> simp [State.ledger, State.offered, State.carried, State.accepted, State.taken,
        State.returned, Event.accepted?, Event.taken?, Event.returned?, List.filterMap_cons, ho', hc']

variable [DecidableEq κ] [DecidableEq τ] [DecidableEq ρ] [DecidableEq γ]

/-- **A step moves at most one job.** -/
theorem Step.move {s s' : State κ τ ρ γ} {e : Option (Event κ τ ρ γ)} (h : Step s e s') :
    Move s.ledger s'.ledger := by
  cases h with
  | stutter => exact .still _
  | spawn a ha =>
      have hs : State.ledger { s with agents := s.agents ++ [a] } = s.ledger := by
        rcases ha with rfl | rfl <;>
          simp [State.ledger, State.offered, State.carried, Agent.offered, Agent.carried,
            State.accepted, State.taken, State.returned, List.filterMap_cons]
      exact hs ▸ .still _
  | offer job hh hk hs =>
      refine Move.cast (.offer job s.offered s.waiting s.leased s.carried s.accepted
        (s.taken.map Prod.snd) (s.returned.map Prod.snd) hh ?_ ?_) rfl ?_
      · exact fun j hj hjk => hk ⟨j, by simpa using hj, hjk⟩
      · exact fun j hj hjs => hs ⟨j, by simpa [State.listed, or_assoc] using hj, hjs⟩
      · ext1 <;> simp [State.ledger, State.offered, State.carried, Agent.offered, Agent.carried,
          State.accepted, State.taken, State.returned, List.filterMap_cons, ← Multiset.coe_add,
          ← Multiset.singleton_add, add_comm]
  | quit i a ha hq =>
      cases a with
      | idle => exact .of_set ha rfl rfl rfl rfl rfl rfl rfl rfl
      | offering job =>
          have ho := Sequence.filterMap_set_of_some (f := Agent.offered) (b := .done) ha rfl rfl
          have hc := Sequence.filterMap_set_eq (f := Agent.carried) (b := .done) ha rfl
          refine Move.cast (.withdraw job ((s.agents.set i .done).filterMap Agent.offered) s.waiting
            s.leased s.carried s.accepted (s.taken.map Prod.snd) (s.returned.map Prod.snd)) ?_ ?_
          · ext1 <;> simp [State.ledger, State.offered, ho]
          · ext1 <;> simp [State.ledger, State.offered, State.carried, hc, State.accepted,
              State.taken, State.returned]
      | _ => simp [Agent.offered] at hq
  | accept i job ha _ _ =>
      have ho := Sequence.filterMap_set_of_some (f := Agent.offered) (b := .done) ha rfl rfl
      have hc := Sequence.filterMap_set_eq (f := Agent.carried) (b := .done) ha rfl
      refine Move.cast (.accept job ((s.agents.set i .done).filterMap Agent.offered) s.waiting
        s.leased s.carried s.accepted (s.taken.map Prod.snd) (s.returned.map Prod.snd)) ?_ ?_
      · ext1 <;> simp [State.ledger, State.offered, ho]
      · ext1 <;> simp [State.ledger, State.offered, State.carried, hc, State.accepted, State.taken,
          State.returned, Event.accepted?, Event.taken?, Event.returned?, List.filterMap_cons,
          ← Multiset.coe_add, ← Multiset.singleton_add, add_comm]
  | lease g job _ hf =>
      have hw := List.mem_of_find?_eq_some hf
      refine Move.cast (.lease job g.client s.offered (s.waiting.erase job) s.leased s.carried
        s.accepted (s.taken.map Prod.snd) (s.returned.map Prod.snd)) ?_ ?_
      · ext1 <;> simp [State.ledger, Sequence.coe_eq_cons_erase hw]
      · ext1 <;> simp [State.ledger, State.offered, State.carried, State.accepted, State.taken,
          State.returned, Event.accepted?, Event.taken?, Event.returned?, List.filterMap_cons,
          ← Multiset.coe_add, ← Multiset.singleton_add, add_comm]
  | restore i client job ha hl _ =>
      have ho := Sequence.filterMap_set_eq (f := Agent.offered) (b := .done) ha rfl
      have hc := Sequence.filterMap_set_eq (f := Agent.carried) (b := .done) ha rfl
      refine Move.cast (.restore job s.offered s.waiting (s.leased.erase job) s.carried
        s.accepted (s.taken.map Prod.snd) (s.returned.map Prod.snd)) ?_ ?_
      · ext1 <;> simp [State.ledger, Sequence.coe_eq_cons_erase hl]
      · ext1 <;> simp [State.ledger, State.offered, State.carried, State.accepted, State.taken,
          State.returned, Event.accepted?, Event.taken?, Event.returned?, List.filterMap_cons, ho, hc]
  | take i job ha hj => exact .of_take ha rfl rfl hj
  | drain i g job ha hp => exact .of_take ha rfl rfl (State.mem_listed_of_picks hp)
  | empty i job ha hj => exact .of_take ha rfl rfl hj
  | handBack i job next ha hn =>
      have ho := Sequence.filterMap_set_eq (f := Agent.offered) (b := next) ha
        (by rcases hn with rfl | ⟨g, rfl⟩ | rfl <;> rfl)
      have hc := Sequence.filterMap_set_of_some (f := Agent.carried) (b := next) ha rfl
        (by rcases hn with rfl | ⟨g, rfl⟩ | rfl <;> rfl)
      refine Move.cast (.handBack job s.offered s.waiting s.leased
        ((s.agents.set i next).filterMap Agent.carried) s.accepted (s.taken.map Prod.snd)
        (s.returned.map Prod.snd)) ?_ ?_
      · ext1 <;> simp [State.ledger, State.carried, hc]
      · ext1 <;> simp [State.ledger, State.offered, State.carried, State.accepted, State.taken,
          State.returned, Event.accepted?, Event.taken?, Event.returned?, List.filterMap_cons, ho,
          ← Multiset.coe_add, ← Multiset.singleton_add, add_comm]
  | grant i g ha _ _ =>
      exact .of_event ha rfl rfl rfl rfl rfl rfl rfl rfl rfl
  | revoke i g ha _ =>
      exact .of_event ha rfl rfl rfl rfl rfl rfl rfl rfl rfl
  | drained i g ha _ => exact .of_set ha rfl rfl rfl rfl rfl rfl rfl rfl
  | close i ha =>
      exact .of_event ha rfl rfl rfl rfl rfl rfl rfl rfl rfl
  | emptied i ha _ => exact .of_set ha rfl rfl rfl rfl rfl rfl rfl rfl
  | evict i g rest ha _ =>
      exact .of_event ha rfl rfl rfl rfl rfl rfl rfl rfl rfl
  | evicted i ha _ =>
      exact .of_event ha rfl rfl rfl rfl rfl rfl rfl rfl rfl
  | drop i g next ha hn =>
      exact .of_event ha rfl (by rcases hn with rfl | rfl <;> rfl)
        (by rcases hn with rfl | rfl <;> rfl) rfl rfl rfl rfl rfl rfl

end WorkQueue
