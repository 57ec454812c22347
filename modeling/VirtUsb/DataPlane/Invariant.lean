/-
# What holds of the backend at all times

Beside the soundness of the queue: which transfers were created and what their
ids are, that queued requests have queued transfers, that a URB is linked exactly
while it is in a list, and that the URBs given back are those of the log.
-/

import VirtUsb.DataPlane.Refine

namespace VirtUsb

namespace DataPlane

variable {h : HcdId} {s s' : State}

/-- The URB a logged event gives back. -/
def returnedUrb (e : Event) : Option UrbPtr := e.returned?.map fun x => x.2.slot

/-- The invariant of the threads on one backend. -/
structure Inv (h : HcdId) (s : State) : Prop where
  sound : (queue h s).Sound
  known : Known h s
  nextId : s.world.transferNextId = BitVec.ofNat 64 s.world.nextTransfer
  ids : ∀ t, (queue h s).Used t → (s.world.transfers t).id = BitVec.ofNat 64 (t + 1)
  queued : ∀ j ∈ (queue h s).offered ++ (queue h s).listed,
    (s.world.transfers j.key).state = .queued
  linked : ∀ u, s.world.linked u = true ↔ ∃ j ∈ (queue h s).listed, j.slot = u
  given : s.world.givebacks.map Giveback.urb = s.log.filterMap returnedUrb

/-- The invariant holds before the first use. -/
theorem State.Initial.inv (hs : s.Initial h) : Inv h s := by
  have hq : (queue h s).Initial := by
    simp [WorkQueue.State.Initial, queue, hs.backend, hs.threads, hs.log]
  obtain ⟨-, hw, hl, -, ha, hlog⟩ := id hq
  have hused : ∀ t, ¬ (queue h s).Used t := by
    simp [WorkQueue.State.Used, WorkQueue.State.accepted, WorkQueue.State.offered, ha, hlog]
  refine ⟨WorkQueue.State.Initial.sound hq, fun t ht => absurd ht (hused t), hs.nextId,
    fun t ht => absurd ht (hused t), ?_, ?_, ?_⟩
  · simp [WorkQueue.State.offered, WorkQueue.State.listed, ha, hw, hl]
  · simp [WorkQueue.State.listed, hw, hl, World.linked, hs.unlinked]
  · simp [hs.givebacks, hs.log]

/-! ### Keys of the queue -/

/-- The offered and the listed jobs all have different keys. -/
theorem key_ne_of_offered (hq : (queue h s).Sound) {j j' : Job} (hj : j ∈ (queue h s).offered)
    (hj' : j' ∈ (queue h s).listed) : j.key ≠ j'.key :=
  hq.ledger.key_ne_of_offered (Multiset.mem_coe.2 hj)
    (Multiset.mem_add.2 (.inl (Multiset.mem_coe.2 hj')))

/-- Two threads submit different transfers. -/
theorem eq_of_offered (hq : (queue h s).Sound) {j j' : Job} (hj : j ∈ (queue h s).offered)
    (hj' : j' ∈ (queue h s).offered) (hk : j.key = j'.key) : j = j' := by
  have hkeys := hq.ledger.keys
  rw [Multiset.map_add, Multiset.nodup_add] at hkeys
  exact Multiset.inj_on_of_nodup_map hkeys.2.1 j (Multiset.mem_coe.2 hj) j'
    (Multiset.mem_coe.2 hj') hk

/-- A transfer that is being finished is neither submitted nor queued. -/
theorem key_ne_of_carried (hq : (queue h s).Sound) {j j' : Job} (hj : j ∈ (queue h s).carried)
    (hj' : j' ∈ (queue h s).offered ++ (queue h s).listed) : j.key ≠ j'.key := by
  rcases List.mem_append.1 hj' with hj' | hj'
  · have htaken : j ∈ (queue h s).ledger.taken := by
      rw [hq.ledger.finished]
      exact Multiset.mem_add.2 (.inl (Multiset.mem_coe.2 hj))
    exact (hq.ledger.key_ne_of_offered (Multiset.mem_coe.2 hj')
      (Multiset.mem_add.2 (.inr htaken))).symm
  · have hkeys := hq.ledger.keys_nodup
    rw [Multiset.map_add, Multiset.nodup_add, Multiset.map_add, Multiset.nodup_add] at hkeys
    intro hk
    refine Multiset.disjoint_left.1 hkeys.1.2.2 (?_ : j'.key ∈ _) ?_
    · exact Multiset.mem_map_of_mem _ (Multiset.mem_coe.2 hj')
    · exact hk ▸ Multiset.mem_map_of_mem _ (Multiset.mem_coe.2 hj)

/-- A listed job of the next state was listed or offered, under the same key. -/
theorem exists_of_listed {e : Option Event} (hst : WorkQueue.Step (queue h s) e (queue h s'))
    {j : Job} (hj : j ∈ (queue h s').listed) :
    (∃ j' ∈ (queue h s).listed, j'.key = j.key) ∨
      (e = some (.accepted j) ∧ ∃ j' ∈ (queue h s).offered, j'.key = j.key) := by
  rcases List.mem_append.1 hj with hj | hj
  · rcases hst.mem_waiting hj with hj | ⟨he, -⟩ | ⟨client, j', hj', -, -, rfl⟩
    · exact .inl ⟨j, List.mem_append_left _ hj, rfl⟩
    · refine .inr ⟨he, ?_⟩
      subst he
      generalize queue h s = q at hst
      generalize queue h s' = q' at hst
      cases hst with
      | accept i _ ha _ _ =>
          exact ⟨j, List.mem_filterMap.2 ⟨_, List.mem_of_getElem? ha, rfl⟩, rfl⟩
    · exact .inl ⟨j', List.mem_append_right _ hj', rfl⟩
  · rcases hst.mem_leased hj with hj | ⟨g, -, j', hj', -, -, rfl⟩
    · exact .inl ⟨j, List.mem_append_right _ hj, rfl⟩
    · exact .inl ⟨j', List.mem_append_left _ hj', rfl⟩

/-- What is handed back was carried. -/
theorem carried_of_returned {i : ℕ} {j : Job}
    (hst : WorkQueue.Step (queue h s) (some (.returned i j)) (queue h s')) :
    j ∈ (queue h s).carried := by
  generalize queue h s = q at hst
  generalize queue h s' = q' at hst
  cases hst with
  | handBack _ _ next ha _ => exact List.mem_filterMap.2 ⟨_, List.mem_of_getElem? ha, rfl⟩

/-! ### One step -/

/-- A step of a thread uses no new transfer. -/
theorem Simulated.used {e : Option Event} (hs : Simulated h s e s') {t : TransferPtr}
    (ht : (queue h s').Used t) : (queue h s).Used t := by
  obtain ⟨j, hj, rfl⟩ := ht
  rcases List.mem_append.1 hj with hj | hj
  · rcases hs.step.mem_accepted hj with hj | hj
    · exact ⟨j, List.mem_append_left _ hj, rfl⟩
    · exact ⟨j, List.mem_append_right _ hj, rfl⟩
  · exact ⟨j, List.mem_append_right _ (hs.offered j hj), rfl⟩

/-- A job that is still offered or listed keeps its transfer as it was. -/
theorem Simulated.content_of_mem {e : Option Event} (hs : Simulated h s e s')
    (hq : (queue h s).Sound) {j : Job} (hj : j ∈ (queue h s').offered ++ (queue h s').listed) :
    (s'.world.transfers j.key).content = (s.world.transfers j.key).content ∧
      ∃ j' ∈ (queue h s).offered ++ (queue h s).listed, j'.key = j.key := by
  have hold : ∃ j' ∈ (queue h s).offered ++ (queue h s).listed, j'.key = j.key := by
    rcases List.mem_append.1 hj with hj | hj
    · exact ⟨j, List.mem_append_left _ (hs.offered j hj), rfl⟩
    · rcases exists_of_listed hs.step hj with ⟨j', hj', hk⟩ | ⟨-, j', hj', hk⟩
      · exact ⟨j', List.mem_append_right _ hj', hk⟩
      · exact ⟨j', List.mem_append_left _ hj', hk⟩
  refine ⟨hs.content j.key ?_ ?_, hold⟩
  · rintro i j₀ rfl hk
    obtain ⟨j', hj', hk'⟩ := hold
    exact key_ne_of_carried hq (carried_of_returned hs.step) hj' (hk.trans hk'.symm)
  · rintro rfl j₀ hj₀ hk
    rcases List.mem_append.1 hj with hj | hj
    · rwa [eq_of_offered hq hj₀ (hs.offered j hj) hk]
    · rcases exists_of_listed hs.step hj with ⟨j', hj', hk'⟩ | ⟨he, -⟩
      · exact absurd (hk.trans hk'.symm) (key_ne_of_offered hq hj₀ hj')
      · exact absurd he nofun

/-- After a step, the linked URBs are those of the listed jobs. -/
theorem Simulated.linked_iff {e : Option Event} (hs : Simulated h s e s') (hi : Inv h s)
    (u : UrbPtr) :
    s'.world.linked u = true ↔ ∃ j ∈ (queue h s').listed, j.slot = u := by
  have mem : ∀ q : Queue, (∃ j ∈ q.listed, j.slot = u) ↔
      u ∈ (q.listed.map WorkQueue.Job.slot : Multiset UrbPtr) := fun q => by simp
  have hslots := hs.step.slots
  have hl := hi.linked u
  rw [mem] at hl ⊢
  rw [hs.linked]
  match e, hslots with
  | some (.accepted j), hslots =>
      simp only [WorkQueue.Event.frees, WorkQueue.Event.fills, add_zero] at hslots
      rw [hslots, Multiset.mem_add, Multiset.mem_singleton, relink]
      rcases eq_or_ne u j.slot with rfl | hne
      · simp
      · simp [hne, hl]
  | some (.taken i j), hslots =>
      simp only [WorkQueue.Event.frees, WorkQueue.Event.fills, add_zero] at hslots
      rw [relink]
      rw [← hslots, Multiset.mem_add, Multiset.mem_singleton] at hl
      rcases eq_or_ne u j.slot with rfl | hne
      · have hnodup : ((queue h s).listed.map WorkQueue.Job.slot : Multiset UrbPtr).Nodup := by
          have h' := hi.sound.ledger.slots
          rw [Multiset.map_add, Multiset.nodup_add] at h'
          have h'' := h'.1
          rw [add_assoc, Multiset.map_add, Multiset.nodup_add] at h''
          simpa [WorkQueue.State.ledger, WorkQueue.State.listed] using h''.2.1
        rw [← hslots, add_comm, Multiset.singleton_add, Multiset.nodup_cons] at hnodup
        simp [hnodup.1]
      · simpa [hne] using hl
  | none, hslots | some (.leased _ _), hslots | some (.restored _ _), hslots
  | some (.returned _ _), hslots | some (.granted _), hslots | some (.revoked _ _), hslots
  | some (.dropped _ _), hslots | some (.closed _), hslots | some (.finished _), hslots =>
      simp only [WorkQueue.Event.frees, WorkQueue.Event.fills, add_zero] at hslots
      rwa [hslots]

/-- **A step of a thread keeps the invariant.** -/
theorem Simulated.inv {e : Option Event} (hs : Simulated h s e s') (hi : Inv h s) : Inv h s' := by
  have hq' := hi.sound.step hs.step
  refine ⟨hq', fun t ht => hs.nextTransfer ▸ hi.known t (hs.used ht), ?_, fun t ht => ?_,
    fun j hj => ?_, hs.linked_iff hi, ?_⟩
  · rw [hs.transferNextId, hs.nextTransfer, hi.nextId]
  · rw [hs.transferId, hi.ids t (hs.used ht)]
  · obtain ⟨hcontent, j', hj', hk⟩ := hs.content_of_mem hi.sound hj
    have hstate : (s'.world.transfers j.key).state = (s.world.transfers j.key).state :=
      Transfer.state_of_content hcontent
    rw [hstate, ← hk, hi.queued j' hj']
  · have hlog : s'.log = s.log ++ e.toList := hs.step.log
    rw [hs.givebacks, hi.given, hlog, List.filterMap_append]
    congr 1
    rcases e with _ | (_ | _ | _ | _ | _ | _ | _ | _ | _ | _) <;> rfl

/-- The start of a submission uses the one transfer that it created. -/
theorem Started.used (hs : Started h s s') {t : TransferPtr} (ht : (queue h s').Used t) :
    (queue h s).Used t ∨ t = s.world.nextTransfer := by
  obtain ⟨j, hj, rfl⟩ := ht
  rcases List.mem_append.1 hj with hj | hj
  · refine .inl ⟨j, List.mem_append_left _ ?_, rfl⟩
    have hacc : (queue h s').accepted = (queue h s).accepted :=
      congrArg (List.filterMap WorkQueue.Event.accepted?) hs.log
    rwa [← hacc]
  · exact (hs.offered j hj).imp (fun hj => ⟨j, List.mem_append_right _ hj, rfl⟩) And.left

/-- **The start of a submission keeps the invariant.** -/
theorem Started.inv (hs : Started h s s') (hi : Inv h s) : Inv h s' := by
  have hne : ∀ j ∈ (queue h s).offered ++ (queue h s).listed, j.key ≠ s.world.nextTransfer :=
    fun j hj => (hi.known _ (used_of_mem hi.sound (List.mem_append_left _ hj))).ne
  have hstate : ∀ j ∈ (queue h s).offered ++ (queue h s).listed,
      (s'.world.transfers j.key).state = .queued := fun j hj =>
    (Transfer.state_of_content (hs.content j.key (hne j hj))).trans (hi.queued j hj)
  refine ⟨hi.sound.step hs.step, fun t ht => ?_, ?_, fun t ht => ?_, fun j hj => ?_, fun u => ?_, ?_⟩
  · rw [hs.nextTransfer]
    rcases hs.used ht with ht | rfl
    · exact (hi.known t ht).trans (Nat.lt_succ_self _)
    · exact Nat.lt_succ_self _
  · rw [hs.transferNextId, hs.nextTransfer, hi.nextId]
    exact (BitVec.ofNat_add ..).symm
  · rcases hs.used ht with ht | rfl
    · have hid : (s'.world.transfers t).id = (s.world.transfers t).id :=
        Transfer.id_of_content (hs.content t (hi.known t ht).ne)
      rw [hid, hi.ids t ht]
    · rw [hs.fresh, hs.transferNextId, hi.nextId]
      exact (BitVec.ofNat_add ..).symm
  · rcases List.mem_append.1 hj with hj | hj
    · rcases hs.offered j hj with hj | ⟨-, hq⟩
      · exact hstate j (List.mem_append_left _ hj)
      · exact hq
    · exact hstate j (List.mem_append_right _ (hs.listed ▸ hj))
  · rw [hs.linked, hs.listed]
    exact hi.linked u
  · rw [hs.givebacks, hs.log]
    exact hi.given

/-- **Every step of a thread is a step of the queue**, and keeps the invariant. -/
theorem step_inv {a : Act} (hi : Inv h s) (hs : s.step h a = some s') :
    (∃ e, WorkQueue.Step (queue h s) e (queue h s')) ∧ Inv h s' := by
  cases a with
  | call c env =>
      rcases start_simulates hi.sound hi.known hs with ⟨e, he⟩ | hst
      · exact ⟨⟨e, he.step⟩, he.inv hi⟩
      · exact ⟨⟨none, hst.step⟩, hst.inv hi⟩
  | run i env =>
      obtain ⟨thread, ht, hs⟩ := Option.bind_eq_some_iff.1 hs
      obtain ⟨e, he⟩ := resume_simulates hi.sound ht hs
      exact ⟨⟨e, he.step⟩, he.inv hi⟩

/-- **The invariant holds in every reachable state.** -/
theorem inv_of_reachable (hs : (machine h).Reachable s) : Inv h s :=
  hs.invariant (I := Inv h) (fun _ hi => State.Initial.inv hi) fun _ _ _ hI hst =>
    (step_inv hI hst).2

/-- **The threads on a backend refine a work queue.** -/
theorem simulation : Transition.Simulation (machine h) WorkQueue.machine (Inv h) (queue h) where
  init s hs := by
    simp [WorkQueue.machine, WorkQueue.State.Initial, queue, hs.backend, hs.threads, hs.log]
  step _ _ _ hI hst := (step_inv hI hst).1

/-! ### The threads and the log after a step -/

/-- A call adds a thread, and may change the world. -/
theorem start_eq {env : Env} {c : Call} (hs : s.start h env c = some s') :
    ∃ w thread, s' = s.spawn w thread := by
  cases c with
  | submit u device args =>
      simp only [State.start] at hs
      split at hs
      · simp at hs
      split at hs
      · exact ⟨_, _, (Option.some.inj hs).symm⟩
      · split at hs <;> exact ⟨_, _, (Option.some.inj hs).symm⟩
  | register owner device =>
      simp only [State.start] at hs
      split at hs <;> exact ⟨_, _, (Option.some.inj hs).symm⟩
  | _ => exact ⟨_, _, (Option.some.inj hs).symm⟩

/-- The start of a call is on no record. -/
theorem start_log {env : Env} {c : Call} (hs : s.start h env c = some s') : s'.log = s.log := by
  obtain ⟨w, thread, rfl⟩ := start_eq hs
  rfl

/-- A step of a thread changes the world and that thread, and adds to the record. -/
theorem resume_eq {i : ℕ} {env : Env} {thread : Thread} (hs : s.resume h i env thread = some s') :
    ∃ w thread' events, s' = s.advance i w thread' events := by
  cases thread with
  | done ret => exact absurd hs nofun
  | _ =>
      simp only [State.resume] at hs
      repeat' split at hs
      all_goals first
        | exact ⟨_, _, _, (Option.some.inj hs).symm⟩
        | simp at hs

/-- A step of another thread leaves a thread where it is. -/
theorem threads_of_ne {a : Act} {i : ℕ} {thread : Thread} (hs : s.step h a = some s')
    (ht : s.threads[i]? = some thread) (ha : ∀ env, a ≠ .run i env) :
    s'.threads[i]? = some thread := by
  cases a with
  | call c env =>
      obtain ⟨w, started, rfl⟩ := start_eq hs
      exact Sequence.getElem?_concat_of_some started ht
  | run j env =>
      obtain ⟨running, -, hs⟩ := Option.bind_eq_some_iff.1 hs
      obtain ⟨w, thread', events, rfl⟩ := resume_eq hs
      have hij : j ≠ i := fun hij => ha env (hij ▸ rfl)
      exact (List.getElem?_set_ne hij).trans ht

/-- An acceptance is logged by the locked section of a submit, a restoration by
that of a rollback. -/
theorem resume_log {i : ℕ} {env : Env} {thread : Thread} {e : Event}
    (hs : s.resume h i env thread = some s') (hlog : s'.log = s.log ++ [e]) :
    (∀ j, e = .accepted j → ∃ u t, thread = .submit u t) ∧
      (∀ owner j, e = .restored owner j →
        ∃ owner id fetching, thread = .rollback owner id fetching) := by
  cases thread with
  | submit u t =>
      refine ⟨fun _ _ => ⟨u, t, rfl⟩, fun owner j he => ?_⟩
      simp only [State.resume] at hs
      split at hs <;> obtain rfl := Option.some.inj hs <;> simp [he, State.advance] at hlog
  | rollback owner id fetching =>
      refine ⟨fun j he => ?_, fun _ _ _ => ⟨owner, id, fetching, rfl⟩⟩
      simp only [State.resume] at hs
      split at hs <;> obtain rfl := Option.some.inj hs <;> simp [he, State.advance] at hlog
  | _ =>
      refine ⟨fun j he => absurd hlog ?_, fun owner j he => absurd hlog ?_⟩
      all_goals
        simp only [State.resume] at hs
        repeat' split at hs
      all_goals first
        | obtain rfl := Option.some.inj hs
          simp [he, State.advance]
        | simp at hs

/-- A revocation is logged by the first section of a release, or by a stop. -/
theorem resume_revoked {i k : ℕ} {env : Env} {thread : Thread} {g : Grant}
    (hs : s.resume h i env thread = some s') (hlog : s'.log = s.log ++ [.revoked k g]) :
    thread = .release g.client ∨ thread = .stopUnbind := by
  cases thread with
  | release owner =>
      simp only [State.resume] at hs
      rcases hw : s.world.releaseUnbindLocked h owner with ⟨w, _ | binding⟩
      · rw [hw] at hs
        obtain rfl := Option.some.inj hs
        simp [State.advance] at hlog
      · rw [hw] at hs
        obtain rfl := Option.some.inj hs
        obtain ⟨-, rfl, -⟩ := World.releaseUnbindLocked_some hw
        obtain ⟨-, rfl⟩ : i = k ∧ grant binding = g := by simpa [State.advance] using hlog
        exact .inl rfl
  | stopUnbind => exact .inr rfl
  | _ =>
      refine absurd hlog ?_
      simp only [State.resume] at hs
      repeat' split at hs
      all_goals first
        | obtain rfl := Option.some.inj hs
          simp [State.advance]
        | simp at hs

end DataPlane

end VirtUsb
