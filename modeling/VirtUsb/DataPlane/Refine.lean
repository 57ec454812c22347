/-
# The backend is a work queue

Requests are the jobs of a work queue, bindings its grants, threads its agents:
a transfer is the key of its request, the URB the slot, the device of the
transfer the resource, the file the client.  Every step of a thread is one step
of the queue (`simulation`), so what every step of a work queue keeps
(`WorkQueue.State.Sound.step`) the backend keeps in every interleaving.
-/

import VirtUsb.DataPlane.Threads
import VirtUsb.Kernel.Frame
import VirtUsb.Lib.WorkQueue.Closing
import VirtUsb.Lib.WorkQueue.Order

namespace VirtUsb

namespace DataPlane

/-- The agents of the queue of a backend. -/
abbrev Agent := WorkQueue.Agent TransferPtr UrbPtr DevicePtr FilePtr
/-- The queue of a backend: transfers wait for the files that are bound to their devices. -/
abbrev Queue := WorkQueue.State TransferPtr UrbPtr DevicePtr FilePtr

/-- What a thread does to the queue. -/
def agent (w : World) : Thread → Agent
  | .submit u t => .offering (job w { urb := u, transfer := t })
  | .submitFailed u t _ => .offering (job w { urb := u, transfer := t })
  | .completeTail request _ => .carrying (job w request) .done
  | .cancelTail request _ => .carrying (job w request) .done
  | .releaseDrain binding => .revoking (grant binding)
  | .releaseTail binding request => .carrying (job w request) (.revoking (grant binding))
  | .releasePut binding => .dropping (grant binding) .done
  | .stopDrain => .closing
  | .stopTail request => .carrying (job w request) .closing
  | .stopUnbind => .evicting
  | .stopPut binding => .dropping (grant binding) .evicting
  | .enqueuePut .. => .done
  | .registerPut .. => .done
  | .done _ => .done
  | _ => .idle

/-- The work queue that a state of the threads is. -/
def queue (h : HcdId) (s : State) : Queue where
  grants := (s.world.backends h).bindings.map grant
  waiting := (s.world.backends h).pending.map (job s.world)
  leased := (s.world.backends h).active.map (job s.world)
  closed := (s.world.backends h).stopping
  agents := s.threads.map (agent s.world)
  log := s.log

/-- A binding is determined by its grant. -/
theorem grant_injective : Function.Injective grant := by
  rintro ⟨d, o⟩ ⟨d', o'⟩ h
  simpa [grant] using h

/-- A request is determined by its job. -/
theorem job_injective (w : World) : Function.Injective (job w) := by
  rintro ⟨u, t, o⟩ ⟨u', t', o'⟩ h
  have h' := WorkQueue.Job.mk.inj h
  simp_all

/-- The job of a request depends on the device of its transfer. -/
theorem job_congr {w w' : World} (hd : w'.device = w.device) : job w' = job w := by
  funext request
  exact congrArg (fun d => (⟨request.transfer, request.urb, d, request.owner⟩ : Job))
    (congrFun hd request.transfer)

/-- So does what a thread does to the queue. -/
theorem agent_congr {w w' : World} (hd : w'.device = w.device) : agent w' = agent w := by
  funext thread
  cases thread <;> simp only [agent, job_congr hd]

variable {h : HcdId} {s s' : State}

/-- A thread and its agent have the same index. -/
theorem getElem?_agents {i : ℕ} {thread : Thread} (ht : s.threads[i]? = some thread) :
    (queue h s).agents[i]? = some (agent s.world thread) := by
  simp [queue, ht]

/-- The queue after a step of thread `i` that leaves the backend `b` behind. -/
theorem queue_advance {T : Set TransferPtr} {given : List Giveback} {b : Backend}
    {l : UrbPtr → Bool} {w : World} (hq : Quiet T given (s.world.relist h b l) w) (i : ℕ)
    (thread : Thread) (events : List Event) :
    queue h (s.advance i w thread events) =
      { grants := b.bindings.map grant
        waiting := b.pending.map (job s.world)
        leased := b.active.map (job s.world)
        closed := b.stopping
        agents := (queue h s).agents.set i (agent s.world thread)
        log := s.log ++ events } := by
  have hb : w.backends h = b := by rw [hq.backends, World.relist_backends_self]
  have hd : w.device = s.world.device := by rw [hq.device, World.relist_device]
  simp only [queue, State.advance, hb, job_congr hd, agent_congr hd, List.map_set]

/-- The queue after a step that leaves the backend alone. -/
theorem queue_advance_quiet {T : Set TransferPtr} {given : List Giveback} {w : World}
    (hq : Quiet T given s.world w) (i : ℕ) (thread : Thread) (events : List Event) :
    queue h (s.advance i w thread events) =
      { queue h s with
        agents := (queue h s).agents.set i (agent s.world thread), log := s.log ++ events } :=
  queue_advance (b := s.world.backends h) (l := s.world.linked)
    (by rwa [World.relist_self]) i thread events

/-- The links after a step with the event. -/
def relink (linked : UrbPtr → Bool) : Option Event → UrbPtr → Bool
  | some (.accepted job) => Function.update linked job.slot true
  | some (.taken _ job) => Function.update linked job.slot false
  | _ => linked

/-- The URBs a step with the event gives back. -/
def givenBack : Option Event → List UrbPtr
  | some (.returned _ job) => [job.slot]
  | _ => []

/-- From `s` to `s'` the queue takes the step `e`, and the rest of the world
follows it: URBs are linked and given back as the event says, and only a
transfer that is handed back or withdrawn changes its contents. -/
structure Simulated (h : HcdId) (s : State) (e : Option Event) (s' : State) : Prop where
  step : WorkQueue.Step (queue h s) e (queue h s')
  nextTransfer : s'.world.nextTransfer = s.world.nextTransfer
  transferNextId : s'.world.transferNextId = s.world.transferNextId
  transferId : ∀ t, (s'.world.transfers t).id = (s.world.transfers t).id
  content : ∀ t, (∀ i j, e = some (.returned i j) → j.key ≠ t) →
    (e = none → ∀ j ∈ (queue h s).offered, j.key = t → j ∈ (queue h s').offered) →
    (s'.world.transfers t).content = (s.world.transfers t).content
  offered : ∀ j ∈ (queue h s').offered, j ∈ (queue h s).offered
  linked : s'.world.linked = relink s.world.linked e
  givebacks : s'.world.givebacks.map Giveback.urb = s.world.givebacks.map Giveback.urb ++ givenBack e

/-- A step of a thread adds no agent. -/
theorem length_agents_advance (i : ℕ) (w : World) (thread : Thread) (events : List Event) :
    (queue h (s.advance i w thread events)).agents.length = (queue h s).agents.length := by
  simp [queue, State.advance]

/-- A section that hands nothing back and changes no transfer. -/
theorem Simulated.of_locked {e : Option Event} {b : Backend} {l : UrbPtr → Bool} {w : World}
    {i : ℕ} {thread : Thread} {events : List Event}
    (hstep : WorkQueue.Step (queue h s) e (queue h (s.advance i w thread events)))
    (hq : Quiet ∅ [] (s.world.relist h b l) w) (hl : l = relink s.world.linked e)
    (he : givenBack e = []) : Simulated h s e (s.advance i w thread events) where
  step := hstep
  nextTransfer := hq.nextTransfer
  transferNextId := hq.transferNextId
  transferId := hq.transferId
  content t _ _ := hq.content t fun hm => hm.elim
  offered _ := hstep.offered_of_length (length_agents_advance ..)
  linked := (funext hq.linked : w.linked = _).trans hl
  givebacks := by
    rw [he, List.append_nil]
    exact congrArg (List.map Giveback.urb) (hq.givebacks.trans (List.append_nil _))

/-- A part between two sections, with the step of the queue that goes with it. -/
theorem Simulated.of_quiet {e : Option Event} {w : World} {i : ℕ} {thread : Thread}
    {events : List Event}
    (hstep : WorkQueue.Step (queue h s) e (queue h (s.advance i w thread events)))
    (hq : Quiet ∅ [] s.world w) (hl : relink s.world.linked e = s.world.linked)
    (he : givenBack e = []) : Simulated h s e (s.advance i w thread events) :=
  .of_locked (b := s.world.backends h) (l := s.world.linked) hstep
    (by rwa [World.relist_self]) hl.symm he

/-- A step from an equal state. -/
theorem step_cast {q q' q'' : Queue} {e : Option Event} (hs : WorkQueue.Step q e q'')
    (hq : q' = q'') : WorkQueue.Step q e q' :=
  hq ▸ hs

/-- A step that leaves the backend alone, of a thread that stays what it is to the queue. -/
theorem stutter_of_quiet {w : World} (hq : Quiet ∅ [] s.world w) {i : ℕ} {thread thread' : Thread}
    (ht : s.threads[i]? = some thread) (ha : agent s.world thread' = agent s.world thread) :
    Simulated h s none (s.advance i w thread' []) := by
  refine .of_quiet (step_cast (.stutter _) ?_) hq rfl rfl
  rw [queue_advance_quiet hq, ha]
  have hset : (queue h s).agents.set i (agent s.world thread) = (queue h s).agents := by
    obtain ⟨hi, hti⟩ := List.getElem?_eq_some_iff.1 (getElem?_agents (h := h) ht)
    rw [← hti, List.set_getElem_self]
  rw [hset, List.append_nil]
  rfl

/-- A step that leaves the backend alone, of a thread that stops. -/
theorem quit_of_quiet {w : World} (hq : Quiet ∅ [] s.world w) {i : ℕ} {thread thread' : Thread}
    (ht : s.threads[i]? = some thread) (ha' : agent s.world thread' = .done)
    (ha : agent s.world thread = .idle) : Simulated h s none (s.advance i w thread' []) := by
  refine .of_quiet (step_cast (.quit _ i _ (getElem?_agents ht) (.inl ha)) ?_) hq rfl rfl
  rw [queue_advance_quiet hq, ha', List.append_nil]
  rfl

/-- A step of a thread that hands a request back. -/
theorem handBack_of_quiet {w : World} {i : ℕ} {thread thread' : Thread} {request : Request}
    {status : ℤ} (hq : Quiet {request.transfer} [⟨request.urb, status⟩] s.world w)
    (ht : s.threads[i]? = some thread)
    (ha : agent s.world thread = .carrying (job s.world request) (agent s.world thread'))
    (hn : agent s.world thread' = .done ∨ (∃ g, agent s.world thread' = .revoking g) ∨
      agent s.world thread' = .closing) :
    Simulated h s (some (.returned i (job s.world request)))
      (s.advance i w thread' [.returned i (job s.world request)]) where
  step := by
    refine step_cast (.handBack _ i _ _ ((getElem?_agents ht).trans (congrArg some ha)) hn) ?_
    rw [queue_advance_quiet hq]
    rfl
  nextTransfer := hq.nextTransfer
  transferNextId := hq.transferNextId
  transferId := hq.transferId
  content t ht _ := hq.content t fun hm => ht i _ rfl (Set.mem_singleton_iff.1 hm).symm
  offered j hj := by
    rw [queue_advance_quiet hq] at hj
    exact WorkQueue.mem_offered_of_set (by rcases hn with hn | ⟨g, hn⟩ | hn <;> rw [hn] <;> rfl) hj
  linked := funext hq.linked
  givebacks := (congrArg (List.map Giveback.urb) hq.givebacks).trans (List.map_append ..)

/-- The jobs that are listed are those of the queued requests. -/
theorem mem_listed {request : Request} :
    job s.world request ∈ (queue h s).listed ↔ request ∈ s.queued h := by
  simp only [WorkQueue.State.listed, queue, State.queued, ← List.map_append]
  exact List.mem_map_of_injective (job_injective s.world)

/-- `list_del_init` of a request takes its job out. -/
theorem queue_listDel (request : Request) (agents : List Agent) (log : List Event) :
    ({ grants := ((s.world.backends h).listDel request).bindings.map grant
       waiting := ((s.world.backends h).listDel request).pending.map (job s.world)
       leased := ((s.world.backends h).listDel request).active.map (job s.world)
       closed := ((s.world.backends h).listDel request).stopping
       agents := agents
       log := log } : Queue) =
      { (queue h s).remove (job s.world request) with agents := agents, log := log } := by
  have hmem : job s.world request ∈ (queue h s).waiting ↔
      request ∈ (s.world.backends h).pending :=
    List.mem_map_of_injective (job_injective s.world)
  rw [Backend.listDel, WorkQueue.State.remove]
  by_cases hp : request ∈ (s.world.backends h).pending
  · rw [if_pos hp, if_pos (hmem.2 hp)]
    simp only [queue, List.map_erase (job_injective s.world)]
  · rw [if_neg hp, if_neg (mt hmem.1 hp)]
    simp only [queue, List.map_erase (job_injective s.world)]

/-- A step of a thread that takes a request out of its list. -/
theorem queue_take {T : Set TransferPtr} {w : World} {request : Request}
    (hq : Quiet T [] (s.world.relist h ((s.world.backends h).listDel request)
      (Function.update s.world.linked request.urb false)) w) (i : ℕ) (thread : Thread)
    (events : List Event) :
    queue h (s.advance i w thread events) =
      { (queue h s).remove (job s.world request) with
        agents := (queue h s).agents.set i (agent s.world thread), log := s.log ++ events } := by
  rw [queue_advance hq, queue_listDel]

/-! ### Every section is a step of the queue -/

/-- The section of `virtusb_backend_submit` accepts the job, or its agent goes on with the offer
that failed. -/
theorem submit_simulates {i : ℕ} {env : Env} {u : UrbPtr} {t : TransferPtr}
    (ht : s.threads[i]? = some (.submit u t))
    (hs : s.resume h i env (.submit u t) = some s') :
    ∃ e, Simulated h s e s' := by
  simp only [State.resume] at hs
  split at hs
  · rename_i w e hw
    obtain rfl := World.submitLocked_error hw
    obtain rfl := Option.some.inj hs
    exact ⟨_, stutter_of_quiet (.refl (T := ∅) _) ht rfl⟩
  · rename_i w hw
    obtain rfl := Option.some.inj hs
    obtain ⟨hopen, ⟨b, hb, hdev⟩, hq⟩ := World.submitLocked_ok (T := ∅) hw
    refine ⟨_, .of_locked (step_cast (.accept _ i _ (getElem?_agents ht) hopen
      ⟨grant b, ?_, hdev⟩) ?_) hq rfl rfl⟩
    · exact List.mem_map_of_mem hb
    · rw [queue_advance hq, List.map_append]
      rfl

/-- A submission that failed is withdrawn. -/
theorem submitFailed_simulates {i : ℕ} {u : UrbPtr} {t : TransferPtr} {e : Errno}
    (hsound : (queue h s).Sound) (ht : s.threads[i]? = some (.submitFailed u t e)) :
    Simulated h s none (s.advance i (s.world.submitFailed t e) (.enqueuePut t (.error e)) []) := by
  have hq : Quiet {t} [] s.world (s.world.submitFailed t e) :=
    .submitFailed _ (Set.mem_singleton t) e
  have hset := queue_advance_quiet (h := h) hq i (.enqueuePut t (.error e)) []
  refine ⟨?_, hq.nextTransfer, hq.transferNextId, hq.transferId, fun t' _ hkeep => ?_,
    fun j hj => ?_, funext hq.linked,
    (congrArg (List.map Giveback.urb) hq.givebacks).trans (List.map_append ..)⟩
  · refine step_cast (.quit _ i _ (getElem?_agents ht) (.inr rfl)) ?_
    rw [hset, List.append_nil]
    rfl
  · refine hq.content t' fun hm => ?_
    obtain rfl := Set.mem_singleton_iff.1 hm
    have hoff := Sequence.filterMap_set_of_some (f := WorkQueue.Agent.offered) (b := .done)
      (getElem?_agents (h := h) ht) rfl rfl
    have hmem : job s.world { urb := u, transfer := t' } ∈ (queue h s).offered := by
      refine Multiset.mem_coe.1 (?_ : _ ∈ ((queue h s).offered : Multiset Job))
      rw [WorkQueue.State.offered, hoff]
      exact Multiset.mem_cons_self _ _
    have hnodup : (queue h s).ledger.offered.Nodup := Multiset.Nodup.of_map WorkQueue.Job.key
      (Multiset.nodup_of_le (Multiset.map_le_map (Multiset.le_add_left _ _)) hsound.ledger.keys)
    rw [show (queue h s).ledger.offered = _ from hoff, Multiset.nodup_cons] at hnodup
    refine hnodup.1 ?_
    have hmem' := hkeep rfl _ hmem rfl
    rw [hset] at hmem'
    exact Multiset.mem_coe.2 hmem'
  · rw [hset] at hj
    exact WorkQueue.mem_offered_of_set rfl hj

/-- The section of `virtusb_backend_fetch` leases the first job of the device, if there is one. -/
theorem fetch_simulates {i : ℕ} {env : Env} {owner : FilePtr} {nonblock : Bool}
    (ht : s.threads[i]? = some (.fetch owner nonblock))
    (hs : s.resume h i env (.fetch owner nonblock) = some s') :
    ∃ e, Simulated h s e s' := by
  simp only [State.resume] at hs
  split at hs
  · rename_i w e hw
    obtain rfl := World.fetchLocked_failed hw
    obtain rfl := Option.some.inj hs
    exact ⟨_, quit_of_quiet (.refl (T := ∅) _) ht rfl rfl⟩
  · rename_i w hw
    obtain rfl := World.fetchLocked_empty hw
    obtain rfl := Option.some.inj hs
    cases nonblock with
    | true => exact ⟨_, quit_of_quiet (.refl (T := ∅) _) ht rfl rfl⟩
    | false => exact ⟨_, stutter_of_quiet (.refl (T := ∅) _) ht rfl⟩
  · rename_i w request hw
    obtain rfl := Option.some.inj hs
    obtain ⟨b, hb, rfl, hf, hq⟩ := World.fetchLocked_taken (T := ∅) hw
    have hfind : (queue h s).waiting.find? (fun j => j.resource = (grant b).resource) =
        some (job s.world request) := by
      rw [queue, List.find?_map, Option.map_eq_some_iff]
      exact ⟨request, hf, rfl⟩
    refine ⟨_, .of_locked (step_cast (.lease _ (grant b) _ (List.mem_map_of_mem hb) hfind) ?_)
      hq rfl rfl⟩
    have hset : (queue h s).agents.set i .idle = (queue h s).agents := by
      obtain ⟨hi, hti⟩ := List.getElem?_eq_some_iff.1 (getElem?_agents (h := h) ht)
      rw [← show (queue h s).agents[i] = WorkQueue.Agent.idle from hti, List.set_getElem_self]
    rw [queue_advance hq, List.map_append, List.map_erase (job_injective s.world)]
    simp only [agent, hset]
    rfl

/-- The section of `virtusb_backend_fetch_rollback` restores the job to the front. -/
theorem rollback_simulates {i : ℕ} {env : Env} {owner : FilePtr} {transferId : BitVec 64}
    {fetching : Bool} (ht : s.threads[i]? = some (.rollback owner transferId fetching))
    (hs : s.resume h i env (.rollback owner transferId fetching) = some s') :
    ∃ e, Simulated h s e s' := by
  simp only [State.resume] at hs
  split at hs
  · rename_i w e hw
    obtain rfl := World.rollbackLocked_error hw
    obtain rfl := Option.some.inj hs
    exact ⟨_, quit_of_quiet (.refl (T := ∅) _) ht rfl rfl⟩
  · rename_i w request hw
    obtain ⟨hmem, howner, -, rfl⟩ := World.rollbackLocked_ok hw
    obtain rfl := Option.some.inj hs
    refine ⟨_, .of_locked (step_cast (.restore _ i owner _ (getElem?_agents ht)
      (List.mem_map_of_mem (f := job s.world) hmem) howner) ?_) (.refl _) rfl rfl⟩
    rw [queue_advance (.refl (T := ∅) _), List.map_erase (job_injective s.world)]
    rfl

/-- A request that has an owner is not pending. -/
theorem listDel_of_owner (hq : (queue h s).Sound) {request : Request} {owner : FilePtr}
    (ho : request.owner = some owner) : (s.world.backends h).listDel request =
      { s.world.backends h with active := (s.world.backends h).active.erase request } := by
  refine if_neg fun hp => ?_
  have hw : job s.world request ∈ (queue h s).ledger.waiting :=
    Multiset.mem_coe.2 (List.mem_map_of_mem hp)
  have hnone : request.owner = none :=
    hq.ledger.plain _ (Multiset.mem_add.2 (.inl (Multiset.mem_add.2 (.inr hw))))
  simp [ho] at hnone

/-- The section of `virtusb_backend_complete` takes the job out. -/
theorem complete_simulates {i : ℕ} {env : Env} {owner : FilePtr}
    {completion : TransferCompleteRequest} (hsound : (queue h s).Sound)
    (ht : s.threads[i]? = some (.complete owner completion))
    (hs : s.resume h i env (.complete owner completion) = some s') :
    ∃ e, Simulated h s e s' := by
  simp only [State.resume] at hs
  split at hs
  · rename_i w e hw
    obtain rfl := World.completeLocked_error hw
    obtain rfl := Option.some.inj hs
    exact ⟨_, quit_of_quiet (.refl (T := ∅) _) ht rfl rfl⟩
  · rename_i w request hw
    obtain rfl := Option.some.inj hs
    obtain ⟨hmem, howner, -, hq⟩ := World.completeLocked_ok (T := ∅) hw
    rw [← listDel_of_owner hsound howner] at hq
    have hlisted := mem_listed (h := h).2 (List.mem_append_right _ hmem : request ∈ s.queued h)
    exact ⟨_, .of_locked (step_cast (.take _ i _ (getElem?_agents ht) hlisted) (queue_take hq _ _ _))
      hq rfl rfl⟩

/-- The section of `virtusb_backend_cancel` takes the job of the URB out. -/
theorem cancel_simulates {i : ℕ} {env : Env} {u : UrbPtr} {status : ℤ}
    (ht : s.threads[i]? = some (.cancel u status))
    (hs : s.resume h i env (.cancel u status) = some s') :
    ∃ e, Simulated h s e s' := by
  simp only [State.resume] at hs
  split at hs
  · rename_i w e hw
    obtain rfl := Option.some.inj hs
    exact ⟨_, quit_of_quiet (World.cancelLocked_error (T := ∅) hw) ht rfl rfl⟩
  · rename_i w request hw
    obtain rfl := Option.some.inj hs
    obtain ⟨hmem, rfl, hq⟩ := World.cancelLocked_ok (T := ∅) hw
    have hlisted := mem_listed (h := h).2 (hmem : request ∈ s.queued h)
    exact ⟨_, .of_locked (step_cast (.take _ i _ (getElem?_agents ht) hlisted) (queue_take hq _ _ _))
      hq rfl rfl⟩

/-- The first section of `virtusb_backend_release_owner` revokes the grant of the file. -/
theorem release_simulates {i : ℕ} {env : Env} {owner : FilePtr}
    (ht : s.threads[i]? = some (.release owner))
    (hs : s.resume h i env (.release owner) = some s') :
    ∃ e, Simulated h s e s' := by
  simp only [State.resume] at hs
  split at hs
  · rename_i w hw
    obtain rfl := World.releaseUnbindLocked_none hw
    obtain rfl := Option.some.inj hs
    exact ⟨_, quit_of_quiet (.refl (T := ∅) _) ht rfl rfl⟩
  · rename_i w binding hw
    obtain ⟨hmem, rfl, rfl⟩ := World.releaseUnbindLocked_some hw
    obtain rfl := Option.some.inj hs
    refine ⟨_, .of_locked (step_cast (.revoke _ i (grant binding) (getElem?_agents ht)
      (List.mem_map_of_mem hmem)) ?_) (.refl _) rfl rfl⟩
    rw [queue_advance (.refl (T := ∅) _), List.map_erase grant_injective]
    rfl

/-- What a pass of the drain picks is what the drain of the grant picks. -/
theorem picks_iff {binding : Binding} {j : Job} : (queue h s).Picks (grant binding) j ↔
    (s.world.releasePick h binding.owner binding.device).map (job s.world) = some j := by
  rw [WorkQueue.State.Picks, queue, List.find?_map, List.find?_map, World.releasePick,
    Option.map_or]
  rfl

/-- A pass of its drain takes out a job that the grant picks, or ends the drain. -/
theorem releaseDrain_simulates {i : ℕ} {env : Env} {binding : Binding}
    (ht : s.threads[i]? = some (.releaseDrain binding))
    (hs : s.resume h i env (.releaseDrain binding) = some s') :
    ∃ e, Simulated h s e s' := by
  simp only [State.resume] at hs
  split at hs
  · rename_i w hw
    obtain ⟨rfl, hp⟩ := World.releaseDrainLocked_none hw
    obtain rfl := Option.some.inj hs
    refine ⟨_, .of_quiet (step_cast (.drained _ i (grant binding) (getElem?_agents ht)
      fun j hj => ?_) ?_) (.refl _) rfl rfl⟩
    · rw [picks_iff, hp] at hj
      simp at hj
    · rw [queue_advance_quiet (.refl (T := ∅) _), List.append_nil]
      rfl
  · rename_i w request hw
    obtain rfl := Option.some.inj hs
    obtain ⟨hp, hq⟩ := World.releaseDrainLocked_some (T := ∅) hw
    refine ⟨_, .of_locked (step_cast (.drain _ i (grant binding) _ (getElem?_agents ht) ?_)
      (queue_take hq _ _ _)) hq rfl rfl⟩
    rw [picks_iff, hp]
    rfl

/-- A pass of the first loop of `virtusb_backend_stop` takes out a job, or ends the loop. -/
theorem stopDrain_simulates {i : ℕ} {env : Env} (ht : s.threads[i]? = some .stopDrain)
    (hs : s.resume h i env .stopDrain = some s') :
    ∃ e, Simulated h s e s' := by
  simp only [State.resume] at hs
  split at hs
  · rename_i w hw
    obtain ⟨rfl, hp, ha⟩ := World.stopDrainLocked_none hw
    obtain rfl := Option.some.inj hs
    refine ⟨_, .of_quiet (step_cast (.emptied _ i (getElem?_agents ht) ?_) ?_) (.refl _) rfl rfl⟩
    · simp [WorkQueue.State.listed, queue, hp, ha]
    · rw [queue_advance_quiet (.refl (T := ∅) _), List.append_nil]
      rfl
  · rename_i w request hw
    obtain rfl := Option.some.inj hs
    obtain ⟨hmem, hq⟩ := World.stopDrainLocked_some (T := ∅) hw
    have hlisted := mem_listed (h := h).2 (hmem : request ∈ s.queued h)
    exact ⟨_, .of_locked (step_cast (.empty _ i _ (getElem?_agents ht) hlisted) (queue_take hq _ _ _))
      hq rfl rfl⟩

/-- A pass of its second loop revokes a grant, or ends the stop. -/
theorem stopUnbind_simulates {i : ℕ} {env : Env} (ht : s.threads[i]? = some .stopUnbind)
    (hs : s.resume h i env .stopUnbind = some s') :
    ∃ e, Simulated h s e s' := by
  simp only [State.resume] at hs
  split at hs
  · rename_i w hw
    obtain ⟨rfl, hb⟩ := World.stopUnbindLocked_none hw
    obtain rfl := Option.some.inj hs
    refine ⟨_, .of_quiet (step_cast (.evicted _ i (getElem?_agents ht) ?_) ?_) (.refl _) rfl rfl⟩
    · simp [queue, hb]
    · rw [queue_advance_quiet (.refl (T := ∅) _)]
      rfl
  · rename_i w binding hw
    obtain ⟨rest, hb, rfl⟩ := World.stopUnbindLocked_some hw
    obtain rfl := Option.some.inj hs
    refine ⟨_, .of_locked (step_cast (.evict _ i (grant binding) (rest.map grant)
      (getElem?_agents ht) ?_) ?_) (.refl _) rfl rfl⟩
    · simp [queue, hb]
    · rw [queue_advance (.refl (T := ∅) _)]
      rfl

/-- The section of `virtusb_backend_register` makes a grant, if the file and the device have none.
-/
theorem register_simulates {i : ℕ} {env : Env} {owner : FilePtr} {device : DevicePtr}
    (ht : s.threads[i]? = some (.register owner device))
    (hs : s.resume h i env (.register owner device) = some s') :
    ∃ e, Simulated h s e s' := by
  simp only [State.resume] at hs
  split at hs
  · rename_i w e hw
    obtain rfl := World.registerLocked_error hw
    obtain rfl := Option.some.inj hs
    exact ⟨_, quit_of_quiet (.refl (T := ∅) _) ht rfl rfl⟩
  · rename_i w hw
    obtain ⟨hopen, hfresh, rfl⟩ := World.registerLocked_ok hw
    obtain rfl := Option.some.inj hs
    refine ⟨_, .of_locked (step_cast (.grant _ i ⟨device, owner⟩ (getElem?_agents ht) hopen ?_) ?_)
      (.refl _) rfl rfl⟩
    · intro g hg
      obtain ⟨b, hb, rfl⟩ := List.mem_map.1 hg
      exact hfresh b hb
    · rw [queue_advance (.refl (T := ∅) _), List.map_append]
      rfl

/-- **A step of a running thread is a step of the queue.** -/
theorem resume_simulates {i : ℕ} {env : Env} {thread : Thread} (hsound : (queue h s).Sound)
    (ht : s.threads[i]? = some thread) (hs : s.resume h i env thread = some s') :
    ∃ e, Simulated h s e s' := by
  cases thread with
  | submit u t => exact submit_simulates ht hs
  | submitFailed u t e =>
      obtain rfl := Option.some.inj hs
      exact ⟨_, submitFailed_simulates hsound ht⟩
  | enqueuePut t ret =>
      obtain rfl := Option.some.inj hs
      exact ⟨_, stutter_of_quiet (.transferPut (T := ∅) _ t) ht rfl⟩
  | fetch owner nonblock => exact fetch_simulates ht hs
  | fetchWait owner =>
      simp only [State.resume] at hs
      split at hs
      · obtain rfl := Option.some.inj hs
        exact ⟨_, quit_of_quiet (.refl (T := ∅) _) ht rfl rfl⟩
      split at hs
      · obtain rfl := Option.some.inj hs
        exact ⟨_, stutter_of_quiet (.refl (T := ∅) _) ht rfl⟩
      · simp at hs
  | fetchTail owner t =>
      obtain rfl := Option.some.inj hs
      exact ⟨_, stutter_of_quiet (.fetchTail (T := ∅) _ t) ht rfl⟩
  | fetchCopyOut owner message =>
      obtain rfl := Option.some.inj hs
      split
      · exact ⟨_, quit_of_quiet (.refl (T := ∅) _) ht rfl rfl⟩
      split
      · exact ⟨_, quit_of_quiet (.refl (T := ∅) _) ht rfl rfl⟩
      · exact ⟨_, stutter_of_quiet (.refl (T := ∅) _) ht rfl⟩
  | rollback owner transferId fetching => exact rollback_simulates ht hs
  | complete owner completion => exact complete_simulates hsound ht hs
  | completeTail request completion =>
      obtain rfl := Option.some.inj hs
      obtain ⟨status, hq⟩ := Quiet.completeTail (T := {request.transfer}) s.world rfl completion
      exact ⟨_, handBack_of_quiet hq ht rfl (.inl rfl)⟩
  | cancel u status => exact cancel_simulates ht hs
  | cancelTail request status =>
      obtain rfl := Option.some.inj hs
      exact ⟨_, handBack_of_quiet (.cancelTail _ (Set.mem_singleton _) status) ht rfl (.inl rfl)⟩
  | release owner => exact release_simulates ht hs
  | releaseDrain binding => exact releaseDrain_simulates ht hs
  | releaseTail binding request =>
      obtain rfl := Option.some.inj hs
      exact ⟨_, handBack_of_quiet (.drainTail _ (Set.mem_singleton _)) ht rfl (.inr (.inl ⟨_, rfl⟩))⟩
  | releasePut binding =>
      obtain rfl := Option.some.inj hs
      refine ⟨_, .of_quiet (step_cast (.drop _ i (grant binding) .done (getElem?_agents ht)
        (.inl rfl)) ?_) (.objectPut _ _) rfl rfl⟩
      rw [queue_advance_quiet (.objectPut (T := ∅) _ _)]
      rfl
  | stop =>
      obtain rfl := Option.some.inj hs
      have hq : Quiet ∅ [] (s.world.relist h { s.world.backends h with stopping := true }
          s.world.linked) (s.world.stopSetLocked h) := .refl _
      refine ⟨_, .of_locked (step_cast (.close _ i (getElem?_agents ht)) ?_) hq rfl rfl⟩
      rw [queue_advance hq]
      rfl
  | stopDrain => exact stopDrain_simulates ht hs
  | stopTail request =>
      obtain rfl := Option.some.inj hs
      exact ⟨_, handBack_of_quiet (.drainTail _ (Set.mem_singleton _)) ht rfl (.inr (.inr rfl))⟩
  | stopUnbind => exact stopUnbind_simulates ht hs
  | stopPut binding =>
      obtain rfl := Option.some.inj hs
      refine ⟨_, .of_quiet (step_cast (.drop _ i (grant binding) .evicting (getElem?_agents ht)
        (.inr rfl)) ?_) (.objectPut _ _) rfl rfl⟩
      rw [queue_advance_quiet (.objectPut (T := ∅) _ _)]
      rfl
  | register owner device => exact register_simulates ht hs
  | registerPut device e =>
      obtain rfl := Option.some.inj hs
      exact ⟨_, stutter_of_quiet (.objectPut (T := ∅) _ _) ht rfl⟩
  | done ret => simp [State.resume] at hs

/-! ### A call is a step of the queue -/

/-- Every transfer the queue has used was created. -/
def Known (h : HcdId) (s : State) : Prop :=
  ∀ t, (queue h s).Used t → t < s.world.nextTransfer

/-- A job that is offered, listed or carried has been used. -/
theorem used_of_mem {j : Job} (hsound : (queue h s).Sound)
    (hj : j ∈ (queue h s).offered ++ (queue h s).listed ++ (queue h s).carried) :
    (queue h s).Used j.key := by
  have taken : ∀ j : Job, j ∈ (queue h s).ledger.waiting + (queue h s).ledger.leased +
      (queue h s).ledger.taken → (queue h s).Used j.key := fun j hj =>
    ⟨j.free, List.mem_append_left _ (Multiset.mem_coe.1 (hsound.ledger.free_mem_accepted hj)), rfl⟩
  rcases List.mem_append.1 hj with hj | hj
  · rcases List.mem_append.1 hj with hj | hj
    · exact ⟨j, List.mem_append_right _ hj, rfl⟩
    · refine taken j (Multiset.mem_add.2 (.inl ?_))
      exact Multiset.mem_coe.2 hj
  · refine taken j (Multiset.mem_add.2 (.inr ?_))
    rw [hsound.ledger.finished]
    exact Multiset.mem_add.2 (.inl (Multiset.mem_coe.2 hj))

/-- The queue after a new thread was started. -/
theorem queue_spawn {w : World} (hq : Quiet ∅ [] s.world w) (thread : Thread) :
    queue h (s.spawn w thread) =
      { queue h s with agents := (queue h s).agents ++ [agent s.world thread] } := by
  simp only [queue, State.spawn, hq.backends, job_congr hq.device, agent_congr hq.device,
    List.map_append, List.map_singleton]

/-- A new thread that offers nothing is a new agent of the queue. -/
theorem spawn_simulates {w : World} (hq : Quiet ∅ [] s.world w) {thread : Thread}
    (ha : agent s.world thread = .idle ∨ agent s.world thread = .done) :
    ∃ e, Simulated h s e (s.spawn w thread) := by
  refine ⟨none, step_cast (.spawn _ _ ha) (queue_spawn hq thread), hq.nextTransfer,
    hq.transferNextId, hq.transferId, fun t _ _ => hq.content t fun hm => hm.elim, fun j hj => ?_,
    funext hq.linked, congrArg (List.map Giveback.urb) hq.givebacks |>.trans (List.map_append ..)⟩
  rw [queue_spawn hq, WorkQueue.State.offered, List.filterMap_append] at hj
  refine (List.mem_append.1 hj).resolve_right fun hj => ?_
  rcases ha with ha | ha <;> simp [ha, WorkQueue.Agent.offered, List.filterMap_cons] at hj

/-- A transfer that is created changes no other job. -/
theorem job_of_ne {w w' : World} {d : DevicePtr} {t : TransferPtr}
    (hd : w'.device = Function.update w.device t d) {request : Request}
    (hr : request.transfer ≠ t) : job w' request = job w request := by
  have hdev : w'.requestDevice request = w.requestDevice request :=
    (congrFun hd request.transfer).trans (Function.update_of_ne hr _ _)
  simp [job, hdev]

/-- A new transfer changes no job of the queue. -/
theorem queue_world_created {w : World} {d : DevicePtr} {t : TransferPtr}
    (hsound : (queue h s).Sound) (hk : Known h s) (ht : t = s.world.nextTransfer)
    (hb : w.backends = s.world.backends) (hd : w.device = Function.update s.world.device t d) :
    queue h { s with world := w } = queue h s := by
  have hne : ∀ j ∈ (queue h s).offered ++ (queue h s).listed ++ (queue h s).carried, j.key ≠ t :=
    fun j hj => ht ▸ (hk _ (used_of_mem hsound hj)).ne
  have hjob : ∀ request ∈ s.queued h, job w request = job s.world request := fun request hr =>
    job_of_ne hd (hne (job s.world request)
      (List.mem_append_left _ (List.mem_append_right _ (mem_listed.2 hr))))
  have hagent : ∀ thread ∈ s.threads, agent w thread = agent s.world thread := by
    intro thread hthread
    have hmem : agent s.world thread ∈ (queue h s).agents := List.mem_map_of_mem hthread
    have offered : ∀ request, (agent s.world thread).offered = some (job s.world request) →
        job w request = job s.world request := fun request hr =>
      job_of_ne hd (hne _ (List.mem_append_left _ (List.mem_append_left _
        (List.mem_filterMap.2 ⟨_, hmem, hr⟩))))
    have carried : ∀ request, (agent s.world thread).carried = some (job s.world request) →
        job w request = job s.world request := fun request hr =>
      job_of_ne hd (hne _ (List.mem_append_right _ (List.mem_filterMap.2 ⟨_, hmem, hr⟩)))
    cases thread with
    | submit u t => exact congrArg WorkQueue.Agent.offering (offered _ rfl)
    | submitFailed u t e => exact congrArg WorkQueue.Agent.offering (offered _ rfl)
    | completeTail r c => exact congrArg (WorkQueue.Agent.carrying · _) (carried _ rfl)
    | cancelTail r st => exact congrArg (WorkQueue.Agent.carrying · _) (carried _ rfl)
    | releaseTail b r => exact congrArg (WorkQueue.Agent.carrying · _) (carried _ rfl)
    | stopTail r => exact congrArg (WorkQueue.Agent.carrying · _) (carried _ rfl)
    | _ => rfl
  have hpending : (s.world.backends h).pending.map (job w) =
      (s.world.backends h).pending.map (job s.world) :=
    List.map_congr_left fun r hr => hjob r (List.mem_append_left _ hr)
  have hactive : (s.world.backends h).active.map (job w) =
      (s.world.backends h).active.map (job s.world) :=
    List.map_congr_left fun r hr => hjob r (List.mem_append_right _ hr)
  simp only [queue, hb, hpending, hactive, List.map_congr_left hagent]

/-- A URB nobody has is a free slot. -/
theorem not_busy {u : UrbPtr} (hu : ¬ s.InUse h u) : ¬ (queue h s).Busy u := by
  rintro ⟨j, hj, rfl⟩
  have thread : ∀ th ∈ s.threads, ∀ request, th.urb = some request.urb →
      job s.world request = j → False := fun th hth request hr hj' =>
    hu (.inr ⟨th, hth, by rw [hr, ← hj']; rfl⟩)
  rcases List.mem_append.1 hj with hj | hj
  · rcases List.mem_append.1 hj with hj | hj
    · obtain ⟨a, ha, hoff⟩ := List.mem_filterMap.1 hj
      obtain ⟨th, hth, rfl⟩ := List.mem_map.1 ha
      cases th with
      | submit u t => exact thread _ hth { urb := u, transfer := t } rfl (Option.some.inj hoff)
      | submitFailed u t e =>
          exact thread _ hth { urb := u, transfer := t } rfl (Option.some.inj hoff)
      | _ => simp [agent, WorkQueue.Agent.offered] at hoff
    · rw [WorkQueue.State.listed, queue, ← List.map_append] at hj
      obtain ⟨request, hr, rfl⟩ := List.mem_map.1 hj
      exact hu (.inl ⟨request, hr, rfl⟩)
  · obtain ⟨a, ha, hcar⟩ := List.mem_filterMap.1 hj
    obtain ⟨th, hth, rfl⟩ := List.mem_map.1 ha
    cases th with
    | completeTail r c => exact thread _ hth r rfl (Option.some.inj hcar)
    | cancelTail r st => exact thread _ hth r rfl (Option.some.inj hcar)
    | releaseTail b r => exact thread _ hth r rfl (Option.some.inj hcar)
    | stopTail r => exact thread _ hth r rfl (Option.some.inj hcar)
    | _ => simp [agent, WorkQueue.Agent.carried] at hcar

/-- From `s` to `s'` a submission starts: a transfer is created, and offered to
the queue unless something fails before that. -/
structure Started (h : HcdId) (s s' : State) : Prop where
  step : WorkQueue.Step (queue h s) none (queue h s')
  nextTransfer : s'.world.nextTransfer = s.world.nextTransfer + 1
  transferNextId : s'.world.transferNextId = s.world.transferNextId + 1
  fresh : (s'.world.transfers s.world.nextTransfer).id = s'.world.transferNextId
  content : ∀ t, t ≠ s.world.nextTransfer →
    (s'.world.transfers t).content = (s.world.transfers t).content
  offered : ∀ j ∈ (queue h s').offered, j ∈ (queue h s).offered ∨
    (j.key = s.world.nextTransfer ∧ (s'.world.transfers j.key).state = .queued)
  listed : (queue h s').listed = (queue h s).listed
  log : s'.log = s.log
  linked : s'.world.linked = s.world.linked
  givebacks : s'.world.givebacks = s.world.givebacks

/-- The start of `virtusb_hcd_urb_enqueue`: it fails before it offers anything, or offers its
transfer. -/
theorem start_submit {env : Env} {u : UrbPtr} {d : DevicePtr} {args : TransferArgs}
    (hsound : (queue h s).Sound) (hk : Known h s)
    (hs : s.start h env (.submit u d args) = some s') :
    (∃ e, Simulated h s e s') ∨ Started h s s' := by
  simp only [State.start] at hs
  split at hs
  · simp at hs
  rename_i hfree
  split at hs
  · rename_i w hw
    obtain rfl := World.transferCreate_none hw
    obtain rfl := Option.some.inj hs
    exact .inl (spawn_simulates (.refl _) (.inr rfl))
  rename_i w t hw
  have hc := World.transferCreate_some hw
  have hprep := Quiet.submitPrepare (T := {t}) w rfl env
  have hqueue : ∀ {w' : World}, Quiet {t} [] w w' →
      queue h { s with world := w' } = queue h s := fun hq =>
    queue_world_created hsound hk hc.ptr (hq.backends.trans hc.backends)
      (hq.device.trans hc.device)
  have hspawn : ∀ {w' : World}, Quiet {t} [] w w' → ∀ thread, queue h (s.spawn w' thread) =
      { queue h s with agents := (queue h s).agents ++ [agent w' thread] } := by
    intro w' hq thread
    rw [← hqueue hq]
    exact queue_spawn (h := h) (s := { s with world := w' }) (.refl w') thread
  obtain rfl := hc.ptr
  refine .inr ?_
  split at hs
  · rename_i w' e hp
    rw [hp] at hprep
    obtain rfl := Option.some.inj hs
    refine ⟨step_cast (.spawn _ .done (.inr rfl)) (hspawn hprep _), ?_, ?_, ?_, ?_, ?_, ?_, rfl,
      ?_, ?_⟩
    · exact hprep.nextTransfer.trans hc.nextTransfer
    · exact hprep.transferNextId.trans hc.transferNextId
    · exact (hprep.transferId _).trans (hc.transferId.trans hprep.transferNextId.symm)
    · exact fun t ht => (hprep.content t ht).trans (hc.content t ht)
    · intro j hj
      rw [hspawn hprep] at hj
      simpa [WorkQueue.State.offered, agent, WorkQueue.Agent.offered, List.filterMap_cons] using
        Or.inl hj
    · rw [hspawn hprep]
      rfl
    · exact (funext hprep.linked).trans (funext hc.linked)
    · exact hprep.givebacks.trans ((List.append_nil _).trans hc.givebacks)
  · rename_i w' hp
    have hqueued := World.submitPrepare_ok hp
    rw [hp] at hprep
    obtain rfl := Option.some.inj hs
    refine ⟨step_cast (.offer _ (job w' { urb := u, transfer := s.world.nextTransfer }) rfl ?_
      (not_busy hfree)) (hspawn hprep _), ?_, ?_, ?_, ?_, ?_, ?_, rfl, ?_, ?_⟩
    · exact fun hused => (hk _ hused).ne rfl
    · exact hprep.nextTransfer.trans hc.nextTransfer
    · exact hprep.transferNextId.trans hc.transferNextId
    · exact (hprep.transferId _).trans (hc.transferId.trans hprep.transferNextId.symm)
    · exact fun t ht => (hprep.content t ht).trans (hc.content t ht)
    · intro j hj
      rw [hspawn hprep, WorkQueue.State.offered, List.filterMap_append] at hj
      rcases List.mem_append.1 hj with hj | hj
      · exact .inl hj
      · obtain rfl := List.mem_singleton.1 hj
        exact .inr ⟨rfl, hqueued⟩
    · rw [hspawn hprep]
      rfl
    · exact (funext hprep.linked).trans (funext hc.linked)
    · exact hprep.givebacks.trans ((List.append_nil _).trans hc.givebacks)

/-- **A call is a step of the queue.** -/
theorem start_simulates {env : Env} {c : Call} (hsound : (queue h s).Sound) (hk : Known h s)
    (hs : s.start h env c = some s') : (∃ e, Simulated h s e s') ∨ Started h s s' := by
  cases c with
  | submit u d args => exact start_submit hsound hk hs
  | fetch owner nonblock =>
      obtain rfl := Option.some.inj hs
      exact .inl (spawn_simulates (.refl _) (.inl rfl))
  | rollback owner transferId =>
      obtain rfl := Option.some.inj hs
      split
      · exact .inl (spawn_simulates (.refl _) (.inr rfl))
      · exact .inl (spawn_simulates (.refl _) (.inl rfl))
  | complete owner completion =>
      obtain rfl := Option.some.inj hs
      split
      · exact .inl (spawn_simulates (.refl _) (.inr rfl))
      · exact .inl (spawn_simulates (.refl _) (.inl rfl))
  | cancel u status =>
      obtain rfl := Option.some.inj hs
      exact .inl (spawn_simulates (.refl _) (.inl rfl))
  | release owner =>
      obtain rfl := Option.some.inj hs
      exact .inl (spawn_simulates (.refl _) (.inl rfl))
  | stop =>
      obtain rfl := Option.some.inj hs
      exact .inl (spawn_simulates (.refl _) (.inl rfl))
  | register owner device =>
      simp only [State.start, World.registerPrepare] at hs
      split at hs
      · rename_i w e hw
        split at hw
        · obtain rfl := congrArg Prod.fst hw
          obtain rfl := Option.some.inj hs
          exact .inl (spawn_simulates (.refl _) (.inr rfl))
        · simp at hw
      · rename_i w hw
        split at hw
        · simp at hw
        · obtain rfl := congrArg Prod.fst hw
          obtain rfl := Option.some.inj hs
          exact .inl (spawn_simulates (.setObject _ _ _) (.inl rfl))

end DataPlane

end VirtUsb
