/-
# Stopping the backend

From the section of `virtusb_backend_stop` that sets the flag on, no step adds a
request or a binding (`shrinks_of_stopping`).  Each pass of the two loops of stop
can be taken whatever the other threads do, and takes out one request or one
binding but for the last pass of each loop (`stop_pass`), so the loops end
(`stop_bounded`) and leave three lists that stay empty (`stop_final`).
-/

import VirtUsb.DataPlane.Routing

namespace VirtUsb

namespace DataPlane

open Transition

namespace State

variable (h : HcdId) (s : State)

/-- The transfers of the requests in the two lists. -/
def outstanding : Multiset TransferPtr := (s.queued h).map Request.transfer

/-- Nothing is queued or bound any more. -/
def Empty : Prop := s.pending h = [] ∧ s.active h = [] ∧ s.bindings h = []

end State

/-- A pass of thread `i` in one of the loops of `virtusb_backend_stop`: what it
takes out, and what the thread does next. -/
inductive StopPass (h : HcdId) (i : ℕ) (s s' : State) : Prop
  | request (r : Request) : s.threads[i]? = some .stopDrain →
      s.outstanding h = r.transfer ::ₘ s'.outstanding h → s'.bindings h = s.bindings h →
      s'.threads[i]? = some (.stopTail r) → StopPass h i s s'
  | giveback (r : Request) : s.threads[i]? = some (.stopTail r) →
      s'.outstanding h = s.outstanding h → s'.bindings h = s.bindings h →
      s'.threads[i]? = some .stopDrain → StopPass h i s s'
  | drained : s.threads[i]? = some .stopDrain → s.queued h = [] →
      s'.queued h = [] → s'.bindings h = s.bindings h →
      s'.threads[i]? = some .stopUnbind → StopPass h i s s'
  | binding (b : Binding) : s.threads[i]? = some .stopUnbind →
      s'.outstanding h = s.outstanding h → s.bindings h = b :: s'.bindings h →
      s'.threads[i]? = some (.stopPut b) → StopPass h i s s'
  | put (b : Binding) : s.threads[i]? = some (.stopPut b) →
      s'.outstanding h = s.outstanding h → s'.bindings h = s.bindings h →
      s'.threads[i]? = some .stopUnbind → StopPass h i s s'
  | finished : s.threads[i]? = some .stopUnbind → s.bindings h = [] →
      s'.outstanding h = s.outstanding h → s'.bindings h = [] →
      s'.threads[i]? = some (.done (.ok .none)) → StopPass h i s s'

namespace Thread

/-- The thread is in one of the loops of `virtusb_backend_stop`, or past them. -/
def stops : Thread → Bool
  | .stopDrain => true
  | .stopTail _ => true
  | .stopUnbind => true
  | .stopPut _ => true
  | .done (.ok .none) => true
  | _ => false

/-- The thread is past the first loop. -/
def drained : Thread → Bool
  | .stopUnbind => true
  | .stopPut _ => true
  | .done _ => true
  | _ => false

/-- The passes the thread has left if there is nothing to take out. -/
def passesLeft : Thread → ℕ
  | .stopTail _ => 3
  | .stopDrain => 2
  | .stopPut _ => 2
  | .stopUnbind => 1
  | _ => 0

/-- A stop returns nothing. -/
theorem ret_of_stops {ret : Except Errno Reply} (hstop : (done ret).stops = true) :
    ret = .ok .none := by
  cases ret with
  | error e => exact absurd hstop (by simp [stops])
  | ok reply =>
      cases reply with
      | none => rfl
      | _ => exact absurd hstop (by simp [stops])

end Thread

variable {h : HcdId} {s s' : State} {i : ℕ}

/-! ### Nothing is added -/

/-- The transfers that are outstanding are the keys of the listed jobs. -/
theorem outstanding_eq : s.outstanding h = ((queue h s).listed.map WorkQueue.Job.key : List _) := by
  rw [listed_eq, State.outstanding, List.map_map]
  rfl

/-- **From a stopping backend on, no step adds a request or a binding.** -/
theorem shrinks_of_stopping {t : State} {hist : List (State × Act)} (hs : (machine h).Reachable s)
    (hc : (s.world.backends h).stopping = true) (hr : Run (machine h) s hist t) :
    (t.world.backends h).stopping = true ∧ t.outstanding h ≤ s.outstanding h ∧
      (t.bindings h : Multiset Binding) ≤ s.bindings h ∧
      ∃ l, t.log = s.log ++ l ∧ l.filterMap WorkQueue.Event.accepted? = [] ∧
        l.filterMap WorkQueue.Event.granted? = [] := by
  obtain ⟨k, hk⟩ := simulation.run (fun _ => inv_of_reachable) hs hr
  have hsq := (inv_of_reachable hs).sound
  have htq := (inv_of_reachable (hs.run hr)).sound
  obtain ⟨hct, l, hlog, hacc, hgr⟩ := WorkQueue.log_since_closed hk hc
  refine ⟨hct, ?_, ?_, l, hlog, hacc, hgr⟩
  · have hkey : ∀ q : Queue, (q.listed.map WorkQueue.Job.key : Multiset TransferPtr) =
        (q.listed.map WorkQueue.Job.free : Multiset Job).map WorkQueue.Job.key := fun q => by
      simp [Function.comp_def]
    rw [outstanding_eq, outstanding_eq, hkey, hkey, WorkQueue.listed_since_closed hsq htq hlog hacc,
      Multiset.map_add]
    exact Multiset.le_add_right _ _
  · have hsum := WorkQueue.grants_since_closed hsq htq hlog hgr
    have hle : ((t.bindings h).map grant : Multiset Grant) ≤ ((s.bindings h).map grant : List _) :=
      hsum ▸ Multiset.le_add_right _ _
    rwa [← Multiset.map_coe, ← Multiset.map_coe, Multiset.map_le_map_iff grant_injective] at hle

/-! ### The passes of one stop -/

/-- The thread that took the step. -/
theorem threads_advance (hi : i < s.threads.length) (w : World) (thread : Thread)
    (events : List Event) : (s.advance i w thread events).threads[i]? = some thread :=
  List.getElem?_set_self hi

/-- What is outstanding is in the backend. -/
theorem outstanding_congr (hb : s'.world.backends h = s.world.backends h) :
    s'.outstanding h = s.outstanding h := by
  rw [State.outstanding, State.queued, hb]
  rfl

/-- So are the bindings. -/
theorem bindings_congr (hb : s'.world.backends h = s.world.backends h) :
    s'.bindings h = s.bindings h := by
  rw [State.bindings, hb]
  rfl

/-- **A stop can always take its next pass**, which takes out one request or one
binding unless it ends a loop. -/
theorem stop_pass {thread : Thread} (ht : s.threads[i]? = some thread)
    (hstop : thread.stops = true) (hdone : thread ≠ .done (.ok .none)) (env : Env) :
    ∃ s', s.step h (.run i env) = some s' ∧ StopPass h i s s' := by
  have hlt := (List.getElem?_eq_some_iff.1 ht).1
  simp only [State.step, ht, Option.bind_some]
  cases thread with
  | stopDrain =>
      simp only [State.resume]
      rcases hw : s.world.stopDrainLocked h with ⟨w, _ | r⟩
      · obtain ⟨rfl, hp, ha⟩ := World.stopDrainLocked_none hw
        have hnil : s.queued h = [] := by simp [State.queued, hp, ha]
        exact ⟨_, rfl, .drained ht hnil hnil rfl (threads_advance hlt ..)⟩
      · obtain ⟨hmem, hq⟩ := World.stopDrainLocked_some (T := ∅) hw
        have hback : w.backends h = (s.world.backends h).listDel r :=
          (congrFun hq.backends h).trans (World.relist_backends_self ..)
        refine ⟨_, rfl, .request r ht ?_ ?_ (threads_advance hlt ..)⟩
        · have hperm := (Backend.perm_listDel hmem).map Request.transfer
          rw [← hback] at hperm
          exact Multiset.coe_eq_coe.2 hperm
        · rw [State.bindings, State.bindings, State.advance, hback, Backend.listDel]
          split <;> rfl
  | stopTail r =>
      have hq := Quiet.drainTail s.world (Set.mem_singleton r.transfer)
      have hback := congrFun hq.backends h
      exact ⟨_, rfl, .giveback r ht (outstanding_congr hback) (bindings_congr hback)
        (threads_advance hlt ..)⟩
  | stopUnbind =>
      simp only [State.resume]
      rcases hw : s.world.stopUnbindLocked h with ⟨w, _ | b⟩
      · obtain ⟨rfl, hb⟩ := World.stopUnbindLocked_none hw
        exact ⟨_, rfl, .finished ht hb rfl hb (threads_advance hlt ..)⟩
      · obtain ⟨rest, hb, rfl⟩ := World.stopUnbindLocked_some hw
        have hback := World.relist_backends_self s.world h
          { s.world.backends h with bindings := rest } s.world.linked
        refine ⟨_, rfl, .binding b ht ?_ ?_ (threads_advance hlt ..)⟩
        · rw [State.outstanding, State.queued, State.advance, hback]
          rfl
        · rw [State.bindings, State.bindings, State.advance, hback, hb]
  | stopPut b =>
      have hq := Quiet.objectPut (T := ∅) s.world b.device
      have hback := congrFun hq.backends h
      exact ⟨_, rfl, .put b ht (outstanding_congr hback) (bindings_congr hback)
        (threads_advance hlt ..)⟩
  | done ret =>
      obtain rfl := Thread.ret_of_stops hstop
      exact absurd rfl hdone
  | _ => simp [Thread.stops] at hstop

/-- A step of a thread that stops the backend is a pass of its loops. -/
theorem stopPass_of_step {thread : Thread} {env : Env} (ht : s.threads[i]? = some thread)
    (hstop : thread.stops = true) (hs : s.step h (.run i env) = some s') : StopPass h i s s' := by
  have hne : thread ≠ .done (.ok .none) := by
    rintro rfl
    simp [State.step, ht, State.resume] at hs
  obtain ⟨s'', hs'', hpass⟩ := stop_pass ht hstop hne env
  obtain rfl : s'' = s' := Option.some.inj (hs''.symm.trans hs)
  exact hpass

/-! ### A whole stop -/

/-- Thread `i` is stopping the backend or has stopped it. -/
structure Stopping (h : HcdId) (i : ℕ) (s : State) : Prop where
  reachable : (machine h).Reachable s
  closed : (s.world.backends h).stopping = true
  thread : ∃ thread, s.threads[i]? = some thread ∧ thread.stops = true ∧
    (thread.drained = true → s.queued h = []) ∧ (thread = .done (.ok .none) → s.bindings h = [])

/-- Whatever step is taken, the stop goes on, or is over. -/
theorem Stopping.step {a : Act} (hi : Stopping h i s) (hs : s.step h a = some s') :
    Stopping h i s' := by
  have hst : (machine h).step s a s' := hs
  obtain ⟨hc, hout, hbind, -⟩ := shrinks_of_stopping hi.reachable hi.closed (.single hst)
  obtain ⟨thread, ht, hstop, hdrained, hdone⟩ := hi.thread
  have hqueued : s.queued h = [] → s'.queued h = [] := by
    intro hnil
    have hzero : s'.outstanding h ≤ 0 := by simpa [State.outstanding, hnil] using hout
    simpa [State.outstanding] using Multiset.le_zero.1 hzero
  have hbound : s.bindings h = [] → s'.bindings h = [] := by
    intro hnil
    rw [hnil] at hbind
    simpa using Multiset.le_zero.1 hbind
  refine ⟨hi.reachable.step hst, hc, ?_⟩
  by_cases ha : ∃ env, a = .run i env
  · obtain ⟨env, rfl⟩ := ha
    cases stopPass_of_step ht hstop hs with
    | request r _ _ _ ht' => exact ⟨_, ht', rfl, nofun, nofun⟩
    | giveback r _ _ _ ht' => exact ⟨_, ht', rfl, nofun, nofun⟩
    | drained _ _ hnil _ ht' => exact ⟨_, ht', rfl, fun _ => hnil, nofun⟩
    | binding b hti _ _ ht' =>
        obtain rfl := Option.some.inj (ht.symm.trans hti)
        exact ⟨_, ht', rfl, fun _ => hqueued (hdrained rfl), nofun⟩
    | put b hti _ _ ht' =>
        obtain rfl := Option.some.inj (ht.symm.trans hti)
        exact ⟨_, ht', rfl, fun _ => hqueued (hdrained rfl), nofun⟩
    | finished hti _ _ hnil ht' =>
        obtain rfl := Option.some.inj (ht.symm.trans hti)
        exact ⟨_, ht', rfl, fun _ => hqueued (hdrained rfl), fun _ => hnil⟩
  · have ht' := threads_of_ne hs ht fun env hrun => ha ⟨env, hrun⟩
    exact ⟨thread, ht', hstop, fun hd => hqueued (hdrained hd), fun hd => hbound (hdone hd)⟩

/-- **So it is over any run.** -/
theorem Stopping.run {t : State} {hist : List (State × Act)} (hi : Stopping h i s)
    (hr : Run (machine h) s hist t) : Stopping h i t :=
  hr.invariant (I := Stopping h i) (fun _ _ _ hi hst => hi.step hst) hi

/-- A thread that is done stays done, with what it returned. -/
theorem done_of_done {a : Act} {ret : Except Errno Reply} (hs : s.step h a = some s')
    (ht : s.threads[i]? = some (.done ret)) : s'.threads[i]? = some (.done ret) := by
  refine threads_of_ne hs ht fun env ha => ?_
  subst ha
  simp [State.step, ht, State.resume] at hs

/-- When the thread has finished, the lists are empty. -/
theorem Stopping.empty (hi : Stopping h i s) (ht : s.threads[i]? = some (.done (.ok .none))) :
    s.Empty h := by
  obtain ⟨thread, ht', -, hdrained, hdone⟩ := hi.thread
  obtain rfl := Option.some.inj (ht.symm.trans ht')
  obtain ⟨hp, ha⟩ := List.append_eq_nil_iff.1 (hdrained rfl)
  exact ⟨hp, ha, hdone rfl⟩

/-! ### The loops end -/

/-- What the passes of thread `i` use up. -/
def passes (h : HcdId) (i : ℕ) (s : State) : ℕ :=
  2 * ((s.outstanding h).card + (s.bindings h).length) + ((s.threads[i]?).map Thread.passesLeft).getD 0

/-- The step is one of thread `i`. -/
def isRunOf (i : ℕ) (x : State × Act) : Bool :=
  match x.2 with
  | .run j _ => i = j
  | .call _ _ => false

/-- Every pass uses up some of what is left. -/
theorem StopPass.passes_lt (hp : StopPass h i s s') : passes h i s' < passes h i s := by
  have hcard : ∀ {r : Request}, s.outstanding h = r.transfer ::ₘ s'.outstanding h →
      (s.outstanding h).card = (s'.outstanding h).card + 1 := fun he => by
    rw [he, Multiset.card_cons]
  cases hp with
  | request r ht ho hb ht' =>
      have := hcard ho
      simp only [passes, ht, ht', hb, Option.map_some, Option.getD_some, Thread.passesLeft]
      omega
  | giveback r ht ho hb ht' =>
      simp [passes, ht, ht', ho, hb, Thread.passesLeft]
  | drained ht hq hq' hb ht' =>
      simp [passes, State.outstanding, ht, ht', hq, hq', hb, Thread.passesLeft]
  | binding b ht ho hb ht' =>
      simp only [passes, ht, ht', ho, hb, List.length_cons, Option.map_some, Option.getD_some,
        Thread.passesLeft]
      omega
  | put b ht ho hb ht' =>
      simp [passes, ht, ht', ho, hb, Thread.passesLeft]
  | finished ht hb ho hb' ht' =>
      simp [passes, ht, ht', ho, hb, hb', Thread.passesLeft]

/-- While the stop is not over, its steps are passes. -/
theorem Stopping.pass_of_run (hi : Stopping h i s) {env : Env}
    (hs : s.step h (.run i env) = some s') : StopPass h i s s' := by
  obtain ⟨thread, ht, hstop, -, -⟩ := hi.thread
  exact stopPass_of_step ht hstop hs

/-- **The loops of a stop end**: in a run the thread takes no more steps than the
requests and bindings it started with allow. -/
theorem stop_bounded {t : State} {hist : List (State × Act)} (hi : Stopping h i s)
    (hr : Run (machine h) s hist t) : hist.countP (isRunOf i) + passes h i t ≤ passes h i s := by
  have hlt : ∀ {u v : State} {env : Env}, Stopping h i u → u.step h (.run i env) = some v →
      passes h i v < passes h i u := fun hu hst => (hu.pass_of_run hst).passes_lt
  refine hr.countP_add_le (I := Stopping h i) (fun _ _ _ hu hst => hu.step hst)
    (fun u a v hu hst => ?_) (fun u a v hu hst hrun => ?_) hi
  · by_cases ha : ∃ env, a = .run i env
    · obtain ⟨env, rfl⟩ := ha
      exact (hlt hu hst).le
    · obtain ⟨thread, ht, -⟩ := hu.thread
      have ht' := threads_of_ne hst ht fun env hrun => ha ⟨env, hrun⟩
      obtain ⟨-, hout, hbind, -⟩ := shrinks_of_stopping hu.reachable hu.closed (.single hst)
      have hout' := Multiset.card_le_card hout
      have hbind' := Multiset.card_le_card hbind
      rw [Multiset.coe_card, Multiset.coe_card] at hbind'
      simp only [passes, ht, ht']
      omega
  · cases a with
    | call c env => simp [isRunOf] at hrun
    | run j env =>
        obtain rfl : i = j := of_decide_eq_true hrun
        exact hlt hu hst

/-! ### Who takes out what -/

/-- The threads that took the request out, by the log. -/
def takers (log : List Event) (w : World) (r : Request) : List ℕ :=
  ((log.filterMap WorkQueue.Event.taken?).filter fun x => x.2.free = (job w r).free).map Prod.fst

/-- The threads that removed the binding, by the log. -/
def removers (log : List Event) (b : Binding) : List ℕ :=
  ((log.filterMap WorkQueue.Event.revoked?).filter fun x => x.2 = grant b).map Prod.fst

/-- How often thread `k` dropped the device reference of the binding, by the log. -/
def drops (log : List Event) (k : ℕ) (b : Binding) : ℕ :=
  ((log.filterMap WorkQueue.Event.dropped?).filter fun x => x = (k, grant b)).length

/-- A thread that holds a binding equal to one in force is a release that removed
an earlier one, and removes no further one. -/
theorem spent_of_held (hi : Inv h s) {k : ℕ} {b : Binding} (hb : b ∈ s.bindings h)
    (hk : (k, grant b) ∈ (queue h s).held) :
    ∃ a, (queue h s).agents[k]? = some a ∧ a.spent = true := by
  obtain ⟨a, ha, hheld⟩ := WorkQueue.State.mem_held.1 hk
  refine ⟨a, ha, ?_⟩
  obtain ⟨thread, -, rfl⟩ : ∃ thread, s.threads[k]? = some thread ∧ agent s.world thread = a := by
    simpa [queue] using ha
  cases thread with
  | releaseDrain b' => rfl
  | releaseTail b' r => rfl
  | releasePut b' => rfl
  | stopPut b' =>
      obtain rfl : b' = b := grant_injective (Option.some.inj hheld)
      exact absurd (mem_grants.2 hb)
        (hi.sound.shut.gone _ _ (List.mem_of_getElem? ha) rfl)
  | _ => simp [agent, WorkQueue.Agent.held] at hheld

/-- The first section of a stop. -/
theorem stopping_of_stop {env : Env} (hs : (machine h).Reachable s)
    (ht : s.threads[i]? = some .stop) (hst : s.step h (.run i env) = some s') :
    Stopping h i s' ∧ s' = s.advance i (s.world.stopSetLocked h) .stopDrain [.closed i] := by
  have hlt := (List.getElem?_eq_some_iff.1 ht).1
  have hs' : s' = s.advance i (s.world.stopSetLocked h) .stopDrain [.closed i] := by
    simp only [State.step, ht, Option.bind_some, State.resume] at hst
    exact (Option.some.inj hst).symm
  refine ⟨⟨hs.step hst, ?_, .stopDrain, ?_, rfl, ?_, ?_⟩, hs'⟩
  · simp [hs', State.advance, World.stopSetLocked, World.setBackend]
  · rw [hs']
    exact threads_advance hlt ..
  · intro hdrained
    simp [Thread.drained] at hdrained
  · intro hdone
    simp at hdone

/-- **A request that was queued before a run of a stopping backend is taken out by
exactly one thread**, once nothing is queued any more. -/
theorem taken_by_one {t : State} {l : List Event} (hi : Inv h s) (hi' : Inv h t)
    (hlog : t.log = s.log ++ l) (hacc : l.filterMap WorkQueue.Event.accepted? = [])
    (hempty : t.queued h = []) {r : Request} (hr : r ∈ s.queued h) :
    ∃ k, takers l s.world r = [k] := by
  have hnil : (queue h t).listed = [] := by rw [listed_eq, hempty, List.map_nil]
  obtain ⟨x, hx⟩ := WorkQueue.taken_once_since hi.sound hi'.sound hlog hacc hnil (mem_listed.2 hr)
  exact ⟨x.1, congrArg (List.map Prod.fst) hx⟩

/-- **A binding that was in force before a run of a stopping backend is removed by
exactly one thread**, once none is in force any more, and dropped by it once. -/
theorem removed_by_one {t : State} {l : List Event} {hist : List (State × Act)}
    (hs : (machine h).Reachable s) (hr : Run (machine h) s hist t) (hlog : t.log = s.log ++ l)
    (hgr : l.filterMap WorkQueue.Event.granted? = []) (hempty : t.bindings h = []) {b : Binding}
    (hb : b ∈ s.bindings h) :
    ∃ k, removers l b = [k] ∧ ∀ ret, t.threads[k]? = some (.done ret) → drops l k b = 1 := by
  have hi : Inv h s := inv_of_reachable hs
  have hi' : Inv h t := inv_of_reachable (hs.run hr)
  obtain ⟨q, hq⟩ := simulation.run (fun _ => inv_of_reachable) hs hr
  have hnil : (queue h t).grants = [] :=
    (congrArg (List.map grant) hempty : (t.bindings h).map grant = [])
  -- a thread that holds an equal binding does not remove this one too
  have hspent : ∀ k, (k, grant b) ∈ (queue h s).held → .revoked k (grant b) ∉ l := by
    intro k hk
    obtain ⟨a, ha, hsp⟩ := spent_of_held hi hb hk
    obtain ⟨-, l', hlog', hno⟩ := WorkQueue.not_revoked_of_spent hq ha hsp
    obtain rfl : l = l' := List.append_cancel_left (hlog.symm.trans hlog')
    exact hno _
  obtain ⟨k, hk, hdrop⟩ := WorkQueue.dropped_once_since hi.sound hi'.sound hlog hgr hnil
    (mem_grants.2 hb) hspent
  refine ⟨k, congrArg (List.map Prod.fst) hk, fun ret hdone =>
    congrArg List.length (hdrop fun hheld => ?_)⟩
  obtain ⟨a, ha, hag⟩ := WorkQueue.State.mem_held.1 hheld
  obtain rfl : a = .done := Option.some.inj (ha.symm.trans (getElem?_agents hdone))
  simp [WorkQueue.Agent.held] at hag

/-- **Stop is final.**  After the first section of stop nothing is added, every
pass of its loops can be taken and the loops end; once it has finished, the lists
are empty for good, every request it found was taken out by exactly one thread,
and so was every binding, whose reference that thread drops exactly once.  The other
threads do as they like, but none submits a URB that is in flight (`State.start`, the rule
of the USB core). -/
theorem stop_final {s₁ t : State} {env : Env} {hist : List (State × Act)}
    (hs : (machine h).Reachable s) (ht : s.threads[i]? = some .stop)
    (hst : s.step h (.run i env) = some s₁) (hr : Run (machine h) s₁ hist t) :
    (∀ a t', t.step h a = some t' → t'.outstanding h ≤ t.outstanding h ∧
      (t'.bindings h : Multiset Binding) ≤ t.bindings h) ∧
    (t.threads[i]? = some (.done (.ok .none)) ∨
      ∀ env, ∃ t', t.step h (.run i env) = some t' ∧ StopPass h i t t') ∧
    hist.countP (isRunOf i) ≤ 2 * ((s.outstanding h).card + (s.bindings h).length) + 2 ∧
    (t.threads[i]? = some (.done (.ok .none)) → ∀ hist' u, Run (machine h) t hist' u → u.Empty h) ∧
    ∃ l, t.log = s₁.log ++ l ∧ (∀ j, .accepted j ∉ l) ∧ (∀ g, .granted g ∉ l) ∧
      (t.threads[i]? = some (.done (.ok .none)) →
        (∀ r ∈ s.queued h, ∃ k, takers l s.world r = [k]) ∧
        ∀ b ∈ s.bindings h, ∃ k, removers l b = [k] ∧
          ∀ ret, t.threads[k]? = some (.done ret) → drops l k b = 1) := by
  obtain ⟨hstop, hs₁⟩ := stopping_of_stop hs ht hst
  have hstop' : Stopping h i t := hstop.run hr
  obtain ⟨-, -, -, l, hlog, hacc, hgr⟩ := shrinks_of_stopping hstop.reachable hstop.closed hr
  refine ⟨fun a t' hst' => ?_, ?_, ?_, fun hdone hist' u hru => ?_, l, hlog, fun j hj => ?_,
    fun g hg => ?_, fun hdone => ⟨fun r hr' => ?_, fun b hb => ?_⟩⟩
  · obtain ⟨-, hout, hbind, -⟩ := shrinks_of_stopping hstop'.reachable hstop'.closed (.single hst')
    exact ⟨hout, hbind⟩
  · obtain ⟨thread, hti, hthread, -⟩ := hstop'.thread
    by_cases hd : thread = .done (.ok .none)
    · exact .inl (hd ▸ hti)
    · exact .inr fun env => stop_pass hti hthread hd env
  · have hbound := stop_bounded hstop hr
    have hpasses : passes h i s₁ = 2 * ((s.outstanding h).card + (s.bindings h).length) + 2 := by
      have hti := threads_advance (List.getElem?_eq_some_iff.1 ht).1 (s.world.stopSetLocked h)
        .stopDrain [.closed i]
      rw [hs₁, passes, hti]
      simp [State.outstanding, State.queued, State.bindings, State.advance, World.stopSetLocked,
        World.setBackend, Thread.passesLeft]
    omega
  · have hu : Stopping h i u := hstop'.run hru
    refine hu.empty ?_
    exact hru.invariant (I := fun v => v.threads[i]? = some (.done (.ok .none)))
      (fun _ _ _ hv hstep => done_of_done hstep hv) hdone
  · simpa [WorkQueue.Event.accepted?] using List.filterMap_eq_nil_iff.1 hacc _ hj
  · simpa [WorkQueue.Event.granted?] using List.filterMap_eq_nil_iff.1 hgr _ hg
  · have hempty := hstop'.empty hdone
    have hqueued : t.queued h = [] := List.append_eq_nil_iff.2 ⟨hempty.1, hempty.2.1⟩
    have hr₁ : r ∈ s₁.queued h := by
      rw [hs₁]
      simpa [State.queued, State.advance, World.stopSetLocked, World.setBackend] using hr'
    obtain ⟨k, hk⟩ := taken_by_one (inv_of_reachable hstop.reachable)
      (inv_of_reachable hstop'.reachable) hlog hacc hqueued hr₁
    refine ⟨k, ?_⟩
    rwa [hs₁] at hk
  · have hb₁ : b ∈ s₁.bindings h := by
      rw [hs₁]
      simpa [State.bindings, State.advance, World.stopSetLocked, World.setBackend] using hb
    exact removed_by_one hstop.reachable hr hlog hgr (hstop'.empty hdone).2.2 hb₁

/-- A stop that finds one request and one binding, from its start to its end. -/
theorem stop_final_example : ∃ s s₁ t hist, (machine 0).Reachable s ∧
    s.step 0 (.run 2 {}) = some s₁ ∧ Run (machine 0) s₁ hist t ∧ t.Empty 0 ∧
    ∃ l, t.log = s₁.log ++ l ∧ (∃ k, takers l s.world ⟨7, 0, none⟩ = [k]) ∧
      ∃ k, removers l ⟨0, 1⟩ = [k] := by
  obtain ⟨s₀, hs₀, hp⟩ := exists_reachable_of_exec (State.initial_loaded 0) (f := State.step 0)
    (l := [.call (.register 1 0) {}, .run 0 {},
      .call (.submit 7 0 ⟨.bulk, .in, 1, none, none, 8⟩) {}, .run 1 {}])
    (p := fun s => s.threads.length = 2 ∧ s.queued 0 = [⟨7, 0, none⟩] ∧ s.bindings 0 = [⟨0, 1⟩] ∧
      ∃ t ∈ exec (State.step 0) (s.spawn s.world .stop) (List.replicate 7 (.run 2 {})),
        (t.threads[2]?).map (fun thread => (thread.stops, thread.passesLeft)) = some (true, 0))
    (by decide)
  obtain ⟨hlen, hqueued, hbind, t, hexec, hdone⟩ := of_decide_eq_true hp
  let s := s₀.spawn s₀.world .stop
  have hqueued : s.queued 0 = [⟨7, 0, none⟩] := hqueued
  have hbind : s.bindings 0 = [⟨0, 1⟩] := hbind
  have hs : (machine 0).Reachable s := hs₀.step (a := .call .stop {}) rfl
  have ht : s.threads[2]? = some .stop := by simp [s, State.spawn, ← hlen]
  have hdone : t.threads[2]? = some (.done (.ok .none)) := by
    obtain ⟨thread, hget, hpasses⟩ := Option.map_eq_some_iff.1 hdone
    obtain ⟨hstops, hleft⟩ := Prod.mk.inj hpasses
    rw [hget]
    cases thread with
    | done ret => rw [Thread.ret_of_stops hstops]
    | _ => simp_all [Thread.stops, Thread.passesLeft]
  obtain ⟨s₁, hst, hexec⟩ := Option.bind_eq_some_iff.1 hexec
  obtain ⟨hist, hr, -⟩ := Run.of_exec (I := State.Initial 0) hexec
  obtain ⟨-, -, -, hempty, l, hlog, -, -, honce⟩ := stop_final hs ht hst hr
  obtain ⟨htaken, hremoved⟩ := honce hdone
  obtain ⟨k, hk, -⟩ := hremoved ⟨0, 1⟩ (by simp [hbind])
  exact ⟨s, s₁, t, hist, hs, hst, hr, hempty hdone [] t .nil, l, hlog,
    htaken ⟨7, 0, none⟩ (by simp [hqueued]), k, hk⟩

end DataPlane

end VirtUsb
