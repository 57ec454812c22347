/-
# No wake-up is lost

A fetch that finds nothing sleeps in `backend->wait_queue`, and so does whoever polls a file.
`wait_event_interruptible` and `poll_wait` enter the queue before the condition is looked at, and
a submission, a rollback, a registration, a release and a stop end with
`wake_up_interruptible_all`, after the lock was dropped: this is the wait queue of the library
(`waitQueue`), on top of the threads of `DataPlane.Threads`.

Every section that can make the condition of a file true is one of those that wake
(`resume_wakes`).  So in every interleaving a sleeper whose condition holds has been woken, or will
be by a thread that is between its section and its wake-up, and can leave
(`no_wake_up_lost`).
-/

import VirtUsb.DataPlane.Waiting
import VirtUsb.Lib.WaitQueue
import VirtUsb.Lib.WorkQueue.Ready

namespace VirtUsb

namespace DataPlane

open Transition

/-- Who sleeps in the queue: a fetch of a thread, or a process that polls a file. -/
inductive Waiter
  | thread (i : ℕ)
  | poller (k : ℕ) (owner : FilePtr)
  deriving DecidableEq

/-- What a thread does next ends with `wake_up_interruptible_all`. -/
def State.wakes (h : HcdId) (env : Env) (s : State) : Thread → Bool
  | .submit u t => (s.world.submitLocked h u t env.link).2.isOk
  | .rollback owner transferId _ => (s.world.rollbackLocked h owner transferId).2.isOk
  | .register owner device => (s.world.registerLocked h owner device).2.isOk
  | .releasePut _ => true
  | .stop => true
  | _ => false

/-- `backend->wait_queue`. -/
def waitQueue (h : HcdId) : WaitQueue.Protocol State Act Waiter FilePtr where
  next := State.step h
  agent
    | .call _ _ => none
    | .run i _ => some (.thread i)
  wakes s
    | .call _ _ => false
    | .run i env => (s.threads[i]?).any (s.wakes h env)
  waits s
    | .thread i => (s.threads[i]?).bind Thread.sleeper
    | .poller _ owner => some owner
  holds s owner := s.world.pendingForOwnerOrStopping h owner
  leave s
    | .thread i => s.step h (.run i {})
    | .poller _ _ => some s
  quit s
    | .thread i => s.step h (.run i { interrupted := true })
    | .poller _ _ => some s

/-- The threads on a backend, and the processes that poll its files. -/
def sleepers (h : HcdId) : Machine (WaitQueue.State State Waiter FilePtr) (WaitQueue.Act Act Waiter) :=
  (waitQueue h).machine (machine h).Reachable

variable {h : HcdId} {s s' : State}

/-! ### The condition of a wait -/

/-- The condition of a wait says that the file is ready in the queue of jobs. -/
theorem pendingForOwnerOrStopping_iff (hi : Inv h s) {owner : FilePtr} :
    s.world.pendingForOwnerOrStopping h owner = true ↔ (queue h s).Ready owner := by
  rw [World.pendingForOwnerOrStopping, Bool.or_eq_true, WorkQueue.State.Ready]
  refine or_congr_right ?_
  constructor
  · intro hpending
    rcases hf : (s.world.backends h).findOwnerLocked owner with _ | binding
    · simp [hf] at hpending
    obtain ⟨hb, howner⟩ := World.findOwnerLocked_some hf
    rw [hf] at hpending
    obtain ⟨r, hr⟩ := Option.isSome_iff_exists.1 hpending
    obtain ⟨hmem, hdevice⟩ := World.findPendingDeviceLocked_some hr
    exact ⟨grant binding, List.mem_map_of_mem hb, howner, job s.world r, List.mem_map_of_mem hmem,
      hdevice⟩
  · rintro ⟨g, hg, hclient, j, hj, hres⟩
    obtain ⟨binding, hb, rfl⟩ := List.mem_map.1 hg
    obtain ⟨r, hr, rfl⟩ := List.mem_map.1 hj
    rcases hf : (s.world.backends h).findOwnerLocked owner with _ | found
    · have hother : ¬ binding.owner = owner := by simpa using List.find?_eq_none.1 hf binding hb
      exact absurd hclient hother
    obtain ⟨hfound, howner⟩ := World.findOwnerLocked_some hf
    -- no two bindings share a file
    have hsame : grant binding = grant found :=
      Multiset.inj_on_of_nodup_map hi.sound.grants.clients _ (Multiset.mem_coe.2 hg) _
        (Multiset.mem_coe.2 (List.mem_map_of_mem hfound)) (hclient.trans howner.symm)
    obtain rfl := grant_injective hsame
    dsimp only
    rw [World.findPendingDeviceLocked, List.find?_isSome]
    have hdevice : s.world.requestDevice r = binding.device := hres
    exact ⟨r, hr, by simpa using hdevice⟩

/-- What makes a file ready ends with a wake-up. -/
theorem resume_wakes {i : ℕ} {env : Env} {thread : Thread} {e : Event}
    (hs : s.resume h i env thread = some s') (hlog : s'.log = s.log ++ [e])
    (he : e.readies = true) : s.wakes h env thread = true := by
  have logged : ∀ {w : World} {thread' : Thread} {e' : Event},
      some (s.advance i w thread' [e']) = some s' → e' = e := by
    intro w thread' e' hs
    obtain rfl := Option.some.inj hs
    exact List.singleton_injective (List.append_cancel_left hlog)
  have quiet : ∀ {w : World} {thread' : Thread}, some (s.advance i w thread' []) = some s' →
      s.wakes h env thread = true := by
    intro w thread' hs
    obtain rfl := Option.some.inj hs
    exact absurd hlog (by simp [State.advance])
  cases thread with
  | submit u t =>
      simp only [State.resume] at hs
      split at hs
      · exact quiet hs
      · rename_i hw
        simp only [State.wakes, hw]
        rfl
  | rollback owner id fetching =>
      simp only [State.resume] at hs
      split at hs
      · exact quiet hs
      · rename_i hw
        simp only [State.wakes, hw]
        rfl
  | register owner d =>
      simp only [State.resume] at hs
      split at hs
      · exact quiet hs
      · rename_i hw
        simp only [State.wakes, hw]
        rfl
  | stop => rfl
  | releasePut binding => rfl
  | _ =>
      simp only [State.resume] at hs
      repeat' split at hs
      all_goals first
        | exact quiet hs
        | obtain rfl := logged hs
          exact absurd he (by simp [WorkQueue.Event.readies])
        | simp at hs

/-! ### The queue of sleepers -/

/-- The thread of a sleeper is in the wait of its fetch. -/
theorem fetchWait_of_sleeper {i : ℕ} {owner : FilePtr}
    (hw : (s.threads[i]?).bind Thread.sleeper = some owner) :
    s.threads[i]? = some (.fetchWait owner) := by
  obtain ⟨thread, hthread, hsleeper⟩ := Option.bind_eq_some_iff.1 hw
  cases thread with
  | fetchWait f =>
      obtain rfl := Option.some.inj hsleeper
      exact hthread
  | _ => exact absurd hsleeper nofun

/-- A fetch that sleeps wakes nobody. -/
theorem not_wakes {i : ℕ} {owner : FilePtr} (hw : (s.threads[i]?).bind Thread.sleeper = some owner)
    (env : Env) : (s.threads[i]?).any (s.wakes h env) = false := by
  rw [fetchWait_of_sleeper hw]
  rfl

/-- A fetch whose condition holds goes back to the top of its loop. -/
theorem leave_eq {i : ℕ} {owner : FilePtr} (hw : (s.threads[i]?).bind Thread.sleeper = some owner)
    (hholds : s.world.pendingForOwnerOrStopping h owner = true) :
    s.step h (.run i {}) = some (s.advance i s.world (.fetch owner false) []) := by
  rw [State.step, fetchWait_of_sleeper hw, Option.bind_some, State.resume, if_neg (by decide),
    if_pos hholds]

/-- **The backend keeps the rules of its wait queue**: what wakes a fetch is followed by a wake-up.
-/
theorem lawful_waitQueue (h : HcdId) : (waitQueue h).Lawful (machine h).Reachable where
  keeps s a t hs ha := hs.step ha
  wakes s a t owner hs ha hholds hnot := by
    have hi := inv_of_reachable hs
    obtain ⟨⟨e, hstep⟩, hi'⟩ := step_inv hi ha
    have hready := (pendingForOwnerOrStopping_iff hi').1 hholds
    have hunready : ¬ (queue h s).Ready owner := fun hr =>
      absurd (hnot.symm.trans ((pendingForOwnerOrStopping_iff hi).2 hr)) (by simp)
    obtain ⟨event, rfl, hevent⟩ := (hstep.ready hready).resolve_left hunready
    have hlog : t.log = s.log ++ [event] := hstep.log
    cases a with
    | call c env =>
        rw [start_log ha] at hlog
        exact absurd hlog (by simp)
    | run i env =>
        obtain ⟨thread, hthread, hresume⟩ := Option.bind_eq_some_iff.1 ha
        refine ⟨.thread i, rfl, ?_⟩
        change (s.threads[i]?).any (s.wakes h env) = true
        rw [hthread]
        exact resume_wakes hresume hlog hevent
  waits s a t waiter owner _ ha hother hwaits := by
    cases waiter with
    | poller k f => exact hwaits
    | thread i =>
        obtain ⟨thread, hthread, hsleeper⟩ := Option.bind_eq_some_iff.1 hwaits
        have hkept := threads_of_ne ha hthread fun env hrun => hother (by rw [hrun]; rfl)
        exact Option.bind_eq_some_iff.2 ⟨thread, hkept, hsleeper⟩
  leave s waiter owner t hwaits hleave := by
    cases waiter with
    | poller k f => exact .inl (Option.some.inj hleave).symm
    | thread i => exact .inr ⟨.run i {}, rfl, hleave, not_wakes hwaits _⟩
  quit s waiter owner t hwaits hquit := by
    cases waiter with
    | poller k f => exact .inl (Option.some.inj hquit).symm
    | thread i => exact .inr ⟨.run i { interrupted := true }, rfl, hquit, not_wakes hwaits _⟩
  leaves s waiter owner _ hwaits hholds := by
    cases waiter with
    | poller k f => exact ⟨s, rfl⟩
    | thread i => exact ⟨_, leave_eq hwaits hholds⟩

/-- **No wake-up is lost**, whatever the interleaving of the threads on a backend with the
processes that poll its files.  Who sleeps although a request waits for its file, or the
backend is stopping, was woken since it entered the queue, or a thread is still to wake it; so
it can return without a step of anybody else than this thread: a fetch to the top of its
loop. -/
theorem no_wake_up_lost {s : WaitQueue.State State Waiter FilePtr} (hs : (sleepers h).Reachable s) :
    (machine h).Reachable s.inner ∧
    (∀ i owner, s.place i = .asleep owner → s.armed i = true →
      s.inner.world.pendingForOwnerOrStopping h owner = true → ∃ j, s.waking j = true) ∧
    ∀ i owner, s.place i = .asleep owner →
      s.inner.world.pendingForOwnerOrStopping h owner = true →
      ∃ l t, Run (sleepers h) s l t ∧
        (l.map Prod.snd = [.rise i false, .look i false] ∨
          ∃ j, l.map Prod.snd = [.wake j, .rise i false, .look i false]) ∧
        t.place i = .out ∧ t.inner.world = s.inner.world ∧
        ∀ k, i = .thread k → t.inner.threads[k]? = some (.fetch owner false) := by
  have hsound := WaitQueue.Protocol.sound_of_reachable (lawful_waitQueue h) hs
  refine ⟨hsound.inner, hsound.owed, fun i owner hi hc => ?_⟩
  obtain ⟨l, t, hl, hacts, hout, hleave⟩ := hsound.leaves (lawful_waitQueue h) hi hc
  refine ⟨l, t, hl, hacts, hout, ?_⟩
  have hwaits := hsound.waits i owner (.inr hi)
  cases i with
  | poller k f =>
      obtain hsame : s.inner = t.inner := Option.some.inj hleave
      exact ⟨congrArg State.world hsame.symm, nofun⟩
  | thread i =>
      have hinner := Option.some.inj ((leave_eq hwaits hc).symm.trans hleave)
      rw [← hinner]
      refine ⟨rfl, fun k hk => ?_⟩
      obtain rfl : i = k := by simpa using hk
      have hthread := fetchWait_of_sleeper hwaits
      exact List.getElem?_set_self (List.getElem?_eq_some_iff.1 hthread).1

/-- A submission has queued a transfer for a fetch that sleeps, and did not wake it yet. -/
theorem no_wake_up_lost_example : ∃ s l t, (sleepers 0).Reachable s ∧
    s.place (.thread 1) = .asleep 1 ∧ s.armed (.thread 1) = true ∧ Run (sleepers 0) s l t ∧
    l.length ≤ 3 ∧ t.inner.threads[1]? = some (.fetch 1 false) := by
  obtain ⟨s, hs, hp⟩ := exists_reachable_of_exec (I := WaitQueue.State.Initial (machine 0).Reachable)
    (s := ⟨State.loaded, fun _ => .out, fun _ => false, fun _ => false⟩) (f := (waitQueue 0).step)
    (l := [.inner (.call (.register 1 0) {}), .inner (.run 0 {}), .wake (.thread 0),
      .inner (.call (.fetch 1 false) {}), .inner (.run 1 {}), .enter (.thread 1),
      .look (.thread 1) false,
      .inner (.call (.submit 7 0 ⟨.bulk, .in, 1, none, none, 8⟩) {}), .inner (.run 2 {})])
    (p := fun s => s.place (.thread 1) = .asleep 1 ∧ s.armed (.thread 1) = true ∧
      s.inner.world.pendingForOwnerOrStopping 0 1 = true)
    ⟨.init (State.initial_loaded 0), fun _ => rfl, fun _ => rfl⟩ (by decide)
  obtain ⟨hplace, harmed, hpending⟩ := of_decide_eq_true hp
  obtain ⟨l, t, hl, hacts, -, -, hfetch⟩ := (no_wake_up_lost hs).2.2 _ _ hplace hpending
  refine ⟨s, l, t, hs, hplace, harmed, hl, ?_, hfetch 1 rfl⟩
  rw [← List.length_map Prod.snd]
  rcases hacts with hacts | ⟨j, hacts⟩
  · rw [hacts]
    exact Nat.le_succ 2
  · rw [hacts]
    exact Nat.le_refl 3

end DataPlane

end VirtUsb
