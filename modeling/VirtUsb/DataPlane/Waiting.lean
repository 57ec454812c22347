/-
# Fetches that wait

A fetch that finds nothing sleeps until the condition of its wait holds, which is a
second version of what the loop of the fetch decides.  The two agree if the file has
a binding or the backend is stopping (`waitMatches_iff`).  For a file without binding
the loop returns and the condition stays false: a release wakes the sleeping fetches
of its file, and they go back to sleep (`release_leaves_sleeper`).
-/

import VirtUsb.DataPlane.Invariant
import VirtUsb.Kernel.Control

namespace VirtUsb

open Transition

namespace World

variable (w : World) (h : HcdId) (f : FilePtr)

/-- One pass of the loop of `virtusb_backend_fetch` ends the call. -/
def FetchReturns : Prop := (w.fetchLocked h f).2 ≠ .empty

/-- The condition of the wait, and poll, say what a pass of the loop does. -/
def WaitMatches : Prop :=
  (w.pendingForOwnerOrStopping h f = true ↔ w.FetchReturns h f) ∧
    ((w.controlPoll h true f).epollin = true ↔ w.FetchReturns h f)

/-- A file of which a fetch may wait: it has a binding, or the backend is stopping. -/
def MayWait : Prop :=
  ((w.backends h).findOwnerLocked f).isSome = true ∨ (w.backends h).stopping = true

variable {w h f}

/-- A poll reports `EPOLLIN` under the condition that a fetch waits for. -/
theorem epollin_controlPoll :
    (w.controlPoll h true f).epollin = w.pendingForOwnerOrStopping h f := by
  rcases hp : w.pendingForOwnerOrStopping h f <;> simp [controlPoll, backendHasPending, hp]

/-- **The condition of the wait matches the loop** exactly for the files that may wait. -/
theorem waitMatches_iff : w.WaitMatches h f ↔ w.MayWait h f := by
  rw [WaitMatches, epollin_controlPoll, and_self, MayWait, FetchReturns, pendingForOwnerOrStopping,
    fetchLocked]
  rcases hf : (w.backends h).findOwnerLocked f with _ | binding
  · cases (w.backends h).stopping <;> simp
  rcases hp : w.findPendingDeviceLocked h binding.device with _ | r
  · cases hs : (w.backends h).stopping <;> simp [hp]
  · simp [hp]

end World

namespace DataPlane

namespace Thread

/-- The file whose fetch sleeps in the thread. -/
def sleeper : Thread → Option FilePtr
  | .fetchWait owner => some owner
  | _ => none

/-- The file whose binding the thread removes next, if it has one. -/
def unbinds : Thread → Option FilePtr
  | .release owner => some owner
  | _ => none

end Thread

namespace State

variable (h : HcdId) (s : State)

/-- The step does not remove the binding of a file while a fetch of the file sleeps. -/
def SparesSleepers : Act → Prop
  | .call _ _ => True
  | .run i _ => ∀ owner ∈ (s.threads[i]?).bind Thread.unbinds, ∀ thread ∈ s.threads,
      thread.sleeper ≠ some owner

instance (a : Act) : Decidable (s.SparesSleepers a) :=
  match a with
  | .call _ _ => .isTrue trivial
  | .run i _ => inferInstanceAs (Decidable (∀ owner ∈ (s.threads[i]?).bind Thread.unbinds,
      ∀ thread ∈ s.threads, thread.sleeper ≠ some owner))

/-- Every file with a sleeping fetch may wait. -/
def SleepersWait : Prop := ∀ owner, .fetchWait owner ∈ s.threads → s.world.MayWait h owner

end State

variable {h : HcdId} {s s' : State}

/-- A file has a binding if it is the client of a grant. -/
theorem mayWait_iff {owner : FilePtr} : s.world.MayWait h owner ↔
    (∃ g ∈ (queue h s).grants, g.client = owner) ∨ (queue h s).closed = true := by
  rw [World.MayWait, Backend.findOwnerLocked, List.find?_isSome]
  simp [queue, grant]

/-- A step keeps what a sleeping fetch may wait for. -/
theorem mayWait_step {a : Act} (hi : Inv h s) (hs : s.step h a = some s')
    (hspares : s.SparesSleepers a) {owner : FilePtr} (hsleep : .fetchWait owner ∈ s.threads)
    (hw : s.world.MayWait h owner) : s'.world.MayWait h owner := by
  obtain ⟨⟨e, hstep⟩, -⟩ := step_inv hi hs
  rw [mayWait_iff] at hw ⊢
  rcases hw with hg | hc
  swap
  · exact .inr (hstep.closed_of_closed hc)
  rcases hstep.client_granted hi.sound.shut hg with hg' | hc | ⟨k, g, rfl, rfl⟩
  · exact .inl hg'
  · exact .inr (hstep.closed_of_closed hc)
  have hlog : s'.log = s.log ++ [.revoked k g] := hstep.log
  cases a with
  | call c env =>
      rw [start_log hs] at hlog
      simp at hlog
  | run i env =>
      obtain ⟨thread, ht, hs⟩ := Option.bind_eq_some_iff.1 hs
      rcases resume_revoked hs hlog with rfl | rfl
      · exact absurd rfl (hspares g.client (by rw [ht]; rfl) _ hsleep)
      · have hagent : WorkQueue.Agent.evicting ∈ (queue h s).agents :=
          List.mem_of_getElem? (getElem?_agents ht)
        exact .inr (hstep.closed_of_closed (hi.sound.shut.closed _ hagent rfl))

/-- Only a pass of a fetch that found nothing goes to sleep. -/
theorem resume_sleeps {i : ℕ} {env : Env} {thread : Thread}
    (hs : s.resume h i env thread = some s') {owner : FilePtr}
    (hsleep : .fetchWait owner ∈ s'.threads) :
    .fetchWait owner ∈ s.threads ∨
      s'.world = s.world ∧ (s.world.fetchLocked h owner).2 = .empty := by
  have hset : ∀ {w : World} {next : Thread} {events : List Event},
      .fetchWait owner ∈ (s.advance i w next events).threads →
      .fetchWait owner ∈ s.threads ∨ next = .fetchWait owner := fun hmem =>
    (List.mem_or_eq_of_mem_set hmem).imp_right Eq.symm
  cases thread with
  | fetch f nonblock =>
      simp only [State.resume] at hs
      rcases hw : s.world.fetchLocked h f with ⟨w, r | e | _⟩ <;> rw [hw] at hs <;>
        obtain rfl := Option.some.inj hs
      · exact (hset hsleep).imp_right fun hnext => absurd hnext (by simp)
      · exact (hset hsleep).imp_right fun hnext => absurd hnext (by simp)
      · refine (hset hsleep).imp_right fun hnext => ?_
        cases nonblock
        · obtain rfl : f = owner := by simpa using hnext
          exact ⟨World.fetchLocked_empty hw, by rw [hw]⟩
        · exact absurd hnext (by simp)
  | fetchCopyOut f message =>
      obtain rfl := Option.some.inj hs
      refine (hset hsleep).imp_right fun hnext => ?_
      split at hnext
      · exact absurd hnext (by simp)
      · split at hnext <;> exact absurd hnext (by simp)
  | _ =>
      simp only [State.resume] at hs
      repeat' split at hs
      all_goals first
        | obtain rfl := Option.some.inj hs
          exact (hset hsleep).imp_right fun hnext => absurd hnext (by simp)
        | simp at hs

/-- No call starts asleep. -/
theorem start_sleeps {env : Env} {c : Call} (hs : s.start h env c = some s') {owner : FilePtr}
    (hsleep : .fetchWait owner ∈ s'.threads) : .fetchWait owner ∈ s.threads := by
  have hspawn : ∀ {w : World} {thread : Thread}, .fetchWait owner ∈ (s.spawn w thread).threads →
      thread ≠ .fetchWait owner → .fetchWait owner ∈ s.threads := by
    intro w thread hmem hne
    rcases List.mem_append.1 hmem with hold | hnew
    · exact hold
    · exact absurd (List.mem_singleton.1 hnew).symm hne
  cases c with
  | submit u device args =>
      simp only [State.start] at hs
      split at hs
      · simp at hs
      split at hs
      · obtain rfl := Option.some.inj hs
        exact hspawn hsleep (by simp)
      · split at hs <;> obtain rfl := Option.some.inj hs <;> exact hspawn hsleep (by simp)
  | register f device =>
      simp only [State.start] at hs
      split at hs <;> obtain rfl := Option.some.inj hs <;> exact hspawn hsleep (by simp)
  | rollback f id =>
      obtain rfl := Option.some.inj hs
      refine hspawn hsleep ?_
      split <;> simp
  | complete f completion =>
      obtain rfl := Option.some.inj hs
      refine hspawn hsleep ?_
      split <;> simp
  | _ =>
      obtain rfl := Option.some.inj hs
      exact hspawn hsleep (by simp)

/-- A pass that found nothing was for a file that may wait. -/
theorem mayWait_of_empty {w : World} {f : FilePtr} (he : (w.fetchLocked h f).2 = .empty) :
    w.MayWait h f := by
  rw [World.fetchLocked] at he
  rcases hf : (w.backends h).findOwnerLocked f with _ | binding
  · rw [hf] at he
    simp at he
  · exact .inl (by rw [hf]; rfl)

/-- **Every step that spares the sleeping fetches keeps their files waiting.** -/
theorem State.SleepersWait.step {a : Act} (hi : Inv h s) (hs : s.step h a = some s')
    (hspares : s.SparesSleepers a) (hw : s.SleepersWait h) : s'.SleepersWait h := by
  intro owner hsleep
  have hold : .fetchWait owner ∈ s.threads ∨
      s'.world = s.world ∧ (s.world.fetchLocked h owner).2 = .empty := by
    cases a with
    | call c env => exact .inl (start_sleeps hs hsleep)
    | run i env =>
        obtain ⟨thread, -, hs⟩ := Option.bind_eq_some_iff.1 hs
        exact resume_sleeps hs hsleep
  rcases hold with hold | ⟨hsame, hempty⟩
  · exact mayWait_step hi hs hspares hold (hw owner hold)
  · rw [hsame]
    exact mayWait_of_empty hempty

/-- **A sleeping fetch would not return if it ran**: this holds of a file in a state
exactly if it has a binding or the backend is stopping, and so of every sleeping fetch
in a run in which no file is released while a fetch of it sleeps. -/
theorem wait_matches_fetch (h : HcdId) :
    (∀ (w : World) (f : FilePtr), w.WaitMatches h f ↔
      ((w.backends h).findOwnerLocked f).isSome = true ∨ (w.backends h).stopping = true) ∧
    ∀ s₀ hist s, State.Initial h s₀ → Run (machine h) s₀ hist s →
      (∀ x ∈ hist, x.1.SparesSleepers x.2) →
      ∀ owner, .fetchWait owner ∈ s.threads → s.world.WaitMatches h owner := by
  refine ⟨fun w f => World.waitMatches_iff, fun s₀ hist s hinit hr hspares owner hsleep => ?_⟩
  have hboth : Inv h s ∧ s.SleepersWait h := by
    refine hr.invariant_where (I := fun s => Inv h s ∧ s.SleepersWait h)
      (C := fun s a => s.SparesSleepers a) (fun s a t hI hC hst => ?_) ⟨hinit.inv, ?_⟩ hspares
    · exact ⟨(step_inv hI.1 hst).2, hI.2.step hI.1 hst hC⟩
    · intro owner hmem
      rw [hinit.threads] at hmem
      exact absurd hmem List.not_mem_nil
  exact World.waitMatches_iff.2 (hboth.2 owner hsleep)

/-- File 1 is bound, and its fetch sleeps. -/
theorem wait_matches_fetch_example : ∃ s : State, (machine 0).Reachable s ∧
    .fetchWait 1 ∈ s.threads ∧ s.world.WaitMatches 0 1 := by
  obtain ⟨s, hist, hr, hspares, hp⟩ := exists_run_of_exec (I := State.Initial 0)
    (s := State.loaded) (f := State.step 0) (C := fun s a => s.SparesSleepers a)
    (l := [.call (.register 1 0) {}, .run 0 {}, .call (.fetch 1 false) {}, .run 1 {}])
    (p := fun s => (s.threads[1]?).bind Thread.sleeper = some 1) (by decide)
  obtain ⟨thread, ht, hsleeper⟩ := Option.bind_eq_some_iff.1 (of_decide_eq_true hp)
  obtain rfl : thread = .fetchWait 1 := by cases thread <;> simp_all [Thread.sleeper]
  have hmem := List.mem_of_getElem? ht
  exact ⟨s, ⟨_, hist, State.initial_loaded 0, hr⟩, hmem,
    (wait_matches_fetch 0).2 _ hist s (State.initial_loaded 0) hr hspares 1 hmem⟩

/-- **A release can leave a fetch of its file asleep**: file 1 is released
while its fetch sleeps.  A pass of the loop would return, but the condition of the wait
is false, and poll says that the file is not ready. -/
theorem release_leaves_sleeper : ∃ s : State, (machine 0).Reachable s ∧
    .fetchWait 1 ∈ s.threads ∧ (s.world.fetchLocked 0 1).2 = .failed .ENODEV ∧
    s.world.pendingForOwnerOrStopping 0 1 = false ∧
    (s.world.controlPoll 0 true 1).epollin = false ∧ ¬ s.world.WaitMatches 0 1 := by
  obtain ⟨s, hs, hp⟩ := exists_reachable_of_exec (State.initial_loaded 0)
    (f := State.step 0)
    (l := [.call (.register 1 0) {}, .run 0 {}, .call (.fetch 1 false) {}, .run 1 {},
      .call (.release 1) {}, .run 2 {}, .run 2 {}, .run 2 {}])
    (p := fun s => (s.threads[1]?).bind Thread.sleeper = some 1 ∧
      (s.world.fetchLocked 0 1).2 = .failed .ENODEV ∧
      s.world.pendingForOwnerOrStopping 0 1 = false ∧
      (s.world.controlPoll 0 true 1).epollin = false)
    (by decide)
  obtain ⟨hsleep, hfetch, hwait, hpoll⟩ := of_decide_eq_true hp
  obtain ⟨thread, ht, hsleeper⟩ := Option.bind_eq_some_iff.1 hsleep
  obtain rfl : thread = .fetchWait 1 := by cases thread <;> simp_all [Thread.sleeper]
  refine ⟨s, hs, List.mem_of_getElem? ht, hfetch, hwait, hpoll, fun hmatches => ?_⟩
  have hreturns := hmatches.1.2 (by rw [World.FetchReturns, hfetch]; simp)
  simp [hwait] at hreturns

end DataPlane

end VirtUsb
