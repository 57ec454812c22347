/-
# A device that is released is not plugged in

Between the lookup of a device and the put of the reference that the lookup took, the
device exists but need not be published: another handler may have destroyed it.
`virtusb_device_attach` does not ask whether it is, so it plugs in a device that was
destroyed, and the put that follows releases it with its peer (`released_attached`).

Every other call leaves the attached devices published, and a published device is
counted.  So no device is released while it is attached, in any run in which every
attachment finds its device published or is refused because the port is taken
(`released_detached`).
-/

import VirtUsb.Interleaving.Threads
import VirtUsb.Interleaving.Releases

namespace VirtUsb

open Transition RefCount

namespace World

variable {w w' : World} {N : ℕ} {held : DevicePtr → ℕ} {heldT : TransferPtr → ℕ} {d : DevicePtr}

/-- The device is published, or the port that it shall be plugged into has a peer. -/
def PublishedOrTaken (w : World) (d : DevicePtr) (h : HcdId) (n : ℕ) : Prop :=
  (w.objects d).registered = true ∨ (w.topo.peers (.downstream h (n - 1))).isSome = true

instance (w : World) (d : DevicePtr) (h : HcdId) (n : ℕ) : Decidable (w.PublishedOrTaken d h n) :=
  inferInstanceAs (Decidable (_ ∨ _))

/-- What is attached is published after every operation, if an attachment was of a published
device or refused. -/
theorem Catalogued.operate_of (hw : w.Catalogued) (hs : w.Sound) {op : Operation}
    (hop : ∀ d h n, op = .attach d h n → w.PublishedOrTaken d h n) :
    (w.operate op).1.Catalogued := by
  cases op with
  | attach d h n =>
      rcases hop d h n rfl with hreg | htaken
      · exact hw.operate hs (show Operation.Proper w (.attach d h n) from hreg)
      rw [World.operate]
      rcases hget : w.topo.hubGetPort h n with _ | p
      · exact hw
      obtain ⟨-, rfl⟩ := Topology.valid_of_hubGetPort hget
      dsimp only
      rcases hattach : w.topo.deviceAttach d (.downstream h (n - 1)) with ⟨t, e | _⟩
      · rw [Topology.deviceAttach_same hattach]
        exact hw
      · have hfree := (Topology.peers_deviceAttach hattach).1
        rw [hfree] at htaken
        exact absurd htaken (by simp)
  | destroy d force => exact hw.deviceDestroy hs d force
  | _ => exact hw.operate hs trivial

/-- An attached device is counted. -/
theorem Accounts.count_pos_of_attached (ha : w.Accounts N held heldT) (hw : w.Catalogued)
    (hd : (w.topo.peers (.upstream d)).isSome = true) : 0 < (w.objects d).refcount :=
  ha.count_pos_of_registered (hw.attached d hd)

/-- **A release that has just been recorded did not warn**: its device is not counted. -/
theorem Accounts.quiet (ha : w'.Accounts N held heldT) (hw : w'.Catalogued) (ht : Truthful w w')
    (hq : ∀ r ∈ w.released, r.warned = false) : ∀ r ∈ w'.released, r.warned = false := by
  intro r hr
  rcases ht r hr with hold | hwarned
  · exact hq r hold
  have hmem : r.device ∈ w'.books.released := List.mem_map_of_mem hr
  have hgone : (w'.objects r.device).refcount = 0 :=
    (congrFun ha.devices.count r.device).trans (ha.devices.mem_freed.1 hmem).2
  rw [hwarned]
  by_contra hne
  have hpeer := Bool.eq_true_of_not_eq_false hne
  exact absurd hgone (Nat.ne_of_gt (ha.count_pos_of_attached hw hpeer))

end World

namespace Interleaving

variable {N : ℕ} {w : World} {env : Env} {thread : Thread} {s s' : State}

/-! ### What the step of a thread does -/

/-- The thread is not at an attachment, or at one of a published device, or at one that will
be refused. -/
def Thread.AttachesPublished (w : World) : Thread → Prop
  | .work d (.attach h n) => w.PublishedOrTaken d h n
  | _ => True

instance (w : World) : (thread : Thread) → Decidable (thread.AttachesPublished w)
  | .work d (.attach h n) => inferInstanceAs (Decidable (w.PublishedOrTaken d h n))
  | .work _ .detach | .work _ (.connection _) | .work _ (.destroy _) | .work _ (.register ..)
  | .create _ | .undo _ | .lookup .. | .bind .. | .put .. | .done _ =>
      inferInstanceAs (Decidable True)

/-- What the creation step of a handler does to the world. -/
theorem run_create (w : World) (env : Env) (speed : Byte) :
    (run w env (.create speed)).1 = (w.deviceCreate speed env).1 := by
  rw [run]
  rcases w.deviceCreate speed env with ⟨w', e | d⟩
  · rfl
  · rfl

/-- What the lookup step of a handler does to the world. -/
theorem run_lookup (w : World) (env : Env) (id : ObjectId) (work : Work) :
    (run w env (.lookup id work)).1 = (w.objectLookup id).1 := by
  rw [run, World.objectLookup]
  split
  · rfl
  rcases w.objectTable id with _ | d
  · rfl
  · rfl

/-- **The step of a thread** is an operation, or is aside of what operations manage; it
attaches or creates a device only where the thread is at that call. -/
theorem run_cases (w : World) (env : Env) (thread : Thread) :
    Aside w (run w env thread).1 ∨ ∃ op, (run w env thread).1 = (w.operate op).1 ∧
      (∀ d h n, op = .attach d h n → thread = .work d (.attach h n)) ∧
      ∀ speed env', op = .create speed env' → thread = .create speed ∧ env' = env := by
  cases thread with
  | create speed => exact .inr ⟨.create speed env, run_create w env speed, by simp, by simp⟩
  | undo d => exact .inr ⟨.destroy d true, rfl, by simp, by simp⟩
  | lookup id work =>
      rw [run_lookup, World.objectLookup]
      refine .inl ?_
      split
      · exact .refl w
      rcases w.objectTable id with _ | d
      · exact .refl w
      · exact Aside.objectGet w d
  | work d work =>
      cases work with
      | attach h n => exact .inr ⟨.attach d h n, rfl, by simp, by simp⟩
      | detach => exact .inr ⟨.detach d, rfl, by simp, by simp⟩
      | connection enabled => exact .inr ⟨.connection d enabled, rfl, by simp, by simp⟩
      | destroy force => exact .inr ⟨.destroy d force, rfl, by simp, by simp⟩
      | register h f => exact .inl (.refl w)
  | bind d h f => exact .inl (Aside.backendRegister w h f d env)
  | put d ret => exact .inl (Aside.objectPut w d)
  | done ret => exact .inl (.refl w)

/-- A step of a handler records truthful releases. -/
theorem truthful_run (w : World) (env : Env) (thread : Thread) :
    Truthful w (run w env thread).1 := by
  rcases run_cases w env thread with haside | ⟨op, hrun, -, -⟩
  · exact haside.truthful
  · rw [hrun]
    exact World.truthful_operate w op

/-- A thread keeps the control plane sound. -/
theorem sound_run (hs : w.Sound) (hw : w.Catalogued) (hp : w.Ported)
    (hc : thread.AttachesPublished w) (env : Env) :
    (run w env thread).1.Sound ∧ (run w env thread).1.Catalogued ∧
      (run w env thread).1.Ported := by
  rcases run_cases w env thread with haside | ⟨op, hrun, hattach, -⟩
  · exact ⟨hs.of_management haside.management, hw.of_management haside.management,
      hp.of_management haside.management⟩
  · rw [hrun]
    refine ⟨hs.step op, hw.operate_of hs fun d h n hop => ?_, hp.operate hs op⟩
    rw [hattach d h n hop] at hc
    exact hc

/-- **The reference of a thread** is the one that its next state says it holds. -/
theorem accounts_run {held : DevicePtr → ℕ}
    (ha : w.Accounts N (held + tally thread.holds.toList) 0) (hin : thread.Within N) (env : Env) :
    (run w env thread).1.Accounts N (held + tally (run w env thread).2.holds.toList) 0 ∧
      (run w env thread).2.Within N := by
  have hone : ∀ d, tally [d] = Pi.single d 1 := fun d => (tally_cons d []).trans (zero_add _)
  have hsame : ∀ {v : World} {k : DevicePtr → ℕ}, v.Accounts N (held + k) 0 → ∀ {k'}, k = k' →
      v.Accounts N (held + k') 0 := fun hv _ hk => hk ▸ hv
  cases thread with
  | create speed =>
      have hfree : w.Accounts N (held + 0) 0 := ha
      rw [add_zero] at hfree
      have hcreate := hfree.deviceCreate speed env
      rw [run]
      rcases hs : w.deviceCreate speed env with ⟨w', e | d⟩
      · rw [hs] at hcreate
        exact ⟨hcreate, trivial⟩
      · rw [hs] at hcreate
        dsimp only
        split
        · exact ⟨hsame hcreate (hone d).symm, trivial⟩
        · exact ⟨hsame hcreate (hone d).symm, trivial⟩
  | undo d => exact ⟨ha.deviceDestroy d true, trivial⟩
  | lookup id work =>
      have hfree : w.Accounts N (held + 0) 0 := ha
      rw [add_zero] at hfree
      rw [run]
      split
      · exact ⟨ha, trivial⟩
      rcases hs : w.objectLookup id with ⟨w', _ | d⟩
      · rw [World.Accounts.objectLookup_none hs]
        exact ⟨ha, trivial⟩
      · have hfound := (hfree.objectLookup hs).1
        dsimp only
        split
        · exact ⟨hsame hfound (hone d).symm, trivial⟩
        · refine ⟨hsame hfound (hone d).symm, ?_⟩
          cases work with
          | register h f => exact hin
          | _ => trivial
  | work d work =>
      cases work with
      | attach h n =>
          rw [run, World.operate]
          rcases w.topo.hubGetPort h n with _ | p
          · exact ⟨ha, trivial⟩
          · exact ⟨ha.withTopo _, trivial⟩
      | detach => exact ⟨ha.withTopo _, trivial⟩
      | connection enabled => exact ⟨ha.withTopo _, trivial⟩
      | destroy force => exact ⟨ha.deviceDestroy d force, trivial⟩
      | register h f =>
          rw [run]
          dsimp only
          split
          · exact ⟨ha, hin⟩
          · exact ⟨ha, trivial⟩
  | bind d h f =>
      have hheld := hsame ha (hone d)
      exact ⟨ha.backendRegister hin hheld.count_pos env, trivial⟩
  | put d ret => exact ⟨World.Accounts.objectPut (hsame ha (hone d)), trivial⟩
  | done ret => exact ⟨ha, trivial⟩

/-- A handler starts with nothing in its hands. -/
theorem begin_spec {h : HcdId} (hh : h < N) (w : World) (request : Request) (env : Env) :
    (begin w h request env).holds = none ∧ (begin w h request env).Within N := by
  unfold begin
  split
  · exact ⟨rfl, trivial⟩
  cases request with
  | create request =>
      dsimp only
      split
      · exact ⟨rfl, trivial⟩
      · exact ⟨rfl, trivial⟩
  | destroy request =>
      dsimp only
      split
      · exact ⟨rfl, trivial⟩
      · exact ⟨rfl, trivial⟩
  | attach request =>
      dsimp only
      split
      · exact ⟨rfl, trivial⟩
      rcases w.topo.hubGetPort h request.port with _ | p
      · exact ⟨rfl, trivial⟩
      · exact ⟨rfl, trivial⟩
  | detach request => exact ⟨rfl, trivial⟩
  | connection request =>
      dsimp only
      split
      · exact ⟨rfl, trivial⟩
      · exact ⟨rfl, trivial⟩
  | register f request => exact ⟨rfl, hh⟩

/-! ### The state between two steps -/

/-- What holds between two steps: the books balance with what the threads hold, the control
plane is sound, and no release has warned. -/
structure State.Steady (N : ℕ) (s : State) : Prop where
  accounts : s.world.Accounts N s.held 0
  sound : s.world.Sound
  catalogued : s.world.Catalogued
  ported : s.world.Ported
  within : ∀ thread ∈ s.threads, thread.Within N
  quiet : ∀ r ∈ s.world.released, r.warned = false

/-- The step is no attachment, or the attachment finds its device published or is refused
because the port is taken. -/
def State.AttachesPublished (s : State) : Action → Prop
  | .run i _ => ∀ thread ∈ s.threads[i]?, thread.AttachesPublished s.world
  | _ => True

instance (s : State) : (a : Action) → Decidable (s.AttachesPublished a)
  | .run i _ =>
      inferInstanceAs (Decidable (∀ thread ∈ s.threads[i]?, thread.AttachesPublished s.world))
  | .start .. | .call _ => inferInstanceAs (Decidable True)

/-- Before the first handler the module is steady. -/
theorem steady_of_init (hi : (machine N).init s) : s.Steady N := by
  obtain ⟨hinit, hthreads⟩ := hi
  have hs : s.world.Steady N := hinit.steady
  have hheld : s.held = 0 := by rw [State.held, hthreads]; rfl
  have hreleased : s.world.released = [] := by
    obtain ⟨hubs, -, hw⟩ := hinit
    rw [hw]
    rfl
  refine ⟨hheld ▸ hs.accounts, hs.sound, hs.catalogued, hs.ported, ?_, ?_⟩
  · rw [hthreads]
    exact fun _ hmem => absurd hmem List.not_mem_nil
  · rw [hreleased]
    exact fun _ hmem => absurd hmem List.not_mem_nil

/-- A call to a host controller keeps the state steady. -/
theorem State.Steady.call (hs : s.Steady N) {c : Call} (hc : c.hcd < N) :
    State.Steady N { s with world := s.world.call c } := by
  have ha := hs.accounts.call hs.catalogued hs.sound.topo.wired hc
  obtain ⟨hsound, hcatalogued, hported⟩ :=
    hs.accounts.sound_call hs.sound hs.catalogued hs.ported c
  exact ⟨ha, hsound, hcatalogued, hported, hs.within,
    ha.quiet hcatalogued (World.truthful_call hs.accounts c) hs.quiet⟩

/-- **Every step keeps the state steady** that attaches no device which is not published. -/
theorem State.Steady.step {a : Action} (hs : s.Steady N) (hc : s.AttachesPublished a)
    (hst : s.step N a = some s') : s'.Steady N := by
  cases step_cases hst with
  | @start h request env hh =>
      obtain ⟨hholds, hin⟩ := begin_spec hh s.world request env
      have hheld : State.held ⟨s.world, s.threads ++ [begin s.world h request env]⟩ = s.held := by
        simp [State.held, hholds]
      refine ⟨hheld ▸ hs.accounts, hs.sound, hs.catalogued, hs.ported, fun thread hmem => ?_,
        hs.quiet⟩
      rcases List.mem_append.1 hmem with hmem | hmem
      · exact hs.within thread hmem
      · rwa [List.mem_singleton.1 hmem]
  | @run i env thread hi =>
      have hlt := (List.getElem?_eq_some_iff.1 hi).1
      have hnext : (s.threads.set i (run s.world env thread).2)[i]? =
          some (run s.world env thread).2 := by
        rw [List.getElem?_set_self hlt]
      -- what the other threads hold, and what this one does
      have hheld := tally_filterMap Thread.holds hi
      have hheld' := tally_filterMap Thread.holds hnext
      rw [List.eraseIdx_set_eq] at hheld'
      have haccounts := hs.accounts
      rw [State.held, hheld] at haccounts
      obtain ⟨ha, hin⟩ := accounts_run haccounts (hs.within thread (List.mem_of_getElem? hi)) env
      obtain ⟨hsound, hcatalogued, hported⟩ :=
        sound_run hs.sound hs.catalogued hs.ported (hc thread hi) env
      refine ⟨?_, hsound, hcatalogued, hported, fun thread' hmem => ?_,
        ha.quiet hcatalogued (truthful_run s.world env thread) hs.quiet⟩
      · rw [State.held, hheld']
        exact ha
      · rcases List.mem_or_eq_of_mem_set hmem with hmem | rfl
        · exact hs.within thread' hmem
        · exact hin
  | call hcall => exact hs.call hcall.1

/-- No port has a peer that was released. -/
theorem State.Steady.count_pos_of_peer (hs : s.Steady N) {h : HcdId} {i : ℕ} {d : DevicePtr}
    (hp : s.world.topo.peers (.downstream h i) = some (.upstream d)) :
    0 < (s.world.objects d).refcount := by
  obtain ⟨hback, -⟩ := hs.sound.topo.wired.symm _ _ hp
  exact hs.accounts.count_pos_of_attached hs.catalogued (Option.isSome_iff_exists.2 ⟨_, hback⟩)

/-- **A device that is released is not plugged in**, in any run in which every attachment
finds its device published or is refused because the port is taken: no port has a peer
whose last reference was dropped, and no release warned. -/
theorem released_detached {s₀ : State} {hist : List (State × Action)} (hi : (machine N).init s₀)
    (hr : Run (machine N) s₀ hist s) (hc : ∀ x ∈ hist, x.1.AttachesPublished x.2) :
    ∀ u ∈ visited hist s,
      (∀ h i d, u.world.topo.peers (.downstream h i) = some (.upstream d) →
        0 < (u.world.objects d).refcount) ∧
      ∀ r ∈ u.world.released, r.warned = false := by
  intro u hu
  have hs := hr.forall_visited (I := State.Steady N) (C := State.AttachesPublished)
    (fun _ _ _ hs hc hst => hs.step hc hst) (steady_of_init hi) hc u hu
  exact ⟨fun h i d => hs.count_pos_of_peer, hs.quiet⟩

/-- A device is created; a handler that looked it up attaches it, and another one that looked
it up before destroys it by force. -/
theorem released_detached_example : ∃ s hist, Run (machine 1) ⟨World.oneHub, []⟩ hist s ∧
    s.world.released = [⟨0, false⟩] ∧ ∀ u ∈ visited hist s, ∀ h i d,
      u.world.topo.peers (.downstream h i) = some (.upstream d) →
        0 < (u.world.objects d).refcount := by
  obtain ⟨s, hist, hr, hc, hp⟩ := exists_run_of_exec
    (I := fun s : State => s.world.Initialised ∧ s.threads = []) (s := ⟨World.oneHub, []⟩)
    (f := State.step 1) (C := State.AttachesPublished)
    (l := [.call (.ioctl 0 true 5 false ioctlDeviceCreate (.ofWords [7]) {}),
      .start 0 (.attach ⟨1, 0, 1⟩) {}, .run 0 {}, .start 0 (.destroy ⟨1, 1⟩) {}, .run 1 {},
      .run 0 {}, .run 1 {}, .run 0 {}, .run 1 {}])
    (p := fun s => s.world.released = [⟨0, false⟩]) (by decide)
  have hdetached := released_detached ⟨World.oneHub_initialised, rfl⟩ hr hc
  exact ⟨s, hist, hr, of_decide_eq_true hp, fun u hu => (hdetached u hu).1⟩

/-- **A device that was released can stay plugged in**: between the lookup and the attachment
of one handler another one destroys the device, and the put of the first releases it. -/
theorem released_attached : ∃ s, (machine 1).Reachable s ∧
    s.world.topo.peers (.downstream 0 0) = some (.upstream 0) ∧
    (s.world.objects 0).refcount = 0 ∧ s.world.released = [⟨0, true⟩] := by
  obtain ⟨s, hs, hp⟩ := exists_reachable_of_exec
    (I := fun s : State => s.world.Initialised ∧ s.threads = []) (s := ⟨World.oneHub, []⟩)
    (f := State.step 1)
    (l := [.call (.ioctl 0 true 5 false ioctlDeviceCreate (.ofWords [7]) {}),
      .start 0 (.attach ⟨1, 0, 1⟩) {}, .run 0 {}, .start 0 (.destroy ⟨1, 0⟩) {}, .run 1 {},
      .run 1 {}, .run 1 {}, .run 0 {}, .run 0 {}])
    (p := fun s => s.world.topo.peers (.downstream 0 0) = some (.upstream 0) ∧
      (s.world.objects 0).refcount = 0 ∧ s.world.released = [⟨0, true⟩])
    ⟨World.oneHub_initialised, rfl⟩ (by decide)
  exact ⟨s, hs, of_decide_eq_true hp⟩

end Interleaving

end VirtUsb
