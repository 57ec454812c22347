/-
# The teardown of the host controllers

`kernel/src/virtusb_module.c`.  The module creates its host controllers one after the other,
and the control node of one is in use while the next ones are created.  When a creation
fails, and when the module is unloaded, the host controllers that exist are destroyed, and
then the object manager ends.  An unload shuts down all devices first, as long as the hubs
that they are attached to exist.

The failure path does not: it destroys a host controller under an attached device, and ends
the object manager while the device is published (`teardown_under_device`).  Where no
creation fails while a device is published, and none is created after the failure, both
paths find every hub free and the object table empty (`teardown_clear`), in all runs in which
handlers attach published devices only.

Nothing refers to a hub before its host controller is created, so the hubs are as
`virtusb_root_hub_init` leaves them from the start.  What fails before the first creation
leaves the same to do as a first creation that fails.
-/

import VirtUsb.Interleaving.Attachment
import VirtUsb.Module.Shutdown

namespace VirtUsb

open Transition RefCount

namespace World

variable (w : World)

/-- The end of `virtusb_hcd_platform_probe`, as far as it is not the USB core's. -/
def hcdPlatformProbe (h : HcdId) : World := w.call (.setStatusChangedCallback h true)

/-- `virtusb_hcd_platform_remove`, as far as it is not the USB core's. -/
def hcdPlatformRemove (h : HcdId) : World :=
  (w.call (.setStatusChangedCallback h false)).call (.stop h)

end World

/-- An operation on a file of a control node. -/
def Call.onFile : Call → Bool
  | .ioctl .. => true
  | .close .. => true
  | _ => false

/-! ### What publishes a device -/

/-- The call is a DEVICE_CREATE whose `virtusb_device_create` succeeds. -/
def Call.Creates (w : World) : Call → Prop
  | .ioctl _ active _ _ command m env =>
      active = true ∧ command = ioctlDeviceCreate ∧ env.copyFromUser = true ∧
        controlSpeedCapsValid (m.word 0) = true ∧
        (w.deviceCreate ((m.word 0).setWidth 8) env).2.isOk = true
  | _ => False

instance (w : World) : (c : Call) → Decidable (c.Creates w)
  | .ioctl .. => inferInstanceAs (Decidable (_ ∧ _ ∧ _ ∧ _ ∧ _))
  | .close .. | .urbEnqueue .. | .urbDequeue .. | .hubControl .. | .setStatusChangedCallback ..
  | .stop _ => inferInstanceAs (Decidable False)

namespace World

variable {w w' : World} {d : DevicePtr}

/-- A creation that fails publishes nothing. -/
theorem registered_deviceCreate {speed : Byte} {env : Env} {e : Errno}
    (hs : w.deviceCreate speed env = (w', .error e)) (hd : (w'.objects d).registered = true) :
    (w.objects d).registered = true := by
  have hnew : ∀ {v : World}, v.objects = Function.update w.objects w.nextDevice { refcount := 0 } →
      (v.objects d).registered = true → (w.objects d).registered = true := by
    intro v hv hreg
    rw [hv] at hreg
    rcases eq_or_ne d w.nextDevice with rfl | hne
    · simp at hreg
    · rwa [Function.update_of_ne hne] at hreg
  rcases hport : portInit .upstream speed (.device w.nextDevice) with e' | port
  · rw [deviceCreate_invalid hport] at hs
    split at hs
    · obtain rfl := congrArg Prod.fst hs
      exact hd
    · obtain rfl := congrArg Prod.fst hs
      exact hnew rfl hd
  rw [deviceCreate_eq hport] at hs
  split at hs
  · obtain rfl := congrArg Prod.fst hs
    exact hd
  split at hs
  · obtain rfl := congrArg Prod.fst hs
    exact hnew rfl hd
  rcases hx : env.xaInsert with e' | _
  · rw [hx] at hs
    obtain rfl := congrArg Prod.fst hs
    exact hnew rfl hd
  · simp [hx] at hs

/-- What happens aside publishes nothing. -/
theorem registered_of_aside (ha : Aside w w') (hd : (w'.objects d).registered = true) :
    (w.objects d).registered = true :=
  (object_of_management ha.management d).2.2 ▸ hd

/-- A destruction publishes nothing. -/
theorem registered_deviceDestroy {d' : DevicePtr} {force : Bool}
    (hd : ((w.deviceDestroy d' force).1.objects d).registered = true) :
    (w.objects d).registered = true := by
  have hdestroyed : ((w.operate (.destroy d' force)).1.objects d).registered = true := hd
  exact registered_operate (by simp) hdestroyed

/-- **A call publishes no device**, unless it is a DEVICE_CREATE that succeeds. -/
theorem registered_call (hw : w.Counted) {c : Call} (hc : ¬ c.Creates w)
    (hd : ((w.call c).objects d).registered = true) : (w.objects d).registered = true := by
  cases c with
  | ioctl h active f nonblock command m env =>
      revert hd
      have hfetch := Aside.backendFetch w h f nonblock
      refine controlIoctl_rule
        (P := fun v => (v.objects d).registered = true → (w.objects d).registered = true) hw
        (fun _ => id) (fun hactive hcommand => ?_) (fun _ _ => registered_deviceDestroy)
        (fun _ d' _ => registered_of_aside (Aside.backendRegister w h f d' env))
        (registered_of_aside (Aside.backendReleaseOwner w h f)) (registered_of_aside hfetch)
        (fun id => registered_of_aside (hfetch.trans (Aside.backendFetchRollback _ h f id)))
        fun completion => registered_of_aside (Aside.backendComplete w h f completion)
      rw [controlDeviceCreate]
      split
      · exact id
      rename_i hfrom
      split
      · exact id
      rename_i hvalid
      rcases hs : w.deviceCreate ((m.word 0).setWidth 8) env with ⟨w₁, e | d'⟩
      · exact registered_deviceCreate hs
      · exact absurd ⟨hactive, hcommand, by simpa using hfrom, by simpa using hvalid,
          by rw [hs]; rfl⟩ hc
  | close h f => exact registered_of_aside (Aside.backendReleaseOwner w h f) hd
  | urbEnqueue h u urb env =>
      have hhanded := Aside.hcdUrbEnqueue (w.handUrb u urb) h u env
      exact registered_of_aside (hhanded.after rfl rfl rfl) hd
  | urbDequeue h u status => exact registered_of_aside (Aside.hcdUrbDequeue w h u status) hd
  | hubControl h typeReq value index => exact hd
  | setStatusChangedCallback h installed => exact hd
  | stop h => exact registered_of_aside (Aside.backendStop w h) hd

end World

namespace Interleaving

variable {N : ℕ} {s s' : State} {thread : Thread} {w : World} {env : Env}

/-- The handler has returned. -/
def Thread.isDone : Thread → Bool
  | .done _ => true
  | _ => false

/-- A handler is done when it returned. -/
theorem Thread.isDone_iff : thread.isDone = true ↔ ∃ ret, thread = .done ret := by
  cases thread <;> simp [isDone]

/-- The thread is at a `virtusb_device_create` that succeeds. -/
def Thread.Creates (w : World) (env : Env) : Thread → Prop
  | .create speed => (w.deviceCreate speed env).2.isOk = true
  | _ => False

instance (w : World) (env : Env) : (thread : Thread) → Decidable (thread.Creates w env)
  | .create _ => inferInstanceAs (Decidable (_ = true))
  | .undo _ | .lookup .. | .work .. | .bind .. | .put .. | .done _ =>
      inferInstanceAs (Decidable False)

/-- A `virtusb_device_create` succeeds in the step. -/
def State.Creates (s : State) : Action → Prop
  | .start .. => False
  | .run i env => ∃ thread ∈ s.threads[i]?, thread.Creates s.world env
  | .call c => c.Creates s.world

instance (s : State) : (a : Action) → Decidable (s.Creates a)
  | .start .. => inferInstanceAs (Decidable False)
  | .run i env =>
      inferInstanceAs (Decidable (∃ thread ∈ s.threads[i]?, thread.Creates s.world env))
  | .call c => inferInstanceAs (Decidable (c.Creates s.world))

/-- A step of a handler that does not create a device publishes nothing. -/
theorem registered_run {d : DevicePtr} (hc : ¬ thread.Creates w env)
    (hd : ((run w env thread).1.objects d).registered = true) :
    (w.objects d).registered = true := by
  rcases run_cases w env thread with haside | ⟨op, hrun, -, hcreate⟩
  · exact World.registered_of_aside haside hd
  rw [hrun] at hd
  by_cases hop : ∀ speed env', op ≠ .create speed env'
  · exact World.registered_operate hop hd
  push Not at hop
  obtain ⟨speed, env', rfl⟩ := hop
  obtain ⟨rfl, rfl⟩ := hcreate speed env' rfl
  rcases hs : w.deviceCreate speed env' with ⟨w', e | d'⟩
  · rw [World.operate, hs] at hd
    exact World.registered_deviceCreate hs hd
  · refine absurd ?_ hc
    rw [Thread.Creates, hs]
    rfl

/-- **A step publishes no device** in which none is created. -/
theorem State.Steady.registered_step {a : Action} {d : DevicePtr} (hs : s.Steady N)
    (hc : ¬ s.Creates a) (hst : s.step N a = some s')
    (hd : (s'.world.objects d).registered = true) : (s.world.objects d).registered = true := by
  cases step_cases hst with
  | start hh => exact hd
  | run hi => exact registered_run (fun hcreates => hc ⟨_, hi, hcreates⟩) hd
  | call hcall => exact World.registered_call hs.accounts.counted hc hd

end Interleaving

namespace Teardown

/-- Where the module is. -/
inductive Phase
  /-- `virtusb_module_init` creates the host controllers. -/
  | init
  | live
  /-- A creation failed, and `virtusb_module_destroy_hcds` runs. -/
  | failing
  /-- `virtusb_module_exit` runs `virtusb_device_shutdown_all`. -/
  | exiting
  /-- `virtusb_module_exit` runs `virtusb_module_destroy_hcds`. -/
  | removing
  | gone
  deriving DecidableEq

/-- No operation on a file runs once the module is unloaded. -/
def Phase.usable : Phase → Bool
  | .init => true
  | .live => true
  | .failing => true
  | _ => false

/-- The handlers, the number of host controllers that exist, and how far the module is. -/
structure State where
  handlers : Interleaving.State
  hcdCreatedCount : ℕ
  phase : Phase

/-- A step of a handler, or one of the loading and unloading of the module. -/
inductive Action
  | handler (a : Interleaving.Action)
  | hcdCreate (ok : Bool)
  | moduleExit
  /-- A pass of the loop of `virtusb_device_shutdown_all`. -/
  | shutdownPass
  | hcdDestroy
  | objectManagerExit

namespace State

/-- The state with another world. -/
def withWorld (s : State) (w : World) : State :=
  { s with handlers := { s.handlers with world := w } }

/-- A handler starts on a control node that exists.  The USB core already uses the host
controller that is being created. -/
def Admits (s : State) : Interleaving.Action → Prop
  | .start h _ _ => s.phase.usable = true ∧ h < s.hcdCreatedCount
  | .run _ _ => True
  | .call c =>
      if c.onFile then s.phase.usable = true ∧ c.hcd < s.hcdCreatedCount
      else c.hcd < s.hcdCreatedCount ∨ s.phase = .init ∧ c.hcd = s.hcdCreatedCount

instance (s : State) : (a : Interleaving.Action) → Decidable (s.Admits a)
  | .start .. => inferInstanceAs (Decidable (_ ∧ _))
  | .run .. => inferInstanceAs (Decidable True)
  | .call c => inferInstanceAs (Decidable (if c.onFile then _ ∧ _ else _ ∨ _ ∧ _))

/-- One step, where `hcd_count` is `N`. -/
def step (N : ℕ) (s : State) : Action → Option State
  | .handler a =>
      if s.Admits a then (s.handlers.step N a).map fun u => { s with handlers := u } else none
  | .hcdCreate ok =>
      if s.phase = .init ∧ s.hcdCreatedCount < N then
        if ok then
          some { s.withWorld (s.handlers.world.hcdPlatformProbe s.hcdCreatedCount) with
            hcdCreatedCount := s.hcdCreatedCount + 1
            phase := if s.hcdCreatedCount + 1 = N then .live else .init }
        else some { s with phase := .failing }
      else none
  | .moduleExit =>
      if s.phase = .live ∧ ∀ thread ∈ s.handlers.threads, thread.isDone = true then
        some { s with phase := .exiting }
      else none
  | .shutdownPass =>
      if s.phase = .exiting then
        match s.handlers.world.shutdownPass with
        | (w, none) => some { s.withWorld w with phase := .removing }
        | (w, some _) => some (s.withWorld w)
      else none
  | .hcdDestroy =>
      if (s.phase = .failing ∨ s.phase = .removing) ∧ 0 < s.hcdCreatedCount then
        some { s.withWorld (s.handlers.world.hcdPlatformRemove (s.hcdCreatedCount - 1)) with
          hcdCreatedCount := s.hcdCreatedCount - 1 }
      else none
  | .objectManagerExit =>
      if (s.phase = .failing ∨ s.phase = .removing) ∧ s.hcdCreatedCount = 0 then
        some { s with phase := .gone }
      else none

end State

/-- The module with `N` host controllers, from its initialisation to its end. -/
abbrev machine (N : ℕ) : Machine State Action :=
  .ofFun (fun s => (Interleaving.machine N).init s.handlers ∧ s.hcdCreatedCount = 0 ∧
    s.phase = .init) (State.step N)

/-! ### What is found at a teardown -/

/-- Where a host controller is destroyed, no device is attached to its root hub; where the
object manager ends, no object is published. -/
def State.FindsClear (s : State) : Action → Prop
  | .hcdDestroy => ∀ i, s.handlers.world.topo.peers (.downstream (s.hcdCreatedCount - 1) i) = none
  | .objectManagerExit => ∀ id, s.handlers.world.objectTable id = none
  | _ => True

/-- A creation fails only while no device is published, no device is created after that, and
handlers attach published devices only. -/
def State.Orderly (s : State) : Action → Prop
  | .handler a => s.handlers.AttachesPublished a ∧ (s.phase = .failing → ¬ s.handlers.Creates a)
  | .hcdCreate ok => ok = false → ∀ d < s.handlers.world.nextDevice,
      (s.handlers.world.objects d).registered = false
  | _ => True

instance (s : State) : (a : Action) → Decidable (s.Orderly a)
  | .handler _ => inferInstanceAs (Decidable (_ ∧ (_ → _)))
  | .hcdCreate _ => inferInstanceAs (Decidable (_ → _))
  | .moduleExit | .shutdownPass | .hcdDestroy | .objectManagerExit =>
      inferInstanceAs (Decidable True)

/-! ### What holds between two steps -/

/-- The handlers are steady; none of them runs once the module is unloaded; and no device is
published while host controllers are destroyed. -/
structure State.Sound (N : ℕ) (s : State) : Prop where
  steady : s.handlers.Steady N
  created : s.hcdCreatedCount ≤ N
  done : s.phase = .exiting ∨ s.phase = .removing →
    ∀ thread ∈ s.handlers.threads, thread.isDone = true
  bare : s.phase = .failing ∨ s.phase = .removing →
    ∀ d, (s.handlers.world.objects d).registered = false

variable {N : ℕ} {s s' : State}

/-- A module that is about to be loaded is sound. -/
theorem sound_of_init (hi : (machine N).init s) : s.Sound N := by
  obtain ⟨hinit, hcreated, hphase⟩ := hi
  refine ⟨Interleaving.steady_of_init hinit, by omega, ?_, ?_⟩
  · rw [hphase]
    exact fun h => absurd h (by simp)
  · rw [hphase]
    exact fun h => absurd h (by simp)

/-- A teardown finds everything clear once no device is published. -/
theorem State.Sound.clear (hs : s.Sound N)
    (hbare : ∀ d, (s.handlers.world.objects d).registered = false) (a : Action) :
    s.FindsClear a := by
  have hattached : ∀ d, s.handlers.world.topo.peers (.upstream d) = none := by
    intro d
    by_contra hne
    have hreg := hs.steady.catalogued.attached d (Option.isSome_iff_ne_none.2 hne)
    exact absurd ((hbare d).symm.trans hreg) (by simp)
  cases a with
  | hcdDestroy => exact fun i => hs.steady.sound.topo.wired.peers_eq_none hattached _
  | objectManagerExit =>
      intro id
      by_contra hne
      obtain ⟨d, hd⟩ := Option.ne_none_iff_exists'.1 hne
      have hreg := (hs.steady.accounts.registry.entry id d hd).1
      exact absurd ((hbare d).symm.trans hreg) (by simp)
  | _ => trivial

/-- **The handlers keep the module sound.** -/
theorem State.Sound.handler (hs : s.Sound N) {a : Interleaving.Action}
    {u : Interleaving.State} (hc : s.Orderly (.handler a)) (hadmits : s.Admits a)
    (hstep : s.handlers.step N a = some u) : State.Sound N { s with handlers := u } := by
  obtain ⟨hattach, hcreates⟩ := hc
  have hdone : s.phase = .exiting ∨ s.phase = .removing →
      (∀ thread ∈ u.threads, thread.isDone = true) ∧ ¬ s.handlers.Creates a := by
    intro hphase
    have hall := hs.done hphase
    have hunusable : s.phase.usable = false := by
      rcases hphase with hphase | hphase <;> rw [hphase] <;> rfl
    cases Interleaving.step_cases hstep with
    | start hh => exact absurd (hunusable.symm.trans hadmits.1) (by simp)
    | @run i env thread hi =>
        have hthread := hall thread (List.mem_of_getElem? hi)
        obtain ⟨ret, rfl⟩ := Interleaving.Thread.isDone_iff.1 hthread
        refine ⟨fun thread' hmem => ?_, ?_⟩
        · rcases List.mem_or_eq_of_mem_set hmem with hmem | rfl
          · exact hall thread' hmem
          · rfl
        · rintro ⟨thread', hi', hcreates'⟩
          obtain rfl := Option.some.inj (hi.symm.trans hi')
          exact hcreates'
    | @call c hcall =>
        refine ⟨hall, ?_⟩
        cases c with
        | ioctl h active f nonblock command m env =>
            exact absurd (hunusable.symm.trans hadmits.1) (by simp)
        | _ => exact id
  refine ⟨hs.steady.step hattach hstep, hs.created, fun hphase => (hdone hphase).1,
    fun hphase d => ?_⟩
  have hnone : ¬ s.handlers.Creates a := by
    rcases hphase with hphase | hphase
    · exact hcreates hphase
    · exact (hdone (.inr hphase)).2
  by_contra hd
  have hreg := hs.steady.registered_step hnone hstep (Bool.eq_true_of_not_eq_false hd)
  exact absurd ((hs.bare hphase d).symm.trans hreg) (by simp)

/-- **A pass of the shutdown** leaves the handlers steady, and ends it only if it finds no
device. -/
theorem State.Sound.shutdownPass (hs : s.Sound N) (hphase : s.phase = .exiting) :
    (s.withWorld s.handlers.world.shutdownPass.1).handlers.Steady N ∧
      (s.handlers.world.shutdownPass.2 = none →
        ∀ d, (s.handlers.world.shutdownPass.1.objects d).registered = false) := by
  have hheld : s.handlers.held = 0 := by
    have hnone : s.handlers.threads.filterMap Interleaving.Thread.holds = [] := by
      refine List.filterMap_eq_nil_iff.2 fun thread hmem => ?_
      obtain ⟨ret, rfl⟩ := Interleaving.Thread.isDone_iff.1 (hs.done (.inl hphase) thread hmem)
      rfl
    rw [Interleaving.State.held, hnone]
    rfl
  have hw : s.handlers.world.Steady N :=
    ⟨hheld ▸ hs.steady.accounts, hs.steady.sound, hs.steady.catalogued, hs.steady.ported⟩
  rcases hw.shutdownPass with ⟨d, hd, hpass⟩ | ⟨hnone, hpass⟩
  · rw [hpass]
    have hw' := hw.deviceDestroy hd true
    refine ⟨⟨?_, hw'.sound, hw'.catalogued, hw'.ported, hs.steady.within, ?_⟩,
      fun h => absurd h (by simp)⟩
    · have hheld' : (s.withWorld (s.handlers.world.deviceDestroy d true).1).handlers.held = 0 :=
        hheld
      rw [hheld']
      exact hw'.accounts
    · have htruthful := World.truthful_deviceDestroy s.handlers.world d true
      exact hw'.accounts.quiet hw'.catalogued htruthful hs.steady.quiet
  · rw [hpass]
    exact ⟨hs.steady, fun _ => hnone⟩

/-- **Every step keeps the module sound** if the run is orderly. -/
theorem State.Sound.step {a : Action} (hs : s.Sound N) (hc : s.Orderly a)
    (hst : s.step N a = some s') : s'.Sound N := by
  cases a with
  | handler a =>
      obtain ⟨hadmits, hst⟩ := Option.ite_none_right_eq_some.1 hst
      obtain ⟨u, hstep, rfl⟩ := Option.map_eq_some_iff.1 hst
      exact hs.handler hc hadmits hstep
  | hcdCreate ok =>
      obtain ⟨⟨hphase, hlt⟩, hst⟩ := Option.ite_none_right_eq_some.1 hst
      cases ok with
      | true =>
          obtain rfl := Option.some.inj hst
          have hsteady := hs.steady.call (c := .setStatusChangedCallback s.hcdCreatedCount true) hlt
          have hopen : ∀ p : Phase, p = .failing ∨ p = .exiting ∨ p = .removing →
              (if s.hcdCreatedCount + 1 = N then Phase.live else .init) ≠ p := by
            rintro p (rfl | rfl | rfl) <;> split <;> decide
          refine ⟨hsteady, hlt, fun h => ?_, fun h => ?_⟩
          · rcases h with h | h
            · exact absurd h (hopen _ (.inr (.inl rfl)))
            · exact absurd h (hopen _ (.inr (.inr rfl)))
          · rcases h with h | h
            · exact absurd h (hopen _ (.inl rfl))
            · exact absurd h (hopen _ (.inr (.inr rfl)))
      | false =>
          obtain rfl := Option.some.inj hst
          refine ⟨hs.steady, hs.created, fun h => absurd h (by simp), fun _ d => ?_⟩
          by_contra hne
          have hreg := Bool.eq_true_of_not_eq_false hne
          have hborn := hs.steady.accounts.lt_next_of_registered hreg
          exact hne (hc rfl d hborn)
  | moduleExit =>
      obtain ⟨⟨hphase, hdone⟩, hst⟩ := Option.ite_none_right_eq_some.1 hst
      obtain rfl := Option.some.inj hst
      exact ⟨hs.steady, hs.created, fun _ => hdone, fun h => absurd h (by simp)⟩
  | shutdownPass =>
      obtain ⟨hphase, hst⟩ := Option.ite_none_right_eq_some.1 hst
      obtain ⟨hsteady, hnone⟩ := hs.shutdownPass hphase
      rcases hpass : s.handlers.world.shutdownPass with ⟨w, _ | result⟩
      · rw [hpass] at hst hsteady hnone
        obtain rfl := Option.some.inj hst
        exact ⟨hsteady, hs.created, fun _ => hs.done (.inl hphase), fun _ => hnone rfl⟩
      · rw [hpass] at hst hsteady
        obtain rfl := Option.some.inj hst
        refine ⟨hsteady, hs.created, fun _ => hs.done (.inl hphase), fun h => ?_⟩
        have hsame : (s.withWorld w).phase = .exiting := hphase
        rw [hsame] at h
        exact absurd h (by decide)
  | hcdDestroy =>
      obtain ⟨⟨hphase, hpos⟩, hst⟩ := Option.ite_none_right_eq_some.1 hst
      obtain rfl := Option.some.inj hst
      have hcreated := hs.created
      have hlt : s.hcdCreatedCount - 1 < N := by omega
      have hoff := hs.steady.call (c := .setStatusChangedCallback (s.hcdCreatedCount - 1) false) hlt
      have hstopped := hoff.call (c := .stop (s.hcdCreatedCount - 1)) hlt
      refine ⟨hstopped, hlt.le, hs.done, fun h d => ?_⟩
      by_contra hne
      have hreg := World.registered_call hoff.accounts.counted (c := .stop _) id
        (Bool.eq_true_of_not_eq_false hne)
      exact absurd ((hs.bare h d).symm.trans hreg) (by simp)
  | objectManagerExit =>
      obtain ⟨hphase, hst⟩ := Option.ite_none_right_eq_some.1 hst
      obtain rfl := Option.some.inj hst
      exact ⟨hs.steady, hs.created, fun h => absurd h (by simp), fun h => absurd h (by simp)⟩

/-- **No host controller is torn down under an attached device**, and no object is published
when the object manager ends, in any run in which no creation of a host controller fails
while a device is published, no device is created after that, and handlers attach published
devices only. -/
theorem teardown_clear {s₀ : State} {hist : List (State × Action)} (hi : (machine N).init s₀)
    (hr : Run (machine N) s₀ hist s) (hc : ∀ x ∈ hist, x.1.Orderly x.2) :
    ∀ x ∈ hist, x.1.FindsClear x.2 := by
  intro x hx
  have hs := hr.forall_visited (I := State.Sound N) (C := State.Orderly)
    (fun _ _ _ hs hc hst => hs.step hc hst) (sound_of_init hi) hc x.1
    (mem_visited.2 (.inl ⟨x, hx, rfl⟩))
  obtain ⟨u, -, hst⟩ := hr.next_visited hx
  rcases x with ⟨t, a⟩
  cases a with
  | hcdDestroy =>
      have hphase := (Option.ite_none_right_eq_some.1 hst).1.1
      exact hs.clear (hs.bare hphase) .hcdDestroy
  | objectManagerExit =>
      have hphase := (Option.ite_none_right_eq_some.1 hst).1.1
      exact hs.clear (hs.bare hphase) .objectManagerExit
  | _ => trivial

/-- A module is unloaded while a device is attached. -/
theorem teardown_clear_example : ∃ s hist, Run (machine 1) ⟨⟨World.oneHub, []⟩, 0, .init⟩ hist s ∧
    s.phase = .gone ∧ ∀ x ∈ hist, x.1.FindsClear x.2 := by
  obtain ⟨s, hist, hr, hc, hp⟩ := exists_run_of_exec
    (I := fun s : State => (Interleaving.machine 1).init s.handlers ∧ s.hcdCreatedCount = 0 ∧
      s.phase = .init) (s := ⟨⟨World.oneHub, []⟩, 0, .init⟩)
    (f := State.step 1) (C := State.Orderly)
    (l := [.hcdCreate true,
      .handler (.call (.ioctl 0 true 5 false ioctlDeviceCreate (.ofWords [7]) {})),
      .handler (.start 0 (.attach ⟨1, 0, 1⟩) {}), .handler (.run 0 {}), .handler (.run 0 {}),
      .handler (.run 0 {}), .moduleExit, .shutdownPass, .shutdownPass, .hcdDestroy,
      .objectManagerExit])
    (p := fun s => s.phase = .gone) (by decide)
  exact ⟨s, hist, hr, of_decide_eq_true hp,
    teardown_clear ⟨⟨World.oneHub_initialised, rfl⟩, rfl, rfl⟩ hr hc⟩

/-- **The failure path tears a host controller down under a device**: the second creation
fails while a device is attached to the first root hub, and the object manager ends while
the device is published. -/
theorem teardown_under_device : ∃ s, (machine 2).Reachable s ∧
    s.handlers.world.topo.peers (.downstream 0 0) = some (.upstream 0) ∧
    ∃ s' s'', s.step 2 .hcdDestroy = some s' ∧ s'.step 2 .objectManagerExit = some s'' ∧
      s'.handlers.world.objectTable 1 = some 0 := by
  obtain ⟨s, hs, hp⟩ := exists_reachable_of_exec
    (I := fun s : State => (Interleaving.machine 2).init s.handlers ∧ s.hcdCreatedCount = 0 ∧
      s.phase = .init) (s := ⟨⟨World.oneHub, []⟩, 0, .init⟩)
    (f := State.step 2)
    (l := [.hcdCreate true,
      .handler (.call (.ioctl 0 true 5 false ioctlDeviceCreate (.ofWords [7]) {})),
      .handler (.call (.ioctl 0 true 5 false ioctlDeviceAttach (.ofWords [1, 0, 1]) {})),
      .hcdCreate false])
    (p := fun s => s.handlers.world.topo.peers (.downstream 0 0) = some (.upstream 0) ∧
      ((s.step 2 .hcdDestroy).bind fun s' => (s'.step 2 .objectManagerExit).map fun _ =>
        s'.handlers.world.objectTable 1) = some (some 0))
    ⟨⟨World.oneHub_initialised, rfl⟩, rfl, rfl⟩ (by decide)
  obtain ⟨hpeer, hsteps⟩ := of_decide_eq_true hp
  obtain ⟨s', hdestroy, hsteps⟩ := Option.bind_eq_some_iff.1 hsteps
  obtain ⟨s'', hexit, htable⟩ := Option.map_eq_some_iff.1 hsteps
  exact ⟨s, hs, hpeer, s', s'', hdestroy, hexit, htable⟩

end Teardown

end VirtUsb
