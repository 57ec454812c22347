/-
# What the module undoes

`virtusb_module_destroy_hcds` takes the host controllers down in the reverse order of their
creation: the device file goes first, then the callback of the root hub, then the backend is
stopped.  To the objects and the data plane this is two calls for each host controller
(`closeHcds`), so the state stays steady, and no queue and no binding is left.
-/

import VirtUsb.Loading.Load
import VirtUsb.Serving.Calls

namespace VirtUsb

open Transition

namespace World

variable {N : ℕ} {w : World} {h : HcdId}

/-! ### The devices -/

/-- A lookup in the table leaves the traffic alone. -/
theorem traffic_objectLookupFirstByType (w : World) (type : ObjectType) :
    (w.objectLookupFirstByType type).1.traffic = w.traffic := by
  simp only [objectLookupFirstByType]
  split
  · rfl
  · exact traffic_of_bare (bare_objectGet w _)

/-- A pass of `virtusb_device_shutdown_all` leaves the traffic alone. -/
theorem traffic_shutdownPass (w : World) : w.shutdownPass.1.traffic = w.traffic := by
  have hlookup := w.traffic_objectLookupFirstByType .device
  rw [shutdownPass]
  rcases hs : w.objectLookupFirstByType .device with ⟨w₁, _ | d⟩
  · rwa [hs] at hlookup
  · rw [hs] at hlookup
    exact (traffic_objectPut _ d).trans ((traffic_deviceDestroy w₁ d true).trans hlookup)

/-- The shutdown of all devices leaves the data plane alone. -/
theorem traffic_deviceShutdownAll {fuel : ℕ} {w w' : World}
    (hs : deviceShutdownAll fuel w = some w') : w'.traffic = w.traffic := by
  induction fuel generalizing w with
  | zero => exact absurd hs (by simp [deviceShutdownAll])
  | succ fuel ih =>
      have hpass := traffic_shutdownPass w
      rw [deviceShutdownAll] at hs
      rcases hp : w.shutdownPass with ⟨v, _ | result⟩
      · rw [hp] at hs hpass
        exact Option.some.inj hs ▸ hpass
      · rw [hp] at hs hpass
        exact (ih hs).trans hpass

/-! ### The host controllers -/

/-- The host controllers below `k` are taken down. -/
def closeHcds : ℕ → World → World
  | 0, w => w
  | k + 1, w => closeHcds k ((w.call (.setStatusChangedCallback k false)).call (.stop k))

/-- What the end of host controllers leaves of the world. -/
structure Closed (N k : ℕ) (w w' : World) : Prop where
  steady : w'.Steady N
  stopped : ∀ h < k, w'.backends h = { stopping := true }
  others : ∀ h, k ≤ h → w'.backends h = w.backends h
  objectTable : w'.objectTable = w.objectTable
  nextDevice : w'.nextDevice = w.nextDevice
  nextTransfer : w'.nextTransfer = w.nextTransfer

/-- **The end of the host controllers**, by induction on how many there are. -/
theorem Steady.closeHcds (hw : w.Steady N) {k : ℕ} (hk : k ≤ N) : Closed N k w (closeHcds k w) := by
  induction k generalizing w with
  | zero => exact ⟨hw, fun h hh => absurd hh (Nat.not_lt_zero h), fun h _ => rfl, rfl, rfl, rfl⟩
  | succ k ih =>
      set quiet := w.call (.setStatusChangedCallback k false) with hquiet
      set stopped := quiet.call (.stop k)
      have hlt : k < N := hk
      have hquieted : quiet.Steady N := hw.call hlt
      have hstopped : stopped.Steady N := hquieted.call hlt
      have hrelists := backendStop_relists (h := k) quiet
      have hbackends : stopped.backends = Function.update w.backends k { stopping := true } :=
        hrelists.backends
      have haside := (Aside.backendStop quiet k).management
      have htable : stopped.objectTable = w.objectTable :=
        (objectTable_of_management haside :)
      have hnext : stopped.nextDevice = w.nextDevice :=
        (nextDevice_of_management haside :)
      have hrest := ih hstopped (Nat.le_of_lt hlt)
      refine ⟨hrest.steady, fun h hh => ?_, fun h hh => ?_, hrest.objectTable.trans htable,
        hrest.nextDevice.trans hnext, hrest.nextTransfer.trans hrelists.nextTransfer⟩
      · rcases Nat.lt_succ_iff_lt_or_eq.1 hh with hlow | rfl
        · exact hrest.stopped h hlow
        · have hown : closeHcds h stopped = World.closeHcds (h + 1) w := rfl
          rw [← hown, hrest.others h le_rfl, hbackends, Function.update_self]
      · have hne : h ≠ k := by omega
        have hown : closeHcds k stopped = World.closeHcds (k + 1) w := rfl
        rw [← hown, hrest.others h (by omega), hbackends, Function.update_of_ne hne]

end World

namespace Loading

open Nesting

namespace ModuleState

variable {s : ModuleState} {n k : ℕ}

/-- The end of the last host controller. -/
theorem Live.hcdDestroy (hs : Live n (k + 1) s) :
    Live n k
        ((({ s with hcdCreatedCount := k } : ModuleState).hcdDestroy (some k)).setHcdDevice k none) ∧
      (({ s with hcdCreatedCount := k } : ModuleState).hcdDestroy (some k)).world =
        (s.world.call (.setStatusChangedCallback k false)).call (.stop k) := by
  have hrun := hs.running k (Nat.lt_succ_self k)
  have heq : ({ s with hcdCreatedCount := k } : ModuleState).hcdDestroy (some k) =
      { s with
        hcdCreatedCount := k
        world := (s.world.call (.setStatusChangedCallback k false)).call (.stop k)
        trace := s.trace ++ (Resource.ofInstance k).map .give
        instances := Function.update s.instances k {} } := by
    simp [ModuleState.hcdDestroy, platformDeviceUnregister, hcdPlatformRemove, controlInstanceDestroy,
      hrun, give, setInstance, setControl, Resource.ofInstance, World.call]
  rw [heq]
  refine ⟨⟨?_, hs.class_, hs.instanceCount, ?_, rfl, fun i hi => ?_, fun i hi => ?_, hs.warned⟩,
    rfl⟩
  · have hheld : Nesting.held [] s.trace = some (Resource.loaded (k + 1)) := hs.held
    show Nesting.held [] (s.trace ++ _) = _
    rw [held_append, hheld]
    exact held_gives (Resource.ofInstance k) (Resource.loaded k)
  · simp only [setHcdDevice, hs.hcdDevices, Option.map_some, Option.some.injEq]
    funext i
    rcases eq_or_ne i k with rfl | hne
    · rw [Function.update_self, if_neg (Nat.lt_irrefl i)]
    · rw [Function.update_of_ne hne]
      have hiff : i < k + 1 ↔ i < k := by omega
      exact if_congr hiff rfl rfl
  · show Function.update s.instances k _ i = _
    rw [Function.update_of_ne (Nat.ne_of_lt hi)]
    exact hs.running i (by omega)
  · show (Function.update s.instances k _ i).Vacant
    rcases eq_or_ne i k with rfl | hne
    · rw [Function.update_self]
      exact ⟨rfl, rfl, rfl⟩
    · rw [Function.update_of_ne hne]
      exact hs.vacant i (by omega)

/-- **The loop** takes all host controllers down. -/
theorem Live.destroyHcds (hs : Live n k s) :
    Live n 0 (destroyHcds k s) ∧ (destroyHcds k s).world = World.closeHcds k s.world := by
  induction k generalizing s with
  | zero => exact ⟨hs, rfl⟩
  | succ k ih =>
      have hentry : ({ s with hcdCreatedCount := k } : ModuleState).hcdDevice k = some k := by
        simp [hcdDevice, hs.hcdDevices]
      obtain ⟨hlive, hworld⟩ := hs.hcdDestroy
      obtain ⟨hend, hclosed⟩ := ih hlive
      simp only [ModuleState.destroyHcds, hentry]
      refine ⟨hend, hclosed.trans ?_⟩
      exact congrArg (World.closeHcds k) hworld

/-- What is left of a module that is not loaded. -/
structure Unloaded (s : ModuleState) : Prop where
  held : s.held = some []
  controlBaseDevt : s.controlBaseDevt = 0
  class_ : s.controlClass = false
  instanceCount : s.controlInstanceCount = 0
  hcdDevices : s.hcdDevices = none
  created : s.hcdCreatedCount = 0
  vacant : ∀ i, (s.instances i).Vacant
  objectTable : ∀ id, s.world.objectTable id = none
  warned : s.warned = false

/-- **All that was taken is given back.** -/
theorem Live.destroyAll (hs : Live n k s)
    (htable : ∀ id, (World.closeHcds k s.world).objectTable id = none) :
    Unloaded s.destroyAll ∧
      s.destroyAll.world =
        { World.closeHcds k s.world with objectTable := fun _ => none } := by
  obtain ⟨hend, hworld⟩ := hs.destroyHcds
  rw [← hworld] at htable
  have hmodule : s.moduleDestroyHcds = ModuleState.destroyHcds k s := by
    rw [moduleDestroyHcds, hs.created]
  set e := ModuleState.destroyHcds k s
  have hheld : Nesting.held [] e.trace =
      some [.platformDriver, .controlClass, .chrdevRegion, .hcdDevices, .objectManager] := hend.held
  have hall : s.destroyAll =
      { e with
        world := { e.world with objectTable := fun _ => none }
        trace := e.trace ++ [.give .platformDriver, .give .controlClass, .give .chrdevRegion,
          .give .hcdDevices, .give .objectManager]
        controlBaseDevt := 0
        controlClass := false
        controlInstanceCount := 0
        hcdDevices := none
        warned := false } := by
    simp [ModuleState.destroyAll, hmodule, unregisterControl, freeHcdDevices, controlUnregister,
      objectManagerExit, give, hend.class_, hend.warned, htable]
  rw [hall]
  refine ⟨⟨?_, rfl, rfl, rfl, rfl, hend.created, fun i => hend.vacant i (Nat.zero_le i),
    fun id => rfl, rfl⟩, by rw [hworld]⟩
  show Nesting.held [] (e.trace ++ _) = _
  rw [held_append, hheld]
  rfl

end ModuleState

end Loading

end VirtUsb
