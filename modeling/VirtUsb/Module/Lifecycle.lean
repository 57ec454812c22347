/-
# Creation and destruction of a device

What `virtusb_device_create` and `virtusb_device_destroy` leave behind, for each way
they can end.
-/

import VirtUsb.ControlPlane.Operations
import VirtUsb.ControlPlane.Peers

namespace VirtUsb

namespace World

variable {w w' : World} {d : DevicePtr} {speed : Byte} {env : Env} {port : Port}

/-- The world in which the new device has the upstream port `port`. -/
def plugged (w : World) (port : Port) : Topology := w.topo.setPort (.upstream w.nextDevice) port

/-- The world after a new device was published. -/
def published (w : World) (port : Port) : World :=
  { w with
    topo := w.plugged port
    objects := Function.update w.objects w.nextDevice
      { id := w.nextObjectId, type := .device, refcount := 2, registered := true }
    nextDevice := w.nextDevice + 1
    objectTable := Function.update w.objectTable w.nextObjectId (some w.nextDevice)
    nextObjectId := w.nextObjectId + 1 }

/-- The world after a new device was released because it could not be published. -/
def abandoned (w : World) (port : Port) : World :=
  { w with
    topo := w.plugged port
    objects := Function.update w.objects w.nextDevice { refcount := 0 }
    nextDevice := w.nextDevice + 1
    released := w.released ++ [⟨w.nextDevice, port.peer.isSome⟩] }

/-- **A creation** publishes a new device under the next id, or leaves none. -/
theorem deviceCreate_eq (hport : portInit .upstream speed (.device w.nextDevice) = .ok port) :
    w.deviceCreate speed env =
      if !env.deviceAlloc then (w, .error .ENOMEM)
      else if w.nextObjectId > u32Max then (w.abandoned port, .error .ENOSPC)
      else
        match env.xaInsert with
        | .error e => (w.abandoned port, .error e)
        | .ok () => (w.published port, .ok w.nextDevice) := by
  rw [deviceCreate]
  split
  · rfl
  simp only [hport]
  set initialised : World :=
    { w.objectAlloc with topo := w.objectAlloc.topo.setPort (.upstream w.nextDevice) port }
  have hself : initialised.objects w.nextDevice = { refcount := 1 } := Function.update_self _ _ _
  have hnext : initialised.nextObjectId = w.nextObjectId := rfl
  have hpeer : (initialised.topo.upstream w.nextDevice).peer = port.peer := by
    simp [initialised, Topology.setPort]
  have hput : initialised.objectPut w.nextDevice = w.abandoned port := by
    simp only [objectPut, hself, deviceRelease, abandoned, plugged]
    simp [initialised, setObject, objectAlloc, Topology.setPort]
  have hcount : 0 < (initialised.objects w.nextDevice).refcount := hself ▸ Nat.one_pos
  have hregister : initialised.objectRegister w.nextDevice .device env.xaInsert =
      if w.nextObjectId > u32Max then (initialised, .error .ENOSPC)
      else
        match env.xaInsert with
        | .error e => (initialised, .error e)
        | .ok () => (w.published port, .ok ()) := by
    simp only [objectRegister, hself, hnext, Bool.false_eq_true, if_false, reduceCtorEq,
      objectPut_objectGet hcount]
    split
    · rfl
    rcases env.xaInsert with e | _
    · rfl
    · simp [initialised, published, plugged, objectGet, setObject, objectAlloc]
  rw [hregister]
  by_cases hfull : w.nextObjectId > u32Max
  · simp only [hfull, if_true, hput]
  simp only [hfull, if_false]
  rcases env.xaInsert with e | _
  · simp only [hput]
  · rfl

/-- A creation that succeeds publishes a device with a port of its own. -/
theorem deviceCreate_ok (hs : w.deviceCreate speed env = (w', .ok d)) :
    d = w.nextDevice ∧ ∃ port, portInit .upstream speed (.device w.nextDevice) = .ok port ∧
      w' = w.published port ∧ env.deviceAlloc = true ∧ w.nextObjectId ≤ u32Max ∧
      env.xaInsert = .ok () := by
  rcases hport : portInit .upstream speed (.device w.nextDevice) with e | port
  · simp only [deviceCreate, hport] at hs
    split at hs <;> simp at hs
  rw [deviceCreate_eq hport] at hs
  split at hs
  · simp at hs
  rename_i halloc
  split at hs
  · simp at hs
  rename_i hfull
  rcases hx : env.xaInsert with e | _
  · simp [hx] at hs
  · rw [hx] at hs
    obtain ⟨rfl, hd⟩ := Prod.mk.inj hs
    exact ⟨(Except.ok.inj hd).symm, port, rfl, rfl, by simpa using halloc, Nat.le_of_not_lt hfull,
      rfl⟩

/-- A device whose port could not be initialised is released at once. -/
theorem deviceCreate_invalid {e : Errno}
    (hport : portInit .upstream speed (.device w.nextDevice) = .error e) :
    w.deviceCreate speed env =
      if !env.deviceAlloc then (w, .error .ENOMEM)
      else
        ({ w with
            objects := Function.update w.objects w.nextDevice { refcount := 0 }
            nextDevice := w.nextDevice + 1
            released := w.released ++ [⟨w.nextDevice, (w.topo.upstream w.nextDevice).peer.isSome⟩] },
          .error e) := by
  rw [deviceCreate]
  split
  · rfl
  simp only [hport]
  simp [objectPut, objectAlloc, setObject, deviceRelease]

/-- The upstream port of a new device is valid exactly if its speeds are. -/
theorem portInit_upstream (hs : portSpeedIsValid speed = true) (d : DevicePtr) :
    portInit .upstream speed (.device d) =
      .ok { role := .upstream, owner := some (.device d), speed := speed } := by
  simp [portInit, hs]

/-- A new upstream port is attached to nothing. -/
theorem peer_of_portInit (hport : portInit .upstream speed (.device d) = .ok port) :
    port.role = .upstream ∧ port.owner = some (.device d) ∧ port.peer = none ∧
      port.upstream = {} := by
  rw [portInit] at hport
  split at hport
  · simp at hport
  split at hport
  · simp at hport
  · obtain rfl := Except.ok.inj hport
    exact ⟨rfl, rfl, rfl, rfl⟩

/-! ### Destruction -/

/-- **The destruction of a published device that is allowed** unplugs it and takes it
out of the object table. -/
theorem deviceDestroy_eq (ht : w.topo.Wired) (hd : (w.objects d).registered = true)
    (hid : (w.objects d).id ≠ 0) (htable : w.objectTable (w.objects d).id = some d) (force : Bool) :
    w.deviceDestroy d force =
      if (w.topo.upstream d).peer.isSome ∧ force = false then (w, .error .EBUSY)
      else
        (({ w with
            topo := if (w.topo.upstream d).peer.isSome then
              ((w.topo.deviceSetConnectionSignaling d false).1).deviceDetach d else w.topo
            objects := Function.update w.objects d { w.objects d with registered := false }
            objectTable := Function.update w.objectTable (w.objects d).id none } :
              World).objectPut d, .ok ()) := by
  have hunregister : ∀ t, ({ w with topo := t } : World).objectUnregister d =
      (({ w with
          topo := t
          objects := Function.update w.objects d { w.objects d with registered := false }
          objectTable := Function.update w.objectTable (w.objects d).id none } :
            World).objectPut d, .ok ()) := by
    intro t
    simp [objectUnregister, objectUnregisterLocked, hd, hid, htable, setObject]
  rw [deviceDestroy]
  by_cases hpeer : (w.topo.upstream d).peer.isSome = true
  · rcases force with _ | _
    · simp [hpeer]
    · have hrole : (w.topo.upstream d).role = .upstream := by
        obtain ⟨q, hq⟩ := Option.isSome_iff_exists.1 hpeer
        exact (ht.upstream_peer hq).choose_spec.choose_spec.2.2.1
      have hsignal := Topology.deviceSetConnectionSignaling_ok hrole false
      rcases hs : w.topo.deviceSetConnectionSignaling d false with ⟨t, e | _⟩
      · rw [hs] at hsignal
        exact absurd hsignal (by simp)
      · simp only [hpeer, if_true, Bool.not_true, Bool.false_eq_true, if_false, and_false,
          reduceCtorEq]
        exact hunregister (t.deviceDetach d)
  · simp only [hpeer]
    exact hunregister w.topo

end World

end VirtUsb
