/-
# The handlers without their references

A handler looks a device up, which takes a reference, works on it and drops the
reference.  If it runs undisturbed on a world in which every published object is
counted, the reference leaves no trace: the handler does what its operation does
(`controlDeviceAttach_eq` and the like).
-/

import VirtUsb.Kernel.Control
import VirtUsb.ControlPlane.Operations
import VirtUsb.Module.Management

namespace VirtUsb

namespace World

/-- Every published object is counted. -/
def Counted (w : World) : Prop := ∀ id d, w.objectTable id = some d → 0 < (w.objects d).refcount

/-- The device with an id, as the handlers look for it. -/
def deviceOf (w : World) (id : ObjectId) : Except Errno DevicePtr :=
  if id = 0 then .error .EINVAL
  else
    match w.objectTable id with
    | none => .error .ENOENT
    | some d => if (w.objects d).type ≠ .device then .error .EINVAL else .ok d

variable {w : World} {h : HcdId} {d : DevicePtr} {env : Env}

/-- An id finds a device if it is in the table and its object is one of a device. -/
theorem deviceOf_ok {id : ObjectId} :
    w.deviceOf id = .ok d ↔ id ≠ 0 ∧ w.objectTable id = some d ∧ (w.objects d).type = .device := by
  rw [deviceOf]
  split
  · rename_i hid
    simp [hid]
  rename_i hid
  rcases hd' : w.objectTable id with _ | d'
  · simp
  dsimp only
  split
  · rename_i htype
    simp only [reduceCtorEq, false_iff, not_and]
    rintro - heq
    obtain rfl := Option.some.inj heq
    exact htype
  · rename_i htype
    constructor
    · intro heq
      obtain rfl := Except.ok.inj heq
      exact ⟨hid, rfl, not_not.1 htype⟩
    · rintro ⟨-, heq, -⟩
      rw [Option.some.inj heq]

/-- A device that is found by its id is alive. -/
theorem Counted.of_deviceOf (hw : w.Counted) {id : ObjectId} (hd : w.deviceOf id = .ok d) :
    0 < (w.objects d).refcount :=
  hw id d (deviceOf_ok.1 hd).2.1

/-! ### A reference that leaves no trace -/

/-- A reference taken before a change of the topology and dropped after it leaves no trace. -/
theorem objectPut_objectGet_topo (hd : 0 < (w.objects d).refcount) (t : Topology) :
    ({ w.objectGet d with topo := t } : World).objectPut d = { w with topo := t } :=
  objectPut_objectGet (w := { w with topo := t }) hd

/-- A lookup of a handler takes a reference to the device of the id. -/
theorem controlLookupDevice_eq (hw : w.Counted) (id : ObjectId) :
    w.controlLookupDevice id = match w.deviceOf id with
      | .error e => (w, .error e)
      | .ok d => (w.objectGet d, .ok d) := by
  rw [controlLookupDevice, deviceOf, objectLookup]
  by_cases hid : id = 0
  · simp [hid]
  rcases hd : w.objectTable id with _ | d
  · simp [hid]
  have htype : ((w.objectGet d).objects d).type = (w.objects d).type := by
    simp [objectGet, setObject]
  simp only [hid, if_false, htype]
  split
  · rw [objectPut_objectGet (hw id d hd)]
  · rfl

/-! ### What each handler does -/

/-- The handler of `VIRTUSB_IOCTL_DEVICE_ATTACH`, its reference left out. -/
theorem controlDeviceAttach_eq (hw : w.Counted) (request : DeviceAttach) :
    w.controlDeviceAttach h request env =
      if !env.copyFromUser then (w, .error .EFAULT)
      else if request.hubId ≠ 0 then (w, .error .ENOENT)
      else
        match w.topo.hubGetPort h request.port with
        | none => (w, .error .EINVAL)
        | some port =>
            match w.deviceOf request.objectId with
            | .error e => (w, .error e)
            | .ok d =>
                ({ w with topo := (w.topo.deviceAttach d port).1 },
                  (w.topo.deviceAttach d port).2) := by
  rw [controlDeviceAttach, controlLookupDevice_eq hw]
  split
  · rfl
  split
  · rfl
  rcases w.topo.hubGetPort h request.port with _ | port
  · rfl
  rcases hd : w.deviceOf request.objectId with e | d
  · rfl
  · exact congrArg (·, _) (objectPut_objectGet_topo (hw.of_deviceOf hd) _)

/-- The handler of `VIRTUSB_IOCTL_DEVICE_DETACH`, its reference left out. -/
theorem controlDeviceDetach_eq (hw : w.Counted) (request : DeviceObject) :
    w.controlDeviceDetach request env =
      if !env.copyFromUser then (w, .error .EFAULT)
      else
        match w.deviceOf request.objectId with
        | .error e => (w, .error e)
        | .ok d => ({ w with topo := w.topo.deviceDetach d }, .ok ()) := by
  rw [controlDeviceDetach, controlLookupDevice_eq hw]
  split
  · rfl
  rcases hd : w.deviceOf request.objectId with e | d
  · rfl
  · exact congrArg (·, _) (objectPut_objectGet_topo (hw.of_deviceOf hd) _)

/-- The handler of `VIRTUSB_IOCTL_DEVICE_CONNECTION`, its reference left out. -/
theorem controlDeviceConnection_eq (hw : w.Counted) (request : DeviceConnection) :
    w.controlDeviceConnection request env =
      if !env.copyFromUser then (w, .error .EFAULT)
      else if request.enabled > 1 then (w, .error .EINVAL)
      else
        match w.deviceOf request.objectId with
        | .error e => (w, .error e)
        | .ok d =>
            let signaling := w.topo.deviceSetConnectionSignaling d (request.enabled ≠ 0)
            ({ w with topo := signaling.1 }, signaling.2) := by
  rw [controlDeviceConnection, controlLookupDevice_eq hw]
  split
  · rfl
  split
  · rfl
  rcases hd : w.deviceOf request.objectId with e | d
  · rfl
  · exact congrArg (·, _) (objectPut_objectGet_topo (hw.of_deviceOf hd) _)

/-- What an unregistration does under the manager lock does not depend on counts. -/
theorem objectUnregisterLocked_objectGet (w : World) (d : DevicePtr) :
    (w.objectGet d).objectUnregisterLocked d =
        ((w.objectUnregisterLocked d).1.objectGet d, (w.objectUnregisterLocked d).2) ∧
      ((w.objectUnregisterLocked d).1.objects d).refcount = (w.objects d).refcount := by
  have hself : (w.objectGet d).objects d =
      { w.objects d with refcount := (w.objects d).refcount + 1 } := by simp [objectGet, setObject]
  have htable : (w.objectGet d).objectTable = w.objectTable := rfl
  simp only [objectUnregisterLocked, hself, htable]
  split
  · exact ⟨rfl, rfl⟩
  split
  · exact ⟨rfl, rfl⟩
  · simp [objectGet, setObject]

/-- An unregistration by a function that holds a reference, which it drops afterwards. -/
theorem objectUnregister_objectGet (hd : 0 < (w.objects d).refcount) :
    (((w.objectGet d).objectUnregister d).1.objectPut d, ((w.objectGet d).objectUnregister d).2) =
      w.objectUnregister d := by
  obtain ⟨hlocked, hcount⟩ := objectUnregisterLocked_objectGet w d
  have hcounted : 0 < ((w.objectUnregisterLocked d).1.objects d).refcount := hcount.symm ▸ hd
  rw [objectUnregister, objectUnregister, hlocked]
  rcases hs : w.objectUnregisterLocked d with ⟨w', e | _⟩
  · rw [hs] at hcounted
    exact congrArg (·, _) (objectPut_objectGet hcounted)
  · rw [hs] at hcounted
    exact congrArg (fun v : World => (v.objectPut d, _)) (objectPut_objectGet hcounted)

/-- A reference held over a destruction delays the release, and changes nothing else. -/
theorem deviceDestroy_objectGet (hd : 0 < (w.objects d).refcount) (force : Bool) :
    (((w.objectGet d).deviceDestroy d force).1.objectPut d,
      ((w.objectGet d).deviceDestroy d force).2) = w.deviceDestroy d force := by
  have htopo : (w.objectGet d).topo = w.topo := rfl
  rw [deviceDestroy, deviceDestroy, htopo]
  split
  · split
    · rw [objectPut_objectGet hd]
    rcases w.topo.deviceSetConnectionSignaling d false with ⟨t, e | _⟩
    · exact congrArg (·, _) (objectPut_objectGet_topo hd t)
    · exact objectUnregister_objectGet (w := { w with topo := t.deviceDetach d }) hd
  · exact objectUnregister_objectGet hd

/-- The handler of `VIRTUSB_IOCTL_DEVICE_DESTROY`, its reference left out. -/
theorem controlDeviceDestroy_eq (hw : w.Counted) (request : DeviceDestroy) :
    w.controlDeviceDestroy request env =
      if !env.copyFromUser then (w, .error .EFAULT)
      else if request.objectId = 0 ∨ request.flags &&& ~~~deviceDestroyFlags ≠ 0 then
        (w, .error .EINVAL)
      else
        match w.deviceOf request.objectId with
        | .error e => (w, .error e)
        | .ok d => w.deviceDestroy d (request.flags &&& deviceDestroyForce ≠ 0) := by
  rw [controlDeviceDestroy]
  split
  · rfl
  split
  · rfl
  rename_i hbad
  have hid : request.objectId ≠ 0 := fun hid => hbad (.inl hid)
  simp only [objectLookup, deviceOf, hid, if_false]
  rcases hd : w.objectTable request.objectId with _ | d
  · rfl
  have htype : ((w.objectGet d).objects d).type = (w.objects d).type := by
    simp [objectGet, setObject]
  simp only [htype]
  split
  · rw [objectPut_objectGet (hw _ d hd)]
  · exact deviceDestroy_objectGet (hw _ d hd) _

/-- What a registration does under the lock of the backend does not depend on counts. -/
theorem registerLocked_objectGet (w : World) (h : HcdId) (f : FilePtr) (d : DevicePtr) :
    (w.objectGet d).registerLocked h f d =
        ((w.registerLocked h f d).1.objectGet d, (w.registerLocked h f d).2) ∧
      (w.registerLocked h f d).1.objects = w.objects := by
  have hbackends : (w.objectGet d).backends = w.backends := rfl
  simp only [registerLocked, hbackends]
  split
  · exact ⟨rfl, rfl⟩
  split <;> exact ⟨rfl, rfl⟩

/-- A registration by a function that holds a reference, which it drops afterwards. -/
theorem backendRegister_objectGet (hd : 0 < (w.objects d).refcount) (f : FilePtr) :
    (((w.objectGet d).backendRegister h f d env).1.objectPut d,
      ((w.objectGet d).backendRegister h f d env).2) = w.backendRegister h f d env := by
  rw [backendRegister, backendRegister, registerPrepare, registerPrepare]
  rcases env.bindingAlloc
  · exact congrArg (·, _) (objectPut_objectGet hd)
  have hgot : 0 < ((w.objectGet d).objects d).refcount := by simp [objectGet, setObject]
  obtain ⟨hlocked, hobjects⟩ := registerLocked_objectGet (w.objectGet d) h f d
  have hcounted : 0 < (((w.objectGet d).registerLocked h f d).1.objects d).refcount := by
    rwa [hobjects]
  simp only [Bool.not_true, Bool.false_eq_true, if_false, hlocked]
  rcases hs : (w.objectGet d).registerLocked h f d with ⟨w', e | _⟩
  · rw [hs] at hcounted
    exact congrArg (fun v : World => (v.objectPut d, _)) (objectPut_objectGet hcounted)
  · rw [hs] at hcounted
    exact congrArg (·, _) (objectPut_objectGet hcounted)

/-- The handler of `VIRTUSB_IOCTL_BACKEND_REGISTER`, its reference left out. -/
theorem controlBackendRegister_eq (hw : w.Counted) (f : FilePtr) (request : BackendRegister) :
    w.controlBackendRegister h f request env =
      if !env.copyFromUser then (w, .error .EFAULT)
      else
        match w.deviceOf request.objectId with
        | .error e => (w, .error e)
        | .ok d =>
            if !w.attachedTo h d then (w, .error .ENODEV) else w.backendRegister h f d env := by
  rw [controlBackendRegister, controlLookupDevice_eq hw]
  split
  · rfl
  rcases hd : w.deviceOf request.objectId with e | d
  · rfl
  have hcounted := hw.of_deviceOf hd
  have hattached : (w.objectGet d).attachedTo h d = w.attachedTo h d := rfl
  simp only [hattached]
  split
  · rw [objectPut_objectGet hcounted]
  · exact backendRegister_objectGet hcounted f

/-! ### What the handlers leave -/

/-- DEVICE_ATTACH changes the topology, and nothing else. -/
theorem controlDeviceAttach_topo (hw : w.Counted) (h : HcdId) (request : DeviceAttach) (env : Env) :
    ∃ t, (w.controlDeviceAttach h request env).1 = { w with topo := t } := by
  rw [controlDeviceAttach_eq hw]
  split
  · exact ⟨w.topo, rfl⟩
  split
  · exact ⟨w.topo, rfl⟩
  rcases w.topo.hubGetPort h request.port with _ | port
  · exact ⟨w.topo, rfl⟩
  rcases w.deviceOf request.objectId with e | d
  · exact ⟨w.topo, rfl⟩
  · exact ⟨_, rfl⟩

/-- DEVICE_DETACH changes the topology, and nothing else. -/
theorem controlDeviceDetach_topo (hw : w.Counted) (request : DeviceObject) (env : Env) :
    ∃ t, (w.controlDeviceDetach request env).1 = { w with topo := t } := by
  rw [controlDeviceDetach_eq hw]
  split
  · exact ⟨w.topo, rfl⟩
  rcases w.deviceOf request.objectId with e | d
  · exact ⟨w.topo, rfl⟩
  · exact ⟨_, rfl⟩

/-- DEVICE_CONNECTION changes the topology, and nothing else. -/
theorem controlDeviceConnection_topo (hw : w.Counted) (request : DeviceConnection) (env : Env) :
    ∃ t, (w.controlDeviceConnection request env).1 = { w with topo := t } := by
  rw [controlDeviceConnection_eq hw]
  split
  · exact ⟨w.topo, rfl⟩
  split
  · exact ⟨w.topo, rfl⟩
  rcases w.deviceOf request.objectId with e | d
  · exact ⟨w.topo, rfl⟩
  · exact ⟨_, rfl⟩

/-- SET_PORT_POWER changes the topology, and nothing else. -/
theorem controlSetPortPower_topo (w : World) (h : HcdId) (request : PortPower) (env : Env) :
    ∃ t, (w.controlSetPortPower h request env).1 = { w with topo := t } := by
  rw [controlSetPortPower]
  split
  · exact ⟨w.topo, rfl⟩
  split
  · exact ⟨w.topo, rfl⟩
  split
  · exact ⟨w.topo, rfl⟩
  · exact ⟨_, rfl⟩

section Rules

variable {P : World → Prop} {f : FilePtr}

/-- DEVICE_CREATE does nothing, or creates a device, and destroys it again if its id cannot be
copied out. -/
theorem controlDeviceCreate_rule (request : DeviceCreate) (hnone : P w)
    (hfail : ∀ speed w₁ e, w.deviceCreate speed env = (w₁, .error e) → P w₁)
    (hundo : ∀ speed w₁ d, w.deviceCreate speed env = (w₁, .ok d) →
      P ((w₁.deviceDestroy d true).1.objectPut d))
    (hput : ∀ speed w₁ d, w.deviceCreate speed env = (w₁, .ok d) → P (w₁.objectPut d)) :
    P (w.controlDeviceCreate request env).1 := by
  rw [controlDeviceCreate]
  split
  · exact hnone
  split
  · exact hnone
  rcases hs : w.deviceCreate (request.speedCaps.setWidth 8) env with ⟨w₁, e | d⟩
  · exact hfail _ w₁ e hs
  dsimp only
  split
  · exact hundo _ w₁ d hs
  · exact hput _ w₁ d hs

/-- DEVICE_DESTROY does nothing, or destroys a device. -/
theorem controlDeviceDestroy_rule (hw : w.Counted) (request : DeviceDestroy) (hnone : P w)
    (hdestroy : ∀ d force, P (w.deviceDestroy d force).1) :
    P (w.controlDeviceDestroy request env).1 := by
  rw [controlDeviceDestroy_eq hw]
  split
  · exact hnone
  split
  · exact hnone
  rcases w.deviceOf request.objectId with e | d
  · exact hnone
  · exact hdestroy d _

/-- BACKEND_REGISTER does nothing, or registers the file for the device that it names. -/
theorem controlBackendRegister_rule (hw : w.Counted) (request : BackendRegister) (hnone : P w)
    (hregister : ∀ d, w.deviceOf request.objectId = .ok d → P (w.backendRegister h f d env).1) :
    P (w.controlBackendRegister h f request env).1 := by
  rw [controlBackendRegister_eq hw]
  split
  · exact hnone
  rcases hd : w.deviceOf request.objectId with e | d
  · exact hnone
  dsimp only
  split
  · exact hnone
  · exact hregister d hd

/-- TRANSFER_FETCH does nothing, or fetches, and takes back what it cannot copy out. -/
theorem controlTransferFetch_rule {nonblock : Bool} (hnone : P w)
    (hfetch : P (w.backendFetch h f nonblock).1)
    (hrollback : ∀ id, P ((w.backendFetch h f nonblock).1.backendFetchRollback h f id).1) :
    P (w.controlTransferFetch h f nonblock env).1 := by
  rw [controlTransferFetch]
  split
  · exact hnone
  rcases hs : w.backendFetch h f nonblock with ⟨w₁, e | message⟩
  · rwa [hs] at hfetch
  · rw [hs] at hfetch hrollback
    dsimp only
    split
    · exact hrollback message.transferId
    · exact hfetch

/-- TRANSFER_COMPLETE does nothing, or completes. -/
theorem controlTransferComplete_rule (completion : TransferCompleteRequest) (hnone : P w)
    (hcomplete : P (w.backendComplete h f completion).1) :
    P (w.controlTransferComplete h f completion env).1 := by
  rw [controlTransferComplete]
  split
  · exact hnone
  split
  · exact hnone
  · exact hcomplete

/-- **What an ioctl does between two calls**: the handlers of the wiring change the topology, and
the others call the functions of the devices and of the backend. -/
theorem controlIoctl_rule {active nonblock : Bool} {command : BitVec 32} {m : UserMemory}
    (hw : w.Counted) (htopo : ∀ t, P { w with topo := t })
    (hcreate : active = true → command = ioctlDeviceCreate →
      P (w.controlDeviceCreate ⟨m.word 0⟩ env).1)
    (hdestroy : ∀ d force, P (w.deviceDestroy d force).1)
    (hregister : ∀ id d, w.deviceOf id = .ok d → P (w.backendRegister h f d env).1)
    (hrelease : P (w.backendReleaseOwner h f)) (hfetch : P (w.backendFetch h f nonblock).1)
    (hrollback : ∀ id, P ((w.backendFetch h f nonblock).1.backendFetchRollback h f id).1)
    (hcomplete : ∀ completion, P (w.backendComplete h f completion).1) :
    P (w.controlIoctl h active f nonblock command m env).1 := by
  have hnone : P w := htopo w.topo
  have hrewired : ∀ {w' : World}, (∃ t, w' = { w with topo := t }) → P w' := by
    rintro _ ⟨t, rfl⟩
    exact htopo t
  exact controlIoctl_cases hnone hcreate
    (fun request => controlDeviceDestroy_rule hw request hnone hdestroy)
    (fun request => hrewired (controlDeviceAttach_topo hw h request env))
    (fun request => hrewired (controlDeviceDetach_topo hw request env))
    (fun request => hrewired (controlDeviceConnection_topo hw request env))
    (fun request => hrewired (controlSetPortPower_topo w h request env))
    (fun request => controlBackendRegister_rule hw request hnone (hregister _)) hrelease
    (controlTransferFetch_rule hnone hfetch hrollback)
    (fun completion => controlTransferComplete_rule completion hnone (hcomplete completion))

end Rules

end World

end VirtUsb
