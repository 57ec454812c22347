/-
# The control plane does not see the data plane

What the control plane manages is changed by its own calls only, and its calls do the same
in all worlds that are managed alike (`ManagedAlike`), whatever is queued, lent or counted there.
So the calls of the data plane are hidden from it: they never change what
an object, a port or a hub is, or what a request about one of them returns
(`control_plane_undisturbed`).
-/

import VirtUsb.Lib.Unwinding
import VirtUsb.Serving.Alike

namespace VirtUsb

open Transition World

/-- The control plane manages the same in both worlds. -/
def ManagedAlike (v v' : World) : Prop := v.management = v'.management

namespace ManagedAlike

variable {v v' : World} {h : HcdId} {env : Env}

/-- The topology is the same. -/
theorem topo (hv : ManagedAlike v v') : v.topo = v'.topo := topo_of_management hv

/-- The objects are the same, but for their counts. -/
theorem object (hv : ManagedAlike v v') (d : DevicePtr) :
    (v.objects d).id = (v'.objects d).id ∧ (v.objects d).type = (v'.objects d).type ∧
      (v.objects d).registered = (v'.objects d).registered :=
  object_of_management hv d

/-- The table is the same. -/
theorem objectTable (hv : ManagedAlike v v') : v.objectTable = v'.objectTable :=
  objectTable_of_management hv

/-- What works aside leaves worlds managed alike. -/
theorem aside {w w' : World} (hv : ManagedAlike v v') (ha : Aside v w) (ha' : Aside v' w') :
    ManagedAlike w w' :=
  ha.management.trans (hv.trans ha'.management.symm)

/-- What worlds that are managed alike have in common. -/
theorem of_fields (htopo : v.topo = v'.topo)
    (hobject : ∀ d, (v.objects d).id = (v'.objects d).id ∧ (v.objects d).type = (v'.objects d).type ∧
      (v.objects d).registered = (v'.objects d).registered)
    (hdevice : v.nextDevice = v'.nextDevice) (htable : v.objectTable = v'.objectTable)
    (hid : v.nextObjectId = v'.nextObjectId) : ManagedAlike v v' := by
  have hobjects : (fun d => { v.objects d with refcount := 0 }) =
      fun d => ({ v'.objects d with refcount := 0 } : Object) := by
    funext d
    obtain ⟨hid, htype, hregistered⟩ := hobject d
    simp only [hid, htype, hregistered]
  rw [ManagedAlike, management, management, htopo, hobjects, hdevice, htable, hid]

/-- The next id is the same. -/
theorem nextObjectId (hv : ManagedAlike v v') : v.nextObjectId = v'.nextObjectId :=
  nextObjectId_of_management hv

/-- The number of device records is the same. -/
theorem nextDevice (hv : ManagedAlike v v') : v.nextDevice = v'.nextDevice :=
  nextDevice_of_management hv

/-- The same new topology on both sides. -/
theorem withTopo (hv : ManagedAlike v v') (t : Topology) :
    ManagedAlike { v with topo := t } { v' with topo := t } :=
  .of_fields rfl hv.object hv.nextDevice hv.objectTable hv.nextObjectId

/-- `virtusb_object_get`. -/
theorem objectGet (hv : ManagedAlike v v') (d : DevicePtr) :
    ManagedAlike (v.objectGet d) (v'.objectGet d) :=
  hv.aside (.objectGet v d) (.objectGet v' d)

/-- `virtusb_object_put`, which may release the object on one side only. -/
theorem objectPut (hv : ManagedAlike v v') (d : DevicePtr) :
    ManagedAlike (v.objectPut d) (v'.objectPut d) :=
  hv.aside (.objectPut v d) (.objectPut v' d)

/-- Objects that say the same about themselves take the place of others. -/
theorem setObject (hv : ManagedAlike v v') (d : DevicePtr) {o o' : Object}
    (ho : o.id = o'.id ∧ o.type = o'.type ∧ o.registered = o'.registered) (d' : DevicePtr) :
    ((v.setObject d o).objects d').id = ((v'.setObject d o').objects d').id ∧
      ((v.setObject d o).objects d').type = ((v'.setObject d o').objects d').type ∧
      ((v.setObject d o).objects d').registered = ((v'.setObject d o').objects d').registered := by
  rcases eq_or_ne d' d with rfl | hne
  · simpa [World.setObject] using ho
  · simpa [World.setObject, hne] using hv.object d'

/-! ### Objects and devices -/

/-- `virtusb_object_register`. -/
theorem objectRegister (hv : ManagedAlike v v') (d : DevicePtr) (type : ObjectType)
    (xaInsert : Except Errno Unit) :
    Agree ManagedAlike (v.objectRegister d type xaInsert) (v'.objectRegister d type xaInsert) := by
  have hnext := nextObjectId_of_management hv
  have hheld := hv.objectGet d
  simp only [World.objectRegister, (hv.object d).2.2, hnext]
  refine .ite (fun _ => .mk _ hv) fun _ => .ite (fun _ => .mk _ hv) fun _ =>
    .ite (fun _ => .mk _ hv) fun _ => ?_
  cases xaInsert with
  | error e => exact .mk _ (hheld.objectPut d)
  | ok _ =>
      refine .mk _ (.of_fields hv.topo (hheld.setObject d ⟨rfl, rfl, rfl⟩) hv.nextDevice ?_ ?_)
      · exact congrArg (Function.update · _ _) hv.objectTable
      · exact congrArg (· + 1) hv.nextObjectId

/-- `virtusb_object_unregister`. -/
theorem objectUnregister (hv : ManagedAlike v v') (d : DevicePtr) :
    Agree ManagedAlike (v.objectUnregister d) (v'.objectUnregister d) := by
  obtain ⟨hid, htype, hregistered⟩ := hv.object d
  have hlocked : Agree ManagedAlike (v.objectUnregisterLocked d) (v'.objectUnregisterLocked d) := by
    simp only [World.objectUnregisterLocked, hid, hregistered, hv.objectTable]
    refine .ite (fun _ => .mk _ hv) fun _ => .ite (fun _ => .mk _ hv) fun _ => .mk _ ?_
    exact .of_fields hv.topo (hv.setObject d ⟨rfl, htype, rfl⟩) hv.nextDevice rfl hv.nextObjectId
  rw [World.objectUnregister, World.objectUnregister]
  generalize v.objectUnregisterLocked d = x at hlocked ⊢
  generalize v'.objectUnregisterLocked d = x' at hlocked ⊢
  obtain ⟨e | _, hv⟩ := hlocked
  · exact .mk _ hv
  · exact .mk _ (hv.objectPut d)

/-- `virtusb_device_create`. -/
theorem deviceCreate (hv : ManagedAlike v v') (speed : Byte) (env : Env) :
    Agree ManagedAlike (v.deviceCreate speed env) (v'.deviceCreate speed env) := by
  have hallocated : ManagedAlike v.objectAlloc v'.objectAlloc := by
    refine .of_fields hv.topo ?_ (congrArg (· + 1) hv.nextDevice) hv.objectTable hv.nextObjectId
    rw [objectAlloc, objectAlloc, hv.nextDevice]
    exact hv.setObject v'.nextDevice ⟨rfl, rfl, rfl⟩
  rw [World.deviceCreate, World.deviceCreate]
  refine .ite (fun _ => .mk _ hv) fun _ => ?_
  dsimp only
  rw [hv.nextDevice, hallocated.topo]
  cases portInit .upstream speed (.device v'.nextDevice) with
  | error e => exact .mk _ (hallocated.objectPut _)
  | ok port =>
      obtain ⟨w, w', e | _, hw, hx, hx'⟩ := ((hallocated.withTopo
        (v'.objectAlloc.topo.setPort (.upstream v'.nextDevice) port)).objectRegister
          v'.nextDevice .device env.xaInsert).results
      · simp only [hx, hx']
        exact .mk _ (hw.objectPut _)
      · simp only [hx, hx']
        exact .mk _ hw

/-- `virtusb_device_destroy`. -/
theorem deviceDestroy (hv : ManagedAlike v v') (d : DevicePtr) (force : Bool) :
    Agree ManagedAlike (v.deviceDestroy d force) (v'.deviceDestroy d force) := by
  rw [World.deviceDestroy, World.deviceDestroy, hv.topo]
  refine .ite (fun _ => .ite (fun _ => .mk _ hv) fun _ => ?_) fun _ => hv.objectUnregister d
  rcases v'.topo.deviceSetConnectionSignaling d false with ⟨t, e | _⟩
  · exact .mk _ (hv.withTopo t)
  · exact (hv.withTopo (t.deviceDetach d)).objectUnregister d

/-- An id finds the same device. -/
theorem deviceOf (hv : ManagedAlike v v') (id : ObjectId) : v.deviceOf id = v'.deviceOf id := by
  rw [World.deviceOf, World.deviceOf, hv.objectTable]
  split
  · rfl
  rcases v'.objectTable id with _ | d
  · rfl
  · simp only [(hv.object d).2.1]

/-! ### The handlers -/

/-- The handler of `VIRTUSB_IOCTL_GET_PORT_STATUS`. -/
theorem controlGetPortStatus (hv : ManagedAlike v v') (h : HcdId) (request : PortStatus)
    (env : Env) : v.controlGetPortStatus h request env = v'.controlGetPortStatus h request env := by
  simp only [World.controlGetPortStatus, hv.topo]

/-- The handler of `VIRTUSB_IOCTL_DEVICE_CREATE`. -/
theorem controlDeviceCreate (hv : ManagedAlike v v') (request : DeviceCreate) (env : Env) :
    Agree ManagedAlike (v.controlDeviceCreate request env) (v'.controlDeviceCreate request env) := by
  rw [World.controlDeviceCreate, World.controlDeviceCreate]
  refine .ite (fun _ => .mk _ hv) fun _ => .ite (fun _ => .mk _ hv) fun _ => ?_
  obtain ⟨w, w', e | d, hw, hx, hx'⟩ := (hv.deviceCreate (request.speedCaps.setWidth 8) env).results
  · rw [hx, hx']
    exact .mk _ hw
  rw [hx, hx']
  refine .ite (fun _ => .mk _ ((hw.deviceDestroy d true).fst.objectPut d)) fun _ => ?_
  rw [(hw.object d).1]
  exact .mk _ (hw.objectPut d)

section Counted

variable (hc : v.Counted) (hc' : v'.Counted) (hv : ManagedAlike v v')
include hc hc' hv

/-- The handler of `VIRTUSB_IOCTL_DEVICE_DESTROY`. -/
theorem controlDeviceDestroy (request : DeviceDestroy) :
    Agree ManagedAlike (v.controlDeviceDestroy request env)
      (v'.controlDeviceDestroy request env) := by
  rw [controlDeviceDestroy_eq hc, controlDeviceDestroy_eq hc', hv.deviceOf]
  refine .ite (fun _ => .mk _ hv) fun _ => .ite (fun _ => .mk _ hv) fun _ => ?_
  rcases v'.deviceOf request.objectId with e | d
  · exact .mk _ hv
  · exact hv.deviceDestroy d _

/-- The handler of `VIRTUSB_IOCTL_DEVICE_ATTACH`. -/
theorem controlDeviceAttach (request : DeviceAttach) :
    Agree ManagedAlike (v.controlDeviceAttach h request env)
      (v'.controlDeviceAttach h request env) := by
  rw [controlDeviceAttach_eq hc, controlDeviceAttach_eq hc', hv.topo, hv.deviceOf]
  refine .ite (fun _ => .mk _ hv) fun _ => .ite (fun _ => .mk _ hv) fun _ => ?_
  rcases v'.topo.hubGetPort h request.port with _ | port
  · exact .mk _ hv
  rcases v'.deviceOf request.objectId with e | d
  · exact .mk _ hv
  · exact .mk _ (hv.withTopo _)

/-- The handler of `VIRTUSB_IOCTL_DEVICE_DETACH`. -/
theorem controlDeviceDetach (request : DeviceObject) :
    Agree ManagedAlike (v.controlDeviceDetach request env)
      (v'.controlDeviceDetach request env) := by
  rw [controlDeviceDetach_eq hc, controlDeviceDetach_eq hc', hv.topo, hv.deviceOf]
  refine .ite (fun _ => .mk _ hv) fun _ => ?_
  rcases v'.deviceOf request.objectId with e | d
  · exact .mk _ hv
  · exact .mk _ (hv.withTopo _)

/-- The handler of `VIRTUSB_IOCTL_DEVICE_CONNECTION`. -/
theorem controlDeviceConnection (request : DeviceConnection) :
    Agree ManagedAlike (v.controlDeviceConnection request env)
      (v'.controlDeviceConnection request env) := by
  rw [controlDeviceConnection_eq hc, controlDeviceConnection_eq hc', hv.topo, hv.deviceOf]
  refine .ite (fun _ => .mk _ hv) fun _ => .ite (fun _ => .mk _ hv) fun _ => ?_
  rcases v'.deviceOf request.objectId with e | d
  · exact .mk _ hv
  · exact .mk _ (hv.withTopo _)

end Counted

/-- The handler of `VIRTUSB_IOCTL_SET_PORT_POWER`. -/
theorem controlSetPortPower (hv : ManagedAlike v v') (h : HcdId) (request : PortPower) (env : Env) :
    Agree ManagedAlike (v.controlSetPortPower h request env)
      (v'.controlSetPortPower h request env) := by
  rw [World.controlSetPortPower, World.controlSetPortPower, hv.topo]
  exact .ite (fun _ => .mk _ hv) fun _ => .ite (fun _ => .mk _ hv) fun _ =>
    .ite (fun _ => .mk _ hv) fun _ => .mk _ (hv.withTopo _)

end ManagedAlike

/-! ### Which calls are of the control plane -/

/-- The commands that are about the requests of a device, not about the device. -/
def trafficCommands : List (BitVec 32) :=
  [ioctlBackendRegister, ioctlBackendUnregister, ioctlTransferFetch, ioctlTransferComplete]

/-- The call is one of the control plane. -/
def Call.manages : Call → Bool
  | .ioctl _ _ _ _ command _ _ => command ∉ trafficCommands
  | .hubControl .. => true
  | .setStatusChangedCallback .. => true
  | .close .. => false
  | .urbEnqueue .. => false
  | .urbDequeue .. => false
  | .stop _ => false

/-- What a call returns to its caller. -/
inductive Answer
  | ioctl (result : Except Errno Reply)
  | hub (result : Except Errno HubReply)
  | urb (result : Except Errno Unit)
  | none

/-- What `World.call` returns. -/
def World.answer (w : World) : Call → Answer
  | .ioctl h active f nonblock command m env =>
      .ioctl (w.controlIoctl h active f nonblock command m env).2
  | .close _ _ => .none
  | .urbEnqueue h u urb env => .urb ((w.handUrb u urb).hcdUrbEnqueue h u env).2
  | .urbDequeue h u status => .urb (w.hcdUrbDequeue h u status).2
  | .hubControl h typeReq value index => .hub (w.topo.hcdHubControl h typeReq value index).2
  | .setStatusChangedCallback _ _ => .none
  | .stop _ => .none

section Calls

variable {N : ℕ} {w v v' : World} {h : HcdId} {env : Env}

/-- The same reply from the same result. -/
theorem Agree.replying {R : World → World → Prop} {α : Type} {x x' : World × Except Errno α}
    (hx : Agree R x x') (reply : α → Reply) :
    Agree R (World.replying x reply) (World.replying x' reply) :=
  .of_eq hx.fst (congrArg (Except.map reply) hx.snd)

namespace ManagedAlike

/-- **Every command of the control plane** gives the same answer and leaves the same managed. -/
theorem controlIoctl (hv : ManagedAlike v v') (hc : v.Counted) (hc' : v'.Counted)
    {command : BitVec 32} (ht : command ∉ trafficCommands) (active : Bool) (f : FilePtr)
    (nonblock : Bool) (m : UserMemory) :
    Agree ManagedAlike (v.controlIoctl h active f nonblock command m env)
      (v'.controlIoctl h active f nonblock command m env) := by
  simp only [trafficCommands, List.mem_cons, List.not_mem_nil, or_false, not_or] at ht
  obtain ⟨hregister, hunregister, hfetch, hcomplete⟩ := ht
  rw [World.controlIoctl, World.controlIoctl, hv.controlGetPortStatus]
  simp only [hregister, hunregister, hfetch, hcomplete, if_false]
  refine .ite (fun _ => .mk _ hv) fun _ => .ite (fun _ => .mk _ hv) fun _ =>
    .ite (fun _ => hv.controlDeviceCreate _ env) fun _ => .ite (fun _ => ?_) fun _ =>
    .ite (fun _ => ?_) fun _ => .ite (fun _ => ?_) fun _ => .ite (fun _ => ?_) fun _ =>
    .ite (fun _ => (hv.controlSetPortPower h _ env).replying _) fun _ => .mk _ hv
  · exact (controlDeviceDestroy hc hc' hv _).replying _
  · exact (controlDeviceAttach hc hc' hv _).replying _
  · exact (controlDeviceDetach hc hc' hv _).replying _
  · exact (controlDeviceConnection hc hc' hv _).replying _

/-- **A call of the control plane does the same in worlds that are managed alike.** -/
theorem call (hv : ManagedAlike v v') (hc : v.Counted) (hc' : v'.Counted) {c : Call}
    (hm : c.manages = true) :
    v'.answer c = v.answer c ∧ ManagedAlike (v.call c) (v'.call c) := by
  cases c with
  | ioctl h active f nonblock command m env =>
      have ht : command ∉ trafficCommands := by simpa [Call.manages] using hm
      have hagree : Agree ManagedAlike (v.controlIoctl h active f nonblock command m env)
          (v'.controlIoctl h active f nonblock command m env) :=
        hv.controlIoctl hc hc' ht active f nonblock m
      exact ⟨congrArg Answer.ioctl hagree.snd.symm, hagree.fst⟩
  | hubControl h typeReq value index =>
      rw [answer, answer, World.call, World.call, hv.topo]
      exact ⟨rfl, hv.withTopo _⟩
  | setStatusChangedCallback h installed =>
      rw [World.call, World.call, hv.topo]
      exact ⟨rfl, hv.withTopo _⟩
  | close h f => simp [Call.manages] at hm
  | urbEnqueue h u urb env => simp [Call.manages] at hm
  | urbDequeue h u status => simp [Call.manages] at hm
  | stop h => simp [Call.manages] at hm

end ManagedAlike

end Calls

end VirtUsb
