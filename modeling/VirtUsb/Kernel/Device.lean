/-
# Devices

`kernel/src/virtusb_device.c`.  The upstream port of a device is in the topology,
its object in `World.objects`.
-/

import VirtUsb.Kernel.Hub
import VirtUsb.Kernel.Object

namespace VirtUsb

namespace Topology

variable (t : Topology)

/-- `virtusb_device_get_attached_hub`: the hub and the port number. -/
def deviceGetAttachedHub (d : DevicePtr) : Option (HcdId × ℕ) :=
  match (t.upstream d).peer with
  | none => none
  | some downstream =>
      if (t.port downstream).role ≠ .downstream then none
      else
        match (t.port downstream).owner with
        | some (.hub h) =>
            match t.hubFindPortNumber h downstream with
            | .error _ => none
            | .ok n => some (h, n)
        | _ => none

/-- `virtusb_device_attach`.  The owner of a downstream port is a hub; the caller
passes no other port. -/
def deviceAttach (d : DevicePtr) (downstream : PortRef) : Topology × Except Errno Unit :=
  match (t.port downstream).owner with
  | some (.hub h) =>
      match t.hubFindPortNumber h downstream with
      | .error e => (t, .error e)
      | .ok n =>
          let wasConnected := t.hubPortIsConnected h n
          match t.portAttach downstream (.upstream d) with
          | (t₁, .error e) => (t₁, .error e)
          | (t₁, .ok ()) =>
              (if wasConnected ≠ t₁.hubPortIsConnected h n then t₁.hubMarkPortConnectionChange h n
                else t₁, .ok ())
  | _ => (t, .error .EINVAL)

/-- `virtusb_device_detach`. -/
def deviceDetach (d : DevicePtr) : Topology :=
  match t.deviceGetAttachedHub d with
  | none => t.portDetach (.upstream d)
  | some (h, n) =>
      let wasConnected := t.hubPortIsConnected h n
      let t₁ := t.portDetach (.upstream d)
      if wasConnected then t₁.hubMarkPortConnectionChange h n else t₁

/-- `virtusb_device_set_connection_signaling`. -/
def deviceSetConnectionSignaling (d : DevicePtr) (enabled : Bool) : Topology × Except Errno Unit :=
  match t.deviceGetAttachedHub d with
  | none => t.portSetConnectionSignaling (.upstream d) enabled
  | some (h, n) =>
      let wasConnected := t.hubPortIsConnected h n
      match t.portSetConnectionSignaling (.upstream d) enabled with
      | (t₁, .error e) => (t₁, .error e)
      | (t₁, .ok ()) =>
          (if wasConnected ≠ t₁.hubPortIsConnected h n then t₁.hubMarkPortConnectionChange h n
            else t₁, .ok ())

end Topology

namespace World

variable (w : World)

/-- `virtusb_object_alloc` for a device: the next object, with its first reference. -/
def objectAlloc : World :=
  { w.setObject w.nextDevice { refcount := 1 } with nextDevice := w.nextDevice + 1 }

/-- `virtusb_device_create`. -/
def deviceCreate (speed : Byte) (env : Env) : World × Except Errno DevicePtr :=
  if !env.deviceAlloc then (w, .error .ENOMEM)
  else
    let d := w.nextDevice
    let allocated := w.objectAlloc
    match portInit .upstream speed (.device d) with
    | .error e => (allocated.objectPut d, .error e)
    | .ok port =>
        let initialised := { allocated with topo := allocated.topo.setPort (.upstream d) port }
        match initialised.objectRegister d .device env.xaInsert with
        | (w', .error e) => (w'.objectPut d, .error e)
        | (w', .ok ()) => (w', .ok d)

/-- `virtusb_device_destroy`. -/
def deviceDestroy (d : DevicePtr) (force : Bool) : World × Except Errno Unit :=
  if (w.topo.upstream d).peer.isSome then
    if !force then (w, .error .EBUSY)
    else
      match w.topo.deviceSetConnectionSignaling d false with
      | (t, .error e) => ({ w with topo := t }, .error e)
      | (t, .ok ()) => { w with topo := t.deviceDetach d }.objectUnregister d
  else w.objectUnregister d

/-- A pass of the loop of `virtusb_device_shutdown_all`, with the result of the destruction,
which the loop ignores, or nothing if it found no device. -/
def shutdownPass : World × Option (Except Errno Unit) :=
  match w.objectLookupFirstByType .device with
  | (w₁, none) => (w₁, none)
  | (w₁, some d) =>
      let destroyed := w₁.deviceDestroy d true
      (destroyed.1.objectPut d, some destroyed.2)

/-- `virtusb_device_shutdown_all`, if it returns within `fuel` passes. -/
def deviceShutdownAll : ℕ → World → Option World
  | 0, _ => none
  | fuel + 1, w =>
      match w.shutdownPass with
      | (w', none) => some w'
      | (w', some _) => deviceShutdownAll fuel w'

end World

end VirtUsb
