/-
# The requests of the library

The functions of `libvirtusb/src/virtusb.c` that change something, `virtusb_transfer_fetch`
included: each checks its handle, lays its arguments out as the structure of the request, and
passes the structure to the module.  `Ioctl` is what the module does with a command on a file
descriptor and with the request in memory.
-/

import VirtUsb.Library.Transfer

namespace VirtUsb

namespace Library

/-- The `ioctl` of a program, in the state the module is in. -/
abbrev Ioctl := ℤ → BitVec 32 → UserMemory → World × Except Errno Reply

/-- The checks of a handle, and the `ioctl` with a request; `w` is the state the module is
in. -/
def request (w : World) (ioctl : Ioctl) (handle : Option Handle) (command : BitVec 32)
    (m : UserMemory) : World × Except Error Reply :=
  match handle with
  | none => (w, .error .EINVAL)
  | some handle =>
      if handle.fd < 0 then (w, .error .EBADF)
      else
        match ioctl handle.fd command m with
        | (w', .error e) => (w', .error (.errno e))
        | (w', .ok reply) => (w', .ok reply)

/-- A request that answers nothing. -/
def send (w : World) (ioctl : Ioctl) (handle : Option Handle) (command : BitVec 32)
    (m : UserMemory) : World × Except Error Unit :=
  let sent := request w ioctl handle command m
  (sent.1, sent.2.map fun _ => ())

variable (w : World) (ioctl : Ioctl) (handle : Option Handle)

/-- `virtusb_device_create` for a caller that passes a place for the object id. -/
def deviceCreate (speedCaps : BitVec 32) : World × Except Error ObjectId :=
  let sent := request w ioctl handle ioctlDeviceCreate (.ofWords [speedCaps.toNat, 0])
  (sent.1, sent.2.map fun reply => match reply with | .created id => id | _ => 0)

/-- `virtusb_device_destroy`. -/
def deviceDestroy (objectId : BitVec 32) (force : Bool) : World × Except Error Unit :=
  send w ioctl handle ioctlDeviceDestroy
    (.ofWords [objectId.toNat, if force then deviceDestroyForce.toNat else 0])

/-- `virtusb_device_attach`. -/
def deviceAttach (objectId hubId port : BitVec 32) : World × Except Error Unit :=
  send w ioctl handle ioctlDeviceAttach (.ofWords [objectId.toNat, hubId.toNat, port.toNat])

/-- `virtusb_device_detach`. -/
def deviceDetach (objectId : BitVec 32) : World × Except Error Unit :=
  send w ioctl handle ioctlDeviceDetach (.ofWords [objectId.toNat])

/-- `virtusb_device_set_connected`. -/
def deviceSetConnected (objectId : BitVec 32) (connected : Bool) : World × Except Error Unit :=
  send w ioctl handle ioctlDeviceConnection
    (.ofWords [objectId.toNat, if connected then 1 else 0])

/-- `virtusb_set_port_power`. -/
def setPortPower (hubId port : BitVec 32) (powered : Bool) : World × Except Error Unit :=
  send w ioctl handle ioctlSetPortPower
    (.ofWords [hubId.toNat, port.toNat, if powered then 1 else 0])

/-- `virtusb_backend_register`. -/
def backendRegister (objectId : BitVec 32) : World × Except Error Unit :=
  if objectId = 0 then (w, .error .EINVAL)
  else send w ioctl handle ioctlBackendRegister (.ofWords [objectId.toNat])

/-- `virtusb_backend_unregister`. -/
def backendUnregister : World × Except Error Unit :=
  send w ioctl handle ioctlBackendUnregister (.ofWords [])

/-- `virtusb_transfer_fetch`, with the state that it leaves the module in. -/
def fetch : World × Except Error TransferRequest :=
  ((request w ioctl handle ioctlTransferFetch (.ofWords [])).1,
    transferFetch handle fun fd command => (ioctl fd command (.ofWords [])).2)

/-- `struct virtusb_transfer_complete_request` in memory. -/
def completionMemory (transferId : BitVec 64) (status : BitVec 32) (actualLength : ℕ)
    (data : ℕ → Byte) : UserMemory := fun i =>
  if i < 16 then
    UserMemory.ofWords [(transferId.setWidth 32).toNat, ((transferId >>> 32).setWidth 32).toNat,
      status.toNat, actualLength] i
  else data (i - 16)

/-- `virtusb_transfer_complete`; `data` is `none` for `NULL`. -/
def transferComplete (transferId : BitVec 64) (status : BitVec 32) (data : Option (ℕ → Byte))
    (actualLength : ℕ) : World × Except Error Unit :=
  match handle with
  | none => (w, .error .EINVAL)
  | some handle =>
      if handle.fd < 0 then (w, .error .EBADF)
      else if actualLength > transferDataMax ∨ (actualLength > 0 ∧ data.isNone) then
        (w, .error .EINVAL)
      else
        send w ioctl (some handle) ioctlTransferComplete
          (completionMemory transferId status actualLength
            (memcpy (fun _ => 0) (data.getD fun _ => 0) actualLength))

end Library

end VirtUsb
