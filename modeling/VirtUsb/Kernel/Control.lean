/-
# The ioctl interface

`kernel/src/virtusb_control.c` and the command words of
`uapi/include/virtusb_uapi.h`.  A handler takes the argument as its structure and
begins with `copy_from_user`, which may fail; `controlIoctl` finds the handler by
the command word and reads the structure from the memory of the caller.

`hub_id` 0 is the root hub of the controller the file was opened on.
-/

import VirtUsb.Kernel.Hcd
import VirtUsb.Kernel.HubControl

namespace VirtUsb

/-! ### The arguments -/

/-- `struct virtusb_port_state`. -/
structure ControlPortState where
  status : BitVec 32 := 0
  change : BitVec 32 := 0
  speed : PortSpeed := .none
  deriving DecidableEq, Repr

/-- `struct virtusb_port_status`, as far as the caller fills it in. -/
structure PortStatus where
  hubId : ℕ
  port : ℕ

/-- `struct virtusb_device_create`, as far as the caller fills it in. -/
structure DeviceCreate where
  speedCaps : BitVec 32

/-- `struct virtusb_device_destroy`. -/
structure DeviceDestroy where
  objectId : ObjectId
  flags : BitVec 32

/-- `struct virtusb_device_attach`. -/
structure DeviceAttach where
  objectId : ObjectId
  hubId : ℕ
  port : ℕ

/-- `struct virtusb_device_object`. -/
structure DeviceObject where
  objectId : ObjectId

/-- `struct virtusb_device_connection`. -/
structure DeviceConnection where
  objectId : ObjectId
  enabled : ℕ

/-- `struct virtusb_port_power`. -/
structure PortPower where
  hubId : ℕ
  port : ℕ
  powered : ℕ

/-- `struct virtusb_backend_register`. -/
structure BackendRegister where
  objectId : ObjectId

/-- What a successful request copies to the caller. -/
inductive Reply
  | none
  | portStatus (portCount : ℕ) (state : ControlPortState) (ports : List ControlPortState)
  | created (objectId : ObjectId)
  | fetched (message : TransferFetch)

/-- The flags of a `__poll_t`. -/
structure PollMask where
  epollin : Bool := false
  epollrdnorm : Bool := false
  epollerr : Bool := false
  epollhup : Bool := false
  deriving DecidableEq, Repr

/-- `VIRTUSB_DEVICE_DESTROY_FORCE` and `VIRTUSB_DEVICE_DESTROY_FLAGS`. -/
def deviceDestroyForce : BitVec 32 := 1
/-- All the flags of `VIRTUSB_IOCTL_DEVICE_DESTROY`, of which there is one. -/
def deviceDestroyFlags : BitVec 32 := deviceDestroyForce

/-- `VIRTUSB_SPEED_CAP_ALL`. -/
def speedCapAll : BitVec 32 := 7

/-- `virtusb_control_speed_caps_valid`. -/
def controlSpeedCapsValid (speedCaps : BitVec 32) : Bool :=
  speedCaps ≠ 0 && speedCaps &&& ~~~speedCapAll = 0

/-- A word with bit `n` set, if the condition holds. -/
def bitIf (condition : Bool) (n : ℕ) : BitVec 32 := if condition then Bitmap.bit 32 n else 0

namespace Topology

/-- `virtusb_control_build_port_state`. -/
def controlBuildPortState (t : Topology) (h : HcdId) (n : ℕ) : ControlPortState :=
  let usb := (t.hubs h).usb
  let change := (t.hubs h).usbChange
  let overCurrent :=
    (n = 0 && t.hubIsOverCurrent h) || (decide (0 < n) && t.hubPortIsOverCurrent h n)
  { status :=
      bitIf (decide (0 < n) && t.hubPortIsConnected h n) 0 |||
        bitIf (Bitmap.test usb.enabled n) 1 ||| bitIf (Bitmap.test usb.suspended n) 2 |||
        bitIf overCurrent 3 ||| bitIf (Bitmap.test usb.reset n) 4 |||
        bitIf (decide (0 < n) && t.hubPortIsPowered h n) 8
    change :=
      bitIf (Bitmap.test change.connected n) 0 ||| bitIf (Bitmap.test change.enabled n) 1 |||
        bitIf (Bitmap.test change.suspended n) 2 ||| bitIf (Bitmap.test change.overCurrent n) 3 |||
        bitIf (Bitmap.test change.reset n) 4
    speed := if n = 0 then .none else t.hubGetPortSpeed h n }

end Topology

/-! ### The handlers -/

namespace World

variable (w : World) (h : HcdId)

/-- `virtusb_control_get_port_status`. -/
def controlGetPortStatus (request : PortStatus) (env : Env) : Except Errno Reply :=
  let portCount := (w.topo.hubs h).portCount
  if !env.copyFromUser then .error .EFAULT
  else if request.hubId ≠ 0 then .error .ENODEV
  else if request.port > portCount then .error .EINVAL
  else if !env.copyToUser then .error .EFAULT
  else
    .ok (.portStatus portCount (w.topo.controlBuildPortState h request.port)
      (if request.port = 0 then
        (List.range portCount).map fun i => w.topo.controlBuildPortState h (i + 1) else []))

/-- `virtusb_control_device_create`. -/
def controlDeviceCreate (request : DeviceCreate) (env : Env) : World × Except Errno Reply :=
  if !env.copyFromUser then (w, .error .EFAULT)
  else if !controlSpeedCapsValid request.speedCaps then (w, .error .EINVAL)
  else
    match w.deviceCreate (request.speedCaps.setWidth 8) env with
    | (w₁, .error e) => (w₁, .error e)
    | (w₁, .ok d) =>
        if !env.copyToUser then ((w₁.deviceDestroy d true).1.objectPut d, .error .EFAULT)
        else (w₁.objectPut d, .ok (.created (w₁.objects d).id))

/-- `virtusb_control_device_destroy`. -/
def controlDeviceDestroy (request : DeviceDestroy) (env : Env) : World × Except Errno Unit :=
  if !env.copyFromUser then (w, .error .EFAULT)
  else if request.objectId = 0 ∨ request.flags &&& ~~~deviceDestroyFlags ≠ 0 then
    (w, .error .EINVAL)
  else
    match w.objectLookup request.objectId with
    | (w₁, none) => (w₁, .error .ENOENT)
    | (w₁, some d) =>
        if (w₁.objects d).type ≠ .device then (w₁.objectPut d, .error .EINVAL)
        else
          let destroyed := w₁.deviceDestroy d (request.flags &&& deviceDestroyForce ≠ 0)
          (destroyed.1.objectPut d, destroyed.2)

/-- `virtusb_control_lookup_device`. -/
def controlLookupDevice (id : ObjectId) : World × Except Errno DevicePtr :=
  if id = 0 then (w, .error .EINVAL)
  else
    match w.objectLookup id with
    | (w₁, none) => (w₁, .error .ENOENT)
    | (w₁, some d) =>
        if (w₁.objects d).type ≠ .device then (w₁.objectPut d, .error .EINVAL) else (w₁, .ok d)

/-- `virtusb_control_device_attach`.  The hub is the one that
`virtusb_control_get_hub` finds. -/
def controlDeviceAttach (request : DeviceAttach) (env : Env) : World × Except Errno Unit :=
  if !env.copyFromUser then (w, .error .EFAULT)
  else if request.hubId ≠ 0 then (w, .error .ENOENT)
  else
    match w.topo.hubGetPort h request.port with
    | none => (w, .error .EINVAL)
    | some port =>
        match w.controlLookupDevice request.objectId with
        | (w₁, .error e) => (w₁, .error e)
        | (w₁, .ok d) =>
            let attached := w₁.topo.deviceAttach d port
            (({ w₁ with topo := attached.1 } : World).objectPut d, attached.2)

/-- `virtusb_control_device_detach`. -/
def controlDeviceDetach (request : DeviceObject) (env : Env) : World × Except Errno Unit :=
  if !env.copyFromUser then (w, .error .EFAULT)
  else
    match w.controlLookupDevice request.objectId with
    | (w₁, .error e) => (w₁, .error e)
    | (w₁, .ok d) =>
        (({ w₁ with topo := w₁.topo.deviceDetach d } : World).objectPut d, .ok ())

/-- `virtusb_control_device_connection`. -/
def controlDeviceConnection (request : DeviceConnection) (env : Env) : World × Except Errno Unit :=
  if !env.copyFromUser then (w, .error .EFAULT)
  else if request.enabled > 1 then (w, .error .EINVAL)
  else
    match w.controlLookupDevice request.objectId with
    | (w₁, .error e) => (w₁, .error e)
    | (w₁, .ok d) =>
        let signaling := w₁.topo.deviceSetConnectionSignaling d (request.enabled ≠ 0)
        (({ w₁ with topo := signaling.1 } : World).objectPut d, signaling.2)

/-- `virtusb_control_set_port_power`. -/
def controlSetPortPower (request : PortPower) (env : Env) : World × Except Errno Unit :=
  if !env.copyFromUser then (w, .error .EFAULT)
  else if request.powered > 1 then (w, .error .EINVAL)
  else if request.hubId ≠ 0 then (w, .error .ENOENT)
  else
    let powered := w.topo.hubSetPortPower h request.port (request.powered ≠ 0)
    ({ w with topo := powered.1 }, powered.2)

/-- Whether a device is attached to a port of the root hub of a controller, the
condition of `virtusb_control_backend_register`. -/
def attachedTo (d : DevicePtr) : Bool :=
  match (w.topo.upstream d).peer with
  | none => false
  | some peer => (w.topo.port peer).owner = some (.hub h)

/-- `virtusb_control_backend_register`. -/
def controlBackendRegister (f : FilePtr) (request : BackendRegister) (env : Env) :
    World × Except Errno Unit :=
  if !env.copyFromUser then (w, .error .EFAULT)
  else
    match w.controlLookupDevice request.objectId with
    | (w₁, .error e) => (w₁, .error e)
    | (w₁, .ok d) =>
        if !w₁.attachedTo h d then (w₁.objectPut d, .error .ENODEV)
        else
          let registered := w₁.backendRegister h f d env
          (registered.1.objectPut d, registered.2)

/-- `virtusb_control_transfer_fetch`. -/
def controlTransferFetch (f : FilePtr) (nonblock : Bool) (env : Env) :
    World × Except Errno TransferFetch :=
  if !env.messageAlloc then (w, .error .ENOMEM)
  else
    match w.backendFetch h f nonblock with
    | (w₁, .error e) => (w₁, .error e)
    | (w₁, .ok message) =>
        if !env.copyToUser then ((w₁.backendFetchRollback h f message.transferId).1, .error .EFAULT)
        else (w₁, .ok message)

/-- `virtusb_control_transfer_complete`. -/
def controlTransferComplete (f : FilePtr) (completion : TransferCompleteRequest) (env : Env) :
    World × Except Errno Unit :=
  if !env.messageAlloc then (w, .error .ENOMEM)
  else if !env.copyFromUser then (w, .error .EFAULT)
  else w.backendComplete h f completion

/-- `virtusb_control_release`, for a file that was opened on the node of a controller. -/
def controlRelease (f : FilePtr) : World := w.backendReleaseOwner h f

/-- `virtusb_backend_has_pending`. -/
def backendHasPending (f : FilePtr) : Bool := w.pendingForOwnerOrStopping h f

/-- `virtusb_control_poll` without its `poll_wait`. -/
def controlPoll (active : Bool) (f : FilePtr) : PollMask :=
  if !active then { epollerr := true, epollhup := true }
  else if w.backendHasPending h f then { epollin := true, epollrdnorm := true }
  else {}

end World

/-! ### Command words -/

/-- `_IOC` with its shifts. -/
def ioc (direction type number size : BitVec 32) : BitVec 32 :=
  direction <<< 30 ||| size <<< 16 ||| type <<< 8 ||| number

/-- `_IO`, with the type `VIRTUSB_IOCTL_MAGIC`. -/
def io (number : BitVec 32) : BitVec 32 := ioc 0 0xb9 number 0
/-- `_IOR`, with the same type. -/
def ior (number size : BitVec 32) : BitVec 32 := ioc 2 0xb9 number size
/-- `_IOW`, with the same type. -/
def iow (number size : BitVec 32) : BitVec 32 := ioc 1 0xb9 number size
/-- `_IOWR`, with the same type. -/
def iowr (number size : BitVec 32) : BitVec 32 := ioc 3 0xb9 number size

/-- `sizeof(struct virtusb_port_status)`. -/
def sizeofPortStatus : BitVec 32 := 3 * 4 + 12 + 31 * 12
/-- `sizeof(struct virtusb_status_bitmap)`. -/
def sizeofStatusBitmap : BitVec 32 := 8
/-- `sizeof(struct virtusb_speed_map)`. -/
def sizeofSpeedMap : BitVec 32 := 12
/-- `sizeof(struct virtusb_device_create)`. -/
def sizeofDeviceCreate : BitVec 32 := 8
/-- `sizeof(struct virtusb_device_destroy)`. -/
def sizeofDeviceDestroy : BitVec 32 := 8
/-- `sizeof(struct virtusb_device_attach)`. -/
def sizeofDeviceAttach : BitVec 32 := 12
/-- `sizeof(struct virtusb_device_object)`. -/
def sizeofDeviceObject : BitVec 32 := 4
/-- `sizeof(struct virtusb_device_connection)`. -/
def sizeofDeviceConnection : BitVec 32 := 8
/-- `sizeof(struct virtusb_port_power)`. -/
def sizeofPortPower : BitVec 32 := 12
/-- `sizeof(struct virtusb_backend_register)`. -/
def sizeofBackendRegister : BitVec 32 := 4
/-- `sizeof(struct virtusb_transfer_fetch)`.  The two messages begin with a 64-bit field, and the
size of a structure is a multiple of the size of its largest field. -/
def sizeofTransferFetch : BitVec 32 := 4144
/-- `sizeof(struct virtusb_transfer_complete_request)`. -/
def sizeofTransferComplete : BitVec 32 := 4112

/-- `VIRTUSB_IOCTL_GET_PORT_STATUS`, the first of the commands of `virtusb_control_ioctl`. -/
def ioctlGetPortStatus : BitVec 32 := iowr 0x00 sizeofPortStatus
/-- `VIRTUSB_IOCTL_DEVICE_CREATE`. -/
def ioctlDeviceCreate : BitVec 32 := iowr 0x02 sizeofDeviceCreate
/-- `VIRTUSB_IOCTL_DEVICE_DESTROY`. -/
def ioctlDeviceDestroy : BitVec 32 := iow 0x03 sizeofDeviceDestroy
/-- `VIRTUSB_IOCTL_DEVICE_ATTACH`. -/
def ioctlDeviceAttach : BitVec 32 := iow 0x20 sizeofDeviceAttach
/-- `VIRTUSB_IOCTL_DEVICE_DETACH`. -/
def ioctlDeviceDetach : BitVec 32 := iow 0x21 sizeofDeviceObject
/-- `VIRTUSB_IOCTL_DEVICE_CONNECTION`. -/
def ioctlDeviceConnection : BitVec 32 := iow 0x22 sizeofDeviceConnection
/-- `VIRTUSB_IOCTL_SET_PORT_POWER`. -/
def ioctlSetPortPower : BitVec 32 := iow 0x23 sizeofPortPower
/-- `VIRTUSB_IOCTL_BACKEND_REGISTER`. -/
def ioctlBackendRegister : BitVec 32 := iow 0x30 sizeofBackendRegister
/-- `VIRTUSB_IOCTL_BACKEND_UNREGISTER`. -/
def ioctlBackendUnregister : BitVec 32 := io 0x31
/-- `VIRTUSB_IOCTL_TRANSFER_FETCH`. -/
def ioctlTransferFetch : BitVec 32 := ior 0x40 sizeofTransferFetch
/-- `VIRTUSB_IOCTL_TRANSFER_COMPLETE`. -/
def ioctlTransferComplete : BitVec 32 := iow 0x41 sizeofTransferComplete

/-- `VIRTUSB_IOCTL_GET_POWER`, the first of the commands for the representation by status. -/
def ioctlGetPower : BitVec 32 := iowr 0x01 sizeofStatusBitmap
/-- `VIRTUSB_IOCTL_GET_CONNECTED`. -/
def ioctlGetConnected : BitVec 32 := iowr 0x02 sizeofStatusBitmap
/-- `VIRTUSB_IOCTL_GET_ENABLED`. -/
def ioctlGetEnabled : BitVec 32 := iowr 0x03 sizeofStatusBitmap
/-- `VIRTUSB_IOCTL_GET_SUSPENDED`. -/
def ioctlGetSuspended : BitVec 32 := iowr 0x04 sizeofStatusBitmap
/-- `VIRTUSB_IOCTL_GET_RESET`. -/
def ioctlGetReset : BitVec 32 := iowr 0x05 sizeofStatusBitmap
/-- `VIRTUSB_IOCTL_GET_OVER_CURRENT`. -/
def ioctlGetOverCurrent : BitVec 32 := iowr 0x06 sizeofStatusBitmap
/-- `VIRTUSB_IOCTL_GET_SPEED`. -/
def ioctlGetSpeed : BitVec 32 := iowr 0x07 sizeofSpeedMap

/-! ### The memory of the caller -/

/-- The memory that the argument of an ioctl points to, byte by byte. -/
abbrev UserMemory := ℕ → Byte

namespace UserMemory

variable (m : UserMemory)

/-- The 32-bit word at an offset. -/
def word (offset : ℕ) : BitVec 32 :=
  m (offset + 3) ++ m (offset + 2) ++ m (offset + 1) ++ m offset

/-- The number in the 32-bit word at an offset. -/
def u32 (offset : ℕ) : ℕ := (m.word offset).toNat

/-- The memory that holds a list of 32-bit words. -/
def ofWords (words : List ℕ) : UserMemory := fun i =>
  BitVec.ofNat 8 (words.getD (i / 4) 0 >>> (8 * (i % 4)))

/-- `struct virtusb_transfer_complete_request`. -/
def transferComplete : TransferCompleteRequest where
  transferId := m.word 4 ++ m.word 0
  status := (m.word 8).toInt
  actualLength := m.u32 12
  data i := m (16 + i)

end UserMemory

namespace World

variable (w : World) (h : HcdId)

/-- The answer of a handler that copies nothing to the caller. -/
def replying {α : Type} (result : World × Except Errno α) (reply : α → Reply) :
    World × Except Errno Reply :=
  (result.1, result.2.map reply)

/-- `virtusb_control_ioctl` on a file of controller `h`.  `active` says whether the
control instance still is, `nonblock` is the `O_NONBLOCK` flag of the file. -/
def controlIoctl (active : Bool) (f : FilePtr) (nonblock : Bool) (command : BitVec 32)
    (m : UserMemory) (env : Env) : World × Except Errno Reply :=
  let done := fun _ : Unit => Reply.none
  if !active then (w, .error .ENODEV)
  else if command = ioctlGetPortStatus then
    (w, w.controlGetPortStatus h ⟨m.u32 0, m.u32 4⟩ env)
  else if command = ioctlDeviceCreate then w.controlDeviceCreate ⟨m.word 0⟩ env
  else if command = ioctlDeviceDestroy then
    replying (w.controlDeviceDestroy ⟨m.u32 0, m.word 4⟩ env) done
  else if command = ioctlDeviceAttach then
    replying (w.controlDeviceAttach h ⟨m.u32 0, m.u32 4, m.u32 8⟩ env) done
  else if command = ioctlDeviceDetach then
    replying (w.controlDeviceDetach ⟨m.u32 0⟩ env) done
  else if command = ioctlDeviceConnection then
    replying (w.controlDeviceConnection ⟨m.u32 0, m.u32 4⟩ env) done
  else if command = ioctlSetPortPower then
    replying (w.controlSetPortPower h ⟨m.u32 0, m.u32 4, m.u32 8⟩ env) done
  else if command = ioctlBackendRegister then
    replying (w.controlBackendRegister h f ⟨m.u32 0⟩ env) done
  else if command = ioctlBackendUnregister then (w.backendReleaseOwner h f, .ok .none)
  else if command = ioctlTransferFetch then
    replying (w.controlTransferFetch h f nonblock env) .fetched
  else if command = ioctlTransferComplete then
    replying (w.controlTransferComplete h f m.transferComplete env) done
  else (w, .error .ENOTTY)

/-- **What every handler does, an ioctl does**, whatever its command and argument. -/
theorem controlIoctl_cases {P : World → Prop} {w : World} {h : HcdId} {f : FilePtr}
    {nonblock : Bool} {env : Env} {active : Bool} {command : BitVec 32} {m : UserMemory}
    (hnone : P w)
    (hcreate : active = true → command = ioctlDeviceCreate →
      P (w.controlDeviceCreate ⟨m.word 0⟩ env).1)
    (hdestroy : ∀ request, P (w.controlDeviceDestroy request env).1)
    (hattach : ∀ request, P (w.controlDeviceAttach h request env).1)
    (hdetach : ∀ request, P (w.controlDeviceDetach request env).1)
    (hconnection : ∀ request, P (w.controlDeviceConnection request env).1)
    (hpower : ∀ request, P (w.controlSetPortPower h request env).1)
    (hregister : ∀ request, P (w.controlBackendRegister h f request env).1)
    (hrelease : P (w.backendReleaseOwner h f))
    (hfetch : P (w.controlTransferFetch h f nonblock env).1)
    (hcomplete : ∀ completion, P (w.controlTransferComplete h f completion env).1) :
    P (w.controlIoctl h active f nonblock command m env).1 := by
  have hcase : ∀ {c : Prop} [Decidable c] {a b : World × Except Errno Reply}, (c → P a.1) →
      (¬ c → P b.1) → P (if c then a else b).1 := by
    intro c _ a b ha hb
    split
    · exact ha ‹_›
    · exact hb ‹_›
  have hif : ∀ {c : Prop} [Decidable c] {a b : World × Except Errno Reply}, P a.1 → P b.1 →
      P (if c then a else b).1 := fun ha hb => hcase (fun _ => ha) fun _ => hb
  rw [controlIoctl]
  refine hcase (fun _ => hnone) fun hactive => hif hnone ?_
  refine hcase (hcreate (by simpa using hactive)) fun _ => ?_
  refine hif (hdestroy _) (hif (hattach _) ?_)
  refine hif (hdetach _) (hif (hconnection _) (hif (hpower _) (hif (hregister _) ?_)))
  exact hif hrelease (hif hfetch (hif (hcomplete _) hnone))

end World

end VirtUsb
