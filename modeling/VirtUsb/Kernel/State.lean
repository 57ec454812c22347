/-
# The data model

The structures of `kernel/include/*.h` and `uapi/include/virtusb_uapi.h`, and
the state of a loaded module.

A C pointer is a number that names the object it points to.  `struct
virtusb_device` is split by field: its embedded `object` is in `World.objects`,
its `upstream_port` in `Topology.upstream`, both under the same device pointer.
A freed object keeps its last contents; `World.released` and
`World.freedTransfers` record the release callbacks.  The role-specific union of
`struct virtusb_port` is two separate fields, the role saying which one is live.

Fixed-width bitmaps and transfer ids are `BitVec`s.  Lengths, port numbers and
object ids are natural numbers: the code compares them with a bound before it
narrows them, so no wrap-around can be seen.
-/

import Mathlib.Data.Nat.Notation
import Mathlib.Data.Int.Notation

namespace VirtUsb

/-- A byte of a buffer. -/
abbrev Byte := BitVec 8

/-- The zero-based instance number of a `struct virtusb_hcd`, and so also its
root hub and its backend. -/
abbrev HcdId := ℕ
/-- A `struct virtusb_device *`. -/
abbrev DevicePtr := ℕ
/-- A `struct virtusb_transfer *`. -/
abbrev TransferPtr := ℕ
/-- A `struct file *`. -/
abbrev FilePtr := ℕ
/-- A `struct urb *`. -/
abbrev UrbPtr := ℕ
/-- `virtusb_object_id_t`. -/
abbrev ObjectId := ℕ

/-- The error codes the module returns, or passes on from the USB core. -/
inductive Errno
  | ENOENT | EAGAIN | ENOMEM | EFAULT | EBUSY | ENODEV | EINVAL | ENOTTY | ENOSPC
  | EPIPE | EIDRM | EMSGSIZE | EOPNOTSUPP | ESHUTDOWN | EHOSTUNREACH | EALREADY
  | EINPROGRESS | ERESTARTSYS
  deriving DecidableEq, Repr

/-- The number behind an error code, as URB and transfer statuses carry it. -/
def Errno.code : Errno → ℤ
  | .ENOENT => 2
  | .EAGAIN => 11
  | .ENOMEM => 12
  | .EFAULT => 14
  | .EBUSY => 16
  | .ENODEV => 19
  | .EINVAL => 22
  | .ENOTTY => 25
  | .ENOSPC => 28
  | .EPIPE => 32
  | .EIDRM => 43
  | .EMSGSIZE => 90
  | .EOPNOTSUPP => 95
  | .ESHUTDOWN => 108
  | .EHOSTUNREACH => 113
  | .EALREADY => 114
  | .EINPROGRESS => 115
  | .ERESTARTSYS => 512

/-- The status value `-E...`. -/
def Errno.status (e : Errno) : ℤ := -e.code

/-- A buffer of `size` allocated bytes. -/
structure Buffer where
  size : ℕ
  bytes : ℕ → Byte

/-! ### Ports, hubs and their topology -/

/-- `enum virtusb_port_role`. -/
inductive PortRole
  | invalid | upstream | downstream
  deriving DecidableEq, Repr

/-- A `struct virtusb_port *`: `&hub->ports[index]` or `&device->upstream_port`. -/
inductive PortRef
  | downstream (hub : HcdId) (index : ℕ)
  | upstream (device : DevicePtr)
  deriving DecidableEq, Repr

/-- The `owner` of a port: the hub of a downstream port, the device of an
upstream one. -/
inductive PortOwner
  | hub (hub : HcdId)
  | device (device : DevicePtr)
  deriving DecidableEq, Repr

/-- `struct virtusb_port_upstream_state`. -/
structure PortUpstreamState where
  connectionSignaling : Bool := false
  deriving DecidableEq, Repr

/-- `struct virtusb_port_downstream_state`. -/
structure PortDownstreamState where
  powered : Bool := false
  overCurrent : Bool := false
  deriving DecidableEq, Repr

/-- `struct virtusb_port`; the default values are those of a zeroed one. -/
structure Port where
  role : PortRole := .invalid
  owner : Option PortOwner := none
  speed : Byte := 0
  peer : Option PortRef := none
  upstream : PortUpstreamState := {}
  downstream : PortDownstreamState := {}
  deriving DecidableEq, Repr

/-- `enum virtusb_hub_power_switching_mode`. -/
inductive HubPowerSwitchingMode
  | ganged | individual
  deriving DecidableEq, Repr

/-- `enum virtusb_hub_over_current_mode`. -/
inductive HubOverCurrentMode
  | global | perPort | none
  deriving DecidableEq, Repr

/-- `enum virtusb_port_speed`. -/
inductive PortSpeed
  | none | low | full | high
  deriving DecidableEq, Repr

/-- `struct virtusb_hub_port_usb_state`: one bit for each port, and two bits for
each port in the words of `speed`. -/
structure HubPortUsbState where
  enabled : BitVec 32 := 0
  suspended : BitVec 32 := 0
  reset : BitVec 32 := 0
  speed : ℕ → BitVec 32 := fun _ => 0

/-- `struct virtusb_hub_port_usb_change`. -/
structure HubPortUsbChange where
  connected : BitVec 32 := 0
  enabled : BitVec 32 := 0
  suspended : BitVec 32 := 0
  reset : BitVec 32 := 0
  overCurrent : BitVec 32 := 0

/-- `struct virtusb_hub`.  `statusChanged` says whether a callback is installed. -/
structure Hub where
  portCount : ℕ := 0
  powerSwitchingMode : HubPowerSwitchingMode := .ganged
  overCurrentMode : HubOverCurrentMode := .global
  overCurrent : Bool := false
  ports : ℕ → Port := fun _ => {}
  usb : HubPortUsbState := {}
  usbChange : HubPortUsbChange := {}
  statusChanged : Bool := false

/-- Every root hub, the upstream port of every device, and the hubs whose
status-changed callback was called, in the order of the calls. -/
structure Topology where
  hubs : HcdId → Hub
  upstream : DevicePtr → Port
  notified : List HcdId

/-! ### Objects -/

/-- `enum virtusb_object_type`. -/
inductive ObjectType
  | invalid | hcd | rootHub | hub | device
  deriving DecidableEq, Repr

/-- `struct virtusb_object`; its `release` is always `virtusb_device_release`. -/
structure Object where
  id : ObjectId := 0
  type : ObjectType := .invalid
  refcount : ℕ := 0
  registered : Bool := false
  deriving DecidableEq, Repr

/-! ### Transfers and URBs -/

/-- `enum virtusb_transfer_type`. -/
inductive TransferType
  | control | isochronous | bulk | interrupt
  deriving DecidableEq, Repr

/-- `enum virtusb_transfer_direction`. -/
inductive TransferDirection
  | out | in
  deriving DecidableEq, Repr

/-- `enum virtusb_transfer_state`. -/
inductive TransferState
  | new | queued | completed | cancelled
  deriving DecidableEq, Repr

/-- A `struct usb_ctrlrequest`, byte by byte. -/
abbrev SetupPacket := Vector Byte 8

/-- `struct virtusb_transfer`. -/
structure Transfer where
  refcount : ℕ
  id : BitVec 64
  device : DevicePtr
  type : TransferType
  direction : TransferDirection
  state : TransferState
  endpoint : ℕ
  setup : Option SetupPacket
  buffer : Option Buffer
  requestedLength : ℕ
  actualLength : ℕ
  status : ℤ

/-- The parts of `urb->dev` that the transfer router reads: the HCD whose root
hub is the parent of the device, if its parent is a root hub, and its port. -/
structure UsbDev where
  parent : Option HcdId
  portnum : ℕ
  deriving DecidableEq, Repr

/-- The fields of `struct urb` that the module uses, and what the USB core keeps
of it: whether it is linked to its endpoint and whether an unlink was requested. -/
structure Urb where
  dev : Option UsbDev
  pipe : BitVec 32
  numSgs : ℤ
  numberOfPackets : ℤ
  setupPacket : Option SetupPacket
  transferBuffer : Option Buffer
  transferBufferLength : ℕ
  actualLength : ℕ
  linked : Bool := false
  unlinked : Bool := false

/-! ### The backend of an HCD -/

/-- `struct virtusb_hcd_request`. -/
structure Request where
  urb : UrbPtr
  transfer : TransferPtr
  owner : Option FilePtr := none
  deriving DecidableEq, Repr

/-- `struct virtusb_backend_binding`. -/
structure Binding where
  device : DevicePtr
  owner : FilePtr
  deriving DecidableEq, Repr

/-- `struct virtusb_backend` without its lock and wait queue. -/
structure Backend where
  bindings : List Binding := []
  pending : List Request := []
  active : List Request := []
  stopping : Bool := false
  deriving DecidableEq, Repr

/-- `struct virtusb_transfer_fetch`, the message a backend reads. -/
structure TransferFetch where
  transferId : BitVec 64 := 0
  objectId : ObjectId := 0
  type : ℕ := 0
  direction : ℕ := 0
  endpoint : ℕ := 0
  hasSetup : ℕ := 0
  requestedLength : ℕ := 0
  dataLength : ℕ := 0
  setup : SetupPacket := Vector.replicate 8 0
  data : ℕ → Byte := fun _ => 0

/-- `struct virtusb_transfer_complete_request`, the message a backend writes. -/
structure TransferCompleteRequest where
  transferId : BitVec 64
  status : ℤ
  actualLength : ℕ
  data : ℕ → Byte

/-! ### The module -/

/-- A call of `usb_hcd_giveback_urb`. -/
structure Giveback where
  urb : UrbPtr
  status : ℤ
  deriving DecidableEq, Repr

/-- A call of `memcpy`: the sizes of its two buffers, `none` for `NULL`. -/
structure Copy where
  dst : Option ℕ
  src : Option ℕ
  length : ℕ
  deriving DecidableEq, Repr

/-- A call of `virtusb_device_release`, and whether its `WARN_ON` fired. -/
structure Release where
  device : DevicePtr
  warned : Bool
  deriving DecidableEq, Repr

/-- The state of the loaded module and of the USB core around it.

`nextDevice` and `nextTransfer` are the pointers the allocator returns next;
`objectTable` is the xarray `virtusb_objects`. -/
structure World where
  topo : Topology
  objects : DevicePtr → Object
  nextDevice : DevicePtr
  released : List Release
  objectTable : ObjectId → Option DevicePtr
  nextObjectId : ℕ
  backends : HcdId → Backend
  transfers : TransferPtr → Transfer
  nextTransfer : TransferPtr
  transferNextId : BitVec 64
  freedTransfers : List TransferPtr
  urbs : UrbPtr → Urb
  givebacks : List Giveback
  copies : List Copy

/-- The module just after it was loaded: nothing was allocated, and the memory
that the allocator will hand out is zeroed. -/
def World.loaded : World where
  topo := ⟨fun _ => {}, fun _ => {}, []⟩
  objects _ := {}
  nextDevice := 0
  released := []
  objectTable _ := none
  nextObjectId := 1
  backends _ := {}
  transfers _ :=
    { refcount := 0, id := 0, device := 0, type := .control, direction := .out, state := .new
      endpoint := 0, setup := none, buffer := none, requestedLength := 0, actualLength := 0
      status := 0 }
  nextTransfer := 0
  transferNextId := 0
  freedTransfers := []
  urbs _ :=
    { dev := none, pipe := 0, numSgs := 0, numberOfPackets := 0, setupPacket := none
      transferBuffer := none, transferBufferLength := 0, actualLength := 0 }
  givebacks := []
  copies := []

/-- What one operation meets outside the module: which allocations and user
copies succeed, what `xa_insert` and `usb_hcd_link_urb_to_ep` return, whether a
wait is interrupted, and what a fresh `kmalloc` buffer contains. -/
structure Env where
  deviceAlloc : Bool := true
  bindingAlloc : Bool := true
  transferAlloc : Bool := true
  bufferAlloc : Bool := true
  requestAlloc : Bool := true
  messageAlloc : Bool := true
  copyFromUser : Bool := true
  copyToUser : Bool := true
  interrupted : Bool := false
  xaInsert : Except Errno Unit := .ok ()
  link : Except Errno Unit := .ok ()
  garbage : ℕ → Byte := fun _ => 0

end VirtUsb
