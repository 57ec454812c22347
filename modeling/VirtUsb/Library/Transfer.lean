/-
# The library

`virtusb_transfer_fetch` of `libvirtusb/src/virtusb.c`.  The library has enumerations
of its own; what the module answers is cast to them number by number.
-/

import VirtUsb.Kernel.Control

namespace VirtUsb

namespace Library

/-- The errors that the library returns: its own, and what the module answered. -/
inductive Error
  | EINVAL
  | EBADF
  | errno (e : Errno)
  deriving DecidableEq, Repr

/-- `struct virtusb_handle`. -/
structure Handle where
  fd : ℤ

/-- `enum virtusb_transfer_type` of `virtusb.h`. -/
inductive TransferType
  | control | isochronous | bulk | interrupt
  deriving DecidableEq, Repr

/-- `enum virtusb_transfer_direction` of `virtusb.h`. -/
inductive TransferDirection
  | out | in
  deriving DecidableEq, Repr

/-- `VIRTUSB_TRANSFER_CONTROL` and the constants after it. -/
def TransferType.value : TransferType → ℕ
  | .control => 0
  | .isochronous => 1
  | .bulk => 2
  | .interrupt => 3

/-- `VIRTUSB_TRANSFER_OUT` and `VIRTUSB_TRANSFER_IN`. -/
def TransferDirection.value : TransferDirection → ℕ
  | .out => 0
  | .in => 1

/-- `struct virtusb_transfer_request`; the two enumerations are kept as numbers. -/
structure TransferRequest where
  id : BitVec 64
  objectId : ObjectId
  type : ℕ
  direction : ℕ
  endpoint : ℕ
  hasSetup : Bool
  requestedLength : ℕ
  dataLength : ℕ
  setup : SetupPacket
  data : ℕ → Byte

/-- What `virtusb_transfer_fetch` makes of the answer of the module. -/
def TransferRequest.ofFetch (fetch : TransferFetch) : TransferRequest where
  id := fetch.transferId
  objectId := fetch.objectId
  type := fetch.type
  direction := fetch.direction
  endpoint := fetch.endpoint
  hasSetup := fetch.hasSetup ≠ 0
  requestedLength := fetch.requestedLength
  dataLength := fetch.dataLength
  setup := fetch.setup
  data := memcpy (fun _ => 0) fetch.data transferDataMax

/-- `virtusb_transfer_fetch` for a caller that passes a request; `ioctl` says what the
module answers to a command on a file descriptor. -/
def transferFetch (handle : Option Handle) (ioctl : ℤ → BitVec 32 → Except Errno Reply) :
    Except Error TransferRequest :=
  match handle with
  | none => .error .EINVAL
  | some handle =>
      if handle.fd < 0 then .error .EBADF
      else
        match ioctl handle.fd ioctlTransferFetch with
        | .error e => .error (.errno e)
        | .ok (.fetched fetch) => .ok (.ofFetch fetch)
        | .ok _ => .ok (.ofFetch {})

end Library

end VirtUsb
