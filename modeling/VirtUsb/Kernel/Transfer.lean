/-
# Transfers

`kernel/src/virtusb_transfer.c`.  A transfer owns a reference to its device and
its payload buffer.  Every `memcpy` is logged in `World.copies`.
-/

import VirtUsb.Kernel.Object

namespace VirtUsb

/-- The contents of `dst` after `memcpy(dst, src, length)`. -/
def memcpy (dst src : ℕ → Byte) (length : ℕ) : ℕ → Byte :=
  fun i => if i < length then src i else dst i

/-- What `virtusb_transfer_create` takes besides the device.  `data` is the
source of the payload, `none` for `NULL`. -/
structure TransferArgs where
  type : TransferType
  direction : TransferDirection
  endpoint : ℕ
  setup : Option SetupPacket
  data : Option Buffer
  length : ℕ

/-- The checks of `virtusb_transfer_create` on its arguments. -/
def TransferArgs.valid (a : TransferArgs) : Bool :=
  a.endpoint ≤ 15 &&
    !(a.type = .control && a.setup.isNone) &&
    !(a.direction = .out && 0 < a.length && a.data.isNone)

namespace World

variable (w : World)

/-- The world with another record for the transfer. -/
def setTransfer (t : TransferPtr) (x : Transfer) : World :=
  { w with transfers := Function.update w.transfers t x }

/-- Puts a `memcpy` on record. -/
def recordCopy (dst src : Option ℕ) (length : ℕ) : World :=
  { w with copies := w.copies ++ [⟨dst, src, length⟩] }

/-- `memcpy` between two buffers that may be `NULL`: the world with the copy on
record, and the destination afterwards. -/
def copy (dst src : Option Buffer) (length : ℕ) : World × Option Buffer :=
  (w.recordCopy (dst.map (·.size)) (src.map (·.size)) length,
    dst.map fun d =>
      { d with bytes := memcpy d.bytes ((src.map (·.bytes)).getD fun _ => 0) length })

/-- `memcpy` of a setup packet, if there is one. -/
def copySetup (setup : Option SetupPacket) : World :=
  if setup.isSome then w.recordCopy (some 8) (some 8) 8 else w

/-- `virtusb_transfer_release`. -/
def transferRelease (t : TransferPtr) : World :=
  { w.objectPut (w.transfers t).device with freedTransfers := w.freedTransfers ++ [t] }

/-- `virtusb_transfer_get`. -/
def transferGet (t : TransferPtr) : World :=
  w.setTransfer t { w.transfers t with refcount := (w.transfers t).refcount + 1 }

/-- `virtusb_transfer_put`. -/
def transferPut (t : TransferPtr) : World :=
  let dropped := w.setTransfer t { w.transfers t with refcount := (w.transfers t).refcount - 1 }
  if (w.transfers t).refcount = 1 then dropped.transferRelease t else dropped

/-- The payload buffer of a new transfer: a fresh `kmalloc` of `length` bytes,
filled from `data` if the transfer goes out. -/
def transferBuffer (a : TransferArgs) (garbage : ℕ → Byte) : World × Option Buffer :=
  if a.length = 0 then (w, none)
  else if a.direction = .out then w.copy (some ⟨a.length, garbage⟩) a.data a.length
  else (w, some ⟨a.length, garbage⟩)

/-- `virtusb_transfer_create`; `none` is `NULL`. -/
def transferCreate (d : DevicePtr) (a : TransferArgs) (env : Env) : World × Option TransferPtr :=
  if !a.valid then (w, none)
  else if !env.transferAlloc then (w, none)
  else if 0 < a.length && !env.bufferAlloc then (w, none)
  else
    let filled := w.transferBuffer a env.garbage
    let t := filled.1.nextTransfer
    let id := filled.1.transferNextId + 1
    let held := (filled.1.objectGet d).copySetup a.setup
    ({ held.setTransfer t
          { refcount := 1, id := id, device := d, type := a.type, direction := a.direction
            state := .new, endpoint := a.endpoint, setup := a.setup, buffer := filled.2
            requestedLength := a.length, actualLength := 0
            status := Errno.EINPROGRESS.status } with
        nextTransfer := t + 1
        transferNextId := id }, some t)

/-- `virtusb_transfer_mark_queued`. -/
def transferMarkQueued (t : TransferPtr) : World × Except Errno Unit :=
  if (w.transfers t).state ≠ .new then (w, .error .EINVAL)
  else (w.setTransfer t { w.transfers t with state := .queued }, .ok ())

/-- `virtusb_transfer_complete`. -/
def transferComplete (t : TransferPtr) (status : ℤ) (actualLength : ℕ) :
    World × Except Errno Unit :=
  let x := w.transfers t
  if x.state ≠ .new ∧ x.state ≠ .queued then (w, .error .EINVAL)
  else if actualLength > x.requestedLength then (w, .error .EMSGSIZE)
  else
    (w.setTransfer t { x with actualLength := actualLength, status := status, state := .completed },
      .ok ())

/-- `virtusb_transfer_cancel`. -/
def transferCancel (t : TransferPtr) (status : ℤ) : World × Except Errno Unit :=
  let x := w.transfers t
  if x.state ≠ .new ∧ x.state ≠ .queued then (w, .error .EINVAL)
  else
    (w.setTransfer t { x with actualLength := 0, status := status, state := .cancelled }, .ok ())

end World

end VirtUsb
