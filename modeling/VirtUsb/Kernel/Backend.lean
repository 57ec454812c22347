/-
# The transfer backend of a host controller

`kernel/src/virtusb_backend.c`.  Every function of the file is cut at its
`spin_lock_irqsave` / `spin_unlock_irqrestore` pairs: `...Locked` is what runs
under the lock, in one atomic step, and `...Tail` what the same thread does
afterwards.  The whole functions compose these parts for a caller that runs
undisturbed; a machine of threads runs the parts in any interleaving.

`list_for_each_entry` with a `break` is `List.find?`, and `list_del_init` of the
entry it found is `List.erase`, which removes the same, first entry.
-/

import VirtUsb.Kernel.Transfer

namespace VirtUsb

/-- `VIRTUSB_TRANSFER_DATA_MAX`, the size of the payload of a message. -/
def transferDataMax : ℕ := 4096

namespace Backend

variable (b : Backend)

/-- `virtusb_backend_find_owner_locked`. -/
def findOwnerLocked (owner : FilePtr) : Option Binding :=
  b.bindings.find? fun binding => binding.owner = owner

/-- `virtusb_backend_find_device_locked`. -/
def findDeviceLocked (device : DevicePtr) : Option Binding :=
  b.bindings.find? fun binding => binding.device = device

/-- `virtusb_backend_find_urb_locked`. -/
def findUrbLocked (urb : UrbPtr) : Option Request :=
  (b.pending.find? fun request => request.urb = urb).or
    (b.active.find? fun request => request.urb = urb)

/-- `list_del_init` of a request that is in one of the two lists. -/
def listDel (request : Request) : Backend :=
  if request ∈ b.pending then { b with pending := b.pending.erase request }
  else { b with active := b.active.erase request }

end Backend

namespace World

variable (w : World) (h : HcdId)

/-- The world with another backend for the host controller. -/
def setBackend (b : Backend) : World :=
  { w with backends := Function.update w.backends h b }

/-- The world with another record for the URB. -/
def setUrb (u : UrbPtr) (x : Urb) : World :=
  { w with urbs := Function.update w.urbs u x }

/-! ### The USB core -/

/-- `usb_hcd_link_urb_to_ep`, which may fail for reasons of its own. -/
def usbHcdLinkUrbToEp (u : UrbPtr) : Except Errno Unit → World × Except Errno Unit
  | .error e => (w, .error e)
  | .ok () => (w.setUrb u { w.urbs u with linked := true, unlinked := false }, .ok ())

/-- `usb_hcd_check_unlink_urb`. -/
def usbHcdCheckUnlinkUrb (u : UrbPtr) : World × Except Errno Unit :=
  if !(w.urbs u).linked then (w, .error .EIDRM)
  else if (w.urbs u).unlinked then (w, .error .EBUSY)
  else (w.setUrb u { w.urbs u with unlinked := true }, .ok ())

/-- `usb_hcd_unlink_urb_from_ep`. -/
def usbHcdUnlinkUrbFromEp (u : UrbPtr) : World :=
  w.setUrb u { w.urbs u with linked := false }

/-- `usb_hcd_giveback_urb`. -/
def usbHcdGivebackUrb (u : UrbPtr) (status : ℤ) : World :=
  { w with givebacks := w.givebacks ++ [⟨u, status⟩] }

/-! ### Requests -/

/-- `request->transfer->device`. -/
def requestDevice (request : Request) : DevicePtr :=
  (w.transfers request.transfer).device

/-- `virtusb_backend_find_id_locked`. -/
def findIdLocked (owner : FilePtr) (transferId : BitVec 64) : Option Request :=
  (w.backends h).active.find? fun request =>
    request.owner = some owner ∧ (w.transfers request.transfer).id = transferId

/-- `virtusb_backend_find_pending_device_locked`. -/
def findPendingDeviceLocked (device : DevicePtr) : Option Request :=
  (w.backends h).pending.find? fun request => w.requestDevice request = device

/-- `virtusb_backend_release_request`. -/
def backendReleaseRequest (request : Request) : World :=
  w.transferPut request.transfer

/-- `virtusb_backend_giveback`. -/
def backendGiveback (request : Request) (status : ℤ) : World :=
  (w.usbHcdGivebackUrb request.urb status).backendReleaseRequest request

/-! ### `virtusb_backend_register` -/

/-- `virtusb_backend_register` before its lock: the allocation, and the reference for the binding.
-/
def registerPrepare (device : DevicePtr) (env : Env) : World × Except Errno Unit :=
  if !env.bindingAlloc then (w, .error .ENOMEM) else (w.objectGet device, .ok ())

/-- `virtusb_backend_register` under its lock: neither the file nor the device may be bound. -/
def registerLocked (owner : FilePtr) (device : DevicePtr) : World × Except Errno Unit :=
  let b := w.backends h
  if b.stopping then (w, .error .ESHUTDOWN)
  else if (b.findOwnerLocked owner).isSome || (b.findDeviceLocked device).isSome then
    (w, .error .EBUSY)
  else (w.setBackend h { b with bindings := b.bindings ++ [⟨device, owner⟩] }, .ok ())

/-- `virtusb_backend_register`. -/
def backendRegister (owner : FilePtr) (device : DevicePtr) (env : Env) :
    World × Except Errno Unit :=
  match w.registerPrepare device env with
  | (w₁, .error e) => (w₁, .error e)
  | (w₁, .ok ()) =>
      match w₁.registerLocked h owner device with
      | (w₂, .error e) => (w₂.objectPut device, .error e)
      | (w₂, .ok ()) => (w₂, .ok ())

/-! ### `virtusb_backend_submit` -/

/-- The checks, the allocation of the request and `virtusb_transfer_mark_queued`. -/
def submitPrepare (t : TransferPtr) (env : Env) : World × Except Errno Unit :=
  if (w.transfers t).requestedLength > transferDataMax then (w, .error .EMSGSIZE)
  else if !env.requestAlloc then (w, .error .ENOMEM)
  else
    match (w.transferGet t).transferMarkQueued t with
    | (w', .error e) => (w'.transferPut t, .error e)
    | (w', .ok ()) => (w', .ok ())

/-- `virtusb_backend_submit` under its lock: the device has a binding, and the USB core links the
URB. -/
def submitLocked (u : UrbPtr) (t : TransferPtr) (link : Except Errno Unit) :
    World × Except Errno Unit :=
  let b := w.backends h
  if b.stopping then (w, .error .ESHUTDOWN)
  else if (b.findDeviceLocked (w.transfers t).device).isNone then (w, .error .ENODEV)
  else
    match w.usbHcdLinkUrbToEp u link with
    | (w', .error e) => (w', .error e)
    | (w', .ok ()) =>
        (w'.setBackend h { b with pending := b.pending ++ [{ urb := u, transfer := t }] }, .ok ())

/-- What `virtusb_backend_submit` does with a request it could not queue. -/
def submitFailed (t : TransferPtr) (e : Errno) : World :=
  (w.transferCancel t e.status).1.transferPut t

/-- `virtusb_backend_submit`. -/
def backendSubmit (u : UrbPtr) (t : TransferPtr) (env : Env) : World × Except Errno Unit :=
  match w.submitPrepare t env with
  | (w₁, .error e) => (w₁, .error e)
  | (w₁, .ok ()) =>
      match w₁.submitLocked h u t env.link with
      | (w₂, .error e) => (w₂.submitFailed t e, .error e)
      | (w₂, .ok ()) => (w₂, .ok ())

/-! ### `virtusb_backend_cancel` -/

/-- `virtusb_backend_cancel` under its lock: the USB core allows the unlink, and the request leaves
its list. -/
def cancelLocked (u : UrbPtr) : World × Except Errno Request :=
  match w.usbHcdCheckUnlinkUrb u with
  | (w', .error e) => (w', .error e)
  | (w', .ok ()) =>
      match (w'.backends h).findUrbLocked u with
      | none => (w', .error .EIDRM)
      | some request =>
          ((w'.setBackend h ((w'.backends h).listDel request)).usbHcdUnlinkUrbFromEp u,
            .ok request)

/-- `virtusb_backend_cancel` after its lock. -/
def cancelTail (request : Request) (status : ℤ) : World :=
  (w.transferCancel request.transfer status).1.backendGiveback request status

/-- `virtusb_backend_cancel`. -/
def backendCancel (u : UrbPtr) (status : ℤ) : World × Except Errno Unit :=
  match w.cancelLocked h u with
  | (w', .error e) => (w', .error e)
  | (w', .ok request) => (w'.cancelTail request status, .ok ())

/-! ### `virtusb_backend_fetch` -/

/-- `virtusb_backend_pending_for_owner_or_stopping`. -/
def pendingForOwnerOrStopping (owner : FilePtr) : Bool :=
  (w.backends h).stopping ||
    match (w.backends h).findOwnerLocked owner with
    | none => false
    | some binding => (w.findPendingDeviceLocked h binding.device).isSome

/-- How one pass of the loop of `virtusb_backend_fetch` leaves the lock: with a
request that was pending, with an error, or with nothing to do. -/
inductive FetchPass
  | taken (request : Request)
  | failed (e : Errno)
  | empty
  deriving DecidableEq, Repr

/-- A pass of the loop of `virtusb_backend_fetch` under its lock. -/
def fetchLocked (owner : FilePtr) : World × FetchPass :=
  let b := w.backends h
  match b.findOwnerLocked owner with
  | none => (w, .failed .ENODEV)
  | some binding =>
      match w.findPendingDeviceLocked h binding.device with
      | some request =>
          ((w.setBackend h
              { b with
                pending := b.pending.erase request
                active := b.active ++ [{ request with owner := some owner }] }).transferGet
              request.transfer, .taken request)
      | none => if b.stopping then (w, .failed .ESHUTDOWN) else (w, .empty)

/-- The message for a fetched transfer, before its payload. -/
def fetchHeader (t : TransferPtr) : TransferFetch :=
  let x := w.transfers t
  { transferId := x.id
    objectId := (w.objects x.device).id
    type := match x.type with | .control => 0 | .isochronous => 1 | .bulk => 2 | .interrupt => 3
    direction := match x.direction with | .out => 0 | .in => 1
    endpoint := x.endpoint
    requestedLength := x.requestedLength
    hasSetup := if x.setup.isSome then 1 else 0
    setup := x.setup.getD (Vector.replicate 8 0) }

/-- The message is filled in, and the reference taken under the lock dropped. -/
def fetchTail (t : TransferPtr) : World × TransferFetch :=
  let x := w.transfers t
  let header := w.fetchHeader t
  let w₁ := w.copySetup x.setup
  if x.direction = .out ∧ 0 < x.requestedLength then
    let filled := w₁.copy (some ⟨transferDataMax, header.data⟩) x.buffer x.requestedLength
    (filled.1.transferPut t,
      { header with
        data := (filled.2.map (·.bytes)).getD header.data
        dataLength := x.requestedLength })
  else (w₁.transferPut t, header)

/-- `virtusb_backend_fetch` for a caller that runs undisturbed: nothing wakes a
wait of its own, so a blocking call that finds nothing ends by a signal. -/
def backendFetch (owner : FilePtr) (nonblock : Bool) : World × Except Errno TransferFetch :=
  match w.fetchLocked h owner with
  | (w', .failed e) => (w', .error e)
  | (w', .empty) => (w', .error (if nonblock then .EAGAIN else .ERESTARTSYS))
  | (w', .taken request) =>
      ((w'.fetchTail request.transfer).1, .ok (w'.fetchTail request.transfer).2)

/-! ### `virtusb_backend_fetch_rollback` -/

/-- The lookup of `virtusb_backend_fetch_rollback`, and the move of what it finds
to the head of the pending list. -/
def rollbackLocked (owner : FilePtr) (transferId : BitVec 64) : World × Except Errno Request :=
  let b := w.backends h
  match w.findIdLocked h owner transferId with
  | none => (w, .error .ENOENT)
  | some request =>
      (w.setBackend h
        { b with
          active := b.active.erase request
          pending := { request with owner := none } :: b.pending }, .ok request)

/-- `virtusb_backend_fetch_rollback`. -/
def backendFetchRollback (owner : FilePtr) (transferId : BitVec 64) : World × Except Errno Unit :=
  if transferId = 0 then (w, .error .EINVAL)
  else
    match w.rollbackLocked h owner transferId with
    | (w', .error e) => (w', .error e)
    | (w', .ok _) => (w', .ok ())

/-! ### `virtusb_backend_complete` -/

/-- `virtusb_backend_complete` under its lock: the request leaves the active ones, and its URB the
endpoint. -/
def completeLocked (owner : FilePtr) (transferId : BitVec 64) : World × Except Errno Request :=
  let b := w.backends h
  match w.findIdLocked h owner transferId with
  | none => (w, .error .ENOENT)
  | some request =>
      ((w.setBackend h { b with active := b.active.erase request }).usbHcdUnlinkUrbFromEp
        request.urb, .ok request)

/-- The two copies of IN data: from the message to the transfer buffer, and from
there to the buffer of the URB. -/
def completeCopy (request : Request) (data : ℕ → Byte) (actualLength : ℕ) : World :=
  let x := w.transfers request.transfer
  if x.direction = .in ∧ 0 < actualLength then
    let first := w.copy x.buffer (some ⟨transferDataMax, data⟩) actualLength
    let w₁ := first.1.setTransfer request.transfer { x with buffer := first.2 }
    let urb := w₁.urbs request.urb
    let second := w₁.copy urb.transferBuffer first.2 actualLength
    second.1.setUrb request.urb { urb with transferBuffer := second.2 }
  else w

/-- `virtusb_backend_complete` after its lock: a completion that is too long ends the transfer with
`-EMSGSIZE`. -/
def completeTail (request : Request) (completion : TransferCompleteRequest) :
    World × Except Errno Unit :=
  let t := request.transfer
  let actualLength := completion.actualLength
  if actualLength > (w.transfers t).requestedLength ∨ actualLength > transferDataMax then
    ((w.transferCancel t Errno.EMSGSIZE.status).1.backendGiveback request Errno.EMSGSIZE.status,
      .error .EMSGSIZE)
  else
    let copied := w.completeCopy request completion.data actualLength
    match copied.transferComplete t completion.status actualLength with
    | (w₁, .error e) =>
        ((w₁.transferCancel t e.status).1.backendGiveback request e.status, .error e)
    | (w₁, .ok ()) =>
        ((w₁.setUrb request.urb
            { w₁.urbs request.urb with actualLength := actualLength }).backendGiveback request
            completion.status, .ok ())

/-- `virtusb_backend_complete`. -/
def backendComplete (owner : FilePtr) (completion : TransferCompleteRequest) :
    World × Except Errno Unit :=
  if completion.transferId = 0 then (w, .error .EINVAL)
  else
    match w.completeLocked h owner completion.transferId with
    | (w', .error e) => (w', .error e)
    | (w', .ok request) => w'.completeTail request completion

/-! ### `virtusb_backend_release_owner` -/

/-- The first section: the binding of the file is removed. -/
def releaseUnbindLocked (owner : FilePtr) : World × Option Binding :=
  let b := w.backends h
  match b.findOwnerLocked owner with
  | none => (w, none)
  | some binding =>
      (w.setBackend h { b with bindings := b.bindings.erase binding }, some binding)

/-- The request a pass of the drain picks. -/
def releasePick (owner : FilePtr) (device : DevicePtr) : Option Request :=
  (w.findPendingDeviceLocked h device).or
    ((w.backends h).active.find? fun candidate =>
      w.requestDevice candidate = device ∧ candidate.owner = some owner)

/-- A pass of the drain of `virtusb_backend_release_owner` under the lock. -/
def releaseDrainLocked (owner : FilePtr) (device : DevicePtr) : World × Option Request :=
  match w.releasePick h owner device with
  | none => (w, none)
  | some request =>
      ((w.setBackend h ((w.backends h).listDel request)).usbHcdUnlinkUrbFromEp request.urb,
        some request)

/-- The rest of a pass of a drain, in `virtusb_backend_release_owner` and in
`virtusb_backend_stop`. -/
def drainTail (request : Request) : World :=
  (w.transferCancel request.transfer Errno.ESHUTDOWN.status).1.backendGiveback request
    Errno.ESHUTDOWN.status

/-- `fuel` passes of a drain loop at most: `take` is the part under the lock. -/
def drain (take : World → World × Option Request) : ℕ → World → World
  | 0, w => w
  | fuel + 1, w =>
      match take w with
      | (w', none) => w'
      | (w', some request) => drain take fuel (w'.drainTail request)

/-- The passes a drain loop can make: one for each request, and one that finds
nothing. -/
def drainFuel : ℕ := (w.backends h).pending.length + (w.backends h).active.length + 1

/-- `virtusb_backend_release_owner` for a caller that runs undisturbed. -/
def backendReleaseOwner (owner : FilePtr) : World :=
  match w.releaseUnbindLocked h owner with
  | (w', none) => w'
  | (w', some binding) =>
      (drain (fun v => v.releaseDrainLocked h owner binding.device) (w'.drainFuel h) w').objectPut
        binding.device

/-! ### `virtusb_backend_stop` -/

/-- The first section: the flag is set. -/
def stopSetLocked : World :=
  w.setBackend h { w.backends h with stopping := true }

/-- A pass of the first loop under the lock. -/
def stopDrainLocked : World × Option Request :=
  let b := w.backends h
  match b.pending, b.active with
  | request :: rest, _ =>
      ((w.setBackend h { b with pending := rest }).usbHcdUnlinkUrbFromEp request.urb, some request)
  | [], request :: rest =>
      ((w.setBackend h { b with active := rest }).usbHcdUnlinkUrbFromEp request.urb, some request)
  | [], [] => (w, none)

/-- A pass of the second loop under the lock. -/
def stopUnbindLocked : World × Option Binding :=
  let b := w.backends h
  match b.bindings with
  | binding :: rest => (w.setBackend h { b with bindings := rest }, some binding)
  | [] => (w, none)

/-- `fuel` passes of the second loop at most. -/
def stopUnbind : ℕ → World → World
  | 0, w => w
  | fuel + 1, w =>
      match w.stopUnbindLocked h with
      | (w', none) => w'
      | (w', some binding) => stopUnbind fuel (w'.objectPut binding.device)

/-- `virtusb_backend_stop` for a caller that runs undisturbed. -/
def backendStop : World :=
  let flagged := w.stopSetLocked h
  let drained := drain (fun v => v.stopDrainLocked h) (flagged.drainFuel h) flagged
  stopUnbind h ((drained.backends h).bindings.length + 1) drained

end World

end VirtUsb
