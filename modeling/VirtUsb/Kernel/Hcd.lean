/-
# URBs

The part of `kernel/src/virtusb_hcd.c` that routes URBs: `virtusb_hcd_urb_enqueue`
and `virtusb_hcd_urb_dequeue`.  The pipe of a URB packs type, direction and endpoint
into one word, as `usb_pipetype`, `usb_pipein` and `usb_pipeendpoint` read it.

The root hub of a host controller is the parent of the devices at its ports, and
every `urb->dev` has a port number.  An upstream port belongs to a device.
-/

import VirtUsb.Kernel.Backend
import VirtUsb.Kernel.Device

namespace VirtUsb

/-- `PIPE_ISOCHRONOUS`, `PIPE_INTERRUPT`, `PIPE_CONTROL` and `PIPE_BULK`. -/
def pipeIsochronous : BitVec 32 := 0
/-- `PIPE_INTERRUPT`. -/
def pipeInterrupt : BitVec 32 := 1
/-- `PIPE_CONTROL`. -/
def pipeControl : BitVec 32 := 2
/-- `PIPE_BULK`. -/
def pipeBulk : BitVec 32 := 3

/-- `usb_pipetype`. -/
def usbPipetype (pipe : BitVec 32) : BitVec 32 := (pipe >>> 30) &&& 3

/-- `usb_pipein`, the test of `USB_DIR_IN`. -/
def usbPipein (pipe : BitVec 32) : Bool := pipe &&& 0x80 ≠ 0

/-- `usb_pipeendpoint`. -/
def usbPipeendpoint (pipe : BitVec 32) : BitVec 32 := (pipe >>> 15) &&& 0xf

/-- `virtusb_hcd_get_transfer_type`. -/
def hcdGetTransferType (pipe : BitVec 32) : Except Errno TransferType :=
  if usbPipetype pipe = pipeControl then .ok .control
  else if usbPipetype pipe = pipeIsochronous then .ok .isochronous
  else if usbPipetype pipe = pipeBulk then .ok .bulk
  else if usbPipetype pipe = pipeInterrupt then .ok .interrupt
  else .error .EINVAL

/-- The direction of a URB. -/
def Urb.direction (urb : Urb) : TransferDirection := if usbPipein urb.pipe then .in else .out

/-- What `virtusb_hcd_urb_enqueue` hands to `virtusb_transfer_create`. -/
def Urb.transferArgs (urb : Urb) (type : TransferType) : TransferArgs where
  type := type
  direction := urb.direction
  endpoint := (usbPipeendpoint urb.pipe).toNat
  setup := if type = .control then urb.setupPacket else none
  data :=
    if urb.direction = .out ∧ 0 < urb.transferBufferLength then urb.transferBuffer else none
  length := urb.transferBufferLength

/-- The checks of `virtusb_hcd_urb_enqueue` on a URB, in the order of the source. -/
def Urb.check (urb : Urb) : Except Errno TransferType :=
  match hcdGetTransferType urb.pipe with
  | .error e => .error e
  | .ok type =>
      if urb.numSgs ≠ 0 ∨ urb.numberOfPackets ≠ 0 then .error .EOPNOTSUPP
      else if type = .control ∧ urb.setupPacket.isNone then .error .EINVAL
      else if urb.direction = .out ∧ 0 < urb.transferBufferLength ∧ urb.transferBuffer.isNone then
        .error .EINVAL
      else .ok type

namespace World

variable (w : World) (h : HcdId)

/-- `virtusb_hcd_get_urb_device`. -/
def hcdGetUrbDevice (urb : Urb) : Option DevicePtr :=
  match urb.dev with
  | none => none
  | some dev =>
      if dev.parent ≠ some h then none
      else
        match w.topo.hubGetPort h dev.portnum with
        | none => none
        | some downstream =>
            match (w.topo.port downstream).peer with
            | none => none
            | some upstream =>
                if (w.topo.port upstream).role ≠ .upstream then none
                else
                  match (w.topo.port upstream).owner with
                  | some (.device d) => some d
                  | _ => none

/-- `virtusb_hcd_urb_enqueue`. -/
def hcdUrbEnqueue (u : UrbPtr) (env : Env) : World × Except Errno Unit :=
  let urb := w.urbs u
  match w.hcdGetUrbDevice h urb with
  | none => (w, .error .ENODEV)
  | some device =>
      match urb.check with
      | .error e => (w, .error e)
      | .ok type =>
          match w.transferCreate device (urb.transferArgs type) env with
          | (w₁, none) => (w₁, .error .ENOMEM)
          | (w₁, some t) =>
              if (w₁.transfers t).requestedLength > transferDataMax then
                (w₁.transferPut t, .error .EMSGSIZE)
              else
                let submitted := w₁.backendSubmit h u t env
                (submitted.1.transferPut t, submitted.2)

/-- `virtusb_hcd_urb_dequeue`. -/
def hcdUrbDequeue (u : UrbPtr) (status : ℤ) : World × Except Errno Unit :=
  w.backendCancel h u status

end World

end VirtUsb
