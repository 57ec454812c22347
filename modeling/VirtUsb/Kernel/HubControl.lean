/-
# Requests of the USB core to a root hub

The part of `kernel/src/virtusb_hcd.c` that answers hub-class requests:
`virtusb_hcd_hub_status_data` and `virtusb_hcd_hub_control`.  An answer is the
value returned and the bytes written to the buffer.
-/

import VirtUsb.Kernel.Hub

namespace VirtUsb

/-- `ClearHubFeature`, as `bmRequestType << 8 | bRequest` like the requests after it. -/
def clearHubFeature : ℕ := 0x2001
/-- `ClearPortFeature`. -/
def clearPortFeature : ℕ := 0x2301
/-- `GetHubDescriptor`. -/
def getHubDescriptor : ℕ := 0xa006
/-- `GetHubStatus`. -/
def getHubStatus : ℕ := 0xa000
/-- `GetPortStatus`. -/
def getPortStatus : ℕ := 0xa300
/-- `SetHubFeature`. -/
def setHubFeature : ℕ := 0x2003
/-- `SetPortFeature`. -/
def setPortFeature : ℕ := 0x2303

/-- `C_HUB_LOCAL_POWER`. -/
def cHubLocalPower : ℕ := 0
/-- `C_HUB_OVER_CURRENT`. -/
def cHubOverCurrent : ℕ := 1

/-- `USB_PORT_FEAT_ENABLE`. -/
def portFeatEnable : ℕ := 1
/-- `USB_PORT_FEAT_SUSPEND`. -/
def portFeatSuspend : ℕ := 2
/-- `USB_PORT_FEAT_RESET`. -/
def portFeatReset : ℕ := 4
/-- `USB_PORT_FEAT_POWER`. -/
def portFeatPower : ℕ := 8
/-- `USB_PORT_FEAT_C_CONNECTION`. -/
def portFeatCConnection : ℕ := 16
/-- `USB_PORT_FEAT_C_ENABLE`. -/
def portFeatCEnable : ℕ := 17
/-- `USB_PORT_FEAT_C_SUSPEND`. -/
def portFeatCSuspend : ℕ := 18
/-- `USB_PORT_FEAT_C_OVER_CURRENT`. -/
def portFeatCOverCurrent : ℕ := 19
/-- `USB_PORT_FEAT_C_RESET`. -/
def portFeatCReset : ℕ := 20

/-- `USB_PORT_STAT_CONNECTION`, in the status word of a port. -/
def portStatConnection : BitVec 16 := 0x0001
/-- `USB_PORT_STAT_ENABLE`. -/
def portStatEnable : BitVec 16 := 0x0002
/-- `USB_PORT_STAT_SUSPEND`. -/
def portStatSuspend : BitVec 16 := 0x0004
/-- `USB_PORT_STAT_OVERCURRENT`. -/
def portStatOverCurrent : BitVec 16 := 0x0008
/-- `USB_PORT_STAT_RESET`. -/
def portStatReset : BitVec 16 := 0x0010
/-- `USB_PORT_STAT_POWER`. -/
def portStatPower : BitVec 16 := 0x0100
/-- `USB_PORT_STAT_LOW_SPEED`. -/
def portStatLowSpeed : BitVec 16 := 0x0200
/-- `USB_PORT_STAT_HIGH_SPEED`. -/
def portStatHighSpeed : BitVec 16 := 0x0400
/-- `USB_PORT_STAT_C_CONNECTION`, in the change word of a port. -/
def portStatCConnection : BitVec 16 := 0x0001
/-- `USB_PORT_STAT_C_ENABLE`. -/
def portStatCEnable : BitVec 16 := 0x0002
/-- `USB_PORT_STAT_C_SUSPEND`. -/
def portStatCSuspend : BitVec 16 := 0x0004
/-- `USB_PORT_STAT_C_OVERCURRENT`. -/
def portStatCOverCurrent : BitVec 16 := 0x0008
/-- `USB_PORT_STAT_C_RESET`. -/
def portStatCReset : BitVec 16 := 0x0010

/-- `HUB_STATUS_OVERCURRENT`. -/
def hubStatusOverCurrent : BitVec 16 := 0x0002
/-- `HUB_CHANGE_OVERCURRENT`. -/
def hubChangeOverCurrent : BitVec 16 := 0x0002

/-- `HUB_CHAR_INDV_PORT_LPSM`, a flag of `wHubCharacteristics`. -/
def hubCharIndvPortLpsm : BitVec 16 := 0x0001
/-- `HUB_CHAR_INDV_PORT_OCPM`. -/
def hubCharIndvPortOcpm : BitVec 16 := 0x0008
/-- `HUB_CHAR_NO_OCPM`. -/
def hubCharNoOcpm : BitVec 16 := 0x0010
/-- `USB_DT_HUB`. -/
def usbDtHub : Byte := 0x29
/-- `USB_DT_HUB_NONVAR_SIZE`. -/
def usbDtHubNonvarSize : ℕ := 7

/-- `put_unaligned_le16`. -/
def le16 (v : BitVec 16) : List Byte := [v.setWidth 8, (v >>> 8).setWidth 8]

/-- A word with a flag, if the condition holds. -/
def flagIf (condition : Bool) (flag : BitVec 16) : BitVec 16 := if condition then flag else 0

/-- What a request that did not fail returns, and writes to its buffer. -/
structure HubReply where
  ret : ℕ := 0
  buf : List Byte := []
  deriving DecidableEq, Repr

namespace Topology

variable (t : Topology) (h : HcdId)

/-- `virtusb_hcd_port_change_mask`. -/
def hcdPortChangeMask : BitVec 32 :=
  let change := (t.hubs h).usbChange
  let changes := change.connected ||| change.enabled ||| change.suspended ||| change.reset |||
    change.overCurrent
  (changes &&& ~~~Bitmap.bit 32 0) ||| (change.overCurrent &&& Bitmap.bit 32 0)

/-- `virtusb_hcd_build_port_status`. -/
def hcdBuildPortStatus (n : ℕ) : BitVec 16 :=
  let usb := (t.hubs h).usb
  flagIf (t.hubPortIsConnected h n) portStatConnection |||
    flagIf (Bitmap.test usb.enabled n) portStatEnable |||
    flagIf (Bitmap.test usb.suspended n) portStatSuspend |||
    flagIf (t.hubPortIsOverCurrent h n) portStatOverCurrent |||
    flagIf (Bitmap.test usb.reset n) portStatReset |||
    flagIf (t.hubPortIsPowered h n) portStatPower |||
    match t.hubGetPortSpeed h n with
    | .low => portStatLowSpeed
    | .high => portStatHighSpeed
    | .none => 0
    | .full => 0

/-- `virtusb_hcd_build_port_change`. -/
def hcdBuildPortChange (n : ℕ) : BitVec 16 :=
  let change := (t.hubs h).usbChange
  flagIf (Bitmap.test change.connected n) portStatCConnection |||
    flagIf (Bitmap.test change.enabled n) portStatCEnable |||
    flagIf (Bitmap.test change.suspended n) portStatCSuspend |||
    flagIf (Bitmap.test change.overCurrent n) portStatCOverCurrent |||
    flagIf (Bitmap.test change.reset n) portStatCReset

/-- The bytes of a bitmap with one bit for the hub and for each port. -/
def hubBitmapBytes : ℕ := ((t.hubs h).portCount + 8) / 8

/-- `virtusb_hcd_hub_status_data`. -/
def hcdHubStatusData : HubReply :=
  let changes := t.hcdPortChangeMask h
  if changes = 0 then {}
  else
    let byteCount := t.hubBitmapBytes h
    { ret := byteCount
      buf := (List.range byteCount).map fun i => (changes >>> (i * 8)).setWidth 8 }

/-- `virtusb_hcd_get_hub_descriptor`. -/
def hcdGetHubDescriptor : HubReply :=
  let hub := t.hubs h
  let bitmapBytes := t.hubBitmapBytes h
  let descriptorLength := usbDtHubNonvarSize + 2 * bitmapBytes
  let characteristics := flagIf (hub.powerSwitchingMode = .individual) hubCharIndvPortLpsm |||
    match hub.overCurrentMode with
    | .perPort => hubCharIndvPortOcpm
    | .none => hubCharNoOcpm
    | .global => 0
  { ret := descriptorLength
    buf := [BitVec.ofNat 8 descriptorLength, usbDtHub, BitVec.ofNat 8 hub.portCount] ++
      le16 characteristics ++ [0, 0] ++ List.replicate bitmapBytes 0 ++
      List.replicate bitmapBytes 0xff }

/-- `virtusb_hcd_get_hub_status`. -/
def hcdGetHubStatus : HubReply :=
  { buf := le16 (flagIf (t.hubIsOverCurrent h) hubStatusOverCurrent) ++
      le16 (flagIf (Bitmap.test (t.hubs h).usbChange.overCurrent 0) hubChangeOverCurrent) }

/-- `virtusb_hcd_get_port_status`. -/
def hcdGetPortStatus (n : ℕ) : Except Errno HubReply :=
  if !t.hubPortIsValid h n then .error .EPIPE
  else .ok { buf := le16 (t.hcdBuildPortStatus h n) ++ le16 (t.hcdBuildPortChange h n) }

/-- `virtusb_hcd_clear_port_feature`. -/
def hcdClearPortFeature (n feature : ℕ) : Topology × Except Errno Unit :=
  let usb := (t.hubs h).usb
  let change := (t.hubs h).usbChange
  if !t.hubPortIsValid h n then (t, .error .EPIPE)
  else if feature = portFeatEnable then
    (t.setUsb h { usb with enabled := Bitmap.clear usb.enabled n }, .ok ())
  else if feature = portFeatSuspend then
    (t.setUsb h { usb with suspended := Bitmap.clear usb.suspended n }, .ok ())
  else if feature = portFeatPower then t.hubSetPortPower h n false
  else if feature = portFeatCConnection then
    (t.setUsbChange h { change with connected := Bitmap.clear change.connected n }, .ok ())
  else if feature = portFeatCEnable then
    (t.setUsbChange h { change with enabled := Bitmap.clear change.enabled n }, .ok ())
  else if feature = portFeatCSuspend then
    (t.setUsbChange h { change with suspended := Bitmap.clear change.suspended n }, .ok ())
  else if feature = portFeatCOverCurrent then
    (t.setUsbChange h { change with overCurrent := Bitmap.clear change.overCurrent n }, .ok ())
  else if feature = portFeatCReset then
    (t.setUsbChange h { change with reset := Bitmap.clear change.reset n }, .ok ())
  else (t, .error .EPIPE)

/-- `virtusb_hcd_set_port_feature`. -/
def hcdSetPortFeature (n feature : ℕ) : Topology × Except Errno Unit :=
  let usb := (t.hubs h).usb
  if !t.hubPortIsValid h n then (t, .error .EPIPE)
  else if feature = portFeatSuspend then
    (t.setUsb h { usb with suspended := Bitmap.set usb.suspended n }, .ok ())
  else if feature = portFeatPower then t.hubSetPortPower h n true
  else if feature = portFeatReset then t.hubResetPort h n
  else (t, .error .EPIPE)

/-- The answer to a request that writes nothing. -/
def hubReply : Topology × Except Errno Unit → Topology × Except Errno HubReply
  | (t, .error e) => (t, .error e)
  | (t, .ok ()) => (t, .ok {})

/-- `virtusb_hcd_hub_control`. -/
def hcdHubControl (typeReq value index : ℕ) : Topology × Except Errno HubReply :=
  let n := index % 256
  if typeReq = clearHubFeature then
    if value = cHubLocalPower then (t, .ok {})
    else if value = cHubOverCurrent then
      let change := (t.hubs h).usbChange
      (t.setUsbChange h { change with overCurrent := Bitmap.clear change.overCurrent 0 }, .ok {})
    else (t, .error .EPIPE)
  else if typeReq = clearPortFeature then hubReply (t.hcdClearPortFeature h n value)
  else if typeReq = getHubDescriptor then (t, .ok (t.hcdGetHubDescriptor h))
  else if typeReq = getHubStatus then (t, .ok (t.hcdGetHubStatus h))
  else if typeReq = getPortStatus then (t, t.hcdGetPortStatus h n)
  else if typeReq = setHubFeature then (t, .error .EPIPE)
  else if typeReq = setPortFeature then hubReply (t.hcdSetPortFeature h n value)
  else (t, .error .EPIPE)

end Topology

end VirtUsb
