/-
# Hubs

`kernel/src/virtusb_hub.c` and `kernel/src/virtusb_root_hub.c`.  A hub is named by
the host controller whose root hub it is.  Ports are numbered from 1, and port
`n` is `ports[n - 1]`.

The status-changed callback is `virtusb_hcd_root_hub_status_changed`, which asks
the USB core to poll the root hub; a call of it is put on record.
-/

import VirtUsb.Kernel.Port
import VirtUsb.Lib.Bitmap

namespace VirtUsb

/-- `VIRTUSB_MAX_HUB_PORTS` and `VIRTUSB_PORT_SPEED_BITS`. -/
def maxHubPorts : ℕ := 31
/-- The bits of a speed in the packed map of the hub. -/
def portSpeedBits : ℕ := 2

namespace PortSpeed

/-- The two-bit value of a speed. -/
def code : PortSpeed → BitVec 32
  | .none => 0
  | .low => 1
  | .full => 2
  | .high => 3

/-- The speed of a two-bit value; every one has a meaning. -/
def ofCode (value : BitVec 32) : PortSpeed :=
  if value = 1 then .low else if value = 2 then .full else if value = 3 then .high else .none

end PortSpeed

/-- `virtusb_hub_init`. -/
def hubInit (h : HcdId) (portCount : ℕ) : Except Errno Hub :=
  if portCount = 0 ∨ portCount > maxHubPorts then .error .EINVAL
  else
    match portInit .downstream portSpeedCapAll (.hub h) with
    | .error e => .error e
    | .ok port =>
        .ok
          { portCount := portCount, powerSwitchingMode := .individual, overCurrentMode := .perPort
            ports := fun index => if index < portCount then port else {} }

namespace Topology

variable (t : Topology) (h : HcdId)

/-- `virtusb_hub_notify_status_changed`. -/
def hubNotifyStatusChanged : Topology :=
  if (t.hubs h).statusChanged then { t with notified := t.notified ++ [h] } else t

/-- The topology with other protocol bits for the hub. -/
def setUsb (x : HubPortUsbState) : Topology := t.setHub h { t.hubs h with usb := x }

/-- The topology with other change bits for the hub. -/
def setUsbChange (x : HubPortUsbChange) : Topology := t.setHub h { t.hubs h with usbChange := x }

/-- `virtusb_hub_port_is_valid`. -/
def hubPortIsValid (n : ℕ) : Bool := 0 < n && n ≤ (t.hubs h).portCount

/-- `virtusb_hub_get_port` and `virtusb_hub_get_port_const`. -/
def hubGetPort (n : ℕ) : Option PortRef :=
  if !t.hubPortIsValid h n then none else some (.downstream h (n - 1))

/-- `virtusb_hub_find_port_number`. -/
def hubFindPortNumber (p : PortRef) : Except Errno ℕ :=
  match (List.range (t.hubs h).portCount).find? fun index => PortRef.downstream h index = p with
  | some index => .ok (index + 1)
  | none => .error .ENOENT

/-- `virtusb_hub_port_is_powered`. -/
def hubPortIsPowered (n : ℕ) : Bool :=
  match t.hubGetPort h n with
  | none => false
  | some p => (t.port p).downstream.powered

/-- `virtusb_hub_port_is_connected`. -/
def hubPortIsConnected (n : ℕ) : Bool :=
  match t.hubGetPort h n with
  | none => false
  | some p =>
      match (t.port p).peer with
      | none => false
      | some peer =>
          if (t.port peer).role ≠ .upstream then false
          else if !(t.port p).downstream.powered then false
          else (t.port peer).upstream.connectionSignaling

/-- `virtusb_hub_set_port_speed`. -/
def hubSetPortSpeed (n : ℕ) (speed : PortSpeed) : Topology :=
  let usb := (t.hubs h).usb
  t.setUsb h { usb with speed := Bitmap.packedSet usb.speed portSpeedBits n speed.code }

/-- `virtusb_hub_get_port_speed`. -/
def hubGetPortSpeed (n : ℕ) : PortSpeed :=
  if !t.hubPortIsValid h n then .none
  else .ofCode (Bitmap.packedGet (t.hubs h).usb.speed portSpeedBits n)

/-- The speed that the capability masks of two linked ports agree on: the highest
one in both. -/
def commonSpeed (downstream upstream : Byte) : PortSpeed :=
  let capabilities := downstream &&& upstream
  if capabilities &&& portSpeedCapHigh ≠ 0 then .high
  else if capabilities &&& portSpeedCapFull ≠ 0 then .full
  else if capabilities &&& portSpeedCapLow ≠ 0 then .low
  else .none

/-- `virtusb_hub_determine_port_speed`. -/
def hubDeterminePortSpeed (n : ℕ) : PortSpeed :=
  match t.hubGetPort h n with
  | none => .none
  | some p =>
      match (t.port p).peer with
      | none => .none
      | some peer =>
          if (t.port peer).role ≠ .upstream then .none
          else commonSpeed (t.port p).speed (t.port peer).speed

/-- The part of `virtusb_hub_mark_port_connection_change` that follows the loss of
a connection: enable, suspend, reset and speed of the port are cleared. -/
def hubClearPortState (n : ℕ) : Topology :=
  let usb := (t.hubs h).usb
  (t.setUsb h
    { usb with
      enabled := Bitmap.clear usb.enabled n
      suspended := Bitmap.clear usb.suspended n
      reset := Bitmap.clear usb.reset n }).hubSetPortSpeed h n .none

/-- `virtusb_hub_mark_port_connection_change`. -/
def hubMarkPortConnectionChange (n : ℕ) : Topology :=
  if !t.hubPortIsValid h n then t
  else
    let t₁ := if !t.hubPortIsConnected h n then t.hubClearPortState h n else t
    let change := (t₁.hubs h).usbChange
    if Bitmap.test change.connected n then t₁
    else
      (t₁.setUsbChange h { change with connected := Bitmap.set change.connected n }
        ).hubNotifyStatusChanged h

/-- `virtusb_hub_reset_port`. -/
def hubResetPort (n : ℕ) : Topology × Except Errno Unit :=
  if !t.hubPortIsValid h n then (t, .error .EINVAL)
  else if !t.hubPortIsConnected h n then (t, .error .ENODEV)
  else
    let speed := t.hubDeterminePortSpeed h n
    if speed = .none then (t, .error .EOPNOTSUPP)
    else
      let usb := (t.hubs h).usb
      let started := t.setUsb h
        { usb with
          enabled := Bitmap.clear usb.enabled n
          suspended := Bitmap.clear usb.suspended n
          reset := Bitmap.set usb.reset n }
      let assigned := started.hubSetPortSpeed h n speed
      let usb' := (assigned.hubs h).usb
      let finished := assigned.setUsb h
        { usb' with reset := Bitmap.clear usb'.reset n, enabled := Bitmap.set usb'.enabled n }
      let change := (finished.hubs h).usbChange
      if !Bitmap.test change.reset n then
        ((finished.setUsbChange h { change with reset := Bitmap.set change.reset n }
          ).hubNotifyStatusChanged h, .ok ())
      else (finished, .ok ())

/-- `virtusb_hub_set_status_changed_callback`. -/
def hubSetStatusChangedCallback (installed : Bool) : Topology :=
  t.setHub h { t.hubs h with statusChanged := installed }

/-- `virtusb_hub_set_power_switching_mode`. -/
def hubSetPowerSwitchingMode (mode : HubPowerSwitchingMode) : Topology :=
  t.setHub h { t.hubs h with powerSwitchingMode := mode }

/-- `virtusb_hub_set_over_current_mode`. -/
def hubSetOverCurrentMode (mode : HubOverCurrentMode) : Topology :=
  t.setHub h { t.hubs h with overCurrentMode := mode }

/-- What `virtusb_hub_set_port_power` and each pass of the loop of
`virtusb_hub_set_all_ports_power` do to port `n`: its power is switched, and a
change of its connection is reported. -/
def hubSwitchPortPower (n : ℕ) (powered : Bool) : Topology × Except Errno Unit :=
  let wasConnected := t.hubPortIsConnected h n
  match t.portSetPowered (.downstream h (n - 1)) powered with
  | (t₁, .error e) => (t₁, .error e)
  | (t₁, .ok ()) =>
      (if wasConnected ≠ t₁.hubPortIsConnected h n then t₁.hubMarkPortConnectionChange h n else t₁,
        .ok ())

/-- The passes of the loop of `virtusb_hub_set_all_ports_power` for `count` ports
from port `n` on. -/
def hubSwitchPortsPower (powered : Bool) : ℕ → ℕ → Topology → Topology × Except Errno Unit
  | 0, _, t => (t, .ok ())
  | count + 1, n, t =>
      match t.hubSwitchPortPower h n powered with
      | (t₁, .error e) => (t₁, .error e)
      | (t₁, .ok ()) => hubSwitchPortsPower powered count (n + 1) t₁

/-- `virtusb_hub_set_all_ports_power`. -/
def hubSetAllPortsPower (powered : Bool) : Topology × Except Errno Unit :=
  hubSwitchPortsPower h powered (t.hubs h).portCount 1 t

/-- `virtusb_hub_set_port_power`. -/
def hubSetPortPower (n : ℕ) (powered : Bool) : Topology × Except Errno Unit :=
  match t.hubGetPort h n with
  | none => (t, .error .EINVAL)
  | some _ =>
      if (t.hubs h).powerSwitchingMode = .ganged then t.hubSetAllPortsPower h powered
      else t.hubSwitchPortPower h n powered

/-- `virtusb_hub_set_port_over_current`. -/
def hubSetPortOverCurrent (n : ℕ) (overCurrent : Bool) : Topology × Except Errno Unit :=
  if (t.hubs h).overCurrentMode ≠ .perPort then (t, .error .EINVAL)
  else
    match t.hubGetPort h n with
    | none => (t, .error .EINVAL)
    | some p => t.portSetOverCurrent p overCurrent

/-- `virtusb_hub_port_is_over_current`. -/
def hubPortIsOverCurrent (n : ℕ) : Bool :=
  if (t.hubs h).overCurrentMode ≠ .perPort then false
  else
    match t.hubGetPort h n with
    | none => false
    | some p => (t.port p).downstream.overCurrent

/-- `virtusb_hub_set_over_current`. -/
def hubSetOverCurrent (overCurrent : Bool) : Topology :=
  if (t.hubs h).overCurrentMode ≠ .global then t
  else t.setHub h { t.hubs h with overCurrent := overCurrent }

/-- `virtusb_hub_is_over_current`. -/
def hubIsOverCurrent : Bool :=
  if (t.hubs h).overCurrentMode ≠ .global then false else (t.hubs h).overCurrent

end Topology

end VirtUsb
