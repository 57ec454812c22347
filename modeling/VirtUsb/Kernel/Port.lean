/-
# Ports

`kernel/src/virtusb_port.c`.  Peers refer to each other by name, so an attachment
is two entries of the topology.  No caller passes `NULL` for a port or an owner,
and the checks for it are left out.
-/

import VirtUsb.Kernel.State
import Mathlib.Logic.Function.Basic

namespace VirtUsb

/-- `VIRTUSB_PORT_SPEED_CAP_LOW`, `_FULL`, `_HIGH` and `_ALL`. -/
def portSpeedCapLow : Byte := 1
/-- Full speed, 12 Mbit/s. -/
def portSpeedCapFull : Byte := 2
/-- High speed, 480 Mbit/s. -/
def portSpeedCapHigh : Byte := 4
/-- Every speed of USB 2.0. -/
def portSpeedCapAll : Byte := portSpeedCapLow ||| portSpeedCapFull ||| portSpeedCapHigh

/-- `virtusb_port_speed_is_valid`. -/
def portSpeedIsValid (speed : Byte) : Bool :=
  if speed = 0 then false else speed &&& ~~~portSpeedCapAll = 0

/-- `virtusb_port_init`. -/
def portInit (role : PortRole) (speed : Byte) (owner : PortOwner) : Except Errno Port :=
  if role ≠ .upstream ∧ role ≠ .downstream then .error .EINVAL
  else if !portSpeedIsValid speed then .error .EINVAL
  else .ok { role := role, owner := some owner, speed := speed }

namespace Topology

variable (t : Topology)

/-- The topology with another record for the hub. -/
def setHub (h : HcdId) (x : Hub) : Topology := { t with hubs := Function.update t.hubs h x }

/-- The port a pointer points to. -/
def port : PortRef → Port
  | .downstream h index => (t.hubs h).ports index
  | .upstream d => t.upstream d

/-- The topology with another record for the port. -/
def setPort (p : PortRef) (x : Port) : Topology :=
  match p with
  | .downstream h index =>
      t.setHub h { t.hubs h with ports := Function.update (t.hubs h).ports index x }
  | .upstream d => { t with upstream := Function.update t.upstream d x }

/-- `virtusb_port_attach`. -/
def portAttach (downstream upstream : PortRef) : Topology × Except Errno Unit :=
  if (t.port downstream).role ≠ .downstream ∨ (t.port upstream).role ≠ .upstream then
    (t, .error .EINVAL)
  else if (t.port downstream).peer.isSome ∨ (t.port upstream).peer.isSome then (t, .error .EBUSY)
  else
    let t₁ := t.setPort downstream { t.port downstream with peer := some upstream }
    (t₁.setPort upstream { t₁.port upstream with peer := some downstream }, .ok ())

/-- `virtusb_port_detach`. -/
def portDetach (p : PortRef) : Topology :=
  match (t.port p).peer with
  | none => t
  | some peer =>
      let t₁ := t.setPort p { t.port p with peer := none }
      if (t₁.port peer).peer = some p then t₁.setPort peer { t₁.port peer with peer := none } else t₁

/-- `virtusb_port_set_connection_signaling`. -/
def portSetConnectionSignaling (p : PortRef) (enabled : Bool) : Topology × Except Errno Unit :=
  if (t.port p).role ≠ .upstream then (t, .error .EINVAL)
  else (t.setPort p { t.port p with upstream := { connectionSignaling := enabled } }, .ok ())

/-- `virtusb_port_set_powered`. -/
def portSetPowered (p : PortRef) (powered : Bool) : Topology × Except Errno Unit :=
  if (t.port p).role ≠ .downstream then (t, .error .EINVAL)
  else
    (t.setPort p
      { t.port p with downstream := { (t.port p).downstream with powered := powered } }, .ok ())

/-- `virtusb_port_set_over_current`. -/
def portSetOverCurrent (p : PortRef) (overCurrent : Bool) : Topology × Except Errno Unit :=
  if (t.port p).role ≠ .downstream then (t, .error .EINVAL)
  else
    (t.setPort p
      { t.port p with downstream := { (t.port p).downstream with overCurrent := overCurrent } },
      .ok ())

end Topology

end VirtUsb
