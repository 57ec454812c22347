/-
# The port status in the library

`virtusb_get_port_status` of `libvirtusb/src/virtusb.c`, with the conversions
`virtusb_speed_from_uapi` and `virtusb_state_from_uapi`.
-/

import VirtUsb.Library.Transfer

namespace VirtUsb

namespace Library

/-- `enum virtusb_speed` of `virtusb.h`. -/
inductive Speed
  | none | low | full | high
  deriving DecidableEq, Repr

/-- `VIRTUSB_SPEED_NONE` and the constants after it. -/
def Speed.value : Speed → ℕ
  | .none => 0
  | .low => 1
  | .full => 2
  | .high => 3

/-- `struct virtusb_state`. -/
structure State where
  status : BitVec 32 := 0
  change : BitVec 32 := 0
  speed : Speed := .none
  deriving DecidableEq, Repr

/-- `struct virtusb_status`. -/
structure Status where
  hubId : BitVec 32
  port : BitVec 32
  portCount : ℕ
  state : State
  ports : List State
  deriving DecidableEq, Repr

/-- `VIRTUSB_MAX_PORTS`. -/
def maxPorts : ℕ := 31

/-- `virtusb_speed_from_uapi`. -/
def speedFromUapi (speed : BitVec 32) : Speed :=
  if speed = PortSpeed.low.code then .low
  else if speed = PortSpeed.full.code then .full
  else if speed = PortSpeed.high.code then .high
  else .none

/-- `virtusb_state_from_uapi`. -/
def stateFromUapi (source : ControlPortState) : State where
  status := source.status
  change := source.change
  speed := speedFromUapi source.speed.code

/-- What `virtusb_get_port_status` makes of the answer of the module: the array of states
is cleared, and filled if port 0 was asked for. -/
def Status.ofReply (hubId port : BitVec 32) (portCount : ℕ) (state : ControlPortState)
    (ports : List ControlPortState) : Status where
  hubId := hubId
  port := port
  portCount := portCount
  state := stateFromUapi state
  ports := (List.range maxPorts).map fun i =>
    if port = 0 ∧ i < portCount then stateFromUapi (ports.getD i {}) else {}

/-- `virtusb_get_port_status` for a caller that passes a place for the answer; `ioctl` says
what the module answers to a command on a file descriptor, with the request in memory. -/
def getPortStatus (handle : Option Handle)
    (ioctl : ℤ → BitVec 32 → UserMemory → Except Errno Reply) (hubId port : BitVec 32) :
    Except Error Status :=
  match handle with
  | none => .error .EINVAL
  | some handle =>
      if handle.fd < 0 then .error .EBADF
      else
        match ioctl handle.fd ioctlGetPortStatus (.ofWords [hubId.toNat, port.toNat]) with
        | .error e => .error (.errno e)
        | .ok (.portStatus portCount state ports) => .ok (.ofReply hubId port portCount state ports)
        | .ok _ => .ok (.ofReply hubId port 0 {} [])

/-- A speed keeps its number. -/
theorem speedFromUapi_value (speed : PortSpeed) :
    (speedFromUapi speed.code).value = speed.code.toNat := by
  cases speed <;> rfl

end Library

end VirtUsb
