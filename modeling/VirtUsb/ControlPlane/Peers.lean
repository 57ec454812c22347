/-
# Who is plugged into what

The peers of all ports, as one function (`Topology.peers`).  Only an attachment and a
detachment change it; power, signaling, over-current and the requests of the USB core
leave it alone.
-/

import VirtUsb.Kernel.HubControl
import VirtUsb.ControlPlane.Wiring
import Mathlib.Tactic.Set

namespace VirtUsb

namespace Topology

/-- The peer of every port. -/
def peers (t : Topology) (p : PortRef) : Option PortRef := (t.port p).peer

variable {t t' : Topology} {h : HcdId} {n : ℕ} {d : DevicePtr}

/-- Who is attached to whom follows from the wiring. -/
theorem peers_of_wiring (hw : t'.wiring = t.wiring) : t'.peers = t.peers :=
  funext fun p => congrArg Port.peer (port_congr hw p)

/-- A write to a port changes the peer of that port. -/
theorem peers_setPort (t : Topology) (p : PortRef) (x : Port) :
    (t.setPort p x).peers = Function.update t.peers p x.peer := by
  funext q
  rcases eq_or_ne q p with rfl | hne
  · simp [peers]
  · simp [peers, hne, port_setPort_of_ne t x hne]

/-- A port is written back with the same peer. -/
theorem peers_setPort_self (t : Topology) {p : PortRef} {x : Port} (hx : x.peer = (t.port p).peer) :
    (t.setPort p x).peers = t.peers := by
  rw [peers_setPort, hx]
  exact Function.update_eq_self p t.peers

/-- A write to a hub that keeps its ports keeps the peers. -/
theorem peers_setHub {x : Hub} (hports : x.ports = (t.hubs h).ports) :
    (t.setHub h x).peers = t.peers := by
  funext p
  cases p with
  | upstream d => rfl
  | downstream h' i =>
      rcases eq_or_ne h' h with rfl | hne
      · simp [peers, port, setHub, hports]
      · simp [peers, port, setHub, hne]

/-! ### What leaves the peers alone -/

/-- `virtusb_port_set_connection_signaling` attaches nothing. -/
@[simp]
theorem peers_portSetConnectionSignaling (p : PortRef) (enabled : Bool) :
    (t.portSetConnectionSignaling p enabled).1.peers = t.peers := by
  rw [portSetConnectionSignaling]
  split
  · rfl
  · exact peers_setPort_self t rfl

/-- `virtusb_port_set_powered` attaches nothing. -/
@[simp]
theorem peers_portSetPowered (p : PortRef) (powered : Bool) :
    (t.portSetPowered p powered).1.peers = t.peers := by
  rw [portSetPowered]
  split
  · rfl
  · exact peers_setPort_self t rfl

/-- `virtusb_port_set_over_current` attaches nothing. -/
@[simp]
theorem peers_portSetOverCurrent (p : PortRef) (overCurrent : Bool) :
    (t.portSetOverCurrent p overCurrent).1.peers = t.peers := by
  rw [portSetOverCurrent]
  split
  · rfl
  · exact peers_setPort_self t rfl

/-- A connection change attaches nothing. -/
@[simp]
theorem peers_hubMarkPortConnectionChange (t : Topology) (h : HcdId) (n : ℕ) :
    (t.hubMarkPortConnectionChange h n).peers = t.peers :=
  peers_of_wiring (wiring_hubMarkPortConnectionChange n)

/-- `virtusb_device_set_connection_signaling` attaches nothing. -/
@[simp]
theorem peers_deviceSetConnectionSignaling (enabled : Bool) :
    (t.deviceSetConnectionSignaling d enabled).1.peers = t.peers := by
  have hset := peers_portSetConnectionSignaling (t := t) (.upstream d) enabled
  rw [deviceSetConnectionSignaling]
  split
  · exact hset
  dsimp only
  split
  · rename_i hs
    rwa [hs] at hset
  · rename_i hs
    rw [hs] at hset
    dsimp only
    split
    · rw [peers_hubMarkPortConnectionChange, hset]
    · exact hset

/-- Switching one port attaches nothing. -/
@[simp]
theorem peers_hubSwitchPortPower (powered : Bool) :
    (t.hubSwitchPortPower h n powered).1.peers = t.peers := by
  have hset := peers_portSetPowered (t := t) (.downstream h (n - 1)) powered
  rw [hubSwitchPortPower]
  split
  · rename_i hs
    rwa [hs] at hset
  · rename_i hs
    rw [hs] at hset
    dsimp only
    split
    · rw [peers_hubMarkPortConnectionChange, hset]
    · exact hset

/-- Nor does switching all of them. -/
theorem peers_hubSwitchPortsPower (powered : Bool) (count n : ℕ) (t : Topology) :
    (hubSwitchPortsPower h powered count n t).1.peers = t.peers := by
  induction count generalizing n t with
  | zero => rfl
  | succ count ih =>
      have hswitch := peers_hubSwitchPortPower (t := t) (h := h) (n := n) powered
      rw [hubSwitchPortsPower]
      split
      · rename_i hs
        rwa [hs] at hswitch
      · rename_i hs
        rw [hs] at hswitch
        rw [ih, hswitch]

/-- `virtusb_hub_set_port_power` attaches nothing. -/
@[simp]
theorem peers_hubSetPortPower (powered : Bool) :
    (t.hubSetPortPower h n powered).1.peers = t.peers := by
  rw [hubSetPortPower]
  split
  · rfl
  split
  · exact peers_hubSwitchPortsPower powered _ _ t
  · exact peers_hubSwitchPortPower powered

/-- `virtusb_hub_set_port_over_current` attaches nothing. -/
@[simp]
theorem peers_hubSetPortOverCurrent (overCurrent : Bool) :
    (t.hubSetPortOverCurrent h n overCurrent).1.peers = t.peers := by
  rw [hubSetPortOverCurrent]
  split
  · rfl
  split
  · rfl
  · exact peers_portSetOverCurrent _ overCurrent

/-- `ClearPortFeature` attaches nothing. -/
theorem peers_hcdClearPortFeature (feature : ℕ) :
    (t.hcdClearPortFeature h n feature).1.peers = t.peers := by
  have husb := fun x => peers_of_wiring (wiring_setUsb (t := t) (h := h) x)
  have hchange := fun x => peers_of_wiring (wiring_setUsbChange (t := t) (h := h) x)
  simp only [hcdClearPortFeature]
  split_ifs <;> first | rfl | exact husb _ | exact hchange _ | exact peers_hubSetPortPower false

/-- `SetPortFeature` attaches nothing. -/
theorem peers_hcdSetPortFeature (feature : ℕ) :
    (t.hcdSetPortFeature h n feature).1.peers = t.peers := by
  simp only [hcdSetPortFeature]
  split
  · rfl
  split
  · exact peers_of_wiring (wiring_setUsb _)
  split
  · exact peers_hubSetPortPower true
  split
  · exact peers_of_wiring (wiring_hubResetPort n)
  · rfl

/-- The answer of a hub request says nothing about its effect. -/
theorem fst_hubReply (result : Topology × Except Errno Unit) : (hubReply result).1 = result.1 := by
  rcases result with ⟨t', e | _⟩ <;> rfl

/-- **A request of the USB core plugs and unplugs nothing.** -/
@[simp]
theorem peers_hcdHubControl (typeReq value index : ℕ) :
    (t.hcdHubControl h typeReq value index).1.peers = t.peers := by
  simp only [hcdHubControl]
  split
  · split
    · rfl
    split
    · exact peers_of_wiring (wiring_setUsbChange _)
    · rfl
  split
  · rw [fst_hubReply, peers_hcdClearPortFeature]
  split
  · rfl
  split
  · rfl
  split
  · rfl
  split
  · rfl
  split
  · rw [fst_hubReply, peers_hcdSetPortFeature]
  · rfl

/-! ### Attachments and detachments -/

/-- **An attachment that succeeds links two free ports**, and no other. -/
theorem peers_deviceAttach {p : PortRef} (ha : t.deviceAttach d p = (t', .ok ())) :
    t.peers p = none ∧ t.peers (.upstream d) = none ∧
      t'.peers = fun r => if r = p then some (.upstream d) else if r = .upstream d then some p
        else t.peers r := by
  rw [deviceAttach] at ha
  split at ha
  swap
  · simp at ha
  rename_i h' howner
  rcases hf : t.hubFindPortNumber h' p with e | n
  · simp [hf] at ha
  rcases hs : t.portAttach p (.upstream d) with ⟨t₁, e | _⟩
  · simp [hf, hs] at ha
  obtain ⟨-, -, hp, hd, -, hports⟩ := portAttach_ok hs
  rw [hf] at ha
  dsimp only at ha
  rw [hs] at ha
  have hpeers : t₁.peers = fun r =>
      if r = p then some (.upstream d) else if r = .upstream d then some p else t.peers r :=
    funext fun r => congrArg Port.peer (hports r)
  refine ⟨hp, hd, ?_⟩
  obtain rfl := congrArg Prod.fst ha
  rw [← hpeers]
  dsimp only
  split
  · exact peers_hubMarkPortConnectionChange t₁ h' n
  · rfl

/-- **A detachment frees the device and the port it was plugged into.** -/
theorem Wired.peers_deviceDetach (ht : t.Wired) (d : DevicePtr) :
    (t.deviceDetach d).peers = fun p =>
      if p = .upstream d ∨ t.peers (.upstream d) = some p then none else t.peers p := by
  have hdetached : (t.portDetach (.upstream d)).peers = fun p =>
      if p = .upstream d ∨ t.peers (.upstream d) = some p then none else t.peers p := by
    funext p
    rcases hq : (t.port (.upstream d)).peer with _ | q
    · have hsame : t.portDetach (.upstream d) = t := by simp only [Topology.portDetach, hq]
      rw [hsame]
      by_cases hp : p = .upstream d
      · rw [if_pos (.inl hp), hp]
        exact hq
      · have hfree : ¬ t.peers (.upstream d) = some p := fun heq =>
          absurd (hq.symm.trans heq) (by simp)
        rw [if_neg (not_or.2 ⟨hp, hfree⟩)]
    · obtain ⟨-, hports⟩ := ht.portDetach hq
      have hpeer : t.peers (.upstream d) = some q := hq
      refine (congrArg Port.peer (hports p)).trans ?_
      rw [hpeer]
      simp only [Option.some.injEq, eq_comm (a := q)]
      rfl
  rw [deviceDetach]
  split
  · exact hdetached
  · dsimp only
    split
    · rw [peers_hubMarkPortConnectionChange, hdetached]
    · exact hdetached

/-! ### When an operation fails -/

/-- The signaling of an upstream port can always be set. -/
theorem deviceSetConnectionSignaling_ok (hrole : (t.upstream d).role = .upstream) (enabled : Bool) :
    (t.deviceSetConnectionSignaling d enabled).2 = .ok () := by
  have hset : (t.portSetConnectionSignaling (.upstream d) enabled).2 = .ok () := by
    have hport : (t.port (.upstream d)).role = .upstream := hrole
    simp [portSetConnectionSignaling, hport]
  rw [deviceSetConnectionSignaling]
  rcases t.deviceGetAttachedHub d with _ | ⟨h, n⟩
  · exact hset
  rcases hs : t.portSetConnectionSignaling (.upstream d) enabled with ⟨t₁, e | _⟩
  · rw [hs] at hset
    exact absurd hset (by simp)
  · rfl

/-- An attach that fails changes nothing. -/
theorem deviceAttach_same {p : PortRef} {e : Errno} (ha : t.deviceAttach d p = (t', .error e)) :
    t' = t := by
  rw [deviceAttach] at ha
  split at ha
  · rename_i h' howner
    rcases hf : t.hubFindPortNumber h' p with e' | n
    · rw [hf] at ha
      exact (congrArg Prod.fst ha).symm
    rcases hs : t.portAttach p (.upstream d) with ⟨t₁, e' | _⟩
    · rw [hf] at ha
      dsimp only at ha
      rw [hs] at ha
      obtain rfl : t₁ = t' := congrArg Prod.fst ha
      simp only [portAttach] at hs
      split at hs
      · exact (congrArg Prod.fst hs).symm
      split at hs
      · exact (congrArg Prod.fst hs).symm
      · simp at hs
    · simp [hf, hs] at ha
  · exact (congrArg Prod.fst ha).symm

/-- **An attachment to a port of a hub fails exactly if either side is taken**, and
leaves the topology alone if it does. -/
theorem Wired.deviceAttach_error (ht : t.Wired) (hrole : (t.upstream d).role = .upstream)
    {p : PortRef} (hp : t.hubGetPort h n = some p) :
    t.deviceAttach d p =
      if (t.peers p).isSome ∨ (t.peers (.upstream d)).isSome then (t, .error .EBUSY)
      else ((t.deviceAttach d p).1, .ok ()) := by
  obtain ⟨hv, rfl⟩ := valid_of_hubGetPort hp
  obtain ⟨hpos, hle⟩ := valid_iff.1 hv
  obtain ⟨hdown, howner⟩ := ht.hubPort h (n - 1) (by omega)
  have hport : t.port (.downstream h (n - 1)) = (t.hubs h).ports (n - 1) := rfl
  have hup : t.port (.upstream d) = t.upstream d := rfl
  simp only [deviceAttach, hport, howner, hubFindPortNumber_of_valid hv, portAttach, hdown, hup,
    hrole, peers, ne_eq, not_true, or_self, if_false]
  by_cases htaken : ((t.hubs h).ports (n - 1)).peer.isSome = true ∨
      (t.upstream d).peer.isSome = true
  · simp only [if_pos htaken]
  · simp only [if_neg htaken]

/-- The power of a port that exists can be switched. -/
theorem Wired.hubSwitchPortPower_ok (ht : t.Wired) (hv : t.hubPortIsValid h n = true)
    (powered : Bool) : (t.hubSwitchPortPower h n powered).2 = .ok () := by
  obtain ⟨hpos, hle⟩ := valid_iff.1 hv
  have hdown : (t.port (.downstream h (n - 1))).role = .downstream :=
    (ht.hubPort h (n - 1) (by omega)).1
  simp [hubSwitchPortPower, portSetPowered, hdown]

end Topology

end VirtUsb
