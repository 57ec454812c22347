/-
# The operations of the control plane

Devices are created and destroyed, plugged, unplugged and made to signal; ports are
powered and reset; the USB core sends hub-class requests.  Each operation runs to
its end before the next one starts (`operations`).  What an operation does to the
topology is one of few things (`Operation.Effect`).
-/

import VirtUsb.Kernel.Device
import VirtUsb.ControlPlane.Protocol
import VirtUsb.Lib.Machine

namespace VirtUsb

open Transition

/-- An operation that the control plane or the USB core asks for, on a device or on a hub. -/
inductive Operation
  | create (speed : Byte) (env : Env)
  | destroy (d : DevicePtr) (force : Bool)
  | attach (d : DevicePtr) (h : HcdId) (n : ℕ)
  | detach (d : DevicePtr)
  | connection (d : DevicePtr) (enabled : Bool)
  | setPortPower (h : HcdId) (n : ℕ) (powered : Bool)
  | setAllPortsPower (h : HcdId) (powered : Bool)
  | resetPort (h : HcdId) (n : ℕ)
  | hubControl (h : HcdId) (typeReq value index : ℕ)
  | setPowerSwitchingMode (h : HcdId) (mode : HubPowerSwitchingMode)
  | setOverCurrentMode (h : HcdId) (mode : HubOverCurrentMode)
  | setPortOverCurrent (h : HcdId) (n : ℕ) (overCurrent : Bool)
  | setOverCurrent (h : HcdId) (overCurrent : Bool)
  | setStatusChangedCallback (h : HcdId) (installed : Bool)

namespace World

/-- A result for the topology as one for the world, without the value returned. -/
def withTopo {α : Type} (w : World) (result : Topology × Except Errno α) :
    World × Except Errno Unit :=
  ({ w with topo := result.1 }, result.2.map fun _ => ())

/-- Runs an operation.  The port of an attachment is the one that
`virtusb_hub_get_port` finds. -/
def operate (w : World) : Operation → World × Except Errno Unit
  | .create speed env => ((w.deviceCreate speed env).1, (w.deviceCreate speed env).2.map fun _ => ())
  | .destroy d force => w.deviceDestroy d force
  | .attach d h n =>
      match w.topo.hubGetPort h n with
      | none => (w, .error .EINVAL)
      | some p => w.withTopo (w.topo.deviceAttach d p)
  | .detach d => w.withTopo (w.topo.deviceDetach d, .ok ())
  | .connection d enabled => w.withTopo (w.topo.deviceSetConnectionSignaling d enabled)
  | .setPortPower h n powered => w.withTopo (w.topo.hubSetPortPower h n powered)
  | .setAllPortsPower h powered => w.withTopo (w.topo.hubSetAllPortsPower h powered)
  | .resetPort h n => w.withTopo (w.topo.hubResetPort h n)
  | .hubControl h typeReq value index => w.withTopo (w.topo.hcdHubControl h typeReq value index)
  | .setPowerSwitchingMode h mode => w.withTopo (w.topo.hubSetPowerSwitchingMode h mode, .ok ())
  | .setOverCurrentMode h mode => w.withTopo (w.topo.hubSetOverCurrentMode h mode, .ok ())
  | .setPortOverCurrent h n overCurrent =>
      w.withTopo (w.topo.hubSetPortOverCurrent h n overCurrent)
  | .setOverCurrent h overCurrent => w.withTopo (w.topo.hubSetOverCurrent h overCurrent, .ok ())
  | .setStatusChangedCallback h installed =>
      w.withTopo (w.topo.hubSetStatusChangedCallback h installed, .ok ())

/-- A loaded module whose hubs are initialised; a number that names no host
controller has a hub without ports. -/
def Initialised (w : World) : Prop :=
  ∃ hubs : HcdId → Hub,
    (∀ h, hubs h = {} ∨ ∃ portCount, hubInit h portCount = .ok (hubs h)) ∧
      w = { World.loaded with topo := ⟨hubs, fun _ => {}, []⟩ }

/-- A loaded module with one host controller, whose root hub has two ports. -/
def oneHub : World :=
  { World.loaded with
    topo := ⟨fun h => if h = 0 then (hubInit 0 2).toOption.getD {} else {}, fun _ => {}, []⟩ }

/-- The module with one hub has been initialised. -/
theorem oneHub_initialised : oneHub.Initialised := by
  refine ⟨_, fun h => ?_, rfl⟩
  by_cases hh : h = 0
  · subst hh
    exact .inr ⟨2, rfl⟩
  · exact .inl (if_neg hh)

end World

/-- The control plane, one operation after the other. -/
def operations : Machine World Operation :=
  .ofFun World.Initialised fun w op => some (w.operate op).1

/-! ### What an operation does to the topology -/

/-- A change that shows at no port. -/
structure Topology.Unseen (t t' : Topology) : Prop where
  wired : t'.Wired
  connected : ∀ h n, t'.hubPortIsConnected h n = t.hubPortIsConnected h n
  speed : ∀ h n, t.hubPortIsConnected h n = true →
    t'.hubDeterminePortSpeed h n = t.hubDeterminePortSpeed h n
  state : ∀ h n, t'.portState h n = t.portState h n
  board : t'.board = t.board

/-- An operation rewires ports, shows at none of them, resets one or is a request of
the USB core. -/
inductive Operation.Effect (t : Topology) : Operation → Topology → Prop
  | rewired {op : Operation} {t' : Topology} : Topology.Rewired t t' → Effect t op t'
  | created (speed : Byte) (env : Env) {t' : Topology} :
      Topology.Unseen t t' → Effect t (.create speed env) t'
  | callback (h : HcdId) (installed : Bool) : Effect t (.setStatusChangedCallback h installed)
      (t.hubSetStatusChangedCallback h installed)
  | reset (h : HcdId) (n : ℕ) : Effect t (.resetPort h n) (t.hubResetPort h n).1
  | request (h : HcdId) (typeReq value index : ℕ) {t' : Topology} :
      Topology.ControlEffect t h typeReq value (index % 256) t' →
        Effect t (.hubControl h typeReq value index) t'

namespace Topology

variable {t : Topology}

/-- The upstream port of a new device is not attached. -/
theorem Wired.unseen_create (ht : t.Wired) {d : DevicePtr} (hd : (t.upstream d).role = .invalid)
    {speed : Byte} {port : Port} (hport : portInit .upstream speed (.device d) = .ok port) :
    Unseen t (t.setPort (.upstream d) port) := by
  obtain ⟨hrole, howner, hpeer⟩ : port.role = .upstream ∧ port.owner = some (.device d) ∧
      port.peer = none := by
    rw [portInit] at hport
    split_ifs at hport
    obtain rfl := Except.ok.inj hport
    exact ⟨rfl, rfl, rfl⟩
  set t' := t.setPort (.upstream d) port with ht'
  have hpanel : SamePanel t t' := samePanel_setPort t _ _
  have hself : t'.port (.upstream d) = port := port_setPort_self t _ _
  have hother : ∀ r, r ≠ .upstream d → t'.port r = t.port r := fun r hr =>
    port_setPort_of_ne t _ hr
  have hne : ∀ r q, (t.port r).peer = some q → r ≠ .upstream d ∧ q ≠ .upstream d := by
    intro r q hq
    obtain ⟨hback, hr, -⟩ := ht.symm r q hq
    refine ⟨fun heq => hr (heq ▸ hd), fun heq => (ht.symm q r hback).2.1 (heq ▸ hd)⟩
  have hwired : t'.Wired := by
    refine ⟨ht.count, ht.hubPort, ht.noPort, fun d' => ?_, fun r q hq => ?_⟩
    · rcases eq_or_ne d' d with rfl | hd'
      · exact .inl ⟨(congrArg Port.role hself).trans hrole, (congrArg Port.owner hself).trans howner⟩
      · have hsame : t'.upstream d' = t.upstream d' := hother (.upstream d') (by simpa using hd')
        rw [hsame]
        exact ht.device d'
    · rcases eq_or_ne r (.upstream d) with rfl | hr
      · rw [hself, hpeer] at hq
        exact absurd hq (by simp)
      · rw [hother r hr] at hq ⊢
        rw [hother q (hne r q hq).2]
        exact ht.symm r q hq
  have hsame : ∀ h n, t'.hubPortIsConnected h n = t.hubPortIsConnected h n ∧
      t'.hubDeterminePortSpeed h n = t.hubDeterminePortSpeed h n := fun h n =>
    connected_of_same (hpanel.portCount h) fun _ =>
      ⟨hother _ (by simp), fun q hq => hother q (hne _ q hq).2⟩
  exact ⟨hwired, fun h n => (hsame h n).1, fun h n _ => (hsame h n).2,
    fun h n => portState_congr (hpanel.usb h) (hpanel.portCount h) n,
    board_congr hpanel.usbChange hpanel.notified⟩

/-- What cannot be seen keeps the protocol state sound. -/
theorem Unseen.sound {t' : Topology} (hu : Unseen t t') (ht : t.Sound) : t'.Sound where
  wired := hu.wired
  enabled h n := by
    rw [hu.state, hu.connected]
    exact ht.enabled h n
  speed h n hs := by
    rw [hu.state] at hs ⊢
    obtain ⟨hc, heq⟩ := ht.speed h n hs
    rw [hu.connected, hu.speed h n hc]
    exact ⟨hc, heq⟩
  reset h n := by
    rw [hu.state]
    exact ht.reset h n

/-- A fresh port stays fresh. -/
theorem Unseen.fresh {t' : Topology} (hu : Unseen t t') {h : HcdId} {n : ℕ} (hf : t.Fresh h n) :
    t'.Fresh h n := by
  rwa [Fresh, hu.state]

/-- Installing a callback, or removing it, cannot be seen. -/
theorem Wired.unseen_callback (ht : t.Wired) (h : HcdId) (installed : Bool) :
    Unseen t (t.hubSetStatusChangedCallback h installed) := by
  obtain ⟨hlinks, hconnected⟩ := links_setHub (t := t) (h := h)
    (x := { t.hubs h with statusChanged := installed }) rfl rfl
  have husb := congr_setHub (t := t) (h := h) (x := { t.hubs h with statusChanged := installed })
    Hub.usb rfl
  have hchange := congr_setHub (t := t) (h := h)
    (x := { t.hubs h with statusChanged := installed }) Hub.usbChange rfl
  exact ⟨hlinks.wired ht, hconnected, fun h' m _ => hlinks.determine h' m,
    fun h' m => portState_congr (husb h') (hlinks.portCount h') m, board_congr hchange rfl⟩

end Topology

/-! ### Every state is sound -/

/-- The protocol state is sound, and no port of a device to come is initialised. -/
structure World.Sound (w : World) : Prop where
  topo : w.topo.Sound
  unborn : ∀ d, w.nextDevice ≤ d → (w.topo.upstream d).role = .invalid

namespace World

variable {w w' : World}

/-- A creation leaves the topology alone, or gives it one more unattached device. -/
theorem deviceCreate_topo (w : World) (speed : Byte) (env : Env) :
    ((w.deviceCreate speed env).1.topo = w.topo ∧
        w.nextDevice ≤ (w.deviceCreate speed env).1.nextDevice) ∨
      ((w.deviceCreate speed env).1.nextDevice = w.nextDevice + 1 ∧
        ∃ port, portInit .upstream speed (.device w.nextDevice) = .ok port ∧
          (w.deviceCreate speed env).1.topo = w.topo.setPort (.upstream w.nextDevice) port) := by
  simp only [deviceCreate]
  split
  · exact .inl ⟨rfl, Nat.le_refl _⟩
  rcases hport : portInit .upstream speed (.device w.nextDevice) with e | port
  · have hbare := w.objectAlloc.bare_objectPut w.nextDevice
    have htopo := topo_of_bare hbare
    have hnext := nextDevice_of_bare hbare
    exact .inl ⟨htopo, (Nat.le_succ w.nextDevice).trans_eq hnext.symm⟩
  · refine .inr ?_
    dsimp only
    set initialised : World :=
      { w.objectAlloc with topo := w.objectAlloc.topo.setPort (.upstream w.nextDevice) port }
    have hbare := initialised.bare_objectRegister w.nextDevice .device env.xaInsert
    rcases hr : initialised.objectRegister w.nextDevice .device env.xaInsert with ⟨w', e | _⟩
    · rw [hr] at hbare
      have hput := (w'.bare_objectPut w.nextDevice).trans hbare
      exact ⟨nextDevice_of_bare hput, port, rfl, topo_of_bare hput⟩
    · rw [hr] at hbare
      exact ⟨nextDevice_of_bare hbare, port, rfl, topo_of_bare hbare⟩

/-- A destruction detaches the device at most. -/
theorem deviceDestroy_topo (ht : w.topo.Wired) (d : DevicePtr) (force : Bool) :
    Topology.Rewired w.topo (w.deviceDestroy d force).1.topo ∧
      (w.deviceDestroy d force).1.nextDevice = w.nextDevice := by
  rw [deviceDestroy]
  split
  · split
    · exact ⟨.refl, rfl⟩
    have hsignal := ht.deviceSetConnectionSignaling d false
    rcases hs : w.topo.deviceSetConnectionSignaling d false with ⟨t, e | _⟩
    · rw [hs] at hsignal
      exact ⟨.single hsignal, rfl⟩
    · rw [hs] at hsignal
      have hbare := bare_objectUnregister { w with topo := t.deviceDetach d } d
      have hnext := nextDevice_of_bare hbare
      dsimp only
      rw [topo_of_bare hbare]
      exact ⟨(Relation.ReflTransGen.single hsignal).tail (hsignal.wired.deviceDetach d), hnext⟩
  · have hbare := w.bare_objectUnregister d
    exact ⟨by rw [topo_of_bare hbare], nextDevice_of_bare hbare⟩

/-- **What an operation does to the topology.** -/
theorem Sound.operate (hw : w.Sound) (op : Operation) :
    op.Effect w.topo (w.operate op).1.topo := by
  have ht := hw.topo.wired
  cases op with
  | create speed env =>
      rcases w.deviceCreate_topo speed env with ⟨htopo, -⟩ | ⟨-, port, hport, htopo⟩
      · exact .rewired (by rw [World.operate, htopo])
      · refine .created speed env ?_
        rw [World.operate, htopo]
        exact ht.unseen_create (hw.unborn _ (Nat.le_refl _)) hport
  | destroy d force => exact .rewired (deviceDestroy_topo ht d force).1
  | attach d h n =>
      rw [World.operate]
      rcases hget : w.topo.hubGetPort h n with _ | p
      · exact .rewired .refl
      · exact .rewired (.single (ht.deviceAttach hget))
  | detach d => exact .rewired (.single (ht.deviceDetach d))
  | connection d enabled => exact .rewired (.single (ht.deviceSetConnectionSignaling d enabled))
  | setPortPower h n powered => exact .rewired (ht.hubSetPortPower h n powered)
  | setAllPortsPower h powered => exact .rewired (ht.hubSetAllPortsPower h powered)
  | resetPort h n => exact .reset h n
  | hubControl h typeReq value index =>
      exact .request h typeReq value index (w.topo.hcdHubControl_effect h typeReq value index)
  | setPowerSwitchingMode h mode => exact .rewired (.single (ht.setHub rfl rfl rfl rfl rfl))
  | setOverCurrentMode h mode => exact .rewired (.single (ht.setHub rfl rfl rfl rfl rfl))
  | setPortOverCurrent h n overCurrent =>
      exact .rewired (.single (ht.hubSetPortOverCurrent h n overCurrent))
  | setOverCurrent h overCurrent =>
      refine .rewired ?_
      rw [World.operate, withTopo, Topology.hubSetOverCurrent]
      split
      · exact .refl
      · exact .single (ht.setHub rfl rfl rfl rfl rfl)
  | setStatusChangedCallback h installed => exact .callback h installed

end World

namespace Operation.Effect

variable {t t' : Topology} {op : Operation}

/-- **Every effect keeps the protocol state sound.** -/
theorem sound (he : op.Effect t t') (ht : t.Sound) : t'.Sound := by
  cases he with
  | rewired hr => exact hr.sound ht
  | created _ _ hu => exact hu.sound ht
  | callback h installed => exact (ht.wired.unseen_callback h installed).sound ht
  | reset h n => exact ht.hubResetPort h n
  | request h typeReq value index he => exact he.sound ht

/-- No operation but a creation gives a port its role. -/
theorem role (he : op.Effect t t') (ht : t.Wired) (hop : ∀ speed env, op ≠ .create speed env)
    (d : DevicePtr) : (t'.upstream d).role = (t.upstream d).role := by
  have hwiring : t'.wiring = t.wiring → (t'.upstream d).role = (t.upstream d).role := fun hw =>
    congrArg Port.role (Topology.port_congr hw (.upstream d))
  cases he with
  | rewired hr => exact hr.role (.upstream d)
  | created speed env _ => exact absurd rfl (hop speed env)
  | callback h installed => rfl
  | reset h n => exact hwiring (Topology.wiring_hubResetPort n)
  | request h typeReq value index he =>
      rcases he.protocol ht with hr | hr | ⟨-, -, rfl⟩
      · exact hwiring hr.wiring
      · exact hr.role (.upstream d)
      · exact hwiring (Topology.wiring_hubResetPort _)

end Operation.Effect

namespace World

variable {w w' : World}

/-- Only a creation and a destruction touch more than the topology. -/
theorem nextDevice_operate (hw : w.topo.Wired) {op : Operation}
    (hop : ∀ speed env, op ≠ .create speed env) : (w.operate op).1.nextDevice = w.nextDevice := by
  cases op with
  | create speed env => exact absurd rfl (hop speed env)
  | destroy d force => exact (deviceDestroy_topo hw d force).2
  | attach d h n =>
      rw [operate]
      cases w.topo.hubGetPort h n <;> rfl
  | _ => rfl

/-- **Every operation keeps the state sound.** -/
theorem Sound.step (hw : w.Sound) (op : Operation) : (w.operate op).1.Sound := by
  refine ⟨(hw.operate op).sound hw.topo, fun d hd => ?_⟩
  by_cases hop : ∀ speed env, op ≠ .create speed env
  · rw [nextDevice_operate hw.topo.wired hop] at hd
    rw [(hw.operate op).role hw.topo.wired hop]
    exact hw.unborn d hd
  · push Not at hop
    obtain ⟨speed, env, rfl⟩ := hop
    rw [World.operate] at hd ⊢
    rcases w.deviceCreate_topo speed env with ⟨htopo, hnext⟩ | ⟨hnext, port, -, htopo⟩
    · rw [htopo]
      exact hw.unborn d (hnext.trans hd)
    · rw [hnext] at hd
      have hlt : w.nextDevice < d := Nat.lt_of_succ_le hd
      have hne : PortRef.upstream d ≠ .upstream w.nextDevice := fun heq =>
        Nat.ne_of_gt hlt (PortRef.upstream.inj heq)
      have hsame := Topology.port_setPort_of_ne w.topo port hne
      rw [htopo]
      exact (congrArg Port.role hsame).trans (hw.unborn d (Nat.le_of_lt hlt))

/-- What `virtusb_hub_init` makes of a hub. -/
theorem hubInit_ok {h : HcdId} {portCount : ℕ} {x : Hub} (hx : hubInit h portCount = .ok x) :
    x.portCount ≤ maxHubPorts ∧ x.usb = {} ∧ x.usbChange = {} ∧
      x.ports = fun i => if i < x.portCount then
        { role := .downstream, owner := some (.hub h), speed := portSpeedCapAll } else {} := by
  rw [hubInit] at hx
  split at hx
  · exact absurd hx (by simp)
  rename_i hcount
  have hport : portInit .downstream portSpeedCapAll (.hub h) =
      .ok { role := .downstream, owner := some (.hub h), speed := portSpeedCapAll } := rfl
  rw [hport] at hx
  obtain rfl := Except.ok.inj hx
  have hle : portCount ≤ maxHubPorts := by omega
  exact ⟨hle, rfl, rfl, rfl⟩

/-- A hub that is initialised, or zeroed. -/
theorem hub_of_initialised {h : HcdId} {x : Hub}
    (hx : x = {} ∨ ∃ portCount, hubInit h portCount = .ok x) :
    x.portCount ≤ maxHubPorts ∧ x.usb = {} ∧ x.usbChange = {} ∧
      x.ports = fun i => if i < x.portCount then
        { role := .downstream, owner := some (.hub h), speed := portSpeedCapAll } else {} := by
  rcases hx with rfl | ⟨portCount, hx⟩
  · exact ⟨Nat.zero_le _, rfl, rfl, rfl⟩
  · exact hubInit_ok hx

/-- Nothing is attached yet. -/
theorem Initialised.peer (hw : w.Initialised) (p : PortRef) : (w.topo.port p).peer = none := by
  obtain ⟨hubs, hhubs, rfl⟩ := hw
  cases p with
  | upstream d => rfl
  | downstream h i =>
      have hports := (hub_of_initialised (hhubs h)).2.2.2
      change ((hubs h).ports i).peer = none
      rw [hports]
      dsimp only
      split <;> rfl

/-- **A module that was just loaded is sound.** -/
theorem Initialised.sound (hw : w.Initialised) : w.Sound := by
  have hpeer := hw.peer
  obtain ⟨hubs, hhubs, rfl⟩ := hw
  set t : Topology := ⟨hubs, fun _ => {}, []⟩
  have hrole : ∀ h i, (t.hubs h).ports i = if i < (t.hubs h).portCount then
      { role := .downstream, owner := some (.hub h), speed := portSpeedCapAll } else {} := fun h i =>
    congrFun (hub_of_initialised (hhubs h)).2.2.2 i
  have hwired : t.Wired := by
    refine ⟨fun h => (hub_of_initialised (hhubs h)).1, fun h i hi => ?_, fun h i hi => ?_,
      fun d => .inr rfl, fun p q hq => absurd ((hpeer p).symm.trans hq) (by simp)⟩
    · rw [hrole, if_pos hi]
      exact ⟨rfl, rfl⟩
    · rw [hrole, if_neg (Nat.not_lt.2 hi)]
  have hstate : ∀ h n, t.portState h n = {} := by
    intro h n
    have husb : (t.hubs h).usb = {} := (hub_of_initialised (hhubs h)).2.1
    have hspeed : t.hubGetPortSpeed h n = .none := by
      rw [Topology.hubGetPortSpeed_eq, husb]
      cases t.hubPortIsValid h n
      · rfl
      · simp [Bitmap.packedGet, PortSpeed.ofCode]
    simp only [Topology.portState, hspeed, husb, Bitmap.test_zero]
  have hsound : t.Sound := by
    refine ⟨hwired, fun h n he => ?_, fun h n hs => ?_, fun h n => ?_⟩
    · rw [hstate] at he
      exact absurd he (by decide)
    · rw [hstate] at hs
      exact absurd rfl hs
    · rw [hstate]
  exact ⟨hsound, fun d _ => rfl⟩

/-- **Every reachable state is sound.** -/
theorem sound_of_reachable (hw : operations.Reachable w) : w.Sound := by
  refine Machine.Reachable.invariant (I := World.Sound) (fun _ h => Initialised.sound h) ?_ hw
  intro v op v' hv hstep
  obtain rfl : (v.operate op).1 = v' := Option.some.inj hstep
  exact hv.step op

end World

end VirtUsb
