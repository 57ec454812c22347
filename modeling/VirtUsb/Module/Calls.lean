/-
# The module, one call at a time

The calls that reach the module from user space and from the USB core, each run to
its end before the next one starts (`calls`): ioctls with any command and any
argument, the release of a file, URBs, requests to a root hub, and the end of a
backend.  Memory, user copies and the USB core may fail each time, as the call's
environment says.

A URB is handed over with any content, but only while the module does not have it
already: the USB core refuses a URB that is still in flight.
-/

import VirtUsb.Lifetime.Transfers
import VirtUsb.Module.Managed

namespace VirtUsb

open Transition RefCount

/-- A call of the module, from user space or from the USB core, and the stop of a backend. -/
inductive Call
  | ioctl (h : HcdId) (active : Bool) (f : FilePtr) (nonblock : Bool) (command : BitVec 32)
      (m : UserMemory) (env : Env)
  | close (h : HcdId) (f : FilePtr)
  | urbEnqueue (h : HcdId) (u : UrbPtr) (urb : Urb) (env : Env)
  | urbDequeue (h : HcdId) (u : UrbPtr) (status : ℤ)
  | hubControl (h : HcdId) (typeReq value index : ℕ)
  | setStatusChangedCallback (h : HcdId) (installed : Bool)
  | stop (h : HcdId)

/-- The host controller a call goes to. -/
def Call.hcd : Call → HcdId
  | .ioctl h .. => h
  | .close h _ => h
  | .urbEnqueue h .. => h
  | .urbDequeue h .. => h
  | .hubControl h .. => h
  | .setStatusChangedCallback h _ => h
  | .stop h => h

namespace World

variable (w : World)

/-- A URB as the USB core hands it over. -/
def handUrb (u : UrbPtr) (urb : Urb) : World :=
  w.setUrb u { urb with linked := false, unlinked := false }

/-- The call, from its start to its end. -/
def call : Call → World
  | .ioctl h active f nonblock command m env =>
      (w.controlIoctl h active f nonblock command m env).1
  | .close h f => w.controlRelease h f
  | .urbEnqueue h u urb env => ((w.handUrb u urb).hcdUrbEnqueue h u env).1
  | .urbDequeue h u status => (w.hcdUrbDequeue h u status).1
  | .hubControl h typeReq value index =>
      { w with topo := (w.topo.hcdHubControl h typeReq value index).1 }
  | .setStatusChangedCallback h installed =>
      { w with topo := w.topo.hubSetStatusChangedCallback h installed }
  | .stop h => w.backendStop h

/-- A request for the URB is queued at one of the first `N` host controllers. -/
def InFlight (N : ℕ) (u : UrbPtr) : Prop :=
  ∃ h < N, ∃ r ∈ (w.backends h).pending ++ (w.backends h).active, r.urb = u

instance (N : ℕ) (u : UrbPtr) : Decidable (w.InFlight N u) :=
  inferInstanceAs (Decidable (∃ h < N, ∃ r ∈ (w.backends h).pending ++ (w.backends h).active,
    r.urb = u))

end World

/-- The call goes to one of the first `N` host controllers, and a URB that is handed
over is not in flight. -/
def Call.Possible (N : ℕ) (w : World) (c : Call) : Prop :=
  c.hcd < N ∧ match c with
    | .urbEnqueue _ u _ _ => ¬ w.InFlight N u
    | _ => True

instance (N : ℕ) (w : World) (c : Call) : Decidable (c.Possible N w) := by
  unfold Call.Possible
  cases c <;> infer_instance

/-- The module with `N` host controllers. -/
def calls (N : ℕ) : Machine World Call :=
  .ofFun World.Initialised fun w c => if c.Possible N w then some (w.call c) else none

/-- A step is a call that is possible. -/
theorem calls_step {N : ℕ} {w w' : World} {c : Call} (hs : (calls N).step w c w') :
    c.Possible N w ∧ w' = w.call c := by
  simp only [calls, Machine.ofFun] at hs
  split at hs
  · rename_i hc
    exact ⟨hc, (Option.some.inj hs).symm⟩
  · simp at hs

/-! ### Every call keeps the books -/

namespace World

namespace Accounts

variable {w w' : World} {N : ℕ} {held : DevicePtr → ℕ} {heldT : TransferPtr → ℕ} {h : HcdId}
  {env : Env}

/-- Where the accounts balance, what is listed is alive. -/
theorem counted (ha : w.Accounts N held heldT) : w.Counted := fun id _ hd =>
  ha.count_pos_of_registered (ha.registry.entry id _ hd).1

/-- A device that is found by its id is alive and registered. -/
theorem of_deviceOf (ha : w.Accounts N held heldT) {id : ObjectId} {d : DevicePtr}
    (hd : w.deviceOf id = .ok d) : 0 < (w.objects d).refcount ∧ (w.objects d).registered = true :=
  ⟨ha.counted.of_deviceOf hd, (ha.registry.entry id d (deviceOf_ok.1 hd).2.1).1⟩

/-- The topology is none of the accounts. -/
theorem withTopo (ha : w.Accounts N held heldT) (t : Topology) :
    ({ w with topo := t } : World).Accounts N held heldT := ha

/-- DEVICE_CREATE keeps the books: the reference it makes it drops, or hands to the table. -/
theorem controlDeviceCreate (ha : w.Accounts N held heldT) (request : DeviceCreate) :
    (w.controlDeviceCreate request env).1.Accounts N held heldT := by
  refine controlDeviceCreate_rule (P := fun v => v.Accounts N held heldT) request ha
    (fun speed w₁ e hs => ?_) (fun speed w₁ d hs => ?_) fun speed w₁ d hs => ?_
  all_goals
    have hcreate := ha.deviceCreate speed env
    rw [hs] at hcreate
  · exact hcreate
  · exact (hcreate.deviceDestroy d true).objectPut
  · exact hcreate.objectPut

/-- **A control request keeps the accounts.** -/
theorem controlIoctl (ha : w.Accounts N held heldT) (hh : h < N) (active : Bool) (f : FilePtr)
    (nonblock : Bool) (command : BitVec 32) (m : UserMemory) :
    (w.controlIoctl h active f nonblock command m env).1.Accounts N held heldT := by
  exact controlIoctl_rule (P := fun v => v.Accounts N held heldT) ha.counted ha.withTopo
    (fun _ _ => ha.controlDeviceCreate _) ha.deviceDestroy
    (fun _ d hd => ha.backendRegister hh (ha.of_deviceOf hd).1 env) (ha.backendReleaseOwner hh f)
    (ha.backendFetch hh nonblock) (fun id => (ha.backendFetch hh nonblock).backendFetchRollback hh id)
    (ha.backendComplete hh)

/-- **A URB that is handed over keeps the accounts.** -/
theorem hcdUrbEnqueue (ha : w.Accounts N held heldT) (hh : h < N) (hw : w.Catalogued)
    (hwired : w.topo.Wired) (u : UrbPtr) : (w.hcdUrbEnqueue h u env).1.Accounts N held heldT := by
  simp only [World.hcdUrbEnqueue]
  rcases hd : w.hcdGetUrbDevice h (w.urbs u) with _ | d
  · exact ha
  have hcount : 0 < (w.objects d).refcount := by
    obtain ⟨n, -, hv, hpeer⟩ := (hcdGetUrbDevice_eq_some hwired).1 hd
    obtain ⟨hback, -, -⟩ := hwired.symm _ _ hpeer
    exact ha.count_pos_of_registered (hw.attached d (Option.isSome_iff_exists.2 ⟨_, hback⟩))
  dsimp only
  split
  · exact ha
  rename_i type htype
  rcases hs : w.transferCreate d ((w.urbs u).transferArgs type) env with ⟨w₁, _ | t⟩
  · rw [transferCreate_none hs]
    exact ha
  obtain ⟨hcreated, -, hfree⟩ := ha.transferCreate hcount hs
  dsimp only
  split
  · exact hcreated.transferPut
  · exact (hcreated.backendSubmit hh hfree u env).transferPut

end Accounts

/-! ### Every call does operations on published devices -/

variable {w w' : World} {N : ℕ} {h : HcdId} {env : Env}

/-- The handler of `VIRTUSB_IOCTL_DEVICE_CREATE` is one operation. -/
theorem managed_controlDeviceCreate (request : DeviceCreate) :
    w.Managed (w.controlDeviceCreate request env).1 := by
  rw [World.controlDeviceCreate]
  split
  · exact .kept (.refl w)
  split
  · exact .kept (.refl w)
  set speed := request.speedCaps.setWidth 8
  have hcreate : ∀ v : World, Aside (w.deviceCreate speed env).1 v → w.Managed v := fun v hv =>
    .operated (.create speed env) (.kept (.refl w)) trivial hv
  rcases hs : w.deviceCreate speed env with ⟨w₁, e | d⟩
  · rw [hs] at hcreate
    exact hcreate w₁ (.refl w₁)
  rw [hs] at hcreate
  dsimp only
  split
  · obtain ⟨rfl, port, -, rfl, -⟩ := deviceCreate_ok hs
    have hreg : ((w.published port).objects w.nextDevice).registered = true := by simp [published]
    exact .operated (.destroy w.nextDevice true) (hcreate _ (.refl _)) hreg (Aside.objectPut _ _)
  · exact hcreate _ (Aside.objectPut w₁ d)

/-- The handler of `VIRTUSB_IOCTL_DEVICE_DESTROY` is one operation. -/
theorem managed_controlDeviceDestroy (hw : w.Counted) (hr : w.books.Registry)
    (request : DeviceDestroy) : w.Managed (w.controlDeviceDestroy request env).1 := by
  rw [controlDeviceDestroy_eq hw]
  split
  · exact .kept (.refl w)
  split
  · exact .kept (.refl w)
  rcases hd : w.deviceOf request.objectId with e | d
  · exact .kept (.refl w)
  · exact .operated (.destroy d _) (.kept (.refl w)) (hr.entry _ d (deviceOf_ok.1 hd).2.1).1
      (.refl _)

/-- The handler of `VIRTUSB_IOCTL_DEVICE_ATTACH` is one operation. -/
theorem managed_controlDeviceAttach (hw : w.Counted) (hr : w.books.Registry)
    (request : DeviceAttach) : w.Managed (w.controlDeviceAttach h request env).1 := by
  rw [controlDeviceAttach_eq hw]
  split
  · exact .kept (.refl w)
  split
  · exact .kept (.refl w)
  rcases hget : w.topo.hubGetPort h request.port with _ | port
  · exact .kept (.refl w)
  rcases hd : w.deviceOf request.objectId with e | d
  · exact .kept (.refl w)
  · refine .operated (.attach d h request.port) (.kept (.refl w))
      (hr.entry _ d (deviceOf_ok.1 hd).2.1).1 ?_
    rw [operate, hget]
    exact .refl _

/-- The handler of `VIRTUSB_IOCTL_DEVICE_DETACH` is one operation. -/
theorem managed_controlDeviceDetach (hw : w.Counted) (request : DeviceObject) :
    w.Managed (w.controlDeviceDetach request env).1 := by
  rw [controlDeviceDetach_eq hw]
  split
  · exact .kept (.refl w)
  rcases w.deviceOf request.objectId with e | d
  · exact .kept (.refl w)
  · exact .operated (.detach d) (.kept (.refl w)) trivial (.refl _)

/-- The handler of `VIRTUSB_IOCTL_DEVICE_CONNECTION` is one operation. -/
theorem managed_controlDeviceConnection (hw : w.Counted) (request : DeviceConnection) :
    w.Managed (w.controlDeviceConnection request env).1 := by
  rw [controlDeviceConnection_eq hw]
  split
  · exact .kept (.refl w)
  split
  · exact .kept (.refl w)
  rcases w.deviceOf request.objectId with e | d
  · exact .kept (.refl w)
  · exact .operated (.connection d _) (.kept (.refl w)) trivial (.refl _)

/-- The handler of `VIRTUSB_IOCTL_SET_PORT_POWER` is one operation. -/
theorem managed_controlSetPortPower (request : PortPower) :
    w.Managed (w.controlSetPortPower h request env).1 := by
  rw [World.controlSetPortPower]
  split
  · exact .kept (.refl w)
  split
  · exact .kept (.refl w)
  split
  · exact .kept (.refl w)
  · exact .operated (.setPortPower h request.port _) (.kept (.refl w)) trivial (.refl _)

/-- BACKEND_REGISTER works aside of what is managed. -/
theorem aside_controlBackendRegister (hw : w.Counted) (f : FilePtr) (request : BackendRegister) :
    Aside w (w.controlBackendRegister h f request env).1 :=
  controlBackendRegister_rule hw request (.refl w) fun d _ => Aside.backendRegister w h f d env

/-- TRANSFER_FETCH works aside of what is managed. -/
theorem aside_controlTransferFetch (w : World) (h : HcdId) (f : FilePtr) (nonblock : Bool)
    (env : Env) : Aside w (w.controlTransferFetch h f nonblock env).1 :=
  controlTransferFetch_rule (.refl w) (Aside.backendFetch w h f nonblock) fun id =>
    (Aside.backendFetch w h f nonblock).trans (Aside.backendFetchRollback _ h f id)

/-- TRANSFER_COMPLETE works aside of what is managed. -/
theorem aside_controlTransferComplete (w : World) (h : HcdId) (f : FilePtr)
    (completion : TransferCompleteRequest) (env : Env) :
    Aside w (w.controlTransferComplete h f completion env).1 :=
  controlTransferComplete_rule completion (.refl w) (Aside.backendComplete w h f completion)

/-- **A call does operations on published devices**, and nothing else to what is managed. -/
theorem managed_call (hw : w.Counted) (hr : w.books.Registry) (c : Call) : w.Managed (w.call c) := by
  cases c with
  | ioctl h active f nonblock command m env =>
      exact controlIoctl_cases (P := w.Managed) (.kept (.refl w))
        (fun _ _ => managed_controlDeviceCreate _) (managed_controlDeviceDestroy hw hr)
        (managed_controlDeviceAttach hw hr) (managed_controlDeviceDetach hw)
        (managed_controlDeviceConnection hw) managed_controlSetPortPower
        (fun request => .kept (aside_controlBackendRegister hw f request))
        (.kept (Aside.backendReleaseOwner w h f))
        (.kept (aside_controlTransferFetch w h f nonblock env))
        (fun completion => .kept (aside_controlTransferComplete w h f completion env))
  | close h f => exact .kept (Aside.backendReleaseOwner w h f)
  | urbEnqueue h u urb env =>
      exact .kept (.after (Aside.hcdUrbEnqueue (w.handUrb u urb) h u env) rfl rfl rfl)
  | urbDequeue h u status => exact .kept (Aside.hcdUrbDequeue w h u status)
  | hubControl h typeReq value index =>
      exact .operated (.hubControl h typeReq value index) (.kept (.refl w)) trivial (.refl _)
  | setStatusChangedCallback h installed =>
      exact .operated (.setStatusChangedCallback h installed) (.kept (.refl w)) trivial (.refl _)
  | stop h => exact .kept (Aside.backendStop w h)

/-! ### The state between two calls -/

/-- What holds between two calls: the books balance with nothing held, the protocol
state is sound, and what is attached is published. -/
structure Steady (N : ℕ) (w : World) : Prop where
  accounts : w.Accounts N 0 0
  sound : w.Sound
  catalogued : w.Catalogued
  ported : w.Ported

/-- Attachments are mutual between two calls. -/
theorem Steady.wired (hw : w.Steady N) : w.topo.Wired := hw.sound.topo.wired

/-- **Every call keeps the books**, whatever others hold meanwhile. -/
theorem Accounts.call {held : DevicePtr → ℕ} {heldT : TransferPtr → ℕ}
    (ha : w.Accounts N held heldT) (hw : w.Catalogued) (hwired : w.topo.Wired) {c : Call}
    (hc : c.hcd < N) : (w.call c).Accounts N held heldT := by
  cases c with
  | ioctl h active f nonblock command m env => exact ha.controlIoctl hc active f nonblock command m
  | close h f => exact ha.backendReleaseOwner hc f
  | urbEnqueue h u urb env =>
      have hhanded : (w.handUrb u urb).Accounts N held heldT := ha
      exact hhanded.hcdUrbEnqueue hc (hw.of_management rfl) hwired u
  | urbDequeue h u status => exact ha.backendCancel hc u status
  | hubControl h typeReq value index => exact ha.withTopo _
  | setStatusChangedCallback h installed => exact ha.withTopo _
  | stop h => exact ha.backendStop hc

/-- **A call keeps the control plane sound.** -/
theorem Accounts.sound_call {held : DevicePtr → ℕ} {heldT : TransferPtr → ℕ}
    (ha : w.Accounts N held heldT) (hs : w.Sound) (hw : w.Catalogued) (hp : w.Ported) (c : Call) :
    (w.call c).Sound ∧ (w.call c).Catalogued ∧ (w.call c).Ported := by
  refine (managed_call ha.counted ha.registry c).invariant
    (I := fun v => v.Sound ∧ v.Catalogued ∧ v.Ported) ?_ ?_ ⟨hs, hw, hp⟩
  · rintro v v' ⟨hsound, hcatalogued, hported⟩ hm
    exact ⟨hsound.of_management hm, hcatalogued.of_management hm, hported.of_management hm⟩
  · rintro v op ⟨hsound, hcatalogued, hported⟩ hop
    exact ⟨hsound.step op, hcatalogued.operate hsound hop, hported.operate hsound op⟩

/-- **Every call keeps the state steady.** -/
theorem Steady.call (hw : w.Steady N) {c : Call} (hc : c.hcd < N) : (w.call c).Steady N := by
  obtain ⟨hsound, hcatalogued, hported⟩ :=
    hw.accounts.sound_call hw.sound hw.catalogued hw.ported c
  exact ⟨hw.accounts.call hw.catalogued hw.wired hc, hsound, hcatalogued, hported⟩

/-- An initialised module is steady. -/
theorem Initialised.steady (hw : w.Initialised) : w.Steady N := by
  have hsound := hw.sound
  have hpeer := hw.peer
  obtain ⟨hubs, -, rfl⟩ := hw
  set w : World := { World.loaded with topo := ⟨hubs, fun _ => {}, []⟩ }
  refine ⟨Accounts.loaded N, hsound, ⟨?_, fun d hd => ?_⟩, fun d hd => ?_⟩
  · intro d hd
    exact absurd hd (by simp [w, World.loaded])
  · rw [Topology.peers, hpeer] at hd
    exact absurd hd (by simp)
  · exact absurd hd (by simp [w, World.loaded])

/-- **The module is in a steady state between two calls.** -/
theorem steady_of_reachable (hw : (calls N).Reachable w) : w.Steady N := by
  refine Machine.Reachable.invariant (I := Steady N) (fun _ => Initialised.steady) ?_ hw
  intro v c v' hv hs
  obtain ⟨hc, rfl⟩ := calls_step hs
  exact hv.call hc.1

end World

/-! ### A run -/

/-- A device is created, signals, is plugged into port 1, which is then reset, and file
`f` registers as its backend. -/
def Call.plugIn (f : FilePtr) : List Call :=
  [.ioctl 0 true f false ioctlDeviceCreate (.ofWords [7]) {},
   .ioctl 0 true f false ioctlDeviceConnection (.ofWords [1, 1]) {},
   .ioctl 0 true f false ioctlDeviceAttach (.ofWords [1, 0, 1]) {},
   .ioctl 0 true f false ioctlSetPortPower (.ofWords [0, 1, 1]) {},
   .hubControl 0 setPortFeature portFeatReset 1,
   .ioctl 0 true f false ioctlBackendRegister (.ofWords [1]) {}]

/-- Four bytes for endpoint 1 of the device at port 1. -/
def Urb.bulkOut : Urb where
  dev := some ⟨some 0, 1⟩
  pipe := 0xc0008000
  numSgs := 0
  numberOfPackets := 0
  setupPacket := none
  transferBuffer := some ⟨4, fun i => BitVec.ofNat 8 (i + 1)⟩
  transferBufferLength := 4
  actualLength := 0

/-- Four bytes from endpoint 1 of the device at port 1. -/
def Urb.bulkIn : Urb := { Urb.bulkOut with pipe := 0xc0008080 }

end VirtUsb
