/-
# Worlds that differ in their queues

Two worlds are alike if they differ in their queues and in the record of copies only
(`Alike`).  Outside the sections under `backend.lock` no function looks at a queue, so in
worlds that are alike it returns the same and leaves worlds that are alike (`Agree Alike`).
For each function there is one theorem, which follows its branches; the conditions of a branch
are the same in both worlds by definition.
-/

import VirtUsb.Serving.Delivery

namespace VirtUsb

/-- The world with other queues, and another record of copies. -/
def World.swap (w : World) (b : HcdId → Backend) (c : List Copy) : World :=
  { w with backends := b, copies := c }

/-- The first world is the second but for its queues and the copies on record. -/
def Alike (v v' : World) : Prop := ∃ b c, v = v'.swap b c

/-- The results of a function in two worlds are the same, and leave worlds related by `R`. -/
inductive Agree (R : World → World → Prop) {α : Type} : World × α → World × α → Prop
  | mk {v v' : World} (a : α) : R v v' → Agree R (v, a) (v', a)

namespace Agree

variable {R : World → World → Prop} {α : Type} {x x' : World × α}

/-- The worlds that are left are related. -/
theorem fst (h : Agree R x x') : R x.1 x'.1 := by
  cases h
  assumption

/-- The results are the same. -/
theorem snd (h : Agree R x x') : x.2 = x'.2 := by
  cases h
  rfl

/-- Related worlds and equal results agree. -/
theorem of_eq (h : R x.1 x'.1) (heq : x.2 = x'.2) : Agree R x x' := by
  obtain ⟨w, a⟩ := x
  obtain ⟨w', a'⟩ := x'
  obtain rfl : a = a' := heq
  exact .mk _ h

/-- A branch that is taken in both worlds or in neither. -/
theorem ite_of_iff {p q : Prop} [Decidable p] [Decidable q] {y y' : World × α} (hpq : p ↔ q)
    (hx : p → Agree R x x') (hy : ¬ p → Agree R y y') :
    Agree R (if p then x else y) (if q then x' else y') := by
  by_cases hp : p
  · rw [if_pos hp, if_pos (hpq.1 hp)]
    exact hx hp
  · rw [if_neg hp, if_neg (mt hpq.2 hp)]
    exact hy hp

/-- A branch on the same condition. -/
theorem ite {p : Prop} [Decidable p] {y y' : World × α} (hx : p → Agree R x x')
    (hy : ¬ p → Agree R y y') : Agree R (if p then x else y) (if p then x' else y') :=
  .ite_of_iff Iff.rfl hx hy

/-- The result that the function returns in both worlds. -/
theorem results (h : Agree R x x') : ∃ w w' a, R w w' ∧ x = (w, a) ∧ x' = (w', a) := by
  cases h
  exact ⟨_, _, _, by assumption, rfl, rfl⟩

end Agree

namespace Alike

variable {v v' : World}

/-- The same for functions that return nothing. -/
theorem ite {p : Prop} [Decidable p] {a b a' b' : World} (ha : p → Alike a a')
    (hb : ¬ p → Alike b b') : Alike (if p then a else b) (if p then a' else b') := by
  split
  · exact ha ‹_›
  · exact hb ‹_›

/-- Likeness follows along. -/
theorem trans {v'' : World} (hv : Alike v v') (hv' : Alike v' v'') : Alike v v'' := by
  obtain ⟨b, c, rfl⟩ := hv
  obtain ⟨b', c', rfl⟩ := hv'
  exact ⟨b, c, rfl⟩

/-- The queues are no part of what is alike. -/
theorem setBackend (hv : Alike v v') (h h' : HcdId) (b b' : Backend) :
    Alike (v.setBackend h b) (v'.setBackend h' b') := by
  obtain ⟨_, c, rfl⟩ := hv
  exact ⟨_, c, rfl⟩

/-! ### Objects -/

/-- Worlds that are alike stay so with the same new topology. -/
theorem withTopo (hv : Alike v v') (t : Topology) :
    Alike { v with topo := t } { v' with topo := t } := by
  obtain ⟨b, c, rfl⟩ := hv
  exact ⟨b, c, rfl⟩

/-- The topology is the same. -/
theorem topo (hv : Alike v v') : v.topo = v'.topo := by
  obtain ⟨b, c, rfl⟩ := hv
  rfl

/-- The objects are the same. -/
theorem objects (hv : Alike v v') : v.objects = v'.objects := by
  obtain ⟨b, c, rfl⟩ := hv
  rfl

/-- `virtusb_object_get` looks at no queue. -/
theorem objectGet (hv : Alike v v') (d : DevicePtr) : Alike (v.objectGet d) (v'.objectGet d) := by
  obtain ⟨b, c, rfl⟩ := hv
  exact ⟨b, c, rfl⟩

/-- `virtusb_object_put` looks at no queue. -/
theorem objectPut (hv : Alike v v') (d : DevicePtr) : Alike (v.objectPut d) (v'.objectPut d) := by
  obtain ⟨b, c, rfl⟩ := hv
  exact .ite (fun _ => ⟨b, c, rfl⟩) fun _ => ⟨b, c, rfl⟩

/-- `virtusb_object_register` looks at no queue. -/
theorem objectRegister (hv : Alike v v') (d : DevicePtr) (type : ObjectType)
    (xaInsert : Except Errno Unit) :
    Agree Alike (v.objectRegister d type xaInsert) (v'.objectRegister d type xaInsert) := by
  have hheld := hv.objectGet d
  obtain ⟨b, c, rfl⟩ := hv
  refine .ite (fun _ => .mk _ ⟨b, c, rfl⟩) fun _ => .ite (fun _ => .mk _ ⟨b, c, rfl⟩) fun _ =>
    .ite (fun _ => .mk _ ⟨b, c, rfl⟩) fun _ => ?_
  cases xaInsert with
  | error e => exact .mk _ (hheld.objectPut d)
  | ok _ => exact .mk _ ⟨b, c, rfl⟩

/-- `virtusb_object_unregister` looks at no queue. -/
theorem objectUnregister (hv : Alike v v') (d : DevicePtr) :
    Agree Alike (v.objectUnregister d) (v'.objectUnregister d) := by
  have hlocked : Agree Alike (v.objectUnregisterLocked d) (v'.objectUnregisterLocked d) := by
    obtain ⟨b, c, rfl⟩ := hv
    exact .ite (fun _ => .mk _ ⟨b, c, rfl⟩) fun _ => .ite (fun _ => .mk _ ⟨b, c, rfl⟩) fun _ =>
      .mk _ ⟨b, c, rfl⟩
  rw [World.objectUnregister, World.objectUnregister]
  generalize v.objectUnregisterLocked d = x at hlocked ⊢
  generalize v'.objectUnregisterLocked d = x' at hlocked ⊢
  obtain ⟨e | _, hv⟩ := hlocked
  · exact .mk _ hv
  · exact .mk _ (hv.objectPut d)

/-- `virtusb_object_lookup` looks at no queue. -/
theorem objectLookup (hv : Alike v v') (id : ObjectId) :
    Agree Alike (v.objectLookup id) (v'.objectLookup id) := by
  have htable : v.objectTable = v'.objectTable := by
    obtain ⟨b, c, rfl⟩ := hv
    rfl
  rw [World.objectLookup, World.objectLookup, htable]
  refine .ite (fun _ => .mk _ hv) fun _ => ?_
  cases v'.objectTable id with
  | none => exact .mk _ hv
  | some d => exact .mk _ (hv.objectGet d)

/-! ### Devices -/

/-- `virtusb_device_create` looks at no queue. -/
theorem deviceCreate (hv : Alike v v') (speed : Byte) (env : Env) :
    Agree Alike (v.deviceCreate speed env) (v'.deviceCreate speed env) := by
  have halloc : Alike v.objectAlloc v'.objectAlloc := by
    obtain ⟨b, c, rfl⟩ := hv
    exact ⟨b, c, rfl⟩
  have hnext : v.nextDevice = v'.nextDevice := by
    obtain ⟨b, c, rfl⟩ := hv
    rfl
  rw [World.deviceCreate, World.deviceCreate, hnext]
  refine .ite (fun _ => .mk _ hv) fun _ => ?_
  dsimp only
  rw [halloc.topo]
  cases portInit .upstream speed (.device v'.nextDevice) with
  | error e => exact .mk _ (halloc.objectPut _)
  | ok port =>
      obtain ⟨w, w', e | _, hw, hx, hx'⟩ := ((halloc.withTopo
        (v'.objectAlloc.topo.setPort (.upstream v'.nextDevice) port)).objectRegister
          v'.nextDevice .device env.xaInsert).results
      · simp only [hx, hx']
        exact .mk _ (hw.objectPut _)
      · simp only [hx, hx']
        exact .mk _ hw

/-- `virtusb_device_destroy` looks at no queue. -/
theorem deviceDestroy (hv : Alike v v') (d : DevicePtr) (force : Bool) :
    Agree Alike (v.deviceDestroy d force) (v'.deviceDestroy d force) := by
  rw [World.deviceDestroy, World.deviceDestroy, hv.topo]
  refine .ite (fun _ => .ite (fun _ => .mk _ hv) fun _ => ?_) fun _ => hv.objectUnregister d
  rcases v'.topo.deviceSetConnectionSignaling d false with ⟨t, e | _⟩
  · exact .mk _ (hv.withTopo t)
  · exact (hv.withTopo _).objectUnregister d

/-- The handler of `VIRTUSB_IOCTL_DEVICE_CREATE`. -/
theorem controlDeviceCreate (hv : Alike v v') (request : DeviceCreate) (env : Env) :
    Agree Alike (v.controlDeviceCreate request env) (v'.controlDeviceCreate request env) := by
  refine .ite (fun _ => .mk _ hv) fun _ => .ite (fun _ => .mk _ hv) fun _ => ?_
  obtain ⟨w, w', e | d, hw, hx, hx'⟩ := (hv.deviceCreate (request.speedCaps.setWidth 8) env).results
  · simp only [hx, hx']
    exact .mk _ hw
  · simp only [hx, hx', hw.objects]
    exact .ite (fun _ => .mk _ ((hw.deviceDestroy d true).fst.objectPut d)) fun _ =>
      .mk _ (hw.objectPut d)

/-- The handler of `VIRTUSB_IOCTL_DEVICE_DESTROY`. -/
theorem controlDeviceDestroy (hv : Alike v v') (request : DeviceDestroy) (env : Env) :
    Agree Alike (v.controlDeviceDestroy request env) (v'.controlDeviceDestroy request env) := by
  refine .ite (fun _ => .mk _ hv) fun _ => .ite (fun _ => .mk _ hv) fun _ => ?_
  obtain ⟨w, w', _ | d, hw, hx, hx'⟩ := (hv.objectLookup request.objectId).results
  · simp only [hx, hx']
    exact .mk _ hw
  · simp only [hx, hx', hw.objects]
    refine .ite (fun _ => .mk _ (hw.objectPut d)) fun _ => ?_
    have hdestroyed := hw.deviceDestroy d (request.flags &&& deviceDestroyForce ≠ 0)
    exact .of_eq (hdestroyed.fst.objectPut d) hdestroyed.snd

/-- The lookup that the other handlers begin with. -/
theorem controlLookupDevice (hv : Alike v v') (id : ObjectId) :
    Agree Alike (v.controlLookupDevice id) (v'.controlLookupDevice id) := by
  refine .ite (fun _ => .mk _ hv) fun _ => ?_
  obtain ⟨w, w', _ | d, hw, hx, hx'⟩ := (hv.objectLookup id).results
  · simp only [hx, hx']
    exact .mk _ hw
  · simp only [hx, hx', hw.objects]
    exact .ite (fun _ => .mk _ (hw.objectPut d)) fun _ => .mk _ hw

/-- The handler of `VIRTUSB_IOCTL_DEVICE_ATTACH`. -/
theorem controlDeviceAttach (hv : Alike v v') (h : HcdId) (request : DeviceAttach) (env : Env) :
    Agree Alike (v.controlDeviceAttach h request env) (v'.controlDeviceAttach h request env) := by
  rw [World.controlDeviceAttach, World.controlDeviceAttach, hv.topo]
  refine .ite (fun _ => .mk _ hv) fun _ => .ite (fun _ => .mk _ hv) fun _ => ?_
  cases v'.topo.hubGetPort h request.port with
  | none => exact .mk _ hv
  | some port =>
      obtain ⟨w, w', e | d, hw, hx, hx'⟩ := (hv.controlLookupDevice request.objectId).results
      · simp only [hx, hx']
        exact .mk _ hw
      · simp only [hx, hx', hw.topo]
        exact .mk _ ((hw.withTopo _).objectPut d)

/-- The handler of `VIRTUSB_IOCTL_DEVICE_DETACH`. -/
theorem controlDeviceDetach (hv : Alike v v') (request : DeviceObject) (env : Env) :
    Agree Alike (v.controlDeviceDetach request env) (v'.controlDeviceDetach request env) := by
  refine .ite (fun _ => .mk _ hv) fun _ => ?_
  obtain ⟨w, w', e | d, hw, hx, hx'⟩ := (hv.controlLookupDevice request.objectId).results
  · simp only [hx, hx']
    exact .mk _ hw
  · simp only [hx, hx', hw.topo]
    exact .mk _ ((hw.withTopo _).objectPut d)

/-- The handler of `VIRTUSB_IOCTL_DEVICE_CONNECTION`. -/
theorem controlDeviceConnection (hv : Alike v v') (request : DeviceConnection) (env : Env) :
    Agree Alike (v.controlDeviceConnection request env)
      (v'.controlDeviceConnection request env) := by
  refine .ite (fun _ => .mk _ hv) fun _ => .ite (fun _ => .mk _ hv) fun _ => ?_
  obtain ⟨w, w', e | d, hw, hx, hx'⟩ := (hv.controlLookupDevice request.objectId).results
  · simp only [hx, hx']
    exact .mk _ hw
  · simp only [hx, hx', hw.topo]
    exact .mk _ ((hw.withTopo _).objectPut d)

/-- The handler of `VIRTUSB_IOCTL_SET_PORT_POWER`. -/
theorem controlSetPortPower (hv : Alike v v') (h : HcdId) (request : PortPower) (env : Env) :
    Agree Alike (v.controlSetPortPower h request env) (v'.controlSetPortPower h request env) := by
  rw [World.controlSetPortPower, World.controlSetPortPower, hv.topo]
  exact .ite (fun _ => .mk _ hv) fun _ => .ite (fun _ => .mk _ hv) fun _ =>
    .ite (fun _ => .mk _ hv) fun _ => .mk _ (hv.withTopo _)

/-! ### Transfers -/

/-- The transfers are the same. -/
theorem transfers (hv : Alike v v') : v.transfers = v'.transfers := by
  obtain ⟨b, c, rfl⟩ := hv
  rfl

/-- The devices of transfers are the same. -/
theorem device (hv : Alike v v') : v.device = v'.device := by
  funext t
  rw [World.device, World.device, hv.transfers]

/-- The URBs are the same. -/
theorem urbs (hv : Alike v v') : v.urbs = v'.urbs := by
  obtain ⟨b, c, rfl⟩ := hv
  rfl

/-- The same write to a transfer. -/
theorem setTransfer (hv : Alike v v') (t : TransferPtr) (x : Transfer) :
    Alike (v.setTransfer t x) (v'.setTransfer t x) := by
  obtain ⟨b, c, rfl⟩ := hv
  exact ⟨b, c, rfl⟩

/-- The same write to a URB. -/
theorem setUrb (hv : Alike v v') (u : UrbPtr) (x : Urb) : Alike (v.setUrb u x) (v'.setUrb u x) := by
  obtain ⟨b, c, rfl⟩ := hv
  exact ⟨b, c, rfl⟩

/-- The same copy, and the same buffer from it; only its record may follow different records. -/
theorem copy (hv : Alike v v') (dst src : Option Buffer) (length : ℕ) :
    Agree Alike (v.copy dst src length) (v'.copy dst src length) := by
  obtain ⟨b, c, rfl⟩ := hv
  exact .mk _ ⟨b, _, rfl⟩

/-- The same copy of a setup packet. -/
theorem copySetup (hv : Alike v v') (setup : Option SetupPacket) :
    Alike (v.copySetup setup) (v'.copySetup setup) := by
  obtain ⟨b, c, rfl⟩ := hv
  exact .ite (fun _ => ⟨b, _, rfl⟩) fun _ => ⟨b, c, rfl⟩

/-- `virtusb_transfer_get` looks at no queue. -/
theorem transferGet (hv : Alike v v') (t : TransferPtr) :
    Alike (v.transferGet t) (v'.transferGet t) := by
  obtain ⟨b, c, rfl⟩ := hv
  exact ⟨b, c, rfl⟩

/-- `virtusb_transfer_put` looks at no queue, the release included. -/
theorem transferPut (hv : Alike v v') (t : TransferPtr) :
    Alike (v.transferPut t) (v'.transferPut t) := by
  have hdropped := hv.setTransfer t
    { v'.transfers t with refcount := (v'.transfers t).refcount - 1 }
  rw [World.transferPut, World.transferPut, hv.transfers]
  refine .ite (fun _ => ?_) fun _ => hdropped
  have hfreed : v.freedTransfers = v'.freedTransfers := by
    obtain ⟨b, c, rfl⟩ := hv
    rfl
  have hrelease : ∀ {x x' : World}, Alike x x' → x.freedTransfers = x'.freedTransfers →
      Alike (x.transferRelease t) (x'.transferRelease t) := by
    intro x x' hx heq
    rw [World.transferRelease, World.transferRelease, heq, hx.transfers]
    obtain ⟨b, c, hput⟩ := hx.objectPut (x'.transfers t).device
    rw [hput]
    exact ⟨b, c, rfl⟩
  exact hrelease hdropped hfreed

/-- `virtusb_transfer_mark_queued` looks at no queue. -/
theorem transferMarkQueued (hv : Alike v v') (t : TransferPtr) :
    Agree Alike (v.transferMarkQueued t) (v'.transferMarkQueued t) := by
  rw [World.transferMarkQueued, World.transferMarkQueued, hv.transfers]
  exact .ite (fun _ => .mk _ hv) fun _ => .mk _ (hv.setTransfer t _)

/-- `virtusb_transfer_complete` looks at no queue. -/
theorem transferComplete (hv : Alike v v') (t : TransferPtr) (status : ℤ) (actualLength : ℕ) :
    Agree Alike (v.transferComplete t status actualLength)
      (v'.transferComplete t status actualLength) := by
  rw [World.transferComplete, World.transferComplete, hv.transfers]
  exact .ite (fun _ => .mk _ hv) fun _ => .ite (fun _ => .mk _ hv) fun _ =>
    .mk _ (hv.setTransfer t _)

/-- `virtusb_transfer_cancel` looks at no queue. -/
theorem transferCancel (hv : Alike v v') (t : TransferPtr) (status : ℤ) :
    Agree Alike (v.transferCancel t status) (v'.transferCancel t status) := by
  rw [World.transferCancel, World.transferCancel, hv.transfers]
  exact .ite (fun _ => .mk _ hv) fun _ => .mk _ (hv.setTransfer t _)

/-- The allocation of a buffer looks at no queue. -/
theorem transferBuffer (hv : Alike v v') (a : TransferArgs) (garbage : ℕ → Byte) :
    Agree Alike (v.transferBuffer a garbage) (v'.transferBuffer a garbage) :=
  .ite (fun _ => .mk _ hv) fun _ => .ite (fun _ => hv.copy _ _ _) fun _ => .mk _ hv

/-- `virtusb_transfer_create` looks at no queue. -/
theorem transferCreate (hv : Alike v v') (d : DevicePtr) (a : TransferArgs) (env : Env) :
    Agree Alike (v.transferCreate d a env) (v'.transferCreate d a env) := by
  refine .ite (fun _ => .mk _ hv) fun _ => .ite (fun _ => .mk _ hv) fun _ =>
    .ite (fun _ => .mk _ hv) fun _ => ?_
  obtain ⟨w, w', buffer, hw, hx, hx'⟩ := (hv.transferBuffer a env.garbage).results
  obtain ⟨b, c, heq⟩ := (hw.objectGet d).copySetup a.setup
  have hnext : w.nextTransfer = w'.nextTransfer ∧ w.transferNextId = w'.transferNextId := by
    obtain ⟨b, c, rfl⟩ := hw
    exact ⟨rfl, rfl⟩
  simp only [hx, hx', hnext, heq]
  exact .mk _ ⟨b, c, rfl⟩

/-! ### The USB core -/

/-- `usb_hcd_link_urb_to_ep` looks at the URB only. -/
theorem usbHcdLinkUrbToEp (hv : Alike v v') (u : UrbPtr) (link : Except Errno Unit) :
    Agree Alike (v.usbHcdLinkUrbToEp u link) (v'.usbHcdLinkUrbToEp u link) := by
  cases link with
  | error e => exact .mk _ hv
  | ok _ =>
      rw [World.usbHcdLinkUrbToEp, World.usbHcdLinkUrbToEp, hv.urbs]
      exact .mk _ (hv.setUrb u _)

/-- `usb_hcd_unlink_urb_from_ep` looks at the URB only. -/
theorem usbHcdUnlinkUrbFromEp (hv : Alike v v') (u : UrbPtr) :
    Alike (v.usbHcdUnlinkUrbFromEp u) (v'.usbHcdUnlinkUrbFromEp u) := by
  rw [World.usbHcdUnlinkUrbFromEp, World.usbHcdUnlinkUrbFromEp, hv.urbs]
  exact hv.setUrb u _

/-- `virtusb_backend_giveback` looks at no queue. -/
theorem backendGiveback (hv : Alike v v') (request : Request) (status : ℤ) :
    Alike (v.backendGiveback request status) (v'.backendGiveback request status) := by
  refine transferPut ?_ request.transfer
  obtain ⟨b, c, rfl⟩ := hv
  exact ⟨b, c, rfl⟩

/-- The device of a URB is found in the topology. -/
theorem hcdGetUrbDevice (hv : Alike v v') (h : HcdId) (urb : Urb) :
    v.hcdGetUrbDevice h urb = v'.hcdGetUrbDevice h urb := by
  obtain ⟨b, c, rfl⟩ := hv
  rfl

/-! ### Outside the lock of a backend -/

/-- A submission before its lock. -/
theorem submitPrepare (hv : Alike v v') (t : TransferPtr) (env : Env) :
    Agree Alike (v.submitPrepare t env) (v'.submitPrepare t env) := by
  rw [World.submitPrepare, World.submitPrepare, hv.transfers]
  refine .ite (fun _ => .mk _ hv) fun _ => .ite (fun _ => .mk _ hv) fun _ => ?_
  obtain ⟨w, w', e | _, hw, hx, hx'⟩ := ((hv.transferGet t).transferMarkQueued t).results
  · simp only [hx, hx']
    exact .mk _ (hw.transferPut t)
  · simp only [hx, hx']
    exact .mk _ hw

/-- A submission that ends with an error. -/
theorem submitFailed (hv : Alike v v') (t : TransferPtr) (e : Errno) :
    Alike (v.submitFailed t e) (v'.submitFailed t e) :=
  (hv.transferCancel t e.status).fst.transferPut t

/-- A cancellation after its lock. -/
theorem cancelTail (hv : Alike v v') (request : Request) (status : ℤ) :
    Alike (v.cancelTail request status) (v'.cancelTail request status) :=
  (hv.transferCancel request.transfer status).fst.backendGiveback request status

/-- A pass of a drain after its lock. -/
theorem drainTail (hv : Alike v v') (request : Request) :
    Alike (v.drainTail request) (v'.drainTail request) :=
  (hv.transferCancel request.transfer _).fst.backendGiveback request _

/-- A fetch after its lock. -/
theorem fetchTail (hv : Alike v v') (t : TransferPtr) :
    Agree Alike (v.fetchTail t) (v'.fetchTail t) := by
  refine .of_eq ?_ ?_
  · simp only [World.fetchTail, hv.transfers]
    have hsetup := hv.copySetup (v'.transfers t).setup
    split
    · rw [World.fetchHeader, World.fetchHeader, hv.transfers, hv.objects]
      exact (hsetup.copy _ _ _).fst.transferPut t
    · exact hsetup.transferPut t
  · rw [World.fetchTail_message, World.fetchTail_message, hv.transfers, hv.objects, hv.device]

/-- The copies of a completion. -/
theorem completeCopy (hv : Alike v v') (request : Request) (data : ℕ → Byte) (actualLength : ℕ) :
    Alike (v.completeCopy request data actualLength)
      (v'.completeCopy request data actualLength) := by
  simp only [World.completeCopy, hv.transfers]
  refine .ite (fun _ => ?_) fun _ => hv
  obtain ⟨w, w', buffer, hw, hx, hx'⟩ := (hv.copy (v'.transfers request.transfer).buffer
    (some ⟨transferDataMax, data⟩) actualLength).results
  simp only [hx, hx']
  have hset := hw.setTransfer request.transfer
    { v'.transfers request.transfer with buffer := buffer }
  have hcopied := hset.copy (((w'.setTransfer request.transfer
    { v'.transfers request.transfer with buffer := buffer }).urbs request.urb).transferBuffer)
    buffer actualLength
  rw [hset.urbs, hcopied.snd]
  exact hcopied.fst.setUrb request.urb _

/-- A completion after its lock. -/
theorem completeTail (hv : Alike v v') (request : Request) (completion : TransferCompleteRequest) :
    Agree Alike (v.completeTail request completion) (v'.completeTail request completion) := by
  rw [World.completeTail, World.completeTail, hv.transfers]
  refine .ite (fun _ => .mk _ ((hv.transferCancel _ _).fst.backendGiveback request _)) fun _ => ?_
  obtain ⟨w, w', e | _, hw, hx, hx'⟩ := ((hv.completeCopy request completion.data
    completion.actualLength).transferComplete request.transfer completion.status
      completion.actualLength).results
  · simp only [hx, hx']
    exact .mk _ ((hw.transferCancel _ _).fst.backendGiveback request _)
  · simp only [hx, hx', hw.urbs]
    exact .mk _ ((hw.setUrb request.urb _).backendGiveback request _)

end Alike

end VirtUsb
