/-
# A request is served the same whatever becomes of its device

The other direction of `Planes.Control` holds between two admissions.  What is
handed over or bound depends on what is plugged in, but what is queued does not: no call of
the control plane takes a request back, keeps it from a backend, or changes its data or its
id, be the device unplugged, switched off, reset or destroyed meanwhile
(`requests_undisturbed`).  The functions that serve requests return the same and leave the same
traffic, whatever the control plane manages (`SameTraffic`), but for the object id in a message.
-/

import VirtUsb.Planes.Control
import VirtUsb.Serving.Rollback

namespace VirtUsb

open Transition World

/-- The world with what the control plane manages in another. -/
def World.over (v x : World) : World :=
  { v with
    topo := x.topo
    objects := x.objects
    nextDevice := x.nextDevice
    released := x.released
    objectTable := x.objectTable
    nextObjectId := x.nextObjectId }

/-- The worlds differ in what the control plane manages only. -/
def SameTraffic (v v' : World) : Prop := ∃ x : World, v = v'.over x

namespace SameTraffic

variable {v v' : World} {h : HcdId}

/-- The same traffic, as an equation. -/
theorem iff_traffic : SameTraffic v v' ↔ v.traffic = v'.traffic := by
  constructor
  · rintro ⟨x, rfl⟩
    rfl
  · intro hv
    exact ⟨v, (congrArg (World.over · v) hv :)⟩

/-- A world has its own traffic. -/
theorem refl (v : World) : SameTraffic v v := iff_traffic.2 rfl

/-- What leaves the traffic alone may happen on either side. -/
theorem congr {w w' : World} (hv : SameTraffic v v') (hw : w.traffic = v.traffic)
    (hw' : w'.traffic = v'.traffic) : SameTraffic w w' :=
  iff_traffic.2 (hw.trans ((iff_traffic.1 hv).trans hw'.symm))

/-- The backends are the same. -/
theorem backends (hv : SameTraffic v v') : v.backends = v'.backends := by
  obtain ⟨x, rfl⟩ := hv
  rfl

/-- The transfers are the same. -/
theorem transfers (hv : SameTraffic v v') : v.transfers = v'.transfers := by
  obtain ⟨x, rfl⟩ := hv
  rfl

/-- The URBs are the same. -/
theorem urbs (hv : SameTraffic v v') : v.urbs = v'.urbs := by
  obtain ⟨x, rfl⟩ := hv
  rfl

/-- Transfers are for the same devices. -/
theorem device (hv : SameTraffic v v') : v.device = v'.device := by
  obtain ⟨x, rfl⟩ := hv
  rfl

/-- The same write to a transfer. -/
theorem setTransfer (hv : SameTraffic v v') (t : TransferPtr) (y : Transfer) :
    SameTraffic (v.setTransfer t y) (v'.setTransfer t y) := by
  obtain ⟨x, rfl⟩ := hv
  exact ⟨x, rfl⟩

/-- The same write to a URB. -/
theorem setUrb (hv : SameTraffic v v') (u : UrbPtr) (y : Urb) :
    SameTraffic (v.setUrb u y) (v'.setUrb u y) := by
  obtain ⟨x, rfl⟩ := hv
  exact ⟨x, rfl⟩

/-- The same write to a backend. -/
theorem setBackend (hv : SameTraffic v v') (b : Backend) :
    SameTraffic (v.setBackend h b) (v'.setBackend h b) := by
  obtain ⟨x, rfl⟩ := hv
  exact ⟨x, rfl⟩

/-! ### Transfers -/

/-- The same copy of data. -/
theorem copy (hv : SameTraffic v v') (dst src : Option Buffer) (length : ℕ) :
    Agree SameTraffic (v.copy dst src length) (v'.copy dst src length) := by
  obtain ⟨x, rfl⟩ := hv
  exact .mk _ ⟨x, rfl⟩

/-- The same copy of a setup packet. -/
theorem copySetup (hv : SameTraffic v v') (setup : Option SetupPacket) :
    SameTraffic (v.copySetup setup) (v'.copySetup setup) := by
  obtain ⟨x, rfl⟩ := hv
  rw [World.copySetup, World.copySetup]
  split <;> exact ⟨x, rfl⟩

/-- `virtusb_transfer_get`. -/
theorem transferGet (hv : SameTraffic v v') (t : TransferPtr) :
    SameTraffic (v.transferGet t) (v'.transferGet t) := by
  obtain ⟨x, rfl⟩ := hv
  exact ⟨x, rfl⟩

/-- A transfer that is freed drops its reference to the device, which is no traffic. -/
theorem traffic_transferRelease (w : World) (t : TransferPtr) : (w.transferRelease t).traffic =
    { w.traffic with freedTransfers := w.traffic.freedTransfers ++ [t] } :=
  (congrArg (fun x : World => { x with freedTransfers := w.freedTransfers ++ [t] })
    (traffic_objectPut w (w.transfers t).device) :)

/-- `virtusb_transfer_put`, the release included. -/
theorem transferPut (hv : SameTraffic v v') (t : TransferPtr) :
    SameTraffic (v.transferPut t) (v'.transferPut t) := by
  have hdropped := hv.setTransfer t
    { v'.transfers t with refcount := (v'.transfers t).refcount - 1 }
  rw [World.transferPut, World.transferPut, hv.transfers]
  split
  · rw [iff_traffic, traffic_transferRelease, traffic_transferRelease, iff_traffic.1 hdropped]
  · exact hdropped

/-- `virtusb_transfer_complete`. -/
theorem transferComplete (hv : SameTraffic v v') (t : TransferPtr) (status : ℤ)
    (actualLength : ℕ) :
    Agree SameTraffic (v.transferComplete t status actualLength)
      (v'.transferComplete t status actualLength) := by
  rw [World.transferComplete, World.transferComplete, hv.transfers]
  exact .ite (fun _ => .mk _ hv) fun _ => .ite (fun _ => .mk _ hv) fun _ =>
    .mk _ (hv.setTransfer t _)

/-- `virtusb_transfer_cancel`. -/
theorem transferCancel (hv : SameTraffic v v') (t : TransferPtr) (status : ℤ) :
    Agree SameTraffic (v.transferCancel t status) (v'.transferCancel t status) := by
  rw [World.transferCancel, World.transferCancel, hv.transfers]
  exact .ite (fun _ => .mk _ hv) fun _ => .mk _ (hv.setTransfer t _)

/-! ### The USB core -/

/-- `usb_hcd_check_unlink_urb`. -/
theorem usbHcdCheckUnlinkUrb (hv : SameTraffic v v') (u : UrbPtr) :
    Agree SameTraffic (v.usbHcdCheckUnlinkUrb u) (v'.usbHcdCheckUnlinkUrb u) := by
  rw [World.usbHcdCheckUnlinkUrb, World.usbHcdCheckUnlinkUrb, hv.urbs]
  exact .ite (fun _ => .mk _ hv) fun _ => .ite (fun _ => .mk _ hv) fun _ => .mk _ (hv.setUrb u _)

/-- `usb_hcd_unlink_urb_from_ep`. -/
theorem usbHcdUnlinkUrbFromEp (hv : SameTraffic v v') (u : UrbPtr) :
    SameTraffic (v.usbHcdUnlinkUrbFromEp u) (v'.usbHcdUnlinkUrbFromEp u) := by
  rw [World.usbHcdUnlinkUrbFromEp, World.usbHcdUnlinkUrbFromEp, hv.urbs]
  exact hv.setUrb u _

/-- `virtusb_backend_giveback`. -/
theorem backendGiveback (hv : SameTraffic v v') (request : Request) (status : ℤ) :
    SameTraffic (v.backendGiveback request status) (v'.backendGiveback request status) := by
  refine transferPut ?_ request.transfer
  obtain ⟨x, rfl⟩ := hv
  exact ⟨x, rfl⟩

/-- A request is cancelled and its URB given back. -/
theorem cancelTail (hv : SameTraffic v v') (request : Request) (status : ℤ) :
    SameTraffic (v.cancelTail request status) (v'.cancelTail request status) :=
  (hv.transferCancel request.transfer status).fst.backendGiveback request status

/-- A pass of a drain after its lock. -/
theorem drainTail (hv : SameTraffic v v') (request : Request) :
    SameTraffic (v.drainTail request) (v'.drainTail request) :=
  hv.cancelTail request _

/-! ### The backend -/

/-- `virtusb_backend_cancel`. -/
theorem backendCancel (hv : SameTraffic v v') (h : HcdId) (u : UrbPtr) (status : ℤ) :
    Agree SameTraffic (v.backendCancel h u status) (v'.backendCancel h u status) := by
  have hlocked : Agree SameTraffic (v.cancelLocked h u) (v'.cancelLocked h u) := by
    rw [World.cancelLocked, World.cancelLocked]
    obtain ⟨w, w', e | _, hw, hx, hx'⟩ := (hv.usbHcdCheckUnlinkUrb u).results
    · rw [hx, hx']
      exact .mk _ hw
    rw [hx, hx']
    dsimp only
    rw [hw.backends]
    rcases (w'.backends h).findUrbLocked u with _ | request
    · exact .mk _ hw
    · exact .mk _ ((hw.setBackend _).usbHcdUnlinkUrbFromEp u)
  rw [World.backendCancel, World.backendCancel]
  obtain ⟨w, w', e | request, hw, hx, hx'⟩ := hlocked.results
  · rw [hx, hx']
    exact .mk _ hw
  · rw [hx, hx']
    exact .mk _ (hw.cancelTail request status)

/-- The search by device finds the same request. -/
theorem findPendingDeviceLocked (hv : SameTraffic v v') (h : HcdId) (d : DevicePtr) :
    v.findPendingDeviceLocked h d = v'.findPendingDeviceLocked h d := by
  obtain ⟨x, rfl⟩ := hv
  rfl

/-- The search by id finds the same request. -/
theorem findIdLocked (hv : SameTraffic v v') (h : HcdId) (f : FilePtr) (id : BitVec 64) :
    v.findIdLocked h f id = v'.findIdLocked h f id := by
  obtain ⟨x, rfl⟩ := hv
  rfl

/-- The message says the id of the object, all else in it is traffic. -/
theorem fetchTail (hv : SameTraffic v v') (t : TransferPtr)
    (hid : (v.objects (v.device t)).id = (v'.objects (v'.device t)).id) :
    Agree SameTraffic (v.fetchTail t) (v'.fetchTail t) := by
  have hsetup := hv.copySetup (v'.transfers t).setup
  refine .of_eq ?_ ?_
  · simp only [World.fetchTail, hv.transfers]
    split
    · exact (hsetup.copy _ _ _).fst.transferPut t
    · exact hsetup.transferPut t
  · rw [World.fetchTail_message, World.fetchTail_message, hv.transfers, hid]

/-- `virtusb_backend_fetch`, whose message has the id of the device. -/
theorem backendFetch (hv : SameTraffic v v') (h : HcdId) (f : FilePtr) (nonblock : Bool)
    (hid : ∀ r ∈ (v.backends h).pending,
      (v.objects (v.requestDevice r)).id = (v'.objects (v'.requestDevice r)).id) :
    Agree SameTraffic (v.backendFetch h f nonblock) (v'.backendFetch h f nonblock) := by
  have hlocked : Agree SameTraffic (v.fetchLocked h f) (v'.fetchLocked h f) := by
    simp only [World.fetchLocked, hv.backends, hv.findPendingDeviceLocked]
    rcases (v'.backends h).findOwnerLocked f with _ | binding
    · exact .mk _ hv
    dsimp only
    rcases v'.findPendingDeviceLocked h binding.device with _ | request
    · exact .ite (fun _ => .mk _ hv) fun _ => .mk _ hv
    · exact .mk _ ((hv.setBackend _).transferGet request.transfer)
  rw [World.backendFetch, World.backendFetch]
  obtain ⟨w, w', r | e | _, hw, hx, hx'⟩ := hlocked.results
  · rw [hx, hx']
    obtain ⟨⟨binding, -, hfind⟩, hv₁⟩ := World.fetchLocked_taken_eq hx
    obtain ⟨-, hv₁'⟩ := World.fetchLocked_taken_eq hx'
    have htaken : (w.objects (w.device r.transfer)).id = (w'.objects (w'.device r.transfer)).id := by
      have hqueued := hid r (List.mem_of_find?_eq_some hfind)
      rw [hv₁, hv₁']
      simpa [World.device, World.requestDevice, World.transferGet, World.setTransfer,
        World.setBackend] using hqueued
    have htail := hw.fetchTail r.transfer htaken
    exact .of_eq htail.fst (congrArg Except.ok htail.snd)
  · rw [hx, hx']
    exact .mk _ hw
  · rw [hx, hx']
    exact .mk _ hw

/-- `virtusb_backend_fetch_rollback`. -/
theorem backendFetchRollback (hv : SameTraffic v v') (h : HcdId) (f : FilePtr) (id : BitVec 64) :
    Agree SameTraffic (v.backendFetchRollback h f id) (v'.backendFetchRollback h f id) := by
  rw [World.backendFetchRollback, World.backendFetchRollback]
  refine .ite (fun _ => .mk _ hv) fun _ => ?_
  rw [World.rollbackLocked, World.rollbackLocked, hv.findIdLocked]
  rcases v'.findIdLocked h f id with _ | request
  · exact .mk _ hv
  · dsimp only
    rw [hv.backends]
    exact .mk _ (hv.setBackend _)

/-- The copies of a completion. -/
theorem completeCopy (hv : SameTraffic v v') (request : Request) (data : ℕ → Byte)
    (actualLength : ℕ) :
    SameTraffic (v.completeCopy request data actualLength)
      (v'.completeCopy request data actualLength) := by
  simp only [World.completeCopy, hv.transfers]
  split
  swap
  · exact hv
  obtain ⟨w, w', buffer, hw, hx, hx'⟩ := (hv.copy (v'.transfers request.transfer).buffer
    (some ⟨transferDataMax, data⟩) actualLength).results
  simp only [hx, hx']
  have hset := hw.setTransfer request.transfer
    { v'.transfers request.transfer with buffer := buffer }
  have hcopied := hset.copy (((w'.setTransfer request.transfer
    { v'.transfers request.transfer with buffer := buffer }).urbs request.urb).transferBuffer)
    buffer actualLength
  rw [hset.urbs, hcopied.snd]
  exact hcopied.fst.setUrb request.urb _

/-- A completion after its lock. -/
theorem completeTail (hv : SameTraffic v v') (request : Request)
    (completion : TransferCompleteRequest) :
    Agree SameTraffic (v.completeTail request completion) (v'.completeTail request completion) := by
  rw [World.completeTail, World.completeTail, hv.transfers]
  refine .ite (fun _ => .mk _ (hv.cancelTail request _)) fun _ => ?_
  obtain ⟨w, w', e | _, hw, hx, hx'⟩ := ((hv.completeCopy request completion.data
    completion.actualLength).transferComplete request.transfer completion.status
      completion.actualLength).results
  · simp only [hx, hx']
    exact .mk _ (hw.cancelTail request _)
  · simp only [hx, hx', hw.urbs]
    exact .mk _ ((hw.setUrb request.urb _).backendGiveback request _)

/-- `virtusb_backend_complete`. -/
theorem backendComplete (hv : SameTraffic v v') (h : HcdId) (f : FilePtr)
    (completion : TransferCompleteRequest) :
    Agree SameTraffic (v.backendComplete h f completion) (v'.backendComplete h f completion) := by
  rw [World.backendComplete, World.backendComplete]
  refine .ite (fun _ => .mk _ hv) fun _ => ?_
  rw [World.completeLocked, World.completeLocked, hv.findIdLocked, hv.backends]
  rcases v'.findIdLocked h f completion.transferId with _ | request
  · exact .mk _ hv
  · exact ((hv.setBackend _).usbHcdUnlinkUrbFromEp request.urb).completeTail request completion

/-- Drains whose passes agree agree. -/
theorem drain {take : World → World × Option Request}
    (htake : ∀ {v v' : World}, SameTraffic v v' → Agree SameTraffic (take v) (take v'))
    (fuel : ℕ) (hv : SameTraffic v v') :
    SameTraffic (World.drain take fuel v) (World.drain take fuel v') := by
  induction fuel generalizing v v' with
  | zero => exact hv
  | succ fuel ih =>
      rw [World.drain, World.drain]
      obtain ⟨w, w', _ | request, hw, hx, hx'⟩ := (htake hv).results
      · rwa [hx, hx']
      · rw [hx, hx']
        exact ih (hw.drainTail request)

/-- The drains may take as many passes. -/
theorem drainFuel (hv : SameTraffic v v') (h : HcdId) : v.drainFuel h = v'.drainFuel h := by
  rw [World.drainFuel, World.drainFuel, hv.backends]

/-- A pass of a release under its lock. -/
theorem releaseDrainLocked (hv : SameTraffic v v') (h : HcdId) (f : FilePtr) (d : DevicePtr) :
    Agree SameTraffic (v.releaseDrainLocked h f d) (v'.releaseDrainLocked h f d) := by
  have hpick : v.releasePick h f d = v'.releasePick h f d := by
    obtain ⟨x, rfl⟩ := hv
    rfl
  rw [World.releaseDrainLocked, World.releaseDrainLocked, hpick, hv.backends]
  rcases v'.releasePick h f d with _ | request
  · exact .mk _ hv
  · exact .mk _ ((hv.setBackend _).usbHcdUnlinkUrbFromEp request.urb)

/-- `virtusb_backend_release_owner`. -/
theorem backendReleaseOwner (hv : SameTraffic v v') (h : HcdId) (f : FilePtr) :
    SameTraffic (v.backendReleaseOwner h f) (v'.backendReleaseOwner h f) := by
  simp only [World.backendReleaseOwner, World.releaseUnbindLocked, hv.backends]
  rcases (v'.backends h).findOwnerLocked f with _ | binding
  · exact hv
  have hunbound := hv.setBackend (h := h)
    { v'.backends h with bindings := (v'.backends h).bindings.erase binding }
  dsimp only
  rw [hunbound.drainFuel]
  exact (drain (fun hv => hv.releaseDrainLocked h f binding.device) _ hunbound).congr
    (traffic_objectPut _ _) (traffic_objectPut _ _)

/-- A pass of a stop under its lock. -/
theorem stopDrainLocked (hv : SameTraffic v v') (h : HcdId) :
    Agree SameTraffic (v.stopDrainLocked h) (v'.stopDrainLocked h) := by
  simp only [World.stopDrainLocked, hv.backends]
  split
  · exact .mk _ ((hv.setBackend _).usbHcdUnlinkUrbFromEp _)
  · exact .mk _ ((hv.setBackend _).usbHcdUnlinkUrbFromEp _)
  · exact .mk _ hv

/-- The second loop of a stop, by induction on its passes. -/
theorem stopUnbind (h : HcdId) (fuel : ℕ) (hv : SameTraffic v v') :
    SameTraffic (World.stopUnbind h fuel v) (World.stopUnbind h fuel v') := by
  induction fuel generalizing v v' with
  | zero => exact hv
  | succ fuel ih =>
      simp only [World.stopUnbind, World.stopUnbindLocked, hv.backends]
      rcases (v'.backends h).bindings with _ | ⟨binding, rest⟩
      · exact hv
      · exact ih ((hv.setBackend _).congr (traffic_objectPut _ _) (traffic_objectPut _ _))

/-- `virtusb_backend_stop`. -/
theorem backendStop (hv : SameTraffic v v') (h : HcdId) :
    SameTraffic (v.backendStop h) (v'.backendStop h) := by
  have hflagged : SameTraffic (v.stopSetLocked h) (v'.stopSetLocked h) := by
    rw [World.stopSetLocked, World.stopSetLocked, hv.backends]
    exact hv.setBackend _
  have hdrained := drain (fun hv => hv.stopDrainLocked h) ((v'.stopSetLocked h).drainFuel h) hflagged
  rw [World.backendStop, World.backendStop, hflagged.drainFuel, hdrained.backends]
  exact stopUnbind h _ hdrained

/-! ### The handlers -/

/-- The handler of `VIRTUSB_IOCTL_TRANSFER_FETCH`. -/
theorem controlTransferFetch (hv : SameTraffic v v') (h : HcdId) (f : FilePtr) (nonblock : Bool)
    (env : Env) (hid : ∀ r ∈ (v.backends h).pending,
      (v.objects (v.requestDevice r)).id = (v'.objects (v'.requestDevice r)).id) :
    Agree SameTraffic (v.controlTransferFetch h f nonblock env)
      (v'.controlTransferFetch h f nonblock env) := by
  rw [World.controlTransferFetch, World.controlTransferFetch]
  refine .ite (fun _ => .mk _ hv) fun _ => ?_
  obtain ⟨w, w', e | message, hw, hx, hx'⟩ := (hv.backendFetch h f nonblock hid).results
  · rw [hx, hx']
    exact .mk _ hw
  · rw [hx, hx']
    exact .ite (fun _ => .mk _ (hw.backendFetchRollback h f message.transferId).fst) fun _ =>
      .mk _ hw

/-- The handler of `VIRTUSB_IOCTL_TRANSFER_COMPLETE`. -/
theorem controlTransferComplete (hv : SameTraffic v v') (h : HcdId) (f : FilePtr)
    (completion : TransferCompleteRequest) (env : Env) :
    Agree SameTraffic (v.controlTransferComplete h f completion env)
      (v'.controlTransferComplete h f completion env) :=
  .ite (fun _ => .mk _ hv) fun _ => .ite (fun _ => .mk _ hv) fun _ => hv.backendComplete h f completion

end SameTraffic

/-! ### Which calls admit something -/

/-- The call may add a URB or a binding. -/
def Call.admits : Call → Bool
  | .ioctl _ _ _ _ command _ _ => command = ioctlBackendRegister
  | .urbEnqueue .. => true
  | .close .. => false
  | .urbDequeue .. => false
  | .hubControl .. => false
  | .setStatusChangedCallback .. => false
  | .stop _ => false

/-- The call serves what was admitted. -/
def Call.serves (c : Call) : Bool := !c.manages

section Calls

variable {N : ℕ} {v v' w w' : World} {h : HcdId} {env : Env}

/-- **The control plane leaves the traffic alone.** -/
theorem traffic_call (hc : w.Counted) {c : Call} (hm : c.manages = true) :
    (w.call c).traffic = w.traffic := by
  cases c with
  | ioctl h active f nonblock command m env =>
      have ht : command ∉ trafficCommands := by simpa [Call.manages] using hm
      simp only [trafficCommands, List.mem_cons, List.not_mem_nil, or_false, not_or] at ht
      obtain ⟨hregister, hunregister, hfetch, hcomplete⟩ := ht
      rw [World.call, World.controlIoctl]
      simp only [hregister, hunregister, hfetch, hcomplete, if_false]
      split_ifs
      · rfl
      · rfl
      · exact traffic_controlDeviceCreate w _ env
      · exact traffic_controlDeviceDestroy hc _
      · exact traffic_controlDeviceAttach hc _
      · exact traffic_controlDeviceDetach hc _
      · exact traffic_controlDeviceConnection hc _
      · exact traffic_controlSetPortPower w _
      · rfl
  | hubControl h typeReq value index => rfl
  | setStatusChangedCallback h installed => rfl
  | close h f => simp [Call.manages] at hm
  | urbEnqueue h u urb env => simp [Call.manages] at hm
  | urbDequeue h u status => simp [Call.manages] at hm
  | stop h => simp [Call.manages] at hm

/-- The worlds serve the same requests, whose devices have the same ids in both. -/
structure ServedAlike (N : ℕ) (v v' : World) : Prop where
  traffic : SameTraffic v v'
  ids : ∀ h < N, ∀ r ∈ v.requests h,
    (v.objects (v.requestDevice r)).id = (v'.objects (v'.requestDevice r)).id

/-- The commands that serve requests. -/
theorem Call.serving_command {h : HcdId} {active : Bool} {f : FilePtr} {nonblock : Bool}
    {command : BitVec 32} {m : UserMemory} {env : Env}
    (hs : (Call.ioctl h active f nonblock command m env).serves = true)
    (ha : (Call.ioctl h active f nonblock command m env).admits = false) :
    command = ioctlBackendUnregister ∨ command = ioctlTransferFetch ∨
      command = ioctlTransferComplete := by
  have ht : command ∈ trafficCommands := by simpa [Call.serves, Call.manages] using hs
  have hne : command ≠ ioctlBackendRegister := by simpa [Call.admits] using ha
  simpa [trafficCommands, hne] using ht

/-- A call that serves creates no transfer. -/
theorem nextTransfer_call (w : World) {c : Call} (hs : c.serves = true) (ha : c.admits = false) :
    (w.call c).nextTransfer = w.nextTransfer := by
  have hserves : ∀ {h : HcdId} {w w' : World}, Serves h w w' → w'.nextTransfer = w.nextTransfer := by
    rintro h w w' ⟨T, given, b, -, hrelists⟩
    exact hrelists.nextTransfer
  cases c with
  | ioctl h active f nonblock command m env =>
      cases active with
      | false => rfl
      | true =>
          obtain rfl | rfl | rfl := Call.serving_command hs ha
          · exact hserves (.backendReleaseOwner w f)
          · have hfetch := hserves (Serves.backendFetch (h := h) w f nonblock)
            change (w.controlTransferFetch h f nonblock env).1.nextTransfer = w.nextTransfer
            rw [World.controlTransferFetch]
            split
            · rfl
            rcases hx : w.backendFetch h f nonblock with ⟨w₁, e | message⟩
            · rwa [hx] at hfetch
            rw [hx] at hfetch
            dsimp only
            split
            · exact (hserves (.backendFetchRollback w₁ f message.transferId)).trans hfetch
            · exact hfetch
          · change (w.controlTransferComplete h f m.transferComplete env).1.nextTransfer = _
            rw [World.controlTransferComplete]
            split
            · rfl
            split
            · rfl
            · exact hserves (.backendComplete w f m.transferComplete)
  | close h f => exact hserves (.backendReleaseOwner w f)
  | urbEnqueue h u urb env => simp [Call.admits] at ha
  | urbDequeue h u status => exact hserves (.backendCancel w u status)
  | hubControl h typeReq value index => simp [Call.serves, Call.manages] at hs
  | setStatusChangedCallback h installed => simp [Call.serves, Call.manages] at hs
  | stop h => exact hserves (.backendStop w)

/-- **A call that serves does the same in worlds that serve alike.** -/
theorem ServedAlike.call (hv : ServedAlike N v v') {c : Call} (hh : c.hcd < N)
    (hs : c.serves = true) (ha : c.admits = false) :
    v'.answer c = v.answer c ∧ SameTraffic (v.call c) (v'.call c) := by
  have hid : ∀ h < N, ∀ r ∈ (v.backends h).pending,
      (v.objects (v.requestDevice r)).id = (v'.objects (v'.requestDevice r)).id :=
    fun h hh r hr => hv.ids h hh r (List.mem_append_left _ hr)
  cases c with
  | ioctl h active f nonblock command m env =>
      have hagree : Agree SameTraffic (v.controlIoctl h active f nonblock command m env)
          (v'.controlIoctl h active f nonblock command m env) := by
        cases active with
        | false => exact .mk _ hv.traffic
        | true =>
            obtain rfl | rfl | rfl := Call.serving_command hs ha
            · exact .mk _ (hv.traffic.backendReleaseOwner h f)
            · exact (hv.traffic.controlTransferFetch h f nonblock env (hid h hh)).replying .fetched
            · exact (hv.traffic.controlTransferComplete h f m.transferComplete env).replying _
      exact ⟨congrArg Answer.ioctl hagree.snd.symm, hagree.fst⟩
  | close h f => exact ⟨rfl, hv.traffic.backendReleaseOwner h f⟩
  | urbEnqueue h u urb env => simp [Call.admits] at ha
  | urbDequeue h u status =>
      have hagree := hv.traffic.backendCancel h u status
      exact ⟨congrArg Answer.urb hagree.snd.symm, hagree.fst⟩
  | hubControl h typeReq value index => simp [Call.serves, Call.manages] at hs
  | setStatusChangedCallback h installed => simp [Call.serves, Call.manages] at hs
  | stop h => exact ⟨rfl, hv.traffic.backendStop h⟩

/-- What a call leaves of the requests of a world has the ids it had. -/
theorem ids_call (hw : w.Steady N) (hserving : w.Serving N) {c : Call} (hp : c.Possible N w)
    (ha : c.admits = false) (hh : h < N) {r : Request} (hr : r ∈ (w.call c).requests h) :
    (∃ r₀ ∈ w.requests h, r₀.key = r.key) ∧
      (w.call c).requestDevice r = w.requestDevice r ∧
      ((w.call c).objects (w.requestDevice r)).id = (w.objects (w.requestDevice r)).id := by
  have hnext : (w.call c).nextTransfer = w.nextTransfer := by
    rcases hm : c.manages with _ | _
    · exact nextTransfer_call w (by simp [Call.serves, hm]) ha
    · exact (congrArg World.nextTransfer (traffic_call hw.accounts.counted hm) :)
  have hworks := works_call hw.accounts.counted hp
  have hlt : r.transfer < w.nextTransfer :=
    hnext ▸ ((hserving.works hworks).loaded h hh r hr).1
  obtain ⟨⟨r₀, hr₀, hkey⟩, hcontent⟩ := (hworks.kept hserving).2 h hh r hr hlt
  have htransfer : r₀.transfer = r.transfer := (Prod.mk.inj hkey).1
  have hdevice : w.requestDevice r < w.nextDevice := by
    have hqueued := device_lt hw hh hr₀
    rwa [htransfer] at hqueued
  refine ⟨⟨r₀, hr₀, hkey⟩, (congrArg Transfer.device hcontent :), ?_⟩
  exact (managed_call hw.accounts.counted hw.accounts.registry c).sameIds.2 _ hdevice

/-- The calls of the control plane are hidden from those that serve. -/
theorem unwinding_servedAlike (N : ℕ) :
    Unwinding (calls N) (fun w => Steady N w ∧ Serving N w) (fun c => c.admits = false) Call.serves
      answer (ServedAlike N) where
  keeps w c w' hw hs := by
    have hworks := works_of_step hw.1 hs
    obtain ⟨hp, rfl⟩ := calls_step hs
    exact ⟨hw.1.call hp.1, hw.2.works hworks⟩
  hidden v v' c w hv _ halike ha hm hs := by
    obtain ⟨hp, rfl⟩ := calls_step hs
    have hsame : c.manages = true := by simpa [Call.serves] using hm
    have htraffic := traffic_call hv.1.accounts.counted hsame
    refine ⟨halike.traffic.congr htraffic rfl, fun h hh r hr => ?_⟩
    obtain ⟨-, hdevice, hid⟩ := ids_call hv.1 hv.2 hp ha hh hr
    have hr₀ : r ∈ v.requests h := by
      have hbackends : (v.call c).backends = v.backends := (congrArg World.backends htraffic :)
      rwa [requests, hbackends] at hr
    rw [hdevice, hid]
    exact halike.ids h hh r hr₀
  visible v v' c w hv hv' halike ha hm hs := by
    obtain ⟨hp, rfl⟩ := calls_step hs
    have hp' : c.Possible N v' := by
      refine ⟨hp.1, ?_⟩
      cases c with
      | urbEnqueue h u urb env => simp [Call.admits] at ha
      | _ => trivial
    obtain ⟨hanswer, hcalled⟩ := halike.call hp.1 hm ha
    refine ⟨hanswer, _, if_pos hp', hcalled, fun h hh r hr => ?_⟩
    have hr' : r ∈ (v'.call c).requests h := by
      rwa [requests, ← hcalled.backends]
    obtain ⟨⟨r₀, hr₀, hkey⟩, hdevice, hid⟩ := ids_call hv.1 hv.2 hp ha hh hr
    obtain ⟨-, hdevice', hid'⟩ := ids_call hv'.1 hv'.2 hp' ha hh hr'
    have htransfer : r₀.transfer = r.transfer := (Prod.mk.inj hkey).1
    have hids := halike.ids h hh r₀ hr₀
    simp only [requestDevice, htransfer] at hids
    rw [hdevice, hid, hdevice', hid']
    exact hids

end Calls

/-- **Requests do not see the control plane.**  Take any run in which no URB is handed over and no
backend registers.  Without its calls of the control plane, which may unplug, switch off,
reset or destroy any device meanwhile, it is still a run: every fetch, completion, dequeue,
unregistration, close and stop returns the same, byte by byte, and at the end the same requests
are queued and lent to the same files, and the same URBs given back in the same order with
the same contents. -/
theorem requests_undisturbed {N : ℕ} {v : World} (hv : (calls N).Reachable v)
    {k : List (World × Call)} {v' : World} (hr : Run (calls N) v k v')
    (hadmits : ∀ x ∈ k, x.2.admits = false) :
    ∃ l u, Run (calls N) v l u ∧ l.map Prod.snd = (k.map Prod.snd).filter Call.serves ∧
      trace Call.serves answer l = trace Call.serves answer k ∧
      u.backends = v'.backends ∧ u.transfers = v'.transfers ∧ u.urbs = v'.urbs ∧
      u.givebacks = v'.givebacks ∧ u.copies = v'.copies := by
  have hsettled : Steady N v ∧ Serving N v := ⟨steady_of_reachable hv, serving_of_reachable hv⟩
  obtain ⟨l, u, hl, hacts, htrace, halike⟩ := (unwinding_servedAlike N).purge hr hsettled hsettled
    ⟨.refl v, fun _ _ _ _ => rfl⟩ hadmits
  obtain ⟨x, rfl⟩ := halike.traffic
  exact ⟨l, u, hl, hacts, htrace, rfl, rfl, rfl, rfl, rfl⟩

/-- A fetched request is completed after its device was unplugged and destroyed, as it is without
that. -/
theorem requests_undisturbed_example : ∃ v l u, (calls 1).Reachable v ∧ Run (calls 1) v l u ∧
    l.map Prod.snd = [.ioctl 0 true 5 true ioctlTransferFetch (.ofWords []) {},
      .ioctl 0 true 5 false ioctlTransferComplete (.ofWords [1, 0, 0, 4]) {}] ∧
    u.givebacks = [⟨7, 0⟩] := by
  obtain ⟨v, j, v', k, hj, hk, -, hkacts, hp⟩ := exists_runs_of_actions (J := Initialised)
    (f := fun w c => if Call.Possible 1 w c then some (w.call c) else none) (s := oneHub)
    (l := Call.plugIn 5 ++ [.urbEnqueue 0 7 .bulkIn {}])
    (m := [.ioctl 0 true 5 true ioctlTransferFetch (.ofWords []) {},
      .hubControl 0 clearPortFeature portFeatPower 1,
      .ioctl 0 true 5 false ioctlDeviceDestroy (.ofWords [1, 1]) {},
      .ioctl 0 true 5 false ioctlTransferComplete (.ofWords [1, 0, 0, 4]) {}])
    (p := fun w => w.givebacks = [⟨7, 0⟩] ∧ w.objectTable 1 = none) (by decide)
  obtain ⟨hgiven, -⟩ := of_decide_eq_true hp
  have hhub : (calls 1).Reachable oneHub := .init oneHub_initialised
  have hadmits : ∀ x ∈ k, x.2.admits = false := by
    intro x hx
    have hmem : x.2 ∈ k.map Prod.snd := List.mem_map_of_mem hx
    rw [hkacts] at hmem
    simp only [List.mem_cons, List.not_mem_nil, or_false] at hmem
    rcases hmem with heq | heq | heq | heq <;> rw [heq] <;> rfl
  obtain ⟨l, u, hl, hacts, -, -, -, -, hugiven, -⟩ :=
    requests_undisturbed (hhub.run hj) hk hadmits
  refine ⟨v, l, u, hhub.run hj, hl, ?_, hugiven.trans hgiven⟩
  rw [hacts, hkacts]
  rfl

end VirtUsb
