/-
# Requests that fail

A request that fails leaves the published objects, the counts, the hubs, the ports and
the backends as they were (`World.Unchanged`).  A device that could not be published
was released, and only its port is left initialised.
-/

import VirtUsb.Module.Matching

namespace VirtUsb

open Transition

namespace World

/-- From `w` to `w'` nothing changed that the interface shows, but the counter of ids. -/
structure Unchanged (w w' : World) : Prop where
  objectTable : w'.objectTable = w.objectTable
  objects : ∀ d < w.nextDevice, w'.objects d = w.objects d
  refcount : ∀ d, (w'.objects d).refcount = (w.objects d).refcount
  transfers : w'.transfers = w.transfers
  hubs : w'.topo.hubs = w.topo.hubs
  upstream : ∀ d < w.nextDevice, w'.topo.upstream d = w.topo.upstream d
  peers : w'.topo.peers = w.topo.peers
  notified : w'.topo.notified = w.topo.notified
  backends : w'.backends = w.backends

variable {N : ℕ} {w w' : World} {h : HcdId} {f : FilePtr} {d : DevicePtr} {env : Env} {e : Errno}

/-- Nothing has changed. -/
theorem Unchanged.refl (w : World) : Unchanged w w :=
  ⟨rfl, fun _ _ => rfl, fun _ => rfl, rfl, rfl, fun _ _ => rfl, rfl, rfl, rfl⟩

/-! ### The devices that were not published -/

/-- What was not allocated yet has no references, and its port no peer. -/
theorem Steady.unborn (hw : w.Steady N) : (w.objects w.nextDevice).refcount = 0 ∧
    w.topo.peers (.upstream w.nextDevice) = none := by
  constructor
  · have hcount := congrFun hw.accounts.devices.count w.nextDevice
    exact hcount.trans (hw.accounts.devices.unborn w.nextDevice (Nat.le_refl _)).1
  · by_contra hpeer
    obtain ⟨q, hq⟩ := Option.ne_none_iff_exists'.1 hpeer
    exact (hw.wired.symm _ q hq).2.1 (hw.sound.unborn _ (Nat.le_refl _))

/-- A device that is no longer counted leaves its port, which is free. -/
theorem Steady.unchanged_released (hw : w.Steady N) {o : Object} {t : Topology}
    (ho : o.refcount = 0)
    (ht : t = w.topo ∨ ∃ port : Port, port.peer = none ∧ t = w.plugged port)
    (htopo : w'.topo = t) (hobjects : w'.objects = Function.update w.objects w.nextDevice o)
    (htable : w'.objectTable = w.objectTable) (htransfers : w'.transfers = w.transfers)
    (hbackends : w'.backends = w.backends) : w.Unchanged w' := by
  obtain ⟨hcount, hfree⟩ := hw.unborn
  refine ⟨htable, fun d hd => ?_, fun d => ?_, htransfers, ?_, fun d hd => ?_, ?_, ?_, hbackends⟩
  · rw [hobjects, Function.update_of_ne (Nat.ne_of_lt hd)]
  · rw [hobjects]
    rcases eq_or_ne d w.nextDevice with rfl | hne
    · rw [Function.update_self, ho, hcount]
    · rw [Function.update_of_ne hne]
  all_goals rw [htopo]; clear htopo
  all_goals rcases ht with rfl | ⟨port, hpeer, rfl⟩ <;> try rfl
  · exact Function.update_of_ne (Nat.ne_of_lt hd) _ _
  · rw [plugged, Topology.peers_setPort, hpeer, ← hfree, Function.update_eq_self]

/-- A creation that fails changes nothing, not even the next id. -/
theorem Steady.unchanged_deviceCreate (hw : w.Steady N) {speed : Byte}
    (hs : w.deviceCreate speed env = (w', .error e)) :
    w.Unchanged w' ∧ w'.nextObjectId = w.nextObjectId := by
  rcases hport : portInit .upstream speed (.device w.nextDevice) with e' | port
  · rw [deviceCreate_invalid hport] at hs
    split at hs
    · obtain rfl := congrArg Prod.fst hs
      exact ⟨.refl w, rfl⟩
    · obtain rfl := congrArg Prod.fst hs
      exact ⟨hw.unchanged_released (o := { refcount := 0 }) rfl (.inl rfl) rfl rfl rfl rfl rfl, rfl⟩
  have habandoned : w.Unchanged (w.abandoned port) :=
    hw.unchanged_released (o := { refcount := 0 }) rfl
      (.inr ⟨port, (peer_of_portInit hport).2.2.1, rfl⟩) rfl rfl rfl rfl rfl
  rw [deviceCreate_eq hport] at hs
  split at hs
  · obtain rfl := congrArg Prod.fst hs
    exact ⟨.refl w, rfl⟩
  split at hs
  · obtain rfl := congrArg Prod.fst hs
    exact ⟨habandoned, rfl⟩
  rcases hx : env.xaInsert with e' | _
  · rw [hx] at hs
    obtain rfl := congrArg Prod.fst hs
    exact ⟨habandoned, rfl⟩
  · simp [hx] at hs

/-- A device that was published and could not be named to the caller. -/
theorem Steady.unchanged_withdrawn (hw : w.Steady N) {port : Port} (hpeer : port.peer = none) :
    w.Unchanged (((w.published port).deviceDestroy w.nextDevice true).1.objectPut w.nextDevice) ∧
      (((w.published port).deviceDestroy w.nextDevice true).1.objectPut
        w.nextDevice).nextObjectId = w.nextObjectId + 1 := by
  have hid : w.nextObjectId ≠ 0 := Nat.ne_of_gt hw.accounts.registry.pos
  have hunused : w.objectTable w.nextObjectId = none :=
    hw.accounts.registry.unused _ (Nat.le_refl _)
  have hport : ((w.published port).topo.upstream w.nextDevice).peer = none := by
    simpa [published, plugged, Topology.setPort] using hpeer
  have hlocked : (w.published port).objectUnregisterLocked w.nextDevice =
      ({ w.published port with
          objects := Function.update w.objects w.nextDevice
            { id := w.nextObjectId, type := .device, refcount := 2, registered := false }
          objectTable := w.objectTable }, .ok ()) := by
    simp [objectUnregisterLocked, published, setObject, hid, ← hunused]
  rw [deviceDestroy, hport, objectUnregister, hlocked]
  constructor
  · refine hw.unchanged_released (t := w.plugged port)
      (o := { id := w.nextObjectId, type := .device, refcount := 0, registered := false }) rfl
      (.inr ⟨port, hpeer, rfl⟩) ?_ ?_ ?_ ?_ ?_ <;>
    simp [objectPut, setObject, deviceRelease, published]
  · simp [objectPut, setObject, deviceRelease, published]

/-- The handler of `VIRTUSB_IOCTL_DEVICE_CREATE`: an id may be used up by a device that could not
be reported to the caller. -/
theorem Steady.unchanged_controlDeviceCreate (hw : w.Steady N) {request : DeviceCreate}
    (hs : w.controlDeviceCreate request env = (w', .error e)) :
    w.Unchanged w' ∧ (w'.nextObjectId = w.nextObjectId ∨
      env.copyToUser = false ∧ w'.nextObjectId = w.nextObjectId + 1) := by
  rw [World.controlDeviceCreate] at hs
  split at hs
  · obtain rfl := congrArg Prod.fst hs
    exact ⟨.refl w, .inl rfl⟩
  split at hs
  · obtain rfl := congrArg Prod.fst hs
    exact ⟨.refl w, .inl rfl⟩
  rcases hc : w.deviceCreate (request.speedCaps.setWidth 8) env with ⟨w₁, e' | d⟩
  · rw [hc] at hs
    obtain rfl := congrArg Prod.fst hs
    obtain ⟨hsame, hid⟩ := hw.unchanged_deviceCreate hc
    exact ⟨hsame, .inl hid⟩
  · obtain ⟨rfl, port, hport, rfl, -⟩ := deviceCreate_ok hc
    rw [hc] at hs
    dsimp only at hs
    split at hs
    · rename_i hcopy
      obtain rfl := congrArg Prod.fst hs
      obtain ⟨hsame, hid⟩ := hw.unchanged_withdrawn (peer_of_portInit hport).2.2.1
      exact ⟨hsame, .inr ⟨by simpa using hcopy, hid⟩⟩
    · simp at hs

/-! ### Handlers that fail before they do anything -/

/-- The handler of `VIRTUSB_IOCTL_DEVICE_DESTROY`. -/
theorem Steady.same_controlDeviceDestroy (hw : w.Steady N) {request : DeviceDestroy}
    (hs : w.controlDeviceDestroy request env = (w', .error e)) : w' = w := by
  rw [controlDeviceDestroy_eq hw.accounts.counted] at hs
  split at hs
  · exact (congrArg Prod.fst hs).symm
  split at hs
  · exact (congrArg Prod.fst hs).symm
  rcases hd : w.deviceOf request.objectId with e' | d
  · rw [hd] at hs
    exact (congrArg Prod.fst hs).symm
  · obtain ⟨-, hreg⟩ := hw.accounts.of_deviceOf hd
    obtain ⟨htable, hpos⟩ := hw.accounts.registry.object d hreg
    have hdestroy := deviceDestroy_eq hw.wired hreg (Nat.ne_of_gt hpos) htable
      (request.flags &&& deviceDestroyForce ≠ 0)
    rw [hd] at hs
    dsimp only at hs
    rw [hdestroy] at hs
    split at hs
    · exact (congrArg Prod.fst hs).symm
    · simp at hs

/-- The handler of `VIRTUSB_IOCTL_DEVICE_ATTACH`. -/
theorem Steady.same_controlDeviceAttach (hw : w.Steady N) {request : DeviceAttach}
    (hs : w.controlDeviceAttach h request env = (w', .error e)) : w' = w := by
  rw [controlDeviceAttach_eq hw.accounts.counted] at hs
  split at hs
  · exact (congrArg Prod.fst hs).symm
  split at hs
  · exact (congrArg Prod.fst hs).symm
  rcases hport : w.topo.hubGetPort h request.port with _ | port
  · rw [hport] at hs
    exact (congrArg Prod.fst hs).symm
  rcases hd : w.deviceOf request.objectId with e' | d
  · rw [hport, hd] at hs
    exact (congrArg Prod.fst hs).symm
  rcases ha : w.topo.deviceAttach d port with ⟨t, e' | _⟩
  · have hsame := Topology.deviceAttach_same ha
    rw [hport, hd] at hs
    dsimp only at hs
    rw [ha, hsame] at hs
    exact (congrArg Prod.fst hs).symm
  · rw [hport, hd] at hs
    dsimp only at hs
    rw [ha] at hs
    simp at hs

/-- The handler of `VIRTUSB_IOCTL_DEVICE_DETACH`. -/
theorem Steady.same_controlDeviceDetach (hw : w.Steady N) {request : DeviceObject}
    (hs : w.controlDeviceDetach request env = (w', .error e)) : w' = w := by
  rw [controlDeviceDetach_eq hw.accounts.counted] at hs
  split at hs
  · exact (congrArg Prod.fst hs).symm
  rcases hd : w.deviceOf request.objectId with e' | d
  · rw [hd] at hs
    exact (congrArg Prod.fst hs).symm
  · simp [hd] at hs

/-- The signaling of a published device can always be set. -/
theorem Steady.same_controlDeviceConnection (hw : w.Steady N) {request : DeviceConnection}
    (hs : w.controlDeviceConnection request env = (w', .error e)) : w' = w := by
  rw [controlDeviceConnection_eq hw.accounts.counted] at hs
  split at hs
  · exact (congrArg Prod.fst hs).symm
  split at hs
  · exact (congrArg Prod.fst hs).symm
  rcases hd : w.deviceOf request.objectId with e' | d
  · rw [hd] at hs
    exact (congrArg Prod.fst hs).symm
  · have hset := Topology.deviceSetConnectionSignaling_ok (hw.role (deviceOf_ok.1 hd).2.1)
      (request.enabled ≠ 0)
    rw [hd] at hs
    dsimp only at hs
    rw [hset] at hs
    simp at hs

/-- The power of all ports can be switched, one after the other. -/
theorem hubSwitchPortsPower_ok (h : HcdId) (powered : Bool) (count n : ℕ) {t : Topology}
    (hports : ∀ i < n - 1 + count, (t.port (.downstream h i)).role = .downstream) (hn : 0 < n)
    (ht : t.Wired) : (Topology.hubSwitchPortsPower h powered count n t).2 = .ok () := by
  induction count generalizing n t with
  | zero => rfl
  | succ count ih =>
      have hdown : (t.port (.downstream h (n - 1))).role = .downstream := hports _ (by omega)
      have hswitch : (t.hubSwitchPortPower h n powered).2 = .ok () := by
        simp [Topology.hubSwitchPortPower, Topology.portSetPowered, hdown]
      have hrewires := ht.hubSwitchPortPower h hn powered
      rw [Topology.hubSwitchPortsPower]
      rcases hs : t.hubSwitchPortPower h n powered with ⟨t₁, e | _⟩
      · rw [hs] at hswitch
        exact absurd hswitch (by simp)
      · rw [hs] at hrewires
        refine ih (n + 1) (fun i hi => ?_) (Nat.succ_pos n) hrewires.wired
        rw [hrewires.role]
        exact hports i (by omega)

/-- Switching power that fails changes nothing. -/
theorem hubSetPortPower_error {t t' : Topology} (ht : t.Wired) {n : ℕ} {powered : Bool}
    (hs : t.hubSetPortPower h n powered = (t', .error e)) : t' = t := by
  rcases hget : t.hubGetPort h n with _ | p
  · rw [Topology.hubSetPortPower, hget] at hs
    exact (congrArg Prod.fst hs).symm
  have hv := (Topology.valid_of_hubGetPort hget).1
  have hok : (t.hubSetPortPower h n powered).2 = .ok () := by
    rw [Topology.hubSetPortPower, hget]
    dsimp only
    split
    · refine hubSwitchPortsPower_ok h powered _ 1 (fun i hi => ?_) Nat.one_pos ht
      exact (ht.hubPort h i (by omega)).1
    · exact ht.hubSwitchPortPower_ok hv powered
  rw [hs] at hok
  exact absurd hok (by simp)

/-- The handler of `VIRTUSB_IOCTL_SET_PORT_POWER`. -/
theorem Steady.same_controlSetPortPower (hw : w.Steady N) {request : PortPower}
    (hs : w.controlSetPortPower h request env = (w', .error e)) : w' = w := by
  rw [World.controlSetPortPower] at hs
  split at hs
  · exact (congrArg Prod.fst hs).symm
  split at hs
  · exact (congrArg Prod.fst hs).symm
  split at hs
  · exact (congrArg Prod.fst hs).symm
  rcases hp : w.topo.hubSetPortPower h request.port (request.powered ≠ 0) with ⟨t, e' | _⟩
  · have hsame := hubSetPortPower_error hw.wired hp
    rw [hp, hsame] at hs
    exact (congrArg Prod.fst hs).symm
  · rw [hp] at hs
    simp at hs

/-- A registration that fails drops the reference it took. -/
theorem backendRegister_error (hd : 0 < (w.objects d).refcount)
    (hs : w.backendRegister h f d env = (w', .error e)) : w' = w := by
  rw [World.backendRegister, World.registerPrepare] at hs
  rcases halloc : env.bindingAlloc
  · rw [halloc] at hs
    exact (congrArg Prod.fst hs).symm
  simp only [halloc, Bool.not_true, Bool.false_eq_true, if_false] at hs
  rcases hl : (w.objectGet d).registerLocked h f d with ⟨w₁, e' | _⟩
  · have hsame : w₁ = w.objectGet d := by
      simp only [World.registerLocked] at hl
      split at hl
      · exact (congrArg Prod.fst hl).symm
      split at hl
      · exact (congrArg Prod.fst hl).symm
      · simp at hl
    rw [hl, hsame] at hs
    exact (congrArg Prod.fst hs).symm.trans (objectPut_objectGet hd)
  · rw [hl] at hs
    simp at hs

/-- The handler of `VIRTUSB_IOCTL_BACKEND_REGISTER`. -/
theorem Steady.same_controlBackendRegister (hw : w.Steady N) {request : BackendRegister}
    (hs : w.controlBackendRegister h f request env = (w', .error e)) : w' = w := by
  rw [controlBackendRegister_eq hw.accounts.counted] at hs
  split at hs
  · exact (congrArg Prod.fst hs).symm
  rcases hd : w.deviceOf request.objectId with e' | d
  · rw [hd] at hs
    exact (congrArg Prod.fst hs).symm
  · rw [hd] at hs
    dsimp only at hs
    split at hs
    · exact (congrArg Prod.fst hs).symm
    · exact backendRegister_error (hw.accounts.of_deviceOf hd).1 hs

end World

open World

/-- The commands that change what is managed. -/
def controlRequests : List (BitVec 32) :=
  [ioctlDeviceCreate, ioctlDeviceDestroy, ioctlDeviceAttach, ioctlDeviceDetach,
    ioctlDeviceConnection, ioctlSetPortPower, ioctlBackendRegister]

/-- **A request that fails changes nothing** but the counter of ids, and that only if a
device was created and its id could not be copied to the caller. -/
theorem failed_request_changes_nothing {N : ℕ} {w w' : World} (hw : (calls N).Reachable w)
    {h : HcdId} {active : Bool} {f : FilePtr} {nonblock : Bool} {command : BitVec 32}
    {m : UserMemory} {env : Env} {e : Errno} (hc : command ∈ controlRequests)
    (hs : w.controlIoctl h active f nonblock command m env = (w', .error e)) :
    w.Unchanged w' ∧ (w'.nextObjectId = w.nextObjectId ∨
      command = ioctlDeviceCreate ∧ env.copyToUser = false ∧
        w'.nextObjectId = w.nextObjectId + 1) := by
  have hst := steady_of_reachable hw
  have hsame : w' = w → w.Unchanged w' ∧ (w'.nextObjectId = w.nextObjectId ∨
      command = ioctlDeviceCreate ∧ env.copyToUser = false ∧
        w'.nextObjectId = w.nextObjectId + 1) := by
    rintro rfl
    exact ⟨.refl _, .inl rfl⟩
  have hreply : ∀ {result : World × Except Errno Unit} {reply : Unit → Reply},
      replying result reply = (w', .error e) → result = (w', .error e) := by
    rintro ⟨w₁, e' | _⟩ reply hr
    · simpa [replying, Except.map] using hr
    · simp [replying, Except.map] at hr
  rcases active
  · exact hsame (congrArg Prod.fst hs).symm
  simp only [controlRequests, List.mem_cons, List.not_mem_nil, or_false] at hc
  rcases hc with rfl | rfl | rfl | rfl | rfl | rfl | rfl
  · obtain ⟨hun, hid⟩ := hst.unchanged_controlDeviceCreate hs
    exact ⟨hun, hid.imp_right fun hid => ⟨rfl, hid⟩⟩
  · exact hsame (hst.same_controlDeviceDestroy (hreply hs))
  · exact hsame (hst.same_controlDeviceAttach (hreply hs))
  · exact hsame (hst.same_controlDeviceDetach (hreply hs))
  · exact hsame (hst.same_controlDeviceConnection (hreply hs))
  · exact hsame (hst.same_controlSetPortPower (hreply hs))
  · exact hsame (hst.same_controlBackendRegister (hreply hs))

/-- A second device is created, and its id cannot be copied to the caller. -/
theorem failed_request_changes_nothing_example : ∃ w w', (calls 1).Reachable w ∧
    w.controlIoctl 0 true 0 false ioctlDeviceCreate (.ofWords [7]) { copyToUser := false } =
      (w', .error .EFAULT) ∧
    w.Unchanged w' := by
  obtain ⟨w, hw, hp⟩ := exists_reachable_of_exec (I := Initialised)
    (f := fun w c => if Call.Possible 1 w c then some (w.call c) else none) (s := oneHub)
    (l := Call.plugIn 0)
    (p := fun w => match (w.controlIoctl 0 true 0 false ioctlDeviceCreate (.ofWords [7])
      { copyToUser := false }).2 with
      | .error e => e = .EFAULT
      | .ok _ => false)
    oneHub_initialised (by decide)
  rcases hs : w.controlIoctl 0 true 0 false ioctlDeviceCreate (.ofWords [7])
    { copyToUser := false } with ⟨w', e | reply⟩
  · rw [hs] at hp
    obtain rfl : e = .EFAULT := by simpa using hp
    exact ⟨w, w', hw, hs, (failed_request_changes_nothing hw (by simp [controlRequests]) hs).1⟩
  · rw [hs] at hp
    simp at hp

end VirtUsb
