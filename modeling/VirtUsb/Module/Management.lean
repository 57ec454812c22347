/-
# What the data plane leaves alone

Transfers and backends count references to devices, but they never change a hub, a
port, the object table or what an object says about itself (`World.management`); and
the records of what was released only grow.  One theorem for each function of the
data plane says that it works aside of what is managed (`Aside`).
-/

import VirtUsb.Kernel.Hcd
import VirtUsb.Kernel.Frame
import Mathlib.Tactic.Set

namespace VirtUsb

/-- The state that the control plane manages, without the reference counts. -/
structure Management where
  topo : Topology
  objects : DevicePtr → Object
  nextDevice : DevicePtr
  objectTable : ObjectId → Option DevicePtr
  nextObjectId : ℕ

namespace World

/-- The part of the world that the control plane manages, without the reference counts. -/
def management (w : World) : Management where
  topo := w.topo
  objects d := { w.objects d with refcount := 0 }
  nextDevice := w.nextDevice
  objectTable := w.objectTable
  nextObjectId := w.nextObjectId

section Fields

variable {w w' : World}

/-- The topology is managed. -/
theorem topo_of_management (hm : w'.management = w.management) : w'.topo = w.topo :=
  (congrArg Management.topo hm :)

/-- The number of device records is managed. -/
theorem nextDevice_of_management (hm : w'.management = w.management) :
    w'.nextDevice = w.nextDevice :=
  (congrArg Management.nextDevice hm :)

/-- The table of objects is managed. -/
theorem objectTable_of_management (hm : w'.management = w.management) :
    w'.objectTable = w.objectTable :=
  (congrArg Management.objectTable hm :)

/-- The next id is managed. -/
theorem nextObjectId_of_management (hm : w'.management = w.management) :
    w'.nextObjectId = w.nextObjectId :=
  (congrArg Management.nextObjectId hm :)

/-- What an object says about itself. -/
theorem object_of_management (hm : w'.management = w.management) (d : DevicePtr) :
    (w'.objects d).id = (w.objects d).id ∧ (w'.objects d).type = (w.objects d).type ∧
      (w'.objects d).registered = (w.objects d).registered := by
  have ho := congrFun (congrArg Management.objects hm) d
  exact ⟨(congrArg Object.id ho :), (congrArg Object.type ho :), (congrArg Object.registered ho :)⟩

end Fields

end World

/-- From `w` to `w'` the records of releases only grew. -/
structure Recorded (w w' : World) : Prop where
  released : w.released <+: w'.released
  freed : w.freedTransfers <+: w'.freedTransfers

/-- The same records. -/
theorem Recorded.of_same {w w' : World} (hr : w'.released = w.released)
    (hf : w'.freedTransfers = w.freedTransfers) : Recorded w w' :=
  ⟨hr ▸ List.prefix_rfl, hf ▸ List.prefix_rfl⟩

/-- Nothing was recorded. -/
theorem Recorded.refl (w : World) : Recorded w w := .of_same rfl rfl

/-- Records only grow. -/
theorem Recorded.trans {w w' w'' : World} (h : Recorded w w') (h' : Recorded w' w'') :
    Recorded w w'' :=
  ⟨h.released.trans h'.released, h.freed.trans h'.freed⟩

/-- A release on the record of `w'` is on that of `w`, or warned of the peer that its
device has. -/
def Truthful (w w' : World) : Prop :=
  ∀ r ∈ w'.released, r ∈ w.released ∨ r.warned = (w'.topo.upstream r.device).peer.isSome

/-- From `w` to `w'` nothing changed that is managed, and the records of releases only
grew. -/
structure Aside (w w' : World) : Prop where
  management : w'.management = w.management
  released : w.released <+: w'.released
  freed : w.freedTransfers <+: w'.freedTransfers
  truthful : Truthful w w'

namespace Aside

variable {w w' w'' : World}

/-- What changes neither what is managed nor the records. -/
theorem of_same (hm : w'.management = w.management) (hr : w'.released = w.released)
    (hf : w'.freedTransfers = w.freedTransfers) : Aside w w' :=
  ⟨hm, hr ▸ List.prefix_rfl, hf ▸ List.prefix_rfl, fun _ hx => .inl (hr ▸ hx)⟩

/-- What happens aside only adds to the records. -/
theorem recorded (h : Aside w w') : Recorded w w' := ⟨h.released, h.freed⟩

/-- Nothing happens. -/
theorem refl (w : World) : Aside w w := .of_same rfl rfl rfl

/-- What happens aside, twice. -/
theorem trans (h : Aside w w') (h' : Aside w' w'') : Aside w w'' := by
  refine ⟨h'.management.trans h.management, h.released.trans h'.released, h.freed.trans h'.freed,
    fun r hr => ?_⟩
  rcases h'.truthful r hr with hr | hwarned
  · rw [World.topo_of_management h'.management]
    exact h.truthful r hr
  · exact .inr hwarned

/-- What is aside of one world is aside of every world that differs in nothing here. -/
theorem after (h : Aside w' w'') (hm : w'.management = w.management)
    (hr : w'.released = w.released) (hf : w'.freedTransfers = w.freedTransfers) : Aside w w'' :=
  (of_same hm hr hf).trans h

variable (w : World) (h : HcdId)

/-! ### References -/

/-- A reference count is not managed. -/
theorem setRefcount (d : DevicePtr) (n : ℕ) :
    Aside w (w.setObject d { w.objects d with refcount := n }) := by
  refine .of_same ?_ rfl rfl
  simp only [World.management, World.setObject]
  congr 1
  funext d'
  rcases eq_or_ne d' d with rfl | hne
  · simp
  · simp [hne]

/-- `virtusb_object_get`. -/
theorem objectGet (d : DevicePtr) : Aside w (w.objectGet d) := setRefcount w d _

/-- `virtusb_object_put`, with or without a release. -/
theorem objectPut (d : DevicePtr) : Aside w (w.objectPut d) := by
  have hcount := setRefcount w d ((w.objects d).refcount - 1)
  simp only [World.objectPut]
  split
  · refine ⟨hcount.management, List.prefix_append _ _, hcount.freed, fun r hr => ?_⟩
    rcases List.mem_append.1 hr with hr | hr
    · exact .inl hr
    · obtain rfl := List.mem_singleton.1 hr
      exact .inr rfl
  · exact hcount

/-- `virtusb_transfer_put`, the release included. -/
theorem transferPut (t : TransferPtr) : Aside w (w.transferPut t) := by
  set dropped := w.setTransfer t { w.transfers t with refcount := (w.transfers t).refcount - 1 }
  have hput := objectPut dropped (dropped.transfers t).device
  simp only [World.transferPut]
  split
  · exact ⟨hput.management, hput.released, List.prefix_append _ _, hput.truthful⟩
  · exact .of_same rfl rfl rfl

/-! ### Transfers -/

/-- The copy of a setup packet. -/
theorem copySetup (setup : Option SetupPacket) : Aside w (w.copySetup setup) := by
  rw [World.copySetup]
  split <;> exact .of_same rfl rfl rfl

/-- The allocation of a buffer. -/
theorem transferBuffer (a : TransferArgs) (garbage : ℕ → Byte) :
    Aside w (w.transferBuffer a garbage).1 := by
  rw [World.transferBuffer]
  split
  · exact .refl w
  split <;> exact .of_same rfl rfl rfl

/-- `virtusb_transfer_create`. -/
theorem transferCreate (d : DevicePtr) (a : TransferArgs) (env : Env) :
    Aside w (w.transferCreate d a env).1 := by
  simp only [World.transferCreate]
  split
  · exact .refl w
  split
  · exact .refl w
  split
  · exact .refl w
  · have hheld := (transferBuffer w a env.garbage).trans (objectGet _ d)
    have hsetup := hheld.trans (copySetup _ a.setup)
    exact ⟨hsetup.management, hsetup.released, hsetup.freed, hsetup.truthful⟩

/-- `virtusb_transfer_mark_queued`. -/
theorem transferMarkQueued (t : TransferPtr) : Aside w (w.transferMarkQueued t).1 := by
  rw [World.transferMarkQueued]
  split <;> exact .of_same rfl rfl rfl

/-- `virtusb_transfer_cancel`. -/
theorem transferCancel (t : TransferPtr) (status : ℤ) : Aside w (w.transferCancel t status).1 := by
  simp only [World.transferCancel]
  split <;> exact .of_same rfl rfl rfl

/-- `virtusb_transfer_complete`. -/
theorem transferComplete (t : TransferPtr) (status : ℤ) (actualLength : ℕ) :
    Aside w (w.transferComplete t status actualLength).1 := by
  simp only [World.transferComplete]
  split
  · exact .refl w
  split <;> exact .of_same rfl rfl rfl

/-! ### The backend -/

/-- `virtusb_backend_giveback`. -/
theorem backendGiveback (request : Request) (status : ℤ) :
    Aside w (w.backendGiveback request status) := by
  have hgiven : Aside w (w.usbHcdGivebackUrb request.urb status) := .of_same rfl rfl rfl
  exact hgiven.trans (transferPut _ request.transfer)

/-- A pass of a drain after its lock. -/
theorem drainTail (request : Request) : Aside w (w.drainTail request) :=
  (transferCancel w request.transfer _).trans (backendGiveback _ request _)

/-- A drain works aside if its passes do. -/
theorem drain {take : World → World × Option Request} (htake : ∀ v, Aside v (take v).1)
    (fuel : ℕ) (w : World) : Aside w (World.drain take fuel w) := by
  induction fuel generalizing w with
  | zero => exact .refl w
  | succ fuel ih =>
      have hpass := htake w
      rw [World.drain]
      rcases hs : take w with ⟨v, _ | request⟩
      · rwa [hs] at hpass
      · rw [hs] at hpass
        exact (hpass.trans (drainTail v request)).trans (ih _)

/-- `virtusb_backend_register`. -/
theorem backendRegister (f : FilePtr) (d : DevicePtr) (env : Env) :
    Aside w (w.backendRegister h f d env).1 := by
  have hprepare : Aside w (w.registerPrepare d env).1 := by
    rw [World.registerPrepare]
    split
    · exact .refl w
    · exact objectGet w d
  rw [World.backendRegister]
  rcases hp : w.registerPrepare d env with ⟨w₁, e | _⟩
  · rwa [hp] at hprepare
  rw [hp] at hprepare
  dsimp only
  rcases hr : w₁.registerLocked h f d with ⟨w₂, e | _⟩
  · rw [World.registerLocked_error hr]
    exact hprepare.trans (objectPut w₁ d)
  · obtain ⟨-, -, rfl⟩ := World.registerLocked_ok hr
    exact hprepare.trans (.of_same rfl rfl rfl)

/-- A submission before its lock. -/
theorem submitPrepare (t : TransferPtr) (env : Env) : Aside w (w.submitPrepare t env).1 := by
  have hget : Aside w (w.transferGet t) := .of_same rfl rfl rfl
  have hmarked := hget.trans (transferMarkQueued _ t)
  rw [World.submitPrepare]
  split
  · exact .refl w
  split
  · exact .refl w
  rcases hm : (w.transferGet t).transferMarkQueued t with ⟨w₁, e | _⟩
  · rw [hm] at hmarked
    exact hmarked.trans (transferPut w₁ t)
  · rw [hm] at hmarked
    exact hmarked

/-- The section of a submission. -/
theorem submitLocked (u : UrbPtr) (t : TransferPtr) (link : Except Errno Unit) :
    Aside w (w.submitLocked h u t link).1 := by
  simp only [World.submitLocked]
  split
  · exact .refl w
  split
  · exact .refl w
  cases link <;> exact .of_same rfl rfl rfl

/-- `virtusb_backend_submit`. -/
theorem backendSubmit (u : UrbPtr) (t : TransferPtr) (env : Env) :
    Aside w (w.backendSubmit h u t env).1 := by
  have hprepared := submitPrepare w t env
  rw [World.backendSubmit]
  rcases hp : w.submitPrepare t env with ⟨w₁, e | _⟩
  · rwa [hp] at hprepared
  rw [hp] at hprepared
  have hlocked := submitLocked w₁ h u t env.link
  dsimp only
  rcases hl : w₁.submitLocked h u t env.link with ⟨w₂, e | _⟩
  · rw [hl] at hlocked
    have hfailed := (transferCancel w₂ t e.status).trans (transferPut _ t)
    exact (hprepared.trans hlocked).trans hfailed
  · rw [hl] at hlocked
    exact hprepared.trans hlocked

/-- The section of a cancellation. -/
theorem cancelLocked (u : UrbPtr) : Aside w (w.cancelLocked h u).1 := by
  have hcheck : Aside w (w.usbHcdCheckUnlinkUrb u).1 := by
    rw [World.usbHcdCheckUnlinkUrb]
    split
    · exact .refl w
    split <;> exact .of_same rfl rfl rfl
  rw [World.cancelLocked]
  rcases hc : w.usbHcdCheckUnlinkUrb u with ⟨w', e | _⟩
  · rwa [hc] at hcheck
  · rw [hc] at hcheck
    dsimp only
    split
    · exact hcheck
    · exact hcheck.trans (.of_same rfl rfl rfl)

/-- `virtusb_backend_cancel`. -/
theorem backendCancel (u : UrbPtr) (status : ℤ) : Aside w (w.backendCancel h u status).1 := by
  have hlocked := cancelLocked w h u
  rw [World.backendCancel]
  rcases hc : w.cancelLocked h u with ⟨w', e | request⟩
  · rwa [hc] at hlocked
  · rw [hc] at hlocked
    have htail := (transferCancel w' request.transfer status).trans
      (backendGiveback _ request status)
    exact hlocked.trans htail

/-- A fetch after its lock. -/
theorem fetchTail (t : TransferPtr) : Aside w (w.fetchTail t).1 := by
  have hsetup := copySetup w (w.transfers t).setup
  simp only [World.fetchTail]
  split
  · refine hsetup.trans ?_
    exact after (transferPut _ t) rfl rfl rfl
  · exact hsetup.trans (transferPut _ t)

/-- `virtusb_backend_fetch`. -/
theorem backendFetch (f : FilePtr) (nonblock : Bool) :
    Aside w (w.backendFetch h f nonblock).1 := by
  rw [World.backendFetch]
  rcases hs : w.fetchLocked h f with ⟨w', r | e | _⟩
  · obtain ⟨-, rfl⟩ := World.fetchLocked_taken_eq hs
    exact after (fetchTail _ r.transfer) rfl rfl rfl
  · rw [World.fetchLocked_failed hs]
    exact .refl w
  · rw [World.fetchLocked_empty hs]
    exact .refl w

/-- `virtusb_backend_fetch_rollback`. -/
theorem backendFetchRollback (f : FilePtr) (transferId : BitVec 64) :
    Aside w (w.backendFetchRollback h f transferId).1 := by
  rw [World.backendFetchRollback]
  split
  · exact .refl w
  rcases hs : w.rollbackLocked h f transferId with ⟨w', e | r⟩
  · rw [World.rollbackLocked_error hs]
    exact .refl w
  · obtain ⟨-, -, -, rfl⟩ := World.rollbackLocked_ok hs
    exact .of_same rfl rfl rfl

/-- The copies of a completion. -/
theorem completeCopy (request : Request) (data : ℕ → Byte) (actualLength : ℕ) :
    Aside w (w.completeCopy request data actualLength) := by
  simp only [World.completeCopy]
  split <;> exact .of_same rfl rfl rfl

/-- A completion after its lock. -/
theorem completeTail (request : Request) (completion : TransferCompleteRequest) :
    Aside w (w.completeTail request completion).1 := by
  simp only [World.completeTail]
  split
  · exact (transferCancel w request.transfer _).trans (backendGiveback _ request _)
  have hcopied := completeCopy w request completion.data completion.actualLength
  set copied := w.completeCopy request completion.data completion.actualLength
  have hdone := hcopied.trans (transferComplete copied request.transfer completion.status
    completion.actualLength)
  rcases hs : copied.transferComplete request.transfer completion.status completion.actualLength with
    ⟨w₁, e | _⟩
  · rw [hs] at hdone
    exact hdone.trans ((transferCancel w₁ request.transfer _).trans (backendGiveback _ request _))
  · rw [hs] at hdone
    exact hdone.trans (after (backendGiveback _ request _) rfl rfl rfl)

/-- `virtusb_backend_complete`. -/
theorem backendComplete (f : FilePtr) (completion : TransferCompleteRequest) :
    Aside w (w.backendComplete h f completion).1 := by
  have hlocked : Aside w (w.completeLocked h f completion.transferId).1 := by
    simp only [World.completeLocked]
    split <;> exact .of_same rfl rfl rfl
  rw [World.backendComplete]
  split
  · exact .refl w
  rcases hs : w.completeLocked h f completion.transferId with ⟨w', e | r⟩
  · rwa [hs] at hlocked
  · rw [hs] at hlocked
    exact hlocked.trans (completeTail w' r completion)

/-- A pass of a release under its lock. -/
theorem releaseDrainLocked (f : FilePtr) (d : DevicePtr) :
    Aside w (w.releaseDrainLocked h f d).1 := by
  rw [World.releaseDrainLocked]
  split <;> exact .of_same rfl rfl rfl

/-- `virtusb_backend_release_owner`. -/
theorem backendReleaseOwner (f : FilePtr) : Aside w (w.backendReleaseOwner h f) := by
  rw [World.backendReleaseOwner]
  rcases hs : w.releaseUnbindLocked h f with ⟨w', _ | binding⟩
  · rw [World.releaseUnbindLocked_none hs]
    exact .refl w
  · obtain ⟨-, -, rfl⟩ := World.releaseUnbindLocked_some hs
    have hdrain := drain fun v => releaseDrainLocked v h f binding.device
    exact after ((hdrain _ _).trans (objectPut _ binding.device)) rfl rfl rfl

/-- A pass of a stop under its lock. -/
theorem stopDrainLocked : Aside w (w.stopDrainLocked h).1 := by
  simp only [World.stopDrainLocked]
  split <;> exact .of_same rfl rfl rfl

/-- The second loop of a stop. -/
theorem stopUnbind (fuel : ℕ) (w : World) : Aside w (World.stopUnbind h fuel w) := by
  induction fuel generalizing w with
  | zero => exact .refl w
  | succ fuel ih =>
      rw [World.stopUnbind]
      rcases hs : w.stopUnbindLocked h with ⟨v, _ | binding⟩
      · rw [(World.stopUnbindLocked_none hs).1]
        exact .refl w
      · obtain ⟨rest, -, rfl⟩ := World.stopUnbindLocked_some hs
        exact after ((objectPut _ binding.device).trans (ih _)) rfl rfl rfl

/-- `virtusb_backend_stop`. -/
theorem backendStop : Aside w (w.backendStop h) := by
  have hflagged : Aside w (w.stopSetLocked h) := .of_same rfl rfl rfl
  exact (hflagged.trans (drain (fun v => stopDrainLocked v h) _ _)).trans (stopUnbind h _ _)

/-! ### URBs -/

/-- `virtusb_hcd_urb_enqueue`. -/
theorem hcdUrbEnqueue (u : UrbPtr) (env : Env) : Aside w (w.hcdUrbEnqueue h u env).1 := by
  simp only [World.hcdUrbEnqueue]
  split
  · exact .refl w
  rename_i d hd
  split
  · exact .refl w
  rename_i type htype
  have hcreated := transferCreate w d ((w.urbs u).transferArgs type) env
  rcases hs : w.transferCreate d ((w.urbs u).transferArgs type) env with ⟨w₁, _ | t⟩
  · rwa [hs] at hcreated
  · rw [hs] at hcreated
    dsimp only
    split
    · exact hcreated.trans (transferPut w₁ t)
    · exact (hcreated.trans (backendSubmit w₁ h u t env)).trans (transferPut _ t)

/-- `virtusb_hcd_urb_dequeue`. -/
theorem hcdUrbDequeue (u : UrbPtr) (status : ℤ) : Aside w (w.hcdUrbDequeue h u status).1 :=
  backendCancel w h u status

end Aside

end VirtUsb
