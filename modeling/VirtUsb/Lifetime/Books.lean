/-
# The books of references

What the counting of references depends on: the objects and their table, the counts
and devices of transfers, and the lists of the backends.  A device is owed one
reference by the table it is published in, one by each binding to it and one by each
transfer for it that is not freed; a transfer is owed one by each request.  Beyond
these, a function that runs may hold references of its own.  `Ledger` says that the
books balance.
-/

import VirtUsb.Kernel.Frame
import VirtUsb.Lib.RefCount

namespace VirtUsb

open RefCount

/-- What the counting of references depends on, besides the lists of the backends. -/
structure Books where
  objects : DevicePtr → Object
  nextDevice : DevicePtr
  released : List DevicePtr
  objectTable : ObjectId → Option DevicePtr
  nextObjectId : ℕ
  refcount : TransferPtr → ℕ
  device : TransferPtr → DevicePtr
  nextTransfer : TransferPtr
  freedTransfers : List TransferPtr

/-- The reference counts of the world, and what they depend on. -/
def World.books (w : World) : Books where
  objects := w.objects
  nextDevice := w.nextDevice
  released := w.released.map Release.device
  objectTable := w.objectTable
  nextObjectId := w.nextObjectId
  refcount t := (w.transfers t).refcount
  device := w.device
  nextTransfer := w.nextTransfer
  freedTransfers := w.freedTransfers

namespace Books

variable (k : Books)

/-- The devices as objects that are counted. -/
def deviceStore : Store := ⟨fun d => (k.objects d).refcount, k.nextDevice, k.released⟩

/-- The transfers as objects that are counted. -/
def transferStore : Store := ⟨k.refcount, k.nextTransfer, k.freedTransfers⟩

/-- The reference of the object table. -/
def published (d : DevicePtr) : ℕ := if (k.objects d).registered then 1 else 0

/-- The reference to its device of a transfer that is counted. -/
def share (refcount : ℕ) (d : DevicePtr) : DevicePtr → ℕ :=
  if 0 < refcount then Pi.single d 1 else 0

/-- The references of transfers. -/
def targeted : DevicePtr → ℕ :=
  ∑ t ∈ Finset.range k.nextTransfer, share (k.refcount t) (k.device t)

/-- The table and the marks in the objects agree, and ids are handed out in order. -/
structure Registry : Prop where
  entry : ∀ id d, k.objectTable id = some d →
    (k.objects d).registered = true ∧ (k.objects d).id = id
  object : ∀ d, (k.objects d).registered = true →
    k.objectTable (k.objects d).id = some d ∧ 0 < (k.objects d).id
  unused : ∀ id, k.nextObjectId ≤ id → k.objectTable id = none
  pos : 0 < k.nextObjectId

/-- A transfer that is alive has a share in its device. -/
theorem share_of_pos {n : ℕ} (d : DevicePtr) (hn : 0 < n) : share n d = Pi.single d 1 := if_pos hn

/-- A transfer that was freed has none. -/
@[simp]
theorem share_zero (d : DevicePtr) : share 0 d = 0 := rfl

variable {k}

/-- The registry consists of the objects, the table and the next id. -/
theorem Registry.congr {k' : Books} (hk : k.Registry) (ho : k'.objects = k.objects)
    (ht : k'.objectTable = k.objectTable) (hn : k'.nextObjectId = k.nextObjectId) :
    k'.Registry := by
  refine ⟨?_, ?_, ?_, ?_⟩
  · rw [ho, ht]
    exact hk.entry
  · rw [ho, ht]
    exact hk.object
  · rw [hn, ht]
    exact hk.unused
  · rw [hn]
    exact hk.pos

/-- The counts after an update of one object. -/
theorem refcount_update (objects : DevicePtr → Object) (d : DevicePtr) (o : Object) :
    (fun d' => (Function.update objects d o d').refcount) =
      Function.update (fun d' => (objects d').refcount) d o.refcount := by
  funext d'
  rcases eq_or_ne d' d with rfl | hne
  · simp
  · simp [hne]

/-- What the table holds after an update of one object. -/
theorem published_update {k' : Books} {d : DevicePtr} {o : Object}
    (hk : k'.objects = Function.update k.objects d o) :
    k'.published = Function.update k.published d (if o.registered then 1 else 0) := by
  funext d'
  rcases eq_or_ne d' d with rfl | hne
  · simp [published, hk]
  · simp [published, hk, hne]

/-- An object that was not published enters the table under the next id. -/
theorem Registry.publish (hk : k.Registry) {d : DevicePtr} {o : Object}
    (hd : (k.objects d).registered = false) (hid : o.id = k.nextObjectId)
    (hreg : o.registered = true) :
    Registry { k with
      objects := Function.update k.objects d o
      objectTable := Function.update k.objectTable k.nextObjectId (some d)
      nextObjectId := k.nextObjectId + 1 } := by
  have hne : ∀ d', (k.objects d').registered = true → d' ≠ d := by
    rintro d' hd' rfl
    exact absurd (hd.symm.trans hd') (by decide)
  refine ⟨fun id d' he => ?_, fun d' hr => ?_, fun id hle => ?_, Nat.succ_pos _⟩
  · dsimp only at he ⊢
    rcases eq_or_ne id k.nextObjectId with rfl | hid'
    · rw [Function.update_self] at he
      obtain rfl := Option.some.inj he
      rw [Function.update_self]
      exact ⟨hreg, hid⟩
    · rw [Function.update_of_ne hid'] at he
      have hentry := hk.entry id d' he
      rwa [Function.update_of_ne (hne d' hentry.1)]
  · dsimp only at hr ⊢
    rcases eq_or_ne d' d with rfl | hd'
    · rw [Function.update_self, hid, Function.update_self]
      exact ⟨rfl, hk.pos⟩
    · rw [Function.update_of_ne hd'] at hr ⊢
      obtain ⟨hentry, hpos⟩ := hk.object d' hr
      have hid' : (k.objects d').id ≠ k.nextObjectId := fun heq => by
        rw [hk.unused _ (Nat.le_of_eq heq.symm)] at hentry
        exact absurd hentry (by simp)
      rw [Function.update_of_ne hid']
      exact ⟨hentry, hpos⟩
  · have hlt : k.nextObjectId < id := hle
    dsimp only
    rw [Function.update_of_ne (Nat.ne_of_gt hlt)]
    exact hk.unused id (Nat.le_of_lt hlt)

/-- A published object leaves the table. -/
theorem Registry.retract (hk : k.Registry) {d : DevicePtr}
    (hd : k.objectTable (k.objects d).id = some d) :
    Registry { k with
      objects := Function.update k.objects d { k.objects d with registered := false }
      objectTable := Function.update k.objectTable (k.objects d).id none } := by
  refine ⟨fun id d' he => ?_, fun d' hr => ?_, fun id hle => ?_, hk.pos⟩
  · dsimp only at he ⊢
    rcases eq_or_ne id (k.objects d).id with rfl | hid
    · rw [Function.update_self] at he
      exact absurd he (by simp)
    · rw [Function.update_of_ne hid] at he
      obtain ⟨hreg, hid'⟩ := hk.entry id d' he
      have hd' : d' ≠ d := by
        rintro rfl
        exact hid hid'.symm
      rw [Function.update_of_ne hd']
      exact ⟨hreg, hid'⟩
  · dsimp only at hr ⊢
    rcases eq_or_ne d' d with rfl | hd'
    · rw [Function.update_self] at hr
      exact absurd hr (by simp)
    · rw [Function.update_of_ne hd'] at hr ⊢
      obtain ⟨hentry, hpos⟩ := hk.object d' hr
      have hid : (k.objects d').id ≠ (k.objects d).id := by
        intro heq
        rw [heq, hd] at hentry
        exact hd' (Option.some.inj hentry).symm
      rw [Function.update_of_ne hid]
      exact ⟨hentry, hpos⟩
  · dsimp only
    rw [Function.update_apply]
    split
    · rfl
    · exact hk.unused id hle

end Books

namespace Backend

/-- The references that the bindings hold. -/
def bound (b : Backend) : DevicePtr → ℕ := tally (b.bindings.map (·.device))

/-- The references that the requests hold. -/
def queued (b : Backend) : TransferPtr → ℕ :=
  tally ((b.pending ++ b.active).map (·.transfer))

end Backend

/-- The books of a module with `N` host controllers balance, if the functions that
run hold the references `held` to devices and `heldT` to transfers; and no transfer
is in two requests. -/
structure Ledger (N : ℕ) (k : Books) (backends : HcdId → Backend) (held : DevicePtr → ℕ)
    (heldT : TransferPtr → ℕ) : Prop where
  registry : k.Registry
  devices : Balanced k.deviceStore
    (k.published + ∑ h ∈ Finset.range N, (backends h).bound + k.targeted + held)
  transfers : Balanced k.transferStore (∑ h ∈ Finset.range N, (backends h).queued + heldT)
  once : ∀ t, (∑ h ∈ Finset.range N, (backends h).queued) t ≤ 1

/-- The books of a world balance. -/
abbrev World.Accounts (N : ℕ) (w : World) (held : DevicePtr → ℕ) (heldT : TransferPtr → ℕ) : Prop :=
  Ledger N w.books w.backends held heldT

/-! ### What the books do not depend on -/

namespace World

variable (w : World)

/-- A write to a URB is none of the books. -/
@[simp]
theorem books_setUrb (u : UrbPtr) (x : Urb) : (w.setUrb u x).books = w.books := rfl

/-- Copying data is none of the books. -/
@[simp]
theorem books_copy (dst src : Option Buffer) (length : ℕ) :
    (w.copy dst src length).1.books = w.books := rfl

/-- Copying a setup packet is none of the books. -/
@[simp]
theorem books_copySetup (setup : Option SetupPacket) : (w.copySetup setup).books = w.books := by
  rw [copySetup]
  split <;> rfl

/-- The books after the count of a transfer changed. -/
theorem books_setRefcount (t : TransferPtr) (n : ℕ) :
    (w.setTransfer t { w.transfers t with refcount := n }).books =
      { w.books with refcount := Function.update w.books.refcount t n } := by
  have hrefcount : (fun s => ((w.setTransfer t { w.transfers t with refcount := n }).transfers
      s).refcount) = Function.update w.books.refcount t n := by
    funext s
    rcases eq_or_ne s t with rfl | hs
    · simp [setTransfer]
    · simp [setTransfer, hs, books]
  have hdevice : (w.setTransfer t { w.transfers t with refcount := n }).device = w.device := by
    funext s
    rcases eq_or_ne s t with rfl | hs
    · simp [setTransfer, device]
    · simp [setTransfer, device, hs]
  simp only [books, hdevice] at hrefcount ⊢
  rw [hrefcount]
  rfl

/-- The books after a transfer was written to new memory. -/
theorem books_newTransfer (t : TransferPtr) (x : Transfer) (next : TransferPtr) (id : BitVec 64) :
    ({ w.setTransfer t x with nextTransfer := next, transferNextId := id } : World).books =
      { w.books with
        refcount := Function.update w.books.refcount t x.refcount
        device := Function.update w.books.device t x.device
        nextTransfer := next } := by
  have hrefcount : (fun s => ((w.setTransfer t x).transfers s).refcount) =
      Function.update w.books.refcount t x.refcount := by
    funext s
    rcases eq_or_ne s t with rfl | hs
    · simp [setTransfer]
    · simp [setTransfer, hs, books]
  have hdevice : (w.setTransfer t x).device = Function.update w.books.device t x.device := by
    funext s
    rcases eq_or_ne s t with rfl | hs
    · simp [setTransfer, device]
    · simp [setTransfer, device, hs, books]
  rw [← hrefcount, ← hdevice]
  rfl

/-- The books after a reference to a device was taken. -/
theorem books_objectGet (d : DevicePtr) : (w.objectGet d).books =
    { w.books with
      objects := Function.update w.books.objects d
        { w.books.objects d with refcount := (w.books.objects d).refcount + 1 } } := rfl

/-- A write to a transfer that keeps its count and its device is none of the books. -/
theorem books_setTransfer {t : TransferPtr} {x : Transfer}
    (hr : x.refcount = (w.transfers t).refcount) (hd : x.device = (w.transfers t).device) :
    (w.setTransfer t x).books = w.books := by
  have hrefcount : ∀ s, ((w.setTransfer t x).transfers s).refcount = (w.transfers s).refcount := by
    intro s
    rcases eq_or_ne s t with rfl | hs
    · simp [setTransfer, hr]
    · simp [setTransfer, hs]
  have hdevice : (w.setTransfer t x).device = w.device := by
    funext s
    rcases eq_or_ne s t with rfl | hs
    · simp [setTransfer, device, hd]
    · simp [setTransfer, device, hs]
  simp only [books, hrefcount, hdevice]
  rfl

/-- `virtusb_transfer_mark_queued` counts nothing. -/
@[simp]
theorem books_transferMarkQueued (t : TransferPtr) : (w.transferMarkQueued t).1.books = w.books := by
  rw [transferMarkQueued]
  split
  · rfl
  · exact books_setTransfer w rfl rfl

/-- `virtusb_transfer_cancel` counts nothing. -/
@[simp]
theorem books_transferCancel (t : TransferPtr) (status : ℤ) :
    (w.transferCancel t status).1.books = w.books := by
  simp only [transferCancel]
  split
  · rfl
  · exact books_setTransfer w rfl rfl

/-- `virtusb_transfer_complete` counts nothing. -/
@[simp]
theorem books_transferComplete (t : TransferPtr) (status : ℤ) (actualLength : ℕ) :
    (w.transferComplete t status actualLength).1.books = w.books := by
  simp only [transferComplete]
  split
  · rfl
  split
  · rfl
  · exact books_setTransfer w rfl rfl

/-- The buffer of a transfer is not counted. -/
@[simp]
theorem books_transferBuffer (a : TransferArgs) (garbage : ℕ → Byte) :
    (w.transferBuffer a garbage).1.books = w.books := by
  rw [transferBuffer]
  split
  · rfl
  split <;> rfl

/-- The copies of a completion are none of the books. -/
@[simp]
theorem books_completeCopy (request : Request) (data : ℕ → Byte) (actualLength : ℕ) :
    (w.completeCopy request data actualLength).books = w.books := by
  simp only [completeCopy]
  split
  · rw [books_setUrb, books_copy]
    exact books_setTransfer _ rfl rfl
  · rfl

/-- The books after a reference to a device was dropped. -/
theorem books_objectPut (d : DevicePtr) : (w.objectPut d).books =
    { w.books with
      objects := Function.update w.objects d
        { w.objects d with refcount := (w.objects d).refcount - 1 }
      released := if (w.objects d).refcount = 1 then w.books.released ++ [d]
        else w.books.released } := by
  by_cases hone : (w.objects d).refcount = 1
  · simp only [objectPut, if_pos hone, books, deviceRelease, List.map_append, List.map_cons,
      List.map_nil]
    rfl
  · simp only [objectPut, if_neg hone]
    rfl

/-- The books after an object was published. -/
theorem books_objectRegister {d : DevicePtr} {type : ObjectType} (htype : type ≠ .invalid)
    (hd : (w.objects d).registered = false) (hnext : ¬ w.nextObjectId > u32Max) :
    (w.objectRegister d type (.ok ())).1.books =
    { w.books with
      objects := Function.update w.objects d
        { id := w.nextObjectId, type := type, refcount := (w.objects d).refcount + 1,
          registered := true }
      objectTable := Function.update w.objectTable w.nextObjectId (some d)
      nextObjectId := w.nextObjectId + 1 } := by
  simp only [objectRegister, hd, hnext, htype, if_false, Bool.false_eq_true]
  simp only [books, objectGet, setObject, Function.update_idem, Function.update_self]
  rfl

variable {w} in
/-- The section that unregisters an object takes its entry out of the table, and leaves its count
alone. -/
theorem objectUnregisterLocked_ok {w' : World} {d : DevicePtr}
    (hs : w.objectUnregisterLocked d = (w', .ok ())) : (w.objects d).registered = true ∧
      w.objectTable (w.objects d).id = some d ∧ w'.bare = w.bare ∧
      w'.books =
        { w.books with
          objects := Function.update w.objects d { w.objects d with registered := false }
          objectTable := Function.update w.objectTable (w.objects d).id none } := by
  simp only [objectUnregisterLocked] at hs
  split at hs
  · simp at hs
  rename_i hoff
  split at hs
  · simp at hs
  rename_i htable
  obtain rfl := congrArg Prod.fst hs
  have hreg : (w.objects d).registered = true := by
    by_contra hreg
    simp [hreg] at hoff
  exact ⟨hreg, by simpa using htable, rfl, rfl⟩

end World

end VirtUsb
