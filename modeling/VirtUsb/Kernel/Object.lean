/-
# Objects and the object manager

`kernel/src/virtusb_object.c` and `kernel/src/virtusb_object_manager.c`, with
the release callback of `kernel/src/virtusb_device.c`.

A section under `virtusb_object_manager_lock` is one function.  The callback is
called by `kref_put` exactly when it takes the count from one to zero; a count
that is already zero stays there, as `refcount_t` saturates instead of wrapping.
-/

import VirtUsb.Kernel.State
import Mathlib.Algebra.Group.Nat.Defs
import Mathlib.Logic.Function.Basic

namespace VirtUsb

/-- `U32_MAX`. -/
def u32Max : ℕ := 2 ^ 32 - 1

namespace World

variable (w : World)

/-- The world with another object record for the device. -/
def setObject (d : DevicePtr) (o : Object) : World :=
  { w with objects := Function.update w.objects d o }

/-- `virtusb_device_release`: warns if the upstream port still has a peer. -/
def deviceRelease (d : DevicePtr) : World :=
  { w with released := w.released ++ [⟨d, (w.topo.upstream d).peer.isSome⟩] }

/-- `virtusb_object_get`. -/
def objectGet (d : DevicePtr) : World :=
  w.setObject d { w.objects d with refcount := (w.objects d).refcount + 1 }

/-- `virtusb_object_put`. -/
def objectPut (d : DevicePtr) : World :=
  let dropped := w.setObject d { w.objects d with refcount := (w.objects d).refcount - 1 }
  if (w.objects d).refcount = 1 then dropped.deviceRelease d else dropped

/-- `virtusb_object_register`. -/
def objectRegister (d : DevicePtr) (type : ObjectType) (xaInsert : Except Errno Unit) :
    World × Except Errno Unit :=
  if type = .invalid then (w, .error .EINVAL)
  else if (w.objects d).registered then (w, .error .EALREADY)
  else if w.nextObjectId > u32Max then (w, .error .ENOSPC)
  else
    let id := w.nextObjectId
    let held := w.objectGet d
    match xaInsert with
    | .error e => (held.objectPut d, .error e)
    | .ok () =>
        ({ held.setObject d { held.objects d with id := id, type := type, registered := true } with
            objectTable := Function.update held.objectTable id (some d)
            nextObjectId := held.nextObjectId + 1 }, .ok ())

/-- The part of `virtusb_object_unregister` under the manager lock. -/
def objectUnregisterLocked (d : DevicePtr) : World × Except Errno Unit :=
  let o := w.objects d
  if !o.registered || o.id = 0 then (w, .error .ENOENT)
  else if w.objectTable o.id ≠ some d then (w, .error .ENOENT)
  else
    ({ w.setObject d { o with registered := false } with
        objectTable := Function.update w.objectTable o.id none }, .ok ())

/-- `virtusb_object_unregister`. -/
def objectUnregister (d : DevicePtr) : World × Except Errno Unit :=
  match w.objectUnregisterLocked d with
  | (w', .error e) => (w', .error e)
  | (w', .ok ()) => (w'.objectPut d, .ok ())

/-- `virtusb_object_lookup`. -/
def objectLookup (id : ObjectId) : World × Option DevicePtr :=
  if id = 0 then (w, none)
  else
    match w.objectTable id with
    | none => (w, none)
    | some d => (w.objectGet d, some d)

/-- `virtusb_object_lookup_first_by_type`.  `xa_for_each` takes the entries in the order of
their ids; every id in the table was the next one once. -/
def objectLookupFirstByType (type : ObjectType) : World × Option DevicePtr :=
  let entry := (List.range w.nextObjectId).findSome? fun id =>
    (w.objectTable id).filter fun d => (w.objects d).type = type
  match entry with
  | none => (w, none)
  | some d => (w.objectGet d, some d)

/-! ### What the object functions leave alone -/

/-- The world without its objects, their table and the record of releases. -/
def bare : World :=
  { w with objects := fun _ => {}, released := [], objectTable := fun _ => none, nextObjectId := 0 }

variable {w} {w' : World}

/-- The wiring is part of what is left without the objects. -/
theorem topo_of_bare (h : w'.bare = w.bare) : w'.topo = w.topo :=
  (congrArg World.topo h :)

/-- The number of device records is part of what is left without the objects. -/
theorem nextDevice_of_bare (h : w'.bare = w.bare) : w'.nextDevice = w.nextDevice :=
  (congrArg World.nextDevice h :)

/-- The backends are part of what is left without the objects. -/
theorem backends_of_bare (h : w'.bare = w.bare) : w'.backends = w.backends :=
  (congrArg World.backends h :)

/-- The transfers are part of what is left without the objects. -/
theorem transfers_of_bare (h : w'.bare = w.bare) : w'.transfers = w.transfers :=
  (congrArg World.transfers h :)

variable (w)

/-- `virtusb_object_get` changes an object only. -/
@[simp]
theorem bare_objectGet (d : DevicePtr) : (w.objectGet d).bare = w.bare := rfl

/-- `virtusb_object_put` changes an object only, and the record of releases. -/
@[simp]
theorem bare_objectPut (d : DevicePtr) : (w.objectPut d).bare = w.bare := by
  simp only [objectPut]
  split <;> rfl

/-- `virtusb_object_register` changes objects and the table only. -/
@[simp]
theorem bare_objectRegister (d : DevicePtr) (type : ObjectType) (xaInsert : Except Errno Unit) :
    (w.objectRegister d type xaInsert).1.bare = w.bare := by
  simp only [objectRegister]
  split
  · rfl
  split
  · rfl
  split
  · rfl
  rcases xaInsert with e | _
  · simp
  · rfl

/-- The section of `virtusb_object_unregister` changes objects and the table only. -/
@[simp]
theorem bare_objectUnregisterLocked (d : DevicePtr) :
    (w.objectUnregisterLocked d).1.bare = w.bare := by
  simp only [objectUnregisterLocked]
  split
  · rfl
  split <;> rfl

/-- `virtusb_object_unregister` changes objects and the table only. -/
@[simp]
theorem bare_objectUnregister (d : DevicePtr) : (w.objectUnregister d).1.bare = w.bare := by
  have hlocked := w.bare_objectUnregisterLocked d
  rw [objectUnregister]
  rcases hs : w.objectUnregisterLocked d with ⟨w', e | _⟩
  · rwa [hs] at hlocked
  · rw [hs] at hlocked
    simpa using hlocked

/-! ### A reference that is taken and dropped -/

variable {w} in
/-- A reference that is taken and dropped at once leaves no trace, if one was held before. -/
theorem objectPut_objectGet {d : DevicePtr} (hd : 0 < (w.objects d).refcount) :
    (w.objectGet d).objectPut d = w := by
  have hcount : ((w.objectGet d).objects d).refcount = (w.objects d).refcount + 1 := by
    simp [objectGet, setObject]
  have hne : ¬ (w.objects d).refcount + 1 = 1 := by omega
  simp only [objectPut, hcount, hne, if_false]
  simp [objectGet, setObject]

end World

end VirtUsb
