/-
# Threads on the object manager

Any number of threads run the functions of `kernel/src/virtusb_object_manager.c` and
`kernel/src/virtusb_object.c`.  A section under `virtusb_object_manager_lock` is one
step; `virtusb_object_unregister` drops the reference of the registry after it has
left the lock, in a step of its own.

A caller holds a reference to the object it passes: it allocated the object, looked it
up, took a further reference, or was handed one by another thread.
-/

import VirtUsb.Lib.Machine
import VirtUsb.Lib.Directory
import VirtUsb.Lifetime.Ledger

namespace VirtUsb

namespace ObjectManager

/-- A thread of the kernel. -/
abbrev Tid := ℕ

/-- A thread inside `virtusb_object_unregister`, between the lock and the put, and the
id that it took out of the registry. -/
structure Leaving where
  thread : Tid
  object : DevicePtr
  id : ObjectId
  deriving DecidableEq

/-- The world, the references that callers hold, and the unregistrations that are half done. -/
structure State where
  world : World
  /-- The references of callers, one entry for each. -/
  held : List (Tid × DevicePtr) := []
  leaving : List Leaving := []

/-- A section under the lock of the object table, or a reference taken or dropped, by caller `i`.
-/
inductive Action
  | alloc (i : Tid)
  | register (i : Tid) (d : DevicePtr) (type : ObjectType) (xaInsert : Except Errno Unit)
  | unregister (i : Tid) (d : DevicePtr)
  | unregisterPut (i : Tid)
  | lookup (i : Tid) (id : ObjectId)
  | get (i : Tid) (d : DevicePtr)
  | put (i : Tid) (d : DevicePtr)
  | handOver (i j : Tid) (d : DevicePtr)

/-- The module was just loaded, and no thread holds anything. -/
def State.loaded : State := { world := World.loaded }

namespace State

variable (s : State)

/-- The thread is not in the middle of a call. -/
def Idle (i : Tid) : Prop := ∀ x ∈ s.leaving, x.thread ≠ i

instance (i : Tid) : Decidable (s.Idle i) :=
  inferInstanceAs (Decidable (∀ x ∈ s.leaving, x.thread ≠ i))

/-- The thread may pass the object to a function. -/
def MayPass (i : Tid) (d : DevicePtr) : Prop := s.Idle i ∧ (i, d) ∈ s.held

instance (i : Tid) (d : DevicePtr) : Decidable (s.MayPass i d) :=
  inferInstanceAs (Decidable (s.Idle i ∧ (i, d) ∈ s.held))

/-- One step of a thread. -/
def step : Action → Option State
  | .alloc i =>
      if s.Idle i then
        some { s with world := s.world.objectAlloc, held := (i, s.world.nextDevice) :: s.held }
      else none
  | .register i d type xaInsert =>
      if s.MayPass i d then some { s with world := (s.world.objectRegister d type xaInsert).1 }
      else none
  | .unregister i d =>
      if s.MayPass i d then
        match s.world.objectUnregisterLocked d with
        | (w, .error _) => some { s with world := w }
        | (w, .ok ()) =>
            some { s with world := w, leaving := ⟨i, d, (s.world.objects d).id⟩ :: s.leaving }
      else none
  | .unregisterPut i =>
      match s.leaving.find? fun x => x.thread = i with
      | none => none
      | some x => some { s with world := s.world.objectPut x.object, leaving := s.leaving.erase x }
  | .lookup i id =>
      if s.Idle i then
        match s.world.objectLookup id with
        | (w, none) => some { s with world := w }
        | (w, some d) => some { s with world := w, held := (i, d) :: s.held }
      else none
  | .get i d =>
      if s.MayPass i d then
        some { s with world := s.world.objectGet d, held := (i, d) :: s.held }
      else none
  | .put i d =>
      if s.MayPass i d then
        some { s with world := s.world.objectPut d, held := s.held.erase (i, d) }
      else none
  | .handOver i j d =>
      if s.MayPass i d then some { s with held := (j, d) :: s.held.erase (i, d) } else none

end State

/-- What a step can do. -/
inductive Step (s : State) : Action → State → Prop
  | alloc {i : Tid} (hi : s.Idle i) :
      Step s (.alloc i)
        { s with world := s.world.objectAlloc, held := (i, s.world.nextDevice) :: s.held }
  | register {i : Tid} {d : DevicePtr} {type : ObjectType} {xaInsert : Except Errno Unit} {w : World}
      {r : Except Errno Unit} (hm : s.MayPass i d)
      (hr : s.world.objectRegister d type xaInsert = (w, r)) :
      Step s (.register i d type xaInsert) { s with world := w }
  | unregisterFailed {i : Tid} {d : DevicePtr} {e : Errno} (hm : s.MayPass i d)
      (hl : s.world.objectUnregisterLocked d = (s.world, .error e)) : Step s (.unregister i d) s
  | unregister {i : Tid} {d : DevicePtr} {w : World} (hm : s.MayPass i d)
      (hl : s.world.objectUnregisterLocked d = (w, .ok ())) :
      Step s (.unregister i d)
        { s with world := w, leaving := ⟨i, d, (s.world.objects d).id⟩ :: s.leaving }
  | unregisterPut {i : Tid} {x : Leaving} (hx : (s.leaving.find? fun x => x.thread = i) = some x) :
      Step s (.unregisterPut i)
        { s with world := s.world.objectPut x.object, leaving := s.leaving.erase x }
  | lookupFailed {i : Tid} {id : ObjectId} (hi : s.Idle i)
      (hl : s.world.objectLookup id = (s.world, none)) : Step s (.lookup i id) s
  | lookup {i : Tid} {id : ObjectId} {d : DevicePtr} (hi : s.Idle i)
      (hl : s.world.objectLookup id = (s.world.objectGet d, some d)) :
      Step s (.lookup i id) { s with world := s.world.objectGet d, held := (i, d) :: s.held }
  | get {i : Tid} {d : DevicePtr} (hm : s.MayPass i d) :
      Step s (.get i d) { s with world := s.world.objectGet d, held := (i, d) :: s.held }
  | put {i : Tid} {d : DevicePtr} (hm : s.MayPass i d) :
      Step s (.put i d) { s with world := s.world.objectPut d, held := s.held.erase (i, d) }
  | handOver {i j : Tid} {d : DevicePtr} (hm : s.MayPass i d) :
      Step s (.handOver i j d) { s with held := (j, d) :: s.held.erase (i, d) }

/-- The section that unregisters refuses and changes nothing, or goes through. -/
theorem objectUnregisterLocked_cases (w : World) (d : DevicePtr) :
    (∃ e, w.objectUnregisterLocked d = (w, .error e)) ∨
      ∃ w', w.objectUnregisterLocked d = (w', .ok ()) := by
  rcases hl : w.objectUnregisterLocked d with ⟨w', e | _⟩
  · obtain rfl := World.Accounts.objectUnregisterLocked_error hl
    exact .inl ⟨e, rfl⟩
  · exact .inr ⟨w', rfl⟩

/-- A lookup finds nothing, or takes a reference to what it finds. -/
theorem objectLookup_cases (w : World) (id : ObjectId) :
    w.objectLookup id = (w, none) ∨ ∃ d, w.objectLookup id = (w.objectGet d, some d) := by
  unfold World.objectLookup
  split
  · exact .inl rfl
  split
  · exact .inl rfl
  · rename_i d _
    exact .inr ⟨d, rfl⟩

/-- The step function takes the steps of the relation. -/
theorem step_cases {s s' : State} {a : Action} (hs : s.step a = some s') : Step s a s' := by
  cases a with
  | alloc i =>
      obtain ⟨hi, hs⟩ := Option.ite_none_right_eq_some.1 hs
      obtain rfl := Option.some.inj hs
      exact .alloc hi
  | register i d type xaInsert =>
      obtain ⟨hm, hs⟩ := Option.ite_none_right_eq_some.1 hs
      obtain rfl := Option.some.inj hs
      exact .register hm rfl
  | unregister i d =>
      obtain ⟨hm, hs⟩ := Option.ite_none_right_eq_some.1 hs
      rcases objectUnregisterLocked_cases s.world d with ⟨e, hl⟩ | ⟨w, hl⟩
      · rw [hl] at hs
        obtain rfl := Option.some.inj hs
        exact .unregisterFailed hm hl
      · rw [hl] at hs
        obtain rfl := Option.some.inj hs
        exact .unregister hm hl
  | unregisterPut i =>
      simp only [State.step] at hs
      split at hs
      · exact absurd hs (by simp)
      · rename_i x hx
        obtain rfl := Option.some.inj hs
        exact .unregisterPut hx
  | lookup i id =>
      obtain ⟨hi, hs⟩ := Option.ite_none_right_eq_some.1 hs
      rcases objectLookup_cases s.world id with hl | ⟨d, hl⟩
      · rw [hl] at hs
        obtain rfl := Option.some.inj hs
        exact .lookupFailed hi hl
      · rw [hl] at hs
        obtain rfl := Option.some.inj hs
        exact .lookup hi hl
  | get i d =>
      obtain ⟨hm, hs⟩ := Option.ite_none_right_eq_some.1 hs
      obtain rfl := Option.some.inj hs
      exact .get hm
  | put i d =>
      obtain ⟨hm, hs⟩ := Option.ite_none_right_eq_some.1 hs
      obtain rfl := Option.some.inj hs
      exact .put hm
  | handOver i j d =>
      obtain ⟨hm, hs⟩ := Option.ite_none_right_eq_some.1 hs
      obtain rfl := Option.some.inj hs
      exact .handOver hm

namespace State

variable (s : State)

/-- What the registry holds, and the id it gives next. -/
def directory : Directory.Dir DevicePtr := ⟨s.world.objectTable, s.world.nextObjectId⟩

end State

/-- The steps taken so far, each with the state before it. -/
abbrev History := List (State × Action)

/-- The callers of the registry, in any interleaving. -/
abbrev machine : Transition.Machine State Action := .ofFun (· = State.loaded) State.step

/-- What a step published or took out. -/
def event (x : State × Action) : Option (Directory.Event DevicePtr) :=
  match x.2 with
  | .register _ d type xaInsert =>
      match x.1.world.objectRegister d type xaInsert with
      | (w, .ok ()) => some (.publish (w.objects d).id d)
      | (_, .error _) => none
  | .unregister _ d =>
      match (x.1.world.objectUnregisterLocked d).2 with
      | .ok () => some (.retract (x.1.world.objects d).id)
      | .error _ => none
  | _ => none

/-- A step that is a call of `virtusb_object_unregister`: the id under which the object
was published last, zero if it never was. -/
def unregisters (x : State × Action) : Option ObjectId :=
  match x.2 with
  | .unregister _ d => some (x.1.world.objects d).id
  | _ => none

/-- A step that drops the reference of the registry, and the id it belonged to. -/
def drops (x : State × Action) : Option ObjectId :=
  match x.2 with
  | .unregisterPut i => (x.1.leaving.find? fun y => y.thread = i).map Leaving.id
  | _ => none

namespace History

variable (h : History)

/-- What happened to the directory. -/
def events : List (Directory.Event DevicePtr) := h.filterMap event

/-- The ids that registrations returned, in order. -/
def ids : List ObjectId := Directory.names h.events

/-- The objects registered, each with its id. -/
def publications : List (ObjectId × DevicePtr) := Directory.publications h.events

/-- The ids whose publication a call of `virtusb_object_unregister` ended. -/
def retractions : List ObjectId := Directory.retractions h.events

end History

end ObjectManager

end VirtUsb
