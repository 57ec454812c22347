/-
# Query commands

The interface defines a query command for each kind of status, and the handler of only
one of them, `VIRTUSB_IOCTL_GET_PORT_STATUS`, was written.  The words of the others
should be refused, but the word of `VIRTUSB_IOCTL_GET_CONNECTED` has the number, size
and direction of `VIRTUSB_IOCTL_DEVICE_CREATE` (`ioctlGetConnected_eq`), so that query
creates a device if the hub it names is a mask of speeds (`query_keeps_iff`).
-/

import VirtUsb.Module.Failure
import Mathlib.Tactic.IntervalCases

namespace VirtUsb

open Transition

/-- `VIRTUSB_IOCTL_GET_...`. -/
def queryCommands : List (BitVec 32) :=
  [ioctlGetPortStatus, ioctlGetPower, ioctlGetConnected, ioctlGetEnabled, ioctlGetSuspended,
    ioctlGetReset, ioctlGetOverCurrent, ioctlGetSpeed]

/-- The two commands have one word. -/
theorem ioctlGetConnected_eq : ioctlGetConnected = ioctlDeviceCreate := by decide

/-! ### Masks of speeds -/

/-- A valid mask of speeds has some of its three bits and no other. -/
theorem le_of_controlSpeedCapsValid {s : BitVec 32} (hs : controlSpeedCapsValid s = true) :
    s ≠ 0 ∧ s.toNat ≤ 7 := by
  rw [controlSpeedCapsValid, Bool.and_eq_true, decide_eq_true_eq, decide_eq_true_eq] at hs
  obtain ⟨hne, hmask⟩ := hs
  have hand : s = s &&& speedCapAll := by
    ext i hi
    have hbit := congrArg (·[i]) hmask
    simp only [BitVec.getElem_and, BitVec.getElem_not] at hbit ⊢
    cases h : s[i] <;> simp_all
  refine ⟨hne, ?_⟩
  rw [hand, BitVec.toNat_and]
  exact Nat.and_le_right

/-- What the interface accepts, the port accepts. -/
theorem portSpeedIsValid_setWidth {s : BitVec 32} (hs : controlSpeedCapsValid s = true) :
    portSpeedIsValid (s.setWidth 8) = true := by
  obtain ⟨hne, hle⟩ := le_of_controlSpeedCapsValid hs
  obtain ⟨n, hn, rfl⟩ : ∃ n ≤ 7, s = BitVec.ofNat 32 n := ⟨s.toNat, hle, by simp⟩
  interval_cases n
  · exact absurd rfl hne
  all_goals rfl

namespace World

variable {N : ℕ} {w : World} {env : Env}

/-- A request with this mask of speeds creates a device. -/
def CanCreate (w : World) (speedCaps : BitVec 32) (env : Env) : Prop :=
  env.copyFromUser = true ∧ controlSpeedCapsValid speedCaps = true ∧ env.deviceAlloc = true ∧
    w.nextObjectId ≤ u32Max ∧ env.xaInsert = .ok ()

instance (w : World) (speedCaps : BitVec 32) (env : Env) :
    Decidable (w.CanCreate speedCaps env) :=
  have : Decidable (env.xaInsert = .ok ()) :=
    decidable_of_iff (env.xaInsert.isOk = true)
      (by rcases env.xaInsert with _ | _ <;> simp [Except.isOk, Except.toBool])
  inferInstanceAs (Decidable (_ ∧ _ ∧ _ ∧ _ ∧ _))

/-- A request that can create a device uses up an id. -/
theorem Steady.nextObjectId_controlDeviceCreate (hw : w.Steady N) {s : BitVec 32}
    (hc : w.CanCreate s env) :
    (w.controlDeviceCreate ⟨s⟩ env).1.nextObjectId = w.nextObjectId + 1 := by
  obtain ⟨hcopy, hcaps, halloc, hid, hinsert⟩ := hc
  have hport := portInit_upstream (portSpeedIsValid_setWidth hcaps) w.nextDevice
  have hcreate := @deviceCreate_eq w (s.setWidth 8) env _ hport
  simp only [halloc, hinsert, Bool.not_true, Bool.false_eq_true, if_false,
    if_neg (Nat.not_lt.2 hid)] at hcreate
  simp only [World.controlDeviceCreate, hcopy, hcaps, Bool.not_true, Bool.false_eq_true, if_false,
    hcreate]
  split
  · exact (hw.unchanged_withdrawn rfl).2
  · exact nextObjectId_of_management (Aside.objectPut _ _).management

/-- A request for a device changes nothing at all exactly if it cannot create one. -/
theorem Steady.controlDeviceCreate_keeps_iff (hw : w.Steady N) (s : BitVec 32) :
    w.Unchanged (w.controlDeviceCreate ⟨s⟩ env).1 ∧
        (w.controlDeviceCreate ⟨s⟩ env).1.nextObjectId = w.nextObjectId ↔
      ¬ w.CanCreate s env := by
  constructor
  · rintro ⟨-, hid⟩ hc
    exact Nat.succ_ne_self _ ((hw.nextObjectId_controlDeviceCreate hc).symm.trans hid)
  · intro hc
    rw [World.controlDeviceCreate]
    by_cases hcopy : env.copyFromUser = true
    swap
    · rw [if_pos (by simpa using hcopy)]
      exact ⟨.refl w, rfl⟩
    by_cases hcaps : controlSpeedCapsValid s = true
    swap
    · rw [if_neg (by simpa using hcopy), if_pos (by simpa using hcaps)]
      exact ⟨.refl w, rfl⟩
    rw [if_neg (by simpa using hcopy), if_neg (by simpa using hcaps)]
    rcases hs : w.deviceCreate (s.setWidth 8) env with ⟨w₁, e | d⟩
    · exact hw.unchanged_deviceCreate hs
    · obtain ⟨-, port, -, -, halloc, hid, hinsert⟩ := deviceCreate_ok hs
      exact absurd ⟨hcopy, hcaps, halloc, hid, hinsert⟩ hc

end World

open World

/-- **A query changes nothing, unless it is `VIRTUSB_IOCTL_GET_CONNECTED`** and its hub
is a mask of speeds with which a device can be created. -/
theorem query_keeps_iff {N : ℕ} {w : World} (hw : (calls N).Reachable w) {h : HcdId}
    {active : Bool} {f : FilePtr} {nonblock : Bool} {command : BitVec 32} {m : UserMemory}
    {env : Env} (hc : command ∈ queryCommands) :
    w.Unchanged (w.controlIoctl h active f nonblock command m env).1 ∧
        (w.controlIoctl h active f nonblock command m env).1.nextObjectId = w.nextObjectId ↔
      ¬ (command = ioctlGetConnected ∧ active = true ∧ w.CanCreate (m.word 0) env) := by
  have hst := steady_of_reachable hw
  have hsame : ∀ w', w' = w → (w.Unchanged w' ∧ w'.nextObjectId = w.nextObjectId) := by
    rintro w' rfl
    exact ⟨.refl w', rfl⟩
  rcases active
  · simp only [Bool.false_eq_true, false_and, and_false, not_false_eq_true, iff_true]
    exact hsame _ rfl
  by_cases hconnected : command = ioctlGetConnected
  · subst hconnected
    simp only [true_and]
    exact hst.controlDeviceCreate_keeps_iff (m.word 0)
  · simp only [hconnected, false_and, not_false_eq_true, iff_true]
    refine hsame _ ?_
    simp only [queryCommands, List.mem_cons, List.not_mem_nil, or_false] at hc
    rcases hc with rfl | rfl | rfl | rfl | rfl | rfl | rfl | rfl
    case inr.inr.inl => exact absurd rfl hconnected
    all_goals rfl

/-- No query about the root hub, whose id is no mask of speeds, changes anything on a controller
with a device, a backend and a URB that waits for it. -/
theorem query_keeps_example : ∃ w, (calls 1).Reachable w ∧ w.objectTable 1 = some 0 ∧
    (w.backends 0).bindings = [⟨0, 5⟩] ∧ (w.backends 0).pending = [⟨7, 0, none⟩] ∧
    ∀ command ∈ queryCommands,
      w.Unchanged (w.controlIoctl 0 true 5 false command (.ofWords [0, 0]) {}).1 := by
  obtain ⟨w, hw, hp⟩ := exists_reachable_of_exec (I := Initialised)
    (f := fun w c => if Call.Possible 1 w c then some (w.call c) else none) (s := oneHub)
    (l := Call.plugIn 5 ++ [.urbEnqueue 0 7 Urb.bulkOut {}])
    (p := fun w => w.objectTable 1 = some 0 ∧ (w.backends 0).bindings = [⟨0, 5⟩] ∧
      (w.backends 0).pending = [⟨7, 0, none⟩])
    oneHub_initialised (by decide)
  obtain ⟨hlisted, hbound, hqueued⟩ := of_decide_eq_true hp
  refine ⟨w, hw, hlisted, hbound, hqueued, fun command hc => ((query_keeps_iff hw hc).2 ?_).1⟩
  rintro ⟨-, -, -, hmask, -⟩
  have hzero : controlSpeedCapsValid ((UserMemory.ofWords [0, 0]).word 0) = false := by decide
  exact absurd (hmask.symm.trans hzero) (by simp)

/-- The query which devices are connected to hub 1 creates a device. -/
theorem query_creates_device : ∃ w, (calls 1).Reachable w ∧ ioctlGetConnected ∈ queryCommands ∧
    (w.controlIoctl 0 true 0 false ioctlGetConnected (.ofWords [1, 0]) {}).1.objectTable ≠
      w.objectTable := by
  refine ⟨oneHub, .init oneHub_initialised, by decide, fun hsame => ?_⟩
  have hcreated : (oneHub.controlIoctl 0 true 0 false ioctlGetConnected
    (.ofWords [1, 0]) {}).1.objectTable 1 = some 0 := by decide
  rw [hsame] at hcreated
  exact absurd hcreated (by decide)

end VirtUsb
