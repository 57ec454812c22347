/-
# Every reference has an owner

Between two calls the only references to a device are those of the object table, of
the bindings and of the queued requests for it, and the only reference to a transfer
is that of its request.  A device or transfer is on the record of releases exactly if
its count is zero, and a call appends to the record what it brought to zero.
-/

import VirtUsb.Module.Calls
import Mathlib.Algebra.BigOperators.Pi
import Mathlib.Algebra.BigOperators.Ring.Finset
import Mathlib.Algebra.BigOperators.Group.Finset.Sigma

namespace VirtUsb

open Transition RefCount

namespace World

/-- The requests in the two lists of a backend. -/
def requests (w : World) (h : HcdId) : List Request :=
  (w.backends h).pending ++ (w.backends h).active

/-- The number of bindings to a device over the first `N` host controllers. -/
def bindingsOf (N : ℕ) (w : World) (d : DevicePtr) : ℕ :=
  ∑ h ∈ Finset.range N, (w.backends h).bindings.countP fun binding => binding.device = d

/-- The number of queued requests for a device over the first `N` host controllers. -/
def requestsFor (N : ℕ) (w : World) (d : DevicePtr) : ℕ :=
  ∑ h ∈ Finset.range N, (w.requests h).countP fun r => w.requestDevice r = d

/-- The device is in the object table. -/
def Listed (w : World) (d : DevicePtr) : Prop := ∃ id, w.objectTable id = some d

/-- The device exists, and nothing refers to it any more. -/
def DeviceGone (w : World) (d : DevicePtr) : Prop :=
  d < w.nextDevice ∧ (w.objects d).refcount = 0

/-- The transfer exists, and nothing refers to it any more. -/
def TransferGone (w : World) (t : TransferPtr) : Prop :=
  t < w.nextTransfer ∧ (w.transfers t).refcount = 0

instance (w : World) (d : DevicePtr) : Decidable (w.DeviceGone d) :=
  inferInstanceAs (Decidable (_ ∧ _))

instance (w : World) (t : TransferPtr) : Decidable (w.TransferGone t) :=
  inferInstanceAs (Decidable (_ ∧ _))

variable {N : ℕ} {w w' : World} {d : DevicePtr} {t : TransferPtr}

/-! ### What is counted -/

/-- Between calls, a device is in the table if its object is registered. -/
theorem Accounts.listed (ha : w.Accounts N 0 0) : w.Listed d ↔ (w.objects d).registered = true :=
  ⟨fun ⟨id, hid⟩ => (ha.registry.entry id d hid).1, fun hd => ⟨_, (ha.registry.object d hd).1⟩⟩

/-- A transfer is counted as often as it is queued. -/
theorem Accounts.refcount_transfer (ha : w.Accounts N 0 0) (t : TransferPtr) :
    (w.transfers t).refcount = ∑ h ∈ Finset.range N, (w.backends h).queued t := by
  have hcount : (w.transfers t).refcount = _ := congrFun ha.transfers.count t
  rwa [add_zero, Finset.sum_apply] at hcount

/-- A transfer is in the queues once at most. -/
theorem Accounts.queued_le (ha : w.Accounts N 0 0) (t : TransferPtr) :
    ∑ h ∈ Finset.range N, (w.backends h).queued t ≤ 1 := by
  have honce := ha.once t
  rwa [Finset.sum_apply] at honce

/-- The transfer of a request was created. -/
theorem Accounts.lt_of_mem_requests (ha : w.Accounts N 0 0) {h : HcdId} (hh : h < N) {r : Request}
    (hr : r ∈ w.requests h) : r.transfer < w.nextTransfer :=
  ha.transfers.lt_next (congrFun ha.transfers.count r.transfer ▸ ha.queued_pos hh hr)

/-- What the transfers hold of a device, each transfer being counted once. -/
theorem Accounts.share_eq (ha : w.Accounts N 0 0) (t : TransferPtr) (d : DevicePtr) :
    Books.share (w.books.refcount t) (w.books.device t) d =
      ∑ h ∈ Finset.range N, (w.backends h).queued t * if w.device t = d then 1 else 0 := by
  have hcount : w.books.refcount t = _ := ha.refcount_transfer t
  have hle := ha.queued_le t
  rw [← Finset.sum_mul, ← hcount]
  rw [← hcount] at hle
  have hdevice : w.books.device t = w.device t := rfl
  rw [hdevice]
  rcases Nat.eq_zero_or_pos (w.books.refcount t) with hzero | hpos
  · simp [hzero]
  · have hone : w.books.refcount t = 1 := Nat.le_antisymm hle hpos
    rw [Books.share_of_pos _ hpos, hone, one_mul, Pi.single_apply]
    simp only [eq_comm]

/-- **The transfers that refer to a device are those of its requests.** -/
theorem Accounts.targeted_eq (ha : w.Accounts N 0 0) (d : DevicePtr) :
    w.books.targeted d = w.requestsFor N d := by
  calc w.books.targeted d
      = ∑ t ∈ Finset.range w.nextTransfer, ∑ h ∈ Finset.range N,
          (w.backends h).queued t * (if w.device t = d then 1 else 0) := by
        rw [Books.targeted, Finset.sum_apply]
        exact Finset.sum_congr rfl fun t _ => ha.share_eq t d
    _ = ∑ h ∈ Finset.range N, ∑ t ∈ Finset.range w.nextTransfer,
          (w.backends h).queued t * (if w.device t = d then 1 else 0) := Finset.sum_comm
    _ = w.requestsFor N d := by
        refine Finset.sum_congr rfl fun h hh => ?_
        have hlt : ∀ t ∈ (w.requests h).map (·.transfer), t < w.nextTransfer := by
          intro t ht
          obtain ⟨r, hr, rfl⟩ := List.mem_map.1 ht
          exact ha.lt_of_mem_requests (Finset.mem_range.1 hh) hr
        rw [Backend.queued, ← requests, sum_tally_mul hlt, List.map_map]
        exact sum_indicator _ _

/-- The bindings of all controllers to a device. -/
theorem bound_eq (N : ℕ) (w : World) (d : DevicePtr) :
    (∑ h ∈ Finset.range N, (w.backends h).bound) d = w.bindingsOf N d := by
  rw [Finset.sum_apply]
  refine Finset.sum_congr rfl fun h _ => ?_
  rw [Backend.bound, tally, List.count, List.countP_map]
  congr 1

open scoped Classical in
/-- The count of a device is what refers to it. -/
theorem Accounts.refcount_device (ha : w.Accounts N 0 0) (d : DevicePtr) :
    (w.objects d).refcount =
      (if w.Listed d then 1 else 0) + w.bindingsOf N d + w.requestsFor N d := by
  have hcount : (w.objects d).refcount = _ := congrFun ha.devices.count d
  have hpublished : w.books.published d = if w.Listed d then 1 else 0 := by
    rw [Books.published]
    exact if_congr ha.listed.symm rfl rfl
  rw [hcount, Pi.add_apply, Pi.add_apply, Pi.add_apply, hpublished, bound_eq,
    ha.targeted_eq, Pi.zero_apply, add_zero]

/-- The transfer of a request has one reference. -/
theorem Accounts.refcount_of_mem_requests (ha : w.Accounts N 0 0) {h : HcdId} (hh : h < N)
    {r : Request} (hr : r ∈ w.requests h) : (w.transfers r.transfer).refcount = 1 := by
  have hle := ha.queued_le r.transfer
  rw [← ha.refcount_transfer] at hle
  exact Nat.le_antisymm hle (ha.queued_pos hh hr)

/-- Something is on the record of what was freed, once, if it exists and nothing refers
to it. -/
theorem count_freed {s : Store} {owed : ℕ → ℕ} (hb : Balanced s owed) (k : ℕ) :
    s.freed.count k = if k < s.next ∧ s.count k = 0 then 1 else 0 := by
  by_cases hk : k < s.next
  · rw [hb.freed k hk, hb.count]
    simp only [hk, true_and]
  · rw [if_neg fun hlt => hk hlt.1]
    exact List.count_eq_zero.2 (hb.unborn k (Nat.not_lt.1 hk)).2

/-- The record of the devices that were released. -/
theorem Accounts.count_released (ha : w.Accounts N 0 0) (d : DevicePtr) :
    (w.released.map Release.device).count d = if w.DeviceGone d then 1 else 0 :=
  count_freed ha.devices d

/-- The record of the transfers that were freed. -/
theorem Accounts.count_freedTransfers (ha : w.Accounts N 0 0) (t : TransferPtr) :
    w.freedTransfers.count t = if w.TransferGone t then 1 else 0 :=
  count_freed ha.transfers t

/-- What is added to a record of things that are named there once they are gone. -/
theorem count_grown {l l' : List ℕ} {gone gone' : ℕ → Prop} [DecidablePred gone]
    [DecidablePred gone'] (hl : ∀ k, l.count k = if gone k then 1 else 0)
    (hl' : ∀ k, l'.count k = if gone' k then 1 else 0) (hp : l <+: l') :
    ∃ more, l' = l ++ more ∧ ∀ k, more.count k = if gone' k ∧ ¬ gone k then 1 else 0 := by
  obtain ⟨more, rfl⟩ := hp
  refine ⟨more, rfl, fun k => ?_⟩
  have hgone := hl k
  have hgone' := hl' k
  rw [List.count_append] at hgone'
  by_cases h : gone k <;> by_cases h' : gone' k <;> simp [h, h'] at hgone hgone' ⊢ <;> omega

end World

open World

open scoped Classical in
/-- **Every reference has an owner, and everything is released once**: in the call that
drops its last reference, and in no other. -/
theorem references_accounted {N : ℕ} {w : World} (hw : (calls N).Reachable w) :
    (∀ d, (w.objects d).refcount =
      (if w.Listed d then 1 else 0) + w.bindingsOf N d + w.requestsFor N d) ∧
    (∀ h < N, ∀ r ∈ w.requests h, (w.transfers r.transfer).refcount = 1) ∧
    (∀ d, (w.released.map Release.device).count d = if w.DeviceGone d then 1 else 0) ∧
    (∀ t, w.freedTransfers.count t = if w.TransferGone t then 1 else 0) ∧
    ∀ c w', (calls N).step w c w' →
      (∃ more, w'.released.map Release.device = w.released.map Release.device ++ more ∧
        ∀ d, more.count d = if w'.DeviceGone d ∧ ¬ w.DeviceGone d then 1 else 0) ∧
      ∃ more, w'.freedTransfers = w.freedTransfers ++ more ∧
        ∀ t, more.count t = if w'.TransferGone t ∧ ¬ w.TransferGone t then 1 else 0 := by
  have hs := steady_of_reachable hw
  have ha := hs.accounts
  refine ⟨ha.refcount_device, fun h hh r hr => ha.refcount_of_mem_requests hh hr, ?_, ?_,
    fun c w' hstep => ?_⟩
  · intro d
    convert ha.count_released d
  · intro t
    convert ha.count_freedTransfers t
  obtain ⟨hc, rfl⟩ := calls_step hstep
  have ha' := (hs.call hc.1).accounts
  have hrecorded := (managed_call ha.counted ha.registry c).recorded
  constructor
  · obtain ⟨more, hmore, hcount⟩ := count_grown ha.count_released ha'.count_released
      (hrecorded.released.map Release.device)
    refine ⟨more, hmore, fun d => ?_⟩
    convert hcount d
  · obtain ⟨more, hmore, hcount⟩ := count_grown ha.count_freedTransfers ha'.count_freedTransfers
      hrecorded.freed
    refine ⟨more, hmore, fun t => ?_⟩
    convert hcount t

/-- A device at a port with a backend and one URB in flight: three references. -/
theorem references_accounted_example : ∃ w, (calls 1).Reachable w ∧ w.Listed 0 ∧
    w.bindingsOf 1 0 = 1 ∧ w.requestsFor 1 0 = 1 ∧ (w.objects 0).refcount = 3 := by
  obtain ⟨w, hw, hp⟩ := exists_reachable_of_exec (I := Initialised)
    (f := fun w c => if Call.Possible 1 w c then some (w.call c) else none) (s := oneHub)
    (l := Call.plugIn 0 ++ [.urbEnqueue 0 5 Urb.bulkOut {}])
    (p := fun w => w.objectTable 1 = some 0 ∧ w.bindingsOf 1 0 = 1 ∧ w.requestsFor 1 0 = 1)
    oneHub_initialised (by decide)
  obtain ⟨hlisted, hbound, hqueued⟩ := of_decide_eq_true hp
  have hcount := (references_accounted hw).1 0
  have hl : w.Listed 0 := ⟨1, hlisted⟩
  rw [if_pos hl, hbound, hqueued] at hcount
  exact ⟨w, hw, hl, hbound, hqueued, hcount⟩

end VirtUsb
