/-
# How each function keeps the books

One theorem for each function that takes or gives up references: what it must hold
when it is called and what its caller holds afterwards.
-/

import VirtUsb.Lifetime.Books
import VirtUsb.Kernel.Device
import Mathlib.Tactic.Abel

namespace VirtUsb

open RefCount

variable {N : ℕ} {k : Books} {b : HcdId → Backend} {held held' : DevicePtr → ℕ}
  {heldT heldT' : TransferPtr → ℕ}

namespace Ledger

/-- References change hands. -/
theorem of_eq (hl : Ledger N k b held heldT) (hd : held = held') (ht : heldT = heldT') :
    Ledger N k b held' heldT' := hd ▸ ht ▸ hl

/-- What a reference is held to has not been released. -/
theorem count_pos (hl : Ledger N k b (held + Pi.single d 1) heldT) :
    0 < (k.objects d).refcount := by
  have hcount := congrFun hl.devices.count d
  simp only [Books.deviceStore, Pi.add_apply, Pi.single_eq_same] at hcount
  omega

/-- A published object is counted. -/
theorem count_pos_of_registered (hl : Ledger N k b held heldT) {d : DevicePtr}
    (hd : (k.objects d).registered = true) : 0 < (k.objects d).refcount := by
  have hcount := congrFun hl.devices.count d
  simp only [Books.deviceStore, Books.published, Pi.add_apply, hd, if_true] at hcount
  omega

/-- A published object exists. -/
theorem lt_next_of_registered (hl : Ledger N k b held heldT) {d : DevicePtr}
    (hd : (k.objects d).registered = true) : d < k.nextDevice :=
  hl.devices.lt_next (congrFun hl.devices.count d ▸ hl.count_pos_of_registered hd)

/-- Without a request and a transfer in hand no transfer holds a device. -/
theorem targeted_eq_zero (hl : Ledger 0 k b held 0) : k.targeted = 0 := by
  refine Finset.sum_eq_zero fun t _ => ?_
  have hcount : k.refcount t = 0 := congrFun hl.transfers.count t
  rw [hcount, Books.share_zero]

/-! ### The counts of devices -/

/-- The count of one object is changed, and with it what is held. -/
theorem recount (hl : Ledger N k b held heldT) {d : DevicePtr} {n : ℕ} {released : List DevicePtr}
    (hdev : Balanced ⟨Function.update k.deviceStore.count d n, k.nextDevice, released⟩
      (k.published + ∑ h ∈ Finset.range N, (b h).bound + k.targeted + held')) :
    Ledger N
      { k with
        objects := Function.update k.objects d { k.objects d with refcount := n }
        released := released } b held' heldT := by
  set o : Object := { k.objects d with refcount := n }
  have hobjects : ∀ d', (Function.update k.objects d o d').id = (k.objects d').id ∧
      (Function.update k.objects d o d').registered = (k.objects d').registered := by
    intro d'
    rcases eq_or_ne d' d with rfl | hne
    · simp [o]
    · simp [hne]
  refine ⟨⟨fun id d' he => ?_, fun d' hr => ?_, hl.registry.unused, hl.registry.pos⟩, ?_,
    hl.transfers, hl.once⟩
  · rw [(hobjects d').1, (hobjects d').2]
    exact hl.registry.entry id d' he
  · rw [(hobjects d').2] at hr
    rw [(hobjects d').1]
    exact hl.registry.object d' hr
  · have hpublished : Books.published
        { k with objects := Function.update k.objects d o, released := released } = k.published := by
      rw [Books.published_update (k := k) rfl]
      exact Function.update_eq_self d k.published
    rw [hpublished, Books.deviceStore]
    dsimp only
    rw [Books.refcount_update]
    exact hdev

/-! ### The counts of transfers -/

/-- The count of one transfer is changed, and with it what is held: if it drops to
zero, so is the reference to the device. -/
theorem recountTransfer (hl : Ledger N k b held heldT) {t : TransferPtr} {n : ℕ}
    {freed : List TransferPtr} (ht : 0 < k.refcount t)
    (htransfers : Balanced ⟨Function.update k.refcount t n, k.nextTransfer, freed⟩
      (∑ h ∈ Finset.range N, (b h).queued + heldT'))
    (hheld : held + Pi.single (k.device t) 1 = held' + Books.share n (k.device t)) :
    Ledger N { k with refcount := Function.update k.refcount t n, freedTransfers := freed } b
      held' heldT' := by
  have hlt : t < k.nextTransfer := by
    have hcount := congrFun hl.transfers.count t
    exact hl.transfers.lt_next (hcount ▸ ht)
  set k' : Books :=
    { k with refcount := Function.update k.refcount t n, freedTransfers := freed }
  have hpublished : k'.published = k.published := rfl
  have htargeted : k'.targeted + Pi.single (k.device t) 1 =
      k.targeted + Books.share n (k.device t) := by
    refine sum_of_change (Finset.mem_range.2 hlt) (fun s hs => ?_) ?_
    · dsimp only [k']
      rw [Function.update_of_ne hs]
    · dsimp only [k']
      rw [Function.update_self, Books.share_of_pos _ ht, add_comm]
  refine ⟨hl.registry.congr rfl rfl rfl, hl.devices.of_eq ?_, htransfers, hl.once⟩
  rw [hpublished]
  have hall := congrArg₂ (· + ·) htargeted.symm hheld
  have hcancel : k.targeted + held + (Books.share n (k.device t) + Pi.single (k.device t) 1) =
      k'.targeted + held' + (Books.share n (k.device t) + Pi.single (k.device t) 1) := by
    calc _ = k.targeted + Books.share n (k.device t) + (held + Pi.single (k.device t) 1) := by abel
      _ = k'.targeted + Pi.single (k.device t) 1 + (held' + Books.share n (k.device t)) := hall
      _ = _ := by abel
  rw [add_assoc, add_right_cancel hcancel, ← add_assoc]

/-- A new transfer holds a reference to its device. -/
theorem newTransfer (hl : Ledger N k b (held + Pi.single d 1) heldT) :
    Ledger N
      { k with
        refcount := Function.update k.refcount k.nextTransfer 1
        device := Function.update k.device k.nextTransfer d
        nextTransfer := k.nextTransfer + 1 } b held (heldT + Pi.single k.nextTransfer 1) := by
  have halloc := hl.transfers.alloc
  set k' : Books :=
    { k with
      refcount := Function.update k.refcount k.nextTransfer 1
      device := Function.update k.device k.nextTransfer d
      nextTransfer := k.nextTransfer + 1 }
  have hpublished : k'.published = k.published := rfl
  have htargeted : k'.targeted = k.targeted + Pi.single d 1 := by
    rw [Books.targeted, Finset.sum_range_succ]
    congr 1
    · refine Finset.sum_congr rfl fun t ht => ?_
      have hne : t ≠ k.nextTransfer := Nat.ne_of_lt (Finset.mem_range.1 ht)
      dsimp only [k']
      rw [Function.update_of_ne hne, Function.update_of_ne hne]
    · simp [k', Books.share]
  refine ⟨hl.registry.congr rfl rfl rfl, hl.devices.of_eq ?_, halloc.of_eq (add_assoc _ _ _),
    hl.once⟩
  rw [hpublished, htargeted]
  abel

end Ledger

namespace World

namespace Accounts

variable {w w' : World} {d : DevicePtr} {t : TransferPtr}

/-- What changes neither the books nor the lists keeps the accounts. -/
theorem of_same (ha : w.Accounts N held heldT) (hb : w'.books = w.books)
    (hl : w'.backends = w.backends) : w'.Accounts N held heldT := by
  rw [Accounts, hb, hl]
  exact ha

/-- Nothing is counted in a module that was just loaded. -/
theorem loaded (N : ℕ) : World.loaded.Accounts N 0 0 := by
  have hbound : ∑ h ∈ Finset.range N, (World.loaded.backends h).bound = 0 :=
    Finset.sum_eq_zero fun _ _ => rfl
  have hqueued : ∑ h ∈ Finset.range N, (World.loaded.backends h).queued = 0 :=
    Finset.sum_eq_zero fun _ _ => rfl
  have hnew : ∀ k, Balanced ⟨fun _ => 0, 0, []⟩ k ↔ k = 0 := fun k =>
    ⟨fun hb => hb.count.symm, fun hk => ⟨hk.symm, by simp [hk], by simp⟩⟩
  have hpublished : World.loaded.books.published = 0 := rfl
  have htargeted : World.loaded.books.targeted = 0 := rfl
  refine ⟨⟨?_, ?_, fun _ _ => rfl, Nat.one_pos⟩, ?_, ?_, fun t => ?_⟩
  · intro id d hd
    exact absurd hd (by simp [books, World.loaded])
  · intro d hd
    exact absurd hd (by simp [books, World.loaded])
  · rw [hpublished, hbound, htargeted]
    exact (hnew _).2 rfl
  · rw [hqueued]
    exact (hnew _).2 rfl
  · rw [hqueued]
    exact Nat.zero_le 1

/-! ### Objects -/

/-- `virtusb_object_get`: the caller holds one reference more. -/
theorem objectGet (ha : w.Accounts N held heldT) (hd : 0 < (w.objects d).refcount) :
    (w.objectGet d).Accounts N (held + Pi.single d 1) heldT := by
  have howed := congrFun ha.devices.count d
  have hget := ha.devices.get (k := d) (howed ▸ hd)
  exact Ledger.recount ha (by rw [← add_assoc]; exact hget)

/-- **A reference to a device that is dropped** is not held any more. -/
theorem objectPut (ha : w.Accounts N (held + Pi.single d 1) heldT) :
    (w.objectPut d).Accounts N held heldT := by
  have hput := (ha.devices.of_eq (by rw [← add_assoc])).put
  have hbackends : (w.objectPut d).backends = w.backends := backends_of_bare (bare_objectPut w d)
  rw [Accounts, books_objectPut, hbackends]
  exact Ledger.recount ha hput

/-- A new object, which is not published. -/
theorem objectAlloc (ha : w.Accounts N held heldT) :
    w.objectAlloc.Accounts N (held + Pi.single w.nextDevice 1) heldT := by
  have halloc := ha.devices.alloc
  have hzero : (w.objects w.nextDevice).refcount = 0 := by
    have hcount := congrFun ha.devices.count w.nextDevice
    rw [(ha.devices.unborn w.nextDevice (Nat.le_refl _)).1] at hcount
    exact hcount
  have hborn : ∀ d, (w.objects d).registered = true → d ≠ w.nextDevice := by
    rintro d hd rfl
    exact absurd hzero (Nat.ne_of_gt (ha.count_pos_of_registered hd))
  have hother : ∀ d, d ≠ w.nextDevice → w.books.objects d = w.objectAlloc.books.objects d :=
    fun d hne => (Function.update_of_ne hne _ _).symm
  refine ⟨⟨fun id d he => ?_, fun d hr => ?_, ha.registry.unused, ha.registry.pos⟩, ?_,
    ha.transfers, ha.once⟩
  · have hd := ha.registry.entry id d he
    rwa [hother d (hborn d hd.1)] at hd
  · have hne : d ≠ w.nextDevice := by
      rintro rfl
      have hself : w.objectAlloc.books.objects w.nextDevice = { refcount := 1 } :=
        Function.update_self _ _ _
      rw [hself] at hr
      exact absurd hr (by decide)
    have hobject := ha.registry.object d
    rw [hother d hne] at hobject
    exact hobject hr
  · have hoff : (w.books.objects w.nextDevice).registered = false := by
      by_contra hon
      exact hborn w.nextDevice (Bool.eq_true_of_not_eq_false hon) rfl
    have hpublished : w.objectAlloc.books.published = w.books.published := by
      rw [Books.published_update (k := w.books) (o := { refcount := 1 }) rfl]
      refine (congrArg _ ?_).trans (Function.update_eq_self w.nextDevice w.books.published)
      simp [Books.published, hoff]
    rw [hpublished, Books.deviceStore, ← add_assoc]
    change Balanced ⟨fun d => (Function.update w.books.objects w.nextDevice _ d).refcount, _, _⟩ _
    rw [Books.refcount_update]
    exact halloc

/-- **The registration of an object**, of which a reference is known. -/
theorem objectRegister (ha : w.Accounts N held heldT) (hd : 0 < (w.objects d).refcount)
    (type : ObjectType) (xaInsert : Except Errno Unit) :
    (w.objectRegister d type xaInsert).1.Accounts N held heldT := by
  by_cases htype : type = .invalid
  · rw [World.objectRegister, if_pos htype]
    exact ha
  by_cases hoff : (w.objects d).registered = true
  · rw [World.objectRegister, if_neg htype, if_pos hoff]
    exact ha
  by_cases hnext : w.nextObjectId > u32Max
  · rw [World.objectRegister, if_neg htype, if_neg hoff, if_pos hnext]
    exact ha
  rcases xaInsert with e | _
  · rw [World.objectRegister, if_neg htype, if_neg hoff, if_neg hnext]
    exact (ha.objectGet hd).objectPut
  have hreg : (w.objects d).registered = false := Bool.eq_false_of_not_eq_true hoff
  have hbackends : (w.objectRegister d type (.ok ())).1.backends = w.backends :=
    backends_of_bare (bare_objectRegister w d _ _)
  rw [Accounts, books_objectRegister w htype hreg hnext, hbackends]
  refine ⟨ha.registry.publish hreg rfl rfl, ?_, ha.transfers, ha.once⟩
  have howed := congrFun ha.devices.count d
  have hget := ha.devices.get (k := d) (howed ▸ hd)
  have hpublished : Function.update w.books.published d 1 = w.books.published + Pi.single d 1 := by
    funext d'
    rcases eq_or_ne d' d with rfl | hne
    · simp [Books.published, show (w.books.objects d').registered = false from hreg]
    · simp [hne]
  rw [Books.published_update (k := w.books) rfl, if_pos rfl, hpublished, Books.deviceStore]
  dsimp only
  rw [Books.refcount_update]
  refine hget.of_eq ?_
  simp only [Books.targeted]
  abel

/-- **The locked part of an unregistration** leaves its caller the reference of the table. -/
theorem objectUnregisterLocked (ha : w.Accounts N held heldT)
    (hs : w.objectUnregisterLocked d = (w', .ok ())) :
    w'.Accounts N (held + Pi.single d 1) heldT := by
  obtain ⟨hreg, htable, hbare, hbooks⟩ := objectUnregisterLocked_ok hs
  rw [Accounts, hbooks, backends_of_bare hbare]
  refine ⟨ha.registry.retract htable, ?_, ha.transfers, ha.once⟩
  have hpublished : w.books.published =
      Function.update w.books.published d 0 + Pi.single d 1 := by
    funext d'
    rcases eq_or_ne d' d with rfl | hne
    · simp [Books.published, show (w.books.objects d').registered = true from hreg]
    · simp [hne]
  have hdevices := ha.devices
  rw [hpublished] at hdevices
  rw [Books.published_update (k := w.books) rfl, if_neg (by simp), Books.deviceStore]
  dsimp only
  rw [Books.refcount_update, Function.update_eq_self_iff.2 rfl]
  refine hdevices.of_eq ?_
  simp only [Books.targeted]
  abel

/-- A section that refuses to unregister changes nothing. -/
theorem objectUnregisterLocked_error {e : Errno}
    (hs : w.objectUnregisterLocked d = (w', .error e)) : w' = w := by
  simp only [World.objectUnregisterLocked] at hs
  split_ifs at hs <;> simp_all

/-- **An unregistration**, which drops the reference of the table. -/
theorem objectUnregister (ha : w.Accounts N held heldT) (d : DevicePtr) :
    (w.objectUnregister d).1.Accounts N held heldT := by
  rw [World.objectUnregister]
  rcases hs : w.objectUnregisterLocked d with ⟨w', e | _⟩
  · rw [objectUnregisterLocked_error hs]
    exact ha
  · exact (ha.objectUnregisterLocked hs).objectPut

/-- A lookup that finds nothing changes nothing. -/
theorem objectLookup_none {id : ObjectId} (hs : w.objectLookup id = (w', none)) : w' = w := by
  simp only [World.objectLookup] at hs
  split at hs
  · exact (congrArg Prod.fst hs).symm
  split at hs
  · exact (congrArg Prod.fst hs).symm
  · simp at hs

/-- **A lookup** finds a published device and takes a reference to it. -/
theorem objectLookup (ha : w.Accounts N held heldT) {id : ObjectId}
    (hs : w.objectLookup id = (w', some d)) :
    w'.Accounts N (held + Pi.single d 1) heldT ∧ w' = w.objectGet d ∧
      (w.objects d).registered = true ∧ (w.objects d).id = id := by
  simp only [World.objectLookup] at hs
  split at hs
  · simp at hs
  split at hs
  · simp at hs
  rename_i found hfound
  obtain rfl : found = d := Option.some.inj (congrArg Prod.snd hs)
  obtain rfl : w.objectGet found = w' := congrArg Prod.fst hs
  obtain ⟨hreg, hid⟩ := ha.registry.entry id found hfound
  exact ⟨ha.objectGet (ha.count_pos_of_registered hreg), rfl, hreg, hid⟩

/-! ### Devices -/

/-- The reference that a creation leaves to the creator. -/
def createdHeld : Except Errno DevicePtr → DevicePtr → ℕ
  | .ok d => Pi.single d 1
  | .error _ => 0

/-- **A creation** leaves the creator a reference if it succeeds. -/
theorem deviceCreate (ha : w.Accounts N held heldT) (speed : Byte) (env : Env) :
    (w.deviceCreate speed env).1.Accounts N
      (held + createdHeld (w.deviceCreate speed env).2) heldT := by
  simp only [World.deviceCreate]
  split
  · exact ha
  have halloc := ha.objectAlloc
  rcases portInit .upstream speed (.device w.nextDevice) with e | port
  · exact halloc.objectPut
  dsimp only
  set initialised : World :=
    { w.objectAlloc with topo := w.objectAlloc.topo.setPort (.upstream w.nextDevice) port }
  have hinit : initialised.Accounts N (held + Pi.single w.nextDevice 1) heldT := halloc
  have hreg := hinit.objectRegister hinit.count_pos .device env.xaInsert
  rcases hr : initialised.objectRegister w.nextDevice .device env.xaInsert with ⟨w', e | _⟩
  · rw [hr] at hreg
    exact hreg.objectPut
  · rw [hr] at hreg
    exact hreg

/-- **A destruction** drops the reference of the table. -/
theorem deviceDestroy (ha : w.Accounts N held heldT) (d : DevicePtr) (force : Bool) :
    (w.deviceDestroy d force).1.Accounts N held heldT := by
  have htopo : ∀ t, ({ w with topo := t } : World).Accounts N held heldT := fun _ => ha
  rw [World.deviceDestroy]
  split
  · split
    · exact ha
    rcases w.topo.deviceSetConnectionSignaling d false with ⟨t, e | _⟩
    · exact htopo t
    · exact (htopo (t.deviceDetach d)).objectUnregister d
  · exact ha.objectUnregister d

/-! ### Transfers -/

/-- `virtusb_transfer_get`: the caller holds one reference more. -/
theorem transferGet (ha : w.Accounts N held heldT) (ht : 0 < (w.transfers t).refcount) :
    (w.transferGet t).Accounts N held (heldT + Pi.single t 1) := by
  have howed := congrFun ha.transfers.count t
  have hget := ha.transfers.get (k := t) (howed ▸ ht)
  have hl := Ledger.recountTransfer ha ht (hget.of_eq (add_assoc _ _ _))
    (by rw [Books.share_of_pos _ (Nat.succ_pos _)])
  rw [World.transferGet, Accounts, books_setRefcount]
  exact hl

/-- The record of freed transfers has no say in a put. -/
theorem objectPut_record (w : World) (freed : List TransferPtr) (d : DevicePtr) :
    ({ w with freedTransfers := freed } : World).objectPut d =
      { w.objectPut d with freedTransfers := freed } := by
  simp only [World.objectPut]
  split <;> rfl

/-- **A reference to a transfer that is dropped** is not held any more; the last one
drops the reference to its device too. -/
theorem transferPut (ha : w.Accounts N held (heldT + Pi.single t 1)) :
    (w.transferPut t).Accounts N held heldT := by
  have hput := (ha.transfers.of_eq (by rw [← add_assoc])).put
  have hcount : w.books.refcount t = (∑ h ∈ Finset.range N, (w.backends h).queued) t +
      (heldT t + 1) := by
    have hcount := congrFun ha.transfers.count t
    simpa [Books.transferStore] using hcount
  have hpos : 0 < w.books.refcount t := hcount ▸ Nat.succ_pos _
  set dropped := w.setTransfer t { w.transfers t with refcount := (w.transfers t).refcount - 1 }
  by_cases hone : (w.transfers t).refcount = 1
  · set freed : World := { dropped with freedTransfers := w.freedTransfers ++ [t] }
    have hfreed : freed.Accounts N (held + Pi.single (w.device t) 1) heldT := by
      have hbooks : freed.books =
          { w.books with
            refcount := Function.update w.books.refcount t ((w.transfers t).refcount - 1)
            freedTransfers := w.freedTransfers ++ [t] } := by
        have hset := w.books_setRefcount t ((w.transfers t).refcount - 1)
        exact congrArg (fun k : Books => { k with freedTransfers := w.freedTransfers ++ [t] }) hset
      rw [Accounts, hbooks]
      refine Ledger.recountTransfer ha hpos ?_ (by rw [hone]; rfl)
      simpa [Store.put, Books.transferStore, hone, World.books] using hput
    have heq : w.transferPut t = freed.objectPut (w.device t) := by
      have hdevice : (dropped.transfers t).device = w.device t := by
        simp [dropped, setTransfer, device]
      rw [World.transferPut, if_pos hone, transferRelease, hdevice]
      exact (objectPut_record dropped (w.freedTransfers ++ [t]) (w.device t)).symm
    rw [heq]
    exact hfreed.objectPut
  · have heq : w.transferPut t = dropped := by
      rw [World.transferPut, if_neg hone]
    have hpos' : 0 < (w.transfers t).refcount - 1 :=
      Nat.sub_pos_of_lt (Nat.lt_of_le_of_ne hpos (Ne.symm hone))
    rw [heq, Accounts, books_setRefcount]
    refine Ledger.recountTransfer ha hpos ?_ (by rw [Books.share_of_pos _ hpos'])
    simpa [Store.put, Books.transferStore, hone, World.books] using hput

end Accounts

end World

end VirtUsb
