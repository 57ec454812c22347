/-
# How the transfer backend keeps the books

A binding holds a reference to its device and a request one to its transfer, so a
section that changes the lists of a backend moves a reference between the lists and
the function that runs (`Accounts.relisted`).  The whole functions take and give up
everything they hold in between.
-/

import VirtUsb.Lifetime.Ledger

namespace VirtUsb

open RefCount

variable {N : ℕ} {k : Books} {b : HcdId → Backend} {held held' : DevicePtr → ℕ}
  {heldT heldT' : TransferPtr → ℕ}

namespace Backend

variable (b : Backend)

/-- A request that is appended is queued once more. -/
theorem queued_append (r : Request) :
    Backend.queued { b with pending := b.pending ++ [r] } = b.queued + Pi.single r.transfer 1 := by
  have hperm : (b.pending ++ [r] ++ b.active).Perm (r :: (b.pending ++ b.active)) := by
    rw [List.append_assoc, List.singleton_append]
    exact List.perm_middle
  rw [queued, queued, ← tally_cons]
  exact tally_perm (hperm.map Request.transfer)

end Backend

/-- **The lists of a backend change**, and with them what is held. -/
theorem Ledger.move (hl : Ledger N k b held heldT) {h : HcdId} (hh : h < N) {b' : Backend}
    (hbound : b'.bound + held' = (b h).bound + held)
    (hqueued : b'.queued + heldT' = (b h).queued + heldT)
    (honce : ∀ t, b'.queued t ≤ (b h).queued t ∨
      b'.queued t ≤ 1 ∧ (∑ h ∈ Finset.range N, (b h).queued) t = 0) :
    Ledger N k (Function.update b h b') held' heldT' := by
  have hmem := Finset.mem_range.2 hh
  have hother : ∀ j, j ≠ h → Function.update b h b' j = b j := fun j hj =>
    Function.update_of_ne hj _ _
  have hsum : ∑ j ∈ Finset.range N, (Function.update b h b' j).bound + held' =
      ∑ j ∈ Finset.range N, (b j).bound + held := by
    refine sum_of_change hmem (fun j hj => by rw [hother j hj]) ?_
    rw [Function.update_self, hbound]
  have hsumT : ∑ j ∈ Finset.range N, (Function.update b h b' j).queued + heldT' =
      ∑ j ∈ Finset.range N, (b j).queued + heldT := by
    refine sum_of_change hmem (fun j hj => by rw [hother j hj]) ?_
    rw [Function.update_self, hqueued]
  have hchange : ∑ j ∈ Finset.range N, (Function.update b h b' j).queued + (b h).queued =
      ∑ j ∈ Finset.range N, (b j).queued + b'.queued := by
    refine sum_of_change hmem (fun j hj => by rw [hother j hj]) ?_
    rw [Function.update_self, add_comm]
  refine ⟨hl.registry, hl.devices.of_eq ?_, hl.transfers.of_eq hsumT.symm, fun t => ?_⟩
  · calc _ = k.published + k.targeted + (∑ j ∈ Finset.range N, (b j).bound + held) := by abel
      _ = k.published + k.targeted +
          (∑ j ∈ Finset.range N, (Function.update b h b' j).bound + held') := by rw [hsum]
      _ = _ := by abel
  · have hat := congrFun hchange t
    have hle := hl.once t
    simp only [Pi.add_apply] at hat
    rcases honce t with hless | ⟨hone, hzero⟩
    · omega
    · omega

namespace World

/-! ### What the sections leave alone -/

/-- A check before an unlink counts nothing. -/
@[simp]
theorem books_usbHcdCheckUnlinkUrb (w : World) (u : UrbPtr) :
    (w.usbHcdCheckUnlinkUrb u).1.books = w.books := by
  rw [usbHcdCheckUnlinkUrb]
  split
  · rfl
  split <;> rfl

/-- The section of a submission counts nothing. -/
@[simp]
theorem books_submitLocked (w : World) (h : HcdId) (u : UrbPtr) (t : TransferPtr)
    (link : Except Errno Unit) : (w.submitLocked h u t link).1.books = w.books := by
  simp only [submitLocked]
  split
  · rfl
  split
  · rfl
  cases link <;> rfl

/-- The section of a cancellation counts nothing. -/
@[simp]
theorem books_cancelLocked (w : World) (h : HcdId) (u : UrbPtr) :
    (w.cancelLocked h u).1.books = w.books := by
  have hcheck := books_usbHcdCheckUnlinkUrb w u
  rw [cancelLocked]
  rcases hc : w.usbHcdCheckUnlinkUrb u with ⟨w', e | _⟩
  · rwa [hc] at hcheck
  · rw [hc] at hcheck
    dsimp only
    split <;> exact hcheck

/-- The section of a completion counts nothing. -/
@[simp]
theorem books_completeLocked (w : World) (h : HcdId) (owner : FilePtr) (transferId : BitVec 64) :
    (w.completeLocked h owner transferId).1.books = w.books := by
  simp only [completeLocked]
  split <;> rfl

/-- A pass of a release counts nothing under its lock. -/
@[simp]
theorem books_releaseDrainLocked (w : World) (h : HcdId) (owner : FilePtr) (device : DevicePtr) :
    (w.releaseDrainLocked h owner device).1.books = w.books := by
  rw [releaseDrainLocked]
  split <;> rfl

/-- A pass of a stop counts nothing under its lock. -/
@[simp]
theorem books_stopDrainLocked (w : World) (h : HcdId) :
    (w.stopDrainLocked h).1.books = w.books := by
  simp only [stopDrainLocked]
  split <;> rfl

namespace Accounts

variable {w w' : World} {h : HcdId} {d : DevicePtr} {t : TransferPtr} {f : FilePtr}

/-- References move between the lists of one backend and the caller. -/
theorem relisted (ha : w.Accounts N held heldT) (hh : h < N) (hbooks : w'.books = w.books)
    {b' : Backend} (hlists : w'.backends = Function.update w.backends h b')
    (hbound : b'.bound + held' = (w.backends h).bound + held)
    (hqueued : b'.queued + heldT' = (w.backends h).queued + heldT)
    (honce : ∀ t, b'.queued t ≤ (w.backends h).queued t ∨
      b'.queued t ≤ 1 ∧ (∑ h ∈ Finset.range N, (w.backends h).queued) t = 0) :
    w'.Accounts N held' heldT' := by
  rw [Accounts, hbooks, hlists]
  exact Ledger.move ha hh hbound hqueued honce

/-- A request leaves the lists, and its reference is held. -/
theorem take (ha : w.Accounts N held heldT) (hh : h < N) {b' : Backend} {r : Request}
    (hbooks : w'.books = w.books) (hlists : w'.backends = Function.update w.backends h b')
    (hbindings : b'.bindings = (w.backends h).bindings)
    (hperm : ((w.backends h).pending ++ (w.backends h).active).Perm
      (r :: (b'.pending ++ b'.active))) :
    w'.Accounts N held (heldT + Pi.single r.transfer 1) := by
  have hqueued : (w.backends h).queued = b'.queued + Pi.single r.transfer 1 := by
    rw [Backend.queued, Backend.queued, ← tally_cons]
    exact tally_perm (hperm.map Request.transfer)
  have hbound : b'.bound = (w.backends h).bound := by rw [Backend.bound, hbindings, Backend.bound]
  refine ha.relisted hh hbooks hlists (by rw [hbound]) ?_ fun t => .inl ?_
  · rw [hqueued]
    abel
  · rw [hqueued]
    exact Nat.le_add_right _ _

/-- A request that is taken off its list hands its reference to the caller. -/
theorem listDel (ha : w.Accounts N held heldT) (hh : h < N) {r : Request}
    (hr : r ∈ (w.backends h).pending ++ (w.backends h).active) (hbooks : w'.books = w.books)
    (hlists : w'.backends = Function.update w.backends h ((w.backends h).listDel r)) :
    w'.Accounts N held (heldT + Pi.single r.transfer 1) := by
  refine ha.take hh hbooks hlists ?_ (Backend.perm_listDel hr)
  rw [Backend.listDel]
  split <;> rfl

/-! ### Requests that are given back -/

/-- `virtusb_backend_giveback` drops the reference of its request. -/
theorem backendGiveback (r : Request) (ha : w.Accounts N held (heldT + Pi.single r.transfer 1))
    (status : ℤ) : (w.backendGiveback r status).Accounts N held heldT := by
  have hgiven : (w.usbHcdGivebackUrb r.urb status).Accounts N held
      (heldT + Pi.single r.transfer 1) := ha
  exact hgiven.transferPut

/-- `virtusb_transfer_cancel` touches no list. -/
theorem backends_transferCancel (w : World) (t : TransferPtr) (status : ℤ) :
    (w.transferCancel t status).1.backends = w.backends := by
  simp only [transferCancel]
  split <;> rfl

/-- `virtusb_transfer_cancel` keeps the accounts. -/
theorem transferCancel (ha : w.Accounts N held heldT) (t : TransferPtr) (status : ℤ) :
    (w.transferCancel t status).1.Accounts N held heldT :=
  ha.of_same (books_transferCancel w t status) (backends_transferCancel w t status)

/-- A pass of a drain drops the reference of the request it took out. -/
theorem drainTail {r : Request} (ha : w.Accounts N held (heldT + Pi.single r.transfer 1)) :
    (w.drainTail r).Accounts N held heldT :=
  backendGiveback r (ha.transferCancel r.transfer _) _

/-- **A drain** gives up what each of its passes takes. -/
theorem drain {take : World → World × Option Request}
    (hnone : ∀ v v', v.Accounts N held heldT → take v = (v', none) → v'.Accounts N held heldT)
    (hsome : ∀ v v' r, v.Accounts N held heldT → take v = (v', some r) →
      v'.Accounts N held (heldT + Pi.single r.transfer 1)) :
    ∀ (fuel : ℕ) (w : World), w.Accounts N held heldT →
      (World.drain take fuel w).Accounts N held heldT := by
  intro fuel
  induction fuel with
  | zero => exact fun w ha => ha
  | succ fuel ih =>
      intro w ha
      rw [World.drain]
      rcases hs : take w with ⟨v, _ | r⟩
      · exact hnone w v ha hs
      · exact ih _ (hsome w v r ha hs).drainTail

/-! ### The whole functions -/

/-- One backend queues no more than all of them. -/
theorem queued_le_sum (hh : h < N) (t : TransferPtr) :
    (w.backends h).queued t ≤ (∑ h ∈ Finset.range N, (w.backends h).queued) t := by
  have hsplit := Finset.add_sum_erase (Finset.range N) (fun h => (w.backends h).queued)
    (Finset.mem_range.2 hh)
  rw [← hsplit]
  exact Nat.le_add_right _ _

/-- A binding leaves the list, and its reference is held. -/
theorem unbind (ha : w.Accounts N held heldT) (hh : h < N) {binding : Binding}
    (hmem : binding ∈ (w.backends h).bindings) (hbooks : w'.books = w.books)
    (hlists : w'.backends = Function.update w.backends h
      { w.backends h with bindings := (w.backends h).bindings.erase binding }) :
    w'.Accounts N (held + Pi.single binding.device 1) heldT := by
  have hbound : (w.backends h).bound =
      Backend.bound { w.backends h with bindings := (w.backends h).bindings.erase binding } +
        Pi.single binding.device 1 := by
    rw [Backend.bound, Backend.bound, ← tally_cons]
    exact tally_perm ((List.perm_cons_erase hmem).map Binding.device)
  refine ha.relisted hh hbooks hlists ?_ rfl fun t => .inl (Nat.le_refl _)
  rw [hbound]
  abel

/-- What is prepared for a binding holds a reference to the device. -/
theorem registerPrepare (ha : w.Accounts N held heldT) (hd : 0 < (w.objects d).refcount) {env : Env}
    (hs : w.registerPrepare d env = (w', .ok ())) : w'.Accounts N (held + Pi.single d 1) heldT := by
  rw [World.registerPrepare] at hs
  split at hs
  · simp at hs
  · obtain rfl := congrArg Prod.fst hs
    exact ha.objectGet hd

/-- **A registration** hands its reference to the binding. -/
theorem backendRegister (ha : w.Accounts N held heldT) (hh : h < N)
    (hd : 0 < (w.objects d).refcount) (env : Env) :
    (w.backendRegister h f d env).1.Accounts N held heldT := by
  rw [World.backendRegister]
  rcases hp : w.registerPrepare d env with ⟨w₁, e | _⟩
  · rw [World.registerPrepare] at hp
    split at hp
    · obtain rfl := congrArg Prod.fst hp
      exact ha
    · simp at hp
  have ha₁ := ha.registerPrepare hd hp
  dsimp only
  rcases hr : w₁.registerLocked h f d with ⟨w₂, e | _⟩
  · rw [registerLocked_error hr]
    exact ha₁.objectPut
  · obtain ⟨-, -, rfl⟩ := registerLocked_ok hr
    refine ha₁.relisted hh rfl rfl ?_ rfl fun t => .inl (Nat.le_refl _)
    rw [Backend.bound, List.map_append, List.map_singleton, tally_append_singleton, Backend.bound]
    abel

/-- **A new transfer** is held by its creator, and in no list. -/
theorem transferCreate (ha : w.Accounts N held heldT) (hd : 0 < (w.objects d).refcount)
    {a : TransferArgs} {env : Env} (hs : w.transferCreate d a env = (w', some t)) :
    w'.Accounts N held (heldT + Pi.single t 1) ∧ t = w.nextTransfer ∧
      (∑ h ∈ Finset.range N, (w'.backends h).queued) t = 0 := by
  have hcreated := transferCreate_some hs
  have hfresh : (∑ h ∈ Finset.range N, (w.backends h).queued) t = 0 := by
    have hnew := (ha.transfers.unborn t (Nat.le_of_eq hcreated.ptr.symm)).1
    exact (Nat.add_eq_zero_iff.1 hnew).1
  refine ⟨?_, hcreated.ptr, by rw [hcreated.backends]; exact hfresh⟩
  have hbooks : w'.books =
      { (w.objectGet d).books with
        refcount := Function.update w.books.refcount w.nextTransfer 1
        device := Function.update w.books.device w.nextTransfer d
        nextTransfer := w.nextTransfer + 1 } := by
    have hbuffer := books_transferBuffer w a env.garbage
    have hnext : (w.transferBuffer a env.garbage).1.nextTransfer = w.nextTransfer :=
      (congrArg Books.nextTransfer hbuffer :)
    simp only [World.transferCreate] at hs
    split at hs
    · simp at hs
    split at hs
    · simp at hs
    split at hs
    · simp at hs
    obtain rfl := congrArg Prod.fst hs
    rw [books_newTransfer, books_copySetup, books_objectGet, hbuffer, hnext]
    rfl
  rw [Accounts, hbooks, hcreated.backends, hcreated.ptr]
  exact Ledger.newTransfer (ha.objectGet hd)

/-- What a reference is held to is counted. -/
theorem transfer_pos (ha : w.Accounts N held (heldT + Pi.single t 1)) :
    0 < (w.transfers t).refcount := by
  have hcount : w.books.refcount t = _ := congrFun ha.transfers.count t
  simp only [Pi.add_apply, Pi.single_eq_same] at hcount
  exact Nat.lt_of_lt_of_eq (Nat.succ_pos _) hcount.symm

/-- `virtusb_transfer_mark_queued` keeps the accounts. -/
theorem transferMarkQueued (ha : w.Accounts N held heldT) (t : TransferPtr) :
    (w.transferMarkQueued t).1.Accounts N held heldT := by
  refine ha.of_same (books_transferMarkQueued w t) ?_
  rw [World.transferMarkQueued]
  split <;> rfl

/-- The preparation of a submission takes the reference of the request. -/
theorem submitPrepare (ha : w.Accounts N held (heldT + Pi.single t 1)) {env : Env}
    {result : Except Errno Unit} (hs : w.submitPrepare t env = (w', result)) :
    w'.Accounts N held (heldT + Pi.single t 1 + match result with
      | .ok () => Pi.single t 1
      | .error _ => 0) := by
  rw [World.submitPrepare] at hs
  split at hs
  · obtain ⟨rfl, rfl⟩ := Prod.mk.inj hs
    exact ha
  split at hs
  · obtain ⟨rfl, rfl⟩ := Prod.mk.inj hs
    exact ha
  have hmarked := (ha.transferGet ha.transfer_pos).transferMarkQueued t
  rcases hm : (w.transferGet t).transferMarkQueued t with ⟨w₁, e | _⟩
  · rw [hm] at hs hmarked
    obtain ⟨rfl, rfl⟩ := Prod.mk.inj hs
    exact hmarked.transferPut
  · rw [hm] at hs hmarked
    obtain ⟨rfl, rfl⟩ := Prod.mk.inj hs
    exact hmarked

/-- A submission that fails drops the reference of its caller. -/
theorem submitFailed (ha : w.Accounts N held (heldT + Pi.single t 1)) (e : Errno) :
    (w.submitFailed t e).Accounts N held heldT :=
  (ha.transferCancel t e.status).transferPut

/-- **A submission** hands its reference to the request, or drops it. -/
theorem backendSubmit (ha : w.Accounts N held (heldT + Pi.single t 1)) (hh : h < N)
    (hfree : (∑ h ∈ Finset.range N, (w.backends h).queued) t = 0) (u : UrbPtr) (env : Env) :
    (w.backendSubmit h u t env).1.Accounts N held (heldT + Pi.single t 1) := by
  rw [World.backendSubmit]
  rcases hp : w.submitPrepare t env with ⟨w₁, e | _⟩
  · exact ha.submitPrepare hp
  have ha₁ := ha.submitPrepare hp
  have hfree₁ : (∑ h ∈ Finset.range N, (w₁.backends h).queued) t = 0 := by
    have hq := Quiet.submitPrepare (T := {t}) w rfl env
    rw [hp] at hq
    rw [hq.backends]
    exact hfree
  dsimp only at ha₁ ⊢
  rcases hl : w₁.submitLocked h u t env.link with ⟨w₂, e | _⟩
  · rw [submitLocked_error hl]
    exact ha₁.submitFailed e
  have hbooks := books_submitLocked w₁ h u t env.link
  rw [hl] at hbooks
  obtain ⟨-, -, hq⟩ := submitLocked_ok (T := ∅) hl
  set r : Request := { urb := u, transfer := t }
  have hqueued := (w₁.backends h).queued_append r
  refine ha₁.relisted hh hbooks hq.backends rfl ?_ fun s => ?_
  · rw [hqueued]
    abel
  · rw [hqueued]
    rcases eq_or_ne s t with rfl | hs
    · have hle := queued_le_sum (w := w₁) hh s
      refine .inr ⟨?_, hfree₁⟩
      rw [hfree₁] at hle
      simp [r, Nat.le_zero.1 hle]
    · exact .inl (by simp [r, hs])

/-- **A cancellation** gives up the reference of the request. -/
theorem backendCancel (ha : w.Accounts N held heldT) (hh : h < N) (u : UrbPtr) (status : ℤ) :
    (w.backendCancel h u status).1.Accounts N held heldT := by
  have hbooks := books_cancelLocked w h u
  rw [World.backendCancel]
  rcases hc : w.cancelLocked h u with ⟨w', e | r⟩
  · rw [hc] at hbooks
    exact ha.of_same hbooks (cancelLocked_error (T := ∅) hc).backends
  · rw [hc] at hbooks
    obtain ⟨hr, -, hq⟩ := cancelLocked_ok (T := ∅) hc
    have hlisted := ha.listDel hh hr hbooks hq.backends
    exact backendGiveback r (hlisted.transferCancel r.transfer status) status

/-- A list of requests changes only in its order and its owners. -/
theorem reorder (ha : w.Accounts N held heldT) (hh : h < N) {b' : Backend}
    (hbooks : w'.books = w.books) (hlists : w'.backends = Function.update w.backends h b')
    (hbindings : b'.bindings = (w.backends h).bindings)
    (hperm : ((b'.pending ++ b'.active).map Request.transfer).Perm
      (((w.backends h).pending ++ (w.backends h).active).map Request.transfer)) :
    w'.Accounts N held heldT := by
  have hqueued : b'.queued = (w.backends h).queued := tally_perm hperm
  refine ha.relisted hh hbooks hlists ?_ (by rw [hqueued]) fun t => .inl (by rw [hqueued])
  rw [Backend.bound, hbindings]
  rfl

/-- The transfer of a request is counted. -/
theorem queued_pos (ha : w.Accounts N held heldT) (hh : h < N) {r : Request}
    (hr : r ∈ (w.backends h).pending ++ (w.backends h).active) :
    0 < (w.transfers r.transfer).refcount := by
  have hcount : w.books.refcount r.transfer = _ := congrFun ha.transfers.count r.transfer
  have hone : 0 < (w.backends h).queued r.transfer :=
    List.count_pos_iff.2 (List.mem_map.2 ⟨r, hr, rfl⟩)
  have hle := queued_le_sum (w := w) hh r.transfer
  refine Nat.lt_of_lt_of_eq ?_ hcount.symm
  rw [Pi.add_apply]
  omega

/-- A fetch drops the reference it took under the lock. -/
theorem fetchTail (ha : w.Accounts N held (heldT + Pi.single t 1)) :
    (w.fetchTail t).1.Accounts N held heldT := by
  have hsetup : (w.copySetup (w.transfers t).setup).Accounts N held (heldT + Pi.single t 1) := by
    refine ha.of_same (books_copySetup w _) ?_
    rw [copySetup]
    split <;> rfl
  simp only [World.fetchTail]
  split
  · exact transferPut (w := (World.copy _ _ _ _).1) hsetup
  · exact hsetup.transferPut

/-- **A fetch** takes a reference and gives it up again. -/
theorem backendFetch (ha : w.Accounts N held heldT) (hh : h < N) (nonblock : Bool) :
    (w.backendFetch h f nonblock).1.Accounts N held heldT := by
  rw [World.backendFetch]
  rcases hs : w.fetchLocked h f with ⟨w', r | e | _⟩
  · obtain ⟨⟨binding, -, hf⟩, rfl⟩ := fetchLocked_taken_eq hs
    have hr := (findPendingDeviceLocked_some hf).1
    have hpos := ha.queued_pos hh (List.mem_append_left (w.backends h).active hr)
    set b' : Backend :=
      { w.backends h with
        pending := (w.backends h).pending.erase r
        active := (w.backends h).active ++ [{ r with owner := some f }] }
    have hmoved : (w.setBackend h b').Accounts N held heldT := by
      refine ha.reorder hh rfl rfl rfl ?_
      have hperm := ((List.perm_cons_erase hr).append_right (w.backends h).active).map
        Request.transfer
      refine List.Perm.trans ?_ hperm.symm
      simp only [b', List.map_append, List.map_cons, List.map_nil, List.cons_append]
      rw [← List.append_assoc]
      exact List.perm_append_singleton _ _
    exact (hmoved.transferGet hpos).fetchTail
  · rw [fetchLocked_failed hs]
    exact ha
  · rw [fetchLocked_empty hs]
    exact ha

/-- `virtusb_backend_fetch_rollback` moves a request and no reference. -/
theorem backendFetchRollback (ha : w.Accounts N held heldT) (hh : h < N) (transferId : BitVec 64) :
    (w.backendFetchRollback h f transferId).1.Accounts N held heldT := by
  rw [World.backendFetchRollback]
  split
  · exact ha
  rcases hs : w.rollbackLocked h f transferId with ⟨w', e | r⟩
  · rw [rollbackLocked_error hs]
    exact ha
  · obtain ⟨hr, -, -, rfl⟩ := rollbackLocked_ok hs
    refine ha.reorder hh rfl rfl rfl ?_
    have hperm := ((List.perm_cons_erase hr).append_left (w.backends h).pending).map
      Request.transfer
    refine List.Perm.trans ?_ hperm.symm
    simp only [List.map_append, List.map_cons, List.cons_append]
    exact List.perm_middle.symm

/-- A completion drops the reference of the request it took out. -/
theorem completeTail {r : Request} (ha : w.Accounts N held (heldT + Pi.single r.transfer 1))
    (completion : TransferCompleteRequest) :
    (w.completeTail r completion).1.Accounts N held heldT := by
  have hcopied : (w.completeCopy r completion.data completion.actualLength).Accounts N held
      (heldT + Pi.single r.transfer 1) := by
    refine ha.of_same (books_completeCopy w r _ _) ?_
    exact (Quiet.completeCopy (T := {r.transfer}) w rfl _ _).backends
  simp only [World.completeTail]
  split
  · exact backendGiveback r (ha.transferCancel r.transfer _) _
  set copied := w.completeCopy r completion.data completion.actualLength
  have hdone : (copied.transferComplete r.transfer completion.status
      completion.actualLength).1.Accounts N held (heldT + Pi.single r.transfer 1) := by
    refine hcopied.of_same (books_transferComplete copied _ _ _) ?_
    exact (Quiet.transferComplete (T := {r.transfer}) copied rfl _ _).backends
  rcases hs : copied.transferComplete r.transfer completion.status completion.actualLength with
    ⟨w₁, e | _⟩
  · rw [hs] at hdone
    exact backendGiveback r (hdone.transferCancel r.transfer _) _
  · rw [hs] at hdone
    exact backendGiveback (w := w₁.setUrb r.urb _) r hdone _

/-- **A completion** gives up the reference of the request. -/
theorem backendComplete (ha : w.Accounts N held heldT) (hh : h < N)
    (completion : TransferCompleteRequest) :
    (w.backendComplete h f completion).1.Accounts N held heldT := by
  have hbooks := books_completeLocked w h f completion.transferId
  rw [World.backendComplete]
  split
  · exact ha
  rcases hs : w.completeLocked h f completion.transferId with ⟨w', e | r⟩
  · rw [completeLocked_error hs]
    exact ha
  · rw [hs] at hbooks
    obtain ⟨hr, -, -, hq⟩ := completeLocked_ok (T := ∅) hs
    refine completeTail (ha.take hh hbooks hq.backends rfl ?_) completion
    exact ((List.perm_cons_erase hr).append_left _).trans List.perm_middle

/-- **A release** gives up the references of the requests it drains and of the binding. -/
theorem backendReleaseOwner (ha : w.Accounts N held heldT) (hh : h < N) (f : FilePtr) :
    (w.backendReleaseOwner h f).Accounts N held heldT := by
  rw [World.backendReleaseOwner]
  rcases hs : w.releaseUnbindLocked h f with ⟨w', _ | binding⟩
  · rw [releaseUnbindLocked_none hs]
    exact ha
  obtain ⟨hmem, -, rfl⟩ := releaseUnbindLocked_some hs
  dsimp only
  refine objectPut (drain (fun v v' hv hs => ?_) (fun v v' r hv hs => ?_) _ _
    (ha.unbind hh hmem rfl rfl))
  · rw [(releaseDrainLocked_none hs).1]
    exact hv
  · have hbooks := books_releaseDrainLocked v h f binding.device
    rw [hs] at hbooks
    obtain ⟨hpick, hq⟩ := releaseDrainLocked_some (T := ∅) hs
    exact hv.listDel hh (mem_of_releasePick hpick) hbooks hq.backends

/-- The second loop of a stop drops the reference of every binding, by induction on its passes. -/
theorem stopUnbind (hh : h < N) : ∀ (fuel : ℕ) (w : World), w.Accounts N held heldT →
    (World.stopUnbind h fuel w).Accounts N held heldT := by
  intro fuel
  induction fuel with
  | zero => exact fun w ha => ha
  | succ fuel ih =>
      intro w ha
      rw [World.stopUnbind]
      rcases hs : w.stopUnbindLocked h with ⟨v, _ | binding⟩
      · rw [(stopUnbindLocked_none hs).1]
        exact ha
      · obtain ⟨rest, hrest, rfl⟩ := stopUnbindLocked_some hs
        have hmem : binding ∈ (w.backends h).bindings := hrest ▸ List.mem_cons_self
        have herase : (w.backends h).bindings.erase binding = rest := by simp [hrest]
        have hunbound : (w.relist h { w.backends h with bindings := rest } w.linked).Accounts N
            (held + Pi.single binding.device 1) heldT :=
          ha.unbind hh hmem rfl (by rw [herase]; rfl)
        exact ih _ hunbound.objectPut

/-- **A stop** gives up the references of all requests and of all bindings. -/
theorem backendStop (ha : w.Accounts N held heldT) (hh : h < N) :
    (w.backendStop h).Accounts N held heldT := by
  have hflagged : (w.stopSetLocked h).Accounts N held heldT :=
    ha.reorder hh rfl rfl rfl (List.Perm.refl _)
  refine stopUnbind hh _ _ (drain (fun v v' hv hs => ?_) (fun v v' r hv hs => ?_) _ _ hflagged)
  · rw [(stopDrainLocked_none hs).1]
    exact hv
  · have hbooks := books_stopDrainLocked v h
    rw [hs] at hbooks
    obtain ⟨hr, hq⟩ := stopDrainLocked_some (T := ∅) hs
    exact hv.listDel hh hr hbooks hq.backends

end Accounts

end World

end VirtUsb
