/-
# No thread uses what was freed

A thread holds references of its own between its sections (`Thread.transfers`,
`Thread.devices`), and a request and a binding hold one each while they are in a list.
The sections of `Lifetime.Transfers` keep the books whoever else holds references, so the
threads on a backend keep them in every interleaving (`Referenced`).  Hence what a thread or a
list names is never freed, nothing is freed twice, and what nobody names any more is freed
(`no_use_after_free`).

Who submits a URB or registers a backend must know that the device is there (`Call.Alive`).
The handler of `BACKEND_REGISTER` does, it has a reference of its own.
`virtusb_hcd_urb_enqueue` does not: it finds the device through its port, without lock or
reference, so a forced `DEVICE_DESTROY` can release the device before the transfer takes its
reference, and then the thread works on what was freed (`enqueue_uses_freed`).
-/

import VirtUsb.DataPlane.Invariant
import VirtUsb.Lib.Holders
import VirtUsb.Lifetime.Accounting

namespace VirtUsb

open Transition RefCount

namespace DataPlane

namespace Thread

/-- The transfers to which a thread holds a reference: `virtusb_hcd_urb_enqueue` one of its own,
and whoever has a request in hands that of the request. -/
def transfers : Thread → List TransferPtr
  | .submit _ t => [t, t]
  | .submitFailed _ t _ => [t, t]
  | .enqueuePut t _ => [t]
  | .fetchTail _ t => [t]
  | .completeTail request _ => [request.transfer]
  | .cancelTail request _ => [request.transfer]
  | .releaseTail _ request => [request.transfer]
  | .stopTail request => [request.transfer]
  | _ => []

/-- The devices to which a thread holds a reference: that of a binding which it took off the list,
or of one which it has not put there yet. -/
def devices : Thread → List DevicePtr
  | .releaseDrain binding => [binding.device]
  | .releaseTail binding _ => [binding.device]
  | .releasePut binding => [binding.device]
  | .stopPut binding => [binding.device]
  | .register _ device => [device]
  | .registerPut device _ => [device]
  | _ => []

end Thread

/-- The device that a call names has a reference when the call takes one of its own. -/
def Call.Alive (w : World) : Call → Prop
  | .submit _ device _ => 0 < (w.objects device).refcount
  | .register _ device => 0 < (w.objects device).refcount
  | _ => True

/-- A step that runs on takes its references from lists and bindings; only a call can start with
a device that is gone. -/
def Act.Alive (w : World) : Act → Prop
  | .call c _ => c.Alive w
  | .run _ _ => True

instance (w : World) (a : Act) : Decidable (a.Alive w) := by
  cases a with
  | call c env =>
      simp only [Act.Alive]
      cases c <;> simp only [Call.Alive] <;> infer_instance
  | run i env => exact .isTrue trivial

/-- The books balance, with what the threads hold, and what is offered is in no list yet. -/
structure Referenced (N : ℕ) (h : HcdId) (s : State) : Prop where
  accounts : s.world.Accounts N (pool Thread.devices s.threads) (pool Thread.transfers s.threads)
  fresh : ∀ j ∈ (queue h s).offered,
    (∑ k ∈ Finset.range N, (s.world.backends k).queued) j.key = 0

/-! ### The sections that move a request -/

section Sections

open World

variable {N : ℕ} {h : HcdId} {w w' : World} {held : DevicePtr → ℕ} {heldT : TransferPtr → ℕ}

/-- A fetch takes a reference of its own to what it moves. -/
theorem accounts_fetchLocked (ha : w.Accounts N held heldT) (hh : h < N) {f : FilePtr}
    {r : Request} (hs : w.fetchLocked h f = (w', .taken r)) :
    w'.Accounts N held (heldT + Pi.single r.transfer 1) := by
  obtain ⟨⟨binding, -, hf⟩, rfl⟩ := fetchLocked_taken_eq hs
  have hr := (findPendingDeviceLocked_some hf).1
  have hpos := ha.queued_pos hh (List.mem_append_left (w.backends h).active hr)
  set b' : Backend :=
    { w.backends h with
      pending := (w.backends h).pending.erase r
      active := (w.backends h).active ++ [{ r with owner := some f }] }
  have hmoved : (w.setBackend h b').Accounts N held heldT := by
    refine ha.reorder hh rfl rfl rfl ?_
    have hperm := ((List.perm_cons_erase hr).append_right (w.backends h).active).map
      Request.transfer
    refine List.Perm.trans ?_ hperm.symm
    simp only [b', List.map_append, List.map_cons, List.map_nil, List.cons_append]
    rw [← List.append_assoc]
    exact List.perm_append_singleton _ _
  exact hmoved.transferGet hpos

/-- A rollback moves a request, and its reference with it. -/
theorem accounts_rollbackLocked (ha : w.Accounts N held heldT) (hh : h < N) {f : FilePtr}
    {id : BitVec 64} {r : Request} (hs : w.rollbackLocked h f id = (w', .ok r)) :
    w'.Accounts N held heldT := by
  obtain ⟨hr, -, -, rfl⟩ := rollbackLocked_ok hs
  refine ha.reorder hh rfl rfl rfl ?_
  have hperm := ((List.perm_cons_erase hr).append_left (w.backends h).pending).map Request.transfer
  refine List.Perm.trans ?_ hperm.symm
  simp only [List.map_append, List.map_cons, List.cons_append]
  exact List.perm_middle.symm

/-- A submission hands one of its references to the request. -/
theorem accounts_submitLocked {u : UrbPtr} {t : TransferPtr}
    (ha : w.Accounts N held (heldT + Pi.single t 1)) (hh : h < N)
    (hfree : (∑ h ∈ Finset.range N, (w.backends h).queued) t = 0) {link : Except Errno Unit}
    (hs : w.submitLocked h u t link = (w', .ok ())) : w'.Accounts N held heldT := by
  have hbooks := books_submitLocked w h u t link
  rw [hs] at hbooks
  obtain ⟨-, -, hq⟩ := submitLocked_ok (T := ∅) hs
  set r : Request := { urb := u, transfer := t }
  have hqueued := (w.backends h).queued_append r
  refine ha.relisted hh hbooks hq.backends rfl ?_ fun k => ?_
  · rw [hqueued, add_assoc, add_comm (Pi.single _ _)]
  · rw [hqueued]
    rcases eq_or_ne k t with rfl | hne
    · have hle := Accounts.queued_le_sum (w := w) hh k
      refine .inr ⟨?_, hfree⟩
      rw [hfree] at hle
      simp [r, Nat.le_zero.1 hle]
    · exact .inl (by simp [r, hne])

/-- A registration hands the reference to its device to the binding. -/
theorem accounts_registerLocked {f : FilePtr} {d : DevicePtr}
    (ha : w.Accounts N (held + Pi.single d 1) heldT) (hh : h < N)
    (hs : w.registerLocked h f d = (w', .ok ())) : w'.Accounts N held heldT := by
  obtain ⟨-, -, rfl⟩ := registerLocked_ok hs
  refine ha.relisted hh rfl rfl ?_ rfl fun t => .inl (Nat.le_refl _)
  rw [Backend.bound, List.map_append, List.map_singleton, tally_append_singleton, Backend.bound,
    add_assoc, add_comm (Pi.single _ _)]

end Sections

/-! ### One turn of a thread -/

section Turn

open World

/-- The books balance, where a thread holds what it says, and others `held` and `heldT`. -/
def Holds (N : ℕ) (held : DevicePtr → ℕ) (heldT : TransferPtr → ℕ) (w : World) (thread : Thread) :
    Prop :=
  w.Accounts N (held + tally thread.devices) (heldT + tally thread.transfers)

variable {N : ℕ} {h : HcdId} {s s' : State} {w : World} {held : DevicePtr → ℕ}
  {heldT : TransferPtr → ℕ} {i : ℕ} {env : Env} {thread : Thread} {d : DevicePtr} {t : TransferPtr}

/-- A thread that holds nothing. -/
theorem holds_nothing (hd : thread.devices = []) (ht : thread.transfers = []) :
    Holds N held heldT w thread ↔ w.Accounts N held heldT := by
  simp only [Holds, hd, ht, tally_nil, add_zero]

/-- A thread that holds one reference to a transfer. -/
theorem holds_transfer (hd : thread.devices = []) (ht : thread.transfers = [t]) :
    Holds N held heldT w thread ↔ w.Accounts N held (heldT + Pi.single t 1) := by
  simp only [Holds, hd, ht, tally_nil, tally_singleton, add_zero]

/-- A thread that holds two references to a transfer, as the sender of a URB does. -/
theorem holds_twice (hd : thread.devices = []) (ht : thread.transfers = [t, t]) :
    Holds N held heldT w thread ↔
      w.Accounts N held (heldT + Pi.single t 1 + Pi.single t 1) := by
  simp only [Holds, hd, ht, tally_nil, tally_cons, zero_add, add_zero, add_assoc]

/-- A thread that holds a reference to a device. -/
theorem holds_device (hd : thread.devices = [d]) (ht : thread.transfers = []) :
    Holds N held heldT w thread ↔ w.Accounts N (held + Pi.single d 1) heldT := by
  simp only [Holds, hd, ht, tally_nil, tally_singleton, add_zero]

/-- A thread that holds a reference to a device and one to a transfer. -/
theorem holds_both (hd : thread.devices = [d]) (ht : thread.transfers = [t]) :
    Holds N held heldT w thread ↔
      w.Accounts N (held + Pi.single d 1) (heldT + Pi.single t 1) := by
  simp only [Holds, hd, ht, tally_singleton]

/-- A turn of thread `i` leads to `s'`: what it holds then is what the books say, and only the lists
of its own controller have changed. -/
def Turned (N : ℕ) (h : HcdId) (held : DevicePtr → ℕ) (heldT : TransferPtr → ℕ) (s : State) (i : ℕ)
    (s' : State) : Prop :=
  ∃ thread events w, s' = s.advance i w thread events ∧ Holds N held heldT w thread ∧
    ∃ b, w.backends = Function.update s.world.backends h b

/-- A turn, from what the thread holds after it. -/
theorem turned {events : List Event} {b : Backend}
    (hs : some (s.advance i w thread events) = some s')
    (hb : w.backends = Function.update s.world.backends h b) (ha : Holds N held heldT w thread) :
    Turned N h held heldT s i s' :=
  ⟨thread, events, w, (Option.some.inj hs).symm, ha, b, hb⟩

/-- A turn that leaves the lists alone. -/
theorem turned_quiet {T : Set TransferPtr} {given : List Giveback} {events : List Event}
    (hs : some (s.advance i w thread events) = some s') (hq : Quiet T given s.world w)
    (ha : Holds N held heldT w thread) : Turned N h held heldT s i s' :=
  turned (b := s.world.backends h) hs (by rw [hq.backends, Function.update_eq_self]) ha

/-- A turn that changes the thread only. -/
theorem turned_still {events : List Event}
    (hs : some (s.advance i s.world thread events) = some s')
    (ha : Holds N held heldT s.world thread) : Turned N h held heldT s i s' :=
  turned_quiet (T := ∅) hs (.refl _) ha

/-- `virtusb_backend_submit`. -/
theorem turned_submit (hh : h < N) {u : UrbPtr} (ha : Holds N held heldT s.world (.submit u t))
    (hfree : (∑ h ∈ Finset.range N, (s.world.backends h).queued) t = 0)
    (hs : s.resume h i env (.submit u t) = some s') : Turned N h held heldT s i s' := by
  rw [holds_twice rfl rfl] at ha
  rw [State.resume] at hs
  rcases hl : s.world.submitLocked h u t env.link with ⟨w, e | _⟩
  · rw [hl] at hs
    obtain rfl := submitLocked_error hl
    exact turned_still hs ((holds_twice rfl rfl).2 ha)
  · rw [hl] at hs
    obtain ⟨-, -, hq⟩ := submitLocked_ok (T := ∅) hl
    exact turned hs hq.backends
      ((holds_transfer rfl rfl).2 (accounts_submitLocked ha hh hfree hl))

/-- A submission that failed drops the reference of its request. -/
theorem turned_submitFailed {u : UrbPtr} {e : Errno}
    (ha : Holds N held heldT s.world (.submitFailed u t e))
    (hs : s.resume h i env (.submitFailed u t e) = some s') : Turned N h held heldT s i s' := by
  rw [holds_twice rfl rfl] at ha
  exact turned_quiet hs (.submitFailed _ (Set.mem_singleton t) e)
    ((holds_transfer rfl rfl).2 (ha.submitFailed e))

/-- `virtusb_backend_fetch`: what it moves, it holds until the message is filled in. -/
theorem turned_fetch (hh : h < N) {owner : FilePtr} {nonblock : Bool}
    (ha : Holds N held heldT s.world (.fetch owner nonblock))
    (hs : s.resume h i env (.fetch owner nonblock) = some s') : Turned N h held heldT s i s' := by
  rw [holds_nothing rfl rfl] at ha
  rw [State.resume] at hs
  rcases hl : s.world.fetchLocked h owner with ⟨w, r | e | _⟩
  · rw [hl] at hs
    obtain ⟨b, -, -, -, hq⟩ := fetchLocked_taken (T := ∅) hl
    exact turned hs hq.backends ((holds_transfer rfl rfl).2 (accounts_fetchLocked ha hh hl))
  · rw [hl] at hs
    obtain rfl := fetchLocked_failed hl
    exact turned_still hs ((holds_nothing rfl rfl).2 ha)
  · rw [hl] at hs
    obtain rfl := fetchLocked_empty hl
    cases nonblock with
    | true => exact turned_still hs ((holds_nothing rfl rfl).2 ha)
    | false => exact turned_still hs ((holds_nothing rfl rfl).2 ha)

/-- A fetch that waits holds nothing. -/
theorem turned_fetchWait {owner : FilePtr} (ha : Holds N held heldT s.world (.fetchWait owner))
    (hs : s.resume h i env (.fetchWait owner) = some s') : Turned N h held heldT s i s' := by
  rw [holds_nothing rfl rfl] at ha
  rw [State.resume] at hs
  split at hs
  · exact turned_still hs ((holds_nothing rfl rfl).2 ha)
  split at hs
  · exact turned_still hs ((holds_nothing rfl rfl).2 ha)
  · exact absurd hs (by simp)

/-- A fetch that copies its message holds nothing any more. -/
theorem turned_fetchCopyOut {owner : FilePtr} {message : TransferFetch}
    (ha : Holds N held heldT s.world (.fetchCopyOut owner message))
    (hs : s.resume h i env (.fetchCopyOut owner message) = some s') : Turned N h held heldT s i s' := by
  rw [holds_nothing rfl rfl] at ha
  rw [State.resume] at hs
  split at hs
  · exact turned_still hs ((holds_nothing rfl rfl).2 ha)
  split at hs
  · exact turned_still hs ((holds_nothing rfl rfl).2 ha)
  · exact turned_still hs ((holds_nothing rfl rfl).2 ha)

/-- `virtusb_backend_fetch_rollback`. -/
theorem turned_rollback (hh : h < N) {owner : FilePtr} {id : BitVec 64} {fetching : Bool}
    (ha : Holds N held heldT s.world (.rollback owner id fetching))
    (hs : s.resume h i env (.rollback owner id fetching) = some s') :
    Turned N h held heldT s i s' := by
  rw [holds_nothing rfl rfl] at ha
  rw [State.resume] at hs
  rcases hl : s.world.rollbackLocked h owner id with ⟨w, e | r⟩
  · rw [hl] at hs
    obtain rfl := rollbackLocked_error hl
    exact turned_still hs ((holds_nothing rfl rfl).2 ha)
  · rw [hl] at hs
    have ha' := accounts_rollbackLocked ha hh hl
    obtain ⟨-, -, -, rfl⟩ := rollbackLocked_ok hl
    exact turned hs rfl ((holds_nothing rfl rfl).2 ha')

/-- `virtusb_backend_complete`: the reference of the request is held from the list to the
giveback. -/
theorem turned_complete (hh : h < N) {owner : FilePtr} {completion : TransferCompleteRequest}
    (ha : Holds N held heldT s.world (.complete owner completion))
    (hs : s.resume h i env (.complete owner completion) = some s') :
    Turned N h held heldT s i s' := by
  rw [holds_nothing rfl rfl] at ha
  have hbooks := books_completeLocked s.world h owner completion.transferId
  rw [State.resume] at hs
  rcases hl : s.world.completeLocked h owner completion.transferId with ⟨w, e | r⟩
  · rw [hl] at hs
    obtain rfl := completeLocked_error hl
    exact turned_still hs ((holds_nothing rfl rfl).2 ha)
  · rw [hl] at hs hbooks
    obtain ⟨hr, -, -, hq⟩ := completeLocked_ok (T := ∅) hl
    refine turned hs hq.backends ((holds_transfer rfl rfl).2 (ha.take hh hbooks hq.backends rfl ?_))
    exact ((List.perm_cons_erase hr).append_left _).trans List.perm_middle

/-- `virtusb_backend_cancel`. -/
theorem turned_cancel (hh : h < N) {u : UrbPtr} {status : ℤ}
    (ha : Holds N held heldT s.world (.cancel u status))
    (hs : s.resume h i env (.cancel u status) = some s') : Turned N h held heldT s i s' := by
  rw [holds_nothing rfl rfl] at ha
  have hbooks := books_cancelLocked s.world h u
  rw [State.resume] at hs
  rcases hl : s.world.cancelLocked h u with ⟨w, e | r⟩
  · rw [hl] at hs hbooks
    have hq := cancelLocked_error (T := ∅) hl
    exact turned_quiet hs hq ((holds_nothing rfl rfl).2 (ha.of_same hbooks hq.backends))
  · rw [hl] at hs hbooks
    obtain ⟨hr, -, hq⟩ := cancelLocked_ok (T := ∅) hl
    exact turned hs hq.backends
      ((holds_transfer rfl rfl).2 (ha.listDel hh hr hbooks hq.backends))

/-- `virtusb_backend_release_owner`: the reference of the binding is held to the end. -/
theorem turned_release (hh : h < N) {owner : FilePtr}
    (ha : Holds N held heldT s.world (.release owner))
    (hs : s.resume h i env (.release owner) = some s') : Turned N h held heldT s i s' := by
  rw [holds_nothing rfl rfl] at ha
  rw [State.resume] at hs
  rcases hl : s.world.releaseUnbindLocked h owner with ⟨w, _ | binding⟩
  · rw [hl] at hs
    obtain rfl := releaseUnbindLocked_none hl
    exact turned_still hs ((holds_nothing rfl rfl).2 ha)
  · rw [hl] at hs
    obtain ⟨hmem, -, rfl⟩ := releaseUnbindLocked_some hl
    refine turned hs rfl ((holds_device rfl rfl).2 ?_)
    exact ha.unbind hh hmem (by rfl) (by rfl)

/-- A pass of a release hands the reference of the request to the thread. -/
theorem turned_releaseDrain (hh : h < N) {binding : Binding}
    (ha : Holds N held heldT s.world (.releaseDrain binding))
    (hs : s.resume h i env (.releaseDrain binding) = some s') : Turned N h held heldT s i s' := by
  rw [holds_device rfl rfl] at ha
  have hbooks := books_releaseDrainLocked s.world h binding.owner binding.device
  rw [State.resume] at hs
  rcases hl : s.world.releaseDrainLocked h binding.owner binding.device with ⟨w, _ | r⟩
  · rw [hl] at hs
    obtain ⟨rfl, -⟩ := releaseDrainLocked_none hl
    exact turned_still hs ((holds_device rfl rfl).2 ha)
  · rw [hl] at hs hbooks
    obtain ⟨hpick, hq⟩ := releaseDrainLocked_some (T := ∅) hl
    exact turned hs hq.backends ((holds_both rfl rfl).2
      (ha.listDel hh (mem_of_releasePick hpick) hbooks hq.backends))

/-- `virtusb_backend_stop`. -/
theorem turned_stopDrain (hh : h < N) (ha : Holds N held heldT s.world .stopDrain)
    (hs : s.resume h i env .stopDrain = some s') : Turned N h held heldT s i s' := by
  rw [holds_nothing rfl rfl] at ha
  have hbooks := books_stopDrainLocked s.world h
  rw [State.resume] at hs
  rcases hl : s.world.stopDrainLocked h with ⟨w, _ | r⟩
  · rw [hl] at hs
    obtain ⟨rfl, -⟩ := stopDrainLocked_none hl
    exact turned_still hs ((holds_nothing rfl rfl).2 ha)
  · rw [hl] at hs hbooks
    obtain ⟨hr, hq⟩ := stopDrainLocked_some (T := ∅) hl
    exact turned hs hq.backends
      ((holds_transfer rfl rfl).2 (ha.listDel hh hr hbooks hq.backends))

/-- A pass of the second loop of a stop hands the reference of the binding to the thread. -/
theorem turned_stopUnbind (hh : h < N) (ha : Holds N held heldT s.world .stopUnbind)
    (hs : s.resume h i env .stopUnbind = some s') : Turned N h held heldT s i s' := by
  rw [holds_nothing rfl rfl] at ha
  rw [State.resume] at hs
  rcases hl : s.world.stopUnbindLocked h with ⟨w, _ | binding⟩
  · rw [hl] at hs
    obtain ⟨rfl, -⟩ := stopUnbindLocked_none hl
    exact turned_still hs ((holds_nothing rfl rfl).2 ha)
  · rw [hl] at hs
    obtain ⟨rest, hrest, rfl⟩ := stopUnbindLocked_some hl
    have hmem : binding ∈ (s.world.backends h).bindings := hrest ▸ List.mem_cons_self
    have herase : (s.world.backends h).bindings.erase binding = rest := by simp [hrest]
    refine turned hs rfl ((holds_device rfl rfl).2 (ha.unbind hh hmem (by rfl) ?_))
    rw [herase]
    rfl

/-- `virtusb_backend_register`. -/
theorem turned_register (hh : h < N) {owner : FilePtr}
    (ha : Holds N held heldT s.world (.register owner d))
    (hs : s.resume h i env (.register owner d) = some s') : Turned N h held heldT s i s' := by
  rw [holds_device rfl rfl] at ha
  rw [State.resume] at hs
  rcases hl : s.world.registerLocked h owner d with ⟨w, e | _⟩
  · rw [hl] at hs
    obtain rfl := registerLocked_error hl
    exact turned_still hs ((holds_device rfl rfl).2 ha)
  · rw [hl] at hs
    have ha' := accounts_registerLocked ha hh hl
    obtain ⟨-, -, rfl⟩ := registerLocked_ok hl
    exact turned hs rfl ((holds_nothing rfl rfl).2 ha')

/-- **What a thread holds after its turn is what the books say it holds**, whatever the others
hold. -/
theorem turned_resume (hh : h < N) (ha : Holds N held heldT s.world thread)
    (hfresh : ∀ u t, thread = .submit u t →
      (∑ h ∈ Finset.range N, (s.world.backends h).queued) t = 0)
    (hs : s.resume h i env thread = some s') : Turned N h held heldT s i s' := by
  cases thread with
  | submit u t => exact turned_submit hh ha (hfresh u t rfl) hs
  | submitFailed u t e => exact turned_submitFailed ha hs
  | enqueuePut t ret =>
      rw [holds_transfer rfl rfl] at ha
      exact turned_quiet (T := ∅) hs (.transferPut _ t) ((holds_nothing rfl rfl).2 ha.transferPut)
  | fetch owner nonblock => exact turned_fetch hh ha hs
  | fetchWait owner => exact turned_fetchWait ha hs
  | fetchTail owner t =>
      rw [holds_transfer rfl rfl] at ha
      exact turned_quiet (T := ∅) hs (.fetchTail _ t)
        ((holds_nothing rfl rfl).2 (by exact ha.fetchTail))
  | fetchCopyOut owner message => exact turned_fetchCopyOut ha hs
  | rollback owner id fetching => exact turned_rollback hh ha hs
  | complete owner completion => exact turned_complete hh ha hs
  | completeTail r completion =>
      rw [holds_transfer rfl rfl] at ha
      obtain ⟨status, hq⟩ := Quiet.completeTail s.world (Set.mem_singleton r.transfer) completion
      exact turned_quiet hs hq ((holds_nothing rfl rfl).2 (ha.completeTail completion))
  | cancel u status => exact turned_cancel hh ha hs
  | cancelTail r status =>
      rw [holds_transfer rfl rfl] at ha
      have hgiven := Accounts.backendGiveback r (ha.transferCancel r.transfer status) status
      exact turned_quiet hs (.cancelTail _ (Set.mem_singleton r.transfer) status)
        ((holds_nothing rfl rfl).2 hgiven)
  | release owner => exact turned_release hh ha hs
  | releaseDrain binding => exact turned_releaseDrain hh ha hs
  | releaseTail binding r =>
      rw [holds_both rfl rfl] at ha
      exact turned_quiet hs (.drainTail _ (Set.mem_singleton r.transfer))
        ((holds_device rfl rfl).2 ha.drainTail)
  | releasePut binding =>
      rw [holds_device rfl rfl] at ha
      exact turned_quiet (T := ∅) hs (.objectPut _ binding.device)
        ((holds_nothing rfl rfl).2 ha.objectPut)
  | stop =>
      rw [holds_nothing rfl rfl] at ha
      have hflagged : (s.world.stopSetLocked h).Accounts N held heldT :=
        ha.reorder hh rfl rfl rfl (List.Perm.refl _)
      exact turned hs rfl ((holds_nothing rfl rfl).2 hflagged)
  | stopDrain => exact turned_stopDrain hh ha hs
  | stopTail r =>
      rw [holds_transfer rfl rfl] at ha
      exact turned_quiet hs (.drainTail _ (Set.mem_singleton r.transfer))
        ((holds_nothing rfl rfl).2 ha.drainTail)
  | stopUnbind => exact turned_stopUnbind hh ha hs
  | stopPut binding =>
      rw [holds_device rfl rfl] at ha
      exact turned_quiet (T := ∅) hs (.objectPut _ binding.device)
        ((holds_nothing rfl rfl).2 ha.objectPut)
  | register owner d => exact turned_register hh ha hs
  | registerPut d e =>
      rw [holds_device rfl rfl] at ha
      exact turned_quiet (T := ∅) hs (.objectPut _ d)
        ((holds_nothing rfl rfl).2 ha.objectPut)
  | done ret => exact absurd hs (by simp [State.resume])

end Turn

/-! ### One step -/

section Step

variable {N : ℕ} {h : HcdId} {s s' : State} {w : World} {held : DevicePtr → ℕ}
  {heldT : TransferPtr → ℕ} {i : ℕ} {env : Env} {thread : Thread}

/-- A submission starts with a transfer of its own, of which it holds two references if it comes to
the lists, and one otherwise. -/
theorem holds_start (ha : s.world.Accounts N held heldT) {c : Call} (hc : c.Alive s.world)
    (hs : s.start h env c = some s') :
    ∃ w thread, s' = s.spawn w thread ∧ Holds N held heldT w thread ∧
      w.backends = s.world.backends := by
  have plain : ∀ {thread : Thread}, some (s.spawn s.world thread) = some s' →
      thread.devices = [] → thread.transfers = [] → ∃ w thread, s' = s.spawn w thread ∧
        Holds N held heldT w thread ∧ w.backends = s.world.backends :=
    fun hs hd ht => ⟨_, _, (Option.some.inj hs).symm, (holds_nothing hd ht).2 ha, rfl⟩
  cases c with
  | submit u d args =>
      rw [State.start] at hs
      split at hs
      · exact absurd hs (by simp)
      rcases hcreate : s.world.transferCreate d args env with ⟨w, _ | t⟩
      · rw [hcreate] at hs
        obtain rfl := World.transferCreate_none hcreate
        exact plain hs rfl rfl
      rw [hcreate] at hs
      obtain ⟨hcreated, -, -⟩ := ha.transferCreate hc hcreate
      have hb := (World.transferCreate_some hcreate).backends
      have hq := Quiet.submitPrepare (T := {t}) w (Set.mem_singleton t) env
      dsimp only at hs
      rcases hp : w.submitPrepare t env with ⟨w', e | _⟩
      · rw [hp] at hs hq
        exact ⟨w', .enqueuePut t (.error e), (Option.some.inj hs).symm,
          (holds_transfer rfl rfl).2 (hcreated.submitPrepare hp), hq.backends.trans hb⟩
      · rw [hp] at hs hq
        exact ⟨w', .submit u t, (Option.some.inj hs).symm,
          (holds_twice rfl rfl).2 (hcreated.submitPrepare hp), hq.backends.trans hb⟩
  | register owner d =>
      rw [State.start] at hs
      rcases hp : s.world.registerPrepare d env with ⟨w, e | _⟩
      · rw [hp] at hs
        obtain rfl : w = s.world := by
          rw [World.registerPrepare] at hp
          split at hp
          · exact (congrArg Prod.fst hp).symm
          · exact absurd (congrArg Prod.snd hp) (by simp)
        exact plain hs rfl rfl
      · rw [hp] at hs
        refine ⟨w, .register owner d, (Option.some.inj hs).symm,
          (holds_device rfl rfl).2 (ha.registerPrepare hc hp), ?_⟩
        rw [World.registerPrepare] at hp
        split at hp
        · exact absurd (congrArg Prod.snd hp) (by simp)
        · obtain rfl := congrArg Prod.fst hp
          rfl
  | fetch owner nonblock => exact plain hs rfl rfl
  | rollback owner id => exact plain hs (by split <;> rfl) (by split <;> rfl)
  | complete owner completion => exact plain hs (by split <;> rfl) (by split <;> rfl)
  | cancel u status => exact plain hs rfl rfl
  | release owner => exact plain hs rfl rfl
  | stop => exact plain hs rfl rfl

/-- What a thread offers is not in the lists of its controller. -/
theorem queued_of_offered (hi : Inv h s) {j : Job} (hj : j ∈ (queue h s).offered) :
    (s.world.backends h).queued j.key = 0 := by
  refine List.count_eq_zero.2 fun hmem => ?_
  obtain ⟨r, hr, hk⟩ := List.mem_map.1 hmem
  exact key_ne_of_offered hi.sound hj (mem_listed.2 hr) hk.symm

/-- What is in no list is in none when the lists of one controller change without it. -/
theorem unqueued {b : HcdId → Backend} {x : Backend} {t : TransferPtr}
    (hold : (∑ k ∈ Finset.range N, (b k).queued) t = 0) (hx : x.queued t = 0) :
    (∑ k ∈ Finset.range N, (Function.update b h x k).queued) t = 0 := by
  rw [Finset.sum_apply, Finset.sum_eq_zero_iff] at hold ⊢
  intro k hk
  rcases eq_or_ne k h with rfl | hne
  · rw [Function.update_self, hx]
  · rw [Function.update_of_ne hne, hold k hk]

/-- Nothing that is not created yet is in a list. -/
theorem unqueued_nextTransfer (ha : s.world.Accounts N held heldT) :
    (∑ k ∈ Finset.range N, (s.world.backends k).queued) s.world.nextTransfer = 0 :=
  (Nat.add_eq_zero_iff.1 (ha.transfers.unborn s.world.nextTransfer (Nat.le_refl _)).1).1

/-- **The start of a call keeps the references accounted for.** -/
theorem Referenced.start (hr : Referenced N h s) (hi : Inv h s) {c : Call} (hc : c.Alive s.world)
    (hs : s.start h env c = some s') : Referenced N h s' := by
  have hoffered : ∀ j ∈ (queue h s').offered,
      j ∈ (queue h s).offered ∨ j.key = s.world.nextTransfer := by
    rcases start_simulates hi.sound hi.known hs with ⟨e, he⟩ | hst
    · exact fun j hj => .inl (he.offered j hj)
    · exact fun j hj => (hst.offered j hj).imp_right And.left
  obtain ⟨w, thread, rfl, ha, hb⟩ := holds_start hr.accounts hc hs
  refine ⟨?_, fun j hj => ?_⟩
  · rw [State.spawn, pool_concat, pool_concat]
    exact ha
  · rw [State.spawn, hb]
    rcases hoffered j hj with hj | hk
    · exact hr.fresh j hj
    · rw [hk]
      exact unqueued_nextTransfer hr.accounts

/-- **A step of a thread keeps the references accounted for.** -/
theorem Referenced.resume (hr : Referenced N h s) (hi : Inv h s) (hh : h < N)
    (ht : s.threads[i]? = some thread) (hs : s.resume h i env thread = some s') :
    Referenced N h s' := by
  obtain ⟨e, he⟩ := resume_simulates hi.sound ht hs
  have hi' := he.inv hi
  have hfresh : ∀ u t, thread = .submit u t →
      (∑ k ∈ Finset.range N, (s.world.backends k).queued) t = 0 := by
    rintro u t rfl
    exact hr.fresh (job s.world { urb := u, transfer := t })
      (List.mem_filterMap.2 ⟨_, List.mem_of_getElem? (getElem?_agents ht), rfl⟩)
  have hholds : Holds N (pool Thread.devices (s.threads.eraseIdx i))
      (pool Thread.transfers (s.threads.eraseIdx i)) s.world thread := by
    rw [Holds, ← pool_split ht, ← pool_split ht]
    exact hr.accounts
  obtain ⟨thread', events, w, rfl, ha, b, hb⟩ := turned_resume hh hholds hfresh hs
  refine ⟨?_, fun j hj => ?_⟩
  · rw [State.advance, pool_set ht, pool_set ht]
    exact ha
  · have hself : (w.backends h).queued j.key = 0 := queued_of_offered hi' hj
    rw [hb, Function.update_self] at hself
    rw [State.advance, hb]
    exact unqueued (hr.fresh j (he.offered j hj)) hself

/-- **Every step keeps the books**, with what the threads hold. -/
theorem Referenced.step (hr : Referenced N h s) (hi : Inv h s) (hh : h < N) {a : Act}
    (ha : a.Alive s.world) (hs : s.step h a = some s') : Referenced N h s' := by
  cases a with
  | call c env => exact hr.start hi ha hs
  | run i env =>
      obtain ⟨thread, ht, hs⟩ := Option.bind_eq_some_iff.1 hs
      exact hr.resume hi hh ht hs

end Step

/-! ### Runs -/

namespace State

variable (N : ℕ) (s : State)

/-- A request in a list, or a thread, refers to the transfer. -/
def TransferInUse (t : TransferPtr) : Prop :=
  (∃ k < N, ∃ r ∈ s.world.requests k, r.transfer = t) ∨ ∃ thread ∈ s.threads, t ∈ thread.transfers

/-- The object table, a binding, a transfer in use or a thread refers to the device. -/
def DeviceInUse (d : DevicePtr) : Prop :=
  s.world.Listed d ∨ (∃ k < N, ∃ binding ∈ (s.world.backends k).bindings, binding.device = d) ∨
    (∃ t, s.TransferInUse N t ∧ s.world.device t = d) ∨ ∃ thread ∈ s.threads, d ∈ thread.devices

end State

section Owed

variable {N : ℕ} {h : HcdId} {s : State}

/-- What a list over the controllers refers to. -/
theorem sum_tally_eq_zero {α : Type} {l : HcdId → List α} {f : α → ℕ} {k : ℕ} :
    (∑ j ∈ Finset.range N, tally ((l j).map f)) k = 0 ↔ ¬ ∃ j < N, ∃ a ∈ l j, f a = k := by
  rw [Finset.sum_apply, Finset.sum_eq_zero_iff]
  simp [tally, List.count_eq_zero]

/-- A transfer to which a thread holds a reference is in use. -/
theorem transferInUse_of_held {t : TransferPtr} (ht : pool Thread.transfers s.threads t ≠ 0) :
    s.TransferInUse N t := by
  refine .inr (by_contra fun hnone => ht (pool_eq_zero.2 fun thread hthread hmem => ?_))
  exact hnone ⟨thread, hthread, hmem⟩

/-- Nothing is owed to a transfer if nothing refers to it. -/
theorem Referenced.owed_transfer (t : TransferPtr) :
    (∑ k ∈ Finset.range N, (s.world.backends k).queued + pool Thread.transfers s.threads) t = 0 ↔
      ¬ s.TransferInUse N t := by
  have hqueued : (∑ k ∈ Finset.range N, (s.world.backends k).queued) t = 0 ↔
      ¬ ∃ k < N, ∃ r ∈ s.world.requests k, r.transfer = t := sum_tally_eq_zero
  rw [Pi.add_apply, Nat.add_eq_zero_iff, hqueued, pool_eq_zero, State.TransferInUse, not_or]
  simp only [not_exists, not_and]

/-- A transfer is counted if something refers to it. -/
theorem Referenced.refcount_pos (hr : Referenced N h s) (t : TransferPtr) :
    0 < (s.world.transfers t).refcount ↔ s.TransferInUse N t := by
  have hcount : (s.world.transfers t).refcount = _ := congrFun hr.accounts.transfers.count t
  rw [hcount, Nat.pos_iff_ne_zero, Ne, Referenced.owed_transfer, not_not]

/-- The transfers that hold a device are those in use. -/
theorem Referenced.targeted_eq_zero (hr : Referenced N h s) (d : DevicePtr) :
    s.world.books.targeted d = 0 ↔ ¬ ∃ t, s.TransferInUse N t ∧ s.world.device t = d := by
  rw [Books.targeted, Finset.sum_apply, Finset.sum_eq_zero_iff]
  constructor
  · rintro hzero ⟨t, ht, rfl⟩
    have hpos : 0 < s.world.books.refcount t := (hr.refcount_pos t).2 ht
    have hlt : t < s.world.nextTransfer :=
      hr.accounts.transfers.lt_next (congrFun hr.accounts.transfers.count t ▸ hpos)
    have hshare := hzero t (Finset.mem_range.2 hlt)
    rw [Books.share_of_pos _ hpos] at hshare
    have hself : (Pi.single (s.world.device t) 1 : DevicePtr → ℕ) (s.world.device t) = 1 :=
      Pi.single_eq_same _ _
    exact absurd (hself.symm.trans hshare) Nat.one_ne_zero
  · intro hnone t _
    rcases Nat.eq_zero_or_pos (s.world.books.refcount t) with hzero | hpos
    · rw [hzero, Books.share_zero]
      rfl
    · have hne : d ≠ s.world.books.device t := fun hd =>
        hnone ⟨t, (hr.refcount_pos t).1 hpos, hd.symm⟩
      rw [Books.share_of_pos _ hpos, Pi.single_eq_of_ne hne]

/-- Nothing is owed to a device if nothing refers to it. -/
theorem Referenced.owed_device (hr : Referenced N h s) (d : DevicePtr) :
    (s.world.books.published + ∑ k ∈ Finset.range N, (s.world.backends k).bound +
      s.world.books.targeted + pool Thread.devices s.threads) d = 0 ↔ ¬ s.DeviceInUse N d := by
  have hlisted : s.world.books.published d = 0 ↔ ¬ s.world.Listed d := by
    have hreg : s.world.Listed d ↔ (s.world.objects d).registered = true :=
      ⟨fun ⟨id, hid⟩ => (hr.accounts.registry.entry id d hid).1,
        fun hd => ⟨_, (hr.accounts.registry.object d hd).1⟩⟩
    rw [hreg, Books.published]
    exact ite_eq_right_iff.trans (by simp [World.books])
  have hbound : (∑ k ∈ Finset.range N, (s.world.backends k).bound) d = 0 ↔
      ¬ ∃ k < N, ∃ binding ∈ (s.world.backends k).bindings, binding.device = d :=
    sum_tally_eq_zero
  rw [Pi.add_apply, Pi.add_apply, Pi.add_apply, Nat.add_eq_zero_iff, Nat.add_eq_zero_iff,
    Nat.add_eq_zero_iff, hlisted, hbound, hr.targeted_eq_zero, pool_eq_zero, State.DeviceInUse,
    not_or, not_or, not_or, and_assoc, and_assoc]
  simp only [not_exists, not_and]

end Owed

/-- **No thread uses what was freed.**  In every interleaving on a backend in which each submission
and each registration starts with a device that has a reference, a transfer or a device is freed
once, and exactly when no list, no binding and no thread refers to it any more. -/
theorem no_use_after_free {N : ℕ} {h : HcdId} {s₀ s : State} {l : List (State × Act)} (hh : h < N)
    (hw : (calls N).Reachable s₀.world) (hs₀ : s₀.Initial h) (hr : Run (machine h) s₀ l s)
    (hl : ∀ x ∈ l, x.2.Alive x.1.world) :
    (∀ t, (0 < (s.world.transfers t).refcount ↔ s.TransferInUse N t) ∧
      (t ∈ s.world.freedTransfers ↔ t < s.world.nextTransfer ∧ ¬ s.TransferInUse N t)) ∧
    (∀ d, (0 < (s.world.objects d).refcount ↔ s.DeviceInUse N d) ∧
      (d ∈ s.world.released.map Release.device ↔
        d < s.world.nextDevice ∧ ¬ s.DeviceInUse N d)) ∧
    s.world.freedTransfers.Nodup ∧ (s.world.released.map Release.device).Nodup := by
  have hstart : Referenced N h s₀ := by
    refine ⟨?_, fun j hj => ?_⟩
    · rw [hs₀.threads]
      exact (World.steady_of_reachable hw).accounts
    · simp [WorkQueue.State.offered, queue, hs₀.threads] at hj
  obtain ⟨-, hs⟩ := hr.invariant_where (I := fun s => Inv h s ∧ Referenced N h s)
    (C := fun s a => a.Alive s.world)
    (fun s a s' hI ha hst => ⟨(step_inv hI.1 hst).2, hI.2.step hI.1 hh ha hst⟩)
    ⟨hs₀.inv, hstart⟩ hl
  have ha := hs.accounts
  refine ⟨fun t => ⟨hs.refcount_pos t, ?_⟩, fun d => ⟨?_, ?_⟩, ha.transfers.nodup_freed,
    ha.devices.nodup_freed⟩
  · exact ha.transfers.mem_freed.trans (and_congr_right' (Referenced.owed_transfer t))
  · have hcount : (s.world.objects d).refcount = _ := congrFun ha.devices.count d
    rw [hcount, Nat.pos_iff_ne_zero, Ne, hs.owed_device, not_not]
  · exact ha.devices.mem_freed.trans (and_congr_right' (hs.owed_device d))

/-- **The device must be there**: a URB is submitted for a device that `DEVICE_DESTROY` released
after `virtusb_hcd_urb_enqueue` had found it, and the thread holds a transfer to what was freed. -/
theorem enqueue_uses_freed : ∃ s₀ l s, (calls 1).Reachable s₀.world ∧ State.Initial 0 s₀ ∧
    Run (machine 0) s₀ l s ∧ 0 ∈ s.world.released.map Release.device ∧ s.DeviceInUse 1 0 := by
  set create : VirtUsb.Call := .ioctl 0 true 1 false ioctlDeviceCreate (.ofWords [7]) {}
  set destroy : VirtUsb.Call := .ioctl 0 true 1 false ioctlDeviceDestroy (.ofWords [1, 1]) {}
  have hw : (calls 1).Reachable ((World.oneHub.call create).call destroy) := by
    have hcreated : (calls 1).Reachable (World.oneHub.call create) :=
      (Machine.Reachable.init World.oneHub_initialised).step (a := create) (if_pos (by decide))
    exact hcreated.step (a := destroy) (if_pos (by decide))
  have hs₀ : State.Initial 0 ⟨(World.oneHub.call create).call destroy, [], []⟩ :=
    ⟨by rfl, fun _ => by rfl, by rfl, by rfl, by rfl, by rfl⟩
  obtain ⟨s, l, hr, -, hp⟩ := exists_run_of_exec (I := State.Initial 0)
    (s := ⟨(World.oneHub.call create).call destroy, [], []⟩) (f := State.step 0)
    (C := fun _ _ => True) (l := [.call (.submit 7 0 ⟨.bulk, .in, 1, none, none, 8⟩) {}])
    (p := fun s => s.world.released.map Release.device = [0] ∧ s.world.device 0 = 0 ∧
      pool Thread.transfers s.threads 0 ≠ 0) (by decide)
  obtain ⟨hreleased, hdevice, hheld⟩ := of_decide_eq_true hp
  exact ⟨_, l, s, hw, hs₀, hr, by rw [hreleased]; decide,
    .inr (.inr (.inl ⟨0, transferInUse_of_held hheld, hdevice⟩))⟩

/-- A URB is given back while a fetch still holds its transfer, which is not freed yet. -/
theorem no_use_after_free_example : ∃ s₀ l s, State.Initial 0 s₀ ∧ Run (machine 0) s₀ l s ∧
    s.world.givebacks = [⟨7, -2⟩] ∧ s.queued 0 = [] ∧ 0 ∉ s.world.freedTransfers := by
  set create : VirtUsb.Call := .ioctl 0 true 1 false ioctlDeviceCreate (.ofWords [7]) {}
  have hw : (calls 1).Reachable (World.oneHub.call create) := by
    refine (Machine.Reachable.init World.oneHub_initialised).step (a := create) ?_
    exact if_pos (by decide)
  have hs₀ : State.Initial 0 ⟨World.oneHub.call create, [], []⟩ :=
    ⟨by rfl, fun _ => by rfl, by rfl, by rfl, by rfl, by rfl⟩
  obtain ⟨s, l, hr, hl, hp⟩ := exists_run_of_exec (I := State.Initial 0)
    (s := ⟨World.oneHub.call create, [], []⟩) (f := State.step 0) (C := fun s a => a.Alive s.world)
    (l := [.call (.register 1 0) {}, .run 0 {},
      .call (.submit 7 0 ⟨.bulk, .in, 1, none, none, 8⟩) {}, .run 1 {}, .run 1 {},
      .call (.fetch 1 true) {}, .run 2 {}, .call (.cancel 7 (-2)) {}, .run 3 {}, .run 3 {}])
    (p := fun s => s.world.givebacks = [⟨7, -2⟩] ∧ s.queued 0 = [] ∧
      pool Thread.transfers s.threads 0 ≠ 0) (by decide)
  obtain ⟨hgiven, hqueued, hheld⟩ := of_decide_eq_true hp
  obtain ⟨htransfers, -⟩ := no_use_after_free Nat.one_pos hw hs₀ hr hl
  exact ⟨_, l, s, hs₀, hr, hgiven, hqueued,
    fun hfreed => ((htransfers 0).2.1 hfreed).2 (transferInUse_of_held hheld)⟩

end DataPlane

end VirtUsb
