/-
# Stale ids

A transfer that left the queues never comes back to them, because only a new transfer is
submitted.  So its id is good for nothing from then on, in any run and at any controller
(`stale_ids_harmless`).
-/

import VirtUsb.Serving.Rollback

namespace VirtUsb

open World Transition

namespace World

variable {N : ℕ} {w w' : World} {h : HcdId} {f : FilePtr} {t : TransferPtr}

/-! ### The numbers of transfers -/

/-- While fewer than `2 ^ 64` transfers were made, the id of a transfer is its number. -/
theorem Serving.toNat_id (hw : w.Serving N) (hids : w.nextTransfer < 2 ^ 64) {t : TransferPtr}
    (ht : t < w.nextTransfer) : (w.transfers t).id.toNat = t + 1 := by
  rw [hw.ids t ht, BitVec.toNat_ofNat]
  exact Nat.mod_eq_of_lt (Nat.lt_of_le_of_lt ht hids)

/-- So no two transfers share an id. -/
theorem Serving.id_inj (hw : w.Serving N) (hids : w.nextTransfer < 2 ^ 64) {t t' : TransferPtr}
    (ht : t < w.nextTransfer) (ht' : t' < w.nextTransfer)
    (heq : (w.transfers t).id = (w.transfers t').id) : t = t' := by
  have htoNat := congrArg BitVec.toNat heq
  rw [hw.toNat_id hids ht, hw.toNat_id hids ht'] at htoNat
  exact Nat.succ.inj htoNat

/-- And no transfer has the id 0. -/
theorem Serving.id_ne_zero (hw : w.Serving N) (hids : w.nextTransfer < 2 ^ 64) {t : TransferPtr}
    (ht : t < w.nextTransfer) : (w.transfers t).id ≠ 0 := by
  intro hzero
  have htoNat := hw.toNat_id hids ht
  rw [hzero] at htoNat
  exact Nat.succ_ne_zero t htoNat.symm

/-! ### What left the queues -/

/-- The transfer is in no request. -/
def Unqueued (w : World) (N : ℕ) (t : TransferPtr) : Prop :=
  ∀ h < N, ∀ r ∈ w.requests h, r.transfer ≠ t

/-- **What left the queues does not come back.** -/
theorem Unqueued.run (ht : w.Unqueued N t) (hw : (calls N).Reachable w) (hborn : t < w.nextTransfer)
    {l : List (World × Call)} (hr : Run (calls N) w l w') : w'.Unqueued N t := by
  rintro h hh r hmem rfl
  obtain ⟨⟨r₀, hr₀, hkey⟩, -⟩ := (kept_of_run hw hr).2 h hh r hmem hborn
  exact ht h hh r₀ hr₀ (Prod.mk.inj hkey).1

/-- No active request has the id of a transfer that is in no request. -/
theorem Unqueued.findIdLocked (ht : w.Unqueued N t) (hw : w.Serving N) (hborn : t < w.nextTransfer)
    (hids : w.nextTransfer < 2 ^ 64) (hh : h < N) (f : FilePtr) :
    w.findIdLocked h f (w.transfers t).id = none := by
  rcases hf : w.findIdLocked h f (w.transfers t).id with _ | r
  · rfl
  · obtain ⟨hactive, -, hid⟩ := findIdLocked_some hf
    have hmem : r ∈ w.requests h := List.mem_append_right _ hactive
    exact absurd (hw.id_inj hids (hw.loaded h hh r hmem).1 hborn hid) (ht h hh r hmem)

end World

/-- **Stale ids are harmless.**  Once a transfer is in no queue, it is in no queue again, and in
every later state no file can complete it, roll it back or fetch it: a completion or a rollback
with its id finds nothing and changes nothing. -/
theorem stale_ids_harmless {N : ℕ} {w w' : World} (hw : (calls N).Reachable w) {t : TransferPtr}
    (hborn : t < w.nextTransfer) (hgone : w.Unqueued N t) {l : List (World × Call)}
    (hr : Run (calls N) w l w') (hids : w'.nextTransfer < 2 ^ 64) {h : HcdId} (hh : h < N)
    (f : FilePtr) :
    w'.Unqueued N t ∧
    (∀ completion, completion.transferId = (w.transfers t).id →
      w'.backendComplete h f completion = (w', .error .ENOENT)) ∧
    w'.backendFetchRollback h f (w.transfers t).id = (w', .error .ENOENT) ∧
    ∀ nonblock v message, w'.backendFetch h f nonblock = (v, .ok message) →
      message.transferId ≠ (w.transfers t).id := by
  have hw' := hw.run hr
  have hserving := serving_of_reachable hw'
  have hgone' := hgone.run hw hborn hr
  have hborn' : t < w'.nextTransfer := hborn.trans_le (kept_of_run hw hr).1
  have hid : (w'.transfers t).id = (w.transfers t).id :=
    (hserving.ids t hborn').trans ((serving_of_reachable hw).ids t hborn).symm
  have hne : (w.transfers t).id ≠ 0 := hid ▸ hserving.id_ne_zero hids hborn'
  have hnone : w'.findIdLocked h f (w.transfers t).id = none :=
    hid ▸ hgone'.findIdLocked hserving hborn' hids hh f
  refine ⟨hgone', fun completion hsame => ?_, ?_, fun nonblock v message hfetch hsame => ?_⟩
  · rw [backendComplete, hsame, if_neg hne, completeLocked, hnone]
  · rw [backendFetchRollback, if_neg hne, rollbackLocked, hnone]
  · obtain ⟨r, hmessage, hloan⟩ :=
      Loan.of_fetch ⟨steady_of_reachable hw', hserving⟩ hh hfetch
    have hmem : r ∈ w'.requests h := List.mem_append_left _ hloan.pending_mem
    have hfetched : (w'.transfers r.transfer).id = (w'.transfers t).id := by
      rw [hid, ← hsame, hmessage]
      rfl
    exact hgone' h hh r hmem
      (hserving.id_inj hids (hserving.loaded h hh r hmem).1 hborn' hfetched)

/-- The URB of the first transfer was dequeued, and the next one has its storage. -/
theorem stale_ids_harmless_example : ∃ w, (calls 1).Reachable w ∧
    (w.backends 0).pending = [⟨7, 1, none⟩] ∧
    w.backendComplete 0 5 ⟨1, 0, 0, fun _ => 0⟩ = (w, .error .ENOENT) := by
  obtain ⟨w, hw, hp⟩ := exists_reachable_of_exec (I := Initialised)
    (f := fun w c => if Call.Possible 1 w c then some (w.call c) else none) (s := oneHub)
    (l := Call.plugIn 5 ++ [.urbEnqueue 0 7 .bulkIn {}, .urbDequeue 0 7 0,
      .urbEnqueue 0 7 .bulkIn {}])
    (p := fun w => w.nextTransfer = 2 ∧ (w.transfers 0).id = 1 ∧
      (w.backends 0).pending = [⟨7, 1, none⟩] ∧ (w.backends 0).active = [])
    oneHub_initialised (by decide)
  obtain ⟨hnext, hid, hpending, hactive⟩ := of_decide_eq_true hp
  have hgone : w.Unqueued 1 0 := by
    intro h hh r hr
    obtain rfl : h = 0 := Nat.lt_one_iff.1 hh
    rw [requests, hpending, hactive, List.append_nil, List.mem_singleton] at hr
    rw [hr]
    decide
  obtain ⟨-, hcomplete, -⟩ := stale_ids_harmless hw (by rw [hnext]; decide) hgone .nil
    (by rw [hnext]; decide) Nat.one_pos 5
  exact ⟨w, hw, hpending, hcomplete ⟨1, 0, 0, fun _ => 0⟩ hid.symm⟩

end VirtUsb
