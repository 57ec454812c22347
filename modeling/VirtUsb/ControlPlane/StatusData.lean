/-
# The status bitmap of a root hub

`virtusb_hcd_hub_status_data` merges five bitmaps of pending changes into one, and cuts it
into the bytes that one bit for the hub and one for each port need.  `GetHubStatus` and
`GetPortStatus` build a change word for each position from the same bitmaps.  The two agree
because no bitmap has a bit for a port that the hub does not have (`Topology.Bounded`).
-/

import VirtUsb.ControlPlane.Suspend
import VirtUsb.ControlPlane.Interference

namespace VirtUsb

open Transition

/-- The position of a change in the change word of a port. -/
def ChangeKind.position : ChangeKind → ℕ
  | .connected => 0
  | .enabled => 1
  | .suspended => 2
  | .overCurrent => 3
  | .reset => 4

/-- Bit `k` of a bitmap in bytes. -/
def bitOf (buf : List Byte) (k : ℕ) : Bool := (buf.getD (k / 8) 0).getLsbD (k % 8)

namespace Topology

variable {t t' : Topology} {h : HcdId} {n k : ℕ}

/-- The change word of the answer to `GetHubStatus`. -/
def hubChangeWord (t : Topology) (h : HcdId) : BitVec 16 :=
  getUnalignedLe16 ((t.hcdGetHubStatus h).buf.drop 2)

/-- The change word of the answer to `GetPortStatus`. -/
def portChangeWord (t : Topology) (h : HcdId) (n : ℕ) : BitVec 16 :=
  match t.hcdGetPortStatus h n with
  | .ok reply => getUnalignedLe16 (reply.buf.drop 2)
  | .error _ => 0

/-! ### Change words -/

/-- The hub reports over-current changes only. -/
theorem hubChangeWord_eq (t : Topology) (h : HcdId) :
    t.hubChangeWord h = flagIf (t.isPending h 0 .overCurrent) hubChangeOverCurrent :=
  getUnalignedLe16_le16 _ []

/-- The hub has nothing to report if that change is not pending. -/
theorem hubChangeWord_eq_zero_iff :
    t.hubChangeWord h = 0 ↔ t.isPending h 0 .overCurrent = false := by
  rw [hubChangeWord_eq]
  cases t.isPending h 0 .overCurrent <;> decide

/-- The change word in the answer to `GetPortStatus` is the one that is built. -/
theorem portChangeWord_eq (hv : t.hubPortIsValid h n = true) :
    t.portChangeWord h n = t.hcdBuildPortChange h n := by
  unfold portChangeWord hcdGetPortStatus
  rw [hv]
  exact getUnalignedLe16_le16 _ []

/-- A bit of the change word is the pending change of its kind. -/
theorem getLsbD_change (t : Topology) (h : HcdId) (n : ℕ) (kind : ChangeKind) :
    (t.hcdBuildPortChange h n).getLsbD kind.position = t.isPending h n kind := by
  simp only [hcdBuildPortChange, BitVec.getLsbD_or, getLsbD_flagIf]
  cases kind <;>
    simp [isPending, HubPortUsbChange.bits, ChangeKind.position, portStatCConnection,
      portStatCEnable, portStatCSuspend, portStatCOverCurrent, portStatCReset]

/-- The change word of a port is empty exactly if no change of it is pending. -/
theorem change_eq_zero_iff :
    t.hcdBuildPortChange h n = 0 ↔ ∀ kind, t.isPending h n kind = false := by
  constructor
  · intro hzero kind
    rw [← getLsbD_change, hzero]
    exact BitVec.getLsbD_zero
  · intro hall
    have hflag : ∀ kind flag, flagIf (Bitmap.test ((t.hubs h).usbChange.bits kind) n) flag = 0 := by
      intro kind flag
      have hoff : Bitmap.test ((t.hubs h).usbChange.bits kind) n = false := hall kind
      rw [hoff]
      rfl
    have hconnected := hflag .connected
    have henabled := hflag .enabled
    have hsuspended := hflag .suspended
    have hover := hflag .overCurrent
    have hreset := hflag .reset
    simp only [HubPortUsbChange.bits] at hconnected henabled hsuspended hover hreset
    simp [hcdBuildPortChange, hconnected, henabled, hsuspended, hover, hreset]

/-! ### The merged bitmap -/

/-- A bit of the merged bitmap: the over-current change of the hub, or any change of a port. -/
theorem getLsbD_mask (t : Topology) (h : HcdId) (k : ℕ) :
    (t.hcdPortChangeMask h).getLsbD k = true ↔
      if k = 0 then t.isPending h 0 .overCurrent = true
      else ∃ kind, t.isPending h k kind = true := by
  have hbits : ∀ kind, ((t.hubs h).usbChange.bits kind).getLsbD k = t.isPending h k kind :=
    fun kind => (Bitmap.test_eq_getLsbD _ k).symm
  have hconnected := hbits .connected
  have henabled := hbits .enabled
  have hsuspended := hbits .suspended
  have hover := hbits .overCurrent
  have hreset := hbits .reset
  simp only [HubPortUsbChange.bits] at hconnected henabled hsuspended hover hreset
  have hlt : ∀ kind, t.isPending h k kind = true → k < 32 := fun kind hp => by
    rw [isPending, Bitmap.test_eq_getLsbD] at hp
    exact BitVec.lt_of_getLsbD hp
  simp only [hcdPortChangeMask, BitVec.getLsbD_or, BitVec.getLsbD_and, BitVec.getLsbD_not,
    Bitmap.getLsbD_bit, hconnected, henabled, hsuspended, hover, hreset]
  split
  · rename_i hk
    subst hk
    simp
  · rename_i hk
    constructor
    · intro hor
      simp only [hk, decide_false, Bool.and_false, Bool.not_false, Bool.and_true, Bool.or_false,
        Bool.and_eq_true, Bool.or_eq_true, decide_eq_true_eq] at hor
      rcases hor with ⟨(((hp | hp) | hp) | hp) | hp, -⟩
      exacts [⟨_, hp⟩, ⟨_, hp⟩, ⟨_, hp⟩, ⟨_, hp⟩, ⟨_, hp⟩]
    · rintro ⟨kind, hp⟩
      have hk32 := hlt kind hp
      cases kind <;> simp [hp, hk, hk32]

/-- The mask is zero if no change is pending at the hub or a port. -/
theorem mask_eq_zero_iff : t.hcdPortChangeMask h = 0 ↔ t.hubChangeWord h = 0 ∧
    ∀ k, 0 < k → t.hcdBuildPortChange h k = 0 := by
  simp only [hubChangeWord_eq_zero_iff, change_eq_zero_iff]
  constructor
  · intro hzero
    have hoff : ∀ k, (t.hcdPortChangeMask h).getLsbD k ≠ true := fun k => by
      rw [hzero]
      simp
    refine ⟨?_, fun k hk kind => ?_⟩
    · have h₀ := hoff 0
      rw [ne_eq, getLsbD_mask, if_pos rfl] at h₀
      simpa using h₀
    · have hk' := hoff k
      rw [ne_eq, getLsbD_mask, if_neg (by omega)] at hk'
      push Not at hk'
      simpa using hk' kind
  · rintro ⟨hhub, hports⟩
    refine BitVec.eq_of_getLsbD_eq fun k _ => ?_
    by_contra hne
    have hset : (t.hcdPortChangeMask h).getLsbD k = true := by simpa using hne
    rw [getLsbD_mask] at hset
    split at hset
    · exact absurd (hhub.symm.trans hset) (by decide)
    · obtain ⟨kind, hp⟩ := hset
      exact absurd ((hports k (by omega) kind).symm.trans hp) (by decide)

/-- The bytes of a word hold its lowest bits. -/
theorem bitOf_bytes (changes : BitVec 32) (count k : ℕ) :
    bitOf ((List.range count).map fun i => (changes >>> (i * 8)).setWidth 8) k =
      (decide (k < 8 * count) && changes.getLsbD k) := by
  have hpos : k / 8 * 8 + k % 8 = k := by omega
  rw [bitOf, List.getD_eq_getElem?_getD, List.getElem?_map]
  by_cases hk : k < 8 * count
  · have hlt : k / 8 < count := by omega
    have hmod : k % 8 < 8 := by omega
    rw [List.getElem?_range hlt]
    simp [hk, hmod, hpos]
  · have hge : count ≤ k / 8 := by omega
    rw [List.getElem?_eq_none (by simpa using hge)]
    simp [hk]

/-! ### Changes of ports that exist -/

/-- A change is pending at ports of the hub only. -/
def Bounded (t : Topology) : Prop :=
  ∀ h n kind, t.isPending h n kind = true → t.hubPortIsValid h n = true

/-- A chain of changes makes changes pending at ports only. -/
theorem Locals.bounded (hl : Locals t t') (ht : t.Bounded) : t'.Bounded := by
  induction hl with
  | refl => exact ht
  | @tail u v _ hstep ih =>
      obtain ⟨h, n, hl, hnew⟩ := hstep
      intro h' m kind hp
      rw [valid_of_frame hl.hub]
      by_cases hm : h' = h ∧ m = n
      · obtain ⟨rfl, rfl⟩ := hm
        rcases hnew with hv | hnew
        · exact hv
        · exact ih h' m kind (hnew kind hp)
      · rw [hl.pending h' m kind hm] at hp
        exact ih h' m kind hp

/-- A change of a hub that leaves its port count and its pending changes. -/
theorem Bounded.setHub (ht : t.Bounded) {x : Hub} (hcount : x.portCount = (t.hubs h).portCount)
    (hchange : x.usbChange = (t.hubs h).usbChange) : (t.setHub h x).Bounded := by
  intro h' m kind hp
  have hcount' := congr_setHub (t := t) Hub.portCount hcount h'
  have hchange' := congr_setHub (t := t) Hub.usbChange hchange h'
  rw [isPending, hchange'] at hp
  rw [hubPortIsValid, hcount']
  exact ht h' m kind hp

end Topology

namespace World

/-- So does every operation. -/
theorem bounded_of_touches {w : World} {op : Operation} {t' : Topology} (ho : op.Touches w t')
    (hw : w.topo.Bounded) : t'.Bounded := by
  cases ho with
  | locals hl => exact hl.bounded hw
  | created hport => exact hw
  | mode h power => exact hw.setHub rfl rfl
  | overCurrentMode h mode => exact hw.setHub rfl rfl
  | overCurrent h overCurrent =>
      rw [Topology.hubSetOverCurrent]
      split
      · exact hw
      · exact hw.setHub rfl rfl
  | callback h installed => exact hw.setHub rfl rfl

/-- Nothing is pending in an initialised module. -/
theorem Initialised.bounded {w : World} (hw : w.Initialised) : w.topo.Bounded := by
  obtain ⟨hubs, hhubs, rfl⟩ := hw
  intro h n kind hp
  have hchange : (hubs h).usbChange = {} := (hub_of_initialised (hhubs h)).2.2.1
  have hoff : Bitmap.test ((hubs h).usbChange.bits kind) n = false := by
    rw [hchange]
    cases kind <;> exact Bitmap.test_zero n
  exact absurd (hoff.symm.trans hp) (by decide)

/-- **No change of a port that does not exist is ever pending.** -/
theorem bounded_of_reachable {w : World} (hw : operations.Reachable w) : w.topo.Bounded := by
  refine (Machine.Reachable.invariant (I := fun w => w.Sound ∧ w.topo.Bounded)
    (fun _ h => ⟨Initialised.sound h, Initialised.bounded h⟩) ?_ hw).2
  rintro v op v' ⟨hs, hb⟩ hstep
  obtain rfl : (v.operate op).1 = v' := Option.some.inj hstep
  exact ⟨hs.step op, bounded_of_touches (hs.touches op) hb⟩

end World

/-- The request that acknowledges a change of a port, or the change of the hub. -/
def acknowledgement (h : HcdId) : ℕ × ChangeKind → Operation
  | (0, _) => .hubControl h clearHubFeature cHubOverCurrent 0
  | (n + 1, kind) => .hubControl h clearPortFeature kind.feature (n + 1)

/-- Operations, one after the other. -/
def World.operateAll (w : World) (ops : List Operation) : World :=
  ops.foldl (fun w op => (w.operate op).1) w

namespace World

variable {w : World} {h : HcdId}

/-- An acknowledgement makes nothing pending, and what it acknowledges is pending no more. -/
theorem pending_acknowledgement (hw : w.topo.Bounded) (hs : w.topo.Wired) (x : ℕ × ChangeKind)
    {m : ℕ} {kind : ChangeKind}
    (hp : (w.operate (acknowledgement h x)).1.topo.isPending h m kind = true) :
    w.topo.isPending h m kind = true ∧ (m, kind) ≠ x := by
  obtain ⟨n, kind'⟩ := x
  rcases n with _ | n
  · have heq : (w.operate (acknowledgement h (0, kind'))).1.topo =
        w.topo.clearChange h 0 .overCurrent := by
      simp [acknowledgement, operate, withTopo, Topology.hcdHubControl, cHubOverCurrent,
        cHubLocalPower, Topology.clearChange, HubPortUsbChange.setBits, HubPortUsbChange.bits]
    rw [heq, Topology.isPending_clearChange] at hp
    have hold := (Bool.and_eq_true_iff.1 hp).1
    refine ⟨hold, fun hx => ?_⟩
    obtain ⟨rfl, -⟩ := Prod.mk.inj hx
    exact absurd (Topology.valid_iff.1 (hw h 0 kind hold)).1 (by decide)
  have hframe : ∀ t', (w.operate (acknowledgement h (n + 1, kind'))).1.topo = t' →
      t'.isPending h m kind = true := fun t' heq => heq ▸ hp
  by_cases hv : w.topo.hubPortIsValid h ((n + 1) % 256) = true
  · have hpend := hframe _ (congrArg Prod.fst (Topology.hcdHubControl_acknowledge hv kind'))
    rw [Topology.isPending_clearChange] at hpend
    obtain ⟨hold, hnot⟩ := Bool.and_eq_true_iff.1 hpend
    refine ⟨hold, fun hx => ?_⟩
    obtain ⟨rfl, rfl⟩ := Prod.mk.inj hx
    have hlt := hs.lt_of_valid (hw h (n + 1) kind hold)
    rw [Nat.mod_eq_of_lt (by omega)] at hnot
    simp at hnot
  · have hsame : (w.operate (acknowledgement h (n + 1, kind'))).1.topo = w.topo := by
      simp [acknowledgement, operate, withTopo, Topology.hcdHubControl,
        Topology.hcdClearPortFeature, Topology.hubReply, hv, clearHubFeature, clearPortFeature]
    have hold := hframe _ hsame
    refine ⟨hold, fun hx => hv ?_⟩
    obtain ⟨rfl, rfl⟩ := Prod.mk.inj hx
    have hvalid := hw h (n + 1) kind hold
    have hlt := hs.lt_of_valid hvalid
    rwa [Nat.mod_eq_of_lt (by omega)]

/-- **What is pending after acknowledgements** was pending before, and not acknowledged. -/
theorem pending_acknowledgements (hw : operations.Reachable w) (l : List (ℕ × ChangeKind)) {m : ℕ}
    {kind : ChangeKind}
    (hp : (w.operateAll (l.map (acknowledgement h))).topo.isPending h m kind = true) :
    w.topo.isPending h m kind = true ∧ (m, kind) ∉ l := by
  induction l generalizing w with
  | nil => exact ⟨hp, by simp⟩
  | cons x l ih =>
      obtain ⟨hstep, hnot⟩ := ih (w := (w.operate (acknowledgement h x)).1) (hw.step rfl) hp
      obtain ⟨hold, hne⟩ := pending_acknowledgement (bounded_of_reachable hw)
        (sound_of_reachable hw).topo.wired x hstep
      exact ⟨hold, by simp [hne, hnot]⟩

end World

namespace Topology

variable {t : Topology} {h : HcdId}

/-- The length that is returned is that of the bitmap, or 0 without a change. -/
theorem hcdHubStatusData_ret : (t.hcdHubStatusData h).ret =
    if t.hcdPortChangeMask h = 0 then 0 else t.hubBitmapBytes h := by
  simp only [hcdHubStatusData]
  split <;> rfl

/-- The buffer holds the mask, byte by byte, lowest bits first. -/
theorem hcdHubStatusData_buf (hne : t.hcdPortChangeMask h ≠ 0) (k : ℕ) :
    bitOf (t.hcdHubStatusData h).buf k =
      (decide (k < 8 * t.hubBitmapBytes h) && (t.hcdPortChangeMask h).getLsbD k) := by
  simp only [hcdHubStatusData]
  rw [if_neg hne]
  exact bitOf_bytes _ _ k

/-- The return value is the number of bytes written. -/
theorem hcdHubStatusData_length :
    (t.hcdHubStatusData h).buf.length = (t.hcdHubStatusData h).ret := by
  simp only [hcdHubStatusData]
  split <;> simp

/-- The bitmap has at least one byte, for the hub itself. -/
theorem hubBitmapBytes_pos : 0 < t.hubBitmapBytes h := by
  rw [hubBitmapBytes]
  omega

/-- The data is empty exactly if nothing is merged. -/
theorem hcdHubStatusData_eq_zero_iff :
    (t.hcdHubStatusData h).ret = 0 ↔ t.hcdPortChangeMask h = 0 := by
  have hpos := hubBitmapBytes_pos (t := t) (h := h)
  rw [hcdHubStatusData_ret]
  split
  · rename_i hzero
    exact ⟨fun _ => hzero, fun _ => rfl⟩
  · rename_i hne
    exact ⟨fun hret => absurd hret (by omega), fun hzero => absurd hzero hne⟩

/-- The merged bitmap has no bit beyond the last port. -/
theorem Bounded.lt_of_mask (ht : t.Bounded) {k : ℕ}
    (hk : (t.hcdPortChangeMask h).getLsbD k = true) : k ≤ (t.hubs h).portCount := by
  rw [getLsbD_mask] at hk
  split at hk
  · omega
  · obtain ⟨kind, hp⟩ := hk
    exact (valid_iff.1 (ht h k kind hp)).2

/-- A bit of the merged bitmap of a hub, in terms of the change words. -/
theorem mask_bit_iff (hv : n ≠ 0 → t.hubPortIsValid h n = true) :
    (t.hcdPortChangeMask h).getLsbD n = true ↔
      if n = 0 then t.hubChangeWord h ≠ 0 else t.portChangeWord h n ≠ 0 := by
  rw [getLsbD_mask]
  split
  · rw [ne_eq, hubChangeWord_eq_zero_iff, Bool.not_eq_false]
  · rename_i hn
    rw [portChangeWord_eq (hv hn), ne_eq, change_eq_zero_iff]
    push Not
    simp

/-- The data that is not empty is as long as the bitmap. -/
theorem hcdHubStatusData_ret_of_ne (hne : (t.hcdHubStatusData h).ret ≠ 0) :
    (t.hcdHubStatusData h).ret = t.hubBitmapBytes h :=
  hcdHubStatusData_ret.trans (if_neg fun hm => hne (hcdHubStatusData_eq_zero_iff.2 hm))

/-- The bitmap has a bit for every port, and one for the hub. -/
theorem lt_bitmap {k : ℕ} (hk : k ≤ (t.hubs h).portCount) : k < 8 * t.hubBitmapBytes h := by
  rw [hubBitmapBytes]
  omega

/-- The data that is not empty has the bits of the merged bitmap: no bit is cut off. -/
theorem Bounded.bitOf_statusData (ht : t.Bounded) (hne : (t.hcdHubStatusData h).ret ≠ 0) (k : ℕ) :
    bitOf (t.hcdHubStatusData h).buf k = true ↔ (t.hcdPortChangeMask h).getLsbD k = true := by
  have hmask : t.hcdPortChangeMask h ≠ 0 := fun hm => hne (hcdHubStatusData_eq_zero_iff.2 hm)
  rw [hcdHubStatusData_buf hmask, Bool.and_eq_true, decide_eq_true_iff]
  exact ⟨And.right, fun hk => ⟨lt_bitmap (ht.lt_of_mask hk), hk⟩⟩

/-- The data is empty exactly if every change word is zero. -/
theorem Bounded.statusData_eq_zero_iff (ht : t.Bounded) : (t.hcdHubStatusData h).ret = 0 ↔
    t.hubChangeWord h = 0 ∧ ∀ k, 1 ≤ k → k ≤ (t.hubs h).portCount → t.portChangeWord h k = 0 := by
  rw [hcdHubStatusData_eq_zero_iff, mask_eq_zero_iff]
  refine and_congr_right fun _ => ⟨fun hall k h₁ h₂ => ?_, fun hall k hk => ?_⟩
  · rw [portChangeWord_eq (valid_iff.2 ⟨h₁, h₂⟩)]
    exact hall k h₁
  · rw [change_eq_zero_iff]
    intro kind
    by_contra hne
    have hv := ht h k kind (Bool.eq_true_of_not_eq_false hne)
    have hword := hall k hk (valid_iff.1 hv).2
    rw [portChangeWord_eq hv, change_eq_zero_iff] at hword
    exact hne (hword kind)

/-- A change that is pending shows. -/
theorem Bounded.statusData_of_pending (ht : t.Bounded) {k : ℕ} {kind : ChangeKind}
    (hp : t.isPending h k kind = true) : (t.hcdHubStatusData h).ret ≠ 0 ∧
      k < 8 * (t.hcdHubStatusData h).ret ∧ bitOf (t.hcdHubStatusData h).buf k = true := by
  have hk := (valid_iff.1 (ht h k kind hp)).1
  have hset : (t.hcdPortChangeMask h).getLsbD k = true := by
    rw [getLsbD_mask, if_neg (Nat.ne_of_gt hk)]
    exact ⟨kind, hp⟩
  have hne : (t.hcdHubStatusData h).ret ≠ 0 := fun hret => by
    rw [hcdHubStatusData_eq_zero_iff.1 hret] at hset
    simp at hset
  refine ⟨hne, ?_, (ht.bitOf_statusData hne k).2 hset⟩
  rw [hcdHubStatusData_ret_of_ne hne]
  exact lt_bitmap (ht.lt_of_mask hset)

/-- Without a pending change the data is empty. -/
theorem statusData_of_none (hnone : ∀ k kind, t.isPending h k kind = false) :
    (t.hcdHubStatusData h).ret = 0 := by
  rw [hcdHubStatusData_eq_zero_iff]
  refine BitVec.eq_of_getLsbD_eq fun k _ => ?_
  by_contra hne
  have hset : (t.hcdPortChangeMask h).getLsbD k = true := by simpa using hne
  rw [getLsbD_mask] at hset
  split at hset
  · exact absurd hset (by rw [hnone]; decide)
  · obtain ⟨kind, hp⟩ := hset
    exact absurd hp (by rw [hnone]; decide)

end Topology

/-- **The status bitmap is exact.**  It is empty exactly if every change word is; otherwise
it has one bit for the hub and one for each port, and each is set exactly if the change word
is not zero.  Every pending change shows, and when all are acknowledged it is empty. -/
theorem status_bitmap_exact {w : World} (hw : operations.Reachable w) (h : HcdId) :
    let t := w.topo
    let n := (t.hubs h).portCount
    let data := t.hcdHubStatusData h
    (data.ret = 0 ↔ t.hubChangeWord h = 0 ∧ ∀ k, 1 ≤ k → k ≤ n → t.portChangeWord h k = 0) ∧
    (data.ret = 0 → data.buf = []) ∧
    (data.ret ≠ 0 → data.ret = (n + 1 + 7) / 8 ∧ data.buf.length = data.ret ∧
      (bitOf data.buf 0 = true ↔ t.hubChangeWord h ≠ 0) ∧
      (∀ k, 1 ≤ k → k ≤ n → (bitOf data.buf k = true ↔ t.portChangeWord h k ≠ 0)) ∧
      ∀ k, n < k → bitOf data.buf k = false) ∧
    (∀ k kind, t.isPending h k kind = true → data.ret ≠ 0 ∧ k < 8 * data.ret ∧
      bitOf data.buf k = true) ∧
    ∀ l : List (ℕ × ChangeKind), (∀ k kind, t.isPending h k kind = true → (k, kind) ∈ l) →
      ((w.operateAll (l.map (acknowledgement h))).topo.hcdHubStatusData h).ret = 0 := by
  intro t n data
  have hb : t.Bounded := World.bounded_of_reachable hw
  refine ⟨hb.statusData_eq_zero_iff, fun hret => ?_, fun hne =>
    ⟨Topology.hcdHubStatusData_ret_of_ne hne, Topology.hcdHubStatusData_length, ?_,
      fun k h₁ h₂ => ?_, fun k hk => ?_⟩,
    fun k kind hp => hb.statusData_of_pending hp, fun l hl => ?_⟩
  · have hdata : data = {} := if_pos (Topology.hcdHubStatusData_eq_zero_iff.1 hret)
    rw [hdata]
  · rw [hb.bitOf_statusData hne, Topology.mask_bit_iff fun h₀ => absurd rfl h₀, if_pos rfl]
  · have hv : t.hubPortIsValid h k = true := Topology.valid_iff.2 ⟨h₁, h₂⟩
    rw [hb.bitOf_statusData hne, Topology.mask_bit_iff fun _ => hv, if_neg (by omega)]
  · by_contra hset
    have hbit := (hb.bitOf_statusData hne k).1 (Bool.eq_true_of_not_eq_false hset)
    exact absurd (hb.lt_of_mask hbit) (Nat.not_le.2 hk)
  · refine Topology.statusData_of_none fun k kind => ?_
    rw [Bool.eq_false_iff]
    intro hp
    obtain ⟨hold, hnot⟩ := World.pending_acknowledgements hw l hp
    exact hnot (hl k kind hold)

/-- On a hub with seven ports, the attach to port 1 shows in the one byte of the bitmap. -/
theorem status_bitmap_exact_example : ∃ w, operations.Reachable w ∧
    w.topo.isPending 0 1 .connected = true ∧ (w.topo.hcdHubStatusData 0).ret = 1 ∧
      bitOf (w.topo.hcdHubStatusData 0).buf 1 = true := by
  obtain ⟨w, hw, hp⟩ := exists_reachable_of_exec (I := World.Initialised)
    (f := fun w op => some (World.operate w op).1) (s := World.oneHub)
    (l := [.create 7 {}, .connection 0 true, .setPortPower 0 1 true, .attach 0 0 1])
    (p := fun w => w.topo.isPending 0 1 .connected && decide ((w.topo.hcdHubStatusData 0).ret = 1))
    World.oneHub_initialised (by decide)
  obtain ⟨hpend, hret⟩ := Bool.and_eq_true_iff.1 hp
  have hexact := (status_bitmap_exact hw 0).2.2.2.1 1 .connected hpend
  exact ⟨w, hw, hpend, of_decide_eq_true hret, hexact.2.2⟩

end VirtUsb
