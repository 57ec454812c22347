/-
# What holds of the queues between two calls

Bindings share neither file nor device, and every request has the binding it needs
(`Backend.Bound`).  No two requests share a transfer or a URB, and the transfer of a
request has the length of its URB and a buffer of that length (`World.Serving`).
-/

import VirtUsb.Serving.Enqueue
import VirtUsb.Lifetime.Accounting

namespace VirtUsb

/-- What names a request, whoever fetched it. -/
def Request.key (r : Request) : TransferPtr × UrbPtr := (r.transfer, r.urb)

/-- Every request has the binding it needs, and no two bindings clash. -/
structure Backend.Bound (b : Backend) (device : TransferPtr → DevicePtr) : Prop where
  owners : (b.bindings.map Binding.owner).Nodup
  devices : (b.bindings.map Binding.device).Nodup
  pending : ∀ r ∈ b.pending,
    r.owner = none ∧ ∃ g ∈ b.bindings, g.device = device r.transfer
  active : ∀ r ∈ b.active,
    ∃ g ∈ b.bindings, r.owner = some g.owner ∧ g.device = device r.transfer
  closed : b.stopping = true → b.bindings = []

/-- The transfer of a request that is queued for a URB. -/
structure World.Loaded (w : World) (r : Request) : Prop where
  state : (w.transfers r.transfer).state = .queued
  limit : (w.transfers r.transfer).requestedLength ≤ transferDataMax
  length : (w.transfers r.transfer).requestedLength = w.lengths r.urb
  buffer : (w.transfers r.transfer).buffer.map Buffer.size =
    if (w.transfers r.transfer).requestedLength = 0 then none
    else some (w.transfers r.transfer).requestedLength

/-- What holds of the queues of the first `N` host controllers. -/
structure World.Serving (N : ℕ) (w : World) : Prop where
  bound : ∀ h < N, (w.backends h).Bound w.device
  nodup : ∀ h < N, ((w.requests h).map Request.transfer).Nodup
  distinct : ∀ h < N, ∀ h' < N, ∀ r ∈ w.requests h, ∀ r' ∈ w.requests h',
    r.transfer = r'.transfer ∨ r.urb = r'.urb → h = h' ∧ r.key = r'.key
  loaded : ∀ h < N, ∀ r ∈ w.requests h, r.transfer < w.nextTransfer ∧ w.Loaded r
  nextId : w.transferNextId = BitVec.ofNat 64 w.nextTransfer
  ids : ∀ t < w.nextTransfer, (w.transfers t).id = BitVec.ofNat 64 (t + 1)

variable {N : ℕ} {h : HcdId} {w w' : World} {T : Set TransferPtr} {given : List Giveback}
  {b : Backend}

/-! ### The requests after a function -/

/-- **Requests are kept or taken out**, and the transfers that are changed are those of
the requests taken out. -/
theorem Served.perm (hs : Served w h T given b) :
    ∃ gone : List (TransferPtr × UrbPtr), (∀ t, t ∈ T ↔ t ∈ gone.map Prod.fst) ∧
      ((w.requests h).map Request.key).Perm
        (gone ++ (b.pending ++ b.active).map Request.key) := by
  have hfetched : ∀ {r : Request} {f : FilePtr}, r ∈ (w.backends h).pending →
      ((w.requests h).map Request.key).Perm (((w.backends h).pending.erase r ++
        ((w.backends h).active ++ [{ r with owner := some f }])).map Request.key) := by
    intro r f hr
    have hkey : Request.key { r with owner := some f } = Request.key r := rfl
    rw [← List.append_assoc, List.map_append, List.map_singleton, hkey]
    refine (((List.perm_cons_erase hr).append_right (w.backends h).active).map Request.key).trans ?_
    exact (List.perm_append_singleton _ _).symm
  have htaken : ∀ {r : Request} {b' : Backend},
      (w.requests h).Perm (r :: (b'.pending ++ b'.active)) →
      ((w.requests h).map Request.key).Perm
        ([r.key] ++ (b'.pending ++ b'.active).map Request.key) := fun hp => hp.map Request.key
  cases hs with
  | idle => exact ⟨[], by simp, .refl _⟩
  | bound d f hstop hfree => exact ⟨[], by simp, .refl _⟩
  | fetched binding r hbinding hr =>
      exact ⟨[], by simp, hfetched (World.findPendingDeviceLocked_some hr).1⟩
  | restored r hr =>
      refine ⟨[], by simp, ?_⟩
      have hkey : Request.key { r with owner := none } = Request.key r := rfl
      rw [List.nil_append, List.cons_append, List.map_cons, hkey, World.requests]
      refine (((List.perm_cons_erase hr).append_left (w.backends h).pending).map
        Request.key).trans ?_
      exact (List.perm_middle.map Request.key)
  | completed r status hr =>
      refine ⟨[r.key], by simp [Request.key], htaken (r := r) ?_⟩
      exact ((List.perm_cons_erase hr).append_left (w.backends h).pending).trans List.perm_middle
  | cancelled r status hr =>
      exact ⟨[r.key], by simp [Request.key], htaken (r := r) (Backend.perm_listDel hr)⟩
  | released binding hbinding =>
      refine ⟨(w.releasedBy h binding.owner binding.device).map Request.key, fun t => ?_, ?_⟩
      · rw [List.map_map]
        rfl
      · rw [← List.map_append]
        exact (w.releasedBy_perm h binding.owner binding.device).map Request.key
  | stopped =>
      refine ⟨(w.requests h).map Request.key, fun t => ?_, by simp⟩
      rw [List.map_map]
      rfl

namespace Backend.Bound

variable {device device' : TransferPtr → DevicePtr}

/-- The devices of the queued requests decide alone. -/
theorem congr (hb : b.Bound device)
    (hp : ∀ r ∈ b.pending, device' r.transfer = device r.transfer)
    (ha : ∀ r ∈ b.active, device' r.transfer = device r.transfer) : b.Bound device' := by
  refine ⟨hb.owners, hb.devices, fun r hr => ?_, fun r hr => ?_, hb.closed⟩
  · rw [hp r hr]
    exact hb.pending r hr
  · rw [ha r hr]
    exact hb.active r hr

/-- Requests that are taken out need their binding no more. -/
theorem sublist (hb : b.Bound device) {pending active : List Request}
    (hp : pending.Sublist b.pending) (ha : active.Sublist b.active) :
    Backend.Bound { b with pending := pending, active := active } device :=
  ⟨hb.owners, hb.devices, fun r hr => hb.pending r (hp.subset hr),
    fun r hr => hb.active r (ha.subset hr), hb.closed⟩

/-- A request for a bound device joins the queue. -/
theorem submit (hb : b.Bound device) {r : Request} (hr : r.owner = none) {g : Binding}
    (hg : g ∈ b.bindings) (hd : g.device = device r.transfer) :
    Backend.Bound { b with pending := b.pending ++ [r] } device := by
  refine ⟨hb.owners, hb.devices, fun r' hr' => ?_, hb.active, hb.closed⟩
  rcases List.mem_append.1 hr' with hr' | hr'
  · exact hb.pending r' hr'
  · obtain rfl := List.mem_singleton.1 hr'
    exact ⟨hr, g, hg, hd⟩

/-- A binding of a file and a device that have none. -/
theorem bind (hb : b.Bound device) {d : DevicePtr} {f : FilePtr} (hstop : b.stopping = false)
    (hfree : ∀ g ∈ b.bindings, g.owner ≠ f ∧ g.device ≠ d) :
    Backend.Bound { b with bindings := b.bindings ++ [⟨d, f⟩] } device := by
  refine ⟨?_, ?_, fun r hr => ?_, fun r hr => ?_, fun hclosed => ?_⟩
  · rw [List.map_append, List.map_singleton, List.nodup_append]
    refine ⟨hb.owners, List.nodup_singleton _, fun x hx y hy => ?_⟩
    obtain ⟨g, hg, rfl⟩ := List.mem_map.1 hx
    obtain rfl := List.mem_singleton.1 hy
    exact (hfree g hg).1
  · rw [List.map_append, List.map_singleton, List.nodup_append]
    refine ⟨hb.devices, List.nodup_singleton _, fun x hx y hy => ?_⟩
    obtain ⟨g, hg, rfl⟩ := List.mem_map.1 hx
    obtain rfl := List.mem_singleton.1 hy
    exact (hfree g hg).2
  · obtain ⟨hfree, g, hg, hd⟩ := hb.pending r hr
    exact ⟨hfree, g, List.mem_append_left _ hg, hd⟩
  · obtain ⟨g, hg, hd⟩ := hb.active r hr
    exact ⟨g, List.mem_append_left _ hg, hd⟩
  · exact absurd hclosed (by simp [hstop])

/-- A binding goes with the requests that need it. -/
theorem release (hw : (w.backends h).Bound w.device) (binding : Binding) :
    Backend.Bound
      { w.backends h with
        bindings := (w.backends h).bindings.erase binding
        pending := (w.backends h).pending.filter fun r => !w.isFor binding.device r
        active := (w.backends h).active.filter fun r =>
          !w.isLeased binding.owner binding.device r } w.device := by
  have hne : ∀ g ∈ (w.backends h).bindings, g ≠ binding →
      g ∈ (w.backends h).bindings.erase binding := fun g hg hne =>
    (List.mem_erase_of_ne hne).2 hg
  refine ⟨hw.owners.sublist (List.erase_sublist.map _),
    hw.devices.sublist (List.erase_sublist.map _), fun r hr => ?_, fun r hr => ?_,
    fun hclosed => ?_⟩
  · obtain ⟨hmem, hkept⟩ := List.mem_filter.1 hr
    obtain ⟨hfree, g, hg, hd⟩ := hw.pending r hmem
    refine ⟨hfree, g, hne g hg ?_, hd⟩
    rintro rfl
    have hfor : w.isFor g.device r = true := decide_eq_true hd.symm
    simp [hfor] at hkept
  · obtain ⟨hmem, hkept⟩ := List.mem_filter.1 hr
    obtain ⟨g, hg, ho, hd⟩ := hw.active r hmem
    refine ⟨g, hne g hg ?_, ho, hd⟩
    rintro rfl
    have hleased : w.isLeased g.owner g.device r = true := decide_eq_true ⟨hd.symm, ho⟩
    simp [hleased] at hkept
  · rw [hw.closed hclosed]
    rfl

/-- The bindings and the owners of requests after a function. -/
theorem served (hw : (w.backends h).Bound w.device) (hs : Served w h T given b) :
    b.Bound w.device := by
  cases hs with
  | idle => exact hw
  | bound d f hstop hfree => exact hw.bind hstop hfree
  | fetched binding r hbinding hr =>
      obtain ⟨hmem, hdevice⟩ := World.findPendingDeviceLocked_some hr
      refine ⟨hw.owners, hw.devices, fun r' hr' => hw.pending r' (List.mem_of_mem_erase hr'),
        fun r' hr' => ?_, hw.closed⟩
      rcases List.mem_append.1 hr' with hr' | hr'
      · exact hw.active r' hr'
      · obtain rfl := List.mem_singleton.1 hr'
        exact ⟨binding, hbinding, rfl, hdevice.symm⟩
  | restored r hr =>
      refine ⟨hw.owners, hw.devices, fun r' hr' => ?_,
        fun r' hr' => hw.active r' (List.mem_of_mem_erase hr'), hw.closed⟩
      rcases List.mem_cons.1 hr' with rfl | hr'
      · obtain ⟨g, hg, -, hd⟩ := hw.active r hr
        exact ⟨rfl, g, hg, hd⟩
      · exact hw.pending r' hr'
  | completed r status hr => exact hw.sublist (List.Sublist.refl _) List.erase_sublist
  | cancelled r status hr =>
      rw [Backend.listDel]
      split
      · exact hw.sublist List.erase_sublist (List.Sublist.refl _)
      · exact hw.sublist (List.Sublist.refl _) List.erase_sublist
  | released binding hbinding => exact hw.release binding
  | stopped => exact ⟨.nil, .nil, by simp, by simp, fun _ => rfl⟩

/-- A binding is found by its file. -/
theorem findOwnerLocked_eq (hb : b.Bound device) {binding : Binding}
    (hmem : binding ∈ b.bindings) :
    b.findOwnerLocked binding.owner = some binding := by
  have hsome : (b.findOwnerLocked binding.owner).isSome :=
    List.find?_isSome.2 ⟨binding, hmem, decide_eq_true rfl⟩
  obtain ⟨found, hfound⟩ := Option.isSome_iff_exists.1 hsome
  obtain ⟨hmem', howner⟩ := World.findOwnerLocked_some hfound
  rw [hfound, List.inj_on_of_nodup_map hb.owners hmem' hmem howner]

end Backend.Bound

/-! ### The transfers of requests -/

namespace World

/-- A request is loaded as long as its transfer and the length of its URB's buffer are the same. -/
theorem Loaded.congr {r r' : Request} (hw : w.Loaded r) (hk : r'.key = r.key)
    (hc : (w'.transfers r.transfer).content = (w.transfers r.transfer).content)
    (hl : w'.lengths r.urb = w.lengths r.urb) : w'.Loaded r' := by
  obtain ⟨ht, hu⟩ := Prod.mk.inj hk
  have hlength : (w'.transfers r.transfer).requestedLength =
      (w.transfers r.transfer).requestedLength := (congrArg Transfer.requestedLength hc :)
  have hbuffer : (w'.transfers r.transfer).buffer = (w.transfers r.transfer).buffer :=
    (congrArg Transfer.buffer hc :)
  refine ⟨?_, ?_, ?_, ?_⟩
  · rw [ht, Transfer.state_of_content hc]
    exact hw.state
  · rw [ht, hlength]
    exact hw.limit
  · rw [ht, hu, hlength, hl]
    exact hw.length
  · rw [ht, hlength, hbuffer]
    exact hw.buffer

/-- The worlds that differ in nothing the queues depend on. -/
theorem Serving.congr (hw : w.Serving N) (hb : w'.backends = w.backends)
    (hdevice : ∀ h < N, ∀ r ∈ w.requests h, w'.device r.transfer = w.device r.transfer)
    (hcontent : ∀ h < N, ∀ r ∈ w.requests h,
      (w'.transfers r.transfer).content = (w.transfers r.transfer).content)
    (hl : ∀ h < N, ∀ r ∈ w.requests h, w'.lengths r.urb = w.lengths r.urb)
    (hle : w.nextTransfer ≤ w'.nextTransfer)
    (hnext : w'.transferNextId = BitVec.ofNat 64 w'.nextTransfer)
    (hids : ∀ t < w'.nextTransfer, (w'.transfers t).id = BitVec.ofNat 64 (t + 1)) :
    w'.Serving N := by
  have hrequests : w'.requests = w.requests := by
    funext h
    rw [requests, requests, hb]
  refine ⟨fun h hh => ?_, ?_, ?_, fun h hh r hr => ?_, hnext, hids⟩
  · rw [hb]
    exact (hw.bound h hh).congr (fun r hr => hdevice h hh r (List.mem_append_left _ hr))
      fun r hr => hdevice h hh r (List.mem_append_right _ hr)
  · rw [hrequests]
    exact hw.nodup
  · rw [hrequests]
    exact hw.distinct
  · rw [hrequests] at hr
    obtain ⟨hlt, hloaded⟩ := hw.loaded h hh r hr
    exact ⟨Nat.lt_of_lt_of_le hlt hle, hloaded.congr rfl (hcontent h hh r hr) (hl h hh r hr)⟩

/-- **Every request was one before**, and its transfer is not among those that changed. -/
theorem Serving.spared (hw : w.Serving N) (hh : h < N) (hserved : Served w h T given b)
    (hr : Relists h T given b w w') {h' : HcdId} (hh' : h' < N) {r : Request}
    (hr' : r ∈ w'.requests h') :
    ∃ r₀ ∈ w.requests h', r₀.key = r.key ∧ r.transfer ∉ T := by
  obtain ⟨gone, hT, hperm⟩ := hserved.perm
  rw [requests, hr.backends, Function.update_apply] at hr'
  by_cases heq : h' = h
  · subst heq
    rw [if_pos rfl] at hr'
    have hkey : r.key ∈ (w.requests h').map Request.key := by
      rw [hperm.mem_iff]
      exact List.mem_append_right _ (List.mem_map_of_mem hr')
    obtain ⟨r₀, hr₀, hk⟩ := List.mem_map.1 hkey
    refine ⟨r₀, hr₀, hk, fun hmem => ?_⟩
    have hnodup := hw.nodup h' hh'
    have hmap : (w.requests h').map Request.transfer =
        ((w.requests h').map Request.key).map Prod.fst := by
      rw [List.map_map]
      rfl
    rw [hmap, (hperm.map Prod.fst).nodup_iff, List.map_append, List.nodup_append] at hnodup
    refine hnodup.2.2 _ ((hT _).1 hmem) _ (List.mem_map_of_mem (List.mem_map_of_mem hr')) rfl
  · rw [if_neg heq] at hr'
    refine ⟨r, hr', rfl, fun hmem => ?_⟩
    obtain ⟨k, hk, hkt⟩ := List.mem_map.1 ((hT _).1 hmem)
    have hmem' : k ∈ (w.requests h).map Request.key := by
      rw [hperm.mem_iff]
      exact List.mem_append_left _ hk
    obtain ⟨r₁, hr₁, rfl⟩ := List.mem_map.1 hmem'
    exact heq (hw.distinct h hh h' hh' r₁ hr₁ r hr' (.inl hkt)).1.symm

/-- The transfer of a request that stays is as it was. -/
theorem Serving.transfer_eq (hw : w.Serving N) (hh : h < N) (hserved : Served w h T given b)
    (hr : Relists h T given b w w') (ha : w.Accounts N 0 0) (ha' : w'.Accounts N 0 0)
    {h' : HcdId} (hh' : h' < N) {r : Request} (hr' : r ∈ w'.requests h') :
    w'.transfers r.transfer = w.transfers r.transfer := by
  obtain ⟨r₀, hr₀, hk, hnot⟩ := hw.spared hh hserved hr hh' hr'
  have hcount := ha.refcount_of_mem_requests hh' hr₀
  rw [(Prod.mk.inj hk).1, ← ha'.refcount_of_mem_requests hh' hr'] at hcount
  exact Transfer.eq_of_content (hr.content hnot) hcount.symm

/-- **Every function keeps what holds of the queues.** -/
theorem Serving.serves (hw : w.Serving N) (hh : h < N) (hs : Serves h w w') : w'.Serving N := by
  obtain ⟨T, given, b, hserved, hr⟩ := hs
  obtain ⟨gone, hT, hperm⟩ := hserved.perm
  have hback : ∀ h', w'.backends h' = if h' = h then b else w.backends h' := fun h' => by
    rw [hr.backends, Function.update_apply]
  have hold : ∀ h' < N, ∀ r ∈ w'.requests h', ∃ r₀ ∈ w.requests h', r₀.key = r.key ∧
      r.transfer ∉ T := fun h' hh' r hr' => hw.spared hh hserved hr hh' hr'
  refine ⟨fun h' hh' => ?_, fun h' hh' => ?_, ?_, fun h' hh' r hr' => ?_, ?_, fun t ht => ?_⟩
  · rw [hback, hr.device]
    split
    · rename_i heq
      exact (heq ▸ hw.bound h' hh').served hserved
    · exact hw.bound h' hh'
  · rw [requests, hback]
    split
    · have hnodup := hw.nodup h hh
      have hmap : ∀ l : List Request, l.map Request.transfer =
          (l.map Request.key).map Prod.fst := fun l => by
        rw [List.map_map]
        rfl
      rw [hmap, (hperm.map Prod.fst).nodup_iff, List.map_append] at hnodup
      rw [hmap]
      exact hnodup.of_append_right
    · exact hw.nodup h' hh'
  · intro h₁ hh₁ h₂ hh₂ r₁ hr₁ r₂ hr₂ hsame
    obtain ⟨r₁', hr₁', hk₁, -⟩ := hold h₁ hh₁ r₁ hr₁
    obtain ⟨r₂', hr₂', hk₂, -⟩ := hold h₂ hh₂ r₂ hr₂
    obtain ⟨ht₁, hu₁⟩ := Prod.mk.inj hk₁
    obtain ⟨ht₂, hu₂⟩ := Prod.mk.inj hk₂
    rw [← ht₁, ← ht₂, ← hu₁, ← hu₂] at hsame
    obtain ⟨rfl, hk⟩ := hw.distinct h₁ hh₁ h₂ hh₂ r₁' hr₁' r₂' hr₂' hsame
    exact ⟨rfl, hk₁.symm.trans (hk.trans hk₂)⟩
  · obtain ⟨r₀, hr₀, hk, hnot⟩ := hold h' hh' r hr'
    obtain ⟨hlt, hloaded⟩ := hw.loaded h' hh' r₀ hr₀
    have ht := (Prod.mk.inj hk).1
    refine ⟨?_, hloaded.congr hk.symm ?_ ?_⟩
    · rw [hr.nextTransfer, ← ht]
      exact hlt
    · exact hr.content (ht ▸ hnot)
    · rw [hr.lengths]
  · rw [hr.transferNextId, hr.nextTransfer]
    exact hw.nextId
  · rw [hr.nextTransfer] at ht
    rw [hr.transferId]
    exact hw.ids t ht

/-- A URB that is not in flight is handed over. -/
theorem Serving.handUrb (hw : w.Serving N) {u : UrbPtr} (hfree : ¬ w.InFlight N u) (urb : Urb) :
    (w.handUrb u urb).Serving N := by
  refine hw.congr rfl (fun _ _ _ _ => rfl) (fun _ _ _ _ => rfl) (fun h hh r hr => ?_)
    (Nat.le_refl _) hw.nextId hw.ids
  have hne : r.urb ≠ u := fun heq => hfree ⟨h, hh, r, hr, heq⟩
  simp [lengths, World.handUrb, setUrb, hne]

/-- The next transfer is that of no request. -/
theorem Serving.fresh (hw : w.Serving N) (hh : h < N) {r : Request} (hr : r ∈ w.requests h) :
    r.transfer ≠ w.nextTransfer :=
  Nat.ne_of_lt (hw.loaded h hh r hr).1

/-- The id of a new transfer. -/
theorem Serving.newId (hw : w.Serving N) :
    w.transferNextId + 1 = BitVec.ofNat 64 (w.nextTransfer + 1) := by
  rw [hw.nextId]
  exact (BitVec.ofNat_add ..).symm

/-- A refused URB leaves the queues as they were. -/
theorem Serving.refused (hw : w.Serving N) (hr : Refused w w') : w'.Serving N := by
  obtain ⟨hl, hq | ⟨d, w₁, hcreated, hq⟩⟩ := hr
  · refine hw.congr hq.backends (fun _ _ _ _ => congrFun hq.device _)
      (fun _ _ _ _ => hq.content _ (Set.notMem_empty _)) (fun _ _ _ _ => congrFun hl _)
      (Nat.le_of_eq hq.nextTransfer.symm) ?_ fun t ht => ?_
    · rw [hq.transferNextId, hq.nextTransfer]
      exact hw.nextId
    · rw [hq.nextTransfer] at ht
      rw [hq.transferId]
      exact hw.ids t ht
  · have hnext : w'.nextTransfer = w.nextTransfer + 1 := hq.nextTransfer.trans hcreated.nextTransfer
    have hnextId : w'.transferNextId = w.transferNextId + 1 :=
      hq.transferNextId.trans hcreated.transferNextId
    refine hw.congr (hq.backends.trans hcreated.backends) (fun h hh r hr => ?_)
      (fun h hh r hr => ?_) (fun _ _ _ _ => congrFun hl _) ?_ ?_ fun t ht => ?_
    · rw [hq.device, hcreated.device, Function.update_of_ne (hw.fresh hh hr)]
    · rw [hq.content _ (hw.fresh hh hr), hcreated.content _ (hw.fresh hh hr)]
    · rw [hnext]
      exact Nat.le_succ _
    · rw [hnextId, hnext]
      exact hw.newId
    · rw [hq.transferId]
      rcases eq_or_ne t w.nextTransfer with rfl | hne'
      · rw [hcreated.transferId, hcreated.transferNextId]
        exact hw.newId
      · rw [Transfer.id_of_content (hcreated.content t hne')]
        rw [hnext] at ht
        exact hw.ids t (Nat.lt_of_le_of_ne (Nat.le_of_lt_succ ht) hne')

end World

/-! ### One request more -/

namespace Accepted

open World

variable {u : UrbPtr} {d : DevicePtr} {a : TransferArgs} {env : Env}

/-- The transfers that were there are for the same devices. -/
theorem device_of_ne (ha : Accepted h u d a env w w') {t : TransferPtr}
    (ht : t ≠ w.nextTransfer) : w'.device t = w.device t :=
  (congrArg Transfer.device (ha.content t ht) :)

/-- The requests are those that were there, and the new one. -/
theorem requests_perm (ha : Accepted h u d a env w w') :
    (w'.requests h).Perm ({ urb := u, transfer := w.nextTransfer } :: w.requests h) := by
  rw [requests, ha.backends, Function.update_self, List.append_assoc]
  exact List.perm_middle

/-- The requests of the other controllers are those that were there. -/
theorem requests_of_ne (ha : Accepted h u d a env w w') {h' : HcdId} (hne : h' ≠ h) :
    w'.requests h' = w.requests h' := by
  rw [requests, ha.backends, Function.update_of_ne hne, requests]

/-- A request was there, or is the new one. -/
theorem mem_requests (ha : Accepted h u d a env w w') {h' : HcdId} {r : Request}
    (hr : r ∈ w'.requests h') :
    r ∈ w.requests h' ∨ h' = h ∧ r = { urb := u, transfer := w.nextTransfer } := by
  rcases eq_or_ne h' h with rfl | hne
  · rcases List.mem_cons.1 (ha.requests_perm.mem_iff.1 hr) with rfl | hr
    · exact .inr ⟨rfl, rfl⟩
    · exact .inl hr
  · exact .inl (ha.requests_of_ne hne ▸ hr)

/-- Every request has its binding: the device of the new one is bound. -/
theorem bound_of_serving (ha : Accepted h u d a env w w') (hw : w.Serving N) {h' : HcdId}
    (hh' : h' < N) : (w'.backends h').Bound w'.device := by
  have hbound : (w.backends h').Bound w'.device := (hw.bound h' hh').congr
    (fun r hr => ha.device_of_ne (hw.fresh hh' (List.mem_append_left _ hr)))
    fun r hr => ha.device_of_ne (hw.fresh hh' (List.mem_append_right _ hr))
  rw [ha.backends]
  rcases eq_or_ne h' h with rfl | hne
  · obtain ⟨g, hg, hd⟩ := ha.bound
    have hmade : w'.device w.nextTransfer = d := (congrArg Transfer.device ha.made :)
    rw [Function.update_self]
    exact hbound.submit rfl hg (hd.trans hmade.symm)
  · rwa [Function.update_of_ne hne]

/-- No two requests share a transfer: that of the new one was not there. -/
theorem nodup_of_serving (ha : Accepted h u d a env w w') (hw : w.Serving N) {h' : HcdId}
    (hh' : h' < N) : ((w'.requests h').map Request.transfer).Nodup := by
  rcases eq_or_ne h' h with rfl | hne
  · rw [(ha.requests_perm.map Request.transfer).nodup_iff, List.map_cons, List.nodup_cons]
    refine ⟨fun hmem => ?_, hw.nodup h' hh'⟩
    obtain ⟨r, hr, heq⟩ := List.mem_map.1 hmem
    exact hw.fresh hh' hr heq
  · rw [ha.requests_of_ne hne]
    exact hw.nodup h' hh'

/-- The transfer of the new request has the length of the URB, and a buffer of that length. -/
theorem loaded (ha : Accepted h u d a env w w') (hlength : a.length = w.lengths u) :
    w'.Loaded { urb := u, transfer := w.nextTransfer } := by
  have hrequested : (w'.transfers w.nextTransfer).requestedLength = a.length :=
    (congrArg Transfer.requestedLength ha.made :)
  have hbuffer : (w'.transfers w.nextTransfer).buffer = (w.transferBuffer a env.garbage).2 :=
    (congrArg Transfer.buffer ha.made :)
  refine ⟨(congrArg Transfer.state ha.made :), hrequested ▸ ha.limit, ?_, ?_⟩
  · rw [ha.lengths]
    exact hrequested.trans hlength
  · rw [hbuffer, hrequested, transferBuffer]
    split
    · rfl
    split <;> rfl

end Accepted

namespace World

/-- **An accepted URB** is one request more. -/
theorem Serving.accepted {u : UrbPtr} {d : DevicePtr} {a : TransferArgs} {env : Env}
    (hw : w.Serving N) (hh : h < N) (hfree : ¬ w.InFlight N u) (hlength : a.length = w.lengths u)
    (ha : Accepted h u d a env w w') : w'.Serving N := by
  have hurb : ∀ h' < N, ∀ r ∈ w.requests h', r.urb ≠ u := fun h' hh' r hr heq =>
    hfree ⟨h', hh', r, hr, heq⟩
  refine ⟨fun h' hh' => ha.bound_of_serving hw hh', fun h' hh' => ha.nodup_of_serving hw hh', ?_,
    fun h' hh' r hr => ?_, ?_, fun t ht => ?_⟩
  · intro h₁ hh₁ h₂ hh₂ r₁ hr₁ r₂ hr₂ hsame
    -- the new request shares neither its transfer nor its URB with one that was there
    rcases ha.mem_requests hr₁ with hr₁ | ⟨rfl, rfl⟩ <;>
      rcases ha.mem_requests hr₂ with hr₂ | ⟨rfl, rfl⟩
    · exact hw.distinct h₁ hh₁ h₂ hh₂ r₁ hr₁ r₂ hr₂ hsame
    · exact absurd hsame (not_or.2 ⟨hw.fresh hh₁ hr₁, hurb h₁ hh₁ r₁ hr₁⟩)
    · exact absurd hsame (not_or.2 ⟨(hw.fresh hh₂ hr₂).symm, (hurb h₂ hh₂ r₂ hr₂).symm⟩)
    · exact ⟨rfl, rfl⟩
  · rw [ha.nextTransfer]
    rcases ha.mem_requests hr with hr | ⟨rfl, rfl⟩
    · obtain ⟨hlt, hloaded⟩ := hw.loaded h' hh' r hr
      exact ⟨Nat.lt_succ_of_lt hlt, hloaded.congr rfl (ha.content _ (hw.fresh hh' hr))
        (congrFun ha.lengths _)⟩
    · exact ⟨Nat.lt_succ_self _, ha.loaded hlength⟩
  · rw [ha.transferNextId, ha.nextTransfer]
    exact hw.newId
  · rw [ha.nextTransfer] at ht
    rcases eq_or_ne t w.nextTransfer with rfl | hne
    · exact (congrArg Transfer.id ha.made :).trans hw.newId
    · rw [Transfer.id_of_content (ha.content t hne)]
      exact hw.ids t (Nat.lt_of_le_of_ne (Nat.le_of_lt_succ ht) hne)

end World

end VirtUsb
