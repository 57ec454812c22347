/-
# Fetch and rollback

A fetch whose message cannot be copied to the caller is rolled back, and other calls may
come in between.  In the machine `exchanges` the rollback is therefore a step of its own.
Two runs of it are compared, with the fetch and without: what is done in between keeps the
request on loan (`Loan.exchange`), and the rollback gives it back to its place.
-/

import VirtUsb.Serving.Loan

namespace VirtUsb

open Transition Sequence

/-- A call, or the rollback of a fetch. -/
inductive Exchange
  | call (c : Call)
  | rollback (h : HcdId) (f : FilePtr) (id : BitVec 64)

/-- What an exchange makes of the world. -/
def World.exchange (w : World) : Exchange → World
  | .call c => w.call c
  | .rollback h f id => (w.backendFetchRollback h f id).1

/-- The exchange can be made in the world. -/
def Exchange.Possible (N : ℕ) (w : World) : Exchange → Prop
  | .call c => c.Possible N w
  | .rollback h _ _ => h < N

instance (N : ℕ) (w : World) (x : Exchange) : Decidable (x.Possible N w) := by
  unfold Exchange.Possible
  cases x <;> infer_instance

/-- The module with `N` host controllers. -/
def exchanges (N : ℕ) : Machine World Exchange :=
  .ofFun World.Initialised fun w x => if x.Possible N w then some (w.exchange x) else none

/-- The exchange is no fetch, rollback or end of the registration of file `f`, no completion
of the transfer `id` by it, no cancellation of the URB `u`, and no stop of the backend. -/
def Exchange.Spares (h : HcdId) (f : FilePtr) (id : BitVec 64) (u : UrbPtr) : Exchange → Prop
  | .call (.ioctl h' _ g _ command m _) => h' = h → g = f →
      command ≠ ioctlBackendUnregister ∧ command ≠ ioctlTransferFetch ∧
        (command = ioctlTransferComplete → m.transferComplete.transferId ≠ id)
  | .call (.close h' g) => h' = h → g ≠ f
  | .call (.urbDequeue _ u' _) => u' ≠ u
  | .call (.stop h') => h' ≠ h
  | .call _ => True
  | .rollback h' g _ => h' = h → g ≠ f

/-- A step is an exchange that is possible. -/
theorem exchanges_step {N : ℕ} {w w' : World} {x : Exchange} (hs : (exchanges N).step w x w') :
    x.Possible N w ∧ w' = w.exchange x := by
  obtain ⟨hp, hs⟩ := Option.ite_none_right_eq_some.1 hs
  exact ⟨hp, (Option.some.inj hs).symm⟩

namespace World

variable {N : ℕ} {w w' : World} {h : HcdId} {f : FilePtr}

/-! ### What an exchange keeps -/

/-- **What holds between two exchanges**: the state is steady, and so are the queues. -/
structure Settled (N : ℕ) (w : World) : Prop where
  steady : w.Steady N
  serving : w.Serving N

/-- A rollback keeps what holds between two calls. -/
theorem Steady.rollback (hw : w.Steady N) (hh : h < N) (f : FilePtr) (id : BitVec 64) :
    (w.backendFetchRollback h f id).1.Steady N := by
  have hm := (Aside.backendFetchRollback w h f id).management
  exact ⟨hw.accounts.backendFetchRollback hh id, hw.sound.of_management hm,
    hw.catalogued.of_management hm, hw.ported.of_management hm⟩

/-- Every exchange is one of the kinds of work. -/
theorem works_exchange (hw : w.Steady N) {x : Exchange} (hp : x.Possible N w) :
    Works N w (w.exchange x) := by
  cases x with
  | call c => exact works_call hw.accounts.counted hp
  | rollback h f id => exact .serves hp (.backendFetchRollback w f id)

/-- Every exchange keeps the state settled. -/
theorem Settled.exchange (hw : w.Settled N) {x : Exchange} (hp : x.Possible N w) :
    (w.exchange x).Settled N := by
  refine ⟨?_, hw.serving.works (works_exchange hw.steady hp)⟩
  cases x with
  | call c => exact hw.steady.call hp.1
  | rollback h f id => exact hw.steady.rollback hp f id

/-- The state is settled between any two exchanges. -/
theorem settled_of_reachable (hw : (exchanges N).Reachable w) : w.Settled N := by
  refine Machine.Reachable.invariant (I := Settled N)
    (fun _ h => ⟨Initialised.steady h, Initialised.serving h⟩) (fun v x v' hv hs => ?_) hw
  obtain ⟨hp, rfl⟩ := exchanges_step hs
  exact hv.exchange hp

/-- An exchange changes no object id. -/
theorem sameIds_exchange (hw : w.Steady N) (x : Exchange) : w.SameIds (w.exchange x) := by
  cases x with
  | call c => exact (managed_call hw.accounts.counted hw.accounts.registry c).sameIds
  | rollback h f id => exact (Managed.kept (Aside.backendFetchRollback w h f id)).sameIds

/-- What is queued at the end of a run was queued all the time, with the same content. -/
theorem kept_of_exchanges {l : List (World × Exchange)} (hw : (exchanges N).Reachable w)
    (hr : Run (exchanges N) w l w') : w.SameIds w' ∧ w.nextTransfer ≤ w'.nextTransfer ∧
    ∀ h < N, ∀ r ∈ w'.requests h, r.transfer < w.nextTransfer → w.Kept w' h r := by
  induction hr with
  | nil => exact ⟨⟨Nat.le_refl _, fun _ _ => rfl⟩, Nat.le_refl _, fun h hh r hr _ =>
      .of_same rfl hr rfl⟩
  | @snoc l v w' x hr hstep ih =>
      have hv := settled_of_reachable (hw.run hr)
      obtain ⟨hp, rfl⟩ := exchanges_step hstep
      obtain ⟨hids, hle, hkept⟩ := ih
      obtain ⟨hle', hkept'⟩ := (works_exchange hv.steady hp).kept hv.serving
      exact ⟨hids.trans (sameIds_exchange hv.steady x), hle.trans hle', fun h hh r hr hlt =>
        Kept.trans (hkept' h hh r hr (Nat.lt_of_lt_of_le hlt hle)) fun r₀ hr₀ ht =>
          hkept h hh r₀ hr₀ (ht ▸ hlt)⟩

end World

namespace Loan

variable {N : ℕ} {h h₀ : HcdId} {f g : FilePtr} {r : Request} {d : DevicePtr} {v v' : World}
  {env : Env}

/-! ### What the loan rests on -/

/-- The request is active where it was fetched. -/
theorem leased_mem (hv : Loan h f r d v v') : r.leased f ∈ (v.backends h).active :=
  hv.backend.active.mem_iff.2 (.inl rfl)

/-- It is pending where it was not. -/
theorem pending_mem (hv : Loan h f r d v v') : r ∈ (v'.backends h).pending :=
  hv.backend.pending.mem_iff.2 (.inl rfl)

/-- The file is bound to the device. -/
theorem holder (hv : Loan h f r d v v') (hs : v.Serving N) (hh : h < N) :
    (⟨d, f⟩ : Binding) ∈ (v'.backends h).bindings := by
  obtain ⟨⟨e, g⟩, hmem, howner, hdevice⟩ := (hs.bound h hh).active _ hv.leased_mem
  obtain rfl : f = g := Option.some.inj howner
  have hd : e = d := by
    rw [← hv.device, ← hv.alike.device]
    exact hdevice
  rw [← hd, ← hv.bindings]
  exact hmem

/-- Another file is bound to another device. -/
theorem device_ne (hv : Loan h f r d v v') (hs : v.Serving N) (hs' : v'.Serving N) (hh : h < N)
    {binding : Binding} (hb : binding ∈ (v'.backends h).bindings) (hg : binding.owner ≠ f) :
    binding.device ≠ d := by
  intro hd
  have hsame := List.inj_on_of_nodup_map (hs'.bound h hh).devices hb (hv.holder hs hh) hd
  exact hg (congrArg Binding.owner hsame)

/-- Another file is bound to another device. -/
theorem find_ne (hv : Loan h f r d v v') (hs : v.Serving N) (hs' : v'.Serving N) (hh : h < N)
    (hg : h₀ = h → g ≠ f) (binding : Binding) (heq : h₀ = h)
    (hb : (v'.backends h₀).findOwnerLocked g = some binding) : binding.device ≠ d := by
  subst heq
  obtain ⟨hmem, howner⟩ := World.findOwnerLocked_some hb
  exact hv.device_ne hs hs' hh hmem (howner ▸ hg rfl)

/-- A request of another file is for another device. -/
theorem owned_ne (hv : Loan h f r d v v') (hs : v.Serving N) (hs' : v'.Serving N) (hh : h < N)
    (hg : h₀ = h → g ≠ f) (x : Request) (hx : x ∈ (v'.backends h₀).active) (heq : h₀ = h)
    (howner : x.owner = some g) : v'.device x.transfer ≠ d := by
  subst heq
  obtain ⟨binding, hmem, ho, hdevice⟩ := (hs'.bound h₀ hh).active x hx
  rw [← hdevice]
  refine hv.device_ne hs hs' hh hmem fun hf => hg rfl ?_
  exact Option.some.inj (howner.symm.trans (ho.trans (congrArg some hf)))

/-- The same URBs are in flight. -/
theorem inFlight_iff (hv : Loan h f r d v v') (u : UrbPtr) : v.InFlight N u ↔ v'.InFlight N u := by
  have hmem : ∀ h', (∃ x ∈ (v.backends h').pending ++ (v.backends h').active, x.urb = u) ↔
      ∃ x ∈ (v'.backends h').pending ++ (v'.backends h').active, x.urb = u := by
    intro h'
    rcases eq_or_ne h' h with rfl | hne
    · have hpending := (hv.backend.pending.map_perm Request.urb).mem_iff (a := u)
      have hactive := (hv.backend.active.map_perm Request.urb).mem_iff (a := u)
      simp only [List.mem_map, List.mem_cons] at hpending hactive
      have hurb : (r.leased f).urb = r.urb := rfl
      simp only [List.mem_append, or_and_right, exists_or, hpending, hactive, hurb]
      rw [← or_assoc]
      exact or_congr_left or_comm
    · rw [hv.other h' hne]
  simp only [World.InFlight, hmem]

/-! ### Calls -/

/-- `virtusb_hcd_urb_enqueue` keeps the loan: a new transfer is none of the pending ones. -/
theorem hcdUrbEnqueue (hv : Loan h f r d v v')
    (hlt : ∀ x ∈ (v'.backends h).pending, x.transfer < v'.nextTransfer) (h₀ : HcdId) (u : UrbPtr) :
    Agree (Loan h f r d) (v.hcdUrbEnqueue h₀ u env) (v'.hcdUrbEnqueue h₀ u env) := by
  simp only [World.hcdUrbEnqueue, hv.alike.urbs, hv.alike.hcdGetUrbDevice]
  rcases v'.hcdGetUrbDevice h₀ (v'.urbs u) with _ | e
  · exact .mk _ hv
  rcases (v'.urbs u).check with err | type
  · exact .mk _ hv
  obtain ⟨w, w', _ | t, hw, hx, hx'⟩ :=
    (hv.alike.transferCreate e ((v'.urbs u).transferArgs type) env).results
  · simp only [hx, hx']
    rw [World.transferCreate_none hx, World.transferCreate_none hx']
    exact .mk _ hv
  have hc := World.transferCreate_some hx
  have hc' := World.transferCreate_some hx'
  have hcreated : Loan h f r d w w' := by
    have hdevice : ∀ x ∈ (v'.backends h).pending, w'.device x.transfer = v'.device x.transfer := by
      intro x hx
      rw [hc'.device, Function.update_of_ne (Nat.ne_of_lt (hc'.ptr ▸ hlt x hx))]
    refine ⟨hw, fun h' hne => ?_, ?_, (hdevice r hv.pending_mem).trans hv.device⟩
    · rw [hc.backends, hc'.backends, hv.other h' hne]
    · rw [hc.backends, hc'.backends]
      exact hv.backend.congr hdevice
  simp only [hx, hx', hw.transfers]
  refine .ite (fun _ => .mk _ (hcreated.transferPut t)) fun _ => ?_
  have hsubmitted := hcreated.backendSubmit h₀ u t env
  exact .of_eq (hsubmitted.fst.transferPut t) hsubmitted.snd

/-- The handler of `VIRTUSB_IOCTL_BACKEND_REGISTER`. -/
theorem controlBackendRegister (hv : Loan h f r d v v') (hc : v.Counted) (hc' : v'.Counted)
    (h₀ : HcdId) (g : FilePtr) (request : BackendRegister) :
    Agree (Loan h f r d) (v.controlBackendRegister h₀ g request env)
      (v'.controlBackendRegister h₀ g request env) := by
  have hfind : v.deviceOf request.objectId = v'.deviceOf request.objectId ∧
      v.attachedTo h₀ = v'.attachedTo h₀ := by
    obtain ⟨b, c, rfl⟩ := hv.alike
    exact ⟨rfl, rfl⟩
  rw [World.controlBackendRegister_eq hc, World.controlBackendRegister_eq hc', hfind.1]
  refine .ite (fun _ => .mk _ hv) fun _ => ?_
  rcases v'.deviceOf request.objectId with err | e
  · exact .mk _ hv
  · simp only [hfind.2]
    exact .ite (fun _ => .mk _ hv) fun _ => hv.backendRegister h₀ g e env

/-- The handler of `VIRTUSB_IOCTL_TRANSFER_FETCH`, for another file. -/
theorem controlTransferFetch (hv : Loan h f r d v v') (hs : v.Serving N) (hs' : v'.Serving N)
    (hh : h < N) (hh₀ : h₀ < N) (hg : h₀ = h → g ≠ f) (nonblock : Bool) :
    Agree (Loan h f r d) (v.controlTransferFetch h₀ g nonblock env)
      (v'.controlTransferFetch h₀ g nonblock env) := by
  have hserved := hs.serves hh₀ (Serves.backendFetch v g nonblock)
  have hserved' := hs'.serves hh₀ (Serves.backendFetch v' g nonblock)
  refine .ite (fun _ => .mk _ hv) fun _ => ?_
  obtain ⟨w, w', err | message, hw, hx, hx'⟩ :=
    (hv.backendFetch h₀ nonblock (hv.find_ne hs hs' hh hg)).results
  · simp only [hx, hx']
    exact .mk _ hw
  · rw [hx] at hserved
    rw [hx'] at hserved'
    simp only [hx, hx']
    exact .ite (fun _ => .mk _ (hw.backendFetchRollback h₀ _ hg
      (hw.owned_ne hserved hserved' hh hg)).fst) fun _ => .mk _ hw

/-- The handler of `VIRTUSB_IOCTL_TRANSFER_COMPLETE`, for another id or by another file. -/
theorem controlTransferComplete (hv : Loan h f r d v v') (h₀ : HcdId)
    {completion : TransferCompleteRequest}
    (hg : h₀ = h → g = f → (v'.transfers r.transfer).id ≠ completion.transferId) :
    Agree (Loan h f r d) (v.controlTransferComplete h₀ g completion env)
      (v'.controlTransferComplete h₀ g completion env) :=
  .ite (fun _ => .mk _ hv) fun _ => .ite (fun _ => .mk _ hv) fun _ => hv.backendComplete h₀ hg

/-- An ioctl that is no fetch, completion of the request or unregistration by its holder. -/
theorem controlIoctl (hv : Loan h f r d v v') (hs : v.Settled N) (hs' : v'.Settled N)
    (hh : h < N) (hh₀ : h₀ < N) {command : BitVec 32} {m : UserMemory}
    (hg : h₀ = h → g = f → command ≠ ioctlBackendUnregister ∧ command ≠ ioctlTransferFetch ∧
      (command = ioctlTransferComplete →
        m.transferComplete.transferId ≠ (v'.transfers r.transfer).id))
    (active nonblock : Bool) :
    Loan h f r d (v.controlIoctl h₀ active g nonblock command m env).1
      (v'.controlIoctl h₀ active g nonblock command m env).1 := by
  have hc := hs.steady.accounts.counted
  have hc' := hs'.steady.accounts.counted
  have hif : ∀ {c : Prop} [Decidable c] {a b a' b' : World × Except Errno Reply},
      (c → Loan h f r d a.1 a'.1) → Loan h f r d b.1 b'.1 →
        Loan h f r d (if c then a else b).1 (if c then a' else b').1 := by
    intro c _ a b a' b' ha hb
    split
    · exact ha ‹_›
    · exact hb
  have haside : ∀ {w w' : World}, Alike w w' → w.traffic = v.traffic → w'.traffic = v'.traffic →
      Loan h f r d w w' := fun hw ht ht' =>
    hv.quiet hw (Quiet.of_traffic (T := ∅) ht) (Quiet.of_traffic (T := ∅) ht')
  have hfile : command = ioctlBackendUnregister ∨ command = ioctlTransferFetch →
      h₀ = h → g ≠ f := by
    rintro hcommand heq rfl
    obtain ⟨hunregister, hfetch, -⟩ := hg heq rfl
    exact hcommand.elim hunregister hfetch
  rw [World.controlIoctl, World.controlIoctl]
  refine hif (fun _ => hv) (hif (fun _ => hv) (hif (fun _ => ?_) (hif (fun _ => ?_)
    (hif (fun _ => ?_) (hif (fun _ => ?_) (hif (fun _ => ?_) (hif (fun _ => ?_)
    (hif (fun _ => ?_) (hif (fun hcommand => ?_) (hif (fun hcommand => ?_)
    (hif (fun hcommand => ?_) hv)))))))))))
  · exact haside (hv.alike.controlDeviceCreate _ env).fst (World.traffic_controlDeviceCreate v _ env)
      (World.traffic_controlDeviceCreate v' _ env)
  · exact haside (hv.alike.controlDeviceDestroy _ env).fst (World.traffic_controlDeviceDestroy hc _)
      (World.traffic_controlDeviceDestroy hc' _)
  · exact haside (hv.alike.controlDeviceAttach h₀ _ env).fst
      (World.traffic_controlDeviceAttach hc _) (World.traffic_controlDeviceAttach hc' _)
  · exact haside (hv.alike.controlDeviceDetach _ env).fst (World.traffic_controlDeviceDetach hc _)
      (World.traffic_controlDeviceDetach hc' _)
  · exact haside (hv.alike.controlDeviceConnection _ env).fst
      (World.traffic_controlDeviceConnection hc _) (World.traffic_controlDeviceConnection hc' _)
  · exact haside (hv.alike.controlSetPortPower h₀ _ env).fst
      (World.traffic_controlSetPortPower v _) (World.traffic_controlSetPortPower v' _)
  · exact (hv.controlBackendRegister hc hc' h₀ g _).fst
  · exact hv.backendReleaseOwner h₀
      (hv.find_ne hs.serving hs'.serving hh (hfile (.inl hcommand)))
  · exact (hv.controlTransferFetch hs.serving hs'.serving hh hh₀ (hfile (.inr hcommand))
      nonblock).fst
  · exact (hv.controlTransferComplete h₀ fun heq hgf => ((hg heq hgf).2.2 hcommand).symm).fst

/-- **What others do keeps the request on loan.** -/
theorem exchange (hv : Loan h f r d v v') (hs : v.Settled N) (hs' : v'.Settled N) (hh : h < N)
    {x : Exchange} (hp : x.Possible N v)
    (hx : x.Spares h f (v'.transfers r.transfer).id r.urb) :
    Loan h f r d (v.exchange x) (v'.exchange x) := by
  cases x with
  | rollback h₀ g id =>
      exact (hv.backendFetchRollback h₀ id hx (hv.owned_ne hs.serving hs'.serving hh hx)).fst
  | call c =>
      cases c with
      | ioctl h₀ active g nonblock command m env =>
          exact hv.controlIoctl hs hs' hh hp.1 hx active nonblock
      | close h₀ g => exact hv.backendReleaseOwner h₀ (hv.find_ne hs.serving hs'.serving hh hx)
      | urbEnqueue h₀ u urb env =>
          have hhanded : Loan h f r d (v.handUrb u urb) (v'.handUrb u urb) :=
            hv.aside (hv.alike.setUrb u _) rfl rfl rfl
          refine (hhanded.hcdUrbEnqueue (fun x hx => ?_) h₀ u).fst
          exact (hs'.serving.loaded h hh x (List.mem_append_left _ hx)).1
      | urbDequeue h₀ u status => exact (hv.backendCancel h₀ hx status).fst
      | hubControl h₀ typeReq value index =>
          have htopo := hv.alike.withTopo (v'.topo.hcdHubControl h₀ typeReq value index).1
          rw [World.exchange, World.exchange, World.call, World.call, hv.alike.topo]
          exact hv.aside htopo rfl rfl rfl
      | setStatusChangedCallback h₀ installed =>
          have htopo := hv.alike.withTopo (v'.topo.hubSetStatusChangedCallback h₀ installed)
          rw [World.exchange, World.exchange, World.call, World.call, hv.alike.topo]
          exact hv.aside htopo rfl rfl rfl
      | stop h₀ => exact hv.backendStop hx

/-- The same exchanges are possible. -/
theorem possible_iff (hv : Loan h f r d v v') (x : Exchange) :
    x.Possible N v ↔ x.Possible N v' := by
  cases x with
  | rollback h₀ g id => exact Iff.rfl
  | call c =>
      cases c with
      | urbEnqueue h₀ u urb env => exact and_congr_right fun _ => not_congr (hv.inFlight_iff u)
      | ioctl => exact Iff.rfl
      | close => exact Iff.rfl
      | urbDequeue => exact Iff.rfl
      | hubControl => exact Iff.rfl
      | setStatusChangedCallback => exact Iff.rfl
      | stop => exact Iff.rfl

/-- **A run with the fetch is matched by one without it**, with the same exchanges. -/
theorem run {w : World} {l : List (World × Exchange)} (hv : Loan h f r d v v') (hh : h < N)
    (hs : (exchanges N).Reachable v) (hs' : (exchanges N).Reachable v')
    (hr : Run (exchanges N) v l w)
    (hl : ∀ x ∈ l, x.2.Spares h f (v'.transfers r.transfer).id r.urb) :
    ∃ k w', Run (exchanges N) v' k w' ∧ k.map Prod.snd = l.map Prod.snd ∧
      Loan h f r d w w' := by
  induction hr with
  | nil => exact ⟨[], v', .nil, rfl, hv⟩
  | @snoc l u w x hr hstep ih =>
      obtain ⟨k, u', hr', hk, hu⟩ := ih fun y hy => hl y (List.mem_append_left _ hy)
      obtain ⟨hp, rfl⟩ := exchanges_step hstep
      have hu' := hs'.run hr'
      -- the transfer has the id that it had when it was fetched
      have hid : (u'.transfers r.transfer).id = (v'.transfers r.transfer).id := by
        have hmem := List.mem_append_left (u'.backends h).active hu.pending_mem
        have hlt := ((World.settled_of_reachable hs').serving.loaded h hh r
          (List.mem_append_left _ hv.pending_mem)).1
        exact Transfer.id_of_content
          ((World.kept_of_exchanges hs' hr').2.2 h hh r hmem hlt).2
      have hspares := hl (u, x) (List.mem_append_right _ (List.mem_singleton_self _))
      rw [← hid] at hspares
      have hnext : (exchanges N).step u' x (u'.exchange x) := by
        exact if_pos ((hu.possible_iff x).1 hp)
      refine ⟨k ++ [(u', x)], _, .snoc hr' hnext, by simp [hk], ?_⟩
      exact hu.exchange (World.settled_of_reachable (hs.run hr))
        (World.settled_of_reachable hu') hh hp hspares

/-! ### The fetch -/

/-- A reference that is taken and dropped again leaves no trace. -/
theorem transferPut_transferGet {w : World} {t : TransferPtr} (hne : (w.transfers t).refcount ≠ 0) :
    (w.transferGet t).transferPut t = w := by
  have hcount : (w.transfers t).refcount + 1 ≠ 1 := by omega
  have hback : ∀ x, Function.update (Function.update w.transfers t x) t (w.transfers t) =
      w.transfers := fun x => by rw [Function.update_idem, Function.update_eq_self]
  simp only [World.transferPut, World.transferGet, World.setTransfer, Function.update_self, hcount,
    if_false, Nat.add_sub_cancel, hback]

/-- A fetch that has its request does no more to the world than drop the reference it took, but for
the copies. -/
theorem fetchTail_alike (w : World) (t : TransferPtr) :
    Alike (w.fetchTail t).1 (w.transferPut t) := by
  have hsetup : Alike (w.copySetup (w.transfers t).setup) w := by
    rw [World.copySetup]
    split
    · exact ⟨_, _, rfl⟩
    · exact ⟨_, _, rfl⟩
  simp only [World.fetchTail]
  split
  · refine Alike.transferPut (Alike.trans ?_ hsetup) t
    exact ⟨_, _, rfl⟩
  · exact hsetup.transferPut t

/-- **A fetch lends the request.** -/
theorem of_fetch {w w₁ : World} {nonblock : Bool} {message : TransferFetch} (hs : w.Settled N)
    (hh : h < N) (hfetch : w.backendFetch h f nonblock = (w₁, .ok message)) :
    ∃ r, message = (w.transfers r.transfer).message (w.objects (w.device r.transfer)).id ∧
      Loan h f r (w.device r.transfer) w₁ w := by
  rcases hl : w.fetchLocked h f with ⟨v, r | e | _⟩
  · obtain ⟨hmem, hmessage⟩ := World.backendFetch_message hfetch hl
    obtain ⟨⟨binding, -, hfind⟩, rfl⟩ := World.fetchLocked_taken_eq hl
    obtain rfl : (World.fetchTail _ r.transfer).1 = w₁ := by
      rw [World.backendFetch, hl] at hfetch
      exact congrArg Prod.fst hfetch
    have hdevice := (World.findPendingDeviceLocked_some hfind).2
    have hcount : (w.transfers r.transfer).refcount ≠ 0 :=
      Nat.ne_of_gt (hs.steady.accounts.queued_pos hh (List.mem_append_left _ hmem))
    refine ⟨r, hmessage, ?_, fun h' hne => ?_, ?_, rfl⟩
    · refine (fetchTail_alike _ _).trans ?_
      have hgot : ∀ b, Alike ((w.setBackend h b).transferGet r.transfer)
          (w.transferGet r.transfer) := fun b => Alike.transferGet ⟨_, _, rfl⟩ r.transfer
      have hput := (hgot { w.backends h with
        pending := (w.backends h).pending.erase r
        active := (w.backends h).active ++ [r.leased f] }).transferPut r.transfer
      rwa [transferPut_transferGet hcount] at hput
    · rw [(Quiet.fetchTail (T := ∅) _ _).backends]
      exact Function.update_of_ne hne _ _
    · rw [(Quiet.fetchTail (T := ∅) _ _).backends]
      have hself : (World.transferGet (w.setBackend h
          { w.backends h with
            pending := (w.backends h).pending.erase r
            active := (w.backends h).active ++ [r.leased f] }) r.transfer).backends h =
          { w.backends h with
            pending := (w.backends h).pending.erase r
            active := (w.backends h).active ++ [r.leased f] } := Function.update_self _ _ _
      rw [show ({ r with owner := some f } : Request) = r.leased f from rfl, hself]
      refine ⟨rfl, rfl, (Inserts.of_find? hfind).mono fun x hx => ?_, .concat fun x hx => ?_⟩
      · have hother : w.requestDevice x ≠ binding.device := of_decide_eq_false hx
        exact fun heq => hother (heq.trans hdevice)
      · -- a request that is active is not the one that was pending
        rintro rfl
        have hnodup := hs.serving.nodup h hh
        rw [World.requests, List.map_append, List.nodup_append] at hnodup
        exact hnodup.2.2 _ (List.mem_map.2 ⟨r, hmem, rfl⟩) _ (List.mem_map.2 ⟨_, hx, rfl⟩) rfl
  · simp [World.backendFetch, hl] at hfetch
  · simp [World.backendFetch, hl] at hfetch

end Loan

namespace World

variable {N : ℕ} {w w₁ : World} {h : HcdId} {f : FilePtr}

/-- The pending requests for a device, in their order. -/
def pendingFor (w : World) (h : HcdId) (d : DevicePtr) : List Request :=
  (w.backends h).pending.filter fun r => w.device r.transfer = d

/-- A rollback of what the file does not have on loan. -/
theorem backendFetchRollback_error {id : BitVec 64}
    (hid : ∀ r ∈ (w.backends h).active, r.owner = some f → (w.transfers r.transfer).id ≠ id) :
    w.backendFetchRollback h f id = (w, .error (if id = 0 then .EINVAL else .ENOENT)) := by
  have hnone : w.findIdLocked h f id = none := by
    refine List.find?_eq_none.2 fun r hr => ?_
    simp only [decide_eq_true_eq, not_and]
    exact hid r hr
  rw [backendFetchRollback]
  split
  · rfl
  · simp only [rollbackLocked, hnone]

/-- The device of a queued request exists. -/
theorem device_lt (hw : w.Steady N) (hh : h < N) {r : Request} (hr : r ∈ w.requests h) :
    w.device r.transfer < w.nextDevice := by
  have hsame : w.requestDevice r = w.device r.transfer := rfl
  have hone : 0 < (w.requests h).countP fun r' => w.requestDevice r' = w.device r.transfer :=
    List.countP_pos_iff.2 ⟨r, hr, decide_eq_true hsame⟩
  have hfor : 0 < w.requestsFor N (w.device r.transfer) := by
    rw [requestsFor, ← Finset.add_sum_erase _ _ (Finset.mem_range.2 hh)]
    exact Nat.lt_of_lt_of_le hone (Nat.le_add_right _ _)
  have hcount := hw.accounts.refcount_device (w.device r.transfer)
  have hpos : 0 < (w.objects (w.device r.transfer)).refcount := by
    rw [hcount]
    exact Nat.lt_of_lt_of_le hfor (Nat.le_add_left _ _)
  exact hw.accounts.devices.lt_next (congrFun hw.accounts.devices.count _ ▸ hpos)

/-- A fetch by a file whose device has a pending request. -/
theorem backendFetch_ok (hw : (w.backends h).Bound w.device) {d : DevicePtr} {r : Request}
    (hb : (⟨d, f⟩ : Binding) ∈ (w.backends h).bindings)
    (hr : w.findPendingDeviceLocked h d = some r) (nonblock : Bool) :
    (w.backendFetch h f nonblock).2 =
      .ok ((w.transfers r.transfer).message (w.objects (w.device r.transfer)).id) := by
  have hfind := hw.findOwnerLocked_eq hb
  dsimp only at hfind
  have htaken : (w.fetchLocked h f).2 = .taken r := by
    simp only [fetchLocked, hfind, hr]
  rcases hl : w.fetchLocked h f with ⟨v, pass⟩
  rw [hl] at htaken
  obtain rfl : pass = .taken r := htaken
  rcases hs : w.backendFetch h f nonblock with ⟨v', e | message⟩
  · simp [backendFetch, hl] at hs
  · rw [(backendFetch_message hs hl).2]

end World

/-- **The rollback of a loan** gives the request back to its place. -/
theorem Loan.rollback {N : ℕ} {h : HcdId} {f : FilePtr} {r : Request} {d : DevicePtr}
    {v v' : World} (hv : Loan h f r d v v') (hs : v.Settled N) (hs' : v'.Settled N) (hh : h < N)
    (hlt : v.nextTransfer < 2 ^ 64) :
    ∃ w, v.backendFetchRollback h f (v.transfers r.transfer).id = (w, .ok ()) ∧
      w = v.setBackend h
        { v.backends h with
          active := (v'.backends h).active
          pending := r :: (v.backends h).pending } := by
  obtain ⟨hfind, hne⟩ := hs.serving.findIdLocked_eq hh hlt hv.leased_mem rfl
  have hr : ({ r.leased f with owner := none } : Request) = r := by
    have hfree := ((hs'.serving.bound h hh).pending r hv.pending_mem).1
    rw [← hfree]
    rfl
  refine ⟨_, ?_, rfl⟩
  have hid : (v.transfers (r.leased f).transfer).id = (v.transfers r.transfer).id := rfl
  rw [hid] at hfind hne
  rw [World.backendFetchRollback, if_neg hne]
  simp only [World.rollbackLocked, hfind, hr, hv.backend.active.erase_self]

/-- In `w'` the request `r`, fetched by file `f` in `w` with this message, is as it would be
in `v`, where the fetch is missing. -/
structure FetchUndone (h : HcdId) (f : FilePtr) (r : Request) (message : TransferFetch)
    (w v w' : World) : Prop where
  pending : ∀ d, w'.pendingFor h d = v.pendingFor h d
  active : (w'.backends h).active = (v.backends h).active
  bindings : (w'.backends h).bindings = (v.backends h).bindings
  other : ∀ h', h' ≠ h → w'.backends h' = v.backends h'
  alike : Alike w' v
  free : r ∈ (w'.backends h).pending ∧ r.owner = none
  transfer : w'.transfers r.transfer = w.transfers r.transfer
  queued : (w'.transfers r.transfer).state = .queued
  next : ∀ nonblock, (w'.backendFetch h f nonblock).2 = .ok message

/-- The fetch as a step, by a caller that can take the message. -/
theorem exchanges_fetch {N : ℕ} {w w₁ : World} {h : HcdId} {f : FilePtr} {nonblock : Bool}
    {message : TransferFetch} (hh : h < N)
    (hfetch : w.backendFetch h f nonblock = (w₁, .ok message)) :
    (exchanges N).step w
      (.call (.ioctl h true f nonblock ioctlTransferFetch (.ofWords []) {})) w₁ := by
  have hp : Exchange.Possible N w
      (.call (.ioctl h true f nonblock ioctlTransferFetch (.ofWords []) {})) := ⟨hh, trivial⟩
  have hstep : (exchanges N).step w _ _ := if_pos hp
  rw [← World.call_fetch hfetch]
  exact hstep

/-- A request that stays pending keeps its transfer. -/
theorem transfer_of_exchanges {N : ℕ} {w v : World} {h : HcdId} {r : Request}
    {k : List (World × Exchange)} (hw : (exchanges N).Reachable w)
    (hrun : Run (exchanges N) w k v) (hh : h < N) (hr : r ∈ w.requests h)
    (hrv : r ∈ v.requests h) : v.transfers r.transfer = w.transfers r.transfer := by
  have hs := World.settled_of_reachable hw
  have hsv := World.settled_of_reachable (hw.run hrun)
  obtain ⟨-, -, hkept⟩ := World.kept_of_exchanges hw hrun
  refine Transfer.eq_of_content (hkept h hh r hrv (hs.serving.loaded h hh r hr).1).2 ?_
  rw [hsv.steady.accounts.refcount_of_mem_requests hh hrv,
    hs.steady.accounts.refcount_of_mem_requests hh hr]

/-- What a rollback leaves is what there is without the fetch, but for the place of the request
among those of other devices. -/
theorem Loan.alike_restored {h : HcdId} {f : FilePtr} {r : Request} {d : DevicePtr}
    {w v w' : World} (hv : Loan h f r d w v)
    (hw' : w' = w.setBackend h { w.backends h with
      active := (v.backends h).active, pending := r :: (w.backends h).pending }) : Alike w' v := by
  rw [hw']
  exact Alike.trans ⟨_, _, rfl⟩ hv.alike

/-- **A loan that is rolled back is undone**: the request is the first of its device again, and
the next fetch of its file has the same message. -/
theorem FetchUndone.of_loan {N : ℕ} {h : HcdId} {f : FilePtr} {r : Request} {w v w₂ w₃ : World}
    (hh : h < N) (hw : w.Settled N) (hsv : v.Settled N) (hs₂ : w₂.Settled N) (hs₃ : w₃.Settled N)
    (hr : r ∈ w.requests h) (hv : Loan h f r (w.device r.transfer) w₂ v)
    (hids : w.SameIds v) (hsame : v.transfers r.transfer = w.transfers r.transfer)
    (hw₃ : w₃ = w₂.setBackend h { w₂.backends h with
      active := (v.backends h).active, pending := r :: (w₂.backends h).pending }) :
    FetchUndone h f r ((w.transfers r.transfer).message (w.objects (w.device r.transfer)).id)
      w v w₃ := by
  have halike := hv.alike_restored hw₃
  have hb₃ : w₃.backends h = { w₂.backends h with
      active := (v.backends h).active, pending := r :: (w₂.backends h).pending } := by
    rw [hw₃]
    exact Function.update_self _ _ _
  have hmemv := List.mem_append_left (v.backends h).active hv.pending_mem
  refine ⟨fun d => ?_, ?_, ?_, fun h' hne => ?_, halike,
    ⟨?_, ((hsv.serving.bound h hh).pending r hv.pending_mem).1⟩, ?_, ?_, fun nonblock' => ?_⟩
  · simp only [World.pendingFor, hb₃, halike.device]
    refine hv.backend.pending.filter_cons fun x hx hr => ?_
    have hfor : v.device r.transfer = d := of_decide_eq_true hr
    exact decide_eq_false fun heq => hx (heq.trans (hfor.symm.trans hv.device))
  · rw [hb₃]
  · rw [hb₃]
    exact hv.backend.bindings
  · rw [hw₃, World.setBackend]
    exact (Function.update_of_ne hne _ _).trans (hv.other h' hne)
  · rw [hb₃]
    exact List.mem_cons_self
  · rw [halike.transfers, hsame]
  · rw [halike.transfers]
    exact (hsv.serving.loaded h hh r hmemv).2.state
  · have hbinding : (⟨w.device r.transfer, f⟩ : Binding) ∈ (w₃.backends h).bindings := by
      rw [hb₃]
      have hholder := hv.holder hs₂.serving hh
      rwa [← hv.bindings] at hholder
    have hfind : w₃.findPendingDeviceLocked h (w.device r.transfer) = some r := by
      have hdevice : w₃.requestDevice r = w.device r.transfer := by
        rw [← hv.device, ← halike.device]
        rfl
      rw [World.findPendingDeviceLocked, hb₃]
      exact List.find?_cons_of_pos (decide_eq_true hdevice)
    rw [World.backendFetch_ok (hs₃.serving.bound h hh) hbinding hfind, halike.transfers,
      hsame, halike.device, hv.device, halike.objects,
      hids.2 _ (World.device_lt hw.steady hh hr)]

/-- **Rollback undoes fetch**, whatever was done for other requests and by other files in
between; it finds nothing that the file does not have on loan.  Ids are unique among the
first 2^64 - 1 transfers. -/
theorem rollback_undoes_fetch {N : ℕ} {w : World} (hw : (exchanges N).Reachable w) {h : HcdId}
    (hh : h < N) (f : FilePtr) :
    (∀ nonblock w₁ message, w.backendFetch h f nonblock = (w₁, .ok message) →
      ∃ r ∈ (w.backends h).pending,
        message = (w.transfers r.transfer).message (w.objects (w.device r.transfer)).id ∧
        ∀ l w₂, Run (exchanges N) w₁ l w₂ →
          (∀ x ∈ l, x.2.Spares h f message.transferId r.urb) → w₂.nextTransfer < 2 ^ 64 →
          ∃ k v w₃, Run (exchanges N) w k v ∧ k.map Prod.snd = l.map Prod.snd ∧
            w₂.backendFetchRollback h f message.transferId = (w₃, .ok ()) ∧
            FetchUndone h f r message w v w₃) ∧
    ∀ id, (∀ r ∈ (w.backends h).active, r.owner = some f → (w.transfers r.transfer).id ≠ id) →
      w.backendFetchRollback h f id = (w, .error (if id = 0 then .EINVAL else .ENOENT)) := by
  refine ⟨fun nonblock w₁ message hfetch => ?_, fun id hid => World.backendFetchRollback_error hid⟩
  have hs := World.settled_of_reachable hw
  have hw₁ := hw.step (exchanges_fetch hh hfetch)
  obtain ⟨r, rfl, hloan⟩ := Loan.of_fetch hs hh hfetch
  have hmem := List.mem_append_left (w.backends h).active hloan.pending_mem
  refine ⟨r, hloan.pending_mem, rfl, fun l w₂ hrun hspares hsmall => ?_⟩
  obtain ⟨k, v, hrun', hk, hv⟩ := hloan.run hh hw₁ hw hrun hspares
  have hs₂ := World.settled_of_reachable (hw₁.run hrun)
  have hsv := World.settled_of_reachable (hw.run hrun')
  obtain ⟨w₃, hrolled, hw₃⟩ := hv.rollback hs₂ hsv hh hsmall
  -- in the run without the fetch nothing was done with the transfer
  have hsame := transfer_of_exchanges hw hrun' hh hmem
    (List.mem_append_left (v.backends h).active hv.pending_mem)
  have hid : (w₂.transfers r.transfer).id = (w.transfers r.transfer).id := by
    rw [hv.alike.transfers, hsame]
  rw [hid] at hrolled
  have hs₃ : w₃.Settled N := by
    have hrollback := hs₂.exchange (x := .rollback h f (w.transfers r.transfer).id) hh
    rw [World.exchange, hrolled] at hrollback
    exact hrollback
  exact ⟨k, v, w₃, hrun', hk, hrolled,
    .of_loan hh hs hsv hs₂ hs₃ hmem hv (World.kept_of_exchanges hw hrun').1 hsame hw₃⟩

/-- File 5 fetches the one pending request, a second URB is submitted, and the fetch is
rolled back. -/
theorem rollback_undoes_fetch_example : ∃ w w₁ message, (exchanges 1).Reachable w ∧
    w.backendFetch 0 5 true = (w₁, .ok message) ∧
    ∃ k v w₃, Run (exchanges 1) w k v ∧
      k.map Prod.snd = [.call (.urbEnqueue 0 8 .bulkOut {})] ∧
      (w₁.call (.urbEnqueue 0 8 .bulkOut {})).backendFetchRollback 0 5 message.transferId =
        (w₃, .ok ()) ∧
      FetchUndone 0 5 ⟨7, 0, none⟩ message w v w₃ := by
  obtain ⟨w, hw, hp⟩ := exists_reachable_of_exec (I := World.Initialised)
    (f := fun w x => if Exchange.Possible 1 w x then some (w.exchange x) else none)
    (s := World.oneHub)
    (l := (Call.plugIn 5 ++ [Call.urbEnqueue 0 7 .bulkOut {}]).map Exchange.call)
    (p := fun w => (w.backends 0).pending = [⟨7, 0, none⟩] ∧
      (w.backendFetch 0 5 true).2.toOption.isSome = true ∧
      ¬ (w.backendFetch 0 5 true).1.InFlight 1 8 ∧
      ((w.backendFetch 0 5 true).1.call (.urbEnqueue 0 8 .bulkOut {})).nextTransfer < 2 ^ 64)
    World.oneHub_initialised (by decide)
  obtain ⟨hpending, hok, hfree, hsmall⟩ := of_decide_eq_true hp
  rcases hfetch : w.backendFetch 0 5 true with ⟨w₁, e | message⟩
  · rw [hfetch] at hok
    simp [Except.toOption] at hok
  rw [hfetch] at hfree hsmall
  have hstep : (exchanges 1).step w₁ (.call (.urbEnqueue 0 8 .bulkOut {}))
      (w₁.call (.urbEnqueue 0 8 .bulkOut {})) := by
    have hpossible : Exchange.Possible 1 w₁ (.call (.urbEnqueue 0 8 .bulkOut {})) :=
      ⟨Nat.one_pos, hfree⟩
    exact if_pos hpossible
  obtain ⟨r, hr, -, hrolled⟩ := (rollback_undoes_fetch hw Nat.one_pos 5).1 true w₁ message hfetch
  obtain ⟨k, v, w₃, hrun, hk, hrollback, hundone⟩ := hrolled _ _ (Run.single hstep)
    (fun x hx => by rw [List.mem_singleton.1 hx]; trivial) hsmall
  rw [hpending] at hr
  obtain rfl := List.mem_singleton.1 hr
  exact ⟨w, w₁, message, hw, hfetch, k, v, w₃, hrun, hk, hrollback, hundone⟩

end VirtUsb
