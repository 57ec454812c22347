/-
# A request on loan

A file that fetched a request has it on loan until it completes it or the fetch is rolled
back.  `Loan` compares the world with the one in which the request was never fetched: they
are alike, and the lists of the one backend differ in the place of this request only.  What
other files do, and what is done for other requests, keeps it so: every section looks for
entries that this request is not, and adds entries at the ends of the lists.
-/

import VirtUsb.Lib.Insertion
import VirtUsb.Serving.Alike

namespace VirtUsb

open Sequence

/-- The request as the file that fetched it has it. -/
def Request.leased (r : Request) (f : FilePtr) : Request := { r with owner := some f }

/-- In the first backend the request `r` for device `d` is on loan to file `f`, in the second
it is pending, the first of its device. -/
structure Backend.Loan (f : FilePtr) (r : Request) (d : DevicePtr)
    (device : TransferPtr → DevicePtr) (b b' : Backend) : Prop where
  bindings : b.bindings = b'.bindings
  stopping : b.stopping = b'.stopping
  pending : Inserts (fun x => device x.transfer ≠ d) r b.pending b'.pending
  active : Inserts (· ≠ r.leased f) (r.leased f) b'.active b.active

namespace Backend.Loan

variable {f : FilePtr} {r x y : Request} {d : DevicePtr} {device : TransferPtr → DevicePtr}
  {b b' : Backend}

/-- The same new bindings on both sides. -/
theorem setBindings (hb : Backend.Loan f r d device b b') (bindings : List Binding) :
    Backend.Loan f r d device { b with bindings := bindings } { b' with bindings := bindings } :=
  ⟨rfl, hb.stopping, hb.pending, hb.active⟩

/-- A submission appends behind everything. -/
theorem submitted (hb : Backend.Loan f r d device b b') (x : Request) :
    Backend.Loan f r d device { b with pending := b.pending ++ [x] }
      { b' with pending := b'.pending ++ [x] } :=
  ⟨hb.bindings, hb.stopping, hb.pending.append [x], hb.active⟩

/-- A fetch of another request takes the same one on both sides. -/
theorem taken (hb : Backend.Loan f r d device b b') (hx : x ≠ r) (y : Request) :
    Backend.Loan f r d device
      { b with pending := b.pending.erase x, active := b.active ++ [y] }
      { b' with pending := b'.pending.erase x, active := b'.active ++ [y] } :=
  ⟨hb.bindings, hb.stopping, hb.pending.erase hx, hb.active.append [y]⟩

/-- A completion of another request. -/
theorem completed (hb : Backend.Loan f r d device b b') (hx : x ≠ r.leased f) :
    Backend.Loan f r d device { b with active := b.active.erase x }
      { b' with active := b'.active.erase x } :=
  ⟨hb.bindings, hb.stopping, hb.pending, hb.active.erase hx⟩

/-- A rollback of a request for another device goes in front of the place of `r`. -/
theorem restored (hb : Backend.Loan f r d device b b') (hx : x ≠ r.leased f)
    (hy : device y.transfer ≠ d) :
    Backend.Loan f r d device
      { b with active := b.active.erase x, pending := y :: b.pending }
      { b' with active := b'.active.erase x, pending := y :: b'.pending } :=
  ⟨hb.bindings, hb.stopping, hb.pending.cons hy, hb.active.erase hx⟩

/-- Another request is taken off its list. -/
theorem listDel (hb : Backend.Loan f r d device b b') (hx : x ≠ r) (hx' : x ≠ r.leased f) :
    Backend.Loan f r d device (b.listDel x) (b'.listDel x) := by
  rw [Backend.listDel, Backend.listDel]
  by_cases hmem : x ∈ b.pending
  · rw [if_pos hmem, if_pos ((hb.pending.mem_of_ne hx).1 hmem)]
    exact ⟨hb.bindings, hb.stopping, hb.pending.erase hx, hb.active⟩
  · rw [if_neg hmem, if_neg fun hmem' => hmem ((hb.pending.mem_of_ne hx).2 hmem')]
    exact hb.completed hx'

/-- The devices matter of the requests in the list only. -/
theorem congr (hb : Backend.Loan f r d device b b') {device' : TransferPtr → DevicePtr}
    (hd : ∀ x ∈ b'.pending, device' x.transfer = device x.transfer) :
    Backend.Loan f r d device' b b' := by
  obtain ⟨hbindings, hstopping, ⟨pre, post, hpost, hpre, hfirst⟩, hactive⟩ := hb
  refine ⟨hbindings, hstopping, ⟨pre, post, hpost, hpre, fun x hx => ?_⟩, hactive⟩
  have hsame := hd x (hpre ▸ List.mem_append_left _ hx)
  exact fun heq => hfirst x hx (hsame.symm.trans heq)

end Backend.Loan

/-- In the first world file `f` has the request `r` for device `d` on loan; the second is the
world in which it did not fetch it. -/
structure Loan (h : HcdId) (f : FilePtr) (r : Request) (d : DevicePtr) (v v' : World) : Prop where
  alike : Alike v v'
  other : ∀ h', h' ≠ h → v.backends h' = v'.backends h'
  backend : Backend.Loan f r d v'.device (v.backends h) (v'.backends h)
  device : v'.device r.transfer = d

/-- The section of `virtusb_backend_cancel` with the check of the USB core written out. -/
theorem World.cancelLocked_eq (w : World) (h : HcdId) (u : UrbPtr) : w.cancelLocked h u =
    if !(w.urbs u).linked then (w, .error .EIDRM)
    else if (w.urbs u).unlinked then (w, .error .EBUSY)
    else
      match (w.backends h).findUrbLocked u with
      | none => (w.setUrb u { w.urbs u with unlinked := true }, .error .EIDRM)
      | some request =>
          (((w.setUrb u { w.urbs u with unlinked := true }).setBackend h
            ((w.backends h).listDel request)).usbHcdUnlinkUrbFromEp u, .ok request) := by
  rw [cancelLocked, usbHcdCheckUnlinkUrb]
  by_cases hl : (w.urbs u).linked = true
  · by_cases hu : (w.urbs u).unlinked = true
    · simp only [hl, hu, Bool.not_true, Bool.false_eq_true, if_false, if_true]
    · simp only [hl, hu, Bool.not_true, Bool.false_eq_true, if_false]
      rfl
  · simp only [hl, Bool.not_false, if_true]

namespace Loan

variable {h h₀ : HcdId} {f g : FilePtr} {r : Request} {d : DevicePtr} {v v' w w' : World}
  {α : Type}

/-! ### What is the same in both worlds -/

/-- The bindings are the same. -/
theorem bindings (hv : Loan h f r d v v') (h₀ : HcdId) :
    (v.backends h₀).bindings = (v'.backends h₀).bindings := by
  rcases eq_or_ne h₀ h with rfl | hne
  · exact hv.backend.bindings
  · rw [hv.other h₀ hne]

/-- A backend that is stopping is so on both sides. -/
theorem stopping (hv : Loan h f r d v v') (h₀ : HcdId) :
    (v.backends h₀).stopping = (v'.backends h₀).stopping := by
  rcases eq_or_ne h₀ h with rfl | hne
  · exact hv.backend.stopping
  · rw [hv.other h₀ hne]

/-- The search by owner finds the same binding. -/
theorem findOwnerLocked (hv : Loan h f r d v v') (h₀ : HcdId) (g : FilePtr) :
    (v.backends h₀).findOwnerLocked g = (v'.backends h₀).findOwnerLocked g := by
  rw [Backend.findOwnerLocked, hv.bindings, Backend.findOwnerLocked]

/-- The search by device finds the same binding. -/
theorem findDeviceLocked (hv : Loan h f r d v v') (h₀ : HcdId) (e : DevicePtr) :
    (v.backends h₀).findDeviceLocked e = (v'.backends h₀).findDeviceLocked e := by
  rw [Backend.findDeviceLocked, hv.bindings, Backend.findDeviceLocked]

/-- A search of `pending` that is not for `r` finds the same request. -/
theorem find_pending (hv : Loan h f r d v v') (h₀ : HcdId) {p : Request → Bool}
    (hp : h₀ = h → p r = false) :
    (v.backends h₀).pending.find? p = (v'.backends h₀).pending.find? p := by
  rcases eq_or_ne h₀ h with rfl | hne
  · exact hv.backend.pending.find? (hp rfl)
  · rw [hv.other h₀ hne]

/-- A search of `active` that is not for `r` finds the same request. -/
theorem find_active (hv : Loan h f r d v v') (h₀ : HcdId) {p : Request → Bool}
    (hp : h₀ = h → p (r.leased f) = false) :
    (v.backends h₀).active.find? p = (v'.backends h₀).active.find? p := by
  rcases eq_or_ne h₀ h with rfl | hne
  · exact (hv.backend.active.find? (hp rfl)).symm
  · rw [hv.other h₀ hne]

/-- The search for another device finds the same request. -/
theorem findPendingDeviceLocked (hv : Loan h f r d v v') (h₀ : HcdId) {e : DevicePtr}
    (he : h₀ = h → e ≠ d) :
    v.findPendingDeviceLocked h₀ e = v'.findPendingDeviceLocked h₀ e := by
  have hdevice : v.requestDevice = v'.requestDevice := by
    funext x
    rw [World.requestDevice, World.requestDevice, hv.alike.transfers]
  rw [World.findPendingDeviceLocked, World.findPendingDeviceLocked, hdevice]
  refine hv.find_pending h₀ fun hh => decide_eq_false fun heq => he hh ?_
  rw [← heq]
  exact hv.device

/-- The search for another id, or of another file, finds the same request. -/
theorem findIdLocked (hv : Loan h f r d v v') (h₀ : HcdId) {id : BitVec 64}
    (hg : h₀ = h → g = f → (v'.transfers r.transfer).id ≠ id) :
    v.findIdLocked h₀ g id = v'.findIdLocked h₀ g id := by
  rw [World.findIdLocked, World.findIdLocked, hv.alike.transfers]
  refine hv.find_active h₀ fun hh => decide_eq_false fun heq => ?_
  exact hg hh (Option.some.inj heq.1).symm heq.2

/-- A request on loan is in one of the lists on either side, so the drains may take as many passes.
-/
theorem requests_length (hv : Loan h f r d v v') (h₀ : HcdId) :
    v.drainFuel h₀ = v'.drainFuel h₀ := by
  rw [World.drainFuel, World.drainFuel]
  rcases eq_or_ne h₀ h with rfl | hne
  · have hpending := hv.backend.pending.length_eq
    have hactive := hv.backend.active.length_eq
    omega
  · rw [hv.other h₀ hne]

/-! ### Steps of both worlds -/

/-- What is done aside of the queues. -/
theorem aside (hv : Loan h f r d v v') (hw : Alike w w') (hb : w.backends = v.backends)
    (hb' : w'.backends = v'.backends) (hd : w'.device = v'.device) : Loan h f r d w w' := by
  refine ⟨hw, fun h' hne => ?_, ?_, ?_⟩
  · rw [hb, hb']
    exact hv.other h' hne
  · rw [hb, hb', hd]
    exact hv.backend
  · rw [hd]
    exact hv.device

/-- Quiet parts that leave worlds alike keep the loan. -/
theorem quiet (hv : Loan h f r d v v') (hw : Alike w w') {T T' : Set TransferPtr}
    {given given' : List Giveback} (hq : Quiet T given v w) (hq' : Quiet T' given' v' w') :
    Loan h f r d w w' :=
  hv.aside hw hq.backends hq'.backends hq'.device

/-- The same is done to a backend. -/
theorem update (hv : Loan h f r d v v') (hw : Alike w w') (h₀ : HcdId) (T : Backend → Backend)
    (hb : w.backends = Function.update v.backends h₀ (T (v.backends h₀)))
    (hb' : w'.backends = Function.update v'.backends h₀ (T (v'.backends h₀)))
    (hd : w'.device = v'.device)
    (hT : h₀ = h → ∀ {b b'}, Backend.Loan f r d v'.device b b' →
      Backend.Loan f r d v'.device (T b) (T b')) : Loan h f r d w w' := by
  refine ⟨hw, fun h' hne => ?_, ?_, hd ▸ hv.device⟩
  · rw [hb, hb']
    rcases eq_or_ne h' h₀ with rfl | hne'
    · rw [Function.update_self, Function.update_self, hv.other _ hne]
    · rw [Function.update_of_ne hne', Function.update_of_ne hne']
      exact hv.other h' hne
  · rw [hb, hb', hd]
    rcases eq_or_ne h h₀ with rfl | hne
    · rw [Function.update_self, Function.update_self]
      exact hT rfl hv.backend
    · rw [Function.update_of_ne hne, Function.update_of_ne hne]
      exact hv.backend

/-! ### The sections of the backend -/

/-- The section of `virtusb_backend_register`. -/
theorem registerLocked (hv : Loan h f r d v v') (h₀ : HcdId) (g : FilePtr) (e : DevicePtr) :
    Agree (Loan h f r d) (v.registerLocked h₀ g e) (v'.registerLocked h₀ g e) := by
  refine .ite_of_iff (by rw [hv.stopping]) (fun _ => .mk _ hv) fun _ => .ite_of_iff
    (by rw [hv.findOwnerLocked, hv.findDeviceLocked]) (fun _ => .mk _ hv) fun _ => .mk _ ?_
  exact hv.update (hv.alike.setBackend _ _ _ _) h₀
    (fun b => { b with bindings := b.bindings ++ [⟨e, g⟩] }) rfl rfl rfl fun _ _ _ hb => by
      rw [hb.bindings]
      exact hb.setBindings _

/-- The section of `virtusb_backend_submit`. -/
theorem submitLocked (hv : Loan h f r d v v') (h₀ : HcdId) (u : UrbPtr) (t : TransferPtr)
    (link : Except Errno Unit) :
    Agree (Loan h f r d) (v.submitLocked h₀ u t link) (v'.submitLocked h₀ u t link) := by
  refine .ite_of_iff (by rw [hv.stopping]) (fun _ => .mk _ hv) fun _ => .ite_of_iff
    (by rw [hv.findDeviceLocked, hv.alike.transfers]) (fun _ => .mk _ hv) fun _ => ?_
  cases link with
  | error e => exact .mk _ hv
  | ok _ =>
      have hlinked := (hv.alike.usbHcdLinkUrbToEp u (.ok ())).fst
      exact .mk _ (hv.update (hlinked.setBackend h₀ h₀ _ _) h₀
        (fun b => { b with pending := b.pending ++ [{ urb := u, transfer := t }] }) rfl rfl rfl
          fun _ _ _ hb => hb.submitted _)

/-- The section of `virtusb_backend_cancel`, for another URB. -/
theorem cancelLocked (hv : Loan h f r d v v') (h₀ : HcdId) {u : UrbPtr} (hu : u ≠ r.urb) :
    Agree (Loan h f r d) (v.cancelLocked h₀ u) (v'.cancelLocked h₀ u) := by
  have hfind : (v.backends h₀).findUrbLocked u = (v'.backends h₀).findUrbLocked u := by
    rw [Backend.findUrbLocked, Backend.findUrbLocked,
      hv.find_pending h₀ fun _ => decide_eq_false hu.symm,
      hv.find_active h₀ fun _ => decide_eq_false hu.symm]
  have hset : Alike (v.setUrb u { v.urbs u with unlinked := true })
      (v'.setUrb u { v'.urbs u with unlinked := true }) := by
    rw [hv.alike.urbs]
    exact hv.alike.setUrb u _
  rw [World.cancelLocked_eq, World.cancelLocked_eq, hfind, hv.alike.urbs]
  refine .ite (fun _ => .mk _ hv) fun _ => .ite (fun _ => .mk _ hv) fun _ => ?_
  rcases hx : (v'.backends h₀).findUrbLocked u with _ | x
  · rw [hv.alike.urbs] at hset
    exact .mk _ (hv.quiet hset (Quiet.setUrb (T := ∅) _ (by rw [hv.alike.urbs]))
      (Quiet.setUrb (T := ∅) _ rfl))
  obtain ⟨-, hurb⟩ := World.findUrbLocked_some hx
  rw [hv.alike.urbs] at hset
  refine .mk _ (hv.update ((hset.setBackend h₀ h₀ _ _).usbHcdUnlinkUrbFromEp u) h₀
    (fun b => b.listDel x) rfl rfl rfl fun _ _ _ hb => hb.listDel ?_ ?_)
  · rintro rfl
    exact hu hurb.symm
  · rintro rfl
    exact hu hurb.symm

/-- The section of `virtusb_backend_fetch`, for another device. -/
theorem fetchLocked (hv : Loan h f r d v v') (h₀ : HcdId) {g : FilePtr}
    (hg : ∀ binding, h₀ = h → (v'.backends h₀).findOwnerLocked g = some binding →
      binding.device ≠ d) :
    Agree (Loan h f r d) (v.fetchLocked h₀ g) (v'.fetchLocked h₀ g) := by
  simp only [World.fetchLocked, hv.findOwnerLocked h₀ g]
  rcases hb : (v'.backends h₀).findOwnerLocked g with _ | binding
  · exact .mk _ hv
  have hne : h₀ = h → binding.device ≠ d := fun hh => hg binding hh hb
  simp only [hv.findPendingDeviceLocked h₀ hne]
  rcases hx : v'.findPendingDeviceLocked h₀ binding.device with _ | x
  · simp only [hv.stopping h₀]
    exact .ite (fun _ => .mk _ hv) fun _ => .mk _ hv
  refine .mk _ (Loan.quiet ?_ ((hv.alike.setBackend _ _ _ _).transferGet _)
    (Quiet.transferGet (T := ∅) _ _) (Quiet.transferGet (T := ∅) _ _))
  refine hv.update (hv.alike.setBackend _ _ _ _) h₀
    (fun b => { b with
      pending := b.pending.erase x
      active := b.active ++ [{ x with owner := some g }] })
    rfl rfl rfl fun hh _ _ hb => hb.taken ?_ _
  rintro rfl
  exact hne hh ((World.findPendingDeviceLocked_some hx).2.symm.trans hv.device)

/-- The section of `virtusb_backend_fetch_rollback`, by another file. -/
theorem rollbackLocked (hv : Loan h f r d v v') (h₀ : HcdId) {g : FilePtr} (id : BitVec 64)
    (hg : h₀ = h → g ≠ f)
    (hd : ∀ x ∈ (v'.backends h₀).active, h₀ = h → x.owner = some g →
      v'.device x.transfer ≠ d) :
    Agree (Loan h f r d) (v.rollbackLocked h₀ g id) (v'.rollbackLocked h₀ g id) := by
  simp only [World.rollbackLocked, hv.findIdLocked h₀ fun hh heq => absurd heq (hg hh)]
  rcases hx : v'.findIdLocked h₀ g id with _ | x
  · exact .mk _ hv
  obtain ⟨hmem, howner, -⟩ := World.findIdLocked_some hx
  refine .mk _ (hv.update (hv.alike.setBackend _ _ _ _) h₀
    (fun b => { b with
      active := b.active.erase x
      pending := { x with owner := none } :: b.pending }) rfl rfl rfl
    fun hh _ _ hb => hb.restored ?_ (hd x hmem hh howner))
  rintro rfl
  exact hg hh (Option.some.inj howner).symm

/-- The section of `virtusb_backend_complete`, for another id or by another file. -/
theorem completeLocked (hv : Loan h f r d v v') (h₀ : HcdId) {g : FilePtr} {id : BitVec 64}
    (hg : h₀ = h → g = f → (v'.transfers r.transfer).id ≠ id) :
    Agree (Loan h f r d) (v.completeLocked h₀ g id) (v'.completeLocked h₀ g id) := by
  simp only [World.completeLocked, hv.findIdLocked h₀ hg]
  rcases hx : v'.findIdLocked h₀ g id with _ | x
  · exact .mk _ hv
  obtain ⟨hmem, howner, hid⟩ := World.findIdLocked_some hx
  refine .mk _ (hv.update ((hv.alike.setBackend h₀ h₀ _ _).usbHcdUnlinkUrbFromEp x.urb) h₀
    (fun b => { b with active := b.active.erase x }) rfl rfl rfl fun hh _ _ hb => hb.completed ?_)
  rintro rfl
  exact hg hh (Option.some.inj howner).symm hid

/-- The first section of `virtusb_backend_release_owner`. -/
theorem releaseUnbindLocked (hv : Loan h f r d v v') (h₀ : HcdId) (g : FilePtr) :
    Agree (Loan h f r d) (v.releaseUnbindLocked h₀ g) (v'.releaseUnbindLocked h₀ g) := by
  simp only [World.releaseUnbindLocked, hv.findOwnerLocked h₀ g]
  rcases (v'.backends h₀).findOwnerLocked g with _ | binding
  · exact .mk _ hv
  refine .mk _ (hv.update (hv.alike.setBackend _ _ _ _) h₀
    (fun b => { b with bindings := b.bindings.erase binding }) rfl rfl rfl fun _ _ _ hb => ?_)
  rw [hb.bindings]
  exact hb.setBindings _

/-- A request that is taken out of a list by a drain. -/
theorem drained (hv : Loan h f r d v v') (h₀ : HcdId) {x : Request}
    (hx : h₀ = h → x ≠ r ∧ x ≠ r.leased f) :
    Loan h f r d
      ((v.setBackend h₀ ((v.backends h₀).listDel x)).usbHcdUnlinkUrbFromEp x.urb)
      ((v'.setBackend h₀ ((v'.backends h₀).listDel x)).usbHcdUnlinkUrbFromEp x.urb) :=
  hv.update ((hv.alike.setBackend h₀ h₀ _ _).usbHcdUnlinkUrbFromEp x.urb) h₀
    (fun b => b.listDel x) rfl rfl rfl fun hh _ _ hb => hb.listDel (hx hh).1 (hx hh).2

/-- A pass of its drain, for another device. -/
theorem releaseDrainLocked (hv : Loan h f r d v v') (h₀ : HcdId) {g : FilePtr} {e : DevicePtr}
    (he : h₀ = h → e ≠ d) :
    Agree (Loan h f r d) (v.releaseDrainLocked h₀ g e) (v'.releaseDrainLocked h₀ g e) := by
  have hdevice : v.requestDevice = v'.requestDevice := by
    funext x
    rw [World.requestDevice, World.requestDevice, hv.alike.transfers]
  have hpick : v.releasePick h₀ g e = v'.releasePick h₀ g e := by
    rw [World.releasePick, World.releasePick, hv.findPendingDeviceLocked h₀ he, hdevice,
      hv.find_active h₀ fun hh => decide_eq_false fun heq => he hh (heq.1.symm.trans hv.device)]
  rw [World.releaseDrainLocked, World.releaseDrainLocked, hpick]
  rcases hx : v'.releasePick h₀ g e with _ | x
  · exact .mk _ hv
  refine .mk _ (hv.drained h₀ fun hh => ?_)
  have hfor : v'.requestDevice x = e := by
    rcases Option.or_eq_some_iff.1 hx with hx | ⟨-, hx⟩
    · exact (World.findPendingDeviceLocked_some hx).2
    · have hleased := List.find?_some hx
      exact (of_decide_eq_true hleased).1
  constructor
  · rintro rfl
    exact he hh (hfor.symm.trans hv.device)
  · rintro rfl
    exact he hh (hfor.symm.trans hv.device)

/-- A pass of the drain of `virtusb_backend_stop`, of another controller. -/
theorem stopDrainLocked (hv : Loan h f r d v v') {h₀ : HcdId} (hne : h₀ ≠ h) :
    Agree (Loan h f r d) (v.stopDrainLocked h₀) (v'.stopDrainLocked h₀) := by
  have hupdate : ∀ (b : Backend) (u : UrbPtr), Loan h f r d
      ((v.setBackend h₀ b).usbHcdUnlinkUrbFromEp u)
      ((v'.setBackend h₀ b).usbHcdUnlinkUrbFromEp u) := fun b u =>
    hv.update ((hv.alike.setBackend h₀ h₀ b b).usbHcdUnlinkUrbFromEp u) h₀ (fun _ => b) rfl rfl
      rfl fun hh => absurd hh hne
  simp only [World.stopDrainLocked, hv.other h₀ hne]
  split
  · exact .mk _ (hupdate _ _)
  · exact .mk _ (hupdate _ _)
  · exact .mk _ hv

/-- A pass of its second loop, of another controller. -/
theorem stopUnbindLocked (hv : Loan h f r d v v') {h₀ : HcdId} (hne : h₀ ≠ h) :
    Agree (Loan h f r d) (v.stopUnbindLocked h₀) (v'.stopUnbindLocked h₀) := by
  simp only [World.stopUnbindLocked, hv.other h₀ hne]
  split
  · exact .mk _ (hv.update (hv.alike.setBackend h₀ h₀ _ _) h₀ (fun _ => _) rfl rfl rfl
      fun hh => absurd hh hne)
  · exact .mk _ hv

/-! ### The loops -/

/-- A drain keeps the loan if its section does, by induction on the passes. -/
theorem drain {take : World → World × Option Request}
    (htake : ∀ {v v'}, Loan h f r d v v' → Agree (Loan h f r d) (take v) (take v')) (fuel : ℕ) :
    ∀ {v v' : World}, Loan h f r d v v' →
      Loan h f r d (World.drain take fuel v) (World.drain take fuel v') := by
  induction fuel with
  | zero => exact fun hv => hv
  | succ fuel ih =>
      intro v v' hv
      obtain ⟨w, w', _ | x, hw, hx, hx'⟩ := (htake hv).results
      · simp only [World.drain, hx, hx']
        exact hw
      · simp only [World.drain, hx, hx']
        exact ih (hw.quiet (hw.alike.drainTail x)
          (Quiet.drainTail w (T := {x.transfer}) rfl) (Quiet.drainTail w' (T := {x.transfer}) rfl))

/-- `virtusb_object_put` looks at no queue. -/
theorem objectPut (hv : Loan h f r d v v') (e : DevicePtr) :
    Loan h f r d (v.objectPut e) (v'.objectPut e) :=
  hv.quiet (hv.alike.objectPut e) (Quiet.objectPut (T := ∅) v e) (Quiet.objectPut (T := ∅) v' e)

/-- `virtusb_transfer_put` looks at no queue. -/
theorem transferPut (hv : Loan h f r d v v') (t : TransferPtr) :
    Loan h f r d (v.transferPut t) (v'.transferPut t) :=
  hv.quiet (hv.alike.transferPut t) (Quiet.transferPut (T := ∅) v t)
    (Quiet.transferPut (T := ∅) v' t)

/-- The second loop of a stop, by induction on its passes. -/
theorem stopUnbind {h₀ : HcdId} (hne : h₀ ≠ h) (fuel : ℕ) :
    ∀ {v v' : World}, Loan h f r d v v' →
      Loan h f r d (World.stopUnbind h₀ fuel v) (World.stopUnbind h₀ fuel v') := by
  induction fuel with
  | zero => exact fun hv => hv
  | succ fuel ih =>
      intro v v' hv
      obtain ⟨w, w', _ | binding, hw, hx, hx'⟩ := (hv.stopUnbindLocked hne).results
      · simp only [World.stopUnbind, hx, hx']
        exact hw
      · simp only [World.stopUnbind, hx, hx']
        exact ih (hw.objectPut binding.device)

/-! ### The functions of the backend -/

/-- `virtusb_backend_register`. -/
theorem backendRegister (hv : Loan h f r d v v') (h₀ : HcdId) (g : FilePtr) (e : DevicePtr)
    (env : Env) :
    Agree (Loan h f r d) (v.backendRegister h₀ g e env) (v'.backendRegister h₀ g e env) := by
  have hprepared : Agree (Loan h f r d) (v.registerPrepare e env) (v'.registerPrepare e env) := by
    refine .ite (fun _ => .mk _ hv) fun _ => .mk _ ?_
    exact hv.quiet (hv.alike.objectGet e) (Quiet.setObject (T := ∅) v e _)
      (Quiet.setObject (T := ∅) v' e _)
  rw [World.backendRegister, World.backendRegister]
  obtain ⟨w, w', err | _, hw, hx, hx'⟩ := hprepared.results
  · simp only [hx, hx']
    exact .mk _ hw
  simp only [hx, hx']
  obtain ⟨w, w', err | _, hw, hx, hx'⟩ := (hw.registerLocked h₀ g e).results
  · simp only [hx, hx']
    exact .mk _ (hw.objectPut e)
  · simp only [hx, hx']
    exact .mk _ hw

/-- `virtusb_backend_submit`. -/
theorem backendSubmit (hv : Loan h f r d v v') (h₀ : HcdId) (u : UrbPtr) (t : TransferPtr)
    (env : Env) :
    Agree (Loan h f r d) (v.backendSubmit h₀ u t env) (v'.backendSubmit h₀ u t env) := by
  have hprepared := hv.alike.submitPrepare t env
  have hq := Quiet.submitPrepare v (T := {t}) rfl env
  have hq' := Quiet.submitPrepare v' (T := {t}) rfl env
  rw [World.backendSubmit, World.backendSubmit]
  obtain ⟨w, w', err | _, hw, hx, hx'⟩ := hprepared.results
  · rw [hx] at hq
    rw [hx'] at hq'
    simp only [hx, hx']
    exact .mk _ (hv.quiet hw hq hq')
  rw [hx] at hq
  rw [hx'] at hq'
  simp only [hx, hx']
  obtain ⟨w, w', err | _, hw, hx, hx'⟩ :=
    ((hv.quiet hw hq hq').submitLocked h₀ u t env.link).results
  · simp only [hx, hx']
    exact .mk _ (hw.quiet (hw.alike.submitFailed t err) (Quiet.submitFailed w (T := {t}) rfl err)
      (Quiet.submitFailed w' (T := {t}) rfl err))
  · simp only [hx, hx']
    exact .mk _ hw

/-- `virtusb_backend_cancel`, for another URB. -/
theorem backendCancel (hv : Loan h f r d v v') (h₀ : HcdId) {u : UrbPtr} (hu : u ≠ r.urb)
    (status : ℤ) :
    Agree (Loan h f r d) (v.backendCancel h₀ u status) (v'.backendCancel h₀ u status) := by
  rw [World.backendCancel, World.backendCancel]
  obtain ⟨w, w', err | x, hw, hx, hx'⟩ := (hv.cancelLocked h₀ hu).results
  · simp only [hx, hx']
    exact .mk _ hw
  · simp only [hx, hx']
    exact .mk _ (hw.quiet (hw.alike.cancelTail x status)
      (Quiet.cancelTail w (T := {x.transfer}) rfl status)
      (Quiet.cancelTail w' (T := {x.transfer}) rfl status))

/-- `virtusb_backend_fetch`, for another device. -/
theorem backendFetch (hv : Loan h f r d v v') (h₀ : HcdId) {g : FilePtr} (nonblock : Bool)
    (hg : ∀ binding, h₀ = h → (v'.backends h₀).findOwnerLocked g = some binding →
      binding.device ≠ d) :
    Agree (Loan h f r d) (v.backendFetch h₀ g nonblock) (v'.backendFetch h₀ g nonblock) := by
  rw [World.backendFetch, World.backendFetch]
  obtain ⟨w, w', x | err | _, hw, hx, hx'⟩ := (hv.fetchLocked h₀ hg).results
  · simp only [hx, hx']
    have htail := hw.alike.fetchTail x.transfer
    refine .of_eq ?_ (congrArg Except.ok htail.snd)
    exact hw.quiet htail.fst (Quiet.fetchTail (T := ∅) w _) (Quiet.fetchTail (T := ∅) w' _)
  · simp only [hx, hx']
    exact .mk _ hw
  · simp only [hx, hx']
    exact .mk _ hw

/-- `virtusb_backend_fetch_rollback`, by another file. -/
theorem backendFetchRollback (hv : Loan h f r d v v') (h₀ : HcdId) {g : FilePtr} (id : BitVec 64)
    (hg : h₀ = h → g ≠ f)
    (hd : ∀ x ∈ (v'.backends h₀).active, h₀ = h → x.owner = some g →
      v'.device x.transfer ≠ d) :
    Agree (Loan h f r d) (v.backendFetchRollback h₀ g id) (v'.backendFetchRollback h₀ g id) := by
  refine .ite (fun _ => .mk _ hv) fun _ => ?_
  obtain ⟨w, w', err | x, hw, hx, hx'⟩ := (hv.rollbackLocked h₀ id hg hd).results
  · simp only [hx, hx']
    exact .mk _ hw
  · simp only [hx, hx']
    exact .mk _ hw

/-- `virtusb_backend_complete`, for another id or by another file. -/
theorem backendComplete (hv : Loan h f r d v v') (h₀ : HcdId) {g : FilePtr}
    {completion : TransferCompleteRequest}
    (hg : h₀ = h → g = f → (v'.transfers r.transfer).id ≠ completion.transferId) :
    Agree (Loan h f r d) (v.backendComplete h₀ g completion)
      (v'.backendComplete h₀ g completion) := by
  refine .ite (fun _ => .mk _ hv) fun _ => ?_
  obtain ⟨w, w', err | x, hw, hx, hx'⟩ := (hv.completeLocked h₀ hg).results
  · simp only [hx, hx']
    exact .mk _ hw
  · simp only [hx, hx']
    have htail := hw.alike.completeTail x completion
    obtain ⟨status, hq⟩ := Quiet.completeTail w (T := {x.transfer}) rfl completion
    obtain ⟨status', hq'⟩ := Quiet.completeTail w' (T := {x.transfer}) rfl completion
    exact .of_eq (hw.quiet htail.fst hq hq') htail.snd

/-- `virtusb_backend_release_owner`, for the binding of another device. -/
theorem backendReleaseOwner (hv : Loan h f r d v v') (h₀ : HcdId) {g : FilePtr}
    (hg : ∀ binding, h₀ = h → (v'.backends h₀).findOwnerLocked g = some binding →
      binding.device ≠ d) :
    Loan h f r d (v.backendReleaseOwner h₀ g) (v'.backendReleaseOwner h₀ g) := by
  rw [World.backendReleaseOwner, World.backendReleaseOwner]
  obtain ⟨w, w', _ | binding, hw, hx, hx'⟩ := (hv.releaseUnbindLocked h₀ g).results
  · simp only [hx, hx']
    exact hw
  have hfound : (v'.backends h₀).findOwnerLocked g = some binding := by
    simp only [World.releaseUnbindLocked] at hx'
    rcases hb : (v'.backends h₀).findOwnerLocked g with _ | binding'
    · simp [hb] at hx'
    · simp only [hb, Prod.mk.injEq, Option.some.injEq] at hx'
      rw [hx'.2]
  simp only [hx, hx', hw.requests_length h₀]
  exact (drain (fun hv => hv.releaseDrainLocked h₀ fun hh => hg binding hh hfound) _ hw).objectPut _

/-- `virtusb_backend_stop`, of another controller. -/
theorem backendStop (hv : Loan h f r d v v') {h₀ : HcdId} (hne : h₀ ≠ h) :
    Loan h f r d (v.backendStop h₀) (v'.backendStop h₀) := by
  have hflag : Loan h f r d (v.stopSetLocked h₀) (v'.stopSetLocked h₀) :=
    hv.update (hv.alike.setBackend h₀ h₀ _ _) h₀ (fun b => { b with stopping := true }) rfl rfl
      rfl fun hh => absurd hh hne
  have hdrained := drain (fun hv => hv.stopDrainLocked hne) ((v'.stopSetLocked h₀).drainFuel h₀)
    hflag
  simp only [World.backendStop, hflag.requests_length h₀, hdrained.bindings h₀]
  exact stopUnbind hne _ hdrained

end Loan

end VirtUsb
