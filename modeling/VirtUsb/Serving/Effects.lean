/-
# What a call does to a backend

Each function of the backend, run to its end, gives the backend of one controller new
lists, changes transfers that left them and gives URBs back, and does nothing else to
a queue (`Relists`).  What the new lists can be, says `Served`: there is one case for
each way a function can end.
-/

import VirtUsb.Kernel.Hcd
import VirtUsb.Kernel.Frame
import VirtUsb.Lib.Sequence

namespace VirtUsb

namespace World

/-- The length of the buffer of every URB. -/
def lengths (w : World) (u : UrbPtr) : ℕ := (w.urbs u).transferBufferLength

end World

/-- From `w` to `w'` the backend of controller `h` became `b`, transfers in `T` changed,
and the URBs `given` were given back. -/
structure Relists (h : HcdId) (T : Set TransferPtr) (given : List Giveback) (b : Backend)
    (w w' : World) : Prop where
  quiet : ∃ l, Quiet T given (w.relist h b l) w'
  lengths : w'.lengths = w.lengths

namespace Relists

variable {h : HcdId} {T S : Set TransferPtr} {given given' : List Giveback} {b b' : Backend}
  {w w' w'' : World}

/-- The backend of one controller is replaced. -/
theorem backends (hr : Relists h T given b w w') :
    w'.backends = Function.update w.backends h b := by
  obtain ⟨l, hq⟩ := hr.quiet
  exact hq.backends

/-- Transfers keep their devices. -/
theorem device (hr : Relists h T given b w w') : w'.device = w.device := by
  obtain ⟨l, hq⟩ := hr.quiet
  exact hq.device

/-- The transfers outside `T` keep their contents. -/
theorem content (hr : Relists h T given b w w') {t : TransferPtr} (ht : t ∉ T) :
    (w'.transfers t).content = (w.transfers t).content := by
  obtain ⟨l, hq⟩ := hr.quiet
  exact hq.content t ht

/-- The URBs that are given back come after those from before. -/
theorem givebacks (hr : Relists h T given b w w') : w'.givebacks = w.givebacks ++ given := by
  obtain ⟨l, hq⟩ := hr.quiet
  exact hq.givebacks

/-- Transfers keep their ids. -/
theorem transferId (hr : Relists h T given b w w') (t : TransferPtr) :
    (w'.transfers t).id = (w.transfers t).id := by
  obtain ⟨l, hq⟩ := hr.quiet
  exact hq.transferId t

/-- No transfer is created. -/
theorem nextTransfer (hr : Relists h T given b w w') : w'.nextTransfer = w.nextTransfer := by
  obtain ⟨l, hq⟩ := hr.quiet
  exact hq.nextTransfer

/-- No id is given out. -/
theorem transferNextId (hr : Relists h T given b w w') :
    w'.transferNextId = w.transferNextId := by
  obtain ⟨l, hq⟩ := hr.quiet
  exact hq.transferNextId

/-- What leaves the lists alone. -/
theorem of_quiet (hq : Quiet T given w w') (hl : w'.lengths = w.lengths) :
    Relists h T given (w.backends h) w w' :=
  ⟨⟨w.linked, by rwa [World.relist_self]⟩, hl⟩

/-- More transfers may be said to change. -/
theorem mono (hr : Relists h T given b w w') (hT : T ⊆ S) : Relists h S given b w w' := by
  obtain ⟨l, hq⟩ := hr.quiet
  exact ⟨⟨l, hq.backends, hq.nextTransfer, hq.transferNextId, hq.device, hq.transferId,
    fun t ht => hq.content t fun hmem => ht (hT hmem), hq.linked, hq.givebacks⟩, hr.lengths⟩

/-- A quiet part may follow. -/
theorem andThen (hr : Relists h T given b w w') (hq : Quiet T given' w' w'')
    (hl : w''.lengths = w'.lengths) : Relists h T (given ++ given') b w w'' := by
  obtain ⟨l, hq₁⟩ := hr.quiet
  exact ⟨⟨l, hq₁.trans hq⟩, hl.trans hr.lengths⟩

/-- The lists may be replaced again. -/
theorem trans (hr : Relists h T given b w w') (hr' : Relists h T given' b' w' w'') :
    Relists h T (given ++ given') b' w w'' := by
  obtain ⟨l, hq⟩ := hr.quiet
  obtain ⟨l', hq'⟩ := hr'.quiet
  have hq₁ := (World.quiet_relist (h := h) hq b' l').trans hq'
  have hsame : (w.relist h b l).relist h b' l' = w.relist h b' l' := by
    simp [World.relist, World.setBackend]
  rw [hsame] at hq₁
  exact ⟨⟨l', hq₁⟩, hr'.lengths.trans hr.lengths⟩

end Relists

/-! ### The shapes of URBs -/

/-- What the module leaves as it is of a URB that it has: everything but its links, the bytes in
its buffer and the length that was transferred. -/
def Urb.shape (x : Urb) : Urb :=
  { x with
    linked := false
    unlinked := false
    actualLength := 0
    transferBuffer := x.transferBuffer.map fun b => { b with bytes := fun _ => 0 } }

/-- Filling the buffer of a URB keeps its shape. -/
theorem Urb.shape_filled (x : Urb) (bytes : Buffer → ℕ → Byte) :
    Urb.shape { x with
      transferBuffer := x.transferBuffer.map fun b => { b with bytes := bytes b } } = x.shape := by
  simp only [shape, Option.map_map]
  rfl

namespace World

/-- The shapes of all URBs. -/
def shapes (w : World) (u : UrbPtr) : Urb := (w.urbs u).shape

/-- The length of the buffer is part of the shape. -/
theorem lengths_of_shapes {w w' : World} (hs : w'.shapes = w.shapes) : w'.lengths = w.lengths := by
  funext u
  exact (congrArg Urb.transferBufferLength (congrFun hs u) :)

variable (w : World) (h : HcdId)

/-- A write to a URB that keeps its shape. -/
theorem shapes_setUrb {u : UrbPtr} {x : Urb} (hx : x.shape = (w.urbs u).shape) :
    (w.setUrb u x).shapes = w.shapes := by
  funext v
  rcases eq_or_ne v u with rfl | hv
  · simpa [shapes, setUrb] using hx
  · simp [shapes, setUrb, hv]

/-- `virtusb_object_put` touches no URB. -/
@[simp]
theorem shapes_objectPut (d : DevicePtr) : (w.objectPut d).shapes = w.shapes := by
  simp only [objectPut]
  split <;> rfl

/-- `virtusb_transfer_put` touches no URB. -/
@[simp]
theorem shapes_transferPut (t : TransferPtr) : (w.transferPut t).shapes = w.shapes := by
  rw [transferPut]
  split
  · exact shapes_objectPut _ _
  · rfl

/-- `virtusb_transfer_cancel` touches no URB. -/
@[simp]
theorem shapes_transferCancel (t : TransferPtr) (status : ℤ) :
    (w.transferCancel t status).1.shapes = w.shapes := by
  simp only [transferCancel]
  split <;> rfl

/-- `virtusb_transfer_complete` touches no URB. -/
@[simp]
theorem shapes_transferComplete (t : TransferPtr) (status : ℤ) (actualLength : ℕ) :
    (w.transferComplete t status actualLength).1.shapes = w.shapes := by
  simp only [transferComplete]
  split
  · rfl
  split <;> rfl

/-- The copy of a setup packet touches no URB. -/
@[simp]
theorem shapes_copySetup (setup : Option SetupPacket) :
    (w.copySetup setup).shapes = w.shapes := by
  rw [copySetup]
  split <;> rfl

/-- A giveback keeps the shape of its URB. -/
@[simp]
theorem shapes_backendGiveback (r : Request) (status : ℤ) :
    (w.backendGiveback r status).shapes = w.shapes :=
  shapes_transferPut _ _

/-- An unlink keeps the shape of its URB. -/
@[simp]
theorem shapes_usbHcdUnlinkUrbFromEp (u : UrbPtr) :
    (w.usbHcdUnlinkUrbFromEp u).shapes = w.shapes :=
  shapes_setUrb w rfl

/-- A check before an unlink keeps the shape of its URB. -/
@[simp]
theorem shapes_usbHcdCheckUnlinkUrb (u : UrbPtr) :
    (w.usbHcdCheckUnlinkUrb u).1.shapes = w.shapes := by
  rw [usbHcdCheckUnlinkUrb]
  split
  · rfl
  split
  · rfl
  · exact shapes_setUrb w rfl

/-- The section of a submission links its URB only. -/
theorem shapes_submitLocked (u : UrbPtr) (t : TransferPtr) (link : Except Errno Unit) :
    (w.submitLocked h u t link).1.shapes = w.shapes := by
  simp only [submitLocked]
  split
  · rfl
  split
  · rfl
  cases link with
  | error e => rfl
  | ok _ => exact shapes_setUrb w rfl

/-- The section of a cancellation unlinks its URB only. -/
theorem shapes_cancelLocked (u : UrbPtr) : (w.cancelLocked h u).1.shapes = w.shapes := by
  have hcheck := shapes_usbHcdCheckUnlinkUrb w u
  rw [cancelLocked]
  rcases hc : w.usbHcdCheckUnlinkUrb u with ⟨w', e | _⟩
  · rwa [hc] at hcheck
  · rw [hc] at hcheck
    dsimp only
    split
    · exact hcheck
    · exact (shapes_usbHcdUnlinkUrbFromEp _ u).trans hcheck

/-- A fetch touches no URB after its lock. -/
theorem shapes_fetchTail (t : TransferPtr) : (w.fetchTail t).1.shapes = w.shapes := by
  simp only [fetchTail]
  split <;> exact (shapes_transferPut _ _).trans (shapes_copySetup _ _)

/-- The section of a completion unlinks its URB only. -/
theorem shapes_completeLocked (f : FilePtr) (id : BitVec 64) :
    (w.completeLocked h f id).1.shapes = w.shapes := by
  simp only [completeLocked]
  split
  · rfl
  · exact shapes_setUrb w rfl

/-- The copies of a completion fill the buffer of its URB. -/
@[simp]
theorem shapes_completeCopy (r : Request) (data : ℕ → Byte) (actualLength : ℕ) :
    (w.completeCopy r data actualLength).shapes = w.shapes := by
  simp only [completeCopy]
  split
  · exact shapes_setUrb _ (Urb.shape_filled _ _)
  · rfl

/-- A completion keeps the shape of its URB. -/
theorem shapes_completeTail (r : Request) (completion : TransferCompleteRequest) :
    (w.completeTail r completion).1.shapes = w.shapes := by
  simp only [completeTail]
  split
  · simp
  have hcopied := (shapes_transferComplete (w.completeCopy r completion.data
    completion.actualLength) r.transfer completion.status completion.actualLength).trans
    (shapes_completeCopy w r completion.data completion.actualLength)
  split
  · rename_i hs
    rw [hs] at hcopied
    simpa using hcopied
  · rename_i w₁ hs
    rw [hs] at hcopied
    rw [shapes_backendGiveback]
    refine (shapes_setUrb w₁ ?_).trans hcopied
    rfl

/-- A pass of a drain keeps the shape of its URB. -/
theorem shapes_drainTail (r : Request) : (w.drainTail r).shapes = w.shapes := by
  rw [drainTail, shapes_backendGiveback, shapes_transferCancel]

/-! ### The lengths of URBs -/

/-- A write to a URB that keeps the length of its buffer. -/
theorem lengths_setUrb {u : UrbPtr} {x : Urb}
    (hx : x.transferBufferLength = (w.urbs u).transferBufferLength) :
    (w.setUrb u x).lengths = w.lengths := by
  funext v
  rcases eq_or_ne v u with rfl | hv
  · simpa [lengths, setUrb] using hx
  · simp [lengths, setUrb, hv]

/-- `virtusb_object_put` resizes no buffer. -/
@[simp]
theorem lengths_objectPut (d : DevicePtr) : (w.objectPut d).lengths = w.lengths :=
  lengths_of_shapes (shapes_objectPut w d)

/-- `virtusb_transfer_put` resizes no buffer. -/
@[simp]
theorem lengths_transferPut (t : TransferPtr) : (w.transferPut t).lengths = w.lengths :=
  lengths_of_shapes (shapes_transferPut w t)

/-- `virtusb_transfer_cancel` resizes no buffer. -/
@[simp]
theorem lengths_transferCancel (t : TransferPtr) (status : ℤ) :
    (w.transferCancel t status).1.lengths = w.lengths :=
  lengths_of_shapes (shapes_transferCancel w t status)

/-- The copy of a setup packet resizes no buffer. -/
@[simp]
theorem lengths_copySetup (setup : Option SetupPacket) :
    (w.copySetup setup).lengths = w.lengths :=
  lengths_of_shapes (shapes_copySetup w setup)

/-- A giveback resizes no buffer. -/
@[simp]
theorem lengths_backendGiveback (r : Request) (status : ℤ) :
    (w.backendGiveback r status).lengths = w.lengths :=
  lengths_of_shapes (shapes_backendGiveback w r status)

/-- An unlink resizes no buffer. -/
@[simp]
theorem lengths_usbHcdUnlinkUrbFromEp (u : UrbPtr) :
    (w.usbHcdUnlinkUrbFromEp u).lengths = w.lengths :=
  lengths_of_shapes (shapes_usbHcdUnlinkUrbFromEp w u)

/-- The section of a submission resizes no buffer. -/
theorem lengths_submitLocked (u : UrbPtr) (t : TransferPtr) (link : Except Errno Unit) :
    (w.submitLocked h u t link).1.lengths = w.lengths :=
  lengths_of_shapes (shapes_submitLocked w h u t link)

/-- The section of a cancellation resizes no buffer. -/
theorem lengths_cancelLocked (u : UrbPtr) : (w.cancelLocked h u).1.lengths = w.lengths :=
  lengths_of_shapes (shapes_cancelLocked w h u)

/-- A fetch resizes no buffer after its lock. -/
theorem lengths_fetchTail (t : TransferPtr) : (w.fetchTail t).1.lengths = w.lengths :=
  lengths_of_shapes (shapes_fetchTail w t)

/-- The section of a completion resizes no buffer. -/
theorem lengths_completeLocked (f : FilePtr) (id : BitVec 64) :
    (w.completeLocked h f id).1.lengths = w.lengths :=
  lengths_of_shapes (shapes_completeLocked w h f id)

/-- A completion resizes no buffer after its lock. -/
theorem lengths_completeTail (r : Request) (completion : TransferCompleteRequest) :
    (w.completeTail r completion).1.lengths = w.lengths :=
  lengths_of_shapes (shapes_completeTail w r completion)

/-- A pass of a drain resizes no buffer. -/
theorem lengths_drainTail (r : Request) : (w.drainTail r).lengths = w.lengths :=
  lengths_of_shapes (shapes_drainTail w r)

end World

/-! ### The drains -/

namespace World

variable {h : HcdId} {w w' : World} {f : FilePtr} {d : DevicePtr}

/-- The loop `for (;;)` of a drain, run until a pass finds nothing. -/
inductive Drains (take : World → World × Option Request) : World → World → Prop
  | done {w w' : World} : take w = (w', none) → Drains take w w'
  | pass {w w₁ w' : World} {r : Request} : take w = (w₁, some r) →
      Drains take (w₁.drainTail r) w' → Drains take w w'

/-- The transfer of the request is for the device. -/
def isFor (w : World) (d : DevicePtr) (r : Request) : Bool := w.requestDevice r = d

/-- The request is for the device, and the file fetched it. -/
def isLeased (w : World) (f : FilePtr) (d : DevicePtr) (r : Request) : Bool :=
  w.requestDevice r = d ∧ r.owner = some f

/-- The requests that the release of a binding takes out. -/
def releasedBy (w : World) (h : HcdId) (f : FilePtr) (d : DevicePtr) : List Request :=
  (w.backends h).pending.filter (w.isFor d) ++ (w.backends h).active.filter (w.isLeased f d)

/-- The backend without the requests that the release of a binding takes out. -/
def withoutReleased (w : World) (h : HcdId) (f : FilePtr) (d : DevicePtr) : Backend :=
  { w.backends h with
    pending := (w.backends h).pending.filter fun r => !w.isFor d r
    active := (w.backends h).active.filter fun r => !w.isLeased f d r }

/-- How requests are given back that are taken out by a drain. -/
def drained (rs : List Request) : List Giveback :=
  rs.map fun r => ⟨r.urb, Errno.ESHUTDOWN.status⟩

/-- Whom a request is for depends on the devices of transfers only. -/
theorem isFor_congr (hd : w'.device = w.device) (d : DevicePtr) : w'.isFor d = w.isFor d := by
  funext r
  exact congrArg (fun x : DevicePtr => decide (x = d)) (congrFun hd r.transfer)

/-- Who has a request of a device depends on the devices of transfers only. -/
theorem isLeased_congr (hd : w'.device = w.device) (f : FilePtr) (d : DevicePtr) :
    w'.isLeased f d = w.isLeased f d := by
  funext r
  exact congrArg (fun x : DevicePtr => decide (x = d ∧ r.owner = some f))
    (congrFun hd r.transfer)

/-- A pass of the drain that finds nothing: there is nothing left to take out. -/
theorem releasedBy_of_releasePick_none (hp : w.releasePick h f d = none) :
    w.releasedBy h f d = [] ∧ w.withoutReleased h f d = w.backends h := by
  rw [releasePick, Option.or_eq_none_iff] at hp
  obtain ⟨hpending, hactive⟩ := hp
  have hp' : ∀ r ∈ (w.backends h).pending, w.isFor d r = false := fun r hr => by
    simpa [isFor] using List.find?_eq_none.1 hpending r hr
  have ha' : ∀ r ∈ (w.backends h).active, w.isLeased f d r = false := fun r hr => by
    simpa [isLeased] using List.find?_eq_none.1 hactive r hr
  constructor
  · rw [releasedBy, List.filter_eq_nil_iff.2 (by simpa using hp'),
      List.filter_eq_nil_iff.2 (by simpa using ha')]
    rfl
  · rw [withoutReleased, List.filter_eq_self.2 (by simpa using hp'),
      List.filter_eq_self.2 (by simpa using ha')]

/-- A pass of the drain takes out the first request that is to be taken out. -/
theorem releasedBy_of_releasePick_some {r : Request} {l : UrbPtr → Bool}
    (hp : w.releasePick h f d = some r) :
    w.releasedBy h f d = r :: (w.relist h ((w.backends h).listDel r) l).releasedBy h f d ∧
      (w.relist h ((w.backends h).listDel r) l).withoutReleased h f d =
        w.withoutReleased h f d := by
  have hfor : (w.relist h ((w.backends h).listDel r) l).isFor d = w.isFor d := rfl
  have hleased : (w.relist h ((w.backends h).listDel r) l).isLeased f d = w.isLeased f d := rfl
  rw [releasePick, Option.or_eq_some_iff] at hp
  simp only [releasedBy, withoutReleased, hfor, hleased, relist_backends_self]
  rcases hp with hp | ⟨hnone, hp⟩
  · obtain ⟨hmem, -⟩ := findPendingDeviceLocked_some hp
    obtain ⟨hfirst, hrest⟩ := Sequence.filter_of_find (p := w.isFor d) hp
    simp only [Backend.listDel, if_pos hmem, hfirst, hrest, List.cons_append, and_self]
  · have hmem : r ∉ (w.backends h).pending := by
      intro hmem
      have hpicked : w.requestDevice r = d := (by simpa using List.find?_some hp :
        w.requestDevice r = d ∧ r.owner = some f).1
      exact absurd hpicked (by simpa using List.find?_eq_none.1 hnone r hmem)
    have hpending : (w.backends h).pending.filter (w.isFor d) = [] := by
      rw [List.filter_eq_nil_iff]
      intro r' hr'
      simpa [isFor] using List.find?_eq_none.1 hnone r' hr'
    obtain ⟨hfirst, hrest⟩ := Sequence.filter_of_find (p := w.isLeased f d) hp
    simp only [Backend.listDel, if_neg hmem, hpending, hfirst, hrest, List.nil_append, and_self]

/-- **The drain of a release** takes out, in order, the pending requests for the device
and the requests for it that the file fetched, and gives their URBs back. -/
theorem drain_release (fuel : ℕ) (hfuel : (w.releasedBy h f d).length < fuel) :
    Drains (fun v => v.releaseDrainLocked h f d) w
        (drain (fun v => v.releaseDrainLocked h f d) fuel w) ∧
      Relists h { t | t ∈ (w.releasedBy h f d).map Request.transfer }
        (drained (w.releasedBy h f d)) (w.withoutReleased h f d) w
        (drain (fun v => v.releaseDrainLocked h f d) fuel w) := by
  induction fuel generalizing w with
  | zero => exact absurd hfuel (Nat.not_lt_zero _)
  | succ fuel ih =>
      rw [World.drain]
      rcases hs : w.releaseDrainLocked h f d with ⟨w₁, _ | r⟩
      · obtain ⟨rfl, hp⟩ := releaseDrainLocked_none hs
        obtain ⟨hnone, hsame⟩ := releasedBy_of_releasePick_none hp
        rw [hnone, hsame]
        exact ⟨.done hs, .of_quiet (.refl _) rfl⟩
      · set T : Set TransferPtr := { t | t ∈ (w.releasedBy h f d).map Request.transfer }
        obtain ⟨hp, hq⟩ := releaseDrainLocked_some (T := T) hs
        obtain ⟨hfirst, hrest⟩ := releasedBy_of_releasePick_some
          (l := Function.update w.linked r.urb false) hp
        set w₀ := w.relist h ((w.backends h).listDel r) (Function.update w.linked r.urb false)
        have hr : r.transfer ∈ T := by
          simp only [T, Set.mem_ofPred_eq, hfirst, List.map_cons]
          exact List.mem_cons_self
        have hlengths : (w₁.drainTail r).lengths = w.lengths := by
          have hlocked : w₁ = (w.releaseDrainLocked h f d).1 := (congrArg Prod.fst hs).symm
          rw [lengths_drainTail, hlocked, releaseDrainLocked, hp]
          exact lengths_usbHcdUnlinkUrbFromEp _ _
        have hpass : Relists h T [⟨r.urb, Errno.ESHUTDOWN.status⟩] ((w.backends h).listDel r) w
            (w₁.drainTail r) := ⟨⟨_, hq.after (.drainTail w₁ hr)⟩, hlengths⟩
        have hback : (w₁.drainTail r).backends h = w₀.backends h := by
          rw [hpass.backends]
          simp [w₀]
        have hleft : (w₁.drainTail r).releasedBy h f d = w₀.releasedBy h f d ∧
            (w₁.drainTail r).withoutReleased h f d = w₀.withoutReleased h f d := by
          have hdevice : (w₁.drainTail r).device = w₀.device := hpass.device
          simp only [releasedBy, withoutReleased, hback, isFor_congr hdevice,
            isLeased_congr hdevice, and_self]
        have hshort : ((w₁.drainTail r).releasedBy h f d).length < fuel := by
          rw [hfirst, List.length_cons] at hfuel
          rw [hleft.1]
          omega
        obtain ⟨hdrains, hrelists⟩ := ih hshort
        rw [hleft.1, hleft.2, hrest] at hrelists
        refine ⟨.pass hs hdrains, ?_⟩
        have hwhole := hpass.trans (hrelists.mono (S := T) fun t ht => ?_)
        · rw [hfirst]
          exact hwhole
        · simp only [T, Set.mem_ofPred_eq, hfirst, List.map_cons]
          exact List.mem_cons_of_mem _ ht

/-- A pass of the drain of a stop takes out the first request. -/
theorem requests_of_stopDrainLocked {r : Request} (hs : w.stopDrainLocked h = (w', some r)) :
    (w.backends h).pending ++ (w.backends h).active =
      r :: (((w.backends h).listDel r).pending ++ ((w.backends h).listDel r).active) := by
  simp only [stopDrainLocked] at hs
  split at hs
  · rename_i found rest hp
    obtain ⟨rfl, -⟩ : found = r ∧ _ = w' := by simpa [and_comm] using hs
    simp [Backend.listDel, hp]
  · rename_i found rest hp ha
    obtain ⟨rfl, -⟩ : found = r ∧ _ = w' := by simpa [and_comm] using hs
    simp [Backend.listDel, hp, ha]
  · simp at hs

/-- **The drain of a stop** takes out all requests and gives their URBs back. -/
theorem drain_stop (fuel : ℕ)
    (hfuel : ((w.backends h).pending ++ (w.backends h).active).length < fuel) :
    Relists h { t | t ∈ ((w.backends h).pending ++ (w.backends h).active).map Request.transfer }
      (drained ((w.backends h).pending ++ (w.backends h).active))
      { w.backends h with pending := [], active := [] } w
      (drain (fun v => v.stopDrainLocked h) fuel w) := by
  induction fuel generalizing w with
  | zero => exact absurd hfuel (Nat.not_lt_zero _)
  | succ fuel ih =>
      rw [World.drain]
      rcases hs : w.stopDrainLocked h with ⟨w₁, _ | r⟩
      · obtain ⟨rfl, hpending, hactive⟩ := stopDrainLocked_none hs
        have hsame : { w₁.backends h with pending := [], active := [] } = w₁.backends h := by
          rcases hb : w₁.backends h with ⟨bindings, pending, active, stopping⟩
          simp_all
        rw [hsame, hpending, hactive]
        exact .of_quiet (.refl _) rfl
      · set T : Set TransferPtr :=
          { t | t ∈ ((w.backends h).pending ++ (w.backends h).active).map Request.transfer }
        have hfirst := requests_of_stopDrainLocked hs
        obtain ⟨-, hq⟩ := stopDrainLocked_some (T := T) hs
        have hr : r.transfer ∈ T := by
          simp only [T, Set.mem_ofPred_eq, hfirst, List.map_cons]
          exact List.mem_cons_self
        have hlengths : (w₁.drainTail r).lengths = w.lengths := by
          have hlocked : w₁ = (w.stopDrainLocked h).1 := (congrArg Prod.fst hs).symm
          rw [lengths_drainTail, hlocked]
          simp only [stopDrainLocked]
          split
          · exact lengths_setUrb _ rfl
          · exact lengths_setUrb _ rfl
          · rfl
        have hpass : Relists h T [⟨r.urb, Errno.ESHUTDOWN.status⟩] ((w.backends h).listDel r) w
            (w₁.drainTail r) := ⟨⟨_, hq.after (.drainTail w₁ hr)⟩, hlengths⟩
        have hback : (w₁.drainTail r).backends h = (w.backends h).listDel r := by
          rw [hpass.backends, Function.update_self]
        have hrest := ih (w := w₁.drainTail r) (by
          rw [hfirst, List.length_cons] at hfuel
          rw [hback]
          omega)
        have hempty : { (w₁.drainTail r).backends h with pending := [], active := [] } =
            { w.backends h with pending := [], active := [] } := by
          rw [hback, Backend.listDel]
          split <;> rfl
        rw [hempty, hback] at hrest
        have hwhole := hpass.trans (hrest.mono (S := T) fun t ht => ?_)
        · rw [hfirst]
          exact hwhole
        · simp only [T, Set.mem_ofPred_eq, hfirst, List.map_cons]
          exact List.mem_cons_of_mem _ ht

/-- The second loop of a stop leaves no binding. -/
theorem stopUnbind_relists (fuel : ℕ) (hfuel : (w.backends h).bindings.length < fuel) :
    Relists h ∅ [] { w.backends h with bindings := [] } w (stopUnbind h fuel w) := by
  induction fuel generalizing w with
  | zero => exact absurd hfuel (Nat.not_lt_zero _)
  | succ fuel ih =>
      rw [stopUnbind]
      rcases hs : w.stopUnbindLocked h with ⟨w₁, _ | binding⟩
      · obtain ⟨rfl, hnone⟩ := stopUnbindLocked_none hs
        have hsame : { w₁.backends h with bindings := [] } = w₁.backends h := by rw [← hnone]
        rw [hsame]
        exact .of_quiet (.refl _) rfl
      · obtain ⟨rest, hbindings, rfl⟩ := stopUnbindLocked_some hs
        set w₁ := w.relist h { w.backends h with bindings := rest } w.linked
        have hpass : Relists h ∅ [] { w.backends h with bindings := rest } w
            (w₁.objectPut binding.device) :=
          ⟨⟨_, .objectPut w₁ binding.device⟩, lengths_objectPut w₁ binding.device⟩
        have hback : (w₁.objectPut binding.device).backends h =
            { w.backends h with bindings := rest } := by
          rw [hpass.backends, Function.update_self]
        have hlt : rest.length < fuel := by
          rw [hbindings, List.length_cons] at hfuel
          omega
        have hrest := ih (w := w₁.objectPut binding.device) (by rwa [hback])
        rw [hback] at hrest
        exact hpass.trans hrest

/-- The requests are those that a release takes out and those that it leaves. -/
theorem releasedBy_perm (w : World) (h : HcdId) (f : FilePtr) (d : DevicePtr) :
    ((w.backends h).pending ++ (w.backends h).active).Perm (w.releasedBy h f d ++
      ((w.withoutReleased h f d).pending ++ (w.withoutReleased h f d).active)) := by
  have hpending := (List.filter_append_perm (w.isFor d) (w.backends h).pending).symm
  have hactive := (List.filter_append_perm (w.isLeased f d) (w.backends h).active).symm
  refine (hpending.append hactive).trans ?_
  simp only [World.releasedBy, World.withoutReleased, List.append_assoc]
  exact List.Perm.append_left _ (List.perm_append_comm_assoc _ _ _)

/-- **The release of a file** removes its binding, drains what was for it, and drops the
reference of the binding. -/
theorem backendReleaseOwner_relists {binding : Binding}
    (hf : (w.backends h).findOwnerLocked f = some binding) :
    (∃ w₁ w₂, w.releaseUnbindLocked h f = (w₁, some binding) ∧
      Drains (fun v => v.releaseDrainLocked h f binding.device) w₁ w₂ ∧
      w.backendReleaseOwner h f = w₂.objectPut binding.device) ∧
    Relists h { t | t ∈ (w.releasedBy h f binding.device).map Request.transfer }
      (drained (w.releasedBy h f binding.device))
      { w.withoutReleased h f binding.device with
        bindings := (w.backends h).bindings.erase binding } w (w.backendReleaseOwner h f) := by
  have hs : w.releaseUnbindLocked h f = (w.setBackend h
      { w.backends h with bindings := (w.backends h).bindings.erase binding }, some binding) := by
    simp only [releaseUnbindLocked, hf]
  set w₁ := w.setBackend h
    { w.backends h with bindings := (w.backends h).bindings.erase binding }
  have hback : w₁.backends h =
      { w.backends h with bindings := (w.backends h).bindings.erase binding } := by
    simp [w₁, setBackend]
  have hfor : w₁.isFor binding.device = w.isFor binding.device := rfl
  have hleased : w₁.isLeased f binding.device = w.isLeased f binding.device := rfl
  have hreleased : w₁.releasedBy h f binding.device = w.releasedBy h f binding.device := by
    simp only [releasedBy, hback, hfor, hleased]
  have hwithout : w₁.withoutReleased h f binding.device =
      { w.withoutReleased h f binding.device with
        bindings := (w.backends h).bindings.erase binding } := by
    simp only [withoutReleased, hback, hfor, hleased]
  have hfuel : (w₁.releasedBy h f binding.device).length < w₁.drainFuel h := by
    rw [releasedBy, List.length_append, drainFuel]
    exact Nat.lt_succ_of_le (Nat.add_le_add (List.length_filter_le _ _)
      (List.length_filter_le _ _))
  have hunbound : Relists h { t | t ∈ (w₁.releasedBy h f binding.device).map Request.transfer } []
      { w.backends h with bindings := (w.backends h).bindings.erase binding } w w₁ :=
    ⟨⟨w.linked, .refl _⟩, rfl⟩
  obtain ⟨hdrains, hrelists⟩ := drain_release (w₁.drainFuel h) hfuel
  have hdrain := hunbound.trans hrelists
  rw [hreleased, hwithout] at hdrain
  have hwhole := hdrain.andThen (.objectPut _ binding.device) (lengths_objectPut _ binding.device)
  rw [List.append_nil] at hwhole
  rw [backendReleaseOwner, hs]
  exact ⟨⟨w₁, _, rfl, hdrains, rfl⟩, hwhole⟩

/-- **A stop** takes out all requests and all bindings. -/
theorem backendStop_relists (w : World) :
    Relists h { t | t ∈ ((w.backends h).pending ++ (w.backends h).active).map Request.transfer }
      (drained ((w.backends h).pending ++ (w.backends h).active)) { stopping := true } w
      (w.backendStop h) := by
  set flagged := w.stopSetLocked h
  have hflagged : flagged.backends h = { w.backends h with stopping := true } := by
    simp [flagged, stopSetLocked, setBackend]
  have hdrain := drain_stop (w := flagged) (h := h) (flagged.drainFuel h) (by
    rw [drainFuel, List.length_append]
    exact Nat.lt_succ_self _)
  set drained := drain (fun v => v.stopDrainLocked h) (flagged.drainFuel h) flagged
  rw [hflagged] at hdrain
  have hdrained : drained.backends h =
      { w.backends h with stopping := true, pending := [], active := [] } := by
    rw [hdrain.backends, Function.update_self]
  have hunbind := stopUnbind_relists (w := drained) (h := h)
    ((drained.backends h).bindings.length + 1) (Nat.lt_succ_self _)
  have hnone : { drained.backends h with bindings := [] } = ({ stopping := true } : Backend) := by
    rw [hdrained]
  rw [hnone] at hunbind
  set T : Set TransferPtr :=
    { t | t ∈ ((w.backends h).pending ++ (w.backends h).active).map Request.transfer }
  have hset : Relists h T [] { w.backends h with stopping := true } w flagged :=
    ⟨⟨w.linked, .refl _⟩, rfl⟩
  have hwhole := (hset.trans hdrain).trans (hunbind.mono (Set.empty_subset T))
  rw [List.append_nil] at hwhole
  exact hwhole

end World

/-! ### What every function can do -/

/-- What a function can make of the backend of controller `h`, with the transfers it
changes and the URBs it gives back. -/
inductive Served (w : World) (h : HcdId) : Set TransferPtr → List Giveback → Backend → Prop
  | idle : Served w h ∅ [] (w.backends h)
  | bound (d : DevicePtr) (f : FilePtr) : (w.backends h).stopping = false →
      (∀ b ∈ (w.backends h).bindings, b.owner ≠ f ∧ b.device ≠ d) →
      Served w h ∅ []
        { w.backends h with bindings := (w.backends h).bindings ++ [⟨d, f⟩] }
  | fetched (binding : Binding) (r : Request) : binding ∈ (w.backends h).bindings →
      w.findPendingDeviceLocked h binding.device = some r →
      Served w h ∅ []
        { w.backends h with
          pending := (w.backends h).pending.erase r
          active := (w.backends h).active ++ [{ r with owner := some binding.owner }] }
  | restored (r : Request) : r ∈ (w.backends h).active →
      Served w h ∅ []
        { w.backends h with
          active := (w.backends h).active.erase r
          pending := { r with owner := none } :: (w.backends h).pending }
  | completed (r : Request) (status : ℤ) : r ∈ (w.backends h).active →
      Served w h {r.transfer} [⟨r.urb, status⟩]
        { w.backends h with active := (w.backends h).active.erase r }
  | cancelled (r : Request) (status : ℤ) :
      r ∈ (w.backends h).pending ++ (w.backends h).active →
      Served w h {r.transfer} [⟨r.urb, status⟩] ((w.backends h).listDel r)
  | released (binding : Binding) : binding ∈ (w.backends h).bindings →
      Served w h { t | t ∈ (w.releasedBy h binding.owner binding.device).map Request.transfer }
        (World.drained (w.releasedBy h binding.owner binding.device))
        { w.withoutReleased h binding.owner binding.device with
          bindings := (w.backends h).bindings.erase binding }
  | stopped :
      Served w h { t | t ∈ ((w.backends h).pending ++ (w.backends h).active).map Request.transfer }
        (World.drained ((w.backends h).pending ++ (w.backends h).active)) { stopping := true }

/-- A function on controller `h` can go from `w` to `w'`. -/
def Serves (h : HcdId) (w w' : World) : Prop :=
  ∃ T given b, Served w h T given b ∧ Relists h T given b w w'

namespace Serves

variable {h : HcdId} {w w' w'' : World}

/-- What does not touch a queue. -/
theorem of_quiet (hq : Quiet ∅ [] w w') (hl : w'.lengths = w.lengths) : Serves h w w' :=
  ⟨∅, [], _, .idle, .of_quiet hq hl⟩

/-- A function that does nothing. -/
theorem refl (w : World) : Serves h w w := of_quiet (.refl w) rfl

/-- `virtusb_backend_register` fails, or binds the file to the device. -/
theorem backendRegister (w : World) (f : FilePtr) (d : DevicePtr) (env : Env) :
    Serves h w (w.backendRegister h f d env).1 := by
  rw [World.backendRegister, World.registerPrepare]
  rcases env.bindingAlloc
  · exact refl w
  simp only [Bool.not_true, Bool.false_eq_true, if_false]
  have hget : Quiet ∅ [] w (w.objectGet d) := .setObject w d _
  rcases hs : (w.objectGet d).registerLocked h f d with ⟨w₁, e | _⟩
  · obtain rfl := World.registerLocked_error hs
    exact of_quiet (hget.andThen (.objectPut _ d)) (World.lengths_objectPut _ d)
  · obtain ⟨hstop, hfree, rfl⟩ := World.registerLocked_ok hs
    exact ⟨∅, [], _, .bound d f hstop hfree, ⟨_, World.quiet_relist hget _ _⟩, rfl⟩

/-- `virtusb_backend_cancel` fails, or takes out the request of its URB. -/
theorem backendCancel (w : World) (u : UrbPtr) (status : ℤ) :
    Serves h w (w.backendCancel h u status).1 := by
  have hlengths := w.lengths_cancelLocked h u
  rw [World.backendCancel]
  rcases hs : w.cancelLocked h u with ⟨w₁, e | r⟩
  · rw [hs] at hlengths
    exact of_quiet (World.cancelLocked_error hs) hlengths
  · rw [hs] at hlengths
    obtain ⟨hmem, -, hq⟩ := World.cancelLocked_ok (T := {r.transfer}) hs
    have htail := Quiet.cancelTail w₁ (Set.mem_singleton r.transfer) status
    have hsame : (w₁.cancelTail r status).lengths = w₁.lengths := by
      rw [World.cancelTail, World.lengths_backendGiveback, World.lengths_transferCancel]
    exact ⟨_, _, _, .cancelled r status hmem, ⟨_, hq.after htail⟩, hsame.trans hlengths⟩

/-- `virtusb_backend_fetch` fails, or moves the first pending request of the device. -/
theorem backendFetch (w : World) (f : FilePtr) (nonblock : Bool) :
    Serves h w (w.backendFetch h f nonblock).1 := by
  rw [World.backendFetch]
  rcases hs : w.fetchLocked h f with ⟨w₁, r | e | _⟩
  · obtain ⟨binding, hmem, rfl, hfind, hq⟩ := World.fetchLocked_taken (T := ∅) hs
    obtain ⟨-, hw₁⟩ := World.fetchLocked_taken_eq hs
    refine ⟨_, _, _, .fetched binding r hmem hfind, ⟨_, hq.andThen (.fetchTail w₁ r.transfer)⟩, ?_⟩
    rw [World.lengths_fetchTail, hw₁]
    rfl
  · obtain rfl := World.fetchLocked_failed hs
    exact refl _
  · obtain rfl := World.fetchLocked_empty hs
    exact refl _

/-- `virtusb_backend_fetch_rollback` fails, or puts the request back in front. -/
theorem backendFetchRollback (w : World) (f : FilePtr) (id : BitVec 64) :
    Serves h w (w.backendFetchRollback h f id).1 := by
  rw [World.backendFetchRollback]
  split
  · exact refl w
  rcases hs : w.rollbackLocked h f id with ⟨w₁, e | r⟩
  · obtain rfl := World.rollbackLocked_error hs
    exact refl _
  · obtain ⟨hmem, -, -, rfl⟩ := World.rollbackLocked_ok hs
    exact ⟨_, _, _, .restored r hmem, ⟨_, .refl _⟩, rfl⟩

/-- `virtusb_backend_complete` fails, or takes out the request of its id. -/
theorem backendComplete (w : World) (f : FilePtr) (completion : TransferCompleteRequest) :
    Serves h w (w.backendComplete h f completion).1 := by
  have hlengths := w.lengths_completeLocked h f completion.transferId
  rw [World.backendComplete]
  split
  · exact refl w
  rcases hs : w.completeLocked h f completion.transferId with ⟨w₁, e | r⟩
  · obtain rfl := World.completeLocked_error hs
    exact refl _
  · rw [hs] at hlengths
    obtain ⟨hmem, -, -, hq⟩ := World.completeLocked_ok (T := {r.transfer}) hs
    obtain ⟨status, htail⟩ := Quiet.completeTail (T := {r.transfer}) w₁ rfl completion
    refine ⟨_, _, _, .completed r status hmem, ⟨_, hq.after htail⟩, ?_⟩
    exact (World.lengths_completeTail w₁ r completion).trans hlengths

/-- `virtusb_backend_release_owner` does nothing, or removes the binding and its requests. -/
theorem backendReleaseOwner (w : World) (f : FilePtr) :
    Serves h w (w.backendReleaseOwner h f) := by
  rcases hf : (w.backends h).findOwnerLocked f with _ | binding
  · have hnone : w.backendReleaseOwner h f = w := by
      simp only [World.backendReleaseOwner, World.releaseUnbindLocked, hf]
    rw [hnone]
    exact refl w
  · obtain ⟨hmem, rfl⟩ := World.findOwnerLocked_some hf
    exact ⟨_, _, _, .released binding hmem, (World.backendReleaseOwner_relists hf).2⟩

/-- `virtusb_backend_stop` empties all the lists, and the backend stays stopped. -/
theorem backendStop (w : World) : Serves h w (w.backendStop h) :=
  ⟨_, _, _, .stopped, World.backendStop_relists w⟩

end Serves

end VirtUsb
