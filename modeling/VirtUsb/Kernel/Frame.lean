/-
# What the sections of the backend change

Between two sections under `backend.lock` a thread copies data, changes the
state of the one transfer it holds, gives its URB back and drops references.
None of this touches a list, a link or another transfer: `Quiet` says so, with
the transfers whose contents may change and the URBs given back.

A section under the lock changes the backend and the links of URBs
(`World.relist`) and nothing else that matters to other threads.  One theorem
for each section says what it found and what it leaves.
-/

import VirtUsb.Kernel.Backend

namespace VirtUsb

/-- The transfer without its reference count. -/
def Transfer.content (x : Transfer) : Transfer := { x with refcount := 0 }

/-- The reference count is no part of the state of a transfer. -/
theorem Transfer.state_of_content {x y : Transfer} (h : x.content = y.content) :
    x.state = y.state :=
  (congrArg Transfer.state h :)

/-- Contents and reference count are all that a transfer is. -/
theorem Transfer.eq_of_content {x y : Transfer} (h : x.content = y.content)
    (hcount : x.refcount = y.refcount) : x = y := by
  have hx : x = { x.content with refcount := x.refcount } := rfl
  rw [hx, h, hcount]
  rfl

/-- The reference count is no part of the id of a transfer. -/
theorem Transfer.id_of_content {x y : Transfer} (h : x.content = y.content) : x.id = y.id :=
  (congrArg Transfer.id h :)

/-- The device of every transfer. -/
def World.device (w : World) (t : TransferPtr) : DevicePtr := (w.transfers t).device

/-- From `w` to `w'` no list, no link and no transfer outside `touched` changes,
and the URBs `given` are given back. -/
structure Quiet (touched : Set TransferPtr) (given : List Giveback) (w w' : World) : Prop where
  backends : w'.backends = w.backends
  nextTransfer : w'.nextTransfer = w.nextTransfer
  transferNextId : w'.transferNextId = w.transferNextId
  device : w'.device = w.device
  transferId : ∀ t, (w'.transfers t).id = (w.transfers t).id
  content : ∀ t, t ∉ touched → (w'.transfers t).content = (w.transfers t).content
  linked : ∀ u, (w'.urbs u).linked = (w.urbs u).linked
  givebacks : w'.givebacks = w.givebacks ++ given

namespace Quiet

variable {T : Set TransferPtr} {given given' : List Giveback} {w w' w'' : World}

/-- Nothing happens quietly. -/
theorem refl (w : World) : Quiet T [] w w :=
  ⟨rfl, rfl, rfl, rfl, fun _ => rfl, fun _ _ => rfl, fun _ => rfl, (List.append_nil _).symm⟩

/-- Quiet parts after each other: the URBs given back add up. -/
theorem trans (h : Quiet T given w w') (h' : Quiet T given' w' w'') :
    Quiet T (given ++ given') w w'' where
  backends := h'.backends.trans h.backends
  nextTransfer := h'.nextTransfer.trans h.nextTransfer
  transferNextId := h'.transferNextId.trans h.transferNextId
  device := h'.device.trans h.device
  transferId t := (h'.transferId t).trans (h.transferId t)
  content t ht := (h'.content t ht).trans (h.content t ht)
  linked u := (h'.linked u).trans (h.linked u)
  givebacks := by rw [h'.givebacks, h.givebacks, List.append_assoc]

/-- A quiet part after which nothing more is given back. -/
theorem andThen (h : Quiet T given w w') (h' : Quiet T [] w' w'') : Quiet T given w w'' := by
  simpa using h.trans h'

/-- A quiet part before which nothing was given back. -/
theorem after (h : Quiet T [] w w') (h' : Quiet T given w' w'') : Quiet T given w w'' := by
  simpa using h.trans h'

/-- A transfer that is not touched keeps its state. -/
theorem state (h : Quiet T given w w') {t : TransferPtr} (ht : t ∉ T) :
    (w'.transfers t).state = (w.transfers t).state :=
  Transfer.state_of_content (h.content t ht)

/-! ### The pieces -/

/-- Objects are no concern of the queues. -/
theorem setObject (w : World) (d : DevicePtr) (o : Object) : Quiet T [] w (w.setObject d o) :=
  ⟨rfl, rfl, rfl, rfl, fun _ => rfl, fun _ _ => rfl, fun _ => rfl, (List.append_nil _).symm⟩

/-- Nor is dropping a reference, with or without a release. -/
theorem objectPut (w : World) (d : DevicePtr) : Quiet T [] w (w.objectPut d) := by
  rw [World.objectPut]
  split
  · exact ⟨rfl, rfl, rfl, rfl, fun _ => rfl, fun _ _ => rfl, fun _ => rfl, (List.append_nil _).symm⟩
  · exact setObject w d _

/-- Recording a copy of data is quiet. -/
theorem recordCopy (w : World) (dst src : Option ℕ) (length : ℕ) :
    Quiet T [] w (w.recordCopy dst src length) :=
  ⟨rfl, rfl, rfl, rfl, fun _ => rfl, fun _ _ => rfl, fun _ => rfl, (List.append_nil _).symm⟩

/-- Copying data is quiet. -/
theorem copy (w : World) (dst src : Option Buffer) (length : ℕ) :
    Quiet T [] w (w.copy dst src length).1 :=
  recordCopy w _ _ _

/-- So is copying the setup packet. -/
theorem copySetup (w : World) (setup : Option SetupPacket) : Quiet T [] w (w.copySetup setup) := by
  rw [World.copySetup]
  split
  · exact recordCopy w _ _ _
  · exact refl w

/-- A transfer keeps its device and its id; what else changes is its reference
count, or it may be touched. -/
theorem setTransfer (w : World) {t : TransferPtr} {x : Transfer}
    (hd : x.device = (w.transfers t).device) (hid : x.id = (w.transfers t).id)
    (hx : t ∈ T ∨ x.content = (w.transfers t).content) : Quiet T [] w (w.setTransfer t x) where
  backends := rfl
  nextTransfer := rfl
  transferNextId := rfl
  device := by
    funext s
    rcases eq_or_ne s t with rfl | hs
    · simpa [World.device, World.setTransfer] using hd
    · simp [World.device, World.setTransfer, hs]
  transferId s := by
    rcases eq_or_ne s t with rfl | hs
    · simpa [World.setTransfer] using hid
    · simp [World.setTransfer, hs]
  content s hs := by
    rcases eq_or_ne s t with rfl | hst
    · simpa [World.setTransfer] using hx.resolve_left hs
    · simp [World.setTransfer, hst]
  linked _ := rfl
  givebacks := (List.append_nil _).symm

/-- A URB may change in every field but its link. -/
theorem setUrb (w : World) {u : UrbPtr} {x : Urb} (hx : x.linked = (w.urbs u).linked) :
    Quiet T [] w (w.setUrb u x) where
  backends := rfl
  nextTransfer := rfl
  transferNextId := rfl
  device := rfl
  transferId _ := rfl
  content _ _ := rfl
  linked v := by
    rcases eq_or_ne v u with rfl | hv
    · simpa [World.setUrb] using hx
    · simp [World.setUrb, hv]
  givebacks := (List.append_nil _).symm

/-- The one step that is seen outside: the URB is given back. -/
theorem giveback (w : World) (u : UrbPtr) (status : ℤ) :
    Quiet T [⟨u, status⟩] w (w.usbHcdGivebackUrb u status) :=
  ⟨rfl, rfl, rfl, rfl, fun _ => rfl, fun _ _ => rfl, fun _ => rfl, rfl⟩

/-- `virtusb_transfer_get` changes a reference count only. -/
theorem transferGet (w : World) (t : TransferPtr) : Quiet T [] w (w.transferGet t) :=
  setTransfer w rfl rfl (.inr rfl)

/-- The release function gives the buffer and a device reference back. -/
theorem transferRelease (w : World) (t : TransferPtr) : Quiet T [] w (w.transferRelease t) :=
  let h := objectPut (T := T) w (w.transfers t).device
  ⟨h.backends, h.nextTransfer, h.transferNextId, h.device, h.transferId, h.content, h.linked,
    h.givebacks⟩

/-- `virtusb_transfer_put`, the release included. -/
theorem transferPut (w : World) (t : TransferPtr) : Quiet T [] w (w.transferPut t) := by
  have h : Quiet T [] w (w.setTransfer t
      { w.transfers t with refcount := (w.transfers t).refcount - 1 }) :=
    setTransfer w rfl rfl (.inr rfl)
  rw [World.transferPut]
  split
  · exact h.andThen (transferRelease _ t)
  · exact h

/-- `virtusb_transfer_cancel` touches the transfer of the caller. -/
theorem transferCancel (w : World) {t : TransferPtr} (ht : t ∈ T) (status : ℤ) :
    Quiet T [] w (w.transferCancel t status).1 := by
  simp only [World.transferCancel]
  split
  · exact refl w
  · exact setTransfer w rfl rfl (.inl ht)

/-- `virtusb_transfer_complete` touches the transfer of the caller. -/
theorem transferComplete (w : World) {t : TransferPtr} (ht : t ∈ T) (status : ℤ)
    (actualLength : ℕ) : Quiet T [] w (w.transferComplete t status actualLength).1 := by
  simp only [World.transferComplete]
  split
  · exact refl w
  split
  · exact refl w
  · exact setTransfer w rfl rfl (.inl ht)

/-- The allocation of the buffer, and its contents, are quiet. -/
theorem transferBuffer (w : World) (a : TransferArgs) (garbage : ℕ → Byte) :
    Quiet T [] w (w.transferBuffer a garbage).1 := by
  rw [World.transferBuffer]
  split
  · exact refl w
  split
  · exact copy w _ _ _
  · exact refl w

/-- `virtusb_transfer_mark_queued` touches the transfer of the caller. -/
theorem transferMarkQueued (w : World) {t : TransferPtr} (ht : t ∈ T) :
    Quiet T [] w (w.transferMarkQueued t).1 := by
  rw [World.transferMarkQueued]
  split
  · exact refl w
  · exact setTransfer w rfl rfl (.inl ht)

/-! ### The functions -/

/-- `virtusb_backend_giveback`: the URB is given back and the request dropped. -/
theorem backendGiveback (w : World) (request : Request) (status : ℤ) :
    Quiet T [⟨request.urb, status⟩] w (w.backendGiveback request status) :=
  (giveback w _ _).andThen (transferPut _ _)

/-- What `virtusb_backend_submit` does before it takes the lock. -/
theorem submitPrepare (w : World) {t : TransferPtr} (ht : t ∈ T) (env : Env) :
    Quiet T [] w (w.submitPrepare t env).1 := by
  have h := (transferGet (T := T) w t).andThen (transferMarkQueued (w.transferGet t) ht)
  rw [World.submitPrepare]
  split
  · exact refl w
  split
  · exact refl w
  split
  · rename_i w' e hw
    rw [hw] at h
    exact h.andThen (transferPut w' t)
  · rename_i w' hw
    rw [hw] at h
    exact h

/-- The way out of `virtusb_backend_submit` that cancels the transfer. -/
theorem submitFailed (w : World) {t : TransferPtr} (ht : t ∈ T) (e : Errno) :
    Quiet T [] w (w.submitFailed t e) :=
  (transferCancel w ht _).andThen (transferPut _ _)

/-- What `virtusb_backend_fetch` does once it has a request: it fills in the message. -/
theorem fetchTail (w : World) (t : TransferPtr) : Quiet T [] w (w.fetchTail t).1 := by
  simp only [World.fetchTail]
  split
  · exact ((copySetup w _).andThen (copy _ _ _ _)).andThen (transferPut _ _)
  · exact (copySetup w _).andThen (transferPut _ _)

/-- What `virtusb_backend_cancel` does after its lock, one giveback included. -/
theorem cancelTail (w : World) {request : Request} (ht : request.transfer ∈ T) (status : ℤ) :
    Quiet T [⟨request.urb, status⟩] w (w.cancelTail request status) :=
  (transferCancel w ht _).after (backendGiveback _ _ _)

/-- What a pass of a drain does after its lock, one giveback included. -/
theorem drainTail (w : World) {request : Request} (ht : request.transfer ∈ T) :
    Quiet T [⟨request.urb, Errno.ESHUTDOWN.status⟩] w (w.drainTail request) :=
  (transferCancel w ht _).after (backendGiveback _ _ _)

/-- The copy of IN data into the buffer of the URB touches the transfer of the request. -/
theorem completeCopy (w : World) {request : Request} (ht : request.transfer ∈ T)
    (data : ℕ → Byte) (actualLength : ℕ) :
    Quiet T [] w (w.completeCopy request data actualLength) := by
  simp only [World.completeCopy]
  split
  · refine (((copy w _ _ _).andThen (setTransfer _ ?_ ?_ (.inl ht))).andThen
      (copy _ _ _ _)).andThen (setUrb _ ?_) <;> rfl
  · exact refl w

/-- What `virtusb_backend_complete` does after its lock: one giveback, with some status. -/
theorem completeTail (w : World) {request : Request} (ht : request.transfer ∈ T)
    (completion : TransferCompleteRequest) :
    ∃ status, Quiet T [⟨request.urb, status⟩] w (w.completeTail request completion).1 := by
  simp only [World.completeTail]
  split
  · exact ⟨_, (transferCancel w ht _).after (backendGiveback _ _ _)⟩
  · have hcopy := completeCopy w ht completion.data completion.actualLength
    have hdone := hcopy.andThen
      (transferComplete _ ht completion.status completion.actualLength)
    split
    · rename_i w₁ e hw
      rw [hw] at hdone
      exact ⟨_, (hdone.andThen (transferCancel w₁ ht _)).after (backendGiveback _ _ _)⟩
    · rename_i w₁ hw
      rw [hw] at hdone
      refine ⟨_, (hdone.andThen (setUrb w₁ ?_)).after (backendGiveback _ _ _)⟩
      rfl

end Quiet

/-! ### A new transfer -/

/-- From `w` to `w'` the transfer `t` of the device `d` was created. -/
structure Created (d : DevicePtr) (t : TransferPtr) (w w' : World) : Prop where
  ptr : t = w.nextTransfer
  nextTransfer : w'.nextTransfer = t + 1
  transferNextId : w'.transferNextId = w.transferNextId + 1
  backends : w'.backends = w.backends
  device : w'.device = Function.update w.device t d
  transferId : (w'.transfers t).id = w'.transferNextId
  state : (w'.transfers t).state = .new
  content : ∀ s, s ≠ t → (w'.transfers s).content = (w.transfers s).content
  linked : ∀ u, (w'.urbs u).linked = (w.urbs u).linked
  givebacks : w'.givebacks = w.givebacks

/-- A creation that fails leaves no trace. -/
theorem World.transferCreate_none {w w' : World} {d : DevicePtr} {a : TransferArgs} {env : Env}
    (hc : w.transferCreate d a env = (w', none)) : w' = w := by
  simp only [World.transferCreate] at hc
  split at hc
  · exact (congrArg Prod.fst hc).symm
  split at hc
  · exact (congrArg Prod.fst hc).symm
  split at hc
  · exact (congrArg Prod.fst hc).symm
  · simp at hc

/-- A creation that succeeds adds one transfer, with a fresh id. -/
theorem World.transferCreate_some {w w' : World} {d : DevicePtr} {a : TransferArgs} {env : Env}
    {t : TransferPtr} (hc : w.transferCreate d a env = (w', some t)) : Created d t w w' := by
  simp only [World.transferCreate] at hc
  split at hc
  · simp at hc
  split at hc
  · simp at hc
  split at hc
  · simp at hc
  have hq : Quiet ∅ [] w (((w.transferBuffer a env.garbage).1.objectGet d).copySetup a.setup) :=
    ((Quiet.transferBuffer w a _).andThen (Quiet.setObject _ d _)).andThen (Quiet.copySetup _ _)
  have hptr := (Quiet.transferBuffer (T := ∅) w a env.garbage).nextTransfer
  have hid := (Quiet.transferBuffer (T := ∅) w a env.garbage).transferNextId
  obtain ⟨rfl, rfl⟩ := Prod.mk.inj hc |>.imp id (fun h => Option.some.inj h)
  refine ⟨hptr, rfl, by rw [hid], hq.backends, ?_, ?_, ?_, fun s hs => ?_, hq.linked, ?_⟩
  · funext s
    rcases eq_or_ne s (w.transferBuffer a env.garbage).1.nextTransfer with rfl | hs
    · simp [World.device, World.setTransfer]
    · simpa [World.device, World.setTransfer, hs] using congrFun hq.device s
  · simp [World.setTransfer]
  · simp [World.setTransfer]
  · simpa [World.setTransfer, hs] using hq.content s (fun h => h.elim)
  · exact hq.givebacks.trans (List.append_nil _)

/-- After the preparation the transfer is marked as queued. -/
theorem World.submitPrepare_ok {w w' : World} {t : TransferPtr} {env : Env}
    (hp : w.submitPrepare t env = (w', .ok ())) : (w'.transfers t).state = .queued := by
  simp only [World.submitPrepare, World.transferMarkQueued] at hp
  split at hp
  · simp at hp
  split at hp
  · simp at hp
  split at hp
  · simp at hp
  · rename_i hm
    split at hm
    · simp at hm
    · obtain rfl := congrArg Prod.fst hm
      obtain rfl := congrArg Prod.fst hp
      simp [World.setTransfer]

/-- A request that is deleted from its list is the only one that is missing. -/
theorem Backend.perm_listDel {b : Backend} {r : Request} (hr : r ∈ b.pending ++ b.active) :
    (b.pending ++ b.active).Perm (r :: ((b.listDel r).pending ++ (b.listDel r).active)) := by
  by_cases hp : r ∈ b.pending
  · rw [Backend.listDel, if_pos hp]
    exact (List.perm_cons_erase hp).append_right b.active
  · have ha : r ∈ b.active := (List.mem_append.1 hr).resolve_left hp
    rw [Backend.listDel, if_neg hp]
    exact ((List.perm_cons_erase ha).append_left b.pending).trans List.perm_middle

/-! ### Sections under the lock -/

namespace World

variable (w : World) (h : HcdId)

/-- Whether a URB is linked to its endpoint. -/
def linked (u : UrbPtr) : Bool := (w.urbs u).linked

/-- The world with another backend and other links. -/
def relist (b : Backend) (linked : UrbPtr → Bool) : World :=
  { w.setBackend h b with urbs := fun u => { w.urbs u with linked := linked u } }

/-- A section that leaves `b` in its backend leaves `b` there. -/
@[simp]
theorem relist_backends_self (b : Backend) (l : UrbPtr → Bool) :
    (w.relist h b l).backends h = b := by simp [relist, setBackend]

/-- The lists say nothing about the devices of transfers. -/
@[simp]
theorem relist_device (b : Backend) (l : UrbPtr → Bool) : (w.relist h b l).device = w.device := rfl

/-- Writing back what is there changes nothing. -/
@[simp]
theorem relist_self : w.relist h (w.backends h) w.linked = w := by
  simp [relist, setBackend, linked, Function.update_eq_self]

/-- After a section, a URB may change in every field but its link. -/
theorem quiet_setUrb (b : Backend) (u : UrbPtr) (x : Urb) {T : Set TransferPtr} :
    Quiet T [] (w.relist h b (Function.update w.linked u x.linked))
      ((w.setBackend h b).setUrb u x) where
  backends := rfl
  nextTransfer := rfl
  transferNextId := rfl
  device := rfl
  transferId _ := rfl
  content _ _ := rfl
  linked v := by
    rcases eq_or_ne v u with rfl | hv
    · simp [setUrb, relist]
    · simp [setUrb, relist, hv, linked, setBackend]
  givebacks := (List.append_nil _).symm

variable {w h} {w' : World} {T : Set TransferPtr}

/-- A quiet part is one between other lists as well. -/
theorem quiet_relist {given : List Giveback} (hq : Quiet T given w w') (b : Backend)
    (l : UrbPtr → Bool) : Quiet T given (w.relist h b l) (w'.relist h b l) where
  backends := by simp [World.relist, setBackend, hq.backends]
  nextTransfer := hq.nextTransfer
  transferNextId := hq.transferNextId
  device := hq.device
  transferId := hq.transferId
  content := hq.content
  linked _ := rfl
  givebacks := hq.givebacks

/-- A binding found by owner is one of the backend, of that owner. -/
theorem findOwnerLocked_some {b : Backend} {owner : FilePtr} {binding : Binding}
    (hf : b.findOwnerLocked owner = some binding) :
    binding ∈ b.bindings ∧ binding.owner = owner :=
  ⟨List.mem_of_find?_eq_some hf, by simpa using List.find?_some hf⟩

/-- A binding found by device is one of the backend, of that device. -/
theorem findDeviceLocked_some {b : Backend} {device : DevicePtr} {binding : Binding}
    (hf : b.findDeviceLocked device = some binding) :
    binding ∈ b.bindings ∧ binding.device = device :=
  ⟨List.mem_of_find?_eq_some hf, by simpa using List.find?_some hf⟩

/-- What `virtusb_backend_find_urb_locked` finds, in either list. -/
theorem findUrbLocked_some {b : Backend} {u : UrbPtr} {request : Request}
    (hf : b.findUrbLocked u = some request) :
    request ∈ b.pending ++ b.active ∧ request.urb = u := by
  rcases Option.or_eq_some_iff.1 hf with hf | ⟨-, hf⟩
  · exact ⟨List.mem_append_left _ (List.mem_of_find?_eq_some hf),
      by simpa using List.find?_some hf⟩
  · exact ⟨List.mem_append_right _ (List.mem_of_find?_eq_some hf),
      by simpa using List.find?_some hf⟩

/-! One theorem for each way a section can end. -/

/-- A submission refused under the lock leaves no trace. -/
theorem submitLocked_error {u : UrbPtr} {t : TransferPtr} {link : Except Errno Unit} {e : Errno}
    (hs : w.submitLocked h u t link = (w', .error e)) : w' = w := by
  simp only [submitLocked] at hs
  split at hs
  · exact (congrArg Prod.fst hs).symm
  split at hs
  · exact (congrArg Prod.fst hs).symm
  cases link with
  | error e => exact (congrArg Prod.fst hs).symm
  | ok _ => simp [usbHcdLinkUrbToEp] at hs

/-- A submission that succeeds was linked by the USB core. -/
theorem link_of_submitLocked {u : UrbPtr} {t : TransferPtr} {link : Except Errno Unit}
    (hs : w.submitLocked h u t link = (w', .ok ())) : link = .ok () := by
  simp only [submitLocked] at hs
  split at hs
  · simp at hs
  split at hs
  · simp at hs
  cases link with
  | error e => simp [usbHcdLinkUrbToEp] at hs
  | ok _ => rfl

/-- A submission appends its request to `pending` and links its URB, for a device with a binding,
while the backend is not stopping. -/
theorem submitLocked_ok {u : UrbPtr} {t : TransferPtr} {link : Except Errno Unit}
    (hs : w.submitLocked h u t link = (w', .ok ())) :
    (w.backends h).stopping = false ∧
      (∃ binding ∈ (w.backends h).bindings, binding.device = w.device t) ∧
      Quiet T [] (w.relist h
        { w.backends h with
          pending := (w.backends h).pending ++ [{ urb := u, transfer := t }] }
        (Function.update w.linked u true)) w' := by
  simp only [submitLocked] at hs
  split at hs
  · simp at hs
  rename_i hstop
  split at hs
  · simp at hs
  rename_i hfind
  cases link with
  | error e => simp [usbHcdLinkUrbToEp] at hs
  | ok _ =>
      obtain ⟨binding, hb⟩ := Option.ne_none_iff_exists'.1 (mt Option.isNone_iff_eq_none.2 hfind)
      obtain ⟨hmem, hdev⟩ := findDeviceLocked_some hb
      refine ⟨by simpa using hstop, ⟨binding, hmem, hdev⟩, ?_⟩
      obtain rfl := congrArg Prod.fst hs
      exact quiet_setUrb w h _ u { w.urbs u with linked := true, unlinked := false }

/-- `usb_hcd_check_unlink_urb` touches no link. -/
theorem quiet_checkUnlink (w : World) (u : UrbPtr) :
    Quiet T [] w (w.usbHcdCheckUnlinkUrb u).1 := by
  rw [usbHcdCheckUnlinkUrb]
  split
  · exact .refl w
  split
  · exact .refl w
  · exact .setUrb w rfl

/-- A cancellation refused under the lock changes no list. -/
theorem cancelLocked_error {u : UrbPtr} {e : Errno} (hs : w.cancelLocked h u = (w', .error e)) :
    Quiet T [] w w' := by
  have hq := quiet_checkUnlink (T := T) w u
  rw [cancelLocked] at hs
  split at hs
  · rename_i w₁ e₁ hc
    rw [hc] at hq
    obtain rfl := congrArg Prod.fst hs
    exact hq
  · rename_i w₁ hc
    rw [hc] at hq
    split at hs
    · obtain rfl := congrArg Prod.fst hs
      exact hq
    · simp at hs

/-- A cancellation takes the request of its URB off its list and unlinks the URB. -/
theorem cancelLocked_ok {u : UrbPtr} {request : Request}
    (hs : w.cancelLocked h u = (w', .ok request)) :
    request ∈ (w.backends h).pending ++ (w.backends h).active ∧ request.urb = u ∧
      Quiet T [] (w.relist h ((w.backends h).listDel request)
        (Function.update w.linked u false)) w' := by
  have hq := quiet_checkUnlink (T := T) w u
  rw [cancelLocked] at hs
  split at hs
  · simp at hs
  rename_i w₁ hc
  rw [hc] at hq
  have hlinked : w₁.linked = w.linked := funext hq.linked
  split at hs
  · simp at hs
  rename_i found hf
  obtain ⟨rfl, hw⟩ : found = request ∧ _ = w' := by simpa [and_comm] using hs
  rw [hq.backends] at hf hw
  obtain ⟨hmem, hurb⟩ := findUrbLocked_some hf
  refine ⟨hmem, hurb, hw ▸ ?_⟩
  rw [← hlinked]
  exact (quiet_relist hq _ _).andThen (quiet_setUrb w₁ h _ u { w₁.urbs u with linked := false })

/-- A request found by device is pending, and for that device. -/
theorem findPendingDeviceLocked_some {device : DevicePtr} {request : Request}
    (hf : w.findPendingDeviceLocked h device = some request) :
    request ∈ (w.backends h).pending ∧ w.requestDevice request = device :=
  ⟨List.mem_of_find?_eq_some hf, by simpa using List.find?_some hf⟩

/-- A request found by id is active at its owner, and its transfer has that id. -/
theorem findIdLocked_some {owner : FilePtr} {transferId : BitVec 64} {request : Request}
    (hf : w.findIdLocked h owner transferId = some request) :
    request ∈ (w.backends h).active ∧ request.owner = some owner ∧
      (w.transfers request.transfer).id = transferId :=
  ⟨List.mem_of_find?_eq_some hf, by simpa using List.find?_some hf⟩

/-- A fetch that fails leaves no trace. -/
theorem fetchLocked_failed {owner : FilePtr} {e : Errno}
    (hs : w.fetchLocked h owner = (w', .failed e)) : w' = w := by
  simp only [fetchLocked] at hs
  split at hs
  · exact (congrArg Prod.fst hs).symm
  split at hs
  · simp at hs
  split at hs
  · exact (congrArg Prod.fst hs).symm
  · simp at hs

/-- A fetch that finds nothing leaves no trace. -/
theorem fetchLocked_empty {owner : FilePtr} (hs : w.fetchLocked h owner = (w', .empty)) :
    w' = w := by
  simp only [fetchLocked] at hs
  split at hs
  · simp at hs
  split at hs
  · simp at hs
  split at hs
  · simp at hs
  · exact (congrArg Prod.fst hs).symm

/-- What a fetch finds, and the exact state it leaves: the request goes from `pending` to the end
of `active`, and its transfer gains a reference. -/
theorem fetchLocked_taken_eq {owner : FilePtr} {request : Request}
    (hs : w.fetchLocked h owner = (w', .taken request)) :
    (∃ binding, (w.backends h).findOwnerLocked owner = some binding ∧
      w.findPendingDeviceLocked h binding.device = some request) ∧
      w' = (w.setBackend h
        { w.backends h with
          pending := (w.backends h).pending.erase request
          active := (w.backends h).active ++ [{ request with owner := some owner }] }).transferGet
        request.transfer := by
  simp only [fetchLocked] at hs
  split at hs
  · simp at hs
  rename_i binding hb
  split at hs
  · rename_i found hf
    obtain ⟨rfl, rfl⟩ : found = request ∧ _ = w' := by simpa [and_comm] using hs
    exact ⟨⟨binding, hb, hf⟩, rfl⟩
  · split at hs <;> simp at hs

/-- The same with the reference count out of view. -/
theorem fetchLocked_taken {owner : FilePtr} {request : Request}
    (hs : w.fetchLocked h owner = (w', .taken request)) :
    ∃ binding ∈ (w.backends h).bindings, binding.owner = owner ∧
      w.findPendingDeviceLocked h binding.device = some request ∧
      Quiet T [] (w.relist h
        { w.backends h with
          pending := (w.backends h).pending.erase request
          active := (w.backends h).active ++ [{ request with owner := some owner }] }
        w.linked) w' := by
  obtain ⟨⟨binding, hb, hf⟩, rfl⟩ := fetchLocked_taken_eq hs
  obtain ⟨hmem, howner⟩ := findOwnerLocked_some hb
  exact ⟨binding, hmem, howner, hf, .transferGet _ _⟩

/-- A rollback that finds no request leaves no trace. -/
theorem rollbackLocked_error {owner : FilePtr} {transferId : BitVec 64} {e : Errno}
    (hs : w.rollbackLocked h owner transferId = (w', .error e)) : w' = w := by
  simp only [rollbackLocked] at hs
  split at hs
  · exact (congrArg Prod.fst hs).symm
  · simp at hs

/-- A rollback succeeds exactly on a request that the id finds. -/
theorem rollbackLocked_eq_ok {owner : FilePtr} {transferId : BitVec 64} {request : Request} :
    (∃ w', w.rollbackLocked h owner transferId = (w', .ok request)) ↔
      w.findIdLocked h owner transferId = some request := by
  cases hf : w.findIdLocked h owner transferId <;> simp [rollbackLocked, hf]

/-- A rollback puts its request at the head of `pending`, without an owner. -/
theorem rollbackLocked_ok {owner : FilePtr} {transferId : BitVec 64} {request : Request}
    (hs : w.rollbackLocked h owner transferId = (w', .ok request)) :
    request ∈ (w.backends h).active ∧ request.owner = some owner ∧
      (w.transfers request.transfer).id = transferId ∧
      w' = w.relist h
        { w.backends h with
          active := (w.backends h).active.erase request
          pending := { request with owner := none } :: (w.backends h).pending } w.linked := by
  simp only [rollbackLocked] at hs
  split at hs
  · simp at hs
  rename_i found hf
  obtain ⟨rfl, rfl⟩ : found = request ∧ _ = w' := by simpa [and_comm] using hs
  obtain ⟨hmem, howner, hid⟩ := findIdLocked_some hf
  exact ⟨hmem, howner, hid, rfl⟩

/-- A completion that finds no request leaves no trace. -/
theorem completeLocked_error {owner : FilePtr} {transferId : BitVec 64} {e : Errno}
    (hs : w.completeLocked h owner transferId = (w', .error e)) : w' = w := by
  simp only [completeLocked] at hs
  split at hs
  · exact (congrArg Prod.fst hs).symm
  · simp at hs

/-- A completion takes the request of its id off `active` and unlinks the URB. -/
theorem completeLocked_ok {owner : FilePtr} {transferId : BitVec 64} {request : Request}
    (hs : w.completeLocked h owner transferId = (w', .ok request)) :
    request ∈ (w.backends h).active ∧ request.owner = some owner ∧
      (w.transfers request.transfer).id = transferId ∧
      Quiet T [] (w.relist h
        { w.backends h with active := (w.backends h).active.erase request }
        (Function.update w.linked request.urb false)) w' := by
  simp only [completeLocked] at hs
  split at hs
  · simp at hs
  rename_i found hf
  obtain ⟨rfl, rfl⟩ : found = request ∧ _ = w' := by simpa [and_comm] using hs
  obtain ⟨hmem, howner, hid⟩ := findIdLocked_some hf
  exact ⟨hmem, howner, hid,
    quiet_setUrb w h _ _ { w.urbs found.urb with linked := false }⟩

/-- Without a binding of the owner, the first section of a release does nothing. -/
theorem releaseUnbindLocked_none {owner : FilePtr}
    (hs : w.releaseUnbindLocked h owner = (w', none)) : w' = w := by
  simp only [releaseUnbindLocked] at hs
  split at hs
  · exact (congrArg Prod.fst hs).symm
  · simp at hs

/-- The first section of a release takes the binding of its owner off the list. -/
theorem releaseUnbindLocked_some {owner : FilePtr} {binding : Binding}
    (hs : w.releaseUnbindLocked h owner = (w', some binding)) :
    binding ∈ (w.backends h).bindings ∧ binding.owner = owner ∧
      w' = w.relist h
        { w.backends h with bindings := (w.backends h).bindings.erase binding } w.linked := by
  simp only [releaseUnbindLocked] at hs
  split at hs
  · simp at hs
  rename_i found hf
  obtain ⟨rfl, rfl⟩ : found = binding ∧ _ = w' := by simpa [and_comm] using hs
  obtain ⟨hmem, howner⟩ := findOwnerLocked_some hf
  exact ⟨hmem, howner, rfl⟩

/-- What a pass of the release picks is in one of the lists. -/
theorem mem_of_releasePick {owner : FilePtr} {device : DevicePtr} {request : Request}
    (hp : w.releasePick h owner device = some request) :
    request ∈ (w.backends h).pending ++ (w.backends h).active := by
  rw [releasePick, Option.or_eq_some_iff] at hp
  rcases hp with hf | ⟨-, hf⟩
  · exact List.mem_append_left _ (findPendingDeviceLocked_some hf).1
  · exact List.mem_append_right _ (List.mem_of_find?_eq_some hf)

/-- A pass that picks nothing ends the drain, and leaves no trace. -/
theorem releaseDrainLocked_none {owner : FilePtr} {device : DevicePtr}
    (hs : w.releaseDrainLocked h owner device = (w', none)) :
    w' = w ∧ w.releasePick h owner device = none := by
  simp only [releaseDrainLocked] at hs
  split at hs
  · rename_i hp
    exact ⟨(congrArg Prod.fst hs).symm, hp⟩
  · simp at hs

/-- A pass takes the request it picks off its list and unlinks the URB. -/
theorem releaseDrainLocked_some {owner : FilePtr} {device : DevicePtr} {request : Request}
    (hs : w.releaseDrainLocked h owner device = (w', some request)) :
    w.releasePick h owner device = some request ∧
      Quiet T [] (w.relist h ((w.backends h).listDel request)
        (Function.update w.linked request.urb false)) w' := by
  simp only [releaseDrainLocked] at hs
  split at hs
  · simp at hs
  rename_i found hf
  obtain ⟨rfl, rfl⟩ : found = request ∧ _ = w' := by simpa [and_comm] using hs
  exact ⟨hf, quiet_setUrb w h _ _ { w.urbs found.urb with linked := false }⟩

/-- A stop is through with the requests when both lists are empty. -/
theorem stopDrainLocked_none (hs : w.stopDrainLocked h = (w', none)) :
    w' = w ∧ (w.backends h).pending = [] ∧ (w.backends h).active = [] := by
  simp only [stopDrainLocked] at hs
  split at hs
  · simp at hs
  · simp at hs
  · rename_i hp ha
    exact ⟨(congrArg Prod.fst hs).symm, hp, ha⟩

/-- A pass of a stop takes a request off its list and unlinks the URB. -/
theorem stopDrainLocked_some {request : Request} (hs : w.stopDrainLocked h = (w', some request)) :
    request ∈ (w.backends h).pending ++ (w.backends h).active ∧
      Quiet T [] (w.relist h ((w.backends h).listDel request)
        (Function.update w.linked request.urb false)) w' := by
  simp only [stopDrainLocked] at hs
  split at hs
  · rename_i found rest hp
    obtain ⟨rfl, rfl⟩ : found = request ∧ _ = w' := by simpa [and_comm] using hs
    refine ⟨by simp [hp], ?_⟩
    have hdel : (w.backends h).listDel found = { w.backends h with pending := rest } := by
      simp [Backend.listDel, hp]
    exact hdel ▸ quiet_setUrb w h _ _ { w.urbs found.urb with linked := false }
  · rename_i found rest hp ha
    obtain ⟨rfl, rfl⟩ : found = request ∧ _ = w' := by simpa [and_comm] using hs
    refine ⟨by simp [ha], ?_⟩
    have hdel : (w.backends h).listDel found = { w.backends h with active := rest } := by
      simp [Backend.listDel, hp, ha]
    exact hdel ▸ quiet_setUrb w h _ _ { w.urbs found.urb with linked := false }
  · simp at hs

/-- A stop is through with the bindings when there are none. -/
theorem stopUnbindLocked_none (hs : w.stopUnbindLocked h = (w', none)) :
    w' = w ∧ (w.backends h).bindings = [] := by
  simp only [stopUnbindLocked] at hs
  split at hs
  · simp at hs
  · rename_i hb
    exact ⟨(congrArg Prod.fst hs).symm, hb⟩

/-- A pass of a stop takes the first binding off the list. -/
theorem stopUnbindLocked_some {binding : Binding}
    (hs : w.stopUnbindLocked h = (w', some binding)) :
    ∃ rest, (w.backends h).bindings = binding :: rest ∧
      w' = w.relist h { w.backends h with bindings := rest } w.linked := by
  simp only [stopUnbindLocked] at hs
  split at hs
  · rename_i found rest hb
    obtain ⟨rfl, rfl⟩ : found = binding ∧ _ = w' := by simpa [and_comm] using hs
    exact ⟨rest, hb, rfl⟩
  · simp at hs

/-- A registration that is refused leaves no trace. -/
theorem registerLocked_error {owner : FilePtr} {device : DevicePtr} {e : Errno}
    (hs : w.registerLocked h owner device = (w', .error e)) : w' = w := by
  simp only [registerLocked] at hs
  split at hs
  · exact (congrArg Prod.fst hs).symm
  split at hs
  · exact (congrArg Prod.fst hs).symm
  · simp at hs

/-- A registration adds its binding, when the backend is not stopping and neither the owner nor the
device has one. -/
theorem registerLocked_ok {owner : FilePtr} {device : DevicePtr}
    (hs : w.registerLocked h owner device = (w', .ok ())) :
    (w.backends h).stopping = false ∧
      (∀ b ∈ (w.backends h).bindings, b.owner ≠ owner ∧ b.device ≠ device) ∧
      w' = w.relist h
        { w.backends h with bindings := (w.backends h).bindings ++ [⟨device, owner⟩] }
        w.linked := by
  simp only [registerLocked] at hs
  split at hs
  · simp at hs
  rename_i hstop
  split at hs
  · simp at hs
  rename_i hfind
  refine ⟨by simpa using hstop, fun b hb => ?_, (congrArg Prod.fst hs).symm⟩
  simp only [Backend.findOwnerLocked, Backend.findDeviceLocked, Bool.or_eq_true,
    List.find?_isSome, decide_eq_true_eq, not_or, not_exists, not_and] at hfind
  exact ⟨hfind.1 b hb, hfind.2 b hb⟩

end World

end VirtUsb
