/-
# Completions from user space

A completion message is not trusted: its length is compared with the length of the
transfer, which is at most the payload of a message and has buffers of that length on
both sides, so what the two copies touch is theirs.
-/

import VirtUsb.Serving.Calls

namespace VirtUsb

open Transition

/-! ### Copies -/

/-- A copy of no bytes. -/
theorem memcpy_zero (dst src : ℕ → Byte) : memcpy dst src 0 = dst := by
  funext i
  simp [memcpy]

/-- Two copies of one length, one after the other. -/
theorem memcpy_memcpy (dst mid src : ℕ → Byte) (n : ℕ) :
    memcpy dst (memcpy mid src n) n = memcpy dst src n := by
  funext i
  simp only [memcpy]
  split <;> rfl

/-- A copy that stays within both of its buffers. -/
def Copy.Within (c : Copy) : Prop :=
  (∃ n, c.dst = some n ∧ c.length ≤ n) ∧ ∃ n, c.src = some n ∧ c.length ≤ n

/-- The URB has a buffer of the length that it states. -/
def Urb.Holds (x : Urb) : Prop :=
  0 < x.transferBufferLength →
    ∃ b, x.transferBuffer = some b ∧ x.transferBufferLength ≤ b.size

/-- The URB after `n` bytes were transferred, which are in `data` if they came in. -/
def Urb.transferred (x : Urb) (direction : TransferDirection) (data : ℕ → Byte) (n : ℕ) : Urb :=
  { x with
    actualLength := n
    transferBuffer :=
      match direction with
      | .in => x.transferBuffer.map fun b => { b with bytes := memcpy b.bytes data n }
      | .out => x.transferBuffer }

namespace World

variable {N : ℕ} {h : HcdId} {w w' : World} {f : FilePtr} {r : Request} {data : ℕ → Byte} {n : ℕ}
  {completion : TransferCompleteRequest}

/-- The URBs, and the copies made so far. -/
def io (w : World) : (UrbPtr → Urb) × List Copy := (w.urbs, w.copies)

/-- `virtusb_transfer_put` copies nothing and touches no URB. -/
theorem io_transferPut (w : World) (t : TransferPtr) : (w.transferPut t).io = w.io := by
  have hput : ∀ (v : World) (d : DevicePtr), (v.objectPut d).io = v.io := fun v d => by
    rw [objectPut]
    split <;> rfl
  rw [transferPut]
  split
  · exact hput _ _
  · rfl

/-- `virtusb_backend_giveback` copies nothing. -/
theorem io_backendGiveback (w : World) (r : Request) (status : ℤ) :
    (w.backendGiveback r status).io = w.io :=
  io_transferPut _ _

/-- `virtusb_transfer_cancel` copies nothing and touches no URB. -/
theorem io_transferCancel (w : World) (t : TransferPtr) (status : ℤ) :
    (w.transferCancel t status).1.io = w.io := by
  simp only [transferCancel]
  split <;> rfl

/-! ### The copies of a completion -/

/-- What the copies do to the transfer. -/
theorem transfers_completeCopy (w : World) (r : Request) (data : ℕ → Byte) (n : ℕ) :
    ∃ buffer, (w.completeCopy r data n).transfers r.transfer =
      { w.transfers r.transfer with buffer := buffer } := by
  simp only [completeCopy]
  split
  · exact ⟨_, Function.update_self _ _ _⟩
  · exact ⟨(w.transfers r.transfer).buffer, rfl⟩

/-- What the copies do to the URB, and that they stay within their buffers. -/
theorem io_completeCopy (hw : w.Loaded r) (hurb : (w.urbs r.urb).Holds)
    (hn : n ≤ (w.transfers r.transfer).requestedLength) :
    ∃ made, (∀ c ∈ made, c.Within) ∧ (w.completeCopy r data n).copies = w.copies ++ made ∧
      (w.completeCopy r data n).urbs = Function.update w.urbs r.urb
        { w.urbs r.urb with
          transferBuffer :=
            ((w.urbs r.urb).transferred (w.transfers r.transfer).direction data
              n).transferBuffer } := by
  have hsame : Function.update w.urbs r.urb { w.urbs r.urb with
      transferBuffer := (w.urbs r.urb).transferBuffer } = w.urbs := Function.update_eq_self _ _
  rcases hd : (w.transfers r.transfer).direction with _ | _
  · refine ⟨[], by simp, ?_⟩
    simp only [completeCopy, hd, reduceCtorEq, false_and, if_false, List.append_nil,
      Urb.transferred, hsame, and_self]
  rcases Nat.eq_zero_or_pos n with rfl | hpos
  · refine ⟨[], by simp, ?_⟩
    have hbytes : ((w.urbs r.urb).transferBuffer.map fun b =>
        { b with bytes := memcpy b.bytes data 0 }) = (w.urbs r.urb).transferBuffer := by
      simp only [memcpy_zero, Option.map_id']
    simp only [completeCopy, hd, Nat.lt_irrefl, and_false, if_false, List.append_nil,
      Urb.transferred, hbytes, hsame, and_self]
  have hlength := hw.length
  obtain ⟨ub, hub, hule⟩ := hurb (by rw [lengths] at hlength; omega)
  obtain ⟨tb, htb, htsize⟩ : ∃ b, (w.transfers r.transfer).buffer = some b ∧
      b.size = (w.transfers r.transfer).requestedLength := by
    have hbuffer := hw.buffer
    rw [if_neg (by omega)] at hbuffer
    exact Option.map_eq_some_iff.1 hbuffer
  have hlimit := hw.limit
  rw [lengths] at hlength
  refine ⟨[⟨some tb.size, some transferDataMax, n⟩, ⟨some ub.size, some tb.size, n⟩], ?_, ?_, ?_⟩
  · intro c hc
    simp only [List.mem_cons, List.not_mem_nil, or_false] at hc
    rcases hc with rfl | rfl
    · exact ⟨⟨_, rfl, by dsimp only; omega⟩, _, rfl, by dsimp only; omega⟩
    · exact ⟨⟨_, rfl, by dsimp only; omega⟩, _, rfl, by dsimp only; omega⟩
  · simp [completeCopy, hd, hpos, copy, recordCopy, setTransfer, setUrb, htb, hub]
  · simp [completeCopy, hd, hpos, copy, recordCopy, setTransfer, setUrb, htb, hub,
      Urb.transferred, memcpy_memcpy]

/-! ### The end of a completion -/

/-- A message that is too long. -/
theorem completeTail_long (hn : (w.transfers r.transfer).requestedLength < completion.actualLength) :
    w.completeTail r completion =
      ((w.transferCancel r.transfer Errno.EMSGSIZE.status).1.backendGiveback r
        Errno.EMSGSIZE.status, .error .EMSGSIZE) := by
  simp only [completeTail, if_pos (Or.inl hn)]

/-- A message that is not too long. -/
theorem completeTail_short (hw : w.Loaded r)
    (hn : completion.actualLength ≤ (w.transfers r.transfer).requestedLength) :
    ∃ x, x.status = completion.status ∧ x.device = w.device r.transfer ∧
      x.id = (w.transfers r.transfer).id ∧
      w.completeTail r completion =
        ((((w.completeCopy r completion.data completion.actualLength).setTransfer r.transfer
            x).setUrb r.urb
          { (w.completeCopy r completion.data completion.actualLength).urbs r.urb with
            actualLength := completion.actualLength }).backendGiveback r completion.status,
          .ok ()) := by
  obtain ⟨buffer, hx⟩ := transfers_completeCopy w r completion.data completion.actualLength
  have hlimit := hw.limit
  have hstate := hw.state
  have hfits : ¬ (completion.actualLength > (w.transfers r.transfer).requestedLength ∨
      completion.actualLength > transferDataMax) := by
    omega
  refine ⟨{ w.transfers r.transfer with
    buffer := buffer, actualLength := completion.actualLength, status := completion.status
    state := .completed }, rfl, rfl, rfl, ?_⟩
  have hopen : ¬ (TransferState.queued ≠ .new ∧ TransferState.queued ≠ .queued) := by simp
  simp only [completeTail, if_neg hfits, transferComplete, hx, hstate, if_neg hopen,
    if_neg (Nat.not_lt.2 hn)]
  rfl

/-- The world without an active request, its URB being unlinked. -/
def takeActive (w : World) (h : HcdId) (r : Request) : World :=
  (w.setBackend h { w.backends h with
    active := (w.backends h).active.erase r }).usbHcdUnlinkUrbFromEp r.urb

/-- The request found under an id is taken off its list, and then finished. -/
theorem backendComplete_found (hne : completion.transferId ≠ 0)
    (hf : w.findIdLocked h f completion.transferId = some r) :
    w.backendComplete h f completion = (w.takeActive h r).completeTail r completion := by
  simp only [backendComplete, if_neg hne, completeLocked, hf]
  rfl

/-- Taking a request off its list unlinks its URB. -/
theorem urbs_takeActive (w : World) (h : HcdId) (r : Request) :
    (w.takeActive h r).urbs = Function.update w.urbs r.urb { w.urbs r.urb with linked := false } :=
  rfl

/-- Apart from the list and the link, nothing happens. -/
theorem quiet_takeActive (w : World) (h : HcdId) (r : Request) {T : Set TransferPtr} :
    Quiet T [] (w.relist h { w.backends h with active := (w.backends h).active.erase r }
      (Function.update w.linked r.urb false)) (w.takeActive h r) :=
  quiet_setUrb w h _ _ { w.urbs r.urb with linked := false }

/-- A request that is taken off its list keeps its buffer. -/
theorem Loaded.takeActive (hw : w.Loaded r) (h : HcdId) : (w.takeActive h r).Loaded r :=
  hw.congr rfl rfl (congrFun (lengths_usbHcdUnlinkUrbFromEp _ _) _)

end World

/-! ### What a completion does -/

open World

/-- From `w` to `w'` the active request `r` was finished at controller `h` with this
status, its URB being then `x`. -/
structure RequestFinished (N : ℕ) (h : HcdId) (r : Request) (status : ℤ) (x : Urb)
    (w w' : World) : Prop where
  backends : w'.backends = Function.update w.backends h
    { w.backends h with active := (w.backends h).active.filter fun r' => r' ≠ r }
  gone : r ∉ w'.requests h
  transfers : ∀ h' < N, ∀ r' ∈ w'.requests h', w'.transfers r'.transfer = w.transfers r'.transfer
  givebacks : w'.givebacks = w.givebacks ++ [⟨r.urb, status⟩]
  urbs : w'.urbs = Function.update w.urbs r.urb { x with linked := false }
  status : (w'.transfers r.transfer).status = status
  copies : ∃ made, w'.copies = w.copies ++ made ∧ ∀ c ∈ made, c.Within

variable {N : ℕ} {h : HcdId} {w w' : World} {f : FilePtr} {r : Request}
  {completion : TransferCompleteRequest}

/-- A request is found under its id while ids do not repeat. -/
theorem World.Serving.findIdLocked_eq (hw : w.Serving N) (hh : h < N) (hlt : w.nextTransfer < 2 ^ 64)
    (hr : r ∈ (w.backends h).active) (howner : r.owner = some f) :
    w.findIdLocked h f (w.transfers r.transfer).id = some r ∧ (w.transfers r.transfer).id ≠ 0 := by
  have hmem : ∀ r' ∈ (w.backends h).active, r'.transfer < w.nextTransfer := fun r' hr' =>
    (hw.loaded h hh r' (List.mem_append_right _ hr')).1
  have hid : ∀ r' ∈ (w.backends h).active,
      (w.transfers r'.transfer).id.toNat = r'.transfer + 1 := by
    intro r' hr'
    have hsmall := hmem r' hr'
    rw [hw.ids _ hsmall, BitVec.toNat_ofNat]
    exact Nat.mod_eq_of_lt (Nat.lt_of_le_of_lt hsmall hlt)
  constructor
  · have hsome : (w.findIdLocked h f (w.transfers r.transfer).id).isSome := by
      rw [findIdLocked, List.find?_isSome]
      exact ⟨r, hr, by simp [howner]⟩
    obtain ⟨r', hr'⟩ := Option.isSome_iff_exists.1 hsome
    obtain ⟨hmem', -, hsame⟩ := findIdLocked_some hr'
    have htransfer : r'.transfer = r.transfer := by
      have htoNat := congrArg BitVec.toNat hsame
      rw [hid r' hmem', hid r hr] at htoNat
      exact Nat.succ.inj htoNat
    rw [hr', List.inj_on_of_nodup_map (hw.nodup h hh) (List.mem_append_right _ hmem')
      (List.mem_append_right _ hr) htransfer]
  · intro hzero
    have htoNat := hid r hr
    rw [hzero] at htoNat
    exact Nat.succ_ne_zero _ htoNat.symm

/-- What is left to show of the end of a completion. -/
theorem RequestFinished.of_tail {status : ℤ} {x : Urb} (hs : w.Steady N) (hw : w.Serving N)
    (hh : h < N) (hmem : r ∈ (w.backends h).active) (ha' : w'.Accounts N 0 0)
    (hq : Quiet {r.transfer} [⟨r.urb, status⟩] (w.takeActive h r) w')
    (hl : w'.lengths = w.lengths) (hstatus : (w'.transfers r.transfer).status = status)
    (hurbs : w'.urbs = Function.update w.urbs r.urb { x with linked := false })
    (hcopies : ∃ made, w'.copies = w.copies ++ made ∧ ∀ c ∈ made, c.Within) :
    RequestFinished N h r status x w w' := by
  have hr : Relists h {r.transfer} [⟨r.urb, status⟩]
      { w.backends h with active := (w.backends h).active.erase r } w w' :=
    ⟨⟨_, (quiet_takeActive w h r).after hq⟩, hl⟩
  have hnodup : (w.backends h).active.Nodup := ((hw.nodup h hh).of_map _).of_append_right
  have herase : (w.backends h).active.erase r =
      (w.backends h).active.filter fun r' => r' ≠ r := by
    rw [hnodup.erase_eq_filter]
    refine List.filter_congr fun r' _ => ?_
    by_cases heq : r' = r <;> simp [heq]
  refine ⟨?_, fun hmem' => ?_, fun h' hh' r' hr' => ?_, hr.givebacks, hurbs, hstatus, hcopies⟩
  · rw [hr.backends, herase]
  · rw [requests, hr.backends, Function.update_self] at hmem'
    rcases List.mem_append.1 hmem' with hpending | hactive
    · obtain ⟨g, -, howner, -⟩ := (hw.bound h hh).active r hmem
      rw [((hw.bound h hh).pending r hpending).1] at howner
      exact absurd howner (by simp)
    · exact hnodup.not_mem_erase hactive
  · exact hw.transfer_eq hh (.completed r status hmem) hr hs.accounts ha' hh' hr'

/-- A completion that fits. -/
theorem RequestFinished.of_short (hs : w.Steady N) (hw : w.Serving N) (hh : h < N)
    (hne : completion.transferId ≠ 0)
    (hf : w.findIdLocked h f completion.transferId = some r) (hholds : (w.urbs r.urb).Holds)
    (hn : completion.actualLength ≤ (w.transfers r.transfer).requestedLength) :
    (w.backendComplete h f completion).2 = .ok () ∧
      RequestFinished N h r completion.status
        ((w.urbs r.urb).transferred (w.transfers r.transfer).direction completion.data
          completion.actualLength) w (w.backendComplete h f completion).1 := by
  obtain ⟨hmem, -⟩ := findIdLocked_some hf
  have ha' := hs.accounts.backendComplete (f := f) hh completion
  set w₁ := w.takeActive h r with hw₁
  have hurb : w₁.urbs r.urb = { w.urbs r.urb with linked := false } := Function.update_self _ _ _
  have hloaded : w₁.Loaded r := (hw.loaded h hh r (List.mem_append_right _ hmem)).2.takeActive h
  have hl := (lengths_completeTail w₁ r completion).trans (lengths_usbHcdUnlinkUrbFromEp _ _)
  obtain ⟨x, hstatus, hdevice, hid, hshort⟩ := completeTail_short hloaded hn
  obtain ⟨made, hwithin, hcopies, hurbs⟩ := io_completeCopy hloaded
    (hurb ▸ hholds) hn
  rw [backendComplete_found hne hf, ← hw₁, hshort] at ha' ⊢
  rw [hshort] at hl
  set copied := w₁.completeCopy r completion.data completion.actualLength
  have hcopied : Quiet {r.transfer} [] w₁ copied :=
    .completeCopy w₁ (Set.mem_singleton _) completion.data completion.actualLength
  set done := (copied.setTransfer r.transfer x).setUrb r.urb
    { copied.urbs r.urb with actualLength := completion.actualLength }
  have hdone : Quiet {r.transfer} [] copied done :=
    (Quiet.setTransfer copied (hdevice.trans (congrFun hcopied.device _).symm)
      (hid.trans (hcopied.transferId _).symm) (.inl (Set.mem_singleton _))).andThen
      (.setUrb _ rfl)
  have hgiven : Quiet ∅ _ done (done.backendGiveback r completion.status) := .backendGiveback ..
  have hio := io_backendGiveback done r completion.status
  have hout : (done.transfers r.transfer).status = completion.status := by
    rw [← hstatus]
    exact congrArg Transfer.status (Function.update_self _ _ _)
  refine ⟨rfl, .of_tail hs hw hh hmem ha' ((hcopied.andThen hdone).after (.backendGiveback ..))
    hl ?_ ?_ ⟨made, ?_, hwithin⟩⟩
  · have hkept := hgiven.content r.transfer (Set.notMem_empty _)
    exact Eq.trans (congrArg Transfer.status hkept :) hout
  · have hset : done.urbs = Function.update copied.urbs r.urb
      { copied.urbs r.urb with actualLength := completion.actualLength } := rfl
    have hgivenUrbs : (done.backendGiveback r completion.status).urbs = done.urbs :=
      congrArg Prod.fst hio
    rw [hgivenUrbs, hset, hurbs, Function.update_self, Function.update_idem, hw₁, urbs_takeActive,
      Function.update_self, Function.update_idem]
    rfl
  · have hgivenCopies : (done.backendGiveback r completion.status).copies = done.copies :=
      congrArg Prod.snd hio
    exact hgivenCopies.trans hcopies

/-- A completion that does not fit. -/
theorem RequestFinished.of_long (hs : w.Steady N) (hw : w.Serving N) (hh : h < N)
    (hne : completion.transferId ≠ 0)
    (hf : w.findIdLocked h f completion.transferId = some r)
    (hn : (w.transfers r.transfer).requestedLength < completion.actualLength) :
    (w.backendComplete h f completion).2 = .error .EMSGSIZE ∧
      RequestFinished N h r Errno.EMSGSIZE.status (w.urbs r.urb) w
        (w.backendComplete h f completion).1 := by
  obtain ⟨hmem, -⟩ := findIdLocked_some hf
  have ha' := hs.accounts.backendComplete (f := f) hh completion
  set w₁ := w.takeActive h r with hw₁
  have hloaded : w₁.Loaded r := (hw.loaded h hh r (List.mem_append_right _ hmem)).2.takeActive h
  have hl := (lengths_completeTail w₁ r completion).trans (lengths_usbHcdUnlinkUrbFromEp _ _)
  have hlong : w₁.completeTail r completion = _ := completeTail_long hn
  rw [backendComplete_found hne hf, ← hw₁, hlong] at ha' ⊢
  rw [hlong] at hl
  set done := (w₁.transferCancel r.transfer Errno.EMSGSIZE.status).1 with hdone
  have hcancel : Quiet {r.transfer} [] w₁ done := .transferCancel w₁ (Set.mem_singleton _) _
  have hgiven : Quiet ∅ _ done (done.backendGiveback r Errno.EMSGSIZE.status) :=
    .backendGiveback ..
  have hio := (io_backendGiveback done r Errno.EMSGSIZE.status).trans (io_transferCancel w₁ _ _)
  have hout : (done.transfers r.transfer).status = Errno.EMSGSIZE.status := by
    simp [hdone, transferCancel, hloaded.state, setTransfer]
  refine ⟨rfl, .of_tail hs hw hh hmem ha' (hcancel.after (.backendGiveback ..)) hl ?_
    (congrArg Prod.fst hio) ⟨[], ?_, by simp⟩⟩
  · have hkept := hgiven.content r.transfer (Set.notMem_empty _)
    exact Eq.trans (congrArg Transfer.status hkept :) hout
  · rw [List.append_nil]
    exact congrArg Prod.snd hio

/-- **A completion is obeyed as far as its length allows.** -/
theorem completion_obeyed {N : ℕ} {w : World} (hw : (calls N).Reachable w) {h : HcdId}
    (hh : h < N) (f : FilePtr) (completion : TransferCompleteRequest) :
    (w.nextTransfer < 2 ^ 64 → ∀ r ∈ (w.backends h).active, r.owner = some f →
      (w.transfers r.transfer).id = completion.transferId → completion.transferId ≠ 0 ∧
        w.findIdLocked h f completion.transferId = some r) ∧
    ∀ r, completion.transferId ≠ 0 → w.findIdLocked h f completion.transferId = some r →
      (w.urbs r.urb).Holds →
      (completion.actualLength ≤ (w.transfers r.transfer).requestedLength →
        (w.backendComplete h f completion).2 = .ok () ∧
        RequestFinished N h r completion.status
          ((w.urbs r.urb).transferred (w.transfers r.transfer).direction completion.data
            completion.actualLength) w (w.backendComplete h f completion).1) ∧
      ((w.transfers r.transfer).requestedLength < completion.actualLength →
        (w.backendComplete h f completion).2 = .error .EMSGSIZE ∧
        RequestFinished N h r Errno.EMSGSIZE.status (w.urbs r.urb) w
          (w.backendComplete h f completion).1) := by
  have hsteady := steady_of_reachable hw
  have hserving := serving_of_reachable hw
  refine ⟨fun hlt r hr howner hid => ?_, fun r hne hf hholds => ?_⟩
  · have hfound := hserving.findIdLocked_eq hh hlt hr howner
    rw [hid] at hfound
    exact ⟨hfound.2, hfound.1⟩
  exact ⟨RequestFinished.of_short hsteady hserving hh hne hf hholds,
    RequestFinished.of_long hsteady hserving hh hne hf⟩

/-- File 5 completes a read of four bytes with three. -/
theorem completion_obeyed_example : ∃ w, (calls 1).Reachable w ∧
    (w.backendComplete 0 5 ⟨1, 0, 3, fun _ => 9⟩).2 = .ok () ∧
    (w.backendComplete 0 5 ⟨1, 0, 3, fun _ => 9⟩).1.givebacks = w.givebacks ++ [⟨7, 0⟩] := by
  obtain ⟨w, hw, hp⟩ := exists_reachable_of_exec (I := Initialised)
    (f := fun w c => if Call.Possible 1 w c then some (w.call c) else none) (s := oneHub)
    (l := Call.plugIn 5 ++ [.urbEnqueue 0 7 .bulkIn {},
      .ioctl 0 true 5 true ioctlTransferFetch (.ofWords []) {}])
    (p := fun w => w.nextTransfer = 1 ∧ (w.backends 0).active = [⟨7, 0, some 5⟩] ∧
      (w.transfers 0).id = 1 ∧ (w.transfers 0).requestedLength = 4 ∧
      (w.urbs 7).transferBufferLength = 4 ∧
      ((w.urbs 7).transferBuffer.map Buffer.size) = some 4)
    oneHub_initialised (by decide)
  obtain ⟨hnext, hactive, hid, hlength, hurb, hbuffer⟩ := of_decide_eq_true hp
  obtain ⟨hfound, hcomplete⟩ := completion_obeyed hw Nat.one_pos 5 ⟨1, 0, 3, fun _ => 9⟩
  obtain ⟨hne, hf⟩ := hfound (by rw [hnext]; decide) ⟨7, 0, some 5⟩
    (hactive ▸ List.mem_singleton_self _) rfl hid
  have hholds : (w.urbs 7).Holds := fun _ => by
    obtain ⟨b, hb, hsize⟩ := Option.map_eq_some_iff.1 hbuffer
    exact ⟨b, hb, by omega⟩
  obtain ⟨hok, hfinished⟩ := (hcomplete _ hne hf hholds).1 (by rw [hlength]; decide)
  exact ⟨w, hw, hok, hfinished.givebacks⟩

end VirtUsb
