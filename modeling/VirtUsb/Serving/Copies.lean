/-
# The copies for one URB

Which buffers the copies for a URB need is decided when it is accepted; the copies are made
when it is accepted, fetched and completed.  What is copied then is the URB that was handed
over: nothing but its links, its bytes and the length that was transferred changes while it
is queued (`World.shapes_of_run`).  `virtusb_hcd_urb_enqueue` checks the buffer of a URB that
goes out and not of one that comes in, so the second copy of a completion may be to `NULL`.
-/

import VirtUsb.Serving.Admission
import VirtUsb.Serving.Loan

namespace VirtUsb

open Transition

namespace World

variable {N : ℕ} {h : HcdId} {w w' : World} {d : DevicePtr} {u : UrbPtr} {f : FilePtr}
  {env : Env}

/-! ### What a call changes of the URBs -/

/-- The control plane leaves URBs alone. -/
theorem shapes_of_traffic (ht : w'.traffic = w.traffic) : w'.shapes = w.shapes := by
  have hurbs : w'.urbs = w.urbs := (congrArg World.urbs ht :)
  funext u
  rw [shapes, shapes, hurbs]

/-- So does a drain whose section does. -/
theorem shapes_drain {take : World → World × Option Request}
    (htake : ∀ v, (take v).1.shapes = v.shapes) (fuel : ℕ) (w : World) :
    (drain take fuel w).shapes = w.shapes := by
  induction fuel generalizing w with
  | zero => rfl
  | succ fuel ih =>
      have hpass := htake w
      rw [drain]
      rcases hs : take w with ⟨v, _ | r⟩
      · rwa [hs] at hpass
      · rw [hs] at hpass
        exact (ih _).trans ((shapes_drainTail v r).trans hpass)

/-- `virtusb_backend_register` keeps the shape of every URB. -/
theorem shapes_backendRegister (w : World) (h : HcdId) (f : FilePtr) (d : DevicePtr) (env : Env) :
    (w.backendRegister h f d env).1.shapes = w.shapes := by
  rw [backendRegister, registerPrepare]
  rcases env.bindingAlloc with _ | _
  · rfl
  simp only [Bool.not_true, Bool.false_eq_true, if_false]
  rcases hs : (w.objectGet d).registerLocked h f d with ⟨v, e | _⟩
  · rw [registerLocked_error hs]
    exact shapes_objectPut _ d
  · obtain ⟨-, -, rfl⟩ := registerLocked_ok hs
    rfl

/-- `virtusb_backend_cancel` keeps the shape of every URB. -/
theorem shapes_backendCancel (w : World) (h : HcdId) (u : UrbPtr) (status : ℤ) :
    (w.backendCancel h u status).1.shapes = w.shapes := by
  have hlocked := shapes_cancelLocked w h u
  rw [backendCancel]
  rcases hs : w.cancelLocked h u with ⟨v, e | r⟩
  · rwa [hs] at hlocked
  · rw [hs] at hlocked
    refine Eq.trans ?_ hlocked
    exact (shapes_backendGiveback _ r status).trans (shapes_transferCancel v r.transfer status)

/-- `virtusb_backend_fetch` keeps the shape of every URB. -/
theorem shapes_backendFetch (w : World) (h : HcdId) (f : FilePtr) (nonblock : Bool) :
    (w.backendFetch h f nonblock).1.shapes = w.shapes := by
  rw [backendFetch]
  rcases hs : w.fetchLocked h f with ⟨v, r | e | _⟩
  · obtain ⟨-, rfl⟩ := fetchLocked_taken_eq hs
    exact shapes_fetchTail _ r.transfer
  · rw [fetchLocked_failed hs]
  · rw [fetchLocked_empty hs]

/-- `virtusb_backend_fetch_rollback` keeps the shape of every URB. -/
theorem shapes_backendFetchRollback (w : World) (h : HcdId) (f : FilePtr) (id : BitVec 64) :
    (w.backendFetchRollback h f id).1.shapes = w.shapes := by
  rw [backendFetchRollback]
  split
  · rfl
  rcases hs : w.rollbackLocked h f id with ⟨v, e | r⟩
  · rw [rollbackLocked_error hs]
  · obtain ⟨-, -, -, rfl⟩ := rollbackLocked_ok hs
    rfl

/-- `virtusb_backend_complete` fills a buffer at most, and keeps the shape of every URB. -/
theorem shapes_backendComplete (w : World) (h : HcdId) (f : FilePtr)
    (completion : TransferCompleteRequest) :
    (w.backendComplete h f completion).1.shapes = w.shapes := by
  have hlocked := shapes_completeLocked w h f completion.transferId
  rw [backendComplete]
  split
  · rfl
  rcases hs : w.completeLocked h f completion.transferId with ⟨v, e | r⟩
  · rwa [hs] at hlocked
  · rw [hs] at hlocked
    exact (shapes_completeTail v r completion).trans hlocked

/-- `virtusb_backend_release_owner` keeps the shape of every URB. -/
theorem shapes_backendReleaseOwner (w : World) (h : HcdId) (f : FilePtr) :
    (w.backendReleaseOwner h f).shapes = w.shapes := by
  rw [backendReleaseOwner]
  rcases hs : w.releaseUnbindLocked h f with ⟨v, _ | binding⟩
  · rw [releaseUnbindLocked_none hs]
  · obtain ⟨-, -, rfl⟩ := releaseUnbindLocked_some hs
    refine (shapes_objectPut _ binding.device).trans (shapes_drain (fun v => ?_) _ _)
    rw [releaseDrainLocked]
    split
    · rfl
    · exact shapes_usbHcdUnlinkUrbFromEp _ _

/-- The second loop of a stop touches no URB. -/
theorem shapes_stopUnbind (h : HcdId) (fuel : ℕ) (w : World) :
    (stopUnbind h fuel w).shapes = w.shapes := by
  induction fuel generalizing w with
  | zero => rfl
  | succ fuel ih =>
      rw [stopUnbind]
      rcases hs : w.stopUnbindLocked h with ⟨v, _ | binding⟩
      · rw [(stopUnbindLocked_none hs).1]
      · obtain ⟨rest, -, rfl⟩ := stopUnbindLocked_some hs
        exact (ih _).trans (shapes_objectPut _ binding.device)

/-- `virtusb_backend_stop` keeps the shape of every URB. -/
theorem shapes_backendStop (w : World) (h : HcdId) : (w.backendStop h).shapes = w.shapes := by
  have hdrain : ∀ fuel (v : World),
      (drain (fun v => v.stopDrainLocked h) fuel v).shapes = v.shapes :=
    shapes_drain fun v => by
      simp only [stopDrainLocked]
      split
      · exact shapes_usbHcdUnlinkUrbFromEp _ _
      · exact shapes_usbHcdUnlinkUrbFromEp _ _
      · rfl
  exact (shapes_stopUnbind h _ _).trans (hdrain _ _)

/-! ### The copies of an acceptance -/

/-- A submission copies nothing, and links the URB at most. -/
theorem backendSubmit_io (w : World) (h : HcdId) (u : UrbPtr) (t : TransferPtr) (env : Env) :
    (w.backendSubmit h u t env).1.shapes = w.shapes ∧
      (w.backendSubmit h u t env).1.copies = w.copies := by
  have hput : ∀ v : World, (v.transferPut t).copies = v.copies := fun v =>
    congrArg Prod.snd (io_transferPut v t)
  have hmark : ((w.transferGet t).transferMarkQueued t).1.shapes = w.shapes ∧
      ((w.transferGet t).transferMarkQueued t).1.copies = w.copies := by
    rw [transferMarkQueued]
    split <;> exact ⟨rfl, rfl⟩
  have hprepare : (w.submitPrepare t env).1.shapes = w.shapes ∧
      (w.submitPrepare t env).1.copies = w.copies := by
    rw [submitPrepare]
    split
    · exact ⟨rfl, rfl⟩
    split
    · exact ⟨rfl, rfl⟩
    rcases hs : (w.transferGet t).transferMarkQueued t with ⟨v, e | _⟩
    · rw [hs] at hmark
      exact ⟨(shapes_transferPut v t).trans hmark.1, (hput v).trans hmark.2⟩
    · rw [hs] at hmark
      exact hmark
  rw [backendSubmit]
  rcases hp : w.submitPrepare t env with ⟨v, e | _⟩
  · rwa [hp] at hprepare
  rw [hp] at hprepare
  have hshapes := shapes_submitLocked v h u t env.link
  have hcopies : (v.submitLocked h u t env.link).1.copies = v.copies := by
    simp only [submitLocked]
    split
    · rfl
    split
    · rfl
    rcases env.link with e | _ <;> rfl
  dsimp only
  rcases hl : v.submitLocked h u t env.link with ⟨v', e | _⟩
  · rw [hl] at hshapes hcopies
    have hfailed := congrArg Prod.snd (io_transferCancel v' t e.status)
    have hsame : (v'.submitFailed t e).shapes = v'.shapes :=
      (shapes_transferPut _ t).trans (shapes_transferCancel v' t e.status)
    exact ⟨hsame.trans (hshapes.trans hprepare.1),
      ((hput _).trans hfailed).trans (hcopies.trans hprepare.2)⟩
  · rw [hl] at hshapes hcopies
    exact ⟨hshapes.trans hprepare.1, hcopies.trans hprepare.2⟩

/-- What the payload of a new transfer is copied from. -/
theorem transferCreate_io {a : TransferArgs} {t : TransferPtr}
    (hc : w.transferCreate d a env = (w', some t)) :
    w'.shapes = w.shapes ∧ ∃ made, w'.copies = w.copies ++ made ∧
      ((∀ b, a.data = some b → a.length ≤ b.size) → ∀ c ∈ made, c.Within) := by
  have hsetup : ∀ v : World, ∃ made, (v.copySetup a.setup).copies = v.copies ++ made ∧
      ∀ c ∈ made, c.Within := by
    intro v
    rw [copySetup]
    split
    · refine ⟨[⟨some 8, some 8, 8⟩], rfl, fun c hc => ?_⟩
      obtain rfl := List.mem_singleton.1 hc
      exact ⟨⟨8, rfl, Nat.le_refl _⟩, 8, rfl, Nat.le_refl _⟩
    · exact ⟨[], (List.append_nil _).symm, by simp⟩
  obtain ⟨hvalid, -, -⟩ := transferCreate_made hc
  obtain ⟨-, -, hdata⟩ := TransferArgs.valid_iff.1 hvalid
  have hbuffer : (w.transferBuffer a env.garbage).1.shapes = w.shapes ∧
      ∃ made, (w.transferBuffer a env.garbage).1.copies = w.copies ++ made ∧
        ((∀ b, a.data = some b → a.length ≤ b.size) → ∀ c ∈ made, c.Within) := by
    rw [transferBuffer]
    split
    · exact ⟨rfl, [], (List.append_nil _).symm, fun _ => by simp⟩
    rename_i hlength
    split
    · rename_i hout
      obtain ⟨b, hb⟩ := Option.isSome_iff_exists.1 (hdata hout (Nat.pos_of_ne_zero hlength))
      refine ⟨rfl, [⟨some a.length, some b.size, a.length⟩], ?_, fun hsize c hc => ?_⟩
      · rw [hb]
        rfl
      · obtain rfl := List.mem_singleton.1 hc
        exact ⟨⟨_, rfl, Nat.le_refl _⟩, _, rfl, hsize b hb⟩
    · exact ⟨rfl, [], (List.append_nil _).symm, fun _ => by simp⟩
  simp only [transferCreate] at hc
  split at hc
  · simp at hc
  split at hc
  · simp at hc
  split at hc
  · simp at hc
  obtain ⟨hshapes, made, hmade, hwithin⟩ := hbuffer
  obtain ⟨more, hmore, hwithin'⟩ := hsetup ((w.transferBuffer a env.garbage).1.objectGet d)
  obtain ⟨rfl, -⟩ := Prod.mk.inj hc
  refine ⟨(shapes_copySetup _ a.setup).trans hshapes, made ++ more, ?_, fun hsize c hc => ?_⟩
  · rw [← List.append_assoc, ← hmade]
    exact hmore
  · rcases List.mem_append.1 hc with hc | hc
    · exact hwithin hsize c hc
    · exact hwithin' c hc

/-- **What an acceptance copies**, and that it leaves the URBs as they are. -/
theorem hcdUrbEnqueue_io (w : World) (h : HcdId) (u : UrbPtr) (env : Env) :
    (w.hcdUrbEnqueue h u env).1.shapes = w.shapes ∧
      ∃ made, (w.hcdUrbEnqueue h u env).1.copies = w.copies ++ made ∧
        ((∀ b, (w.urbs u).transferBuffer = some b →
          (w.urbs u).transferBufferLength ≤ b.size) → ∀ c ∈ made, c.Within) := by
  rw [hcdUrbEnqueue]
  rcases w.hcdGetUrbDevice h (w.urbs u) with _ | d
  · exact ⟨rfl, [], (List.append_nil _).symm, fun _ => by simp⟩
  rcases (w.urbs u).check with e | type
  · exact ⟨rfl, [], (List.append_nil _).symm, fun _ => by simp⟩
  dsimp only
  rcases hs : w.transferCreate d ((w.urbs u).transferArgs type) env with ⟨v, _ | t⟩
  · rw [transferCreate_none hs]
    exact ⟨rfl, [], (List.append_nil _).symm, fun _ => by simp⟩
  obtain ⟨hshapes, made, hmade, hwithin⟩ := transferCreate_io hs
  have hfits : (∀ b, (w.urbs u).transferBuffer = some b →
      (w.urbs u).transferBufferLength ≤ b.size) → ∀ c ∈ made, c.Within := by
    refine fun hsize => hwithin fun b hb => hsize b ?_
    simp only [Urb.transferArgs] at hb
    split at hb
    · exact hb
    · simp at hb
  have hput : ∀ v' : World, (v'.transferPut t).copies = v'.copies := fun v' =>
    congrArg Prod.snd (io_transferPut v' t)
  dsimp only
  split
  · exact ⟨(shapes_transferPut v t).trans hshapes, made, (hput v).trans hmade, hfits⟩
  · obtain ⟨hshapes', hcopies'⟩ := backendSubmit_io v h u t env
    exact ⟨(shapes_transferPut _ t).trans (hshapes'.trans hshapes), made,
      (hput _).trans (hcopies'.trans hmade), hfits⟩

/-! ### URBs that are queued -/

/-- **Only handing a URB over changes it.** -/
theorem shapes_call (hc : w.Counted) {c : Call} (hu : ∀ h urb env, c ≠ .urbEnqueue h u urb env) :
    (w.call c).shapes u = w.shapes u := by
  cases c with
  | ioctl h active f nonblock command m env =>
      refine controlIoctl_rule (P := fun v => v.shapes u = w.shapes u) hc (fun _ => rfl)
        (fun _ _ => ?_) (fun d force => ?_) (fun id d hd => ?_) ?_ ?_ (fun id => ?_)
        fun completion => ?_
      · rw [shapes_of_traffic (traffic_controlDeviceCreate w _ env)]
      · rw [shapes_of_traffic (traffic_deviceDestroy w d force)]
      · rw [shapes_backendRegister]
      · rw [shapes_backendReleaseOwner]
      · rw [shapes_backendFetch]
      · rw [shapes_backendFetchRollback, shapes_backendFetch]
      · rw [shapes_backendComplete]
  | close h f => rw [call, controlRelease, shapes_backendReleaseOwner]
  | urbEnqueue h u' urb env =>
      have hne : u ≠ u' := fun heq => hu h urb env (heq ▸ rfl)
      rw [call, (hcdUrbEnqueue_io _ h u' env).1]
      exact congrArg Urb.shape (Function.update_of_ne hne _ _)
  | urbDequeue h u' status => rw [call, hcdUrbDequeue, shapes_backendCancel]
  | hubControl h typeReq value index => rfl
  | setStatusChangedCallback h installed => rfl
  | stop h => rw [call, shapes_backendStop]

/-- **A URB that is queued is the one that was handed over**, all through a run. -/
theorem shapes_of_run {l : List (World × Call)} (hw : (calls N).Reachable w)
    (hr : Run (calls N) w l w') {h : HcdId} (hh : h < N) {r : Request} (hmem : r ∈ w'.requests h)
    (hlt : r.transfer < w.nextTransfer) :
    (∃ r₀ ∈ w.requests h, r₀.key = r.key) ∧ w'.shapes r.urb = w.shapes r.urb := by
  induction hr generalizing r with
  | nil => exact ⟨⟨r, hmem, rfl⟩, rfl⟩
  | @snoc l v w' c hr hstep ih =>
      have hv := hw.run hr
      have hsteady := steady_of_reachable hv
      have hle := (kept_of_run hw hr).1
      obtain ⟨⟨r₁, hr₁, hk₁⟩, -⟩ := ((works_of_step hsteady hstep).kept
        (serving_of_reachable hv)).2 h hh r hmem (Nat.lt_of_lt_of_le hlt hle)
      obtain ⟨htransfer, hurb⟩ := Prod.mk.inj hk₁
      obtain ⟨⟨r₀, hr₀, hk₀⟩, hshape⟩ := ih hr₁ (htransfer ▸ hlt)
      refine ⟨⟨r₀, hr₀, hk₀.trans hk₁⟩, ?_⟩
      rw [hurb] at hshape
      obtain ⟨hp, rfl⟩ := calls_step hstep
      refine (shapes_call hsteady.accounts.counted fun h' urb env heq => ?_).trans hshape
      -- the USB core does not hand over a URB that is in flight
      subst heq
      exact hp.2 ⟨h, hh, r₁, hr₁, hurb⟩

/-! ### The copies of a fetch -/

/-- The copies that were made from `w` to `w'` have both of their buffers. -/
def CopiesWithin (w w' : World) : Prop :=
  ∃ made, w'.copies = w.copies ++ made ∧ ∀ c ∈ made, 0 < c.length → c.Within

/-- The copies of a fetch have both of their buffers. -/
theorem fetchTail_copies {r : Request} (hw : w.Loaded r) :
    w.CopiesWithin (w.fetchTail r.transfer).1 := by
  have hput : ∀ v : World, (v.transferPut r.transfer).copies = v.copies := fun v =>
    congrArg Prod.snd (io_transferPut v r.transfer)
  have hsetup : ∃ made, (w.copySetup (w.transfers r.transfer).setup).copies = w.copies ++ made ∧
      ∀ c ∈ made, c.Within := by
    rw [copySetup]
    split
    · refine ⟨[⟨some 8, some 8, 8⟩], rfl, fun c hc => ?_⟩
      obtain rfl := List.mem_singleton.1 hc
      exact ⟨⟨8, rfl, Nat.le_refl _⟩, 8, rfl, Nat.le_refl _⟩
    · exact ⟨[], (List.append_nil _).symm, by simp⟩
  obtain ⟨made, hmade, hwithin⟩ := hsetup
  simp only [fetchTail]
  split
  · rename_i hout
    have hbuffer := hw.buffer
    rw [if_neg (Nat.ne_of_gt hout.2)] at hbuffer
    refine ⟨made ++ [⟨some transferDataMax, some (w.transfers r.transfer).requestedLength,
      (w.transfers r.transfer).requestedLength⟩], ?_, fun c hc _ => ?_⟩
    · rw [hput, ← List.append_assoc, ← hmade, ← hbuffer]
      rfl
    · rcases List.mem_append.1 hc with hc | hc
      · exact hwithin c hc
      · obtain rfl := List.mem_singleton.1 hc
        exact ⟨⟨_, rfl, hw.limit⟩, _, rfl, Nat.le_refl _⟩
  · exact ⟨made, (hput _).trans hmade, fun c hc _ => hwithin c hc⟩

/-- **The copies of a fetch stay within their buffers.** -/
theorem Serving.backendFetch_copies (hw : w.Serving N) (hh : h < N) (f : FilePtr)
    (nonblock : Bool) : w.CopiesWithin (w.backendFetch h f nonblock).1 := by
  rw [backendFetch]
  rcases hs : w.fetchLocked h f with ⟨v, r | e | _⟩
  · obtain ⟨⟨binding, -, hfind⟩, rfl⟩ := fetchLocked_taken_eq hs
    have hmem := List.mem_append_left (w.backends h).active (findPendingDeviceLocked_some hfind).1
    have hloaded := (hw.loaded h hh r hmem).2
    refine fetchTail_copies (hloaded.congr rfl ?_ rfl)
    simp [transferGet, setTransfer, setBackend, Transfer.content]
  · rw [fetchLocked_failed hs]
    exact ⟨[], (List.append_nil _).symm, by simp⟩
  · rw [fetchLocked_empty hs]
    exact ⟨[], (List.append_nil _).symm, by simp⟩

/-! ### The copies of a completion -/

/-- A completion of an IN transfer whose URB has no buffer copies to `NULL`. -/
theorem completeCopy_null {r : Request} (hdir : (w.transfers r.transfer).direction = .in)
    (hnull : (w.urbs r.urb).transferBuffer = none) (data : ℕ → Byte) {n : ℕ} (hpos : 0 < n) :
    (w.completeCopy r data n).copies = w.copies ++
      [⟨(w.transfers r.transfer).buffer.map Buffer.size, some transferDataMax, n⟩,
        ⟨none, (w.transfers r.transfer).buffer.map Buffer.size, n⟩] := by
  rcases hb : (w.transfers r.transfer).buffer with _ | b
  · simp [completeCopy, hdir, hpos, copy, recordCopy, setTransfer, setUrb, hnull, hb]
  · simp [completeCopy, hdir, hpos, copy, recordCopy, setTransfer, setUrb, hnull, hb]

/-- **A completion of a read into no buffer** copies to `NULL`. -/
theorem backendComplete_null {r : Request} (completion : TransferCompleteRequest)
    (hloaded : w.Loaded r) (hne : completion.transferId ≠ 0)
    (hf : w.findIdLocked h f completion.transferId = some r)
    (hdir : (w.transfers r.transfer).direction = .in) (hnull : (w.urbs r.urb).transferBuffer = none)
    (hpos : 0 < completion.actualLength)
    (hn : completion.actualLength ≤ (w.transfers r.transfer).requestedLength) :
    ¬ w.CopiesWithin (w.backendComplete h f completion).1 := by
  rintro ⟨made, hmade, hwithin⟩
  obtain ⟨x, -, -, -, hshort⟩ := completeTail_short (hloaded.takeActive h) hn
  have hnull' : ((w.takeActive h r).urbs r.urb).transferBuffer = none := by
    rw [urbs_takeActive, Function.update_self]
    exact hnull
  have hcopies := completeCopy_null (w := w.takeActive h r) hdir hnull' completion.data hpos
  rw [backendComplete_found hne hf, hshort] at hmade
  have hdone := (congrArg Prod.snd (io_backendGiveback _ r completion.status)).symm.trans hmade
  have hsame := List.append_cancel_left (hdone.symm.trans hcopies)
  have hlast : (⟨none, (w.transfers r.transfer).buffer.map Buffer.size,
      completion.actualLength⟩ : Copy) ∈ made := by
    rw [hsame]
    exact List.mem_cons_of_mem _ (List.mem_singleton_self _)
  obtain ⟨⟨n, hn, -⟩, -⟩ := hwithin _ hlast hpos
  exact absurd hn (by simp)

/-! ### A URB that is accepted can be fetched -/

/-- **A pending request can be fetched**: its backend fetches until it has it. -/
theorem exists_fetch_run {r : Request} (hw : (calls N).Reachable w) (hh : h < N)
    (hb : (⟨w.device r.transfer, f⟩ : Binding) ∈ (w.backends h).bindings)
    (hr : r ∈ (w.backends h).pending) : ∃ l w', Run (calls N) w l w' ∧
      r.leased f ∈ (w'.backends h).active ∧ w'.nextTransfer = w.nextTransfer := by
  induction hn : (w.backends h).pending.length using Nat.strong_induction_on generalizing w with
  | _ n ih =>
      subst hn
      have hfind := ((serving_of_reachable hw).bound h hh).findOwnerLocked_eq hb
      have hsome : (w.findPendingDeviceLocked h (w.device r.transfer)).isSome = true :=
        List.find?_isSome.2 ⟨r, hr, decide_eq_true rfl⟩
      obtain ⟨r₀, hr₀⟩ := Option.isSome_iff_exists.1 hsome
      have hmem := (findPendingDeviceLocked_some hr₀).1
      have htaken : (w.fetchLocked h f).2 = .taken r₀ := by
        simp only [fetchLocked, hfind, hr₀]
      rcases hl : w.fetchLocked h f with ⟨v, pass⟩
      rw [hl] at htaken
      obtain rfl : pass = .taken r₀ := htaken
      set w₁ := (v.fetchTail r₀.transfer).1
      have hs : w.backendFetch h f true = (w₁, .ok (v.fetchTail r₀.transfer).2) := by
        rw [backendFetch, hl]
      have hstep : (calls N).step w
          (.ioctl h true f true ioctlTransferFetch (.ofWords []) {}) w₁ := by
        rw [← call_fetch hs]
        exact if_pos ⟨hh, trivial⟩
      obtain ⟨-, -, -, -, hlocked⟩ := fetchLocked_taken (T := ∅) hl
      have hquiet := hlocked.andThen (.fetchTail v r₀.transfer)
      have hb₁ : w₁.backends h = { w.backends h with
          pending := (w.backends h).pending.erase r₀
          active := (w.backends h).active ++ [r₀.leased f] } := by
        rw [hquiet.backends]
        exact Function.update_self _ _ _
      rcases eq_or_ne r r₀ with rfl | hne
      · refine ⟨_, w₁, .single hstep, ?_, hquiet.nextTransfer⟩
        rw [hb₁]
        exact List.mem_append_right _ (List.mem_singleton_self _)
      · have hlt : (w₁.backends h).pending.length < (w.backends h).pending.length := by
          rw [hb₁, List.length_erase_of_mem hmem]
          exact Nat.sub_lt (List.length_pos_of_mem hmem) Nat.one_pos
        obtain ⟨l, w', hrun, hactive, hkept⟩ := ih _ hlt (hw.step hstep)
          (by rw [hquiet.device, hb₁]; exact hb)
          (by rw [hb₁]; exact (List.mem_erase_of_ne hne).2 hr) rfl
        exact ⟨_, w', (Run.single hstep).trans hrun, hactive,
          hkept.trans hquiet.nextTransfer⟩

/-! ### What is asked of an acceptance -/

/-- The URB that is queued by the call can be completed: all copies that are made for it, by
the call, by a later fetch and by a completion that fits, have both of their buffers. -/
structure Completable (N : ℕ) (w : World) (h : HcdId) (u : UrbPtr) (urb : Urb) (env : Env) :
    Prop where
  created : w.CopiesWithin (w.call (.urbEnqueue h u urb env))
  fetched : ∀ l w₂, Run (calls N) (w.call (.urbEnqueue h u urb env)) l w₂ → ∀ h' < N,
    ∀ f nonblock v r, w₂.fetchLocked h' f = (v, .taken r) → r.transfer = w.nextTransfer →
      w₂.CopiesWithin (w₂.backendFetch h' f nonblock).1
  completed : ∀ l w₂, Run (calls N) (w.call (.urbEnqueue h u urb env)) l w₂ → ∀ h' < N,
    ∀ f r, ∀ completion : TransferCompleteRequest, completion.transferId ≠ 0 →
      w₂.findIdLocked h' f completion.transferId = some r → r.transfer = w.nextTransfer →
      completion.actualLength ≤ (w₂.transfers r.transfer).requestedLength →
        w₂.CopiesWithin (w₂.backendComplete h' f completion).1

/-- The call left no request, link or reference behind. -/
structure LeftNothing (w w' : World) (u : UrbPtr) : Prop where
  backends : w'.backends = w.backends
  unlinked : (w'.urbs u).linked = false
  devices : ∀ d, (w'.objects d).refcount = (w.objects d).refcount
  transfers : ∀ t, (w'.transfers t).refcount = (w.transfers t).refcount

/-- An accepted URB can be completed, and one that is refused leaves nothing behind. -/
def EnqueueSafe (N : ℕ) (w : World) (h : HcdId) (u : UrbPtr) (urb : Urb) (env : Env) : Prop :=
  (((w.handUrb u urb).hcdUrbEnqueue h u env).2 = .ok () → w.Completable N h u urb env) ∧
    (((w.handUrb u urb).hcdUrbEnqueue h u env).2 ≠ .ok () →
      w.LeftNothing (w.call (.urbEnqueue h u urb env)) u)

/-- **A URB that is refused leaves nothing behind.** -/
theorem leftNothing_of_refused (hw : (calls N).Reachable w) {urb : Urb}
    (hp : (Call.urbEnqueue h u urb env).Possible N w)
    (hs : ((w.handUrb u urb).hcdUrbEnqueue h u env).2 ≠ .ok ()) :
    w.LeftNothing (w.call (.urbEnqueue h u urb env)) u := by
  have hsteady := steady_of_reachable hw
  have hserving := serving_of_reachable hw
  have hsteady' := hsteady.call hp.1
  have hmanaged := (Aside.hcdUrbEnqueue (w.handUrb u urb) h u env).management
  set w' := w.call (.urbEnqueue h u urb env) with hw'
  have hrefused : Refused (w.handUrb u urb) w' := by
    rcases hq : (w.handUrb u urb).hcdUrbEnqueue h u env with ⟨v, e | _⟩
    · have hcall : w' = v := by rw [hw', call, hq]
      rw [hcall]
      exact hcdUrbEnqueue_error hq
    · exact absurd (by rw [hq]) hs
  have hfree : ((w.handUrb u urb).urbs u).linked = false := by
    simp [handUrb, setUrb]
  have hback : w'.backends = w.backends ∧ (w'.urbs u).linked = false ∧
      ∀ t, t ≠ w.nextTransfer → w'.device t = w.device t := by
    obtain ⟨-, hq | ⟨d, v, hcreated, hq⟩⟩ := hrefused
    · exact ⟨hq.backends, (hq.linked u).trans hfree, fun t _ => congrFun hq.device t⟩
    · refine ⟨hq.backends.trans hcreated.backends,
        (hq.linked u).trans ((hcreated.linked u).trans hfree), fun t ht => ?_⟩
      rw [hq.device, hcreated.device]
      exact Function.update_of_ne ht _ _
  obtain ⟨hback, hlinked, hdevice⟩ := hback
  have hrequests : ∀ h', w'.requests h' = w.requests h' := fun h' => by
    rw [requests, requests, hback]
  refine ⟨hback, hlinked, fun d => ?_, fun t => ?_⟩
  · classical
    have hlisted : w'.Listed d ↔ w.Listed d := by
      have htable : w'.objectTable = w.objectTable := objectTable_of_management hmanaged
      rw [Listed, Listed, htable]
    have hbound : w'.bindingsOf N d = w.bindingsOf N d := by rw [bindingsOf, bindingsOf, hback]
    have hqueued : w'.requestsFor N d = w.requestsFor N d := by
      refine Finset.sum_congr rfl fun h' hh' => ?_
      rw [hrequests]
      refine List.countP_congr fun r hr => ?_
      have hne := Nat.ne_of_lt (hserving.loaded h' (Finset.mem_range.1 hh') r hr).1
      have hsame : w'.requestDevice r = w.requestDevice r := hdevice r.transfer hne
      rw [hsame]
    rw [hsteady'.accounts.refcount_device, hsteady.accounts.refcount_device, hbound, hqueued,
      if_congr hlisted rfl rfl]
  · rw [hsteady'.accounts.refcount_transfer, hsteady.accounts.refcount_transfer, hback]

/-- The buffer of a queued URB is the one that was handed over. -/
theorem holds_of_shape {x y : Urb} (hs : x.shape = y.shape) (hy : y.Holds) : x.Holds := by
  have hlength : x.transferBufferLength = y.transferBufferLength :=
    (congrArg Urb.transferBufferLength hs :)
  have hsizes : ∀ z : Urb, z.shape.transferBuffer.map Buffer.size =
      z.transferBuffer.map Buffer.size := by
    intro z
    rw [Urb.shape, Option.map_map]
    rfl
  have hsize : x.transferBuffer.map Buffer.size = y.transferBuffer.map Buffer.size := by
    rw [← hsizes x, hs, hsizes y]
  intro hpos
  obtain ⟨b, hb, hle⟩ := hy (hlength ▸ hpos)
  rw [hb, Option.map_some, Option.map_eq_some_iff] at hsize
  obtain ⟨b', hb', heq⟩ := hsize
  exact ⟨b', hb', by omega⟩

/-! ### A URB that is accepted -/

variable {w₁ : World} {h' : HcdId} {urb : Urb} {r : Request} {l : List (World × Call)}

/-- The world after the call is the one the call returns in. -/
theorem call_urbEnqueue (hs : (w.handUrb u urb).hcdUrbEnqueue h u env = (w₁, .ok ())) :
    w.call (.urbEnqueue h u urb env) = w₁ := by
  rw [call, hs]

/-- The request of an accepted URB waits at its controller. -/
theorem pending_of_accepted (hs : (w.handUrb u urb).hcdUrbEnqueue h u env = (w₁, .ok ())) :
    ({ urb := u, transfer := w.nextTransfer } : Request) ∈ (w₁.backends h).pending := by
  obtain ⟨d, type, -, -, haccepted⟩ := hcdUrbEnqueue_ok hs
  rw [haccepted.backends, Function.update_self]
  exact List.mem_append_right _ (List.mem_singleton_self _)

/-- **The request of an accepted URB**, wherever it is queued later, is for this URB, and the
URB is the one that was handed over. -/
theorem request_of_run (hw : (calls N).Reachable w)
    (hp : (Call.urbEnqueue h u urb env).Possible N w)
    (hs : (w.handUrb u urb).hcdUrbEnqueue h u env = (w₁, .ok ())) (hr : Run (calls N) w₁ l w')
    (hh' : h' < N) (hmem : r ∈ w'.requests h') (ht : r.transfer = w.nextTransfer) :
    r.urb = u ∧ (w'.urbs u).shape = urb.shape := by
  have hreach := hw.step (step_urbEnqueue hp hs)
  have hqueued := List.mem_append_left (w₁.backends h).active (pending_of_accepted hs)
  have hlt : r.transfer < w₁.nextTransfer :=
    ht ▸ ((serving_of_reachable hreach).loaded h hp.1 _ hqueued).1
  obtain ⟨⟨r₀, hr₀, hk⟩, hshape⟩ := shapes_of_run hreach hr hh' hmem hlt
  obtain ⟨htransfer, hurb⟩ := Prod.mk.inj hk
  have hsame := ((serving_of_reachable hreach).distinct h' hh' h hp.1 r₀ hr₀ _ hqueued
    (.inl (htransfer.trans ht))).2
  have hu : r.urb = u := hurb.symm.trans (Prod.mk.inj hsame).2
  have hhanded := congrFun (hcdUrbEnqueue_io (w.handUrb u urb) h u env).1 u
  rw [hs] at hhanded
  have hself : (w.handUrb u urb).urbs u = { urb with linked := false, unlinked := false } :=
    Function.update_self _ _ _
  rw [hu] at hshape
  exact ⟨hu, hshape.trans (hhanded.trans ((congrArg Urb.shape hself).trans rfl))⟩

/-- The backend of the device gets the request of an accepted URB, if it fetches often enough. -/
theorem exists_lent (hw : (calls N).Reachable w)
    (hp : (Call.urbEnqueue h u urb env).Possible N w)
    (hs : (w.handUrb u urb).hcdUrbEnqueue h u env = (w₁, .ok ())) :
    ∃ l w₂ f, Run (calls N) w₁ l w₂ ∧ w₂.nextTransfer = w.nextTransfer + 1 ∧
      ({ urb := u, transfer := w.nextTransfer, owner := some f } : Request) ∈
        (w₂.backends h).active := by
  have hreach := hw.step (step_urbEnqueue hp hs)
  obtain ⟨d, type, -, -, haccepted⟩ := hcdUrbEnqueue_ok hs
  obtain ⟨⟨d', f⟩, hbinding, hd'⟩ := haccepted.bound
  have hdevice : w₁.device w.nextTransfer = d := (congrArg Transfer.device haccepted.made :)
  have hbound : (⟨w₁.device w.nextTransfer, f⟩ : Binding) ∈ (w₁.backends h).bindings := by
    rw [hdevice, haccepted.backends, Function.update_self]
    exact hd' ▸ hbinding
  obtain ⟨l, w₂, hrun, hactive, hnext⟩ :=
    exists_fetch_run (f := f) hreach hp.1 hbound (pending_of_accepted hs)
  exact ⟨l, w₂, f, hrun, hnext.trans haccepted.nextTransfer, hactive⟩

/-- **A read into no buffer cannot be completed**: its backend fetches it, and completes it with
one byte. -/
theorem not_completable_of_null (hw : (calls N).Reachable w)
    (hp : (Call.urbEnqueue h u urb env).Possible N w)
    (hs : (w.handUrb u urb).hcdUrbEnqueue h u env = (w₁, .ok ()))
    (hids : w.nextTransfer + 1 < 2 ^ 64) (hin : urb.direction = .in)
    (hpos : 0 < urb.transferBufferLength) (hnull : urb.transferBuffer = none) :
    ¬ w.Completable N h u urb env := by
  intro hcompletable
  obtain ⟨l, w₂, f, hrun, hnext, hactive⟩ := exists_lent hw hp hs
  have hserving := serving_of_reachable ((hw.step (step_urbEnqueue hp hs)).run hrun)
  have hmem := List.mem_append_right (w₂.backends h).pending hactive
  have hloaded := (hserving.loaded h hp.1 _ hmem).2
  obtain ⟨hfind, hne⟩ := hserving.findIdLocked_eq hp.1 (hnext ▸ hids) hactive rfl
  obtain ⟨-, hshape⟩ := request_of_run hw hp hs hrun hp.1 hmem rfl
  have hempty : (w₂.urbs u).transferBuffer = none := by
    have hmap : (w₂.urbs u).shape.transferBuffer = urb.shape.transferBuffer :=
      congrArg Urb.transferBuffer hshape
    simpa [Urb.shape, hnull] using hmap
  have hlength : (w₂.urbs u).transferBufferLength = urb.transferBufferLength :=
    (congrArg Urb.transferBufferLength hshape :)
  obtain ⟨d, type, -, -, -, hcontent⟩ := content_of_run hw hp hs hrun hp.1 hmem rfl
  have hdir : (w₂.transfers w.nextTransfer).direction = .in :=
    (congrArg Transfer.direction hcontent :).trans hin
  have hone : 1 ≤ (w₂.transfers w.nextTransfer).requestedLength := by
    have hrequested := hloaded.length
    rw [lengths] at hrequested
    exact hrequested.symm ▸ hlength.symm ▸ hpos
  exact backendComplete_null ⟨(w₂.transfers w.nextTransfer).id, 0, 1, fun _ => 0⟩
    hloaded hne hfind hdir hempty Nat.one_pos hone
    (hcompletable.completed l w₂ (call_urbEnqueue hs ▸ hrun) h hp.1 f _ _ hne hfind rfl hone)

/-- **A URB that has a buffer for what it transfers can be completed.** -/
theorem completable_of_holds (hw : (calls N).Reachable w)
    (hp : (Call.urbEnqueue h u urb env).Possible N w)
    (hs : (w.handUrb u urb).hcdUrbEnqueue h u env = (w₁, .ok ()))
    (hsize : ∀ b, urb.transferBuffer = some b → urb.transferBufferLength ≤ b.size)
    (hholds : urb.Holds) : w.Completable N h u urb env := by
  have hcall := call_urbEnqueue hs
  have hreach := hw.step (step_urbEnqueue hp hs)
  have hurb : (w.handUrb u urb).urbs u = { urb with linked := false, unlinked := false } :=
    Function.update_self _ _ _
  refine ⟨?_, fun l w₂ hrun h' hh' f nonblock v r _ _ => ?_,
    fun l w₂ hrun h' hh' f r completion hne hf ht hn => ?_⟩
  · obtain ⟨-, made, hmade, hwithin⟩ := hcdUrbEnqueue_io (w.handUrb u urb) h u env
    rw [hurb] at hwithin
    exact ⟨made, hmade, fun c hc _ => hwithin hsize c hc⟩
  · rw [hcall] at hrun
    exact (serving_of_reachable (hreach.run hrun)).backendFetch_copies hh' f nonblock
  · rw [hcall] at hrun
    have hreach₂ := hreach.run hrun
    have hmem := List.mem_append_right (w₂.backends h').pending (findIdLocked_some hf).1
    obtain ⟨hu, hshape⟩ := request_of_run hw hp hs hrun hh' hmem ht
    obtain ⟨made, hmade, hwithin⟩ := (RequestFinished.of_short (steady_of_reachable hreach₂)
      (serving_of_reachable hreach₂) hh' hne hf (hu ▸ holds_of_shape hshape hholds) hn).2.copies
    exact ⟨made, hmade, fun c hc _ => hwithin c hc⟩

/-- A URB that is admitted has a buffer, unless it is a read into none: the buffers of writes are
checked. -/
theorem holds_of_admits (hadmits : (w.handUrb u urb).Admits h u env)
    (hsize : ∀ b, urb.transferBuffer = some b → urb.transferBufferLength ≤ b.size)
    (hread : ¬ (urb.direction = .in ∧ 0 < urb.transferBufferLength ∧ urb.transferBuffer = none)) :
    urb.Holds := by
  intro hpos
  have hurb : (w.handUrb u urb).urbs u = { urb with linked := false, unlinked := false } :=
    Function.update_self _ _ _
  have hsome : urb.transferBuffer ≠ none := by
    intro hnull
    rcases hdir : urb.direction with _ | _
    · obtain ⟨type, hcheck⟩ := hadmits.check
      rw [hurb] at hcheck
      have hout := (Urb.of_check hcheck).2.2 hdir hpos
      simp [hnull] at hout
    · exact hread ⟨hdir, hpos, hnull⟩
  obtain ⟨b, hb⟩ := Option.ne_none_iff_exists'.1 hsome
  exact ⟨b, hb, hsize b hb⟩

end World

open World

/-- **An accepted URB can be completed** exactly if it is not a read of one byte or more into no
buffer: the acceptance checks the buffers of writes only. -/
theorem accepted_completable_iff {N : ℕ} {w : World} (hw : (calls N).Reachable w) {h : HcdId}
    {u : UrbPtr} {urb : Urb} {env : Env} (hp : (Call.urbEnqueue h u urb env).Possible N w)
    (hsize : ∀ b, urb.transferBuffer = some b → urb.transferBufferLength ≤ b.size)
    (hids : w.nextTransfer + 1 < 2 ^ 64) :
    w.EnqueueSafe N h u urb env ↔ ((w.handUrb u urb).Admits h u env →
      ¬ (urb.direction = .in ∧ 0 < urb.transferBufferLength ∧ urb.transferBuffer = none)) := by
  have hresult : ((w.handUrb u urb).hcdUrbEnqueue h u env).2 = .ok () →
      (w.handUrb u urb).hcdUrbEnqueue h u env =
        (((w.handUrb u urb).hcdUrbEnqueue h u env).1, .ok ()) := fun hok => Prod.ext rfl hok
  constructor
  · rintro ⟨hsafe, -⟩ hadmits ⟨hin, hpos, hnull⟩
    have hok := hcdUrbEnqueue_isOk.2 hadmits
    exact not_completable_of_null hw hp (hresult hok) hids hin hpos hnull (hsafe hok)
  · refine fun hcond => ⟨fun hok => ?_, fun hbad => leftNothing_of_refused hw hp hbad⟩
    have hadmits := hcdUrbEnqueue_isOk.1 hok
    exact completable_of_holds hw hp (hresult hok) hsize
      (holds_of_admits hadmits hsize (hcond hadmits))

/-- A read of four bytes into no buffer. -/
def Urb.readIntoNull : Urb := { Urb.bulkIn with transferBuffer := none }

/-- **A read into no buffer is accepted**, and its completion copies to `NULL`. -/
theorem read_into_null_accepted : ∃ w, (calls 1).Reachable w ∧
    ((w.handUrb 7 .readIntoNull).hcdUrbEnqueue 0 7 {}).2 = .ok () ∧
    ¬ w.EnqueueSafe 1 0 7 .readIntoNull {} := by
  obtain ⟨w, hw, hp⟩ := exists_reachable_of_exec (I := Initialised)
    (f := fun w c => if Call.Possible 1 w c then some (w.call c) else none) (s := oneHub)
    (l := Call.plugIn 5)
    (p := fun w =>
      let w₂ := (w.call (.urbEnqueue 0 7 .readIntoNull {})).call
        (.ioctl 0 true 5 true ioctlTransferFetch (.ofWords []) {})
      ((w.handUrb 7 .readIntoNull).hcdUrbEnqueue 0 7 {}).2 = .ok () ∧
      (Call.urbEnqueue 0 7 .readIntoNull {}).Possible 1 w ∧ w.nextTransfer = 0 ∧
      w₂.findIdLocked 0 5 1 = some ⟨7, 0, some 5⟩ ∧ (w₂.transfers 0).direction = .in ∧
      (w₂.urbs 7).transferBuffer.isNone = true ∧ 1 ≤ (w₂.transfers 0).requestedLength)
    oneHub_initialised (by decide)
  obtain ⟨hok, hpossible, hnext, hf, hdir, hnull, hone⟩ := of_decide_eq_true hp
  refine ⟨w, hw, hok, fun hsafe => ?_⟩
  set w₁ := w.call (.urbEnqueue 0 7 .readIntoNull {})
  have hw₁ := hw.step (show (calls 1).step w (.urbEnqueue 0 7 .readIntoNull {}) w₁ from
    if_pos hpossible)
  have hfetch : Call.Possible 1 w₁ (.ioctl 0 true 5 true ioctlTransferFetch (.ofWords []) {}) :=
    ⟨Nat.one_pos, trivial⟩
  have hrun : Run (calls 1) w₁ _ _ := .single (if_pos hfetch)
  have hserving := serving_of_reachable (hw₁.run hrun)
  have hloaded := (hserving.loaded 0 Nat.one_pos _
    (List.mem_append_right _ (findIdLocked_some hf).1)).2
  exact backendComplete_null ⟨1, 0, 1, fun _ => 0⟩ hloaded (by decide) hf hdir
    (Option.isNone_iff_eq_none.1 hnull) Nat.one_pos hone
    ((hsafe.1 hok).completed _ _ hrun 0 Nat.one_pos 5 _ _ (by decide) hf hnext.symm hone)

/-- A write of four bytes is accepted, and can be completed. -/
theorem accepted_completable_example : ∃ w, (calls 1).Reachable w ∧
    ((w.handUrb 7 .bulkOut).hcdUrbEnqueue 0 7 {}).2 = .ok () ∧
    w.Completable 1 0 7 .bulkOut {} := by
  obtain ⟨w, hw, hp⟩ := exists_reachable_of_exec (I := Initialised)
    (f := fun w c => if Call.Possible 1 w c then some (w.call c) else none) (s := oneHub)
    (l := Call.plugIn 5)
    (p := fun w => ((w.handUrb 7 .bulkOut).hcdUrbEnqueue 0 7 {}).2 = .ok () ∧
      (Call.urbEnqueue 0 7 .bulkOut {}).Possible 1 w ∧ w.nextTransfer + 1 < 2 ^ 64)
    oneHub_initialised (by decide)
  obtain ⟨hok, hpossible, hids⟩ := of_decide_eq_true hp
  have hsize : ∀ b, Urb.bulkOut.transferBuffer = some b →
      Urb.bulkOut.transferBufferLength ≤ b.size := by
    rintro b hb
    obtain rfl := Option.some.inj hb
    exact Nat.le_refl 4
  have hsafe := (accepted_completable_iff hw hpossible hsize hids).2 fun _ hread =>
    absurd hread.1 (by decide)
  exact ⟨w, hw, hok, hsafe.1 hok⟩

end VirtUsb
