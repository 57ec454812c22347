/-
# From a URB to the request of a backend

What a backend reads of a transfer was written down when its URB was accepted: the
transfer keeps it for as long as it is queued, the message of a fetch repeats it
(`World.fetchTail_message`), and the library passes the message on.  Payload bytes
cross only in the direction of the transfer, so nothing is read of the fresh buffer of
a transfer that comes in.
-/

import VirtUsb.Library.Transfer
import VirtUsb.Serving.Completion

namespace VirtUsb

open Transition

/-! ### The message of a transfer -/

/-- The message for a transfer to a device with this id. -/
def Transfer.message (x : Transfer) (objectId : ObjectId) : TransferFetch where
  transferId := x.id
  objectId := objectId
  type := match x.type with | .control => 0 | .isochronous => 1 | .bulk => 2 | .interrupt => 3
  direction := match x.direction with | .out => 0 | .in => 1
  endpoint := x.endpoint
  hasSetup := if x.setup.isSome then 1 else 0
  requestedLength := x.requestedLength
  dataLength := if x.direction = .out then x.requestedLength else 0
  setup := x.setup.getD (Vector.replicate 8 0)
  data :=
    if x.direction = .out then
      memcpy (fun _ => 0) ((x.buffer.map (·.bytes)).getD fun _ => 0) x.requestedLength
    else fun _ => 0

/-- The reference count is no part of the message. -/
theorem Transfer.message_content (x : Transfer) (objectId : ObjectId) :
    x.content.message objectId = x.message objectId :=
  rfl

namespace World

variable {N : ℕ} {h : HcdId} {w w' : World} {f : FilePtr} {r : Request} {t : TransferPtr}
  {d : DevicePtr} {env : Env}

/-- **The message of a fetch.** -/
theorem fetchTail_message (w : World) (t : TransferPtr) :
    (w.fetchTail t).2 = (w.transfers t).message (w.objects (w.device t)).id := by
  simp only [fetchTail, fetchHeader, Transfer.message]
  rcases hd : (w.transfers t).direction with _ | _
  · rcases Nat.eq_zero_or_pos (w.transfers t).requestedLength with hzero | hpos
    · cases (w.transfers t).type <;> simp [hzero, memcpy_zero, device]
    · cases (w.transfers t).type <;> simp [hpos, copy, device]
  · cases (w.transfers t).type <;> simp [device]

/-- The message of a fetch that took a request. -/
theorem backendFetch_message {nonblock : Bool} {message : TransferFetch} {v : World}
    (hs : w.backendFetch h f nonblock = (w', .ok message)) (hl : w.fetchLocked h f = (v, .taken r)) :
    r ∈ (w.backends h).pending ∧
      message = (w.transfers r.transfer).message (w.objects (w.device r.transfer)).id := by
  obtain ⟨binding, -, -, hfind, hq⟩ := fetchLocked_taken (T := ∅) hl
  obtain ⟨-, hv⟩ := fetchLocked_taken_eq hl
  have hobjects : v.objects = w.objects := by
    rw [hv]
    rfl
  simp only [backendFetch, hl, Prod.mk.injEq, Except.ok.injEq] at hs
  refine ⟨(findPendingDeviceLocked_some hfind).1, ?_⟩
  have hdevice : v.device r.transfer = w.device r.transfer := congrFun hq.device _
  rw [← hs.2, fetchTail_message, ← Transfer.message_content,
    hq.content r.transfer (Set.notMem_empty _), Transfer.message_content, hobjects, hdevice]
  rfl

/-- The answer to a fetch request from user space. -/
theorem controlIoctl_fetched {active nonblock : Bool} {m : UserMemory} {reply : Reply}
    (hs : (w.controlIoctl h active f nonblock ioctlTransferFetch m env).2 = .ok reply) :
    ∃ v message, reply = .fetched message ∧
      w.backendFetch h f nonblock = (v, .ok message) := by
  have hctl : w.controlIoctl h active f nonblock ioctlTransferFetch m env =
      if !active then (w, .error .ENODEV)
      else replying (w.controlTransferFetch h f nonblock env) .fetched := by
    rw [controlIoctl]
    rfl
  rw [hctl] at hs
  split at hs
  · simp at hs
  simp only [replying, controlTransferFetch] at hs
  split at hs
  · simp [Except.map] at hs
  rcases hf : w.backendFetch h f nonblock with ⟨v, e | found⟩
  · rw [hf] at hs
    simp [Except.map] at hs
  · rw [hf] at hs
    dsimp only at hs
    split at hs
    · simp [Except.map] at hs
    · exact ⟨v, found, (Except.ok.inj hs).symm, rfl⟩

/-- A fetch by a caller that can take the message. -/
theorem call_fetch {nonblock : Bool} {message : TransferFetch}
    (hs : w.backendFetch h f nonblock = (w', .ok message)) :
    w.call (.ioctl h true f nonblock ioctlTransferFetch (.ofWords []) {}) = w' := by
  have hfetched : (w.controlTransferFetch h f nonblock {}).1 = w' := by
    simp only [controlTransferFetch, hs]
    rfl
  exact hfetched

/-! ### What is kept until the fetch -/

/-- **A queued transfer is kept** over a whole run. -/
theorem kept_of_run {l : List (World × Call)} (hw : (calls N).Reachable w)
    (hr : Run (calls N) w l w') : w.nextTransfer ≤ w'.nextTransfer ∧
    ∀ h < N, ∀ r ∈ w'.requests h, r.transfer < w.nextTransfer → w.Kept w' h r := by
  induction hr with
  | nil => exact ⟨Nat.le_refl _, fun h hh r hr _ => .of_same rfl hr rfl⟩
  | @snoc l v w' c hr hstep ih =>
      have hv := hw.run hr
      have hworks := works_of_step (steady_of_reachable hv) hstep
      obtain ⟨hle, hkept⟩ := hworks.kept (serving_of_reachable hv)
      exact ⟨ih.1.trans hle, fun h hh r hr hlt =>
        Kept.trans (hkept h hh r hr (Nat.lt_of_lt_of_le hlt ih.1)) fun r₀ hr₀ ht =>
          ih.2 h hh r₀ hr₀ (ht ▸ hlt)⟩

end World

/-! ### The request of the library -/

/-- The type of a pipe under the library's name for it. -/
def Library.TransferType.pipe : Library.TransferType → BitVec 32
  | .control => pipeControl
  | .isochronous => pipeIsochronous
  | .bulk => pipeBulk
  | .interrupt => pipeInterrupt

/-- The payload of a URB, followed by zeros. -/
def Urb.payload (urb : Urb) : ℕ → Byte :=
  memcpy (fun _ => 0) ((urb.transferBuffer.map (·.bytes)).getD fun _ => 0)
    urb.transferBufferLength

/-- The request says what the URB says, and names the device. -/
structure Library.TransferRequest.Carries (request : Library.TransferRequest)
    (objectId : ObjectId) (urb : Urb) : Prop where
  objectId : request.objectId = objectId
  type : ∃ type : Library.TransferType,
    request.type = type.value ∧ usbPipetype urb.pipe = type.pipe
  direction : request.direction =
    (if usbPipein urb.pipe then Library.TransferDirection.in else .out).value
  endpoint : request.endpoint = (usbPipeendpoint urb.pipe).toNat
  requestedLength : request.requestedLength = urb.transferBufferLength
  limit : request.requestedLength ≤ 4096
  hasSetup : request.hasSetup = true ↔ usbPipetype urb.pipe = pipeControl
  setup : usbPipetype urb.pipe = pipeControl → urb.setupPacket = some request.setup
  /-- What goes out is the payload; of what comes in nothing is sent. -/
  out : usbPipein urb.pipe = false → request.dataLength = request.requestedLength ∧
    request.data = urb.payload ∧ (0 < request.dataLength → urb.transferBuffer.isSome = true)
  incoming : usbPipein urb.pipe = true → request.dataLength = 0 ∧ ∀ i, request.data i = 0

/-- The type of a pipe under the module's name for it. -/
def TransferType.pipe : TransferType → BitVec 32
  | .control => pipeControl
  | .isochronous => pipeIsochronous
  | .bulk => pipeBulk
  | .interrupt => pipeInterrupt

/-- The type of a transfer is that of the pipe. -/
theorem hcdGetTransferType_ok {pipe : BitVec 32} {type : TransferType}
    (ht : hcdGetTransferType pipe = .ok type) :
    usbPipetype pipe = type.pipe := by
  rw [hcdGetTransferType] at ht
  split at ht
  · obtain rfl := Except.ok.inj ht
    assumption
  split at ht
  · obtain rfl := Except.ok.inj ht
    assumption
  split at ht
  · obtain rfl := Except.ok.inj ht
    assumption
  split at ht
  · obtain rfl := Except.ok.inj ht
    assumption
  · simp at ht

/-- What an accepted URB was checked for. -/
theorem Urb.of_check {urb : Urb} {type : TransferType} (hc : urb.check = .ok type) :
    hcdGetTransferType urb.pipe = .ok type ∧
      (type = .control → urb.setupPacket.isSome = true) ∧
      (urb.direction = .out → 0 < urb.transferBufferLength → urb.transferBuffer.isSome = true) := by
  rw [Urb.check] at hc
  rcases ht : hcdGetTransferType urb.pipe with e | found
  · rw [ht] at hc
    simp at hc
  rw [ht] at hc
  dsimp only at hc
  split at hc
  · simp at hc
  split at hc
  · simp at hc
  split at hc
  · simp at hc
  rename_i hsetup hbuffer
  obtain rfl := Except.ok.inj hc
  refine ⟨rfl, fun hcontrol => ?_, fun hout hpos => ?_⟩
  · by_contra hnone
    exact hsetup ⟨hcontrol, by simpa using hnone⟩
  · by_contra hnone
    exact hbuffer ⟨hout, hpos, by simpa using hnone⟩

/-- A longer copy of what was copied. -/
theorem memcpy_of_le (dst src : ℕ → Byte) {n m : ℕ} (hle : n ≤ m) :
    memcpy dst (memcpy dst src n) m = memcpy dst src n := by
  funext i
  simp only [memcpy]
  by_cases hi : i < m
  · rw [if_pos hi]
  · rw [if_neg hi, if_neg fun hlt => hi (Nat.lt_of_lt_of_le hlt hle)]

/-- The bytes of the buffer of a transfer that goes out. -/
theorem memcpy_transferBuffer (w : World) {urb : Urb} (type : TransferType) (garbage : ℕ → Byte)
    (hout : urb.direction = .out) :
    memcpy (fun _ => 0) (((w.transferBuffer (urb.transferArgs type) garbage).2.map
      (·.bytes)).getD fun _ => 0) urb.transferBufferLength = urb.payload := by
  rw [Urb.payload]
  rcases Nat.eq_zero_or_pos urb.transferBufferLength with hzero | hpos
  · rw [hzero, memcpy_zero, memcpy_zero]
  · simp [World.transferBuffer, Urb.transferArgs, hout, hpos, Nat.ne_of_gt hpos, World.copy,
      memcpy_memcpy]

/-- **The message of a queued transfer carries its URB.** -/
theorem TransferArgs.queued_carries (w : World) (urb : Urb) {type : TransferType}
    (d : DevicePtr) (id : BitVec 64) (garbage : ℕ → Byte) (objectId : ObjectId)
    (hc : urb.check = .ok type) (hlimit : urb.transferBufferLength ≤ transferDataMax) :
    (Library.TransferRequest.ofFetch (((urb.transferArgs type).queued d id
      (w.transferBuffer (urb.transferArgs type) garbage).2).message objectId)).Carries
        objectId urb := by
  obtain ⟨ht, hsetup, hbuffer⟩ := Urb.of_check hc
  have htype := hcdGetTransferType_ok ht
  have hcontrol : usbPipetype urb.pipe = pipeControl ↔ type = .control := by
    rw [htype]
    cases type <;> decide
  have hin : urb.direction = if usbPipein urb.pipe then .in else .out := rfl
  refine ⟨rfl, ?_, ?_, rfl, rfl, hlimit, ?_, fun hpipe => ?_, fun hdir => ?_, fun hdir => ?_⟩
  · cases type with
    | control => exact ⟨.control, rfl, htype⟩
    | isochronous => exact ⟨.isochronous, rfl, htype⟩
    | bulk => exact ⟨.bulk, rfl, htype⟩
    | interrupt => exact ⟨.interrupt, rfl, htype⟩
  · simp only [Library.TransferRequest.ofFetch, Transfer.message, queued, Urb.transferArgs, hin]
    cases usbPipein urb.pipe <;> rfl
  · rw [hcontrol]
    by_cases htc : type = .control
    · simp [Library.TransferRequest.ofFetch, Transfer.message, queued, Urb.transferArgs, htc,
        hsetup htc]
    · simp [Library.TransferRequest.ofFetch, Transfer.message, queued, Urb.transferArgs, htc]
  · obtain ⟨setup, hs⟩ := Option.isSome_iff_exists.1 (hsetup (hcontrol.1 hpipe))
    simp [Library.TransferRequest.ofFetch, Transfer.message, queued, Urb.transferArgs,
      hcontrol.1 hpipe, hs]
  · rw [hdir] at hin
    have hdata := memcpy_transferBuffer w type garbage hin
    refine ⟨?_, ?_, fun hpos => hbuffer hin ?_⟩
    · simp [Library.TransferRequest.ofFetch, Transfer.message, queued, Urb.transferArgs, hin]
    · have hmessage : (((urb.transferArgs type).queued d id
          (w.transferBuffer (urb.transferArgs type) garbage).2).message objectId).data =
          urb.payload := by
        rw [← hdata]
        simp [Transfer.message, queued, Urb.transferArgs, hin]
      rw [Library.TransferRequest.ofFetch, hmessage]
      exact memcpy_of_le _ _ hlimit
    · simpa [Library.TransferRequest.ofFetch, Transfer.message, queued, Urb.transferArgs, hin]
        using hpos
  · rw [hdir] at hin
    refine ⟨?_, fun i => ?_⟩
    · simp [Library.TransferRequest.ofFetch, Transfer.message, queued, Urb.transferArgs, hin]
    · simp [Library.TransferRequest.ofFetch, Transfer.message, queued, Urb.transferArgs, hin,
        memcpy]

/-- The request of a successful call of the library is what the module answered. -/
theorem Library.transferFetch_ok {handle : Option Library.Handle}
    {ioctl : ℤ → BitVec 32 → Except Errno Reply} {request : Library.TransferRequest}
    (hs : Library.transferFetch handle ioctl = .ok request) :
    ∃ fd reply, ioctl fd ioctlTransferFetch = .ok reply ∧
      ∀ message, reply = .fetched message → request = .ofFetch message := by
  rw [Library.transferFetch.eq_def] at hs
  rcases handle with _ | handle
  · simp at hs
  dsimp only at hs
  split at hs
  · simp at hs
  rcases hi : ioctl handle.fd ioctlTransferFetch with e | reply
  · rw [hi] at hs
    simp at hs
  rw [hi] at hs
  refine ⟨_, reply, hi, ?_⟩
  rintro message rfl
  exact (Except.ok.inj hs).symm

/-! ### Delivery -/

namespace World

variable {N : ℕ} {w w' : World}

/-- A device keeps its id over a whole run. -/
theorem sameIds_of_run {l : List (World × Call)} (hw : (calls N).Reachable w)
    (hr : Run (calls N) w l w') : w.SameIds w' := by
  induction hr with
  | nil => exact ⟨Nat.le_refl _, fun _ _ => rfl⟩
  | @snoc l v w' c hr hstep ih =>
      have hsteady := steady_of_reachable (hw.run hr)
      obtain ⟨-, rfl⟩ := calls_step hstep
      exact ih.trans (managed_call hsteady.accounts.counted hsteady.accounts.registry c).sameIds

/-- What is plugged into a port of a hub was created. -/
theorem Steady.born_of_peer (hw : w.Steady N) {p : PortRef} {d : DevicePtr}
    (hpeer : w.topo.peers p = some (.upstream d)) : d < w.nextDevice := by
  by_contra hlate
  obtain ⟨hback, -, -⟩ := hw.wired.symm _ _ hpeer
  exact (hw.wired.symm _ _ hback).2.1 (hw.sound.unborn d (Nat.le_of_not_lt hlate))

variable {w₁ : World} {h h' : HcdId} {u : UrbPtr} {urb : Urb} {env : Env} {r : Request}
  {l : List (World × Call)}

/-- An accepted URB as a step of the module. -/
theorem step_urbEnqueue (hc : (Call.urbEnqueue h u urb env).Possible N w)
    (hs : (w.handUrb u urb).hcdUrbEnqueue h u env = (w₁, .ok ())) :
    (calls N).step w (.urbEnqueue h u urb env) w₁ := by
  simp only [calls, Machine.ofFun, if_pos hc, call, hs]

/-- **The transfer of an accepted URB** is as it was made, wherever its request is queued
later. -/
theorem content_of_run (hw : (calls N).Reachable w)
    (hc : (Call.urbEnqueue h u urb env).Possible N w)
    (hs : (w.handUrb u urb).hcdUrbEnqueue h u env = (w₁, .ok ())) (hr : Run (calls N) w₁ l w')
    (hh' : h' < N) (hmem : r ∈ w'.requests h') (ht : r.transfer = w.nextTransfer) :
    ∃ d type, w.hcdGetUrbDevice h urb = some d ∧ urb.check = .ok type ∧
      urb.transferBufferLength ≤ transferDataMax ∧
      (w'.transfers r.transfer).content = (urb.transferArgs type).queued d (w.transferNextId + 1)
        ((w.handUrb u urb).transferBuffer (urb.transferArgs type) env.garbage).2 := by
  have hurb : (w.handUrb u urb).urbs u = { urb with linked := false, unlinked := false } :=
    Function.update_self _ _ _
  obtain ⟨d, type, hd, hcheck, haccepted⟩ := hcdUrbEnqueue_ok hs
  rw [hurb] at hd hcheck haccepted
  have hlt : r.transfer < w₁.nextTransfer := by
    rw [ht, haccepted.nextTransfer]
    exact Nat.lt_succ_self _
  have hkept := ((kept_of_run (hw.step (step_urbEnqueue hc hs)) hr).2 h' hh' r hmem hlt).2
  rw [ht] at hkept ⊢
  exact ⟨d, type, hd, hcheck, haccepted.limit, hkept.trans haccepted.made⟩

/-- **The message for an accepted URB says what the URB says**, whenever its request is
fetched: the transfer is as it was made, and so is the id of its device. -/
theorem message_carries (hw : (calls N).Reachable w)
    (hc : (Call.urbEnqueue h u urb env).Possible N w)
    (hs : (w.handUrb u urb).hcdUrbEnqueue h u env = (w₁, .ok ())) (hr : Run (calls N) w₁ l w')
    (hh' : h' < N) (hmem : r ∈ w'.requests h') (ht : r.transfer = w.nextTransfer) :
    ∃ d, w.hcdGetUrbDevice h urb = some d ∧
      (Library.TransferRequest.ofFetch ((w'.transfers r.transfer).message
        (w'.objects (w'.device r.transfer)).id)).Carries (w.objects d).id urb := by
  have hsteady := steady_of_reachable hw
  obtain ⟨d, type, hd, hcheck, hlimit, hcontent⟩ := content_of_run hw hc hs hr hh' hmem ht
  obtain ⟨p, -, -, hpeer⟩ := (hcdGetUrbDevice_eq_some hsteady.wired).1 hd
  have hdevice : w'.device r.transfer = d := (congrArg Transfer.device hcontent :)
  have hid : (w'.objects d).id = (w.objects d).id :=
    (sameIds_of_run hw ((Run.single (step_urbEnqueue hc hs)).trans hr)).2 d
      (hsteady.born_of_peer hpeer)
  refine ⟨d, hd, ?_⟩
  rw [hdevice, hid, ← Transfer.message_content, hcontent]
  exact TransferArgs.queued_carries _ urb d _ _ _ hcheck hlimit

end World

open World

/-- **An accepted URB is delivered as it is**, whatever happens before it is fetched. -/
theorem transfer_delivered {N : ℕ} {w w₁ : World} (hw : (calls N).Reachable w) {h : HcdId}
    {u : UrbPtr} {urb : Urb} {env : Env} (hc : (Call.urbEnqueue h u urb env).Possible N w)
    (hs : (w.handUrb u urb).hcdUrbEnqueue h u env = (w₁, .ok ())) :
    ∃ d p, urb.dev = some ⟨some h, p⟩ ∧ w.topo.hubPortIsValid h p = true ∧
      w.topo.peers (.downstream h (p - 1)) = some (.upstream d) ∧
      (w₁.backends h).pending =
        (w.backends h).pending ++ [{ urb := u, transfer := w.nextTransfer }] ∧
      ∀ l w₂, Run (calls N) w₁ l w₂ → ∀ h' < N, ∀ handle active f nonblock m env' request v r,
        Library.transferFetch handle (fun _ command =>
          (w₂.controlIoctl h' active f nonblock command m env').2) = .ok request →
        w₂.fetchLocked h' f = (v, .taken r) → r.transfer = w.nextTransfer →
        request.Carries (w.objects d).id urb := by
  obtain ⟨d, type, hd, hcheck, haccepted⟩ := hcdUrbEnqueue_ok hs
  obtain ⟨p, hdev, hv, hpeer⟩ := (hcdGetUrbDevice_eq_some (steady_of_reachable hw).wired).1 hd
  have hurb : (w.handUrb u urb).urbs u = { urb with linked := false, unlinked := false } :=
    Function.update_self _ _ _
  rw [hurb] at hd hdev
  refine ⟨d, p, hdev, hv, hpeer, ?_, fun l w₂ hrun h' hh' handle active f nonblock m env' request
    v r hfetch hlocked hr => ?_⟩
  · rw [haccepted.backends, Function.update_self]
    rfl
  obtain ⟨fd, reply, hioctl, hrequest⟩ := Library.transferFetch_ok hfetch
  obtain ⟨v', message, hreply, hfetched⟩ := controlIoctl_fetched hioctl
  obtain ⟨hmem, hmessage⟩ := backendFetch_message hfetched hlocked
  obtain ⟨d', hd', hcarries⟩ :=
    message_carries hw hc hs hrun hh' (List.mem_append_left _ hmem) hr
  obtain rfl : d = d' := Option.some.inj (hd.symm.trans hd')
  rw [hrequest message hreply, hmessage]
  exact hcarries

/-- Four bytes are submitted for the device at port 1, and file 5 fetches them. -/
theorem transfer_delivered_example : ∃ w₁ request, (calls 1).Reachable w₁ ∧
    Library.transferFetch (some ⟨3⟩) (fun _ command =>
      (w₁.controlIoctl 0 true 5 true command (.ofWords []) {}).2) = .ok request ∧
    request.Carries 1 .bulkOut := by
  obtain ⟨w, hw, hp⟩ := exists_reachable_of_exec (I := Initialised)
    (f := fun w c => if Call.Possible 1 w c then some (w.call c) else none) (s := oneHub)
    (l := Call.plugIn 5)
    (p := fun w => ¬ w.InFlight 1 7 ∧ (w.objects 0).id = 1 ∧
      w.topo.peers (.downstream 0 0) = some (.upstream 0) ∧ w.nextTransfer = 0 ∧
      ((w.handUrb 7 .bulkOut).hcdUrbEnqueue 0 7 {}).2.toOption = some () ∧
      (((w.handUrb 7 .bulkOut).hcdUrbEnqueue 0 7 {}).1.fetchLocked 0 5).2 =
        .taken ⟨7, 0, none⟩ ∧
      (Library.transferFetch (some ⟨3⟩) (fun _ command =>
        (((w.handUrb 7 .bulkOut).hcdUrbEnqueue 0 7 {}).1.controlIoctl 0 true 5 true command
          (.ofWords []) {}).2)).toOption.isSome = true)
    oneHub_initialised (by decide)
  obtain ⟨hfree, hid, hpeer, hnext, hok, htaken, hfetch⟩ := of_decide_eq_true hp
  have hc : (Call.urbEnqueue 0 7 .bulkOut {}).Possible 1 w := ⟨Nat.one_pos, hfree⟩
  rcases hs : (w.handUrb 7 .bulkOut).hcdUrbEnqueue 0 7 {} with ⟨w₁, e | _⟩
  · rw [hs] at hok
    simp [Except.toOption] at hok
  rw [hs] at htaken hfetch
  obtain ⟨d, p, hdev, -, hd, -, hdelivered⟩ := transfer_delivered hw hc hs
  obtain ⟨-, rfl⟩ : some 0 = some 0 ∧ 1 = p := by simpa [Urb.bulkOut] using hdev
  obtain rfl : 0 = d := by simpa [hpeer] using hd
  obtain ⟨request, hrequest⟩ := Option.isSome_iff_exists.1 hfetch
  have hfetched : Library.transferFetch (some ⟨3⟩) (fun _ command =>
      (w₁.controlIoctl 0 true 5 true command (.ofWords []) {}).2) = .ok request := by
    rcases hr : Library.transferFetch (some ⟨3⟩) (fun _ command =>
      (w₁.controlIoctl 0 true 5 true command (.ofWords []) {}).2) with e | found
    · rw [hr] at hrequest
      simp [Except.toOption] at hrequest
    · rw [hr] at hrequest
      rw [Option.some.inj hrequest]
  have hcarries := hdelivered [] w₁ .nil 0 Nat.one_pos _ _ _ _ _ _ request _ ⟨7, 0, none⟩ hfetched
    (Prod.ext rfl htaken) hnext.symm
  rw [hid] at hcarries
  refine ⟨w₁, request, hw.step (a := .urbEnqueue 0 7 .bulkOut {}) ?_, hfetched, hcarries⟩
  simp only [calls, Machine.ofFun, if_pos hc, call, hs]

end VirtUsb
