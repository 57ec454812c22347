/-
# The test device serves the host

A request that the test device fetches says what its URB says, and what the device completes
it with fits the request (`answer_cases`).  So the URB of a fetched request comes back with
that answer unless it was dequeued in between, and then the completion changes nothing
(`test_device_answers`).  Left alone, the loop answers the pending requests of its device one
by one, in their order (`test_device_serves`).
-/

import VirtUsb.Serving.Copies
import VirtUsb.Serving.Release
import VirtUsb.Serving.Stale
import VirtUsb.Tools.TestDevice

namespace VirtUsb

open Library Transition World

namespace TestDevice

/-! ### What the device answers -/

/-- The contents of every answer with data. -/
def contents : List (List Byte) := [deviceDescriptor, configurationDescriptor, [1], [0, 0]]

/-- No answer has more than 18 bytes. -/
theorem length_of_contents : ∀ data ∈ contents, data.length ≤ 18 := by decide

/-- The two kinds of answers. -/
inductive Answers (request : TransferRequest) : Completion → Prop
  | without (status : ℤ) : Answers request (.without status)
  | data {data : List Byte} (hmem : data ∈ contents) : Answers request (completeData request data)

/-- Whichever of two answers is given. -/
theorem Answers.ite {request : TransferRequest} {c c' : Completion} {p : Prop} [Decidable p]
    (hc : Answers request c) (hc' : Answers request c') :
    Answers request (if p then c else c') := by
  split
  · exact hc
  · exact hc'

/-- The device answers without data, or with one of its contents. -/
theorem answer_cases (objectId : ObjectId) (request : TransferRequest) :
    Answers request (answer objectId request) := by
  have hpipe : Answers request (.without Errno.EPIPE.status) := .without _
  have hdevice : Answers request (completeData request deviceDescriptor) :=
    .data (.head _)
  have hconfig : Answers request (completeData request configurationDescriptor) :=
    .data (.tail _ (.head _))
  have hone : Answers request (completeData request [1]) := .data (.tail _ (.tail _ (.head _)))
  have hzero : Answers request (completeData request [0, 0]) :=
    .data (.tail _ (.tail _ (.tail _ (.head _))))
  have hcontrol : Answers request (handleControlTransfer request) := by
    unfold handleControlTransfer
    refine .ite (.without _) (.ite hpipe (.ite (.ite hpipe (.ite hdevice (.ite hconfig hpipe))) ?_))
    exact .ite (.ite (.without 0) hpipe) (.ite (.ite hone hpipe) (.ite (.ite hzero hpipe) hpipe))
  unfold answer
  exact .ite (.without _) (.ite hcontrol hpipe)

/-- The answer fits the request, and there is data for all of it. -/
theorem answer_fits (objectId : ObjectId) (request : TransferRequest) :
    (answer objectId request).actualLength ≤ request.requestedLength ∧
      (answer objectId request).actualLength ≤ 18 ∧
      (0 < (answer objectId request).actualLength →
        (answer objectId request).data.isSome = true) := by
  have hcases := answer_cases objectId request
  generalize answer objectId request = c at hcases
  cases hcases with
  | without status => exact ⟨Nat.zero_le _, Nat.zero_le _, fun hpos => absurd hpos (Nat.lt_irrefl 0)⟩
  | @data data hmem =>
    have hlength := length_of_contents data hmem
    refine ⟨?_, ?_, fun _ => rfl⟩
    · show (if _ then _ else _) ≤ _
      split <;> omega
    · show (if _ then _ else _) ≤ _
      split <;> omega

/-! ### The two requests of a pass -/

variable {w w' : World} {h : HcdId} {f : FilePtr} {handle : Handle} {env : Env}

/-- What the module is told of a completion. -/
def Completion.message (c : Completion) (transferId : BitVec 64) : TransferCompleteRequest :=
  ⟨transferId, c.status.toInt, c.actualLength,
    memcpy (fun _ => 0) (c.data.getD fun _ => 0) c.actualLength⟩

/-- The completion of the library is the one of the module. -/
theorem complete_file (hfd : 0 ≤ handle.fd) (objectId : ObjectId) (request : TransferRequest) :
    complete w (w.file h f false env) (some handle) objectId request =
      passed (w.controlTransferComplete h f
        ((answer objectId request).message request.id) env) := by
  obtain ⟨-, hmax, hsome⟩ := answer_fits objectId request
  exact transferComplete_file hfd _ _ (hmax.trans (by decide)) hsome

/-- A fetch that took a request. -/
theorem fetch_ok (hfd : 0 ≤ handle.fd) {request : TransferRequest}
    (hs : fetch w (w.file h f false env) (some handle) = (w', .ok request)) :
    ∃ message, w.backendFetch h f false = (w', .ok message) ∧ request = .ofFetch message ∧
      w' = w.call (.ioctl h true f false ioctlTransferFetch (.ofWords []) env) := by
  rw [fetch_file hfd] at hs
  obtain ⟨hworld, hresult⟩ := Prod.mk.inj hs
  have hcall : w' = w.call (.ioctl h true f false ioctlTransferFetch (.ofWords []) env) :=
    hworld.symm
  rw [World.controlTransferFetch] at hworld hresult
  rcases halloc : env.messageAlloc
  · simp [halloc] at hresult
  rcases hfetch : w.backendFetch h f false with ⟨v, e | message⟩
  · simp [halloc, hfetch] at hresult
  rcases hcopy : env.copyToUser
  · simp [halloc, hfetch, hcopy] at hresult
  simp only [halloc, hfetch, hcopy, Bool.not_true, Bool.false_eq_true, if_false, Except.ok.injEq]
    at hworld hresult
  exact ⟨message, by rw [hworld], hresult.symm, hcall⟩

/-- A completion that reaches the backend. -/
theorem complete_backend (hfd : 0 ≤ handle.fd) (halloc : env.messageAlloc = true)
    (hcopy : env.copyFromUser = true) (objectId : ObjectId) (request : TransferRequest) :
    complete w (w.file h f false env) (some handle) objectId request =
      passed (w.backendComplete h f ((answer objectId request).message request.id)) := by
  rw [complete_file hfd, World.controlTransferComplete, halloc, hcopy]
  rfl

/-- The file completes what it has fetched, and the answer fits. -/
theorem complete_active {N : ℕ} {r : Request} (env : Env) (hw : (calls N).Reachable w)
    (hh : h < N) (hfd : 0 ≤ handle.fd) (hids : w.nextTransfer < 2 ^ 64)
    (halloc : env.messageAlloc = true) (hcopy : env.copyFromUser = true)
    (hr : r ∈ (w.backends h).active) (howner : r.owner = some f)
    (hholds : (w.urbs r.urb).Holds) {request : TransferRequest}
    (hid : request.id = (w.transfers r.transfer).id)
    (hlength : request.requestedLength = (w.transfers r.transfer).requestedLength)
    (objectId : ObjectId) :
    let done := complete w (w.file h f false env) (some handle) objectId request
    let c := (answer objectId request).message request.id
    done.2 = .ok () ∧ RequestFinished N h r c.status
      ((w.urbs r.urb).transferred (w.transfers r.transfer).direction c.data c.actualLength)
      w done.1 := by
  intro done c
  have hserving := serving_of_reachable hw
  obtain ⟨hfind, hne⟩ := hserving.findIdLocked_eq hh hids hr howner
  rw [← hid] at hfind hne
  have hfound : w.findIdLocked h f c.transferId = some r := hfind
  have hfits : c.actualLength ≤ (w.transfers r.transfer).requestedLength :=
    hlength ▸ (answer_fits objectId request).1
  obtain ⟨hok, hfinished⟩ :=
    RequestFinished.of_short (steady_of_reachable hw) hserving hh hne hfound hholds hfits
  have hdone : done = passed (w.backendComplete h f c) :=
    complete_backend hfd halloc hcopy objectId request
  rw [hdone]
  exact ⟨by rw [passed, hok], hfinished⟩

/-- The completion of a request that the file does not have is refused. -/
theorem complete_lost (hfd : 0 ≤ handle.fd) (halloc : env.messageAlloc = true)
    (hcopy : env.copyFromUser = true) {request : TransferRequest} (hne : request.id ≠ 0)
    (hlost : w.findIdLocked h f request.id = none) (objectId : ObjectId) :
    complete w (w.file h f false env) (some handle) objectId request =
      (w, .error (.errno .ENOENT)) := by
  have hnone : w.findIdLocked h f ((answer objectId request).message request.id).transferId =
      none := hlost
  rw [complete_backend hfd halloc hcopy, World.backendComplete, if_neg (by exact hne),
    World.completeLocked, hnone]
  rfl

end TestDevice

namespace World

variable {N : ℕ} {w w₁ w' : World} {h h' : HcdId} {u : UrbPtr} {urb : Urb} {env : Env}
  {f : FilePtr} {r : Request}

/-! ### The request of a URB -/

/-- The number of a transfer stays. -/
theorem id_of_run {t : TransferPtr} {l : List (World × Call)} (hw : (calls N).Reachable w)
    (hr : Run (calls N) w l w') (ht : t < w.nextTransfer) :
    t < w'.nextTransfer ∧ (w'.transfers t).id = (w.transfers t).id := by
  have hlt := Nat.lt_of_lt_of_le ht (kept_of_run hw hr).1
  refine ⟨hlt, ?_⟩
  rw [(serving_of_reachable (hw.run hr)).ids t hlt, (serving_of_reachable hw).ids t ht]

end World

open TestDevice

/-- **A URB that the test device fetched comes back with its answer**, whatever happens before the
fetch and between the fetch and the completion, unless it was dequeued: then the completion finds
nothing and changes nothing. -/
theorem test_device_answers {N : ℕ} {w w₁ w₂ w₃ w₄ : World} (hw : (calls N).Reachable w)
    {h h' : HcdId} {u : UrbPtr} {urb : Urb} {env env₂ env₄ : Env}
    (hp : (Call.urbEnqueue h u urb env).Possible N w)
    (hs : (w.handUrb u urb).hcdUrbEnqueue h u env = (w₁, .ok ())) (hholds : urb.Holds)
    {l : List (World × Call)} (hrun : Run (calls N) w₁ l w₂) (hh' : h' < N) {f : FilePtr}
    {handle : Handle} (hfd : 0 ≤ handle.fd) {request : TransferRequest}
    (hfetch : fetch w₂ (w₂.file h' f false env₂) (some handle) = (w₃, .ok request))
    {v : World} {r : Request} (hlocked : w₂.fetchLocked h' f = (v, .taken r))
    (hr : r.transfer = w.nextTransfer) {l' : List (World × Call)}
    (hrun' : Run (calls N) w₃ l' w₄) (hids : w₄.nextTransfer < 2 ^ 64)
    (halloc : env₄.messageAlloc = true) (hcopy : env₄.copyFromUser = true) (objectId : ObjectId) :
    let done := complete w₄ (w₄.file h' f false env₄) (some handle) objectId request
    let c := (answer objectId request).message request.id
    (∃ d p, urb.dev = some ⟨some h, p⟩ ∧
      w.topo.peers (.downstream h (p - 1)) = some (.upstream d) ∧
      request.Carries (w.objects d).id urb) ∧
    (∀ r' ∈ (w₄.backends h').active, r'.owner = some f → r'.transfer = w.nextTransfer →
      r'.urb = u ∧ done.2 = .ok () ∧
        RequestFinished N h' r' c.status
          ((w₄.urbs u).transferred urb.direction c.data c.actualLength) w₄ done.1) ∧
    ((∀ r' ∈ (w₄.backends h').active, r'.owner = some f → r'.transfer ≠ w.nextTransfer) →
      done = (w₄, .error (.errno .ENOENT))) := by
  intro done c
  have hreach := (hw.step (step_urbEnqueue hp hs)).run hrun
  obtain ⟨message, hbackend, hrequest, hcall⟩ := fetch_ok hfd hfetch
  have hstep : (calls N).step w₂ (.ioctl h' true f false ioctlTransferFetch (.ofWords []) env₂)
      w₃ := by
    rw [hcall]
    exact if_pos ⟨hh', trivial⟩
  have hlater : Run (calls N) w₂ _ w₄ := (Run.single hstep).trans hrun'
  have hreach' := hreach.run hlater
  have hserving := serving_of_reachable hreach'
  obtain ⟨hmem, hmessage⟩ := backendFetch_message hbackend hlocked
  have hqueued := List.mem_append_left (w₂.backends h').active hmem
  -- the request, and the number of its transfer
  obtain ⟨d, hd, hcarries⟩ := message_carries hw hp hs hrun hh' hqueued hr
  obtain ⟨p, hdev, -, hpeer⟩ := (hcdGetUrbDevice_eq_some (steady_of_reachable hw).wired).1 hd
  rw [← hmessage, ← hrequest] at hcarries
  have hborn : w.nextTransfer < w₂.nextTransfer :=
    hr ▸ ((serving_of_reachable hreach).loaded h' hh' r hqueued).1
  obtain ⟨hlt, hkept⟩ := id_of_run hreach hlater hborn
  have hnumber : request.id = (w₄.transfers w.nextTransfer).id := by
    rw [hkept, ← hr, hrequest, hmessage]
    rfl
  refine ⟨⟨d, p, hdev, hpeer, hcarries⟩, fun r' hr' howner ht => ?_, fun hnone => ?_⟩
  · have hactive := List.mem_append_right (w₄.backends h').pending hr'
    obtain ⟨hu, hshape⟩ := request_of_run hw hp hs (hrun.trans hlater) hh' hactive ht
    obtain ⟨d', type, -, -, -, hcontent⟩ :=
      content_of_run hw hp hs (hrun.trans hlater) hh' hactive ht
    have hlength : request.requestedLength = (w₄.transfers r'.transfer).requestedLength :=
      hcarries.requestedLength.trans (congrArg Transfer.requestedLength hcontent :).symm
    have hdirection : (w₄.transfers r'.transfer).direction = urb.direction :=
      (congrArg Transfer.direction hcontent :)
    obtain ⟨hok, hfinished⟩ := complete_active env₄ hreach' hh' hfd hids halloc hcopy hr' howner
      (hu ▸ holds_of_shape hshape hholds) (ht ▸ hnumber) hlength objectId
    rw [hu, hdirection] at hfinished
    exact ⟨hu, hok, hfinished⟩
  · have hlost : w₄.findIdLocked h' f request.id = none := by
      refine List.find?_eq_none.2 fun r' hr' => ?_
      simp only [decide_eq_true_eq, not_and]
      intro howner heq
      have hsmall := (hserving.loaded h' hh' r' (List.mem_append_right _ hr')).1
      exact hnone r' hr' howner (hserving.id_inj hids hsmall hlt (heq.trans hnumber))
    exact complete_lost hfd halloc hcopy (hnumber ▸ hserving.id_ne_zero hids hlt) hlost objectId

/-- The host asks the device at port 1 for its device descriptor. -/
def Urb.getDeviceDescriptor : Urb where
  dev := some ⟨some 0, 1⟩
  pipe := 0x80000080
  numSgs := 0
  numberOfPackets := 0
  setupPacket := some #v[0x80, 6, 0, 1, 0, 0, 18, 0]
  transferBuffer := some ⟨18, fun _ => 0⟩
  transferBufferLength := 18
  actualLength := 0

/-- The device descriptor is asked for, fetched by file 5 and sent. -/
theorem test_device_answers_example : ∃ w₃ request, (calls 1).Reachable w₃ ∧
    (complete w₃ (w₃.file 0 5 false {}) (some ⟨3⟩) 1 request).2 = .ok () ∧
    (complete w₃ (w₃.file 0 5 false {}) (some ⟨3⟩) 1 request).1.givebacks =
      w₃.givebacks ++ [⟨7, 0⟩] := by
  let started (w : World) : World :=
    ((w.handUrb 7 .getDeviceDescriptor).hcdUrbEnqueue 0 7 {}).1
  let fetched (w : World) : World × Except Library.Error TransferRequest :=
    fetch (started w) ((started w).file 0 5 false {}) (some ⟨3⟩)
  obtain ⟨w, hw, hp⟩ := exists_reachable_of_exec (I := Initialised)
    (f := fun w c => if Call.Possible 1 w c then some (w.call c) else none) (s := oneHub)
    (l := Call.plugIn 5)
    (p := fun w => ¬ w.InFlight 1 7 ∧ w.nextTransfer = 0 ∧
      ((w.handUrb 7 .getDeviceDescriptor).hcdUrbEnqueue 0 7 {}).2.toOption = some () ∧
      ((started w).fetchLocked 0 5).2 = .taken ⟨7, 0, none⟩ ∧
      ((fetched w).2.toOption.map fun request => (answer 1 request).status) = some 0 ∧
      (fetched w).1.nextTransfer = 1 ∧
      ((fetched w).1.backends 0).active = [⟨7, 0, some 5⟩])
    oneHub_initialised (by decide)
  obtain ⟨hfree, hnext, hok, htaken, hfetch, hnext', hactive⟩ := of_decide_eq_true hp
  have hc : (Call.urbEnqueue 0 7 .getDeviceDescriptor {}).Possible 1 w := ⟨Nat.one_pos, hfree⟩
  have hs : (w.handUrb 7 .getDeviceDescriptor).hcdUrbEnqueue 0 7 {} = (started w, .ok ()) := by
    refine Prod.ext rfl ?_
    rcases hs : ((w.handUrb 7 .getDeviceDescriptor).hcdUrbEnqueue 0 7 {}).2 with e | _
    · rw [hs] at hok
      simp [Except.toOption] at hok
    · rfl
  obtain ⟨request, hrequest, hstatus⟩ := Option.map_eq_some_iff.1 hfetch
  have hfetched : fetched w = ((fetched w).1, .ok request) := by
    refine Prod.ext rfl ?_
    rcases hr : (fetched w).2 with e | found
    · rw [hr] at hrequest
      simp [Except.toOption] at hrequest
    · rw [hr] at hrequest
      exact congrArg Except.ok (Option.some.inj hrequest)
  have hholds : Urb.getDeviceDescriptor.Holds := fun _ => ⟨_, rfl, le_rfl⟩
  have hfd : 0 ≤ (⟨3⟩ : Handle).fd := by decide
  have halloc : ({} : Env).messageAlloc = true := rfl
  obtain ⟨-, hanswered, -⟩ := test_device_answers hw hc hs hholds .nil Nat.one_pos hfd hfetched
    (Prod.ext rfl htaken) hnext.symm .nil (by rw [hnext']; decide) halloc rfl 1
  obtain ⟨-, hdone, hfinished⟩ := hanswered ⟨7, 0, some 5⟩ (by rw [hactive]; exact .head _) rfl
    hnext.symm
  refine ⟨(fetched w).1, request, ?_, hdone, ?_⟩
  · obtain ⟨-, -, -, hcall⟩ := fetch_ok (by decide) hfetched
    refine (hw.step (step_urbEnqueue hc hs)).step
      (a := .ioctl 0 true 5 false ioctlTransferFetch (.ofWords []) {}) ?_
    rw [hcall]
    exact if_pos ⟨Nat.one_pos, trivial⟩
  · rw [hfinished.givebacks, Completion.message, hstatus]
    rfl

/-! ### Left alone -/

namespace TestDevice

variable {N : ℕ} {w w' : World} {h : HcdId} {f : FilePtr} {handle : Handle} {env env' : Env}
  {d : DevicePtr} {r : Request}

/-- What the test device for `d` completes a request with. -/
def reply (w : World) (d : DevicePtr) (r : Request) : TransferCompleteRequest :=
  let request : TransferRequest :=
    .ofFetch ((w.transfers r.transfer).message (w.objects (w.device r.transfer)).id)
  (answer (w.objects d).id request).message request.id

/-- The URB of a request that was completed so. -/
def replied (w : World) (d : DevicePtr) (r : Request) : Urb :=
  { (w.urbs r.urb).transferred (w.transfers r.transfer).direction (reply w d r).data
      (reply w d r).actualLength with linked := false }

/-- The calls of a pass find memory, and can copy. -/
def Delivers (x : Env × Env) : Prop :=
  x.1.messageAlloc = true ∧ x.1.copyToUser = true ∧
    x.2.messageAlloc = true ∧ x.2.copyFromUser = true

/-- From `w` to `w'` the first pending request for `d` was answered, and nothing else. -/
structure Turned (N : ℕ) (h : HcdId) (d : DevicePtr) (r : Request) (w w' : World) : Prop where
  reachable : (calls N).Reachable w'
  pending : ∀ e, w.pendingFor h e =
    if e = d then r :: w'.pendingFor h e else w'.pendingFor h e
  active : (w'.backends h).active = (w.backends h).active
  bindings : (w'.backends h).bindings = (w.backends h).bindings
  other : ∀ h', h' ≠ h → w'.backends h' = w.backends h'
  givebacks : w'.givebacks = w.givebacks ++ [⟨r.urb, (reply w d r).status⟩]
  urbs : w'.urbs = Function.update w.urbs r.urb (replied w d r)
  transfers : ∀ x ∈ w'.requests h, w'.transfers x.transfer = w.transfers x.transfer
  id : (w'.objects d).id = (w.objects d).id
  nextTransfer : w'.nextTransfer = w.nextTransfer

/-- A completion is a call of the module. -/
theorem complete_call (w : World) (h : HcdId) (f : FilePtr) (env : Env) (hfd : 0 ≤ handle.fd)
    (objectId : ObjectId) (request : TransferRequest) :
    ∃ m, (complete w (w.file h f false env) (some handle) objectId request).1 =
      w.call (.ioctl h true f false ioctlTransferComplete m env) := by
  have hmax : (answer objectId request).actualLength < 2 ^ 32 :=
    Nat.lt_of_le_of_lt (answer_fits objectId request).2.1 (by decide)
  refine ⟨completionMemory request.id (answer objectId request).status
    (answer objectId request).actualLength (memcpy (fun _ => 0)
      ((answer objectId request).data.getD fun _ => 0) (answer objectId request).actualLength), ?_⟩
  have hi : ∀ m : UserMemory, w.call (.ioctl h true f false ioctlTransferComplete m env) =
      (w.controlTransferComplete h f m.transferComplete env).1 := fun _ => rfl
  rw [complete_file hfd, hi, transferComplete_completionMemory _ _ hmax]
  rfl

/-- **A pass fetches the first pending request** of the device, which the file then has on
loan. -/
theorem fetch_first (hw : (calls N).Reachable w) (hh : h < N) (hfd : 0 ≤ handle.fd)
    (hb : (⟨d, f⟩ : Binding) ∈ (w.backends h).bindings) (hids : w.nextTransfer < 2 ^ 64)
    (hfind : w.findPendingDeviceLocked h d = some r) (halloc : env.messageAlloc = true)
    (hcopy : env.copyToUser = true) :
    ∃ w₁, fetch w (w.file h f false env) (some handle) = (w₁, .ok (.ofFetch
        ((w.transfers r.transfer).message (w.objects (w.device r.transfer)).id))) ∧
      (calls N).Reachable w₁ ∧ Loan h f r d w₁ w := by
  have hsettled : w.Settled N := ⟨steady_of_reachable hw, serving_of_reachable hw⟩
  obtain ⟨hpending, hdevice⟩ := findPendingDeviceLocked_some hfind
  have hmem : r ∈ w.requests h := List.mem_append_left _ hpending
  have hmessage := backendFetch_ok (hsettled.serving.bound h hh) hb hfind false
  rcases hfetch : w.backendFetch h f false with ⟨w₁, _ | message⟩
  · rw [hfetch] at hmessage
    simp at hmessage
  rw [hfetch] at hmessage
  obtain rfl := Except.ok.inj hmessage
  -- the request that is on loan is the first one, since their numbers are the same
  obtain ⟨r', hsame, hloan⟩ := Loan.of_fetch hsettled hh hfetch
  obtain rfl : r = r' := by
    have hmem' : r' ∈ w.requests h := List.mem_append_left _ hloan.pending_mem
    refine List.inj_on_of_nodup_map (hsettled.serving.nodup h hh) hmem hmem' ?_
    exact hsettled.serving.id_inj hids (hsettled.serving.loaded h hh r hmem).1
      (hsettled.serving.loaded h hh r' hmem').1 (congrArg TransferFetch.transferId hsame :)
  have hdone : fetch w (w.file h f false env) (some handle) = (w₁, .ok (.ofFetch
      ((w.transfers r.transfer).message (w.objects (w.device r.transfer)).id))) := by
    rw [fetch_file hfd, World.controlTransferFetch, halloc, hfetch, hcopy]
    rfl
  obtain ⟨-, -, -, hcall⟩ := fetch_ok hfd hdone
  refine ⟨w₁, hdone, ?_, hdevice ▸ hloan⟩
  refine hw.step (a := .ioctl h true f false ioctlTransferFetch (.ofWords []) env) ?_
  rw [hcall]
  exact if_pos ⟨hh, trivial⟩

/-- The first pending request of a device. -/
theorem findPending_of_pendingFor {rest : List Request} (hr : w.pendingFor h d = r :: rest) :
    w.findPendingDeviceLocked h d = some r := by
  rw [findPendingDeviceLocked, ← List.head?_filter]
  exact congrArg List.head? hr

section Pass

variable {w₁ : World} {x : Urb}

/-- The pending requests after a loan that was finished: the one on loan is gone. -/
theorem pendingFor_of_loan (hloan : Loan h f r d w₁ w) {status : ℤ}
    (hfinished : RequestFinished N h (r.leased f) status x w₁ w')
    (hdevices : w'.device = w.device) (e : DevicePtr) :
    w.pendingFor h e = if e = d then r :: w'.pendingFor h e else w'.pendingFor h e := by
  have hdevice : w.device r.transfer = d := hloan.device
  have hpending : (w'.backends h).pending = (w₁.backends h).pending := by
    rw [hfinished.backends, Function.update_self]
  have hfilter := hloan.backend.pending.filter_cons (p := fun x => w.device x.transfer = e)
    (fun x hx heq => decide_eq_false fun hxe => hx (hxe.trans
      ((of_decide_eq_true heq).symm.trans hdevice)))
  rw [pendingFor, pendingFor, hpending, hdevices, ← hfilter, List.filter_cons]
  by_cases he : e = d
  · rw [if_pos he, if_pos (decide_eq_true (hdevice.trans he.symm))]
  · rw [if_neg he, if_neg]
    simpa [hdevice] using Ne.symm he

/-- The active requests after a loan that was finished are those before it. -/
theorem active_of_loan (hloan : Loan h f r d w₁ w) (hnodup : (w₁.backends h).active.Nodup)
    {status : ℤ} (hfinished : RequestFinished N h (r.leased f) status x w₁ w') :
    (w'.backends h).active = (w.backends h).active := by
  have herase := hloan.backend.active.erase_self
  rw [hnodup.erase_eq_filter] at herase
  rw [hfinished.backends, Function.update_self, ← herase]
  exact List.filter_congr fun x _ => by by_cases heq : x = r.leased f <;> simp [heq]

/-- **A loan and its completion make a pass.** -/
theorem Turned.of_loan (hw : (calls N).Reachable w) (hh : h < N) (hw₁ : (calls N).Reachable w₁)
    (hloan : Loan h f r d w₁ w) {c : Call} (hstep : (calls N).step w₁ c w')
    (hserves : Serves h w₁ w')
    (hfinished : RequestFinished N h (r.leased f) (reply w d r).status
      ((w₁.urbs r.urb).transferred (w₁.transfers r.transfer).direction (reply w d r).data
        (reply w d r).actualLength) w₁ w') : Turned N h d r w w' := by
  obtain ⟨b, made, hsame⟩ := hloan.alike
  have hdevice : w.device r.transfer = d := hloan.device
  obtain ⟨T, given, b', -, hrelists⟩ := hserves
  obtain ⟨l, hquiet⟩ := hrelists.quiet
  have hdevices : w'.device = w.device := hrelists.device.trans hloan.alike.device
  have hnodup : (w₁.backends h).active.Nodup :=
    (((serving_of_reachable hw₁).nodup h hh).of_map _).of_append_right
  refine ⟨hw₁.step hstep, pendingFor_of_loan hloan hfinished hdevices,
    active_of_loan hloan hnodup hfinished, ?_, fun h' hne' => ?_, ?_, ?_, fun x hx => ?_, ?_, ?_⟩
  · rw [hfinished.backends, Function.update_self]
    exact hloan.bindings h
  · rw [hfinished.backends, Function.update_of_ne hne']
    exact hloan.other h' hne'
  · rw [hfinished.givebacks, hsame]
    rfl
  · rw [hfinished.urbs, hloan.alike.urbs, hloan.alike.transfers]
    rfl
  · rw [hfinished.transfers h hh x hx, hloan.alike.transfers]
  · have hqueued : r ∈ w.requests h := List.mem_append_left _ hloan.pending_mem
    have hborn : d < w₁.nextDevice := by
      rw [hsame]
      exact hdevice ▸ device_lt (steady_of_reachable hw) hh hqueued
    rw [(sameIds_of_run hw₁ (.single hstep)).2 d hborn, hloan.alike.objects]
  · rw [hquiet.nextTransfer, hsame]
    rfl

end Pass

/-- **A pass answers the first pending request** of the device. -/
theorem turn_turned (hw : (calls N).Reachable w) (hh : h < N) (hfd : 0 ≤ handle.fd)
    (hb : (⟨d, f⟩ : Binding) ∈ (w.backends h).bindings) (hids : w.nextTransfer < 2 ^ 64)
    {rest : List Request} (hr : w.pendingFor h d = r :: rest) (hholds : (w.urbs r.urb).Holds)
    (henv : Delivers (env, env')) :
    ∃ w', turn w h f handle (w.objects d).id env env' = (w', .ok ()) ∧ Turned N h d r w w' := by
  obtain ⟨halloc, hto, halloc', hfrom⟩ := henv
  obtain ⟨w₁, hfetched, hw₁, hloan⟩ :=
    fetch_first hw hh hfd hb hids (findPending_of_pendingFor hr) halloc hto
  set request : TransferRequest :=
    .ofFetch ((w.transfers r.transfer).message (w.objects (w.device r.transfer)).id)
  have hids₁ : w₁.nextTransfer < 2 ^ 64 := by
    obtain ⟨b, made, hsame⟩ := hloan.alike
    rw [hsame]
    exact hids
  have hholds₁ : (w₁.urbs (r.leased f).urb).Holds := by
    rw [hloan.alike.urbs]
    exact hholds
  have hid : request.id = (w₁.transfers (r.leased f).transfer).id := by
    rw [hloan.alike.transfers]
    rfl
  have hlength : request.requestedLength =
      (w₁.transfers (r.leased f).transfer).requestedLength := by
    rw [hloan.alike.transfers]
    rfl
  obtain ⟨hok, hfinished⟩ := complete_active env' hw₁ hh hfd hids₁ halloc' hfrom
    hloan.leased_mem rfl hholds₁ hid hlength (w.objects d).id
  obtain ⟨m, hm⟩ := complete_call w₁ h f env' hfd (w.objects d).id request
  have hstep : (calls N).step w₁ (.ioctl h true f false ioctlTransferComplete m env')
      (complete w₁ (w₁.file h f false env') (some handle) (w.objects d).id request).1 := by
    rw [hm]
    exact if_pos ⟨hh, trivial⟩
  have hserves : Serves h w₁
      (complete w₁ (w₁.file h f false env') (some handle) (w.objects d).id request).1 := by
    rw [complete_backend hfd halloc' hfrom]
    exact .backendComplete w₁ f _
  refine ⟨_, ?_, .of_loan hw hh hw₁ hloan hstep hserves hfinished⟩
  rw [turn, hfetched]
  exact Prod.ext rfl hok

/-- What is asked next does not depend on what was answered. -/
theorem Turned.next (ht : Turned N h d r w w') (hw : (calls N).Reachable w) (hh : h < N)
    {x : Request} (hx : x ∈ w'.pendingFor h d) : x ∈ w.pendingFor h d ∧ x.urb ≠ r.urb ∧
      reply w' d x = reply w d x ∧ replied w' d x = replied w d x := by
  have hpending := ht.pending d
  rw [if_pos rfl] at hpending
  have hmem : x ∈ w.pendingFor h d := hpending ▸ List.mem_cons_of_mem r hx
  have hdevice : w'.device x.transfer = d := of_decide_eq_true (List.mem_filter.1 hx).2
  have hdevice' : w.device x.transfer = d := of_decide_eq_true (List.mem_filter.1 hmem).2
  have htransfer := ht.transfers x (List.mem_append_left _ (List.mem_filter.1 hx).1)
  -- the URBs of the queued requests differ
  have hne : x.urb ≠ r.urb := by
    have hnodup := (serving_of_reachable hw).nodup_urbs hh
    rw [requests, List.map_append, List.nodup_append] at hnodup
    have hfor : ((w.pendingFor h d).map Request.urb).Nodup :=
      hnodup.1.sublist (List.filter_sublist.map Request.urb)
    rw [hpending, List.map_cons, List.nodup_cons] at hfor
    exact fun heq => hfor.1 (heq ▸ List.mem_map_of_mem hx)
  have hreply : reply w' d x = reply w d x := by
    simp only [reply, htransfer, hdevice, hdevice', ht.id]
  refine ⟨hmem, hne, hreply, ?_⟩
  simp only [replied, hreply, htransfer, ht.urbs, Function.update_of_ne hne]

end TestDevice

/-- **Left alone, the test device answers every pending request of its device**, in their order
and one in each pass: each URB comes back once, with what its request asks for, and the
requests for other devices stay as they were. -/
theorem test_device_serves {N : ℕ} {w : World} (hw : (calls N).Reachable w) {h : HcdId}
    (hh : h < N) {f : FilePtr} {handle : Handle} (hfd : 0 ≤ handle.fd) {d : DevicePtr}
    (hb : (⟨d, f⟩ : Binding) ∈ (w.backends h).bindings) (hids : w.nextTransfer < 2 ^ 64)
    (hholds : ∀ r ∈ w.pendingFor h d, (w.urbs r.urb).Holds) {envs : List (Env × Env)}
    (hlength : envs.length = (w.pendingFor h d).length) (henvs : ∀ x ∈ envs, Delivers x) :
    ∃ w', turns h f handle (w.objects d).id w envs = (w', .ok ()) ∧
      (∀ e, w'.pendingFor h e = if e = d then [] else w.pendingFor h e) ∧
      (w'.backends h).active = (w.backends h).active ∧
      (∀ h', h' ≠ h → w'.backends h' = w.backends h') ∧
      w'.givebacks = w.givebacks ++
        (w.pendingFor h d).map (fun r => ⟨r.urb, (reply w d r).status⟩) ∧
      (∀ r ∈ w.pendingFor h d, w'.urbs r.urb = replied w d r) ∧
      ∀ u, (∀ r ∈ w.pendingFor h d, r.urb ≠ u) → w'.urbs u = w.urbs u := by
  induction envs generalizing w with
  | nil =>
    have hnone : w.pendingFor h d = [] := List.eq_nil_of_length_eq_zero hlength.symm
    refine ⟨w, rfl, fun e => ?_, rfl, fun _ _ => rfl, by simp [hnone], by simp [hnone],
      fun _ _ => rfl⟩
    split
    · rename_i he
      rw [he, hnone]
    · rfl
  | cons x rest ih =>
    obtain ⟨env, env'⟩ := x
    rcases hr : w.pendingFor h d with _ | ⟨r, more⟩
    · rw [hr] at hlength
      exact absurd hlength (Nat.succ_ne_zero _)
    have hfirst : r ∈ w.pendingFor h d := hr ▸ List.mem_cons_self
    obtain ⟨v, hturn, hturned⟩ := turn_turned hw hh hfd hb hids hr (hholds r hfirst)
      (henvs (env, env') List.mem_cons_self)
    have hpending : v.pendingFor h d = more := by
      have hsame := hturned.pending d
      rw [if_pos rfl, hr] at hsame
      exact (List.cons.inj hsame).2.symm
    have hnext := fun {x} (hx : x ∈ v.pendingFor h d) => hturned.next hw hh hx
    obtain ⟨w', hturns, hempty, hactive, hother, hgiven, hurbs, hrest⟩ := ih hturned.reachable
      (hturned.bindings ▸ hb) (hturned.nextTransfer ▸ hids)
      (fun x hx => by
        obtain ⟨hmem, hne, -⟩ := hnext hx
        rw [hturned.urbs, Function.update_of_ne hne]
        exact hholds x hmem)
      (by rw [hpending]; rw [hr] at hlength; exact Nat.succ.inj hlength)
      fun x hx => henvs x (List.mem_cons_of_mem _ hx)
    refine ⟨w', ?_, fun e => ?_, hactive.trans hturned.active,
      fun h' hne => (hother h' hne).trans (hturned.other h' hne), ?_, fun x hx => ?_,
      fun u hu => ?_⟩
    · rw [turns, hturn]
      exact hturned.id ▸ hturns
    · rw [hempty]
      split
      · rfl
      · rename_i he
        rw [hturned.pending e, if_neg he]
    · rw [hgiven, hturned.givebacks, List.append_assoc, List.map_cons, List.singleton_append,
        hpending]
      congr 2
      refine List.map_congr_left fun x hx => ?_
      rw [(hnext (hpending ▸ hx)).2.2.1]
    · rcases List.mem_cons.1 hx with rfl | hx
      · rw [hrest x.urb fun y hy => (hnext hy).2.1, hturned.urbs, Function.update_self]
      · have hx' : x ∈ v.pendingFor h d := hpending ▸ hx
        rw [hurbs x hx', (hnext hx').2.2.2]
    · rw [hrest u fun y hy => hu y (List.mem_cons_of_mem _ (hpending ▸ hy)), hturned.urbs,
        Function.update_of_ne (hu r List.mem_cons_self).symm]

/-- The device descriptor is asked for twice. -/
theorem test_device_serves_example : ∃ w w', (calls 1).Reachable w ∧
    turns 0 5 ⟨3⟩ 1 w [({}, {}), ({}, {})] = (w', .ok ()) ∧
    w'.givebacks = w.givebacks ++ [⟨7, 0⟩, ⟨8, 0⟩] := by
  obtain ⟨w, hw, hp⟩ := exists_reachable_of_exec (I := Initialised)
    (f := fun w c => if Call.Possible 1 w c then some (w.call c) else none) (s := oneHub)
    (l := Call.plugIn 5 ++ [.urbEnqueue 0 7 .getDeviceDescriptor {},
      .urbEnqueue 0 8 .getDeviceDescriptor {}])
    (p := fun w => w.pendingFor 0 0 = [⟨7, 0, none⟩, ⟨8, 1, none⟩] ∧
      (w.backends 0).bindings = [⟨0, 5⟩] ∧ w.nextTransfer = 2 ∧ (w.objects 0).id = 1 ∧
      (reply w 0 ⟨7, 0, none⟩).status = 0 ∧ (reply w 0 ⟨8, 1, none⟩).status = 0 ∧
      ((w.pendingFor 0 0).map fun r => ((w.urbs r.urb).transferBufferLength,
        (w.urbs r.urb).transferBuffer.map Buffer.size)) = [(18, some 18), (18, some 18)])
    oneHub_initialised (by decide)
  obtain ⟨hpending, hbindings, hnext, hid, hfirst, hsecond, hurbs⟩ := of_decide_eq_true hp
  have hholds : ∀ r ∈ w.pendingFor 0 0, (w.urbs r.urb).Holds := fun r hr _ => by
    have hsizes := List.mem_map_of_mem (f := fun r : Request =>
      ((w.urbs r.urb).transferBufferLength, (w.urbs r.urb).transferBuffer.map Buffer.size)) hr
    rw [hurbs] at hsizes
    obtain ⟨hlength, hbuffer⟩ : (w.urbs r.urb).transferBufferLength = 18 ∧
        (w.urbs r.urb).transferBuffer.map Buffer.size = some 18 := by
      simpa using hsizes
    obtain ⟨b, hb, hsize⟩ := Option.map_eq_some_iff.1 hbuffer
    exact ⟨b, hb, by omega⟩
  have hdelivers : ∀ x ∈ [(({} : Env), ({} : Env)), ({}, {})], Delivers x := fun x hx => by
    simp only [List.mem_cons, List.not_mem_nil, or_false, or_self] at hx
    subst hx
    exact ⟨rfl, rfl, rfl, rfl⟩
  have hfd : 0 ≤ (⟨3⟩ : Handle).fd := by decide
  have hb : (⟨0, 5⟩ : Binding) ∈ (w.backends 0).bindings := hbindings ▸ .head _
  obtain ⟨w', hturns, -, -, -, hgiven, -⟩ := test_device_serves hw Nat.one_pos hfd hb
    (by rw [hnext]; decide) hholds (by rw [hpending]; rfl) hdelivers
  refine ⟨w, w', hw, hid ▸ hturns, ?_⟩
  rw [hgiven, hpending, List.map_cons, List.map_cons, List.map_nil, hfirst, hsecond]

end VirtUsb
