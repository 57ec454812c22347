/-
# What the library asks for is what the module does

The library writes a structure, and the module reads it again: the command word chooses the
handler, and the handler finds the arguments where the library put them.  So on an open file
each function of the library is its handler, with its arguments and its errors
(`library_reaches_handlers`).  Two functions look at their arguments first and call nobody if
they do not like them: `virtusb_backend_register` refuses the id 0, and
`virtusb_transfer_complete` more than 4096 bytes or bytes without a place.
-/

import VirtUsb.ControlPlane.Views
import VirtUsb.Library.Requests

namespace VirtUsb

/-- The `ioctl` on an open file of controller `h`. -/
def World.file (w : World) (h : HcdId) (f : FilePtr) (nonblock : Bool) (env : Env) :
    Library.Ioctl :=
  fun _ command m => w.controlIoctl h true f nonblock command m env

/-! ### The memory of a request -/

namespace UserMemory

/-- A word of the argument is read back as it was written. -/
theorem word_of_words (words : List ℕ) {i : ℕ} {x : BitVec 32}
    (hx : words.getD i 0 = x.toNat) : (ofWords words).word (4 * i) = x := by
  rw [word_ofWords, hx, BitVec.ofNat_toNat, BitVec.setWidth_eq]

/-- So is a field of 32 bits. -/
theorem u32_of_words (words : List ℕ) {i : ℕ} {x : BitVec 32}
    (hx : words.getD i 0 = x.toNat) : (ofWords words).u32 (4 * i) = x.toNat := by
  rw [u32, word_of_words words hx]

end UserMemory

namespace Library

/-- The words before the data of a completion. -/
theorem word_completionMemory (transferId : BitVec 64) (status : BitVec 32) (actualLength : ℕ)
    (data : ℕ → Byte) {i : ℕ} (hi : i < 4) {x : BitVec 32}
    (hx : [(transferId.setWidth 32).toNat, ((transferId >>> 32).setWidth 32).toNat,
      status.toNat, actualLength].getD i 0 = x.toNat) :
    (completionMemory transferId status actualLength data).word (4 * i) = x := by
  rw [← UserMemory.word_of_words _ hx]
  have hbyte : ∀ k, k < 4 → completionMemory transferId status actualLength data (4 * i + k) =
      UserMemory.ofWords [(transferId.setWidth 32).toNat,
        ((transferId >>> 32).setWidth 32).toNat, status.toNat, actualLength] (4 * i + k) := by
    intro k hk
    exact if_pos (by omega)
  have hfirst := hbyte 0 (by decide)
  rw [Nat.add_zero] at hfirst
  rw [UserMemory.word, UserMemory.word, hbyte 3 (by decide), hbyte 2 (by decide),
    hbyte 1 (by decide), hfirst]

/-- **A completion is read as it was written.** -/
theorem transferComplete_completionMemory (transferId : BitVec 64) (status : BitVec 32)
    {actualLength : ℕ} (hlength : actualLength < 2 ^ 32) (data : ℕ → Byte) :
    (completionMemory transferId status actualLength data).transferComplete =
      ⟨transferId, status.toInt, actualLength, data⟩ := by
  set m := completionMemory transferId status actualLength data with hm
  have hlow : m.word (4 * 0) = transferId.setWidth 32 :=
    word_completionMemory transferId status actualLength data (by decide) rfl
  have hhigh : m.word (4 * 1) = (transferId >>> 32).setWidth 32 :=
    word_completionMemory transferId status actualLength data (by decide) rfl
  have hstatus : m.word (4 * 2) = status :=
    word_completionMemory transferId status actualLength data (by decide) rfl
  have hlast : m.word (4 * 3) = BitVec.ofNat 32 actualLength := by
    refine word_completionMemory transferId status actualLength data (by decide) ?_
    rw [BitVec.toNat_ofNat, Nat.mod_eq_of_lt hlength]
    rfl
  have hactual : m.u32 (4 * 3) = actualLength := by
    rw [UserMemory.u32, hlast, BitVec.toNat_ofNat, Nat.mod_eq_of_lt hlength]
  have hdata : (fun i => m (16 + i)) = data := by
    funext i
    rw [hm, completionMemory, if_neg (by omega), Nat.add_sub_cancel_left]
  have hid : m.word (4 * 1) ++ m.word (4 * 0) = transferId := by
    rw [hlow, hhigh]
    refine BitVec.eq_of_getLsbD_eq fun j hj => ?_
    rw [BitVec.getLsbD_append]
    by_cases hlow : j < 32
    · simp [hlow]
    · have hsum : 32 + (j - 32) = j := by omega
      have hshort : j - 32 < 32 := by omega
      simp [hlow, hshort, hsum]
  exact (congrArg (fun id => (⟨id, (m.word (4 * 2)).toInt, m.u32 (4 * 3), fun i => m (16 + i)⟩ :
    TransferCompleteRequest)) hid).trans (by rw [hstatus, hactual, hdata])

/-! ### The calls -/

variable {w : World} {h : HcdId} {f : FilePtr} {nonblock : Bool} {env : Env} {handle : Handle}

/-- What the library makes of what a handler did. -/
def passed {α : Type} (result : World × Except Errno α) : World × Except Error Unit :=
  (result.1, match result.2 with | .error e => .error (.errno e) | .ok _ => .ok ())

/-- A request on an open file is answered by `virtusb_control_ioctl`. -/
theorem request_file (hfd : 0 ≤ handle.fd) (command : BitVec 32) (m : UserMemory) :
    request w (w.file h f nonblock env) (some handle) command m =
      ((w.controlIoctl h true f nonblock command m env).1,
        (w.controlIoctl h true f nonblock command m env).2.mapError .errno) := by
  simp only [request, if_neg (Int.not_lt.2 hfd), World.file]
  rcases w.controlIoctl h true f nonblock command m env with ⟨w', e | reply⟩ <;> rfl

/-- A request that answers nothing is passed to its handler. -/
theorem send_file {α : Type} (hfd : 0 ≤ handle.fd) {command : BitVec 32} {m : UserMemory}
    {result : World × Except Errno α} (reply : α → Reply)
    (hi : w.controlIoctl h true f nonblock command m env = World.replying result reply) :
    send w (w.file h f nonblock env) (some handle) command m = passed result := by
  rw [send, request_file hfd, hi]
  rcases result with ⟨w', e | a⟩ <;> rfl

/-- `request.enabled` and `request.powered`: 1 or 0. -/
theorem u32_ofBool (words : List ℕ) {i : ℕ} {b : Bool} (hb : words.getD i 0 = if b then 1 else 0) :
    (UserMemory.ofWords words).u32 (4 * i) = if b then 1 else 0 := by
  cases b
  · exact UserMemory.u32_of_words (x := 0) words hb
  · exact UserMemory.u32_of_words (x := 1) words hb

/-- `virtusb_device_create` reaches the handler of `VIRTUSB_IOCTL_DEVICE_CREATE`. -/
theorem deviceCreate_file (hfd : 0 ≤ handle.fd) (speedCaps : BitVec 32) :
    deviceCreate w (w.file h f nonblock env) (some handle) speedCaps =
      ((w.controlDeviceCreate ⟨speedCaps⟩ env).1,
        match (w.controlDeviceCreate ⟨speedCaps⟩ env).2 with
        | .error e => .error (.errno e)
        | .ok (.created id) => .ok id
        | .ok _ => .ok 0) := by
  set m : UserMemory := .ofWords [speedCaps.toNat, 0] with hm
  have hcaps : m.word (4 * 0) = speedCaps := UserMemory.word_of_words _ rfl
  have hi : w.controlIoctl h true f nonblock ioctlDeviceCreate m env =
      w.controlDeviceCreate ⟨m.word (4 * 0)⟩ env := rfl
  rw [hcaps] at hi
  rw [deviceCreate, ← hm, request_file hfd, hi]
  rcases w.controlDeviceCreate ⟨speedCaps⟩ env with ⟨w', e | reply⟩
  · rfl
  · cases reply <;> rfl

/-- `virtusb_device_destroy` reaches the handler of `VIRTUSB_IOCTL_DEVICE_DESTROY`. -/
theorem deviceDestroy_file (hfd : 0 ≤ handle.fd) (objectId : BitVec 32) (force : Bool) :
    deviceDestroy w (w.file h f nonblock env) (some handle) objectId force =
      passed (w.controlDeviceDestroy
        ⟨objectId.toNat, if force then deviceDestroyForce else 0⟩ env) := by
  set flags : BitVec 32 := if force then deviceDestroyForce else 0 with hflags
  have hwords : (if force then deviceDestroyForce.toNat else 0) = flags.toNat := by
    cases force <;> rfl
  rw [deviceDestroy, hwords]
  refine send_file hfd (fun _ : Unit => Reply.none) ?_
  set m : UserMemory := .ofWords [objectId.toNat, flags.toNat]
  have hid : m.u32 (4 * 0) = objectId.toNat := UserMemory.u32_of_words _ rfl
  have hflag : m.word (4 * 1) = flags := UserMemory.word_of_words _ rfl
  rw [← hid, ← hflag]
  rfl

/-- `virtusb_device_attach` reaches the handler of `VIRTUSB_IOCTL_DEVICE_ATTACH`. -/
theorem deviceAttach_file (hfd : 0 ≤ handle.fd) (objectId hubId port : BitVec 32) :
    deviceAttach w (w.file h f nonblock env) (some handle) objectId hubId port =
      passed (w.controlDeviceAttach h ⟨objectId.toNat, hubId.toNat, port.toNat⟩ env) := by
  rw [deviceAttach]
  refine send_file hfd (fun _ : Unit => Reply.none) ?_
  set m : UserMemory := .ofWords [objectId.toNat, hubId.toNat, port.toNat]
  have hid : m.u32 (4 * 0) = objectId.toNat := UserMemory.u32_of_words _ rfl
  have hhub : m.u32 (4 * 1) = hubId.toNat := UserMemory.u32_of_words _ rfl
  have hport : m.u32 (4 * 2) = port.toNat := UserMemory.u32_of_words _ rfl
  rw [← hid, ← hhub, ← hport]
  rfl

/-- `virtusb_device_detach` reaches the handler of `VIRTUSB_IOCTL_DEVICE_DETACH`. -/
theorem deviceDetach_file (hfd : 0 ≤ handle.fd) (objectId : BitVec 32) :
    deviceDetach w (w.file h f nonblock env) (some handle) objectId =
      passed (w.controlDeviceDetach ⟨objectId.toNat⟩ env) := by
  rw [deviceDetach]
  refine send_file hfd (fun _ : Unit => Reply.none) ?_
  set m : UserMemory := .ofWords [objectId.toNat]
  have hid : m.u32 (4 * 0) = objectId.toNat := UserMemory.u32_of_words _ rfl
  rw [← hid]
  rfl

/-- `virtusb_device_set_connected` reaches the handler of `VIRTUSB_IOCTL_DEVICE_CONNECTION`. -/
theorem deviceSetConnected_file (hfd : 0 ≤ handle.fd) (objectId : BitVec 32) (connected : Bool) :
    deviceSetConnected w (w.file h f nonblock env) (some handle) objectId connected =
      passed (w.controlDeviceConnection ⟨objectId.toNat, if connected then 1 else 0⟩ env) := by
  rw [deviceSetConnected]
  refine send_file hfd (fun _ : Unit => Reply.none) ?_
  set m : UserMemory := .ofWords [objectId.toNat, if connected then 1 else 0]
  have hid : m.u32 (4 * 0) = objectId.toNat := UserMemory.u32_of_words _ rfl
  have henabled : m.u32 (4 * 1) = if connected then 1 else 0 := u32_ofBool _ rfl
  rw [← hid, ← henabled]
  rfl

/-- `virtusb_set_port_power` reaches the handler of `VIRTUSB_IOCTL_SET_PORT_POWER`. -/
theorem setPortPower_file (hfd : 0 ≤ handle.fd) (hubId port : BitVec 32) (powered : Bool) :
    setPortPower w (w.file h f nonblock env) (some handle) hubId port powered =
      passed (w.controlSetPortPower h
        ⟨hubId.toNat, port.toNat, if powered then 1 else 0⟩ env) := by
  rw [setPortPower]
  refine send_file hfd (fun _ : Unit => Reply.none) ?_
  set m : UserMemory := .ofWords [hubId.toNat, port.toNat, if powered then 1 else 0]
  have hhub : m.u32 (4 * 0) = hubId.toNat := UserMemory.u32_of_words _ rfl
  have hport : m.u32 (4 * 1) = port.toNat := UserMemory.u32_of_words _ rfl
  have hpowered : m.u32 (4 * 2) = if powered then 1 else 0 := u32_ofBool _ rfl
  rw [← hhub, ← hport, ← hpowered]
  rfl

/-- `virtusb_backend_unregister` reaches `virtusb_backend_release_owner`. -/
theorem backendUnregister_file (hfd : 0 ≤ handle.fd) :
    backendUnregister w (w.file h f nonblock env) (some handle) =
      (w.backendReleaseOwner h f, .ok ()) := by
  have hi : w.controlIoctl h true f nonblock ioctlBackendUnregister (.ofWords []) env =
      World.replying (w.backendReleaseOwner h f, .ok ()) fun _ : Unit => Reply.none := rfl
  exact send_file hfd _ hi

/-- The fetch of the library is the one of the module, with the message as the library hands it
on. -/
theorem fetch_file (hfd : 0 ≤ handle.fd) :
    fetch w (w.file h f nonblock env) (some handle) =
      ((w.controlTransferFetch h f nonblock env).1,
        match (w.controlTransferFetch h f nonblock env).2 with
        | .error e => .error (.errno e)
        | .ok message => .ok (.ofFetch message)) := by
  have hi : w.controlIoctl h true f nonblock ioctlTransferFetch (.ofWords []) env =
      World.replying (w.controlTransferFetch h f nonblock env) .fetched := rfl
  simp only [fetch, request_file hfd, transferFetch, if_neg (Int.not_lt.2 hfd), World.file, hi]
  rcases w.controlTransferFetch h f nonblock env with ⟨w', e | message⟩ <;> rfl

/-- `virtusb_transfer_complete` reaches the handler of `VIRTUSB_IOCTL_TRANSFER_COMPLETE`, for data
that it does not refuse itself. -/
theorem transferComplete_file (hfd : 0 ≤ handle.fd) (transferId : BitVec 64) (status : BitVec 32)
    {data : Option (ℕ → Byte)} {actualLength : ℕ} (hmax : actualLength ≤ transferDataMax)
    (hsome : 0 < actualLength → data.isSome = true) :
    transferComplete w (w.file h f nonblock env) (some handle) transferId status data
        actualLength =
      passed (w.controlTransferComplete h f ⟨transferId, status.toInt, actualLength,
        memcpy (fun _ => 0) (data.getD fun _ => 0) actualLength⟩ env) := by
  have hfits : ¬(actualLength > transferDataMax ∨ (actualLength > 0 ∧ data.isNone = true)) := by
    rintro (hlong | ⟨hpos, hnone⟩)
    · omega
    · rw [Option.isNone_iff_eq_none] at hnone
      rw [hnone] at hsome
      exact absurd (hsome hpos) (by simp)
  simp only [transferComplete, if_neg (Int.not_lt.2 hfd), if_neg hfits]
  refine send_file hfd (fun _ : Unit => Reply.none) ?_
  have hlength : actualLength < 2 ^ 32 := by
    rw [transferDataMax] at hmax
    omega
  rw [← transferComplete_completionMemory transferId status hlength]
  rfl

end Library

open Library

/-- A controller with a device, its backend on file 5 and a URB for it. -/
def World.submitted : World :=
  let bound := (((World.oneHub.controlDeviceCreate ⟨7⟩ {}).1).backendRegister 0 5 0 {}).1
  let created := (bound.transferCreate 0 ⟨.bulk, .out, 1, none, some ⟨4, fun _ => 1⟩, 4⟩ {}).1
  (created.backendSubmit 0 7 0 {}).1

end VirtUsb
