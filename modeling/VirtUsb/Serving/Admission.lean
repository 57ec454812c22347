/-
# Which URBs are accepted

`virtusb_hcd_urb_enqueue` finds the device of a URB by following the peer of a port, and
checks the URB, its length, the memory and the backend; `World.Admits` is what it checks.
Nothing among it is about the state of the port, so a URB passes a port that has lost its
power or its connection, or that was never reset.
-/

import VirtUsb.ControlPlane.Connection
import VirtUsb.Serving.Delivery

namespace VirtUsb

open Transition

/-- **What a URB is accepted for**: there is a device with a running backend at its port, and
nothing about the URB or the memory is wrong. -/
structure World.Admits (w : World) (h : HcdId) (u : UrbPtr) (env : Env) : Prop where
  device : ∃ d, w.hcdGetUrbDevice h (w.urbs u) = some d ∧
    ((w.backends h).findDeviceLocked d).isSome = true
  check : ∃ type, (w.urbs u).check = .ok type
  limit : (w.urbs u).transferBufferLength ≤ transferDataMax
  transferAlloc : env.transferAlloc = true
  bufferAlloc : 0 < (w.urbs u).transferBufferLength → env.bufferAlloc = true
  requestAlloc : env.requestAlloc = true
  running : (w.backends h).stopping = false
  link : env.link = .ok ()

/-- What `virtusb_transfer_create` checks of its arguments. -/
theorem TransferArgs.valid_iff {a : TransferArgs} : a.valid = true ↔ a.endpoint ≤ 15 ∧
    (a.type = .control → a.setup.isSome = true) ∧
    (a.direction = .out → 0 < a.length → a.data.isSome = true) := by
  simp only [valid, Bool.and_eq_true, Bool.not_eq_true', Bool.and_eq_false_imp, decide_eq_true_eq,
    Option.isNone_eq_false_iff, and_assoc, and_imp]

/-- What a checked URB hands to `virtusb_transfer_create` is valid. -/
theorem Urb.transferArgs_valid {urb : Urb} {type : TransferType} (hc : urb.check = .ok type) :
    (urb.transferArgs type).valid = true := by
  obtain ⟨-, hsetup, hbuffer⟩ := Urb.of_check hc
  refine TransferArgs.valid_iff.2 ⟨?_, fun hcontrol => ?_, fun hout hpos => ?_⟩
  · rw [Urb.transferArgs, usbPipeendpoint, BitVec.toNat_and]
    exact Nat.and_le_right
  · have htype : type = .control := hcontrol
    rw [Urb.transferArgs, if_pos htype]
    exact hsetup htype
  · have hdir : urb.direction = .out := hout
    have hlen : 0 < urb.transferBufferLength := hpos
    simp only [Urb.transferArgs, hdir, hlen, and_self, if_true]
    exact hbuffer hdir hlen

namespace World

variable {w : World} {h : HcdId} {u : UrbPtr} {d : DevicePtr} {t : TransferPtr}
  {a : TransferArgs} {env : Env}

/-! ### The checks of the parts -/

/-- A transfer is created if its arguments are valid and there is memory for it. -/
theorem transferCreate_isSome (env : Env) : (w.transferCreate d a env).2.isSome = true ↔
    a.valid = true ∧ env.transferAlloc = true ∧ (0 < a.length → env.bufferAlloc = true) := by
  rw [transferCreate]
  rcases hv : a.valid with _ | _
  · simp
  rcases ht : env.transferAlloc with _ | _
  · simp
  rcases hb : env.bufferAlloc with _ | _
  · by_cases hpos : 0 < a.length <;> simp [hpos]
  · simp

/-- A submission is prepared if the data fits into a message and there is memory for the request.
-/
theorem submitPrepare_isOk (hnew : (w.transfers t).state = .new) (env : Env) :
    (w.submitPrepare t env).2 = .ok () ↔
      (w.transfers t).requestedLength ≤ transferDataMax ∧ env.requestAlloc = true := by
  have hmark : ¬ ((w.transferGet t).transfers t).state ≠ .new := by
    simp [transferGet, setTransfer, hnew]
  rw [submitPrepare, transferMarkQueued]
  rcases hr : env.requestAlloc with _ | _
  · split <;> simp
  · rw [if_neg hmark]
    by_cases hlimit : (w.transfers t).requestedLength > transferDataMax
    · simp [hlimit]
    · simp [hlimit, Nat.le_of_not_lt hlimit]

/-- A submission passes the lock if the backend runs, the device has a binding, and the USB core
links the URB. -/
theorem submitLocked_isOk (link : Except Errno Unit) : (w.submitLocked h u t link).2 = .ok () ↔
    (w.backends h).stopping = false ∧
      ((w.backends h).findDeviceLocked (w.device t)).isSome = true ∧ link = .ok () := by
  have hdevice : (w.transfers t).device = w.device t := rfl
  simp only [submitLocked, hdevice]
  rcases (w.backends h).stopping with _ | _
  · rcases (w.backends h).findDeviceLocked (w.device t) with _ | binding
    · simp
    · rcases link with e | _ <;> simp [usbHcdLinkUrbToEp]
  · simp

/-- A new transfer is submitted exactly if none of the checks fails. -/
theorem backendSubmit_isOk (hnew : (w.transfers t).state = .new) (env : Env) :
    (w.backendSubmit h u t env).2 = .ok () ↔
      ((w.transfers t).requestedLength ≤ transferDataMax ∧ env.requestAlloc = true) ∧
        (w.backends h).stopping = false ∧
        ((w.backends h).findDeviceLocked (w.device t)).isSome = true ∧ env.link = .ok () := by
  have hprepare := submitPrepare_isOk hnew env
  have hquiet := Quiet.submitPrepare (T := {t}) w (Set.mem_singleton t) env
  rw [backendSubmit]
  rcases hp : w.submitPrepare t env with ⟨w₁, e | _⟩
  · rw [hp] at hprepare
    simp only [← hprepare, reduceCtorEq, false_and]
  · rw [hp] at hprepare hquiet
    have hlocked := submitLocked_isOk (w := w₁) (h := h) (u := u) (t := t) env.link
    rw [hquiet.backends, hquiet.device] at hlocked
    rw [← hprepare, ← hlocked, and_iff_right rfl]
    dsimp only
    rcases w₁.submitLocked h u t env.link with ⟨w₂, e | _⟩
    · simp
    · simp

/-- **A URB is accepted exactly if it is admitted.** -/
theorem hcdUrbEnqueue_isOk : (w.hcdUrbEnqueue h u env).2 = .ok () ↔ w.Admits h u env := by
  rw [hcdUrbEnqueue]
  rcases hd : w.hcdGetUrbDevice h (w.urbs u) with _ | d
  · simp only [reduceCtorEq, false_iff]
    rintro ⟨⟨d, hd', -⟩, -⟩
    exact absurd (hd.symm.trans hd') (by simp)
  rcases hc : (w.urbs u).check with e | type
  · simp only [reduceCtorEq, false_iff]
    rintro ⟨-, ⟨type, hc'⟩, -⟩
    exact absurd (hc.symm.trans hc') (by simp)
  have hsome := transferCreate_isSome (w := w) (d := d) (a := (w.urbs u).transferArgs type) env
  have hlength : ((w.urbs u).transferArgs type).length = (w.urbs u).transferBufferLength := rfl
  rw [and_iff_right (Urb.transferArgs_valid hc), hlength] at hsome
  dsimp only
  rcases hcreate : w.transferCreate d ((w.urbs u).transferArgs type) env with ⟨w₁, _ | t⟩
  · rw [hcreate] at hsome
    simp only [reduceCtorEq, false_iff]
    rintro ⟨-, -, -, htransfer, hbuffer, -⟩
    exact absurd (hsome.2 ⟨htransfer, hbuffer⟩) (by simp)
  rw [hcreate] at hsome
  obtain ⟨htransfer, hbuffer⟩ := hsome.1 rfl
  have hcreated := transferCreate_some hcreate
  obtain ⟨-, hmade, -⟩ := transferCreate_made hcreate
  have hrequested : (w₁.transfers t).requestedLength = (w.urbs u).transferBufferLength :=
    (congrArg Transfer.requestedLength hmade :)
  have hdevice : w₁.device t = d := by rw [hcreated.device, Function.update_self]
  have hsubmit := backendSubmit_isOk (h := h) (u := u) hcreated.state env
  rw [hrequested, hcreated.backends, hdevice] at hsubmit
  dsimp only
  rw [hrequested]
  constructor
  · intro hok
    split at hok
    · simp at hok
    obtain ⟨⟨hlimit, hrequest⟩, hrunning, hfound, hlink⟩ := hsubmit.1 hok
    exact ⟨⟨d, hd, hfound⟩, ⟨type, hc⟩, hlimit, htransfer, hbuffer, hrequest, hrunning, hlink⟩
  · rintro ⟨⟨d', hd', hfound⟩, -, hlimit, -, -, hrequest, hrunning, hlink⟩
    obtain rfl : d = d' := Option.some.inj (hd.symm.trans hd')
    rw [if_neg (Nat.not_lt.2 hlimit)]
    exact hsubmit.2 ⟨⟨hlimit, hrequest⟩, hrunning, hfound, hlink⟩

end World

open World

/-- The port is powered, connected and enabled. -/
def Topology.Usable (t : Topology) (h : HcdId) (n : ℕ) : Prop :=
  t.hubPortIsPowered h n = true ∧ t.hubPortIsConnected h n = true ∧
    (t.portState h n).enabled = true

/-- The URB is refused, or its port is usable when it is accepted. -/
def World.AcceptedIfUsable (w : World) (h : HcdId) (u : UrbPtr) (urb : Urb) (env : Env) : Prop :=
  ∀ n, urb.dev = some ⟨some h, n⟩ →
    ((w.handUrb u urb).hcdUrbEnqueue h u env).2 = .ok () → w.topo.Usable h n

/-- **Bus transfers reach a device through an enabled port** exactly while the USB core submits
them there, or something else is wrong with them: an enabled port is connected and powered, but
the module does not look at it. -/
theorem accepted_if_usable_iff {N : ℕ} {w : World} (hw : (calls N).Reachable w) (h : HcdId)
    (u : UrbPtr) (urb : Urb) (env : Env) : w.AcceptedIfUsable h u urb env ↔
      ∀ n, urb.dev = some ⟨some h, n⟩ → (w.handUrb u urb).Admits h u env →
        (w.topo.portState h n).enabled = true := by
  refine forall₂_congr fun n _ => ?_
  rw [hcdUrbEnqueue_isOk]
  refine forall_congr' fun _ => ⟨fun hu => hu.2.2, fun he => ?_⟩
  have hsound := (steady_of_reachable hw).sound.topo
  have hconnected := (hsound.enabled h n he).1
  exact ⟨Topology.powered_of_connected hconnected, hconnected, he⟩

/-- A device that is plugged into port 1, and has a backend, but no power. -/
def Call.plugInUnpowered (f : FilePtr) : List Call :=
  [.ioctl 0 true f false ioctlDeviceCreate (.ofWords [7]) {},
   .ioctl 0 true f false ioctlDeviceAttach (.ofWords [1, 0, 1]) {},
   .ioctl 0 true f false ioctlBackendRegister (.ofWords [1]) {}]

/-- **A URB is accepted for a device without power**, which does not signal and was never
reset. -/
theorem accepted_without_power : ∃ w, (calls 1).Reachable w ∧
    w.topo.hubPortIsPowered 0 1 = false ∧ ¬ w.AcceptedIfUsable 0 7 .bulkOut {} := by
  obtain ⟨w, hw, hp⟩ := exists_reachable_of_exec (I := Initialised)
    (f := fun w c => if Call.Possible 1 w c then some (w.call c) else none) (s := oneHub)
    (l := Call.plugInUnpowered 5)
    (p := fun w => w.topo.hubPortIsPowered 0 1 = false ∧
      ((w.handUrb 7 .bulkOut).hcdUrbEnqueue 0 7 {}).2 = .ok ())
    oneHub_initialised (by decide)
  obtain ⟨hoff, hok⟩ := of_decide_eq_true hp
  refine ⟨w, hw, hoff, fun hall => ?_⟩
  have hon := (hall 1 rfl hok).1
  exact absurd (hoff.symm.trans hon) (by simp)

/-- A device whose port was reset gets its URB. -/
theorem accepted_if_usable_example : ∃ w, (calls 1).Reachable w ∧
    ((w.handUrb 7 .bulkOut).hcdUrbEnqueue 0 7 {}).2 = .ok () ∧ w.topo.Usable 0 1 := by
  obtain ⟨w, hw, hp⟩ := exists_reachable_of_exec (I := Initialised)
    (f := fun w c => if Call.Possible 1 w c then some (w.call c) else none) (s := oneHub)
    (l := Call.plugIn 5)
    (p := fun w => (w.topo.portState 0 1).enabled = true ∧
      ((w.handUrb 7 .bulkOut).hcdUrbEnqueue 0 7 {}).2 = .ok ())
    oneHub_initialised (by decide)
  obtain ⟨hon, hok⟩ := of_decide_eq_true hp
  have husable := (accepted_if_usable_iff hw 0 7 .bulkOut {}).2 fun n hn _ => by
    obtain ⟨-, rfl⟩ : some 0 = some 0 ∧ 1 = n := by simpa [Urb.bulkOut] using hn
    exact hon
  exact ⟨w, hw, hok, husable 1 rfl hok⟩

end VirtUsb
