/-
# The queues between two calls

The control plane leaves the traffic alone (`World.traffic`), and the data plane does
what its functions do, so a call is made of a few kinds of work (`Works`).  What each
kind keeps holds between any two calls (`serving_of_reachable`), and what is queued is
what was queued (`Works.kept`).
-/

import VirtUsb.Serving.Invariant

namespace VirtUsb

open Transition

namespace World

/-- The world without what the control plane manages. -/
def traffic (w : World) : World :=
  { w.bare with topo := ⟨fun _ => {}, fun _ => {}, []⟩, nextDevice := 0 }

variable {N : ℕ} {h : HcdId} {w w' : World} {d : DevicePtr} {env : Env}

/-! ### The control plane -/

/-- The objects are no part of the traffic. -/
theorem traffic_of_bare (hb : w'.bare = w.bare) : w'.traffic = w.traffic := by
  rw [traffic, traffic, hb]

/-- The lengths of the buffers of URBs are part of the traffic. -/
theorem lengths_of_traffic (ht : w'.traffic = w.traffic) : w'.lengths = w.lengths := by
  have hurbs : w'.urbs = w.urbs := (congrArg World.urbs ht :)
  funext u
  rw [lengths, lengths, hurbs]

end World

/-- What leaves the traffic alone is quiet. -/
theorem Quiet.of_traffic {T : Set TransferPtr} {w w' : World} (ht : w'.traffic = w.traffic) :
    Quiet T [] w w' := by
  have htransfers : w'.transfers = w.transfers := (congrArg World.transfers ht :)
  have hurbs : w'.urbs = w.urbs := (congrArg World.urbs ht :)
  have hgiven : w'.givebacks = w.givebacks := (congrArg World.givebacks ht :)
  refine ⟨(congrArg World.backends ht :), (congrArg World.nextTransfer ht :),
    (congrArg World.transferNextId ht :), ?_, fun t => ?_, fun t _ => ?_, fun u => ?_, ?_⟩
  · funext t
    rw [World.device, World.device, htransfers]
  · rw [htransfers]
  · rw [htransfers]
  · rw [hurbs]
  · rw [hgiven, List.append_nil]

namespace World

variable {N : ℕ} {h : HcdId} {w w' : World} {d : DevicePtr} {env : Env}

/-- `virtusb_device_create` leaves the traffic alone. -/
theorem traffic_deviceCreate (w : World) (speed : Byte) (env : Env) :
    (w.deviceCreate speed env).1.traffic = w.traffic := by
  rcases hport : portInit .upstream speed (.device w.nextDevice) with e | port
  · rw [deviceCreate_invalid hport]
    split <;> rfl
  rw [deviceCreate_eq hport]
  split
  · rfl
  split
  · rfl
  rcases env.xaInsert with e | _ <;> rfl

/-- `virtusb_device_destroy` leaves the traffic alone. -/
theorem traffic_deviceDestroy (w : World) (d : DevicePtr) (force : Bool) :
    (w.deviceDestroy d force).1.traffic = w.traffic := by
  rw [World.deviceDestroy]
  split
  · split
    · rfl
    rcases w.topo.deviceSetConnectionSignaling d false with ⟨t, e | _⟩
    · rfl
    · have hdestroyed :=
        traffic_of_bare (bare_objectUnregister { w with topo := t.deviceDetach d } d)
      exact hdestroyed
  · exact traffic_of_bare (bare_objectUnregister w d)

/-- `virtusb_object_put` leaves the traffic alone. -/
theorem traffic_objectPut (w : World) (d : DevicePtr) : (w.objectPut d).traffic = w.traffic :=
  traffic_of_bare (bare_objectPut w d)

/-- The handler of `VIRTUSB_IOCTL_DEVICE_CREATE` leaves the traffic alone. -/
theorem traffic_controlDeviceCreate (w : World) (request : DeviceCreate) (env : Env) :
    (w.controlDeviceCreate request env).1.traffic = w.traffic := by
  refine controlDeviceCreate_rule (P := fun v => v.traffic = w.traffic) request rfl
    (fun speed w₁ e hs => ?_) (fun speed w₁ d hs => ?_) fun speed w₁ d hs => ?_
  all_goals
    have hcreate := traffic_deviceCreate w speed env
    rw [hs] at hcreate
  · exact hcreate
  · exact (traffic_objectPut _ d).trans ((traffic_deviceDestroy w₁ d true).trans hcreate)
  · exact (traffic_objectPut w₁ d).trans hcreate

/-- The handler of `VIRTUSB_IOCTL_DEVICE_DESTROY` leaves the traffic alone. -/
theorem traffic_controlDeviceDestroy (hw : w.Counted) (request : DeviceDestroy) :
    (w.controlDeviceDestroy request env).1.traffic = w.traffic :=
  controlDeviceDestroy_rule (P := fun v => v.traffic = w.traffic) hw request rfl
    (traffic_deviceDestroy w)

/-- The handler of `VIRTUSB_IOCTL_DEVICE_ATTACH` leaves the traffic alone. -/
theorem traffic_controlDeviceAttach (hw : w.Counted) (request : DeviceAttach) :
    (w.controlDeviceAttach h request env).1.traffic = w.traffic := by
  obtain ⟨t, heq⟩ := controlDeviceAttach_topo hw h request env
  rw [heq]
  rfl

/-- The handler of `VIRTUSB_IOCTL_DEVICE_DETACH` leaves the traffic alone. -/
theorem traffic_controlDeviceDetach (hw : w.Counted) (request : DeviceObject) :
    (w.controlDeviceDetach request env).1.traffic = w.traffic := by
  obtain ⟨t, heq⟩ := controlDeviceDetach_topo hw request env
  rw [heq]
  rfl

/-- The handler of `VIRTUSB_IOCTL_DEVICE_CONNECTION` leaves the traffic alone. -/
theorem traffic_controlDeviceConnection (hw : w.Counted) (request : DeviceConnection) :
    (w.controlDeviceConnection request env).1.traffic = w.traffic := by
  obtain ⟨t, heq⟩ := controlDeviceConnection_topo hw request env
  rw [heq]
  rfl

/-- The handler of `VIRTUSB_IOCTL_SET_PORT_POWER` leaves the traffic alone. -/
theorem traffic_controlSetPortPower (w : World) (request : PortPower) :
    (w.controlSetPortPower h request env).1.traffic = w.traffic := by
  obtain ⟨t, heq⟩ := controlSetPortPower_topo w h request env
  rw [heq]
  rfl

end World

/-! ### Every call -/

/-- What a call can do to the queues of the first `N` host controllers: nothing, what a
function of the backend does, or what becomes of a URB that is handed over. -/
inductive Works (N : ℕ) : World → World → Prop
  | aside {w w' : World} : w'.traffic = w.traffic → Works N w w'
  | serves {h : HcdId} {w w' : World} : h < N → Serves h w w' → Works N w w'
  | handed {w : World} {u : UrbPtr} (urb : Urb) : ¬ w.InFlight N u → Works N w (w.handUrb u urb)
  | refused {w w' : World} : Refused w w' → Works N w w'
  | accepted {h : HcdId} {u : UrbPtr} {d : DevicePtr} {a : TransferArgs} {env : Env}
      {w w' : World} : h < N → ¬ w.InFlight N u → a.length = w.lengths u →
      Accepted h u d a env w w' → Works N w w'
  | trans {w v w' : World} : Works N w v → Works N v w' → Works N w w'

namespace World

variable {N : ℕ} {h : HcdId} {w w' : World} {d : DevicePtr} {env : Env}

/-- A URB that is handed over is refused or accepted. -/
theorem works_urbEnqueue (hh : h < N) {u : UrbPtr} (hfree : ¬ w.InFlight N u) (urb : Urb) :
    Works N w ((w.handUrb u urb).hcdUrbEnqueue h u env).1 := by
  refine .trans (.handed urb hfree) ?_
  rcases hs : (w.handUrb u urb).hcdUrbEnqueue h u env with ⟨w', e | _⟩
  · exact .refused (hcdUrbEnqueue_error hs)
  · obtain ⟨d, type, -, -, haccepted⟩ := hcdUrbEnqueue_ok hs
    exact .accepted hh hfree rfl haccepted

/-- **A call is made of these kinds of work.** -/
theorem works_call (hc : w.Counted) {c : Call} (hp : c.Possible N w) : Works N w (w.call c) := by
  obtain ⟨hh, hfree⟩ := hp
  cases c with
  | ioctl h active f nonblock command m env =>
      have hfetch : Works N w _ := .serves hh (.backendFetch w f nonblock)
      exact controlIoctl_rule (P := Works N w) hc (fun _ => .aside rfl)
        (fun _ _ => .aside (traffic_controlDeviceCreate w _ env))
        (fun d force => .aside (traffic_deviceDestroy w d force))
        (fun _ d _ => .serves hh (.backendRegister w f d env))
        (.serves hh (.backendReleaseOwner w f)) hfetch
        (fun id => hfetch.trans (.serves hh (.backendFetchRollback _ f id)))
        fun completion => .serves hh (.backendComplete w f completion)
  | close h f => exact .serves hh (.backendReleaseOwner w f)
  | urbEnqueue h u urb env => exact works_urbEnqueue hh hfree urb
  | urbDequeue h u status => exact .serves hh (.backendCancel w u status)
  | hubControl h typeReq value index => exact .aside rfl
  | setStatusChangedCallback h installed => exact .aside rfl
  | stop h => exact .serves hh (.backendStop w)

/-! ### What every call keeps -/

/-- What leaves the traffic alone. -/
theorem Serving.of_traffic (hw : w.Serving N) (ht : w'.traffic = w.traffic) : w'.Serving N := by
  have hq : Quiet ∅ [] w w' := .of_traffic ht
  refine hw.congr hq.backends (fun _ _ _ _ => congrFun hq.device _)
    (fun _ _ _ _ => hq.content _ (Set.notMem_empty _))
    (fun _ _ _ _ => congrFun (lengths_of_traffic ht) _) (Nat.le_of_eq hq.nextTransfer.symm) ?_
    fun t hlt => ?_
  · rw [hq.transferNextId, hq.nextTransfer]
    exact hw.nextId
  · rw [hq.nextTransfer] at hlt
    rw [hq.transferId]
    exact hw.ids t hlt

/-- **Every call keeps what holds of the queues.** -/
theorem Serving.works (hw : w.Serving N) (hs : Works N w w') : w'.Serving N := by
  induction hs with
  | aside ht => exact hw.of_traffic ht
  | serves hh hs => exact hw.serves hh hs
  | handed urb hfree => exact hw.handUrb hfree urb
  | refused hr => exact hw.refused hr
  | accepted hh hfree hlength ha => exact hw.accepted hh hfree hlength ha
  | trans _ _ ih ih' => exact ih' (ih hw)

/-- The queues of an initialised module are empty, and so in order. -/
theorem Initialised.serving (hw : w.Initialised) : w.Serving N := by
  obtain ⟨hubs, -, rfl⟩ := hw
  refine ⟨fun h _ => ⟨.nil, .nil, ?_, ?_, fun _ => rfl⟩, fun h _ => .nil, ?_, ?_, rfl, fun t ht => ?_⟩
  · exact fun r hr => absurd hr List.not_mem_nil
  · exact fun r hr => absurd hr List.not_mem_nil
  · exact fun h _ h' _ r hr => absurd hr List.not_mem_nil
  · exact fun h _ r hr => absurd hr List.not_mem_nil
  · exact absurd ht (Nat.not_lt_zero t)

/-- **Every call is one of the kinds of work.** -/
theorem works_of_step (hs : w.Steady N) {c : Call} (hc : (calls N).step w c w') :
    Works N w w' := by
  obtain ⟨hp, rfl⟩ := calls_step hc
  exact works_call hs.accounts.counted hp

/-- **What holds of the queues between two calls.** -/
theorem serving_of_reachable (hw : (calls N).Reachable w) : w.Serving N :=
  Machine.Reachable.invariant_of (I := Serving N) (J := Steady N)
    (fun _ => steady_of_reachable) (fun _ => Initialised.serving)
    (fun _ _ _ hsteady hv hs => hv.works (works_of_step hsteady hs)) hw

/-! ### What is queued was queued -/

/-- A request was queued before, and its transfer is as it was. -/
def Kept (w w' : World) (h : HcdId) (r : Request) : Prop :=
  (∃ r₀ ∈ w.requests h, r₀.key = r.key) ∧
    (w'.transfers r.transfer).content = (w.transfers r.transfer).content

/-- With the same lists, a request is kept if its transfer is as it was. -/
theorem Kept.of_same (hb : w'.backends = w.backends) {r : Request} (hr : r ∈ w'.requests h)
    (hc : (w'.transfers r.transfer).content = (w.transfers r.transfer).content) :
    w.Kept w' h r := by
  rw [requests, hb] at hr
  exact ⟨⟨r, hr, rfl⟩, hc⟩

/-- A request that was kept, and kept before. -/
theorem Kept.trans {v : World} {r : Request} (hlast : v.Kept w' h r)
    (hfirst : ∀ r₁ ∈ v.requests h, r₁.transfer = r.transfer → w.Kept v h r₁) :
    w.Kept w' h r := by
  obtain ⟨⟨r₁, hr₁, hk₁⟩, hc₁⟩ := hlast
  have ht := (Prod.mk.inj hk₁).1
  obtain ⟨⟨r₀, hr₀, hk₀⟩, hc₀⟩ := hfirst r₁ hr₁ ht
  exact ⟨⟨r₀, hr₀, hk₀.trans hk₁⟩, hc₁.trans (ht ▸ hc₀)⟩

end World

namespace Works

variable {N : ℕ} {w w' : World}

open World

/-- **Every request with a transfer that existed was queued before**, and its transfer is
as it was. -/
theorem kept (hw : w.Serving N) (hs : Works N w w') : w.nextTransfer ≤ w'.nextTransfer ∧
    ∀ h < N, ∀ r ∈ w'.requests h, r.transfer < w.nextTransfer → w.Kept w' h r := by
  induction hs with
  | aside ht =>
      have hq : Quiet ∅ [] _ _ := .of_traffic ht
      exact ⟨Nat.le_of_eq hq.nextTransfer.symm, fun h hh r hr _ =>
        .of_same hq.backends hr (hq.content _ (Set.notMem_empty _))⟩
  | serves hh hs =>
      obtain ⟨T, given, b, hserved, hrelists⟩ := hs
      refine ⟨Nat.le_of_eq hrelists.nextTransfer.symm, fun h' hh' r hr _ => ?_⟩
      obtain ⟨r₀, hr₀, hk, hnot⟩ := hw.spared hh hserved hrelists hh' hr
      exact ⟨⟨r₀, hr₀, hk⟩, hrelists.content hnot⟩
  | handed urb hfree => exact ⟨Nat.le_refl _, fun h hh r hr _ => .of_same rfl hr rfl⟩
  | refused hr =>
      obtain ⟨-, hq | ⟨d, w₁, hcreated, hq⟩⟩ := hr
      · exact ⟨Nat.le_of_eq hq.nextTransfer.symm, fun h hh r hr _ =>
          .of_same hq.backends hr (hq.content _ (Set.notMem_empty _))⟩
      · refine ⟨?_, fun h hh r hr hlt =>
          .of_same (hq.backends.trans hcreated.backends) hr ?_⟩
        · rw [hq.nextTransfer, hcreated.nextTransfer]
          exact Nat.le_succ _
        · rw [hq.content _ (Nat.ne_of_lt hlt), hcreated.content _ (Nat.ne_of_lt hlt)]
  | @accepted h₀ u d a env v v' hh hfree hlength ha =>
      refine ⟨ha.nextTransfer ▸ Nat.le_succ _, fun h hh' r hr hlt => ⟨⟨r, ?_, rfl⟩,
        ha.content _ (Nat.ne_of_lt hlt)⟩⟩
      rw [requests, ha.backends, Function.update_apply] at hr
      split at hr
      · rename_i heq
        subst heq
        simp only [List.mem_append, List.mem_singleton] at hr
        rcases hr with (hr | rfl) | hr
        · exact List.mem_append_left _ hr
        · exact absurd hlt (Nat.lt_irrefl _)
        · exact List.mem_append_right _ hr
      · exact hr
  | trans hs hs' ih ih' =>
      obtain ⟨hle, hkept⟩ := ih hw
      obtain ⟨hle', hkept'⟩ := ih' (hw.works hs)
      exact ⟨hle.trans hle', fun h hh r hr hlt =>
        (hkept' h hh r hr (Nat.lt_of_lt_of_le hlt hle)).trans fun r₁ hr₁ ht =>
          hkept h hh r₁ hr₁ (ht ▸ hlt)⟩

end Works

end VirtUsb
