/-
# A release warns of the peer that is left

`virtusb_device_release` warns if the upstream port of the device still has a peer.  No
function plugs a device or unplugs it after it has dropped a reference, so what a
release warned of is what the topology shows when the function returns (`Truthful`).
-/

import VirtUsb.Module.Calls

namespace VirtUsb

/-- Nothing was released before the last function that may release. -/
theorem Truthful.after {w w' w'' : World} (ht : Truthful w' w'')
    (hr : w'.released = w.released) : Truthful w w'' :=
  fun r hx => (ht r hx).imp_left fun hx => hr ▸ hx

namespace World

variable {w w' : World} {N : ℕ} {held : DevicePtr → ℕ} {heldT : TransferPtr → ℕ}

/-- Where nothing is released, nothing untrue is recorded. -/
theorem truthful_of_released (hr : w'.released = w.released) : Truthful w w' :=
  fun _ hx => .inl (hr ▸ hx)

/-- `virtusb_object_unregister`, which may drop the last reference. -/
theorem truthful_objectUnregister (w : World) (d : DevicePtr) :
    Truthful w (w.objectUnregister d).1 := by
  rw [objectUnregister]
  rcases hs : w.objectUnregisterLocked d with ⟨w₁, e | _⟩
  · rw [Accounts.objectUnregisterLocked_error hs]
    exact truthful_of_released rfl
  · have hreleased : w₁.released = w.released := by
      simp only [objectUnregisterLocked] at hs
      split_ifs at hs
      all_goals simp at hs
      rw [← hs]
      rfl
    exact (Aside.objectPut w₁ d).truthful.after hreleased

/-- `virtusb_device_create`, which drops the reference of a device it could not publish. -/
theorem truthful_deviceCreate (w : World) (speed : Byte) (env : Env) :
    Truthful w (w.deviceCreate speed env).1 := by
  -- a device that is released at once is the only new entry of the record
  have hnew : ∀ {v : World} {r : Release}, v.released = w.released ++ [r] →
      r.warned = (v.topo.upstream r.device).peer.isSome → Truthful w v := by
    intro v r hv hwarned x hx
    rw [hv] at hx
    rcases List.mem_append.1 hx with hx | hx
    · exact .inl hx
    · obtain rfl := List.mem_singleton.1 hx
      exact .inr hwarned
  rcases hport : portInit .upstream speed (.device w.nextDevice) with e | port
  · rw [deviceCreate_invalid hport]
    split
    · exact truthful_of_released rfl
    · exact hnew rfl rfl
  have hpeer : ((w.abandoned port).topo.upstream w.nextDevice).peer = port.peer := by
    simp [abandoned, plugged, Topology.setPort]
  rw [deviceCreate_eq hport]
  split
  · exact truthful_of_released rfl
  split
  · exact hnew rfl (congrArg Option.isSome hpeer.symm)
  rcases env.xaInsert with e | _
  · exact hnew rfl (congrArg Option.isSome hpeer.symm)
  · exact truthful_of_released rfl

/-- `virtusb_device_destroy`, which detaches the device first. -/
theorem truthful_deviceDestroy (w : World) (d : DevicePtr) (force : Bool) :
    Truthful w (w.deviceDestroy d force).1 := by
  rw [deviceDestroy]
  split
  · split
    · exact truthful_of_released rfl
    rcases w.topo.deviceSetConnectionSignaling d false with ⟨t, e | _⟩
    · exact truthful_of_released rfl
    · exact (truthful_objectUnregister { w with topo := t.deviceDetach d } d).after rfl
  · exact truthful_objectUnregister w d

/-- Every operation records truthful releases. -/
theorem truthful_operate (w : World) (op : Operation) : Truthful w (w.operate op).1 := by
  cases op with
  | create speed env => exact truthful_deviceCreate w speed env
  | destroy d force => exact truthful_deviceDestroy w d force
  | attach d h n =>
      rw [operate]
      rcases w.topo.hubGetPort h n with _ | p
      · exact truthful_of_released rfl
      · exact truthful_of_released rfl
  | _ => exact truthful_of_released rfl

/-- DEVICE_CREATE is truthful, also when it destroys the device again. -/
theorem truthful_controlDeviceCreate (w : World) (request : DeviceCreate) (env : Env) :
    Truthful w (w.controlDeviceCreate request env).1 := by
  refine controlDeviceCreate_rule (P := Truthful w) request (truthful_of_released rfl)
    (fun speed w₁ e hs => ?_) (fun speed w₁ d hs => ?_) fun speed w₁ d hs => ?_
  · have hcreate := truthful_deviceCreate w speed env
    rwa [hs] at hcreate
  · obtain ⟨-, port, -, rfl, -⟩ := deviceCreate_ok hs
    have hput := Aside.objectPut ((w.published port).deviceDestroy d true).1 d
    intro r hr
    rcases hput.truthful r hr with hr | hwarned
    · rw [topo_of_management hput.management]
      exact truthful_deviceDestroy (w.published port) d true r hr
    · exact .inr hwarned
  · obtain ⟨-, port, -, rfl, -⟩ := deviceCreate_ok hs
    exact (Aside.objectPut (w.published port) d).truthful.after rfl

/-- **Every call is truthful.** -/
theorem truthful_call (ha : w.Accounts N held heldT) (c : Call) : Truthful w (w.call c) := by
  have hsame : ∀ v : World, v.released = w.released → Truthful w v := fun _ => truthful_of_released
  cases c with
  | ioctl h active f nonblock command m env =>
      have hfetch := Aside.backendFetch w h f nonblock
      exact controlIoctl_rule (P := Truthful w) ha.counted (fun _ => hsame _ rfl)
        (fun _ _ => truthful_controlDeviceCreate w _ env) (truthful_deviceDestroy w)
        (fun _ d _ => (Aside.backendRegister w h f d env).truthful)
        (Aside.backendReleaseOwner w h f).truthful hfetch.truthful
        (fun id => (hfetch.trans (Aside.backendFetchRollback _ h f id)).truthful)
        fun completion => (Aside.backendComplete w h f completion).truthful
  | close h f => exact (Aside.backendReleaseOwner w h f).truthful
  | urbEnqueue h u urb env =>
      exact (Aside.hcdUrbEnqueue (w.handUrb u urb) h u env).truthful.after rfl
  | urbDequeue h u status => exact (Aside.hcdUrbDequeue w h u status).truthful
  | hubControl h typeReq value index => exact hsame _ rfl
  | setStatusChangedCallback h installed => exact hsame _ rfl
  | stop h => exact (Aside.backendStop w h).truthful

end World

end VirtUsb
