/-
# Who binds a file

A binding is made by the file that registers and by nobody else: every other function of
the backend leaves the bindings or takes some out (`Unbinds`).  So a call that is not on a
file does not bind it (`bound_of_call`), and after `virtusb_backend_release_owner` the file
has no binding.
-/

import VirtUsb.Serving.Calls

namespace VirtUsb

open World

/-- Every binding was there before. -/
def Unbinds (w w' : World) : Prop :=
  ∀ h, ∀ x ∈ (w'.backends h).bindings, x ∈ (w.backends h).bindings

namespace Unbinds

variable {w w' w'' : World} {h : HcdId} {T : Set TransferPtr} {given : List Giveback} {b : Backend}

/-- Nothing was bound. -/
theorem refl (w : World) : Unbinds w w := fun _ _ hx => hx

/-- Nothing was bound in either step. -/
theorem trans (hs : Unbinds w w') (hs' : Unbinds w' w'') : Unbinds w w'' :=
  fun h x hx => hs h x (hs' h x hx)

/-- What touches no list binds nothing. -/
theorem of_quiet (hq : Quiet T given w w') : Unbinds w w' := by
  intro h x hx
  rwa [hq.backends] at hx

/-- New lists at one controller, without a new binding. -/
theorem of_update (hb : w'.backends = Function.update w.backends h b)
    (hsub : ∀ x ∈ b.bindings, x ∈ (w.backends h).bindings) : Unbinds w w' := by
  intro h' x hx
  rw [hb] at hx
  rcases eq_or_ne h' h with rfl | hne
  · rw [Function.update_self] at hx
    exact hsub x hx
  · rwa [Function.update_of_ne hne] at hx

/-- New lists with the same bindings. -/
theorem of_relist {l : UrbPtr → Bool} (hq : Quiet T given (w.relist h b l) w')
    (hb : b.bindings = (w.backends h).bindings) : Unbinds w w' :=
  of_update hq.backends fun _ hx => hb ▸ hx

/-- Requests have no say in the bindings. -/
theorem listDel_bindings (b : Backend) (r : Request) : (b.listDel r).bindings = b.bindings := by
  rw [Backend.listDel]
  split <;> rfl

variable (w)

/-- `virtusb_backend_cancel` binds nothing. -/
theorem backendCancel (u : UrbPtr) (status : ℤ) : Unbinds w (w.backendCancel h u status).1 := by
  rw [World.backendCancel]
  rcases hs : w.cancelLocked h u with ⟨w₁, e | r⟩
  · exact of_quiet (cancelLocked_error (T := ∅) hs)
  · obtain ⟨-, -, hq⟩ := cancelLocked_ok (T := {r.transfer}) hs
    exact of_relist (hq.after (.cancelTail w₁ (Set.mem_singleton _) status)) (listDel_bindings _ r)

/-- `virtusb_backend_fetch` binds nothing. -/
theorem backendFetch (f : FilePtr) (nonblock : Bool) :
    Unbinds w (w.backendFetch h f nonblock).1 := by
  rw [World.backendFetch]
  rcases hs : w.fetchLocked h f with ⟨w₁, r | e | _⟩
  · obtain ⟨-, -, -, -, hq⟩ := fetchLocked_taken (T := ∅) hs
    exact of_relist (hq.andThen (.fetchTail w₁ r.transfer)) rfl
  · obtain rfl := fetchLocked_failed hs
    exact refl _
  · obtain rfl := fetchLocked_empty hs
    exact refl _

/-- `virtusb_backend_fetch_rollback` binds nothing. -/
theorem backendFetchRollback (f : FilePtr) (id : BitVec 64) :
    Unbinds w (w.backendFetchRollback h f id).1 := by
  rw [World.backendFetchRollback]
  split
  · exact refl w
  rcases hs : w.rollbackLocked h f id with ⟨w₁, e | r⟩
  · obtain rfl := rollbackLocked_error hs
    exact refl _
  · obtain ⟨-, -, -, rfl⟩ := rollbackLocked_ok hs
    exact of_relist (T := ∅) (.refl _) rfl

/-- `virtusb_backend_complete` binds nothing. -/
theorem backendComplete (f : FilePtr) (completion : TransferCompleteRequest) :
    Unbinds w (w.backendComplete h f completion).1 := by
  rw [World.backendComplete]
  split
  · exact refl w
  rcases hs : w.completeLocked h f completion.transferId with ⟨w₁, e | r⟩
  · obtain rfl := completeLocked_error hs
    exact refl _
  · obtain ⟨-, -, -, hq⟩ := completeLocked_ok (T := {r.transfer}) hs
    obtain ⟨status, htail⟩ := Quiet.completeTail (T := {r.transfer}) w₁ rfl completion
    exact of_relist (hq.after htail) rfl

/-- `virtusb_backend_release_owner` binds nothing. -/
theorem backendReleaseOwner (f : FilePtr) : Unbinds w (w.backendReleaseOwner h f) := by
  rcases hf : (w.backends h).findOwnerLocked f with _ | binding
  · have hnone : w.backendReleaseOwner h f = w := by
      simp only [World.backendReleaseOwner, World.releaseUnbindLocked, hf]
    rw [hnone]
    exact refl w
  · refine of_update (World.backendReleaseOwner_relists hf).2.backends fun x hx => ?_
    exact List.mem_of_mem_erase hx

/-- `virtusb_backend_stop` binds nothing. -/
theorem backendStop : Unbinds w (w.backendStop h) :=
  of_update (World.backendStop_relists w).backends fun _ hx => absurd hx List.not_mem_nil

/-- `virtusb_hcd_urb_enqueue` binds nothing. -/
theorem urbEnqueue (u : UrbPtr) (urb : Urb) (env : Env) :
    Unbinds w ((w.handUrb u urb).hcdUrbEnqueue h u env).1 := by
  have hhand : Unbinds w (w.handUrb u urb) := fun _ _ hx => hx
  refine hhand.trans ?_
  rcases hs : (w.handUrb u urb).hcdUrbEnqueue h u env with ⟨w', e | _⟩
  · obtain ⟨-, hq | ⟨d, w₁, hcreated, hq⟩⟩ := hcdUrbEnqueue_error hs
    · exact of_quiet hq
    · intro h' x hx
      rwa [hq.backends, hcreated.backends] at hx
  · obtain ⟨d, type, -, -, haccepted⟩ := hcdUrbEnqueue_ok hs
    exact of_update haccepted.backends fun _ hx => hx

/-- The control plane binds nothing. -/
theorem of_traffic {w' : World} (ht : w'.traffic = w.traffic) : Unbinds w w' :=
  of_quiet (Quiet.of_traffic (T := ∅) ht)

end Unbinds

namespace World

variable {N : ℕ} {w w' : World} {h : HcdId} {f : FilePtr} {env : Env}

/-! ### Registration -/

/-- The file has no binding at the controller. -/
def Unbound (w : World) (h : HcdId) (f : FilePtr) : Prop :=
  ∀ x ∈ (w.backends h).bindings, x.owner ≠ f

/-- A file without a binding gets none from a step that binds nothing. -/
theorem Unbound.unbinds (hw : w.Unbound h f) (hs : Unbinds w w') : w'.Unbound h f :=
  fun x hx => hw x (hs h x hx)

/-- The registration of another file. -/
theorem Unbound.backendRegister (hw : w.Unbound h f) {h' : HcdId} {g : FilePtr}
    (hne : ¬ (h' = h ∧ g = f)) (d : DevicePtr) (env : Env) :
    (w.backendRegister h' g d env).1.Unbound h f := by
  rw [World.backendRegister, World.registerPrepare]
  rcases env.bindingAlloc
  · exact hw
  simp only [Bool.not_true, Bool.false_eq_true, if_false]
  have hget : Unbinds w (w.objectGet d) := fun _ _ hx => hx
  rcases hs : (w.objectGet d).registerLocked h' g d with ⟨w₁, e | _⟩
  · obtain rfl := registerLocked_error hs
    exact hw.unbinds (hget.trans (.of_quiet (Quiet.objectPut (T := ∅) _ d)))
  · obtain ⟨-, -, rfl⟩ := registerLocked_ok hs
    intro x hx howner
    rcases eq_or_ne h h' with rfl | hh
    · rw [show ((World.relist _ h _ _).backends h).bindings = _ from
        congrArg Backend.bindings (Function.update_self _ _ _), List.mem_append,
        List.mem_singleton] at hx
      rcases hx with hx | rfl
      · exact hw x hx howner
      · exact hne ⟨rfl, howner⟩
    · rw [show (World.relist _ h' _ _).backends h = _ from Function.update_of_ne hh _ _] at hx
      exact hw x hx howner

/-- After the release of its owner a file has no binding. -/
theorem unbound_backendReleaseOwner (hw : (w.backends h).Bound w.device) (f : FilePtr) :
    (w.backendReleaseOwner h f).Unbound h f := by
  rcases hf : (w.backends h).findOwnerLocked f with _ | binding
  · have hnone : w.backendReleaseOwner h f = w := by
      simp only [World.backendReleaseOwner, World.releaseUnbindLocked, hf]
    rw [hnone]
    intro x hx howner
    exact absurd (List.find?_eq_none.1 hf x hx) (by simp [howner])
  · obtain ⟨hmem, howner⟩ := findOwnerLocked_some hf
    have hnodup : (w.backends h).bindings.Nodup := hw.owners.of_map _
    intro x hx hxf
    rw [(World.backendReleaseOwner_relists hf).2.backends, Function.update_self] at hx
    have hx' : x ∈ (w.backends h).bindings.erase binding := hx
    obtain ⟨hne, hin⟩ := hnodup.mem_erase_iff.1 hx'
    exact hne (List.inj_on_of_nodup_map hw.owners hin hmem (hxf.trans howner.symm))

end World

/-- The call is made on this file. -/
def Call.OnFile (c : Call) (h : HcdId) (f : FilePtr) : Prop :=
  match c with
  | .ioctl h' _ f' _ _ _ _ => h' = h ∧ f' = f
  | .close h' f' => h' = h ∧ f' = f
  | _ => False

/-- **A call that is not on a file does not bind it.** -/
theorem World.Unbound.call {w : World} {h : HcdId} {f : FilePtr} (hw : w.Unbound h f)
    (hc : w.Counted) {c : Call} (hne : ¬ c.OnFile h f) : (w.call c).Unbound h f := by
  cases c with
  | ioctl h' active g nonblock command m env =>
      have hfetch : Unbinds w _ := .backendFetch (h := h') w g nonblock
      exact controlIoctl_rule (P := fun w' => w'.Unbound h f) hc (fun _ => hw)
        (fun _ _ => hw.unbinds (.of_traffic w (traffic_controlDeviceCreate w _ env)))
        (fun d force => hw.unbinds (.of_traffic w (traffic_deviceDestroy w d force)))
        (fun _ d _ => hw.backendRegister hne d env) (hw.unbinds (.backendReleaseOwner w g))
        (hw.unbinds hfetch) (fun id => hw.unbinds (hfetch.trans (.backendFetchRollback _ g id)))
        fun completion => hw.unbinds (.backendComplete w g completion)
  | close h' g => exact hw.unbinds (.backendReleaseOwner w g)
  | urbEnqueue h' u urb env => exact hw.unbinds (.urbEnqueue w u urb env)
  | urbDequeue h' u status => exact hw.unbinds (.backendCancel w u status)
  | hubControl h' typeReq value index => exact hw
  | setStatusChangedCallback h' installed => exact hw
  | stop h' => exact hw.unbinds (.backendStop w)

end VirtUsb
