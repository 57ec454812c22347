/-
# The release of a file takes exactly its own transfers

Between two calls the requests that a release takes out are all the requests for the
device of the file, so nothing is left that the file owns, and the count of the device
goes down by one for the binding and by one for each of them.
-/

import VirtUsb.Serving.Calls

namespace VirtUsb

open Transition RefCount

namespace World

variable {N : ℕ} {h : HcdId} {w w' : World} {f : FilePtr} {d : DevicePtr} {binding : Binding}

/-! ### What is released -/

/-- The bindings of the other files. -/
theorem Serving.erase_binding (hw : w.Serving N) (hh : h < N)
    (hmem : binding ∈ (w.backends h).bindings) :
    (w.backends h).bindings.erase binding =
      (w.backends h).bindings.filter fun g => g.owner ≠ binding.owner := by
  have howners := (hw.bound h hh).owners
  have hnodup : (w.backends h).bindings.Nodup := howners.of_map _
  rw [hnodup.erase_eq_filter]
  refine List.filter_congr fun g hg => ?_
  have hiff : g = binding ↔ g.owner = binding.owner :=
    ⟨fun heq => heq ▸ rfl, fun heq => List.inj_on_of_nodup_map howners hg hmem heq⟩
  by_cases heq : g = binding
  · simp [heq]
  · simp [heq, mt hiff.2 heq]

/-- No URB is in two requests. -/
theorem Serving.nodup_urbs (hw : w.Serving N) (hh : h < N) :
    ((w.requests h).map Request.urb).Nodup := by
  have htransfers := hw.nodup h hh
  refine (htransfers.of_map _).map_on fun r hr r' hr' hurb => ?_
  have hkey := (hw.distinct h hh h hh r hr r' hr' (.inr hurb)).2
  exact List.inj_on_of_nodup_map htransfers hr hr' (Prod.mk.inj hkey).1

/-- As many requests are for a device afterwards as were before, without those that are
taken out. -/
theorem countP_requests (hdevice : w'.device = w.device)
    (hback : w'.backends h = { w.withoutReleased h f d with
      bindings := (w.backends h).bindings.erase binding }) (d' : DevicePtr) :
    ((w'.requests h).countP fun r => w'.requestDevice r = d') +
        (if d' = d then (w.releasedBy h f d).length else 0) =
      (w.requests h).countP fun r => w.requestDevice r = d' := by
  have hrequests : w'.requests h =
      (w.withoutReleased h f d).pending ++ (w.withoutReleased h f d).active := by
    rw [requests, hback]
  have hsame : (fun r => decide (w'.requestDevice r = d')) =
      fun r => decide (w.requestDevice r = d') := by
    funext r
    exact congrArg (fun x : DevicePtr => decide (x = d')) (congrFun hdevice r.transfer)
  have hfor : ∀ r ∈ w.releasedBy h f d, w.requestDevice r = d := by
    intro r hr
    rcases List.mem_append.1 hr with hr | hr
    · exact of_decide_eq_true (List.mem_filter.1 hr).2
    · exact (of_decide_eq_true (List.mem_filter.1 hr).2).1
  have htaken : ((w.releasedBy h f d).countP fun r => w.requestDevice r = d') =
      if d' = d then (w.releasedBy h f d).length else 0 := by
    split
    · rename_i heq
      rw [List.countP_eq_length]
      exact fun r hr => by simpa [heq] using hfor r hr
    · rename_i hne
      rw [List.countP_eq_zero]
      exact fun r hr heq => hne ((of_decide_eq_true heq).symm.trans (hfor r hr))
  rw [requests.eq_def w, (w.releasedBy_perm h f d).countP_eq, List.countP_append, htaken,
    hrequests, hsame, Nat.add_comm]

/-- **The count of the device** goes down by one for the binding and by one for each
request that is taken out, and no other count changes. -/
theorem refcount_released (ha : w.Accounts N 0 0) (ha' : w'.Accounts N 0 0) (hh : h < N)
    (hmem : binding ∈ (w.backends h).bindings) (hdevice : w'.device = w.device)
    (hm : w'.management = w.management)
    (hback : w'.backends = Function.update w.backends h
      { w.withoutReleased h f binding.device with
        bindings := (w.backends h).bindings.erase binding }) (d : DevicePtr) :
    (w'.objects d).refcount +
        (if d = binding.device then 1 + (w.releasedBy h f binding.device).length else 0) =
      (w.objects d).refcount := by
  have hself := (congrFun hback h).trans (Function.update_self _ _ _)
  have hother : ∀ h', h' ≠ h → w'.backends h' = w.backends h' := fun h' hne =>
    (congrFun hback h').trans (Function.update_of_ne hne _ _)
  have hlisted : w'.Listed d ↔ w.Listed d := by
    rw [World.Listed, World.Listed, objectTable_of_management hm]
  have hbindings : w'.bindingsOf N d + (if d = binding.device then 1 else 0) =
      w.bindingsOf N d := by
    have hchange := sum_of_change (x := if d = binding.device then 1 else 0) (y := 0)
      (f := fun h' => (w.backends h').bindings.countP fun g => g.device = d)
      (g := fun h' => (w'.backends h').bindings.countP fun g => g.device = d)
      (Finset.mem_range.2 hh) (fun h' hne => by rw [hother h' hne]) ?_
    · exact hchange
    · rw [hself]
      have hperm := (List.perm_cons_erase hmem).countP_eq fun g => g.device = d
      rw [List.countP_cons] at hperm
      simp only [decide_eq_true_eq, eq_comm (b := d)] at hperm ⊢
      exact hperm.symm
  have hrequests : w'.requestsFor N d +
      (if d = binding.device then (w.releasedBy h f binding.device).length else 0) =
      w.requestsFor N d := by
    have hchange := sum_of_change
      (x := if d = binding.device then (w.releasedBy h f binding.device).length else 0) (y := 0)
      (f := fun h' => (w.requests h').countP fun r => w.requestDevice r = d)
      (g := fun h' => (w'.requests h').countP fun r => w'.requestDevice r = d)
      (Finset.mem_range.2 hh) (fun h' hne => ?_) (countP_requests hdevice hself d)
    · exact hchange
    · have hsame : (fun r => decide (w'.requestDevice r = d)) =
          fun r => decide (w.requestDevice r = d) := by
        funext r
        exact congrArg (fun x : DevicePtr => decide (x = d)) (congrFun hdevice r.transfer)
      rw [requests, hother h' hne, hsame]
      rfl
  classical
  have hcount := ha.refcount_device d
  have hcount' := ha'.refcount_device d
  have hl : (if w'.Listed d then 1 else 0) = if w.Listed d then 1 else 0 :=
    if_congr hlisted rfl rfl
  rw [hl] at hcount'
  split at hbindings
  · rename_i heq
    rw [if_pos heq] at hrequests ⊢
    omega
  · rename_i hne
    rw [if_neg hne] at hrequests ⊢
    omega

/-- A device and a file that are both free can be registered. -/
theorem backendRegister_succeeds {env : Env} (halloc : env.bindingAlloc = true)
    (hstop : (w.backends h).stopping = false)
    (hfree : ∀ g ∈ (w.backends h).bindings, g.owner ≠ f ∧ g.device ≠ d) :
    (w.backendRegister h f d env).2 = .ok () := by
  have howner : (w.backends h).findOwnerLocked f = none := by
    rw [Backend.findOwnerLocked, List.find?_eq_none]
    exact fun g hg => by simpa using (hfree g hg).1
  have hdevice : (w.backends h).findDeviceLocked d = none := by
    rw [Backend.findDeviceLocked, List.find?_eq_none]
    exact fun g hg => by simpa using (hfree g hg).2
  have hbackend : (w.objectGet d).backends h = w.backends h := rfl
  simp [backendRegister, registerPrepare, halloc, registerLocked, hbackend, hstop, howner, hdevice]

end World

/-! ### What a release does -/

open World

/-- From `w` to `w'` the file `f` of a binding to device `d` was released at controller
`h`, and nothing else was done. -/
structure OwnerReleased (N : ℕ) (h : HcdId) (f : FilePtr) (d : DevicePtr) (w w' : World) :
    Prop where
  bindings : (w'.backends h).bindings = (w.backends h).bindings.filter fun g => g.owner ≠ f
  pending : (w'.backends h).pending =
    (w.backends h).pending.filter fun r => w.requestDevice r ≠ d
  active : (w'.backends h).active =
    (w.backends h).active.filter fun r => ¬ (w.requestDevice r = d ∧ r.owner = some f)
  stopping : (w'.backends h).stopping = (w.backends h).stopping
  others : ∀ h', h' ≠ h → w'.backends h' = w.backends h'
  /-- What was taken out of the lists is given back, every URB once. -/
  givebacks : w'.givebacks = w.givebacks ++ drained (w.releasedBy h f d)
  once : ((w.releasedBy h f d).map Request.urb).Nodup
  /-- One reference is dropped for the binding, and one for each transfer. -/
  counts : ∀ d', (w'.objects d').refcount +
    (if d' = d then 1 + (w.releasedBy h f d).length else 0) = (w.objects d').refcount
  transfers : ∀ h' < N, ∀ r ∈ w'.requests h', w'.transfers r.transfer = w.transfers r.transfer
  management : w'.management = w.management

/-- **A release removes the binding of its file and the requests that belong to it**, and no
others. -/
theorem OwnerReleased.of_binding {N : ℕ} {h : HcdId} {w : World} {f : FilePtr}
    {binding : Binding} (hs : w.Steady N) (hw : w.Serving N) (hh : h < N)
    (hf : (w.backends h).findOwnerLocked f = some binding) :
    OwnerReleased N h f binding.device w (w.backendReleaseOwner h f) := by
  obtain ⟨hmem, rfl⟩ := findOwnerLocked_some hf
  have hr := (backendReleaseOwner_relists hf).2
  set w' := w.backendReleaseOwner h binding.owner
  have ha' : w'.Accounts N 0 0 := hs.accounts.backendReleaseOwner hh binding.owner
  have hm : w'.management = w.management := (Aside.backendReleaseOwner w h _).management
  have hserving : w'.Serving N := hw.serves hh (.backendReleaseOwner w _)
  have hself := (congrFun hr.backends h).trans (Function.update_self _ _ _)
  have hother : ∀ h', h' ≠ h → w'.backends h' = w.backends h' := fun h' hne =>
    (congrFun hr.backends h').trans (Function.update_of_ne hne _ _)
  refine ⟨?_, ?_, ?_, ?_, hother, hr.givebacks, ?_, refcount_released hs.accounts ha' hh hmem
    hr.device hm hr.backends, fun h' hh' r hr' => ?_, hm⟩
  · rw [hself]
    exact hw.erase_binding hh hmem
  · rw [hself]
    refine List.filter_congr fun r _ => ?_
    simp [isFor]
  · rw [hself]
    refine List.filter_congr fun r _ => ?_
    simp [isLeased]
  · rw [hself]
    rfl
  · have hnodup := hw.nodup_urbs hh
    rw [requests, ((w.releasedBy_perm h _ _).map Request.urb).nodup_iff, List.map_append] at hnodup
    exact hnodup.of_append_left
  · exact hw.transfer_eq hh (.released binding hmem) hr hs.accounts ha' hh' hr'

/-- A request that a file fetched needs its binding. -/
theorem World.Serving.owner_ne {N : ℕ} {h : HcdId} {w : World} {f : FilePtr} (hw : w.Serving N)
    (hh : h < N) (hf : ∀ g ∈ (w.backends h).bindings, g.owner ≠ f) :
    ∀ r ∈ w.requests h, r.owner ≠ some f := by
  intro r hr howner
  rcases List.mem_append.1 hr with hr | hr
  · rw [((hw.bound h hh).pending r hr).1] at howner
    exact absurd howner (by simp)
  · obtain ⟨g, hg, hg', -⟩ := (hw.bound h hh).active r hr
    exact hf g hg (Option.some.inj (hg'.symm.trans howner))

/-- **A release takes exactly the transfers of its file**, in every state between complete calls of
the module, from which it runs to its end: a file without a binding changes nothing, one with a
binding gives back what is queued for it and drops its device once, and device and file can be
bound again afterwards. -/
theorem release_owner_exact {N : ℕ} {w : World} (hw : (calls N).Reachable w) {h : HcdId}
    (hh : h < N) (f : FilePtr) :
    ((w.backends h).findOwnerLocked f = none → w.backendReleaseOwner h f = w) ∧
    ∀ binding, (w.backends h).findOwnerLocked f = some binding →
      (∃ w₁ w₂, w.releaseUnbindLocked h f = (w₁, some binding) ∧
        Drains (fun v => v.releaseDrainLocked h f binding.device) w₁ w₂ ∧
        w.backendReleaseOwner h f = w₂.objectPut binding.device) ∧
      OwnerReleased N h f binding.device w (w.backendReleaseOwner h f) ∧
      (∀ r ∈ (w.backendReleaseOwner h f).requests h, r.owner ≠ some f) ∧
      ∀ f' d' env, env.bindingAlloc = true →
        (f' = f ∧ (∀ g ∈ ((w.backendReleaseOwner h f).backends h).bindings, g.device ≠ d') ∨
          d' = binding.device ∧
            ∀ g ∈ ((w.backendReleaseOwner h f).backends h).bindings, g.owner ≠ f') →
        ((w.backendReleaseOwner h f).backendRegister h f' d' env).2 = .ok () := by
  have hsteady := steady_of_reachable hw
  have hserving := serving_of_reachable hw
  refine ⟨fun hf => ?_, fun binding hf => ?_⟩
  · simp only [backendReleaseOwner, releaseUnbindLocked, hf]
  have hreleased := OwnerReleased.of_binding hsteady hserving hh hf
  obtain ⟨hmem, howner⟩ := findOwnerLocked_some hf
  have hfree : ∀ g ∈ ((w.backendReleaseOwner h f).backends h).bindings, g.owner ≠ f ∧
      g.device ≠ binding.device := by
    intro g hg
    rw [hreleased.bindings, List.mem_filter, decide_eq_true_eq] at hg
    refine ⟨hg.2, fun hdevice => hg.2 ?_⟩
    rw [List.inj_on_of_nodup_map (hserving.bound h hh).devices hg.1 hmem hdevice, howner]
  have hopen : ((w.backendReleaseOwner h f).backends h).stopping = false := by
    rw [hreleased.stopping, Bool.eq_false_iff]
    intro hstop
    rw [(hserving.bound h hh).closed hstop] at hmem
    exact absurd hmem List.not_mem_nil
  refine ⟨(backendReleaseOwner_relists hf).1, hreleased,
    (hserving.serves hh (.backendReleaseOwner w f)).owner_ne hh fun g hg => (hfree g hg).1,
    fun f' d' env halloc hother => backendRegister_succeeds halloc hopen fun g hg => ?_⟩
  rcases hother with ⟨rfl, hdevice⟩ | ⟨rfl, howner'⟩
  · exact ⟨(hfree g hg).1, hdevice g hg⟩
  · exact ⟨howner' g hg, (hfree g hg).2⟩

/-- File 5 releases its binding while a URB waits for device 0, and file 6 registers. -/
theorem release_owner_exact_example : ∃ w, (calls 1).Reachable w ∧
    (w.backendReleaseOwner 0 5).givebacks = w.givebacks ++ [⟨7, Errno.ESHUTDOWN.status⟩] ∧
    ((w.backendReleaseOwner 0 5).backendRegister 0 6 0 {}).2 = .ok () := by
  obtain ⟨w, hw, hp⟩ := exists_reachable_of_exec (I := Initialised)
    (f := fun w c => if Call.Possible 1 w c then some (w.call c) else none) (s := oneHub)
    (l := Call.plugIn 5 ++ [.urbEnqueue 0 7 .bulkOut {}])
    (p := fun w => (w.backends 0).findOwnerLocked 5 = some ⟨0, 5⟩ ∧
      (w.backends 0).bindings = [⟨0, 5⟩] ∧ (w.releasedBy 0 5 0).map Request.urb = [7])
    oneHub_initialised (by decide)
  obtain ⟨hf, hbindings, hurbs⟩ := of_decide_eq_true hp
  obtain ⟨-, hrelease⟩ := release_owner_exact hw Nat.one_pos 5
  obtain ⟨-, hreleased, -, hregister⟩ := hrelease _ hf
  refine ⟨w, hw, ?_, hregister 6 0 {} rfl (.inr ⟨rfl, ?_⟩)⟩
  · rw [hreleased.givebacks]
    have hgiven : drained (w.releasedBy 0 5 0) =
        ((w.releasedBy 0 5 0).map Request.urb).map (⟨·, Errno.ESHUTDOWN.status⟩) := by
      rw [List.map_map]
      rfl
    rw [hgiven, hurbs]
    rfl
  · rw [hreleased.bindings, hbindings]
    exact fun g hg => absurd hg List.not_mem_nil

end VirtUsb
