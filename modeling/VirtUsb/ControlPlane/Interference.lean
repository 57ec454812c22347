/-
# Ports do not interfere

An operation that is about one port leaves every other port as it was: what the host reads
of it, its power and what is plugged into it.  A request of the USB core that fails or
only reads leaves everything as it was.
-/

import VirtUsb.ControlPlane.Local

namespace VirtUsb

open Transition

namespace Topology

variable {t t' t'' : Topology} {h h' : HcdId} {n m : ℕ} {d : DevicePtr}

/-- Nothing that can be seen of the port differs. -/
structure Untouched (t t' : Topology) (h : HcdId) (n : ℕ) : Prop where
  status : t'.hcdBuildPortStatus h n = t.hcdBuildPortStatus h n
  change : t'.hcdBuildPortChange h n = t.hcdBuildPortChange h n
  speed : t'.hubGetPortSpeed h n = t.hubGetPortSpeed h n
  powered : t'.hubPortIsPowered h n = t.hubPortIsPowered h n
  peer : (t'.port (.downstream h (n - 1))).peer = (t.port (.downstream h (n - 1))).peer

/-- Nothing differs from itself. -/
theorem Untouched.refl (t : Topology) (h : HcdId) (n : ℕ) : Untouched t t h n :=
  ⟨rfl, rfl, rfl, rfl, rfl⟩

/-- The status word is made of the connection, the protocol state, the over-current state
and the power of the port. -/
theorem status_congr (hc : t'.hubPortIsConnected h m = t.hubPortIsConnected h m)
    (hs : t'.portState h m = t.portState h m)
    (ho : t'.hubPortIsOverCurrent h m = t.hubPortIsOverCurrent h m)
    (hp : t'.hubPortIsPowered h m = t.hubPortIsPowered h m) :
    t'.hcdBuildPortStatus h m = t.hcdBuildPortStatus h m := by
  have he : Bitmap.test (t'.hubs h).usb.enabled m = Bitmap.test (t.hubs h).usb.enabled m :=
    congrArg PortState.enabled hs
  have hsus : Bitmap.test (t'.hubs h).usb.suspended m = Bitmap.test (t.hubs h).usb.suspended m :=
    congrArg PortState.suspended hs
  have hr : Bitmap.test (t'.hubs h).usb.reset m = Bitmap.test (t.hubs h).usb.reset m :=
    congrArg PortState.reset hs
  have hspeed : t'.hubGetPortSpeed h m = t.hubGetPortSpeed h m := congrArg PortState.speed hs
  simp only [hcdBuildPortStatus, hc, he, hsus, ho, hr, hp, hspeed]

/-- The change word is made of the pending changes of the port. -/
theorem change_congr (hp : ∀ kind, t'.isPending h m kind = t.isPending h m kind) :
    t'.hcdBuildPortChange h m = t.hcdBuildPortChange h m := by
  have hconnected : Bitmap.test (t'.hubs h).usbChange.connected m =
      Bitmap.test (t.hubs h).usbChange.connected m := hp .connected
  have henabled : Bitmap.test (t'.hubs h).usbChange.enabled m =
      Bitmap.test (t.hubs h).usbChange.enabled m := hp .enabled
  have hsuspended : Bitmap.test (t'.hubs h).usbChange.suspended m =
      Bitmap.test (t.hubs h).usbChange.suspended m := hp .suspended
  have hover : Bitmap.test (t'.hubs h).usbChange.overCurrent m =
      Bitmap.test (t.hubs h).usbChange.overCurrent m := hp .overCurrent
  have hreset : Bitmap.test (t'.hubs h).usbChange.reset m =
      Bitmap.test (t.hubs h).usbChange.reset m := hp .reset
  simp only [hcdBuildPortChange, hconnected, henabled, hsuspended, hover, hreset]

/-- **A change of one port leaves the others as they were.** -/
theorem Local.untouched (hl : Local t t' h n) (ht : t.Wired) (hv : t.hubPortIsValid h' m = true)
    (hm : ¬ (h' = h ∧ m = n)) : Untouched t t' h' m := by
  have hvalid := valid_of_frame hl.hub
  have hport := hl.port h' m hv hm
  have hget : t.hubGetPort h' m = some (.downstream h' (m - 1)) := hubGetPort_of_valid hv
  have hget' : t'.hubGetPort h' m = some (.downstream h' (m - 1)) :=
    hubGetPort_of_valid ((hvalid h' m).trans hv)
  have hframe : (t'.hubs h').frame = (t.hubs h').frame := hl.hub h'
  have hcount : (t'.hubs h').portCount = (t.hubs h').portCount := by
    have hsame : (t'.hubs h').frame.portCount = (t.hubs h').frame.portCount := by rw [hframe]
    exact hsame
  have hmode : (t'.hubs h').overCurrentMode = (t.hubs h').overCurrentMode := by
    have hsame : (t'.hubs h').frame.overCurrentMode = (t.hubs h').frame.overCurrentMode := by
      rw [hframe]
    exact hsame
  have hpower : t'.hubPortIsPowered h' m = t.hubPortIsPowered h' m := by
    simp only [hubPortIsPowered, hget, hget', hport]
  have hover : t'.hubPortIsOverCurrent h' m = t.hubPortIsOverCurrent h' m := by
    simp only [hubPortIsOverCurrent, hget, hget', hport, hmode]
  have hconnected : t'.hubPortIsConnected h' m = t.hubPortIsConnected h' m := by
    refine (connected_of_same hcount fun _ => ⟨hport, fun q hq => ?_⟩).1
    obtain ⟨d, rfl, -⟩ := ht.downstream_peer hq
    exact hl.plugged h' m d hv hm hq
  have hstate := hl.state h' m hm
  exact ⟨status_congr hconnected hstate hover hpower,
    change_congr fun kind => hl.pending h' m kind hm, congrArg PortState.speed hstate, hpower,
    congrArg Port.peer hport⟩

/-! ### Requests of the USB core -/

/-- **The acknowledgement of a change** clears that change. -/
theorem hcdHubControl_acknowledge {index : ℕ} (hv : t.hubPortIsValid h (index % 256) = true)
    (kind : ChangeKind) : t.hcdHubControl h clearPortFeature kind.feature index =
      (t.clearChange h (index % 256) kind, .ok {}) := by
  cases kind <;>
    simp [hcdHubControl, hcdClearPortFeature, hubReply, hv, clearPortFeature, clearHubFeature,
      ChangeKind.feature, portFeatEnable, portFeatSuspend, portFeatPower, portFeatCConnection,
      portFeatCEnable, portFeatCSuspend, portFeatCOverCurrent, portFeatCReset, clearChange,
      HubPortUsbChange.setBits, HubPortUsbChange.bits]

/-- Power is switched without an error, in individual mode. -/
theorem Wired.hubSetPortPower_ok (ht : t.Wired)
    (hmode : (t.hubs h).powerSwitchingMode = .individual) (hv : t.hubPortIsValid h n = true)
    (powered : Bool) : (t.hubSetPortPower h n powered).2 = .ok () := by
  rw [Topology.hubSetPortPower, hubGetPort_of_valid hv]
  dsimp only
  rw [if_neg (by rw [hmode]; decide)]
  exact ht.hubSwitchPortPower_ok hv powered

/-- The answer of a request fails with the error of the function behind it. -/
theorem hubReply_error {result : Topology × Except Errno Unit} {e : Errno}
    (he : (hubReply result).2 = .error e) : result.2 = .error e := by
  rcases result with ⟨t', e' | _⟩
  · exact congrArg (Except.map fun _ => ()) he
  · simp [hubReply] at he

/-- Power is switched without an error, so the switch is no reason for one. -/
theorem Wired.hubSetPortPower_ne_error (ht : t.Wired)
    (hmode : (t.hubs h).powerSwitchingMode = .individual) (hv : t.hubPortIsValid h n = true)
    (powered : Bool) (e : Errno) : (t.hubSetPortPower h n powered).2 ≠ .error e := by
  rw [ht.hubSetPortPower_ok hmode hv]
  simp

/-- `virtusb_hcd_clear_port_feature` that fails changes nothing. -/
theorem Wired.hcdClearPortFeature_error (ht : t.Wired)
    (hmode : (t.hubs h).powerSwitchingMode = .individual) {feature : ℕ} {e : Errno}
    (he : (t.hcdClearPortFeature h n feature).2 = .error e) :
    (t.hcdClearPortFeature h n feature).1 = t := by
  simp only [hcdClearPortFeature] at he ⊢
  split at he
  · rename_i hinvalid
    rw [if_pos hinvalid]
  · rename_i hvalid
    have hv : t.hubPortIsValid h n = true := by simpa using hvalid
    rw [if_neg hvalid]
    split_ifs at he ⊢
    · exact absurd he (ht.hubSetPortPower_ne_error hmode hv false e)
    · rfl

/-- `virtusb_hcd_set_port_feature` that fails changes nothing. -/
theorem Wired.hcdSetPortFeature_error (ht : t.Wired)
    (hmode : (t.hubs h).powerSwitchingMode = .individual) {feature : ℕ} {e : Errno}
    (he : (t.hcdSetPortFeature h n feature).2 = .error e) :
    (t.hcdSetPortFeature h n feature).1 = t := by
  simp only [hcdSetPortFeature] at he ⊢
  split at he
  · rename_i hinvalid
    rw [if_pos hinvalid]
  · rename_i hvalid
    have hv : t.hubPortIsValid h n = true := by simpa using hvalid
    rw [if_neg hvalid]
    split_ifs at he ⊢
    · exact absurd he (ht.hubSetPortPower_ne_error hmode hv true e)
    · exact hubResetPort_error he
    · rfl

/-- **A request that fails changes nothing.** -/
theorem Wired.hcdHubControl_error (ht : t.Wired)
    (hmode : (t.hubs h).powerSwitchingMode = .individual) {typeReq value index : ℕ} {e : Errno}
    (he : (t.hcdHubControl h typeReq value index).2 = .error e) :
    (t.hcdHubControl h typeReq value index).1 = t := by
  simp only [hcdHubControl] at he ⊢
  -- only the requests that set or clear a feature change anything
  by_cases hclearHub : typeReq = clearHubFeature
  · rw [if_pos hclearHub] at he ⊢
    split_ifs at he ⊢
    rfl
  rw [if_neg hclearHub] at he ⊢
  by_cases hclear : typeReq = clearPortFeature
  · rw [if_pos hclear] at he ⊢
    rw [hubReply_fst]
    exact ht.hcdClearPortFeature_error hmode (hubReply_error he)
  rw [if_neg hclear] at he ⊢
  split_ifs at he ⊢
  · rfl
  · rfl
  · rw [hubReply_fst]
    exact ht.hcdSetPortFeature_error hmode (hubReply_error he)
  · rfl

/-- **A request that reads changes nothing.** -/
theorem hcdHubControl_get {typeReq : ℕ}
    (hget : typeReq = getHubDescriptor ∨ typeReq = getHubStatus ∨ typeReq = getPortStatus)
    (value index : ℕ) : (t.hcdHubControl h typeReq value index).1 = t := by
  rcases hget with rfl | rfl | rfl <;>
    simp [hcdHubControl, clearHubFeature, clearPortFeature, getHubDescriptor, getHubStatus,
      getPortStatus]

end Topology

/-! ### The result -/

/-- The operation is about port `n` of hub `h`: the port is an argument of it, or the device
that is its argument is plugged into the port. -/
def Operation.Concerns (t : Topology) (h : HcdId) (n : ℕ) : Operation → Prop
  | .attach _ h' n' => h' = h ∧ n' = n
  | .detach d => (t.upstream d).peer = some (.downstream h (n - 1))
  | .connection d _ => (t.upstream d).peer = some (.downstream h (n - 1))
  | .destroy d _ => (t.upstream d).peer = some (.downstream h (n - 1))
  | .setPortPower h' n' _ => h' = h ∧ n' = n
  | .resetPort h' n' => h' = h ∧ n' = n
  | .setPortOverCurrent h' n' _ => h' = h ∧ n' = n
  | .hubControl h' _ _ index => h' = h ∧ index % 256 = n
  | _ => False

namespace Topology

variable {t : Topology} {h : HcdId} {n : ℕ} {d : DevicePtr}

/-- A device is plugged into one port. -/
theorem eq_of_peer {h' : HcdId} {n' : ℕ} (hv : t.hubPortIsValid h n = true)
    (hv' : t.hubPortIsValid h' n' = true) (hd : (t.upstream d).peer = some (.downstream h (n - 1)))
    (hd' : (t.upstream d).peer = some (.downstream h' (n' - 1))) : h' = h ∧ n' = n := by
  obtain ⟨rfl, hi⟩ := PortRef.downstream.inj (Option.some.inj (hd'.symm.trans hd))
  have hpos := (valid_iff.1 hv).1
  have hpos' := (valid_iff.1 hv').1
  exact ⟨rfl, by omega⟩

/-- A detach changes the port that its device is attached to. -/
theorem Wired.local_detach_of_peer (ht : t.Wired) (hv : t.hubPortIsValid h n = true)
    (hd : (t.upstream d).peer = some (.downstream h (n - 1))) :
    Local t (t.deviceDetach d) h n := by
  rcases ht.local_deviceDetach d with heq | ⟨h', n', hv', hd', hl⟩
  · rw [heq]
    exact .refl t h n
  · obtain ⟨rfl, rfl⟩ := eq_of_peer hv hv' hd hd'
    exact hl

/-- The signalling of a device changes the port that it is attached to. -/
theorem Wired.local_signaling_of_peer (ht : t.Wired) (hv : t.hubPortIsValid h n = true)
    (hd : (t.upstream d).peer = some (.downstream h (n - 1))) (enabled : Bool) :
    Local t (t.deviceSetConnectionSignaling d enabled).1 h n := by
  rcases ht.local_deviceSetConnectionSignaling d enabled with ⟨-, hl⟩ | ⟨h', n', hv', hd', hl⟩
  · exact hl h n
  · obtain ⟨rfl, rfl⟩ := eq_of_peer hv hv' hd hd'
    exact hl

end Topology

namespace World

variable {w : World} {h : HcdId} {n : ℕ} {d : DevicePtr}

open VirtUsb.Topology

/-- The destruction of a device changes the port that it is attached to. -/
theorem local_deviceDestroy (ht : w.topo.Wired) (hv : w.topo.hubPortIsValid h n = true)
    (hd : (w.topo.upstream d).peer = some (.downstream h (n - 1))) (force : Bool) :
    Local w.topo (w.deviceDestroy d force).1.topo h n := by
  rw [deviceDestroy, if_pos (by rw [hd]; rfl)]
  split
  · exact .refl _ h n
  have hsignal := ht.local_signaling_of_peer hv hd false
  have hwired := (ht.deviceSetConnectionSignaling d false).wired
  have hpeers := peers_deviceSetConnectionSignaling (t := w.topo) (d := d) false
  rcases hs : w.topo.deviceSetConnectionSignaling d false with ⟨t, e | _⟩
  · rwa [hs] at hsignal
  · rw [hs] at hsignal hwired hpeers
    dsimp only
    rw [topo_of_bare (bare_objectUnregister { w with topo := t.deviceDetach d } d)]
    have hd' : (t.upstream d).peer = some (.downstream h (n - 1)) :=
      (congrFun hpeers (.upstream d)).trans hd
    exact hsignal.trans (hwired.local_detach_of_peer ((valid_of_frame hsignal.hub h n).trans hv) hd')

/-- **An operation about one port leaves the others as they were.** -/
theorem untouched_operate (ht : w.topo.Wired)
    (hmode : (w.topo.hubs h).powerSwitchingMode = .individual)
    (hv : w.topo.hubPortIsValid h n = true) {op : Operation} (hop : op.Concerns w.topo h n)
    {h' : HcdId} {m : ℕ} (hv' : w.topo.hubPortIsValid h' m = true) (hm : ¬ (h' = h ∧ m = n)) :
    Untouched w.topo (w.operate op).1.topo h' m := by
  have hlocal : ∀ {t'}, Local w.topo t' h n → Untouched w.topo t' h' m := fun hl =>
    hl.untouched ht hv' hm
  cases op with
  | attach d h₁ n₁ =>
      obtain ⟨rfl, rfl⟩ := hop
      have hget := hubGetPort_of_valid hv
      rw [operate, hget]
      exact hlocal (ht.local_deviceAttach hget)
  | detach d => exact hlocal (ht.local_detach_of_peer hv hop)
  | connection d enabled => exact hlocal (ht.local_signaling_of_peer hv hop enabled)
  | destroy d force => exact hlocal (local_deviceDestroy ht hv hop force)
  | setPortPower h₁ n₁ powered =>
      obtain ⟨rfl, rfl⟩ := hop
      exact hlocal (ht.local_hubSetPortPower hmode _ powered)
  | resetPort h₁ n₁ =>
      obtain ⟨rfl, rfl⟩ := hop
      exact hlocal (ht.local_hubResetPort _ _)
  | setPortOverCurrent h₁ n₁ overCurrent =>
      obtain ⟨rfl, rfl⟩ := hop
      exact hlocal (local_hubSetPortOverCurrent _ overCurrent)
  | hubControl h₁ typeReq value index =>
      obtain ⟨rfl, rfl⟩ := hop
      rw [operate, withTopo]
      rcases (w.topo.hcdHubControl_effect h₁ typeReq value index).changes ht with
        heq | ⟨-, powered, heq⟩ | ⟨-, hl⟩ | heq
      · rw [heq]
        exact .refl _ h' m
      · rw [heq]
        exact hlocal (ht.local_hubSetPortPower hmode _ powered)
      · exact hlocal hl
      · rw [heq]
        refine (local_clearChange h₁ 0 .overCurrent).untouched ht hv' fun hh => ?_
        have hpos := (valid_iff.1 hv').1
        omega
  | _ => exact hop.elim

end World

/-- **Ports do not interfere.**  An operation about a port leaves every other port of any
hub as it was; an acknowledgement clears one pending change and nothing else; and a request
that fails, or only reads, changes nothing. -/
theorem ports_do_not_interfere {w : World} (hw : operations.Reachable w) {h : HcdId} {n : ℕ}
    (hmode : (w.topo.hubs h).powerSwitchingMode = .individual)
    (hv : w.topo.hubPortIsValid h n = true) :
    (∀ op : Operation, op.Concerns w.topo h n → ∀ h' m, w.topo.hubPortIsValid h' m = true →
      ¬ (h' = h ∧ m = n) → Topology.Untouched w.topo (w.operate op).1.topo h' m) ∧
    (∀ kind index, index % 256 = n →
      let t' := (w.topo.hcdHubControl h clearPortFeature (ChangeKind.feature kind) index).1
      t'.wiring = w.topo.wiring ∧ t'.notified = w.topo.notified ∧
        (∀ h', (t'.hubs h').usb = (w.topo.hubs h').usb) ∧
        ∀ h' m kind', t'.isPending h' m kind' =
          (w.topo.isPending h' m kind' && !decide (h' = h ∧ m = n ∧ kind' = kind))) ∧
    ∀ typeReq value index,
      ((∃ e, (w.topo.hcdHubControl h typeReq value index).2 = .error e) ∨
        typeReq = getHubDescriptor ∨ typeReq = getHubStatus ∨ typeReq = getPortStatus) →
      (w.topo.hcdHubControl h typeReq value index).1 = w.topo := by
  have ht := (World.sound_of_reachable hw).topo.wired
  refine ⟨fun op hop h' m hv' hm => World.untouched_operate ht hmode hv hop hv' hm, ?_, ?_⟩
  · rintro kind index rfl
    rw [Topology.hcdHubControl_acknowledge hv]
    refine ⟨Topology.wiring_setUsbChange _, rfl, fun h' => ?_,
      Topology.isPending_clearChange _ kind⟩
    refine Topology.congr_setHub (t := w.topo) (h := h) Hub.usb ?_ h'
    rfl
  · rintro typeReq value index (⟨e, he⟩ | hget)
    · exact ht.hcdHubControl_error hmode he
    · exact Topology.hcdHubControl_get hget value index

/-- Two ports of one hub: a device is plugged into the first, and the second stays as it
was. -/
theorem ports_do_not_interfere_example : ∃ w, operations.Reachable w ∧
    w.topo.hubPortIsConnected 0 1 = false ∧
    (w.operate (.attach 0 0 1)).1.topo.hubPortIsConnected 0 1 = true ∧
    Topology.Untouched w.topo (w.operate (.attach 0 0 1)).1.topo 0 2 := by
  obtain ⟨w, hw, hp⟩ := exists_reachable_of_exec (I := World.Initialised)
    (f := fun w op => some (World.operate w op).1) (s := World.oneHub)
    (l := [.create 7 {}, .connection 0 true, .setPortPower 0 1 true])
    (p := fun w => decide ((w.topo.hubs 0).powerSwitchingMode = .individual ∧
      w.topo.hubPortIsValid 0 1 = true ∧ w.topo.hubPortIsValid 0 2 = true ∧
      w.topo.hubPortIsConnected 0 1 = false ∧
      (w.operate (.attach 0 0 1)).1.topo.hubPortIsConnected 0 1 = true))
    World.oneHub_initialised (by decide)
  obtain ⟨hmode, hv, hv', hoff, hon⟩ := of_decide_eq_true hp
  exact ⟨w, hw, hoff, hon,
    (ports_do_not_interfere hw hmode hv).1 (.attach 0 0 1) ⟨rfl, rfl⟩ 0 2 hv' (by decide)⟩

end VirtUsb
