/-
# Changes of one port

All ports of a hub share its bitmaps and its packed words, and a device is found by
following the links of ports.  Still every function that is about one port changes that
port alone, and the device that is plugged into it (`Topology.Local`).  An operation is a
chain of such changes (`Topology.Locals`), or it changes no port at all.
-/

import VirtUsb.ControlPlane.Connection
import VirtUsb.ControlPlane.Peers

namespace VirtUsb

/-- A hub without its ports, its protocol state and its pending changes. -/
def Hub.frame (x : Hub) : Hub := { x with ports := fun _ => {}, usb := {}, usbChange := {} }

/-- What a port keeps from its initialisation on. -/
def Port.identity (x : Port) : PortRole × Option PortOwner × Byte := (x.role, x.owner, x.speed)

namespace Topology

/-- The two topologies differ in port `n` of hub `h` at most, and in the device that is
plugged into it. -/
structure Local (t t' : Topology) (h : HcdId) (n : ℕ) : Prop where
  identity : ∀ p, (t'.port p).identity = (t.port p).identity
  hub : ∀ h', (t'.hubs h').frame = (t.hubs h').frame
  port : ∀ h' m, t.hubPortIsValid h' m = true → ¬ (h' = h ∧ m = n) →
    t'.port (.downstream h' (m - 1)) = t.port (.downstream h' (m - 1))
  plugged : ∀ h' m d, t.hubPortIsValid h' m = true → ¬ (h' = h ∧ m = n) →
    (t.port (.downstream h' (m - 1))).peer = some (.upstream d) → t'.upstream d = t.upstream d
  state : ∀ h' m, ¬ (h' = h ∧ m = n) → t'.portState h' m = t.portState h' m
  pending : ∀ h' m kind, ¬ (h' = h ∧ m = n) → t'.isPending h' m kind = t.isPending h' m kind

variable {t t' t'' : Topology} {h h' : HcdId} {n m : ℕ} {d : DevicePtr}

/-- The frame of a hub has its port count. -/
theorem valid_of_frame (hf : ∀ h', (t'.hubs h').frame = (t.hubs h').frame) (h' : HcdId) (m : ℕ) :
    t'.hubPortIsValid h' m = t.hubPortIsValid h' m := by
  have hcount : (t'.hubs h').frame.portCount = (t.hubs h').frame.portCount := by rw [hf]
  have hcount' : (t'.hubs h').portCount = (t.hubs h').portCount := hcount
  rw [hubPortIsValid, hubPortIsValid, hcount']

namespace Local

/-- Nothing changes at any port. -/
theorem refl (t : Topology) (h : HcdId) (n : ℕ) : Local t t h n :=
  ⟨fun _ => rfl, fun _ => rfl, fun _ _ _ _ => rfl, fun _ _ _ _ _ _ => rfl, fun _ _ _ => rfl,
    fun _ _ _ _ => rfl⟩

/-- Two changes of the same port. -/
theorem trans (h₁ : Local t t' h n) (h₂ : Local t' t'' h n) : Local t t'' h n where
  identity p := (h₂.identity p).trans (h₁.identity p)
  hub h' := (h₂.hub h').trans (h₁.hub h')
  port h' m hv hm := by
    have hv' := (valid_of_frame h₁.hub h' m).trans hv
    exact (h₂.port h' m hv' hm).trans (h₁.port h' m hv hm)
  plugged h' m d hv hm hd := by
    have hv' := (valid_of_frame h₁.hub h' m).trans hv
    have hd' := (congrArg Port.peer (h₁.port h' m hv hm)).trans hd
    exact (h₂.plugged h' m d hv' hm hd').trans (h₁.plugged h' m d hv hm hd)
  state h' m hm := (h₂.state h' m hm).trans (h₁.state h' m hm)
  pending h' m kind hm := (h₂.pending h' m kind hm).trans (h₁.pending h' m kind hm)

/-- A change of the panel. -/
theorem of_wiring (hw : t'.wiring = t.wiring)
    (hstate : ∀ h' m, ¬ (h' = h ∧ m = n) → t'.portState h' m = t.portState h' m)
    (hpending : ∀ h' m kind, ¬ (h' = h ∧ m = n) →
      t'.isPending h' m kind = t.isPending h' m kind) : Local t t' h n where
  identity p := congrArg Port.identity (port_congr hw p)
  hub h' := by
    have hsame : (t'.wiring.hubs h').frame = (t.wiring.hubs h').frame := by rw [hw]
    exact hsame
  port h' m _ _ := port_congr hw _
  plugged _ _ d _ _ _ := port_congr hw (.upstream d)
  state := hstate
  pending := hpending

/-- Ports are no part of the frame of a hub. -/
theorem frame_setPort (t : Topology) (p : PortRef) (x : Port) (h' : HcdId) :
    ((t.setPort p x).hubs h').frame = (t.hubs h').frame := by
  cases p with
  | upstream d => rfl
  | downstream h i =>
      refine congr_setHub (t := t) (h := h) Hub.frame ?_ h'
      rfl

/-- A write that keeps the identity of its port keeps that of every port. -/
theorem identity_setPort {p : PortRef} {x : Port} (hx : x.identity = (t.port p).identity)
    (q : PortRef) : ((t.setPort p x).port q).identity = (t.port q).identity := by
  rcases eq_or_ne q p with rfl | hne
  · rw [port_setPort_self, hx]
  · rw [port_setPort_of_ne t x hne]

/-- A change of a port of a hub. -/
theorem setPort_downstream (hn : 0 < n) {x : Port}
    (hx : x.identity = (t.port (.downstream h (n - 1))).identity) :
    Local t (t.setPort (.downstream h (n - 1)) x) h n where
  identity := identity_setPort hx
  hub := frame_setPort t _ x
  port h' m hv hm := by
    refine port_setPort_of_ne t x fun heq => hm ?_
    obtain ⟨rfl, hi⟩ := PortRef.downstream.inj heq
    have hpos := (valid_iff.1 hv).1
    exact ⟨rfl, by omega⟩
  plugged _ _ d _ _ _ := port_setPort_of_ne t (q := .upstream d) x (by simp)
  state h' m _ :=
    let hp := samePanel_setPort t (.downstream h (n - 1)) x
    portState_congr (hp.usb h') (hp.portCount h') m
  pending h' m kind _ := by
    rw [isPending, (samePanel_setPort t (.downstream h (n - 1)) x).usbChange, isPending]

/-- A change of a device that is plugged into no other port. -/
theorem setPort_upstream {x : Port} (hx : x.identity = (t.upstream d).identity)
    (hd : ∀ h' m, t.hubPortIsValid h' m = true → ¬ (h' = h ∧ m = n) →
      (t.port (.downstream h' (m - 1))).peer ≠ some (.upstream d)) :
    Local t (t.setPort (.upstream d) x) h n where
  identity := identity_setPort hx
  hub := frame_setPort t _ x
  port _ _ _ _ := port_setPort_of_ne t x (by simp)
  plugged h' m d' hv hm hpeer := by
    refine port_setPort_of_ne t (q := .upstream d') x fun heq => hd h' m hv hm ?_
    obtain rfl := PortRef.upstream.inj heq
    exact hpeer
  state h' m _ :=
    let hp := samePanel_setPort t (.upstream d) x
    portState_congr (hp.usb h') (hp.portCount h') m
  pending h' m kind _ := by
    rw [isPending, (samePanel_setPort t (.upstream d) x).usbChange, isPending]

end Local

/-! ### The functions of one port -/

/-- A call of the callback makes nothing pending. -/
theorem isPending_hubNotifyStatusChanged (m : ℕ) (kind : ChangeKind) :
    (t.hubNotifyStatusChanged h).isPending h' m kind = t.isPending h' m kind := by
  rw [isPending, hubs_hubNotifyStatusChanged, isPending]

/-- A report makes its own change pending, and no other. -/
theorem isPending_reportChange (hn : n < 32) (kind : ChangeKind) (h' : HcdId) (m : ℕ)
    (kind' : ChangeKind) : (t.reportChange h n kind).isPending h' m kind' =
      (t.isPending h' m kind' || decide (h' = h ∧ m = n ∧ kind' = kind)) := by
  simp only [reportChange]
  split
  · rename_i hp
    by_cases hk : h' = h ∧ m = n ∧ kind' = kind
    · obtain ⟨rfl, rfl, rfl⟩ := hk
      simp [hp]
    · simp [hk]
  · rw [isPending_hubNotifyStatusChanged, isPending_setBits]
    by_cases hk : h' = h ∧ kind' = kind
    · obtain ⟨rfl, rfl⟩ := hk
      rw [if_pos ⟨rfl, rfl⟩, Bitmap.test_set _ hn]
      simp [isPending]
    · rw [if_neg hk]
      have hk' : ¬ (h' = h ∧ m = n ∧ kind' = kind) := fun hh => hk ⟨hh.1, hh.2.2⟩
      simp [hk']

/-- A report changes its port. -/
theorem local_reportChange (hn : n < 32) (kind : ChangeKind) :
    Local t (t.reportChange h n kind) h n := by
  refine .of_wiring (wiring_reportChange n kind) (fun h' m _ => portState_reportChange n kind h' m)
    fun h' m kind' hm => ?_
  have hk : ¬ (h' = h ∧ m = n ∧ kind' = kind) := fun hh => hm ⟨hh.1, hh.2.1⟩
  rw [isPending_reportChange hn]
  simp [hk]

/-- Protocol state is no change. -/
theorem isPending_setUsb (x : HubPortUsbState) (h' : HcdId) (m : ℕ) (kind : ChangeKind) :
    (t.setUsb h x).isPending h' m kind = t.isPending h' m kind := by
  rw [isPending, setUsb, congr_setHub Hub.usbChange (x := { t.hubs h with usb := x }) rfl, isPending]

/-- A write to the protocol state that leaves the other ports as they are. -/
theorem local_setUsb {x : HubPortUsbState}
    (hstate : ∀ h' m, ¬ (h' = h ∧ m = n) → (t.setUsb h x).portState h' m = t.portState h' m) :
    Local t (t.setUsb h x) h n :=
  .of_wiring (wiring_setUsb x) hstate fun h' m kind _ => isPending_setUsb x h' m kind

/-- Clearing a port changes that port. -/
theorem local_hubClearPortState (n : ℕ) : Local t (t.hubClearPortState h n) h n := by
  refine .of_wiring (wiring_hubClearPortState n) (fun h' m hm => ?_) fun h' m kind _ => ?_
  · rw [portState_hubClearPortState, if_neg hm]
  · rw [hubClearPortState, hubSetPortSpeed, isPending_setUsb, isPending_setUsb]

/-- A connection change is one of its port. -/
theorem local_hubMark (hv : t.hubPortIsValid h n = true) (hn : n < 32) :
    Local t (t.hubMarkPortConnectionChange h n) h n := by
  rw [hubMark_eq hv]
  refine Local.trans ?_ (local_reportChange hn .connected)
  split
  · exact .refl t h n
  · exact local_hubClearPortState n

/-- A reset changes its port. -/
theorem Wired.local_hubResetPort (ht : t.Wired) (h : HcdId) (n : ℕ) :
    Local t (t.hubResetPort h n).1 h n := by
  rcases hr : (t.hubResetPort h n).2 with e | _
  · rw [hubResetPort_error hr]
    exact .refl t h n
  · have hn := ht.lt_of_valid (hubResetPort_ok_iff.1 hr).1
    obtain ⟨-, -, -, x, heq, hstate⟩ := hubResetPort_ok hn hr
    rw [heq]
    exact Local.trans (local_setUsb fun h' m hm => by rw [hstate, if_neg hm])
      (local_reportChange hn .reset)

/-- An acknowledgement changes its port. -/
theorem local_clearChange (h : HcdId) (n : ℕ) (kind : ChangeKind) :
    Local t (t.clearChange h n kind) h n := by
  refine .of_wiring (wiring_setUsbChange _) (fun h' m _ => portState_setUsbChange _ h' m)
    fun h' m kind' hm => ?_
  have hk : ¬ (h' = h ∧ m = n ∧ kind' = kind) := fun hh => hm ⟨hh.1, hh.2.1⟩
  rw [isPending_clearChange]
  simp [hk]

/-- A change of the wiring that is compared and marked. -/
theorem Local.marked {t₁ : Topology} (hl : Local t t₁ h n) (hv : t.hubPortIsValid h n = true)
    (hn : n < 32) (c : Prop) [Decidable c] :
    Local t (if c then t₁.hubMarkPortConnectionChange h n else t₁) h n := by
  split
  · exact hl.trans (local_hubMark ((valid_of_frame hl.hub h n).trans hv) hn)
  · exact hl

/-- The port that a device is plugged into is the only one that links to it. -/
theorem Wired.no_other_link (ht : t.Wired)
    (hd : (t.upstream d).peer = none ∨ (t.upstream d).peer = some (.downstream h (n - 1)))
    (hn : (t.upstream d).peer = none ∨ 0 < n) {h' : HcdId} {m : ℕ}
    (hv : t.hubPortIsValid h' m = true) (hm : ¬ (h' = h ∧ m = n)) :
    (t.port (.downstream h' (m - 1))).peer ≠ some (.upstream d) := by
  intro hpeer
  have hback : (t.upstream d).peer = some (.downstream h' (m - 1)) := (ht.symm _ _ hpeer).1
  rcases hd with hnone | hsome
  · exact absurd (hnone.symm.trans hback) (by simp)
  · have hpos := (valid_iff.1 hv).1
    have hpos' : 0 < n := hn.resolve_left fun hnone => absurd (hnone.symm.trans hback) (by simp)
    obtain ⟨rfl, hi⟩ := PortRef.downstream.inj (Option.some.inj (hback.symm.trans hsome))
    exact hm ⟨rfl, by omega⟩

/-- Attaching a device to a port changes that port, and the device. -/
theorem Wired.local_portAttach (ht : t.Wired) (hn : 0 < n) :
    Local t (t.portAttach (.downstream h (n - 1)) (.upstream d)).1 h n := by
  simp only [portAttach]
  split
  · exact .refl t h n
  split
  · exact .refl t h n
  rename_i hfree
  have hnone : (t.upstream d).peer = none := by
    simp only [not_or, Bool.not_eq_true, Option.isSome_eq_false_iff,
      Option.isNone_iff_eq_none] at hfree
    exact hfree.2
  have hfirst : Local t (t.setPort (.downstream h (n - 1))
      { t.port (.downstream h (n - 1)) with peer := some (.upstream d) }) h n :=
    .setPort_downstream hn rfl
  refine hfirst.trans (.setPort_upstream rfl fun h' m hv hm => ?_)
  have hv' := (valid_of_frame hfirst.hub h' m).symm.trans hv
  rw [hfirst.port h' m hv' hm]
  exact ht.no_other_link (.inl hnone) (.inl hnone) hv' hm

/-- An attachment changes the port that it is for. -/
theorem Wired.local_deviceAttach (ht : t.Wired) {p : PortRef} (hp : t.hubGetPort h n = some p) :
    Local t (t.deviceAttach d p).1 h n := by
  obtain ⟨hv, rfl⟩ := valid_of_hubGetPort hp
  obtain ⟨hpos, hle⟩ := valid_iff.1 hv
  have howner : (t.port (.downstream h (n - 1))).owner = some (.hub h) :=
    (ht.hubPort h (n - 1) (by omega)).2
  have hattach := ht.local_portAttach (h := h) (d := d) hpos
  simp only [Topology.deviceAttach, howner, hubFindPortNumber_of_valid hv]
  rcases ha : t.portAttach (.downstream h (n - 1)) (.upstream d) with ⟨t₁, e | _⟩
  · rwa [ha] at hattach
  · rw [ha] at hattach
    exact hattach.marked hv (ht.lt_of_valid hv) _

/-- Detaching a device changes the port it was attached to, and the device. -/
theorem Wired.local_portDetach (ht : t.Wired) (hn : 0 < n)
    (hd : (t.upstream d).peer = some (.downstream h (n - 1))) :
    Local t (t.portDetach (.upstream d)) h n := by
  have hd' : (t.port (.upstream d)).peer = some (.downstream h (n - 1)) := hd
  have hfirst : Local t (t.setPort (.upstream d) { t.port (.upstream d) with peer := none }) h n :=
    .setPort_upstream rfl fun h' m hv hm => ht.no_other_link (.inr hd) (.inr hn) hv hm
  simp only [Topology.portDetach, hd']
  split
  · exact hfirst.trans (.setPort_downstream hn rfl)
  · exact hfirst

/-- A detachment changes the port that the device was plugged into. -/
theorem Wired.local_deviceDetach (ht : t.Wired) (d : DevicePtr) : t.deviceDetach d = t ∨
    ∃ h n, t.hubPortIsValid h n = true ∧ (t.upstream d).peer = some (.downstream h (n - 1)) ∧
      Local t (t.deviceDetach d) h n := by
  rcases ht.deviceGetAttachedHub d with ⟨hnone, hpeer⟩ | ⟨h, n, hsome, hv, hpeer, -⟩
  · have hpeer' : (t.port (.upstream d)).peer = none := hpeer
    refine .inl ?_
    rw [Topology.deviceDetach, hnone]
    simp only [Topology.portDetach, hpeer']
  · refine .inr ⟨h, n, hv, hpeer, ?_⟩
    have hdetach := ht.local_portDetach (valid_iff.1 hv).1 hpeer
    simp only [Topology.deviceDetach, hsome]
    exact hdetach.marked hv (ht.lt_of_valid hv) _

/-- A change of the signaling of a device changes the port it is plugged into, or none. -/
theorem Wired.local_deviceSetConnectionSignaling (ht : t.Wired) (d : DevicePtr) (enabled : Bool) :
    ((t.upstream d).peer = none ∧
      ∀ h n, Local t (t.deviceSetConnectionSignaling d enabled).1 h n) ∨
    ∃ h n, t.hubPortIsValid h n = true ∧ (t.upstream d).peer = some (.downstream h (n - 1)) ∧
      Local t (t.deviceSetConnectionSignaling d enabled).1 h n := by
  have hset : ∀ {h n}, ((t.upstream d).peer = none ∨
      (t.upstream d).peer = some (.downstream h (n - 1))) → ((t.upstream d).peer = none ∨ 0 < n) →
        Local t (t.portSetConnectionSignaling (.upstream d) enabled).1 h n := by
    intro h n hd hn
    rw [portSetConnectionSignaling]
    split
    · exact .refl t h n
    · exact .setPort_upstream rfl fun h' m hv hm => ht.no_other_link hd hn hv hm
  rcases ht.deviceGetAttachedHub d with ⟨hnone, hpeer⟩ | ⟨h, n, hsome, hv, hpeer, -⟩
  · refine .inl ⟨hpeer, fun h n => ?_⟩
    rw [Topology.deviceSetConnectionSignaling, hnone]
    exact hset (.inl hpeer) (.inl hpeer)
  · refine .inr ⟨h, n, hv, hpeer, ?_⟩
    have hlocal := hset (.inr hpeer) (.inr (valid_iff.1 hv).1)
    simp only [Topology.deviceSetConnectionSignaling, hsome]
    rcases hs : t.portSetConnectionSignaling (.upstream d) enabled with ⟨t₁, e | _⟩
    · rwa [hs] at hlocal
    · rw [hs] at hlocal
      exact hlocal.marked hv (ht.lt_of_valid hv) _

/-- Switching the power of a port changes that port; there is none beyond the last. -/
theorem Wired.local_hubSwitchPortPower (ht : t.Wired) (hn : 0 < n) (powered : Bool) :
    (t.hubSwitchPortPower h n powered).1 = t ∨
      t.hubPortIsValid h n = true ∧ Local t (t.hubSwitchPortPower h n powered).1 h n := by
  by_cases hv : t.hubPortIsValid h n = true
  · refine .inr ⟨hv, ?_⟩
    have hset : Local t (t.portSetPowered (.downstream h (n - 1)) powered).1 h n := by
      rw [portSetPowered]
      split
      · exact .refl t h n
      · exact .setPort_downstream hn rfl
    simp only [Topology.hubSwitchPortPower]
    rcases hs : t.portSetPowered (.downstream h (n - 1)) powered with ⟨t₁, e | _⟩
    · rwa [hs] at hset
    · rw [hs] at hset
      exact hset.marked hv (ht.lt_of_valid hv) _
  · have hrole : (t.port (.downstream h (n - 1))).role = .invalid := by
      refine ht.noPort h (n - 1) ?_
      rw [valid_iff] at hv
      omega
    exact .inl (by simp [Topology.hubSwitchPortPower, portSetPowered, hrole])

/-- With individual power switching, the power of a port changes that port. -/
theorem Wired.local_hubSetPortPower (ht : t.Wired)
    (hmode : (t.hubs h).powerSwitchingMode = .individual) (n : ℕ) (powered : Bool) :
    Local t (t.hubSetPortPower h n powered).1 h n := by
  rw [Topology.hubSetPortPower]
  rcases hget : t.hubGetPort h n with _ | p
  · exact .refl t h n
  · have hpos := (valid_iff.1 (valid_of_hubGetPort hget).1).1
    dsimp only
    rw [if_neg (by rw [hmode]; decide)]
    rcases ht.local_hubSwitchPortPower (h := h) hpos powered with heq | ⟨-, hl⟩
    · rw [heq]
      exact .refl t h n
    · exact hl

/-- An over-current condition changes its port only. -/
theorem local_hubSetPortOverCurrent (n : ℕ) (overCurrent : Bool) :
    Local t (t.hubSetPortOverCurrent h n overCurrent).1 h n := by
  rw [Topology.hubSetPortOverCurrent]
  split
  · exact .refl t h n
  rcases hget : t.hubGetPort h n with _ | p
  · exact .refl t h n
  obtain ⟨hv, rfl⟩ := valid_of_hubGetPort hget
  dsimp only
  rw [portSetOverCurrent]
  split
  · exact .refl t h n
  · exact .setPort_downstream (valid_iff.1 hv).1 rfl

/-- A write to the enable and suspend bits that agrees with the old ones at the other ports. -/
theorem local_setUsb_bits {enabled suspended : BitVec 32}
    (hsame : ∀ m, m ≠ n → Bitmap.test enabled m = Bitmap.test (t.hubs h).usb.enabled m ∧
      Bitmap.test suspended m = Bitmap.test (t.hubs h).usb.suspended m) :
    Local t (t.setUsb h { (t.hubs h).usb with enabled := enabled, suspended := suspended }) h n := by
  refine local_setUsb fun h' m hm => ?_
  rw [portState_setUsb_bits]
  split
  · rename_i heq
    subst heq
    obtain ⟨he, hs⟩ := hsame m fun hmn => hm ⟨rfl, hmn⟩
    rw [he, hs]
    rfl
  · rfl

/-- **What a request changes.**  It switches power, or it changes the port it addresses, or
it acknowledges the change of the hub. -/
theorem ControlEffect.changes {typeReq value : ℕ} (he : ControlEffect t h typeReq value n t')
    (ht : t.Wired) : t' = t ∨
      (t.hubPortIsValid h n = true ∧ ∃ powered, t' = (t.hubSetPortPower h n powered).1) ∨
      (t.hubPortIsValid h n = true ∧ Local t t' h n) ∨ t' = t.clearChange h 0 .overCurrent := by
  cases he with
  | none => exact .inl rfl
  | acknowledge kind _ _ hv => exact .inr (.inr (.inl ⟨hv, local_clearChange h n kind⟩))
  | acknowledgeHub => exact .inr (.inr (.inr rfl))
  | disable _ _ hv =>
      have hl : Local t _ h n := local_setUsb_bits fun m hm => ⟨Bitmap.test_clear_of_ne _ hm, rfl⟩
      exact .inr (.inr (.inl ⟨hv, hl⟩))
  | resume _ _ hv =>
      have hl : Local t _ h n := local_setUsb_bits fun m hm => ⟨rfl, Bitmap.test_clear_of_ne _ hm⟩
      exact .inr (.inr (.inl ⟨hv, hl⟩))
  | suspend _ _ hv =>
      have hl : Local t _ h n := local_setUsb_bits fun m hm => ⟨rfl, Bitmap.test_set_of_ne _ hm⟩
      exact .inr (.inr (.inl ⟨hv, hl⟩))
  | power powered hv => exact .inr (.inl ⟨hv, powered, rfl⟩)
  | reset _ _ hv => exact .inr (.inr (.inl ⟨hv, ht.local_hubResetPort h n⟩))

/-! ### Chains of changes -/

/-- A change of one port, or one that makes no change pending. -/
def Local₁ (t t' : Topology) : Prop :=
  ∃ h n, Local t t' h n ∧ (t.hubPortIsValid h n = true ∨
    ∀ kind, t'.isPending h n kind = true → t.isPending h n kind = true)

/-- A chain of changes of single ports. -/
abbrev Locals : Topology → Topology → Prop := Relation.ReflTransGen Local₁

/-- One change of a port of a hub is a chain. -/
theorem Local.locals (hl : Local t t' h n) (hv : t.hubPortIsValid h n = true) : Locals t t' :=
  .single ⟨h, n, hl, .inl hv⟩

/-- The loop over the ports is a chain, with one change for each port. -/
theorem Wired.locals_hubSwitchPortsPower (h : HcdId) (powered : Bool) :
    ∀ (count n : ℕ) {t : Topology}, t.Wired → 0 < n →
      Locals t (Topology.hubSwitchPortsPower h powered count n t).1
  | 0, _, _, _, _ => .refl
  | count + 1, n, t, ht, hn => by
      have hwired := (ht.hubSwitchPortPower h hn powered).wired
      have hstep : Locals t (t.hubSwitchPortPower h n powered).1 := by
        rcases ht.local_hubSwitchPortPower (h := h) hn powered with heq | ⟨hv, hl⟩
        · rw [heq]
        · exact hl.locals hv
      rw [Topology.hubSwitchPortsPower]
      rcases hs : t.hubSwitchPortPower h n powered with ⟨t₁, e | _⟩
      · rwa [hs] at hstep
      · rw [hs] at hstep hwired
        exact hstep.trans
          (Wired.locals_hubSwitchPortsPower h powered count (n + 1) hwired (by omega))

/-- Ganged or not, switching power is a chain. -/
theorem Wired.locals_hubSetPortPower (ht : t.Wired) (h : HcdId) (n : ℕ) (powered : Bool) :
    Locals t (t.hubSetPortPower h n powered).1 := by
  rw [Topology.hubSetPortPower]
  rcases hget : t.hubGetPort h n with _ | p
  · exact .refl
  have hpos := (valid_iff.1 (valid_of_hubGetPort hget).1).1
  dsimp only
  split
  · exact Wired.locals_hubSwitchPortsPower h powered _ 1 ht Nat.one_pos
  · rcases ht.local_hubSwitchPortPower (h := h) hpos powered with heq | ⟨hv, hl⟩
    · rw [heq]
    · exact hl.locals hv

/-- A request of the USB core is a chain. -/
theorem Wired.locals_hcdHubControl (ht : t.Wired) (h : HcdId) (typeReq value index : ℕ) :
    Locals t (t.hcdHubControl h typeReq value index).1 := by
  rcases (t.hcdHubControl_effect h typeReq value index).changes ht with
    heq | ⟨-, powered, heq⟩ | ⟨hv, hl⟩ | heq
  · rw [heq]
  · rw [heq]
    exact ht.locals_hubSetPortPower h _ powered
  · exact hl.locals hv
  · rw [heq]
    refine .single ⟨h, 0, local_clearChange h 0 .overCurrent, .inr fun kind hp => ?_⟩
    rw [isPending_clearChange] at hp
    exact (Bool.and_eq_true_iff.1 hp).1

/-- A detach is a chain, empty for a device that is not attached. -/
theorem Wired.locals_deviceDetach (ht : t.Wired) (d : DevicePtr) : Locals t (t.deviceDetach d) := by
  rcases ht.local_deviceDetach d with heq | ⟨h, n, hv, -, hl⟩
  · rw [heq]
  · exact hl.locals hv

/-- The signalling of a device is a chain, of one port if it is attached. -/
theorem Wired.locals_deviceSetConnectionSignaling (ht : t.Wired) (d : DevicePtr)
    (enabled : Bool) : Locals t (t.deviceSetConnectionSignaling d enabled).1 := by
  rcases ht.local_deviceSetConnectionSignaling d enabled with ⟨-, hl⟩ | ⟨h, n, hv, -, hl⟩
  · refine .single ⟨0, 0, hl 0 0, .inr fun kind hp => ?_⟩
    rwa [(hl 0 1).pending 0 0 kind (by simp)] at hp
  · exact hl.locals hv

end Topology

/-- An operation is a chain of changes of one port each, initialises the port of a new
device, or sets a field of a hub. -/
inductive Operation.Touches (w : World) : Operation → Topology → Prop
  | locals {op : Operation} {t' : Topology} : Topology.Locals w.topo t' → Touches w op t'
  | created {speed : Byte} {env : Env} {port : Port} :
      portInit .upstream speed (.device w.nextDevice) = .ok port →
        Touches w (.create speed env) (w.topo.setPort (.upstream w.nextDevice) port)
  | mode (h : HcdId) (power : HubPowerSwitchingMode) :
      Touches w (.setPowerSwitchingMode h power) (w.topo.hubSetPowerSwitchingMode h power)
  | overCurrentMode (h : HcdId) (mode : HubOverCurrentMode) :
      Touches w (.setOverCurrentMode h mode) (w.topo.hubSetOverCurrentMode h mode)
  | overCurrent (h : HcdId) (overCurrent : Bool) :
      Touches w (.setOverCurrent h overCurrent) (w.topo.hubSetOverCurrent h overCurrent)
  | callback (h : HcdId) (installed : Bool) : Touches w (.setStatusChangedCallback h installed)
      (w.topo.hubSetStatusChangedCallback h installed)

namespace World

variable {w : World}

/-- The destruction of a device is a chain. -/
theorem locals_deviceDestroy (ht : w.topo.Wired) (d : DevicePtr) (force : Bool) :
    Topology.Locals w.topo (w.deviceDestroy d force).1.topo := by
  rw [deviceDestroy]
  split
  · split
    · exact .refl
    have hsignal := ht.locals_deviceSetConnectionSignaling d false
    have hwired := (ht.deviceSetConnectionSignaling d false).wired
    rcases hs : w.topo.deviceSetConnectionSignaling d false with ⟨t, e | _⟩
    · rwa [hs] at hsignal
    · rw [hs] at hsignal hwired
      dsimp only
      rw [topo_of_bare (bare_objectUnregister { w with topo := t.deviceDetach d } d)]
      exact hsignal.trans (hwired.locals_deviceDetach d)
  · rw [topo_of_bare (w.bare_objectUnregister d)]

/-- **What an operation touches.** -/
theorem Sound.touches (hw : w.Sound) (op : Operation) : op.Touches w (w.operate op).1.topo := by
  have ht := hw.topo.wired
  cases op with
  | create speed env =>
      rw [World.operate]
      rcases w.deviceCreate_topo speed env with ⟨htopo, -⟩ | ⟨-, port, hport, htopo⟩
      · rw [htopo]
        exact .locals .refl
      · rw [htopo]
        exact .created hport
  | destroy d force => exact .locals (locals_deviceDestroy ht d force)
  | attach d h n =>
      rw [World.operate]
      rcases hget : w.topo.hubGetPort h n with _ | p
      · exact .locals .refl
      · have hv := (Topology.valid_of_hubGetPort hget).1
        exact .locals ((ht.local_deviceAttach hget).locals hv)
  | detach d => exact .locals (ht.locals_deviceDetach d)
  | connection d enabled => exact .locals (ht.locals_deviceSetConnectionSignaling d enabled)
  | setPortPower h n powered => exact .locals (ht.locals_hubSetPortPower h n powered)
  | setAllPortsPower h powered =>
      exact .locals (Topology.Wired.locals_hubSwitchPortsPower h powered _ 1 ht Nat.one_pos)
  | resetPort h n =>
      rw [World.operate, withTopo]
      rcases hr : (w.topo.hubResetPort h n).2 with e | _
      · rw [Topology.hubResetPort_error hr]
        exact .locals .refl
      · have hv := (Topology.hubResetPort_ok_iff.1 hr).1
        exact .locals ((ht.local_hubResetPort h n).locals hv)
  | hubControl h typeReq value index =>
      exact .locals (ht.locals_hcdHubControl h typeReq value index)
  | setPowerSwitchingMode h mode => exact .mode h mode
  | setOverCurrentMode h mode => exact .overCurrentMode h mode
  | setPortOverCurrent h n overCurrent =>
      have hl := Topology.local_hubSetPortOverCurrent (t := w.topo) (h := h) n overCurrent
      by_cases hv : w.topo.hubPortIsValid h n = true
      · exact .locals (hl.locals hv)
      · have heq : (w.topo.hubSetPortOverCurrent h n overCurrent).1 = w.topo := by
          simp [Topology.hubSetPortOverCurrent, Topology.hubGetPort, hv]
        rw [World.operate, withTopo, heq]
        exact .locals .refl
  | setOverCurrent h overCurrent => exact .overCurrent h overCurrent
  | setStatusChangedCallback h installed => exact .callback h installed

end World

end VirtUsb
