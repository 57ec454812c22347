/-
# Changes of the wiring are reported

A function that attaches, detaches, powers or signals changes the connection of
one port at most, compares it before and after, and marks a change
(`Topology.Rewires`).  Marking is what clears the protocol state of a port that
lost its connection.  A forced destroy and the switching of ganged power are chains
of such changes (`Topology.Rewired`).
-/

import VirtUsb.ControlPlane.Wiring
import Mathlib.Logic.Relation

namespace VirtUsb

namespace Topology

variable {t t' t'' t₁ : Topology} {h : HcdId} {n : ℕ} {d : DevicePtr}

/-- What one change of the wiring does to the panel.  Every connection that changed
is pending, a port that lost its connection lost its protocol state, and nothing
else happened to either. -/
structure Rewires (t t' : Topology) : Prop where
  wired : t'.Wired
  role : ∀ p, (t'.port p).role = (t.port p).role
  statusChanged : ∀ h, (t'.hubs h).statusChanged = (t.hubs h).statusChanged
  raises : Notify.Raises (fun h => (t.hubs h).statusChanged) t.board t'.board
  reported : ∀ h n, t'.hubPortIsConnected h n ≠ t.hubPortIsConnected h n →
    t'.isPending h n .connected = true
  state : ∀ h n, t'.portState h n =
    if t.hubPortIsConnected h n = true ∧ t'.hubPortIsConnected h n = false then {}
    else t.portState h n
  speed : ∀ h n, t.hubPortIsConnected h n = true → t'.hubPortIsConnected h n = true →
    t'.hubDeterminePortSpeed h n = t.hubDeterminePortSpeed h n

/-- A chain of changes of the wiring. -/
abbrev Rewired : Topology → Topology → Prop := Relation.ReflTransGen Rewires

/-! ### One port at most -/

/-- A change that leaves every connection as it was. -/
theorem Rewires.of_same (ht' : t'.Wired) (hp : SamePanel t t')
    (hrole : ∀ p, (t'.port p).role = (t.port p).role)
    (hsame : ∀ h n, t'.hubPortIsConnected h n = t.hubPortIsConnected h n)
    (hspeed : ∀ h n, t.hubPortIsConnected h n = true →
      t'.hubDeterminePortSpeed h n = t.hubDeterminePortSpeed h n) : Rewires t t' where
  wired := ht'
  role := hrole
  statusChanged := hp.statusChanged
  raises := by
    rw [board_congr hp.usbChange hp.notified]
    exact .refl _ _
  reported h n hne := absurd (hsame h n) hne
  state h n := by
    rw [portState_congr (hp.usb h) (hp.portCount h), hsame h n]
    cases t.hubPortIsConnected h n <;> simp
  speed h n hc _ := hspeed h n hc

/-- Without a change there is nothing to report. -/
theorem Rewires.refl (ht : t.Wired) : Rewires t t :=
  .of_same ht (.refl t) (fun _ => rfl) (fun _ _ => rfl) fun _ _ _ => rfl

/-- **A change of one port that is compared and marked.** -/
theorem Rewires.of_marked (ht₁ : t₁.Wired) (hp : SamePanel t t₁)
    (hrole : ∀ p, (t₁.port p).role = (t.port p).role)
    (hv : t.hubPortIsValid h n = true)
    (hsame : ∀ h' m, ¬ (h' = h ∧ m = n) →
      t₁.hubPortIsConnected h' m = t.hubPortIsConnected h' m ∧
        t₁.hubDeterminePortSpeed h' m = t.hubDeterminePortSpeed h' m)
    (hspeed : t.hubPortIsConnected h n = true → t₁.hubPortIsConnected h n = true →
      t₁.hubDeterminePortSpeed h n = t.hubDeterminePortSpeed h n) :
    Rewires t (if t.hubPortIsConnected h n ≠ t₁.hubPortIsConnected h n then
      t₁.hubMarkPortConnectionChange h n else t₁) := by
  have hspeed' : ∀ h' m, t.hubPortIsConnected h' m = true → t₁.hubPortIsConnected h' m = true →
      t₁.hubDeterminePortSpeed h' m = t.hubDeterminePortSpeed h' m := by
    intro h' m hc hc'
    by_cases hhm : h' = h ∧ m = n
    · obtain ⟨rfl, rfl⟩ := hhm
      exact hspeed hc hc'
    · exact (hsame h' m hhm).2
  by_cases hne : t.hubPortIsConnected h n = t₁.hubPortIsConnected h n
  · rw [if_neg (not_not.2 hne)]
    have hsame' : ∀ h' m, t₁.hubPortIsConnected h' m = t.hubPortIsConnected h' m := by
      intro h' m
      by_cases hhm : h' = h ∧ m = n
      · obtain ⟨rfl, rfl⟩ := hhm
        exact hne.symm
      · exact (hsame h' m hhm).1
    exact .of_same ht₁ hp hrole hsame' fun h' m hc => hspeed' h' m hc ((hsame' h' m).trans hc)
  · rw [if_pos hne]
    have hw := wiring_hubMarkPortConnectionChange (t := t₁) (h := h) n
    have hv₁ : t₁.hubPortIsValid h n = true := by
      rwa [hubPortIsValid, hp.portCount, ← hubPortIsValid]
    have hstatus : (fun h => (t₁.hubs h).statusChanged) = fun h => (t.hubs h).statusChanged :=
      funext hp.statusChanged
    obtain ⟨hraise, hpend⟩ := raises_hubMark hv₁ (ht₁.lt_of_valid hv₁)
    rw [board_congr hp.usbChange hp.notified, hstatus] at hraise
    constructor
    case wired => exact ht₁.of_wiring hw
    case role => exact fun p => (congrArg Port.role (port_congr hw p)).trans (hrole p)
    case statusChanged => exact fun h' => (statusChanged_congr hw h').trans (hp.statusChanged h')
    case raises => exact hraise
    case reported =>
      intro h' m hchanged
      rw [connected_congr hw] at hchanged
      by_cases hhm : h' = h ∧ m = n
      · obtain ⟨rfl, rfl⟩ := hhm
        exact hpend
      · exact absurd (hsame h' m hhm).1 hchanged
    case state =>
      intro h' m
      rw [portState_hubMark hv₁, connected_congr hw, portState_congr (hp.usb h') (hp.portCount h')]
      by_cases hhm : h' = h ∧ m = n
      · obtain ⟨rfl, rfl⟩ := hhm
        cases hc : t.hubPortIsConnected h' m <;> cases hc' : t₁.hubPortIsConnected h' m <;>
          simp_all
      · rw [(hsame h' m hhm).1]
        cases t.hubPortIsConnected h' m <;> simp [hhm]
    case speed =>
      intro h' m hc hc'
      rw [connected_congr hw] at hc'
      rw [determine_congr hw]
      exact hspeed' h' m hc hc'

/-! ### Attaching and detaching -/

/-- The connection of a port that none of the changed ports belongs to. -/
theorem Wired.same_of_ports (ht : t.Wired) (hp : SamePanel t t₁) {i : ℕ} {d : DevicePtr}
    (hports : ∀ r, r ≠ .downstream h i → r ≠ .upstream d → t₁.port r = t.port r)
    (hd : (t.upstream d).peer = none ∨ (t.upstream d).peer = some (.downstream h i))
    {h' : HcdId} {m : ℕ} (hhm : ¬ (h' = h ∧ m = i + 1)) :
    t₁.hubPortIsConnected h' m = t.hubPortIsConnected h' m ∧
      t₁.hubDeterminePortSpeed h' m = t.hubDeterminePortSpeed h' m := by
  refine connected_of_same (hp.portCount h') fun hv => ?_
  have hpos := (valid_iff.1 hv).1
  have hself : PortRef.downstream h' (m - 1) ≠ .downstream h i := by
    intro heq
    obtain ⟨rfl, hmi⟩ := PortRef.downstream.inj heq
    exact hhm ⟨rfl, by omega⟩
  refine ⟨hports _ hself (by simp), fun q hq => ?_⟩
  obtain ⟨d', rfl, -, -, hback⟩ := ht.downstream_peer hq
  refine hports _ (by simp) fun heq => ?_
  obtain rfl := PortRef.upstream.inj heq
  rcases hd with hnone | hsome
  · rw [hnone] at hback
    exact absurd hback (by simp)
  · exact hself (Option.some.inj (hback.symm.trans hsome))

/-- **`virtusb_device_attach` reports a connection it makes.** -/
theorem Wired.deviceAttach (ht : t.Wired) {p : PortRef} (hp : t.hubGetPort h n = some p) :
    Rewires t (t.deviceAttach d p).1 := by
  obtain ⟨hv, rfl⟩ := valid_of_hubGetPort hp
  obtain ⟨hpos, hle⟩ := valid_iff.1 hv
  have howner : (t.port (.downstream h (n - 1))).owner = some (.hub h) :=
    (ht.hubPort h (n - 1) (by omega)).2
  simp only [Topology.deviceAttach, howner, hubFindPortNumber_of_valid hv]
  rcases ha : t.portAttach (.downstream h (n - 1)) (.upstream d) with ⟨t₁, e | _⟩
  · have hsame : t₁ = t := by
      simp only [portAttach] at ha
      split_ifs at ha <;> simp_all
    rw [hsame]
    exact .refl ht
  · obtain ⟨-, -, hdown, hup, hpanel, hports⟩ := Topology.portAttach_ok ha
    have hother : ∀ r, r ≠ .downstream h (n - 1) → r ≠ .upstream d → t₁.port r = t.port r :=
      fun r hr hr' => by rw [hports, if_neg hr, if_neg hr']
    have hoff : t.hubPortIsConnected h n = false := not_connected_of_peer hdown
    refine .of_marked (ht.portAttach_ok ha) hpanel (fun r => by rw [hports]) hv
      (fun h' m hhm => ?_) fun hc _ => ?_
    · exact ht.same_of_ports hpanel hother (.inl hup) (by rwa [Nat.sub_add_cancel hpos])
    · rw [hoff] at hc
      exact absurd hc (by simp)

/-- **`virtusb_device_detach` reports a connection it ends.** -/
theorem Wired.deviceDetach (ht : t.Wired) (d : DevicePtr) : Rewires t (t.deviceDetach d) := by
  rcases ht.deviceGetAttachedHub d with ⟨hnone, hpeer⟩ | ⟨h, n, hsome, hv, hpeer, hback⟩
  · have hsame : t.portDetach (.upstream d) = t := by
      have hpeer' : (t.port (.upstream d)).peer = none := hpeer
      rw [Topology.portDetach, hpeer']
    rw [Topology.deviceDetach, hnone, hsame]
    exact .refl ht
  · obtain ⟨hpanel, hports⟩ := ht.portDetach (p := .upstream d) hpeer
    have hpos := (valid_iff.1 hv).1
    have hother : ∀ r, r ≠ .downstream h (n - 1) → r ≠ .upstream d →
        (t.portDetach (.upstream d)).port r = t.port r :=
      fun r hr hr' => by rw [hports, if_neg (not_or.2 ⟨hr', hr⟩)]
    have hoff : (t.portDetach (.upstream d)).hubPortIsConnected h n = false :=
      not_connected_of_peer (by rw [hports]; simp)
    have hrewires := Rewires.of_marked (ht.wired_portDetach (p := .upstream d) hpeer) hpanel
      (fun r => by rw [hports]) hv
      (fun h' m hhm => ht.same_of_ports hpanel hother (.inr hpeer)
        (by rwa [Nat.sub_add_cancel hpos]))
      fun _ hc => absurd (hoff.symm.trans hc) (by simp)
    rw [hoff] at hrewires
    simpa only [Topology.deviceDetach, hsome, ne_eq, Bool.not_eq_false] using hrewires

/-- **`virtusb_device_set_connection_signaling` reports a connection it makes or
ends.** -/
theorem Wired.deviceSetConnectionSignaling (ht : t.Wired) (d : DevicePtr) (enabled : Bool) :
    Rewires t (t.deviceSetConnectionSignaling d enabled).1 := by
  rcases hs : t.portSetConnectionSignaling (.upstream d) enabled with ⟨t₁, e | _⟩
  · have hsame : t₁ = t := by
      rw [portSetConnectionSignaling] at hs
      split_ifs at hs <;> simp_all
    have heq : (t.deviceSetConnectionSignaling d enabled).1 = t := by
      rw [Topology.deviceSetConnectionSignaling, hs, hsame]
      cases t.deviceGetAttachedHub d <;> rfl
    rw [heq]
    exact .refl ht
  · obtain ⟨-, hpanel, hself, hports⟩ := portSetConnectionSignaling_ok hs
    have hlinks : SameLinks t t₁ :=
      .of_port hpanel.portCount (by rw [hself]; exact ⟨rfl, rfl, rfl, rfl⟩) hports
    have ht₁ := hlinks.wired ht
    rcases ht.deviceGetAttachedHub d with ⟨hnone, hpeer⟩ | ⟨h, n, hsome, hv, hpeer, -⟩
    · have heq : (t.deviceSetConnectionSignaling d enabled).1 = t₁ := by
        rw [Topology.deviceSetConnectionSignaling, hnone, hs]
      have hsame : ∀ h' m, t₁.hubPortIsConnected h' m = t.hubPortIsConnected h' m := by
        intro h' m
        refine (connected_of_same (hpanel.portCount h') fun hv => ?_).1
        refine ⟨hports _ (by simp), fun q hq => hports q fun heq => ?_⟩
        obtain ⟨d', rfl, -, -, hback⟩ := ht.downstream_peer hq
        obtain rfl := PortRef.upstream.inj heq
        rw [hpeer] at hback
        exact absurd hback (by simp)
      rw [heq]
      exact .of_same ht₁ hpanel hlinks.role hsame fun h' m _ => hlinks.determine h' m
    · have hpos := (valid_iff.1 hv).1
      simp only [Topology.deviceSetConnectionSignaling, hsome, hs]
      refine .of_marked ht₁ hpanel hlinks.role hv (fun h' m hhm => ?_) fun _ _ => hlinks.determine h n
      exact ht.same_of_ports hpanel (fun r _ hr => hports r hr) (.inr hpeer)
        (by rwa [Nat.sub_add_cancel hpos])

/-! ### Power -/

/-- **Switching the power of one port reports the connection it makes or ends.** -/
theorem Wired.hubSwitchPortPower (ht : t.Wired) (h : HcdId) (hn : 0 < n) (powered : Bool) :
    Rewires t (t.hubSwitchPortPower h n powered).1 := by
  rcases hs : t.portSetPowered (.downstream h (n - 1)) powered with ⟨t₁, e | _⟩
  · have hsame : t₁ = t := by
      rw [portSetPowered] at hs
      split_ifs at hs <;> simp_all
    simp only [Topology.hubSwitchPortPower, hs, hsame]
    exact .refl ht
  · obtain ⟨hrole, hpanel, hself, hports⟩ := portSetPowered_ok hs
    have hv : t.hubPortIsValid h n = true := by
      refine valid_iff.2 ⟨hn, ?_⟩
      by_contra hle
      have hinvalid := ht.noPort h (n - 1) (by omega)
      exact absurd (hrole.symm.trans hinvalid) (by decide)
    have hlinks : SameLinks t t₁ :=
      .of_port hpanel.portCount (by rw [hself]; exact ⟨rfl, rfl, rfl, rfl⟩) hports
    simp only [Topology.hubSwitchPortPower, hs]
    refine .of_marked (hlinks.wired ht) hpanel hlinks.role hv (fun h' m hhm => ?_) fun _ _ =>
      hlinks.determine h n
    refine connected_of_same (hpanel.portCount h') fun hvm => ?_
    have hpos := (valid_iff.1 hvm).1
    refine ⟨hports _ fun heq => ?_, fun q hq => hports q fun heq => ?_⟩
    · obtain ⟨rfl, hmn⟩ := PortRef.downstream.inj heq
      exact hhm ⟨rfl, by omega⟩
    · obtain ⟨d', rfl, -⟩ := ht.downstream_peer hq
      exact absurd heq (by simp)

/-- Switching all ports, by induction on those that are left. -/
theorem Wired.hubSwitchPortsPower (h : HcdId) (powered : Bool) :
    ∀ (count n : ℕ) {t : Topology}, t.Wired → 0 < n →
      Rewired t (Topology.hubSwitchPortsPower h powered count n t).1
  | 0, _, _, _, _ => .refl
  | count + 1, n, t, ht, hn => by
      have hstep := ht.hubSwitchPortPower h hn powered
      rw [Topology.hubSwitchPortsPower]
      rcases hs : t.hubSwitchPortPower h n powered with ⟨t₁, e | _⟩
      · rw [hs] at hstep
        exact .single hstep
      · rw [hs] at hstep
        exact .head hstep (Wired.hubSwitchPortsPower h powered count (n + 1) hstep.wired (by omega))

/-- `virtusb_hub_set_all_ports_power` changes the wiring port by port. -/
theorem Wired.hubSetAllPortsPower (ht : t.Wired) (h : HcdId) (powered : Bool) :
    Rewired t (t.hubSetAllPortsPower h powered).1 :=
  Wired.hubSwitchPortsPower h powered _ 1 ht Nat.one_pos

/-- **Switching port power reports every connection it makes or ends**, also where
all ports are switched together. -/
theorem Wired.hubSetPortPower (ht : t.Wired) (h : HcdId) (n : ℕ) (powered : Bool) :
    Rewired t (t.hubSetPortPower h n powered).1 := by
  rw [Topology.hubSetPortPower]
  rcases hget : t.hubGetPort h n with _ | p
  · exact .refl
  · have hpos := (valid_iff.1 (valid_of_hubGetPort hget).1).1
    dsimp only
    split
    · exact ht.hubSetAllPortsPower h powered
    · exact .single (ht.hubSwitchPortPower h hpos powered)

/-- No change of the wiring changes the role of a port. -/
theorem Rewired.role (hr : Rewired t t') (p : PortRef) : (t'.port p).role = (t.port p).role := by
  induction hr with
  | refl => rfl
  | tail _ hstep ih => exact (hstep.role p).trans ih

/-! ### Over-current and the modes of a hub -/

/-- An update of a hub that leaves its ports as they were. -/
theorem links_setHub {x : Hub} (hports : x.ports = (t.hubs h).ports)
    (hcount : x.portCount = (t.hubs h).portCount) :
    SameLinks t (t.setHub h x) ∧
      ∀ h' m, (t.setHub h x).hubPortIsConnected h' m = t.hubPortIsConnected h' m := by
  have hport : (t.setHub h x).port = t.port := by
    funext p
    cases p with
    | upstream d => rfl
    | downstream h' i =>
        have hsame := congr_setHub Hub.ports hports h'
        exact congrFun hsame i
  have hlinks : SameLinks t (t.setHub h x) :=
    ⟨congr_setHub Hub.portCount hcount, fun p => by rw [hport], fun p => by rw [hport],
      fun p => by rw [hport], fun p => by rw [hport]⟩
  exact ⟨hlinks, hlinks.connected (fun p => by rw [hport]) fun p => by rw [hport]⟩

/-- A change of the mode or of the over-current state of a hub. -/
theorem Wired.setHub (ht : t.Wired) {x : Hub} (hports : x.ports = (t.hubs h).ports)
    (hcount : x.portCount = (t.hubs h).portCount) (husb : x.usb = (t.hubs h).usb)
    (hchange : x.usbChange = (t.hubs h).usbChange)
    (hstatus : x.statusChanged = (t.hubs h).statusChanged) : Rewires t (t.setHub h x) := by
  obtain ⟨hlinks, hconnected⟩ := links_setHub hports hcount
  have hpanel : SamePanel t (t.setHub h x) :=
    ⟨congr_setHub Hub.usb husb, congr_setHub Hub.usbChange hchange, hlinks.portCount,
      congr_setHub Hub.statusChanged hstatus, rfl⟩
  exact .of_same (hlinks.wired ht) hpanel hlinks.role hconnected fun h' m _ =>
    hlinks.determine h' m

/-- An over-current condition changes no connection. -/
theorem Wired.hubSetPortOverCurrent (ht : t.Wired) (h : HcdId) (n : ℕ) (overCurrent : Bool) :
    Rewires t (t.hubSetPortOverCurrent h n overCurrent).1 := by
  rw [Topology.hubSetPortOverCurrent]
  split
  · exact .refl ht
  rcases t.hubGetPort h n with _ | p
  · exact .refl ht
  dsimp only
  rcases hs : t.portSetOverCurrent p overCurrent with ⟨t₁, e | _⟩
  · have hsame : t₁ = t := by
      rw [portSetOverCurrent] at hs
      split_ifs at hs <;> simp_all
    rw [hsame]
    exact .refl ht
  · obtain ⟨hpanel, hself, hports⟩ := portSetOverCurrent_ok hs
    have hlinks : SameLinks t t₁ :=
      .of_port hpanel.portCount (by rw [hself]; exact ⟨rfl, rfl, rfl, rfl⟩) hports
    refine .of_same (hlinks.wired ht) hpanel hlinks.role (fun h' m => ?_)
      fun h' m _ => hlinks.determine h' m
    refine hlinks.connected (fun r => ?_) (fun r => ?_) h' m
    all_goals
      rcases eq_or_ne r p with rfl | hr
      · rw [hself]
      · rw [hports r hr]

end Topology

end VirtUsb
