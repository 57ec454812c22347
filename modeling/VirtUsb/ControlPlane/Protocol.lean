/-
# The protocol state of a port follows its connection

Enable and speed are kept in bitmaps, the connection is computed from the wiring.
`Topology.Sound` says how the two agree: an enabled port is connected and has a
speed, a speed is the one that the port and the attached device agree on, and no
reset is under way.  Rewiring keeps it because a lost connection clears the
protocol state; the requests of the USB core keep it because only a reset sets
either.
-/

import VirtUsb.ControlPlane.Rewires
import Mathlib.Order.Bounds.Basic

namespace VirtUsb

/-! ### Speeds and capability masks -/

namespace PortSpeed

/-- The speeds in their order, with none at the bottom. -/
def rank : PortSpeed → ℕ
  | none => 0
  | low => 1
  | full => 2
  | high => 3

/-- A higher speed is a greater one. -/
instance : LE PortSpeed := ⟨fun s s' => s.rank ≤ s'.rank⟩

/-- The bit of a speed in a capability mask. -/
def capability : PortSpeed → Byte
  | none => 0
  | low => portSpeedCapLow
  | full => portSpeedCapFull
  | high => portSpeedCapHigh

end PortSpeed

/-- The speeds that a capability mask names. -/
def speedsOf (mask : Byte) : Set PortSpeed := { speed | mask &&& speed.capability ≠ 0 }

/-- A speed that two masks share is one of both. -/
theorem mem_speedsOf_and {a b : Byte} {speed : PortSpeed} :
    (a &&& b) &&& speed.capability ≠ 0 ↔ speed ∈ speedsOf a ∩ speedsOf b := by
  have hbit : ∀ n, (a &&& b) &&& Bitmap.bit 8 n ≠ 0 ↔
      a &&& Bitmap.bit 8 n ≠ 0 ∧ b &&& Bitmap.bit 8 n ≠ 0 := by
    intro n
    have htest : Bitmap.test (a &&& b) n = (Bitmap.test a n && Bitmap.test b n) := by
      simp only [Bitmap.test_eq_getLsbD, BitVec.getLsbD_and]
    simpa [Bitmap.test] using congrArg (· = true) htest
  cases speed with
  | none => simp [speedsOf, PortSpeed.capability]
  | low => exact hbit 0
  | full => exact hbit 1
  | high => exact hbit 2

namespace Topology

variable {t t' : Topology} {h : HcdId} {n : ℕ}

/-- **The common speed is the highest one that both masks name.** -/
theorem commonSpeed_isGreatest {a b : Byte} (hs : commonSpeed a b ≠ .none) :
    IsGreatest (speedsOf a ∩ speedsOf b) (commonSpeed a b) := by
  have hnone : ∀ speed ∈ speedsOf a ∩ speedsOf b, speed ≠ .none := by
    rintro _ ⟨hmem, -⟩ rfl
    exact hmem (by simp [PortSpeed.capability])
  have hhigh := @mem_speedsOf_and a b .high
  have hfull := @mem_speedsOf_and a b .full
  have hlow := @mem_speedsOf_and a b .low
  simp only [PortSpeed.capability] at hhigh hfull hlow
  simp only [commonSpeed] at hs ⊢
  split_ifs at hs ⊢ with h₁ h₂ h₃
  · refine ⟨hhigh.1 h₁, fun speed _ => ?_⟩
    cases speed <;> decide
  · refine ⟨hfull.1 h₂, fun speed hmem => ?_⟩
    cases speed with
    | high => exact absurd (hhigh.2 hmem) h₁
    | _ => decide
  · refine ⟨hlow.1 h₃, fun speed hmem => ?_⟩
    cases speed with
    | high => exact absurd (hhigh.2 hmem) h₁
    | full => exact absurd (hfull.2 hmem) h₂
    | _ => decide
  · exact absurd rfl hs

/-- The speed that a connected port would get is the common speed of the port and
the device attached to it. -/
theorem Wired.determine_of_connected (ht : t.Wired) (hc : t.hubPortIsConnected h n = true) :
    ∃ d, (t.port (.downstream h (n - 1))).peer = some (.upstream d) ∧
      t.hubDeterminePortSpeed h n =
        commonSpeed (t.port (.downstream h (n - 1))).speed (t.upstream d).speed := by
  rcases hget : t.hubGetPort h n with _ | p
  · simp [hubPortIsConnected, hget] at hc
  obtain ⟨-, rfl⟩ := valid_of_hubGetPort hget
  rcases hpeer : (t.port (.downstream h (n - 1))).peer with _ | q
  · simp [hubPortIsConnected, hget, hpeer] at hc
  obtain ⟨d, rfl, -, hrole, -⟩ := ht.downstream_peer hpeer
  refine ⟨d, rfl, ?_⟩
  simp only [hubDeterminePortSpeed, hget, hpeer]
  exact if_neg (not_not.2 hrole)

/-! ### The invariant -/

/-- The protocol state of every port agrees with its connection. -/
structure Sound (t : Topology) : Prop where
  wired : t.Wired
  enabled : ∀ h n, (t.portState h n).enabled = true →
    t.hubPortIsConnected h n = true ∧ (t.portState h n).speed ≠ .none
  speed : ∀ h n, (t.portState h n).speed ≠ .none →
    t.hubPortIsConnected h n = true ∧ (t.portState h n).speed = t.hubDeterminePortSpeed h n
  reset : ∀ h n, (t.portState h n).reset = false

/-- The port is not enabled and has no speed. -/
def Fresh (t : Topology) (h : HcdId) (n : ℕ) : Prop :=
  (t.portState h n).enabled = false ∧ (t.portState h n).speed = .none

/-- A port that is not connected is fresh. -/
theorem Sound.fresh (ht : t.Sound) (hc : t.hubPortIsConnected h n = false) : t.Fresh h n := by
  constructor
  · by_contra hne
    have hon := (ht.enabled h n (Bool.eq_true_of_not_eq_false hne)).1
    exact absurd (hc.symm.trans hon) (by decide)
  · by_contra hne
    exact absurd (hc.symm.trans (ht.speed h n hne).1) (by decide)

/-- A change of the wiring enables no port. -/
theorem Rewires.fresh (hr : Rewires t t') (hf : t.Fresh h n) : t'.Fresh h n := by
  rw [Fresh, hr.state]
  split
  · exact ⟨rfl, rfl⟩
  · exact hf

/-- **A change of the wiring keeps the protocol state sound.** -/
theorem Rewires.sound (hr : Rewires t t') (ht : t.Sound) : t'.Sound := by
  have hkept : ∀ h n, (t'.portState h n).speed ≠ .none → t.hubPortIsConnected h n = true →
      t'.hubPortIsConnected h n = true := by
    intro h n hs hc
    by_contra hc'
    rw [hr.state h n, if_pos ⟨hc, Bool.eq_false_of_not_eq_true hc'⟩] at hs
    exact hs rfl
  have hspeed : ∀ h n, (t'.portState h n).speed ≠ .none → t'.hubPortIsConnected h n = true ∧
      (t'.portState h n).speed = t'.hubDeterminePortSpeed h n := by
    intro h n hs
    have hs₀ : (t.portState h n).speed ≠ .none := by
      intro hnone
      rw [hr.state h n] at hs
      split at hs
      · exact hs rfl
      · exact hs hnone
    obtain ⟨hc, heq⟩ := ht.speed h n hs₀
    have hc' := hkept h n hs hc
    refine ⟨hc', ?_⟩
    rw [hr.state h n, if_neg fun hh => absurd (hc'.symm.trans hh.2) (by decide), heq,
      hr.speed h n hc hc']
  refine ⟨hr.wired, fun h n he => ?_, hspeed, fun h n => ?_⟩
  · have hs : (t'.portState h n).speed ≠ .none := by
      rw [hr.state h n] at he ⊢
      split at he
      · exact absurd he (by decide)
      · rename_i hlost
        rw [if_neg hlost]
        exact (ht.enabled h n he).2
    exact ⟨(hspeed h n hs).1, hs⟩
  · rw [hr.state h n]
    split
    · rfl
    · exact ht.reset h n

/-- So does a chain of them. -/
theorem Rewired.sound (hr : Rewired t t') (ht : t.Sound) : t'.Sound := by
  induction hr with
  | refl => exact ht
  | tail _ hstep ih => exact hstep.sound ih

/-- And it enables no port. -/
theorem Rewired.fresh (hr : Rewired t t') (hf : t.Fresh h n) : t'.Fresh h n := by
  induction hr with
  | refl => exact hf
  | tail _ hstep ih => exact hstep.fresh ih

/-! ### Changes of the panel alone -/

/-- The wiring is the same, and every port has the protocol state it had, or one
that is no more than it had of enable, speed and reset. -/
structure Reduces (t t' : Topology) : Prop where
  wiring : t'.wiring = t.wiring
  enabled : ∀ h n, (t'.portState h n).enabled = true → (t.portState h n).enabled = true
  speed : ∀ h n, (t'.portState h n).speed = (t.portState h n).speed
  reset : ∀ h n, (t'.portState h n).reset = (t.portState h n).reset

/-- The same port states are no more than they were. -/
theorem Reduces.of_portState (hw : t'.wiring = t.wiring)
    (hs : ∀ h n, t'.portState h n = t.portState h n) : Reduces t t' :=
  ⟨hw, fun h n he => by rwa [hs h n] at he, fun h n => by rw [hs h n], fun h n => by rw [hs h n]⟩

/-- **Reducing the protocol state keeps it sound.** -/
theorem Reduces.sound (hr : Reduces t t') (ht : t.Sound) : t'.Sound where
  wired := ht.wired.of_wiring hr.wiring
  enabled h n he := by
    rw [connected_congr hr.wiring, hr.speed]
    exact ht.enabled h n (hr.enabled h n he)
  speed h n hs := by
    rw [hr.speed] at hs ⊢
    rw [connected_congr hr.wiring, determine_congr hr.wiring]
    exact ht.speed h n hs
  reset h n := (hr.reset h n).trans (ht.reset h n)

/-- Reducing the protocol state enables no port. -/
theorem Reduces.fresh (hr : Reduces t t') (hf : t.Fresh h n) : t'.Fresh h n := by
  refine ⟨?_, (hr.speed h n).trans hf.2⟩
  by_contra hne
  have hon := hr.enabled h n (Bool.eq_true_of_not_eq_false hne)
  exact absurd (hf.1.symm.trans hon) (by decide)

/-- An update of the enable and suspend bits of one port that does not enable it. -/
theorem Reduces.of_setUsb {enabled suspended : BitVec 32}
    (he : ∀ m, Bitmap.test enabled m = true → Bitmap.test (t.hubs h).usb.enabled m = true) :
    Reduces t (t.setUsb h { (t.hubs h).usb with enabled := enabled, suspended := suspended }) := by
  set x : HubPortUsbState := { (t.hubs h).usb with enabled := enabled, suspended := suspended }
    with hx
  have hw := wiring_setUsb (t := t) (h := h) x
  have hhub : ((t.setUsb h x).hubs h).usb = x := by rw [setUsb, hubs_setHub_self]
  have hother : ∀ h', h' ≠ h → ((t.setUsb h x).hubs h').usb = (t.hubs h').usb := fun h' hne => by
    rw [setUsb, hubs_setHub_of_ne _ hne]
  refine ⟨hw, fun h' m hon => ?_, fun h' m => ?_, fun h' m => ?_⟩
  · rcases eq_or_ne h' h with rfl | hne
    · simp only [portState, hhub] at hon ⊢
      exact he m hon
    · simpa only [portState, hother h' hne] using hon
  · simp only [portState, hubGetPortSpeed_eq, valid_congr hw]
    rcases eq_or_ne h' h with rfl | hne
    · rw [hhub]
    · rw [hother h' hne]
  · simp only [portState]
    rcases eq_or_ne h' h with rfl | hne
    · rw [hhub]
    · rw [hother h' hne]

/-- Pending changes are no protocol state. -/
theorem portState_setUsbChange (x : HubPortUsbChange) (h' : HcdId) (m : ℕ) :
    (t.setUsbChange h x).portState h' m = t.portState h' m := by
  refine portState_congr ?_ ?_ m
  all_goals
    rw [setUsbChange]
    rcases eq_or_ne h' h with rfl | hne
    · rw [hubs_setHub_self]
    · rw [hubs_setHub_of_ne _ hne]

/-- What a reset that succeeds found, and the protocol state it leaves. -/
theorem Wired.portState_hubResetPort (ht : t.Wired) (hr : (t.hubResetPort h n).2 = .ok ()) :
    t.hubPortIsConnected h n = true ∧ t.hubDeterminePortSpeed h n ≠ .none ∧
      ∀ h' m, (t.hubResetPort h n).1.portState h' m =
        if h' = h ∧ m = n then { enabled := true, speed := t.hubDeterminePortSpeed h n }
        else t.portState h' m := by
  have hv : t.hubPortIsValid h n = true := by
    by_contra hv
    rw [hubResetPort, if_pos (by simpa using hv)] at hr
    exact absurd hr (by simp)
  obtain ⟨-, hc, hs, x, heq, hx⟩ := hubResetPort_ok (ht.lt_of_valid hv) hr
  exact ⟨hc, hs, fun h' m => by rw [heq, portState_reportChange, hx]⟩

/-- **A reset keeps the state of all ports sound.** -/
theorem Sound.hubResetPort (ht : t.Sound) (h : HcdId) (n : ℕ) : (t.hubResetPort h n).1.Sound := by
  rcases hr : (t.hubResetPort h n).2 with e | _
  · rwa [hubResetPort_error hr]
  have hw := wiring_hubResetPort (t := t) (h := h) n
  obtain ⟨hc, hs, hstate⟩ := ht.wired.portState_hubResetPort hr
  constructor
  case wired => exact ht.wired.of_wiring hw
  case enabled =>
    intro h' m
    rw [hstate, connected_congr hw]
    split
    · rename_i hhm
      obtain ⟨rfl, rfl⟩ := hhm
      exact fun _ => ⟨hc, hs⟩
    · exact ht.enabled h' m
  case speed =>
    intro h' m
    rw [hstate, connected_congr hw, determine_congr hw]
    split
    · rename_i hhm
      obtain ⟨rfl, rfl⟩ := hhm
      exact fun _ => ⟨hc, rfl⟩
    · exact ht.speed h' m
  case reset =>
    intro h' m
    rw [hstate]
    split
    · rfl
    · exact ht.reset h' m

/-- A reset that is not a successful one of this port leaves it fresh. -/
theorem Sound.fresh_hubResetPort (ht : t.Sound) {h' : HcdId} {m : ℕ} (hf : t.Fresh h' m)
    (hno : ¬ (h' = h ∧ m = n ∧ (t.hubResetPort h n).2 = .ok ())) :
    (t.hubResetPort h n).1.Fresh h' m := by
  rcases hr : (t.hubResetPort h n).2 with e | _
  · rwa [hubResetPort_error hr]
  obtain ⟨-, -, hstate⟩ := ht.wired.portState_hubResetPort hr
  rw [Fresh, hstate, if_neg fun hhm => hno ⟨hhm.1, hhm.2, hr⟩]
  exact hf

/-! ### Requests of the USB core -/

/-- A hub-class request reduces what the panel shows, switches power, or resets its
port. -/
theorem ControlEffect.protocol {typeReq value : ℕ} (he : ControlEffect t h typeReq value n t')
    (ht : t.Wired) : Reduces t t' ∨ Rewired t t' ∨
      (typeReq = setPortFeature ∧ value = portFeatReset ∧ t' = (t.hubResetPort h n).1) := by
  cases he with
  | none => exact .inr (.inl .refl)
  | acknowledge kind =>
      exact .inl (.of_portState (wiring_setUsbChange _) (portState_setUsbChange _))
  | acknowledgeHub => exact .inl (.of_portState (wiring_setUsbChange _) (portState_setUsbChange _))
  | disable =>
      refine .inl (.of_setUsb fun m hon => ?_)
      rw [Bitmap.test_clear] at hon
      exact (Bool.and_eq_true_iff.1 hon).1
  | resume => exact .inl (.of_setUsb fun m hon => hon)
  | suspend => exact .inl (.of_setUsb fun m hon => hon)
  | power powered => exact .inr (.inl (ht.hubSetPortPower h n powered))
  | reset hreq hvalue => exact .inr (.inr ⟨hreq, hvalue, rfl⟩)

/-- **A request of the USB core keeps the protocol state sound.** -/
theorem ControlEffect.sound {typeReq value : ℕ} (he : ControlEffect t h typeReq value n t')
    (ht : t.Sound) : t'.Sound := by
  rcases he.protocol ht.wired with hr | hr | ⟨-, -, rfl⟩
  · exact hr.sound ht
  · exact hr.sound ht
  · exact ht.hubResetPort h n

/-- Only a reset that succeeds makes a fresh port come up. -/
theorem ControlEffect.fresh {typeReq value : ℕ} (he : ControlEffect t h typeReq value n t')
    (ht : t.Sound) {h' : HcdId} {m : ℕ} (hf : t.Fresh h' m)
    (hno : ¬ (h' = h ∧ m = n ∧ typeReq = setPortFeature ∧ value = portFeatReset ∧
      (t.hubResetPort h n).2 = .ok ())) : t'.Fresh h' m := by
  rcases he.protocol ht.wired with hr | hr | ⟨hreq, hvalue, rfl⟩
  · exact hr.fresh hf
  · exact hr.fresh hf
  · exact ht.fresh_hubResetPort hf fun hh => hno ⟨hh.1, hh.2.1, hreq, hvalue, hh.2.2⟩

end Topology

end VirtUsb
