/-
# Port reset

A reset either fails and changes nothing, or it enables the port at the highest speed that
the port and the device have in common, and changes nothing else of any port.  The speed
of a port is two bits of a word that it shares with fifteen other ports.

The ports of the hubs have all speeds and every device has one, so in a state that the
control plane can reach a connected port can always be reset.
-/

import VirtUsb.ControlPlane.Local

namespace VirtUsb

open Transition

namespace Topology

variable {t t' : Topology} {h : HcdId} {n : ℕ}

/-! ### The capabilities that two ports have in common -/

/-- Two masks of speeds agree on a speed exactly if they intersect. -/
theorem commonSpeed_ne_none {a b : Byte} (ha : a &&& ~~~portSpeedCapAll = 0) :
    commonSpeed a b ≠ .none ↔ a &&& b ≠ 0 := by
  have hbit : ∀ i, (a &&& b) &&& Bitmap.bit 8 i ≠ 0 ↔ (a &&& b).getLsbD i = true := by
    intro i
    rw [← Bitmap.test_eq_getLsbD]
    simp [Bitmap.test]
  have hhigh := hbit 2
  have hfull := hbit 1
  have hlow := hbit 0
  constructor
  · intro hs hzero
    simp only [commonSpeed, hzero] at hs
    exact hs (by decide)
  · intro hne hs
    refine hne (BitVec.eq_of_getLsbD_eq fun i hi => ?_)
    have hall : ∀ i < 8, (~~~portSpeedCapAll).getLsbD i = decide (3 ≤ i) := by decide
    have hout : a.getLsbD i = true → i < 3 := by
      intro hset
      have hzero : (a &&& ~~~portSpeedCapAll).getLsbD i = false := by
        rw [ha]
        exact BitVec.getLsbD_zero
      rw [BitVec.getLsbD_and, hset, hall i hi] at hzero
      simpa using hzero
    simp only [commonSpeed] at hs
    split_ifs at hs with h₁ h₂ h₃
    by_contra hset
    have hset : (a &&& b).getLsbD i = true := by simpa using hset
    have hlt : i < 3 := by
      rw [BitVec.getLsbD_and, Bool.and_eq_true] at hset
      exact hout hset.1
    obtain rfl | rfl | rfl : i = 0 ∨ i = 1 ∨ i = 2 := by omega
    · exact h₃ (hlow.2 hset)
    · exact h₂ (hfull.2 hset)
    · exact h₁ (hhigh.2 hset)

/-- A connected port and the port that it is linked to. -/
theorem exists_peer_of_connected (hc : t.hubPortIsConnected h n = true) :
    ∃ q, (t.port (.downstream h (n - 1))).peer = some q ∧
      t.hubDeterminePortSpeed h n =
        commonSpeed (t.port (.downstream h (n - 1))).speed (t.port q).speed := by
  rcases hget : t.hubGetPort h n with _ | p
  · simp [hubPortIsConnected, hget] at hc
  obtain ⟨-, rfl⟩ := valid_of_hubGetPort hget
  rcases hpeer : (t.port (.downstream h (n - 1))).peer with _ | q
  · simp [hubPortIsConnected, hget, hpeer] at hc
  refine ⟨q, rfl, ?_⟩
  simp only [hubPortIsConnected, hget, hpeer] at hc
  simp only [hubDeterminePortSpeed, hget, hpeer]
  split at hc
  · exact absurd hc (by decide)
  · rename_i hrole
    rw [if_neg hrole]

/-! ### What a reset does -/

/-- A reset is exact: it succeeds if the two ports have a speed in common, fails without a
trace if not, and touches one port. -/
structure ResetExact (t : Topology) (h : HcdId) (n : ℕ) : Prop where
  ok_iff : (t.hubResetPort h n).2 = .ok () ↔
    t.hubPortIsValid h n = true ∧ t.hubPortIsConnected h n = true ∧
      ∃ q, (t.port (.downstream h (n - 1))).peer = some q ∧
        (t.port (.downstream h (n - 1))).speed &&& (t.port q).speed ≠ 0
  error : ∀ e, (t.hubResetPort h n).2 = .error e → (t.hubResetPort h n).1 = t
  state : (t.hubResetPort h n).2 = .ok () →
    ((t.hubResetPort h n).1.portState h n).enabled = true ∧
      ((t.hubResetPort h n).1.portState h n).suspended = false ∧
      ((t.hubResetPort h n).1.portState h n).reset = false
  speed : (t.hubResetPort h n).2 = .ok () →
    ∃ q, (t.port (.downstream h (n - 1))).peer = some q ∧
      IsGreatest (speedsOf (t.port (.downstream h (n - 1))).speed ∩ speedsOf (t.port q).speed)
        ((t.hubResetPort h n).1.hubGetPortSpeed h n)
  reported : (t.hubResetPort h n).2 = .ok () → (t.hubResetPort h n).1.isPending h n .reset = true
  called : (t.hubResetPort h n).2 = .ok () → (t.hubResetPort h n).1.notified =
    if (t.hubs h).statusChanged && !t.isPending h n .reset then t.notified ++ [h] else t.notified
  pending : ∀ h' m kind, ¬ (h' = h ∧ m = n ∧ kind = .reset) →
    (t.hubResetPort h n).1.isPending h' m kind = t.isPending h' m kind
  bits : ∀ h' m, ¬ (h' = h ∧ m = n) →
    Bitmap.test ((t.hubResetPort h n).1.hubs h').usb.enabled m =
        Bitmap.test (t.hubs h').usb.enabled m ∧
      Bitmap.test ((t.hubResetPort h n).1.hubs h').usb.suspended m =
        Bitmap.test (t.hubs h').usb.suspended m ∧
      Bitmap.test ((t.hubResetPort h n).1.hubs h').usb.reset m =
        Bitmap.test (t.hubs h').usb.reset m ∧
      Bitmap.packedGet ((t.hubResetPort h n).1.hubs h').usb.speed portSpeedBits m =
        Bitmap.packedGet (t.hubs h').usb.speed portSpeedBits m
  wiring : (t.hubResetPort h n).1.wiring = t.wiring

/-- A report leaves the protocol bits as they are. -/
theorem usb_reportChange (n : ℕ) (kind : ChangeKind) (h' : HcdId) :
    ((t.reportChange h n kind).hubs h').usb = (t.hubs h').usb := by
  simp only [reportChange]
  split
  · rfl
  · rw [hubs_hubNotifyStatusChanged, setUsbChange]
    refine congr_setHub (t := t) (h := h) Hub.usb ?_ h'
    rfl

/-- A report calls the callback if there is one and the change is new. -/
theorem notified_reportChange (n : ℕ) (kind : ChangeKind) :
    (t.reportChange h n kind).notified =
      if (t.hubs h).statusChanged && !t.isPending h n kind then t.notified ++ [h]
      else t.notified := by
  simp only [reportChange]
  split
  · rename_i hp
    simp [hp]
  · rename_i hp
    rw [hubNotifyStatusChanged, setUsbChange, hubs_setHub_self]
    have hoff : t.isPending h n kind = false := by simpa using hp
    simp only [hoff, Bool.not_false, Bool.and_true]
    split <;> rfl

/-- **A reset is exact**, whatever the hub shows. -/
theorem reset_exact (hcount : (t.hubs h).portCount ≤ maxHubPorts)
    (hmasks : ∀ p, (t.port p).speed &&& ~~~portSpeedCapAll = 0) : ResetExact t h n := by
  have hiff : (t.hubResetPort h n).2 = .ok () ↔
      t.hubPortIsValid h n = true ∧ t.hubPortIsConnected h n = true ∧
        ∃ q, (t.port (.downstream h (n - 1))).peer = some q ∧
          (t.port (.downstream h (n - 1))).speed &&& (t.port q).speed ≠ 0 := by
    rw [hubResetPort_ok_iff]
    refine and_congr_right fun hv => and_congr_right fun hc => ?_
    obtain ⟨q, hq, hspeed⟩ := exists_peer_of_connected hc
    rw [hspeed, commonSpeed_ne_none (hmasks _)]
    constructor
    · exact fun hne => ⟨q, hq, hne⟩
    · rintro ⟨q', hq', hne⟩
      obtain rfl := Option.some.inj (hq.symm.trans hq')
      exact hne
  rcases hr : (t.hubResetPort h n).2 with e | _
  · have hsame := hubResetPort_error hr
    refine ⟨hiff, fun _ _ => hsame, ?_, ?_, ?_, ?_, fun h' m kind _ => by rw [hsame],
      fun h' m _ => by rw [hsame]; exact ⟨rfl, rfl, rfl, rfl⟩, wiring_hubResetPort n⟩
    all_goals
      intro hok
      rw [hr] at hok
      exact absurd hok (by simp)
  obtain ⟨hv, hc, hs⟩ := hubResetPort_ok_iff.1 hr
  have hn : n < 32 := Nat.lt_succ_of_le ((valid_iff.1 hv).2.trans hcount)
  obtain ⟨-, -, -, x, heq, hstate⟩ := hubResetPort_ok hn hr
  have hself : (t.hubResetPort h n).1.portState h n =
      { enabled := true, speed := t.hubDeterminePortSpeed h n } := by
    rw [heq, portState_reportChange, hstate, if_pos ⟨rfl, rfl⟩]
  obtain ⟨q, hq, hspeed⟩ := exists_peer_of_connected hc
  have hraw := congrArg Prod.fst (hubResetPort_eq hv hc hs)
  have hpend : ∀ h' m kind, (t.setUsb h x).isPending h' m kind = t.isPending h' m kind :=
    fun h' m kind => isPending_setUsb x h' m kind
  refine ⟨hiff, fun e he => absurd (hr.symm.trans he) (by simp), fun _ => ?_, fun _ => ?_,
    fun _ => ?_, fun _ => ?_, fun h' m kind hm => ?_, fun h' m hm => ?_, wiring_hubResetPort n⟩
  · rw [hself]
    exact ⟨rfl, rfl, rfl⟩
  · refine ⟨q, hq, ?_⟩
    have hgot : (t.hubResetPort h n).1.hubGetPortSpeed h n = t.hubDeterminePortSpeed h n :=
      congrArg PortState.speed hself
    rw [hgot, hspeed]
    exact commonSpeed_isGreatest (hspeed ▸ hs)
  · rw [heq, isPending_reportChange hn]
    simp
  · rw [heq, notified_reportChange, hpend, setUsb, hubs_setHub_self]
    rfl
  · rw [heq, isPending_reportChange hn, hpend]
    simp [hm]
  · rw [hraw, usb_reportChange]
    by_cases hh : h' = h
    · subst hh
      have hmn : m ≠ n := fun hmn => hm ⟨rfl, hmn⟩
      rw [setUsb, hubs_setHub_self]
      exact ⟨by rw [Bitmap.test_set_of_ne _ hmn, Bitmap.test_clear_of_ne _ hmn],
        Bitmap.test_clear_of_ne _ hmn,
        by rw [Bitmap.test_clear_of_ne _ hmn, Bitmap.test_set_of_ne _ hmn],
        Bitmap.packedGet_packedSet_of_ne (by decide) (by decide) _ hmn _⟩
    · rw [setUsb, hubs_setHub_of_ne _ hh]
      exact ⟨rfl, rfl, rfl, rfl⟩

end Topology

/-! ### Capabilities never change -/

/-- A port of a hub has all speeds, and one of a device has at least one. -/
def Port.Capable (x : Port) : Prop :=
  (x.role = .downstream → x.speed = portSpeedCapAll) ∧
    (x.role = .upstream → portSpeedIsValid x.speed = true)

/-- The capabilities of a port belong to its identity. -/
theorem Port.capable_congr {x y : Port} (hx : x.identity = y.identity) (hy : y.Capable) :
    x.Capable := by
  simp only [identity, Prod.mk.injEq] at hx
  obtain ⟨hrole, -, hspeed⟩ := hx
  rwa [Capable, hrole, hspeed]

/-- A port that was never initialised has nothing to be capable of. -/
theorem Port.capable_of_invalid {x : Port} (hx : x.role = .invalid) : x.Capable := by
  rw [Capable, hx]
  exact ⟨fun hdown => absurd hdown (by simp), fun hup => absurd hup (by simp)⟩

namespace Topology

variable {t t' : Topology} {h : HcdId} {n : ℕ}

/-- Every port has the capabilities it was initialised with. -/
def Capable (t : Topology) : Prop := ∀ p, (t.port p).Capable

/-- No change of a port changes what it is capable of. -/
theorem Locals.capable (hl : Locals t t') (ht : t.Capable) : t'.Capable := by
  induction hl with
  | refl => exact ht
  | tail _ hstep ih =>
      obtain ⟨h, n, hl, -⟩ := hstep
      exact fun p => Port.capable_congr (hl.identity p) (ih p)

/-- An update of a hub that leaves its ports. -/
theorem Capable.setHub (ht : t.Capable) {x : Hub} (hports : x.ports = (t.hubs h).ports)
    (hcount : x.portCount = (t.hubs h).portCount) : (t.setHub h x).Capable := by
  obtain ⟨hlinks, -⟩ := links_setHub hports hcount
  intro p
  refine Port.capable_congr ?_ (ht p)
  rw [Port.identity, Port.identity, hlinks.role, hlinks.owner, hlinks.speed]

/-- **A connected port of capable ports can be reset.** -/
theorem Capable.hubResetPort (ht : t.Capable) (hw : t.Wired)
    (hc : t.hubPortIsConnected h n = true) : (t.hubResetPort h n).2 = .ok () := by
  have hv : t.hubPortIsValid h n = true := by
    rcases hget : t.hubGetPort h n with _ | p
    · simp [hubPortIsConnected, hget] at hc
    · exact (valid_of_hubGetPort hget).1
  refine hubResetPort_ok_iff.2 ⟨hv, hc, ?_⟩
  obtain ⟨d, hpeer, hspeed⟩ := hw.determine_of_connected hc
  obtain ⟨d', hd', hlt, hrole, -⟩ := hw.downstream_peer hpeer
  obtain rfl := PortRef.upstream.inj hd'
  have hdown : (t.port (.downstream h (n - 1))).speed = portSpeedCapAll :=
    (ht _).1 (hw.hubPort h (n - 1) hlt).1
  have hup : portSpeedIsValid (t.upstream d).speed = true := (ht (.upstream d)).2 hrole
  rw [hspeed, hdown, commonSpeed_ne_none (by decide)]
  have hall : ∀ speed : Byte, portSpeedIsValid speed = true → portSpeedCapAll &&& speed ≠ 0 := by
    decide
  exact hall _ hup

end Topology

namespace World

/-- Nor does any operation. -/
theorem capable_of_touches {w : World} {op : Operation} {t' : Topology} (ho : op.Touches w t')
    (hw : w.topo.Capable) : t'.Capable := by
  cases ho with
  | locals hl => exact hl.capable hw
  | @created speed env port hport =>
      intro p
      rcases eq_or_ne p (.upstream w.nextDevice) with rfl | hne
      · rw [Topology.port_setPort_self]
        rw [portInit] at hport
        split_ifs at hport with hrole hspeed
        obtain rfl := Except.ok.inj hport
        exact ⟨fun hdown => absurd hdown (by simp), fun _ => by simpa using hspeed⟩
      · rw [Topology.port_setPort_of_ne _ _ hne]
        exact hw p
  | mode h power => exact hw.setHub rfl rfl
  | overCurrentMode h mode => exact hw.setHub rfl rfl
  | overCurrent h overCurrent =>
      rw [Topology.hubSetOverCurrent]
      split
      · exact hw
      · exact hw.setHub rfl rfl
  | callback h installed => exact hw.setHub rfl rfl

/-- The ports of an initialised module are capable. -/
theorem Initialised.capable {w : World} (hw : w.Initialised) : w.topo.Capable := by
  obtain ⟨hubs, hhubs, rfl⟩ := hw
  intro p
  cases p with
  | upstream d => exact Port.capable_of_invalid rfl
  | downstream h i =>
      have hports : (hubs h).ports i = if i < (hubs h).portCount then
          { role := .downstream, owner := some (.hub h), speed := portSpeedCapAll } else {} :=
        congrFun (hub_of_initialised (hhubs h)).2.2.2 i
      change ((hubs h).ports i).Capable
      rw [hports]
      split
      · exact ⟨fun _ => rfl, fun hup => absurd hup (by simp)⟩
      · exact Port.capable_of_invalid rfl

/-- **So they are in every reachable state.** -/
theorem capable_of_reachable {w : World} (hw : operations.Reachable w) : w.topo.Capable := by
  refine (Machine.Reachable.invariant (I := fun w => w.Sound ∧ w.topo.Capable)
    (fun _ h => ⟨Initialised.sound h, Initialised.capable h⟩) ?_ hw).2
  rintro v op v' ⟨hs, hc⟩ hstep
  obtain rfl : (v.operate op).1 = v' := Option.some.inj hstep
  exact ⟨hs.step op, capable_of_touches (hs.touches op) hc⟩

end World

/-- **Port reset is correct and atomic**, for every hub; and in every state that the control
plane reaches, a connected port can be reset. -/
theorem port_reset_correct :
    (∀ (t : Topology) (h : HcdId) (n : ℕ), (t.hubs h).portCount ≤ maxHubPorts →
      (∀ p, (t.port p).speed &&& ~~~portSpeedCapAll = 0) → t.ResetExact h n) ∧
    ∀ w, operations.Reachable w → ∀ h n, w.topo.hubPortIsConnected h n = true →
      (w.topo.hubResetPort h n).2 = .ok () := by
  refine ⟨fun t h n hcount hmasks => Topology.reset_exact hcount hmasks, fun w hw h n hc => ?_⟩
  exact (World.capable_of_reachable hw).hubResetPort (World.sound_of_reachable hw).topo.wired hc

/-- A device that has low and full speed is plugged in; a reset gives it full speed. -/
theorem port_reset_correct_example : ∃ w, operations.Reachable w ∧
    (w.topo.hubResetPort 0 1).2 = .ok () ∧
    (w.topo.hubResetPort 0 1).1.hubGetPortSpeed 0 1 = .full ∧
    (w.topo.hubResetPort 0 2).2 = .error .ENODEV := by
  obtain ⟨w, hw, hp⟩ := exists_reachable_of_exec (I := World.Initialised)
    (f := fun w op => some (World.operate w op).1) (s := World.oneHub)
    (l := [.create 3 {}, .connection 0 true, .setPortPower 0 1 true, .attach 0 0 1])
    (p := fun w => decide (w.topo.hubPortIsConnected 0 1 = true ∧
      (w.topo.hubResetPort 0 1).1.hubGetPortSpeed 0 1 = .full ∧
      (match (w.topo.hubResetPort 0 2).2 with | .error .ENODEV => true | _ => false) = true))
    World.oneHub_initialised (by decide)
  obtain ⟨hc, hfull, herror⟩ := of_decide_eq_true hp
  refine ⟨w, hw, port_reset_correct.2 w hw 0 1 hc, hfull, ?_⟩
  split at herror
  · assumption
  · exact absurd herror (by decide)

end VirtUsb
