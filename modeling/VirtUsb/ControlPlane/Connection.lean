/-
# Protocol state never outlives a connection

Every reachable state is sound, so enable and speed imply a connection.  A port that
is not connected is fresh, nothing but a successful reset ends that, and so a device
that is plugged into a port inherits nothing from the one before it.
-/

import VirtUsb.ControlPlane.Operations

namespace VirtUsb

open Transition

namespace Topology

variable {t : Topology} {h : HcdId} {n : ℕ}

/-- A connected port is powered. -/
theorem powered_of_connected (hc : t.hubPortIsConnected h n = true) :
    t.hubPortIsPowered h n = true := by
  rcases hget : t.hubGetPort h n with _ | p
  · simp [hubPortIsConnected, hget] at hc
  rcases hpeer : (t.port p).peer with _ | q
  · simp [hubPortIsConnected, hget, hpeer] at hc
  · by_contra hoff
    have hdown : (t.port p).downstream.powered = false := by
      simpa [hubPortIsPowered, hget] using hoff
    simp [hubPortIsConnected, hget, hpeer, hdown] at hc

/-- The speed of a port, if it has one, is the greatest that both ends of the wire can do. -/
theorem Sound.speed_isGreatest (ht : t.Sound) (hs : (t.portState h n).speed ≠ .none) :
    ∃ d, (t.port (.downstream h (n - 1))).peer = some (.upstream d) ∧
      IsGreatest (speedsOf (t.port (.downstream h (n - 1))).speed ∩ speedsOf (t.upstream d).speed)
        (t.portState h n).speed := by
  obtain ⟨hc, heq⟩ := ht.speed h n hs
  obtain ⟨d, hpeer, hcommon⟩ := ht.wired.determine_of_connected hc
  refine ⟨d, hpeer, ?_⟩
  rw [heq, hcommon] at hs ⊢
  exact commonSpeed_isGreatest hs

/-- A port that is not connected cannot be reset. -/
theorem hubResetPort_of_not_connected (hc : t.hubPortIsConnected h n = false) :
    (t.hubResetPort h n).2 ≠ .ok () := by
  rw [hubResetPort]
  split
  · simp
  · rw [if_pos (by simpa using hc)]
    simp

end Topology

/-- The operation resets the port, and succeeds. -/
def Operation.resets (op : Operation) (w : World) (h : HcdId) (n : ℕ) : Bool :=
  (match op with
    | .resetPort h' n' => h' = h && n' = n
    | .hubControl h' typeReq value index =>
        h' = h && typeReq = setPortFeature && value = portFeatReset && index % 256 = n
    | _ => false) && (w.topo.hubResetPort h n).2.isOk

/-- No operation resets a port that is not connected. -/
theorem Operation.resets_of_not_connected {w : World} {h : HcdId} {n : ℕ}
    (hc : w.topo.hubPortIsConnected h n = false) (op : Operation) : op.resets w h n = false := by
  have herror := Topology.hubResetPort_of_not_connected hc
  rcases hreset : (w.topo.hubResetPort h n).2 with e | _
  · simp [Operation.resets, hreset, Except.isOk, Except.toBool]
  · exact absurd hreset herror

/-- **Only a successful reset ends that a port is fresh.** -/
theorem World.Sound.fresh {w : World} (hw : w.Sound) {op : Operation} {h : HcdId} {n : ℕ}
    (hf : w.topo.Fresh h n) (hno : op.resets w h n = false) :
    (w.operate op).1.topo.Fresh h n := by
  have ht := hw.topo
  have hok : (w.topo.hubResetPort h n).2 = .ok () → (w.topo.hubResetPort h n).2.isOk = true :=
    fun hr => by rw [hr]; rfl
  have he := hw.operate op
  generalize (w.operate op).1.topo = t' at he ⊢
  cases he with
  | rewired hr => exact hr.fresh hf
  | created _ _ hu => exact hu.fresh hf
  | callback h' installed => exact (ht.wired.unseen_callback h' installed).fresh hf
  | reset h' n' =>
      refine ht.fresh_hubResetPort hf ?_
      rintro ⟨rfl, rfl, hr⟩
      simp [Operation.resets, hok hr] at hno
  | request h' typeReq value index he =>
      refine he.fresh ht hf ?_
      rintro ⟨rfl, rfl, rfl, rfl, hr⟩
      simp [Operation.resets, hok hr] at hno

/-- **Protocol state never outlives the connection.**  In every reachable state an
enabled port is connected and powered and has a speed; a speed is the highest one
that the port and the device attached to it now both have; no reset is under way;
and a port that an operation connects is neither enabled nor given a speed before it
is reset. -/
theorem port_state_follows_connection {w : World} (hw : operations.Reachable w) (h : HcdId)
    (n : ℕ) :
    ((w.topo.portState h n).enabled = true → w.topo.hubPortIsConnected h n = true ∧
      w.topo.hubPortIsPowered h n = true ∧ (w.topo.portState h n).speed ≠ .none) ∧
    ((w.topo.portState h n).speed ≠ .none → w.topo.hubPortIsConnected h n = true ∧
      ∃ d, (w.topo.port (.downstream h (n - 1))).peer = some (.upstream d) ∧
        IsGreatest
          (speedsOf (w.topo.port (.downstream h (n - 1))).speed ∩ speedsOf (w.topo.upstream d).speed)
          (w.topo.portState h n).speed) ∧
    (w.topo.portState h n).reset = false ∧
    ∀ op, w.topo.hubPortIsConnected h n = false →
      (w.operate op).1.topo.hubPortIsConnected h n = true →
        ∀ k w', Run operations (w.operate op).1 k w' →
          (∀ x ∈ k, x.2.resets x.1 h n = false) →
            (w'.topo.portState h n).enabled = false ∧ (w'.topo.portState h n).speed = .none := by
  have hs := World.sound_of_reachable hw
  refine ⟨fun he => ?_, fun hspeed => ?_, hs.topo.reset h n, fun op hoff _ k w' hr hno => ?_⟩
  · obtain ⟨hc, hspeed⟩ := hs.topo.enabled h n he
    exact ⟨hc, Topology.powered_of_connected hc, hspeed⟩
  · exact ⟨(hs.topo.speed h n hspeed).1, hs.topo.speed_isGreatest hspeed⟩
  · have hop := op.resets_of_not_connected hoff
    have hfresh := hs.fresh (hs.topo.fresh hoff) hop
    refine (hr.invariant_where (I := fun v => v.Sound ∧ v.topo.Fresh h n)
      (C := fun v op => op.resets v h n = false) ?_ ⟨hs.step op, hfresh⟩ hno).2
    rintro v op' v' ⟨hv, hf⟩ hno' hstep
    obtain rfl : (v.operate op').1 = v' := Option.some.inj hstep
    exact ⟨hv.step op', hv.fresh hf hno'⟩

/-- A port that was connected and reset: it is enabled at high speed, and so it is
connected.  The device is then unplugged, another one is plugged into the port, and
the port has no speed. -/
theorem port_state_follows_connection_example : ∃ w w', operations.Reachable w ∧
    (w.topo.portState 0 1).enabled = true ∧ w.topo.hubPortIsConnected 0 1 = true ∧
    operations.Reachable w' ∧ w'.topo.hubPortIsConnected 0 1 = false ∧
    ((w'.operate (.attach 1 0 1)).1.topo.portState 0 1).speed = .none := by
  obtain ⟨w, hw, he⟩ := exists_reachable_of_exec (I := World.Initialised)
    (f := fun w op => some (World.operate w op).1) (s := World.oneHub)
    (l := [.create 7 {}, .connection 0 true, .attach 0 0 1, .setPortPower 0 1 true,
      .resetPort 0 1])
    (p := fun w => (w.topo.portState 0 1).enabled) World.oneHub_initialised (by decide)
  obtain ⟨w', hw', hoff⟩ := exists_reachable_of_exec (I := World.Initialised)
    (f := fun w op => some (World.operate w op).1) (s := World.oneHub)
    (l := [.create 7 {}, .connection 0 true, .attach 0 0 1, .setPortPower 0 1 true,
      .resetPort 0 1, .create 7 {}, .connection 1 true, .detach 0])
    (p := fun w => !w.topo.hubPortIsConnected 0 1 &&
      (w.operate (.attach 1 0 1)).1.topo.hubPortIsConnected 0 1)
    World.oneHub_initialised (by decide)
  obtain ⟨hoff, hon⟩ := Bool.and_eq_true_iff.1 hoff
  have hoff : w'.topo.hubPortIsConnected 0 1 = false := by simpa using hoff
  have hfresh := (port_state_follows_connection hw' 0 1).2.2.2 (.attach 1 0 1) hoff hon [] _ .nil
    (by simp)
  exact ⟨w, w', hw, he, ((port_state_follows_connection hw 0 1).1 he).1, hw', hoff, hfresh.2⟩

end VirtUsb
