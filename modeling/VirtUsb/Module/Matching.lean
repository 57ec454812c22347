/-
# Attachments are a matching

Between two calls the peers of ports are a matching of the ports of hubs with published
devices.  So a device can be plugged in exactly if the port exists, the device is
published, and both are free (`controlDeviceAttach_error`).
-/

import VirtUsb.Lifetime.Accounting

namespace VirtUsb

open Transition

namespace World

variable {N : ℕ} {w : World} {h : HcdId} {d : DevicePtr} {env : Env}

/-- What is published is found. -/
theorem Steady.deviceOf_eq (hw : w.Steady N) {id : ObjectId} (hd : w.objectTable id = some d) :
    w.deviceOf id = .ok d := by
  obtain ⟨hreg, rfl⟩ := hw.accounts.registry.entry id d hd
  have hpos := (hw.accounts.registry.object d hreg).2
  exact deviceOf_ok.2 ⟨Nat.ne_of_gt hpos, hd, hw.catalogued.typed d hreg⟩

/-- An id that is not in the table finds no device. -/
theorem deviceOf_error {id : ObjectId} (hd : w.objectTable id = none) :
    ∃ e, w.deviceOf id = .error e := by
  rw [deviceOf, hd]
  split
  · exact ⟨_, rfl⟩
  · exact ⟨_, rfl⟩

/-- A published device has its upstream port. -/
theorem Steady.role (hw : w.Steady N) {id : ObjectId} (hd : w.objectTable id = some d) :
    (w.topo.upstream d).role = .upstream :=
  hw.ported d (hw.accounts.registry.entry id d hd).1

/-- **A device can be plugged in** exactly if the port exists, the device is published,
and both are free. -/
theorem Steady.controlDeviceAttach_error (hw : w.Steady N) (h : HcdId) (request : DeviceAttach)
    (henv : env.copyFromUser = true) :
    (∃ e, (w.controlDeviceAttach h request env).2 = .error e) ↔
      request.hubId ≠ 0 ∨ w.topo.hubPortIsValid h request.port = false ∨
      w.objectTable request.objectId = none ∨
      (w.topo.peers (.downstream h (request.port - 1))).isSome = true ∨
      ∃ d, w.objectTable request.objectId = some d ∧
        (w.topo.peers (.upstream d)).isSome = true := by
  rw [controlDeviceAttach_eq hw.accounts.counted]
  simp only [henv, Bool.not_true, Bool.false_eq_true, if_false]
  by_cases hhub : request.hubId = 0
  swap
  · simp [hhub]
  simp only [hhub, ne_eq, not_true, if_false, false_or]
  by_cases hv : w.topo.hubPortIsValid h request.port = true
  swap
  · have hget : w.topo.hubGetPort h request.port = none := by simp [Topology.hubGetPort, hv]
    simp [hget, hv]
  have hget := Topology.hubGetPort_of_valid hv
  simp only [hget, hv, Bool.true_eq_false, false_or]
  rcases hd : w.objectTable request.objectId with _ | d
  · obtain ⟨e, he⟩ := deviceOf_error hd
    simp [he]
  rw [hw.deviceOf_eq hd]
  simp only [reduceCtorEq, false_or, Option.some.injEq, exists_eq_left']
  rw [hw.wired.deviceAttach_error (hw.role hd) hget]
  split
  · rename_i htaken
    simpa using htaken
  · rename_i hfree
    simpa using hfree

end World

open World

/-- **Attachments are a matching** of ports of hubs with published devices. -/
theorem topology_matching {N : ℕ} {w : World} (hw : (calls N).Reachable w) :
    (∀ p q, w.topo.peers p = some q → w.topo.peers q = some p) ∧
    (∀ h i q, w.topo.peers (.downstream h i) = some q → ∃ d, q = .upstream d) ∧
    (∀ d q, w.topo.peers (.upstream d) = some q →
      ∃ h n, q = .downstream h (n - 1) ∧ w.topo.hubPortIsValid h n = true) ∧
    (∀ p p' q, w.topo.peers p = some q → w.topo.peers p' = some q → p = p') ∧
    (∀ d, (w.topo.peers (.upstream d)).isSome = true → w.Listed d) ∧
    (∀ d h n, w.topo.hubPortIsValid h n = true →
      w.topo.peers (.upstream d) = some (.downstream h (n - 1)) →
      w.topo.deviceGetAttachedHub d = some (h, n)) ∧
    ∀ h request env, env.copyFromUser = true →
      ((∃ e, (w.controlDeviceAttach h request env).2 = .error e) ↔
        request.hubId ≠ 0 ∨ w.topo.hubPortIsValid h request.port = false ∨
        w.objectTable request.objectId = none ∨
        (w.topo.peers (.downstream h (request.port - 1))).isSome = true ∨
        ∃ d, w.objectTable request.objectId = some d ∧
          (w.topo.peers (.upstream d)).isSome = true) := by
  have hs := steady_of_reachable hw
  have hwired := hs.wired
  have hsymm : ∀ p q, w.topo.peers p = some q → w.topo.peers q = some p := fun p q hq =>
    (hwired.symm p q hq).1
  refine ⟨hsymm, fun h i q hq => ?_, fun d q hq => ?_, fun p p' q hp hp' => ?_, fun d hd => ?_,
    fun d h n hv hd => ?_, fun h request env => hs.controlDeviceAttach_error h request⟩
  · obtain ⟨d, rfl, -⟩ := hwired.downstream_peer hq
    exact ⟨d, rfl⟩
  · obtain ⟨h, n, rfl, hv, -⟩ := hwired.upstream_peer hq
    exact ⟨h, n, rfl, hv⟩
  · exact Option.some.inj ((hsymm p q hp).symm.trans (hsymm p' q hp'))
  · exact hs.accounts.listed.2 (hs.catalogued.attached d hd)
  · rcases hwired.deviceGetAttachedHub d with ⟨-, hfree⟩ | ⟨h', n', hfound, hv', hpeer, -⟩
    · exact absurd (hd.symm.trans hfree) (by simp)
    · obtain ⟨rfl, hn⟩ := PortRef.downstream.inj (Option.some.inj (hd.symm.trans hpeer))
      have hpos := (Topology.valid_iff.1 hv).1
      have hpos' := (Topology.valid_iff.1 hv').1
      obtain rfl : n = n' := by omega
      exact hfound

/-- Device 0 is plugged into port 1, so its hub is found, and it cannot be plugged into
port 2. -/
theorem topology_matching_example : ∃ w, (calls 1).Reachable w ∧
    w.topo.deviceGetAttachedHub 0 = some (0, 1) ∧
    ∃ e, (w.controlDeviceAttach 0 ⟨1, 0, 2⟩ {}).2 = .error e := by
  obtain ⟨w, hw, hp⟩ := exists_reachable_of_exec (I := Initialised)
    (f := fun w c => if Call.Possible 1 w c then some (w.call c) else none) (s := oneHub)
    (l := Call.plugIn 0)
    (p := fun w => w.objectTable 1 = some 0 ∧ w.topo.hubPortIsValid 0 1 = true ∧
      w.topo.peers (.upstream 0) = some (.downstream 0 0))
    oneHub_initialised (by decide)
  obtain ⟨hlisted, hv, hpeer⟩ := of_decide_eq_true hp
  obtain ⟨-, -, -, -, -, hfound, hattach⟩ := topology_matching hw
  refine ⟨w, hw, hfound 0 0 1 hv hpeer, (hattach 0 ⟨1, 0, 2⟩ {} rfl).2 ?_⟩
  exact .inr (.inr (.inr (.inr ⟨0, hlisted, by rw [hpeer]; rfl⟩)))

end VirtUsb
