/-
# What a call can do to the state that is managed

A call of the module does a few operations of the control plane at most, each on a
device that is published (`World.Managed`).  So every published object is a device
and every attached device is published (`World.Catalogued`), whatever the calls.
-/

import VirtUsb.Module.Handlers
import VirtUsb.Module.Lifecycle

namespace VirtUsb

/-- Attached and destroyed are devices that are published. -/
def Operation.Proper (w : World) : Operation → Prop
  | .attach d _ _ => (w.objects d).registered = true
  | .destroy d _ => (w.objects d).registered = true
  | _ => True

namespace World

/-- The second world is the first after some operations, and whatever was done aside of
what they manage. -/
inductive Managed (w : World) : World → Prop
  | kept {w' : World} : Aside w w' → Managed w w'
  | operated {v w' : World} (op : Operation) : Managed w v → op.Proper v →
      Aside (v.operate op).1 w' → Managed w w'

/-- The published objects are devices, and the attached devices are published. -/
structure Catalogued (w : World) : Prop where
  typed : ∀ d, (w.objects d).registered = true → (w.objects d).type = .device
  attached : ∀ d, (w.topo.peers (.upstream d)).isSome = true → (w.objects d).registered = true

/-- The upstream ports of the published devices are initialised. -/
def Ported (w : World) : Prop :=
  ∀ d, (w.objects d).registered = true → (w.topo.upstream d).role = .upstream

variable {w w' : World} {d : DevicePtr}

/-! ### Sound worlds depend on what is managed -/

/-- Soundness is a matter of the control plane. -/
theorem Sound.of_management (hw : w.Sound) (hm : w'.management = w.management) : w'.Sound := by
  refine ⟨?_, ?_⟩
  · rw [topo_of_management hm]
    exact hw.topo
  · rw [topo_of_management hm, nextDevice_of_management hm]
    exact hw.unborn

/-- So is the catalogue of devices. -/
theorem Catalogued.of_management (hw : w.Catalogued) (hm : w'.management = w.management) :
    w'.Catalogued := by
  refine ⟨fun d hd => ?_, fun d hd => ?_⟩
  · rw [(object_of_management hm d).2.2] at hd
    rw [(object_of_management hm d).2.1]
    exact hw.typed d hd
  · rw [topo_of_management hm] at hd
    rw [(object_of_management hm d).2.2]
    exact hw.attached d hd

/-- The catalogue after a change of the topology in which no new device is attached. -/
theorem Catalogued.of_topo (hw : w.Catalogued) {t : Topology}
    (ht : ∀ d, (t.peers (.upstream d)).isSome = true →
      (w.topo.peers (.upstream d)).isSome = true ∨ (w.objects d).registered = true) :
    ({ w with topo := t } : World).Catalogued := by
  refine ⟨hw.typed, fun d hd => ?_⟩
  rcases ht d hd with hold | hreg
  · exact hw.attached d hold
  · exact hreg

/-! ### What an operation does to the catalogue -/

/-- An object that is unregistered keeps its type, and the others stay as they are. -/
theorem objectUnregister_objects (w : World) (d d' : DevicePtr) :
    ((w.objectUnregister d).1.objects d').type = (w.objects d').type ∧
      (((w.objectUnregister d).1.objects d').registered = true →
        (w.objects d').registered = true) ∧
      (d' ≠ d → (w.objectUnregister d).1.objects d' = w.objects d') := by
  rw [objectUnregister]
  rcases hs : w.objectUnregisterLocked d with ⟨w₁, e | _⟩
  · have hsame : w₁ = w := by
      simp only [objectUnregisterLocked] at hs
      split_ifs at hs <;> simp_all
    rw [hsame]
    exact ⟨rfl, id, fun _ => rfl⟩
  have hlocked : w₁.objects = Function.update w.objects d { w.objects d with registered := false } := by
    simp only [objectUnregisterLocked] at hs
    split_ifs at hs
    all_goals simp at hs
    rw [← hs]
    rfl
  have hput := object_of_management (Aside.objectPut w₁ d).management d'
  rcases eq_or_ne d' d with rfl | hne
  · rw [hput.2.1, hput.2.2, hlocked, Function.update_self]
    simp
  · have hsame : (w₁.objectPut d).objects d' = w₁.objects d' := by
      simp only [objectPut]
      split
      · simp [deviceRelease, setObject, hne]
      · simp [setObject, hne]
    rw [hsame, hlocked, Function.update_of_ne hne]
    exact ⟨rfl, id, fun _ => rfl⟩

/-- The unregistration of a device that is not attached. -/
theorem Catalogued.objectUnregister (hw : w.Catalogued) (hd : w.topo.peers (.upstream d) = none) :
    (w.objectUnregister d).1.Catalogued := by
  have htopo := topo_of_bare (bare_objectUnregister w d)
  refine ⟨fun d' hreg => ?_, fun d' hpeer => ?_⟩
  · obtain ⟨htype, hold, -⟩ := objectUnregister_objects w d d'
    rw [htype]
    exact hw.typed d' (hold hreg)
  · rw [htopo] at hpeer
    have hne : d' ≠ d := by
      rintro rfl
      rw [hd] at hpeer
      exact absurd hpeer (by simp)
    rw [(objectUnregister_objects w d d').2.2 hne]
    exact hw.attached d' hpeer

/-- A destruction keeps the catalogue. -/
theorem Catalogued.deviceDestroy (hw : w.Catalogued) (hs : w.Sound) (d : DevicePtr) (force : Bool) :
    (w.deviceDestroy d force).1.Catalogued := by
  rw [World.deviceDestroy]
  split
  swap
  · rename_i hpeer
    exact hw.objectUnregister (by simpa [Topology.peers, Topology.port] using hpeer)
  split
  · exact hw
  have hpeers := Topology.peers_deviceSetConnectionSignaling (t := w.topo) (d := d) false
  have hwired := (hs.topo.wired.deviceSetConnectionSignaling d false).wired
  rcases hset : w.topo.deviceSetConnectionSignaling d false with ⟨t, e | _⟩
  · rw [hset] at hpeers
    exact hw.of_topo fun d' hd' => .inl (hpeers ▸ hd')
  · rw [hset] at hpeers hwired
    have hdetach := hwired.peers_deviceDetach d
    have hdetached : ({ w with topo := t.deviceDetach d } : World).Catalogued := by
      refine hw.of_topo fun d' hd' => .inl ?_
      rw [hdetach] at hd'
      dsimp only at hd' hpeers
      split at hd'
      · exact absurd hd' (by simp)
      · exact hpeers ▸ hd'
    refine hdetached.objectUnregister ?_
    exact (congrFun hdetach (.upstream d)).trans (if_pos (.inl rfl))

/-- A new object, which is not attached. -/
theorem Catalogued.newObject (hw : w.Catalogued) {o : Object} (hd : w'.topo.peers (.upstream d) = none)
    (hpeers : ∀ d', d' ≠ d → w'.topo.peers (.upstream d') = w.topo.peers (.upstream d'))
    (ho : o.registered = true → o.type = .device)
    (hobjects : w'.objects = Function.update w.objects d o) : w'.Catalogued := by
  refine ⟨fun d' hreg => ?_, fun d' hpeer => ?_⟩
  · rw [hobjects] at hreg ⊢
    rcases eq_or_ne d' d with rfl | hne
    · rw [Function.update_self] at hreg ⊢
      exact ho hreg
    · rw [Function.update_of_ne hne] at hreg ⊢
      exact hw.typed d' hreg
  · have hne : d' ≠ d := by
      rintro rfl
      rw [hd] at hpeer
      exact absurd hpeer (by simp)
    rw [hpeers d' hne] at hpeer
    rw [hobjects, Function.update_of_ne hne]
    exact hw.attached d' hpeer

/-- A creation keeps the catalogue. -/
theorem Catalogued.deviceCreate (hw : w.Catalogued) (hs : w.Sound) (speed : Byte) (env : Env) :
    (w.deviceCreate speed env).1.Catalogued := by
  rcases hport : portInit .upstream speed (.device w.nextDevice) with e | port
  · rw [deviceCreate_invalid hport]
    split
    · exact hw
    refine hw.newObject (d := w.nextDevice) ?_ (fun _ _ => rfl) (by simp) rfl
    by_contra hpeer
    obtain ⟨q, hq⟩ := Option.ne_none_iff_exists'.1 hpeer
    exact (hs.topo.wired.symm _ q hq).2.1 (hs.unborn _ (Nat.le_refl _))
  have hpeer : (w.plugged port).peers (.upstream w.nextDevice) = none := by
    rw [plugged, Topology.peers_setPort, Function.update_self]
    exact (peer_of_portInit hport).2.2.1
  have hother : ∀ d', d' ≠ w.nextDevice →
      (w.plugged port).peers (.upstream d') = w.topo.peers (.upstream d') := fun d' hne => by
    rw [plugged, Topology.peers_setPort, Function.update_of_ne (by simpa using hne)]
  rw [deviceCreate_eq hport]
  split
  · exact hw
  split
  · exact hw.newObject hpeer hother (by simp) rfl
  rcases env.xaInsert with e | _
  · exact hw.newObject hpeer hother (by simp) rfl
  · exact hw.newObject hpeer hother (by simp) rfl

/-- **Every operation on published devices keeps the catalogue.** -/
theorem Catalogued.operate (hw : w.Catalogued) (hs : w.Sound) {op : Operation} (hop : op.Proper w) :
    (w.operate op).1.Catalogued := by
  have hsame : ∀ t : Topology, t.peers = w.topo.peers → ({ w with topo := t } : World).Catalogued :=
    fun t ht => hw.of_topo fun d hd => .inl (ht ▸ hd)
  cases op with
  | create speed env => exact hw.deviceCreate hs speed env
  | destroy d force => exact hw.deviceDestroy hs d force
  | attach d h n =>
      rw [World.operate]
      rcases hget : w.topo.hubGetPort h n with _ | p
      · exact hw
      obtain ⟨-, rfl⟩ := Topology.valid_of_hubGetPort hget
      dsimp only
      rcases ha : w.topo.deviceAttach d (.downstream h (n - 1)) with ⟨t, e | _⟩
      · rw [Topology.deviceAttach_same ha]
        exact hw
      · obtain ⟨-, -, hpeers⟩ := Topology.peers_deviceAttach ha
        refine hw.of_topo fun d' hd' => ?_
        dsimp only at hd'
        rw [hpeers] at hd'
        rcases eq_or_ne d' d with rfl | hne
        · exact .inr hop
        · exact .inl (by simpa [hne] using hd')
  | detach d =>
      have hdetach := hs.topo.wired.peers_deviceDetach d
      refine hw.of_topo fun d' hd' => .inl ?_
      dsimp only at hd'
      rw [hdetach] at hd'
      dsimp only at hd'
      split at hd'
      · exact absurd hd' (by simp)
      · exact hd'
  | connection d enabled => exact hsame _ (Topology.peers_deviceSetConnectionSignaling enabled)
  | setPortPower h n powered => exact hsame _ (Topology.peers_hubSetPortPower powered)
  | setAllPortsPower h powered => exact hsame _ (Topology.peers_hubSwitchPortsPower powered _ _ _)
  | resetPort h n => exact hsame _ (Topology.peers_of_wiring (Topology.wiring_hubResetPort n))
  | hubControl h typeReq value index => exact hsame _ (Topology.peers_hcdHubControl typeReq value index)
  | setPowerSwitchingMode h mode => exact hsame _ (Topology.peers_setHub rfl)
  | setOverCurrentMode h mode => exact hsame _ (Topology.peers_setHub rfl)
  | setPortOverCurrent h n overCurrent =>
      exact hsame _ (Topology.peers_hubSetPortOverCurrent overCurrent)
  | setOverCurrent h overCurrent =>
      refine hsame _ ?_
      rw [Topology.hubSetOverCurrent]
      split
      · rfl
      · exact Topology.peers_setHub rfl
  | setStatusChangedCallback h installed => exact hsame _ (Topology.peers_setHub rfl)

/-! ### Object ids -/

/-- An object that is unregistered keeps its id. -/
theorem objectId_objectUnregister (w : World) (d d' : DevicePtr) :
    ((w.objectUnregister d).1.objects d').id = (w.objects d').id := by
  rw [objectUnregister]
  rcases hs : w.objectUnregisterLocked d with ⟨w₁, e | _⟩
  · have hsame : w₁ = w := by
      simp only [objectUnregisterLocked] at hs
      split_ifs at hs <;> simp_all
    rw [hsame]
  · have hlocked : (w₁.objects d').id = (w.objects d').id := by
      simp only [objectUnregisterLocked] at hs
      split_ifs at hs
      all_goals simp at hs
      rw [← hs]
      rcases eq_or_ne d' d with rfl | hne
      · simp [setObject]
      · simp [setObject, hne]
    exact (object_of_management (Aside.objectPut w₁ d).management d').1.trans hlocked

/-- The devices that existed in the first world have the same ids in the second. -/
def SameIds (w w' : World) : Prop :=
  w.nextDevice ≤ w'.nextDevice ∧ ∀ d < w.nextDevice, (w'.objects d).id = (w.objects d).id

/-- Ids stay the same. -/
theorem SameIds.trans {w'' : World} (hs : w.SameIds w') (hs' : w'.SameIds w'') :
    w.SameIds w'' :=
  ⟨hs.1.trans hs'.1, fun d hd => (hs'.2 d (Nat.lt_of_lt_of_le hd hs.1)).trans (hs.2 d hd)⟩

/-- **The id of a device is not changed** by an operation. -/
theorem sameIds_operate (w : World) (op : Operation) : w.SameIds (w.operate op).1 := by
  have hsame : ∀ {w' : World}, w'.nextDevice = w.nextDevice → w'.objects = w.objects →
      w.SameIds w' := by
    intro w' hnext hobjects
    exact ⟨Nat.le_of_eq hnext.symm, fun d _ => by rw [hobjects]⟩
  have hnew : ∀ {w' : World} {o : Object}, w'.nextDevice = w.nextDevice + 1 →
      w'.objects = Function.update w.objects w.nextDevice o → w.SameIds w' := by
    intro w' o hnext hobjects
    refine ⟨hnext ▸ Nat.le_succ _, fun d hd => ?_⟩
    rw [hobjects, Function.update_of_ne (Nat.ne_of_lt hd)]
  cases op with
  | create speed env =>
      rw [World.operate]
      rcases hport : portInit .upstream speed (.device w.nextDevice) with e | port
      · rw [deviceCreate_invalid hport]
        split
        · exact hsame rfl rfl
        · exact hnew rfl rfl
      rw [deviceCreate_eq hport]
      split
      · exact hsame rfl rfl
      split
      · exact hnew rfl rfl
      rcases env.xaInsert with e | _
      · exact hnew rfl rfl
      · exact hnew rfl rfl
  | destroy d' force =>
      have hgone : ∀ v : World, v.objects = w.objects → v.nextDevice = w.nextDevice →
          w.SameIds (v.objectUnregister d').1 := by
        intro v hobjects hnext
        have hbare := bare_objectUnregister v d'
        have hnext' : (v.objectUnregister d').1.nextDevice = v.nextDevice :=
          (congrArg World.nextDevice hbare :)
        refine ⟨Nat.le_of_eq (hnext'.trans hnext).symm, fun d _ => ?_⟩
        rw [objectId_objectUnregister, hobjects]
      rw [World.operate, World.deviceDestroy]
      split
      swap
      · exact hgone w rfl rfl
      split
      · exact hsame rfl rfl
      rcases w.topo.deviceSetConnectionSignaling d' false with ⟨t, e | _⟩
      · exact hsame rfl rfl
      · exact hgone { w with topo := t.deviceDetach d' } rfl rfl
  | attach d' h n =>
      rw [World.operate]
      rcases w.topo.hubGetPort h n with _ | p
      · exact hsame rfl rfl
      · exact hsame rfl rfl
  | _ => exact hsame rfl rfl

/-! ### Published devices have their port -/

/-- Which devices have ports is a matter of the control plane. -/
theorem Ported.of_management (hw : w.Ported) (hm : w'.management = w.management) : w'.Ported := by
  intro d hd
  rw [(object_of_management hm d).2.2] at hd
  rw [topo_of_management hm]
  exact hw d hd

/-- Only a creation publishes a device. -/
theorem registered_operate {op : Operation} (hop : ∀ speed env, op ≠ .create speed env)
    (hd : ((w.operate op).1.objects d).registered = true) : (w.objects d).registered = true := by
  cases op with
  | create speed env => exact absurd rfl (hop speed env)
  | destroy d' force =>
      rw [World.operate, World.deviceDestroy] at hd
      split at hd
      swap
      · exact (objectUnregister_objects w d' d).2.1 hd
      split at hd
      · exact hd
      rcases hset : w.topo.deviceSetConnectionSignaling d' false with ⟨t, e | _⟩
      · rw [hset] at hd
        exact hd
      · rw [hset] at hd
        exact (objectUnregister_objects { w with topo := t.deviceDetach d' } d' d).2.1 hd
  | attach d' h n =>
      rw [World.operate] at hd
      rcases hget : w.topo.hubGetPort h n with _ | p
      · rw [hget] at hd
        exact hd
      · rw [hget] at hd
        exact hd
  | _ => exact hd

/-- A new device has its port when it is published. -/
theorem Ported.deviceCreate (hw : w.Ported) (speed : Byte) (env : Env) :
    (w.deviceCreate speed env).1.Ported := by
  have hnew : ∀ {w₁ : World} {o : Object} {port : Port}, w₁.topo = w.plugged port →
      w₁.objects = Function.update w.objects w.nextDevice o → port.role = .upstream →
      w₁.Ported := by
    intro w₁ o port htopo hobjects hrole d hd
    rw [htopo]
    rcases eq_or_ne d w.nextDevice with rfl | hne
    · simpa [plugged, Topology.setPort] using hrole
    · rw [hobjects, Function.update_of_ne hne] at hd
      simpa [plugged, Topology.setPort, hne] using hw d hd
  rcases hport : portInit .upstream speed (.device w.nextDevice) with e | port
  · rw [deviceCreate_invalid hport]
    split
    · exact hw
    intro d hd
    rcases eq_or_ne d w.nextDevice with rfl | hne
    · simp at hd
    · dsimp only at hd
      rw [Function.update_of_ne hne] at hd
      exact hw d hd
  have hrole := (peer_of_portInit hport).1
  rw [deviceCreate_eq hport]
  split
  · exact hw
  split
  · exact hnew rfl rfl hrole
  rcases env.xaInsert with e | _
  · exact hnew rfl rfl hrole
  · exact hnew rfl rfl hrole

/-- **Every operation keeps the ports of the devices.** -/
theorem Ported.operate (hw : w.Ported) (hs : w.Sound) (op : Operation) :
    (w.operate op).1.Ported := by
  by_cases hop : ∀ speed env, op ≠ .create speed env
  · intro d hd
    rw [(hs.operate op).role hs.topo.wired hop]
    exact hw d (registered_operate hop hd)
  · push Not at hop
    obtain ⟨speed, env, rfl⟩ := hop
    exact hw.deviceCreate speed env

/-- **The device of a URB** is the one that is attached to its port. -/
theorem hcdGetUrbDevice_eq_some (ht : w.topo.Wired) {h : HcdId} {urb : Urb} :
    w.hcdGetUrbDevice h urb = some d ↔ ∃ n, urb.dev = some ⟨some h, n⟩ ∧
      w.topo.hubPortIsValid h n = true ∧
      w.topo.peers (.downstream h (n - 1)) = some (.upstream d) := by
  rw [hcdGetUrbDevice]
  rcases hdev : urb.dev with _ | ⟨parent, n⟩
  · simp
  dsimp only
  by_cases hparent : parent = some h
  swap
  · rw [if_pos hparent]
    simp [hparent]
  rw [if_neg (not_not.2 hparent), hparent]
  by_cases hv : w.topo.hubPortIsValid h n = true
  swap
  · have hget : w.topo.hubGetPort h n = none := by simp [Topology.hubGetPort, hv]
    simp [hget, hv]
  rw [Topology.hubGetPort_of_valid hv]
  rcases hq : (w.topo.port (.downstream h (n - 1))).peer with _ | q
  · simp [hq, Topology.peers, hv]
  obtain ⟨d', rfl, -, hrole, -⟩ := ht.downstream_peer hq
  have howner : (w.topo.upstream d').owner = some (.device d') :=
    ((ht.device d').resolve_right (by rw [hrole]; decide)).2
  have hport : w.topo.port (.upstream d') = w.topo.upstream d' := rfl
  simp [hq, Topology.peers, hv, hport, hrole, howner]

/-- **What every operation keeps, every call keeps.** -/
theorem Managed.invariant {I : World → Prop}
    (hkept : ∀ v v' : World, I v → v'.management = v.management → I v')
    (hop : ∀ (v : World) (op : Operation), I v → op.Proper v → I (v.operate op).1)
    (hm : w.Managed w') (hw : I w) : I w' := by
  induction hm with
  | kept haside => exact hkept w _ hw haside.management
  | operated op _ hproper haside ih => exact hkept _ _ (hop _ _ ih hproper) haside.management

/-- What the control plane does changes no id. -/
theorem Managed.sameIds (hm : w.Managed w') : w.SameIds w' := by
  refine hm.invariant (I := w.SameIds) (fun v v' hv hsame => hv.trans ⟨?_, fun d _ => ?_⟩)
    (fun v op hv _ => hv.trans (sameIds_operate v op)) ⟨Nat.le_refl _, fun _ _ => rfl⟩
  · exact Nat.le_of_eq (nextDevice_of_management hsame).symm
  · exact (object_of_management hsame d).1

/-! ### The records of releases -/

/-- `virtusb_object_unregister` only adds to the records of releases. -/
theorem recorded_objectUnregister (w : World) (d : DevicePtr) :
    Recorded w (w.objectUnregister d).1 := by
  have hlocked : Recorded w (w.objectUnregisterLocked d).1 := by
    simp only [objectUnregisterLocked]
    split
    · exact .refl w
    split <;> exact .of_same rfl rfl
  rw [World.objectUnregister]
  rcases hs : w.objectUnregisterLocked d with ⟨w₁, e | _⟩
  · rwa [hs] at hlocked
  · rw [hs] at hlocked
    exact hlocked.trans (Aside.objectPut w₁ d).recorded

/-- `virtusb_device_destroy` only adds to the records of releases. -/
theorem recorded_deviceDestroy (w : World) (d : DevicePtr) (force : Bool) :
    Recorded w (w.deviceDestroy d force).1 := by
  rw [World.deviceDestroy]
  split
  · split
    · exact .refl w
    rcases w.topo.deviceSetConnectionSignaling d false with ⟨t, e | _⟩
    · exact .of_same rfl rfl
    · have hdestroyed := recorded_objectUnregister { w with topo := t.deviceDetach d } d
      exact ⟨hdestroyed.released, hdestroyed.freed⟩
  · exact recorded_objectUnregister w d

/-- `virtusb_device_create` only adds to the records of releases. -/
theorem recorded_deviceCreate (w : World) (speed : Byte) (env : Env) :
    Recorded w (w.deviceCreate speed env).1 := by
  rcases hport : portInit .upstream speed (.device w.nextDevice) with e | port
  · rw [deviceCreate_invalid hport]
    split
    · exact .refl w
    · exact ⟨List.prefix_append _ _, List.prefix_rfl⟩
  rw [deviceCreate_eq hport]
  split
  · exact .refl w
  split
  · exact ⟨List.prefix_append _ _, List.prefix_rfl⟩
  rcases env.xaInsert with e | _
  · exact ⟨List.prefix_append _ _, List.prefix_rfl⟩
  · exact .of_same rfl rfl

/-- So does every operation. -/
theorem recorded_operate (w : World) (op : Operation) : Recorded w (w.operate op).1 := by
  cases op with
  | create speed env => exact recorded_deviceCreate w speed env
  | destroy d force => exact recorded_deviceDestroy w d force
  | attach d h n =>
      rw [World.operate]
      split <;> exact .of_same rfl rfl
  | _ => exact .of_same rfl rfl

/-- **What was released stays on record**, whatever is done. -/
theorem Managed.recorded (hm : w.Managed w') : Recorded w w' := by
  induction hm with
  | kept haside => exact haside.recorded
  | operated op _ _ haside ih => exact (ih.trans (recorded_operate _ op)).trans haside.recorded

end World

end VirtUsb
