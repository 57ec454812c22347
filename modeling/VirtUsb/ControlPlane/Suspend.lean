/-
# Suspend and enable

`PORT_SUSPEND` is set by a request of the USB core, whatever the state of the port,
and `PORT_ENABLE` is cleared by another one, which leaves suspend as it is.  All other
steps clear both or neither.  So a suspended port is enabled in every state of a run
exactly if each of these two requests meets the port as it should: connected and
enabled when it is suspended, and not suspended when it is disabled.
-/

import VirtUsb.ControlPlane.Connection

namespace VirtUsb

open Transition

/-- `get_unaligned_le16`. -/
def getUnalignedLe16 (buf : List Byte) : BitVec 16 :=
  (buf.getD 0 0).setWidth 16 ||| (buf.getD 1 0).setWidth 16 <<< 8

/-- A word is read back as it was written. -/
theorem getUnalignedLe16_le16 (v : BitVec 16) (rest : List Byte) :
    getUnalignedLe16 (le16 v ++ rest) = v := by
  refine BitVec.eq_of_getLsbD_eq fun i hi => ?_
  simp only [getUnalignedLe16, le16, List.cons_append, List.nil_append, List.getD_cons_zero,
    List.getD_cons_succ, BitVec.getLsbD_or, BitVec.getLsbD_setWidth, BitVec.getLsbD_shiftLeft,
    BitVec.getLsbD_ushiftRight]
  by_cases hlow : i < 8
  · simp [hlow, hi]
  · have hsub : i - 8 < 8 := by omega
    have hsub' : i - 8 < 16 := by omega
    have hadd : 8 + (i - 8) = i := by omega
    simp [hlow, hi, hsub, hsub', hadd]

namespace Topology

variable {t t' t'' : Topology} {h h' : HcdId} {n m : ℕ}

/-- The answer to `GetPortStatus` has the flag. -/
def reports (t : Topology) (h : HcdId) (n : ℕ) (flag : BitVec 16) : Bool :=
  match t.hcdGetPortStatus h n with
  | .ok reply => getUnalignedLe16 reply.buf &&& flag ≠ 0
  | .error _ => false

/-- A bit is reported if it is set in the status word of a port. -/
theorem reports_bit (i : ℕ) : t.reports h n (Bitmap.bit 16 i) =
    (t.hubPortIsValid h n && (t.hcdBuildPortStatus h n).getLsbD i) := by
  unfold reports hcdGetPortStatus
  cases t.hubPortIsValid h n with
  | false => rfl
  | true =>
      show (getUnalignedLe16 (le16 _ ++ _) &&& Bitmap.bit 16 i ≠ 0 : Bool) = _
      rw [getUnalignedLe16_le16, Bool.true_and, ← Bitmap.test_eq_getLsbD]
      rfl

/-- The bits of a conditional flag. -/
theorem getLsbD_flagIf (c : Bool) (flag : BitVec 16) (i : ℕ) :
    (flagIf c flag).getLsbD i = (c && flag.getLsbD i) := by
  cases c <;> simp [flagIf]

/-- The flags of the status of a port. -/
theorem getLsbD_status (t : Topology) (h : HcdId) (n : ℕ) :
    (t.hcdBuildPortStatus h n).getLsbD 0 = t.hubPortIsConnected h n ∧
      (t.hcdBuildPortStatus h n).getLsbD 1 = (t.portState h n).enabled ∧
      (t.hcdBuildPortStatus h n).getLsbD 2 = (t.portState h n).suspended ∧
      (t.hcdBuildPortStatus h n).getLsbD 8 = t.hubPortIsPowered h n := by
  refine ⟨?_, ?_, ?_, ?_⟩
  all_goals
    simp only [hcdBuildPortStatus, BitVec.getLsbD_or, getLsbD_flagIf]
    cases t.hubGetPortSpeed h n <;>
      simp [portState, portStatConnection, portStatEnable, portStatSuspend, portStatOverCurrent,
        portStatReset, portStatPower, portStatLowSpeed, portStatHighSpeed]

/-- What is reported of suspend is consistent: a suspended port is enabled and connected,
and so one that is powered off or disconnected is not suspended. -/
structure SuspendSound (t : Topology) : Prop where
  enabled : ∀ h n, t.reports h n portStatSuspend = true →
    t.reports h n portStatEnable = true ∧ t.reports h n portStatConnection = true
  off : ∀ h n, t.reports h n portStatPower = false ∨ t.reports h n portStatConnection = false →
    t.reports h n portStatSuspend = false

/-- `PORT_CONNECTION` is reported where a port is connected. -/
theorem reports_connection : t.reports h n portStatConnection =
    (t.hubPortIsValid h n && t.hubPortIsConnected h n) := by
  rw [← (t.getLsbD_status h n).1]
  exact reports_bit 0

/-- `PORT_ENABLE` is reported where a port is enabled. -/
theorem reports_enable : t.reports h n portStatEnable =
    (t.hubPortIsValid h n && (t.portState h n).enabled) := by
  rw [← (t.getLsbD_status h n).2.1]
  exact reports_bit 1

/-- `PORT_SUSPEND` is reported where a port is suspended. -/
theorem reports_suspend : t.reports h n portStatSuspend =
    (t.hubPortIsValid h n && (t.portState h n).suspended) := by
  rw [← (t.getLsbD_status h n).2.2.1]
  exact reports_bit 2

/-- `PORT_POWER` is reported where a port is powered. -/
theorem reports_power : t.reports h n portStatPower =
    (t.hubPortIsValid h n && t.hubPortIsPowered h n) := by
  rw [← (t.getLsbD_status h n).2.2.2]
  exact reports_bit 8

/-- In a sound state it is enough that a suspended port is enabled. -/
theorem Sound.suspendSound (ht : t.Sound)
    (hs : ∀ h n, (t.portState h n).suspended = true → (t.portState h n).enabled = true) :
    t.SuspendSound := by
  have hon : ∀ h n, t.reports h n portStatSuspend = true → t.reports h n portStatEnable = true ∧
      t.reports h n portStatConnection = true ∧ t.reports h n portStatPower = true := by
    intro h n hr
    rw [reports_suspend] at hr
    obtain ⟨hv, hsus⟩ := Bool.and_eq_true_iff.1 hr
    have he := hs h n hsus
    have hc := (ht.enabled h n he).1
    rw [reports_enable, reports_connection, reports_power, hv, he, hc, powered_of_connected hc]
    exact ⟨rfl, rfl, rfl⟩
  refine ⟨fun h n hr => ⟨(hon h n hr).1, (hon h n hr).2.1⟩, fun h n hoff => ?_⟩
  by_contra hne
  obtain ⟨-, hc, hp⟩ := hon h n (Bool.eq_true_of_not_eq_false hne)
  rcases hoff with hoff | hoff
  · exact absurd (hoff.symm.trans hp) (by decide)
  · exact absurd (hoff.symm.trans hc) (by decide)

/-! ### Steps that are not about suspend -/

/-- The port, if it is suspended afterwards, was so before and has not been disabled. -/
def Calm (t t' : Topology) (h : HcdId) (n : ℕ) : Prop :=
  (t'.portState h n).suspended = true → (t.portState h n).suspended = true ∧
    ((t.portState h n).enabled = true → (t'.portState h n).enabled = true)

/-- The same port state is calm. -/
theorem Calm.of_eq (hs : t'.portState h n = t.portState h n) : Calm t t' h n := by
  intro hon
  rw [hs] at hon ⊢
  exact ⟨hon, id⟩

/-- Calm steps after each other. -/
theorem Calm.trans (h₁ : Calm t t' h n) (h₂ : Calm t' t'' h n) : Calm t t'' h n := by
  intro hon
  obtain ⟨hon', he'⟩ := h₂ hon
  obtain ⟨hon₀, he₀⟩ := h₁ hon'
  exact ⟨hon₀, fun he => he' (he₀ he)⟩

/-- A change of the wiring suspends nothing. -/
theorem Rewires.calm (hr : Rewires t t') : Calm t t' h n := by
  intro hon
  rw [hr.state] at hon ⊢
  split at hon
  · exact absurd hon (by decide)
  · rename_i hkept
    rw [if_neg hkept]
    exact ⟨hon, id⟩

/-- Nor does a chain of them. -/
theorem Rewired.calm (hr : Rewired t t') : Calm t t' h n := by
  induction hr with
  | refl => exact .of_eq rfl
  | tail _ hstep ih => exact ih.trans hstep.calm

/-- A reset suspends nothing. -/
theorem Wired.calm_hubResetPort (ht : t.Wired) (h' : HcdId) (m : ℕ) :
    Calm t (t.hubResetPort h' m).1 h n := by
  rcases hr : (t.hubResetPort h' m).2 with e | _
  · rw [hubResetPort_error hr]
    exact .of_eq rfl
  · intro hon
    obtain ⟨-, -, hstate⟩ := ht.portState_hubResetPort hr
    rw [hstate] at hon ⊢
    split at hon
    · exact absurd hon (by simp)
    · rename_i hother
      rw [if_neg hother]
      exact ⟨hon, id⟩

/-- **A request leaves a port calm**, unless it suspends or disables it. -/
theorem ControlEffect.calm {typeReq value : ℕ} (he : ControlEffect t h typeReq value n t')
    (ht : t.Wired) (h' : HcdId) (m : ℕ) :
    Calm t t' h' m ∨
      (t.hubPortIsValid h n = true ∧ h' = h ∧ m = n ∧
        ((typeReq = setPortFeature ∧ value = portFeatSuspend ∧
            (t'.portState h' m).enabled = (t.portState h' m).enabled) ∨
          (typeReq = clearPortFeature ∧ value = portFeatEnable ∧
            (t'.portState h' m).suspended = (t.portState h' m).suspended))) := by
  cases he with
  | none => exact .inl (.of_eq rfl)
  | acknowledge kind => exact .inl (.of_eq (portState_setUsbChange _ h' m))
  | acknowledgeHub => exact .inl (.of_eq (portState_setUsbChange _ h' m))
  | disable hreq hvalue hv =>
      have hstate := portState_setUsb_bits (t := t) (h := h)
        (Bitmap.clear (t.hubs h).usb.enabled n) (t.hubs h).usb.suspended h' m
      rcases eq_or_ne h' h with rfl | hne
      · rw [if_pos rfl] at hstate
        rcases eq_or_ne m n with rfl | hmn
        · exact .inr ⟨hv, rfl, rfl, .inr ⟨hreq, hvalue, by rw [hstate]; rfl⟩⟩
        · rw [Bitmap.test_clear_of_ne _ hmn] at hstate
          exact .inl (.of_eq hstate)
      · rw [if_neg hne] at hstate
        exact .inl (.of_eq hstate)
  | resume hreq hvalue hv =>
      have hstate := portState_setUsb_bits (t := t) (h := h) (t.hubs h).usb.enabled
        (Bitmap.clear (t.hubs h).usb.suspended n) h' m
      rcases eq_or_ne h' h with rfl | hne
      · rw [if_pos rfl] at hstate
        refine .inl fun hon => ?_
        rw [hstate] at hon ⊢
        dsimp only at hon ⊢
        rw [Bitmap.test_clear] at hon
        exact ⟨(Bool.and_eq_true_iff.1 hon).1, id⟩
      · rw [if_neg hne] at hstate
        exact .inl (.of_eq hstate)
  | suspend hreq hvalue hv =>
      have hstate := portState_setUsb_bits (t := t) (h := h) (t.hubs h).usb.enabled
        (Bitmap.set (t.hubs h).usb.suspended n) h' m
      rcases eq_or_ne h' h with rfl | hne
      · rw [if_pos rfl] at hstate
        rcases eq_or_ne m n with rfl | hmn
        · exact .inr ⟨hv, rfl, rfl, .inl ⟨hreq, hvalue, by rw [hstate]; rfl⟩⟩
        · rw [Bitmap.test_set_of_ne _ hmn] at hstate
          exact .inl (.of_eq hstate)
      · rw [if_neg hne] at hstate
        exact .inl (.of_eq hstate)
  | power powered => exact .inl (ht.hubSetPortPower h n powered).calm
  | reset => exact .inl (ht.calm_hubResetPort h n)

/-! ### The two requests -/

/-- `SetPortFeature(PORT_SUSPEND)` sets the bit of every port that exists. -/
theorem hcdHubControl_suspend {index : ℕ} (hv : t.hubPortIsValid h (index % 256) = true) :
    (t.hcdHubControl h setPortFeature portFeatSuspend index).1 =
      t.setUsb h { (t.hubs h).usb with
        suspended := Bitmap.set (t.hubs h).usb.suspended (index % 256) } := by
  simp [hcdHubControl, hcdSetPortFeature, hubReply, hv, setPortFeature, clearHubFeature,
    clearPortFeature, getHubDescriptor, getHubStatus, getPortStatus, setHubFeature]

/-- `ClearPortFeature(PORT_ENABLE)` clears the enable bit and leaves the suspend bit. -/
theorem hcdHubControl_disable {index : ℕ} (hv : t.hubPortIsValid h (index % 256) = true) :
    (t.hcdHubControl h clearPortFeature portFeatEnable index).1 =
      t.setUsb h { (t.hubs h).usb with
        enabled := Bitmap.clear (t.hubs h).usb.enabled (index % 256) } := by
  simp [hcdHubControl, hcdClearPortFeature, hubReply, hv, clearHubFeature, clearPortFeature]

/-- A port that was suspended must be connected and enabled. -/
theorem SuspendSound.of_suspend {index : ℕ} (ht : t.Wired)
    (hv : t.hubPortIsValid h (index % 256) = true)
    (hs : (t.hcdHubControl h setPortFeature portFeatSuspend index).1.SuspendSound) :
    t.hubPortIsConnected h (index % 256) = true ∧
      (t.portState h (index % 256)).enabled = true := by
  rw [hcdHubControl_suspend hv] at hs
  set n := index % 256
  have hw := wiring_setUsb (t := t) (h := h)
    { (t.hubs h).usb with suspended := Bitmap.set (t.hubs h).usb.suspended n }
  have hstate := portState_setUsb_bits (t := t) (h := h) (t.hubs h).usb.enabled
    (Bitmap.set (t.hubs h).usb.suspended n) h n
  rw [if_pos rfl, Bitmap.test_set_self _ (ht.lt_of_valid hv)] at hstate
  have hon := hs.enabled h n
  rw [reports_suspend, reports_enable, reports_connection, valid_congr hw, connected_congr hw, hstate,
    hv] at hon
  obtain ⟨he, hc⟩ := hon rfl
  exact ⟨hc, he⟩

/-- A port that was disabled must not be suspended. -/
theorem SuspendSound.of_disable {index : ℕ} (hv : t.hubPortIsValid h (index % 256) = true)
    (hs : (t.hcdHubControl h clearPortFeature portFeatEnable index).1.SuspendSound) :
    (t.portState h (index % 256)).suspended = false := by
  rw [hcdHubControl_disable hv] at hs
  set n := index % 256
  have hw := wiring_setUsb (t := t) (h := h)
    { (t.hubs h).usb with enabled := Bitmap.clear (t.hubs h).usb.enabled n }
  have hstate := portState_setUsb_bits (t := t) (h := h)
    (Bitmap.clear (t.hubs h).usb.enabled n) (t.hubs h).usb.suspended h n
  rw [if_pos rfl, Bitmap.test_clear_self] at hstate
  have hon := hs.enabled h n
  rw [reports_suspend, reports_enable, valid_congr hw, hstate, hv] at hon
  by_contra hne
  have hsus : (t.portState h n).suspended = true := Bool.eq_true_of_not_eq_false hne
  exact absurd (hon hsus).1 (by simp)

end Topology

/-! ### The result -/

/-- A request for port `n` suspends it only if it is connected and enabled, and disables it
only if it is not suspended. -/
def Topology.SparesSuspend (t : Topology) (h : HcdId) (typeReq value n : ℕ) : Prop :=
  t.hubPortIsValid h n = true →
    (typeReq = setPortFeature → value = portFeatSuspend →
      t.hubPortIsConnected h n = true ∧ (t.portState h n).enabled = true) ∧
    (typeReq = clearPortFeature → value = portFeatEnable → (t.portState h n).suspended = false)

instance (t : Topology) (h : HcdId) (typeReq value n : ℕ) :
    Decidable (t.SparesSuspend h typeReq value n) :=
  inferInstanceAs (Decidable (t.hubPortIsValid h n = true →
    (typeReq = setPortFeature → value = portFeatSuspend →
      t.hubPortIsConnected h n = true ∧ (t.portState h n).enabled = true) ∧
    (typeReq = clearPortFeature → value = portFeatEnable → (t.portState h n).suspended = false)))

/-- The operation is not a request that breaks the rule. -/
def Operation.SparesSuspend (w : World) : Operation → Prop
  | .hubControl h typeReq value index => w.topo.SparesSuspend h typeReq value (index % 256)
  | _ => True

instance (w : World) : (op : Operation) → Decidable (op.SparesSuspend w)
  | .hubControl h typeReq value index =>
      inferInstanceAs (Decidable (w.topo.SparesSuspend h typeReq value (index % 256)))
  | .create .. | .destroy .. | .attach .. | .detach .. | .connection .. | .setPortPower ..
  | .setAllPortsPower .. | .resetPort .. | .setPowerSwitchingMode .. | .setOverCurrentMode ..
  | .setPortOverCurrent .. | .setOverCurrent .. | .setStatusChangedCallback .. =>
      inferInstanceAs (Decidable True)

namespace World

variable {w w' : World}

/-- Sound, and every suspended port is enabled. -/
def SuspendsEnabled (w : World) : Prop :=
  w.Sound ∧ ∀ h n, (w.topo.portState h n).suspended = true → (w.topo.portState h n).enabled = true

/-- **A step that meets the condition keeps suspended ports enabled.** -/
theorem SuspendsEnabled.step {op : Operation} (hw : w.SuspendsEnabled) (hop : op.SparesSuspend w) :
    (w.operate op).1.SuspendsEnabled := by
  obtain ⟨hs, hI⟩ := hw
  refine ⟨hs.step op, fun h n hon => ?_⟩
  have ht := hs.topo.wired
  have hcalm : ∀ {t'}, Topology.Calm w.topo t' h n → (t'.portState h n).suspended = true →
      (t'.portState h n).enabled = true := fun hc hon => (hc hon).2 (hI h n (hc hon).1)
  have he := hs.operate op
  generalize (w.operate op).1.topo = t' at he hon ⊢
  cases he with
  | rewired hr => exact hcalm hr.calm hon
  | created _ _ hu => exact hcalm (.of_eq (hu.state h n)) hon
  | callback h' installed =>
      exact hcalm (.of_eq ((ht.unseen_callback h' installed).state h n)) hon
  | reset h' n' => exact hcalm (ht.calm_hubResetPort h' n') hon
  | request h' typeReq value index he =>
      rcases he.calm ht h n with hc | ⟨hv, rfl, rfl, ⟨hreq, hvalue, heq⟩ | ⟨hreq, hvalue, heq⟩⟩
      · exact hcalm hc hon
      · rw [heq]
        exact ((hop hv).1 hreq hvalue).2
      · rw [heq, (hop hv).2 hreq hvalue] at hon
        exact absurd hon (by decide)

/-- An operation after which suspend is consistent broke no rule. -/
theorem spares_of_suspendSound (hw : w.topo.Wired) {op : Operation}
    (hs : (w.operate op).1.topo.SuspendSound) : op.SparesSuspend w := by
  cases op with
  | hubControl h typeReq value index =>
      intro hv
      refine ⟨?_, ?_⟩
      · rintro rfl rfl
        exact hs.of_suspend hw hv
      · rintro rfl rfl
        exact hs.of_disable hv
  | _ => exact trivial

/-- No port of an initialised module is suspended. -/
theorem Initialised.suspendsEnabled (hw : w.Initialised) : w.SuspendsEnabled := by
  refine ⟨hw.sound, fun h n hon => ?_⟩
  obtain ⟨hubs, hhubs, rfl⟩ := hw
  have husb : (hubs h).usb = {} := (hub_of_initialised (hhubs h)).2.1
  simp only [Topology.portState, husb, Bitmap.test_zero] at hon
  exact absurd hon (by decide)

end World

/-- The host is never shown a suspended port that is not enabled and connected, nor one
that is powered off, nor one that an operation has just connected. -/
structure SuspendImpliesEnabled (k : List (World × Operation)) (w : World) : Prop where
  reported : ∀ v ∈ visited k w, v.topo.SuspendSound
  connecting : ∀ x ∈ k, ∀ h n, x.1.topo.hubPortIsConnected h n = false →
    (x.1.operate x.2).1.topo.hubPortIsConnected h n = true →
      (x.1.operate x.2).1.topo.reports h n portStatSuspend = false

/-- **Suspend implies enable and connection, in a run, exactly if every request met the
port as it should.** -/
theorem suspend_implies_enabled_iff {w₀ w : World} {k : List (World × Operation)}
    (h₀ : w₀.Initialised) (hr : Run operations w₀ k w) :
    SuspendImpliesEnabled k w ↔ ∀ x ∈ k, x.2.SparesSuspend x.1 := by
  constructor
  · intro hall x hx
    obtain ⟨h₁, -, -, hr₁⟩ := hr.mem_history hx
    have hsound : x.1.Sound := World.sound_of_reachable ⟨w₀, h₁, h₀, hr₁⟩
    obtain ⟨u, hu, hstep⟩ := hr.next_visited hx
    obtain rfl : (x.1.operate x.2).1 = u := Option.some.inj hstep
    exact World.spares_of_suspendSound hsound.topo.wired (hall.reported _ hu)
  · intro hC
    have hkept : ∀ v ∈ visited k w, v.SuspendsEnabled := by
      refine hr.forall_visited (C := fun v op => op.SparesSuspend v) ?_ h₀.suspendsEnabled hC
      intro v op v' hv hop hstep
      obtain rfl : (v.operate op).1 = v' := Option.some.inj hstep
      exact hv.step hop
    refine ⟨fun v hv => (hkept v hv).1.topo.suspendSound (hkept v hv).2, fun x hx h n hoff _ => ?_⟩
    have hbefore := hkept x.1 (mem_visited.2 (.inl ⟨x, hx, rfl⟩))
    have hafter := hbefore.step (hC x hx)
    have hfresh := hbefore.1.fresh (hbefore.1.topo.fresh hoff) (x.2.resets_of_not_connected hoff)
    have hsus : ((x.1.operate x.2).1.topo.portState h n).suspended = false := by
      by_contra hne
      have he := hafter.2 h n (Bool.eq_true_of_not_eq_false hne)
      exact absurd (hfresh.1.symm.trans he) (by decide)
    rw [Topology.reports_suspend, hsus, Bool.and_false]

/-- A device that is plugged in, reset and suspended. -/
theorem suspend_implies_enabled_example : ∃ k w, Run operations World.oneHub k w ∧
    SuspendImpliesEnabled k w ∧ w.topo.reports 0 1 portStatSuspend = true := by
  obtain ⟨w, k, hr, hC, hp⟩ := exists_run_of_exec (I := World.Initialised)
    (f := fun w op => some (World.operate w op).1) (C := fun w op => op.SparesSuspend w)
    (s := World.oneHub)
    (l := [.create 7 {}, .connection 0 true, .attach 0 0 1, .setPortPower 0 1 true,
      .resetPort 0 1, .hubControl 0 setPortFeature portFeatSuspend 1])
    (p := fun w => w.topo.reports 0 1 portStatSuspend) (by decide)
  exact ⟨k, w, hr, (suspend_implies_enabled_iff World.oneHub_initialised hr).2 hC, hp⟩

/-- The USB core suspends port 1 while it is powered off and nothing is plugged in; the
device that is then plugged in appears suspended, and not enabled. -/
theorem suspended_before_connected : ∃ w w' op, operations.Reachable w ∧
    w.topo.reports 0 1 portStatSuspend = true ∧ w.topo.reports 0 1 portStatPower = false ∧
    operations.Reachable w' ∧ w'.topo.reports 0 1 portStatConnection = false ∧
    (w'.operate op).1.topo.reports 0 1 portStatConnection = true ∧
    (w'.operate op).1.topo.reports 0 1 portStatSuspend = true ∧
    (w'.operate op).1.topo.reports 0 1 portStatEnable = false := by
  obtain ⟨w, hw, hp⟩ := exists_reachable_of_exec (I := World.Initialised)
    (f := fun w op => some (World.operate w op).1) (s := World.oneHub)
    (l := [.hubControl 0 setPortFeature portFeatSuspend 1])
    (p := fun w => decide (w.topo.reports 0 1 portStatSuspend = true ∧
      w.topo.reports 0 1 portStatPower = false)) World.oneHub_initialised (by decide)
  obtain ⟨w', hw', hp'⟩ := exists_reachable_of_exec (I := World.Initialised)
    (f := fun w op => some (World.operate w op).1) (s := World.oneHub)
    (l := [.hubControl 0 setPortFeature portFeatSuspend 1, .setPortPower 0 1 true,
      .create 7 {}, .connection 0 true])
    (p := fun w => decide (w.topo.reports 0 1 portStatConnection = false ∧
      (w.operate (.attach 0 0 1)).1.topo.reports 0 1 portStatConnection = true ∧
      (w.operate (.attach 0 0 1)).1.topo.reports 0 1 portStatSuspend = true ∧
      (w.operate (.attach 0 0 1)).1.topo.reports 0 1 portStatEnable = false))
    World.oneHub_initialised (by decide)
  obtain ⟨hsus, hoff⟩ := of_decide_eq_true hp
  exact ⟨w, w', .attach 0 0 1, hw, hsus, hoff, hw', of_decide_eq_true hp'⟩

end VirtUsb
