/-
# Over-current conditions and their change bits

A hub knows of an over-current condition at one of two places: at each port in per-port
mode, and at the hub in global mode.  Both are reported as status, and there is a change
bit for each position, which the host acknowledges.  But `virtusb_hub_set_port_over_current`
and `virtusb_hub_set_over_current` store the condition and leave the change bits alone, so
a transition is reported only where the change of an earlier one is still pending.
-/

import VirtUsb.ControlPlane.StatusData

namespace VirtUsb

/-- The operations on the over-current conditions of a hub, and the acknowledgements of
the host. -/
inductive OverCurrentOperation
  | setPort (n : ℕ) (overCurrent : Bool)
  | setHub (overCurrent : Bool)
  | clearPort (kind : ChangeKind) (index : ℕ)
  | clearHub (value index : ℕ)
  deriving DecidableEq, Repr

namespace Topology

variable {t t' : Topology} {h : HcdId} {n : ℕ}

/-- An operation on hub `h`. -/
def overCurrentStep (h : HcdId) (t : Topology) : OverCurrentOperation → Topology
  | .setPort n overCurrent => (t.hubSetPortOverCurrent h n overCurrent).1
  | .setHub overCurrent => t.hubSetOverCurrent h overCurrent
  | .clearPort kind index => (t.hcdHubControl h clearPortFeature kind.feature index).1
  | .clearHub value index => (t.hcdHubControl h clearHubFeature value index).1

/-- The steps of a sequence of operations, each with the state before it. -/
def overCurrentSteps (h : HcdId) :
    Topology → List OverCurrentOperation → List (Topology × OverCurrentOperation)
  | _, [] => []
  | t, op :: ops => (t, op) :: overCurrentSteps h (t.overCurrentStep h op) ops

/-- The over-current status that the host reads: of the hub in the answer to `GetHubStatus`,
of a port in the answer to `GetPortStatus`. -/
def overCurrentStatus (t : Topology) (h : HcdId) (n : ℕ) : Bool :=
  if n = 0 then getUnalignedLe16 (t.hcdGetHubStatus h).buf &&& hubStatusOverCurrent ≠ 0
  else t.reports h n portStatOverCurrent

/-- A step between two states reports the over-current transitions: where the status
changed the change is pending, and the callback was made for it if it is new; and without a
change of the status no change bit is set. -/
structure OverCurrentReported (h : HcdId) (t t' : Topology) : Prop where
  pending : ∀ n, t'.overCurrentStatus h n ≠ t.overCurrentStatus h n →
    t'.isPending h n .overCurrent = true
  called : ∀ n, t'.overCurrentStatus h n ≠ t.overCurrentStatus h n →
    t.isPending h n .overCurrent = false → (t.hubs h).statusChanged = true →
      t.notified.count h < t'.notified.count h
  quiet : (∀ n, t'.overCurrentStatus h n = t.overCurrentStatus h n) →
    ∀ n kind, t'.isPending h n kind = true → t.isPending h n kind = true

/-- The operation is refused, or finds the condition as it sets it, or its change is still
pending. -/
def Settled (t : Topology) (h : HcdId) : OverCurrentOperation → Prop
  | .setPort n overCurrent =>
      (t.hubs h).overCurrentMode = .perPort → t.hubPortIsValid h n = true →
        (t.port (.downstream h (n - 1))).role = .downstream →
          (t.port (.downstream h (n - 1))).downstream.overCurrent = overCurrent ∨
            t.isPending h n .overCurrent = true
  | .setHub overCurrent =>
      (t.hubs h).overCurrentMode = .global →
        (t.hubs h).overCurrent = overCurrent ∨ t.isPending h 0 .overCurrent = true
  | .clearPort _ _ => True
  | .clearHub _ _ => True

/-! ### The status -/

/-- The status of the hub is its global over-current condition. -/
theorem overCurrentStatus_zero : t.overCurrentStatus h 0 = t.hubIsOverCurrent h := by
  have hword : getUnalignedLe16 (t.hcdGetHubStatus h).buf =
      flagIf (t.hubIsOverCurrent h) hubStatusOverCurrent := getUnalignedLe16_le16 _ _
  rw [overCurrentStatus, if_pos rfl, hword]
  cases t.hubIsOverCurrent h <;> rfl

/-- The status of a port is the over-current condition reported for it. -/
theorem overCurrentStatus_pos (hn : n ≠ 0) :
    t.overCurrentStatus h n = t.hubPortIsOverCurrent h n := by
  have hbit : (t.hcdBuildPortStatus h n).getLsbD 3 = t.hubPortIsOverCurrent h n := by
    simp only [hcdBuildPortStatus, BitVec.getLsbD_or, getLsbD_flagIf]
    cases t.hubGetPortSpeed h n <;>
      simp [portStatConnection, portStatEnable, portStatSuspend, portStatOverCurrent,
        portStatReset, portStatPower, portStatLowSpeed, portStatHighSpeed]
  rw [overCurrentStatus, if_neg hn]
  refine (reports_bit 3).trans ?_
  rw [hbit]
  cases hv : t.hubPortIsValid h n with
  | true => exact Bool.true_and _
  | false => simp [hubPortIsOverCurrent, hubGetPort, hv]

/-- The status of a port that exists. -/
theorem hubPortIsOverCurrent_eq (hv : t.hubPortIsValid h n = true) :
    t.hubPortIsOverCurrent h n = (decide ((t.hubs h).overCurrentMode = .perPort) &&
      (t.port (.downstream h (n - 1))).downstream.overCurrent) := by
  rw [hubPortIsOverCurrent, hubGetPort_of_valid hv]
  split <;> simp_all

/-- The over-current status is wired. -/
theorem overCurrentStatus_congr (hw : t'.wiring = t.wiring) (n : ℕ) :
    t'.overCurrentStatus h n = t.overCurrentStatus h n := by
  have hhub : t'.wiring.hubIsOverCurrent h = t.wiring.hubIsOverCurrent h := by rw [hw]
  have hport : t'.wiring.hubPortIsOverCurrent h n = t.wiring.hubPortIsOverCurrent h n := by
    rw [hw]
  rcases eq_or_ne n 0 with rfl | hn
  · rw [overCurrentStatus_zero, overCurrentStatus_zero]
    exact hhub
  · rw [overCurrentStatus_pos hn, overCurrentStatus_pos hn]
    exact hport

/-! ### What a step reports -/

/-- A step that changes no status and sets no change bit has nothing to report. -/
theorem OverCurrentReported.of_same
    (hstatus : ∀ n, t'.overCurrentStatus h n = t.overCurrentStatus h n)
    (hpending : ∀ n kind, t'.isPending h n kind = true → t.isPending h n kind = true) :
    OverCurrentReported h t t' where
  pending n hne := absurd (hstatus n) hne
  called n hne := absurd (hstatus n) hne
  quiet _ := hpending

/-- An acknowledgement has no transition to report. -/
theorem OverCurrentReported.clearChange (n : ℕ) (kind : ChangeKind) :
    OverCurrentReported h t (t.clearChange h n kind) := by
  refine .of_same (overCurrentStatus_congr (wiring_setUsbChange _)) fun m kind' hp => ?_
  rw [isPending_clearChange] at hp
  exact (Bool.and_eq_true_iff.1 hp).1

/-- **A condition that is set at position `n`** while the change bits stay as they are: it is
reported exactly if the status had the value, or its change is pending. -/
theorem reported_iff_of_set {overCurrent : Bool}
    (hpending : ∀ m kind, t'.isPending h m kind = t.isPending h m kind)
    (hstatus : ∀ m, t'.overCurrentStatus h m =
      if m = n then overCurrent else t.overCurrentStatus h m) :
    OverCurrentReported h t t' ↔
      t.overCurrentStatus h n = overCurrent ∨ t.isPending h n .overCurrent = true := by
  have hself : t'.overCurrentStatus h n = overCurrent := (hstatus n).trans (if_pos rfl)
  constructor
  · intro hr
    by_cases hsame : t.overCurrentStatus h n = overCurrent
    · exact .inl hsame
    · right
      rw [← hpending]
      exact hr.pending n fun heq => hsame (heq.symm.trans hself)
  · rintro (hsame | hp)
    · refine .of_same (fun m => ?_) fun m kind hp => (hpending m kind).symm.trans hp
      rw [hstatus m]
      split
      · rename_i hm
        rw [hm, hsame]
      · rfl
    · -- only the status at position `n` may have changed
      have hm : ∀ {m}, t'.overCurrentStatus h m ≠ t.overCurrentStatus h m → m = n := by
        intro m hne
        by_contra hmn
        exact hne ((hstatus m).trans (if_neg hmn))
      refine ⟨fun m hne => ?_, fun m hne hnot => ?_, fun _ m kind hp' => ?_⟩
      · rw [hm hne, hpending, hp]
      · rw [hm hne, hp] at hnot
        exact absurd hnot (by decide)
      · rwa [← hpending]

/-- Only a hub in global mode has a status of its own. -/
theorem overCurrentStatus_of_mode (hmode : (t.hubs h).overCurrentMode ≠ .global) :
    t.overCurrentStatus h 0 = false := by
  rw [overCurrentStatus_zero, hubIsOverCurrent, if_pos hmode]

/-! ### One operation -/

/-- A port whose condition may be set. -/
theorem reported_setPort_iff (hmode : (t.hubs h).overCurrentMode = .perPort)
    (hv : t.hubPortIsValid h n = true)
    (hrole : (t.port (.downstream h (n - 1))).role = .downstream) (overCurrent : Bool) :
    OverCurrentReported h t (t.overCurrentStep h (.setPort n overCurrent)) ↔
      (t.port (.downstream h (n - 1))).downstream.overCurrent = overCurrent ∨
        t.isPending h n .overCurrent = true := by
  have hn : n ≠ 0 := Nat.ne_of_gt (valid_iff.1 hv).1
  let x : Port := { t.port (.downstream h (n - 1)) with
    downstream := { (t.port (.downstream h (n - 1))).downstream with overCurrent := overCurrent } }
  have hstep : t.overCurrentStep h (.setPort n overCurrent) =
      t.setPort (.downstream h (n - 1)) x := by
    simp [overCurrentStep, hubSetPortOverCurrent, hmode, hubGetPort_of_valid hv, portSetOverCurrent,
      hrole, x]
  have hpanel := samePanel_setPort t (.downstream h (n - 1)) x
  have hmode' : ((t.setPort (.downstream h (n - 1)) x).hubs h).overCurrentMode = .perPort := by
    rw [setPort, hubs_setHub_self]
    exact hmode
  have hvalid : ∀ m, (t.setPort (.downstream h (n - 1)) x).hubPortIsValid h m =
      t.hubPortIsValid h m := fun m => by
    rw [hubPortIsValid, hpanel.portCount, hubPortIsValid]
  have hold : t.overCurrentStatus h n =
      (t.port (.downstream h (n - 1))).downstream.overCurrent := by
    rw [overCurrentStatus_pos hn, hubPortIsOverCurrent_eq hv, hmode]
    rfl
  rw [hstep, ← hold]
  refine reported_iff_of_set (fun m kind => ?_) fun m => ?_
  · rw [isPending, hpanel.usbChange, isPending]
  rcases eq_or_ne m 0 with rfl | hm
  · rw [if_neg hn.symm, overCurrentStatus_of_mode (by rw [hmode']; decide),
      overCurrentStatus_of_mode (by rw [hmode]; decide)]
  rw [overCurrentStatus_pos hm, overCurrentStatus_pos hm]
  by_cases hvm : t.hubPortIsValid h m = true
  · rw [hubPortIsOverCurrent_eq ((hvalid m).trans hvm), hubPortIsOverCurrent_eq hvm, hmode', hmode]
    split
    · rename_i hmn
      rw [hmn, port_setPort_self]
      rfl
    · rename_i hmn
      have hpos := (valid_iff.1 hvm).1
      rw [port_setPort_of_ne]
      intro heq
      have hidx : m - 1 = n - 1 := by simpa using heq
      omega
  · have hmn : m ≠ n := fun heq => hvm (heq ▸ hv)
    have hvm' : (t.setPort (.downstream h (n - 1)) x).hubPortIsValid h m ≠ true := by
      rwa [hvalid m]
    rw [if_neg hmn]
    simp [hubPortIsOverCurrent, hubGetPort, hvm, hvm']

/-- The condition of a hub in global mode. -/
theorem reported_setHub_iff (hmode : (t.hubs h).overCurrentMode = .global) (overCurrent : Bool) :
    OverCurrentReported h t (t.overCurrentStep h (.setHub overCurrent)) ↔
      (t.hubs h).overCurrent = overCurrent ∨ t.isPending h 0 .overCurrent = true := by
  have hstep : t.overCurrentStep h (.setHub overCurrent) =
      t.setHub h { t.hubs h with overCurrent := overCurrent } := by
    simp [overCurrentStep, hubSetOverCurrent, hmode]
  have hold : t.overCurrentStatus h 0 = (t.hubs h).overCurrent := by
    simp [overCurrentStatus_zero, hubIsOverCurrent, hmode]
  rw [hstep, ← hold]
  refine reported_iff_of_set (fun m kind => ?_) fun m => ?_
  · rw [isPending, hubs_setHub_self, isPending]
  split
  · rename_i hm
    subst hm
    rw [overCurrentStatus_zero, hubIsOverCurrent, hubs_setHub_self]
    simp [hmode]
  · rename_i hm
    rw [overCurrentStatus_pos hm, overCurrentStatus_pos hm, hubPortIsOverCurrent,
      hubPortIsOverCurrent, hubs_setHub_self]
    simp [hmode]

/-- **One operation reports its transition exactly if it is settled.** -/
theorem reported_iff_settled (t : Topology) (h : HcdId) (op : OverCurrentOperation) :
    OverCurrentReported h t (t.overCurrentStep h op) ↔ t.Settled h op := by
  have hsame : OverCurrentReported h t t := .of_same (fun _ => rfl) fun _ _ hp => hp
  cases op with
  | setPort n overCurrent =>
      by_cases hset : (t.hubs h).overCurrentMode = .perPort ∧ t.hubPortIsValid h n = true ∧
          (t.port (.downstream h (n - 1))).role = .downstream
      · obtain ⟨hmode, hv, hrole⟩ := hset
        rw [reported_setPort_iff hmode hv hrole]
        exact ⟨fun hr _ _ _ => hr, fun hs => hs hmode hv hrole⟩
      · have hstep : t.overCurrentStep h (.setPort n overCurrent) = t := by
          rw [overCurrentStep, hubSetPortOverCurrent]
          split
          · rfl
          rename_i hmode
          split
          · rfl
          rename_i p hget
          obtain ⟨hv, rfl⟩ := valid_of_hubGetPort hget
          rw [portSetOverCurrent, if_pos fun hrole => hset ⟨not_not.1 hmode, hv, hrole⟩]
        rw [hstep]
        exact ⟨fun _ hmode hv hrole => absurd ⟨hmode, hv, hrole⟩ hset, fun _ => hsame⟩
  | setHub overCurrent =>
      by_cases hmode : (t.hubs h).overCurrentMode = .global
      · rw [reported_setHub_iff hmode]
        exact ⟨fun hr _ => hr, fun hs => hs hmode⟩
      · have hstep : t.overCurrentStep h (.setHub overCurrent) = t := if_pos hmode
        rw [hstep]
        exact ⟨fun _ hglobal => absurd hglobal hmode, fun _ => hsame⟩
  | clearPort kind index =>
      refine iff_of_true ?_ trivial
      by_cases hv : t.hubPortIsValid h (index % 256) = true
      · rw [overCurrentStep, hcdHubControl_acknowledge hv]
        exact .clearChange _ _
      · have hstep : t.overCurrentStep h (.clearPort kind index) = t := by
          simp [overCurrentStep, hcdHubControl, hcdClearPortFeature, hubReply, hv, clearHubFeature,
            clearPortFeature]
        rw [hstep]
        exact hsame
  | clearHub value index =>
      refine iff_of_true ?_ trivial
      rw [overCurrentStep, hcdHubControl, if_pos rfl]
      split
      · exact hsame
      split
      · exact .clearChange 0 .overCurrent
      · exact hsame

end Topology

/-- **Exactly the settled operations report what they change.**  In a run of operations on
any hub, in any mode, all transitions are reported if and only if every operation that
changes a condition finds the change of an earlier transition still pending. -/
theorem over_current_reported_iff (h : HcdId) (t : Topology) (ops : List OverCurrentOperation) :
    (∀ x ∈ Topology.overCurrentSteps h t ops,
      Topology.OverCurrentReported h x.1 (x.1.overCurrentStep h x.2)) ↔
    ∀ x ∈ Topology.overCurrentSteps h t ops, x.1.Settled h x.2 :=
  forall₂_congr fun x _ => Topology.reported_iff_settled x.1 h x.2

/-- On a new hub, an over-current condition at port 1 is not reported as a change. -/
theorem over_current_not_reported : ¬ ∀ (t : Topology) (ops : List OverCurrentOperation),
    ∀ x ∈ Topology.overCurrentSteps 0 t ops,
      Topology.OverCurrentReported 0 x.1 (x.1.overCurrentStep 0 x.2) := by
  intro hall
  have hreported := hall World.oneHub.topo [.setPort 1 true] (World.oneHub.topo, .setPort 1 true)
    (by simp [Topology.overCurrentSteps])
  exact absurd (hreported.pending 1 (by decide)) (by decide)

end VirtUsb
