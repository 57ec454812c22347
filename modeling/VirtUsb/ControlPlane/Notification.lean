/-
# No connection change is lost

The USB core learns of a port from its change bits: it is told to look when one of
them becomes pending, reads the connection, and clears the bit with a
`ClearPortFeature`.  So that it never believes in a device that is gone, every
connection that changes is pending until it is cleared, nothing else clears a bit,
and there is one call for each bit that becomes pending.
-/

import VirtUsb.ControlPlane.Operations

namespace VirtUsb

open Transition

namespace Topology

variable {t t' : Topology} {h : HcdId} {n : ℕ}

/-! ### What the parts of an operation report -/

/-- A connected port has a number that fits the bitmaps. -/
theorem Wired.lt_of_connected (ht : t.Wired) (hc : t.hubPortIsConnected h n = true) : n < 32 := by
  refine ht.lt_of_valid (h := h) ?_
  by_contra hv
  rw [hubPortIsConnected, hubGetPort, if_pos (by simpa using hv)] at hc
  exact absurd hc (by simp)

/-- Changes are pending at numbers that fit the bitmaps. -/
theorem lt_of_isPending {kind : ChangeKind} (hp : t.isPending h n kind = true) : n < 32 := by
  rw [isPending, Bitmap.test_eq_getLsbD] at hp
  exact BitVec.lt_of_getLsbD hp

/-- Changes were raised and called for, and every connection that changed is
pending. -/
structure Reports (t t' : Topology) : Prop where
  raises : Notify.Raises (fun h => (t.hubs h).statusChanged) t.board t'.board
  connected : ∀ h n, t'.hubPortIsConnected h n ≠ t.hubPortIsConnected h n →
    t'.isPending h n .connected = true

/-- What changes neither the board nor a connection has nothing to report. -/
theorem Reports.of_board (hb : t'.board = t.board)
    (hc : ∀ h n, t'.hubPortIsConnected h n = t.hubPortIsConnected h n) : Reports t t' :=
  ⟨hb ▸ .refl _ _, fun h n hne => absurd (hc h n) hne⟩

/-- Every change of the wiring is reported. -/
theorem Rewired.reports (hr : Rewired t t') : Reports t t' := by
  have hstatus : ∀ {t'}, Rewired t t' → (fun h => (t'.hubs h).statusChanged) =
      fun h => (t.hubs h).statusChanged := by
    intro t' hr
    induction hr with
    | refl => rfl
    | tail _ hstep ih => exact (funext hstep.statusChanged).trans ih
  induction hr with
  | refl => exact .of_board rfl fun _ _ => rfl
  | @tail u v hr hstep ih =>
      have hraises := hstep.raises
      rw [hstatus hr] at hraises
      refine ⟨ih.raises.trans hraises, fun h n hne => ?_⟩
      by_cases hc : v.hubPortIsConnected h n = u.hubPortIsConnected h n
      · have hp := ih.connected h n (hc ▸ hne)
        exact (mem_pending.1 (hraises.kept h (mem_pending.2 ⟨lt_of_isPending hp, hp⟩))).2
      · exact hstep.reported h n hc

/-- A reset raises its change and changes no connection. -/
theorem Wired.reports_hubResetPort (ht : t.Wired) (h : HcdId) (n : ℕ) :
    Reports t (t.hubResetPort h n).1 := by
  rcases hr : (t.hubResetPort h n).2 with e | _
  · rw [hubResetPort_error hr]
    exact .of_board rfl fun _ _ => rfl
  · have hn := ht.lt_of_connected (ht.portState_hubResetPort hr).1
    obtain ⟨-, -, -, x, heq, -⟩ := hubResetPort_ok hn hr
    have hraises := (raises_reportChange (t := t.setUsb h x) (h := h) hn .reset).1
    have hstatus : (fun h' => ((t.setUsb h x).hubs h').statusChanged) =
        fun h' => (t.hubs h').statusChanged := funext (statusChanged_congr (wiring_setUsb x))
    rw [board_setUsb, hstatus, ← heq] at hraises
    exact ⟨hraises, fun h' m hne => absurd (connected_congr (wiring_hubResetPort n) m) hne⟩

/-- A hub-class request acknowledges one change, or reports what it changes. -/
theorem ControlEffect.reports {typeReq value : ℕ} (he : ControlEffect t h typeReq value n t')
    (ht : t.Wired) : Reports t t' ∨
      (∃ kind, typeReq = clearPortFeature ∧ value = kind.feature ∧ t' = t.clearChange h n kind) ∨
      t' = t.clearChange h 0 .overCurrent := by
  have hquiet : ∀ x, Reports t (t.setUsb h x) := fun x =>
    .of_board (board_setUsb x) fun h' m => connected_congr (wiring_setUsb x) m
  cases he with
  | none => exact .inl (.of_board rfl fun _ _ => rfl)
  | acknowledge kind hreq hvalue => exact .inr (.inl ⟨kind, hreq, hvalue, rfl⟩)
  | acknowledgeHub => exact .inr (.inr rfl)
  | disable => exact .inl (hquiet _)
  | resume => exact .inl (hquiet _)
  | suspend => exact .inl (hquiet _)
  | power powered => exact .inl (ht.hubSetPortPower h n powered).reports
  | reset => exact .inl (ht.reports_hubResetPort h n)

/-- An acknowledgement changes no connection. -/
theorem connected_clearChange (h' : HcdId) (n' : ℕ) (kind : ChangeKind) :
    (t.clearChange h' n' kind).hubPortIsConnected h n = t.hubPortIsConnected h n :=
  connected_congr (wiring_setUsbChange _) n

end Topology

/-! ### What an operation reports -/

/-- The operation is the `ClearPortFeature` that clears a change of a port. -/
def Operation.clears (op : Operation) (h : HcdId) (n : ℕ) (kind : ChangeKind) : Bool :=
  match op with
  | .hubControl h' typeReq value index =>
      h' = h && typeReq = clearPortFeature && value = kind.feature && index % 256 = n
  | _ => false

namespace Operation.Effect

variable {t t' : Topology} {op : Operation}

/-- An operation reports what it changes, or clears one change. -/
theorem reports (he : op.Effect t t') (ht : t.Wired) : t.Reports t' ∨
    ∃ h n kind, t' = t.clearChange h n kind ∧
      (op.clears h n kind = true ∨ n = 0 ∧ kind = .overCurrent) := by
  cases he with
  | rewired hr => exact .inl hr.reports
  | created _ _ hu => exact .inl (.of_board hu.board hu.connected)
  | callback h installed =>
      have hu := ht.unseen_callback h installed
      exact .inl (.of_board hu.board hu.connected)
  | reset h n => exact .inl (ht.reports_hubResetPort h n)
  | request h typeReq value index he =>
      rcases he.reports ht with hr | ⟨kind, rfl, rfl, rfl⟩ | rfl
      · exact .inl hr
      · exact .inr ⟨h, index % 256, kind, rfl, .inl (by simp [clears])⟩
      · exact .inr ⟨h, 0, .overCurrent, rfl, .inr ⟨rfl, rfl⟩⟩

/-- **Nothing but the matching request clears a change.** -/
theorem kept (he : op.Effect t t') (ht : t.Wired) {h : HcdId} {n : ℕ} {kind : ChangeKind}
    (hn : ¬ (n = 0 ∧ kind = .overCurrent)) (hp : t.isPending h n kind = true)
    (hop : op.clears h n kind = false) : t'.isPending h n kind = true := by
  rcases he.reports ht with hr | ⟨h', n', kind', rfl, hclear⟩
  · have hmem := hr.raises.kept h (Topology.mem_pending.2 ⟨Topology.lt_of_isPending hp, hp⟩)
    exact (Topology.mem_pending.1 hmem).2
  · rw [Topology.isPending_clearChange, hp]
    by_contra hne
    obtain ⟨rfl, rfl, rfl⟩ : h = h' ∧ n = n' ∧ kind = kind' := by simpa using hne
    rcases hclear with hclear | hhub
    · exact absurd (hop.symm.trans hclear) (by decide)
    · exact hn hhub

/-- A connection that an operation changes is pending. -/
theorem connected (he : op.Effect t t') (ht : t.Wired) {h : HcdId} {n : ℕ}
    (hne : t'.hubPortIsConnected h n ≠ t.hubPortIsConnected h n) :
    t'.isPending h n .connected = true := by
  rcases he.reports ht with hr | ⟨h', n', kind, rfl, -⟩
  · exact hr.connected h n hne
  · exact absurd (Topology.connected_clearChange h' n' kind) hne

/-- **One call for each change that becomes pending.** -/
theorem called (he : op.Effect t t') (ht : t.Wired) {h : HcdId}
    (hinstalled : (t.hubs h).statusChanged = true) :
    t'.notified.count h =
      t.notified.count h + (t'.board.pending h \ t.board.pending h).card := by
  rcases he.reports ht with hr | ⟨h', n', kind, rfl, -⟩
  · have hcalled := hr.raises.called h
    rwa [if_pos hinstalled] at hcalled
  · have hsub : (t.clearChange h' n' kind).board.pending h ⊆ t.board.pending h := by
      intro x hx
      obtain ⟨hlt, hp⟩ := Topology.mem_pending.1 hx
      rw [Topology.isPending_clearChange] at hp
      exact Topology.mem_pending.2 ⟨hlt, (Bool.and_eq_true_iff.1 hp).1⟩
    rw [Finset.sdiff_eq_empty_iff_subset.2 hsub]
    rfl

end Operation.Effect

/-! ### What the USB core knows -/

/-- The connection of a port at the last `ClearPortFeature` of its connection change. -/
def lastSeen (k : List (World × Operation)) (h : HcdId) (n : ℕ) : Bool :=
  match (k.filter fun x => x.2.clears h n .connected).getLast? with
  | none => false
  | some x => x.1.topo.hubPortIsConnected h n

/-- The last acknowledgement of a longer history is the new one, or the one from before. -/
theorem lastSeen_append (k : List (World × Operation)) (x : World × Operation) (h : HcdId) (n : ℕ) :
    lastSeen (k ++ [x]) h n =
      if x.2.clears h n .connected then x.1.topo.hubPortIsConnected h n else lastSeen k h n := by
  rw [lastSeen, List.filter_append]
  by_cases hx : x.2.clears h n .connected = true
  · simp [hx]
  · simp [hx, lastSeen]

/-- The connections as a value that the USB core tracks on the board. -/
def World.connections (w : World) (h : HcdId) (x : ℕ × ChangeKind) : Bool :=
  x.2 = .connected && w.topo.hubPortIsConnected h x.1

/-- What the USB core saw of them last. -/
def seen (k : List (World × Operation)) (h : HcdId) (x : ℕ × ChangeKind) : Bool :=
  x.2 = .connected && lastSeen k h x.1

/-- **In every run the USB core tracks every connection.** -/
theorem tracks_of_run {w₀ w : World} {k : List (World × Operation)} (h₀ : w₀.Initialised)
    (hr : Run operations w₀ k w) : w.topo.board.Tracks w.connections (seen k) := by
  induction hr with
  | nil =>
      rintro h ⟨n, kind⟩ -
      have hoff : w₀.topo.hubPortIsConnected h n = false :=
        Topology.not_connected_of_peer (h₀.peer _)
      simp [World.connections, seen, lastSeen, hoff]
  | @snoc k v u op hrun hstep ih =>
      obtain rfl : (v.operate op).1 = u := Option.some.inj hstep
      have hv : v.Sound := World.sound_of_reachable ⟨w₀, k, h₀, hrun⟩
      have he := hv.operate op
      have ht := hv.topo.wired
      refine Notify.Board.Tracks.step
        (A := fun h x => op.clears h x.1 x.2 = true ∨ x = (0, .overCurrent)) ih ?_ ?_ ?_
      · rintro h ⟨n, kind⟩ hne
        obtain ⟨rfl, hchanged⟩ : kind = .connected ∧
            (v.operate op).1.topo.hubPortIsConnected h n ≠ v.topo.hubPortIsConnected h n := by
          cases kind <;> simp_all [World.connections]
        have hp := he.connected ht hchanged
        exact Topology.mem_pending.2 ⟨Topology.lt_of_isPending hp, hp⟩
      · rintro h ⟨n, kind⟩ hmem
        obtain ⟨hlt, hp⟩ := Topology.mem_pending.1 hmem
        by_cases hack : op.clears h n kind = true ∨ (n, kind) = (0, .overCurrent)
        · exact .inr hack
        · obtain ⟨hop, hhub⟩ := not_or.1 hack
          have hkept := he.kept ht (fun hh => hhub (Prod.ext hh.1 hh.2)) hp
            (Bool.eq_false_of_not_eq_true hop)
          exact .inl (Topology.mem_pending.2 ⟨hlt, hkept⟩)
      · rintro h ⟨n, kind⟩
        by_cases hop : op.clears h n kind = true
        · refine .inl ⟨?_, .inl hop⟩
          cases kind <;> simp_all [seen, World.connections, lastSeen_append]
        · by_cases hhub : (n, kind) = (0, .overCurrent)
          · obtain ⟨rfl, rfl⟩ := Prod.mk.inj hhub
            exact .inl ⟨rfl, .inr rfl⟩
          · refine .inr ⟨?_, not_or.2 ⟨hop, hhub⟩⟩
            cases kind <;> simp_all [seen, lastSeen_append]

/-! ### The result -/

/-- **No connection change is lost, and notification is exact.**  In every run a port
whose connection change is not pending is connected as it was when the change was
last cleared; the change bits of a port are cleared by the request for them and by
nothing else; and an installed callback is called once for each bit that an operation
sets. -/
theorem no_change_lost {w₀ w : World} {k : List (World × Operation)} (h₀ : w₀.Initialised)
    (hr : Run operations w₀ k w) (h : HcdId) (n : ℕ) :
    (w.topo.isPending h n .connected = false →
      w.topo.hubPortIsConnected h n = lastSeen k h n) ∧
    (∀ op kind, 0 < n → w.topo.isPending h n kind = true → op.clears h n kind = false →
      (w.operate op).1.topo.isPending h n kind = true) ∧
    ∀ op, (w.topo.hubs h).statusChanged = true →
      (w.operate op).1.topo.notified.count h = w.topo.notified.count h +
        ((w.operate op).1.topo.board.pending h \ w.topo.board.pending h).card := by
  have hw : w.Sound := World.sound_of_reachable ⟨w₀, k, h₀, hr⟩
  have ht := hw.topo.wired
  refine ⟨fun hp => ?_, fun op kind hn hp hop => ?_, fun op hinstalled => ?_⟩
  · have hmem : (n, ChangeKind.connected) ∉ w.topo.board.pending h := fun hmem =>
      absurd (hp.symm.trans (Topology.mem_pending.1 hmem).2) (by decide)
    simpa [World.connections, seen] using tracks_of_run h₀ hr h (n, .connected) hmem
  · exact (hw.operate op).kept ht (fun hh => absurd hh.1 (Nat.ne_of_gt hn)) hp hop
  · exact (hw.operate op).called ht hinstalled

/-- A device that was plugged and acknowledged: the port is connected, its change is
not pending, and the USB core saw it connected. -/
theorem no_change_lost_example : ∃ k w, Run operations World.oneHub k w ∧
    w.topo.isPending 0 1 .connected = false ∧ w.topo.hubPortIsConnected 0 1 = true ∧
    lastSeen k 0 1 = true := by
  obtain ⟨w, k, hr, -, hw⟩ := exists_run_of_exec (I := World.Initialised)
    (f := fun w op => some (World.operate w op).1) (C := fun _ _ => True) (s := World.oneHub)
    (l := [.create 7 {}, .connection 0 true, .attach 0 0 1, .setPortPower 0 1 true,
      .hubControl 0 clearPortFeature portFeatCConnection 1])
    (p := fun w => !w.topo.isPending 0 1 .connected && w.topo.hubPortIsConnected 0 1) (by decide)
  obtain ⟨hp, hc⟩ := Bool.and_eq_true_iff.1 hw
  have hp : w.topo.isPending 0 1 .connected = false := by simpa using hp
  have hseen := (no_change_lost World.oneHub_initialised hr 0 1).1 hp
  exact ⟨k, w, hr, hp, hc, hseen.symm.trans hc⟩

end VirtUsb
