/-
# What a topology shows of its ports

A topology has a wired side, which is who is attached to whom and what powers and
signals, and a panel, which is the protocol state, the pending changes and the
calls of the status-changed callback.  The connection of a port follows from the
wiring alone.  For each function there is one theorem about what it does to the
state of every port, the pending changes and the calls.
-/

import VirtUsb.Kernel.HubControl
import VirtUsb.Lib.Notify
import Mathlib.Data.Fintype.Prod
import Mathlib.Data.Finset.Prod

namespace VirtUsb

/-- The kinds of change that a hub reports of a port. -/
inductive ChangeKind
  | connected | enabled | suspended | reset | overCurrent
  deriving DecidableEq, Repr

instance : Fintype ChangeKind where
  elems := {.connected, .enabled, .suspended, .reset, .overCurrent}
  complete := fun kind => by cases kind <;> simp

/-- The feature selector that acknowledges a change, `USB_PORT_FEAT_C_*`. -/
def ChangeKind.feature : ChangeKind → ℕ
  | .connected => portFeatCConnection
  | .enabled => portFeatCEnable
  | .suspended => portFeatCSuspend
  | .reset => portFeatCReset
  | .overCurrent => portFeatCOverCurrent

/-- The protocol state of a port. -/
structure PortState where
  enabled : Bool := false
  suspended : Bool := false
  reset : Bool := false
  speed : PortSpeed := .none
  deriving DecidableEq, Repr

/-- A speed survives being packed into its two bits. -/
theorem PortSpeed.ofCode_code (speed : PortSpeed) :
    ofCode (speed.code &&& Bitmap.valueMask 32 portSpeedBits) = speed := by
  cases speed <;> decide

namespace HubPortUsbChange

/-- The bitmap of a kind of change. -/
def bits (change : HubPortUsbChange) : ChangeKind → BitVec 32
  | .connected => change.connected
  | .enabled => change.enabled
  | .suspended => change.suspended
  | .reset => change.reset
  | .overCurrent => change.overCurrent

/-- The bitmaps after an update of one of them. -/
def setBits (change : HubPortUsbChange) (kind : ChangeKind) (b : BitVec 32) : HubPortUsbChange :=
  match kind with
  | .connected => { change with connected := b }
  | .enabled => { change with enabled := b }
  | .suspended => { change with suspended := b }
  | .reset => { change with reset := b }
  | .overCurrent => { change with overCurrent := b }

/-- An update of one bitmap of changes leaves the others as they were. -/
theorem bits_setBits (change : HubPortUsbChange) (kind kind' : ChangeKind) (b : BitVec 32) :
    (change.setBits kind b).bits kind' = if kind' = kind then b else change.bits kind' := by
  cases kind <;> cases kind' <;> rfl

end HubPortUsbChange

namespace Topology

variable (t : Topology) (h : HcdId)

/-- The topology without protocol state, pending changes and calls. -/
def wiring : Topology where
  hubs h := { t.hubs h with usb := {}, usbChange := {} }
  upstream := t.upstream
  notified := []

/-- The protocol state that the hub has of port `n`. -/
def portState (n : ℕ) : PortState where
  enabled := Bitmap.test (t.hubs h).usb.enabled n
  suspended := Bitmap.test (t.hubs h).usb.suspended n
  reset := Bitmap.test (t.hubs h).usb.reset n
  speed := t.hubGetPortSpeed h n

/-- The change is pending at the port. -/
def isPending (n : ℕ) (kind : ChangeKind) : Bool :=
  Bitmap.test ((t.hubs h).usbChange.bits kind) n

/-- The pending changes of each hub, and the calls of its callback. -/
def board : Notify.Board HcdId (ℕ × ChangeKind) where
  pending h := (Finset.range 32 ×ˢ Finset.univ).filter fun x => t.isPending h x.1 x.2
  calls h := t.notified.count h

variable {t h}

/-! ### The wired side -/

/-- The connection of a port follows from the wiring. -/
theorem connected_wiring (n : ℕ) : t.wiring.hubPortIsConnected h n = t.hubPortIsConnected h n := rfl

/-- So does whether a number is one of a port. -/
theorem valid_wiring (n : ℕ) : t.wiring.hubPortIsValid h n = t.hubPortIsValid h n := rfl

/-- So does the speed at which a port would come up. -/
theorem determine_wiring (n : ℕ) :
    t.wiring.hubDeterminePortSpeed h n = t.hubDeterminePortSpeed h n := rfl

/-- So does the wired side of every port. -/
theorem port_wiring (p : PortRef) : t.wiring.port p = t.port p := by
  cases p <;> rfl

section Congr

variable {t' : Topology} (hw : t'.wiring = t.wiring)

include hw

/-- Topologies wired alike have the same ports connected. -/
theorem connected_congr (n : ℕ) : t'.hubPortIsConnected h n = t.hubPortIsConnected h n := by
  rw [← connected_wiring, hw, connected_wiring]

/-- Topologies wired alike have the same ports. -/
theorem valid_congr (n : ℕ) : t'.hubPortIsValid h n = t.hubPortIsValid h n := by
  rw [← valid_wiring, hw, valid_wiring]

/-- Topologies wired alike come up at the same speeds. -/
theorem determine_congr (n : ℕ) : t'.hubDeterminePortSpeed h n = t.hubDeterminePortSpeed h n := by
  rw [← determine_wiring, hw, determine_wiring]

/-- Topologies wired alike agree about every port. -/
theorem port_congr (p : PortRef) : t'.port p = t.port p := by
  rw [← port_wiring, hw, port_wiring]

end Congr

/-- An update of one hub that leaves its wired side as it is. -/
theorem wiring_setHub {x : Hub} (hx : { x with usb := {}, usbChange := {} } =
    ({ t.hubs h with usb := {}, usbChange := {} } : Hub)) : (t.setHub h x).wiring = t.wiring := by
  have hhubs : (t.setHub h x).wiring.hubs = t.wiring.hubs := by
    funext h'
    rcases eq_or_ne h' h with rfl | hne
    · simpa [wiring, setHub] using hx
    · simp [wiring, setHub, hne]
  simp only [wiring, Topology.mk.injEq] at hhubs ⊢
  exact ⟨hhubs, rfl, trivial⟩

/-- Protocol state is not wired. -/
@[simp]
theorem wiring_setUsb (x : HubPortUsbState) : (t.setUsb h x).wiring = t.wiring :=
  wiring_setHub rfl

/-- Pending changes are not wired. -/
@[simp]
theorem wiring_setUsbChange (x : HubPortUsbChange) : (t.setUsbChange h x).wiring = t.wiring :=
  wiring_setHub rfl

/-- A call of the callback is not wired. -/
@[simp]
theorem wiring_hubNotifyStatusChanged : (t.hubNotifyStatusChanged h).wiring = t.wiring := by
  rw [hubNotifyStatusChanged]
  split <;> rfl

/-- The speed of a port is not wired. -/
@[simp]
theorem wiring_hubSetPortSpeed (n : ℕ) (speed : PortSpeed) :
    (t.hubSetPortSpeed h n speed).wiring = t.wiring := by
  simp [hubSetPortSpeed]

/-- Clearing the protocol state of a port moves no wire. -/
@[simp]
theorem wiring_hubClearPortState (n : ℕ) : (t.hubClearPortState h n).wiring = t.wiring := by
  simp [hubClearPortState]

/-- Reporting a connection change moves no wire. -/
@[simp]
theorem wiring_hubMarkPortConnectionChange (n : ℕ) :
    (t.hubMarkPortConnectionChange h n).wiring = t.wiring := by
  simp only [hubMarkPortConnectionChange]
  split
  · rfl
  · split <;> split <;> simp

/-- A port reset moves no wire. -/
@[simp]
theorem wiring_hubResetPort (n : ℕ) : (t.hubResetPort h n).1.wiring = t.wiring := by
  simp only [hubResetPort]
  split
  · rfl
  split
  · rfl
  split
  · rfl
  split <;> simp

/-! ### The panel -/

/-- The hub that was written. -/
@[simp]
theorem hubs_setHub_self (x : Hub) : (t.setHub h x).hubs h = x := by
  simp [setHub]

/-- The other hubs. -/
theorem hubs_setHub_of_ne (x : Hub) {h' : HcdId} (hne : h' ≠ h) :
    (t.setHub h x).hubs h' = t.hubs h' := by
  simp [setHub, hne]

/-- What an update of one hub leaves of that hub, it leaves of every hub. -/
theorem congr_setHub {α : Type} (f : Hub → α) {x : Hub} (hx : f x = f (t.hubs h)) (h' : HcdId) :
    f ((t.setHub h x).hubs h') = f (t.hubs h') := by
  rcases eq_or_ne h' h with rfl | hne
  · rw [hubs_setHub_self, hx]
  · rw [hubs_setHub_of_ne x hne]

/-- The reported speed is that of the packed map, and none at a number that is no port. -/
theorem hubGetPortSpeed_eq (n : ℕ) : t.hubGetPortSpeed h n =
    bif t.hubPortIsValid h n then
      .ofCode (Bitmap.packedGet (t.hubs h).usb.speed portSpeedBits n)
    else .none := by
  rw [hubGetPortSpeed]
  cases t.hubPortIsValid h n <;> rfl

/-- The pending changes of the board are those of the bitmaps. -/
theorem mem_pending {n : ℕ} {kind : ChangeKind} :
    (n, kind) ∈ t.board.pending h ↔ n < 32 ∧ t.isPending h n kind = true := by
  simp [board]

/-- Hubs with the same protocol bits and port count show the same port states. -/
theorem portState_congr {t' : Topology} (hu : (t'.hubs h).usb = (t.hubs h).usb)
    (hc : (t'.hubs h).portCount = (t.hubs h).portCount) (n : ℕ) :
    t'.portState h n = t.portState h n := by
  simp only [portState, hubGetPortSpeed_eq, hubPortIsValid, hu, hc]

/-- The board is made of the change bits and of the calls. -/
theorem board_congr {t' : Topology} (hc : ∀ h, (t'.hubs h).usbChange = (t.hubs h).usbChange)
    (hn : t'.notified = t.notified) : t'.board = t.board := by
  have hpending : t'.isPending = t.isPending := by
    funext h n kind
    rw [isPending, isPending, hc]
  rw [board, board, hpending, hn]

/-- A hub of which the protocol state of port `n` only was changed. -/
theorem portState_setUsb {x : HubPortUsbState} {n : ℕ} {state : PortState}
    (he : Bitmap.test x.enabled n = state.enabled) (hs : Bitmap.test x.suspended n = state.suspended)
    (hr : Bitmap.test x.reset n = state.reset)
    (hv : t.hubPortIsValid h n = true →
      PortSpeed.ofCode (Bitmap.packedGet x.speed portSpeedBits n) = state.speed)
    (hi : t.hubPortIsValid h n = false → state.speed = .none)
    (hother : ∀ m, m ≠ n → Bitmap.test x.enabled m = Bitmap.test (t.hubs h).usb.enabled m ∧
      Bitmap.test x.suspended m = Bitmap.test (t.hubs h).usb.suspended m ∧
      Bitmap.test x.reset m = Bitmap.test (t.hubs h).usb.reset m ∧
      Bitmap.packedGet x.speed portSpeedBits m =
        Bitmap.packedGet (t.hubs h).usb.speed portSpeedBits m) (h' : HcdId) (m : ℕ) :
    (t.setUsb h x).portState h' m = if h' = h ∧ m = n then state else t.portState h' m := by
  rcases eq_or_ne h' h with rfl | hne
  · have hvalid : (t.setUsb h' x).hubPortIsValid h' m = t.hubPortIsValid h' m :=
      valid_congr (wiring_setUsb x) m
    rcases eq_or_ne m n with rfl | hmn
    · obtain ⟨enabled, suspended, reset, speed⟩ := state
      simp only [portState, hubGetPortSpeed_eq, hvalid]
      cases hval : t.hubPortIsValid h' m
      · simp_all [setUsb]
      · simp_all [setUsb]
    · obtain ⟨h₁, h₂, h₃, h₄⟩ := hother m hmn
      simp only [portState, hubGetPortSpeed_eq, hvalid, hmn, and_false, if_false]
      simp only [setUsb, hubs_setHub_self, h₁, h₂, h₃, h₄]
  · have hsame := hubs_setHub_of_ne (t := t) { t.hubs h with usb := x } hne
    rw [if_neg fun hh => hne hh.1]
    exact portState_congr (by rw [setUsb, hsame]) (by rw [setUsb, hsame]) m

/-- An update of the enable and suspend bits, as the ports see it. -/
theorem portState_setUsb_bits (enabled suspended : BitVec 32) (h' : HcdId) (m : ℕ) :
    (t.setUsb h { (t.hubs h).usb with enabled := enabled, suspended := suspended }).portState h' m =
      if h' = h then
        { t.portState h' m with
          enabled := Bitmap.test enabled m, suspended := Bitmap.test suspended m }
      else t.portState h' m := by
  set x : HubPortUsbState := { (t.hubs h).usb with enabled := enabled, suspended := suspended }
  have hvalid := valid_congr (h := h') (wiring_setUsb (t := t) (h := h) x) m
  split
  · rename_i heq
    subst heq
    simp only [portState, hubGetPortSpeed_eq, hvalid]
    rw [setUsb, hubs_setHub_self]
  · rename_i hne
    have hsame := hubs_setHub_of_ne (t := t) { t.hubs h with usb := x } hne
    exact portState_congr (by rw [setUsb, hsame]) (by rw [setUsb, hsame]) m

/-- Clearing a port resets its protocol state and that of no other port. -/
theorem portState_hubClearPortState (n : ℕ) (h' : HcdId) (m : ℕ) :
    (t.hubClearPortState h n).portState h' m =
      if h' = h ∧ m = n then {} else t.portState h' m := by
  have heq : t.hubClearPortState h n = t.setUsb h
      { enabled := Bitmap.clear (t.hubs h).usb.enabled n
        suspended := Bitmap.clear (t.hubs h).usb.suspended n
        reset := Bitmap.clear (t.hubs h).usb.reset n
        speed := Bitmap.packedSet (t.hubs h).usb.speed portSpeedBits n PortSpeed.none.code } := by
    simp [hubClearPortState, hubSetPortSpeed, setUsb, setHub]
  rw [heq]
  refine portState_setUsb (by simp) (by simp) (by simp) (fun _ => ?_) (fun _ => rfl)
    (fun m hm => ?_) h' m
  · rw [Bitmap.packedGet_packedSet_self (by decide) (by decide)]
    exact PortSpeed.ofCode_code .none
  · exact ⟨Bitmap.test_clear_of_ne _ hm, Bitmap.test_clear_of_ne _ hm, Bitmap.test_clear_of_ne _ hm,
      Bitmap.packedGet_packedSet_of_ne (by decide) (by decide) _ hm _⟩

/-! ### Reporting a change -/

/-- The change is made pending and the callback called, unless it is pending. -/
def reportChange (t : Topology) (h : HcdId) (n : ℕ) (kind : ChangeKind) : Topology :=
  let change := (t.hubs h).usbChange
  if t.isPending h n kind then t
  else
    (t.setUsbChange h (change.setBits kind (Bitmap.set (change.bits kind) n))).hubNotifyStatusChanged
      h

/-- A report moves no wire. -/
@[simp]
theorem wiring_reportChange (n : ℕ) (kind : ChangeKind) :
    (t.reportChange h n kind).wiring = t.wiring := by
  simp only [reportChange]
  split <;> simp

/-- A call of the callback leaves the hubs as they are. -/
theorem hubs_hubNotifyStatusChanged : (t.hubNotifyStatusChanged h).hubs = t.hubs := by
  rw [hubNotifyStatusChanged]
  split <;> rfl

/-- A report changes no protocol state. -/
@[simp]
theorem portState_reportChange (n : ℕ) (kind : ChangeKind) (h' : HcdId) (m : ℕ) :
    (t.reportChange h n kind).portState h' m = t.portState h' m := by
  simp only [reportChange]
  split
  · rfl
  · refine portState_congr ?_ ?_ m
    all_goals
      rw [hubs_hubNotifyStatusChanged, setUsbChange]
      rcases eq_or_ne h' h with rfl | hne
      · rw [hubs_setHub_self]
      · rw [hubs_setHub_of_ne _ hne]

/-- After an update of one bitmap, that kind of change is pending where the new bitmap says so. -/
theorem isPending_setBits {kind : ChangeKind} {b : BitVec 32} (h' : HcdId) (m : ℕ)
    (kind' : ChangeKind) :
    (t.setUsbChange h ((t.hubs h).usbChange.setBits kind b)).isPending h' m kind' =
      if h' = h ∧ kind' = kind then Bitmap.test b m else t.isPending h' m kind' := by
  rcases eq_or_ne h' h with rfl | hne
  · rw [isPending, setUsbChange, hubs_setHub_self, HubPortUsbChange.bits_setBits]
    by_cases hk : kind' = kind
    · simp [hk]
    · simp [hk, isPending]
  · rw [if_neg fun hh => hne hh.1, isPending, setUsbChange, hubs_setHub_of_ne _ hne, isPending]

/-- **A reported change is pending, and was called for if it is new.** -/
theorem raises_reportChange {n : ℕ} (hn : n < 32) (kind : ChangeKind) :
    Notify.Raises (fun h => (t.hubs h).statusChanged) t.board (t.reportChange h n kind).board ∧
      (t.reportChange h n kind).isPending h n kind = true := by
  by_cases hp : t.isPending h n kind = true
  · have hsame : t.reportChange h n kind = t := if_pos hp
    rw [hsame]
    exact ⟨.refl _ _, hp⟩
  · set raised := t.setUsbChange h ((t.hubs h).usbChange.setBits kind
      (Bitmap.set ((t.hubs h).usbChange.bits kind) n)) with hraised
    have heq : t.reportChange h n kind = raised.hubNotifyStatusChanged h := if_neg hp
    have hpend : ∀ h' m kind', (raised.hubNotifyStatusChanged h).isPending h' m kind' =
        (t.isPending h' m kind' || decide (h' = h ∧ m = n ∧ kind' = kind)) := by
      intro h' m kind'
      rw [isPending, hubs_hubNotifyStatusChanged, ← isPending, hraised, isPending_setBits]
      by_cases hk : h' = h ∧ kind' = kind
      · obtain ⟨rfl, rfl⟩ := hk
        rw [if_pos ⟨rfl, rfl⟩, Bitmap.test_set _ hn]
        simp [isPending]
      · rw [if_neg hk]
        have hk' : ¬ (h' = h ∧ m = n ∧ kind' = kind) := fun hh => hk ⟨hh.1, hh.2.2⟩
        simp [hk']
    rw [heq]
    refine ⟨.of_insert (c := h) (f := (n, kind)) ?_ ?_, by rw [hpend]; simp⟩
    · funext h'
      ext ⟨m, kind'⟩
      rcases eq_or_ne h' h with rfl | hne
      · rw [Function.update_self, Finset.mem_insert, mem_pending, mem_pending, hpend]
        simp only [true_and, Bool.or_eq_true, decide_eq_true_eq, Prod.mk.injEq]
        constructor
        · rintro ⟨hm, hold | hnew⟩
          · exact .inr ⟨hm, hold⟩
          · exact .inl hnew
        · rintro (⟨rfl, rfl⟩ | ⟨hm, hold⟩)
          · exact ⟨hn, .inr ⟨rfl, rfl⟩⟩
          · exact ⟨hm, .inl hold⟩
      · rw [Function.update_of_ne hne, mem_pending, mem_pending, hpend]
        simp [hne]
    · have hnew : (n, kind) ∉ t.board.pending h := fun hmem => hp (mem_pending.1 hmem).2
      funext h'
      have hstatus : (raised.hubs h).statusChanged = (t.hubs h).statusChanged := by
        rw [hraised, setUsbChange, hubs_setHub_self]
      have hnotified : raised.notified = t.notified := rfl
      simp only [hnew, not_false_eq_true, and_true]
      rcases eq_or_ne h' h with rfl | hne
      · rw [Function.update_self]
        simp only [board, hubNotifyStatusChanged, hstatus]
        split
        · simp [hnotified]
        · simp [hnotified]
      · rw [Function.update_of_ne hne]
        simp only [board, hubNotifyStatusChanged, hstatus]
        split
        · simp [hnotified, hne.symm]
        · simp [hnotified]

/-! ### A change of the connection -/

/-- Whether a hub has a callback is wired. -/
theorem statusChanged_congr {t' : Topology} (hw : t'.wiring = t.wiring) (h : HcdId) :
    (t'.hubs h).statusChanged = (t.hubs h).statusChanged := by
  have hsame : (t'.wiring.hubs h).statusChanged = (t.wiring.hubs h).statusChanged := by rw [hw]
  exact hsame

/-- Protocol state is not on the board. -/
theorem board_setUsb (x : HubPortUsbState) : (t.setUsb h x).board = t.board := by
  refine board_congr (fun h' => ?_) rfl
  rcases eq_or_ne h' h with rfl | hne
  · rw [setUsb, hubs_setHub_self]
  · rw [setUsb, hubs_setHub_of_ne _ hne]

/-- **A connection change that is marked** clears the protocol state of a port that
is not connected any more, and is reported. -/
theorem hubMark_eq {n : ℕ} (hv : t.hubPortIsValid h n = true) :
    t.hubMarkPortConnectionChange h n =
      (if t.hubPortIsConnected h n then t else t.hubClearPortState h n).reportChange h n
        .connected := by
  simp only [hubMarkPortConnectionChange, hv, Bool.not_true, Bool.false_eq_true, if_false]
  cases t.hubPortIsConnected h n <;> rfl

/-- A connection change resets the protocol state of its port if the port lost its connection, and
touches no other port. -/
theorem portState_hubMark {n : ℕ} (hv : t.hubPortIsValid h n = true) (h' : HcdId) (m : ℕ) :
    (t.hubMarkPortConnectionChange h n).portState h' m =
      if (h' = h ∧ m = n) ∧ t.hubPortIsConnected h n = false then {} else t.portState h' m := by
  rw [hubMark_eq hv, portState_reportChange]
  cases t.hubPortIsConnected h n with
  | true => simp
  | false => simpa using portState_hubClearPortState n h' m

/-- A connection change raises changes, each with a call of the callback, and is itself pending
afterwards. -/
theorem raises_hubMark {n : ℕ} (hv : t.hubPortIsValid h n = true) (hn : n < 32) :
    Notify.Raises (fun h => (t.hubs h).statusChanged) t.board
        (t.hubMarkPortConnectionChange h n).board ∧
      (t.hubMarkPortConnectionChange h n).isPending h n .connected = true := by
  rw [hubMark_eq hv]
  cases t.hubPortIsConnected h n with
  | true => exact raises_reportChange hn .connected
  | false =>
      obtain ⟨hraise, hpend⟩ :=
        raises_reportChange (t := t.hubClearPortState h n) (h := h) hn .connected
      have hboard : (t.hubClearPortState h n).board = t.board :=
        (board_setUsb _).trans (board_setUsb _)
      have hstatus : (fun h' => ((t.hubClearPortState h n).hubs h').statusChanged) =
          fun h' => (t.hubs h').statusChanged :=
        funext (statusChanged_congr (wiring_hubClearPortState n))
      rw [hboard, hstatus] at hraise
      exact ⟨hraise, hpend⟩

/-! ### A reset -/

/-- A reset that fails changes nothing. -/
theorem hubResetPort_error {n : ℕ} {e : Errno} (hr : (t.hubResetPort h n).2 = .error e) :
    (t.hubResetPort h n).1 = t := by
  simp only [hubResetPort] at hr ⊢
  split
  · rfl
  split
  · rfl
  split
  · rfl
  · rename_i h₁ h₂ h₃
    rw [if_neg h₁, if_neg h₂, if_neg h₃] at hr
    split at hr <;> simp at hr

/-- A port that is valid and connected and would get a speed can be reset. -/
theorem hubResetPort_eq {n : ℕ} (hv : t.hubPortIsValid h n = true)
    (hc : t.hubPortIsConnected h n = true) (hs : t.hubDeterminePortSpeed h n ≠ .none) :
    t.hubResetPort h n = ((t.setUsb h
      { enabled := Bitmap.set (Bitmap.clear (t.hubs h).usb.enabled n) n
        suspended := Bitmap.clear (t.hubs h).usb.suspended n
        reset := Bitmap.clear (Bitmap.set (t.hubs h).usb.reset n) n
        speed := Bitmap.packedSet (t.hubs h).usb.speed portSpeedBits n
          (t.hubDeterminePortSpeed h n).code }).reportChange h n .reset, .ok ()) := by
  simp only [hubResetPort, hv, hc, hs, Bool.not_true, Bool.false_eq_true, if_false]
  simp only [reportChange, isPending, HubPortUsbChange.bits, HubPortUsbChange.setBits,
    hubSetPortSpeed, setUsb, setHub, Function.update_self, Function.update_idem]
  split <;> simp_all

/-- A reset succeeds exactly if the port is connected and would get a speed. -/
theorem hubResetPort_ok_iff {n : ℕ} : (t.hubResetPort h n).2 = .ok () ↔
    t.hubPortIsValid h n = true ∧ t.hubPortIsConnected h n = true ∧
      t.hubDeterminePortSpeed h n ≠ .none := by
  constructor
  · intro hr
    by_cases hv : t.hubPortIsValid h n = true
    swap
    · simp [hubResetPort, hv] at hr
    by_cases hc : t.hubPortIsConnected h n = true
    swap
    · simp [hubResetPort, hv, hc] at hr
    by_cases hs : t.hubDeterminePortSpeed h n = .none
    · simp [hubResetPort, hv, hc, hs] at hr
    · exact ⟨hv, hc, hs⟩
  · rintro ⟨hv, hc, hs⟩
    rw [hubResetPort_eq hv hc hs]

/-- **A reset that succeeds** found the port connected and a common speed; it
enables the port with that speed and reports its end. -/
theorem hubResetPort_ok {n : ℕ} (hn : n < 32) (hr : (t.hubResetPort h n).2 = .ok ()) :
    t.hubPortIsValid h n = true ∧ t.hubPortIsConnected h n = true ∧
      t.hubDeterminePortSpeed h n ≠ .none ∧
      ∃ x, (t.hubResetPort h n).1 = (t.setUsb h x).reportChange h n .reset ∧
        (∀ h' m, (t.setUsb h x).portState h' m =
          if h' = h ∧ m = n then { enabled := true, speed := t.hubDeterminePortSpeed h n }
          else t.portState h' m) := by
  obtain ⟨hv, hc, hs⟩ := hubResetPort_ok_iff.1 hr
  refine ⟨hv, hc, hs, _, congrArg Prod.fst (hubResetPort_eq hv hc hs), ?_⟩
  refine portState_setUsb ?_ (by simp) (by simp) (fun _ => ?_) (fun hno => ?_) (fun m hm => ?_)
  · exact Bitmap.test_set_self _ hn
  · rw [Bitmap.packedGet_packedSet_self (by decide) (by decide)]
    exact PortSpeed.ofCode_code _
  · rw [hv] at hno
    exact absurd hno (by decide)
  · exact ⟨by rw [Bitmap.test_set_of_ne _ hm, Bitmap.test_clear_of_ne _ hm],
      Bitmap.test_clear_of_ne _ hm,
      by rw [Bitmap.test_clear_of_ne _ hm, Bitmap.test_set_of_ne _ hm],
      Bitmap.packedGet_packedSet_of_ne (by decide) (by decide) _ hm _⟩

/-! ### Requests of the USB core -/

/-- The change is not pending any more. -/
def clearChange (t : Topology) (h : HcdId) (n : ℕ) (kind : ChangeKind) : Topology :=
  let change := (t.hubs h).usbChange
  t.setUsbChange h (change.setBits kind (Bitmap.clear (change.bits kind) n))

/-- An acknowledgement clears the one bit and no other. -/
theorem isPending_clearChange (n : ℕ) (kind : ChangeKind) (h' : HcdId) (m : ℕ)
    (kind' : ChangeKind) : (t.clearChange h n kind).isPending h' m kind' =
      (t.isPending h' m kind' && !decide (h' = h ∧ m = n ∧ kind' = kind)) := by
  rw [clearChange, isPending_setBits]
  by_cases hk : h' = h ∧ kind' = kind
  · obtain ⟨rfl, rfl⟩ := hk
    rw [if_pos ⟨rfl, rfl⟩, Bitmap.test_clear]
    simp [isPending]
  · rw [if_neg hk]
    have hk' : ¬ (h' = h ∧ m = n ∧ kind' = kind) := fun hh => hk ⟨hh.1, hh.2.2⟩
    simp [hk']

/-- What a hub-class request for port `n` does to the topology. -/
inductive ControlEffect (t : Topology) (h : HcdId) (typeReq value n : ℕ) : Topology → Prop
  | none : ControlEffect t h typeReq value n t
  | acknowledge (kind : ChangeKind) : typeReq = clearPortFeature → value = kind.feature →
      t.hubPortIsValid h n = true → ControlEffect t h typeReq value n (t.clearChange h n kind)
  | acknowledgeHub : typeReq = clearHubFeature →
      ControlEffect t h typeReq value n (t.clearChange h 0 .overCurrent)
  | disable : typeReq = clearPortFeature → value = portFeatEnable →
      t.hubPortIsValid h n = true → ControlEffect t h typeReq value n
        (t.setUsb h { (t.hubs h).usb with enabled := Bitmap.clear (t.hubs h).usb.enabled n })
  | resume : typeReq = clearPortFeature → value = portFeatSuspend →
      t.hubPortIsValid h n = true → ControlEffect t h typeReq value n
        (t.setUsb h { (t.hubs h).usb with suspended := Bitmap.clear (t.hubs h).usb.suspended n })
  | suspend : typeReq = setPortFeature → value = portFeatSuspend →
      t.hubPortIsValid h n = true → ControlEffect t h typeReq value n
        (t.setUsb h { (t.hubs h).usb with suspended := Bitmap.set (t.hubs h).usb.suspended n })
  | power (powered : Bool) : t.hubPortIsValid h n = true →
      ControlEffect t h typeReq value n (t.hubSetPortPower h n powered).1
  | reset : typeReq = setPortFeature → value = portFeatReset → t.hubPortIsValid h n = true →
      ControlEffect t h typeReq value n (t.hubResetPort h n).1

/-- The answer of a hub request says nothing about its effect. -/
theorem hubReply_fst (x : Topology × Except Errno Unit) : (hubReply x).1 = x.1 := by
  rcases x with ⟨t, e | _⟩ <;> rfl

/-- **What `virtusb_hcd_hub_control` can do**, with any request. -/
theorem hcdHubControl_effect (t : Topology) (h : HcdId) (typeReq value index : ℕ) :
    ControlEffect t h typeReq value (index % 256) (t.hcdHubControl h typeReq value index).1 := by
  simp only [hcdHubControl]
  split
  · rename_i hreq
    split
    · exact .none
    split
    · exact .acknowledgeHub hreq
    · exact .none
  split
  · rename_i hreq
    rw [hubReply_fst]
    simp only [hcdClearPortFeature]
    split
    · exact .none
    rename_i hvalid
    have hv : t.hubPortIsValid h (index % 256) = true := by simpa using hvalid
    split
    · exact .disable hreq (by assumption) hv
    split
    · exact .resume hreq (by assumption) hv
    split
    · exact .power false hv
    split
    · exact .acknowledge .connected hreq (by assumption) hv
    split
    · exact .acknowledge .enabled hreq (by assumption) hv
    split
    · exact .acknowledge .suspended hreq (by assumption) hv
    split
    · exact .acknowledge .overCurrent hreq (by assumption) hv
    split
    · exact .acknowledge .reset hreq (by assumption) hv
    · exact .none
  split
  · exact .none
  split
  · exact .none
  split
  · exact .none
  split
  · exact .none
  split
  · rename_i hreq
    rw [hubReply_fst]
    simp only [hcdSetPortFeature]
    split
    · exact .none
    rename_i hvalid
    have hv : t.hubPortIsValid h (index % 256) = true := by simpa using hvalid
    split
    · exact .suspend hreq (by assumption) hv
    split
    · exact .power true hv
    split
    · exact .reset hreq (by assumption) hv
    · exact .none
  · exact .none

end Topology

end VirtUsb
