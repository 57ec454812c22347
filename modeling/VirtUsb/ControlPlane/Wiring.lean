/-
# The wiring of ports

Attachments are mutual and link one downstream port to one upstream port
(`Topology.Wired`).  So a change of one attachment, of the power of one port or of
the signaling of one device changes the connection of one port at most, and every
function that makes such a change reports it for that port (`Topology.Rewires`).
-/

import VirtUsb.Kernel.Device
import VirtUsb.Kernel.PortState

namespace VirtUsb

namespace Topology

/-- The ports are initialised, and attachments are mutual. -/
structure Wired (t : Topology) : Prop where
  count : ∀ h, (t.hubs h).portCount ≤ maxHubPorts
  hubPort : ∀ h i, i < (t.hubs h).portCount →
    ((t.hubs h).ports i).role = .downstream ∧ ((t.hubs h).ports i).owner = some (.hub h)
  noPort : ∀ h i, (t.hubs h).portCount ≤ i → ((t.hubs h).ports i).role = .invalid
  device : ∀ d, ((t.upstream d).role = .upstream ∧ (t.upstream d).owner = some (.device d)) ∨
    (t.upstream d).role = .invalid
  symm : ∀ p q, (t.port p).peer = some q →
    (t.port q).peer = some p ∧ (t.port p).role ≠ .invalid ∧ (t.port p).role ≠ (t.port q).role

variable {t t' t'' : Topology} {h h' : HcdId} {n m : ℕ} {d : DevicePtr}

/-! ### Ports and their peers -/

/-- The ports of a hub are numbered from one. -/
theorem valid_iff : t.hubPortIsValid h n = true ↔ 0 < n ∧ n ≤ (t.hubs h).portCount := by
  simp [hubPortIsValid]

/-- The port behind a valid number. -/
theorem hubGetPort_of_valid (hv : t.hubPortIsValid h n = true) :
    t.hubGetPort h n = some (.downstream h (n - 1)) := by
  simp [hubGetPort, hv]

/-- Only a valid number has a port behind it. -/
theorem valid_of_hubGetPort {p : PortRef} (hp : t.hubGetPort h n = some p) :
    t.hubPortIsValid h n = true ∧ p = .downstream h (n - 1) := by
  rw [hubGetPort] at hp
  split at hp
  · simp at hp
  · rename_i hv
    exact ⟨by simpa using hv, (Option.some.inj hp).symm⟩

/-- Port numbers fit the bitmaps. -/
theorem Wired.lt_of_valid (ht : t.Wired) (hv : t.hubPortIsValid h n = true) : n < 32 :=
  Nat.lt_succ_of_le ((valid_iff.1 hv).2.trans (ht.count h))

/-- A port of a hub that has a peer has a device as its peer, which has it. -/
theorem Wired.downstream_peer (ht : t.Wired) {i : ℕ} {q : PortRef}
    (hq : (t.port (.downstream h i)).peer = some q) :
    ∃ d, q = .upstream d ∧ i < (t.hubs h).portCount ∧ (t.upstream d).role = .upstream ∧
      (t.upstream d).peer = some (.downstream h i) := by
  obtain ⟨hback, hrole, hne⟩ := ht.symm _ _ hq
  have hi : i < (t.hubs h).portCount := by
    by_contra hle
    exact hrole (ht.noPort h i (Nat.le_of_not_lt hle))
  have hdown : (t.port (.downstream h i)).role = .downstream := (ht.hubPort h i hi).1
  obtain ⟨-, hrole', -⟩ := ht.symm _ _ hback
  cases q with
  | downstream h' i' =>
      have hi' : i' < (t.hubs h').portCount := by
        by_contra hle
        exact hrole' (ht.noPort h' i' (Nat.le_of_not_lt hle))
      exact absurd (hdown.trans (ht.hubPort h' i' hi').1.symm) hne
  | upstream d =>
      exact ⟨d, rfl, hi, ((ht.device d).resolve_right hrole').1, hback⟩

/-- A device that has a peer has a port of a hub as its peer, which has it. -/
theorem Wired.upstream_peer (ht : t.Wired) {q : PortRef} (hq : (t.upstream d).peer = some q) :
    ∃ h n, q = .downstream h (n - 1) ∧ t.hubPortIsValid h n = true ∧
      (t.upstream d).role = .upstream ∧ (t.port q).role = .downstream ∧
      (t.port q).owner = some (.hub h) ∧ (t.port q).peer = some (.upstream d) := by
  obtain ⟨hback, hrole, hne⟩ := ht.symm (.upstream d) q hq
  have hup : (t.upstream d).role = .upstream := ((ht.device d).resolve_right hrole).1
  obtain ⟨-, hrole', -⟩ := ht.symm _ _ hback
  cases q with
  | downstream h i =>
      have hi : i < (t.hubs h).portCount := by
        by_contra hle
        exact hrole' (ht.noPort h i (Nat.le_of_not_lt hle))
      obtain ⟨hdown, howner⟩ := ht.hubPort h i hi
      exact ⟨h, i + 1, rfl, valid_iff.2 ⟨Nat.succ_pos i, hi⟩, hup, hdown, howner, hback⟩
  | upstream d' =>
      exact absurd (hup.trans ((ht.device d').resolve_right hrole').1.symm) hne

/-- A port is found under its number. -/
theorem hubFindPortNumber_of_valid (hv : t.hubPortIsValid h n = true) :
    t.hubFindPortNumber h (.downstream h (n - 1)) = .ok n := by
  obtain ⟨hpos, hle⟩ := valid_iff.1 hv
  have hfind : (List.range (t.hubs h).portCount).find?
      (fun index => PortRef.downstream h index = .downstream h (n - 1)) = some (n - 1) := by
    rw [List.find?_range_eq_some]
    refine ⟨by simp, by rw [List.mem_range]; omega, fun j hj => ?_⟩
    simpa using (by omega : ¬ j = n - 1)
  rw [hubFindPortNumber, hfind]
  exact congrArg Except.ok (by omega)

/-- **The attached hub of a device is the one whose port is its peer.** -/
theorem Wired.deviceGetAttachedHub (ht : t.Wired) (d : DevicePtr) :
    (t.deviceGetAttachedHub d = none ∧ (t.upstream d).peer = none) ∨
      ∃ h n, t.deviceGetAttachedHub d = some (h, n) ∧ t.hubPortIsValid h n = true ∧
        (t.upstream d).peer = some (.downstream h (n - 1)) ∧
        (t.port (.downstream h (n - 1))).peer = some (.upstream d) := by
  rcases hq : (t.upstream d).peer with _ | q
  · exact .inl ⟨by rw [Topology.deviceGetAttachedHub, hq], rfl⟩
  · obtain ⟨h, n, rfl, hv, -, hdown, howner, hback⟩ := ht.upstream_peer hq
    refine .inr ⟨h, n, ?_, hv, rfl, hback⟩
    simp only [Topology.deviceGetAttachedHub, hq, hdown, howner, hubFindPortNumber_of_valid hv,
      ne_eq, not_true, if_false]

/-! ### The connection of a port -/

/-- A port whose attachment, power and signaling are the same has the same
connection, and would get the same speed. -/
theorem connected_of_same (hc : (t'.hubs h).portCount = (t.hubs h).portCount)
    (hp : t.hubPortIsValid h n = true →
      t'.port (.downstream h (n - 1)) = t.port (.downstream h (n - 1)) ∧
        ∀ q, (t.port (.downstream h (n - 1))).peer = some q → t'.port q = t.port q) :
    t'.hubPortIsConnected h n = t.hubPortIsConnected h n ∧
      t'.hubDeterminePortSpeed h n = t.hubDeterminePortSpeed h n := by
  have hvalid : t'.hubPortIsValid h n = t.hubPortIsValid h n := by
    rw [hubPortIsValid, hubPortIsValid, hc]
  have hget : t'.hubGetPort h n = t.hubGetPort h n := by rw [hubGetPort, hubGetPort, hvalid]
  by_cases hv : t.hubPortIsValid h n = true
  · obtain ⟨hself, hpeers⟩ := hp hv
    simp only [hubPortIsConnected, hubDeterminePortSpeed, hget, hubGetPort_of_valid hv, hself]
    rcases hpeer : (t.port (.downstream h (n - 1))).peer with _ | q
    · simp
    · simp [hpeers q hpeer]
  · have hnone : t.hubGetPort h n = none := by simp [hubGetPort, hv]
    simp [hubPortIsConnected, hubDeterminePortSpeed, hget, hnone]

/-- A port to which nothing is attached is not connected. -/
theorem not_connected_of_peer (hp : (t.port (.downstream h (n - 1))).peer = none) :
    t.hubPortIsConnected h n = false := by
  rw [hubPortIsConnected]
  split
  · rfl
  · rename_i p hget
    obtain ⟨-, rfl⟩ := valid_of_hubGetPort hget
    rw [hp]

/-! ### Changes of one port -/

/-- The two topologies differ in their ports only. -/
structure SamePanel (t t' : Topology) : Prop where
  usb : ∀ h, (t'.hubs h).usb = (t.hubs h).usb
  usbChange : ∀ h, (t'.hubs h).usbChange = (t.hubs h).usbChange
  portCount : ∀ h, (t'.hubs h).portCount = (t.hubs h).portCount
  statusChanged : ∀ h, (t'.hubs h).statusChanged = (t.hubs h).statusChanged
  notified : t'.notified = t.notified

/-- The panel is the same. -/
theorem SamePanel.refl (t : Topology) : SamePanel t t :=
  ⟨fun _ => rfl, fun _ => rfl, fun _ => rfl, fun _ => rfl, rfl⟩

/-- The panel stays the same. -/
theorem SamePanel.trans (h₁ : SamePanel t t') (h₂ : SamePanel t' t'') : SamePanel t t'' :=
  ⟨fun h => (h₂.usb h).trans (h₁.usb h), fun h => (h₂.usbChange h).trans (h₁.usbChange h),
    fun h => (h₂.portCount h).trans (h₁.portCount h),
    fun h => (h₂.statusChanged h).trans (h₁.statusChanged h), h₂.notified.trans h₁.notified⟩

/-- A write to a port leaves the panel as it is. -/
theorem samePanel_setPort (t : Topology) (p : PortRef) (x : Port) : SamePanel t (t.setPort p x) := by
  cases p with
  | upstream d => exact ⟨fun _ => rfl, fun _ => rfl, fun _ => rfl, fun _ => rfl, rfl⟩
  | downstream h i =>
      have hhub : ∀ h', ∃ ports, (t.setPort (.downstream h i) x).hubs h' =
          { t.hubs h' with ports := ports } := by
        intro h'
        rcases eq_or_ne h' h with rfl | hne
        · exact ⟨_, hubs_setHub_self _⟩
        · exact ⟨(t.hubs h').ports, hubs_setHub_of_ne _ hne⟩
      constructor
      case notified => rfl
      all_goals
        intro h'
        obtain ⟨ports, hports⟩ := hhub h'
        rw [hports]

/-- The port that was written. -/
@[simp]
theorem port_setPort_self (t : Topology) (p : PortRef) (x : Port) : (t.setPort p x).port p = x := by
  cases p <;> simp [setPort, port]

/-- The other ports. -/
theorem port_setPort_of_ne (t : Topology) {p q : PortRef} (x : Port) (hne : q ≠ p) :
    (t.setPort p x).port q = t.port q := by
  cases p with
  | upstream d =>
      cases q with
      | upstream d' =>
          have hd : d' ≠ d := fun hd => hne (hd ▸ rfl)
          simp [setPort, port, hd]
      | downstream h i => rfl
  | downstream h i =>
      cases q with
      | upstream d' => rfl
      | downstream h' i' =>
          rcases eq_or_ne h' h with rfl | hh
          · have hi : i' ≠ i := fun hi => hne (hi ▸ rfl)
            simp [setPort, port, hi]
          · simp [setPort, port, hubs_setHub_of_ne _ hh]

/-- An attachment that succeeds: two free ports become each other's peers. -/
theorem portAttach_ok {p q : PortRef} (ha : t.portAttach p q = (t', .ok ())) :
    (t.port p).role = .downstream ∧ (t.port q).role = .upstream ∧ (t.port p).peer = none ∧
      (t.port q).peer = none ∧ SamePanel t t' ∧
      ∀ r, t'.port r =
        { t.port r with
          peer := if r = p then some q else if r = q then some p else (t.port r).peer } := by
  simp only [portAttach] at ha
  split at ha
  · simp at ha
  rename_i hroles
  split at ha
  · simp at ha
  rename_i hpeers
  obtain rfl := congrArg Prod.fst ha
  simp only [not_or, not_not, Bool.not_eq_true, Option.isSome_eq_false_iff,
    Option.isNone_iff_eq_none] at hroles hpeers
  have hpq : q ≠ p := by
    rintro rfl
    exact absurd (hroles.1.symm.trans hroles.2) (by decide)
  refine ⟨hroles.1, hroles.2, hpeers.1, hpeers.2,
    (samePanel_setPort t p _).trans (samePanel_setPort _ q _), fun r => ?_⟩
  rcases eq_or_ne r q with rfl | hrq
  · simp [hpq, port_setPort_of_ne]
  · rcases eq_or_ne r p with rfl | hrp
    · simp [hrq, port_setPort_of_ne]
    · simp [hrq, hrp, port_setPort_of_ne]

/-- A detachment: the port and its peer become free. -/
theorem Wired.portDetach (ht : t.Wired) {p q : PortRef} (hq : (t.port p).peer = some q) :
    SamePanel t (t.portDetach p) ∧
      ∀ r, (t.portDetach p).port r =
        { t.port r with peer := if r = p ∨ r = q then none else (t.port r).peer } := by
  obtain ⟨hback, -, hne⟩ := ht.symm p q hq
  have hpq : q ≠ p := fun hpq => hne (by rw [hpq])
  have hq₁ : (t.setPort p { t.port p with peer := none }).port q = t.port q :=
    port_setPort_of_ne t _ hpq
  have heq : t.portDetach p = (t.setPort p { t.port p with peer := none }).setPort q
      { t.port q with peer := none } := by
    simp only [Topology.portDetach, hq, hq₁, hback, if_true]
  rw [heq]
  refine ⟨(samePanel_setPort t p _).trans (samePanel_setPort _ q _), fun r => ?_⟩
  rcases eq_or_ne r q with rfl | hrq
  · simp
  · rcases eq_or_ne r p with rfl | hrp
    · simp [hrq, port_setPort_of_ne]
    · simp [hrq, hrp, port_setPort_of_ne]

/-- Signalling changes the one field of an upstream port. -/
theorem portSetConnectionSignaling_ok {p : PortRef} {enabled : Bool}
    (hs : t.portSetConnectionSignaling p enabled = (t', .ok ())) :
    (t.port p).role = .upstream ∧ SamePanel t t' ∧
      t'.port p = { t.port p with upstream := ⟨enabled⟩ } ∧ ∀ r, r ≠ p → t'.port r = t.port r := by
  rw [portSetConnectionSignaling] at hs
  split at hs
  · simp at hs
  · rename_i hrole
    obtain rfl := congrArg Prod.fst hs
    exact ⟨by simpa using hrole, samePanel_setPort t p _, port_setPort_self t p _,
      fun r hr => port_setPort_of_ne t _ hr⟩

/-- Switching power changes the one field of a downstream port. -/
theorem portSetPowered_ok {p : PortRef} {powered : Bool}
    (hs : t.portSetPowered p powered = (t', .ok ())) :
    (t.port p).role = .downstream ∧ SamePanel t t' ∧
      t'.port p =
        { t.port p with downstream := { (t.port p).downstream with powered := powered } } ∧
      ∀ r, r ≠ p → t'.port r = t.port r := by
  rw [portSetPowered] at hs
  split at hs
  · simp at hs
  · rename_i hrole
    obtain rfl := congrArg Prod.fst hs
    exact ⟨by simpa using hrole, samePanel_setPort t p _, port_setPort_self t p _,
      fun r hr => port_setPort_of_ne t _ hr⟩

/-- An over-current condition changes the one field of a port. -/
theorem portSetOverCurrent_ok {p : PortRef} {overCurrent : Bool}
    (hs : t.portSetOverCurrent p overCurrent = (t', .ok ())) :
    SamePanel t t' ∧
      t'.port p =
        { t.port p with downstream := { (t.port p).downstream with overCurrent := overCurrent } } ∧
      ∀ r, r ≠ p → t'.port r = t.port r := by
  rw [portSetOverCurrent] at hs
  split at hs
  · simp at hs
  · obtain rfl := congrArg Prod.fst hs
    exact ⟨samePanel_setPort t p _, port_setPort_self t p _, fun r hr => port_setPort_of_ne t _ hr⟩

/-! ### The wiring is kept -/

/-- Ports that keep their role and owner stay wired if their peers are mutual. -/
theorem Wired.of_roles (ht : t.Wired) (hc : ∀ h, (t'.hubs h).portCount = (t.hubs h).portCount)
    (hr : ∀ p, (t'.port p).role = (t.port p).role ∧ (t'.port p).owner = (t.port p).owner)
    (hs : ∀ p q, (t'.port p).peer = some q → (t'.port q).peer = some p ∧
      (t.port p).role ≠ .invalid ∧ (t.port p).role ≠ (t.port q).role) : t'.Wired where
  count h := (hc h).symm ▸ ht.count h
  hubPort h i hi := by
    obtain ⟨hrole, howner⟩ := hr (.downstream h i)
    obtain ⟨hdown, hhub⟩ := ht.hubPort h i (hc h ▸ hi)
    exact ⟨hrole.trans hdown, howner.trans hhub⟩
  noPort h i hi := (hr (.downstream h i)).1.trans (ht.noPort h i (hc h ▸ hi))
  device d := by
    obtain ⟨hrole, howner⟩ := hr (.upstream d)
    exact (ht.device d).imp (fun hd => ⟨hrole.trans hd.1, howner.trans hd.2⟩) hrole.trans
  symm p q hpq := by
    obtain ⟨hback, hne, hdiff⟩ := hs p q hpq
    exact ⟨hback, by rwa [(hr p).1], by rwa [(hr p).1, (hr q).1]⟩

/-- Being wired is a property of the wiring. -/
theorem Wired.of_wiring (ht : t.Wired) (hw : t'.wiring = t.wiring) : t'.Wired := by
  have hport := port_congr hw
  have hcount : ∀ h, (t'.hubs h).portCount = (t.hubs h).portCount := fun h => by
    have hsame : (t'.wiring.hubs h).portCount = (t.wiring.hubs h).portCount := by rw [hw]
    exact hsame
  exact ht.of_roles hcount (fun p => by rw [hport]; exact ⟨rfl, rfl⟩) fun p q hpq => by
    rw [hport] at hpq ⊢
    exact ht.symm p q hpq

/-- **An attach keeps attachments mutual.** -/
theorem Wired.portAttach_ok (ht : t.Wired) {p q : PortRef}
    (ha : t.portAttach p q = (t', .ok ())) : t'.Wired := by
  obtain ⟨hp, hq, hpn, hqn, hpanel, hports⟩ := Topology.portAttach_ok ha
  have hpq : q ≠ p := by
    rintro rfl
    exact absurd (hp.symm.trans hq) (by decide)
  refine ht.of_roles hpanel.portCount (fun r => by rw [hports]; exact ⟨rfl, rfl⟩) fun r r' hr => ?_
  simp only [hports] at hr ⊢
  split_ifs at hr with hrp hrq
  · subst hrp
    obtain rfl := Option.some.inj hr
    simp [hpq, hp, hq]
  · subst hrq
    obtain rfl := Option.some.inj hr
    simp [hp, hq]
  · obtain ⟨hback, hroles⟩ := ht.symm r r' hr
    have hr'p : r' ≠ p := by
      rintro rfl
      simp [hpn] at hback
    have hr'q : r' ≠ q := by
      rintro rfl
      simp [hqn] at hback
    rw [if_neg hr'p, if_neg hr'q]
    exact ⟨hback, hroles⟩

/-- **A detach keeps attachments mutual.** -/
theorem Wired.wired_portDetach (ht : t.Wired) {p q : PortRef} (hq : (t.port p).peer = some q) :
    (t.portDetach p).Wired := by
  obtain ⟨hpanel, hports⟩ := ht.portDetach hq
  have hback := (ht.symm p q hq).1
  refine ht.of_roles hpanel.portCount (fun r => by rw [hports]; exact ⟨rfl, rfl⟩) fun r r' hr => ?_
  simp only [hports] at hr ⊢
  split_ifs at hr with hrpq
  obtain ⟨hback', hroles⟩ := ht.symm r r' hr
  have hr' : ¬ (r' = p ∨ r' = q) := by
    rintro (rfl | rfl)
    · exact hrpq (.inr (Option.some.inj (hback'.symm.trans hq)))
    · exact hrpq (.inl (Option.some.inj (hback'.symm.trans hback)))
  rw [if_neg hr']
  exact ⟨hback', hroles⟩

/-- The two topologies have the same attachments: they differ in the power and the
signaling of ports at most. -/
structure SameLinks (t t' : Topology) : Prop where
  portCount : ∀ h, (t'.hubs h).portCount = (t.hubs h).portCount
  role : ∀ p, (t'.port p).role = (t.port p).role
  owner : ∀ p, (t'.port p).owner = (t.port p).owner
  speed : ∀ p, (t'.port p).speed = (t.port p).speed
  peer : ∀ p, (t'.port p).peer = (t.port p).peer

/-- A change of one port that is no change of its links. -/
theorem SameLinks.of_port (hc : ∀ h, (t'.hubs h).portCount = (t.hubs h).portCount) {p : PortRef}
    (hp : (t'.port p).role = (t.port p).role ∧ (t'.port p).owner = (t.port p).owner ∧
      (t'.port p).speed = (t.port p).speed ∧ (t'.port p).peer = (t.port p).peer)
    (hother : ∀ r, r ≠ p → t'.port r = t.port r) : SameLinks t t' := by
  obtain ⟨hrole, howner, hspeed, hpeer⟩ := hp
  constructor
  case portCount => exact hc
  all_goals
    intro r
    rcases eq_or_ne r p with rfl | hr
    · assumption
    · rw [hother r hr]

/-- With the same links, a topology is as well wired. -/
theorem SameLinks.wired (hl : SameLinks t t') (ht : t.Wired) : t'.Wired := by
  refine ht.of_roles hl.portCount (fun p => ⟨hl.role p, hl.owner p⟩) fun p q hq => ?_
  rw [hl.peer] at hq ⊢
  exact ht.symm p q hq

/-- Ports that are linked, powered and signaling as before are connected as before. -/
theorem SameLinks.connected (hl : SameLinks t t')
    (hpower : ∀ p, (t'.port p).downstream.powered = (t.port p).downstream.powered)
    (hsignal : ∀ p, (t'.port p).upstream = (t.port p).upstream) (h : HcdId) (n : ℕ) :
    t'.hubPortIsConnected h n = t.hubPortIsConnected h n := by
  have hget : t'.hubGetPort h n = t.hubGetPort h n := by
    rw [hubGetPort, hubGetPort, hubPortIsValid, hubPortIsValid, hl.portCount]
  simp only [hubPortIsConnected, hget, hl.peer, hl.role, hpower, hsignal]

/-- With the same links, ports come up at the same speeds. -/
theorem SameLinks.determine (hl : SameLinks t t') (h : HcdId) (n : ℕ) :
    t'.hubDeterminePortSpeed h n = t.hubDeterminePortSpeed h n := by
  have hget : t'.hubGetPort h n = t.hubGetPort h n := by
    rw [hubGetPort, hubGetPort, hubPortIsValid, hubPortIsValid, hl.portCount]
  simp only [hubDeterminePortSpeed, hget, hl.peer, hl.role, hl.speed]

end Topology

end VirtUsb
