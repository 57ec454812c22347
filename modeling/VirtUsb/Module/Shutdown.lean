/-
# The shutdown of all devices

`virtusb_device_shutdown_all` has no counter: it destroys the first published device until
there is none.  A forced destroy of a published device cannot fail, and unpublishes it, so
the loop makes one pass for each published device and one that finds nothing.  What is
left of a device are the references of the data plane, which the loop does not touch.
-/

import VirtUsb.ControlPlane.Notification
import VirtUsb.Lifetime.Accounting
import Mathlib.Algebra.Order.BigOperators.Group.Finset

namespace VirtUsb

open Transition

namespace Topology

variable {t t' : Topology} {h : HcdId} {n : ℕ}

/-- A port that is connected, or has a change of its connection pending, remains so while the
wiring changes. -/
theorem Rewired.connected_or_pending (hr : Rewired t t')
    (hc : t.hubPortIsConnected h n = true ∨ t.isPending h n .connected = true) :
    t'.hubPortIsConnected h n = true ∨ t'.isPending h n .connected = true := by
  induction hr with
  | refl => exact hc
  | @tail u v hr hstep ih =>
      by_cases hsame : v.hubPortIsConnected h n = u.hubPortIsConnected h n
      · refine ih.imp (fun hu => hsame.trans hu) fun hu => ?_
        have hmem := mem_pending.2 ⟨lt_of_isPending hu, hu⟩
        exact (mem_pending.1 (hstep.raises.kept h hmem)).2
      · exact .inr (hstep.reported h n hsame)

/-- Where no device is attached, nothing is. -/
theorem Wired.peers_eq_none (ht : t.Wired) (hd : ∀ d, t.peers (.upstream d) = none) (p : PortRef) :
    t.peers p = none := by
  cases p with
  | upstream d => exact hd d
  | downstream h i =>
      by_contra hne
      obtain ⟨q, hq⟩ := Option.ne_none_iff_exists'.1 hne
      obtain ⟨d, rfl, -⟩ := ht.downstream_peer hq
      obtain ⟨hback, -⟩ := ht.symm _ _ hq
      exact absurd ((hd d).symm.trans hback) (by simp)

/-- With nothing attached, nothing is connected. -/
theorem not_connected_of_peers (hp : ∀ p, t.peers p = none) (h : HcdId) (n : ℕ) :
    t.hubPortIsConnected h n = false := by
  rw [hubPortIsConnected]
  rcases t.hubGetPort h n with _ | p
  · rfl
  · have hpeer : (t.port p).peer = none := hp p
    simp only [hpeer]

end Topology

namespace World

variable {N : ℕ} {w w' : World} {d : DevicePtr}

/-- The devices in the object table. -/
def catalogue (w : World) : Finset DevicePtr :=
  (Finset.range w.nextDevice).filter fun d => (w.objects d).registered = true

/-- The catalogue lists the devices whose objects are registered. -/
theorem Steady.mem_catalogue (hw : w.Steady N) :
    d ∈ w.catalogue ↔ (w.objects d).registered = true := by
  rw [catalogue, Finset.mem_filter, and_iff_right_iff_imp, Finset.mem_range]
  exact hw.accounts.lt_next_of_registered

/-! ### The lookup -/

/-- **The lookup finds a device** if there is one. -/
theorem Steady.objectLookupFirstByType (hw : w.Steady N) :
    (∃ d, (w.objects d).registered = true ∧
        w.objectLookupFirstByType .device = (w.objectGet d, some d)) ∨
      (∀ d, (w.objects d).registered = false) ∧
        w.objectLookupFirstByType .device = (w, none) := by
  rw [World.objectLookupFirstByType]
  set entry := (List.range w.nextObjectId).findSome? fun id =>
    (w.objectTable id).filter fun d => (w.objects d).type = .device with hentry
  rcases hfound : entry with _ | d
  · refine .inr ⟨fun d => ?_, rfl⟩
    by_contra hne
    have hd := Bool.eq_true_of_not_eq_false hne
    obtain ⟨htable, -⟩ := hw.accounts.registry.object d hd
    have hlt : (w.objects d).id < w.nextObjectId := by
      by_contra hle
      have hunused := hw.accounts.registry.unused _ (Nat.le_of_not_lt hle)
      exact absurd (htable.symm.trans hunused) (by simp)
    have hnone := List.findSome?_eq_none_iff.1 hfound _ (List.mem_range.2 hlt)
    have hentry : w.objectTable (w.objects d).id = some d := htable
    rw [hentry] at hnone
    simp [Option.filter, hw.catalogued.typed d hd] at hnone
  · obtain ⟨id, -, hid⟩ := List.exists_of_findSome?_eq_some hfound
    obtain ⟨hentry, -⟩ := Option.filter_eq_some_iff.1 hid
    exact .inl ⟨d, (hw.accounts.registry.entry id d hentry).1, rfl⟩

/-! ### The forced destroy -/

/-- The destruction of a registered device keeps the module steady. -/
theorem Steady.deviceDestroy (hw : w.Steady N) (hd : (w.objects d).registered = true)
    (force : Bool) : (w.deviceDestroy d force).1.Steady N :=
  ⟨hw.accounts.deviceDestroy d force, hw.sound.step (.destroy d force),
    hw.catalogued.operate hw.sound (show Operation.Proper w (.destroy d force) from hd),
    hw.ported.operate hw.sound (.destroy d force)⟩

/-- **A forced destroy of a published device succeeds**, and takes it off the catalogue. -/
theorem Steady.deviceDestroy_force (hw : w.Steady N) (hd : (w.objects d).registered = true) :
    (w.deviceDestroy d true).2 = .ok () ∧
      (w.deviceDestroy d true).1.catalogue = w.catalogue.erase d := by
  obtain ⟨htable, hpos⟩ := hw.accounts.registry.object d hd
  have heq := deviceDestroy_eq hw.wired hd (Nat.ne_of_gt hpos) htable true
  rw [if_neg (by simp)] at heq
  refine ⟨congrArg Prod.snd heq, ?_⟩
  have hw' := hw.deviceDestroy hd true
  ext e
  rw [hw'.mem_catalogue, Finset.mem_erase, hw.mem_catalogue, heq]
  dsimp only
  rw [(object_of_management (Aside.objectPut _ d).management e).2.2]
  rcases eq_or_ne e d with rfl | hne
  · simp
  · simp [hne]

/-- What the forced destroy does not touch. -/
theorem deviceDestroy_data (w : World) (d : DevicePtr) (force : Bool) :
    (w.deviceDestroy d force).1.backends = w.backends ∧
      (w.deviceDestroy d force).1.transfers = w.transfers := by
  have hunregister : ∀ t, (({ w with topo := t } : World).objectUnregister d).1.backends =
      w.backends ∧ (({ w with topo := t } : World).objectUnregister d).1.transfers =
        w.transfers := by
    intro t
    have hbare := bare_objectUnregister { w with topo := t } d
    have hbackends := backends_of_bare hbare
    have htransfers := transfers_of_bare hbare
    exact ⟨hbackends, htransfers⟩
  rw [World.deviceDestroy]
  split
  · split
    · exact ⟨rfl, rfl⟩
    rcases w.topo.deviceSetConnectionSignaling d false with ⟨t, e | _⟩
    · exact ⟨rfl, rfl⟩
    · exact hunregister (t.deviceDetach d)
  · exact hunregister w.topo

/-- **A pass of the loop** destroys a published device, or finds none. -/
theorem Steady.shutdownPass (hw : w.Steady N) :
    (∃ d, (w.objects d).registered = true ∧
        w.shutdownPass = ((w.deviceDestroy d true).1, some (.ok ()))) ∨
      (∀ d, (w.objects d).registered = false) ∧ w.shutdownPass = (w, none) := by
  rcases hw.objectLookupFirstByType with ⟨d, hd, hlookup⟩ | ⟨hnone, hlookup⟩
  · refine .inl ⟨d, hd, ?_⟩
    have hcount := hw.accounts.count_pos_of_registered hd
    have hdestroy := deviceDestroy_objectGet hcount true
    simp only [World.shutdownPass, hlookup]
    rw [← (hw.deviceDestroy_force hd).1, ← hdestroy]
  · refine .inr ⟨hnone, ?_⟩
    simp only [World.shutdownPass, hlookup]

/-! ### The loop -/

/-- What holds in `v` after some passes of the loop that began in `w`. -/
structure Shutting (N : ℕ) (w v : World) : Prop where
  steady : v.Steady N
  rewired : Topology.Rewired w.topo v.topo
  nextDevice : v.nextDevice = w.nextDevice
  backends : v.backends = w.backends
  transfers : v.transfers = w.transfers

namespace Shutting

variable {v v' : World}

/-- Nothing has been shut down yet. -/
theorem refl (hw : w.Steady N) : Shutting N w w := ⟨hw, .refl, rfl, rfl, rfl⟩

/-- A pass that destroys a device. -/
theorem deviceDestroy (hv : Shutting N w v) (hd : (v.objects d).registered = true) :
    Shutting N w (v.deviceDestroy d true).1 := by
  obtain ⟨hrewired, hnext⟩ := deviceDestroy_topo hv.steady.wired d true
  obtain ⟨hbackends, htransfers⟩ := deviceDestroy_data v d true
  exact ⟨hv.steady.deviceDestroy hd true, hv.rewired.trans hrewired, hnext.trans hv.nextDevice,
    hbackends.trans hv.backends, htransfers.trans hv.transfers⟩

/-- **The loop ends** after one pass for each published device and one more. -/
theorem deviceShutdownAll (hv : Shutting N w v) : ∃ w', Shutting N w w' ∧
    (∀ d, (w'.objects d).registered = false) ∧
    ∀ fuel, World.deviceShutdownAll fuel v =
      if v.catalogue.card < fuel then some w' else none := by
  induction hn : v.catalogue.card generalizing v with
  | zero =>
      rcases hv.steady.shutdownPass with ⟨d, hd, -⟩ | ⟨hnone, hpass⟩
      · have hmem := hv.steady.mem_catalogue.2 hd
        rw [Finset.card_eq_zero.1 hn] at hmem
        exact absurd hmem (Finset.notMem_empty d)
      refine ⟨v, hv, hnone, fun fuel => ?_⟩
      cases fuel with
      | zero => rfl
      | succ fuel =>
          rw [World.deviceShutdownAll, hpass]
          exact (if_pos (Nat.succ_pos fuel)).symm
  | succ n ih =>
      rcases hv.steady.shutdownPass with ⟨d, hd, hpass⟩ | ⟨hnone, -⟩
      swap
      · have hpos : 0 < v.catalogue.card := by omega
        obtain ⟨d, hmem⟩ := Finset.card_pos.1 hpos
        exact absurd (hv.steady.mem_catalogue.1 hmem) (by simp [hnone d])
      have hcard : (v.deviceDestroy d true).1.catalogue.card = n := by
        rw [(hv.steady.deviceDestroy_force hd).2,
          Finset.card_erase_of_mem (hv.steady.mem_catalogue.2 hd), hn]
        rfl
      obtain ⟨w', hw', hnone, hall⟩ := ih (hv.deviceDestroy hd) hcard
      refine ⟨w', hw', hnone, fun fuel => ?_⟩
      cases fuel with
      | zero => rfl
      | succ fuel =>
          rw [World.deviceShutdownAll, hpass]
          dsimp only
          rw [hall]
          exact if_congr Nat.succ_lt_succ_iff.symm rfl rfl

/-- Passes that destroy a device. -/
theorem passes (hw : w.Steady N)
    (hr : Relation.ReflTransGen (fun u u' => ∃ result, u.shutdownPass = (u', some result)) w v) :
    Shutting N w v := by
  induction hr with
  | refl => exact .refl hw
  | @tail u u' _ hpass ih =>
      obtain ⟨result, hpass⟩ := hpass
      rcases ih.steady.shutdownPass with ⟨d, hd, hdestroyed⟩ | ⟨-, hended⟩
      · obtain rfl : _ = u' := congrArg Prod.fst (hdestroyed.symm.trans hpass)
        exact ih.deviceDestroy hd
      · exact absurd (congrArg Prod.snd (hended.symm.trans hpass)) (by simp)

end Shutting

/-- What `virtusb_device_shutdown_all` leaves of the state `w` it began in: no device is
published or attached, and each port that was connected reports it.  A device is alive
exactly if a binding or a request refers to it. -/
structure ShutDown (N : ℕ) (w w' : World) : Prop where
  entries : ∀ id, w'.objectTable id = none
  unpublished : ∀ d, (w'.objects d).registered = false
  peers : ∀ p, w'.topo.peers p = none
  connected : ∀ h n, w'.topo.hubPortIsConnected h n = false
  fresh : ∀ h n, w'.topo.Fresh h n
  reported : ∀ h n, w.topo.hubPortIsConnected h n = true →
    w'.topo.isPending h n .connected = true
  nextDevice : w'.nextDevice = w.nextDevice
  backends : w'.backends = w.backends
  transfers : w'.transfers = w.transfers
  alive : ∀ d < w'.nextDevice, d ∉ w'.released.map Release.device ↔ ∃ h < N,
    (∃ binding ∈ (w'.backends h).bindings, binding.device = d) ∨
      ∃ r ∈ w'.requests h, w'.device r.transfer = d

/-- The devices that are alive although they are not published. -/
theorem Steady.alive_iff (hw : w.Steady N) (hd : (w.objects d).registered = false)
    (hlt : d < w.nextDevice) : d ∉ w.released.map Release.device ↔ ∃ h < N,
      (∃ binding ∈ (w.backends h).bindings, binding.device = d) ∨
        ∃ r ∈ w.requests h, w.device r.transfer = d := by
  classical
  have hcount := hw.accounts.refcount_device d
  rw [if_neg (by rw [hw.accounts.listed, hd]; simp), Nat.zero_add] at hcount
  have halive : d ∉ w.released.map Release.device ↔ 0 < (w.objects d).refcount := by
    rw [← List.count_eq_zero, hw.accounts.count_released, Nat.pos_iff_ne_zero]
    by_cases hzero : (w.objects d).refcount = 0
    · simp [DeviceGone, hlt, hzero]
    · simp [DeviceGone, hzero]
  have hbound : 0 < w.bindingsOf N d ↔
      ∃ h < N, ∃ binding ∈ (w.backends h).bindings, binding.device = d := by
    simp only [bindingsOf, Finset.sum_pos_iff, List.countP_pos_iff, decide_eq_true_eq,
      Finset.mem_range]
  have hqueued : 0 < w.requestsFor N d ↔ ∃ h < N, ∃ r ∈ w.requests h, w.device r.transfer = d := by
    simp only [requestsFor, Finset.sum_pos_iff, List.countP_pos_iff, decide_eq_true_eq,
      Finset.mem_range]
    rfl
  rw [halive, hcount, Nat.add_pos_iff_pos_or_pos, hbound, hqueued]
  constructor
  · rintro (⟨h, hh, hb⟩ | ⟨h, hh, hr⟩)
    · exact ⟨h, hh, .inl hb⟩
    · exact ⟨h, hh, .inr hr⟩
  · rintro ⟨h, hh, hb | hr⟩
    · exact .inl ⟨h, hh, hb⟩
    · exact .inr ⟨h, hh, hr⟩

/-- When no device is registered any more, all have been shut down. -/
theorem Shutting.shutDown {w' : World} (hs : Shutting N w w')
    (hnone : ∀ d, (w'.objects d).registered = false) : ShutDown N w w' := by
  have hattached : ∀ d, w'.topo.peers (.upstream d) = none := by
    intro d
    by_contra hne
    have hreg := hs.steady.catalogued.attached d (Option.isSome_iff_ne_none.2 hne)
    exact absurd ((hnone d).symm.trans hreg) (by simp)
  have hpeers := hs.steady.wired.peers_eq_none hattached
  have hoff := Topology.not_connected_of_peers hpeers
  refine ⟨fun id => ?_, hnone, hpeers, hoff, fun h n => hs.steady.sound.topo.fresh (hoff h n),
    fun h n hc => ?_, hs.nextDevice, hs.backends, hs.transfers, fun d hd =>
      hs.steady.alive_iff (hnone d) hd⟩
  · by_contra hne
    obtain ⟨d, hd⟩ := Option.ne_none_iff_exists'.1 hne
    have hreg := (hs.steady.accounts.registry.entry id d hd).1
    exact absurd ((hnone d).symm.trans hreg) (by simp)
  · rcases hs.rewired.connected_or_pending (.inl hc) with hon | hpending
    · exact absurd ((hoff h n).symm.trans hon) (by simp)
    · exact hpending

end World

open World

/-- **The shutdown of all devices terminates**, from every state between complete calls of the
module: every pass destroys a published device, which cannot fail, and unpublishes it; so there is
one pass for each published device and one that finds none.  No handler runs beside it, as on the
unload of a module of which no file is open. -/
theorem shutdown_all_devices {N : ℕ} {w : World} (hw : (calls N).Reachable w) :
    (∀ v v' result,
      Relation.ReflTransGen (fun u u' => ∃ result, u.shutdownPass = (u', some result)) w v →
      v.shutdownPass = (v', some result) →
        result = .ok () ∧ ∃ d ∈ v.catalogue, v'.catalogue = v.catalogue.erase d) ∧
    ∃ w', (∀ fuel, deviceShutdownAll fuel w =
        if w.catalogue.card < fuel then some w' else none) ∧ ShutDown N w w' := by
  have hs := steady_of_reachable hw
  refine ⟨fun v v' result hr hpass => ?_, ?_⟩
  · have hv := (Shutting.passes hs hr).steady
    rcases hv.shutdownPass with ⟨d, hd, hdestroyed⟩ | ⟨-, hended⟩
    · rw [hdestroyed, Prod.mk.injEq, Option.some.injEq] at hpass
      obtain ⟨rfl, rfl⟩ := hpass
      exact ⟨rfl, d, hv.mem_catalogue.2 hd, (hv.deviceDestroy_force hd).2⟩
    · exact absurd (congrArg Prod.snd (hended.symm.trans hpass)) (by simp)
  · obtain ⟨w', hw', hnone, hall⟩ := (Shutting.refl hs).deviceShutdownAll
    exact ⟨w', hall, hw'.shutDown hnone⟩

/-- The one device is unplugged in two passes, and lives on for its backend and a URB. -/
theorem shutdown_all_devices_example : ∃ w w', (calls 1).Reachable w ∧
    w.topo.hubPortIsConnected 0 1 = true ∧ deviceShutdownAll 2 w = some w' ∧
    ShutDown 1 w w' ∧ 0 ∉ w'.released.map Release.device := by
  obtain ⟨w, hw, hp⟩ := exists_reachable_of_exec (I := Initialised)
    (f := fun w c => if Call.Possible 1 w c then some (w.call c) else none) (s := oneHub)
    (l := Call.plugIn 5 ++ [.urbEnqueue 0 7 .bulkOut {}])
    (p := fun w => w.topo.hubPortIsConnected 0 1 = true ∧ w.catalogue.card < 2 ∧
      0 < w.nextDevice ∧ (w.backends 0).bindings = [⟨0, 5⟩])
    oneHub_initialised (by decide)
  obtain ⟨hconnected, hcard, hborn, hbindings⟩ := of_decide_eq_true hp
  obtain ⟨w', hall, hdown⟩ := (shutdown_all_devices hw).2
  refine ⟨w, w', hw, hconnected, (hall 2).trans (if_pos hcard), hdown, ?_⟩
  refine (hdown.alive 0 (hdown.nextDevice ▸ hborn)).2 ⟨0, Nat.one_pos, .inl ⟨⟨0, 5⟩, ?_, rfl⟩⟩
  rw [hdown.backends, hbindings]
  exact List.mem_singleton_self _

end VirtUsb
