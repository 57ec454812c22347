/-
# A URB is completed exactly once

A URB that was submitted successfully and not given back yet is at exactly one
place: at one position of one of the two lists, or in the hands of one thread
that took it off its list.  Complete, cancel, release and stop race for it, and
exactly one of them wins.
-/

import VirtUsb.DataPlane.Invariant

namespace VirtUsb

namespace DataPlane

/-- Where a request can be. -/
inductive Place
  | pending (k : ℕ)
  | active (k : ℕ)
  | finishing (i : ℕ)
  deriving DecidableEq

namespace State

variable (h : HcdId) (s : State)

/-- The request at a place. -/
def requestAt : Place → Option Request
  | .pending k => (s.world.backends h).pending[k]?
  | .active k => (s.world.backends h).active[k]?
  | .finishing i => (s.threads[i]?).bind Thread.finishing

/-- The requests at all places. -/
def requests : List Request := s.queued h ++ s.threads.filterMap Thread.finishing

/-- The URBs of the submissions that returned 0, once for each. -/
def submitted : List UrbPtr :=
  s.log.filterMap fun e => e.accepted?.map WorkQueue.Job.slot

/-- A submission of the URB with this transfer returned 0. -/
def Submitted (u : UrbPtr) (t : TransferPtr) : Prop :=
  ∃ j : Job, .accepted j ∈ s.log ∧ j.slot = u ∧ j.key = t

/-- The request with this transfer was given back. -/
def GivenBack (t : TransferPtr) : Prop :=
  ∃ i, ∃ j : Job, .returned i j ∈ s.log ∧ j.key = t

end State

variable {h : HcdId} {s : State}

/-- A thread carries the job of the request that it is finishing. -/
theorem carried_agent (w : World) (thread : Thread) :
    (agent w thread).carried = thread.finishing.map (job w) := by
  cases thread <;> rfl

/-- The jobs that are carried are those of the requests being finished. -/
theorem carried_eq : (queue h s).carried =
    (s.threads.filterMap Thread.finishing).map (job s.world) := by
  rw [WorkQueue.State.carried, queue, List.filterMap_map, List.map_filterMap]
  exact List.filterMap_congr fun thread _ => carried_agent s.world thread

/-- The jobs that are listed are those of the queued requests. -/
theorem listed_eq : (queue h s).listed = (s.queued h).map (job s.world) := by
  rw [WorkQueue.State.listed, queue, State.queued, List.map_append]

/-- No two requests have the same URB. -/
theorem requests_nodup (hi : Inv h s) : ((s.requests h).map Request.urb).Nodup := by
  have hslots := hi.sound.ledger.slots
  rw [add_assoc, add_assoc, Multiset.map_add, Multiset.nodup_add, ← add_assoc] at hslots
  have hcoe : (queue h s).ledger.waiting + (queue h s).ledger.leased + (queue h s).ledger.carried =
      (((s.requests h).map (job s.world) : List Job) : Multiset Job) := by
    rw [State.requests, List.map_append, ← listed_eq (h := h), ← carried_eq (h := h)]
    simp [WorkQueue.State.ledger, WorkQueue.State.listed]
  rw [hcoe, Multiset.map_coe, Multiset.coe_nodup, List.map_map] at hslots
  exact hslots.2.1

/-- Every request is at some place. -/
theorem exists_requestAt {r : Request} (hr : r ∈ s.requests h) :
    ∃ p, s.requestAt h p = some r := by
  rcases List.mem_append.1 hr with hr | hr
  · rcases List.mem_append.1 hr with hr | hr
    · obtain ⟨k, hk⟩ := List.mem_iff_getElem?.1 hr
      exact ⟨.pending k, hk⟩
    · obtain ⟨k, hk⟩ := List.mem_iff_getElem?.1 hr
      exact ⟨.active k, hk⟩
  · obtain ⟨thread, ht, hf⟩ := List.mem_filterMap.1 hr
    obtain ⟨i, hi⟩ := List.mem_iff_getElem?.1 ht
    exact ⟨.finishing i, Option.bind_eq_some_iff.2 ⟨thread, hi, hf⟩⟩

/-- A URB is at one place only. -/
theorem place_unique (hi : Inv h s) {p q : Place} {r r' : Request} (hp : s.requestAt h p = some r)
    (hq : s.requestAt h q = some r') (hu : r.urb = r'.urb) : p = q := by
  have hnd := requests_nodup hi
  simp only [State.requests, State.queued, List.map_append] at hnd
  obtain ⟨hlists, hfin, hlf⟩ := List.nodup_append.1 hnd
  obtain ⟨hpend, hact, hpa⟩ := List.nodup_append.1 hlists
  have one : ∀ {l : List Request} {k k' : ℕ}, (l.map Request.urb).Nodup → l[k]? = some r →
      l[k']? = some r' → k = k' := fun hl hk hk' =>
    Sequence.eq_of_filterMap_nodup (f := fun r => some (Request.urb r))
      (by rwa [← List.filterMap_eq_map] at hl) hk hk' rfl (congrArg some hu.symm)
  have mem : ∀ {l : List Request} {k : ℕ} {x : Request}, l[k]? = some x →
      x.urb ∈ l.map Request.urb := fun hk => List.mem_map_of_mem (List.mem_of_getElem? hk)
  have fin : ∀ {i : ℕ} {x : Request}, (s.threads[i]?).bind Thread.finishing = some x →
      x.urb ∈ (s.threads.filterMap Thread.finishing).map Request.urb := fun hx => by
    obtain ⟨thread, ht, hr⟩ := Option.bind_eq_some_iff.1 hx
    exact List.mem_map_of_mem (List.mem_filterMap.2 ⟨thread, List.mem_of_getElem? ht, hr⟩)
  cases p with
  | pending k =>
      cases q with
      | pending k' => exact congrArg Place.pending (one hpend hp hq)
      | active k' => exact absurd hu (hpa _ (mem hp) _ (mem hq))
      | finishing i => exact absurd hu (hlf _ (List.mem_append_left _ (mem hp)) _ (fin hq))
  | active k =>
      cases q with
      | pending k' => exact absurd hu.symm (hpa _ (mem hq) _ (mem hp))
      | active k' => exact congrArg Place.active (one hact hp hq)
      | finishing i => exact absurd hu (hlf _ (List.mem_append_right _ (mem hp)) _ (fin hq))
  | finishing i =>
      cases q with
      | pending k => exact absurd hu.symm (hlf _ (List.mem_append_left _ (mem hq)) _ (fin hp))
      | active k => exact absurd hu.symm (hlf _ (List.mem_append_right _ (mem hq)) _ (fin hp))
      | finishing i' =>
          obtain ⟨thread, ht, hr⟩ := Option.bind_eq_some_iff.1 hp
          obtain ⟨thread', ht', hr'⟩ := Option.bind_eq_some_iff.1 hq
          rw [List.map_filterMap] at hfin
          exact congrArg Place.finishing (Sequence.eq_of_filterMap_nodup hfin ht ht'
            (congrArg (Option.map Request.urb) hr)
            ((congrArg (Option.map Request.urb) hr').trans (congrArg some hu.symm)))

/-- A request that was submitted and not given back is somewhere. -/
theorem exists_request (hi : Inv h s) {u : UrbPtr} {t : TransferPtr} (hsub : s.Submitted u t)
    (hret : ¬ s.GivenBack t) : ∃ r ∈ s.requests h, r.urb = u ∧ r.transfer = t := by
  obtain ⟨j, hj, rfl, rfl⟩ := hsub
  have hacc : j ∈ (queue h s).ledger.accepted :=
    Multiset.mem_coe.2 (List.mem_filterMap.2 ⟨_, hj, rfl⟩)
  rw [hi.sound.ledger.accounted, hi.sound.ledger.finished] at hacc
  obtain ⟨j', hj', rfl⟩ := Multiset.mem_map.1 hacc
  have hmem : j' ∈ (s.requests h).map (job s.world) := by
    rw [State.requests, List.map_append, ← listed_eq (h := h), ← carried_eq (h := h)]
    rcases Multiset.mem_add.1 hj' with hj' | hj'
    · exact List.mem_append_left _ (Multiset.mem_coe.1 hj')
    · rcases Multiset.mem_add.1 hj' with hj' | hj'
      · exact List.mem_append_right _ (Multiset.mem_coe.1 hj')
      · obtain ⟨⟨i, j''⟩, hj'', rfl⟩ := List.mem_map.1 (Multiset.mem_coe.1 hj')
        obtain ⟨e, he, hret'⟩ := List.mem_filterMap.1 hj''
        cases e <;> simp [WorkQueue.Event.returned?] at hret'
        obtain ⟨rfl, rfl⟩ := hret'
        exact absurd ⟨_, _, he, rfl⟩ hret
  obtain ⟨r, hr, rfl⟩ := List.mem_map.1 hmem
  exact ⟨r, hr, rfl, rfl⟩

/-- **Every submission that returned 0** is at a place or was given back. -/
theorem count_submitted (hi : Inv h s) (u : UrbPtr) : s.submitted.count u =
    ((s.requests h).map Request.urb).count u + (s.world.givebacks.map Giveback.urb).count u := by
  have hsub : s.submitted = (queue h s).accepted.map WorkQueue.Job.slot := by
    rw [State.submitted, WorkQueue.State.accepted, List.map_filterMap]
    rfl
  have hret : s.log.filterMap returnedUrb =
      ((queue h s).returned.map Prod.snd).map WorkQueue.Job.slot := by
    rw [WorkQueue.State.returned, List.map_map, List.map_filterMap]
    rfl
  have hslots := hi.sound.ledger.slots_accounted
  simp only [WorkQueue.State.ledger, Multiset.coe_add, Multiset.map_coe] at hslots
  have hperm := Multiset.coe_eq_coe.1 hslots
  have hreq : (s.requests h).map Request.urb =
      ((queue h s).listed ++ (queue h s).carried).map WorkQueue.Job.slot := by
    rw [listed_eq, carried_eq, ← List.map_append, List.map_map, State.requests]
    rfl
  rw [hsub, hi.given, hret, hreq, hperm.count_eq, ← List.count_append, ← List.map_append]
  rfl

/-- The ids of the first `2^64 - 1` transfers are nonzero. -/
theorem transferId_ne_zero {t n : ℕ} (ht : t < n) (hn : n < 2 ^ 64) :
    BitVec.ofNat 64 (t + 1) ≠ 0 := by
  intro h0
  have hmod := congrArg BitVec.toNat h0
  simp only [BitVec.toNat_ofNat, BitVec.ofNat_eq_ofNat, Nat.zero_mod] at hmod
  omega

/-- The ids of the first `2^64 - 1` transfers are different. -/
theorem transferId_inj {t t' n : ℕ} (ht : t < n) (ht' : t' < n) (hn : n < 2 ^ 64)
    (h : BitVec.ofNat 64 (t + 1) = BitVec.ofNat 64 (t' + 1)) : t = t' := by
  have hmod := congrArg BitVec.toNat h
  simp only [BitVec.toNat_ofNat] at hmod
  omega

/-- The ids of the requests in the lists are the numbers of their transfers. -/
theorem id_of_queued (hi : Inv h s) {r : Request} (hr : r ∈ s.queued h) :
    r.transfer < s.world.nextTransfer ∧
      (s.world.transfers r.transfer).id = BitVec.ofNat 64 (r.transfer + 1) := by
  have hused := used_of_mem hi.sound (List.mem_append_left _ (List.mem_append_right _
    (mem_listed.2 hr)))
  exact ⟨hi.known _ hused, hi.ids _ hused⟩

/-- Different requests in the lists have different transfers. -/
theorem eq_of_transfer (hi : Inv h s) {r r' : Request} (hr : r ∈ s.queued h)
    (hr' : r' ∈ s.queued h) (ht : r.transfer = r'.transfer) : r = r' := by
  have hkeys : (((queue h s).listed : Multiset Job).map WorkQueue.Job.key).Nodup := by
    have hall := hi.sound.ledger.keys_nodup
    rw [add_assoc, Multiset.map_add] at hall
    exact (Multiset.nodup_add.1 hall).1
  exact job_injective s.world (Multiset.inj_on_of_nodup_map hkeys (job s.world r)
    (Multiset.mem_coe.2 (mem_listed.2 hr)) (job s.world r')
    (Multiset.mem_coe.2 (mem_listed.2 hr')) ht)

/-- **Exactly-once completion.**  In every state that threads on one backend can
reach, with fewer than `2^64` transfers created: a URB whose submission returned
0 and that was not given back is at exactly one place; a URB is linked exactly
while it is in a list; a request in a list has a queued transfer with a nonzero
id that no other request in a list has; and a URB was given back once for each
submission that returned 0, but for the one that is still at its place.  A URB in
flight is not submitted again (`State.start`, the rule of the USB core); one that was
given back may be. -/
theorem urb_exactly_once (hs : (machine h).Reachable s) (hn : s.world.nextTransfer < 2 ^ 64) :
    (∀ u t, s.Submitted u t → ¬ s.GivenBack t →
      ∃! p, ∃ r, s.requestAt h p = some r ∧ r.urb = u) ∧
    (∀ u, (s.world.urbs u).linked = true ↔ ∃ r ∈ s.queued h, r.urb = u) ∧
    (∀ r ∈ s.queued h, (s.world.transfers r.transfer).state = .queued ∧
      (s.world.transfers r.transfer).id ≠ 0 ∧
      ∀ r' ∈ s.queued h, (s.world.transfers r'.transfer).id = (s.world.transfers r.transfer).id →
        r' = r) ∧
    (∀ u, s.submitted.count u = (s.world.givebacks.map Giveback.urb).count u +
      if u ∈ (s.requests h).map Request.urb then 1 else 0) := by
  have hi := inv_of_reachable hs
  refine ⟨fun u t hsub hret => ?_, fun u => ?_, fun r hr => ⟨?_, ?_, fun r' hr' hid => ?_⟩,
    fun u => ?_⟩
  · obtain ⟨r, hr, rfl, rfl⟩ := exists_request hi hsub hret
    obtain ⟨p, hp⟩ := exists_requestAt hr
    refine ⟨p, ⟨r, hp, rfl⟩, ?_⟩
    rintro q ⟨r', hq, hu⟩
    exact place_unique hi hq hp hu
  · rw [show (s.world.urbs u).linked = s.world.linked u from rfl, hi.linked u, listed_eq]
    simp [job]
  · exact hi.queued (job s.world r) (List.mem_append_right _ (mem_listed.2 hr))
  · obtain ⟨hlt, hid⟩ := id_of_queued hi hr
    rw [hid]
    exact transferId_ne_zero hlt hn
  · obtain ⟨hlt, hr_id⟩ := id_of_queued hi hr
    obtain ⟨hlt', hr'_id⟩ := id_of_queued hi hr'
    rw [hr_id, hr'_id] at hid
    exact eq_of_transfer hi hr' hr (transferId_inj hlt' hlt hn hid)
  · rw [count_submitted hi u, (requests_nodup hi).count, add_comm]

/-- A submission that a backend can fetch, seen at its place. -/
theorem urb_exactly_once_example : ∃ s, (machine 0).Reachable s ∧ s.Submitted 7 0 ∧
    ∃! p, ∃ r, s.requestAt 0 p = some r ∧ r.urb = 7 := by
  obtain ⟨s, hs, hp⟩ := Transition.exists_reachable_of_exec (State.initial_loaded 0)
    (f := State.step 0)
    (l := [.call (.register 1 0) {}, .run 0 {},
      .call (.submit 7 0 ⟨.bulk, .in, 1, none, none, 8⟩) {}, .run 1 {}])
    (p := fun s => s.world.nextTransfer = 1 ∧ s.log =
      [.granted ⟨0, 1⟩, .accepted ⟨0, 7, 0, none⟩]) (by decide)
  obtain ⟨hnext, hlog⟩ := of_decide_eq_true hp
  have hsub : s.Submitted 7 0 := ⟨⟨0, 7, 0, none⟩, by simp [hlog], rfl, rfl⟩
  have hret : ¬ s.GivenBack 0 := by
    rintro ⟨i, j, hj, -⟩
    simp [hlog] at hj
  exact ⟨s, hs, hsub, (urb_exactly_once hs (by rw [hnext]; decide)).1 7 0 hsub hret⟩

end DataPlane

end VirtUsb
