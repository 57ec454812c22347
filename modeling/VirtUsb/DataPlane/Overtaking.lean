/-
# How often a pending transfer is overtaken

A fetch takes the first pending request of its device, and nothing but a rollback puts a
request before one that waits.  While a request stays pending, its device is fetched from at
most once for each request that was before it and once for each rollback, whatever the
threads do and in whatever order (`bounded_overtaking`).
-/

import VirtUsb.DataPlane.Order
import VirtUsb.Lib.WorkQueue.Overtaking

namespace VirtUsb

namespace DataPlane

open Transition

namespace State

variable (h : HcdId) (s : State)

/-- The request that the step fetches. -/
def fetches : Act → Option Request
  | .call _ _ => none
  | .run i _ =>
      match s.threads[i]? with
      | some (.fetch owner _) =>
          match (s.world.fetchLocked h owner).2 with
          | .taken r => some r
          | _ => none
      | _ => none

/-- The step fetches a request for the device. -/
def fetchesFor (device : DevicePtr) (a : Act) : Bool :=
  (s.fetches h a).any fun r => s.world.requestDevice r = device

/-- The step rolls a request for the device back. -/
def rollsBackFor (device : DevicePtr) (a : Act) : Bool :=
  (s.rollsBack h a).any fun r => s.world.requestDevice r = device

/-- The pending requests that are fetched before a request for the same device. -/
def ahead (r : Request) : ℕ :=
  WorkQueue.before (fun r' => s.world.requestDevice r' = s.world.requestDevice r) r (s.pending h)

end State

variable {h : HcdId} {s s' : State} {r : Request}

/-- The queue counts the same requests. -/
theorem ahead_queue : (queue h s).ahead (job s.world r) = s.ahead h r :=
  WorkQueue.before_map (job_injective s.world) _ r (s.pending h)

/-- A fetch is logged as a lease. -/
theorem leased_of_fetches {a : Act} {e : Option Event} (hs : s.step h a = some s')
    (hst : WorkQueue.Step (queue h s) e (queue h s')) (hr : s.fetches h a = some r) :
    ∃ owner, e = some (.leased owner (job s.world r)) := by
  have hlog : s'.log = s.log ++ e.toList := hst.log
  cases a with
  | call c env => simp [State.fetches] at hr
  | run i env =>
      obtain ⟨thread, ht, hs⟩ := Option.bind_eq_some_iff.1 hs
      simp only [State.fetches, ht] at hr
      split at hr
      swap
      · simp at hr
      rename_i owner nonblock heq
      obtain rfl := Option.some.inj heq
      split at hr
      swap
      · simp at hr
      rename_i r' hf
      obtain rfl := Option.some.inj hr
      rcases hw : s.world.fetchLocked h owner with ⟨w, result⟩
      rw [hw] at hf
      obtain rfl : result = .taken r' := hf
      simp only [State.resume, hw] at hs
      obtain rfl := Option.some.inj hs
      have he : e.toList = [.leased owner (job s.world r')] := by
        simpa [State.advance] using hlog.symm
      cases e with
      | none => simp at he
      | some e => exact ⟨owner, congrArg some (by simpa using he)⟩

/-- The accepted jobs are never forgotten. -/
theorem accepted_prefix_of_run {hist : List (State × Act)} (hs : (machine h).Reachable s)
    (hr : Run (machine h) s hist s') : (queue h s).accepted <+: (queue h s').accepted := by
  induction hr with
  | nil => exact List.prefix_rfl
  | @snoc hist t u a hr hst ih =>
      obtain ⟨⟨e, hstep⟩, -⟩ := step_inv (inv_of_reachable (hs.run hr)) hst
      refine ih.trans ?_
      rw [WorkQueue.State.accepted, WorkQueue.State.accepted, hstep.log, List.filterMap_append]
      exact List.prefix_append _ _

/-- A request that stays pending is the same job. -/
theorem job_eq_of_run {hist : List (State × Act)} (hs : (machine h).Reachable s)
    (hr : Run (machine h) s hist s') (hmem : r ∈ s.pending h) (hmem' : r ∈ s'.pending h) :
    job s'.world r = job s.world r := by
  have haccepted : ∀ {t : State}, (machine h).Reachable t → r ∈ t.pending h →
      (job t.world r).free ∈ (queue h t).accepted ∧ (job t.world r).holder = none := by
    intro t ht hr
    have hledger := (inv_of_reachable ht).sound.ledger
    have hwaiting : job t.world r ∈ (queue h t).ledger.waiting :=
      Multiset.mem_coe.2 (List.mem_map_of_mem hr)
    refine ⟨Multiset.mem_coe.1 (hledger.free_mem_accepted ?_), hledger.plain _ ?_⟩
    · exact Multiset.mem_add.2 (.inl (Multiset.mem_add.2 (.inl hwaiting)))
    · exact Multiset.mem_add.2 (.inl (Multiset.mem_add.2 (.inr hwaiting)))
  obtain ⟨hold, hplain⟩ := haccepted hs hmem
  obtain ⟨hnew, hplain'⟩ := haccepted (hs.run hr) hmem'
  have hsame := (inv_of_reachable (hs.run hr)).sound.ledger.eq_of_key (Multiset.mem_coe.2 hnew)
    (Multiset.mem_coe.2 ((accepted_prefix_of_run hs hr).subset hold)) rfl
  rwa [WorkQueue.Job.free_eq hplain, WorkQueue.Job.free_eq hplain'] at hsame

/-- **One step** overtakes a pending request only by a rollback. -/
theorem ahead_step {a : Act} (hi : Inv h s) (hs : s.step h a = some s') (hmem : r ∈ s.pending h)
    (hmem' : r ∈ s'.pending h) (hjob : job s'.world r = job s.world r) :
    s'.ahead h r + (if s.fetchesFor h (s.world.requestDevice r) a then 1 else 0) ≤
      s.ahead h r + if s.rollsBackFor h (s.world.requestDevice r) a then 1 else 0 := by
  obtain ⟨⟨e, hst⟩, -⟩ := step_inv hi hs
  have hwaiting : job s.world r ∈ (queue h s).waiting := List.mem_map_of_mem hmem
  have hwaiting' : job s.world r ∈ (queue h s').waiting := hjob ▸ List.mem_map_of_mem hmem'
  have hnodup : (queue h s).waiting.Nodup := by
    have hslots := hi.sound.ledger.slots
    rw [Multiset.map_add, Multiset.map_add, Multiset.map_add, Multiset.nodup_add,
      Multiset.nodup_add, Multiset.nodup_add] at hslots
    exact Multiset.coe_nodup.1 (Multiset.Nodup.of_map _ hslots.1.1.2.1)
  have hle := hst.ahead_add_le hnodup hwaiting hwaiting'
  rw [ahead_queue, ← hjob, ahead_queue, hjob] at hle
  have hfetches : s.fetchesFor h (s.world.requestDevice r) a = true →
      e.any (WorkQueue.Event.leases (s.world.requestDevice r)) = true := by
    intro hf
    obtain ⟨r', hr', hdevice⟩ := (Option.any_eq_true _ _).1 hf
    obtain ⟨owner, rfl⟩ := leased_of_fetches hs hst hr'
    exact hdevice
  have hrestores : e.any (WorkQueue.Event.restores (s.world.requestDevice r)) = true →
      s.rollsBackFor h (s.world.requestDevice r) a = true := by
    intro he
    obtain ⟨event, rfl, hevent⟩ := (Option.any_eq_true _ _).1 he
    cases event with
    | restored client j =>
        obtain ⟨r', hr', -, rfl⟩ := (restored_iff hs hst).1 rfl
        exact (Option.any_eq_true _ _).2 ⟨r', hr', hevent⟩
    | _ => exact absurd hevent (by simp [WorkQueue.Event.restores])
  have hlease : (if s.fetchesFor h (s.world.requestDevice r) a then 1 else 0) ≤
      if e.any (WorkQueue.Event.leases (s.world.requestDevice r)) then 1 else 0 := by
    split
    · rename_i hf
      rw [if_pos (hfetches hf)]
    · exact Nat.zero_le _
  have hrestore : (if e.any (WorkQueue.Event.restores (s.world.requestDevice r)) then 1 else 0) ≤
      if s.rollsBackFor h (s.world.requestDevice r) a then 1 else 0 := by
    split
    · rename_i hf
      rw [if_pos (hrestores hf)]
    · exact Nat.zero_le _
  exact (Nat.add_le_add_left hlease _).trans (hle.trans (Nat.add_le_add_left hrestore _))

/-- **A pending transfer is overtaken only by rollbacks.**  While a request stays pending, the
fetches from its device are at most as many as the requests that were before it and the
rollbacks for the device; and once none is before it, the backend of the device gets it
next. -/
theorem bounded_overtaking {hist : List (State × Act)} {d : DevicePtr}
    (hs : (machine h).Reachable s) (hr : Run (machine h) s hist s')
    (hwait : ∀ t ∈ visited hist s', r ∈ t.pending h) (hd : s.world.requestDevice r = d) :
    (hist.countP fun x => x.1.fetchesFor h d x.2) + s'.ahead h r ≤
      s.ahead h r + hist.countP (fun x => x.1.rollsBackFor h d x.2) ∧
    (s'.ahead h r = 0 → ∀ owner, (⟨d, owner⟩ : Binding) ∈ s'.bindings h →
      (s'.world.fetchLocked h owner).2 = .taken r) := by
  have hfirst := hwait s hr.start_mem_visited
  -- the job that the request is does not change
  have hvisited : ∀ t ∈ visited hist s',
      Inv h t ∧ r ∈ t.pending h ∧ job t.world r = job s.world r := by
    intro t ht
    have hmem := hwait t ht
    rcases mem_visited.1 ht with ⟨x, hx, rfl⟩ | rfl
    · obtain ⟨h₁, -, -, hr₁⟩ := hr.mem_history hx
      exact ⟨inv_of_reachable (hs.run hr₁), hmem, job_eq_of_run hs hr₁ hfirst hmem⟩
    · exact ⟨inv_of_reachable (hs.run hr), hmem, job_eq_of_run hs hr hfirst hmem⟩
  have hdevice : ∀ {t : State}, job t.world r = job s.world r → t.world.requestDevice r = d :=
    fun hjob => (congrArg WorkQueue.Job.resource hjob).trans hd
  constructor
  · refine hr.countP_add_le_add (μ := fun t => t.ahead h r) ?_ hvisited
    rintro t a u ⟨hi, hmem, hjob⟩ ⟨-, hmem', hjob'⟩ hstep
    have hle := ahead_step hi hstep hmem hmem' (hjob'.trans hjob.symm)
    rwa [hdevice hjob] at hle
  · intro hzero owner hbound
    obtain ⟨hi, hmem, hjob⟩ := hvisited s' (mem_visited.2 (.inr rfl))
    have hnext : s'.world.findPendingDeviceLocked h d = some r := by
      have hfind := WorkQueue.find_of_before hmem (by simp) hzero
      rw [World.findPendingDeviceLocked, ← hdevice hjob]
      exact hfind
    have hfound := findOwnerLocked_eq hi hbound
    simp only [World.fetchLocked, hfound, hnext]

/-- The second of two transfers is next after one fetch. -/
theorem bounded_overtaking_example : ∃ s hist s', (machine 0).Reachable s ∧
    Run (machine 0) s hist s' ∧ s.ahead 0 ⟨8, 1, none⟩ = 1 ∧
    (hist.countP fun x => x.1.fetchesFor 0 0 x.2) + s'.ahead 0 ⟨8, 1, none⟩ ≤
      1 + hist.countP (fun x => x.1.rollsBackFor 0 0 x.2) ∧
    (s'.world.fetchLocked 0 1).2 = .taken ⟨8, 1, none⟩ := by
  obtain ⟨s, hs, hp⟩ := exists_reachable_of_exec (State.initial_loaded 0)
    (f := State.step 0)
    (l := [.call (.register 1 0) {}, .run 0 {},
      .call (.submit 7 0 ⟨.bulk, .out, 1, none, some ⟨8, fun _ => 1⟩, 8⟩) {}, .run 1 {},
      .call (.submit 8 0 ⟨.bulk, .out, 1, none, some ⟨8, fun _ => 2⟩, 8⟩) {}, .run 2 {}])
    (p := fun s => s.world.requestDevice ⟨8, 1, none⟩ = 0 ∧ s.ahead 0 ⟨8, 1, none⟩ = 1 ∧
      (exec (restrict (State.step 0) fun t _ => ⟨8, 1, none⟩ ∈ t.pending 0) s
        [.call (.fetch 1 true) {}, .run 3 {}]).map (fun t => decide (⟨8, 1, none⟩ ∈ t.pending 0 ∧
          t.ahead 0 ⟨8, 1, none⟩ = 0 ∧ ⟨0, 1⟩ ∈ t.bindings 0)) = some true)
    (by decide)
  obtain ⟨hdevice, hahead, hexec⟩ := of_decide_eq_true hp
  obtain ⟨s', hist, hr, hC, hp'⟩ := exists_run_of_exec (I := State.Initial 0) hexec
  obtain ⟨hmem, hzero, hbound⟩ := of_decide_eq_true hp'
  have hwait : ∀ t ∈ visited hist s', (⟨8, 1, none⟩ : Request) ∈ t.pending 0 := by
    intro t ht
    rcases mem_visited.1 ht with ⟨x, hx, rfl⟩ | rfl
    · exact hC x hx
    · exact hmem
  obtain ⟨hle, hnext⟩ := bounded_overtaking hs hr hwait hdevice
  rw [hahead] at hle
  exact ⟨s, hist, s', hs, hr, hahead, hle, hnext hzero 1 hbound⟩

end DataPlane

end VirtUsb
