/-
# The order of the pending transfers

A submit appends at the tail of the pending list and a rollback puts a request
back at its head.  So the pending transfers of a device stay in the order of
their submission, and a fetch returns the oldest one, exactly as long as every
rollback puts back a request that is older than all pending ones of the device
(`order_kept_iff`).  Two fetches that overlap, and are rolled back in the order in
which they fetched, lose it (`rollback_reorders`).
-/

import VirtUsb.Lib.WorkQueue.Order
import VirtUsb.DataPlane.Routing

namespace VirtUsb

namespace DataPlane

namespace State

variable (h : HcdId) (s : State)

/-- The submissions that returned 0, in their order. -/
def accepted : List Job := s.log.filterMap WorkQueue.Event.accepted?

/-- The pending requests of a device. -/
def pendingOf (device : DevicePtr) : List Request :=
  (s.pending h).filter fun r => s.world.requestDevice r = device

/-- The pending requests of the device are in the order of their submission, and
a fetch takes the one submitted first. -/
structure InOrder (device : DevicePtr) : Prop where
  sorted : ((s.pendingOf h device).map (job s.world)).Sublist s.accepted
  oldest : ∀ owner r, (s.world.fetchLocked h owner).2 = .taken r →
    s.world.requestDevice r = device →
    ∀ r' ∈ s.pendingOf h device, r' ≠ r → [job s.world r, job s.world r'].Sublist s.accepted

/-- The request that the step rolls back. -/
def rollsBack : Act → Option Request
  | .call _ _ => none
  | .run i _ =>
      match s.threads[i]? with
      | some (.rollback owner id _) => s.world.findIdLocked h owner id
      | _ => none

/-- The step rolls back a request of the device while one that was submitted
earlier is pending. -/
def Overtakes (device : DevicePtr) (a : Act) : Prop :=
  ∃ r ∈ s.rollsBack h a, s.world.requestDevice r = device ∧ ∃ r' ∈ s.pendingOf h device,
    [job s.world r', job s.world { r with owner := none }].Sublist s.accepted

instance (device : DevicePtr) (a : Act) : Decidable (s.Overtakes h device a) :=
  inferInstanceAs (Decidable (∃ r ∈ s.rollsBack h a, s.world.requestDevice r = device ∧
    ∃ r' ∈ s.pendingOf h device,
      [job s.world r', job s.world { r with owner := none }].Sublist s.accepted))

end State

variable {h : HcdId} {s s' : State}

/-- The order of the queue is the order of the pending requests. -/
theorem ordered_queue {device : DevicePtr} : (queue h s).Ordered device ↔
    ((s.pendingOf h device).map (job s.world)).Sublist s.accepted := by
  rw [WorkQueue.State.Ordered, State.pendingOf, State.pending]
  simp only [queue, List.filter_map]
  rfl

/-- A fetch takes the first of the pending requests of its device. -/
theorem pendingOf_of_fetch {owner : FilePtr} {r : Request}
    (hf : (s.world.fetchLocked h owner).2 = .taken r) :
    ∃ rest, s.pendingOf h (s.world.requestDevice r) = r :: rest := by
  obtain ⟨b, -, -, hb, -⟩ := World.fetchLocked_taken (T := ∅) (Prod.ext rfl hf)
  have hd := (World.findPendingDeviceLocked_some hb).2
  have hhead : (s.pendingOf h (s.world.requestDevice r)).head? = some r := by
    rw [State.pendingOf, List.head?_filter, hd]
    exact hb
  exact List.head?_eq_some_iff.1 hhead

/-- Pending requests are in order if their jobs are. -/
theorem inOrder_iff {device : DevicePtr} : s.InOrder h device ↔ (queue h s).Ordered device := by
  rw [ordered_queue]
  refine ⟨State.InOrder.sorted, fun hs => ⟨hs, ?_⟩⟩
  rintro owner r hf rfl r' hr' hne
  obtain ⟨rest, hrest⟩ := pendingOf_of_fetch hf
  rw [hrest] at hs hr'
  have hmem : r' ∈ rest := (List.mem_cons.1 hr').resolve_left hne
  have hpair : [r, r'].Sublist (r :: rest) := (List.singleton_sublist.2 hmem).cons_cons r
  exact (hpair.map (job s.world)).trans hs

/-- A thread rolls back the request that its id finds. -/
theorem rollsBack_run {i : ℕ} {env : Env} {owner : FilePtr} {id : BitVec 64} {fetching : Bool}
    (ht : s.threads[i]? = some (.rollback owner id fetching)) :
    s.rollsBack h (.run i env) = s.world.findIdLocked h owner id := by
  simp only [State.rollsBack, ht]

/-- What is rolled back was fetched by the file that rolls it back. -/
theorem owner_of_rollsBack {a : Act} {r : Request} (hr : s.rollsBack h a = some r) :
    ∃ i env id owner fetching, a = .run i env ∧
      s.threads[i]? = some (.rollback owner id fetching) ∧
      s.world.findIdLocked h owner id = some r ∧ r.owner = some owner := by
  cases a with
  | call c env => simp [State.rollsBack] at hr
  | run i env =>
      simp only [State.rollsBack] at hr
      split at hr
      · rename_i owner id fetching ht
        exact ⟨i, env, id, owner, fetching, rfl, ht, hr, (World.findIdLocked_some hr).2.1⟩
      · simp at hr

/-- **A step logs a restoration exactly if it rolls back a request.** -/
theorem restored_iff {a : Act} {e : Option Event} (hs : s.step h a = some s')
    (hst : WorkQueue.Step (queue h s) e (queue h s')) {client : FilePtr} {j : Job} :
    e = some (.restored client j) ↔
      ∃ r ∈ s.rollsBack h a, r.owner = some client ∧ job s.world r = j := by
  have hlog : s'.log = s.log ++ e.toList := hst.log
  constructor
  · rintro rfl
    cases a with
    | call c env => simp [start_log hs] at hlog
    | run i env =>
        obtain ⟨thread, ht, hs⟩ := Option.bind_eq_some_iff.1 hs
        obtain ⟨owner, id, fetching, rfl⟩ := (resume_log hs hlog).2 client j rfl
        simp only [State.resume] at hs
        split at hs
        · obtain rfl := Option.some.inj hs
          simp [State.advance] at hlog
        · rename_i w r hw
          obtain rfl := Option.some.inj hs
          obtain ⟨rfl, rfl⟩ : owner = client ∧ job s.world r = j := by
            simpa [State.advance] using hlog
          have hr : s.world.findIdLocked h owner id = some r := World.rollbackLocked_eq_ok.1 ⟨w, hw⟩
          exact ⟨r, (rollsBack_run ht).trans hr, (World.findIdLocked_some hr).2.1, rfl⟩
  · rintro ⟨r, hr, howner, rfl⟩
    obtain ⟨i, env, id, owner, fetching, rfl, ht, hf, howner'⟩ := owner_of_rollsBack hr
    obtain rfl := Option.some.inj (howner'.symm.trans howner)
    obtain ⟨w, hw⟩ := World.rollbackLocked_eq_ok.2 hf
    obtain ⟨thread, ht', hs⟩ := Option.bind_eq_some_iff.1 hs
    obtain rfl := Option.some.inj (ht.symm.trans ht')
    simp only [State.resume, hw] at hs
    obtain rfl := Option.some.inj hs
    have he : e.toList = [.restored owner (job s.world r)] := by
      simpa [State.advance] using hlog.symm
    cases e with
    | none => simp at he
    | some e => exact congrArg some (by simpa using he)

/-- A step of the machine overtakes exactly if the step of the queue does. -/
theorem overtakes_queue {a : Act} {e : Option Event} (hs : s.step h a = some s')
    (hst : WorkQueue.Step (queue h s) e (queue h s')) {device : DevicePtr} :
    (queue h s).Overtakes device e ↔ s.Overtakes h device a := by
  constructor
  · rintro ⟨client, j, he, rfl, w, hw, hwr, hsub⟩
    obtain ⟨r, hr, -, rfl⟩ := (restored_iff hs hst).1 he
    obtain ⟨r', hr', rfl⟩ := List.mem_map.1 hw
    exact ⟨r, hr, rfl, r', List.mem_filter.2 ⟨hr', decide_eq_true hwr⟩, hsub⟩
  · rintro ⟨r, hr, hd, r', hr', hsub⟩
    obtain ⟨i, env, id, owner, fetching, -, -, -, howner⟩ := owner_of_rollsBack hr
    obtain ⟨hmem, hd'⟩ := List.mem_filter.1 hr'
    exact ⟨owner, job s.world r, (restored_iff hs hst).2 ⟨r, hr, howner, rfl⟩, hd,
      job s.world r', List.mem_map_of_mem hmem, of_decide_eq_true hd', hsub⟩

/-- One step: the order is kept if and only if the step does not overtake. -/
theorem step_inOrder_iff {a : Act} (hi : Inv h s) (hs : s.step h a = some s') {device : DevicePtr}
    (ho : s.InOrder h device) : s'.InOrder h device ↔ ¬ s.Overtakes h device a := by
  obtain ⟨⟨e, hst⟩, -⟩ := step_inv hi hs
  rw [inOrder_iff, hst.ordered_iff hi.sound.ledger (inOrder_iff.1 ho), overtakes_queue hs hst]

/-- Nothing is pending out of order before the first use. -/
theorem State.Initial.inOrder (hs : s.Initial h) (device : DevicePtr) : s.InOrder h device := by
  refine inOrder_iff.2 (ordered_queue.2 ?_)
  simp [State.pendingOf, State.pending, hs.backend]

/-- **The order is kept exactly in the runs in which no rollback puts back a
request behind whose back an older one waits.** -/
theorem order_kept_iff {s₀ : State} {hist : List (State × Act)} (h₀ : s₀.Initial h)
    (hr : Transition.Run (machine h) s₀ hist s) (device : DevicePtr) :
    ((∀ x ∈ hist, x.1.InOrder h device) ∧ s.InOrder h device) ↔
      ∀ x ∈ hist, ¬ x.1.Overtakes h device x.2 := by
  induction hr with
  | nil => simpa using h₀.inOrder device
  | @snoc hist t u a hr hst ih =>
      have hi : Inv h t := inv_of_reachable ⟨s₀, hist, h₀, hr⟩
      have hstep : t.InOrder h device → (u.InOrder h device ↔ ¬ t.Overtakes h device a) :=
        fun ho => step_inOrder_iff hi hst ho
      simp only [List.forall_mem_append, List.forall_mem_singleton]
      constructor
      · rintro ⟨⟨hhist, ht⟩, hu⟩
        exact ⟨ih.1 ⟨hhist, ht⟩, (hstep ht).1 hu⟩
      · rintro ⟨hhist, ha⟩
        obtain ⟨hhist', ht⟩ := ih.2 hhist
        exact ⟨⟨hhist', ht⟩, (hstep ht).2 ha⟩

/-- Two overlapping fetches that fail, the later one rolled back first. -/
theorem order_kept_example : ∃ s hist, Transition.Run (machine 0) .loaded hist s ∧
    s.InOrder 0 0 ∧ s.pending 0 = [⟨7, 0, none⟩, ⟨8, 1, none⟩] := by
  obtain ⟨s, hist, hr, hc, hp⟩ := Transition.exists_run_of_exec (I := State.Initial 0)
    (s := State.loaded) (f := State.step 0) (C := fun s a => ¬ s.Overtakes 0 0 a)
    (l := [.call (.register 1 0) {}, .run 0 {},
      .call (.submit 7 0 ⟨.bulk, .out, 1, none, some ⟨8, fun _ => 1⟩, 8⟩) {}, .run 1 {},
      .call (.submit 8 0 ⟨.bulk, .out, 1, none, some ⟨8, fun _ => 2⟩, 8⟩) {}, .run 2 {},
      .call (.fetch 1 true) {}, .run 3 {}, .call (.fetch 1 true) {}, .run 4 {},
      .run 3 {}, .run 3 { copyToUser := false }, .run 4 {}, .run 4 { copyToUser := false },
      .run 4 {}, .run 3 {}])
    (p := fun s => s.pending 0 = [⟨7, 0, none⟩, ⟨8, 1, none⟩]) (by decide)
  exact ⟨s, hist, hr, ((order_kept_iff (State.initial_loaded 0) hr 0).2 hc).2, of_decide_eq_true hp⟩

/-- **Overlapping fetches that fail can swap two transfers**: both are fetched
before either is rolled back, the one submitted first is rolled back first, and
the next fetch returns the one submitted last. -/
theorem rollback_reorders : ∃ s, (machine 0).Reachable s ∧ ¬ s.InOrder 0 0 ∧
    s.accepted = [⟨0, 7, 0, none⟩, ⟨1, 8, 0, none⟩] ∧
    (s.world.fetchLocked 0 1).2 = .taken ⟨8, 1, none⟩ := by
  obtain ⟨s, hs, hp⟩ := Transition.exists_reachable_of_exec (State.initial_loaded 0)
    (f := State.step 0)
    (l := [.call (.register 1 0) {}, .run 0 {},
      .call (.submit 7 0 ⟨.bulk, .out, 1, none, some ⟨8, fun _ => 1⟩, 8⟩) {}, .run 1 {},
      .call (.submit 8 0 ⟨.bulk, .out, 1, none, some ⟨8, fun _ => 2⟩, 8⟩) {}, .run 2 {},
      .call (.fetch 1 true) {}, .run 3 {}, .call (.fetch 1 true) {}, .run 4 {},
      .run 3 {}, .run 3 { copyToUser := false }, .run 3 {},
      .run 4 {}, .run 4 { copyToUser := false }, .run 4 {}])
    (p := fun s => s.accepted = [⟨0, 7, 0, none⟩, ⟨1, 8, 0, none⟩] ∧
      (s.world.fetchLocked 0 1).2 = .taken ⟨8, 1, none⟩ ∧
      (s.pendingOf 0 0).map (job s.world) = [⟨1, 8, 0, none⟩, ⟨0, 7, 0, none⟩]) (by decide)
  obtain ⟨hacc, hfetch, hpend⟩ := of_decide_eq_true hp
  refine ⟨s, hs, fun ho => ?_, hacc, hfetch⟩
  have hsort := ho.sorted
  rw [hacc, hpend] at hsort
  exact absurd hsort (by decide)

end DataPlane

end VirtUsb
