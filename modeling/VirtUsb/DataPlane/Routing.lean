/-
# No stranded and no misrouted transfer

Which binding a queued request can rely on, in every state the threads can
reach, and what a thread that serves one file leaves alone.
-/

import VirtUsb.DataPlane.ExactlyOnce

namespace VirtUsb

namespace DataPlane

/-- The binding a thread removed and whose requests it is still taking out. -/
def Thread.releases : Thread → Option Binding
  | .releaseDrain binding => some binding
  | .releaseTail binding _ => some binding
  | _ => none

/-- The file for which a thread runs fetch, rollback or complete. -/
def Thread.serves : Thread → Option FilePtr
  | .fetch owner _ => some owner
  | .fetchWait owner => some owner
  | .fetchTail owner _ => some owner
  | .fetchCopyOut owner _ => some owner
  | .rollback owner _ _ => some owner
  | .complete owner _ => some owner
  | .completeTail request _ => request.owner
  | _ => none

namespace State

variable (h : HcdId) (s : State)

/-- A release of the binding is still draining. -/
def Releasing (binding : Binding) : Prop :=
  ∃ thread ∈ s.threads, thread.releases = some binding

/-- The file that fetched the transfer last. -/
def fetchedBy (t : TransferPtr) : Option FilePtr :=
  (s.log.filterMap (WorkQueue.Event.leasedBy? t)).getLast?

/-- The bindings of the backend. -/
def bindings : List Binding := (s.world.backends h).bindings

/-- The requests that wait to be fetched. -/
def pending : List Request := (s.world.backends h).pending

/-- The requests that were fetched. -/
def active : List Request := (s.world.backends h).active

/-- Bindings are disjoint, and every queued request has the one it needs, unless
a release for it is still draining. -/
structure Routed : Prop where
  owners : ((s.bindings h).map Binding.owner).Nodup
  devices : ((s.bindings h).map Binding.device).Nodup
  pending : ∀ r ∈ s.pending h, r.owner = none ∧
    ((∀ b, s.Releasing b → b.device ≠ s.world.requestDevice r) →
      ∃! b, b ∈ s.bindings h ∧ b.device = s.world.requestDevice r)
  active : ∀ r ∈ s.active h, ∃ owner, r.owner = some owner ∧ s.fetchedBy r.transfer = some owner ∧
    (¬ s.Releasing ⟨s.world.requestDevice r, owner⟩ →
      ∀ device, ⟨device, owner⟩ ∈ s.bindings h ↔ device = s.world.requestDevice r)

end State

variable {h : HcdId} {s s' : State}

/-- The grant that an agent drains is that of the binding which its thread releases. -/
theorem drains_agent (w : World) (thread : Thread) :
    (agent w thread).drains = thread.releases.map grant := by
  cases thread <;> rfl

/-- A grant is draining if its binding is being released. -/
theorem draining_iff {b : Binding} : (queue h s).Draining (grant b) ↔ s.Releasing b := by
  simp only [WorkQueue.State.Draining, State.Releasing, queue, List.mem_map, exists_exists_and_eq_and,
    drains_agent, Option.map_eq_some_iff]
  constructor
  · rintro ⟨thread, ht, b', hb', hg⟩
    exact ⟨thread, ht, grant_injective hg ▸ hb'⟩
  · rintro ⟨thread, ht, hb⟩
    exact ⟨thread, ht, b, hb, rfl⟩

/-- The grants in force are those of the bindings. -/
theorem mem_grants {b : Binding} : grant b ∈ (queue h s).grants ↔ b ∈ s.bindings h :=
  List.mem_map_of_injective grant_injective

/-- A grant that no release is draining is in force if it is backed. -/
theorem mem_bindings_of_backed {b : Binding} (hb : (queue h s).Backed (grant b))
    (hr : ¬ s.Releasing b) : b ∈ s.bindings h :=
  mem_grants.1 (hb.resolve_right fun hd => hr (draining_iff.1 hd))

/-- A file has one binding at most. -/
theorem owners_nodup (hi : Inv h s) : ((s.bindings h).map Binding.owner).Nodup := by
  have hcl := Multiset.coe_nodup.1 hi.sound.grants.clients
  rwa [show (queue h s).grants = (s.bindings h).map grant from rfl, List.map_map] at hcl

/-- A device has one binding at most. -/
theorem devices_nodup (hi : Inv h s) : ((s.bindings h).map Binding.device).Nodup := by
  have hres := Multiset.coe_nodup.1 hi.sound.grants.resources
  rwa [show (queue h s).grants = (s.bindings h).map grant from rfl, List.map_map] at hres

/-- Bindings of one device are the same. -/
theorem eq_of_device (hi : Inv h s) {b b' : Binding} (hb : b ∈ s.bindings h)
    (hb' : b' ∈ s.bindings h) (hd : b.device = b'.device) : b = b' :=
  List.inj_on_of_nodup_map (devices_nodup hi) hb hb' hd

/-- Bindings of one file are the same. -/
theorem eq_of_owner (hi : Inv h s) {b b' : Binding} (hb : b ∈ s.bindings h)
    (hb' : b' ∈ s.bindings h) (ho : b.owner = b'.owner) : b = b' :=
  List.inj_on_of_nodup_map (owners_nodup hi) hb hb' ho

/-- **The invariant routes every request.** -/
theorem Inv.routed (hi : Inv h s) : s.Routed h where
  owners := owners_nodup hi
  devices := devices_nodup hi
  pending r hr := by
    have hw : job s.world r ∈ (queue h s).waiting := List.mem_map_of_mem hr
    refine ⟨hi.sound.ledger.plain (job s.world r) ?_, fun hno => ?_⟩
    · exact Multiset.mem_add.2 (.inl (Multiset.mem_add.2 (.inr (Multiset.mem_coe.2 hw))))
    · obtain ⟨⟨device, owner⟩, rfl, hb⟩ := hi.sound.routed.waiting _ hw
      have hmem : ⟨s.world.requestDevice r, owner⟩ ∈ s.bindings h :=
        mem_bindings_of_backed (b := ⟨_, owner⟩) hb fun hrel => hno _ hrel rfl
      exact ⟨_, ⟨hmem, rfl⟩, fun b hb => eq_of_device hi hb.1 hmem hb.2⟩
  active r hr := by
    obtain ⟨owner, ho, hlast, hb⟩ := hi.sound.routed.leased (job s.world r)
      (List.mem_map_of_mem hr)
    refine ⟨owner, ho, hlast, fun hno device => ⟨fun hmem => ?_, ?_⟩⟩
    · have hmem' := mem_bindings_of_backed (b := ⟨s.world.requestDevice r, owner⟩) hb hno
      exact congrArg Binding.device (eq_of_owner hi hmem hmem' rfl)
    · rintro rfl
      exact mem_bindings_of_backed (b := ⟨s.world.requestDevice r, owner⟩) hb hno

/-! ### A backend can get at every request -/

/-- The world after `n` fetches for a file, each as far as the lock. -/
def fetches (h : HcdId) (owner : FilePtr) (n : ℕ) (w : World) : World :=
  (fun w => (w.fetchLocked h owner).1)^[n] w

/-- A fetch moves the first pending request of the device that its file is bound to. -/
theorem fetchLocked_eq {w : World} {owner : FilePtr} {b : Binding} {r : Request}
    (hb : (w.backends h).findOwnerLocked owner = some b)
    (hr : w.findPendingDeviceLocked h b.device = some r) :
    w.fetchLocked h owner = ((w.relist h
      { w.backends h with
        pending := (w.backends h).pending.erase r
        active := (w.backends h).active ++ [{ r with owner := some owner }] }
      w.linked).transferGet r.transfer, .taken r) := by
  simp only [World.fetchLocked, hb, hr]
  rfl

/-- A file that is bound to the device of a pending request gets it, after the
requests of the device before it. -/
theorem exists_fetch {owner : FilePtr} {b : Binding} {r : Request} :
    ∀ {n : ℕ} {w : World}, (w.backends h).pending.length = n → r ∈ (w.backends h).pending →
      (w.backends h).findOwnerLocked owner = some b → b.device = w.requestDevice r →
      ∃ m, ((fetches h owner m w).fetchLocked h owner).2 = .taken r := by
  intro n
  induction n with
  | zero =>
      intro w hlen hr
      simp [List.length_eq_zero_iff.1 hlen] at hr
  | succ n ih =>
      intro w hlen hr hb hd
      obtain ⟨x, hx⟩ : ∃ x, w.findPendingDeviceLocked h b.device = some x :=
        Option.isSome_iff_exists.1 (List.find?_isSome.2 ⟨r, hr, by simp [hd]⟩)
      have hfetch := fetchLocked_eq hb hx
      rcases eq_or_ne x r with rfl | hne
      · exact ⟨0, by rw [fetches, Function.iterate_zero, id_eq, hfetch]⟩
      · have hq : Quiet ∅ [] (w.relist h
            { w.backends h with
              pending := (w.backends h).pending.erase x
              active := (w.backends h).active ++ [{ x with owner := some owner }] }
            w.linked) (w.fetchLocked h owner).1 := by
          rw [hfetch]
          exact .transferGet _ _
        have hback := (congrFun hq.backends h).trans (World.relist_backends_self ..)
        obtain ⟨m, hm⟩ := ih (w := (w.fetchLocked h owner).1)
          (by
            rw [hback, List.length_erase_of_mem (World.findPendingDeviceLocked_some hx).1, hlen]
            rfl)
          (by
            rw [hback]
            exact (List.mem_erase_of_ne hne.symm).2 hr)
          (by rw [hback]; exact hb) (hd.trans (congrFun hq.device r.transfer).symm)
        exact ⟨m + 1, by rwa [fetches, Function.iterate_succ_apply]⟩

/-- The search by owner finds the one binding of the file. -/
theorem findOwnerLocked_eq (hi : Inv h s) {b : Binding} (hb : b ∈ s.bindings h) :
    (s.world.backends h).findOwnerLocked b.owner = some b := by
  obtain ⟨b', hb'⟩ : ∃ b', (s.world.backends h).findOwnerLocked b.owner = some b' :=
    Option.isSome_iff_exists.1 (List.find?_isSome.2 ⟨b, hb, by simp⟩)
  obtain ⟨hmem, ho⟩ := World.findOwnerLocked_some hb'
  rw [hb', eq_of_owner hi hmem hb ho]

/-- A complete, or a rollback, of the id of an active request by its owner finds a
request with this id. -/
theorem exists_complete (hi : Inv h s) {r : Request} {owner : FilePtr} (hr : r ∈ s.active h)
    (ho : r.owner = some owner) : ∃ r' w',
      s.world.completeLocked h owner (s.world.transfers r.transfer).id = (w', .ok r') ∧
      (s.world.nextTransfer < 2 ^ 64 → r' = r ∧ (s.world.transfers r.transfer).id ≠ 0) := by
  obtain ⟨r', hr'⟩ : ∃ r', s.world.findIdLocked h owner (s.world.transfers r.transfer).id =
      some r' :=
    Option.isSome_iff_exists.1 (List.find?_isSome.2 ⟨r, hr, by simp [ho]⟩)
  obtain ⟨w', hw'⟩ : ∃ w', s.world.completeLocked h owner (s.world.transfers r.transfer).id =
      (w', .ok r') := by
    simp only [World.completeLocked, hr']
    exact ⟨_, rfl⟩
  refine ⟨r', w', hw', fun hn => ?_⟩
  obtain ⟨hmem, -, hid⟩ := World.findIdLocked_some hr'
  have hq : r ∈ s.queued h := List.mem_append_right _ hr
  have hq' : r' ∈ s.queued h := List.mem_append_right _ hmem
  obtain ⟨hlt, hrid⟩ := id_of_queued hi hq
  obtain ⟨hlt', hrid'⟩ := id_of_queued hi hq'
  refine ⟨eq_of_transfer hi hq' hq (transferId_inj hlt' hlt hn ?_), ?_⟩
  · rw [← hrid, ← hrid', hid]
  · rw [hrid]
    exact transferId_ne_zero hlt hn

/-! ### What serving one file leaves alone -/

/-- The request is queued for a device the file is not bound to. -/
def State.Foreign (h : HcdId) (s : State) (g : FilePtr) (r : Request) : Prop :=
  ∀ b ∈ s.bindings h, b.owner = g → b.device ≠ s.world.requestDevice r

instance (g : FilePtr) (r : Request) : Decidable (s.Foreign h g r) :=
  inferInstanceAs (Decidable (∀ b ∈ s.bindings h, b.owner = g → b.device ≠ s.world.requestDevice r))

/-- From `s` to `s'` the requests that are none of the file's business stay in
their lists, in the same order, with transfers whose contents did not change. -/
structure LeavesAlone (h : HcdId) (g : FilePtr) (s s' : State) : Prop where
  active : (s'.active h).filter (fun r => r.owner ≠ some g) =
    (s.active h).filter (fun r => r.owner ≠ some g)
  pending : (s.pending h).filter (fun r => s.Foreign h g r) <:+
    (s'.pending h).filter (fun r => s.Foreign h g r)
  transfers : ∀ r, (r ∈ s.active h ∧ r.owner ≠ some g) ∨ (r ∈ s.pending h ∧ s.Foreign h g r) →
    (s'.world.transfers r.transfer).content = (s.world.transfers r.transfer).content

/-- The lists of a step that leaves the requests of others in place. -/
theorem LeavesAlone.of_lists {e : Option Event} {g : FilePtr} (hi : Inv h s)
    (hsim : Simulated h s e s')
    (ha : (s'.active h).filter (fun r => r.owner ≠ some g) =
      (s.active h).filter (fun r => r.owner ≠ some g))
    (hp : (s.pending h).filter (fun r => s.Foreign h g r) <:+
      (s'.pending h).filter (fun r => s.Foreign h g r)) : LeavesAlone h g s s' := by
  refine ⟨ha, hp, fun r hr => ?_⟩
  have hmem : r ∈ s'.queued h := by
    rcases hr with ⟨hr, hne⟩ | ⟨hr, hne⟩
    · have hr' := ha ▸ List.mem_filter.2 ⟨hr, by simpa using hne⟩
      exact List.mem_append_right _ (List.mem_of_mem_filter hr')
    · have hr' := hp.subset (List.mem_filter.2 ⟨hr, by simpa using hne⟩)
      exact List.mem_append_left _ (List.mem_of_mem_filter hr')
  exact (hsim.content_of_mem hi.sound (List.mem_append_right _ (mem_listed.2 hmem))).1

/-- A step that changes no list leaves all requests in place. -/
theorem LeavesAlone.of_backends {e : Option Event} {g : FilePtr} (hi : Inv h s)
    (hsim : Simulated h s e s') (hb : s'.world.backends h = s.world.backends h) :
    LeavesAlone h g s s' := by
  have hpending : s'.pending h = s.pending h := congrArg Backend.pending hb
  refine .of_lists hi hsim (by rw [State.active, hb]; rfl) ?_
  simp only [hpending, List.suffix_refl]

/-- `virtusb_backend_fetch` takes a request for the device the file is bound to. -/
theorem LeavesAlone.taken {e : Option Event} {owner : FilePtr} {request : Request} (hi : Inv h s)
    (hsim : Simulated h s e s')
    (hw : s.world.fetchLocked h owner = (s'.world, .taken request)) :
    LeavesAlone h owner s s' := by
  obtain ⟨b, hb, ho, hf, hq⟩ := World.fetchLocked_taken (T := ∅) hw
  have hback := (congrFun hq.backends h).trans (World.relist_backends_self ..)
  have hown : s.Foreign h owner request = False :=
    eq_false fun hfor => hfor b hb ho (World.findPendingDeviceLocked_some hf).2.symm
  refine .of_lists hi hsim ?_ ?_
  · simp [State.active, hback]
  · have herase : ((s.pending h).erase request).filter (fun r => s.Foreign h owner r) =
        (s.pending h).filter (fun r => s.Foreign h owner r) :=
      Sequence.filter_erase_of_neg (by simp [hown]) _
    rw [← herase]
    simp [State.pending, hback]

/-- `virtusb_backend_fetch_rollback` puts a request of the file in front of the pending ones. -/
theorem LeavesAlone.restored {e : Option Event} {owner : FilePtr} {id : BitVec 64}
    {request : Request} (hi : Inv h s) (hsim : Simulated h s e s')
    (hw : s.world.rollbackLocked h owner id = (s'.world, .ok request)) :
    LeavesAlone h owner s s' := by
  obtain ⟨-, howner, -, heq⟩ := World.rollbackLocked_ok hw
  have hback := (congrArg (fun w => w.backends h) heq).trans (World.relist_backends_self ..)
  refine .of_lists hi hsim ?_ ?_
  · simpa [State.active, hback] using
      Sequence.filter_erase_of_neg (p := fun r : Request => r.owner ≠ some owner)
        (x := request) (by simp [howner]) (s.active h)
  · simp only [State.pending, hback, List.filter_cons]
    split
    · exact List.suffix_cons _ _
    · exact List.suffix_refl _

/-- `virtusb_backend_complete` takes out a request of the file. -/
theorem LeavesAlone.completed {e : Option Event} {owner : FilePtr} {id : BitVec 64}
    {request : Request} (hi : Inv h s) (hsim : Simulated h s e s')
    (hw : s.world.completeLocked h owner id = (s'.world, .ok request)) :
    LeavesAlone h owner s s' := by
  obtain ⟨-, howner, -, hq⟩ := World.completeLocked_ok (T := ∅) hw
  have hback := (congrFun hq.backends h).trans (World.relist_backends_self ..)
  refine .of_lists hi hsim ?_ ?_
  · simpa [State.active, hback] using
      Sequence.filter_erase_of_neg (p := fun r : Request => r.owner ≠ some owner)
        (x := request) (by simp [howner]) (s.active h)
  · simp only [State.pending, hback]
    exact List.suffix_refl _

/-- **Serving one file leaves the requests of all others in place.** -/
theorem resume_leavesAlone (hi : Inv h s) {i : ℕ} {env : Env} {thread : Thread} {g : FilePtr}
    (ht : s.threads[i]? = some thread) (hg : thread.serves = some g)
    (hs : s.resume h i env thread = some s') : LeavesAlone h g s s' := by
  obtain ⟨e, hsim⟩ := resume_simulates hi.sound ht hs
  have quiet : ∀ {T : Set TransferPtr} {given : List Giveback}, Quiet T given s.world s'.world →
      LeavesAlone h g s s' := fun hq => .of_backends hi hsim (congrFun hq.backends h)
  cases thread with
  | fetch owner nonblock =>
      obtain rfl := Option.some.inj hg
      simp only [State.resume] at hs
      split at hs
      · rename_i w e hw
        obtain rfl := World.fetchLocked_failed hw
        obtain rfl := Option.some.inj hs
        exact quiet (T := ∅) (.refl _)
      · rename_i w hw
        obtain rfl := World.fetchLocked_empty hw
        obtain rfl := Option.some.inj hs
        exact quiet (T := ∅) (.refl _)
      · rename_i w request hw
        obtain rfl := Option.some.inj hs
        exact .taken hi hsim hw
  | fetchWait owner =>
      simp only [State.resume] at hs
      split at hs
      · obtain rfl := Option.some.inj hs
        exact quiet (T := ∅) (.refl _)
      split at hs
      · obtain rfl := Option.some.inj hs
        exact quiet (T := ∅) (.refl _)
      · simp at hs
  | fetchTail owner t =>
      obtain rfl := Option.some.inj hs
      exact quiet (T := ∅) (.fetchTail _ t)
  | fetchCopyOut owner message =>
      obtain rfl := Option.some.inj hs
      exact quiet (T := ∅) (.refl _)
  | rollback owner transferId fetching =>
      obtain rfl := Option.some.inj hg
      simp only [State.resume] at hs
      split at hs
      · rename_i w e hw
        obtain rfl := World.rollbackLocked_error hw
        obtain rfl := Option.some.inj hs
        exact quiet (T := ∅) (.refl _)
      · rename_i w request hw
        obtain rfl := Option.some.inj hs
        exact .restored hi hsim hw
  | complete owner completion =>
      obtain rfl := Option.some.inj hg
      simp only [State.resume] at hs
      split at hs
      · rename_i w e hw
        obtain rfl := World.completeLocked_error hw
        obtain rfl := Option.some.inj hs
        exact quiet (T := ∅) (.refl _)
      · rename_i w request hw
        obtain rfl := Option.some.inj hs
        exact .completed hi hsim hw
  | completeTail request completion =>
      obtain rfl := Option.some.inj hs
      obtain ⟨status, hq⟩ := Quiet.completeTail (T := {request.transfer}) s.world rfl completion
      exact quiet hq
  | _ => simp [Thread.serves] at hg

/-- **No stranded and no misrouted transfer.**  In every state that threads on one
backend can reach, bindings are disjoint and every queued request has the one it
needs unless a release for it still drains.  If no release drains, the file bound
to the device of a pending request gets it after finitely many fetches, and the
owner of an active one completes it.  And a step of a fetch, a rollback or a
complete for a file `g`, with any id, leaves alone what is none of `g`'s.  A URB in
flight is not submitted again (`State.start`, the rule of the USB core). -/
theorem transfers_routed (hs : (machine h).Reachable s) :
    s.Routed h ∧
    ((∀ b, ¬ s.Releasing b) →
      (∀ r ∈ s.pending h, ∃ b ∈ s.bindings h, b.device = s.world.requestDevice r ∧
        ∃ n, ((fetches h b.owner n s.world).fetchLocked h b.owner).2 = .taken r) ∧
      (∀ r ∈ s.active h, ∃ b ∈ s.bindings h, b.device = s.world.requestDevice r ∧
        ∃ r' w', s.world.completeLocked h b.owner (s.world.transfers r.transfer).id =
            (w', .ok r') ∧
          (s.world.nextTransfer < 2 ^ 64 →
            r' = r ∧ (s.world.transfers r.transfer).id ≠ 0))) ∧
    (∀ i thread g env s', s.threads[i]? = some thread → thread.serves = some g →
      s.resume h i env thread = some s' → LeavesAlone h g s s') := by
  have hi := inv_of_reachable hs
  refine ⟨hi.routed, fun hno => ⟨fun r hr => ?_, fun r hr => ?_⟩,
    fun i thread g env s' ht hg hst => resume_leavesAlone hi ht hg hst⟩
  · obtain ⟨b, ⟨hb, hd⟩, -⟩ := (hi.routed.pending r hr).2 fun b hrel => absurd hrel (hno b)
    exact ⟨b, hb, hd, exists_fetch rfl hr (findOwnerLocked_eq hi hb) hd⟩
  · obtain ⟨owner, ho, -, hb⟩ := hi.routed.active r hr
    exact ⟨⟨s.world.requestDevice r, owner⟩, (hb (hno _) _).2 rfl, rfl, exists_complete hi hr ho⟩

/-- One request waits for its backend and another was fetched. -/
theorem transfers_routed_example : ∃ s, (machine 0).Reachable s ∧ s.Routed 0 ∧
    (∃ b ∈ s.bindings 0, ∃ n, ((fetches 0 b.owner n s.world).fetchLocked 0 b.owner).2 =
      .taken ⟨8, 1, none⟩) ∧
    ∃ b ∈ s.bindings 0, ∃ w', s.world.completeLocked 0 b.owner (s.world.transfers 0).id =
      (w', .ok ⟨7, 0, some 1⟩) := by
  obtain ⟨s, hs, hp⟩ := Transition.exists_reachable_of_exec (State.initial_loaded 0)
    (f := State.step 0)
    (l := [.call (.register 1 0) {}, .run 0 {},
      .call (.submit 7 0 ⟨.bulk, .in, 1, none, none, 8⟩) {}, .run 1 {},
      .call (.submit 8 0 ⟨.bulk, .in, 1, none, none, 8⟩) {}, .run 2 {},
      .call (.fetch 1 true) {}, .run 3 {}])
    (p := fun s => s.world.nextTransfer = 2 ∧ (∀ t ∈ s.threads, t.releases = none) ∧
      s.pending 0 = [⟨8, 1, none⟩] ∧ s.active 0 = [⟨7, 0, some 1⟩]) (by decide)
  obtain ⟨hnext, hrel, hpend, hact⟩ := of_decide_eq_true hp
  have hno : ∀ b, ¬ s.Releasing b := by
    rintro b ⟨t, ht, hb⟩
    simp [hrel t ht] at hb
  obtain ⟨hrouted, hserved, -⟩ := transfers_routed hs
  obtain ⟨hfetch, hcomplete⟩ := hserved hno
  obtain ⟨b, hb, -, n, hn⟩ := hfetch ⟨8, 1, none⟩ (by simp [hpend])
  obtain ⟨b', hb', -, r', w', hw', hr'⟩ := hcomplete ⟨7, 0, some 1⟩ (by simp [hact])
  obtain ⟨rfl, -⟩ := hr' (by rw [hnext]; decide)
  exact ⟨s, hs, hrouted, ⟨b, hb, n, hn⟩, ⟨b', hb', w', hw'⟩⟩

end DataPlane

end VirtUsb
