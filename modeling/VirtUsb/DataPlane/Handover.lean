/-
# A release and the next binding of its device

A release removes the binding of its file first and takes out the requests of
the device afterwards, one at a time and by device only.  A request submitted for
a newer binding in between is one of them (`release_takes_successor`).  It is
spared in every run that queues nothing for a device while a release of an
earlier binding of that device is draining (`release_spares_successor`).
-/

import VirtUsb.Lib.WorkQueue.Order
import VirtUsb.DataPlane.Routing

namespace VirtUsb

namespace DataPlane

namespace State

variable (h : HcdId) (s : State)

/-- The device for which the step queues a transfer: the step is the locked
section of a submit, and the backend is not stopping, the device has a binding
and the USB core links the URB. -/
def queues : Act → Option DevicePtr
  | .call _ _ => none
  | .run i env =>
      match s.threads[i]?, env.link with
      | some (.submit _ t), .ok () =>
          let device := (s.world.transfers t).device
          if (s.world.backends h).stopping = false ∧ ∃ b ∈ s.bindings h, b.device = device then
            some device
          else none
      | _, _ => none

/-- The step does not queue a transfer for a device while a release of an earlier
binding of the device is draining. -/
def Clear (a : Act) : Prop :=
  ∀ device ∈ s.queues h a, ∀ thread ∈ s.threads, ∀ b ∈ thread.releases, b.device ≠ device

instance (a : Act) : Decidable (s.Clear h a) :=
  inferInstanceAs (Decidable (∀ device ∈ s.queues h a, ∀ thread ∈ s.threads,
    ∀ b ∈ thread.releases, b.device ≠ device))

/-- A transfer submitted for a newer binding `b'` of a device, after thread `i`
removed the binding `b`, is not taken out or given back by `i`: it is in one of
the lists until another thread takes it out. -/
def Spared : Prop :=
  ∀ i b b' (j : Job), [.revoked i (grant b), .granted (grant b'), .accepted j].Sublist s.log →
    b'.device = b.device → j.resource = b.device →
    (∀ j', j'.key = j.key → .taken i j' ∉ s.log ∧ .returned i j' ∉ s.log) ∧
    ((∃ r ∈ s.queued h, r.transfer = j.key) ∨ ∃ k j', k ≠ i ∧ j'.key = j.key ∧ .taken k j' ∈ s.log)

end State

variable {h : HcdId} {s s' : State}

/-- **Only a step that queues a transfer logs an acceptance**, and of a transfer to
that device. -/
theorem queues_of_accepted {a : Act} {j : Job} (hs : s.step h a = some s')
    (hlog : s'.log = s.log ++ [.accepted j]) : s.queues h a = some j.resource := by
  cases a with
  | call c env => simp [start_log hs] at hlog
  | run i env =>
      obtain ⟨thread, ht, hs⟩ := Option.bind_eq_some_iff.1 hs
      by_cases hsub : ∃ u t, thread = .submit u t
      · obtain ⟨u, t, rfl⟩ := hsub
        simp only [State.resume] at hs
        split at hs
        · obtain rfl := Option.some.inj hs
          simp [State.advance] at hlog
        · rename_i w hw
          obtain rfl := Option.some.inj hs
          have hlink := World.link_of_submitLocked hw
          obtain ⟨hstop, hb, -⟩ := World.submitLocked_ok (T := ∅) hw
          have hj : job s.world { urb := u, transfer := t } = j := by
            simpa [State.advance] using hlog
          subst hj
          simp only [State.queues, ht, hlink]
          exact if_pos ⟨hstop, hb⟩
      · exact absurd ((resume_log hs hlog).1 j rfl) hsub

/-- A step that is clear in the machine is clear in the queue. -/
theorem clear_queue {a : Act} {e : Option Event} (hs : s.step h a = some s')
    (hst : WorkQueue.Step (queue h s) e (queue h s')) (hc : s.Clear h a) :
    (queue h s).Clear e := by
  rintro j rfl g ⟨x, hx, hg⟩ hres
  obtain ⟨thread, ht, rfl⟩ := List.mem_map.1 hx
  rw [drains_agent] at hg
  obtain ⟨b, hb, rfl⟩ := Option.map_eq_some_iff.1 hg
  have hq : s.queues h a = some j.resource := queues_of_accepted hs hst.log
  exact hc j.resource hq thread ht b hb hres

/-- What clear steps keep. -/
structure HandOver (h : HcdId) (s : State) : Prop where
  inv : Inv h s
  credited : (queue h s).Credited
  handedOver : (queue h s).HandedOver
  spared : (queue h s).Spared

/-- A clear step keeps it. -/
theorem HandOver.step {a : Act} (hi : HandOver h s) (hc : s.Clear h a)
    (hs : s.step h a = some s') : HandOver h s' := by
  obtain ⟨⟨e, hst⟩, hinv⟩ := step_inv hi.inv hs
  exact ⟨hinv, hi.credited.step hst, hi.handedOver.step hst (clear_queue hs hst hc),
    hi.spared.step hst hi.handedOver hi.inv.sound.ledger⟩

/-- A backend before its first use was handed over to nobody. -/
theorem State.Initial.handOver (hs : s.Initial h) : HandOver h s := by
  refine ⟨hs.inv, ⟨fun i a j ha => ?_, fun i j hj => ?_⟩, ⟨fun i g hm => ?_, fun i g j hsub => ?_⟩,
    fun i g j j' hsub => ?_⟩
  all_goals simp [queue, hs.log, hs.threads] at *

/-- What clear steps keep spares the transfers of the newer binding. -/
theorem HandOver.state_spared (hi : HandOver h s) : s.Spared h := by
  intro i b b' j hsub _ hres
  have hrev : [.revoked i (grant b), .accepted j].Sublist s.log :=
    ((List.sublist_cons_self _ _).cons_cons _).trans hsub
  have htaken : ∀ j', j'.key = j.key → .taken i j' ∉ s.log := fun j' hk =>
    hi.spared i (grant b) j j' hrev hres hk
  refine ⟨fun j' hk => ⟨htaken j' hk, fun hret => htaken j' hk (hi.credited.returned i j' hret)⟩, ?_⟩
  have hl := hi.inv.sound.ledger
  have hacc : j ∈ (queue h s).ledger.accepted :=
    Multiset.mem_coe.2 (List.mem_filterMap.2 ⟨.accepted j, hsub.subset (by simp), rfl⟩)
  rw [hl.accounted, Multiset.mem_map] at hacc
  obtain ⟨j₀, hj₀, rfl⟩ := hacc
  rcases Multiset.mem_add.1 hj₀ with hlist | hout
  · refine .inl ?_
    have hmem : j₀ ∈ (queue h s).listed := by
      simpa [WorkQueue.State.ledger, WorkQueue.State.listed] using hlist
    rw [listed_eq] at hmem
    obtain ⟨r, hr, rfl⟩ := List.mem_map.1 hmem
    exact ⟨r, hr, rfl⟩
  · obtain ⟨⟨k, j₁⟩, hk, rfl⟩ := List.mem_map.1 (Multiset.mem_coe.1 hout)
    obtain ⟨ev, hev, he⟩ := List.mem_filterMap.1 hk
    obtain rfl := WorkQueue.Event.taken?_eq_some.1 he
    refine .inr ⟨k, j₁, ?_, rfl, hev⟩
    rintro rfl
    exact htaken j₁ rfl hev

/-- **A release spares the transfers of its successor** in every run in which no
step queues a transfer for a device while a release of an earlier binding of the
device is draining. -/
theorem release_spares_successor {s₀ : State} {hist : List (State × Act)} (h₀ : s₀.Initial h)
    (hr : Transition.Run (machine h) s₀ hist s) (hc : ∀ x ∈ hist, x.1.Clear h x.2) : s.Spared h :=
  HandOver.state_spared <| hr.invariant_where (I := HandOver h) (C := fun s a => s.Clear h a)
    (fun _ _ _ hi hc hst => hi.step hc hst) h₀.handOver hc

/-- File 2 binds the device after file 1 was released, and its transfer is left
to it. -/
theorem release_spares_successor_example : ∃ s hist,
    Transition.Run (machine 0) .loaded hist s ∧ s.Spared 0 ∧
    [.revoked 1 (grant ⟨0, 1⟩), .granted (grant ⟨0, 2⟩), .accepted ⟨0, 7, 0, none⟩].Sublist s.log := by
  obtain ⟨s, hist, hr, hc, hp⟩ := Transition.exists_run_of_exec (I := State.Initial 0)
    (s := State.loaded) (f := State.step 0) (C := fun s a => s.Clear 0 a)
    (l := [.call (.register 1 0) {}, .run 0 {}, .call (.release 1) {}, .run 1 {},
      .call (.register 2 0) {}, .run 2 {}, .run 1 {},
      .call (.submit 7 0 ⟨.bulk, .in, 1, none, none, 8⟩) {}, .run 3 {}, .run 1 {}])
    (p := fun s => [.revoked 1 (grant ⟨0, 1⟩), .granted (grant ⟨0, 2⟩),
      .accepted ⟨0, 7, 0, none⟩].Sublist s.log) (by decide)
  exact ⟨s, hist, hr, release_spares_successor (State.initial_loaded 0) hr hc, of_decide_eq_true hp⟩

/-- **A release can take out a transfer of its successor**: file 2 binds the device
and a transfer is submitted for it while the release of file 1 drains, and the
URB is given back with `-ESHUTDOWN`. -/
theorem release_takes_successor : ∃ s, (machine 0).Reachable s ∧ ¬ s.Spared 0 ∧
    s.world.givebacks = [⟨7, Errno.ESHUTDOWN.status⟩] ∧ s.bindings 0 = [⟨0, 2⟩] := by
  obtain ⟨s, hs, hp⟩ := Transition.exists_reachable_of_exec (State.initial_loaded 0)
    (f := State.step 0)
    (l := [.call (.register 1 0) {}, .run 0 {}, .call (.release 1) {}, .run 1 {},
      .call (.register 2 0) {}, .run 2 {},
      .call (.submit 7 0 ⟨.bulk, .in, 1, none, none, 8⟩) {}, .run 3 {}, .run 1 {}, .run 1 {}])
    (p := fun s => [.revoked 1 (grant ⟨0, 1⟩), .granted (grant ⟨0, 2⟩),
        .accepted ⟨0, 7, 0, none⟩].Sublist s.log ∧ .taken 1 ⟨0, 7, 0, none⟩ ∈ s.log ∧
      s.world.givebacks = [⟨7, Errno.ESHUTDOWN.status⟩] ∧ s.bindings 0 = [⟨0, 2⟩]) (by decide)
  obtain ⟨hsub, htaken, hgiven, hbind⟩ := of_decide_eq_true hp
  refine ⟨s, hs, fun hsp => ?_, hgiven, hbind⟩
  exact ((hsp 1 ⟨0, 1⟩ ⟨0, 2⟩ ⟨0, 7, 0, none⟩ hsub rfl rfl).1 _ rfl).1 htaken

end DataPlane

end VirtUsb
