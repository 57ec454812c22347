/-
# Object ids are never reused

What a whole run of threads on the object manager leaves behind.  The registry follows
the directory that never reuses a name (`step_directory`), so that ids and lookups can
be read off the history of the run; and every reference is accounted for
(`step_counted`): the registry has one to each object it holds, which the call of
`virtusb_object_unregister` that took the object out drops afterwards.
-/

import VirtUsb.Registry.Threads

namespace VirtUsb

open RefCount Transition

namespace World

variable {w w' : World} {d : DevicePtr} {type : ObjectType} {xaInsert : Except Errno Unit}

/-! ### Registrations -/

/-- A registration that succeeds publishes the object under the next id, and takes a reference for
the table. -/
theorem objectRegister_ok (hs : w.objectRegister d type xaInsert = (w', .ok ())) :
    w.nextObjectId ≤ u32Max ∧
      w'.objects = Function.update w.objects d
        { id := w.nextObjectId, type := type, refcount := (w.objects d).refcount + 1,
          registered := true } ∧
      w'.objectTable = Function.update w.objectTable w.nextObjectId (some d) ∧
      w'.nextObjectId = w.nextObjectId + 1 := by
  simp only [objectRegister] at hs
  split at hs
  · simp at hs
  split at hs
  · simp at hs
  split at hs
  · simp at hs
  rename_i hnext
  rcases xaInsert with e | _
  · simp at hs
  · obtain rfl := congrArg Prod.fst hs
    refine ⟨Nat.not_lt.1 hnext, ?_, rfl, rfl⟩
    simp [objectGet, setObject]

/-- **A registration that fails** changes nothing. -/
theorem objectRegister_error {e : Errno} (hd : 0 < (w.objects d).refcount)
    (hs : w.objectRegister d type xaInsert = (w', .error e)) : w' = w := by
  simp only [objectRegister] at hs
  split at hs
  · exact (congrArg Prod.fst hs).symm
  split at hs
  · exact (congrArg Prod.fst hs).symm
  split at hs
  · exact (congrArg Prod.fst hs).symm
  rcases xaInsert with e | _
  · exact (congrArg Prod.fst hs).symm.trans (objectPut_objectGet hd)
  · simp at hs

/-- **Without an id left** every registration fails. -/
theorem objectRegister_exhausted (hnext : w.nextObjectId > u32Max) (d : DevicePtr)
    (type : ObjectType) (xaInsert : Except Errno Unit) :
    ∃ e, w.objectRegister d type xaInsert = (w, .error e) ∧
      (type ≠ .invalid → (w.objects d).registered = false → e = .ENOSPC) := by
  by_cases htype : type = .invalid
  · exact ⟨.EINVAL, by rw [objectRegister, if_pos htype], fun hne => absurd htype hne⟩
  by_cases hreg : (w.objects d).registered = true
  · refine ⟨.EALREADY, by rw [objectRegister, if_neg htype, if_pos hreg], fun _ hoff => ?_⟩
    exact absurd (hoff.symm.trans hreg) (by decide)
  · refine ⟨.ENOSPC, ?_, fun _ _ => rfl⟩
    rw [objectRegister, if_neg htype, if_neg hreg, if_pos hnext]

/-- Dropping a reference does not touch the table. -/
@[simp]
theorem objectTable_objectPut (w : World) (d : DevicePtr) :
    (w.objectPut d).objectTable = w.objectTable := by
  simp only [objectPut]
  split <;> rfl

/-- Dropping a reference uses up no id. -/
@[simp]
theorem nextObjectId_objectPut (w : World) (d : DevicePtr) :
    (w.objectPut d).nextObjectId = w.nextObjectId := by
  simp only [objectPut]
  split <;> rfl

end World

namespace ObjectManager

variable {s s' : State} {a : Action} {h : History} {i : Tid} {d : DevicePtr} {id : ObjectId}

/-! ### References -/

/-- The references of the threads to each object. -/
def State.references (s : State) : DevicePtr → ℕ :=
  tally (s.held.map Prod.snd) + tally (s.leaving.map Leaving.object)

/-- Every reference is one of the registry or of a thread. -/
def State.Counted (s : State) : Prop := s.world.Accounts 0 s.references 0

/-- One of the references that callers hold, and the rest. -/
theorem references_held (hm : (i, d) ∈ s.held) :
    s.references = tally ((s.held.erase (i, d)).map Prod.snd) +
      tally (s.leaving.map Leaving.object) + Pi.single d 1 := by
  rw [State.references, tally_map_erase Prod.snd hm, add_right_comm]

/-- One of the references that are about to be dropped, and the rest. -/
theorem references_leaving {x : Leaving} (hx : x ∈ s.leaving) :
    s.references = tally (s.held.map Prod.snd) +
      tally ((s.leaving.erase x).map Leaving.object) + Pi.single x.object 1 := by
  rw [State.references, tally_map_erase Leaving.object hx, add_assoc]

/-- A reference more that a thread holds. -/
theorem references_cons (w : World) (i : Tid) (d : DevicePtr) :
    State.references { s with world := w, held := (i, d) :: s.held } =
      s.references + Pi.single d 1 := by
  rw [State.references, List.map_cons, tally_cons, add_right_comm]
  rfl

/-- An object to which a caller has a reference is alive. -/
theorem State.Counted.pos (hc : s.Counted) (hm : (i, d) ∈ s.held) :
    0 < (s.world.objects d).refcount := by
  unfold State.Counted at hc
  rw [references_held hm] at hc
  exact hc.count_pos

/-- After loading nothing is counted, and nothing is held. -/
theorem counted_loaded : State.loaded.Counted := World.Accounts.loaded 0

/-- **Every step accounts for the references it takes and drops.** -/
theorem step_counted (hs : Step s a s') (hc : s.Counted) : s'.Counted := by
  cases hs with
  | alloc _ => exact hc.objectAlloc.of_eq (references_cons _ _ _).symm rfl
  | @register i d type xaInsert w r hm hr =>
      have hcount := hc.objectRegister (hc.pos hm.2) type xaInsert
      rw [hr] at hcount
      exact hcount
  | unregisterFailed _ _ => exact hc
  | unregister hm hl =>
      refine (World.Accounts.objectUnregisterLocked hc hl).of_eq ?_ rfl
      rw [State.references, State.references, List.map_cons, tally_cons, add_assoc]
  | unregisterPut hx =>
      unfold State.Counted at hc
      rw [references_leaving (List.mem_of_find?_eq_some hx)] at hc
      exact hc.objectPut
  | lookupFailed _ _ => exact hc
  | lookup _ hl =>
      exact (World.Accounts.objectLookup hc hl).1.of_eq (references_cons _ _ _).symm rfl
  | get hm => exact (hc.objectGet (hc.pos hm.2)).of_eq (references_cons _ _ _).symm rfl
  | put hm =>
      unfold State.Counted at hc
      rw [references_held hm.2] at hc
      exact hc.objectPut
  | handOver hm =>
      refine Ledger.of_eq hc ?_ rfl
      rw [references_held hm.2, State.references, List.map_cons, tally_cons, add_right_comm]

/-! ### The directory -/

/-- **The registry follows the directory that never reuses a name.** -/
theorem step_directory (hs : Step s a s') (hc : s.Counted) :
    (event (s, a) = none ∧ s'.directory = s.directory) ∨
      ∃ e, event (s, a) = some e ∧ s.directory.apply u32Max e = some s'.directory := by
  cases hs with
  | @register i d type xaInsert w r hm hr =>
      rcases r with e | _
      · rw [World.objectRegister_error (hc.pos hm.2) hr]
        exact .inl ⟨by simp only [event, hr], rfl⟩
      · obtain ⟨hle, hobjects, htable, hnext⟩ := World.objectRegister_ok hr
        have hid : (w.objects d).id = s.world.nextObjectId := by simp [hobjects]
        refine .inr ⟨.publish s.world.nextObjectId d, by simp only [event, hr, hid], ?_⟩
        simp [Directory.Dir.apply, State.directory, htable, hnext, hle]
  | unregisterFailed _ hl => exact .inl ⟨by simp only [event, hl], rfl⟩
  | @unregister i d w _ hl =>
      obtain ⟨-, htable, -, hbooks⟩ := World.objectUnregisterLocked_ok hl
      have htable' := congrArg Books.objectTable hbooks
      have hnext := congrArg Books.nextObjectId hbooks
      refine .inr ⟨.retract (s.world.objects d).id, by simp only [event, hl], ?_⟩
      simp only [Directory.Dir.apply, State.directory, htable, Option.isSome_some, if_true]
      exact congrArg some (congrArg₂ Directory.Dir.mk htable'.symm hnext.symm)
  | alloc _ => exact .inl ⟨rfl, rfl⟩
  | unregisterPut _ => exact .inl ⟨rfl, by simp [State.directory]⟩
  | lookupFailed _ _ => exact .inl ⟨rfl, rfl⟩
  | lookup _ _ => exact .inl ⟨rfl, rfl⟩
  | get _ => exact .inl ⟨rfl, rfl⟩
  | put _ => exact .inl ⟨rfl, by simp [State.directory]⟩
  | handOver _ => exact .inl ⟨rfl, rfl⟩

/-! ### What a history says about objects and about the calls still running -/

/-- An object keeps its mark and its id, is new, or is the one the step is about. -/
theorem step_object (hs : Step s a s') (hc : s.Counted) (d : DevicePtr) :
    ((s'.world.objects d).id = (s.world.objects d).id ∧
        (s'.world.objects d).registered = (s.world.objects d).registered) ∨
      (s'.world.objects d).id = 0 ∨
      ((s'.world.objects d).registered = true ∧
        event (s, a) = some (.publish (s'.world.objects d).id d)) ∨
      event (s, a) = some (.retract (s'.world.objects d).id) := by
  have hget : ∀ d', ((s.world.objectGet d').objects d).id = (s.world.objects d).id ∧
      ((s.world.objectGet d').objects d).registered = (s.world.objects d).registered := by
    intro d'
    rcases eq_or_ne d d' with rfl | hne
    · simp [World.objectGet, World.setObject]
    · simp [World.objectGet, World.setObject, hne]
  have hput : ∀ d', ((s.world.objectPut d').objects d).id = (s.world.objects d).id ∧
      ((s.world.objectPut d').objects d).registered = (s.world.objects d).registered := by
    intro d'
    have hobjects := congrArg Books.objects (s.world.books_objectPut d')
    change (s.world.objectPut d').objects = Function.update s.world.objects d' _ at hobjects
    rw [hobjects]
    rcases eq_or_ne d d' with rfl | hne
    · simp
    · simp [hne]
  cases hs with
  | alloc _ =>
      rcases eq_or_ne d s.world.nextDevice with rfl | hne
      · exact .inr (.inl (by simp [World.objectAlloc, World.setObject]))
      · exact .inl (by simp [World.objectAlloc, World.setObject, hne])
  | @register i d' type xaInsert w r hm hr =>
      rcases r with e | _
      · rw [World.objectRegister_error (hc.pos hm.2) hr]
        exact .inl ⟨rfl, rfl⟩
      · obtain ⟨-, hobjects, -, -⟩ := World.objectRegister_ok hr
        rcases eq_or_ne d d' with rfl | hne
        · exact .inr (.inr (.inl ⟨by simp [hobjects], by simp only [event, hr]⟩))
        · exact .inl (by simp [hobjects, hne])
  | unregisterFailed _ _ => exact .inl ⟨rfl, rfl⟩
  | @unregister i d' w _ hl =>
      obtain ⟨-, -, -, hbooks⟩ := World.objectUnregisterLocked_ok hl
      have hobjects := congrArg Books.objects hbooks
      change w.objects = Function.update s.world.objects d' _ at hobjects
      rcases eq_or_ne d d' with rfl | hne
      · exact .inr (.inr (.inr (by simp only [event, hl]; simp [hobjects])))
      · exact .inl (by simp [hobjects, hne])
  | unregisterPut _ => exact .inl (hput _)
  | lookupFailed _ _ => exact .inl ⟨rfl, rfl⟩
  | lookup _ _ => exact .inl (hget _)
  | get _ => exact .inl (hget _)
  | put _ => exact .inl (hput _)
  | handOver _ => exact .inl ⟨rfl, rfl⟩

/-- The ids whose reference is still to be dropped. -/
def State.outstanding (s : State) : List ObjectId := s.leaving.map Leaving.id

/-- A step drops the reference of an id, or its call of `virtusb_object_unregister` has
yet to do so. -/
theorem step_outstanding (hs : Step s a s') :
    ((drops (s, a)).toList ++ s'.outstanding).Perm
      (((event (s, a)).bind Directory.Event.retracted).toList ++ s.outstanding) := by
  cases hs with
  | @register i d type xaInsert w r hm hr =>
      rcases r with e | _
      · simp only [event, hr]
        exact .refl _
      · simp only [event, hr]
        exact .refl _
  | unregisterFailed _ hl =>
      simp only [event, hl]
      exact .refl _
  | unregister _ hl =>
      simp only [event, hl]
      exact .refl _
  | unregisterPut hx =>
      simp only [drops, hx]
      exact ((List.perm_cons_erase (List.mem_of_find?_eq_some hx)).map Leaving.id).symm
  | alloc _ => exact .refl _
  | lookupFailed _ _ => exact .refl _
  | lookup _ _ => exact .refl _
  | get _ => exact .refl _
  | put _ => exact .refl _
  | handOver _ => exact .refl _

/-- What the history `h` says about the state `s` it led to. -/
structure Recorded (h : History) (s : State) : Prop where
  counted : s.Counted
  log : Directory.Log u32Max h.events s.directory
  /-- The id of an object is that of its last publication. -/
  object : ∀ d, (s.world.objects d).id ≠ 0 → (s.world.objects d).id ∈ h.ids ∧
    ((s.world.objects d).registered = false → (s.world.objects d).id ∈ h.retractions)
  dropped : (h.filterMap drops ++ s.outstanding).Perm h.retractions
  /-- A call for a publication that has ended failed, or ended it itself. -/
  called : ∀ id, id ≠ 0 → id ∈ h.filterMap unregisters → id ∈ h.retractions

/-- One more action adds its event, if it has one. -/
theorem events_append (h : History) (x : State × Action) :
    History.events (h ++ [x]) = h.events ++ (event x).toList := by
  rcases he : event x with _ | e <;> simp [History.events, he]

/-- One more action adds the id it publishes, if any. -/
theorem ids_append (h : History) (x : State × Action) :
    History.ids (h ++ [x]) =
      h.ids ++ (((event x).bind Directory.Event.published).map Prod.fst).toList := by
  unfold History.ids Directory.names Directory.publications
  rw [events_append]
  rcases event x with _ | e
  · simp
  · cases e <;> simp [Directory.Event.published]

/-- One more action adds the id it retracts, if any. -/
theorem retractions_append (h : History) (x : State × Action) :
    History.retractions (h ++ [x]) =
      h.retractions ++ ((event x).bind Directory.Event.retracted).toList := by
  unfold History.retractions Directory.retractions
  rw [events_append]
  rcases event x with _ | e
  · simp
  · cases e <;> simp [Directory.Event.retracted]

/-- The retractions of two histories after each other. -/
theorem retractions_concat (h k : History) :
    History.retractions (h ++ k) = h.retractions ++ k.retractions := by
  simp [History.retractions, History.events, Directory.retractions]

/-- The empty history records the state after loading. -/
theorem recorded_loaded : Recorded [] .loaded where
  counted := counted_loaded
  log := .nil
  object d hd := absurd rfl hd
  dropped := .refl _
  called id _ hid := absurd hid (by simp)

/-- A call of `virtusb_object_unregister` for a publication that has not ended ends it. -/
theorem step_unregisters (hs : Step s a s') (hc : s.Counted) (hid : unregisters (s, a) = some id) :
    ∃ d, (s.world.objects d).id = id ∧
      ((s.world.objects d).registered = true → event (s, a) = some (.retract id)) := by
  cases hs with
  | @unregisterFailed i d e _ hl =>
      obtain rfl : (s.world.objects d).id = id := by simpa [unregisters] using hid
      refine ⟨d, rfl, fun hreg => ?_⟩
      obtain ⟨htable, hpos⟩ : s.world.objectTable (s.world.objects d).id = some d ∧
          0 < (s.world.objects d).id := hc.registry.object d hreg
      simp [World.objectUnregisterLocked, hreg, htable, Nat.ne_of_gt hpos] at hl
  | @unregister i d w _ hl =>
      obtain rfl : (s.world.objects d).id = id := by simpa [unregisters] using hid
      exact ⟨d, rfl, fun _ => by simp only [event, hl]⟩
  | alloc _ => exact absurd hid (by simp [unregisters])
  | register _ _ => exact absurd hid (by simp [unregisters])
  | unregisterPut _ => exact absurd hid (by simp [unregisters])
  | lookupFailed _ _ => exact absurd hid (by simp [unregisters])
  | lookup _ _ => exact absurd hid (by simp [unregisters])
  | get _ => exact absurd hid (by simp [unregisters])
  | put _ => exact absurd hid (by simp [unregisters])
  | handOver _ => exact absurd hid (by simp [unregisters])

/-- **Every step keeps the record.** -/
theorem Recorded.step (hr : Recorded h s) (hs : Step s a s') : Recorded (h ++ [(s, a)]) s' := by
  have hids := ids_append h (s, a)
  have hretractions := retractions_append h (s, a)
  have hlog : Directory.Log u32Max (h ++ [(s, a)] : History).events s'.directory := by
    rw [events_append]
    rcases step_directory hs hr.counted with ⟨he, heq⟩ | ⟨e, he, heq⟩
    · rw [he, heq, Option.toList_none, List.append_nil]
      exact hr.log
    · rw [he]
      exact .snoc hr.log heq
  refine ⟨step_counted hs hr.counted, hlog, fun d hd => ?_, ?_, fun id hne hid => ?_⟩
  · rw [hids, hretractions]
    rcases step_object hs hr.counted d with ⟨hid, hreg⟩ | hid | ⟨hreg, he⟩ | he
    · rw [hid] at hd ⊢
      rw [hreg]
      obtain ⟨hmem, hended⟩ := hr.object d hd
      exact ⟨List.mem_append_left _ hmem, fun hoff => List.mem_append_left _ (hended hoff)⟩
    · exact absurd hid hd
    · rw [he]
      refine ⟨by simp [Directory.Event.published], fun hoff => ?_⟩
      exact absurd (hoff.symm.trans hreg) (by decide)
    · have hretracted : (s'.world.objects d).id ∈ (h ++ [(s, a)] : History).retractions := by
        rw [hretractions, he]
        simp [Directory.Event.retracted]
      have hnamed := hlog.retracted_published hretracted
      change _ ∈ (h ++ [(s, a)] : History).ids at hnamed
      rw [hids] at hnamed
      rw [hretractions] at hretracted
      exact ⟨hnamed, fun _ => hretracted⟩
  · rw [List.filterMap_append, hretractions]
    have hstep := step_outstanding hs
    have hdrops : [(s, a)].filterMap drops = (drops (s, a)).toList := by
      rcases hd : drops (s, a) with _ | x <;> simp [hd]
    rw [hdrops, List.append_assoc]
    refine (hstep.append_left _).trans ((List.perm_append_comm_assoc _ _ _).trans ?_)
    exact List.perm_append_comm.trans (hr.dropped.append_right _)
  · rw [hretractions]
    rw [List.filterMap_append, List.mem_append] at hid
    rcases hid with hid | hid
    · exact List.mem_append_left _ (hr.called id hne hid)
    · have hcall : unregisters (s, a) = some id := by
        obtain ⟨x, hx, hid⟩ := List.mem_filterMap.1 hid
        rwa [← List.mem_singleton.1 hx]
      obtain ⟨d, rfl, hends⟩ := step_unregisters hs hr.counted hcall
      by_cases hreg : (s.world.objects d).registered = true
      · rw [hends hreg]
        simp [Directory.Event.retracted]
      · exact List.mem_append_left _ ((hr.object d hne).2 (Bool.eq_false_of_not_eq_true hreg))

/-- **A run is recorded.** -/
theorem recorded_of_run (hr : Run machine .loaded h s) : Recorded h s := by
  induction hr with
  | nil => exact recorded_loaded
  | snoc _ hst ih => exact ih.step (step_cases hst)

/-! ### The object manager -/

/-- What the object manager guarantees after the steps `h`, which led to the state `s`. -/
structure Guarantee (h : History) (s : State) : Prop where
  /-- Every id is greater than all that were given before, -/
  increasing : h.ids.Pairwise (· < ·)
  range : ∀ id ∈ h.ids, 1 ≤ id ∧ id ≤ 2 ^ 32 - 1
  /-- and after the last one a registration fails without any effect. -/
  exhausted : 2 ^ 32 - 1 ∈ h.ids → ∀ d type xaInsert,
    ∃ e, s.world.objectRegister d type xaInsert = (s.world, .error e) ∧
      (type ≠ .invalid → (s.world.objects d).registered = false → e = .ENOSPC)
  /-- A lookup finds an object exactly while it is published under the id, -/
  lookup : ∀ id d, (s.world.objectLookup id).2 = some d ↔
    (id, d) ∈ h.publications ∧ id ∉ h.retractions
  /-- and nothing at all, whatever happens, once its publication has ended. -/
  stale : ∀ id ∈ h.retractions, ∀ k u, Run machine s k u → (u.world.objectLookup id).2 = none
  /-- What is found has not been released. -/
  alive : ∀ id d, (s.world.objectLookup id).2 = some d →
    0 < (s.world.objects d).refcount ∧ d ∉ s.world.released.map Release.device
  /-- Of the calls that unregister a publication one succeeds, -/
  unregistered : ∀ id, id ≠ 0 →
    h.retractions.count id = if id ∈ h.filterMap unregisters then 1 else 0
  /-- and drops the reference of the registry, once, or has yet to do so. -/
  dropped : (h.filterMap drops ++ s.leaving.map Leaving.id).Perm h.retractions
  counted : ∀ d, (s.world.objects d).refcount =
    (if (s.world.objects d).registered then 1 else 0) + (s.held.map Prod.snd).count d +
      (s.leaving.map Leaving.object).count d
  /-- A registration that fails changes nothing. -/
  failed : ∀ i d type xaInsert e, s.MayPass i d →
    (s.world.objectRegister d type xaInsert).2 = .error e →
      (s.world.objectRegister d type xaInsert).1 = s.world

/-- A lookup reads the directory. -/
theorem objectLookup_eq_entry (s : State) (hzero : s.world.objectTable 0 = none) (id : ObjectId) :
    (s.world.objectLookup id).2 = s.directory.entry id := by
  unfold World.objectLookup
  split
  · rename_i hid
    rw [hid]
    exact hzero.symm
  · rcases ht : s.world.objectTable id with _ | d
    · exact ht.symm
    · exact ht.symm

/-- An id is retracted by an action that unregisters it. -/
theorem unregisters_of_retract {x : State × Action} (he : event x = some (.retract id)) :
    unregisters x = some id := by
  obtain ⟨s, a⟩ := x
  cases a with
  | register i d type xaInsert =>
      simp only [event] at he
      split at he
      · simp at he
      · simp at he
  | unregister i d =>
      simp only [event] at he
      split at he
      · simpa [unregisters] using he
      · simp at he
  | alloc i => simp [event] at he
  | unregisterPut i => simp [event] at he
  | lookup i id => simp [event] at he
  | get i d => simp [event] at he
  | put i d => simp [event] at he
  | handOver i j d => simp [event] at he

namespace Recorded

/-- No object is published under zero. -/
theorem zero (hr : Recorded h s) : s.world.objectTable 0 = none := by
  rcases ht : s.world.objectTable 0 with _ | d
  · rfl
  · have hnamed := hr.log.mem_names.1 (List.mem_map.2 ⟨(0, d), hr.log.entry_published ht, rfl⟩)
    exact absurd hnamed.1 (by simp)

/-- A lookup finds what was published under the id and not retracted. -/
theorem lookup_iff (hr : Recorded h s) : (s.world.objectLookup id).2 = some d ↔
    (id, d) ∈ h.publications ∧ id ∉ h.retractions := by
  rw [objectLookup_eq_entry s hr.zero]
  exact hr.log.entry_iff

/-- A retracted id finds nothing. -/
theorem lookup_retracted (hr : Recorded h s) (hid : id ∈ h.retractions) :
    (s.world.objectLookup id).2 = none := by
  rcases hl : (s.world.objectLookup id).2 with _ | d
  · rfl
  · exact absurd hid (hr.lookup_iff.1 hl).2

/-- **A run of any actions keeps the record.** -/
theorem run {k : History} {u : State} (hr : Recorded h s) (hrun : Run machine s k u) :
    Recorded (h ++ k) u := by
  induction hrun with
  | nil => rwa [List.append_nil]
  | snoc _ hst ih =>
      rw [← List.append_assoc]
      exact ih.step (step_cases hst)

/-- An object that a lookup finds has not been released. -/
theorem alive (hr : Recorded h s) (hl : (s.world.objectLookup id).2 = some d) :
    0 < (s.world.objects d).refcount ∧ d ∉ s.world.released.map Release.device := by
  have hfound : s.world.objectLookup id = ((s.world.objectLookup id).1, some d) :=
    Prod.ext rfl hl
  have hreg := (World.Accounts.objectLookup hr.counted hfound).2.2.1
  have hpos : 0 < (s.world.objects d).refcount := hr.counted.count_pos_of_registered hreg
  refine ⟨hpos, fun hmem => ?_⟩
  have howed := (hr.counted.devices.mem_freed.1 hmem).2
  rw [← congrFun hr.counted.devices.count d] at howed
  exact absurd howed (Nat.ne_of_gt hpos)

/-- The count of an object: one for the table, and one for each reference of a caller. -/
theorem refcount_eq (hr : Recorded h s) (d : DevicePtr) : (s.world.objects d).refcount =
    (if (s.world.objects d).registered then 1 else 0) + (s.held.map Prod.snd).count d +
      (s.leaving.map Leaving.object).count d := by
  have hcount := congrFun hr.counted.devices.count d
  have htargeted := hr.counted.targeted_eq_zero
  rw [htargeted, Finset.range_zero, Finset.sum_empty, add_zero, add_zero] at hcount
  exact hcount.trans (add_assoc _ _ _).symm

/-- An id is retracted once at most, by the action that unregisters it. -/
theorem count_retractions (hr : Recorded h s) (hne : id ≠ 0) :
    h.retractions.count id = if id ∈ h.filterMap unregisters then 1 else 0 := by
  have hnodup : h.retractions.Nodup := hr.log.nodup_retracted
  split
  · rename_i hcall
    exact List.count_eq_one_of_mem hnodup (hr.called id hne hcall)
  · rename_i hnone
    refine List.count_eq_zero.2 fun hmem => hnone ?_
    obtain ⟨e, he, hid⟩ := List.mem_filterMap.1 hmem
    obtain ⟨x, hx, hxe⟩ := List.mem_filterMap.1 he
    obtain rfl : e = .retract id := by
      cases e with
      | publish n b => simp [Directory.Event.retracted] at hid
      | retract n => simpa [Directory.Event.retracted] using hid
    exact List.mem_filterMap.2 ⟨x, hx, unregisters_of_retract hxe⟩

end Recorded

/-- **Object ids are never reused**, whatever the threads do and in whatever order: what
the object manager guarantees holds after every run. -/
theorem ids_never_reused (hr : Run machine .loaded h s) : Guarantee h s := by
  have hrec := recorded_of_run hr
  refine ⟨hrec.log.pairwise_names, fun id hid => ?_, fun hlast => ?_, fun id d => hrec.lookup_iff,
    fun id hid k u hu => ?_, fun id d hl => hrec.alive hl, fun id hne => hrec.count_retractions hne,
    hrec.dropped, hrec.refcount_eq, fun i d type xaInsert e hm he => ?_⟩
  · obtain ⟨hpos, hlt⟩ := hrec.log.mem_names.1 hid
    exact ⟨hpos, Nat.le_of_lt_succ (Nat.lt_of_lt_of_le hlt hrec.log.next_le)⟩
  · exact s.world.objectRegister_exhausted (hrec.log.mem_names.1 hlast).2
  · refine (hrec.run hu).lookup_retracted ?_
    rw [retractions_concat]
    exact List.mem_append_left _ hid
  · exact World.objectRegister_error (hrec.counted.pos hm.2) (Prod.ext rfl he)

/-- One thread published its object `n` times and took it out as often. -/
def State.cycled (n : ℕ) : State where
  world :=
    { World.loaded with
      objects := Function.update (fun _ => {}) 0
        { id := n, type := if n = 0 then .invalid else .device, refcount := 1 }
      nextDevice := 1
      nextObjectId := n + 1 }
  held := [(0, 0)]

/-- Publishing an object and unregistering it again uses up one id. -/
theorem exec_cycled {n : ℕ} (hn : n < u32Max) :
    exec State.step (.cycled n)
      [.register 0 0 .device (.ok ()), .unregister 0 0, .unregisterPut 0] =
        some (.cycled (n + 1)) := by
  have hnext : ¬ u32Max < n + 1 := by omega
  simp [exec, State.step, State.cycled, State.MayPass, State.Idle, World.objectRegister, hnext,
    World.objectGet, World.setObject, World.objectUnregisterLocked, World.objectPut, World.loaded]

/-- **The ids can run out.** -/
theorem exists_exhausted : ∃ h s, Run machine .loaded h s ∧ u32Max ∈ History.ids h := by
  have hcycled : ∀ n ≤ u32Max, ∃ h, Run machine .loaded h (.cycled n) := by
    intro n
    induction n with
    | zero =>
        intro _
        have halloc : State.step .loaded (.alloc 0) = some (.cycled 0) := rfl
        exact ⟨_, Run.single halloc⟩
    | succ n ih =>
        intro hn
        obtain ⟨h, hr⟩ := ih (Nat.le_of_succ_le hn)
        obtain ⟨k, hk, -⟩ := Run.of_exec (I := (· = State.loaded)) (exec_cycled hn)
        exact ⟨h ++ k, hr.trans hk⟩
  obtain ⟨h, hr⟩ := hcycled u32Max (Nat.le_refl _)
  refine ⟨h, _, hr, (recorded_of_run hr).log.mem_names.2 ⟨by decide, ?_⟩⟩
  exact Nat.lt_succ_self u32Max

/-- Two threads unregister object 0, which one of them then registers again. -/
theorem ids_never_reused_example : ∃ h s, Run machine .loaded h s ∧ Guarantee h s ∧
    s.world.nextObjectId = 4 ∧ s.world.objectTable 1 = none ∧ s.world.objectTable 3 = some 0 := by
  have hexec : (exec State.step .loaded
      [.alloc 0, .alloc 1, .register 0 0 .device (.ok ()), .register 1 1 .device (.ok ()),
        .register 0 0 .device (.ok ()), .lookup 2 1, .unregister 0 0, .unregister 2 0, .put 2 0,
        .unregisterPut 0, .register 0 0 .device (.error .ENOMEM),
        .register 0 0 .device (.ok ())]).map
      (fun s => decide (s.world.nextObjectId = 4 ∧ s.world.objectTable 1 = none ∧
        s.world.objectTable 3 = some 0)) = some true := by decide
  obtain ⟨s, hs, hp⟩ := Option.map_eq_some_iff.1 hexec
  obtain ⟨h, hr, -⟩ := Run.of_exec (I := (· = State.loaded)) hs
  exact ⟨h, s, hr, ids_never_reused hr, of_decide_eq_true hp⟩

end ObjectManager

end VirtUsb
