/-
# What a submission leaves behind

A URB that is accepted has a new transfer at the end of the pending list, which is made
of the URB (`Accepted`).  A URB that is refused leaves the lists alone, and at most a
transfer that is freed again (`Refused`).
-/

import VirtUsb.Serving.Effects

namespace VirtUsb

/-- The queued transfer that is made for a device from the arguments. -/
def TransferArgs.queued (a : TransferArgs) (d : DevicePtr) (id : BitVec 64)
    (buffer : Option Buffer) : Transfer where
  refcount := 0
  id := id
  device := d
  type := a.type
  direction := a.direction
  state := .queued
  endpoint := a.endpoint
  setup := a.setup
  buffer := buffer
  requestedLength := a.length
  actualLength := 0
  status := Errno.EINPROGRESS.status

/-- From `w` to `w'` no list changed, and at most one transfer was made. -/
def Refused (w w' : World) : Prop :=
  w'.lengths = w.lengths ∧
    (Quiet ∅ [] w w' ∨
      ∃ d w₁, Created d w.nextTransfer w w₁ ∧ Quiet {w.nextTransfer} [] w₁ w')

/-- From `w` to `w'` a request for the URB was queued, with a transfer for the device. -/
structure Accepted (h : HcdId) (u : UrbPtr) (d : DevicePtr) (a : TransferArgs) (env : Env)
    (w w' : World) : Prop where
  stopping : (w.backends h).stopping = false
  bound : ∃ binding ∈ (w.backends h).bindings, binding.device = d
  valid : a.valid = true
  limit : a.length ≤ transferDataMax
  backends : w'.backends = Function.update w.backends h
    { w.backends h with
      pending := (w.backends h).pending ++ [{ urb := u, transfer := w.nextTransfer }] }
  nextTransfer : w'.nextTransfer = w.nextTransfer + 1
  transferNextId : w'.transferNextId = w.transferNextId + 1
  made : (w'.transfers w.nextTransfer).content =
    a.queued d (w.transferNextId + 1) (w.transferBuffer a env.garbage).2
  content : ∀ t, t ≠ w.nextTransfer → (w'.transfers t).content = (w.transfers t).content
  givebacks : w'.givebacks = w.givebacks
  lengths : w'.lengths = w.lengths

namespace World

variable {w w' : World} {h : HcdId} {u : UrbPtr} {d : DevicePtr} {t : TransferPtr}
  {a : TransferArgs} {env : Env} {e : Errno}

/-- What a new transfer holds, and that no buffer of a URB was resized for it. -/
theorem transferCreate_made (hc : w.transferCreate d a env = (w', some t)) :
    a.valid = true ∧ (w'.transfers t).content =
      { a.queued d (w.transferNextId + 1) (w.transferBuffer a env.garbage).2 with
        state := .new } ∧
      w'.lengths = w.lengths := by
  have hid := (Quiet.transferBuffer (T := ∅) w a env.garbage).transferNextId
  have hlengths : (w.transferBuffer a env.garbage).1.lengths = w.lengths := by
    rw [transferBuffer]
    split
    · rfl
    split <;> rfl
  simp only [World.transferCreate] at hc
  split at hc
  · simp at hc
  rename_i hvalid
  split at hc
  · simp at hc
  split at hc
  · simp at hc
  obtain ⟨rfl, rfl⟩ := Prod.mk.inj hc |>.imp id (fun h => Option.some.inj h)
  refine ⟨by simpa using hvalid, ?_, ?_⟩
  · simp [World.setTransfer, Transfer.content, TransferArgs.queued, hid]
  · exact (lengths_copySetup _ a.setup).trans hlengths

/-- The checks before a request is queued mark its transfer. -/
theorem submitPrepare_queued (hp : w.submitPrepare t env = (w', .ok ())) :
    (w.transfers t).requestedLength ≤ transferDataMax ∧
      (w'.transfers t).content = { (w.transfers t).content with state := .queued } := by
  simp only [submitPrepare, transferMarkQueued] at hp
  split at hp
  · simp at hp
  rename_i hlimit
  split at hp
  · simp at hp
  split at hp
  · simp at hp
  rename_i hm
  split at hm
  · simp at hm
  obtain rfl := congrArg Prod.fst hm
  obtain rfl := congrArg Prod.fst hp
  refine ⟨Nat.le_of_not_lt hlimit, ?_⟩
  simp [setTransfer, transferGet, Transfer.content]

/-- A submission resizes no buffer before its lock. -/
theorem lengths_submitPrepare (w : World) (t : TransferPtr) (env : Env) :
    (w.submitPrepare t env).1.lengths = w.lengths := by
  have hmark : ((w.transferGet t).transferMarkQueued t).1.lengths = w.lengths := by
    rw [transferMarkQueued]
    split <;> rfl
  rw [submitPrepare]
  split
  · rfl
  rcases env.requestAlloc
  · rfl
  simp only [Bool.not_true, Bool.false_eq_true, if_false]
  rcases hs : (w.transferGet t).transferMarkQueued t with ⟨w₁, e | _⟩
  · rw [hs] at hmark
    exact (lengths_transferPut w₁ t).trans hmark
  · rw [hs] at hmark
    exact hmark

/-- A submission that fails changes its transfer at most. -/
theorem backendSubmit_error (hs : w.backendSubmit h u t env = (w', .error e)) :
    Quiet {t} [] w w' ∧ w'.lengths = w.lengths := by
  have hprep := Quiet.submitPrepare (T := {t}) w (Set.mem_singleton t) env
  have hlengths := w.lengths_submitPrepare t env
  rw [backendSubmit] at hs
  rcases hp : w.submitPrepare t env with ⟨w₁, e' | _⟩
  · rw [hp] at hs hprep hlengths
    obtain rfl := congrArg Prod.fst hs
    exact ⟨hprep, hlengths⟩
  rw [hp] at hs hprep hlengths
  dsimp only at hs
  rcases hl : w₁.submitLocked h u t env.link with ⟨w₂, e' | _⟩
  · rw [hl] at hs
    obtain rfl := submitLocked_error hl
    obtain rfl := congrArg Prod.fst hs
    refine ⟨hprep.andThen (.submitFailed w₂ (Set.mem_singleton t) e'), ?_⟩
    exact ((lengths_transferPut _ _).trans (lengths_transferCancel _ _ _)).trans hlengths
  · rw [hl] at hs
    simp at hs

/-- A submission that succeeds queues the request. -/
theorem backendSubmit_ok (hs : w.backendSubmit h u t env = (w', .ok ())) :
    (w.backends h).stopping = false ∧
      (∃ binding ∈ (w.backends h).bindings, binding.device = w.device t) ∧
      (w.transfers t).requestedLength ≤ transferDataMax ∧
      (w'.transfers t).content = { (w.transfers t).content with state := .queued } ∧
      Relists h {t} []
        { w.backends h with
          pending := (w.backends h).pending ++ [{ urb := u, transfer := t }] } w w' := by
  have hprep := Quiet.submitPrepare (T := {t}) w (Set.mem_singleton t) env
  have hlengths := w.lengths_submitPrepare t env
  rw [backendSubmit] at hs
  rcases hp : w.submitPrepare t env with ⟨w₁, e' | _⟩
  · rw [hp] at hs
    simp at hs
  obtain ⟨hlimit, hqueued⟩ := submitPrepare_queued hp
  rw [hp] at hs hprep hlengths
  dsimp only at hs
  have hlocked := w₁.lengths_submitLocked h u t env.link
  rcases hl : w₁.submitLocked h u t env.link with ⟨w₂, e' | _⟩
  · rw [hl] at hs
    simp at hs
  obtain ⟨hstop, hbound, hq⟩ := submitLocked_ok (T := {t}) hl
  rw [hl] at hs hlocked
  obtain rfl := congrArg Prod.fst hs
  obtain ⟨-, -, hquiet⟩ := submitLocked_ok (T := ∅) hl
  rw [hprep.backends] at hstop hbound hq
  rw [hprep.device] at hbound
  refine ⟨hstop, hbound, hlimit, ?_, ⟨⟨_, (quiet_relist hprep _ _).trans hq⟩, hlocked.trans hlengths⟩⟩
  exact (hquiet.content t (Set.notMem_empty t)).trans hqueued

/-- **A URB that is refused** leaves the lists as they were. -/
theorem hcdUrbEnqueue_error (hs : w.hcdUrbEnqueue h u env = (w', .error e)) : Refused w w' := by
  rw [hcdUrbEnqueue] at hs
  rcases hd : w.hcdGetUrbDevice h (w.urbs u) with _ | d
  · rw [hd] at hs
    obtain rfl := congrArg Prod.fst hs
    exact ⟨rfl, .inl (.refl w)⟩
  rcases hcheck : (w.urbs u).check with e' | type
  · rw [hd, hcheck] at hs
    obtain rfl := congrArg Prod.fst hs
    exact ⟨rfl, .inl (.refl w)⟩
  rw [hd, hcheck] at hs
  dsimp only at hs
  rcases hc : w.transferCreate d ((w.urbs u).transferArgs type) env with ⟨w₁, _ | t⟩
  · rw [hc] at hs
    obtain rfl := transferCreate_none hc
    obtain rfl := congrArg Prod.fst hs
    exact ⟨rfl, .inl (.refl _)⟩
  have hcreated := transferCreate_some hc
  obtain ⟨-, -, hlengths⟩ := transferCreate_made hc
  obtain rfl := hcreated.ptr
  rw [hc] at hs
  dsimp only at hs
  split at hs
  · obtain rfl := congrArg Prod.fst hs
    exact ⟨(lengths_transferPut _ _).trans hlengths,
      .inr ⟨d, w₁, hcreated, .transferPut w₁ w.nextTransfer⟩⟩
  rcases hsub : w₁.backendSubmit h u w.nextTransfer env with ⟨w₂, e' | _⟩
  · obtain ⟨hq, hl⟩ := backendSubmit_error hsub
    rw [hsub] at hs
    obtain rfl := congrArg Prod.fst hs
    exact ⟨(lengths_transferPut _ _).trans (hl.trans hlengths),
      .inr ⟨d, w₁, hcreated, hq.andThen (.transferPut w₂ w.nextTransfer)⟩⟩
  · rw [hsub] at hs
    simp at hs

/-- **A URB that is accepted** is queued with a transfer that is made of it. -/
theorem hcdUrbEnqueue_ok (hs : w.hcdUrbEnqueue h u env = (w', .ok ())) :
    ∃ d type, w.hcdGetUrbDevice h (w.urbs u) = some d ∧ (w.urbs u).check = .ok type ∧
      Accepted h u d ((w.urbs u).transferArgs type) env w w' := by
  rw [hcdUrbEnqueue] at hs
  rcases hd : w.hcdGetUrbDevice h (w.urbs u) with _ | d
  · rw [hd] at hs
    simp at hs
  rcases hcheck : (w.urbs u).check with e' | type
  · rw [hd, hcheck] at hs
    simp at hs
  rw [hd, hcheck] at hs
  dsimp only at hs
  rcases hc : w.transferCreate d ((w.urbs u).transferArgs type) env with ⟨w₁, _ | t⟩
  · rw [hc] at hs
    simp at hs
  have hcreated := transferCreate_some hc
  obtain ⟨hvalid, hmade, hlengths⟩ := transferCreate_made hc
  obtain rfl := hcreated.ptr
  rw [hc] at hs
  dsimp only at hs
  split at hs
  · simp at hs
  rcases hsub : w₁.backendSubmit h u w.nextTransfer env with ⟨w₂, e' | _⟩
  · rw [hsub] at hs
    simp at hs
  obtain ⟨hstop, hbound, hlimit, hqueued, hrelists⟩ := backendSubmit_ok hsub
  rw [hsub] at hs
  obtain rfl := congrArg Prod.fst hs
  have hput : Quiet ∅ [] w₂ (w₂.transferPut w.nextTransfer) := .transferPut _ _
  have hlength : (w₁.transfers w.nextTransfer).requestedLength =
      ((w.urbs u).transferArgs type).length := (congrArg Transfer.requestedLength hmade :)
  have hdevice : w₁.device w.nextTransfer = d := by rw [hcreated.device, Function.update_self]
  rw [hcreated.backends] at hstop hbound hrelists
  rw [hdevice] at hbound
  refine ⟨d, type, rfl, rfl, ⟨hstop, hbound, hvalid, hlength ▸ hlimit, ?_, ?_, ?_, ?_,
    fun s hs => ?_, ?_, ?_⟩⟩
  · rw [hput.backends, hrelists.backends, hcreated.backends]
  · rw [hput.nextTransfer, hrelists.nextTransfer, hcreated.nextTransfer]
  · rw [hput.transferNextId, hrelists.transferNextId, hcreated.transferNextId]
  · rw [hput.content _ (Set.notMem_empty _), hqueued, hmade]
    rfl
  · rw [hput.content _ (Set.notMem_empty _), hrelists.content (by simpa using hs),
      hcreated.content s hs]
  · rw [hput.givebacks, hrelists.givebacks, hcreated.givebacks, List.append_nil, List.append_nil]
  · exact (lengths_transferPut _ _).trans (hrelists.lengths.trans hlengths)

end World

end VirtUsb
