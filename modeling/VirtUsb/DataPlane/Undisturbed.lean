/-
# A thread that nothing disturbs

The functions of `kernel/src/virtusb_backend.c` stand twice in this development: as functions
from the world to the world, which is what the calls of the module do one after the other,
and as threads, which take one locked section at a time.  The two agree: a call whose thread
is the only one that runs comes to its end, leaves the world as the function does and returns
what the function returns, the error code or the message of a fetch (`undisturbed`).

Only a blocking fetch that finds nothing does not come to its end alone: it sleeps until
another thread wakes it, or a signal ends its wait with the result of the function.
-/

import VirtUsb.DataPlane.Threads
import VirtUsb.Kernel.Control
import VirtUsb.Serving.Effects
import VirtUsb.Lib.Machine
import Mathlib.Logic.Relation

namespace VirtUsb

namespace World

variable {h : HcdId} {w w' : World}

/-! ### The loops come to their end -/

/-- A drain whose passes use up a measure is not cut short by its fuel. -/
theorem drains_of_measure {take : World → World × Option Request} (μ : World → ℕ)
    (hμ : ∀ {w w₁ : World} {r : Request}, take w = (w₁, some r) → μ (w₁.drainTail r) < μ w)
    (fuel : ℕ) (hfuel : μ w < fuel) : Drains take w (drain take fuel w) := by
  induction fuel generalizing w with
  | zero => exact absurd hfuel (Nat.not_lt_zero _)
  | succ fuel ih =>
      rw [World.drain]
      rcases hs : take w with ⟨w₁, _ | r⟩
      · exact .done hs
      · exact .pass hs (ih (Nat.lt_of_lt_of_le (hμ hs) (Nat.le_of_lt_succ hfuel)))

/-- **The drain of a stop** ends with a pass that finds nothing. -/
theorem drains_stop (w : World) : Drains (fun v => v.stopDrainLocked h) w
    (drain (fun v => v.stopDrainLocked h) (w.drainFuel h) w) := by
  refine drains_of_measure
    (fun v => ((v.backends h).pending ++ (v.backends h).active).length) ?_ _ ?_
  · intro v v₁ r hs
    have hfirst := requests_of_stopDrainLocked hs
    have hq := (stopDrainLocked_some (T := {r.transfer}) hs).2
    have htail := Quiet.drainTail v₁ (Set.mem_singleton r.transfer)
    have hback : (v₁.drainTail r).backends h = (v.backends h).listDel r := by
      rw [htail.backends, hq.backends]
      simp
    rw [hback, hfirst, List.length_cons]
    exact Nat.lt_succ_self _
  · rw [drainFuel, List.length_append]
    exact Nat.lt_succ_self _

end World

namespace DataPlane

/-- What a call does to the world and what it returns if nothing disturbs it. -/
def Call.function (h : HcdId) (env : Env) (w : World) : Call → World × Except Errno Reply
  | .submit u device args =>
      match w.transferCreate device args env with
      | (w₁, none) => (w₁, .error .ENOMEM)
      | (w₁, some t) =>
          let submitted := w₁.backendSubmit h u t env
          World.replying (submitted.1.transferPut t, submitted.2) fun _ => .none
  | .fetch owner nonblock =>
      World.replying (w.controlTransferFetch h owner nonblock { env with messageAlloc := true })
        .fetched
  | .rollback owner transferId =>
      World.replying (w.backendFetchRollback h owner transferId) fun _ => .none
  | .complete owner completion =>
      World.replying (w.backendComplete h owner completion) fun _ => .none
  | .cancel u status => World.replying (w.backendCancel h u status) fun _ => .none
  | .release owner => (w.backendReleaseOwner h owner, .ok .none)
  | .stop => (w.backendStop h, .ok .none)
  | .register owner device =>
      World.replying (w.backendRegister h owner device env) fun _ => .none

open Relation Transition

/-- A step of the last thread, which leaves the others where they are. -/
theorem step_last {h : HcdId} {env : Env} {ts : List Thread} {w w' : World}
    {thread thread' : Thread} {log events : List Event}
    (hs : State.resume h ⟨w, ts ++ [thread], log⟩ ts.length env thread =
      some (State.advance ⟨w, ts ++ [thread], log⟩ ts.length w' thread' events)) :
    State.step h ⟨w, ts ++ [thread], log⟩ (.run ts.length env) =
      some ⟨w', ts ++ [thread'], log ++ events⟩ := by
  have hthread : (ts ++ [thread])[ts.length]? = some thread := by simp
  have hset : (ts ++ [thread]).set ts.length thread' = ts ++ [thread'] := by simp
  show ((ts ++ [thread])[ts.length]?).bind _ = _
  rw [hthread, Option.bind_some, hs, State.advance, hset]

/-- The thread behind `ts` goes from one state to the other, and no other thread runs. -/
def Goes (h : HcdId) (env : Env) (ts : List Thread) (w : World) (thread : Thread) (w' : World)
    (thread' : Thread) : Prop :=
  ∀ log, ∃ log', ReflTransGen (fun t t' : State => t.step h (.run ts.length env) = some t')
    ⟨w, ts ++ [thread], log⟩ ⟨w', ts ++ [thread'], log'⟩

/-- The thread behind `ts` comes to its end, in the world and with the value of `result`. -/
def Returns (h : HcdId) (env : Env) (ts : List Thread) (w : World) (thread : Thread)
    (result : World × Except Errno Reply) : Prop :=
  Goes h env ts w thread result.1 (.done result.2)

namespace Goes

variable {h : HcdId} {env : Env} {ts : List Thread} {w w' w'' : World}
  {thread thread' thread'' : Thread} {result : World × Except Errno Reply}

/-- A thread that takes no step stays where it is. -/
theorem refl : Goes h env ts w thread w thread := fun log => ⟨log, .refl⟩

/-- The steps of a thread one after the other. -/
theorem trans (h₁ : Goes h env ts w thread w' thread')
    (h₂ : Goes h env ts w' thread' w'' thread'') : Goes h env ts w thread w'' thread'' := by
  intro log
  obtain ⟨log', hr⟩ := h₁ log
  obtain ⟨log'', hr'⟩ := h₂ log'
  exact ⟨log'', hr.trans hr'⟩

/-- A thread that still has a way to go, and the end of that way. -/
theorem returns (h₁ : Goes h env ts w thread w' thread')
    (h₂ : Returns h env ts w' thread' result) : Returns h env ts w thread result :=
  h₁.trans h₂

/-- **One section.** -/
theorem single
    (hs : ∀ log, ∃ events, State.resume h ⟨w, ts ++ [thread], log⟩ ts.length env thread =
      some (State.advance ⟨w, ts ++ [thread], log⟩ ts.length w' thread' events)) :
    Goes h env ts w thread w' thread' := by
  intro log
  obtain ⟨events, heq⟩ := hs log
  exact ⟨log ++ events, .single (step_last heq)⟩

end Goes

/-! ### The calls -/

namespace Returns

variable {h : HcdId} {env : Env} {ts : List Thread} {w w' : World}

/-- `virtusb_backend_submit` and the reference that `virtusb_hcd_urb_enqueue` drops behind it:
two sections, or three if the request is refused. -/
theorem submit (w : World) (u : UrbPtr) (t : TransferPtr) :
    Returns h env ts w (.submit u t)
      (match w.submitLocked h u t env.link with
        | (w', .error e) => ((w'.submitFailed t e).transferPut t, .error e)
        | (w', .ok ()) => (w'.transferPut t, .ok .none)) := by
  have hput : ∀ (v : World) (ret : Except Errno Reply),
      Returns h env ts v (.enqueuePut t ret) (v.transferPut t, ret) := fun v ret =>
    Goes.single fun log => ⟨_, rfl⟩
  rcases hs : w.submitLocked h u t env.link with ⟨w', e | _⟩
  · have hlocked : Goes h env ts w (.submit u t) w' (.submitFailed u t e) :=
      .single fun log => by
        simp only [State.resume, hs]
        exact ⟨_, rfl⟩
    have hfailed : Goes h env ts w' (.submitFailed u t e) (w'.submitFailed t e)
        (.enqueuePut t (.error e)) := .single fun log => ⟨_, rfl⟩
    exact (hlocked.trans hfailed).returns (hput _ _)
  · have hlocked : Goes h env ts w (.submit u t) w' (.enqueuePut t (.ok .none)) :=
      .single fun log => by
        simp only [State.resume, hs]
        exact ⟨_, rfl⟩
    exact hlocked.returns (hput w' _)

/-- `virtusb_backend_fetch_rollback`, on its own or as the end of a fetch, which fails
with `-EFAULT` whatever the rollback finds. -/
theorem rollback (w : World) (owner : FilePtr) (id : BitVec 64) (fetching : Bool) :
    Returns h env ts w (.rollback owner id fetching)
      ((w.rollbackLocked h owner id).1,
        if fetching then .error .EFAULT
        else (w.rollbackLocked h owner id).2.map fun _ => .none) :=
  Goes.single fun log => by
    rcases hs : w.rollbackLocked h owner id with ⟨w', e | r⟩ <;> cases fetching <;>
      simp only [State.resume, hs] <;> exact ⟨_, rfl⟩

/-- `virtusb_backend_complete`: the section, and the copies and the giveback after it. -/
theorem complete (w : World) (owner : FilePtr) (completion : TransferCompleteRequest) :
    Returns h env ts w (.complete owner completion)
      (match w.completeLocked h owner completion.transferId with
        | (w', .error e) => (w', .error e)
        | (w', .ok r) => World.replying (w'.completeTail r completion) fun _ => .none) := by
  rcases hs : w.completeLocked h owner completion.transferId with ⟨w', e | r⟩
  · exact Goes.single fun log => by
      simp only [State.resume, hs]
      exact ⟨_, rfl⟩
  · have hlocked : Goes h env ts w (.complete owner completion) w' (.completeTail r completion) :=
      .single fun log => by
        simp only [State.resume, hs]
        exact ⟨_, rfl⟩
    exact hlocked.returns (Goes.single fun log => ⟨_, rfl⟩)

/-- `virtusb_backend_cancel`. -/
theorem cancel (w : World) (u : UrbPtr) (status : ℤ) :
    Returns h env ts w (.cancel u status)
      (World.replying (w.backendCancel h u status) fun _ => .none) := by
  rw [World.backendCancel]
  rcases hs : w.cancelLocked h u with ⟨w', e | r⟩
  · exact Goes.single fun log => by
      simp only [State.resume, hs]
      exact ⟨_, rfl⟩
  · have hlocked : Goes h env ts w (.cancel u status) w' (.cancelTail r status) :=
      .single fun log => by
        simp only [State.resume, hs]
        exact ⟨_, rfl⟩
    exact hlocked.returns (Goes.single fun log => ⟨_, rfl⟩)

/-- The loop of a release, by induction on its passes. -/
theorem releaseDrain {binding : Binding}
    (hd : World.Drains (fun v => v.releaseDrainLocked h binding.owner binding.device) w w') :
    Returns h env ts w (.releaseDrain binding) (w'.objectPut binding.device, .ok .none) := by
  induction hd with
  | @done w w' hs =>
      have hempty : Goes h env ts w (.releaseDrain binding) w' (.releasePut binding) :=
        .single fun log => by
          simp only [State.resume, hs]
          exact ⟨_, rfl⟩
      exact hempty.returns (Goes.single fun log => ⟨_, rfl⟩)
  | @pass w w₁ w' r hs _ ih =>
      have hlocked : Goes h env ts w (.releaseDrain binding) w₁ (.releaseTail binding r) :=
        .single fun log => by
          simp only [State.resume, hs]
          exact ⟨_, rfl⟩
      have htail : Goes h env ts w₁ (.releaseTail binding r) (w₁.drainTail r)
          (.releaseDrain binding) := .single fun log => ⟨_, rfl⟩
      exact (hlocked.trans htail).returns ih

/-- `virtusb_backend_release_owner`. -/
theorem release (w : World) (owner : FilePtr) :
    Returns h env ts w (.release owner) (w.backendReleaseOwner h owner, .ok .none) := by
  rcases hf : (w.backends h).findOwnerLocked owner with _ | binding
  · have hs : w.releaseUnbindLocked h owner = (w, none) := by
      simp only [World.releaseUnbindLocked, hf]
    rw [World.backendReleaseOwner, hs]
    exact Goes.single fun log => by
      simp only [State.resume, hs]
      exact ⟨_, rfl⟩
  · obtain ⟨⟨w₁, w₂, hs, hdrains, heq⟩, -⟩ := World.backendReleaseOwner_relists hf
    obtain rfl := (World.findOwnerLocked_some hf).2
    rw [heq]
    have hlocked : Goes h env ts w (.release binding.owner) w₁ (.releaseDrain binding) :=
      .single fun log => by
        simp only [State.resume, hs]
        exact ⟨_, rfl⟩
    exact hlocked.returns (releaseDrain hdrains)

/-- The first loop of a stop, by induction on its passes. -/
theorem stopDrain (hd : World.Drains (fun v => v.stopDrainLocked h) w w') :
    Goes h env ts w .stopDrain w' .stopUnbind := by
  induction hd with
  | @done w w' hs =>
      exact .single fun log => by
        simp only [State.resume, hs]
        exact ⟨_, rfl⟩
  | @pass w w₁ w' r hs _ ih =>
      have hlocked : Goes h env ts w .stopDrain w₁ (.stopTail r) := .single fun log => by
        simp only [State.resume, hs]
        exact ⟨_, rfl⟩
      have htail : Goes h env ts w₁ (.stopTail r) (w₁.drainTail r) .stopDrain :=
        .single fun log => ⟨_, rfl⟩
      exact (hlocked.trans htail).trans ih

/-- The second loop of a stop, by induction on the passes that its fuel allows. -/
theorem stopUnbind (fuel : ℕ) (w : World) (hfuel : (w.backends h).bindings.length < fuel) :
    Returns h env ts w .stopUnbind (World.stopUnbind h fuel w, .ok .none) := by
  induction fuel generalizing w with
  | zero => exact absurd hfuel (Nat.not_lt_zero _)
  | succ fuel ih =>
      rw [World.stopUnbind]
      rcases hs : w.stopUnbindLocked h with ⟨w₁, _ | binding⟩
      · exact Goes.single fun log => by
          simp only [State.resume, hs]
          exact ⟨_, rfl⟩
      · have hlocked : Goes h env ts w .stopUnbind w₁ (.stopPut binding) := .single fun log => by
          simp only [State.resume, hs]
          exact ⟨_, rfl⟩
        have hput : Goes h env ts w₁ (.stopPut binding) (w₁.objectPut binding.device) .stopUnbind :=
          .single fun log => ⟨_, rfl⟩
        have hshort : ((w₁.objectPut binding.device).backends h).bindings.length < fuel := by
          obtain ⟨rest, hbindings, rfl⟩ := World.stopUnbindLocked_some hs
          rw [World.backends_of_bare (World.bare_objectPut _ _)]
          rw [hbindings, List.length_cons] at hfuel
          simpa using Nat.lt_of_succ_lt_succ hfuel
        exact (hlocked.trans hput).returns (ih _ hshort)

/-- `virtusb_backend_stop`. -/
theorem stop (w : World) : Returns h env ts w .stop (w.backendStop h, .ok .none) := by
  have hlocked : Goes h env ts w .stop (w.stopSetLocked h) .stopDrain :=
    .single fun log => ⟨_, rfl⟩
  have hdrain : Goes h env ts (w.stopSetLocked h) .stopDrain _ .stopUnbind :=
    stopDrain (World.drains_stop (w.stopSetLocked h))
  exact (hlocked.trans hdrain).returns (stopUnbind _ _ (Nat.lt_succ_self _))

/-- `virtusb_backend_register` from its section on: a refused binding gives its reference
back. -/
theorem register (w : World) (owner : FilePtr) (device : DevicePtr) :
    Returns h env ts w (.register owner device)
      (match w.registerLocked h owner device with
        | (w', .error e) => (w'.objectPut device, .error e)
        | (w', .ok ()) => (w', .ok .none)) := by
  rcases hs : w.registerLocked h owner device with ⟨w', e | _⟩
  · have hlocked : Goes h env ts w (.register owner device) w' (.registerPut device e) :=
      .single fun log => by
        simp only [State.resume, hs]
        exact ⟨_, rfl⟩
    exact hlocked.returns (Goes.single fun log => ⟨_, rfl⟩)
  · exact Goes.single fun log => by
      simp only [State.resume, hs]
      exact ⟨_, rfl⟩

/-- A fetch that was taken copies its message out, or rolls itself back. -/
theorem fetchTail (w : World) (owner : FilePtr) (t : TransferPtr) :
    Returns h env ts w (.fetchTail owner t)
      (if !env.copyToUser then
        (((w.fetchTail t).1.backendFetchRollback h owner (w.fetchTail t).2.transferId).1,
          .error .EFAULT)
      else ((w.fetchTail t).1, .ok (.fetched (w.fetchTail t).2))) := by
  set v := (w.fetchTail t).1
  set message := (w.fetchTail t).2
  have hmessage : Goes h env ts w (.fetchTail owner t) v (.fetchCopyOut owner message) :=
    .single fun log => ⟨_, rfl⟩
  refine hmessage.returns ?_
  rcases hcopy : env.copyToUser with _ | _
  swap
  · exact Goes.single fun log => by
      simp only [State.resume, hcopy, if_true]
      exact ⟨_, rfl⟩
  -- the copy failed, and the rollback wants an id
  simp only [Bool.not_false, if_true]
  by_cases hid : message.transferId = 0
  · rw [World.backendFetchRollback, if_pos hid]
    exact Goes.single fun log => by
      simp only [State.resume, hcopy, Bool.false_eq_true, if_false, if_pos hid]
      exact ⟨_, rfl⟩
  · have hback : Goes h env ts v (.fetchCopyOut owner message) v
        (.rollback owner message.transferId true) := .single fun log => by
      simp only [State.resume, hcopy, Bool.false_eq_true, if_false, if_neg hid]
      exact ⟨_, rfl⟩
    have hrollback : (v.backendFetchRollback h owner message.transferId).1 =
        (v.rollbackLocked h owner message.transferId).1 := by
      simp only [World.backendFetchRollback, if_neg hid]
      rcases v.rollbackLocked h owner message.transferId with ⟨v', e | r⟩ <;> rfl
    rw [hrollback]
    exact hback.returns (rollback v owner message.transferId true)

end Returns

/-- A fetch that found nothing sleeps: it may block, and no signal ends its wait. -/
structure Sleeps (c : Call) (env : Env) (owner : FilePtr) : Prop where
  fetch : c = .fetch owner false
  calm : env.interrupted = false

/-- `virtusb_control_transfer_fetch` behind its allocation: it returns as its function does, or it
finds nothing and sleeps, where the function says what a signal makes of the wait. -/
theorem Returns.fetch {h : HcdId} {env : Env} {ts : List Thread} (w : World) (owner : FilePtr)
    (nonblock : Bool) :
    Returns h env ts w (.fetch owner nonblock)
        ((Call.fetch owner nonblock).function h env w) ∨
      Sleeps (.fetch owner nonblock) env owner ∧
        (Call.fetch owner nonblock).function h env w = (w, .error .ERESTARTSYS) ∧
        Goes h env ts w (.fetch owner nonblock) w (.fetchWait owner) := by
  simp only [Call.function, World.controlTransferFetch, World.backendFetch, Bool.not_true,
    Bool.false_eq_true, if_false]
  rcases hs : w.fetchLocked h owner with ⟨w₁, r | e | _⟩
  · have hlocked : Goes h env ts w (.fetch owner nonblock) w₁ (.fetchTail owner r.transfer) :=
      .single fun log => by
        simp only [State.resume, hs]
        exact ⟨_, rfl⟩
    have htail := hlocked.returns (fetchTail w₁ owner r.transfer)
    refine .inl ?_
    rcases hcopy : env.copyToUser with _ | _ <;> rw [hcopy] at htail <;> exact htail
  · refine .inl (Goes.single fun log => ?_)
    simp only [State.resume, hs]
    exact ⟨_, rfl⟩
  obtain rfl := World.fetchLocked_empty hs
  rcases nonblock with _ | _
  swap
  · refine .inl (Goes.single fun log => ?_)
    simp only [State.resume, hs]
    exact ⟨_, rfl⟩
  have hwait : Goes h env ts w₁ (.fetch owner false) w₁ (.fetchWait owner) :=
    .single fun log => by
      simp only [State.resume, hs]
      exact ⟨_, rfl⟩
  rcases hsignal : env.interrupted with _ | _
  · exact .inr ⟨⟨rfl, hsignal⟩, rfl, hwait⟩
  · refine .inl (hwait.returns (Goes.single fun log => ?_))
    simp only [State.resume, hsignal, if_true]
    exact ⟨_, rfl⟩

/-- The call can start in `s`, its thread goes on by steps of its own, no other thread moves, and it
comes to its end as `result` says; or it is a fetch that sleeps in the world of `result`, and the
step that a signal lets it take ends it as `result` says, with `-ERESTARTSYS`. -/
def RunsAlone (h : HcdId) (s : State) (c : Call) (env : Env)
    (result : World × Except Errno Reply) : Prop :=
  ∃ s₁ s' thread, s.step h (.call c env) = some s₁ ∧
    ReflTransGen (fun t t' => t.step h (.run s.threads.length env) = some t') s₁ s' ∧
    s'.world = result.1 ∧ s'.threads = s.threads ++ [thread] ∧
    (thread = .done result.2 ∨
      ∃ owner, thread = .fetchWait owner ∧ Sleeps c env owner ∧ result.2 = .error .ERESTARTSYS ∧
        ∃ s'', s'.step h (.run s.threads.length { env with interrupted := true }) = some s'' ∧
          s''.world = result.1 ∧ s''.threads = s.threads ++ [.done result.2])

namespace RunsAlone

variable {h : HcdId} {s : State} {env : Env}

/-- A call whose thread starts at `first` and comes to its end. -/
theorem of_returns {c : Call} {result : World × Except Errno Reply} (w : World) (first : Thread)
    (hs : s.start h env c = some (s.spawn w first))
    (hr : Returns h env s.threads w first result) : RunsAlone h s c env result := by
  obtain ⟨log', hsteps⟩ := hr s.log
  exact ⟨_, _, _, hs, hsteps, rfl, rfl, .inl rfl⟩

/-- A submission fails before its section, in it, or not at all. -/
theorem submit {u : UrbPtr} {device : DevicePtr} {args : TransferArgs} (hfree : ¬ s.InUse h u) :
    RunsAlone h s (.submit u device args) env
      ((Call.submit u device args).function h env s.world) := by
  simp only [Call.function]
  rcases hcreate : s.world.transferCreate device args env with ⟨w, _ | t⟩
  · refine of_returns w (.done (.error .ENOMEM)) ?_ Goes.refl
    simp only [State.start, if_neg hfree, hcreate]
  rcases hprepare : w.submitPrepare t env with ⟨w', e | _⟩
  · simp only [World.backendSubmit, hprepare]
    refine of_returns w' (.enqueuePut t (.error e)) ?_
      (Goes.single fun log => ⟨_, rfl⟩)
    simp only [State.start, if_neg hfree, hcreate, hprepare]
  · have hsubmit : Returns h env s.threads w' (.submit u t) _ := .submit w' u t
    simp only [World.backendSubmit, hprepare]
    refine of_returns w' (.submit u t) ?_ ?_
    · simp only [State.start, if_neg hfree, hcreate, hprepare]
    · rcases hl : w'.submitLocked h u t env.link with ⟨v, e | _⟩ <;> rw [hl] at hsubmit <;>
        exact hsubmit

/-- A fetch that sleeps waits in the world it found. -/
theorem fetch (owner : FilePtr) (nonblock : Bool) :
    RunsAlone h s (.fetch owner nonblock) env
      ((Call.fetch owner nonblock).function h env s.world) := by
  rcases Returns.fetch s.world owner nonblock with hreturns | ⟨hsleeps, hfunction, hgoes⟩
  · exact of_returns _ _ rfl hreturns
  obtain ⟨log', hsteps⟩ := hgoes s.log
  rw [hfunction]
  exact ⟨_, _, _, rfl, hsteps, rfl, rfl, .inr ⟨owner, rfl, hsleeps, rfl, _, step_last rfl, rfl, rfl⟩⟩

/-- A rollback without an id has no section. -/
theorem rollback (owner : FilePtr) (id : BitVec 64) :
    RunsAlone h s (.rollback owner id) env
      ((Call.rollback owner id).function h env s.world) := by
  simp only [Call.function, World.backendFetchRollback]
  by_cases hid : id = 0
  · rw [if_pos hid]
    refine of_returns s.world (.done (.error .EINVAL)) ?_ Goes.refl
    simp only [State.start, if_pos hid]
  · have hrollback : Returns h env s.threads s.world (.rollback owner id false) _ :=
      .rollback s.world owner id false
    rw [if_neg hid]
    refine of_returns s.world (.rollback owner id false) ?_ ?_
    · simp only [State.start, if_neg hid]
    · rcases hl : s.world.rollbackLocked h owner id with ⟨v, e | r⟩ <;> rw [hl] at hrollback <;>
        exact hrollback

/-- A completion without an id has no section. -/
theorem complete (owner : FilePtr) (completion : TransferCompleteRequest) :
    RunsAlone h s (.complete owner completion) env
      ((Call.complete owner completion).function h env s.world) := by
  simp only [Call.function, World.backendComplete]
  by_cases hid : completion.transferId = 0
  · rw [if_pos hid]
    refine of_returns s.world (.done (.error .EINVAL)) ?_ Goes.refl
    simp only [State.start, if_pos hid]
  · have hcomplete : Returns h env s.threads s.world (.complete owner completion) _ :=
      .complete s.world owner completion
    rw [if_neg hid]
    refine of_returns s.world (.complete owner completion) ?_ ?_
    · simp only [State.start, if_neg hid]
    · rcases hl : s.world.completeLocked h owner completion.transferId with ⟨v, e | r⟩ <;>
        rw [hl] at hcomplete <;> exact hcomplete

/-- A registration takes its reference before its section, if it finds memory. -/
theorem register (owner : FilePtr) (device : DevicePtr) :
    RunsAlone h s (.register owner device) env
      ((Call.register owner device).function h env s.world) := by
  simp only [Call.function, World.backendRegister]
  rcases hprepare : s.world.registerPrepare device env with ⟨w, e | _⟩
  · refine of_returns w (.done (.error e)) ?_ Goes.refl
    simp only [State.start, hprepare]
  · have hregister : Returns h env s.threads w (.register owner device) _ :=
      .register w owner device
    refine of_returns w (.register owner device) ?_ ?_
    · simp only [State.start, hprepare]
    · dsimp only
      rcases hl : w.registerLocked h owner device with ⟨v, e | _⟩ <;> rw [hl] at hregister <;>
        exact hregister

end RunsAlone

/-- **A thread that nothing disturbs is its function**: a call that can start comes to its end by
steps of its own, in the world that the function leaves and with what it returns.  A blocking fetch
that finds nothing sleeps in that world, and a signal ends it with what the function returns. -/
theorem undisturbed (h : HcdId) (s : State) (c : Call) (env : Env)
    (hfree : ∀ u device args, c = .submit u device args → ¬ s.InUse h u) :
    RunsAlone h s c env (c.function h env s.world) := by
  cases c with
  | submit u device args => exact .submit (hfree u device args rfl)
  | fetch owner nonblock => exact .fetch owner nonblock
  | rollback owner id => exact .rollback owner id
  | complete owner completion => exact .complete owner completion
  | cancel u status => exact .of_returns _ _ rfl (Returns.cancel s.world u status)
  | release owner => exact .of_returns _ _ rfl (Returns.release s.world owner)
  | stop => exact .of_returns _ _ rfl (Returns.stop s.world)
  | register owner device => exact .register owner device

/-- The message that a call returned, if it was a fetch that succeeded. -/
def fetched? : Except Errno Reply → Option TransferFetch
  | .ok (.fetched message) => some message
  | _ => none

/-- A fetch that is not disturbed takes its three sections and returns the message of the request
that was submitted for its device, as the function does. -/
theorem undisturbed_example : ∃ s s' : State, ∃ message : TransferFetch,
    (s.world.backends 0).bindings = [⟨0, 1⟩] ∧ s.queued 0 = [⟨7, 0, none⟩] ∧
    s'.threads = s.threads ++ [.done (.ok (.fetched message))] ∧
    message.transferId = 1 ∧ message.objectId = 1 ∧ message.dataLength = 8 ∧
    s'.queued 0 = [⟨7, 0, some 1⟩] := by
  obtain ⟨s, -, hp⟩ := exists_reachable_of_exec (I := fun _ => True) (f := State.step 0)
    (s := ⟨(World.loaded.controlDeviceCreate ⟨7⟩ {}).1, [], []⟩)
    (l := [.call (.register 1 0) {}, .run 0 {},
      .call (.submit 7 0 ⟨.bulk, .out, 1, none, some ⟨8, fun _ => 1⟩, 8⟩) {}, .run 1 {}, .run 1 {}])
    (p := fun s => (s.world.backends 0).bindings = [⟨0, 1⟩] ∧ s.queued 0 = [⟨7, 0, none⟩] ∧
      ((fetched? ((Call.fetch 1 false).function 0 {} s.world).2).map fun message =>
        (message.transferId, message.objectId, message.dataLength)) = some (1, 1, 8) ∧
      (((Call.fetch 1 false).function 0 {} s.world).1.backends 0).pending = [] ∧
      (((Call.fetch 1 false).function 0 {} s.world).1.backends 0).active = [⟨7, 0, some 1⟩])
    trivial (by decide)
  obtain ⟨hbindings, hqueued, hmessage, hpending, hactive⟩ := of_decide_eq_true hp
  obtain ⟨message, hfetched, hcontents⟩ := Option.map_eq_some_iff.1 hmessage
  obtain ⟨hid, hcontents⟩ := Prod.mk.inj hcontents
  obtain ⟨hobject, hlength⟩ := Prod.mk.inj hcontents
  have hresult : ((Call.fetch 1 false).function 0 {} s.world).2 = .ok (.fetched message) := by
    rw [fetched?.eq_def] at hfetched
    split at hfetched
    · rename_i hret
      rw [hret, Option.some.inj hfetched]
    · exact absurd hfetched (by simp)
  obtain ⟨-, s', thread, -, -, hworld, hthreads, hdone⟩ :=
    undisturbed 0 s (.fetch 1 false) {} (fun _ _ _ hc => absurd hc (by simp))
  rcases hdone with rfl | ⟨-, -, -, herror, -⟩
  swap
  · exact absurd (hresult.symm.trans herror) (by simp)
  refine ⟨s, s', message, hbindings, hqueued, hresult ▸ hthreads, hid, hobject, hlength, ?_⟩
  rw [State.queued, hworld, hpending, hactive]
  rfl

end DataPlane

end VirtUsb
