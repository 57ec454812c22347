/-
# Threads on one backend

Any number of threads run the functions of `kernel/src/virtusb_backend.c` on the
backend of one host controller.  A step of the machine is one section under
`backend.lock`, or what a thread does between two of them; the state of a thread
says what it does next, with the local variables it still needs, and at its end
what it returned.

A call of `virtusb_hcd_urb_enqueue` is only made for a URB that is not in the
hands of the controller already, the rule the USB core imposes on its drivers.
`virtusb_backend_fetch_rollback` is run by a fetch whose copy to user space
failed, and here also on its own, with any file and any id.

The log records what happened to requests and bindings; no step reads it.
-/

import VirtUsb.Kernel.Control
import VirtUsb.Lib.WorkQueue.Basic

namespace VirtUsb

namespace DataPlane

/-- A request on the record: transfer, URB, device and the file that has it. -/
abbrev Job := WorkQueue.Job TransferPtr UrbPtr DevicePtr FilePtr
/-- A binding on the record: device and file. -/
abbrev Grant := WorkQueue.Grant DevicePtr FilePtr
/-- What the record of a backend holds. -/
abbrev Event := WorkQueue.Event TransferPtr UrbPtr DevicePtr FilePtr

/-- What a thread does next. -/
inductive Thread
  /-- `virtusb_backend_submit`: the locked section, the way out of a failed one,
  and the reference `virtusb_hcd_urb_enqueue` drops last. -/
  | submit (u : UrbPtr) (t : TransferPtr)
  | submitFailed (u : UrbPtr) (t : TransferPtr) (e : Errno)
  | enqueuePut (t : TransferPtr) (ret : Except Errno Reply)
  /-- `virtusb_control_transfer_fetch`: a pass of the loop, the wait, the message,
  `copy_to_user`, and the rollback if that failed; a rollback that is `fetching` is
  that of a fetch, which returns `-EFAULT` whatever the rollback finds. -/
  | fetch (owner : FilePtr) (nonblock : Bool)
  | fetchWait (owner : FilePtr)
  | fetchTail (owner : FilePtr) (t : TransferPtr)
  | fetchCopyOut (owner : FilePtr) (message : TransferFetch)
  | rollback (owner : FilePtr) (transferId : BitVec 64) (fetching : Bool)
  /-- `virtusb_backend_complete`. -/
  | complete (owner : FilePtr) (completion : TransferCompleteRequest)
  | completeTail (request : Request) (completion : TransferCompleteRequest)
  /-- `virtusb_backend_cancel`. -/
  | cancel (u : UrbPtr) (status : ℤ)
  | cancelTail (request : Request) (status : ℤ)
  /-- `virtusb_backend_release_owner`. -/
  | release (owner : FilePtr)
  | releaseDrain (binding : Binding)
  | releaseTail (binding : Binding) (request : Request)
  | releasePut (binding : Binding)
  /-- `virtusb_backend_stop`. -/
  | stop
  | stopDrain
  | stopTail (request : Request)
  | stopUnbind
  | stopPut (binding : Binding)
  /-- `virtusb_backend_register`. -/
  | register (owner : FilePtr) (device : DevicePtr)
  | registerPut (device : DevicePtr) (e : Errno)
  /-- The thread returned `ret`, with what it copied to the caller; a function without
  a result returns `.ok .none`. -/
  | done (ret : Except Errno Reply)

/-- A call that starts a thread. -/
inductive Call
  | submit (u : UrbPtr) (device : DevicePtr) (args : TransferArgs)
  | fetch (owner : FilePtr) (nonblock : Bool)
  | rollback (owner : FilePtr) (transferId : BitVec 64)
  | complete (owner : FilePtr) (completion : TransferCompleteRequest)
  | cancel (u : UrbPtr) (status : ℤ)
  | release (owner : FilePtr)
  | stop
  | register (owner : FilePtr) (device : DevicePtr)

/-- A call begins, or the thread `i` takes its next step. -/
inductive Act
  | call (c : Call) (env : Env)
  | run (i : ℕ) (env : Env)

/-- The world, the threads inside of the module, and what happened to the queue so far. -/
structure State where
  world : World
  threads : List Thread
  log : List Event

namespace Thread

/-- The request a thread took off its list and has not given back. -/
def finishing : Thread → Option Request
  | .completeTail request _ => some request
  | .cancelTail request _ => some request
  | .releaseTail _ request => some request
  | .stopTail request => some request
  | _ => none

/-- The URB a thread has in its hands. -/
def urb (thread : Thread) : Option UrbPtr :=
  match thread with
  | .submit u _ => some u
  | .submitFailed u _ _ => some u
  | _ => thread.finishing.map (·.urb)

end Thread

/-- A request as the log records it. -/
def job (w : World) (request : Request) : Job :=
  ⟨request.transfer, request.urb, w.requestDevice request, request.owner⟩

/-- A binding as the log records it. -/
def grant (binding : Binding) : Grant := ⟨binding.device, binding.owner⟩

namespace State

variable (h : HcdId) (s : State)

/-- The requests in the two lists of the backend. -/
def queued : List Request := (s.world.backends h).pending ++ (s.world.backends h).active

/-- The URB belongs to the controller: it is queued, or a thread has it. -/
def InUse (u : UrbPtr) : Prop :=
  (∃ request ∈ s.queued h, request.urb = u) ∨ ∃ thread ∈ s.threads, thread.urb = some u

instance (u : UrbPtr) : Decidable (s.InUse h u) :=
  inferInstanceAs (Decidable ((∃ request ∈ s.queued h, request.urb = u) ∨
    ∃ thread ∈ s.threads, thread.urb = some u))

/-- A new thread begins, in the world that its first step left. -/
def spawn (w : World) (thread : Thread) : State :=
  { s with world := w, threads := s.threads ++ [thread] }

/-- The thread `i` goes on as `thread`, and the record grows. -/
def advance (i : ℕ) (w : World) (thread : Thread) (events : List Event) : State :=
  { world := w, threads := s.threads.set i thread, log := s.log ++ events }

/-- A thread starts. -/
def start (env : Env) : Call → Option State
  | .submit u device args =>
      if s.InUse h u then none
      else
        match s.world.transferCreate device args env with
        | (w, none) => s.spawn w (.done (.error .ENOMEM))
        | (w, some t) =>
            match w.submitPrepare t env with
            | (w', .error e) => s.spawn w' (.enqueuePut t (.error e))
            | (w', .ok ()) => s.spawn w' (.submit u t)
  | .fetch owner nonblock => s.spawn s.world (.fetch owner nonblock)
  | .rollback owner transferId =>
      s.spawn s.world
        (if transferId = 0 then .done (.error .EINVAL) else .rollback owner transferId false)
  | .complete owner completion =>
      s.spawn s.world
        (if completion.transferId = 0 then .done (.error .EINVAL) else .complete owner completion)
  | .cancel u status => s.spawn s.world (.cancel u status)
  | .release owner => s.spawn s.world (.release owner)
  | .stop => s.spawn s.world .stop
  | .register owner device =>
      match s.world.registerPrepare device env with
      | (w, .error e) => s.spawn w (.done (.error e))
      | (w, .ok ()) => s.spawn w (.register owner device)

/-- Thread `i` takes the step it is at. -/
def resume (i : ℕ) (env : Env) : Thread → Option State
  | .submit u t =>
      match s.world.submitLocked h u t env.link with
      | (w, .error e) => s.advance i w (.submitFailed u t e) []
      | (w, .ok ()) =>
          s.advance i w (.enqueuePut t (.ok .none))
            [.accepted (job s.world { urb := u, transfer := t })]
  | .submitFailed _ t e => s.advance i (s.world.submitFailed t e) (.enqueuePut t (.error e)) []
  | .enqueuePut t ret => s.advance i (s.world.transferPut t) (.done ret) []
  | .fetch owner nonblock =>
      match s.world.fetchLocked h owner with
      | (w, .failed e) => s.advance i w (.done (.error e)) []
      | (w, .empty) =>
          s.advance i w (if nonblock then .done (.error .EAGAIN) else .fetchWait owner) []
      | (w, .taken request) =>
          s.advance i w (.fetchTail owner request.transfer) [.leased owner (job s.world request)]
  | .fetchWait owner =>
      if env.interrupted then s.advance i s.world (.done (.error .ERESTARTSYS)) []
      else if s.world.pendingForOwnerOrStopping h owner then
        s.advance i s.world (.fetch owner false) []
      else none
  | .fetchTail owner t =>
      let (w, message) := s.world.fetchTail t
      s.advance i w (.fetchCopyOut owner message) []
  | .fetchCopyOut owner message =>
      s.advance i s.world
        (if env.copyToUser then .done (.ok (.fetched message))
        else if message.transferId = 0 then .done (.error .EFAULT)
        else .rollback owner message.transferId true) []
  | .rollback owner transferId fetching =>
      match s.world.rollbackLocked h owner transferId with
      | (w, .error e) => s.advance i w (.done (.error (if fetching then .EFAULT else e))) []
      | (w, .ok request) =>
          s.advance i w (.done (if fetching then .error .EFAULT else .ok .none))
            [.restored owner (job s.world request)]
  | .complete owner completion =>
      match s.world.completeLocked h owner completion.transferId with
      | (w, .error e) => s.advance i w (.done (.error e)) []
      | (w, .ok request) =>
          s.advance i w (.completeTail request completion) [.taken i (job s.world request)]
  | .completeTail request completion =>
      let (w, ret) := s.world.completeTail request completion
      s.advance i w (.done (ret.map fun _ => .none)) [.returned i (job s.world request)]
  | .cancel u status =>
      match s.world.cancelLocked h u with
      | (w, .error e) => s.advance i w (.done (.error e)) []
      | (w, .ok request) =>
          s.advance i w (.cancelTail request status) [.taken i (job s.world request)]
  | .cancelTail request status =>
      s.advance i (s.world.cancelTail request status) (.done (.ok .none))
        [.returned i (job s.world request)]
  | .release owner =>
      match s.world.releaseUnbindLocked h owner with
      | (w, none) => s.advance i w (.done (.ok .none)) []
      | (w, some binding) => s.advance i w (.releaseDrain binding) [.revoked i (grant binding)]
  | .releaseDrain binding =>
      match s.world.releaseDrainLocked h binding.owner binding.device with
      | (w, none) => s.advance i w (.releasePut binding) []
      | (w, some request) =>
          s.advance i w (.releaseTail binding request) [.taken i (job s.world request)]
  | .releaseTail binding request =>
      s.advance i (s.world.drainTail request) (.releaseDrain binding)
        [.returned i (job s.world request)]
  | .releasePut binding =>
      s.advance i (s.world.objectPut binding.device) (.done (.ok .none))
        [.dropped i (grant binding)]
  | .stop => s.advance i (s.world.stopSetLocked h) .stopDrain [.closed i]
  | .stopDrain =>
      match s.world.stopDrainLocked h with
      | (w, none) => s.advance i w .stopUnbind []
      | (w, some request) => s.advance i w (.stopTail request) [.taken i (job s.world request)]
  | .stopTail request =>
      s.advance i (s.world.drainTail request) .stopDrain [.returned i (job s.world request)]
  | .stopUnbind =>
      match s.world.stopUnbindLocked h with
      | (w, none) => s.advance i w (.done (.ok .none)) [.finished i]
      | (w, some binding) => s.advance i w (.stopPut binding) [.revoked i (grant binding)]
  | .stopPut binding =>
      s.advance i (s.world.objectPut binding.device) .stopUnbind [.dropped i (grant binding)]
  | .register owner device =>
      match s.world.registerLocked h owner device with
      | (w, .error e) => s.advance i w (.registerPut device e) []
      | (w, .ok ()) => s.advance i w (.done (.ok .none)) [.granted ⟨device, owner⟩]
  | .registerPut device e => s.advance i (s.world.objectPut device) (.done (.error e)) []
  | .done _ => none

/-- The state after an act, if it is possible. -/
def step (s : State) : Act → Option State
  | .call c env => s.start h env c
  | .run i env => (s.threads[i]?).bind (s.resume h i env)

/-- A backend no thread has used yet. -/
structure Initial (s : State) : Prop where
  backend : s.world.backends h = {}
  unlinked : ∀ u, (s.world.urbs u).linked = false
  nextId : s.world.transferNextId = BitVec.ofNat 64 s.world.nextTransfer
  givebacks : s.world.givebacks = []
  threads : s.threads = []
  log : s.log = []

end State

/-- No thread has run since the module was loaded. -/
def State.loaded : State := ⟨.loaded, [], []⟩

/-- After loading, every backend is before its first use. -/
theorem State.initial_loaded (h : HcdId) : State.loaded.Initial h :=
  ⟨rfl, fun _ => rfl, rfl, rfl, rfl, rfl⟩

/-- All threads on the backend of one host controller. -/
def machine (h : HcdId) : Transition.Machine State Act :=
  .ofFun (State.Initial h) (State.step h)

end DataPlane

end VirtUsb
