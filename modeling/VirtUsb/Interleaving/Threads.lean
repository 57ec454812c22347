/-
# Handlers that interleave

Any number of threads run the ioctl handlers of `kernel/src/virtusb_control.c` that
work on a device.  A handler takes no lock from the lookup of the device to the put of
the reference that the lookup took: each call it makes is one step of the machine, and
the steps of different threads come in any order.  All other calls of the module, and
the whole handlers too, may run to their end in one step.

`virtusb_control_device_attach` finds its port before it looks up the device; a port is
named by its hub and its number, which a hub never takes back.
-/

import VirtUsb.Module.Calls

namespace VirtUsb

open Transition

namespace Interleaving

/-- What a handler does with the device it looked up. -/
inductive Work
  | attach (h : HcdId) (n : ℕ)
  | detach
  | connection (enabled : Bool)
  | destroy (force : Bool)
  | register (h : HcdId) (f : FilePtr)
  deriving DecidableEq

/-- What a thread does next. -/
inductive Thread
  /-- `virtusb_device_create`, and `virtusb_device_destroy` if `copy_to_user` failed. -/
  | create (speed : Byte)
  | undo (d : DevicePtr)
  /-- `virtusb_object_lookup`, and the check of the type of what it found. -/
  | lookup (id : ObjectId) (work : Work)
  | work (d : DevicePtr) (work : Work)
  /-- `virtusb_backend_register`, after the check of the attachment. -/
  | bind (d : DevicePtr) (h : HcdId) (f : FilePtr)
  /-- `virtusb_object_put`, and then the handler returns. -/
  | put (d : DevicePtr) (ret : Except Errno Unit)
  | done (ret : Except Errno Unit)

/-- The argument of an ioctl whose handler works on a device. -/
inductive Request
  | create (request : DeviceCreate)
  | destroy (request : DeviceDestroy)
  | attach (request : DeviceAttach)
  | detach (request : DeviceObject)
  | connection (request : DeviceConnection)
  | register (f : FilePtr) (request : BackendRegister)

/-- What a handler does before its first call. -/
def begin (w : World) (h : HcdId) (request : Request) (env : Env) : Thread :=
  if !env.copyFromUser then .done (.error .EFAULT)
  else
    match request with
    | .create request =>
        if !controlSpeedCapsValid request.speedCaps then .done (.error .EINVAL)
        else .create (request.speedCaps.setWidth 8)
    | .destroy request =>
        if request.objectId = 0 ∨ request.flags &&& ~~~deviceDestroyFlags ≠ 0 then
          .done (.error .EINVAL)
        else .lookup request.objectId (.destroy (request.flags &&& deviceDestroyForce ≠ 0))
    | .attach request =>
        if request.hubId ≠ 0 then .done (.error .ENOENT)
        else
          match w.topo.hubGetPort h request.port with
          | none => .done (.error .EINVAL)
          | some _ => .lookup request.objectId (.attach h request.port)
    | .detach request => .lookup request.objectId .detach
    | .connection request =>
        if request.enabled > 1 then .done (.error .EINVAL)
        else .lookup request.objectId (.connection (request.enabled ≠ 0))
    | .register f request => .lookup request.objectId (.register h f)

/-- The next step of a handler. -/
def run (w : World) (env : Env) : Thread → World × Thread
  | .create speed =>
      match w.deviceCreate speed env with
      | (w', .error e) => (w', .done (.error e))
      | (w', .ok d) => (w', if env.copyToUser then .put d (.ok ()) else .undo d)
  | .undo d => ((w.deviceDestroy d true).1, .put d (.error .EFAULT))
  | .lookup id work =>
      if id = 0 then (w, .done (.error .EINVAL))
      else
        match w.objectLookup id with
        | (w', none) => (w', .done (.error .ENOENT))
        | (w', some d) =>
            (w', if (w'.objects d).type ≠ .device then .put d (.error .EINVAL) else .work d work)
  | .work d (.attach h n) => ((w.operate (.attach d h n)).1, .put d (w.operate (.attach d h n)).2)
  | .work d .detach => ((w.operate (.detach d)).1, .put d (.ok ()))
  | .work d (.connection enabled) =>
      ((w.operate (.connection d enabled)).1, .put d (w.operate (.connection d enabled)).2)
  | .work d (.destroy force) => ((w.deviceDestroy d force).1, .put d (w.deviceDestroy d force).2)
  | .work d (.register h f) =>
      (w, if w.attachedTo h d then .bind d h f else .put d (.error .ENODEV))
  | .bind d h f => ((w.backendRegister h f d env).1, .put d (w.backendRegister h f d env).2)
  | .put d ret => (w.objectPut d, .done ret)
  | .done ret => (w, .done ret)

/-- The world, and the handlers inside of the module. -/
structure State where
  world : World
  threads : List Thread

/-- A handler begins, takes its next step, or a call is made from its start to its end. -/
inductive Action
  | start (h : HcdId) (request : Request) (env : Env)
  | run (i : ℕ) (env : Env)
  | call (c : Call)

namespace State

/-- One step, with `N` host controllers. -/
def step (N : ℕ) (s : State) : Action → Option State
  | .start h request env =>
      if h < N then some { s with threads := s.threads ++ [begin s.world h request env] } else none
  | .run i env =>
      match s.threads[i]? with
      | none => none
      | some thread =>
          some ⟨(run s.world env thread).1, s.threads.set i (run s.world env thread).2⟩
  | .call c => if c.Possible N s.world then some { s with world := s.world.call c } else none

end State

/-- The handlers of a module with `N` host controllers, none of which runs yet. -/
abbrev machine (N : ℕ) : Machine State Action :=
  .ofFun (fun s => s.world.Initialised ∧ s.threads = []) (State.step N)

/-! ### What a step can do -/

/-- What a step does to the state. -/
inductive Step (N : ℕ) (s : State) : Action → State → Prop
  | start {h : HcdId} {request : Request} {env : Env} (hh : h < N) :
      Step N s (.start h request env)
        { s with threads := s.threads ++ [begin s.world h request env] }
  | run {i : ℕ} {env : Env} {thread : Thread} (hi : s.threads[i]? = some thread) :
      Step N s (.run i env)
        ⟨(run s.world env thread).1, s.threads.set i (run s.world env thread).2⟩
  | call {c : Call} (hc : c.Possible N s.world) :
      Step N s (.call c) { s with world := s.world.call c }

/-- The step function takes the steps of the relation. -/
theorem step_cases {N : ℕ} {s s' : State} {a : Action} (hs : s.step N a = some s') :
    Step N s a s' := by
  cases a with
  | start h request env =>
      obtain ⟨hh, hs⟩ := Option.ite_none_right_eq_some.1 hs
      obtain rfl := Option.some.inj hs
      exact .start hh
  | run i env =>
      simp only [State.step] at hs
      split at hs
      · exact absurd hs (by simp)
      · rename_i thread hi
        obtain rfl := Option.some.inj hs
        exact .run hi
  | call c =>
      obtain ⟨hc, hs⟩ := Option.ite_none_right_eq_some.1 hs
      obtain rfl := Option.some.inj hs
      exact .call hc

/-! ### The references of the threads -/

/-- The reference that a handler has to put. -/
def Thread.holds : Thread → Option DevicePtr
  | .work d _ => some d
  | .bind d _ _ => some d
  | .undo d => some d
  | .put d _ => some d
  | _ => none

/-- The host controllers that a handler still refers to exist. -/
def Thread.Within (N : ℕ) : Thread → Prop
  | .lookup _ (.register h _) => h < N
  | .work _ (.register h _) => h < N
  | .bind _ h _ => h < N
  | _ => True

/-- What the handlers hold. -/
def State.held (s : State) : DevicePtr → ℕ := RefCount.tally (s.threads.filterMap Thread.holds)

end Interleaving

end VirtUsb
