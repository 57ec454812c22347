/-
# What a command of `virtusbctl` does

Every command of `tools/virtusbctl/main.c` opens the node of its instance, makes one call of the
library, closes the node and reports.  So `main` as a whole is the handler of the module for the
command that its arguments say, on the controller that they say, or it changes nothing
(`virtusbctl_runs`).
-/

import VirtUsb.Library.Dispatch
import VirtUsb.Library.Open
import VirtUsb.Module.Failure
import VirtUsb.Serving.Binders
import VirtUsb.Tools.Command

namespace VirtUsb

namespace Tools

open Library

/-- What a command that succeeds prints. -/
inductive Report
  /-- The path of the device, and the status of the hub or of a port of it. -/
  | status (devicePath : Option (List Byte)) (status : Status)
  /-- `Port %u power: %s`. -/
  | portPower (port : BitVec 32) (powered : Bool)
  /-- `Device created: %u`. -/
  | created (objectId : ObjectId)
  /-- `Device destroyed: %u%s`. -/
  | destroyed (objectId : BitVec 32) (force : Bool)
  /-- `Device %u attached to port %u`. -/
  | attached (objectId port : BitVec 32)
  /-- `Device detached: %u`. -/
  | detached (objectId : BitVec 32)
  /-- `Device %s: %u`. -/
  | connection (objectId : BitVec 32) (connected : Bool)
  deriving DecidableEq

/-- Why `main` fails. -/
inductive Failure
  /-- A complaint about the arguments. -/
  | arguments (complaint : Complaint)
  /-- `Failed to open /dev/virtusb%u: %s`. -/
  | open (inst : BitVec 32) (e : OpenError)
  /-- `Failed to ...: %s`. -/
  | command (command : Command) (e : Error)
  deriving DecidableEq

section

variable (sys : System) (p : Process) (inst : BitVec 32)

/-- The `ioctl` of the program in the state that the module is in. -/
def ioctlOf (w : World) : Ioctl := fun fd command m =>
  w.controlIoctl (sys.file fd).1 true (sys.file fd).2 false command m sys.env

/-- What the functions of the commands share: open, one call, close. -/
def withHandle {α : Type} (command : Command)
    (call : World → Option Handle → World × Except Error α) (report : Option OpenHandle → α → Report) :
    Process × Except Failure Report :=
  match virtusbOpen sys p inst with
  | (p, .error e) => (p, .error (.open inst e))
  | (p, .ok handle) =>
      let called := call p.world (some handle.toHandle)
      (virtusbClose sys { p with world := called.1 } (some handle),
        match called.2 with
        | .error e => .error (.command command e)
        | .ok a => .ok (report (some handle) a))

/-- `virtusbctl_status`. -/
def virtusbctlStatus (port : BitVec 32) : Process × Except Failure Report :=
  withHandle sys p inst (.status port)
    (fun w handle => (w, Library.getPortStatus handle
      (fun fd command m => (ioctlOf sys w fd command m).2) 0 port))
    fun handle status => .status (getDevicePath handle) status

/-- `virtusbctl_port_power`. -/
def virtusbctlPortPower (port : BitVec 32) (powered : Bool) : Process × Except Failure Report :=
  withHandle sys p inst (.portPower port powered)
    (fun w handle => setPortPower w (ioctlOf sys w) handle 0 port powered)
    fun _ _ => .portPower port powered

/-- `virtusbctl_device_create`. -/
def virtusbctlDeviceCreate (speedCaps : BitVec 32) : Process × Except Failure Report :=
  withHandle sys p inst (.deviceCreate speedCaps)
    (fun w handle => Library.deviceCreate w (ioctlOf sys w) handle speedCaps)
    fun _ objectId => .created objectId

/-- `virtusbctl_device_destroy`. -/
def virtusbctlDeviceDestroy (objectId : BitVec 32) (force : Bool) :
    Process × Except Failure Report :=
  withHandle sys p inst (.deviceDestroy objectId force)
    (fun w handle => Library.deviceDestroy w (ioctlOf sys w) handle objectId force)
    fun _ _ => .destroyed objectId force

/-- `virtusbctl_device_attach`. -/
def virtusbctlDeviceAttach (objectId port : BitVec 32) : Process × Except Failure Report :=
  withHandle sys p inst (.deviceAttach objectId port)
    (fun w handle => deviceAttach w (ioctlOf sys w) handle objectId 0 port)
    fun _ _ => .attached objectId port

/-- `virtusbctl_device_detach`. -/
def virtusbctlDeviceDetach (objectId : BitVec 32) : Process × Except Failure Report :=
  withHandle sys p inst (.deviceDetach objectId)
    (fun w handle => deviceDetach w (ioctlOf sys w) handle objectId)
    fun _ _ => .detached objectId

/-- `virtusbctl_device_connection`. -/
def virtusbctlDeviceConnection (objectId : BitVec 32) (connected : Bool) :
    Process × Except Failure Report :=
  withHandle sys p inst (.deviceConnection objectId connected)
    (fun w handle => deviceSetConnected w (ioctlOf sys w) handle objectId connected)
    fun _ _ => .connection objectId connected

/-- The call at the end of a branch of `main`. -/
def dispatch : Command → Process × Except Failure Report
  | .status port => virtusbctlStatus sys p inst port
  | .portPower port powered => virtusbctlPortPower sys p inst port powered
  | .deviceCreate speedCaps => virtusbctlDeviceCreate sys p inst speedCaps
  | .deviceDestroy objectId force => virtusbctlDeviceDestroy sys p inst objectId force
  | .deviceAttach objectId port => virtusbctlDeviceAttach sys p inst objectId port
  | .deviceDetach objectId => virtusbctlDeviceDetach sys p inst objectId
  | .deviceConnection objectId connected => virtusbctlDeviceConnection sys p inst objectId connected

/-- `main`, which exits with `EXIT_SUCCESS` if it reports. -/
def virtusbctl (garbage : Vector Byte bufferSize) (arguments : List CString) :
    Process × Except Failure Report :=
  match parseArguments garbage arguments with
  | .error complaint => (p, .error (.arguments complaint))
  | .ok (inst, command) => dispatch sys p inst command

end

/-! ### The handler of a command -/

/-- What the module does for a command on controller `h`, and what is reported of it. -/
def Command.handler (w : World) (h : HcdId) (env : Env) :
    Command → World × Except Errno Report
  | .status port =>
      (w, (w.controlGetPortStatus h ⟨0, port.toNat⟩ env).map fun reply =>
        .status (some (devicePath h)) (match reply with
          | .portStatus portCount state ports => .ofReply 0 port portCount state ports
          | _ => .ofReply 0 port 0 {} []))
  | .portPower port powered =>
      let done := w.controlSetPortPower h ⟨0, port.toNat, if powered then 1 else 0⟩ env
      (done.1, done.2.map fun _ => .portPower port powered)
  | .deviceCreate speedCaps =>
      let done := w.controlDeviceCreate ⟨speedCaps⟩ env
      (done.1, done.2.map fun reply => .created (match reply with | .created id => id | _ => 0))
  | .deviceDestroy objectId force =>
      let done := w.controlDeviceDestroy
        ⟨objectId.toNat, if force then deviceDestroyForce else 0⟩ env
      (done.1, done.2.map fun _ => .destroyed objectId force)
  | .deviceAttach objectId port =>
      let done := w.controlDeviceAttach h ⟨objectId.toNat, 0, port.toNat⟩ env
      (done.1, done.2.map fun _ => .attached objectId port)
  | .deviceDetach objectId =>
      let done := w.controlDeviceDetach ⟨objectId.toNat⟩ env
      (done.1, done.2.map fun _ => .detached objectId)
  | .deviceConnection objectId connected =>
      let done := w.controlDeviceConnection ⟨objectId.toNat, if connected then 1 else 0⟩ env
      (done.1, done.2.map fun _ => .connection objectId connected)

/-! ### The call -/

section

variable {sys : System} {p : Process} {inst : BitVec 32} {command : Command} {fd : ℤ} {w : World}

/-- A request depends on the file of its descriptor only. -/
theorem request_congr {handle : Handle} {ioctl ioctl' : Ioctl}
    (h : ioctl handle.fd = ioctl' handle.fd) :
    request w ioctl (some handle) = request w ioctl' (some handle) := by
  funext command m
  simp only [request, h]

/-- A request depends on what the kernel does for the descriptor of its handle only. -/
theorem send_congr {handle : Handle} {ioctl ioctl' : Ioctl}
    (h : ioctl handle.fd = ioctl' handle.fd) :
    send w ioctl (some handle) = send w ioctl' (some handle) := by
  funext command m
  simp only [send, request_congr h]

/-- What is left of a command whose node opens. -/
theorem withHandle_of_open {α : Type} (hopen : sys.openPath (devicePath inst.toNat) = .ok fd)
    (hcalloc : sys.calloc = .ok ()) (hfd : 0 ≤ fd)
    {call : World → Option Handle → World × Except Error α}
    {report : Option OpenHandle → α → Report} {result : World × Except Error α}
    (hcall : call p.world (some ⟨fd⟩) = result) :
    withHandle sys p inst command call report =
      (sys.close { p.opening fd with world := result.1 } fd,
        match result.2 with
        | .error e => .error (.command command e)
        | .ok a => .ok (report (some { fd, inst, devicePath := devicePath inst.toNat }) a)) := by
  have hclose : ∀ q, virtusbClose sys q
      (some { fd, inst, devicePath := devicePath inst.toNat }) = sys.close q fd :=
    fun q => if_pos hfd
  have hworld : (p.opening fd).world = p.world := rfl
  simp only [withHandle, open_eq, hopen, hcalloc, hclose, hworld, hcall]

/-- The same for a call that is passed to its handler. -/
theorem withHandle_passed {α : Type} (hopen : sys.openPath (devicePath inst.toNat) = .ok fd)
    (hcalloc : sys.calloc = .ok ()) (hfd : 0 ≤ fd)
    {call : World → Option Handle → World × Except Error Unit} {result : World × Except Errno α}
    (hcall : call p.world (some ⟨fd⟩) = passed result) (report : Report) :
    withHandle sys p inst command call (fun _ _ => report) =
      (sys.close { p.opening fd with world := result.1 } fd,
        match result.2.map fun _ => report with
        | .error e => .error (.command command (.errno e))
        | .ok report => .ok report) := by
  rw [withHandle_of_open hopen hcalloc hfd hcall]
  rcases result with ⟨w', e | a⟩ <;> rfl

/-- **A command on a node that opens is its handler**, between `open` and `close`. -/
theorem dispatch_of_open (hopen : sys.openPath (devicePath inst.toNat) = .ok fd)
    (hcalloc : sys.calloc = .ok ()) (hfd : 0 ≤ fd) (hfile : (sys.file fd).1 = inst.toNat) :
    dispatch sys p inst command =
      (sys.close { p.opening fd with world := (command.handler p.world inst.toNat sys.env).1 } fd,
        match (command.handler p.world inst.toNat sys.env).2 with
        | .error e => .error (.command command (.errno e))
        | .ok report => .ok report) := by
  -- behind the descriptor is a file of the controller with the number of the instance
  set file : Ioctl := p.world.file inst.toNat (sys.file fd).2 false sys.env with hf
  have hfd' : 0 ≤ (⟨fd⟩ : Handle).fd := hfd
  have hioctl : ioctlOf sys p.world (⟨fd⟩ : Handle).fd = file (⟨fd⟩ : Handle).fd := by
    funext command m
    simp only [ioctlOf, hf, World.file, hfile]
  have hrequest := request_congr (w := p.world) hioctl
  have hsend := send_congr (w := p.world) hioctl
  cases command with
  | status port =>
    have hanswer : Library.getPortStatus (some ⟨fd⟩)
        (fun fd command m => (ioctlOf sys p.world fd command m).2) 0 port =
          Library.getPortStatus (some ⟨fd⟩) (fun fd command m => (file fd command m).2) 0 port := by
      simp only [Library.getPortStatus, hioctl]
    have hview := World.libraryPortStatus_eq (w := p.world) (h := inst.toNat) hfd' (sys.file fd).2
      false sys.env port
    rw [dispatch, virtusbctlStatus, withHandle_of_open hopen hcalloc hfd
      (congrArg (Prod.mk p.world) (hanswer.trans hview)), Command.handler]
    refine Prod.ext rfl ?_
    dsimp only
    rcases p.world.controlGetPortStatus inst.toNat ⟨0, port.toNat⟩ sys.env with e | reply
    · rfl
    · cases reply <;> rfl
  | portPower port powered =>
    have hcall : setPortPower p.world file (some ⟨fd⟩) 0 port powered = _ :=
      setPortPower_file hfd' 0 port powered
    rw [dispatch, virtusbctlPortPower]
    refine withHandle_passed hopen hcalloc hfd (Eq.trans ?_ hcall) _
    simp only [setPortPower, hsend]
  | deviceCreate speedCaps =>
    have hcall : Library.deviceCreate p.world file (some ⟨fd⟩) speedCaps = _ :=
      deviceCreate_file hfd' speedCaps
    rw [dispatch, virtusbctlDeviceCreate,
      withHandle_of_open hopen hcalloc hfd (Eq.trans ?_ hcall), Command.handler]
    · refine Prod.ext rfl ?_
      dsimp only
      rcases (p.world.controlDeviceCreate ⟨speedCaps⟩ sys.env).2 with e | reply
      · rfl
      · cases reply <;> rfl
    · simp only [Library.deviceCreate, hrequest]
  | deviceDestroy objectId force =>
    have hcall : Library.deviceDestroy p.world file (some ⟨fd⟩) objectId force = _ :=
      deviceDestroy_file hfd' objectId force
    rw [dispatch, virtusbctlDeviceDestroy]
    refine withHandle_passed hopen hcalloc hfd (Eq.trans ?_ hcall) _
    simp only [Library.deviceDestroy, hsend]
  | deviceAttach objectId port =>
    have hcall : deviceAttach p.world file (some ⟨fd⟩) objectId 0 port = _ :=
      deviceAttach_file hfd' objectId 0 port
    rw [dispatch, virtusbctlDeviceAttach]
    refine withHandle_passed hopen hcalloc hfd (Eq.trans ?_ hcall) _
    simp only [deviceAttach, hsend]
  | deviceDetach objectId =>
    have hcall : deviceDetach p.world file (some ⟨fd⟩) objectId = _ :=
      deviceDetach_file hfd' objectId
    rw [dispatch, virtusbctlDeviceDetach]
    refine withHandle_passed hopen hcalloc hfd (Eq.trans ?_ hcall) _
    simp only [deviceDetach, hsend]
  | deviceConnection objectId connected =>
    have hcall : deviceSetConnected p.world file (some ⟨fd⟩) objectId connected = _ :=
      deviceSetConnected_file hfd' objectId connected
    rw [dispatch, virtusbctlDeviceConnection]
    refine withHandle_passed hopen hcalloc hfd (Eq.trans ?_ hcall) _
    simp only [deviceSetConnected, hsend]

/-- A command on a node that does not open. -/
theorem dispatch_of_error {q : Process} {e : OpenError}
    (hopen : virtusbOpen sys p inst = (q, .error e)) :
    dispatch sys p inst command = (q, .error (.open inst e)) := by
  have hfails : ∀ {α : Type} {call : World → Option Handle → World × Except Error α}
      {report : Option OpenHandle → α → Report} {command : Command},
      withHandle sys p inst command call report = (q, .error (.open inst e)) := by
    intro α call report command
    simp only [withHandle, hopen]
  cases command <;>
    simp only [dispatch, virtusbctlStatus, virtusbctlPortPower, virtusbctlDeviceCreate,
      virtusbctlDeviceDestroy, virtusbctlDeviceAttach, virtusbctlDeviceDetach,
      virtusbctlDeviceConnection, hfails]

/-- A command binds nothing. -/
theorem unbound_handler (hc : w.Counted) {h h' : HcdId} {f : FilePtr} (hw : w.Unbound h' f)
    (env : Env) (command : Command) : (command.handler w h env).1.Unbound h' f := by
  cases command with
  | status port => exact hw
  | portPower port powered => exact hw.unbinds (.of_traffic w (World.traffic_controlSetPortPower w _))
  | deviceCreate speedCaps =>
    exact hw.unbinds (.of_traffic w (World.traffic_controlDeviceCreate w _ env))
  | deviceDestroy objectId force =>
    exact hw.unbinds (.of_traffic w (World.traffic_controlDeviceDestroy hc _))
  | deviceAttach objectId port =>
    exact hw.unbinds (.of_traffic w (World.traffic_controlDeviceAttach hc _))
  | deviceDetach objectId => exact hw.unbinds (.of_traffic w (World.traffic_controlDeviceDetach hc _))
  | deviceConnection objectId connected =>
    exact hw.unbinds (.of_traffic w (World.traffic_controlDeviceConnection hc _))

/-- A command that fails changes nothing. -/
theorem unchanged_handler {N : ℕ} (hw : w.Steady N) {h : HcdId} {env : Env} {e : Errno}
    (hs : (command.handler w h env).2 = .error e) :
    w.Unchanged (command.handler w h env).1 := by
  have hsame : (command.handler w h env).1 = w → w.Unchanged (command.handler w h env).1 := by
    intro heq
    rw [heq]
    exact .refl w
  have hmap : ∀ {α β : Type} {x : Except Errno α} {k : α → β}, x.map k = .error e → x = .error e := by
    intro α β x k hx
    rcases x with e' | a
    · exact congrArg Except.error (Except.error.inj hx)
    · exact nomatch hx
  cases command with
  | status port => exact hsame rfl
  | portPower port powered => exact hsame (hw.same_controlSetPortPower (Prod.ext rfl (hmap hs)))
  | deviceCreate speedCaps =>
    exact (hw.unchanged_controlDeviceCreate (Prod.ext rfl (hmap hs))).1
  | deviceDestroy objectId force =>
    exact hsame (hw.same_controlDeviceDestroy (Prod.ext rfl (hmap hs)))
  | deviceAttach objectId port =>
    exact hsame (hw.same_controlDeviceAttach (Prod.ext rfl (hmap hs)))
  | deviceDetach objectId => exact hsame (hw.same_controlDeviceDetach (Prod.ext rfl (hmap hs)))
  | deviceConnection objectId connected =>
    exact hsame (hw.same_controlDeviceConnection (Prod.ext rfl (hmap hs)))

/-- Closing a file that has no binding does nothing. -/
theorem controlRelease_of_unbound {h : HcdId} {f : FilePtr} (hw : w.Unbound h f) :
    w.controlRelease h f = w := by
  have hnone : (w.backends h).findOwnerLocked f = none := by
    rcases hf : (w.backends h).findOwnerLocked f with _ | binding
    · rfl
    · obtain ⟨hmem, howner⟩ := World.findOwnerLocked_some hf
      exact absurd howner (hw binding hmem)
  simp only [World.controlRelease, World.backendReleaseOwner, World.releaseUnbindLocked, hnone]

end

end Tools

namespace Library

/-- What the module promises of the node of an instance that opens, and the kernel of a new file:
`device_create` names the node of controller `i` `virtusb%u`, and nobody has registered on the
file before. -/
structure System.Sound (sys : System) (N : ℕ) (w : World) : Prop where
  node : ∀ (inst : BitVec 32) fd, sys.openPath (devicePath inst.toNat) = .ok fd →
    ∃ i < N, devicePath inst.toNat = devicePath i ∧ (sys.file fd).1 = i
  nonneg : ∀ path fd, sys.openPath path = .ok fd → 0 ≤ fd
  fresh : ∀ path fd, sys.openPath path = .ok fd → w.Unbound (sys.file fd).1 (sys.file fd).2

end Library

namespace Tools

open Library

section

variable {sys : System} {N : ℕ} {w : World}

/-- Whether `virtusb_open` succeeds. -/
def Opens (sys : System) (inst : BitVec 32) : Prop :=
  (∃ fd, sys.openPath (devicePath inst.toNat) = .ok fd) ∧ sys.calloc = .ok ()

/-- What a command comes to: nothing, or its handler on the controller of the instance. -/
theorem dispatch_spec (inst : BitVec 32) (command : Command) (hw : w.Steady N)
    (hsys : sys.Sound N w) :
    let run := dispatch sys { world := w } inst command
    run.1.opened = run.1.closed ∧
      ((¬ Opens sys inst ∧ run.1.world = w ∧ ∃ e, run.2 = .error (.open inst e)) ∨
        (Opens sys inst ∧ inst.toNat < N ∧
          run.1.world = (command.handler w inst.toNat sys.env).1 ∧
          run.2 = match (command.handler w inst.toNat sys.env).2 with
            | .error e => .error (.command command (.errno e))
            | .ok report => .ok report)) := by
  intro run
  have hrun : run = dispatch sys { world := w } inst command := rfl
  rcases hopen : sys.openPath (devicePath inst.toNat) with e | fd
  · rw [dispatch_of_error (by rw [open_eq, hopen])] at hrun
    rw [hrun]
    refine ⟨rfl, .inl ⟨?_, rfl, _, rfl⟩⟩
    rintro ⟨⟨fd, h⟩, -⟩
    exact nomatch hopen.symm.trans h
  have hfresh := hsys.fresh _ _ hopen
  rcases hcalloc : sys.calloc with e | _
  · rw [dispatch_of_error (by rw [open_eq, hopen, hcalloc])] at hrun
    rw [hrun]
    refine ⟨rfl, .inl ⟨?_, controlRelease_of_unbound hfresh, _, rfl⟩⟩
    rintro ⟨-, h⟩
    exact nomatch hcalloc.symm.trans h
  -- the path that opens is the one of the controller with this number
  obtain ⟨i, hi, hpath, hfile⟩ := hsys.node inst fd hopen
  obtain rfl := devicePath_injective hpath
  rw [dispatch_of_open hopen hcalloc (hsys.nonneg _ _ hopen) hfile] at hrun
  rw [hrun]
  exact ⟨rfl, .inr ⟨⟨⟨fd, hopen⟩, hcalloc⟩, hi, controlRelease_of_unbound
    (unbound_handler hw.accounts.counted hfresh sys.env command), rfl⟩⟩

end

/-- **A command of `virtusbctl` is one request or nothing.**  Every descriptor that `main` opens is
closed again.  It succeeds exactly if its arguments are a command, the node of the instance
opens, and the module, on the controller with the number of the instance, carries the command
out; then the module is left as the request left it, and the report is about its answer.  If
anything fails, nothing but the id counter changed (`World.Unchanged`). -/
theorem virtusbctl_runs {N : ℕ} {w : World} (hw : (calls N).Reachable w) {sys : System}
    (hsys : sys.Sound N w) (garbage : Vector Byte bufferSize) (arguments : List CString) :
    let run := virtusbctl sys { world := w } garbage arguments
    run.1.opened = run.1.closed ∧
    (∀ report, run.2 = .ok report ↔ ∃ inst command,
      parseArguments garbage arguments = .ok (inst, command) ∧ inst.toNat < N ∧ Opens sys inst ∧
      (command.handler w inst.toNat sys.env).2 = .ok report) ∧
    (∀ inst command report, parseArguments garbage arguments = .ok (inst, command) →
      run.2 = .ok report → run.1.world = (command.handler w inst.toNat sys.env).1) ∧
    ∀ failure, run.2 = .error failure → w.Unchanged run.1.world := by
  intro run
  have hst := World.steady_of_reachable hw
  have hrun : run = virtusbctl sys { world := w } garbage arguments := rfl
  rcases hparse : parseArguments garbage arguments with complaint | ⟨inst, command⟩
  · simp only [virtusbctl, hparse] at hrun
    rw [hrun]
    refine ⟨rfl, fun report => ⟨fun h => (nomatch h), ?_⟩, fun _ _ _ h => (nomatch h),
      fun _ _ => .refl w⟩
    rintro ⟨inst, command, h, -⟩
    exact nomatch h
  simp only [virtusbctl, hparse] at hrun
  rw [hrun]
  have hsame : ∀ {inst' command'},
      (Except.ok (inst, command) : Except Complaint _) = .ok (inst', command') →
        inst' = inst ∧ command' = command := by
    intro inst' command' heq
    obtain ⟨rfl, rfl⟩ := Prod.mk.inj (Except.ok.inj heq)
    exact ⟨rfl, rfl⟩
  obtain ⟨hclosed, hspec⟩ := dispatch_spec inst command hst hsys
  refine ⟨hclosed, ?_⟩
  rcases hspec with ⟨hno, hworld, e, hresult⟩ | ⟨hopens, hlt, hworld, hresult⟩
  · rw [hresult, hworld]
    refine ⟨fun report => ⟨fun h => (nomatch h), ?_⟩, fun _ _ _ _ h => (nomatch h),
      fun _ _ => .refl w⟩
    rintro ⟨inst', command', heq, -, hopens, -⟩
    obtain ⟨rfl, rfl⟩ := hsame heq
    exact absurd hopens hno
  rw [hresult, hworld]
  rcases hanswer : (command.handler w inst.toNat sys.env).2 with e | report'
  · refine ⟨fun report => ⟨fun h => (nomatch h), ?_⟩, fun _ _ _ _ h => (nomatch h),
      fun _ _ => unchanged_handler hst hanswer⟩
    rintro ⟨inst', command', heq, -, -, h⟩
    obtain ⟨rfl, rfl⟩ := hsame heq
    exact nomatch hanswer.symm.trans h
  · refine ⟨fun report => ⟨fun h => ?_, ?_⟩, fun inst' command' _ heq _ => ?_,
      fun _ h => (nomatch h)⟩
    · exact ⟨inst, command, rfl, hlt, hopens,
        hanswer.trans (congrArg Except.ok (Except.ok.inj h))⟩
    · rintro ⟨inst', command', heq, -, -, h⟩
      obtain ⟨rfl, rfl⟩ := hsame heq
      obtain rfl : report' = report := Except.ok.inj (hanswer.symm.trans h)
      rfl
    · obtain ⟨rfl, rfl⟩ := hsame heq
      rfl

/-- A machine with one controller, whose node opens. -/
def oneNode : System where
  openPath := fun path => if path = devicePath 0 then .ok 3 else .error .ENOENT
  file := fun _ => (0, 5)

/-- The power of a port is switched off. -/
theorem virtusbctl_runs_example :
    (virtusbctl oneNode { world := World.oneHub } (Vector.replicate bufferSize 0)
      [wordPort, wordPower, .decimal 1, wordOff]).2 = .ok (.portPower 1 false) := by
  have hsound : oneNode.Sound 1 World.oneHub := by
    refine ⟨fun inst fd hopen => ?_, fun path fd hopen => ?_, fun path fd hopen => ?_⟩
    · by_cases hpath : devicePath inst.toNat = devicePath 0
      · exact ⟨0, Nat.one_pos, hpath, rfl⟩
      · simp [oneNode, hpath] at hopen
    · by_cases hpath : path = devicePath 0
      · obtain rfl : 3 = fd := by simpa [oneNode, hpath] using hopen
        decide
      · simp [oneNode, hpath] at hopen
    · exact fun _ hx => absurd hx List.not_mem_nil
  have hopens : Opens oneNode 0 := by
    refine ⟨⟨3, ?_⟩, rfl⟩
    simp [oneNode]
  have hport : PortNumber (.decimal 1) 1 := ⟨denotes_decimal 1, by decide, by decide⟩
  obtain ⟨-, hsuccess, -⟩ := virtusbctl_runs
    (Transition.Machine.Reachable.init (M := calls 1) World.oneHub_initialised) hsound
    (Vector.replicate bufferSize 0) [wordPort, wordPower, .decimal 1, wordOff]
  exact (hsuccess _).2 ⟨0, .portPower 1 false,
    parseArguments_ok.2 (.inl ⟨rfl, .powerOff hport⟩), Nat.one_pos, hopens, by decide⟩

end Tools

end VirtUsb
