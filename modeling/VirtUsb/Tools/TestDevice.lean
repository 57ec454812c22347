/-
# The test device

`tools/virtusb-test-device/main.c` is a whole USB device in user space: it creates a device,
attaches it, becomes its backend and answers the control transfers with which a host
enumerates it.  What it answers to a request is `answer` and a pass of its loop is `turn`; the
whole of `main`, one call after the other, is `advance`.

The files of the tools are opened without `O_NONBLOCK`, and the handler of a signal is
installed without `SA_RESTART`: a wait that a signal ends comes back with `-EINTR`.
-/

import VirtUsb.Library.Dispatch

namespace VirtUsb

namespace TestDevice

open Library

/-- `USB_DIR_IN`. -/
def usbDirIn : Byte := 0x80
/-- `USB_TYPE_MASK`. -/
def usbTypeMask : Byte := 0x60
/-- `USB_TYPE_STANDARD`. -/
def usbTypeStandard : Byte := 0x00
/-- `USB_RECIP_MASK`. -/
def usbRecipMask : Byte := 0x1f
/-- `USB_RECIP_DEVICE`. -/
def usbRecipDevice : Byte := 0x00
/-- `USB_REQ_GET_STATUS`. -/
def usbReqGetStatus : Byte := 0x00
/-- `USB_REQ_SET_ADDRESS`. -/
def usbReqSetAddress : Byte := 0x05
/-- `USB_REQ_GET_DESCRIPTOR`. -/
def usbReqGetDescriptor : Byte := 0x06
/-- `USB_REQ_GET_CONFIGURATION`. -/
def usbReqGetConfiguration : Byte := 0x08
/-- `USB_REQ_SET_CONFIGURATION`. -/
def usbReqSetConfiguration : Byte := 0x09
/-- `USB_DT_DEVICE`. -/
def usbDtDevice : Byte := 0x01
/-- `USB_DT_CONFIG`. -/
def usbDtConfig : Byte := 0x02

/-- `device_descriptor`. -/
def deviceDescriptor : List Byte :=
  [18, usbDtDevice,
    0x00, 0x02,
    0x00, 0x00, 0x00,
    64,
    0xad, 0xde,
    0x01, 0x00,
    0x00, 0x01,
    0, 0, 0,
    1]

/-- `configuration_descriptor`, with the one interface behind it. -/
def configurationDescriptor : List Byte :=
  [9, usbDtConfig,
    18, 0,
    1,
    1,
    0,
    0x80,
    50,
    9, 0x04,
    0,
    0,
    0,
    0xff,
    0x00,
    0x00,
    0]

/-- `get_le16` of two bytes. -/
def getLe16 (low high : Byte) : BitVec 16 := high ++ low

/-- The arguments of `virtusb_transfer_complete` after the id of the transfer. -/
structure Completion where
  status : BitVec 32
  data : Option (ℕ → Byte)
  actualLength : ℕ

/-- A completion without data. -/
def Completion.without (status : ℤ) : Completion := ⟨BitVec.ofInt 32 status, none, 0⟩

/-- `complete_data`. -/
def completeData (request : TransferRequest) (data : List Byte) : Completion where
  status := 0
  data := some fun i => data.getD i 0
  actualLength :=
    if data.length > request.requestedLength then request.requestedLength else data.length

/-- The completion that `handle_control_transfer` ends with. -/
def handleControlTransfer (request : TransferRequest) : Completion :=
  if !request.hasSetup then .without Errno.EINVAL.status
  else
    let requestType := request.setup[0]
    let usbRequest := request.setup[1]
    let value := getLe16 request.setup[2] request.setup[3]
    if requestType &&& usbTypeMask ≠ usbTypeStandard then .without Errno.EPIPE.status
    else if usbRequest = usbReqGetDescriptor then
      if requestType &&& usbDirIn = 0 then .without Errno.EPIPE.status
      else
        let descriptorType : Byte := (value >>> 8).setWidth 8
        if descriptorType = usbDtDevice then completeData request deviceDescriptor
        else if descriptorType = usbDtConfig then completeData request configurationDescriptor
        else .without Errno.EPIPE.status
    else if usbRequest = usbReqSetAddress ∨ usbRequest = usbReqSetConfiguration then
      if requestType &&& usbDirIn = 0 then .without 0 else .without Errno.EPIPE.status
    else if usbRequest = usbReqGetConfiguration then
      if requestType &&& (usbDirIn ||| usbRecipMask) = usbDirIn ||| usbRecipDevice then
        completeData request [1]
      else .without Errno.EPIPE.status
    else if usbRequest = usbReqGetStatus then
      if requestType &&& usbDirIn ≠ 0 then completeData request [0, 0]
      else .without Errno.EPIPE.status
    else .without Errno.EPIPE.status

/-- What the loop of `main` completes a request with; `objectId` is the device it created. -/
def answer (objectId : ObjectId) (request : TransferRequest) : Completion :=
  if request.objectId ≠ objectId then .without Errno.ENODEV.status
  else if request.type = Library.TransferType.control.value ∧ request.endpoint = 0 then
    handleControlTransfer request
  else .without Errno.EPIPE.status

section

variable (w : World) (ioctl : Ioctl) (handle : Option Handle)

/-- The completion of a fetched request. -/
def complete (objectId : ObjectId) (request : TransferRequest) : World × Except Error Unit :=
  let completion := answer objectId request
  transferComplete w ioctl handle request.id completion.status completion.data
    completion.actualLength

end

/-- A pass of the loop of `main`, undisturbed; the two `ioctl`s find `env` and `env'`. -/
def turn (w : World) (h : HcdId) (f : FilePtr) (handle : Handle) (objectId : ObjectId)
    (env env' : Env) : World × Except Error Unit :=
  match fetch w (w.file h f false env) (some handle) with
  | (w', .error (.errno .ERESTARTSYS)) => (w', .ok ())
  | (w', .error e) => (w', .error e)
  | (w', .ok request) => complete w' (w'.file h f false env') (some handle) objectId request

/-- The passes of the loop until a signal stops it; a call that fails ends it before. -/
def turns (h : HcdId) (f : FilePtr) (handle : Handle) (objectId : ObjectId) :
    World → List (Env × Env) → World × Except Error Unit
  | w, [] => (w, .ok ())
  | w, (env, env') :: rest =>
      match turn w h f handle objectId env env' with
      | (w', .error e) => (w', .error e)
      | (w', .ok ()) => turns h f handle objectId w' rest

/-- `VIRTUSB_DEVICE_SPEED_FULL`. -/
def deviceSpeedFull : BitVec 32 := 2

/-- Where `main` is: before the next call on its file. -/
inductive Stage
  | opened
  | created (objectId : ObjectId)
  | attached (objectId : ObjectId)
  | registered (objectId : ObjectId)
  | waiting (objectId : ObjectId)
  | fetched (objectId : ObjectId) (request : TransferRequest)
  | disconnecting (objectId : ObjectId)
  | detaching (objectId : ObjectId)
  | unregistering (objectId : ObjectId)
  | destroying (objectId : ObjectId)
  | closing
  | closed

/-- The label `out`, with the test of the object id. -/
def out (objectId : ObjectId) : Stage :=
  if objectId = 0 then .closing else .disconnecting objectId

/-- The next stage after a call that may fail. -/
def Stage.after (objectId : ObjectId) (next : Stage) : Except Error Unit → Stage
  | .error _ => out objectId
  | .ok () => next

section

variable (w : World) (h : HcdId) (f : FilePtr) (handle : Handle) (port : BitVec 32) (env : Env)

/-- The next call of `main`, which finds `env`; `stop` says whether a signal was handled. -/
def advance (stop : Bool) : Stage → World × Stage
  | .opened =>
      match deviceCreate w (w.file h f false env) (some handle) deviceSpeedFull with
      | (w', .error _) => (w', out 0)
      | (w', .ok id) => (w', .created id)
  | .created id =>
      let called := deviceAttach w (w.file h f false env) (some handle) (.ofNat 32 id) 0 port
      (called.1, .after id (.attached id) called.2)
  | .attached id =>
      let called := backendRegister w (w.file h f false env) (some handle) (.ofNat 32 id)
      (called.1, .after id (.registered id) called.2)
  | .registered id =>
      let called :=
        deviceSetConnected w (w.file h f false env) (some handle) (.ofNat 32 id) true
      (called.1, .after id (.waiting id) called.2)
  | .waiting id =>
      if stop then (w, out id)
      else
        match fetch w (w.file h f false env) (some handle) with
        | (w', .error (.errno .ERESTARTSYS)) => (w', .waiting id)
        | (w', .error _) => (w', out id)
        | (w', .ok request) => (w', .fetched id request)
  | .fetched id request =>
      let called := complete w (w.file h f false env) (some handle) id request
      (called.1, .after id (.waiting id) called.2)
  | .disconnecting id =>
      ((deviceSetConnected w (w.file h f false env) (some handle) (.ofNat 32 id) false).1,
        .detaching id)
  | .detaching id =>
      ((deviceDetach w (w.file h f false env) (some handle) (.ofNat 32 id)).1, .unregistering id)
  | .unregistering id =>
      ((backendUnregister w (w.file h f false env) (some handle)).1, .destroying id)
  | .destroying id =>
      ((deviceDestroy w (w.file h f false env) (some handle) (.ofNat 32 id) true).1, .closing)
  | .closing => (w.controlRelease h f, .closed)
  | .closed => (w, .closed)

end

end TestDevice

end VirtUsb
