/-
# The command line of `virtusbctl`

`main` of `tools/virtusbctl/main.c` goes through its arguments from left to right; it calls
nothing before it has read all of them.  `parseArguments` is what it makes of them: the instance
and the command, or what it complains about.

`Grammar` is the command language itself, one rule for each form in `virtusbctl_print_usage`.
`main` accepts exactly this language (`virtusbctl_grammar`), and so a command never reaches the
module with an object id of zero, with a port that no hub has, or with a mask of speeds that the
module does not know.
-/

import VirtUsb.Library.PortStatus
import VirtUsb.Tools.Numbers

namespace VirtUsb

namespace Tools

/-- `strcmp`. -/
instance : DecidableEq CString := fun a b =>
  decidable_of_iff (a.chars = b.chars)
    ⟨fun heq => by cases a; cases b; simp_all, fun heq => heq ▸ rfl⟩

/-- `"-d"`. -/
def wordInstance : CString := ⟨ascii ['-', 'd'], by decide⟩
/-- `"status"`. -/
def wordStatus : CString := ⟨ascii ['s', 't', 'a', 't', 'u', 's'], by decide⟩
/-- `"port"`. -/
def wordPort : CString := ⟨ascii ['p', 'o', 'r', 't'], by decide⟩
/-- `"power"`. -/
def wordPower : CString := ⟨ascii ['p', 'o', 'w', 'e', 'r'], by decide⟩
/-- `"on"`. -/
def wordOn : CString := ⟨ascii ['o', 'n'], by decide⟩
/-- `"off"`. -/
def wordOff : CString := ⟨ascii ['o', 'f', 'f'], by decide⟩
/-- `"device"`. -/
def wordDevice : CString := ⟨ascii ['d', 'e', 'v', 'i', 'c', 'e'], by decide⟩
/-- `"create"`. -/
def wordCreate : CString := ⟨ascii ['c', 'r', 'e', 'a', 't', 'e'], by decide⟩
/-- `"destroy"`. -/
def wordDestroy : CString := ⟨ascii ['d', 'e', 's', 't', 'r', 'o', 'y'], by decide⟩
/-- `"--force"`. -/
def wordForce : CString := ⟨ascii ['-', '-', 'f', 'o', 'r', 'c', 'e'], by decide⟩
/-- `"attach"`. -/
def wordAttach : CString := ⟨ascii ['a', 't', 't', 'a', 'c', 'h'], by decide⟩
/-- `"detach"`. -/
def wordDetach : CString := ⟨ascii ['d', 'e', 't', 'a', 'c', 'h'], by decide⟩
/-- `"connect"`. -/
def wordConnect : CString := ⟨ascii ['c', 'o', 'n', 'n', 'e', 'c', 't'], by decide⟩
/-- `"disconnect"`. -/
def wordDisconnect : CString :=
  ⟨ascii ['d', 'i', 's', 'c', 'o', 'n', 'n', 'e', 'c', 't'], by decide⟩

/-- What `main` calls, with the arguments that it passes. -/
inductive Command
  /-- `virtusbctl_status`; port 0 is the hub. -/
  | status (port : BitVec 32)
  /-- `virtusbctl_port_power`. -/
  | portPower (port : BitVec 32) (powered : Bool)
  /-- `virtusbctl_device_create`. -/
  | deviceCreate (speedCaps : BitVec 32)
  /-- `virtusbctl_device_destroy`. -/
  | deviceDestroy (objectId : BitVec 32) (force : Bool)
  /-- `virtusbctl_device_attach`. -/
  | deviceAttach (objectId port : BitVec 32)
  /-- `virtusbctl_device_detach`. -/
  | deviceDetach (objectId : BitVec 32)
  /-- `virtusbctl_device_connection`. -/
  | deviceConnection (objectId : BitVec 32) (connected : Bool)
  deriving DecidableEq

/-- What `main` prints to `stderr` before it fails. -/
inductive Complaint
  /-- `virtusbctl_print_usage`. -/
  | usage
  /-- `Invalid instance: %s` and `Invalid port: %s`. -/
  | invalidInstance (argument : CString)
  | invalidStatusPort (argument : CString)
  /-- `Invalid port`. -/
  | invalidPort
  /-- `Power state must be 'on' or 'off'`. -/
  | powerState
  /-- `Invalid device speed capability list`. -/
  | invalidSpeedList
  /-- `Invalid object ID`. -/
  | invalidObjectId
  deriving DecidableEq

/-- The number that `virtusbctl_parse_unsigned` stores. -/
def number (argument : CString) : Option (BitVec 32) :=
  match parseUnsigned (some argument) (some 0) with
  | (.ok (), value) => value
  | (.error _, _) => none

/-- The mask that `virtusbctl_parse_speed_caps` stores; `garbage` is what its buffer contains. -/
def speedList (argument : CString) (garbage : Vector Byte bufferSize) : Option (BitVec 32) :=
  match parseSpeedCaps (some argument) (some 0) garbage with
  | ⟨.ok (), speedCaps, _⟩ => speedCaps
  | ⟨.error _, _, _⟩ => none

/-- `port`, as an argument of `port power` and `device attach`. -/
def portArgument : List CString → Except Complaint (BitVec 32 × List CString)
  | [] => .error .invalidPort
  | argument :: rest =>
      match number argument with
      | none => .error .invalidPort
      | some port =>
          if port = 0 ∨ port.toNat > Library.maxPorts then .error .invalidPort
          else .ok (port, rest)

/-- `value`, as an argument of the commands on a device. -/
def objectIdArgument : List CString → Except Complaint (BitVec 32 × List CString)
  | [] => .error .invalidObjectId
  | argument :: rest =>
      match number argument with
      | none => .error .invalidObjectId
      | some value => if value = 0 then .error .invalidObjectId else .ok (value, rest)

/-- `argument != argc`. -/
def atEnd (command : Command) : List CString → Except Complaint Command
  | [] => .ok command
  | _ :: _ => .error .usage

/-- The arguments of `status`. -/
def parseStatus : List CString → Except Complaint Command
  | [] => .ok (.status 0)
  | argument :: rest =>
      match number argument with
      | none => .error (.invalidStatusPort argument)
      | some port =>
          if port.toNat > Library.maxPorts then .error (.invalidStatusPort argument)
          else atEnd (.status port) rest

/-- The arguments of `port power`. -/
def parsePortPower (arguments : List CString) : Except Complaint Command := do
  let (port, rest) ← portArgument arguments
  match rest with
  | [] => .error .usage
  | argument :: rest =>
      if argument = wordOn then atEnd (.portPower port true) rest
      else if argument = wordOff then atEnd (.portPower port false) rest
      else .error .powerState

/-- The arguments of `device create`. -/
def parseDeviceCreate (garbage : Vector Byte bufferSize) :
    List CString → Except Complaint Command
  | [] => .error .invalidSpeedList
  | argument :: rest =>
      match speedList argument garbage with
      | none => .error .invalidSpeedList
      | some speedCaps => atEnd (.deviceCreate speedCaps) rest

/-- The arguments of `device destroy`, with an optional `--force` at the end. -/
def parseDeviceDestroy (arguments : List CString) : Except Complaint Command := do
  let (objectId, rest) ← objectIdArgument arguments
  match rest with
  | [] => .ok (.deviceDestroy objectId false)
  | argument :: rest' =>
      if argument = wordForce then atEnd (.deviceDestroy objectId true) rest'
      else atEnd (.deviceDestroy objectId false) rest

/-- The arguments of `device attach`. -/
def parseDeviceAttach (arguments : List CString) : Except Complaint Command := do
  let (objectId, rest) ← objectIdArgument arguments
  let (port, rest) ← portArgument rest
  atEnd (.deviceAttach objectId port) rest

/-- The arguments of `device detach`. -/
def parseDeviceDetach (arguments : List CString) : Except Complaint Command := do
  let (objectId, rest) ← objectIdArgument arguments
  atEnd (.deviceDetach objectId) rest

/-- The arguments of `device connect` and `device disconnect`. -/
def parseDeviceConnection (connected : Bool) (arguments : List CString) :
    Except Complaint Command := do
  let (objectId, rest) ← objectIdArgument arguments
  atEnd (.deviceConnection objectId connected) rest

/-- The commands after `device`. -/
def parseDevice (garbage : Vector Byte bufferSize) : List CString → Except Complaint Command
  | [] => .error .usage
  | verb :: rest =>
      if verb = wordCreate then parseDeviceCreate garbage rest
      else if verb = wordDestroy then parseDeviceDestroy rest
      else if verb = wordAttach then parseDeviceAttach rest
      else if verb = wordDetach then parseDeviceDetach rest
      else if verb = wordConnect ∨ verb = wordDisconnect then
        parseDeviceConnection (decide (verb = wordConnect)) rest
      else .error .usage

/-- The commands after `port`. -/
def parsePort : List CString → Except Complaint Command
  | [] => .error .usage
  | verb :: rest => if verb = wordPower then parsePortPower rest else .error .usage

/-- The arguments from the first word of the command on. -/
def parseCommand (garbage : Vector Byte bufferSize) : List CString → Except Complaint Command
  | [] => .error .usage
  | first :: rest =>
      if first = wordStatus then parseStatus rest
      else if first = wordPort then parsePort rest
      else if first ≠ wordDevice then .error .usage
      else parseDevice garbage rest

/-- The arguments of `main` after `argv[0]`: the instance and the command. -/
def parseArguments (garbage : Vector Byte bufferSize) :
    List CString → Except Complaint (BitVec 32 × Command)
  | [] => .error .usage
  | first :: rest =>
      if first = wordInstance then
        match rest with
        | [] => .error .usage
        | argument :: rest =>
            match number argument with
            | none => .error (.invalidInstance argument)
            | some inst => (parseCommand garbage rest).map fun command => (inst, command)
      else (parseCommand garbage (first :: rest)).map fun command => (0, command)

/-! ### The language -/

/-- The mask of a list of speeds. -/
structure SpeedMask (text : CString) (speedCaps : BitVec 32) : Prop where
  list : SpeedList text
  valid : controlSpeedCapsValid speedCaps = true
  speeds : speedsOf (speedCaps.setWidth 8) = speedsIn text

/-- A port of the hub. -/
structure PortNumber (text : CString) (port : BitVec 32) : Prop where
  denotes : Denotes text.chars port
  pos : port ≠ 0
  le : port.toNat ≤ Library.maxPorts

/-- An object id. -/
structure ObjectNumber (text : CString) (objectId : BitVec 32) : Prop where
  denotes : Denotes text.chars objectId
  pos : objectId ≠ 0

/-- The commands, and what is written for them. -/
inductive Grammar : List CString → Command → Prop
  | hubStatus : Grammar [wordStatus] (.status 0)
  | portStatus {t : CString} {port : BitVec 32} (hport : Denotes t.chars port)
      (hle : port.toNat ≤ Library.maxPorts) : Grammar [wordStatus, t] (.status port)
  | powerOn {t : CString} {port : BitVec 32} (hport : PortNumber t port) :
      Grammar [wordPort, wordPower, t, wordOn] (.portPower port true)
  | powerOff {t : CString} {port : BitVec 32} (hport : PortNumber t port) :
      Grammar [wordPort, wordPower, t, wordOff] (.portPower port false)
  | create {t : CString} {speedCaps : BitVec 32} (hmask : SpeedMask t speedCaps) :
      Grammar [wordDevice, wordCreate, t] (.deviceCreate speedCaps)
  | destroy {t : CString} {objectId : BitVec 32} (hid : ObjectNumber t objectId) :
      Grammar [wordDevice, wordDestroy, t] (.deviceDestroy objectId false)
  | destroyForce {t : CString} {objectId : BitVec 32} (hid : ObjectNumber t objectId) :
      Grammar [wordDevice, wordDestroy, t, wordForce] (.deviceDestroy objectId true)
  | attach {t t' : CString} {objectId port : BitVec 32} (hid : ObjectNumber t objectId)
      (hport : PortNumber t' port) :
      Grammar [wordDevice, wordAttach, t, t'] (.deviceAttach objectId port)
  | detach {t : CString} {objectId : BitVec 32} (hid : ObjectNumber t objectId) :
      Grammar [wordDevice, wordDetach, t] (.deviceDetach objectId)
  | connect {t : CString} {objectId : BitVec 32} (hid : ObjectNumber t objectId) :
      Grammar [wordDevice, wordConnect, t] (.deviceConnection objectId true)
  | disconnect {t : CString} {objectId : BitVec 32} (hid : ObjectNumber t objectId) :
      Grammar [wordDevice, wordDisconnect, t] (.deviceConnection objectId false)

/-! ### The arguments -/

/-- Two steps succeed if the first does, and then the second. -/
theorem bind_ok {α β ε : Type} {x : Except ε α} {k : α → Except ε β} {b : β} :
    (x >>= k) = .ok b ↔ ∃ a, x = .ok a ∧ k a = .ok b := by
  rcases x with e | a
  · exact ⟨fun h => (nomatch h), fun ⟨_, h, _⟩ => (nomatch h)⟩
  · exact ⟨fun h => ⟨a, rfl, h⟩, fun ⟨_, h, hk⟩ => Except.ok.inj h ▸ hk⟩

/-- What is read as a number is written as one. -/
theorem number_eq_some {text : CString} {v : BitVec 32} :
    number text = some v ↔ Denotes text.chars v := by
  rcases parseUnsigned_spec text 0 with ⟨v', hv', hs⟩ | ⟨hno, hs⟩
  · simp only [number, hs]
    exact ⟨fun heq => Option.some.inj heq ▸ hv', fun hv => congrArg some (hv'.unique hv)⟩
  · simp only [number, hs]
    exact ⟨fun heq => (nomatch heq), fun hv => absurd hv (hno v)⟩

/-- What is read as a list of speeds is written as one. -/
theorem speedList_eq_some {text : CString} {garbage : Vector Byte bufferSize}
    {speedCaps : BitVec 32} : speedList text garbage = some speedCaps ↔ SpeedMask text speedCaps := by
  rcases hs : parseSpeedCaps (some text) (some 0) garbage with ⟨ret, stored, buffer⟩
  rcases (parseSpeedCaps_spec text 0 garbage).1 with ⟨hlist, hret, hcaps⟩ | ⟨hno, hret, -⟩
  · rw [hs] at hret hcaps
    obtain rfl : ret = .ok () := hret
    obtain rfl : stored = _ := hcaps
    obtain ⟨hvalid, hspeeds⟩ := speedCaps_of_speedList hlist
    simp only [speedList, hs, Option.some.injEq]
    constructor
    · rintro rfl
      exact ⟨hlist, hvalid, hspeeds⟩
    · intro hmask
      exact speedCaps_ext hvalid hmask.valid (hspeeds.trans hmask.speeds.symm)
  · rw [hs] at hret
    obtain rfl : ret = .error .EINVAL := hret
    simp only [speedList, hs]
    exact ⟨fun heq => (nomatch heq), fun hmask => absurd hmask.list hno⟩

/-- An argument that is read as a port. -/
theorem portArgument_ok {arguments rest : List CString} {port : BitVec 32} :
    portArgument arguments = .ok (port, rest) ↔
      ∃ t, arguments = t :: rest ∧ PortNumber t port := by
  rcases arguments with _ | ⟨t, more⟩
  · exact ⟨fun h => (nomatch h), fun ⟨_, h, _⟩ => (nomatch h)⟩
  rcases hn : number t with _ | port'
  · simp only [portArgument, hn]
    refine ⟨fun h => (nomatch h), ?_⟩
    rintro ⟨t', heq, hport⟩
    obtain ⟨rfl, -⟩ := List.cons.inj heq
    rw [number_eq_some.2 hport.denotes] at hn
    exact nomatch hn
  · simp only [portArgument, hn]
    constructor
    · intro heq
      split at heq
      · exact nomatch heq
      · rename_i hrange
        obtain ⟨rfl, rfl⟩ := Prod.mk.inj (Except.ok.inj heq)
        exact ⟨t, rfl, number_eq_some.1 hn, fun h => hrange (.inl h),
          Nat.le_of_not_lt fun h => hrange (.inr h)⟩
    · rintro ⟨t', heq, hport⟩
      obtain ⟨rfl, rfl⟩ := List.cons.inj heq
      rw [number_eq_some.2 hport.denotes] at hn
      obtain rfl := Option.some.inj hn
      have hrange : ¬ (port = 0 ∨ port.toNat > Library.maxPorts) := by
        rintro (h | h)
        · exact hport.pos h
        · exact absurd hport.le (Nat.not_le.2 h)
      rw [if_neg hrange]

/-- An argument that is read as an id. -/
theorem objectIdArgument_ok {arguments rest : List CString} {objectId : BitVec 32} :
    objectIdArgument arguments = .ok (objectId, rest) ↔
      ∃ t, arguments = t :: rest ∧ ObjectNumber t objectId := by
  rcases arguments with _ | ⟨t, more⟩
  · exact ⟨fun h => (nomatch h), fun ⟨_, h, _⟩ => (nomatch h)⟩
  rcases hn : number t with _ | value
  · simp only [objectIdArgument, hn]
    refine ⟨fun h => (nomatch h), ?_⟩
    rintro ⟨t', heq, hid⟩
    obtain ⟨rfl, -⟩ := List.cons.inj heq
    rw [number_eq_some.2 hid.denotes] at hn
    exact nomatch hn
  · simp only [objectIdArgument, hn]
    constructor
    · intro heq
      split at heq
      · exact nomatch heq
      · rename_i hzero
        obtain ⟨rfl, rfl⟩ := Prod.mk.inj (Except.ok.inj heq)
        exact ⟨t, rfl, number_eq_some.1 hn, hzero⟩
    · rintro ⟨t', heq, hid⟩
      obtain ⟨rfl, rfl⟩ := List.cons.inj heq
      rw [number_eq_some.2 hid.denotes] at hn
      obtain rfl := Option.some.inj hn
      rw [if_neg hid.pos]

/-- A command ends with its last argument. -/
theorem atEnd_ok {command command' : Command} {arguments : List CString} :
    atEnd command arguments = .ok command' ↔ arguments = [] ∧ command' = command := by
  rcases arguments with _ | ⟨t, rest⟩
  · exact ⟨fun h => ⟨rfl, (Except.ok.inj h).symm⟩, fun ⟨_, h⟩ => congrArg Except.ok h.symm⟩
  · exact ⟨fun h => (nomatch h), fun ⟨h, _⟩ => (nomatch h)⟩

/-! ### The commands -/

section

variable {rest : List CString} {command : Command}

/-- The commands that begin with `status`. -/
theorem parseStatus_ok : parseStatus rest = .ok command ↔ Grammar (wordStatus :: rest) command := by
  rcases rest with _ | ⟨t, rest⟩
  · constructor
    · intro h
      obtain rfl := Except.ok.inj h
      exact .hubStatus
    · intro h
      cases h
      rfl
  constructor
  · intro h
    rcases hn : number t with _ | port
    · simp [parseStatus, hn] at h
    simp only [parseStatus, hn] at h
    split at h
    · exact nomatch h
    · rename_i hle
      obtain ⟨rfl, rfl⟩ := atEnd_ok.1 h
      exact .portStatus (number_eq_some.1 hn) (Nat.le_of_not_lt hle)
  · intro h
    cases h with
    | portStatus hport hle =>
      simp only [parseStatus, number_eq_some.2 hport, if_neg (Nat.not_lt.2 hle)]
      rfl

/-- The commands that begin with `port power`. -/
theorem parsePortPower_ok :
    parsePortPower rest = .ok command ↔ Grammar (wordPort :: wordPower :: rest) command := by
  rw [parsePortPower, bind_ok]
  constructor
  · rintro ⟨⟨port, more⟩, hfirst, h⟩
    obtain ⟨t, rfl, hport⟩ := portArgument_ok.1 hfirst
    rcases more with _ | ⟨t', more⟩
    · exact nomatch h
    dsimp only at h
    split at h
    · rename_i hon
      obtain ⟨rfl, rfl⟩ := atEnd_ok.1 h
      exact hon ▸ .powerOn hport
    split at h
    · rename_i hoff
      obtain ⟨rfl, rfl⟩ := atEnd_ok.1 h
      exact hoff ▸ .powerOff hport
    · exact nomatch h
  · intro h
    cases h with
    | powerOn hport => exact ⟨_, portArgument_ok.2 ⟨_, rfl, hport⟩, rfl⟩
    | powerOff hport => exact ⟨_, portArgument_ok.2 ⟨_, rfl, hport⟩, rfl⟩

/-- The commands that begin with `device create`. -/
theorem parseDeviceCreate_ok {garbage : Vector Byte bufferSize} :
    parseDeviceCreate garbage rest = .ok command ↔
      Grammar (wordDevice :: wordCreate :: rest) command := by
  rcases rest with _ | ⟨t, rest⟩
  · exact ⟨fun h => (nomatch h), fun h => (nomatch h)⟩
  constructor
  · intro h
    rcases hs : speedList t garbage with _ | speedCaps
    · simp [parseDeviceCreate, hs] at h
    simp only [parseDeviceCreate, hs] at h
    obtain ⟨rfl, rfl⟩ := atEnd_ok.1 h
    exact .create (speedList_eq_some.1 hs)
  · intro h
    cases h with
    | create hmask =>
      simp only [parseDeviceCreate, speedList_eq_some.2 hmask]
      rfl

/-- The commands that begin with `device destroy`. -/
theorem parseDeviceDestroy_ok :
    parseDeviceDestroy rest = .ok command ↔
      Grammar (wordDevice :: wordDestroy :: rest) command := by
  rw [parseDeviceDestroy, bind_ok]
  constructor
  · rintro ⟨⟨objectId, more⟩, hfirst, h⟩
    obtain ⟨t, rfl, hid⟩ := objectIdArgument_ok.1 hfirst
    rcases more with _ | ⟨t', more⟩
    · obtain rfl := Except.ok.inj h
      exact .destroy hid
    dsimp only at h
    split at h
    · rename_i hforce
      obtain ⟨rfl, rfl⟩ := atEnd_ok.1 h
      exact hforce ▸ .destroyForce hid
    · exact nomatch h
  · intro h
    cases h with
    | destroy hid => exact ⟨_, objectIdArgument_ok.2 ⟨_, rfl, hid⟩, rfl⟩
    | destroyForce hid => exact ⟨_, objectIdArgument_ok.2 ⟨_, rfl, hid⟩, rfl⟩

/-- The commands that begin with `device attach`. -/
theorem parseDeviceAttach_ok :
    parseDeviceAttach rest = .ok command ↔
      Grammar (wordDevice :: wordAttach :: rest) command := by
  rw [parseDeviceAttach, bind_ok]
  constructor
  · rintro ⟨⟨objectId, more⟩, hfirst, h⟩
    obtain ⟨⟨port, more'⟩, hsecond, hend⟩ := bind_ok.1 h
    obtain ⟨t, rfl, hid⟩ := objectIdArgument_ok.1 hfirst
    obtain ⟨t', rfl, hport⟩ := portArgument_ok.1 hsecond
    obtain ⟨rfl, rfl⟩ := atEnd_ok.1 hend
    exact .attach hid hport
  · intro h
    cases h with
    | attach hid hport =>
      exact ⟨_, objectIdArgument_ok.2 ⟨_, rfl, hid⟩,
        bind_ok.2 ⟨_, portArgument_ok.2 ⟨_, rfl, hport⟩, rfl⟩⟩

/-- The commands that begin with `device detach`. -/
theorem parseDeviceDetach_ok :
    parseDeviceDetach rest = .ok command ↔
      Grammar (wordDevice :: wordDetach :: rest) command := by
  rw [parseDeviceDetach, bind_ok]
  constructor
  · rintro ⟨⟨objectId, more⟩, hfirst, h⟩
    obtain ⟨t, rfl, hid⟩ := objectIdArgument_ok.1 hfirst
    obtain ⟨rfl, rfl⟩ := atEnd_ok.1 h
    exact .detach hid
  · intro h
    cases h with
    | detach hid => exact ⟨_, objectIdArgument_ok.2 ⟨_, rfl, hid⟩, rfl⟩

/-- The commands that begin with `device connect` or `device disconnect`. -/
theorem parseDeviceConnection_ok {verb : CString} (hverb : verb = wordConnect ∨ verb = wordDisconnect) :
    parseDeviceConnection (decide (verb = wordConnect)) rest = .ok command ↔
      Grammar (wordDevice :: verb :: rest) command := by
  rw [parseDeviceConnection, bind_ok]
  constructor
  · rintro ⟨⟨objectId, more⟩, hfirst, h⟩
    obtain ⟨t, rfl, hid⟩ := objectIdArgument_ok.1 hfirst
    obtain ⟨rfl, rfl⟩ := atEnd_ok.1 h
    rcases hverb with rfl | rfl
    · exact .connect hid
    · exact .disconnect hid
  · intro h
    cases h with
    | connect hid => exact ⟨_, objectIdArgument_ok.2 ⟨_, rfl, hid⟩, rfl⟩
    | disconnect hid => exact ⟨_, objectIdArgument_ok.2 ⟨_, rfl, hid⟩, rfl⟩
    | _ => exact absurd hverb (by decide)

/-- The commands that begin with `port`. -/
theorem parsePort_ok : parsePort rest = .ok command ↔ Grammar (wordPort :: rest) command := by
  rcases rest with _ | ⟨verb, rest⟩
  · exact ⟨fun h => (nomatch h), fun h => (nomatch h)⟩
  rw [parsePort]
  split_ifs with hpower
  · rw [hpower]
    exact parsePortPower_ok
  · refine ⟨fun h => (nomatch h), fun h => ?_⟩
    cases h with
    | powerOn _ => exact absurd rfl hpower
    | powerOff _ => exact absurd rfl hpower

/-- The commands that begin with `device`. -/
theorem parseDevice_ok {garbage : Vector Byte bufferSize} :
    parseDevice garbage rest = .ok command ↔ Grammar (wordDevice :: rest) command := by
  rcases rest with _ | ⟨verb, rest⟩
  · exact ⟨fun h => (nomatch h), fun h => (nomatch h)⟩
  rw [parseDevice]
  split_ifs with hcreate hdestroy hattach hdetach hverb
  · rw [hcreate]
    exact parseDeviceCreate_ok
  · rw [hdestroy]
    exact parseDeviceDestroy_ok
  · rw [hattach]
    exact parseDeviceAttach_ok
  · rw [hdetach]
    exact parseDeviceDetach_ok
  · exact parseDeviceConnection_ok hverb
  · refine ⟨fun h => (nomatch h), fun h => ?_⟩
    cases h with
    | create _ => exact absurd rfl hcreate
    | destroy _ => exact absurd rfl hdestroy
    | destroyForce _ => exact absurd rfl hdestroy
    | attach _ _ => exact absurd rfl hattach
    | detach _ => exact absurd rfl hdetach
    | connect _ => exact absurd (.inl rfl) hverb
    | disconnect _ => exact absurd (.inr rfl) hverb

/-- The first word of a command. -/
theorem Grammar.first {arguments : List CString} (h : Grammar arguments command) :
    ∃ first rest, arguments = first :: rest ∧
      (first = wordStatus ∨ first = wordPort ∨ first = wordDevice) := by
  cases h <;> exact ⟨_, _, rfl, by decide⟩

/-- **The commands that are accepted.** -/
theorem parseCommand_ok {garbage : Vector Byte bufferSize} {arguments : List CString} :
    parseCommand garbage arguments = .ok command ↔ Grammar arguments command := by
  rcases arguments with _ | ⟨first, rest⟩
  · exact ⟨fun h => (nomatch h), fun h => (nomatch h)⟩
  rw [parseCommand]
  split_ifs with hstatus hport hdevice
  · rw [hstatus]
    exact parseStatus_ok
  · rw [hport]
    exact parsePort_ok
  · refine ⟨fun h => (nomatch h), fun h => ?_⟩
    obtain ⟨first', rest', heq, hfirst⟩ := h.first
    obtain ⟨rfl, -⟩ := List.cons.inj heq
    rcases hfirst with h | h | h
    · exact absurd h hstatus
    · exact absurd h hport
    · exact absurd h hdevice
  · rw [not_not.1 hdevice]
    exact parseDevice_ok

end

/-- What `main` asks of the arguments of a command. -/
def Command.InRange : Command → Prop
  | .status port => port.toNat ≤ Library.maxPorts
  | .portPower port _ => port ≠ 0 ∧ port.toNat ≤ Library.maxPorts
  | .deviceCreate speedCaps => controlSpeedCapsValid speedCaps = true
  | .deviceDestroy objectId _ => objectId ≠ 0
  | .deviceAttach objectId port => objectId ≠ 0 ∧ port ≠ 0 ∧ port.toNat ≤ Library.maxPorts
  | .deviceDetach objectId => objectId ≠ 0
  | .deviceConnection objectId _ => objectId ≠ 0

/-- The numbers of a command are in the range that the module accepts. -/
theorem Grammar.inRange {arguments : List CString} {command : Command}
    (h : Grammar arguments command) : command.InRange := by
  cases h with
  | hubStatus => exact Nat.zero_le _
  | portStatus _ hle => exact hle
  | powerOn hport => exact ⟨hport.pos, hport.le⟩
  | powerOff hport => exact ⟨hport.pos, hport.le⟩
  | create hmask => exact hmask.valid
  | destroy hid => exact hid.pos
  | destroyForce hid => exact hid.pos
  | attach hid hport => exact ⟨hid.pos, hport.pos, hport.le⟩
  | detach hid => exact hid.pos
  | connect hid => exact hid.pos
  | disconnect hid => exact hid.pos

/-- Every command in range can be written. -/
theorem exists_grammar {command : Command} (h : command.InRange) :
    ∃ arguments, Grammar arguments command := by
  have hobject : ∀ {objectId : BitVec 32}, objectId ≠ 0 →
      ObjectNumber (.decimal objectId) objectId := fun hid => ⟨denotes_decimal _, hid⟩
  have hport : ∀ {port : BitVec 32}, port ≠ 0 → port.toNat ≤ Library.maxPorts →
      PortNumber (.decimal port) port := fun hpos hle => ⟨denotes_decimal _, hpos, hle⟩
  cases command with
  | status port => exact ⟨_, .portStatus (denotes_decimal port) h⟩
  | portPower port powered =>
    cases powered with
    | true => exact ⟨_, .powerOn (hport h.1 h.2)⟩
    | false => exact ⟨_, .powerOff (hport h.1 h.2)⟩
  | deviceCreate speedCaps =>
    obtain ⟨text, hlist, hspeeds⟩ := exists_text h
    exact ⟨_, .create ⟨hlist, h, hspeeds.symm⟩⟩
  | deviceDestroy objectId force =>
    cases force with
    | true => exact ⟨_, .destroyForce (hobject h)⟩
    | false => exact ⟨_, .destroy (hobject h)⟩
  | deviceAttach objectId port => exact ⟨_, .attach (hobject h.1) (hport h.2.1 h.2.2)⟩
  | deviceDetach objectId => exact ⟨_, .detach (hobject h)⟩
  | deviceConnection objectId connected =>
    cases connected with
    | true => exact ⟨_, .connect (hobject h)⟩
    | false => exact ⟨_, .disconnect (hobject h)⟩

/-- What `main` accepts. -/
theorem parseArguments_ok {garbage : Vector Byte bufferSize} {arguments : List CString}
    {inst : BitVec 32} {command : Command} :
    parseArguments garbage arguments = .ok (inst, command) ↔
      (inst = 0 ∧ Grammar arguments command) ∨
        ∃ t rest, arguments = wordInstance :: t :: rest ∧ Denotes t.chars inst ∧
          Grammar rest command := by
  have hmap : ∀ {x : Except Complaint Command} {i : BitVec 32},
      x.map (fun command => (i, command)) = .ok (inst, command) ↔
        i = inst ∧ x = .ok command := by
    intro x i
    rcases x with e | c
    · exact ⟨fun h => (nomatch h), fun h => (nomatch h.2)⟩
    · simp [Except.map]
  rcases arguments with _ | ⟨first, rest⟩
  · refine ⟨fun h => (nomatch h), ?_⟩
    rintro (⟨-, h⟩ | ⟨t, rest, h, -⟩)
    · exact nomatch h
    · exact nomatch h
  unfold parseArguments
  dsimp only
  split_ifs with hinstance
  · -- no command begins with `-d`
    have hno : ¬ Grammar (first :: rest) command := by
      intro h
      obtain ⟨first', rest', heq, hfirst⟩ := h.first
      obtain ⟨rfl, -⟩ := List.cons.inj heq
      rw [hinstance] at hfirst
      exact absurd hfirst (by decide)
    rcases rest with _ | ⟨t, rest⟩
    · refine ⟨fun h => (nomatch h), ?_⟩
      rintro (⟨-, h⟩ | ⟨t, rest, h, -⟩)
      · exact absurd h hno
      · exact nomatch (List.cons.inj h).2
    rcases hn : number t with _ | i
    · simp only [hn]
      refine ⟨fun h => (nomatch h), ?_⟩
      rintro (⟨-, h⟩ | ⟨t', rest', heq, ht, -⟩)
      · exact absurd h hno
      · obtain ⟨rfl, -⟩ := List.cons.inj (List.cons.inj heq).2
        rw [number_eq_some.2 ht] at hn
        exact nomatch hn
    · simp only [hn]
      rw [hmap, parseCommand_ok]
      constructor
      · rintro ⟨rfl, h⟩
        exact .inr ⟨t, rest, by rw [hinstance], number_eq_some.1 hn, h⟩
      · rintro (⟨-, h⟩ | ⟨t', rest', heq, ht, h⟩)
        · exact absurd h hno
        · obtain ⟨rfl, rfl⟩ := List.cons.inj (List.cons.inj heq).2
          rw [number_eq_some.2 ht] at hn
          exact ⟨(Option.some.inj hn).symm, h⟩
  · rw [hmap, parseCommand_ok]
    constructor
    · rintro ⟨rfl, h⟩
      exact .inl ⟨rfl, h⟩
    · rintro (⟨rfl, h⟩ | ⟨t, rest', heq, -⟩)
      · exact ⟨rfl, h⟩
      · exact absurd (List.cons.inj heq).1 hinstance

/-- **The language of `virtusbctl`.**  `main` accepts exactly the commands of the grammar, on the
instance that `-d` names or on instance 0, and what the buffer of the speed list contains does
not matter.  The commands that it accepts on an instance are exactly those whose arguments are
in range. -/
theorem virtusbctl_grammar (inst : BitVec 32) (command : Command) :
    (∀ (garbage : Vector Byte bufferSize) (arguments : List CString),
      parseArguments garbage arguments = .ok (inst, command) ↔
        (inst = 0 ∧ Grammar arguments command) ∨
          ∃ t rest, arguments = wordInstance :: t :: rest ∧ Denotes t.chars inst ∧
            Grammar rest command) ∧
    ∀ garbage : Vector Byte bufferSize,
      (∃ arguments, parseArguments garbage arguments = .ok (inst, command)) ↔
        command.InRange := by
  refine ⟨fun garbage arguments => parseArguments_ok, fun garbage => ⟨?_, fun h => ?_⟩⟩
  · rintro ⟨arguments, h⟩
    rcases parseArguments_ok.1 h with ⟨-, hgrammar⟩ | ⟨t, rest, -, -, hgrammar⟩
    · exact hgrammar.inRange
    · exact hgrammar.inRange
  · obtain ⟨arguments, hgrammar⟩ := exists_grammar h
    exact ⟨wordInstance :: .decimal inst :: arguments,
      parseArguments_ok.2 (.inr ⟨_, _, rfl, denotes_decimal inst, hgrammar⟩)⟩

end Tools

end VirtUsb
