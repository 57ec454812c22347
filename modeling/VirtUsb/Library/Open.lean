/-
# Opening and closing

`virtusb_open`, `virtusb_close` and `virtusb_get_device_path` of `libvirtusb/src/virtusb.c`.  The
path of an instance is printed to a buffer of 64 bytes, twice; it always fits
(`open_eq`), and it names one instance only (`devicePath_injective`).

What the system makes of a path, and which file is behind a descriptor, are parameters; the
module sees a file when it is closed.
-/

import VirtUsb.Kernel.Control
import VirtUsb.Lib.Numeral
import VirtUsb.Library.Transfer

namespace VirtUsb

namespace Library

open Numeral

/-- The calls of the C library on files, and `calloc`: if it fails, the value of `errno`, `none`
for zero. -/
structure System where
  openPath : List Byte → Except Errno ℤ
  /-- The file behind a descriptor, and the controller on whose node it was opened. -/
  file : ℤ → HcdId × FilePtr
  calloc : Except (Option Errno) Unit := .ok ()
  env : Env := {}

/-- A program: the state that the module is in, and the descriptors that were opened and closed. -/
structure Process where
  world : World
  opened : List ℤ := []
  closed : List ℤ := []

/-- `struct virtusb_handle`. -/
structure OpenHandle extends Handle where
  inst : BitVec 32
  devicePath : List Byte

/-- The errors of `virtusb_open` for a caller that passes a place for the handle. -/
inductive OpenError
  | ENAMETOOLONG
  | errno (e : Errno)
  deriving DecidableEq, Repr

/-- `VIRTUSB_DEVICE_PATH_MAX`. -/
def devicePathMax : ℕ := 64

/-- `snprintf` of a text: what the buffer contains, and the length of the text. -/
def snprintf (size : ℕ) (text : List Byte) : List Byte × ℕ := (text.take (size - 1), text.length)

/-- `/dev/virtusb%u`. -/
def devicePath (inst : ℕ) : List Byte :=
  [0x2f, 0x64, 0x65, 0x76, 0x2f, 0x76, 0x69, 0x72, 0x74, 0x75, 0x73, 0x62] ++ decimal inst

variable (sys : System) (p : Process)

/-- `open` of a path that opens. -/
def Process.opening (fd : ℤ) : Process := { p with opened := p.opened ++ [fd] }

/-- `close`. -/
def System.close (fd : ℤ) : Process :=
  { p with
    world := p.world.controlRelease (sys.file fd).1 (sys.file fd).2
    closed := p.closed ++ [fd] }

/-- `virtusb_open`. -/
def virtusbOpen (inst : BitVec 32) : Process × Except OpenError OpenHandle :=
  let printed := snprintf devicePathMax (devicePath inst.toNat)
  if printed.2 ≥ devicePathMax then (p, .error .ENAMETOOLONG)
  else
    match sys.openPath printed.1 with
    | .error e => (p, .error (.errno e))
    | .ok fd =>
        let q := p.opening fd
        match sys.calloc with
        | .error savedErrno => (sys.close q fd, .error (.errno (savedErrno.getD .ENOMEM)))
        | .ok () =>
            let copied := snprintf devicePathMax printed.1
            if copied.2 ≥ devicePathMax then (sys.close q fd, .error .ENAMETOOLONG)
            else (q, .ok { fd, inst, devicePath := copied.1 })

/-- `virtusb_close`; `none` is `NULL`. -/
def virtusbClose (handle : Option OpenHandle) : Process :=
  match handle with
  | none => p
  | some handle => if handle.fd ≥ 0 then sys.close p handle.fd else p

/-- `virtusb_get_device_path`. -/
def getDevicePath (handle : Option OpenHandle) : Option (List Byte) :=
  handle.map OpenHandle.devicePath

/-! ### Paths -/

/-- A path names one instance. -/
theorem devicePath_injective : Function.Injective devicePath := fun _ _ heq =>
  decimal_injective (List.append_cancel_left heq)

/-- No path has more than 22 bytes. -/
theorem length_devicePath_le (inst : BitVec 32) : (devicePath inst.toNat).length ≤ 22 := by
  have hdigits : (decimal inst.toNat).length ≤ 10 :=
    length_decimal_le (by decide) (inst.isLt.trans (by decide))
  rw [devicePath, List.length_append]
  exact Nat.add_le_add_left hdigits 12

/-- What fits the buffer is printed as it is. -/
theorem snprintf_of_lt {text : List Byte} (hlt : text.length < devicePathMax) :
    snprintf devicePathMax text = (text, text.length) := by
  rw [snprintf, List.take_of_length_le (by omega)]

/-- **The path always fits**, so what `virtusb_open` returns is up to `open` and `calloc`. -/
theorem open_eq (inst : BitVec 32) :
    virtusbOpen sys p inst =
      match sys.openPath (devicePath inst.toNat), sys.calloc with
      | .error e, _ => (p, .error (.errno e))
      | .ok fd, .error savedErrno =>
          (sys.close (p.opening fd) fd, .error (.errno (savedErrno.getD .ENOMEM)))
      | .ok fd, .ok () =>
          (p.opening fd, .ok { fd, inst, devicePath := devicePath inst.toNat }) := by
  have hlt : (devicePath inst.toNat).length < devicePathMax :=
    Nat.lt_of_le_of_lt (length_devicePath_le inst) (by decide)
  simp only [virtusbOpen, snprintf_of_lt hlt, ge_iff_le, Nat.not_le.2 hlt, if_false]
  rcases sys.openPath (devicePath inst.toNat) with e | fd
  · rfl
  · rcases sys.calloc with e | _ <;> rfl

end Library

end VirtUsb
