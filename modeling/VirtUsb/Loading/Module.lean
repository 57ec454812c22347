/-
# The loading of the module

`kernel/src/virtusb_module.c`, the registrations of `kernel/src/virtusb_control.c`, and the
platform driver of `kernel/src/virtusb_hcd.c`.  What the functions take from the kernel, and
what they give back, is put on record in `ModuleState.trace`; `Outcomes` says which of the calls
that can fail do.  The state is that of the module and the static variables of the three
files.

The driver core is as the source relies on it: `platform_device_add` binds the device by
`virtusb_hcd_platform_probe` and adds it also if that fails, and
`platform_device_unregister` calls `virtusb_hcd_platform_remove` of a device that is bound.
-/

import VirtUsb.Lib.Nesting
import VirtUsb.Module.Lifecycle
import VirtUsb.Module.Shutdown

namespace VirtUsb

namespace Loading

open Nesting

/-- What is taken from the kernel; a host controller is named by its instance. -/
inductive Resource
  /-- `virtusb_object_manager_init`. -/
  | objectManager
  /-- The `kcalloc` of `virtusb_hcd_devices`. -/
  | hcdDevices
  /-- `alloc_chrdev_region` and `class_create`. -/
  | chrdevRegion
  | controlClass
  /-- `platform_driver_register`. -/
  | platformDriver
  /-- `platform_device_alloc` and `platform_device_add`. -/
  | platformDevice (i : ℕ)
  | platformDeviceAdded (i : ℕ)
  /-- `usb_create_hcd` and `usb_add_hcd`. -/
  | usbHcd (i : ℕ)
  | usbHcdAdded (i : ℕ)
  /-- `cdev_add` and `device_create`. -/
  | cdev (i : ℕ)
  | device (i : ℕ)
  deriving DecidableEq

/-- What the calls return that can fail. -/
structure Outcomes where
  kcalloc : Bool := true
  allocChrdevRegion : Except Errno ℕ := .ok 0
  classCreate : Except Errno Unit := .ok ()
  platformDriverRegister : Except Errno Unit := .ok ()
  platformDeviceAlloc : ℕ → Bool := fun _ => true
  platformDeviceAddData : ℕ → Except Errno Unit := fun _ => .ok ()
  platformDeviceAdd : ℕ → Except Errno Unit := fun _ => .ok ()
  usbCreateHcd : ℕ → Bool := fun _ => true
  usbAddHcd : ℕ → Except Errno Unit := fun _ => .ok ()
  cdevAdd : ℕ → Except Errno Unit := fun _ => .ok ()
  deviceCreate : ℕ → Except Errno Unit := fun _ => .ok ()

/-- `struct virtusb_control`: `hcd` and `device` say whether the pointers are set. -/
structure Control where
  hcd : Bool := false
  devt : ℕ := 0
  device : Bool := false
  active : Bool := false
  deriving DecidableEq

/-- A platform device: whether its driver is bound to it, whether its driver data is set, and
the control instance of its host controller. -/
structure Instance where
  bound : Bool := false
  drvdata : Bool := false
  control : Control := {}
  deriving DecidableEq

/-- The world, what was taken from the kernel and given back, and the variables of the module. -/
structure ModuleState where
  world : World
  trace : List (Act Resource) := []
  /-- `virtusb_control_base_devt`, `_class` and `_instance_count`. -/
  controlBaseDevt : ℕ := 0
  controlClass : Bool := false
  controlInstanceCount : ℕ := 0
  /-- `virtusb_hcd_devices`, which names platform devices by their ids. -/
  hcdDevices : Option (ℕ → Option ℕ) := none
  hcdCreatedCount : ℕ := 0
  instances : ℕ → Instance := fun _ => {}
  /-- Whether the `WARN_ON` of `virtusb_object_manager_exit` fired. -/
  warned : Bool := false

/-- `VIRTUSB_MAX_HCD_COUNT` and `VIRTUSB_ROOT_HUB_PORTS`. -/
def maxHcdCount : ℕ := 31
/-- The number of ports of every root hub. -/
def rootHubPorts : ℕ := 31

namespace ModuleState

variable (s : ModuleState) (o : Outcomes) (i : ℕ)

/-- The module before it is loaded. -/
def initial : ModuleState := { world := World.loaded }

/-- A resource is taken. -/
def take (r : Resource) : ModuleState := { s with trace := s.trace ++ [.take r] }

/-- A resource is given back. -/
def give (r : Resource) : ModuleState := { s with trace := s.trace ++ [.give r] }

/-- What is held, the last one taken first. -/
def held : Option (List Resource) := Nesting.held [] s.trace

/-- The instance `i` is overwritten. -/
def setInstance (x : Instance) : ModuleState :=
  { s with instances := Function.update s.instances i x }

/-- The control instance of `i` is overwritten. -/
def setControl (x : Control) : ModuleState := s.setInstance i { s.instances i with control := x }

/-! ### The object manager -/

/-- `virtusb_object_manager_init`. -/
def objectManagerInit : ModuleState :=
  { s.take .objectManager with world := { s.world with nextObjectId := 1 } }

/-- `virtusb_object_manager_exit`. -/
def objectManagerExit : ModuleState :=
  { s.give .objectManager with
    world := { s.world with objectTable := fun _ => none }
    warned := s.warned ||
      (List.range s.world.nextObjectId).any fun id => (s.world.objectTable id).isSome }

/-! ### The control plane -/

/-- `virtusb_control_register`. -/
def controlRegister (instanceCount : ℕ) : ModuleState × Except Errno Unit :=
  if instanceCount = 0 then (s, .error .EINVAL)
  else if s.controlClass then (s, .error .EBUSY)
  else
    match o.allocChrdevRegion with
    | .error e => (s, .error e)
    | .ok devt =>
        let region := { s.take .chrdevRegion with controlBaseDevt := devt }
        match o.classCreate with
        | .error e =>
            ({ region.give .chrdevRegion with controlClass := false, controlBaseDevt := 0 },
              .error e)
        | .ok () =>
            ({ region.take .controlClass with
                controlClass := true
                controlInstanceCount := instanceCount }, .ok ())

/-- `virtusb_control_unregister`. -/
def controlUnregister : ModuleState :=
  if !s.controlClass then s
  else
    { ({ s.give .controlClass with controlClass := false }).give .chrdevRegion with
      controlBaseDevt := 0
      controlInstanceCount := 0 }

/-- `virtusb_control_instance_create`. -/
def controlInstanceCreate : ModuleState × Except Errno Unit :=
  if !s.controlClass then (s, .error .ENODEV)
  else if i ≥ s.controlInstanceCount then (s, .error .EINVAL)
  else
    let control : Control := { hcd := true, devt := s.controlBaseDevt + i }
    let cleared : Control := { control with hcd := false, devt := 0 }
    match o.cdevAdd i with
    | .error e => (s.setControl i cleared, .error e)
    | .ok () =>
        match o.deviceCreate i with
        | .error e => (((s.take (.cdev i)).give (.cdev i)).setControl i cleared, .error e)
        | .ok () =>
            (((s.take (.cdev i)).take (.device i)).setControl i
              { control with device := true, active := true }, .ok ())

/-- `virtusb_control_instance_destroy`. -/
def controlInstanceDestroy : ModuleState :=
  if !(s.instances i).control.active then s
  else ((s.give (.device i)).give (.cdev i)).setControl i {}

/-! ### The platform driver -/

/-- `virtusb_hcd_platform_probe`.  The memory of a host controller is zeroed when it is
created. -/
def hcdPlatformProbe (portCount : Option ℕ) : ModuleState × Except Errno Unit :=
  match portCount with
  | none => (s, .error .EINVAL)
  | some portCount =>
      if portCount = 0 ∨ portCount > maxHubPorts then (s, .error .EINVAL)
      else if !o.usbCreateHcd i then (s, .error .ENOMEM)
      else
        let created := { (s.take (.usbHcd i)).setControl i {} with
          world := ({ s.world with topo := s.world.topo.setHub i {} }).setBackend i {} }
        match hubInit i portCount with
        | .error e => (created.give (.usbHcd i), .error e)
        | .ok hub =>
            let ready := { created.setInstance i { created.instances i with drvdata := true } with
              world := { created.world with topo := created.world.topo.setHub i hub } }
            match o.usbAddHcd i with
            | .error e =>
                ((ready.setInstance i { ready.instances i with drvdata := false }).give (.usbHcd i),
                  .error e)
            | .ok () =>
                let added := { ready.take (.usbHcdAdded i) with
                  world := { ready.world with
                    topo := ready.world.topo.hubSetStatusChangedCallback i true } }
                match added.controlInstanceCreate o i with
                | (failed, .error e) =>
                    let removed := failed.give (.usbHcdAdded i)
                    ((removed.setInstance i { removed.instances i with drvdata := false }).give
                      (.usbHcd i), .error e)
                | (done, .ok ()) => (done, .ok ())

/-- `virtusb_hcd_platform_remove`. -/
def hcdPlatformRemove : ModuleState :=
  if !(s.instances i).drvdata then s
  else
    let closed := s.controlInstanceDestroy i
    let stopped := { closed with
      world := ({ closed.world with
        topo := closed.world.topo.hubSetStatusChangedCallback i false }).backendStop i }
    let removed := stopped.give (.usbHcdAdded i)
    (removed.setInstance i { removed.instances i with drvdata := false }).give (.usbHcd i)

/-- `platform_device_add` while the driver is registered. -/
def platformDeviceAdd (portCount : ℕ) : ModuleState × Except Errno Unit :=
  match o.platformDeviceAdd i with
  | .error e => (s, .error e)
  | .ok () =>
      match (s.take (.platformDeviceAdded i)).hcdPlatformProbe o i (some portCount) with
      | (failed, .error _) => (failed, .ok ())
      | (probed, .ok ()) =>
          (probed.setInstance i { probed.instances i with bound := true }, .ok ())

/-- `platform_device_unregister`. -/
def platformDeviceUnregister : ModuleState :=
  let released :=
    if (s.instances i).bound then
      (s.hcdPlatformRemove i).setInstance i
        { (s.hcdPlatformRemove i).instances i with bound := false }
    else s
  (released.give (.platformDeviceAdded i)).give (.platformDevice i)

/-- `virtusb_hcd_create`. -/
def hcdCreate (portCount : ℕ) : ModuleState × Except Errno ℕ :=
  if portCount = 0 ∨ portCount > maxHubPorts then (s, .error .EINVAL)
  else if !o.platformDeviceAlloc i then (s, .error .ENOMEM)
  else
    let allocated := (s.take (.platformDevice i)).setInstance i {}
    match o.platformDeviceAddData i with
    | .error e => (allocated.give (.platformDevice i), .error e)
    | .ok () =>
        match allocated.platformDeviceAdd o i portCount with
        | (failed, .error e) => (failed.give (.platformDevice i), .error e)
        | (added, .ok ()) =>
            if !(added.instances i).drvdata then (added.platformDeviceUnregister i, .error .ENODEV)
            else (added, .ok i)

/-- `virtusb_hcd_destroy`. -/
def hcdDestroy (pdev : Option ℕ) : ModuleState :=
  match pdev with
  | none => s
  | some i => s.platformDeviceUnregister i

/-! ### The module -/

/-- An entry of `virtusb_hcd_devices`. -/
def hcdDevice : Option ℕ := s.hcdDevices.bind fun devices => devices i

/-- An entry of `virtusb_hcd_devices` is written, if there is the array. -/
def setHcdDevice (pdev : Option ℕ) : ModuleState :=
  { s with hcdDevices := s.hcdDevices.map fun devices => Function.update devices i pdev }

/-- The loop of `virtusb_module_destroy_hcds`, whose counter is the number of host
controllers. -/
def destroyHcds : ℕ → ModuleState → ModuleState
  | 0, s => s
  | n + 1, s =>
      let counted := { s with hcdCreatedCount := n }
      destroyHcds n ((counted.hcdDestroy (counted.hcdDevice n)).setHcdDevice n none)

/-- `virtusb_module_destroy_hcds`. -/
def moduleDestroyHcds : ModuleState := destroyHcds s.hcdCreatedCount s

/-- The loop of `virtusb_module_init` from instance `i` on, with `fuel` instances to go. -/
def createHcds (o : Outcomes) : ℕ → ℕ → ModuleState → ModuleState × Except Errno Unit
  | 0, _, s => (s, .ok ())
  | fuel + 1, i, s =>
      match s.hcdCreate o i rootHubPorts with
      | (failed, .error e) => (failed.setHcdDevice i none, .error e)
      | (created, .ok pdev) =>
          createHcds o fuel (i + 1)
            { created.setHcdDevice i (some pdev) with
              hcdCreatedCount := created.hcdCreatedCount + 1 }

/-- The labels at the end of `virtusb_module_init`, from `free_hcd_devices` back to
`destroy_hcds`. -/
def freeHcdDevices : ModuleState :=
  { s.give .hcdDevices with hcdDevices := none }.objectManagerExit

/-- The label `unregister_control`, and those after it. -/
def unregisterControl : ModuleState := s.controlUnregister.freeHcdDevices

/-- The label `destroy_hcds`, and those after it. -/
def destroyAll : ModuleState := (s.moduleDestroyHcds.give .platformDriver).unregisterControl

/-- `virtusb_module_init`. -/
def moduleInit (hcdCount : ℕ) : ModuleState × Except Errno Unit :=
  if hcdCount = 0 ∨ hcdCount > maxHcdCount then (s, .error .EINVAL)
  else
    let managed := s.objectManagerInit
    if !o.kcalloc then (managed.objectManagerExit, .error .ENOMEM)
    else
      let allocated := { managed.take .hcdDevices with hcdDevices := some fun _ => none }
      match allocated.controlRegister o hcdCount with
      | (failed, .error e) => (failed.freeHcdDevices, .error e)
      | (registered, .ok ()) =>
          match o.platformDriverRegister with
          | .error e => (registered.unregisterControl, .error e)
          | .ok () =>
              match createHcds o hcdCount 0 (registered.take .platformDriver) with
              | (failed, .error e) => (failed.destroyAll, .error e)
              | (loaded, .ok ()) => (loaded, .ok ())

/-- `virtusb_module_exit`, with `fuel` passes of the loop of `virtusb_device_shutdown_all` at
most. -/
def moduleExit (fuel : ℕ) : Option ModuleState :=
  (World.deviceShutdownAll fuel s.world).map fun w => ({ s with world := w } : ModuleState).destroyAll

end ModuleState

end Loading

end VirtUsb
