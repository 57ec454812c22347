/-
# A module is loaded as a whole, or nothing is left of it
-/

import VirtUsb.Loading.Module

namespace VirtUsb

namespace Loading

open Nesting

/-! ### What is held -/

namespace Resource

/-- What a host controller holds, the last one taken first. -/
def ofInstance (i : ℕ) : List Resource :=
  [.device i, .cdev i, .usbHcdAdded i, .usbHcd i, .platformDeviceAdded i, .platformDevice i]

/-- What the module holds with `n` host controllers. -/
def loaded : ℕ → List Resource
  | 0 => [.platformDriver, .controlClass, .chrdevRegion, .hcdDevices, .objectManager]
  | n + 1 => ofInstance n ++ loaded n

/-- A host controller that does not exist holds nothing. -/
theorem notMem_loaded {r : Resource} {i n : ℕ} (hr : r ∈ ofInstance i) (hi : n ≤ i) :
    r ∉ loaded n := by
  induction n with
  | zero =>
      simp only [ofInstance, List.mem_cons, List.not_mem_nil, or_false] at hr
      rcases hr with rfl | rfl | rfl | rfl | rfl | rfl <;> simp [loaded]
  | succ n ih =>
      have hne : n ≠ i := by omega
      have hrest := ih (by omega)
      simp only [ofInstance, List.mem_cons, List.not_mem_nil, or_false] at hr
      rcases hr with rfl | rfl | rfl | rfl | rfl | rfl <;>
        simpa [loaded, ofInstance, hne.symm] using hrest

end Resource

/-- The first error that the creation of host controller `i` meets.  What fails while the
driver is bound shows as a device without driver data. -/
def Outcomes.instanceError (o : Outcomes) (i : ℕ) : Option Errno :=
  if !o.platformDeviceAlloc i then some .ENOMEM
  else
    match o.platformDeviceAddData i with
    | .error e => some e
    | .ok () =>
        match o.platformDeviceAdd i with
        | .error e => some e
        | .ok () =>
            if o.usbCreateHcd i && (o.usbAddHcd i).isOk && (o.cdevAdd i).isOk &&
                (o.deviceCreate i).isOk then none
            else some .ENODEV

/-- No host controller is there. -/
def Instance.Vacant (x : Instance) : Prop :=
  x.bound = false ∧ x.drvdata = false ∧ x.control.active = false

/-- The root hub of a new host controller. -/
def rootHub (i : ℕ) : Hub := (hubInit i rootHubPorts).toOption.getD {}

/-- A root hub can be initialised. -/
theorem hubInit_rootHub (i : ℕ) : hubInit i rootHubPorts = .ok (rootHub i) := rfl

/-- The number of its ports is one a hub may have. -/
theorem rootHubPorts_valid : ¬(rootHubPorts = 0 ∨ rootHubPorts > maxHubPorts) := by decide

namespace ModuleState

variable {s : ModuleState} {o : Outcomes} {i : ℕ}

/-- The world with a new host controller, as the driver leaves it. -/
def withHub (w : World) (i : ℕ) (hub : Hub) : World :=
  { w with
    topo := w.topo.setHub i hub
    backends := Function.update w.backends i {} }

/-- What an attempt to create a host controller leaves of the world. -/
def Attempted (i : ℕ) (w w' : World) : Prop :=
  w' = w ∨ ∃ hub, w' = withHub w i hub ∧
    (hub = rootHub i ∨ hub = { rootHub i with statusChanged := true })

/-- **A host controller is created** if nothing fails. -/
theorem hcdCreate_ok (hclass : s.controlClass = true) (hi : i < s.controlInstanceCount)
    (ho : o.instanceError i = none) :
    s.hcdCreate o i rootHubPorts =
      ({ s with
          world := withHub s.world i { rootHub i with statusChanged := true }
          trace := s.trace ++ (Resource.ofInstance i).reverse.map .take
          instances := Function.update s.instances i
            ⟨true, true, ⟨true, s.controlBaseDevt + i, true, true⟩⟩ }, .ok i) := by
  rw [Outcomes.instanceError] at ho
  split at ho
  · simp at ho
  rename_i halloc
  split at ho
  · simp at ho
  rename_i hdata
  split at ho
  · simp at ho
  rename_i hadd
  split at ho
  swap
  · simp at ho
  rename_i hall
  simp only [Bool.and_eq_true] at hall
  obtain ⟨⟨⟨hcreate, haddHcd⟩, hcdev⟩, hdevice⟩ := hall
  rcases haddHcd' : o.usbAddHcd i with e | _
  · rw [haddHcd'] at haddHcd
    exact absurd haddHcd (by simp [Except.isOk, Except.toBool])
  rcases hcdev' : o.cdevAdd i with e | _
  · rw [hcdev'] at hcdev
    exact absurd hcdev (by simp [Except.isOk, Except.toBool])
  rcases hdevice' : o.deviceCreate i with e | _
  · rw [hdevice'] at hdevice
    exact absurd hdevice (by simp [Except.isOk, Except.toBool])
  simp [hcdCreate, platformDeviceAdd, hcdPlatformProbe, controlInstanceCreate, take, setInstance,
    setControl, halloc, hdata, hadd, hcreate, haddHcd', hcdev', hdevice', hubInit_rootHub, hclass,
    Nat.not_le.2 hi, Resource.ofInstance, withHub, World.setBackend, Topology.setHub,
    Topology.hubSetStatusChangedCallback, rootHubPorts_valid]

/-- **A host controller that cannot be created** leaves nothing behind: what was taken for it
is given back in reverse order. -/
theorem hcdCreate_error {e : Errno} (hclass : s.controlClass = true)
    (hi : i < s.controlInstanceCount) (hvacant : (s.instances i).Vacant)
    (ho : o.instanceError i = some e) :
    ∃ rs x w, rs <+: (Resource.ofInstance i).reverse ∧ Instance.Vacant x ∧ Attempted i s.world w ∧
      s.hcdCreate o i rootHubPorts =
        ({ s with
            world := w
            trace := s.trace ++ (rs.map .take ++ rs.reverse.map .give)
            instances := Function.update s.instances i x }, .error e) := by
  rw [Outcomes.instanceError] at ho
  split at ho
  · rename_i halloc
    obtain rfl := Option.some.inj ho
    refine ⟨[], s.instances i, s.world, List.nil_prefix, hvacant, .inl rfl, ?_⟩
    simp only [hcdCreate, if_neg rootHubPorts_valid, halloc, if_true, Function.update_eq_self,
      List.map_nil, List.reverse_nil, List.append_nil]
  rename_i halloc
  split at ho
  · rename_i hdata
    obtain rfl := Option.some.inj ho
    refine ⟨[.platformDevice i], {}, s.world, ⟨_, rfl⟩, ⟨rfl, rfl, rfl⟩, .inl rfl, ?_⟩
    simp [hcdCreate, rootHubPorts_valid, halloc, hdata, take, give, setInstance]
  rename_i hdata
  split at ho
  · rename_i hadd
    obtain rfl := Option.some.inj ho
    refine ⟨[.platformDevice i], {}, s.world, ⟨_, rfl⟩, ⟨rfl, rfl, rfl⟩, .inl rfl, ?_⟩
    simp [hcdCreate, platformDeviceAdd, rootHubPorts_valid, halloc, hdata, hadd, take, give,
      setInstance]
  rename_i hadd
  split at ho
  · simp at ho
  rename_i hall
  obtain rfl := Option.some.inj ho
  rcases hcreate : o.usbCreateHcd i with _ | _
  · refine ⟨[.platformDevice i, .platformDeviceAdded i], {}, s.world, ⟨_, rfl⟩, ⟨rfl, rfl, rfl⟩,
      .inl rfl, ?_⟩
    simp [hcdCreate, platformDeviceAdd, hcdPlatformProbe, platformDeviceUnregister,
      rootHubPorts_valid, halloc, hdata, hadd, hcreate, take, give, setInstance]
  rcases haddHcd : o.usbAddHcd i with e | _
  · refine ⟨[.platformDevice i, .platformDeviceAdded i, .usbHcd i], {}, withHub s.world i (rootHub i),
      ⟨_, rfl⟩, ⟨rfl, rfl, rfl⟩, .inr ⟨_, rfl, .inl rfl⟩, ?_⟩
    simp [hcdCreate, platformDeviceAdd, hcdPlatformProbe, platformDeviceUnregister,
      hubInit_rootHub, rootHubPorts_valid, halloc, hdata, hadd, hcreate, haddHcd, take, give,
      setInstance, setControl, withHub, World.setBackend, Topology.setHub]
  rcases hcdev : o.cdevAdd i with e | _
  · refine ⟨[.platformDevice i, .platformDeviceAdded i, .usbHcd i, .usbHcdAdded i], {},
      withHub s.world i { rootHub i with statusChanged := true }, ⟨_, rfl⟩, ⟨rfl, rfl, rfl⟩,
      .inr ⟨_, rfl, .inr rfl⟩, ?_⟩
    simp [hcdCreate, platformDeviceAdd, hcdPlatformProbe, platformDeviceUnregister,
      controlInstanceCreate, hubInit_rootHub, rootHubPorts_valid, halloc, hdata, hadd, hcreate,
      haddHcd, hcdev, hclass, Nat.not_le.2 hi, take, give, setInstance, setControl, withHub,
      World.setBackend, Topology.setHub, Topology.hubSetStatusChangedCallback]
  rcases hdevice : o.deviceCreate i with e | _
  · refine ⟨[.platformDevice i, .platformDeviceAdded i, .usbHcd i, .usbHcdAdded i, .cdev i], {},
      withHub s.world i { rootHub i with statusChanged := true }, ⟨_, rfl⟩, ⟨rfl, rfl, rfl⟩,
      .inr ⟨_, rfl, .inr rfl⟩, ?_⟩
    simp [hcdCreate, platformDeviceAdd, hcdPlatformProbe, platformDeviceUnregister,
      controlInstanceCreate, hubInit_rootHub, rootHubPorts_valid, halloc, hdata, hadd, hcreate,
      haddHcd, hcdev, hdevice, hclass, Nat.not_le.2 hi, take, give, setInstance, setControl,
      withHub, World.setBackend, Topology.setHub, Topology.hubSetStatusChangedCallback]
  · exact absurd (by simp [hcreate, haddHcd, hcdev, hdevice, Except.isOk, Except.toBool]) hall

/-! ### Between two host controllers -/

/-- What holds while `k` of `n` host controllers exist. -/
structure Live (n k : ℕ) (s : ModuleState) : Prop where
  held : s.held = some (Resource.loaded k)
  class_ : s.controlClass = true
  instanceCount : s.controlInstanceCount = n
  hcdDevices : s.hcdDevices = some fun i => if i < k then some i else none
  created : s.hcdCreatedCount = k
  running : ∀ i < k, s.instances i = ⟨true, true, ⟨true, s.controlBaseDevt + i, true, true⟩⟩
  vacant : ∀ i, k ≤ i → (s.instances i).Vacant
  warned : s.warned = false

/-- The world of a module that was not used yet: `k` of `n` host controllers exist, and the
attempts at others may have left a hub. -/
def Untouched (n k : ℕ) (w : World) : Prop :=
  ∃ hubs : HcdId → Hub,
    (∀ h, hubs h = {} ∨ hubs h = rootHub h ∨
      h < n ∧ hubs h = { rootHub h with statusChanged := true }) ∧
    (∀ h < k, hubs h = { rootHub h with statusChanged := true }) ∧
    w = { World.loaded with topo := ⟨hubs, fun _ => {}, []⟩ }

variable {n k : ℕ}

/-- A new root hub in a world whose hubs only were written to. -/
theorem withHub_untouched (hubs : HcdId → Hub) (i : ℕ) (hub : Hub) :
    withHub { World.loaded with topo := ⟨hubs, fun _ => {}, []⟩ } i hub =
      { World.loaded with topo := ⟨Function.update hubs i hub, fun _ => {}, []⟩ } := by
  simp [withHub, Topology.setHub, World.loaded]

/-- An attempt leaves the other hubs as they were. -/
theorem Untouched.withHub {w : World} (hw : Untouched n k w) (hk : k < n) {hub : Hub}
    (hhub : hub = rootHub k ∨ hub = { rootHub k with statusChanged := true }) :
    Untouched n k (withHub w k hub) ∧
      (hub = { rootHub k with statusChanged := true } → Untouched n (k + 1) (withHub w k hub)) := by
  obtain ⟨hubs, hall, hlive, rfl⟩ := hw
  have hkinds : ∀ h, Function.update hubs k hub h = {} ∨ Function.update hubs k hub h = rootHub h ∨
      h < n ∧ Function.update hubs k hub h = { rootHub h with statusChanged := true } := by
    intro h
    rcases eq_or_ne h k with rfl | hne
    · rw [Function.update_self]
      exact .inr (hhub.imp_right fun heq => ⟨hk, heq⟩)
    · rw [Function.update_of_ne hne]
      exact hall h
  have hbelow : ∀ h < k, Function.update hubs k hub h =
      { rootHub h with statusChanged := true } := by
    intro h hh
    rw [Function.update_of_ne (Nat.ne_of_lt hh)]
    exact hlive h hh
  refine ⟨⟨_, hkinds, hbelow, withHub_untouched hubs k hub⟩, fun heq =>
    ⟨_, hkinds, fun h hh => ?_, withHub_untouched hubs k hub⟩⟩
  rcases Nat.lt_succ_iff_lt_or_eq.1 hh with hlow | rfl
  · exact hbelow h hlow
  · rw [Function.update_self, heq]

/-- The creation of one host controller leaves the later ones untouched. -/
theorem Untouched.attempted {w w' : World} (hw : Untouched n k w) (hk : k < n)
    (ha : Attempted k w w') : Untouched n k w' := by
  rcases ha with rfl | ⟨hub, rfl, hhub⟩
  · exact hw
  · exact (hw.withHub hk hhub).1

/-- An attempt that failed. -/
theorem Live.hcdCreate_error {e : Errno} (hs : Live n k s) (hk : k < n)
    (hw : Untouched n k s.world) (ho : o.instanceError k = some e) :
    ∃ s', s.hcdCreate o k rootHubPorts = (s', .error e) ∧
      s'.controlBaseDevt = s.controlBaseDevt ∧ Live n k (s'.setHcdDevice k none) ∧
      Untouched n k (s'.setHcdDevice k none).world := by
  obtain ⟨rs, x, w, hpart, hx, hattempt, hcreate⟩ :=
    ModuleState.hcdCreate_error hs.class_ (hs.instanceCount ▸ hk) (hs.vacant k le_rfl) ho
  refine ⟨_, hcreate, rfl, ⟨?_, hs.class_, hs.instanceCount, ?_, hs.created, fun i hi => ?_,
    fun i hi => ?_, hs.warned⟩, hw.attempted hk hattempt⟩
  · have hheld : Nesting.held [] s.trace = some (Resource.loaded k) := hs.held
    have hnew : ∀ r ∈ rs, r ∉ Resource.loaded k := fun r hr =>
      Resource.notMem_loaded (List.mem_reverse.1 (hpart.subset hr)) le_rfl
    have hnodup : rs.Nodup := by
      refine hpart.sublist.nodup (List.nodup_reverse.2 ?_)
      simp [Resource.ofInstance]
    show Nesting.held [] (s.trace ++ _) = _
    rw [held_append, hheld]
    exact held_undone hnew hnodup
  · simp only [setHcdDevice, hs.hcdDevices, Option.map_some, Option.some.injEq]
    funext i
    rcases eq_or_ne i k with rfl | hne
    · rw [Function.update_self, if_neg (Nat.lt_irrefl i)]
    · rw [Function.update_of_ne hne]
  · have hne : i ≠ k := by omega
    exact (Function.update_of_ne hne x s.instances).trans (hs.running i hi)
  · show (Function.update s.instances k x i).Vacant
    rcases eq_or_ne i k with rfl | hne
    · rwa [Function.update_self]
    · rw [Function.update_of_ne hne]
      exact hs.vacant i hi

/-- An attempt that did not fail. -/
theorem Live.hcdCreate_ok (hs : Live n k s) (hk : k < n) (ho : o.instanceError k = none) :
    ∃ s', s.hcdCreate o k rootHubPorts = (s', .ok k) ∧
      s'.world = withHub s.world k { rootHub k with statusChanged := true } ∧
      s'.controlBaseDevt = s.controlBaseDevt ∧
      Live n (k + 1) { s'.setHcdDevice k (some k) with
        hcdCreatedCount := s'.hcdCreatedCount + 1 } := by
  have hcreate := ModuleState.hcdCreate_ok hs.class_ (hs.instanceCount ▸ hk) ho
  refine ⟨_, hcreate, rfl, rfl, ⟨?_, hs.class_, hs.instanceCount, ?_, congrArg (· + 1) hs.created,
    fun i hi => ?_, fun i hi => ?_, hs.warned⟩⟩
  · have hheld : Nesting.held [] s.trace = some (Resource.loaded k) := hs.held
    have hnew : ∀ r ∈ (Resource.ofInstance k).reverse, r ∉ Resource.loaded k := fun r hr =>
      Resource.notMem_loaded (List.mem_reverse.1 hr) le_rfl
    have hnodup : (Resource.ofInstance k).reverse.Nodup := by simp [Resource.ofInstance]
    show Nesting.held [] (s.trace ++ _) = _
    rw [held_append, hheld]
    exact held_takes hnew hnodup
  · simp only [setHcdDevice, hs.hcdDevices, Option.map_some, Option.some.injEq]
    funext i
    rcases eq_or_ne i k with rfl | hne
    · rw [Function.update_self, if_pos (Nat.lt_succ_self i)]
    · rw [Function.update_of_ne hne]
      have hiff : i < k ↔ i < k + 1 := by omega
      exact if_congr hiff rfl rfl
  · show Function.update s.instances k _ i = _
    rcases eq_or_ne i k with rfl | hne
    · rw [Function.update_self]
      rfl
    · rw [Function.update_of_ne hne]
      exact hs.running i (by omega)
  · have hne : i ≠ k := by omega
    show (Function.update s.instances k _ i).Vacant
    rw [Function.update_of_ne hne]
    exact hs.vacant i (by omega)

/-- **The loop** creates host controllers until one cannot be created. -/
theorem Live.createHcds {fuel : ℕ} (hs : Live n k s) (hk : k + fuel = n)
    (hw : Untouched n k s.world) :
    ∃ s' j, Live n j s' ∧ Untouched n j s'.world ∧ j ≤ n ∧
      s'.controlBaseDevt = s.controlBaseDevt ∧
      createHcds o fuel k s = (s', match (List.range' k fuel).findSome? o.instanceError with
        | none => .ok ()
        | some e => .error e) ∧
      ((List.range' k fuel).findSome? o.instanceError = none → j = n) := by
  induction fuel generalizing k s with
  | zero => exact ⟨s, k, hs, hw, by omega, rfl, rfl, fun _ => hk⟩
  | succ fuel ih =>
      have hlt : k < n := by omega
      rw [List.range'_succ, List.findSome?_cons]
      rcases ho : o.instanceError k with _ | e
      · obtain ⟨s', hcreate, hworld, hbase, hs'⟩ := hs.hcdCreate_ok hlt ho
        have hw' : Untouched n (k + 1) s'.world := hworld ▸ (hw.withHub hlt (.inr rfl)).2 rfl
        obtain ⟨s'', j, hlive, huntouched, hj, hbase', heq, hall⟩ := ih hs' (by omega) hw'
        refine ⟨s'', j, hlive, huntouched, hj, hbase'.trans hbase, ?_, hall⟩
        rw [ModuleState.createHcds, hcreate]
        exact heq
      · obtain ⟨s', hcreate, hbase, hlive, huntouched⟩ := hs.hcdCreate_error hlt hw ho
        refine ⟨_, k, hlive, huntouched, Nat.le_of_lt hlt, hbase, ?_, fun h => absurd h (by simp)⟩
        rw [ModuleState.createHcds, hcreate]

end ModuleState

end Loading

end VirtUsb
