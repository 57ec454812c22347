/-
# A module is loaded as a whole, or nothing is left of it

`virtusb_module_init` takes up to 191 things from the kernel, and any of them can fail.
`module_loads_or_leaves_nothing` says which error the load then reports, and that everything
taken before was given back, in reverse order.  `module_leaves_nothing` says the same of a
module that is loaded, used in any way, and unloaded: nothing of the module is left, no
device and no transfer outlives it, and none is released twice.
-/

import VirtUsb.Loading.Unload

namespace VirtUsb

open Transition

namespace Loading

open Nesting

/-- The first error that the load of `n` host controllers meets. -/
def Outcomes.loadError (o : Outcomes) (n : ℕ) : Option Errno :=
  if n = 0 ∨ n > maxHcdCount then some .EINVAL
  else if !o.kcalloc then some .ENOMEM
  else
    match o.allocChrdevRegion with
    | .error e => some e
    | .ok _ =>
        match o.classCreate with
        | .error e => some e
        | .ok () =>
            match o.platformDriverRegister with
            | .error e => some e
            | .ok () => (List.range n).findSome? o.instanceError

namespace ModuleState

variable {s s' : ModuleState} {o : Outcomes} {n : ℕ}

/-! ### The load -/

/-- The module before its first host controller is created. -/
theorem moduleInit_eq (hn : ¬(n = 0 ∨ n > maxHcdCount)) (halloc : o.kcalloc = true) {devt : ℕ}
    (hregion : o.allocChrdevRegion = .ok devt) (hclass : o.classCreate = .ok ())
    (hdriver : o.platformDriverRegister = .ok ()) :
    ∃ s, Live n 0 s ∧ Untouched n 0 s.world ∧ s.controlBaseDevt = devt ∧
      moduleInit initial o n =
        match createHcds o n 0 s with
        | (failed, .error e) => (failed.destroyAll, .error e)
        | (loaded, .ok ()) => (loaded, .ok ()) := by
  set s : ModuleState :=
    { initial with
      trace := [.take .objectManager, .take .hcdDevices, .take .chrdevRegion,
        .take .controlClass, .take .platformDriver]
      controlBaseDevt := devt
      controlClass := true
      controlInstanceCount := n
      hcdDevices := some fun _ => none } with hs
  refine ⟨s, ⟨rfl, rfl, rfl, ?_, rfl, fun i hi => absurd hi (Nat.not_lt_zero i),
    fun i _ => ⟨rfl, rfl, rfl⟩, rfl⟩,
    ⟨fun _ => {}, fun _ => .inl rfl, fun _ h => absurd h (Nat.not_lt_zero _), rfl⟩, rfl, ?_⟩
  · simp [hs]
  · have hzero : n ≠ 0 := fun h => hn (.inl h)
    simp only [moduleInit, if_neg hn, halloc, controlRegister, hregion, hclass, hdriver, if_neg hzero,
      objectManagerInit, initial, take, hs]
    rfl

/-- A module that was not used yet is in a state that calls reach. -/
theorem Untouched.reachable {w : World} {k : ℕ} (hw : Untouched n k w) : (calls n).Reachable w := by
  obtain ⟨hubs, hall, -, rfl⟩ := hw
  -- the callbacks are installed one after the other
  set upTo : ℕ → HcdId → Hub := fun k h =>
    if h < k then hubs h else { hubs h with statusChanged := false } with hupTo
  have hreach : ∀ k ≤ n, (calls n).Reachable
      { World.loaded with topo := ⟨upTo k, fun _ => {}, []⟩ } := by
    intro k hk
    induction k with
    | zero =>
        refine .init ⟨upTo 0, fun h => ?_, rfl⟩
        simp only [hupTo, Nat.not_lt_zero, if_false]
        rcases hall h with hh | hh | ⟨-, hh⟩
        · exact .inl (by rw [hh])
        · exact .inr ⟨rootHubPorts, by rw [hh]; rfl⟩
        · exact .inr ⟨rootHubPorts, by rw [hh]; rfl⟩
    | succ k ih =>
        have hbefore := ih (Nat.le_of_lt hk)
        rcases hset : (hubs k).statusChanged with _ | _
        · have hsame : upTo (k + 1) = upTo k := by
            funext h
            rcases Nat.lt_trichotomy h k with hlt | rfl | hgt
            · simp only [hupTo, if_pos hlt, if_pos (Nat.lt_succ_of_lt hlt)]
            · simp only [hupTo, if_pos (Nat.lt_succ_self h), if_neg (Nat.lt_irrefl h), ← hset]
            · simp only [hupTo, if_neg (Nat.not_lt.2 (Nat.le_of_lt hgt)),
                if_neg (Nat.not_lt.2 hgt)]
          rwa [hsame]
        · refine hbefore.step (a := .setStatusChangedCallback k true) ?_
          have hnext : upTo (k + 1) =
              Function.update (upTo k) k { upTo k k with statusChanged := true } := by
            funext h
            rcases Nat.lt_trichotomy h k with hlt | rfl | hgt
            · rw [Function.update_of_ne (Nat.ne_of_lt hlt)]
              simp only [hupTo, if_pos hlt, if_pos (Nat.lt_succ_of_lt hlt)]
            · rw [Function.update_self]
              simp only [hupTo, if_pos (Nat.lt_succ_self h), if_neg (Nat.lt_irrefl h), ← hset]
            · rw [Function.update_of_ne (Nat.ne_of_gt hgt)]
              simp only [hupTo, if_neg (Nat.not_lt.2 (Nat.le_of_lt hgt)),
                if_neg (Nat.not_lt.2 hgt)]
          rw [hnext]
          exact if_pos ⟨hk, trivial⟩
  have hlast : upTo n = hubs := by
    funext h
    by_cases hlt : h < n
    · exact if_pos hlt
    · rcases hall h with hh | hh | ⟨hh, -⟩
      · simp only [hupTo, if_neg hlt, hh]
      · simp only [hupTo, if_neg hlt, hh]
        rfl
      · exact absurd hh hlt
  exact hlast ▸ hreach n le_rfl

/-- A module with `n` host controllers that was just loaded. -/
structure Loaded (n devt : ℕ) (s : ModuleState) : Prop where
  held : s.held = some (Resource.loaded n)
  reachable : (calls n).Reachable s.world
  hubs : ∀ h < n, s.world.topo.hubs h = { rootHub h with statusChanged := true }
  instances : ∀ i < n, s.instances i = ⟨true, true, ⟨true, devt + i, true, true⟩⟩
  live : Live n n s

/-- A module that took nothing, or gave all back. -/
theorem unloaded_initial {l : List (Act Resource)} (hl : Nesting.held [] l = some []) :
    Unloaded { initial with trace := l } :=
  ⟨hl, rfl, rfl, rfl, rfl, rfl, fun _ => ⟨rfl, rfl, rfl⟩, fun _ => rfl, rfl⟩

/-- A load that fails leaves the world as it was before any device was created. -/
theorem Live.destroyAll_untouched {k : ℕ} (hs : Live n k s) (hk : k ≤ n)
    (hw : Untouched n k s.world) :
    Unloaded s.destroyAll ∧ s.destroyAll.world.nextDevice = 0 ∧
      s.destroyAll.world.nextTransfer = 0 := by
  have hclosed := (World.steady_of_reachable hw.reachable).closeHcds hk
  obtain ⟨hubs, -, -, hworld⟩ := hw
  have htable : ∀ id, (World.closeHcds k s.world).objectTable id = none := by
    intro id
    rw [hclosed.objectTable, hworld]
    rfl
  obtain ⟨hunloaded, hend⟩ := hs.destroyAll htable
  refine ⟨hunloaded, ?_, ?_⟩
  · rw [hend]
    show (World.closeHcds k s.world).nextDevice = 0
    rw [hclosed.nextDevice, hworld]
    rfl
  · rw [hend]
    show (World.closeHcds k s.world).nextTransfer = 0
    rw [hclosed.nextTransfer, hworld]
    rfl

/-- A load that fails. -/
theorem moduleInit_error {e : Errno} (he : o.loadError n = some e) :
    ∃ s, moduleInit initial o n = (s, .error e) ∧ Unloaded s ∧ s.world.nextDevice = 0 ∧
      s.world.nextTransfer = 0 := by
  rw [Outcomes.loadError] at he
  split at he
  · rename_i hn
    obtain rfl := Option.some.inj he
    exact ⟨initial, if_pos hn, unloaded_initial rfl, rfl, rfl⟩
  rename_i hn
  have hzero : n ≠ 0 := fun h => hn (.inl h)
  rcases halloc : o.kcalloc with _ | _
  · obtain rfl : Errno.ENOMEM = e := by simpa [halloc] using he
    refine ⟨{ initial with trace := [.take .objectManager, .give .objectManager] }, ?_,
      unloaded_initial rfl, rfl, rfl⟩
    simp only [moduleInit, if_neg hn, halloc, Bool.not_false, if_true]
    rfl
  simp only [halloc, Bool.not_true, Bool.false_eq_true, if_false] at he
  rcases hregion : o.allocChrdevRegion with e' | devt
  · obtain rfl : e' = e := by simpa [hregion] using he
    refine ⟨{ initial with trace := [.take .objectManager, .take .hcdDevices,
        .give .hcdDevices, .give .objectManager] }, ?_, unloaded_initial rfl, rfl, rfl⟩
    simp only [moduleInit, if_neg hn, halloc, controlRegister, if_neg hzero, hregion]
    rfl
  rcases hclass : o.classCreate with e' | _
  · obtain rfl : e' = e := by simpa [hregion, hclass] using he
    refine ⟨{ initial with trace := [.take .objectManager, .take .hcdDevices, .take .chrdevRegion,
        .give .chrdevRegion, .give .hcdDevices, .give .objectManager] }, ?_,
      unloaded_initial rfl, rfl, rfl⟩
    simp only [moduleInit, if_neg hn, halloc, controlRegister, if_neg hzero, hregion, hclass]
    rfl
  rcases hdriver : o.platformDriverRegister with e' | _
  · obtain rfl : e' = e := by simpa [hregion, hclass, hdriver] using he
    refine ⟨{ initial with trace := [.take .objectManager, .take .hcdDevices, .take .chrdevRegion,
        .take .controlClass, .give .controlClass, .give .chrdevRegion, .give .hcdDevices,
        .give .objectManager] }, ?_, unloaded_initial rfl, rfl, rfl⟩
    simp only [moduleInit, if_neg hn, halloc, controlRegister, if_neg hzero, hregion, hclass,
      hdriver]
    rfl
  obtain ⟨s₀, hlive, hworld, -, heq⟩ := moduleInit_eq hn halloc hregion hclass hdriver
  obtain ⟨s, j, hlive', hworld', hj, -, hloop, -⟩ :=
    hlive.createHcds (o := o) (Nat.zero_add n) hworld
  have hfirst : (List.range' 0 n).findSome? o.instanceError = some e := by
    simpa [hregion, hclass, hdriver, List.range_eq_range'] using he
  rw [hloop, hfirst] at heq
  exact ⟨_, heq, hlive'.destroyAll_untouched hj hworld'⟩

/-- A load that does not fail. -/
theorem moduleInit_ok (he : o.loadError n = none) :
    ∃ s devt, moduleInit initial o n = (s, .ok ()) ∧ o.allocChrdevRegion = .ok devt ∧
      Loaded n devt s := by
  rw [Outcomes.loadError] at he
  split at he
  · simp at he
  rename_i hn
  split at he
  · simp at he
  rename_i halloc
  split at he
  · simp at he
  rename_i devt hregion
  split at he
  · simp at he
  rename_i hclass
  split at he
  · simp at he
  rename_i hdriver
  obtain ⟨s₀, hlive, hworld, hbase, heq⟩ :=
    moduleInit_eq hn (by simpa using halloc) hregion hclass hdriver
  obtain ⟨s, j, hlive', hworld', -, hbase', hloop, hall⟩ :=
    hlive.createHcds (o := o) (Nat.zero_add n) hworld
  rw [List.range_eq_range'] at he
  rw [hloop, he] at heq
  obtain rfl := hall he
  have hreach := hworld'.reachable
  obtain ⟨hubs, -, hrunning, hsworld⟩ := hworld'
  refine ⟨s, devt, heq, hregion, hlive'.held, hreach, fun h hh => ?_, fun i hi => ?_, hlive'⟩
  · rw [hsworld]
    exact hrunning h hh
  · rw [hlive'.running i hi, hbase', hbase]

/-! ### The unload -/

/-- The end of the host controllers does not depend on the world. -/
theorem Live.withWorld {k : ℕ} (hs : Live n k s) (w : World) : Live n k { s with world := w } :=
  ⟨hs.held, hs.class_, hs.instanceCount, hs.hcdDevices, hs.created, hs.running, hs.vacant,
    hs.warned⟩

/-- Where nothing is published, bound or queued, every device and every transfer is gone. -/
theorem gone_of_closed {w : World} (hw : w.Steady n) (htable : ∀ id, w.objectTable id = none)
    (hbackends : ∀ h < n, w.backends h = { stopping := true }) :
    (∀ d < w.nextDevice, (w.released.map Release.device).count d = 1) ∧
      ∀ t < w.nextTransfer, w.freedTransfers.count t = 1 := by
  constructor
  · intro d hd
    have hcount := hw.accounts.refcount_device d
    have hlisted : ¬ w.Listed d := fun ⟨id, hid⟩ => absurd (hid.symm.trans (htable id)) (by simp)
    have hbindings : w.bindingsOf n d = 0 := Finset.sum_eq_zero fun h hh => by
      rw [hbackends h (Finset.mem_range.1 hh), List.countP_nil]
    have hrequests : w.requestsFor n d = 0 := Finset.sum_eq_zero fun h hh => by
      rw [World.requests, hbackends h (Finset.mem_range.1 hh), List.append_nil, List.countP_nil]
    rw [if_neg hlisted, hbindings, hrequests] at hcount
    rw [hw.accounts.count_released, if_pos ⟨hd, hcount⟩]
  · intro t ht
    have hcount := hw.accounts.refcount_transfer t
    have hqueued : ∑ h ∈ Finset.range n, (w.backends h).queued t = 0 :=
      Finset.sum_eq_zero fun h hh => by
        rw [hbackends h (Finset.mem_range.1 hh)]
        rfl
    rw [hqueued] at hcount
    rw [hw.accounts.count_freedTransfers, if_pos ⟨ht, hcount⟩]

end ModuleState

open ModuleState

/-- **A module that is unloaded leaves nothing**, whatever complete calls were made of it before,
none of which still runs: the unload ends
after one pass for each published device and one more, no queue and no binding is left,
every device and every transfer there was has been released once, and everything taken from
the kernel is given back, in reverse order. -/
theorem module_leaves_nothing {o : Outcomes} {n : ℕ} {s : ModuleState}
    {l : List (World × Call)} {w : World} (hs : moduleInit initial o n = (s, .ok ()))
    (hr : Run (calls n) s.world l w) :
    ∃ s', (∀ fuel, ({ s with world := w } : ModuleState).moduleExit fuel =
        if w.catalogue.card < fuel then some s' else none) ∧
      Unloaded s' ∧
      (∀ h < n, s'.world.backends h = { stopping := true }) ∧
      (∀ d < w.nextDevice, (s'.world.released.map Release.device).count d = 1) ∧
      (∀ t < w.nextTransfer, s'.world.freedTransfers.count t = 1) ∧
      ∀ r, s'.trace.count (.take r) = s'.trace.count (.give r) := by
  have hloaded : ∃ devt, Loaded n devt s := by
    rcases he : o.loadError n with _ | e
    · obtain ⟨s', devt, heq, -, hloaded⟩ := moduleInit_ok he
      obtain rfl : s = s' := congrArg Prod.fst (hs.symm.trans heq)
      exact ⟨devt, hloaded⟩
    · obtain ⟨s', heq, -⟩ := moduleInit_error he
      exact absurd (congrArg Prod.snd (hs.symm.trans heq)) (by simp)
  obtain ⟨devt, hloaded⟩ := hloaded
  have hsteady := World.steady_of_reachable (hloaded.reachable.run hr)
  obtain ⟨v, hv, hnone, hall⟩ := (World.Shutting.refl hsteady).deviceShutdownAll
  have hdown := hv.shutDown hnone
  have hclosed := hv.steady.closeHcds le_rfl
  have htable : ∀ id, (World.closeHcds n v).objectTable id = none := by
    intro id
    rw [hclosed.objectTable]
    exact hdown.entries id
  obtain ⟨hunloaded, hworld⟩ := (hloaded.live.withWorld v).destroyAll htable
  obtain ⟨hdevices, htransfers⟩ := gone_of_closed hclosed.steady htable hclosed.stopped
  refine ⟨_, fun fuel => ?_, hunloaded, ?_, ?_, ?_, count_take_eq_count_give hunloaded.held⟩
  · rw [moduleExit, hall]
    split <;> rfl
  · rw [hworld]
    exact hclosed.stopped
  · rw [hworld]
    intro d hd
    exact hdevices d (by rwa [hclosed.nextDevice, hdown.nextDevice])
  · rw [hworld]
    intro t ht
    have hended := World.traffic_deviceShutdownAll ((hall _).trans (if_pos (Nat.lt_succ_self _)))
    have hnext : v.nextTransfer = w.nextTransfer := (congrArg World.nextTransfer hended :)
    exact htransfers t (by rwa [hclosed.nextTransfer, hnext])

/-- A device is at a port, its backend is there and a URB is in flight when the module is
unloaded. -/
theorem module_leaves_nothing_example : ∃ w s', w.catalogue.card = 1 ∧
    (w.backends 0).bindings = [⟨0, 5⟩] ∧ (w.backends 0).pending ≠ [] ∧
    ({ (moduleInit initial {} 1).1 with world := w } : ModuleState).moduleExit 2 = some s' ∧
    Unloaded s' ∧ (s'.world.released.map Release.device).count 0 = 1 := by
  have hexec : ((exec (fun w c => if Call.Possible 1 w c then some (w.call c) else none)
      (moduleInit initial {} 1).1.world (Call.plugIn 5 ++ [.urbEnqueue 0 7 .bulkOut {}])).map
      fun w => decide (w.catalogue.card = 1 ∧ w.nextDevice = 1 ∧
        (w.backends 0).bindings = [⟨0, 5⟩] ∧ (w.backends 0).pending ≠ [])) = some true := by
    decide
  obtain ⟨w, hw, hp⟩ := Option.map_eq_some_iff.1 hexec
  obtain ⟨hcard, hnext, hbindings, hpending⟩ := of_decide_eq_true hp
  obtain ⟨l, hr, -⟩ := Run.of_exec (I := World.Initialised) hw
  obtain ⟨s', hexit, hunloaded, -, hdevices, -⟩ :=
    module_leaves_nothing (o := {}) (n := 1) (s := (moduleInit initial {} 1).1) rfl hr
  exact ⟨w, s', hcard, hbindings, hpending, (hexit 2).trans (if_pos (by omega)), hunloaded,
    hdevices 0 (hnext ▸ Nat.one_pos)⟩

end Loading

end VirtUsb
