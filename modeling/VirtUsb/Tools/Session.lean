/-
# The life of the test device

`main` of the test device makes one call after the other on its file, while other programs and
the host go on with theirs (`session`).  However far it gets and whichever of its calls fail, it
ends at the label `out`: then its file has no binding and no request on loan.  The device that it
created is neither published nor attached then, if the arguments of its last request could be
read; `main` does not look at the result of that request, and if the module could not read them
the device stays (`test_device_leaves`).

The signals are the two that `main` has a handler for, `SIGINT` and `SIGTERM`.  A file that is
open keeps the module loaded, so its instance is active to the end.

Ids are handed out in order, so an id that was taken out of the table stays out of it
(`Onward`); that is why the device of the last request is the one that was created.
-/

import VirtUsb.Serving.Binders
import VirtUsb.Tools.Enumeration

namespace VirtUsb

open Library Transition

namespace World

variable {N : ℕ} {w w' w'' : World} {h : HcdId} {f : FilePtr} {handle : Handle} {env : Env}
  {id : ObjectId}

/-! ### Ids that are used up -/

/-- Ids are used up on the way from `w` to `w'`, and none comes back. -/
structure Onward (w w' : World) : Prop where
  nextObjectId : w.nextObjectId ≤ w'.nextObjectId
  objectTable : ∀ id < w.nextObjectId, w.objectTable id = none → w'.objectTable id = none

/-- The id was handed out and is not in the table any more. -/
def Retired (w : World) (id : ObjectId) : Prop :=
  id < w.nextObjectId ∧ w.objectTable id = none

namespace Onward

/-- The same ids, in the same table. -/
theorem of_eq (hn : w'.nextObjectId = w.nextObjectId) (ht : w'.objectTable = w.objectTable) :
    Onward w w' :=
  ⟨hn.symm.le, fun _ _ hnone => ht ▸ hnone⟩

/-- Ids are used up, and used up further. -/
theorem trans (hs : Onward w w') (hs' : Onward w' w'') : Onward w w'' :=
  ⟨hs.nextObjectId.trans hs'.nextObjectId, fun id hlt hnone =>
    hs'.objectTable id (hlt.trans_le hs.nextObjectId) (hs.objectTable id hlt hnone)⟩

/-- `virtusb_object_put` hands out no id. -/
theorem objectPut (w : World) (d : DevicePtr) : Onward w (w.objectPut d) := by
  rw [World.objectPut]
  split
  · exact of_eq rfl rfl
  · exact of_eq rfl rfl

/-- `virtusb_object_unregister` takes an id out of the table. -/
theorem objectUnregister (w : World) (d : DevicePtr) : Onward w (w.objectUnregister d).1 := by
  have hlocked : Onward w (w.objectUnregisterLocked d).1 := by
    rw [objectUnregisterLocked]
    split
    · exact of_eq rfl rfl
    split
    · exact of_eq rfl rfl
    · refine ⟨le_rfl, fun id _ hnone => ?_⟩
      rcases eq_or_ne id (w.objects d).id with rfl | hne
      · exact Function.update_self _ _ _
      · exact (Function.update_of_ne hne _ _).trans hnone
  rw [World.objectUnregister]
  rcases hs : w.objectUnregisterLocked d with ⟨w₁, e | _⟩
  · rw [hs] at hlocked
    exact hlocked
  · rw [hs] at hlocked
    exact hlocked.trans (.objectPut w₁ d)

/-- `virtusb_device_create` hands out the next id at most. -/
theorem deviceCreate (w : World) (speed : Byte) (env : Env) :
    Onward w (w.deviceCreate speed env).1 := by
  rcases hport : portInit .upstream speed (.device w.nextDevice) with e | port
  · rw [deviceCreate_invalid hport]
    split
    · exact of_eq rfl rfl
    · exact of_eq rfl rfl
  rw [deviceCreate_eq hport]
  split
  · exact of_eq rfl rfl
  split
  · exact of_eq rfl rfl
  rcases env.xaInsert with e | _
  · exact of_eq rfl rfl
  · -- the new device takes the next id
    exact ⟨Nat.le_succ _, fun id hlt hnone => (Function.update_of_ne hlt.ne _ _).trans hnone⟩

/-- `virtusb_device_destroy` takes an id out of the table at most. -/
theorem deviceDestroy (w : World) (d : DevicePtr) (force : Bool) :
    Onward w (w.deviceDestroy d force).1 := by
  rw [World.deviceDestroy]
  split
  swap
  · exact objectUnregister w d
  split
  · exact of_eq rfl rfl
  rcases w.topo.deviceSetConnectionSignaling d false with ⟨t, e | _⟩
  · exact of_eq rfl rfl
  · have htopo : Onward w { w with topo := t.deviceDetach d } := of_eq rfl rfl
    exact htopo.trans (objectUnregister _ d)

/-- Every operation goes onward. -/
theorem operate (w : World) (op : Operation) : Onward w (w.operate op).1 := by
  cases op with
  | create speed env => exact deviceCreate w speed env
  | destroy d force => exact deviceDestroy w d force
  | attach d h n =>
    rw [World.operate]
    rcases w.topo.hubGetPort h n with _ | p
    · exact of_eq rfl rfl
    · exact of_eq rfl rfl
  | _ => exact of_eq rfl rfl

/-- **No call brings an id back.** -/
theorem call (hw : w.Steady N) (c : Call) : Onward w (w.call c) := by
  refine (managed_call hw.accounts.counted hw.accounts.registry c).invariant (I := Onward w)
    (fun v v' hv hm => ?_) (fun v op hv _ => hv.trans (operate v op)) (of_eq rfl rfl)
  exact hv.trans (of_eq (nextObjectId_of_management hm) (objectTable_of_management hm))

end Onward

/-- An id that was taken out of the table stays out of it. -/
theorem Retired.onward (hw : w.Retired id) (hs : Onward w w') : w'.Retired id :=
  ⟨hw.1.trans_le hs.nextObjectId, hs.objectTable id hw.1 hw.2⟩

/-- The device of an id that is retired is not attached. -/
theorem Retired.unattached (hw : w.Retired id) (hs : w.Steady N) {d : DevicePtr}
    (hd : (w.objects d).id = id) : w.topo.peers (.upstream d) = none := by
  by_contra hpeer
  have hreg := hs.catalogued.attached d (Option.isSome_iff_ne_none.2 hpeer)
  have hentry : w.objectTable (w.objects d).id = some d := (hs.accounts.registry.object d hreg).1
  rw [hd, hw.2] at hentry
  exact absurd hentry (by simp)

/-- **A forced destruction retires the id**, if its arguments can be read. -/
theorem retired_controlDeviceDestroy (hw : w.Steady N) (hcopy : env.copyFromUser = true)
    (hid : id ≠ 0) (hlt : id < w.nextObjectId) :
    (w.controlDeviceDestroy ⟨id, deviceDestroyForce⟩ env).1.Retired id := by
  have hflags : ¬ (id = 0 ∨ deviceDestroyForce &&& ~~~deviceDestroyFlags ≠ 0) := by
    rintro (hzero | hflag)
    · exact hid hzero
    · exact hflag (by decide)
  rw [controlDeviceDestroy_eq hw.accounts.counted]
  simp only [hcopy, Bool.not_true, Bool.false_eq_true, if_false, if_neg hflags]
  rcases hd : w.deviceOf id with e | d
  · refine ⟨hlt, ?_⟩
    by_contra hsome
    obtain ⟨d, hentry⟩ := Option.ne_none_iff_exists'.1 hsome
    have hreg := (hw.accounts.registry.entry id d hentry).1
    rw [deviceOf_ok.2 ⟨hid, hentry, hw.catalogued.typed d hreg⟩] at hd
    exact absurd hd (by simp)
  · obtain ⟨-, hentry, -⟩ := deviceOf_ok.1 hd
    obtain ⟨hreg, hsame⟩ := hw.accounts.registry.entry id d hentry
    have hsame' : (w.objects d).id = id := hsame
    have hforce : decide (deviceDestroyForce &&& deviceDestroyForce ≠ 0) = true := by decide
    dsimp only
    rw [hforce, deviceDestroy_eq hw.wired hreg (hsame' ▸ hid) (hsame' ▸ hentry) true, hsame',
      if_neg (by simp)]
    have hretired : ∀ (t : Topology) (o : DevicePtr → Object), ({ w with
        topo := t
        objects := o
        objectTable := Function.update w.objectTable id none } : World).Retired id :=
      fun t o => ⟨hlt, Function.update_self _ _ _⟩
    exact (hretired _ _).onward (.objectPut _ d)

end World

namespace TestDevice

open World

/-! ### The session -/

/-- The object id that `main` has. -/
def Stage.objectId : Stage → Option ObjectId
  | .created id | .attached id | .registered id | .waiting id | .fetched id _
  | .disconnecting id | .detaching id | .unregistering id | .destroying id => some id
  | .opened | .closing | .closed => none

/-- Before the registration, and after the request that undoes it. -/
def Stage.Idle : Stage → Prop
  | .opened | .created _ | .attached _ | .destroying _ | .closing | .closed => True
  | _ => False

/-- The calls of `main` on a file that was just opened, and those of others in between. -/
def session (N : ℕ) (h : HcdId) (f : FilePtr) (handle : Handle) (port : BitVec 32) :
    Machine (World × Stage) (Call ⊕ Env × Bool) where
  init s := (calls N).Reachable s.1 ∧ s.1.Unbound h f ∧ s.2 = .opened
  step s a s' :=
    match a with
    | .inl c => c.Possible N s.1 ∧ ¬ c.OnFile h f ∧ s' = (s.1.call c, s.2)
    | .inr (env, stop) => s' = advance s.1 h f handle port env stop s.2

variable {N : ℕ} {w w' : World} {h : HcdId} {f : FilePtr} {handle : Handle} {port : BitVec 32}
  {env : Env} {stop : Bool} {stage : Stage} {id : ObjectId}

/-- The world is as it was, or one call further. -/
def OneCall (N : ℕ) (w w' : World) : Prop :=
  w' = w ∨ ∃ c, c.Possible N w ∧ w' = w.call c

/-- One call further is reachable. -/
theorem OneCall.reachable (ho : OneCall N w w') (hw : (calls N).Reachable w) :
    (calls N).Reachable w' := by
  rcases ho with rfl | ⟨c, hc, rfl⟩
  · exact hw
  · exact hw.step (if_pos hc)

/-- One call goes onward. -/
theorem OneCall.onward (ho : OneCall N w w') (hw : w.Steady N) : Onward w w' := by
  rcases ho with rfl | ⟨c, -, rfl⟩
  · exact .of_eq rfl rfl
  · exact .call hw c

/-- A control request is one call. -/
theorem oneCall_ioctl (hh : h < N) (command : BitVec 32) (m : UserMemory) :
    OneCall N w (w.controlIoctl h true f false command m env).1 :=
  .inr ⟨.ioctl h true f false command m env, ⟨hh, trivial⟩, rfl⟩

/-- A request of the library is one call. -/
theorem oneCall_request (hh : h < N) (hfd : 0 ≤ handle.fd) (command : BitVec 32)
    (m : UserMemory) :
    OneCall N w (Library.request w (w.file h f false env) (some handle) command m).1 := by
  rw [request_file hfd]
  exact oneCall_ioctl hh command m

section

variable (w : World) (h : HcdId) (f : FilePtr) (handle : Handle) (port : BitVec 32) (env : Env)
  (stop : Bool)

/-- The first call of `main`. -/
theorem advance_opened :
    advance w h f handle port env stop .opened =
      ((deviceCreate w (w.file h f false env) (some handle) deviceSpeedFull).1,
        match (deviceCreate w (w.file h f false env) (some handle) deviceSpeedFull).2 with
        | .error _ => out 0
        | .ok id => .created id) := by
  rw [advance]
  rcases deviceCreate w (w.file h f false env) (some handle) deviceSpeedFull with ⟨w₁, e | id⟩ <;>
    rfl

/-- A pass of the loop ends in the loop, or with a request, or at the label `out`. -/
theorem advance_waiting (id : ObjectId) :
    advance w h f handle port env stop (.waiting id) = (w, out id) ∨
      ∃ next, advance w h f handle port env stop (.waiting id) =
          ((fetch w (w.file h f false env) (some handle)).1, next) ∧
        (next = .waiting id ∨ next = out id ∨ ∃ request, next = .fetched id request) := by
  rw [advance]
  split
  · exact .inl rfl
  refine .inr ?_
  rcases fetch w (w.file h f false env) (some handle) with ⟨w₁, e | request⟩
  · split
    · rename_i heq
      exact ⟨_, by rw [(Prod.mk.inj heq).1], .inl rfl⟩
    · rename_i heq
      exact ⟨_, by rw [(Prod.mk.inj heq).1], .inr (.inl rfl)⟩
    · rename_i heq
      exact absurd (Prod.mk.inj heq).2 (by simp)
  · exact ⟨_, rfl, .inr (.inr ⟨request, rfl⟩)⟩

end

/-- **Every stage of `main` is one call at most.** -/
theorem oneCall_advance (hh : h < N) (hfd : 0 ≤ handle.fd) (stage : Stage) :
    OneCall N w (advance w h f handle port env stop stage).1 := by
  have hrequest : ∀ command m,
      OneCall N w (Library.request w (w.file h f false env) (some handle) command m).1 :=
    fun command m => oneCall_request hh hfd command m
  cases stage with
  | opened =>
    rw [advance_opened]
    exact hrequest ioctlDeviceCreate (.ofWords [deviceSpeedFull.toNat, 0])
  | attached id =>
    show OneCall N w
      (Library.backendRegister w (w.file h f false env) (some handle) (.ofNat 32 id)).1
    rw [Library.backendRegister]
    split
    · exact .inl rfl
    · exact hrequest _ _
  | waiting id =>
    obtain heq | ⟨next, heq, -⟩ := advance_waiting w h f handle port env stop id
    · rw [heq]
      exact .inl rfl
    · rw [heq]
      exact hrequest _ _
  | fetched id request =>
    obtain ⟨m, hm⟩ : ∃ m, (complete w (w.file h f false env) (some handle) id request).1 =
        w.call (.ioctl h true f false ioctlTransferComplete m env) :=
      complete_call w h f env hfd id request
    exact .inr ⟨.ioctl h true f false ioctlTransferComplete m env, ⟨hh, trivial⟩, hm⟩
  | closing => exact .inr ⟨.close h f, ⟨hh, trivial⟩, rfl⟩
  | closed => exact .inl rfl
  | _ => exact hrequest _ _

/-! ### What holds in every stage -/

/-- A session that has its device goes on at `out` with disconnecting it. -/
theorem out_eq (hid : 0 < id) : out id = .disconnecting id := if_neg hid.ne'

/-- `main` keeps the id of its device until it destroyed it. -/
theorem objectId_advance (hid : 0 < id) (hs : stage.objectId = some id) :
    (advance w h f handle port env stop stage).2.objectId = some id ∨ stage = .destroying id := by
  have hafter : ∀ {next : Stage} (r : Except Error Unit), next.objectId = some id →
      (Stage.after id next r).objectId = some id := by
    intro next r hnext
    rcases r with e | _
    · rw [Stage.after, out_eq hid]
      rfl
    · exact hnext
  cases stage with
  | opened => exact absurd hs (by simp [Stage.objectId])
  | closing => exact absurd hs (by simp [Stage.objectId])
  | closed => exact absurd hs (by simp [Stage.objectId])
  | created id' =>
    obtain rfl : id' = id := Option.some.inj hs
    exact .inl (hafter _ rfl)
  | attached id' =>
    obtain rfl : id' = id := Option.some.inj hs
    exact .inl (hafter _ rfl)
  | registered id' =>
    obtain rfl : id' = id := Option.some.inj hs
    exact .inl (hafter _ rfl)
  | fetched id' request =>
    obtain rfl : id' = id := Option.some.inj hs
    exact .inl (hafter _ rfl)
  | waiting id' =>
    obtain rfl : id' = id := Option.some.inj hs
    refine .inl ?_
    have hout : (out id').objectId = some id' := by
      rw [out_eq hid]
      rfl
    obtain heq | ⟨next, heq, rfl | rfl | ⟨request, rfl⟩⟩ :=
      advance_waiting w h f handle port env stop id'
    · rw [heq]
      exact hout
    · rw [heq]
      rfl
    · rw [heq]
      exact hout
    · rw [heq]
      rfl
  | destroying id' =>
    obtain rfl : id' = id := Option.some.inj hs
    exact .inr rfl
  | _ => exact .inl hs

/-- The id of the device that was created. -/
theorem deviceCreate_id (hw : w.Steady N) (hfd : 0 ≤ handle.fd) {speedCaps : BitVec 32}
    (hs : deviceCreate w (w.file h f false env) (some handle) speedCaps = (w', .ok id)) :
    0 < id ∧ id < w'.nextObjectId ∧ id ≤ u32Max := by
  rw [deviceCreate_file hfd, World.controlDeviceCreate] at hs
  rcases hcopy : env.copyFromUser
  · simp [hcopy] at hs
  rcases hvalid : controlSpeedCapsValid speedCaps
  · simp [hcopy, hvalid] at hs
  simp only [hcopy, hvalid, Bool.not_true, Bool.false_eq_true, if_false] at hs
  rcases hc : w.deviceCreate (speedCaps.setWidth 8) env with ⟨w₁, e | d⟩
  · simp [hc] at hs
  rcases hto : env.copyToUser
  · simp [hc, hto] at hs
  simp only [hc, hto, Bool.not_true, Bool.false_eq_true, if_false, Prod.mk.injEq,
    Except.ok.injEq] at hs
  obtain ⟨hworld, rfl⟩ := hs
  obtain ⟨rfl, port, -, rfl, -, hmax, -⟩ := deviceCreate_ok hc
  have hid : ((w.published port).objects w.nextDevice).id = w.nextObjectId := by
    simp [published]
  have hnext := (Onward.objectPut (w.published port) w.nextDevice).nextObjectId
  rw [hworld] at hnext
  rw [hid]
  exact ⟨hw.accounts.registry.pos, Nat.lt_of_succ_le hnext, hmax⟩

/-- What holds of the session in every stage. -/
structure Alive (N : ℕ) (h : HcdId) (f : FilePtr) (s : World × Stage) : Prop where
  reachable : (calls N).Reachable s.1
  idle : s.2.Idle → s.1.Unbound h f
  known : ∀ id, s.2.objectId = some id → 0 < id ∧ id < s.1.nextObjectId ∧ id ≤ u32Max

/-- The id as the library passes it on. -/
theorem toNat_ofNat_id (hid : id ≤ u32Max) : (BitVec.ofNat 32 id).toNat = id := by
  rw [BitVec.toNat_ofNat]
  exact Nat.mod_eq_of_lt (Nat.lt_of_le_of_lt hid (by decide))

/-- The way out begins with a file that may be registered. -/
theorem not_idle_out (hid : 0 < id) : ¬ (out id).Idle := by
  rw [out_eq hid]
  exact not_false

/-- Inside the loop and on the way to it no result of a call ends the session at once. -/
theorem not_idle_after (hid : 0 < id) (next : Stage) (hnext : ¬ next.Idle)
    (result : Except Error Unit) : ¬ (Stage.after id next result).Idle := by
  cases result with
  | error e => exact not_idle_out hid
  | ok _ => exact hnext

/-- The file is bound by no stage but the registration. -/
theorem idle_advance (hfd : 0 ≤ handle.fd) (hs : Alive N h f (w, stage))
    (hbound : (w.backends h).Bound w.device)
    (hidle : (advance w h f handle port env stop stage).2.Idle) :
    (advance w h f handle port env stop stage).1.Unbound h f := by
  have hc : w.Counted := (steady_of_reachable hs.reachable).accounts.counted
  cases stage with
  | opened =>
    rw [advance_opened, deviceCreate_file hfd]
    exact (hs.idle trivial).unbinds (.of_traffic w (traffic_controlDeviceCreate w _ env))
  | created id =>
    show (deviceAttach w (w.file h f false env) (some handle) (.ofNat 32 id) 0 port).1.Unbound h f
    rw [deviceAttach_file hfd]
    exact (hs.idle trivial).unbinds (.of_traffic w (traffic_controlDeviceAttach hc _))
  | attached id =>
    exact absurd hidle (not_idle_after (hs.known id rfl).1 (.registered id) not_false _)
  | registered id =>
    exact absurd hidle (not_idle_after (hs.known id rfl).1 (.waiting id) not_false _)
  | waiting id =>
    obtain heq | ⟨next, heq, hnext⟩ := advance_waiting w h f handle port env stop id
    · rw [heq] at hidle
      exact absurd hidle (not_idle_out (hs.known id rfl).1)
    · rw [heq] at hidle
      rcases hnext with rfl | rfl | ⟨request, rfl⟩
      · exact hidle.elim
      · exact absurd hidle (not_idle_out (hs.known id rfl).1)
      · exact hidle.elim
  | fetched id request =>
    exact absurd hidle (not_idle_after (hs.known id rfl).1 (.waiting id) not_false _)
  | disconnecting id => exact hidle.elim
  | detaching id => exact hidle.elim
  | unregistering id =>
    show (backendUnregister w (w.file h f false env) (some handle)).1.Unbound h f
    rw [backendUnregister_file hfd]
    exact unbound_backendReleaseOwner hbound f
  | destroying id =>
    show (Library.deviceDestroy w (w.file h f false env) (some handle) (.ofNat 32 id)
      true).1.Unbound h f
    rw [deviceDestroy_file hfd]
    exact (hs.idle trivial).unbinds (.of_traffic w (traffic_controlDeviceDestroy hc _))
  | closing => exact (hs.idle trivial).unbinds (.backendReleaseOwner w f)
  | closed => exact hs.idle trivial

/-- **Every step keeps what holds in every stage.** -/
theorem Alive.step (hh : h < N) (hfd : 0 ≤ handle.fd) {s s' : World × Stage}
    {a : Call ⊕ Env × Bool} (hs : Alive N h f s)
    (hstep : (session N h f handle port).step s a s') :
    Alive N h f s' ∧ Onward s.1 s'.1 := by
  obtain ⟨w, stage⟩ := s
  have hsteady := steady_of_reachable hs.reachable
  rcases a with c | ⟨env, stop⟩
  · obtain ⟨hp, hfile, rfl⟩ := hstep
    have hon := Onward.call hsteady c
    refine ⟨⟨hs.reachable.step (if_pos hp), fun hidle => ?_, fun id hid => ?_⟩, hon⟩
    · exact (hs.idle hidle).call hsteady.accounts.counted hfile
    · obtain ⟨hpos, hlt, hmax⟩ := hs.known id hid
      exact ⟨hpos, hlt.trans_le hon.nextObjectId, hmax⟩
  · obtain rfl : s' = _ := hstep
    have hone : OneCall N w (advance w h f handle port env stop stage).1 :=
      oneCall_advance hh hfd stage
    have hon := hone.onward hsteady
    refine ⟨⟨hone.reachable hs.reachable,
      idle_advance hfd hs ((serving_of_reachable hs.reachable).bound h hh), fun id hid => ?_⟩, hon⟩
    rcases hknown : stage.objectId with _ | id'
    · -- the device was created just now
      cases stage with
      | opened =>
        rw [advance_opened] at hid ⊢
        rcases hc : deviceCreate w (w.file h f false env) (some handle) deviceSpeedFull with
          ⟨w₁, e | new⟩
        · rw [hc] at hid
          exact absurd hid (by simp [out, Stage.objectId])
        · rw [hc] at hid
          obtain rfl : new = id := Option.some.inj hid
          exact deviceCreate_id hsteady hfd hc
      | closing => exact absurd hid (by simp [advance, Stage.objectId])
      | closed => exact absurd hid (by simp [advance, Stage.objectId])
      | _ => exact absurd hknown (by simp [Stage.objectId])
    · obtain ⟨hpos, hlt, hmax⟩ := hs.known id' hknown
      obtain hsame | rfl :
          (advance w h f handle port env stop stage).2.objectId = some id' ∨
            stage = .destroying id' := objectId_advance hpos hknown
      · rw [hsame] at hid
        obtain rfl := Option.some.inj hid
        exact ⟨hpos, hlt.trans_le hon.nextObjectId, hmax⟩
      · exact absurd hid (by simp [advance, Stage.objectId])

/-- A session begins with a file that is not registered, and without a device. -/
theorem Alive.of_init {s : World × Stage} (hs : (session N h f handle port).init s) :
    Alive N h f s := by
  obtain ⟨hreachable, hunbound, hstage⟩ := hs
  exact ⟨hreachable, fun _ => hunbound, fun id hid => by simp [hstage, Stage.objectId] at hid⟩

/-- `main` still has the id of its device, or the device is gone. -/
def Holds (id : ObjectId) (s : World × Stage) : Prop :=
  s.2.objectId = some id ∨ s.1.Retired id

/-- The last request can be read. -/
def Reads (s : World × Stage) (a : Call ⊕ Env × Bool) : Prop :=
  ∀ id env stop, s.2 = .destroying id → a = .inr (env, stop) → env.copyFromUser = true

/-- A last request that cannot be read leaves the module as it was, and `main` closes its file. -/
theorem unread_step (hfd : 0 ≤ handle.fd) {s u : World × Stage} {a : Call ⊕ Env × Bool}
    (ha : ¬ Reads s a) (hstep : (session N h f handle port).step s a u) :
    u = (s.1, .closing) := by
  obtain ⟨w, stage⟩ := s
  rw [Reads] at ha
  push Not at ha
  obtain ⟨id, env, stop, hstage, rfl, hcopy⟩ := ha
  obtain rfl : stage = .destroying id := hstage
  obtain rfl : u = _ := hstep
  have hunread : env.copyFromUser = false := by simpa using hcopy
  rw [advance, deviceDestroy_file hfd, World.controlDeviceDestroy, hunread]
  rfl

/-- Only the destruction makes `main` give up its device. -/
theorem Holds.step (hh : h < N) (hfd : 0 ≤ handle.fd) {s s' : World × Stage}
    {a : Call ⊕ Env × Bool} (hs : Alive N h f s) (hid : Holds id s) (ha : Reads s a)
    (hstep : (session N h f handle port).step s a s') : Holds id s' := by
  have hsteady := steady_of_reachable hs.reachable
  have hon := (hs.step hh hfd hstep).2
  obtain ⟨w, stage⟩ := s
  rcases hid with hid | hretired
  swap
  · exact .inr (hretired.onward hon)
  rcases a with c | ⟨env, stop⟩
  · obtain ⟨-, -, rfl⟩ := hstep
    exact .inl hid
  obtain rfl : s' = _ := hstep
  obtain ⟨hpos, hlt, hmax⟩ := hs.known id hid
  obtain hsame | rfl :
      (advance w h f handle port env stop stage).2.objectId = some id ∨
        stage = .destroying id := objectId_advance hpos hid
  · exact .inl hsame
  · refine .inr ?_
    show (Library.deviceDestroy w (w.file h f false env) (some handle) (.ofNat 32 id)
      true).1.Retired id
    rw [deviceDestroy_file hfd, toNat_ofNat_id hmax]
    exact retired_controlDeviceDestroy hsteady (ha id env stop rfl rfl) hpos.ne' hlt

/-- The next step of a session that nobody else disturbs, with a signal pending. -/
def interrupted (s : World × Stage) : World × Stage := advance s.1 0 5 ⟨3⟩ 1 {} true s.2

end TestDevice

/-- **However its run ends, the test device leaves nothing behind**: when `main` returns, its file
has no binding and no request on loan.  If the last request could be read, every device that it
created is out of the table and on no port; if not, that request leaves the module as it was. -/
theorem test_device_leaves {N : ℕ} {h : HcdId} (hh : h < N) {f : FilePtr} {handle : Handle}
    (hfd : 0 ≤ handle.fd) {port : BitVec 32} {s t : World × TestDevice.Stage}
    {history : List ((World × TestDevice.Stage) × (Call ⊕ Env × Bool))}
    (hs : (TestDevice.session N h f handle port).init s)
    (hr : Run (TestDevice.session N h f handle port) s history t) (hclosed : t.2 = .closed) :
    t.1.Unbound h f ∧ (∀ r ∈ (t.1.backends h).active, r.owner ≠ some f) ∧
      ((∀ x ∈ history, TestDevice.Reads x.1 x.2) → ∀ x ∈ history, ∀ id,
        x.1.2.objectId = some id → t.1.objectTable id = none ∧
          ∀ d, (t.1.objects d).id = id → t.1.topo.peers (.upstream d) = none) ∧
      ∀ x ∈ history, ¬ TestDevice.Reads x.1 x.2 → ∀ u : World × TestDevice.Stage,
        (TestDevice.session N h f handle port).step x.1 x.2 u → u = (x.1.1, .closing) := by
  have halive : ∀ u ∈ visited history t, TestDevice.Alive N h f u := by
    refine hr.forall_visited (C := fun _ _ => True) (fun _ _ _ hI _ hst => ?_)
      (TestDevice.Alive.of_init hs) fun _ _ => trivial
    exact (hI.step hh hfd hst).1
  have hlast := halive t (mem_visited.2 (.inr rfl))
  have hunbound : t.1.Unbound h f := hlast.idle (hclosed ▸ trivial)
  refine ⟨hunbound, fun r hr howner => ?_, fun hreads x hx id hid => ?_, fun x _ hx u hst => ?_⟩
  · obtain ⟨g, hg, hsame, -⟩ :=
      ((World.serving_of_reachable hlast.reachable).bound h hh).active r hr
    exact hunbound g hg (Option.some.inj (hsame.symm.trans howner))
  · -- from the state in which `main` had the id to the end of the run
    have hend : TestDevice.Alive N h f t ∧ TestDevice.Holds id t := by
      refine hr.since (I := fun u => TestDevice.Alive N h f u ∧ TestDevice.Holds id u)
        (fun u a v hI hC hst => ?_) hx ⟨halive x.1 (mem_visited.2 (.inl ⟨x, hx, rfl⟩)), .inl hid⟩
        hreads
      exact ⟨(hI.1.step hh hfd hst).1, hI.2.step hh hfd hI.1 hC hst⟩
    rcases hend.2 with hstill | hretired
    · rw [hclosed] at hstill
      exact absurd hstill (by simp [TestDevice.Stage.objectId])
    · exact ⟨hretired.2, fun d hd =>
        hretired.unattached (World.steady_of_reachable hlast.reachable) hd⟩
  · exact TestDevice.unread_step hfd hx hst

/-- A session that a signal ends at once. -/
theorem test_device_leaves_example : ∃ t : World × TestDevice.Stage,
    (∃ history, Run (TestDevice.session 1 0 5 ⟨3⟩ 1) (World.oneHub, .opened) history t) ∧
      t.2 = .closed ∧ t.1.Unbound 0 5 ∧ t.1.objectTable 1 = none := by
  have hr := Run.iterate (M := TestDevice.session 1 0 5 ⟨3⟩ 1)
    (a := fun _ => .inr (({} : Env), true)) (g := TestDevice.interrupted) (fun _ => rfl)
    (World.oneHub, .opened) 10
  have hclosed : (TestDevice.interrupted^[10] (World.oneHub, .opened)).2 = .closed := rfl
  have hinit : (TestDevice.session 1 0 5 ⟨3⟩ 1).init (World.oneHub, .opened) :=
    ⟨Machine.Reachable.init (s := World.oneHub) World.oneHub_initialised,
      fun _ hx => absurd hx List.not_mem_nil, rfl⟩
  obtain ⟨hunbound, -, hgone, -⟩ := test_device_leaves Nat.one_pos (by decide) hinit hr hclosed
  refine ⟨_, ⟨_, hr⟩, hclosed, hunbound, (hgone (fun x hx id env stop _ ha => ?_) _
    (List.mem_map.2 ⟨1, by decide, rfl⟩) 1 rfl).1⟩
  obtain ⟨k, -, rfl⟩ := List.mem_map.1 hx
  obtain rfl := (Prod.mk.inj (Sum.inr.inj ha)).1
  rfl

end VirtUsb
