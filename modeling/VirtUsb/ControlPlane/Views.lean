/-
# Two views of a port

What Linux sees of a port is the answer to `GetPortStatus`, which
`virtusb_hcd_build_port_status` and `virtusb_hcd_build_port_change` encode.  What the
control plane sees is encoded by `virtusb_control_build_port_state`, and passes through
`virtusb_get_port_status` of the library.  The flags have the same numbers in all three, so
widening a word of the host gives the word of the control plane, and the two flags for the
speed are all that the host has more.
-/

import VirtUsb.ControlPlane.StatusData
import VirtUsb.Library.PortStatus

namespace VirtUsb

open Transition

/-- A list of words is read back from memory word by word. -/
theorem UserMemory.word_ofWords (words : List ℕ) (i : ℕ) :
    (UserMemory.ofWords words).word (4 * i) = BitVec.ofNat 32 (words.getD i 0) := by
  have hbyte : ∀ k, k < 4 →
      UserMemory.ofWords words (4 * i + k) = BitVec.ofNat 8 (words.getD i 0 >>> (8 * k)) := by
    intro k hk
    have hdiv : (4 * i + k) / 4 = i := by omega
    have hmod : (4 * i + k) % 4 = k := by omega
    rw [UserMemory.ofWords, hdiv, hmod]
  have h₀ := hbyte 0 (by decide)
  rw [Nat.add_zero] at h₀
  rw [UserMemory.word, hbyte 3 (by decide), hbyte 2 (by decide), hbyte 1 (by decide), h₀]
  refine BitVec.eq_of_getLsbD_eq fun j hj => ?_
  simp only [BitVec.getLsbD_append, BitVec.getLsbD_ofNat, Nat.testBit_shiftRight]
  by_cases h8 : j < 8
  · simp [h8, hj]
  by_cases h16 : j - 8 < 8
  · have he : 8 + (j - 8) = j := by omega
    simp [h8, h16, hj, he]
  by_cases h24 : j - 8 - 8 < 8
  · have he : 16 + (j - 8 - 8) = j := by omega
    simp [h8, h16, h24, hj, he]
  · have he : 24 + (j - 8 - 8 - 8) = j := by omega
    have hlt : j - 8 - 8 - 8 < 8 := by omega
    simp [h8, h16, h24, hj, he, hlt]

namespace Topology

variable {t : Topology} {h : HcdId} {n : ℕ}

/-- A flag in the status word is the same flag in the mask of 32 bits. -/
theorem setWidth_flagIf (c : Bool) {flag : BitVec 16} {i : ℕ}
    (hflag : flag.setWidth 32 = Bitmap.bit 32 i) : (flagIf c flag).setWidth 32 = bitIf c i := by
  cases c
  · rfl
  · exact hflag

/-- The status word of the host is that of the control plane and the two speed flags. -/
theorem setWidth_status (hn : 0 < n) : (t.hcdBuildPortStatus h n).setWidth 32 =
    (t.controlBuildPortState h n).status ||| bitIf (t.hubGetPortSpeed h n = .low) 9 |||
      bitIf (t.hubGetPortSpeed h n = .high) 10 := by
  have hne : n ≠ 0 := Nat.ne_of_gt hn
  simp only [hcdBuildPortStatus, controlBuildPortState, hn, hne, decide_true, decide_false,
    Bool.true_and, Bool.false_and, Bool.false_or, BitVec.setWidth_or]
  rw [setWidth_flagIf _ (i := 0) rfl, setWidth_flagIf _ (i := 1) rfl,
    setWidth_flagIf _ (i := 2) rfl, setWidth_flagIf _ (i := 3) rfl,
    setWidth_flagIf _ (i := 4) rfl, setWidth_flagIf _ (i := 8) rfl,
    BitVec.or_assoc _ _ (bitIf _ 10)]
  congr 1
  cases t.hubGetPortSpeed h n <;> rfl

/-- The change words are equal bit for bit. -/
theorem setWidth_change : (t.hcdBuildPortChange h n).setWidth 32 =
    (t.controlBuildPortState h n).change := by
  simp only [hcdBuildPortChange, controlBuildPortState, BitVec.setWidth_or]
  rw [setWidth_flagIf _ (i := 0) rfl, setWidth_flagIf _ (i := 1) rfl,
    setWidth_flagIf _ (i := 2) rfl, setWidth_flagIf _ (i := 3) rfl,
    setWidth_flagIf _ (i := 4) rfl]

/-- The bits of a conditional bit. -/
theorem getLsbD_bitIf (c : Bool) (i k : ℕ) :
    (bitIf c i).getLsbD k = (c && decide (k < 32) && decide (k = i)) := by
  cases c <;> simp [bitIf, Bitmap.getLsbD_bit]

/-- The control plane has no flag for a speed. -/
theorem getLsbD_speed_flags :
    (t.controlBuildPortState h n).status.getLsbD 9 = false ∧
      (t.controlBuildPortState h n).status.getLsbD 10 = false := by
  simp only [controlBuildPortState, BitVec.getLsbD_or, getLsbD_bitIf]
  simp

/-- The over-current flags of the hub itself. -/
theorem getLsbD_hub :
    (t.controlBuildPortState h 0).status.getLsbD 3 =
        (getUnalignedLe16 (t.hcdGetHubStatus h).buf).getLsbD 1 ∧
      (t.controlBuildPortState h 0).change.getLsbD 3 = (t.hubChangeWord h).getLsbD 1 := by
  have hstatus : getUnalignedLe16 (t.hcdGetHubStatus h).buf =
      flagIf (t.hubIsOverCurrent h) hubStatusOverCurrent := getUnalignedLe16_le16 _ _
  rw [hstatus, hubChangeWord_eq]
  constructor
  · simp only [controlBuildPortState, BitVec.getLsbD_or, getLsbD_bitIf, getLsbD_flagIf]
    simp [hubStatusOverCurrent]
  · simp only [controlBuildPortState, BitVec.getLsbD_or, getLsbD_bitIf, getLsbD_flagIf]
    simp [hubChangeOverCurrent, isPending, HubPortUsbChange.bits]

/-- The speed that the control plane shows of a port is the one the hub keeps of it. -/
theorem controlBuildPortState_speed (hn : 0 < n) :
    (t.controlBuildPortState h n).speed = t.hubGetPortSpeed h n :=
  if_neg (Nat.ne_of_gt hn)

/-- `virtusb_hcd_get_port_status` of a port answers with its two words. -/
theorem hcdGetPortStatus_of_valid (hv : t.hubPortIsValid h n = true) :
    t.hcdGetPortStatus h n =
      .ok { buf := le16 (t.hcdBuildPortStatus h n) ++ le16 (t.hcdBuildPortChange h n) } := by
  rw [hcdGetPortStatus, hv]
  rfl

/-- A port beyond the last one stalls. -/
theorem hcdGetPortStatus_of_gt (hn : (t.hubs h).portCount < n) :
    t.hcdGetPortStatus h n = .error .EPIPE := by
  have hv : t.hubPortIsValid h n = false := by
    rw [Bool.eq_false_iff]
    exact fun hv => absurd (valid_iff.1 hv).2 (Nat.not_le.2 hn)
  rw [hcdGetPortStatus, hv]
  rfl

/-- **The host sees of a port what the control plane sees**, and the two speed flags. -/
theorem hcdGetPortStatus_views (hn : 0 < n) (hv : t.hubPortIsValid h n = true) :
    let state := t.controlBuildPortState h n
    ∃ reply, t.hcdGetPortStatus h n = .ok reply ∧
      (getUnalignedLe16 reply.buf).setWidth 32 =
        state.status ||| bitIf (state.speed = .low) 9 ||| bitIf (state.speed = .high) 10 ∧
      (getUnalignedLe16 (reply.buf.drop 2)).setWidth 32 = state.change := by
  intro state
  refine ⟨_, hcdGetPortStatus_of_valid hv, ?_, ?_⟩
  · rw [getUnalignedLe16_le16, controlBuildPortState_speed hn]
    exact setWidth_status hn
  · exact (congrArg _ (getUnalignedLe16_le16 _ [])).trans setWidth_change

end Topology

/-- A state of the library shows a state of the module: the same words, and the number of
the speed. -/
def Library.State.Shows (shown : Library.State) (state : ControlPortState) : Prop :=
  shown.status = state.status ∧ shown.change = state.change ∧
    shown.speed.value = state.speed.code.toNat

/-- `virtusb_state_from_uapi` shows what it is given. -/
theorem Library.shows_stateFromUapi (state : ControlPortState) :
    (Library.stateFromUapi state).Shows state :=
  ⟨rfl, rfl, Library.speedFromUapi_value _⟩

/-- The array of a snapshot has the states of the module in its first entries. -/
theorem Library.Status.ofReply_ports {portCount i : ℕ} (state : ControlPortState)
    (ports : List ControlPortState) (hcount : portCount ≤ Library.maxPorts) (hi : i < portCount) :
    (Library.Status.ofReply 0 0 portCount state ports).ports[i]? =
      some (Library.stateFromUapi (ports.getD i {})) := by
  have hrange : i < Library.maxPorts := Nat.lt_of_lt_of_le hi hcount
  rw [Library.Status.ofReply, List.getElem?_map, List.getElem?_range hrange, Option.map_some]
  simp [hi]

namespace World

variable {w : World} {h : HcdId} {env : Env}

/-- `virtusb_control_get_port_status` of a caller whose memory can be read and written. -/
theorem controlGetPortStatus_eq (hfrom : env.copyFromUser = true) (hto : env.copyToUser = true)
    (n : ℕ) : w.controlGetPortStatus h ⟨0, n⟩ env =
      if n > (w.topo.hubs h).portCount then .error .EINVAL
      else .ok (.portStatus (w.topo.hubs h).portCount (w.topo.controlBuildPortState h n)
        (if n = 0 then (List.range (w.topo.hubs h).portCount).map fun i =>
          w.topo.controlBuildPortState h (i + 1) else [])) := by
  simp [controlGetPortStatus, hfrom, hto]

/-- What the library answers on a file of the controller. -/
theorem libraryPortStatus_eq {handle : Library.Handle} (hfd : 0 ≤ handle.fd) (f : FilePtr)
    (nonblock : Bool) (env : Env) (port : BitVec 32) :
    Library.getPortStatus (some handle)
        (fun _ command m => (w.controlIoctl h true f nonblock command m env).2) 0 port =
      match w.controlGetPortStatus h ⟨0, port.toNat⟩ env with
      | .error e => .error (.errno e)
      | .ok (.portStatus portCount state ports) =>
          .ok (.ofReply 0 port portCount state ports)
      | .ok _ => .ok (.ofReply 0 port 0 {} []) := by
  have hhub : (UserMemory.ofWords [(0 : BitVec 32).toNat, port.toNat]).u32 0 = 0 := by
    have hword := UserMemory.word_ofWords [(0 : BitVec 32).toNat, port.toNat] 0
    simp only [Nat.mul_zero] at hword
    rw [UserMemory.u32, hword]
    rfl
  have hport : (UserMemory.ofWords [(0 : BitVec 32).toNat, port.toNat]).u32 4 = port.toNat := by
    have hword := UserMemory.word_ofWords [(0 : BitVec 32).toNat, port.toNat] 1
    rw [UserMemory.u32, hword]
    simp
  have hioctl : (w.controlIoctl h true f nonblock ioctlGetPortStatus
      (.ofWords [(0 : BitVec 32).toNat, port.toNat]) env).2 =
        w.controlGetPortStatus h ⟨0, port.toNat⟩ env := by
    rw [controlIoctl, hhub, hport]
    rfl
  rw [Library.getPortStatus, if_neg (by omega)]
  rcases hanswer : w.controlGetPortStatus h ⟨0, port.toNat⟩ env with e | reply
  · simp only [hioctl, hanswer]
  · cases reply <;> simp only [hioctl, hanswer]

section Queries

variable (hfrom : env.copyFromUser = true) (hto : env.copyToUser = true)

include hfrom hto

/-- The query of port 0 answers with the hub, and with all its ports. -/
theorem controlGetPortStatus_hub : w.controlGetPortStatus h ⟨0, 0⟩ env =
    .ok (.portStatus (w.topo.hubs h).portCount (w.topo.controlBuildPortState h 0)
      ((List.range (w.topo.hubs h).portCount).map fun i =>
        w.topo.controlBuildPortState h (i + 1))) :=
  controlGetPortStatus_eq hfrom hto 0

/-- The query of a port answers with this port only. -/
theorem controlGetPortStatus_port {port : ℕ} (hp : 0 < port)
    (hle : port ≤ (w.topo.hubs h).portCount) : w.controlGetPortStatus h ⟨0, port⟩ env =
      .ok (.portStatus (w.topo.hubs h).portCount (w.topo.controlBuildPortState h port) []) := by
  rw [controlGetPortStatus_eq hfrom hto, if_neg (Nat.not_lt.2 hle), if_neg (Nat.ne_of_gt hp)]

/-- The query of a port beyond the last one is refused. -/
theorem controlGetPortStatus_gt {port : ℕ} (hlt : (w.topo.hubs h).portCount < port) :
    w.controlGetPortStatus h ⟨0, port⟩ env = .error .EINVAL := by
  rw [controlGetPortStatus_eq hfrom hto, if_pos hlt]

end Queries

end World

/-- **The two views of a port agree.** -/
theorem views_agree {w : World} (hw : operations.Reachable w) (h : HcdId) {env : Env}
    (hfrom : env.copyFromUser = true) (hto : env.copyToUser = true) {handle : Library.Handle}
    (hfd : 0 ≤ handle.fd) (f : FilePtr) (nonblock : Bool) :
    let t := w.topo
    let n := (t.hubs h).portCount
    let query := fun port : BitVec 32 => w.controlGetPortStatus h ⟨0, port.toNat⟩ env
    let library := Library.getPortStatus (some handle)
      (fun _ command m => (w.controlIoctl h true f nonblock command m env).2) 0
    ∃ hub snapshot status,
      query 0 = .ok (.portStatus n hub snapshot) ∧ snapshot.length = n ∧
      library 0 = .ok status ∧ status.portCount = n ∧ status.state.Shows hub ∧
      hub.status.getLsbD 3 = (getUnalignedLe16 (t.hcdGetHubStatus h).buf).getLsbD 1 ∧
      hub.change.getLsbD 3 = (getUnalignedLe16 ((t.hcdGetHubStatus h).buf.drop 2)).getLsbD 1 ∧
      (∀ port : BitVec 32, 1 ≤ port.toNat → port.toNat ≤ n → ∃ state passed reply,
        query port = .ok (.portStatus n state []) ∧ snapshot[port.toNat - 1]? = some state ∧
        library port = .ok passed ∧ passed.state.Shows state ∧
        status.ports[port.toNat - 1]? = some passed.state ∧
        t.hcdGetPortStatus h port.toNat = .ok reply ∧
        (getUnalignedLe16 reply.buf).setWidth 32 =
          state.status ||| bitIf (state.speed = .low) 9 ||| bitIf (state.speed = .high) 10 ∧
        state.status.getLsbD 9 = false ∧ state.status.getLsbD 10 = false ∧
        (getUnalignedLe16 (reply.buf.drop 2)).setWidth 32 = state.change) ∧
      ∀ port : BitVec 32, n < port.toNat →
        query port = .error .EINVAL ∧ library port = .error (.errno .EINVAL) ∧
        t.hcdGetPortStatus h port.toNat = .error .EPIPE ∧
        ∀ value index, index % 256 = port.toNat →
          (t.hcdHubControl h getPortStatus value index).2 = .error .EPIPE := by
  intro t n query library
  have hcount : n ≤ Library.maxPorts := (World.sound_of_reachable hw).topo.wired.count h
  have hlibrary := World.libraryPortStatus_eq (w := w) (h := h) hfd f nonblock env
  have hquery : query 0 = .ok (.portStatus n (t.controlBuildPortState h 0)
      ((List.range n).map fun i => t.controlBuildPortState h (i + 1))) :=
    World.controlGetPortStatus_hub hfrom hto
  have hpassed : ∀ {port portCount state ports},
      query port = .ok (.portStatus portCount state ports) →
      library port = .ok (.ofReply 0 port portCount state ports) := fun {port _ _ _} heq =>
    (hlibrary port).trans (by rw [show w.controlGetPortStatus h ⟨0, port.toNat⟩ env = _ from heq])
  refine ⟨t.controlBuildPortState h 0, _, _, hquery, by simp, hpassed hquery, rfl,
    Library.shows_stateFromUapi _, Topology.getLsbD_hub.1, Topology.getLsbD_hub.2,
    fun port hp₁ hpn => ?_, fun port hlt => ?_⟩
  · have hport : query port =
        .ok (.portStatus n (t.controlBuildPortState h port.toNat) []) :=
      World.controlGetPortStatus_port hfrom hto hp₁ hpn
    have hlt : port.toNat - 1 < n := by omega
    have hpos : port.toNat - 1 + 1 = port.toNat := by omega
    obtain ⟨reply, hreply, hstatus, hchange⟩ :=
      Topology.hcdGetPortStatus_views hp₁ (Topology.valid_iff.2 ⟨hp₁, hpn⟩)
    refine ⟨_, _, reply, hport, ?_, hpassed hport, Library.shows_stateFromUapi _, ?_, hreply,
      hstatus, Topology.getLsbD_speed_flags.1, Topology.getLsbD_speed_flags.2, hchange⟩
    · rw [List.getElem?_map, List.getElem?_range hlt, Option.map_some, hpos]
    · rw [Library.Status.ofReply_ports _ _ hcount hlt]
      simp [hlt, hpos, Library.Status.ofReply]
  · have hrefused : query port = .error .EINVAL :=
      World.controlGetPortStatus_gt hfrom hto hlt
    have hpipe := Topology.hcdGetPortStatus_of_gt (h := h) (t := t) hlt
    refine ⟨hrefused, ?_, hpipe, fun value index hindex => ?_⟩
    · refine (hlibrary port).trans ?_
      rw [show w.controlGetPortStatus h ⟨0, port.toNat⟩ env = _ from hrefused]
    · simp only [Topology.hcdHubControl, hindex, hpipe]
      rfl

/-- A low-speed device, attached and reset: the host sees the low-speed flag besides. -/
theorem views_agree_example : ∃ w, operations.Reachable w ∧ ∃ state reply,
    w.controlGetPortStatus 0 ⟨0, 1⟩ {} = .ok (.portStatus 2 state []) ∧
      w.topo.hcdGetPortStatus 0 1 = .ok reply ∧ state.speed = .low ∧
      (getUnalignedLe16 reply.buf).setWidth 32 = state.status ||| 0x200 := by
  obtain ⟨w, hw, hp⟩ := exists_reachable_of_exec (I := World.Initialised)
    (f := fun w op => some (World.operate w op).1) (s := World.oneHub)
    (l := [.create 1 {}, .connection 0 true, .setPortPower 0 1 true, .attach 0 0 1,
      .hubControl 0 setPortFeature portFeatReset 1])
    (p := fun w => decide ((w.topo.hubs 0).portCount = 2) &&
      decide ((w.topo.controlBuildPortState 0 1).speed = .low))
    World.oneHub_initialised (by decide)
  obtain ⟨hcount, hspeed⟩ := Bool.and_eq_true_iff.1 hp
  have hcount := of_decide_eq_true hcount
  obtain ⟨hub, snapshot, status, -, -, -, -, -, -, -, hports, -⟩ :=
    views_agree hw 0 (show ({} : Env).copyFromUser = true from rfl) rfl
      (show 0 ≤ (⟨3⟩ : Library.Handle).fd by decide) 0 false
  obtain ⟨state, -, reply, hquery, -, -, -, -, hreply, hword, -⟩ := hports 1 (by decide)
    (by rw [hcount]; decide)
  simp only [hcount] at hquery
  have hbuilt : w.controlGetPortStatus 0 ⟨0, 1⟩ {} =
      .ok (.portStatus 2 (w.topo.controlBuildPortState 0 1) []) := by
    rw [World.controlGetPortStatus_eq rfl rfl, hcount]
    rfl
  obtain rfl : w.topo.controlBuildPortState 0 1 = state := by
    simpa using hbuilt.symm.trans hquery
  have hlow := of_decide_eq_true hspeed
  rw [hlow] at hword
  exact ⟨w, hw, _, reply, hbuilt, hreply, hlow, hword.trans (BitVec.or_zero)⟩

end VirtUsb
