/-
# Speed lists

`virtusbctl_parse_speed_caps` of `tools/virtusbctl/main.c`.  A list of speeds is copied to
a buffer of 64 bytes and read field by field; each field adds its bit to a mask, which is
stored for the caller at the end.  The mask goes to the module, which checks it twice: in
`virtusb_control_speed_caps_valid` and in `virtusb_port_init`.
-/

import VirtUsb.Lib.Strtok
import VirtUsb.Kernel.Control
import VirtUsb.ControlPlane.Protocol

namespace VirtUsb

namespace Tools

open Strtok

/-- A string of the C library: bytes, none of which is zero. -/
structure CString where
  chars : List Byte
  noZero : 0 ∉ chars

/-- The bytes of a text. -/
def ascii (chars : List Char) : List Byte := chars.map fun c => BitVec.ofNat 8 c.toNat

/-- `','`, the delimiter of the list. -/
def comma : Byte := 0x2c
/-- `"low"`. -/
def low : List Byte := ascii ['l', 'o', 'w']
/-- `"full"`. -/
def full : List Byte := ascii ['f', 'u', 'l', 'l']
/-- `"high"`. -/
def high : List Byte := ascii ['h', 'i', 'g', 'h']

/-- `VIRTUSB_DEVICE_SPEED_LOW`. -/
def deviceSpeedLow : BitVec 32 := 1
/-- `VIRTUSB_DEVICE_SPEED_FULL`. -/
def deviceSpeedFull : BitVec 32 := 2
/-- `VIRTUSB_DEVICE_SPEED_HIGH`. -/
def deviceSpeedHigh : BitVec 32 := 4

/-- The bit that a token adds to the mask. -/
def tokenCap (token : List Byte) : Option (BitVec 32) :=
  if token = low then some deviceSpeedLow
  else if token = full then some deviceSpeedFull
  else if token = high then some deviceSpeedHigh
  else none

/-- The loop over the tokens. -/
def parseTokens (buffer : Memory) (saveptr : ℕ) (caps : BitVec 32) :
    Memory × Except Errno (BitVec 32) :=
  match _hs : buffer.strtokR comma saveptr with
  | (buffer', _, none) => (buffer', .ok caps)
  | (buffer', saveptr', some token) =>
      match tokenCap (buffer'.string token) with
      | none => (buffer', .error .EINVAL)
      | some cap => parseTokens buffer' saveptr' (caps ||| cap)
termination_by buffer.bytes.length - saveptr
decreasing_by
  obtain ⟨hlt, hp, hlen⟩ := Memory.lt_of_strtokR _hs
  omega

/-- What the function returns, what it leaves at the pointer of its caller, `none` for
`NULL`, and its buffer. -/
structure Outcome where
  ret : Except Errno Unit
  speedCaps : Option (BitVec 32)
  buffer : Memory

/-- `sizeof(buffer)`. -/
def bufferSize : ℕ := 64

/-- `virtusbctl_parse_speed_caps`; `garbage` is what the buffer contains at first. -/
def parseSpeedCaps (text : Option CString) (speedCaps : Option (BitVec 32))
    (garbage : Vector Byte bufferSize) : Outcome :=
  let buffer : Memory := { bytes := garbage.toList }
  match text, speedCaps with
  | some text, some _ =>
      let length := text.chars.length
      if length = 0 ∨ length ≥ bufferSize then ⟨.error .EINVAL, speedCaps, buffer⟩
      else
        match parseTokens (buffer.copy (text.chars ++ [0])) 0 0 with
        | (buffer', .error e) => ⟨.error e, speedCaps, buffer'⟩
        | (buffer', .ok caps) =>
            if caps = 0 then ⟨.error .EINVAL, speedCaps, buffer'⟩ else ⟨.ok (), some caps, buffer'⟩
  | _, _ => ⟨.error .EINVAL, speedCaps, buffer⟩

/-! ### The tokens -/

/-- The bits of some tokens, added to a mask. -/
def addCaps (caps : BitVec 32) (tokens : List (List Byte)) : BitVec 32 :=
  tokens.foldl (fun caps token => caps ||| (tokenCap token).getD 0) caps

/-- **What the loop makes of a string.**  It adds the bit of each field that is not empty,
and fails exactly if one of them names no speed. -/
theorem parseTokens_spec (tokens : List (List Byte)) (caps : BitVec 32) {m : Memory} {p : ℕ}
    (ht : m.Terminated p) (hf : fields comma (m.string p) = tokens) :
    ((∀ token ∈ tokens, tokenCap token ≠ none) →
      (parseTokens m p caps).2 = .ok (addCaps caps tokens)) ∧
    ((∃ token ∈ tokens, tokenCap token = none) → (parseTokens m p caps).2 = .error .EINVAL) ∧
    ∀ i ∈ (parseTokens m p caps).1.written, i ∈ m.written ∨ i < m.bytes.length := by
  induction tokens generalizing m p caps with
  | nil =>
      rcases Memory.strtokR_spec (d := comma) ht with ⟨-, p', hs⟩ | ⟨m', p', start, -, -, hcons, -⟩
      · rw [parseTokens]
        split
        · rename_i m' p'' hs'
          rw [hs] at hs'
          simp only [Prod.mk.injEq, and_true] at hs'
          obtain ⟨rfl, rfl⟩ := hs'
          exact ⟨fun _ => rfl, by simp, fun i hi => .inl hi⟩
        · rename_i hs'
          rw [hs] at hs'
          simp at hs'
      · rw [hf] at hcons
        exact absurd hcons (by simp)
  | cons token tokens ih =>
      rcases Memory.strtokR_spec (d := comma) ht with
        ⟨hnil, -⟩ | ⟨m', p', start, hs, ht', hcons, hwritten⟩
      · rw [hf] at hnil
        exact absurd hnil (by simp)
      rw [hf] at hcons
      obtain ⟨hfirst, hrest⟩ := List.cons.inj hcons
      rw [parseTokens]
      split
      · rename_i hs'
        rw [hs] at hs'
        simp at hs'
      rename_i m'' p'' start' hs'
      rw [hs] at hs'
      simp only [Prod.mk.injEq, Option.some.injEq] at hs'
      obtain ⟨rfl, rfl, rfl⟩ := hs'
      rw [← hfirst]
      rcases hcap : tokenCap token with _ | cap
      · refine ⟨fun hall => absurd hcap (hall token (by simp)), fun _ => rfl, hwritten⟩
      · have hlen := (Memory.lt_of_strtokR hs).2.2
        obtain ⟨hok, herror, hout⟩ := ih (caps ||| cap) ht' hrest.symm
        refine ⟨fun hall => ?_, fun hone => ?_, fun i hi => ?_⟩
        · rw [hok fun token htoken => hall token (by simp [htoken]), addCaps, addCaps,
            List.foldl_cons, hcap]
          rfl
        · obtain ⟨other, hmem, hnone⟩ := hone
          rcases List.mem_cons.1 hmem with rfl | hmem
          · exact absurd (hcap.symm.trans hnone) (by simp)
          · exact herror ⟨other, hmem, hnone⟩
        · rcases hout i hi with hi | hi
          · exact hwritten i hi
          · exact .inr (by omega)

/-! ### The mask -/

/-- The name of a speed in a list. -/
def speedName : PortSpeed → Option (List Byte)
  | .none => none
  | .low => some low
  | .full => some full
  | .high => some high

/-- The position of a speed in a mask. -/
def speedBit : PortSpeed → Option ℕ
  | .none => none
  | .low => some 0
  | .full => some 1
  | .high => some 2

/-- Every speed has a bit of its own. -/
theorem speedBit_inj {speed speed' : PortSpeed} {i : ℕ} (hi : speedBit speed = some i)
    (hi' : speedBit speed' = some i) : speed = speed' := by
  have hsame := hi.trans hi'.symm
  revert hsame
  cases speed <;> cases speed' <;> decide

/-- The tokens that add a bit. -/
theorem tokenCap_ne_none {token : List Byte} :
    tokenCap token ≠ none ↔ token = low ∨ token = full ∨ token = high := by
  rw [tokenCap]
  split_ifs <;> simp_all

/-- A token adds the bit of the speed that it names, and no other. -/
theorem getLsbD_tokenCap (token : List Byte) (i : ℕ) :
    ((tokenCap token).getD 0).getLsbD i = true ↔
      ∃ speed, speedName speed = some token ∧ speedBit speed = some i := by
  have hbit : ∀ (n : ℕ), (Bitmap.bit 32 n).getLsbD i = true ↔ i < 32 ∧ i = n := fun n => by
    simp [Bitmap.getLsbD_bit]
  rw [tokenCap]
  split_ifs with hlow hfull hhigh
  · subst hlow
    refine (hbit 0).trans ⟨fun hi => ⟨.low, rfl, congrArg some hi.2.symm⟩, ?_⟩
    rintro ⟨_ | _ | _ | _, hname, hi⟩
    · exact absurd hname (by decide)
    · obtain rfl := Option.some.inj hi
      exact ⟨by decide, rfl⟩
    · exact absurd hname (by decide)
    · exact absurd hname (by decide)
  · subst hfull
    refine (hbit 1).trans ⟨fun hi => ⟨.full, rfl, congrArg some hi.2.symm⟩, ?_⟩
    rintro ⟨_ | _ | _ | _, hname, hi⟩
    · exact absurd hname (by decide)
    · exact absurd hname (by decide)
    · obtain rfl := Option.some.inj hi
      exact ⟨by decide, rfl⟩
    · exact absurd hname (by decide)
  · subst hhigh
    refine (hbit 2).trans ⟨fun hi => ⟨.high, rfl, congrArg some hi.2.symm⟩, ?_⟩
    rintro ⟨_ | _ | _ | _, hname, hi⟩
    · exact absurd hname (by decide)
    · exact absurd hname (by decide)
    · exact absurd hname (by decide)
    · obtain rfl := Option.some.inj hi
      exact ⟨by decide, rfl⟩
  · constructor
    · intro hi
      simp at hi
    · rintro ⟨_ | _ | _ | _, hname, -⟩
      · exact absurd hname (by simp [speedName])
      · exact absurd (Option.some.inj hname).symm hlow
      · exact absurd (Option.some.inj hname).symm hfull
      · exact absurd (Option.some.inj hname).symm hhigh

/-- A bit of the mask was there before, or one of the tokens adds it. -/
theorem getLsbD_addCaps (tokens : List (List Byte)) (caps : BitVec 32) (i : ℕ) :
    (addCaps caps tokens).getLsbD i = true ↔ caps.getLsbD i = true ∨
      ∃ speed, speedBit speed = some i ∧ ∃ token ∈ tokens, speedName speed = some token := by
  induction tokens generalizing caps with
  | nil => simp [addCaps]
  | cons token tokens ih =>
      have hstep : addCaps caps (token :: tokens) =
          addCaps (caps ||| (tokenCap token).getD 0) tokens := rfl
      rw [hstep, ih, BitVec.getLsbD_or, Bool.or_eq_true, getLsbD_tokenCap]
      constructor
      · rintro ((hi | ⟨speed, hname, hbit⟩) | ⟨speed, hbit, other, hmem, hname⟩)
        · exact .inl hi
        · exact .inr ⟨speed, hbit, token, by simp, hname⟩
        · exact .inr ⟨speed, hbit, other, by simp [hmem], hname⟩
      · rintro (hi | ⟨speed, hbit, other, hmem, hname⟩)
        · exact .inl (.inl hi)
        · rcases List.mem_cons.1 hmem with rfl | hmem
          · exact .inl (.inr ⟨speed, hname, hbit⟩)
          · exact .inr ⟨speed, hbit, other, hmem, hname⟩

/-- Which speeds a mask names. -/
theorem mem_speedsOf_setWidth {caps : BitVec 32} {speed : PortSpeed} :
    speed ∈ speedsOf (caps.setWidth 8) ↔ ∃ i, speedBit speed = some i ∧ caps.getLsbD i = true := by
  have hbit : ∀ i < 8, (caps.setWidth 8 &&& Bitmap.bit 8 i ≠ 0) ↔ caps.getLsbD i = true := by
    intro i hi
    have htest := Bitmap.test_eq_getLsbD (caps.setWidth 8) i
    rw [BitVec.getLsbD_setWidth, decide_eq_true hi, Bool.true_and] at htest
    rw [← htest]
    simp [Bitmap.test]
  cases speed with
  | none => simp [speedsOf, PortSpeed.capability, speedBit]
  | low => exact (hbit 0 (by decide)).trans (by simp [speedBit])
  | full => exact (hbit 1 (by decide)).trans (by simp [speedBit])
  | high => exact (hbit 2 (by decide)).trans (by simp [speedBit])

/-- The module accepts the masks that have one of the three lowest bits and no other. -/
theorem speedCapsValid_iff {caps : BitVec 32} : controlSpeedCapsValid caps = true ↔
    caps ≠ 0 ∧ ∀ i, caps.getLsbD i = true → i < 3 := by
  have hall : ∀ i < 32, (~~~speedCapAll).getLsbD i = decide (3 ≤ i) := by decide
  have hmask : caps &&& ~~~speedCapAll = 0 ↔ ∀ i, caps.getLsbD i = true → i < 3 := by
    constructor
    · intro hzero i hi
      have hlt := BitVec.lt_of_getLsbD hi
      have hbit : (caps &&& ~~~speedCapAll).getLsbD i = false := by
        rw [hzero]
        exact BitVec.getLsbD_zero
      rw [BitVec.getLsbD_and, hi, hall i hlt] at hbit
      simpa using hbit
    · intro hbits
      refine BitVec.eq_of_getLsbD_eq fun i hi => ?_
      rw [BitVec.getLsbD_and, hall i hi]
      by_cases hset : caps.getLsbD i = true
      · simp [hbits i hset]
      · simp [hset]
  rw [controlSpeedCapsValid, Bool.and_eq_true, decide_eq_true_iff, decide_eq_true_iff, hmask]

/-- Every position of an accepted mask is that of a speed. -/
theorem exists_speedBit : ∀ {i : ℕ}, i < 3 → ∃ speed, speedBit speed = some i
  | 0, _ => ⟨.low, rfl⟩
  | 1, _ => ⟨.full, rfl⟩
  | 2, _ => ⟨.high, rfl⟩

/-- An accepted mask is determined by the speeds it names. -/
theorem speedCaps_ext {caps caps' : BitVec 32} (hc : controlSpeedCapsValid caps = true)
    (hc' : controlSpeedCapsValid caps' = true)
    (hs : speedsOf (caps.setWidth 8) = speedsOf (caps'.setWidth 8)) : caps = caps' := by
  have hsub : ∀ {c c' : BitVec 32}, controlSpeedCapsValid c = true →
      speedsOf (c.setWidth 8) = speedsOf (c'.setWidth 8) →
        ∀ i, c.getLsbD i = true → c'.getLsbD i = true := by
    intro c c' hc hs i hi
    obtain ⟨speed, hspeed⟩ := exists_speedBit ((speedCapsValid_iff.1 hc).2 i hi)
    have hmem : speed ∈ speedsOf (c'.setWidth 8) := by
      rw [← hs]
      exact mem_speedsOf_setWidth.2 ⟨i, hspeed, hi⟩
    obtain ⟨j, hj, hbit⟩ := mem_speedsOf_setWidth.1 hmem
    obtain rfl := Option.some.inj (hspeed.symm.trans hj)
    exact hbit
  refine BitVec.eq_of_getLsbD_eq fun i _ => ?_
  rw [Bool.eq_iff_iff]
  exact ⟨hsub hc hs i, hsub hc' hs.symm i⟩

/-- **The module takes an accepted mask as it is** for the upstream port of a device. -/
theorem portInit_of_speedCapsValid {caps : BitVec 32} (hc : controlSpeedCapsValid caps = true)
    (owner : PortOwner) : ∃ port, portInit .upstream (caps.setWidth 8) owner = .ok port ∧
      port.speed.setWidth 32 = caps := by
  obtain ⟨hne, hbits⟩ := speedCapsValid_iff.1 hc
  have hwidth : (caps.setWidth 8).setWidth 32 = caps := by
    refine BitVec.eq_of_getLsbD_eq fun i hi => ?_
    rw [BitVec.getLsbD_setWidth, BitVec.getLsbD_setWidth, decide_eq_true hi, Bool.true_and]
    by_cases hlow : i < 8
    · simp [hlow]
    · have hoff : caps.getLsbD i = false := by
        by_contra hset
        have hlt := hbits i (Bool.eq_true_of_not_eq_false hset)
        omega
      simp [hoff]
  have hne8 : caps.setWidth 8 ≠ 0 := by
    intro hzero
    rw [hzero] at hwidth
    exact hne hwidth.symm
  have hcaps : caps.setWidth 8 &&& ~~~portSpeedCapAll = 0 := by
    have hall : ∀ i < 8, (~~~portSpeedCapAll).getLsbD i = decide (3 ≤ i) := by decide
    refine BitVec.eq_of_getLsbD_eq fun i hi => ?_
    rw [BitVec.getLsbD_and, hall i hi, BitVec.getLsbD_setWidth]
    by_cases hset : caps.getLsbD i = true
    · simp [hbits i hset]
    · simp [hset]
  have hvalid : portSpeedIsValid (caps.setWidth 8) = true := by
    rw [portSpeedIsValid, if_neg hne8, hcaps]
    rfl
  exact ⟨{ role := .upstream, owner := some owner, speed := caps.setWidth 8 },
    by simp [portInit, hvalid], hwidth⟩

/-! ### The grammar -/

/-- A list of speeds: short, with at least one field that is not empty, and every such field
names a speed. -/
structure SpeedList (text : CString) : Prop where
  pos : 1 ≤ text.chars.length
  short : text.chars.length ≤ 63
  nonempty : ∃ field ∈ text.chars.splitOn comma, field ≠ []
  named : ∀ field ∈ text.chars.splitOn comma, field ≠ [] →
    field = low ∨ field = full ∨ field = high

/-- The speeds that the fields of a text name. -/
def speedsIn (text : CString) : Set PortSpeed :=
  { speed | ∃ field ∈ text.chars.splitOn comma, speedName speed = some field }

/-- The fields are the pieces between the commas that are not empty. -/
theorem mem_fields {s token : List Byte} :
    token ∈ fields comma s ↔ token ∈ s.splitOn comma ∧ token ≠ [] := by
  simp [fields]

/-- The name of a speed is not empty. -/
theorem ne_nil_of_speedName {speed : PortSpeed} {name : List Byte}
    (hname : speedName speed = some name) : name ≠ [] := by
  cases speed with
  | none => exact absurd hname (by simp [speedName])
  | _ =>
      obtain rfl := Option.some.inj hname
      decide

/-- The text, copied to the buffer. -/
theorem string_copy (text : CString) (m : Memory) :
    (m.copy (text.chars ++ [0])).string 0 = text.chars := by
  have hall : ∀ x ∈ text.chars, decide (x ≠ 0) = true := by
    intro x hx
    rw [decide_eq_true_iff]
    rintro rfl
    exact text.noZero hx
  rw [Memory.string, Memory.copy, List.drop_zero, List.append_assoc,
    List.takeWhile_append_of_pos hall]
  simp

/-- A mask of fields that name speeds is empty exactly if there is no such field. -/
theorem addCaps_eq_zero_iff {tokens : List (List Byte)}
    (hall : ∀ token ∈ tokens, tokenCap token ≠ none) : addCaps 0 tokens = 0 ↔ tokens = [] := by
  constructor
  · intro hzero
    by_contra hne
    obtain ⟨token, rest, rfl⟩ := List.exists_cons_of_ne_nil hne
    obtain ⟨speed, i, hname, hi⟩ : ∃ speed i, speedName speed = some token ∧
        speedBit speed = some i := by
      rcases tokenCap_ne_none.1 (hall token (by simp)) with rfl | rfl | rfl
      · exact ⟨.low, 0, rfl, rfl⟩
      · exact ⟨.full, 1, rfl, rfl⟩
      · exact ⟨.high, 2, rfl, rfl⟩
    have hbit := (getLsbD_addCaps (token :: rest) 0 i).2 (.inr ⟨speed, hi, token, by simp, hname⟩)
    rw [hzero] at hbit
    simp at hbit
  · rintro rfl
    rfl

/-- A list of speeds, in terms of the fields that the loop reads. -/
theorem speedList_iff {text : CString} : SpeedList text ↔
    (1 ≤ text.chars.length ∧ text.chars.length ≤ 63) ∧ fields comma text.chars ≠ [] ∧
      ∀ token ∈ fields comma text.chars, tokenCap token ≠ none := by
  constructor
  · rintro ⟨hpos, hshort, ⟨field, hmem, hne⟩, hnamed⟩
    refine ⟨⟨hpos, hshort⟩, List.ne_nil_of_mem (mem_fields.2 ⟨hmem, hne⟩), fun token ht => ?_⟩
    obtain ⟨hsplit, hne⟩ := mem_fields.1 ht
    exact tokenCap_ne_none.2 (hnamed token hsplit hne)
  · rintro ⟨⟨hpos, hshort⟩, hnil, hall⟩
    obtain ⟨token, ht⟩ := List.exists_mem_of_ne_nil _ hnil
    exact ⟨hpos, hshort, ⟨token, mem_fields.1 ht⟩, fun field hmem hne =>
      tokenCap_ne_none.1 (hall field (mem_fields.2 ⟨hmem, hne⟩))⟩

/-- The buffer after the copy: the text is in it, ends in it, and nothing was written behind it. -/
theorem copied_buffer (text : CString) (garbage : Vector Byte bufferSize)
    (hlen : text.chars.length < 64) :
    let m := Memory.copy { bytes := garbage.toList } (text.chars ++ [0])
    m.string 0 = text.chars ∧ m.bytes.length = 64 ∧ m.Terminated 0 ∧ ∀ i ∈ m.written, i < 64 := by
  intro m
  have hstring : m.string 0 = text.chars := string_copy text _
  have hbytes : m.bytes.length = 64 := by
    have hgarbage : garbage.toList.length = 64 := garbage.length_toList
    simp only [m, Memory.copy, List.length_append, List.length_drop, List.length_singleton]
    omega
  refine ⟨hstring, hbytes, ?_, fun i hi => ?_⟩
  · rw [Memory.Terminated, hstring, hbytes]
    omega
  · simp only [m, Memory.copy, List.nil_append, List.mem_range, List.length_append,
      List.length_singleton] at hi
    omega

/-- **What the tool makes of a text**, in terms of its fields. -/
theorem parseSpeedCaps_spec (text : CString) (mask : BitVec 32)
    (garbage : Vector Byte bufferSize) :
    let outcome := parseSpeedCaps (some text) (some mask) garbage
    (SpeedList text ∧ outcome.ret = .ok () ∧
        outcome.speedCaps = some (addCaps 0 (fields comma text.chars)) ∨
      ¬ SpeedList text ∧ outcome.ret = .error .EINVAL ∧ outcome.speedCaps = some mask) ∧
    ∀ i ∈ outcome.buffer.written, i < 64 := by
  intro outcome
  rw [speedList_iff]
  by_cases hlen : text.chars.length = 0 ∨ text.chars.length ≥ bufferSize
  · have houtcome : outcome = ⟨.error .EINVAL, some mask, { bytes := garbage.toList }⟩ :=
      if_pos hlen
    rw [houtcome]
    refine ⟨.inr ⟨fun hlist => ?_, rfl, rfl⟩, by simp⟩
    rw [bufferSize] at hlen
    omega
  have hbounds : 1 ≤ text.chars.length ∧ text.chars.length ≤ 63 := by
    rw [bufferSize] at hlen
    omega
  obtain ⟨hstring, hbytes, hterm, hcopied⟩ :=
    copied_buffer text garbage (Nat.lt_succ_of_le hbounds.2)
  set m : Memory := Memory.copy { bytes := garbage.toList } (text.chars ++ [0])
  obtain ⟨hok, herror, hwritten⟩ := parseTokens_spec _ 0 hterm rfl
  rw [hstring] at hok herror
  have houtcome : outcome = match parseTokens m 0 0 with
      | (buffer', .error e) => ⟨.error e, some mask, buffer'⟩
      | (buffer', .ok caps) =>
          if caps = 0 then ⟨.error .EINVAL, some mask, buffer'⟩ else ⟨.ok (), some caps, buffer'⟩ :=
    if_neg hlen
  have hinside : ∀ i ∈ (parseTokens m 0 0).1.written, i < 64 := fun i hi =>
    (hwritten i hi).elim (hcopied i) fun hlt => hbytes ▸ hlt
  rcases hparse : parseTokens m 0 0 with ⟨buffer', result⟩
  rw [hparse] at hok herror hinside houtcome
  by_cases hall : ∀ token ∈ fields comma text.chars, tokenCap token ≠ none
  · obtain rfl : result = _ := hok hall
    dsimp only at houtcome
    by_cases hnil : fields comma text.chars = []
    · rw [if_pos ((addCaps_eq_zero_iff hall).2 hnil)] at houtcome
      rw [houtcome]
      exact ⟨.inr ⟨fun hlist => hlist.2.1 hnil, rfl, rfl⟩, hinside⟩
    · rw [if_neg fun hzero => hnil ((addCaps_eq_zero_iff hall).1 hzero)] at houtcome
      rw [houtcome]
      exact ⟨.inl ⟨⟨hbounds, hnil, hall⟩, rfl, rfl⟩, hinside⟩
  · have hunknown : ∃ token ∈ fields comma text.chars, tokenCap token = none := by
      push Not at hall
      exact hall
    obtain rfl : result = _ := herror hunknown
    rw [houtcome]
    exact ⟨.inr ⟨fun hlist => hall hlist.2.2, rfl, rfl⟩, hinside⟩

/-- The mask of a list of speeds names the speeds of the list, and the module accepts it. -/
theorem speedCaps_of_speedList {text : CString} (hlist : SpeedList text) :
    controlSpeedCapsValid (addCaps 0 (fields comma text.chars)) = true ∧
      speedsOf ((addCaps 0 (fields comma text.chars)).setWidth 8) = speedsIn text := by
  have hall : ∀ token ∈ fields comma text.chars, tokenCap token ≠ none := by
    intro token htoken
    obtain ⟨hmem, hne⟩ := mem_fields.1 htoken
    exact tokenCap_ne_none.2 (hlist.named token hmem hne)
  have hbits : ∀ i, (addCaps 0 (fields comma text.chars)).getLsbD i = true ↔
      ∃ speed, speedBit speed = some i ∧ speed ∈ speedsIn text := by
    intro i
    rw [getLsbD_addCaps]
    constructor
    · rintro (hzero | ⟨speed, hi, token, hmem, hname⟩)
      · simp at hzero
      · exact ⟨speed, hi, token, (mem_fields.1 hmem).1, hname⟩
    · rintro ⟨speed, hi, token, hmem, hname⟩
      exact .inr ⟨speed, hi, token, mem_fields.2 ⟨hmem, ne_nil_of_speedName hname⟩, hname⟩
  refine ⟨speedCapsValid_iff.2 ⟨fun hzero => ?_, fun i hi => ?_⟩, ?_⟩
  · obtain ⟨field, hmem, hne⟩ := hlist.nonempty
    have hfield := mem_fields.2 ⟨hmem, hne⟩
    rw [(addCaps_eq_zero_iff hall).1 hzero] at hfield
    exact absurd hfield (by simp)
  · obtain ⟨speed, hi, -⟩ := (hbits i).1 hi
    cases speed with
    | none => exact absurd hi (by simp [speedBit])
    | _ =>
        obtain rfl := Option.some.inj hi
        decide
  · ext speed
    rw [mem_speedsOf_setWidth]
    constructor
    · rintro ⟨i, hi, hset⟩
      obtain ⟨speed', hi', hmem⟩ := (hbits i).1 hset
      exact speedBit_inj hi' hi ▸ hmem
    · rintro ⟨field, hmem, hname⟩
      obtain ⟨i, hi⟩ : ∃ i, speedBit speed = some i := by
        cases speed with
        | none => exact absurd hname (by simp [speedName])
        | _ => exact ⟨_, rfl⟩
      exact ⟨i, hi, (hbits i).2 ⟨speed, hi, field, hmem, hname⟩⟩

/-- A text for three choices. -/
def speedText (a b c : Bool) : CString where
  chars := (if a then low ++ [comma] else []) ++ (if b then full ++ [comma] else []) ++
    (if c then high ++ [comma] else [])
  noZero := by revert a b c; decide

/-- The pieces of a text that was printed for three flags. -/
theorem splitOn_speedText : ∀ a b c : Bool, (speedText a b c).chars.splitOn comma =
    (if a then [low] else []) ++ (if b then [full] else []) ++ (if c then [high] else []) ++
      [[]] := by
  decide

/-- Every mask that the module accepts has a text. -/
theorem exists_text {caps : BitVec 32} (hc : controlSpeedCapsValid caps = true) :
    ∃ text, SpeedList text ∧ speedsIn text = speedsOf (caps.setWidth 8) := by
  obtain ⟨hne, hbits⟩ := speedCapsValid_iff.1 hc
  set text := speedText (caps.getLsbD 0) (caps.getLsbD 1) (caps.getLsbD 2) with htext
  have hsplit := splitOn_speedText (caps.getLsbD 0) (caps.getLsbD 1) (caps.getLsbD 2)
  rw [← htext] at hsplit
  have hmem : ∀ field, field ∈ text.chars.splitOn comma ↔ caps.getLsbD 0 = true ∧ field = low ∨
      caps.getLsbD 1 = true ∧ field = full ∨ caps.getLsbD 2 = true ∧ field = high ∨ field = [] := by
    intro field
    rw [hsplit]
    cases caps.getLsbD 0 <;> cases caps.getLsbD 1 <;> cases caps.getLsbD 2 <;> simp
  obtain ⟨i, hi⟩ : ∃ i, caps.getLsbD i = true := by
    by_contra hno
    push Not at hno
    exact hne (BitVec.eq_of_getLsbD_eq fun i _ => by simpa using hno i)
  have hfield : ∃ field ∈ text.chars.splitOn comma, field ≠ [] := by
    obtain ⟨speed, hspeed⟩ := exists_speedBit (hbits i hi)
    cases speed with
    | none => exact absurd hspeed (by simp [speedBit])
    | low =>
        obtain rfl := Option.some.inj hspeed
        exact ⟨low, (hmem _).2 (.inl ⟨hi, rfl⟩), by decide⟩
    | full =>
        obtain rfl := Option.some.inj hspeed
        exact ⟨full, (hmem _).2 (.inr (.inl ⟨hi, rfl⟩)), by decide⟩
    | high =>
        obtain rfl := Option.some.inj hspeed
        exact ⟨high, (hmem _).2 (.inr (.inr (.inl ⟨hi, rfl⟩))), by decide⟩
  have hlength : ∀ a b c : Bool, (speedText a b c).chars.length ≤ 63 := by decide
  have hpos : 1 ≤ text.chars.length := by
    obtain ⟨field, hmem, hne⟩ := hfield
    refine Nat.pos_of_ne_zero fun hzero => hne ?_
    rw [List.length_eq_zero_iff.1 hzero] at hmem
    simpa using hmem
  refine ⟨text, ⟨hpos, hlength _ _ _, hfield, fun field hin hne => ?_⟩, ?_⟩
  · rcases (hmem field).1 hin with ⟨-, h⟩ | ⟨-, h⟩ | ⟨-, h⟩ | h
    · exact .inl h
    · exact .inr (.inl h)
    · exact .inr (.inr h)
    · exact absurd h hne
  · ext speed
    have hname : speed ∈ speedsIn text ↔
        ∃ field, speedName speed = some field ∧ field ∈ text.chars.splitOn comma :=
      ⟨fun ⟨field, hin, hname⟩ => ⟨field, hname, hin⟩,
        fun ⟨field, hname, hin⟩ => ⟨field, hin, hname⟩⟩
    rw [hname, mem_speedsOf_setWidth]
    cases speed with
    | none => simp [speedName, speedBit]
    | low => simp [speedName, speedBit, hmem, low, full, high, ascii]
    | full => simp [speedName, speedBit, hmem, low, full, high, ascii]
    | high => simp [speedName, speedBit, hmem, low, full, high, ascii]

/-- **The grammar of speed lists.**  The tool accepts exactly the lists of speeds.  The mask
it stores names the speeds of the list, and so neither the order of the fields nor empty or
repeated ones matter; the module takes it as it is.  Every mask the module accepts has a
text, an error stores nothing, and nothing is written outside the buffer. -/
theorem speed_list_grammar (text : CString) (mask : BitVec 32)
    (garbage : Vector Byte bufferSize) :
    let outcome := parseSpeedCaps (some text) (some mask) garbage
    (outcome.ret = .ok () ↔ SpeedList text) ∧
    (outcome.ret = .ok () → ∃ caps, outcome.speedCaps = some caps ∧
      speedsOf (caps.setWidth 8) = speedsIn text ∧ controlSpeedCapsValid caps = true ∧
      ∀ owner, ∃ port, portInit .upstream (caps.setWidth 8) owner = .ok port ∧
        port.speed.setWidth 32 = caps) ∧
    (outcome.ret = .ok () → ∀ text' mask' garbage',
      (parseSpeedCaps (some text') (some mask') garbage').ret = .ok () →
      (∀ field, field ≠ [] →
        (field ∈ text.chars.splitOn comma ↔ field ∈ text'.chars.splitOn comma)) →
      (parseSpeedCaps (some text') (some mask') garbage').speedCaps = outcome.speedCaps) ∧
    (∀ e, outcome.ret = .error e → outcome.speedCaps = some mask) ∧
    (∀ i ∈ outcome.buffer.written, i < 64) ∧
    ∀ caps, controlSpeedCapsValid caps = true → ∃ text',
      (parseSpeedCaps (some text') (some mask) garbage).ret = .ok () ∧
        (parseSpeedCaps (some text') (some mask) garbage).speedCaps = some caps := by
  intro outcome
  have hok : ∀ {text mask garbage}, (parseSpeedCaps (some text) (some mask) garbage).ret = .ok () →
      SpeedList text ∧ (parseSpeedCaps (some text) (some mask) garbage).speedCaps =
        some (addCaps 0 (fields comma text.chars)) := by
    intro text mask garbage hret
    rcases (parseSpeedCaps_spec text mask garbage).1 with ⟨hlist, -, hcaps⟩ | ⟨-, herror, -⟩
    · exact ⟨hlist, hcaps⟩
    · exact absurd (hret.symm.trans herror) (by simp)
  have haccept : ∀ {text mask garbage}, SpeedList text →
      (parseSpeedCaps (some text) (some mask) garbage).ret = .ok () := by
    intro text mask garbage hlist
    rcases (parseSpeedCaps_spec text mask garbage).1 with ⟨-, hret, -⟩ | ⟨hno, -, -⟩
    · exact hret
    · exact absurd hlist hno
  refine ⟨⟨fun hret => (hok hret).1, haccept⟩, fun hret => ?_,
    fun hret text' mask' garbage' hret' hsame => ?_, fun e herror => ?_,
    (parseSpeedCaps_spec text mask garbage).2, fun caps hc => ?_⟩
  · obtain ⟨hlist, hcaps⟩ := hok hret
    obtain ⟨hvalid, hspeeds⟩ := speedCaps_of_speedList hlist
    exact ⟨_, hcaps, hspeeds, hvalid, portInit_of_speedCapsValid hvalid⟩
  · obtain ⟨hlist, hcaps⟩ := hok hret
    obtain ⟨hlist', hcaps'⟩ := hok hret'
    obtain ⟨hvalid, hspeeds⟩ := speedCaps_of_speedList hlist
    obtain ⟨hvalid', hspeeds'⟩ := speedCaps_of_speedList hlist'
    rw [hcaps, hcaps']
    refine congrArg some (speedCaps_ext hvalid' hvalid ?_)
    rw [hspeeds, hspeeds']
    ext speed
    constructor
    · rintro ⟨field, hmem, hname⟩
      exact ⟨field, (hsame field (ne_nil_of_speedName hname)).2 hmem, hname⟩
    · rintro ⟨field, hmem, hname⟩
      exact ⟨field, (hsame field (ne_nil_of_speedName hname)).1 hmem, hname⟩
  · rcases (parseSpeedCaps_spec text mask garbage).1 with ⟨-, hret, -⟩ | ⟨-, -, hcaps⟩
    · exact absurd (herror.symm.trans hret) (by simp)
    · exact hcaps
  · obtain ⟨text', hlist, hspeeds⟩ := exists_text hc
    have hret : (parseSpeedCaps (some text') (some mask) garbage).ret = .ok () := haccept hlist
    obtain ⟨hvalid, hspeeds'⟩ := speedCaps_of_speedList hlist
    refine ⟨text', hret, (hok hret).2.trans (congrArg some (speedCaps_ext hvalid hc ?_))⟩
    rw [hspeeds', hspeeds]

end Tools

end VirtUsb
