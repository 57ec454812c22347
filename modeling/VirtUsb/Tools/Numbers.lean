/-
# Numbers on the command line

`virtusbctl_parse_unsigned` of `tools/virtusbctl/main.c` and `parse_unsigned` of the test device
read a number with `strtoul`.  They check the outcome in another order and differ in the error
that they return, but accept the same texts: the integer constants of C between 0 and
`UINT32_MAX`, after white space and a sign (`parse_unsigned_exact`).  A minus counts from the top
of `unsigned long`, so some negative numbers are accepted too, and none of them with the value
that it is written with but `-0`.
-/

import VirtUsb.Lib.Numeral
import VirtUsb.Tools.SpeedCaps

namespace VirtUsb

namespace Tools

open Numeral

/-- The bits of `unsigned long` where the programs run. -/
def ulongBits : ℕ := 64

/-- The errors of the two functions. -/
inductive NumberError
  | EINVAL | ERANGE
  deriving DecidableEq

/-- `virtusbctl_parse_unsigned`: what it returns, and what it leaves at the pointer of its caller;
`none` is `NULL`. -/
def parseUnsigned (text : Option CString) (value : Option (BitVec 32)) :
    Except NumberError Unit × Option (BitVec 32) :=
  match text, value with
  | some text, some _ =>
      if text.chars = [] then (.error .EINVAL, value)
      else
        let parsed := strtoul ulongBits text.chars
        if parsed.overflow = true ∨ parsed.rest ≠ [] ∨ parsed.value > u32Max then
          (.error .EINVAL, value)
        else (.ok (), some (.ofNat 32 parsed.value))
  | _, _ => (.error .EINVAL, value)

/-- `parse_unsigned` of the test device. -/
def testDeviceParseUnsigned (text : Option CString) (value : Option (BitVec 32)) :
    Except NumberError Unit × Option (BitVec 32) :=
  match text, value with
  | some text, some _ =>
      if text.chars = [] then (.error .EINVAL, value)
      else
        let parsed := strtoul ulongBits text.chars
        if parsed.overflow = true ∨ parsed.value > u32Max then (.error .ERANGE, value)
        else if parsed.rest = text.chars ∨ parsed.rest ≠ [] then (.error .EINVAL, value)
        else (.ok (), some (.ofNat 32 parsed.value))
  | _, _ => (.error .EINVAL, value)

/-! ### What is accepted -/

/-- What `strtoul` makes of a number that fits: a minus counts from the top. -/
def wrapped (negative : Bool) (n : ℕ) : ℕ :=
  if negative then (2 ^ ulongBits - n) % 2 ^ ulongBits else n

/-- The text is a number that fits, and `v` is what it is read as. -/
def Denotes (text : List Byte) (v : BitVec 32) : Prop :=
  ∃ negative n, Written text negative n ∧ n < 2 ^ ulongBits ∧ v.toNat = wrapped negative n

/-- `%u`, as a string. -/
def CString.decimal (v : BitVec 32) : CString where
  chars := Numeral.decimal v.toNat
  noZero hzero := absurd (isDigit_of_mem_decimal hzero) (by decide)

/-- A number has a digit at least. -/
theorem Written.ne_nil {text : List Byte} {negative : Bool} {n : ℕ}
    (ht : Written text negative n) : text ≠ [] := by
  obtain ⟨spaces, signs, s, rfl, -, -, hs⟩ := ht
  obtain ⟨c, t, rfl, -⟩ := hs.head
  simp

/-- A number that fits is read to its end, without `ERANGE`. -/
theorem strtoul_of_fits {text : List Byte} {negative : Bool} {n : ℕ}
    (ht : Written text negative n) (hn : n < 2 ^ ulongBits) :
    strtoul ulongBits text = ⟨wrapped negative n, [], false⟩ := by
  rw [strtoul_of_written ht, if_neg (by omega)]
  rfl

/-- What makes both functions succeed. -/
theorem denotes_iff {text : List Byte} (hne : text ≠ []) {v : BitVec 32} :
    Denotes text v ↔ strtoul ulongBits text = ⟨v.toNat, [], false⟩ := by
  constructor
  · rintro ⟨negative, n, ht, hn, hv⟩
    rw [strtoul_of_fits ht hn, hv]
  · intro heq
    obtain ⟨negative, n, ht⟩ := written_of_strtoul hne (congrArg Scan.rest heq)
    have hfits : n < 2 ^ ulongBits := by
      by_contra hlarge
      rw [strtoul_of_written ht, if_pos (by omega)] at heq
      exact absurd (congrArg Scan.overflow heq) (by simp)
    refine ⟨negative, n, ht, hfits, ?_⟩
    rw [strtoul_of_fits ht hfits] at heq
    exact (congrArg Scan.value heq).symm

/-- The empty text is no number. -/
theorem Denotes.ne_nil {text : List Byte} {v : BitVec 32} (ht : Denotes text v) : text ≠ [] := by
  obtain ⟨negative, n, hwritten, -⟩ := ht
  exact Written.ne_nil hwritten

/-- A text is read as one number. -/
theorem Denotes.unique {text : List Byte} {v v' : BitVec 32} (hv : Denotes text v)
    (hv' : Denotes text v') : v = v' := by
  have heq := ((denotes_iff hv.ne_nil).1 hv).symm.trans ((denotes_iff hv.ne_nil).1 hv')
  exact BitVec.eq_of_toNat_eq (congrArg Scan.value heq)

/-- What is printed with `%u` is read as the same number. -/
theorem denotes_decimal (v : BitVec 32) : Denotes (CString.decimal v).chars v :=
  ⟨false, v.toNat, ⟨[], [], _, rfl, by simp, .none, constant_decimal v.toNat⟩,
    v.isLt.trans (by decide), rfl⟩

/-- The value of a number, if it is not too large for the caller. -/
theorem denotes_of_scan {text : List Byte} (hne : text ≠ []) {n : ℕ}
    (hscan : strtoul ulongBits text = ⟨n, [], false⟩) (hn : n ≤ u32Max) :
    Denotes text (.ofNat 32 n) := by
  have hto : (BitVec.ofNat 32 n).toNat = n := by
    rw [BitVec.toNat_ofNat]
    exact Nat.mod_eq_of_lt (Nat.lt_of_le_of_lt hn (by decide))
  rw [denotes_iff hne, hto]
  exact hscan

section

variable (text : CString) (old : BitVec 32)

/-- `virtusbctl_parse_unsigned` stores the number that the text denotes, or nothing. -/
theorem parseUnsigned_spec :
    (∃ v, Denotes text.chars v ∧ parseUnsigned (some text) (some old) = (.ok (), some v)) ∨
      (∀ v, ¬ Denotes text.chars v) ∧
        parseUnsigned (some text) (some old) = (.error .EINVAL, some old) := by
  by_cases hne : text.chars = []
  · exact .inr ⟨fun v hv => hv.ne_nil hne, by simp [parseUnsigned, hne]⟩
  rcases hscan : strtoul ulongBits text.chars with ⟨n, rest, overflow⟩
  by_cases hbad : overflow = true ∨ rest ≠ [] ∨ n > u32Max
  · refine .inr ⟨fun v hv => ?_, by simp only [parseUnsigned, if_neg hne, hscan, if_pos hbad]⟩
    rw [denotes_iff hne, hscan] at hv
    obtain ⟨rfl, rfl, rfl⟩ := Scan.mk.inj hv
    have hlt : v.toNat ≤ u32Max := Nat.le_of_lt_succ v.isLt
    rcases hbad with hbad | hbad | hbad
    · simp at hbad
    · exact hbad rfl
    · omega
  · refine .inl ⟨.ofNat 32 n, ?_, by simp only [parseUnsigned, if_neg hne, hscan, if_neg hbad]⟩
    obtain ⟨hover, hrest, hn⟩ : overflow = false ∧ rest = [] ∧ n ≤ u32Max := by
      simpa using hbad
    exact denotes_of_scan hne (by rw [hscan, hover, hrest]) hn

/-- `parse_unsigned` of the test device stores the same numbers. -/
theorem testDeviceParseUnsigned_spec :
    (∃ v, Denotes text.chars v ∧
      testDeviceParseUnsigned (some text) (some old) = (.ok (), some v)) ∨
      (∀ v, ¬ Denotes text.chars v) ∧
        testDeviceParseUnsigned (some text) (some old) =
          (.error (if (strtoul ulongBits text.chars).overflow = true ∨
            (strtoul ulongBits text.chars).value > u32Max then .ERANGE else .EINVAL), some old) := by
  by_cases hne : text.chars = []
  · refine .inr ⟨fun v hv => hv.ne_nil hne, ?_⟩
    rw [hne]
    simp only [testDeviceParseUnsigned, hne, if_true]
    rfl
  rcases hscan : strtoul ulongBits text.chars with ⟨n, rest, overflow⟩
  by_cases hlarge : overflow = true ∨ n > u32Max
  · refine .inr ⟨fun v hv => ?_, by
      simp only [testDeviceParseUnsigned, if_neg hne, hscan, if_pos hlarge]⟩
    rw [denotes_iff hne, hscan] at hv
    obtain ⟨rfl, rfl, rfl⟩ := Scan.mk.inj hv
    have hlt : v.toNat ≤ u32Max := Nat.le_of_lt_succ v.isLt
    rcases hlarge with hover | hn
    · simp at hover
    · omega
  obtain ⟨hover, hn⟩ : overflow = false ∧ n ≤ u32Max := by simpa using hlarge
  by_cases hrest : rest = []
  · refine .inl ⟨.ofNat 32 n, denotes_of_scan hne (by rw [hscan, hover, hrest]) hn, ?_⟩
    have hend : ¬ (rest = text.chars ∨ rest ≠ []) := by
      rintro (heq | heq)
      · exact hne (heq.symm.trans hrest)
      · exact heq hrest
    simp only [testDeviceParseUnsigned, if_neg hne, hscan, if_neg hlarge, if_neg hend]
  · refine .inr ⟨fun v hv => ?_, ?_⟩
    · rw [denotes_iff hne, hscan] at hv
      exact hrest (Scan.mk.inj hv).2.1
    · simp only [testDeviceParseUnsigned, if_neg hne, hscan, if_neg hlarge,
        if_pos (Or.inr hrest : rest = text.chars ∨ rest ≠ [])]

end

/-- **What the tools read as a number.**  Both functions accept exactly the texts that denote
one, with the number that the text denotes, and store nothing otherwise.  They differ in the
error only: the test device tells a number that is too large.  What is printed with `%u` is read
as the same number. -/
theorem parse_unsigned_exact (text : CString) (old : BitVec 32) :
    (∀ v, parseUnsigned (some text) (some old) = (.ok (), some v) ↔ Denotes text.chars v) ∧
    (∀ v, testDeviceParseUnsigned (some text) (some old) = (.ok (), some v) ↔
      Denotes text.chars v) ∧
    ((∀ v, ¬ Denotes text.chars v) →
      parseUnsigned (some text) (some old) = (.error .EINVAL, some old) ∧
      ∃ e, testDeviceParseUnsigned (some text) (some old) = (.error e, some old) ∧
        (∀ negative n, Written text.chars negative n → e = .ERANGE)) ∧
    ∀ v, parseUnsigned (some (.decimal v)) (some old) = (.ok (), some v) ∧
      testDeviceParseUnsigned (some (.decimal v)) (some old) = (.ok (), some v) := by
  have hctl : ∀ {text : CString} v,
      parseUnsigned (some text) (some old) = (.ok (), some v) ↔ Denotes text.chars v := by
    intro text v
    rcases parseUnsigned_spec text old with ⟨v', hv', hs⟩ | ⟨hno, hs⟩
    · rw [hs]
      constructor
      · intro heq
        exact Option.some.inj (Prod.mk.inj heq).2 ▸ hv'
      · intro hv
        rw [hv.unique hv']
    · rw [hs]
      exact ⟨fun heq => absurd (Prod.mk.inj heq).1 (by simp), fun hv => absurd hv (hno v)⟩
  have hdevice : ∀ {text : CString} v,
      testDeviceParseUnsigned (some text) (some old) = (.ok (), some v) ↔
        Denotes text.chars v := by
    intro text v
    rcases testDeviceParseUnsigned_spec text old with ⟨v', hv', hs⟩ | ⟨hno, hs⟩
    · rw [hs]
      constructor
      · intro heq
        exact Option.some.inj (Prod.mk.inj heq).2 ▸ hv'
      · intro hv
        rw [hv.unique hv']
    · rw [hs]
      exact ⟨fun heq => absurd (Prod.mk.inj heq).1 (by simp), fun hv => absurd hv (hno v)⟩
  refine ⟨hctl, hdevice, fun hno => ⟨?_, ?_⟩, fun v =>
    ⟨(hctl v).2 (denotes_decimal v), (hdevice v).2 (denotes_decimal v)⟩⟩
  · rcases parseUnsigned_spec text old with ⟨v, hv, -⟩ | ⟨-, hs⟩
    · exact absurd hv (hno v)
    · exact hs
  · rcases testDeviceParseUnsigned_spec text old with ⟨v, hv, -⟩ | ⟨-, hs⟩
    · exact absurd hv (hno v)
    refine ⟨_, hs, fun negative n ht => if_pos ?_⟩
    -- a number that was read to its end and denotes nothing is too large
    by_contra hsmall
    obtain ⟨hover, hle⟩ : (strtoul ulongBits text.chars).overflow = false ∧
        (strtoul ulongBits text.chars).value ≤ u32Max := by simpa using hsmall
    have hrest : (strtoul ulongBits text.chars).rest = [] := by
      rw [strtoul_of_written ht]
      split <;> rfl
    refine hno _ (denotes_of_scan (Written.ne_nil ht) ?_ hle)
    rw [← hover, ← hrest]

end Tools

end VirtUsb
