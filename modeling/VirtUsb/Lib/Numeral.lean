/-
# Numbers as text

How the C library reads a number from a text, `strtoul` with base 0 in the C locale, and how it
prints one with `%u`.  A text is a list of bytes.

`Constant s n` says that `s` is an integer constant of C with the value `n`, and `Written` that a
text is one after white space and a sign.  `strtoul` reads a text to its end exactly if it is
written so (`strtoul_of_written`, `written_of_strtoul`), and what is printed is a constant
(`constant_decimal`).
-/

import Mathlib.Data.List.TakeWhile
import Mathlib.Data.Nat.Digits.Lemmas

namespace Numeral

/-- A byte of a text, and the ones with a meaning of their own. -/
abbrev Letter := BitVec 8

/-- `'+'`. -/
def plus : Letter := 0x2b
/-- `'-'`. -/
def minus : Letter := 0x2d
/-- `'0'`. -/
def zero : Letter := 0x30

/-- `isspace`. -/
def isSpace (c : Letter) : Bool := c == 0x20 || (0x09 ≤ c.toNat && c.toNat ≤ 0x0d)

/-- The value of a digit, or of a letter after the digits. -/
def digitValue (c : Letter) : Option ℕ :=
  if 0x30 ≤ c.toNat ∧ c.toNat ≤ 0x39 then some (c.toNat - 0x30)
  else if 0x41 ≤ c.toNat ∧ c.toNat ≤ 0x5a then some (c.toNat - 0x41 + 10)
  else if 0x61 ≤ c.toNat ∧ c.toNat ≤ 0x7a then some (c.toNat - 0x61 + 10)
  else none

/-- The letter of a hexadecimal prefix, `'x'` or `'X'`. -/
def isX (c : Letter) : Bool := c == 0x78 || c == 0x58

/-- The letter is a digit of the base. -/
def isDigit (base : ℕ) (c : Letter) : Bool := (digitValue c).any (· < base)

/-- The value of some digits, the first one the most significant. -/
def value (base : ℕ) (digits : List Letter) : ℕ :=
  Nat.ofDigits base (digits.reverse.map fun c => (digitValue c).getD 0)

/-! ### What is written -/

/-- An integer constant of C, and its value. -/
inductive Constant : List Letter → ℕ → Prop
  | decimal {c : Letter} {s : List Letter} (hc : isDigit 10 c = true) (hne : c ≠ zero)
      (hs : ∀ d ∈ s, isDigit 10 d = true) : Constant (c :: s) (value 10 (c :: s))
  | octal {s : List Letter} (hs : ∀ d ∈ s, isDigit 8 d = true) :
      Constant (zero :: s) (value 8 (zero :: s))
  | hexadecimal {x : Letter} {s : List Letter} (hx : isX x = true) (hne : s ≠ [])
      (hs : ∀ d ∈ s, isDigit 16 d = true) : Constant (zero :: x :: s) (value 16 s)

/-- An optional sign, and whether it is a minus. -/
inductive Sign : List Letter → Bool → Prop
  | none : Sign [] false
  | plus : Sign [plus] false
  | minus : Sign [minus] true

/-- White space, an optional sign and a constant. -/
def Written (text : List Letter) (negative : Bool) (n : ℕ) : Prop :=
  ∃ spaces signs s, text = spaces ++ (signs ++ s) ∧ (∀ c ∈ spaces, isSpace c = true) ∧
    Sign signs negative ∧ Constant s n

/-! ### How it is read -/

/-- The sign of a text, and the rest of it. -/
def sign : List Letter → Bool × List Letter
  | [] => (false, [])
  | c :: s =>
      if c = minus then (true, s) else if c = plus then (false, s) else (false, c :: s)

/-- The base that a text asks for, and where its digits begin. -/
def radix : List Letter → ℕ × List Letter
  | [] => (10, [])
  | [c] => (if c = zero then 8 else 10, [c])
  | [c, x] => (if c = zero then 8 else 10, [c, x])
  | c :: x :: d :: s =>
      if c ≠ zero then (10, c :: x :: d :: s)
      else if isX x = true ∧ isDigit 16 d = true then (16, d :: s)
      else (8, c :: x :: d :: s)

/-- What `strtoul` returns, where it leaves the pointer to the rest of the text, and whether it
sets `errno` to `ERANGE`. -/
structure Scan where
  value : ℕ
  rest : List Letter
  overflow : Bool
  deriving DecidableEq

/-- `strtoul` with base 0; an `unsigned long` has `bits` bits. -/
def strtoul (bits : ℕ) (text : List Letter) : Scan :=
  let signed := sign (text.dropWhile isSpace)
  let based := radix signed.2
  let digits := based.2.takeWhile (isDigit based.1)
  let rest := based.2.dropWhile (isDigit based.1)
  -- without digits nothing is converted, and the rest is the whole text
  if digits = [] then ⟨0, text, false⟩
  else if 2 ^ bits ≤ value based.1 digits then ⟨2 ^ bits - 1, rest, true⟩
  else
    ⟨if signed.1 then (2 ^ bits - value based.1 digits) % 2 ^ bits
      else value based.1 digits, rest, false⟩

/-- `%u`. -/
def decimal (n : ℕ) : List Letter :=
  if n = 0 then [zero] else (Nat.digits 10 n).reverse.map fun d => BitVec.ofNat 8 (0x30 + d)

/-! ### Letters -/

/-- A digit of a base is one with a value below it. -/
theorem isDigit_iff {base : ℕ} {c : Letter} :
    isDigit base c = true ↔ ∃ v, digitValue c = some v ∧ v < base := by
  simp [isDigit, Option.any_eq_true]

/-- `'0'` is a digit of every base. -/
theorem isDigit_zero {base : ℕ} (hbase : 0 < base) : isDigit base zero = true :=
  isDigit_iff.2 ⟨0, rfl, hbase⟩

/-- A digit is neither white space nor a sign. -/
theorem isDigit_letter {base : ℕ} {c : Letter} (hc : isDigit base c = true) :
    isSpace c = false ∧ c ≠ plus ∧ c ≠ minus := by
  obtain ⟨v, hv, -⟩ := isDigit_iff.1 hc
  have hle : 0x30 ≤ c.toNat := by
    unfold digitValue at hv
    split at hv
    · omega
    split at hv
    · omega
    split at hv
    · omega
    · simp at hv
  refine ⟨?_, ?_, ?_⟩
  · have hne : (c == 0x20) = false := by
      refine beq_eq_false_iff_ne.2 ?_
      rintro rfl
      simp at hle
    rw [isSpace, hne, Bool.false_or, Bool.and_eq_false_iff, decide_eq_false_iff_not,
      decide_eq_false_iff_not]
    omega
  · rintro rfl
    simp [plus] at hle
  · rintro rfl
    simp [minus] at hle

/-- The first letter of a constant is a digit. -/
theorem Constant.head {s : List Letter} {n : ℕ} (hs : Constant s n) :
    ∃ c t, s = c :: t ∧ isDigit 10 c = true := by
  cases hs with
  | decimal hc _ _ => exact ⟨_, _, rfl, hc⟩
  | octal _ => exact ⟨_, _, rfl, isDigit_zero (by omega)⟩
  | hexadecimal _ _ _ => exact ⟨_, _, rfl, isDigit_zero (by omega)⟩

/-! ### The parts of a text -/

/-- The sign before a constant is read off, and the constant is left. -/
theorem sign_append {signs s : List Letter} {negative : Bool} {n : ℕ}
    (hsign : Sign signs negative) (hs : Constant s n) : sign (signs ++ s) = (negative, s) := by
  obtain ⟨c, t, rfl, hc⟩ := hs.head
  obtain ⟨-, hplus, hminus⟩ := isDigit_letter hc
  cases hsign with
  | none => simp [sign, hplus, hminus]
  | plus => simp [sign, plus, minus]
  | minus => simp [sign]

/-- What is read off as a sign is one. -/
theorem sign_spec (s : List Letter) :
    ∃ signs, s = signs ++ (sign s).2 ∧ Sign signs (sign s).1 := by
  cases s with
  | nil => exact ⟨[], rfl, .none⟩
  | cons c t =>
    simp only [sign]
    split_ifs with hminus hplus
    · exact ⟨[minus], by rw [hminus]; rfl, .minus⟩
    · exact ⟨[plus], by rw [hplus]; rfl, .plus⟩
    · exact ⟨[], rfl, .none⟩

/-- A constant is read to its end. -/
theorem Constant.radix {s : List Letter} {n : ℕ} (hs : Constant s n) :
    (radix s).2 ≠ [] ∧ (∀ d ∈ (Numeral.radix s).2, isDigit (Numeral.radix s).1 d = true) ∧
      value (Numeral.radix s).1 (Numeral.radix s).2 = n := by
  cases hs with
  | @decimal c s hc hne hs =>
    have hradix : Numeral.radix (c :: s) = (10, c :: s) := by
      rcases s with _ | ⟨x, _ | ⟨d, s⟩⟩ <;> simp [Numeral.radix, hne]
    rw [hradix]
    exact ⟨by simp, List.forall_mem_cons.2 ⟨hc, hs⟩, rfl⟩
  | @octal s hs =>
    have hradix : Numeral.radix (zero :: s) = (8, zero :: s) := by
      rcases s with _ | ⟨x, _ | ⟨d, s⟩⟩
      · rfl
      · rfl
      · -- an octal digit is no `x`
        have hx : ¬ isX x = true := by
          have hdigit := hs x List.mem_cons_self
          intro hx
          rcases (Bool.or_eq_true _ _).mp hx with heq | heq
          · rw [beq_iff_eq.1 heq] at hdigit
            exact absurd hdigit (by decide)
          · rw [beq_iff_eq.1 heq] at hdigit
            exact absurd hdigit (by decide)
        simp [Numeral.radix, hx]
    rw [hradix]
    exact ⟨by simp, List.forall_mem_cons.2 ⟨isDigit_zero (by omega), hs⟩, rfl⟩
  | @hexadecimal x s hx hne hs =>
    obtain ⟨d, t, rfl⟩ := List.exists_cons_of_ne_nil hne
    have hradix : Numeral.radix (zero :: x :: d :: t) = (16, d :: t) := by
      simp [Numeral.radix, hx, hs d List.mem_cons_self]
    rw [hradix]
    exact ⟨by simp, hs, rfl⟩

/-- What consists of digits of its base is a constant. -/
theorem constant_of_radix {s : List Letter} (hne : (radix s).2 ≠ [])
    (hs : ∀ d ∈ (radix s).2, isDigit (radix s).1 d = true) :
    Constant s (value (radix s).1 (radix s).2) := by
  have hplain : ∀ {c : Letter} {t : List Letter},
      radix (c :: t) = (if c = zero then 8 else 10, c :: t) →
      (∀ d ∈ (radix (c :: t)).2, isDigit (radix (c :: t)).1 d = true) →
      Constant (c :: t) (value (radix (c :: t)).1 (radix (c :: t)).2) := by
    intro c t heq hdigits
    rw [heq] at hdigits ⊢
    obtain ⟨hc, ht⟩ := List.forall_mem_cons.1 hdigits
    by_cases hzero : c = zero
    · subst hzero
      exact .octal ht
    · simp only [if_neg hzero] at hc ht ⊢
      exact .decimal hc hzero ht
  rcases s with _ | ⟨c, _ | ⟨x, _ | ⟨d, t⟩⟩⟩
  · exact absurd rfl hne
  · exact hplain rfl hs
  · exact hplain rfl hs
  · by_cases hzero : c = zero
    swap
    · exact hplain (by simp [radix, hzero]) hs
    by_cases hx : isX x = true ∧ isDigit 16 d = true
    swap
    · exact hplain (by simp only [radix, hzero, ne_eq, not_true, if_false, if_neg hx, if_true]) hs
    have heq : radix (c :: x :: d :: t) = (16, d :: t) := by
      simp only [radix, hzero, ne_eq, not_true, if_false, if_pos hx]
    rw [heq] at hs ⊢
    rw [hzero]
    exact .hexadecimal hx.1 (List.cons_ne_nil d t) hs

/-! ### Reading to the end -/

/-- **What is written as a number is read to its end**, and a number that is too large is
noticed. -/
theorem strtoul_of_written {text : List Letter} {negative : Bool} {n : ℕ}
    (ht : Written text negative n) (bits : ℕ) :
    strtoul bits text =
      if 2 ^ bits ≤ n then ⟨2 ^ bits - 1, [], true⟩
      else ⟨if negative then (2 ^ bits - n) % 2 ^ bits else n, [], false⟩ := by
  obtain ⟨spaces, signs, s, rfl, hspaces, hsign, hs⟩ := ht
  obtain ⟨hne, hdigits, hvalue⟩ := hs.radix
  have hdrop : (spaces ++ (signs ++ s)).dropWhile isSpace = signs ++ s := by
    rw [List.dropWhile_append_of_pos hspaces]
    obtain ⟨c, t, rfl, hc⟩ := hs.head
    have hspace := (isDigit_letter hc).1
    cases hsign with
    | none => simp [hspace]
    | plus => rfl
    | minus => rfl
  have htake := List.takeWhile_eq_self_iff.2 hdigits
  have hrest := List.dropWhile_eq_nil_iff.2 hdigits
  simp only [strtoul, hdrop, sign_append hsign hs, htake, hrest, if_neg hne, hvalue]

/-- **What is read to its end is written as a number.** -/
theorem written_of_strtoul {text : List Letter} {bits : ℕ} (hne : text ≠ [])
    (hrest : (strtoul bits text).rest = []) : ∃ negative n, Written text negative n := by
  set signed := sign (text.dropWhile isSpace) with hsigned
  set based := radix signed.2 with hbased
  by_cases hdigits : based.2.takeWhile (isDigit based.1) = []
  · simp only [strtoul, ← hsigned, ← hbased, if_pos hdigits] at hrest
    exact absurd hrest hne
  have hend : based.2.dropWhile (isDigit based.1) = [] := by
    simp only [strtoul, ← hsigned, ← hbased, if_neg hdigits] at hrest
    split at hrest
    · exact hrest
    · exact hrest
  have hall := List.dropWhile_eq_nil_iff.1 hend
  have hfound : based.2 ≠ [] := fun hnil => hdigits (by rw [hnil]; rfl)
  obtain ⟨signs, hsplit, hsign⟩ := sign_spec (text.dropWhile isSpace)
  refine ⟨_, _, text.takeWhile isSpace, signs, signed.2, ?_, fun c hc =>
    List.mem_takeWhile_imp hc, hsign, constant_of_radix hfound hall⟩
  rw [← hsplit, List.takeWhile_append_dropWhile]

/-! ### Printing -/

/-- The value of a decimal digit that was written. -/
theorem digitValue_ofNat {d : ℕ} (hd : d < 10) : digitValue (BitVec.ofNat 8 (0x30 + d)) = some d := by
  have hto : (BitVec.ofNat 8 (0x30 + d)).toNat = 0x30 + d := by
    rw [BitVec.toNat_ofNat]
    omega
  unfold digitValue
  rw [hto, if_pos (by omega)]
  congr 1
  omega

/-- **A number that is written in decimal has its value.** -/
theorem value_decimal (n : ℕ) : value 10 (decimal n) = n := by
  unfold value decimal
  split_ifs with hn
  · rw [hn]
    rfl
  have hback : ∀ d ∈ Nat.digits 10 n,
      ((fun c => (digitValue c).getD 0) ∘ fun d => BitVec.ofNat 8 (0x30 + d)) d = id d := by
    intro d hd
    simp [digitValue_ofNat (Nat.digits_lt_base (by omega) hd)]
  rw [← List.map_reverse, List.reverse_reverse, List.map_map, List.map_congr_left hback,
    List.map_id, Nat.ofDigits_digits]

/-- The digits of a number tell it from every other. -/
theorem decimal_injective : Function.Injective decimal :=
  Function.LeftInverse.injective value_decimal

/-- It is written in decimal digits. -/
theorem isDigit_of_mem_decimal {n : ℕ} {c : Letter} (hc : c ∈ decimal n) :
    isDigit 10 c = true := by
  unfold decimal at hc
  split_ifs at hc with hn
  · rw [List.mem_singleton.1 hc]
    exact isDigit_zero (by omega)
  · obtain ⟨d, hd, rfl⟩ := List.mem_map.1 hc
    have hlt : d < 10 := Nat.digits_lt_base (by omega) (List.mem_reverse.1 hd)
    exact isDigit_iff.2 ⟨d, digitValue_ofNat hlt, hlt⟩

/-- **What is printed is a constant.** -/
theorem constant_decimal (n : ℕ) : Constant (decimal n) n := by
  have hvalue := value_decimal n
  by_cases hn : n = 0
  · subst hn
    exact .octal (s := []) (by simp)
  have hne : Nat.digits 10 n ≠ [] := Nat.digits_ne_nil_iff_ne_zero.2 hn
  obtain ⟨d, ds, hds⟩ : ∃ d ds, (Nat.digits 10 n).reverse = d :: ds :=
    List.exists_cons_of_ne_nil (List.reverse_ne_nil_iff.2 hne)
  -- the first digit is the last one of `Nat.digits`, which is not zero
  have hlead : d ≠ 0 := by
    have hlast := Nat.getLast_digit_ne_zero 10 hn
    have hhead : (Nat.digits 10 n).getLast hne = d := by
      rw [← List.head_reverse (List.reverse_ne_nil_iff.2 hne)]
      simp [hds]
    rwa [hhead] at hlast
  have hfirst : BitVec.ofNat 8 (0x30 + d) ≠ zero := by
    intro heq
    have hlt : d < 10 := by
      refine Nat.digits_lt_base (b := 10) (m := n) (by omega) (List.mem_reverse.1 ?_)
      rw [hds]
      exact List.mem_cons_self
    have hsame := digitValue_ofNat hlt
    rw [heq] at hsame
    exact hlead (Option.some.inj hsame).symm
  have hdigits := fun c (hc : c ∈ decimal n) => isDigit_of_mem_decimal hc
  have hdecimal : decimal n = (d :: ds).map fun d => BitVec.ofNat 8 (0x30 + d) := by
    rw [decimal, if_neg hn, hds]
  rw [hdecimal, List.map_cons] at hvalue hdigits ⊢
  rw [← hvalue]
  obtain ⟨hhead, htail⟩ := List.forall_mem_cons.1 hdigits
  exact .decimal hhead hfirst htail

/-- A number below `10 ^ k` has at most `k` of them. -/
theorem length_decimal_le {n k : ℕ} (hk : 0 < k) (hn : n < 10 ^ k) : (decimal n).length ≤ k := by
  unfold decimal
  split_ifs with hzero
  · exact hk
  · rw [List.length_map, List.length_reverse]
    exact (Nat.digits_length_le_iff (by omega) n).2 hn

end Numeral
