/-
# Bitmaps and packed values

A machine word of `w` bits read as a set of positions, with the operations that
set, clear and test one position, and an array of such words in which every
position has `k` bits, `w / k` positions to a word.  The lemmas say what an
update leaves of every position; no proof about a bitmap has to look at bits.
-/

import Mathlib.Data.Nat.Notation
import Mathlib.Logic.Function.Basic
import Mathlib.Order.Basic

namespace Bitmap

variable {w : ℕ}

/-! ### One bit for each position -/

/-- The word in which only position `n` is set. -/
def bit (w n : ℕ) : BitVec w := 1#w <<< n

/-- Position `n` is set. -/
def test (b : BitVec w) (n : ℕ) : Bool := b &&& bit w n ≠ 0

/-- The word with position `n` set. -/
def set (b : BitVec w) (n : ℕ) : BitVec w := b ||| bit w n

/-- The word with position `n` cleared. -/
def clear (b : BitVec w) (n : ℕ) : BitVec w := b &&& ~~~bit w n

/-- A mask of one position has that bit and no other. -/
theorem getLsbD_bit (n i : ℕ) : (bit w n).getLsbD i = (decide (i < w) && decide (i = n)) := by
  rcases Nat.lt_trichotomy i n with h | rfl | h
  · have hne : i ≠ n := Nat.ne_of_lt h
    simp [bit, h, hne]
  · by_cases hw : i < w <;> simp [bit, hw]
  · have hne : i ≠ n := Nat.ne_of_gt h
    have hsub : i - n ≠ 0 := Nat.sub_ne_zero_of_lt h
    simp [bit, hne, hsub]

/-- Testing a position reads its bit. -/
theorem test_eq_getLsbD (b : BitVec w) (n : ℕ) : test b n = b.getLsbD n := by
  have hiff : b &&& bit w n ≠ 0 ↔ b.getLsbD n = true := by
    constructor
    · intro hne
      by_contra hb
      refine hne (BitVec.eq_of_getLsbD_eq fun i hi => ?_)
      rw [BitVec.getLsbD_and, getLsbD_bit]
      rcases eq_or_ne i n with rfl | hin
      · simp [hb]
      · simp [hin]
    · intro hb hzero
      have hn : n < w := BitVec.lt_of_getLsbD hb
      have hbit : (b &&& bit w n).getLsbD n = false := by
        rw [hzero]
        exact BitVec.getLsbD_zero
      rw [BitVec.getLsbD_and, getLsbD_bit, hb] at hbit
      simp [hn] at hbit
  rw [test, Bool.eq_iff_iff, decide_eq_true_iff, hiff]

/-- Nothing is set in the zero word. -/
@[simp]
theorem test_zero (n : ℕ) : test (0 : BitVec w) n = false := by
  rw [test_eq_getLsbD]
  exact BitVec.getLsbD_zero

/-- Setting a position sets that one and no other. -/
theorem test_set (b : BitVec w) {n : ℕ} (hn : n < w) (m : ℕ) :
    test (set b n) m = (test b m || decide (m = n)) := by
  rw [test_eq_getLsbD, test_eq_getLsbD, set, BitVec.getLsbD_or, getLsbD_bit]
  rcases eq_or_ne m n with rfl | hmn
  · simp [hn]
  · simp [hmn]

/-- Clearing a position clears that one and no other. -/
theorem test_clear (b : BitVec w) (n m : ℕ) :
    test (clear b n) m = (test b m && decide (m ≠ n)) := by
  rw [test_eq_getLsbD, test_eq_getLsbD, clear, BitVec.getLsbD_and, BitVec.getLsbD_not, getLsbD_bit]
  by_cases hm : m < w
  · simp [hm]
  · simp [hm, BitVec.getLsbD_of_ge b m (Nat.le_of_not_lt hm)]

/-- A position that was set is set. -/
@[simp]
theorem test_set_self (b : BitVec w) {n : ℕ} (hn : n < w) : test (set b n) n = true := by
  simp [test_set b hn]

/-- A position that was cleared is not set. -/
@[simp]
theorem test_clear_self (b : BitVec w) (n : ℕ) : test (clear b n) n = false := by
  simp [test_clear]

/-- Setting a position leaves the others as they were. -/
theorem test_set_of_ne (b : BitVec w) {n m : ℕ} (hmn : m ≠ n) : test (set b n) m = test b m := by
  rw [test_eq_getLsbD, test_eq_getLsbD, set, BitVec.getLsbD_or, getLsbD_bit]
  simp [hmn]

/-- Clearing a position leaves the others as they were. -/
theorem test_clear_of_ne (b : BitVec w) {n m : ℕ} (hmn : m ≠ n) :
    test (clear b n) m = test b m := by
  simp [test_clear, hmn]

/-! ### Several bits for each position -/

/-- The word that holds position `p`. -/
def wordIndex (w k p : ℕ) : ℕ := p / (w / k)

/-- Where position `p` starts in its word. -/
def shift (w k p : ℕ) : ℕ := p % (w / k) * k

/-- The word whose lowest `k` bits are set. -/
def valueMask (w k : ℕ) : BitVec w := 1#w <<< k - 1#w

/-- The value at position `p`, which has `k` bits. -/
def packedGet (words : ℕ → BitVec w) (k p : ℕ) : BitVec w :=
  (words (wordIndex w k p) >>> shift w k p) &&& valueMask w k

/-- The words with `v` at position `p`, cut off after `k` bits. -/
def packedSet (words : ℕ → BitVec w) (k p : ℕ) (v : BitVec w) : ℕ → BitVec w :=
  let mask := valueMask w k <<< shift w k p
  Function.update words (wordIndex w k p)
    ((words (wordIndex w k p) &&& ~~~mask) ||| ((v <<< shift w k p) &&& mask))

/-- The mask of a value has its lowest `k` bits. -/
theorem getLsbD_valueMask {k : ℕ} (hk : k < w) (i : ℕ) :
    (valueMask w k).getLsbD i = decide (i < k) := by
  have hpow : 2 ^ k < 2 ^ w := Nat.pow_lt_pow_right (by decide) hk
  have hnat : (valueMask w k).toNat = 2 ^ k - 1 := by
    have hone : 1 < 2 ^ w := Nat.one_lt_two_pow (by omega)
    have hshift : (1#w <<< k).toNat = 2 ^ k := by
      rw [BitVec.toNat_shiftLeft, BitVec.toNat_ofNat, Nat.mod_eq_of_lt hone, Nat.one_shiftLeft,
        Nat.mod_eq_of_lt hpow]
    have hle : 1#w ≤ 1#w <<< k := by
      rw [BitVec.le_def, hshift, BitVec.toNat_ofNat, Nat.mod_eq_of_lt hone]
      exact Nat.one_le_two_pow
    rw [valueMask, BitVec.toNat_sub_of_le hle, hshift, BitVec.toNat_ofNat, Nat.mod_eq_of_lt hone]
  rw [BitVec.getLsbD, hnat, Nat.testBit_two_pow_sub_one]

/-- A position lies inside its word. -/
theorem shift_add_le {k : ℕ} (hk : 0 < k) (hkw : k < w) (p : ℕ) : shift w k p + k ≤ w := by
  have hpos : 0 < w / k := Nat.div_pos (Nat.le_of_lt hkw) hk
  have hlt : p % (w / k) + 1 ≤ w / k := Nat.mod_lt p hpos
  calc shift w k p + k = (p % (w / k) + 1) * k := by rw [shift, Nat.add_mul, Nat.one_mul]
    _ ≤ w / k * k := Nat.mul_le_mul_right k hlt
    _ ≤ w := Nat.div_mul_le_self w k

/-- The bits of the value at a position. -/
theorem getLsbD_packedGet {k : ℕ} (hkw : k < w) (words : ℕ → BitVec w) (p i : ℕ) :
    (packedGet words k p).getLsbD i =
      ((words (wordIndex w k p)).getLsbD (shift w k p + i) && decide (i < k)) := by
  rw [packedGet, BitVec.getLsbD_and, BitVec.getLsbD_ushiftRight, getLsbD_valueMask hkw]

/-- The bits of the word that holds `p` after an update of `p`. -/
theorem getLsbD_packedSet {k : ℕ} (hkw : k < w) (words : ℕ → BitVec w) (p : ℕ) (v : BitVec w)
    {j : ℕ} (hj : j < w) :
    (packedSet words k p v (wordIndex w k p)).getLsbD j =
      if shift w k p ≤ j ∧ j < shift w k p + k then v.getLsbD (j - shift w k p)
      else (words (wordIndex w k p)).getLsbD j := by
  have hmask : (valueMask w k <<< shift w k p).getLsbD j =
      decide (shift w k p ≤ j ∧ j < shift w k p + k) := by
    rw [BitVec.getLsbD_shiftLeft, getLsbD_valueMask hkw, Bool.eq_iff_iff]
    simp only [hj, decide_true, Bool.true_and, Bool.and_eq_true, Bool.not_eq_true',
      decide_eq_false_iff_not, decide_eq_true_eq]
    omega
  simp only [packedSet, Function.update_self, BitVec.getLsbD_or, BitVec.getLsbD_and,
    BitVec.getLsbD_not, BitVec.getLsbD_shiftLeft (x := v), hmask]
  by_cases hin : shift w k p ≤ j ∧ j < shift w k p + k
  · have hnot : ¬ j < shift w k p := by omega
    simp [hin, hj]
  · simp [hin, hj]

/-- **What was packed comes back**, up to what does not fit. -/
@[simp]
theorem packedGet_packedSet_self {k : ℕ} (hk : 0 < k) (hkw : k < w) (words : ℕ → BitVec w) (p : ℕ)
    (v : BitVec w) : packedGet (packedSet words k p v) k p = v &&& valueMask w k := by
  refine BitVec.eq_of_getLsbD_eq fun i _ => ?_
  rw [getLsbD_packedGet hkw, BitVec.getLsbD_and, getLsbD_valueMask hkw]
  by_cases hi : i < k
  · have hle := shift_add_le hk hkw p
    rw [getLsbD_packedSet hkw words p v (by omega), if_pos (by omega), Nat.add_sub_cancel_left]
  · simp [hi]

/-- Two positions of one word do not overlap. -/
theorem shift_disjoint {k p q i : ℕ} (hword : wordIndex w k q = wordIndex w k p) (hpq : q ≠ p)
    (hi : i < k) : ¬ (shift w k p ≤ shift w k q + i ∧ shift w k q + i < shift w k p + k) := by
  have hrem : q % (w / k) ≠ p % (w / k) := fun hrem => hpq <| by
    rw [← Nat.div_add_mod q (w / k), ← Nat.div_add_mod p (w / k), hrem]
    exact congrArg (fun x => w / k * x + p % (w / k)) hword
  rw [shift, shift]
  rcases Nat.lt_or_gt_of_ne hrem with hlt | hlt
  · have hle : (q % (w / k) + 1) * k ≤ p % (w / k) * k := Nat.mul_le_mul_right k hlt
    rw [Nat.add_mul, Nat.one_mul] at hle
    omega
  · have hle : (p % (w / k) + 1) * k ≤ q % (w / k) * k := Nat.mul_le_mul_right k hlt
    rw [Nat.add_mul, Nat.one_mul] at hle
    omega

/-- **Packing a value leaves the other positions as they were.** -/
theorem packedGet_packedSet_of_ne {k : ℕ} (hk : 0 < k) (hkw : k < w) (words : ℕ → BitVec w)
    {p q : ℕ} (hpq : q ≠ p) (v : BitVec w) :
    packedGet (packedSet words k p v) k q = packedGet words k q := by
  by_cases hword : wordIndex w k q = wordIndex w k p
  · refine BitVec.eq_of_getLsbD_eq fun i _ => ?_
    rw [getLsbD_packedGet hkw, getLsbD_packedGet hkw, hword]
    by_cases hi : i < k
    · have hle := shift_add_le hk hkw q
      have hout : ¬ (shift w k p ≤ shift w k q + i ∧ shift w k q + i < shift w k p + k) :=
        shift_disjoint hword hpq hi
      rw [getLsbD_packedSet hkw words p v (by omega), if_neg hout]
    · simp [hi]
  · rw [packedGet, packedSet, Function.update_of_ne hword, packedGet]

end Bitmap
