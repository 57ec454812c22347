/-
# Strings in a buffer, and their tokens

A buffer of bytes with a record of the offsets that were written.  A string starts at an
offset and ends before the first zero byte.  `strtok_r` is the function of the C library:
it skips delimiters, ends the token by a zero byte and remembers where it stopped.  Called
again and again it yields the fields of the string that are not empty, one after the
other (`strtokR_spec`).
-/

import Mathlib.Data.List.TakeWhile
import Mathlib.Data.Nat.Notation

namespace Strtok

/-- A buffer, and every offset that was written. -/
structure Memory where
  bytes : List (BitVec 8)
  written : List ℕ := []

namespace Memory

variable (m : Memory) (d : BitVec 8) (p : ℕ)

/-- The byte at an offset. -/
def read : BitVec 8 := m.bytes.getD p 0

/-- The byte at an offset is overwritten. -/
def write (x : BitVec 8) : Memory := ⟨m.bytes.set p x, m.written ++ [p]⟩

/-- `memcpy` to the start of the buffer. -/
def copy (src : List (BitVec 8)) : Memory :=
  ⟨src ++ m.bytes.drop src.length, m.written ++ List.range src.length⟩

/-- The string at an offset. -/
def string : List (BitVec 8) := (m.bytes.drop p).takeWhile (· ≠ 0)

/-- `strspn` and `strcspn` with one delimiter. -/
def strspn : ℕ := ((m.string p).takeWhile (· == d)).length
/-- The length of the string up to its first delimiter. -/
def strcspn : ℕ := ((m.string p).takeWhile (· != d)).length

/-- `strtok_r` from an offset: where the next call goes on, and the token. -/
def strtokR : Memory × ℕ × Option ℕ :=
  if m.read p = 0 then (m, p, none)
  else
    let start := p + m.strspn d p
    if m.read start = 0 then (m, start, none)
    else
      let stop := start + m.strcspn d start
      if m.read stop = 0 then (m, stop, some start)
      else (m.write stop 0, stop + 1, some start)

/-- The string at an offset ends inside the buffer. -/
def Terminated : Prop := p + (m.string p).length < m.bytes.length

end Memory

/-- The fields of a string that are not empty. -/
def fields (d : BitVec 8) (s : List (BitVec 8)) : List (List (BitVec 8)) :=
  (s.splitOn d).filter (· ≠ [])

/-! ### Fields -/

section Fields

variable {d : BitVec 8} {s f : List (BitVec 8)}

/-- A delimiter in front adds no field. -/
theorem fields_cons_self (d : BitVec 8) (s : List (BitVec 8)) : fields d (d :: s) = fields d s := by
  simp [fields, List.splitOn_cons_eq_if_modifyHead]

/-- Delimiters before the first field do not matter. -/
theorem fields_dropWhile (d : BitVec 8) (s : List (BitVec 8)) :
    fields d (s.dropWhile (· == d)) = fields d s := by
  induction s with
  | nil => rfl
  | cons x s ih =>
      rw [List.dropWhile_cons]
      split
      · rename_i hx
        obtain rfl := eq_of_beq hx
        rw [ih, fields_cons_self]
      · rfl

/-- The empty string has no fields. -/
theorem fields_nil (d : BitVec 8) : fields d [] = [] := rfl

/-- The last field. -/
theorem fields_singleton (hf : f ≠ []) (hd : d ∉ f) : fields d f = [f] := by
  rw [fields, List.splitOn_eq_singleton hd]
  simp [hf]

/-- The first field, and the others. -/
theorem fields_append (hf : f ≠ []) (hd : d ∉ f) (s : List (BitVec 8)) :
    fields d (f ++ d :: s) = f :: fields d s := by
  rw [fields, List.splitOn_append_cons_of_beq f s (beq_self_eq_true d),
    List.splitOn_eq_singleton hd]
  simp [fields, hf]

end Fields

/-! ### Strings in memory -/

namespace Memory

variable {m : Memory} {d : BitVec 8} {p : ℕ}

/-- The string from some byte of it on is its tail. -/
theorem string_add {i : ℕ} (hi : i ≤ (m.string p).length) :
    m.string (p + i) = (m.string p).drop i := by
  have hsplit : m.bytes.drop (p + i) =
      (m.string p).drop i ++ (m.bytes.drop p).dropWhile (· ≠ 0) := by
    rw [← List.drop_drop, ← List.drop_append_of_le_length hi, string,
      List.takeWhile_append_dropWhile]
  have hstop : ((m.bytes.drop p).dropWhile (· ≠ 0)).takeWhile (· ≠ 0) = [] := by
    rw [List.takeWhile_eq_nil_iff]
    intro hl
    exact List.dropWhile_get_zero_not _ _ hl
  have hall : ∀ x ∈ (m.string p).drop i, decide (x ≠ 0) = true := fun x hx =>
    List.mem_takeWhile_imp (p := fun x => decide (x ≠ 0)) (List.mem_of_mem_drop hx)
  rw [string, hsplit, List.takeWhile_append_of_pos hall, hstop, List.append_nil]

/-- A string is empty exactly where a zero byte is, or nothing. -/
theorem read_eq_zero_iff : m.read p = 0 ↔ m.string p = [] := by
  rw [read, string, List.getD_eq_getElem?_getD]
  by_cases hp : p < m.bytes.length
  · rw [List.drop_eq_getElem_cons hp, List.getElem?_eq_getElem hp, List.takeWhile_cons]
    by_cases hx : m.bytes[p] = 0 <;> simp [hx]
  · rw [List.drop_eq_nil_of_le (Nat.le_of_not_lt hp), List.getElem?_eq_none (Nat.le_of_not_lt hp)]
    simp

/-- What is not read as zero is inside the buffer. -/
theorem lt_of_read (hp : m.read p ≠ 0) : p < m.bytes.length := by
  by_contra hge
  exact hp (read_eq_zero_iff.2 (by simp [string, List.drop_eq_nil_of_le (Nat.le_of_not_lt hge)]))

/-- A zero byte inside a string ends it there. -/
theorem string_write {i : ℕ} (hi : i < (m.string p).length) :
    (m.write (p + i) 0).string p = (m.string p).take i := by
  have hprefix : m.string p <+: m.bytes.drop p := List.takeWhile_prefix _
  have hlen : i < (m.bytes.drop p).length := Nat.lt_of_lt_of_le hi hprefix.length_le
  have hdrop : (m.bytes.set (p + i) 0).drop p =
      (m.string p).take i ++ 0 :: (m.bytes.drop p).drop (i + 1) := by
    rw [List.drop_set, if_neg (by omega), Nat.add_sub_cancel_left, List.set_eq_take_append_cons_drop,
      if_pos hlen, List.prefix_iff_eq_take.1 hprefix, List.take_take, Nat.min_eq_left]
    exact Nat.le_of_lt hi
  have hall : ∀ x ∈ (m.string p).take i, decide (x ≠ 0) = true := fun x hx =>
    List.mem_takeWhile_imp (p := fun x => decide (x ≠ 0)) (List.mem_of_mem_take hx)
  rw [string, write, hdrop, List.takeWhile_append_of_pos hall]
  simp

/-- A write before a string does not change it. -/
theorem string_write_of_lt {q : ℕ} (hq : p < q) (x : BitVec 8) :
    (m.write p x).string q = m.string q := by
  rw [string, write, List.drop_set_of_lt hq, string]

/-! ### Tokens -/

/-- What a scan leaves of a string. -/
theorem string_scan (m : Memory) (q : BitVec 8 → Bool) (p : ℕ) :
    m.string (p + ((m.string p).takeWhile q).length) = (m.string p).dropWhile q := by
  rw [string_add (List.takeWhile_prefix q).length_le]
  calc (m.string p).drop ((m.string p).takeWhile q).length
      = ((m.string p).takeWhile q ++ (m.string p).dropWhile q).drop
          ((m.string p).takeWhile q).length := by rw [List.takeWhile_append_dropWhile]
    _ = (m.string p).dropWhile q := List.drop_left

/-- The rest of a string that ends in the buffer ends there too. -/
theorem Terminated.add {i : ℕ} (ht : m.Terminated p) (hi : i ≤ (m.string p).length) :
    m.Terminated (p + i) := by
  rw [Terminated, string_add hi, List.length_drop]
  rw [Terminated] at ht
  omega

/-- Behind the delimiters the string is over, or a token starts, which is not empty. -/
theorem token_ne_nil (hne : m.string (p + m.strspn d p) ≠ []) :
    (m.string (p + m.strspn d p)).takeWhile (· != d) ≠ [] := by
  have hscan : m.string (p + m.strspn d p) = (m.string p).dropWhile (· == d) :=
    string_scan m (· == d) p
  obtain ⟨x, s, hxs⟩ := List.exists_cons_of_ne_nil hne
  have hx : (x == d) = false := by
    have hhead := List.head?_dropWhile_not (· == d) (m.string p)
    rw [← hscan, hxs] at hhead
    simpa using hhead
  rw [hxs, List.takeWhile_cons]
  simp [bne, hx]

/-- A token that does not end with its string ends with a delimiter. -/
theorem exists_delimiter (hend : (m.string p).dropWhile (· != d) ≠ []) :
    ∃ s, (m.string p).dropWhile (· != d) = d :: s := by
  obtain ⟨x, s, hxs⟩ := List.exists_cons_of_ne_nil hend
  have hx : x = d := by
    have hhead := List.head?_dropWhile_not (· != d) (m.string p)
    rw [hxs] at hhead
    simpa using hhead
  exact ⟨s, hx ▸ hxs⟩

/-- A zero byte in the place of a delimiter makes two strings of one. -/
theorem string_terminate {token s : List (BitVec 8)} (hs : m.string p = token ++ d :: s)
    (ht : m.Terminated p) :
    let m' := m.write (p + token.length) 0
    m'.string p = token ∧ m'.string (p + token.length + 1) = s ∧
      m'.Terminated (p + token.length + 1) ∧ p + token.length < m.bytes.length := by
  intro m'
  have hlen : token.length < (m.string p).length := by
    rw [hs, List.length_append, List.length_cons]
    exact Nat.lt_add_of_pos_right (Nat.succ_pos _)
  have hfirst : m'.string p = token := by
    rw [string_write hlen, hs, List.take_left]
  have hsecond : m'.string (p + token.length + 1) = s := by
    rw [string_write_of_lt (Nat.lt_add_one _), Nat.add_assoc, string_add hlen, hs]
    simp
  rw [Terminated, hs, List.length_append, List.length_cons] at ht
  refine ⟨hfirst, hsecond, ?_, by omega⟩
  have hbytes : m'.bytes.length = m.bytes.length := by simp [m', write]
  rw [Terminated, hsecond, hbytes]
  omega

/-- A call that finds a token goes on behind it. -/
theorem lt_of_strtokR {m' : Memory} {p' start : ℕ}
    (hs : m.strtokR d p = (m', p', some start)) : p < p' ∧ p < m.bytes.length ∧
      m'.bytes.length = m.bytes.length := by
  unfold strtokR at hs
  split at hs
  · simp at hs
  rename_i hp
  have hlt := lt_of_read hp
  dsimp only at hs
  split at hs
  · simp at hs
  rename_i hstart
  have hpos : 0 < m.strcspn d (p + m.strspn d p) :=
    List.length_pos_iff.2 (token_ne_nil fun hnil => hstart (read_eq_zero_iff.2 hnil))
  split at hs
  · simp only [Prod.mk.injEq] at hs
    obtain ⟨rfl, rfl, -⟩ := hs
    exact ⟨by omega, hlt, rfl⟩
  · simp only [Prod.mk.injEq] at hs
    obtain ⟨rfl, rfl, -⟩ := hs
    exact ⟨by omega, hlt, by simp [write]⟩

/-- **What one call of `strtok_r` does.**  It yields the first field that is not empty, and
leaves the others for the next call; without a field it yields none and writes nothing. -/
theorem strtokR_spec (ht : m.Terminated p) :
    (fields d (m.string p) = [] ∧ ∃ p', m.strtokR d p = (m, p', none)) ∨
      ∃ m' p' start, m.strtokR d p = (m', p', some start) ∧ m'.Terminated p' ∧
        fields d (m.string p) = m'.string start :: fields d (m'.string p') ∧
        ∀ i ∈ m'.written, i ∈ m.written ∨ i < m.bytes.length := by
  unfold strtokR
  split
  · rename_i hp
    exact .inl ⟨by rw [read_eq_zero_iff.1 hp, fields_nil], p, rfl⟩
  dsimp only
  have hstring : m.string (p + m.strspn d p) = (m.string p).dropWhile (· == d) :=
    string_scan m (· == d) p
  have hterm : m.Terminated (p + m.strspn d p) := ht.add (List.takeWhile_prefix _).length_le
  have htoken_ne := token_ne_nil (m := m) (d := d) (p := p)
  generalize p + m.strspn d p = start at hstring hterm htoken_ne ⊢
  rw [← fields_dropWhile, ← hstring]
  split
  · rename_i hzero
    exact .inl ⟨by rw [read_eq_zero_iff.1 hzero, fields_nil], start, rfl⟩
  rename_i hne
  rw [read_eq_zero_iff] at hne
  replace htoken_ne := htoken_ne hne
  set token := (m.string start).takeWhile (· != d)
  have hrest : m.string (start + m.strcspn d start) = (m.string start).dropWhile (· != d) :=
    string_scan m (· != d) start
  have hsplit : m.string start = token ++ (m.string start).dropWhile (· != d) :=
    List.takeWhile_append_dropWhile.symm
  have hd : d ∉ token := by
    intro hmem
    have hbne := List.mem_takeWhile_imp hmem
    simp at hbne
  refine .inr ?_
  split
  · -- the string ends with the token
    rename_i hend
    rw [read_eq_zero_iff, hrest] at hend
    rw [hend, List.append_nil] at hsplit
    refine ⟨m, _, start, rfl, hterm.add (List.takeWhile_prefix _).length_le, ?_,
      fun i hi => .inl hi⟩
    rw [hrest, hend, fields_nil, hsplit, fields_singleton htoken_ne hd]
  · -- a delimiter ends it, and a zero byte takes its place
    rename_i hend
    rw [read_eq_zero_iff, hrest] at hend
    obtain ⟨s, hs⟩ := exists_delimiter hend
    rw [hs] at hsplit
    obtain ⟨hfirst, hsecond, hterm', hinside⟩ := string_terminate hsplit hterm
    refine ⟨_, _, start, rfl, hterm', ?_, fun i hi => ?_⟩
    · have hcount : m.strcspn d start = token.length := rfl
      rw [hcount, hfirst, hsecond, hsplit, fields_append htoken_ne hd]
    · rcases List.mem_append.1 hi with hi | hi
      · exact .inl hi
      · obtain rfl := List.mem_singleton.1 hi
        exact .inr hinside

end Memory

end Strtok
