import Mathlib.Data.List.Basic
import Mathlib.Data.Nat.Digits.Defs
import MarketSync.Text.Pieces
import MarketSync.Text.Digits

/-!
# Numerals

A numeral is a run of digits of a radix, perhaps an empty one, and denotes the number that its digits have in
positional notation.

* `digitIn_eq` — the digits of a radix are the first ones of a row, and the value of each is its place.
* `readDigits_eq_some_iff` — reading a run of digits accepts the numerals and gives their values.
* `readUnsigned_eq_ok_iff` — a bounded number is a numeral below the bound with a digit at least, perhaps after a plus
  sign.
-/

namespace MarketSync.Text

/-! ## Digits -/

/-- The digits in the order of their values, the letters in lower case. -/
def digitRow : List Char :=
  ['0', '1', '2', '3', '4', '5', '6', '7', '8', '9', 'a', 'b', 'c', 'd', 'e', 'f']

/-- The place of a character in the row of digits, in either case. -/
def digitPlace (c : Char) : ℕ :=
  digitRow.idxOf c.toLower

/-- One of the digits that a radix has, in either case. -/
def IsDigit (radix : ℕ) (c : Char) : Prop :=
  c.toLower ∈ digitRow.take radix

instance (radix : ℕ) : DecidablePred (IsDigit radix) :=
  fun c => inferInstanceAs (Decidable (c.toLower ∈ digitRow.take radix))

-- by the characters of the run: as a statement about all characters it could be decided too, but not in time
instance (radix : ℕ) (cs : List Char) : Decidable (∀ c ∈ cs, IsDigit radix c) :=
  List.decidableBAll (IsDigit radix) cs

/-- A property of all ASCII characters is one of the first 128. -/
theorem forall_ascii {P : Char → Prop} (h : ∀ n < 128, P (Char.ofNat n)) {c : Char} (hc : c.toNat < 128) : P c := by
  have hP := h c.toNat hc
  rwa [Char.ofNat_toNat] at hP

theorem toLower_eq_self {c : Char} (h : ¬ c.toNat < 128) : c.toLower = c := by
  unfold Char.toLower
  rw [dif_neg]
  rintro ⟨-, hle⟩
  exact h (Nat.lt_of_le_of_lt (UInt32.le_iff_toNat_le.1 hle) (by decide))

theorem lt_of_toLower_mem {c : Char} (h : c.toLower ∈ digitRow) : c.toNat < 128 := by
  have hrow : ∀ d ∈ digitRow, d.toNat < 128 := by simp [digitRow]
  by_contra hnot
  exact hnot (hrow c (toLower_eq_self hnot ▸ h))

theorem digitValue_eq (c : Char) : digitValue c = if c.toLower ∈ digitRow then some (digitPlace c) else none := by
  by_cases hascii : c.toNat < 128
  · exact forall_ascii (P := fun c => digitValue c = if c.toLower ∈ digitRow then some (digitPlace c) else none)
      (by decide) hascii
  · rw [if_neg fun hmem => hascii (lt_of_toLower_mem hmem)]
    unfold digitValue
    dsimp only
    split_ifs <;> first | rfl | omega

theorem isDigit_iff {radix : ℕ} {c : Char} : IsDigit radix c ↔ c.toLower ∈ digitRow ∧ digitPlace c < radix := by
  constructor
  · intro h
    have hrow := List.mem_of_mem_take h
    exact ⟨hrow, (List.mem_take_iff_idxOf_lt hrow).1 h⟩
  · rintro ⟨hrow, hplace⟩
    exact (List.mem_take_iff_idxOf_lt hrow).2 hplace

/-- **The digits of a radix are the first ones of the row, and the value of each is its place.** -/
theorem digitIn_eq (radix : ℕ) (c : Char) :
    digitIn radix c = if IsDigit radix c then some (digitPlace c) else none := by
  simp only [digitIn, digitValue_eq, isDigit_iff]
  by_cases hrow : c.toLower ∈ digitRow
  · by_cases hplace : digitPlace c < radix <;> simp [hrow, hplace, Option.filter]
  · simp [hrow]

theorem IsDigit.lt {radix : ℕ} {c : Char} (h : IsDigit radix c) : c.toNat < 128 :=
  lt_of_toLower_mem (List.mem_of_mem_take h)

/-! ## Runs of digits -/

/-- A run of digits of a radix. -/
structure Numeral (radix : ℕ) where
  digits : List Char
  valid : ∀ c ∈ digits, IsDigit radix c

namespace Numeral

variable {radix : ℕ}

/-- The number that digits denote, the last one counting once. -/
def valueOf (radix : ℕ) (cs : List Char) : ℕ :=
  Nat.ofDigits radix (cs.reverse.map digitPlace)

def value (n : Numeral radix) : ℕ :=
  valueOf radix n.digits

theorem valueOf_append (cs ds : List Char) :
    valueOf radix (cs ++ ds) = valueOf radix cs * radix ^ ds.length + valueOf radix ds := by
  rw [valueOf, List.reverse_append, List.map_append, Nat.ofDigits_append, List.length_map, List.length_reverse,
    Nat.add_comm, Nat.mul_comm]
  rfl

theorem valueOf_cons (c : Char) (cs : List Char) :
    valueOf radix (c :: cs) = digitPlace c * radix ^ cs.length + valueOf radix cs := by
  rw [← List.singleton_append, valueOf_append]
  simp [valueOf]

def append (n m : Numeral radix) : Numeral radix where
  digits := n.digits ++ m.digits
  valid := List.forall_mem_append.2 ⟨n.valid, m.valid⟩

theorem value_append (n m : Numeral radix) :
    (n.append m).value = n.value * radix ^ m.digits.length + m.value :=
  valueOf_append n.digits m.digits

def empty : Numeral radix := ⟨[], by simp⟩

@[simp] theorem digits_empty : (empty : Numeral radix).digits = [] := rfl

end Numeral

open Numeral

/-- Digits read after a number have their value behind it. -/
theorem foldlM_digits_eq_some_iff {radix n v : ℕ} {cs : List Char} :
    cs.foldlM (fun n c => (digitIn radix c).map (n * radix + ·)) n = some v ↔
      (∀ c ∈ cs, IsDigit radix c) ∧ n * radix ^ cs.length + valueOf radix cs = v := by
  induction cs generalizing n with
  | nil => simp [valueOf]
  | cons c cs ih =>
    rw [List.foldlM_cons, digitIn_eq, valueOf_cons]
    by_cases hc : IsDigit radix c
    · have hvalue : (n * radix + digitPlace c) * radix ^ cs.length + valueOf radix cs =
          n * radix ^ (c :: cs).length + (digitPlace c * radix ^ cs.length + valueOf radix cs) := by
        rw [List.length_cons]
        ring
      rw [if_pos hc, Option.map_some, Option.bind_eq_bind, Option.bind_some, ih, hvalue]
      simp [hc]
    · simp [hc]

/-- **Reading digits accepts the runs of digits and gives the numbers they denote.** -/
theorem readDigits_eq_some_iff {radix v : ℕ} {cs : List Char} :
    readDigits radix cs = some v ↔ ∃ n : Numeral radix, n.digits = cs ∧ n.value = v := by
  rw [readDigits, foldlM_digits_eq_some_iff, Nat.zero_mul, Nat.zero_add]
  constructor
  · rintro ⟨valid, rfl⟩
    exact ⟨⟨cs, valid⟩, rfl, rfl⟩
  · rintro ⟨n, rfl, rfl⟩
    exact ⟨n.valid, rfl⟩

/-! ## Bounded numbers -/

/-- Digits are read below a bound exactly if the number that they make stays below it. -/
theorem readBelow_eq_ok_iff {bound n v : ℕ} (hn : n < bound) {cs : List Char} :
    readBelow bound n cs = .ok v ↔
      (∀ c ∈ cs, IsDigit 10 c) ∧ n * 10 ^ cs.length + valueOf 10 cs = v ∧ v < bound := by
  induction cs generalizing n with
  | nil =>
    simp only [readBelow, Except.ok.injEq, List.not_mem_nil, false_imp_iff, implies_true, true_and,
      List.length_nil, pow_zero, Nat.mul_one, valueOf, List.reverse_nil, List.map_nil, Nat.ofDigits_nil, Nat.add_zero]
    exact ⟨fun h => ⟨h, h ▸ hn⟩, fun h => h.1⟩
  | cons c cs ih =>
    rw [readBelow, digitIn_eq]
    by_cases hc : IsDigit 10 c
    · have hvalue : (n * 10 + digitPlace c) * 10 ^ cs.length + valueOf 10 cs =
          n * 10 ^ (c :: cs).length + valueOf 10 (c :: cs) := by
        rw [valueOf_cons, List.length_cons]
        ring
      rw [if_pos hc]
      dsimp only
      split
      · rename_i hbelow
        rw [ih hbelow, hvalue]
        simp [hc]
      · rename_i hnot
        -- the number only grows with the digits behind
        have hle : n * 10 + digitPlace c ≤ (n * 10 + digitPlace c) * 10 ^ cs.length + valueOf 10 cs :=
          Nat.le_trans (Nat.le_mul_of_pos_right _ (Nat.pow_pos (by decide))) (Nat.le_add_right _ _)
        constructor
        · simp
        · rintro ⟨-, rfl, hlt⟩
          omega
    · simp [hc]

/-- **A bounded number is a numeral below the bound that has a digit, perhaps after a plus sign.** -/
theorem readUnsigned_eq_ok_iff {bound v : ℕ} (hbound : 0 < bound) {cs : List Char} :
    readUnsigned bound cs = .ok v ↔ ∃ n : Numeral 10, n.digits ≠ [] ∧ n.value = v ∧ v < bound ∧
      (cs = n.digits ∨ cs = '+' :: n.digits) := by
  have hrun {ds : List Char} (hne : ds ≠ []) : readBelow bound 0 ds = .ok v ↔
      ∃ n : Numeral 10, n.digits ≠ [] ∧ n.value = v ∧ v < bound ∧ ds = n.digits := by
    rw [readBelow_eq_ok_iff hbound, Nat.zero_mul, Nat.zero_add]
    constructor
    · rintro ⟨valid, rfl, hlt⟩
      exact ⟨⟨ds, valid⟩, hne, rfl, hlt, rfl⟩
    · rintro ⟨n, -, rfl, hlt, rfl⟩
      exact ⟨n.valid, rfl, hlt⟩
  have hplus (n : Numeral 10) {ds : List Char} : '+' :: ds ≠ n.digits := by
    intro h
    exact absurd (n.valid '+' (h ▸ List.mem_cons_self)) (by decide)
  unfold readUnsigned
  split
  · constructor
    · simp
    · rintro ⟨n, hne, -, -, h | h⟩
      · exact absurd h.symm hne
      · cases h
  · constructor
    · simp
    · rintro ⟨n, hne, -, -, h | h⟩
      · exact absurd h (hplus n)
      · exact absurd (List.cons.inj h).2.symm hne
  · rename_i ds hds
    have hne : ds ≠ [] := fun h => hds (h ▸ rfl)
    rw [hrun hne]
    simp [hplus]
  · rename_i hne hsign hplain
    rw [hrun hne]
    have hnot (n : Numeral 10) : cs ≠ '+' :: n.digits := fun h => hplain _ h
    simp [hnot]

end MarketSync.Text
