import MarketSync.Proofs.Literals

/-!
# Scaling by powers of ten

An amount times a power of ten (`expand_decimals`) is either the product itself or refused; what is left modulo 2^256 is
never given. Two limits are kept, one for the power and one for the product. For an amount that is not zero the product
is the larger number, so the limits fall together and scaling in two steps is scaling in one.

* `expandDecimals_of_inRange`, `expandDecimals_of_not_inRange` — both outcomes, from numbers without bounds.
* `inRange_of_scaled` — an amount that is not zero fits if its product does.
* `expandDecimals_add` — scaling by a sum of decimals is scaling by one summand and then by the other.
* `scaling_exact` — all of this at once.
-/

namespace MarketSync.Amount

variable {value : Uint256} {a b d : ℕ}

/-- Both the power of ten and the product are below 2^256. -/
def InRange (value : Uint256) (d : ℕ) : Prop :=
  10 ^ d < 2 ^ 256 ∧ value.toNat * 10 ^ d < 2 ^ 256

/-! ## Scaling once -/

theorem expandDecimals_of_inRange (h : InRange value d) :
    expandDecimals value d = .ok (BitVec.ofNatLT (value.toNat * 10 ^ d) h.2) := by
  rw [expandDecimals_eq_ok_iff]
  exact ⟨h.1, by simp⟩

theorem inRange_of_expandDecimals {scaled : Uint256} (h : expandDecimals value d = .ok scaled) : InRange value d := by
  obtain ⟨hpower, hproduct⟩ := expandDecimals_eq_ok_iff.1 h
  refine ⟨hpower, ?_⟩
  rw [hproduct]
  exact scaled.isLt

theorem expandDecimals_of_not_inRange (h : ¬ InRange value d) : expandDecimals value d = .error (.overflow value d) := by
  cases hscaled : expandDecimals value d with
  | ok scaled => exact absurd (inRange_of_expandDecimals hscaled) h
  | error e =>
    unfold expandDecimals at hscaled
    split at hscaled
    · cases hscaled
    · rw [← hscaled]

/-! ## Scaling twice -/

/-- A product of something that is not zero is no smaller than the power of ten in it. -/
theorem inRange_of_scaled (hpos : value ≠ 0) (h : value.toNat * 10 ^ d < 2 ^ 256) : InRange value d := by
  have hone : 0 < value.toNat := by
    apply Nat.pos_of_ne_zero
    intro hzero
    apply hpos
    apply BitVec.eq_of_toNat_eq
    simpa using hzero
  exact ⟨Nat.lt_of_le_of_lt (Nat.le_mul_of_pos_left _ hone) h, h⟩

/-- **Scaling by a sum of decimals is scaling by one summand and then by the other**, as far as the range goes. -/
theorem expandDecimals_add (hpos : value ≠ 0) {scaled : Uint256} :
    expandDecimals value (a + b) = .ok scaled ↔
      ∃ middle, expandDecimals value a = .ok middle ∧ expandDecimals middle b = .ok scaled := by
  constructor
  · intro h
    obtain ⟨hpower, hproduct⟩ := expandDecimals_eq_ok_iff.1 h
    rw [Nat.pow_add] at hpower hproduct
    -- the first product and the second power are factors of numbers in the range
    have hfirst : value.toNat * 10 ^ a < 2 ^ 256 := by
      have hfactor : value.toNat * 10 ^ a ≤ value.toNat * 10 ^ a * 10 ^ b :=
        Nat.le_mul_of_pos_right _ (Nat.pow_pos (by decide))
      have hlt : scaled.toNat < 2 ^ 256 := scaled.isLt
      rw [← Nat.mul_assoc] at hproduct
      omega
    have hsecond : 10 ^ b < 2 ^ 256 :=
      Nat.lt_of_le_of_lt (Nat.le_mul_of_pos_left _ (Nat.pow_pos (by decide))) hpower
    refine ⟨_, expandDecimals_of_inRange (inRange_of_scaled hpos hfirst), ?_⟩
    rw [expandDecimals_eq_ok_iff]
    refine ⟨hsecond, ?_⟩
    rw [← hproduct, BitVec.toNat_ofNatLT, Nat.mul_assoc]
  · rintro ⟨middle, hmiddle, hscaled⟩
    obtain ⟨-, hfirst⟩ := expandDecimals_eq_ok_iff.1 hmiddle
    obtain ⟨-, hsecond⟩ := expandDecimals_eq_ok_iff.1 hscaled
    have hproduct : value.toNat * 10 ^ (a + b) = scaled.toNat := by
      rw [Nat.pow_add, ← Nat.mul_assoc, hfirst, hsecond]
    have hrange : InRange value (a + b) := by
      apply inRange_of_scaled hpos
      rw [hproduct]
      exact scaled.isLt
    rw [expandDecimals_eq_ok_iff]
    exact ⟨hrange.1, hproduct⟩

/-- **Scaling is exact or refused, and composes.** An amount times a power of ten is the product over the integers if
the power and the product are below 2^256, and else an error that names both; for an amount that is not zero, scaling by
a sum of decimals gives a result exactly if scaling by the summands one after the other does, and the same one. -/
theorem scaling_exact (value : Uint256) :
    (∀ d, expandDecimals value d = if h : 10 ^ d < 2 ^ 256 ∧ value.toNat * 10 ^ d < 2 ^ 256
      then .ok (BitVec.ofNatLT (value.toNat * 10 ^ d) h.2) else .error (.overflow value d)) ∧
    (value ≠ 0 → ∀ a b scaled, expandDecimals value (a + b) = .ok scaled ↔
      ∃ middle, expandDecimals value a = .ok middle ∧ expandDecimals middle b = .ok scaled) := by
  constructor
  · intro d
    split
    · rename_i h
      exact expandDecimals_of_inRange h
    · rename_i h
      exact expandDecimals_of_not_inRange h
  · intro hpos a b scaled
    exact expandDecimals_add hpos

/-- Half a unit of a factor with thirty decimals, scaled up to the last power of ten that is in range. -/
theorem half_scaled_in_two_steps : (5 : Uint256) ≠ 0 ∧ ∃ middle,
    expandDecimals 5 29 = .ok middle ∧ expandDecimals middle 47 = .ok (BitVec.ofNat 256 (5 * Nat.pow 10 76)) := by
  have hpos : (5 : Uint256) ≠ 0 := by decide
  have hscaled : expandDecimals 5 (29 + 47) = .ok (BitVec.ofNat 256 (5 * Nat.pow 10 76)) := by
    rw [expandDecimals_eq_ok_iff]
    decide
  exact ⟨hpos, ((scaling_exact 5).2 hpos 29 47 _).1 hscaled⟩

/-- Zero has to be left out: in two steps it stays zero where the power in one step is too large. -/
example : expandDecimals 0 77 = .ok 0 ∧ expandDecimals 0 1 = .ok 0 ∧ expandDecimals 0 78 = .error (.overflow 0 78) := by
  simp [expandDecimals, powerOfTen?, ofNat?]

end MarketSync.Amount
