import Mathlib.Algebra.Order.Field.Rat
import Mathlib.Tactic.FieldSimp
import MarketSync.Amount
import MarketSync.Proofs.Numerals

/-!
# Literals of amounts

A literal is hexadecimal, plain or has an exponent, and denotes a rational number. Amounts are read exactly by
`parse_amount`: a text that is accepted is a literal, but for underscores and the blanks around it, and the amount is
the number it denotes.

* `expandDecimals_eq_ok_iff` — scaling by a power of ten is exact, and fails if the power or the product is too large.
* `Scaled.number_of_le` — an exponent that covers the digits behind the point makes the number whole.
* `parse_literal` — which amount, if any, is read from a literal.
* `exists_literal` — nothing but literals is read.
* `parse_exact` — an amount that is read is the number that its text denotes.
-/

namespace MarketSync.Amount

open Text

/-! ## Scaling -/

theorem ofNat?_eq_some_iff {n : ℕ} {v : Uint256} : ofNat? n = some v ↔ n = v.toNat := by
  unfold ofNat?
  split
  · rename_i hn
    rw [Option.some.injEq, ← BitVec.toNat_inj, BitVec.toNat_ofNat, Nat.mod_eq_of_lt hn]
  · rename_i hn
    constructor
    · simp
    · rintro rfl
      exact absurd v.isLt hn

theorem pow_ten_lt_iff {d : ℕ} : 10 ^ d < 2 ^ 256 ↔ d ≤ 77 := by
  constructor
  · intro h
    by_contra hnot
    have hle : 10 ^ 78 ≤ 10 ^ d := Nat.pow_le_pow_right (by decide) (by omega)
    have hlarge : 2 ^ 256 < 10 ^ 78 := by norm_num
    omega
  · intro h
    have hle : 10 ^ d ≤ 10 ^ 77 := Nat.pow_le_pow_right (by decide) h
    have hsmall : 10 ^ 77 < 2 ^ 256 := by norm_num
    omega

/-- **Scaling is exact, and fails exactly if the power or the product is too large.** -/
theorem expandDecimals_eq_ok_iff {value scaled : Uint256} {d : ℕ} :
    expandDecimals value d = .ok scaled ↔ 10 ^ d < 2 ^ 256 ∧ value.toNat * 10 ^ d = scaled.toNat := by
  have hopen : expandDecimals value d = .ok scaled ↔
      ((powerOfTen? d).bind fun p => ofNat? (value.toNat * p)) = some scaled := by
    unfold expandDecimals
    split
    · rename_i w hw
      rw [hw, Except.ok.injEq, Option.some.injEq]
    · rename_i hnone
      simp [hnone]
  rw [hopen, pow_ten_lt_iff, ← ofNat?_eq_some_iff, powerOfTen?]
  by_cases hd : d ≤ 77 <;> simp [hd]

/-! ## Numbers with an exponent -/

/-- A number with an exponent, such as `0.5e30`. -/
structure Scaled where
  whole : Numeral 10
  /-- The digits behind the point, if there is one. -/
  fraction : Option (Numeral 10)
  mark : Char
  mark_eq : mark = 'e' ∨ mark = 'E'
  plus : Bool
  exponent : Numeral 10
  exponent_ne_nil : exponent.digits ≠ []
  exponent_lt : exponent.value < 2 ^ 32

namespace Scaled

def fractionRun (s : Scaled) : Numeral 10 :=
  s.fraction.getD .empty

def decimals (s : Scaled) : ℕ :=
  s.fractionRun.digits.length

/-- What stands in front of the mark. -/
def mantissa (s : Scaled) : List Char :=
  s.whole.digits ++ s.fraction.elim [] fun f => '.' :: f.digits

/-- What stands behind the mark. -/
def signedExponent (s : Scaled) : List Char :=
  if s.plus then '+' :: s.exponent.digits else s.exponent.digits

def text (s : Scaled) : List Char :=
  s.mantissa ++ s.mark :: s.signedExponent

def number (s : Scaled) : ℚ :=
  (s.whole.value + s.fractionRun.value / 10 ^ s.decimals) * 10 ^ s.exponent.value

/-- All digits in front of the mark as one number. -/
def coefficient (s : Scaled) : ℕ :=
  (s.whole.append s.fractionRun).value

/-- The exponent covers the digits behind the point, and the power of ten that is left fits. -/
def Covered (s : Scaled) : Prop :=
  s.decimals ≤ s.exponent.value ∧ 10 ^ (s.exponent.value - s.decimals) < 2 ^ 256

theorem number_eq (s : Scaled) : s.number = s.coefficient / 10 ^ s.decimals * 10 ^ s.exponent.value := by
  have hpow : (10 : ℚ) ^ s.decimals ≠ 0 := pow_ne_zero _ (by norm_num)
  rw [number, coefficient, Numeral.value_append, ← decimals]
  push_cast
  field_simp

/-- **An exponent that covers the digits behind the point makes the number whole.** -/
theorem number_of_le {s : Scaled} (h : s.decimals ≤ s.exponent.value) :
    s.number = (s.coefficient * 10 ^ (s.exponent.value - s.decimals) : ℕ) := by
  have hpow : (10 : ℚ) ^ s.decimals ≠ 0 := pow_ne_zero _ (by norm_num)
  have hsplit : (10 : ℚ) ^ s.exponent.value = 10 ^ (s.exponent.value - s.decimals) * 10 ^ s.decimals := by
    rw [← pow_add, Nat.sub_add_cancel h]
  rw [number_eq, hsplit]
  push_cast
  field_simp

end Scaled

/-! ## Reading numbers with an exponent -/

theorem readRun_eq_some_iff {radix : ℕ} {cs : List Char} {v : Uint256} :
    readRun radix cs = some v ↔ ∃ n : Numeral radix, n.digits = cs ∧ n.value = v.toNat := by
  simp only [readRun, Option.bind_eq_some_iff, readDigits_eq_some_iff, ofNat?_eq_some_iff]
  constructor
  · rintro ⟨_, ⟨n, rfl, rfl⟩, hv⟩
    exact ⟨n, rfl, hv⟩
  · rintro ⟨n, rfl, hv⟩
    exact ⟨n.value, ⟨n, rfl, rfl⟩, hv⟩

theorem readRun_digits {radix : ℕ} (n : Numeral radix) {v : Uint256} :
    readRun radix n.digits = some v ↔ n.value = v.toNat := by
  rw [readRun_eq_some_iff]
  constructor
  · rintro ⟨m, hm, hv⟩
    rwa [Numeral.value, ← hm]
  · exact fun hv => ⟨n, rfl, hv⟩

theorem ne_of_isDigit {c m : Char} (hc : IsDigit 10 c) (hm : ¬ IsDigit 10 m) : c ≠ m :=
  fun h => hm (h ▸ hc)

theorem ne_mark_of_isDigit {c : Char} (h : IsDigit 10 c) : c ≠ 'e' ∧ c ≠ 'E' :=
  ⟨ne_of_isDigit h (by decide), ne_of_isDigit h (by decide)⟩

theorem not_hexMark_of_isDigit {c : Char} (h : IsDigit 10 c) : ¬ (c = 'x' ∨ c = 'X') :=
  not_or.2 ⟨ne_of_isDigit h (by decide), ne_of_isDigit h (by decide)⟩

namespace Scaled

variable {s : Scaled} {raw : String} {v : Uint256}

theorem splitPoint_mantissa (s : Scaled) : splitPoint s.mantissa = (s.whole.digits, s.fractionRun.digits) := by
  have hwhole : ∀ c ∈ s.whole.digits, (c == '.') = false := fun c hc =>
    beq_false_of_ne (ne_of_isDigit (s.whole.valid c hc) (by decide))
  unfold splitPoint mantissa fractionRun
  cases s.fraction with
  | none =>
    have hnone : splitFirst (· == '.') s.whole.digits = none := splitFirst_eq_none_iff.2 hwhole
    simp [hnone]
  | some f =>
    have hsome : splitFirst (· == '.') (s.whole.digits ++ '.' :: f.digits) = some (s.whole.digits, f.digits) :=
      splitFirst_append hwhole rfl
    simp [hsome]

theorem readUnsigned_signedExponent (s : Scaled) :
    readUnsigned UInt32.size s.signedExponent = .ok s.exponent.value := by
  refine (readUnsigned_eq_ok_iff (by decide)).2 ⟨s.exponent, s.exponent_ne_nil, rfl, s.exponent_lt, ?_⟩
  unfold signedExponent
  split
  · exact Or.inr rfl
  · exact Or.inl rfl

/-- **A number with an exponent is read exactly if its exponent covers it and the number fits.** -/
theorem parseScaled_eq_ok_iff :
    parseScaled raw s.mantissa s.signedExponent = .ok v ↔ s.Covered ∧ s.number = v.toNat := by
  unfold parseScaled
  rw [readUnsigned_signedExponent, splitPoint_mantissa]
  dsimp only
  split
  · rename_i hlt
    have hnot : ¬ s.Covered := fun h => absurd h.1 (Nat.not_le.2 hlt)
    simp [hnot]
  · rename_i hle
    rw [Nat.not_lt] at hle
    rw [number_of_le hle, Nat.cast_inj]
    have hbase {base : Uint256} : readRun 10 (s.whole.digits ++ s.fractionRun.digits) = some base ↔
        s.coefficient = base.toNat := readRun_digits (s.whole.append s.fractionRun)
    split
    · rename_i hnone
      constructor
      · simp
      · rintro ⟨-, hv⟩
        -- the digits without the exponent denote no more than the whole number
        have hfits : s.coefficient < 2 ^ 256 :=
          Nat.lt_of_le_of_lt (Nat.le_mul_of_pos_right _ (Nat.pow_pos (by decide))) (hv ▸ v.isLt)
        have hsome := hbase.2 (show s.coefficient = (BitVec.ofNat 256 s.coefficient).toNat by
          rw [BitVec.toNat_ofNat, Nat.mod_eq_of_lt hfits])
        rw [hnone] at hsome
        cases hsome
    · rename_i base hsome
      rw [expandDecimals_eq_ok_iff, ← hbase.1 hsome]
      exact ⟨fun h => ⟨⟨hle, h.1⟩, h.2⟩, fun h => ⟨h.1.2, h.2⟩⟩

theorem mem_mantissa {c : Char} (h : c ∈ s.mantissa) : IsDigit 10 c ∨ c = '.' := by
  unfold mantissa at h
  rcases List.mem_append.1 h with hwhole | hpoint
  · exact Or.inl (s.whole.valid c hwhole)
  · cases hfraction : s.fraction with
    | none => simp [hfraction] at hpoint
    | some f =>
      rw [hfraction] at hpoint
      rcases List.mem_cons.1 hpoint with rfl | hf
      · exact Or.inr rfl
      · exact Or.inl (f.valid c hf)

theorem mem_text {c : Char} (h : c ∈ s.text) : IsDigit 10 c ∨ c ∈ ['.', 'e', 'E', '+'] := by
  rcases List.mem_append.1 h with hmantissa | hrest
  · exact (mem_mantissa hmantissa).imp_right fun h => by simp [h]
  · rcases List.mem_cons.1 hrest with rfl | hexponent
    · rcases s.mark_eq with h | h <;> simp [h]
    · unfold signedExponent at hexponent
      split at hexponent
      · rcases List.mem_cons.1 hexponent with rfl | hdigit
        · simp
        · exact Or.inl (s.exponent.valid c hdigit)
      · exact Or.inl (s.exponent.valid c hexponent)

theorem ne_mark {c : Char} (h : c ∈ s.mantissa) : c ≠ 'e' ∧ c ≠ 'E' := by
  rcases mem_mantissa h with hdigit | rfl
  · exact ne_mark_of_isDigit hdigit
  · decide

theorem splitExponent_text (s : Scaled) : splitExponent s.text = some (s.mantissa, s.signedExponent) := by
  refine splitFirst_append (fun c hc => by simp [ne_mark hc]) ?_
  rcases s.mark_eq with h | h <;> simp [h]

/-- Nothing else is read as a number with an exponent. -/
theorem exists_scaled {mantissa exponent : List Char} {mark : Char} (hmark : mark = 'e' ∨ mark = 'E')
    (h : parseScaled raw mantissa exponent = .ok v) : ∃ s : Scaled, s.text = mantissa ++ mark :: exponent := by
  unfold parseScaled at h
  split at h
  · cases h
  · rename_i e hexponent
    obtain ⟨n, hne, rfl, hlt, hsign⟩ := (readUnsigned_eq_ok_iff (by decide)).1 hexponent
    dsimp only at h
    split at h
    · cases h
    · split at h
      · cases h
      · rename_i base hbase
        obtain ⟨m, hm, -⟩ := readRun_eq_some_iff.1 hbase
        obtain ⟨hwhole, hfraction⟩ := List.forall_mem_append.1 (hm ▸ m.valid)
        have hsigned : ∃ plus : Bool, (if plus then '+' :: n.digits else n.digits) = exponent := by
          rcases hsign with rfl | rfl
          · exact ⟨false, rfl⟩
          · exact ⟨true, rfl⟩
        have hmantissa : ∃ (whole : Numeral 10) (fraction : Option (Numeral 10)),
            whole.digits ++ (fraction.elim [] fun f => '.' :: f.digits) = mantissa := by
          cases hpoint : splitFirst (· == '.') mantissa with
          | none =>
            simp only [splitPoint, hpoint, Option.getD_none] at hwhole
            exact ⟨⟨mantissa, hwhole⟩, none, by simp⟩
          | some parts =>
            obtain ⟨-, c, hc, hcut⟩ := eq_of_splitFirst hpoint
            simp only [splitPoint, hpoint, Option.getD_some] at hwhole hfraction
            refine ⟨⟨parts.1, hwhole⟩, some ⟨parts.2, hfraction⟩, ?_⟩
            rw [hcut, eq_of_beq hc]
            rfl
        obtain ⟨plus, rfl⟩ := hsigned
        obtain ⟨whole, fraction, rfl⟩ := hmantissa
        exact ⟨⟨whole, fraction, mark, hmark, plus, n, hne, hlt⟩, rfl⟩

end Scaled

/-! ## Literals -/

/-- A text that denotes a number. -/
inductive Literal where
  | hexadecimal (mark : Char) (mark_eq : mark = 'x' ∨ mark = 'X') (run : Numeral 16)
  | plain (run : Numeral 10) (ne_nil : run.digits ≠ [])
  | scaled (s : Scaled)

namespace Literal

def text : Literal → List Char
  | hexadecimal mark _ run => '0' :: mark :: run.digits
  | plain run _ => run.digits
  | scaled s => s.text

def number : Literal → ℚ
  | hexadecimal _ _ run => run.value
  | plain run _ => run.value
  | scaled s => s.number

/-- What reading asks of a literal, other than that its number is whole and fits. -/
def Covered : Literal → Prop
  | hexadecimal _ _ _ | plain _ _ => True
  | scaled s => s.Covered

theorem mem_text {l : Literal} {c : Char} (h : c ∈ l.text) : IsDigit 16 c ∨ c ∈ ['x', 'X', '.', 'e', 'E', '+'] := by
  have hdecimal (hc : IsDigit 10 c) : IsDigit 16 c := by
    rw [isDigit_iff] at hc ⊢
    exact ⟨hc.1, by omega⟩
  cases l with
  | hexadecimal mark mark_eq run =>
    rcases List.mem_cons.1 h with rfl | hrest
    · exact Or.inl (by decide)
    · rcases List.mem_cons.1 hrest with rfl | hdigit
      · rcases mark_eq with rfl | rfl <;> simp
      · exact Or.inl (run.valid c hdigit)
  | plain run ne_nil => exact Or.inl (hdecimal (run.valid c h))
  | scaled s =>
    rcases Scaled.mem_text h with hdigit | hother
    · exact Or.inl (hdecimal hdigit)
    · exact Or.inr (List.mem_cons_of_mem _ (List.mem_cons_of_mem _ hother))

/-- Every character of a literal counts. -/
theorem significant_text (l : Literal) : significant (String.ofList l.text) = l.text := by
  have hcounts {c : Char} (h : c ∈ l.text) : isBlank c = false ∧ c ≠ '_' := by
    rcases mem_text h with hdigit | hother
    · exact forall_ascii (P := fun c => IsDigit 16 c → isBlank c = false ∧ c ≠ '_') (by decide) hdigit.lt hdigit
    · simp only [List.mem_cons, List.not_mem_nil, or_false] at hother
      rcases hother with rfl | rfl | rfl | rfl | rfl | rfl <;> decide
  rw [significant, String.toList_ofList, trim_eq_self fun c hc => (hcounts hc).1]
  exact List.filter_eq_self.2 fun c hc => decide_eq_true (hcounts hc).2

end Literal

theorem hexRun?_eq_some_iff {cs body : List Char} :
    hexRun? cs = some body ↔ ∃ mark, (mark = 'x' ∨ mark = 'X') ∧ cs = '0' :: mark :: body := by
  constructor
  · intro h
    unfold hexRun? at h
    split at h
    · cases h
      exact ⟨'x', Or.inl rfl, rfl⟩
    · cases h
      exact ⟨'X', Or.inr rfl, rfl⟩
    · cases h
  · rintro ⟨mark, rfl | rfl, rfl⟩ <;> rfl

theorem hexRun?_eq_none {cs : List Char} (h : ∀ c ∈ cs, ¬ (c = 'x' ∨ c = 'X')) : hexRun? cs = none := by
  by_contra hsome
  obtain ⟨body, hbody⟩ := Option.ne_none_iff_exists'.1 hsome
  obtain ⟨mark, hmark, rfl⟩ := hexRun?_eq_some_iff.1 hbody
  exact h mark (by simp) hmark

theorem hexRun?_digits (run : Numeral 10) : hexRun? run.digits = none :=
  hexRun?_eq_none fun c hc => not_hexMark_of_isDigit (run.valid c hc)

theorem hexRun?_text (s : Scaled) : hexRun? s.text = none :=
  hexRun?_eq_none fun c hc hx => by
    rcases Scaled.mem_text hc with hdigit | hother
    · exact not_hexMark_of_isDigit hdigit hx
    · rcases hx with rfl | rfl <;> simp at hother

section
variable {raw : String} {v : Uint256}

theorem parse_of_hexRun {body : List Char} (h : hexRun? (significant raw) = some body) :
    parse raw = .ok v ↔ readRun 16 body = some v := by
  unfold parse
  dsimp only
  split
  · rename_i hnil
    rw [hnil] at h
    cases h
  · rw [h]
    dsimp only
    split <;> simp_all

theorem parse_of_exponent {mantissa exponent : List Char} (hhex : hexRun? (significant raw) = none)
    (h : splitExponent (significant raw) = some (mantissa, exponent)) :
    parse raw = parseScaled raw mantissa exponent := by
  unfold parse
  dsimp only
  split
  · rename_i hnil
    rw [hnil] at h
    cases h
  · rw [hhex, h]

theorem parse_of_plain (hhex : hexRun? (significant raw) = none) (h : splitExponent (significant raw) = none) :
    parse raw = .ok v ↔ significant raw ≠ [] ∧ readRun 10 (significant raw) = some v := by
  unfold parse
  dsimp only
  split
  · rename_i hnil
    simp [hnil]
  · rename_i hne
    rw [hhex, h]
    dsimp only
    split <;> simp_all

/-- **An amount is read from a literal exactly if it is covered and denotes that amount.** -/
theorem parse_literal {l : Literal} (h : significant raw = l.text) :
    parse raw = .ok v ↔ l.Covered ∧ l.number = v.toNat := by
  cases l with
  | hexadecimal mark mark_eq run =>
    have hhex : hexRun? (significant raw) = some run.digits := hexRun?_eq_some_iff.2 ⟨mark, mark_eq, h⟩
    rw [parse_of_hexRun hhex, readRun_digits]
    simp [Literal.Covered, Literal.number]
  | plain run ne_nil =>
    have hhex : hexRun? (significant raw) = none := by
      rw [h]
      exact hexRun?_digits run
    have hplain : splitExponent (significant raw) = none := by
      rw [h]
      exact splitFirst_eq_none_iff.2 fun c hc => by simp [ne_mark_of_isDigit (run.valid c hc)]
    rw [parse_of_plain hhex hplain, h, Literal.text, readRun_digits]
    simp [Literal.Covered, Literal.number, ne_nil]
  | scaled s =>
    have hhex : hexRun? (significant raw) = none := by
      rw [h]
      exact hexRun?_text s
    have hsplit : splitExponent (significant raw) = some (s.mantissa, s.signedExponent) := by
      rw [h]
      exact s.splitExponent_text
    rw [parse_of_exponent hhex hsplit]
    exact Scaled.parseScaled_eq_ok_iff

/-- **Nothing but literals is read.** -/
theorem exists_literal (h : parse raw = .ok v) : ∃ l : Literal, l.text = significant raw := by
  cases hhex : hexRun? (significant raw) with
  | some body =>
    obtain ⟨mark, hmark, hcut⟩ := hexRun?_eq_some_iff.1 hhex
    obtain ⟨run, rfl, -⟩ := readRun_eq_some_iff.1 ((parse_of_hexRun hhex).1 h)
    exact ⟨.hexadecimal mark hmark run, hcut.symm⟩
  | none =>
    cases hsplit : splitExponent (significant raw) with
    | some parts =>
      obtain ⟨-, mark, hmark, hcut⟩ := eq_of_splitFirst hsplit
      rw [parse_of_exponent hhex hsplit] at h
      have hexponent : mark = 'e' ∨ mark = 'E' := by simpa using hmark
      obtain ⟨s, hs⟩ := Scaled.exists_scaled hexponent h
      exact ⟨.scaled s, hs.trans hcut.symm⟩
    | none =>
      obtain ⟨hne, hrun⟩ := (parse_of_plain hhex hsplit).1 h
      obtain ⟨run, hdigits, -⟩ := readRun_eq_some_iff.1 hrun
      exact ⟨.plain run (by rwa [hdigits]), hdigits⟩

/-- **An amount that is read is the number that its text denotes: but for underscores and the blanks around it the
text is a literal, whose number is that amount and below 2^256.** -/
theorem parse_exact (h : parse raw = .ok v) : (∃ l : Literal, l.text = significant raw) ∧
    ∀ l : Literal, l.text = significant raw → l.number = v.toNat ∧ l.number < 2 ^ 256 := by
  refine ⟨exists_literal h, fun l hl => ?_⟩
  have hnumber : l.number = v.toNat := ((parse_literal hl.symm).1 h).2
  refine ⟨hnumber, ?_⟩
  rw [hnumber]
  exact_mod_cast v.isLt

end

/-- `.5E+2`. -/
def fifty : Scaled where
  whole := .empty
  fraction := some ⟨['5'], by decide⟩
  mark := 'E'
  mark_eq := Or.inr rfl
  plus := true
  exponent := ⟨['2'], by decide⟩
  exponent_ne_nil := by decide
  exponent_lt := by decide

/-- Underscores and blanks around a literal do not count, and no digits in front of the point stand for zero. -/
theorem parse_fifty : parse " _.5E+2_ " = .ok 50 ∧ fifty.text = significant " _.5E+2_ " ∧ fifty.number = 50 := by
  have hok : parse " _.5E+2_ " = .ok 50 := rfl
  have htext : (Literal.scaled fifty).text = significant " _.5E+2_ " := by decide
  have hnumber : fifty.number = ((50 : Uint256).toNat : ℚ) := ((parse_exact hok).2 _ htext).1
  exact ⟨hok, htext, by simpa using hnumber⟩

end MarketSync.Amount
