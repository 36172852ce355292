import Mathlib.Data.List.TakeWhile
import MarketSync.Proofs.Literals

/-!
# Which literals are refused

A number with an exponent is refused by `parse_amount` if it is not whole or does not fit, and in two more cases: its
exponent is smaller than the number of digits behind the point, although these end in zeros, or the number is zero and
the power of ten alone does not fit. A text without a digit is refused as well, except for a mark that stands for
itself.

* `Scaled.covered_iff` — what reading asks of an exponent where the number is whole and fits.
* `scaled_accepted_iff` — which numbers with an exponent are read, and that equal ones are read as one amount.
* `whole_number_refused` — a whole number that fits and is refused.
* `digitless_refused_iff` — which texts without a digit are refused; the others are read as zero.
* `bare_mark_read` — a text without a digit that is read.
-/

namespace MarketSync.Amount

open Text

/-! ## Whole numbers that are refused -/

namespace Scaled

/-- What is asked of a number with an exponent that is whole and fits: the exponent is as large as the number of
digits behind the point, and exceeds it by less than 78 if the number is zero. -/
structure Readable (s : Scaled) : Prop where
  decimals_le : s.decimals ≤ s.exponent.value
  of_zero : s.number = 0 → s.exponent.value < s.decimals + 78

/-- A number that is not zero fits only together with its power of ten. -/
theorem covered_iff {s : Scaled} {v : Uint256} (h : s.number = v.toNat) : s.Covered ↔ s.Readable := by
  constructor
  · rintro ⟨hle, hpow⟩
    refine ⟨hle, fun _ => ?_⟩
    have hshift := pow_ten_lt_iff.1 hpow
    omega
  · rintro ⟨hle, hzero⟩
    refine ⟨hle, ?_⟩
    by_cases hnumber : s.number = 0
    · have hlt := hzero hnumber
      exact pow_ten_lt_iff.2 (by omega)
    · rw [number_of_le hle, Nat.cast_inj] at h
      have hpos : 0 < s.coefficient := by
        rw [Nat.pos_iff_ne_zero]
        intro hnone
        rw [number_of_le hle, hnone] at hnumber
        simp at hnumber
      exact Nat.lt_of_le_of_lt (Nat.le_mul_of_pos_left _ hpos) (h ▸ v.isLt)

end Scaled

/-- **A number with an exponent is read exactly if it is whole, fits and is readable; so numbers that are equal and
readable are read as one amount or refused together.** -/
theorem scaled_accepted_iff (s : Scaled) : significant (String.ofList s.text) = s.text ∧
    ∀ raw, significant raw = s.text →
      (∀ v : Uint256, parse raw = .ok v ↔ s.number = v.toNat ∧ s.Readable) ∧
      ∀ (s' : Scaled) (raw' : String), significant raw' = s'.text → s'.number = s.number → s.Readable → s'.Readable →
        ∀ v, parse raw = .ok v ↔ parse raw' = .ok v := by
  have haccepted {s : Scaled} {raw : String} (h : significant raw = s.text) (v : Uint256) :
      parse raw = .ok v ↔ s.number = v.toNat ∧ s.Readable := by
    rw [parse_literal (l := .scaled s) h, and_comm]
    exact and_congr_right fun hnumber => Scaled.covered_iff hnumber
  refine ⟨Literal.significant_text (.scaled s), fun raw h => ⟨haccepted h, ?_⟩⟩
  intro s' raw' h' hsame readable readable' v
  rw [haccepted h, haccepted h', hsame]
  simp [readable, readable']

/-- `12.0e1`. -/
def hundredTwenty : Scaled where
  whole := ⟨['1', '2'], by decide⟩
  fraction := some ⟨['0'], by decide⟩
  mark := 'e'
  mark_eq := Or.inl rfl
  plus := false
  exponent := ⟨['1'], by decide⟩
  exponent_ne_nil := by decide
  exponent_lt := by decide

/-- Zeros behind the point are read where the exponent covers them. -/
theorem hundredTwenty_accepted : significant "12.0e1" = hundredTwenty.text ∧ parse "12.0e1" = .ok 120 := by
  have htext : significant "12.0e1" = hundredTwenty.text := by decide
  have hnumber : hundredTwenty.number = 120 := by
    have hwhole : hundredTwenty.coefficient * 10 ^ (hundredTwenty.exponent.value - hundredTwenty.decimals) = 120 := by
      decide
    rw [Scaled.number_of_le (by decide), hwhole]
    rfl
  refine ⟨htext, (((scaled_accepted_iff hundredTwenty).2 _ htext).1 120).2 ⟨?_, ?_⟩⟩
  · rw [hnumber]
    rfl
  · exact ⟨by decide, by simp [hnumber]⟩

/-- `12.0e0`. -/
def uncoveredTwelve : Scaled :=
  { hundredTwenty with exponent := ⟨['0'], by decide⟩, exponent_ne_nil := by decide, exponent_lt := by decide }

/-- `0e78`. -/
def overscaledZero : Scaled where
  whole := ⟨['0'], by decide⟩
  fraction := none
  mark := 'e'
  mark_eq := Or.inl rfl
  plus := false
  exponent := ⟨['7', '8'], by decide⟩
  exponent_ne_nil := by decide
  exponent_lt := by decide

/-- A number that is whole and fits is refused for a zero behind the point, and zero for its power of ten. -/
theorem whole_number_refused :
    (significant "12.0e0" = uncoveredTwelve.text ∧ uncoveredTwelve.number = (12 : Uint256).toNat ∧
      parse "12.0e0" = .error (.malformed "12.0e0")) ∧
    significant "0e78" = overscaledZero.text ∧ overscaledZero.number = (0 : Uint256).toNat ∧
      parse "0e78" = .error (.overflow 0 78) := by
  have htwelve : uncoveredTwelve.number = 12 := by
    have hcoefficient : uncoveredTwelve.coefficient = 120 := by decide
    have hdecimals : uncoveredTwelve.decimals = 1 := by decide
    have hexponent : uncoveredTwelve.exponent.value = 0 := by decide
    rw [Scaled.number_eq, hcoefficient, hdecimals, hexponent]
    norm_num
  have hzero : overscaledZero.number = 0 := by
    have hcoefficient : overscaledZero.coefficient = 0 := by decide
    rw [Scaled.number_eq, hcoefficient]
    simp
  exact ⟨⟨by decide, by rw [htwelve]; rfl, rfl⟩, by decide, by rw [hzero]; rfl, rfl⟩

/-! ## Texts without a digit -/

/-- The radix of a text and the part of it that holds the digits of its number: what follows the mark of hexadecimal
numbers, or what stands in front of an exponent. -/
def numberPart : List Char → ℕ × List Char
  | '0' :: 'x' :: cs => (16, cs)
  | '0' :: 'X' :: cs => (16, cs)
  | cs => (10, cs.takeWhile fun c => c ≠ 'e' ∧ c ≠ 'E')

/-- The part of a text that holds the digits of its number has none. -/
def Digitless (cs : List Char) : Prop :=
  ∀ c ∈ (numberPart cs).2, ¬ IsDigit (numberPart cs).1 c

/-- A mark that stands for itself: the one of hexadecimal numbers with nothing behind it, or an exponent below 78 with
nothing in front of it but perhaps a point. -/
inductive Bare : List Char → Prop
  | hexadecimal (mark : Char) (mark_eq : mark = 'x' ∨ mark = 'X') : Bare ['0', mark]
  | exponent (s : Scaled) (whole : s.whole.digits = []) (decimals : s.decimals = 0) (small : s.exponent.value < 78) :
    Bare s.text

theorem numberPart_hexadecimal {mark : Char} (h : mark = 'x' ∨ mark = 'X') (cs : List Char) :
    numberPart ('0' :: mark :: cs) = (16, cs) := by
  rcases h with rfl | rfl <;> rfl

theorem numberPart_of_hexRun? {cs : List Char} (h : hexRun? cs = none) :
    numberPart cs = (10, cs.takeWhile fun c => c ≠ 'e' ∧ c ≠ 'E') := by
  unfold numberPart
  split
  · cases h
  · cases h
  · rfl

theorem numberPart_digits (run : Numeral 10) : numberPart run.digits = (10, run.digits) := by
  rw [numberPart_of_hexRun? (hexRun?_digits run), List.takeWhile_eq_self_iff.2 fun c hc => ?_]
  simp [ne_mark_of_isDigit (run.valid c hc)]

theorem numberPart_text (s : Scaled) : numberPart s.text = (10, s.mantissa) := by
  rw [numberPart_of_hexRun? (hexRun?_text s), Scaled.text,
    List.takeWhile_append_of_pos fun c hc => by simp [Scaled.ne_mark hc]]
  rcases s.mark_eq with h | h <;> simp [h]

theorem digits_eq_nil {radix : ℕ} {run : Numeral radix} {cs part : List Char} (h : Digitless cs)
    (hpart : numberPart cs = (radix, part)) (hrun : run.digits ⊆ part) : run.digits = [] := by
  unfold Digitless at h
  rw [hpart] at h
  exact List.eq_nil_iff_forall_not_mem.2 fun c hc => h c (hrun hc) (run.valid c hc)

theorem value_eq_zero {radix : ℕ} {run : Numeral radix} (h : run.digits = []) : run.value = 0 := by
  rw [Numeral.value, h]
  rfl

/-- A literal without a digit, if it is covered, is a mark that stands for itself and denotes zero. -/
theorem bare_of_digitless {l : Literal} (h : Digitless l.text) (covered : l.Covered) : Bare l.text ∧ l.number = 0 := by
  cases l with
  | hexadecimal mark mark_eq run =>
    have hnil : run.digits = [] := digits_eq_nil h (numberPart_hexadecimal mark_eq run.digits) (List.Subset.refl _)
    refine ⟨?_, by simp [Literal.number, value_eq_zero hnil]⟩
    rw [Literal.text, hnil]
    exact .hexadecimal mark mark_eq
  | plain run ne_nil =>
    exact absurd (digits_eq_nil h (numberPart_digits run) (List.Subset.refl _)) ne_nil
  | scaled s =>
    have hwhole : s.whole.digits = [] := digits_eq_nil h (numberPart_text s) (by simp [Scaled.mantissa])
    have hfraction : s.fractionRun.digits = [] := by
      refine digits_eq_nil h (numberPart_text s) ?_
      rw [Scaled.fractionRun, Scaled.mantissa]
      cases s.fraction <;> simp
    have hdecimals : s.decimals = 0 := by rw [Scaled.decimals, hfraction, List.length_nil]
    have hsmall := pow_ten_lt_iff.1 covered.2
    refine ⟨.exponent s hwhole hdecimals (by omega), ?_⟩
    simp [Literal.number, Scaled.number, value_eq_zero hwhole, value_eq_zero hfraction]

theorem parse_of_bare {raw : String} (h : Bare (significant raw)) : parse raw = .ok 0 := by
  generalize hcs : significant raw = cs at h
  cases h with
  | hexadecimal mark mark_eq =>
    exact (parse_literal (l := .hexadecimal mark mark_eq .empty) hcs).2 ⟨trivial, rfl⟩
  | exponent s whole decimals small =>
    have hfraction : s.fractionRun.digits = [] := List.length_eq_zero_iff.1 decimals
    refine (parse_literal (l := .scaled s) hcs).2 ⟨⟨by omega, pow_ten_lt_iff.2 (by omega)⟩, ?_⟩
    simp [Literal.number, Scaled.number, value_eq_zero whole, value_eq_zero hfraction]

/-- **A text without a digit is refused unless it is a mark that stands for itself, which is read as zero.** -/
theorem digitless_refused_iff {raw : String} (h : Digitless (significant raw)) :
    ((∃ e, parse raw = .error e) ↔ ¬ Bare (significant raw)) ∧
    ∀ v, parse raw = .ok v ↔ v = 0 ∧ Bare (significant raw) := by
  have haccepted (v : Uint256) : parse raw = .ok v ↔ v = 0 ∧ Bare (significant raw) := by
    constructor
    · intro hok
      obtain ⟨l, hl⟩ := exists_literal hok
      obtain ⟨covered, hnumber⟩ := (parse_literal hl.symm).1 hok
      obtain ⟨hbare, hzero⟩ := bare_of_digitless (by rwa [hl]) covered
      have hv : v.toNat = 0 := by
        rw [hnumber] at hzero
        exact_mod_cast hzero
      exact ⟨BitVec.eq_of_toNat_eq hv, by rwa [← hl]⟩
    · rintro ⟨rfl, hbare⟩
      exact parse_of_bare hbare
  refine ⟨?_, haccepted⟩
  cases hparse : parse raw with
  | error e =>
    have hnot : ¬ Bare (significant raw) := fun hbare => by
      rw [parse_of_bare hbare] at hparse
      cases hparse
    simp [hnot]
  | ok v => simp [((haccepted v).1 hparse).2]

instance (cs : List Char) : Decidable (Digitless cs) :=
  List.decidableBAll (fun c => ¬ IsDigit (numberPart cs).1 c) (numberPart cs).2

/-- A point and an exponent stand for zero as long as the power of ten fits. -/
theorem bare_up_to_77 :
    (Digitless (significant " ._e77") ∧ parse " ._e77" = .ok 0 ∧ Bare (significant " ._e77")) ∧
    Digitless (significant ".e78") ∧ parse ".e78" = .error (.overflow 0 78) ∧ ¬ Bare (significant ".e78") := by
  have hsmall : Digitless (significant " ._e77") := by decide
  have hlarge : Digitless (significant ".e78") := by decide
  have hok : parse " ._e77" = .ok 0 := rfl
  have herror : parse ".e78" = .error (.overflow 0 78) := rfl
  exact ⟨⟨hsmall, hok, (((digitless_refused_iff hsmall).2 0).1 hok).2⟩,
    hlarge, herror, (digitless_refused_iff hlarge).1.1 ⟨_, herror⟩⟩

/-- The mark of hexadecimal numbers alone, and an exponent alone, are read as zero. -/
theorem bare_mark_read : Digitless (significant "0x") ∧ parse "0x" = .ok 0 ∧
    Digitless (significant "e5") ∧ parse "e5" = .ok 0 :=
  ⟨by decide, rfl, by decide, rfl⟩

end MarketSync.Amount
