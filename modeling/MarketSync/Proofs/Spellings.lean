import Mathlib.Data.List.TakeWhile
import Mathlib.Logic.Relation
import MarketSync.Proofs.Printing

/-!
# Spellings of amounts

An amount has many texts: its digits in decimal or, behind a mark and in either case, in hexadecimal, with any zeros
in front, and its decimal digits with an exponent of zero. All of them are read as the amount that they spell.
Underscores and blanks that are put into a text later make no difference.

* `exists_literal_of_spelling` — a spelling is a literal of its amount.
* `significant_insertion` — an underscore or a blank more leaves the characters that count.
* `printing_and_parsing_agree` — every spelling of an amount is read as that amount, alone and as a document value,
  and so is every text that insertions make of a text of the amount.
-/

namespace MarketSync

/-! ## Digits of one number -/

namespace Text

theorem toLower_toLower (c : Char) : c.toLower.toLower = c.toLower := by
  by_cases h : c.toNat < 128
  · exact forall_ascii (P := fun c => c.toLower.toLower = c.toLower) (by decide) h
  · rw [toLower_eq_self h, toLower_eq_self h]

namespace Numeral

variable {radix : ℕ}

theorem valueOf_zeros (zeros : ℕ) (cs : List Char) :
    valueOf radix (List.replicate zeros '0' ++ cs) = valueOf radix cs := by
  induction zeros with
  | zero => rfl
  | succ zeros ih =>
    have hzero : digitPlace '0' = 0 := by decide
    rw [List.replicate_succ, List.cons_append, valueOf_cons, hzero, ih]
    omega

/-- The run of digits that has zeros in front. -/
def padded (zeros : ℕ) (hzero : IsDigit radix '0') (n : Numeral radix) : Numeral radix where
  digits := List.replicate zeros '0' ++ n.digits
  valid := by
    intro c hc
    rcases List.mem_append.1 hc with hfront | hdigit
    · rwa [List.eq_of_mem_replicate hfront]
    · exact n.valid c hdigit

@[simp] theorem value_padded (zeros : ℕ) (hzero : IsDigit radix '0') (n : Numeral radix) :
    (n.padded zeros hzero).value = n.value :=
  valueOf_zeros zeros n.digits

section
variable {n : ℕ} {cs : List Char} (htwo : 2 ≤ radix) (hsixteen : radix ≤ 16) (h : cs.map Char.toLower = Text.digits radix n)

/-- The digits of a number in either case, as a run. -/
def inEitherCase : Numeral radix where
  digits := cs
  valid := by
    intro c hc
    have hlower : c.toLower ∈ Text.digits radix n := h ▸ List.mem_map_of_mem hc
    have hdigit := isDigit_of_mem_digits htwo hsixteen n _ hlower
    rwa [IsDigit, toLower_toLower] at hdigit

@[simp] theorem value_inEitherCase : (inEitherCase htwo hsixteen h).value = n := by
  have hplaces : cs.map digitPlace = (Text.digits radix n).map digitPlace := by
    rw [← h, List.map_map]
    refine List.map_congr_left fun c _ => ?_
    rw [Function.comp_apply, digitPlace, digitPlace, toLower_toLower]
  calc valueOf radix cs = valueOf radix (Text.digits radix n) := by
        rw [valueOf, valueOf, List.map_reverse, List.map_reverse, hplaces]
    _ = n := valueOf_digits htwo hsixteen n

end

end Numeral

end Text

/-! ## Spellings -/

namespace Amount

open Text Document

/-- The texts of an amount: its hexadecimal digits in either case behind a mark, or its decimal digits, perhaps with an
exponent of zero. Any number of zeros may stand in front of the digits. -/
inductive Spelling (v : Uint256) : List Char → Prop
  | hexadecimal {mark : Char} (mark_eq : mark = 'x' ∨ mark = 'X') (zeros : ℕ) {cs : List Char}
    (digits_eq : cs.map Char.toLower = digits 16 v.toNat) :
    Spelling v ('0' :: mark :: (List.replicate zeros '0' ++ cs))
  | decimal (zeros : ℕ) : Spelling v (List.replicate zeros '0' ++ digits 10 v.toNat)
  | scaled (zeros : ℕ) : Spelling v (List.replicate zeros '0' ++ digits 10 v.toNat ++ ['e', '0'])

variable {v : Uint256} {cs : List Char}

def paddedDecimal (zeros : ℕ) (v : Uint256) : Numeral 10 :=
  (Numeral.printed (by decide) (by decide) v.toNat).padded zeros (by decide)

@[simp] theorem value_paddedDecimal (zeros : ℕ) (v : Uint256) : (paddedDecimal zeros v).value = v.toNat := by
  simp [paddedDecimal]

theorem isDigit_zero : ∀ c ∈ ['0'], IsDigit 10 c := by decide

def exponentZero : Numeral 10 := ⟨['0'], isDigit_zero⟩

theorem value_exponentZero : exponentZero.value = 0 := by decide

theorem exponentZero_ne_nil : exponentZero.digits ≠ [] := by decide

theorem exponentZero_lt : exponentZero.value < 2 ^ 32 := by decide

theorem isExponentMark_e : 'e' = 'e' ∨ 'e' = 'E' := Or.inl rfl

def paddedScaled (zeros : ℕ) (v : Uint256) : Scaled where
  whole := paddedDecimal zeros v
  fraction := none
  mark := 'e'
  mark_eq := isExponentMark_e
  plus := false
  exponent := exponentZero
  exponent_ne_nil := exponentZero_ne_nil
  exponent_lt := exponentZero_lt

theorem number_paddedScaled (zeros : ℕ) (v : Uint256) : (paddedScaled zeros v).number = v.toNat := by
  have hexponent : (paddedScaled zeros v).exponent.value = 0 := value_exponentZero
  have hfraction : (paddedScaled zeros v).fractionRun.value = 0 := rfl
  have hwhole : (paddedScaled zeros v).whole.value = v.toNat := value_paddedDecimal zeros v
  rw [Scaled.number, hexponent, hfraction, hwhole]
  simp

/-- **A spelling is a literal of its amount, and nothing keeps it from being read.** -/
theorem exists_literal_of_spelling (h : Spelling v cs) :
    ∃ l : Literal, l.text = cs ∧ l.Covered ∧ l.number = v.toNat := by
  cases h with
  | @hexadecimal mark mark_eq zeros ds digits_eq =>
    let run := (Numeral.inEitherCase (by decide) (by decide) digits_eq).padded zeros (by decide)
    have hvalue : run.value = v.toNat := by simp [run]
    exact ⟨.hexadecimal mark mark_eq run, rfl, trivial, congrArg Nat.cast hvalue⟩
  | decimal zeros =>
    have hne : (paddedDecimal zeros v).digits ≠ [] := by
      simp [paddedDecimal, Numeral.padded, Numeral.printed, digits_ne_nil]
    exact ⟨.plain (paddedDecimal zeros v) hne, rfl, trivial, congrArg Nat.cast (value_paddedDecimal zeros v)⟩
  | scaled zeros =>
    have htext : (paddedScaled zeros v).text = List.replicate zeros '0' ++ digits 10 v.toNat ++ ['e', '0'] := by
      simp [Scaled.text, Scaled.mantissa, Scaled.signedExponent, paddedScaled, paddedDecimal, exponentZero,
        Numeral.padded, Numeral.printed]
    have hcovered : (paddedScaled zeros v).Covered := by
      have hdecimals : (paddedScaled zeros v).decimals = 0 := rfl
      have hexponent : (paddedScaled zeros v).exponent.value = 0 := value_exponentZero
      rw [Scaled.Covered, hdecimals, hexponent]
      exact ⟨Nat.le_refl 0, pow_ten_lt_iff.2 (by omega)⟩
    exact ⟨.scaled (paddedScaled zeros v), htext, hcovered, number_paddedScaled zeros v⟩

/-- **A spelling is read as its amount.** -/
theorem parse_spelling (h : Spelling v cs) : parse (.ofList cs) = .ok v := by
  obtain ⟨l, rfl, covered, hnumber⟩ := exists_literal_of_spelling h
  exact (parse_literal l.significant_text).2 ⟨covered, hnumber⟩

/-! ## Insertions -/

/-- A text with one character more: an underscore between characters that are not blank, or a blank at an end. -/
inductive Insertion : List Char → List Char → Prop
  | underscore {a b : List Char} (before : ∃ c ∈ a, isBlank c = false) (behind : ∃ c ∈ b, isBlank c = false) :
    Insertion (a ++ b) (a ++ '_' :: b)
  | blankBefore {c : Char} (blank : isBlank c) (cs : List Char) : Insertion cs (c :: cs)
  | blankBehind {c : Char} (blank : isBlank c) (cs : List Char) : Insertion cs (cs ++ [c])

theorem dropWhile_blank_append {a : List Char} (h : ∃ c ∈ a, isBlank c = false) (b : List Char) :
    (a ++ b).dropWhile isBlank = a.dropWhile isBlank ++ b := by
  rw [List.dropWhile_append, if_neg]
  rw [List.isEmpty_iff, List.dropWhile_eq_nil_iff]
  obtain ⟨c, hc, hblank⟩ := h
  intro hall
  rw [hall c hc] at hblank
  cases hblank

theorem trimEnd_append (a : List Char) {b : List Char} (h : ∃ c ∈ b, isBlank c = false) :
    trimEnd (a ++ b) = a ++ trimEnd b := by
  have hreverse : ∃ c ∈ b.reverse, isBlank c = false := by simpa using h
  rw [trimEnd, List.reverse_append, dropWhile_blank_append hreverse, List.reverse_append, List.reverse_reverse]
  rfl

/-- A text is cut on both sides of two characters that are not blank. -/
theorem trim_append {a b : List Char} (before : ∃ c ∈ a, isBlank c = false) (behind : ∃ c ∈ b, isBlank c = false) :
    trim (a ++ b) = a.dropWhile isBlank ++ trimEnd b := by
  rw [trim, dropWhile_blank_append before, trimEnd_append _ behind]

theorem trim_cons_of_blank {c : Char} (h : isBlank c) (cs : List Char) : trim (c :: cs) = trim cs := by
  rw [trim, List.dropWhile_cons_of_pos h, trim]

theorem trimEnd_concat_of_blank {c : Char} (h : isBlank c) (cs : List Char) : trimEnd (cs ++ [c]) = trimEnd cs := by
  rw [trimEnd, List.reverse_append, List.reverse_singleton, List.singleton_append, List.dropWhile_cons_of_pos h,
    trimEnd]

theorem trim_concat_of_blank {c : Char} (h : isBlank c) (cs : List Char) : trim (cs ++ [c]) = trim cs := by
  by_cases hall : ∃ d ∈ cs, isBlank d = false
  · rw [trim, dropWhile_blank_append hall, trimEnd_concat_of_blank h, trim]
  · -- nothing is left of either text
    have hblank : ∀ d ∈ cs, isBlank d = true := by simpa using hall
    have hnone (ds : List Char) (hds : ∀ d ∈ ds, isBlank d = true) : trim ds = [] := by
      rw [trim, List.dropWhile_eq_nil_iff.2 hds]
      rfl
    rw [hnone cs hblank, hnone]
    intro d hd
    rcases List.mem_append.1 hd with hd | hd
    · exact hblank d hd
    · rwa [List.mem_singleton.1 hd]

variable {raw raw' : String}

/-- **An insertion leaves the characters that count.** -/
theorem significant_insertion {cs ds : List Char} (h : Insertion cs ds) :
    significant (.ofList ds) = significant (.ofList cs) := by
  simp only [significant, String.toList_ofList]
  cases h with
  | @underscore a b before behind =>
    have hbehind : ∃ c ∈ '_' :: b, isBlank c = false := ⟨'_', List.mem_cons_self, by decide⟩
    have hcut : trimEnd ('_' :: b) = '_' :: trimEnd b := trimEnd_append ['_'] behind
    rw [trim_append before behind, trim_append before hbehind, hcut, List.filter_append, List.filter_append]
    rfl
  | blankBefore blank => rw [trim_cons_of_blank blank]
  | blankBehind blank => rw [trim_concat_of_blank blank]

/-- Insertions one after another leave the characters that count. -/
theorem significant_insertions (h : Relation.ReflTransGen Insertion raw.toList raw'.toList) :
    significant raw' = significant raw := by
  have hlists {cs ds : List Char} (h : Relation.ReflTransGen Insertion cs ds) :
      significant (.ofList ds) = significant (.ofList cs) := by
    induction h with
    | refl => rfl
    | tail _ insertion ih => exact (significant_insertion insertion).trans ih
  simpa using hlists h

/-- Which amount a text has depends on nothing but the characters that count. -/
theorem parse_of_significant_eq (h : significant raw' = significant raw) (hok : parse raw = .ok v) :
    parse raw' = .ok v := by
  obtain ⟨l, hl⟩ := exists_literal hok
  exact (parse_literal (h.trans hl.symm)).2 ((parse_literal hl.symm).1 hok)

/-! ## Document values -/

theorem asAmount_text (h : parse raw = .ok v) : Value.asAmount (.text raw) = .ok v := by
  rw [Value.asAmount, h]
  rfl

theorem asAmount_whole (h : v.toNat < 2 ^ 64) : Value.asAmount (.whole v.toNat) = .ok v := by
  have hrange : (0 : ℤ) ≤ v.toNat ∧ (v.toNat : ℤ) < UInt64.size := by
    simp only [UInt64.size]
    omega
  rw [Value.asAmount, if_pos hrange, Int.toNat_natCast, BitVec.ofNat_toNat, BitVec.setWidth_eq]

/-- **What is printed for an amount, each other spelling of it, and what insertions make of its texts, is read as that
amount; as document values its texts mean the same as the whole number, if that has 64 bits.** -/
theorem printing_and_parsing_agree (v : Uint256) :
    (Value.ofAmount v = .text v.text ∧ Spelling v v.text.toList) ∧
    (∀ cs, Spelling v cs → parse (.ofList cs) = .ok v ∧ Value.asAmount (.text (.ofList cs)) = .ok v ∧
      (v.toNat < 2 ^ 64 → Value.asAmount (.whole v.toNat) = Value.asAmount (.text (.ofList cs)))) ∧
    ∀ raw raw', parse raw = .ok v → Relation.ReflTransGen Insertion raw.toList raw'.toList → parse raw' = .ok v := by
  refine ⟨⟨rfl, ?_⟩, ?_, ?_⟩
  · have hprinted := Spelling.decimal (v := v) 0
    rwa [Uint256.text, Text.decimal, String.toList_ofList]
  · intro cs h
    have htext := asAmount_text (parse_spelling h)
    refine ⟨parse_spelling h, htext, ?_⟩
    intro hsmall
    rw [asAmount_whole hsmall, htext]
  · intro raw raw' hok insertions
    exact parse_of_significant_eq (significant_insertions insertions) hok

/-- In `0X001E5` a digit is a letter that could mark an exponent, and an underscore splits the mark. -/
theorem split_mark_read :
    Spelling 485 "0X001E5".toList ∧ Relation.ReflTransGen Insertion "0X001E5".toList "\t0_X001E5".toList ∧
      parse "\t0_X001E5" = .ok 485 ∧ (485 : Uint256).toNat < 2 ^ 64 ∧
      Value.asAmount (.whole 485) = Value.asAmount (.text "0X001E5") := by
  have hdigits : ['1', 'E', '5'].map Char.toLower = digits 16 (485 : Uint256).toNat := by
    have hwritten : digits 16 485 = ['1', 'e', '5'] := by
      rw [digits, digits, digits]
      rfl
    exact hwritten.symm
  have spelled : Spelling 485 "0X001E5".toList := .hexadecimal (Or.inr rfl) 2 hdigits
  have inserted : Relation.ReflTransGen Insertion "0X001E5".toList "\t0_X001E5".toList :=
    .tail (.single (.underscore (a := ['0']) ⟨'0', by decide⟩ ⟨'1', by decide⟩)) (.blankBefore rfl _)
  have hsmall : (485 : Uint256).toNat < 2 ^ 64 := by decide
  obtain ⟨-, hspellings, hinsertions⟩ := printing_and_parsing_agree 485
  obtain ⟨hread, -, hvalue⟩ := hspellings _ spelled
  rw [String.ofList_toList] at hread hvalue
  exact ⟨spelled, inserted, hinsertions _ _ hread inserted, hsmall, hvalue hsmall⟩

end Amount

end MarketSync
