import MarketSync.Document.Value
import MarketSync.Proofs.KeySeparation
import MarketSync.Proofs.Literals

/-!
# What is printed is read back

Amounts are printed in decimal, addresses and words as the hexadecimal digits of their bytes. Each of these texts is
read as the value that was printed.

* `Numeral.printed` — the digits of a number are a run with its value.
* `Amount.parse_text` — the decimal text of an amount.
* `readHexOf_hexText` — the hexadecimal text of a byte string.
* `Bytes.toNumber_bigEndian` — bytes make up the number they were taken from, as far as they reach.
* `Value.asAddress_lowerText`, `Value.asBytes32_text` — the texts of an address and of a word.
-/

namespace MarketSync

namespace Text

/-! ## Digits -/

theorem digitChar_mem {d : ℕ} (hd : d < 16) : (digitChar d).toLower ∈ digitRow ∧ digitPlace (digitChar d) = d :=
  (by decide : ∀ d < 16, (digitChar d).toLower ∈ digitRow ∧ digitPlace (digitChar d) = d) d hd

section
variable {radix : ℕ} (htwo : 2 ≤ radix) (hsixteen : radix ≤ 16) (n : ℕ)

include hsixteen in
theorem isDigit_digitChar {d : ℕ} (hd : d < radix) : IsDigit radix (digitChar d) := by
  obtain ⟨hrow, hplace⟩ := digitChar_mem (Nat.lt_of_lt_of_le hd hsixteen)
  exact isDigit_iff.2 ⟨hrow, hplace.symm ▸ hd⟩

include htwo hsixteen in
theorem isDigit_of_mem_digits : ∀ c ∈ digits radix n, IsDigit radix c := by
  fun_induction digits radix n with
  | case1 n h =>
    have hn : n < radix := by omega
    simpa using isDigit_digitChar hsixteen hn
  | case2 n h ih =>
    refine List.forall_mem_append.2 ⟨ih, ?_⟩
    simpa using isDigit_digitChar hsixteen (Nat.mod_lt n (by omega))

theorem digits_ne_nil : digits radix n ≠ [] := by
  unfold digits
  split <;> simp

include htwo hsixteen in
theorem valueOf_digits : Numeral.valueOf radix (digits radix n) = n := by
  have hone {d : ℕ} (hd : d < radix) : Numeral.valueOf radix [digitChar d] = d := by
    simp [Numeral.valueOf, (digitChar_mem (Nat.lt_of_lt_of_le hd hsixteen)).2]
  fun_induction digits radix n with
  | case1 n h => exact hone (by omega)
  | case2 n h ih =>
    rw [Numeral.valueOf_append, ih, hone (Nat.mod_lt n (by omega)), List.length_singleton, Nat.pow_one]
    exact Nat.div_add_mod' n radix

def Numeral.printed : Numeral radix where
  digits := Text.digits radix n
  valid := isDigit_of_mem_digits htwo hsixteen n

/-- **The digits of a number denote it.** -/
@[simp] theorem Numeral.value_printed : (printed htwo hsixteen n).value = n :=
  valueOf_digits htwo hsixteen n

end

end Text

/-- **The decimal text of an amount is read as that amount.** -/
theorem Amount.parse_text (v : Uint256) : parse v.text = .ok v := by
  let run : Text.Numeral 10 := .printed (by decide) (by decide) v.toNat
  have hnumber : (run.value : ℚ) = v.toNat := congrArg Nat.cast (Text.Numeral.value_printed _ _ _)
  exact (parse_literal (Literal.significant_text (.plain run (Text.digits_ne_nil _)))).2 ⟨trivial, hnumber⟩

/-! ## Bytes -/

namespace Bytes

theorem ofText_ascii {cs : List Char} (h : ∀ c ∈ cs, c.toNat < 128) :
    ofText (String.ofList cs) = cs.map fun c => UInt8.ofNat c.toNat := by
  rw [ofText_eq, String.toByteArray_ofList, List.utf8Encode, List.data_toByteArray]
  induction cs with
  | nil => rfl
  | cons c cs ih =>
    obtain ⟨hc, hcs⟩ := List.forall_mem_cons.1 h
    have hone : String.utf8EncodeChar c = [UInt8.ofNat c.toNat] := if_pos (Nat.le_of_lt_succ hc)
    simpa [hone] using ih hcs

theorem foldl_bigEndian (w n a : ℕ) :
    (bigEndian w n).foldl (fun n b => n * 256 + b.toNat) a = a * 256 ^ w + n % 256 ^ w := by
  induction w generalizing a with
  | zero => simp [bigEndian, Nat.mod_one]
  | succ w ih =>
    have hbyte : (UInt8.ofNat (n / Nat.pow 256 w)).toNat = n / 256 ^ w % 256 := rfl
    rw [bigEndian, List.foldl_cons, ih, hbyte, Nat.pow_succ, Nat.mod_mul]
    ring

/-- **The last bytes of a number make up its low end.** -/
theorem toNumber_bigEndian (w n : ℕ) : toNumber (bigEndian w n) = n % 256 ^ w := by
  rw [toNumber, foldl_bigEndian, Nat.zero_mul, Nat.zero_add]

end Bytes

theorem toNumber_wordBytes (w : BitVec 256) : Bytes.toNumber (wordBytes w) = w.toNat :=
  (Bytes.toNumber_bigEndian 32 w.toNat).trans (Nat.mod_eq_of_lt w.isLt)

namespace Text

/-- The two bytes that stand for a byte in hexadecimal text. -/
def hexPair (b : UInt8) : Bytes :=
  [UInt8.ofNat (digitChar (b.toNat / 16)).toNat, UInt8.ofNat (digitChar (b.toNat % 16)).toNat]

theorem byteDigit_digitChar {d : ℕ} (hd : d < 16) : byteDigit (UInt8.ofNat (digitChar d).toNat) = some d :=
  (by decide : ∀ d < 16, byteDigit (UInt8.ofNat (digitChar d).toNat) = some d) d hd

theorem readHexPairs_hexPair (bs : Bytes) (position : ℕ) : readHexPairs position (bs.flatMap hexPair) = .ok bs := by
  induction bs generalizing position with
  | nil => rfl
  | cons b bs ih =>
    have hlt : b.toNat < 256 := b.toNat_lt
    have hhigh := byteDigit_digitChar (d := b.toNat / 16) (by omega)
    have hlow := byteDigit_digitChar (d := b.toNat % 16) (by omega)
    rw [List.flatMap_cons, hexPair, List.cons_append, List.singleton_append, readHexPairs, hhigh, hlow]
    dsimp only
    rw [ih, Nat.div_add_mod', UInt8.ofNat_toNat]
    rfl

theorem ofText_hexText (bs : Bytes) : Bytes.ofText bs.hexText = 0x30 :: 0x78 :: bs.flatMap hexPair := by
  have hdigits : ∀ c ∈ bs.hexDigits, c.toNat < 128 := by
    intro c hc
    obtain ⟨b, -, hc⟩ := List.mem_flatMap.1 hc
    have hlt : b.toNat < 256 := b.toNat_lt
    have hdigit {d : ℕ} (hd : d < 16) : (digitChar d).toNat < 128 :=
      (isDigit_digitChar (Nat.le_refl 16) hd).lt
    simp only [List.mem_cons, List.not_mem_nil, or_false] at hc
    rcases hc with rfl | rfl
    · exact hdigit (by omega)
    · exact hdigit (by omega)
  have hascii : ∀ c ∈ '0' :: 'x' :: bs.hexDigits, c.toNat < 128 := by
    simpa using hdigits
  rw [Bytes.hexText, Bytes.ofText_ascii hascii, List.map_cons, List.map_cons, Bytes.hexDigits, List.map_flatMap]
  rfl

/-- **The hexadecimal text of a byte string is read as that byte string.** -/
theorem readHexOf_hexText (bs : Bytes) : readHexOf bs.length bs.hexText = .ok bs := by
  have hbody : dropHexMark (Bytes.ofText bs.hexText) = bs.flatMap hexPair := by
    rw [ofText_hexText]
    rfl
  have hlength : (bs.flatMap hexPair).length = bs.length * 2 := by
    simp [List.length_flatMap, hexPair]
  rw [readHexOf, hbody, hlength, if_neg (by omega), if_neg (by omega), readHexPairs_hexPair]

end Text

namespace Document.Value

variable (exactLists : Bool)

theorem asBytes_hexText {width : ℕ} (bs : Bytes) (h : bs.length = width) :
    asBytes exactLists width (.text bs.hexText) = .ok bs := by
  rw [asBytes, ← h, Text.readHexOf_hexText]
  rfl

/-- **The text of an address is read as that address.** -/
theorem asAddress_lowerText (a : Address) : asAddress exactLists (.text a.lowerText) = .ok a := by
  have hread : asBytes exactLists 20 (.text a.lowerText) = .ok a.bytes :=
    asBytes_hexText exactLists a.bytes (Bytes.length_bigEndian 20 _)
  have hnumber : Bytes.toNumber a.bytes = a.toNat :=
    (Bytes.toNumber_bigEndian 20 _).trans (Nat.mod_eq_of_lt a.isLt)
  rw [asAddress, hread, Except.map, hnumber, BitVec.ofNat_toNat, BitVec.setWidth_eq]

/-- **The text of a word is read as that word.** -/
theorem asBytes32_text (w : Bytes32) : asBytes32 exactLists (.text w.text) = .ok w := by
  have hread : asBytes exactLists 32 (.text w.text) = .ok (wordBytes w) :=
    asBytes_hexText exactLists (wordBytes w) (length_wordBytes w)
  rw [asBytes32, hread, Except.map, toNumber_wordBytes, BitVec.ofNat_toNat, BitVec.setWidth_eq]

/-- **An amount that was written is read as that amount.** -/
theorem asAmount_ofAmount (v : Uint256) : asAmount (ofAmount v) = .ok v := by
  rw [ofAmount, asAmount, Amount.parse_text]
  rfl

end Document.Value

end MarketSync
