/-!
# Digits

Numbers as digit texts in a radix up to sixteen. `readDigits` accepts digit runs only, in either
case, and reads the empty run as zero; `digits` writes without leading zeros. `readUnsigned` reads a
bounded number and tells the first fault it meets from the left.
-/

namespace MarketSync.Text

/-- The value of a digit, in either case. -/
def digitValue (c : Char) : Option Nat :=
  let n := c.toNat
  if 0x30 ≤ n ∧ n ≤ 0x39 then some (n - 0x30)
  else if 0x61 ≤ n ∧ n ≤ 0x66 then some (n - 0x61 + 10)
  else if 0x41 ≤ n ∧ n ≤ 0x46 then some (n - 0x41 + 10)
  else none

/-- The value of a digit that the radix has. -/
def digitIn (radix : Nat) (c : Char) : Option Nat :=
  (digitValue c).filter (· < radix)

/-- The number a run of digits denotes; the empty run denotes zero. -/
def readDigits (radix : Nat) (cs : List Char) : Option Nat :=
  cs.foldlM (fun n c => (digitIn radix c).map (n * radix + ·)) 0

/-- The lower-case digit of a value below sixteen. -/
def digitChar (d : Nat) : Char :=
  if d < 10 then Char.ofNat (0x30 + d) else Char.ofNat (0x61 + (d - 10))

/-- The digits of a number, the highest first and without leading zeros. -/
def digits (radix n : Nat) : List Char :=
  if _h : n < radix ∨ radix < 2 then [digitChar n]
  else digits radix (n / radix) ++ [digitChar (n % radix)]
termination_by n
decreasing_by exact Nat.div_lt_self (by omega) (by omega)

def decimal (n : Nat) : String :=
  String.ofList (digits 10 n)

/-! ## Bounded numbers -/

inductive NumberError where
  | empty
  | notDigit
  | tooLarge
  deriving DecidableEq, Repr

def NumberError.message : NumberError → String
  | .empty => "cannot parse integer from empty string"
  | .notDigit => "invalid digit found in string"
  | .tooLarge => "number too large to fit in target type"

/-- Reads decimal digits from the left after the number `n`; every prefix has to stay below
`bound`. -/
def readBelow (bound : Nat) (n : Nat) : List Char → Except NumberError Nat
  | [] => .ok n
  | c :: cs =>
    match digitIn 10 c with
    | none => .error .notDigit
    | some d => if n * 10 + d < bound then readBelow bound (n * 10 + d) cs else .error .tooLarge

/-- Reads a decimal number below `bound`, with an optional plus sign. -/
def readUnsigned (bound : Nat) : List Char → Except NumberError Nat
  | [] => .error .empty
  | ['+'] => .error .notDigit
  | '+' :: cs => readBelow bound 0 cs
  | cs => readBelow bound 0 cs

end MarketSync.Text
