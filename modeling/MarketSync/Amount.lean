import MarketSync.Word
import MarketSync.Text.Pieces

/-!
# Amounts

An amount is a number below 2^256 written plainly (`1_000`), in hexadecimal (`0xff`) or with an
exponent (`0.5e30`). Underscores and blanks around the text do not count. Reading is exact: a text
that would leave a fraction or reach 2^256 is refused, never rounded or wrapped. `Amount.parse` is
`parse_amount`, with which `Amount` is read from text, and `Amount.expandDecimals` is
`expand_decimals`.
-/

namespace MarketSync

inductive AmountError where
  /-- The text denotes no whole number below 2^256. -/
  | malformed (text : String)
  /-- Scaling by a power of ten leaves the range. -/
  | overflow (value : Uint256) (decimals : Nat)
  deriving DecidableEq

def AmountError.message : AmountError → String
  | .malformed text => "invalid numeric value: " ++ text
  | .overflow value decimals =>
    "invalid numeric value: " ++ value.text ++ "e" ++ Text.decimal decimals ++ " overflows uint256"

namespace Amount

def ofNat? (n : Nat) : Option Uint256 :=
  if n < Nat.pow 2 256 then some (BitVec.ofNat 256 n) else none

/-- Powers of ten below 2^256 (`pow10`); the largest is 10^77. -/
def powerOfTen? (decimals : Nat) : Option Nat :=
  if decimals ≤ 77 then some (Nat.pow 10 decimals) else none

/-- The value times a power of ten (`expand_decimals`). Both the power and the product have to be
below 2^256. -/
def expandDecimals (value : Uint256) (decimals : Nat) : Except AmountError Uint256 :=
  match (powerOfTen? decimals).bind fun p => ofNat? (value.toNat * p) with
  | some scaled => .ok scaled
  | none => .error (.overflow value decimals)

/-- A run of digits that fits 256 bits; the empty run is zero. -/
def readRun (radix : Nat) (cs : List Char) : Option Uint256 :=
  (Text.readDigits radix cs).bind ofNat?

def hexRun? : List Char → Option (List Char)
  | '0' :: 'x' :: cs => some cs
  | '0' :: 'X' :: cs => some cs
  | _ => none

def splitExponent (cs : List Char) : Option (List Char × List Char) :=
  Text.splitFirst (fun c => c == 'e' || c == 'E') cs

/-- The two sides of the decimal point; without a point the second is empty. -/
def splitPoint (cs : List Char) : List Char × List Char :=
  (Text.splitFirst (· == '.') cs).getD (cs, [])

/-- Reads a number with an exponent, which has to cover every digit behind the point. -/
def parseScaled (raw : String) (mantissa exponent : List Char) : Except AmountError Uint256 :=
  match Text.readUnsigned UInt32.size exponent with
  | .error _ => .error (.malformed raw)
  | .ok e =>
    let (whole, fraction) := splitPoint mantissa
    if e < fraction.length then .error (.malformed raw)
    else
      match readRun 10 (whole ++ fraction) with
      | none => .error (.malformed raw)
      | some base => expandDecimals base (e - fraction.length)

/-- The characters of a text that count: no blanks around it, no underscores. -/
def significant (raw : String) : List Char :=
  (Text.trim raw.toList).filter (· ≠ '_')

/-- Reads an amount (`parse_amount`). Without any character that counts a text is refused; a run of
digits may be empty where a mark stands beside it. -/
def parse (raw : String) : Except AmountError Uint256 :=
  let run (radix : Nat) (cs : List Char) : Except AmountError Uint256 :=
    match readRun radix cs with
    | some n => .ok n
    | none => .error (.malformed raw)
  match significant raw with
  | [] => .error (.malformed raw)
  | cs =>
    match hexRun? cs with
    | some body => run 16 body
    | none =>
      match splitExponent cs with
      | some (mantissa, exponent) => parseScaled raw mantissa exponent
      | none => run 10 cs

end Amount

end MarketSync
