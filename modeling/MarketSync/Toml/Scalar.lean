import MarketSync.Document.Value

/-!
# TOML: numbers, dates and truth values

Values that stand without quotes. Such a value reaches as far as the characters of numbers and words
do, and is read as a whole. Whole numbers have 64 bits and a sign; a positive number that is too
large for a double is no number; a date or time counts as a record of one field that holds its
text.
-/

namespace MarketSync.Toml

open Document (Value)

def isScalarChar (c : Char) : Bool :=
  c.isAlphanum || c == '+' || c == '-' || c == '_' || c == '.' || c == ':'

def isDigitIn (radix : Nat) (c : Char) : Bool :=
  (Text.digitIn radix c).isSome

/-- Digits between which single underscores may stand, without the underscores. -/
def groupedDigits (radix : Nat) : List Char → Option (List Char)
  | [] => none
  | [c] => if isDigitIn radix c then some [c] else none
  | c :: '_' :: cs => if isDigitIn radix c then (groupedDigits radix cs).map (c :: ·) else none
  | c :: cs => if isDigitIn radix c then (groupedDigits radix cs).map (c :: ·) else none

/-- Decimal digits without a leading zero. -/
def plainDigits : List Char → Option (List Char)
  | ['0'] => some ['0']
  | '0' :: _ => none
  | cs => groupedDigits 10 cs

/-- An optional sign; true stands for minus. -/
def splitSign : List Char → Bool × List Char
  | '-' :: cs => (true, cs)
  | '+' :: cs => (false, cs)
  | cs => (false, cs)

/-! ## Numbers -/

def fitting (n : Int) : Option Int :=
  if Int64.minValue.toInt ≤ n ∧ n ≤ Int64.maxValue.toInt then some n else none

/-- A whole number, decimal with a sign or in another radix without one. -/
def wholeNumber? : List Char → Option Int
  | '0' :: 'x' :: cs => inRadix 16 cs
  | '0' :: 'o' :: cs => inRadix 8 cs
  | '0' :: 'b' :: cs => inRadix 2 cs
  | cs =>
    let (negative, digits) := splitSign cs
    ((plainDigits digits).bind (Text.readDigits 10)).bind fun n =>
      fitting (if negative then -(n : Int) else n)
where
  /-- A whole number in a radix. -/
  inRadix (radix : Nat) (cs : List Char) : Option Int :=
    ((groupedDigits radix cs).bind (Text.readDigits radix)).bind fun n => fitting n

/-- Whether `n · 10^e` rounds to a finite double. Numbers far from the bound are told by their
number of digits. -/
def isFiniteDouble (n : Nat) (e : Int) : Bool :=
  if n = 0 then true
  else
    let digits : Int := (Text.digits 10 n).length
    if digits + e > 310 then false
    else if digits + e < 300 then true
    else
      let bound := Nat.pow 2 1024 - Nat.pow 2 970
      if 0 ≤ e then n * Nat.pow 10 e.toNat < bound else n < bound * Nat.pow 10 (-e).toNat

def exponent? (cs : List Char) : Option Int :=
  let (negative, digits) := splitSign cs
  ((groupedDigits 10 digits).bind (Text.readDigits 10)).map fun n =>
    if negative then -(n : Int) else n

/-- The digits in front of and behind the point of a number. -/
def mantissa? (cs : List Char) : Option (List Char × List Char) :=
  match Text.splitFirst (· == '.') cs with
  | none => (plainDigits cs).map (·, [])
  | some (whole, fraction) =>
    (plainDigits whole).bind fun w => (groupedDigits 10 fraction).map (w, ·)

/-- Whether a text is a number with a point or an exponent. -/
def isFraction (cs : List Char) : Bool :=
  let (negative, body) := splitSign cs
  if body = ['i', 'n', 'f'] || body = ['n', 'a', 'n'] then true
  else
    let split := Text.splitFirst (fun c => c == 'e' || c == 'E') body
    let (front, e) := match split with
      | some (front, e) => (front, exponent? e)
      | none => (body, if body.contains '.' then some 0 else none)
    match mantissa? front, e with
    | some (whole, fraction), some e =>
      negative ||
        ((Text.readDigits 10 (whole ++ fraction)).any fun n =>
          isFiniteDouble n (e - fraction.length))
    | _, _ => false

/-! ## Dates and times -/

def fixedNumber (low high : Nat) (cs : List Char) : Option Nat :=
  if cs.all Char.isDigit then
    (Text.readDigits 10 cs).filter fun n => low ≤ n && n ≤ high
  else none

def daysOf (year month : Nat) : Nat :=
  if month = 2 then
    if year % 4 = 0 ∧ (year % 100 ≠ 0 ∨ year % 400 = 0) then 29 else 28
  else if month = 4 ∨ month = 6 ∨ month = 9 ∨ month = 11 then 30 else 31

def afterDate? : List Char → Option (List Char)
  | y₁ :: y₂ :: y₃ :: y₄ :: '-' :: m₁ :: m₂ :: '-' :: d₁ :: d₂ :: cs =>
    match fixedNumber 0 9999 [y₁, y₂, y₃, y₄], fixedNumber 1 12 [m₁, m₂],
      fixedNumber 1 31 [d₁, d₂] with
    | some y, some m, some d => if d ≤ daysOf y m then some cs else none
    | _, _, _ => none
  | _ => none

/-- What follows the fraction of a second, if there is one. -/
def afterSecondFraction? : List Char → Option (List Char)
  | '.' :: cs => if (cs.takeWhile Char.isDigit).isEmpty then none
    else some (cs.dropWhile Char.isDigit)
  | cs => some cs

def afterTime? : List Char → Option (List Char)
  | h₁ :: h₂ :: ':' :: m₁ :: m₂ :: ':' :: s₁ :: s₂ :: cs =>
    match fixedNumber 0 23 [h₁, h₂], fixedNumber 0 59 [m₁, m₂], fixedNumber 0 60 [s₁, s₂] with
    | some _, some _, some _ => afterSecondFraction? cs
    | _, _, _ => none
  | _ => none

/-- Whether a text is empty or an offset from universal time. -/
def isOffset : List Char → Bool
  | [] | ['Z'] | ['z'] => true
  | sign :: h₁ :: h₂ :: ':' :: [m₁, m₂] =>
    (sign == '+' || sign == '-') && (fixedNumber 0 23 [h₁, h₂]).isSome &&
      (fixedNumber 0 59 [m₁, m₂]).isSome
  | _ => false

def isTimeWithOffset (cs : List Char) : Bool :=
  (afterTime? cs).any isOffset

/-- Whether a text is a date, a time of day, or both. -/
def isDateTime (cs : List Char) : Bool :=
  match afterDate? cs with
  | some [] => true
  | some ('T' :: time) | some ('t' :: time) => isTimeWithOffset time
  | some _ => false
  | none => afterTime? cs == some []

/-- The name of the only field of a date or time. -/
def dateTimeField : String := "$__toml_private_datetime"

def dateTime (cs : List Char) : Value :=
  .record [(dateTimeField, .text (String.ofList cs))]

/-! ## Values without quotes -/

/-- The value that a text without quotes denotes. -/
def scalarOf (cs : List Char) : Option Value :=
  if cs = ['t', 'r', 'u', 'e'] then some (.flag true)
  else if cs = ['f', 'a', 'l', 's', 'e'] then some (.flag false)
  else if isDateTime cs then some (dateTime cs)
  else if isFraction cs then some (.fraction (String.ofList cs))
  else (wholeNumber? cs).map .whole

/-- Reads a value without quotes. A time of day may follow its date after a blank. -/
def readScalar (cs : List Char) : Option (Value × List Char) :=
  let word := cs.takeWhile isScalarChar
  let rest := cs.dropWhile isScalarChar
  match afterDate? word, rest with
  | some [], ' ' :: behind =>
    let time := behind.takeWhile isScalarChar
    if isTimeWithOffset time then
      some (dateTime (word ++ ' ' :: time), behind.dropWhile isScalarChar)
    else some (dateTime word, rest)
  | _, _ => (scalarOf word).map (·, rest)

end MarketSync.Toml
