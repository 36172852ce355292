import MarketSync.Text.Pieces
import MarketSync.Text.Digits

/-!
# Character tables

Tables over the numbers of characters, written as texts of rows with blanks between them. The row
`41` is about one number, `300-314` about all numbers from 300 to 314 and `100-12E/2` about every
second one of them. Behind a colon stand the values that a row assigns, with plus signs between
them. All numbers are hexadecimal.

Rows stand in ascending order and do not overlap, so the row for a character is found by halving.
-/

namespace MarketSync.Text

/-- A row is about every `step`-th number from `first` to `last`. -/
structure Row where
  first : Nat
  last : Nat
  step : Nat
  values : List Nat

namespace Row

def covers (r : Row) (n : Nat) : Bool :=
  r.first ≤ n && n ≤ r.last && (n - r.first) % r.step == 0

/-- The characters that the row assigns to a number. A single value moves along with the number. -/
def images (r : Row) (n : Nat) : List Char :=
  match r.values with
  | [v] => [Char.ofNat (v + (n - r.first))]
  | vs => vs.map Char.ofNat

def parse (cs : List Char) : Option Row := do
  guard !cs.isEmpty
  let (subject, values) := (splitFirst (· == ':') cs).getD (cs, [])
  let (range, step) := (splitFirst (· == '/') subject).getD (subject, ['1'])
  let (first, last) := (splitFirst (· == '-') range).getD (range, range)
  let values ← if values.isEmpty then some [] else (pieces '+' values).mapM (readDigits 16)
  return ⟨← readDigits 16 first, ← readDigits 16 last, ← readDigits 16 step, values⟩

end Row

structure CharTable where
  rows : Array Row

namespace CharTable

def addLine (t : CharTable) (line : String) : CharTable :=
  ⟨t.rows ++ ((pieces ' ' line.toList).filterMap Row.parse).toArray⟩

/-- Reads the rows of a text. -/
def ofText (text : String) : CharTable :=
  (text.splitOn "\n").foldl addLine ⟨#[]⟩

/-- Where, between two places, the rows end that begin at or before a number. -/
def endOfRows (t : CharTable) (n lo hi : Nat) : Nat :=
  if lo < hi then
    match t.rows[(lo + hi) / 2]? with
    | none => lo
    | some r =>
      if r.first ≤ n then t.endOfRows n ((lo + hi) / 2 + 1) hi
      else t.endOfRows n lo ((lo + hi) / 2)
  else lo
termination_by hi - lo

/-- The row about a character. -/
def row? (t : CharTable) (c : Char) : Option Row :=
  (t.rows[t.endOfRows c.toNat 0 t.rows.size - 1]?).filter (·.covers c.toNat)

def contains (t : CharTable) (c : Char) : Bool :=
  (t.row? c).isSome

def values (t : CharTable) (c : Char) : List Nat :=
  (t.row? c).elim [] Row.values

/-- The characters that the table assigns to a character. -/
def images? (t : CharTable) (c : Char) : Option (List Char) :=
  (t.row? c).map (·.images c.toNat)

end CharTable

end MarketSync.Text
