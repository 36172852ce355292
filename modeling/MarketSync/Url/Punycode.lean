/-!
# Punycode

The ASCII form of a label with other characters. The ASCII characters of the label come first; what
follows tells where to insert the others, in the order of their numbers, as differences between
insertion states. Differences are numbers with digits of growing weight whose thresholds adapt to
the differences before.
-/

namespace MarketSync.Punycode

def digitChar (d : Nat) : Char :=
  if d < 26 then Char.ofNat (0x61 + d) else Char.ofNat (0x30 + (d - 26))

def digitValue (c : Char) : Option Nat :=
  let n := c.toNat
  if 0x61 ≤ n ∧ n ≤ 0x7A then some (n - 0x61)
  else if 0x41 ≤ n ∧ n ≤ 0x5A then some (n - 0x41)
  else if 0x30 ≤ n ∧ n ≤ 0x39 then some (n - 0x30 + 26)
  else none

/-- The threshold of the digit at a weight position. -/
def threshold (bias k : Nat) : Nat :=
  max 1 (min 26 (k - bias))

/-- How often a difference has to be divided by 35 before it is small. -/
def shrink (delta : Nat) : Nat × Nat :=
  if 455 < delta then
    let (rest, k) := shrink (delta / 35)
    (rest, k + 36)
  else (delta, 0)
termination_by delta
decreasing_by exact Nat.div_lt_self (by omega) (by omega)

/-- The bias after a difference, with which `count` characters are in place. -/
def adapt (first : Bool) (delta count : Nat) : Nat :=
  let halved := if first then delta / 700 else delta / 2
  let (rest, k) := shrink (halved + halved / count)
  k + 36 * rest / (rest + 38)

/-! ## Encoding -/

def differenceDigits (bias k q : Nat) : List Char :=
  let t := threshold bias k
  if q < t then [digitChar q]
  else digitChar (t + (q - t) % (36 - t)) :: differenceDigits bias (k + 36) ((q - t) / (36 - t))
termination_by q
decreasing_by
  have : 1 ≤ threshold bias k := by unfold threshold; omega
  calc (q - threshold bias k) / (36 - threshold bias k)
      ≤ q - threshold bias k := Nat.div_le_self _ _
    _ < q := by omega

/-- The state between insertions: the difference so far, the bias, and how many characters are in
place. -/
structure Progress where
  delta : Nat
  bias : Nat
  done : Nat

/-- Goes once over the label for the insertions of one character number. -/
def insertions (number basic : Nat) : Progress → List Nat → List Char × Progress
  | p, [] => ([], p)
  | p, c :: cs =>
    if c < number then insertions number basic { p with delta := p.delta + 1 } cs
    else if c = number then
      let bias := adapt (p.done == basic) p.delta (p.done + 1)
      let (digits, p') := insertions number basic ⟨0, bias, p.done + 1⟩ cs
      (differenceDigits p.bias 36 p.delta ++ digits, p')
    else insertions number basic p cs

/-- Goes over the numbers to insert, the lowest first. -/
def rounds (label : List Nat) (basic : Nat) : (start : Nat) → Progress → List Nat → List Char
  | _, _, [] => []
  | n, p, m :: ms =>
    let p := { p with delta := p.delta + (m - n) * (p.done + 1) }
    let (digits, p) := insertions m basic p label
    digits ++ rounds label basic (m + 1) { p with delta := p.delta + 1 } ms

/-- Puts a number into an ascending list that does not hold it. -/
def insertSorted (n : Nat) : List Nat → List Nat
  | [] => [n]
  | m :: ms => if n < m then n :: m :: ms else if n = m then m :: ms else m :: insertSorted n ms

/-- The ASCII form of a label. -/
def encode (label : List Char) : List Char :=
  let numbers := label.map Char.toNat
  let basic := label.filter (fun c => c.toNat < 128)
  let others := (numbers.filter (128 ≤ ·)).foldr insertSorted []
  let mark := if basic.isEmpty then [] else ['-']
  basic ++ mark ++ rounds numbers basic.length 128 ⟨0, 72, basic.length⟩ others

/-! ## Decoding -/

/-- Reads a difference and adds it to `i`. -/
def readDifference (bias : Nat) :
    (k weight i : Nat) → List Char → Option (Nat × List Char)
  | _, _, _, [] => none
  | k, weight, i, c :: cs =>
    match digitValue c with
    | none => none
    | some d =>
      let t := threshold bias k
      if d < t then some (i + d * weight, cs)
      else readDifference bias (k + 36) (weight * (36 - t)) (i + d * weight) cs

theorem readDifference_length {bias k weight i n : Nat} {cs rest : List Char}
    (h : readDifference bias k weight i cs = some (n, rest)) : rest.length < cs.length := by
  induction cs generalizing k weight i with
  | nil => simp [readDifference] at h
  | cons c cs ih =>
    simp only [readDifference] at h
    split at h
    · simp at h
    · split at h
      · simp only [Option.some.injEq, Prod.mk.injEq] at h
        simp [← h.2]
      · have := ih h
        simp only [List.length_cons]
        omega

/-- Inserts characters until the digits are used up. -/
def insertAll (n bias i : Nat) (label : List Char) (digits : List Char) : Option (List Char) :=
  match digits with
  | [] => some label
  | c :: cs =>
    match _h : readDifference bias 36 1 i (c :: cs) with
    | none => none
    | some (i', rest) =>
      let count := label.length + 1
      let number := n + i' / count
      if number.isValidChar then
        let place := i' % count
        insertAll number (adapt (i == 0) (i' - i) count) (place + 1)
          (label.take place ++ Char.ofNat number :: label.drop place) rest
      else none
termination_by digits.length
decreasing_by exact readDifference_length _h

def decode (cs : List Char) : Option (List Char) :=
  let tail := cs.reverse.takeWhile (· ≠ '-')
  let basic := (cs.reverse.drop (tail.length + 1)).reverse
  if basic.isEmpty && cs.contains '-' then none
  else insertAll 128 72 0 basic tail.reverse

end MarketSync.Punycode
