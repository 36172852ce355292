import MarketSync.Text.Combining
import MarketSync.Text.Direction
import MarketSync.Text.Joining
import MarketSync.Text.Normal
import MarketSync.Url.Mapping
import MarketSync.Url.Punycode

/-!
# Labels

The parts of a domain name between points. A label with other than ASCII characters has an ASCII
form, which is marked as such. `Label.read` takes a label in either spelling and refuses what is no
label: one that starts with a mark, one with a joiner where nothing is joined, one that is too long,
and an ASCII form that is not the form of a label.

Where a name has characters that are written from right to left, its labels have to be of one
direction each.
-/

namespace MarketSync

/-- A label with the characters it stands for, and in ASCII. -/
structure Label where
  shown : List Char
  ascii : List Char
  deriving DecidableEq, Repr

namespace Label

/-- Whether a label needs no ASCII form. -/
def isPlain (cs : List Char) : Bool :=
  cs.all fun c => c.toNat < 128

def asciiMark : List Char := ['x', 'n', '-', '-']

/-- The most characters of a label that has an ASCII form. -/
def maxShown : Nat := 1000

/-- The most characters of an ASCII form, without the mark. -/
def maxForm : Nat := 2000

/-! ## Joiners -/

/-- Whether the first character that letters do not join across has a property. -/
def meets (p : Char → Bool) : List Char → Bool
  | [] => false
  | c :: cs => p c || (Text.isTransparent c && meets p cs)

/-- Whether a character may stand between others; `before` has the nearest one first. A joiner
stands behind a virama, and a separator of letters also between letters that would join. -/
def joinerFits (before : List Char) (c : Char) (after : List Char) : Bool :=
  if c == '\u200C' then
    before.head?.any Text.isVirama ||
      (meets Text.joinsLeft before && meets Text.joinsRight after)
  else if c == '\u200D' then before.head?.any Text.isVirama
  else true

def joinersFit (before : List Char) : List Char → Bool
  | [] => true
  | c :: cs => joinerFits before c cs && joinersFit (c :: before) cs

/-! ## Direction -/

/-- Whether a label is of one direction. The marks it ends with do not count. -/
def directionFits (cs : List Char) : Bool :=
  match (cs.map Text.direction).reverse.dropWhile (· = .mark) with
  | [] => cs.isEmpty
  | last :: others =>
    match (last :: others).getLast? with
    | some .leftToRight =>
      (last = .leftToRight || last = .europeanDigit) &&
        others.all fun d => d ≠ .rightToLeft && d ≠ .arabicDigit
    | some .rightToLeft =>
      (last = .rightToLeft || last = .europeanDigit || last = .arabicDigit) &&
        others.all (· ≠ .leftToRight) &&
        !((last :: others).contains .europeanDigit && (last :: others).contains .arabicDigit)
    | _ => false

/-! ## Reading -/

def isValid (cs : List Char) : Bool :=
  !cs.head?.any Text.isMark && joinersFit [] cs && (isPlain cs || cs.length ≤ maxShown)

/-- Reads a label of characters in composed normal form that are looked up as themselves. -/
def read (cs : List Char) : Option Label :=
  match Text.dropStart? asciiMark cs with
  | none =>
    if isValid cs then
      some ⟨cs, if isPlain cs then cs else asciiMark ++ Punycode.encode cs⟩
    else none
  | some form =>
    if isPlain form && form.length ≤ maxForm then
      (Punycode.decode form).bind fun shown =>
        if !isPlain shown && shown.all Domain.isStable && Text.normalize shown == shown &&
            isValid shown then
          some ⟨shown, cs⟩
        else none
    else none

end Label

end MarketSync
