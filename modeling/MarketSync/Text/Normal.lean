import MarketSync.Text.Combining
import MarketSync.Text.Composition

/-!
# Composed normal form

One spelling for texts that are equivalent: every character is taken apart, the marks behind a
character are put in the order of their classes, and what can be joined is joined again, from the
left.
-/

namespace MarketSync.Text

/-! ## Order of marks -/

/-- Puts a character in front of a text with ordered marks, behind the marks of lower classes. -/
def placeMark (c : Char) : List Char → List Char
  | [] => [c]
  | d :: ds =>
    if 0 < combiningClass d ∧ combiningClass d < combiningClass c then d :: placeMark c ds
    else c :: d :: ds

/-- Each run of marks in the order of the classes; marks of one class keep their order. -/
def orderMarks (cs : List Char) : List Char :=
  cs.foldr placeMark []

/-! ## Joining -/

/-- A text while it is joined: what is finished, the character that can still be joined to others,
and the marks behind it that could not be joined. Both lists have their last character first. -/
structure Composing where
  done : List Char := []
  base : Option Char := none
  held : List Char := []

def Composing.text (j : Composing) : List Char :=
  j.done.reverse ++ j.base.toList ++ j.held.reverse

/-- Whether nothing stands between the base and a character of class `n` that keeps them apart. -/
def Composing.reaches (j : Composing) (n : Nat) : Bool :=
  match j.held with
  | [] => true
  | d :: _ => combiningClass d < n

/-- Puts a character at the end without joining it. -/
def Composing.push (j : Composing) (c : Char) : Composing :=
  if combiningClass c = 0 then ⟨j.held ++ j.base.toList ++ j.done, some c, []⟩
  else { j with held := c :: j.held }

/-- Puts a character at the end and joins it to the base if the two have a composite. -/
def Composing.add (j : Composing) (c : Char) : Composing :=
  match j.base.bind (composite · c) with
  | some joined => if j.reaches (combiningClass c) then { j with base := some joined } else j.push c
  | none => j.push c

def joinMarks (cs : List Char) : List Char :=
  (cs.foldl Composing.add {}).text

def normalize (cs : List Char) : List Char :=
  joinMarks (orderMarks (cs.flatMap decomposition))

end MarketSync.Text
