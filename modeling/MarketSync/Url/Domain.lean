import MarketSync.Text.Pieces
import MarketSync.Url.Label
import MarketSync.Word

/-!
# Domain names

A domain name as it is looked up: percent escapes decoded, each character replaced by those it is
looked up as, the whole in composed normal form, and each label in ASCII. Characters that delimit
addresses, blanks and controls make a name invalid.
-/

namespace MarketSync.Domain

/-! ## Percent escapes -/

def escapeDigit (b : UInt8) : Option Nat :=
  Text.digitIn 16 (Char.ofNat b.toNat)

/-- Replaces each percent sign with two hexadecimal digits by the byte they denote. -/
def decodeEscapes : Bytes → Bytes
  | [] => []
  | [b] => [b]
  | [b, c] => [b, c]
  | b :: hi :: lo :: rest =>
    if b = 0x25 then
      match escapeDigit hi, escapeDigit lo with
      | some h, some l => UInt8.ofNat (h * 16 + l) :: decodeEscapes rest
      | _, _ => b :: decodeEscapes (hi :: lo :: rest)
    else b :: decodeEscapes (hi :: lo :: rest)
termination_by bs => bs.length

/-- Bytes outside printing ASCII as percent escapes in capitals. -/
def escapeByte (b : UInt8) : List Char :=
  if 0x20 ≤ b.toNat ∧ b.toNat ≤ 0x7E then [Char.ofNat b.toNat]
  else '%' :: (Bytes.hexDigits [b]).map Char.toUpper

/-! ## Names -/

def isForbidden (c : Char) : Bool :=
  c.toNat ≤ 0x20 || c.toNat == 0x7F || "%#/:<>?@[\x5c]^|".contains c

/-- The characters that a text is looked up as, unless one of them may stand in no name. -/
def lookedUp (cs : List Char) : Option (List Char) :=
  ((cs.mapM image).map fun images => Text.normalize images.flatten).filter
    fun name => !name.any isForbidden

/-- Whether the labels of a name may stand together. -/
def directionsFit (labels : List Label) : Bool :=
  !(labels.any fun l => l.shown.any Text.isFromRight) ||
    labels.all fun l => Label.directionFits l.shown

/-- A domain name in ASCII, from the bytes of a text. -/
def toAscii (bs : Bytes) : Option (List Char) := do
  let text ← String.fromUTF8? ⟨(decodeEscapes bs).toArray⟩
  let name ← lookedUp text.toList
  let labels ← (Text.pieces '.' name).mapM Label.read
  guard (directionsFit labels)
  return Text.joinPieces '.' (labels.map Label.ascii)

end MarketSync.Domain
