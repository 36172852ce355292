import MarketSync.Text.Pieces
import MarketSync.Word

/-!
# Sixteen-byte network addresses

Eight pieces of up to four hexadecimal digits, divided by colons. Two colons in a row stand for one
or more zero pieces and may occur once. The last two pieces may be written as four decimal bytes.
The text of an address leaves out its first longest run of two or more zero pieces.
-/

namespace MarketSync

structure Ipv6 where
  pieces : List UInt16
  length_pieces : pieces.length = 8

namespace Ipv6

/-- A piece of one to four hexadecimal digits. -/
def readPiece (cs : List Char) : Option UInt16 :=
  if 0 < cs.length ∧ cs.length ≤ 4 then (Text.readDigits 16 cs).map UInt16.ofNat else none

/-- A byte in decimal without leading zeros. -/
def readByte (cs : List Char) : Option Nat :=
  match cs with
  | [] => none
  | ['0'] => some 0
  | '0' :: _ => none
  | cs => (Text.readDigits 10 cs).filter (· < 256)

/-- Two pieces written as four decimal bytes. -/
def readBytes (cs : List Char) : Option (List UInt16) :=
  match (Text.pieces '.' cs).mapM readByte with
  | some [a, b, c, d] => some [UInt16.ofNat (a * 256 + b), UInt16.ofNat (c * 256 + d)]
  | _ => none

/-- Pieces from their texts; only the last text may be decimal bytes. -/
def readTexts : List (List Char) → Option (List UInt16)
  | [] => some []
  | [last] => if last.contains '.' then readBytes last else (readPiece last).map ([·])
  | p :: ps =>
    match readPiece p with
    | none => none
    | some piece => (readTexts ps).map (piece :: ·)

/-- The pieces on one side of the two colons; a side may be empty. -/
def readSide (cs : List Char) : Option (List UInt16) :=
  if cs.isEmpty then some [] else readTexts (Text.pieces ':' cs)

/-- The two sides of the first two colons in a row. -/
def splitGap : List Char → Option (List Char × List Char)
  | [] => none
  | ':' :: ':' :: cs => some ([], cs)
  | c :: cs => (splitGap cs).map fun (front, back) => (c :: front, back)

def ofPieces (ps : List UInt16) : Option Ipv6 :=
  if h : ps.length = 8 then some ⟨ps, h⟩ else none

def parse (cs : List Char) : Option Ipv6 :=
  match splitGap cs with
  | none => (readSide cs).bind ofPieces
  | some (front, back) =>
    if front.contains '.' then none
    else
      match readSide front, readSide back with
      | some front, some back =>
        if front.length + back.length < 8 then
          ofPieces (front ++ List.replicate (8 - front.length - back.length) 0 ++ back)
        else none
      | _, _ => none

/-! ## Text -/

/-- Where the first longest run of zero pieces begins, and its length. -/
def longestRun : List UInt16 → Nat × Nat
  | [] => (0, 0)
  | p :: ps =>
    let here := ((p :: ps).takeWhile (· == 0)).length
    let (start, length) := longestRun ps
    if length ≤ here then (0, here) else (start + 1, length)

/-- Pieces in hexadecimal, divided by colons. -/
def piecesText (ps : List UInt16) : String :=
  ":".intercalate (ps.map fun p => String.ofList (Text.digits 16 p.toNat))

/-- The address in lower-case hexadecimal. -/
def text (a : Ipv6) : String :=
  let (start, length) := longestRun a.pieces
  if length < 2 then piecesText a.pieces
  else piecesText (a.pieces.take start) ++ "::" ++ piecesText (a.pieces.drop (start + length))

end Ipv6

end MarketSync
