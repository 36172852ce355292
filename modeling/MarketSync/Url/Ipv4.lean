import MarketSync.Text.Pieces
import MarketSync.Word

/-!
# Four-byte network addresses

Up to four numbers divided by points, in decimal, in hexadecimal after `0x`, or in octal after `0`.
Each number but the last stands for one byte and the last for all remaining ones, so `127.1` is
`127.0.0.1`. One point may follow the last number.
-/

namespace MarketSync

abbrev Ipv4 := BitVec 32

namespace Ipv4

def readPart : List Char → Option Nat
  | [] => none
  | '0' :: 'x' :: cs => Text.readDigits 16 cs
  | '0' :: 'X' :: cs => Text.readDigits 16 cs
  | '0' :: cs => Text.readDigits 8 cs
  | cs => Text.readDigits 10 cs

/-- The parts between points, where an empty last part does not count. -/
def parts (cs : List Char) : List (List Char) :=
  let ps := Text.pieces '.' cs
  if ps.getLast? = some [] then ps.dropLast else ps

/-- Whether the last part is a number, or consists of digits alone. Only such a name is an
address. -/
def endsInNumber (cs : List Char) : Bool :=
  match (parts cs).getLast? with
  | none => false
  | some part => (!part.isEmpty && part.all Char.isDigit) || (readPart part).isSome

/-- The address of up to four numbers, the last of which fills what the others leave. -/
def ofNumbers (ns : List Nat) : Option Ipv4 :=
  match ns.getLast? with
  | none => none
  | some last =>
    let front := ns.dropLast
    let room := Nat.pow 256 (4 - front.length)
    if front.length < 4 ∧ front.all (· < 256) ∧ last < room then
      some (BitVec.ofNat 32 (front.foldl (fun n b => n * 256 + b) 0 * room + last))
    else none

def parse (cs : List Char) : Option Ipv4 :=
  ((parts cs).mapM readPart).bind ofNumbers

/-- The four bytes in decimal, divided by points. -/
def text (a : Ipv4) : String :=
  ".".intercalate ((Bytes.bigEndian 4 a.toNat).map fun b => Text.decimal b.toNat)

end Ipv4

end MarketSync
