import MarketSync.Word

/-!
# Reading hexadecimal text

A byte string of a fixed width written in hexadecimal, with or without `0x` in front. Of several
faults the first in this order counts: an odd number of digits, a wrong length, the first byte that
is no digit. Lengths and positions count bytes of UTF-8 after the leading `0x`.
-/

namespace MarketSync.Text

inductive HexError where
  | oddDigits
  | wrongLength
  | badDigit (byte : UInt8) (position : Nat)
  deriving DecidableEq, Repr

/-- A byte shown as the character of that code between single quotes; what does not print is shown
by an escape. -/
def quotedByte (b : UInt8) : String :=
  let n := b.toNat
  let inner :=
    if n = 0 then "\\0"
    else if n = 9 then "\\t"
    else if n = 10 then "\\n"
    else if n = 13 then "\\r"
    else if n = 0x27 then "\\'"
    else if n = 0x5C then "\\\\"
    else if (0x20 ≤ n ∧ n ≤ 0x7E) ∨ (0xA1 ≤ n ∧ n ≠ 0xAD) then String.singleton (Char.ofNat n)
    else "\\u\x7b" ++ String.ofList (digits 16 n) ++ "\x7d"
  "'" ++ inner ++ "'"

def HexError.message : HexError → String
  | .oddDigits => "odd number of digits"
  | .wrongLength => "invalid string length"
  | .badDigit b p => "invalid character " ++ quotedByte b ++ " at position " ++ decimal p

/-- The value of a hexadecimal digit given by its byte. -/
def byteDigit (b : UInt8) : Option Nat :=
  digitIn 16 (Char.ofNat b.toNat)

/-- Reads two digits a byte; `position` is that of the first byte of the text. -/
def readHexPairs (position : Nat) : Bytes → Except HexError Bytes
  | [] => .ok []
  | [_] => .error .oddDigits
  | hi :: lo :: rest =>
    match byteDigit hi, byteDigit lo with
    | some h, some l => (readHexPairs (position + 2) rest).map (UInt8.ofNat (h * 16 + l) :: ·)
    | none, _ => .error (.badDigit hi position)
    | some _, none => .error (.badDigit lo (position + 1))

/-- The text without a leading `0x` or `0X`. -/
def dropHexMark : Bytes → Bytes
  | 0x30 :: 0x78 :: rest => rest
  | 0x30 :: 0x58 :: rest => rest
  | bs => bs

/-- Reads a byte string of any even number of digits. -/
def readHex (text : String) : Except HexError Bytes :=
  let body := dropHexMark (Bytes.ofText text)
  if body.length % 2 ≠ 0 then .error .oddDigits else readHexPairs 0 body

def readHexOf (width : Nat) (text : String) : Except HexError Bytes :=
  let body := dropHexMark (Bytes.ofText text)
  if body.length % 2 ≠ 0 then .error .oddDigits
  else if body.length / 2 ≠ width then .error .wrongLength
  else readHexPairs 0 body

end MarketSync.Text

namespace MarketSync

/-- Reads an address of forty digits; the case of letters is not checked. -/
def Address.parse (text : String) : Except Text.HexError Address :=
  (Text.readHexOf 20 text).map fun bs => BitVec.ofNat 160 (Bytes.toNumber bs)

/-- Reads a word of sixty-four digits. -/
def Bytes32.parse (text : String) : Except Text.HexError Bytes32 :=
  (Text.readHexOf 32 text).map fun bs => BitVec.ofNat 256 (Bytes.toNumber bs)

end MarketSync
