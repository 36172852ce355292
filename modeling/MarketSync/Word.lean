import MarketSync.Text.Digits

/-!
# Words, addresses and byte strings

The values that contracts work with: 32-byte words, unsigned numbers below 2^256, and 20-byte
addresses, each with its big-endian bytes and its lower-case hexadecimal text.
-/

namespace MarketSync

abbrev Bytes := List UInt8

/-- A 32-byte word: a storage key, a hash or an identifier. -/
abbrev Bytes32 := BitVec 256

abbrev Uint256 := BitVec 256

abbrev Address := BitVec 160

namespace Bytes

/-- The lowest `width` bytes of a number, the highest first. -/
def bigEndian : (width : Nat) → Nat → Bytes
  | 0, _ => []
  | w + 1, n => UInt8.ofNat (n / Nat.pow 256 w) :: bigEndian w n

/-- The number that bytes denote, the highest byte first. -/
def toNumber (bs : Bytes) : Nat :=
  bs.foldl (fun n b => n * 256 + b.toNat) 0

/-- Two lower-case hexadecimal digits a byte. -/
def hexDigits (bs : Bytes) : List Char :=
  bs.flatMap fun b => [Text.digitChar (b.toNat / 16), Text.digitChar (b.toNat % 16)]

def hexText (bs : Bytes) : String :=
  String.ofList ('0' :: 'x' :: hexDigits bs)

/-- The bytes of a text in UTF-8. -/
def ofText (s : String) : Bytes :=
  s.toUTF8.toList

@[simp] theorem length_bigEndian (w n : Nat) : (bigEndian w n).length = w := by
  induction w with
  | zero => rfl
  | succ w ih => simp [bigEndian, ih]

end Bytes

def wordBytes (w : BitVec 256) : Bytes :=
  Bytes.bigEndian 32 w.toNat

def Address.bytes (a : Address) : Bytes :=
  Bytes.bigEndian 20 a.toNat

/-- The address as a word, with twelve zero bytes in front. -/
def Address.word (a : Address) : BitVec 256 :=
  a.setWidth 256

/-- The lowest twenty bytes of a word. -/
def Address.ofWord (w : BitVec 256) : Address :=
  w.setWidth 160

def Bytes32.text (w : Bytes32) : String :=
  (wordBytes w).hexText

/-- The address in lower-case hexadecimal: 40 digits after `0x`. -/
def Address.lowerText (a : Address) : String :=
  a.bytes.hexText

def Uint256.text (n : Uint256) : String :=
  Text.decimal n.toNat

/-- The number in hexadecimal after `0x`, without leading zeros. -/
def Uint256.quantity (n : Uint256) : String :=
  String.ofList ('0' :: 'x' :: Text.digits 16 n.toNat)

end MarketSync
