import MarketSync.Abi
import MarketSync.Text.Hex

/-!
# Markets and their identity

A market is identified by three tokens in a fixed order. Its own token is fixed when it is created,
by the three tokens and the market type: it is the low end of the hash of the four, `market_salt`.

Messages, labels and recorded calls show an address as its forty hexadecimal digits, where a letter
is a capital exactly if the digit at its place in the hash of the lower-case digits is eight or
more.
-/

namespace MarketSync

/-! ## Addresses as text -/

namespace Address

/-- Capitals where the matching digit of the hash is eight or more. -/
def capitalize : List Char → List Char → List Char
  | c :: cs, h :: hs =>
    (if (Text.digitValue h).getD 0 < 8 then c else c.toUpper) :: capitalize cs hs
  | cs, [] => cs
  | [], _ => []

/-- The address with its checksum in the case of the letters. -/
def text (a : Address) : String :=
  let digits := Bytes.hexDigits a.bytes
  let ascii := digits.map fun c => UInt8.ofNat c.toNat
  let hash := Bytes.hexDigits (wordBytes (Keccak.hash ascii))
  String.ofList ('0' :: 'x' :: capitalize digits hash)

end Address

/-! ## Markets -/

/-- The identity of a market (`MarketTriple`); the order of the tokens matters. -/
structure Triple where
  indexToken : Address
  longToken : Address
  shortToken : Address
  deriving DecidableEq

structure Listing where
  marketToken : Address
  triple : Triple
  deriving DecidableEq

/-- The index token of markets that are for swaps only. -/
def swapOnlyIndex : Address := 0

/-- The market type of a label. -/
def marketTypeOf (label : String) : Bytes32 :=
  Abi.hashText label

/-- The market type of definitions that name none (`default_market_type`). -/
def defaultMarketType : Bytes32 :=
  marketTypeOf "basic-v1"

namespace Triple

def isSwapOnly (t : Triple) : Bool :=
  t.indexToken == swapOnlyIndex

def text (t : Triple) : String :=
  t.indexToken.text ++ ":" ++ t.longToken.text ++ ":" ++ t.shortToken.text

/-- The hash that fixes the token of a market created with a type (`market_salt`). -/
def salt (t : Triple) (marketType : Bytes32) : Bytes32 :=
  Keccak.hash <| Abi.encode
    [.text "GMX_MARKET", .word t.indexToken.word, .word t.longToken.word, .word t.shortToken.word,
     .word marketType]

/-- The market that creation with a type yields. -/
def listing (t : Triple) (marketType : Bytes32) : Listing :=
  ⟨Address.ofWord (t.salt marketType), t⟩

end Triple

end MarketSync
