import MarketSync.Chain.Backend

/-!
# Contract calls

The six calls with their arguments, and the bytes in which they are sent: a selector of four bytes,
then a word for each argument in the order of the signature.
-/

namespace MarketSync

def Method.signature : Method → String
  | .getUint => "getUint(bytes32)"
  | .getBytes32 => "getBytes32(bytes32)"
  | .setUint => "setUint(bytes32,uint256)"
  | .setBytes32 => "setBytes32(bytes32,bytes32)"
  | .getMarkets => "getMarkets(address,uint256,uint256)"
  | .createMarket => "createMarket(address,address,address,bytes32)"

/-- The first four bytes of the hash of the signature. -/
def Method.selector (m : Method) : Bytes :=
  (wordBytes (Keccak.hash (Bytes.ofText m.signature))).take 4

/-- A method with its arguments. -/
inductive ContractCall where
  | getUint (key : Bytes32)
  | getBytes32 (key : Bytes32)
  | setUint (key : Bytes32) (value : Uint256)
  | setBytes32 (key value : Bytes32)
  | getMarkets (dataStore : Address) (start stop : UInt64)
  | createMarket (t : Triple) (marketType : Bytes32)
  deriving DecidableEq

namespace ContractCall

def method : ContractCall → Method
  | .getUint _ => .getUint
  | .getBytes32 _ => .getBytes32
  | .setUint _ _ => .setUint
  | .setBytes32 _ _ => .setBytes32
  | .getMarkets _ _ _ => .getMarkets
  | .createMarket _ _ => .createMarket

def arguments : ContractCall → List (BitVec 256)
  | .getUint key => [key]
  | .getBytes32 key => [key]
  | .setUint key value => [key, value]
  | .setBytes32 key value => [key, value]
  | .getMarkets dataStore start stop =>
    [dataStore.word, BitVec.ofNat 256 start.toNat, BitVec.ofNat 256 stop.toNat]
  | .createMarket t marketType =>
    [t.indexToken.word, t.longToken.word, t.shortToken.word, marketType]

/-- The bytes that are sent. -/
def data (c : ContractCall) : Bytes :=
  c.method.selector ++ Abi.words c.arguments

end ContractCall

/-! ## Listings as contract data -/

/-- A listing as a row: the market's own token first, then the three tokens of its triple. -/
def Listing.row (m : Listing) : List (BitVec 256) :=
  [m.marketToken.word, m.triple.indexToken.word, m.triple.longToken.word, m.triple.shortToken.word]

def Listing.ofRow? : List (BitVec 256) → Option Listing
  | [market, index, long, short] =>
    some ⟨.ofWord market, .ofWord index, .ofWord long, .ofWord short⟩
  | _ => none

/-- The listings that a registry answers. -/
def Listing.readAll (bs : Bytes) : Option (List Listing) :=
  (Abi.readRows 4 bs).bind fun rows => rows.mapM Listing.ofRow?

end MarketSync
