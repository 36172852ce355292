import MarketSync.Abi

/-!
# Storage keys

Every value of the configuration store lies under a key derived from what the value means: the hash
of the parameter's name, followed by the market, token or side it applies to, hashed again. `Key`
names the meanings, one for each key function such as `min_collateral_factor_key`; `Key.preimage`
gives the bytes and `Key.slot` their hash (`hash_data`). Most keys have the form of `market_key` or of
`market_side_key`, a market alone or with a flag.
-/

namespace MarketSync

inductive Side where
  | long
  | short
  deriving DecidableEq, Repr

inductive Sign where
  | positive
  | negative
  deriving DecidableEq, Repr

/-- The caps on pending profit and loss (`PnlFactorType`). -/
inductive PnlCap where
  | maxForTraders
  | maxForAdl
  | minAfterAdl
  | maxForDeposits
  | maxForWithdrawals
  deriving DecidableEq, Repr

namespace Side

def all : List Side := [.long, .short]

def text : Side → String
  | .long => "long"
  | .short => "short"

def word (s : Side) : BitVec 256 :=
  Abi.flagWord (s == .long)

end Side

namespace Sign

def all : List Sign := [.positive, .negative]

def text : Sign → String
  | .positive => "positive"
  | .negative => "negative"

def word (s : Sign) : BitVec 256 :=
  Abi.flagWord (s == .positive)

end Sign

namespace PnlCap

/-- All caps in the order in which they are written. -/
def all : List PnlCap :=
  [.maxForTraders, .maxForAdl, .minAfterAdl, .maxForDeposits, .maxForWithdrawals]

/-- The name that is hashed into storage keys. -/
def name : PnlCap → String
  | .maxForTraders => "MAX_PNL_FACTOR_FOR_TRADERS"
  | .maxForAdl => "MAX_PNL_FACTOR_FOR_ADL"
  | .minAfterAdl => "MIN_PNL_FACTOR_AFTER_ADL"
  | .maxForDeposits => "MAX_PNL_FACTOR_FOR_DEPOSITS"
  | .maxForWithdrawals => "MAX_PNL_FACTOR_FOR_WITHDRAWALS"

def label : PnlCap → String
  | .maxForTraders => "max pnl factor for traders"
  | .maxForAdl => "max pnl factor for adl"
  | .minAfterAdl => "min pnl factor after adl"
  | .maxForDeposits => "max pnl factor for deposits"
  | .maxForWithdrawals => "max pnl factor for withdrawals"

def hash (cap : PnlCap) : Bytes32 :=
  Abi.hashText cap.name

end PnlCap

/-- What a stored value means. -/
inductive Key where
  | minCollateralFactor (market : Address)
  | maxPoolAmount (market token : Address)
  | maxOpenInterest (market : Address) (side : Side)
  | reserveFactor (market : Address) (side : Side)
  | maxPnlFactor (cap : PnlCap) (market : Address) (side : Side)
  | tokenTransferGasLimit (token : Address)
  | positionFeeFactor (market : Address)
  | positionImpactExponentFactor (market : Address)
  | swapFeeFactor (market : Address)
  | swapImpactExponentFactor (market : Address)
  | fundingFactor (market : Address)
  | fundingExponentFactor (market : Address)
  | borrowingFactor (market : Address) (side : Side)
  | borrowingExponentFactor (market : Address) (side : Side)
  | positionImpactFactor (market : Address) (sign : Sign)
  | maxPositionImpactFactor (market : Address) (sign : Sign)
  | swapImpactFactor (market : Address) (sign : Sign)
  | virtualMarketId (market : Address)
  deriving DecidableEq

namespace Key

def name : Key → String
  | .minCollateralFactor _ => "MIN_COLLATERAL_FACTOR"
  | .maxPoolAmount _ _ => "MAX_POOL_AMOUNT"
  | .maxOpenInterest _ _ => "MAX_OPEN_INTEREST"
  | .reserveFactor _ _ => "RESERVE_FACTOR"
  | .maxPnlFactor _ _ _ => "MAX_PNL_FACTOR"
  | .tokenTransferGasLimit _ => "TOKEN_TRANSFER_GAS_LIMIT"
  | .positionFeeFactor _ => "POSITION_FEE_FACTOR"
  | .positionImpactExponentFactor _ => "POSITION_IMPACT_EXPONENT_FACTOR"
  | .swapFeeFactor _ => "SWAP_FEE_FACTOR"
  | .swapImpactExponentFactor _ => "SWAP_IMPACT_EXPONENT_FACTOR"
  | .fundingFactor _ => "FUNDING_FACTOR"
  | .fundingExponentFactor _ => "FUNDING_EXPONENT_FACTOR"
  | .borrowingFactor _ _ => "BORROWING_FACTOR"
  | .borrowingExponentFactor _ _ => "BORROWING_EXPONENT_FACTOR"
  | .positionImpactFactor _ _ => "POSITION_IMPACT_FACTOR"
  | .maxPositionImpactFactor _ _ => "MAX_POSITION_IMPACT_FACTOR"
  | .swapImpactFactor _ _ => "SWAP_IMPACT_FACTOR"
  | .virtualMarketId _ => "VIRTUAL_MARKET_ID"

/-- What the parameter applies to, a word each. -/
def arguments : Key → List (BitVec 256)
  | .maxPoolAmount market token => [market.word, token.word]
  | .maxOpenInterest market side | .reserveFactor market side | .borrowingFactor market side
  | .borrowingExponentFactor market side => [market.word, side.word]
  | .maxPnlFactor cap market side => [cap.hash, market.word, side.word]
  | .positionImpactFactor market sign | .maxPositionImpactFactor market sign
  | .swapImpactFactor market sign => [market.word, sign.word]
  | .minCollateralFactor a | .tokenTransferGasLimit a | .positionFeeFactor a
  | .positionImpactExponentFactor a | .swapFeeFactor a | .swapImpactExponentFactor a
  | .fundingFactor a | .fundingExponentFactor a | .virtualMarketId a => [a.word]

/-- The bytes whose hash is the storage key. -/
def preimage (k : Key) : Bytes :=
  Abi.words (Abi.hashText k.name :: k.arguments)

/-- The storage key. -/
def slot (k : Key) : Bytes32 :=
  Keccak.hash k.preimage

end Key

end MarketSync
