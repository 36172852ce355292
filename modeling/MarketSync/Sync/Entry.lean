import MarketSync.Config.Definition

/-!
# Entries

An entry says what one slot of the store should hold. A definition becomes (`market_entries`) one
entry for each amount it sets, in a fixed order: limits and caps, the gas limit of the general
section, factors, and last the virtual market id, which is the only word. What is absent gives no
entry; an explicit zero does.

Lists of entries are merged by key (`merge_entries`): a key that is already there keeps its position
and takes the whole incoming entry, so the last one counts.
-/

namespace MarketSync

/-- The value of a slot: a number, or a word. -/
inductive SlotValue where
  | uint (n : Uint256)
  | bytes32 (w : Bytes32)
  deriving DecidableEq

def SlotValue.text : SlotValue → String
  | .uint n => n.text
  | .bytes32 w => w.text

/-- What a slot should hold, and a label for it. -/
structure Entry where
  key : Bytes32
  value : SlotValue
  label : String
  deriving DecidableEq

/-! ## Entries of a definition -/

def leadingParams : List Param :=
  [.minCollateralFactor] ++ Side.all.map .maxPoolAmount ++ Side.all.map .maxOpenInterest ++
    Side.all.map .reserveFactor ++
    PnlCap.all.flatMap fun cap => Side.all.map (.pnlFactor cap)

def trailingParams : List Param :=
  [.positionFeeFactor, .positionImpactExponentFactor, .swapFeeFactor, .swapImpactExponentFactor,
    .fundingFactor, .borrowingFactor .long, .fundingExponentFactor, .borrowingFactor .short] ++
    Side.all.map .borrowingExponentFactor ++ Sign.all.map .positionImpactFactor ++
    Sign.all.map .maxPositionImpactFactor ++ Sign.all.map .swapImpactFactor

def paramEntry (d : Definition) (m : Listing) (p : Param) : Option Entry :=
  (d.amounts p).map fun n => ⟨(p.key m).slot, .uint n, p.label m⟩

/-- The entry of the gas limit, if it is set. -/
def gasLimitEntry (g : GeneralSection) (m : Listing) : Option Entry :=
  g.tokenTransferGasLimit.map fun n =>
    ⟨(Key.tokenTransferGasLimit m.marketToken).slot, .uint n,
      "market token transfer gas limit " ++ m.marketToken.text⟩

def virtualIdEntry (d : Definition) (m : Listing) : Option Entry :=
  d.virtualMarketId.map fun w =>
    ⟨(Key.virtualMarketId m.marketToken).slot, .bytes32 w,
      "virtual market id for market " ++ m.marketToken.text⟩

/-- The entries of a definition for its registered market (`market_entries`), in the order in which
they are written. -/
def marketEntries (d : Definition) (m : Listing) (g : GeneralSection) : List Entry :=
  leadingParams.filterMap (paramEntry d m) ++ (gasLimitEntry g m).toList ++
    trailingParams.filterMap (paramEntry d m) ++ (virtualIdEntry d m).toList

/-! ## Merging -/

/-- Puts an entry in place of the first one with its key, or at the end. -/
def mergeEntry : List Entry → Entry → List Entry
  | [], e => [e]
  | f :: fs, e => if f.key = e.key then e :: fs else f :: mergeEntry fs e

/-- Merges incoming entries one after another (`merge_entries`). -/
def mergeEntries (existing incoming : List Entry) : List Entry :=
  incoming.foldl mergeEntry existing

end MarketSync
