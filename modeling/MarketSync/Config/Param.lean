import MarketSync.Key
import MarketSync.Market.Triple

/-!
# Market parameters

The thirty-three amounts that a market definition may set. Each has a name in configuration files, a
meaning in the store, and a label for the entry that writes it, as the lines of `market_entries`
give them.
-/

namespace MarketSync

/-- An amount that a market definition may set. -/
inductive Param where
  | reserveFactor (side : Side)
  | minCollateralFactor
  | maxPoolAmount (side : Side)
  | maxOpenInterest (side : Side)
  | pnlFactor (cap : PnlCap) (side : Side)
  | positionFeeFactor
  | positionImpactExponentFactor
  | swapFeeFactor
  | swapImpactExponentFactor
  | fundingFactor
  | fundingExponentFactor
  | borrowingFactor (side : Side)
  | borrowingExponentFactor (side : Side)
  | positionImpactFactor (sign : Sign)
  | maxPositionImpactFactor (sign : Sign)
  | swapImpactFactor (sign : Sign)
  deriving DecidableEq, Repr

namespace Param

/-- All parameters in the order in which configuration files declare them. -/
def all : List Param :=
  Side.all.map reserveFactor ++ [minCollateralFactor] ++ Side.all.map maxPoolAmount ++
    Side.all.map maxOpenInterest ++ PnlCap.all.flatMap (fun cap => Side.all.map (pnlFactor cap)) ++
    [positionFeeFactor, positionImpactExponentFactor, swapFeeFactor, swapImpactExponentFactor,
     fundingFactor, fundingExponentFactor] ++
    Side.all.map borrowingFactor ++ Side.all.map borrowingExponentFactor ++
    Sign.all.map positionImpactFactor ++ Sign.all.map maxPositionImpactFactor ++
    Sign.all.map swapImpactFactor

def capField : PnlCap → String
  | .maxForTraders => "max_pnl_factor_for_traders"
  | .maxForAdl => "max_pnl_factor_for_adl"
  | .minAfterAdl => "min_pnl_factor_after_adl"
  | .maxForDeposits => "max_pnl_factor_for_deposits"
  | .maxForWithdrawals => "max_pnl_factor_for_withdrawals"

def sideField : Side → String
  | .long => "longs"
  | .short => "shorts"

def field : Param → String
  | .reserveFactor side => "reserve_factor_" ++ sideField side
  | .minCollateralFactor => "min_collateral_factor"
  | .maxPoolAmount side => "max_" ++ side.text ++ "_token_pool_amount"
  | .maxOpenInterest side => "max_open_interest_for_" ++ sideField side
  | .pnlFactor cap side => capField cap ++ "_" ++ sideField side
  | .positionFeeFactor => "position_fee_factor"
  | .positionImpactExponentFactor => "position_impact_exponent_factor"
  | .swapFeeFactor => "swap_fee_factor"
  | .swapImpactExponentFactor => "swap_impact_exponent_factor"
  | .fundingFactor => "funding_factor"
  | .fundingExponentFactor => "funding_exponent_factor"
  | .borrowingFactor side => "borrowing_factor_for_" ++ sideField side
  | .borrowingExponentFactor side => "borrowing_exponent_factor_for_" ++ sideField side
  | .positionImpactFactor sign => sign.text ++ "_position_impact_factor"
  | .maxPositionImpactFactor sign => sign.text ++ "_max_position_impact_factor"
  | .swapImpactFactor sign => sign.text ++ "_swap_impact_factor"

def poolToken (t : Triple) : Side → Address
  | .long => t.longToken
  | .short => t.shortToken

/-- What the parameter means for a registered market. -/
def key (m : Listing) : Param → Key
  | .reserveFactor side => .reserveFactor m.marketToken side
  | .minCollateralFactor => .minCollateralFactor m.marketToken
  | .maxPoolAmount side => .maxPoolAmount m.marketToken (poolToken m.triple side)
  | .maxOpenInterest side => .maxOpenInterest m.marketToken side
  | .pnlFactor cap side => .maxPnlFactor cap m.marketToken side
  | .positionFeeFactor => .positionFeeFactor m.marketToken
  | .positionImpactExponentFactor => .positionImpactExponentFactor m.marketToken
  | .swapFeeFactor => .swapFeeFactor m.marketToken
  | .swapImpactExponentFactor => .swapImpactExponentFactor m.marketToken
  | .fundingFactor => .fundingFactor m.marketToken
  | .fundingExponentFactor => .fundingExponentFactor m.marketToken
  | .borrowingFactor side => .borrowingFactor m.marketToken side
  | .borrowingExponentFactor side => .borrowingExponentFactor m.marketToken side
  | .positionImpactFactor sign => .positionImpactFactor m.marketToken sign
  | .maxPositionImpactFactor sign => .maxPositionImpactFactor m.marketToken sign
  | .swapImpactFactor sign => .swapImpactFactor m.marketToken sign

/-- The label of the entry that writes the parameter. -/
def label (m : Listing) (p : Param) : String :=
  let market := m.marketToken.text
  match p with
  | .minCollateralFactor => "min collateral factor " ++ market
  | .maxPoolAmount side =>
    "max pool amount " ++ market ++ " " ++ (poolToken m.triple side).text
  | .maxOpenInterest side => "max open interest " ++ market ++ " " ++ side.text
  | .reserveFactor side => "reserve factor " ++ market ++ " " ++ side.text
  | .pnlFactor cap side => cap.label ++ " " ++ market ++ " " ++ side.text
  | .positionFeeFactor => "position fee factor for " ++ market
  | .positionImpactExponentFactor => "position impact exponent factor for " ++ market
  | .swapFeeFactor => "swap fee factor for " ++ market
  | .swapImpactExponentFactor => "swap impact exponent factor for " ++ market
  | .fundingFactor => "funding factor for " ++ market
  | .fundingExponentFactor => "funding exponent factor for " ++ market
  | .borrowingFactor side => "borrowing factor for " ++ sideField side ++ " for " ++ market
  | .borrowingExponentFactor side =>
    "borrowing exponent factor for " ++ sideField side ++ " for " ++ market
  | .positionImpactFactor sign => sign.text ++ " position impact factor for " ++ market
  | .maxPositionImpactFactor sign => sign.text ++ " max position impact factor for " ++ market
  | .swapImpactFactor sign => sign.text ++ " swap impact factor for " ++ market

end Param

end MarketSync
