import MarketSync.Config.Param
import MarketSync.Table

/-!
# Configurations

A configuration names tokens, sets network-wide values, and defines markets. A definition refers to
tokens by symbol; resolving it gives the triple that identifies the market. A market for swaps only
has the zero address as its index token, whatever index symbol its definition names.
-/

namespace MarketSync

abbrev TokenRegistry := Table String Address

structure MarketTokens where
  indexToken : Option String
  longToken : String
  shortToken : String
  deriving DecidableEq

/-- The desired configuration of one market. A parameter that is absent is never written; an
explicit zero is. -/
structure Definition where
  tokens : MarketTokens
  swapOnly : Bool
  marketType : Option String
  amounts : Param → Option Uint256
  virtualMarketId : Option Bytes32

/-- Values that apply to every market. -/
structure GeneralSection where
  tokenTransferGasLimit : Option Uint256
  deriving DecidableEq

/-- What a provisioning file says. -/
structure Config where
  general : GeneralSection
  tokens : TokenRegistry
  markets : List Definition

inductive ResolveError where
  | unknownToken (symbol : String)
  | missingIndexToken
  deriving DecidableEq

def ResolveError.message : ResolveError → String
  | .unknownToken symbol => "unknown token symbol: " ++ symbol
  | .missingIndexToken => "market definition is not swap-only but has no index token"

/-- The address of a symbol that has to be known (`address_of`). -/
def TokenRegistry.find (r : TokenRegistry) (symbol : String) : Except ResolveError Address :=
  match r.get? symbol with
  | some address => .ok address
  | none => .error (.unknownToken symbol)

namespace Definition

def resolveIndex (d : Definition) (tokens : TokenRegistry) : Except ResolveError Address :=
  if d.swapOnly then .ok swapOnlyIndex
  else
    match d.tokens.indexToken with
    | none => .error .missingIndexToken
    | some symbol => tokens.find symbol

/-- The triple of the market (`resolve_triple`). Faults of the index token come first, then those of
the long token. -/
def resolve (d : Definition) (tokens : TokenRegistry) : Except ResolveError Triple :=
  match d.resolveIndex tokens, tokens.find d.tokens.longToken, tokens.find d.tokens.shortToken with
  | .error e, _, _ => .error e
  | .ok _, .error e, _ => .error e
  | .ok _, .ok _, .error e => .error e
  | .ok index, .ok long, .ok short => .ok ⟨index, long, short⟩

/-- The type with which the market is created (`market_type`). -/
def typeHash (d : Definition) : Bytes32 :=
  match d.marketType with
  | some label => marketTypeOf label
  | none => defaultMarketType

end Definition

/-- A definition together with the triple of its market. -/
structure Resolved where
  definition : Definition
  triple : Triple

/-- Resolves definitions in order; the first failing one counts. -/
def resolveAll (tokens : TokenRegistry) : List Definition → Except ResolveError (List Resolved)
  | [] => .ok []
  | d :: ds =>
    match d.resolve tokens with
    | .error e => .error e
    | .ok t => (resolveAll tokens ds).map (⟨d, t⟩ :: ·)

end MarketSync
