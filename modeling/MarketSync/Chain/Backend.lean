import MarketSync.Market.Triple

/-!
# Backends

What a run needs from outside: a store of configuration values, the registry of markets, and the
factory that creates them: `ConfigStore`, `MarketRegistry` and `MarketFactory`. Each of the six
calls takes the state of the outside to a result and a new state, whether it succeeds or fails. A
failure is a reverted transaction or something else that has no further meaning here; its wording is
part of the failure.
-/

namespace MarketSync

/-! ## Failures of calls -/

inductive Method where
  | getUint
  | getBytes32
  | setUint
  | setBytes32
  | getMarkets
  | createMarket
  deriving DecidableEq, Repr

def Method.name : Method → String
  | .getUint => "getUint"
  | .getBytes32 => "getBytes32"
  | .setUint => "setUint"
  | .setBytes32 => "setBytes32"
  | .getMarkets => "getMarkets"
  | .createMarket => "createMarket"

inductive CallError where
  /-- A write to a slot that refuses writes. -/
  | slotReverted (method : Method) (key : Bytes32)
  /-- A creation of a market that exists. -/
  | marketExists (t : Triple)
  /-- A creation that was made to fail. -/
  | creationReverted (index : Nat)
  /-- The node answered a call with an error. -/
  | rejected (method : Method) (message : String)
  /-- A transaction was included and failed. -/
  | receiptFailed (method : Method) (hash : Bytes32)
  /-- A read that was made to fail. -/
  | readFailed (key : Bytes32)
  /-- A registry page that was made to fail. -/
  | pageFailed (index : Nat)
  /-- The node gave no usable answer. -/
  | noAnswer
  deriving DecidableEq

namespace CallError

/-- The transaction that reverted, for failures of that kind. -/
def transaction? : CallError → Option String
  | .slotReverted method key => some (method.name ++ "(" ++ key.text ++ ")")
  | .marketExists t =>
    some ("createMarket(" ++ t.indexToken.text ++ ", " ++ t.longToken.text ++ ", " ++
      t.shortToken.text ++ "): MarketAlreadyExists")
  | .creationReverted index => some ("creation " ++ Text.decimal index)
  | .rejected method message => some (method.name ++ ": " ++ message)
  | .receiptFailed method hash => some (method.name ++ " (" ++ hash.text ++ ")")
  | .readFailed _ | .pageFailed _ | .noAnswer => none

def message (e : CallError) : String :=
  match e.transaction? with
  | some transaction => "transaction " ++ transaction ++ " reverted"
  | none =>
    match e with
    | .readFailed key => "read of " ++ key.text ++ " failed"
    | .pageFailed index => "registry call " ++ Text.decimal index ++ " failed"
    | _ => "the node gave no usable answer"

end CallError

/-! ## What is called -/

/-- The configuration values by storage key, numbers and words apart. -/
structure Store (σ : Type) where
  getUint : Bytes32 → σ → Except CallError Uint256 × σ
  getBytes32 : Bytes32 → σ → Except CallError Bytes32 × σ
  setUint : Bytes32 → Uint256 → σ → Except CallError Unit × σ
  setBytes32 : Bytes32 → Bytes32 → σ → Except CallError Unit × σ

structure Registry (σ : Type) where
  /-- The markets at the positions from `start` up to `stop`, the latter excluded. -/
  getMarkets : (start stop : UInt64) → σ → Except CallError (List Listing) × σ

structure Factory (σ : Type) where
  createMarket : Triple → (marketType : Bytes32) → σ → Except CallError Unit × σ

/-- A store, a registry and a factory over one state. -/
structure Backend (σ : Type) where
  store : Store σ
  registry : Registry σ
  factory : Factory σ

end MarketSync
