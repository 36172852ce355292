import MarketSync.Chain.Backend
import MarketSync.Document.Value
import MarketSync.Node.ContractCall

/-!
# Contracts behind a node

Store, registry and factory as contracts that a node reaches (`RpcChain`). Reads are queries
answered at once, by `call_contract`; writes and creations are transactions, by `send_transaction`,
whose outcome stands in a receipt. A transport carries the requests; it is a parameter, and
everything here is what becomes of its replies.
-/

namespace MarketSync

open Document

inductive RequestKind where
  | query
  | transaction
  deriving DecidableEq, Repr

def RequestKind.name : RequestKind → String
  | .query => "eth_call"
  | .transaction => "eth_sendTransaction"

structure Request where
  kind : RequestKind
  contract : Address
  data : Bytes
  deriving DecidableEq

/-- What becomes of a request. -/
inductive Reply where
  | result (v : Value)
  /-- The node answers with an error. -/
  | rejected (message : String)
  /-- The node does not answer. -/
  | lost

structure Transport (σ : Type) where
  request : Request → σ → Reply × σ
  /-- Whether an included transaction succeeded, if the node tells. -/
  receipt : Bytes32 → σ → Option Bool × σ

def Transport.offline : Transport Unit where
  request _ s := (.lost, s)
  receipt _ s := (none, s)

/-- The bytes that a node answers: hexadecimal text, or a list of numbers. -/
def replyBytes : Value → Option Bytes
  | .text s => (Text.readHex s).toOption
  | .list items => items.mapM Value.asByte
  | _ => none

/-- The hash of a transaction that a node answers. What a list has behind the hash is overlooked
only if it is a single value. -/
def replyHash (v : Value) : Option Bytes32 :=
  match v with
  | .list items =>
    if (items.drop 32).any Value.isCompound then none else (v.asBytes32 true).toOption
  | _ => (v.asBytes32 true).toOption

structure Contracts where
  dataStore : Address
  reader : Address
  marketFactory : Address
  deriving DecidableEq

namespace Contracts

variable {σ α : Type}

def address (c : Contracts) : ContractCall → Address
  | .getMarkets _ _ _ => c.reader
  | .createMarket _ _ => c.marketFactory
  | _ => c.dataStore

/-- Asks a contract. An error of the node counts as a revert. -/
def query (c : Contracts) (t : Transport σ) (call : ContractCall) (read : Bytes → Option α)
    (s : σ) : Except CallError α × σ :=
  match t.request ⟨.query, c.address call, call.data⟩ s with
  | (.result v, s) =>
    match (replyBytes v).bind read with
    | some a => (.ok a, s)
    | none => (.error .noAnswer, s)
  | (.rejected message, s) => (.error (.rejected call.method message), s)
  | (.lost, s) => (.error .noAnswer, s)

/-- Sends a transaction and waits for its receipt. -/
def submit (c : Contracts) (t : Transport σ) (call : ContractCall) (s : σ) :
    Except CallError Unit × σ :=
  match t.request ⟨.transaction, c.address call, call.data⟩ s with
  | (.result v, s) =>
    match replyHash v with
    | none => (.error .noAnswer, s)
    | some hash =>
      match t.receipt hash s with
      | (some true, s) => (.ok (), s)
      | (some false, s) => (.error (.receiptFailed call.method hash), s)
      | (none, s) => (.error .noAnswer, s)
  | (_, s) => (.error .noAnswer, s)

def backend (c : Contracts) (t : Transport σ) : Backend σ where
  store :=
    { getUint := fun key => c.query t (.getUint key) Abi.readWord
      getBytes32 := fun key => c.query t (.getBytes32 key) Abi.readWord
      setUint := fun key value => c.submit t (.setUint key value)
      setBytes32 := fun key value => c.submit t (.setBytes32 key value) }
  registry :=
    { getMarkets := fun start stop =>
        c.query t (.getMarkets c.dataStore start stop) Listing.readAll }
  factory :=
    { createMarket := fun triple marketType => c.submit t (.createMarket triple marketType) }

end Contracts

end MarketSync
