import MarketSync.Chain.Backend
import MarketSync.Table

/-!
# A chain in memory

Store, registry and factory as one value, `InMemoryChain`. Slots that were never set read as zero.
The factory refuses a triple that exists, and a write to a reverting key fails without any effect.
Every call is counted: reads and registry pages when they are made, writes and creations when they
succeed.
-/

namespace MarketSync

structure LedgerStats where
  reads : Nat := 0
  writes : Nat := 0
  marketsCreated : Nat := 0
  registryPages : Nat := 0
  deriving DecidableEq, Repr

/-- A chain in memory. -/
structure Ledger where
  uints : Table Bytes32 Uint256
  words : Table Bytes32 Bytes32
  markets : List Listing
  reverting : List Bytes32
  stats : LedgerStats

namespace Ledger

def empty : Ledger := ⟨.empty, .empty, [], [], {}⟩

/-- Sets a number without counting a write. -/
def seedUint (l : Ledger) (key : Bytes32) (value : Uint256) : Ledger :=
  { l with uints := l.uints.insert key value }

def seedBytes32 (l : Ledger) (key value : Bytes32) : Ledger :=
  { l with words := l.words.insert key value }

/-- Looks at a number without counting a read. -/
def peekUint (l : Ledger) (key : Bytes32) : Option Uint256 :=
  l.uints.get? key

def peekBytes32 (l : Ledger) (key : Bytes32) : Option Bytes32 :=
  l.words.get? key

/-- The number of slots of both kinds ever set (`slot_count`). -/
def slotCount (l : Ledger) : Nat :=
  l.uints.size + l.words.size

/-- Every later write to the key fails (`revert_on`). -/
def revertOn (l : Ledger) (key : Bytes32) : Ledger :=
  { l with reverting := key :: l.reverting }

def resetStats (l : Ledger) : Ledger :=
  { l with stats := {} }

/-! ## Calls -/

/-- Reads a number, zero if it was never set. -/
def getUint (key : Bytes32) (l : Ledger) : Except CallError Uint256 × Ledger :=
  (.ok ((l.peekUint key).getD 0), { l with stats.reads := l.stats.reads + 1 })

def getBytes32 (key : Bytes32) (l : Ledger) : Except CallError Bytes32 × Ledger :=
  (.ok ((l.peekBytes32 key).getD 0), { l with stats.reads := l.stats.reads + 1 })

def setUint (key : Bytes32) (value : Uint256) (l : Ledger) : Except CallError Unit × Ledger :=
  if l.reverting.contains key then (.error (.slotReverted .setUint key), l)
  else (.ok (), { l.seedUint key value with stats.writes := l.stats.writes + 1 })

def setBytes32 (key value : Bytes32) (l : Ledger) : Except CallError Unit × Ledger :=
  if l.reverting.contains key then (.error (.slotReverted .setBytes32 key), l)
  else (.ok (), { l.seedBytes32 key value with stats.writes := l.stats.writes + 1 })

/-- The markets at the positions of a range, as far as there are any. -/
def getMarkets (start stop : UInt64) (l : Ledger) : Except CallError (List Listing) × Ledger :=
  (.ok ((l.markets.take stop.toNat).drop start.toNat),
    { l with stats.registryPages := l.stats.registryPages + 1 })

/-- Creates a market at the end of the list. -/
def createMarket (t : Triple) (marketType : Bytes32) (l : Ledger) :
    Except CallError Unit × Ledger :=
  if l.markets.any fun m => m.triple = t then (.error (.marketExists t), l)
  else
    (.ok (), { l with
      markets := l.markets ++ [t.listing marketType]
      stats.marketsCreated := l.stats.marketsCreated + 1 })

def backend : Backend Ledger where
  store := ⟨getUint, getBytes32, setUint, setBytes32⟩
  registry := ⟨getMarkets⟩
  factory := ⟨createMarket⟩

end Ledger

end MarketSync
