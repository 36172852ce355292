import MarketSync.Market.Triple

/-!
# Snapshots of the registry

The registered markets by their triple. Of several listings of one triple the first counts, so a
snapshot holds each triple at most once; `missing` tells which desired triples it lacks. This is
`OnchainMarkets` with `from_markets`, `get`, `contains`, `len` and `missing`.
-/

namespace MarketSync

/-- The listings without those whose triple stands earlier in the list. -/
def firstPerTriple : List Listing → List Listing
  | [] => []
  | m :: ms => m :: (firstPerTriple ms).filter (fun n => n.triple ≠ m.triple)

theorem firstPerTriple_distinct (ms : List Listing) :
    (firstPerTriple ms).Pairwise (fun a b => a.triple ≠ b.triple) := by
  induction ms with
  | nil => exact .nil
  | cons m ms ih =>
    refine .cons (fun n hn => ?_) (ih.filter _)
    have h : n.triple ≠ m.triple := of_decide_eq_true (List.mem_filter.1 hn).2
    exact fun e => h e.symm

/-- The registered markets, one for each triple. -/
structure Snapshot where
  markets : List Listing
  distinct : markets.Pairwise (fun a b => a.triple ≠ b.triple)

namespace Snapshot

/-- The snapshot of a list of listings (`from_markets`); of one triple the first listing counts. -/
def ofListings (ms : List Listing) : Snapshot :=
  ⟨firstPerTriple ms, firstPerTriple_distinct ms⟩

def get? (s : Snapshot) (t : Triple) : Option Listing :=
  s.markets.find? fun m => m.triple = t

def contains (s : Snapshot) (t : Triple) : Bool :=
  (s.get? t).isSome

def size (s : Snapshot) : Nat :=
  s.markets.length

/-- Keeps the first of each triple that is neither in the snapshot nor in `seen`. -/
def missingAfter (s : Snapshot) : (seen : List Triple) → List Triple → List Triple
  | _, [] => []
  | seen, t :: ts =>
    if s.contains t || seen.contains t then missingAfter s seen ts
    else t :: missingAfter s (t :: seen) ts

/-- The desired triples without a market, each once, in the order in which they first appear. -/
def missing (s : Snapshot) (desired : List Triple) : List Triple :=
  s.missingAfter [] desired

end Snapshot

end MarketSync
