import MarketSync.Chain.Backend
import MarketSync.Market.Snapshot

/-!
# Enumerating the registry

The whole registry is read page by page (`fetch_onchain_markets`), each page asking for the same
number of markets, until a page holds fewer. Positions are numbers of 64 bits; a page that would end
beyond them is never asked for, which also bounds the number of pages.
-/

namespace MarketSync

inductive EnumerationError where
  | pageSizeZero
  | positionOverflow
  | call (e : CallError)
  deriving DecidableEq

def EnumerationError.message : EnumerationError → String
  | .pageSizeZero => "market page size must be positive"
  | .positionOverflow => "a registry page ends beyond the last position"
  | .call e => e.message

variable {σ : Type}

/-- The markets from a position on. -/
def enumerateFrom (r : Registry σ) (size : UInt64) (positive : 0 < size.toNat) (start : UInt64)
    (s : σ) : Except EnumerationError (List Listing) × σ :=
  if _h : start.toNat + size.toNat < UInt64.size then
    match r.getMarkets start (start + size) s with
    | (.error e, s) => (.error (.call e), s)
    | (.ok page, s) =>
      if page.length < size.toNat then (.ok page, s)
      else
        match enumerateFrom r size positive (start + size) s with
        | (.error e, s) => (.error e, s)
        | (.ok rest, s) => (.ok (page ++ rest), s)
  else (.error .positionOverflow, s)
termination_by UInt64.size - start.toNat
decreasing_by
  rw [UInt64.toNat_add, Nat.mod_eq_of_lt _h]
  omega

/-- All registered markets in their order. -/
def enumerate (r : Registry σ) (size : UInt64) (s : σ) :
    Except EnumerationError (List Listing) × σ :=
  if h : size.toNat = 0 then (.error .pageSizeZero, s)
  else enumerateFrom r size (Nat.pos_of_ne_zero h) 0 s

/-- The snapshot of the registry, `fetch_onchain_markets` as a whole. -/
def takeSnapshot (r : Registry σ) (size : UInt64) (s : σ) :
    Except EnumerationError Snapshot × σ :=
  match enumerate r size s with
  | (.error e, s) => (.error e, s)
  | (.ok ms, s) => (.ok (.ofListings ms), s)

end MarketSync
