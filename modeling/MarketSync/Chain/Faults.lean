import MarketSync.Chain.Backend

/-!
# Faults

A backend with chosen faults: slots that cannot be read or written, creations that fail or silently
do nothing (as `RevertingFactory` and `SilentFactory` do), and a registry that fails at one page or
serves a list of its own. Pages and creations are counted from zero; everything without a fault goes
on to the backend.
-/

namespace MarketSync

inductive CreationFault where
  | none
  /-- Every creation succeeds and creates nothing. -/
  | silent
  /-- The creation of this number fails. -/
  | failAt (index : Nat)
  deriving DecidableEq, Repr

/-- A list of markets served in place of the registry, at most `maxPage` at once. -/
structure ServedList where
  markets : List Listing
  maxPage : Option UInt64

structure FaultPlan where
  failingReads : List Bytes32 := []
  failingWrites : List Bytes32 := []
  creation : CreationFault := .none
  served : Option ServedList := none
  failingPage : Option Nat := none

/-- A state together with the numbers of pages and creations asked for. -/
structure Faulty (σ : Type) where
  state : σ
  pages : Nat := 0
  creations : Nat := 0

namespace ServedList

/-- The markets at the positions of a range, as far as a page allows. -/
def page (s : ServedList) (start stop : UInt64) : List Listing :=
  let width := stop.toNat - start.toNat
  let width := match s.maxPage with
    | some most => min width most.toNat
    | none => width
  (s.markets.drop start.toNat).take width

end ServedList

namespace Faulty

variable {σ α : Type}

/-- Makes a call of the backend below. -/
def below (call : σ → Except CallError α × σ) (f : Faulty σ) : Except CallError α × Faulty σ :=
  let (result, state) := call f.state
  (result, { f with state := state })

/-- A read that fails for chosen keys. -/
def read (plan : FaultPlan) (key : Bytes32) (call : σ → Except CallError α × σ) (f : Faulty σ) :
    Except CallError α × Faulty σ :=
  if plan.failingReads.contains key then (.error (.readFailed key), f) else f.below call

/-- A write that fails for chosen keys. -/
def write (plan : FaultPlan) (method : Method) (key : Bytes32)
    (call : σ → Except CallError Unit × σ) (f : Faulty σ) : Except CallError Unit × Faulty σ :=
  if plan.failingWrites.contains key then (.error (.slotReverted method key), f)
  else f.below call

def page (plan : FaultPlan) (r : Registry σ) (start stop : UInt64) (f : Faulty σ) :
    Except CallError (List Listing) × Faulty σ :=
  let counted := { f with pages := f.pages + 1 }
  if plan.failingPage = some f.pages then (.error (.pageFailed f.pages), counted)
  else
    match plan.served with
    | some served => (.ok (served.page start stop), counted)
    | none => counted.below (r.getMarkets start stop)

def create (plan : FaultPlan) (c : Factory σ) (t : Triple) (marketType : Bytes32) (f : Faulty σ) :
    Except CallError Unit × Faulty σ :=
  let counted := { f with creations := f.creations + 1 }
  match plan.creation with
  | .silent => (.ok (), counted)
  | .failAt index =>
    if f.creations = index then (.error (.creationReverted index), counted)
    else counted.below (c.createMarket t marketType)
  | .none => counted.below (c.createMarket t marketType)

end Faulty

def Backend.withFaults {σ : Type} (b : Backend σ) (plan : FaultPlan) : Backend (Faulty σ) where
  store :=
    { getUint := fun key => Faulty.read plan key (b.store.getUint key)
      getBytes32 := fun key => Faulty.read plan key (b.store.getBytes32 key)
      setUint := fun key value => Faulty.write plan .setUint key (b.store.setUint key value)
      setBytes32 := fun key value =>
        Faulty.write plan .setBytes32 key (b.store.setBytes32 key value) }
  registry := { getMarkets := Faulty.page plan b.registry }
  factory := { createMarket := Faulty.create plan b.factory }

end MarketSync
