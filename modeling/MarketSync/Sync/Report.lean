import MarketSync.Config.Codec
import MarketSync.Sync.Writer

/-!
# Reports

What a run did, or what a dry run would have done.
-/

namespace MarketSync

open Document

/-- The outcome of a run. -/
structure Report where
  /-- No markets were configured. -/
  skipped : Bool := false
  marketsExisting : Nat := 0
  marketsCreated : List Triple := []
  /-- What a dry run would have created. -/
  marketsPlanned : List Triple := []
  marketsSynced : Nat := 0
  writer : WriterStats := {}
  /-- What a dry run would have written. -/
  pendingWrites : List Entry := []

/-- The report of a run without configured markets (`skipped`). -/
def Report.skip : Report := { skipped := true }

/-- Whether the run found everything as it should be (`is_converged`). -/
def Report.converged (r : Report) : Bool :=
  r.marketsCreated.isEmpty && r.marketsPlanned.isEmpty && r.writer.writes == 0

def Triple.encode (t : Triple) : Value :=
  .record [("index_token", .text t.indexToken.lowerText),
    ("long_token", .text t.longToken.lowerText), ("short_token", .text t.shortToken.lowerText)]

/-- The value of a slot as a record that names its kind. -/
def SlotValue.encode : SlotValue → Value
  | .uint n => .record [("Uint", .text n.quantity)]
  | .bytes32 w => .record [("Bytes32", .text w.text)]

def Entry.encode (e : Entry) : Value :=
  .record [("key", .text e.key.text), ("value", e.value.encode), ("label", .text e.label)]

def WriterStats.encode (s : WriterStats) : Value :=
  .record [("reads", .whole s.reads), ("writes", .whole s.writes),
    ("unchanged", .whole s.unchanged)]

def Report.encode (r : Report) : Value :=
  .record [("skipped", .flag r.skipped), ("markets_existing", .whole r.marketsExisting),
    ("markets_created", .list (r.marketsCreated.map Triple.encode)),
    ("markets_planned", .list (r.marketsPlanned.map Triple.encode)),
    ("markets_synced", .whole r.marketsSynced), ("writer", r.writer.encode),
    ("pending_writes", .list (r.pendingWrites.map Entry.encode))]

end MarketSync
