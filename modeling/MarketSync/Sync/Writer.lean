import MarketSync.Chain.Backend
import MarketSync.Sync.Entry

/-!
# Writing entries

The writer reads a slot and writes it only where it differs from the entry. In a dry run it notes
the entry instead of writing it. The store alone tells what a slot holds; nothing is remembered
between entries but counts and noted entries. `Writer.write` is `apply` of a `ConfigWriter`, which
goes on to `set_uint_if_different` or `set_bytes32_if_different`; the two differ in nothing but the
kind of the value.
-/

namespace MarketSync

/-- Whether entries are written or only noted. -/
inductive WriteMode where
  | apply
  | dryRun
  deriving DecidableEq, Repr

/-- How many slots were read, written (or noted), and found as they should be. -/
structure WriterStats where
  reads : Nat := 0
  writes : Nat := 0
  unchanged : Nat := 0
  deriving DecidableEq, Repr

/-- A writer: its mode, its counts, and the entries noted in a dry run. -/
structure Writer where
  mode : WriteMode
  stats : WriterStats := {}
  pending : List Entry := []
  deriving DecidableEq

variable {σ : Type}

/-- The present value of the slot that an entry is for, in the entry's kind. -/
def Store.present (store : Store σ) (e : Entry) (s : σ) : Except CallError SlotValue × σ :=
  match e.value with
  | .uint _ =>
    match store.getUint e.key s with
    | (result, s) => (result.map .uint, s)
  | .bytes32 _ =>
    match store.getBytes32 e.key s with
    | (result, s) => (result.map .bytes32, s)

def Store.put (store : Store σ) (e : Entry) (s : σ) : Except CallError Unit × σ :=
  match e.value with
  | .uint n => store.setUint e.key n s
  | .bytes32 w => store.setBytes32 e.key w s

namespace Writer

def countRead (w : Writer) : Writer :=
  { w with stats.reads := w.stats.reads + 1 }

def countUnchanged (w : Writer) : Writer :=
  { w with stats.unchanged := w.stats.unchanged + 1 }

def countWrite (w : Writer) : Writer :=
  { w with stats.writes := w.stats.writes + 1 }

def note (w : Writer) (e : Entry) : Writer :=
  { w with pending := w.pending ++ [e] }

/-- Makes the slot of an entry hold its value. Tells whether that took a write, or would have taken
one in a dry run. -/
def write (store : Store σ) (w : Writer) (e : Entry) (s : σ) :
    Except CallError Bool × Writer × σ :=
  let w := w.countRead
  match store.present e s with
  | (.error err, s) => (.error err, w, s)
  | (.ok present, s) =>
    if present = e.value then (.ok false, w.countUnchanged, s)
    else
      match w.mode with
      | .dryRun => (.ok true, (w.note e).countWrite, s)
      | .apply =>
        match store.put e s with
        | (.error err, s) => (.error err, w, s)
        | (.ok (), s) => (.ok true, w.countWrite, s)

/-- Writes entries one after another, up to the first failure. -/
def writeAll (store : Store σ) (w : Writer) : List Entry → σ → Except CallError Unit × Writer × σ
  | [], s => (.ok (), w, s)
  | e :: es, s =>
    match write store w e s with
    | (.error err, w, s) => (.error err, w, s)
    | (.ok _, w, s) => writeAll store w es s

end Writer

end MarketSync
