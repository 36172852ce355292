import MarketSync.Chain.Enumeration
import MarketSync.Sync.Entry
import MarketSync.Sync.Report

/-!
# A provisioning run

A run (`provision`) resolves every definition, enumerates the registry, creates the markets that are
missing, enumerates again if it created any, and then makes every slot hold its configured value.
Calls are made one after another and the first failure ends the run. Nothing is asked of the outside
before all definitions are resolved, and no slot is touched before every market is found.
-/

namespace MarketSync

inductive ProvisionError where
  | resolve (e : ResolveError)
  | enumeration (e : EnumerationError)
  | call (e : CallError)
  /-- A market is not registered after the creations. -/
  | marketNotResolved (t : Triple)
  deriving DecidableEq

def ProvisionError.message : ProvisionError → String
  | .resolve e => e.message
  | .enumeration e => e.message
  | .call e => e.message
  | .marketNotResolved t =>
    "market " ++ t.text ++ " is not resolved on-chain after the creation phase"

structure RunOptions where
  pageSize : UInt64 := 1000
  mode : WriteMode := .apply

variable {σ : Type}

/-! ## Creation -/

/-- The type with which a triple is created: that of its first definition. -/
def creationType (resolved : List Resolved) (t : Triple) : Bytes32 :=
  match resolved.find? fun r => r.triple = t with
  | some r => r.definition.typeHash
  | none => 0

def countTriples (ts : List Triple) : Nat :=
  ts.eraseDups.length

/-- Creates markets one after another, up to the first failure. -/
def createAll (factory : Factory σ) (typeOf : Triple → Bytes32) :
    List Triple → σ → Except CallError Unit × σ
  | [], s => (.ok (), s)
  | t :: ts, s =>
    match factory.createMarket t (typeOf t) s with
    | (.error e, s) => (.error e, s)
    | (.ok (), s) => createAll factory typeOf ts s

/-- The snapshot with which fields are written (`create_missing_markets`): after creations a fresh
one, and without any the one there is. A dry run creates nothing. -/
def createMissing (b : Backend σ) (o : RunOptions) (typeOf : Triple → Bytes32)
    (missing : List Triple) (found : Snapshot) (s : σ) : Except ProvisionError Snapshot × σ :=
  match o.mode, missing with
  | .dryRun, _ => (.ok found, s)
  | .apply, [] => (.ok found, s)
  | .apply, missing =>
    match createAll b.factory typeOf missing s with
    | (.error e, s) => (.error (.call e), s)
    | (.ok (), s) =>
      match takeSnapshot b.registry o.pageSize s with
      | (.error e, s) => (.error (.enumeration e), s)
      | (.ok snapshot, s) => (.ok snapshot, s)

/-! ## Entries of all markets -/

structure MarketGroup where
  triple : Triple
  entries : List Entry

/-- Merges the entries of one more definition into the group of its market; a market without a group
gets one at the end. -/
def addToGroup (t : Triple) (entries : List Entry) : List MarketGroup → List MarketGroup
  | [] => [⟨t, entries⟩]
  | g :: gs =>
    if g.triple = t then ⟨t, mergeEntries g.entries entries⟩ :: gs
    else g :: addToGroup t entries gs

/-- Collects the entries of definitions whose markets are registered. A market that is only planned
is passed over; one that is neither ends the run. -/
def collectGroups (general : GeneralSection) (snapshot : Snapshot) (planned : List Triple) :
    List Resolved → List MarketGroup → Except ProvisionError (List MarketGroup)
  | [], groups => .ok groups
  | r :: rs, groups =>
    match snapshot.get? r.triple with
    | some m =>
      collectGroups general snapshot planned rs
        (addToGroup r.triple (marketEntries r.definition m general) groups)
    | none =>
      if planned.contains r.triple then collectGroups general snapshot planned rs groups
      else .error (.marketNotResolved r.triple)

/-! ## The run -/

/-- What is reported of a run before any slot is touched. -/
def Report.started (o : RunOptions) (triples missing : List Triple) : Report where
  marketsExisting := countTriples triples - missing.length
  marketsCreated := if o.mode = .apply then missing else []
  marketsPlanned := if o.mode = .dryRun then missing else []

/-- Writes the collected entries and reports. -/
def writeGroups (b : Backend σ) (o : RunOptions) (report : Report) (groups : List MarketGroup)
    (s : σ) : Except ProvisionError Report × σ :=
  match Writer.writeAll b.store { mode := o.mode } (groups.flatMap (·.entries)) s with
  | (.error e, _, s) => (.error (.call e), s)
  | (.ok (), w, s) =>
    (.ok { report with
      marketsSynced := groups.length
      writer := w.stats
      pendingWrites := w.pending }, s)

/-- The run for resolved definitions. -/
def provisionResolved (b : Backend σ) (o : RunOptions) (general : GeneralSection)
    (resolved : List Resolved) (s : σ) : Except ProvisionError Report × σ :=
  let triples := resolved.map (·.triple)
  match takeSnapshot b.registry o.pageSize s with
  | (.error e, s) => (.error (.enumeration e), s)
  | (.ok found, s) =>
    let missing := found.missing triples
    match createMissing b o (creationType resolved) missing found s with
    | (.error e, s) => (.error e, s)
    | (.ok snapshot, s) =>
      let report := Report.started o triples missing
      match collectGroups general snapshot report.marketsPlanned resolved [] with
      | .error e => (.error e, s)
      | .ok groups => writeGroups b o report groups s

/-- A provisioning run (`provision`), which `should_skip` leaves out where no markets are
configured. -/
def provision (b : Backend σ) (o : RunOptions) (c : Config) (s : σ) :
    Except ProvisionError Report × σ :=
  if c.markets.isEmpty then (.ok .skip, s)
  else
    match resolveAll c.tokens c.markets with
    | .error e => (.error (.resolve e), s)
    | .ok resolved => provisionResolved b o c.general resolved s

end MarketSync
