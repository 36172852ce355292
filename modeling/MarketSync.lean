import MarketSync.Chain.Faults
import MarketSync.Chain.Ledger
import MarketSync.Chain.Recorder
import MarketSync.Main
import MarketSync.Proofs.ExactlyOnce
import MarketSync.Proofs.ReadBack
import MarketSync.Proofs.Recovery
import MarketSync.Proofs.CallSequences
import MarketSync.Proofs.Protocol
import MarketSync.Proofs.Histories
import MarketSync.Proofs.LastDefinition
import MarketSync.Proofs.DryRun
import MarketSync.Proofs.Scheduling
import MarketSync.Proofs.StepOrder
import MarketSync.Proofs.DependencyCycles
import MarketSync.Proofs.PageWalk
import MarketSync.Proofs.EndSteps
import MarketSync.Proofs.Confinement
import MarketSync.Proofs.Reordering
import MarketSync.Proofs.Literals
import MarketSync.Proofs.Refusals
import MarketSync.Proofs.Outcomes
import MarketSync.Proofs.Printing
import MarketSync.Proofs.JsonText
import MarketSync.Proofs.RoundTrip
import MarketSync.Proofs.MissingDependencies
import MarketSync.Proofs.StableOrder
import MarketSync.Proofs.Unresolved
import MarketSync.Proofs.Resolution
import MarketSync.Proofs.MergeOrder
import MarketSync.Proofs.FieldTable
import MarketSync.Proofs.RunAccounts
import MarketSync.Proofs.Spellings
import MarketSync.Proofs.Faithfulness
import MarketSync.Proofs.Placeholders
import MarketSync.Proofs.WireFormat
import MarketSync.Proofs.Snapshots
import MarketSync.Proofs.Scaling
import MarketSync.Proofs.Strictness
