import ProviderRegistry.Main
import ProviderRegistry.Proofs.Migration.Recovery
import ProviderRegistry.Proofs.Admin.Edit
import ProviderRegistry.Proofs.Admin.Probe
import ProviderRegistry.Proofs.Cache.Coherence
import ProviderRegistry.Proofs.Cache.Interleaving
import ProviderRegistry.Proofs.Admin.Failure
import ProviderRegistry.Proofs.Resolution.Limits
import ProviderRegistry.Proofs.Resolution.Malformed
import ProviderRegistry.Proofs.Bson.Decode
import ProviderRegistry.Proofs.Record.Simplified
import ProviderRegistry.Proofs.Store.Endings
import ProviderRegistry.Proofs.Migration.Destination
import ProviderRegistry.Proofs.Admin.Ledger
import ProviderRegistry.Proofs.Admin.Refinement
import ProviderRegistry.Proofs.Resolution.Stored
import ProviderRegistry.Proofs.Secrecy.Documents
import ProviderRegistry.Proofs.Secrecy.Runs
import ProviderRegistry.Proofs.Secrecy.Sessions
import ProviderRegistry.Proofs.Store.Supply
import ProviderRegistry.Proofs.Migration.Rebuild
import ProviderRegistry.Proofs.Migration.Failure
import ProviderRegistry.Proofs.Migration.Restart
import ProviderRegistry.Proofs.Migration.Contents
import ProviderRegistry.Proofs.Migration.Report
import ProviderRegistry.Proofs.Record.Provider
import ProviderRegistry.Proofs.Record.RoundTrip
import ProviderRegistry.Proofs.Migration.Reproducible
import ProviderRegistry.Proofs.Cache.Frozen
import ProviderRegistry.Proofs.Session.Order
import ProviderRegistry.Proofs.Resolution.Models
import ProviderRegistry.Proofs.Record.Arrangement
import ProviderRegistry.Proofs.Record.NumberKinds
import ProviderRegistry.Proofs.Record.Blanks
import ProviderRegistry.Proofs.Migration.Inheritance
import ProviderRegistry.Proofs.Connection
import ProviderRegistry.Proofs.Execution.Projection
import ProviderRegistry.Proofs.Store.Operations
import ProviderRegistry.Proofs.Migration.Lookup
import ProviderRegistry.Proofs.Resolution.ByProvider
import ProviderRegistry.Proofs.Secrecy.Masks
import ProviderRegistry.Proofs.CommandLine.Outcome
import ProviderRegistry.Proofs.CommandLine.Table
