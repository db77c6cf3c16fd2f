import FederationRegistry.Dict
import FederationRegistry.Text.Blank
import FederationRegistry.Text.Quoted
import FederationRegistry.Decimal.Shortest
import FederationRegistry.Json.Decode
import FederationRegistry.Json.Printer
import FederationRegistry.Property
import FederationRegistry.Reference
import FederationRegistry.ModelError
import FederationRegistry.Metadata
import FederationRegistry.Authentication
import FederationRegistry.Provisioning
import FederationRegistry.IdentityProvider
import FederationRegistry.ServiceProvider.Basic
import FederationRegistry.ServiceProvider.Codec
import FederationRegistry.Form
import FederationRegistry.Store.Memory
import FederationRegistry.Service
import FederationRegistry.Store.Relational
import FederationRegistry.Store.Relational.Cells
import FederationRegistry.Store.Relational.Connections
import FederationRegistry.Settings.Value
import FederationRegistry.Settings.Path
import FederationRegistry.Settings.Store
import FederationRegistry.Toml.Scan
import FederationRegistry.Toml.Document
import FederationRegistry.Settings
import FederationRegistry.Proofs.Dict
import FederationRegistry.Proofs.Json.ReadBack
import FederationRegistry.Proofs.Json.Distinct
import FederationRegistry.Proofs.Construction
import FederationRegistry.Proofs.PropertyText
import FederationRegistry.Proofs.Memory
import FederationRegistry.Proofs.ServiceProvider.ReadBack
import FederationRegistry.Proofs.Relational.Rows
import FederationRegistry.Proofs.Relational.Transaction
import FederationRegistry.Proofs.Relational.Answer
import FederationRegistry.Proofs.Relational.Load
import FederationRegistry.Proofs.Relational.RoundTrip
import FederationRegistry.Proofs.Relational.Sections
import FederationRegistry.Proofs.Relational.MirrorReads
import FederationRegistry.Proofs.Transcript
import FederationRegistry.Proofs.Service.Reopening
import FederationRegistry.Proofs.Json.Depth
import FederationRegistry.Proofs.Relational.Loaded
import FederationRegistry.Proofs.Relational.Failure
import FederationRegistry.Proofs.Relational.Legible
import FederationRegistry.Proofs.Relational.Untrusted
import FederationRegistry.Proofs.Relational.Accounted
import FederationRegistry.Proofs.Relational.Lookup
import FederationRegistry.Proofs.Relational.Comparison
import FederationRegistry.Proofs.Service.Failure
import FederationRegistry.Proofs.Service.Interleaving
import FederationRegistry.Proofs.Service.ReadBack
import FederationRegistry.Proofs.Service.Serializability
import FederationRegistry.Proofs.Service.Disjoint
import FederationRegistry.Proofs.Service.Observation
import FederationRegistry.Proofs.Service.Addressing
import FederationRegistry.Proofs.Relational.Numbering
import FederationRegistry.Proofs.Relational.Integrity
import FederationRegistry.Proofs.ServiceProvider.Omission
import FederationRegistry.Proofs.Relational.Applications
import FederationRegistry.Proofs.History
import FederationRegistry.Proofs.Relational.Resemblance
import FederationRegistry.Proofs.Listing
import FederationRegistry.Proofs.Variants
import FederationRegistry.Proofs.Relational.Columns
import FederationRegistry.Proofs.Relational.Constraints
import FederationRegistry.Proofs.Rules
import FederationRegistry.Proofs.ServiceProvider.Validity
import FederationRegistry.Proofs.Drafts.Validity
import FederationRegistry.Proofs.Drafts.Exchange
import FederationRegistry.Proofs.Relational.NestingLimit
import FederationRegistry.Proofs.Relational.Merging
import FederationRegistry.Proofs.Settings.Acceptance
import FederationRegistry.Proofs.Settings.PathLimits
import FederationRegistry.Proofs.Relational.SchemaVersion
