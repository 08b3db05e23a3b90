import ClusterMigration.Text.Base64
import ClusterMigration.Text.Quoted
import ClusterMigration.Decimal.Literal
import ClusterMigration.Decode.Mismatch
import ClusterMigration.Json.Parser
import ClusterMigration.Json.Printer
import ClusterMigration.Yaml.Printer
import ClusterMigration.Report.Page
import ClusterMigration.IdentityProvider.Package
import ClusterMigration.MasterConfig
import ClusterMigration.Toml.Record
import ClusterMigration.Component.All
import ClusterMigration.Migration
import ClusterMigration.Storage.Disk
import ClusterMigration.Main
import ClusterMigration.Proofs.Component.Gather
import ClusterMigration.Proofs.Migration.Calls
import ClusterMigration.Proofs.IdentityProvider.References
import ClusterMigration.Proofs.Component.Isolation
import ClusterMigration.Proofs.Component.Contents
import ClusterMigration.Proofs.IdentityProvider.Batch
import ClusterMigration.Proofs.IdentityProvider.Check
import ClusterMigration.Proofs.Component.AllOrNothing
import ClusterMigration.Proofs.Storage.Path
import ClusterMigration.Proofs.Storage.Disk
import ClusterMigration.Proofs.Storage.Manifests
import ClusterMigration.Proofs.Json.Concealed
import ClusterMigration.Proofs.IdentityProvider.Concealed
import ClusterMigration.Proofs.IdentityProvider.Alike
import ClusterMigration.Proofs.Component.Lockstep
import ClusterMigration.Proofs.Component.Noninterference
import ClusterMigration.Proofs.Component.Outputs
import ClusterMigration.Proofs.Migration.AnyOrder
import ClusterMigration.Proofs.Migration.Script
import ClusterMigration.Proofs.Migration.Reports
import ClusterMigration.Proofs.Storage.Normal
import ClusterMigration.Proofs.Source.Confinement
import ClusterMigration.Proofs.Storage.Tree
import ClusterMigration.Proofs.Storage.Opening
import ClusterMigration.Proofs.Storage.Storing
import ClusterMigration.Proofs.Source.Cache
import ClusterMigration.Proofs.Migration.Rerun
import ClusterMigration.Proofs.IdentityProvider.Overwrites
import ClusterMigration.Proofs.Source.Hosts
import ClusterMigration.Proofs.Storage.Room
import ClusterMigration.Proofs.Source.Transparency
import ClusterMigration.Proofs.Json.Resembles
import ClusterMigration.Proofs.Json.Acceptance
import ClusterMigration.Proofs.Component.Look
import ClusterMigration.Proofs.Decimal.Natural
import ClusterMigration.Proofs.Network.Address
import ClusterMigration.Proofs.Network.Ranges
import ClusterMigration.Proofs.Component.NamedOrigins
import ClusterMigration.Proofs.IdentityProvider.Retained
import ClusterMigration.Proofs.Component.Visits
import ClusterMigration.Proofs.Component.Requests
import ClusterMigration.Proofs.Component.Accounts
import ClusterMigration.Proofs.Component.ProviderRows
import ClusterMigration.Proofs.Component.ProjectRows
import ClusterMigration.Proofs.Component.ClusterNetwork
import ClusterMigration.Proofs.Text.Writing
import ClusterMigration.Proofs.Report.Page
import ClusterMigration.Proofs.Text.Words
import ClusterMigration.Proofs.Settings.Layers
import ClusterMigration.Proofs.Storage.Seats
import ClusterMigration.Proofs.Storage.Session
import ClusterMigration.Proofs.IdentityProvider.Documents
import ClusterMigration.Proofs.Json.NullFree
import ClusterMigration.Proofs.Component.NullMembers
