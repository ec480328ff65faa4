import AzureCtp.Library.Claims
import AzureCtp.Library.Document
import AzureCtp.Library.Election
import AzureCtp.Library.Joined
import AzureCtp.Library.Records
import AzureCtp.Library.Regex
import AzureCtp.Library.Removal
import AzureCtp.Library.Scripts
import AzureCtp.Library.Staging
import AzureCtp.Model.Resource
import AzureCtp.Model.Request
import AzureCtp.Model.Prelude
import AzureCtp.Model.Definition
import AzureCtp.Model.Infrastructure
import AzureCtp.Model.Addons
import AzureCtp.Model.Backup
import AzureCtp.Model.Usages
import AzureCtp.Model.Status
import AzureCtp.Model.Compose
import AzureCtp.Model.Desired
import AzureCtp.Model.Provision
import AzureCtp.Model.Workflow
import AzureCtp.Components
import AzureCtp.Names
import AzureCtp.K8gb.Peers
import AzureCtp.K8gb.Mesh
import AzureCtp.K8gb.Names
import AzureCtp.K8gb.Delegation
import AzureCtp.License.Guard
import AzureCtp.License.Claim
import AzureCtp.License.Cluster
import AzureCtp.License.Retention
import AzureCtp.License.Representations
import AzureCtp.License.Turns
import AzureCtp.License.Handover
import AzureCtp.License.Shared
import AzureCtp.License.Upgrade
import AzureCtp.License.Stale
import AzureCtp.Policies
import AzureCtp.Features
import AzureCtp.Regression
import AzureCtp.Progress
import AzureCtp.Releases
import AzureCtp.Bootstrap
import AzureCtp.Provision
import AzureCtp.Workflow
import AzureCtp.Readiness
import AzureCtp.Reporting
import AzureCtp.Deletion.Guards
import AzureCtp.Deletion.Order
import AzureCtp.Deletion.Teardown
import AzureCtp.Backup.Location
import AzureCtp.References
import AzureCtp.Backup.Rollout
import AzureCtp.Backup.Restore
import AzureCtp.Backup.Survival
import AzureCtp.Backup.InstallFrom
import AzureCtp.Invariance.Clock
import AzureCtp.Invariance.Peers
import AzureCtp.Invariance.Namespace
import AzureCtp.Invariance.Features
import AzureCtp.Invariance.Additions
import AzureCtp.Invariance.Newcomers
import AzureCtp.Invariance.Reads
import AzureCtp.Invariance.Defaults
import AzureCtp.Invariance.Modes
import AzureCtp.Invariance.Statuses
import AzureCtp.Pipeline
import AzureCtp.Stabilization
import AzureCtp.Adoption
import AzureCtp.Fleet
import AzureCtp.License.Waits
import AzureCtp.Documented.Open
import AzureCtp.Documented.Effect
import AzureCtp.Documented.Reach
