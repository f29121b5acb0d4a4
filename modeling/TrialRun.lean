import TrialRun.Cluster.Access
import TrialRun.Json.Printer
import TrialRun.Rehearsal.Condition
import TrialRun.Scenario
import TrialRun.Proofs.Act.Everyday
import TrialRun.Proofs.Polling.Look
import TrialRun.Proofs.Polling.Rounds
import TrialRun.Proofs.Polling.Course
import TrialRun.Proofs.Polling.Timing
import TrialRun.Proofs.Polling.Patience
import TrialRun.Proofs.Polling.Messages
import TrialRun.Proofs.Act.Marks
import TrialRun.Proofs.Act.Objections
import TrialRun.Proofs.Cluster.Requests
import TrialRun.Proofs.Trial.Parts
import TrialRun.Proofs.Dashboard.Addresses
import TrialRun.Proofs.Scenario.Milestones
import TrialRun.Proofs.Scenario.Steps
import TrialRun.Proofs.Scenario.Order
import TrialRun.Proofs.Trial.Faults
import TrialRun.Proofs.Scenario.Ledger
import TrialRun.Proofs.Scenario.Plan
import TrialRun.Proofs.Trial.Steps
import TrialRun.Proofs.Scenario.Release
import TrialRun.Proofs.Scenario.Settled
import TrialRun.Proofs.Json.Objects
import TrialRun.Proofs.Cluster.Failures
import TrialRun.Proofs.Polling.Replies
import TrialRun.Proofs.Trial.Deletion
import TrialRun.Proofs.Trial.Rules
import TrialRun.Proofs.Trial.Deferral
import TrialRun.Proofs.Trial.Guards
import TrialRun.Proofs.Files.Places
import TrialRun.Proofs.Trial.Output
import TrialRun.Proofs.Trial.Conclusion
import TrialRun.Proofs.Trial.Diagnostics
import TrialRun.Proofs.Files.Texts
import TrialRun.Proofs.Trial.LogFiles
import TrialRun.Proofs.Trial.OutputDirectory
import TrialRun.Proofs.Trial.Waiters
import TrialRun.Proofs.Trial.NullLists
import TrialRun.Proofs.Trial.Namespaces
import TrialRun.Proofs.Trial.Reached
import TrialRun.Proofs.Trial.Clearing
import TrialRun.Proofs.Trial.Teardown
import TrialRun.Proofs.Cluster.Registry
import TrialRun.Proofs.Cluster.Store
import TrialRun.Proofs.Cluster.Refinement
import TrialRun.Proofs.Dashboard.Queries
import TrialRun.Proofs.Files.Inward
import TrialRun.Proofs.Trial.JobLogs
import TrialRun.Proofs.Trial.Containment
import TrialRun.Proofs.Trial.DashboardAccess
import TrialRun.Proofs.Scenario.Endings
import TrialRun.Proofs.Scenario.Provenance
import TrialRun.Proofs.Scenario.Tidiness
import TrialRun.Proofs.Scenario.Examined
import TrialRun.Proofs.Secrecy.Blind
import TrialRun.Proofs.Secrecy.Clients
import TrialRun.Proofs.Secrecy.Sessions
import TrialRun.Proofs.Secrecy.Confined
import TrialRun.Proofs.Yaml.Implicit
import TrialRun.Proofs.Yaml.Resolution
import TrialRun.Proofs.Yaml.Reader
import TrialRun.Proofs.Yaml.Scalars
import TrialRun.Proofs.Yaml.Escapes
import TrialRun.Proofs.Yaml.Styles
import TrialRun.Proofs.Yaml.Documents
import TrialRun.Proofs.Yaml.Characters
import TrialRun.Proofs.Workload.RayJob
import TrialRun.Proofs.Workload.Quantities
import TrialRun.Proofs.Workload.Views
import TrialRun.Proofs.Workload.Agreement
import TrialRun.Json.Memory
import TrialRun.Proofs.Json.Memory
import TrialRun.Proofs.Json.Paths
import TrialRun.Proofs.Text.Base64
import TrialRun.Proofs.Cluster.Scripts
import TrialRun.Proofs.Text.Blank
import TrialRun.Proofs.Dashboard.Authorization
import TrialRun.Proofs.Workload.Wrapping
