import IngressBalancer.Blueprint.Build
import IngressBalancer.Cluster.Cache
import IngressBalancer.Cluster.Format
import IngressBalancer.Cluster.Objects
import IngressBalancer.Cluster.View
import IngressBalancer.Cluster.Write
import IngressBalancer.CommandLine.Command
import IngressBalancer.CommandLine.SettingsFlags
import IngressBalancer.CommandLine.SocketAddress
import IngressBalancer.Controller.Pass
import IngressBalancer.Controller.Resync
import IngressBalancer.Controller.Snapshot
import IngressBalancer.Controller.Status
import IngressBalancer.Data.SortedMap
import IngressBalancer.Decimal.Digits
import IngressBalancer.Digest.Sha256
import IngressBalancer.Failure
import IngressBalancer.Health.ApiProbe
import IngressBalancer.Health.Endpoint
import IngressBalancer.Health.HttpProbe
import IngressBalancer.Health.Monitor
import IngressBalancer.Json.Canonical
import IngressBalancer.Json.Printer
import IngressBalancer.Json.Reader
import IngressBalancer.Json.Record
import IngressBalancer.Main
import IngressBalancer.Metrics.Exposition
import IngressBalancer.Program.Execute
import IngressBalancer.Provider.Reconcile
import IngressBalancer.Registry
import IngressBalancer.Resource.Format
import IngressBalancer.Rest.Router
import IngressBalancer.Retry.Book
import IngressBalancer.Settings.Basic
import IngressBalancer.Text.Blank
import IngressBalancer.Text.Fields
import IngressBalancer.Text.Quoted
import IngressBalancer.Time.SpanText
import IngressBalancer.World.Lock
import IngressBalancer.World.Operator
import IngressBalancer.World.Rig
import IngressBalancer.World.Sample
import IngressBalancer.World.Schedule
import IngressBalancer.World.Watchdog
import IngressBalancer.World.Watching
import IngressBalancer.Proofs.Data.Keys
import IngressBalancer.Proofs.Data.Likes
import IngressBalancer.Proofs.Data.Results
import IngressBalancer.Proofs.Data.SortedMap
import IngressBalancer.Proofs.Registry.Contents
import IngressBalancer.Proofs.Controller.Declarations
import IngressBalancer.Proofs.Controller.Departure
import IngressBalancer.Proofs.Registry.Counts
import IngressBalancer.Proofs.Controller.Landing
import IngressBalancer.Proofs.Controller.Committed
import IngressBalancer.Proofs.World.Lock
import IngressBalancer.Proofs.World.Surroundings
import IngressBalancer.Proofs.World.Attempts
import IngressBalancer.Proofs.World.Situation
import IngressBalancer.Proofs.World.Order
import IngressBalancer.Proofs.World.Turns
import IngressBalancer.Proofs.World.Removals
import IngressBalancer.Proofs.World.Readers
import IngressBalancer.Proofs.Provider.Inventory
import IngressBalancer.Proofs.Provider.Changes
import IngressBalancer.Proofs.Controller.Handles
import IngressBalancer.Proofs.World.Faithful
import IngressBalancer.Proofs.World.Tracking
import IngressBalancer.Proofs.World.Agreement
import IngressBalancer.Proofs.World.Convergence
import IngressBalancer.Proofs.Retry.Streak
import IngressBalancer.Proofs.Controller.Records
import IngressBalancer.Proofs.Controller.Strain
import IngressBalancer.Proofs.Controller.Undeclared
import IngressBalancer.Proofs.World.Accounts
import IngressBalancer.Proofs.World.Retries
import IngressBalancer.Proofs.World.Teardown
import IngressBalancer.Proofs.Provider.Addresses
import IngressBalancer.Proofs.Controller.Quiescence
import IngressBalancer.Proofs.World.Troubles
import IngressBalancer.Proofs.World.Undisturbed
import IngressBalancer.Proofs.World.Idempotence
import IngressBalancer.Proofs.Controller.Requests
import IngressBalancer.Proofs.Provider.Names
import IngressBalancer.Proofs.World.Courses
import IngressBalancer.Proofs.World.Unfolding
import IngressBalancer.Proofs.World.Endings
import IngressBalancer.Proofs.World.Isolation
import IngressBalancer.Proofs.World.Permission
import IngressBalancer.Proofs.World.Clusters
import IngressBalancer.Proofs.Controller.Lots
import IngressBalancer.Proofs.Controller.Listing
import IngressBalancer.Proofs.Controller.Held
import IngressBalancer.Proofs.Controller.Adoption
import IngressBalancer.Proofs.Provider.Claims
import IngressBalancer.Proofs.World.Balance
import IngressBalancer.Proofs.World.Relisting
import IngressBalancer.Proofs.World.Provisions
import IngressBalancer.Proofs.World.Holding
import IngressBalancer.Proofs.World.Adoption
import IngressBalancer.Proofs.Metrics.Readings
import IngressBalancer.Proofs.World.Measures
import IngressBalancer.Proofs.World.Traces
import IngressBalancer.Proofs.World.Roles
import IngressBalancer.Proofs.World.Wakings
import IngressBalancer.Proofs.World.Publishing
import IngressBalancer.Proofs.World.Waiting
import IngressBalancer.Proofs.World.Cadence
import IngressBalancer.Proofs.Provider.Contract
import IngressBalancer.Proofs.Provider.Creation
import IngressBalancer.Proofs.Text.Digits
import IngressBalancer.Proofs.Json.Tokens
import IngressBalancer.Proofs.Json.RoundTrip
import IngressBalancer.Proofs.Json.Forms
import IngressBalancer.Proofs.Json.Carried
import IngressBalancer.Proofs.Resource.Format
import IngressBalancer.Proofs.World.Deadlines
import IngressBalancer.Proofs.Retry.History
import IngressBalancer.Proofs.Blueprint.Destinations
import IngressBalancer.Proofs.Blueprint.Links
import IngressBalancer.Proofs.Blueprint.NodePorts
import IngressBalancer.Proofs.Text.Blank
import IngressBalancer.Proofs.Annotations.Values
import IngressBalancer.Proofs.Annotations.Settings
import IngressBalancer.Proofs.Blueprint.Validity
import IngressBalancer.Proofs.Annotations.ListenPorts
import IngressBalancer.Proofs.Blueprint.Listeners
import IngressBalancer.Proofs.Time.SpanText
import IngressBalancer.Proofs.Settings.Stems
import IngressBalancer.Proofs.Settings.Acceptance
import IngressBalancer.Proofs.Blueprint.Names
import IngressBalancer.Proofs.Health.Round
import IngressBalancer.Proofs.Health.Reports
import IngressBalancer.Proofs.World.Probing
import IngressBalancer.Proofs.Retry.Delays
import IngressBalancer.Proofs.Controller.Consistency
import IngressBalancer.Proofs.Text.Separators
import IngressBalancer.Proofs.Provider.Identity
import IngressBalancer.Proofs.Controller.Targets
