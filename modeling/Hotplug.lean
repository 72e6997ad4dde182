import Hotplug.Answering
import Hotplug.Api.Backend
import Hotplug.Api.Claim
import Hotplug.Api.Http
import Hotplug.Api.Kind
import Hotplug.Api.Location
import Hotplug.Api.Machine
import Hotplug.Api.Object
import Hotplug.Api.Schema
import Hotplug.Api.Server
import Hotplug.Api.Snapshot
import Hotplug.Api.Volume
import Hotplug.Capability
import Hotplug.Cluster.Memory
import Hotplug.Cluster.Request
import Hotplug.Cluster.Resolve
import Hotplug.Config
import Hotplug.Controller.Decode
import Hotplug.Controller.Message
import Hotplug.Controller.Service
import Hotplug.Controller.Snapshots
import Hotplug.Controller.Volumes
import Hotplug.Digits
import Hotplug.Double.Basic
import Hotplug.Double.Text
import Hotplug.Endpoint
import Hotplug.Error
import Hotplug.Event
import Hotplug.Files.Listing
import Hotplug.Files.Operations
import Hotplug.Files.Path
import Hotplug.Files.Request
import Hotplug.Files.Tree
import Hotplug.Host.Commands
import Hotplug.Host.Device
import Hotplug.Host.Listing
import Hotplug.Host.Memory
import Hotplug.Host.Request
import Hotplug.Identity
import Hotplug.Instance
import Hotplug.Json.Basic
import Hotplug.Json.Parser
import Hotplug.Json.Printer
import Hotplug.Json.Record
import Hotplug.Json.Token
import Hotplug.Labels
import Hotplug.Main
import Hotplug.Metrics.Basic
import Hotplug.Metrics.Exposition
import Hotplug.Network.SocketAddress
import Hotplug.Node.Decode
import Hotplug.Node.Message
import Hotplug.Node.Service
import Hotplug.Options.Basic
import Hotplug.Options.CommandLine
import Hotplug.Policy.Basic
import Hotplug.Policy.Document
import Hotplug.Program
import Hotplug.Quantity
import Hotplug.Startup
import Hotplug.Storage
import Hotplug.Table
import Hotplug.Text.Blank
import Hotplug.Text.Category
import Hotplug.Text.Cut
import Hotplug.Text.Lines
import Hotplug.Text.Quoted
import Hotplug.Text.Utf8
import Hotplug.Timestamp
import Hotplug.Toml.Parser
import Hotplug.Toml.Scalar
import Hotplug.Toml.Tree
import Hotplug.Width
import Hotplug.Wire.Capability
import Hotplug.Wire.Field
import Hotplug.Wire.Message
import Hotplug.Yaml.Cursor
import Hotplug.Yaml.Parser
import Hotplug.Yaml.Scalar
import Hotplug.Proofs.Cluster.Change
import Hotplug.Proofs.Controller.Effect
import Hotplug.Proofs.Cluster.SnapshotClass
import Hotplug.Proofs.Cluster.Memory
import Hotplug.Proofs.Controller.SnapshotPolicy
import Hotplug.Proofs.Controller.Compliance
import Hotplug.Proofs.Controller.Retry
import Hotplug.Proofs.Node.Format
import Hotplug.Proofs.VolumeIdentity
import Hotplug.Proofs.Controller.Race
import Hotplug.Proofs.Independence
import Hotplug.Proofs.Cluster.Numbered
import Hotplug.Proofs.Controller.Isolation
import Hotplug.Proofs.Api.Exchange
import Hotplug.Proofs.Api.Document
import Hotplug.Proofs.Api.Reuse
import Hotplug.Proofs.Quantity
import Hotplug.Proofs.Api.RoundTrip
import Hotplug.Proofs.Api.Plugging
import Hotplug.Proofs.Api.Reconciling
import Hotplug.Proofs.Controller.Paging
import Hotplug.Proofs.NodeIdentity
import Hotplug.Proofs.Api.Deleting
import Hotplug.Proofs.Cluster.Snapshots
import Hotplug.Proofs.Controller.SnapshotLifecycle
import Hotplug.Proofs.Node.Retry
import Hotplug.Proofs.Node.Targets
import Hotplug.Proofs.Controller.Acceptance
import Hotplug.Proofs.Metrics
import Hotplug.Proofs.Controller.Capacity
import Hotplug.Proofs.Double.Rounding
import Hotplug.Proofs.Double.Accuracy
import Hotplug.Proofs.Double.Decimal
import Hotplug.Proofs.Quantity.Written
import Hotplug.Proofs.Quantity.Exact
import Hotplug.Proofs.Quantity.Range
import Hotplug.Proofs.Cluster.Catalogue
import Hotplug.Proofs.Cluster.Enforcement
import Hotplug.Proofs.Policy.SnapshotRestriction
import Hotplug.Proofs.Node.Mounting
import Hotplug.Proofs.Node.Refusal
import Hotplug.Proofs.Node.Usage
import Hotplug.Proofs.Labels
import Hotplug.Proofs.Controller.SnapshotTimes
import Hotplug.Proofs.Host.Lookup
import Hotplug.Proofs.Policy.Document
