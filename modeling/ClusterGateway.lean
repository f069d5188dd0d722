import ClusterGateway.Gateway.Pool
import ClusterGateway.Http.Serve
import ClusterGateway.Main
import ClusterGateway.Resource.Kinds
import ClusterGateway.Simulated.Fleet
import ClusterGateway.Proofs.Client.Segment
import ClusterGateway.Proofs.Config.ContextIds
import ClusterGateway.Proofs.Context.History
import ClusterGateway.Proofs.Context.Ledger
import ClusterGateway.Proofs.Gateway.Alone
import ClusterGateway.Proofs.Gateway.Delivery
import ClusterGateway.Proofs.Gateway.Eviction
import ClusterGateway.Proofs.Gateway.Indifference
import ClusterGateway.Proofs.Gateway.Interleaving
import ClusterGateway.Proofs.Gateway.Listing
import ClusterGateway.Proofs.Gateway.Origin
import ClusterGateway.Proofs.Gateway.Outgoing
import ClusterGateway.Proofs.Gateway.SingleFlight
import ClusterGateway.Proofs.Gateway.Stages
import ClusterGateway.Proofs.Gateway.Storage
import ClusterGateway.Proofs.Gateway.Turn
import ClusterGateway.Proofs.Operation.Accepted
import ClusterGateway.Proofs.Operation.Address
import ClusterGateway.Proofs.Operation.Addressed
import ClusterGateway.Proofs.Operation.Checked
import ClusterGateway.Proofs.Operation.Manifest
import ClusterGateway.Proofs.Operation.Plan
import ClusterGateway.Proofs.Operation.Shown
import ClusterGateway.Proofs.Operation.Unplaced
import ClusterGateway.Proofs.Operation.Written
import ClusterGateway.Proofs.Resource.Naming
import ClusterGateway.Proofs.Gateway.Construction
import ClusterGateway.Proofs.Gateway.Ownership
import ClusterGateway.Proofs.Gateway.Freshness
import ClusterGateway.Proofs.Gateway.Recovery
import ClusterGateway.Proofs.Gateway.Sharing
import ClusterGateway.Proofs.Gateway.Invalidation
import ClusterGateway.Proofs.Json.RoundTrip
import ClusterGateway.Proofs.Text.Utf8
import ClusterGateway.Proofs.Token.Base64Url
import ClusterGateway.Proofs.Token.Accepted
import ClusterGateway.Proofs.Token.Issued
import ClusterGateway.Proofs.Http.Credentials
import ClusterGateway.Proofs.Gateway.Completion
import ClusterGateway.Proofs.Gateway.Worlds
import ClusterGateway.Proofs.Gateway.Versions
import ClusterGateway.Proofs.Gateway.Updates
import ClusterGateway.Proofs.Gateway.Lateness
import ClusterGateway.Proofs.Gateway.Footprint
import ClusterGateway.Proofs.Http.Operations
import ClusterGateway.Proofs.Gateway.Twin
import ClusterGateway.Proofs.Gateway.Apart
import ClusterGateway.Proofs.Json.Encoding
import ClusterGateway.Proofs.Access.Gate
import ClusterGateway.Proofs.Operation.Prepared
import ClusterGateway.Proofs.Operation.Contents
import ClusterGateway.Proofs.Operation.Label
import ClusterGateway.Proofs.Gateway.Contents
import ClusterGateway.Proofs.Client.Answers
import ClusterGateway.Proofs.Describe.Arguments
import ClusterGateway.Proofs.Resource.Served
import ClusterGateway.Proofs.Config.Starting
import ClusterGateway.Proofs.Config.Overrides
