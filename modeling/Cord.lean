import Cord.Asset.Impl.Basic
import Cord.Asset.Impl.Calls
import Cord.Asset.Lemmas.Bookkeeping
import Cord.Asset.Lemmas.Calls
import Cord.Asset.Lemmas.Issuance
import Cord.Asset.Lemmas.Ownership
import Cord.Authorities.Impl.Basic
import Cord.Authorities.Impl.Calls
import Cord.Authorities.Lemmas.Calls
import Cord.Authorities.Lemmas.Eligibility
import Cord.Authorities.Lemmas.Integrity
import Cord.Authorities.Lemmas.Minimum
import Cord.Authorities.Lemmas.Requests
import Cord.ChainSpace.Impl.Basic
import Cord.ChainSpace.Impl.Calls
import Cord.ChainSpace.Impl.Checked
import Cord.ChainSpace.Impl.Client
import Cord.ChainSpace.Impl.Usage
import Cord.ChainSpace.Lemmas.Archived
import Cord.ChainSpace.Lemmas.Basic
import Cord.ChainSpace.Lemmas.Calls
import Cord.ChainSpace.Lemmas.Capacity
import Cord.ChainSpace.Lemmas.Client
import Cord.ChainSpace.Lemmas.Delegates
import Cord.ChainSpace.Lemmas.Exact
import Cord.ChainSpace.Lemmas.Forest
import Cord.ChainSpace.Lemmas.Isolation
import Cord.ChainSpace.Lemmas.Limits
import Cord.ChainSpace.Lemmas.Metering
import Cord.ChainSpace.Lemmas.Permissions
import Cord.ChainSpace.Lemmas.Provenance
import Cord.ChainSpace.Lemmas.Reserve
import Cord.ChainSpace.Lemmas.Revocation
import Cord.ChainSpace.Lemmas.Steps
import Cord.ChainSpace.Lemmas.Trail
import Cord.ChainSpace.Lemmas.Transactions
import Cord.CollectiveMembership.Impl
import Cord.CollectiveMembership.Lemmas.Order
import Cord.CollectiveMembership.Lemmas.Signals
import Cord.CollectiveMembership.Receiver
import Cord.Did.Impl.Basic
import Cord.Did.Impl.Calls
import Cord.Did.Impl.Keys
import Cord.Did.Impl.Runtime
import Cord.Did.Impl.TryState
import Cord.Did.Lemmas.Authority
import Cord.Did.Lemmas.Calls
import Cord.Did.Lemmas.Control
import Cord.Did.Lemmas.Deletion
import Cord.Did.Lemmas.Dispatch
import Cord.Did.Lemmas.Endpoints
import Cord.Did.Lemmas.KeySet
import Cord.Did.Lemmas.Keys
import Cord.Did.Lemmas.Lifecycle
import Cord.Did.Lemmas.Relationship
import Cord.Did.Lemmas.Replay
import Cord.Did.Lemmas.TryState
import Cord.Did.Lemmas.Writes
import Cord.DidName.Impl.Basic
import Cord.DidName.Impl.Calls
import Cord.DidName.Lemmas.Decoded
import Cord.DidName.Lemmas.Grammar
import Cord.DidName.Lemmas.Inverse
import Cord.Entries.Impl
import Cord.Entries.Lemmas.Frozen
import Cord.Entries.Lemmas.Provenance
import Cord.Frame.Acts
import Cord.Frame.Addressed
import Cord.Frame.Arith
import Cord.Frame.Avoids
import Cord.Frame.Base58
import Cord.Frame.BinarySearch
import Cord.Frame.Bounded
import Cord.Frame.Checked
import Cord.Frame.Codec
import Cord.Frame.Delegation
import Cord.Frame.Dispatch
import Cord.Frame.Forest
import Cord.Frame.Grammar
import Cord.Frame.History
import Cord.Frame.Inverse
import Cord.Frame.Iteration
import Cord.Frame.Machine
import Cord.Frame.Mirrored
import Cord.Frame.Refinement
import Cord.Frame.Respects
import Cord.Frame.Retention
import Cord.Frame.Sort
import Cord.Frame.StorageMap
import Cord.Identifier.Curi
import Cord.Identifier.Lemmas.Curi
import Cord.Identifier.Lemmas.Text
import Cord.Identifier.Lemmas.Timeline
import Cord.Identifier.Timeline
import Cord.Identifier.Update
import Cord.Identity.Impl.Basic
import Cord.Identity.Impl.Calls
import Cord.Identity.Impl.Data
import Cord.Identity.Lemmas.Allocation
import Cord.Identity.Lemmas.Calls
import Cord.Identity.Lemmas.Data
import Cord.Identity.Lemmas.Expiration
import Cord.Identity.Lemmas.Judgements
import Cord.Identity.Lemmas.Primary
import Cord.Identity.Lemmas.Registrars
import Cord.Identity.Lemmas.Subs
import Cord.Identity.Lemmas.Usernames
import Cord.Identity.Lemmas.Verdicts
import Cord.NetworkMembership.Extension
import Cord.NetworkMembership.Impl
import Cord.NetworkMembership.Lemmas.Accounts
import Cord.NetworkMembership.Lemmas.Listed
import Cord.NetworkMembership.Lemmas.Providers
import Cord.NetworkMembership.Lemmas.Renewals
import Cord.NetworkMembership.Lemmas.Revocation
import Cord.NetworkMembership.Lemmas.Schedule
import Cord.NetworkMembership.Lemmas.Steps
import Cord.NetworkScore.Impl.Basic
import Cord.NetworkScore.Impl.Calls
import Cord.NetworkScore.Lemmas.Aggregated
import Cord.NetworkScore.Lemmas.Calls
import Cord.NetworkScore.Lemmas.Conservation
import Cord.NetworkScore.Lemmas.Messages
import Cord.NetworkScore.Lemmas.References
import Cord.NodeAuthorization.Impl
import Cord.NodeAuthorization.Lemmas.Bookkeeping
import Cord.NodeAuthorization.Lemmas.Connections
import Cord.NodeAuthorization.Lemmas.Lengths
import Cord.Offences.Impl
import Cord.Offences.Lemmas.Concurrent
import Cord.Offences.Lemmas.Index
import Cord.Registries.Impl.Basic
import Cord.Registries.Impl.Calls
import Cord.Registries.Lemmas.Admins
import Cord.Registries.Lemmas.Calls
import Cord.Registries.Lemmas.Provenance
import Cord.Registries.Lemmas.Status
import Cord.Runtime.Impl
import Cord.Runtime.Impl.Did
import Cord.Runtime.Impl.DidApi
import Cord.Runtime.Impl.Offences
import Cord.Runtime.Lemmas.Archived
import Cord.Runtime.Lemmas.DidApi
import Cord.Runtime.Lemmas.DidCalls
import Cord.Runtime.Lemmas.Metering
import Cord.Runtime.Lemmas.Offences
import Cord.Schema.Impl
import Cord.Schema.Lemmas
import Cord.Statement.Impl.Basic
import Cord.Statement.Impl.Calls
import Cord.Statement.Lemmas.Batch
import Cord.Statement.Lemmas.BatchUsage
import Cord.Statement.Lemmas.Calls
import Cord.Statement.Lemmas.Capacity
import Cord.Statement.Lemmas.Digests
import Cord.Statement.Lemmas.LookupComplete
import Cord.Statement.Lemmas.LookupSound
import Cord.Statement.Lemmas.Removal
import Cord.Statement.Lemmas.Superseded
