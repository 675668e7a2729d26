import Loom.Chains
import Loom.ContentStore
import Loom.Contracts.Agents
import Loom.Contracts.Closures
import Loom.Contracts.IoSchema
import Loom.Contracts.PackageContracts
import Loom.Contracts.Packages
import Loom.Contracts.Refs
import Loom.Contracts.Tightening
import Loom.Contracts.Types
import Loom.Coroutine.Basic
import Loom.Coroutine.Computes
import Loom.Coroutine.Concurrent
import Loom.Coroutine.Ensures
import Loom.Coroutine.History
import Loom.Coroutine.Lives
import Loom.Coroutine.Obeys
import Loom.Coroutine.Pool
import Loom.Coroutine.Segments
import Loom.Coroutine.Traced
import Loom.Deployment.Compose
import Loom.Deployment.Config
import Loom.Deployment.Remote
import Loom.Driver.Claims
import Loom.Driver.Codex
import Loom.Driver.CodexAtoms
import Loom.Driver.CodexMessages
import Loom.Driver.CodexMoves
import Loom.Driver.CodexSession
import Loom.Driver.CodexTurn
import Loom.Driver.Coordinator
import Loom.Driver.Dispatch
import Loom.Driver.Framing
import Loom.Driver.Invariants
import Loom.Driver.Reactions
import Loom.Driver.Requests
import Loom.Driver.Transitions
import Loom.Driver.TurnSteps
import Loom.Json
import Loom.JsonRoundTrip
import Loom.JsonSchema
import Loom.JsonText
import Loom.Keyed
import Loom.Machine
import Loom.Observer.AgentEffects
import Loom.Observer.Agents
import Loom.Observer.Blocks
import Loom.Observer.Boards
import Loom.Observer.Calls
import Loom.Observer.Capabilities
import Loom.Observer.Changes
import Loom.Observer.Completion
import Loom.Observer.Content
import Loom.Observer.Execution
import Loom.Observer.Fences
import Loom.Observer.Histories
import Loom.Observer.Interleavings
import Loom.Observer.Lifecycle
import Loom.Observer.LifecycleBlocks
import Loom.Observer.MessageEffects
import Loom.Observer.Messages
import Loom.Observer.NodeBlocks
import Loom.Observer.NodeResultBlocks
import Loom.Observer.NodeResults
import Loom.Observer.Nodes
import Loom.Observer.Packages
import Loom.Observer.Patch
import Loom.Observer.PatchBlocks
import Loom.Observer.Preludes
import Loom.Observer.Provenance
import Loom.Observer.Readiness
import Loom.Observer.Record
import Loom.Observer.Recovery
import Loom.Observer.Replay
import Loom.Observer.Repository
import Loom.Observer.Result
import Loom.Observer.ResultBlocks
import Loom.Observer.Rules
import Loom.Observer.Sequential
import Loom.Observer.SingleCalls
import Loom.Observer.Touches
import Loom.Properties.ActivationFencing
import Loom.Properties.ClosureDigests
import Loom.Properties.Coherence
import Loom.Properties.ContainerOwnership
import Loom.Properties.ContentStore
import Loom.Properties.Drafts
import Loom.Properties.DriverFencing
import Loom.Properties.Evidence
import Loom.Properties.Framing
import Loom.Properties.HttpContract
import Loom.Properties.Inputs
import Loom.Properties.InvocationGating
import Loom.Properties.IoSchema
import Loom.Properties.Leases
import Loom.Properties.Lineage
import Loom.Properties.MessageReceipts
import Loom.Properties.NodeFailures
import Loom.Properties.NodeReplay
import Loom.Properties.PackageDigests
import Loom.Properties.PluginRecovery
import Loom.Properties.Projection
import Loom.Properties.Receipts
import Loom.Properties.Recovery
import Loom.Properties.Redaction
import Loom.Properties.Refinement
import Loom.Properties.ResponseRouting
import Loom.Properties.RunHistory
import Loom.Properties.SingleExecution
import Loom.Properties.StallDetection
import Loom.Properties.TurnCoordinator
import Loom.Properties.TurnLock
import Loom.Properties.TurnStream
import Loom.Properties.Upgrades
import Loom.Properties.Uploads
import Loom.Properties.Verdicts
import Loom.Regex
import Loom.Replacement
import Loom.RuntimePlugins.ContainerHttp
import Loom.Slave.App
import Loom.Slave.Blocks
import Loom.Slave.Calls
import Loom.Slave.Content
import Loom.Slave.Lifecycle
import Loom.Slave.Reconcile
import Loom.Slave.RuntimePlugins
import Loom.Slave.Service
import Loom.SortedBy
