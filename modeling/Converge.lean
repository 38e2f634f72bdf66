import Converge.Api.Client
import Converge.Api.Recorder
import Converge.Api.Reply
import Converge.Api.Request
import Converge.Assoc
import Converge.Cluster.Client
import Converge.Cluster.Metadata
import Converge.Cluster.Object
import Converge.Cluster.Resource
import Converge.Cluster.Selector
import Converge.Cluster.Store
import Converge.Cluster.Upsert
import Converge.Codec.Basic
import Converge.Codec.Located
import Converge.Codec.Misread
import Converge.Codec.Record
import Converge.Component
import Converge.Condition
import Converge.Config
import Converge.Engine
import Converge.Error
import Converge.Event
import Converge.Flux.GitRepository
import Converge.Flux.HelmRelease
import Converge.Flux.HelmRepository
import Converge.Flux.Item
import Converge.Flux.Kind
import Converge.Flux.Kustomization
import Converge.Flux.OciRepository
import Converge.Flux.Reference
import Converge.Flux.Status
import Converge.Health
import Converge.Json.Basic
import Converge.Json.Double
import Converge.Json.Fault
import Converge.Json.Number
import Converge.Json.Parser
import Converge.Json.Printer
import Converge.LogFilter
import Converge.Outcome
import Converge.Ownership
import Converge.Policy
import Converge.Proofs.Announcements
import Converge.Proofs.Atomicity
import Converge.Proofs.Bystanders
import Converge.Proofs.Calendar
import Converge.Proofs.Calls
import Converge.Proofs.CodecLaws
import Converge.Proofs.Collection
import Converge.Proofs.Conditions
import Converge.Proofs.Deeds
import Converge.Proofs.Detection
import Converge.Proofs.Faults
import Converge.Proofs.Filing
import Converge.Proofs.FirstSeen
import Converge.Proofs.FluxCodecs
import Converge.Proofs.FluxItems
import Converge.Proofs.FluxResults
import Converge.Proofs.FluxRoundTrips
import Converge.Proofs.FluxUpserts
import Converge.Proofs.Gating
import Converge.Proofs.HookFailures
import Converge.Proofs.LocalPasses
import Converge.Proofs.LocalTurns
import Converge.Proofs.MissingObjects
import Converge.Proofs.Notes
import Converge.Proofs.ObjectTurns
import Converge.Proofs.Orphans
import Converge.Proofs.OwnershipLabels
import Converge.Proofs.Paging
import Converge.Proofs.PairHealth
import Converge.Proofs.Presence
import Converge.Proofs.PrintedObjects
import Converge.Proofs.PrintedTimes
import Converge.Proofs.Records
import Converge.Proofs.Rediscovery
import Converge.Proofs.Registration
import Converge.Proofs.Routing
import Converge.Proofs.Runs
import Converge.Proofs.Selectors
import Converge.Proofs.Settings
import Converge.Proofs.SettledPasses
import Converge.Proofs.Settling
import Converge.Proofs.StatusCarried
import Converge.Proofs.StoreEffects
import Converge.Proofs.Sweeps
import Converge.Proofs.Transitions
import Converge.Proofs.Turns
import Converge.Proofs.UnservedTypes
import Converge.Reconciler
import Converge.Reconciler.FluxPairs
import Converge.Reconciler.Objects
import Converge.Reconciler.Orphan
import Converge.Rehearsal.Edit
import Converge.Rehearsal.Script
import Converge.Rehearsal.Search
import Converge.Rehearsal.StandIn
import Converge.Rehearsal.World
import Converge.Text.Blank
import Converge.Text.Bytes
import Converge.Text.FormEncoding
import Converge.Text.LowerCase
import Converge.Text.Pieces
import Converge.Text.Quoted
import Converge.Text.Unprintable
import Converge.Text.Utf8
import Converge.Time
import Converge.Proofs.SelectorTerms
import Converge.Proofs.Exchanges
