import BlueTeam.Json
import BlueTeam.Lib.Sha256
import BlueTeam.Hashing
import BlueTeam.Audit.Log
import BlueTeam.Audit.Concurrency
import BlueTeam.Playbook.Policy
import BlueTeam.Playbook.Engine
import BlueTeam.Playbook.Visit
import BlueTeam.Playbook.Run
import BlueTeam.Playbook.History
import BlueTeam.Playbook.Approval
import BlueTeam.Playbook.Outcomes
import BlueTeam.Playbook.Idempotency
import BlueTeam.Fabric.Delivery
import BlueTeam.Fabric.Isolation
import BlueTeam.Broker.Rego
import BlueTeam.Broker.Submit
import BlueTeam.BlueQL.Engine
import BlueTeam.BlueQL.Parser
import BlueTeam.BlueQL.Printing
import BlueTeam.BlueQL.RoundTrip
import BlueTeam.BlueQL.Sequence
import BlueTeam.BlueQL.Equality
import BlueTeam.BlueQL.Errors
import BlueTeam.Correlation.Soundness
import BlueTeam.Correlation.Builders
import BlueTeam.Correlation.Fingerprint
import BlueTeam.Hunts.Sql
import BlueTeam.Services.Integrity
import BlueTeam.Services.Storylines
import BlueTeam.Services.Replay
import BlueTeam.Services.Dedupe
import BlueTeam.Services.Timestamps
import BlueTeam.Services.Noninterference
import BlueTeam.Rules.Silence
import BlueTeam.Services.Interleaving
import BlueTeam.Fabric.Streaming
import BlueTeam.Services.References
import BlueTeam.Services.Repeats
import BlueTeam.Services.Merging
import BlueTeam.Services.Sweep
import BlueTeam.Yara.Fidelity
import BlueTeam.Api.Tenants
import BlueTeam.Graph.Order
import BlueTeam.Api.Login
import BlueTeam.Api.Graph
import BlueTeam.Objects.Store
import BlueTeam.Services.Retention
import BlueTeam.Services.Content
import BlueTeam.Services.Arrival
import BlueTeam.Api.Audited
import BlueTeam.Ingest.Agreement
import BlueTeam.Ingest.Dumped
import BlueTeam.Python.Re
import BlueTeam.Ingest.Patterns
import BlueTeam.Ingest.Openssh
import BlueTeam.Detection.Flows
import BlueTeam.Detection.Travel
import BlueTeam.Services.Indicators
import BlueTeam.Gateway.Cache
import BlueTeam.Gateway.Redact
import BlueTeam.Gateway.Tokens
import BlueTeam.Gateway.Leaks
import BlueTeam.Endpoint.Tree
import BlueTeam.Endpoint.Lineage
import BlueTeam.Network.Sessions
import BlueTeam.Services.Hunting
import BlueTeam.Sigma.Faithful
import BlueTeam.Graph.Risk
import BlueTeam.Lib.Numerals
import BlueTeam.Python.Calendar
import BlueTeam.Vuln.Priority
import BlueTeam.Hunts.Stored
import BlueTeam.Dfir.Timeline
import BlueTeam.Quality.Index
import BlueTeam.Services.Expiry
import BlueTeam.Services.Confinement
import BlueTeam.Access.Permissions
import BlueTeam.Access.Auth
import BlueTeam.Access.Entitlement
import BlueTeam.Api.Intake
import BlueTeam.Api.Intel
import BlueTeam.Access.Boundary
import BlueTeam.Access.Accountability
import BlueTeam.Services.Watchlist
import BlueTeam.Services.Silencing
import BlueTeam.Access.Histories
import BlueTeam.Replay.Foresight
import BlueTeam.Fabric.Kafka
import BlueTeam.Access.Platform
