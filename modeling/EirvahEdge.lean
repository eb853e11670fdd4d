import EirvahEdge.Lib.Run
import EirvahEdge.Lib.Table
import EirvahEdge.Lib.PyFloat
import EirvahEdge.Lib.HighWater
import EirvahEdge.Contracts.Value
import EirvahEdge.Contracts.Position
import EirvahEdge.Recovery.Positions
import EirvahEdge.Recovery.Advance
import EirvahEdge.Contracts.Actuation
import EirvahEdge.Contracts.Authorization
import EirvahEdge.Contracts.JsonObject
import EirvahEdge.Contracts.Hops
import EirvahEdge.Writer.Ledger
import EirvahEdge.Writer.LedgerInvariant
import EirvahEdge.Writer.Native
import EirvahEdge.Writer.Worker
import EirvahEdge.Writer.AtMostOnce
import EirvahEdge.Writer.Retry
import EirvahEdge.Writer.Refusal
import EirvahEdge.Lib.Hex
import EirvahEdge.Contracts.Inspection
import EirvahEdge.Recovery.Inbox
import EirvahEdge.Recovery.OneCommand
import EirvahEdge.Devices.InspectionStream
import EirvahEdge.Devices.InspectionWire
import EirvahEdge.Recovery.Journal
import EirvahEdge.Recovery.Delivery
import EirvahEdge.Recovery.Numbering
import EirvahEdge.Recovery.Ownership
import EirvahEdge.Devices.Controls
import EirvahEdge.Devices.Mailbox
import EirvahEdge.Lib.History
import EirvahEdge.Writer.Move
import EirvahEdge.Writer.LastCheck
import EirvahEdge.CommandPath.Approval
import EirvahEdge.CommandPath.Encoding
import EirvahEdge.CommandPath.Authority
import EirvahEdge.Recovery.Outbox
import EirvahEdge.Devices.Process
import EirvahEdge.Recovery.Device
import EirvahEdge.Recovery.Durable
import EirvahEdge.CommandPath.Pipeline
import EirvahEdge.CommandPath.Outcomes
import EirvahEdge.Agent.Rules
import EirvahEdge.Contracts.Signals
import EirvahEdge.Agent.Tracking
import EirvahEdge.Agent.Runtime
import EirvahEdge.Agent.Switch
import EirvahEdge.Conformance.Clocks
import EirvahEdge.Conformance.DataEvidence
import EirvahEdge.Conformance.Evaluate
import EirvahEdge.Conformance.Malformed
import EirvahEdge.Devices.RejectWindow
import EirvahEdge.Recovery.EpochFence
import EirvahEdge.Recovery.Settlement
import EirvahEdge.CommandPath.Bridge
import EirvahEdge.Agent.Convergence
import EirvahEdge.Agent.Modes
import EirvahEdge.Agent.Inspections
import EirvahEdge.Agent.Rejections
import EirvahEdge.Agent.Baseline
import EirvahEdge.Contracts.Uns
import EirvahEdge.Contracts.Wire
import EirvahEdge.Contracts.Telemetry
import EirvahEdge.Telemetry.Pipeline
import EirvahEdge.Lib.FloatText
import EirvahEdge.Contracts.Measurement
import EirvahEdge.Contracts.Sosa
import EirvahEdge.Telemetry.Workers
import EirvahEdge.Telemetry.Provenance
import EirvahEdge.Contracts.Python
import EirvahEdge.Conformance.EvidenceBuffer
import EirvahEdge.Conformance.Policies
import EirvahEdge.Conformance.Records
import EirvahEdge.Lib.Except
import EirvahEdge.Conformance.Execution
import EirvahEdge.Conformance.RecordPairs
import EirvahEdge.Conformance.RecordOrder
import EirvahEdge.Conformance.LostRecords
import EirvahEdge.Conformance.EveryOrder
import EirvahEdge.Lib.Dict
import EirvahEdge.Lib.Search
import EirvahEdge.Conformance.Structure
import EirvahEdge.Contracts.Observation
import EirvahEdge.Lib.Grid
import EirvahEdge.Contracts.Rounding
import EirvahEdge.Devices.Temperature
import EirvahEdge.Experiment.Quantile
import EirvahEdge.Experiment.Summarize
import EirvahEdge.Telemetry.Conformity
import EirvahEdge.Writer.Targets
import EirvahEdge.Contracts.UnsTopic
