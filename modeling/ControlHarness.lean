import ControlHarness.General.Machine
import ControlHarness.General.Table
import ControlHarness.General.Transaction
import ControlHarness.Store.StepSpec
import ControlHarness.Lifecycle.Replay
import ControlHarness.Lifecycle.Recovery
import ControlHarness.Lifecycle.Approval
import ControlHarness.Store.Acceptance
import ControlHarness.Lifecycle.Lease
import ControlHarness.Lifecycle.Ownership
import ControlHarness.Lifecycle.Circuit
import ControlHarness.Feed
import ControlHarness.General.Overlay
import ControlHarness.Projection
import ControlHarness.Auth
import ControlHarness.General.Yaml
import ControlHarness.Policy
import ControlHarness.App
import ControlHarness.General.Selection
import ControlHarness.General.Unwinding
import ControlHarness.Store.Ledger
import ControlHarness.Store.Restriction
import ControlHarness.Store.ReceiptLog
import ControlHarness.Evidence
import ControlHarness.Confinement
import ControlHarness.Lifecycle.Budget
import ControlHarness.Lifecycle.Transitions
import ControlHarness.Store.Failure
import ControlHarness.Lifecycle.Success
import ControlHarness.Lifecycle.Delay
import ControlHarness.Lifecycle.Execution
import ControlHarness.Lifecycle.Settlement
import ControlHarness.Lifecycle.Redelivery
import ControlHarness.Admission
import ControlHarness.Scopes
import ControlHarness.Identities
import ControlHarness.Planner
import ControlHarness.Lifecycle.Creation
import ControlHarness.Lifecycle.Correlation
import ControlHarness.Lifecycle.FirstPass
import ControlHarness.General.Reading
import ControlHarness.Cockpit
import ControlHarness.Workflow
import ControlHarness.General.Tally
import ControlHarness.Conservation
import ControlHarness.Store.DeadLetterLog
import ControlHarness.Lifecycle.Resolution
import ControlHarness.Answers
import ControlHarness.General.PosixPath
import ControlHarness.ScopePaths
import ControlHarness.General.PrefixCode
import ControlHarness.General.Sorting
import ControlHarness.General.KeyedTree
import ControlHarness.JsonText
import ControlHarness.Display
import ControlHarness.General.CivilTime
import ControlHarness.Manifest
import ControlHarness.General.Process
import ControlHarness.Watcher
import ControlHarness.Pilot.Access
import ControlHarness.Pilot.Safety
import ControlHarness.Pilot.Progress
import ControlHarness.Lifecycle.Termination
import ControlHarness.Isolation
import ControlHarness.Lifecycle.Audit
import ControlHarness.Lifecycle.Completion
import ControlHarness.Lifecycle.Trace
import ControlHarness.Mirror
import ControlHarness.Continuity
