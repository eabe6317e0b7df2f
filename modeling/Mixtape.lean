import Mixtape.Main
import Mixtape.Service.Connector
import Mixtape.Proofs.Action
import Mixtape.Proofs.Criteria.Binding
import Mixtape.Proofs.Criteria.Faults
import Mixtape.Proofs.Criteria.Grammar
import Mixtape.Proofs.Criteria.Refusal
import Mixtape.Proofs.Criteria.RoundTrip
import Mixtape.Proofs.Criteria.TagReference
import Mixtape.Proofs.Database.History
import Mixtape.Proofs.Database.Playlists
import Mixtape.Proofs.Database.Metadata
import Mixtape.Proofs.Database.RoundTrip
import Mixtape.Proofs.Database.Tags
import Mixtape.Proofs.Edits.Renaming
import Mixtape.Proofs.Edits.Scope
import Mixtape.Proofs.Edits.Units
import Mixtape.Proofs.Evaluation.Algebra
import Mixtape.Proofs.Evaluation.Meaning
import Mixtape.Proofs.Evaluation.Order
import Mixtape.Proofs.Evaluation.Selection
import Mixtape.Proofs.Evaluation.Total
import Mixtape.Proofs.Intake.Accounting
import Mixtape.Proofs.Intake.Boundaries
import Mixtape.Proofs.Intake.Currency
import Mixtape.Proofs.Intake.Errors
import Mixtape.Proofs.Intake.Exactness
import Mixtape.Proofs.Intake.Feedback
import Mixtape.Proofs.Intake.Frame
import Mixtape.Proofs.Intake.Moves
import Mixtape.Proofs.Intake.Readings
import Mixtape.Proofs.Intake.Refresh
import Mixtape.Proofs.Intake.Snapshots
import Mixtape.Proofs.Intake.Totals
import Mixtape.Proofs.Jobs.Admission
import Mixtape.Proofs.Jobs.Books
import Mixtape.Proofs.Jobs.Change
import Mixtape.Proofs.Jobs.Coherent
import Mixtape.Proofs.Jobs.Current
import Mixtape.Proofs.Jobs.Exclusion
import Mixtape.Proofs.Jobs.Filing
import Mixtape.Proofs.Jobs.Fleet
import Mixtape.Proofs.Jobs.Keys
import Mixtape.Proofs.Jobs.Lifecycle
import Mixtape.Proofs.Jobs.Once
import Mixtape.Proofs.Jobs.Release
import Mixtape.Proofs.Jobs.Running
import Mixtape.Proofs.Jobs.Standing
import Mixtape.Proofs.Jobs.Steady
import Mixtape.Proofs.Jobs.Stores
import Mixtape.Proofs.Jobs.Whole
import Mixtape.Proofs.Outward.Capacity
import Mixtape.Proofs.Outward.Columns
import Mixtape.Proofs.Outward.Convergence
import Mixtape.Proofs.Outward.Copies
import Mixtape.Proofs.Outward.Job
import Mixtape.Proofs.Outward.Log
import Mixtape.Proofs.Outward.Mark
import Mixtape.Proofs.Outward.Noting
import Mixtape.Proofs.Outward.Verdict
import Mixtape.Proofs.Service.Pages
import Mixtape.Proofs.Service.Writes
import Mixtape.Proofs.Sync.Chunks
import Mixtape.Proofs.Sync.Course
import Mixtape.Proofs.Sync.Fingerprint
import Mixtape.Proofs.Sync.Isolation
import Mixtape.Proofs.Sync.Lookup
import Mixtape.Proofs.Sync.Mirrors
import Mixtape.Proofs.Sync.Partial
import Mixtape.Proofs.Sync.Trace
import Mixtape.Proofs.Text.Case
import Mixtape.Proofs.Text.Decimal
import Mixtape.Proofs.Text.Numeral
import Mixtape.Proofs.World
