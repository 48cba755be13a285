import JobWatch.Main
import JobWatch.Proofs.Backend.Disposal
import JobWatch.Proofs.Backend.Lifecycle
import JobWatch.Proofs.Backend.Outages
import JobWatch.Proofs.Backend.Roster
import JobWatch.Proofs.Backend.Snapshot
import JobWatch.Proofs.Backend.Statuses
import JobWatch.Proofs.Breaker.Accounts
import JobWatch.Proofs.Breaker.Admission
import JobWatch.Proofs.Breaker.Sequence
import JobWatch.Proofs.Calendar.Timestamp
import JobWatch.Proofs.Command.ExitCode
import JobWatch.Proofs.Command.Layout
import JobWatch.Proofs.Command.Release
import JobWatch.Proofs.Command.Validation
import JobWatch.Proofs.Job.Acceptance
import JobWatch.Proofs.Job.Feeds
import JobWatch.Proofs.Job.References
import JobWatch.Proofs.Log.Logger
import JobWatch.Proofs.Monitor.Abort
import JobWatch.Proofs.Monitor.Cancellation
import JobWatch.Proofs.Monitor.Decision
import JobWatch.Proofs.Monitor.Failures
import JobWatch.Proofs.Monitor.Plan
import JobWatch.Proofs.Monitor.Timers
import JobWatch.Proofs.Pattern.Rounds
import JobWatch.Proofs.Report.Recovery
import JobWatch.Proofs.Report.Width
import JobWatch.Proofs.Sleeps.Fate
import JobWatch.Proofs.Watcher.Creation
import JobWatch.Proofs.Watcher.Custody
import JobWatch.Proofs.Watcher.Lifecycle
import JobWatch.Proofs.Workers.Recognition
import JobWatch.Script
import JobWatch.Sleeps
