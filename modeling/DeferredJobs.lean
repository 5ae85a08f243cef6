import DeferredJobs.Job.Description
import DeferredJobs.Job.Order
import DeferredJobs.Main
import DeferredJobs.Proofs.Builder
import DeferredJobs.Proofs.Constraints.Progress
import DeferredJobs.Proofs.Encoding.Storage
import DeferredJobs.Proofs.Job.Encoding
import DeferredJobs.Proofs.Job.Enforcement
import DeferredJobs.Proofs.Job.Order
import DeferredJobs.Proofs.Job.PendingRetry
import DeferredJobs.Proofs.Job.Priority
import DeferredJobs.Proofs.Job.Refusals
import DeferredJobs.Proofs.Job.Restart
import DeferredJobs.Proofs.Job.Results
import DeferredJobs.Proofs.Job.Retries
import DeferredJobs.Proofs.Job.Unplaced
import DeferredJobs.Proofs.Params.Readings
import DeferredJobs.Proofs.Params.SingleInstance
import DeferredJobs.Proofs.Report.Check
import DeferredJobs.Proofs.Report.Watch
import DeferredJobs.Proofs.Retry
import DeferredJobs.Proofs.Status.Handles
import DeferredJobs.Proofs.Wakes
import DeferredJobs.Proofs.Work.Cancellation
import DeferredJobs.Work.Rehearsal
