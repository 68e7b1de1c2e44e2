import Sprintable.Billing.Entitlements
import Sprintable.Dependencies.Graph
import Sprintable.Gates.GithubCheck
import Sprintable.Lines.Governance
import Sprintable.Publications.CommandRuns
import Sprintable.Billing.GivenUp
import Sprintable.Billing.PaidOnce
import Sprintable.Billing.GrantExpiry
import Sprintable.Publications.Retries
import Sprintable.Lines.SlaBounds
import Sprintable.Lines.Withdrawal
import Sprintable.Boosts.Cancelling
import Sprintable.Boosts.ApprovedTerms
import Sprintable.Boosts.OneCreation
import Sprintable.Boosts.SpendCap
import Sprintable.Boosts.CaptureChain
import Sprintable.Sessions.AfterCommit
import Sprintable.Leases.Equivalence
import Sprintable.Streams.TypedLoss
import Sprintable.Streams.ReplayFloor
import Sprintable.Leases.OneReceiver
import Sprintable.Publications.PauseRuns
import Sprintable.Publications.XThread
import Sprintable.Jobs.Dedup
import Sprintable.Desktop.PairingRuns
import Sprintable.Desktop.PermissionRuns
import Sprintable.Routing.Recipients
import Sprintable.References.Reconcile
import Sprintable.Accounts.SignInLimits
import Sprintable.Organizations.ContextRuns
import Sprintable.Usage.MonthlyCap
import Sprintable.Accounts.ProofRuns
import Sprintable.Desktop.BoardRuns
import Sprintable.Desktop.QueueRuns
import Sprintable.Desktop.ClockRuns
import Sprintable.Desktop.PressRuns
import Sprintable.Accounts.SwitchWalk
import Sprintable.Desktop.Computers
import Sprintable.Toolsets.Narrowing
import Sprintable.Gates.DecisionHistory
import Sprintable.Lines.RefusedDecision
import Sprintable.Toolsets.Masking
import Sprintable.Streams.FrameData
import Sprintable.References.TokenExtraction
import Sprintable.PullRequests.LinkRuns
import Sprintable.Lines.CircuitBreaker
import Sprintable.Lines.RoleResolver
import Sprintable.Billing.Periods
import Sprintable.Limits.LimiterRuns
import Sprintable.Streams.PgPubsub
import Sprintable.Recipes.RepeatSchedule
import Sprintable.Organizations.EntitySlug
import Sprintable.Publications.Utm
import Sprintable.Billing.Refunds
import Sprintable.Billing.SecondCheckout
import Sprintable.Deliveries.DeliveryRuns
