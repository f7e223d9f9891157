import Tekroo.NativeAgent.ResultAssembly
import Tekroo.Properties.Assignments
import Tekroo.Properties.AttemptBudgets
import Tekroo.Properties.Attempts
import Tekroo.Properties.CompletionReviews
import Tekroo.Properties.Delegations
import Tekroo.Properties.Discretion
import Tekroo.Properties.Durability
import Tekroo.Properties.EndedWorkflows
import Tekroo.Properties.ExactlyOnce
import Tekroo.Properties.ExecutionLimits
import Tekroo.Properties.Fingerprints
import Tekroo.Properties.Lifecycles
import Tekroo.Properties.Ownership
import Tekroo.Properties.Parallelism
import Tekroo.Properties.PeopleReplay
import Tekroo.Properties.Publishing
import Tekroo.Properties.ReleaseRuns
import Tekroo.Properties.ReviewRounds
import Tekroo.Properties.Settlement
import Tekroo.Properties.WorkflowFolds
import Tekroo.Properties.WorkflowRepair
import Tekroo.Properties.Workspace
