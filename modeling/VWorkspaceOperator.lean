import VWorkspaceOperator.Properties.Approval
import VWorkspaceOperator.Properties.Attribution
import VWorkspaceOperator.Properties.BoundedWait
import VWorkspaceOperator.Properties.ClaimBinding
import VWorkspaceOperator.Properties.ClosedJob
import VWorkspaceOperator.Properties.Confinement
import VWorkspaceOperator.Properties.Conflicts
import VWorkspaceOperator.Properties.Convergence
import VWorkspaceOperator.Properties.CredentialsWatch
import VWorkspaceOperator.Properties.Deadlock
import VWorkspaceOperator.Properties.DoublePost
import VWorkspaceOperator.Properties.EndpointEvidence
import VWorkspaceOperator.Properties.EngineRef
import VWorkspaceOperator.Properties.EventAccounting
import VWorkspaceOperator.Properties.EventKeys
import VWorkspaceOperator.Properties.ExecutableParameters
import VWorkspaceOperator.Properties.FaithfulReports
import VWorkspaceOperator.Properties.Finality
import VWorkspaceOperator.Properties.FinalizedOnce
import VWorkspaceOperator.Properties.InlineSecrets
import VWorkspaceOperator.Properties.InlineToken
import VWorkspaceOperator.Properties.JobQueue
import VWorkspaceOperator.Properties.LostUpdate
import VWorkspaceOperator.Properties.Neighbours
import VWorkspaceOperator.Properties.NilClient
import VWorkspaceOperator.Properties.OrphanedPods
import VWorkspaceOperator.Properties.Placeholder
import VWorkspaceOperator.Properties.Rematerialize
import VWorkspaceOperator.Properties.Rotation
import VWorkspaceOperator.Properties.SeaweedValues
import VWorkspaceOperator.Properties.StartOnce
import VWorkspaceOperator.Properties.ValuesPatch
import VWorkspaceOperator.Properties.VeleroIsolation
import VWorkspaceOperator.Properties.WorkloadNames
