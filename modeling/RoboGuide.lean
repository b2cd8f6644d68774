import RoboGuide.Proofs.AttemptIdentity
import RoboGuide.Proofs.CertificateRotation
import RoboGuide.Proofs.ContextSeparation
import RoboGuide.Proofs.Declarations
import RoboGuide.Proofs.FailedCommit
import RoboGuide.Proofs.FederationSessions
import RoboGuide.Proofs.SpaceConflicts
import RoboGuide.Proofs.RollingHash
import RoboGuide.Proofs.QuotaRuns
import RoboGuide.Proofs.GroupCheckpoint
import RoboGuide.Proofs.GroupContinuation
import RoboGuide.Proofs.GroupRevision
import RoboGuide.Proofs.LocalDispatch
import RoboGuide.Proofs.MembershipHistory
import RoboGuide.Proofs.MemoryFences
import RoboGuide.Proofs.FactOrder
import RoboGuide.Proofs.NodeCapacity
import RoboGuide.Proofs.NodeSessions
import RoboGuide.Proofs.PeerChannels
import RoboGuide.Proofs.RegistryRevision
import RoboGuide.Proofs.RoleRecovery
import RoboGuide.Proofs.RootRestart
import RoboGuide.Proofs.SettledAttempts
import RoboGuide.Proofs.TaskGraphs
import RoboGuide.Proofs.TaskSuccess
import RoboGuide.Proofs.TopologyRevision
