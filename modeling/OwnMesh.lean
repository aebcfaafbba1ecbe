import OwnMesh.OpJournal.ExactOnce
import OwnMesh.Sessions.Atomicity
import OwnMesh.Sessions.Closing
import OwnMesh.Sessions.Readers
import OwnMesh.Transitions.Reopening
import OwnMesh.Supervisor.Capacity
import OwnMesh.Supervisor.Liveness
import OwnMesh.Supervisor.Repetition
import OwnMesh.Supervisor.Linearity
import OwnMesh.Supervisor.DrainLoss
import OwnMesh.Daemon.Isolation
import OwnMesh.Daemon.ClaimReplay
import OwnMesh.Daemon.ExitNote
import OwnMesh.Policy.Spelling
import OwnMesh.Broker.Reopening
import OwnMesh.Approvals.BoundedUses
import OwnMesh.ControlPlane.RefreshRace
import OwnMesh.ControlPlane.RefreshFamilies
import OwnMesh.ControlPlane.ApprovalDelivery
import OwnMesh.DeviceRoom.PendingExpiry
import OwnMesh.DeviceRoom.RejectedResult
import OwnMesh.DeviceRoom.CancelFence
import OwnMesh.ControlPlane.SqlOperations
import OwnMesh.ControlPlane.StableStringify
import OwnMesh.AgentTransport.LiveLoop
import OwnMesh.ControlPlane.ApprovalPost
import OwnMesh.ControlPlane.Workspaces
import OwnMesh.ControlPlane.ListPages
import OwnMesh.Reviews.Spool
