import OwnerSwitch.Button.DaemonRuns
import OwnerSwitch.Button.SerialRuns
import OwnerSwitch.ControlPlane.CborFaithful
import OwnerSwitch.ControlPlane.InviteReaders
import OwnerSwitch.ControlPlane.KillStateDurability
import OwnerSwitch.ControlPlane.KillStateSize
import OwnerSwitch.ControlPlane.RegistryRoundTrip
import OwnerSwitch.ControlPlane.ReplayRuns
import OwnerSwitch.ControlPlane.RestoreRuns
import OwnerSwitch.ControlPlane.RevocationRuns
import OwnerSwitch.ControlPlane.ScopedKillRuns
import OwnerSwitch.ControlPlane.StandingHistory
import OwnerSwitch.ControlPlane.StandingRoundTrip
import OwnerSwitch.ControlPlane.StoredKeys
import OwnerSwitch.Escalation.LadderAlerts
import OwnerSwitch.Escalation.ServiceRuns
import OwnerSwitch.Executor.BrokerHonesty
import OwnerSwitch.Executor.BurnStoreRuns
import OwnerSwitch.Executor.ExecutorRuns
import OwnerSwitch.Executor.MergeBrokerRecords
import OwnerSwitch.Executor.SecretLedger
import OwnerSwitch.Gateway.CallIdentity
import OwnerSwitch.Gateway.LimitDeployment
import OwnerSwitch.Gateway.ProxyRuns
import OwnerSwitch.Gateway.Routes
import OwnerSwitch.Gateway.VetoLaneRuns
import OwnerSwitch.Honeytoken.FlushRuns
import OwnerSwitch.Honeytoken.RegistryTag
