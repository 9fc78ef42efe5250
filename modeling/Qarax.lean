import Qarax.Core.Effect
import Qarax.Core.Machine
import Qarax.Core.Interleave
import Qarax.Core.Netfilter
import Qarax.Core.Records
import Qarax.Core.Tokens
import Qarax.Core.Query
import Qarax.Core.Exclusion
import Qarax.Core.Ledger
import Qarax.Core.Retry
import Qarax.Core.Files
import Qarax.Node.Networking.Validate
import Qarax.Node.Networking.Ruleset
import Qarax.Node.Networking.Iptables
import Qarax.Node.Networking.Keeps
import Qarax.Control.NetworkPolicy
import Qarax.Node.Networking.VmFirewall
import Qarax.Node.Networking.FirewallPolicy
import Qarax.Node.Networking.ForwardJumps
import Qarax.Node.Networking.Compose
import Qarax.Node.Networking.Isolation
import Qarax.Node.Networking.Nat
import Qarax.Node.Networking.BridgeFrame
import Qarax.Node.Networking.AttachNetwork
import Qarax.Node.Networking.NatExemptions
import Qarax.Control.Vms
import Qarax.Control.HaMonitor
import Qarax.Control.ResourceMonitor
import Qarax.Control.StaleCopies
import Qarax.Control.VmDisks
import Qarax.Node.Lifecycle
import Qarax.Control.VmLifecycle
import Qarax.Control.BootedDisks
import Qarax.Control.PoolAttachments
import Qarax.Node.Overlaybd
import Qarax.Node.ImportImage
import Qarax.Node.ResourceLedger
import Qarax.Control.HostGpus
import Qarax.Control.Scheduler
import Qarax.Control.PickHost
import Qarax.Control.ResizeVm
import Qarax.Control.CreateTransactions
import Qarax.Control.Admission
import Qarax.Control.DestinationSearch
import Qarax.Control.SchedulingMetadata
import Qarax.Control.Migration
import Qarax.Control.VmTasks
import Qarax.Control.StartCommit
import Qarax.Control.StartDelete
import Qarax.Control.VmMonitor
import Qarax.Control.Transitional
import Qarax.Control.FailoverRetry
import Qarax.Control.FailoverGrace
import Qarax.Node.Processes
import Qarax.Node.VsockCids
import Qarax.Node.Downloads
import Qarax.Control.StopVm
import Qarax.Control.StartAgain
import Qarax.Control.GpuLedger
import Qarax.Control.FailoverRevert
import Qarax.Control.DiskAttachments
import Qarax.Control.PoolAccounting
import Qarax.Control.StorageCleanup
import Qarax.Control.Ipam
import Qarax.Control.AddressPlan
import Qarax.Control.AllocationLoop
import Qarax.Node.Networking.Vxlan
import Qarax.Control.VpcOverlay
import Qarax.Control.OverlayRoutes
import Qarax.Control.VpcIsolation
import Qarax.Control.SandboxPool
import Qarax.Control.Maintenance
import Qarax.Control.VmBackups
import Qarax.Control.HookExecutor
import Qarax.Control.Evacuation
import Qarax.Control.EvacuationFailure
import Qarax.Control.NicConfig
import Qarax.Control.CpuLists
import Qarax.Guest.ExecTimeout
