import DeviceAllocation.Plugin.Command
import DeviceAllocation.Proofs.Placement.Balance
import DeviceAllocation.Proofs.Placement.Greedy
import DeviceAllocation.Proofs.Placement.Incremental
import DeviceAllocation.Proofs.Placement.NoRoom
import DeviceAllocation.Proofs.Placement.Packed
import DeviceAllocation.Proofs.Plugin.Answering
import DeviceAllocation.Proofs.Plugin.Registration
import DeviceAllocation.Proofs.Refusal
import DeviceAllocation.Proofs.Selection
import DeviceAllocation.Proofs.Service.Counting
import DeviceAllocation.Proofs.Placement.Indifference
import DeviceAllocation.Proofs.Asking
import DeviceAllocation.Proofs.Plugin.Capture
import DeviceAllocation.Proofs.Service.Reporting
import DeviceAllocation.Proofs.Strictness
import DeviceAllocation.Proofs.Placement.Resumption
import DeviceAllocation.Proofs.Placement.Optimal
import DeviceAllocation.Proofs.Placement.RoundRobin
import DeviceAllocation.Proofs.Plugin.FailedOpening
import DeviceAllocation.Proofs.DeviceId.RoundTrip
import DeviceAllocation.Proofs.Placement.LaneTotals
import DeviceAllocation.Proofs.Placement.Inquiry
import DeviceAllocation.Proofs.Replication
import DeviceAllocation.Proofs.DeviceSet.Operations
import DeviceAllocation.Proofs.Json.Printing
import DeviceAllocation.Proofs.Plugin.EventLines
import DeviceAllocation.Proofs.Plugin.SharedMetrics
import DeviceAllocation.Proofs.Settings.Complete
import DeviceAllocation.Proofs.Placement.Picking
import DeviceAllocation.Proofs.DeviceSet.Table
import DeviceAllocation.Proofs.DeviceId.Stripping
import DeviceAllocation.Proofs.Placement.Additions
