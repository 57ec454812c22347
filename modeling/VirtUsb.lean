import VirtUsb.Lib.Machine
import VirtUsb.Lib.Sequence
import VirtUsb.Kernel.State
import VirtUsb.Lib.Bitmap
import VirtUsb.Lib.Notify
import VirtUsb.Kernel.Port
import VirtUsb.Kernel.Hub
import VirtUsb.Kernel.HubControl
import VirtUsb.Kernel.Device
import VirtUsb.Kernel.PortState
import VirtUsb.Kernel.Object
import VirtUsb.Kernel.Transfer
import VirtUsb.Kernel.Backend
import VirtUsb.Kernel.Frame
import VirtUsb.Kernel.Hcd
import VirtUsb.Kernel.Control
import VirtUsb.Lib.WorkQueue.Basic
import VirtUsb.Lib.WorkQueue.Ledger
import VirtUsb.Lib.WorkQueue.Grants
import VirtUsb.Lib.WorkQueue.Routing
import VirtUsb.Lib.WorkQueue.Order
import VirtUsb.Lib.WorkQueue.Closing
import VirtUsb.DataPlane.Threads
import VirtUsb.DataPlane.Refine
import VirtUsb.DataPlane.Invariant
import VirtUsb.DataPlane.ExactlyOnce
import VirtUsb.DataPlane.Routing
import VirtUsb.DataPlane.Handover
import VirtUsb.DataPlane.Order
import VirtUsb.DataPlane.Stop
import VirtUsb.DataPlane.Waiting
import VirtUsb.ControlPlane.Wiring
import VirtUsb.ControlPlane.Peers
import VirtUsb.ControlPlane.Rewires
import VirtUsb.ControlPlane.Protocol
import VirtUsb.ControlPlane.Operations
import VirtUsb.ControlPlane.Notification
import VirtUsb.ControlPlane.Connection
import VirtUsb.ControlPlane.Suspend
import VirtUsb.Lib.RefCount
import VirtUsb.Lib.Directory
import VirtUsb.Lifetime.Books
import VirtUsb.Lifetime.Ledger
import VirtUsb.Lifetime.Transfers
import VirtUsb.Registry.Threads
import VirtUsb.Registry.Ids
import VirtUsb.Module.Management
import VirtUsb.Module.Handlers
import VirtUsb.Module.Lifecycle
import VirtUsb.Module.Managed
import VirtUsb.Module.Calls
import VirtUsb.Lifetime.Accounting
import VirtUsb.Module.Matching
import VirtUsb.Module.Failure
import VirtUsb.Module.Queries
import VirtUsb.Serving.Effects
import VirtUsb.Serving.Enqueue
import VirtUsb.Serving.Invariant
import VirtUsb.Serving.Calls
import VirtUsb.Serving.Release
import VirtUsb.Library.Transfer
import VirtUsb.Serving.Completion
import VirtUsb.Serving.Delivery
import VirtUsb.Serving.Alike
import VirtUsb.Serving.Loan
import VirtUsb.Serving.Rollback
import VirtUsb.Serving.Admission
import VirtUsb.Serving.Copies
import VirtUsb.Module.Shutdown
import VirtUsb.Lib.Insertion
import VirtUsb.Lib.Strtok
import VirtUsb.Lib.Unwinding
import VirtUsb.Lib.WaitQueue
import VirtUsb.Lib.Holders
import VirtUsb.Tools.SpeedCaps
import VirtUsb.ControlPlane.Local
import VirtUsb.ControlPlane.Interference
import VirtUsb.ControlPlane.Reset
import VirtUsb.ControlPlane.StatusData
import VirtUsb.ControlPlane.Views
import VirtUsb.ControlPlane.OverCurrent
import VirtUsb.Library.PortStatus
import VirtUsb.Interleaving.Threads
import VirtUsb.Interleaving.Releases
import VirtUsb.Interleaving.Attachment
import VirtUsb.Interleaving.Teardown
import VirtUsb.Lib.Nesting
import VirtUsb.Lib.WorkQueue.Overtaking
import VirtUsb.Lib.WorkQueue.Ready
import VirtUsb.DataPlane.Overtaking
import VirtUsb.DataPlane.Undisturbed
import VirtUsb.DataPlane.References
import VirtUsb.DataPlane.WakeUps
import VirtUsb.Library.Requests
import VirtUsb.Library.Dispatch
import VirtUsb.Loading.Module
import VirtUsb.Loading.Load
import VirtUsb.Loading.Unload
import VirtUsb.Loading.Cycle
import VirtUsb.Tools.TestDevice
import VirtUsb.Tools.Enumeration
import VirtUsb.Serving.Binders
import VirtUsb.Tools.Session
import VirtUsb.Lib.Numeral
import VirtUsb.Tools.Numbers
import VirtUsb.Tools.Command
import VirtUsb.Library.Open
import VirtUsb.Tools.Virtusbctl
import VirtUsb.Serving.Stale
import VirtUsb.Serving.Dequeue
import VirtUsb.Planes.Control
import VirtUsb.Planes.Traffic
