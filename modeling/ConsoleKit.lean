import ConsoleKit.Framework.CString
import ConsoleKit.Framework.System
import ConsoleKit.Framework.Regex
import ConsoleKit.Framework.Shell
import ConsoleKit.Inhibit.Model
import ConsoleKit.Inhibit.Release
import ConsoleKit.Inhibit.Invariant
import ConsoleKit.Inhibit.Counters
import ConsoleKit.Log.Event
import ConsoleKit.Log.Codec
import ConsoleKit.Log.Header
import ConsoleKit.Log.RoundTrip
import ConsoleKit.SystemAction.Model
import ConsoleKit.SystemAction.Protocol
import ConsoleKit.SystemAction.Blocked
import ConsoleKit.SystemAction.Delay
import ConsoleKit.Framework.HashTable
import ConsoleKit.Manager.State
import ConsoleKit.Manager.Seat
import ConsoleKit.Manager.Handlers
import ConsoleKit.Manager.Stack
import ConsoleKit.Manager.Sessions
import ConsoleKit.Manager.Removal
import ConsoleKit.Manager.Seats
import ConsoleKit.Manager.Members
import ConsoleKit.Manager.Attached
import ConsoleKit.Manager.NameOwner
import ConsoleKit.Manager.Loss
import ConsoleKit.Manager.Active
import ConsoleKit.Manager.Parameters
import ConsoleKit.Manager.Local
import ConsoleKit.Device.Model
import ConsoleKit.Device.Control
import ConsoleKit.Device.View
import ConsoleKit.Vt.Monitor
import ConsoleKit.Vt.Queue
import ConsoleKit.Vt.Watch
import ConsoleKit.Vt.Console
import ConsoleKit.Vt.Switch
import ConsoleKit.Framework.Notify
import ConsoleKit.Manager.Transitions
import ConsoleKit.SystemAction.Users
import ConsoleKit.Log.Forge
import ConsoleKit.Inhibit.Refusal
import ConsoleKit.SystemAction.Replies
import ConsoleKit.Manager.SeatNames
import ConsoleKit.Manager.Activation
import ConsoleKit.Manager.ActivationReplies
import ConsoleKit.Manager.Table
import ConsoleKit.Manager.RuntimeDir
import ConsoleKit.SystemAction.IdleHint
import ConsoleKit.Framework.KeyFile
import ConsoleKit.Database.Dump
import ConsoleKit.Database.Write
import ConsoleKit.Database.Acl
import ConsoleKit.Framework.Journal
import ConsoleKit.History.Model
import ConsoleKit.History.Ids
import ConsoleKit.History.Order
import ConsoleKit.History.Ends
import ConsoleKit.Device.Activate
import ConsoleKit.Device.Pause
import ConsoleKit.Manager.Close
import ConsoleKit.Manager.OpenFailure
import ConsoleKit.Leader.Job
import ConsoleKit.Leader.Lifecycle
import ConsoleKit.Leader.Output
import ConsoleKit.Leader.Parameters
import ConsoleKit.Leader.Lines
import ConsoleKit.Leader.Merge
import ConsoleKit.Leader.Command
import ConsoleKit.Device.Ownership
import ConsoleKit.Device.Atomic
import ConsoleKit.Device.Descriptors
import ConsoleKit.Database.UserSections
import ConsoleKit.Framework.Iso8601
import ConsoleKit.Manager.Oldest
import ConsoleKit.Inhibit.What
import ConsoleKit.Leader.Environ
import ConsoleKit.Manager.ConsoleDevice
import ConsoleKit.FileMonitor.Model
import ConsoleKit.FileMonitor.Lists
import ConsoleKit.FileMonitor.Tables
import ConsoleKit.FileMonitor.Delivery
import ConsoleKit.FileMonitor.TtyIdle
import ConsoleKit.Database.Callout
import ConsoleKit.Database.RunPrograms
import ConsoleKit.Database.RunOrder
import ConsoleKit.Log.Stream
import ConsoleKit.Log.Memory
import ConsoleKit.Log.Queue
import ConsoleKit.Framework.Lines
import ConsoleKit.History.Logs
import ConsoleKit.History.Frequent
import ConsoleKit.Framework.Scanf
import ConsoleKit.Leader.Stat
import ConsoleKit.Framework.Counter
import ConsoleKit.Manager.Ids
import ConsoleKit.Log.Files
import ConsoleKit.History.Pipeline
import ConsoleKit.Leader.Collect
import ConsoleKit.Client.Pam
import ConsoleKit.Client.Logins
import ConsoleKit.Framework.Feed
import ConsoleKit.Manager.Announce
import ConsoleKit.Manager.Feed
import ConsoleKit.Manager.Lookup
import ConsoleKit.Client.Desktop
