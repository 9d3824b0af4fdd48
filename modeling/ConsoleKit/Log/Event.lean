import ConsoleKit.Framework.CString

/-! # Log events

    The data of `ck-log-event.h`.  The union of `CkLogEvent` and its type are
    one inductive type, so that an event cannot carry the data of another
    type.
-/

namespace Log

open Libc

/-- `CkLogEventType`, without its prefix. -/
inductive CkLogEventType where
  | NONE | START | STOP
  | SYSTEM_START | SYSTEM_STOP | SYSTEM_RESTART | SYSTEM_SUSPEND | SYSTEM_HIBERNATE
  | SYSTEM_RUNLEVEL_CHANGED
  | SEAT_ADDED | SEAT_REMOVED
  | SEAT_SESSION_ADDED | SEAT_SESSION_REMOVED
  | SEAT_DEVICE_ADDED | SEAT_DEVICE_REMOVED
  | SEAT_ACTIVE_SESSION_CHANGED
  deriving DecidableEq, Repr

structure CkLogSystemStartEvent where
  kernel_release : Option CString
  boot_arguments : Option CString
  deriving DecidableEq

structure CkLogSeatAddedEvent where
  seat_id : Option CString
  seat_kind : Int32
  deriving DecidableEq

/-- `CkLogSeatRemovedEvent` has the same fields. -/
abbrev CkLogSeatRemovedEvent := CkLogSeatAddedEvent

structure CkLogSeatSessionAddedEvent where
  seat_id : Option CString
  session_id : Option CString
  session_type : Option CString
  session_x11_display : Option CString
  session_x11_display_device : Option CString
  session_display_device : Option CString
  session_remote_host_name : Option CString
  session_is_local : Bool
  session_unix_user : UInt32
  session_creation_time : Option CString
  deriving DecidableEq

/-- `CkLogSeatSessionRemovedEvent` has the same fields. -/
abbrev CkLogSeatSessionRemovedEvent := CkLogSeatSessionAddedEvent

structure CkLogSeatActiveSessionChangedEvent where
  seat_id : Option CString
  session_id : Option CString
  deriving DecidableEq

structure CkLogSeatDeviceAddedEvent where
  seat_id : Option CString
  device_type : Option CString
  device_id : Option CString
  deriving DecidableEq

/-- `CkLogSeatDeviceRemovedEvent` has the same fields. -/
abbrev CkLogSeatDeviceRemovedEvent := CkLogSeatDeviceAddedEvent

/-- The union of `CkLogEvent`, tagged by the type of the event. -/
inductive CkLogEventData where
  | none | start | stop
  | system_start (e : CkLogSystemStartEvent)
  | system_stop | system_restart | system_suspend | system_hibernate
  | system_runlevel_changed
  | seat_added (e : CkLogSeatAddedEvent)
  | seat_removed (e : CkLogSeatRemovedEvent)
  | seat_session_added (e : CkLogSeatSessionAddedEvent)
  | seat_session_removed (e : CkLogSeatSessionRemovedEvent)
  | seat_device_added (e : CkLogSeatDeviceAddedEvent)
  | seat_device_removed (e : CkLogSeatDeviceRemovedEvent)
  | seat_active_session_changed (e : CkLogSeatActiveSessionChangedEvent)
  deriving DecidableEq

def CkLogEventData.type : CkLogEventData → CkLogEventType
  | .none => .NONE
  | .start => .START
  | .stop => .STOP
  | .system_start _ => .SYSTEM_START
  | .system_stop => .SYSTEM_STOP
  | .system_restart => .SYSTEM_RESTART
  | .system_suspend => .SYSTEM_SUSPEND
  | .system_hibernate => .SYSTEM_HIBERNATE
  | .system_runlevel_changed => .SYSTEM_RUNLEVEL_CHANGED
  | .seat_added _ => .SEAT_ADDED
  | .seat_removed _ => .SEAT_REMOVED
  | .seat_session_added _ => .SEAT_SESSION_ADDED
  | .seat_session_removed _ => .SEAT_SESSION_REMOVED
  | .seat_device_added _ => .SEAT_DEVICE_ADDED
  | .seat_device_removed _ => .SEAT_DEVICE_REMOVED
  | .seat_active_session_changed _ => .SEAT_ACTIVE_SESSION_CHANGED

/-- A time; `tv_usec` counts the microseconds of the second and is not negative. -/
structure GTimeVal where
  tv_sec : Int64
  tv_usec : Nat
  deriving DecidableEq

structure CkLogEvent where
  event : CkLogEventData
  timestamp : GTimeVal
  deriving DecidableEq

end Log
