import ConsoleKit.Framework.Regex
import ConsoleKit.Log.Event

/-! # Writing and reading log events

    Model of `ck_log_event_to_string` and `ck_log_event_fill_from_string`
    of `ck-log-event.c`.
-/

namespace Log

open Libc

/-! ## Section 1: Writing -/

def event_type_to_name : CkLogEventType → CString
  | .SEAT_ADDED => cstr "SEAT_ADDED"
  | .SEAT_REMOVED => cstr "SEAT_REMOVED"
  | .SYSTEM_STOP => cstr "SYSTEM_STOP"
  | .SYSTEM_RESTART => cstr "SYSTEM_RESTART"
  | .SYSTEM_START => cstr "SYSTEM_START"
  | .SEAT_SESSION_ADDED => cstr "SEAT_SESSION_ADDED"
  | .SEAT_SESSION_REMOVED => cstr "SEAT_SESSION_REMOVED"
  | .SEAT_DEVICE_ADDED => cstr "SEAT_DEVICE_ADDED"
  | .SEAT_DEVICE_REMOVED => cstr "SEAT_DEVICE_REMOVED"
  | .SEAT_ACTIVE_SESSION_CHANGED => cstr "SEAT_ACTIVE_SESSION_CHANGED"
  | _ => cstr "UNKNOWN"

def add_log_for_any (timestamp : GTimeVal) (type : CkLogEventType) : CString :=
  percent_u timestamp.tv_sec.toUInt64.toNat ++ cstr "." ++
    percent_03u (timestamp.tv_usec / 1000 % 2 ^ 32) ++ cstr " type=" ++
    event_type_to_name type ++ cstr " : "

def add_log_for_seat_added (e : CkLogSeatAddedEvent) : CString :=
  cstr "seat-id='" ++ (percent_s e.seat_id ++ (cstr "' seat-kind=" ++ percent_d e.seat_kind))

def add_log_for_seat_removed (e : CkLogSeatRemovedEvent) : CString :=
  cstr "seat-id='" ++ (percent_s e.seat_id ++ (cstr "' seat-kind=" ++ percent_d e.seat_kind))

/-- `s ? s : ""` -/
def or_empty (s : Option CString) : CString := s.getD []

/-- The text of both session events. -/
def session_text (e : CkLogSeatSessionAddedEvent) : CString :=
  cstr "seat-id='" ++ (or_empty e.seat_id ++
  (cstr "' session-id='" ++ (or_empty e.session_id ++
  (cstr "' session-type='" ++ (or_empty e.session_type ++
  (cstr "' session-x11-display='" ++ (or_empty e.session_x11_display ++
  (cstr "' session-x11-display-device='" ++ (or_empty e.session_x11_display_device ++
  (cstr "' session-display-device='" ++ (or_empty e.session_display_device ++
  (cstr "' session-remote-host-name='" ++ (or_empty e.session_remote_host_name ++
  (cstr "' session-is-local=" ++ ((if e.session_is_local then cstr "TRUE" else cstr "FALSE") ++
  (cstr " session-unix-user=" ++ (percent_u e.session_unix_user.toNat ++
  (cstr " session-creation-time='" ++ (or_empty e.session_creation_time ++
  cstr "'")))))))))))))))))))

def add_log_for_seat_session_added (e : CkLogSeatSessionAddedEvent) : CString := session_text e

def add_log_for_seat_session_removed (e : CkLogSeatSessionRemovedEvent) : CString :=
  session_text e

/-- Not implemented in the source. -/
def add_log_for_system_stop : CString := []

/-- Not implemented in the source. -/
def add_log_for_system_restart : CString := []

def add_log_for_system_start (e : CkLogSystemStartEvent) : CString :=
  cstr "kernel-release='" ++ (or_empty e.kernel_release ++
  (cstr "' boot-arguments='" ++ (or_empty e.boot_arguments ++ cstr "'")))

/-- Not implemented in the source. -/
def add_log_for_system_suspend : CString := []

/-- Not implemented in the source. -/
def add_log_for_system_hibernate : CString := []

def add_log_for_seat_active_session_changed (e : CkLogSeatActiveSessionChangedEvent) :
    CString :=
  cstr "seat-id='" ++ (or_empty e.seat_id ++
  (cstr "' session-id='" ++ (or_empty e.session_id ++ cstr "'")))

/-- The text of both device events. -/
def device_text (e : CkLogSeatDeviceAddedEvent) : CString :=
  cstr "seat-id='" ++ (or_empty e.seat_id ++
  (cstr "' device-id='" ++ (or_empty e.device_id ++
  (cstr "' device-type='" ++ (or_empty e.device_type ++ cstr "'")))))

def add_log_for_seat_device_added (e : CkLogSeatDeviceAddedEvent) : CString := device_text e

def add_log_for_seat_device_removed (e : CkLogSeatDeviceRemovedEvent) : CString := device_text e

/-- What follows the header; `none` is `g_assert_not_reached`. -/
def add_log_for_data : CkLogEventData → Option CString
  | .seat_added e => some (add_log_for_seat_added e)
  | .seat_removed e => some (add_log_for_seat_removed e)
  | .system_stop => some add_log_for_system_stop
  | .system_restart => some add_log_for_system_restart
  | .system_start e => some (add_log_for_system_start e)
  | .system_suspend => some add_log_for_system_suspend
  | .system_hibernate => some add_log_for_system_hibernate
  | .seat_session_added e => some (add_log_for_seat_session_added e)
  | .seat_session_removed e => some (add_log_for_seat_session_removed e)
  | .seat_device_added e => some (add_log_for_seat_device_added e)
  | .seat_device_removed e => some (add_log_for_seat_device_removed e)
  | .seat_active_session_changed e => some (add_log_for_seat_active_session_changed e)
  | _ => none

def ck_log_event_to_string (event : CkLogEvent) : Option CString :=
  (add_log_for_data event.event).map fun text =>
    add_log_for_any event.timestamp event.event.type ++ text

/-! ## Section 2: The patterns -/

/-- `[a-zA-Z0-9/]` -/
def id_char (c : Char) : Bool := c.isAlphanum || c = '/'

/-- `[a-zA-Z0-9 ]` -/
def type_char (c : Char) : Bool := c.isAlphanum || c = ' '

/-- `[0-9a-zA-Z.:]` -/
def display_char (c : Char) : Bool := c.isAlphanum || c = '.' || c = ':'

/-- `[^']` -/
def not_quote (c : Char) : Bool := c ≠ '\''

/-- `.`: GRegex takes any of the Unicode line ends for the end of a line. -/
def dot (c : Char) : Bool :=
  !(c = '\n' || c = '\x0b' || c = '\x0c' || c = '\r' ||
    c = '\u0085' || c = '\u2028' || c = '\u2029')

/-- `seat-id='(?P<seatid>[a-zA-Z0-9/]+)' seat-kind=(?P<sessionid>[0-9]*)` -/
def seat_regex : Regex :=
  .cat [.lit (cstr "seat-id='"), .capture "seatid" 1 id_char,
    .lit (cstr "' seat-kind="), .capture "sessionid" 0 Char.isDigit]

/-- The pattern of both session events:
    `seat-id='(?P<seatid>[a-zA-Z0-9/]+)' session-id='(?P<sessionid>[a-zA-Z0-9/]+)'`
    `session-type='(?P<sessiontype>[a-zA-Z0-9 ]*)'`
    `session-x11-display='(?P<sessionx11display>[0-9a-zA-Z.:]*)'`
    `session-x11-display-device='(?P<sessionx11displaydevice>[^']*)'`
    `session-display-device='(?P<sessiondisplaydevice>[^']*)'`
    `session-remote-host-name='(?P<sessionremovehostname>[^']*)'`
    `session-is-local=(?P<sessionislocal>[a-zA-Z]*)`
    `session-unix-user=(?P<sessionunixuser>[0-9]*)`
    `session-creation-time='(?P<sessioncreationtime>[^']*)'`,
    with one space between two lines. -/
def session_regex : Regex :=
  .cat [.lit (cstr "seat-id='"), .capture "seatid" 1 id_char,
    .lit (cstr "' session-id='"), .capture "sessionid" 1 id_char,
    .lit (cstr "' session-type='"), .capture "sessiontype" 0 type_char,
    .lit (cstr "' session-x11-display='"), .capture "sessionx11display" 0 display_char,
    .lit (cstr "' session-x11-display-device='"), .capture "sessionx11displaydevice" 0 not_quote,
    .lit (cstr "' session-display-device='"), .capture "sessiondisplaydevice" 0 not_quote,
    .lit (cstr "' session-remote-host-name='"), .capture "sessionremovehostname" 0 not_quote,
    .lit (cstr "' session-is-local="), .capture "sessionislocal" 0 Char.isAlpha,
    .lit (cstr " session-unix-user="), .capture "sessionunixuser" 0 Char.isDigit,
    .lit (cstr " session-creation-time='"), .capture "sessioncreationtime" 0 not_quote,
    .lit (cstr "'")]

/-- `(kernel-release='(?P<release>[^']+)')?[ ]?(boot-arguments='(?P<arguments>.*)')?` -/
def system_start_regex : Regex :=
  .cat [.opt (.cat [.lit (cstr "kernel-release='"), .capture "release" 1 not_quote,
      .lit (cstr "'")]),
    .opt (.lit (cstr " ")),
    .opt (.cat [.lit (cstr "boot-arguments='"), .capture "arguments" 0 dot, .lit (cstr "'")])]

/-- `seat-id='(?P<seatid>[a-zA-Z0-9/]+)' session-id='(?P<sessionid>[a-zA-Z0-9/]*)'` -/
def active_session_regex : Regex :=
  .cat [.lit (cstr "seat-id='"), .capture "seatid" 1 id_char,
    .lit (cstr "' session-id='"), .capture "sessionid" 0 id_char, .lit (cstr "'")]

/-- `seat-id='(?P<seatid>[a-zA-Z0-9/]+)' device-id='(?P<deviceid>[^']+)'`
    `device-type='(?P<devicetype>[^']+)'` -/
def device_regex : Regex :=
  .cat [.lit (cstr "seat-id='"), .capture "seatid" 1 id_char,
    .lit (cstr "' device-id='"), .capture "deviceid" 1 not_quote,
    .lit (cstr "' device-type='"), .capture "devicetype" 1 not_quote, .lit (cstr "'")]

/-! ## Section 3: Reading

    `e` is what the event holds before: zeroed memory, for the only caller
    `ck_log_event_new_from_string`. -/

def event_name_to_type (event_name : CString) : Option CkLogEventType :=
  if event_name = cstr "SEAT_ADDED" then some .SEAT_ADDED
  else if event_name = cstr "SEAT_REMOVED" then some .SEAT_REMOVED
  else if event_name = cstr "SYSTEM_STOP" then some .SYSTEM_STOP
  else if event_name = cstr "SYSTEM_RESTART" then some .SYSTEM_RESTART
  else if event_name = cstr "SYSTEM_START" then some .SYSTEM_START
  else if event_name = cstr "SEAT_SESSION_ADDED" then some .SEAT_SESSION_ADDED
  else if event_name = cstr "SEAT_SESSION_REMOVED" then some .SEAT_SESSION_REMOVED
  else if event_name = cstr "SEAT_DEVICE_ADDED" then some .SEAT_DEVICE_ADDED
  else if event_name = cstr "SEAT_DEVICE_REMOVED" then some .SEAT_DEVICE_REMOVED
  else if event_name = cstr "SEAT_ACTIVE_SESSION_CHANGED" then some .SEAT_ACTIVE_SESSION_CHANGED
  else none

/-- `sscanf (s, "%lu.%u type=%30s :", &sec, &frac, buf)`, when it converts all
    three: what follows the last conversion does not count. -/
def sscanf_header (s : CString) : Option (Nat × Nat × CString) := do
  let (sec, s) ← scan_unsigned 64 s
  let s ← scan_literal (cstr ".") s
  let (frac, s) ← scan_unsigned 32 s
  let s ← scan_literal (cstr "type=") (scan_space s)
  let buf ← scan_word 30 s
  return (sec, frac, buf)

def skip_header (s : CString) : Option CString :=
  match g_strstr_len (cstr " : ") s with
  | some r => some (r.drop 3)
  | none => (g_strstr_len (cstr " :") s).map fun r => r.drop 2

def parse_value_as_ulong (value : CString) : Option Nat :=
  let (n, rest) := strtoul value
  if value = [] ∨ rest ≠ [] then none else some n

/-- The body of both seat events. -/
def parse_seat (str : CString) (e : CkLogSeatAddedEvent) : Option CkLogSeatAddedEvent := do
  let s ← skip_header str
  let groups ← seat_regex.search s
  let e := { e with seat_id := seat_regex.fetchNamed groups "seatid" }
  match (seat_regex.fetchNamed groups "seatkind").bind parse_value_as_ulong with
  | some l => return { e with seat_kind := Int32.ofNat l }
  | none => return e

def parse_log_for_seat_added (str : CString) (e : CkLogSeatAddedEvent) :
    Option CkLogSeatAddedEvent := parse_seat str e

def parse_log_for_seat_removed (str : CString) (e : CkLogSeatRemovedEvent) :
    Option CkLogSeatRemovedEvent := parse_seat str e

def parse_log_for_system_stop (str : CString) : Option Unit :=
  (skip_header str).map fun _ => ()

def parse_log_for_system_restart (str : CString) : Option Unit :=
  (skip_header str).map fun _ => ()

def parse_log_for_system_start (str : CString) : Option CkLogSystemStartEvent := do
  let s ← skip_header str
  let groups ← system_start_regex.search s
  return {
    kernel_release := system_start_regex.fetchNamed groups "release"
    boot_arguments := system_start_regex.fetchNamed groups "arguments" }

/-- The body of both session events. -/
def parse_session (str : CString) (e : CkLogSeatSessionAddedEvent) :
    Option CkLogSeatSessionAddedEvent := do
  let s ← skip_header str
  let groups ← session_regex.search s
  let fetch := session_regex.fetchNamed groups
  let e := { e with
    seat_id := fetch "seatid"
    session_id := fetch "sessionid"
    session_type := fetch "sessiontype"
    session_x11_display := fetch "sessionx11display"
    session_x11_display_device := fetch "sessionx11displaydevice"
    session_display_device := fetch "sessiondisplaydevice"
    session_remote_host_name := fetch "sessionremotehostname"
    session_creation_time := fetch "sessioncreationtime"
    session_is_local := fetch "sessionislocal" = some (cstr "TRUE") }
  match (fetch "sessionunixuser").bind parse_value_as_ulong with
  | some l => return { e with session_unix_user := UInt32.ofNat l }
  | none => return e

def parse_log_for_seat_session_added (str : CString) (e : CkLogSeatSessionAddedEvent) :
    Option CkLogSeatSessionAddedEvent := parse_session str e

def parse_log_for_seat_session_removed (str : CString) (e : CkLogSeatSessionRemovedEvent) :
    Option CkLogSeatSessionRemovedEvent := parse_session str e

def parse_log_for_seat_active_session_changed (str : CString) :
    Option CkLogSeatActiveSessionChangedEvent := do
  let s ← skip_header str
  let groups ← active_session_regex.search s
  return {
    seat_id := active_session_regex.fetchNamed groups "seatid"
    session_id := active_session_regex.fetchNamed groups "sessionid" }

/-- The body of both device events. -/
def parse_device (str : CString) : Option CkLogSeatDeviceAddedEvent := do
  let s ← skip_header str
  let groups ← device_regex.search s
  return {
    seat_id := device_regex.fetchNamed groups "seatid"
    device_id := device_regex.fetchNamed groups "deviceid"
    device_type := device_regex.fetchNamed groups "devicetype" }

def parse_log_for_seat_device_added (str : CString) : Option CkLogSeatDeviceAddedEvent :=
  parse_device str

def parse_log_for_seat_device_removed (str : CString) : Option CkLogSeatDeviceRemovedEvent :=
  parse_device str

def parse_log_for_any (str : CString) : Option (GTimeVal × CkLogEventType) := do
  let (sec, frac, buf) ← sscanf_header str
  let type ← event_name_to_type buf
  return ({ tv_sec := (UInt64.ofNat sec).toInt64, tv_usec := 1000 * frac % 2 ^ 32 }, type)

/-- The fields of zeroed memory that a parser may leave as they are. -/
def zeroed_seat : CkLogSeatAddedEvent where
  seat_id := none
  seat_kind := 0

def zeroed_session : CkLogSeatSessionAddedEvent where
  seat_id := none
  session_id := none
  session_type := none
  session_x11_display := none
  session_x11_display_device := none
  session_display_device := none
  session_remote_host_name := none
  session_is_local := false
  session_unix_user := 0
  session_creation_time := none

/-- The parser for each type. -/
def parse_log_for_data (str : CString) : CkLogEventType → Option CkLogEventData
  | .SEAT_ADDED => (parse_log_for_seat_added str zeroed_seat).map .seat_added
  | .SEAT_REMOVED => (parse_log_for_seat_removed str zeroed_seat).map .seat_removed
  | .SYSTEM_STOP => (parse_log_for_system_stop str).map fun _ => .system_stop
  | .SYSTEM_RESTART => (parse_log_for_system_restart str).map fun _ => .system_restart
  | .SYSTEM_START => (parse_log_for_system_start str).map .system_start
  | .SEAT_SESSION_ADDED =>
      (parse_log_for_seat_session_added str zeroed_session).map .seat_session_added
  | .SEAT_SESSION_REMOVED =>
      (parse_log_for_seat_session_removed str zeroed_session).map .seat_session_removed
  | .SEAT_DEVICE_ADDED => (parse_log_for_seat_device_added str).map .seat_device_added
  | .SEAT_DEVICE_REMOVED => (parse_log_for_seat_device_removed str).map .seat_device_removed
  | .SEAT_ACTIVE_SESSION_CHANGED =>
      (parse_log_for_seat_active_session_changed str).map .seat_active_session_changed
  | _ => none

/-- `ck_log_event_fill_from_string` on a zeroed event; `none` is FALSE. -/
def ck_log_event_fill_from_string (str : CString) : Option CkLogEvent := do
  let (timestamp, type) ← parse_log_for_any str
  let event ← parse_log_for_data str type
  return { event := event, timestamp := timestamp }

end Log
