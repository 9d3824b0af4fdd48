import ConsoleKit.Framework.CString
import ConsoleKit.Framework.HashTable

/-! # The state of the manager

    The objects of `ck-manager.c`, `ck-seat.c`, `ck-session.c`,
    `ck-session-leader.c` and `ck-vt-monitor.c` that opening, closing and
    activating sessions works on.  An object is a reference into a heap;
    references are never used twice.  A callout runs the main loop, so the
    functions that wait for one return the calls that are left to make.
-/

namespace CkManager

open Libc

abbrev SessionRef := Nat
abbrev SeatRef := Nat
abbrev LeaderRef := Nat

/-! ## Section 1: Objects -/

/-- `CkSessionLeader`; `job` tells whether its collector is running. -/
structure CkSessionLeader where
  uid : Nat
  pid : Nat
  service_name : CString
  session_id : CString
  cookie : CString
  job : Bool

/-- `CkSession`.  The source keeps the cookie of the leader, and the id and
    the path of the seat. -/
structure CkSession where
  id : CString
  leader : LeaderRef
  display_device : Option CString
  x11_display_device : Option CString
  x11_display : Option CString
  remote_host_name : Option CString
  login_session_id : Option CString
  unix_user : Nat
  vtnr : Nat
  /-- As `g_time_val_to_iso8601` prints it. -/
  creation_time : CString
  is_local : Bool
  seat : Option SeatRef
  active : Bool
  /-- The seats connected to the `activate` signal. -/
  activate : List SeatRef

inductive CkSeatKind where
  | STATIC | DYNAMIC
  deriving DecidableEq

/-- `CkSeat`; `connected` tells whether the manager listens to its signals. -/
structure CkSeat where
  id : CString
  kind : CkSeatKind
  sessions : HashTable CString SessionRef
  active_session : Option SessionRef
  connected : Bool

/-- `CkVtMonitor`, of which there is one for all static seats. -/
structure CkVtMonitor where
  /-- Whether the console could be opened. -/
  vfd : Bool
  active_num : Nat
  /-- The seats connected to `active-changed`. -/
  seats : List SeatRef
  /-- Whether `process_queue` is running. -/
  processing : Bool

/-- The signals of the manager on the bus. -/
inductive ManagerSignal where
  | SeatAdded (seat : SeatRef)
  | SeatRemoved (seat : SeatRef)
  | SessionNew (session : SessionRef)
  | SessionRemoved (session : SessionRef)
  deriving DecidableEq

structure State where
  session : SessionRef → CkSession
  seat : SeatRef → CkSeat
  leader : LeaderRef → CkSessionLeader
  next_session : SessionRef
  next_seat : SeatRef
  next_leader : LeaderRef
  sessions : HashTable CString SessionRef
  seats : HashTable CString SeatRef
  leaders : HashTable CString LeaderRef
  session_serial : Nat
  seat_serial : Nat
  vt_monitor : CkVtMonitor
  /-- The unique names that the bus has reported as gone. -/
  gone : List CString
  signals : List ManagerSignal
  /-- The sessions whose reference the table has given up. -/
  unreffed : List SessionRef
  /-- The sessions whose key in the table was freed. -/
  key_freed : List SessionRef
  /-- The sessions of which `remove_session_for_cookie` returned TRUE. -/
  succeeded : List SessionRef

/-- The programs that `ck_run_programs` waits for. -/
inductive Callout where
  | seat_added | session_added | session_removed | seat_active_session_changed | seat_removed
  deriving DecidableEq

/-- How a `.seat` file fares: `ck_seat_new_from_file` and `ck_seat_register`. -/
structure SeatFile where
  loads : Bool
  registers : Bool
  deriving DecidableEq

/-- Who called `remove_session_for_cookie`. -/
inductive RemovalCaller where
  | dbus_close_session | destroy_entity
  deriving DecidableEq

/-- The calls that are left to make. -/
inductive Call where
  /-- The main loop of `ck_run_programs`. -/
  | callout (action : Callout)
  | load_seats_from_dir (files : List SeatFile)
  /-- The rest of adding a seat, after its programs. -/
  | seat_added (seat : SeatRef)
  | ck_seat_add_session (seat : Option SeatRef) (session : SessionRef)
  /-- The rest of `open_session_for_leader`, after the session has its seat. -/
  | session_opened (session : SessionRef) (is_local : Bool)
  | maybe_update_active_session (seat : SeatRef)
  | update_active_vt (seat : SeatRef) (num : Nat)
  /-- The end of `process_queue`. -/
  | queue_processed
  /-- `remove_seat`, if the seat is dynamic. -/
  | remove_dynamic_seat (seat : SeatRef)
  /-- The rest of `remove_seat`, after its programs. -/
  | seat_removed (seat : SeatRef)
  /-- The rest of `remove_session_for_cookie`, after the seat, and of its caller. -/
  | remove_session (leader : LeaderRef) (session : SessionRef) (caller : RemovalCaller)
  | destroy_entity (leader : LeaderRef)
  deriving DecidableEq

namespace State

/-! ## Section 2: Updates -/

def setSession (m : State) (x : SessionRef) (s : CkSession) : State :=
  { m with session := Function.update m.session x s }

def setSeat (m : State) (d : SeatRef) (s : CkSeat) : State :=
  { m with seat := Function.update m.seat d s }

def setLeader (m : State) (l : LeaderRef) (s : CkSessionLeader) : State :=
  { m with leader := Function.update m.leader l s }

/-! ## Section 3: Identifiers -/

/-- A serial number and the next one: `first` follows the largest `gint32`. -/
def nextSerial (first serial : Nat) : Nat := if serial + 1 < 2 ^ 31 then serial + 1 else first

/-- The loop `again` of the functions that generate an identifier, for at
    most `n` rounds. -/
def generateId (label : CString) (first : Nat) (taken : CString → Bool) :
    Nat → Nat → Option (CString × Nat)
  | 0, _ => none
  | n + 1, serial =>
      let id := label ++ percent_u serial
      if taken id then generateId label first taken n (nextSerial first serial)
      else some (id, nextSerial first serial)

theorem generateId_free {label : CString} {first n serial : Nat} {taken : CString → Bool}
    {r : CString × Nat} (h : generateId label first taken n serial = some r) :
    taken r.1 = false := by
  induction n generalizing serial with
  | zero => cases h
  | succ n ih =>
    rw [generateId] at h
    split at h
    · exact ih h
    · rename_i hfree
      cases h
      exact Bool.eq_false_iff.mpr hfree

/-- `none` if the loop does not end: it has seen every serial number when it
    has tried more identifiers than there are sessions. -/
def generate_session_id (m : State) : Option (CString × State) :=
  (generateId (cstr "Session") 1 (fun id => (m.sessions.lookup id).isSome)
    (m.sessions.entries.length + 1) m.session_serial).map
    fun r => (r.1, { m with session_serial := r.2 })

theorem generate_session_id_free {m m' : State} {id : CString}
    (h : m.generate_session_id = some (id, m')) :
    m.sessions.lookup id = none ∧ ∃ serial, m' = { m with session_serial := serial } := by
  obtain ⟨r, hr, heq⟩ := Option.map_eq_some_iff.mp h
  cases heq
  exact ⟨Option.not_isSome_iff_eq_none.mp (Bool.eq_false_iff.mp (generateId_free hr)), _, rfl⟩

def generate_seat_id (m : State) : Option (CString × State) :=
  (generateId (cstr "seat") 0 (fun id => (m.seats.lookup id).isSome)
    (m.seats.entries.length + 1) m.seat_serial).map
    fun r => (r.1, { m with seat_serial := r.2 })

theorem generate_seat_id_free {m m' : State} {sid : CString}
    (h : m.generate_seat_id = some (sid, m')) :
    m.seats.lookup sid = none ∧ ∃ serial, m' = { m with seat_serial := serial } := by
  obtain ⟨r, hr, heq⟩ := Option.map_eq_some_iff.mp h
  cases heq
  exact ⟨Option.not_isSome_iff_eq_none.mp (Bool.eq_false_iff.mp (generateId_free hr)), _, rfl⟩

end State

end CkManager
