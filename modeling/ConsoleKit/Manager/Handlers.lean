import ConsoleKit.Framework.System
import ConsoleKit.Manager.Parameters
import ConsoleKit.Manager.Seat

/-! # The event handlers of the manager

    Model of the functions of `ck-manager.c` that open and close sessions,
    and of the main loop that dispatches events to them.  While a callout
    waits for its program, the main loop dispatches further events, so the
    calls that are left to make form a stack: an event can be dispatched
    when the stack is empty or a callout is on top of it.

    The bus delivers what a client sent before it reports that the client
    is gone, so no request of a name that is gone is dispatched.
-/

namespace CkManager

open Libc

/-! ## Section 1: What the environment decides -/

/-- How opening a session goes: `created` is the answer of
    `ck_session_new_with_parameters`, `registers` that of `ck_seat_register`. -/
structure Opening where
  parameters : List (Parameter × GVariant)
  transform : GValueTransform
  creation_time : CString
  created : Bool
  registers : Bool

inductive Event where
  /-- `OpenSession` and `OpenSessionWithParameters`: what `get_caller_info`
      says, the cookie that is generated, and whether the collector starts. -/
  | open_session (sender : CString) (caller : Option (Nat × Nat)) (cookie : CString)
      (started : Bool)
  /-- The collector of a leader exits; `none` when it fails. -/
  | job_completed (leader : LeaderRef) (result : Option Opening)
  | close_session (caller : Option (Nat × Nat)) (cookie : CString)
  | name_owner_notify (service_name old_service_name new_service_name : CString)
  /-- `process_queue` finds that another VT has become active. -/
  | process_queue (num : Nat)
  /-- The requests of the seat, the session and the manager to activate a
      session, with the answer of `ck_activate_console_num`. -/
  | seat_activate_session (seat : SeatRef) (ssid : CString) (switches : Bool)
  | seat_switch_to (seat : SeatRef) (vtnr : Nat) (switches : Bool)
  | session_activate (session : SessionRef) (switches : Bool)
  | activate_session (session_id : CString) (switches : Bool)
  | activate_session_on_seat (session_id seat_id : CString) (switches : Bool)
  | vt_leave (session : SessionRef)

namespace State

/-! ## Section 2: Seats -/

/-- A new seat; a static one listens to the VT monitor, even if it is dropped
    because it could not be registered. -/
def ck_seat_new (m : State) (sid : CString) (kind : CkSeatKind) : SeatRef × State :=
  let m' := { m with
    seat := Function.update m.seat m.next_seat
      { id := sid, kind := kind, sessions := ∅, active_session := none, connected := false }
    next_seat := m.next_seat + 1 }
  match kind with
  | .STATIC => (m.next_seat, { m' with
      vt_monitor := { m.vt_monitor with seats := m.vt_monitor.seats ++ [m.next_seat] } })
  | .DYNAMIC => (m.next_seat, m')

/-- What `add_new_seat` and `add_seat_for_file` do with their new seat. -/
def registerSeat (m : State) (d : SeatRef) (registers : Bool) :
    Option SeatRef × State × List Call :=
  if registers then
    let m := m.setSeat d { m.seat d with connected := true }
    (some d, { m with seats := m.seats.insert (m.seat d).id d },
      [.callout .seat_added, .seat_added d])
  else (none, m, [])

def add_new_seat (m : State) (kind : CkSeatKind) (registers : Bool) :
    Option (Option SeatRef × State × List Call) :=
  m.generate_seat_id.map fun (sid, m) =>
    let (d, m) := m.ck_seat_new sid kind
    m.registerSeat d registers

/-- The identifier is used up even if the file does not load. -/
def add_seat_for_file (m : State) (file : SeatFile) : Option (State × List Call) :=
  m.generate_seat_id.map fun (sid, m) =>
    if file.loads then
      let (d, m) := m.ck_seat_new sid .STATIC
      (m.registerSeat d file.registers).2
    else (m, [])

/-- `remove_seat`, which looks the seat up by its id. -/
def remove_seat (m : State) (d : SeatRef) : State × List Call :=
  match m.seats.lookup (m.seat d).id with
  | none => (m, [])
  | some orig =>
    let m := { m with seats := m.seats.erase (m.seat d).id }
    (m.setSeat orig { m.seat orig with connected := false },
      [.callout .seat_removed, .seat_removed orig])

/-- `IS_STR_SET` -/
def is_str_set (s : Option CString) : Bool := s ≠ none ∧ s ≠ some []

def find_seat_for_session (m : State) (x : SessionRef) : Option SeatRef :=
  let s := m.session x
  let is_static_x11 := is_str_set s.x11_display && is_str_set s.x11_display_device &&
    !is_str_set s.remote_host_name && s.is_local
  let is_static_text := !is_str_set s.x11_display && !is_str_set s.x11_display_device &&
    is_str_set s.display_device && !is_str_set s.remote_host_name && s.is_local
  if (is_static_x11 || is_static_text) && 0 < s.vtnr then m.seats.lookup (cstr "seat0")
  else none

/-! ## Section 3: Opening a session -/

def ck_session_new_with_parameters (m : State) (l : LeaderRef) (o : Opening) : CkSession where
  id := (m.leader l).session_id
  leader := l
  display_device := (property o.transform.to_string .display_device o.parameters).getLast?
  x11_display_device :=
    (property o.transform.to_string .x11_display_device o.parameters).getLast?
  x11_display := (property o.transform.to_string .x11_display o.parameters).getLast?
  remote_host_name := (property o.transform.to_string .remote_host_name o.parameters).getLast?
  -- a construct property, which is not set twice
  login_session_id := (property o.transform.to_string .login_session_id o.parameters).head?
  unix_user := (property o.transform.to_uint .unix_user o.parameters).getLast?.getD 0
  vtnr := (property o.transform.to_uint .vtnr o.parameters).getLast?.getD 0
  creation_time := o.creation_time
  is_local := (property o.transform.to_boolean .is_local o.parameters).getLast?.getD false
  seat := none
  active := false
  activate := []

/-- `g_hash_table_insert` of a new session: the table gives up the session
    that it had under the same id. -/
def insertSession (m : State) (x : SessionRef) (s : CkSession) : State :=
  { m with
    session := Function.update m.session x s
    next_session := x + 1
    sessions := m.sessions.insert s.id x
    unreffed := m.unreffed ++ (m.sessions.lookup s.id).toList }

def open_session_for_leader (m : State) (l : LeaderRef) (o : Opening) (is_local : Bool) :
    Option (State × List Call) :=
  if o.created then
    let x := m.next_session
    let m := m.insertSession x (m.ck_session_new_with_parameters l o)
    match m.find_seat_for_session x with
    | some d => some (m, [.ck_seat_add_session (some d) x, .session_opened x is_local])
    | none => (m.add_new_seat .DYNAMIC o.registers).map fun (seat, m, calls) =>
      -- create a new seat
        (m, calls ++ [.ck_seat_add_session seat x, .session_opened x is_local])
  else some (m, [])

/-- `g_strcmp0` compares two strings that may be NULL. -/
def _verify_login_session_id_is_local (m : State) (login_session_id : Option CString) : Bool :=
  m.sessions.values.any fun x =>
    (m.session x).login_session_id = login_session_id && (m.session x).is_local

/-- The loop of `verify_and_open_session_for_leader`, which ends when
    `is_local` has become TRUE. -/
def verify_is_local (m : State) : List (Parameter × GVariant) → Bool
  | [] => false
  | (prop_name, value) :: parameters =>
      let is_local := match prop_name with
        -- whatever the value is
        | .is_local => true
        | .login_session_id => m._verify_login_session_id_is_local (g_variant_get_string value)
        | _ => false
      is_local || m.verify_is_local parameters

def verify_and_open_session_for_leader (m : State) (l : LeaderRef) (o : Opening) :
    Option (State × List Call) :=
  m.open_session_for_leader l o (m.verify_is_local o.parameters)

/-- `job_completed` and `collect_parameters_cb`. -/
def job_completed (m : State) (l : LeaderRef) (result : Option Opening) :
    Option (State × List Call) :=
  let m := m.setLeader l { m.leader l with job := false }
  match result with
  | none => some (m, [])
  | some o => m.verify_and_open_session_for_leader l o

/-- `create_session_for_sender`: the leader is stored even if its collector
    does not start. -/
def create_session_for_sender (m : State) (sender : CString) (caller : Option (Nat × Nat))
    (cookie : CString) (started : Bool) : Option State :=
  match caller with
  | none => some m
  | some (uid, pid) => m.generate_session_id.map fun (ssid, m) =>
      { m with
        leader := Function.update m.leader m.next_leader
          { uid := uid, pid := pid, service_name := sender, session_id := ssid,
            cookie := cookie, job := started }
        next_leader := m.next_leader + 1
        leaders := m.leaders.insert cookie m.next_leader }

/-! ## Section 4: Removing a session -/

/-- The seat that is named by the id that the session keeps. -/
def seat_of_session (m : State) (x : SessionRef) : Option SeatRef :=
  (m.session x).seat.bind fun d => m.seats.lookup (m.seat d).id

/-- `remove_session_for_cookie` up to the session's seat; `none` when there is
    no session. -/
def remove_session_for_cookie (m : State) (l : LeaderRef) (caller : RemovalCaller) :
    Option (State × List Call) :=
  (m.sessions.lookup (m.leader l).session_id).map fun x =>
    match m.seat_of_session x with
    | some d =>
      let (m, calls) := m.ck_seat_remove_session d x
      (m, calls ++ [.remove_dynamic_seat d, .remove_session l x caller])
    | none => (m, [.remove_session l x caller])

/-- `ck_session_leader_cancel` -/
def ck_session_leader_cancel (m : State) (l : LeaderRef) : State :=
  m.setLeader l { m.leader l with job := false }

/-- The rest of `remove_session_for_cookie`, and of its caller. -/
def session_removed (m : State) (l : LeaderRef) (x : SessionRef) (caller : RemovalCaller) :
    State :=
  let m : State := { m with
    sessions := m.sessions.erase (m.leader l).session_id
    signals := m.signals ++ [.SessionRemoved x]
    unreffed := m.unreffed ++ [x]
    key_freed := m.key_freed ++ [x]
    succeeded := m.succeeded ++ [x] }
  match caller with
  | .dbus_close_session => { m with leaders := m.leaders.erase (m.leader l).cookie }
  | .destroy_entity => m.ck_session_leader_cancel l

/-- `paranoia_check_is_cookie_owner` -/
def paranoia_check_is_cookie_owner (m : State) (cookie : CString) (uid pid : Nat) :
    Option LeaderRef := do
  let l ← m.leaders.lookup cookie
  if (m.leader l).uid = uid ∧ (m.leader l).pid = pid then some l else none

/-- `dbus_close_session`; a refused call changes nothing. -/
def dbus_close_session (m : State) (caller : Option (Nat × Nat)) (cookie : CString) :
    State × List Call :=
  ((do
    let (uid, pid) ← caller
    let l ← m.paranoia_check_is_cookie_owner cookie uid pid
    m.remove_session_for_cookie l .dbus_close_session) : Option (State × List Call)).getD (m, [])

def destroy_entity (m : State) (l : LeaderRef) : State × List Call :=
  (m.remove_session_for_cookie l .destroy_entity).getD (m.ck_session_leader_cancel l, [])

/-- The order in which `g_ptr_array_remove_index_fast (entities, 0)` empties
    an array. -/
def removalOrder {α : Type} : List α → List α
  | [] => []
  | a :: as => a :: as.reverse

def remove_sessions_for_connection (m : State) (service_name : CString) : State × List Call :=
  let matches_name := fun (_ : CString) (l : LeaderRef) =>
    decide ((m.leader l).service_name = service_name)
  ({ m with leaders := m.leaders.keep matches_name },
    (removalOrder (m.leaders.stolen matches_name)).map fun e => .destroy_entity e.2)

def on_name_owner_notify (m : State) (service_name old_service_name new_service_name : CString) :
    State × List Call :=
  if new_service_name = [] then
    -- the owner of a unique name is the name itself
    let gone := if service_name = old_service_name then m.gone ++ [service_name] else m.gone
    ({ m with gone := gone }).remove_sessions_for_connection old_service_name
  else (m, [])

/-! ## Section 5: The active VT and activation requests -/

/-- `change_active_num` -/
def process_queue (m : State) (num : Nat) : State × List Call :=
  if m.vt_monitor.active_num ≠ num then
    ({ m with vt_monitor := { m.vt_monitor with active_num := num, processing := true } },
      (m.vt_monitor.seats.map fun d => .update_active_vt d num) ++ [.queue_processed])
  else (m, [])

/-- `dbus_activate_session_on_seat` of the manager. -/
def dbus_activate_session_on_seat (m : State) (session_id seat_id : CString) (switches : Bool) :
    State :=
  match m.sessions.lookup session_id, m.seats.lookup seat_id with
  | some x, some d => (m.ck_seat_activate_session d (some x) switches).1
  | _, _ => m

/-- `dbus_activate_session` of the manager. -/
def dbus_activate_session (m : State) (session_id : CString) (switches : Bool) : State :=
  match m.sessions.lookup session_id with
  | some x =>
    match (m.session x).seat with
    | some d => m.dbus_activate_session_on_seat session_id (m.seat d).id switches
    | none => m
  | none => m

/-! ## Section 6: The main loop -/

/-- The handler of an event: the state and the calls left to make when it
    first waits; `none` when the event cannot occur. -/
def dispatch (m : State) : Event → Option (State × List Call)
  | .open_session sender caller cookie started =>
      if sender ∉ m.gone ∧ cookie ∉ m.leaders then
        (m.create_session_for_sender sender caller cookie started).map fun m => (m, [])
      else none
  | .job_completed l result => if (m.leader l).job then m.job_completed l result else none
  | .close_session caller cookie => some (m.dbus_close_session caller cookie)
  | .name_owner_notify name old new => some (m.on_name_owner_notify name old new)
  | .process_queue num => if m.vt_monitor.processing then none else some (m.process_queue num)
  | .seat_activate_session d ssid switches =>
      some ((m.seat_activate_session d ssid switches).1, [])
  | .seat_switch_to d vtnr switches => some (m.dbus_switch_to d vtnr switches, [])
  | .session_activate x switches => some (m.dbus_activate x switches, [])
  | .activate_session session_id switches =>
      some (m.dbus_activate_session session_id switches, [])
  | .activate_session_on_seat session_id seat_id switches =>
      some (m.dbus_activate_session_on_seat session_id seat_id switches, [])
  | .vt_leave x => some (m.vt_leave_handler x, [])

/-- One of the calls that are left to make; a callout has to end first. -/
def call (m : State) : Call → Option (State × List Call)
  | .callout _ => none
  | .load_seats_from_dir [] => some (m, [])
  | .load_seats_from_dir (file :: files) => (m.add_seat_for_file file).map fun r =>
      (r.1, r.2 ++ [.load_seats_from_dir files])
  | .seat_added d => some ({ m with signals := m.signals ++ [.SeatAdded d] }, [])
  | .ck_seat_add_session seat x => some (m.ck_seat_add_session seat x)
  | .session_opened x is_local =>
      let m := m.setSession x { m.session x with is_local := is_local }
      some ({ m with signals := m.signals ++ [.SessionNew x] }, [])
  | .maybe_update_active_session d => some (m.maybe_update_active_session d)
  | .update_active_vt d num => some (m.update_active_vt d num)
  | .queue_processed =>
      some ({ m with vt_monitor := { m.vt_monitor with processing := false } }, [])
  | .remove_dynamic_seat d =>
      some (if (m.seat d).kind = .DYNAMIC then m.remove_seat d else (m, []))
  | .seat_removed d => some ({ m with signals := m.signals ++ [.SeatRemoved d] }, [])
  | .remove_session l x caller => some (m.session_removed l x caller, [])
  | .destroy_entity l => some (m.destroy_entity l)

end State

structure MainLoop where
  state : State
  stack : List Call

inductive Label where
  | dispatch (event : Event)
  | call
  /-- The programs of a callout have exited. -/
  | callout_done

/-- Whether the main loop runs. -/
def dispatching : List Call → Bool
  | [] | .callout _ :: _ => true
  | _ => false

def main_loop_next (c : MainLoop) : Label → Option MainLoop
  | .dispatch event =>
      if dispatching c.stack then
        (c.state.dispatch event).map fun r => ⟨r.1, r.2 ++ c.stack⟩
      else none
  | .call =>
      match c.stack with
      | [] => none
      | f :: rest => (c.state.call f).map fun r => ⟨r.1, r.2 ++ rest⟩
  | .callout_done =>
      match c.stack with
      | .callout _ :: rest => some ⟨c.state, rest⟩
      | _ => none

/-- `ck_manager_init` and `ck_vt_monitor_init`: the manager before it loads
    its seats, with an empty heap. -/
def ck_manager_init (vfd : Bool) (active_num : Nat) : State where
  session _ :=
    { id := [], leader := 0, display_device := none, x11_display_device := none,
      x11_display := none, remote_host_name := none, login_session_id := none, unix_user := 0,
      vtnr := 0, creation_time := [], is_local := false, seat := none, active := false,
      activate := [] }
  seat _ := { id := [], kind := .DYNAMIC, sessions := ∅, active_session := none,
              connected := false }
  leader _ := { uid := 0, pid := 0, service_name := [], session_id := [], cookie := [],
                job := false }
  next_session := 0
  next_seat := 0
  next_leader := 0
  sessions := ∅
  seats := ∅
  leaders := ∅
  session_serial := 1
  seat_serial := 0
  vt_monitor := { vfd := vfd, active_num := active_num, seats := [], processing := false }
  gone := []
  signals := []
  unreffed := []
  key_freed := []
  succeeded := []

/-- The main loop of the daemon, from the loading of the seats on. -/
def main_loop : LTS.System MainLoop Label where
  init c := ∃ vfd active_num files,
    c = ⟨ck_manager_init vfd active_num, [.load_seats_from_dir files]⟩
  next := main_loop_next

/-- No handler is running. -/
def MainLoop.Quiescent (c : MainLoop) : Prop := c.stack = []

end CkManager
