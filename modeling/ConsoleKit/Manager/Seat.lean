import ConsoleKit.Manager.State

/-! # Seats and the active session

    Model of `ck-seat.c`, of `ck_session_set_active` and of the requests of
    `ck-vt-monitor.c`.  Functions that run programs return the calls that
    are left to make after them.
-/

namespace CkManager

open Libc

namespace State

/-! ## Section 1: The session -/

def ck_session_get_path (m : State) (x : SessionRef) : CString :=
  cstr "/org/freedesktop/ConsoleKit" ++ cstr "/" ++ (m.session x).id

/-- `ck_session_set_active` with `force`, as all its callers have it: the
    session does not wait for its controller. -/
def ck_session_set_active (m : State) (x : SessionRef) (active : Bool) : State :=
  if (m.session x).active = active then m
  else m.setSession x { m.session x with active := active }

/-- `vt_leave_handler`: `ck_session_pause_all_devices` with `force`. -/
def vt_leave_handler (m : State) (x : SessionRef) : State :=
  m.setSession x { m.session x with active := false }

/-! ## Section 2: The VT monitor -/

inductive CkVtMonitorError where
  | GENERAL | NO_CONSOLE | ALREADY_ACTIVE
  deriving DecidableEq

/-- `switches` is the answer of `ck_activate_console_num`; `none` is success. -/
def ck_vt_monitor_set_active (m : State) (num : Nat) (switches : Bool) :
    Option CkVtMonitorError :=
  if num = m.vt_monitor.active_num then some .ALREADY_ACTIVE
  else if !m.vt_monitor.vfd then some .NO_CONSOLE
  else if switches then none
  else some .GENERAL

def ck_vt_monitor_get_active (m : State) : Option Nat :=
  if m.vt_monitor.vfd then some m.vt_monitor.active_num else none

/-- `_PATH_TTY "%u"` -/
def ck_get_console_device_for_num (num : Nat) : CString := cstr "/dev/tty" ++ percent_u num

def ck_get_console_num_from_device (device : Option CString) : Option Nat := do
  let rest ← scan_literal (cstr "/dev/tty") (← device)
  let (num, _) ← scan_unsigned 32 rest
  return num

/-! ## Section 3: The session of a device -/

/-- `hash_table_find_all`, which puts what it finds in front of its list. -/
def find_all (m : State) (d : SeatRef) (predicate : CkSession → Bool) : List SessionRef :=
  ((m.seat d).sessions.values.filter fun x => predicate (m.session x)).reverse

/-- The first of the list as `sort_sessions_by_age` sorts it. -/
def find_oldest_session (m : State) : List SessionRef → Option SessionRef
  | [] => none
  | x :: xs => some <| xs.foldl (fun oldest y =>
      if (m.session y).creation_time < (m.session oldest).creation_time then y else oldest) x

def find_session_for_display_device (m : State) (d : SeatRef) (device : CString) :
    Option SessionRef :=
  match m.find_all d fun s => s.x11_display_device = some device with
  | [] => m.find_oldest_session (m.find_all d fun s => s.display_device = some device)
  | sessions => m.find_oldest_session sessions

/-! ## Section 4: The active session -/

/-- A signal of the seat that makes the manager run programs. -/
def emit (m : State) (d : SeatRef) (action : Callout) : List Call :=
  if (m.seat d).connected then [.callout action] else []

def change_active_session (m : State) (d : SeatRef) (session : Option SessionRef) :
    State × List Call :=
  if (m.seat d).active_session = session then
    -- ensure session knows it's active
    (session.elim m fun x => m.ck_session_set_active x true, [])
  else
    let m := (m.seat d).active_session.elim m fun old => m.ck_session_set_active old false
    let m := m.setSeat d { m.seat d with active_session := session }
    let m := session.elim m fun x => m.ck_session_set_active x true
    (m, m.emit d .seat_active_session_changed)

def update_active_vt (m : State) (d : SeatRef) (num : Nat) : State × List Call :=
  m.change_active_session d
    (m.find_session_for_display_device d (ck_get_console_device_for_num num))

def maybe_update_active_session (m : State) (d : SeatRef) : State × List Call :=
  if (m.seat d).kind ≠ .STATIC then (m, [])
  else
    match m.ck_vt_monitor_get_active with
    | some num => m.update_active_vt d num
    | none => (m, [])

/-! ## Section 5: Activation requests -/

inductive CkSeatError where
  | FAILED | NOT_SUPPORTED
  deriving DecidableEq

/-- The VT of a session. -/
def console_num (m : State) (x : SessionRef) : Option Nat :=
  let device := (m.session x).x11_display_device
  ck_get_console_num_from_device
    (if device = none ∨ device = some [] then (m.session x).display_device else device)

/-- Let the old session know it's about to change. -/
def deactivate_other (m : State) (d : SeatRef) (x : SessionRef) : State :=
  if (m.seat d).active_session = some x then m
  else (m.seat d).active_session.elim m fun old => m.ck_session_set_active old false

/-- `ck_seat_activate_session` for a seat that exists; the error if any. -/
def ck_seat_activate_session (m : State) (d : SeatRef) (session : Option SessionRef)
    (switches : Bool) : State × Option CkSeatError :=
  if (m.seat d).kind ≠ .STATIC then (m, some .NOT_SUPPORTED)
  else
    match session with
    | none => (m, some .FAILED)
    | some x =>
      match m.console_num x with
      | none => (m, some .FAILED)
      | some num =>
        let m := m.deactivate_other d x
        match m.ck_vt_monitor_set_active num switches with
        | none => (m, none)
        -- ensure the session knows it's active
        | some .ALREADY_ACTIVE => (m.ck_session_set_active x true, none)
        | some _ => (m, some .FAILED)

/-- What an activation request does: nothing, or it deactivates the session
    that was active, and marks its own one active if the VT is current. -/
theorem ck_seat_activate_session_cases (m : State) (d : SeatRef) (session : Option SessionRef)
    (switches : Bool) :
    (m.ck_seat_activate_session d session switches).1 = m ∨
    ∃ x num, session = some x ∧ (m.seat d).kind = .STATIC ∧ m.console_num x = some num ∧
      ((m.ck_seat_activate_session d session switches).1 = m.deactivate_other d x ∨
        (num = (m.deactivate_other d x).vt_monitor.active_num ∧
          (m.ck_seat_activate_session d session switches).1 =
            (m.deactivate_other d x).ck_session_set_active x true)) := by
  unfold ck_seat_activate_session
  split
  · exact .inl rfl
  · rename_i hkind
    cases session with
    | none => exact .inl rfl
    | some x =>
      dsimp only
      cases hnum : m.console_num x with
      | none => exact .inl rfl
      | some num =>
        refine .inr ⟨x, num, rfl, not_not.mp hkind, hnum, ?_⟩
        dsimp only
        cases herror : (m.deactivate_other d x).ck_vt_monitor_set_active num switches with
        | none => exact .inl rfl
        | some error =>
          cases error with
          | GENERAL | NO_CONSOLE => exact .inl rfl
          | ALREADY_ACTIVE =>
            refine .inr ⟨?_, rfl⟩
            unfold ck_vt_monitor_set_active at herror
            split at herror
            · assumption
            · split at herror
              · cases herror
              · split at herror <;> cases herror

/-- `dbus_activate_session` of the seat. -/
def seat_activate_session (m : State) (d : SeatRef) (ssid : CString) (switches : Bool) :
    State × Option CkSeatError :=
  m.ck_seat_activate_session d ((m.seat d).sessions.lookup ssid) switches

/-- `dbus_switch_to`; switching to a VT without a session changes nothing here. -/
def dbus_switch_to (m : State) (d : SeatRef) (vtnr : Nat) (switches : Bool) : State :=
  match (m.seat d).sessions.values.find? fun x => (m.session x).vtnr = vtnr with
  | some x => (m.seat_activate_session d (m.session x).id switches).1
  | none => m

/-- `dbus_activate` of the session: the seats connected to its signal act. -/
def dbus_activate (m : State) (x : SessionRef) (switches : Bool) : State :=
  (m.session x).activate.foldl
    (fun m d => (m.ck_seat_activate_session d (some x) switches).1) m

/-! ## Section 6: Adding and removing sessions -/

/-- `ck_seat_add_session`, which fails for a seat that is NULL. -/
def ck_seat_add_session (m : State) (seat : Option SeatRef) (x : SessionRef) :
    State × List Call :=
  match seat with
  | none => (m, [])
  | some d =>
    let m := m.setSeat d
      { m.seat d with sessions := (m.seat d).sessions.insert (m.session x).id x }
    let m := m.setSession x
      { m.session x with seat := some d, activate := (m.session x).activate ++ [d] }
    (m, m.emit d .session_added ++ [.maybe_update_active_session d])

/-- `ck_seat_remove_session`, which fails for a session that is not attached. -/
def ck_seat_remove_session (m : State) (d : SeatRef) (x : SessionRef) : State × List Call :=
  if ((m.seat d).sessions.lookup (m.session x).id).isSome then
    let m := m.setSession x
      { m.session x with activate := (m.session x).activate.filter fun d' => d' ≠ d }
    let m := m.setSeat d
      { m.seat d with sessions := (m.seat d).sessions.erase (m.session x).id }
    (m, m.emit d .session_removed ++ [.maybe_update_active_session d])
  else (m, [])

end State

end CkManager
