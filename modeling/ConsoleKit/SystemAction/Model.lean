import ConsoleKit.Inhibit.Model
import ConsoleKit.Log.Event

/-! # System actions

    Model of the part of `ck-manager.c` that restarts, stops, suspends and
    hibernates the machine: seven D-Bus methods, the asynchronous
    authorization of a call, five continuations, the timer that runs an
    accepted action and the handler that runs it early when a delay lock
    goes away.

    The manager's fields for the pending action are the listener of the
    inhibit manager of `Inhibit.Model`, whose handler is
    `on_inhibit_manager_changed_event`.  `spawn n command` is the outcome of
    the `n`-th `g_spawn_command_line_sync`: an error message, or `none` when
    the command ran.
-/

namespace SystemAction

open Inhibit Log

/-! ## Section 1: Data -/

/-- `SIGNALS`, the signals that announce an action. -/
inductive SIGNALS where
  | PREPARE_FOR_SHUTDOWN | PREPARE_FOR_SLEEP | LAST_SIGNAL
  deriving DecidableEq, Repr

/-- The errors of the manager that the system actions throw. -/
inductive CkManagerError where
  | GENERAL | INSUFFICIENT_PERMISSION | AUTHORIZATION_REQUIRED | BUSY | INHIBITED
  deriving DecidableEq, Repr

/-- What a D-Bus call is answered with. -/
inductive Reply where
  | value
  | error (code : CkManagerError) (message : String)
  deriving DecidableEq, Repr

/-- A `GDBusMethodInvocation`. -/
abbrev Context := Nat

structure SystemActionData where
  context : Context
  /-- The path below `LIBDIR`. -/
  command : String
  event_type : CkLogEventType
  description : String
  signal : SIGNALS
  deriving DecidableEq, Repr

/-- A pointer to a `SystemActionData`. -/
abbrev DataRef := Nat

/-- A source of the main loop that calls `system_action_idle_cb`. -/
structure Timeout where
  id : Nat
  interval : Nat
  data : DataRef
  deriving DecidableEq, Repr

/-- The fields of the manager for system actions, with what the outside
    world has seen of them. -/
structure SystemActions where
  system_action_idle_delay : Nat
  system_action_idle_inhibited_delay : Nat
  /-- 0 when no action is pending. -/
  system_action_idle_id : Nat
  system_action_data : Option DataRef
  /-- The allocated `SystemActionData`; `none` before `g_new0` and after `g_free`. -/
  data : DataRef → Option SystemActionData
  next_data : DataRef
  timeouts : List Timeout
  next_source : Nat
  /-- The emitted `PrepareFor…` signals. -/
  signals : List (SIGNALS × Bool)
  /-- The commands that were spawned. -/
  commands : List String
  logged : List CkLogEventType
  replies : List (Context × Reply)
  /-- Freed memory was used, or the daemon aborted. -/
  fault : Bool

def SystemActions.throw_error (m : SystemActions) (context : Context) (code : CkManagerError)
    (message : String) : SystemActions :=
  { m with replies := m.replies ++ [(context, .error code message)] }

def SystemActions.return_value (m : SystemActions) (context : Context) : SystemActions :=
  { m with replies := m.replies ++ [(context, .value)] }

/-- `console_kit_manager_emit_prepare_for_shutdown` and `…_sleep`. -/
def SystemActions.emit_prepare_for (m : SystemActions) (signal : SIGNALS) (active : Bool) :
    SystemActions :=
  { m with signals := m.signals ++ [(signal, active)] }

def log_system_action_event (m : SystemActions) (type : CkLogEventType) : SystemActions :=
  { m with logged := m.logged ++ [type] }

def g_source_remove (m : SystemActions) (id : Nat) : SystemActions :=
  { m with timeouts := m.timeouts.filter fun t => t.id ≠ id }

/-! ## Section 2: Running the action -/

section run
variable (spawn : Nat → String → Option String)

def do_system_action (m : SystemActions) (context : Context) (command : String)
    (event_type : CkLogEventType) (description : String) : SystemActions :=
  let m := log_system_action_event m event_type
  let result := spawn m.commands.length command
  let m := { m with commands := m.commands ++ [command] }
  match result with
  | some message =>
      m.throw_error context .GENERAL ("Unable to " ++ description ++ " system: " ++ message)
  | none => m.return_value context

def system_action_idle_cb (m : SystemActions) (ref : DataRef) : SystemActions :=
  match m.data ref with
  | none => { m with fault := true }
  | some data =>
      let m := do_system_action spawn m data.context data.command data.event_type
        data.description
      match data.signal with
      | .LAST_SIGNAL => { m with fault := true }
      | signal =>
          let m := m.emit_prepare_for signal false
          { m with
            system_action_idle_id := 0
            system_action_data := none
            data := Function.update m.data ref none }

/-- The main loop calls a timeout.  The callback returns FALSE, so its
    source is destroyed. -/
def dispatch_timeout (m : SystemActions) (id : Nat) : Option SystemActions :=
  (m.timeouts.find? fun t => t.id = id).map fun t =>
    g_source_remove (system_action_idle_cb spawn m t.data) id

def on_inhibit_manager_changed_event (m : SystemActions) (inhibit_mode : CkInhibitMode)
    (event : CkInhibitEvent) (enabled : Bool) : SystemActions :=
  if m.system_action_idle_id = 0 then m
  else
    match m.system_action_data with
    | none => m
    | some ref =>
        match m.data ref with
        | none => { m with fault := true }
        | some data =>
            if data.signal ≠ .PREPARE_FOR_SLEEP ∧ data.signal ≠ .PREPARE_FOR_SHUTDOWN then m
            else if event ≠ .suspend ∧ event ≠ .shutdown then m
            else if inhibit_mode ≠ .delay then m
            else if enabled then m
            else
              let m := g_source_remove m m.system_action_idle_id
              system_action_idle_cb spawn { m with system_action_idle_id := 0 } ref

end run

/-! ## Section 3: The continuations

    `do_restart` and its four siblings differ in the values below only.
    `g_new0` aborts rather than return NULL, so their NULL branch is left
    out. -/

/-- What one continuation puts in. -/
structure ActionValues where
  /-- The signal emitted before the data is filled. -/
  emits : SIGNALS
  command : String
  event_type : CkLogEventType
  description : String
  signal : SIGNALS

/-- The common body of the continuations; `delayed` is the answer of the
    inhibit manager. -/
def start_system_action (values : ActionValues) (delayed : Bool) (m : SystemActions)
    (context : Context) : SystemActions :=
  if m.system_action_idle_id ≠ 0 then
    m.throw_error context .BUSY
      "Attempting to perform a system action while one is in progress"
  else
    let m := m.emit_prepare_for values.emits true
    let ref := m.next_data
    let data : SystemActionData := {
      context := context
      command := values.command
      event_type := values.event_type
      description := values.description
      signal := values.signal }
    let m := { m with
      data := Function.update m.data ref (some data)
      next_data := ref + 1 }
    let delay_time :=
      if delayed then m.system_action_idle_inhibited_delay else m.system_action_idle_delay
    -- the pointer is kept only when the delay can be lifted
    let m := if delayed then { m with system_action_data := some ref } else m
    { m with
      timeouts := m.timeouts ++ [{ id := m.next_source, interval := delay_time, data := ref }]
      system_action_idle_id := m.next_source
      next_source := m.next_source + 1 }

def restart_values : ActionValues where
  emits := .PREPARE_FOR_SHUTDOWN
  command := "/ConsoleKit/scripts/ck-system-restart"
  event_type := .SYSTEM_RESTART
  description := "Restart"
  signal := .PREPARE_FOR_SHUTDOWN

def stop_values : ActionValues where
  emits := .PREPARE_FOR_SHUTDOWN
  command := "/ConsoleKit/scripts/ck-system-stop"
  event_type := .SYSTEM_STOP
  description := "Stop"
  signal := .PREPARE_FOR_SHUTDOWN

def suspend_values : ActionValues where
  emits := .PREPARE_FOR_SLEEP
  command := "/ConsoleKit/scripts/ck-system-suspend"
  event_type := .SYSTEM_SUSPEND
  description := "Suspend"
  signal := .PREPARE_FOR_SLEEP

def hibernate_values : ActionValues where
  emits := .PREPARE_FOR_SLEEP
  command := "/ConsoleKit/scripts/ck-system-hibernate"
  event_type := .SYSTEM_HIBERNATE
  description := "Hibernate"
  signal := .PREPARE_FOR_SLEEP

def hybrid_sleep_values : ActionValues where
  emits := .PREPARE_FOR_SLEEP
  command := "/ConsoleKit/scripts/ck-system-hybridsleep"
  event_type := .SYSTEM_HIBERNATE
  description := "Hybrid Sleep"
  signal := .PREPARE_FOR_SLEEP

/-- The inhibit manager together with the manager's fields. -/
abbrev Daemon := World SystemActions

/-- A continuation: `delayed` is the query its class asks. -/
def World.start (w : Daemon) (values : ActionValues) (delayed : Daemon → Bool)
    (context : Context) : Daemon :=
  { w with listener := start_system_action values (delayed w) w.listener context }

def do_restart (w : Daemon) (context : Context) : Daemon :=
  World.start w restart_values ck_inhibit_manager_is_shutdown_delayed context

def do_stop (w : Daemon) (context : Context) : Daemon :=
  World.start w stop_values ck_inhibit_manager_is_shutdown_delayed context

def do_suspend (w : Daemon) (context : Context) : Daemon :=
  World.start w suspend_values ck_inhibit_manager_is_suspend_delayed context

def do_hibernate (w : Daemon) (context : Context) : Daemon :=
  World.start w hibernate_values ck_inhibit_manager_is_suspend_delayed context

def do_hybrid_sleep (w : Daemon) (context : Context) : Daemon :=
  World.start w hybrid_sleep_values ck_inhibit_manager_is_suspend_delayed context

/-- `AuthorizedCallback`: the continuations a call can have. -/
inductive AuthorizedCallback where
  | do_restart | do_stop | do_suspend | do_hibernate | do_hybrid_sleep
  deriving DecidableEq, Repr

def AuthorizedCallback.call : AuthorizedCallback → Daemon → Context → Daemon
  | .do_restart => SystemAction.do_restart
  | .do_stop => SystemAction.do_stop
  | .do_suspend => SystemAction.do_suspend
  | .do_hibernate => SystemAction.do_hibernate
  | .do_hybrid_sleep => SystemAction.do_hybrid_sleep

/-- The event that inhibits the action: the class it belongs to. -/
def AuthorizedCallback.event : AuthorizedCallback → CkInhibitEvent
  | .do_restart | .do_stop => .shutdown
  | .do_suspend | .do_hibernate | .do_hybrid_sleep => .suspend

/-- A lock of this mode on the event of the action is held. -/
def AuthorizedCallback.lockHeld (a : AuthorizedCallback) (mode : CkInhibitMode) (w : Daemon) :
    Bool :=
  w.held.any fun r => (w.object r).mode = mode && (w.object r).inhibitors a.event

/-! ## Section 4: The D-Bus methods -/

/-- What the daemon was built with to authorize a call. -/
inductive AuthBackend where
  /-- `HAVE_POLKIT` -/
  | polkit
  /-- `ENABLE_RBAC_SHUTDOWN` -/
  | rbac
  | none
  deriving DecidableEq, Repr

/-- A call that waits for the answer of polkit.  `since` is not in the
    source: it is the number of lock objects made before the call. -/
structure AuthorizedCallbackData where
  context : Context
  action : String
  policykit_interactivity : Bool
  callback : AuthorizedCallback
  since : InhibitRef

/-- The manager as far as system actions go.  Two fields are not in the
    source: `accepted` lists the continuations that found no action pending,
    and `delayed` says whether a delay lock on the event of the last of them
    was held at that moment. -/
structure Manager where
  daemon : Daemon
  pending : List AuthorizedCallbackData
  accepted : List AuthorizedCallback
  delayed : Bool

/-- A D-Bus call of a system action, with what the daemon finds out about
    it: the number of users with a session and the answer of RBAC. -/
structure ActionCall where
  context : Context
  policykit_interactivity : Bool
  num_users : Nat
  rbac_authorized : Bool

def Manager.throw_error (m : Manager) (context : Context) (code : CkManagerError)
    (message : String) : Manager :=
  { m with daemon := { m.daemon with
      listener := m.daemon.listener.throw_error context code message } }

def Manager.callback (m : Manager) (callback : AuthorizedCallback) (context : Context) :
    Manager :=
  { m with
    daemon := callback.call m.daemon context
    accepted := if m.daemon.listener.system_action_idle_id = 0 then m.accepted ++ [callback]
      else m.accepted
    delayed := if m.daemon.listener.system_action_idle_id = 0 then
        callback.lockHeld .delay m.daemon
      else m.delayed }

def check_system_action (backend : AuthBackend) (m : Manager) (policykit_interactivity : Bool)
    (call : ActionCall) (action : String) (callback : AuthorizedCallback) : Manager :=
  match backend with
  | .polkit =>
      { m with pending := m.pending ++ [{
          context := call.context
          action := action
          policykit_interactivity := policykit_interactivity
          callback := callback
          since := m.daemon.next_object }] }
  | .rbac => if call.rbac_authorized then m.callback callback call.context else m
  | .none => m.callback callback call.context

/-- The common body of the methods: the test for a block lock, the choice
    of the action's name and the authorization. -/
def request_system_action (backend : AuthBackend) (m : Manager) (blocked : Bool)
    (single multiple : String) (policykit_interactivity : Bool) (call : ActionCall)
    (callback : AuthorizedCallback) : Manager :=
  if blocked then m.throw_error call.context .INHIBITED "Operation is being inhibited"
  else
    let action := if call.num_users > 1 then multiple else single
    check_system_action backend m policykit_interactivity call action callback

def dbus_restart (backend : AuthBackend) (m : Manager) (call : ActionCall) : Manager :=
  request_system_action backend m (ck_inhibit_manager_is_shutdown_blocked m.daemon)
    "org.freedesktop.consolekit.system.restart"
    "org.freedesktop.consolekit.system.restart-multiple-users" true call .do_restart

def dbus_stop (backend : AuthBackend) (m : Manager) (call : ActionCall) : Manager :=
  request_system_action backend m (ck_inhibit_manager_is_shutdown_blocked m.daemon)
    "org.freedesktop.consolekit.system.stop"
    "org.freedesktop.consolekit.system.stop-multiple-users" true call .do_stop

def dbus_power_off (backend : AuthBackend) (m : Manager) (call : ActionCall) : Manager :=
  request_system_action backend m (ck_inhibit_manager_is_shutdown_blocked m.daemon)
    "org.freedesktop.consolekit.system.stop"
    "org.freedesktop.consolekit.system.stop-multiple-users"
    call.policykit_interactivity call .do_stop

def dbus_reboot (backend : AuthBackend) (m : Manager) (call : ActionCall) : Manager :=
  request_system_action backend m (ck_inhibit_manager_is_shutdown_blocked m.daemon)
    "org.freedesktop.consolekit.system.restart"
    "org.freedesktop.consolekit.system.restart-multiple-users"
    call.policykit_interactivity call .do_restart

def dbus_suspend (backend : AuthBackend) (m : Manager) (call : ActionCall) : Manager :=
  request_system_action backend m (ck_inhibit_manager_is_suspend_blocked m.daemon)
    "org.freedesktop.consolekit.system.suspend"
    "org.freedesktop.consolekit.system.suspend-multiple-users"
    call.policykit_interactivity call .do_suspend

def dbus_hibernate (backend : AuthBackend) (m : Manager) (call : ActionCall) : Manager :=
  request_system_action backend m (ck_inhibit_manager_is_suspend_blocked m.daemon)
    "org.freedesktop.consolekit.system.hibernate"
    "org.freedesktop.consolekit.system.hibernate-multiple-users"
    call.policykit_interactivity call .do_hibernate

def dbus_hybrid_sleep (backend : AuthBackend) (m : Manager) (call : ActionCall) : Manager :=
  request_system_action backend m (ck_inhibit_manager_is_suspend_blocked m.daemon)
    "org.freedesktop.consolekit.system.hybridsleep"
    "org.freedesktop.consolekit.system.hybridsleep-multiple-users"
    call.policykit_interactivity call .do_hybrid_sleep

/-- The methods that request an action. -/
inductive Method where
  | restart | stop | power_off | reboot | suspend | hibernate | hybrid_sleep
  deriving DecidableEq, Repr

def Method.handler : Method → AuthBackend → Manager → ActionCall → Manager
  | .restart => dbus_restart
  | .stop => dbus_stop
  | .power_off => dbus_power_off
  | .reboot => dbus_reboot
  | .suspend => dbus_suspend
  | .hibernate => dbus_hibernate
  | .hybrid_sleep => dbus_hybrid_sleep

/-- The answer of polkit. -/
inductive AuthResult where
  | error (message : String)
  | authorized
  | challenge
  | unauthorized

def auth_ready_callback (m : Manager) (data : AuthorizedCallbackData) :
    AuthResult → Manager
  | .error message =>
      m.throw_error data.context .INSUFFICIENT_PERMISSION ("Not Authorized: " ++ message)
  | .authorized => m.callback data.callback data.context
  | .challenge =>
      m.throw_error data.context .AUTHORIZATION_REQUIRED "Authorization is required"
  | .unauthorized => m.throw_error data.context .INSUFFICIENT_PERMISSION "Not Authorized"

/-! ## Section 5: The transition system -/

inductive ActionLabel where
  /-- A call of one of the seven methods. -/
  | call (method : Method) (call : ActionCall)
  /-- Polkit answers one of the waiting calls, in any order. -/
  | auth_ready (index : Nat) (result : AuthResult)
  /-- A lock is taken or released. -/
  | inhibit (label : InhibitLabel)
  /-- A timer of the main loop fires. -/
  | timeout (id : Nat)

section system
variable (spawn : Nat → String → Option String) (backend : AuthBackend)

def action_next (m : Manager) : ActionLabel → Option Manager
  | .call method call => some (method.handler backend m call)
  | .auth_ready index result =>
      (m.pending[index]?).map fun data =>
        auth_ready_callback { m with pending := m.pending.eraseIdx index } data result
  | .inhibit label =>
      (inhibit_next (on_inhibit_manager_changed_event spawn) m.daemon label).map fun w =>
        { m with daemon := w }
  | .timeout id =>
      (dispatch_timeout spawn m.daemon.listener id).map fun l =>
        { m with daemon := { m.daemon with listener := l } }

/-- The fields as `ck_manager_init` sets them. -/
def system_actions_init : SystemActions where
  system_action_idle_delay := 2 * 1000
  system_action_idle_inhibited_delay := 8 * 1000
  system_action_idle_id := 0
  system_action_data := none
  data := fun _ => none
  next_data := 0
  timeouts := []
  next_source := 1
  signals := []
  commands := []
  logged := []
  replies := []
  fault := false

def manager_init : Manager where
  daemon := ck_inhibit_manager_init system_actions_init
  pending := []
  accepted := []
  delayed := false

def action_system : LTS.System Manager ActionLabel where
  init := fun m => m = manager_init
  next := action_next spawn backend

end system

end SystemAction
