import Mathlib.Data.List.Basic
import Mathlib.Logic.Function.Basic
import ConsoleKit.Framework.System

/-! # Inhibitor locks

    Model of `ck-inhibit.c` and `ck-inhibit-manager.c`.  A lock is a
    `CkInhibit` object that watches the daemon's end of a named pipe; the
    manager keeps a list of the locks and, for every mode and event, a
    counter that the `changed-event` callbacks of the locks maintain.

    Objects live in a heap indexed by `InhibitRef`.  Signals are
    synchronous calls: the manager's own `changed-event` signal is a
    function `on_changed_event` on the state `L` of whoever listens to it,
    a parameter of this module.
-/

namespace Inhibit

/-! ## Section 1: Data -/

/-- The events that may be inhibited. -/
inductive CkInhibitEvent where
  | shutdown | suspend | idle | power_key | suspend_key | hibernate_key | lid_switch
  deriving DecidableEq, Repr

/-- The events in the order of the enumeration, in which the signals are sent. -/
def CkInhibitEvent.all : List CkInhibitEvent :=
  [.shutdown, .suspend, .idle, .power_key, .suspend_key, .hibernate_key, .lid_switch]

theorem CkInhibitEvent.count_all (e : CkInhibitEvent) : CkInhibitEvent.all.count e = 1 := by
  cases e <;> decide

theorem CkInhibitEvent.mem_all (e : CkInhibitEvent) : e ∈ CkInhibitEvent.all := by
  cases e <;> decide

theorem CkInhibitEvent.nodup_all : CkInhibitEvent.all.Nodup := by decide

inductive CkInhibitMode where
  | invalid | block | delay
  deriving DecidableEq, Repr

/-- The modes a lock can be granted in. -/
def CkInhibitMode.valid : CkInhibitMode → Bool
  | .invalid => false
  | .block | .delay => true

abbrev InhibitRef := Nat

/-- `CkInhibitPrivate`.  `none` stands for a `named_pipe` of -1, for a NULL
    string and for no event source. -/
structure CkInhibit where
  who : Option String
  inhibitors : CkInhibitEvent → Bool
  why : Option String
  mode : CkInhibitMode
  uid : Nat
  pid : Nat
  named_pipe : Option Nat
  named_pipe_path : Option String
  fd_source : Bool

/-- A zeroed object after `ck_inhibit_init`. -/
def ck_inhibit_new : CkInhibit where
  who := none
  inhibitors := fun _ => false
  why := none
  mode := .invalid
  uid := 0
  pid := 0
  named_pipe := none
  named_pipe_path := none
  fd_source := false

/-- The events of a lock, in the order of its signals. -/
def CkInhibit.events (o : CkInhibit) : List CkInhibitEvent :=
  CkInhibitEvent.all.filter o.inhibitors

theorem CkInhibit.mem_events {o : CkInhibit} {e : CkInhibitEvent} :
    e ∈ o.events ↔ o.inhibitors e = true := by
  simp [CkInhibit.events, CkInhibitEvent.mem_all]

theorem CkInhibit.nodup_events (o : CkInhibit) : o.events.Nodup :=
  CkInhibitEvent.nodup_all.filter _

/-- `CkInhbitError`, the negative results of a request. -/
def CK_INHIBIT_ERROR_GENERAL : Int := -10
def CK_INHIBIT_ERROR_INVALID_INPUT : Int := -20
def CK_INHIBIT_ERROR_OOM : Int := -30

/-- The arguments of an `Inhibit` call; `none` is a NULL pointer. -/
structure InhibitRequest where
  who : Option String
  what : Option String
  why : Option String
  mode : Option String
  uid : Nat
  pid : Nat

/-- What the system calls made for one request return. -/
structure PipeCalls where
  /-- `g_mkdir_with_parents` of the inhibit directory succeeds. -/
  mkdir : Bool
  /-- The unique name `g_mkstemp` creates a file under. -/
  mkstemp : Option String
  /-- `g_close` of the temporary descriptor succeeds. -/
  close_tmp : Bool
  /-- `g_unlink` of the temporary file succeeds. -/
  unlink : Bool
  mknod : Bool
  /-- The descriptor of the daemon's end. -/
  open_read : Option Nat
  /-- The descriptor of the client's end. -/
  open_write : Option Nat

/-- The inhibit manager with the objects, files and clients around it. -/
structure World (L : Type) where
  object : InhibitRef → CkInhibit
  next_object : InhibitRef
  /-- `cb_changed_event` is connected to the object's `changed-event`. -/
  connected : InhibitRef → Bool
  inhibit_list : List InhibitRef
  inhibitors : CkInhibitMode → CkInhibitEvent → Int
  /-- Files and pipes in the inhibit directory. -/
  files : List String
  /-- Locks whose client still holds its end of the pipe open, as far as
      the daemon has been told. -/
  held : List InhibitRef
  listener : L

variable {L : Type}

def World.setObject (w : World L) (r : InhibitRef) (o : CkInhibit) : World L :=
  { w with object := Function.update w.object r o }

/-! ## Section 2: Parsing a request -/

/-- `g_strsplit (s, ":", 0)`: no token at all for the empty string. -/
def g_strsplit (s : String) : List String :=
  if s = "" then [] else (s.toList.splitOn ':').map String.ofList

/-- The event a token of `what` names. -/
def token_event (token : String) : Option CkInhibitEvent :=
  if token = "shutdown" then some .shutdown
  else if token = "sleep" then some .suspend
  else if token = "idle" then some .idle
  else if token = "handle-power-key" then some .power_key
  else if token = "handle-suspend-key" then some .suspend_key
  else if token = "handle-hibernate-key" then some .hibernate_key
  else if token = "handle-lid-switch" then some .lid_switch
  else none

/-- The token loop of `parse_inhibitors_string`: it stops at an empty
    token and skips an unknown one. -/
def parse_tokens : List String → (CkInhibitEvent → Bool) → Bool →
    (CkInhibitEvent → Bool) × Bool
  | [], inhibitors, inhibit_set => (inhibitors, inhibit_set)
  | token :: tokens, inhibitors, inhibit_set =>
      if token = "" then (inhibitors, inhibit_set)
      else
        match token_event token with
        | some e => parse_tokens tokens (Function.update inhibitors e true) true
        | none => parse_tokens tokens inhibitors inhibit_set

def parse_inhibitors_string (o : CkInhibit) (what : String) : CkInhibit × Bool :=
  let (inhibitors, inhibit_set) := parse_tokens (g_strsplit what) o.inhibitors false
  ({ o with inhibitors := inhibitors }, inhibit_set)

def parse_mode_string (o : CkInhibit) (mode : String) : CkInhibit × Bool :=
  if mode = "block" then ({ o with mode := .block }, true)
  else if mode = "delay" then ({ o with mode := .delay }, true)
  else (o, false)

/-! ## Section 3: Signals and release

    Releasing a lock emits one `changed-event` per event; the manager's
    callback looks the lock up in its list and closes its pipe again.  The
    functions on the way take that inner `close_named_pipe` as a parameter
    and `close_named_pipe_rec` ties the knot, one nesting level per unit of
    the first argument: every level closes one open pipe, so there are
    fewer levels than objects. -/

section signals
variable (on_changed_event : L → CkInhibitMode → CkInhibitEvent → Bool → L)

/-- Emission of the manager's own `changed-event`. -/
def emit_manager_changed_event (w : World L) (mode : CkInhibitMode) (event : CkInhibitEvent)
    (enabled : Bool) : World L :=
  { w with listener := on_changed_event w.listener mode event enabled }

def World.addToCounter (w : World L) (mode : CkInhibitMode) (event : CkInhibitEvent)
    (d : Int) : World L :=
  let counters := Function.update (w.inhibitors mode) event (w.inhibitors mode event + d)
  { w with inhibitors := Function.update w.inhibitors mode counters }

/-- `ck_inhibit_manager_remove_lock`: the first lock of the list that has
    this path is closed, disconnected and taken out. -/
def ck_inhibit_manager_remove_lock (close : World L → InhibitRef → World L) (w : World L)
    (named_pipe_path : Option String) : World L × Bool :=
  match w.inhibit_list.find? fun l => (w.object l).named_pipe_path = named_pipe_path with
  | none => (w, false)
  | some l =>
      let w := close w l
      let w := { w with connected := Function.update w.connected l false }
      ({ w with inhibit_list := w.inhibit_list.erase l }, true)

def cb_changed_event (close : World L → InhibitRef → World L) (w : World L) (r : InhibitRef)
    (mode : CkInhibitMode) (event : CkInhibitEvent) (enabled : Bool) : World L :=
  if enabled then
    let w := w.addToCounter mode event 1
    if w.inhibitors mode event = 1 then
      emit_manager_changed_event on_changed_event w mode event true
    else w
  else
    let w := w.addToCounter mode event (-1)
    let w :=
      if w.inhibitors mode event = 0 then
        emit_manager_changed_event on_changed_event w mode event false
      else w
    (ck_inhibit_manager_remove_lock close w (w.object r).named_pipe_path).1

/-- `g_signal_emit` of the lock's `changed-event`: only the manager listens. -/
def emit_changed_event (close : World L → InhibitRef → World L) (w : World L) (r : InhibitRef)
    (event : CkInhibitEvent) (enabled : Bool) : World L :=
  if w.connected r then
    cb_changed_event on_changed_event close w r (w.object r).mode event enabled
  else w

/-- One of the seven tests of `emit_initial_inhibit_signals`. -/
def emit_initial (close : World L → InhibitRef → World L) (r : InhibitRef) (w : World L)
    (event : CkInhibitEvent) : World L :=
  if (w.object r).inhibitors event then
    emit_changed_event on_changed_event close w r event true
  else w

def emit_initial_inhibit_signals (close : World L → InhibitRef → World L) (w : World L)
    (r : InhibitRef) : World L :=
  CkInhibitEvent.all.foldl (emit_initial on_changed_event close r) w

/-- The flag of one event of the lock is cleared. -/
def World.clearInhibitor (w : World L) (r : InhibitRef) (event : CkInhibitEvent) : World L :=
  w.setObject r { w.object r with
    inhibitors := Function.update (w.object r).inhibitors event false }

/-- One of the seven tests of `emit_final_uninhibit_signals`. -/
def emit_final (close : World L → InhibitRef → World L) (r : InhibitRef) (w : World L)
    (event : CkInhibitEvent) : World L :=
  if (w.object r).inhibitors event then
    emit_changed_event on_changed_event close (w.clearInhibitor r event) r event false
  else w

def emit_final_uninhibit_signals (close : World L → InhibitRef → World L) (w : World L)
    (r : InhibitRef) : World L :=
  CkInhibitEvent.all.foldl (emit_final on_changed_event close r) w

/-- The part of `close_named_pipe` before the signals: the descriptor is
    closed, the pipe unlinked, its path freed and the watch dropped. -/
def World.dropPipe (w : World L) (r : InhibitRef) : World L :=
  { w.setObject r { w.object r with
      named_pipe := none, named_pipe_path := none, fd_source := false } with
    files := match (w.object r).named_pipe_path with
      | some path => w.files.erase path
      | none => w.files }

def close_named_pipe_rec : Nat → World L → InhibitRef → World L
  | 0, w, _ => w
  | n + 1, w, r =>
      if (w.object r).named_pipe = none then w
      else
        emit_final_uninhibit_signals on_changed_event (close_named_pipe_rec n) (w.dropPipe r) r

def close_named_pipe (w : World L) (r : InhibitRef) : World L :=
  close_named_pipe_rec on_changed_event w.next_object w r

/-- The daemon is told that the client has closed its end. -/
def cb_named_pipe_close (w : World L) (r : InhibitRef) : World L :=
  close_named_pipe on_changed_event
    (w.setObject r { w.object r with fd_source := false }) r

/-! ## Section 4: Taking a lock -/

/-- `get_named_pipe_path`: a unique file, or NULL. -/
def get_named_pipe_path (calls : PipeCalls) (w : World L) : World L × Option String :=
  match calls.mkstemp with
  | none => (w, none)
  | some path =>
      let w := { w with files := path :: w.files }
      if calls.close_tmp then (w, some path) else (w, none)

/-- `create_named_pipe`; `none` is the result -1. -/
def create_named_pipe (calls : PipeCalls) (w : World L) (r : InhibitRef) :
    World L × Option Nat :=
  if (w.object r).named_pipe ≠ none then (w, none)
  else
    match (w.object r).named_pipe_path with
    | none => (w, none)
    | some path =>
        if !calls.unlink then (w, none)
        else
          let w := { w with files := w.files.erase path }
          if !calls.mknod then (w, none)
          else
            let w := { w with files := path :: w.files }
            match calls.open_read with
            | none => (w, none)
            | some fd =>
                (w.setObject r { w.object r with named_pipe := some fd, fd_source := true },
                  calls.open_write)

def ck_inhibit_create_lock (calls : PipeCalls) (w : World L) (r : InhibitRef)
    (request : InhibitRequest) : World L × Int :=
  match request.who, request.what, request.why, request.mode with
  | some who, some what, some why, some mode =>
      if !calls.mkdir then (w, CK_INHIBIT_ERROR_GENERAL)
      else
        let (w, path) := get_named_pipe_path calls w
        let o := { w.object r with
          who := some who, why := some why, uid := request.uid, pid := request.pid,
          named_pipe_path := path }
        let (o, set) := parse_inhibitors_string o what
        if !set then (w.setObject r o, CK_INHIBIT_ERROR_INVALID_INPUT)
        else
          let (o, mode_set) := parse_mode_string o mode
          let w := w.setObject r o
          if !mode_set then (w, CK_INHIBIT_ERROR_INVALID_INPUT)
          else if path = none then (w, CK_INHIBIT_ERROR_OOM)
          else
            match create_named_pipe calls w r with
            | (w, none) => (w, CK_INHIBIT_ERROR_GENERAL)
            | (w, some fd) =>
                (emit_initial_inhibit_signals on_changed_event
                  (close_named_pipe on_changed_event) w r, fd)
  | _, _, _, _ => (w, CK_INHIBIT_ERROR_INVALID_INPUT)

/-- `ck_inhibit_manager_create_lock`.  `none` is the `g_error` that ends the
    daemon when the lock's descriptor is -1. -/
def ck_inhibit_manager_create_lock (calls : PipeCalls) (w : World L)
    (request : InhibitRequest) : Option (World L × Int) :=
  let r := w.next_object
  let w := { w.setObject r ck_inhibit_new with
    next_object := r + 1, connected := Function.update w.connected r true }
  let (w, fd) := ck_inhibit_create_lock on_changed_event calls w r request
  if fd = -1 then none
  else some ({ w with inhibit_list := w.inhibit_list ++ [r] }, fd)

/-! ## Section 5: The manager as a transition system -/

/-- What can happen to the inhibit manager. -/
inductive InhibitLabel where
  /-- A request, with what its system calls return. -/
  | create_lock (request : InhibitRequest) (calls : PipeCalls)
  /-- The client of a lock has closed its end of the pipe. -/
  | pipe_closed (r : InhibitRef)

/-- `g_mkstemp` only returns names that are not in use. -/
def PipeCalls.fresh (calls : PipeCalls) (w : World L) : Bool :=
  match calls.mkstemp with
  | some path => path ∉ w.files
  | none => true

/-- One step.  The kernel reports a hang-up only on a pipe whose other end
    was open, so only held locks are released. -/
def inhibit_next (w : World L) : InhibitLabel → Option (World L)
  | .create_lock request calls =>
      if calls.fresh w then
        (ck_inhibit_manager_create_lock on_changed_event calls w request).map fun (w', fd) =>
          if 0 ≤ fd then { w' with held := w'.held ++ [w.next_object] } else w'
      else none
  | .pipe_closed r =>
      if r ∈ w.held ∧ (w.object r).fd_source then
        some (cb_named_pipe_close on_changed_event { w with held := w.held.erase r } r)
      else none

end signals

/-- `ck_inhibit_manager_init`: no lock, all counters 0. -/
def ck_inhibit_manager_init (listener : L) : World L where
  object := fun _ => ck_inhibit_new
  next_object := 0
  connected := fun _ => false
  inhibit_list := []
  inhibitors := fun _ _ => 0
  files := []
  held := []
  listener := listener

/-- The inhibit manager, for any listener that starts in a state of `start`. -/
def inhibit_system (on_changed_event : L → CkInhibitMode → CkInhibitEvent → Bool → L)
    (start : L → Prop) : LTS.System (World L) InhibitLabel where
  init := fun w => ∃ l, start l ∧ w = ck_inhibit_manager_init l
  next := inhibit_next on_changed_event

/-! ## Section 6: Queries -/

def get_inhibit_status (w : World L) (event : CkInhibitEvent) (mode : CkInhibitMode) : Bool :=
  w.inhibitors mode event > 0

def ck_inhibit_manager_is_shutdown_delayed (w : World L) : Bool :=
  get_inhibit_status w .shutdown .delay

def ck_inhibit_manager_is_shutdown_blocked (w : World L) : Bool :=
  get_inhibit_status w .shutdown .block

def ck_inhibit_manager_is_suspend_delayed (w : World L) : Bool :=
  get_inhibit_status w .suspend .delay

def ck_inhibit_manager_is_suspend_blocked (w : World L) : Bool :=
  get_inhibit_status w .suspend .block

def ck_inhibit_manager_is_idle_delayed (w : World L) : Bool :=
  get_inhibit_status w .idle .delay

def ck_inhibit_manager_is_idle_blocked (w : World L) : Bool :=
  get_inhibit_status w .idle .block

def ck_inhibit_manager_is_power_key_delayed (w : World L) : Bool :=
  get_inhibit_status w .power_key .delay

def ck_inhibit_manager_is_power_key_blocked (w : World L) : Bool :=
  get_inhibit_status w .power_key .block

def ck_inhibit_manager_is_suspend_key_delayed (w : World L) : Bool :=
  get_inhibit_status w .suspend_key .delay

def ck_inhibit_manager_is_suspend_key_blocked (w : World L) : Bool :=
  get_inhibit_status w .suspend_key .block

def ck_inhibit_manager_is_hibernate_key_delayed (w : World L) : Bool :=
  get_inhibit_status w .hibernate_key .delay

def ck_inhibit_manager_is_hibernate_key_blocked (w : World L) : Bool :=
  get_inhibit_status w .hibernate_key .block

def ck_inhibit_manager_is_lid_switch_delayed (w : World L) : Bool :=
  get_inhibit_status w .lid_switch .delay

def ck_inhibit_manager_is_lid_switch_blocked (w : World L) : Bool :=
  get_inhibit_status w .lid_switch .block

/-- Every query the manager answers. -/
def inhibit_queries : List (World L → Bool) :=
  [ck_inhibit_manager_is_shutdown_delayed, ck_inhibit_manager_is_shutdown_blocked,
    ck_inhibit_manager_is_suspend_delayed, ck_inhibit_manager_is_suspend_blocked,
    ck_inhibit_manager_is_idle_delayed, ck_inhibit_manager_is_idle_blocked,
    ck_inhibit_manager_is_power_key_delayed, ck_inhibit_manager_is_power_key_blocked,
    ck_inhibit_manager_is_suspend_key_delayed, ck_inhibit_manager_is_suspend_key_blocked,
    ck_inhibit_manager_is_hibernate_key_delayed, ck_inhibit_manager_is_hibernate_key_blocked,
    ck_inhibit_manager_is_lid_switch_delayed, ck_inhibit_manager_is_lid_switch_blocked]

end Inhibit
