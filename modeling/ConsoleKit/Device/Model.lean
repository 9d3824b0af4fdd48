import ConsoleKit.Framework.System
import ConsoleKit.Framework.CString

/-! # The devices of a session

    Model of the part of `ck-session.c` by which one client, the session
    controller, takes devices of the session, and of `ck-device-udev.c`.  A
    step is a method call, a change of the session's `active`, the timer
    that ends a pause, or a signal of the kernel or the bus.

    A step returns the messages it sends.  What the kernel and udev answer
    is part of the step.
-/

namespace Device

open Libc

/-! ## Section 1: Data -/

inductive CkDeviceCategory where
  | DEVICE_OTHER | DEVICE_DRM | DEVICE_EVDEV
  deriving DecidableEq

/-- `CkDevice`; `fd` is none for -1.  `taken` is not in the source: it says
    that `TakeDevice` has returned a descriptor for the device. -/
structure CkDevice where
  major : Nat
  minor : Nat
  category : CkDeviceCategory
  fd : Option Nat
  state : Bool
  taken : Bool
  deriving DecidableEq

/-- What the kernel and udev answer. -/
structure Kernel where
  /-- The udev device of a device number, by its category. -/
  udevice : Nat → Nat → Option CkDeviceCategory
  /-- The attempt to open the device's node, in order to be active or not. -/
  g_open : Nat → Nat → Bool → Option Nat
  drm_set_master : Nat → Bool
  /-- `fstat` fails with `EBADF`. -/
  closed : Nat → Bool

/-- `CkSession`.  `session_controller_watchid` is the name that is watched.
    `controller_uid` is not in the source: it is the uid of the controller
    when it took control. -/
structure CkSession where
  unix_user : Nat
  vtnr : Nat
  active : Bool
  session_controller : Option CString
  session_controller_watchid : Option CString
  controller_uid : Nat
  pause_devices_timer : Bool
  /-- The handlers of the signals of the VT are set. -/
  sig_watch : Bool
  devices : List CkDevice
  deriving DecidableEq

inductive CkSessionError where
  | FAILED | GENERAL | INSUFFICIENT_PERMISSION | NOT_SUPPORTED
  deriving DecidableEq

/-- The types of `PauseDevice` that are sent. -/
inductive PauseType where
  | force | pause
  deriving DecidableEq

inductive Message where
  | complete (destination : CString)
  | throw_error (destination : CString) (code : CkSessionError) (message : String)
  | complete_take_device (destination : CString) (major minor fd : Nat) (inactive : Bool)
  | PauseDevice (major minor : Nat) (type : PauseType)
  | ResumeDevice (destination : CString) (major minor fd : Nat)
  | ActiveChanged (is_active : Bool)
  deriving DecidableEq

/-! ## Section 2: Devices -/

namespace CkDevice

/-- `ck_device_compare` -/
def compare (d : CkDevice) (major minor : Nat) : Bool := d.major = major && d.minor = minor

/-- `ck_device_open` -/
def ck_device_open (k : Kernel) (d : CkDevice) (active : Bool) : Option Nat :=
  (k.g_open d.major d.minor active).bind fun fd =>
    match d.category with
    | .DEVICE_DRM => if active && !k.drm_set_master fd then none else some fd
    | _ => some fd

/-- `ck_device_new` -/
def ck_device_new (k : Kernel) (major minor : Nat) (active : Bool) : Option CkDevice :=
  (k.udevice major minor).map fun category =>
    let d : CkDevice :=
      { major := major, minor := minor, category := category, fd := none, state := active,
        taken := false }
    if category = .DEVICE_OTHER then d
    else
      match d.ck_device_open k active with
      | some fd => { d with fd := some fd }
      -- try again in an inactive state
      | none => if active then { d with fd := d.ck_device_open k false } else d

/-- `ck_device_set_active`; an input device is opened again, since its
    descriptor was revoked. -/
def ck_device_set_active (k : Kernel) (d : CkDevice) (active : Bool) : CkDevice :=
  if d.state = active then d
  else
    let d := { d with state := active }
    match d.category with
    | .DEVICE_EVDEV => if active then { d with fd := d.ck_device_open k active } else d
    | _ => d

/-- `ck_device_set_active (device, FALSE)`, which opens nothing. -/
def pause (d : CkDevice) : CkDevice := { d with state := false }

theorem ck_device_set_active_false (k : Kernel) (d : CkDevice) :
    d.ck_device_set_active k false = d.pause := by
  unfold ck_device_set_active pause
  split
  · rename_i h
    rw [← h]
  · dsimp only
    split <;> rfl

end CkDevice

namespace CkSession

/-! ## Section 3: Pausing and resuming -/

/-- The function ends here as long as a device is active. -/
def ck_session_check_paused_devices (s : CkSession) : CkSession × List Message :=
  if s.devices.any (·.state) then (s, [])
  else
    let messages := if s.active then [.ActiveChanged false] else []
    ({ s with active := false, pause_devices_timer := false }, messages)

/-- `force_pause_devices`, the callback of the timer. -/
def force_pause_devices (s : CkSession) : CkSession × List Message :=
  { s with
    devices := s.devices.map .pause
    pause_devices_timer := false }.ck_session_check_paused_devices

/-- The signal is sent for the devices that are active. -/
def pause_messages (type : PauseType) (devices : List CkDevice) : List Message :=
  (devices.filter (·.state)).map fun d => .PauseDevice d.major d.minor type

def ck_session_pause_all_devices (s : CkSession) (force : Bool) : CkSession × List Message :=
  let messages := pause_messages (if force then .force else .pause) s.devices
  let s := if force then { s with devices := s.devices.map .pause } else s
  if force ∨ s.devices = [] then
    ({ s with active := false }, messages ++ [.ActiveChanged false])
  else ({ s with pause_devices_timer := true }, messages)

theorem pause_all_devices_force (s : CkSession) :
    s.ck_session_pause_all_devices true =
      ({ s with devices := s.devices.map .pause, active := false },
        pause_messages .force s.devices ++ [.ActiveChanged false]) := by
  simp [ck_session_pause_all_devices]

/-- Without force the session stays active for a while, if it has devices. -/
theorem pause_all_devices_wait (s : CkSession) :
    s.ck_session_pause_all_devices false =
      if s.devices = [] then ({ s with active := false }, [.ActiveChanged false])
      else ({ s with pause_devices_timer := true }, pause_messages .pause s.devices) := by
  unfold ck_session_pause_all_devices
  by_cases h : s.devices = []
  · simp [h, pause_messages]
  · simp [h]

/-- The signal is not sent for a device without a descriptor. -/
def resume_messages (controller : CString) (devices : List CkDevice) : List Message :=
  devices.filterMap fun d => d.fd.map fun fd => .ResumeDevice controller d.major d.minor fd

def ck_session_resume_all_devices (k : Kernel) (s : CkSession) : CkSession × List Message :=
  match s.session_controller with
  -- without a controller, we just mark ourselves active
  | none => ({ s with active := true }, [.ActiveChanged true])
  | some controller =>
    let s := { s with devices := s.devices.map fun d : CkDevice => d.ck_device_set_active k true }
    ({ s with active := true }, resume_messages controller s.devices ++ [.ActiveChanged true])

def ck_session_set_active (k : Kernel) (s : CkSession) (active force : Bool) :
    CkSession × List Message :=
  if s.active = active then (s, [])
  else
    let s := { s with pause_devices_timer := false }
    if active then s.ck_session_resume_all_devices k else s.ck_session_pause_all_devices force

/-- `vt_leave_handler` -/
def vt_leave_handler (s : CkSession) : CkSession × List Message :=
  s.ck_session_pause_all_devices true

/-- With force, as the seat has it, the flag follows at once. -/
theorem set_active_force (k : Kernel) (s : CkSession) (active : Bool) :
    (s.ck_session_set_active k active true).1.active = active := by
  unfold ck_session_set_active
  split
  · assumption
  · cases active with
    | true =>
      simp only [if_true]
      unfold ck_session_resume_all_devices
      split <;> rfl
    | false => simp [pause_all_devices_force]

/-- Neither the seat nor the signal of the VT leaves a timer behind. -/
theorem force_no_timer (k : Kernel) (s : CkSession) (active : Bool)
    (h : s.pause_devices_timer = false) :
    (s.ck_session_set_active k active true).1.pause_devices_timer = false ∧
      s.vt_leave_handler.1.pause_devices_timer = false := by
  have hleave : s.vt_leave_handler.1.pause_devices_timer = false := by
    unfold vt_leave_handler
    rw [pause_all_devices_force]
    exact h
  refine ⟨?_, hleave⟩
  unfold ck_session_set_active
  split
  · exact h
  · cases active with
    | true =>
      simp only [if_true]
      unfold ck_session_resume_all_devices
      split <;> rfl
    | false => simp [pause_all_devices_force]

/-! ## Section 4: The session controller -/

def ck_session_controller_cleanup (s : CkSession) : CkSession :=
  { s with
    session_controller_watchid := none
    pause_devices_timer := false
    session_controller := none
    devices := []
    sig_watch := false }

/-- `vt_signals` tells whether `ck_session_setup_vt_signal` succeeds. -/
def ck_session_set_session_controller (s : CkSession) (bus_name : Option CString)
    (vt_signals : Bool) : CkSession :=
  let s := s.ck_session_controller_cleanup
  match bus_name with
  | none => s
  | some name =>
    { s with
      session_controller := some name
      session_controller_watchid := some name
      sig_watch := 0 < s.vtnr && vt_signals }

def session_controller_vanished (s : CkSession) : CkSession :=
  { s with session_controller_watchid := none }.ck_session_set_session_controller none false

/-- `ck_device_is_server_managed` of `ck-device-udev.c`. -/
def ck_device_is_server_managed : Bool := true

/-- `uid` is the answer of `get_caller_info`. -/
def dbus_take_control (s : CkSession) (sender : CString) (uid : Option Nat)
    (arg_force vt_signals : Bool) : CkSession × List Message :=
  if !ck_device_is_server_managed then
    (s, [.throw_error sender .NOT_SUPPORTED "Server managed devices not supported"])
  else
    match uid with
    | none => (s, [.throw_error sender .GENERAL "Failed to get uid of dbus caller"])
    | some uid =>
      if s.session_controller = some sender then
        -- the current session controller takes control again
        (s, [.complete sender])
      else if s.session_controller = none ∨ (arg_force ∧ uid = 0) then
        ({ s.ck_session_set_session_controller (some sender) vt_signals with
           controller_uid := uid }, [.complete sender])
      else if arg_force then
        (s, [.throw_error sender .INSUFFICIENT_PERMISSION
          "Failed to replace the current session controller"])
      else (s, [.throw_error sender .FAILED "Session controller already present"])

def dbus_release_control (s : CkSession) (sender : CString) : CkSession × List Message :=
  if s.session_controller = some sender then
    (s.ck_session_set_session_controller none false, [.complete sender])
  else
    (s, [.throw_error sender .FAILED "Only the session controller may use this function"])

/-! ## Section 5: Taking devices -/

/-- `ck_session_get_device`, which drops an input device whose descriptor has
    been closed. -/
def ck_session_get_device (k : Kernel) (s : CkSession) (major minor : Nat) :
    Option CkDevice × CkSession :=
  match s.devices.find? fun d => d.compare major minor with
  | none => (none, s)
  | some d =>
    if d.category = .DEVICE_EVDEV ∧ d.fd.all k.closed then
      (none, { s with devices := s.devices.eraseP fun d => d.compare major minor })
    else (some d, s)

/-- `ck_session_create_device` -/
def ck_session_create_device (k : Kernel) (s : CkSession) (major minor : Nat) :
    Option CkDevice × CkSession :=
  match s.ck_session_get_device k major minor with
  | (some d, s) => (some d, s)
  | (none, s) =>
    match CkDevice.ck_device_new k major minor s.active with
    | some d => (some d, { s with devices := d :: s.devices })
    | none => (none, s)

/-- Change the record that `ck_session_get_device` found. -/
def updateDevice (s : CkSession) (major minor : Nat) (f : CkDevice → CkDevice) : CkSession :=
  { s with devices := s.devices.modify (s.devices.findIdx fun d => d.compare major minor) f }

def dbus_take_device (k : Kernel) (s : CkSession) (sender : CString) (major minor : Nat) :
    CkSession × List Message :=
  if s.session_controller ≠ some sender then
    (s, [.throw_error sender .FAILED "Only the session controller may call this function"])
  else
    match s.ck_session_get_device k major minor with
    | (some _, s) => (s, [.throw_error sender .GENERAL "Device has already been requested"])
    | (none, s) =>
      match s.ck_session_create_device k major minor with
      | (none, s) => (s, [.throw_error sender .NOT_SUPPORTED "Failed to create device"])
      | (some d, s) =>
        match d.fd with
        | none =>
          (s, [.throw_error sender .NOT_SUPPORTED "Failed to get file descriptor for device"])
        | some fd =>
          (s.updateDevice major minor fun d => { d with taken := true },
            -- the flag is that of the session
            [.complete_take_device sender major minor fd s.active])

def dbus_release_device (k : Kernel) (s : CkSession) (sender : CString) (major minor : Nat) :
    CkSession × List Message :=
  if s.session_controller ≠ some sender then
    (s, [.throw_error sender .FAILED "Only the session controller may call this function"])
  else
    match s.ck_session_get_device k major minor with
    | (none, s) => (s, [.throw_error sender .FAILED "Device doesn't exist"])
    | (some _, s) =>
      ({ s with devices := s.devices.eraseP fun d => d.compare major minor },
        [.complete sender])

def dbus_pause_device_complete (k : Kernel) (s : CkSession) (sender : CString)
    (major minor : Nat) : CkSession × List Message :=
  if s.session_controller ≠ some sender then
    (s, [.throw_error sender .FAILED "Only the session controller may call this function"])
  else
    match s.ck_session_get_device k major minor with
    | (none, s) => (s, [.throw_error sender .FAILED "Device doesn't exist"])
    | (some _, s) =>
      let (s, messages) := (s.updateDevice major minor .pause).ck_session_check_paused_devices
      (s, messages ++ [.complete sender])

end CkSession

/-! ## Section 6: Steps -/

inductive Event where
  | take_control (sender : CString) (uid : Option Nat) (force vt_signals : Bool)
  | release_control (sender : CString)
  /-- The bus reports that the watched name has vanished. -/
  | controller_vanished
  | take_device (k : Kernel) (sender : CString) (major minor : Nat)
  | release_device (k : Kernel) (sender : CString) (major minor : Nat)
  | pause_device_complete (k : Kernel) (sender : CString) (major minor : Nat)
  | set_active (k : Kernel) (active force : Bool)
  /-- The timer of a pause fires. -/
  | pause_timeout
  | vt_leave

namespace CkSession

/-- The session after the event with the messages it has sent; `none` when
    the event cannot occur. -/
def dispatch (s : CkSession) : Event → Option (CkSession × List Message)
  | .take_control sender uid force vt_signals =>
      some (s.dbus_take_control sender uid force vt_signals)
  | .release_control sender => some (s.dbus_release_control sender)
  | .controller_vanished =>
      if s.session_controller_watchid.isSome then some (s.session_controller_vanished, [])
      else none
  | .take_device k sender major minor => some (s.dbus_take_device k sender major minor)
  | .release_device k sender major minor => some (s.dbus_release_device k sender major minor)
  | .pause_device_complete k sender major minor =>
      some (s.dbus_pause_device_complete k sender major minor)
  | .set_active k active force => some (s.ck_session_set_active k active force)
  | .pause_timeout => if s.pause_devices_timer then some s.force_pause_devices else none
  | .vt_leave => if s.sig_watch then some s.vt_leave_handler else none

/-- The steps, one constructor for the handler of each event. -/
inductive Handled (s : CkSession) : Event → CkSession → List Message → Prop where
  | take_control (sender : CString) (uid : Option Nat) (force vt_signals : Bool) :
      Handled s (.take_control sender uid force vt_signals)
        (s.dbus_take_control sender uid force vt_signals).1
        (s.dbus_take_control sender uid force vt_signals).2
  | release_control (sender : CString) : Handled s (.release_control sender)
      (s.dbus_release_control sender).1 (s.dbus_release_control sender).2
  | controller_vanished : s.session_controller_watchid.isSome = true →
      Handled s .controller_vanished s.session_controller_vanished []
  | take_device (k : Kernel) (sender : CString) (major minor : Nat) :
      Handled s (.take_device k sender major minor)
        (s.dbus_take_device k sender major minor).1 (s.dbus_take_device k sender major minor).2
  | release_device (k : Kernel) (sender : CString) (major minor : Nat) :
      Handled s (.release_device k sender major minor)
        (s.dbus_release_device k sender major minor).1
        (s.dbus_release_device k sender major minor).2
  | pause_device_complete (k : Kernel) (sender : CString) (major minor : Nat) :
      Handled s (.pause_device_complete k sender major minor)
        (s.dbus_pause_device_complete k sender major minor).1
        (s.dbus_pause_device_complete k sender major minor).2
  | set_active (k : Kernel) (active force : Bool) : Handled s (.set_active k active force)
      (s.ck_session_set_active k active force).1 (s.ck_session_set_active k active force).2
  | pause_timeout : s.pause_devices_timer = true →
      Handled s .pause_timeout s.force_pause_devices.1 s.force_pause_devices.2
  | vt_leave : s.sig_watch = true →
      Handled s .vt_leave s.vt_leave_handler.1 s.vt_leave_handler.2

/-- **Inversion**: a step is that of a handler. -/
theorem dispatch_handled {s s' : CkSession} {event : Event} {messages : List Message}
    (h : s.dispatch event = some (s', messages)) : s.Handled event s' messages := by
  have hresult : ∀ r, s.dispatch event = some r → s.Handled event r.1 r.2 := by
    intro r hr
    cases event with
    | take_control sender uid force vt_signals =>
      cases hr
      exact .take_control sender uid force vt_signals
    | release_control sender =>
      cases hr
      exact .release_control sender
    | controller_vanished =>
      obtain ⟨hwatch, hr⟩ := Option.ite_none_right_eq_some.mp hr
      cases hr
      exact .controller_vanished hwatch
    | take_device k sender major minor =>
      cases hr
      exact .take_device k sender major minor
    | release_device k sender major minor =>
      cases hr
      exact .release_device k sender major minor
    | pause_device_complete k sender major minor =>
      cases hr
      exact .pause_device_complete k sender major minor
    | set_active k active force =>
      cases hr
      exact .set_active k active force
    | pause_timeout =>
      obtain ⟨htimer, hr⟩ := Option.ite_none_right_eq_some.mp hr
      cases hr
      exact .pause_timeout htimer
    | vt_leave =>
      obtain ⟨hwatch, hr⟩ := Option.ite_none_right_eq_some.mp hr
      cases hr
      exact .vt_leave hwatch
  exact hresult _ h

end CkSession

/-- `ck_session_init`: a new session, of any user and on any VT. -/
def ck_session_init (unix_user vtnr : Nat) : CkSession where
  unix_user := unix_user
  vtnr := vtnr
  active := false
  session_controller := none
  session_controller_watchid := none
  controller_uid := 0
  pause_devices_timer := false
  sig_watch := false
  devices := []

def session_system : LTS.System CkSession Event where
  init s := ∃ unix_user vtnr, s = ck_session_init unix_user vtnr
  next s event := (s.dispatch event).map Prod.fst

end Device
