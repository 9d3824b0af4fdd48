import ConsoleKit.Vt.Watch
import ConsoleKit.Manager.Active

/-! # The console, the sessions on it and the monitor

    A static seat whose sessions control their VTs, with the kernel and the
    VT monitor.  The kernel asks the daemon by `SIGUSR1` to release a VT
    that a session controls, and tells it by `SIGUSR2` that one has become
    active.  A signal reaches the daemon as a whole: the handlers of all
    sessions run, each at its own time.  The monitor tells the seat which
    VT is active.

    The kernel's part follows `VT_ACTIVATE`, `VT_RELDISP` and
    `VT_WAITACTIVE`: the switch away from a VT in process mode waits until
    it is released, and a watcher returns when its VT is the active one as
    it begins to wait, or becomes active while it waits.
-/

namespace Vt

open CkManager (SessionRef SeatRef)

/-! ## Section 1: State -/

/-- A watcher in `VT_WAITACTIVE`. -/
inductive Wait where
  /-- Before the call, or about to look again after another VT's event. -/
  | outside
  | queued
  /-- The VT has become active; the call is about to return. -/
  | done
deriving Repr, DecidableEq

structure Console where
  monitor : CkVtMonitor
  manager : CkManager.State
  /-- The active VT of the kernel. -/
  fg : Nat
  /-- The VT to switch to once the active one is released. -/
  newvt : Option Nat
  wait : ThreadRef → Wait
  /-- How many `SIGUSR1` have yet to reach the handler of a session. -/
  relsig : SessionRef → Nat
  /-- How many `SIGUSR2` have yet to reach the handler of a session. -/
  acqsig : SessionRef → Nat
  /-- The programs of a change of the active session are running. -/
  callout : Bool

namespace Console

/-! ## Section 2: The kernel -/

/-- A session of the seat controls the VT: it is in process mode. -/
def controlled (c : Console) (d : SeatRef) (n : Nat) : Bool :=
  (c.manager.seat d).sessions.values.any fun x => (c.manager.session x).vtnr = n

/-- The wait of a thread once VT `n` has become active. -/
def switched (n : Nat) (th : Option ThreadData) (wait : Wait) : Wait :=
  match th, wait with
  | some ⟨num, .waiting⟩, .queued => if num = n then .done else .queued
  | _, wait => wait

/-- `complete_change_console` -/
def complete_change_console (c : Console) (d : SeatRef) (n : Nat) : Console :=
  { c with
    fg := n
    newvt := none
    acqsig := if c.controlled d n then fun x => c.acqsig x + 1 else c.acqsig
    wait := fun t => switched n (c.monitor.thread t) (c.wait t) }

/-- `change_console`, which the kernel calls for a VT other than the active
    one, whoever asks for it. -/
def change_console (c : Console) (d : SeatRef) (n : Nat) : Option Console :=
  if n = c.fg then none
  else if c.controlled d c.fg then
    some { c with newvt := some n, relsig := fun x => c.relsig x + 1 }
  else some (c.complete_change_console d n)

/-- `VT_RELDISP` with an argument other than zero: the switch that waits for
    this VT, if any, is completed. -/
def vt_reldisp (c : Console) (d : SeatRef) (vt : Nat) : Console :=
  if vt = c.fg then
    match c.newvt with
    | some n => c.complete_change_console d n
    | none => c
  else c

/-- A watcher begins to wait, or looks again. -/
def enter (c : Console) (t : ThreadRef) : Option Console :=
  match c.monitor.thread t, c.wait t with
  | some ⟨num, .waiting⟩, .outside =>
    some { c with wait := Function.update c.wait t (if num = c.fg then .done else .queued) }
  | _, _ => none

/-- Another VT's event has woken a watcher. -/
def requeue (c : Console) (t : ThreadRef) : Option Console :=
  match c.wait t with
  | .queued => some { c with wait := Function.update c.wait t .outside }
  | _ => none

/-! ## Section 3: The daemon -/

/-- The main loop dispatches its sources, if only while it waits for the
    programs of a callout. -/
def dispatching (c : Console) : Bool := c.callout || c.monitor.main = .running

/-- `vt_leave_handler`: the session is made inactive, and its VT is released. -/
def vt_leave_handler (c : Console) (d : SeatRef) (x : SessionRef) : Console :=
  { c with manager := c.manager.vt_leave_handler x }.vt_reldisp d (c.manager.session x).vtnr

/-- `vt_acquire_handler`, which acknowledges by the same request. -/
def vt_acquire_handler (c : Console) (d : SeatRef) (x : SessionRef) : Console :=
  c.vt_reldisp d (c.manager.session x).vtnr

/-- The seat's handler of `active-changed`. -/
def active_changed (c : Console) (d : SeatRef) (num : Nat) : Console :=
  let (manager, calls) := c.manager.update_active_vt d num
  { c with manager, callout := !calls.isEmpty }

/-- A step of the monitor.  A wait does not fail, and returns as the kernel
    has it; the main thread waits for the programs of a callout. -/
def monitor_step (max_consoles : Nat) (c : Console) (d : SeatRef) :
    Event → Option Console
  | .wake t res =>
    if res && c.wait t = .done then
      (c.monitor.wake t true).map fun monitor => { c with monitor }
    else none
  | .main created =>
    if c.callout then none
    else
      (c.monitor.main_step max_consoles created).map fun monitor =>
        match c.monitor.main with
        | .emitting ⟨some e, _, _, _, _⟩ => { c with monitor }.active_changed d e.num
        | _ => { c with monitor }
  | e => (dispatch max_consoles c.monitor e).map fun monitor => { c with monitor }

/-- The steps of the monitor, in the console. -/
inductive MonitorStep (max_consoles : Nat) (c : Console) (d : SeatRef) :
    Event → Console → Prop where
  | wake (t : ThreadRef) (monitor : CkVtMonitor) : c.wait t = .done →
      c.monitor.wake t true = some monitor →
      MonitorStep max_consoles c d (.wake t true) { c with monitor }
  | push (t : ThreadRef) (monitor : CkVtMonitor) : c.monitor.push t = some monitor →
      MonitorStep max_consoles c d (.push t) { c with monitor }
  | schedule (t : ThreadRef) (monitor : CkVtMonitor) : c.monitor.schedule t = some monitor →
      MonitorStep max_consoles c d (.schedule t) { c with monitor }
  | leave (t : ThreadRef) (monitor : CkVtMonitor) : c.monitor.leave t = some monitor →
      MonitorStep max_consoles c d (.leave t) { c with monitor }
  | main (created : Bool) (monitor : CkVtMonitor) : c.callout = false →
      (∀ dr, c.monitor.main ≠ .emitting dr) →
      c.monitor.main_step max_consoles created = some monitor →
      MonitorStep max_consoles c d (.main created) { c with monitor }
  | emit (created : Bool) (monitor : CkVtMonitor) (dr : Drain) (e : EventData) :
      c.callout = false → c.monitor.main = .emitting dr → dr.data = some e →
      c.monitor.main_step max_consoles created = some monitor →
      MonitorStep max_consoles c d (.main created) ({ c with monitor }.active_changed d e.num)

theorem monitor_step_cases {max_consoles : Nat} {c c' : Console} {d : SeatRef} {e : Event}
    (h : c.monitor_step max_consoles d e = some c') : MonitorStep max_consoles c d e c' := by
  cases e with
  | wake t res =>
    simp only [monitor_step] at h
    split at h
    · rename_i hwait
      obtain ⟨hres, hdone⟩ : res = true ∧ c.wait t = .done := by simpa using hwait
      subst hres
      obtain ⟨monitor, hstep, rfl⟩ := Option.map_eq_some_iff.mp h
      exact .wake t monitor hdone hstep
    · cases h
  | push t =>
    obtain ⟨monitor, hstep, rfl⟩ := Option.map_eq_some_iff.mp h
    exact .push t monitor hstep
  | schedule t =>
    obtain ⟨monitor, hstep, rfl⟩ := Option.map_eq_some_iff.mp h
    exact .schedule t monitor hstep
  | leave t =>
    obtain ⟨monitor, hstep, rfl⟩ := Option.map_eq_some_iff.mp h
    exact .leave t monitor hstep
  | main created =>
    simp only [monitor_step] at h
    split at h
    · cases h
    · rename_i hcallout
      replace hcallout : c.callout = false := Bool.eq_false_iff.mpr hcallout
      obtain ⟨monitor, hstep, heq⟩ := Option.map_eq_some_iff.mp h
      split at heq
      · rename_i e before after popped emitted hm
        cases heq
        exact .emit created monitor _ e hcallout hm rfl hstep
      · rename_i hne
        cases heq
        refine .main created monitor hcallout ?_ hstep
        intro dr hm
        -- A drain without an event does not get that far.
        cases hdata : dr.data with
        | none =>
          unfold CkVtMonitor.main_step at hstep
          rw [hm] at hstep
          simp only [hdata] at hstep
          cases hstep
        | some e =>
          apply hne e dr.before dr.after dr.popped dr.emitted
          rw [hm, ← hdata]

/-- What the monitor does in the console it does by itself. -/
theorem monitor_step_monitor {max_consoles : Nat} {c c' : Console} {d : SeatRef} {e : Event}
    (h : c.monitor_step max_consoles d e = some c') :
    Vt.dispatch max_consoles c.monitor e = some c'.monitor := by
  cases monitor_step_cases h with
  | wake t monitor _ hstep => exact hstep
  | push t monitor hstep => exact hstep
  | schedule t monitor hstep => exact hstep
  | leave t monitor hstep => exact hstep
  | main created monitor _ _ hstep => exact hstep
  | emit created monitor dr e _ _ _ hstep => exact hstep

end Console

/-! ## Section 4: The console as a system -/

namespace Console

inductive Event where
  | monitor (e : Vt.Event)
  | enter (t : ThreadRef)
  | requeue (t : ThreadRef)
  /-- The kernel is asked to switch. -/
  | switch (n : Nat)
  /-- The handler of a session runs, and `rest` signals have yet to reach it:
      some of them may have been merged into one. -/
  | leave (x : SessionRef) (rest : Nat)
  | acquire (x : SessionRef) (rest : Nat)
  /-- The programs of a callout are over. -/
  | callout_done

def dispatch (max_consoles : Nat) (d : SeatRef) (c : Console) : Event → Option Console
  | .monitor e => c.monitor_step max_consoles d e
  | .enter t => c.enter t
  | .requeue t => c.requeue t
  | .switch n => if 1 ≤ n ∧ n ≤ max_consoles then c.change_console d n else none
  | .leave x rest =>
    if c.dispatching && x ∈ (c.manager.seat d).sessions.values && rest < c.relsig x then
      some ({ c with relsig := Function.update c.relsig x rest }.vt_leave_handler d x)
    else none
  | .acquire x rest =>
    if c.dispatching && x ∈ (c.manager.seat d).sessions.values && rest < c.acqsig x then
      some ({ c with acqsig := Function.update c.acqsig x rest }.vt_acquire_handler d x)
    else none
  | .callout_done => if c.callout then some { c with callout := false } else none

end Console

/-- The devices of a session of the seat name its VT and no other, and no
    two sessions are on one VT. -/
structure VtSessions (m : CkManager.State) (d : SeatRef) : Prop where
  static : (m.seat d).kind = .STATIC
  device : ∀ x ∈ (m.seat d).sessions.values, ∀ n,
    (m.session x).x11_display_device = some (CkManager.State.ck_get_console_device_for_num n) ∨
      (m.session x).display_device = some (CkManager.State.ck_get_console_device_for_num n) ↔
        (m.session x).vtnr = n
  distinct : ∀ x ∈ (m.seat d).sessions.values, ∀ y ∈ (m.seat d).sessions.values,
    (m.session x).vtnr = (m.session y).vtnr → x = y

/-- A session of the seat is active if and only if it is on the active VT. -/
def RightSession (m : CkManager.State) (d : SeatRef) (fg : Nat) : Prop :=
  ∀ x ∈ (m.seat d).sessions.values, (m.session x).active = true ↔ (m.session x).vtnr = fg

/-- All signals and events have been processed: the monitor has nothing to
    do, each watcher waits in the kernel, and no signal is on its way. -/
structure Console.Quiescent (d : SeatRef) (c : Console) : Prop where
  monitor : c.monitor.Quiescent
  waiting : ∀ t n, c.monitor.thread t = some ⟨n, .waiting⟩ → c.wait t = .queued
  signals : ∀ x ∈ (c.manager.seat d).sessions.values, c.relsig x = 0 ∧ c.acqsig x = 0
  callout : c.callout = false

/-- The seat as the monitor is created, with the right session active. -/
structure Console.Init (max_consoles : Nat) (d : SeatRef) (c : Console) : Prop where
  sessions : VtSessions c.manager d
  right : RightSession c.manager d c.fg
  current : (c.manager.seat d).active_session =
    c.manager.find_session_for_display_device d
      (CkManager.State.ck_get_console_device_for_num c.fg)
  monitor : c.monitor = CkVtMonitor.ck_vt_monitor_init c.fg
  fg : 1 ≤ c.fg ∧ c.fg ≤ max_consoles
  newvt : c.newvt = none
  wait : ∀ t, c.wait t = .outside
  relsig : ∀ x, c.relsig x = 0
  acqsig : ∀ x, c.acqsig x = 0
  callout : c.callout = false

def console (max_consoles : Nat) (d : SeatRef) : LTS.System Console Console.Event where
  init := Console.Init max_consoles d
  next := Console.dispatch max_consoles d

end Vt
