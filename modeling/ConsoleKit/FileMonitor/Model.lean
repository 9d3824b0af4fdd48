import ConsoleKit.Framework.CString
import ConsoleKit.Framework.HashTable
import ConsoleKit.Framework.System

/-! # The file monitor

    Model of `ck-file-monitor-inotify.c` with the part of the kernel that it
    talks to.  A watch is shared by the notifies of a path; two tables lead
    to it, by its path and by its descriptor.  What the kernel reports is
    queued and delivered in an idle handler, and so is the cleanup after a
    watch that the kernel has ended.

    Watches live in a heap indexed by `WatchRef`.  The ids of the idle
    sources are left out: a handler may run whenever its queue is not empty.
-/

namespace FileMonitor

open Libc

/-! ## Section 1: Data -/

/-- `CK_FILE_MONITOR_EVENT_NONE` is `none` where it may occur. -/
inductive CkFileMonitorEvent where
  | ACCESS | CREATE | DELETE | CHANGE
  deriving DecidableEq

/-- The bits of an inotify mask that are looked at. -/
inductive InotifyFlag where
  | IN_ACCESS | IN_MODIFY | IN_ATTRIB | IN_MOVED_FROM | IN_MOVED_TO | IN_CREATE | IN_DELETE
  | IN_DELETE_SELF | IN_MOVE_SELF | IN_IGNORED
  deriving DecidableEq

/-- `struct inotify_event` -/
structure InotifyEvent where
  wd : Int
  mask : List InotifyFlag
  name : Option CString
  deriving DecidableEq

abbrev WatchRef := Nat

/-- The `wd` of a released watch is -1, and its path is NULL. -/
structure FileInotifyWatch where
  wd : Int
  path : Option CString
  notifies : List Nat
  deriving DecidableEq

/-- Functions and the data they are called with are numbers, as addresses are. -/
structure FileMonitorNotify where
  id : Nat
  mask : List CkFileMonitorEvent
  notify_func : Option Nat
  user_data : Nat
  watch : Option WatchRef
  deriving DecidableEq

structure FileMonitorEventInfo where
  wd : Int
  event : CkFileMonitorEvent
  path : Option CString
  deriving DecidableEq

/-- The inotify instance. -/
structure Kernel where
  /-- The descriptors of its watches. -/
  live : List Int
  /-- The descriptor that was last returned for a path, while it is live. -/
  descriptor : CString → Option Int
  /-- What has not been read yet. -/
  pending : List InotifyEvent

/-- `CkFileMonitorPrivate`, with the watches and the kernel. -/
structure CkFileMonitor where
  serial : Nat
  initialized_inotify : Bool
  wd_to_watch : HashTable Int WatchRef
  path_to_watch : HashTable CString WatchRef
  notifies : HashTable Nat FileMonitorNotify
  notify_events : List FileMonitorEventInfo
  remove_events : List Int
  watch : WatchRef → FileInotifyWatch
  next_watch : WatchRef
  kernel : Kernel

namespace Kernel

/-- `inotify_add_watch` returns `wd` for the path. -/
def add_watch (k : Kernel) (path : CString) (wd : Int) : Kernel :=
  { k with
    live := if wd ∈ k.live then k.live else wd :: k.live
    descriptor := Function.update k.descriptor path (some wd) }

/-- A watch ends, on request or with its file. -/
def end_watch (k : Kernel) (wd : Int) : Kernel where
  live := k.live.filter (· ≠ wd)
  descriptor := fun path => if k.descriptor path = some wd then none else k.descriptor path
  pending := k.pending ++ [⟨wd, [.IN_IGNORED], none⟩]

/-- `inotify_rm_watch`, which fails without such a watch. -/
def rm_watch (k : Kernel) (wd : Int) : Kernel :=
  if wd ∈ k.live then k.end_watch wd else k

end Kernel

namespace CkFileMonitor

def setWatch (m : CkFileMonitor) (r : WatchRef) (w : FileInotifyWatch) : CkFileMonitor :=
  { m with watch := Function.update m.watch r w }

/-! ## Section 2: Watches -/

/-- `wd` is what `inotify_add_watch` returns. -/
def file_monitor_add_watch_for_path (m : CkFileMonitor) (path : CString) (wd : Int) :
    CkFileMonitor × Option WatchRef :=
  if wd < 0 then (m, none)
  else
    let m := { m with kernel := m.kernel.add_watch path wd }
    match m.path_to_watch.lookup path with
    -- `wd` is not compared with the one of the watch
    | some r => (m, some r)
    | none =>
      let r := m.next_watch
      ({ m.setWatch r ⟨wd, some path, []⟩ with
          next_watch := r + 1
          path_to_watch := m.path_to_watch.insert path r
          wd_to_watch := m.wd_to_watch.insert wd r },
        some r)

def monitor_release_watch (m : CkFileMonitor) (r : WatchRef) : CkFileMonitor :=
  { m.setWatch r ⟨-1, none, []⟩ with kernel := m.kernel.rm_watch (m.watch r).wd }

def file_monitor_remove_watch (m : CkFileMonitor) (r : WatchRef) : CkFileMonitor :=
  -- it has been released
  if (m.watch r).wd = -1 then m
  else
    monitor_release_watch
      { m with
        path_to_watch := (m.watch r).path.elim m.path_to_watch m.path_to_watch.erase
        wd_to_watch := m.wd_to_watch.erase (m.watch r).wd } r

/-- The tables are destroyed; here they are empty then, which looks the same.
    With its descriptor the inotify instance is gone. -/
def close_inotify (m : CkFileMonitor) : CkFileMonitor :=
  { m.path_to_watch.values.foldl monitor_release_watch m with
    initialized_inotify := false
    path_to_watch := ∅
    wd_to_watch := ∅
    kernel := ⟨[], fun _ => none, []⟩ }

/-! ## Section 3: Events -/

def queue_watch_event (m : CkFileMonitor) (wd : Int) (event : CkFileMonitorEvent)
    (path : Option CString) : CkFileMonitor :=
  { m with notify_events := m.notify_events ++ [⟨wd, event, path⟩] }

def queue_remove_event (m : CkFileMonitor) (wd : Int) : CkFileMonitor :=
  { m with remove_events := m.remove_events ++ [wd] }

/-- The event that `handle_inotify_event` makes of a mask. -/
def event_of_mask (mask : List InotifyFlag) : Option CkFileMonitorEvent :=
  if .IN_CREATE ∈ mask ∨ .IN_MOVED_TO ∈ mask then some .CREATE
  else if .IN_DELETE ∈ mask ∨ .IN_DELETE_SELF ∈ mask ∨ .IN_MOVED_FROM ∈ mask ∨
      .IN_MOVE_SELF ∈ mask then some .DELETE
  else if .IN_MODIFY ∈ mask ∨ .IN_ATTRIB ∈ mask then some .CHANGE
  else if .IN_ACCESS ∈ mask then some .ACCESS
  else none

def handle_inotify_event (m : CkFileMonitor) (ievent : InotifyEvent) : CkFileMonitor :=
  let m := (event_of_mask ievent.mask).elim m fun event =>
    m.queue_watch_event ievent.wd event ievent.name
  if .IN_IGNORED ∈ ievent.mask then m.queue_remove_event ievent.wd else m

/-- A round of the loop of `inotify_data_pending`. -/
def handle_known_event (m : CkFileMonitor) (ievent : InotifyEvent) : CkFileMonitor :=
  match m.wd_to_watch.lookup ievent.wd with
  | some _ => m.handle_inotify_event ievent
  | none => m

/-- `read` returns the next `n` events. -/
def inotify_data_pending (m : CkFileMonitor) (n : Nat) : CkFileMonitor :=
  (m.kernel.pending.take n).foldl handle_known_event
    { m with kernel := { m.kernel with pending := m.kernel.pending.drop n } }

/-- The watch is taken from a notify that is still there. -/
def detach (m : CkFileMonitor) (id : Nat) : CkFileMonitor :=
  match m.notifies.lookup id with
  | none => m
  | some notify => { m with notifies := m.notifies.insert id { notify with watch := none } }

/-- A round of the loop of `emit_removals_in_idle`. -/
def remove_ended_watch (m : CkFileMonitor) (wd : Int) : CkFileMonitor :=
  match m.wd_to_watch.lookup wd with
  | none => m
  | some r =>
    if (m.watch r).wd = -1 then m
    else ((m.watch r).notifies.foldl detach m).file_monitor_remove_watch r

/-- The queue holds the descriptors as pointers, and a NULL one ends the loop. -/
def emit_removals_in_idle (m : CkFileMonitor) : CkFileMonitor :=
  (m.remove_events.takeWhile (· ≠ 0)).foldl remove_ended_watch
    { m with remove_events := (m.remove_events.dropWhile (· ≠ 0)).tail }

/-! ## Section 4: Notifies -/

/-- `file_monitor_add_notify_for_path`, once the path has a watch. -/
def add_notify_to_watch (m : CkFileMonitor) (r : WatchRef) (mask : List CkFileMonitorEvent)
    (notify_func : Option Nat) (user_data : Nat) : CkFileMonitor :=
  let id := m.serial
  { m.setWatch r { m.watch r with notifies := id :: (m.watch r).notifies } with
    serial := (id + 1) % 2 ^ 32
    notifies := m.notifies.insert id ⟨id, mask, notify_func, user_data, some r⟩ }

/-- The id of the notify, or 0. -/
def ck_file_monitor_add_notify (m : CkFileMonitor) (path : CString)
    (mask : List CkFileMonitorEvent) (notify_func : Option Nat) (user_data : Nat) (wd : Int) :
    CkFileMonitor × Nat :=
  if !m.initialized_inotify then (m, 0)
  else
    match m.file_monitor_add_watch_for_path path wd with
    | (m, none) => (m, 0)
    | (m, some r) => (m.add_notify_to_watch r mask notify_func user_data, m.serial)

def file_monitor_remove_notify (m : CkFileMonitor) (id : Nat) : CkFileMonitor :=
  match m.notifies.lookup id with
  | none => m
  | some notify =>
    let m := { m with notifies := m.notifies.erase id }
    match notify.watch with
    -- the kernel has ended the watch
    | none => m
    | some r =>
      let m := m.setWatch r { m.watch r with notifies := (m.watch r).notifies.erase id }
      if (m.watch r).notifies = [] then m.file_monitor_remove_watch r else m

def ck_file_monitor_remove_notify (m : CkFileMonitor) (id : Nat) : CkFileMonitor :=
  if !m.initialized_inotify then m else m.file_monitor_remove_notify id

/-! ## Section 5: The monitor as a transition system -/

inductive Label where
  /-- A client, or a callback, adds a notify; `wd` is the answer of the kernel. -/
  | add_notify (path : CString) (mask : List CkFileMonitorEvent) (notify_func : Option Nat)
      (user_data : Nat) (wd : Int)
  | remove_notify (id : Nat)
  /-- The kernel reports an event under one of its descriptors. -/
  | kernel_event (ievent : InotifyEvent)
  /-- The kernel ends a watch, with the file or its file system. -/
  | kernel_end (wd : Int)
  | inotify_data_pending (n : Nat)
  /-- `inotify_data_pending` cannot read. -/
  | read_error
  | emit_removals_in_idle
  /-- `emit_events_in_idle` takes an event; what its callbacks do comes next. -/
  | emit_event

def file_monitor_next (m : CkFileMonitor) : Label → Option CkFileMonitor
  | .add_notify path mask notify_func user_data wd =>
      some (m.ck_file_monitor_add_notify path mask notify_func user_data wd).1
  | .remove_notify id => some (m.ck_file_monitor_remove_notify id)
  | .kernel_event ievent =>
      if ievent.wd ∈ m.kernel.live ∧ .IN_IGNORED ∉ ievent.mask then
        some { m with kernel := { m.kernel with pending := m.kernel.pending ++ [ievent] } }
      else none
  | .kernel_end wd =>
      if wd ∈ m.kernel.live then some { m with kernel := m.kernel.end_watch wd } else none
  | .inotify_data_pending n =>
      if m.initialized_inotify then some (m.inotify_data_pending n) else none
  | .read_error => if m.initialized_inotify then some m.close_inotify else none
  | .emit_removals_in_idle => some m.emit_removals_in_idle
  | .emit_event =>
      match m.notify_events with
      | [] => none
      | _ :: rest => some { m with notify_events := rest }

/-- `ck_file_monitor_init`; the flag tells whether `inotify_init` succeeds. -/
def ck_file_monitor_init (initialized_inotify : Bool) : CkFileMonitor where
  serial := 1
  initialized_inotify := initialized_inotify
  wd_to_watch := ∅
  path_to_watch := ∅
  notifies := ∅
  notify_events := []
  remove_events := []
  watch := fun _ => ⟨-1, none, []⟩
  next_watch := 0
  kernel := ⟨[], fun _ => none, []⟩

def file_monitor : LTS.System CkFileMonitor Label where
  init := fun m => ∃ initialized_inotify, m = ck_file_monitor_init initialized_inotify
  next := file_monitor_next

/-- The steps, one constructor for each label. -/
inductive Step (m : CkFileMonitor) : Label → CkFileMonitor → Prop where
  | add_notify (path : CString) (mask : List CkFileMonitorEvent) (notify_func : Option Nat)
      (user_data : Nat) (wd : Int) : Step m (.add_notify path mask notify_func user_data wd)
        (m.ck_file_monitor_add_notify path mask notify_func user_data wd).1
  | remove_notify (id : Nat) : Step m (.remove_notify id) (m.ck_file_monitor_remove_notify id)
  | kernel_event (ievent : InotifyEvent) : ievent.wd ∈ m.kernel.live →
      .IN_IGNORED ∉ ievent.mask → Step m (.kernel_event ievent)
        { m with kernel := { m.kernel with pending := m.kernel.pending ++ [ievent] } }
  | kernel_end (wd : Int) : wd ∈ m.kernel.live →
      Step m (.kernel_end wd) { m with kernel := m.kernel.end_watch wd }
  | inotify_data_pending (n : Nat) : m.initialized_inotify = true →
      Step m (.inotify_data_pending n) (m.inotify_data_pending n)
  | read_error : m.initialized_inotify = true → Step m .read_error m.close_inotify
  | emit_removals_in_idle : Step m .emit_removals_in_idle m.emit_removals_in_idle
  | emit_event (info : FileMonitorEventInfo) (rest : List FileMonitorEventInfo) :
      m.notify_events = info :: rest → Step m .emit_event { m with notify_events := rest }

theorem step_cases {m m' : CkFileMonitor} {label : Label}
    (h : file_monitor_next m label = some m') : Step m label m' := by
  cases label with
  | add_notify path mask notify_func user_data wd =>
    cases h
    exact .add_notify path mask notify_func user_data wd
  | remove_notify id =>
    cases h
    exact .remove_notify id
  | kernel_event ievent =>
    rw [file_monitor_next, Option.ite_none_right_eq_some] at h
    rw [← Option.some.inj h.2]
    exact .kernel_event ievent h.1.1 h.1.2
  | kernel_end wd =>
    rw [file_monitor_next, Option.ite_none_right_eq_some] at h
    rw [← Option.some.inj h.2]
    exact .kernel_end wd h.1
  | inotify_data_pending n =>
    rw [file_monitor_next, Option.ite_none_right_eq_some] at h
    rw [← Option.some.inj h.2]
    exact .inotify_data_pending n h.1
  | read_error =>
    rw [file_monitor_next, Option.ite_none_right_eq_some] at h
    rw [← Option.some.inj h.2]
    exact .read_error h.1
  | emit_removals_in_idle =>
    cases h
    exact .emit_removals_in_idle
  | emit_event =>
    rw [file_monitor_next] at h
    split at h
    · cases h
    · rename_i info rest hqueue
      rw [← Option.some.inj h]
      exact .emit_event info rest hqueue

/-! ## Section 6: What the operations leave alone -/

variable (m : CkFileMonitor)

@[simp] theorem setWatch_watch (r : WatchRef) (w : FileInotifyWatch) :
    (m.setWatch r w).watch = Function.update m.watch r w := rfl

@[simp] theorem setWatch_wd_to_watch (r : WatchRef) (w : FileInotifyWatch) :
    (m.setWatch r w).wd_to_watch = m.wd_to_watch := rfl

@[simp] theorem setWatch_path_to_watch (r : WatchRef) (w : FileInotifyWatch) :
    (m.setWatch r w).path_to_watch = m.path_to_watch := rfl

@[simp] theorem setWatch_notifies (r : WatchRef) (w : FileInotifyWatch) :
    (m.setWatch r w).notifies = m.notifies := rfl

@[simp] theorem setWatch_kernel (r : WatchRef) (w : FileInotifyWatch) :
    (m.setWatch r w).kernel = m.kernel := rfl

end CkFileMonitor

end FileMonitor
