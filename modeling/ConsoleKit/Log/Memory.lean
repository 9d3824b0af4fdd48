import ConsoleKit.Log.Event
import Mathlib.Data.List.Forall2
import Mathlib.Logic.Function.Basic

/-! # Log events in memory

    The events of `ck-log-event.c` with their strings behind pointers.  The
    logger queues a copy of the event that it is given, and the strings of
    the copy are copies, too; those of the original stay with the caller.

    This module provides:
    - `Memory`, with `load`, which reads the event at a pointer,
    - `ck_log_event_copy` and `ck_log_event_free`,
    - `copy_spec`: what the copy reads as, and where it lies.
-/

namespace EventLogger

open Libc Log

/-! ## Section 1: Memory -/

/-- An address, by who has allocated it. -/
inductive Addr where
  | caller (n : Nat)
  | logger (n : Nat)
  deriving DecidableEq

/-- `char *` -/
abbrev Ptr := Option Addr

structure SystemStartCell where
  kernel_release : Ptr
  boot_arguments : Ptr

structure SeatCell where
  seat_id : Ptr
  seat_kind : Int32

structure SessionCell where
  seat_id : Ptr
  session_id : Ptr
  session_type : Ptr
  session_x11_display : Ptr
  session_x11_display_device : Ptr
  session_display_device : Ptr
  session_remote_host_name : Ptr
  session_is_local : Bool
  session_unix_user : UInt32
  session_creation_time : Ptr

structure ActiveSessionCell where
  seat_id : Ptr
  session_id : Ptr

structure DeviceCell where
  seat_id : Ptr
  device_type : Ptr
  device_id : Ptr

/-- The union of `CkLogEvent`, tagged by the type of the event. -/
inductive DataCell where
  | none | start | stop
  | system_start (e : SystemStartCell)
  | system_stop | system_restart | system_suspend | system_hibernate
  | system_runlevel_changed
  | seat_added (e : SeatCell)
  | seat_removed (e : SeatCell)
  | seat_session_added (e : SessionCell)
  | seat_session_removed (e : SessionCell)
  | seat_device_added (e : DeviceCell)
  | seat_device_removed (e : DeviceCell)
  | seat_active_session_changed (e : ActiveSessionCell)

structure EventCell where
  event : DataCell
  timestamp : GTimeVal

/-- Nothing lies at the logger's addresses from `next` on. -/
structure Memory where
  strings : Addr → Option CString
  events : Addr → Option EventCell
  next : Nat
  strings_fresh : ∀ n, next ≤ n → strings (.logger n) = none
  events_fresh : ∀ n, next ≤ n → events (.logger n) = none

namespace Memory

variable (m : Memory)

/-! ## Section 2: Reading

    The result is `none` if a pointer dangles. -/

def str : Ptr → Option (Option CString)
  | none => some none
  | some a => (m.strings a).map some

def load_system_start (e : SystemStartCell) : Option CkLogSystemStartEvent := do
  let kernel_release ← m.str e.kernel_release
  let boot_arguments ← m.str e.boot_arguments
  return { kernel_release, boot_arguments }

def load_seat (e : SeatCell) : Option CkLogSeatAddedEvent := do
  let seat_id ← m.str e.seat_id
  return { seat_id, seat_kind := e.seat_kind }

def load_session (e : SessionCell) : Option CkLogSeatSessionAddedEvent := do
  let seat_id ← m.str e.seat_id
  let session_id ← m.str e.session_id
  let session_type ← m.str e.session_type
  let session_x11_display ← m.str e.session_x11_display
  let session_x11_display_device ← m.str e.session_x11_display_device
  let session_display_device ← m.str e.session_display_device
  let session_remote_host_name ← m.str e.session_remote_host_name
  let session_creation_time ← m.str e.session_creation_time
  return {
    seat_id, session_id, session_type, session_x11_display, session_x11_display_device
    session_display_device, session_remote_host_name
    session_is_local := e.session_is_local
    session_unix_user := e.session_unix_user
    session_creation_time }

def load_active_session (e : ActiveSessionCell) : Option CkLogSeatActiveSessionChangedEvent := do
  let seat_id ← m.str e.seat_id
  let session_id ← m.str e.session_id
  return { seat_id, session_id }

def load_device (e : DeviceCell) : Option CkLogSeatDeviceAddedEvent := do
  let seat_id ← m.str e.seat_id
  let device_type ← m.str e.device_type
  let device_id ← m.str e.device_id
  return { seat_id, device_type, device_id }

def load_data : DataCell → Option CkLogEventData
  | .none => some .none
  | .start => some .start
  | .stop => some .stop
  | .system_start e => (m.load_system_start e).map .system_start
  | .system_stop => some .system_stop
  | .system_restart => some .system_restart
  | .system_suspend => some .system_suspend
  | .system_hibernate => some .system_hibernate
  | .system_runlevel_changed => some .system_runlevel_changed
  | .seat_added e => (m.load_seat e).map .seat_added
  | .seat_removed e => (m.load_seat e).map .seat_removed
  | .seat_session_added e => (m.load_session e).map .seat_session_added
  | .seat_session_removed e => (m.load_session e).map .seat_session_removed
  | .seat_device_added e => (m.load_device e).map .seat_device_added
  | .seat_device_removed e => (m.load_device e).map .seat_device_removed
  | .seat_active_session_changed e =>
      (m.load_active_session e).map .seat_active_session_changed

/-- The event at an address. -/
def load (a : Addr) : Option CkLogEvent :=
  (m.events a).bind fun cell =>
    (m.load_data cell.event).map fun event => { event := event, timestamp := cell.timestamp }

end Memory

/-- The caller's part is replaced. -/
def Memory.setCaller (m : Memory) (strings : Nat → Option CString)
    (events : Nat → Option EventCell) : Memory where
  strings
    | .caller n => strings n
    | .logger n => m.strings (.logger n)
  events
    | .caller n => events n
    | .logger n => m.events (.logger n)
  next := m.next
  strings_fresh := m.strings_fresh
  events_fresh := m.events_fresh

/-! ## Section 3: Copying -/

/-- The result is `none` if a string is read that is not there, or if
    `g_assert` stops the daemon. -/
abbrev MemoryM := StateT Memory Option

/-- A new string of the logger. -/
def Memory.addString (m : Memory) (s : CString) : Memory where
  strings := Function.update m.strings (.logger m.next) (some s)
  events := m.events
  next := m.next + 1
  strings_fresh := fun n hn => by
    rw [Function.update_of_ne (fun h => Nat.ne_of_gt hn (Addr.logger.inj h))]
    exact m.strings_fresh n (Nat.le_of_succ_le hn)
  events_fresh := fun n hn => m.events_fresh n (Nat.le_of_succ_le hn)

/-- A new event of the logger. -/
def Memory.addEvent (m : Memory) (cell : EventCell) : Memory where
  strings := m.strings
  events := Function.update m.events (.logger m.next) (some cell)
  next := m.next + 1
  strings_fresh := fun n hn => m.strings_fresh n (Nat.le_of_succ_le hn)
  events_fresh := fun n hn => by
    rw [Function.update_of_ne (fun h => Nat.ne_of_gt hn (Addr.logger.inj h))]
    exact m.events_fresh n (Nat.le_of_succ_le hn)

def g_strdup : Ptr → MemoryM Ptr
  | none => pure none
  | some a => fun m => (m.strings a).map fun s => (some (.logger m.next), m.addString s)

def event_seat_added_copy (event : SeatCell) : MemoryM SeatCell := do
  let seat_id ← g_strdup event.seat_id
  return { seat_id, seat_kind := event.seat_kind }

def event_seat_removed_copy (event : SeatCell) : MemoryM SeatCell := do
  let seat_id ← g_strdup event.seat_id
  return { seat_id, seat_kind := event.seat_kind }

def event_system_start_copy (event : SystemStartCell) : MemoryM SystemStartCell := do
  let kernel_release ← g_strdup event.kernel_release
  let boot_arguments ← g_strdup event.boot_arguments
  return { kernel_release, boot_arguments }

/-- The body of both copies of session events. -/
def session_copy (event : SessionCell) : MemoryM SessionCell := do
  let seat_id ← g_strdup event.seat_id
  let session_id ← g_strdup event.session_id
  let session_type ← g_strdup event.session_type
  let session_x11_display ← g_strdup event.session_x11_display
  let session_x11_display_device ← g_strdup event.session_x11_display_device
  let session_display_device ← g_strdup event.session_display_device
  let session_remote_host_name ← g_strdup event.session_remote_host_name
  let session_creation_time ← g_strdup event.session_creation_time
  return {
    seat_id, session_id, session_type, session_x11_display, session_x11_display_device
    session_display_device, session_remote_host_name
    session_is_local := event.session_is_local
    session_unix_user := event.session_unix_user
    session_creation_time }

def event_seat_session_added_copy (event : SessionCell) : MemoryM SessionCell :=
  session_copy event

def event_seat_session_removed_copy (event : SessionCell) : MemoryM SessionCell :=
  session_copy event

def event_seat_active_session_changed_copy (event : ActiveSessionCell) :
    MemoryM ActiveSessionCell := do
  let seat_id ← g_strdup event.seat_id
  let session_id ← g_strdup event.session_id
  return { seat_id, session_id }

/-- The body of both copies of device events. -/
def device_copy (event : DeviceCell) : MemoryM DeviceCell := do
  let seat_id ← g_strdup event.seat_id
  let device_id ← g_strdup event.device_id
  let device_type ← g_strdup event.device_type
  return { seat_id, device_type, device_id }

def event_seat_device_added_copy (event : DeviceCell) : MemoryM DeviceCell := device_copy event

def event_seat_device_removed_copy (event : DeviceCell) : MemoryM DeviceCell := device_copy event

/-- The switch of `ck_log_event_copy`.  The copies of the system events
    without data copy nothing. -/
def copy_data : DataCell → MemoryM DataCell
  | .seat_added e => .seat_added <$> event_seat_added_copy e
  | .seat_removed e => .seat_removed <$> event_seat_removed_copy e
  | .system_stop => pure .system_stop
  | .system_restart => pure .system_restart
  | .system_start e => .system_start <$> event_system_start_copy e
  | .system_suspend => pure .system_suspend
  | .system_hibernate => pure .system_hibernate
  | .seat_session_added e => .seat_session_added <$> event_seat_session_added_copy e
  | .seat_session_removed e => .seat_session_removed <$> event_seat_session_removed_copy e
  | .seat_device_added e => .seat_device_added <$> event_seat_device_added_copy e
  | .seat_device_removed e => .seat_device_removed <$> event_seat_device_removed_copy e
  | .seat_active_session_changed e =>
      .seat_active_session_changed <$> event_seat_active_session_changed_copy e
  -- `g_assert_not_reached`
  | .none | .start | .stop | .system_runlevel_changed => failure

/-- The new event has the address that is returned.  It is filled in after
    its strings have been copied. -/
def ck_log_event_copy (event : Addr) : MemoryM Addr := do
  let m ← get
  let cell ← m.events event
  let data ← copy_data cell.event
  let m ← get
  set (m.addEvent { event := data, timestamp := cell.timestamp })
  return .logger m.next

/-! ## Section 4: Freeing -/

def SeatCell.strings (e : SeatCell) : List Ptr := [e.seat_id]

def SystemStartCell.strings (e : SystemStartCell) : List Ptr := [e.kernel_release, e.boot_arguments]

def SessionCell.strings (e : SessionCell) : List Ptr :=
  [e.seat_id, e.session_id, e.session_type, e.session_x11_display, e.session_x11_display_device,
    e.session_display_device, e.session_remote_host_name, e.session_creation_time]

def ActiveSessionCell.strings (e : ActiveSessionCell) : List Ptr := [e.seat_id, e.session_id]

def DeviceCell.strings (e : DeviceCell) : List Ptr := [e.seat_id, e.device_id, e.device_type]

/-- The strings that the `free` function of the type frees. -/
def DataCell.strings : DataCell → List Ptr
  | .seat_added e | .seat_removed e => e.strings
  | .system_start e => e.strings
  | .seat_session_added e | .seat_session_removed e => e.strings
  | .seat_device_added e | .seat_device_removed e => e.strings
  | .seat_active_session_changed e => e.strings
  | _ => []

/-- `g_free` of strings, and of an event. -/
def Memory.free (m : Memory) (strings : List Ptr) (event : Addr) : Memory where
  strings := fun a => if some a ∈ strings then none else m.strings a
  events := fun a => if a = event then none else m.events a
  next := m.next
  strings_fresh := fun n hn => by rw [m.strings_fresh n hn, ite_self]
  events_fresh := fun n hn => by rw [m.events_fresh n hn, ite_self]

def ck_log_event_free (event : Addr) (m : Memory) : Option Memory :=
  (m.events event).map fun cell => m.free cell.event.strings event

/-! ## Section 5: What a copy reads as -/

/-- What has been allocated is as it was. -/
structure Memory.Grows (m m' : Memory) : Prop where
  next : m.next ≤ m'.next
  strings : ∀ a, m.strings a ≠ none → m'.strings a = m.strings a
  events : ∀ a, m.events a ≠ none → m'.events a = m.events a

/-- The pointer is NULL or lies between two addresses of the logger. -/
def Within (lo hi : Nat) (p : Ptr) : Prop := ∀ a, p = some a → ∃ n, a = .logger n ∧ lo ≤ n ∧ n < hi

/-- The computation returns. -/
def Returns {α : Type} (x : MemoryM α) (m : Memory) (post : α → Memory → Prop) : Prop :=
  ∃ c m', x m = some (c, m') ∧ post c m'

namespace Memory

variable {m m' m'' : Memory}

theorem Grows.refl (m : Memory) : m.Grows m := ⟨Nat.le_refl _, fun _ _ => rfl, fun _ _ => rfl⟩

theorem Grows.trans (h : m.Grows m') (h' : m'.Grows m'') : m.Grows m'' where
  next := Nat.le_trans h.next h'.next
  strings := fun a ha => (h'.strings a (by rwa [h.strings a ha])).trans (h.strings a ha)
  events := fun a ha => (h'.events a (by rwa [h.events a ha])).trans (h.events a ha)

theorem Grows.str (h : m.Grows m') {p : Ptr} (hp : m.str p ≠ none) : m'.str p = m.str p := by
  cases p with
  | none => rfl
  | some a =>
    have ha : m.strings a ≠ none := fun hnone => hp (by rw [Memory.str, hnone]; rfl)
    rw [Memory.str, Memory.str, h.strings a ha]

/-- A new string is not where anything was. -/
theorem grows_addString (m : Memory) (s : CString) : m.Grows (m.addString s) where
  next := Nat.le_succ _
  strings := fun a ha => by
    refine Function.update_of_ne (fun heq => ha ?_) _ _
    rw [heq]
    exact m.strings_fresh _ (Nat.le_refl _)
  events := fun _ _ => rfl

theorem grows_addEvent (m : Memory) (cell : EventCell) : m.Grows (m.addEvent cell) where
  next := Nat.le_succ _
  strings := fun _ _ => rfl
  events := fun a ha => by
    refine Function.update_of_ne (fun heq => ha ?_) _ _
    rw [heq]
    exact m.events_fresh _ (Nat.le_refl _)

end Memory

theorem Within.mono {lo lo' hi hi' : Nat} {p : Ptr} (h : Within lo hi p) (hlo : lo' ≤ lo)
    (hhi : hi ≤ hi') : Within lo' hi' p := by
  intro a ha
  obtain ⟨n, rfl, hle, hlt⟩ := h a ha
  exact ⟨n, rfl, Nat.le_trans hlo hle, Nat.lt_of_lt_of_le hlt hhi⟩

/-- `q` points to a copy that has been made since `m` of what `p` points to. -/
structure Duplicate (m m' : Memory) (p q : Ptr) : Prop where
  str : m'.str q = m.str p
  readable : m'.str q ≠ none
  within : Within m.next m'.next q

theorem g_strdup_spec {m : Memory} {p : Ptr} (hp : m.str p ≠ none) :
    Returns (g_strdup p) m fun q m' => m.Grows m' ∧ Duplicate m m' p q := by
  cases p with
  | none => exact ⟨none, m, rfl, .refl m, rfl, Option.some_ne_none _, nofun⟩
  | some a =>
    obtain ⟨s, hs⟩ := Option.ne_none_iff_exists'.mp fun hnone : m.strings a = none =>
      hp (by rw [Memory.str, hnone]; rfl)
    -- The new string is the one that is read at the new address.
    have hnew : (m.addString s).str (some (.logger m.next)) = some (some s) := by
      show Option.map some (Function.update m.strings (.logger m.next) (some s) _) = _
      rw [Function.update_self]
      rfl
    refine ⟨some (.logger m.next), m.addString s, ?_, m.grows_addString s, ?_, ?_, ?_⟩
    · show (m.strings a).map _ = _
      rw [hs]
      rfl
    · rw [hnew, Memory.str, hs]
      rfl
    · rw [hnew]
      exact Option.some_ne_none _
    · intro a' ha'
      obtain rfl := Option.some.inj ha'
      exact ⟨m.next, rfl, Nat.le_refl _, Nat.lt_succ_self _⟩

/-- The strings that have been copied since `m`. -/
structure Duplicates (m m' : Memory) (ps qs : List Ptr) : Prop where
  grows : m.Grows m'
  each : List.Forall₂ (Duplicate m m') ps qs

theorem Duplicates.nil (m : Memory) : Duplicates m m [] [] := ⟨.refl m, .nil⟩

/-- One more string is copied. -/
theorem Duplicates.bind {m m' : Memory} {ps qs : List Ptr} (h : Duplicates m m' ps qs) {p : Ptr}
    (hp : m.str p ≠ none) {α : Type} {k : Ptr → MemoryM α} {post : α → Memory → Prop}
    (hk : ∀ q m'', Duplicates m m'' (p :: ps) (q :: qs) → Returns (k q) m'' post) :
    Returns (g_strdup p >>= k) m' post := by
  have hp' := h.grows.str hp
  obtain ⟨q, m'', hrun, hgrows, hdup⟩ := g_strdup_spec (by rwa [hp'] : m'.str p ≠ none)
  have hfirst : Duplicate m m'' p q :=
    ⟨hdup.str.trans hp', hdup.readable, hdup.within.mono h.grows.next (Nat.le_refl _)⟩
  -- The earlier copies are still there.
  have hrest : List.Forall₂ (Duplicate m m'') ps qs := by
    refine h.each.imp fun p' q' hold => ⟨?_, ?_, hold.within.mono (Nat.le_refl _) hgrows.next⟩
    · rw [hgrows.str hold.readable, hold.str]
    · rw [hgrows.str hold.readable]
      exact hold.readable
  obtain ⟨c, m₃, hrun', hpost⟩ := hk q m'' ⟨h.grows.trans hgrows, .cons hfirst hrest⟩
  refine ⟨c, m₃, ?_, hpost⟩
  show (g_strdup p m').bind (fun r => k r.1 r.2) = _
  rw [hrun]
  exact hrun'

/-- The string can be read, and lies between two addresses of the logger. -/
def Placed (m : Memory) (lo hi : Nat) (p : Ptr) : Prop := Within lo hi p ∧ m.str p ≠ none

theorem Duplicates.placed {m m' : Memory} {ps qs : List Ptr} (h : Duplicates m m' ps qs) :
    ∀ q ∈ qs, Placed m' m.next m'.next q := by
  have heach := h.each
  clear h
  induction heach with
  | nil => exact nofun
  | cons hfirst _ ih => exact List.forall_mem_cons.mpr ⟨⟨hfirst.within, hfirst.readable⟩, ih⟩

/-- What is asked of the copy of an event's data. -/
def CopyOf {α β : Type} (load : Memory → α → Option β) (strings : α → List Ptr) (m : Memory)
    (e c : α) (m' : Memory) : Prop :=
  m.Grows m' ∧ load m' c = load m e ∧ ∀ p ∈ strings c, Placed m' m.next m'.next p

section
variable {m : Memory}

theorem returns_pure {α : Type} {c : α} {post : α → Memory → Prop} (h : post c m) :
    Returns (pure c) m post := ⟨c, m, rfl, h⟩

theorem Returns.map {α β : Type} {x : MemoryM α} {post : α → Memory → Prop}
    {post' : β → Memory → Prop} (h : Returns x m post) {f : α → β}
    (hpost : ∀ c m', post c m' → post' (f c) m') : Returns (f <$> x) m post' := by
  obtain ⟨c, m', hrun, hc⟩ := h
  refine ⟨f c, m', ?_, hpost c m' hc⟩
  show (x m).bind (fun r => some (f r.1, r.2)) = _
  rw [hrun]
  rfl

theorem readable {p : Ptr} {v : Option CString} (h : m.str p = some v) : m.str p ≠ none := by
  rw [h]
  exact Option.some_ne_none v

/-! The strings of a copy are the duplicates, the last one first. -/

theorem seat_copy_spec {e : SeatCell} (h : m.load_seat e ≠ none) :
    Returns (event_seat_added_copy e) m (CopyOf Memory.load_seat SeatCell.strings m e) := by
  obtain ⟨v, hv⟩ := Option.ne_none_iff_exists'.mp h
  simp only [Memory.load_seat, Option.bind_eq_bind, Option.bind_eq_some_iff] at hv
  obtain ⟨_, hseat, _⟩ := hv
  refine (Duplicates.nil m).bind (readable hseat) fun q m' hdup => returns_pure ?_
  obtain ⟨hgrows, _ | ⟨hseat', _⟩⟩ := id hdup
  refine ⟨hgrows, ?_, hdup.placed⟩
  unfold Memory.load_seat
  rw [hseat'.str]

theorem system_start_copy_spec {e : SystemStartCell} (h : m.load_system_start e ≠ none) :
    Returns (event_system_start_copy e) m
      (CopyOf Memory.load_system_start SystemStartCell.strings m e) := by
  obtain ⟨v, hv⟩ := Option.ne_none_iff_exists'.mp h
  simp only [Memory.load_system_start, Option.bind_eq_bind, Option.bind_eq_some_iff] at hv
  obtain ⟨_, hkernel, _, hboot, _⟩ := hv
  refine (Duplicates.nil m).bind (readable hkernel) fun q₁ m₁ hdup => ?_
  refine hdup.bind (readable hboot) fun q₂ m₂ hdup => returns_pure ?_
  obtain ⟨hgrows, _ | ⟨hboot', _ | ⟨hkernel', _⟩⟩⟩ := id hdup
  refine ⟨hgrows, ?_, ?_⟩
  · unfold Memory.load_system_start
    rw [hkernel'.str, hboot'.str]
  · exact fun p hp => hdup.placed p (List.mem_reverse.mpr hp)

theorem session_copy_spec {e : SessionCell} (h : m.load_session e ≠ none) :
    Returns (session_copy e) m (CopyOf Memory.load_session SessionCell.strings m e) := by
  obtain ⟨v, hv⟩ := Option.ne_none_iff_exists'.mp h
  simp only [Memory.load_session, Option.bind_eq_bind, Option.bind_eq_some_iff] at hv
  -- Each string of the event can be read, in the order of the copies.
  obtain ⟨_, hseat, _, hid, _, htype, _, hx11, _, hx11_device, _, hdevice, _, hhost, _, htime, _⟩ :=
    hv
  refine (Duplicates.nil m).bind (readable hseat) fun q₁ m₁ hdup => ?_
  refine hdup.bind (readable hid) fun q₂ m₂ hdup => ?_
  refine hdup.bind (readable htype) fun q₃ m₃ hdup => ?_
  refine hdup.bind (readable hx11) fun q₄ m₄ hdup => ?_
  refine hdup.bind (readable hx11_device) fun q₅ m₅ hdup => ?_
  refine hdup.bind (readable hdevice) fun q₆ m₆ hdup => ?_
  refine hdup.bind (readable hhost) fun q₇ m₇ hdup => ?_
  refine hdup.bind (readable htime) fun q₈ m₈ hdup => returns_pure ?_
  obtain ⟨hgrows, _ | ⟨htime', _ | ⟨hhost', _ | ⟨hdevice', _ | ⟨hx11_device', _ | ⟨hx11', _ |
    ⟨htype', _ | ⟨hid', _ | ⟨hseat', _⟩⟩⟩⟩⟩⟩⟩⟩⟩ := id hdup
  refine ⟨hgrows, ?_, ?_⟩
  · unfold Memory.load_session
    rw [hseat'.str, hid'.str, htype'.str, hx11'.str, hx11_device'.str, hdevice'.str, hhost'.str,
      htime'.str]
  · exact fun p hp => hdup.placed p (List.mem_reverse.mpr hp)

theorem active_session_copy_spec {e : ActiveSessionCell} (h : m.load_active_session e ≠ none) :
    Returns (event_seat_active_session_changed_copy e) m
      (CopyOf Memory.load_active_session ActiveSessionCell.strings m e) := by
  obtain ⟨v, hv⟩ := Option.ne_none_iff_exists'.mp h
  simp only [Memory.load_active_session, Option.bind_eq_bind, Option.bind_eq_some_iff] at hv
  obtain ⟨_, hseat, _, hid, _⟩ := hv
  refine (Duplicates.nil m).bind (readable hseat) fun q₁ m₁ hdup => ?_
  refine hdup.bind (readable hid) fun q₂ m₂ hdup => returns_pure ?_
  obtain ⟨hgrows, _ | ⟨hid', _ | ⟨hseat', _⟩⟩⟩ := id hdup
  refine ⟨hgrows, ?_, ?_⟩
  · unfold Memory.load_active_session
    rw [hseat'.str, hid'.str]
  · exact fun p hp => hdup.placed p (List.mem_reverse.mpr hp)

theorem device_copy_spec {e : DeviceCell} (h : m.load_device e ≠ none) :
    Returns (device_copy e) m (CopyOf Memory.load_device DeviceCell.strings m e) := by
  obtain ⟨v, hv⟩ := Option.ne_none_iff_exists'.mp h
  simp only [Memory.load_device, Option.bind_eq_bind, Option.bind_eq_some_iff] at hv
  obtain ⟨_, hseat, _, htype, _, hid, _⟩ := hv
  refine (Duplicates.nil m).bind (readable hseat) fun q₁ m₁ hdup => ?_
  refine hdup.bind (readable hid) fun q₂ m₂ hdup => ?_
  refine hdup.bind (readable htype) fun q₃ m₃ hdup => returns_pure ?_
  obtain ⟨hgrows, _ | ⟨htype', _ | ⟨hid', _ | ⟨hseat', _⟩⟩⟩⟩ := id hdup
  refine ⟨hgrows, ?_, ?_⟩
  · unfold Memory.load_device
    rw [hseat'.str, htype'.str, hid'.str]
  · exact fun p hp => hdup.placed p (List.mem_reverse.mpr hp)

/-- The types whose events can be copied; `g_assert` stops the others. -/
def copied_type : CkLogEventType → Bool
  | .NONE | .START | .STOP | .SYSTEM_RUNLEVEL_CHANGED => false
  | _ => true

/-- A copy under the tag of the event. -/
theorem CopyOf.tagged {α β : Type} {load : Memory → α → Option β} {strings : α → List Ptr}
    {e c : α} {m' : Memory} (h : CopyOf load strings m e c m') {tag : α → DataCell}
    {tag' : β → CkLogEventData} (hload : ∀ m e, Memory.load_data m (tag e) = (load m e).map tag')
    (hstrings : (tag c).strings = strings c) :
    CopyOf Memory.load_data DataCell.strings m (tag e) (tag c) m' := by
  refine ⟨h.1, ?_, ?_⟩
  · rw [hload, hload, h.2.1]
  · rw [hstrings]
    exact h.2.2

theorem copy_data_spec {e : DataCell} {v : CkLogEventData} (h : m.load_data e = some v)
    (htype : copied_type v.type = true) :
    Returns (copy_data e) m (CopyOf Memory.load_data DataCell.strings m e) := by
  have hsome : ∀ {α β : Type} {o : Option α} {f : α → β} {b : β}, o.map f = some b → o ≠ none := by
    intro α β o f b hmap hnone
    rw [hnone] at hmap
    cases hmap
  -- Data without strings is its own copy.
  have hplain : ∀ e : DataCell, e.strings = [] → CopyOf Memory.load_data DataCell.strings m e e m :=
    fun e hnil => ⟨.refl m, rfl, fun p hp => absurd hp (by rw [hnil]; exact List.not_mem_nil)⟩
  cases e with
  | none | start | stop | system_runlevel_changed =>
    cases h
    cases htype
  | system_stop | system_restart | system_suspend | system_hibernate =>
    exact returns_pure (hplain _ rfl)
  | system_start e =>
    exact (system_start_copy_spec (hsome h)).map fun c m' hc => hc.tagged (fun _ _ => rfl) rfl
  | seat_added e | seat_removed e =>
    exact (seat_copy_spec (hsome h)).map fun c m' hc => hc.tagged (fun _ _ => rfl) rfl
  | seat_session_added e | seat_session_removed e =>
    exact (session_copy_spec (hsome h)).map fun c m' hc => hc.tagged (fun _ _ => rfl) rfl
  | seat_device_added e | seat_device_removed e =>
    exact (device_copy_spec (hsome h)).map fun c m' hc => hc.tagged (fun _ _ => rfl) rfl
  | seat_active_session_changed e =>
    exact (active_session_copy_spec (hsome h)).map fun c m' hc => hc.tagged (fun _ _ => rfl) rfl

/-- The other types stop the daemon. -/
theorem copy_data_none {e : DataCell} {v : CkLogEventData} (h : m.load_data e = some v)
    (htype : copied_type v.type = false) : copy_data e m = none := by
  have htag : ∀ {α β : Type} {o : Option α} {f : α → β} {b : β}, o.map f = some b →
      ∃ c, f c = b := fun hmap => (Option.map_eq_some_iff.mp hmap).imp fun c hc => hc.2
  cases e with
  | none | start | stop | system_runlevel_changed => rfl
  | system_stop | system_restart | system_suspend | system_hibernate =>
    cases h
    cases htype
  | system_start | seat_added | seat_removed | seat_session_added | seat_session_removed |
    seat_device_added | seat_device_removed | seat_active_session_changed =>
    obtain ⟨c, rfl⟩ := htag h
    cases htype

/-! ## Section 6: Copies -/

/-- A copy of the event lies at the address, behind its strings. -/
structure Memory.CopyAt (m : Memory) (lo n : Nat) (e : CkLogEvent) : Prop where
  load : m.load (.logger n) = some e
  order : lo ≤ n
  placed : ∀ cell, m.events (.logger n) = some cell → ∀ p ∈ cell.event.strings, Placed m lo n p

/-- Reading depends on the strings of the event only. -/
theorem load_data_congr {m' : Memory} {e : DataCell}
    (h : ∀ p ∈ e.strings, m'.str p = m.str p) : m'.load_data e = m.load_data e := by
  cases e with
  | none | start | stop | system_stop | system_restart | system_suspend | system_hibernate |
    system_runlevel_changed => rfl
  | system_start e =>
    simp only [DataCell.strings, SystemStartCell.strings, List.forall_mem_cons] at h
    simp only [Memory.load_data, Memory.load_system_start, h]
  | seat_added e | seat_removed e =>
    simp only [DataCell.strings, SeatCell.strings, List.forall_mem_cons] at h
    simp only [Memory.load_data, Memory.load_seat, h]
  | seat_session_added e | seat_session_removed e =>
    simp only [DataCell.strings, SessionCell.strings, List.forall_mem_cons] at h
    simp only [Memory.load_data, Memory.load_session, h]
  | seat_device_added e | seat_device_removed e =>
    simp only [DataCell.strings, DeviceCell.strings, List.forall_mem_cons] at h
    simp only [Memory.load_data, Memory.load_device, h]
  | seat_active_session_changed e =>
    simp only [DataCell.strings, ActiveSessionCell.strings, List.forall_mem_cons] at h
    simp only [Memory.load_data, Memory.load_active_session, h]

/-- A copy is not touched by what happens to other strings and events. -/
theorem Memory.CopyAt.congr {m' : Memory} {lo n : Nat} {e : CkLogEvent} (h : m.CopyAt lo n e)
    (hevent : m'.events (.logger n) = m.events (.logger n))
    (hstrings : ∀ p, Placed m lo n p → m'.str p = m.str p) : m'.CopyAt lo n e where
  load := by
    have hload := h.load
    unfold Memory.load at hload ⊢
    rw [hevent]
    obtain ⟨cell, hcell, hdata⟩ := Option.bind_eq_some_iff.mp hload
    rw [hcell, Option.bind_some,
      load_data_congr fun p hp => hstrings p (h.placed cell hcell p hp)]
    exact hdata
  order := h.order
  placed := by
    intro cell hcell p hp
    have hplaced := h.placed cell (hevent ▸ hcell) p hp
    exact ⟨hplaced.1, by rw [hstrings p hplaced]; exact hplaced.2⟩

theorem Memory.CopyAt.grows {m' : Memory} {lo n : Nat} {e : CkLogEvent} (h : m.CopyAt lo n e)
    (hgrows : m.Grows m') : m'.CopyAt lo n e := by
  refine h.congr (hgrows.events _ fun hnone => ?_) fun p hp => hgrows.str hp.2
  have hload := h.load
  rw [Memory.load, hnone] at hload
  cases hload

theorem Memory.CopyAt.mono {lo lo' n : Nat} {e : CkLogEvent} (h : m.CopyAt lo n e)
    (hle : lo' ≤ lo) : m.CopyAt lo' n e where
  load := h.load
  order := Nat.le_trans hle h.order
  placed := fun cell hcell p hp =>
    ⟨(h.placed cell hcell p hp).1.mono hle (Nat.le_refl _), (h.placed cell hcell p hp).2⟩

/-- The caller has no part in a copy. -/
theorem Memory.CopyAt.setCaller {lo n : Nat} {e : CkLogEvent} (h : m.CopyAt lo n e)
    (strings : Nat → Option CString) (events : Nat → Option EventCell) :
    (m.setCaller strings events).CopyAt lo n e := by
  refine h.congr rfl fun p hp => ?_
  cases p with
  | none => rfl
  | some a =>
    obtain ⟨k, rfl, _, _⟩ := hp.1 a rfl
    rfl

theorem copy_spec {event : Addr} {e : CkLogEvent} (h : m.load event = some e)
    (htype : copied_type e.event.type = true) :
    Returns (ck_log_event_copy event) m fun a m' => m.Grows m' ∧
      ∃ n, a = .logger n ∧ m'.next = n + 1 ∧ m'.CopyAt m.next n e := by
  obtain ⟨cell, hcell, hdata⟩ := Option.bind_eq_some_iff.mp h
  obtain ⟨v, hv, rfl⟩ := Option.map_eq_some_iff.mp hdata
  obtain ⟨c, m', hrun, hgrows, hload, hplaced⟩ := copy_data_spec hv htype
  -- The copied strings lie below the address of the new event, which is taken last.
  let new : EventCell := { event := c, timestamp := cell.timestamp }
  have hnew : (m'.addEvent new).events (.logger m'.next) = some new := Function.update_self ..
  refine ⟨.logger m'.next, m'.addEvent new, ?_, hgrows.trans (m'.grows_addEvent new), m'.next, rfl,
    rfl, ?_, hgrows.next, ?_⟩
  · show ((m.events event).bind fun cell => some (cell, m)).bind _ = _
    rw [hcell]
    show (copy_data cell.event m).bind _ = _
    rw [hrun]
    rfl
  · show ((m'.addEvent new).events (.logger m'.next)).bind _ = _
    rw [hnew]
    show ((m'.addEvent new).load_data c).map _ = _
    have hsame : (m'.addEvent new).load_data c = m'.load_data c := load_data_congr fun _ _ => rfl
    rw [hsame, hload, hv]
    rfl
  · intro cell' hcell' p hp
    obtain rfl := Option.some.inj (hnew.symm.trans hcell')
    exact hplaced p hp

theorem copy_none {event : Addr} {e : CkLogEvent} (h : m.load event = some e)
    (htype : copied_type e.event.type = false) : ck_log_event_copy event m = none := by
  obtain ⟨cell, hcell, hdata⟩ := Option.bind_eq_some_iff.mp h
  obtain ⟨v, hv, rfl⟩ := Option.map_eq_some_iff.mp hdata
  show ((m.events event).bind fun cell => some (cell, m)).bind _ = _
  rw [hcell]
  show (copy_data cell.event m).bind _ = _
  rw [copy_data_none hv htype]
  rfl

theorem Memory.CopyAt.can_free {lo n : Nat} {e : CkLogEvent} (h : m.CopyAt lo n e) :
    ∃ m', ck_log_event_free (.logger n) m = some m' ∧ m'.next = m.next := by
  obtain ⟨cell, hcell, _⟩ := Option.bind_eq_some_iff.mp h.load
  exact ⟨m.free cell.event.strings (.logger n), by rw [ck_log_event_free, hcell]; rfl, rfl⟩

/-- The free of one copy leaves those behind it alone. -/
theorem Memory.CopyAt.free {m' : Memory} {lo n lo' n' : Nat} {e e' : CkLogEvent}
    (h : m.CopyAt lo n e) (hfree : ck_log_event_free (.logger n) m = some m')
    (h' : m.CopyAt lo' n' e') (hlt : n < lo') : m'.CopyAt lo' n' e' := by
  obtain ⟨cell, hcell, rfl⟩ := Option.map_eq_some_iff.mp hfree
  refine h'.congr (if_neg fun heq => ?_) fun p hp => ?_
  · have hle := h'.order
    have := Addr.logger.inj heq
    omega
  · cases p with
    | none => rfl
    | some a =>
      show Option.map some (if some a ∈ cell.event.strings then none else m.strings a) = _
      rw [if_neg]
      · rfl
      · -- The strings of the freed copy lie before the other copy.
        intro hin
        obtain ⟨k, rfl, _, hk⟩ := (h.placed cell hcell _ hin).1 a rfl
        obtain ⟨k', heq, hk', _⟩ := hp.1 _ rfl
        have := Addr.logger.inj heq
        omega

end

end EventLogger
