import ConsoleKit.Framework.System
import ConsoleKit.Framework.HashTable
import Mathlib.Logic.Function.Basic

/-! # The threaded VT monitor

    One watcher thread waits for each virtual terminal that is not active.
    When its VT becomes active the thread pushes an event, has a drain of
    the queue scheduled in the main loop, takes itself out of the table of
    threads and exits.  The drain compresses the queued events to the last
    one, and where that changes the active VT it adds the watches that are
    missing and emits `active-changed`.

    Every step below is what one thread does while it holds one lock, or
    less.  The main loop holds the queue's lock from the first statement of
    `process_queue` to the last, and `hash_lock` while it pops events and
    while it adds watches.  The fields and phases that the code does not
    have are marked as records.
-/

namespace Vt

/-! ## Section 1: State -/

abbrev ThreadRef := Nat

/-- An event; `serial` counts the pushes before it, for the record. -/
structure EventData where
  num : Nat
  serial : Nat
deriving Repr, DecidableEq

/-- Where a watcher is in `vt_thread_start`. -/
inductive Pc where
  /-- In `ck_wait_for_active_console_num`. -/
  | waiting
  /-- The wait succeeded, and the event is not yet pushed. -/
  | woken
  /-- Between the push and the scheduling of a drain. -/
  | pushed
  /-- About to take itself out of the table. -/
  | leaving
  | exited
deriving Repr, DecidableEq

structure ThreadData where
  num : Nat
  pc : Pc
deriving Repr, DecidableEq

/-- A call of `process_queue`: its local `data`, and a record of what it
    found, popped and emitted. -/
structure Drain where
  data : Option EventData
  /-- `active_num` when the call began. -/
  before : Nat
  /-- `active_num` when the call returned. -/
  after : Nat
  popped : List EventData
  emitted : List Nat
deriving Repr, DecidableEq

/-- Where the main thread is. -/
inductive Main where
  /-- In `vt_add_watches`, called by `ck_vt_monitor_init`, at VT `i`. -/
  | starting (i : Nat)
  /-- Outside `process_queue`. -/
  | running
  /-- In the loop that compresses the queue, with `n` rounds to go. -/
  | popping (n : Nat) (d : Drain)
  /-- Before `change_active_num`. -/
  | changing (d : Drain)
  /-- In `vt_add_watches`, called by `change_active_num`, at VT `i`. -/
  | adding (i : Nat) (d : Drain)
  /-- Before `active-changed` is emitted. -/
  | emitting (d : Drain)
  /-- Before `process_queue_id` is cleared. -/
  | clearing (d : Drain)
  /-- Before the queue is unlocked. -/
  | unlocking (d : Drain)
deriving Repr, DecidableEq

structure CkVtMonitor where
  active_num : Nat
  vt_thread_hash : HashTable Nat ThreadRef
  event_queue : List EventData
  process_queue_id : Nat
  /-- The idle sources for `process_queue` that the main context holds. -/
  sources : List Nat
  next_source : Nat
  thread : ThreadRef → Option ThreadData
  next_thread : ThreadRef
  main : Main
  /-- A record of the number of pushes. -/
  pushes : Nat
  /-- A record of the calls of `process_queue` that have returned. -/
  drains : List Drain
  /-- A record of the arguments of `active-changed`. -/
  emitted : List Nat

namespace CkVtMonitor

/-- The monitor as `ck_vt_monitor_init` is about to add the watches. -/
def ck_vt_monitor_init (active : Nat) : CkVtMonitor where
  active_num := active
  vt_thread_hash := ∅
  event_queue := []
  process_queue_id := 0
  sources := []
  next_source := 1
  thread := fun _ => none
  next_thread := 0
  main := .starting 1
  pushes := 0
  drains := []
  emitted := []

/-- The queue's lock is free. -/
def queueUnlocked (s : CkVtMonitor) : Bool :=
  match s.main with
  | .starting _ | .running => true
  | _ => false

/-- `hash_lock` is free. -/
def hashUnlocked (s : CkVtMonitor) : Bool :=
  match s.main with
  | .starting _ | .popping _ _ | .adding _ _ => false
  | _ => true

/-! ## Section 2: Watches -/

def setPc (s : CkVtMonitor) (t : ThreadRef) (th : ThreadData) (pc : Pc) : CkVtMonitor :=
  { s with thread := Function.update s.thread t (some { th with pc }) }

/-- Start a watcher; `created` tells whether there is a thread to be had. -/
def vt_add_watch_unlocked (s : CkVtMonitor) (num : Nat) (created : Bool) : CkVtMonitor :=
  if created then
    { s with
      thread := Function.update s.thread s.next_thread (some ⟨num, .waiting⟩)
      next_thread := s.next_thread + 1
      vt_thread_hash := s.vt_thread_hash.insert num s.next_thread }
  else s

/-- The body of the loop of `vt_add_watches`. -/
def vt_add_watch (s : CkVtMonitor) (i : Nat) (created : Bool) : CkVtMonitor :=
  if i = s.active_num then s
  else
    match s.vt_thread_hash.lookup i with
    | none => s.vt_add_watch_unlocked i created
    | some _ => s

/-! ## Section 3: Watchers -/

def schedule_process_queue (s : CkVtMonitor) : CkVtMonitor :=
  if s.process_queue_id = 0 then
    { s with
      process_queue_id := s.next_source
      sources := s.sources ++ [s.next_source]
      next_source := s.next_source + 1 }
  else s

/-- The wait of a watcher returns `res`. -/
def wake (s : CkVtMonitor) (t : ThreadRef) (res : Bool) : Option CkVtMonitor :=
  match s.thread t with
  | some ⟨num, .waiting⟩ => some (s.setPc t ⟨num, .waiting⟩ (if res then .woken else .leaving))
  | _ => none

/-- A watcher pushes its event. -/
def push (s : CkVtMonitor) (t : ThreadRef) : Option CkVtMonitor :=
  match s.thread t with
  | some ⟨num, .woken⟩ =>
    if s.queueUnlocked then
      some { s.setPc t ⟨num, .woken⟩ .pushed with
        event_queue := s.event_queue ++ [⟨num, s.pushes⟩]
        pushes := s.pushes + 1 }
    else none
  | _ => none

/-- A watcher has a drain scheduled. -/
def schedule (s : CkVtMonitor) (t : ThreadRef) : Option CkVtMonitor :=
  match s.thread t with
  | some ⟨num, .pushed⟩ => some (schedule_process_queue (s.setPc t ⟨num, .pushed⟩ .leaving))
  | _ => none

/-- A watcher takes itself out of the table and exits. -/
def leave (s : CkVtMonitor) (t : ThreadRef) : Option CkVtMonitor :=
  match s.thread t with
  | some ⟨num, .leaving⟩ =>
    if s.hashUnlocked then
      some { s.setPc t ⟨num, .leaving⟩ .exited with
        vt_thread_hash := s.vt_thread_hash.erase num }
    else none
  | _ => none

/-! ## Section 4: The main thread -/

/-- `process_queue` starts: the queue is locked and its length read. -/
def process_queue (s : CkVtMonitor) : Main :=
  .popping s.event_queue.length ⟨none, s.active_num, s.active_num, [], []⟩

/-- One step of the main thread.  Where it adds a watch, `created` tells
    whether there is a thread to be had. -/
def main_step (max_consoles : Nat) (s : CkVtMonitor) (created : Bool) : Option CkVtMonitor :=
  match s.main with
  | .starting i =>
    if i < max_consoles then some { s.vt_add_watch i created with main := .starting (i + 1) }
    else some { s with main := .running }
  | .running =>
    match s.sources with
    | [] => none
    | _ :: sources => some { s with sources, main := s.process_queue }
  | .popping 0 d => some { s with main := .changing d }
  | .popping (n + 1) d =>
    match s.event_queue with
    | [] => some { s with main := .popping n d }
    | e :: event_queue =>
      some { s with
        event_queue
        main := .popping n { d with data := e, popped := d.popped ++ [e] } }
  | .changing d =>
    match d.data with
    | none => some { s with main := .clearing d }
    | some e =>
      if s.active_num ≠ e.num then some { s with active_num := e.num, main := .adding 1 d }
      else some { s with main := .clearing d }
  | .adding i d =>
    if i < max_consoles then some { s.vt_add_watch i created with main := .adding (i + 1) d }
    else some { s with main := .emitting d }
  | .emitting d =>
    match d.data with
    | none => none
    | some e =>
      some { s with
        emitted := s.emitted ++ [e.num]
        main := .clearing { d with emitted := d.emitted ++ [e.num] } }
  | .clearing d => some { s with process_queue_id := 0, main := .unlocking d }
  | .unlocking d =>
    some { s with drains := s.drains ++ [{ d with after := s.active_num }], main := .running }

end CkVtMonitor

/-! ## Section 5: The monitor as a system -/

inductive Event where
  | wake (t : ThreadRef) (res : Bool)
  | push (t : ThreadRef)
  | schedule (t : ThreadRef)
  | leave (t : ThreadRef)
  | main (created : Bool)
deriving Repr, DecidableEq

def dispatch (max_consoles : Nat) (s : CkVtMonitor) : Event → Option CkVtMonitor
  | .wake t res => s.wake t res
  | .push t => s.push t
  | .schedule t => s.schedule t
  | .leave t => s.leave t
  | .main created => s.main_step max_consoles created

/-- The monitor of a system with `max_consoles` consoles, whatever VT was
    active when it started. -/
def vt_monitor (max_consoles : Nat) : LTS.System CkVtMonitor Event where
  init s := ∃ active, s = CkVtMonitor.ck_vt_monitor_init active
  next := dispatch max_consoles

/-! ## Section 6: What a step does -/

namespace CkVtMonitor

variable {s s' : CkVtMonitor} {t : ThreadRef} {max_consoles : Nat} {created : Bool}

theorem wake_cases {res : Bool} (h : s.wake t res = some s') :
    ∃ num, s.thread t = some ⟨num, .waiting⟩ ∧
      s' = s.setPc t ⟨num, .waiting⟩ (if res then .woken else .leaving) := by
  unfold wake at h
  split at h
  · rename_i num hth
    exact ⟨num, hth, (Option.some.inj h).symm⟩
  · cases h

theorem push_cases (h : s.push t = some s') :
    ∃ num, s.thread t = some ⟨num, .woken⟩ ∧ s.queueUnlocked = true ∧
      s' = { s.setPc t ⟨num, .woken⟩ .pushed with
        event_queue := s.event_queue ++ [⟨num, s.pushes⟩]
        pushes := s.pushes + 1 } := by
  unfold push at h
  split at h
  · rename_i num hth
    split at h
    · rename_i hlock
      exact ⟨num, hth, hlock, (Option.some.inj h).symm⟩
    · cases h
  · cases h

theorem schedule_cases (h : s.schedule t = some s') :
    ∃ num, s.thread t = some ⟨num, .pushed⟩ ∧
      s' = (s.setPc t ⟨num, .pushed⟩ .leaving).schedule_process_queue := by
  unfold schedule at h
  split at h
  · rename_i num hth
    exact ⟨num, hth, (Option.some.inj h).symm⟩
  · cases h

theorem leave_cases (h : s.leave t = some s') :
    ∃ num, s.thread t = some ⟨num, .leaving⟩ ∧ s.hashUnlocked = true ∧
      s' = { s.setPc t ⟨num, .leaving⟩ .exited with
        vt_thread_hash := s.vt_thread_hash.erase num } := by
  unfold leave at h
  split at h
  · rename_i num hth
    split at h
    · rename_i hlock
      exact ⟨num, hth, hlock, (Option.some.inj h).symm⟩
    · cases h
  · cases h

/-- The steps of the main thread, one constructor for each branch. -/
inductive MainStep (max_consoles : Nat) (s : CkVtMonitor) (created : Bool) :
    CkVtMonitor → Prop where
  | start (i : Nat) : s.main = .starting i → i < max_consoles →
      MainStep max_consoles s created { s.vt_add_watch i created with main := .starting (i + 1) }
  | started (i : Nat) : s.main = .starting i → max_consoles ≤ i →
      MainStep max_consoles s created { s with main := .running }
  | lock (source : Nat) (sources : List Nat) : s.main = .running → s.sources = source :: sources →
      MainStep max_consoles s created { s with sources, main := s.process_queue }
  | popped (d : Drain) : s.main = .popping 0 d →
      MainStep max_consoles s created { s with main := .changing d }
  | missing (n : Nat) (d : Drain) : s.main = .popping (n + 1) d → s.event_queue = [] →
      MainStep max_consoles s created { s with main := .popping n d }
  | pop (n : Nat) (d : Drain) (e : EventData) (event_queue : List EventData) :
      s.main = .popping (n + 1) d → s.event_queue = e :: event_queue →
      MainStep max_consoles s created { s with
        event_queue, main := .popping n { d with data := e, popped := d.popped ++ [e] } }
  | nothing (d : Drain) : s.main = .changing d → d.data = none →
      MainStep max_consoles s created { s with main := .clearing d }
  | unchanged (d : Drain) (e : EventData) : s.main = .changing d → d.data = some e →
      s.active_num = e.num → MainStep max_consoles s created { s with main := .clearing d }
  | change (d : Drain) (e : EventData) : s.main = .changing d → d.data = some e →
      s.active_num ≠ e.num →
      MainStep max_consoles s created { s with active_num := e.num, main := .adding 1 d }
  | add (i : Nat) (d : Drain) : s.main = .adding i d → i < max_consoles →
      MainStep max_consoles s created { s.vt_add_watch i created with main := .adding (i + 1) d }
  | added (i : Nat) (d : Drain) : s.main = .adding i d → max_consoles ≤ i →
      MainStep max_consoles s created { s with main := .emitting d }
  | emit (d : Drain) (e : EventData) : s.main = .emitting d → d.data = some e →
      MainStep max_consoles s created { s with
        emitted := s.emitted ++ [e.num]
        main := .clearing { d with emitted := d.emitted ++ [e.num] } }
  | clear (d : Drain) : s.main = .clearing d →
      MainStep max_consoles s created { s with process_queue_id := 0, main := .unlocking d }
  | unlock (d : Drain) : s.main = .unlocking d →
      MainStep max_consoles s created { s with
        drains := s.drains ++ [{ d with after := s.active_num }], main := .running }

theorem main_step_cases (h : s.main_step max_consoles created = some s') :
    MainStep max_consoles s created s' := by
  unfold main_step at h
  split at h
  · rename_i i hm
    split at h <;> cases h
    · exact .start i hm ‹_›
    · exact .started i hm (Nat.le_of_not_lt ‹_›)
  · rename_i hm
    split at h <;> cases h
    exact .lock _ _ hm ‹_›
  · cases h
    exact .popped _ ‹_›
  · rename_i n d hm
    split at h <;> cases h
    · exact .missing n d hm ‹_›
    · exact .pop n d _ _ hm ‹_›
  · rename_i d hm
    split at h
    · cases h
      exact .nothing d hm ‹_›
    · rename_i e hdata
      split at h <;> cases h
      · exact .change d e hm hdata ‹_›
      · exact .unchanged d e hm hdata (not_not.mp ‹_›)
  · rename_i i d hm
    split at h <;> cases h
    · exact .add i d hm ‹_›
    · exact .added i d hm (Nat.le_of_not_lt ‹_›)
  · rename_i d hm
    split at h <;> cases h
    exact .emit d _ hm ‹_›
  · cases h
    exact .clear _ ‹_›
  · cases h
    exact .unlock _ ‹_›

/-- Adding a watch touches the threads and their table only. -/
theorem vt_add_watch_frame (s : CkVtMonitor) (i : Nat) (created : Bool) :
    s.vt_add_watch i created = { s with
      thread := (s.vt_add_watch i created).thread
      next_thread := (s.vt_add_watch i created).next_thread
      vt_thread_hash := (s.vt_add_watch i created).vt_thread_hash } := by
  unfold vt_add_watch vt_add_watch_unlocked
  split
  · rfl
  · split
    · split <;> rfl
    · rfl

/-- A watch is there, or there is none to be had, or a thread was started. -/
theorem vt_add_watch_cases (s : CkVtMonitor) (i : Nat) (created : Bool) :
    s.vt_add_watch i created = s ∧
        (i = s.active_num ∨ (∃ t, s.vt_thread_hash.lookup i = some t) ∨ created = false) ∨
      i ≠ s.active_num ∧ s.vt_thread_hash.lookup i = none ∧ created = true ∧
        s.vt_add_watch i created = { s with
          thread := Function.update s.thread s.next_thread (some ⟨i, .waiting⟩)
          next_thread := s.next_thread + 1
          vt_thread_hash := s.vt_thread_hash.insert i s.next_thread } := by
  unfold vt_add_watch vt_add_watch_unlocked
  split
  · exact .inl ⟨rfl, .inl ‹_›⟩
  · rename_i hactive
    split
    · rename_i hnone
      split
      · exact .inr ⟨hactive, hnone, ‹_›, rfl⟩
      · exact .inl ⟨rfl, .inr (.inr (Bool.eq_false_iff.mpr ‹_›))⟩
    · exact .inl ⟨rfl, .inr (.inl ⟨_, ‹_›⟩)⟩

end CkVtMonitor

end Vt
