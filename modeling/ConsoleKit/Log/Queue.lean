import ConsoleKit.Framework.System
import ConsoleKit.Log.Codec
import ConsoleKit.Log.Memory

/-! # The queue of the event logger

    Model of the threads of `ck-event-logger.c`, while the log is open.  The
    main thread queues copies of events, and the writer thread takes them from
    the queue, writes a record for each and frees it.  To stop the writer, an
    event of the type NONE is queued behind the others.

    This module provides:
    - `log_queue`: the two threads, with the caller of the logger,
    - `log_queue_in_order`: the records are those of the events, in their
      order,
    - `finalize_returns`: the writer comes to its end.
-/

namespace EventLogger

namespace Queue

open Libc Log

/-! ## Section 1: The threads -/

/-- A pointer in the queue: to a copy, or to the event on the stack of
    `destroy_writer_thread`. -/
inductive QueuedEvent where
  | copy (event : Addr)
  | none_event
  deriving DecidableEq

/-- Where the writer is in its loop. -/
inductive Writer where
  | waiting
  | popped (event : Addr)
  | written (event : Addr)
  | exited
  deriving DecidableEq

inductive Phase where
  | running
  /-- `destroy_writer_thread` waits for the writer. -/
  | joining
  | finalized
  deriving DecidableEq

structure State where
  memory : Memory
  event_queue : List QueuedEvent
  writer_thread : Writer
  phase : Phase
  /-- The records of the log, without the line ends. -/
  records : List CString
  /-- The events as they were when they were queued. -/
  queued : List CkLogEvent

namespace State

variable (s : State)

/-- The caller changes its memory, or frees some of it. -/
def caller (strings : Nat → Option CString) (events : Nat → Option EventCell) : State :=
  { s with memory := s.memory.setCaller strings events }

def ck_event_logger_queue_event (event : Addr) : Option State := do
  let (event_copy, memory) ← ck_log_event_copy event s.memory
  return { s with memory, event_queue := s.event_queue ++ [.copy event_copy] }

/-- The queued event is noted down. -/
def queue_event (event : Addr) : Option State := do
  let e ← s.memory.load event
  let s' ← s.ck_event_logger_queue_event event
  return { s' with queued := s.queued ++ [e] }

/-- The next thing that the writer does, unless it has to wait. -/
def writer_thread_start : Option State :=
  match s.writer_thread with
  | .waiting =>
    match s.event_queue with
    | [] => none
    | .none_event :: rest => some { s with event_queue := rest, writer_thread := .exited }
    | .copy event :: rest =>
      (s.memory.events event).map fun cell =>
        match cell.event with
        | .none => { s with event_queue := rest, writer_thread := .exited }
        | _ => { s with event_queue := rest, writer_thread := .popped event }
  | .popped event => do
    let e ← s.memory.load event
    let str ← ck_log_event_to_string e
    return { s with records := s.records ++ [str], writer_thread := .written event }
  | .written event => do
    let memory ← ck_log_event_free event s.memory
    return { s with memory, writer_thread := .waiting }
  | .exited => none

def destroy_writer_thread : State :=
  { s with event_queue := s.event_queue ++ [.none_event], phase := .joining }

end State

inductive Label where
  | caller (strings : Nat → Option CString) (events : Nat → Option EventCell)
  | queue_event (event : Addr)
  /-- The writer thread makes a step. -/
  | writer
  /-- `ck_event_logger_finalize` begins; nobody has the logger any more. -/
  | finalize
  /-- `g_thread_join` returns. -/
  | join

def log_queue_next (s : State) : Label → Option State
  | .caller strings events => some (s.caller strings events)
  | .queue_event event => if s.phase = .running then s.queue_event event else none
  | .writer => s.writer_thread_start
  | .finalize => if s.phase = .running then some s.destroy_writer_thread else none
  | .join =>
      if s.phase = .joining ∧ s.writer_thread = .exited then some { s with phase := .finalized }
      else none

def log_queue : LTS.System State Label where
  init := fun s => ∃ memory, s = ⟨memory, [], .waiting, .running, [], []⟩
  next := log_queue_next

/-! ## Section 2: The copies in the queue -/

/-- The copies of the events, one behind the other. -/
def Chain (m : Memory) : Nat → List Nat → List CkLogEvent → Prop
  | lo, [], [] => lo ≤ m.next
  | lo, n :: ns, e :: es => m.CopyAt lo n e ∧ Chain m (n + 1) ns es
  | _, _, _ => False

theorem Chain.imp {m m' : Memory} {lo : Nat} {ns : List Nat} {es : List CkLogEvent}
    (h : Chain m lo ns es) (hnext : m.next ≤ m'.next)
    (hcopy : ∀ lo' n e, lo ≤ lo' → m.CopyAt lo' n e → m'.CopyAt lo' n e) : Chain m' lo ns es := by
  induction ns generalizing lo es with
  | nil =>
    cases es with
    | nil => exact Nat.le_trans h hnext
    | cons => exact h
  | cons n ns ih =>
    cases es with
    | nil => exact h
    | cons e es =>
      have horder := h.1.order
      exact ⟨hcopy lo n e (Nat.le_refl _) h.1,
        -- The rest of the chain lies behind this copy.
        ih h.2 fun lo' n' e' hle => hcopy lo' n' e' (by omega)⟩

/-- A copy that is made now lies behind the others. -/
theorem Chain.append {m m' : Memory} {lo n : Nat} {ns : List Nat} {e : CkLogEvent}
    {es : List CkLogEvent} (h : Chain m lo ns es) (hgrows : m.Grows m')
    (hcopy : m'.CopyAt m.next n e) (hnext : m'.next = n + 1) :
    Chain m' lo (ns ++ [n]) (es ++ [e]) := by
  induction ns generalizing lo es with
  | nil =>
    cases es with
    | nil => exact ⟨hcopy.mono h, Nat.le_of_eq hnext.symm⟩
    | cons => exact h.elim
  | cons n' ns ih =>
    cases es with
    | nil => exact h.elim
    | cons e' es => exact ⟨h.1.grows hgrows, ih h.2⟩

/-- The text of every event that can be copied is defined. -/
theorem to_string_of_copied {e : CkLogEvent} (h : copied_type e.event.type = true) :
    ∃ str, ck_log_event_to_string e = some str := by
  obtain ⟨data, timestamp⟩ := e
  cases data with
  | none | start | stop | system_runlevel_changed => cases h
  | system_start | system_stop | system_restart | system_suspend | system_hibernate | seat_added |
    seat_removed | seat_session_added | seat_session_removed | seat_device_added |
    seat_device_removed | seat_active_session_changed => exact ⟨_, rfl⟩

/-! ## Section 3: The invariant -/

/-- The events that have no record yet are the last ones. -/
def Recorded (s : State) (es : List CkLogEvent) : Prop :=
  ∃ done, s.queued = done ++ es ∧ done.map ck_log_event_to_string = s.records.map some ∧
    ∀ e ∈ es, copied_type e.event.type = true

/-- What the queue holds behind the copies. -/
def Phase.sentinel : Phase → List QueuedEvent
  | .running => []
  | _ => [.none_event]

/-- The queue while the writer runs. -/
def Queued (s : State) (ns : List Nat) : Prop :=
  s.event_queue = ns.map (fun n => .copy (.logger n)) ++ s.phase.sentinel ∧ s.phase ≠ .finalized

inductive Valid (s : State) : Prop where
  | waiting (lo : Nat) (ns : List Nat) (es : List CkLogEvent) : s.writer_thread = .waiting →
      Queued s ns → Chain s.memory lo ns es → Recorded s es → Valid s
  | popped (lo n : Nat) (ns : List Nat) (e : CkLogEvent) (es : List CkLogEvent) :
      s.writer_thread = .popped (.logger n) → Queued s ns →
      Chain s.memory lo (n :: ns) (e :: es) → Recorded s (e :: es) → Valid s
  | written (lo n : Nat) (ns : List Nat) (e : CkLogEvent) (es : List CkLogEvent) :
      s.writer_thread = .written (.logger n) → Queued s ns →
      Chain s.memory lo (n :: ns) (e :: es) → Recorded s es → Valid s
  | exited : s.writer_thread = .exited → s.phase ≠ .running → Recorded s [] → Valid s

theorem Recorded.in_order {s : State} {es : List CkLogEvent} (h : Recorded s es) :
    s.records.map some <+: s.queued.map ck_log_event_to_string := by
  obtain ⟨done, hqueued, hdone, _⟩ := h
  rw [hqueued, List.map_append, hdone]
  exact List.prefix_append ..

/-- An event that waits for its record is of a type that can be copied. -/
theorem Recorded.copied {s : State} {e : CkLogEvent} {es : List CkLogEvent}
    (h : Recorded s (e :: es)) : copied_type e.event.type = true := by
  obtain ⟨done, -, -, hes⟩ := h
  exact hes e (List.mem_cons_self ..)

theorem Valid.in_order {s : State} (h : Valid s) :
    s.records.map some <+: s.queued.map ck_log_event_to_string := by
  cases h with
  | waiting _ _ _ _ _ _ hrecorded => exact hrecorded.in_order
  | popped _ _ _ _ _ _ _ _ hrecorded => exact hrecorded.in_order
  | written _ _ _ _ _ _ _ _ hrecorded => exact hrecorded.in_order
  | exited _ _ hrecorded => exact hrecorded.in_order

/-- The writer has been joined, so that it has no event left. -/
theorem Valid.all_recorded {s : State} (h : Valid s) (hphase : s.phase = .finalized) :
    s.records.map some = s.queued.map ck_log_event_to_string := by
  cases h with
  | waiting _ _ _ _ hqueue _ _ => exact absurd hphase hqueue.2
  | popped _ _ _ _ _ _ hqueue _ _ => exact absurd hphase hqueue.2
  | written _ _ _ _ _ _ hqueue _ _ => exact absurd hphase hqueue.2
  | exited _ _ hrecorded =>
    obtain ⟨done, hqueued, hdone, _⟩ := hrecorded
    rw [hqueued, List.append_nil, hdone]

/-! ## Section 4: The steps of the main thread -/

/-- The writer is not disturbed by what leaves the copies alone. -/
theorem Valid.of_memory {s : State} (h : Valid s) {memory : Memory}
    (hnext : s.memory.next ≤ memory.next)
    (hcopy : ∀ lo n e, s.memory.CopyAt lo n e → memory.CopyAt lo n e) :
    Valid { s with memory } := by
  cases h with
  | waiting lo ns es hwriter hqueue hchain hrecorded =>
    exact .waiting lo ns es hwriter hqueue (hchain.imp hnext fun lo' n e _ => hcopy lo' n e)
      hrecorded
  | popped lo n ns e es hwriter hqueue hchain hrecorded =>
    exact .popped lo n ns e es hwriter hqueue (hchain.imp hnext fun lo' n e _ => hcopy lo' n e)
      hrecorded
  | written lo n ns e es hwriter hqueue hchain hrecorded =>
    exact .written lo n ns e es hwriter hqueue (hchain.imp hnext fun lo' n e _ => hcopy lo' n e)
      hrecorded
  | exited hwriter hphase hrecorded => exact .exited hwriter hphase hrecorded

theorem Recorded.queue {s : State} {es : List CkLogEvent} (h : Recorded s es) {e : CkLogEvent}
    (htype : copied_type e.event.type = true) (memory : Memory) (event_queue : List QueuedEvent) :
    Recorded { s with memory, event_queue, queued := s.queued ++ [e] } (es ++ [e]) := by
  obtain ⟨done, hqueued, hdone, hes⟩ := h
  refine ⟨done, ?_, hdone, ?_⟩
  · show s.queued ++ [e] = done ++ (es ++ [e])
    rw [hqueued, List.append_assoc]
  · intro e' he'
    rcases List.mem_append.mp he' with he' | he'
    · exact hes e' he'
    · rw [List.mem_singleton.mp he']
      exact htype

/-- The copy is the last one in the queue, as nothing stops the writer yet. -/
theorem Queued.queue {s : State} {ns : List Nat} (h : Queued s ns) (hphase : s.phase = .running)
    (n : Nat) (memory : Memory) (queued : List CkLogEvent) :
    Queued { s with
      memory, event_queue := s.event_queue ++ [.copy (.logger n)], queued } (ns ++ [n]) := by
  refine ⟨?_, h.2⟩
  show s.event_queue ++ [_] = _ ++ s.phase.sentinel
  rw [h.1, hphase, Phase.sentinel, List.append_nil, List.append_nil, List.map_append]
  rfl

theorem Valid.queue_event {s s' : State} (h : Valid s) (hphase : s.phase = .running)
    {event : Addr} (hn : s.queue_event event = some s') : Valid s' := by
  obtain ⟨e, hload, hn⟩ := Option.bind_eq_some_iff.mp hn
  obtain ⟨t, hqueue, ht⟩ := Option.bind_eq_some_iff.mp hn
  obtain ⟨⟨a, memory⟩, hcopy, ht'⟩ := Option.bind_eq_some_iff.mp hqueue
  obtain rfl := Option.some.inj ht'
  obtain rfl := Option.some.inj ht
  cases htype : copied_type e.event.type with
  | false =>
    -- `ck_log_event_copy` does not return, and there is no step.
    rw [copy_none hload htype] at hcopy
    cases hcopy
  | true =>
    obtain ⟨a', memory', hcopy', hgrows, n, rfl, hnext, hat⟩ := copy_spec hload htype
    obtain ⟨rfl, rfl⟩ := Prod.mk.inj (Option.some.inj (hcopy.symm.trans hcopy'))
    cases h with
    | waiting lo ns es hwriter hqueued hchain hrecorded =>
      exact .waiting lo (ns ++ [n]) (es ++ [e]) hwriter (hqueued.queue hphase n _ _)
        (hchain.append hgrows hat hnext) (hrecorded.queue htype _ _)
    | popped lo n' ns e' es hwriter hqueued hchain hrecorded =>
      exact .popped lo n' (ns ++ [n]) e' (es ++ [e]) hwriter (hqueued.queue hphase n _ _)
        (hchain.append hgrows hat hnext) (hrecorded.queue htype _ _)
    | written lo n' ns e' es hwriter hqueued hchain hrecorded =>
      exact .written lo n' (ns ++ [n]) e' (es ++ [e]) hwriter (hqueued.queue hphase n _ _)
        (hchain.append hgrows hat hnext) (hrecorded.queue htype _ _)
    -- The writer only exits when it has been told to.
    | exited _ hstopped _ => exact absurd hphase hstopped

/-- The event on the stack comes behind all copies. -/
theorem Valid.finalize {s : State} (h : Valid s) (hphase : s.phase = .running) :
    Valid s.destroy_writer_thread := by
  have hqueued : ∀ {ns}, Queued s ns → Queued s.destroy_writer_thread ns := by
    intro ns hq
    refine ⟨?_, nofun⟩
    show s.event_queue ++ [.none_event] = _ ++ [.none_event]
    rw [hq.1, hphase, Phase.sentinel, List.append_nil]
  cases h with
  | waiting lo ns es hwriter hqueue hchain hrecorded =>
    exact .waiting lo ns es hwriter (hqueued hqueue) hchain hrecorded
  | popped lo n ns e es hwriter hqueue hchain hrecorded =>
    exact .popped lo n ns e es hwriter (hqueued hqueue) hchain hrecorded
  | written lo n ns e es hwriter hqueue hchain hrecorded =>
    exact .written lo n ns e es hwriter (hqueued hqueue) hchain hrecorded
  | exited _ hstopped _ => exact absurd hphase hstopped

/-! ## Section 5: The steps of the writer -/

section
variable {s : State} {lo n : Nat} {e : CkLogEvent}

/-- A copy is not taken for the event that stops the writer. -/
theorem pop_copy (hwriter : s.writer_thread = .waiting) {rest : List QueuedEvent}
    (hqueue : s.event_queue = .copy (.logger n) :: rest) (hat : s.memory.CopyAt lo n e)
    (htype : copied_type e.event.type = true) : s.writer_thread_start =
      some { s with event_queue := rest, writer_thread := .popped (.logger n) } := by
  obtain ⟨cell, hcell, hload⟩ := Option.bind_eq_some_iff.mp hat.load
  unfold State.writer_thread_start
  rw [hwriter, hqueue]
  dsimp only
  rw [hcell, Option.map_some]
  split
  · rename_i hnone
    rw [hnone] at hload
    obtain rfl := Option.some.inj hload
    cases htype
  · rfl

theorem pop_none (hwriter : s.writer_thread = .waiting) {rest : List QueuedEvent}
    (hqueue : s.event_queue = .none_event :: rest) : s.writer_thread_start =
      some { s with event_queue := rest, writer_thread := .exited } := by
  unfold State.writer_thread_start
  rw [hwriter, hqueue]

theorem write_record (hwriter : s.writer_thread = .popped (.logger n))
    (hat : s.memory.CopyAt lo n e) {str : CString} (hstr : ck_log_event_to_string e = some str) :
    s.writer_thread_start =
      some { s with records := s.records ++ [str], writer_thread := .written (.logger n) } := by
  unfold State.writer_thread_start
  rw [hwriter]
  dsimp only
  rw [hat.load]
  show (ck_log_event_to_string e).bind _ = _
  rw [hstr]
  rfl

theorem free_event (hwriter : s.writer_thread = .written (.logger n)) {memory : Memory}
    (hfree : ck_log_event_free (.logger n) s.memory = some memory) :
    s.writer_thread_start = some { s with memory, writer_thread := .waiting } := by
  unfold State.writer_thread_start
  rw [hwriter]
  dsimp only
  rw [hfree]
  rfl

/-- The record of the first event that has none yet. -/
theorem Recorded.write {es : List CkLogEvent} (h : Recorded s (e :: es)) {str : CString}
    (hstr : ck_log_event_to_string e = some str) (writer_thread : Writer) :
    Recorded { s with records := s.records ++ [str], writer_thread } es := by
  obtain ⟨done, hqueued, hdone, hes⟩ := h
  refine ⟨done ++ [e], ?_, ?_, fun e' he' => hes e' (List.mem_cons_of_mem _ he')⟩
  · show s.queued = _
    rw [hqueued, List.append_assoc, List.singleton_append]
  · rw [List.map_append, List.map_singleton, hdone, hstr, List.map_append, List.map_singleton]

/-- Freeing the first copy leaves the others. -/
theorem Chain.free {m m' : Memory} {ns : List Nat} {es : List CkLogEvent}
    (h : Chain m lo (n :: ns) (e :: es)) (hfree : ck_log_event_free (.logger n) m = some m')
    (hnext : m'.next = m.next) : Chain m' (n + 1) ns es :=
  h.2.imp (Nat.le_of_eq hnext.symm) fun _ _ _ hle hat => h.1.free hfree hat hle

end

/-- What the queue starts with while the writer waits. -/
theorem Valid.writer {s s' : State} (h : Valid s) (hn : s.writer_thread_start = some s') :
    Valid s' := by
  cases h with
  | waiting lo ns es hwriter hqueue hchain hrecorded =>
    cases ns with
    | nil =>
      cases es with
      | cons => exact hchain.elim
      | nil =>
        cases hphase : s.phase with
        | running =>
          -- The queue is empty, and the writer has to wait.
          have hempty : s.event_queue = [] := by rw [hqueue.1, hphase]; rfl
          rw [State.writer_thread_start, hwriter, hempty] at hn
          cases hn
        | joining =>
          have hlast : s.event_queue = [.none_event] := by rw [hqueue.1, hphase]; rfl
          obtain rfl := Option.some.inj ((pop_none hwriter hlast).symm.trans hn)
          exact .exited rfl (fun hrunning => by cases hphase.symm.trans hrunning) hrecorded
        | finalized => exact absurd hphase hqueue.2
    | cons n ns =>
      cases es with
      | nil => exact hchain.elim
      | cons e es =>
        have hstep := pop_copy hwriter hqueue.1 hchain.1 hrecorded.copied
        -- The first copy is taken, and keeps its place in the chain until it is
        -- freed.
        obtain rfl := Option.some.inj (hstep.symm.trans hn)
        exact .popped lo n ns e es rfl ⟨rfl, hqueue.2⟩ hchain hrecorded
  | popped lo n ns e es hwriter hqueue hchain hrecorded =>
    obtain ⟨str, hstr⟩ := to_string_of_copied hrecorded.copied
    obtain rfl := Option.some.inj ((write_record hwriter hchain.1 hstr).symm.trans hn)
    exact .written lo n ns e es rfl hqueue hchain (hrecorded.write hstr _)
  -- The record has been written, and only the copies behind are left.
  | written lo n ns e es hwriter hqueue hchain hrecorded =>
    obtain ⟨memory, hfree, hnext⟩ := hchain.1.can_free
    obtain rfl := Option.some.inj ((free_event hwriter hfree).symm.trans hn)
    exact .waiting (n + 1) ns es rfl hqueue (hchain.free hfree hnext) hrecorded
  | exited hwriter _ _ =>
    rw [State.writer_thread_start, hwriter] at hn
    cases hn

/-- **Step lemma** -/
theorem Valid.step {s s' : State} (h : Valid s) {l : Label} (hn : log_queue_next s l = some s') :
    Valid s' := by
  cases l with
  | caller strings events =>
    obtain rfl := Option.some.inj hn
    exact h.of_memory (Nat.le_refl _) fun lo n e hat => hat.setCaller strings events
  | queue_event event =>
    obtain ⟨hphase, hn⟩ := Option.ite_none_right_eq_some.mp hn
    exact h.queue_event hphase hn
  | writer => exact h.writer hn
  | finalize =>
    obtain ⟨hphase, hn⟩ := Option.ite_none_right_eq_some.mp hn
    obtain rfl := Option.some.inj hn
    exact h.finalize hphase
  | join =>
    obtain ⟨⟨_, hexited⟩, hn⟩ := Option.ite_none_right_eq_some.mp hn
    obtain rfl := Option.some.inj hn
    cases h with
    -- `g_thread_join` returns when the writer has exited.
    | waiting _ _ _ hwriter _ _ _ => cases hexited.symm.trans hwriter
    | popped _ _ _ _ _ hwriter _ _ _ => cases hexited.symm.trans hwriter
    | written _ _ _ _ _ hwriter _ _ _ => cases hexited.symm.trans hwriter
    | exited hwriter _ hrecorded => exact .exited hwriter nofun hrecorded

theorem valid_of_reachable {s : State} (h : log_queue.Reachable s) : Valid s := by
  refine h.invariant (fun s hs => ?_) fun s l s' hv hn => hv.step hn
  obtain ⟨memory, rfl⟩ := hs
  refine .waiting memory.next [] [] rfl ⟨rfl, nofun⟩ (Nat.le_refl _) ⟨[], rfl, rfl, ?_⟩
  exact fun e he => absurd he List.not_mem_nil

/-! ## Section 6: The end of the writer -/

/-- The writer makes this many steps, and is joined. -/
def JoinsAfter (s : State) (k : Nat) : Prop :=
  ∃ s', log_queue.run s (List.replicate k .writer ++ [.join]) = some s' ∧ s'.phase = .finalized

theorem JoinsAfter.step {s t : State} {k : Nat} (h : JoinsAfter t k)
    (hn : s.writer_thread_start = some t) : JoinsAfter s (k + 1) := by
  obtain ⟨s', hrun, hphase⟩ := h
  refine ⟨s', ?_, hphase⟩
  rw [List.replicate_succ, List.cons_append, LTS.System.run_cons]
  exact (congrArg (Option.bind · _) hn).trans hrun

theorem joins_exited {s : State} (hwriter : s.writer_thread = .exited)
    (hphase : s.phase = .joining) : JoinsAfter s 0 := by
  refine ⟨{ s with phase := .finalized }, ?_, rfl⟩
  rw [List.replicate_zero, List.nil_append, LTS.System.run_cons]
  have hjoin : log_queue.next s .join = some { s with phase := .finalized } :=
    if_pos ⟨hphase, hwriter⟩
  rw [hjoin]
  rfl

/-- Three steps for each copy, and one for the event that stops the writer. -/
theorem joins_waiting {s : State} {lo : Nat} {ns : List Nat} {es : List CkLogEvent}
    (hwriter : s.writer_thread = .waiting) (hphase : s.phase = .joining) (hqueue : Queued s ns)
    (hchain : Chain s.memory lo ns es) (hrecorded : Recorded s es) : ∃ k, JoinsAfter s k := by
  induction ns generalizing s lo es with
  | nil =>
    have hlast : s.event_queue = [.none_event] := by rw [hqueue.1, hphase]; rfl
    -- Only the event that stops the writer is left.
    refine ⟨1, JoinsAfter.step ?_ (pop_none hwriter hlast)⟩
    exact joins_exited rfl hphase
  | cons n ns ih =>
    cases es with
    | nil => exact hchain.elim
    | cons e es =>
      have htype := hrecorded.copied
      obtain ⟨str, hstr⟩ := to_string_of_copied htype
      obtain ⟨memory, hfree, hnext⟩ := hchain.1.can_free
      -- One turn of the loop: the copy is popped, its record is written, and it is
      -- freed.
      have hpop := pop_copy hwriter hqueue.1 hchain.1 htype
      have hwrite := write_record (s := { s with
        event_queue := ns.map (fun n => .copy (.logger n)) ++ s.phase.sentinel
        writer_thread := .popped (.logger n) }) rfl hchain.1 hstr
      have hfreed := free_event (s := { s with
        event_queue := ns.map (fun n => .copy (.logger n)) ++ s.phase.sentinel
        records := s.records ++ [str]
        writer_thread := .written (.logger n) }) rfl hfree
      obtain ⟨k, hk⟩ := ih (s := { s with
        event_queue := ns.map (fun n => .copy (.logger n)) ++ s.phase.sentinel
        records := s.records ++ [str], memory, writer_thread := .waiting })
        rfl hphase ⟨rfl, hqueue.2⟩ (hchain.free hfree hnext) (hrecorded.write hstr .waiting)
      exact ⟨k + 3, ((hk.step hfreed).step hwrite).step hpop⟩

/-- The writer comes to its end, from wherever it is. -/
theorem Valid.joins {s : State} (h : Valid s) (hphase : s.phase = .joining) :
    ∃ k, JoinsAfter s k := by
  have hwritten : ∀ {t : State} {lo n ns e es}, t.writer_thread = .written (.logger n) →
      t.phase = .joining → Queued t ns → Chain t.memory lo (n :: ns) (e :: es) →
      Recorded t es → ∃ k, JoinsAfter t k := by
    intro t lo n ns e es hwriter hphase hqueue hchain hrecorded
    obtain ⟨memory, hfree, hnext⟩ := hchain.1.can_free
    obtain ⟨k, hk⟩ := joins_waiting (s := { t with memory, writer_thread := .waiting }) rfl hphase
      hqueue (hchain.free hfree hnext) hrecorded
    exact ⟨k + 1, hk.step (free_event hwriter hfree)⟩
  cases h with
  | waiting lo ns es hwriter hqueue hchain hrecorded =>
    exact joins_waiting hwriter hphase hqueue hchain hrecorded
  | popped lo n ns e es hwriter hqueue hchain hrecorded =>
    obtain ⟨str, hstr⟩ := to_string_of_copied hrecorded.copied
    have hwrite := write_record hwriter hchain.1 hstr
    obtain ⟨k, hk⟩ := hwritten (t := { s with
      records := s.records ++ [str], writer_thread := .written (.logger n) }) rfl hphase hqueue
      hchain (hrecorded.write hstr _)
    exact ⟨k + 1, hk.step hwrite⟩
  | written lo n ns e es hwriter hqueue hchain hrecorded =>
    exact hwritten hwriter hphase hqueue hchain hrecorded
  | exited hwriter _ _ => exact ⟨0, joins_exited hwriter hphase⟩

/-! ## Section 7: Every event, once and in order -/

/-- The records are those of the events queued first, in their order and as
    they were by then.  Once the logger is to be finalized, the writer alone
    brings that to an end, and then there is a record of every event. -/
theorem log_queue_in_order {s : State} (h : log_queue.Reachable s) :
    s.records.map some <+: s.queued.map ck_log_event_to_string ∧
      (s.phase = .joining → ∃ k, JoinsAfter s k) ∧
      (s.phase = .finalized → s.records.map some = s.queued.map ck_log_event_to_string) :=
  have hvalid := valid_of_reachable h
  ⟨hvalid.in_order, hvalid.joins, hvalid.all_recorded⟩

/-- The caller has an event for a seat, and the id of the seat. -/
def seat_removed_memory : Memory where
  strings
    | .caller 0 => some (cstr "seat0")
    | _ => none
  events
    | .caller 0 => some ⟨.seat_removed ⟨some (.caller 0), 1⟩, ⟨7, 0⟩⟩
    | _ => none
  next := 0
  strings_fresh := fun _ _ => rfl
  events_fresh := fun _ _ => rfl

/-- The caller frees the event before the writer has looked at it. -/
theorem log_queue_in_order_freed : ∃ s, log_queue.Reachable s ∧
    s.queued = [⟨.seat_removed ⟨some (cstr "seat0"), 1⟩, ⟨7, 0⟩⟩] ∧ s.records.length = 1 ∧
    s.records.map some <+: s.queued.map ck_log_event_to_string := by
  have hinit : log_queue.Reachable ⟨seat_removed_memory, [], .waiting, .running, [], []⟩ :=
    .init ⟨_, rfl⟩
  have hsteps : ∃ s, log_queue.run ⟨seat_removed_memory, [], .waiting, .running, [], []⟩
      [.queue_event (.caller 0), .caller (fun _ => none) fun _ => none, .writer, .writer] =
        some s ∧ s.queued = [⟨.seat_removed ⟨some (cstr "seat0"), 1⟩, ⟨7, 0⟩⟩] ∧
        s.records.length = 1 := ⟨_, rfl, rfl, rfl⟩
  obtain ⟨s, hrun, hqueued, hrecords⟩ := hsteps
  exact ⟨s, hinit.run hrun, hqueued, hrecords, (log_queue_in_order (hinit.run hrun)).1⟩

end Queue

end EventLogger
