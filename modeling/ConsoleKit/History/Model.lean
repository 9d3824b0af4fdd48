import ConsoleKit.Framework.Journal
import ConsoleKit.Log.Event
import ConsoleKit.Manager.Transitions
import ConsoleKit.SystemAction.Model

/-! # The history of the sessions

    The manager logs a record when a session has come to a seat or has left
    it, after the programs for that have been run, and logs a record before
    it runs the command of a system action.  `ck-history` reads the records
    and searches the end of each session.

    This module provides:
    - `find_first_matching_remove_event`, the search,
    - `history`: the main loop and the system actions, with the log,
    - `EndsRight`: what is asked of the search.
-/

namespace History

open CkManager Log Libc

/-! ## Section 1: The search -/

def find_first_matching_remove_event :
    List CkLogEventData → CkLogSeatSessionAddedEvent → Option CkLogEventData
  | [], _ => none
  | l :: events, event =>
    match l with
    | .seat_session_removed e =>
      if e.session_id ≠ none ∧ event.session_id ≠ none ∧ e.session_id = event.session_id then
        some l
      else find_first_matching_remove_event events event
    | .system_start _ | .system_stop | .system_restart => some l
    -- skip all non removal events
    | _ => find_first_matching_remove_event events event

inductive RecordStatus where
  | CRASH | DOWN | NORMAL | NOW | REBOOT | PHANTOM | TIMECHANGE
  deriving DecidableEq

def get_event_record_status : Option CkLogEventData → RecordStatus
  | some (.seat_session_removed _) => .NORMAL
  | some (.system_start _) => .CRASH
  | some .system_stop | some .system_restart => .DOWN
  | _ => .NOW

/-! ## Section 2: The records -/

section
variable (session_type : SessionRef → Option CString) (m : State)

/-- The data of `log_seat_session_added_event` and
    `log_seat_session_removed_event`: the properties are those of the session
    that the manager has under the id by then. -/
def seat_session_event (d : SeatRef) (x : SessionRef) : CkLogSeatSessionAddedEvent :=
  let session := m.sessions.lookup (m.session x).id
  { seat_id := some (m.seat d).id
    session_id := some (m.session x).id
    session_type := session.bind session_type
    session_x11_display := session.bind fun y => (m.session y).x11_display
    session_x11_display_device := session.bind fun y => (m.session y).x11_display_device
    session_display_device := session.bind fun y => (m.session y).display_device
    session_remote_host_name := session.bind fun y => (m.session y).remote_host_name
    session_is_local := session.any fun y => (m.session y).is_local
    session_unix_user := session.elim 0 fun y => UInt32.ofNat (m.session y).unix_user
    session_creation_time := session.map fun y => (m.session y).creation_time }

def log_seat_session_added_event (d : SeatRef) (x : SessionRef) : CkLogEventData :=
  .seat_session_added (seat_session_event session_type m d x)

def log_seat_session_removed_event (d : SeatRef) (x : SessionRef) : CkLogEventData :=
  .seat_session_removed (seat_session_event session_type m d x)

def log_seat_active_session_changed_event (d : SeatRef) (session : Option SessionRef) :
    CkLogEventData :=
  .seat_active_session_changed
    { seat_id := some (m.seat d).id, session_id := session.map fun x => (m.session x).id }

def seat_event (d : SeatRef) : CkLogSeatAddedEvent :=
  { seat_id := some (m.seat d).id
    seat_kind := match (m.seat d).kind with
      | .STATIC => 0
      | .DYNAMIC => 1 }

def log_seat_added_event (d : SeatRef) : CkLogEventData := .seat_added (seat_event m d)

def log_seat_removed_event (d : SeatRef) : CkLogEventData := .seat_removed (seat_event m d)

end

/-- The record of `log_system_action_event`, which has no data. -/
def system_action_event : CkLogEventType → CkLogEventData
  | .SYSTEM_STOP => .system_stop
  | .SYSTEM_RESTART => .system_restart
  | .SYSTEM_SUSPEND => .system_suspend
  | .SYSTEM_HIBERNATE => .system_hibernate
  | _ => .none

/-! ## Section 3: The system -/

/-- A call that is left to make, with the seat and the session that the
    handler that left it is about. -/
structure Frame where
  call : Call
  about : Option (SeatRef × Option SessionRef)

structure Recording where
  state : State
  frames : List Frame
  actions : SystemAction.Manager
  log : List CkLogEventData
  /-- The system has gone down, and the daemon with it. -/
  down : Bool

inductive RecordingLabel where
  | loop (label : Label)
  | action (label : SystemAction.ActionLabel)

/-- The leader for which the event starts a removal. -/
def removal_of_event (m : State) : Event → Option LeaderRef
  | .close_session (some (uid, pid)) cookie => m.paranoia_check_is_cookie_owner cookie uid pid
  | _ => none

def removal_of_call : Call → Option LeaderRef
  | .destroy_entity l => some l
  | _ => none

/-- The leader's session, with its seat. -/
def seat_and_session (m : State) (l : LeaderRef) : Option (SeatRef × Option SessionRef) := do
  let x ← m.sessions.lookup (m.leader l).session_id
  let d ← m.seat_of_session x
  return (d, some x)

def about_event (m : State) (event : Event) : Option (SeatRef × Option SessionRef) :=
  (removal_of_event m event).bind (seat_and_session m)

def about_call (m : State) : Call → Option (SeatRef × Option SessionRef)
  | .ck_seat_add_session seat x => seat.map fun d => (d, some x)
  | .destroy_entity l => seat_and_session m l
  | f => f.changes m

/-- The records that a call writes. -/
def records_of_call (m : State) : Call → List CkLogEventData
  | .seat_added d => [log_seat_added_event m d]
  | .seat_removed d => [log_seat_removed_event m d]
  | _ => []

/-- The record that is written after the programs of a callout. -/
def records_of_callout (session_type : SessionRef → Option CString) (m : State) (f : Frame) :
    List CkLogEventData :=
  match f.call, f.about with
  | .callout .session_added, some (d, some x) => [log_seat_session_added_event session_type m d x]
  | .callout .session_removed, some (d, some x) =>
    [log_seat_session_removed_event session_type m d x]
  | .callout .seat_active_session_changed, some (d, session) =>
    [log_seat_active_session_changed_event m d session]
  | _, _ => []

def push (calls : List Call) (about : Option (SeatRef × Option SessionRef))
    (frames : List Frame) : List Frame :=
  calls.map (fun f => ⟨f, about⟩) ++ frames

namespace Recording

/-- The calls that are left to make. -/
def stack (s : Recording) : List Call := s.frames.map Frame.call

section
variable (session_type : SessionRef → Option CString)
  (spawn : Nat → String → Option String) (takes_down : Nat → Bool)
  (backend : SystemAction.AuthBackend)

def loop_next (s : Recording) : Label → Option Recording
  | .dispatch event =>
    if dispatching s.stack then
      (s.state.dispatch event).map fun r =>
        { s with state := r.1, frames := push r.2 (about_event s.state event) s.frames }
    else none
  | .call =>
    match s.frames with
    | [] => none
    | f :: rest => (s.state.call f.call).map fun r =>
      { s with
        state := r.1
        frames := push r.2 (about_call s.state f.call) rest
        log := s.log ++ records_of_call r.1 f.call }
  | .callout_done =>
    match s.frames with
    | ⟨.callout action, about⟩ :: rest =>
      some { s with
        frames := rest
        log := s.log ++ records_of_callout session_type s.state ⟨.callout action, about⟩ }
    | _ => none

/-- What the system actions log when they come to the state `m`. -/
def system_records (s : Recording) (m : SystemAction.Manager) : List CkLogEventData :=
  (m.daemon.listener.logged.drop s.actions.daemon.listener.logged.length).map system_action_event

/-- One of the commands that were run takes the system down. -/
def goes_down (s : Recording) (m : SystemAction.Manager) : Bool :=
  (m.daemon.listener.commands.zipIdx.drop s.actions.daemon.listener.commands.length).any
    fun (command, n) => (spawn n command).isNone && takes_down n

def action_next (s : Recording) (label : SystemAction.ActionLabel) : Option Recording :=
  if dispatching s.stack then
    (SystemAction.action_next spawn backend s.actions label).map fun m =>
      { s with
        actions := m
        log := s.log ++ s.system_records m
        down := s.goes_down spawn takes_down m }
  else none

/-- Nothing happens any more when the system is down. -/
def next (s : Recording) (label : RecordingLabel) : Option Recording :=
  if s.down then none
  else
    match label with
    | .loop label => s.loop_next session_type label
    | .action label => s.action_next spawn takes_down backend label

section
variable {session_type : SessionRef → Option CString} {spawn : Nat → String → Option String}
  {takes_down : Nat → Bool} {backend : SystemAction.AuthBackend} {s s' : Recording}

theorem loop_next_cases {label : Label} (h : s.loop_next session_type label = some s') :
    (∃ event r, label = .dispatch event ∧ dispatching s.stack = true ∧
      s.state.dispatch event = some r ∧
      s' = { s with state := r.1, frames := push r.2 (about_event s.state event) s.frames }) ∨
    (∃ f rest r, label = .call ∧ s.frames = f :: rest ∧ s.state.call f.call = some r ∧
      s' = { s with
        state := r.1
        frames := push r.2 (about_call s.state f.call) rest
        log := s.log ++ records_of_call r.1 f.call }) ∨
    (∃ action about rest, label = .callout_done ∧
      s.frames = ⟨.callout action, about⟩ :: rest ∧
      s' = { s with
        frames := rest
        log := s.log ++ records_of_callout session_type s.state ⟨.callout action, about⟩ }) := by
  cases label with
  | dispatch event =>
    obtain ⟨hdispatching, h⟩ := Option.ite_none_right_eq_some.mp h
    obtain ⟨r, hr, rfl⟩ := Option.map_eq_some_iff.mp h
    exact .inl ⟨event, r, rfl, hdispatching, hr, rfl⟩
  | call =>
    simp only [loop_next] at h
    split at h
    · cases h
    · rename_i f rest hframes
      obtain ⟨r, hr, rfl⟩ := Option.map_eq_some_iff.mp h
      exact .inr (.inl ⟨f, rest, r, rfl, hframes, hr, rfl⟩)
  | callout_done =>
    simp only [loop_next] at h
    split at h
    · rename_i action about rest hframes
      cases h
      exact .inr (.inr ⟨action, about, rest, rfl, hframes, rfl⟩)
    · cases h

theorem next_cases {label : RecordingLabel}
    (h : s.next session_type spawn takes_down backend label = some s') :
    s.down = false ∧
    ((∃ l, label = .loop l ∧ s.loop_next session_type l = some s') ∨
      ∃ l m, label = .action l ∧ dispatching s.stack = true ∧
        SystemAction.action_next spawn backend s.actions l = some m ∧
        s' = { s with
          actions := m
          log := s.log ++ s.system_records m
          down := s.goes_down spawn takes_down m }) := by
  unfold next at h
  split at h
  · cases h
  · rename_i hup
    refine ⟨eq_false_of_ne_true hup, ?_⟩
    cases label with
    | loop l => exact .inl ⟨l, rfl, h⟩
    | action l =>
      obtain ⟨hdispatching, h⟩ := Option.ite_none_right_eq_some.mp h
      obtain ⟨m, hm, rfl⟩ := Option.map_eq_some_iff.mp h
      exact .inr ⟨l, m, rfl, hdispatching, hm, rfl⟩

theorem loop_next_actions {label : Label} (h : s.loop_next session_type label = some s') :
    s'.actions = s.actions ∧ s'.down = s.down := by
  rcases loop_next_cases h with ⟨_, _, _, _, _, rfl⟩ | ⟨_, _, _, _, _, _, rfl⟩ |
    ⟨_, _, _, _, _, rfl⟩ <;> exact ⟨rfl, rfl⟩

end

end

end Recording

theorem stack_push (calls : List Call) (about : Option (SeatRef × Option SessionRef))
    (frames : List Frame) :
    (push calls about frames).map Frame.call = calls ++ frames.map Frame.call := by
  unfold push
  rw [List.map_append, List.map_map]
  exact congrArg (· ++ _) (List.map_id calls)

/-- The daemon from the loading of the seats on.  `spawn n command` is the
    outcome of the `n`-th command, as for the system actions, and
    `takes_down n` tells whether the system goes down while it runs. -/
def history (session_type : SessionRef → Option CString)
    (spawn : Nat → String → Option String) (takes_down : Nat → Bool)
    (backend : SystemAction.AuthBackend) : LTS.System Recording RecordingLabel where
  init s := ∃ vfd active_num files,
    s = ⟨ck_manager_init vfd active_num, [⟨.load_seats_from_dir files, none⟩],
      SystemAction.manager_init, [], false⟩
  next := Recording.next session_type spawn takes_down backend

section
variable {session_type : SessionRef → Option CString} {spawn : Nat → String → Option String}
  {takes_down : Nat → Bool} {backend : SystemAction.AuthBackend} {s : Recording}

/-- Its main loop is that of the manager. -/
theorem history_main_loop
    (h : (history session_type spawn takes_down backend).Reachable s) :
    main_loop.Reachable ⟨s.state, s.stack⟩ := by
  refine h.project (fun s => (⟨s.state, s.stack⟩ : MainLoop)) ?_ ?_
  · rintro s ⟨vfd, active_num, files, rfl⟩
    exact ⟨vfd, active_num, files, rfl⟩
  · intro s label s' _ hn
    obtain ⟨-, ⟨label, rfl, hloop⟩ | ⟨_, _, rfl, -, -, rfl⟩⟩ := Recording.next_cases hn
    · refine .inr ⟨label, trivial, ?_⟩
      rcases Recording.loop_next_cases hloop with ⟨event, r, rfl, hdispatching, hr, rfl⟩ |
        ⟨f, rest, r, rfl, hframes, hr, rfl⟩ | ⟨action, about, rest, rfl, hframes, rfl⟩
      · have hstack : dispatching (s.frames.map Frame.call) = true := hdispatching
        simp [main_loop, main_loop_next, hstack, hr, Recording.stack, stack_push]
      · simp [main_loop, main_loop_next, hframes, hr, Recording.stack, stack_push]
      · simp [main_loop, main_loop_next, hframes, Recording.stack]
    · exact .inl rfl

/-- Its system actions are those of the manager. -/
theorem history_actions
    (h : (history session_type spawn takes_down backend).Reachable s) :
    (SystemAction.action_system spawn backend).Reachable s.actions := by
  refine h.project Recording.actions ?_ ?_
  · rintro s ⟨vfd, active_num, files, rfl⟩
    rfl
  · intro s label s' _ hn
    obtain ⟨-, ⟨label, rfl, hloop⟩ | ⟨label, m, rfl, -, hm, rfl⟩⟩ := Recording.next_cases hn
    · exact .inl (Recording.loop_next_actions hloop).1
    · exact .inr ⟨label, trivial, hm⟩

end

/-! ## Section 4: What is asked -/

/-- No handler is running, or none will run any more. -/
def Recording.Settled (s : Recording) : Prop := s.frames = [] ∨ s.down = true

/-- The manager has a session under the id of the record. -/
def Recording.Open (s : Recording) (e : CkLogSeatSessionAddedEvent) : Prop :=
  ∃ k, e.session_id = some k ∧ (s.state.sessions.lookup k).isSome = true

/-- A record of a stop or a restart. -/
def is_system_end : CkLogEventData → Bool
  | .system_stop | .system_restart => true
  | _ => false

/-- The end that is found among the records after the one of an added session:
    its removal if it was removed, none if it is open and the system runs, and
    a stop or a restart only if the system went down with it. -/
structure EndsRight (s : Recording) (e : CkLogSeatSessionAddedEvent)
    (events : List CkLogEventData) : Prop where
  removed : ¬ s.Open e →
    (∃ e', find_first_matching_remove_event events e = some (.seat_session_removed e') ∧
      e'.session_id = e.session_id) ∧
    get_event_record_status (find_first_matching_remove_event events e) = .NORMAL
  still_open : s.Open e → s.down = false →
    find_first_matching_remove_event events e = none ∧
    get_event_record_status (find_first_matching_remove_event events e) = .NOW
  system : ∀ l, find_first_matching_remove_event events e = some l → is_system_end l = true →
    s.down = true ∧ s.Open e

end History
