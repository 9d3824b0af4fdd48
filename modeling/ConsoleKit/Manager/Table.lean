import ConsoleKit.Manager.Seats

/-! # The table of sessions

    What one step of the main loop does to the table of sessions: it opens
    one, ends the removal of one, or leaves the table alone.  Whatever is
    kept for each session follows the table by these three cases.
-/

namespace CkManager

open Libc

/-! ## Section 1: The labels that change the table -/

/-- The collector of a leader exits, and the session can be created. -/
def Label.opening : Label → Option (LeaderRef × Opening)
  | .dispatch (.job_completed l (some o)) => if o.created then some (l, o) else none
  | _ => none

/-- The removal that comes to its end: a leader and its session. -/
def Label.removal (c : MainLoop) : Label → Option (LeaderRef × SessionRef)
  | .call =>
    match c.stack with
    | .remove_session l x _ :: _ => some (l, x)
    | _ => none
  | _ => none

/-- The table of sessions, and what does not change about a session. -/
structure SameTable (m m' : State) : Prop where
  identity : ∀ x, m'.session x = (m.session x).sameAs (m'.session x)
  next_session : m'.next_session = m.next_session
  sessions : m'.sessions = m.sessions

/-- The state without the session of the leader in the table. -/
def State.without (m : State) (l : LeaderRef) : State :=
  { m with sessions := m.sessions.erase (m.leader l).session_id }

/-- What a step does to the table of sessions. -/
inductive TableStep (c : MainLoop) (label : Label) (c' : MainLoop) : Prop where
  | same : label.opening = none → label.removal c = none → SameTable c.state c'.state →
      TableStep c label c'
  | opened : ∀ {l o}, label.opening = some (l, o) →
      SameTable (c.state.insertOpened l o) c'.state → TableStep c label c'
  | removed : ∀ {l x}, label.opening = none → label.removal c = some (l, x) →
      SameTable (c.state.without l) c'.state → TableStep c label c'

/-! ## Section 2: Steps of the main loop -/

theorem SameSessions.sameTable {m m' : State} (h : SameSessions m m') : SameTable m m' :=
  ⟨h.identity, h.next_session, h.sessions⟩

theorem SameTable.of_eq {m m' : State} (hsession : m'.session = m.session)
    (hnext : m'.next_session = m.next_session) (hsessions : m'.sessions = m.sessions) :
    SameTable m m' where
  identity x := by
    rw [hsession]
    rfl
  next_session := hnext
  sessions := hsessions

/-- The opening of a session that could be created inserts it. -/
theorem State.job_completed_created {m : State} {l : LeaderRef} {o : Opening}
    {r : State × List Call} (hcreated : o.created = true)
    (h : m.job_completed l (some o) = some r) : SameTable (m.insertOpened l o) r.1 := by
  simp only [job_completed, verify_and_open_session_for_leader] at h
  unfold open_session_for_leader at h
  rw [if_pos hcreated] at h
  dsimp only at h
  split at h
  · cases h
    exact .of_eq rfl rfl rfl
  · obtain ⟨⟨seat, m', calls⟩, hadd, rfl⟩ := Option.map_eq_some_iff.mp h
    exact (add_new_seat_same hadd).1.sameTable

theorem State.job_completed_refused {m : State} {l : LeaderRef} {o : Opening}
    {r : State × List Call} (hcreated : o.created = false)
    (h : m.job_completed l (some o) = some r) : SameTable m r.1 := by
  simp only [job_completed, verify_and_open_session_for_leader] at h
  unfold open_session_for_leader at h
  rw [if_neg (by rw [hcreated]; decide)] at h
  cases h
  exact .of_eq rfl rfl rfl

theorem table_dispatch {m : State} {stack : List Call} {event : Event} {r : State × List Call}
    (h : m.dispatch event = some r) :
    TableStep ⟨m, stack⟩ (.dispatch event) ⟨r.1, r.2 ++ stack⟩ := by
  cases event with
  | open_session sender caller cookie started =>
    obtain ⟨-, m', hm', rfl⟩ := State.dispatch_open_session h
    obtain ⟨hsession, hnext, hsessions, -⟩ := State.create_session_heaps hm'
    exact .same rfl rfl (.of_eq hsession hnext hsessions)
  | job_completed l result =>
    obtain ⟨-, h⟩ := State.dispatch_job_completed h
    cases result with
    | none =>
      cases h
      exact .same rfl rfl (.of_eq rfl rfl rfl)
    | some o =>
      by_cases hcreated : o.created = true
      · exact .opened (if_pos hcreated) (State.job_completed_created hcreated h)
      · exact .same (if_neg hcreated) rfl
          (State.job_completed_refused (Bool.eq_false_iff.mpr hcreated) h)
  | close_session caller cookie =>
    cases h
    rcases m.dbus_close_session_cases caller cookie with heq | ⟨_, _, l, r, -, -, hr, heq⟩
    · rw [heq]
      exact .same rfl rfl (.of_eq rfl rfl rfl)
    · obtain ⟨_, _, -, hsame, -⟩ := State.remove_session_for_cookie_spec hr
      rw [heq]
      exact .same rfl rfl hsame.sameTable
  | name_owner_notify service_name old_service_name new_service_name =>
    cases h
    unfold State.on_name_owner_notify
    split <;> exact .same rfl rfl (.of_eq rfl rfl rfl)
  | process_queue | seat_activate_session | seat_switch_to | session_activate
    | activate_session | activate_session_on_seat | vt_leave =>
    exact .same rfl rfl (State.dispatch_same (by trivial) h).1.sameTable

theorem table_call {m : State} {f : Call} {rest : List Call} {r : State × List Call}
    (h : m.call f = some r) : TableStep ⟨m, f :: rest⟩ .call ⟨r.1, r.2 ++ rest⟩ := by
  cases f with
  | remove_session l x caller =>
    cases h
    cases caller <;> exact .removed rfl rfl (.of_eq rfl rfl rfl)
  | destroy_entity l =>
    cases h
    rcases m.destroy_entity_cases l with ⟨-, heq⟩ | ⟨r, hr, heq⟩
    · rw [heq]
      exact .same rfl rfl (.of_eq rfl rfl rfl)
    · obtain ⟨_, _, -, hsame, -⟩ := State.remove_session_for_cookie_spec hr
      rw [heq]
      exact .same rfl rfl hsame.sameTable
  | _ => exact .same rfl rfl (State.call_same rfl h).1.sameTable

theorem table_step {c c' : MainLoop} {label : Label} (h : main_loop.next c label = some c') :
    TableStep c label c' := by
  obtain ⟨m, stack⟩ := c
  cases main_loop_step h with
  | dispatch _ hr => exact table_dispatch hr
  | @call f rest r hstack hr =>
    obtain rfl : stack = f :: rest := hstack
    exact table_call hr
  | callout_done _ => exact .same rfl rfl (.of_eq rfl rfl rfl)

/-! ## Section 3: The sessions in the table -/

theorem SameTable.unix_user {m m' : State} (h : SameTable m m') (x : SessionRef) :
    (m'.session x).unix_user = (m.session x).unix_user := by
  rw [h.identity x]
  rfl

theorem insertOpened_old {m : State} {l : LeaderRef} {o : Opening} {x : SessionRef}
    (hx : x ≠ m.next_session) : (m.insertOpened l o).session x = m.session x :=
  Function.update_of_ne hx _ _

theorem insertOpened_new_user (m : State) (l : LeaderRef) (o : Opening) :
    ((m.insertOpened l o).session m.next_session).unix_user =
      (m.ck_session_new_with_parameters l o).unix_user := by
  show (Function.update m.session m.next_session _ m.next_session).unix_user = _
  rw [Function.update_self]
  rfl

theorem mem_values_insertOpened {m : State} {l : LeaderRef} {o : Opening} {x : SessionRef}
    (h : x ∈ (m.insertOpened l o).sessions.values) :
    x = m.next_session ∨ x ∈ m.sessions.values := by
  obtain ⟨k, hk⟩ := HashTable.mem_values.mp h
  rcases HashTable.lookup_insert_iff.mp hk with ⟨-, rfl⟩ | ⟨-, hk⟩
  · exact .inl rfl
  · exact .inr (HashTable.mem_values.mpr ⟨k, hk⟩)

theorem mem_values_without {m : State} {l : LeaderRef} {x : SessionRef}
    (h : x ∈ (m.without l).sessions.values) : x ∈ m.sessions.values := by
  obtain ⟨k, hk⟩ := HashTable.mem_values.mp h
  exact HashTable.mem_values.mpr ⟨k, (HashTable.lookup_erase_iff.mp hk).2⟩

/-- A label that opens a session ends no removal. -/
theorem Label.removal_of_opening {label : Label} (h : label.opening ≠ none) (c : MainLoop) :
    label.removal c = none := by
  cases label with
  | dispatch => rfl
  | call | callout_done => exact absurd rfl h

end CkManager
