import ConsoleKit.Manager.Active
import ConsoleKit.Manager.Table

/-! # Closing a session

    A call of `CloseSession` that no other event interrupts: the main loop
    makes the calls that are left until the stack is empty.  Only the client
    that opened the session closes it.

    This module provides:
    - `Settles`: the main loop without further events, and the rules that
      run one call,
    - `handled_close_session_iff`: the one state that the call ends in,
    - `Keyed`: what the keys of the tables are,
    - `only_opener_closes`: when the call succeeds and what it changes.
-/

namespace CkManager

open Libc

/-! ## Section 1: The main loop without further events -/

/-- The calls that are left are made, and the programs exit, until no handler
    is running. -/
inductive Settles : MainLoop → MainLoop → Prop where
  | done (m : State) : Settles ⟨m, []⟩ ⟨m, []⟩
  | step : ∀ {c c' c'' label}, (∀ event, label ≠ .dispatch event) →
      main_loop.next c label = some c' → Settles c' c'' → Settles c c''

/-- The event is dispatched, and no other one before its handler is done. -/
def Handled (c : MainLoop) (event : Event) (c'' : MainLoop) : Prop :=
  ∃ c', main_loop.next c (.dispatch event) = some c' ∧ Settles c' c''

section
variable {m : State} {c : MainLoop}

theorem settles_nil : Settles ⟨m, []⟩ c ↔ c = ⟨m, []⟩ := by
  constructor
  · intro h
    cases h with
    | done => rfl
    | step hlabel hnext _ =>
      cases main_loop_step hnext with
      | dispatch => exact absurd rfl (hlabel _)
      | call hstack => cases hstack
      | callout_done hstack => cases hstack
  · rintro rfl
    exact .done m

/-- The stack decides what is done next. -/
theorem settles_call {f : Call} {rest : List Call} {r : State × List Call}
    (h : m.call f = some r) : Settles ⟨m, f :: rest⟩ c ↔ Settles ⟨r.1, r.2 ++ rest⟩ c := by
  constructor
  · intro hsettles
    cases hsettles with
    | step hlabel hnext hrest =>
      cases main_loop_step hnext with
      | dispatch => exact absurd rfl (hlabel _)
      | call hstack hr =>
        cases hstack
        rw [h] at hr
        cases hr
        exact hrest
      | callout_done hstack =>
        cases hstack
        cases h
  · intro hrest
    have hnext : main_loop.next ⟨m, f :: rest⟩ .call = some ⟨r.1, r.2 ++ rest⟩ := by
      simp only [main_loop, main_loop_next, h, Option.map_some]
    exact .step (fun _ => by simp) hnext hrest

theorem settles_callout {action : Callout} {rest : List Call} :
    Settles ⟨m, .callout action :: rest⟩ c ↔ Settles ⟨m, rest⟩ c := by
  constructor
  · intro hsettles
    cases hsettles with
    | step hlabel hnext hrest =>
      cases main_loop_step hnext with
      | dispatch => exact absurd rfl (hlabel _)
      | call hstack hr =>
        cases hstack
        cases hr
      | callout_done hstack =>
        cases hstack
        exact hrest
  · intro hrest
    have hnext : main_loop.next ⟨m, .callout action :: rest⟩ .callout_done = some ⟨m, rest⟩ := rfl
    exact .step (fun _ => by simp) hnext hrest

theorem settles_emit {d : SeatRef} {action : Callout} {m' : State} {rest : List Call} :
    Settles ⟨m, m'.emit d action ++ rest⟩ c ↔ Settles ⟨m, rest⟩ c := by
  unfold State.emit
  split
  · exact settles_callout
  · exact Iff.rfl

end

namespace State

/-! ## Section 2: What a call of CloseSession does -/

/-- `remove_seat`, if the seat is dynamic, with its programs. -/
def dynamic_seat_removed (m : State) (d : SeatRef) : State :=
  if (m.seat d).kind = .DYNAMIC then
    match m.seats.lookup (m.seat d).id with
    | none => m
    | some orig =>
      { (m.remove_seat d).1 with signals := (m.remove_seat d).1.signals ++ [.SeatRemoved orig] }
  else m

/-- `ck_seat_remove_session` with its programs. -/
def left_seat (m : State) (d : SeatRef) (x : SessionRef) : State :=
  if ((m.seat d).sessions.lookup (m.session x).id).isSome then
    ((m.ck_seat_remove_session d x).1.maybe_update_active_session d).1
  else m

/-- The session is removed from its seat. -/
def detached (m : State) (x : SessionRef) : State :=
  (m.seat_of_session x).elim m fun d => (m.left_seat d x).dynamic_seat_removed d

/-- The call is made by the client that opened the session of the cookie. -/
structure Opener (m : State) (caller : Option (Nat × Nat)) (cookie : CString) (l : LeaderRef)
    (x : SessionRef) : Prop where
  leader : m.leaders.lookup cookie = some l
  owner : caller = some ((m.leader l).uid, (m.leader l).pid)
  session : m.sessions.lookup (m.leader l).session_id = some x

section
variable {m : State} {c : MainLoop} {rest : List Call}

theorem settles_update (d : SeatRef) :
    Settles ⟨m, .maybe_update_active_session d :: rest⟩ c ↔
      Settles ⟨(m.maybe_update_active_session d).1, rest⟩ c := by
  rw [settles_call (f := .maybe_update_active_session d) rfl]
  unfold maybe_update_active_session
  split
  · exact Iff.rfl
  · split
    · unfold update_active_vt change_active_session
      split
      · exact Iff.rfl
      · exact settles_emit
    · exact Iff.rfl

theorem settles_dynamic_seat (d : SeatRef) :
    Settles ⟨m, .remove_dynamic_seat d :: rest⟩ c ↔
      Settles ⟨m.dynamic_seat_removed d, rest⟩ c := by
  rw [settles_call (f := .remove_dynamic_seat d) rfl]
  unfold dynamic_seat_removed
  split
  · cases hseat : m.seats.lookup (m.seat d).id with
    | none => simp only [remove_seat, hseat, List.nil_append]
    | some orig =>
      simp only [remove_seat, hseat, List.cons_append, List.nil_append]
      rw [settles_callout, settles_call (f := .seat_removed orig) rfl]
      exact Iff.rfl
  · exact Iff.rfl

theorem settles_left_seat (d : SeatRef) (x : SessionRef) :
    Settles ⟨(m.ck_seat_remove_session d x).1, (m.ck_seat_remove_session d x).2 ++ rest⟩ c ↔
      Settles ⟨m.left_seat d x, rest⟩ c := by
  by_cases hmember : ((m.seat d).sessions.lookup (m.session x).id).isSome = true
  · have hcalls : ∃ m' : State, (m.ck_seat_remove_session d x).2 =
        m'.emit d .session_removed ++ [.maybe_update_active_session d] := by
      unfold ck_seat_remove_session
      rw [if_pos hmember]
      exact ⟨_, rfl⟩
    obtain ⟨m', hcalls⟩ := hcalls
    rw [hcalls, List.append_assoc, settles_emit, List.singleton_append, settles_update]
    unfold left_seat
    rw [if_pos hmember]
  · unfold left_seat ck_seat_remove_session
    rw [if_neg hmember, if_neg hmember]
    exact Iff.rfl

/-- The session is removed from its seat, then from the table. -/
theorem settles_removal {l : LeaderRef} {caller : RemovalCaller} {r : State × List Call}
    (h : m.remove_session_for_cookie l caller = some r) :
    ∃ x, m.sessions.lookup (m.leader l).session_id = some x ∧
      (Settles ⟨r.1, r.2⟩ c ↔ c = ⟨(m.detached x).session_removed l x caller, []⟩) := by
  obtain ⟨x, hx, rfl⟩ := Option.map_eq_some_iff.mp h
  refine ⟨x, hx, ?_⟩
  have hend (m' : State) : Settles ⟨m', [.remove_session l x caller]⟩ c ↔
      c = ⟨m'.session_removed l x caller, []⟩ := by
    rw [settles_call (f := .remove_session l x caller) rfl]
    exact settles_nil
  unfold detached
  cases m.seat_of_session x with
  | none => exact hend m
  | some d =>
    dsimp only
    rw [settles_left_seat, settles_dynamic_seat]
    exact hend _

end

/-- A call that succeeds is made by the opener. -/
theorem dbus_close_session_opener {m : State} {caller : Option (Nat × Nat)} {cookie : CString}
    {l : LeaderRef} {x : SessionRef} (h : m.Opener caller cookie l x) :
    ∃ r, m.remove_session_for_cookie l .dbus_close_session = some r ∧
      m.dbus_close_session caller cookie = r := by
  have hcheck : m.paranoia_check_is_cookie_owner cookie (m.leader l).uid (m.leader l).pid =
      some l := by
    unfold paranoia_check_is_cookie_owner
    rw [h.leader]
    exact if_pos ⟨rfl, rfl⟩
  obtain ⟨r, hr⟩ : ∃ r, m.remove_session_for_cookie l .dbus_close_session = some r := by
    unfold remove_session_for_cookie
    rw [h.session]
    exact ⟨_, rfl⟩
  refine ⟨r, hr, ?_⟩
  unfold dbus_close_session
  rw [h.owner]
  simp [hcheck, hr]

theorem dbus_close_session_refused {m : State} {caller : Option (Nat × Nat)} {cookie : CString}
    (h : ∀ l x, ¬ m.Opener caller cookie l x) : m.dbus_close_session caller cookie = (m, []) := by
  rcases m.dbus_close_session_cases caller cookie with
    heq | ⟨uid, pid, l, r, rfl, hcheck, hr, -⟩
  · exact heq
  · obtain ⟨x, hx, -⟩ := Option.map_eq_some_iff.mp hr
    obtain ⟨l', hl', howner⟩ := Option.bind_eq_some_iff.mp hcheck
    split at howner
    · rename_i hids
      cases howner
      refine absurd ⟨hl', ?_, hx⟩ (h l x)
      rw [hids.1, hids.2]
    · cases howner

end State

/-! ## Section 3: The frame -/

/-- The flag of a session that has changed is that of an active session of
    the seat, before or after. -/
def FlagsOf (m m' : State) (d : SeatRef) (x : SessionRef) : Prop :=
  ∀ y, y ≠ x → (m'.session y).active ≠ (m.session y).active →
    (m.seat d).active_session = some y ∨ (m'.seat d).active_session = some y

/-- What detaching a session from a seat leaves alone. -/
structure Detached (m m' : State) (d : SeatRef) (x : SessionRef) : Prop where
  same : SameSessions m m'
  session : ∀ y, y ≠ x → m'.session y = { m.session y with active := (m'.session y).active }
  flags : FlagsOf m m' d x

namespace State

variable {m : State}

/-- A change of the active session is about two sessions. -/
theorem change_active_session_flagsOf (m : State) (d : SeatRef) (session : Option SessionRef)
    (x : SessionRef) : FlagsOf m (m.change_active_session d session).1 d x := by
  intro y _ hchanged
  by_cases hsame : (m.seat d).active_session = session
  · left
    rw [hsame]
    unfold change_active_session at hchanged
    rw [if_pos hsame] at hchanged
    simp only [elim_set_active_active] at hchanged
    exact not_not.mp fun hne => hchanged (if_neg hne)
  · rw [change_active_session_active hsame] at hchanged
    rw [change_active_session_pointer hsame, if_pos rfl]
    by_cases hnew : session = some y
    · exact .inr hnew
    · rw [if_neg hnew] at hchanged
      exact .inl (not_not.mp fun hne => hchanged (if_neg hne))

theorem maybe_update_active_session_flagsOf (m : State) (d : SeatRef) (x : SessionRef) :
    FlagsOf m (m.maybe_update_active_session d).1 d x := by
  unfold maybe_update_active_session
  split
  · exact fun _ _ hchanged => absurd rfl hchanged
  · split
    · exact m.change_active_session_flagsOf d _ x
    · exact fun _ _ hchanged => absurd rfl hchanged

theorem left_seat_detached (d : SeatRef) (x : SessionRef) :
    Detached m (m.left_seat d x) d x := by
  unfold left_seat
  split
  · rename_i hmember
    have hsame := (m.ck_seat_remove_session_same d x).1
    have honly := ((m.ck_seat_remove_session d x).1.maybe_update_active_session_only d).1
    have hflags := (m.ck_seat_remove_session d x).1.maybe_update_active_session_flagsOf d x
    have hsession : ∀ y, y ≠ x →
        (m.ck_seat_remove_session d x).1.session y = m.session y := by
      intro y hy
      unfold ck_seat_remove_session
      rw [if_pos hmember]
      exact Function.update_of_ne hy _ _
    have hactive : ((m.ck_seat_remove_session d x).1.seat d).active_session =
        (m.seat d).active_session := by
      unfold ck_seat_remove_session
      rw [if_pos hmember]
      simp [setSeat, setSession]
    refine ⟨hsame.trans honly.sameSessions, fun y hy => ?_, fun y hy hchanged => ?_⟩
    · rw [honly.session y, hsession y hy]
    · rw [← hactive]
      apply hflags y hy
      rw [hsession y hy]
      exact hchanged
  · exact ⟨.refl m, fun _ _ => rfl, fun _ _ hchanged => absurd rfl hchanged⟩

theorem dynamic_seat_removed_same (d : SeatRef) : SameSessions m (m.dynamic_seat_removed d) ∧
    (m.dynamic_seat_removed d).session = m.session ∧
    ∀ d', ((m.dynamic_seat_removed d).seat d').active_session = (m.seat d').active_session := by
  unfold dynamic_seat_removed
  split
  · cases hseat : m.seats.lookup (m.seat d).id with
    | none => exact ⟨.refl m, rfl, fun _ => rfl⟩
    | some orig =>
      refine ⟨(m.remove_seat_same d).1.trans (.signal _ (by simp)), ?_, fun d' => ?_⟩
      · simp only [remove_seat, hseat]
        rfl
      · simp only [remove_seat, hseat, setSeat]
        by_cases heq : d' = orig
        · subst heq
          rw [Function.update_self]
        · rw [Function.update_of_ne heq]
  · exact ⟨.refl m, rfl, fun _ => rfl⟩

/-- What is changed by removing a session from its seat. -/
theorem detached_spec (x : SessionRef) : SameSessions m (m.detached x) ∧
    (∀ y, y ≠ x → (m.detached x).session y =
      { m.session y with active := ((m.detached x).session y).active }) ∧
    ∀ y, y ≠ x → ((m.detached x).session y).active ≠ (m.session y).active →
      ∃ d, m.seat_of_session x = some d ∧ ((m.seat d).active_session = some y ∨
        ((m.detached x).seat d).active_session = some y) := by
  unfold detached
  cases hseat : m.seat_of_session x with
  | none => exact ⟨.refl m, fun _ _ => rfl, fun _ _ hchanged => absurd rfl hchanged⟩
  | some d =>
    have hleft : Detached m (m.left_seat d x) d x := left_seat_detached d x
    obtain ⟨hsame, hsession, hpointer⟩ := (m.left_seat d x).dynamic_seat_removed_same d
    refine ⟨hleft.same.trans hsame, fun y hy => ?_, fun y hy hchanged => ⟨d, rfl, ?_⟩⟩
    · simp only [Option.elim_some, hsession]
      exact hleft.session y hy
    · simp only [Option.elim_some, hsession, hpointer] at hchanged ⊢
      exact hleft.flags y hy hchanged

end State

/-! ## Section 4: The keys of the tables -/

/-- The leaders are stored under their cookies. -/
def LeadersKeyed (m : State) : Prop :=
  ∀ k l, m.leaders.lookup k = some l → l < m.next_leader ∧ (m.leader l).cookie = k

/-- The sessions are stored under their ids. -/
def SessionsKeyed (m : State) : Prop :=
  ∀ k x, m.sessions.lookup k = some x → x < m.next_session ∧ (m.session x).id = k

section
variable {m m' : State}

/-- The leaders that are left in the table keep their cookies. -/
theorem LeadersKeyed.sub (h : LeadersKeyed m)
    (hsub : ∀ k l, m'.leaders.lookup k = some l → m.leaders.lookup k = some l)
    (hnext : m'.next_leader = m.next_leader)
    (hcookie : ∀ l, (m'.leader l).cookie = (m.leader l).cookie) : LeadersKeyed m' := by
  intro k l hl
  rw [hnext, hcookie]
  exact h k l (hsub k l hl)

theorem LeadersKeyed.same (h : LeadersKeyed m) (hsame : SameSessions m m') : LeadersKeyed m' := by
  apply h.sub
  · intro k l hl
    rw [← hsame.leaders]
    exact hl
  · exact hsame.next_leader
  · intro l
    rw [hsame.leader]

/-- The collector of a leader is not its cookie. -/
theorem setLeader_job_cookie (m : State) (l l' : LeaderRef) (job : Bool) :
    ((m.setLeader l { m.leader l with job := job }).leader l').cookie = (m.leader l').cookie := by
  by_cases h : l' = l
  · subst h
    simp [State.setLeader]
  · simp [State.setLeader, h]

theorem LeadersKeyed.dispatch (h : LeadersKeyed m) {event : Event} {r : State × List Call}
    (hr : m.dispatch event = some r) : LeadersKeyed r.1 := by
  cases event with
  | open_session sender caller cookie started =>
    obtain ⟨-, m', hm', rfl⟩ := State.dispatch_open_session hr
    unfold State.create_session_for_sender at hm'
    cases caller with
    | none =>
      cases hm'
      exact h
    | some caller =>
      obtain ⟨⟨ssid, m₁⟩, hid, rfl⟩ := Option.map_eq_some_iff.mp hm'
      obtain ⟨-, serial, rfl⟩ := State.generate_session_id_free hid
      intro k l hl
      dsimp only at hl ⊢
      rcases HashTable.lookup_insert_iff.mp hl with ⟨rfl, rfl⟩ | ⟨-, hl⟩
      · rw [Function.update_self]
        exact ⟨Nat.lt_succ_self _, rfl⟩
      · -- the new leader is none of the old ones
        obtain ⟨hlt, hcookie⟩ := h k l hl
        rw [Function.update_of_ne (Nat.ne_of_lt hlt)]
        exact ⟨Nat.lt_succ_of_lt hlt, hcookie⟩
  | job_completed l result =>
    obtain ⟨-, hr⟩ := State.dispatch_job_completed hr
    rcases State.job_completed_cases hr with rfl | ⟨o, _, _, _, -, -, hsame, -⟩
    · exact h.sub (fun _ _ => id) rfl fun l' => setLeader_job_cookie m l l' false
    · have hopened : LeadersKeyed (m.insertOpened l o) :=
        h.sub (fun _ _ => id) rfl fun l' => setLeader_job_cookie m l l' false
      exact hopened.same hsame
  | close_session caller cookie =>
    cases hr
    rcases m.dbus_close_session_cases caller cookie with heq | ⟨_, _, l, r, -, -, hr, heq⟩
    · rw [heq]
      exact h
    · obtain ⟨_, _, -, hsame, -⟩ := State.remove_session_for_cookie_spec hr
      rw [heq]
      exact h.same hsame
  | name_owner_notify service_name old_service_name new_service_name =>
    cases hr
    unfold State.on_name_owner_notify
    split
    · -- The leaders that stay keep their keys.
      exact h.sub (fun k l hl => (HashTable.lookup_keep.mp hl).1) rfl fun _ => rfl
    · exact h
  | process_queue | seat_activate_session | seat_switch_to | session_activate
    | activate_session | activate_session_on_seat | vt_leave =>
    exact h.same (State.dispatch_same (by trivial) hr).1

theorem LeadersKeyed.call (h : LeadersKeyed m) {f : Call} {r : State × List Call}
    (hr : m.call f = some r) : LeadersKeyed r.1 := by
  cases f with
  | remove_session l x caller =>
    cases hr
    cases caller with
    | dbus_close_session =>
      exact h.sub (fun k l hl => (HashTable.lookup_erase_iff.mp hl).2) rfl fun _ => rfl
    | destroy_entity =>
      exact h.sub (fun _ _ => id) rfl fun l' => setLeader_job_cookie m l l' false
  | destroy_entity l =>
    cases hr
    rcases m.destroy_entity_cases l with ⟨-, heq⟩ | ⟨r, hr, heq⟩
    · rw [heq]
      exact h.sub (fun _ _ => id) rfl fun l' => setLeader_job_cookie m l l' false
    · obtain ⟨_, _, -, hsame, -⟩ := State.remove_session_for_cookie_spec hr
      rw [heq]
      exact h.same hsame
  | _ => exact h.same (State.call_same rfl hr).1

theorem SessionsKeyed.same (h : SessionsKeyed m) (hsame : SameTable m m') : SessionsKeyed m' := by
  intro k x hx
  rw [hsame.sessions] at hx
  obtain ⟨hlt, hid⟩ := h k x hx
  rw [hsame.next_session, hsame.identity x]
  exact ⟨hlt, hid⟩

theorem SessionsKeyed.insertOpened (h : SessionsKeyed m) (l : LeaderRef) (o : Opening) :
    SessionsKeyed (m.insertOpened l o) := by
  intro k x hx
  rcases HashTable.lookup_insert_iff.mp hx with ⟨rfl, rfl⟩ | ⟨-, hx⟩
  · refine ⟨Nat.lt_succ_self _, ?_⟩
    exact congrArg CkSession.id (Function.update_self m.next_session _ m.session)
  · obtain ⟨hlt, hid⟩ := h k x hx
    rw [insertOpened_old (Nat.ne_of_lt hlt)]
    exact ⟨Nat.lt_succ_of_lt hlt, hid⟩

theorem SessionsKeyed.without (h : SessionsKeyed m) (l : LeaderRef) :
    SessionsKeyed (m.without l) :=
  fun k x hx => h k x (HashTable.lookup_erase_iff.mp hx).2

end

/-- In every run the tables are keyed, whatever happens. -/
theorem tables_keyed {c : MainLoop} (h : main_loop.Reachable c) :
    LeadersKeyed c.state ∧ SessionsKeyed c.state := by
  refine h.invariant (I := fun c => LeadersKeyed c.state ∧ SessionsKeyed c.state) ?_ ?_
  · rintro c ⟨vfd, active_num, files, rfl⟩
    exact ⟨nofun, nofun⟩
  · rintro c label c' ⟨hleaders, hsessions⟩ hnext
    constructor
    · cases main_loop_step hnext with
      | dispatch _ hr => exact hleaders.dispatch hr
      | call _ hr => exact hleaders.call hr
      | callout_done _ => exact hleaders
    · cases table_step hnext with
      | same _ _ hsame => exact hsessions.same hsame
      | opened _ hsame => exact (hsessions.insertOpened _ _).same hsame
      | removed _ _ hsame => exact (hsessions.without _).same hsame

/-! ## Section 5: Only the opener closes -/

/-- What a successful call has changed: the leader and its session are gone
    from the tables, and nothing else of a leader or a session is different
    but the flag of a session that was or is the active one of the seat. -/
structure Closed (m : State) (cookie : CString) (l : LeaderRef) (x : SessionRef)
    (m' : State) : Prop where
  leaders : m'.leaders = m.leaders.erase cookie
  unregistered : ¬ Registered m' l
  leader : m'.leader = m.leader
  sessions : m'.sessions = m.sessions.erase (m.leader l).session_id
  removed : x ∉ m'.sessions.values
  session : ∀ y, y ≠ x → m'.session y = { m.session y with active := (m'.session y).active }
  active : ∀ y, y ≠ x → (m'.session y).active ≠ (m.session y).active →
    ∃ d, m.seat_of_session x = some d ∧
      ((m.seat d).active_session = some y ∨ (m'.seat d).active_session = some y)

/-- The call has returned TRUE. -/
def Succeeds (c c' : MainLoop) : Prop := c'.state.succeeded ≠ c.state.succeeded

section
variable {m : State} {caller : Option (Nat × Nat)} {cookie : CString}

theorem opener_inj {l l' : LeaderRef} {x x' : SessionRef} (h : m.Opener caller cookie l x)
    (h' : m.Opener caller cookie l' x') : l = l' ∧ x = x' := by
  obtain rfl := Option.some.inj (h.leader.symm.trans h'.leader)
  exact ⟨rfl, Option.some.inj (h.session.symm.trans h'.session)⟩

/-- The one state in which a call of the opener ends. -/
theorem handled_close_session_iff {l : LeaderRef} {x : SessionRef}
    (h : m.Opener caller cookie l x) {c : MainLoop} :
    Handled ⟨m, []⟩ (.close_session caller cookie) c ↔
      c = ⟨(m.detached x).session_removed l x .dbus_close_session, []⟩ := by
  obtain ⟨r, hr, hcall⟩ := State.dbus_close_session_opener h
  obtain ⟨y, hy, hsettles⟩ := State.settles_removal (c := c) hr
  obtain rfl := Option.some.inj (h.session.symm.trans hy)
  have hnext : main_loop.next ⟨m, []⟩ (.dispatch (.close_session caller cookie)) =
      some ⟨r.1, r.2⟩ := by
    simp [main_loop, main_loop_next, dispatching, State.dispatch, hcall]
  rw [← hsettles]
  constructor
  · rintro ⟨c', hc', hrest⟩
    rw [hnext] at hc'
    cases hc'
    exact hrest
  · exact fun hrest => ⟨_, hnext, hrest⟩

theorem handled_refused_iff (h : ∀ l x, ¬ m.Opener caller cookie l x) {c : MainLoop} :
    Handled ⟨m, []⟩ (.close_session caller cookie) c ↔ c = ⟨m, []⟩ := by
  have hnext : main_loop.next ⟨m, []⟩ (.dispatch (.close_session caller cookie)) =
      some ⟨m, []⟩ := by
    simp [main_loop, main_loop_next, dispatching, State.dispatch,
      State.dbus_close_session_refused h]
  rw [← settles_nil]
  constructor
  · rintro ⟨c', hc', hrest⟩
    rw [hnext] at hc'
    cases hc'
    exact hrest
  · exact fun hrest => ⟨_, hnext, hrest⟩

theorem session_removed_closed (hleaders : LeadersKeyed m) (hsessions : SessionsKeyed m)
    {l : LeaderRef} {x : SessionRef} (h : m.Opener caller cookie l x) :
    Closed m cookie l x ((m.detached x).session_removed l x .dbus_close_session) := by
  obtain ⟨hsame, hsession, hflags⟩ := m.detached_spec x
  have hcookie : ((m.detached x).leader l).cookie = cookie := by
    rw [hsame.leader]
    exact (hleaders cookie l h.leader).2
  have hkeys : ∀ k, m.leaders.lookup k = some l → k = cookie := fun k hk =>
    (hleaders k l hk).2.symm.trans (hleaders cookie l h.leader).2
  have hids : ∀ k, m.sessions.lookup k = some x → k = (m.leader l).session_id := fun k hk =>
    (hsessions k x hk).2.symm.trans (hsessions _ x h.session).2
  have hleaders' : ((m.detached x).session_removed l x .dbus_close_session).leaders =
      m.leaders.erase cookie := by
    show (m.detached x).leaders.erase ((m.detached x).leader l).cookie = _
    rw [hsame.leaders, hcookie]
  have hsessions' : ((m.detached x).session_removed l x .dbus_close_session).sessions =
      m.sessions.erase (m.leader l).session_id := by
    show (m.detached x).sessions.erase ((m.detached x).leader l).session_id = _
    rw [hsame.sessions, hsame.leader]
  constructor
  case leaders => exact hleaders'
  case unregistered =>
    rintro ⟨k, hk⟩
    rw [hleaders'] at hk
    obtain ⟨hne, hk⟩ := HashTable.lookup_erase_iff.mp hk
    exact hne (hkeys k hk)
  case leader => exact hsame.leader
  case sessions => exact hsessions'
  case removed =>
    rw [hsessions']
    exact fun hmem => ((HashTable.mem_values_erase h.session hids).mp hmem).1 rfl
  case session => exact hsession
  case active => exact hflags

end

/-- **Only the opener closes.**  A call that is not interrupted ends in one
    state.  It succeeds exactly if the client that opened the session makes
    it; then it removes the leader and the session, and otherwise it changes
    nothing. -/
theorem only_opener_closes {c : MainLoop} (hreachable : main_loop.Reachable c)
    (hquiet : c.Quiescent) (caller : Option (Nat × Nat)) (cookie : CString) :
    ∃ c', (∀ c'', Handled c (.close_session caller cookie) c'' ↔ c'' = c') ∧ c'.Quiescent ∧
      (Succeeds c c' ↔ ∃ l x, c.state.Opener caller cookie l x) ∧
      (∀ l x, c.state.Opener caller cookie l x → Closed c.state cookie l x c'.state) ∧
      (¬ Succeeds c c' → c'.state = c.state) := by
  obtain ⟨hleaders, hsessions⟩ := tables_keyed hreachable
  obtain ⟨m, stack⟩ := c
  obtain rfl : stack = [] := hquiet
  by_cases hopener : ∃ l x, m.Opener caller cookie l x
  · obtain ⟨l, x, hopener⟩ := hopener
    have hsucceeds : Succeeds ⟨m, []⟩
        ⟨(m.detached x).session_removed l x .dbus_close_session, []⟩ := by
      intro heq
      have hgrown : (m.detached x).succeeded ++ [x] = m.succeeded := heq
      rw [(m.detached_spec x).1.succeeded] at hgrown
      simp at hgrown
    refine ⟨_, fun _ => handled_close_session_iff hopener, rfl,
      iff_of_true hsucceeds ⟨l, x, hopener⟩, fun l' x' hopener' => ?_,
      fun hfails => absurd hsucceeds hfails⟩
    obtain ⟨rfl, rfl⟩ := opener_inj hopener hopener'
    exact session_removed_closed hleaders hsessions hopener
  · have hnone : ∀ l x, ¬ m.Opener caller cookie l x := fun l x h => hopener ⟨l, x, h⟩
    refine ⟨⟨m, []⟩, fun _ => handled_refused_iff hnone, rfl,
      iff_of_false (fun h => h rfl) hopener, fun l x h => absurd h (hnone l x), fun _ => rfl⟩

/-- The client closes the session that it has opened. -/
theorem only_opener_closes_console :
    ∃ c c', main_loop.run one_seat (seat_loaded ++ session_opens (cstr ":1.5") (cstr "c1") 0) =
        some c ∧ Handled c (.close_session (some (1000, 7)) (cstr "c1")) c' ∧ Succeeds c c' ∧
      Closed c.state (cstr "c1") 0 0 c'.state := by
  have hrun : (main_loop.run one_seat
      (seat_loaded ++ session_opens (cstr ":1.5") (cstr "c1") 0)).map (fun c => (c.stack,
        c.state.leaders.lookup (cstr "c1"), (c.state.leader 0).uid, (c.state.leader 0).pid,
        c.state.sessions.lookup (c.state.leader 0).session_id)) =
      some ([], some 0, 1000, 7, some 0) := by
    decide
  obtain ⟨c, hc, heq⟩ := Option.map_eq_some_iff.mp hrun
  simp only [Prod.mk.injEq] at heq
  obtain ⟨hstack, hleader, huid, hpid, hsession⟩ := heq
  have hopener : c.state.Opener (some (1000, 7)) (cstr "c1") 0 0 :=
    ⟨hleader, by rw [huid, hpid], hsession⟩
  obtain ⟨c', hhandled, -, hsucceeds, hclosed, -⟩ := only_opener_closes
    (LTS.System.Reachable.run (one_seat_reachable _) hc) hstack (some (1000, 7)) (cstr "c1")
  exact ⟨c, c', hc, (hhandled c').mpr rfl, hsucceeds.mpr ⟨0, 0, hopener⟩, hclosed 0 0 hopener⟩

/-- Two sessions on the text console of VT 1. -/
def console_shared : List Label :=
  seat_loaded ++ session_opens (cstr ":1.5") (cstr "c1") 0 ++
    [.dispatch (.open_session (cstr ":1.6") (some (1000, 8)) (cstr "c2") true),
      .dispatch (.job_completed 1 (some (text_session 1))), .call, .callout_done, .call, .call]

/-- When the older one is closed, the other one becomes active. -/
theorem only_opener_closes_activates :
    ∃ c c', main_loop.run one_seat console_shared = some c ∧ main_loop.Reachable c ∧
      c.Quiescent ∧ c.state.Opener (some (1000, 7)) (cstr "c1") 0 0 ∧
      Handled c (.close_session (some (1000, 7)) (cstr "c1")) c' ∧ Succeeds c c' ∧
      c.state.sessions.lookup (cstr "Session2") = some 1 ∧
      (c.state.session 1).active = false ∧ (c'.state.session 1).active = true ∧
      c'.state.session 1 ≠ c.state.session 1 := by
  have hrun : (main_loop.run one_seat console_shared).map (fun c => (c.stack,
        c.state.leaders.lookup (cstr "c1"), (c.state.leader 0).uid, (c.state.leader 0).pid,
        c.state.sessions.lookup (c.state.leader 0).session_id)) =
      some ([], some 0, 1000, 7, some 0) := by
    decide +kernel
  have hflags : (main_loop.run one_seat console_shared).map (fun c =>
        (c.state.sessions.lookup (cstr "Session2"), (c.state.session 1).active,
        ((c.state.detached 0).session 1).active)) = some (some 1, false, true) := by
    decide +kernel
  obtain ⟨c, hc, heq⟩ := Option.map_eq_some_iff.mp hrun
  rw [hc, Option.map_some, Option.some.injEq] at hflags
  simp only [Prod.mk.injEq] at heq hflags
  obtain ⟨hstack, hleader, huid, hpid, hsession⟩ := heq
  obtain ⟨hother, hinactive, hactive⟩ := hflags
  have hopener : c.state.Opener (some (1000, 7)) (cstr "c1") 0 0 :=
    ⟨hleader, by rw [huid, hpid], hsession⟩
  have hreachable := LTS.System.Reachable.run (one_seat_reachable _) hc
  obtain ⟨m, stack⟩ := c
  obtain rfl : stack = [] := hstack
  refine ⟨_, _, hc, hreachable, rfl, hopener, (handled_close_session_iff hopener).mpr rfl, ?_,
    hother, hinactive, hactive, fun heq => ?_⟩
  · intro heq
    have hgrown : (m.detached 0).succeeded ++ [0] = m.succeeded := heq
    rw [(m.detached_spec 0).1.succeeded] at hgrown
    simp at hgrown
  · have hflag : ((m.detached 0).session 1).active = (m.session 1).active :=
      congrArg CkSession.active heq
    rw [hactive, show (m.session 1).active = false from hinactive] at hflag
    cases hflag

end CkManager
