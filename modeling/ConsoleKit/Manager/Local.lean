import ConsoleKit.Manager.Removal
import ConsoleKit.Manager.Seats

/-! # Local sessions

    Which parameters make a session local, and when the flag is settled.

    This module provides:
    - `Grants` and `Misread`: the entries of a parameter list that make a
      session local by what they say, and those that do so otherwise,
    - `local_grant`: when the list grants exactly what it says, in any order,
    - `openings_step`: how a step of the main loop treats the flag of a
      session that is being opened,
    - `local_flag_settled`: when whoever looks at the flag during the opening
      finds the value it has afterwards.
-/

namespace CkManager

open Libc

namespace State

/-! ## Section 1: Who makes a session local -/

/-- A local session has this login session id, if any. -/
def Vouched (m : State) (login_session_id : Option CString) : Prop :=
  ∃ x ∈ m.sessions.values,
    (m.session x).login_session_id = login_session_id ∧ (m.session x).is_local = true

theorem _verify_login_session_id_is_local_iff (m : State) (login_session_id : Option CString) :
    m._verify_login_session_id_is_local login_session_id = true ↔
      m.Vouched login_session_id := by
  simp [_verify_login_session_id_is_local, Vouched]

/-- An entry that says that the session is local, or that names the login
    session of a local one. -/
def Grants (m : State) (e : Parameter × GVariant) : Prop :=
  e = (.is_local, .boolean true) ∨
    ∃ id, e = (.login_session_id, .string id) ∧ m.Vouched (some id)

/-- An entry that is taken for one that grants. -/
def Misread (m : State) (e : Parameter × GVariant) : Prop :=
  (e.1 = .is_local ∧ e.2 ≠ .boolean true) ∨
    (e.1 = .login_session_id ∧ (∀ id, e.2 ≠ .string id) ∧ m.Vouched (g_variant_get_string e.2))

/-- The entries that end the loop. -/
theorem verify_is_local_iff (m : State) (parameters : List (Parameter × GVariant)) :
    m.verify_is_local parameters = true ↔ ∃ e ∈ parameters,
      e.1 = .is_local ∨ (e.1 = .login_session_id ∧ m.Vouched (g_variant_get_string e.2)) := by
  induction parameters with
  | nil => simp [verify_is_local]
  | cons e parameters ih =>
    obtain ⟨prop_name, value⟩ := e
    rw [List.exists_mem_cons_iff, ← ih]
    cases prop_name <;>
      simp [verify_is_local, _verify_login_session_id_is_local_iff]

theorem verify_is_local_cases (m : State) (parameters : List (Parameter × GVariant)) :
    m.verify_is_local parameters = true ↔
      (∃ e ∈ parameters, m.Grants e) ∨ ∃ e ∈ parameters, m.Misread e := by
  rw [verify_is_local_iff, ← exists_or]
  refine exists_congr fun e => ?_
  rw [← and_or_left]
  refine and_congr_right fun _ => ?_
  obtain ⟨prop_name, value⟩ := e
  constructor
  · rintro (rfl | ⟨rfl, hvouched⟩)
    · by_cases h : value = .boolean true
      · exact .inl (.inl (by rw [h]))
      · exact .inr (.inl ⟨rfl, h⟩)
    · by_cases h : ∃ id, value = .string id
      · obtain ⟨id, rfl⟩ := h
        exact .inl (.inr ⟨id, rfl, hvouched⟩)
      · exact .inr (.inr ⟨rfl, fun id hid => h ⟨id, hid⟩, hvouched⟩)
  · rintro ((heq | ⟨id, heq, hvouched⟩) | (⟨hname, -⟩ | ⟨hname, -, hvouched⟩))
    · cases heq
      exact .inl rfl
    · cases heq
      exact .inr ⟨rfl, hvouched⟩
    · exact .inl hname
    · exact .inr ⟨hname, hvouched⟩

theorem verify_is_local_perm (m : State) {parameters parameters' : List (Parameter × GVariant)}
    (h : parameters'.Perm parameters) :
    m.verify_is_local parameters' = m.verify_is_local parameters := by
  rw [Bool.eq_iff_iff, verify_is_local_iff, verify_is_local_iff]
  exact exists_congr fun e => and_congr_left fun _ => h.mem_iff

/-! ## Section 2: The opening marks the session -/

end State

/-- None of these calls is the end of an opening. -/
def NoneOpened (calls : List Call) : Prop := ∀ f ∈ calls, ∀ x b, f ≠ .session_opened x b

namespace State

theorem add_new_seat_calls {m : State} {kind : CkSeatKind} {registers : Bool}
    {r : Option SeatRef × State × List Call} (h : m.add_new_seat kind registers = some r) :
    r.2.2 = [] ∨ ∃ d, r.2.2 = [.callout .seat_added, .seat_added d] := by
  obtain ⟨⟨sid, m₁⟩, -, rfl⟩ := Option.map_eq_some_iff.mp h
  dsimp only [registerSeat]
  split
  · exact .inr ⟨_, rfl⟩
  · exact .inl rfl

/-- The new session is the one that the rest of the opening marks. -/
theorem verify_and_open_session_marks {m : State} {l : LeaderRef} {o : Opening}
    {r : State × List Call} (hcreated : o.created = true)
    (h : m.verify_and_open_session_for_leader l o = some r) :
    ∃ seat calls, NoneOpened calls ∧
      r.2 = calls ++ [.ck_seat_add_session seat m.next_session,
        .session_opened m.next_session (m.verify_is_local o.parameters)] := by
  simp only [verify_and_open_session_for_leader, open_session_for_leader, if_pos hcreated] at h
  split at h
  · cases h
    exact ⟨_, [], by simp [NoneOpened], rfl⟩
  · obtain ⟨⟨seat, m', calls⟩, hadd, rfl⟩ := Option.map_eq_some_iff.mp h
    refine ⟨seat, calls, ?_, rfl⟩
    rcases add_new_seat_calls hadd with rfl | ⟨d, rfl⟩ <;> simp [NoneOpened]

/-- `open_session_for_leader` marks the new session as local. -/
def Marked (m : State) (r : State × List Call) : Prop :=
  .session_opened m.next_session true ∈ r.2

theorem marked_iff {m : State} {l : LeaderRef} {o : Opening} {r : State × List Call}
    (hcreated : o.created = true) (h : m.verify_and_open_session_for_leader l o = some r) :
    m.Marked r ↔ m.verify_is_local o.parameters = true := by
  obtain ⟨seat, calls, hcalls, heq⟩ := verify_and_open_session_marks hcreated h
  rw [Marked, heq, List.mem_append]
  constructor
  · intro hmem
    rcases hmem with hmem | hmem
    · exact absurd rfl (hcalls _ hmem _ _)
    · rcases List.mem_cons.mp hmem with heq | hmem
      · cases heq
      · obtain heq := List.mem_singleton.mp hmem
        injection heq with _ hlocal
        exact hlocal.symm
  · intro hlocal
    rw [hlocal]
    exact .inr (by simp)

/-- The session is local exactly if some entry says so, whatever the order of
    the entries. -/
structure LocalGrant (m : State) (l : LeaderRef) (o : Opening) (r : State × List Call) :
    Prop where
  granted : m.Marked r ↔ ∃ e ∈ o.parameters, m.Grants e
  permuted : ∀ (o' : Opening) (r' : State × List Call), o'.parameters.Perm o.parameters →
    o'.created = true → m.verify_and_open_session_for_leader l o' = some r' →
    (m.Marked r' ↔ m.Marked r)

theorem local_grant {m : State} {l : LeaderRef} {o : Opening} {r : State × List Call}
    (hcreated : o.created = true) (h : m.verify_and_open_session_for_leader l o = some r) :
    LocalGrant m l o r ↔
      (∀ e ∈ o.parameters, ¬ m.Misread e) ∨ ∃ e ∈ o.parameters, m.Grants e := by
  have hmarked : m.Marked r ↔
      (∃ e ∈ o.parameters, m.Grants e) ∨ ∃ e ∈ o.parameters, m.Misread e :=
    (marked_iff hcreated h).trans (m.verify_is_local_cases o.parameters)
  constructor
  · intro hgrant
    by_cases hgranted : ∃ e ∈ o.parameters, m.Grants e
    · exact .inr hgranted
    · refine .inl fun e he hmisread => hgranted ?_
      exact hgrant.granted.mp (hmarked.mpr (.inr ⟨e, he, hmisread⟩))
  · intro hread
    constructor
    · rw [hmarked]
      refine or_iff_left_of_imp fun hmisread => ?_
      obtain ⟨e, he, hmisread⟩ := hmisread
      exact hread.resolve_left fun hno => hno e he hmisread
    · intro o' r' hperm hcreated' h'
      rw [marked_iff hcreated' h', marked_iff hcreated h, m.verify_is_local_perm hperm]

end State

/-! ## Section 3: The flag during an opening -/

/-- The values that openings that are not over will give the flag. -/
def pending_flags (x : SessionRef) (stack : List Call) : List Bool :=
  stack.filterMap fun
    | .session_opened y is_local => if y = x then some is_local else none
    | _ => none

theorem pending_flags_append {calls : List Call} (h : NoneOpened calls) (x : SessionRef)
    (stack : List Call) : pending_flags x (calls ++ stack) = pending_flags x stack := by
  have hnone : pending_flags x calls = [] := by
    apply List.filterMap_eq_nil_iff.mpr
    intro f hf
    cases f with
    | session_opened y is_local => exact absurd rfl (h _ hf y is_local)
    | _ => rfl
  rw [pending_flags, List.filterMap_append]
  show pending_flags x calls ++ pending_flags x stack = _
  rw [hnone, List.nil_append]

/-- A handler or a call that leaves the flags alone. -/
structure KeepsFlags (m : State) (r : State × List Call) : Prop where
  is_local : ∀ x, (r.1.session x).is_local = (m.session x).is_local
  next_session : r.1.next_session = m.next_session
  calls : NoneOpened r.2

namespace KeepsFlags

variable {m m' : State} {calls : List Call}

theorem of_session (hsession : m'.session = m.session)
    (hnext : m'.next_session = m.next_session) (hcalls : NoneOpened calls) :
    KeepsFlags m (m', calls) :=
  ⟨fun x => by rw [hsession], hnext, hcalls⟩

theorem of_active (h : OnlyActive m m') (hcalls : NoneOpened calls) :
    KeepsFlags m (m', calls) where
  is_local x := by rw [h.session x]
  next_session := h.sameSessions.next_session
  calls := hcalls

theorem setSession {x : SessionRef} {s : CkSession} (hs : s.is_local = (m.session x).is_local)
    (hcalls : NoneOpened calls) : KeepsFlags m (m.setSession x s, calls) := by
  refine ⟨fun y => ?_, rfl, hcalls⟩
  by_cases h : y = x
  · subst h
    simpa [State.setSession] using hs
  · simp [State.setSession, h]

end KeepsFlags

theorem NoneOpened.nil : NoneOpened [] := by simp [NoneOpened]

theorem NoneOpened.append {calls calls' : List Call} (h : NoneOpened calls)
    (h' : NoneOpened calls') : NoneOpened (calls ++ calls') := by
  intro f hf
  rcases List.mem_append.mp hf with hf | hf
  · exact h f hf
  · exact h' f hf

namespace State

variable {m : State}

theorem emit_opened (m : State) (d : SeatRef) (action : Callout) :
    NoneOpened (m.emit d action) := by
  unfold emit
  split <;> simp [NoneOpened]

theorem change_active_session_flags (m : State) (d : SeatRef) (session : Option SessionRef) :
    KeepsFlags m (m.change_active_session d session) := by
  have hcalls : NoneOpened (m.change_active_session d session).2 := by
    unfold change_active_session
    split
    · exact .nil
    · exact emit_opened _ d _
  exact .of_active (m.change_active_session_only d session).1 hcalls

theorem maybe_update_active_session_flags (m : State) (d : SeatRef) :
    KeepsFlags m (m.maybe_update_active_session d) := by
  unfold maybe_update_active_session
  split
  · exact .of_session rfl rfl .nil
  · split
    · exact m.change_active_session_flags d _
    · exact .of_session rfl rfl .nil

theorem ck_seat_add_session_flags (m : State) (seat : Option SeatRef) (x : SessionRef) :
    KeepsFlags m (m.ck_seat_add_session seat x) := by
  cases seat with
  | none => exact .of_session rfl rfl .nil
  | some d =>
    obtain ⟨hflag, hnext, -⟩ : KeepsFlags m (m.setSession x
        { m.session x with seat := some d, activate := (m.session x).activate ++ [d] }, []) :=
      .setSession rfl .nil
    exact ⟨hflag, hnext, (emit_opened _ d _).append (by simp [NoneOpened])⟩

theorem ck_seat_remove_session_flags (m : State) (d : SeatRef) (x : SessionRef) :
    KeepsFlags m (m.ck_seat_remove_session d x) := by
  unfold ck_seat_remove_session
  split
  · obtain ⟨hflag, hnext, -⟩ : KeepsFlags m (m.setSession x
        { m.session x with activate := (m.session x).activate.filter fun d' => d' ≠ d }, []) :=
      .setSession rfl .nil
    exact ⟨hflag, hnext, (emit_opened _ d _).append (by simp [NoneOpened])⟩
  · exact .of_session rfl rfl .nil

theorem remove_session_for_cookie_flags {l : LeaderRef} {caller : RemovalCaller}
    {r : State × List Call} (h : m.remove_session_for_cookie l caller = some r) :
    KeepsFlags m r := by
  obtain ⟨x, -, rfl⟩ := Option.map_eq_some_iff.mp h
  split
  · rename_i d _
    obtain ⟨hflag, hnext, hcalls⟩ := m.ck_seat_remove_session_flags d x
    exact ⟨hflag, hnext, hcalls.append (by simp [NoneOpened])⟩
  · exact .of_session rfl rfl (by simp [NoneOpened])

theorem registerSeat_flags (m : State) (d : SeatRef) (registers : Bool) :
    KeepsFlags m (m.registerSeat d registers).2 := by
  unfold registerSeat
  split
  · exact .of_session rfl rfl (by simp [NoneOpened])
  · exact .of_session rfl rfl .nil

theorem remove_seat_flags (m : State) (d : SeatRef) : KeepsFlags m (m.remove_seat d) := by
  unfold remove_seat
  split
  · exact .of_session rfl rfl .nil
  · exact .of_session rfl rfl (by simp [NoneOpened])

/-- Every call but the end of an opening leaves the flags alone. -/
theorem call_flags {f : Call} {r : State × List Call} (hf : ∀ x b, f ≠ .session_opened x b)
    (h : m.call f = some r) : KeepsFlags m r := by
  -- Calls write to sessions nothing but the seat and whether they are active.
  cases f with
  | callout action => cases h
  | load_seats_from_dir files =>
    cases files with
    | nil =>
      cases h
      exact .of_session rfl rfl .nil
    | cons file files =>
      obtain ⟨r, hr, rfl⟩ := Option.map_eq_some_iff.mp h
      obtain ⟨⟨sid, m₁⟩, hid, rfl⟩ := Option.map_eq_some_iff.mp hr
      obtain ⟨-, serial, rfl⟩ := generate_seat_id_free hid
      dsimp only
      split
      · obtain ⟨hflag, hnext, hcalls⟩ := registerSeat_flags
          (ck_seat_new { m with seat_serial := serial } sid .STATIC).2
          (ck_seat_new { m with seat_serial := serial } sid .STATIC).1 file.registers
        exact ⟨hflag, hnext, hcalls.append (by simp [NoneOpened])⟩
      · exact .of_session rfl rfl (by simp [NoneOpened])
  | seat_added d =>
    cases h
    exact .of_session rfl rfl .nil
  | ck_seat_add_session seat x =>
    cases h
    exact m.ck_seat_add_session_flags seat x
  | session_opened x is_local => exact absurd rfl (hf x is_local)
  | maybe_update_active_session d =>
    cases h
    exact m.maybe_update_active_session_flags d
  | update_active_vt d num =>
    cases h
    exact m.change_active_session_flags d _
  | queue_processed =>
    cases h
    exact .of_session rfl rfl .nil
  | remove_dynamic_seat d =>
    cases h
    split
    · exact m.remove_seat_flags d
    · exact .of_session rfl rfl .nil
  | seat_removed d =>
    cases h
    exact .of_session rfl rfl .nil
  | remove_session l x caller =>
    cases h
    cases caller <;> exact .of_session rfl rfl .nil
  | destroy_entity l =>
    cases h
    rcases m.destroy_entity_cases l with ⟨-, heq⟩ | ⟨r, hr, heq⟩
    · rw [heq]
      exact .of_session rfl rfl .nil
    · rw [heq]
      exact remove_session_for_cookie_flags hr

theorem dispatch_flags {event : Event} {r : State × List Call}
    (hevent : ∀ l o, event ≠ .job_completed l (some o)) (h : m.dispatch event = some r) :
    KeepsFlags m r := by
  cases event with
  | open_session sender caller cookie started =>
    obtain ⟨-, m', hm', rfl⟩ := dispatch_open_session h
    obtain ⟨hsession, hnext, -⟩ := create_session_heaps hm'
    exact .of_session hsession hnext .nil
  | job_completed l result =>
    -- Without an opening only the job of the leader ends.
    cases result with
    | none =>
      obtain ⟨-, h⟩ := dispatch_job_completed h
      cases h
      exact .of_session rfl rfl .nil
    | some o => exact absurd rfl (hevent l o)
  | close_session caller cookie =>
    cases h
    rcases m.dbus_close_session_cases caller cookie with heq | ⟨_, _, l, r, -, -, hr, heq⟩
    · rw [heq]
      exact .of_session rfl rfl .nil
    · rw [heq]
      exact remove_session_for_cookie_flags hr
  | name_owner_notify service_name old_service_name new_service_name =>
    cases h
    show KeepsFlags m (m.on_name_owner_notify _ _ _)
    unfold on_name_owner_notify
    split
    · refine .of_session rfl rfl fun f hf => ?_
      obtain ⟨e, -, rfl⟩ := List.mem_map.mp hf
      simp
    · exact .of_session rfl rfl .nil
  | process_queue num =>
    obtain rfl := dispatch_process_queue h
    unfold process_queue
    split
    · refine .of_session rfl rfl (NoneOpened.append (fun f hf => ?_) (by simp [NoneOpened]))
      obtain ⟨d, -, rfl⟩ := List.mem_map.mp hf
      simp
    · exact .of_session rfl rfl .nil
  | seat_activate_session d ssid switches =>
    cases h
    exact .of_active (m.ck_seat_activate_session_only d _ switches) .nil
  | seat_switch_to d vtnr switches =>
    cases h
    exact .of_active (m.dbus_switch_to_only d vtnr switches) .nil
  | session_activate x switches =>
    cases h
    exact .of_active (m.dbus_activate_only x switches) .nil
  | activate_session session_id switches =>
    cases h
    exact .of_active (m.dbus_activate_session_only session_id switches) .nil
  | activate_session_on_seat session_id seat_id switches =>
    cases h
    exact .of_active (m.dbus_activate_session_on_seat_only session_id seat_id switches) .nil
  | vt_leave x =>
    cases h
    exact .setSession rfl .nil

end State

/-- The flag that `ck_session_new_with_parameters` sets. -/
def Opening.is_local (o : Opening) : Bool :=
  (property o.transform.to_boolean .is_local o.parameters).getLast?.getD false

namespace State

variable {m : State}

theorem insertOpened_is_local (m : State) (l : LeaderRef) (o : Opening) (x : SessionRef) :
    ((m.insertOpened l o).session x).is_local =
      if x = m.next_session then o.is_local else (m.session x).is_local := by
  show (Function.update m.session m.next_session _ x).is_local = _
  split
  · rename_i h
    rw [h, Function.update_self]
    rfl
  · rename_i h
    rw [Function.update_of_ne h]

/-- Whether the leader's collector runs has no influence. -/
theorem verify_is_local_setLeader (m : State) (l : LeaderRef) (s : CkSessionLeader)
    (parameters : List (Parameter × GVariant)) :
    (m.setLeader l s).verify_is_local parameters = m.verify_is_local parameters := by
  rw [Bool.eq_iff_iff, verify_is_local_iff, verify_is_local_iff]
  rfl

/-- A new session has the flag of its parameters until the opening is over. -/
theorem job_completed_flags {l : LeaderRef} {o : Opening} {r : State × List Call}
    (hcreated : o.created = true) (h : m.job_completed l (some o) = some r) :
    r.1.next_session = m.next_session + 1 ∧
    (∀ x, (r.1.session x).is_local = ((m.insertOpened l o).session x).is_local) ∧
    ∃ seat calls, NoneOpened calls ∧
      r.2 = calls ++ [.ck_seat_add_session seat m.next_session,
        .session_opened m.next_session (m.verify_is_local o.parameters)] := by
  obtain ⟨seat, calls, hcalls, heq⟩ := verify_and_open_session_marks hcreated h
  rw [verify_is_local_setLeader] at heq
  refine ⟨?_, ?_, seat, calls, hcalls, heq⟩
  · rcases job_completed_cases h with rfl | ⟨_, _, _, _, ho, -, hsame, -⟩
    · have hlength := congrArg List.length heq
      simp at hlength
    · rw [hsame.next_session]
      rfl
  · rcases job_completed_cases h with rfl | ⟨_, _, _, _, ho, -, -, -, -, hseat⟩
    · have hlength := congrArg List.length heq
      simp at hlength
    · cases ho
      rcases hseat with ⟨_, -, -, heq, -⟩ | ⟨-, hadd⟩
      · intro x
        rw [heq]
      · intro x
        rw [(add_new_seat_new hadd).session]

end State

/-- What a step does to the flags of the sessions and to the openings that
    are not over. -/
inductive FlagStep (c c' : MainLoop) : Prop where
  | kept : c'.state.next_session = c.state.next_session →
      (∀ x, (c'.state.session x).is_local = (c.state.session x).is_local) →
      (∀ x, pending_flags x c'.stack = pending_flags x c.stack) → FlagStep c c'
  | opening : ∀ {is_local is_local'}, c'.state.next_session = c.state.next_session + 1 →
      (∀ x, (c'.state.session x).is_local =
        if x = c.state.next_session then is_local else (c.state.session x).is_local) →
      (∀ x, pending_flags x c'.stack =
        if x = c.state.next_session then is_local' :: pending_flags x c.stack
        else pending_flags x c.stack) → FlagStep c c'
  | opened : ∀ {x}, c'.state.next_session = c.state.next_session →
      pending_flags x c.stack = (c'.state.session x).is_local :: pending_flags x c'.stack →
      (∀ y, y ≠ x → (c'.state.session y).is_local = (c.state.session y).is_local ∧
        pending_flags y c'.stack = pending_flags y c.stack) → FlagStep c c'

theorem pending_flags_opened (x : SessionRef) (is_local : Bool) (stack : List Call) :
    pending_flags x (.session_opened x is_local :: stack) = is_local :: pending_flags x stack := by
  simp [pending_flags]

theorem pending_flags_opening {calls : List Call} (h : NoneOpened calls)
    (seat : Option SeatRef) (x y : SessionRef) (is_local : Bool) (stack : List Call) :
    pending_flags y
      ((calls ++ [.ck_seat_add_session seat x, .session_opened x is_local]) ++ stack) =
      if y = x then is_local :: pending_flags y stack else pending_flags y stack := by
  rw [List.append_assoc, pending_flags_append h]
  by_cases heq : y = x
  · subst heq
    simp [pending_flags]
  · simp [pending_flags, heq, Ne.symm heq]

theorem flag_step {c c' : MainLoop} {label : Label} (h : main_loop.next c label = some c') :
    FlagStep c c' := by
  obtain ⟨m, stack⟩ := c
  cases main_loop_step h with
  | @dispatch event r _ hr =>
    by_cases hevent : ∃ l o, event = .job_completed l (some o) ∧ o.created = true
    · -- A new session: what its opening returns goes on the stack.
      obtain ⟨l, o, rfl, hcreated⟩ := hevent
      obtain ⟨-, hr⟩ := State.dispatch_job_completed hr
      obtain ⟨hnext, hflag, seat, calls, hcalls, heq⟩ := State.job_completed_flags hcreated hr
      have hlocal := fun x => (hflag x).trans (m.insertOpened_is_local l o x)
      have hpending : ∀ x, pending_flags x (r.2 ++ stack) = if x = m.next_session then
          m.verify_is_local o.parameters :: pending_flags x stack
          else pending_flags x stack := by
        intro x
        rw [heq]
        exact pending_flags_opening hcalls seat _ x _ stack
      exact .opening hnext hlocal hpending
    · have hkeeps : KeepsFlags m r := by
        by_cases hfails : ∃ l o, event = .job_completed l (some o)
        · -- no session is created
          obtain ⟨l, o, rfl⟩ := hfails
          have hcreated : o.created ≠ true := fun hcreated => hevent ⟨l, o, rfl, hcreated⟩
          simp only [State.dispatch, State.job_completed,
            State.verify_and_open_session_for_leader, State.open_session_for_leader,
            if_neg hcreated] at hr
          split at hr
          · cases hr
            exact .of_session rfl rfl .nil
          · cases hr
        · exact State.dispatch_flags (fun l o heq => hfails ⟨l, o, heq⟩) hr
      exact .kept hkeeps.next_session hkeeps.is_local
        fun x => pending_flags_append hkeeps.calls x stack
  | @call f rest r hstack hr =>
    obtain rfl : stack = f :: rest := hstack
    -- The end of an opening is the only call that sets a flag.
    by_cases hf : ∃ x is_local, f = .session_opened x is_local
    · obtain ⟨x, is_local, rfl⟩ := hf
      cases hr
      refine .opened (x := x) rfl ?_ fun y hy => ⟨?_, ?_⟩
      · simp [pending_flags_opened, State.setSession]
      · simp [State.setSession, hy]
      · simp [pending_flags, Ne.symm hy]
    · have hkeeps := State.call_flags (fun x b heq => hf ⟨x, b, heq⟩) hr
      refine .kept hkeeps.next_session hkeeps.is_local fun x => ?_
      rw [pending_flags_append hkeeps.calls]
      cases f with
      | session_opened y b => exact absurd ⟨y, b, rfl⟩ hf
      | _ => rfl
  | @callout_done action rest hstack =>
    obtain rfl : stack = .callout action :: rest := hstack
    exact .kept rfl (fun _ => rfl) fun _ => rfl

/-- No opening is under way of a session that does not exist yet. -/
theorem no_pending_flags {c : MainLoop} (h : main_loop.Reachable c) :
    ∀ x, c.state.next_session ≤ x → pending_flags x c.stack = [] := by
  induction h with
  | init hinit =>
    obtain ⟨vfd, active_num, files, rfl⟩ := hinit
    intro x _
    rfl
  | step _ _ hnext ih =>
    intro x hx
    cases flag_step hnext with
    | kept hnext _ hpending =>
      rw [hpending]
      exact ih x (hnext ▸ hx)
    | opening hnext _ hpending =>
      rw [hnext] at hx
      rw [hpending, if_neg (Nat.ne_of_gt hx)]
      exact ih x (Nat.le_of_succ_le hx)
    | @opened y hnext hpending hothers =>
      rw [hnext] at hx
      by_cases hy : x = y
      · subst hy
        rw [ih x hx] at hpending
        cases hpending
      · rw [(hothers x hy).2]
        exact ih x hx

/-- In a run the flag of a session is as it was until an opening of it is
    over. -/
theorem flag_run {c c' : MainLoop} {labels : List Label} {x : SessionRef}
    (hx : x < c.state.next_session) (h : main_loop.run c labels = some c') :
    x < c'.state.next_session ∧
      ((pending_flags x c'.stack = pending_flags x c.stack ∧
        (c'.state.session x).is_local = (c.state.session x).is_local) ∨
      (pending_flags x c'.stack).length < (pending_flags x c.stack).length) := by
  induction labels generalizing c with
  | nil =>
    cases h
    exact ⟨hx, .inl ⟨rfl, rfl⟩⟩
  | cons label labels ih =>
    obtain ⟨s, hnext, hrun⟩ := Option.bind_eq_some_iff.mp h
    have hstep : x < s.state.next_session ∧
        ((pending_flags x s.stack = pending_flags x c.stack ∧
          (s.state.session x).is_local = (c.state.session x).is_local) ∨
        (pending_flags x s.stack).length < (pending_flags x c.stack).length) := by
      cases flag_step hnext with
      | kept hnext hlocal hpending =>
        exact ⟨hnext ▸ hx, .inl ⟨hpending x, hlocal x⟩⟩
      | opening hnext hlocal hpending =>
        have hne : x ≠ c.state.next_session := Nat.ne_of_lt hx
        rw [hnext, hpending, hlocal, if_neg hne, if_neg hne]
        exact ⟨Nat.lt_succ_of_lt hx, .inl ⟨rfl, rfl⟩⟩
      | @opened y hnext hpending hothers =>
        refine ⟨hnext ▸ hx, ?_⟩
        by_cases hy : x = y
        · subst hy
          rw [hpending]
          exact .inr (Nat.lt_succ_self _)
        · exact .inl (hothers x hy).symm
    rcases hstep with ⟨hxs, ⟨hpending, hlocal⟩ | hshorter⟩
    · have hih := ih hxs hrun
      rw [hpending, hlocal] at hih
      exact hih
    · obtain ⟨hlt, ⟨hpending, -⟩ | hshorter'⟩ := ih hxs hrun
      · rw [hpending]
        exact ⟨hlt, .inr hshorter⟩
      · exact ⟨hlt, .inr (Nat.lt_trans hshorter' hshorter)⟩

/-! ## Section 4: Every opening can return -/

/-- A call from which the main loop comes back, whatever the state. -/
def Finishes (f : Call) : Prop :=
  ∀ m stack, ∃ labels m', main_loop.run ⟨m, f :: stack⟩ labels = some ⟨m', stack⟩

theorem finishes_calls {calls : List Call} (h : ∀ f ∈ calls, Finishes f) (m : State)
    (stack : List Call) :
    ∃ labels m', main_loop.run ⟨m, calls ++ stack⟩ labels = some ⟨m', stack⟩ := by
  induction calls generalizing m with
  | nil => exact ⟨[], m, rfl⟩
  | cons f calls ih =>
    obtain ⟨labels, m₁, hrun⟩ := h f List.mem_cons_self m (calls ++ stack)
    obtain ⟨labels', m₂, hrun'⟩ := ih (fun g hg => h g (List.mem_cons_of_mem f hg)) m₁
    refine ⟨labels ++ labels', m₂, ?_⟩
    rw [LTS.System.run_append, List.cons_append, hrun]
    exact hrun'

theorem finishes_of_call {f : Call}
    (h : ∀ m : State, ∃ r, m.call f = some r ∧ ∀ g ∈ r.2, Finishes g) : Finishes f := by
  intro m stack
  obtain ⟨r, hr, hcalls⟩ := h m
  obtain ⟨labels, m', hrun⟩ := finishes_calls hcalls r.1 stack
  refine ⟨.call :: labels, m', ?_⟩
  rw [LTS.System.run_cons]
  show ((m.call f).map fun r => (⟨r.1, r.2 ++ stack⟩ : MainLoop)).bind _ = _
  rw [hr]
  exact hrun

theorem finishes_callout (action : Callout) : Finishes (.callout action) :=
  fun m _ => ⟨[.callout_done], m, rfl⟩

theorem finishes_emit (m : State) (d : SeatRef) (action : Callout) :
    ∀ f ∈ m.emit d action, Finishes f := by
  intro f hf
  unfold State.emit at hf
  split at hf
  · rw [List.mem_singleton.mp hf]
    exact finishes_callout action
  · cases hf

theorem finishes_maybe_update_active_session (d : SeatRef) :
    Finishes (.maybe_update_active_session d) := by
  refine finishes_of_call fun m => ⟨_, rfl, fun f hf => ?_⟩
  unfold State.maybe_update_active_session at hf
  split at hf
  · cases hf
  · split at hf
    · unfold State.update_active_vt State.change_active_session at hf
      split at hf
      · cases hf
      · exact finishes_emit _ _ _ f hf
    · cases hf

theorem finishes_ck_seat_add_session (seat : Option SeatRef) (x : SessionRef) :
    Finishes (.ck_seat_add_session seat x) := by
  refine finishes_of_call fun m => ⟨_, rfl, fun f hf => ?_⟩
  cases seat with
  | none => cases hf
  | some d =>
    rcases List.mem_append.mp hf with hf | hf
    · exact finishes_emit _ _ _ f hf
    · rw [List.mem_singleton.mp hf]
      exact finishes_maybe_update_active_session d

/-- The calls that a new session leaves to make. -/
theorem finishes_opening {m : State} {l : LeaderRef} {o : Opening} {r : State × List Call}
    (hcreated : o.created = true) (h : m.job_completed l (some o) = some r) :
    ∃ calls, (∀ f ∈ calls, Finishes f) ∧
      r.2 = calls ++ [.session_opened m.next_session (m.verify_is_local o.parameters)] := by
  have hmark := State.job_completed_flags hcreated h
  obtain ⟨-, -, seat, calls, -, heq⟩ := hmark
  refine ⟨calls ++ [.ck_seat_add_session seat m.next_session], fun f hf => ?_, by simp [heq]⟩
  rcases List.mem_append.mp hf with hf | hf
  · rcases State.job_completed_cases h with rfl | ⟨_, _, seat', calls', ho, -, -, -, hr, hseat⟩
    · have hlength := congrArg List.length heq
      simp at hlength
    · cases ho
      have hcalls : calls = calls' := by
        rw [heq] at hr
        exact List.append_inj_left' hr rfl
      subst hcalls
      rcases hseat with ⟨_, -, -, -, rfl⟩ | ⟨-, hadd⟩
      · cases hf
      · rcases State.add_new_seat_calls hadd with rfl | ⟨d, rfl⟩
        · cases hf
        · rcases List.mem_cons.mp hf with rfl | hf
          · exact finishes_callout _
          · rw [List.mem_singleton.mp hf]
            exact finishes_of_call fun m => ⟨_, rfl, by simp⟩
  · rw [List.mem_singleton.mp hf]
    exact finishes_ck_seat_add_session seat _

/-! ## Section 5: When the flag is settled -/

/-- The opening of the session returns after these steps. -/
def OpeningReturns (c : MainLoop) (x : SessionRef) (labels : List Label) (c' : MainLoop) :
    Prop :=
  ∃ s is_local rest, main_loop.run c labels = some s ∧
    s.stack = .session_opened x is_local :: rest ∧ main_loop.next s .call = some c'

/-- Whoever looks at the flag of the new session finds the value that it has
    when the opening returns: the search for its seat, which comes before
    `c'`, and the log record, the programs and the dumps, which come between
    `c'` and the return. -/
def FlagSettled (c : MainLoop) (l : LeaderRef) (o : Opening) (c' : MainLoop) : Prop :=
  ∀ labels t, OpeningReturns c' c.state.next_session labels t →
    ((c.state.insertOpened l o).session c.state.next_session).is_local =
      (t.state.session c.state.next_session).is_local ∧
    ∀ n s, main_loop.run c' (labels.take n) = some s →
      (s.state.session c.state.next_session).is_local =
        (t.state.session c.state.next_session).is_local

/-- An entry `is-local` has set the flag, or there is none and no entry names
    the login session of a local session. -/
structure SettledParameters (m : State) (o : Opening) : Prop where
  present : (∃ value, (.is_local, value) ∈ o.parameters) → o.is_local = true
  absent : (∀ value, (.is_local, value) ∉ o.parameters) →
    ∀ value, (.login_session_id, value) ∈ o.parameters → ¬ m.Vouched (g_variant_get_string value)

theorem Opening.is_local_present {o : Opening} (h : o.is_local = true) :
    ∃ value, (.is_local, value) ∈ o.parameters := by
  unfold Opening.is_local at h
  cases hlast : (property o.transform.to_boolean .is_local o.parameters).getLast? with
  | none =>
    rw [hlast] at h
    cases h
  | some b =>
    obtain ⟨⟨name, value⟩, hmem, heq⟩ := List.mem_filterMap.mp (List.mem_of_getLast? hlast)
    simp only at heq
    split at heq
    · rename_i hname
      exact ⟨value, hname ▸ hmem⟩
    · cases heq

theorem settledParameters_iff (m : State) (o : Opening) :
    SettledParameters m o ↔ o.is_local = m.verify_is_local o.parameters := by
  have hverify := m.verify_is_local_iff o.parameters
  by_cases hentry : ∃ value, (.is_local, value) ∈ o.parameters
  · have htrue : m.verify_is_local o.parameters = true := by
      obtain ⟨value, hmem⟩ := hentry
      exact hverify.mpr ⟨_, hmem, .inl rfl⟩
    rw [htrue]
    constructor
    · intro h
      exact h.present hentry
    · intro h
      exact ⟨fun _ => h, fun hno => absurd hentry (not_exists.mpr hno)⟩
  · have hfalse : o.is_local = false :=
      Bool.eq_false_iff.mpr fun h => hentry (Opening.is_local_present h)
    rw [hfalse, eq_comm, Bool.eq_false_iff, Ne, hverify]
    constructor
    · rintro h ⟨⟨name, value⟩, hmem, rfl | ⟨rfl, hvouched⟩⟩
      · exact hentry ⟨value, hmem⟩
      · exact h.absent (not_exists.mp hentry) value hmem hvouched
    · intro h
      refine ⟨fun hyes => absurd hyes hentry, fun _ value hmem hvouched => h ?_⟩
      exact ⟨_, hmem, .inr ⟨rfl, hvouched⟩⟩

theorem local_flag_settled {c c' : MainLoop} (h : main_loop.Reachable c) {l : LeaderRef}
    {o : Opening} (hcreated : o.created = true)
    (hnext : main_loop.next c (.dispatch (.job_completed l (some o))) = some c') :
    FlagSettled c l o c' ↔ SettledParameters c.state o := by
  obtain ⟨m, stack⟩ := c
  cases main_loop_step hnext with
  | @dispatch _ r _ hr =>
    obtain ⟨-, hr⟩ := State.dispatch_job_completed hr
    obtain ⟨hlt, hflag, seat, calls, hcalls, heq⟩ := State.job_completed_flags hcreated hr
    -- the only opening of the new session is this one
    have hpending : pending_flags m.next_session (r.2 ++ stack) =
        [m.verify_is_local o.parameters] := by
      rw [heq, pending_flags_opening hcalls, if_pos rfl]
      exact congrArg _ (no_pending_flags h m.next_session (Nat.le_refl _))
    have hnew : m.next_session < r.1.next_session := by
      rw [hlt]
      exact Nat.lt_succ_self _
    have hopened := m.insertOpened_is_local l o m.next_session
    rw [if_pos rfl] at hopened
    -- Whatever happens in between, the opening returns what was verified.
    have hreturns : ∀ {labels t}, OpeningReturns ⟨r.1, r.2 ++ stack⟩ m.next_session labels t →
        (t.state.session m.next_session).is_local = m.verify_is_local o.parameters := by
      rintro labels t ⟨⟨m', _⟩, is_local, rest, hrun, rfl, ht⟩
      have hflag : (t.state.session m.next_session).is_local = is_local := by
        cases ht
        simp [State.setSession]
      rw [hflag]
      obtain ⟨-, ⟨hsame, -⟩ | hshorter⟩ := flag_run hnew hrun
      · rw [hpending, pending_flags_opened] at hsame
        exact (List.cons.inj hsame).1
      · rw [hpending, pending_flags_opened] at hshorter
        simp at hshorter
    rw [settledParameters_iff]
    constructor
    · intro hsettled
      -- Some run lets the opening return, and there the flag is what it was.
      obtain ⟨calls', hfinish, heq'⟩ := finishes_opening hcreated hr
      obtain ⟨labels, m', hrun⟩ := finishes_calls hfinish r.1
        (.session_opened m.next_session (m.verify_is_local o.parameters) :: stack)
      obtain ⟨t, hret⟩ : ∃ t, OpeningReturns ⟨r.1, r.2 ++ stack⟩ m.next_session labels t := by
        have hrun' : main_loop.run ⟨r.1, r.2 ++ stack⟩ labels = some ⟨m',
            .session_opened m.next_session (m.verify_is_local o.parameters) :: stack⟩ := by
          rw [heq', List.append_assoc]
          exact hrun
        exact ⟨_, _, _, _, hrun', rfl, rfl⟩
      rw [← hreturns hret, ← (hsettled labels _ hret).1]
      exact hopened.symm
    · rintro hsettled labels t hret
      rw [hreturns hret]
      refine ⟨hopened.trans hsettled, fun n s hrun => ?_⟩
      obtain ⟨⟨m', _⟩, is_local, rest, hrun', rfl, -⟩ := hret
      obtain ⟨hlt', ⟨-, hsame⟩ | hshorter⟩ := flag_run hnew hrun
      · exact hsame.trans ((hflag _).trans (hopened.trans hsettled))
      · -- the opening would be over before it returns
        exfalso
        rw [← List.take_append_drop n labels, LTS.System.run_append, hrun] at hrun'
        obtain ⟨-, ⟨hsame, -⟩ | hshorter'⟩ := flag_run hlt' hrun'
        · rw [hpending, ← hsame, pending_flags_opened] at hshorter
          simp at hshorter
        · rw [hpending] at hshorter
          rw [pending_flags_opened] at hshorter'
          simp only [List.length_cons, List.length_nil] at hshorter hshorter'
          omega

/-! ## Section 6: A client says that its session is not local -/

/-- The collector of a client runs. -/
def collector_runs : List Label :=
  seat_loaded ++ [.dispatch (.open_session (cstr ":1.5") (some (1000, 7)) (cstr "c1") true)]

/-- A session from another host. -/
def remote_session : Opening where
  parameters := [(.unix_user, .int32 1000), (.remote_host_name, .string (cstr "example")),
    (.is_local, .boolean false)]
  transform := .same_type
  creation_time := cstr "2020-01-01T00:00:00Z"
  created := true
  registers := true

/-- A session that says it is local is marked. -/
theorem local_grant_text_session :
    ∃ c, main_loop.run one_seat collector_runs = some c ∧
      ∃ r, c.state.verify_and_open_session_for_leader 0 (text_session 1) = some r ∧
        State.LocalGrant c.state 0 (text_session 1) r := by
  have hrun : (main_loop.run one_seat collector_runs).map (fun c =>
      (c.state.verify_and_open_session_for_leader 0 (text_session 1)).isSome) = some true := by
    decide
  obtain ⟨c, hc, hsome⟩ := Option.map_eq_some_iff.mp hrun
  obtain ⟨r, hr⟩ := Option.isSome_iff_exists.mp hsome
  refine ⟨c, hc, r, hr, (State.local_grant rfl hr).mpr (.inr ?_)⟩
  exact ⟨(.is_local, .boolean true), by decide, .inl rfl⟩

/-- So is one that says it is not. -/
theorem local_grant_fails :
    ∃ c, main_loop.run one_seat collector_runs = some c ∧ main_loop.Reachable c ∧
      ∃ r, c.state.verify_and_open_session_for_leader 0 remote_session = some r ∧
        ¬ State.LocalGrant c.state 0 remote_session r := by
  have hrun : (main_loop.run one_seat collector_runs).map (fun c =>
      (c.state.verify_and_open_session_for_leader 0 remote_session).isSome) = some true := by
    decide
  obtain ⟨c, hc, hsome⟩ := Option.map_eq_some_iff.mp hrun
  obtain ⟨r, hr⟩ := Option.isSome_iff_exists.mp hsome
  refine ⟨c, hc, LTS.System.Reachable.run (one_seat_reachable _) hc, r, hr, fun hgrant => ?_⟩
  have hmarked : c.state.Marked r := by
    apply (State.marked_iff rfl hr).mpr
    apply (c.state.verify_is_local_iff _).mpr
    exact ⟨(.is_local, .boolean false), by decide, .inl rfl⟩
  obtain ⟨e, he, heq | ⟨id, heq, -⟩⟩ := hgrant.granted.mp hmarked
  · subst heq
    exact absurd he (by decide)
  · subst heq
    simp [remote_session] at he

theorem local_flag_settled_text_session :
    ∃ c c', main_loop.run one_seat collector_runs = some c ∧
      main_loop.next c (.dispatch (.job_completed 0 (some (text_session 1)))) = some c' ∧
      FlagSettled c 0 (text_session 1) c' := by
  have hrun : (main_loop.run one_seat collector_runs).map (fun c =>
      (main_loop.next c (.dispatch (.job_completed 0 (some (text_session 1))))).isSome) =
        some true := by
    decide
  obtain ⟨c, hc, hsome⟩ := Option.map_eq_some_iff.mp hrun
  obtain ⟨c', hc'⟩ := Option.isSome_iff_exists.mp hsome
  refine ⟨c, c', hc, hc', (local_flag_settled (.run (one_seat_reachable _) hc) rfl hc').mpr ?_⟩
  exact ⟨fun _ => rfl, fun hno => absurd (by simp [text_session]) (hno (.boolean true))⟩

/-- The programs that run when the session is added to its seat are told that
    it is not local; when the opening returns it is. -/
theorem local_flag_settled_fails :
    ∃ c c' t, main_loop.run one_seat collector_runs = some c ∧ main_loop.Reachable c ∧
      main_loop.next c (.dispatch (.job_completed 0 (some remote_session))) = some c' ∧
      OpeningReturns c' 0 [.callout_done, .call, .call, .callout_done, .call] t ∧
      (c'.state.session 0).is_local = false ∧ (t.state.session 0).is_local = true ∧
      ¬ FlagSettled c 0 remote_session c' := by
  have hrun : ((main_loop.run one_seat collector_runs).bind fun c =>
      (main_loop.next c (.dispatch (.job_completed 0 (some remote_session)))).bind fun c' =>
      (main_loop.run c' [.callout_done, .call, .call, .callout_done, .call]).map fun s =>
        (c.state.next_session, (c'.state.session 0).is_local, s.stack)) =
      some (0, false, [.session_opened 0 true]) := by
    decide
  obtain ⟨c, hc, h⟩ := Option.bind_eq_some_iff.mp hrun
  obtain ⟨c', hc', h⟩ := Option.bind_eq_some_iff.mp h
  obtain ⟨⟨m, _⟩, hs, heq⟩ := Option.map_eq_some_iff.mp h
  simp only [Prod.mk.injEq] at heq
  obtain ⟨hnew, hflag, rfl⟩ := heq
  have hreturns : ∃ t, OpeningReturns c' 0 [.callout_done, .call, .call, .callout_done, .call] t ∧
      (t.state.session 0).is_local = true :=
    ⟨_, ⟨_, _, _, hs, rfl, rfl⟩, by simp [State.setSession]⟩
  obtain ⟨t, ht, htrue⟩ := hreturns
  have hreachable : main_loop.Reachable c := .run (one_seat_reachable _) hc
  refine ⟨c, c', t, hc, hreachable, hc', ht, hflag, htrue, fun h => ?_⟩
  have hsame := (h _ t (hnew ▸ ht)).2 0 c' rfl
  rw [hnew, hflag, htrue] at hsame
  cases hsame

end CkManager
