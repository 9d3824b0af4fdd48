import ConsoleKit.Inhibit.Counters
import ConsoleKit.Manager.Table
import ConsoleKit.SystemAction.Users

/-! # The idle hint of the system

    The system is idle if all sessions are and no lock blocks it from being
    idle.  The manager keeps the answer in `system_idle_hint`, and computes it
    anew when a session has been added or removed and when a session that it
    listens to changes its own hint.  `on_inhibit_manager_changed_event` does
    not compute it.

    This module provides:
    - `idle`: the power system with the idle hints,
    - `IdleLaw`: what is asked of each step,
    - `idle_hint_published`: the runs that meet it.
-/

namespace SystemAction

open CkManager Inhibit Libc

/-! ## Section 1: The hints -/

structure IdleHints where
  power : PowerState
  /-- The `idle-hint` of a session. -/
  idle_hint : SessionRef → Bool
  idle_since_hint : SessionRef → Nat
  /-- Whether `session_idle_hint_changed` is connected to the session. -/
  connected : SessionRef → Bool
  system_idle_hint : Bool
  system_idle_since_hint : Nat
  /-- The `SystemIdleHintChanged` signals. -/
  emitted : List Bool
  /-- Not in the source: `idle_value` after the last event. -/
  settled : Bool

inductive IdleEvent where
  | power (label : PowerLabel)
  /-- `SetIdleHint`, with what `get_caller_info` says about the caller. -/
  | set_idle_hint (session : SessionRef) (caller : Option (Nat × Nat)) (idle_hint : Bool)
  /-- The monitor of the session's tty tells of a change. -/
  | tty_idle_changed (session : SessionRef) (idle_hint : Bool)

structure IdleLabel where
  event : IdleEvent
  /-- What `g_get_current_time` says to the session and to the manager. -/
  session_time : Nat
  system_time : Nat

namespace IdleHints

def is_session_busy (s : IdleHints) (x : SessionRef) : Bool := !s.idle_hint x

def manager_set_system_idle_hint (s : IdleHints) (time : Nat) (idle_hint : Bool) : IdleHints :=
  let idle_hint :=
    if ck_inhibit_manager_is_idle_blocked s.power.actions.daemon then false else idle_hint
  if s.system_idle_hint ≠ idle_hint then
    { s with
      system_idle_hint := idle_hint
      system_idle_since_hint := time
      emitted := s.emitted ++ [idle_hint] }
  else s

def manager_update_system_idle_hint (s : IdleHints) (time : Nat) : IdleHints :=
  s.manager_set_system_idle_hint time
    (!s.power.loop.state.sessions.values.any s.is_session_busy)

/-- With `session_idle_hint_changed`, if the manager listens. -/
def session_set_idle_hint_internal (s : IdleHints) (x : SessionRef) (idle_hint : Bool)
    (session_time system_time : Nat) : IdleHints :=
  if s.idle_hint x ≠ idle_hint then
    let s := { s with
      idle_hint := Function.update s.idle_hint x idle_hint
      idle_since_hint := Function.update s.idle_since_hint x session_time }
    if s.connected x then s.manager_update_system_idle_hint system_time else s
  else s

/-- A call that is refused changes nothing. -/
def dbus_set_idle_hint (s : IdleHints) (x : SessionRef) (caller : Option (Nat × Nat))
    (idle_hint : Bool) (session_time system_time : Nat) : IdleHints :=
  match caller with
  | none => s
  | some (calling_uid, _) =>
    -- only restrict this by UID for now
    if (s.power.loop.state.session x).unix_user ≠ calling_uid then s
    else s.session_set_idle_hint_internal x idle_hint session_time system_time

def tty_idle_changed_cb (s : IdleHints) (x : SessionRef) (idle_hint : Bool)
    (session_time system_time : Nat) : IdleHints :=
  s.session_set_idle_hint_internal x idle_hint session_time system_time

/-- The hint at the end of `open_session_for_leader`, and in
    `remove_session_for_cookie` when the session has left the table. -/
def afterPower (s : IdleHints) (label : PowerLabel) (power : PowerState) (time : Nat) :
    IdleHints :=
  let s' := { s with power := power }
  match label, s.power.loop.stack with
  | .loop .call, .session_opened x _ :: _ =>
    let s' := s'.manager_update_system_idle_hint time
    { s' with connected := Function.update s'.connected x true }
  | .loop .call, .remove_session _ _ _ :: _ => s'.manager_update_system_idle_hint time
  | _, _ => s'

/-! ## Section 2: The system -/

/-- The locks that block the system from being idle. -/
def locks (s : IdleHints) : Nat := s.power.actions.daemon.heldCount .block .idle

/-- What the hint is to tell. -/
def idle_value (s : IdleHints) : Bool :=
  s.power.loop.state.sessions.values.all s.idle_hint && decide (s.locks = 0)

end IdleHints

/-- The session whose hint the event may change. -/
def IdleEvent.session : IdleEvent → Option SessionRef
  | .power _ => none
  | .set_idle_hint x _ _ | .tty_idle_changed x _ => some x

namespace IdleHints

/-- The event is the end of adding a session, or the removal of one. -/
def changes_table (s : IdleHints) : IdleEvent → Bool
  | .power (.loop .call) =>
    match s.power.loop.stack with
    | .session_opened _ _ :: _ | .remove_session _ _ _ :: _ => true
    | _ => false
  | _ => false

/-- The step to `s'` ends the processing of an event: a session is added or
    removed, the hint of a session changes, a lock is taken or released. -/
def processes (s : IdleHints) (event : IdleEvent) (s' : IdleHints) : Bool :=
  s.changes_table event || (event.session.any fun x => s'.idle_hint x != s.idle_hint x) ||
    s'.locks != s.locks

/-- The step to `s'` computes the hint. -/
def computes (s : IdleHints) (event : IdleEvent) (s' : IdleHints) : Bool :=
  s.changes_table event ||
    event.session.any fun x => s.connected x && (s'.idle_hint x != s.idle_hint x)

end IdleHints

section system
variable (spawn : Nat → String → Option String) (getpwuid : Nat → Option CString)

def IdleHints.handle (s : IdleHints) (label : IdleLabel) : Option IdleHints :=
  match label.event with
  | .power l =>
    (power_next spawn getpwuid s.power l).map fun p => s.afterPower l p label.system_time
  | .set_idle_hint x caller idle_hint =>
    if dispatching s.power.loop.stack ∧ x < s.power.loop.state.next_session then
      some (s.dbus_set_idle_hint x caller idle_hint label.session_time label.system_time)
    else none
  | .tty_idle_changed x idle_hint =>
    if dispatching s.power.loop.stack ∧ x < s.power.loop.state.next_session then
      some (s.tty_idle_changed_cb x idle_hint label.session_time label.system_time)
    else none

def idle_next (s : IdleHints) (label : IdleLabel) : Option IdleHints :=
  (s.handle spawn getpwuid label).map fun s' =>
    { s' with settled := if s.processes label.event s' then s'.idle_value else s.settled }

def idle : LTS.System IdleHints IdleLabel where
  init s := (power spawn getpwuid).init s.power ∧ (∀ x, s.idle_hint x = false) ∧
    (∀ x, s.connected x = false) ∧ s.system_idle_hint = true ∧ s.settled = true
  next := idle_next spawn getpwuid

end system

/-! ## Section 3: The law and the condition -/

/-- What is asked of a step from `s` to `s'`. -/
structure IdleLaw (s : IdleHints) (label : IdleLabel) (s' : IdleHints) : Prop where
  published : s.processes label.event s' = true → s'.system_idle_hint = s'.idle_value
  quiescent : s'.power.loop.Quiescent → s'.system_idle_hint = s'.idle_value
  changed : s'.system_idle_hint ≠ s.system_idle_hint → s.processes label.event s' = true
  since : s'.system_idle_since_hint =
    if s'.system_idle_hint = s.system_idle_hint then s.system_idle_since_hint
    else label.system_time

/-- When the hint is computed, the inhibit manager is right about the locks,
    unless a session is busy.  An event at which it is not computed leaves the
    value as it was after the event before. -/
structure HintComputed (s : IdleHints) (label : IdleLabel) (s' : IdleHints) : Prop where
  counted : s.computes label.event s' = true →
    s'.power.loop.state.sessions.values.all s'.idle_hint = true →
    (ck_inhibit_manager_is_idle_blocked s'.power.actions.daemon = true ↔ s'.locks ≠ 0)
  unseen : s.processes label.event s' = true → s.computes label.event s' = false →
    s'.idle_value = s.settled

/-! ## Section 4: What a step does to the hint -/

namespace IdleHints

variable {s s' : IdleHints}

theorem all_idle_iff (s : IdleHints) :
    (!s.power.loop.state.sessions.values.any s.is_session_busy) =
      s.power.loop.state.sessions.values.all s.idle_hint := by
  rw [List.all_eq_not_any_not]
  rfl

/-- Computing the hint changes nothing but the hint and its time. -/
theorem update_eq (s : IdleHints) (time : Nat) :
    ∃ emitted, s.manager_update_system_idle_hint time = { s with
      system_idle_hint := s.power.loop.state.sessions.values.all s.idle_hint &&
        !ck_inhibit_manager_is_idle_blocked s.power.actions.daemon
      system_idle_since_hint :=
        if (s.power.loop.state.sessions.values.all s.idle_hint &&
          !ck_inhibit_manager_is_idle_blocked s.power.actions.daemon) = s.system_idle_hint
        then s.system_idle_since_hint else time
      emitted := emitted } := by
  unfold manager_update_system_idle_hint manager_set_system_idle_hint
  rw [all_idle_iff]
  have hblocked : (if ck_inhibit_manager_is_idle_blocked s.power.actions.daemon then false
      else s.power.loop.state.sessions.values.all s.idle_hint) =
      (s.power.loop.state.sessions.values.all s.idle_hint &&
        !ck_inhibit_manager_is_idle_blocked s.power.actions.daemon) := by
    cases ck_inhibit_manager_is_idle_blocked s.power.actions.daemon <;> simp
  rw [hblocked]
  dsimp only
  split
  · rename_i hne
    rw [if_neg fun heq => hne heq.symm]
    exact ⟨_, rfl⟩
  · rename_i heq
    rw [not_not] at heq
    rw [if_pos heq.symm, ← heq]
    exact ⟨_, rfl⟩

/-- What a step does to the published hint and its time. -/
structure Published (s : IdleHints) (computes : Bool) (time : Nat) (s' : IdleHints) : Prop where
  computed : computes = true → s'.system_idle_hint =
    (s'.power.loop.state.sessions.values.all s'.idle_hint &&
      !ck_inhibit_manager_is_idle_blocked s'.power.actions.daemon)
  kept : computes = false → s'.system_idle_hint = s.system_idle_hint
  since : s'.system_idle_since_hint =
    if s'.system_idle_hint = s.system_idle_hint then s.system_idle_since_hint else time

theorem Published.same {time : Nat} (hhint : s'.system_idle_hint = s.system_idle_hint)
    (hsince : s'.system_idle_since_hint = s.system_idle_since_hint) :
    Published s false time s' :=
  ⟨fun h => (nomatch h), fun _ => hhint, by rw [if_pos hhint, hsince]⟩

/-- The hint is computed in a state that differs from `s` elsewhere. -/
theorem Published.update {t : IdleHints} {time : Nat}
    (hhint : t.system_idle_hint = s.system_idle_hint)
    (hsince : t.system_idle_since_hint = s.system_idle_since_hint) :
    Published s true time (t.manager_update_system_idle_hint time) := by
  obtain ⟨emitted, heq⟩ := t.update_eq time
  rw [heq]
  refine ⟨fun _ => rfl, fun h => absurd h (by decide), ?_⟩
  dsimp only
  rw [hhint, hsince]

/-- What a step does besides: a session whose hint does not change keeps it,
    and the rest of the daemon makes a step of its own or none. -/
structure Handled (spawn : Nat → String → Option String) (getpwuid : Nat → Option CString)
    (s : IdleHints) (label : IdleLabel) (s' : IdleHints) : Prop where
  published : Published s (s.computes label.event s') label.system_time s'
  settled : s'.settled = s.settled
  idle_hint : (∀ x, label.event.session = some x → s'.idle_hint x = s.idle_hint x) →
    s'.idle_hint = s.idle_hint
  power : (∃ l, label.event = .power l ∧ power_next spawn getpwuid s.power l = some s'.power) ∨
    ((∀ l, label.event ≠ .power l) ∧ s'.power = s.power)

variable {spawn : Nat → String → Option String} {getpwuid : Nat → Option CString}

/-- A step that leaves everything here as it is. -/
theorem Handled.ignored {label : IdleLabel} (hevent : ∀ l, label.event ≠ .power l)
    (hcomputes : s.computes label.event s = false) : Handled spawn getpwuid s label s where
  published := by
    rw [hcomputes]
    exact .same rfl rfl
  settled := rfl
  idle_hint _ := rfl
  power := .inr ⟨hevent, rfl⟩

theorem handled_set {label : IdleLabel} {x : SessionRef} (idle_hint : Bool)
    (hevent : ∀ l, label.event ≠ .power l) (hx : label.event.session = some x) :
    Handled spawn getpwuid s label
      (s.session_set_idle_hint_internal x idle_hint label.session_time label.system_time) := by
  have htable : s.changes_table label.event = false := by
    cases hlabel : label.event with
    | power l => exact absurd hlabel (hevent l)
    | set_idle_hint | tty_idle_changed => rfl
  have hcomputes : ∀ s', s.computes label.event s' =
      (s.connected x && (s'.idle_hint x != s.idle_hint x)) := by
    intro s'
    unfold computes
    rw [htable, hx]
    rfl
  unfold session_set_idle_hint_internal
  by_cases hsame : s.idle_hint x = idle_hint
  · rw [if_neg (not_not.mpr hsame)]
    exact .ignored hevent (by rw [hcomputes]; simp)
  · rw [if_pos hsame]
    dsimp only
    have hothers : (Function.update s.idle_hint x idle_hint) x = s.idle_hint x →
        (Function.update s.idle_hint x idle_hint) = s.idle_hint := by
      rw [Function.update_self]
      exact fun heq => absurd heq.symm hsame
    by_cases hconnected : s.connected x = true
    · rw [if_pos hconnected]
      obtain ⟨emitted, heq⟩ := update_eq { s with
        idle_hint := Function.update s.idle_hint x idle_hint
        idle_since_hint := Function.update s.idle_since_hint x label.session_time }
        label.system_time
      refine ⟨?_, ?_, ?_, .inr ⟨hevent, ?_⟩⟩
      · rw [hcomputes, hconnected, heq]
        have hchanged : (idle_hint != s.idle_hint x) = true := bne_iff_ne.mpr (Ne.symm hsame)
        simp only [Function.update_self, hchanged, Bool.and_self]
        rw [← heq]
        exact .update rfl rfl
      · rw [heq]
      · intro h
        have h' := h x hx
        rw [heq] at h' ⊢
        exact hothers h'
      · rw [heq]
    · rw [if_neg hconnected]
      refine ⟨?_, rfl, fun h => hothers (h x hx), .inr ⟨hevent, rfl⟩⟩
      rw [hcomputes, Bool.eq_false_iff.mpr hconnected, Bool.false_and]
      exact .same rfl rfl

/-- The hint is computed when the step changes the table. -/
theorem afterPower_cases (s : IdleHints) (l : PowerLabel) (p : PowerState) (time : Nat) :
    (s.changes_table (.power l) = true ∧ ∃ connected, s.afterPower l p time =
      { ({ s with power := p } : IdleHints).manager_update_system_idle_hint time with
        connected := connected }) ∨
    (s.changes_table (.power l) = false ∧ s.afterPower l p time = { s with power := p }) := by
  unfold changes_table afterPower
  cases l with
  | loop label =>
    cases label with
    | call =>
      dsimp only
      cases s.power.loop.stack with
      | nil => exact .inr ⟨rfl, rfl⟩
      | cons f rest =>
        cases f with
        | session_opened x is_local => exact .inl ⟨rfl, _, rfl⟩
        | remove_session leader x caller => exact .inl ⟨rfl, _, rfl⟩
        | _ => exact .inr ⟨rfl, rfl⟩
    | dispatch | callout_done => exact .inr ⟨rfl, rfl⟩
  | call | auth_ready | inhibit | timeout => exact .inr ⟨rfl, rfl⟩

theorem handled_power {label : IdleLabel} {l : PowerLabel} {p : PowerState}
    (hevent : label.event = .power l) (hnext : power_next spawn getpwuid s.power l = some p) :
    Handled spawn getpwuid s label (s.afterPower l p label.system_time) := by
  have hcomputes : ∀ s', s.computes label.event s' = s.changes_table (.power l) := by
    intro s'
    rw [hevent]
    exact Bool.or_false _
  rcases s.afterPower_cases l p label.system_time with ⟨htable, connected, hs'⟩ | ⟨htable, hs'⟩
  · obtain ⟨emitted, heq⟩ := update_eq { s with power := p } label.system_time
    have hupdate : Published s true label.system_time
        (({ s with power := p } : IdleHints).manager_update_system_idle_hint
          label.system_time) :=
      .update rfl rfl
    rw [hs']
    refine ⟨?_, by rw [heq], fun _ => by rw [heq], .inl ⟨l, hevent, by rw [heq]; exact hnext⟩⟩
    rw [hcomputes, htable]
    exact ⟨hupdate.computed, hupdate.kept, hupdate.since⟩
  · rw [hs']
    refine ⟨?_, rfl, fun _ => rfl, .inl ⟨l, hevent, hnext⟩⟩
    rw [hcomputes, htable]
    exact .same rfl rfl

theorem handle_spec {label : IdleLabel} (h : s.handle spawn getpwuid label = some s') :
    Handled spawn getpwuid s label s' := by
  unfold handle at h
  cases hevent : label.event with
  | power l =>
    rw [hevent] at h
    obtain ⟨p, hnext, rfl⟩ := Option.map_eq_some_iff.mp h
    exact handled_power hevent hnext
  | set_idle_hint x caller idle_hint =>
    rw [hevent] at h
    obtain ⟨-, h⟩ := Option.ite_none_right_eq_some.mp h
    obtain rfl := Option.some.inj h
    have hpower : ∀ l, label.event ≠ .power l := by
      rw [hevent]
      exact fun l hl => nomatch hl
    have hignored : s.computes label.event s = false := by
      rw [hevent]
      simp [computes, changes_table, IdleEvent.session]
    unfold dbus_set_idle_hint
    split
    · exact .ignored hpower hignored
    · split
      · exact .ignored hpower hignored
      · exact handled_set idle_hint hpower (by rw [hevent]; rfl)
  | tty_idle_changed x idle_hint =>
    rw [hevent] at h
    obtain ⟨-, h⟩ := Option.ite_none_right_eq_some.mp h
    obtain rfl := Option.some.inj h
    refine handled_set idle_hint ?_ (by rw [hevent]; rfl)
    rw [hevent]
    exact fun l hl => nomatch hl

/-! ## Section 5: Between two events -/

/-- The opening of a session is not at its end. -/
def Opening (s : IdleHints) : Prop :=
  ∃ x is_local, .session_opened x is_local ∈ s.power.loop.stack

/-- What holds between two steps. -/
structure HintValid (s : IdleHints) : Prop where
  published : s.system_idle_hint = s.settled
  seen : s.idle_value = s.settled ∨ s.Opening

/-- The rest of the opening is put on the stack with the new session. -/
theorem opening_pushed {c c' : MainLoop} {label : CkManager.Label} {l : LeaderRef}
    {o : CkManager.Opening} (h : main_loop.next c label = some c')
    (hopening : label.opening = some (l, o)) :
    ∃ x is_local, .session_opened x is_local ∈ c'.stack := by
  cases main_loop_step h with
  | call | callout_done => cases hopening
  | @dispatch event r _ hr =>
    cases event with
    | job_completed leader result =>
      cases result with
      | none => cases hopening
      | some o' =>
        obtain ⟨hcreated, heq⟩ := Option.ite_none_right_eq_some.mp hopening
        obtain ⟨-, hjob⟩ := Option.ite_none_right_eq_some.mp hr
        rcases State.job_completed_cases hjob with
          rfl | ⟨_, is_local, seat, calls, -, -, -, -, hcalls, -⟩
        · -- a session was inserted
          have hnext := (State.job_completed_created hcreated hjob).next_session
          exact absurd hnext (Nat.ne_of_lt (Nat.lt_succ_self _))
        · refine ⟨c.state.next_session, is_local, List.mem_append_left _ ?_⟩
          rw [hcalls]
          simp
    | _ => cases hopening

theorem opening_kept {c c' : MainLoop} {label : CkManager.Label} {x : SessionRef}
    {is_local : Bool} (h : main_loop.next c label = some c')
    (hmem : .session_opened x is_local ∈ c.stack)
    (hhead : label = .call → ∀ rest, c.stack ≠ .session_opened x is_local :: rest) :
    .session_opened x is_local ∈ c'.stack := by
  cases main_loop_step h with
  | dispatch => exact List.mem_append_right _ hmem
  | @call f rest r hstack _ =>
    rw [hstack] at hmem
    rcases List.mem_cons.mp hmem with rfl | hmem
    · exact absurd hstack (hhead rfl rest)
    · exact List.mem_append_right _ hmem
  | @callout_done action rest hstack =>
    rw [hstack] at hmem
    rcases List.mem_cons.mp hmem with heq | hmem
    · cases heq
    · exact hmem

theorem processes_eq_false {event : IdleEvent} :
    s.processes event s' = false ↔ s.changes_table event = false ∧
      (∀ x, event.session = some x → s'.idle_hint x = s.idle_hint x) ∧ s'.locks = s.locks := by
  unfold processes
  rw [Bool.or_eq_false_iff, Bool.or_eq_false_iff, bne_eq_false_iff_eq, and_assoc]
  refine and_congr_right fun _ => and_congr_left fun _ => ?_
  cases event.session with
  | none => simp
  | some y => simp

theorem processes_of_computes {event : IdleEvent} (h : s.computes event s' = true) :
    s.processes event s' = true := by
  unfold computes at h
  unfold processes
  rcases Bool.or_eq_true_iff.mp h with htable | hhint
  · rw [htable]
    rfl
  · rw [Option.any_eq_true] at hhint
    obtain ⟨x, hx, hchanged⟩ := hhint
    have hany : (event.session.any fun x => s'.idle_hint x != s.idle_hint x) = true := by
      rw [Option.any_eq_true]
      exact ⟨x, hx, (Bool.and_eq_true_iff.mp hchanged).2⟩
    rw [hany, Bool.or_true, Bool.true_or]

/-- The value depends on the table, the hints of the sessions and the locks. -/
theorem idle_value_congr (hsessions : s'.power.loop.state.sessions = s.power.loop.state.sessions)
    (hhint : s'.idle_hint = s.idle_hint) (hlocks : s'.locks = s.locks) :
    s'.idle_value = s.idle_value := by
  unfold idle_value
  rw [hsessions, hhint, hlocks]

theorem changes_table_of_removal {label : IdleLabel} {label' : CkManager.Label} {l : LeaderRef}
    {x : SessionRef} (hevent : label.event = .power (.loop label'))
    (hremoval : label'.removal s.power.loop = some (l, x)) :
    s.changes_table label.event = true := by
  rw [hevent]
  cases label' with
  | dispatch | callout_done => cases hremoval
  | call =>
    unfold Label.removal at hremoval
    unfold changes_table
    dsimp only at hremoval ⊢
    split at hremoval
    · rename_i hstack
      rw [hstack]
    · cases hremoval

/-- Between two events only the insertion of a session changes the value. -/
theorem Handled.unprocessed {label : IdleLabel} (h : Handled spawn getpwuid s label s')
    (hnone : s.processes label.event s' = false) :
    (s'.idle_value = s.idle_value ∨ s'.Opening) ∧ (s.Opening → s'.Opening) := by
  obtain ⟨htable, hhints, hlocks⟩ := processes_eq_false.mp hnone
  have hhint := h.idle_hint hhints
  have hsame : s'.power.loop = s.power.loop →
      (s'.idle_value = s.idle_value ∨ s'.Opening) ∧ (s.Opening → s'.Opening) := by
    intro hloop
    refine ⟨.inl (idle_value_congr (by rw [hloop]) hhint hlocks), ?_⟩
    unfold Opening
    rw [hloop]
    exact fun hopening => hopening
  rcases h.power with ⟨l, hevent, hnext⟩ | ⟨-, hpower⟩
  · have hstep := power_step hnext
    generalize hp : s'.power = p at hstep
    cases hstep with
    | action => exact hsame (by rw [hp])
    | @loop label' c hloop =>
      have hc : s'.power.loop = c := by rw [hp]
      refine ⟨?_, fun ⟨x, is_local, hmem⟩ => ⟨x, is_local, ?_⟩⟩
      · cases table_step hloop with
        | same _ _ hsame =>
          exact .inl (idle_value_congr (by rw [hc]; exact hsame.sessions) hhint hlocks)
        | opened hopening =>
          obtain ⟨x, is_local, hmem⟩ := opening_pushed hloop hopening
          exact .inr ⟨x, is_local, hc ▸ hmem⟩
        | removed _ hremoval =>
          -- the session leaves the table in an event
          exact absurd (changes_table_of_removal hevent hremoval) (by rw [htable]; decide)
      · rw [hc]
        refine opening_kept hloop hmem fun hcall rest hstack => ?_
        subst hcall
        rw [hevent] at htable
        unfold changes_table at htable
        rw [hstack] at htable
        cases htable
  · exact hsame (by rw [hpower])

/-- The value as the last event left it is kept with the step. -/
structure Step (spawn : Nat → String → Option String) (getpwuid : Nat → Option CString)
    (s : IdleHints) (label : IdleLabel) (s' : IdleHints) : Prop where
  published : Published s (s.computes label.event s') label.system_time s'
  settled : s.processes label.event s' = true → s'.settled = s'.idle_value
  kept : s.processes label.event s' = false → s'.settled = s.settled ∧
    (s'.idle_value = s.idle_value ∨ s'.Opening) ∧ (s.Opening → s'.Opening)

theorem idle_step {label : IdleLabel} (h : (idle spawn getpwuid).next s label = some s') :
    Step spawn getpwuid s label s' := by
  obtain ⟨t, ht, rfl⟩ := Option.map_eq_some_iff.mp h
  have hhandled := handle_spec ht
  have hpublished := hhandled.published
  refine ⟨⟨hpublished.computed, hpublished.kept, hpublished.since⟩, fun hevent => ?_,
    fun hnone => ⟨?_, hhandled.unprocessed hnone⟩⟩
  · exact if_pos hevent
  · exact if_neg (Bool.eq_false_iff.mp hnone)

theorem not_computes {event : IdleEvent} (h : s.processes event s' = false) :
    s.computes event s' = false := by
  refine Bool.eq_false_iff.mpr fun hcomputes => ?_
  rw [processes_of_computes hcomputes] at h
  cases h

namespace HintValid

variable {label : IdleLabel}

/-- A step after which the published hint is right. -/
theorem step (hs : s.HintValid) (h : (idle spawn getpwuid).next s label = some s')
    (hright : s.processes label.event s' = true → s'.system_idle_hint = s'.idle_value) :
    s'.HintValid := by
  have hstep := idle_step h
  cases hevent : s.processes label.event s' with
  | true =>
    have hsettled := hstep.settled hevent
    exact ⟨(hright hevent).trans hsettled.symm, .inl hsettled.symm⟩
  | false =>
    obtain ⟨hsettled, hvalue, hopening⟩ := hstep.kept hevent
    constructor
    · rw [hstep.published.kept (not_computes hevent), hs.published, hsettled]
    · rcases hvalue with hvalue | hvalue
      · rw [hvalue, hsettled]
        exact hs.seen.imp_right hopening
      · exact .inr hvalue

/-- A hint that is computed is right if the inhibit manager is. -/
theorem computed_iff (h : (idle spawn getpwuid).next s label = some s')
    (hcomputes : s.computes label.event s' = true) :
    s'.system_idle_hint = s'.idle_value ↔
      (s'.power.loop.state.sessions.values.all s'.idle_hint = true →
        (ck_inhibit_manager_is_idle_blocked s'.power.actions.daemon = true ↔ s'.locks ≠ 0)) := by
  rw [(idle_step h).published.computed hcomputes]
  unfold idle_value
  cases s'.power.loop.state.sessions.values.all s'.idle_hint with
  | false => simp
  | true =>
    cases ck_inhibit_manager_is_idle_blocked s'.power.actions.daemon <;> simp

/-- A hint that is not computed is right if the value is the same as before. -/
theorem kept_iff (hs : s.HintValid) (h : (idle spawn getpwuid).next s label = some s')
    (hcomputes : s.computes label.event s' = false) :
    s'.system_idle_hint = s'.idle_value ↔ s'.idle_value = s.settled := by
  rw [(idle_step h).published.kept hcomputes, hs.published]
  exact eq_comm

/-- **Step lemma**: what is asked of a step is what the condition says. -/
theorem law_iff (hs : s.HintValid) (h : (idle spawn getpwuid).next s label = some s') :
    IdleLaw s label s' ↔ HintComputed s label s' := by
  constructor
  · intro hlaw
    refine ⟨fun hcomputes => ?_, fun hevent hcomputes => ?_⟩
    · exact (computed_iff h hcomputes).mp (hlaw.published (processes_of_computes hcomputes))
    · exact (hs.kept_iff h hcomputes).mp (hlaw.published hevent)
  · intro hok
    have hright : s.processes label.event s' = true → s'.system_idle_hint = s'.idle_value := by
      intro hevent
      cases hcomputes : s.computes label.event s' with
      | true => exact (computed_iff h hcomputes).mpr (hok.counted hcomputes)
      | false => exact (hs.kept_iff h hcomputes).mpr (hok.unseen hevent hcomputes)
    refine ⟨hright, fun hquiescent => ?_, fun hchanged => ?_, (idle_step h).published.since⟩
    · have hs' := hs.step h hright
      rcases hs'.seen with hvalue | ⟨x, is_local, hmem⟩
      · rw [hs'.published, hvalue]
      · rw [hquiescent] at hmem
        cases hmem
    · by_contra hnone
      have hfalse := Bool.eq_false_iff.mpr hnone
      exact hchanged ((idle_step h).published.kept (not_computes hfalse))

theorem init (h : (idle spawn getpwuid).init s) : s.HintValid := by
  obtain ⟨⟨⟨vfd, active_num, files, hloop⟩, hactions, -⟩, -, -, hhint, hsettled⟩ := h
  refine ⟨hhint.trans hsettled.symm, .inl ?_⟩
  unfold idle_value locks
  rw [hloop, hactions, hsettled]
  rfl

end HintValid

end IdleHints

def idle_start : IdleHints :=
  ⟨power_start, fun _ => false, fun _ => 0, fun _ => false, true, 0, [], true⟩

def at_time (time : Nat) (event : IdleEvent) : IdleLabel := ⟨event, time, time⟩

/-- A user opens a session, which is idle some time later. -/
def session_idles : List IdleLabel :=
  ([PowerLabel.loop .call] ++ logs_in 0 (cstr "c1") 1000).map (fun l => at_time 5 (.power l)) ++
    [at_time 9 (.set_idle_hint 0 (some (1000, 7)) true)]

/-- The test of the condition on a step. -/
def hint_computed (getpwuid : Nat → Option CString) (s : IdleHints) (label : IdleLabel) : Bool :=
  match idle_next (fun _ _ => none) getpwuid s label with
  | none => true
  | some s' =>
    (!s.computes label.event s' ||
      ck_inhibit_manager_is_idle_blocked s'.power.actions.daemon == (s'.locks != 0)) &&
    (!s.processes label.event s' || s.computes label.event s' || s'.idle_value == s.settled)

theorem hint_computed_sound {getpwuid : Nat → Option CString} {s s' : IdleHints}
    {label : IdleLabel} (h : hint_computed getpwuid s label = true)
    (hnext : idle_next (fun _ _ => none) getpwuid s label = some s') :
    HintComputed s label s' := by
  unfold hint_computed at h
  rw [hnext] at h
  obtain ⟨hcounted, hunseen⟩ := Bool.and_eq_true_iff.mp h
  constructor
  · intro hcomputes _
    rw [hcomputes] at hcounted
    rw [beq_iff_eq.mp hcounted, bne_iff_ne]
  · intro hevent hcomputes
    rw [hevent, hcomputes] at hunseen
    exact beq_iff_eq.mp hunseen

theorem idle_start_init (getpwuid : Nat → Option CString) :
    (idle (fun _ _ => none) getpwuid).init idle_start :=
  ⟨⟨⟨true, 1, [], rfl⟩, rfl, rfl⟩, fun _ => rfl, fun _ => rfl, rfl, rfl⟩

end SystemAction
