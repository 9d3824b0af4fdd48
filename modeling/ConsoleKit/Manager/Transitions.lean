import ConsoleKit.Framework.Notify
import ConsoleKit.Manager.Attached
import ConsoleKit.Manager.Active
import ConsoleKit.Manager.Local

/-! # Observers of the active session

    When the active session of a seat changes, `change_active_session` runs
    the programs of `run-seat.d` one after another, and then emits
    `ActiveSessionChanged` on the bus.  While a program runs, the main loop
    dispatches events, and some of them change the active session again.

    This module provides:
    - `observed`: the main loop with the programs and the signals of the
      active session,
    - `ofSeat_reachable`: for each seat it refines a `Notify.notifier`,
    - `TransitionsInOrder`: programs and signals follow the active session,
    - `transitions_in_order`: they do while the changes of the seat do not
      overlap, and `transitions_overlap`: they do not when they do.
-/

namespace CkManager

open Libc

/-! ## Section 1: Programs and signals -/

/-- The programs with the suffix `.ck` that `ck_run_programs` finds in the two
    directories of `ck_seat_run_programs`, in the order in which it reads them. -/
structure RunSeat where
  programs : List CString
  nodup : programs.Nodup

/-- An emission of `active-session-changed-full` that is being handled. -/
structure ActiveSessionChanged where
  seat : SeatRef
  old_session : Option SessionRef
  session : Option SessionRef
  /-- The programs left to run. -/
  programs : List CString
  child_is_running : Bool

/-- A program that was run for `seat_active_session_changed`, with the
    sessions in its environment. -/
structure Invocation where
  program : CString
  seat : SeatRef
  old_session : Option SessionRef
  session : Option SessionRef

structure Observed where
  loop : MainLoop
  /-- The emissions that are being handled, the last one first. -/
  changes : List ActiveSessionChanged
  invocations : List Invocation
  /-- The `ActiveSessionChanged` signals on the bus: each has the path of its
      session, which never changes. -/
  emitted : List (SeatRef × SessionRef)

inductive ObservedLabel where
  | loop (label : Label)
  /-- The next program is spawned, or cannot be. -/
  | g_spawn_async (res : Bool)
  /-- The program has exited, or its time is up. -/
  | child_exited

/-- The seat whose active session the call sets, and the session. -/
def Call.changes (m : State) : Call → Option (SeatRef × Option SessionRef)
  | .update_active_vt d num =>
      some (d, m.find_session_for_display_device d (State.ck_get_console_device_for_num num))
  | .maybe_update_active_session d =>
      if (m.seat d).kind ≠ .STATIC then none
      else m.ck_vt_monitor_get_active.map fun num =>
        (d, m.find_session_for_display_device d (State.ck_get_console_device_for_num num))
  | _ => none

namespace Observed

/-- The emission whose programs are run now, and the ones below it. -/
def current (o : Observed) : Option (ActiveSessionChanged × List ActiveSessionChanged) :=
  match o.loop.stack with
  | .callout .seat_active_session_changed :: _ => o.changes.head?.map fun n => (n, o.changes.tail)
  | _ => none

/-- `change_active_session` has set the session and emits its signals; the
    manager runs programs only for a seat that it is connected to. -/
def change_active_session (hooks : RunSeat) (o : Observed) (d : SeatRef)
    (session : Option SessionRef) (loop : MainLoop) : Observed :=
  let old_session := (o.loop.state.seat d).active_session
  if old_session = session then { o with loop := loop }
  else if (o.loop.state.seat d).connected then
    { o with
      loop := loop
      changes := ⟨d, old_session, session, hooks.programs, false⟩ :: o.changes }
  else
    { o with loop := loop, emitted := o.emitted ++ (session.map fun x => (d, x)).toList }

/-- The rest of `change_active_session`, after the programs of `n`. -/
def emit_active_session_changed (o : Observed) (n : ActiveSessionChanged)
    (changes : List ActiveSessionChanged) (loop : MainLoop) : Observed :=
  { o with
    loop := loop
    changes := changes
    emitted := o.emitted ++ (n.session.map fun x => (n.seat, x)).toList }

/-- The next program of `ck_run_programs`. -/
def run_program (o : Observed) (n : ActiveSessionChanged) (changes : List ActiveSessionChanged)
    (program : CString) (programs : List CString) (res : Bool) : Observed :=
  { o with
    changes := { n with programs := programs, child_is_running := res } :: changes
    invocations :=
      if res then o.invocations ++ [⟨program, n.seat, n.old_session, n.session⟩]
      else o.invocations }

/-- The main loop makes a step. -/
def loop_next (hooks : RunSeat) (o : Observed) (label : Label) (loop : MainLoop) :
    Option Observed :=
  match label with
  | .dispatch _ =>
      -- the main loop of `ck_run_programs` runs as long as its child
      if o.current.all fun n => n.1.child_is_running then some { o with loop := loop } else none
  | .call =>
      match o.loop.stack.head?.bind fun f => f.changes o.loop.state with
      | some (d, session) => some (o.change_active_session hooks d session loop)
      | none => some { o with loop := loop }
  | .callout_done =>
      match o.current with
      | some (n, changes) =>
        if n.programs.isEmpty && !n.child_is_running then
          some (o.emit_active_session_changed n changes loop)
        else none
      | none => some { o with loop := loop }

def next (hooks : RunSeat) (o : Observed) : ObservedLabel → Option Observed
  | .loop label => (main_loop.next o.loop label).bind (o.loop_next hooks label)
  | .g_spawn_async res =>
      o.current.bind fun (n, changes) =>
        match n.programs with
        | program :: programs =>
          if n.child_is_running then none
          else some (o.run_program n changes program programs res)
        | [] => none
  | .child_exited =>
      o.current.map fun (n, changes) =>
        { o with changes := { n with child_is_running := false } :: changes }

end Observed

def observed (hooks : RunSeat) : LTS.System Observed ObservedLabel where
  init o := main_loop.init o.loop ∧ o = ⟨o.loop, [], [], []⟩
  next := Observed.next hooks

/-! ## Section 2: What its observers see -/

/-- The invocations of a program for a seat. -/
def Observed.invocationsOf (o : Observed) (d : SeatRef) (program : CString) : List Invocation :=
  o.invocations.filter fun i => i.seat = d && i.program = program

/-- The paths in the `ActiveSessionChanged` signals of a seat. -/
def Observed.pathsOf (o : Observed) (d : SeatRef) : List CString :=
  (o.emitted.filter fun e => e.1 = d).map fun e => o.loop.state.ck_session_get_path e.2

/-- Each invocation of a program starts from the session that the one before
    ended at, and when no handler is running, the last signal has the path of
    the active session. -/
structure TransitionsInOrder (o : Observed) (d : SeatRef) : Prop where
  chained : ∀ program,
    (o.invocationsOf d program).IsChain fun i i' => i'.old_session = i.session
  signalled : o.loop.Quiescent → ∀ x, (o.loop.state.seat d).active_session = some x →
    (o.pathsOf d).getLast? = some (o.loop.state.ck_session_get_path x)

/-- The active session of the seat does not change while programs are being
    run for an earlier change of it, and whether a program can be spawned does
    not change. -/
structure InTurn (able : CString → Bool) (d : SeatRef) (o : Observed) (label : ObservedLabel) :
    Prop where
  change : ∀ f rest session, label = .loop .call → o.loop.stack = f :: rest →
    f.changes o.loop.state = some (d, session) →
    (o.loop.state.seat d).active_session ≠ session → ∀ n ∈ o.changes, n.seat ≠ d
  spawn : ∀ n changes program programs res, label = .g_spawn_async res →
    o.current = some (n, changes) → n.seat = d → n.programs = program :: programs →
    res = able program

/-! ## Section 3: Handlers that keep the active sessions -/

/-- None of these calls tells of a new active session. -/
def Untold (calls : List Call) : Prop := .callout .seat_active_session_changed ∉ calls

/-- The seats that do not exist yet. -/
def State.Unused (m : State) : Prop :=
  ∀ d, m.next_seat ≤ d → (m.seat d).active_session = none ∧ (m.seat d).connected = false

/-- A handler or a call that sets no active session, and connects the manager
    to new seats only. -/
structure KeepsActive (m : State) (r : State × List Call) : Prop where
  active : ∀ d, (r.1.seat d).active_session = (m.seat d).active_session
  next_seat : m.next_seat ≤ r.1.next_seat
  connected : ∀ d, (r.1.seat d).connected = true →
    (m.seat d).connected = true ∨ (m.next_seat ≤ d ∧ d < r.1.next_seat)
  calls : Untold r.2

theorem Untold.nil : Untold [] := List.not_mem_nil

theorem Untold.append {calls calls' : List Call} (h : Untold calls) (h' : Untold calls') :
    Untold (calls ++ calls') := by
  intro hmem
  rcases List.mem_append.mp hmem with hmem | hmem
  · exact h hmem
  · exact h' hmem

theorem Untold.map {α : Type} (f : α → Call) (hf : ∀ a, f a ≠ .callout .seat_active_session_changed)
    (as : List α) : Untold (as.map f) := by
  intro hmem
  obtain ⟨a, -, ha⟩ := List.mem_map.mp hmem
  exact hf a ha

namespace KeepsActive

variable {m m' : State} {calls : List Call}

theorem of_seat (hseat : m'.seat = m.seat) (hnext : m'.next_seat = m.next_seat)
    (hcalls : Untold calls) : KeepsActive m (m', calls) where
  active d := by rw [hseat]
  next_seat := Nat.le_of_eq hnext.symm
  connected d hd := .inl (hseat ▸ hd)
  calls := hcalls

theorem of_update {d : SeatRef} {s : CkSeat} (hseat : m'.seat = Function.update m.seat d s)
    (hnext : m'.next_seat = m.next_seat)
    (hactive : s.active_session = (m.seat d).active_session)
    (hconnected : s.connected = true → (m.seat d).connected = true) (hcalls : Untold calls) :
    KeepsActive m (m', calls) := by
  refine ⟨fun d' => ?_, Nat.le_of_eq hnext.symm, fun d' hd' => ?_, hcalls⟩
  · by_cases h : d' = d
    · subst h
      simpa [hseat] using hactive
    · simp [hseat, h]
  · by_cases h : d' = d
    · subst h
      exact .inl (hconnected (by simpa [hseat] using hd'))
    · exact .inl (by simpa [hseat, h] using hd')

theorem newSeat (hunused : m.Unused) {seat : Option SeatRef} (hnew : NewSeat m m' seat)
    (hcalls : Untold calls) : KeepsActive m (m', calls) := by
  refine ⟨fun d => ?_, Nat.le_of_lt (hnew.next_seat ▸ Nat.lt_succ_self _), fun d hd => ?_, hcalls⟩
  · by_cases h : d = m.next_seat
    · rw [h, hnew.no_active, (hunused _ (Nat.le_refl _)).1]
    · rw [hnew.others h]
  · by_cases h : d = m.next_seat
    · exact .inr ⟨Nat.le_of_eq h.symm, h ▸ hnew.next_seat ▸ Nat.lt_succ_self _⟩
    · exact .inl (hnew.others h ▸ hd)

theorem push {r : State × List Call} (h : KeepsActive m r) {calls' : List Call}
    (hcalls : Untold calls') : KeepsActive m (r.1, r.2 ++ calls') :=
  ⟨h.active, h.next_seat, h.connected, h.calls.append hcalls⟩

theorem unused {r : State × List Call} (h : KeepsActive m r) (hunused : m.Unused) :
    r.1.Unused := by
  intro d hd
  obtain ⟨hactive, hconnected⟩ := hunused d (Nat.le_trans h.next_seat hd)
  refine ⟨(h.active d).trans hactive, Bool.eq_false_iff.mpr fun htrue => ?_⟩
  rcases h.connected d htrue with hold | ⟨-, hlt⟩
  · rw [hconnected] at hold
    cases hold
  · exact absurd hd (Nat.not_le_of_lt hlt)

end KeepsActive

namespace State

variable {m : State}

theorem emit_untold (m : State) (d : SeatRef) {action : Callout}
    (haction : action ≠ .seat_active_session_changed) : Untold (m.emit d action) := by
  unfold emit
  split
  · intro hmem
    obtain heq := List.mem_singleton.mp hmem
    exact haction (Call.callout.inj heq).symm
  · exact .nil

/-- Requests to activate a session leave the seats alone. -/
theorem activate_session_on_seat_seat (m : State) (session_id seat_id : CString)
    (switches : Bool) :
    (m.dbus_activate_session_on_seat session_id seat_id switches).seat = m.seat := by
  unfold dbus_activate_session_on_seat
  split
  · exact m.ck_seat_activate_session_seat _ _ switches
  · rfl

theorem dbus_activate_seat (m : State) (x : SessionRef) (switches : Bool) :
    (m.dbus_activate x switches).seat = m.seat := by
  unfold dbus_activate
  generalize (m.session x).activate = seats
  induction seats generalizing m with
  | nil => rfl
  | cons d seats ih => exact (ih _).trans (m.ck_seat_activate_session_seat d (some x) switches)

theorem ck_seat_add_session_keeps (m : State) (seat : Option SeatRef) (x : SessionRef) :
    KeepsActive m (m.ck_seat_add_session seat x) := by
  cases seat with
  | none => exact .of_seat rfl rfl .nil
  | some d =>
    exact .of_update rfl rfl rfl id ((emit_untold _ d (by decide)).append (by simp [Untold]))

theorem ck_seat_remove_session_keeps (m : State) (d : SeatRef) (x : SessionRef) :
    KeepsActive m (m.ck_seat_remove_session d x) := by
  unfold ck_seat_remove_session
  split
  · exact .of_update rfl rfl rfl id ((emit_untold _ d (by decide)).append (by simp [Untold]))
  · exact .of_seat rfl rfl .nil

theorem remove_session_for_cookie_keeps {l : LeaderRef} {caller : RemovalCaller}
    {r : State × List Call} (h : m.remove_session_for_cookie l caller = some r) :
    KeepsActive m r := by
  obtain ⟨x, -, rfl⟩ := Option.map_eq_some_iff.mp h
  split
  · exact (m.ck_seat_remove_session_keeps _ x).push (by simp [Untold])
  · exact .of_seat rfl rfl (by simp [Untold])

theorem remove_seat_keeps (m : State) (d : SeatRef) : KeepsActive m (m.remove_seat d) := by
  unfold remove_seat
  split
  · exact .of_seat rfl rfl .nil
  · rename_i orig _
    exact .of_update rfl rfl rfl (fun hfalse => nomatch hfalse) (by simp [Untold])

theorem add_seat_for_file_keeps (hunused : m.Unused) {file : SeatFile} {r : State × List Call}
    (h : m.add_seat_for_file file = some r) : KeepsActive m r := by
  have hcalls : Untold r.2 := by
    obtain ⟨⟨sid, m₁⟩, -, rfl⟩ := Option.map_eq_some_iff.mp h
    dsimp only [registerSeat]
    split
    · split <;> simp [Untold]
    · exact .nil
  rcases add_seat_for_file_heaps h with ⟨-, hseat, hnext, -⟩ | ⟨seat, hnew⟩
  · exact .of_seat hseat hnext hcalls
  · exact .newSeat hunused hnew hcalls

theorem job_completed_keeps (hunused : m.Unused) {l : LeaderRef} {result : Option Opening}
    {r : State × List Call} (h : m.job_completed l result = some r) : KeepsActive m r := by
  rcases job_completed_cases h with rfl | ⟨o, is_local, seat, calls, -, -, -, -, hr, hseat⟩
  · exact .of_seat rfl rfl .nil
  · have hrest : Untold [.ck_seat_add_session seat m.next_session,
        .session_opened m.next_session is_local] := by simp [Untold]
    rcases hseat with ⟨d, -, -, heq, rfl⟩ | ⟨-, hadd⟩
    · have hkeeps : KeepsActive m (r.1, r.2) := by
        refine .of_seat ?_ ?_ (hr ▸ hrest)
        · rw [heq]
          rfl
        · rw [heq]
          rfl
      exact hkeeps
    · have hcalls : Untold calls := by
        rcases add_new_seat_calls hadd with hnil | ⟨d, hcalls⟩
        · obtain rfl : calls = [] := hnil
          exact .nil
        · obtain rfl : calls = [.callout .seat_added, .seat_added d] := hcalls
          simp [Untold]
      -- the seats are the same before the new session is in the table
      have hkeeps : KeepsActive (m.insertOpened l o) (r.1, r.2) :=
        .newSeat hunused (add_new_seat_new hadd) (hr ▸ hcalls.append hrest)
      exact ⟨hkeeps.active, hkeeps.next_seat, hkeeps.connected, hkeeps.calls⟩

/-- A call that changes no active session. -/
theorem call_keeps (hunused : m.Unused) {f : Call} {r : State × List Call}
    (hf : f.changes m = none) (h : m.call f = some r) : KeepsActive m r := by
  cases f with
  | callout action => cases h
  | load_seats_from_dir files =>
    cases files with
    | nil =>
      cases h
      exact .of_seat rfl rfl .nil
    | cons file files =>
      obtain ⟨r, hr, rfl⟩ := Option.map_eq_some_iff.mp h
      exact (add_seat_for_file_keeps hunused hr).push (by simp [Untold])
  | seat_added d | session_opened x is_local | queue_processed | seat_removed d =>
    cases h
    exact .of_seat rfl rfl .nil
  | ck_seat_add_session seat x =>
    cases h
    exact m.ck_seat_add_session_keeps seat x
  | maybe_update_active_session d =>
    cases h
    unfold maybe_update_active_session
    split
    · exact .of_seat rfl rfl .nil
    · rename_i hkind
      cases hnum : m.ck_vt_monitor_get_active with
      | none => exact .of_seat rfl rfl .nil
      | some num =>
        rw [Call.changes, if_neg hkind, hnum] at hf
        cases hf
  | update_active_vt d num => cases hf
  | remove_dynamic_seat d =>
    cases h
    split
    · exact m.remove_seat_keeps d
    · exact .of_seat rfl rfl .nil
  | remove_session l x caller =>
    cases h
    cases caller <;> exact .of_seat rfl rfl .nil
  | destroy_entity l =>
    cases h
    rcases m.destroy_entity_cases l with ⟨-, heq⟩ | ⟨r, hr, heq⟩
    · rw [heq]
      exact .of_seat rfl rfl .nil
    · rw [heq]
      exact remove_session_for_cookie_keeps hr

/-- A call that sets the active session of a seat. -/
theorem call_changes {f : Call} {d : SeatRef} {session : Option SessionRef}
    {r : State × List Call} (hf : f.changes m = some (d, session)) (h : m.call f = some r) :
    r = m.change_active_session d session ∧
      ∃ num, session = m.find_session_for_display_device d (ck_get_console_device_for_num num) := by
  cases f with
  | update_active_vt d' num =>
    cases h
    cases hf
    exact ⟨rfl, num, rfl⟩
  | maybe_update_active_session d' =>
    cases h
    rw [Call.changes] at hf
    split at hf
    · cases hf
    · rename_i hkind
      obtain ⟨num, hnum, heq⟩ := Option.map_eq_some_iff.mp hf
      cases heq
      refine ⟨?_, num, rfl⟩
      rw [maybe_update_active_session, if_neg hkind, hnum]
      rfl
  | _ => cases hf

theorem dispatch_keeps (hunused : m.Unused) {event : Event} {r : State × List Call}
    (h : m.dispatch event = some r) : KeepsActive m r := by
  cases event with
  | open_session sender caller cookie started =>
    obtain ⟨-, m', hm', rfl⟩ := dispatch_open_session h
    obtain ⟨-, -, -, hseat, hnext, -⟩ := create_session_heaps hm'
    exact .of_seat hseat hnext .nil
  | job_completed l result =>
    obtain ⟨-, h⟩ := dispatch_job_completed h
    exact job_completed_keeps hunused h
  | close_session caller cookie =>
    cases h
    rcases m.dbus_close_session_cases caller cookie with heq | ⟨_, _, l, r, -, -, hr, heq⟩
    · rw [heq]
      exact .of_seat rfl rfl .nil
    · rw [heq]
      exact remove_session_for_cookie_keeps hr
  | name_owner_notify service_name old_service_name new_service_name =>
    cases h
    show KeepsActive m (m.on_name_owner_notify _ _ _)
    unfold on_name_owner_notify
    split
    · exact .of_seat rfl rfl (.map _ (by simp) _)
    · exact .of_seat rfl rfl .nil
  | process_queue num =>
    obtain rfl := dispatch_process_queue h
    unfold process_queue
    split
    · exact .of_seat rfl rfl ((Untold.map _ (by simp) _).append (by simp [Untold]))
    · exact .of_seat rfl rfl .nil
  | seat_activate_session d ssid switches =>
    cases h
    exact .of_seat (m.ck_seat_activate_session_seat d _ switches)
      (m.ck_seat_activate_session_only d _ switches).sameSeats.next_seat .nil
  | seat_switch_to d vtnr switches =>
    cases h
    refine .of_seat ?_ (m.dbus_switch_to_only d vtnr switches).sameSeats.next_seat .nil
    unfold dbus_switch_to
    split
    · exact m.ck_seat_activate_session_seat d _ switches
    · rfl
  | session_activate x switches =>
    cases h
    exact .of_seat (m.dbus_activate_seat x switches)
      (m.dbus_activate_only x switches).sameSeats.next_seat .nil
  | activate_session session_id switches =>
    cases h
    refine .of_seat ?_ (m.dbus_activate_session_only session_id switches).sameSeats.next_seat .nil
    unfold dbus_activate_session
    split
    · split
      · exact m.activate_session_on_seat_seat _ _ switches
      · rfl
    · rfl
  | activate_session_on_seat session_id seat_id switches =>
    cases h
    exact .of_seat (m.activate_session_on_seat_seat session_id seat_id switches)
      (m.dbus_activate_session_on_seat_only session_id seat_id switches).sameSeats.next_seat .nil
  | vt_leave x =>
    cases h
    exact .of_seat rfl rfl .nil

/-! ### Changes of the active session -/

theorem change_active_session_connected (m : State) (d : SeatRef) (session : Option SessionRef)
    (d' : SeatRef) :
    ((m.change_active_session d session).1.seat d').connected = (m.seat d').connected := by
  rw [(m.change_active_session_only d session).1.seat d']

theorem change_active_session_calls {d : SeatRef} {session : Option SessionRef}
    (h : (m.seat d).active_session ≠ session) :
    (m.change_active_session d session).2 =
      if (m.seat d).connected then [.callout .seat_active_session_changed] else [] := by
  rw [← m.change_active_session_connected d session d]
  unfold change_active_session
  rw [if_neg h]
  rfl

theorem change_active_session_keeps {d : SeatRef} {session : Option SessionRef}
    (h : (m.seat d).active_session = session) :
    KeepsActive m (m.change_active_session d session) := by
  unfold change_active_session
  rw [if_pos h]
  refine .of_seat (m.elim_set_active_seat session true) ?_ .nil
  exact (m.elim_set_active_only session true).sameSeats.next_seat

/-- Only a seat that exists has an active session, or a session for one. -/
theorem change_exists {stack : List Call} (hunused : m.Unused) (hseats : SeatsValid m stack)
    {d : SeatRef} {device : CString}
    (hne : (m.seat d).active_session ≠ m.find_session_for_display_device d device) :
    d < m.next_seat := by
  by_contra hnew
  have hnone : (m.seat d).active_session = none := (hunused d (Nat.le_of_not_lt hnew)).1
  cases hfind : m.find_session_for_display_device d device with
  | none => exact hne (hnone.trans hfind.symm)
  | some x =>
    obtain ⟨k, hk⟩ := HashTable.mem_values.mp (find_session_for_display_device_mem hfind)
    exact hnew (hseats.attached (hseats.member hk).2.2)

end State

/-! ## Section 4: Steps -/

/-- What a step does, in one place. -/
inductive ObservedStep (hooks : RunSeat) (o : Observed) : ObservedLabel → Observed → Prop where
  | dispatch : ∀ {event loop}, main_loop.next o.loop (.dispatch event) = some loop →
      ObservedStep hooks o (.loop (.dispatch event)) { o with loop := loop }
  | call : ∀ {f rest loop}, o.loop.stack = f :: rest → f.changes o.loop.state = none →
      main_loop.next o.loop .call = some loop →
      ObservedStep hooks o (.loop .call) { o with loop := loop }
  | change : ∀ {f rest d session loop}, o.loop.stack = f :: rest →
      f.changes o.loop.state = some (d, session) → main_loop.next o.loop .call = some loop →
      ObservedStep hooks o (.loop .call) (o.change_active_session hooks d session loop)
  | callout_done : ∀ {loop}, o.current = none → main_loop.next o.loop .callout_done = some loop →
      ObservedStep hooks o (.loop .callout_done) { o with loop := loop }
  | emit : ∀ {n changes loop}, o.current = some (n, changes) → n.programs = [] →
      main_loop.next o.loop .callout_done = some loop →
      ObservedStep hooks o (.loop .callout_done) (o.emit_active_session_changed n changes loop)
  | run_program : ∀ {n changes program programs res}, o.current = some (n, changes) →
      n.programs = program :: programs →
      ObservedStep hooks o (.g_spawn_async res) (o.run_program n changes program programs res)
  | child_exited : ∀ {n changes}, o.current = some (n, changes) →
      ObservedStep hooks o .child_exited
        { o with changes := { n with child_is_running := false } :: changes }

variable {hooks : RunSeat} {o o' : Observed}

theorem observed_step {label : ObservedLabel} (h : (observed hooks).next o label = some o') :
    ObservedStep hooks o label o' := by
  cases label with
  | loop label =>
    obtain ⟨loop, hloop, hnext⟩ := Option.bind_eq_some_iff.mp h
    cases label with
    | dispatch event =>
      obtain ⟨-, heq⟩ := Option.ite_none_right_eq_some.mp hnext
      obtain rfl := Option.some.inj heq
      exact .dispatch hloop
    | call =>
      cases hstack : o.loop.stack with
      | nil =>
        simp [main_loop, main_loop_next, hstack] at hloop
      | cons f rest =>
        simp only [Observed.loop_next, hstack, List.head?_cons, Option.bind_some] at hnext
        split at hnext
        · rename_i d session hf
          obtain rfl := Option.some.inj hnext
          exact .change hstack hf hloop
        · rename_i hf
          obtain rfl := Option.some.inj hnext
          exact .call hstack hf hloop
    | callout_done =>
      simp only [Observed.loop_next] at hnext
      split at hnext
      · rename_i n changes hcurrent
        obtain ⟨hdone, heq⟩ := Option.ite_none_right_eq_some.mp hnext
        obtain rfl := Option.some.inj heq
        exact .emit hcurrent (List.isEmpty_iff.mp (Bool.and_eq_true_iff.mp hdone).1) hloop
      · rename_i hcurrent
        obtain rfl := Option.some.inj hnext
        exact .callout_done hcurrent hloop
  | g_spawn_async res =>
    obtain ⟨⟨n, changes⟩, hcurrent, hnext⟩ := Option.bind_eq_some_iff.mp h
    dsimp only at hnext
    split at hnext
    · rename_i program programs hprograms
      obtain ⟨-, heq⟩ := Option.ite_none_left_eq_some.mp hnext
      obtain rfl := Option.some.inj heq
      exact .run_program hcurrent hprograms
    · cases hnext
  | child_exited =>
    obtain ⟨⟨n, changes⟩, hcurrent, rfl⟩ := Option.map_eq_some_iff.mp h
    exact .child_exited hcurrent

theorem current_eq_some {n : ActiveSessionChanged} {changes : List ActiveSessionChanged}
    (h : o.current = some (n, changes)) :
    o.changes = n :: changes ∧
      ∃ rest, o.loop.stack = .callout .seat_active_session_changed :: rest := by
  unfold Observed.current at h
  split at h
  · rename_i rest hstack
    refine ⟨?_, rest, hstack⟩
    cases hchanges : o.changes with
    | nil => simp [hchanges] at h
    | cons n' changes' =>
      simp only [hchanges, List.head?_cons, Option.map_some, List.tail_cons] at h
      cases h
      rfl
  · cases h

/-- Emissions are about seats that exist, and each has its callout on the
    stack. -/
structure ObservedValid (o : Observed) : Prop where
  unused : o.loop.state.Unused
  changes : ∀ n ∈ o.changes, n.seat < o.loop.state.next_seat
  invocations : ∀ i ∈ o.invocations, i.seat < o.loop.state.next_seat
  stacked : o.changes.length = o.loop.stack.count (.callout .seat_active_session_changed)

theorem count_untold {calls : List Call} (h : Untold calls) (stack : List Call) :
    (calls ++ stack).count (.callout .seat_active_session_changed) =
      stack.count (.callout .seat_active_session_changed) := by
  rw [List.count_append, List.count_eq_zero.mpr h, Nat.zero_add]

namespace ObservedValid

/-- A step that changes no active session. -/
theorem keep (h : ObservedValid o) {r : State × List Call} {rest : List Call}
    (hkeeps : KeepsActive o.loop.state r)
    (hrest : rest.count (.callout .seat_active_session_changed) =
      o.loop.stack.count (.callout .seat_active_session_changed)) :
    ObservedValid { o with loop := ⟨r.1, r.2 ++ rest⟩ } where
  unused := hkeeps.unused h.unused
  changes n hn := Nat.lt_of_lt_of_le (h.changes n hn) hkeeps.next_seat
  invocations i hi := Nat.lt_of_lt_of_le (h.invocations i hi) hkeeps.next_seat
  stacked := by
    rw [h.stacked, count_untold hkeeps.calls rest, hrest]

theorem change (h : ObservedValid o) (hseats : SeatsValid o.loop.state o.loop.stack)
    {d : SeatRef} {session : Option SessionRef} {rest : List Call} {num : Nat}
    (hfind : session = o.loop.state.find_session_for_display_device d
      (State.ck_get_console_device_for_num num))
    (hrest : rest.count (.callout .seat_active_session_changed) =
      o.loop.stack.count (.callout .seat_active_session_changed)) :
    ObservedValid (o.change_active_session hooks d session
      ⟨(o.loop.state.change_active_session d session).1,
        (o.loop.state.change_active_session d session).2 ++ rest⟩) := by
  unfold Observed.change_active_session
  dsimp only
  split
  · rename_i heq
    exact h.keep (State.change_active_session_keeps heq) hrest
  · rename_i hne
    have hexists : d < o.loop.state.next_seat := State.change_exists h.unused hseats (hfind ▸ hne)
    have hnext := (o.loop.state.change_active_session_only d session).1.sameSeats.next_seat
    have hunused : (o.loop.state.change_active_session d session).1.Unused := by
      intro d' hd'
      rw [hnext] at hd'
      have hother : d' ≠ d := fun heq => Nat.not_le_of_lt hexists (heq ▸ hd')
      rw [State.change_active_session_connected, State.change_active_session_pointer hne,
        if_neg hother]
      exact h.unused d' hd'
    rw [State.change_active_session_calls hne]
    split
    · refine ⟨hunused, fun n hn => ?_, fun i hi => ?_, ?_⟩
      · rcases List.mem_cons.mp hn with rfl | hn
        · exact hnext ▸ hexists
        · exact hnext ▸ h.changes n hn
      · exact hnext ▸ h.invocations i hi
      · simp [h.stacked, hrest]
    · refine ⟨hunused, fun n hn => hnext ▸ h.changes n hn,
        fun i hi => hnext ▸ h.invocations i hi, ?_⟩
      simp [h.stacked, hrest]

theorem step {label : ObservedLabel} (h : ObservedValid o)
    (hseats : SeatsValid o.loop.state o.loop.stack) (hstep : ObservedStep hooks o label o') :
    ObservedValid o' := by
  cases hstep with
  | dispatch hloop =>
    cases main_loop_step hloop with
    | dispatch _ hr => exact h.keep (State.dispatch_keeps h.unused hr) rfl
  | @call f rest loop hstack hf hloop =>
    cases main_loop_step hloop with
    | call hstack' hr =>
      obtain ⟨rfl, rfl⟩ := List.cons.inj (hstack.symm.trans hstack')
      have hcallout : f ≠ .callout .seat_active_session_changed := by
        rintro rfl
        cases hr
      refine h.keep (State.call_keeps h.unused hf hr) ?_
      rw [hstack, List.count_cons_of_ne hcallout]
  | @change f rest d session loop hstack hf hloop =>
    cases main_loop_step hloop with
    | call hstack' hr =>
      obtain ⟨rfl, rfl⟩ := List.cons.inj (hstack.symm.trans hstack')
      have hcallout : f ≠ .callout .seat_active_session_changed := by
        rintro rfl
        cases hr
      obtain ⟨rfl, num, hfind⟩ := State.call_changes hf hr
      refine h.change hseats hfind ?_
      rw [hstack, List.count_cons_of_ne hcallout]
  | callout_done hcurrent hloop =>
    cases main_loop_step hloop with
    | @callout_done action rest hstack =>
      refine ⟨h.unused, h.changes, h.invocations, ?_⟩
      -- No emission is under way, so this callout is of another kind.
      have hstacked := h.stacked
      rw [hstack] at hstacked
      by_cases haction : action = .seat_active_session_changed
      · -- such a callout belongs to an emission
        subst haction
        simp only [Observed.current, hstack, Option.map_eq_none_iff, List.head?_eq_none_iff]
          at hcurrent
        simp [hcurrent] at hstacked
      · rw [hstacked, List.count_cons_of_ne fun heq => haction (Call.callout.inj heq)]
  | @emit n changes loop hcurrent _ hloop =>
    obtain ⟨hchanges, rest', hstack'⟩ := current_eq_some hcurrent
    cases main_loop_step hloop with
    | callout_done hstack =>
      obtain ⟨-, rfl⟩ := List.cons.inj (hstack'.symm.trans hstack)
      refine ⟨h.unused, fun n' hn' => ?_, h.invocations, ?_⟩
      · exact h.changes n' (hchanges ▸ List.mem_cons_of_mem n hn')
      · -- The callout and its change leave together.
        have hstacked := h.stacked
        rw [hchanges, hstack', List.length_cons, List.count_cons_self] at hstacked
        exact Nat.succ.inj hstacked
  | @run_program n changes program programs res hcurrent hprograms =>
    obtain ⟨hchanges, -⟩ := current_eq_some hcurrent
    have hn : n.seat < o.loop.state.next_seat := h.changes n (hchanges ▸ List.mem_cons_self)
    refine ⟨h.unused, fun n' hn' => ?_, fun i hi => ?_, ?_⟩
    · rcases List.mem_cons.mp hn' with rfl | hn'
      · exact hn
      · exact h.changes n' (hchanges ▸ List.mem_cons_of_mem n hn')
    · simp only [Observed.run_program] at hi
      split at hi
      · rcases List.mem_append.mp hi with hi | hi
        · exact h.invocations i hi
        · rw [List.mem_singleton.mp hi]
          exact hn
      · exact h.invocations i hi
    · exact (congrArg List.length hchanges).symm.trans h.stacked
  | @child_exited n changes hcurrent =>
    obtain ⟨hchanges, -⟩ := current_eq_some hcurrent
    refine ⟨h.unused, fun n' hn' => ?_, h.invocations, ?_⟩
    · rcases List.mem_cons.mp hn' with rfl | hn'
      · exact h.changes n (hchanges ▸ List.mem_cons_self)
      · exact h.changes n' (hchanges ▸ List.mem_cons_of_mem n hn')
    · exact (congrArg List.length hchanges).symm.trans h.stacked

end ObservedValid

/-- The main loop by itself makes the same steps. -/
theorem loop_reachable {ok : Observed → ObservedLabel → Prop}
    (h : (observed hooks).ReachableBy ok o) : main_loop.Reachable o.loop := by
  refine h.project Observed.loop (fun o (hinit : (observed hooks).init o) => hinit.1)
    fun o label o' _ hnext => ?_
  cases observed_step hnext with
  | dispatch hloop | call _ _ hloop | callout_done _ hloop | emit _ _ hloop =>
    exact .inr ⟨_, trivial, hloop⟩
  | @change f rest d session loop _ _ hloop =>
    refine .inr ⟨.call, trivial, ?_⟩
    unfold Observed.change_active_session
    dsimp only
    split
    · exact hloop
    · split <;> exact hloop
  | run_program | child_exited => exact .inl rfl

theorem observedValid {ok : Observed → ObservedLabel → Prop}
    (h : (observed hooks).ReachableBy ok o) : ObservedValid o := by
  induction h with
  | init hinit =>
    obtain ⟨⟨vfd, active_num, files, hloop⟩, heq⟩ := hinit
    rw [heq, hloop]
    exact ⟨fun _ _ => ⟨rfl, rfl⟩, by simp, by simp, rfl⟩
  | step h _ hnext ih => exact ih.step (seatsValid (loop_reachable h)) (observed_step hnext)

/-! ## Section 5: Each seat is a notifier -/

/-- The active session of a seat, its observers and the signals about it. -/
def Observed.ofSeat (o : Observed) (d : SeatRef) :
    Notify.State CString (Option SessionRef) SessionRef where
  listening := (o.loop.state.seat d).connected
  value := (o.loop.state.seat d).active_session
  changes := o.changes.filterMap fun n =>
    if n.seat = d then some ⟨n.old_session, n.session, n.programs⟩ else none
  calls := o.invocations.filterMap fun i =>
    if i.seat = d then some (i.program, i.old_session, i.session) else none
  announced := o.emitted.filterMap fun e => if e.1 = d then some e.2 else none

/-- Without a session, no signal is emitted. -/
abbrev RunSeat.notifier (hooks : RunSeat) :=
  Notify.notifier hooks.programs (id : Option SessionRef → Option SessionRef)

section
variable {able : CString → Bool} {d : SeatRef}

/-- The manager starts to listen to a new seat, or stops to listen. -/
theorem listening_reachable {ok : Notify.State CString (Option SessionRef) SessionRef →
      Notify.Label (Option SessionRef) → Prop}
    (hok : ∀ n, ok n .join ∧ ok n .leave)
    (h : hooks.notifier.ReachableBy ok (o.ofSeat d)) (hvalid : ObservedValid o)
    {r : State × List Call} (hkeeps : KeepsActive o.loop.state r) (stack : List Call) :
    hooks.notifier.ReachableBy ok
      (Observed.ofSeat { o with loop := ⟨r.1, stack⟩ } d) := by
  have hactive := hkeeps.active d
  have heq : Observed.ofSeat { o with loop := ⟨r.1, stack⟩ } d =
      { o.ofSeat d with listening := (r.1.seat d).connected } := by
    simp only [Observed.ofSeat, hactive]
  rw [heq]
  cases hnew : (r.1.seat d).connected with
  | false => exact h.step (hok _).2 rfl
  | true =>
    rcases hkeeps.connected d hnew with hold | ⟨hfresh, -⟩
    · have hsame : { o.ofSeat d with listening := true } = o.ofSeat d := by
        rw [← hold]
        rfl
      rw [hsame]
      exact h
    · -- nobody was told of a seat that did not exist
      have hchanges : (o.ofSeat d).changes = [] := by
        apply List.filterMap_eq_nil_iff.mpr
        intro n hn
        rw [if_neg (Nat.ne_of_lt (Nat.lt_of_lt_of_le (hvalid.changes n hn) hfresh))]
      have hcalls : (o.ofSeat d).calls = [] := by
        apply List.filterMap_eq_nil_iff.mpr
        intro i hi
        rw [if_neg (Nat.ne_of_lt (Nat.lt_of_lt_of_le (hvalid.invocations i hi) hfresh))]
      refine h.step (hok _).1 ?_
      simp [Notify.notifier, Notify.next, hchanges, hcalls]

/-- The emission that is being handled, if it is about the seat. -/
theorem ofSeat_cons {n : ActiveSessionChanged} {changes : List ActiveSessionChanged}
    (hchanges : o.changes = n :: changes) (heq : n.seat = d) :
    o.ofSeat d = { o.ofSeat d with
      changes := ⟨n.old_session, n.session, n.programs⟩ ::
        changes.filterMap fun n =>
          if n.seat = d then some ⟨n.old_session, n.session, n.programs⟩ else none } := by
  simp only [Observed.ofSeat, hchanges, List.filterMap_cons, if_pos heq]

/-- A change of another seat. -/
theorem ofSeat_change_other {d' : SeatRef} (hother : d' ≠ d) (session : Option SessionRef)
    (stack : List Call) :
    (o.change_active_session hooks d' session
      ⟨(o.loop.state.change_active_session d' session).1, stack⟩).ofSeat d = o.ofSeat d := by
  have hconnected := o.loop.state.change_active_session_connected d' session d
  have hactive : ((o.loop.state.change_active_session d' session).1.seat d).active_session =
      (o.loop.state.seat d).active_session := by
    by_cases heq : (o.loop.state.seat d').active_session = session
    · exact (State.change_active_session_keeps heq).active d
    · rw [State.change_active_session_pointer heq, if_neg hother.symm]
  unfold Observed.change_active_session
  dsimp only
  split
  · simp only [Observed.ofSeat, hconnected, hactive]
  · split
    · simp only [Observed.ofSeat, hconnected, hactive, List.filterMap_cons, if_neg hother]
    · cases session <;>
        simp [Observed.ofSeat, hconnected, hactive, List.filterMap_append, hother]

/-- A change of the seat: a change of its value, which is announced at once
    if nobody listens. -/
theorem change_reachable
    (h : hooks.notifier.ReachableBy (Notify.OneAtATime able) (o.ofSeat d))
    (hvalid : ObservedValid o) {session : Option SessionRef} (stack : List Call)
    (hturn : (o.loop.state.seat d).active_session ≠ session → ∀ n ∈ o.changes, n.seat ≠ d) :
    hooks.notifier.ReachableBy (Notify.OneAtATime able)
      ((o.change_active_session hooks d session
        ⟨(o.loop.state.change_active_session d session).1, stack⟩).ofSeat d) := by
  by_cases hsame : (o.loop.state.seat d).active_session = session
  · have hkeeps := State.change_active_session_keeps (m := o.loop.state) hsame
    have hloop := listening_reachable (fun _ => ⟨trivial, trivial⟩) h hvalid hkeeps stack
    simpa only [Observed.change_active_session, if_pos hsame] using hloop
  · have hidle : (o.ofSeat d).changes = [] := by
      apply List.filterMap_eq_nil_iff.mpr
      intro n hn
      rw [if_neg (hturn hsame n hn)]
    have hactive : ((o.loop.state.change_active_session d session).1.seat d).active_session =
        session := by
      rw [State.change_active_session_pointer hsame, if_pos rfl]
    have hconnected := o.loop.state.change_active_session_connected d session d
    -- the value changes
    have hchange : hooks.notifier.next (o.ofSeat d) (.change session) =
        some { o.ofSeat d with
          value := session
          changes := ⟨(o.loop.state.seat d).active_session, session,
            if (o.loop.state.seat d).connected then hooks.programs else []⟩ ::
              (o.ofSeat d).changes } := by
      have hne : (o.ofSeat d).value ≠ session := hsame
      simp only [RunSeat.notifier, Notify.notifier, Notify.next, if_neg hne]
      rfl
    have hchanged := h.step (show Notify.OneAtATime able _ (.change session) from hidle) hchange
    cases hlistening : (o.loop.state.seat d).connected with
    | true =>
      rw [hlistening] at hchanged
      simpa [Observed.change_active_session, hsame, hlistening, Observed.ofSeat, hactive,
        hconnected] using hchanged
    | false =>
      rw [hlistening] at hchanged
      have hannounced :=
        hchanged.step (show Notify.OneAtATime able _ .announce from trivial) rfl
      cases session <;>
        simpa [Observed.change_active_session, hsame, hlistening, Observed.ofSeat, hactive,
          hconnected, List.filterMap_append] using hannounced

/-- For every seat, the daemon refines the notifier of its active session. -/
theorem ofSeat_reachable (h : (observed hooks).ReachableBy (InTurn able d) o) :
    hooks.notifier.ReachableBy (Notify.OneAtATime able) (o.ofSeat d) := by
  induction h with
  | init hinit =>
    obtain ⟨⟨vfd, active_num, files, hloop⟩, heq⟩ := hinit
    rw [heq, hloop]
    exact .init ⟨false, none, rfl, rfl⟩
  | @step o label o' h hok hnext ih =>
    have hvalid := observedValid h
    cases observed_step hnext with
    | dispatch hloop =>
      cases main_loop_step hloop with
      | dispatch _ hr =>
        exact listening_reachable (fun _ => ⟨trivial, trivial⟩) ih hvalid
          (State.dispatch_keeps hvalid.unused hr) _
    | call hstack hf hloop =>
      cases main_loop_step hloop with
      | call hstack' hr =>
        obtain ⟨rfl, rfl⟩ := List.cons.inj (hstack.symm.trans hstack')
        exact listening_reachable (fun _ => ⟨trivial, trivial⟩) ih hvalid
          (State.call_keeps hvalid.unused hf hr) _
    | @change f rest d' session loop hstack hf hloop =>
      cases main_loop_step hloop with
      | call hstack' hr =>
        obtain ⟨rfl, rfl⟩ := List.cons.inj (hstack.symm.trans hstack')
        obtain ⟨rfl, -⟩ := State.call_changes hf hr
        -- The notifier of a seat sees the changes of that seat only.
        by_cases heq : d' = d
        · subst heq
          exact change_reachable ih hvalid _ (hok.change f rest session rfl hstack hf)
        · rw [ofSeat_change_other heq]
          exact ih
    | callout_done _ hloop =>
      cases main_loop_step hloop with
      | callout_done _ => exact ih
    | @emit n changes loop hcurrent hprograms hloop =>
      obtain ⟨hchanges, -⟩ := current_eq_some hcurrent
      cases main_loop_step hloop with
      | @callout_done _ rest _ =>
        by_cases heq : n.seat = d
        · -- The programs are through, and the change is announced.
          refine ih.step (show Notify.OneAtATime able _ .announce from trivial) ?_
          rw [ofSeat_cons hchanges heq, hprograms]
          cases hsession : n.session <;>
            simp [Notify.notifier, Notify.next, Observed.emit_active_session_changed,
              Observed.ofSeat, hsession, heq, List.filterMap_append]
        · have hsame : (o.emit_active_session_changed n changes ⟨o.loop.state, rest⟩).ofSeat d =
              o.ofSeat d := by
            cases n.session <;>
              simp [Observed.emit_active_session_changed, Observed.ofSeat, hchanges, heq,
                List.filterMap_append]
          rw [hsame]
          exact ih
    | @run_program n changes program programs res hcurrent hprograms =>
      obtain ⟨hchanges, -⟩ := current_eq_some hcurrent
      by_cases heq : n.seat = d
      · have hable := hok.spawn n changes program programs res rfl hcurrent heq hprograms
        -- The first program of the first change has its turn in the notifier, too.
        have hturn : Notify.OneAtATime able (o.ofSeat d) (.notify res) := by
          intro c hc p hp
          rw [ofSeat_cons hchanges heq, hprograms] at hc
          obtain rfl := Option.some.inj hc
          obtain rfl := Option.some.inj hp
          exact hable
        refine ih.step hturn ?_
        rw [ofSeat_cons hchanges heq, hprograms]
        cases res <;>
          simp [Notify.notifier, Notify.next, Observed.run_program, Observed.ofSeat, heq,
            List.filterMap_append]
      · have hsame : (o.run_program n changes program programs res).ofSeat d = o.ofSeat d := by
          cases res <;>
            simp [Observed.run_program, Observed.ofSeat, hchanges, heq, List.filterMap_append]
        rw [hsame]
        exact ih
    | @child_exited n changes hcurrent =>
      obtain ⟨hchanges, -⟩ := current_eq_some hcurrent
      have hsame : Observed.ofSeat
          { o with changes := { n with child_is_running := false } :: changes } d =
            o.ofSeat d := by
        simp only [Observed.ofSeat, hchanges, List.filterMap_cons]
      rw [hsame]
      exact ih

end

/-! ## Section 6: Transitions in order -/

section
variable {able : CString → Bool} {d : SeatRef}

theorem callsOf_ofSeat (o : Observed) (d : SeatRef) (program : CString) :
    (o.ofSeat d).callsOf program =
      (o.invocationsOf d program).map fun i => (i.old_session, i.session) := by
  simp only [Notify.State.callsOf, Observed.ofSeat, Observed.invocationsOf,
    List.filterMap_filterMap]
  rw [← List.filterMap_eq_map, List.filterMap_filter]
  refine List.filterMap_congr fun i _ => ?_
  by_cases hseat : i.seat = d <;> by_cases hprogram : i.program = program <;>
    simp [hseat, hprogram]

theorem pathsOf_ofSeat (o : Observed) (d : SeatRef) :
    o.pathsOf d = (o.ofSeat d).announced.map o.loop.state.ck_session_get_path := by
  simp only [Observed.pathsOf, Observed.ofSeat]
  induction o.emitted with
  | nil => rfl
  | cons e emitted ih =>
    by_cases heq : e.1 = d
    · simp [heq, ih]
    · simp [heq, ih]

theorem transitions_in_order (hooks : RunSeat) (able : CString → Bool) (d : SeatRef)
    {o : Observed} (h : (observed hooks).ReachableBy (InTurn able d) o) :
    TransitionsInOrder o d := by
  have horder := Notify.in_order hooks.nodup (ofSeat_reachable h)
  constructor
  · intro program
    have hchained := horder.chained program
    rw [callsOf_ofSeat] at hchained
    exact (List.isChain_map _).mp hchained
  · intro hquiet x hactive
    have hidle : (o.ofSeat d).changes = [] := by
      have hstacked := (observedValid h).stacked
      rw [show o.loop.stack = [] from hquiet] at hstacked
      have hnone : o.changes = [] := List.eq_nil_of_length_eq_zero hstacked
      simp [Observed.ofSeat, hnone]
    rw [pathsOf_ofSeat, List.getLast?_map, horder.announced hidle x hactive]
    rfl

end

/-- A daemon with one program, about to load one static seat. -/
def one_program : RunSeat := ⟨[cstr "udev-acl.ck"], List.nodup_singleton _⟩

def one_seat_observed : Observed := ⟨one_seat, [], [], []⟩

/-- A session opens on VT 1, and becomes the active one; its program is left
    to run. -/
def session_activated : List ObservedLabel :=
  (seat_loaded ++ [Label.dispatch (.open_session (cstr ":1.5") (some (1000, 7)) (cstr "c1") true),
    .dispatch (.job_completed 0 (some (text_session 1))), .call, .callout_done, .call]).map .loop

/-- A session opens on VT 2, and VT 2 becomes active; its program is left to
    run. -/
def second_activated : List ObservedLabel :=
  [Label.dispatch (.open_session (cstr ":1.6") (some (1000, 8)) (cstr "c2") true),
    .dispatch (.job_completed 1 (some (text_session 2))), .call, .callout_done, .call, .call,
    .dispatch (.process_queue 2), .call].map .loop

/-- The program exits, and the handler that waits for it returns. -/
def program_exits : List ObservedLabel := [.child_exited, .loop .callout_done, .loop .call]

/-- The test that no active session changes while a program runs. -/
def in_turn (o : Observed) : ObservedLabel → Bool
  | .loop .call => o.changes.isEmpty
  | .g_spawn_async res => res
  | _ => true

theorem in_turn_sound {label : ObservedLabel} (htest : in_turn o label = true) (d : SeatRef) :
    InTurn (fun _ => true) d o label := by
  constructor
  · intro f rest session hlabel _ _ _ n hn
    subst hlabel
    have hnone : o.changes = [] := List.isEmpty_iff.mp htest
    rw [hnone] at hn
    cases hn
  · intro n changes program programs res hlabel _ _ _
    subst hlabel
    exact htest

theorem one_seat_observed_reachable (ok : Observed → ObservedLabel → Prop) :
    (observed one_program).ReachableBy ok one_seat_observed :=
  .init ⟨⟨true, 1, [⟨true, true⟩], rfl⟩, rfl⟩

/-- The VT is switched after the program of the first session has exited. -/
theorem transitions_in_order_console :
    ∃ o, (observed one_program).runBy in_turn one_seat_observed
      (session_activated ++ [.g_spawn_async true] ++ program_exits ++ second_activated ++
        [.g_spawn_async true] ++ program_exits) = some o ∧
      o.loop.Quiescent ∧ (o.loop.state.seat 0).active_session = some 1 ∧
      (o.invocationsOf 0 (cstr "udev-acl.ck")).length = 2 ∧ TransitionsInOrder o 0 := by
  have hrun : ((observed one_program).runBy in_turn one_seat_observed
      (session_activated ++ [.g_spawn_async true] ++ program_exits ++ second_activated ++
        [.g_spawn_async true] ++ program_exits)).map
      (fun o => (o.loop.stack, (o.loop.state.seat 0).active_session,
        (o.invocationsOf 0 (cstr "udev-acl.ck")).length)) = some ([], some 1, 2) := by
    decide +kernel
  obtain ⟨o, ho, heq⟩ := Option.map_eq_some_iff.mp hrun
  simp only [Prod.mk.injEq] at heq
  obtain ⟨hstack, hactive, hlength⟩ := heq
  exact ⟨o, ho, hstack, hactive, hlength, transitions_in_order one_program (fun _ => true) 0
    ((one_seat_observed_reachable _).runBy (fun _ _ _ htest => in_turn_sound htest 0) ho)⟩

/-- The VT is switched while the program of the first session runs: the last
    signal is about the session that is not active any more. -/
theorem transitions_overlap :
    ∃ o, (observed one_program).run one_seat_observed
      (session_activated ++ [.g_spawn_async true] ++ second_activated ++ [.g_spawn_async true] ++
        program_exits ++ program_exits) = some o ∧
      (observed one_program).Reachable o ∧ o.loop.Quiescent ∧
      (o.loop.state.seat 0).kind = .STATIC ∧ (o.loop.state.seat 0).active_session = some 1 ∧
      o.pathsOf 0 = [cstr "/org/freedesktop/ConsoleKit/Session2",
        cstr "/org/freedesktop/ConsoleKit/Session1"] ∧
      o.loop.state.ck_session_get_path 1 = cstr "/org/freedesktop/ConsoleKit/Session2" ∧
      ¬ TransitionsInOrder o 0 := by
  have hrun : ((observed one_program).run one_seat_observed
      (session_activated ++ [.g_spawn_async true] ++ second_activated ++ [.g_spawn_async true] ++
        program_exits ++ program_exits)).any (fun o =>
          o.loop.stack = [] && (o.loop.state.seat 0).kind = .STATIC &&
          (o.loop.state.seat 0).active_session = some 1 &&
          o.pathsOf 0 = [cstr "/org/freedesktop/ConsoleKit/Session2",
            cstr "/org/freedesktop/ConsoleKit/Session1"] &&
          o.loop.state.ck_session_get_path 1 =
            cstr "/org/freedesktop/ConsoleKit/Session2") = true := by
    decide +kernel
  obtain ⟨o, ho, hcheck⟩ := (Option.any_eq_true ..).mp hrun
  simp only [Bool.and_eq_true, decide_eq_true_eq] at hcheck
  obtain ⟨⟨⟨⟨hstack, hkind⟩, hactive⟩, hpaths⟩, hpath⟩ := hcheck
  refine ⟨o, ho, LTS.System.Reachable.run (one_seat_observed_reachable _) ho, hstack, hkind,
    hactive, hpaths, hpath, fun horder => ?_⟩
  have hlast := horder.signalled hstack 1 hactive
  rw [hpaths, hpath] at hlast
  exact absurd hlast (by decide)

end CkManager
