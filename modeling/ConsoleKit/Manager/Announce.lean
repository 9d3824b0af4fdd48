import ConsoleKit.Framework.Feed
import ConsoleKit.Manager.Attached

/-! # What the manager announces

    Seats and sessions enter and leave the tables of the manager at other
    times than the bus is told of it: programs are run in between, and the
    main loop dispatches further events meanwhile.

    This module provides:
    - `SeatStep` and `SessionStep`: what a step does to the tables, to the
      signals and to what is still to be announced,
    - `AnnouncesValid`: what is announced is in its table.
-/

namespace CkManager

open Libc LTS Feed

/-! ## Section 1: Signals and what is left to announce -/

def ManagerSignal.seat_change : ManagerSignal → Option (Change SeatRef)
  | .SeatAdded d => some (.added d)
  | .SeatRemoved d => some (.removed d)
  | _ => none

def ManagerSignal.session_change : ManagerSignal → Option (Change SessionRef)
  | .SessionNew x => some (.added x)
  | .SessionRemoved x => some (.removed x)
  | _ => none

def State.seat_changes (m : State) : List (Change SeatRef) :=
  m.signals.filterMap ManagerSignal.seat_change

def State.session_changes (m : State) : List (Change SessionRef) :=
  m.signals.filterMap ManagerSignal.session_change

def Call.adds : Call → Option SeatRef
  | .seat_added d => some d
  | _ => none

def Call.removes : Call → Option SeatRef
  | .seat_removed d => some d
  | _ => none

def Call.opens : Call → Option SessionRef
  | .session_opened x _ => some x
  | _ => none

/-- The call emits a signal when it is made. -/
def Call.Announces : Call → Prop
  | .seat_added _ | .seat_removed _ | .session_opened .. => True
  | _ => False

/-- The seats whose programs are run before they are announced. -/
def adding (stack : List Call) : List SeatRef := stack.filterMap Call.adds

def retiring (stack : List Call) : List SeatRef := stack.filterMap Call.removes

/-- The sessions that are not announced yet. -/
def opened (stack : List Call) : List SessionRef := stack.filterMap Call.opens

def Silent (calls : List Call) : Prop := ∀ f ∈ calls, ¬ f.Announces

theorem Silent.nil : Silent [] := List.forall_mem_nil _

theorem Silent.append {calls calls' : List Call} (h : Silent calls) (h' : Silent calls') :
    Silent (calls ++ calls') := List.forall_mem_append.mpr ⟨h, h'⟩

theorem Silent.of_append {calls : List Call} (h : Silent calls) (stack : List Call) :
    adding (calls ++ stack) = adding stack ∧ retiring (calls ++ stack) = retiring stack ∧
      opened (calls ++ stack) = opened stack := by
  have hnone : ∀ f ∈ calls, f.adds = none ∧ f.removes = none ∧ f.opens = none := by
    intro f hf
    have hno := h f hf
    cases f with
    | seat_added | seat_removed | session_opened => exact absurd trivial hno
    | _ => exact ⟨rfl, rfl, rfl⟩
  have hnil {β : Type} {f : Call → Option β} (hf : ∀ g ∈ calls, f g = none) :
      (calls ++ stack).filterMap f = stack.filterMap f := by
    rw [List.filterMap_append, List.filterMap_eq_nil_iff.mpr hf, List.nil_append]
  exact ⟨hnil fun f hf => (hnone f hf).1, hnil fun f hf => (hnone f hf).2.1,
    hnil fun f hf => (hnone f hf).2.2⟩

theorem mem_adding {d : SeatRef} {stack : List Call} :
    d ∈ adding stack ↔ .seat_added d ∈ stack := by
  simp only [adding, List.mem_filterMap]
  constructor
  · rintro ⟨f, hf, hadds⟩
    cases f <;> cases hadds
    exact hf
  · exact fun h => ⟨_, h, rfl⟩

theorem mem_retiring {d : SeatRef} {stack : List Call} :
    d ∈ retiring stack ↔ .seat_removed d ∈ stack := by
  simp only [retiring, List.mem_filterMap]
  constructor
  · rintro ⟨f, hf, hremoves⟩
    cases f <;> cases hremoves
    exact hf
  · exact fun h => ⟨_, h, rfl⟩

theorem mem_opened {x : SessionRef} {stack : List Call} :
    x ∈ opened stack ↔ ∃ is_local, .session_opened x is_local ∈ stack := by
  simp only [opened, List.mem_filterMap]
  constructor
  · rintro ⟨f, hf, hopens⟩
    cases f <;> cases hopens
    exact ⟨_, hf⟩
  · exact fun ⟨_, h⟩ => ⟨_, h, rfl⟩

/-! ## Section 2: Handlers that change nothing of it -/

/-- The tables, the identifiers and the signals stay, and nothing is left to
    announce. -/
structure Unannounced (m : State) (r : State × List Call) : Prop where
  sessions : r.1.sessions = m.sessions
  seats : r.1.seats = m.seats
  session_id : ∀ x, (r.1.session x).id = (m.session x).id
  seat_id : ∀ d, (r.1.seat d).id = (m.seat d).id
  next_session : r.1.next_session = m.next_session
  next_seat : r.1.next_seat = m.next_seat
  signals : r.1.signals = m.signals
  silent : Silent r.2

namespace Unannounced

variable {m m' : State} {calls calls' : List Call}

theorem of_heaps (hsession : m'.session = m.session) (hseat : m'.seat = m.seat)
    (hsessions : m'.sessions = m.sessions) (hseats : m'.seats = m.seats)
    (hnext : m'.next_session = m.next_session) (hnext' : m'.next_seat = m.next_seat)
    (hsignals : m'.signals = m.signals) (hcalls : Silent calls) : Unannounced m (m', calls) :=
  ⟨hsessions, hseats, fun x => by rw [hsession], fun d => by rw [hseat], hnext, hnext', hsignals,
    hcalls⟩

theorem same (m : State) (hcalls : Silent calls) : Unannounced m (m, calls) :=
  .of_heaps rfl rfl rfl rfl rfl rfl rfl hcalls

theorem of_active (h : OnlyActive m m') (hcalls : Silent calls) : Unannounced m (m', calls) where
  sessions := h.sameSessions.sessions
  seats := h.sameSeats.seats
  session_id := h.sameSessions.id
  seat_id := h.sameSeats.id
  next_session := h.sameSessions.next_session
  next_seat := h.sameSeats.next_seat
  signals := by rw [h.rest]
  silent := hcalls

theorem append (h : Unannounced m (m', calls)) (hcalls : Silent calls') :
    Unannounced m (m', calls ++ calls') := { h with silent := h.silent.append hcalls }

end Unannounced

namespace State

variable {m : State}

theorem update_id {α : Type} (heap : Nat → α) (id : α → CString) {n : Nat} {a : α}
    (h : id a = id (heap n)) (n' : Nat) : id (Function.update heap n a n') = id (heap n') := by
  by_cases heq : n' = n
  · rw [heq, Function.update_self, h]
  · rw [Function.update_of_ne heq]

theorem emit_silent (m : State) (d : SeatRef) (action : Callout) : Silent (m.emit d action) := by
  unfold emit
  split <;> simp [Silent, Call.Announces]

theorem change_active_session_silent (m : State) (d : SeatRef) (session : Option SessionRef) :
    Unannounced m (m.change_active_session d session) := by
  have hcalls : Silent (m.change_active_session d session).2 := by
    unfold change_active_session
    split
    · exact .nil
    · exact emit_silent _ d _
  exact .of_active (m.change_active_session_only d session).1 hcalls

theorem maybe_update_active_session_silent (m : State) (d : SeatRef) :
    Unannounced m (m.maybe_update_active_session d) := by
  unfold maybe_update_active_session
  split
  · exact .same m .nil
  · split
    · exact m.change_active_session_silent d _
    · exact .same m .nil

theorem silent_maybe_update (d : SeatRef) : Silent [.maybe_update_active_session d] := by
  simp [Silent, Call.Announces]

theorem ck_seat_add_session_silent (m : State) (seat : Option SeatRef) (x : SessionRef) :
    Unannounced m (m.ck_seat_add_session seat x) := by
  cases seat with
  | none => exact .same m .nil
  | some d =>
    exact ⟨rfl, rfl, update_id m.session CkSession.id (by rfl), update_id m.seat CkSeat.id (by rfl),
      rfl, rfl, rfl, (emit_silent _ d _).append (silent_maybe_update d)⟩

theorem ck_seat_remove_session_silent (m : State) (d : SeatRef) (x : SessionRef) :
    Unannounced m (m.ck_seat_remove_session d x) := by
  unfold ck_seat_remove_session
  split
  · exact ⟨rfl, rfl, update_id m.session CkSession.id (by rfl), update_id m.seat CkSeat.id (by rfl),
      rfl, rfl, rfl, (emit_silent _ d _).append (silent_maybe_update d)⟩
  · exact .same m .nil

theorem remove_session_for_cookie_silent {l : LeaderRef} {caller : RemovalCaller}
    {r : State × List Call} (h : m.remove_session_for_cookie l caller = some r) :
    Unannounced m r := by
  obtain ⟨x, -, rfl⟩ := Option.map_eq_some_iff.mp h
  split
  · refine (m.ck_seat_remove_session_silent _ x).append ?_
    simp [Silent, Call.Announces]
  · exact .same m (by simp [Silent, Call.Announces])

end State

/-- The calls that change a table or emit a signal. -/
def Call.Feeds : Call → Prop
  | .load_seats_from_dir (_ :: _) | .seat_added _ | .session_opened .. | .remove_dynamic_seat _
  | .seat_removed _ | .remove_session .. => True
  | _ => False

namespace State

variable {m : State}

theorem call_silent {f : Call} {r : State × List Call} (hf : ¬ f.Feeds) (h : m.call f = some r) :
    Unannounced m r := by
  cases f with
  | callout action => cases h
  | load_seats_from_dir files =>
    cases files with
    | nil =>
      cases h
      exact .same m .nil
    | cons file files => exact absurd trivial hf
  | seat_added d => exact absurd trivial hf
  | ck_seat_add_session seat x =>
    cases h
    exact m.ck_seat_add_session_silent seat x
  | session_opened x is_local => exact absurd trivial hf
  | maybe_update_active_session d =>
    cases h
    exact m.maybe_update_active_session_silent d
  | update_active_vt d num =>
    cases h
    exact m.change_active_session_silent d _
  | queue_processed =>
    cases h
    exact .of_heaps rfl rfl rfl rfl rfl rfl rfl .nil
  | remove_dynamic_seat d => exact absurd trivial hf
  | seat_removed d => exact absurd trivial hf
  | remove_session l x caller => exact absurd trivial hf
  | destroy_entity l =>
    cases h
    rcases m.destroy_entity_cases l with ⟨-, heq⟩ | ⟨r, hr, heq⟩
    · rw [heq]
      exact .of_heaps rfl rfl rfl rfl rfl rfl rfl .nil
    · rw [heq]
      exact remove_session_for_cookie_silent hr

theorem create_session_signals {m' : State} {sender cookie : CString}
    {caller : Option (Nat × Nat)} {started : Bool}
    (h : m.create_session_for_sender sender caller cookie started = some m') :
    m'.signals = m.signals := by
  cases caller with
  | none =>
    cases h
    rfl
  | some caller =>
    obtain ⟨⟨ssid, m₁⟩, hid, rfl⟩ := Option.map_eq_some_iff.mp h
    obtain ⟨-, serial, rfl⟩ := generate_session_id_free hid
    rfl

theorem dispatch_silent {event : Event} {r : State × List Call}
    (hevent : ∀ l result, event ≠ .job_completed l result) (h : m.dispatch event = some r) :
    Unannounced m r := by
  cases event with
  | open_session sender caller cookie started =>
    obtain ⟨-, m', hm', rfl⟩ := dispatch_open_session h
    obtain ⟨hsession, hnext, hsessions, hseat, hnext', hseats⟩ := create_session_heaps hm'
    exact .of_heaps hsession hseat hsessions hseats hnext hnext' (create_session_signals hm') .nil
  | job_completed l result => exact absurd rfl (hevent l result)
  | close_session caller cookie =>
    cases h
    rcases m.dbus_close_session_cases caller cookie with heq | ⟨_, _, l, r, -, -, hr, heq⟩
    · rw [heq]
      exact .same m .nil
    · rw [heq]
      exact remove_session_for_cookie_silent hr
  | name_owner_notify service_name old_service_name new_service_name =>
    cases h
    show Unannounced m (m.on_name_owner_notify _ _ _)
    unfold on_name_owner_notify
    split
    · refine .of_heaps rfl rfl rfl rfl rfl rfl rfl fun f hf => ?_
      obtain ⟨e, -, rfl⟩ := List.mem_map.mp hf
      simp [Call.Announces]
    · exact .same m .nil
  | process_queue num =>
    obtain rfl := dispatch_process_queue h
    unfold process_queue
    split
    · refine .of_heaps rfl rfl rfl rfl rfl rfl rfl (Silent.append (fun f hf => ?_) ?_)
      · obtain ⟨d, -, rfl⟩ := List.mem_map.mp hf
        simp [Call.Announces]
      · simp [Silent, Call.Announces]
    · exact .same m .nil
  | seat_activate_session d ssid switches =>
    cases h
    exact .of_active (m.ck_seat_activate_session_only d _ switches) .nil
  | seat_switch_to d vtnr switches =>
    cases h
    exact .of_active (m.dbus_switch_to_only d vtnr switches) .nil
  | session_activate x switches =>
    cases h
    exact .of_active (m.dbus_activate_only x switches) .nil
  | activate_session session_id switches =>
    cases h
    exact .of_active (m.dbus_activate_session_only session_id switches) .nil
  | activate_session_on_seat session_id seat_id switches =>
    cases h
    exact .of_active (m.dbus_activate_session_on_seat_only session_id seat_id switches) .nil
  | vt_leave x =>
    cases h
    exact .of_active (OnlyActive.setSession m x false) .nil

end State

/-! ## Section 3: Seats that are made -/

namespace State

variable {m : State}

theorem generate_seat_id_fst (m : State) : m.generate_seat_id.map Prod.fst =
    (generateId (cstr "seat") 0 (fun id => (m.seats.lookup id).isSome)
      (m.seats.entries.length + 1) m.seat_serial).map Prod.fst := by
  rw [generate_seat_id, Option.map_map]
  rfl

end State

/-- A new seat, which is to be announced if it is registered. -/
structure Made (m : State) (r : State × List Call) : Prop where
  session : r.1.session = m.session
  sessions : r.1.sessions = m.sessions
  signals : r.1.signals = m.signals
  next_session : r.1.next_session = m.next_session
  next_seat : r.1.next_seat = m.next_seat + 1
  others : ∀ d, d ≠ m.next_seat → r.1.seat d = m.seat d
  registered : (r.1.seats = m.seats ∧ r.2 = []) ∨
    (m.generate_seat_id.map Prod.fst = some (r.1.seat m.next_seat).id ∧
      m.seats.lookup (r.1.seat m.next_seat).id = none ∧
      r.1.seats = m.seats.insert (r.1.seat m.next_seat).id m.next_seat ∧
      r.2 = [.callout .seat_added, .seat_added m.next_seat])

namespace State

variable {m : State}

theorem registerSeat_made {sid : CString} {serial : Nat}
    (hid : m.generate_seat_id = some (sid, { m with seat_serial := serial }))
    (kind : CkSeatKind) (registers : Bool) :
    Made m ((ck_seat_new { m with seat_serial := serial } sid kind).2.registerSeat
      (ck_seat_new { m with seat_serial := serial } sid kind).1 registers).2 := by
  have hseat := ({ m with seat_serial := serial } : State).registerSeat_seat sid kind registers
  constructor
  case others =>
    intro d hd
    rw [hseat, Function.update_of_ne hd]
  case registered =>
    rw [hseat, Function.update_self]
    cases registers with
    | false => cases kind <;> exact .inl ⟨rfl, rfl⟩
    | true =>
      refine .inr ⟨by rw [hid]; rfl, (generate_seat_id_free hid).1, ?_, ?_⟩
      · cases kind <;> simp [ck_seat_new, registerSeat, setSeat]
      · cases kind <;> rfl
  all_goals cases kind <;> cases registers <;> rfl

theorem add_new_seat_made {kind : CkSeatKind} {registers : Bool}
    {r : Option SeatRef × State × List Call} (h : m.add_new_seat kind registers = some r) :
    Made m r.2 := by
  obtain ⟨⟨sid, m₁⟩, hid, rfl⟩ := Option.map_eq_some_iff.mp h
  obtain ⟨-, serial, rfl⟩ := generate_seat_id_free hid
  exact registerSeat_made hid kind registers

theorem add_seat_for_file_made {file : SeatFile} {r : State × List Call}
    (h : m.add_seat_for_file file = some r) :
    Made m r ∨ Unannounced m r := by
  obtain ⟨⟨sid, m₁⟩, hid, rfl⟩ := Option.map_eq_some_iff.mp h
  obtain ⟨-, serial, rfl⟩ := generate_seat_id_free hid
  dsimp only
  split
  · exact .inl (registerSeat_made hid .STATIC file.registers)
  · exact .inr (.of_heaps rfl rfl rfl rfl rfl rfl rfl .nil)

end State

/-! ## Section 4: Steps -/

/-- Identifiers are for good. -/
structure NamesKept (c c' : MainLoop) : Prop where
  session_id : ∀ x < c.state.next_session, (c'.state.session x).id = (c.state.session x).id
  seat_id : ∀ d < c.state.next_seat, (c'.state.seat d).id = (c.state.seat d).id
  next_session : c.state.next_session ≤ c'.state.next_session
  next_seat : c.state.next_seat ≤ c'.state.next_seat

inductive SeatStep (c : MainLoop) (label : Label) (c' : MainLoop) : Prop where
  | same : c'.state.seats = c.state.seats → adding c'.stack = adding c.stack →
      retiring c'.stack = retiring c.stack → c'.state.seat_changes = c.state.seat_changes →
      SeatStep c label c'
  | insert : c.state.generate_seat_id.map Prod.fst =
        some (c'.state.seat c.state.next_seat).id →
      c.state.seats.lookup (c'.state.seat c.state.next_seat).id = none →
      c'.state.next_seat = c.state.next_seat + 1 →
      c'.state.seats =
        c.state.seats.insert (c'.state.seat c.state.next_seat).id c.state.next_seat →
      adding c'.stack = c.state.next_seat :: adding c.stack →
      retiring c'.stack = retiring c.stack → c'.state.seat_changes = c.state.seat_changes →
      SeatStep c label c'
  | added : ∀ {d}, c'.state.seats = c.state.seats → adding c.stack = d :: adding c'.stack →
      retiring c'.stack = retiring c.stack →
      c'.state.seat_changes = c.state.seat_changes ++ [.added d] → SeatStep c label c'
  | erase : ∀ {d orig rest}, label = .call → c.stack = .remove_dynamic_seat d :: rest →
      (c.state.seat d).kind = .DYNAMIC → c.state.seats.lookup (c.state.seat d).id = some orig →
      c'.state.seats = c.state.seats.erase (c.state.seat d).id →
      adding c'.stack = adding c.stack → retiring c'.stack = orig :: retiring c.stack →
      c'.state.seat_changes = c.state.seat_changes → SeatStep c label c'
  | removed : ∀ {d}, c'.state.seats = c.state.seats → adding c'.stack = adding c.stack →
      retiring c.stack = d :: retiring c'.stack →
      c'.state.seat_changes = c.state.seat_changes ++ [.removed d] → SeatStep c label c'

inductive SessionStep (c : MainLoop) (label : Label) (c' : MainLoop) : Prop where
  | same : c'.state.sessions = c.state.sessions → opened c'.stack = opened c.stack →
      c'.state.session_changes = c.state.session_changes → SessionStep c label c'
  | insert : ∀ {l}, (c.state.leader l).job = true →
      (c'.state.session c.state.next_session).id = (c.state.leader l).session_id →
      c'.state.next_session = c.state.next_session + 1 →
      c'.state.sessions =
        c.state.sessions.insert (c.state.leader l).session_id c.state.next_session →
      opened c'.stack = c.state.next_session :: opened c.stack →
      c'.state.session_changes = c.state.session_changes → SessionStep c label c'
  | added : ∀ {x}, c'.state.sessions = c.state.sessions → opened c.stack = x :: opened c'.stack →
      c'.state.session_changes = c.state.session_changes ++ [.added x] → SessionStep c label c'
  | erase : ∀ {l x caller rest}, label = .call → c.stack = .remove_session l x caller :: rest →
      c'.state.sessions = c.state.sessions.erase (c.state.leader l).session_id →
      opened c'.stack = opened c.stack →
      c'.state.session_changes = c.state.session_changes ++ [.removed x] →
      SessionStep c label c'

structure AnnounceStep (c : MainLoop) (label : Label) (c' : MainLoop) : Prop where
  names : NamesKept c c'
  signals : c.state.signals <+: c'.state.signals
  seats : SeatStep c label c'
  sessions : SessionStep c label c'

namespace AnnounceStep

variable {m : State} {stack rest : List Call} {label : Label} {r : State × List Call}

theorem seat_changes_eq {m m' : State} (h : m'.signals = m.signals) :
    m'.seat_changes = m.seat_changes := by rw [State.seat_changes, State.seat_changes, h]

theorem session_changes_eq {m m' : State} (h : m'.signals = m.signals) :
    m'.session_changes = m.session_changes := by
  rw [State.session_changes, State.session_changes, h]

theorem seats_same {c c' : MainLoop} (hseats : c'.state.seats = c.state.seats)
    (hstack : adding c'.stack = adding c.stack ∧ retiring c'.stack = retiring c.stack)
    (hsignals : c'.state.signals = c.state.signals) : SeatStep c label c' :=
  .same hseats hstack.1 hstack.2 (seat_changes_eq hsignals)

/-- Nothing of it changes, but a call may be made that announces nothing. -/
theorem unannounced (h : Unannounced m r) (f : List Call) (hf : Silent f) :
    AnnounceStep ⟨m, f ++ stack⟩ label ⟨r.1, r.2 ++ stack⟩ := by
  obtain ⟨hadding, hretiring, hopened⟩ := h.silent.of_append stack
  obtain ⟨hadding', hretiring', hopened'⟩ := hf.of_append stack
  exact ⟨⟨fun x _ => h.session_id x, fun d _ => h.seat_id d, h.next_session.ge, h.next_seat.ge⟩,
    h.signals ▸ List.prefix_rfl,
    .same h.seats (hadding.trans hadding'.symm) (hretiring.trans hretiring'.symm)
      (seat_changes_eq h.signals),
    .same h.sessions (hopened.trans hopened'.symm) (session_changes_eq h.signals)⟩

/-- A seat is made, before further calls. -/
theorem seat_made (m : State) {m₁ : State} (h : Made m₁ r) (hseats : m₁.seats = m.seats)
    (hseat : m₁.seat = m.seat) (hnext : m₁.next_seat = m.next_seat)
    (hid : m₁.generate_seat_id.map Prod.fst = m.generate_seat_id.map Prod.fst)
    (hsignals : m₁.signals = m.signals) (calls f : List Call) (hadding : adding calls = [])
    (hretiring : retiring calls = []) (hf : Silent f) :
    SeatStep ⟨m, f ++ stack⟩ label ⟨r.1, r.2 ++ calls ++ stack⟩ ∧
      ∀ d < m.next_seat, (r.1.seat d).id = (m.seat d).id := by
  obtain ⟨hadding', hretiring', -⟩ := hf.of_append stack
  constructor
  · have hrest : adding (calls ++ stack) = adding stack ∧ retiring (calls ++ stack) =
        retiring stack := by
      simp only [adding, retiring] at hadding hretiring ⊢
      simp [List.filterMap_append, hadding, hretiring]
    rcases h.registered with ⟨hsame, hcalls⟩ | ⟨hfst, hnone, hinsert, hcalls⟩
    · refine .same (hsame.trans hseats) ?_ ?_ (seat_changes_eq (h.signals.trans hsignals))
      · show adding (r.2 ++ calls ++ stack) = adding (f ++ stack)
        rw [hcalls, List.nil_append, hrest.1, hadding']
      · show retiring (r.2 ++ calls ++ stack) = retiring (f ++ stack)
        rw [hcalls, List.nil_append, hrest.2, hretiring']
    · rw [hid] at hfst
      rw [hnext] at hfst hnone hinsert hcalls
      rw [hseats] at hnone hinsert
      refine .insert hfst hnone (h.next_seat.trans (by rw [hnext])) hinsert ?_ ?_
        (seat_changes_eq (h.signals.trans hsignals))
      · show adding (r.2 ++ calls ++ stack) = _ :: adding (f ++ stack)
        rw [hcalls, hadding', ← hrest.1]
        rfl
      · show retiring (r.2 ++ calls ++ stack) = retiring (f ++ stack)
        rw [hcalls, hretiring', ← hrest.2]
        rfl
  · intro d hd
    rw [h.others d (hnext ▸ Nat.ne_of_lt hd), hseat]

/-- A session is opened, if it is created. -/
theorem job_completed {l : LeaderRef} {result : Option Opening} (hjob : (m.leader l).job = true)
    (hr : m.job_completed l result = some r) :
    AnnounceStep ⟨m, stack⟩ label ⟨r.1, r.2 ++ stack⟩ := by
  rcases State.job_completed_cases hr with rfl | ⟨o, is_local, seat, calls, -, -, hsame, -, hcalls,
    hseat⟩
  · have hsame : Unannounced m (m.setLeader l { m.leader l with job := false }, []) :=
      .of_heaps rfl rfl rfl rfl rfl rfl rfl .nil
    exact unannounced hsame [] .nil
  have hid : (m.insertOpened l o).generate_seat_id.map Prod.fst =
      m.generate_seat_id.map Prod.fst := by
    rw [State.generate_seat_id_fst, State.generate_seat_id_fst]
    rfl
  have hsession : r.1.session = (m.insertOpened l o).session ∧
      r.1.signals = (m.insertOpened l o).signals ∧ opened calls = [] ∧
      m.next_seat ≤ r.1.next_seat ∧ (∀ d < m.next_seat, (r.1.seat d).id = (m.seat d).id) ∧
      SeatStep ⟨m, stack⟩ label ⟨r.1, r.2 ++ stack⟩ := by
    rcases hseat with ⟨d, -, -, hstate, rfl⟩ | ⟨-, hadd⟩
    · rw [hstate]
      refine ⟨rfl, rfl, rfl, Nat.le_refl _, fun _ _ => rfl, ?_⟩
      exact .same rfl (by rw [hcalls]; rfl) (by rw [hcalls]; rfl) rfl
    · have hmade := State.add_new_seat_made hadd
      have hnew : SeatStep ⟨m, stack⟩ label ⟨r.1, calls ++
            [.ck_seat_add_session seat m.next_session, .session_opened m.next_session is_local] ++
            stack⟩ ∧ ∀ d < m.next_seat, (r.1.seat d).id = (m.seat d).id :=
        seat_made m hmade rfl rfl rfl hid rfl _ [] rfl rfl .nil
      rw [← hcalls] at hnew
      refine ⟨hmade.session, hmade.signals, ?_, ?_, hnew.2, hnew.1⟩
      · rcases hmade.registered with ⟨-, hnone⟩ | ⟨-, -, -, hsome⟩
        · rw [show calls = [] from hnone]
          rfl
        · rw [show calls = _ from hsome]
          rfl
      · rw [hmade.next_seat]
        exact Nat.le_succ _
  obtain ⟨hheap, hsignals, hopened, hnext, hnames, hseats⟩ := hsession
  have hid' : ∀ x, (r.1.session x).id =
      if x = m.next_session then (m.leader l).session_id else (m.session x).id := by
    intro x
    rw [hheap]
    show (Function.update m.session m.next_session _ x).id = _
    by_cases hx : x = m.next_session
    · rw [hx, Function.update_self, if_pos rfl]
      simp [State.ck_session_new_with_parameters, State.setLeader]
    · rw [Function.update_of_ne hx, if_neg hx]
  refine ⟨⟨fun x hx => ?_, hnames, ?_, hnext⟩, hsignals ▸ List.prefix_rfl, hseats,
    .insert hjob ?_ ?_ ?_ ?_ ?_⟩
  · exact (hid' x).trans (if_neg (Nat.ne_of_lt hx))
  · rw [hsame.next_session]
    exact Nat.le_succ _
  · exact (hid' _).trans (if_pos rfl)
  · exact hsame.next_session
  · rw [hsame.sessions]
    simp [State.insertOpened, State.insertSession, State.ck_session_new_with_parameters,
      State.setLeader]
  · show opened (r.2 ++ stack) = _
    rw [hcalls, opened, List.filterMap_append, List.filterMap_append]
    rw [opened] at hopened
    rw [hopened]
    rfl
  · exact session_changes_eq hsignals

theorem call {f : Call} (hf : f.Feeds) (hr : m.call f = some r) :
    AnnounceStep ⟨m, f :: rest⟩ .call ⟨r.1, r.2 ++ rest⟩ := by
  cases f with
  | load_seats_from_dir files =>
    cases files with
    | nil => exact absurd hf id
    | cons file files =>
      obtain ⟨r, hadd, rfl⟩ := Option.map_eq_some_iff.mp hr
      have hloads : Silent [.load_seats_from_dir (file :: files)] := by
        simp [Silent, Call.Announces]
      rcases State.add_seat_for_file_made hadd with hmade | hsilent
      · obtain ⟨hstep, hnames⟩ := seat_made m hmade rfl rfl rfl rfl rfl
          [.load_seats_from_dir files] [.load_seats_from_dir (file :: files)] rfl rfl hloads
        refine ⟨⟨fun x _ => by rw [hmade.session], hnames, hmade.next_session.ge, ?_⟩,
          hmade.signals ▸ List.prefix_rfl, hstep,
          .same hmade.sessions ?_ (session_changes_eq hmade.signals)⟩
        · rw [hmade.next_seat]
          exact Nat.le_succ _
        · rcases hmade.registered with ⟨-, hcalls⟩ | ⟨-, -, -, hcalls⟩ <;>
          · dsimp only
            rw [hcalls]
            rfl
      · exact unannounced (hsilent.append (by simp [Silent, Call.Announces]))
          [.load_seats_from_dir (file :: files)] hloads
  | seat_added d =>
    cases hr
    refine ⟨⟨fun _ _ => rfl, fun _ _ => rfl, Nat.le_refl _, Nat.le_refl _⟩,
      List.prefix_append _ _, .added (d := d) rfl rfl rfl ?_, .same rfl rfl ?_⟩
    · exact List.filterMap_append ..
    · simp [State.session_changes, ManagerSignal.session_change]
  | session_opened x is_local =>
    cases hr
    refine ⟨⟨fun y _ => ?_, fun _ _ => rfl, Nat.le_refl _, Nat.le_refl _⟩,
      List.prefix_append _ _, .same rfl rfl rfl ?_, .added (x := x) rfl rfl ?_⟩
    · exact State.update_id m.session CkSession.id (by rfl) y
    · simp [State.seat_changes, ManagerSignal.seat_change, State.setSession]
    · exact List.filterMap_append ..
  | remove_dynamic_seat d =>
    cases hr
    split
    · rename_i hkind
      cases hlookup : m.seats.lookup (m.seat d).id with
      | none =>
        have hnone : m.remove_seat d = (m, []) := by simp [State.remove_seat, hlookup]
        rw [hnone]
        exact unannounced (.same m .nil) [.remove_dynamic_seat d] (by simp [Silent, Call.Announces])
      | some orig =>
        have hsome : m.remove_seat d = ({ m with
              seats := m.seats.erase (m.seat d).id
              seat := Function.update m.seat orig { m.seat orig with connected := false } },
            [.callout .seat_removed, .seat_removed orig]) := by
          simp [State.remove_seat, hlookup, State.setSeat]
        rw [hsome]
        refine ⟨⟨fun _ _ => rfl, fun d' _ => ?_, Nat.le_refl _, Nat.le_refl _⟩,
          List.prefix_rfl, .erase rfl rfl hkind hlookup rfl rfl rfl rfl, .same rfl rfl rfl⟩
        exact State.update_id m.seat CkSeat.id (by rfl) d'
    · exact unannounced (.same m .nil) [.remove_dynamic_seat d] (by simp [Silent, Call.Announces])
  | seat_removed d =>
    cases hr
    refine ⟨⟨fun _ _ => rfl, fun _ _ => rfl, Nat.le_refl _, Nat.le_refl _⟩,
      List.prefix_append _ _, .removed (d := d) rfl rfl rfl ?_, .same rfl rfl ?_⟩
    · exact List.filterMap_append ..
    · simp [State.session_changes, ManagerSignal.session_change]
  | remove_session l x caller =>
    cases hr
    have hremoved : (m.session_removed l x caller).session = m.session ∧
        (m.session_removed l x caller).seat = m.seat ∧
        (m.session_removed l x caller).seats = m.seats ∧
        (m.session_removed l x caller).sessions = m.sessions.erase (m.leader l).session_id ∧
        (m.session_removed l x caller).next_session = m.next_session ∧
        (m.session_removed l x caller).next_seat = m.next_seat ∧
        (m.session_removed l x caller).signals = m.signals ++ [.SessionRemoved x] := by
      cases caller <;> exact ⟨rfl, rfl, rfl, rfl, rfl, rfl, rfl⟩
    obtain ⟨hsession, hseat, hseats, hsessions, hnext, hnext', hsignals⟩ := hremoved
    refine ⟨⟨fun y _ => by rw [hsession], fun d _ => by rw [hseat], hnext.ge, hnext'.ge⟩,
      hsignals ▸ List.prefix_append _ _, .same hseats rfl rfl ?_, .erase rfl rfl hsessions rfl ?_⟩
    · simp [State.seat_changes, ManagerSignal.seat_change, hsignals]
    · rw [State.session_changes, hsignals]
      exact List.filterMap_append ..
  | _ => exact absurd hf id

end AnnounceStep

open AnnounceStep in
/-- **Inversion**. -/
theorem announce_step {c c' : MainLoop} {label : Label} (h : main_loop.next c label = some c') :
    AnnounceStep c label c' := by
  obtain ⟨m, stack⟩ := c
  cases main_loop_step h with
  | @dispatch event r _ hr =>
    by_cases hevent : ∃ l result, event = .job_completed l result
    · obtain ⟨l, result, rfl⟩ := hevent
      obtain ⟨hjob, hr⟩ := State.dispatch_job_completed hr
      exact job_completed hjob hr
    · have hno : ∀ l result, event ≠ .job_completed l result := fun l result heq =>
        hevent ⟨l, result, heq⟩
      exact unannounced (State.dispatch_silent hno hr) [] .nil
  | @call f rest r hstack hr =>
    obtain rfl : stack = f :: rest := hstack
    by_cases hf : f.Feeds
    · exact call hf hr
    · have hsilent : Silent [f] := by
        intro g hg
        obtain rfl := List.mem_singleton.mp hg
        cases g <;> first | exact id | exact absurd trivial hf
      exact unannounced (State.call_silent hf hr) [f] hsilent
  | @callout_done action rest hstack =>
    obtain rfl : stack = .callout action :: rest := hstack
    exact unannounced (Unannounced.same m .nil) [.callout action]
      (by simp [Silent, Call.Announces])

/-! ## Section 5: What is announced is there -/

/-- Nothing is removed before it has been announced, and no seat gets the
    identifier of one whose removal is still to be announced. -/
structure AnnouncedFirst (c : MainLoop) (label : Label) : Prop where
  orderly : Orderly c label
  session : ∀ l x caller rest, label = .call → c.stack = .remove_session l x caller :: rest →
    x ∉ opened rest
  seat : ∀ d orig rest, label = .call → c.stack = .remove_dynamic_seat d :: rest →
    (c.state.seat d).kind = .DYNAMIC → c.state.seats.lookup (c.state.seat d).id = some orig →
    orig ∉ adding rest
  fresh : ∀ sid, c.state.generate_seat_id.map Prod.fst = some sid →
    ∀ d ∈ retiring c.stack, (c.state.seat d).id ≠ sid

structure SessionsAnnounced (m : State) (stack : List Call) : Prop where
  there : ∀ x ∈ opened stack, x < m.next_session ∧ m.sessions.lookup (m.session x).id = some x
  nodup : (opened stack).Nodup
  changes : ∀ e ∈ m.session_changes, e.entry < m.next_session

structure SeatsAnnounced (m : State) (stack : List Call) : Prop where
  there : ∀ d ∈ adding stack, d < m.next_seat ∧ m.seats.lookup (m.seat d).id = some d
  adding_nodup : (adding stack).Nodup
  gone : ∀ d ∈ retiring stack, d < m.next_seat ∧ m.seats.lookup (m.seat d).id = none
  retiring_nodup : ((retiring stack).map fun d => (m.seat d).id).Nodup
  changes : ∀ e ∈ m.seat_changes, e.entry < m.next_seat

theorem SessionsAnnounced.step {c c' : MainLoop} {label : Label}
    (h : SessionsAnnounced c.state c.stack) (hvalid : SessionsValid c.state c.stack)
    (hok : AnnouncedFirst c label) (hnames : NamesKept c c') (hstep : SessionStep c label c') :
    SessionsAnnounced c'.state c'.stack := by
  have hlt : ∀ {x}, x < c.state.next_session → x < c'.state.next_session := fun hx =>
    Nat.lt_of_lt_of_le hx hnames.next_session
  cases hstep with
  | same hsessions hopened hchanges =>
    refine ⟨fun x hx => ?_, hopened ▸ h.nodup, fun e he => hlt (h.changes e (hchanges ▸ he))⟩
    obtain ⟨hx, hlookup⟩ := h.there x (hopened ▸ hx)
    exact ⟨hlt hx, by rw [hsessions, hnames.session_id x hx]; exact hlookup⟩
  | @insert l hjob hid hnext hsessions hopened hchanges =>
    obtain ⟨-, hnone, -⟩ := hvalid.job hjob
    refine ⟨fun x hx => ?_, ?_, fun e he => hlt (h.changes e (hchanges ▸ he))⟩
    · rw [hopened] at hx
      rcases List.mem_cons.mp hx with rfl | hx
      · exact ⟨hnext ▸ Nat.lt_succ_self _, by rw [hid, hsessions, AList.lookup_insert]⟩
      · obtain ⟨hx, hlookup⟩ := h.there x hx
        have hne : (c.state.session x).id ≠ (c.state.leader l).session_id := by
          intro heq
          rw [heq, hnone] at hlookup
          cases hlookup
        refine ⟨hlt hx, ?_⟩
        rw [hnames.session_id x hx, hsessions, AList.lookup_insert_ne hne]
        exact hlookup
    · rw [hopened]
      exact List.nodup_cons.mpr ⟨fun hmem => Nat.lt_irrefl _ (h.there _ hmem).1, h.nodup⟩
  | @added x hsessions hopened hchanges =>
    have hnodup := h.nodup
    rw [hopened] at hnodup
    refine ⟨fun y hy => ?_, hnodup.of_cons, fun e he => ?_⟩
    · obtain ⟨hy, hlookup⟩ := h.there y (hopened ▸ List.mem_cons_of_mem _ hy)
      exact ⟨hlt hy, by rw [hsessions, hnames.session_id y hy]; exact hlookup⟩
    · rw [hchanges] at he
      rcases List.mem_append.mp he with he | he
      · exact hlt (h.changes e he)
      · obtain rfl := List.mem_singleton.mp he
        exact hlt (h.there x (hopened ▸ List.mem_cons_self)).1
  | @erase l x caller rest hlabel hstack hsessions hopened hchanges =>
    obtain ⟨hx, -⟩ := hvalid.removing (hstack ▸ List.mem_cons_self)
    have hrest : opened c.stack = opened rest := by rw [hstack]; rfl
    have hunopened := hok.session l x caller rest hlabel hstack
    refine ⟨fun y hy => ?_, hopened ▸ h.nodup, fun e he => ?_⟩
    · rw [hopened] at hy
      obtain ⟨hlt', hlookup⟩ := h.there y hy
      have hne : (c.state.session y).id ≠ (c.state.leader l).session_id := by
        intro heq
        rw [heq, hx] at hlookup
        exact hunopened (Option.some.inj hlookup ▸ hrest ▸ hy)
      refine ⟨hlt hlt', ?_⟩
      rw [hnames.session_id y hlt', hsessions]
      exact HashTable.lookup_erase_iff.mpr ⟨hne, hlookup⟩
    · rw [hchanges] at he
      rcases List.mem_append.mp he with he | he
      · exact hlt (h.changes e he)
      · obtain rfl := List.mem_singleton.mp he
        exact hlt (hvalid.table hx).1

theorem SeatsAnnounced.step {c c' : MainLoop} {label : Label}
    (h : SeatsAnnounced c.state c.stack) (hvalid : SeatsValid c.state c.stack)
    (hok : AnnouncedFirst c label) (hnames : NamesKept c c') (hstep : SeatStep c label c') :
    SeatsAnnounced c'.state c'.stack := by
  have hlt : ∀ {d}, d < c.state.next_seat → d < c'.state.next_seat := fun hd =>
    Nat.lt_of_lt_of_le hd hnames.next_seat
  have hids : ((retiring c.stack).map fun d => (c'.state.seat d).id) =
      (retiring c.stack).map fun d => (c.state.seat d).id :=
    List.map_congr_left fun d hd => hnames.seat_id d (h.gone d hd).1
  cases hstep with
  | same hseats hadding hretiring hchanges =>
    refine ⟨fun d hd => ?_, hadding ▸ h.adding_nodup, fun d hd => ?_, ?_,
      fun e he => hlt (h.changes e (hchanges ▸ he))⟩
    · obtain ⟨hd, hlookup⟩ := h.there d (hadding ▸ hd)
      exact ⟨hlt hd, by rw [hseats, hnames.seat_id d hd]; exact hlookup⟩
    · obtain ⟨hd, hlookup⟩ := h.gone d (hretiring ▸ hd)
      exact ⟨hlt hd, by rw [hseats, hnames.seat_id d hd]; exact hlookup⟩
    · rw [hretiring, hids]
      exact h.retiring_nodup
  | insert hfst hnone hnext hseats hadding hretiring hchanges =>
    have hfresh := hok.fresh _ hfst
    refine ⟨fun d hd => ?_, ?_, fun d hd => ?_, ?_,
      fun e he => hlt (h.changes e (hchanges ▸ he))⟩
    · rw [hadding] at hd
      rcases List.mem_cons.mp hd with rfl | hd
      · exact ⟨hnext ▸ Nat.lt_succ_self _, by rw [hseats, AList.lookup_insert]⟩
      · obtain ⟨hd, hlookup⟩ := h.there d hd
        have hne : (c.state.seat d).id ≠ (c'.state.seat c.state.next_seat).id := by
          intro heq
          rw [heq, hnone] at hlookup
          cases hlookup
        refine ⟨hlt hd, ?_⟩
        rw [hnames.seat_id d hd, hseats, AList.lookup_insert_ne hne]
        exact hlookup
    · rw [hadding]
      exact List.nodup_cons.mpr ⟨fun hmem => Nat.lt_irrefl _ (h.there _ hmem).1, h.adding_nodup⟩
    · rw [hretiring] at hd
      obtain ⟨hd', hlookup⟩ := h.gone d hd
      refine ⟨hlt hd', ?_⟩
      rw [hnames.seat_id d hd', hseats, AList.lookup_insert_ne (hfresh d hd)]
      exact hlookup
    · rw [hretiring, hids]
      exact h.retiring_nodup
  | @added d hseats hadding hretiring hchanges =>
    have hnodup := h.adding_nodup
    rw [hadding] at hnodup
    refine ⟨fun e he => ?_, hnodup.of_cons, fun e he => ?_, ?_, fun e he => ?_⟩
    · obtain ⟨he, hlookup⟩ := h.there e (hadding ▸ List.mem_cons_of_mem _ he)
      exact ⟨hlt he, by rw [hseats, hnames.seat_id e he]; exact hlookup⟩
    · obtain ⟨he, hlookup⟩ := h.gone e (hretiring ▸ he)
      exact ⟨hlt he, by rw [hseats, hnames.seat_id e he]; exact hlookup⟩
    · rw [hretiring, hids]
      exact h.retiring_nodup
    · rw [hchanges] at he
      rcases List.mem_append.mp he with he | he
      · exact hlt (h.changes e he)
      · obtain rfl := List.mem_singleton.mp he
        exact hlt (h.there d (hadding ▸ List.mem_cons_self)).1
  | @erase d orig rest hlabel hstack hkind hlookup hseats hadding hretiring hchanges =>
    obtain ⟨horig, hid⟩ := hvalid.registered hlookup
    have hrest : adding c.stack = adding rest := by rw [hstack]; rfl
    have hannounced := hok.seat d orig rest hlabel hstack hkind hlookup
    refine ⟨fun e he => ?_, hadding ▸ h.adding_nodup, fun e he => ?_, ?_,
      fun e he => hlt (h.changes e (hchanges ▸ he))⟩
    · rw [hadding] at he
      obtain ⟨he', hlookup'⟩ := h.there e he
      have hne : (c.state.seat e).id ≠ (c.state.seat d).id := by
        intro heq
        rw [heq, hlookup] at hlookup'
        exact hannounced (Option.some.inj hlookup' ▸ hrest ▸ he)
      refine ⟨hlt he', ?_⟩
      rw [hnames.seat_id e he', hseats]
      exact HashTable.lookup_erase_iff.mpr ⟨hne, hlookup'⟩
    · rw [hretiring] at he
      rcases List.mem_cons.mp he with rfl | he
      · refine ⟨hlt horig, ?_⟩
        rw [hnames.seat_id e horig, hid, hseats, AList.lookup_erase]
      · obtain ⟨he', hnone⟩ := h.gone e he
        refine ⟨hlt he', ?_⟩
        rw [hnames.seat_id e he', hseats, HashTable.lookup_erase_eq, hnone, ite_self]
    · rw [hretiring, List.map_cons, hids, hnames.seat_id orig horig, hid]
      refine List.nodup_cons.mpr ⟨fun hmem => ?_, h.retiring_nodup⟩
      obtain ⟨e, he, heq⟩ := List.mem_map.mp hmem
      obtain ⟨-, hnone⟩ := h.gone e he
      rw [heq, hlookup] at hnone
      cases hnone
  | @removed d hseats hadding hretiring hchanges =>
    refine ⟨fun e he => ?_, hadding ▸ h.adding_nodup, fun e he => ?_, ?_, fun e he => ?_⟩
    · obtain ⟨he, hlookup⟩ := h.there e (hadding ▸ he)
      exact ⟨hlt he, by rw [hseats, hnames.seat_id e he]; exact hlookup⟩
    · obtain ⟨he, hlookup⟩ := h.gone e (hretiring ▸ List.mem_cons_of_mem _ he)
      exact ⟨hlt he, by rw [hseats, hnames.seat_id e he]; exact hlookup⟩
    · have hnodup := h.retiring_nodup
      rw [← hids, hretiring, List.map_cons] at hnodup
      exact hnodup.of_cons
    · rw [hchanges] at he
      rcases List.mem_append.mp he with he | he
      · exact hlt (h.changes e he)
      · obtain rfl := List.mem_singleton.mp he
        exact hlt (h.gone d (hretiring ▸ List.mem_cons_self)).1

theorem announced_of_init {c : MainLoop} (h : main_loop.init c) :
    SessionsAnnounced c.state c.stack ∧ SeatsAnnounced c.state c.stack := by
  obtain ⟨vfd, active_num, files, rfl⟩ := h
  exact ⟨⟨List.forall_mem_nil _, List.nodup_nil, List.forall_mem_nil _⟩,
    ⟨List.forall_mem_nil _, List.nodup_nil, List.forall_mem_nil _, List.nodup_nil,
      List.forall_mem_nil _⟩⟩

theorem announced {c : MainLoop} (h : main_loop.ReachableBy AnnouncedFirst c) :
    SessionsAnnounced c.state c.stack ∧ SeatsAnnounced c.state c.stack := by
  induction h with
  | init hinit => exact announced_of_init hinit
  | step hreach hok hnext ih =>
    have hstep := announce_step hnext
    have hsessions := sessionsValid (hreach.mono fun _ _ hok => hok.orderly)
    exact ⟨ih.1.step hsessions hok hstep.names hstep.sessions,
      ih.2.step (seatsValid hreach) hok hstep.names hstep.seats⟩

end CkManager
