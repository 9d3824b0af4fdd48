import ConsoleKit.Framework.Counter
import ConsoleKit.Manager.Seats

/-! # The identifiers that the manager generates

    Sessions and seats have serial numbers that start anew behind the largest
    `gint32`, so a number may come up again.  `generate_session_id` passes
    over the numbers of the sessions in the table.  A leader has the
    identifier of its session before there is such a session, and keeps it
    when there will be none; those are not looked at.

    This module provides:
    - `generateId_isSome`, `generateId_spec`: the loop, on a cyclic counter,
    - `SerialsValid`: the serial numbers in every run,
    - `FreshIds`: what is asked of the two functions,
    - `fresh_ids_iff`: the states in which they have it.
-/

namespace CkManager

open Libc

/-! ## Section 1: The loop of the generators -/

/-- Serial numbers are positive as `gint32`, or 0 if they start there. -/
def serial_counter (first : Nat) (h : first < 2 ^ 31) : Counter := ⟨first, 2 ^ 31, h⟩

def session_counter : Counter := serial_counter 1 (by decide)

def seat_counter : Counter := serial_counter 0 (by decide)

def session_name (k : Nat) : CString := cstr "Session" ++ percent_u k

def seat_name (k : Nat) : CString := cstr "seat" ++ percent_u k

section
variable {label : CString} {first : Nat} {h : first < 2 ^ 31} {serial rounds : Nat}

/-- The loop searches the counter for a number whose identifier is free. -/
theorem generateId_eq_search (h : first < 2 ^ 31) (label : CString) (taken : CString → Bool)
    (rounds serial : Nat) :
    State.generateId label first taken rounds serial =
      ((serial_counter first h).search (fun k => taken (label ++ percent_u k)) rounds serial).map
        fun r => (label ++ percent_u r.1, r.2) := by
  induction rounds generalizing serial with
  | zero => rfl
  | succ rounds ih =>
    rw [State.generateId, Counter.search]
    split
    · exact ih _
    · rfl

variable {α : Type} {t : HashTable CString α}

/-- The identifier that is generated is the first that is free. -/
theorem generateId_spec {r : CString × Nat} (hserial : (serial_counter first h).Mem serial)
    (hr : State.generateId label first (fun id => (t.lookup id).isSome) rounds serial = some r) :
    ∃ k, (serial_counter first h).Mem k ∧ r.1 = label ++ percent_u k ∧ t.lookup r.1 = none ∧
      (serial_counter first h).Mem r.2 ∧
      ∀ k', (serial_counter first h).Mem k' →
        (serial_counter first h).distance serial k' < (serial_counter first h).distance serial k →
        t.lookup (label ++ percent_u k') ≠ none := by
  rw [generateId_eq_search h] at hr
  obtain ⟨q, hq, rfl⟩ := Option.map_eq_some_iff.mp hr
  obtain ⟨hmem, hfree, hnext, hbefore⟩ := Counter.search_eq_some hserial hq
  refine ⟨q.1, hmem, rfl, Option.not_isSome_iff_eq_none.mp (Bool.eq_false_iff.mp hfree), hnext,
    fun k' hk' hlt => ?_⟩
  exact Option.isSome_iff_ne_none.mp (hbefore k' hk' hlt)

/-- It takes no more rounds than there are entries, and one, to come to an
    identifier that is free. -/
theorem generateId_isSome (hserial : (serial_counter first h).Mem serial)
    (hfree : ∃ k, (serial_counter first h).Mem k ∧ t.lookup (label ++ percent_u k) = none) :
    ∃ r, State.generateId label first (fun id => (t.lookup id).isSome) (t.entries.length + 1)
      serial = some r := by
  cases hr : State.generateId label first (fun id => (t.lookup id).isSome) (t.entries.length + 1)
      serial with
  | some r => exact ⟨r, rfl⟩
  | none =>
    exfalso
    rw [generateId_eq_search h, Option.map_eq_none_iff] at hr
    have htaken := Counter.search_eq_none hserial hr
    obtain ⟨k, hk, hnone⟩ := hfree
    -- The free number is so far off that all rounds came to different numbers.
    have hfar : t.entries.length + 1 ≤ (serial_counter first h).distance serial k := by
      by_contra hnear
      have hsome := htaken k hk (Nat.lt_of_not_le hnear)
      rw [hnone] at hsome
      cases hsome
    have hlt := Counter.distance_lt hserial hk
    obtain ⟨i, hi, hi'⟩ := HashTable.exists_lookup_eq_none t
      (fun i => label ++ percent_u ((serial_counter first h).after serial i)) (by
        intro i hi j hj heq
        have hafter := percent_u_inj (List.append_cancel_left heq)
        rw [← Counter.distance_after hserial (Nat.lt_of_le_of_lt hi (by omega)), hafter,
          Counter.distance_after hserial (Nat.lt_of_le_of_lt hj (by omega))])
    have hi₀ : i < (serial_counter first h).limit - (serial_counter first h).first := by omega
    have hsome := htaken _ (Counter.after_mem hserial hi₀) (by
      rw [Counter.distance_after hserial hi₀]
      exact Nat.lt_succ_of_le hi)
    rw [hi'] at hsome
    cases hsome

/-- A loop that does not end in these rounds does not end at all. -/
theorem generateId_eq_none_iff (hserial : (serial_counter first h).Mem serial) :
    State.generateId label first (fun id => (t.lookup id).isSome) (t.entries.length + 1) serial =
        none ↔
      ∀ rounds, State.generateId label first (fun id => (t.lookup id).isSome) rounds serial =
        none := by
  constructor
  · intro hnone rounds
    rw [generateId_eq_search h, Option.map_eq_none_iff]
    apply Counter.search_full hserial
    intro k hk
    by_contra hfree
    obtain ⟨r, hr⟩ := generateId_isSome hserial
      ⟨k, hk, Option.not_isSome_iff_eq_none.mp hfree⟩
    rw [hnone] at hr
    cases hr
  · exact fun hnone => hnone _

end

/-! ## Section 2: The serial numbers of a run -/

structure SerialsValid (m : State) : Prop where
  session : session_counter.Mem m.session_serial
  seat : seat_counter.Mem m.seat_serial

namespace SerialsValid

variable {m m' : State}

theorem same (h : SerialsValid m) (hsession : m'.session_serial = m.session_serial)
    (hseat : m'.seat_serial = m.seat_serial) : SerialsValid m' :=
  ⟨hsession ▸ h.session, hseat ▸ h.seat⟩

theorem only_active (h : SerialsValid m) (honly : OnlyActive m m') : SerialsValid m' :=
  h.same ((congrArg State.session_serial honly.rest).trans rfl)
    ((congrArg State.seat_serial honly.rest).trans rfl)

theorem generate_session_id (h : SerialsValid m) {id : CString}
    (hid : m.generate_session_id = some (id, m')) :
    ∃ k serial, m' = { m with session_serial := serial } ∧ session_counter.Mem serial ∧
      session_counter.Mem k ∧ id = session_name k ∧ m.sessions.lookup id = none ∧
      ∀ k', session_counter.Mem k' →
        session_counter.distance m.session_serial k' <
          session_counter.distance m.session_serial k →
        m.sessions.lookup (session_name k') ≠ none := by
  obtain ⟨r, hr, heq⟩ := Option.map_eq_some_iff.mp hid
  obtain ⟨rfl, rfl⟩ := Prod.mk.inj heq
  have hserial : (serial_counter 1 (by decide)).Mem m.session_serial := h.session
  obtain ⟨k, hk, hname, hfree, hnext, hbefore⟩ := generateId_spec hserial hr
  exact ⟨k, r.2, rfl, hnext, hk, hname, hfree, hbefore⟩

theorem generate_seat_id (h : SerialsValid m) {sid : CString}
    (hid : m.generate_seat_id = some (sid, m')) :
    ∃ k serial, m' = { m with seat_serial := serial } ∧ seat_counter.Mem serial ∧
      seat_counter.Mem k ∧ sid = seat_name k ∧ m.seats.lookup sid = none := by
  obtain ⟨r, hr, heq⟩ := Option.map_eq_some_iff.mp hid
  obtain ⟨rfl, rfl⟩ := Prod.mk.inj heq
  have hserial : (serial_counter 0 (by decide)).Mem m.seat_serial := h.seat
  obtain ⟨k, hk, hname, hfree, hnext, -⟩ := generateId_spec hserial hr
  exact ⟨k, r.2, rfl, hnext, hk, hname, hfree⟩

theorem generate_session_id_isSome (h : SerialsValid m)
    (hfree : ∃ k, session_counter.Mem k ∧ m.sessions.lookup (session_name k) = none) :
    ∃ id m', m.generate_session_id = some (id, m') := by
  have hserial : (serial_counter 1 (by decide)).Mem m.session_serial := h.session
  obtain ⟨r, hr⟩ := generateId_isSome hserial hfree
  exact ⟨r.1, _, Option.map_eq_some_iff.mpr ⟨r, hr, rfl⟩⟩

theorem generate_seat_id_isSome (h : SerialsValid m)
    (hfree : ∃ k, seat_counter.Mem k ∧ m.seats.lookup (seat_name k) = none) :
    ∃ sid m', m.generate_seat_id = some (sid, m') := by
  have hserial : (serial_counter 0 (by decide)).Mem m.seat_serial := h.seat
  obtain ⟨r, hr⟩ := generateId_isSome hserial hfree
  exact ⟨r.1, _, Option.map_eq_some_iff.mpr ⟨r, hr, rfl⟩⟩

theorem register_seat (h : SerialsValid m) (sid : CString) (kind : CkSeatKind)
    (registers : Bool) :
    SerialsValid ((m.ck_seat_new sid kind).2.registerSeat (m.ck_seat_new sid kind).1
      registers).2.1 := by
  cases kind <;> cases registers <;> exact h.same rfl rfl

theorem add_new_seat (h : SerialsValid m) {kind : CkSeatKind} {registers : Bool}
    {r : Option SeatRef × State × List Call} (hr : m.add_new_seat kind registers = some r) :
    SerialsValid r.2.1 := by
  obtain ⟨⟨sid, m₁⟩, hid, rfl⟩ := Option.map_eq_some_iff.mp hr
  obtain ⟨-, serial, rfl, hserial, -⟩ := h.generate_seat_id hid
  have hvalid : SerialsValid { m with seat_serial := serial } := ⟨h.session, hserial⟩
  exact hvalid.register_seat sid kind registers

theorem add_seat_for_file (h : SerialsValid m) {file : SeatFile} {r : State × List Call}
    (hr : m.add_seat_for_file file = some r) : SerialsValid r.1 := by
  obtain ⟨⟨sid, m₁⟩, hid, rfl⟩ := Option.map_eq_some_iff.mp hr
  obtain ⟨-, serial, rfl, hserial, -⟩ := h.generate_seat_id hid
  have hvalid : SerialsValid { m with seat_serial := serial } := ⟨h.session, hserial⟩
  dsimp only
  split
  · exact hvalid.register_seat sid .STATIC file.registers
  · exact hvalid

theorem create_session (h : SerialsValid m) {sender cookie : CString}
    {caller : Option (Nat × Nat)} {started : Bool}
    (hm' : m.create_session_for_sender sender caller cookie started = some m') :
    SerialsValid m' := by
  cases caller with
  | none =>
    cases hm'
    exact h
  | some caller =>
    obtain ⟨⟨ssid, m₁⟩, hid, rfl⟩ := Option.map_eq_some_iff.mp hm'
    obtain ⟨-, serial, rfl, hserial, -⟩ := h.generate_session_id hid
    exact ⟨hserial, h.seat⟩

theorem job_completed (h : SerialsValid m) {l : LeaderRef} {result : Option Opening}
    {r : State × List Call} (hr : m.job_completed l result = some r) : SerialsValid r.1 := by
  rcases State.job_completed_cases hr with rfl | ⟨o, _, _, _, -, -, -, -, -, hseat⟩
  · exact h.same rfl rfl
  · have hopened : SerialsValid (m.insertOpened l o) := h.same rfl rfl
    rcases hseat with ⟨_, -, -, heq, -⟩ | ⟨-, hadd⟩
    · rw [heq]
      exact hopened
    · exact hopened.add_new_seat hadd

theorem remove_session_for_cookie (h : SerialsValid m) {l : LeaderRef} {caller : RemovalCaller}
    {r : State × List Call} (hr : m.remove_session_for_cookie l caller = some r) :
    SerialsValid r.1 := by
  -- A seat that loses a session draws no number.
  have hseat : ∀ d x, SerialsValid (m.ck_seat_remove_session d x).1 := by
    intro d x
    unfold State.ck_seat_remove_session
    split <;> exact h.same rfl rfl
  obtain ⟨x, -, rfl⟩ := Option.map_eq_some_iff.mp hr
  split
  · exact hseat _ x
  · exact h

theorem remove_seat (h : SerialsValid m) (d : SeatRef) : SerialsValid (m.remove_seat d).1 := by
  unfold State.remove_seat
  split <;> exact h.same rfl rfl

/-- **Step lemma**: the calls that are left to make. -/
theorem call (h : SerialsValid m) {f : Call} {r : State × List Call} (hr : m.call f = some r) :
    SerialsValid r.1 := by
  cases f with
  | callout action => cases hr
  | load_seats_from_dir files =>
    cases files with
    | nil =>
      cases hr
      exact h
    | cons file files =>
      obtain ⟨r', hadd, rfl⟩ := Option.map_eq_some_iff.mp hr
      exact SerialsValid.add_seat_for_file (r := r') h hadd
  | seat_added | session_opened | queue_processed | seat_removed =>
    cases hr
    exact h.same rfl rfl
  | ck_seat_add_session seat x =>
    cases hr
    cases seat <;> exact h.same rfl rfl
  | maybe_update_active_session d =>
    cases hr
    exact h.only_active (m.maybe_update_active_session_only d).1
  | update_active_vt d num =>
    cases hr
    exact h.only_active (m.change_active_session_only d _).1
  | remove_dynamic_seat d =>
    cases hr
    split
    · exact h.remove_seat d
    · exact h
  | remove_session l x caller =>
    cases hr
    cases caller <;> exact h.same rfl rfl
  | destroy_entity l =>
    cases hr
    rcases m.destroy_entity_cases l with ⟨-, heq⟩ | ⟨r, hremove, heq⟩
    · rw [heq]
      exact h.same rfl rfl
    · rw [heq]
      exact h.remove_session_for_cookie hremove

/-- **Step lemma**: the events. -/
theorem dispatch (h : SerialsValid m) {event : Event} {r : State × List Call}
    (hr : m.dispatch event = some r) : SerialsValid r.1 := by
  cases event with
  | open_session sender caller cookie started =>
    obtain ⟨-, m', hm', rfl⟩ := State.dispatch_open_session hr
    exact h.create_session hm'
  | job_completed l result => exact h.job_completed (State.dispatch_job_completed hr).2
  | close_session caller cookie =>
    cases hr
    rcases m.dbus_close_session_cases caller cookie with heq | ⟨_, _, _, r, -, -, hremove, heq⟩
    · rw [heq]
      exact h
    · rw [heq]
      exact h.remove_session_for_cookie hremove
  | name_owner_notify service_name old_service_name new_service_name =>
    cases hr
    show SerialsValid (m.on_name_owner_notify _ _ _).1
    unfold State.on_name_owner_notify
    split <;> exact h.same rfl rfl
  | process_queue num =>
    obtain rfl := State.dispatch_process_queue hr
    unfold State.process_queue
    split <;> exact h.same rfl rfl
  | seat_activate_session d ssid switches =>
    cases hr
    exact h.only_active (m.ck_seat_activate_session_only d _ switches)
  | seat_switch_to d vtnr switches =>
    cases hr
    exact h.only_active (m.dbus_switch_to_only d vtnr switches)
  | session_activate x switches =>
    cases hr
    exact h.only_active (m.dbus_activate_only x switches)
  | activate_session session_id switches =>
    cases hr
    exact h.only_active (m.dbus_activate_session_only session_id switches)
  | activate_session_on_seat session_id seat_id switches =>
    cases hr
    exact h.only_active (m.dbus_activate_session_on_seat_only session_id seat_id switches)
  | vt_leave x =>
    cases hr
    exact h.same rfl rfl

/-- **Run lemma** -/
theorem reachable {c : MainLoop} (h : main_loop.Reachable c) : SerialsValid c.state := by
  apply h.invariant
  · rintro _ ⟨vfd, active_num, files, rfl⟩
    have hsession : session_counter.Mem 1 := ⟨Nat.le_refl 1, by decide⟩
    have hseat : seat_counter.Mem 0 := ⟨Nat.le_refl 0, by decide⟩
    exact ⟨hsession, hseat⟩
  · intro c label c' hvalid hn
    cases main_loop_step hn with
    | dispatch _ hr => exact hvalid.dispatch hr
    | call _ hr => exact hvalid.call hr
    | callout_done _ => exact hvalid

end SerialsValid

/-! ## Section 3: Fresh identifiers -/

/-- The generators return, with an identifier that no session of the table
    and no registered leader has, and one that no seat of the table has. -/
structure FreshIds (m : State) : Prop where
  session : ∃ id m', m.generate_session_id = some (id, m') ∧ m.sessions.lookup id = none ∧
    ∀ l, Registered m l → (m.leader l).session_id ≠ id
  seat : ∃ sid m', m.generate_seat_id = some (sid, m') ∧ m.seats.lookup sid = none

/-- There are numbers whose identifiers no session and no seat has, and the
    counter comes to such a number before it comes to that of a leader
    without a session. -/
structure IdsLeft (m : State) : Prop where
  session : ∃ k, session_counter.Mem k ∧ m.sessions.lookup (session_name k) = none
  seat : ∃ k, seat_counter.Mem k ∧ m.seats.lookup (seat_name k) = none
  before : ∀ l k, Registered m l → session_counter.Mem k →
    (m.leader l).session_id = session_name k → m.sessions.lookup (session_name k) = none →
    ∃ k', session_counter.Mem k' ∧ m.sessions.lookup (session_name k') = none ∧
      session_counter.distance m.session_serial k' < session_counter.distance m.session_serial k

theorem FreshIds.idsLeft {m : State} (hserials : SerialsValid m) (h : FreshIds m) :
    IdsLeft m := by
  obtain ⟨id, m', hid, hfree, hleaders⟩ := h.session
  obtain ⟨sid, m'', hsid, hseat⟩ := h.seat
  obtain ⟨k₀, -, -, -, hk₀, rfl, -, hbefore⟩ := hserials.generate_session_id hid
  obtain ⟨k₁, -, -, -, hk₁, rfl, -⟩ := hserials.generate_seat_id hsid
  constructor
  case session => exact ⟨k₀, hk₀, hfree⟩
  case seat => exact ⟨k₁, hk₁, hseat⟩
  case before =>
    intro l k hl hk hid hnone
    refine ⟨k₀, hk₀, hfree, ?_⟩
    -- The number that was taken is the first free one, and is not `k`.
    have hne : session_counter.distance m.session_serial k ≠
        session_counter.distance m.session_serial k₀ := by
      intro heq
      rw [Counter.distance_inj hserials.session hk hk₀ heq] at hid
      exact hleaders l hl hid
    have hnot : ¬ session_counter.distance m.session_serial k <
        session_counter.distance m.session_serial k₀ := fun hlt => hbefore k hk hlt hnone
    omega

theorem IdsLeft.freshIds {m : State} (hserials : SerialsValid m) (h : IdsLeft m) :
    FreshIds m := by
  obtain ⟨id, m', hid⟩ := hserials.generate_session_id_isSome h.session
  obtain ⟨sid, m'', hsid⟩ := hserials.generate_seat_id_isSome h.seat
  obtain ⟨k, -, -, -, hk, rfl, hfree, hbefore⟩ := hserials.generate_session_id hid
  obtain ⟨-, -, -, -, -, -, hseat⟩ := hserials.generate_seat_id hsid
  constructor
  case session =>
    refine ⟨session_name k, m', hid, hfree, fun l hl hleader => ?_⟩
    obtain ⟨k', hk', hfree', hlt⟩ := h.before l k hl hk hleader hfree
    exact hbefore k' hk' hlt hfree'
  case seat => exact ⟨sid, m'', hsid, hseat⟩

/-- The states of a run in which the identifiers are fresh. -/
theorem fresh_ids_iff {c : MainLoop} (h : main_loop.Reachable c) :
    FreshIds c.state ↔ IdsLeft c.state :=
  have hserials := SerialsValid.reachable h
  ⟨FreshIds.idsLeft hserials, IdsLeft.freshIds hserials⟩

/-! ## Section 4: Clients that come and go -/

/-- The unique name of a client. -/
def client (k : Nat) : CString := cstr ":1." ++ percent_u k

/-- The first client opens a session; its collector does not exit. -/
def first_opened : State :=
  { ck_manager_init false 0 with
    session_serial := 2
    leader := Function.update (ck_manager_init false 0).leader 0
      { uid := 1000, pid := 500, service_name := client 0, session_id := session_name 1,
        cookie := cstr "first", job := true }
    next_leader := 1
    leaders := AList.insert (cstr "first") 0 ∅ }

theorem first_opened_reachable : main_loop.Reachable ⟨first_opened, []⟩ := by
  have hinit : main_loop.Reachable ⟨ck_manager_init false 0, [.load_seats_from_dir []]⟩ :=
    .init ⟨false, 0, [], rfl⟩
  have hrun : main_loop.run ⟨ck_manager_init false 0, [.load_seats_from_dir []]⟩
      [.call, .dispatch (.open_session (client 0) (some (1000, 500)) (cstr "first") true)] =
      some ⟨first_opened, []⟩ := rfl
  exact hinit.run hrun

theorem first_opened_leader {l : LeaderRef} (h : Registered first_opened l) : l = 0 := by
  obtain ⟨cookie, hl⟩ := h
  rcases HashTable.lookup_insert_iff.mp hl with ⟨-, rfl⟩ | ⟨-, hl⟩
  · rfl
  · cases hl

/-- The counter is behind the number of the leader that waits. -/
theorem first_opened_fresh : FreshIds first_opened := by
  have hleft : IdsLeft first_opened := by
    constructor
    case session => exact ⟨2, by decide, rfl⟩
    case seat => exact ⟨0, by decide, rfl⟩
    case before =>
      intro l k hl _ hid _
      obtain rfl := first_opened_leader hl
      have hone : session_name 1 = session_name k := hid
      obtain rfl := percent_u_inj (List.append_cancel_left hone)
      exact ⟨2, by decide, rfl, by decide⟩
  exact (fresh_ids_iff first_opened_reachable).mpr hleft

/-- After `n` clients have come and gone, only the leader of the first one is
    registered. -/
structure Waiting (n : Nat) (m : State) : Prop where
  sessions : m.sessions = ∅
  first : m.leaders.lookup (cstr "first") = some 0
  others : ∀ cookie, cookie ≠ cstr "first" → m.leaders.lookup cookie = none
  leader : m.leader 0 = first_opened.leader 0
  next_leader : m.next_leader ≠ 0
  gone : ∀ name ∈ m.gone, ∃ k, 1 ≤ k ∧ k ≤ n ∧ name = client k

theorem Waiting.registered {n : Nat} {m : State} (h : Waiting n m) : Registered m 0 :=
  ⟨_, h.first⟩

theorem State.generate_session_id_empty {m : State} (h : m.sessions = ∅) :
    m.generate_session_id = some (session_name m.session_serial,
      { m with session_serial := nextSerial 1 m.session_serial }) := by
  have hfree : (m.sessions.lookup (cstr "Session" ++ percent_u m.session_serial)).isSome =
      false := by
    rw [h]
    rfl
  simp only [generate_session_id, generateId, hfree, Bool.false_eq_true, if_false,
    Option.map_some]
  rfl

/-- A client asks for a session, goes away, and its leader is removed. -/
def client_labels (k : Nat) : List Label :=
  [.dispatch (.open_session (client k) (some (1000, 500)) (cstr "second") false),
    .dispatch (.name_owner_notify (client k) (client k) []), .call]

/-- The state after the client's request. -/
def second_opened (m : State) (k : Nat) : State :=
  { m with
    session_serial := State.nextSerial 1 m.session_serial
    leader := Function.update m.leader m.next_leader
      { uid := 1000, pid := 500, service_name := client k,
        session_id := session_name m.session_serial, cookie := cstr "second", job := false }
    next_leader := m.next_leader + 1
    leaders := m.leaders.insert (cstr "second") m.next_leader }

theorem client_inj {k k' : Nat} (h : client k = client k') : k = k' :=
  percent_u_inj (List.append_cancel_left h)

section
variable {n : Nat} {m : State}

theorem Waiting.dispatch_open (h : Waiting n m) :
    m.dispatch (.open_session (client (n + 1)) (some (1000, 500)) (cstr "second") false) =
      some (second_opened m (n + 1), []) := by
  have hsender : client (n + 1) ∉ m.gone := by
    intro hmem
    obtain ⟨k, -, hk, heq⟩ := h.gone _ hmem
    have hlt := client_inj heq
    omega
  have hcookie : cstr "second" ∉ m.leaders :=
    AList.lookup_eq_none.mp (h.others _ (by decide))
  have hid := State.generate_session_id_empty h.sessions
  rw [State.dispatch, if_pos ⟨hsender, hcookie⟩, State.create_session_for_sender, hid]
  rfl

/-- The leader that is stored under the name of the client. -/
def of_client (m : State) (k : Nat) (l : LeaderRef) : Bool :=
  decide (((second_opened m k).leader l).service_name = client k)

theorem Waiting.of_client_zero (h : Waiting n m) : of_client m (n + 1) 0 = false := by
  -- The request stores its leader elsewhere, and the first one has the name of the
  -- first client.
  have hleader : (second_opened m (n + 1)).leader 0 = first_opened.leader 0 := by
    rw [← h.leader]
    exact Function.update_of_ne h.next_leader.symm _ _
  apply decide_eq_false
  rw [hleader]
  intro heq
  exact absurd (client_inj heq) (Nat.succ_ne_zero n).symm

theorem of_client_next (m : State) (k : Nat) : of_client m k m.next_leader = true := by
  have hleader : (second_opened m k).leader m.next_leader =
      { uid := 1000, pid := 500, service_name := client k,
        session_id := session_name m.session_serial, cookie := cstr "second", job := false } :=
    Function.update_self _ _ _
  apply decide_eq_true
  rw [hleader]

/-- The leaders after the client's request, with those of the client. -/
theorem Waiting.lookup_second (h : Waiting n m) {cookie : CString} {l : LeaderRef} :
    (second_opened m (n + 1)).leaders.lookup cookie = some l ↔
      (cookie = cstr "second" ∧ l = m.next_leader) ∨ (cookie = cstr "first" ∧ l = 0) := by
  rw [second_opened, HashTable.lookup_insert_iff]
  constructor
  · rintro (hsecond | ⟨-, hl⟩)
    · exact .inl hsecond
    · by_cases hfirst : cookie = cstr "first"
      · rw [hfirst, h.first] at hl
        exact .inr ⟨hfirst, (Option.some.inj hl).symm⟩
      · rw [h.others cookie hfirst] at hl
        cases hl
  · rintro (hsecond | ⟨rfl, rfl⟩)
    · exact .inl hsecond
    · exact .inr ⟨by decide, h.first⟩

/-- The only leader with the client's name is its own. -/
theorem Waiting.stolen (h : Waiting n m) :
    (second_opened m (n + 1)).leaders.stolen (fun _ l => of_client m (n + 1) l) =
      [(cstr "second", m.next_leader)] := by
  have hnodup : ((second_opened m (n + 1)).leaders.stolen
      (fun _ l => of_client m (n + 1) l)).Nodup := (HashTable.nodup_stolen _ _).of_map
  apply List.perm_singleton.mp
  rw [List.perm_ext_iff_of_nodup hnodup (List.nodup_singleton _)]
  rintro ⟨cookie, l⟩
  rw [HashTable.mem_stolen, List.mem_singleton, Prod.mk.injEq, h.lookup_second]
  constructor
  · rintro ⟨hsecond | ⟨-, rfl⟩, hclient⟩
    · exact hsecond
    · rw [h.of_client_zero] at hclient
      cases hclient
  · rintro ⟨rfl, rfl⟩
    exact ⟨.inl ⟨rfl, rfl⟩, of_client_next m (n + 1)⟩

/-- The state when the name of the client has no owner any more. -/
def second_gone (m : State) (k : Nat) : State :=
  { second_opened m k with
    gone := m.gone ++ [client k]
    leaders := (second_opened m k).leaders.keep fun _ l => of_client m k l }

/-- The state when its leader is removed. -/
def second_removed (m : State) (k : Nat) : State :=
  (second_gone m k).ck_session_leader_cancel m.next_leader

theorem second_removed_serial (m : State) (k : Nat) :
    (second_removed m k).session_serial = State.nextSerial 1 m.session_serial := rfl

theorem Waiting.name_owner_notify (h : Waiting n m) :
    (second_opened m (n + 1)).on_name_owner_notify (client (n + 1)) (client (n + 1)) [] =
      (second_gone m (n + 1), [.destroy_entity m.next_leader]) := by
  have hcalls : State.removalOrder ((second_opened m (n + 1)).leaders.stolen
      (fun _ l => of_client m (n + 1) l)) = [(cstr "second", m.next_leader)] := by
    rw [h.stolen]
    rfl
  rw [State.on_name_owner_notify, if_pos rfl]
  dsimp only
  rw [if_pos rfl]
  exact Prod.ext rfl
    (congrArg (List.map fun e : CString × LeaderRef => Call.destroy_entity e.2) hcalls)

theorem Waiting.destroy_entity (h : Waiting n m) :
    (second_gone m (n + 1)).destroy_entity m.next_leader = (second_removed m (n + 1), []) := by
  have hsessions : (second_gone m (n + 1)).sessions = ∅ := h.sessions
  have hnone : (second_gone m (n + 1)).remove_session_for_cookie m.next_leader .destroy_entity =
      none := by
    rw [State.remove_session_for_cookie, hsessions]
    rfl
  rw [State.destroy_entity, hnone]
  rfl

theorem Waiting.run_client (h : Waiting n m) :
    main_loop.run ⟨m, []⟩ (client_labels (n + 1)) = some ⟨second_removed m (n + 1), []⟩ := by
  have hopen : main_loop.next ⟨m, []⟩ (.dispatch (.open_session (client (n + 1))
      (some (1000, 500)) (cstr "second") false)) = some ⟨second_opened m (n + 1), []⟩ := by
    simp [main_loop, main_loop_next, dispatching, h.dispatch_open]
  have hgone : main_loop.next ⟨second_opened m (n + 1), []⟩
      (.dispatch (.name_owner_notify (client (n + 1)) (client (n + 1)) [])) =
      some ⟨second_gone m (n + 1), [.destroy_entity m.next_leader]⟩ := by
    simp [main_loop, main_loop_next, dispatching, State.dispatch, h.name_owner_notify]
  have hremove : main_loop.next ⟨second_gone m (n + 1), [.destroy_entity m.next_leader]⟩ .call =
      some ⟨second_removed m (n + 1), []⟩ := by
    simp [main_loop, main_loop_next, State.call, h.destroy_entity]
  rw [client_labels, LTS.System.run_cons, hopen, Option.bind_some, LTS.System.run_cons, hgone,
    Option.bind_some, LTS.System.run_cons, hremove]
  rfl

theorem Waiting.succ (h : Waiting n m) : Waiting (n + 1) (second_removed m (n + 1)) := by
  have hkeep : ∀ {cookie l}, (second_removed m (n + 1)).leaders.lookup cookie = some l ↔
      cookie = cstr "first" ∧ l = 0 := by
    intro cookie l
    have hlookup : (second_removed m (n + 1)).leaders.lookup cookie = some l ↔
        (second_opened m (n + 1)).leaders.lookup cookie = some l ∧
          of_client m (n + 1) l = false := HashTable.lookup_keep
    rw [hlookup, h.lookup_second]
    constructor
    · rintro ⟨⟨-, rfl⟩ | hfirst, hclient⟩
      · rw [of_client_next] at hclient
        cases hclient
      · exact hfirst
    · rintro ⟨rfl, rfl⟩
      exact ⟨.inr ⟨rfl, rfl⟩, h.of_client_zero⟩
  constructor
  case sessions => exact h.sessions
  case first => exact hkeep.mpr ⟨rfl, rfl⟩
  case others =>
    intro cookie hne
    -- The second leader is gone again, so that no cookie but the first one has a
    -- leader.
    by_contra hsome
    obtain ⟨l, hl⟩ := Option.ne_none_iff_exists'.mp hsome
    exact hne (hkeep.mp hl).1
  case leader =>
    rw [← h.leader]
    have hcancel : (second_removed m (n + 1)).leader 0 = (second_opened m (n + 1)).leader 0 :=
      Function.update_of_ne h.next_leader.symm _ _
    rw [hcancel]
    exact Function.update_of_ne h.next_leader.symm _ _
  case next_leader => exact Nat.succ_ne_zero m.next_leader
  case gone =>
    intro name hmem
    rcases List.mem_append.mp hmem with hmem | hmem
    · obtain ⟨k, hpos, hk, rfl⟩ := h.gone name hmem
      exact ⟨k, hpos, Nat.le_succ_of_le hk, rfl⟩
    · exact ⟨n + 1, Nat.succ_pos n, Nat.le_refl _, List.mem_singleton.mp hmem⟩

/-- The numbers go by, one for each client. -/
theorem exists_waiting (n : Nat) (hn : n + 2 < 2 ^ 31) :
    ∃ m, main_loop.Reachable ⟨m, []⟩ ∧ Waiting n m ∧ m.session_serial = n + 2 := by
  induction n with
  | zero =>
    refine ⟨first_opened, first_opened_reachable, ?_, rfl⟩
    constructor
    case sessions => rfl
    case first => rfl
    case others =>
      intro cookie hne
      exact AList.lookup_insert_ne hne
    case leader => rfl
    case next_leader => decide
    case gone => exact fun name hmem => absurd hmem List.not_mem_nil
  | succ n ih =>
    obtain ⟨m, hreachable, hwaiting, hserial⟩ := ih (Nat.lt_of_succ_lt hn)
    -- One more client comes and goes.
    refine ⟨second_removed m (n + 1), hreachable.run hwaiting.run_client, hwaiting.succ, ?_⟩
    -- The counter does not start again before all numbers have gone by.
    rw [second_removed_serial, hserial, State.nextSerial, if_pos (by omega)]

end

/-- The collector of the first leader still runs when the counter comes to its
    number again. -/
theorem pending_id_reused :
    ∃ m, main_loop.Reachable ⟨m, []⟩ ∧ Registered m 0 ∧ (m.leader 0).job = true ∧
      (∃ m', m.generate_session_id = some ((m.leader 0).session_id, m')) ∧ ¬ FreshIds m := by
  -- All numbers but the last one have gone by. The next client takes that, and the
  -- counter starts again at 1.
  obtain ⟨m, hreachable, hwaiting, hserial⟩ := exists_waiting (2 ^ 31 - 3) (by decide)
  have hwaiting' := hwaiting.succ
  have hone : (second_removed m (2 ^ 31 - 3 + 1)).session_serial = 1 := by
    rw [second_removed_serial, hserial]
    decide
  have hid := State.generate_session_id_empty hwaiting'.sessions
  rw [hone] at hid
  have hleader : session_name 1 = ((second_removed m (2 ^ 31 - 3 + 1)).leader 0).session_id := by
    rw [hwaiting'.leader]
    rfl
  refine ⟨_, hreachable.run hwaiting.run_client, hwaiting'.registered, ?_, ⟨_, hleader ▸ hid⟩, ?_⟩
  · rw [hwaiting'.leader]
    rfl
  · intro hfresh
    -- The identifier that is generated is that of the leader that waits.
    obtain ⟨id, m', hid', -, hleaders⟩ := hfresh.session
    rw [hid] at hid'
    obtain ⟨rfl, -⟩ := Prod.mk.inj (Option.some.inj hid')
    exact hleaders 0 hwaiting'.registered hleader.symm

end CkManager
