import ConsoleKit.Manager.Stack

/-! # The tables of the seats

    Which sessions are in the table of which seat, and which seats are in
    the table of the manager.

    This module provides:
    - what each handler does to the seats: `SameSeats`, `FewerMembers`,
      `NewSeat`, and the lemmas about `ck_seat_add_session`,
    - `SeatsValid`: a session is only in the table of the seat that it
      names, under its own id, and a session that is being opened is in
      none; it holds in every run.
-/

namespace CkManager

open Libc

/-! ## Section 1: What the handlers do to the seats -/

/-- The seat is in the manager's table. -/
def SeatRegistered (m : State) (d : SeatRef) : Prop := ∃ sid, m.seats.lookup sid = some d

/-- Does not change which sessions are at which seats. -/
def Call.Idle : Call → Prop
  | .load_seats_from_dir (_ :: _) | .ck_seat_add_session .. | .remove_dynamic_seat _ => False
  | f => f.claims = []

/-- No seat is added, and none gains a session. -/
structure FewerMembers (m m' : State) : Prop where
  next_session : m'.next_session = m.next_session
  next_seat : m'.next_seat = m.next_seat
  registered : ∀ {sid d}, m'.seats.lookup sid = some d → m.seats.lookup sid = some d
  seat_id : ∀ d, (m'.seat d).id = (m.seat d).id
  member : ∀ {d k x}, (m'.seat d).sessions.lookup k = some x →
    (m.seat d).sessions.lookup k = some x
  id : ∀ x, (m'.session x).id = (m.session x).id
  attached : ∀ x, (m'.session x).seat = (m.session x).seat
  listens : ∀ {x d}, d ∈ (m'.session x).activate → d ∈ (m.session x).activate

/-- A new seat, which `seat` is if it is in the manager's table now. -/
structure NewSeat (m m' : State) (seat : Option SeatRef) : Prop where
  next_seat : m'.next_seat = m.next_seat + 1
  session : m'.session = m.session
  others : ∀ {d}, d ≠ m.next_seat → m'.seat d = m.seat d
  empty : (m'.seat m.next_seat).sessions = ∅
  no_active : (m'.seat m.next_seat).active_session = none
  seats : (seat = none ∧ m'.seats = m.seats) ∨
    (seat = some m.next_seat ∧ m.seats.lookup (m'.seat m.next_seat).id = none ∧
      m'.seats = m.seats.insert (m'.seat m.next_seat).id m.next_seat)

theorem SameSeats.trans {m₁ m₂ m₃ : State} (h : SameSeats m₁ m₂) (h' : SameSeats m₂ m₃) :
    SameSeats m₁ m₃ where
  next_seat := h'.next_seat.trans h.next_seat
  seats := h'.seats.trans h.seats
  id d := (h'.id d).trans (h.id d)
  members d := (h'.members d).trans (h.members d)
  attached x := (h'.attached x).trans (h.attached x)
  activate x := (h'.activate x).trans (h.activate x)

theorem SameSeats.of_eq {m m' : State} (hnext : m'.next_seat = m.next_seat)
    (hseats : m'.seats = m.seats) (hseat : m'.seat = m.seat) (hsession : m'.session = m.session) :
    SameSeats m m' where
  next_seat := hnext
  seats := hseats
  id _ := by rw [hseat]
  members _ := by rw [hseat]
  attached _ := by rw [hsession]
  activate _ := by rw [hsession]

theorem SameSeats.fewerMembers {m m' : State} (h : SameSeats m m')
    (hnext : m'.next_session = m.next_session) (hid : ∀ x, (m'.session x).id = (m.session x).id) :
    FewerMembers m m' where
  next_session := hnext
  next_seat := h.next_seat
  registered hd := h.seats ▸ hd
  seat_id := h.id
  member {d _ _} hx := h.members d ▸ hx
  id := hid
  attached := h.attached
  listens {x _} hd := h.activate x ▸ hd

theorem FewerMembers.of_eq {m m' : State} (hsession : m'.next_session = m.next_session)
    (hseat : m'.next_seat = m.next_seat) (hseats : m'.seats = m.seats)
    (hheap : m'.seat = m.seat) (hheap' : m'.session = m.session) : FewerMembers m m' :=
  (SameSeats.of_eq hseat hseats hheap hheap').fewerMembers hsession fun _ => by rw [hheap']

namespace State

theorem call_same_seats {m : State} {f : Call} {r : State × List Call} (hf : f.Idle)
    (h : m.call f = some r) : SameSeats m r.1 := by
  cases f with
  | callout => cases h
  | load_seats_from_dir files =>
    cases files with
    | nil =>
      cases h
      exact .refl m
    | cons file files => cases hf
  | ck_seat_add_session | remove_dynamic_seat | remove_session | destroy_entity => cases hf
  | session_opened x is_local =>
    cases h
    refine ⟨rfl, rfl, fun _ => rfl, fun _ => rfl, fun y => ?_, fun y => ?_⟩
    all_goals
      by_cases heq : y = x
      · subst heq
        simp [setSession]
      · simp [setSession, heq]
  | maybe_update_active_session d =>
    cases h
    exact (m.maybe_update_active_session_only d).1.sameSeats
  | update_active_vt d num =>
    cases h
    exact (m.change_active_session_only d _).1.sameSeats
  | seat_added | queue_processed | seat_removed =>
    cases h
    exact .of_eq rfl rfl rfl rfl

theorem dispatch_same_seats {m : State} {event : Event} {r : State × List Call}
    (hevent : event.Quiet) (h : m.dispatch event = some r) : SameSeats m r.1 := by
  cases event with
  | open_session | job_completed | close_session | name_owner_notify => cases hevent
  | process_queue num =>
    obtain rfl := dispatch_process_queue h
    unfold process_queue
    split <;> exact .of_eq rfl rfl rfl rfl
  | seat_activate_session d ssid switches =>
    cases h
    exact (m.ck_seat_activate_session_only d _ switches).sameSeats
  | seat_switch_to d vtnr switches =>
    cases h
    exact (m.dbus_switch_to_only d vtnr switches).sameSeats
  | session_activate x switches =>
    cases h
    exact (m.dbus_activate_only x switches).sameSeats
  | activate_session session_id switches =>
    cases h
    exact (m.dbus_activate_session_only session_id switches).sameSeats
  | activate_session_on_seat session_id seat_id switches =>
    cases h
    exact (m.dbus_activate_session_on_seat_only session_id seat_id switches).sameSeats
  | vt_leave x =>
    cases h
    exact (OnlyActive.setSession m x false).sameSeats

/-! ### Leaders and the table of sessions -/

theorem setLeader_fewer (m : State) (l : LeaderRef) (s : CkSessionLeader) :
    FewerMembers m (m.setLeader l s) := .of_eq rfl rfl rfl rfl rfl

/-- A new leader leaves sessions and seats alone. -/
theorem create_session_heaps {m m' : State} {sender cookie : CString}
    {caller : Option (Nat × Nat)} {started : Bool}
    (h : m.create_session_for_sender sender caller cookie started = some m') :
    m'.session = m.session ∧ m'.next_session = m.next_session ∧ m'.sessions = m.sessions ∧
    m'.seat = m.seat ∧ m'.next_seat = m.next_seat ∧ m'.seats = m.seats := by
  cases caller with
  | none =>
    cases h
    exact ⟨rfl, rfl, rfl, rfl, rfl, rfl⟩
  | some c =>
    obtain ⟨⟨ssid, m₁⟩, hid, rfl⟩ := Option.map_eq_some_iff.mp h
    obtain ⟨-, serial, rfl⟩ := generate_session_id_free hid
    exact ⟨rfl, rfl, rfl, rfl, rfl, rfl⟩

theorem create_session_fewer {m m' : State} {sender cookie : CString}
    {caller : Option (Nat × Nat)} {started : Bool}
    (h : m.create_session_for_sender sender caller cookie started = some m') :
    FewerMembers m m' := by
  obtain ⟨hsession, hnext, -, hseat, hnext', hseats⟩ := create_session_heaps h
  exact .of_eq hnext hnext' hseats hseat hsession

theorem session_removed_fewer (m : State) (l : LeaderRef) (x : SessionRef)
    (caller : RemovalCaller) : FewerMembers m (m.session_removed l x caller) := by
  cases caller <;> exact .of_eq rfl rfl rfl rfl rfl

theorem name_owner_fewer (m : State) (service_name old_service_name new_service_name : CString) :
    FewerMembers m (m.on_name_owner_notify service_name old_service_name new_service_name).1 := by
  unfold on_name_owner_notify
  split <;> exact .of_eq rfl rfl rfl rfl rfl

theorem name_owner_opening (m : State)
    (service_name old_service_name new_service_name : CString) :
    ∀ f ∈ (m.on_name_owner_notify service_name old_service_name new_service_name).2,
      f.opening = [] := by
  intro f hf
  unfold on_name_owner_notify at hf
  split at hf
  · obtain ⟨e, -, rfl⟩ := List.mem_map.mp hf
    rfl
  · cases hf

/-! ### Seats that come and go -/

/-- The heap with a new seat, registered or not. -/
theorem registerSeat_seat (m : State) (sid : CString) (kind : CkSeatKind) (registers : Bool) :
    ((m.ck_seat_new sid kind).2.registerSeat (m.ck_seat_new sid kind).1 registers).2.1.seat =
      Function.update m.seat m.next_seat
        { id := sid, kind := kind, sessions := ∅, active_session := none,
          connected := registers } := by
  cases kind <;> cases registers <;> simp [ck_seat_new, registerSeat, setSeat]

theorem registerSeat_new {m : State} {sid : CString} (kind : CkSeatKind)
    (hsid : m.seats.lookup sid = none) (registers : Bool) :
    NewSeat m ((m.ck_seat_new sid kind).2.registerSeat (m.ck_seat_new sid kind).1 registers).2.1
      ((m.ck_seat_new sid kind).2.registerSeat (m.ck_seat_new sid kind).1 registers).1 := by
  have hseat := m.registerSeat_seat sid kind registers
  constructor
  case next_seat => cases kind <;> cases registers <;> rfl
  case session => cases kind <;> cases registers <;> rfl
  case others =>
    intro d hd
    rw [hseat, Function.update_of_ne hd]
  case empty => rw [hseat, Function.update_self]
  case no_active => rw [hseat, Function.update_self]
  case seats =>
    rw [hseat, Function.update_self]
    cases registers with
    | false => cases kind <;> exact .inl ⟨rfl, rfl⟩
    | true => cases kind <;> exact .inr ⟨rfl, hsid, by simp [ck_seat_new, registerSeat, setSeat]⟩

theorem add_new_seat_new {m : State} {kind : CkSeatKind} {registers : Bool}
    {r : Option SeatRef × State × List Call} (h : m.add_new_seat kind registers = some r) :
    NewSeat m r.2.1 r.1 := by
  obtain ⟨⟨sid, m₁⟩, hid, rfl⟩ := Option.map_eq_some_iff.mp h
  obtain ⟨hfree, serial, rfl⟩ := generate_seat_id_free hid
  obtain ⟨h₁, h₂, h₃, h₄, h₅, h₆⟩ :=
    registerSeat_new (m := { m with seat_serial := serial }) kind hfree registers
  exact ⟨h₁, h₂, h₃, h₄, h₅, h₆⟩

theorem add_seat_for_file_heaps {m : State} {file : SeatFile} {r : State × List Call}
    (h : m.add_seat_for_file file = some r) :
    (r.1.session = m.session ∧ r.1.seat = m.seat ∧ r.1.next_seat = m.next_seat ∧
      r.1.seats = m.seats) ∨ ∃ seat, NewSeat m r.1 seat := by
  obtain ⟨⟨sid, m₁⟩, hid, rfl⟩ := Option.map_eq_some_iff.mp h
  obtain ⟨hfree, serial, rfl⟩ := generate_seat_id_free hid
  dsimp only
  split
  · obtain ⟨h₁, h₂, h₃, h₄, h₅, h₆⟩ := registerSeat_new
      (m := { m with seat_serial := serial }) .STATIC hfree file.registers
    exact .inr ⟨_, h₁, h₂, h₃, h₄, h₅, h₆⟩
  · exact .inl ⟨rfl, rfl, rfl, rfl⟩

theorem add_seat_for_file_new {m : State} {file : SeatFile} {r : State × List Call}
    (h : m.add_seat_for_file file = some r) :
    SameSeats m r.1 ∨ ∃ seat, NewSeat m r.1 seat :=
  (add_seat_for_file_heaps h).imp_left fun ⟨hsession, hseat, hnext, hseats⟩ =>
    .of_eq hnext hseats hseat hsession

theorem remove_seat_fewer (m : State) (d : SeatRef) : FewerMembers m (m.remove_seat d).1 := by
  unfold remove_seat
  split
  · exact .of_eq rfl rfl rfl rfl rfl
  · rename_i orig _
    have hseat : ∀ d', ((m.setSeat orig { m.seat orig with connected := false }).seat d').id =
        (m.seat d').id ∧ ((m.setSeat orig { m.seat orig with connected := false }).seat d').sessions
          = (m.seat d').sessions := by
      intro d'
      by_cases heq : d' = orig
      · subst heq
        simp [setSeat]
      · simp [setSeat, heq]
    refine ⟨rfl, rfl, fun hd => (HashTable.lookup_erase_iff.mp hd).2, fun d' => (hseat d').1,
      fun {d' _ _} hx => ?_, fun _ => rfl, fun _ => rfl, id⟩
    rw [← (hseat d').2]
    exact hx

/-! ### Sessions that come and go -/

section
variable {m : State} {d : SeatRef} {x : SessionRef}

theorem attach_members (d' : SeatRef) :
    ((m.ck_seat_add_session (some d) x).1.seat d').sessions =
      if d' = d then (m.seat d).sessions.insert (m.session x).id x
      else (m.seat d').sessions := by
  by_cases h : d' = d
  · subst h
    simp [ck_seat_add_session, setSeat, setSession]
  · simp [ck_seat_add_session, setSeat, setSession, h]

theorem attach_seat_id (d' : SeatRef) :
    ((m.ck_seat_add_session (some d) x).1.seat d').id = (m.seat d').id := by
  by_cases h : d' = d
  · subst h
    simp [ck_seat_add_session, setSeat, setSession]
  · simp [ck_seat_add_session, setSeat, setSession, h]

theorem attach_session (y : SessionRef) :
    (m.ck_seat_add_session (some d) x).1.session y =
      if y = x then { m.session x with seat := some d, activate := (m.session x).activate ++ [d] }
      else m.session y := by
  by_cases h : y = x
  · subst h
    simp [ck_seat_add_session, setSeat, setSession]
  · simp [ck_seat_add_session, setSeat, setSession, h]

/-- The table of a seat that a session leaves. -/
theorem detach_members (hmem : ((m.seat d).sessions.lookup (m.session x).id).isSome = true)
    (d' : SeatRef) :
    ((m.ck_seat_remove_session d x).1.seat d').sessions =
      if d' = d then (m.seat d).sessions.erase (m.session x).id else (m.seat d').sessions := by
  unfold ck_seat_remove_session
  rw [if_pos hmem]
  by_cases h : d' = d
  · subst h
    simp [setSeat, setSession]
  · simp [setSeat, setSession, h]

theorem detach_fewer (m : State) (d : SeatRef) (x : SessionRef) :
    FewerMembers m (m.ck_seat_remove_session d x).1 := by
  by_cases hmem : ((m.seat d).sessions.lookup (m.session x).id).isSome = true
  · have hmembers := fun d' => detach_members hmem d'
    have hid := (m.ck_seat_remove_session_same d x).1.id
    constructor
    case next_session => exact (m.ck_seat_remove_session_same d x).1.next_session
    case next_seat =>
      unfold ck_seat_remove_session
      rw [if_pos hmem]
      rfl
    case registered =>
      intro sid d' hd
      unfold ck_seat_remove_session at hd
      rw [if_pos hmem] at hd
      exact hd
    case seat_id =>
      intro d'
      unfold ck_seat_remove_session
      rw [if_pos hmem]
      by_cases h : d' = d
      · subst h
        simp [setSeat, setSession]
      · simp [setSeat, setSession, h]
    case member =>
      intro d' k y hy
      rw [hmembers d'] at hy
      split at hy
      · rename_i heq
        subst heq
        exact (HashTable.lookup_erase_iff.mp hy).2
      · exact hy
    case id => exact hid
    case attached =>
      intro y
      unfold ck_seat_remove_session
      rw [if_pos hmem]
      by_cases h : y = x
      · subst h
        simp [setSeat, setSession]
      · simp [setSeat, setSession, h]
    case listens =>
      intro y d' hd
      unfold ck_seat_remove_session at hd
      rw [if_pos hmem] at hd
      by_cases h : y = x
      · subst h
        simp only [setSeat, setSession, Function.update_self] at hd
        exact (List.mem_filter.mp hd).1
      · simpa [setSeat, setSession, h] using hd
  · unfold ck_seat_remove_session
    rw [if_neg hmem]
    exact .of_eq rfl rfl rfl rfl rfl

end

theorem remove_session_for_cookie_fewer {m : State} {l : LeaderRef} {caller : RemovalCaller}
    {r : State × List Call} (h : m.remove_session_for_cookie l caller = some r) :
    FewerMembers m r.1 := by
  obtain ⟨x, -, rfl⟩ := Option.map_eq_some_iff.mp h
  split
  · exact m.detach_fewer _ x
  · exact .of_eq rfl rfl rfl rfl rfl

/-- The calls that are left of a removal open no session. -/
theorem remove_session_for_cookie_opening {m : State} {l : LeaderRef} {caller : RemovalCaller}
    {r : State × List Call} (h : m.remove_session_for_cookie l caller = some r) :
    ∀ f ∈ r.2, f.opening = [] := by
  obtain ⟨x, calls, -, -, hquiet, hcalls⟩ := remove_session_for_cookie_spec h
  intro f hf
  rw [hcalls] at hf
  rcases List.mem_append.mp hf with hf | hf
  · exact (hquiet f hf).2
  · rw [List.mem_singleton.mp hf]
    rfl

end State

/-! ## Section 2: The invariant -/

/-- What holds of the tables of the seats between two steps. -/
structure SeatsValid (m : State) (stack : List Call) : Prop where
  registered : ∀ {sid d}, m.seats.lookup sid = some d → d < m.next_seat ∧ (m.seat d).id = sid
  member : ∀ {d k x}, (m.seat d).sessions.lookup k = some x →
    x < m.next_session ∧ (m.session x).id = k ∧ (m.session x).seat = some d
  attached : ∀ {x d}, (m.session x).seat = some d → d < m.next_seat
  listens : ∀ {x d}, d ∈ (m.session x).activate → (m.session x).seat = some d
  opening_nodup : (opening stack).Nodup
  opening_new : ∀ {x}, x ∈ opening stack → x < m.next_session ∧ (m.session x).seat = none
  adding : ∀ {d x}, .ck_seat_add_session (some d) x ∈ stack → d < m.next_seat

namespace SeatsValid

variable {m m' : State} {stack stack' : List Call}

/-- Steps that add no seat and no session to a seat. -/
theorem mono (h : SeatsValid m stack) (hless : FewerMembers m m')
    (hopening : (opening stack').Sublist (opening stack))
    (hadding : ∀ {d x}, .ck_seat_add_session (some d) x ∈ stack' →
      .ck_seat_add_session (some d) x ∈ stack) : SeatsValid m' stack' := by
  constructor
  case registered =>
    intro sid d hd
    rw [hless.next_seat, hless.seat_id]
    exact h.registered (hless.registered hd)
  case member =>
    intro d k x hx
    rw [hless.next_session, hless.id, hless.attached]
    exact h.member (hless.member hx)
  case attached =>
    intro x d hd
    rw [hless.attached] at hd
    rw [hless.next_seat]
    exact h.attached hd
  case listens =>
    intro x d hd
    rw [hless.attached]
    exact h.listens (hless.listens hd)
  case opening_nodup => exact h.opening_nodup.sublist hopening
  case opening_new =>
    intro x hx
    rw [hless.next_session, hless.attached]
    exact h.opening_new (hopening.subset hx)
  case adding =>
    intro d x hx
    rw [hless.next_seat]
    exact h.adding (hadding hx)

/-- Calls that open no session can be put on the stack. -/
theorem append (h : SeatsValid m stack) {calls : List Call}
    (hcalls : ∀ f ∈ calls, f.opening = []) : SeatsValid m (calls ++ stack) := by
  refine h.mono (.of_eq rfl rfl rfl rfl rfl) ?_ ?_
  · rw [opening, List.flatMap_append, List.flatMap_eq_nil_iff.mpr hcalls]
    exact .refl _
  · intro d x hx
    rcases List.mem_append.mp hx with hx | hx
    · cases hcalls _ hx
    · exact hx

theorem pop {f : Call} {rest : List Call} (h : SeatsValid m (f :: rest)) :
    SeatsValid m rest :=
  h.mono (.of_eq rfl rfl rfl rfl rfl) (List.sublist_append_right f.opening _)
    fun hx => List.mem_cons_of_mem f hx

theorem newSeat (h : SeatsValid m stack) {seat : Option SeatRef} (hnew : NewSeat m m' seat)
    (hnext : m'.next_session = m.next_session) : SeatsValid m' stack := by
  constructor
  case registered =>
    intro sid d hd
    rw [hnew.next_seat]
    rcases hnew.seats with ⟨-, heq⟩ | ⟨-, -, heq⟩
    · rw [heq] at hd
      obtain ⟨hlt, hid⟩ := h.registered hd
      rw [hnew.others (Nat.ne_of_lt hlt)]
      exact ⟨Nat.lt_succ_of_lt hlt, hid⟩
    · rw [heq] at hd
      rcases HashTable.lookup_insert_iff.mp hd with ⟨rfl, rfl⟩ | ⟨-, hd⟩
      · exact ⟨Nat.lt_succ_self _, rfl⟩
      · obtain ⟨hlt, hid⟩ := h.registered hd
        rw [hnew.others (Nat.ne_of_lt hlt)]
        exact ⟨Nat.lt_succ_of_lt hlt, hid⟩
  case member =>
    intro d k x hx
    rw [hnext, hnew.session]
    by_cases heq : d = m.next_seat
    · rw [heq, hnew.empty, AList.lookup_empty] at hx
      cases hx
    · rw [hnew.others heq] at hx
      exact h.member hx
  case attached =>
    intro x d hd
    rw [hnew.session] at hd
    rw [hnew.next_seat]
    exact Nat.lt_succ_of_lt (h.attached hd)
  case listens =>
    intro x d hd
    rw [hnew.session] at hd ⊢
    exact h.listens hd
  case opening_nodup => exact h.opening_nodup
  case opening_new =>
    intro x hx
    rw [hnext, hnew.session]
    exact h.opening_new hx
  case adding =>
    intro d x hx
    rw [hnew.next_seat]
    exact Nat.lt_succ_of_lt (h.adding hx)

/-- A session is attached to its seat. -/
theorem attach {d : SeatRef} {x : SessionRef} {rest : List Call}
    (h : SeatsValid m (.ck_seat_add_session (some d) x :: rest)) :
    SeatsValid (m.ck_seat_add_session (some d) x).1 rest := by
  obtain ⟨hx, hnone⟩ := h.opening_new (x := x) List.mem_cons_self
  obtain ⟨hfree, hnodup⟩ := List.nodup_cons.mp h.opening_nodup
  have hmembers := fun d' => State.attach_members (m := m) (d := d) (x := x) d'
  have hsession := fun y => State.attach_session (m := m) (d := d) (x := x) y
  have hid : ∀ y, ((m.ck_seat_add_session (some d) x).1.session y).id = (m.session y).id :=
    (m.ck_seat_add_session_same (some d) x).1.id
  constructor
  case registered =>
    intro sid d' hd
    rw [State.attach_seat_id]
    exact h.registered hd
  case member =>
    intro d' k y hy
    rw [hid, hsession]
    -- The session had no seat, so it was a member of none.
    have hold : ∀ {d'}, (m.seat d').sessions.lookup k = some y → y ≠ x := by
      rintro d' hy' rfl
      rw [(h.member hy').2.2] at hnone
      cases hnone
    rw [hmembers] at hy
    split at hy
    · rename_i heq
      subst heq
      rcases HashTable.lookup_insert_iff.mp hy with ⟨rfl, rfl⟩ | ⟨-, hy⟩
      · rw [if_pos rfl]
        exact ⟨hx, rfl, rfl⟩
      · rw [if_neg (hold hy)]
        exact h.member hy
    · rw [if_neg (hold hy)]
      exact h.member hy
  case attached =>
    intro y d' hd
    rw [hsession] at hd
    split at hd
    · cases hd
      exact h.adding List.mem_cons_self
    · exact h.attached hd
  case listens =>
    intro y d' hd
    rw [hsession] at hd ⊢
    split at hd
    · rw [if_pos ‹_›]
      -- Only its new seat listens to the session.
      rcases List.mem_append.mp hd with hd | hd
      · rw [h.listens hd] at hnone
        cases hnone
      · rw [List.mem_singleton.mp hd]
    · rw [if_neg ‹_›]
      exact h.listens hd
  case opening_nodup => exact hnodup
  case opening_new =>
    intro y hy
    rw [hsession, if_neg]
    · exact h.opening_new (List.mem_cons_of_mem _ hy)
    · rintro rfl
      exact hfree hy
  case adding =>
    intro d' y hy
    exact h.adding (List.mem_cons_of_mem _ hy)

/-- A new session, which has no seat yet. -/
theorem insertSession (h : SeatsValid m stack) {s : CkSession} (hseat : s.seat = none)
    (hactivate : s.activate = []) : SeatsValid (m.insertSession m.next_session s) stack := by
  have hkeep : ∀ {x}, x < m.next_session →
      Function.update m.session m.next_session s x = m.session x :=
    fun hx => Function.update_of_ne (Nat.ne_of_lt hx) _ _
  constructor
  case registered => exact h.registered
  case member =>
    intro d k x hx
    obtain ⟨hlt, hid, hd⟩ := h.member hx
    refine ⟨Nat.lt_succ_of_lt hlt, ?_⟩
    show (Function.update m.session m.next_session s x).id = k ∧
      (Function.update m.session m.next_session s x).seat = some d
    rw [hkeep hlt]
    exact ⟨hid, hd⟩
  case attached =>
    intro x d hd
    change (Function.update m.session m.next_session s x).seat = some d at hd
    by_cases heq : x = m.next_session
    · rw [heq, Function.update_self, hseat] at hd
      cases hd
    · rw [Function.update_of_ne heq] at hd
      exact h.attached hd
  case listens =>
    intro x d hd
    change d ∈ (Function.update m.session m.next_session s x).activate at hd
    show (Function.update m.session m.next_session s x).seat = some d
    by_cases heq : x = m.next_session
    · rw [heq, Function.update_self, hactivate] at hd
      cases hd
    · rw [Function.update_of_ne heq] at hd ⊢
      exact h.listens hd
  case opening_nodup => exact h.opening_nodup
  case opening_new =>
    intro x hx
    obtain ⟨hlt, hnone⟩ := h.opening_new hx
    refine ⟨Nat.lt_succ_of_lt hlt, ?_⟩
    show (Function.update m.session m.next_session s x).seat = none
    rw [hkeep hlt]
    exact hnone
  case adding => exact h.adding

/-- The call that attaches a new session is left to make. -/
theorem push (h : SeatsValid m stack) {seat : Option SeatRef} {x : SessionRef}
    (hx : x < m.next_session) (hnone : (m.session x).seat = none) (hfree : x ∉ opening stack)
    (hseat : ∀ d, seat = some d → d < m.next_seat) :
    SeatsValid m (.ck_seat_add_session seat x :: stack) := by
  constructor
  case registered => exact h.registered
  case member => exact h.member
  case attached => exact h.attached
  case listens => exact h.listens
  case opening_nodup => exact List.nodup_cons.mpr ⟨hfree, h.opening_nodup⟩
  case opening_new =>
    intro y hy
    rcases List.mem_cons.mp hy with rfl | hy
    · exact ⟨hx, hnone⟩
    · exact h.opening_new hy
  case adding =>
    intro d y hy
    rcases List.mem_cons.mp hy with hy | hy
    · cases hy
      exact hseat d rfl
    · exact h.adding hy

/-! ## Section 3: Preservation -/

theorem init (vfd : Bool) (active_num : Nat) (files : List SeatFile) :
    SeatsValid (ck_manager_init vfd active_num) [.load_seats_from_dir files] := by
  have hempty : ∀ {k : CString}, (∅ : HashTable CString Nat).lookup k = none :=
    AList.lookup_empty _
  constructor
  case registered =>
    intro sid d hd
    exact absurd (hempty.symm.trans hd) (by simp)
  case member =>
    intro d k x hx
    exact absurd (hempty.symm.trans hx) (by simp)
  case attached =>
    intro x d hd
    cases hd
  case listens =>
    intro x d hd
    cases hd
  case opening_nodup => exact List.nodup_nil
  case opening_new =>
    intro x hx
    cases hx
  case adding =>
    intro d x hx
    cases List.mem_singleton.mp hx

theorem job_completed (h : SeatsValid m stack) {l : LeaderRef} {result : Option Opening}
    {r : State × List Call} (hr : m.job_completed l result = some r) :
    SeatsValid r.1 (r.2 ++ stack) := by
  have hended : SeatsValid (m.setLeader l { m.leader l with job := false }) stack :=
    h.mono (m.setLeader_fewer l _) (.refl _) id
  rcases State.job_completed_cases hr with
    rfl | ⟨o, is_local, seat, calls, rfl, -, hsame, hquiet, hcalls, hseat⟩
  · exact hended
  · have hinsert : SeatsValid (m.insertOpened l o) stack := hended.insertSession rfl rfl
    have hopened : SeatsValid r.1 stack ∧ (r.1.session m.next_session).seat = none ∧
        ∀ d, seat = some d → d < r.1.next_seat := by
      have hfresh : ((m.insertOpened l o).session m.next_session).seat = none := by
        show (Function.update m.session m.next_session _ m.next_session).seat = none
        rw [Function.update_self]
        rfl
      rcases hseat with ⟨d, rfl, hd, heq, -⟩ | ⟨-, hadd⟩
      · rw [heq]
        refine ⟨hinsert, hfresh, fun d' hd' => ?_⟩
        cases hd'
        unfold State.find_seat_for_session at hd
        dsimp only at hd
        split at hd
        · exact (hinsert.registered hd).1
        · cases hd
      · have hnew : NewSeat (m.insertOpened l o) r.1 seat := State.add_new_seat_new hadd
        refine ⟨hinsert.newSeat hnew hsame.next_session, ?_, fun d hd => ?_⟩
        · rw [hnew.session]
          exact hfresh
        · subst hd
          rcases hnew.seats with ⟨hnone, -⟩ | ⟨hsome, -⟩
          · cases hnone
          · cases hsome
            rw [hnew.next_seat]
            exact Nat.lt_succ_self _
    obtain ⟨hvalid, hnone, hlt⟩ := hopened
    have hfree : m.next_session ∉ opening stack := fun hmem =>
      Nat.lt_irrefl _ (h.opening_new hmem).1
    have hquiet_opened :
        ∀ f ∈ [Call.session_opened m.next_session is_local], f.opening = [] := by
      simp [Call.opening]
    have hpush := (hvalid.append hquiet_opened).push (x := m.next_session)
      (hsame.next_session ▸ Nat.lt_succ_self _) hnone hfree hlt
    rw [hcalls, List.append_assoc]
    exact hpush.append fun f hf => (hquiet f hf).2

theorem destroy_entity (h : SeatsValid m stack) (l : LeaderRef) :
    SeatsValid (m.destroy_entity l).1 ((m.destroy_entity l).2 ++ stack) := by
  rcases m.destroy_entity_cases l with ⟨-, heq⟩ | ⟨r, hr, heq⟩
  · rw [heq]
    exact h.mono (m.setLeader_fewer l _) (.refl _) id
  · rw [heq]
    exact (h.mono (State.remove_session_for_cookie_fewer hr) (.refl _) id).append
      (State.remove_session_for_cookie_opening hr)

theorem dbus_close_session (h : SeatsValid m stack) (caller : Option (Nat × Nat))
    (cookie : CString) : SeatsValid (m.dbus_close_session caller cookie).1
      ((m.dbus_close_session caller cookie).2 ++ stack) := by
  rcases m.dbus_close_session_cases caller cookie with heq | ⟨_, _, l, r, -, -, hr, heq⟩
  · rw [heq]
    exact h
  · rw [heq]
    exact (h.mono (State.remove_session_for_cookie_fewer hr) (.refl _) id).append
      (State.remove_session_for_cookie_opening hr)

theorem name_owner_notify (h : SeatsValid m stack)
    (service_name old_service_name new_service_name : CString) :
    SeatsValid (m.on_name_owner_notify service_name old_service_name new_service_name).1
      ((m.on_name_owner_notify service_name old_service_name new_service_name).2 ++ stack) :=
  (h.mono (m.name_owner_fewer _ _ _) (.refl _) id).append (m.name_owner_opening _ _ _)

theorem call {f : Call} {rest : List Call} (h : SeatsValid m (f :: rest))
    {r : State × List Call} (hr : m.call f = some r) : SeatsValid r.1 (r.2 ++ rest) := by
  have hidle : f.Idle → SeatsValid r.1 (r.2 ++ rest) := by
    intro hf
    have hclaims : f.claims = [] := by cases f <;> first | rfl | cases hf
    obtain ⟨hsame, hquiet⟩ := State.call_same hclaims hr
    exact ((h.pop).mono ((State.call_same_seats hf hr).fewerMembers hsame.next_session
      hsame.id) (.refl _) id).append fun g hg => (hquiet g hg).2
  cases f with
  | load_seats_from_dir files =>
    cases files with
    | nil => exact hidle rfl
    | cons file files =>
      obtain ⟨hsame, hquiet⟩ := State.call_same rfl hr
      obtain ⟨r, hadd, rfl⟩ := Option.map_eq_some_iff.mp hr
      refine SeatsValid.append ?_ fun g hg => (hquiet g hg).2
      rcases State.add_seat_for_file_new hadd with hseats | ⟨seat, hnew⟩
      · exact h.pop.mono (hseats.fewerMembers hsame.next_session hsame.id) (.refl _) id
      · exact h.pop.newSeat hnew hsame.next_session
  | ck_seat_add_session seat x =>
    have hquiet := (State.call_same rfl hr).2
    cases hr
    refine SeatsValid.append ?_ fun g hg => (hquiet g hg).2
    cases seat with
    | some d => exact h.attach
    -- the session stays without a seat
    | none => exact h.pop
  | remove_dynamic_seat d =>
    have hquiet := (State.call_same rfl hr).2
    cases hr
    refine SeatsValid.append ?_ fun g hg => (hquiet g hg).2
    split
    · exact h.pop.mono (m.remove_seat_fewer d) (.refl _) id
    · exact h.pop
  | remove_session l x caller =>
    cases hr
    exact h.pop.mono (m.session_removed_fewer l x caller) (.refl _) id
  | destroy_entity l =>
    cases hr
    exact h.pop.destroy_entity l
  | callout => cases hr
  | seat_added | session_opened | maybe_update_active_session | update_active_vt
    | queue_processed | seat_removed => exact hidle rfl

/-- **Step lemma**: every step keeps the invariant. -/
theorem step {c c' : MainLoop} {label : Label} (h : SeatsValid c.state c.stack)
    (hnext : main_loop.next c label = some c') : SeatsValid c'.state c'.stack := by
  obtain ⟨m, stack⟩ := c
  cases main_loop_step hnext with
  | @dispatch event r hloop hr =>
    cases event with
    | open_session sender caller cookie started =>
      obtain ⟨-, m', hm', rfl⟩ := State.dispatch_open_session hr
      exact h.mono (State.create_session_fewer hm') (.refl _) id
    | job_completed l result =>
      obtain ⟨-, hr⟩ := State.dispatch_job_completed hr
      exact h.job_completed hr
    | close_session caller cookie =>
      cases hr
      exact h.dbus_close_session caller cookie
    | name_owner_notify service_name old_service_name new_service_name =>
      cases hr
      exact h.name_owner_notify _ _ _
    | process_queue | seat_activate_session | seat_switch_to | session_activate
      | activate_session | activate_session_on_seat | vt_leave =>
      obtain ⟨hsame, hquiet⟩ := State.dispatch_same (by trivial) hr
      exact (h.mono ((State.dispatch_same_seats (by trivial) hr).fewerMembers hsame.next_session
        hsame.id) (.refl _) id).append fun f hf => (hquiet f hf).2
  | @call f rest r hstack hr =>
    obtain rfl : stack = f :: rest := hstack
    exact h.call hr
  | @callout_done action rest hstack =>
    obtain rfl : stack = .callout action :: rest := hstack
    exact h.pop

end SeatsValid

end CkManager
