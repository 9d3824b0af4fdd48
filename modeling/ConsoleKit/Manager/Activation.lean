import ConsoleKit.Manager.Removal
import ConsoleKit.Manager.Seats

/-! # The ways to activate a session

    The seat, the session and the manager have methods that activate a
    session, and all of them end in `ck_seat_activate_session`.  The seat
    looks the session up by the path that its callers send, in a table whose
    keys are ids; the manager looks up ids, and asks no seat whether the
    session is there.

    This module provides:
    - the methods, with their answers,
    - `Refuses`: when `ck_seat_activate_session` fails and changes nothing,
    - `ListensValid`: a session of a seat is connected to it, once,
    - `activation_agrees`: when the methods do the same.
-/

namespace CkManager

open Libc

/-! ## Section 1: The methods -/

inductive CkActivationError where
  | CK_SEAT_ERROR_FAILED | CK_SEAT_ERROR_NOT_SUPPORTED | CK_SEAT_ERROR_GENERAL
  | CK_SESSION_ERROR_NOT_SUPPORTED | CK_SESSION_ERROR_GENERAL
  | CK_MANAGER_ERROR_INVALID_INPUT | CK_MANAGER_ERROR_NO_SEATS | CK_MANAGER_ERROR_FAILED
  deriving DecidableEq

/-- The state after a method, and the error that it answers with. -/
abbrev Answer := State × Option CkActivationError

namespace State

/-- `dbus_activate_session` of the seat: the code of the error stays. -/
def seat_dbus_activate_session (m : State) (d : SeatRef) (ssid : CString) (switches : Bool) :
    Answer :=
  let r := m.seat_activate_session d ssid switches
  (r.1, r.2.map fun
    | .FAILED => .CK_SEAT_ERROR_FAILED
    | .NOT_SUPPORTED => .CK_SEAT_ERROR_NOT_SUPPORTED)

/-- `dbus_switch_to` of the seat; only a static seat has a VT monitor. -/
def seat_dbus_switch_to (m : State) (d : SeatRef) (vtnr : Nat) (switches : Bool) : Answer :=
  match (m.seat d).sessions.values.find? fun x => (m.session x).vtnr = vtnr with
  | some x => m.seat_dbus_activate_session d (m.session x).id switches
  | none =>
    if (m.seat d).kind ≠ .STATIC then (m, some .CK_SEAT_ERROR_GENERAL)
    else (m, (m.ck_vt_monitor_set_active vtnr switches).map fun _ => .CK_SEAT_ERROR_FAILED)

/-- `dbus_activate` of the session: the answer of the last seat that is
    connected, and no error if none is. -/
def session_dbus_activate (m : State) (x : SessionRef) (switches : Bool) : Answer :=
  let r : State × Option CkSeatError := (m.session x).activate.foldl
    (fun r d => r.1.ck_seat_activate_session d (some x) switches) (m, none)
  (r.1, r.2.map fun
    | .FAILED => .CK_SESSION_ERROR_GENERAL
    | .NOT_SUPPORTED => .CK_SESSION_ERROR_NOT_SUPPORTED)

/-- `dbus_activate_session_on_seat` of the manager. -/
def manager_dbus_activate_session_on_seat (m : State) (session_id seat_id : CString)
    (switches : Bool) : Answer :=
  match m.sessions.lookup session_id with
  | none => (m, some .CK_MANAGER_ERROR_INVALID_INPUT)
  | some x =>
    match m.seats.lookup seat_id with
    | none => (m, some .CK_MANAGER_ERROR_INVALID_INPUT)
    | some d =>
      let r := m.ck_seat_activate_session d (some x) switches
      (r.1, r.2.map fun _ => .CK_MANAGER_ERROR_FAILED)

/-- `dbus_activate_session` of the manager. -/
def manager_dbus_activate_session (m : State) (session_id : CString) (switches : Bool) : Answer :=
  match m.sessions.lookup session_id with
  | none => (m, some .CK_MANAGER_ERROR_INVALID_INPUT)
  | some x =>
    match (m.session x).seat with
    | none => (m, some .CK_MANAGER_ERROR_NO_SEATS)
    | some d => m.manager_dbus_activate_session_on_seat session_id (m.seat d).id switches

/-! ### The events of the main loop -/

theorem session_activate_fold (x : SessionRef) (switches : Bool) (ds : List SeatRef)
    (r : State × Option CkSeatError) :
    (ds.foldl (fun r d => r.1.ck_seat_activate_session d (some x) switches) r).1 =
      ds.foldl (fun m d => (m.ck_seat_activate_session d (some x) switches).1) r.1 := by
  induction ds generalizing r with
  | nil => rfl
  | cons d ds ih => exact ih _

/-- What the main loop does at a request is what the method does. -/
theorem dispatch_request (m : State) (d : SeatRef) (x : SessionRef) (ssid seat_id : CString)
    (vtnr : Nat) (switches : Bool) :
    m.dispatch (.seat_activate_session d ssid switches) =
        some ((m.seat_dbus_activate_session d ssid switches).1, []) ∧
    m.dispatch (.seat_switch_to d vtnr switches) =
        some ((m.seat_dbus_switch_to d vtnr switches).1, []) ∧
    m.dispatch (.session_activate x switches) =
        some ((m.session_dbus_activate x switches).1, []) ∧
    m.dispatch (.activate_session ssid switches) =
        some ((m.manager_dbus_activate_session ssid switches).1, []) ∧
    m.dispatch (.activate_session_on_seat ssid seat_id switches) =
        some ((m.manager_dbus_activate_session_on_seat ssid seat_id switches).1, []) := by
  have hseat : ∀ seat_id, m.dbus_activate_session_on_seat ssid seat_id switches =
      (m.manager_dbus_activate_session_on_seat ssid seat_id switches).1 := by
    intro seat_id
    unfold dbus_activate_session_on_seat manager_dbus_activate_session_on_seat
    cases m.sessions.lookup ssid with
    | none => rfl
    | some y => cases m.seats.lookup seat_id <;> rfl
  refine ⟨rfl, ?_, ?_, ?_, ?_⟩
  · simp only [dispatch, dbus_switch_to, seat_dbus_switch_to]
    cases (m.seat d).sessions.values.find? fun x => decide ((m.session x).vtnr = vtnr) with
    | some y => rfl
    | none =>
      dsimp only
      split <;> rfl
  · simp only [dispatch, dbus_activate, session_dbus_activate, session_activate_fold]
  · simp only [dispatch, dbus_activate_session, manager_dbus_activate_session]
    cases m.sessions.lookup ssid with
    | none => rfl
    | some y =>
      cases hd : (m.session y).seat with
      | none => simp only [hd]
      | some d' => simp only [hd, hseat]
  · simp only [dispatch, hseat]

end State

/-! ## Section 2: When an activation is refused -/

/-- The seat cannot switch to the session, and has not marked another one as
    inactive when it finds out. -/
def Refuses (m : State) (d : SeatRef) (x : SessionRef) (switches : Bool) : Prop :=
  (m.seat d).kind ≠ .STATIC ∨ m.console_num x = none ∨
  ∃ num, m.console_num x = some num ∧ num ≠ m.vt_monitor.active_num ∧
    (m.vt_monitor.vfd = false ∨ switches = false) ∧
    ∀ old, (m.seat d).active_session = some old → old ≠ x → (m.session old).active = false

/-- The method fails and changes nothing. -/
def Answer.Refused (m : State) (r : Answer) : Prop := r.1 = m ∧ r.2.isSome = true

namespace State

theorem set_active_eq {m : State} {x : SessionRef} {active : Bool} :
    m.ck_session_set_active x active = m ↔ (m.session x).active = active := by
  unfold ck_session_set_active
  split
  · exact iff_of_true rfl ‹_›
  · rename_i hne
    refine iff_of_false (fun heq => hne ?_) hne
    have hx := congrArg (fun m => (m.session x).active) heq
    simpa [setSession, eq_comm] using hx

theorem deactivate_other_eq {m : State} {d : SeatRef} {x : SessionRef} :
    m.deactivate_other d x = m ↔
      ∀ old, (m.seat d).active_session = some old → old ≠ x → (m.session old).active = false := by
  unfold deactivate_other
  split
  · rename_i hactive
    refine iff_of_true rfl fun old hold hne => ?_
    rw [hactive] at hold
    exact absurd (Option.some.inj hold).symm hne
  · rename_i hactive
    cases hold : (m.seat d).active_session with
    | none => simp
    | some old =>
      rw [Option.elim_some, set_active_eq]
      constructor
      · rintro h old' heq -
        rwa [← Option.some.inj heq]
      · intro h
        refine h old rfl fun heq => hactive ?_
        rw [hold, heq]

theorem deactivate_other_vt (m : State) (d : SeatRef) (x : SessionRef) :
    (m.deactivate_other d x).vt_monitor = m.vt_monitor := by
  rw [(m.deactivate_other_only d x).rest]

theorem ck_seat_activate_session_refused {m : State} {d : SeatRef} {x : SessionRef}
    {switches : Bool} :
    ((m.ck_seat_activate_session d (some x) switches).1 = m ∧
      (m.ck_seat_activate_session d (some x) switches).2.isSome = true) ↔
      Refuses m d x switches := by
  unfold ck_seat_activate_session Refuses
  by_cases hkind : (m.seat d).kind ≠ .STATIC
  · rw [if_pos hkind]
    exact iff_of_true ⟨rfl, rfl⟩ (.inl hkind)
  · rw [if_neg hkind]
    dsimp only
    cases hnum : m.console_num x with
    | none => exact iff_of_true ⟨rfl, rfl⟩ (.inr (.inl rfl))
    | some num =>
      dsimp only
      rw [← deactivate_other_eq]
      unfold ck_vt_monitor_set_active
      rw [deactivate_other_vt]
      by_cases hactive : num = m.vt_monitor.active_num
      · rw [if_pos hactive]
        simp [hkind, hactive]
      · rw [if_neg hactive]
        cases m.vt_monitor.vfd <;> cases switches <;> simp [hkind, hactive]

end State

/-! ## Section 3: The sessions of a seat -/

/-- The seats that a session listens to after it has left one. -/
theorem State.detach_activate (m : State) (d : SeatRef) (x y : SessionRef) :
    ((m.ck_seat_remove_session d x).1.session y).activate = (m.session y).activate ∨
    (x = y ∧ ((m.seat d).sessions.lookup (m.session x).id).isSome = true ∧
      ((m.ck_seat_remove_session d x).1.session y).activate =
        (m.session y).activate.filter fun d' => d' ≠ d) := by
  unfold State.ck_seat_remove_session
  split
  · rename_i hmem
    by_cases heq : y = x
    · subst heq
      exact .inr ⟨rfl, hmem, by simp [State.setSeat, State.setSession]⟩
    · exact .inl (by simp [State.setSeat, State.setSession, heq])
  · exact .inl rfl

/-- An identifier of a session, or a text that starts as one. -/
def IsSessionId (id : CString) : Prop := ∃ rest, id = cstr "Session" ++ rest

/-- What holds of the sessions of the seats between two steps. -/
structure ListensValid (m : State) (stack : List Call) : Prop where
  connected : ∀ {d k x}, (m.seat d).sessions.lookup k = some x → (m.session x).activate = [d]
  opening : ∀ {x}, x ∈ opening stack → (m.session x).activate = []
  session_id : ∀ {x}, x < m.next_session → IsSessionId (m.session x).id
  leader_id : ∀ {l}, (m.leader l).job = true → IsSessionId (m.leader l).session_id

theorem State.generateId_label {label : CString} {first n serial : Nat} {taken : CString → Bool}
    {r : CString × Nat} (h : State.generateId label first taken n serial = some r) :
    ∃ rest, r.1 = label ++ rest := by
  induction n generalizing serial with
  | zero => cases h
  | succ n ih =>
    rw [State.generateId] at h
    split at h
    · exact ih h
    · cases h
      exact ⟨_, rfl⟩

theorem State.generate_session_id_label {m m' : State} {id : CString}
    (h : m.generate_session_id = some (id, m')) : IsSessionId id := by
  obtain ⟨r, hr, heq⟩ := Option.map_eq_some_iff.mp h
  obtain rfl : r.1 = id := (Prod.mk.inj heq).1
  exact State.generateId_label hr

namespace ListensValid

variable {m m' : State} {stack stack' : List Call}

/-- Steps that connect no session. -/
theorem mono (h : ListensValid m stack)
    (hmember : ∀ {d k x}, (m'.seat d).sessions.lookup k = some x →
      (m.seat d).sessions.lookup k = some x ∧ (m'.session x).activate = (m.session x).activate)
    (hopening : ∀ {x}, x ∈ CkManager.opening stack' →
      x ∈ CkManager.opening stack ∧ (m'.session x).activate = (m.session x).activate)
    (hnext : m'.next_session = m.next_session)
    (hid : ∀ x, (m'.session x).id = (m.session x).id)
    (hleader : ∀ {l}, (m'.leader l).job = true →
      (m.leader l).job = true ∧ (m'.leader l).session_id = (m.leader l).session_id) :
    ListensValid m' stack' where
  connected hx := by
    obtain ⟨hx, hactivate⟩ := hmember hx
    rw [hactivate]
    exact h.connected hx
  opening hx := by
    obtain ⟨hx, hactivate⟩ := hopening hx
    rw [hactivate]
    exact h.opening hx
  session_id {x} hx := by
    rw [hid]
    exact h.session_id (hnext ▸ hx)
  leader_id hl := by
    obtain ⟨hl, hid⟩ := hleader hl
    rw [hid]
    exact h.leader_id hl

/-- Steps that leave the sessions and the tables of the seats alone. -/
theorem same (h : ListensValid m stack) (hseats : SameSeats m m') (hsame : SameSessions m m')
    (hopening : CkManager.opening stack' = CkManager.opening stack) : ListensValid m' stack' :=
  h.mono (fun {d _ x} hx => ⟨hseats.members d ▸ hx, hseats.activate x⟩)
    (fun {x} hx => ⟨hopening ▸ hx, hseats.activate x⟩) hsame.next_session hsame.id
    fun hl => by
      rw [hsame.leader] at hl ⊢
      exact ⟨hl, rfl⟩

/-- Calls that open no session can be put on the stack. -/
theorem append (h : ListensValid m stack) {calls : List Call}
    (hcalls : ∀ f ∈ calls, f.opening = []) : ListensValid m (calls ++ stack) := by
  refine h.same (.refl m) (.refl m) ?_
  rw [CkManager.opening, List.flatMap_append, List.flatMap_eq_nil_iff.mpr hcalls]
  rfl

theorem pop {f : Call} {rest : List Call} (h : ListensValid m (f :: rest)) :
    ListensValid m rest :=
  h.mono (fun hx => ⟨hx, rfl⟩) (fun hx => ⟨List.mem_append_right f.opening hx, rfl⟩) rfl
    (fun _ => rfl) fun hl => ⟨hl, rfl⟩

theorem newSeat (h : ListensValid m stack) {seat : Option SeatRef} (hnew : NewSeat m m' seat)
    (hsame : SameSessions m m') : ListensValid m' stack := by
  refine h.mono (fun {d k x} hx => ?_) (fun hx => ⟨hx, by rw [hnew.session]⟩) hsame.next_session
    hsame.id fun hl => ?_
  · by_cases heq : d = m.next_seat
    · rw [heq, hnew.empty, AList.lookup_empty] at hx
      cases hx
    · rw [hnew.others heq] at hx
      exact ⟨hx, by rw [hnew.session]⟩
  · rw [hsame.leader] at hl ⊢
    exact ⟨hl, rfl⟩

theorem attach {d : SeatRef} {x : SessionRef} {rest : List Call}
    (h : ListensValid m (.ck_seat_add_session (some d) x :: rest))
    (hseats : SeatsValid m (.ck_seat_add_session (some d) x :: rest)) :
    ListensValid (m.ck_seat_add_session (some d) x).1 rest := by
  obtain ⟨hfree, -⟩ := List.nodup_cons.mp hseats.opening_nodup
  have hnew : (m.session x).activate = [] := h.opening List.mem_cons_self
  have hsame := (m.ck_seat_add_session_same (some d) x).1
  -- the session is at no seat yet
  have hnone : ∀ {d' k y}, (m.seat d').sessions.lookup k = some y → y ≠ x := by
    rintro d' k y hy rfl
    have hseat := (hseats.member hy).2.2
    rw [(hseats.opening_new (x := y) List.mem_cons_self).2] at hseat
    cases hseat
  constructor
  · intro d' k y hy
    rw [State.attach_members] at hy
    rw [State.attach_session]
    split at hy
    · rename_i heq
      subst heq
      rcases HashTable.lookup_insert_iff.mp hy with ⟨-, rfl⟩ | ⟨-, hy⟩
      · rw [if_pos rfl, hnew]
        rfl
      · rw [if_neg (hnone hy)]
        exact h.connected hy
    · rw [if_neg (hnone hy)]
      exact h.connected hy
  · intro y hy
    rw [State.attach_session, if_neg]
    · exact h.opening (List.mem_cons_of_mem _ hy)
    · rintro rfl
      exact hfree hy
  · intro y hy
    rw [hsame.id]
    exact h.session_id (hsame.next_session ▸ hy)
  · intro l hl
    rw [hsame.leader] at hl ⊢
    exact h.leader_id hl

theorem detach (h : ListensValid m stack) (hseats : SeatsValid m stack) (d : SeatRef)
    (x : SessionRef) : ListensValid (m.ck_seat_remove_session d x).1 stack := by
  have hsame := (m.ck_seat_remove_session_same d x).1
  have hactivate := fun y => m.detach_activate d x y
  refine ⟨fun {d' k y} hy => ?_, fun {y} hy => ?_, fun {y} hy => ?_, fun {l} hl => ?_⟩
  · have hold := (m.detach_fewer d x).member hy
    have hconnected := h.connected hold
    rcases hactivate y with heq | ⟨rfl, hmem, heq⟩
    · rw [heq]
      exact hconnected
    · have hne : d' ≠ d := by
        rintro rfl
        rw [State.detach_members hmem, if_pos rfl, (hseats.member hold).2.1,
          AList.lookup_erase] at hy
        cases hy
      rw [heq, hconnected]
      simp [hne]
  · have hnone := h.opening hy
    rcases hactivate y with heq | ⟨rfl, -, heq⟩
    · rw [heq]
      exact hnone
    · rw [heq, hnone]
      rfl
  · rw [hsame.id]
    exact h.session_id (hsame.next_session ▸ hy)
  · rw [hsame.leader] at hl ⊢
    exact h.leader_id hl

theorem remove_session_for_cookie (h : ListensValid m stack) (hseats : SeatsValid m stack)
    {l : LeaderRef} {caller : RemovalCaller} {r : State × List Call}
    (hr : m.remove_session_for_cookie l caller = some r) : ListensValid r.1 (r.2 ++ stack) := by
  refine ListensValid.append ?_ (State.remove_session_for_cookie_opening hr)
  obtain ⟨x, -, rfl⟩ := Option.map_eq_some_iff.mp hr
  split
  · exact h.detach hseats _ x
  · exact h

/-- A collector is cancelled, or ends. -/
theorem setLeader (h : ListensValid m stack) (l : LeaderRef) :
    ListensValid (m.setLeader l { m.leader l with job := false }) stack := by
  refine h.mono (fun hx => ⟨hx, rfl⟩) (fun hx => ⟨hx, rfl⟩) rfl (fun _ => rfl) fun {l'} hl => ?_
  by_cases heq : l' = l
  · subst heq
    simp [State.setLeader] at hl
  · simpa [State.setLeader, heq] using hl

theorem insertOpened (h : ListensValid m stack) (hseats : SeatsValid m stack) {l : LeaderRef}
    (hjob : (m.leader l).job = true) (o : Opening) : ListensValid (m.insertOpened l o) stack := by
  have hended := h.setLeader l
  have hkeep : ∀ {x}, x < m.next_session →
      (m.insertOpened l o).session x = m.session x :=
    fun hx => Function.update_of_ne (Nat.ne_of_lt hx) _ _
  refine ⟨fun {d k x} hx => ?_, fun {x} hx => ?_, fun {x} hx => ?_, hended.leader_id⟩
  · rw [hkeep (hseats.member hx).1]
    exact h.connected hx
  · rw [hkeep (hseats.opening_new hx).1]
    exact h.opening hx
  · rcases Nat.lt_succ_iff_lt_or_eq.mp hx with hlt | rfl
    · rw [hkeep hlt]
      exact h.session_id hlt
    · show IsSessionId (Function.update m.session m.next_session _ m.next_session).id
      rw [Function.update_self]
      show IsSessionId (Function.update m.leader l _ l).session_id
      rw [Function.update_self]
      exact h.leader_id hjob

/-- The call that attaches a new session is left to make. -/
theorem push (h : ListensValid m stack) (seat : Option SeatRef) {x : SessionRef}
    (hx : (m.session x).activate = []) :
    ListensValid m (.ck_seat_add_session seat x :: stack) where
  connected := h.connected
  opening hy := by
    rcases List.mem_cons.mp hy with rfl | hy
    · exact hx
    · exact h.opening hy
  session_id := h.session_id
  leader_id := h.leader_id

theorem job_completed (h : ListensValid m stack) (hseats : SeatsValid m stack) {l : LeaderRef}
    (hjob : (m.leader l).job = true) {result : Option Opening} {r : State × List Call}
    (hr : m.job_completed l result = some r) : ListensValid r.1 (r.2 ++ stack) := by
  rcases State.job_completed_cases hr with
    rfl | ⟨o, is_local, seat, calls, -, -, hsame, hquiet, hcalls, hseat⟩
  · exact h.setLeader l
  · have hinsert := h.insertOpened hseats hjob o
    have hfresh : ((m.insertOpened l o).session m.next_session).activate = [] := by
      show (Function.update m.session m.next_session _ m.next_session).activate = []
      rw [Function.update_self]
      rfl
    have hopened : ListensValid r.1 stack ∧ (r.1.session m.next_session).activate = [] := by
      rcases hseat with ⟨d, -, -, heq, -⟩ | ⟨-, hadd⟩
      · rw [heq]
        exact ⟨hinsert, hfresh⟩
      · have hnew : NewSeat (m.insertOpened l o) r.1 seat := State.add_new_seat_new hadd
        rw [hnew.session]
        exact ⟨hinsert.newSeat hnew hsame, hfresh⟩
    have hmarks : ∀ f ∈ [Call.session_opened m.next_session is_local], f.opening = [] := by
      simp [Call.opening]
    rw [hcalls, List.append_assoc]
    exact ((hopened.1.append hmarks).push seat hopened.2).append fun f hf => (hquiet f hf).2

theorem open_session (h : ListensValid m stack) {sender cookie : CString}
    {caller : Option (Nat × Nat)} {started : Bool}
    (hm : m.create_session_for_sender sender caller cookie started = some m') :
    ListensValid m' stack := by
  cases caller with
  | none =>
    cases hm
    exact h
  | some c =>
    obtain ⟨⟨ssid, m₁⟩, hid, rfl⟩ := Option.map_eq_some_iff.mp hm
    have hlabel := State.generate_session_id_label hid
    obtain ⟨-, serial, rfl⟩ := State.generate_session_id_free hid
    refine ⟨h.connected, h.opening, h.session_id, fun {l} hl => ?_⟩
    change (Function.update m.leader m.next_leader _ l).job = true at hl
    show IsSessionId (Function.update m.leader m.next_leader _ l).session_id
    by_cases heq : l = m.next_leader
    · rw [heq, Function.update_self]
      exact hlabel
    · rw [Function.update_of_ne heq] at hl ⊢
      exact h.leader_id hl

theorem destroy_entity (h : ListensValid m stack) (hseats : SeatsValid m stack) (l : LeaderRef) :
    ListensValid (m.destroy_entity l).1 ((m.destroy_entity l).2 ++ stack) := by
  rcases m.destroy_entity_cases l with ⟨-, heq⟩ | ⟨r, hr, heq⟩
  · rw [heq]
    exact h.setLeader l
  · rw [heq]
    exact h.remove_session_for_cookie hseats hr

theorem init (vfd : Bool) (active_num : Nat) (files : List SeatFile) :
    ListensValid (ck_manager_init vfd active_num) [.load_seats_from_dir files] := by
  refine ⟨fun {d k x} hx => ?_, fun hx => (by cases hx), fun hx => (by cases hx),
    fun hl => (by cases hl)⟩
  exact absurd ((AList.lookup_empty k).symm.trans hx) (by simp)

theorem call {f : Call} {rest : List Call} (h : ListensValid m (f :: rest))
    (hseats : SeatsValid m (f :: rest)) {r : State × List Call} (hr : m.call f = some r) :
    ListensValid r.1 (r.2 ++ rest) := by
  -- Calls that touch neither seats nor sessions.
  have hidle : f.Idle → ListensValid r.1 (r.2 ++ rest) := by
    intro hf
    have hclaims : f.claims = [] := by cases f <;> first | rfl | cases hf
    obtain ⟨hsame, hquiet⟩ := State.call_same hclaims hr
    exact (h.pop.same (State.call_same_seats hf hr) hsame rfl).append fun g hg => (hquiet g hg).2
  cases f with
  | callout => cases hr
  | load_seats_from_dir files =>
    cases files with
    | nil => exact hidle rfl
    | cons file files =>
      obtain ⟨hsame, hquiet⟩ := State.call_same rfl hr
      obtain ⟨r, hadd, rfl⟩ := Option.map_eq_some_iff.mp hr
      refine ListensValid.append ?_ fun g hg => (hquiet g hg).2
      rcases State.add_seat_for_file_new hadd with hseats' | ⟨seat, hnew⟩
      · exact h.pop.same hseats' hsame rfl
      · exact h.pop.newSeat hnew hsame
  | ck_seat_add_session seat x =>
    have hquiet := (State.call_same rfl hr).2
    cases hr
    refine ListensValid.append ?_ fun g hg => (hquiet g hg).2
    cases seat with
    | some d => exact h.attach hseats
    | none => exact h.pop
  | remove_dynamic_seat d =>
    obtain ⟨hsame, hquiet⟩ := State.call_same rfl hr
    cases hr
    refine ListensValid.append ?_ fun g hg => (hquiet g hg).2
    split
    · have hfewer := m.remove_seat_fewer d
      have hsession : (m.remove_seat d).1.session = m.session := by
        unfold State.remove_seat
        split <;> rfl
      refine h.pop.mono (fun hx => ⟨hfewer.member hx, by rw [hsession]⟩)
        (fun hx => ⟨hx, by rw [hsession]⟩) hfewer.next_session hfewer.id fun hl => ?_
      rw [(m.remove_seat_same d).1.leader] at hl ⊢
      exact ⟨hl, rfl⟩
    · exact h.pop
  | remove_session l x caller =>
    cases hr
    cases caller with
    | dbus_close_session =>
      exact h.pop.mono (fun hx => ⟨hx, rfl⟩) (fun hx => ⟨hx, rfl⟩) rfl (fun _ => rfl)
        fun hl => ⟨hl, rfl⟩
    | destroy_entity =>
      have hcancelled := h.pop.setLeader l
      exact ⟨hcancelled.connected, hcancelled.opening, hcancelled.session_id,
        hcancelled.leader_id⟩
  | destroy_entity l =>
    cases hr
    exact h.pop.destroy_entity hseats.pop l
  | seat_added | session_opened | maybe_update_active_session | update_active_vt
    | queue_processed | seat_removed => exact hidle rfl

/-- **Step lemma**: every step keeps the invariant. -/
theorem step {c c' : MainLoop} {label : Label} (h : ListensValid c.state c.stack)
    (hseats : SeatsValid c.state c.stack) (hnext : main_loop.next c label = some c') :
    ListensValid c'.state c'.stack := by
  obtain ⟨m, stack⟩ := c
  cases main_loop_step hnext with
  | @dispatch event r hloop hr =>
    cases event with
    | open_session sender caller cookie started =>
      obtain ⟨-, m', hm', rfl⟩ := State.dispatch_open_session hr
      exact h.open_session hm'
    | job_completed l result =>
      obtain ⟨hjob, hr⟩ := State.dispatch_job_completed hr
      exact h.job_completed hseats hjob hr
    | close_session caller cookie =>
      cases hr
      rcases m.dbus_close_session_cases caller cookie with heq | ⟨_, _, l, r, -, -, hr, heq⟩
      · rw [heq]
        exact h
      · rw [heq]
        exact h.remove_session_for_cookie hseats hr
    | name_owner_notify service_name old_service_name new_service_name =>
      cases hr
      refine ListensValid.append ?_ (m.name_owner_opening _ _ _)
      unfold State.on_name_owner_notify
      split
      · exact ⟨h.connected, h.opening, h.session_id, h.leader_id⟩
      · exact h
    | process_queue | seat_activate_session | seat_switch_to | session_activate
      | activate_session | activate_session_on_seat | vt_leave =>
      obtain ⟨hsame, hquiet⟩ := State.dispatch_same (by trivial) hr
      exact (h.same (State.dispatch_same_seats (by trivial) hr) hsame rfl).append
        fun f hf => (hquiet f hf).2
  | @call f rest r hstack hr =>
    obtain rfl : stack = f :: rest := hstack
    exact h.call hseats hr
  | @callout_done action rest hstack =>
    obtain rfl : stack = .callout action :: rest := hstack
    exact h.pop

end ListensValid

theorem listensValid {c : MainLoop} (h : main_loop.Reachable c) :
    SeatsValid c.state c.stack ∧ ListensValid c.state c.stack := by
  refine h.invariant (I := fun c => SeatsValid c.state c.stack ∧ ListensValid c.state c.stack)
    ?_ ?_
  · rintro c ⟨vfd, active_num, files, rfl⟩
    exact ⟨.init vfd active_num files, .init vfd active_num files⟩
  · rintro c label c' ⟨hseats, hlistens⟩ hnext
    exact ⟨hseats.step hnext, hlistens.step hseats hnext⟩

/-! ## Section 4: The methods agree -/

def AtSeat (m : State) (d : SeatRef) (x : SessionRef) : Prop :=
  ∃ k, (m.seat d).sessions.lookup k = some x

/-- The state after a method, and whether it succeeds. -/
def Answer.outcome (r : Answer) : State × Bool := (r.1, r.2.isNone)

/-- All methods do with a session what the seat does when it gets its path. -/
structure Agree (m : State) (d : SeatRef) (x : SessionRef) (switches : Bool) : Prop where
  switch_to : (∀ y, AtSeat m d y → (m.session y).vtnr = (m.session x).vtnr → y = x) →
    (m.seat_dbus_switch_to d (m.session x).vtnr switches).outcome =
      (m.seat_dbus_activate_session d (m.ck_session_get_path x) switches).outcome
  activate : (m.session_dbus_activate x switches).outcome =
    (m.seat_dbus_activate_session d (m.ck_session_get_path x) switches).outcome
  activate_session : (m.manager_dbus_activate_session (m.session x).id switches).outcome =
    (m.seat_dbus_activate_session d (m.ck_session_get_path x) switches).outcome
  activate_session_on_seat :
    (m.manager_dbus_activate_session_on_seat (m.session x).id (m.seat d).id switches).outcome =
      (m.seat_dbus_activate_session d (m.ck_session_get_path x) switches).outcome

/-- A seat does not activate a session of another one. -/
structure StaysOff (m : State) (d : SeatRef) (x : SessionRef) (switches : Bool) : Prop where
  activate_session :
    (m.seat_dbus_activate_session d (m.ck_session_get_path x) switches).Refused m
  activate_session_on_seat :
    (m.manager_dbus_activate_session_on_seat (m.session x).id (m.seat d).id switches).Refused m

/-- Neither the session nor the one that the manager has under its id can be
    switched to. -/
def NoneActivates (m : State) (d : SeatRef) (x : SessionRef) (switches : Bool) : Prop :=
  Refuses m d x switches ∧ ∀ y, m.sessions.lookup (m.session x).id = some y →
    Refuses m d y switches ∧ ∀ d', m.seat_of_session y = some d' → Refuses m d' y switches

theorem Answer.outcome_eq {m : State} {r : Answer} : r.outcome = (m, false) ↔ r.Refused m := by
  unfold Answer.outcome Answer.Refused
  rw [Prod.mk.injEq, Option.isNone_eq_false_iff]

section methods
variable {m : State} {stack : List Call} {d : SeatRef} {x : SessionRef} {switches : Bool}

/-- The keys of the table of a seat are no paths. -/
theorem lookup_path (hseats : SeatsValid m stack) (hlistens : ListensValid m stack)
    (d : SeatRef) (x : SessionRef) :
    (m.seat d).sessions.lookup (m.ck_session_get_path x) = none := by
  by_contra hne
  obtain ⟨y, hy⟩ := Option.ne_none_iff_exists'.mp hne
  obtain ⟨hlt, hid, -⟩ := hseats.member hy
  obtain ⟨rest, hrest⟩ := hlistens.session_id hlt
  rw [hid] at hrest
  exact absurd (List.cons.inj hrest).1 (by decide)

theorem seat_path_refused (hseats : SeatsValid m stack) (hlistens : ListensValid m stack)
    (d : SeatRef) (x : SessionRef) (switches : Bool) :
    (m.seat_dbus_activate_session d (m.ck_session_get_path x) switches).Refused m := by
  unfold State.seat_dbus_activate_session State.seat_activate_session
  rw [lookup_path hseats hlistens]
  unfold State.ck_seat_activate_session
  split <;> exact ⟨rfl, rfl⟩

theorem seat_refused (hx : (m.seat d).sessions.lookup (m.session x).id = some x) :
    (m.seat_dbus_activate_session d (m.session x).id switches).Refused m ↔
      Refuses m d x switches := by
  unfold State.seat_dbus_activate_session State.seat_activate_session Answer.Refused
  rw [hx, Option.isSome_map]
  exact State.ck_seat_activate_session_refused

theorem switch_to_refused (hx : (m.seat d).sessions.lookup (m.session x).id = some x)
    (honly : ∀ y, AtSeat m d y → (m.session y).vtnr = (m.session x).vtnr → y = x) :
    (m.seat_dbus_switch_to d (m.session x).vtnr switches).Refused m ↔
      Refuses m d x switches := by
  have hfind : (m.seat d).sessions.values.find?
      (fun y => decide ((m.session y).vtnr = (m.session x).vtnr)) = some x := by
    cases hy : (m.seat d).sessions.values.find?
        (fun y => decide ((m.session y).vtnr = (m.session x).vtnr)) with
    | none =>
      have hmem : x ∈ (m.seat d).sessions.values := HashTable.mem_values.mpr ⟨_, hx⟩
      exact absurd (decide_eq_true rfl) (List.find?_eq_none.mp hy x hmem)
    | some y =>
      have hmem := HashTable.mem_values.mp (List.mem_of_find?_eq_some hy)
      have hvtnr : (m.session y).vtnr = (m.session x).vtnr := by simpa using List.find?_some hy
      rw [honly y hmem hvtnr]
  unfold State.seat_dbus_switch_to
  rw [hfind]
  exact seat_refused hx

theorem activate_refused (hx : (m.session x).activate = [d]) :
    (m.session_dbus_activate x switches).Refused m ↔ Refuses m d x switches := by
  unfold State.session_dbus_activate Answer.Refused
  rw [hx, Option.isSome_map]
  exact State.ck_seat_activate_session_refused

theorem on_seat_refused {ssid sid : CString} (hd : m.seats.lookup sid = some d) :
    (m.manager_dbus_activate_session_on_seat ssid sid switches).Refused m ↔
      ∀ y, m.sessions.lookup ssid = some y → Refuses m d y switches := by
  unfold State.manager_dbus_activate_session_on_seat Answer.Refused
  cases hy : m.sessions.lookup ssid with
  | none => simp
  | some y =>
    simp only [hd, Option.isSome_map, Option.some.injEq, forall_eq']
    exact State.ck_seat_activate_session_refused

theorem manager_refused {ssid : CString} :
    (m.manager_dbus_activate_session ssid switches).Refused m ↔
      ∀ y, m.sessions.lookup ssid = some y → ∀ d', m.seat_of_session y = some d' →
        Refuses m d' y switches := by
  unfold State.manager_dbus_activate_session State.seat_of_session
  cases hy : m.sessions.lookup ssid with
  | none => simp [Answer.Refused]
  | some y =>
    dsimp only
    cases hd : (m.session y).seat with
    | none => simp [Answer.Refused, hd]
    | some d =>
      simp only [Option.some.injEq, forall_eq', hd, Option.bind_some]
      cases hd' : m.seats.lookup (m.seat d).id with
      | none =>
        simp [Answer.Refused, State.manager_dbus_activate_session_on_seat, hy, hd']
      | some d' =>
        rw [on_seat_refused hd', hy]
        simp

end methods

/-- **Activation.**  The methods agree about a session of a seat exactly when
    none of them activates it, since the seat never does; and a seat
    refuses a session of another one exactly when it cannot switch to it. -/
theorem activation_agrees {c : MainLoop} (h : main_loop.Reachable c) {d : SeatRef}
    (hd : SeatRegistered c.state d) (switches : Bool) :
    (∀ x, AtSeat c.state d x →
      (Agree c.state d x switches ↔ NoneActivates c.state d x switches)) ∧
    (∀ x, c.state.sessions.lookup (c.state.session x).id = some x → ¬ AtSeat c.state d x →
      (StaysOff c.state d x switches ↔ Refuses c.state d x switches)) := by
  obtain ⟨m, stack⟩ := c
  obtain ⟨hseats, hlistens⟩ := listensValid h
  obtain ⟨sid, hsid⟩ := hd
  have hid : m.seats.lookup (m.seat d).id = some d := by
    rw [(hseats.registered hsid).2]
    exact hsid
  have hpath := fun x => seat_path_refused hseats hlistens d x switches
  constructor
  · rintro x ⟨k, hk⟩
    have hx : (m.seat d).sessions.lookup (m.session x).id = some x := by
      rw [(hseats.member hk).2.1]
      exact hk
    have hseat := Answer.outcome_eq.mpr (hpath x)
    constructor
    · rintro ⟨-, hactivate, hmanager, hon_seat⟩
      rw [hseat, Answer.outcome_eq] at hactivate hmanager hon_seat
      refine ⟨(activate_refused (hlistens.connected hk)).mp hactivate, fun y hy => ⟨?_, ?_⟩⟩
      · exact (on_seat_refused hid).mp hon_seat y hy
      · exact manager_refused.mp hmanager y hy
    · rintro ⟨hrefuses, hmanager⟩
      constructor
      · intro honly
        rw [hseat, Answer.outcome_eq]
        exact (switch_to_refused hx honly).mpr hrefuses
      · rw [hseat, Answer.outcome_eq]
        exact (activate_refused (hlistens.connected hk)).mpr hrefuses
      · rw [hseat, Answer.outcome_eq]
        exact manager_refused.mpr fun y hy => (hmanager y hy).2
      · rw [hseat, Answer.outcome_eq]
        exact (on_seat_refused hid).mpr fun y hy => (hmanager y hy).1
  · intro x hx _
    constructor
    · intro hoff
      exact (on_seat_refused hid).mp hoff.activate_session_on_seat x hx
    · intro hrefuses
      refine ⟨hpath x, (on_seat_refused hid).mpr fun y hy => ?_⟩
      rw [hx] at hy
      rwa [← Option.some.inj hy]

/-- A session opens on a daemon without static seats. -/
def session_opens_alone : List Label :=
  [.call, .dispatch (.open_session (cstr ":1.5") (some (1000, 7)) (cstr "c1") true),
    .dispatch (.job_completed 0 (some (text_session 2))), .callout_done, .call, .call,
    .callout_done, .call, .call]

/-- No method activates a session of a dynamic seat. -/
theorem activation_agrees_dynamic :
    ∃ c, main_loop.run ⟨ck_manager_init true 1, [.load_seats_from_dir []]⟩ session_opens_alone =
        some c ∧
      AtSeat c.state 0 0 ∧ Agree c.state 0 0 true := by
  have hrun : (main_loop.run ⟨ck_manager_init true 1, [.load_seats_from_dir []]⟩
      session_opens_alone).map (fun c => ((c.state.seat 0).kind, (c.state.session 0).seat,
        c.state.seats.lookup (cstr "seat0"), (c.state.seat 0).id,
        (c.state.seat 0).sessions.lookup (cstr "Session1"),
        c.state.sessions.lookup (c.state.session 0).id)) =
      some (.DYNAMIC, some 0, some 0, cstr "seat0", some 0, some 0) := by
    rfl
  obtain ⟨c, hc, heq⟩ := Option.map_eq_some_iff.mp hrun
  simp only [Prod.mk.injEq] at heq
  obtain ⟨hkind, hseat, hseat0, hid, hmember, hsession⟩ := heq
  refine ⟨c, hc, ⟨_, hmember⟩, ?_⟩
  have hreachable : main_loop.Reachable c :=
    LTS.System.Reachable.run (.init ⟨true, 1, [], rfl⟩) hc
  have hrefuses : Refuses c.state 0 0 true := .inl (by rw [hkind]; decide)
  refine ((activation_agrees hreachable ⟨_, hseat0⟩ true).1 0 ⟨_, hmember⟩).mpr
    ⟨hrefuses, fun y hy => ?_⟩
  obtain rfl := Option.some.inj (hsession.symm.trans hy)
  refine ⟨hrefuses, fun d' hd' => ?_⟩
  rw [State.seat_of_session, hseat, Option.bind_some, hid, hseat0] at hd'
  rwa [← Option.some.inj hd']

/-- The session activates itself, and its seat knows no session of its path. -/
theorem activation_disagrees :
    ∃ c, main_loop.run one_seat (seat_loaded ++ session_opens (cstr ":1.5") (cstr "c1") 0) =
        some c ∧
      main_loop.Reachable c ∧ c.Quiescent ∧ AtSeat c.state 0 0 ∧
      (c.state.session_dbus_activate 0 true).2 = none ∧
      (c.state.seat_dbus_activate_session 0 (c.state.ck_session_get_path 0) true).2 =
        some .CK_SEAT_ERROR_FAILED ∧ ¬ Agree c.state 0 0 true := by
  have hrun : (main_loop.run one_seat
      (seat_loaded ++ session_opens (cstr ":1.5") (cstr "c1") 0)).map (fun c => (c.stack,
        (c.state.seat 0).sessions.lookup (cstr "Session1"),
        (c.state.session_dbus_activate 0 true).2,
        (c.state.seat_dbus_activate_session 0 (c.state.ck_session_get_path 0) true).2)) =
      some ([], some 0, none, some .CK_SEAT_ERROR_FAILED) := by
    rfl
  obtain ⟨c, hc, heq⟩ := Option.map_eq_some_iff.mp hrun
  simp only [Prod.mk.injEq] at heq
  obtain ⟨hstack, hmember, hactivate, hseat⟩ := heq
  refine ⟨c, hc, LTS.System.Reachable.run (one_seat_reachable _) hc, hstack, ⟨_, hmember⟩,
    hactivate, hseat, fun hagree => ?_⟩
  have houtcome := congrArg Prod.snd hagree.activate
  simp [Answer.outcome, hactivate, hseat] at houtcome

end CkManager
