import ConsoleKit.Manager.Announce
import ConsoleKit.Manager.SeatNames
import Mathlib.Data.List.Nodup
import Mathlib.Data.Set.Insert

/-! # Clients that follow the manager

    A client gets the sessions and the seats from `GetSessions` and
    `GetSeats`, and then follows the signals of the manager.  The manager
    refines a registry of object paths for each of its two tables.

    This module provides:
    - the queries,
    - `sessions_registry` and `seats_registry`, and their runs,
    - `clients_follow`: what a client knows in every later state.
-/

namespace CkManager

open Libc LTS Feed

/-! ## Section 1: The queries -/

inductive QueryError where
  | NO_SEATS | NO_SESSIONS
  deriving DecidableEq

namespace State

def dbus_get_seats (m : State) : Except (QueryError × String) (List CString) :=
  if m.seats.values.length = 0 then .error (.NO_SEATS, "User has no seats")
  else .ok (m.seats.values.map m.ck_seat_get_path)

def dbus_get_sessions (m : State) : Except (QueryError × String) (List CString) :=
  if m.sessions.values.length = 0 then .error (.NO_SESSIONS, "There are no sessions")
  else .ok (m.sessions.values.map m.ck_session_get_path)

/-- What a signal tells about the sessions. -/
def session_signal (m : State) (signal : ManagerSignal) : Option (Change CString) :=
  signal.session_change.map (Change.map m.ck_session_get_path)

def seat_signal (m : State) (signal : ManagerSignal) : Option (Change CString) :=
  signal.seat_change.map (Change.map m.ck_seat_get_path)

end State

/-- The paths of an answer; an error stands for none. -/
def paths : Except (QueryError × String) (List CString) → Set CString
  | .ok ps => { p | p ∈ ps }
  | .error _ => ∅

/-! ## Section 2: The names in a table -/

/-- What a table that is keyed by `id` holds, by its paths. -/
def namedBy (root : CString) (t : HashTable CString Nat) (id : Nat → CString) : Set CString :=
  { p | ∃ x ∈ t.values, root ++ id x = p }

section

variable (root : CString) {k : CString} {t : HashTable CString Nat} {id id' : Nat → CString} {x : Nat}

theorem namedBy_congr (h : ∀ x ∈ t.values, id' x = id x) :
    namedBy root t id' = namedBy root t id := by
  ext p
  exact exists_congr fun x => and_congr_right fun hx => by rw [h x hx]

theorem namedBy_insert (hkey : ∀ {k x}, t.lookup k = some x → id x = k)
    (hnone : t.lookup (id' x) = none) (h : ∀ y ∈ t.values, id' y = id y) :
    namedBy root (t.insert (id' x) x) id' = insert (root ++ id' x) (namedBy root t id) ∧
      root ++ id' x ∉ namedBy root t id := by
  constructor
  · rw [← namedBy_congr root h]
    ext p
    constructor
    · rintro ⟨y, hy, rfl⟩
      rcases (HashTable.mem_values_insert hnone).mp hy with rfl | hy
      · exact .inl rfl
      · exact .inr ⟨y, hy, rfl⟩
    · rintro (rfl | ⟨y, hy, rfl⟩)
      · exact ⟨x, (HashTable.mem_values_insert hnone).mpr (.inl rfl), rfl⟩
      · exact ⟨y, (HashTable.mem_values_insert hnone).mpr (.inr hy), rfl⟩
  · rintro ⟨y, hy, heq⟩
    obtain ⟨k, hk⟩ := HashTable.mem_values.mp hy
    rw [← List.append_cancel_left heq, hkey hk, hk] at hnone
    cases hnone

theorem namedBy_erase (hkey : ∀ {k x}, t.lookup k = some x → id x = k)
    (hx : t.lookup k = some x) (h : ∀ y ∈ t.values, id' y = id y) :
    namedBy root (t.erase k) id' = namedBy root t id \ {root ++ id x} ∧
      root ++ id x ∈ namedBy root t id := by
  have herase (y : Nat) : y ∈ HashTable.values (t.erase k) ↔ y ≠ x ∧ y ∈ t.values :=
    HashTable.mem_values_erase hx fun k' hk' => (hkey hk').symm.trans (hkey hx)
  refine ⟨?_, x, HashTable.mem_values.mpr ⟨k, hx⟩, rfl⟩
  rw [← namedBy_congr root h]
  ext p
  constructor
  · rintro ⟨y, hy, rfl⟩
    obtain ⟨hne, hy⟩ := (herase y).mp hy
    refine ⟨⟨y, hy, rfl⟩, fun heq => hne ?_⟩
    obtain ⟨k', hk'⟩ := HashTable.mem_values.mp hy
    have hid := List.append_cancel_left (Set.mem_singleton_iff.mp heq)
    rw [h y hy, hkey hk', hkey hx] at hid
    rw [hid, hx] at hk'
    exact (Option.some.inj hk').symm
  · rintro ⟨⟨y, hy, rfl⟩, hne⟩
    refine ⟨y, (herase y).mpr ⟨?_, hy⟩, rfl⟩
    rintro rfl
    exact hne (by rw [h y hy]; rfl)

/-- A reference that is in the table is told by its path from those on the list
    that are in it too. -/
theorem path_mem_iff {xs : List Nat} (hxs : ∀ y ∈ xs, t.lookup (id y) = some y)
    (hx : t.lookup (id x) = some x) : root ++ id x ∈ xs.map (fun y => root ++ id y) ↔ x ∈ xs := by
  refine ⟨fun hmem => ?_, fun hmem => List.mem_map.mpr ⟨x, hmem, rfl⟩⟩
  obtain ⟨y, hy, heq⟩ := List.mem_map.mp hmem
  have hlookup := hxs y hy
  rw [List.append_cancel_left heq, hx] at hlookup
  exact Option.some.inj hlookup ▸ hy

theorem paths_nodup {xs : List Nat} (hxs : ∀ y ∈ xs, t.lookup (id y) = some y)
    (hnodup : xs.Nodup) : (xs.map fun y => root ++ id y).Nodup := by
  refine hnodup.map_on fun y hy z hz heq => ?_
  have hlookup := hxs y hy
  rw [List.append_cancel_left heq, hxs z hz] at hlookup
  exact (Option.some.inj hlookup).symm

end

theorem mem_cons_eq (p : CString) (ps : List CString) :
    { q | q ∈ p :: ps } = insert p { q | q ∈ ps } := by
  ext q
  simp

theorem mem_tail_eq {p : CString} {ps : List CString} (h : (p :: ps).Nodup) :
    { q | q ∈ ps } = { q | q ∈ p :: ps } \ {p} := by
  have hnot := (List.nodup_cons.mp h).1
  ext q
  by_cases hq : q = p
  · simp [hq, hnot]
  · simp [hq]

/-! ## Section 3: Two registries -/

def sessions_registry (c : MainLoop) : Registry CString where
  present := paths c.state.dbus_get_sessions
  announcing := { p | p ∈ (opened c.stack).map c.state.ck_session_get_path }
  -- a removal is announced at once
  retracting := ∅
  log := c.state.session_changes.map (Change.map c.state.ck_session_get_path)

def seats_registry (c : MainLoop) : Registry CString where
  present := paths c.state.dbus_get_seats
  announcing := { p | p ∈ (adding c.stack).map c.state.ck_seat_get_path }
  retracting := { p | p ∈ (retiring c.stack).map c.state.ck_seat_get_path }
  log := c.state.seat_changes.map (Change.map c.state.ck_seat_get_path)

theorem State.get_sessions_eq (m : State) : paths m.dbus_get_sessions =
    namedBy (cstr "/org/freedesktop/ConsoleKit" ++ cstr "/") m.sessions
      fun x => (m.session x).id := by
  ext p
  unfold State.dbus_get_sessions
  split
  · rename_i hempty
    simp [paths, namedBy, List.length_eq_zero_iff.mp hempty]
  · simp [paths, namedBy, State.ck_session_get_path]

theorem State.get_seats_eq (m : State) : paths m.dbus_get_seats =
    namedBy (cstr "/org/freedesktop/ConsoleKit/") m.seats fun d => (m.seat d).id := by
  ext p
  unfold State.dbus_get_seats
  split
  · rename_i hempty
    simp [paths, namedBy, List.length_eq_zero_iff.mp hempty]
  · simp [paths, namedBy, State.ck_seat_get_path]

section

variable {c c' : MainLoop} {label : Label}

theorem NamesKept.session_path (h : NamesKept c c') {x : SessionRef}
    (hx : x < c.state.next_session) :
    c'.state.ck_session_get_path x = c.state.ck_session_get_path x := by
  rw [State.ck_session_get_path, h.session_id x hx]
  rfl

theorem NamesKept.seat_path (h : NamesKept c c') {d : SeatRef} (hd : d < c.state.next_seat) :
    c'.state.ck_seat_get_path d = c.state.ck_seat_get_path d := by
  rw [State.ck_seat_get_path, h.seat_id d hd]
  rfl

/-- **Refinement** of the registry of sessions. -/
theorem session_runs (hvalid : SessionsValid c.state c.stack)
    (hannounced : SessionsAnnounced c.state c.stack) (hok : AnnouncedFirst c label)
    (hnames : NamesKept c c') (hstep : SessionStep c label c') :
    Relation.ReflTransGen Registry.Step (sessions_registry c) (sessions_registry c') := by
  have hkey : ∀ {k x}, c.state.sessions.lookup k = some x → (c.state.session x).id = k :=
    fun hk => (hvalid.table hk).2
  have hids : ∀ x ∈ c.state.sessions.values, (c'.state.session x).id = (c.state.session x).id := by
    intro x hx
    obtain ⟨k, hk⟩ := HashTable.mem_values.mp hx
    exact hnames.session_id x (hvalid.table hk).1
  have hopen : (opened c.stack).map c'.state.ck_session_get_path =
      (opened c.stack).map c.state.ck_session_get_path :=
    List.map_congr_left fun x hx => hnames.session_path (hannounced.there x hx).1
  have hlog : c.state.session_changes.map (Change.map c'.state.ck_session_get_path) =
      c.state.session_changes.map (Change.map c.state.ck_session_get_path) :=
    Change.map_congr fun e he => hnames.session_path (hannounced.changes e he)
  cases hstep with
  | same hsessions hopened hchanges =>
    have heq : sessions_registry c' = sessions_registry c := by
      rw [sessions_registry, sessions_registry, State.get_sessions_eq, State.get_sessions_eq,
        hsessions, namedBy_congr _ hids, hopened, hopen, hchanges, hlog]
    rw [heq]
  | @insert l hjob hid hnext hsessions hopened hchanges =>
    obtain ⟨-, hnone, -⟩ := hvalid.job hjob
    rw [← hid] at hnone hsessions
    obtain ⟨hpresent, hnew⟩ := namedBy_insert (cstr "/org/freedesktop/ConsoleKit" ++ cstr "/")
      hkey hnone hids
    have heq : sessions_registry c' = { sessions_registry c with
        present := insert (c'.state.ck_session_get_path c.state.next_session)
          (sessions_registry c).present
        announcing := insert (c'.state.ck_session_get_path c.state.next_session)
          (sessions_registry c).announcing } := by
      rw [sessions_registry, State.get_sessions_eq, hsessions, hpresent, hopened, List.map_cons,
        hopen, mem_cons_eq, hchanges, hlog, ← State.get_sessions_eq]
      rfl
    rw [heq]
    refine .single (.insert _ ?_ id)
    rw [sessions_registry, State.get_sessions_eq]
    exact hnew
  | @added x hsessions hopened hchanges =>
    have hnodup : ((opened c.stack).map c.state.ck_session_get_path).Nodup :=
      paths_nodup _ (fun y hy => (hannounced.there y hy).2) hannounced.nodup
    have htail : (opened c'.stack).map c'.state.ck_session_get_path =
        (opened c'.stack).map c.state.ck_session_get_path := by
      rw [hopened] at hopen
      exact (List.cons.inj hopen).2
    rw [hopened, List.map_cons] at hnodup
    have heq : sessions_registry c' = { sessions_registry c with
        announcing := (sessions_registry c).announcing \ {c.state.ck_session_get_path x}
        log := (sessions_registry c).log ++ [.added (c.state.ck_session_get_path x)] } := by
      have hx := hannounced.there x (hopened ▸ List.mem_cons_self)
      rw [sessions_registry, sessions_registry, State.get_sessions_eq, State.get_sessions_eq,
        hsessions, namedBy_congr _ hids, htail, mem_tail_eq hnodup, hopened, hchanges,
        List.map_append, hlog, List.map_singleton, Change.map, hnames.session_path hx.1]
      rfl
    rw [heq]
    refine .single (.announce _ ?_)
    exact List.mem_map.mpr ⟨x, hopened ▸ List.mem_cons_self, rfl⟩
  | @erase l x caller rest hlabel hstack hsessions hopened hchanges =>
    obtain ⟨hx, -⟩ := hvalid.removing (hstack ▸ List.mem_cons_self)
    obtain ⟨hpresent, hthere⟩ := namedBy_erase (cstr "/org/freedesktop/ConsoleKit" ++ cstr "/")
      hkey hx hids
    have hunopened : c.state.ck_session_get_path x ∉ (sessions_registry c).announcing := by
      have hrest : opened c.stack = opened rest := by rw [hstack]; rfl
      have hout := hok.session l x caller rest hlabel hstack
      rw [← hrest] at hout
      exact fun hmem => hout ((path_mem_iff _ (fun y hy => (hannounced.there y hy).2)
        (by rw [hkey hx]; exact hx)).mp hmem)
    have heq : sessions_registry c' = { sessions_registry c with
        present := (sessions_registry c).present \ {c.state.ck_session_get_path x}
        retracting := insert (c.state.ck_session_get_path x) ∅ \ {c.state.ck_session_get_path x}
        log := (sessions_registry c).log ++ [.removed (c.state.ck_session_get_path x)] } := by
      have hnone : insert (c.state.ck_session_get_path x) (∅ : Set CString) \
          {c.state.ck_session_get_path x} = ∅ := by
        ext p
        simp
      rw [sessions_registry, sessions_registry, State.get_sessions_eq, State.get_sessions_eq,
        hsessions, hpresent, hopened, hopen, hchanges, List.map_append, hlog, List.map_singleton,
        Change.map, hnames.session_path (hvalid.table hx).1, hnone]
      rfl
    rw [heq]
    have hpresent' : c.state.ck_session_get_path x ∈ (sessions_registry c).present := by
      rw [sessions_registry, State.get_sessions_eq]
      exact hthere
    have herase := Registry.Step.erase _ hpresent' hunopened
    exact .tail (.single herase) (.retract _ (Set.mem_insert _ _))

/-- **Refinement** of the registry of seats. -/
theorem seat_runs (hvalid : SeatsValid c.state c.stack)
    (hannounced : SeatsAnnounced c.state c.stack) (hok : AnnouncedFirst c label)
    (hnames : NamesKept c c') (hstep : SeatStep c label c') :
    Relation.ReflTransGen Registry.Step (seats_registry c) (seats_registry c') := by
  have hkey : ∀ {k d}, c.state.seats.lookup k = some d → (c.state.seat d).id = k :=
    fun hk => (hvalid.registered hk).2
  have hids : ∀ d ∈ c.state.seats.values, (c'.state.seat d).id = (c.state.seat d).id := by
    intro d hd
    obtain ⟨k, hk⟩ := HashTable.mem_values.mp hd
    exact hnames.seat_id d (hvalid.registered hk).1
  have hadd : (adding c.stack).map c'.state.ck_seat_get_path =
      (adding c.stack).map c.state.ck_seat_get_path :=
    List.map_congr_left fun d hd => hnames.seat_path (hannounced.there d hd).1
  have hretire : (retiring c.stack).map c'.state.ck_seat_get_path =
      (retiring c.stack).map c.state.ck_seat_get_path :=
    List.map_congr_left fun d hd => hnames.seat_path (hannounced.gone d hd).1
  have hlog : c.state.seat_changes.map (Change.map c'.state.ck_seat_get_path) =
      c.state.seat_changes.map (Change.map c.state.ck_seat_get_path) :=
    Change.map_congr fun e he => hnames.seat_path (hannounced.changes e he)
  cases hstep with
  | same hseats hadding hretiring hchanges =>
    have heq : seats_registry c' = seats_registry c := by
      rw [seats_registry, seats_registry, State.get_seats_eq, State.get_seats_eq,
        hseats, namedBy_congr _ hids, hadding, hadd, hretiring, hretire, hchanges, hlog]
    rw [heq]
  | insert hfst hnone hnext hseats hadding hretiring hchanges =>
    obtain ⟨hpresent, hnew⟩ := namedBy_insert (cstr "/org/freedesktop/ConsoleKit/") hkey hnone hids
    have hfresh : c'.state.ck_seat_get_path c.state.next_seat ∉ (seats_registry c).retracting := by
      intro hmem
      obtain ⟨d, hd, heq⟩ := List.mem_map.mp hmem
      exact hok.fresh _ hfst d hd (List.append_cancel_left heq)
    have heq : seats_registry c' = { seats_registry c with
        present := insert (c'.state.ck_seat_get_path c.state.next_seat) (seats_registry c).present
        announcing := insert (c'.state.ck_seat_get_path c.state.next_seat)
          (seats_registry c).announcing } := by
      rw [seats_registry, State.get_seats_eq, hseats, hpresent, hadding, List.map_cons, hadd,
        mem_cons_eq, hretiring, hretire, hchanges, hlog, ← State.get_seats_eq]
      rfl
    rw [heq]
    refine .single (.insert _ ?_ hfresh)
    rw [seats_registry, State.get_seats_eq]
    exact hnew
  | @added d hseats hadding hretiring hchanges =>
    have hnodup : ((adding c.stack).map c.state.ck_seat_get_path).Nodup :=
      paths_nodup _ (fun e he => (hannounced.there e he).2) hannounced.adding_nodup
    have htail : (adding c'.stack).map c'.state.ck_seat_get_path =
        (adding c'.stack).map c.state.ck_seat_get_path := by
      rw [hadding] at hadd
      exact (List.cons.inj hadd).2
    rw [hadding, List.map_cons] at hnodup
    have heq : seats_registry c' = { seats_registry c with
        announcing := (seats_registry c).announcing \ {c.state.ck_seat_get_path d}
        log := (seats_registry c).log ++ [.added (c.state.ck_seat_get_path d)] } := by
      have hd := hannounced.there d (hadding ▸ List.mem_cons_self)
      rw [seats_registry, seats_registry, State.get_seats_eq, State.get_seats_eq, hseats,
        namedBy_congr _ hids, htail, mem_tail_eq hnodup, hadding, hretiring, hretire, hchanges,
        List.map_append, hlog, List.map_singleton, Change.map, hnames.seat_path hd.1]
      rfl
    rw [heq]
    refine .single (.announce _ ?_)
    exact List.mem_map.mpr ⟨d, hadding ▸ List.mem_cons_self, rfl⟩
  | @erase d orig rest hlabel hstack hkind hlookup hseats hadding hretiring hchanges =>
    obtain ⟨horig, hid⟩ := hvalid.registered hlookup
    obtain ⟨hpresent, hthere⟩ := namedBy_erase (cstr "/org/freedesktop/ConsoleKit/") hkey hlookup
      hids
    have hreported : c.state.ck_seat_get_path orig ∉ (seats_registry c).announcing := by
      have hrest : adding c.stack = adding rest := by rw [hstack]; rfl
      have hout := hok.seat d orig rest hlabel hstack hkind hlookup
      rw [← hrest] at hout
      exact fun hmem => hout ((path_mem_iff _ (fun e he => (hannounced.there e he).2)
        (by rw [hid]; exact hlookup)).mp hmem)
    have heq : seats_registry c' = { seats_registry c with
        present := (seats_registry c).present \ {c.state.ck_seat_get_path orig}
        retracting := insert (c.state.ck_seat_get_path orig) (seats_registry c).retracting } := by
      rw [seats_registry, seats_registry, State.get_seats_eq, State.get_seats_eq, hseats, hpresent,
        hadding, hadd, hretiring, List.map_cons, hretire, hnames.seat_path horig, mem_cons_eq,
        hchanges, hlog]
      rfl
    rw [heq]
    refine .single (.erase _ ?_ hreported)
    rw [seats_registry, State.get_seats_eq]
    exact hthere
  | @removed d hseats hadding hretiring hchanges =>
    have hnodup : ((retiring c.stack).map c.state.ck_seat_get_path).Nodup := by
      have hmap := hannounced.retiring_nodup.map
        (List.append_right_injective (cstr "/org/freedesktop/ConsoleKit/"))
      rwa [List.map_map] at hmap
    have htail : (retiring c'.stack).map c'.state.ck_seat_get_path =
        (retiring c'.stack).map c.state.ck_seat_get_path := by
      rw [hretiring] at hretire
      exact (List.cons.inj hretire).2
    rw [hretiring, List.map_cons] at hnodup
    have heq : seats_registry c' = { seats_registry c with
        retracting := (seats_registry c).retracting \ {c.state.ck_seat_get_path d}
        log := (seats_registry c).log ++ [.removed (c.state.ck_seat_get_path d)] } := by
      have hd := hannounced.gone d (hretiring ▸ List.mem_cons_self)
      rw [seats_registry, seats_registry, State.get_seats_eq, State.get_seats_eq, hseats,
        namedBy_congr _ hids, htail, mem_tail_eq hnodup, hretiring, hadding, hadd, hchanges,
        List.map_append, hlog, List.map_singleton, Change.map, hnames.seat_path hd.1]
      rfl
    rw [heq]
    refine .single (.retract _ ?_)
    exact List.mem_map.mpr ⟨d, hretiring ▸ List.mem_cons_self, rfl⟩

/-- Along every run. -/
theorem registries_run (hc : main_loop.ReachableBy AnnouncedFirst c)
    (hrun : (main_loop.startingAt c).ReachableBy AnnouncedFirst c') :
    NamesKept c c' ∧ c.state.signals <+: c'.state.signals ∧
      Relation.ReflTransGen Registry.Step (sessions_registry c) (sessions_registry c') ∧
      Relation.ReflTransGen Registry.Step (seats_registry c) (seats_registry c') := by
  induction hrun with
  | init heq =>
    obtain rfl := heq
    exact ⟨⟨fun _ _ => rfl, fun _ _ => rfl, Nat.le_refl _, Nat.le_refl _⟩, List.prefix_rfl, .refl,
      .refl⟩
  | step hreach hok hnext ih =>
    have hreach' := hc.trans hreach
    obtain ⟨hnames, hsignals, hsessions, hseats⟩ := ih
    obtain ⟨hnames', hsignals', hseat, hsession⟩ := announce_step hnext
    obtain ⟨hopened, hadding⟩ := announced hreach'
    have hvalid := sessionsValid (hreach'.mono fun _ _ hok => hok.orderly)
    refine ⟨⟨fun x hx => ?_, fun d hd => ?_, hnames.next_session.trans hnames'.next_session,
      hnames.next_seat.trans hnames'.next_seat⟩, hsignals.trans hsignals',
      hsessions.trans (session_runs hvalid hopened hok hnames' hsession),
      hseats.trans (seat_runs (seatsValid hreach') hadding hok hnames' hseat)⟩
    · rw [hnames'.session_id x (Nat.lt_of_lt_of_le hx hnames.next_session), hnames.session_id x hx]
    · rw [hnames'.seat_id d (Nat.lt_of_lt_of_le hd hnames.next_seat), hnames.seat_id d hd]

theorem registries_valid (hc : main_loop.ReachableBy AnnouncedFirst c) :
    (sessions_registry c).Valid ∧ (seats_registry c).Valid := by
  obtain ⟨hopened, hadding⟩ := announced hc
  refine ⟨⟨fun p hp => ?_, fun p hp => hp.elim⟩, ⟨fun p hp => ?_, fun p hp => ?_⟩⟩
  · obtain ⟨x, hx, rfl⟩ := List.mem_map.mp hp
    show _ ∈ paths c.state.dbus_get_sessions
    rw [State.get_sessions_eq]
    exact ⟨x, HashTable.mem_values.mpr ⟨_, (hopened.there x hx).2⟩, rfl⟩
  · obtain ⟨d, hd, rfl⟩ := List.mem_map.mp hp
    show _ ∈ paths c.state.dbus_get_seats
    rw [State.get_seats_eq]
    exact ⟨d, HashTable.mem_values.mpr ⟨_, (hadding.there d hd).2⟩, rfl⟩
  · obtain ⟨d, hd, rfl⟩ := List.mem_map.mp hp
    show _ ∉ paths c.state.dbus_get_seats
    rw [State.get_seats_eq]
    rintro ⟨e, he, heq⟩
    obtain ⟨k, hk⟩ := HashTable.mem_values.mp he
    have hid : (c.state.seat e).id = (c.state.seat d).id := List.append_cancel_left heq
    have hnone := (hadding.gone d hd).2
    rw [← hid, ((seatsValid hc).registered hk).2, hk] at hnone
    cases hnone

end

/-! ## Section 4: Clients -/

/-- What a client knows in `c'` that asked in `c` and then got the signals
    `later`: the sessions and the seats, but for those about which a signal is
    still to come. -/
structure Follows (c c' : MainLoop) (later : List ManagerSignal) : Prop where
  signals : c'.state.signals = c.state.signals ++ later
  sessions : ∀ p, (∀ x ∈ opened c'.stack, c'.state.ck_session_get_path x ≠ p) →
    (p ∈ follow (paths c.state.dbus_get_sessions) (later.filterMap c'.state.session_signal) ↔
      p ∈ paths c'.state.dbus_get_sessions)
  seats : ∀ p, (∀ d, d ∈ adding c'.stack ∨ d ∈ retiring c'.stack →
      c'.state.ck_seat_get_path d ≠ p) →
    (p ∈ follow (paths c.state.dbus_get_seats) (later.filterMap c'.state.seat_signal) ↔
      p ∈ paths c'.state.dbus_get_seats)

/-- The later changes, from the changes before and after. -/
theorem later_changes {ρ : Type} (signals : List ManagerSignal) {later : List ManagerSignal}
    {change : ManagerSignal → Option (Change ρ)} {path path' : ρ → CString}
    {log : List (Change CString)}
    (hpath : ∀ e ∈ signals.filterMap change, path' e.entry = path e.entry)
    (h : ((signals ++ later).filterMap change).map (Change.map path') =
      (signals.filterMap change).map (Change.map path) ++ log) :
    later.filterMap (fun s => (change s).map (Change.map path')) = log := by
  rw [List.filterMap_append, List.map_append, Change.map_congr hpath] at h
  rw [← List.append_cancel_left h, List.map_filterMap]

/-- **Clients follow.**  A client that asks for the sessions and the seats at
    any time, also while programs are run, and then follows the signals, knows
    at any later time what it would be told, but for what a signal is still to
    come about. -/
theorem clients_follow {c c' : MainLoop} (hc : main_loop.ReachableBy AnnouncedFirst c)
    (hrun : (main_loop.startingAt c).ReachableBy AnnouncedFirst c') :
    ∃ later, Follows c c' later := by
  obtain ⟨hnames, ⟨later, hlater⟩, hsessions, hseats⟩ := registries_run hc hrun
  obtain ⟨hopened, hadding⟩ := announced hc
  obtain ⟨hvalid, hvalid'⟩ := registries_valid hc
  refine ⟨later, hlater.symm, fun p hp => ?_, fun p hp => ?_⟩
  · obtain ⟨-, log, hlog, hfollow⟩ := Registry.follow_run hvalid hsessions
    have heq : later.filterMap c'.state.session_signal = log := by
      refine later_changes c.state.signals (fun e he =>
        hnames.session_path (hopened.changes e he)) ?_
      rw [hlater]
      exact hlog
    rw [heq]
    refine hfollow p ⟨fun hmem => ?_, id⟩
    obtain ⟨x, hx, heq⟩ := List.mem_map.mp hmem
    exact hp x hx heq
  · obtain ⟨-, log, hlog, hfollow⟩ := Registry.follow_run hvalid' hseats
    have heq : later.filterMap c'.state.seat_signal = log := by
      refine later_changes c.state.signals (fun e he =>
        hnames.seat_path (hadding.changes e he)) ?_
      rw [hlater]
      exact hlog
    rw [heq]
    refine hfollow p ⟨fun hmem => ?_, fun hmem => ?_⟩
    · obtain ⟨d, hd, heq⟩ := List.mem_map.mp hmem
      exact hp d (.inl hd) heq
    · obtain ⟨d, hd, heq⟩ := List.mem_map.mp hmem
      exact hp d (.inr hd) heq

/-- A test for steps that remove nothing before it has been announced. -/
def announced_first (c : MainLoop) (label : Label) : Bool :=
  orderly c label && (retiring c.stack).isEmpty && match label, c.stack with
  | .call, .remove_session _ x _ :: rest => x ∉ opened rest
  | .call, .remove_dynamic_seat _ :: rest => (adding rest).isEmpty
  | _, _ => true

theorem announced_first_sound {c : MainLoop} (h : main_loop.ReachableBy AnnouncedFirst c)
    {label : Label} (htest : announced_first c label = true) : AnnouncedFirst c label := by
  simp only [announced_first, Bool.and_eq_true, List.isEmpty_iff] at htest
  obtain ⟨⟨horderly, hretiring⟩, hrest⟩ := htest
  refine ⟨orderly_sound (h.mono fun _ _ hok => hok.orderly) horderly, ?_, ?_, ?_⟩
  · rintro l x caller rest rfl hstack
    rw [hstack] at hrest
    exact of_decide_eq_true hrest
  · rintro d orig rest rfl hstack - -
    rw [hstack] at hrest
    rw [List.isEmpty_iff.mp hrest]
    exact List.not_mem_nil
  · intro sid _ d hd
    rw [hretiring] at hd
    cases hd

/-- A client asks while there is one seat and no session, and a session is
    opened and closed later. -/
theorem clients_follow_opened :
    ∃ c c', main_loop.runBy announced_first one_seat seat_loaded = some c ∧
      main_loop.runBy announced_first c (session_opens (cstr ":1.5") (cstr "c1") 0) = some c' ∧
      (∃ later, Follows c c' later) ∧
      c.state.dbus_get_sessions = .error (.NO_SESSIONS, "There are no sessions") ∧
      c'.state.dbus_get_sessions = .ok [cstr "/org/freedesktop/ConsoleKit/Session1"] := by
  have hrun : ((main_loop.runBy announced_first one_seat seat_loaded).bind fun c =>
      (main_loop.runBy announced_first c (session_opens (cstr ":1.5") (cstr "c1") 0)).map fun c' =>
        (c.state.sessions.values, c'.state.sessions.values.map c'.state.ck_session_get_path)) =
      some ([], [cstr "/org/freedesktop/ConsoleKit/Session1"]) := by
    decide
  obtain ⟨c, hc, hrun⟩ := Option.bind_eq_some_iff.mp hrun
  obtain ⟨c', hc', heq⟩ := Option.map_eq_some_iff.mp hrun
  simp only [Prod.mk.injEq] at heq
  have hreach := (one_seat_reachable AnnouncedFirst).runBy
    (fun _ _ h => announced_first_sound h) hc
  have hreach' : (main_loop.startingAt c).ReachableBy AnnouncedFirst c' :=
    (System.ReachableBy.refl c).runBy (fun _ _ h => announced_first_sound (hreach.trans h))
      ((System.startingAt_runBy ..).trans hc')
  refine ⟨c, c', hc, hc', clients_follow hreach hreach', ?_, ?_⟩
  · simp [State.dbus_get_sessions, heq.1]
  · have hlength := congrArg List.length heq.2
    rw [List.length_map] at hlength
    rw [State.dbus_get_sessions, heq.2, if_neg (by rw [hlength]; decide)]

/-- The client of a session closes it while programs are run for its opening:
    its removal is announced first, and a client that follows keeps it. -/
def closed_while_opening : List Label :=
  [.dispatch (.open_session (cstr ":1.5") (some (1000, 7)) (cstr "c1") true),
    .dispatch (.job_completed 0 (some (text_session 1))), .call,
    .dispatch (.close_session (some (1000, 7)) (cstr "c1")), .callout_done, .call, .call, .call,
    .callout_done, .call, .call]

theorem removal_announced_first :
    ∃ c c', main_loop.run one_seat seat_loaded = some c ∧
      main_loop.run c closed_while_opening = some c' ∧ c'.Quiescent ∧
      c'.state.signals = c.state.signals ++ [.SessionRemoved 0, .SessionNew 0] ∧
      cstr "/org/freedesktop/ConsoleKit/Session1" ∈
        follow (paths c.state.dbus_get_sessions)
          ([.SessionRemoved 0, .SessionNew 0].filterMap c'.state.session_signal) ∧
      paths c'.state.dbus_get_sessions = ∅ ∧
      ¬ ∃ later, Follows c c' later := by
  have hrun : ((main_loop.run one_seat seat_loaded).bind fun c =>
      (main_loop.run c closed_while_opening).map fun c' =>
        ((c.state.signals, c'.state.signals), c'.stack, c'.state.sessions.values,
          c'.state.ck_session_get_path 0)) =
      some (([.SeatAdded 0], [.SeatAdded 0, .SessionRemoved 0, .SessionNew 0]), [], [],
        cstr "/org/freedesktop/ConsoleKit/Session1") := by
    rfl
  obtain ⟨c, hc, hrun⟩ := Option.bind_eq_some_iff.mp hrun
  obtain ⟨c', hc', heq⟩ := Option.map_eq_some_iff.mp hrun
  simp only [Prod.mk.injEq] at heq
  obtain ⟨⟨hbefore, hafter⟩, hstack, hvalues, hpath⟩ := heq
  have hlater : c'.state.signals = c.state.signals ++ [.SessionRemoved 0, .SessionNew 0] := by
    rw [hbefore, hafter]
    rfl
  have hchanges : [ManagerSignal.SessionRemoved 0, .SessionNew 0].filterMap
      c'.state.session_signal =
      [.removed (cstr "/org/freedesktop/ConsoleKit/Session1"),
        .added (cstr "/org/freedesktop/ConsoleKit/Session1")] := by
    simp [State.session_signal, ManagerSignal.session_change, Change.map, hpath]
  have hnone : paths c'.state.dbus_get_sessions = ∅ := by
    simp [State.dbus_get_sessions, hvalues, paths]
  have hknown : cstr "/org/freedesktop/ConsoleKit/Session1" ∈
      follow (paths c.state.dbus_get_sessions)
        ([.SessionRemoved 0, .SessionNew 0].filterMap c'.state.session_signal) := by
    rw [hchanges]
    exact .inl rfl
  refine ⟨c, c', hc, hc', hstack, hlater, hknown, hnone, ?_⟩
  rintro ⟨later, hfollows⟩
  obtain rfl := List.append_cancel_left (hlater.symm.trans hfollows.signals)
  have hopened : ∀ x ∈ opened c'.stack, c'.state.ck_session_get_path x ≠
      cstr "/org/freedesktop/ConsoleKit/Session1" := by
    rw [show c'.stack = [] from hstack]
    exact List.forall_mem_nil _
  have hpresent := (hfollows.sessions _ hopened).mp hknown
  rw [hnone] at hpresent
  exact hpresent

end CkManager
