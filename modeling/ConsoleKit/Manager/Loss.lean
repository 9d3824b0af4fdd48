import ConsoleKit.Manager.Attached

/-! # The loss of a connection

    When a connection is lost its leaders, their sessions and their
    collectors go, and those of all others stay.  Other events may be
    dispatched while the programs of the removal run.

    This module provides:
    - `Frame`: what no step changes of a leader whose removal is not
      requested, and of its sessions,
    - `GoneValid`: no leader in the table has a name that is gone,
    - `connection_loss_cleanup`.
-/

namespace CkManager

open Libc

/-! ## Section 1: What a step leaves alone -/

/-- The leader with the collector of `l`. -/
def CkSessionLeader.sameAs (l₀ l : CkSessionLeader) : CkSessionLeader := { l₀ with job := l.job }

theorem State.cancel_sameAs (m : State) (l' l : LeaderRef) :
    (m.ck_session_leader_cancel l').leader l =
      (m.leader l).sameAs ((m.ck_session_leader_cancel l').leader l) := by
  rw [State.cancel_leader]
  rfl

/-- What stays of a leader and its sessions between two states. -/
structure Frame (m : State) (stack : List Call) (m' : State) (stack' : List Call)
    (l : LeaderRef) : Prop where
  claimed : l ∈ claims stack' → l ∈ claims stack
  registered : ∀ {k}, l ∉ claims stack → m.leaders.lookup k = some l →
    m'.leaders.lookup k = some l
  leader : l < m.next_leader → m'.leader l = (m.leader l).sameAs (m'.leader l)
  table : ∀ {k x}, l ∉ claims stack → m.sessions.lookup k = some x →
    (m.session x).leader = l → m'.sessions.lookup k = some x
  session : ∀ {x}, x < m.next_session → (m.session x).leader = l →
    m'.session x = (m.session x).sameAs (m'.session x) ∧
    ∀ d, (m.session x).seat = some d → (m'.session x).seat = some d

namespace Frame

variable {m m' : State} {stack stack' : List Call} {l : LeaderRef}

/-- Steps that leave the tables and the removals on the stack alone. -/
theorem same (hsame : SameSessions m m')
    (hseat : ∀ x d, (m.session x).seat = some d → (m'.session x).seat = some d)
    (hclaims : claims stack' = claims stack) : Frame m stack m' stack' l where
  claimed := by
    rw [hclaims]
    exact id
  registered _ hk := hsame.leaders ▸ hk
  leader _ := by
    rw [hsame.leader]
    rfl
  table _ hk _ := hsame.sessions ▸ hk
  session _ _ := ⟨hsame.identity _, hseat _⟩

/-- Only the collector of a leader changes. -/
theorem cancel (hclaims : l ∈ claims stack' → l ∈ claims stack) (l' : LeaderRef) :
    Frame m stack (m.ck_session_leader_cancel l') stack' l where
  claimed := hclaims
  registered _ hk := hk
  leader _ := m.cancel_sameAs l' l
  table _ hk _ := hk
  session _ _ := ⟨rfl, fun _ hd => hd⟩

theorem open_session {sender cookie : CString}
    {caller : Option (Nat × Nat)} {started : Bool} (hcookie : cookie ∉ m.leaders)
    (hm' : m.create_session_for_sender sender caller cookie started = some m') :
    Frame m stack m' stack l := by
  cases caller with
  | none =>
    cases hm'
    exact .same (.refl m) (fun _ _ hd => hd) rfl
  | some c =>
    obtain ⟨⟨ssid, m₁⟩, hid, rfl⟩ := Option.map_eq_some_iff.mp hm'
    obtain ⟨-, serial, rfl⟩ := State.generate_session_id_free hid
    constructor
    case claimed => exact id
    case registered =>
      intro k _ hk
      refine HashTable.lookup_insert_iff.mpr (.inr ⟨?_, hk⟩)
      rintro rfl
      exact hcookie (AList.lookup_isSome.mp (by rw [hk]; rfl))
    case leader =>
      intro hl
      show Function.update m.leader m.next_leader _ l = CkSessionLeader.sameAs _
        (Function.update m.leader m.next_leader _ l)
      rw [Function.update_of_ne (Nat.ne_of_lt hl)]
      rfl
    case table => exact fun _ hk _ => hk
    case session => exact fun _ _ => ⟨rfl, fun _ hd => hd⟩

theorem job_completed (h : SessionsValid m stack) {l' : LeaderRef}
    {result : Option Opening} (hjob : (m.leader l').job = true) {r : State × List Call}
    (hr : m.job_completed l' result = some r) : Frame m stack r.1 (r.2 ++ stack) l := by
  rcases State.job_completed_cases hr with
    rfl | ⟨o, is_local, seat, calls, rfl, -, hsame, hquiet, hcalls, hseat⟩
  · exact .cancel id l'
  · have hnone : m.sessions.lookup ((m.ck_session_leader_cancel l').leader l').session_id =
        none := by
      rw [m.cancel_leader l' l']
      exact (h.job hjob).2.1
    have hold : ∀ {x}, x < m.next_session → (m.insertOpened l' o).session x = m.session x :=
      fun hx => Function.update_of_ne (Nat.ne_of_lt hx) _ _
    constructor
    case claimed =>
      intro hl
      rw [hcalls, List.append_assoc, (quiet_append hquiet _).1] at hl
      exact hl
    case registered =>
      intro k _ hk
      rw [hsame.leaders]
      exact hk
    case leader =>
      intro _
      rw [hsame.leader]
      exact m.cancel_sameAs l' l
    case table =>
      intro k x _ hk _
      rw [hsame.sessions]
      refine HashTable.lookup_insert_iff.mpr (.inr ⟨?_, hk⟩)
      rintro rfl
      exact absurd (hnone.symm.trans hk) (by simp)
    case session =>
      intro x hx _
      have hseats : (r.1.session x).seat = ((m.insertOpened l' o).session x).seat := by
        rcases hseat with ⟨d, -, -, heq, -⟩ | ⟨-, hadd⟩
        · rw [heq]
        · rw [(State.add_new_seat_new hadd).session]
      have hidentity := hsame.identity x
      rw [hold hx] at hidentity hseats
      exact ⟨hidentity, fun d hd => hseats.trans hd⟩

theorem start {l' : LeaderRef} {caller : RemovalCaller} {r : State × List Call}
    (hr : m.remove_session_for_cookie l' caller = some r)
    (hclaims : l = l' ∨ l ∈ claims stack' → l ∈ claims stack) :
    Frame m stack r.1 (r.2 ++ stack') l := by
  obtain ⟨x, calls, -, hsame, hquiet, hcalls⟩ := State.remove_session_for_cookie_spec hr
  have hattached := (State.remove_session_for_cookie_fewer hr).attached
  have hframe : Frame m stack r.1 stack l :=
    .same hsame (fun y d hd => (hattached y).trans hd) rfl
  refine { hframe with claimed := fun hl => hclaims ?_ }
  rw [hcalls, List.append_assoc, (quiet_append hquiet _).1] at hl
  exact List.mem_cons.mp hl

theorem name_owner_notify (h : SessionsValid m stack)
    {service_name old_service_name new_service_name : CString}
    (hother : ¬ (Event.name_owner_notify service_name old_service_name
      new_service_name).Requests m l) :
    Frame m stack (m.on_name_owner_notify service_name old_service_name new_service_name).1
      ((m.on_name_owner_notify service_name old_service_name new_service_name).2 ++ stack)
      l := by
  by_cases hnew : new_service_name = []
  · obtain ⟨gone, ls, -, hls, heq⟩ := m.name_owner_lost
      (fun hk hk' => (h.registered hk).2.symm.trans (h.registered hk').2)
      service_name old_service_name hnew
    rw [heq]
    constructor
    case claimed =>
      intro hl
      rw [claims, List.flatMap_append, List.flatMap_map] at hl
      rcases List.mem_append.mp hl with hl | hl
      · obtain ⟨l', hl', hmem⟩ := List.mem_flatMap.mp hl
        obtain rfl := List.mem_singleton.mp hmem
        exact absurd ⟨hnew, (hls l).mp hl'⟩ hother
      · exact hl
    case registered =>
      intro k _ hk
      exact HashTable.lookup_keep.mpr
        ⟨hk, decide_eq_false fun hname => hother ⟨hnew, ⟨k, hk⟩, hname⟩⟩
    case leader => exact fun _ => rfl
    case table => exact fun _ hk _ => hk
    case session => exact fun _ _ => ⟨rfl, fun _ hd => hd⟩
  · unfold State.on_name_owner_notify
    rw [if_neg hnew]
    exact .same (.refl m) (fun _ _ hd => hd) rfl

theorem session_removed {l' : LeaderRef} {x : SessionRef} {caller : RemovalCaller}
    {rest : List Call} (h : SessionsValid m (.remove_session l' x caller :: rest)) :
    Frame m (.remove_session l' x caller :: rest) (m.session_removed l' x caller) rest l := by
  obtain ⟨hx, hopener, hcaller⟩ := h.removing List.mem_cons_self
  have hne : l ∉ claims (.remove_session l' x caller :: rest) → l ≠ l' := by
    rintro hfree rfl
    exact hfree List.mem_cons_self
  constructor
  case claimed => exact fun hl => List.mem_cons_of_mem _ hl
  case registered =>
    intro k hfree hk
    cases caller with
    | dbus_close_session =>
      refine HashTable.lookup_erase_iff.mpr ⟨fun heq => hne hfree ?_, hk⟩
      exact h.cookie_inj ⟨k, hk⟩ (hcaller rfl) ((h.registered hk).2.trans heq)
    | destroy_entity => exact hk
  case leader =>
    intro _
    cases caller with
    | dbus_close_session => rfl
    | destroy_entity => exact m.cancel_sameAs l' l
  case table =>
    intro k y hfree hy hleader
    have hkeep : (m.sessions.erase (m.leader l').session_id).lookup k = some y := by
      refine HashTable.lookup_erase_iff.mpr ⟨?_, hy⟩
      rintro rfl
      rw [hx] at hy
      obtain rfl := Option.some.inj hy
      exact hne hfree (hleader.symm.trans hopener)
    cases caller <;> exact hkeep
  case session =>
    intro y _ _
    cases caller <;> exact ⟨rfl, fun _ hd => hd⟩

/-- **Step lemma**: a step that requests no removal of a leader leaves it and
    its sessions alone, unless a removal of it is running. -/
theorem step {c c' : MainLoop} {label : Label} (hsessions : SessionsValid c.state c.stack)
    (hseats : SeatsValid c.state c.stack)
    (hother : ∀ event, label = .dispatch event → ¬ event.Requests c.state l)
    (hnext : main_loop.next c label = some c') :
    Frame c.state c.stack c'.state c'.stack l := by
  obtain ⟨m, stack⟩ := c
  cases main_loop_step hnext with
  | @dispatch event r hloop hr =>
    cases event with
    | open_session sender caller cookie started =>
      obtain ⟨hok, m', hm', rfl⟩ := State.dispatch_open_session hr
      exact .open_session hok.2 hm'
    | job_completed l' result =>
      obtain ⟨hjob, hr⟩ := State.dispatch_job_completed hr
      exact .job_completed hsessions hjob hr
    | close_session caller cookie =>
      cases hr
      rcases m.dbus_close_session_cases caller cookie with
        heq | ⟨uid, pid, l', r, rfl, hl', hr, heq⟩
      · rw [heq]
        exact .same (.refl m) (fun _ _ hd => hd) rfl
      · rw [heq]
        -- A leader that is claimed now is the one with the cookie, which is not
        -- `l`.
        refine .start hr fun hl => hl.resolve_left ?_
        rintro rfl
        exact hother _ rfl hl'
    | name_owner_notify service_name old_service_name new_service_name =>
      cases hr
      exact .name_owner_notify hsessions (hother _ rfl)
    | process_queue | seat_activate_session | seat_switch_to | session_activate
      | activate_session | activate_session_on_seat | vt_leave =>
      obtain ⟨hsame, hquiet⟩ := State.dispatch_same (by trivial) hr
      have hattached := (State.dispatch_same_seats (by trivial) hr).attached
      exact .same hsame (fun x d hd => (hattached x).trans hd) (quiet_append hquiet _).1
  | @call f rest r hstack hr =>
    obtain rfl : stack = f :: rest := hstack
    -- A call that claims nothing leaves the sessions alone, up to their seats.
    have hquiet : f.claims = [] → (∀ x d, (m.session x).seat = some d →
        (r.1.session x).seat = some d) → Frame m (f :: rest) r.1 (r.2 ++ rest) l := by
      intro hclaims hseat
      obtain ⟨hsame, hquiet⟩ := State.call_same hclaims hr
      refine .same hsame hseat ?_
      rw [(quiet_append hquiet _).1]
      show _ = f.claims ++ claims rest
      rw [hclaims]
      rfl
    cases f with
    | remove_session l' x caller =>
      cases hr
      exact .session_removed hsessions
    | destroy_entity l' =>
      cases hr
      rcases m.destroy_entity_cases l' with ⟨-, heq⟩ | ⟨r, hr, heq⟩
      · rw [heq]
        exact .cancel (fun hl => List.mem_cons_of_mem _ hl) l'
      · rw [heq]
        exact .start hr List.mem_cons.mpr
    | ck_seat_add_session seat x =>
      refine hquiet rfl fun y d hd => ?_
      cases hr
      cases seat with
      | none => exact hd
      | some d' =>
        show ((m.ck_seat_add_session (some d') x).1.session y).seat = some d
        rw [State.attach_session, if_neg]
        · exact hd
        · -- the session has no seat before
          rintro rfl
          rw [(hseats.opening_new (x := y) List.mem_cons_self).2] at hd
          cases hd
    | load_seats_from_dir files =>
      refine hquiet rfl fun y d hd => ?_
      cases files with
      | nil =>
        cases hr
        exact hd
      | cons file files =>
        obtain ⟨r, hadd, rfl⟩ := Option.map_eq_some_iff.mp hr
        rcases State.add_seat_for_file_new hadd with hsame | ⟨seat, hnew⟩
        · exact (hsame.attached y).trans hd
        · rw [hnew.session]
          exact hd
    | remove_dynamic_seat d' =>
      refine hquiet rfl fun y d hd => ?_
      cases hr
      split
      · exact ((m.remove_seat_fewer d').attached y).trans hd
      · exact hd
    | callout => cases hr
    | seat_added | session_opened | maybe_update_active_session | update_active_vt
      | queue_processed | seat_removed =>
      exact hquiet rfl fun y d hd => ((State.call_same_seats (by exact rfl) hr).attached y).trans hd
  | @callout_done action rest hstack =>
    obtain rfl : stack = .callout action :: rest := hstack
    exact .same (.refl m) (fun _ _ hd => hd) rfl

end Frame

/-! ## Section 2: Names that are gone -/

/-- What a step does to the leaders and to the names that are gone. -/
structure LeaderStep (m m' : State) : Prop where
  leader : ∀ {l}, l < m.next_leader → m'.leader l = (m.leader l).sameAs (m'.leader l)
  registered : ∀ {l}, Registered m' l →
    Registered m l ∨ (l = m.next_leader ∧ (m'.leader l).service_name ∉ m.gone)
  gone : ∀ {S}, S ∈ m'.gone →
    S ∈ m.gone ∨ ∀ l, Registered m' l → (m'.leader l).service_name ≠ S
  gone_mono : ∀ {S}, S ∈ m.gone → S ∈ m'.gone

namespace LeaderStep

variable {m m' : State}

/-- No leader comes, and no name goes. -/
theorem fewer (hleader : ∀ l, m'.leader l = (m.leader l).sameAs (m'.leader l))
    (hleaders : ∀ {k l}, m'.leaders.lookup k = some l → m.leaders.lookup k = some l)
    (hgone : m'.gone = m.gone) : LeaderStep m m' where
  leader _ := hleader _
  registered := fun ⟨k, hk⟩ => .inl ⟨k, hleaders hk⟩
  gone hS := .inl (hgone ▸ hS)
  gone_mono hS := hgone ▸ hS

theorem same (h : SameSessions m m') : LeaderStep m m' :=
  .fewer (fun l => by rw [h.leader]; rfl) (fun hk => h.leaders ▸ hk) h.gone

theorem cancel (l' : LeaderRef) : LeaderStep m (m.ck_session_leader_cancel l') :=
  .fewer (fun l => m.cancel_sameAs l' l) id rfl

theorem open_session {sender cookie : CString}
    {caller : Option (Nat × Nat)} {started : Bool} (hsender : sender ∉ m.gone)
    (hm' : m.create_session_for_sender sender caller cookie started = some m') :
    LeaderStep m m' := by
  cases caller with
  | none =>
    cases hm'
    exact .same (.refl m)
  | some c =>
    obtain ⟨⟨ssid, m₁⟩, hid, rfl⟩ := Option.map_eq_some_iff.mp hm'
    obtain ⟨-, serial, rfl⟩ := State.generate_session_id_free hid
    refine ⟨fun {l} hl => ?_, fun {l} hl => ?_, .inl, id⟩
    · show Function.update m.leader m.next_leader _ l = CkSessionLeader.sameAs _
        (Function.update m.leader m.next_leader _ l)
      rw [Function.update_of_ne (Nat.ne_of_lt hl)]
      rfl
    · obtain ⟨k, hk⟩ := hl
      rcases HashTable.lookup_insert_iff.mp hk with ⟨-, rfl⟩ | ⟨-, hk⟩
      · refine .inr ⟨rfl, ?_⟩
        show (Function.update m.leader m.next_leader _ m.next_leader).service_name ∉ m.gone
        rw [Function.update_self]
        exact hsender
      · exact .inl ⟨k, hk⟩

theorem name_owner_notify (m : State)
    (service_name old_service_name new_service_name : CString) :
    LeaderStep m
      (m.on_name_owner_notify service_name old_service_name new_service_name).1 := by
  by_cases hnew : new_service_name = []
  · unfold State.on_name_owner_notify State.remove_sessions_for_connection
    rw [if_pos hnew]
    refine ⟨fun _ => rfl, fun ⟨k, hk⟩ => .inl ⟨k, (HashTable.lookup_keep.mp hk).1⟩,
      fun {S} hS => ?_, fun {S} hS => ?_⟩
    · change S ∈ (if service_name = old_service_name then m.gone ++ [service_name]
        else m.gone) at hS
      split at hS
      · rename_i hname
        rcases List.mem_append.mp hS with hS | hS
        · exact .inl hS
        · -- the leaders of the name have left the table
          refine .inr fun l ⟨k, hk⟩ => ?_
          rw [List.mem_singleton.mp hS, hname]
          exact of_decide_eq_false (HashTable.lookup_keep.mp hk).2
      · exact .inl hS
    · show S ∈ (if service_name = old_service_name then m.gone ++ [service_name] else m.gone)
      split
      · exact List.mem_append_left _ hS
      · exact hS
  · unfold State.on_name_owner_notify
    rw [if_neg hnew]
    exact .same (.refl m)

theorem step {c c' : MainLoop} {label : Label}
    (hnext : main_loop.next c label = some c') : LeaderStep c.state c'.state := by
  obtain ⟨m, stack⟩ := c
  cases main_loop_step hnext with
  | @dispatch event r hloop hr =>
    cases event with
    | open_session sender caller cookie started =>
      obtain ⟨hok, m', hm', rfl⟩ := State.dispatch_open_session hr
      exact .open_session hok.1 hm'
    | job_completed l' result =>
      obtain ⟨-, hr⟩ := State.dispatch_job_completed hr
      rcases State.job_completed_cases hr with rfl | ⟨o, _, _, _, rfl, -, hsame, -⟩
      · exact .cancel l'
      · refine .fewer (fun l => ?_) (fun hk => hsame.leaders ▸ hk) hsame.gone
        rw [hsame.leader]
        exact m.cancel_sameAs l' l
    | close_session caller cookie =>
      cases hr
      rcases m.dbus_close_session_cases caller cookie with heq | ⟨_, _, l, r, -, -, hr, heq⟩
      · rw [heq]
        exact .same (.refl m)
      · rw [heq]
        obtain ⟨_, _, -, hsame, -⟩ := State.remove_session_for_cookie_spec hr
        exact .same hsame
    | name_owner_notify service_name old_service_name new_service_name =>
      cases hr
      exact .name_owner_notify m _ _ _
    | process_queue | seat_activate_session | seat_switch_to | session_activate
      | activate_session | activate_session_on_seat | vt_leave =>
      exact .same (State.dispatch_same (by trivial) hr).1
  | @call f rest r hstack hr =>
    obtain rfl : stack = f :: rest := hstack
    by_cases hclaims : f.claims = []
    · -- Only the removals of a leader have claims.
      exact .same (State.call_same hclaims hr).1
    · cases f with
      | remove_session l' x caller =>
        cases hr
        cases caller with
        | dbus_close_session =>
          exact .fewer (fun _ => rfl) (fun hk => (HashTable.lookup_erase_iff.mp hk).2) rfl
        | destroy_entity => exact .fewer (fun l => m.cancel_sameAs l' l) id rfl
      | destroy_entity l' =>
        cases hr
        rcases m.destroy_entity_cases l' with ⟨-, heq⟩ | ⟨r, hr, heq⟩
        · rw [heq]
          exact .cancel l'
        · rw [heq]
          obtain ⟨_, _, -, hsame, -⟩ := State.remove_session_for_cookie_spec hr
          exact .same hsame
      | _ => exact absurd rfl hclaims
  | callout_done => exact .same (.refl m)

end LeaderStep

/-- No leader in the table has a name that is gone. -/
def GoneValid (m : State) : Prop :=
  ∀ l, Registered m l → (m.leader l).service_name ∉ m.gone

theorem GoneValid.step {c c' : MainLoop} {label : Label} (h : GoneValid c.state)
    (hsessions : SessionsValid c.state c.stack) (hnext : main_loop.next c label = some c') :
    GoneValid c'.state := by
  have hstep := LeaderStep.step hnext
  intro l hl hgone
  rcases hstep.gone hgone with hgone | hnone
  · rcases hstep.registered hl with hold | ⟨-, hnew⟩
    · have hlt := hsessions.live_lt (.inl hold)
      rw [hstep.leader hlt] at hgone
      exact h l hold hgone
    · exact hnew hgone
  · exact hnone l hl rfl

theorem goneValid {c : MainLoop} (h : main_loop.ReachableBy Orderly c) : GoneValid c.state := by
  induction h with
  | init hinit =>
    obtain ⟨vfd, active_num, files, rfl⟩ := hinit
    intro l _
    exact List.not_mem_nil
  | step h hok hnext ih => exact ih.step (sessionsValid h) hnext

/-! ## Section 3: Nothing is left, and nothing comes back -/

/-- No leader, collector or session of the connection. -/
structure Clean (m : State) (S : CString) : Prop where
  leaders : ∀ l, Registered m l → (m.leader l).service_name ≠ S
  collectors : ∀ l, (m.leader l).job = true → (m.leader l).service_name ≠ S
  sessions : ∀ k x, m.sessions.lookup k = some x →
    (m.leader (m.session x).leader).service_name ≠ S
  seats : ∀ d k x, SeatRegistered m d → (m.seat d).sessions.lookup k = some x →
    (m.leader (m.session x).leader).service_name ≠ S

/-- The name is gone, and no removal for it is running. -/
structure NoTrace (c : MainLoop) (S : CString) : Prop where
  gone : S ∈ c.state.gone
  claims : ∀ l ∈ claims c.stack, (c.state.leader l).service_name ≠ S

theorem Event.Requests.registered {m : State} {l : LeaderRef} {event : Event}
    (h : event.Requests m l) : Registered m l := by
  cases event with
  | close_session caller cookie =>
    cases caller with
    | none => cases h
    | some c => exact ⟨cookie, State.paranoia_check_registered h⟩
  | name_owner_notify => exact h.2.1
  | _ => cases h

namespace NoTrace

variable {c c' : MainLoop} {S : CString}

theorem clean (h : NoTrace c S) (hc : main_loop.ReachableBy Steady c) : Clean c.state S := by
  have horderly := hc.mono fun _ _ hok => hok.1
  have hsessions := sessionsValid horderly
  have hgone := goneValid horderly
  have hleaders : ∀ l, Registered c.state l → (c.state.leader l).service_name ≠ S :=
    fun l hl heq => hgone l hl (heq ▸ h.gone)
  have htable : ∀ k x, c.state.sessions.lookup k = some x →
      (c.state.leader (c.state.session x).leader).service_name ≠ S := by
    intro k x hx
    rcases hsessions.owned hx with howned | howned
    · exact hleaders _ howned
    · exact h.claims _ howned
  refine ⟨hleaders, fun l hl => ?_, htable, fun d k x hd hx =>
    htable k x ((membersValid hc).table hd hx)⟩
  rcases (hsessions.job hl).2.2 with hreg | hdestroying
  · exact hleaders l hreg
  · exact h.claims l (mem_claims_of_destroying hdestroying)

theorem step (h : NoTrace c S) (hc : main_loop.ReachableBy Steady c) {label : Label}
    (hnext : main_loop.next c label = some c') : NoTrace c' S := by
  have horderly := hc.mono fun _ _ hok => hok.1
  have hsessions := sessionsValid horderly
  have hleader := LeaderStep.step hnext
  refine ⟨hleader.gone_mono h.gone, fun l hl => ?_⟩
  -- who is claimed now was claimed before, or was registered
  have hbefore : (c.state.leader l).service_name ≠ S ∧ l < c.state.next_leader := by
    by_cases hrequest : ∃ event, label = .dispatch event ∧ event.Requests c.state l
    · obtain ⟨event, -, hrequest⟩ := hrequest
      have hreg := hrequest.registered
      exact ⟨fun heq => goneValid horderly l hreg (heq ▸ h.gone), hsessions.live_lt (.inl hreg)⟩
    · have hframe := Frame.step hsessions (seatsValid hc)
        (fun event heq hrequests => hrequest ⟨event, heq, hrequests⟩) hnext
      exact ⟨h.claims l (hframe.claimed hl), hsessions.claims_lt (hframe.claimed hl)⟩
  rw [hleader.leader hbefore.2]
  exact hbefore.1

theorem run (h : NoTrace c S) (hc : main_loop.ReachableBy Steady c)
    (hrun : (main_loop.startingAt c).ReachableBy Steady c') : NoTrace c' S := by
  induction hrun with
  | init hinit =>
    obtain rfl := hinit
    exact h
  | step hrun _ hnext ih => exact ih.step (hc.trans hrun) hnext

end NoTrace

/-- The leader is registered as before, and its sessions are in the table as
    before. -/
structure Kept (m m' : State) (l : LeaderRef) : Prop where
  registered : ∀ {k}, m.leaders.lookup k = some l → m'.leaders.lookup k = some l
  leader : m'.leader l = (m.leader l).sameAs (m'.leader l)
  sessions : ∀ {k x}, m.sessions.lookup k = some x → (m.session x).leader = l →
    m'.sessions.lookup k = some x ∧ m'.session x = (m.session x).sameAs (m'.session x) ∧
    ∀ d, (m.session x).seat = some d → (m'.session x).seat = some d

/-- One more step that does not concern the leader. -/
theorem Kept.step {m : State} {c c' : MainLoop} {l : LeaderRef} (h : Kept m c.state l)
    (hreg : Registered m l) (hfree : l ∉ claims c.stack)
    (hsessions : SessionsValid c.state c.stack)
    (hframe : Frame c.state c.stack c'.state c'.stack l) : Kept m c'.state l := by
  obtain ⟨k, hk⟩ := hreg
  constructor
  · exact fun hk => hframe.registered hfree (h.registered hk)
  · rw [hframe.leader (hsessions.registered (h.registered hk)).1, h.leader]
    rfl
  · intro k x hx hleader
    obtain ⟨hx', hidentity, hseat⟩ := h.sessions hx hleader
    have hleader' : (c.state.session x).leader = l := by
      rw [hidentity]
      exact hleader
    obtain ⟨hidentity', hseat'⟩ := hframe.session (hsessions.table hx').1 hleader'
    refine ⟨hframe.table hfree hx' hleader', ?_, fun d hd => hseat' d (hseat d hd)⟩
    rw [hidentity', hidentity]
    rfl

/-- The steps that meet the conditions and request no removal of a leader. -/
def SteadyExcept (l : LeaderRef) (c : MainLoop) (label : Label) : Prop :=
  Steady c label ∧ ∀ event, label = .dispatch event → ¬ event.Requests c.state l

theorem connection_loss_cleanup {c c₁ : MainLoop} {S : CString}
    (h : main_loop.ReachableBy Steady c)
    (hok : Steady c (.dispatch (.name_owner_notify S S [])))
    (hlost : main_loop.next c (.dispatch (.name_owner_notify S S [])) = some c₁) :
    (∀ c', (main_loop.startingAt c₁).ReachableBy Steady c' → c'.Quiescent →
      ∀ c'', (main_loop.startingAt c').ReachableBy Steady c'' → Clean c''.state S) ∧
    ∀ l, Registered c.state l → (c.state.leader l).service_name ≠ S → l ∉ claims c.stack →
      ∀ c', (main_loop.startingAt c₁).ReachableBy (SteadyExcept l) c' →
        Kept c.state c'.state l := by
  have h₁ : main_loop.ReachableBy Steady c₁ := h.step hok hlost
  constructor
  · intro c' hrun hquiescent c'' hrun'
    -- The name is gone from its loss on.
    have hgone : S ∈ c'.state.gone := by
      have hgone₁ : S ∈ c₁.state.gone := by
        cases main_loop_step hlost with
        | dispatch _ hr =>
          cases hr
          show S ∈ (if S = S then c.state.gone ++ [S] else c.state.gone)
          rw [if_pos rfl]
          exact List.mem_append_right _ List.mem_cons_self
      clear hquiescent hrun'
      induction hrun with
      | init hinit =>
        obtain rfl := hinit
        exact hgone₁
      | step _ _ hnext ih => exact (LeaderStep.step hnext).gone_mono ih
    -- With an empty stack no removal is under way, and no new leader takes the
    -- name.
    have htrace : NoTrace c' S := by
      refine ⟨hgone, fun l hl => ?_⟩
      rw [hquiescent] at hl
      cases hl
    have hc' := h₁.trans hrun
    exact (htrace.run hc' hrun').clean (hc'.trans hrun')
  · intro l hreg hname hfree c' hrun
    have hother : ∀ event, Label.dispatch (.name_owner_notify S S []) = .dispatch event →
        ¬ event.Requests c.state l := by
      rintro _ ⟨⟩ ⟨-, -, heq⟩
      exact hname heq
    have hstart : Kept c.state c.state l :=
      ⟨id, rfl, fun hx _ => ⟨hx, rfl, fun _ hd => hd⟩⟩
    -- No step of the run claims the leader, which the next step relies on.
    have hsteps : Kept c.state c'.state l ∧ l ∉ claims c'.stack := by
      induction hrun with
      | init hinit =>
        obtain rfl := hinit
        have hsessions := sessionsValid (h.mono fun _ _ hok => hok.1)
        have hframe := Frame.step hsessions (seatsValid h) hother hlost
        exact ⟨hstart.step hreg hfree hsessions hframe, fun hl => hfree (hframe.claimed hl)⟩
      | step hrun hok hnext ih =>
        have hc := h₁.trans (hrun.mono fun _ _ hok => hok.1)
        have hsessions := sessionsValid (hc.mono fun _ _ hok => hok.1)
        have hframe := Frame.step hsessions (seatsValid hc) hok.2 hnext
        exact ⟨ih.1.step hreg ih.2 hsessions hframe, fun hl => ih.2 (hframe.claimed hl)⟩
    exact hsteps.1

/-! ## Section 4: Runs on a console -/

/-- The test that no event is dispatched. -/
def undisturbed (_ : MainLoop) : Label → Bool
  | .dispatch _ => false
  | _ => true

theorem undisturbed_sound {c : MainLoop} {label : Label} (htest : undisturbed c label = true)
    (l : LeaderRef) : SteadyExcept l c label := by
  have hevent : ∀ event, label ≠ .dispatch event := by
    rintro event rfl
    cases htest
  exact ⟨⟨⟨fun event _ heq => absurd heq (hevent event), fun _ _ _ _ _ heq =>
    absurd heq (hevent _)⟩, fun event _ heq => absurd heq (hevent event)⟩,
    fun event heq => absurd heq (hevent event)⟩

/-- One client loses its connection while another one is opening a session. -/
theorem connection_loss_cleanup_other :
    ∃ c c₁ c', main_loop.runBy orderly one_seat
        (seat_loaded ++ session_opens (cstr ":1.5") (cstr "c1") 0 ++
          [.dispatch (.open_session (cstr ":1.6") (some (1000, 8)) (cstr "c2") true)]) = some c ∧
      main_loop.next c (.dispatch (.name_owner_notify (cstr ":1.5") (cstr ":1.5") [])) = some c₁ ∧
      main_loop.runBy undisturbed c₁ [.call, .callout_done, .call, .callout_done, .call, .call] =
        some c' ∧
      c'.Quiescent ∧ Clean c'.state (cstr ":1.5") ∧ Kept c.state c'.state 1 := by
  have hrun : ((main_loop.runBy orderly one_seat
      (seat_loaded ++ session_opens (cstr ":1.5") (cstr "c1") 0 ++
        [.dispatch (.open_session (cstr ":1.6") (some (1000, 8)) (cstr "c2") true)])).bind
      fun c => (main_loop.next c
        (.dispatch (.name_owner_notify (cstr ":1.5") (cstr ":1.5") []))).bind fun c₁ =>
      (main_loop.runBy undisturbed c₁
        [.call, .callout_done, .call, .callout_done, .call, .call]).map fun c' =>
      (c.stack, c.state.leaders.lookup (cstr "c2"), (c.state.leader 1).service_name, c'.stack)) =
      some ([], some 1, cstr ":1.6", []) := by
    decide
  obtain ⟨c, hc, hrun⟩ := Option.bind_eq_some_iff.mp hrun
  obtain ⟨c₁, hc₁, hrun⟩ := Option.bind_eq_some_iff.mp hrun
  obtain ⟨c', hc', heq⟩ := Option.map_eq_some_iff.mp hrun
  simp only [Prod.mk.injEq] at heq
  obtain ⟨hstack, hleader, hname, hstack'⟩ := heq
  have hreachable : main_loop.ReachableBy Steady c :=
    (one_seat_reachable Steady).runBy
      (fun _ _ h => steady_sound (h.mono fun _ _ hok => hok.1)) hc
  have hok : Steady c (.dispatch (.name_owner_notify (cstr ":1.5") (cstr ":1.5") [])) :=
    steady_sound (hreachable.mono fun _ _ hok => hok.1) (decide_eq_true hstack)
  have hexcept : (main_loop.startingAt c₁).ReachableBy (SteadyExcept 1) c' :=
    (LTS.System.ReachableBy.refl c₁).runBy (fun _ _ _ htest => undisturbed_sound htest 1)
      ((LTS.System.startingAt_runBy undisturbed c₁ c₁ _).trans hc')
  obtain ⟨hclean, hkept⟩ := connection_loss_cleanup hreachable hok hc₁
  refine ⟨c, c₁, c', hc, hc₁, hc', hstack', ?_, ?_⟩
  · exact hclean c' (hexcept.mono fun _ _ hok => hok.1) hstack' c' (.refl c')
  · refine hkept 1 ⟨_, hleader⟩ (by rw [hname]; decide) ?_ c' hexcept
    rw [hstack]
    exact List.not_mem_nil

/-- The connection is lost while the programs of the seat that the session
    will get are running. -/
def lost_while_opening : List Label :=
  [.call, .dispatch (.open_session (cstr ":1.5") (some (1000, 7)) (cstr "c1") true),
    .dispatch (.job_completed 0 (some (text_session 2))),
    .dispatch (.name_owner_notify (cstr ":1.5") (cstr ":1.5") []), .call, .call, .callout_done,
    .call, .call, .callout_done, .call, .call]

/-- The session is put at its seat after its removal, and stays there. -/
theorem connection_loss_leaves_member :
    ∃ c, main_loop.run ⟨ck_manager_init true 1, [.load_seats_from_dir []]⟩ lost_while_opening =
        some c ∧
      main_loop.Reachable c ∧ c.Quiescent ∧ cstr ":1.5" ∈ c.state.gone ∧
      c.state.sessions.lookup (cstr "Session1") = none ∧
      c.state.seats.lookup (cstr "seat0") = some 0 ∧
      (c.state.seat 0).sessions.lookup (cstr "Session1") = some 0 ∧
      ¬ Clean c.state (cstr ":1.5") := by
  have hrun : (main_loop.run ⟨ck_manager_init true 1, [.load_seats_from_dir []]⟩
      lost_while_opening).map (fun c => (c.stack,
        c.state.sessions.lookup (cstr "Session1"), c.state.seats.lookup (cstr "seat0"),
        (c.state.seat 0).sessions.lookup (cstr "Session1"),
        decide (cstr ":1.5" ∈ c.state.gone ∧
          (c.state.leader (c.state.session 0).leader).service_name = cstr ":1.5"))) =
      some ([], none, some 0, some 0, true) := by
    decide
  obtain ⟨c, hc, heq⟩ := Option.map_eq_some_iff.mp hrun
  simp only [Prod.mk.injEq, decide_eq_true_eq] at heq
  obtain ⟨hstack, hsession, hseat, hmember, hgone, hname⟩ := heq
  exact ⟨c, hc, LTS.System.Reachable.run (.init ⟨true, 1, [], rfl⟩) hc, hstack, hgone, hsession,
    hseat, hmember, fun hclean => hclean.seats 0 _ 0 ⟨_, hseat⟩ hmember hname⟩

end CkManager
