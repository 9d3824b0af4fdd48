import ConsoleKit.Manager.Members

/-! # Every session has its seat

    With two more conditions, that a dynamic seat is not removed while it
    has or gets another session, and that a new session finds a seat, the
    tables agree whenever no handler is running: the members of the seats
    of the manager are the sessions of the manager.

    This module provides:
    - `NoLostMember`, `SeatFound`: the two conditions,
    - `AttachedValid`: a session of the table is at a seat of the manager,
      or its opening or removal is running,
    - `membership_consistent`.
-/

namespace CkManager

open Libc

/-! ## Section 1: Conditions and invariant -/

/-- A dynamic seat is removed when no other session is at it, or on its way. -/
def NoLostMember (c : MainLoop) (label : Label) : Prop :=
  ∀ d rest orig, label = .call → c.stack = .remove_dynamic_seat d :: rest →
    (c.state.seat d).kind = .DYNAMIC → c.state.seats.lookup (c.state.seat d).id = some orig →
    (∀ k, (c.state.seat orig).sessions.lookup k = none) ∧
    ∀ x, .ck_seat_add_session (some orig) x ∉ rest

/-- A new session finds its seat, or a new one can be registered. -/
def SeatFound (c : MainLoop) (label : Label) : Prop :=
  ∀ l o, label = .dispatch (.job_completed l (some o)) → o.created = true →
    o.registers = true ∨
      (c.state.insertOpened l o).find_seat_for_session c.state.next_session ≠ none

/-- What holds of the sessions of the table between two steps. -/
structure AttachedValid (m : State) (stack : List Call) : Prop where
  adding : ∀ {seat x}, .ck_seat_add_session seat x ∈ stack →
    ∃ d, seat = some d ∧ SeatRegistered m d
  attached : ∀ {k x}, m.sessions.lookup k = some x →
    x ∈ opening stack ∨ x ∈ removing stack ∨
      ∃ d, SeatRegistered m d ∧ (m.seat d).sessions.lookup k = some x

namespace State

theorem find_seat_registered {m : State} {x : SessionRef} {d : SeatRef}
    (h : m.find_seat_for_session x = some d) : SeatRegistered m d := by
  unfold find_seat_for_session at h
  dsimp only at h
  split at h
  · exact ⟨_, h⟩
  · cases h

theorem add_new_seat_registers {m : State} {kind : CkSeatKind}
    {r : Option SeatRef × State × List Call} (h : m.add_new_seat kind true = some r) :
    r.1 ≠ none := by
  obtain ⟨⟨sid, m₁⟩, -, rfl⟩ := Option.map_eq_some_iff.mp h
  simp [registerSeat]

end State

/-- Registered seats stay when a new one comes. -/
theorem NewSeat.keep {m m' : State} {seat : Option SeatRef} (h : NewSeat m m' seat)
    {d : SeatRef} (hd : SeatRegistered m d) : SeatRegistered m' d := by
  obtain ⟨sid, hd⟩ := hd
  rcases h.seats with ⟨-, heq⟩ | ⟨-, hfree, heq⟩
  · exact ⟨sid, heq ▸ hd⟩
  · refine ⟨sid, ?_⟩
    rw [heq]
    refine HashTable.lookup_insert_iff.mpr (.inr ⟨?_, hd⟩)
    rintro rfl
    rw [hfree] at hd
    cases hd

theorem NewSeat.registered {m m' : State} {d : SeatRef} (h : NewSeat m m' (some d)) :
    SeatRegistered m' d := by
  rcases h.seats with ⟨hnone, -⟩ | ⟨hsome, -, heq⟩
  · cases hnone
  · obtain rfl := Option.some.inj hsome
    exact ⟨_, heq ▸ AList.lookup_insert _⟩

namespace AttachedValid

variable {m m' : State} {stack : List Call}

/-- Steps that change neither the tables nor the seats. -/
theorem congr (h : AttachedValid m stack) (hseats : SameSeats m m')
    (hsessions : m'.sessions = m.sessions) : AttachedValid m' stack := by
  have hreg : ∀ {d}, SeatRegistered m d → SeatRegistered m' d :=
    fun ⟨sid, hd⟩ => ⟨sid, hseats.seats ▸ hd⟩
  constructor
  · intro seat x hx
    exact (h.adding hx).imp fun d hd => hd.imp_right hreg
  · intro k x hx
    rw [hsessions] at hx
    refine (h.attached hx).imp_right (Or.imp_right fun ⟨d, hd, hk⟩ => ⟨d, hreg hd, ?_⟩)
    rw [hseats.members]
    exact hk

/-- Calls that neither open nor remove a session can be put on the stack. -/
theorem append (h : AttachedValid m stack) {calls : List Call}
    (hcalls : ∀ f ∈ calls, f.opening = []) : AttachedValid m (calls ++ stack) := by
  constructor
  · intro seat x hx
    rcases List.mem_append.mp hx with hx | hx
    · cases hcalls _ hx
    · exact h.adding hx
  · intro k x hx
    rw [opening, removing, List.flatMap_append, List.flatMap_append]
    rcases h.attached hx with hx | hx | hx
    · exact .inl (List.mem_append_right _ hx)
    · exact .inr (.inl (List.mem_append_right _ hx))
    · exact .inr (.inr hx)

theorem pop {f : Call} {rest : List Call} (h : AttachedValid m (f :: rest))
    (hopening : f.opening = []) (hremoving : f.removing = []) : AttachedValid m rest := by
  constructor
  · intro seat x hx
    exact h.adding (List.mem_cons_of_mem f hx)
  · intro k x hx
    rcases h.attached hx with hx | hx | hx
    · rcases List.mem_append.mp hx with hx | hx
      · rw [hopening] at hx
        cases hx
      · exact .inl hx
    · rcases List.mem_append.mp hx with hx | hx
      · rw [hremoving] at hx
        cases hx
      · exact .inr (.inl hx)
    · exact .inr (.inr hx)

/-- The removal of a session starts with its seat. -/
theorem start {stack' : List Call} (h : AttachedValid m stack)
    (hsessions : SessionsValid m stack') {l : LeaderRef} {caller : RemovalCaller}
    {r : State × List Call} (hr : m.remove_session_for_cookie l caller = some r) :
    AttachedValid r.1 (r.2 ++ stack) := by
  obtain ⟨x, calls, hx, hsame, hquiet, hcalls⟩ := State.remove_session_for_cookie_spec hr
  have hid := (hsessions.table hx).2
  obtain ⟨x', hx', heq⟩ := Option.map_eq_some_iff.mp hr
  rw [hx] at hx'
  obtain rfl := Option.some.inj hx'
  have hreg : ∀ {d}, SeatRegistered m d → SeatRegistered r.1 d := by
    intro d hd
    rw [← heq]
    split
    · rename_i d' _
      show SeatRegistered (m.ck_seat_remove_session d' x).1 d
      unfold State.ck_seat_remove_session
      split <;> exact hd
    · exact hd
  -- The other sessions stay on their seats: no other one has the id of this one.
  have hmember : ∀ {d k y}, y ≠ x → m.sessions.lookup k = some y →
      (m.seat d).sessions.lookup k = some y → (r.1.seat d).sessions.lookup k = some y := by
    intro d k y hne hy hk
    rw [← heq]
    split
    · rename_i d' _
      show ((m.ck_seat_remove_session d' x).1.seat d).sessions.lookup k = some y
      by_cases hmem : ((m.seat d').sessions.lookup (m.session x).id).isSome = true
      · rw [State.detach_members hmem]
        split
        · rename_i hd
          subst hd
          refine HashTable.lookup_erase_iff.mpr ⟨?_, hk⟩
          rintro rfl
          rw [hid, hx] at hy
          exact hne (Option.some.inj hy).symm
        · exact hk
      · unfold State.ck_seat_remove_session
        rw [if_neg hmem]
        exact hk
    · exact hk
  rw [hcalls, List.append_assoc]
  refine AttachedValid.append ?_ fun f hf => (hquiet f hf).2
  constructor
  · intro seat y hy
    rcases List.mem_cons.mp hy with hy | hy
    · cases hy
    · exact (h.adding hy).imp fun d hd => hd.imp_right hreg
  · intro k y hy
    rw [hsame.sessions] at hy
    -- The session itself is being removed now.
    by_cases hne : y = x
    · exact .inr (.inl (hne ▸ List.mem_cons_self))
    · rcases h.attached hy with hy' | hy' | ⟨d, hd, hk⟩
      · exact .inl hy'
      · exact .inr (.inl (List.mem_cons_of_mem _ hy'))
      · exact .inr (.inr ⟨d, hreg hd, hmember hne hy hk⟩)

/-- A removed session leaves the manager's table. -/
theorem session_removed {l : LeaderRef} {x : SessionRef} {caller : RemovalCaller}
    {rest : List Call} (h : AttachedValid m (.remove_session l x caller :: rest))
    (hsessions : SessionsValid m (.remove_session l x caller :: rest)) :
    AttachedValid (m.session_removed l x caller) rest := by
  have hx := (hsessions.removing (List.mem_cons_self)).1
  have hreg : ∀ {d}, SeatRegistered m d → SeatRegistered (m.session_removed l x caller) d := by
    cases caller <;> exact id
  constructor
  · intro seat y hy
    exact (h.adding (List.mem_cons_of_mem _ hy)).imp fun d hd => hd.imp_right hreg
  · intro k y hy
    have herase : (m.session_removed l x caller).sessions =
        m.sessions.erase (m.leader l).session_id := by cases caller <;> rfl
    have hseat : (m.session_removed l x caller).seat = m.seat := by cases caller <;> rfl
    rw [herase] at hy
    obtain ⟨hk, hy⟩ := HashTable.lookup_erase_iff.mp hy
    rcases h.attached hy with hy' | hy' | ⟨d, hd, hmem⟩
    · exact .inl hy'
    · rcases List.mem_cons.mp hy' with rfl | hy'
      · -- the removed session is not in the table any more
        exact absurd ((hsessions.table hy).2.symm.trans (hsessions.table hx).2) hk
      · exact .inr (.inl hy')
    · rw [hseat]
      exact .inr (.inr ⟨d, hreg hd, hmem⟩)

theorem attach {d : SeatRef} {x : SessionRef} {rest : List Call}
    (h : AttachedValid m (.ck_seat_add_session (some d) x :: rest))
    (hsessions : SessionsValid m (.ck_seat_add_session (some d) x :: rest))
    (hmembers : MembersValid m (.ck_seat_add_session (some d) x :: rest)) :
    AttachedValid (m.ck_seat_add_session (some d) x).1 rest := by
  have hreg : ∀ {d'}, SeatRegistered m d' →
      SeatRegistered (m.ck_seat_add_session (some d) x).1 d' := fun hd => hd
  obtain ⟨d₀, hd₀, hdreg⟩ := h.adding List.mem_cons_self
  obtain rfl := Option.some.inj hd₀
  constructor
  · intro seat y hy
    exact (h.adding (List.mem_cons_of_mem _ hy)).imp fun d' hd => hd.imp_right hreg
  · intro k y hy
    rw [(m.ck_seat_add_session_same (some d) x).1.sessions] at hy
    have hid := (hsessions.table hy).2
    by_cases heq : y = x
    · refine .inr (.inr ⟨d, hreg hdreg, ?_⟩)
      rw [State.attach_members, if_pos rfl, ← heq, hid]
      exact AList.lookup_insert _
    · rcases h.attached hy with hy' | hy' | ⟨d', hd, hmem⟩
      · exact .inl ((List.mem_cons.mp hy').resolve_left heq)
      · exact .inr (.inl hy')
      · refine .inr (.inr ⟨d', hreg hd, ?_⟩)
        rw [State.attach_members]
        split
        · rename_i heq'
          rw [heq'] at hmem
          refine HashTable.lookup_insert_iff.mpr (.inr ⟨?_, hmem⟩)
          rintro rfl
          rw [hmembers.opening_table (x := x) List.mem_cons_self] at hy
          exact heq (Option.some.inj hy).symm
        · exact hmem

theorem newSeat (h : AttachedValid m stack) (hseats : SeatsValid m stack)
    {seat : Option SeatRef} (hnew : NewSeat m m' seat) (hsessions : m'.sessions = m.sessions) :
    AttachedValid m' stack := by
  constructor
  · intro seat x hx
    exact (h.adding hx).imp fun d hd => hd.imp_right hnew.keep
  · intro k x hx
    rw [hsessions] at hx
    refine (h.attached hx).imp_right (Or.imp_right fun ⟨d, hd, hk⟩ => ⟨d, hnew.keep hd, ?_⟩)
    obtain ⟨sid, hsid⟩ := hd
    rw [hnew.others (Nat.ne_of_lt (hseats.registered hsid).1)]
    exact hk

theorem remove_seat (h : AttachedValid m stack) {d : SeatRef}
    (hempty : ∀ orig, m.seats.lookup (m.seat d).id = some orig →
      (∀ k, (m.seat orig).sessions.lookup k = none) ∧
      ∀ x, .ck_seat_add_session (some orig) x ∉ stack) :
    AttachedValid (m.remove_seat d).1 stack := by
  unfold State.remove_seat
  split
  · exact h
  · rename_i orig horig
    obtain ⟨hnone, hfree⟩ := hempty orig horig
    have hreg : ∀ {d'}, d' ≠ orig → SeatRegistered m d' → SeatRegistered
        (({ m with seats := m.seats.erase (m.seat d).id }).setSeat orig
          { m.seat orig with connected := false }) d' := by
      rintro d' hne ⟨sid, hd⟩
      refine ⟨sid, HashTable.lookup_erase_iff.mpr ⟨?_, hd⟩⟩
      rintro rfl
      rw [horig] at hd
      exact hne (Option.some.inj hd).symm
    constructor
    · intro seat x hx
      obtain ⟨d', rfl, hd⟩ := h.adding hx
      refine ⟨d', rfl, hreg ?_ hd⟩
      rintro rfl
      exact hfree x hx
    · intro k x hx
      rcases h.attached hx with hx' | hx' | ⟨d', hd, hk⟩
      · exact .inl hx'
      · exact .inr (.inl hx')
      · have hne : d' ≠ orig := by
          rintro rfl
          rw [hnone k] at hk
          cases hk
        refine .inr (.inr ⟨d', hreg hne hd, ?_⟩)
        simpa [State.setSeat, hne] using hk

/-! ## Section 2: Preservation -/

theorem init (vfd : Bool) (active_num : Nat) (files : List SeatFile) :
    AttachedValid (ck_manager_init vfd active_num) [.load_seats_from_dir files] := by
  constructor
  · intro seat x hx
    cases List.mem_singleton.mp hx
  · intro k x hx
    exact absurd ((AList.lookup_empty k).symm.trans hx) (by simp)

theorem job_completed (h : AttachedValid m stack) (hseats : SeatsValid m stack)
    {l : LeaderRef} {result : Option Opening}
    (hfound : ∀ o, result = some o → o.created = true → o.registers = true ∨
      (m.insertOpened l o).find_seat_for_session m.next_session ≠ none)
    {r : State × List Call} (hr : m.job_completed l result = some r) :
    AttachedValid r.1 (r.2 ++ stack) := by
  rcases State.job_completed_cases hr with
    rfl | ⟨o, is_local, seat, calls, rfl, hcreated, hsame, hquiet, hcalls, hseat⟩
  · exact h.congr (.of_eq rfl rfl rfl rfl) rfl
  · -- the seat of the new session is registered, and all others have stayed
    have hopened : (∃ d, seat = some d ∧ SeatRegistered r.1 d) ∧
        (∀ {d}, SeatRegistered m d → SeatRegistered r.1 d) ∧
        ∀ {d}, SeatRegistered m d → (r.1.seat d).sessions = (m.seat d).sessions := by
      rcases hseat with ⟨d, rfl, hd, heq, -⟩ | ⟨hnone, hadd⟩
      · rw [heq]
        exact ⟨⟨d, rfl, State.find_seat_registered hd⟩, id, fun _ => rfl⟩
      · -- No seat was found, so a new one is registered.
        have hregisters := (hfound o rfl hcreated).resolve_right fun hne => hne hnone
        rw [hregisters] at hadd
        obtain ⟨d, hd⟩ := Option.ne_none_iff_exists'.mp (State.add_new_seat_registers hadd)
        have hnew : NewSeat (m.insertOpened l o) r.1 seat := State.add_new_seat_new hadd
        dsimp only at hd
        subst hd
        refine ⟨⟨d, rfl, hnew.registered⟩, hnew.keep, fun {d'} hd' => ?_⟩
        obtain ⟨sid, hsid⟩ := hd'
        rw [hnew.others (Nat.ne_of_lt (hseats.registered hsid).1)]
        rfl
    obtain ⟨⟨d, rfl, hd⟩, hkeep, hmembers⟩ := hopened
    rw [hcalls, List.append_assoc]
    refine AttachedValid.append ?_ fun f hf => (hquiet f hf).2
    constructor
    · intro seat x hx
      rcases List.mem_cons.mp hx with hx | hx
      · cases hx
        exact ⟨d, rfl, hd⟩
      · rcases List.mem_cons.mp hx with hx | hx
        · cases hx
        · exact (h.adding hx).imp fun d' hd' => hd'.imp_right hkeep
    · intro k x hx
      rw [hsame.sessions] at hx
      rcases HashTable.lookup_insert_iff.mp hx with ⟨-, rfl⟩ | ⟨-, hx⟩
      · exact .inl List.mem_cons_self
      · rcases h.attached hx with hx' | hx' | ⟨d', hd', hk⟩
        · exact .inl (List.mem_cons_of_mem _ hx')
        · exact .inr (.inl hx')
        · exact .inr (.inr ⟨d', hkeep hd', (hmembers hd').symm ▸ hk⟩)

theorem call {f : Call} {rest : List Call} (h : AttachedValid m (f :: rest))
    (hsessions : SessionsValid m (f :: rest)) (hseats : SeatsValid m (f :: rest))
    (hmembers : MembersValid m (f :: rest)) (hlost : NoLostMember ⟨m, f :: rest⟩ .call)
    {r : State × List Call} (hr : m.call f = some r) : AttachedValid r.1 (r.2 ++ rest) := by
  have hidle : f.Idle → f.opening = [] → f.removing = [] → AttachedValid r.1 (r.2 ++ rest) := by
    intro hf hopening hremoving
    have hclaims : f.claims = [] := by cases f <;> first | rfl | cases hf
    obtain ⟨hsame, hquiet⟩ := State.call_same hclaims hr
    exact ((h.pop hopening hremoving).congr (State.call_same_seats hf hr)
      hsame.sessions).append fun g hg => (hquiet g hg).2
  cases f with
  | load_seats_from_dir files =>
    cases files with
    | nil => exact hidle rfl rfl rfl
    | cons file files =>
      obtain ⟨hsame, hquiet⟩ := State.call_same rfl hr
      obtain ⟨r, hadd, rfl⟩ := Option.map_eq_some_iff.mp hr
      refine AttachedValid.append ?_ fun g hg => (hquiet g hg).2
      rcases State.add_seat_for_file_new hadd with hsame' | ⟨seat, hnew⟩
      · exact (h.pop rfl rfl).congr hsame' hsame.sessions
      · exact (h.pop rfl rfl).newSeat hseats.pop hnew hsame.sessions
  | ck_seat_add_session seat x =>
    have hquiet := (State.call_same rfl hr).2
    cases hr
    refine AttachedValid.append ?_ fun g hg => (hquiet g hg).2
    obtain ⟨d, rfl, -⟩ := h.adding List.mem_cons_self
    exact h.attach hsessions hmembers
  | remove_dynamic_seat d =>
    have hquiet := (State.call_same rfl hr).2
    cases hr
    refine AttachedValid.append ?_ fun g hg => (hquiet g hg).2
    split
    · rename_i hkind
      exact (h.pop rfl rfl).remove_seat fun orig horig => hlost d rest orig rfl rfl hkind horig
    · exact h.pop rfl rfl
  | remove_session l x caller =>
    cases hr
    exact h.session_removed hsessions
  | destroy_entity l =>
    cases hr
    rcases m.destroy_entity_cases l with ⟨-, heq⟩ | ⟨r, hr, heq⟩
    · rw [heq]
      exact (h.pop rfl rfl).congr (.of_eq rfl rfl rfl rfl) rfl
    · rw [heq]
      exact (h.pop rfl rfl).start hsessions hr
  | callout => cases hr
  | seat_added | session_opened | maybe_update_active_session | update_active_vt
    | queue_processed | seat_removed => exact hidle rfl rfl rfl

/-- **Step lemma**: a step that meets the conditions keeps the invariant. -/
theorem step {c c' : MainLoop} {label : Label} (h : AttachedValid c.state c.stack)
    (hsessions : SessionsValid c.state c.stack) (hseats : SeatsValid c.state c.stack)
    (hmembers : MembersValid c.state c.stack) (hlost : NoLostMember c label)
    (hfound : SeatFound c label) (hnext : main_loop.next c label = some c') :
    AttachedValid c'.state c'.stack := by
  obtain ⟨m, stack⟩ := c
  cases main_loop_step hnext with
  | @dispatch event r hloop hr =>
    cases event with
    | open_session sender caller cookie started =>
      obtain ⟨-, m', hm', rfl⟩ := State.dispatch_open_session hr
      obtain ⟨hsession, -, hsessions', hseat, hnext', hseats'⟩ := State.create_session_heaps hm'
      exact h.congr (.of_eq hnext' hseats' hseat hsession) hsessions'
    | job_completed l result =>
      obtain ⟨-, hr⟩ := State.dispatch_job_completed hr
      exact h.job_completed hseats (fun o ho => hfound l o (by rw [ho])) hr
    | close_session caller cookie =>
      cases hr
      rcases m.dbus_close_session_cases caller cookie with heq | ⟨_, _, l, r, -, -, hr, heq⟩
      · rw [heq]
        exact h
      · rw [heq]
        exact h.start hsessions hr
    | name_owner_notify service_name old_service_name new_service_name =>
      cases hr
      have hcalls := m.name_owner_opening service_name old_service_name new_service_name
      refine AttachedValid.append ?_ hcalls
      unfold State.on_name_owner_notify
      split
      · exact h.congr (.of_eq rfl rfl rfl rfl) rfl
      · exact h
    | process_queue | seat_activate_session | seat_switch_to | session_activate
      | activate_session | activate_session_on_seat | vt_leave =>
      obtain ⟨hsame, hquiet⟩ := State.dispatch_same (by trivial) hr
      exact (h.congr (State.dispatch_same_seats (by trivial) hr)
        hsame.sessions).append fun f hf => (hquiet f hf).2
  | @call f rest r hstack hr =>
    obtain rfl : stack = f :: rest := hstack
    exact h.call hsessions hseats hmembers hlost hr
  | @callout_done action rest hstack =>
    obtain rfl : stack = .callout action :: rest := hstack
    exact h.pop rfl rfl

end AttachedValid

/-! ## Section 3: Every run -/

/-- The conditions under which sessions and seats stay consistent. -/
def Steady (c : MainLoop) (label : Label) : Prop :=
  Orderly c label ∧ NoOpeningRemoval c label

def Settled (c : MainLoop) (label : Label) : Prop :=
  Steady c label ∧ NoLostMember c label ∧ SeatFound c label

theorem seatsValid {ok : MainLoop → Label → Prop} {c : MainLoop}
    (h : main_loop.ReachableBy ok c) : SeatsValid c.state c.stack := by
  refine h.invariant (I := fun c => SeatsValid c.state c.stack) ?_ ?_
  · rintro c ⟨vfd, active_num, files, rfl⟩
    exact .init vfd active_num files
  · intro c label c' hvalid _ hnext
    exact hvalid.step hnext

theorem membersValid {c : MainLoop} (h : main_loop.ReachableBy Steady c) :
    MembersValid c.state c.stack := by
  induction h with
  | init hinit =>
    obtain ⟨vfd, active_num, files, rfl⟩ := hinit
    exact .init vfd active_num files
  | step h hok hnext ih =>
    exact ih.step (sessionsValid (h.mono fun _ _ hok => hok.1)) (seatsValid h) hok.2 hnext

theorem attachedValid {c : MainLoop} (h : main_loop.ReachableBy Settled c) :
    AttachedValid c.state c.stack := by
  induction h with
  | init hinit =>
    obtain ⟨vfd, active_num, files, rfl⟩ := hinit
    exact .init vfd active_num files
  | step h hok hnext ih =>
    exact ih.step (sessionsValid (h.mono fun _ _ hok => hok.1.1)) (seatsValid h)
      (membersValid (h.mono fun _ _ hok => hok.1)) hok.2.1 hok.2.2 hnext

/-- The tables of sessions and seats agree. -/
structure Consistent (m : State) : Prop where
  attached : ∀ {k x}, m.sessions.lookup k = some x →
    ∃ d, (m.session x).seat = some d ∧ m.seats.lookup (m.seat d).id = some d ∧
      (m.seat d).sessions.lookup k = some x
  member : ∀ {sid d k x}, m.seats.lookup sid = some d → (m.seat d).sessions.lookup k = some x →
    m.sessions.lookup k = some x ∧ (m.session x).seat = some d ∧ (m.seat d).id = sid

theorem membership_consistent {c : MainLoop} (h : main_loop.ReachableBy Settled c)
    (hquiescent : c.Quiescent) : Consistent c.state := by
  have hseats := seatsValid h
  have hmembers := membersValid (h.mono fun _ _ hok => hok.1)
  have hattached := attachedValid h
  rw [hquiescent] at hseats hmembers hattached
  constructor
  · intro k x hx
    rcases hattached.attached hx with hx' | hx' | ⟨d, ⟨sid, hd⟩, hk⟩
    · cases hx'
    · cases hx'
    · refine ⟨d, (hseats.member hk).2.2, ?_, hk⟩
      rw [(hseats.registered hd).2]
      exact hd
  · intro sid d k x hd hk
    exact ⟨hmembers.table ⟨sid, hd⟩ hk, (hseats.member hk).2.2, (hseats.registered hd).2⟩

/-! ## Section 4: Runs on a console -/

/-- The test that requests come while no handler is running, that only
    static seats have sessions that leave, and that seats can be registered. -/
def settled (c : MainLoop) (label : Label) : Bool :=
  orderly c label && match label, c.stack with
  | .dispatch (.job_completed _ (some o)), _ => o.registers
  | .call, .remove_dynamic_seat d :: _ => (c.state.seat d).kind = .STATIC
  | _, _ => true

theorem steady_sound {c : MainLoop} (h : main_loop.ReachableBy Orderly c) {label : Label}
    (htest : orderly c label = true) : Steady c label := by
  refine ⟨orderly_sound h htest, fun event l hlabel hrequest x hx => ?_⟩
  subst hlabel
  cases event with
  | close_session | name_owner_notify =>
    rw [of_decide_eq_true htest] at hx
    cases hx
  | _ => cases hrequest

theorem settled_sound {c : MainLoop} (h : main_loop.ReachableBy Settled c) {label : Label}
    (htest : settled c label = true) : Settled c label := by
  obtain ⟨horderly, hrest⟩ := Bool.and_eq_true_iff.mp htest
  refine ⟨steady_sound (h.mono fun _ _ hok => hok.1.1) horderly, ?_, ?_⟩
  · intro d rest orig hlabel hstack hkind
    rw [hlabel, hstack] at hrest
    rw [of_decide_eq_true hrest] at hkind
    cases hkind
  · intro l o hlabel _
    rw [hlabel] at hrest
    exact .inl hrest

/-- The session on the console is at its seat, and stays there until its
    client closes it. -/
theorem membership_consistent_console :
    ∃ c, main_loop.runBy settled one_seat
      (seat_loaded ++ session_opens (cstr ":1.5") (cstr "c1") 0) = some c ∧
      c.state.sessions.lookup (cstr "Session1") = some 0 ∧ Consistent c.state := by
  have hrun : (main_loop.runBy settled one_seat
      (seat_loaded ++ session_opens (cstr ":1.5") (cstr "c1") 0)).map
      (fun c => (c.stack, c.state.sessions.lookup (cstr "Session1"))) = some ([], some 0) := by
    decide
  obtain ⟨c, hc, heq⟩ := Option.map_eq_some_iff.mp hrun
  simp only [Prod.mk.injEq] at heq
  exact ⟨c, hc, heq.2, membership_consistent
    ((one_seat_reachable Settled).runBy (fun _ _ h => settled_sound h) hc) heq.1⟩

/-- Two sessions at the first seat of a daemon without static seats, and the
    first one is closed. -/
def seat0_shared : List Label :=
  [.call, .dispatch (.open_session (cstr ":1.5") (some (1000, 7)) (cstr "c1") true),
    .dispatch (.job_completed 0 (some (text_session 2))), .callout_done, .call, .call,
    .callout_done, .call, .call,
    .dispatch (.open_session (cstr ":1.6") (some (1000, 8)) (cstr "c2") true),
    .dispatch (.job_completed 1 (some (text_session 3))), .call, .callout_done, .call, .call,
    .dispatch (.close_session (some (1000, 7)) (cstr "c1")), .callout_done, .call, .call,
    .callout_done, .call, .call]

/-- The first session gets a dynamic `seat0`, the second one is put there
    too, and loses its seat when the first one is closed. -/
theorem membership_inconsistent_seat0 :
    ∃ c, main_loop.run ⟨ck_manager_init true 1, [.load_seats_from_dir []]⟩ seat0_shared =
        some c ∧
      main_loop.Reachable c ∧ c.Quiescent ∧
      c.state.sessions.lookup (cstr "Session2") = some 1 ∧
      (c.state.session 1).seat = some 0 ∧ c.state.seats.lookup (c.state.seat 0).id = none ∧
      ¬ Consistent c.state := by
  have hrun : (main_loop.run ⟨ck_manager_init true 1, [.load_seats_from_dir []]⟩
      seat0_shared).map (fun c => (c.stack, c.state.sessions.lookup (cstr "Session2"),
        (c.state.session 1).seat, c.state.seats.lookup (c.state.seat 0).id)) =
      some ([], some 1, some 0, none) := by
    decide
  obtain ⟨c, hc, heq⟩ := Option.map_eq_some_iff.mp hrun
  simp only [Prod.mk.injEq] at heq
  obtain ⟨hstack, hsession, hseat, hnone⟩ := heq
  refine ⟨c, hc, LTS.System.Reachable.run (.init ⟨true, 1, [], rfl⟩) hc, hstack, hsession, hseat,
    hnone, fun hconsistent => ?_⟩
  obtain ⟨d, hd, hlookup, -⟩ := hconsistent.attached hsession
  rw [hseat] at hd
  obtain rfl := Option.some.inj hd
  rw [hnone] at hlookup
  cases hlookup

end CkManager
