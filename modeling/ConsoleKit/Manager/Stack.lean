import ConsoleKit.Manager.Handlers

/-! # The calls on the stack

    What a step of the main loop does to its stack, which calls are about to
    remove or to attach a session, and that all other calls leave the tables
    of sessions and leaders alone.
-/

namespace CkManager

/-! ## Section 1: What the calls are about -/

/-- The leader whose session the call removes. -/
def Call.claims : Call → List LeaderRef
  | .remove_session l _ _ | .destroy_entity l => [l]
  | _ => []

/-- The leader that the call removes when its turn comes. -/
def Call.destroying : Call → List LeaderRef
  | .destroy_entity l => [l]
  | _ => []

/-- The session whose removal is running. -/
def Call.removing : Call → List SessionRef
  | .remove_session _ x _ => [x]
  | _ => []

/-- The session that the call attaches to its seat. -/
def Call.opening : Call → List SessionRef
  | .ck_seat_add_session _ x => [x]
  | _ => []

/-- The leader is in the manager's table. -/
def Registered (m : State) (l : LeaderRef) : Prop := ∃ cookie, m.leaders.lookup cookie = some l

/-- Neither removes nor attaches a session. -/
def Call.Quiet (f : Call) : Prop := f.claims = [] ∧ f.opening = []

instance (f : Call) : Decidable f.Quiet := inferInstanceAs (Decidable (_ ∧ _))

def claims (stack : List Call) : List LeaderRef := stack.flatMap Call.claims

def destroying (stack : List Call) : List LeaderRef := stack.flatMap Call.destroying

def removing (stack : List Call) : List SessionRef := stack.flatMap Call.removing

def opening (stack : List Call) : List SessionRef := stack.flatMap Call.opening

theorem Call.Quiet.destroying {f : Call} (h : f.Quiet) : f.destroying = [] := by
  cases f <;> first | rfl | exact absurd h.1 (by simp [Call.claims])

theorem Call.Quiet.removing {f : Call} (h : f.Quiet) : f.removing = [] := by
  cases f <;> first | rfl | exact absurd h.1 (by simp [Call.claims])

/-- Calls that neither remove nor attach a session do not count. -/
theorem quiet_append {calls : List Call} (h : ∀ f ∈ calls, f.Quiet) (stack : List Call) :
    claims (calls ++ stack) = claims stack ∧ destroying (calls ++ stack) = destroying stack ∧
    removing (calls ++ stack) = removing stack ∧ opening (calls ++ stack) = opening stack := by
  induction calls with
  | nil => exact ⟨rfl, rfl, rfl, rfl⟩
  | cons f calls ih =>
    have hf := h f List.mem_cons_self
    obtain ⟨hc, hd, hr, ho⟩ := ih fun g hg => h g (List.mem_cons_of_mem _ hg)
    simp only [claims, destroying, removing, opening, List.cons_append, List.flatMap_cons,
      hf.1, hf.2, hf.destroying, hf.removing, List.nil_append] at hc hd hr ho ⊢
    exact ⟨hc, hd, hr, ho⟩

theorem mem_claims_of_destroying {l : LeaderRef} {stack : List Call}
    (h : l ∈ destroying stack) : l ∈ claims stack := by
  obtain ⟨f, hf, hl⟩ := List.mem_flatMap.mp h
  refine List.mem_flatMap.mpr ⟨f, hf, ?_⟩
  cases f <;> first | exact hl | cases hl

theorem mem_removing {x : SessionRef} {stack : List Call} :
    x ∈ removing stack ↔ ∃ l caller, .remove_session l x caller ∈ stack := by
  constructor
  · intro h
    obtain ⟨f, hf, hx⟩ := List.mem_flatMap.mp h
    cases f with
    | remove_session l y caller =>
      obtain rfl := List.mem_singleton.mp hx
      exact ⟨l, caller, hf⟩
    | _ => cases hx
  · rintro ⟨l, caller, h⟩
    exact List.mem_flatMap.mpr ⟨_, h, List.mem_singleton.mpr rfl⟩

theorem mem_opening {x : SessionRef} {stack : List Call} :
    x ∈ opening stack ↔ ∃ seat, .ck_seat_add_session seat x ∈ stack := by
  constructor
  · intro h
    obtain ⟨f, hf, hx⟩ := List.mem_flatMap.mp h
    cases f with
    | ck_seat_add_session seat y =>
      obtain rfl := List.mem_singleton.mp hx
      exact ⟨seat, hf⟩
    | _ => cases hx
  · rintro ⟨seat, h⟩
    exact List.mem_flatMap.mpr ⟨_, h, List.mem_singleton.mpr rfl⟩

/-! ## Section 2: Steps of the main loop -/

/-- What a step does, in one place. -/
inductive MainLoopStep (c : MainLoop) : Label → MainLoop → Prop where
  | dispatch : ∀ {event r}, dispatching c.stack = true → c.state.dispatch event = some r →
      MainLoopStep c (.dispatch event) ⟨r.1, r.2 ++ c.stack⟩
  | call : ∀ {f rest r}, c.stack = f :: rest → c.state.call f = some r →
      MainLoopStep c .call ⟨r.1, r.2 ++ rest⟩
  | callout_done : ∀ {action rest}, c.stack = .callout action :: rest →
      MainLoopStep c .callout_done ⟨c.state, rest⟩

theorem main_loop_step {c c' : MainLoop} {label : Label}
    (h : main_loop.next c label = some c') : MainLoopStep c label c' := by
  cases label with
  | dispatch event =>
    simp only [main_loop, main_loop_next] at h
    split at h
    · rename_i hloop
      obtain ⟨r, hr, rfl⟩ := Option.map_eq_some_iff.mp h
      exact .dispatch hloop hr
    · cases h
  | call =>
    simp only [main_loop, main_loop_next] at h
    split at h
    · cases h
    · rename_i f rest hstack
      obtain ⟨r, hr, rfl⟩ := Option.map_eq_some_iff.mp h
      exact .call hstack hr
  | callout_done =>
    simp only [main_loop, main_loop_next] at h
    split at h
    · rename_i action rest hstack
      cases h
      exact .callout_done hstack
    · cases h

namespace State

/-- Events that the manager may not be able to take. -/
theorem dispatch_open_session {m : State} {sender cookie : Libc.CString}
    {caller : Option (Nat × Nat)} {started : Bool} {r : State × List Call}
    (h : m.dispatch (.open_session sender caller cookie started) = some r) :
    (sender ∉ m.gone ∧ cookie ∉ m.leaders) ∧
      ∃ m', m.create_session_for_sender sender caller cookie started = some m' ∧ (m', []) = r := by
  simp only [dispatch] at h
  split at h
  · rename_i hok
    exact ⟨hok, Option.map_eq_some_iff.mp h⟩
  · cases h

theorem dispatch_job_completed {m : State} {l : LeaderRef} {result : Option Opening}
    {r : State × List Call} (h : m.dispatch (.job_completed l result) = some r) :
    (m.leader l).job = true ∧ m.job_completed l result = some r := by
  simp only [dispatch] at h
  split at h
  · rename_i hjob
    exact ⟨hjob, h⟩
  · cases h

theorem dispatch_process_queue {m : State} {num : Nat} {r : State × List Call}
    (h : m.dispatch (.process_queue num) = some r) : m.process_queue num = r := by
  simp only [dispatch] at h
  split at h
  · cases h
  · exact Option.some.inj h

end State

/-! ## Section 3: Calls that leave the tables alone -/

/-- The session with the fields of `s` that change while it is open. -/
def CkSession.sameAs (s₀ s : CkSession) : CkSession :=
  { s₀ with is_local := s.is_local, seat := s.seat, active := s.active, activate := s.activate }

/-- The tables of sessions and leaders, what they refer to and the record of
    removals are the same. -/
structure SameSessions (m m' : State) : Prop where
  identity : ∀ x, m'.session x = (m.session x).sameAs (m'.session x)
  leader : m'.leader = m.leader
  next_session : m'.next_session = m.next_session
  next_leader : m'.next_leader = m.next_leader
  sessions : m'.sessions = m.sessions
  leaders : m'.leaders = m.leaders
  gone : m'.gone = m.gone
  removed : ∀ x, m'.signals.count (.SessionRemoved x) = m.signals.count (.SessionRemoved x)
  unreffed : m'.unreffed = m.unreffed
  key_freed : m'.key_freed = m.key_freed
  succeeded : m'.succeeded = m.succeeded

namespace SameSessions

theorem id {m m' : State} (h : SameSessions m m') (x : SessionRef) :
    (m'.session x).id = (m.session x).id := by
  rw [h.identity x]
  rfl

theorem opener {m m' : State} (h : SameSessions m m') (x : SessionRef) :
    (m'.session x).leader = (m.session x).leader := by
  rw [h.identity x]
  rfl

theorem refl (m : State) : SameSessions m m :=
  ⟨fun _ => rfl, rfl, rfl, rfl, rfl, rfl, rfl, fun _ => rfl, rfl, rfl, rfl⟩

theorem trans {m₁ m₂ m₃ : State} (h : SameSessions m₁ m₂) (h' : SameSessions m₂ m₃) :
    SameSessions m₁ m₃ where
  identity x := by
    rw [h'.identity x, h.identity x]
    rfl
  leader := h'.leader.trans h.leader
  next_session := h'.next_session.trans h.next_session
  next_leader := h'.next_leader.trans h.next_leader
  sessions := h'.sessions.trans h.sessions
  leaders := h'.leaders.trans h.leaders
  gone := h'.gone.trans h.gone
  removed x := (h'.removed x).trans (h.removed x)
  unreffed := h'.unreffed.trans h.unreffed
  key_freed := h'.key_freed.trans h.key_freed
  succeeded := h'.succeeded.trans h.succeeded

theorem setSession (m : State) (x : SessionRef) {s : CkSession}
    (hs : s = (m.session x).sameAs s) : SameSessions m (m.setSession x s) := by
  refine ⟨fun y => ?_, rfl, rfl, rfl, rfl, rfl, rfl, fun _ => rfl, rfl, rfl, rfl⟩
  by_cases h : y = x
  · subst h
    simpa [State.setSession] using hs
  · simp only [State.setSession, Function.update_of_ne h]
    rfl

theorem setSeat (m : State) (d : SeatRef) (s : CkSeat) : SameSessions m (m.setSeat d s) :=
  ⟨fun _ => rfl, rfl, rfl, rfl, rfl, rfl, rfl, fun _ => rfl, rfl, rfl, rfl⟩

theorem signal (m : State) {signal : ManagerSignal} (h : ∀ x, signal ≠ .SessionRemoved x) :
    SameSessions m { m with signals := m.signals ++ [signal] } := by
  refine ⟨fun _ => rfl, rfl, rfl, rfl, rfl, rfl, rfl, fun x => ?_, rfl, rfl, rfl⟩
  rw [List.count_append, List.count_singleton, beq_eq_false_iff_ne.mpr (h x)]
  rfl

end SameSessions

/-- The seats of the manager, the tables of all seats and the seats of all
    sessions are the same. -/
structure SameSeats (m m' : State) : Prop where
  next_seat : m'.next_seat = m.next_seat
  seats : m'.seats = m.seats
  id : ∀ d, (m'.seat d).id = (m.seat d).id
  members : ∀ d, (m'.seat d).sessions = (m.seat d).sessions
  attached : ∀ x, (m'.session x).seat = (m.session x).seat
  activate : ∀ x, (m'.session x).activate = (m.session x).activate

theorem SameSeats.refl (m : State) : SameSeats m m :=
  ⟨rfl, rfl, fun _ => rfl, fun _ => rfl, fun _ => rfl, fun _ => rfl⟩

/-- Only flags of sessions and the active sessions of seats have changed. -/
structure OnlyActive (m m' : State) : Prop where
  session : ∀ x, m'.session x = { m.session x with active := (m'.session x).active }
  seat : ∀ d, m'.seat d = { m.seat d with active_session := (m'.seat d).active_session }
  rest : m' = { m with session := m'.session, seat := m'.seat }

namespace OnlyActive

variable {m m' m₁ m₂ m₃ : State}

theorem refl (m : State) : OnlyActive m m := ⟨fun _ => rfl, fun _ => rfl, rfl⟩

theorem trans (h : OnlyActive m₁ m₂) (h' : OnlyActive m₂ m₃) : OnlyActive m₁ m₃ where
  session x := by rw [h'.session x, h.session x]
  seat d := by rw [h'.seat d, h.seat d]
  rest := by rw [h'.rest, h.rest]

theorem setSession (m : State) (x : SessionRef) (active : Bool) :
    OnlyActive m (m.setSession x { m.session x with active := active }) := by
  refine ⟨fun y => ?_, fun _ => rfl, rfl⟩
  by_cases h : y = x
  · subst h
    simp [State.setSession]
  · simp [State.setSession, h]

theorem setSeat (m : State) (d : SeatRef) (session : Option SessionRef) :
    OnlyActive m (m.setSeat d { m.seat d with active_session := session }) := by
  refine ⟨fun _ => rfl, fun d' => ?_, rfl⟩
  by_cases h : d' = d
  · subst h
    simp [State.setSeat]
  · simp [State.setSeat, h]

theorem sameSessions (h : OnlyActive m m') : SameSessions m m' := by
  have hrest := h.rest
  constructor
  case identity =>
    intro x
    rw [h.session x]
    rfl
  case leader => exact (congrArg State.leader hrest).trans rfl
  case next_session => exact (congrArg State.next_session hrest).trans rfl
  case next_leader => exact (congrArg State.next_leader hrest).trans rfl
  case sessions => exact (congrArg State.sessions hrest).trans rfl
  case leaders => exact (congrArg State.leaders hrest).trans rfl
  case gone => exact (congrArg State.gone hrest).trans rfl
  case removed =>
    exact fun x => (congrArg (fun m => m.signals.count (.SessionRemoved x)) hrest).trans rfl
  case unreffed => exact (congrArg State.unreffed hrest).trans rfl
  case key_freed => exact (congrArg State.key_freed hrest).trans rfl
  case succeeded => exact (congrArg State.succeeded hrest).trans rfl

theorem sameSeats (h : OnlyActive m m') : SameSeats m m' := by
  have hrest := h.rest
  constructor
  case next_seat => exact (congrArg State.next_seat hrest).trans rfl
  case seats => exact (congrArg State.seats hrest).trans rfl
  case id => exact fun d => (congrArg CkSeat.id (h.seat d)).trans rfl
  case members => exact fun d => (congrArg CkSeat.sessions (h.seat d)).trans rfl
  case attached => exact fun x => (congrArg CkSession.seat (h.session x)).trans rfl
  case activate => exact fun x => (congrArg CkSession.activate (h.session x)).trans rfl

end OnlyActive

namespace State

/-! ### The session and its seat -/

theorem set_active_only (m : State) (x : SessionRef) (active : Bool) :
    OnlyActive m (m.ck_session_set_active x active) := by
  unfold ck_session_set_active
  split
  · exact .refl m
  · exact .setSession m x active

theorem emit_quiet (m : State) (d : SeatRef) (action : Callout) :
    ∀ f ∈ m.emit d action, f.Quiet := by
  unfold emit
  split <;> simp [Call.Quiet, Call.claims, Call.opening]

theorem elim_set_active_only (m : State) (x : Option SessionRef) (active : Bool) :
    OnlyActive m (x.elim m fun x => m.ck_session_set_active x active) := by
  cases x with
  | none => exact .refl m
  | some x => exact m.set_active_only x active

theorem change_active_session_only (m : State) (d : SeatRef) (session : Option SessionRef) :
    OnlyActive m (m.change_active_session d session).1 ∧
    ∀ f ∈ (m.change_active_session d session).2, f.Quiet := by
  unfold change_active_session
  split
  · exact ⟨m.elim_set_active_only session true, by simp⟩
  · exact ⟨(m.elim_set_active_only _ false).trans ((OnlyActive.setSeat _ d _).trans
      (elim_set_active_only _ session true)), emit_quiet _ d _⟩

theorem maybe_update_active_session_only (m : State) (d : SeatRef) :
    OnlyActive m (m.maybe_update_active_session d).1 ∧
    ∀ f ∈ (m.maybe_update_active_session d).2, f.Quiet := by
  unfold maybe_update_active_session
  split
  · exact ⟨.refl m, by simp⟩
  · split
    · exact m.change_active_session_only d _
    · exact ⟨.refl m, by simp⟩

theorem deactivate_other_only (m : State) (d : SeatRef) (x : SessionRef) :
    OnlyActive m (m.deactivate_other d x) := by
  unfold deactivate_other
  split
  · exact .refl m
  · exact m.elim_set_active_only _ false

theorem ck_seat_activate_session_only (m : State) (d : SeatRef) (session : Option SessionRef)
    (switches : Bool) : OnlyActive m (m.ck_seat_activate_session d session switches).1 := by
  have hother := fun x => m.deactivate_other_only d x
  rcases m.ck_seat_activate_session_cases d session switches with
    h | ⟨x, _, _, _, _, h | ⟨_, h⟩⟩
  · rw [h]
    exact .refl m
  · rw [h]
    exact hother x
  · rw [h]
    exact (hother x).trans (set_active_only _ x true)

theorem dbus_switch_to_only (m : State) (d : SeatRef) (vtnr : Nat) (switches : Bool) :
    OnlyActive m (m.dbus_switch_to d vtnr switches) := by
  unfold dbus_switch_to
  split
  · exact m.ck_seat_activate_session_only d _ switches
  · exact .refl m

theorem dbus_activate_only (m : State) (x : SessionRef) (switches : Bool) :
    OnlyActive m (m.dbus_activate x switches) := by
  unfold dbus_activate
  generalize (m.session x).activate = seats
  induction seats generalizing m with
  | nil => exact .refl m
  | cons d seats ih => exact (m.ck_seat_activate_session_only d (some x) switches).trans (ih _)

theorem dbus_activate_session_on_seat_only (m : State) (session_id seat_id : Libc.CString)
    (switches : Bool) :
    OnlyActive m (m.dbus_activate_session_on_seat session_id seat_id switches) := by
  unfold dbus_activate_session_on_seat
  split
  · exact m.ck_seat_activate_session_only _ _ switches
  · exact .refl m

theorem dbus_activate_session_only (m : State) (session_id : Libc.CString) (switches : Bool) :
    OnlyActive m (m.dbus_activate_session session_id switches) := by
  unfold dbus_activate_session
  split
  · split
    · exact m.dbus_activate_session_on_seat_only session_id _ switches
    · exact .refl m
  · exact .refl m

theorem ck_seat_add_session_same (m : State) (seat : Option SeatRef) (x : SessionRef) :
    SameSessions m (m.ck_seat_add_session seat x).1 ∧
    ∀ f ∈ (m.ck_seat_add_session seat x).2, f.Quiet := by
  cases seat with
  | none => exact ⟨.refl m, by simp [ck_seat_add_session]⟩
  | some d =>
    refine ⟨(SameSessions.setSeat m d _).trans (.setSession _ x rfl), fun f hf => ?_⟩
    rcases List.mem_append.mp hf with hf | hf
    · exact emit_quiet _ d _ f hf
    · obtain rfl := List.mem_singleton.mp hf
      exact ⟨rfl, rfl⟩

theorem ck_seat_remove_session_same (m : State) (d : SeatRef) (x : SessionRef) :
    SameSessions m (m.ck_seat_remove_session d x).1 ∧
    ∀ f ∈ (m.ck_seat_remove_session d x).2, f.Quiet := by
  unfold ck_seat_remove_session
  split
  · have hsession : SameSessions m (m.setSession x
        { m.session x with activate := (m.session x).activate.filter fun d' => d' ≠ d }) :=
      .setSession m x rfl
    refine ⟨hsession.trans (.setSeat _ d _), fun f hf => ?_⟩
    rcases List.mem_append.mp hf with hf | hf
    · exact emit_quiet _ d _ f hf
    · obtain rfl := List.mem_singleton.mp hf
      exact ⟨rfl, rfl⟩
  · exact ⟨.refl m, by simp⟩

/-! ### Seats of the manager -/

theorem ck_seat_new_same (m : State) (sid : Libc.CString) (kind : CkSeatKind) :
    SameSessions m (m.ck_seat_new sid kind).2 := by
  cases kind <;>
    exact ⟨fun _ => rfl, rfl, rfl, rfl, rfl, rfl, rfl, fun _ => rfl, rfl, rfl, rfl⟩

theorem registerSeat_same (m : State) (d : SeatRef) (registers : Bool) :
    SameSessions m (m.registerSeat d registers).2.1 ∧
    ∀ f ∈ (m.registerSeat d registers).2.2, f.Quiet := by
  unfold registerSeat
  split
  · refine ⟨⟨fun _ => rfl, rfl, rfl, rfl, rfl, rfl, rfl, fun _ => rfl, rfl, rfl,
      rfl⟩, by simp [Call.Quiet, Call.claims, Call.opening]⟩
  · exact ⟨.refl m, by simp⟩

theorem serial_same (m : State) (serial : Nat) :
    SameSessions m { m with seat_serial := serial } :=
  ⟨fun _ => rfl, rfl, rfl, rfl, rfl, rfl, rfl, fun _ => rfl, rfl, rfl, rfl⟩

theorem add_new_seat_same {m : State} {kind : CkSeatKind} {registers : Bool}
    {r : Option SeatRef × State × List Call} (h : m.add_new_seat kind registers = some r) :
    SameSessions m r.2.1 ∧ ∀ f ∈ r.2.2, f.Quiet := by
  obtain ⟨⟨sid, m₁⟩, hid, rfl⟩ := Option.map_eq_some_iff.mp h
  obtain ⟨-, serial, rfl⟩ := generate_seat_id_free hid
  obtain ⟨hsame, hquiet⟩ := registerSeat_same (ck_seat_new { m with seat_serial := serial }
    sid kind).2 (ck_seat_new { m with seat_serial := serial } sid kind).1 registers
  exact ⟨(m.serial_same serial).trans ((ck_seat_new_same _ sid kind).trans hsame), hquiet⟩

theorem add_seat_for_file_same {m : State} {file : SeatFile} {r : State × List Call}
    (h : m.add_seat_for_file file = some r) :
    SameSessions m r.1 ∧ ∀ f ∈ r.2, f.Quiet := by
  obtain ⟨⟨sid, m₁⟩, hid, rfl⟩ := Option.map_eq_some_iff.mp h
  obtain ⟨-, serial, rfl⟩ := generate_seat_id_free hid
  dsimp only
  split
  · obtain ⟨hsame, hquiet⟩ := registerSeat_same (ck_seat_new { m with seat_serial := serial }
      sid .STATIC).2 (ck_seat_new { m with seat_serial := serial } sid .STATIC).1 file.registers
    exact ⟨(m.serial_same serial).trans ((ck_seat_new_same _ sid _).trans hsame), hquiet⟩
  · exact ⟨m.serial_same serial, by simp⟩

theorem remove_seat_same (m : State) (d : SeatRef) :
    SameSessions m (m.remove_seat d).1 ∧ ∀ f ∈ (m.remove_seat d).2, f.Quiet := by
  unfold remove_seat
  split
  · exact ⟨.refl m, by simp⟩
  · exact ⟨⟨fun _ => rfl, rfl, rfl, rfl, rfl, rfl, rfl, fun _ => rfl, rfl, rfl,
      rfl⟩, by simp [Call.Quiet, Call.claims, Call.opening]⟩

/-! ### All calls that remove no session -/

theorem call_same {m : State} {f : Call} {r : State × List Call} (hf : f.claims = [])
    (h : m.call f = some r) : SameSessions m r.1 ∧ ∀ g ∈ r.2, g.Quiet := by
  cases f with
  | callout action => cases h
  | load_seats_from_dir files =>
    cases files with
    | nil =>
      cases h
      exact ⟨.refl m, by simp⟩
    | cons file files =>
      obtain ⟨r, hr, rfl⟩ := Option.map_eq_some_iff.mp h
      obtain ⟨hsame, hquiet⟩ := add_seat_for_file_same hr
      refine ⟨hsame, fun g hg => ?_⟩
      rcases List.mem_append.mp hg with hg | hg
      · exact hquiet g hg
      · obtain rfl := List.mem_singleton.mp hg
        exact ⟨rfl, rfl⟩
  | seat_added d =>
    cases h
    exact ⟨.signal m (by simp), by simp⟩
  | ck_seat_add_session seat x =>
    cases h
    exact m.ck_seat_add_session_same seat x
  | session_opened x is_local =>
    cases h
    refine ⟨?_, by simp⟩
    have hsession : SameSessions m
        (m.setSession x { m.session x with is_local := is_local }) := .setSession m x rfl
    exact hsession.trans (.signal _ (by simp))
  | maybe_update_active_session d =>
    cases h
    exact (m.maybe_update_active_session_only d).imp_left OnlyActive.sameSessions
  | update_active_vt d num =>
    cases h
    exact (m.change_active_session_only d _).imp_left OnlyActive.sameSessions
  | queue_processed =>
    cases h
    exact ⟨⟨fun _ => rfl, rfl, rfl, rfl, rfl, rfl, rfl, fun _ => rfl, rfl, rfl,
      rfl⟩, by simp⟩
  | remove_dynamic_seat d =>
    cases h
    split
    · exact m.remove_seat_same d
    · exact ⟨.refl m, by simp⟩
  | seat_removed d =>
    cases h
    exact ⟨.signal m (by simp), by simp⟩
  | remove_session l x caller => cases hf
  | destroy_entity l => cases hf

/-! ## Section 4: Events that leave the tables alone -/

end State

/-- The events of the VTs and the requests to activate a session. -/
def Event.Quiet : Event → Prop
  | .open_session .. | .job_completed .. | .close_session .. | .name_owner_notify .. => False
  | _ => True

namespace State

theorem dispatch_same {m : State} {event : Event} {r : State × List Call}
    (hevent : event.Quiet) (h : m.dispatch event = some r) :
    SameSessions m r.1 ∧ ∀ f ∈ r.2, f.Quiet := by
  cases event with
  | open_session | job_completed | close_session | name_owner_notify => cases hevent
  | process_queue num =>
    obtain rfl := dispatch_process_queue h
    unfold process_queue
    split
    · refine ⟨⟨fun _ => rfl, rfl, rfl, rfl, rfl, rfl, rfl, fun _ => rfl, rfl,
        rfl, rfl⟩, fun f hf => ?_⟩
      rcases List.mem_append.mp hf with hf | hf
      · obtain ⟨d, -, rfl⟩ := List.mem_map.mp hf
        exact ⟨rfl, rfl⟩
      · obtain rfl := List.mem_singleton.mp hf
        exact ⟨rfl, rfl⟩
    · exact ⟨.refl m, by simp⟩
  | seat_activate_session d ssid switches =>
    cases h
    exact ⟨(m.ck_seat_activate_session_only d _ switches).sameSessions, by simp⟩
  | seat_switch_to d vtnr switches =>
    cases h
    exact ⟨(m.dbus_switch_to_only d vtnr switches).sameSessions, by simp⟩
  | session_activate x switches =>
    cases h
    exact ⟨(m.dbus_activate_only x switches).sameSessions, by simp⟩
  | activate_session session_id switches =>
    cases h
    exact ⟨(m.dbus_activate_session_only session_id switches).sameSessions, by simp⟩
  | activate_session_on_seat session_id seat_id switches =>
    cases h
    exact ⟨(m.dbus_activate_session_on_seat_only session_id seat_id switches).sameSessions,
      by simp⟩
  | vt_leave x =>
    cases h
    exact ⟨.setSession m x rfl, by simp⟩

/-! ## Section 5: Opening and removing -/

/-- Cancelling a collector changes nothing else of a leader. -/
theorem cancel_leader (m : State) (l l' : LeaderRef) :
    (m.ck_session_leader_cancel l).leader l' =
      { m.leader l' with job := decide (l' ≠ l) && (m.leader l').job } := by
  by_cases h : l' = l
  · subst h
    simp [ck_session_leader_cancel, setLeader]
  · simp [ck_session_leader_cancel, setLeader, h]

/-- The removal of a session starts with its seat, and goes on with `calls`. -/
theorem remove_session_for_cookie_spec {m : State} {l : LeaderRef} {caller : RemovalCaller}
    {r : State × List Call} (h : m.remove_session_for_cookie l caller = some r) :
    ∃ x calls, m.sessions.lookup (m.leader l).session_id = some x ∧ SameSessions m r.1 ∧
      (∀ f ∈ calls, f.Quiet) ∧ r.2 = calls ++ [.remove_session l x caller] := by
  obtain ⟨x, hx, rfl⟩ := Option.map_eq_some_iff.mp h
  refine ⟨x, ?_⟩
  split
  · rename_i d _
    obtain ⟨hsame, hquiet⟩ := m.ck_seat_remove_session_same d x
    refine ⟨(m.ck_seat_remove_session d x).2 ++ [.remove_dynamic_seat d], hx, hsame,
      fun f hf => ?_, by simp⟩
    rcases List.mem_append.mp hf with hf | hf
    · exact hquiet f hf
    · obtain rfl := List.mem_singleton.mp hf
      exact ⟨rfl, rfl⟩
  · exact ⟨[], hx, .refl m, by simp, rfl⟩

theorem remove_session_for_cookie_none {m : State} {l : LeaderRef} {caller : RemovalCaller}
    (h : m.remove_session_for_cookie l caller = none) :
    m.sessions.lookup (m.leader l).session_id = none :=
  Option.map_eq_none_iff.mp h

/-- A call of `CloseSession` is refused, or starts the removal of the session
    of a leader that is registered under the cookie. -/
theorem dbus_close_session_cases (m : State) (caller : Option (Nat × Nat))
    (cookie : Libc.CString) :
    m.dbus_close_session caller cookie = (m, []) ∨
    ∃ uid pid l r, caller = some (uid, pid) ∧
      m.paranoia_check_is_cookie_owner cookie uid pid = some l ∧
      m.remove_session_for_cookie l .dbus_close_session = some r ∧
      m.dbus_close_session caller cookie = r := by
  unfold dbus_close_session
  cases caller with
  | none => exact .inl rfl
  | some c =>
    obtain ⟨uid, pid⟩ := c
    cases hl : m.paranoia_check_is_cookie_owner cookie uid pid with
    | none => exact .inl (by simp [hl])
    | some l =>
      cases hr : m.remove_session_for_cookie l .dbus_close_session with
      | none => exact .inl (by simp [hl, hr])
      | some r => exact .inr ⟨uid, pid, l, r, rfl, hl, hr, by simp [hl, hr]⟩

theorem paranoia_check_registered {m : State} {cookie : Libc.CString} {uid pid : Nat}
    {l : LeaderRef} (h : m.paranoia_check_is_cookie_owner cookie uid pid = some l) :
    m.leaders.lookup cookie = some l := by
  obtain ⟨l', hl', h⟩ := Option.bind_eq_some_iff.mp h
  split at h
  · cases h
    exact hl'
  · cases h

theorem destroy_entity_cases (m : State) (l : LeaderRef) :
    (m.sessions.lookup (m.leader l).session_id = none ∧
      m.destroy_entity l = (m.ck_session_leader_cancel l, [])) ∨
    ∃ r, m.remove_session_for_cookie l .destroy_entity = some r ∧ m.destroy_entity l = r := by
  unfold destroy_entity
  cases h : m.remove_session_for_cookie l .destroy_entity with
  | none => exact .inl ⟨remove_session_for_cookie_none h, rfl⟩
  | some r => exact .inr ⟨r, rfl, rfl⟩

theorem removalOrder_perm {α : Type} (as : List α) : (removalOrder as).Perm as := by
  cases as with
  | nil => exact .nil
  | cons a as => exact (List.reverse_perm as).cons a

/-- When a name has lost its owner, the leaders that have the name of the old
    owner leave the table, and one call for each of them is left to make. -/
theorem name_owner_lost (m : State)
    (hkey : ∀ {k k' l}, m.leaders.lookup k = some l → m.leaders.lookup k' = some l → k = k')
    (service_name old_service_name : Libc.CString) {new_service_name : Libc.CString}
    (hnew : new_service_name = []) :
    ∃ (gone : List Libc.CString) (ls : List LeaderRef), ls.Nodup ∧
      (∀ l, l ∈ ls ↔ Registered m l ∧ (m.leader l).service_name = old_service_name) ∧
      m.on_name_owner_notify service_name old_service_name new_service_name =
        ({ m with
          leaders := m.leaders.keep fun _ l =>
            decide ((m.leader l).service_name = old_service_name)
          gone := gone }, ls.map .destroy_entity) := by
  let matches_name : Libc.CString → LeaderRef → Bool := fun _ l =>
    decide ((m.leader l).service_name = old_service_name)
  have hmem : ∀ {e}, e ∈ removalOrder (m.leaders.stolen matches_name) ↔
      m.leaders.lookup e.1 = some e.2 ∧ matches_name e.1 e.2 = true :=
    (removalOrder_perm _).mem_iff.trans HashTable.mem_stolen
  refine ⟨if service_name = old_service_name then m.gone ++ [service_name] else m.gone,
    (removalOrder (m.leaders.stolen matches_name)).map Prod.snd, ?_, fun l => ?_, ?_⟩
  · have hnodup : (removalOrder (m.leaders.stolen matches_name)).Nodup :=
      (removalOrder_perm _).nodup_iff.mpr (HashTable.nodup_stolen _ _).of_map
    refine hnodup.map_on fun e he e' he' heq => ?_
    have hl := (hmem.mp he).1
    rw [heq] at hl
    exact Prod.ext (hkey hl (hmem.mp he').1) heq
  · constructor
    · intro hl
      obtain ⟨e, he, rfl⟩ := List.mem_map.mp hl
      exact ⟨⟨e.1, (hmem.mp he).1⟩, of_decide_eq_true (hmem.mp he).2⟩
    · rintro ⟨⟨k, hk⟩, hname⟩
      exact List.mem_map.mpr ⟨(k, l), hmem.mpr ⟨hk, decide_eq_true hname⟩, rfl⟩
  · unfold on_name_owner_notify
    rw [if_pos hnew, List.map_map]
    rfl

/-- The state with the new session, before it has a seat. -/
def insertOpened (m : State) (l : LeaderRef) (o : Opening) : State :=
  (m.setLeader l { m.leader l with job := false }).insertSession m.next_session
    ((m.setLeader l { m.leader l with job := false }).ck_session_new_with_parameters l o)

/-- A collector that exits opens no session, or a new one that the remaining
    calls attach to a seat. -/
theorem job_completed_cases {m : State} {l : LeaderRef} {result : Option Opening}
    {r : State × List Call} (h : m.job_completed l result = some r) :
    r = (m.setLeader l { m.leader l with job := false }, []) ∨
    ∃ o is_local seat calls, result = some o ∧ o.created = true ∧
      SameSessions (m.insertOpened l o) r.1 ∧
      (∀ f ∈ calls, f.Quiet) ∧
      r.2 = calls ++ [.ck_seat_add_session seat m.next_session,
        .session_opened m.next_session is_local] ∧
      ((∃ d, seat = some d ∧ (m.insertOpened l o).find_seat_for_session m.next_session = some d ∧
          r.1 = m.insertOpened l o ∧ calls = []) ∨
        ((m.insertOpened l o).find_seat_for_session m.next_session = none ∧
          (m.insertOpened l o).add_new_seat .DYNAMIC o.registers =
            some (seat, r.1, calls))) := by
  unfold job_completed at h
  cases result with
  | none => exact .inl (Option.some.inj h).symm
  | some o =>
    simp only [verify_and_open_session_for_leader] at h
    unfold open_session_for_leader at h
    split at h
    · rename_i hcreated
      dsimp only at h
      split at h
      · rename_i d hd
        exact .inr ⟨o, _, some d, [], rfl, hcreated, by cases h; exact .refl _, by simp,
          by cases h; rfl, .inl ⟨d, rfl, hd, by cases h; rfl, rfl⟩⟩
      · rename_i hnone
        obtain ⟨⟨seat, m', calls⟩, hadd, rfl⟩ := Option.map_eq_some_iff.mp h
        obtain ⟨hsame, hquiet⟩ := add_new_seat_same hadd
        exact .inr ⟨o, _, seat, calls, rfl, hcreated, hsame, hquiet, rfl, .inr ⟨hnone, hadd⟩⟩
    · exact .inl (Option.some.inj h).symm

end State

end CkManager
