import ConsoleKit.Manager.Attached

/-! # The active session of a seat

    A session in the table of a seat is active only if it is the active
    session of that seat.  This fails for one request only, which marks a
    session active whose VT is the current one without making it the active
    session of its seat.

    This module provides:
    - what the functions of the seat do to the flags of the sessions,
    - `NoShortcut`: the condition on activation requests,
    - `single_active_session`.
-/

namespace CkManager

open Libc

/-! ## Section 1: Flags of the sessions -/

namespace State

theorem set_active_active (m : State) (x y : SessionRef) (active : Bool) :
    ((m.ck_session_set_active x active).session y).active =
      if y = x then active else (m.session y).active := by
  unfold ck_session_set_active
  split
  · rename_i h
    split
    · rename_i heq
      rw [heq, h]
    · rfl
  · split
    · rename_i heq
      simp [setSession, heq]
    · rename_i hne
      simp [setSession, hne]

theorem set_active_seat (m : State) (x : SessionRef) (active : Bool) :
    (m.ck_session_set_active x active).seat = m.seat := by
  unfold ck_session_set_active
  split <;> rfl

theorem elim_set_active_active (m : State) (x : Option SessionRef) (y : SessionRef)
    (active : Bool) :
    ((x.elim m fun x => m.ck_session_set_active x active).session y).active =
      if x = some y then active else (m.session y).active := by
  cases x with
  | none => rfl
  | some x =>
    refine (m.set_active_active x y active).trans (if_congr ?_ rfl rfl)
    rw [Option.some.injEq, eq_comm]

theorem elim_set_active_seat (m : State) (x : Option SessionRef) (active : Bool) :
    (x.elim m fun x => m.ck_session_set_active x active).seat = m.seat := by
  cases x with
  | none => rfl
  | some x => exact m.set_active_seat x active

theorem deactivate_other_seat (m : State) (d : SeatRef) (x : SessionRef) :
    (m.deactivate_other d x).seat = m.seat := by
  unfold deactivate_other
  split
  · rfl
  · exact m.elim_set_active_seat _ false

theorem deactivate_other_active (m : State) (d : SeatRef) (x y : SessionRef)
    (h : ((m.deactivate_other d x).session y).active = true) : (m.session y).active = true := by
  unfold deactivate_other at h
  split at h
  · exact h
  · rw [elim_set_active_active] at h
    split at h
    · cases h
    · exact h

/-- The flags after a change of the active session: the new one is active,
    and the old one is not any more. -/
theorem change_active_session_active {m : State} {d : SeatRef} {session : Option SessionRef}
    (h : (m.seat d).active_session ≠ session) (y : SessionRef) :
    ((m.change_active_session d session).1.session y).active =
      if session = some y then true
      else if (m.seat d).active_session = some y then false else (m.session y).active := by
  unfold change_active_session
  rw [if_neg h]
  refine (elim_set_active_active _ session y true).trans ?_
  refine if_congr Iff.rfl rfl ?_
  exact elim_set_active_active m _ y false

theorem change_active_session_pointer {m : State} {d : SeatRef} {session : Option SessionRef}
    (h : (m.seat d).active_session ≠ session) (d' : SeatRef) :
    ((m.change_active_session d session).1.seat d').active_session =
      if d' = d then session else (m.seat d').active_session := by
  unfold change_active_session
  rw [if_neg h]
  dsimp only
  rw [elim_set_active_seat]
  by_cases hd : d' = d
  · simp [setSeat, hd]
  · simp [setSeat, hd, elim_set_active_seat]

/-- An activation request leaves the seats alone. -/
theorem ck_seat_activate_session_seat (m : State) (d : SeatRef) (session : Option SessionRef)
    (switches : Bool) : (m.ck_seat_activate_session d session switches).1.seat = m.seat := by
  rcases m.ck_seat_activate_session_cases d session switches with
    h | ⟨x, _, _, _, _, h | ⟨_, h⟩⟩
  · rw [h]
  · rw [h, deactivate_other_seat]
  · rw [h, set_active_seat, deactivate_other_seat]

/-! ### The session that a device has -/

theorem mem_find_all {m : State} {d : SeatRef} {predicate : CkSession → Bool} {x : SessionRef}
    (h : x ∈ m.find_all d predicate) : x ∈ (m.seat d).sessions.values :=
  (List.mem_filter.mp (List.mem_reverse.mp h)).1

theorem find_oldest_session_mem {m : State} {xs : List SessionRef} {x : SessionRef}
    (h : m.find_oldest_session xs = some x) : x ∈ xs := by
  cases xs with
  | nil => cases h
  | cons y ys =>
    obtain rfl := Option.some.inj h
    have hfold : ∀ (zs : List SessionRef) (z : SessionRef), zs.foldl (fun oldest y =>
        if (m.session y).creation_time < (m.session oldest).creation_time then y
        else oldest) z ∈ z :: zs := by
      intro zs
      induction zs with
      | nil => exact fun z => List.mem_cons_self
      | cons w zs ih =>
        intro z
        rw [List.foldl_cons]
        rcases List.mem_cons.mp (ih (if (m.session w).creation_time <
          (m.session z).creation_time then w else z)) with h | h
        · rw [h]
          split <;> simp
        · exact List.mem_cons_of_mem _ (List.mem_cons_of_mem _ h)
    exact hfold ys y

theorem find_session_for_display_device_mem {m : State} {d : SeatRef} {device : CString}
    {x : SessionRef} (h : m.find_session_for_display_device d device = some x) :
    x ∈ (m.seat d).sessions.values := by
  unfold find_session_for_display_device at h
  split at h
  · exact mem_find_all (find_oldest_session_mem h)
  · rename_i heq
    exact mem_find_all (find_oldest_session_mem h)

end State

/-! ## Section 2: The condition and the invariant -/

/-- The event makes the seat activate the session. -/
def Event.Activates (m : State) (d : SeatRef) (x : SessionRef) : Event → Prop
  | .seat_activate_session d' ssid _ => d' = d ∧ (m.seat d).sessions.lookup ssid = some x
  | .seat_switch_to d' vtnr _ => d' = d ∧
      ∃ y, (m.seat d).sessions.values.find? (fun y => (m.session y).vtnr = vtnr) = some y ∧
        (m.seat d).sessions.lookup (m.session y).id = some x
  | .session_activate y _ => y = x ∧ d ∈ (m.session x).activate
  | .activate_session session_id _ => m.sessions.lookup session_id = some x ∧
      ∃ d', (m.session x).seat = some d' ∧ m.seats.lookup (m.seat d').id = some d
  | .activate_session_on_seat session_id seat_id _ =>
      m.sessions.lookup session_id = some x ∧ m.seats.lookup seat_id = some d
  | _ => False

/-- The session has a seat, and if it is in the table of the seat, it is the
    active session there. -/
def IsCurrent (m : State) (x : SessionRef) : Prop :=
  ∃ d, (m.session x).seat = some d ∧
    ∀ k, (m.seat d).sessions.lookup k = some x → (m.seat d).active_session = some x

/-- A session that a seat is asked to activate while its VT is the active one
    is the active session of its seat already. -/
def NoShortcut (c : MainLoop) (label : Label) : Prop :=
  ∀ event d x, label = .dispatch event → event.Activates c.state d x →
    (c.state.seat d).kind = .STATIC →
    c.state.console_num x = some c.state.vt_monitor.active_num → IsCurrent c.state x

/-- What holds of the active sessions between two steps. -/
structure ActiveValid (m : State) : Prop where
  current : ∀ {d k x}, (m.seat d).sessions.lookup k = some x → (m.session x).active = true →
    (m.seat d).active_session = some x
  attached : ∀ {x}, (m.session x).active = true → (m.session x).seat ≠ none

namespace ActiveValid

variable {m m' : State} {stack : List Call}

/-- Steps that activate nothing and change no active session. -/
theorem mono (h : ActiveValid m)
    (hmember : ∀ {d k x}, (m'.seat d).sessions.lookup k = some x →
      (m.seat d).sessions.lookup k = some x)
    (hcurrent : ∀ d, (m'.seat d).active_session = (m.seat d).active_session)
    (hactive : ∀ {x}, (m'.session x).active = true → (m.session x).active = true)
    (hattached : ∀ x, (m'.session x).seat = (m.session x).seat) : ActiveValid m' where
  current {d _ _} hx hactive' := (hcurrent d).trans (h.current (hmember hx) (hactive hactive'))
  attached {x} hx := hattached x ▸ h.attached (hactive hx)

theorem of_heaps (h : ActiveValid m) (hsession : m'.session = m.session)
    (hseat : m'.seat = m.seat) : ActiveValid m' :=
  h.mono (fun hx => hseat ▸ hx) (fun _ => by rw [hseat]) (fun hx => hsession ▸ hx)
    fun _ => by rw [hsession]

/-- A session that is current where it is may be marked active. -/
theorem set_active (h : ActiveValid m) (hseats : SeatsValid m stack) {x : SessionRef}
    (hx : IsCurrent m x) : ActiveValid (m.ck_session_set_active x true) := by
  have honly := m.set_active_only x true
  obtain ⟨d₀, hd₀, hcurrent⟩ := hx
  constructor
  · intro d k y hy hactive
    rw [State.set_active_seat] at hy ⊢
    rw [State.set_active_active] at hactive
    split at hactive
    · rename_i heq
      rw [heq] at hy ⊢
      have hd := (hseats.member hy).2.2
      rw [hd₀] at hd
      obtain rfl := Option.some.inj hd
      exact hcurrent k hy
    · exact h.current hy hactive
  · intro y hactive
    rw [honly.sameSeats.attached]
    rw [State.set_active_active] at hactive
    split at hactive
    · rename_i heq
      rw [heq, hd₀]
      exact Option.some_ne_none _
    · exact h.attached hactive

theorem deactivate_other (h : ActiveValid m) (d : SeatRef) (x : SessionRef) :
    ActiveValid (m.deactivate_other d x) :=
  h.mono (fun hy => m.deactivate_other_seat d x ▸ hy)
    (fun _ => by rw [State.deactivate_other_seat]) (m.deactivate_other_active d x _)
    (m.deactivate_other_only d x).sameSeats.attached

theorem ck_seat_activate_session (h : ActiveValid m) (hseats : SeatsValid m stack) {d : SeatRef}
    {session : Option SessionRef} (switches : Bool)
    (hcurrent : ∀ x, session = some x → (m.seat d).kind = .STATIC →
      m.console_num x = some m.vt_monitor.active_num → IsCurrent m x) :
    ActiveValid (m.ck_seat_activate_session d session switches).1 := by
  rcases m.ck_seat_activate_session_cases d session switches with
    heq | ⟨x, num, hx, hkind, hnum, heq | ⟨hactive, heq⟩⟩
  · rw [heq]
    exact h
  · rw [heq]
    exact h.deactivate_other d x
  · rw [heq]
    have honly := m.deactivate_other_only d x
    have hvt : (m.deactivate_other d x).vt_monitor = m.vt_monitor := by rw [honly.rest]
    rw [hvt] at hactive
    obtain ⟨d', hd', hmember⟩ := hcurrent x hx hkind (hactive ▸ hnum)
    have hseats' : SeatsValid (m.deactivate_other d x) stack :=
      hseats.mono (honly.sameSeats.fewerMembers honly.sameSessions.next_session
        honly.sameSessions.id) (.refl _) id
    refine (h.deactivate_other d x).set_active hseats' ⟨d', ?_, ?_⟩
    · rw [honly.sameSeats.attached]
      exact hd'
    · rw [State.deactivate_other_seat]
      exact hmember

theorem change_active_session (h : ActiveValid m) (hseats : SeatsValid m stack) {d : SeatRef}
    {session : Option SessionRef}
    (hmember : ∀ x, session = some x → ∃ k, (m.seat d).sessions.lookup k = some x) :
    ActiveValid (m.change_active_session d session).1 := by
  unfold State.change_active_session
  split
  · rename_i hsame
    cases session with
    | none => exact h
    | some x =>
      obtain ⟨k, hk⟩ := hmember x rfl
      exact h.set_active hseats ⟨d, (hseats.member hk).2.2, fun _ _ => hsame⟩
  · rename_i hchange
    have honly := (m.change_active_session_only d session).1.sameSeats
    have hflags := State.change_active_session_active hchange
    have hpointer := State.change_active_session_pointer hchange
    have hunfold : m.change_active_session d session = _ := if_neg hchange
    rw [← hunfold]
    constructor
    · intro d' k y hy hactive
      rw [honly.members] at hy
      rw [hpointer]
      rw [hflags] at hactive
      split at hactive
      · -- The session that becomes active is a member of this seat only.
        rename_i hnew
        obtain ⟨k', hk'⟩ := hmember y hnew
        have hd := (hseats.member hk').2.2
        rw [(hseats.member hy).2.2] at hd
        rw [if_pos (Option.some.inj hd), hnew]
      · -- Any other active session is that of another seat.
        split at hactive
        · cases hactive
        · rename_i hother
          have hcurrent := h.current hy hactive
          rw [if_neg, hcurrent]
          rintro rfl
          exact hother hcurrent
    · intro y hactive
      rw [honly.attached]
      rw [hflags] at hactive
      split at hactive
      · rename_i hnew
        obtain ⟨k', hk'⟩ := hmember y hnew
        rw [(hseats.member hk').2.2]
        exact Option.some_ne_none _
      · split at hactive
        · cases hactive
        · exact h.attached hactive

/-! ### Seats and sessions that come and go -/

theorem attach {d : SeatRef} {x : SessionRef} (h : ActiveValid m)
    (hnone : (m.session x).seat = none) : ActiveValid (m.ck_seat_add_session (some d) x).1 := by
  have hinactive : ¬ (m.session x).active = true := fun hactive => h.attached hactive hnone
  have hpointer : ∀ d', ((m.ck_seat_add_session (some d) x).1.seat d').active_session =
      (m.seat d').active_session := by
    intro d'
    by_cases hd : d' = d
    · simp [State.ck_seat_add_session, State.setSeat, State.setSession, hd]
    · simp [State.ck_seat_add_session, State.setSeat, State.setSession, hd]
  constructor
  · intro d' k y hy hactive
    rw [State.attach_session] at hactive
    split at hactive
    · exact absurd hactive hinactive
    · rename_i hne
      rw [hpointer]
      rw [State.attach_members] at hy
      split at hy
      · rename_i hd
        rw [hd]
        rcases HashTable.lookup_insert_iff.mp hy with ⟨-, rfl⟩ | ⟨-, hy⟩
        · exact absurd rfl hne
        · exact h.current hy hactive
      · exact h.current hy hactive
  · intro y hactive
    rw [State.attach_session] at hactive ⊢
    split at hactive
    · exact absurd hactive hinactive
    · rw [if_neg ‹_›]
      exact h.attached hactive

theorem newSeat (h : ActiveValid m) {seat : Option SeatRef} (hnew : NewSeat m m' seat) :
    ActiveValid m' := by
  constructor
  · intro d k x hx hactive
    rw [hnew.session] at hactive
    by_cases hd : d = m.next_seat
    · rw [hd, hnew.empty, AList.lookup_empty] at hx
      cases hx
    · rw [hnew.others hd] at hx ⊢
      exact h.current hx hactive
  · intro x hactive
    rw [hnew.session] at hactive ⊢
    exact h.attached hactive

theorem insertSession (h : ActiveValid m) {s : CkSession} (hs : s.active = false) :
    ActiveValid (m.insertSession m.next_session s) := by
  have hold : ∀ {x}, (Function.update m.session m.next_session s x).active = true →
      Function.update m.session m.next_session s x = m.session x := by
    intro x hx
    refine Function.update_of_ne ?_ _ _
    rintro rfl
    rw [Function.update_self, hs] at hx
    cases hx
  constructor
  · intro d k x hx hactive
    change (Function.update m.session m.next_session s x).active = true at hactive
    rw [hold hactive] at hactive
    exact h.current hx hactive
  · intro x hactive
    change (Function.update m.session m.next_session s x).active = true at hactive
    show (Function.update m.session m.next_session s x).seat ≠ none
    have hkeep := hold hactive
    rw [hkeep] at hactive ⊢
    exact h.attached hactive

theorem detach (h : ActiveValid m) (d : SeatRef) (x : SessionRef) :
    ActiveValid (m.ck_seat_remove_session d x).1 := by
  have hless := m.detach_fewer d x
  refine h.mono hless.member (fun d' => ?_) (fun {y} hy => ?_) hless.attached
  · unfold State.ck_seat_remove_session
    split
    · by_cases hd : d' = d
      · simp [State.setSeat, State.setSession, hd]
      · simp [State.setSeat, State.setSession, hd]
    · rfl
  · unfold State.ck_seat_remove_session at hy
    split at hy
    · by_cases heq : y = x
      · subst heq
        simpa [State.setSeat, State.setSession] using hy
      · simpa [State.setSeat, State.setSession, heq] using hy
    · exact hy

theorem start (h : ActiveValid m) {l : LeaderRef} {caller : RemovalCaller}
    {r : State × List Call} (hr : m.remove_session_for_cookie l caller = some r) :
    ActiveValid r.1 := by
  obtain ⟨x, -, rfl⟩ := Option.map_eq_some_iff.mp hr
  split
  · exact h.detach _ x
  · exact h

theorem remove_seat (h : ActiveValid m) (d : SeatRef) : ActiveValid (m.remove_seat d).1 := by
  have hless := m.remove_seat_fewer d
  refine h.mono hless.member (fun d' => ?_) (fun hx => ?_) hless.attached
  · unfold State.remove_seat
    split
    · rfl
    · rename_i orig _
      by_cases hd : d' = orig
      · simp [State.setSeat, hd]
      · simp [State.setSeat, hd]
  · unfold State.remove_seat at hx
    split at hx <;> exact hx

theorem job_completed (h : ActiveValid m) {l : LeaderRef} {result : Option Opening}
    {r : State × List Call} (hr : m.job_completed l result = some r) : ActiveValid r.1 := by
  have hended : ActiveValid (m.setLeader l { m.leader l with job := false }) :=
    h.of_heaps rfl rfl
  rcases State.job_completed_cases hr with rfl | ⟨o, _, _, _, rfl, -, -, -, -, hseat⟩
  · exact hended
  · have hinsert : ActiveValid (m.insertOpened l o) := hended.insertSession rfl
    rcases hseat with ⟨d, -, -, heq, -⟩ | ⟨-, hadd⟩
    · rw [heq]
      exact hinsert
    · exact hinsert.newSeat (State.add_new_seat_new hadd)

/-! ### Activation requests -/

theorem dbus_activate (h : ActiveValid m) (hseats : SeatsValid m stack) {x : SessionRef}
    (switches : Bool) {seats : List SeatRef}
    (hcurrent : ∀ d ∈ seats, (m.seat d).kind = .STATIC →
      m.console_num x = some m.vt_monitor.active_num → IsCurrent m x) :
    ActiveValid (seats.foldl
      (fun m d => (m.ck_seat_activate_session d (some x) switches).1) m) := by
  induction seats generalizing m with
  | nil => exact h
  | cons d seats ih =>
    have honly := m.ck_seat_activate_session_only d (some x) switches
    have hseat := m.ck_seat_activate_session_seat d (some x) switches
    have hsession := honly.session x
    have hvt : (m.ck_seat_activate_session d (some x) switches).1.vt_monitor = m.vt_monitor := by
      rw [honly.rest]
    have hconsole : (m.ck_seat_activate_session d (some x) switches).1.console_num x =
        m.console_num x := by
      unfold State.console_num
      rw [hsession]
    refine ih ?_ (hseats.mono (honly.sameSeats.fewerMembers honly.sameSessions.next_session
      honly.sameSessions.id) (.refl _) id) fun d' hd' hkind hnum => ?_
    · refine h.ck_seat_activate_session hseats switches fun y hy => ?_
      cases hy
      exact hcurrent d List.mem_cons_self
    · rw [hseat] at hkind
      rw [hconsole, hvt] at hnum
      obtain ⟨d₀, hd₀, hmember⟩ := hcurrent d' (List.mem_cons_of_mem d hd') hkind hnum
      refine ⟨d₀, (honly.sameSeats.attached x).trans hd₀, ?_⟩
      rw [hseat]
      exact hmember

theorem activate_session_on_seat (h : ActiveValid m) (hseats : SeatsValid m stack)
    {session_id seat_id : CString} (switches : Bool)
    (hcurrent : ∀ d x, m.sessions.lookup session_id = some x → m.seats.lookup seat_id = some d →
      (m.seat d).kind = .STATIC → m.console_num x = some m.vt_monitor.active_num →
      IsCurrent m x) :
    ActiveValid (m.dbus_activate_session_on_seat session_id seat_id switches) := by
  unfold State.dbus_activate_session_on_seat
  split
  · rename_i x d hx hd
    refine h.ck_seat_activate_session hseats switches fun y hy => ?_
    cases hy
    exact hcurrent d x hx hd
  · exact h

/-- The events that activate a session, or deactivate it. -/
theorem dispatch_quiet (h : ActiveValid m) (hseats : SeatsValid m stack) {event : Event}
    {r : State × List Call} (hevent : event.Quiet) (hr : m.dispatch event = some r)
    (hcurrent : ∀ d x, event.Activates m d x → (m.seat d).kind = .STATIC →
      m.console_num x = some m.vt_monitor.active_num → IsCurrent m x) : ActiveValid r.1 := by
  cases event with
  | open_session | job_completed | close_session | name_owner_notify => cases hevent
  | process_queue num =>
    obtain rfl := State.dispatch_process_queue hr
    unfold State.process_queue
    split <;> exact h.of_heaps rfl rfl
  | seat_activate_session d ssid switches =>
    cases hr
    exact h.ck_seat_activate_session hseats switches fun x hx => hcurrent d x ⟨rfl, hx⟩
  | seat_switch_to d vtnr switches =>
    cases hr
    show ActiveValid (m.dbus_switch_to d vtnr switches)
    unfold State.dbus_switch_to
    split
    · rename_i y hy
      exact h.ck_seat_activate_session hseats switches fun x hx =>
        hcurrent d x ⟨rfl, y, hy, hx⟩
    · exact h
  | session_activate x switches =>
    cases hr
    exact h.dbus_activate hseats switches fun d hd => hcurrent d x ⟨rfl, hd⟩
  | activate_session session_id switches =>
    cases hr
    show ActiveValid (m.dbus_activate_session session_id switches)
    unfold State.dbus_activate_session
    split
    · rename_i x hx
      split
      · rename_i d' hd'
        refine h.activate_session_on_seat hseats switches fun d y hy hd => hcurrent d y ⟨hy, ?_⟩
        rw [hx] at hy
        obtain rfl := Option.some.inj hy
        exact ⟨d', hd', hd⟩
      · exact h
    · exact h
  | activate_session_on_seat session_id seat_id switches =>
    cases hr
    exact h.activate_session_on_seat hseats switches fun d x hx hd => hcurrent d x ⟨hx, hd⟩
  | vt_leave x =>
    cases hr
    refine h.mono (fun hx => hx) (fun _ => rfl) (fun {y} hy => ?_)
      (OnlyActive.setSession m x false).sameSeats.attached
    change ((m.setSession x { m.session x with active := false }).session y).active = true at hy
    by_cases heq : y = x
    · subst heq
      simp [State.setSession] at hy
    · simpa [State.setSession, heq] using hy

/-! ## Section 3: Preservation -/

theorem update_active_vt (h : ActiveValid m) (hseats : SeatsValid m stack) (d : SeatRef)
    (num : Nat) : ActiveValid (m.update_active_vt d num).1 :=
  h.change_active_session hseats fun _ hx =>
    HashTable.mem_values.mp (State.find_session_for_display_device_mem hx)

theorem call {f : Call} {rest : List Call} (h : ActiveValid m)
    (hseats : SeatsValid m (f :: rest)) {r : State × List Call} (hr : m.call f = some r) :
    ActiveValid r.1 := by
  cases f with
  | callout => cases hr
  | load_seats_from_dir files =>
    cases files with
    | nil =>
      cases hr
      exact h
    | cons file files =>
      obtain ⟨r, hadd, rfl⟩ := Option.map_eq_some_iff.mp hr
      rcases State.add_seat_for_file_heaps hadd with ⟨hsession, hseat, -⟩ | ⟨seat, hnew⟩
      · exact h.of_heaps hsession hseat
      · exact h.newSeat hnew
  | seat_added | queue_processed | seat_removed =>
    cases hr
    exact h.of_heaps rfl rfl
  | ck_seat_add_session seat x =>
    cases hr
    cases seat with
    | none => exact h
    | some d => exact h.attach (hseats.opening_new (x := x) List.mem_cons_self).2
  | session_opened x is_local =>
    cases hr
    refine h.mono (fun hx => hx) (fun _ => rfl) (fun {y} hy => ?_) fun y => ?_
    · change ((m.setSession x { m.session x with is_local := is_local }).session y).active =
        true at hy
      by_cases heq : y = x
      · subst heq
        simpa [State.setSession] using hy
      · simpa [State.setSession, heq] using hy
    · show ((m.setSession x { m.session x with is_local := is_local }).session y).seat = _
      by_cases heq : y = x
      · subst heq
        simp [State.setSession]
      · simp [State.setSession, heq]
  | maybe_update_active_session d =>
    cases hr
    show ActiveValid (m.maybe_update_active_session d).1
    unfold State.maybe_update_active_session
    split
    · exact h
    · split
      · exact h.update_active_vt hseats d _
      · exact h
  | update_active_vt d num =>
    cases hr
    exact h.update_active_vt hseats d num
  | remove_dynamic_seat d =>
    cases hr
    split
    · exact h.remove_seat d
    · exact h
  | remove_session l x caller =>
    cases hr
    cases caller <;> exact h.of_heaps rfl rfl
  | destroy_entity l =>
    cases hr
    rcases m.destroy_entity_cases l with ⟨-, heq⟩ | ⟨r, hr, heq⟩
    · rw [heq]
      exact h.of_heaps rfl rfl
    · rw [heq]
      exact h.start hr

/-- **Step lemma**: a step that meets the condition keeps the invariant. -/
theorem step {c c' : MainLoop} {label : Label} (h : ActiveValid c.state)
    (hseats : SeatsValid c.state c.stack) (hok : NoShortcut c label)
    (hnext : main_loop.next c label = some c') : ActiveValid c'.state := by
  obtain ⟨m, stack⟩ := c
  cases main_loop_step hnext with
  | @dispatch event r hloop hr =>
    cases event with
    | open_session sender caller cookie started =>
      obtain ⟨-, m', hm', rfl⟩ := State.dispatch_open_session hr
      obtain ⟨hsession, -, -, hseat, -⟩ := State.create_session_heaps hm'
      exact h.of_heaps hsession hseat
    | job_completed l result =>
      obtain ⟨-, hr⟩ := State.dispatch_job_completed hr
      exact h.job_completed hr
    | close_session caller cookie =>
      cases hr
      rcases m.dbus_close_session_cases caller cookie with heq | ⟨_, _, l, r, -, -, hr, heq⟩
      · rw [heq]
        exact h
      · rw [heq]
        exact h.start hr
    | name_owner_notify service_name old_service_name new_service_name =>
      cases hr
      show ActiveValid (m.on_name_owner_notify _ _ _).1
      unfold State.on_name_owner_notify
      split
      · exact h.of_heaps rfl rfl
      · exact h
    | process_queue | seat_activate_session | seat_switch_to | session_activate
      | activate_session | activate_session_on_seat | vt_leave =>
      exact h.dispatch_quiet hseats (by trivial) hr fun d x => hok _ d x rfl
  | @call f rest r hstack hr =>
    obtain rfl : stack = f :: rest := hstack
    exact h.call hseats hr
  | callout_done => exact h

end ActiveValid

/-- At most one session of a seat is active, and only its active session. -/
structure SingleActive (m : State) : Prop where
  unique : ∀ {d k k' x y}, (m.seat d).sessions.lookup k = some x →
    (m.seat d).sessions.lookup k' = some y → (m.session x).active = true →
    (m.session y).active = true → x = y
  current : ∀ {d k x}, (m.seat d).sessions.lookup k = some x → (m.session x).active = true →
    (m.seat d).active_session = some x

theorem single_active_session {c : MainLoop} (h : main_loop.ReachableBy NoShortcut c) :
    SingleActive c.state := by
  have hvalid : ActiveValid c.state := by
    induction h with
    | init hinit =>
      obtain ⟨vfd, active_num, files, rfl⟩ := hinit
      constructor
      · intro d k x hx
        exact absurd ((AList.lookup_empty k).symm.trans hx) (by simp)
      · intro x hactive
        cases hactive
    | step h hok hnext ih => exact ih.step (seatsValid h) hok hnext
  constructor
  · intro d k k' x y hx hy hactive hactive'
    have heq := hvalid.current hx hactive
    rw [hvalid.current hy hactive'] at heq
    exact (Option.some.inj heq).symm
  · exact hvalid.current

/-! ## Section 4: Runs on a console -/

/-- The test that no activation is requested. -/
def unrequested (_ : MainLoop) : Label → Bool
  | .dispatch (.open_session ..) | .dispatch (.job_completed ..) | .dispatch (.process_queue _)
  | .call | .callout_done => true
  | _ => false

theorem unrequested_sound {c : MainLoop} {label : Label} (htest : unrequested c label = true) :
    NoShortcut c label := by
  intro event d x heq hactivates
  subst heq
  -- the test refuses every request, and no other event activates
  cases event <;> first | exact absurd htest Bool.false_ne_true | exact False.elim hactivates

/-- The session on the console is the active one of its seat. -/
theorem single_active_session_console :
    ∃ c, main_loop.runBy unrequested one_seat
      (seat_loaded ++ session_opens (cstr ":1.5") (cstr "c1") 0) = some c ∧
      (c.state.seat 0).sessions.lookup (cstr "Session1") = some 0 ∧
      (c.state.session 0).active = true ∧ SingleActive c.state := by
  have hrun : (main_loop.runBy unrequested one_seat
      (seat_loaded ++ session_opens (cstr ":1.5") (cstr "c1") 0)).map
      (fun c => ((c.state.seat 0).sessions.lookup (cstr "Session1"),
        (c.state.session 0).active)) = some (some 0, true) := by
    decide
  obtain ⟨c, hc, heq⟩ := Option.map_eq_some_iff.mp hrun
  simp only [Prod.mk.injEq] at heq
  exact ⟨c, hc, heq.1, heq.2, single_active_session
    ((one_seat_reachable NoShortcut).runBy (fun _ _ _ htest => unrequested_sound htest) hc)⟩

/-- Two sessions on the text console of VT 1, and the younger one is asked to
    become active. -/
def younger_activated : List Label :=
  seat_loaded ++ session_opens (cstr ":1.5") (cstr "c1") 0 ++
    [.dispatch (.open_session (cstr ":1.6") (some (1000, 8)) (cstr "c2") true),
      .dispatch (.job_completed 1 (some (text_session 1))), .call, .callout_done, .call, .call,
      .dispatch (.session_activate 1 true)]

/-- The older one stays the active session of the seat, but the younger one
    is active. -/
theorem single_active_session_fails :
    ∃ c, main_loop.run one_seat younger_activated = some c ∧ main_loop.Reachable c ∧
      c.Quiescent ∧ (c.state.seat 0).active_session = some 0 ∧
      (c.state.seat 0).sessions.lookup (cstr "Session2") = some 1 ∧
      (c.state.session 1).active = true ∧ ¬ SingleActive c.state := by
  have hrun : (main_loop.run one_seat younger_activated).map (fun c => (c.stack,
      (c.state.seat 0).active_session, (c.state.seat 0).sessions.lookup (cstr "Session2"),
      (c.state.session 1).active)) = some ([], some 0, some 1, true) := by
    decide
  obtain ⟨c, hc, heq⟩ := Option.map_eq_some_iff.mp hrun
  simp only [Prod.mk.injEq] at heq
  obtain ⟨hstack, hcurrent, hmember, hactive⟩ := heq
  refine ⟨c, hc, LTS.System.Reachable.run (one_seat_reachable _) hc, hstack, hcurrent, hmember,
    hactive, fun hsingle => ?_⟩
  have hother := hsingle.current hmember hactive
  rw [hcurrent] at hother
  cases hother

end CkManager
