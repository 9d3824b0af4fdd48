import ConsoleKit.Manager.Removal
import ConsoleKit.Manager.Seats

/-! # Sessions at their seats

    The tables of the seats against the table of sessions, while sessions
    are being opened and removed.  A removal takes the session out of its
    seat first and out of the manager's table last; opening puts it into the
    manager's table first.

    This module provides:
    - `NoOpeningRemoval`: the condition that keeps the two apart,
    - `MembersValid`: no registered seat has a session that has left the
      manager's table, or is about to leave it.
-/

namespace CkManager

open Libc

/-! ## Section 1: Conditions and invariant -/

/-- No removal is requested for a leader whose session waits for its seat. -/
def NoOpeningRemoval (c : MainLoop) (label : Label) : Prop :=
  ∀ event l, label = .dispatch event → event.Requests c.state l →
    ∀ x ∈ opening c.stack, (c.state.session x).leader ≠ l

/-- What holds of the members of the seats between two steps. -/
structure MembersValid (m : State) (stack : List Call) : Prop where
  opening_table : ∀ {x}, x ∈ opening stack → m.sessions.lookup (m.session x).id = some x
  disjoint : ∀ {x}, x ∈ opening stack → x ∉ removing stack
  /-- A removal that waits is not above the opening of its own session. -/
  order : stack.Pairwise fun f g => ∀ x ∈ g.opening, (m.session x).leader ∉ f.destroying
  detached : ∀ {x d k}, x ∈ removing stack → SeatRegistered m d →
    (m.seat d).sessions.lookup k ≠ some x
  table : ∀ {d k x}, SeatRegistered m d → (m.seat d).sessions.lookup k = some x →
    m.sessions.lookup k = some x

namespace MembersValid

variable {m m' : State} {stack : List Call}

/-- Steps of the state that give no session to a seat, and leave the table of
    sessions alone. -/
theorem mono (h : MembersValid m stack) (hless : FewerMembers m m')
    (hsessions : m'.sessions = m.sessions)
    (hleader : ∀ x, (m'.session x).leader = (m.session x).leader) : MembersValid m' stack := by
  have hreg : ∀ {d}, SeatRegistered m' d → SeatRegistered m d :=
    fun ⟨sid, hd⟩ => ⟨sid, hless.registered hd⟩
  constructor
  case opening_table =>
    intro x hx
    rw [hsessions, hless.id]
    exact h.opening_table hx
  case disjoint => exact h.disjoint
  case order =>
    refine h.order.imp fun hfg x hx => ?_
    rw [hleader]
    exact hfg x hx
  case detached =>
    intro x d k hx hd hk
    exact h.detached hx (hreg hd) (hless.member hk)
  case table =>
    intro d k x hd hk
    rw [hsessions]
    exact h.table (hreg hd) (hless.member hk)

theorem pop {f : Call} {rest : List Call} (h : MembersValid m (f :: rest)) :
    MembersValid m rest where
  opening_table hx := h.opening_table (List.mem_append_right _ hx)
  disjoint hx hr := h.disjoint (List.mem_append_right _ hx) (List.mem_append_right _ hr)
  order := (List.pairwise_cons.mp h.order).2
  detached hx := h.detached (List.mem_append_right _ hx)
  table := h.table

theorem append (h : MembersValid m stack) {calls : List Call} (hcalls : ∀ f ∈ calls, f.Quiet) :
    MembersValid m (calls ++ stack) := by
  obtain ⟨-, -, hremoving, hopening⟩ := quiet_append hcalls stack
  constructor
  case opening_table =>
    rw [hopening]
    exact h.opening_table
  case disjoint =>
    rw [hopening, hremoving]
    exact h.disjoint
  case order =>
    refine List.pairwise_append.mpr ⟨?_, h.order, ?_⟩
    · exact List.pairwise_of_forall_mem_list fun f _ g hg x hx => by
        rw [(hcalls g hg).2] at hx
        cases hx
    · intro f hf g _ x _
      rw [(hcalls f hf).destroying]
      exact List.not_mem_nil
  case detached =>
    rw [hremoving]
    exact h.detached
  case table => exact h.table

/-- A leader whose session does not wait for its seat is claimed. -/
theorem claim (h : MembersValid m stack) {l : LeaderRef}
    (hfree : ∀ x ∈ opening stack, (m.session x).leader ≠ l) :
    MembersValid m (.destroy_entity l :: stack) where
  opening_table := h.opening_table
  disjoint := h.disjoint
  order := List.pairwise_cons.mpr ⟨fun _ hg x hx hl =>
    hfree x (List.mem_flatMap.mpr ⟨_, hg, hx⟩) (List.mem_singleton.mp hl), h.order⟩
  detached := h.detached
  table := h.table

theorem claimAll (h : MembersValid m stack) {ls : List LeaderRef}
    (hfree : ∀ l ∈ ls, ∀ x ∈ opening stack, (m.session x).leader ≠ l) :
    MembersValid m (ls.map .destroy_entity ++ stack) := by
  induction ls with
  | nil => exact h
  | cons l ls ih =>
    refine (ih fun l' hl' => hfree l' (List.mem_cons_of_mem l hl')).claim fun x hx => ?_
    refine hfree l List.mem_cons_self x ?_
    rw [opening, List.flatMap_append, List.flatMap_map] at hx
    rcases List.mem_append.mp hx with hx | hx
    · obtain ⟨l', -, hl'⟩ := List.mem_flatMap.mp hx
      cases hl'
    · exact hx

/-- The removal of a session starts with its seat. -/
theorem start (h : MembersValid m stack) (hseats : SeatsValid m stack) {l : LeaderRef}
    {caller : RemovalCaller} {r : State × List Call}
    (hr : m.remove_session_for_cookie l caller = some r)
    (hfree : ∀ x, m.sessions.lookup (m.leader l).session_id = some x → x ∉ opening stack) :
    MembersValid r.1 (r.2 ++ stack) := by
  obtain ⟨x, calls, hx, hsame, hquiet, hcalls⟩ := State.remove_session_for_cookie_spec hr
  have hless := State.remove_session_for_cookie_fewer hr
  have hstate := h.mono hless hsame.sessions hsame.opener
  -- the session is in no seat that the manager knows
  have hgone : ∀ d k, SeatRegistered r.1 d → (r.1.seat d).sessions.lookup k ≠ some x := by
    rintro d k ⟨sid, hd⟩ hk
    obtain ⟨-, hid, hseat⟩ := hseats.member (hless.member hk)
    have hsid := (hseats.registered (hless.registered hd)).2
    have hfound : m.seat_of_session x = some d := by
      rw [State.seat_of_session, hseat]
      show m.seats.lookup (m.seat d).id = some d
      rw [hsid]
      exact hless.registered hd
    obtain ⟨x', hx', rfl⟩ := Option.map_eq_some_iff.mp hr
    rw [hx] at hx'
    obtain rfl := Option.some.inj hx'
    simp only [hfound] at hk
    have hmem : ((m.seat d).sessions.lookup (m.session x).id).isSome = true := by
      have hk' := (m.detach_fewer d x).member hk
      rw [hid, hk']
      rfl
    rw [State.detach_members hmem, if_pos rfl, hid, AList.lookup_erase] at hk
    cases hk
  rw [hcalls, List.append_assoc]
  refine MembersValid.append ?_ hquiet
  constructor
  case opening_table => exact hstate.opening_table
  case disjoint =>
    intro y hy hmem
    rcases List.mem_cons.mp hmem with rfl | hmem
    · exact hfree y hx hy
    · exact hstate.disjoint hy hmem
  case order => exact List.pairwise_cons.mpr ⟨fun _ _ _ _ => List.not_mem_nil, hstate.order⟩
  case detached =>
    intro y d k hy hd
    rcases List.mem_cons.mp hy with rfl | hy
    · exact hgone d k hd
    · exact hstate.detached hy hd
  case table => exact hstate.table

/-- A removed session leaves the manager's table. -/
theorem session_removed {l : LeaderRef} {x : SessionRef} {caller : RemovalCaller}
    {rest : List Call} (h : MembersValid m (.remove_session l x caller :: rest))
    (hx : m.sessions.lookup (m.leader l).session_id = some x) :
    MembersValid (m.session_removed l x caller) rest := by
  have hsessions : (m.session_removed l x caller).sessions =
      m.sessions.erase (m.leader l).session_id := by cases caller <;> rfl
  have hsession : (m.session_removed l x caller).session = m.session := by cases caller <;> rfl
  have hseat : (m.session_removed l x caller).seat = m.seat := by cases caller <;> rfl
  have hreg : ∀ {d}, SeatRegistered (m.session_removed l x caller) d → SeatRegistered m d := by
    cases caller <;> exact id
  have hkeep : ∀ {k y}, m.sessions.lookup k = some y → y ≠ x →
      (m.sessions.erase (m.leader l).session_id).lookup k = some y := by
    intro k y hy hne
    refine HashTable.lookup_erase_iff.mpr ⟨?_, hy⟩
    rintro rfl
    rw [hx] at hy
    exact hne (Option.some.inj hy).symm
  constructor
  case opening_table =>
    intro y hy
    rw [hsessions, hsession]
    refine hkeep (h.opening_table hy) ?_
    rintro rfl
    exact h.disjoint (x := y) hy List.mem_cons_self
  case disjoint => exact h.pop.disjoint
  case order =>
    rw [hsession]
    exact h.pop.order
  case detached =>
    intro y d k hy hd
    rw [hseat]
    exact h.pop.detached hy (hreg hd)
  case table =>
    intro d k y hd hk
    rw [hseat] at hk
    rw [hsessions]
    refine hkeep (h.table (hreg hd) hk) ?_
    rintro rfl
    exact h.detached (x := y) List.mem_cons_self (hreg hd) hk

theorem attach {d : SeatRef} {x : SessionRef} {rest : List Call}
    (h : MembersValid m (.ck_seat_add_session (some d) x :: rest)) :
    MembersValid (m.ck_seat_add_session (some d) x).1 rest := by
  have hsame := (m.ck_seat_add_session_same (some d) x).1
  have hreg : ∀ {d'}, SeatRegistered (m.ck_seat_add_session (some d) x).1 d' →
      SeatRegistered m d' := fun hd => hd
  -- a member is the new one, or was one before
  have hmember : ∀ {d' k y},
      ((m.ck_seat_add_session (some d) x).1.seat d').sessions.lookup k = some y →
      (k = (m.session x).id ∧ y = x) ∨ (m.seat d').sessions.lookup k = some y := by
    intro d' k y hy
    rw [State.attach_members] at hy
    split at hy
    · rename_i heq
      rw [heq]
      exact (HashTable.lookup_insert_iff.mp hy).imp_right And.right
    · exact .inr hy
  constructor
  case opening_table =>
    intro y hy
    rw [hsame.sessions, hsame.id]
    exact h.pop.opening_table hy
  case disjoint => exact h.pop.disjoint
  case order =>
    refine h.pop.order.imp fun hfg y hy => ?_
    rw [hsame.opener]
    exact hfg y hy
  case detached =>
    intro y d' k hy hd hk
    rcases hmember hk with ⟨-, rfl⟩ | hk
    · exact h.disjoint (x := y) List.mem_cons_self hy
    · exact h.pop.detached hy (hreg hd) hk
  case table =>
    intro d' k y hd hk
    rw [hsame.sessions]
    rcases hmember hk with ⟨rfl, rfl⟩ | hk
    · exact h.opening_table (x := y) List.mem_cons_self
    · exact h.table (hreg hd) hk

theorem newSeat (h : MembersValid m stack) {seat : Option SeatRef} (hnew : NewSeat m m' seat)
    (hsessions : m'.sessions = m.sessions) : MembersValid m' stack := by
  have hmember : ∀ {d k x}, SeatRegistered m' d → (m'.seat d).sessions.lookup k = some x →
      SeatRegistered m d ∧ (m.seat d).sessions.lookup k = some x := by
    rintro d k x ⟨sid, hd⟩ hk
    by_cases heq : d = m.next_seat
    · rw [heq, hnew.empty, AList.lookup_empty] at hk
      cases hk
    · rw [hnew.others heq] at hk
      refine ⟨⟨sid, ?_⟩, hk⟩
      rcases hnew.seats with ⟨-, hsame⟩ | ⟨-, -, hinsert⟩
      · rw [← hsame]
        exact hd
      · rw [hinsert] at hd
        rcases HashTable.lookup_insert_iff.mp hd with ⟨-, hd⟩ | ⟨-, hd⟩
        · exact absurd hd heq
        · exact hd
  constructor
  case opening_table =>
    intro x hx
    rw [hsessions, hnew.session]
    exact h.opening_table hx
  case disjoint => exact h.disjoint
  case order =>
    rw [hnew.session]
    exact h.order
  case detached =>
    intro x d k hx hd hk
    obtain ⟨hd, hk⟩ := hmember hd hk
    exact h.detached hx hd hk
  case table =>
    intro d k x hd hk
    obtain ⟨hd, hk⟩ := hmember hd hk
    rw [hsessions]
    exact h.table hd hk

theorem insertSession (h : MembersValid m stack) (hseats : SeatsValid m stack) {s : CkSession}
    (hnone : m.sessions.lookup s.id = none) :
    MembersValid (m.insertSession m.next_session s) stack := by
  have hkeep : ∀ {x}, x < m.next_session →
      Function.update m.session m.next_session s x = m.session x :=
    fun hx => Function.update_of_ne (Nat.ne_of_lt hx) _ _
  have hmono : ∀ {k x}, m.sessions.lookup k = some x →
      (m.sessions.insert s.id m.next_session).lookup k = some x := by
    intro k x hx
    refine HashTable.lookup_insert_iff.mpr (.inr ⟨?_, hx⟩)
    rintro rfl
    rw [hnone] at hx
    cases hx
  constructor
  case opening_table =>
    intro x hx
    show (m.sessions.insert s.id m.next_session).lookup
      (Function.update m.session m.next_session s x).id = some x
    rw [hkeep (hseats.opening_new hx).1]
    exact hmono (h.opening_table hx)
  case disjoint => exact h.disjoint
  case order =>
    refine h.order.imp_of_mem fun {f g} _ hg hfg x hx => ?_
    show (Function.update m.session m.next_session s x).leader ∉ f.destroying
    rw [hkeep (hseats.opening_new (List.mem_flatMap.mpr ⟨g, hg, hx⟩)).1]
    exact hfg x hx
  case detached => exact h.detached
  case table =>
    intro d k x hd hk
    exact hmono (h.table hd hk)

theorem push (h : MembersValid m stack) {seat : Option SeatRef} {x : SessionRef}
    (hx : m.sessions.lookup (m.session x).id = some x) (hfree : x ∉ removing stack) :
    MembersValid m (.ck_seat_add_session seat x :: stack) where
  opening_table {y} hy := by
    rcases List.mem_cons.mp hy with rfl | hy
    · exact hx
    · exact h.opening_table hy
  disjoint {y} hy := by
    rcases List.mem_cons.mp hy with rfl | hy
    · exact hfree
    · exact h.disjoint hy
  order := List.pairwise_cons.mpr ⟨fun _ _ _ _ => List.not_mem_nil, h.order⟩
  detached := h.detached
  table := h.table

/-! ## Section 2: Preservation -/

theorem init (vfd : Bool) (active_num : Nat) (files : List SeatFile) :
    MembersValid (ck_manager_init vfd active_num) [.load_seats_from_dir files] := by
  have hempty : ∀ {d}, ¬ SeatRegistered (ck_manager_init vfd active_num) d := by
    rintro d ⟨sid, hd⟩
    exact absurd ((AList.lookup_empty _).symm.trans hd) (by simp)
  constructor
  case opening_table =>
    intro x hx
    cases hx
  case disjoint =>
    intro x hx
    cases hx
  case order => exact List.pairwise_singleton _ _
  case detached =>
    intro x d k hx
    cases hx
  case table =>
    intro d k x hd
    exact absurd hd hempty

theorem job_completed (h : MembersValid m stack) (hsessions : SessionsValid m stack)
    (hseats : SeatsValid m stack) {l : LeaderRef} {result : Option Opening}
    (hjob : (m.leader l).job = true) {r : State × List Call}
    (hr : m.job_completed l result = some r) : MembersValid r.1 (r.2 ++ stack) := by
  have hended : MembersValid (m.setLeader l { m.leader l with job := false }) stack :=
    h.mono (m.setLeader_fewer l _) rfl fun _ => rfl
  have hended' : SeatsValid (m.setLeader l { m.leader l with job := false }) stack :=
    hseats.mono (m.setLeader_fewer l _) (.refl _) id
  rcases State.job_completed_cases hr with
    rfl | ⟨o, is_local, seat, calls, rfl, -, hsame, hquiet, hcalls, hseat⟩
  · exact hended
  · have hnone : m.sessions.lookup ((m.ck_session_leader_cancel l).leader l).session_id =
        none := by
      rw [m.cancel_leader l l]
      exact (hsessions.job hjob).2.1
    have hinsert : MembersValid (m.insertOpened l o) stack := hended.insertSession hended' hnone
    have hopened : MembersValid r.1 stack := by
      rcases hseat with ⟨d, -, -, heq, -⟩ | ⟨-, hadd⟩
      · rw [heq]
        exact hinsert
      · exact hinsert.newSeat (State.add_new_seat_new hadd) hsame.sessions
    -- the new session is in the table, and none that is being removed
    have htable : r.1.sessions.lookup (r.1.session m.next_session).id = some m.next_session := by
      rw [hsame.sessions, hsame.id]
      show (m.sessions.insert _ m.next_session).lookup
        (Function.update m.session m.next_session _ m.next_session).id = _
      rw [Function.update_self]
      exact AList.lookup_insert _
    have hfree : m.next_session ∉ removing stack := by
      intro hmem
      obtain ⟨l', caller, hx⟩ := mem_removing.mp hmem
      exact Nat.lt_irrefl _ (hsessions.table (hsessions.removing hx).1).1
    have hquiet_opened :
        ∀ f ∈ [Call.session_opened m.next_session is_local], f.Quiet := by
      simp [Call.Quiet, Call.claims, Call.opening]
    have hpush : MembersValid r.1 (.ck_seat_add_session seat m.next_session ::
        ([.session_opened m.next_session is_local] ++ stack)) :=
      (hopened.append hquiet_opened).push htable hfree
    rw [hcalls, List.append_assoc]
    exact hpush.append hquiet

theorem dbus_close_session (h : MembersValid m stack) (hsessions : SessionsValid m stack)
    (hseats : SeatsValid m stack) {caller : Option (Nat × Nat)} {cookie : CString}
    (hopen : ∀ l, (Event.close_session caller cookie).Requests m l →
      ∀ x ∈ opening stack, (m.session x).leader ≠ l) :
    MembersValid (m.dbus_close_session caller cookie).1
      ((m.dbus_close_session caller cookie).2 ++ stack) := by
  rcases m.dbus_close_session_cases caller cookie with
    heq | ⟨uid, pid, l, r, rfl, hl, hr, heq⟩
  · rw [heq]
    exact h
  · rw [heq]
    have hreg : Registered m l := ⟨cookie, State.paranoia_check_registered hl⟩
    exact h.start hseats hr fun x hx hmem =>
      hopen l hl x hmem (hsessions.opener_eq (.inl hreg) hx)

theorem name_owner_notify (h : MembersValid m stack) (hsessions : SessionsValid m stack)
    {service_name old_service_name new_service_name : CString}
    (hopen : ∀ l, (Event.name_owner_notify service_name old_service_name
      new_service_name).Requests m l → ∀ x ∈ opening stack, (m.session x).leader ≠ l) :
    MembersValid (m.on_name_owner_notify service_name old_service_name new_service_name).1
      ((m.on_name_owner_notify service_name old_service_name new_service_name).2 ++ stack) := by
  have hstate : MembersValid
      (m.on_name_owner_notify service_name old_service_name new_service_name).1 stack := by
    refine h.mono (m.name_owner_fewer _ _ _) ?_ fun _ => ?_ <;>
      unfold State.on_name_owner_notify <;> split <;> rfl
  by_cases hnew : new_service_name = []
  · obtain ⟨gone, ls, -, hls, heq⟩ := m.name_owner_lost
      (fun hk hk' => (hsessions.registered hk).2.symm.trans (hsessions.registered hk').2)
      service_name old_service_name hnew
    have hfree : ∀ l ∈ ls, ∀ x ∈ opening stack, (m.session x).leader ≠ l :=
      fun l hl => hopen l ⟨hnew, (hls l).mp hl⟩
    rw [heq] at hstate ⊢
    exact hstate.claimAll hfree
  · unfold State.on_name_owner_notify
    rw [if_neg hnew]
    exact h

theorem destroy_entity {l : LeaderRef} {rest : List Call}
    (h : MembersValid m (.destroy_entity l :: rest))
    (hsessions : SessionsValid m (.destroy_entity l :: rest))
    (hseats : SeatsValid m (.destroy_entity l :: rest)) :
    MembersValid (m.destroy_entity l).1 ((m.destroy_entity l).2 ++ rest) := by
  rcases m.destroy_entity_cases l with ⟨-, heq⟩ | ⟨r, hr, heq⟩
  · rw [heq]
    exact h.pop.mono (m.setLeader_fewer l _) rfl fun _ => rfl
  · rw [heq]
    refine h.pop.start hseats.pop hr fun x hx hmem => ?_
    obtain ⟨f, hf, hx'⟩ := List.mem_flatMap.mp hmem
    have hopener := hsessions.opener_eq (.inr (.inr List.mem_cons_self)) hx
    exact (List.pairwise_cons.mp h.order).1 f hf x hx' (List.mem_singleton.mpr hopener)

theorem call {f : Call} {rest : List Call} (h : MembersValid m (f :: rest))
    (hsessions : SessionsValid m (f :: rest)) (hseats : SeatsValid m (f :: rest))
    {r : State × List Call} (hr : m.call f = some r) : MembersValid r.1 (r.2 ++ rest) := by
  have hidle : f.Idle → MembersValid r.1 (r.2 ++ rest) := by
    intro hf
    have hclaims : f.claims = [] := by cases f <;> first | rfl | cases hf
    obtain ⟨hsame, hquiet⟩ := State.call_same hclaims hr
    exact (h.pop.mono ((State.call_same_seats hf hr).fewerMembers hsame.next_session hsame.id)
      hsame.sessions hsame.opener).append hquiet
  cases f with
  | load_seats_from_dir files =>
    cases files with
    | nil => exact hidle rfl
    | cons file files =>
      obtain ⟨hsame, hquiet⟩ := State.call_same rfl hr
      obtain ⟨r, hadd, rfl⟩ := Option.map_eq_some_iff.mp hr
      refine MembersValid.append ?_ hquiet
      rcases State.add_seat_for_file_new hadd with hseats | ⟨seat, hnew⟩
      · exact h.pop.mono (hseats.fewerMembers hsame.next_session hsame.id) hsame.sessions
          hsame.opener
      · exact h.pop.newSeat hnew hsame.sessions
  | ck_seat_add_session seat x =>
    have hquiet := (State.call_same rfl hr).2
    cases hr
    refine MembersValid.append ?_ hquiet
    cases seat with
    | some d => exact h.attach
    | none => exact h.pop
  | remove_dynamic_seat d =>
    obtain ⟨hsame, hquiet⟩ := State.call_same rfl hr
    cases hr
    refine MembersValid.append ?_ hquiet
    split
    · refine h.pop.mono (m.remove_seat_fewer d) ?_ ?_
      · exact (m.remove_seat_same d).1.sessions
      · exact (m.remove_seat_same d).1.opener
    · exact h.pop
  | remove_session l x caller =>
    cases hr
    exact h.session_removed (hsessions.removing List.mem_cons_self).1
  | destroy_entity l =>
    cases hr
    exact h.destroy_entity hsessions hseats
  | callout => cases hr
  | seat_added | session_opened | maybe_update_active_session | update_active_vt
    | queue_processed | seat_removed => exact hidle rfl

/-- **Step lemma**: a step that meets the condition keeps the invariant. -/
theorem step {c c' : MainLoop} {label : Label} (h : MembersValid c.state c.stack)
    (hsessions : SessionsValid c.state c.stack) (hseats : SeatsValid c.state c.stack)
    (hopen : NoOpeningRemoval c label) (hnext : main_loop.next c label = some c') :
    MembersValid c'.state c'.stack := by
  obtain ⟨m, stack⟩ := c
  cases main_loop_step hnext with
  | @dispatch event r hloop hr =>
    cases event with
    | open_session sender caller cookie started =>
      obtain ⟨-, m', hm', rfl⟩ := State.dispatch_open_session hr
      obtain ⟨hsession, -, hsessions', -⟩ := State.create_session_heaps hm'
      exact h.mono (State.create_session_fewer hm') hsessions' fun x => by rw [hsession]
    | job_completed l result =>
      obtain ⟨hjob, hr⟩ := State.dispatch_job_completed hr
      exact h.job_completed hsessions hseats hjob hr
    | close_session caller cookie =>
      cases hr
      exact h.dbus_close_session hsessions hseats fun l hl => hopen _ l rfl hl
    | name_owner_notify service_name old_service_name new_service_name =>
      cases hr
      exact h.name_owner_notify hsessions fun l hl => hopen _ l rfl hl
    | process_queue | seat_activate_session | seat_switch_to | session_activate
      | activate_session | activate_session_on_seat | vt_leave =>
      obtain ⟨hsame, hquiet⟩ := State.dispatch_same (by trivial) hr
      exact (h.mono ((State.dispatch_same_seats (by trivial) hr).fewerMembers hsame.next_session
        hsame.id) hsame.sessions hsame.opener).append hquiet
  | @call f rest r hstack hr =>
    obtain rfl : stack = f :: rest := hstack
    exact h.call hsessions hseats hr
  | @callout_done action rest hstack =>
    obtain rfl : stack = .callout action :: rest := hstack
    exact h.pop

end MembersValid

end CkManager
