import ConsoleKit.History.Model

/-! # Ids and frames

    Records name sessions by their ids, so an id must not be given out twice.
    `IdsValid` says whose id each session has, in a state that is reached
    under this condition, whatever is removed twice or while it is opened.

    This module provides:
    - `IdsValid` and how each handler keeps it,
    - `Call.Inert`: calls that neither bring nor take a session,
    - `call_inert`, `dispatch_inert`: which calls the handlers leave.
-/

namespace History

open CkManager Log Libc

/-! ## Section 1: Ids -/

structure IdsValid (m : State) (stack : List Call) : Prop where
  registered : ∀ {cookie l}, m.leaders.lookup cookie = some l → l < m.next_leader
  claims : ∀ {l}, l ∈ claims stack → l < m.next_leader
  job : ∀ {l}, (m.leader l).job = true → l < m.next_leader
  distinct : ∀ {l l'}, l < m.next_leader → l' < m.next_leader →
    (m.leader l).session_id = (m.leader l').session_id → l = l'
  opener : ∀ {x}, x < m.next_session → (m.session x).leader < m.next_leader ∧
    (m.session x).id = (m.leader (m.session x).leader).session_id ∧
    (m.leader (m.session x).leader).job = false
  table : ∀ {k x}, m.sessions.lookup k = some x → x < m.next_session ∧ (m.session x).id = k

namespace IdsValid

variable {m m' : State} {stack stack' : List Call}

theorem congr (h : IdsValid m stack) (hsame : SameSessions m m')
    (hclaims : ∀ {l}, l ∈ CkManager.claims stack' → l ∈ CkManager.claims stack) :
    IdsValid m' stack' := by
  constructor
  case registered =>
    intro cookie l hl
    rw [hsame.leaders] at hl
    rw [hsame.next_leader]
    exact h.registered hl
  case claims =>
    intro l hl
    rw [hsame.next_leader]
    exact h.claims (hclaims hl)
  case job =>
    intro l hl
    rw [hsame.leader] at hl
    rw [hsame.next_leader]
    exact h.job hl
  case distinct =>
    rw [hsame.next_leader, hsame.leader]
    exact h.distinct
  case opener =>
    intro x hx
    rw [hsame.next_session] at hx
    rw [hsame.opener, hsame.id, hsame.leader, hsame.next_leader]
    exact h.opener hx
  case table =>
    intro k x hx
    rw [hsame.sessions] at hx
    rw [hsame.next_session, hsame.id]
    exact h.table hx

/-- Calls of registered leaders can be put on the stack. -/
theorem append (h : IdsValid m stack) {calls : List Call}
    (hcalls : ∀ {l}, l ∈ CkManager.claims calls → l < m.next_leader) :
    IdsValid m (calls ++ stack) := by
  refine ⟨h.registered, fun {l} hl => ?_, h.job, h.distinct, h.opener, h.table⟩
  rw [CkManager.claims, List.flatMap_append] at hl
  exact (List.mem_append.mp hl).elim hcalls h.claims

theorem quiet (h : IdsValid m stack) (hsame : SameSessions m m') {calls : List Call}
    (hcalls : ∀ f ∈ calls, f.Quiet) : IdsValid m' (calls ++ stack) := by
  refine h.congr hsame fun {l} hl => ?_
  rwa [(quiet_append hcalls stack).1] at hl

theorem pop {f : Call} (h : IdsValid m (f :: stack)) : IdsValid m stack :=
  h.congr (.refl m) fun hl => List.mem_append_right _ hl

/-- A new leader gets an id that no other one has had. -/
theorem created (h : IdsValid m stack) {sender cookie : CString} {caller : Option (Nat × Nat)}
    {started : Bool}
    (hm : m.create_session_for_sender sender caller cookie started = some m')
    (hfresh : ∀ c r, caller = some c → m.generate_session_id = some r →
      ∀ l < m.next_leader, (m.leader l).session_id ≠ r.1) : IdsValid m' stack := by
  cases caller with
  | none =>
    cases hm
    exact h
  | some c =>
    obtain ⟨⟨ssid, m₁⟩, hid, rfl⟩ := Option.map_eq_some_iff.mp hm
    have hnew := hfresh c _ rfl hid
    obtain ⟨-, serial, rfl⟩ := State.generate_session_id_free hid
    have hother : ∀ {l}, l < m.next_leader → ∀ leader : CkSessionLeader,
        Function.update m.leader m.next_leader leader l = m.leader l :=
      fun hl _ => Function.update_of_ne (Nat.ne_of_lt hl) ..
    constructor
    case registered =>
      intro cookie' l hl
      rcases HashTable.lookup_insert_iff.mp hl with ⟨-, rfl⟩ | ⟨-, hl⟩
      · exact Nat.lt_succ_self _
      · exact Nat.lt_succ_of_lt (h.registered hl)
    case claims => exact fun hl => Nat.lt_succ_of_lt (h.claims hl)
    case job =>
      intro l hl
      by_cases heq : l = m.next_leader
      · exact heq ▸ Nat.lt_succ_self _
      · exact Nat.lt_succ_of_lt (h.job (by simpa [heq] using hl))
    case distinct =>
      intro l l' hl hl' heq
      dsimp only at heq
      rcases Nat.lt_succ_iff_lt_or_eq.mp hl with hl | rfl <;>
      rcases Nat.lt_succ_iff_lt_or_eq.mp hl' with hl' | rfl
      · rw [hother hl, hother hl'] at heq
        exact h.distinct hl hl' heq
      · rw [hother hl, Function.update_self] at heq
        exact absurd heq (hnew l hl)
      · rw [hother hl', Function.update_self] at heq
        exact absurd heq.symm (hnew l' hl')
      · rfl
    case opener =>
      intro x hx
      obtain ⟨hlt, hrest⟩ := h.opener hx
      dsimp only
      rw [hother hlt]
      exact ⟨Nat.lt_succ_of_lt hlt, hrest⟩
    case table => exact h.table

/-- The collector of a leader has ended. -/
theorem ended (h : IdsValid m stack) (l : LeaderRef) :
    IdsValid (m.setLeader l { m.leader l with job := false }) stack := by
  have hleader : ∀ l', (m.setLeader l { m.leader l with job := false }).leader l' =
      { m.leader l' with job := decide (l' ≠ l) && (m.leader l').job } := m.cancel_leader l
  constructor
  case registered => exact h.registered
  case claims => exact h.claims
  case job =>
    intro l' hl'
    rw [hleader] at hl'
    exact h.job (Bool.and_eq_true_iff.mp hl').2
  case distinct =>
    intro l₁ l₂ hl₁ hl₂ heq
    rw [hleader, hleader] at heq
    exact h.distinct hl₁ hl₂ heq
  case opener =>
    intro x hx
    obtain ⟨hlt, hid, hjob⟩ := h.opener hx
    rw [hleader]
    refine ⟨hlt, hid, ?_⟩
    dsimp only
    rw [show (m.leader ((m.setLeader l _).session x).leader).job = false from hjob,
      Bool.and_false]
  case table => exact h.table

/-- The id of a leader whose collector is running is not that of a session. -/
theorem unused (h : IdsValid m stack) {l : LeaderRef} (hjob : (m.leader l).job = true)
    {x : SessionRef} (hx : x < m.next_session) : (m.session x).id ≠ (m.leader l).session_id := by
  intro heq
  obtain ⟨hlt, hid, hended⟩ := h.opener hx
  rw [hid] at heq
  rw [h.distinct hlt (h.job hjob) heq, hjob] at hended
  cases hended

/-- A session is opened for a leader whose collector has exited. -/
theorem opened (h : IdsValid m stack) {l : LeaderRef} (hjob : (m.leader l).job = true)
    (o : Opening) : IdsValid (m.insertOpened l o) stack := by
  have hended := h.ended l
  have hnew : ((m.insertOpened l o).session m.next_session) =
      (m.setLeader l { m.leader l with job := false }).ck_session_new_with_parameters l o :=
    Function.update_self ..
  have hother : ∀ {x}, x < m.next_session → (m.insertOpened l o).session x = m.session x :=
    fun hx => Function.update_of_ne (Nat.ne_of_lt hx) ..
  have hself : (m.setLeader l { m.leader l with job := false }).leader l =
      { m.leader l with job := false } := Function.update_self ..
  constructor
  case registered => exact hended.registered
  case claims => exact hended.claims
  case job => exact hended.job
  case distinct => exact hended.distinct
  case opener =>
    intro x hx
    rcases Nat.lt_succ_iff_lt_or_eq.mp hx with hx | rfl
    · rw [hother hx]
      exact hended.opener hx
    · rw [hnew]
      exact ⟨h.job hjob, rfl, congrArg CkSessionLeader.job hself⟩
  case table =>
    intro k x hx
    rcases HashTable.lookup_insert_iff.mp hx with ⟨rfl, rfl⟩ | ⟨-, hx⟩
    · rw [hnew]
      exact ⟨Nat.lt_succ_self _, rfl⟩
    · obtain ⟨hlt, hid⟩ := h.table hx
      rw [hother hlt]
      exact ⟨Nat.lt_succ_of_lt hlt, hid⟩

theorem keep (h : IdsValid m stack) (p : CString → LeaderRef → Bool) (gone : List CString) :
    IdsValid { m with leaders := m.leaders.keep p, gone := gone } stack :=
  ⟨fun hl => h.registered (HashTable.lookup_keep.mp hl).1, h.claims, h.job, h.distinct,
    h.opener, h.table⟩

/-- A session leaves the table, and its leader too or its collector ends. -/
theorem removed (h : IdsValid m stack) (l : LeaderRef) (x : SessionRef)
    (caller : RemovalCaller) : IdsValid (m.session_removed l x caller) stack := by
  have htable : ∀ {k y}, (m.sessions.erase (m.leader l).session_id).lookup k = some y →
      y < m.next_session ∧ (m.session y).id = k :=
    fun hy => h.table (HashTable.lookup_erase_iff.mp hy).2
  cases caller with
  | dbus_close_session =>
    exact ⟨fun hl => h.registered (HashTable.lookup_erase_iff.mp hl).2, h.claims, h.job,
      h.distinct, h.opener, htable⟩
  | destroy_entity =>
    have hended := h.ended l
    exact ⟨hended.registered, hended.claims, hended.job, hended.distinct, hended.opener, htable⟩

end IdsValid

/-! ## Section 2: Calls that bring or take no session -/

/-- The call attaches no session and removes none, and no record of a session
    is written after it. -/
def Inert : Call → Prop
  | .remove_session .. | .ck_seat_add_session .. => False
  | .callout .session_added | .callout .session_removed => False
  | _ => True

section
variable {m : State}

theorem inert_append {calls calls' : List Call} (h : ∀ f ∈ calls, Inert f)
    (h' : ∀ f ∈ calls', Inert f) : ∀ f ∈ calls ++ calls', Inert f := by
  intro f hf
  exact (List.mem_append.mp hf).elim (h f) (h' f)

theorem inert_nil : ∀ f ∈ ([] : List Call), Inert f := by
  intro f hf
  cases hf

theorem emit_inert (m : State) (d : SeatRef) {action : Callout}
    (haction : Inert (.callout action)) : ∀ f ∈ m.emit d action, Inert f := by
  unfold State.emit
  split
  · intro f hf
    obtain rfl := List.mem_singleton.mp hf
    exact haction
  · exact inert_nil

theorem change_active_session_inert (m : State) (d : SeatRef) (session : Option SessionRef) :
    ∀ f ∈ (m.change_active_session d session).2, Inert f := by
  unfold State.change_active_session
  split
  · exact inert_nil
  · exact emit_inert _ d trivial

theorem registerSeat_inert (m : State) (d : SeatRef) (registers : Bool) :
    ∀ f ∈ (m.registerSeat d registers).2.2, Inert f := by
  unfold State.registerSeat
  split
  · intro f hf
    simp only [List.mem_cons, List.not_mem_nil, or_false] at hf
    rcases hf with rfl | rfl <;> trivial
  · exact inert_nil

theorem add_new_seat_inert {kind : CkSeatKind} {registers : Bool}
    {r : Option SeatRef × State × List Call} (h : m.add_new_seat kind registers = some r) :
    ∀ f ∈ r.2.2, Inert f := by
  obtain ⟨⟨sid, m₁⟩, -, rfl⟩ := Option.map_eq_some_iff.mp h
  exact registerSeat_inert _ _ registers

/-- The calls that are left of a call are inert, unless it attaches a session
    or removes one. -/
theorem call_inert {f : Call} {r : State × List Call} (hf : f.claims = []) (hf' : f.opening = [])
    (h : m.call f = some r) : ∀ g ∈ r.2, Inert g := by
  cases f with
  | callout => cases h
  | remove_session | destroy_entity => cases hf
  | ck_seat_add_session => cases hf'
  | seat_added | session_opened | queue_processed | seat_removed =>
    cases h
    exact inert_nil
  | load_seats_from_dir files =>
    cases files with
    | nil =>
      cases h
      exact inert_nil
    | cons file files =>
      obtain ⟨r, hr, rfl⟩ := Option.map_eq_some_iff.mp h
      refine inert_append ?_ fun g hg => ?_
      · obtain ⟨⟨sid, m₁⟩, -, rfl⟩ := Option.map_eq_some_iff.mp hr
        dsimp only
        split
        · exact registerSeat_inert _ _ file.registers
        · exact inert_nil
      · obtain rfl := List.mem_singleton.mp hg
        trivial
  | maybe_update_active_session d =>
    cases h
    unfold State.maybe_update_active_session
    split
    · exact inert_nil
    · split
      · exact change_active_session_inert m d _
      · exact inert_nil
  | update_active_vt d num =>
    cases h
    exact change_active_session_inert m d _
  | remove_dynamic_seat d =>
    cases h
    split
    · unfold State.remove_seat
      split
      · exact inert_nil
      · intro g hg
        simp only [List.mem_cons, List.not_mem_nil, or_false] at hg
        rcases hg with rfl | rfl <;> trivial
    · exact inert_nil

theorem dispatch_inert {event : Event} {r : State × List Call} (hevent : event.Quiet)
    (h : m.dispatch event = some r) : ∀ f ∈ r.2, Inert f := by
  cases event with
  | open_session | job_completed | close_session | name_owner_notify => cases hevent
  | process_queue num =>
    obtain rfl := State.dispatch_process_queue h
    unfold State.process_queue
    split
    · refine inert_append (fun f hf => ?_) fun f hf => ?_
      · obtain ⟨d, -, rfl⟩ := List.mem_map.mp hf
        trivial
      · obtain rfl := List.mem_singleton.mp hf
        trivial
    · exact inert_nil
  | seat_activate_session | seat_switch_to | session_activate | activate_session
    | activate_session_on_seat | vt_leave =>
    cases h
    exact inert_nil

end

end History
