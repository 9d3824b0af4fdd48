import ConsoleKit.Manager.Stack

/-! # Sessions and their leaders

    A session is removed for its leader, when the leader closes it or its
    connection is lost.  Programs run in the middle of a removal, so a
    second one can start before the first has taken the session out of the
    table.

    This module provides:
    - `NoSecondRemoval`, `FreshId`: the conditions on the steps,
    - `SessionsValid`: which leader a session of the table belongs to, and
      that no two calls on the stack remove the same one,
    - `session_removed_once`: every session is removed once.
-/

namespace CkManager

open Libc

/-! ## Section 1: Conditions on the steps -/

/-- The leaders for which an event starts a removal. -/
def Event.Requests (m : State) (l : LeaderRef) : Event → Prop
  | .close_session (some (uid, pid)) cookie =>
      m.paranoia_check_is_cookie_owner cookie uid pid = some l
  | .name_owner_notify _ old_service_name new_service_name =>
      new_service_name = [] ∧ Registered m l ∧ (m.leader l).service_name = old_service_name
  | _ => False

/-- No removal is requested for a leader while a removal for it is running. -/
def NoSecondRemoval (c : MainLoop) (label : Label) : Prop :=
  ∀ event l, label = .dispatch event → event.Requests c.state l → l ∉ claims c.stack

/-- The leader may still open or remove a session. -/
def Live (m : State) (stack : List Call) (l : LeaderRef) : Prop :=
  Registered m l ∨ (m.leader l).job = true ∨ l ∈ claims stack

/-- A leader does not get the session id of another one. -/
def FreshId (c : MainLoop) (label : Label) : Prop :=
  ∀ sender caller cookie started r,
    label = .dispatch (.open_session sender (some caller) cookie started) →
    c.state.generate_session_id = some r →
    ∀ l, Live c.state c.stack l → (c.state.leader l).session_id ≠ r.1

/-! ## Section 2: The invariant -/

/-- How often the removal of a session was announced, its reference and its
    key in the table were released, and success was reported. -/
structure RemovedTimes (m : State) (x : SessionRef) (n : Nat) : Prop where
  signals : m.signals.count (.SessionRemoved x) = n
  unreffed : m.unreffed.count x = n
  key_freed : m.key_freed.count x = n
  succeeded : m.succeeded.count x = n

/-- What holds of the tables and the stack between two steps. -/
structure SessionsValid (m : State) (stack : List Call) : Prop where
  table : ∀ {k x}, m.sessions.lookup k = some x → x < m.next_session ∧ (m.session x).id = k
  opener : ∀ {x}, x < m.next_session → (m.session x).leader < m.next_leader ∧
    (m.session x).id = (m.leader (m.session x).leader).session_id
  registered : ∀ {k l}, m.leaders.lookup k = some l →
    l < m.next_leader ∧ (m.leader l).cookie = k
  job : ∀ {l}, (m.leader l).job = true → l < m.next_leader ∧
    m.sessions.lookup (m.leader l).session_id = none ∧ (Registered m l ∨ l ∈ destroying stack)
  claims_lt : ∀ {l}, l ∈ claims stack → l < m.next_leader
  claims_nodup : (claims stack).Nodup
  removing : ∀ {l x caller}, .remove_session l x caller ∈ stack →
    m.sessions.lookup (m.leader l).session_id = some x ∧ (m.session x).leader = l ∧
    (caller = .dbus_close_session → Registered m l)
  owned : ∀ {k x}, m.sessions.lookup k = some x →
    Registered m (m.session x).leader ∨ (m.session x).leader ∈ claims stack
  distinct : ∀ {l l'}, Live m stack l → Live m stack l' →
    (m.leader l).session_id = (m.leader l').session_id → l = l'
  record : ∀ x, RemovedTimes m x (if x < m.next_session ∧ x ∉ m.sessions.values then 1 else 0)

namespace SessionsValid

variable {m m' : State} {stack stack' : List Call}

theorem live_lt (h : SessionsValid m stack) {l : LeaderRef} (hl : Live m stack l) :
    l < m.next_leader := by
  rcases hl with ⟨_, hl⟩ | hl | hl
  · exact (h.registered hl).1
  · exact (h.job hl).1
  · exact h.claims_lt hl

/-- The session in the table under the id of a leader is the leader's own. -/
theorem opener_eq (h : SessionsValid m stack) {l : LeaderRef} (hl : Live m stack l)
    {x : SessionRef} (hx : m.sessions.lookup (m.leader l).session_id = some x) :
    (m.session x).leader = l := by
  obtain ⟨hlt, hid⟩ := h.table hx
  have hlive : Live m stack (m.session x).leader := by
    rcases h.owned hx with howned | howned
    · exact .inl howned
    · exact .inr (.inr howned)
  refine h.distinct hlive hl ?_
  rw [← (h.opener hlt).2, hid]

/-- A leader whose session is in the table has no collector running. -/
theorem job_false (h : SessionsValid m stack) {l : LeaderRef} {x : SessionRef}
    (hx : m.sessions.lookup (m.leader l).session_id = some x) : (m.leader l).job = false := by
  rw [Bool.eq_false_iff]
  intro hjob
  rw [(h.job hjob).2.1] at hx
  cases hx

/-- Steps that leave the tables and the removals on the stack alone. -/
theorem congr (h : SessionsValid m stack) (hsame : SameSessions m m')
    (hclaims : claims stack' = claims stack) (hdestroying : destroying stack' = destroying stack)
    (hremoving : ∀ {l x caller}, .remove_session l x caller ∈ stack' →
      .remove_session l x caller ∈ stack) : SessionsValid m' stack' := by
  have hreg : ∀ l, Registered m' l ↔ Registered m l := by
    intro l
    rw [Registered, Registered, hsame.leaders]
  have hlive : ∀ {l}, Live m' stack' l → Live m stack l := by
    intro l hl
    rw [Live, hreg, hsame.leader, hclaims] at hl
    exact hl
  constructor
  case table =>
    intro k x hx
    rw [hsame.sessions] at hx
    rw [hsame.next_session, hsame.id]
    exact h.table hx
  case opener =>
    intro x hx
    rw [hsame.next_session] at hx
    rw [hsame.opener, hsame.id, hsame.leader, hsame.next_leader]
    exact h.opener hx
  case registered =>
    intro k l hl
    rw [hsame.leaders] at hl
    rw [hsame.leader, hsame.next_leader]
    exact h.registered hl
  case job =>
    intro l hl
    rw [hsame.leader] at hl
    rw [hsame.leader, hsame.next_leader, hsame.sessions, hreg, hdestroying]
    exact h.job hl
  case claims_lt =>
    intro l hl
    rw [hclaims] at hl
    rw [hsame.next_leader]
    exact h.claims_lt hl
  case claims_nodup =>
    rw [hclaims]
    exact h.claims_nodup
  case removing =>
    intro l x caller hx
    rw [hsame.leader, hsame.sessions, hsame.opener, hreg]
    exact h.removing (hremoving hx)
  case owned =>
    intro k x hx
    rw [hsame.sessions] at hx
    rw [hsame.opener, hreg, hclaims]
    exact h.owned hx
  case distinct =>
    intro l l' hl hl' heq
    rw [hsame.leader] at heq
    exact h.distinct (hlive hl) (hlive hl') heq
  case record =>
    intro x
    have hrecord := h.record x
    rw [hsame.next_session, hsame.sessions]
    exact ⟨(hsame.removed x).trans hrecord.signals, hsame.unreffed ▸ hrecord.unreffed,
      hsame.key_freed ▸ hrecord.key_freed, hsame.succeeded ▸ hrecord.succeeded⟩

/-! ### The stack -/

/-- Calls that remove no session can be put on the stack. -/
theorem append (h : SessionsValid m stack) {calls : List Call}
    (hcalls : ∀ f ∈ calls, f.claims = []) : SessionsValid m (calls ++ stack) := by
  have hdestroying : ∀ f ∈ calls, f.destroying = [] := by
    intro f hf
    have hclaims := hcalls f hf
    cases f <;> first | rfl | cases hclaims
  refine h.congr (.refl m) ?_ ?_ ?_
  · rw [claims, List.flatMap_append, List.flatMap_eq_nil_iff.mpr hcalls]
    rfl
  · rw [destroying, List.flatMap_append, List.flatMap_eq_nil_iff.mpr hdestroying]
    rfl
  · intro l x caller hx
    rcases List.mem_append.mp hx with hx | hx
    · cases hcalls _ hx
    · exact hx

/-- A call that removes no session can be taken off the stack. -/
theorem pop {f : Call} {rest : List Call} (h : SessionsValid m (f :: rest))
    (hf : f.claims = []) : SessionsValid m rest := by
  refine h.congr (.refl m) ?_ ?_ fun hx => List.mem_cons_of_mem f hx
  · show _ = f.claims ++ claims rest
    rw [hf]
    rfl
  · have hdestroying : f.destroying = [] := by cases f <;> first | rfl | cases hf
    show _ = f.destroying ++ destroying rest
    rw [hdestroying]
    rfl

theorem quiet (h : SessionsValid m stack) (hsame : SameSessions m m') {calls : List Call}
    (hcalls : ∀ f ∈ calls, f.Quiet) : SessionsValid m' (calls ++ stack) :=
  (h.congr hsame rfl rfl id).append fun f hf => (hcalls f hf).1

/-- A registered leader is claimed for its removal. -/
theorem claim (h : SessionsValid m stack) {l : LeaderRef} (hl : Registered m l)
    (hfree : l ∉ claims stack) : SessionsValid m (.destroy_entity l :: stack) := by
  have hlive : ∀ {l'}, Live m (.destroy_entity l :: stack) l' → Live m stack l' := by
    rintro l' (hl' | hl' | hl')
    · exact .inl hl'
    · exact .inr (.inl hl')
    · rcases List.mem_cons.mp hl' with rfl | hl'
      · exact .inl hl
      · exact .inr (.inr hl')
  constructor
  case table => exact h.table
  case opener => exact h.opener
  case registered => exact h.registered
  case job =>
    intro l' hl'
    obtain ⟨hlt, hnone, hwho⟩ := h.job hl'
    exact ⟨hlt, hnone, hwho.imp_right fun hd => List.mem_cons_of_mem l hd⟩
  case claims_lt =>
    intro l' hl'
    rcases List.mem_cons.mp hl' with rfl | hl'
    · exact h.live_lt (.inl hl)
    · exact h.claims_lt hl'
  case claims_nodup => exact List.nodup_cons.mpr ⟨hfree, h.claims_nodup⟩
  case removing =>
    intro l' x caller hx
    rcases List.mem_cons.mp hx with hx | hx
    · cases hx
    · exact h.removing hx
  case owned =>
    intro k x hx
    exact (h.owned hx).imp_right fun hc => List.mem_cons_of_mem l hc
  case distinct =>
    intro l₁ l₂ hl₁ hl₂
    exact h.distinct (hlive hl₁) (hlive hl₂)
  case record => exact h.record

/-- The removal of the session of a claimed leader starts. -/
theorem start {l : LeaderRef} {rest : List Call}
    (h : SessionsValid m (.destroy_entity l :: rest)) {x : SessionRef} {caller : RemovalCaller}
    (hx : m.sessions.lookup (m.leader l).session_id = some x)
    (hcaller : caller = .dbus_close_session → Registered m l) :
    SessionsValid m (.remove_session l x caller :: rest) := by
  constructor
  case table => exact h.table
  case opener => exact h.opener
  case registered => exact h.registered
  case job =>
    intro l' hl'
    obtain ⟨hlt, hnone, hwho⟩ := h.job hl'
    refine ⟨hlt, hnone, hwho.imp_right fun hd => ?_⟩
    rcases List.mem_cons.mp hd with rfl | hd
    · rw [hx] at hnone
      cases hnone
    · exact hd
  case claims_lt => exact h.claims_lt
  case claims_nodup => exact h.claims_nodup
  case removing =>
    intro l' y caller' hy
    rcases List.mem_cons.mp hy with hy | hy
    · cases hy
      exact ⟨hx, h.opener_eq (.inr (.inr List.mem_cons_self)) hx, hcaller⟩
    · exact h.removing (List.mem_cons_of_mem _ hy)
  case owned => exact h.owned
  case distinct => exact h.distinct
  case record => exact h.record

/-! ### The leaders -/

/-- Registered leaders have distinct cookies. -/
theorem cookie_inj (h : SessionsValid m stack) {l l' : LeaderRef} (hl : Registered m l)
    (hl' : Registered m l') (heq : (m.leader l).cookie = (m.leader l').cookie) : l = l' := by
  obtain ⟨k, hk⟩ := hl
  obtain ⟨k', hk'⟩ := hl'
  rw [(h.registered hk).2, (h.registered hk').2] at heq
  subst heq
  rw [hk] at hk'
  exact Option.some.inj hk'

/-- The collector of a leader is cancelled, or has ended. -/
theorem cancel (h : SessionsValid m stack) (l : LeaderRef) :
    SessionsValid (m.ck_session_leader_cancel l) stack := by
  have hjob : ∀ {l'}, ((m.ck_session_leader_cancel l).leader l').job = true →
      (m.leader l').job = true := by
    intro l' hl'
    rw [State.cancel_leader] at hl'
    exact (Bool.and_eq_true_iff.mp hl').2
  have hlive : ∀ {l'}, Live (m.ck_session_leader_cancel l) stack l' → Live m stack l' :=
    fun hl' => hl'.imp_right fun hl' => hl'.imp_left hjob
  constructor
  case table => exact h.table
  case opener =>
    intro x hx
    rw [State.cancel_leader]
    exact h.opener hx
  case registered =>
    intro k l' hl'
    rw [State.cancel_leader]
    exact h.registered hl'
  case job =>
    intro l' hl'
    rw [State.cancel_leader]
    exact h.job (hjob hl')
  case claims_lt => exact h.claims_lt
  case claims_nodup => exact h.claims_nodup
  case removing =>
    intro l' x caller hx
    rw [State.cancel_leader]
    exact h.removing hx
  case owned => exact h.owned
  case distinct =>
    intro l₁ l₂ hl₁ hl₂ heq
    rw [State.cancel_leader, State.cancel_leader] at heq
    exact h.distinct (hlive hl₁) (hlive hl₂) heq
  case record =>
    intro x
    have hrecord := h.record x
    exact ⟨hrecord.signals, hrecord.unreffed, hrecord.key_freed, hrecord.succeeded⟩

/-- Claimed leaders, whose removal has not started, are taken out of the table. -/
theorem steal (h : SessionsValid m stack) (p : CString → LeaderRef → Bool)
    (hclaimed : ∀ {k l}, m.leaders.lookup k = some l → p k l = true → l ∈ destroying stack)
    (hrunning : ∀ {l x caller}, .remove_session l x caller ∈ stack → ∀ k,
      m.leaders.lookup k = some l → p k l = false) (gone : List CString) :
    SessionsValid { m with leaders := m.leaders.keep p, gone := gone } stack := by
  have hlive : ∀ {l}, Live { m with leaders := m.leaders.keep p, gone := gone } stack l →
      Live m stack l := by
    rintro l (⟨k, hl⟩ | hl)
    · exact .inl ⟨k, (HashTable.lookup_keep.mp hl).1⟩
    · exact .inr hl
  -- a leader is kept, or its removal has been claimed
  have hsplit : ∀ {l}, Registered m l →
      Registered { m with leaders := m.leaders.keep p, gone := gone } l ∨
        l ∈ destroying stack := by
    rintro l ⟨k, hl⟩
    cases hp : p k l with
    | false => exact .inl ⟨k, HashTable.lookup_keep.mpr ⟨hl, hp⟩⟩
    | true => exact .inr (hclaimed hl hp)
  constructor
  case table => exact h.table
  case opener => exact h.opener
  case registered =>
    intro k l hl
    exact h.registered (HashTable.lookup_keep.mp hl).1
  case job =>
    intro l hl
    obtain ⟨hlt, hnone, hwho⟩ := h.job hl
    exact ⟨hlt, hnone, hwho.elim hsplit .inr⟩
  case claims_lt => exact h.claims_lt
  case claims_nodup => exact h.claims_nodup
  case removing =>
    intro l x caller hx
    obtain ⟨hlookup, hopener, hcaller⟩ := h.removing hx
    refine ⟨hlookup, hopener, fun hc => ?_⟩
    obtain ⟨k, hk⟩ := hcaller hc
    exact ⟨k, HashTable.lookup_keep.mpr ⟨hk, hrunning hx k hk⟩⟩
  case owned =>
    intro k x hx
    rcases h.owned hx with howned | howned
    · exact (hsplit howned).imp_right mem_claims_of_destroying
    · exact .inr howned
  case distinct =>
    intro l l' hl hl' heq
    exact h.distinct (hlive hl) (hlive hl') heq
  case record =>
    intro x
    have hrecord := h.record x
    exact ⟨hrecord.signals, hrecord.unreffed, hrecord.key_freed, hrecord.succeeded⟩

/-- A leader is stored that has an id of its own. -/
theorem store (h : SessionsValid m stack) {cookie : CString} (hcookie : cookie ∉ m.leaders)
    {leader : CkSessionLeader} (hleader : leader.cookie = cookie)
    (hfree : m.sessions.lookup leader.session_id = none)
    (hfresh : ∀ l, Live m stack l → (m.leader l).session_id ≠ leader.session_id)
    (serial : Nat) :
    SessionsValid { m with
      leader := Function.update m.leader m.next_leader leader
      next_leader := m.next_leader + 1
      leaders := m.leaders.insert cookie m.next_leader
      session_serial := serial } stack := by
  have hkeep : ∀ {l}, l < m.next_leader →
      Function.update m.leader m.next_leader leader l = m.leader l :=
    fun hl => Function.update_of_ne (Nat.ne_of_lt hl) _ _
  have hnew : Function.update m.leader m.next_leader leader m.next_leader = leader :=
    Function.update_self ..
  have hmono : ∀ {k l}, m.leaders.lookup k = some l →
      (m.leaders.insert cookie m.next_leader).lookup k = some l := by
    intro k l hl
    refine HashTable.lookup_insert_iff.mpr (.inr ⟨?_, hl⟩)
    rintro rfl
    exact hcookie (AList.lookup_isSome.mp (by rw [hl]; rfl))
  -- who lives now is the new leader or lived before
  have hlive : ∀ {l}, Live { m with
      leader := Function.update m.leader m.next_leader leader
      next_leader := m.next_leader + 1
      leaders := m.leaders.insert cookie m.next_leader
      session_serial := serial } stack l → l = m.next_leader ∨ Live m stack l := by
    intro l hl
    by_cases heq : l = m.next_leader
    · exact .inl heq
    · refine .inr ?_
      rcases hl with ⟨k, hl⟩ | hl | hl
      · rcases HashTable.lookup_insert_iff.mp hl with ⟨-, hl⟩ | ⟨-, hl⟩
        · exact absurd hl heq
        · exact .inl ⟨k, hl⟩
      · change (Function.update m.leader m.next_leader leader l).job = true at hl
        rw [Function.update_of_ne heq] at hl
        exact .inr (.inl hl)
      · exact .inr (.inr hl)
  constructor
  case table => exact h.table
  case opener =>
    intro x hx
    obtain ⟨hlt, hid⟩ := h.opener hx
    refine ⟨Nat.lt_succ_of_lt hlt, ?_⟩
    show _ = (Function.update m.leader m.next_leader leader _).session_id
    rw [hkeep hlt]
    exact hid
  case registered =>
    intro k l hl
    show l < m.next_leader + 1 ∧
      (Function.update m.leader m.next_leader leader l).cookie = k
    rcases HashTable.lookup_insert_iff.mp hl with ⟨rfl, rfl⟩ | ⟨-, hl⟩
    · rw [hnew]
      exact ⟨Nat.lt_succ_self _, hleader⟩
    · rw [hkeep (h.registered hl).1]
      exact ⟨Nat.lt_succ_of_lt (h.registered hl).1, (h.registered hl).2⟩
  case job =>
    intro l hl
    change (Function.update m.leader m.next_leader leader l).job = true at hl
    show l < m.next_leader + 1 ∧ m.sessions.lookup
      (Function.update m.leader m.next_leader leader l).session_id = none ∧ _
    -- The collector of the new leader may run already.
    by_cases heq : l = m.next_leader
    · subst heq
      rw [hnew]
      exact ⟨Nat.lt_succ_self _, hfree, .inl ⟨cookie, AList.lookup_insert _⟩⟩
    · rw [Function.update_of_ne heq] at hl ⊢
      obtain ⟨hlt, hnone, hwho⟩ := h.job hl
      exact ⟨Nat.lt_succ_of_lt hlt, hnone, hwho.imp_left fun ⟨k, hk⟩ => ⟨k, hmono hk⟩⟩
  case claims_lt =>
    intro l hl
    exact Nat.lt_succ_of_lt (h.claims_lt hl)
  case claims_nodup => exact h.claims_nodup
  case removing =>
    intro l x caller hx
    have hlt : l < m.next_leader := by
      rw [← (h.removing hx).2.1]
      exact (h.opener (h.table (h.removing hx).1).1).1
    show m.sessions.lookup (Function.update m.leader m.next_leader leader l).session_id =
      some x ∧ _
    rw [hkeep hlt]
    exact (h.removing hx).imp_right fun ⟨hopener, hcaller⟩ =>
      ⟨hopener, fun hc => (hcaller hc).imp fun _ hk => hmono hk⟩
  case owned =>
    intro k x hx
    exact (h.owned hx).imp_left fun ⟨k, hk⟩ => ⟨k, hmono hk⟩
  case distinct =>
    intro l l' hl hl' heq
    change (Function.update m.leader m.next_leader leader l).session_id =
      (Function.update m.leader m.next_leader leader l').session_id at heq
    rcases hlive hl with rfl | hlive₁ <;> rcases hlive hl' with rfl | hlive₂
    · rfl
    · rw [hnew, hkeep (h.live_lt hlive₂)] at heq
      exact absurd heq.symm (hfresh l' hlive₂)
    · rw [hnew, hkeep (h.live_lt hlive₁)] at heq
      exact absurd heq (hfresh l hlive₁)
    · rw [hkeep (h.live_lt hlive₁), hkeep (h.live_lt hlive₂)] at heq
      exact h.distinct hlive₁ hlive₂ heq
  case record =>
    intro x
    have hrecord := h.record x
    exact ⟨hrecord.signals, hrecord.unreffed, hrecord.key_freed, hrecord.succeeded⟩

/-! ### The sessions -/

/-- A new session is stored for a leader whose collector has just ended. -/
theorem insertSession (h : SessionsValid m stack) {l : LeaderRef} {s : CkSession}
    (hlive : Registered m l ∨ l ∈ destroying stack) (hjob : (m.leader l).job = false)
    (hs : s.leader = l) (hid : s.id = (m.leader l).session_id)
    (hnone : m.sessions.lookup s.id = none) :
    SessionsValid (m.insertSession m.next_session s) stack := by
  have hl : Live m stack l :=
    hlive.elim .inl fun hl => .inr (.inr (mem_claims_of_destroying hl))
  have hkeep : ∀ {x}, x < m.next_session →
      Function.update m.session m.next_session s x = m.session x :=
    fun hx => Function.update_of_ne (Nat.ne_of_lt hx) _ _
  have hnew : Function.update m.session m.next_session s m.next_session = s :=
    Function.update_self ..
  have hlookup : ∀ {k x}, (m.sessions.insert s.id m.next_session).lookup k = some x ↔
      (k = s.id ∧ x = m.next_session) ∨ (k ≠ s.id ∧ m.sessions.lookup k = some x) :=
    HashTable.lookup_insert_iff
  constructor
  case table =>
    intro k x hx
    show x < m.next_session + 1 ∧ (Function.update m.session m.next_session s x).id = k
    rcases hlookup.mp hx with ⟨rfl, rfl⟩ | ⟨-, hx⟩
    · rw [hnew]
      exact ⟨Nat.lt_succ_self _, rfl⟩
    · rw [hkeep (h.table hx).1]
      exact ⟨Nat.lt_succ_of_lt (h.table hx).1, (h.table hx).2⟩
  case opener =>
    intro x hx
    show (Function.update m.session m.next_session s x).leader < m.next_leader ∧
      (Function.update m.session m.next_session s x).id =
        (m.leader (Function.update m.session m.next_session s x).leader).session_id
    rcases Nat.lt_succ_iff_lt_or_eq.mp hx with hx | rfl
    · rw [hkeep hx]
      exact h.opener hx
    · rw [hnew, hs]
      exact ⟨h.live_lt hl, hid⟩
  case registered => exact h.registered
  case job =>
    intro l' hl'
    obtain ⟨hlt, hnone', hwho⟩ := h.job hl'
    refine ⟨hlt, ?_, hwho⟩
    show (m.sessions.insert s.id m.next_session).lookup (m.leader l').session_id = none
    rw [AList.lookup_insert_ne, hnone']
    intro heq
    -- Two living leaders with this id are one, and its collector has ended.
    have hsame := h.distinct (.inr (.inl hl')) hl (heq.trans hid)
    subst hsame
    exact absurd (hjob.symm.trans hl') Bool.false_ne_true
  case claims_lt => exact h.claims_lt
  case claims_nodup => exact h.claims_nodup
  case removing =>
    intro l' x caller hx
    obtain ⟨hx', hopener, hcaller⟩ := h.removing hx
    refine ⟨hlookup.mpr (.inr ⟨?_, hx'⟩), ?_, hcaller⟩
    · intro heq
      change (m.leader l').session_id = s.id at heq
      rw [heq, hnone] at hx'
      cases hx'
    · show (Function.update m.session m.next_session s x).leader = l'
      rw [hkeep (h.table hx').1]
      exact hopener
  case owned =>
    intro k x hx
    show Registered m (Function.update m.session m.next_session s x).leader ∨
      (Function.update m.session m.next_session s x).leader ∈ claims stack
    rcases hlookup.mp hx with ⟨rfl, rfl⟩ | ⟨-, hx⟩
    · rw [hnew, hs]
      exact hlive.imp_right mem_claims_of_destroying
    · rw [hkeep (h.table hx).1]
      exact h.owned hx
  case distinct => exact h.distinct
  case record =>
    intro x
    have hrecord := h.record x
    have hunreffed : (m.insertSession m.next_session s).unreffed = m.unreffed := by
      show m.unreffed ++ (m.sessions.lookup s.id).toList = m.unreffed
      rw [hnone]
      exact List.append_nil _
    -- The new session is neither gone nor counted.
    have hgone : (x < m.next_session + 1 ∧
        x ∉ HashTable.values (m.sessions.insert s.id m.next_session)) ↔
        (x < m.next_session ∧ x ∉ m.sessions.values) := by
      rw [HashTable.mem_values_insert hnone, Nat.lt_succ_iff_lt_or_eq]
      constructor
      · rintro ⟨hlt | rfl, hnot⟩
        · exact ⟨hlt, fun hx => hnot (.inr hx)⟩
        · exact absurd (.inl rfl) hnot
      · rintro ⟨hlt, hnot⟩
        exact ⟨.inl hlt, fun hx => hx.elim (Nat.ne_of_lt hlt) hnot⟩
    rw [show (if x < (m.insertSession m.next_session s).next_session ∧
      x ∉ (m.insertSession m.next_session s).sessions.values then 1 else 0) =
      if x < m.next_session ∧ x ∉ m.sessions.values then 1 else 0 from if_congr hgone rfl rfl]
    exact ⟨hrecord.signals, hunreffed ▸ hrecord.unreffed, hrecord.key_freed,
      hrecord.succeeded⟩

/-- The removal of a claimed leader finds no session. -/
theorem destroyed (h : SessionsValid m stack) {l : LeaderRef} {rest : List Call}
    (hstack : stack = .destroy_entity l :: rest)
    (hnone : m.sessions.lookup (m.leader l).session_id = none)
    (hjob : (m.leader l).job = false) : SessionsValid m rest := by
  subst hstack
  have hlive : ∀ {l'}, Live m rest l' → Live m (.destroy_entity l :: rest) l' :=
    fun hl' => hl'.imp_right fun hl' => hl'.imp_right fun hl' => List.mem_cons_of_mem _ hl'
  constructor
  case table => exact h.table
  case opener => exact h.opener
  case registered => exact h.registered
  case job =>
    intro l' hl'
    obtain ⟨hlt, hnone', hwho⟩ := h.job hl'
    refine ⟨hlt, hnone', hwho.imp_right fun hd => ?_⟩
    rcases List.mem_cons.mp hd with rfl | hd
    · exact absurd (hjob.symm.trans hl') Bool.false_ne_true
    · exact hd
  case claims_lt => exact fun hl' => h.claims_lt (List.mem_cons_of_mem l hl')
  case claims_nodup => exact (List.nodup_cons.mp h.claims_nodup).2
  case removing => exact fun hx => h.removing (List.mem_cons_of_mem _ hx)
  case owned =>
    intro k x hx
    refine (h.owned hx).imp_right fun hc => ?_
    rcases List.mem_cons.mp hc with heq | hc
    · -- its session would be in the table under the id of the leader
      obtain ⟨hlt, hid⟩ := h.table hx
      rw [← heq, ← (h.opener hlt).2, hid, hx] at hnone
      cases hnone
    · exact hc
  case distinct => exact fun hl₁ hl₂ => h.distinct (hlive hl₁) (hlive hl₂)
  case record => exact h.record

/-- The session of a leader leaves the table. -/
theorem erase {l : LeaderRef} {x : SessionRef} {caller : RemovalCaller} {rest : List Call}
    (h : SessionsValid m (.remove_session l x caller :: rest))
    {leaders : HashTable CString LeaderRef}
    (hleaders : ∀ {k l'}, leaders.lookup k = some l' → m.leaders.lookup k = some l')
    (hothers : ∀ {l'}, Registered m l' → l' ≠ l ∨ caller = .destroy_entity →
      ∃ k, leaders.lookup k = some l') :
    SessionsValid { m with
      sessions := m.sessions.erase (m.leader l).session_id
      signals := m.signals ++ [.SessionRemoved x]
      unreffed := m.unreffed ++ [x]
      key_freed := m.key_freed ++ [x]
      succeeded := m.succeeded ++ [x]
      leaders := leaders } rest := by
  obtain ⟨hx, hopener, hcaller⟩ := h.removing List.mem_cons_self
  obtain ⟨hfree, hnodup⟩ := List.nodup_cons.mp h.claims_nodup
  have hlive : ∀ {l'}, Live { m with
      sessions := m.sessions.erase (m.leader l).session_id
      signals := m.signals ++ [.SessionRemoved x]
      unreffed := m.unreffed ++ [x]
      key_freed := m.key_freed ++ [x]
      succeeded := m.succeeded ++ [x]
      leaders := leaders } rest l' → Live m (.remove_session l x caller :: rest) l' := by
    rintro l' (⟨k, hl'⟩ | hl' | hl')
    · exact .inl ⟨k, hleaders hl'⟩
    · exact .inr (.inl hl')
    · exact .inr (.inr (List.mem_cons_of_mem _ hl'))
  have honly : ∀ k, m.sessions.lookup k = some x → k = (m.leader l).session_id := by
    intro k hk
    rw [← (h.table hk).2, (h.table hx).2]
  constructor
  case table =>
    intro k y hy
    exact h.table (HashTable.lookup_erase_iff.mp hy).2
  case opener => exact h.opener
  case registered =>
    intro k l' hl'
    exact h.registered (hleaders hl')
  case job =>
    intro l' hl'
    obtain ⟨hlt, hnone, hwho⟩ := h.job hl'
    refine ⟨hlt, ?_, hwho.imp_left fun hreg => hothers hreg (.inl ?_)⟩
    · show (m.sessions.erase (m.leader l).session_id).lookup (m.leader l').session_id = none
      by_contra hne
      obtain ⟨y, hy⟩ := Option.ne_none_iff_exists'.mp hne
      rw [(HashTable.lookup_erase_iff.mp hy).2] at hnone
      cases hnone
    · rintro rfl
      exact absurd ((h.job_false hx).symm.trans hl') Bool.false_ne_true
  case claims_lt => exact fun hl' => h.claims_lt (List.mem_cons_of_mem l hl')
  case claims_nodup => exact hnodup
  case removing =>
    intro l' y caller' hy
    obtain ⟨hy', hopener', hcaller'⟩ := h.removing (List.mem_cons_of_mem _ hy)
    have hclaimed : l' ∈ claims rest :=
      List.mem_flatMap.mpr ⟨_, hy, List.mem_singleton.mpr rfl⟩
    -- No other removal claims the leader, and another leader has another id.
    have hne : l' ≠ l := by
      rintro rfl
      exact hfree hclaimed
    refine ⟨HashTable.lookup_erase_iff.mpr ⟨fun heq => hne ?_, hy'⟩, hopener',
      fun hc => hothers (hcaller' hc) (.inl hne)⟩
    exact h.distinct (.inr (.inr (List.mem_cons_of_mem _ hclaimed)))
      (.inr (.inr List.mem_cons_self)) heq
  case owned =>
    intro k y hy
    obtain ⟨hk, hy⟩ := HashTable.lookup_erase_iff.mp hy
    have hne : (m.session y).leader ≠ l := by
      intro heq
      rw [← (h.table hy).2, (h.opener (h.table hy).1).2, heq] at hk
      exact hk rfl
    -- The other sessions keep their leaders, in the table or claimed.
    rcases h.owned hy with howned | howned
    · exact .inl (hothers howned (.inl hne))
    · exact .inr ((List.mem_cons.mp howned).resolve_left hne)
  case distinct => exact fun hl₁ hl₂ => h.distinct (hlive hl₁) (hlive hl₂)
  case record =>
    intro y
    have hrecord := h.record y
    have hvalues : y ∈ HashTable.values (m.sessions.erase (m.leader l).session_id) ↔
        y ≠ x ∧ y ∈ m.sessions.values := HashTable.mem_values_erase hx honly
    by_cases heq : y = x
    · -- its removal is counted from now on
      subst heq
      have hin : y ∈ m.sessions.values := HashTable.mem_values.mpr ⟨_, hx⟩
      have hout : y ∉ HashTable.values (m.sessions.erase (m.leader l).session_id) :=
        fun hy => (hvalues.mp hy).1 rfl
      rw [if_neg fun hy => hy.2 hin] at hrecord
      rw [if_pos ⟨(h.table hx).1, hout⟩]
      constructor <;>
        simp [List.count_append, hrecord.signals, hrecord.unreffed, hrecord.key_freed,
          hrecord.succeeded]
    · rw [if_congr (and_congr_right fun _ => not_congr (hvalues.trans (and_iff_right heq)))
        rfl rfl]
      have hsignal : ManagerSignal.SessionRemoved x ≠ .SessionRemoved y := by
        rintro ⟨⟩
        exact heq rfl
      constructor <;>
        simp [List.count_append, hrecord.signals, hrecord.unreffed, hrecord.key_freed,
          hrecord.succeeded, Ne.symm heq]

/-! ## Section 3: Preservation -/

theorem init (vfd : Bool) (active_num : Nat) (files : List SeatFile) :
    SessionsValid (ck_manager_init vfd active_num) [.load_seats_from_dir files] := by
  have hempty : ∀ {k : CString}, (∅ : HashTable CString Nat).lookup k = none :=
    AList.lookup_empty _
  constructor
  case table =>
    intro k x hx
    exact absurd (hempty.symm.trans hx) (by simp)
  case opener =>
    intro x hx
    cases hx
  case registered =>
    intro k l hl
    exact absurd (hempty.symm.trans hl) (by simp)
  case job =>
    intro l hl
    cases hl
  case claims_lt =>
    intro l hl
    cases hl
  case claims_nodup => exact List.nodup_nil
  case removing =>
    intro l x caller hx
    cases List.mem_singleton.mp hx
  case owned =>
    intro k x hx
    exact absurd (hempty.symm.trans hx) (by simp)
  case distinct =>
    rintro l l' (⟨k, hl⟩ | hl | hl)
    · exact absurd (hempty.symm.trans hl) (by simp)
    · cases hl
    · cases hl
  case record =>
    intro x
    rw [if_neg fun hx => Nat.not_lt_zero x hx.1]
    exact ⟨rfl, rfl, rfl, rfl⟩

theorem session_removed {l : LeaderRef} {x : SessionRef} {caller : RemovalCaller}
    {rest : List Call} (h : SessionsValid m (.remove_session l x caller :: rest)) :
    SessionsValid (m.session_removed l x caller) rest := by
  cases caller with
  | dbus_close_session =>
    refine h.erase (fun hl => (HashTable.lookup_erase_iff.mp hl).2) fun hreg hne => ?_
    obtain ⟨k, hk⟩ := hreg
    refine ⟨k, HashTable.lookup_erase_iff.mpr ⟨fun heq => ?_, hk⟩⟩
    have hne := hne.resolve_right (by simp)
    have hl := (h.removing List.mem_cons_self).2.2 rfl
    exact hne (h.cookie_inj ⟨k, hk⟩ hl ((h.registered hk).2.trans heq))
  | destroy_entity => exact (h.erase (fun hl => hl) fun hreg _ => hreg).cancel l

theorem destroy_entity {l : LeaderRef} {rest : List Call}
    (h : SessionsValid m (.destroy_entity l :: rest)) :
    SessionsValid (m.destroy_entity l).1 ((m.destroy_entity l).2 ++ rest) := by
  rcases m.destroy_entity_cases l with ⟨hnone, heq⟩ | ⟨r, hr, heq⟩
  · rw [heq]
    refine (h.cancel l).destroyed rfl ?_ ?_
    · rw [State.cancel_leader]
      exact hnone
    · simp [State.cancel_leader]
  · rw [heq]
    obtain ⟨x, calls, hx, hsame, hquiet, hcalls⟩ := State.remove_session_for_cookie_spec hr
    rw [hcalls, List.append_assoc]
    exact (h.start hx (by simp)).quiet hsame hquiet

theorem dbus_close_session (h : SessionsValid m stack) {caller : Option (Nat × Nat)}
    {cookie : CString}
    (hfirst : ∀ l, (Event.close_session caller cookie).Requests m l → l ∉ claims stack) :
    SessionsValid (m.dbus_close_session caller cookie).1
      ((m.dbus_close_session caller cookie).2 ++ stack) := by
  rcases m.dbus_close_session_cases caller cookie with
    heq | ⟨uid, pid, l, r, rfl, hl, hr, heq⟩
  · rw [heq]
    exact h
  · rw [heq]
    have hreg : Registered m l := ⟨cookie, State.paranoia_check_registered hl⟩
    obtain ⟨x, calls, hx, hsame, hquiet, hcalls⟩ := State.remove_session_for_cookie_spec hr
    rw [hcalls, List.append_assoc]
    exact ((h.claim hreg (hfirst l hl)).start hx fun _ => hreg).quiet hsame hquiet

/-- Several leaders are claimed at once. -/
theorem claimAll (h : SessionsValid m stack) {ls : List LeaderRef}
    (hregistered : ∀ l ∈ ls, Registered m l) (hnodup : ls.Nodup)
    (hfree : ∀ l ∈ ls, l ∉ claims stack) :
    SessionsValid m (ls.map .destroy_entity ++ stack) := by
  induction ls with
  | nil => exact h
  | cons l ls ih =>
    obtain ⟨hl, hnodup⟩ := List.nodup_cons.mp hnodup
    refine (ih (fun l' hl' => hregistered l' (List.mem_cons_of_mem l hl')) hnodup
      fun l' hl' => hfree l' (List.mem_cons_of_mem l hl')).claim
        (hregistered l List.mem_cons_self) fun hmem => ?_
    rw [claims, List.flatMap_append] at hmem
    rcases List.mem_append.mp hmem with hmem | hmem
    · obtain ⟨f, hf, hl'⟩ := List.mem_flatMap.mp hmem
      obtain ⟨l', hl'', rfl⟩ := List.mem_map.mp hf
      obtain rfl := List.mem_singleton.mp hl'
      exact hl hl''
    · exact hfree l List.mem_cons_self hmem

theorem name_owner_notify (h : SessionsValid m stack)
    {service_name old_service_name new_service_name : CString}
    (hfirst : ∀ l, (Event.name_owner_notify service_name old_service_name
      new_service_name).Requests m l → l ∉ claims stack) :
    SessionsValid (m.on_name_owner_notify service_name old_service_name new_service_name).1
      ((m.on_name_owner_notify service_name old_service_name new_service_name).2 ++ stack) := by
  have hkey : ∀ {k k' l}, m.leaders.lookup k = some l → m.leaders.lookup k' = some l → k = k' :=
    fun hk hk' => (h.registered hk).2.symm.trans (h.registered hk').2
  by_cases hnew : new_service_name = []
  · obtain ⟨gone, ls, hnodup, hls, heq⟩ :=
      m.name_owner_lost hkey service_name old_service_name hnew
    have hclaimed : ∀ l ∈ ls, l ∉ claims stack :=
      fun l hl => hfirst l ⟨hnew, (hls l).mp hl⟩
    rw [heq]
    refine (h.claimAll (fun l hl => ((hls l).mp hl).1) hnodup hclaimed).steal _ ?_ ?_ gone
    · intro k l hk hp
      have hl : l ∈ ls := (hls l).mpr ⟨⟨k, hk⟩, of_decide_eq_true hp⟩
      rw [destroying, List.flatMap_append]
      exact List.mem_append_left _ (List.mem_flatMap.mpr
        ⟨_, List.mem_map_of_mem hl, List.mem_singleton.mpr rfl⟩)
    · intro l x caller hx k hk
      refine decide_eq_false fun hname => ?_
      rcases List.mem_append.mp hx with hx | hx
      · obtain ⟨l', -, hcall⟩ := List.mem_map.mp hx
        cases hcall
      · exact hclaimed l ((hls l).mpr ⟨⟨k, hk⟩, hname⟩)
          (List.mem_flatMap.mpr ⟨_, hx, List.mem_singleton.mpr rfl⟩)
  · unfold State.on_name_owner_notify
    rw [if_neg hnew]
    exact h

theorem open_session (h : SessionsValid m stack) {sender : CString}
    {caller : Option (Nat × Nat)} {cookie : CString} {started : Bool} {m' : State}
    (hfresh : FreshId ⟨m, stack⟩ (.dispatch (.open_session sender caller cookie started)))
    (hcookie : cookie ∉ m.leaders)
    (hm' : m.create_session_for_sender sender caller cookie started = some m') :
    SessionsValid m' stack := by
  cases caller with
  | none =>
    cases hm'
    exact h
  | some c =>
    obtain ⟨⟨ssid, m₁⟩, hid, rfl⟩ := Option.map_eq_some_iff.mp hm'
    have hother := hfresh sender c cookie started _ rfl hid
    obtain ⟨hfree, serial, rfl⟩ := State.generate_session_id_free hid
    exact h.store hcookie rfl hfree hother serial

theorem job_completed (h : SessionsValid m stack) {l : LeaderRef} {result : Option Opening}
    (hjob : (m.leader l).job = true) {r : State × List Call}
    (hr : m.job_completed l result = some r) : SessionsValid r.1 (r.2 ++ stack) := by
  obtain ⟨hlt, hnone, hwho⟩ := h.job hjob
  have hended : SessionsValid (m.setLeader l { m.leader l with job := false }) stack :=
    h.cancel l
  rcases State.job_completed_cases hr with
    rfl | ⟨o, is_local, seat, calls, rfl, -, hsame, hquiet, hcalls, -⟩
  · exact hended
  · have hleader := m.cancel_leader l l
    have hinsert : SessionsValid (m.insertOpened l o) stack := by
      refine hended.insertSession hwho ?_ rfl rfl ?_
      · exact (congrArg CkSessionLeader.job hleader).trans (by simp)
      · show m.sessions.lookup ((m.ck_session_leader_cancel l).leader l).session_id = none
        rw [hleader]
        exact hnone
    refine (hinsert.congr hsame rfl rfl id).append fun f hf => ?_
    rw [hcalls] at hf
    rcases List.mem_append.mp hf with hf | hf
    · exact (hquiet f hf).1
    · rcases List.mem_pair.mp hf with rfl | rfl <;> rfl

/-- **Step lemma**: a step that meets the conditions keeps the invariant. -/
theorem step {c c' : MainLoop} {label : Label} (h : SessionsValid c.state c.stack)
    (hsecond : NoSecondRemoval c label) (hfresh : FreshId c label)
    (hnext : main_loop.next c label = some c') : SessionsValid c'.state c'.stack := by
  obtain ⟨m, stack⟩ := c
  cases main_loop_step hnext with
  | @dispatch event r hloop hr =>
    cases event with
    | open_session sender caller cookie started =>
      obtain ⟨hok, m', hm', rfl⟩ := State.dispatch_open_session hr
      exact h.open_session hfresh hok.2 hm'
    | job_completed l result =>
      obtain ⟨hjob, hr⟩ := State.dispatch_job_completed hr
      exact h.job_completed hjob hr
    | close_session caller cookie =>
      cases hr
      exact h.dbus_close_session fun l hl => hsecond _ l rfl hl
    | name_owner_notify service_name old_service_name new_service_name =>
      cases hr
      exact h.name_owner_notify fun l hl => hsecond _ l rfl hl
    | process_queue | seat_activate_session | seat_switch_to | session_activate
      | activate_session | activate_session_on_seat | vt_leave =>
      obtain ⟨hsame, hquiet⟩ := State.dispatch_same (by trivial) hr
      exact h.quiet hsame hquiet
  | @call f rest r hstack hr =>
    obtain rfl : stack = f :: rest := hstack
    cases f with
    | remove_session l x caller =>
      cases hr
      exact h.session_removed
    | destroy_entity l =>
      cases hr
      exact h.destroy_entity
    | callout | load_seats_from_dir | seat_added | ck_seat_add_session | session_opened
      | maybe_update_active_session | update_active_vt | queue_processed
      | remove_dynamic_seat | seat_removed =>
      obtain ⟨hsame, hquiet⟩ := State.call_same rfl hr
      exact (h.pop rfl).quiet hsame hquiet
  | @callout_done action rest hstack =>
    obtain rfl : stack = .callout action :: rest := hstack
    exact h.pop rfl

end SessionsValid

end CkManager
