import ConsoleKit.Manager.Removal

/-! # Names that lose their owner

    What `on_name_owner_notify` removes when its calls are made without
    another event in between: the leaders that have the name of the old
    owner, and their sessions.

    This module provides:
    - `Runs`: the calls of a handler, made to their end,
    - `Runs.removes`: the tables after the calls of a removal,
    - `name_owner_notify_exact`.
-/

namespace CkManager

open Libc

/-! ## Section 1: Handlers that run to their end -/

/-- The calls that a handler has left, made with no event in between. -/
inductive Runs : State → List Call → State → Prop where
  | nil : ∀ {m}, Runs m [] m
  | callout : ∀ {m action rest m'}, Runs m rest m' → Runs m (.callout action :: rest) m'
  | call : ∀ {m f rest r m'}, m.call f = some r → Runs r.1 (r.2 ++ rest) m' →
      Runs m (f :: rest) m'

/-- The handler of an event returns, in the state `m'`. -/
def Returns (c : MainLoop) (event : Event) (m' : State) : Prop :=
  dispatching c.stack = true ∧ ∃ r, c.state.dispatch event = some r ∧ Runs r.1 r.2 m'

namespace Runs

variable {m m₁ m₂ : State} {calls rest : List Call}

/-- Such a run is one of the main loop. -/
theorem main_loop (h : Runs m calls m₁) (stack : List Call) :
    ∃ labels, (∀ label ∈ labels, label = .call ∨ label = .callout_done) ∧
      main_loop.run ⟨m, calls ++ stack⟩ labels = some ⟨m₁, stack⟩ := by
  induction h with
  | nil => exact ⟨[], by simp, rfl⟩
  | callout _ ih =>
    obtain ⟨labels, hlabels, hrun⟩ := ih
    exact ⟨.callout_done :: labels, by simpa using hlabels, hrun⟩
  | @call m f rest r m' hf _ ih =>
    obtain ⟨labels, hlabels, hrun⟩ := ih
    refine ⟨.call :: labels, by simpa using hlabels, ?_⟩
    have hnext : CkManager.main_loop.next ⟨m, f :: rest ++ stack⟩ .call =
        some ⟨r.1, r.2 ++ rest ++ stack⟩ := by
      simp [CkManager.main_loop, main_loop_next, hf]
    rw [LTS.System.run_cons, hnext]
    exact hrun

theorem append (h : Runs m calls m₁) (h' : Runs m₁ rest m₂) : Runs m (calls ++ rest) m₂ := by
  induction h with
  | nil => exact h'
  | callout _ ih => exact .callout (ih h')
  | call hf _ ih => exact .call hf (by simpa using ih h')

end Runs

/-- The call returns, whatever the state. -/
def Call.Ends (f : Call) : Prop := ∀ m, ∃ m', Runs m [f] m'

theorem runs_of_ends {calls : List Call} (h : ∀ f ∈ calls, f.Ends) (m : State) :
    ∃ m', Runs m calls m' := by
  induction calls generalizing m with
  | nil => exact ⟨m, .nil⟩
  | cons f calls ih =>
    obtain ⟨m₁, h₁⟩ := h f List.mem_cons_self m
    obtain ⟨m₂, h₂⟩ := ih (fun g hg => h g (List.mem_cons_of_mem f hg)) m₁
    exact ⟨m₂, h₁.append h₂⟩

theorem ends_of_call {f : Call}
    (h : ∀ m : State, ∃ r, m.call f = some r ∧ ∀ g ∈ r.2, g.Ends) :
    f.Ends := by
  intro m
  obtain ⟨r, hr, hcalls⟩ := h m
  obtain ⟨m', hm'⟩ := runs_of_ends hcalls r.1
  exact ⟨m', .call hr (by simpa using hm')⟩

theorem callout_ends (action : Callout) : (Call.callout action).Ends :=
  fun m => ⟨m, .callout .nil⟩

theorem emit_ends (m : State) (d : SeatRef) (action : Callout) :
    ∀ f ∈ m.emit d action, f.Ends := by
  unfold State.emit
  split
  · intro f hf
    rw [List.mem_singleton.mp hf]
    exact callout_ends action
  · exact fun f hf => absurd hf List.not_mem_nil

theorem seat_removed_ends (d : SeatRef) : (Call.seat_removed d).Ends :=
  ends_of_call fun _ => ⟨_, rfl, fun _ hg => absurd hg List.not_mem_nil⟩

theorem remove_session_ends (l : LeaderRef) (x : SessionRef) (caller : RemovalCaller) :
    (Call.remove_session l x caller).Ends :=
  ends_of_call fun _ => ⟨_, rfl, fun _ hg => absurd hg List.not_mem_nil⟩

theorem maybe_update_ends (d : SeatRef) : (Call.maybe_update_active_session d).Ends := by
  refine ends_of_call fun m => ⟨_, rfl, ?_⟩
  unfold State.maybe_update_active_session
  split
  · exact fun g hg => absurd hg List.not_mem_nil
  · split
    · unfold State.update_active_vt State.change_active_session
      split
      · exact fun g hg => absurd hg List.not_mem_nil
      · exact emit_ends _ d _
    · exact fun g hg => absurd hg List.not_mem_nil

theorem remove_dynamic_seat_ends (d : SeatRef) : (Call.remove_dynamic_seat d).Ends := by
  refine ends_of_call fun m => ⟨_, rfl, ?_⟩
  split
  · unfold State.remove_seat
    split
    · exact fun g hg => absurd hg List.not_mem_nil
    · intro g hg
      rcases List.mem_pair.mp hg with rfl | rfl
      · exact callout_ends _
      · exact seat_removed_ends _
  · exact fun g hg => absurd hg List.not_mem_nil

theorem destroy_entity_ends (l : LeaderRef) : (Call.destroy_entity l).Ends := by
  refine ends_of_call fun m => ⟨_, rfl, ?_⟩
  rcases m.destroy_entity_cases l with ⟨-, heq⟩ | ⟨r, hr, heq⟩
  · rw [heq]
    exact fun g hg => absurd hg List.not_mem_nil
  · rw [heq]
    obtain ⟨x, -, rfl⟩ := Option.map_eq_some_iff.mp hr
    intro g hg
    split at hg
    · rename_i d _
      rcases List.mem_append.mp hg with hg | hg
      · unfold State.ck_seat_remove_session at hg
        split at hg
        · rcases List.mem_append.mp hg with hg | hg
          · exact emit_ends _ d _ g hg
          · rw [List.mem_singleton.mp hg]
            exact maybe_update_ends d
        · cases hg
      · rcases List.mem_pair.mp hg with rfl | rfl
        · exact remove_dynamic_seat_ends d
        · exact remove_session_ends l x _
    · rw [List.mem_singleton.mp hg]
      exact remove_session_ends l x _

/-! ## Section 2: What a removal removes -/

/-- The sessions and leaders that are left when the calls have been made:
    nothing is left under the ids of the leaders that are claimed. -/
theorem Runs.removes {m m' : State} {calls : List Call} (h : Runs m calls m')
    (hcaller : ∀ l x, .remove_session l x .dbus_close_session ∉ calls) :
    m'.leaders = m.leaders ∧
    ∀ k x, m'.sessions.lookup k = some x ↔ m.sessions.lookup k = some x ∧
      ∀ l ∈ claims calls, (m.leader l).session_id ≠ k := by
  induction h with
  | nil => exact ⟨rfl, fun k x => by simp [claims]⟩
  | callout _ ih => exact ih fun l x hx => hcaller l x (List.mem_cons_of_mem _ hx)
  | @call m f rest r m' hr _ ih =>
    have hrest : ∀ l x, .remove_session l x .dbus_close_session ∉ rest :=
      fun l x hx => hcaller l x (List.mem_cons_of_mem _ hx)
    -- calls that leave the table alone pass their claims on
    have hpass : ∀ calls, SameSessions m r.1 → r.2 = calls →
        (∀ l x, .remove_session l x .dbus_close_session ∉ calls) →
        claims (calls ++ rest) = claims (f :: rest) →
        m'.leaders = m.leaders ∧ ∀ k x, m'.sessions.lookup k = some x ↔
          m.sessions.lookup k = some x ∧ ∀ l ∈ claims (f :: rest), (m.leader l).session_id ≠ k := by
      intro calls hsame heq hcalls hclaims
      have hih := ih fun l x hx => by
        rcases List.mem_append.mp hx with hx | hx
        · exact hcalls l x (heq ▸ hx)
        · exact hrest l x hx
      rw [heq, hclaims, hsame.leaders, hsame.sessions, hsame.leader] at hih
      exact hih
    by_cases hclaims : f.claims = []
    · obtain ⟨hsame, hquiet⟩ := State.call_same hclaims hr
      refine hpass _ hsame rfl (fun l x hx => by cases (hquiet _ hx).1) ?_
      rw [(quiet_append hquiet rest).1]
      show _ = f.claims ++ claims rest
      rw [hclaims]
      rfl
    · cases f with
      | destroy_entity l =>
        cases hr
        rcases m.destroy_entity_cases l with ⟨hnone, heq⟩ | ⟨r, hr, heq⟩
        · -- there is no session to remove
          rw [heq] at ih
          obtain ⟨hleaders, hsessions⟩ := ih hrest
          refine ⟨hleaders, fun k x => ?_⟩
          rw [hsessions]
          refine and_congr_right fun hx => ?_
          show (∀ l' ∈ claims rest, _) ↔ ∀ l' ∈ l :: claims rest, _
          rw [List.forall_mem_cons]
          simp only [State.cancel_leader]
          refine (and_iff_right ?_).symm
          rintro rfl
          rw [show m.sessions.lookup (m.leader l).session_id = some x from hx] at hnone
          cases hnone
        · -- The claim goes to the call that takes the session out of the table.
          obtain ⟨x, calls, -, hsame, hquiet, hcalls⟩ := State.remove_session_for_cookie_spec hr
          refine hpass (calls ++ [.remove_session l x .destroy_entity]) ?_ ?_ ?_ ?_
          · rw [heq]
            exact hsame
          · rw [heq]
            exact hcalls
          · intro l' x' hx'
            rcases List.mem_append.mp hx' with hx' | hx'
            · cases (hquiet _ hx').1
            · cases List.mem_singleton.mp hx'
          · rw [List.append_assoc]
            exact (quiet_append hquiet _).1
      | remove_session l x caller =>
        cases caller with
        | dbus_close_session => exact absurd List.mem_cons_self (hcaller l x)
        | destroy_entity =>
          cases hr
          -- The session under the id of this leader goes now, and those of the
          -- other claims later.
          obtain ⟨hleaders, hsessions⟩ := ih hrest
          refine ⟨hleaders, fun k y => ?_⟩
          rw [hsessions]
          show (m.sessions.erase (m.leader l).session_id).lookup k = some y ∧
            (∀ l' ∈ claims rest, ((m.ck_session_leader_cancel l).leader l').session_id ≠ k) ↔
            m.sessions.lookup k = some y ∧ ∀ l' ∈ l :: claims rest, (m.leader l').session_id ≠ k
          rw [HashTable.lookup_erase_iff, List.forall_mem_cons]
          simp only [State.cancel_leader, ne_comm (a := k)]
          tauto
      | _ => exact absurd rfl hclaims

/-- The leaders in the table that have the name, and their sessions, are the
    ones that have been removed. -/
def RemovesExactly (m m' : State) (name : CString) : Prop :=
  (∀ k l, m'.leaders.lookup k = some l ↔
    m.leaders.lookup k = some l ∧ (m.leader l).service_name ≠ name) ∧
  ∀ k x, m'.sessions.lookup k = some x ↔ m.sessions.lookup k = some x ∧
    ¬ (Registered m (m.session x).leader ∧
      (m.leader (m.session x).leader).service_name = name)

/-- The handler goes by the name of the old owner. -/
theorem name_owner_removes {c : MainLoop} (hvalid : SessionsValid c.state c.stack)
    {name old : CString} {m' : State} (h : Returns c (.name_owner_notify name old []) m') :
    RemovesExactly c.state m' old := by
  obtain ⟨-, r, hr, hruns⟩ := h
  obtain ⟨gone, ls, -, hls, heq⟩ := c.state.name_owner_lost
    (fun hk hk' => (hvalid.registered hk).2.symm.trans (hvalid.registered hk').2) name old rfl
  cases hr
  rw [heq] at hruns
  have hcaller : ∀ l x, Call.remove_session l x .dbus_close_session ∉
      ls.map Call.destroy_entity := by
    intro l x hx
    obtain ⟨l', -, hl'⟩ := List.mem_map.mp hx
    cases hl'
  have hclaims : ∀ l, l ∈ claims (ls.map Call.destroy_entity) ↔ l ∈ ls := by
    intro l
    rw [claims, List.flatMap_map]
    simp [Call.claims]
  obtain ⟨hleaders, hsessions⟩ := hruns.removes hcaller
  constructor
  · intro k l
    rw [hleaders, HashTable.lookup_keep, decide_eq_false_iff_not]
  · intro k x
    rw [hsessions]
    refine and_congr_right fun hx => ?_
    change c.state.sessions.lookup k = some x at hx
    simp only [hclaims]
    show (∀ l ∈ ls, (c.state.leader l).session_id ≠ k) ↔ _
    have hid : (c.state.leader (c.state.session x).leader).session_id = k := by
      rw [← (hvalid.opener (hvalid.table hx).1).2]
      exact (hvalid.table hx).2
    constructor
    · rintro hall ⟨hreg, hname⟩
      exact hall _ ((hls _).mpr ⟨hreg, hname⟩) hid
    · rintro hnot l hl heq'
      obtain ⟨hreg, hname⟩ := (hls l).mp hl
      have hlive : Live c.state c.stack (c.state.session x).leader :=
        (hvalid.owned hx).elim .inl fun hclaim => .inr (.inr hclaim)
      -- the session under the id of a registered leader is its own
      have hsame := hvalid.distinct hlive (.inl hreg) (hid.trans heq'.symm)
      rw [hsame] at hnot
      exact hnot ⟨hreg, hname⟩

theorem name_owner_returns {c : MainLoop} (hvalid : SessionsValid c.state c.stack)
    (hloop : dispatching c.stack = true) (name old : CString) :
    ∃ m', Returns c (.name_owner_notify name old []) m' := by
  obtain ⟨gone, ls, -, -, heq⟩ := c.state.name_owner_lost
    (fun hk hk' => (hvalid.registered hk).2.symm.trans (hvalid.registered hk').2) name old rfl
  have hends : ∀ f ∈ ls.map Call.destroy_entity, f.Ends := by
    intro f hf
    obtain ⟨l, -, rfl⟩ := List.mem_map.mp hf
    exact destroy_entity_ends l
  obtain ⟨m', hm'⟩ := runs_of_ends hends _
  exact ⟨m', hloop, _, rfl, heq ▸ hm'⟩

/-! ## Section 3: Which notifications are handled right -/

theorem name_owner_notify_exact {c : MainLoop} (h : main_loop.ReachableBy Orderly c)
    (hloop : dispatching c.stack = true) (name old : CString) :
    (∃ m', Returns c (.name_owner_notify name old []) m') ∧
    ∀ m', Returns c (.name_owner_notify name old []) m' →
      (RemovesExactly c.state m' name ↔
        ∀ l, Registered c.state l →
          ((c.state.leader l).service_name = old ↔ (c.state.leader l).service_name = name)) := by
  have hvalid := sessionsValid h
  refine ⟨name_owner_returns hvalid hloop name old, fun m' hm' => ?_⟩
  obtain ⟨hleaders, hsessions⟩ := name_owner_removes hvalid hm'
  constructor
  · rintro ⟨hexact, -⟩ l ⟨k, hk⟩
    have hold := hleaders k l
    rw [hexact, and_congr_right_iff] at hold
    exact not_iff_not.mp (hold hk).symm
  · intro hsame
    constructor
    · intro k l
      rw [hleaders]
      exact and_congr_right fun hk => not_congr (hsame l ⟨k, hk⟩)
    · intro k x
      rw [hsessions]
      exact and_congr_right fun _ => not_congr (and_congr_right fun hreg => hsame _ hreg)

/-- The connection of a client is lost. -/
theorem name_owner_notify_exact_lost :
    ∃ c m', main_loop.runBy orderly one_seat
      (seat_loaded ++ session_opens (cstr ":1.5") (cstr "c1") 0) = some c ∧
      Returns c (.name_owner_notify (cstr ":1.5") (cstr ":1.5") []) m' ∧
      RemovesExactly c.state m' (cstr ":1.5") := by
  have hrun : (main_loop.runBy orderly one_seat
      (seat_loaded ++ session_opens (cstr ":1.5") (cstr "c1") 0)).map
      (fun c => c.stack) = some [] := by
    decide
  obtain ⟨c, hc, hstack⟩ := Option.map_eq_some_iff.mp hrun
  have hloop : dispatching c.stack = true := by
    rw [hstack]
    rfl
  obtain ⟨⟨m', hm'⟩, hexact⟩ := name_owner_notify_exact
    ((one_seat_reachable Orderly).runBy (fun _ _ h => orderly_sound h) hc) hloop
    (cstr ":1.5") (cstr ":1.5")
  exact ⟨c, m', hc, hm', (hexact m' hm').mpr fun _ _ => Iff.rfl⟩

/-- A client that is still connected gives up a name, and loses its session. -/
theorem name_owner_notify_well_known :
    ∃ c m', main_loop.runBy orderly one_seat
      (seat_loaded ++ session_opens (cstr ":1.5") (cstr "c1") 0) = some c ∧
      Returns c (.name_owner_notify (cstr "org.example.Greeter") (cstr ":1.5") []) m' ∧
      (∃ l, c.state.leaders.lookup (cstr "c1") = some l ∧
        (c.state.leader l).service_name = cstr ":1.5" ∧ m'.leaders.lookup (cstr "c1") = none) ∧
      ¬ RemovesExactly c.state m' (cstr "org.example.Greeter") := by
  have hrun : (main_loop.runBy orderly one_seat
      (seat_loaded ++ session_opens (cstr ":1.5") (cstr "c1") 0)).map
      (fun c => (c.stack, c.state.leaders.lookup (cstr "c1"),
        (c.state.leader 0).service_name)) = some ([], some 0, cstr ":1.5") := by
    decide
  obtain ⟨c, hc, heq⟩ := Option.map_eq_some_iff.mp hrun
  simp only [Prod.mk.injEq] at heq
  obtain ⟨hstack, hleader, hname⟩ := heq
  have hvalid := sessionsValid
    ((one_seat_reachable Orderly).runBy (fun _ _ h => orderly_sound h) hc)
  obtain ⟨m', hm'⟩ := name_owner_returns hvalid (by rw [hstack]; rfl)
    (cstr "org.example.Greeter") (cstr ":1.5")
  have hgone : m'.leaders.lookup (cstr "c1") = none := by
    by_contra hne
    obtain ⟨l, hl⟩ := Option.ne_none_iff_exists'.mp hne
    obtain ⟨hl, hnot⟩ := ((name_owner_removes hvalid hm').1 _ l).mp hl
    rw [hleader] at hl
    obtain rfl := Option.some.inj hl
    exact hnot hname
  refine ⟨c, m', hc, hm', ⟨0, hleader, hname, hgone⟩, fun hexact => ?_⟩
  have hkept := (hexact.1 (cstr "c1") 0).mpr ⟨hleader, by rw [hname]; decide⟩
  rw [hgone] at hkept
  cases hkept

end CkManager
