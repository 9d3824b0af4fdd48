import ConsoleKit.Manager.Removal
import ConsoleKit.Manager.Table

/-! # Opening that fails

    The leader of a client is stored before its collector starts, so that
    the pending request can be revoked.  A request that ends in an error
    opens no session, but its leader stays in the table until the connection
    of the client is lost.

    This module provides:
    - `Failed`: a request that ends in an error, at once or when its
      collector exits, with the events in between,
    - `failed_open_trace`: when such a request leaves nothing behind.
-/

namespace CkManager

open Libc

/-! ## Section 1: Requests that fail -/

/-- A call of `OpenSession` or `OpenSessionWithParameters`. -/
structure OpenRequest where
  sender : CString
  caller : Option (Nat × Nat)
  cookie : CString
  started : Bool

def OpenRequest.label (q : OpenRequest) : Label :=
  .dispatch (.open_session q.sender q.caller q.cookie q.started)

/-- The collector fails, or the session cannot be created. -/
def OpeningFails (result : Option Opening) : Prop := ∀ o, result = some o → o.created = false

/-- The request ends in an error: it is made in `c`, which becomes `c₁`, and
    it fails in `c₂`, which becomes `c'`. -/
inductive Failed (q : OpenRequest) (c : MainLoop) :
    List Label → MainLoop → MainLoop → MainLoop → Prop where
  | at_once : ∀ {c'}, q.caller = none ∨ q.started = false →
      main_loop.next c q.label = some c' → Failed q c [] c' c' c'
  | later : ∀ {others c₁ c₂ c' result}, q.caller ≠ none → q.started = true →
      main_loop.next c q.label = some c₁ → main_loop.run c₁ others = some c₂ →
      OpeningFails result →
      main_loop.next c₂ (.dispatch (.job_completed c.state.next_leader result)) = some c' →
      Failed q c others c₁ c₂ c'

/-! ## Section 2: The tables -/

/-- The tables of leaders, sessions and seats are the same. -/
structure SameTables (m m' : State) : Prop where
  leaders : m'.leaders = m.leaders
  sessions : m'.sessions = m.sessions
  seats : m'.seats = m.seats

/-- Neither the call nor its failure has changed the tables of sessions and
    seats, the failure has not changed that of leaders, and in the end the
    leader of the request is not stored. -/
structure LeavesNothing (q : OpenRequest) (c c₁ c₂ c' : MainLoop) : Prop where
  sessions : c₁.state.sessions = c.state.sessions ∧ c'.state.sessions = c₂.state.sessions
  seats : c₁.state.seats = c.state.seats ∧ c'.state.seats = c₂.state.seats
  leaders : c'.state.leaders = c₂.state.leaders
  leader : c'.state.leaders.lookup q.cookie ≠ some c.state.next_leader

section
variable {q : OpenRequest} {c c' : MainLoop}

/-- What a request does: nothing for a caller that is not known, and it
    stores a leader for any other one. -/
theorem open_request_cases (h : main_loop.next c q.label = some c') :
    c.state.leaders.lookup q.cookie = none ∧ c'.state.sessions = c.state.sessions ∧
    c'.state.seats = c.state.seats ∧
    ((q.caller = none ∧ c'.state.leaders = c.state.leaders) ∨
      (q.caller ≠ none ∧
        c'.state.leaders = c.state.leaders.insert q.cookie c.state.next_leader)) := by
  cases main_loop_step h with
  | dispatch _ hr =>
    obtain ⟨hnew, m', hm', rfl⟩ := State.dispatch_open_session hr
    have hfresh : c.state.leaders.lookup q.cookie = none :=
      AList.lookup_eq_none.mpr hnew.2
    unfold State.create_session_for_sender at hm'
    refine ⟨hfresh, ?_⟩
    cases hcaller : q.caller with
    | none =>
      rw [hcaller] at hm'
      cases hm'
      exact ⟨rfl, rfl, .inl ⟨rfl, rfl⟩⟩
    | some caller =>
      rw [hcaller] at hm'
      obtain ⟨⟨ssid, m₁⟩, hid, rfl⟩ := Option.map_eq_some_iff.mp hm'
      obtain ⟨-, serial, rfl⟩ := State.generate_session_id_free hid
      exact ⟨rfl, rfl, .inr ⟨by simp, rfl⟩⟩

/-- A collector that fails, or a session that cannot be created, leaves all
    tables alone. -/
theorem failing_job_same {l : LeaderRef} {result : Option Opening} (hfails : OpeningFails result)
    (h : main_loop.next c (.dispatch (.job_completed l result)) = some c') :
    SameTables c.state c'.state := by
  cases main_loop_step h with
  | dispatch _ hr =>
    obtain ⟨-, hr⟩ := State.dispatch_job_completed hr
    unfold State.job_completed at hr
    cases result with
    | none =>
      cases hr
      exact ⟨rfl, rfl, rfl⟩
    | some o =>
      simp only [State.verify_and_open_session_for_leader] at hr
      unfold State.open_session_for_leader at hr
      rw [if_neg (by rw [hfails o rfl]; decide)] at hr
      cases hr
      exact ⟨rfl, rfl, rfl⟩

/-- The call and the failure of a request, together. -/
theorem Failed.cases {others : List Label} {c₁ c₂ : MainLoop} (h : Failed q c others c₁ c₂ c') :
    main_loop.next c q.label = some c₁ ∧ main_loop.run c₁ others = some c₂ ∧
      SameTables c₂.state c'.state := by
  cases h with
  | at_once _ hnext => exact ⟨hnext, rfl, ⟨rfl, rfl, rfl⟩⟩
  | later _ _ hnext hrun hfails hjob => exact ⟨hnext, hrun, failing_job_same hfails hjob⟩

end

/-! ## Section 3: What is left -/

/-- **The leader is left behind.**  A request that fails leaves no trace
    exactly if its caller is not known, or its leader was taken out of the
    table before it failed; where no event comes in between, it leaves the
    tables as they were exactly if its caller is not known. -/
theorem failed_open_trace {q : OpenRequest} {c c₁ c₂ c' : MainLoop} {others : List Label}
    (h : Failed q c others c₁ c₂ c') :
    (LeavesNothing q c c₁ c₂ c' ↔
      q.caller = none ∨ c₂.state.leaders.lookup q.cookie ≠ some c.state.next_leader) ∧
    (others = [] → (SameTables c.state c'.state ↔ q.caller = none)) := by
  obtain ⟨hnext, hrun, hsame⟩ := h.cases
  obtain ⟨hfresh, hsessions, hseats, hleaders⟩ := open_request_cases hnext
  constructor
  · constructor
    · intro hno
      right
      rw [← hsame.leaders]
      exact hno.leader
    · intro hgone
      refine ⟨⟨hsessions, hsame.sessions⟩, ⟨hseats, hsame.seats⟩, hsame.leaders, ?_⟩
      rw [hsame.leaders]
      rcases hgone with hcaller | hgone
      · -- only a request that fails at once has no caller
        cases h with
        | at_once _ _ =>
          rcases hleaders with ⟨-, hleaders⟩ | ⟨hsome, -⟩
          · rw [hleaders, hfresh]
            nofun
          · exact absurd hcaller hsome
        | later hsome => exact absurd hcaller hsome
      · exact hgone
  · rintro rfl
    obtain rfl : c₁ = c₂ := Option.some.inj hrun
    rcases hleaders with ⟨hcaller, hleaders⟩ | ⟨hsome, hleaders⟩
    · exact iff_of_true ⟨hsame.leaders.trans hleaders, hsame.sessions.trans hsessions,
        hsame.seats.trans hseats⟩ hcaller
    · refine iff_of_false (fun htables => ?_) hsome
      have hstored : c'.state.leaders.lookup q.cookie = some c.state.next_leader := by
        rw [hsame.leaders, hleaders, AList.lookup_insert]
      rw [htables.leaders, hfresh] at hstored
      cases hstored

/-- The bus does not know the caller. -/
theorem failed_open_trace_unknown :
    ∃ c c', main_loop.run one_seat seat_loaded = some c ∧
      Failed ⟨cstr ":1.5", none, cstr "c1", true⟩ c [] c' c' c' ∧ SameTables c.state c'.state := by
  have hrun : (main_loop.run one_seat seat_loaded).map (fun c => (c.stack, c.state.gone,
      c.state.leaders.lookup (cstr "c1"))) = some ([], [], none) := by
    decide
  obtain ⟨c, hc, heq⟩ := Option.map_eq_some_iff.mp hrun
  simp only [Prod.mk.injEq] at heq
  obtain ⟨hstack, hgone, hnew⟩ := heq
  have hnext : main_loop.next c (OpenRequest.label ⟨cstr ":1.5", none, cstr "c1", true⟩) =
      some c := by
    simp [OpenRequest.label, main_loop, main_loop_next, hstack, dispatching, State.dispatch,
      hgone, AList.lookup_eq_none.mp hnew, State.create_session_for_sender]
    rw [← hstack]
  have hfailed : Failed ⟨cstr ":1.5", none, cstr "c1", true⟩ c [] c c c :=
    .at_once (.inl rfl) hnext
  exact ⟨c, c, hc, hfailed, ((failed_open_trace hfailed).2 rfl).mpr rfl⟩

/-- The collector of a client fails: its leader stays in the table. -/
theorem failed_open_leader :
    ∃ c c₁ c', main_loop.run one_seat seat_loaded = some c ∧ main_loop.Reachable c ∧
      Failed ⟨cstr ":1.5", some (1000, 7), cstr "c1", true⟩ c [] c₁ c₁ c' ∧ c'.Quiescent ∧
      c.state.leaders.lookup (cstr "c1") = none ∧
      c'.state.leaders.lookup (cstr "c1") = some 0 ∧ ¬ SameTables c.state c'.state := by
  have hrun : (main_loop.run one_seat (seat_loaded ++
      [.dispatch (.open_session (cstr ":1.5") (some (1000, 7)) (cstr "c1") true),
        .dispatch (.job_completed 0 none)])).map (fun c => (c.stack,
      c.state.leaders.lookup (cstr "c1"))) = some ([], some 0) := by
    decide
  have hstart : (main_loop.run one_seat seat_loaded).map (fun c => (c.state.next_leader,
      c.state.leaders.lookup (cstr "c1"))) = some (0, none) := by
    decide
  obtain ⟨c', hc', heq⟩ := Option.map_eq_some_iff.mp hrun
  obtain ⟨c, hc, hfirst⟩ := Option.map_eq_some_iff.mp hstart
  simp only [Prod.mk.injEq] at heq hfirst
  obtain ⟨hstack, hstored⟩ := heq
  obtain ⟨hnext, hnew⟩ := hfirst
  rw [LTS.System.run_append, hc, Option.bind_some] at hc'
  obtain ⟨c₁, hc₁, hjob⟩ := Option.bind_eq_some_iff.mp hc'
  obtain ⟨c₂, hc₂, hend⟩ := Option.bind_eq_some_iff.mp hjob
  obtain rfl : c₂ = c' := Option.some.inj hend
  have hfails : OpeningFails none := nofun
  refine ⟨c, c₁, c₂, hc, LTS.System.Reachable.run (one_seat_reachable _) hc,
    .later (by simp) rfl hc₁ rfl hfails (by rw [hnext]; exact hc₂), hstack, hnew, hstored,
    fun htables => ?_⟩
  rw [htables.leaders, hnew] at hstored
  cases hstored

end CkManager
