import ConsoleKit.Manager.Sessions

/-! # A session is removed once

    Under the conditions `NoSecondRemoval` and `FreshId` every session that
    has left the table was removed by one request, which announced it once,
    released it once and reported success.  A second request that comes
    while the programs of the first one run does all of this again.
-/

namespace CkManager

open Libc

/-! ## Section 1: Every run -/

/-- The conditions on a step under which the tables stay consistent. -/
def Orderly (c : MainLoop) (label : Label) : Prop :=
  NoSecondRemoval c label ∧ FreshId c label

theorem sessionsValid {c : MainLoop} (h : main_loop.ReachableBy Orderly c) :
    SessionsValid c.state c.stack := by
  refine h.invariant (I := fun c => SessionsValid c.state c.stack) ?_ ?_
  · rintro c ⟨vfd, active_num, files, rfl⟩
    exact .init vfd active_num files
  · intro c label c' hvalid hok hnext
    exact hvalid.step hok.1 hok.2 hnext

/-- A session in the table has not been removed, any other one once. -/
def RemovedOnce (c : MainLoop) : Prop :=
  ∀ x, x < c.state.next_session →
    RemovedTimes c.state x (if x ∈ c.state.sessions.values then 0 else 1)

theorem session_removed_once {c : MainLoop} (h : main_loop.ReachableBy Orderly c) :
    RemovedOnce c := by
  intro x hx
  have hrecord := (sessionsValid h).record x
  by_cases hmem : x ∈ c.state.sessions.values
  · rw [if_neg fun hgone => hgone.2 hmem] at hrecord
    rw [if_pos hmem]
    exact hrecord
  · rw [if_pos ⟨hx, hmem⟩] at hrecord
    rw [if_neg hmem]
    exact hrecord

/-! ## Section 2: Runs on a seat with one console -/

/-- The daemon on VT 1, about to load one static seat. -/
def one_seat : MainLoop := ⟨ck_manager_init true 1, [.load_seats_from_dir [⟨true, true⟩]]⟩

def seat_loaded : List Label := [.call, .callout_done, .call, .call]

/-- A local session on the text console of a VT. -/
def text_session (vtnr : Nat) : Opening where
  parameters := [(.display_device, .string (State.ck_get_console_device_for_num vtnr)),
    (.unix_user, .int32 1000), (.is_local, .boolean true), (.vtnr, .uint32 vtnr)]
  transform := .same_type
  creation_time := cstr "2020-01-01T00:00:00Z"
  created := true
  registers := true

/-- A client opens a session on VT 1, the first one there. -/
def session_opens (sender cookie : CString) (l : LeaderRef) : List Label :=
  [.dispatch (.open_session sender (some (1000, 7)) cookie true),
    .dispatch (.job_completed l (some (text_session 1))),
    .call, .callout_done, .call, .callout_done, .call]

/-- The test that requests come while no handler is running. -/
def orderly (c : MainLoop) : Label → Bool
  | .dispatch (.open_session ..) =>
      c.state.generate_session_id.all fun r =>
        (List.range c.state.next_leader).all fun l => (c.state.leader l).session_id ≠ r.1
  | .dispatch (.close_session ..) | .dispatch (.name_owner_notify ..) => c.stack = []
  | _ => true

theorem orderly_sound {c : MainLoop} (h : main_loop.ReachableBy Orderly c) {label : Label}
    (htest : orderly c label = true) : Orderly c label := by
  constructor
  · intro event l hlabel hrequest
    subst hlabel
    cases event with
    | close_session | name_owner_notify =>
      rw [of_decide_eq_true htest]
      exact List.not_mem_nil
    | _ => cases hrequest
  · intro sender caller cookie started r hlabel hid l hl
    subst hlabel
    have hall : ((List.range c.state.next_leader).all fun l =>
        decide ((c.state.leader l).session_id ≠ r.1)) = true := by
      simpa [orderly, hid] using htest
    exact of_decide_eq_true
      (List.all_eq_true.mp hall l (List.mem_range.mpr ((sessionsValid h).live_lt hl)))

theorem one_seat_reachable (ok : MainLoop → Label → Prop) : main_loop.ReachableBy ok one_seat :=
  .init ⟨true, 1, [⟨true, true⟩], rfl⟩

/-- A session that its client closes is removed, once. -/
theorem session_removed_once_closed :
    ∃ c, main_loop.runBy orderly one_seat
      (seat_loaded ++ session_opens (cstr ":1.5") (cstr "c1") 0 ++
        [.dispatch (.close_session (some (1000, 7)) (cstr "c1")), .callout_done, .call,
          .callout_done, .call, .call]) = some c ∧
      c.Quiescent ∧ RemovedTimes c.state 0 1 := by
  have hrun : (main_loop.runBy orderly one_seat
      (seat_loaded ++ session_opens (cstr ":1.5") (cstr "c1") 0 ++
        [.dispatch (.close_session (some (1000, 7)) (cstr "c1")), .callout_done, .call,
          .callout_done, .call, .call])).map
      (fun c => (c.stack, c.state.next_session, c.state.sessions.values)) = some ([], 1, []) := by
    decide
  obtain ⟨c, hc, heq⟩ := Option.map_eq_some_iff.mp hrun
  simp only [Prod.mk.injEq] at heq
  obtain ⟨hstack, hnext, hvalues⟩ := heq
  refine ⟨c, hc, hstack, ?_⟩
  have hreachable := (one_seat_reachable Orderly).runBy (fun _ _ h => orderly_sound h) hc
  have honce := session_removed_once hreachable 0 (hnext ▸ Nat.zero_lt_one)
  rw [if_neg (by simp [hvalues])] at honce
  exact honce

/-- Its client closes a session again while the programs of the first call
    run. -/
theorem session_removed_twice :
    ∃ c, main_loop.run one_seat
      (seat_loaded ++ session_opens (cstr ":1.5") (cstr "c1") 0 ++
        [.dispatch (.close_session (some (1000, 7)) (cstr "c1")),
          .dispatch (.close_session (some (1000, 7)) (cstr "c1")), .call, .call,
          .callout_done, .call, .callout_done, .call, .call]) = some c ∧
      main_loop.Reachable c ∧ c.Quiescent ∧ RemovedTimes c.state 0 2 ∧ ¬ RemovedOnce c := by
  have hrun : (main_loop.run one_seat
      (seat_loaded ++ session_opens (cstr ":1.5") (cstr "c1") 0 ++
        [.dispatch (.close_session (some (1000, 7)) (cstr "c1")),
          .dispatch (.close_session (some (1000, 7)) (cstr "c1")), .call, .call,
          .callout_done, .call, .callout_done, .call, .call])).map
      (fun c => (c.stack, c.state.next_session, c.state.signals.count (.SessionRemoved 0),
        c.state.unreffed.count 0, c.state.key_freed.count 0, c.state.succeeded.count 0)) =
      some ([], 1, 2, 2, 2, 2) := by
    decide
  obtain ⟨c, hc, heq⟩ := Option.map_eq_some_iff.mp hrun
  simp only [Prod.mk.injEq] at heq
  obtain ⟨hstack, hnext, hsignals, hunreffed, hkey, hsucceeded⟩ := heq
  refine ⟨c, hc, LTS.System.Reachable.run (one_seat_reachable _) hc, hstack,
    ⟨hsignals, hunreffed, hkey, hsucceeded⟩, fun honce => ?_⟩
  have htwice := (honce 0 (hnext ▸ Nat.zero_lt_one)).signals
  rw [hsignals] at htwice
  split at htwice <;> omega

end CkManager
