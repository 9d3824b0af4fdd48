import ConsoleKit.Manager.Activation

/-! # The replies to the activation requests

    A request is answered when its method returns.  While the VT is being
    switched, an `ActivateData` listens for the next change of the active VT,
    and answers the invocation that it was given: those of the seat's
    methods, for the second time.

    This module provides:
    - `activation_loop`: the main loop with invocations and replies,
    - `AnsweredOnce`: every invocation has exactly one reply,
    - `activation_replies`: the runs in which this holds.
-/

namespace CkManager

open Libc

/-! ## Section 1: Requests and replies -/

/-- A `GDBusMethodInvocation`; its first reply is the end of it. -/
abbrev GDBusMethodInvocation := Nat

/-- `ActivateData`, with the invocation that `activated_cb` replies to. -/
structure ActivateData where
  num : Nat
  context : Option GDBusMethodInvocation

structure ActivationLoop where
  loop : MainLoop
  /-- What is connected to `active-changed`, besides the seats. -/
  connected : List ActivateData
  /-- The ones that the running emission of it has yet to call. -/
  emission : List ActivateData
  /-- The invocations that were answered, with the error if any. -/
  replies : List (GDBusMethodInvocation × Option CkActivationError)

inductive ActivationLabel where
  /-- An event; `context` is the invocation of an activation request. -/
  | dispatch (context : GDBusMethodInvocation) (event : Event)
  | call
  | callout_done
  /-- The next handler of the running emission is an `activated_cb`.  In which
      order seats and requests were connected is left open. -/
  | activated_cb

namespace State

/-- The VT that `ck_seat_activate_session` has started to switch to. -/
def waitsFor (m : State) (d : SeatRef) (session : Option SessionRef) (switches : Bool) :
    Option Nat :=
  if (m.seat d).kind ≠ .STATIC then none
  else do
    let num ← m.console_num (← session)
    if m.ck_vt_monitor_set_active num switches = none then some num else none

/-- The `ActivateData` that `ck_seat_activate_session` leaves connected. -/
def activateData (m : State) (d : SeatRef) (session : Option SessionRef) (switches : Bool)
    (context : Option GDBusMethodInvocation) : List ActivateData :=
  (m.waitsFor d session switches).toList.map fun num => ⟨num, context⟩

/-- The answer to an activation request. -/
def answer (m : State) : Event → Option Answer
  | .seat_activate_session d ssid switches => some (m.seat_dbus_activate_session d ssid switches)
  | .seat_switch_to d vtnr switches => some (m.seat_dbus_switch_to d vtnr switches)
  | .session_activate x switches => some (m.session_dbus_activate x switches)
  | .activate_session session_id switches =>
      some (m.manager_dbus_activate_session session_id switches)
  | .activate_session_on_seat session_id seat_id switches =>
      some (m.manager_dbus_activate_session_on_seat session_id seat_id switches)
  | _ => none

/-- What an activation request leaves connected.  The seat's methods pass
    their invocation on, the others pass NULL. -/
def requestData (m : State) (context : GDBusMethodInvocation) : Event → List ActivateData
  | .seat_activate_session d ssid switches =>
      m.activateData d ((m.seat d).sessions.lookup ssid) switches (some context)
  | .seat_switch_to d vtnr switches =>
      match (m.seat d).sessions.values.find? fun x => (m.session x).vtnr = vtnr with
      | some x => m.activateData d ((m.seat d).sessions.lookup (m.session x).id) switches
          (some context)
      | none => []
  | .session_activate x switches =>
      ((m.session x).activate.foldl (fun (r : State × List ActivateData) d =>
        ((r.1.ck_seat_activate_session d (some x) switches).1,
          r.2 ++ r.1.activateData d (some x) switches none)) (m, [])).2
  | .activate_session session_id switches =>
      match m.sessions.lookup session_id with
      | some x => (m.seat_of_session x).elim [] fun d => m.activateData d (some x) switches none
      | none => []
  | .activate_session_on_seat session_id seat_id switches =>
      match m.sessions.lookup session_id, m.seats.lookup seat_id with
      | some x, some d => m.activateData d (some x) switches none
      | _, _ => []
  | _ => []

end State

/-- The reply of `activated_cb`. -/
def ActivateData.reply (a : ActivateData) (num : Nat) :
    List (GDBusMethodInvocation × Option CkActivationError) :=
  a.context.toList.map fun context =>
    (context, if a.num = num then none else some .CK_SEAT_ERROR_GENERAL)

/-- The event makes the VT monitor emit `active-changed`. -/
def Event.changes (m : State) : Event → Bool
  | .process_queue num => m.vt_monitor.active_num ≠ num
  | _ => false

/-- Between two handlers of `active-changed`, or after the last one. -/
def emitting : List Call → Bool
  | .update_active_vt _ _ :: _ | .queue_processed :: _ => true
  | _ => false

def activation_next (s : ActivationLoop) : ActivationLabel → Option ActivationLoop
  | .dispatch context event =>
      (main_loop_next s.loop (.dispatch event)).map fun loop =>
        if event.changes s.loop.state then
          -- no other emission is running
          { s with loop := loop, connected := [], emission := s.emission ++ s.connected }
        else
          { s with
            loop := loop
            connected := s.connected ++ s.loop.state.requestData context event
            replies := s.replies ++
              (s.loop.state.answer event).toList.map fun r => (context, r.2) }
  | .call =>
      -- the emission ends when its handlers are through
      if s.loop.stack.head? = some .queue_processed ∧ s.emission.length ≠ 0 then none
      else (main_loop_next s.loop .call).map fun loop => { s with loop := loop }
  | .callout_done => (main_loop_next s.loop .callout_done).map fun loop => { s with loop := loop }
  | .activated_cb =>
      match s.emission with
      | a :: rest =>
        if emitting s.loop.stack then
          some { s with
            emission := rest
            replies := s.replies ++ a.reply s.loop.state.vt_monitor.active_num }
        else none
      | [] => none

/-- The main loop with the invocations of the activation requests. -/
def activation_loop : LTS.System ActivationLoop ActivationLabel where
  init s := main_loop.init s.loop ∧ s.connected = [] ∧ s.emission = [] ∧ s.replies = []
  next := activation_next

/-! ## Section 2: The law -/

def Event.isRequest : Event → Bool
  | .seat_activate_session .. | .seat_switch_to .. | .session_activate .. | .activate_session ..
  | .activate_session_on_seat .. => true
  | _ => false

/-- The invocation that a label brings in. -/
def ActivationLabel.invocation : ActivationLabel → List GDBusMethodInvocation
  | .dispatch context event => if event.isRequest then [context] else []
  | _ => []

def contexts (data : List ActivateData) : List GDBusMethodInvocation :=
  data.flatMap fun a => a.context.toList

def ActivationLoop.answered (s : ActivationLoop) : List GDBusMethodInvocation :=
  s.replies.map Prod.fst

/-- Every invocation has its one reply, and no handler that is about to run
    has an invocation. -/
structure AnsweredOnce (ls : List ActivationLabel) (s : ActivationLoop) : Prop where
  answered : ∀ context,
    s.answered.count context = (ls.flatMap ActivationLabel.invocation).count context
  unused : contexts s.emission = []

/-- The invocations that a change of the active VT uses again. -/
def ActivationLoop.reused (s : ActivationLoop) : ActivationLabel → List GDBusMethodInvocation
  | .dispatch _ event => if event.changes s.loop.state then contexts s.connected else []
  | _ => []

/-- If the active VT changes, no switch that the seat was asked for waits. -/
def NoneWaits (s : ActivationLoop) (label : ActivationLabel) : Prop :=
  ∀ context event, label = .dispatch context event → event.changes s.loop.state = true →
    ∀ a ∈ s.connected, a.context = none

theorem ActivationLabel.invocation_dispatch (context : GDBusMethodInvocation) (event : Event) :
    (ActivationLabel.dispatch context event).invocation =
      if event.isRequest then [context] else [] := rfl

theorem ActivationLoop.reused_dispatch (s : ActivationLoop) (context : GDBusMethodInvocation)
    (event : Event) : s.reused (.dispatch context event) =
      if event.changes s.loop.state then contexts s.connected else [] := rfl

theorem contexts_append (data data' : List ActivateData) :
    contexts (data ++ data') = contexts data ++ contexts data' := List.flatMap_append

theorem reused_eq_nil {s : ActivationLoop} {label : ActivationLabel} :
    s.reused label = [] ↔ NoneWaits s label := by
  cases label with
  | dispatch context event =>
    rw [ActivationLoop.reused_dispatch]
    unfold NoneWaits
    constructor
    · rintro hnil _ _ heq hchanges a ha
      cases heq
      rw [if_pos hchanges] at hnil
      exact Option.toList_eq_nil_iff.mp (List.flatMap_eq_nil_iff.mp hnil a ha)
    · intro hnone
      split
      · rename_i hchanges
        refine List.flatMap_eq_nil_iff.mpr fun a ha => ?_
        rw [hnone context event rfl hchanges a ha]
        rfl
      · rfl
  | call | callout_done | activated_cb =>
    refine iff_of_true rfl ?_
    rintro _ _ heq
    cases heq

theorem State.answer_isSome (m : State) (event : Event) :
    (m.answer event).isSome = event.isRequest := by
  cases event <;> rfl

theorem Event.changes_queue {m : State} {event : Event} (h : event.changes m = true) :
    ∃ num, event = .process_queue num := by
  cases event with
  | process_queue num => exact ⟨num, rfl⟩
  | _ => cases h

/-- A change of the active VT is no request. -/
theorem Event.not_isRequest {m : State} {event : Event} (h : event.changes m = true) :
    event.isRequest = false := by
  obtain ⟨num, rfl⟩ := Event.changes_queue h
  rfl

theorem answer_replies (m : State) (context : GDBusMethodInvocation) (event : Event) :
    ((m.answer event).toList.map fun r => (context, r.2)).map Prod.fst =
      (ActivationLabel.dispatch context event).invocation := by
  have hsome := m.answer_isSome event
  rw [ActivationLabel.invocation_dispatch]
  cases hanswer : m.answer event with
  | none =>
    rw [hanswer] at hsome
    rw [← hsome]
    rfl
  | some r =>
    rw [hanswer] at hsome
    rw [← hsome]
    rfl

/-! ## Section 3: Runs -/

/-- Each step answers the invocation that it brings in, and uses some again. -/
theorem activation_next_count {s s' : ActivationLoop} {label : ActivationLabel}
    (h : activation_next s label = some s') (c : GDBusMethodInvocation) :
    s'.answered.count c + (contexts s'.emission).count c =
        s.answered.count c + (contexts s.emission).count c + label.invocation.count c +
          (s.reused label).count c ∧
    (contexts s'.emission).count c ≤ (contexts s.emission).count c + (s.reused label).count c := by
  cases label with
  | dispatch context event =>
    obtain ⟨loop, -, rfl⟩ := Option.map_eq_some_iff.mp h
    rw [ActivationLoop.reused_dispatch]
    -- The VT changes and the handlers are called later, or the event is answered
    -- itself.
    by_cases hchanges : event.changes s.loop.state = true
    · rw [if_pos hchanges, if_pos hchanges, ActivationLabel.invocation_dispatch,
        Event.not_isRequest hchanges]
      simp only [ActivationLoop.answered, contexts_append, List.count_append, List.count_nil,
        Bool.false_eq_true, if_false]
      omega
    · rw [if_neg hchanges, if_neg hchanges]
      simp only [ActivationLoop.answered, List.map_append, answer_replies, List.count_append,
        List.count_nil]
      omega
  | call =>
    simp only [activation_next] at h
    split at h
    · cases h
    · obtain ⟨loop, -, rfl⟩ := Option.map_eq_some_iff.mp h
      exact ⟨rfl, Nat.le_refl _⟩
  | callout_done =>
    obtain ⟨loop, -, rfl⟩ := Option.map_eq_some_iff.mp h
    exact ⟨rfl, Nat.le_refl _⟩
  | activated_cb =>
    simp only [activation_next] at h
    split at h
    · rename_i a rest hemission
      split at h
      · cases h
        have hreply : (a.reply s.loop.state.vt_monitor.active_num).map Prod.fst =
            a.context.toList := by
          unfold ActivateData.reply
          cases a.context <;> rfl
        have hcons : contexts s.emission = a.context.toList ++ contexts rest := by
          rw [hemission]
          rfl
        simp only [ActivationLoop.answered, List.map_append, hreply, hcons, List.count_append,
          ActivationLabel.invocation, ActivationLoop.reused, List.count_nil]
        omega
      · cases h
    · cases h

theorem run_count {s s' : ActivationLoop} {ls : List ActivationLabel}
    (hrun : activation_loop.run s ls = some s') :
    ∃ reused : List GDBusMethodInvocation,
      (reused = [] ↔ activation_loop.Along (fun s l _ => NoneWaits s l) s ls) ∧ ∀ c,
        s'.answered.count c + (contexts s'.emission).count c =
          s.answered.count c + (contexts s.emission).count c +
            (ls.flatMap ActivationLabel.invocation).count c + reused.count c ∧
        (contexts s'.emission).count c ≤ (contexts s.emission).count c + reused.count c := by
  induction ls generalizing s with
  | nil =>
    cases hrun
    exact ⟨[], iff_of_true rfl trivial, fun c => ⟨rfl, Nat.le_refl _⟩⟩
  | cons l ls ih =>
    obtain ⟨t, hn, hrun⟩ := Option.bind_eq_some_iff.mp hrun
    obtain ⟨reused, hreused, hcount⟩ := ih hrun
    refine ⟨s.reused l ++ reused, ?_, fun c => ?_⟩
    · rw [List.append_eq_nil_iff, reused_eq_nil, hreused]
      constructor
      · rintro ⟨hl, hls⟩ t' hn'
        obtain rfl := Option.some.inj (hn.symm.trans hn')
        exact ⟨hl, hls⟩
      · intro hall
        exact hall t hn
    · obtain ⟨hstep, hstep'⟩ := activation_next_count hn c
      obtain ⟨hrest, hrest'⟩ := hcount c
      rw [List.flatMap_cons, List.count_append, List.count_append]
      omega

/-- The main loop goes its own way. -/
theorem activation_loop_reachable {s : ActivationLoop} (h : activation_loop.Reachable s) :
    main_loop.Reachable s.loop := by
  refine h.project ActivationLoop.loop (fun s (hinit : activation_loop.init s) => hinit.1)
    fun s l s' _ hn => ?_
  cases l with
  | dispatch context event =>
    obtain ⟨loop, hloop, rfl⟩ := Option.map_eq_some_iff.mp hn
    refine .inr ⟨.dispatch event, trivial, hloop.trans ?_⟩
    split <;> rfl
  | call =>
    simp only [activation_loop, activation_next] at hn
    split at hn
    · cases hn
    · obtain ⟨loop, hloop, rfl⟩ := Option.map_eq_some_iff.mp hn
      exact .inr ⟨.call, trivial, hloop⟩
  | callout_done =>
    obtain ⟨loop, hloop, rfl⟩ := Option.map_eq_some_iff.mp hn
    exact .inr ⟨.callout_done, trivial, hloop⟩
  | activated_cb =>
    simp only [activation_loop, activation_next] at hn
    split at hn
    · split at hn
      · cases hn
        exact .inl rfl
      · cases hn
    · cases hn

/-- **Replies to the activation requests.**  After a run every invocation has
    exactly one reply, and none is used again, exactly when the active VT
    never changes while a switch that the seat was asked for waits. -/
theorem activation_replies (ls : List ActivationLabel) {s₀ s : ActivationLoop}
    (hinit : activation_loop.init s₀) (hrun : activation_loop.run s₀ ls = some s) :
    AnsweredOnce ls s ↔ activation_loop.Along (fun s l _ => NoneWaits s l) s₀ ls := by
  obtain ⟨-, -, hemission, hreplies⟩ := hinit
  obtain ⟨reused, hreused, hcount⟩ := run_count hrun
  have hinit : ∀ c, s₀.answered.count c = 0 ∧ (contexts s₀.emission).count c = 0 := by
    intro c
    rw [ActivationLoop.answered, hreplies, hemission]
    exact ⟨rfl, rfl⟩
  have hnil : ∀ l : List GDBusMethodInvocation, (∀ c, l.count c = 0) → l = [] := by
    intro l hl
    exact List.eq_nil_iff_forall_not_mem.mpr fun c hc =>
      Nat.ne_of_gt (List.count_pos_iff.mpr hc) (hl c)
  rw [← hreused]
  constructor
  · intro h
    apply hnil
    intro c
    obtain ⟨heq, -⟩ := hcount c
    rw [h.answered, h.unused, (hinit c).1, (hinit c).2] at heq
    simp only [List.count_nil] at heq
    omega
  · rintro rfl
    have hunused : contexts s.emission = [] := by
      apply hnil
      intro c
      have hle := (hcount c).2
      rw [(hinit c).2, List.count_nil] at hle
      omega
    refine ⟨fun c => ?_, hunused⟩
    obtain ⟨heq, -⟩ := hcount c
    rw [hunused, (hinit c).1, (hinit c).2] at heq
    simp only [List.count_nil] at heq
    omega

/-! ## Section 4: A seat with one console -/

/-- The daemon on VT 1, about to load one static seat, without requests. -/
def one_seat_asked : ActivationLoop := ⟨one_seat, [], [], []⟩

/-- A label of the main loop that is no request. -/
def Label.unasked : Label → ActivationLabel
  | .dispatch event => .dispatch 0 event
  | .call => .call
  | .callout_done => .callout_done

/-- A session on VT 2 opens while VT 1 is active. -/
def other_vt_opens : List Label :=
  seat_loaded ++ [.dispatch (.open_session (cstr ":1.5") (some (1000, 7)) (cstr "c1") true),
    .dispatch (.job_completed 0 (some (text_session 2))), .call, .callout_done, .call, .call]

/-- The session activates itself: its invocation is answered once. -/
theorem activation_replies_session :
    ∃ s, activation_loop.run one_seat_asked (other_vt_opens.map Label.unasked ++
        [.dispatch 7 (.session_activate 0 true)]) = some s ∧
      s.replies = [(7, none)] ∧
      AnsweredOnce (other_vt_opens.map Label.unasked ++ [.dispatch 7 (.session_activate 0 true)])
        s := by
  have hrun : (activation_loop.run one_seat_asked (other_vt_opens.map Label.unasked ++
      [.dispatch 7 (.session_activate 0 true)])).map (fun s => s.replies) = some [(7, none)] := by
    rfl
  obtain ⟨s, hs, hreplies⟩ := Option.map_eq_some_iff.mp hrun
  refine ⟨s, hs, hreplies, (activation_replies _
    ⟨⟨true, 1, [⟨true, true⟩], rfl⟩, rfl, rfl, rfl⟩ hs).mpr ?_⟩
  -- the VT does not change in this run
  have hquiet : ∀ l ∈ other_vt_opens.map Label.unasked ++ [.dispatch 7 (.session_activate 0 true)],
      ∀ context num, l ≠ .dispatch context (.process_queue num) := by
    simp [other_vt_opens, seat_loaded, Label.unasked]
  apply LTS.System.along_of_forall
  rintro l hl t t' context event rfl hchanges
  obtain ⟨num, rfl⟩ := Event.changes_queue hchanges
  exact absurd rfl (hquiet _ hl context num)

/-- The seat is asked to switch to VT 2, answers, and answers again when it
    is there. -/
def switched_to_vt : List ActivationLabel :=
  other_vt_opens.map Label.unasked ++
    [.dispatch 7 (.seat_switch_to 0 2 true), .dispatch 0 (.process_queue 2), .call,
      .callout_done, .activated_cb, .call]

theorem switch_answered_twice :
    ∃ s, activation_loop.run one_seat_asked switched_to_vt = some s ∧
      activation_loop.Reachable s ∧ s.loop.Quiescent ∧ s.replies = [(7, none), (7, none)] ∧
      ¬ AnsweredOnce switched_to_vt s := by
  have hrun : (activation_loop.run one_seat_asked switched_to_vt).map
      (fun s => (s.loop.stack, s.replies)) = some ([], [(7, none), (7, none)]) := by
    rfl
  obtain ⟨s, hs, heq⟩ := Option.map_eq_some_iff.mp hrun
  simp only [Prod.mk.injEq] at heq
  obtain ⟨hstack, hreplies⟩ := heq
  have hinit : activation_loop.Reachable one_seat_asked :=
    .init ⟨⟨true, 1, [⟨true, true⟩], rfl⟩, rfl, rfl, rfl⟩
  refine ⟨s, hs, hinit.run hs, hstack, hreplies, fun honce => ?_⟩
  have htwice := honce.answered 7
  rw [ActivationLoop.answered, hreplies] at htwice
  revert htwice
  decide

end CkManager
