import Mathlib.Data.List.Perm.Basic
import ConsoleKit.SystemAction.Protocol

/-! # The replies to the calls

    A call of a system action is answered where it is refused, where its
    command has run, or not at all.  While it waits, polkit has it, or the
    timer of the pending action does.

    This module provides:
    - `outstanding`: the calls that wait,
    - `Answered`: every call is answered once, or waits,
    - `replies_exact`: the runs in which this holds.
-/

namespace SystemAction

open Inhibit Log

/-! ## Section 1: The law -/

/-- The invocations that a label brings in. -/
def ActionLabel.calls : ActionLabel → List Context
  | .call _ c => [c.context]
  | _ => []

/-- The invocations that wait for a timer. -/
def SystemActions.waiting (m : SystemActions) : List Context :=
  m.timeouts.filterMap fun t => (m.data t.data).map fun data => data.context

/-- The invocations that were answered. -/
def SystemActions.answered (m : SystemActions) : List Context := m.replies.map Prod.fst

/-- The invocations that wait for polkit or for a timer. -/
def Manager.outstanding (m : Manager) : List Context :=
  m.pending.map (fun data => data.context) ++ m.daemon.listener.waiting

/-- Every invocation has its one reply, or is going to get it from polkit or
    the timer. -/
def Answered (calls : List Context) (m : Manager) : Prop :=
  ∀ context, m.daemon.listener.answered.count context + m.outstanding.count context =
    calls.count context

/-- A call that no lock blocks and that RBAC does not authorize. -/
def Unauthorized (backend : AuthBackend) (m : Manager) : ActionLabel → Prop
  | .call method call => backend = .rbac ∧ call.rbac_authorized = false ∧
      get_inhibit_status m.daemon method.callback.event .block = false
  | _ => False

instance (backend : AuthBackend) (m : Manager) (l : ActionLabel) :
    Decidable (Unauthorized backend m l) :=
  match l with
  | .call _ _ => inferInstanceAs (Decidable (_ ∧ _ ∧ _))
  | .auth_ready _ _ | .inhibit _ | .timeout _ => inferInstanceAs (Decidable False)

/-! ## Section 2: The pending action -/

section steps
variable {spawn : Nat → String → Option String} {backend : AuthBackend}

/-- The replies and the waiting calls of an invocation. -/
def SystemActions.owed (m : SystemActions) (context : Context) : Nat :=
  m.answered.count context + m.waiting.count context

theorem Quiet.waiting {m : SystemActions} (h : Quiet m) : m.waiting = [] := by
  rw [SystemActions.waiting, h.timeouts, List.filterMap_nil]

theorem PendingAction.waiting {m : SystemActions} {a : AuthorizedCallback} {ref : DataRef}
    (h : PendingAction m a ref) {d : SystemActionData} (hd : m.data ref = some d) :
    m.waiting = [d.context] := by
  obtain ⟨interval, htimeouts⟩ := h.timeouts
  simp [SystemActions.waiting, htimeouts, hd]

theorem throw_error_owed (m : SystemActions) (context : Context) (code : CkManagerError)
    (message : String) (c : Context) :
    (m.throw_error context code message).owed c = m.owed c + [context].count c := by
  have hanswered : (m.throw_error context code message).answered = m.answered ++ [context] := by
    simp [SystemActions.answered, SystemActions.throw_error]
  have hwaiting : (m.throw_error context code message).waiting = m.waiting := rfl
  rw [SystemActions.owed, hanswered, hwaiting, List.count_append, SystemActions.owed]
  omega

/-- A continuation answers its invocation, or makes it wait. -/
theorem start_system_action_owed {m : SystemActions} {accepted : List AuthorizedCallback}
    (h : Protocol m accepted) (values : ActionValues) (delayed : Bool) (context c : Context) :
    (start_system_action values delayed m context).owed c = m.owed c + [context].count c := by
  by_cases hid : m.system_action_idle_id = 0
  · have hq := (h.quiet hid).1
    have hanswered : (start_system_action values delayed m context).answered = m.answered := by
      simp only [SystemActions.answered, start_system_action, hid]
      cases delayed <;> rfl
    have hwaiting : (start_system_action values delayed m context).waiting = [context] := by
      simp only [SystemActions.waiting, start_system_action, hid]
      cases delayed <;> simp [hq.timeouts, SystemActions.emit_prepare_for]
    rw [SystemActions.owed, hanswered, hwaiting, SystemActions.owed, hq.waiting]
    simp
  · rw [start_system_action_busy _ _ _ _ hid]
    exact throw_error_owed m context _ _ c

variable (spawn) in
/-- Running the action answers its invocation. -/
theorem system_action_idle_cb_answered {m : SystemActions} {ref : DataRef}
    {d : SystemActionData} (hd : m.data ref = some d) (hsignal : d.signal ≠ .LAST_SIGNAL) :
    (system_action_idle_cb spawn m ref).answered = m.answered ++ [d.context] := by
  unfold system_action_idle_cb
  rw [hd]
  obtain ⟨reply, hdo⟩ := do_system_action_eq spawn m d.context d.command
    d.event_type d.description
  dsimp only
  rw [hdo]
  split
  · rename_i hlast
    exact absurd hlast hsignal
  · simp [SystemActions.answered, SystemActions.emit_prepare_for]

/-- The pending action is run: its invocation waits no longer, and has its
    reply. -/
theorem PendingAction.ran_owed {m m' : SystemActions} {a : AuthorizedCallback} {ref : DataRef}
    (hp : PendingAction m a ref) {d : SystemActionData} (hd : m.data ref = some d)
    (hquiet : Quiet m') (hanswered : m'.answered = m.answered ++ [d.context]) (c : Context) :
    m'.owed c = m.owed c := by
  rw [SystemActions.owed, SystemActions.owed, hquiet.waiting, hp.waiting hd, hanswered,
    List.count_append, List.count_nil, Nat.add_zero]

theorem dispatch_timeout_owed {m m' : SystemActions} {accepted : List AuthorizedCallback}
    (h : Protocol m accepted) {id : Nat} (hn : dispatch_timeout spawn m id = some m')
    (c : Context) : m'.owed c = m.owed c := by
  by_cases hid : m.system_action_idle_id = 0
  · simp [dispatch_timeout, (h.quiet hid).1.timeouts] at hn
  · obtain ⟨executed, a, ref, hp, -, -, -⟩ := h.pending hid
    obtain ⟨d, hd, -, hsignal⟩ := hp.data
    obtain ⟨-, hex⟩ := hp.dispatch_timeout hn
    apply hp.ran_owed hd hex.quiet
    obtain ⟨interval, htimeouts⟩ := hp.timeouts
    obtain ⟨t, ht, rfl⟩ := Option.map_eq_some_iff.mp hn
    have hmem := List.mem_of_find?_eq_some ht
    rw [htimeouts, List.mem_singleton] at hmem
    subst hmem
    exact system_action_idle_cb_answered spawn hd (by rw [hsignal]; exact a.prepareFor_ne_last)

theorem changed_event_owed {m : SystemActions} {accepted : List AuthorizedCallback}
    (h : Protocol m accepted) (mode : CkInhibitMode) (event : CkInhibitEvent) (enabled : Bool)
    (c : Context) :
    (on_inhibit_manager_changed_event spawn m mode event enabled).owed c = m.owed c := by
  rcases h.changed_event_cases spawn mode event enabled with
    ⟨heq, -⟩ | ⟨hptr, hmode, henabled, hevent, executed, a, -, hex⟩
  · rw [heq]
  · have hid : m.system_action_idle_id ≠ 0 := fun hid => hptr (h.quiet hid).1.pointer
    obtain ⟨-, a', ref, hp, -, -, -⟩ := h.pending hid
    obtain ⟨d, hd, -, hsignal⟩ := hp.data
    apply hp.ran_owed hd hex.quiet
    have href := hp.pointer.resolve_left hptr
    have hkind : ¬ (d.signal ≠ .PREPARE_FOR_SLEEP ∧ d.signal ≠ .PREPARE_FOR_SHUTDOWN) := by
      rw [hsignal]
      cases a' <;> decide
    have hevent' : ¬ (event ≠ .suspend ∧ event ≠ .shutdown) := by
      rcases hevent with rfl | rfl <;> simp
    simp only [on_inhibit_manager_changed_event, if_neg hid, href, hd, if_neg hkind,
      if_neg hevent', hmode, henabled]
    exact system_action_idle_cb_answered spawn
      (m := { g_source_remove m m.system_action_idle_id with system_action_idle_id := 0 })
      hd (by rw [hsignal]; exact a'.prepareFor_ne_last)

/-! ## Section 3: The steps of the manager -/

/-- The replies and the waiting calls of an invocation. -/
def Manager.owed (m : Manager) (context : Context) : Nat :=
  m.daemon.listener.answered.count context + m.outstanding.count context

theorem Manager.owed_eq (m : Manager) (c : Context) :
    m.owed c = (m.pending.map fun data => data.context).count c + m.daemon.listener.owed c := by
  rw [Manager.owed, Manager.outstanding, List.count_append, SystemActions.owed]
  omega

theorem callback_owed {m : Manager} (h : ManagerValid m) (a : AuthorizedCallback)
    (context c : Context) :
    (m.callback a context).owed c = m.owed c + [context].count c := by
  rw [Manager.owed_eq, Manager.owed_eq, Manager.callback_daemon]
  dsimp only
  rw [start_system_action_owed h.protocol, ← Nat.add_assoc]
  rfl

theorem manager_throw_error_owed (m : Manager) (context : Context) (code : CkManagerError)
    (message : String) (c : Context) :
    (m.throw_error context code message).owed c = m.owed c + [context].count c := by
  rw [Manager.owed_eq, Manager.owed_eq, Manager.throw_error]
  dsimp only
  rw [throw_error_owed, ← Nat.add_assoc]

/-- A waiting call that polkit answers leaves the list of waiting calls. -/
theorem eraseIdx_owed {m : Manager} {index : Nat} {data : AuthorizedCallbackData}
    (hdata : m.pending[index]? = some data) (c : Context) :
    Manager.owed { m with pending := m.pending.eraseIdx index } c + [data.context].count c =
      m.owed c := by
  rw [Manager.owed_eq, Manager.owed_eq]
  dsimp only
  obtain ⟨hindex, rfl⟩ := List.getElem?_eq_some_iff.mp hdata
  have hperm := (List.getElem_cons_eraseIdx_perm hindex).map fun data => data.context
  have hcount := hperm.count_eq c
  rw [List.map_cons, List.count_cons] at hcount
  rw [List.count_singleton]
  omega

variable (backend) in
/-- The invocation that a step loses: RBAC does not authorize it, and nobody
    answers. -/
def lost (m : Manager) (l : ActionLabel) : List Context :=
  if Unauthorized backend m l then l.calls else []

theorem lost_eq_nil {m : Manager} {l : ActionLabel} :
    lost backend m l = [] ↔ ¬ Unauthorized backend m l := by
  unfold lost
  split
  · rename_i h
    cases l with
    | call method call => simp [ActionLabel.calls, h]
    | _ => exact h.elim
  · rename_i h
    simp [h]

theorem lost_call {m : Manager} {method : Method} {call : ActionCall}
    (h : ¬ (backend = .rbac ∧ call.rbac_authorized = false ∧
      get_inhibit_status m.daemon method.callback.event .block = false)) :
    lost backend m (.call method call) = [] := lost_eq_nil.mpr h

/-- Each step answers the invocation it brings in, makes it wait or loses it. -/
theorem action_next_owed {m m' : Manager} {l : ActionLabel} (h : ManagerValid m)
    (hn : action_next spawn backend m l = some m') (c : Context) :
    m'.owed c + (lost backend m l).count c = m.owed c + l.calls.count c := by
  cases l with
  | call method call =>
    obtain ⟨interactivity, action, heq⟩ := method.handler_eq backend m call
    obtain rfl := Option.some.inj hn
    rw [heq]
    have hcalls : (ActionLabel.call method call).calls = [call.context] := rfl
    -- A call is answered at once, is owed an answer from now on, or is lost.
    cases hblocked : get_inhibit_status m.daemon method.callback.event .block with
    | true =>
      rw [if_pos rfl, lost_call (by simp [hblocked]), manager_throw_error_owed, hcalls]
      rfl
    | false =>
      rw [if_neg Bool.false_ne_true]
      cases backend with
      | polkit =>
        rw [lost_call (by simp), hcalls, check_system_action, Manager.owed_eq, Manager.owed_eq]
        simp only [List.map_append, List.count_append, List.map_cons, List.map_nil,
          List.count_nil]
        omega
      | none =>
        rw [lost_call (by simp), hcalls]
        exact callback_owed h method.callback call.context c
      | rbac =>
        cases hauthorized : call.rbac_authorized with
        | true =>
          rw [lost_call (by simp [hauthorized]), hcalls, check_system_action, hauthorized]
          exact callback_owed h method.callback call.context c
        | false =>
          rw [lost, if_pos ⟨rfl, hauthorized, hblocked⟩, check_system_action, hauthorized]
          rfl
  | auth_ready index result =>
    obtain ⟨data, hdata, rfl⟩ := Option.map_eq_some_iff.mp hn
    -- The call leaves the pending ones and is answered or owed.
    have herase := eraseIdx_owed hdata c
    have hvalid : ManagerValid { m with pending := m.pending.eraseIdx index } :=
      ⟨h.locks, h.protocol⟩
    have hcalls : (ActionLabel.auth_ready index result).calls = [] := rfl
    rw [show lost backend m (.auth_ready index result) = [] from if_neg id, hcalls]
    cases result with
    | authorized => rw [auth_ready_callback, callback_owed hvalid, herase]
    | error message => rw [auth_ready_callback, manager_throw_error_owed, herase]
    | challenge => rw [auth_ready_callback, manager_throw_error_owed, herase]
    | unauthorized => rw [auth_ready_callback, manager_throw_error_owed, herase]
  | inhibit l =>
    obtain ⟨w, hw, rfl⟩ := Option.map_eq_some_iff.mp hn
    obtain ⟨enabled, hnotified⟩ := inhibit_next_notified h.locks hw
    -- Locks that come and go do not change what is owed.
    have hlistener := hnotified.preserves
      (P := fun l => Protocol l m.accepted ∧ l.owed c = m.daemon.listener.owed c)
      (fun l mode event hl => ⟨hl.1.changed_event mode event enabled,
        (changed_event_owed hl.1 mode event enabled c).trans hl.2⟩) ⟨h.protocol, rfl⟩
    rw [show lost backend m (.inhibit l) = [] from if_neg id, Manager.owed_eq, Manager.owed_eq]
    dsimp only
    rw [hlistener.2]
    rfl
  | timeout source =>
    obtain ⟨l, hl, rfl⟩ := Option.map_eq_some_iff.mp hn
    rw [show lost backend m (.timeout source) = [] from if_neg id, Manager.owed_eq,
      Manager.owed_eq]
    dsimp only
    rw [dispatch_timeout_owed h.protocol hl]
    rfl

/-! ## Section 4: Whole runs -/

/-- The invocations that a run brings in. -/
def calls (ls : List ActionLabel) : List Context := ls.flatMap ActionLabel.calls

/-- No step of a run loses an invocation. -/
def NoneLost (spawn : Nat → String → Option String) (backend : AuthBackend) (m : Manager)
    (ls : List ActionLabel) : Prop :=
  (action_system spawn backend).Along (fun m l _ => ¬ Unauthorized backend m l) m ls

/-- A run answers the invocations that it brings in, up to those it loses. -/
theorem run_owed {m m' : Manager} {ls : List ActionLabel} (h : ManagerValid m)
    (hrun : (action_system spawn backend).run m ls = some m') :
    ∃ gone : List Context, (gone = [] ↔ NoneLost spawn backend m ls) ∧
      ∀ c, m'.owed c + gone.count c = m.owed c + (calls ls).count c := by
  induction ls generalizing m with
  | nil =>
    cases hrun
    exact ⟨[], iff_of_true rfl trivial, fun c => rfl⟩
  | cons l ls ih =>
    obtain ⟨t, hn, hrun⟩ := Option.bind_eq_some_iff.mp hrun
    obtain ⟨gone, hgone, howed⟩ := ih (h.step (action_next_step hn)) hrun
    refine ⟨lost backend m l ++ gone, ?_, fun c => ?_⟩
    · rw [List.append_eq_nil_iff, lost_eq_nil, hgone]
      constructor
      · rintro ⟨hl, hls⟩ t' hn'
        obtain rfl := Option.some.inj (hn.symm.trans hn')
        exact ⟨hl, hls⟩
      · intro hall
        exact hall t hn
    · have hstep := action_next_owed h hn c
      have hrest := howed c
      rw [calls, List.flatMap_cons, List.count_append, List.count_append]
      rw [calls] at hrest
      omega

end steps

/-- **Replies to the system actions.**  After a run every call has its one
    reply, or waits for it, exactly when the run has no call that passes the
    test for locks and is not authorized by RBAC. -/
theorem replies_exact (spawn : Nat → String → Option String) (backend : AuthBackend)
    (ls : List ActionLabel) (m : Manager)
    (hrun : (action_system spawn backend).run manager_init ls = some m) :
    Answered (calls ls) m ↔ NoneLost spawn backend manager_init ls := by
  obtain ⟨gone, hgone, howed⟩ := run_owed init_managerValid hrun
  have hinit : ∀ c, manager_init.owed c = 0 := fun c => rfl
  rw [← hgone]
  constructor
  · intro hall
    rw [List.eq_nil_iff_forall_not_mem]
    intro c hc
    have hpos := List.count_pos_iff.mpr hc
    have hc := howed c
    have := hall c
    rw [hinit, Manager.owed] at hc
    omega
  · rintro rfl c
    have hc := howed c
    rw [hinit, List.count_nil] at hc
    rw [← Nat.zero_add (List.count c (calls ls)), ← hc]
    rfl

/-- A suspend that polkit authorizes and the timer runs. -/
theorem replies_exact_suspend :
    ∃ m, (action_system (fun _ _ => none) .polkit).run manager_init
        [.call .suspend (soloCall 7), .auth_ready 0 .authorized, .timeout 1] = some m ∧
      m.daemon.listener.replies = [(7, .value)] ∧ Answered [7] m := by
  have hrun : ((action_system (fun _ _ => none) .polkit).run manager_init
      [.call .suspend (soloCall 7), .auth_ready 0 .authorized, .timeout 1]).map
      (fun m => m.daemon.listener.replies) = some [(7, .value)] := by decide
  obtain ⟨m, hm, hreplies⟩ := Option.map_eq_some_iff.mp hrun
  refine ⟨m, hm, hreplies, (replies_exact _ _ _ m hm).mpr ?_⟩
  apply LTS.System.along_of_forall
  intro l hl s s' hu
  cases l with
  | call method call => cases hu.1
  | auth_ready index result => exact hu
  | inhibit l => exact hu
  | timeout id => exact hu

/-- A user without the RBAC authorization calls `Stop`, and waits for ever. -/
theorem stop_without_reply :
    ∃ m, (action_system (fun _ _ => none) .rbac).run manager_init
        [.call .stop (soloCall 7)] = some m ∧
      m.daemon.listener.replies = [] ∧ m.outstanding = [] ∧ ¬ Answered [7] m := by
  refine ⟨manager_init, rfl, rfl, rfl, fun hanswered => ?_⟩
  exact absurd (hanswered 7) (by decide)

end SystemAction
