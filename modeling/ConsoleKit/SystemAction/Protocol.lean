import ConsoleKit.SystemAction.Model
import ConsoleKit.Inhibit.Invariant

/-! # The pending action

    `Protocol` describes the manager's fields in every reachable state: no
    action is pending and nothing is allocated, or exactly one is, with one
    timer armed for it.  Every step keeps it, whatever the inhibit manager
    signals and in whatever order calls, answers and timers come.
-/

namespace SystemAction

open Inhibit Log

/-! ## Section 1: What a continuation stands for -/

def AuthorizedCallback.values : AuthorizedCallback → ActionValues
  | .do_restart => restart_values
  | .do_stop => stop_values
  | .do_suspend => suspend_values
  | .do_hibernate => hibernate_values
  | .do_hybrid_sleep => hybrid_sleep_values

/-- The signal that announces the action. -/
def AuthorizedCallback.prepareFor : AuthorizedCallback → SIGNALS
  | .do_restart | .do_stop => .PREPARE_FOR_SHUTDOWN
  | .do_suspend | .do_hibernate | .do_hybrid_sleep => .PREPARE_FOR_SLEEP

theorem AuthorizedCallback.values_emits (a : AuthorizedCallback) :
    a.values.emits = a.prepareFor := by
  cases a <;> rfl

theorem AuthorizedCallback.values_signal (a : AuthorizedCallback) :
    a.values.signal = a.prepareFor := by
  cases a <;> rfl

theorem AuthorizedCallback.prepareFor_cases (a : AuthorizedCallback) :
    a.prepareFor = .PREPARE_FOR_SHUTDOWN ∨ a.prepareFor = .PREPARE_FOR_SLEEP := by
  cases a <;> simp [AuthorizedCallback.prepareFor]

/-- Every continuation is the common body with its own values, and asks for
    delay locks of its own class. -/
theorem AuthorizedCallback.call_eq (a : AuthorizedCallback) (w : Daemon) (context : Context) :
    a.call w context =
      World.start w a.values (fun w => get_inhibit_status w a.event .delay) context := by
  cases a <;> rfl

/-- The signals of actions that are over. -/
def announced (actions : List AuthorizedCallback) : List (SIGNALS × Bool) :=
  actions.flatMap fun a => [(a.prepareFor, true), (a.prepareFor, false)]

theorem announced_concat (actions : List AuthorizedCallback) (a : AuthorizedCallback) :
    announced (actions ++ [a]) =
      announced actions ++ [(a.prepareFor, true)] ++ [(a.prepareFor, false)] := by
  simp [announced, List.flatMap_append]

/-! ## Section 2: The invariant -/

/-- No action is pending. -/
structure Quiet (m : SystemActions) : Prop where
  idle_id : m.system_action_idle_id = 0
  pointer : m.system_action_data = none
  data : ∀ ref, m.data ref = none
  timeouts : m.timeouts = []

/-- The action `a` is pending: its data is the only one allocated and the
    only timer is the one that runs it. -/
structure PendingAction (m : SystemActions) (a : AuthorizedCallback) (ref : DataRef) : Prop where
  idle_id : m.system_action_idle_id ≠ 0
  pointer : m.system_action_data = none ∨ m.system_action_data = some ref
  data : ∃ d, m.data ref = some d ∧ d.command = a.values.command ∧ d.signal = a.prepareFor
  data_ne : ∀ ref', ref' ≠ ref → m.data ref' = none
  timeouts : ∃ interval, m.timeouts = [⟨m.system_action_idle_id, interval, ref⟩]

/-- The protocol of the pending action, for the actions accepted so far.
    The executed ones have run their command once, in order, and announced
    it by a TRUE, FALSE pair; at most one more is accepted and pending. -/
def Protocol (m : SystemActions) (accepted : List AuthorizedCallback) : Prop :=
  m.fault = false ∧ 0 < m.next_source ∧
  ∃ executed : List AuthorizedCallback,
    m.commands = executed.map (fun a => a.values.command) ∧
    ((Quiet m ∧ accepted = executed ∧ m.signals = announced executed) ∨
      ∃ a ref, PendingAction m a ref ∧ accepted = executed ++ [a] ∧
        m.signals = announced executed ++ [(a.prepareFor, true)])

theorem init_protocol : Protocol system_actions_init [] :=
  ⟨rfl, by decide, [], rfl, .inl ⟨⟨rfl, rfl, fun _ => rfl, rfl⟩, rfl, rfl⟩⟩

theorem Protocol.quiet {m : SystemActions} {accepted : List AuthorizedCallback}
    (h : Protocol m accepted) (hid : m.system_action_idle_id = 0) :
    Quiet m ∧ m.commands = accepted.map (fun a => a.values.command) ∧
      m.signals = announced accepted := by
  obtain ⟨_, _, executed, hcommands, ⟨hq, rfl, hs⟩ | ⟨a, ref, hp, _, _⟩⟩ := h
  · exact ⟨hq, hcommands, hs⟩
  · exact absurd hid hp.idle_id

theorem Protocol.pending {m : SystemActions} {accepted : List AuthorizedCallback}
    (h : Protocol m accepted) (hid : m.system_action_idle_id ≠ 0) :
    ∃ executed a ref, PendingAction m a ref ∧ accepted = executed ++ [a] ∧
      m.commands = executed.map (fun a => a.values.command) ∧
      m.signals = announced executed ++ [(a.prepareFor, true)] := by
  obtain ⟨_, _, executed, hcommands, ⟨hq, _, _⟩ | ⟨a, ref, hp, hacc, hs⟩⟩ := h
  · exact absurd hq.idle_id hid
  · exact ⟨executed, a, ref, hp, hacc, hcommands, hs⟩

/-- Replies are not part of the protocol. -/
theorem Protocol.throw_error {m : SystemActions} {accepted : List AuthorizedCallback}
    (h : Protocol m accepted) (context : Context) (code : CkManagerError) (message : String) :
    Protocol (m.throw_error context code message) accepted := by
  obtain ⟨hfault, hsource, executed, hcommands, ⟨hq, hacc, hs⟩ | ⟨a, ref, hp, hacc, hs⟩⟩ := h
  · exact ⟨hfault, hsource, executed, hcommands,
      .inl ⟨⟨hq.idle_id, hq.pointer, hq.data, hq.timeouts⟩, hacc, hs⟩⟩
  · exact ⟨hfault, hsource, executed, hcommands, .inr ⟨a, ref,
      ⟨hp.idle_id, hp.pointer, hp.data, hp.data_ne, hp.timeouts⟩, hacc, hs⟩⟩

/-! ## Section 3: The steps -/

section steps
variable {spawn : Nat → String → Option String} {backend : AuthBackend}

/-- An action that finds another one pending is refused, and nothing but
    the error reply happens. -/
theorem start_system_action_busy (values : ActionValues) (delayed : Bool) (m : SystemActions)
    (context : Context) (hid : m.system_action_idle_id ≠ 0) :
    start_system_action values delayed m context =
      m.throw_error context .BUSY
        "Attempting to perform a system action while one is in progress" :=
  if_pos hid

/-- What accepting an action does. -/
structure Started (values : ActionValues) (delayed : Bool) (m m' : SystemActions) : Prop where
  idle_id : m'.system_action_idle_id = m.next_source
  next_source : m'.next_source = m.next_source + 1
  pointer : m'.system_action_data =
    if delayed then some m.next_data else m.system_action_data
  data : ∃ context, m'.data = Function.update m.data m.next_data (some {
    context := context
    command := values.command
    event_type := values.event_type
    description := values.description
    signal := values.signal })
  timeouts : ∃ interval, m'.timeouts = m.timeouts ++ [⟨m.next_source, interval, m.next_data⟩]
  signals : m'.signals = m.signals ++ [(values.emits, true)]
  commands : m'.commands = m.commands
  fault : m'.fault = m.fault

theorem start_system_action_idle (values : ActionValues) (delayed : Bool) (m : SystemActions)
    (context : Context) (hid : m.system_action_idle_id = 0) :
    Started values delayed m (start_system_action values delayed m context) := by
  unfold start_system_action
  rw [if_neg (by simpa using hid)]
  cases delayed <;>
    exact ⟨rfl, rfl, rfl, ⟨context, rfl⟩, ⟨_, rfl⟩, rfl, rfl, rfl⟩

theorem Protocol.start {m : SystemActions} {accepted : List AuthorizedCallback}
    (h : Protocol m accepted) (a : AuthorizedCallback) (delayed : Bool) (context : Context) :
    Protocol (start_system_action a.values delayed m context)
      (if m.system_action_idle_id = 0 then accepted ++ [a] else accepted) := by
  by_cases hid : m.system_action_idle_id = 0
  · obtain ⟨hq, hcommands, hs⟩ := h.quiet hid
    have hst := start_system_action_idle a.values delayed m context hid
    generalize start_system_action a.values delayed m context = m' at hst
    obtain ⟨context', hdata⟩ := hst.data
    obtain ⟨interval, htimeouts⟩ := hst.timeouts
    rw [if_pos hid]
    refine ⟨hst.fault.trans h.1, by rw [hst.next_source]; omega, accepted,
      hst.commands.trans hcommands, .inr ⟨a, m.next_data, ?_, rfl, ?_⟩⟩
    · exact {
        idle_id := by rw [hst.idle_id]; exact Nat.ne_of_gt h.2.1
        pointer := by
          rw [hst.pointer]
          split
          · exact .inr rfl
          · exact .inl hq.pointer
        data := ⟨_, by rw [hdata, Function.update_self], rfl, a.values_signal⟩
        data_ne := fun ref' hne => by
          rw [hdata, Function.update_of_ne hne]
          exact hq.data ref'
        timeouts := ⟨interval, by rw [htimeouts, hst.idle_id, hq.timeouts]; rfl⟩ }
    · rw [hst.signals, hs, a.values_emits]
  · rw [start_system_action_busy _ _ _ _ hid, if_neg hid]
    exact h.throw_error context _ _

variable (spawn) in
/-- The command runs and one reply is sent. -/
theorem do_system_action_eq (m : SystemActions) (context : Context) (command : String)
    (event_type : CkLogEventType) (description : String) :
    ∃ reply, do_system_action spawn m context command event_type description =
      { m with
        logged := m.logged ++ [event_type]
        commands := m.commands ++ [command]
        replies := m.replies ++ [(context, reply)] } := by
  unfold do_system_action
  dsimp only [log_system_action_event]
  split
  · exact ⟨_, rfl⟩
  · exact ⟨_, rfl⟩

/-- What running a pending action does. -/
structure Ran (d : SystemActionData) (ref : DataRef) (m m' : SystemActions) : Prop where
  idle_id : m'.system_action_idle_id = 0
  pointer : m'.system_action_data = none
  next_source : m'.next_source = m.next_source
  data : m'.data = Function.update m.data ref none
  signals : m'.signals = m.signals ++ [(d.signal, false)]
  commands : m'.commands = m.commands ++ [d.command]
  fault : m'.fault = m.fault

variable (spawn) in
theorem system_action_idle_cb_ran {m : SystemActions} {ref : DataRef} {d : SystemActionData}
    (hd : m.data ref = some d) (hsignal : d.signal ≠ .LAST_SIGNAL) :
    Ran d ref m (system_action_idle_cb spawn m ref) := by
  unfold system_action_idle_cb
  rw [hd]
  obtain ⟨reply, hdo⟩ := do_system_action_eq spawn m d.context d.command
    d.event_type d.description
  dsimp only
  rw [hdo]
  split
  · rename_i hlast
    exact absurd hlast hsignal
  · exact ⟨rfl, rfl, rfl, rfl, rfl, rfl, rfl⟩

theorem system_action_idle_cb_timeouts (m : SystemActions) (ref : DataRef) :
    (system_action_idle_cb spawn m ref).timeouts = m.timeouts := by
  unfold system_action_idle_cb
  cases hd : m.data ref with
  | none => rfl
  | some d =>
    obtain ⟨reply, hdo⟩ := do_system_action_eq spawn m d.context d.command
      d.event_type d.description
    dsimp only
    rw [hdo]
    split <;> rfl

theorem AuthorizedCallback.prepareFor_ne_last (a : AuthorizedCallback) :
    a.prepareFor ≠ .LAST_SIGNAL := by
  cases a <;> decide

/-- The pending action `a` has been run and nothing is left of it. -/
structure Executed (a : AuthorizedCallback) (m m' : SystemActions) : Prop where
  quiet : Quiet m'
  next_source : m'.next_source = m.next_source
  signals : m'.signals = m.signals ++ [(a.prepareFor, false)]
  commands : m'.commands = m.commands ++ [a.values.command]
  fault : m'.fault = m.fault

theorem PendingAction.ran {m m' : SystemActions} {a : AuthorizedCallback} {ref : DataRef}
    (hp : PendingAction m a ref) {d : SystemActionData} (hd : m.data ref = some d)
    (hran : Ran d ref m m') (htimeouts : m'.timeouts = []) : Executed a m m' := by
  obtain ⟨d', hd', hcommand, hsignal⟩ := hp.data
  have hdd : d' = d := by
    rw [hd] at hd'
    exact (Option.some.inj hd').symm
  subst hdd
  exact {
    quiet := {
      idle_id := hran.idle_id
      pointer := hran.pointer
      data := fun ref' => by
        rw [hran.data]
        by_cases href : ref' = ref
        · rw [href, Function.update_self]
        · rw [Function.update_of_ne href]
          exact hp.data_ne ref' href
      timeouts := htimeouts }
    next_source := hran.next_source
    signals := by rw [hran.signals, hsignal]
    commands := by rw [hran.commands, hcommand]
    fault := hran.fault }

/-- The timer of the pending action runs it. -/
theorem PendingAction.dispatch_timeout {m m' : SystemActions} {a : AuthorizedCallback}
    {ref : DataRef} (hp : PendingAction m a ref) {id : Nat}
    (hn : dispatch_timeout spawn m id = some m') :
    id = m.system_action_idle_id ∧ Executed a m m' := by
  obtain ⟨interval, htimeouts⟩ := hp.timeouts
  obtain ⟨d, hd, _, hsignal⟩ := hp.data
  have hran := system_action_idle_cb_ran spawn hd
    (by rw [hsignal]; exact a.prepareFor_ne_last)
  rw [SystemAction.dispatch_timeout, htimeouts, List.find?_singleton] at hn
  by_cases hid : m.system_action_idle_id = id
  · simp only [hid, decide_true, ↓reduceIte, Option.map_some, Option.some.injEq] at hn
    subst hn
    refine ⟨hid.symm, hp.ran hd ⟨hran.idle_id, hran.pointer, hran.next_source, hran.data,
      hran.signals, hran.commands, hran.fault⟩ ?_⟩
    simp [g_source_remove, system_action_idle_cb_timeouts, htimeouts, hid]
  · simp [hid] at hn

variable (spawn) in
/-- The timer of the pending action can fire. -/
theorem PendingAction.dispatch_timeout_isSome {m : SystemActions} {a : AuthorizedCallback}
    {ref : DataRef} (hp : PendingAction m a ref) :
    (SystemAction.dispatch_timeout spawn m m.system_action_idle_id).isSome = true := by
  obtain ⟨interval, htimeouts⟩ := hp.timeouts
  simp [SystemAction.dispatch_timeout, htimeouts]

variable (spawn) in
/-- What a `changed-event` of the inhibit manager does: nothing, unless the
    pending action was accepted with a delay and the last lock of one of the
    two classes is gone. -/
theorem Protocol.changed_event_cases {m : SystemActions} {accepted : List AuthorizedCallback}
    (h : Protocol m accepted) (mode : CkInhibitMode) (event : CkInhibitEvent) (enabled : Bool) :
    (on_inhibit_manager_changed_event spawn m mode event enabled = m ∧
      ¬ (m.system_action_data ≠ none ∧ mode = .delay ∧ enabled = false ∧
        (event = .suspend ∨ event = .shutdown))) ∨
    (m.system_action_data ≠ none ∧ mode = .delay ∧ enabled = false ∧
      (event = .suspend ∨ event = .shutdown) ∧
      ∃ executed a, accepted = executed ++ [a] ∧
        Executed a m (on_inhibit_manager_changed_event spawn m mode event enabled)) := by
  by_cases hid : m.system_action_idle_id = 0
  · left
    exact ⟨if_pos hid, fun hc => hc.1 (h.quiet hid).1.pointer⟩
  obtain ⟨executed, a, ref, hp, hacc, _, _⟩ := h.pending hid
  unfold on_inhibit_manager_changed_event
  rw [if_neg hid]
  -- The data is gone once the action has been run.
  rcases hp.pointer with hnull | hptr
  · left
    rw [hnull]
    exact ⟨rfl, fun hc => hc.1 rfl⟩
  · obtain ⟨d, hd, hcommand, hsignal⟩ := hp.data
    have hkind : ¬ (d.signal ≠ .PREPARE_FOR_SLEEP ∧ d.signal ≠ .PREPARE_FOR_SHUTDOWN) := by
      rw [hsignal]
      cases a <;> decide
    simp only [hptr, hd, if_neg hkind]
    -- Only the end of a delay lock on the same kind of action ends the wait.
    by_cases hevent : event ≠ .suspend ∧ event ≠ .shutdown
    · left
      rw [if_pos hevent]
      exact ⟨rfl, fun hc => hc.2.2.2.elim hevent.1 hevent.2⟩
    rw [if_neg hevent]
    by_cases hmode : mode ≠ .delay
    · left
      rw [if_pos hmode]
      exact ⟨rfl, fun hc => hmode hc.2.1⟩
    rw [if_neg hmode]
    cases enabled with
    | true =>
      left
      exact ⟨rfl, fun hc => Bool.noConfusion hc.2.2.1⟩
    | false =>
      right
      refine ⟨Option.some_ne_none ref, not_not.mp hmode, rfl, by
        by_contra hne
        rw [not_or] at hne
        exact hevent hne, executed, a, hacc, ?_⟩
      -- The source is removed and its callback run at once.
      have hran := system_action_idle_cb_ran spawn
        (m := { g_source_remove m m.system_action_idle_id with system_action_idle_id := 0 })
        hd (by rw [hsignal]; exact a.prepareFor_ne_last)
      obtain ⟨interval, htimeouts⟩ := hp.timeouts
      refine hp.ran hd ⟨hran.idle_id, hran.pointer, hran.next_source, hran.data,
        hran.signals, hran.commands, hran.fault⟩ ?_
      simp [g_source_remove, system_action_idle_cb_timeouts, htimeouts]

theorem Protocol.executed {m m' : SystemActions} {executed : List AuthorizedCallback}
    {a : AuthorizedCallback} (h : Protocol m (executed ++ [a]))
    (hid : m.system_action_idle_id ≠ 0) (hex : Executed a m m') :
    Protocol m' (executed ++ [a]) := by
  obtain ⟨executed', a', _, _, hacc, hcommands, hs⟩ := h.pending hid
  obtain ⟨rfl, hlast⟩ := List.append_inj' hacc rfl
  obtain rfl : a = a' := by simpa using hlast
  refine ⟨hex.fault.trans h.1, hex.next_source.symm ▸ h.2.1, executed ++ [a], ?_,
    .inl ⟨hex.quiet, rfl, ?_⟩⟩
  · rw [hex.commands, hcommands, List.map_append]
    rfl
  · rw [hex.signals, hs, announced_concat]

theorem Protocol.changed_event {m : SystemActions} {accepted : List AuthorizedCallback}
    (h : Protocol m accepted) (mode : CkInhibitMode) (event : CkInhibitEvent) (enabled : Bool) :
    Protocol (on_inhibit_manager_changed_event spawn m mode event enabled) accepted := by
  rcases h.changed_event_cases spawn mode event enabled with
    ⟨heq, _⟩ | ⟨hptr, _, _, _, executed, a, rfl, hex⟩
  · rw [heq]
    exact h
  · exact h.executed (fun hid => hptr (h.quiet hid).1.pointer) hex

theorem Protocol.dispatch_timeout {m m' : SystemActions} {accepted : List AuthorizedCallback}
    (h : Protocol m accepted) {id : Nat}
    (hn : SystemAction.dispatch_timeout spawn m id = some m') : Protocol m' accepted := by
  by_cases hid : m.system_action_idle_id = 0
  · simp [SystemAction.dispatch_timeout, (h.quiet hid).1.timeouts] at hn
  · obtain ⟨executed, a, ref, hp, rfl, _, _⟩ := h.pending hid
    exact h.executed hid (hp.dispatch_timeout hn).2

/-! ## Section 4: The steps of the manager -/

/-- The continuation of a method. -/
def Method.callback : Method → AuthorizedCallback
  | .restart | .reboot => .do_restart
  | .stop | .power_off => .do_stop
  | .suspend => .do_suspend
  | .hibernate => .do_hibernate
  | .hybrid_sleep => .do_hybrid_sleep

variable (backend) in
/-- Every method tests for a block lock on the class of its continuation
    before it asks for the authorization. -/
theorem Method.handler_eq (method : Method) (m : Manager) (call : ActionCall) :
    ∃ interactivity action, method.handler backend m call =
      if get_inhibit_status m.daemon method.callback.event .block then
        m.throw_error call.context .INHIBITED "Operation is being inhibited"
      else check_system_action backend m interactivity call action method.callback := by
  cases method <;> exact ⟨_, _, rfl⟩

/-- What each kind of step does. -/
inductive ActionStep (spawn : Nat → String → Option String) (m : Manager) :
    ActionLabel → Manager → Prop where
  /-- A block lock is counted on the event of the action. -/
  | blocked (method : Method) (call : ActionCall) :
      ActionStep spawn m (.call method call)
        (m.throw_error call.context .INHIBITED "Operation is being inhibited")
  /-- Polkit does not authorize a waiting call. -/
  | denied (index : Nat) (result : AuthResult) (context : Context) (code : CkManagerError)
      (message : String) (hresult : result ≠ .authorized) :
      ActionStep spawn m (.auth_ready index result)
        (Manager.throw_error { m with pending := m.pending.eraseIdx index } context code message)
  /-- RBAC does not authorize the call. -/
  | ignored (method : Method) (call : ActionCall) : ActionStep spawn m (.call method call) m
  /-- The call waits for polkit. -/
  | queued (method : Method) (call : ActionCall) (data : AuthorizedCallbackData)
      (hcallback : data.callback = method.callback) (hsince : data.since = m.daemon.next_object)
      (hopen : get_inhibit_status m.daemon method.callback.event .block = false) :
      ActionStep spawn m (.call method call) { m with pending := m.pending ++ [data] }
  /-- The call is authorized at once. -/
  | called (method : Method) (call : ActionCall)
      (hopen : get_inhibit_status m.daemon method.callback.event .block = false) :
      ActionStep spawn m (.call method call) (m.callback method.callback call.context)
  /-- Polkit authorizes a waiting call. -/
  | authorized (index : Nat) (data : AuthorizedCallbackData)
      (hdata : m.pending[index]? = some data) :
      ActionStep spawn m (.auth_ready index .authorized)
        (Manager.callback { m with pending := m.pending.eraseIdx index } data.callback
          data.context)
  | inhibit (l : InhibitLabel) (w : Daemon)
      (hnext : inhibit_next (on_inhibit_manager_changed_event spawn) m.daemon l = some w) :
      ActionStep spawn m (.inhibit l) { m with daemon := w }
  | timeout (id : Nat) (l : SystemActions)
      (hnext : dispatch_timeout spawn m.daemon.listener id = some l) :
      ActionStep spawn m (.timeout id) { m with daemon := { m.daemon with listener := l } }

theorem action_next_step {m m' : Manager} {l : ActionLabel}
    (hn : action_next spawn backend m l = some m') : ActionStep spawn m l m' := by
  cases l with
  | call method call =>
    obtain ⟨interactivity, action, heq⟩ := method.handler_eq backend m call
    simp only [action_next, Option.some.injEq] at hn
    rw [heq] at hn
    cases hblocked : get_inhibit_status m.daemon method.callback.event .block with
    | true =>
      rw [hblocked, if_pos rfl] at hn
      subst hn
      exact .blocked method call
    | false =>
      rw [hblocked, if_neg (by simp)] at hn
      cases backend with
      | polkit =>
        subst hn
        exact .queued method call _ rfl rfl hblocked
      | rbac =>
        unfold check_system_action at hn
        dsimp only at hn
        split at hn
        · subst hn
          exact .called method call hblocked
        · subst hn
          exact .ignored method call
      | none =>
        subst hn
        exact .called method call hblocked
  | auth_ready index result =>
    simp only [action_next, Option.map_eq_some_iff] at hn
    obtain ⟨data, hdata, rfl⟩ := hn
    cases result with
    | error message => exact .denied index _ _ _ _ (by simp)
    | authorized => exact .authorized index data hdata
    | challenge => exact .denied index _ _ _ _ (by simp)
    | unauthorized => exact .denied index _ _ _ _ (by simp)
  | inhibit l =>
    simp only [action_next, Option.map_eq_some_iff] at hn
    obtain ⟨w, hw, rfl⟩ := hn
    exact .inhibit l w hw
  | timeout id =>
    simp only [action_next, Option.map_eq_some_iff] at hn
    obtain ⟨l, hl, rfl⟩ := hn
    exact .timeout id l hl

/-- A continuation changes the listener only. -/
theorem Manager.callback_daemon (m : Manager) (a : AuthorizedCallback) (context : Context) :
    (m.callback a context).daemon = { m.daemon with
      listener := start_system_action a.values (get_inhibit_status m.daemon a.event .delay)
        m.daemon.listener context } := by
  rw [Manager.callback, a.call_eq]
  rfl

theorem Manager.callback_accepted (m : Manager) (a : AuthorizedCallback) (context : Context) :
    (m.callback a context).accepted =
      if m.daemon.listener.system_action_idle_id = 0 then m.accepted ++ [a]
      else m.accepted := rfl

/-- The inhibit manager's invariant does not mention its listener. -/
theorem valid_listener {w : Daemon} (h : Valid w) (l : SystemActions) :
    Valid { w with listener := l } :=
  ⟨h.held_nodup, h.list_nodup, h.list_lt, h.held_list,
    fun r hr => (h.held_lock r hr).congr rfl rfl, h.pathless, h.counter_ge⟩

theorem lockHeld_iff {a : AuthorizedCallback} {mode : CkInhibitMode} {w : Daemon} :
    a.lockHeld mode w = true ↔
      ∃ r ∈ w.held, (w.object r).mode = mode ∧ (w.object r).inhibitors a.event = true := by
  simp [AuthorizedCallback.lockHeld]

theorem lockHeld_heldCount {a : AuthorizedCallback} {mode : CkInhibitMode} {w : Daemon} :
    a.lockHeld mode w = true ↔ 0 < w.heldCount mode a.event := by
  rw [lockHeld_iff, heldCount_pos]

/-- A held lock is always counted: an action that is not blocked finds none. -/
theorem lockHeld_status {a : AuthorizedCallback} {mode : CkInhibitMode} {w : Daemon}
    (hw : Valid w) (h : a.lockHeld mode w = true) :
    get_inhibit_status w a.event mode = true := by
  have hpos := lockHeld_heldCount.mp h
  have hge := hw.counter_ge mode a.event
  simp only [get_inhibit_status, decide_eq_true_eq]
  omega

/-- The invariant of the manager. -/
structure ManagerValid (m : Manager) : Prop where
  locks : Valid m.daemon
  protocol : Protocol m.daemon.listener m.accepted

theorem init_managerValid : ManagerValid manager_init :=
  ⟨init_valid _, init_protocol⟩

theorem ManagerValid.callback {m : Manager} (h : ManagerValid m) (a : AuthorizedCallback)
    (context : Context) : ManagerValid (m.callback a context) := by
  constructor
  · rw [Manager.callback_daemon]
    exact valid_listener h.locks _
  · rw [Manager.callback_daemon, Manager.callback_accepted]
    exact h.protocol.start a _ context

theorem ManagerValid.step {m m' : Manager} {l : ActionLabel} (h : ManagerValid m)
    (hstep : ActionStep spawn m l m') : ManagerValid m' := by
  cases hstep with
  | blocked method call => exact ⟨valid_listener h.locks _, h.protocol.throw_error _ _ _⟩
  | denied index result context code message hresult =>
    exact ⟨valid_listener h.locks _, h.protocol.throw_error _ _ _⟩
  | ignored method call => exact h
  | queued method call data hcallback hsince hopen => exact ⟨h.locks, h.protocol⟩
  | called method call hopen => exact h.callback _ _
  | authorized index data hdata =>
    exact ManagerValid.callback (m := { m with pending := m.pending.eraseIdx index })
      ⟨h.locks, h.protocol⟩ _ _
  | inhibit l w hnext =>
    refine ⟨inhibit_next_valid h.locks hnext, ?_⟩
    obtain ⟨enabled, hnotified⟩ := inhibit_next_notified h.locks hnext
    exact hnotified.preserves (P := fun l => Protocol l m.accepted)
      (fun l mode event hl => hl.changed_event mode event enabled) h.protocol
  | timeout id l hnext =>
    exact ⟨valid_listener h.locks _, h.protocol.dispatch_timeout hnext⟩

theorem reachable_managerValid {m : Manager} (h : (action_system spawn backend).Reachable m) :
    ManagerValid m :=
  LTS.System.Reachable.invariant (I := ManagerValid)
    (fun _ hi => by cases hi; exact init_managerValid)
    (fun _ _ _ hi hn => hi.step (action_next_step hn)) h

/-! ## Section 5: The protocol over all runs -/

variable (backend) in
/-- A pending action can be run by its timer, and is then over. -/
theorem ManagerValid.timer {m : Manager} (h : ManagerValid m)
    (hid : m.daemon.listener.system_action_idle_id ≠ 0) :
    ∃ m' executed a, action_next spawn backend m
        (.timeout m.daemon.listener.system_action_idle_id) = some m' ∧
      m.accepted = executed ++ [a] ∧ m'.accepted = m.accepted ∧
      Executed a m.daemon.listener m'.daemon.listener := by
  obtain ⟨executed, a, ref, hp, hacc, _, _⟩ := h.protocol.pending hid
  obtain ⟨l, hl⟩ := Option.isSome_iff_exists.mp
    (hp.dispatch_timeout_isSome spawn)
  refine ⟨{ m with daemon := { m.daemon with listener := l } }, executed, a, ?_, hacc, rfl,
    (hp.dispatch_timeout hl).2⟩
  simp [action_next, hl]

theorem ManagerValid.accept {m : Manager} (h : ManagerValid m)
    (hid : m.daemon.listener.system_action_idle_id = 0) (a : AuthorizedCallback)
    (context : Context) :
    (m.callback a context).accepted = m.accepted ++ [a] ∧
    (m.callback a context).daemon.listener.system_action_idle_id ≠ 0 := by
  rw [Manager.callback_accepted, if_pos hid, Manager.callback_daemon]
  refine ⟨rfl, ?_⟩
  dsimp only
  rw [(start_system_action_idle _ _ _ _ hid).idle_id]
  exact Nat.ne_of_gt h.protocol.2.1

theorem Protocol.timeouts_length {m : SystemActions} {accepted : List AuthorizedCallback}
    (h : Protocol m accepted) : m.timeouts.length ≤ 1 := by
  by_cases hid : m.system_action_idle_id = 0
  · simp [(h.quiet hid).1.timeouts]
  · obtain ⟨_, _, _, hp, _⟩ := h.pending hid
    obtain ⟨_, htimeouts⟩ := hp.timeouts
    simp [htimeouts]

/-- **Pending system action.**  In every reachable state the protocol
    holds: at most one action is pending, the executed actions have run
    their command once and were announced by a TRUE, FALSE pair of their own
    kind, and no freed data was used.  A continuation that finds an action
    pending does nothing but refuse, one that finds none is accepted, and an
    accepted action is run at the latest by its timer, which is armed. -/
theorem system_action_protocol (spawn : Nat → String → Option String) (backend : AuthBackend) :
    (∀ m, (action_system spawn backend).Reachable m →
      Protocol m.daemon.listener m.accepted ∧ m.daemon.listener.timeouts.length ≤ 1 ∧
      m.daemon.listener.fault = false) ∧
    (∀ (m : Manager) a context, m.daemon.listener.system_action_idle_id ≠ 0 →
      m.callback a context = m.throw_error context .BUSY
        "Attempting to perform a system action while one is in progress") ∧
    (∀ m, (action_system spawn backend).Reachable m → ∀ a context,
      m.daemon.listener.system_action_idle_id = 0 →
        (m.callback a context).accepted = m.accepted ++ [a] ∧
        (m.callback a context).daemon.listener.system_action_idle_id ≠ 0) ∧
    (∀ m, (action_system spawn backend).Reachable m →
      m.daemon.listener.system_action_idle_id ≠ 0 →
        ∃ m' executed a, (action_system spawn backend).next m
            (.timeout m.daemon.listener.system_action_idle_id) = some m' ∧
          m.accepted = executed ++ [a] ∧ m'.accepted = m.accepted ∧
          Executed a m.daemon.listener m'.daemon.listener) := by
  refine ⟨fun m hm => ?_, fun m a context hid => ?_, fun m hm a context hid => ?_,
    fun m hm hid => ?_⟩
  · have hv := reachable_managerValid hm
    exact ⟨hv.protocol, hv.protocol.timeouts_length, hv.protocol.1⟩
  · simp only [Manager.callback, a.call_eq, if_neg hid, World.start,
      start_system_action_busy _ _ _ _ hid]
    rfl
  · exact (reachable_managerValid hm).accept hid a context
  · exact (reachable_managerValid hm).timer backend hid

end steps

/-- A call of a user who is alone on the machine. -/
def soloCall (context : Context) : ActionCall where
  context := context
  policykit_interactivity := false
  num_users := 1
  rbac_authorized := false

/-- A suspend that is called, run by its timer, and over. -/
theorem system_action_protocol_suspend :
    ∃ m, (action_system (fun _ _ => none) .none).run manager_init
        [.call .suspend (soloCall 7), .timeout 1] = some m ∧
      m.accepted = [.do_suspend] ∧ Protocol m.daemon.listener m.accepted := by
  have hrun : ((action_system (fun _ _ => none) .none).run manager_init
      [.call .suspend (soloCall 7), .timeout 1]).map (fun m => m.accepted) =
      some [.do_suspend] := by decide
  obtain ⟨m, hm, hacc⟩ := Option.map_eq_some_iff.mp hrun
  exact ⟨m, hm, hacc, ((system_action_protocol _ _).1 m
    (LTS.System.Reachable.run (.init rfl) hm)).1⟩

end SystemAction
