import ConsoleKit.Inhibit.Counters
import ConsoleKit.SystemAction.Protocol

/-! # Delay locks and the pending action

    An action that was accepted while a delay lock on its event was held
    runs early when the last such lock goes away.  The handler that sees to
    this looks at the mode and at the two classes of events, but not at the
    class of the pending action.

    The argument rests on the delay counters of the two classes, which are
    exact as long as no released delay lock names both events.
-/

namespace SystemAction

open Inhibit

/-! ## Section 1: The property and the steps that keep it -/

/-- The step runs the command of `a`. -/
def executes (m m' : Manager) (a : AuthorizedCallback) : Prop :=
  m'.daemon.listener.commands = m.daemon.listener.commands ++ [a.values.command]

/-- The label releases a delay lock on the event of `a`, the last one held. -/
def releasesLast (a : AuthorizedCallback) (m m' : Manager) (l : InhibitLabel) : Prop :=
  ∃ r, l = .pipe_closed r ∧ (m.daemon.object r).mode = .delay ∧
    (m.daemon.object r).inhibitors a.event = true ∧ m'.daemon.heldCount .delay a.event = 0

/-- The pending action, if it was accepted against a delay lock of its class. -/
def delayedAction (m : Manager) : Option AuthorizedCallback :=
  if m.daemon.listener.system_action_idle_id ≠ 0 ∧ m.delayed = true then m.accepted.getLast?
  else none

/-- A delayed action is executed by a lock step exactly when the step
    releases the last delay lock on the action's own event. -/
def waitsForOwnLocks (m : Manager) : ActionLabel → Manager → Prop
  | .inhibit l, m' => ∀ a, delayedAction m = some a → (executes m m' a ↔ releasesLast a m m' l)
  | _, _ => True

/-- No released delay lock names both classes. -/
def releasesOneClass (m : Manager) : ActionLabel → Prop
  | .inhibit (.pipe_closed r) =>
      ¬ ((m.daemon.object r).mode = .delay ∧ (m.daemon.object r).inhibitors .shutdown = true ∧
        (m.daemon.object r).inhibitors .suspend = true)
  | _ => True

/-- While a delayed action is pending, the last delay lock on the event of
    the other class is not released. -/
def keepsOtherClass (m : Manager) : ActionLabel → Prop
  | .inhibit (.pipe_closed r) =>
      ∀ a, delayedAction m = some a → ∀ e, e = .shutdown ∨ e = .suspend → e ≠ a.event →
        ¬ ((m.daemon.object r).mode = .delay ∧ (m.daemon.object r).inhibitors e = true ∧
          m.daemon.heldCount .delay e = 1)
  | _ => True

theorem AuthorizedCallback.event_class (a : AuthorizedCallback) :
    a.event = .shutdown ∨ a.event = .suspend := by
  cases a <;> simp [AuthorizedCallback.event]

/-! ## Section 2: The delay counters of the two classes -/

/-- The delay counters of the two classes are the numbers of held locks. -/
def DelayExact (w : Daemon) : Prop :=
  ∀ e, e = .shutdown ∨ e = .suspend → w.inhibitors .delay e = w.heldCount .delay e

section locks
variable {spawn : Nat → String → Option String}

/-- The event of a class comes first among the events of a lock that does
    not name the other class. -/
theorem events_head {o : CkInhibit}
    (hone : ¬ (o.inhibitors .shutdown = true ∧ o.inhibitors .suspend = true))
    {e : CkInhibitEvent} (he : e = .shutdown ∨ e = .suspend) (hflag : o.inhibitors e = true) :
    ∃ rest, o.events = e :: rest ∧ ∀ e' ∈ rest, e' ≠ .shutdown ∧ e' ≠ .suspend := by
  rcases he with rfl | rfl
  · have hsuspend : o.inhibitors .suspend = false := by
      rw [Bool.eq_false_iff]
      exact fun h => hone ⟨hflag, h⟩
    refine ⟨[.idle, .power_key, .suspend_key, .hibernate_key, .lid_switch].filter o.inhibitors,
      by simp [CkInhibit.events, CkInhibitEvent.all, hflag, hsuspend], fun e' he' => ?_⟩
    rw [List.mem_filter] at he'
    rcases he' with ⟨hmem, _⟩
    constructor <;> rintro rfl <;> simp at hmem
  · have hshutdown : o.inhibitors .shutdown = false := by
      rw [Bool.eq_false_iff]
      exact fun h => hone ⟨h, hflag⟩
    refine ⟨[.idle, .power_key, .suspend_key, .hibernate_key, .lid_switch].filter o.inhibitors,
      by simp [CkInhibit.events, CkInhibitEvent.all, hflag, hshutdown], fun e' he' => ?_⟩
    rw [List.mem_filter] at he'
    rcases he' with ⟨hmem, _⟩
    constructor <;> rintro rfl <;> simp at hmem

variable (spawn) in
/-- Signals for other events leave the pending action alone. -/
theorem foldl_changed_event_other {l : SystemActions} {accepted : List AuthorizedCallback}
    (h : Protocol l accepted) (mode : CkInhibitMode) (calls : List CkInhibitEvent)
    (hcalls : ∀ e ∈ calls, mode = .delay → e ≠ .shutdown ∧ e ≠ .suspend) :
    calls.foldl (fun l e => on_inhibit_manager_changed_event spawn l mode e false) l = l := by
  induction calls with
  | nil => rfl
  | cons e calls ih =>
    rw [List.foldl_cons]
    have hsame : on_inhibit_manager_changed_event spawn l mode e false = l := by
      rcases h.changed_event_cases spawn mode e false with
        ⟨heq, _⟩ | ⟨_, hmode, _, hclass, _⟩
      · exact heq
      · obtain ⟨hs, hp⟩ := hcalls e (by simp) hmode
        exact absurd hclass (fun hc => hc.elim hp hs)
    rw [hsame]
    exact ih fun e' he' => hcalls e' (by simp [he'])

variable (spawn) in
/-- What the release of a lock does to the pending action: the handler is
    called for the class of the lock, when that was its last delay lock. -/
theorem pipe_closed_listener {w : Daemon} (hw : Valid w) {accepted : List AuthorizedCallback}
    (hprotocol : Protocol w.listener accepted) {r : InhibitRef} (hr : r ∈ w.held)
    (hone : ¬ ((w.object r).mode = .delay ∧ (w.object r).inhibitors .shutdown = true ∧
      (w.object r).inhibitors .suspend = true)) :
    let w' := cb_named_pipe_close (on_inhibit_manager_changed_event spawn)
      { w with held := w.held.erase r } r
    (∃ e, (e = .shutdown ∨ e = .suspend) ∧ (w.object r).mode = .delay ∧
      (w.object r).inhibitors e = true ∧ w.inhibitors .delay e = 1 ∧
      w'.listener = on_inhibit_manager_changed_event spawn w.listener .delay e false) ∨
    ((∀ e, (e = .shutdown ∨ e = .suspend) → ¬ ((w.object r).mode = .delay ∧
      (w.object r).inhibitors e = true ∧ w.inhibitors .delay e = 1)) ∧
      w'.listener = w.listener) := by
  intro w'
  cases hev : (w.object r).events with
  | nil =>
    obtain ⟨e, he⟩ := (hw.held_lock r hr).event
    rw [← CkInhibit.mem_events, hev] at he
    exact absurd he List.not_mem_nil
  | cons first rest =>
    obtain ⟨_, calls, hsub, hlistener⟩ :=
      pipe_closed_head (on_inhibit_manager_changed_event spawn) hw hr hev
    by_cases hclass : (w.object r).mode = .delay ∧
        ∃ e, (e = .shutdown ∨ e = .suspend) ∧ (w.object r).inhibitors e = true
    · obtain ⟨hmode, e, he, hflag⟩ := hclass
      obtain ⟨rest', hev', hrest⟩ := events_head (fun h => hone ⟨hmode, h⟩) he hflag
      rw [hev] at hev'
      obtain ⟨rfl, rfl⟩ := List.cons.inj hev'
      rw [hmode] at hlistener
      by_cases hcount : w.inhibitors .delay first = 1
      · left
        rw [if_pos hcount] at hlistener
        refine ⟨first, he, hmode, hflag, hcount, hlistener.trans ?_⟩
        exact foldl_changed_event_other _ (hprotocol.changed_event _ _ _) .delay calls
          fun e' he' _ => hrest e' (hsub.subset he')
      · right
        rw [if_neg hcount] at hlistener
        refine ⟨fun e' he' hc => ?_, hlistener.trans ?_⟩
        · -- the lock names one class, so `e'` is the first event
          have hmem : e' ∈ first :: rest := by
            rw [← hev, CkInhibit.mem_events]
            exact hc.2.1
          rcases List.mem_cons.mp hmem with rfl | hmem
          · exact hcount hc.2.2
          · exact he'.elim (hrest e' hmem).1 (hrest e' hmem).2
        · exact foldl_changed_event_other _ hprotocol .delay calls
            fun e' he' _ => hrest e' (hsub.subset he')
    · right
      refine ⟨fun e he hc => hclass ⟨hc.1, e, he, hc.2.1⟩, hlistener.trans ?_⟩
      -- no signal concerns a class in delay mode
      have hother : ∀ e ∈ first :: rest, (w.object r).mode = .delay →
          e ≠ .shutdown ∧ e ≠ .suspend := by
        intro e he hmode
        rw [← hev, CkInhibit.mem_events] at he
        exact ⟨fun hs => hclass ⟨hmode, e, .inl hs, he⟩, fun hs => hclass ⟨hmode, e, .inr hs, he⟩⟩
      have hfirst : on_inhibit_manager_changed_event spawn w.listener (w.object r).mode first
          false = w.listener :=
        foldl_changed_event_other spawn hprotocol (w.object r).mode [first]
          fun e he => hother e (by rw [List.mem_singleton.mp he]; simp)
      rw [hfirst, ite_self]
      exact foldl_changed_event_other _ hprotocol _ calls
        fun e he => hother e (List.mem_cons_of_mem _ (hsub.subset he))

theorem DelayExact.pipe_closed {w : Daemon} (hw : Valid w) (h : DelayExact w)
    {r : InhibitRef} (hr : r ∈ w.held)
    (hone : ¬ ((w.object r).mode = .delay ∧ (w.object r).inhibitors .shutdown = true ∧
      (w.object r).inhibitors .suspend = true)) :
    DelayExact (cb_named_pipe_close (on_inhibit_manager_changed_event spawn)
      { w with held := w.held.erase r } r) := by
  intro e he
  have hreleased := pipe_closed_spec
    (on_inhibit_manager_changed_event spawn) hw hr
  have hold := h e he
  have hcount := hreleased.heldCount hr hw .delay e
  by_cases hflag : CkInhibitMode.delay = (w.object r).mode ∧ (w.object r).inhibitors e = true
  · obtain ⟨rest, hev, _⟩ := events_head (fun hc => hone ⟨hflag.1.symm, hc⟩) he hflag.2
    obtain ⟨hhead, _⟩ :=
      pipe_closed_head (on_inhibit_manager_changed_event spawn) hw hr hev
    rw [← hflag.1] at hhead
    rw [if_pos hflag] at hcount
    omega
  · rw [if_neg hflag] at hcount
    rw [hreleased.counter_ne .delay e hflag]
    omega

theorem DelayExact.create_lock {w w' : Daemon} {request : InhibitRequest} {calls : PipeCalls}
    (h : DelayExact w) (hw : Valid w)
    (hn : inhibit_next (on_inhibit_manager_changed_event spawn) w (.create_lock request calls) =
      some w') : DelayExact w' := by
  intro e he
  have hold := h e he
  rcases create_lock_next hn with ⟨_, v, hv, rfl⟩ | ⟨_, hv⟩
  · have hcount := hv.heldCount hw .delay e
    change v.inhibitors .delay e = _
    omega
  · rw [hv.counter, hold,
      heldCount_congr hv.held fun r hr => hv.object_ne r (Nat.ne_of_lt (hw.held_lt hr))]

/-- A request never runs the pending action. -/
theorem create_lock_listener {w w' : Daemon} {accepted : List AuthorizedCallback}
    (hprotocol : Protocol w.listener accepted) {request : InhibitRequest} {calls : PipeCalls}
    (hn : inhibit_next (on_inhibit_manager_changed_event spawn) w (.create_lock request calls) =
      some w') : w'.listener = w.listener := by
  rcases create_lock_next hn with ⟨_, v, hv, rfl⟩ | ⟨_, hv⟩
  · refine hv.notified.preserves (P := fun l => l = w.listener) (fun l mode e hl => ?_) rfl
    rw [hl]
    rcases hprotocol.changed_event_cases spawn mode e true with
      ⟨heq, _⟩ | ⟨_, _, henabled, _⟩
    · exact heq
    · exact Bool.noConfusion henabled
  · exact hv.listener

end locks

/-! ## Section 3: The pointer to the delayed action -/

/-- The data of a delayed action can be reached by the handler. -/
def DelayedPointer (m : Manager) : Prop :=
  m.daemon.listener.system_action_idle_id ≠ 0 → m.delayed = true →
    m.daemon.listener.system_action_data ≠ none

section steps
variable {spawn : Nat → String → Option String} {backend : AuthBackend}

theorem DelayedPointer.callback {m : Manager} (h : DelayedPointer m) (hv : ManagerValid m)
    (a : AuthorizedCallback) (context : Context) : DelayedPointer (m.callback a context) := by
  intro hid' hdelayed
  rw [Manager.callback_daemon] at hid' ⊢
  dsimp only at hid' ⊢
  by_cases hid : m.daemon.listener.system_action_idle_id = 0
  · have hheld : a.lockHeld .delay m.daemon = true := by
      simpa [Manager.callback, hid] using hdelayed
    rw [(start_system_action_idle _ _ _ _ hid).pointer, lockHeld_status hv.locks hheld]
    simp
  · rw [start_system_action_busy _ _ _ _ hid]
    exact h hid (by simpa [Manager.callback, hid] using hdelayed)

theorem DelayedPointer.step {m m' : Manager} {l : ActionLabel} (h : DelayedPointer m)
    (hv : ManagerValid m) (hstep : ActionStep spawn m l m') : DelayedPointer m' := by
  cases hstep with
  | blocked method call => exact h
  | denied index result context code message hresult => exact h
  | ignored method call => exact h
  | queued method call data hcallback hsince hopen => exact h
  | called method call hopen => exact h.callback hv _ _
  | authorized index data hdata =>
    exact DelayedPointer.callback (m := { m with pending := m.pending.eraseIdx index }) h
      ⟨hv.locks, hv.protocol⟩ _ _
  | inhibit l w hnext =>
    obtain ⟨enabled, hnotified⟩ := inhibit_next_notified hv.locks hnext
    refine (hnotified.preserves (P := fun l => Protocol l m.accepted ∧
      (l.system_action_idle_id ≠ 0 → m.delayed = true → l.system_action_data ≠ none))
      (fun l mode e hl => ⟨hl.1.changed_event mode e enabled, ?_⟩) ⟨hv.protocol, h⟩).2
    rcases hl.1.changed_event_cases spawn mode e enabled with
      ⟨heq, _⟩ | ⟨_, _, _, _, executed, a, _, hex⟩
    · rw [heq]
      exact hl.2
    · exact fun hid => absurd hex.quiet.idle_id hid
  | timeout id l hnext =>
    intro hid
    by_cases hid' : m.daemon.listener.system_action_idle_id = 0
    · simp [dispatch_timeout, (hv.protocol.quiet hid').1.timeouts] at hnext
    · obtain ⟨executed, a, ref, hp, _, _, _⟩ := hv.protocol.pending hid'
      exact absurd (hp.dispatch_timeout hnext).2.quiet.idle_id hid

/-! ## Section 4: Steps and runs -/

theorem delayedAction_eq_some {m : Manager} {a : AuthorizedCallback}
    (h : delayedAction m = some a) :
    m.daemon.listener.system_action_idle_id ≠ 0 ∧ m.delayed = true ∧
      m.accepted.getLast? = some a := by
  unfold delayedAction at h
  split at h
  · rename_i hc
    exact ⟨hc.1, hc.2, h⟩
  · exact absurd h (by simp)

/-- The handler runs a delayed action, whichever class the lock was of. -/
theorem changed_event_executes {m : Manager} (hv : ManagerValid m) (hptr : DelayedPointer m)
    {a : AuthorizedCallback} (ha : delayedAction m = some a) {e : CkInhibitEvent}
    (he : e = .shutdown ∨ e = .suspend) :
    (on_inhibit_manager_changed_event spawn m.daemon.listener .delay e false).commands =
      m.daemon.listener.commands ++ [a.values.command] := by
  obtain ⟨hid, hdelayed, hlast⟩ := delayedAction_eq_some ha
  rcases hv.protocol.changed_event_cases spawn .delay e false with
    ⟨_, hnone⟩ | ⟨_, _, _, _, executed, a', hacc, hex⟩
  · exact absurd ⟨hptr hid hdelayed, rfl, rfl, he.symm⟩ hnone
  · rw [hacc, List.getLast?_concat] at hlast
    rw [hex.commands, Option.some.inj hlast]

theorem waitsForOwnLocks_step {m m' : Manager} {l : ActionLabel} (hv : ManagerValid m)
    (hptr : DelayedPointer m) (hexact : DelayExact m.daemon) (hone : releasesOneClass m l)
    (hstep : ActionStep spawn m l m') : waitsForOwnLocks m l m' ↔ keepsOtherClass m l := by
  cases hstep with
  | inhibit l w hnext =>
    cases l with
    | create_lock request calls =>
      refine iff_of_true (fun a ha => iff_of_false ?_ ?_) trivial
      · unfold executes
        dsimp only
        rw [create_lock_listener hv.protocol hnext]
        simp
      · rintro ⟨r, hr, _⟩
        cases hr
    | pipe_closed r =>
      obtain ⟨hr, hreleased, hw⟩ := pipe_closed_next hv.locks hnext
      -- the label releases the last lock of a class when the counter is at 1
      have hlast : ∀ a : AuthorizedCallback,
          releasesLast a m { m with daemon := w } (.pipe_closed r) ↔
            (m.daemon.object r).mode = .delay ∧
            (m.daemon.object r).inhibitors a.event = true ∧
            m.daemon.inhibitors .delay a.event = 1 := by
        intro a
        have hcount := hreleased.heldCount hr hv.locks .delay a.event
        have hcounter := hexact a.event a.event_class
        constructor
        · rintro ⟨r', hr', hmode, hflag, hzero⟩
          cases hr'
          rw [if_pos ⟨hmode.symm, hflag⟩] at hcount
          exact ⟨hmode, hflag, by dsimp only at hzero; omega⟩
        · rintro ⟨hmode, hflag, hone⟩
          rw [if_pos ⟨hmode.symm, hflag⟩] at hcount
          exact ⟨r, rfl, hmode, hflag, by dsimp only; omega⟩
      rcases pipe_closed_listener spawn hv.locks hv.protocol hr hone with
        ⟨e, he, hmode, hflag, hcount, hlistener⟩ | ⟨hnone, hlistener⟩
      · rw [← hw] at hlistener
        have hex : ∀ a, delayedAction m = some a → executes m { m with daemon := w } a := by
          intro a ha
          unfold executes
          dsimp only
          rw [hlistener]
          exact changed_event_executes hv hptr ha he
        constructor
        · intro hwaits a ha e' he' hne hc
          -- the lock is of the other class, and the action ran all the same
          obtain ⟨_, hflag', _⟩ := (hlast a).mp ((hwaits a ha).mp (hex a ha))
          rcases he' with rfl | rfl <;> rcases a.event_class with hev | hev
          · exact hne hev.symm
          · exact hone ⟨hmode, hc.2.1, hev ▸ hflag'⟩
          · exact hone ⟨hmode, hev ▸ hflag', hc.2.1⟩
          · exact hne hev.symm
        · intro hkeeps a ha
          refine iff_of_true (hex a ha) ((hlast a).mpr ?_)
          have hea : e = a.event := by
            by_contra hne
            have hheld := hexact e he
            exact hkeeps a ha e he hne ⟨hmode, hflag, by omega⟩
          subst hea
          exact ⟨hmode, hflag, hcount⟩
      · rw [← hw] at hlistener
        refine iff_of_true (fun a ha => iff_of_false ?_ ?_) ?_
        · unfold executes
          dsimp only
          rw [hlistener]
          simp
        · rw [hlast a]
          exact hnone a.event a.event_class
        · intro a ha e he hne hc
          have hheld := hexact e he
          exact hnone e he ⟨hc.1, hc.2.1, by omega⟩
  | blocked method call => exact Iff.rfl
  | denied index result context code message hresult => exact Iff.rfl
  | ignored method call => exact Iff.rfl
  | queued method call data hcallback hsince hopen => exact Iff.rfl
  | called method call hopen => exact Iff.rfl
  | authorized index data hdata => exact Iff.rfl
  | timeout id l hnext => exact Iff.rfl

theorem DelayExact.step {m m' : Manager} {l : ActionLabel} (h : DelayExact m.daemon)
    (hv : ManagerValid m) (hone : releasesOneClass m l) (hstep : ActionStep spawn m l m') :
    DelayExact m'.daemon := by
  cases hstep with
  | inhibit l w hnext =>
    cases l with
    | create_lock request calls => exact h.create_lock hv.locks hnext
    | pipe_closed r =>
      obtain ⟨hr, _, hw⟩ := pipe_closed_next hv.locks hnext
      dsimp only
      rw [hw]
      exact h.pipe_closed hv.locks hr hone
  | blocked method call => exact h
  | denied index result context code message hresult => exact h
  | ignored method call => exact h
  | queued method call data hcallback hsince hopen => exact h
  | called method call hopen =>
    rw [Manager.callback_daemon]
    exact h
  | authorized index data hdata =>
    rw [Manager.callback_daemon]
    exact h
  | timeout id l hnext => exact h

/-- **Delay locks.**  Along every run that releases no delay lock on both
    classes at once, a delayed action is executed early exactly by the
    release of the last delay lock on its own event, if and only if no last
    delay lock of the other class is released while the action is pending. -/
theorem delayed_action_waits (spawn : Nat → String → Option String) (backend : AuthBackend)
    (ls : List ActionLabel)
    (hone : (action_system spawn backend).Along (fun m l _ => releasesOneClass m l)
      manager_init ls) :
    (action_system spawn backend).Along waitsForOwnLocks manager_init ls ↔
      (action_system spawn backend).Along (fun m l _ => keepsOtherClass m l) manager_init ls := by
  have hiff : (action_system spawn backend).Along
        (fun m l m' => releasesOneClass m l ∧ waitsForOwnLocks m l m') manager_init ls ↔
      (action_system spawn backend).Along
        (fun m l _ => releasesOneClass m l ∧ keepsOtherClass m l) manager_init ls := by
    refine LTS.System.along_congr
      (I := fun m => ManagerValid m ∧ DelayedPointer m ∧ DelayExact m.daemon)
      (fun m l m' hinv hn => and_congr_right fun hone =>
        waitsForOwnLocks_step hinv.1 hinv.2.1 hinv.2.2 hone (action_next_step hn))
      (fun m l m' hinv hn hP => ?_) ⟨init_managerValid, fun hid => absurd rfl hid,
        fun _ _ => rfl⟩ ls
    have hstep := action_next_step hn
    exact ⟨hinv.1.step hstep, hinv.2.1.step hinv.1 hstep, hinv.2.2.step hinv.1 hP.1 hstep⟩
  rw [LTS.System.along_and, LTS.System.along_and] at hiff
  exact ⟨fun h => (hiff.mp ⟨hone, h⟩).2, fun h => (hiff.mpr ⟨hone, h⟩).2⟩

end steps

/-! ## Section 5: Two runs -/

/-- The daemon of the two runs. -/
def plain_actions : LTS.System Manager ActionLabel := action_system (fun _ _ => none) .none

/-- Two delay locks, one on each class, and a suspend that is delayed. -/
def delayedSuspend : List ActionLabel :=
  [.inhibit (.create_lock (lockRequest "sleep" "delay") (allSucceed "a")),
    .inhibit (.create_lock (lockRequest "shutdown" "delay") (allSucceed "b")),
    .call .suspend (soloCall 7)]

/-- The suspend waits when its own lock is the first to be released. -/
theorem delayed_action_waits_own_lock :
    plain_actions.Along waitsForOwnLocks manager_init
      (delayedSuspend ++ [.inhibit (.pipe_closed 0)]) := by
  have hlock : (plain_actions.run manager_init delayedSuspend).map (fun m =>
      ((m.daemon.object 0).inhibitors .shutdown, delayedAction m)) =
      some (false, some .do_suspend) := by decide
  refine (delayed_action_waits _ _ _ ?_).mpr ?_
  · refine LTS.System.along_concat (LTS.System.along_of_forall ?_) fun m hm m' _ h => ?_
    · simp [delayedSuspend, releasesOneClass]
    · obtain ⟨m₀, hm₀, hval⟩ := Option.map_eq_some_iff.mp hlock
      obtain rfl : m₀ = m := Option.some.inj (hm₀.symm.trans hm)
      have hflag := congrArg Prod.fst hval
      exact Bool.noConfusion (hflag.symm.trans h.2.1)
  · refine LTS.System.along_concat (LTS.System.along_of_forall ?_)
      fun m hm m' _ a ha e he hne h => ?_
    · simp [delayedSuspend, keepsOtherClass]
    · obtain ⟨m₀, hm₀, hval⟩ := Option.map_eq_some_iff.mp hlock
      obtain rfl : m₀ = m := Option.some.inj (hm₀.symm.trans hm)
      have hflag := congrArg Prod.fst hval
      obtain rfl : AuthorizedCallback.do_suspend = a :=
        Option.some.inj ((congrArg Prod.snd hval).symm.trans ha)
      rcases he with rfl | rfl
      · exact Bool.noConfusion (hflag.symm.trans h.2.1)
      · exact hne rfl

/-- The release of the lock on `shutdown` suspends the machine, although the
    lock on `sleep` is still held. -/
theorem delayed_action_fails_other_class :
    ¬ ∀ m l m', plain_actions.Reachable m → plain_actions.next m l = some m' →
      waitsForOwnLocks m l m' := by
  intro h
  have hrun : (plain_actions.run manager_init delayedSuspend).map (fun m =>
      (delayedAction m, m.daemon.listener.commands, (m.daemon.object 1).inhibitors .suspend,
        (plain_actions.next m (.inhibit (.pipe_closed 1))).map
          fun m' => m'.daemon.listener.commands)) =
      some (some .do_suspend, [], false, some ["/ConsoleKit/scripts/ck-system-suspend"]) := by
    decide
  obtain ⟨m, hm, hval⟩ := Option.map_eq_some_iff.mp hrun
  simp only [Prod.mk.injEq] at hval
  obtain ⟨hdelayed, hbefore, hflag, hnext⟩ := hval
  obtain ⟨m', hm', hafter⟩ := Option.map_eq_some_iff.mp hnext
  have hiff := h m (.inhibit (.pipe_closed 1)) m' (LTS.System.Reachable.run (.init rfl) hm) hm'
    .do_suspend hdelayed
  obtain ⟨r, hr, _, hsuspend, _⟩ := hiff.mp (by rw [executes, hafter, hbefore]; rfl)
  cases hr
  exact Bool.noConfusion (hflag.symm.trans hsuspend)

end SystemAction
