import ConsoleKit.Manager.Oldest
import ConsoleKit.Vt.Console

/-! # VT switches

    When all signals and events of a sequence of VT switches have been
    processed, the session on the active VT is the active one, provided that
    no step of the run goes wrong in one of these ways: a signal that was
    sent for an earlier switch takes the active VT's session its activity, a
    VT is left before its watcher has seen it become active, a watch is lost,
    or a VT without a watch becomes active.

    The invariant `SwitchOk` ties the seat to the VT that the monitor last
    announced.  The session there is active, or there is an excuse: another
    VT is the kernel's active one, or the monitor is about to announce one.
-/

namespace Vt

open CkManager (SessionRef SeatRef)
open CkManager.State (ck_get_console_device_for_num)

/-! ## Section 1: The session on a VT -/

variable {m m' : CkManager.State} {d : SeatRef} {x : SessionRef}

/-- A list of sessions of which each is `x` has `x` as its oldest. -/
theorem find_oldest_eq {xs : List SessionRef} (hmem : x ∈ xs) (hall : ∀ y ∈ xs, y = x) :
    m.find_oldest_session xs = some x := by
  cases xs with
  | nil => cases hmem
  | cons y ys =>
    have hsome : ∃ z, m.find_oldest_session (y :: ys) = some z := ⟨_, rfl⟩
    obtain ⟨z, hz⟩ := hsome
    rw [hz, hall z (CkManager.State.find_oldest_session_mem hz)]

/-- The sessions that match the device of a VT are those on it. -/
theorem VtSessions.matches_iff (h : VtSessions m d) (n : Nat) :
    m.Matches d (ck_get_console_device_for_num n) x ↔
      x ∈ (m.seat d).sessions.values ∧ (m.session x).vtnr = n := by
  constructor
  · rintro ⟨hx, hdevice | ⟨-, hdevice⟩⟩
    · exact ⟨hx, (h.device x hx n).mp (.inl hdevice)⟩
    · exact ⟨hx, (h.device x hx n).mp (.inr hdevice)⟩
  · rintro ⟨hx, hvtnr⟩
    refine ⟨hx, ?_⟩
    by_cases hx11 : (m.session x).x11_display_device = some (ck_get_console_device_for_num n)
    · exact .inl hx11
    · refine .inr ⟨fun y hy hdevice => hx11 ?_,
        ((h.device x hx n).mpr hvtnr).resolve_left hx11⟩
      -- Another session with the device would be on the same VT.
      have hsame := (h.device y hy n).mp (.inl hdevice)
      rwa [h.distinct y hy x hx (hsame.trans hvtnr.symm)] at hdevice

/-- The seat finds the session on a VT by the VT's device. -/
theorem VtSessions.find (h : VtSessions m d) (n : Nat) :
    m.find_session_for_display_device d (ck_get_console_device_for_num n) = some x ↔
      x ∈ (m.seat d).sessions.values ∧ (m.session x).vtnr = n := by
  obtain ⟨xs, hfind, hmem⟩ := m.exists_candidates d (ck_get_console_device_for_num n)
  rw [hfind, ← h.matches_iff, ← hmem]
  constructor
  · exact fun holdest => CkManager.State.find_oldest_session_mem holdest
  · intro hx
    -- There is one session on the VT at most.
    refine find_oldest_eq hx fun y hy => ?_
    obtain ⟨hx, hvtnr⟩ := (h.matches_iff n).mp ((hmem x).mp hx)
    obtain ⟨hy, hvtnr'⟩ := (h.matches_iff n).mp ((hmem y).mp hy)
    exact h.distinct y hy x hx (hvtnr'.trans hvtnr.symm)

/-- Nothing but flags and the active session has changed. -/
theorem VtSessions.only (h : VtSessions m d) (honly : CkManager.OnlyActive m m') :
    VtSessions m' d := by
  have hsessions : (m'.seat d).sessions = (m.seat d).sessions := by rw [honly.seat d]
  constructor
  · rw [honly.seat d]
    exact h.static
  · intro y hy n
    rw [hsessions] at hy
    rw [honly.session y]
    exact h.device y hy n
  · intro y hy z hz
    rw [hsessions] at hy hz
    rw [honly.session y, honly.session z]
    exact h.distinct y hy z hz

/-- The session on a VT stays the same. -/
theorem VtSessions.find_only (h : VtSessions m d) (honly : CkManager.OnlyActive m m') (n : Nat) :
    m'.find_session_for_display_device d (ck_get_console_device_for_num n) =
      m.find_session_for_display_device d (ck_get_console_device_for_num n) := by
  apply Option.ext
  intro y
  rw [(h.only honly).find, h.find, honly.seat d, honly.session y]

/-- After `change_active_session` its session is the active session, it is
    active, and no session is that was neither it nor active before. -/
theorem change_active_session_spec (m : CkManager.State) (d : SeatRef)
    (session : Option SessionRef) :
    ((m.change_active_session d session).1.seat d).active_session = session ∧
      (∀ x, session = some x → ((m.change_active_session d session).1.session x).active = true) ∧
      ∀ x, ((m.change_active_session d session).1.session x).active = true → session ≠ some x →
        (m.session x).active = true ∧ (m.seat d).active_session ≠ some x := by
  by_cases heq : (m.seat d).active_session = session
  · have hsame : (m.change_active_session d session).1 =
        session.elim m fun x => m.ck_session_set_active x true := by
      unfold CkManager.State.change_active_session
      rw [if_pos heq]
    rw [hsame]
    refine ⟨by rw [CkManager.State.elim_set_active_seat, heq], ?_, ?_⟩
    · intro x hx
      rw [CkManager.State.elim_set_active_active, if_pos hx]
    · intro x hx hne
      rw [CkManager.State.elim_set_active_active, if_neg hne] at hx
      exact ⟨hx, by rw [heq]; exact hne⟩
  · refine ⟨?_, ?_, ?_⟩
    · rw [CkManager.State.change_active_session_pointer heq, if_pos rfl]
    · intro x hx
      rw [CkManager.State.change_active_session_active heq, if_pos hx]
    · intro x hx hne
      rw [CkManager.State.change_active_session_active heq, if_neg hne] at hx
      split at hx
      · cases hx
      · exact ⟨hx, ‹_›⟩

/-! ## Section 2: The invariant -/

/-- The VT that the monitor last announced, or that was active at first. -/
def CkVtMonitor.shown (s : CkVtMonitor) : Nat :=
  match s.main with
  | .adding _ dr | .emitting dr => dr.before
  | _ => s.active_num

/-- The drain in progress has changed `active_num` and not yet said so. -/
def Main.announcing : Main → Bool
  | .adding _ _ | .emitting _ => true
  | _ => false

namespace Console

/-- The monitor is about to announce another VT. -/
inductive Coming (c : Console) : Prop where
  | done (t : ThreadRef) (n : Nat) : c.monitor.thread t = some ⟨n, .waiting⟩ →
      c.wait t = .done → Coming c
  | woken (t : ThreadRef) (n : Nat) : c.monitor.thread t = some ⟨n, .woken⟩ → Coming c
  | event (e : EventData) : e ∈ c.monitor.main.unsettled ++ c.monitor.event_queue → Coming c
  | change : c.monitor.main.announcing = true → Coming c

/-- Why the session on the VT that was announced last may be inactive. -/
def Excused (c : Console) : Prop := c.fg ≠ c.monitor.shown ∨ c.Coming

structure SwitchOk (max_consoles : Nat) (d : SeatRef) (c : Console) : Prop where
  sessions : VtSessions c.manager d
  current : (c.manager.seat d).active_session =
    c.manager.find_session_for_display_device d (ck_get_console_device_for_num c.monitor.shown)
  only : ∀ x ∈ (c.manager.seat d).sessions.values, (c.manager.session x).active = true →
    (c.manager.seat d).active_session = some x
  held : ∀ x, (c.manager.seat d).active_session = some x →
    (c.manager.session x).active = true ∨ c.Excused
  starting : ∀ i, c.monitor.main = .starting i → ∀ x,
    (c.manager.seat d).active_session = some x → (c.manager.session x).active = true
  queued : ∀ t, c.wait t = .queued → ∃ n, c.monitor.thread t = some ⟨n, .waiting⟩ ∧ n ≠ c.fg
  newvt : ∀ n, c.newvt = some n → n ≠ c.fg ∧ 1 ≤ n ∧ n < max_consoles
  fg : 1 ≤ c.fg ∧ (c.fg < max_consoles ∨ ∃ i, c.monitor.main = .starting i)
  callout : c.callout = true → ∃ dr, c.monitor.main = .clearing dr

/-- The active VT's watcher, if it has one, has begun to wait. -/
def Seen (c : Console) : Prop :=
  ∀ t, c.monitor.thread t = some ⟨c.fg, .waiting⟩ → c.wait t ≠ .outside

/-- The steps by which VT switches settle.  The highest VT is never active,
    no watch is lost, and a VT is left only after its watcher has seen it.  A
    session's handler of `SIGUSR1` does not find the session active, its VT
    the active one, and no switch waiting for it. -/
def SwitchKept (max_consoles : Nat) (d : SeatRef) (c : Console) (e : Event) : Prop :=
  c.fg < max_consoles ∧
  match e with
  | .monitor e => c.monitor.WatchesKept max_consoles e
  | .switch n => n < max_consoles ∧ (c.controlled d c.fg = false → c.Seen)
  | .leave x _ =>
    (c.manager.session x).vtnr = c.fg →
      (c.newvt = none → (c.manager.session x).active = false) ∧ (c.newvt ≠ none → c.Seen)
  | .acquire x _ => (c.manager.session x).vtnr = c.fg → c.newvt ≠ none → c.Seen
  | .enter _ | .requeue _ | .callout_done => True

variable {c c' : Console} {max_consoles : Nat} {t : ThreadRef}

/-! ## Section 3: The kernel's steps -/

/-- What a release of a VT does: it completes the switch that waits for it,
    or nothing. -/
theorem vt_reldisp_cases (c : Console) (d : SeatRef) (vt : Nat) :
    (vt = c.fg ∧ ∃ n, c.newvt = some n ∧ c.vt_reldisp d vt = c.complete_change_console d n) ∨
      ((vt = c.fg → c.newvt = none) ∧ c.vt_reldisp d vt = c) := by
  unfold vt_reldisp
  split
  · rename_i hvt
    split
    · rename_i n hn
      exact .inl ⟨hvt, n, hn, rfl⟩
    · rename_i hnone
      exact .inr ⟨fun _ => hnone, rfl⟩
  · rename_i hvt
    exact .inr ⟨fun heq => absurd heq hvt, rfl⟩

theorem vt_reldisp_monitor (c : Console) (d : SeatRef) (vt : Nat) :
    (c.vt_reldisp d vt).monitor = c.monitor := by
  rcases c.vt_reldisp_cases d vt with ⟨-, n, -, heq⟩ | ⟨-, heq⟩
  · rw [heq]
    rfl
  · rw [heq]

/-- The waits after a switch: the watcher of the VT that has become active
    is about to return. -/
theorem complete_wait (c : Console) (d : SeatRef) (n : Nat) (t : ThreadRef) :
    (c.complete_change_console d n).wait t = c.wait t ∨
      (c.wait t = .queued ∧ (c.complete_change_console d n).wait t = .done) := by
  show switched n (c.monitor.thread t) (c.wait t) = _ ∨
    _ ∧ switched n (c.monitor.thread t) (c.wait t) = _
  unfold switched
  split
  · rename_i num hth hwait
    split
    · exact .inr ⟨hwait, rfl⟩
    · exact .inl hwait.symm
  · exact .inl rfl

/-- A watcher that is still queued is the watcher of another VT. -/
theorem complete_queued {n num : Nat} (hth : c.monitor.thread t = some ⟨num, .waiting⟩)
    (h : (c.complete_change_console d n).wait t = .queued) : num ≠ n := by
  intro heq
  have hwait : c.wait t = .queued := by
    rcases c.complete_wait d n t with hsame | ⟨hold, -⟩
    · rw [← hsame, h]
    · exact hold
  have hdone : (c.complete_change_console d n).wait t = .done := by
    show switched n (c.monitor.thread t) (c.wait t) = .done
    rw [hth, hwait]
    exact if_pos heq
  rw [hdone] at h
  cases h

/-- A step outside the monitor keeps what is coming, if a watcher that is
    about to return still is. -/
theorem Coming.mono (h : c.Coming) (hmonitor : c'.monitor = c.monitor)
    (hwait : ∀ t, c.wait t = .done → c'.wait t = .done) : c'.Coming := by
  cases h with
  | done t num hth hdone => exact .done t num (by rw [hmonitor]; exact hth) (hwait t hdone)
  | woken t num hth => exact .woken t num (by rw [hmonitor]; exact hth)
  | event e he => exact .event e (by rw [hmonitor]; exact he)
  | change hm => exact .change (by rw [hmonitor]; exact hm)

theorem Coming.complete (h : c.Coming) (n : Nat) : (c.complete_change_console d n).Coming := by
  refine h.mono (by rfl) ?_
  intro t hdone
  rcases c.complete_wait d n t with hsame | ⟨hold, -⟩
  · exact hsame.trans hdone
  · rw [hdone] at hold
    cases hold

theorem Excused.mono (h : c.Excused) (hmonitor : c'.monitor = c.monitor) (hfg : c'.fg = c.fg)
    (hwait : ∀ t, c.wait t = .done → c'.wait t = .done) : c'.Excused := by
  rcases h with hne | hcoming
  · exact .inl (by rw [hmonitor, hfg]; exact hne)
  · exact .inr (hcoming.mono hmonitor hwait)

/-- When the active VT is not the one announced, its watcher has returned,
    or has pushed its event, or has yet to begin to wait. -/
theorem SwitchOk.coming_of_left (h : SwitchOk max_consoles d c)
    (hmon : (vt_monitor max_consoles).ReachableBy (CkVtMonitor.WatchesKept max_consoles) c.monitor)
    (hfg : c.fg < max_consoles) (hstart : ∀ i, c.monitor.main ≠ .starting i) (hseen : c.Seen)
    (hne : c.fg ≠ c.monitor.shown) : c.Coming := by
  by_contra hnot
  have hann : c.monitor.main.announcing = false :=
    Bool.eq_false_iff.mpr fun hann => hnot (.change hann)
  have hshown : c.monitor.shown = c.monitor.active_num := by
    unfold CkVtMonitor.shown
    cases hm : c.monitor.main with
    | adding i dr | emitting dr =>
      rw [hm] at hann
      cases hann
    | _ => rfl
  have hadded : c.monitor.main.added max_consoles = max_consoles := by
    cases hm : c.monitor.main with
    | starting i => exact absurd hm (hstart i)
    | adding i dr =>
      rw [hm] at hann
      cases hann
    | _ => rfl
  rw [hshown] at hne
  rcases CkVtMonitor.coverOk_of_reachable hmon c.fg h.fg.1 (by rw [hadded]; exact hfg) hne with
    ⟨t, pc, hth, hw⟩ | ⟨e, he, -⟩
  · cases pc with
    | waiting =>
      cases hwait : c.wait t with
      | outside => exact hseen t hth hwait
      | queued =>
        obtain ⟨n, hn, hnfg⟩ := h.queued t hwait
        rw [hth] at hn
        cases hn
        exact hnfg rfl
      | done => exact hnot (.done t c.fg hth hwait)
    | woken => exact hnot (.woken t c.fg hth)
    | _ => cases hw
  · exact hnot (.event e he)

/-- A switch keeps the excuse of the session on the VT that is left. -/
theorem SwitchOk.complete (h : SwitchOk max_consoles d c)
    (hmon : (vt_monitor max_consoles).ReachableBy (CkVtMonitor.WatchesKept max_consoles) c.monitor)
    (hfg : c.fg < max_consoles) (hseen : c.Seen) {n : Nat} (hn : 1 ≤ n ∧ n < max_consoles) :
    SwitchOk max_consoles d (c.complete_change_console d n) where
  sessions := h.sessions
  current := h.current
  only := h.only
  held := by
    intro x hx
    by_cases hstart : ∃ i, c.monitor.main = .starting i
    · obtain ⟨i, hi⟩ := hstart
      exact .inl (h.starting i hi x hx)
    · rcases h.held x hx with hactive | hne | hcoming
      · exact .inl hactive
      · have hcoming := h.coming_of_left hmon hfg (fun i hi => hstart ⟨i, hi⟩) hseen hne
        exact .inr (.inr (hcoming.complete n))
      · exact .inr (.inr (hcoming.complete n))
  starting := h.starting
  queued := by
    intro t hwait
    have hold : c.wait t = .queued := by
      rcases c.complete_wait d n t with hsame | ⟨hold, -⟩
      · rw [← hsame, hwait]
      · exact hold
    obtain ⟨num, hth, -⟩ := h.queued t hold
    exact ⟨num, hth, complete_queued hth hwait⟩
  newvt := fun _ hnone => nomatch hnone
  fg := ⟨hn.1, .inl hn.2⟩
  callout := h.callout

theorem SwitchOk.enter (h : SwitchOk max_consoles d c) (hs : c.enter t = some c') :
    SwitchOk max_consoles d c' := by
  unfold Console.enter at hs
  split at hs
  · rename_i num hth hwait
    cases hs
    have hother : ∀ u, u ≠ t →
        Function.update c.wait t (if num = c.fg then .done else .queued) u = c.wait u := by
      intro u hu
      exact Function.update_of_ne hu ..
    exact { h with
      held := by
        intro x hx
        apply (h.held x hx).imp_right
        intro hexcused
        refine hexcused.mono (by rfl) (by rfl) ?_
        intro u hdone
        have hne : u ≠ t := by
          intro heq
          rw [heq, hwait] at hdone
          cases hdone
        exact (hother u hne).trans hdone
      queued := by
        intro u hu
        by_cases heq : u = t
        · subst heq
          replace hu : Function.update c.wait u (if num = c.fg then .done else .queued) u =
            .queued := hu
          rw [Function.update_self] at hu
          refine ⟨num, hth, fun hnum => ?_⟩
          rw [if_pos hnum] at hu
          cases hu
        · exact h.queued u ((hother u heq).symm.trans hu) }
  · cases hs

theorem SwitchOk.requeue (h : SwitchOk max_consoles d c) (hs : c.requeue t = some c') :
    SwitchOk max_consoles d c' := by
  unfold Console.requeue at hs
  split at hs
  · rename_i hwait
    cases hs
    have hother : ∀ u, u ≠ t → Function.update c.wait t .outside u = c.wait u :=
      fun u hu => Function.update_of_ne hu ..
    exact { h with
      held := by
        intro x hx
        apply (h.held x hx).imp_right
        intro hexcused
        refine hexcused.mono (by rfl) (by rfl) ?_
        intro u hdone
        have hne : u ≠ t := by
          intro heq
          rw [heq, hwait] at hdone
          cases hdone
        exact (hother u hne).trans hdone
      queued := by
        intro u hu
        have hne : u ≠ t := by
          intro heq
          subst heq
          replace hu : Function.update c.wait u .outside u = .queued := hu
          rw [Function.update_self] at hu
          cases hu
        exact h.queued u ((hother u hne).symm.trans hu) }
  · cases hs

/-- A switch is completed at once, or waits for the release of the VT. -/
theorem SwitchOk.switch (h : SwitchOk max_consoles d c)
    (hmon : (vt_monitor max_consoles).ReachableBy (CkVtMonitor.WatchesKept max_consoles) c.monitor)
    {n : Nat} (hok : SwitchKept max_consoles d c (.switch n)) (h1 : 1 ≤ n)
    (hs : c.change_console d n = some c') : SwitchOk max_consoles d c' := by
  obtain ⟨hfg, hn, hseen⟩ := hok
  unfold change_console at hs
  split at hs
  · cases hs
  · rename_i hne
    split at hs
    · cases hs
      exact { h with
        held := fun x hx => (h.held x hx).imp_right fun hexcused =>
          hexcused.mono (by rfl) (by rfl) fun _ hdone => hdone
        newvt := by
          intro n' hn'
          cases hn'
          exact ⟨hne, h1, hn⟩ }
    · rename_i hcontrolled
      cases hs
      exact h.complete hmon hfg (hseen (Bool.eq_false_iff.mpr hcontrolled)) ⟨h1, hn⟩

/-! ## Section 4: The handlers of the signals -/

/-- A session's VT is released, or its acquisition is acknowledged. -/
theorem SwitchOk.reldisp (h : SwitchOk max_consoles d c)
    (hmon : (vt_monitor max_consoles).ReachableBy (CkVtMonitor.WatchesKept max_consoles) c.monitor)
    (hfg : c.fg < max_consoles) {vt : Nat} (hseen : vt = c.fg → c.newvt ≠ none → c.Seen) :
    SwitchOk max_consoles d (c.vt_reldisp d vt) := by
  rcases c.vt_reldisp_cases d vt with ⟨hvt, n, hn, heq⟩ | ⟨-, heq⟩
  · rw [heq]
    exact h.complete hmon hfg (hseen hvt (by rw [hn]; simp)) (h.newvt n hn).2
  · rw [heq]
    exact h

theorem vt_leave_handler_active (m : CkManager.State) (x y : SessionRef) :
    ((m.vt_leave_handler x).session y).active = if y = x then false else (m.session y).active := by
  unfold CkManager.State.vt_leave_handler CkManager.State.setSession
  by_cases h : y = x
  · subst h
    simp
  · simp [h]

/-- Only the session on the VT that was announced has something to lose. -/
theorem SwitchOk.vtnr (h : SwitchOk max_consoles d c)
    (hx : (c.manager.seat d).active_session = some x) :
    x ∈ (c.manager.seat d).sessions.values ∧ (c.manager.session x).vtnr = c.monitor.shown := by
  rw [h.current] at hx
  exact (h.sessions.find _).mp hx

/-- A session is made inactive that has an excuse without being active. -/
theorem SwitchOk.deactivate (h : SwitchOk max_consoles d c)
    (hstart : ∀ i, c.monitor.main ≠ .starting i)
    (hexcused : (c.manager.seat d).active_session = some x → c.Excused) :
    SwitchOk max_consoles d { c with manager := c.manager.vt_leave_handler x } := by
  have honly : CkManager.OnlyActive c.manager (c.manager.vt_leave_handler x) :=
    .setSession c.manager x false
  have hsessions := h.sessions.only honly
  have hactive := vt_leave_handler_active c.manager x
  exact { h with
    sessions := hsessions
    current := by
      show (c.manager.seat d).active_session = _
      rw [h.sessions.find_only honly]
      exact h.current
    only := by
      intro y hy hyactive
      replace hyactive : ((c.manager.vt_leave_handler x).session y).active = true := hyactive
      rw [hactive] at hyactive
      split at hyactive
      · cases hyactive
      · exact h.only y hy hyactive
    held := by
      intro y hy
      show ((c.manager.vt_leave_handler x).session y).active = true ∨ _
      rw [hactive]
      by_cases hyx : y = x
      · subst hyx
        exact .inr ((hexcused hy).mono (by rfl) (by rfl) fun _ hdone => hdone)
      · rw [if_neg hyx]
        exact (h.held y hy).imp_right fun hexc => hexc.mono (by rfl) (by rfl) fun _ hdone => hdone
    starting := fun i hi => absurd hi (hstart i) }

/-- The main loop runs only when the monitor has been set up. -/
theorem SwitchOk.not_starting (h : SwitchOk max_consoles d c) (hdisp : c.dispatching = true) :
    ∀ i, c.monitor.main ≠ .starting i := by
  intro i hi
  unfold dispatching at hdisp
  rw [Bool.or_eq_true, decide_eq_true_iff] at hdisp
  rcases hdisp with hcallout | hrunning
  · obtain ⟨dr, hdr⟩ := h.callout hcallout
    rw [hi] at hdr
    cases hdr
  · rw [hi] at hrunning
    cases hrunning

/-- Signals on their way change nothing yet. -/
theorem SwitchOk.signals (h : SwitchOk max_consoles d c) (relsig acqsig : SessionRef → Nat) :
    SwitchOk max_consoles d { c with relsig, acqsig } :=
  { h with
    held := fun y hy => (h.held y hy).imp_right fun hexcused =>
      hexcused.mono (by rfl) (by rfl) fun _ hwait => hwait }

/-- The leave handler of a session, when it is not the one at fault. -/
theorem SwitchOk.leave (h : SwitchOk max_consoles d c)
    (hmon : (vt_monitor max_consoles).ReachableBy (CkVtMonitor.WatchesKept max_consoles) c.monitor)
    {rest : Nat} (hok : SwitchKept max_consoles d c (.leave x rest))
    (hdisp : c.dispatching = true) (relsig : SessionRef → Nat) :
    SwitchOk max_consoles d ({ c with relsig }.vt_leave_handler d x) := by
  obtain ⟨hfg, hok⟩ := hok
  have hstart := h.not_starting hdisp
  unfold Console.vt_leave_handler
  rcases vt_reldisp_cases { c with relsig, manager := c.manager.vt_leave_handler x } d
    (c.manager.session x).vtnr with ⟨hvt, n, hn, heq⟩ | ⟨hnone, heq⟩
  · -- The switch that waited is completed, so another VT is active now.
    replace hvt : (c.manager.session x).vtnr = c.fg := hvt
    replace hn : c.newvt = some n := hn
    obtain ⟨hne, hrange⟩ := h.newvt n hn
    have hseen := (hok hvt).2 (by rw [hn]; simp)
    have hdone : SwitchOk max_consoles d
        { c.complete_change_console d n with manager := c.manager.vt_leave_handler x } := by
      apply (h.complete hmon hfg hseen hrange).deactivate hstart
      intro hx
      refine .inl ?_
      show n ≠ c.monitor.shown
      rw [← (h.vtnr hx).2, hvt]
      exact hne
    rw [heq]
    exact hdone.signals relsig _
  · replace hnone : (c.manager.session x).vtnr = c.fg → c.newvt = none := hnone
    have hdone : SwitchOk max_consoles d { c with manager := c.manager.vt_leave_handler x } := by
      apply h.deactivate hstart
      intro hx
      by_cases hvt : (c.manager.session x).vtnr = c.fg
      · rcases h.held x hx with hactive | hexcused
        · rw [(hok hvt).1 (hnone hvt)] at hactive
          cases hactive
        · exact hexcused
      · refine .inl fun hshown => hvt ?_
        rw [(h.vtnr hx).2, hshown]
    rw [heq]
    exact hdone.signals relsig _

theorem SwitchOk.acquire (h : SwitchOk max_consoles d c)
    (hmon : (vt_monitor max_consoles).ReachableBy (CkVtMonitor.WatchesKept max_consoles) c.monitor)
    {rest : Nat} (hok : SwitchKept max_consoles d c (.acquire x rest)) (acqsig : SessionRef → Nat) :
    SwitchOk max_consoles d ({ c with acqsig }.vt_acquire_handler d x) := by
  have hsame : SwitchOk max_consoles d { c with acqsig } := h.signals c.relsig acqsig
  exact hsame.reldisp hmon hok.1 hok.2

theorem SwitchOk.callout_done (h : SwitchOk max_consoles d c) :
    SwitchOk max_consoles d { c with callout := false } :=
  { h with
    held := fun y hy => (h.held y hy).imp_right fun hexcused =>
      hexcused.mono (by rfl) (by rfl) fun _ hwait => hwait
    callout := fun hcallout => nomatch hcallout }

/-! ## Section 5: The steps of the monitor -/

/-- A step of the monitor that announces nothing keeps the seat right, if it
    keeps what is coming. -/
theorem SwitchOk.of_monitor (h : SwitchOk max_consoles d c) (hfg : c.fg < max_consoles)
    {monitor : CkVtMonitor} (hshown : monitor.shown = c.monitor.shown)
    (hstart : ∀ i, monitor.main = .starting i → ∃ j, c.monitor.main = .starting j)
    (hcoming : c.Coming → { c with monitor }.Coming)
    (hwait : ∀ t n, c.monitor.thread t = some ⟨n, .waiting⟩ → c.wait t = .queued →
      monitor.thread t = some ⟨n, .waiting⟩)
    (hcallout : c.callout = true → ∃ dr, monitor.main = .clearing dr) :
    SwitchOk max_consoles d { c with monitor } :=
  { h with
    current := by
      show _ = c.manager.find_session_for_display_device d
        (ck_get_console_device_for_num monitor.shown)
      rw [hshown]
      exact h.current
    held := by
      intro x hx
      apply (h.held x hx).imp_right
      intro hexcused
      rcases hexcused with hne | hc
      · refine .inl ?_
        show c.fg ≠ monitor.shown
        rw [hshown]
        exact hne
      · exact .inr (hcoming hc)
    starting := by
      intro i hi
      obtain ⟨j, hj⟩ := hstart i hi
      exact h.starting j hj
    queued := by
      intro t ht
      obtain ⟨n, hth, hn⟩ := h.queued t ht
      exact ⟨n, hwait t n hth ht, hn⟩
    fg := ⟨h.fg.1, .inl hfg⟩
    callout := hcallout }

/-- A watcher that was neither waiting nor about to push moves on. -/
theorem Coming.move (h : c.Coming) {monitor : CkVtMonitor} {num : Nat} {pc pc' : Pc}
    (hth : c.monitor.thread t = some ⟨num, pc⟩) (hpc : pc.watching = false)
    (hthread : monitor.thread = (c.monitor.setPc t ⟨num, pc⟩ pc').thread)
    (hmain : monitor.main = c.monitor.main) (hqueue : monitor.event_queue = c.monitor.event_queue) :
    { c with monitor }.Coming := by
  have hother : ∀ u n pcu, pcu.watching = true → c.monitor.thread u = some ⟨n, pcu⟩ →
      monitor.thread u = some ⟨n, pcu⟩ := by
    intro u n pcu hw hu
    rw [hthread]
    apply CkVtMonitor.setPc_thread.mpr
    refine .inr ⟨?_, hu⟩
    intro heq
    rw [heq, hth] at hu
    cases hu
    rw [hpc] at hw
    cases hw
  cases h with
  | done u n hu hdone => exact .done u n (hother u n _ rfl hu) hdone
  | woken u n hu => exact .woken u n (hother u n _ rfl hu)
  | event e he => exact .event e (by rw [hmain, hqueue]; exact he)
  | change hm => exact .change (by rw [hmain]; exact hm)

/-- The thread that moves on is not one that the kernel has queued. -/
theorem setPc_waiting {s : CkVtMonitor} {num n : Nat} {pc pc' : Pc} {u : ThreadRef}
    (hth : s.thread t = some ⟨num, pc⟩) (hpc : pc ≠ .waiting)
    (hu : s.thread u = some ⟨n, .waiting⟩) :
    (s.setPc t ⟨num, pc⟩ pc').thread u = some ⟨n, .waiting⟩ := by
  apply CkVtMonitor.setPc_thread.mpr
  refine .inr ⟨?_, hu⟩
  intro heq
  rw [heq, hth] at hu
  cases hu
  exact hpc rfl

theorem SwitchOk.wake (h : SwitchOk max_consoles d c) (hfg : c.fg < max_consoles)
    {monitor : CkVtMonitor} (hdone : c.wait t = .done)
    (hs : c.monitor.wake t true = some monitor) : SwitchOk max_consoles d { c with monitor } := by
  obtain ⟨num, hth, rfl⟩ := CkVtMonitor.wake_cases hs
  apply h.of_monitor hfg (by rfl)
  · exact fun i hi => ⟨i, hi⟩
  · intro hcoming
    cases hcoming with
    | done u n hu hwait =>
      by_cases heq : u = t
      · subst heq
        rw [hth] at hu
        cases hu
        exact .woken u num (CkVtMonitor.setPc_thread.mpr (.inl ⟨rfl, rfl⟩))
      · exact .done u n (CkVtMonitor.setPc_thread.mpr (.inr ⟨heq, hu⟩)) hwait
    | woken u n hu =>
      have hne : u ≠ t := by
        intro heq
        rw [heq, hth] at hu
        cases hu
      exact .woken u n (CkVtMonitor.setPc_thread.mpr (.inr ⟨hne, hu⟩))
    | event e he => exact .event e he
    | change hm => exact .change hm
  · intro u n hu hwait
    have hne : u ≠ t := by
      intro heq
      rw [heq, hdone] at hwait
      cases hwait
    exact CkVtMonitor.setPc_thread.mpr (.inr ⟨hne, hu⟩)
  · exact h.callout

theorem SwitchOk.push (h : SwitchOk max_consoles d c) (hfg : c.fg < max_consoles)
    {monitor : CkVtMonitor} (hs : c.monitor.push t = some monitor) :
    SwitchOk max_consoles d { c with monitor } := by
  obtain ⟨num, hth, hlock, rfl⟩ := CkVtMonitor.push_cases hs
  apply h.of_monitor hfg (by rfl)
  · exact fun i hi => ⟨i, hi⟩
  · intro _
    exact .event ⟨num, c.monitor.pushes⟩ (by simp)
  · exact fun u n hu _ => setPc_waiting hth (by simp) hu
  · exact h.callout

theorem SwitchOk.schedule (h : SwitchOk max_consoles d c) (hfg : c.fg < max_consoles)
    {monitor : CkVtMonitor} (hs : c.monitor.schedule t = some monitor) :
    SwitchOk max_consoles d { c with monitor } := by
  obtain ⟨num, hth, rfl⟩ := CkVtMonitor.schedule_cases hs
  -- Scheduling a drain touches neither the threads nor the queue.
  have hframe : ∀ s : CkVtMonitor, s.schedule_process_queue.thread = s.thread ∧
      s.schedule_process_queue.main = s.main ∧
      s.schedule_process_queue.event_queue = s.event_queue ∧
      s.schedule_process_queue.shown = s.shown := by
    intro s
    unfold CkVtMonitor.schedule_process_queue
    split
    · exact ⟨rfl, rfl, rfl, rfl⟩
    · exact ⟨rfl, rfl, rfl, rfl⟩
  obtain ⟨hthread, hmain, hqueue, hshown⟩ := hframe (c.monitor.setPc t ⟨num, .pushed⟩ .leaving)
  apply h.of_monitor hfg hshown
  · exact fun i hi => ⟨i, hmain.symm.trans hi⟩
  · exact fun hcoming => hcoming.move hth rfl hthread hmain hqueue
  · intro u n hu _
    rw [hthread]
    exact setPc_waiting hth (by simp) hu
  · intro hcallout
    rw [hmain]
    exact h.callout hcallout

theorem SwitchOk.leave_table (h : SwitchOk max_consoles d c) (hfg : c.fg < max_consoles)
    {monitor : CkVtMonitor} (hs : c.monitor.leave t = some monitor) :
    SwitchOk max_consoles d { c with monitor } := by
  obtain ⟨num, hth, -, rfl⟩ := CkVtMonitor.leave_cases hs
  apply h.of_monitor hfg (by rfl)
  · exact fun i hi => ⟨i, hi⟩
  · exact fun hcoming => hcoming.move hth rfl rfl rfl rfl
  · exact fun u n hu _ => setPc_waiting hth (by simp) hu
  · exact h.callout

/-- The main thread moves on: threads stay, an event is popped or acted on,
    and a change is announced in the end. -/
theorem Coming.advance (h : c.Coming) {monitor : CkVtMonitor}
    (hthread : ∀ u th, c.monitor.thread u = some th → monitor.thread u = some th)
    (hevent : ∀ e ∈ c.monitor.main.unsettled ++ c.monitor.event_queue,
      monitor.main.announcing = true ∨ e ∈ monitor.main.unsettled ++ monitor.event_queue)
    (hchange : c.monitor.main.announcing = true → monitor.main.announcing = true) :
    { c with monitor }.Coming := by
  cases h with
  | done u n hu hdone => exact .done u n (hthread u _ hu) hdone
  | woken u n hu => exact .woken u n (hthread u _ hu)
  | event e he =>
    rcases hevent e he with hm | he
    · exact .change hm
    · exact .event e he
  | change hm => exact .change (hchange hm)

theorem vt_add_watch_thread {s : CkVtMonitor} (hq : s.QueueOk) (i : Nat) (created : Bool)
    (u : ThreadRef) (th : ThreadData) (hu : s.thread u = some th) :
    (s.vt_add_watch i created).thread u = some th := by
  rcases CkVtMonitor.vt_add_watch_cases s i created with ⟨heq, -⟩ | ⟨-, -, -, heq⟩
  · rw [heq]
    exact hu
  · rw [heq]
    show Function.update s.thread s.next_thread _ u = _
    rw [Function.update_of_ne (hq.ne_new hu)]
    exact hu

/-- A step of the main thread that keeps the threads and announces nothing. -/
theorem SwitchOk.advance (h : SwitchOk max_consoles d c) (hfg : c.fg < max_consoles)
    (hcallout : c.callout = false) {monitor : CkVtMonitor}
    (hthread : ∀ u th, c.monitor.thread u = some th → monitor.thread u = some th)
    (hshown : monitor.shown = c.monitor.shown)
    (hevent : ∀ e ∈ c.monitor.main.unsettled ++ c.monitor.event_queue,
      monitor.main.announcing = true ∨ e ∈ monitor.main.unsettled ++ monitor.event_queue)
    (hchange : c.monitor.main.announcing = true → monitor.main.announcing = true)
    (hstart : ∀ i, monitor.main = .starting i → ∃ j, c.monitor.main = .starting j) :
    SwitchOk max_consoles d { c with monitor } := by
  apply h.of_monitor hfg hshown hstart
  · exact fun hcoming => hcoming.advance hthread hevent hchange
  · exact fun u n hu _ => hthread u _ hu
  · rw [hcallout]
    exact fun hfalse => nomatch hfalse

/-- A step of the main thread that only moves it on, from where it is. -/
theorem SwitchOk.pass (h : SwitchOk max_consoles d c) (hfg : c.fg < max_consoles)
    (hcallout : c.callout = false) {main : Main} (hm : c.monitor.main = main)
    {monitor : CkVtMonitor} (hthread : monitor.thread = c.monitor.thread)
    (hqueue : monitor.event_queue = c.monitor.event_queue)
    (hshown : monitor.shown = CkVtMonitor.shown { c.monitor with main })
    (hunsettled : monitor.main.unsettled = main.unsettled)
    (hquiet : main.announcing = false) (hstart : ∀ i, monitor.main ≠ .starting i) :
    SwitchOk max_consoles d { c with monitor } := by
  subst hm
  apply h.advance hfg hcallout _ hshown
  · rw [hunsettled, hqueue]
    exact fun e he => .inr he
  · intro hann
    rw [hquiet] at hann
    cases hann
  · exact fun i hi => absurd hi (hstart i)
  · rw [hthread]
    exact fun _ _ hu => hu

/-- The steps of the main thread up to the emission, and after it. -/
theorem SwitchOk.main_step (h : SwitchOk max_consoles d c)
    (hmon : (vt_monitor max_consoles).ReachableBy (CkVtMonitor.WatchesKept max_consoles) c.monitor)
    (hfg : c.fg < max_consoles) (hcallout : c.callout = false)
    (hne : ∀ dr, c.monitor.main ≠ .emitting dr) {created : Bool} {monitor : CkVtMonitor}
    (hs : c.monitor.main_step max_consoles created = some monitor) :
    SwitchOk max_consoles d { c with monitor } := by
  have hq := CkVtMonitor.queueOk_of_reachable hmon.reachable
  have ht := CkVtMonitor.tableOk_of_reachable hmon.reachable
  have hdrain := hq.drain
  cases CkVtMonitor.main_step_cases hs with
  | start i hm hi =>
    rw [CkVtMonitor.vt_add_watch_frame]
    apply h.advance hfg hcallout
    case hthread => exact vt_add_watch_thread hq i created
    case hshown =>
      show c.monitor.active_num = _
      unfold CkVtMonitor.shown
      rw [hm]
    case hevent =>
      rw [hm]
      exact fun e he => .inr he
    case hchange =>
      rw [hm]
      exact fun hann => nomatch hann
    case hstart => exact fun _ _ => ⟨i, hm⟩
  | started i hm hi =>
    exact h.pass hfg hcallout hm rfl rfl rfl rfl rfl nofun
  | lock source sources hm hsources =>
    exact h.pass hfg hcallout hm rfl rfl rfl rfl rfl nofun
  | popped dr hm =>
    exact h.pass hfg hcallout hm rfl rfl rfl rfl rfl nofun
  | missing n dr hm hqueue =>
    exact h.pass hfg hcallout hm rfl rfl rfl rfl rfl nofun
  | pop n dr e event_queue hm hqueue =>
    apply h.advance hfg hcallout
    case hthread => exact fun _ _ hu => hu
    case hshown =>
      unfold CkVtMonitor.shown
      rw [hm]
    case hevent =>
      rw [hm, hqueue]
      intro e' he'
      refine .inr ?_
      show e' ∈ (dr.popped ++ [e]) ++ event_queue
      rw [List.append_assoc]
      exact he'
    case hchange =>
      rw [hm]
      exact fun hann => nomatch hann
    case hstart => exact fun _ hm' => nomatch hm'
  | nothing dr hm hdata =>
    -- A drain without an event has popped none, and left none.
    rw [hm] at hdrain
    have hpopped := hq.popped_eq_nil (by rw [hm]; rfl) hdata
    apply h.advance hfg hcallout
    case hthread => exact fun _ _ hu => hu
    case hshown =>
      unfold CkVtMonitor.shown
      rw [hm]
    case hevent =>
      rw [hm, hdrain.1]
      intro e he
      replace he : e ∈ dr.popped ++ [] := he
      rw [hpopped] at he
      cases he
    case hchange =>
      rw [hm]
      exact fun hann => nomatch hann
    case hstart => exact fun _ hm' => nomatch hm'
  | unchanged dr e hm hdata hnum =>
    -- An event of the active VT is never in the queue.
    exact absurd hnum.symm (ht.queued e.num (hq.queued_data hm hdata)).1
  | change dr e hm hdata hnum =>
    rw [hm] at hdrain
    apply h.advance hfg hcallout
    case hthread => exact fun _ _ hu => hu
    case hshown =>
      unfold CkVtMonitor.shown
      rw [hm]
      exact hdrain.2.2.symm
    case hevent => exact fun _ _ => .inl rfl
    case hchange => exact fun _ => rfl
    case hstart => exact fun _ hm' => nomatch hm'
  | add i dr hm hi =>
    rw [CkVtMonitor.vt_add_watch_frame]
    apply h.advance hfg hcallout
    case hthread => exact vt_add_watch_thread hq i created
    case hshown =>
      show dr.before = _
      unfold CkVtMonitor.shown
      rw [hm]
    case hevent => exact fun _ _ => .inl rfl
    case hchange => exact fun _ => rfl
    case hstart => exact fun _ hm' => nomatch hm'
  | added i dr hm hi =>
    apply h.advance hfg hcallout
    case hthread => exact fun _ _ hu => hu
    case hshown =>
      unfold CkVtMonitor.shown
      rw [hm]
    case hevent => exact fun _ _ => .inl rfl
    case hchange => exact fun _ => rfl
    case hstart => exact fun _ hm' => nomatch hm'
  | emit dr e hm hdata => exact absurd hm (hne dr)
  | clear dr hm =>
    exact h.pass hfg hcallout hm rfl rfl rfl rfl rfl nofun
  | unlock dr hm =>
    exact h.pass hfg hcallout hm rfl rfl rfl rfl rfl nofun

/-- The seat follows the announcement. -/
theorem SwitchOk.emit (h : SwitchOk max_consoles d c)
    (hmon : (vt_monitor max_consoles).ReachableBy (CkVtMonitor.WatchesKept max_consoles) c.monitor)
    (hfg : c.fg < max_consoles) {dr : Drain} {e : EventData} (hm : c.monitor.main = .emitting dr)
    (hdata : dr.data = some e) {created : Bool} {monitor : CkVtMonitor}
    (hs : c.monitor.main_step max_consoles created = some monitor) :
    SwitchOk max_consoles d ({ c with monitor }.active_changed d e.num) := by
  have hdrain := (CkVtMonitor.queueOk_of_reachable hmon.reachable).drain
  rw [hm] at hdrain
  obtain ⟨-, -, -, e', hdata', hnum⟩ := hdrain
  obtain rfl : e = e' := Option.some.inj (hdata.symm.trans hdata')
  have hmonitor : monitor = { c.monitor with
      emitted := c.monitor.emitted ++ [e.num]
      main := .clearing { dr with emitted := dr.emitted ++ [e.num] } } := by
    unfold CkVtMonitor.main_step at hs
    rw [hm] at hs
    simp only [hdata] at hs
    rw [← Option.some.inj hs, hdata]
  have hshown : monitor.shown = e.num := by
    rw [hmonitor]
    exact hnum
  have hthread : monitor.thread = c.monitor.thread := by rw [hmonitor]
  have hmain : monitor.main = .clearing { dr with emitted := dr.emitted ++ [e.num] } := by
    rw [hmonitor]
  have honly : CkManager.OnlyActive c.manager (c.manager.update_active_vt d e.num).1 :=
    (c.manager.change_active_session_only d _).1
  obtain ⟨hpointer, hnew, hold⟩ := change_active_session_spec c.manager d
    (c.manager.find_session_for_display_device d (ck_get_console_device_for_num e.num))
  constructor
  case sessions => exact h.sessions.only honly
  case current =>
    show ((c.manager.update_active_vt d e.num).1.seat d).active_session =
      (c.manager.update_active_vt d e.num).1.find_session_for_display_device d
        (ck_get_console_device_for_num monitor.shown)
    rw [hshown, h.sessions.find_only honly]
    exact hpointer
  case only =>
    intro x hx hactive
    show ((c.manager.update_active_vt d e.num).1.seat d).active_session = some x
    by_contra hne
    -- It would have been active before without being the active session.
    have hsession : c.manager.find_session_for_display_device d
        (ck_get_console_device_for_num e.num) ≠ some x := fun heq => hne (hpointer.trans heq)
    obtain ⟨hbefore, hother⟩ := hold x hactive hsession
    have hmem : x ∈ (c.manager.seat d).sessions.values := by
      have hsessions : ((c.manager.update_active_vt d e.num).1.seat d).sessions =
          (c.manager.seat d).sessions := by rw [honly.seat d]
      rw [← hsessions]
      exact hx
    exact hother (h.only x hmem hbefore)
  case held =>
    intro x hx
    exact .inl (hnew x (hpointer.symm.trans hx))
  case starting =>
    intro i hi
    replace hi : monitor.main = .starting i := hi
    rw [hmain] at hi
    cases hi
  case queued =>
    intro t ht
    obtain ⟨n, hth, hn⟩ := h.queued t ht
    exact ⟨n, by show monitor.thread t = _; rw [hthread]; exact hth, hn⟩
  case newvt => exact h.newvt
  case fg => exact ⟨h.fg.1, .inl hfg⟩
  case callout =>
    intro _
    exact ⟨_, hmain⟩

/-! ## Section 6: Every run -/

theorem SwitchOk.init (h : Init max_consoles d c) : SwitchOk max_consoles d c := by
  have hmain : c.monitor.main = .starting 1 := by rw [h.monitor]; rfl
  have hshown : c.monitor.shown = c.fg := by rw [h.monitor]; rfl
  have hactive : ∀ x, (c.manager.seat d).active_session = some x →
      (c.manager.session x).active = true := by
    intro x hx
    rw [h.current] at hx
    obtain ⟨hmem, hvt⟩ := (h.sessions.find _).mp hx
    exact (h.right x hmem).mpr hvt
  constructor
  case sessions => exact h.sessions
  case current =>
    rw [hshown]
    exact h.current
  case only =>
    intro x hx hx'
    rw [h.current]
    exact (h.sessions.find _).mpr ⟨hx, (h.right x hx).mp hx'⟩
  case held => exact fun x hx => .inl (hactive x hx)
  case starting => exact fun _ _ => hactive
  case queued =>
    intro t ht
    rw [h.wait t] at ht
    cases ht
  case newvt =>
    intro n hn
    rw [h.newvt] at hn
    cases hn
  case fg => exact ⟨h.fg.1, .inr ⟨1, hmain⟩⟩
  case callout =>
    intro hcallout
    rw [h.callout] at hcallout
    cases hcallout

/-- One step keeps the invariant. -/
theorem SwitchOk.step (h : SwitchOk max_consoles d c)
    (hmon : (vt_monitor max_consoles).ReachableBy (CkVtMonitor.WatchesKept max_consoles) c.monitor)
    {e : Event} (hok : SwitchKept max_consoles d c e)
    (hs : c.dispatch max_consoles d e = some c') : SwitchOk max_consoles d c' := by
  have hfg := hok.1
  cases e with
  | monitor e =>
    cases monitor_step_cases hs with
    | wake t monitor hdone hstep => exact h.wake hfg hdone hstep
    | push t monitor hstep => exact h.push hfg hstep
    | schedule t monitor hstep => exact h.schedule hfg hstep
    | leave t monitor hstep => exact h.leave_table hfg hstep
    | main created monitor hcallout hne hstep => exact h.main_step hmon hfg hcallout hne hstep
    | emit created monitor dr e hcallout hm hdata hstep => exact h.emit hmon hfg hm hdata hstep
  | enter t => exact h.enter hs
  | requeue t => exact h.requeue hs
  | switch n =>
    simp only [Console.dispatch] at hs
    split at hs
    · rename_i hn
      exact h.switch hmon hok hn.1 hs
    · cases hs
  | leave x rest =>
    simp only [Console.dispatch] at hs
    split at hs
    · rename_i hcond
      cases hs
      simp only [Bool.and_eq_true] at hcond
      exact h.leave hmon hok hcond.1.1 _
    · cases hs
  | acquire x rest =>
    simp only [Console.dispatch] at hs
    split at hs
    · cases hs
      exact h.acquire hmon hok _
    · cases hs
  | callout_done =>
    simp only [Console.dispatch] at hs
    split at hs
    · cases hs
      exact h.callout_done
    · cases hs

theorem dispatch_monitor {e : Event} (hs : c.dispatch max_consoles d e = some c') :
    c'.monitor = c.monitor ∨
      ∃ e', e = .monitor e' ∧ Vt.dispatch max_consoles c.monitor e' = some c'.monitor := by
  cases e with
  | monitor e => exact .inr ⟨e, rfl, monitor_step_monitor hs⟩
  | enter t =>
    refine .inl ?_
    simp only [Console.dispatch, Console.enter] at hs
    split at hs
    · cases hs
      rfl
    · cases hs
  | requeue t =>
    refine .inl ?_
    simp only [Console.dispatch, Console.requeue] at hs
    split at hs
    · cases hs
      rfl
    · cases hs
  | switch n =>
    refine .inl ?_
    simp only [Console.dispatch, change_console] at hs
    split at hs
    · split at hs
      · cases hs
      · split at hs
        · cases hs
          rfl
        · cases hs
          rfl
    · cases hs
  | leave x rest =>
    refine .inl ?_
    simp only [Console.dispatch] at hs
    split at hs
    · cases hs
      exact vt_reldisp_monitor ..
    · cases hs
  | acquire x rest =>
    refine .inl ?_
    simp only [Console.dispatch] at hs
    split at hs
    · cases hs
      exact vt_reldisp_monitor ..
    · cases hs
  | callout_done =>
    refine .inl ?_
    simp only [Console.dispatch] at hs
    split at hs
    · cases hs
      rfl
    · cases hs

/-- The monitor in the console is in a state that it can reach by itself. -/
theorem monitor_reachable (h : (console max_consoles d).ReachableBy (SwitchKept max_consoles d) c) :
    (vt_monitor max_consoles).ReachableBy (CkVtMonitor.WatchesKept max_consoles) c.monitor := by
  refine LTS.System.ReachableBy.project Console.monitor ?_ ?_ h
  · intro c hinit
    exact ⟨c.fg, hinit.monitor⟩
  · intro c e c' hok hs
    rcases dispatch_monitor hs with heq | ⟨e', rfl, hstep⟩
    · exact .inl heq
    · exact .inr ⟨e', hok.2, hstep⟩

/-- So it is in every run. -/
theorem monitor_run (h : (console max_consoles d).Reachable c) :
    (vt_monitor max_consoles).Reachable c.monitor := by
  refine LTS.System.ReachableBy.project Console.monitor ?_ ?_ h
  · intro c hinit
    exact ⟨c.fg, hinit.monitor⟩
  · intro c e c' _ hs
    rcases dispatch_monitor hs with heq | ⟨e', -, hstep⟩
    · exact .inl heq
    · exact .inr ⟨e', trivial, hstep⟩

theorem switchOk_of_reachable
    (h : (console max_consoles d).ReachableBy (SwitchKept max_consoles d) c) :
    SwitchOk max_consoles d c := by
  induction h with
  | init hinit => exact SwitchOk.init hinit
  | step hprev hok hs ih => exact ih.step (monitor_reachable hprev) hok hs

/-- With nothing left to do the monitor has announced the active VT. -/
theorem SwitchOk.quiescent_shown (h : SwitchOk max_consoles d c)
    (hmon : (vt_monitor max_consoles).ReachableBy (CkVtMonitor.WatchesKept max_consoles) c.monitor)
    (hquiet : c.Quiescent d) : ¬ c.Excused := by
  have hq := CkVtMonitor.queueOk_of_reachable hmon.reachable
  have hdraining := hquiet.monitor.not_draining hq
  have hfg : c.fg < max_consoles := by
    rcases h.fg.2 with hfg | ⟨i, hi⟩
    · exact hfg
    · exact absurd hi (hquiet.monitor.ready i)
  have hseen : c.Seen := by
    intro t hth hwait
    rw [hquiet.waiting t c.fg hth] at hwait
    cases hwait
  have hnone : ¬ c.Coming := by
    intro hcoming
    cases hcoming with
    | done t n hth hdone =>
      rw [hquiet.waiting t n hth] at hdone
      cases hdone
    | woken t n hth =>
      rcases hquiet.monitor.settled t _ hth with hpc | hpc
      · cases hpc
      · cases hpc
    | event e he =>
      rw [hquiet.monitor.empty, List.append_nil] at he
      cases hm : c.monitor.main with
      | popping n dr | changing dr =>
        rw [hm] at hdraining
        cases hdraining
      | _ =>
        rw [hm] at he
        cases he
    | change hann =>
      cases hm : c.monitor.main with
      | adding i dr | emitting dr =>
        rw [hm] at hdraining
        cases hdraining
      | _ =>
        rw [hm] at hann
        cases hann
  intro hexcused
  rcases hexcused with hne | hcoming
  · exact hnone (h.coming_of_left hmon hfg hquiet.monitor.ready hseen hne)
  · exact hnone hcoming

/-- VT switches settle on the right session. -/
theorem switches_settle (h : (console max_consoles d).ReachableBy (SwitchKept max_consoles d) c)
    (hquiet : c.Quiescent d) : RightSession c.manager d c.fg := by
  have hok := switchOk_of_reachable h
  have hnot := hok.quiescent_shown (monitor_reachable h) hquiet
  have hfg : c.fg = c.monitor.shown := not_not.mp fun hne => hnot (.inl hne)
  intro x hx
  rw [hfg]
  constructor
  · intro hactive
    exact (hok.vtnr (hok.only x hx hactive)).2
  · intro hvt
    have hcurrent : (c.manager.seat d).active_session = some x := by
      rw [hok.current]
      exact (hok.sessions.find _).mpr ⟨hx, hvt⟩
    exact (hok.held x hcurrent).resolve_right hnot

/-! ## Section 7: Two sessions -/

/-- A session on a VT. -/
def vt_session (vtnr : Nat) (active : Bool) : CkManager.CkSession :=
  { (CkManager.ck_manager_init true 1).session 0 with
    display_device := some (ck_get_console_device_for_num vtnr)
    vtnr := vtnr
    seat := some 0
    active := active }

/-- A static seat with an active session on VT 1 and another on VT `vtnr`. -/
def two_sessions (vtnr : Nat) : CkManager.State :=
  (((CkManager.ck_manager_init true 1).setSession 0 (vt_session 1 true)).setSession 1
    (vt_session vtnr false)).setSeat 0
    { id := Libc.cstr "Seat1"
      kind := .STATIC
      sessions := AList.insert (Libc.cstr "Session2") 1
        (AList.insert (Libc.cstr "Session1") 0 ∅)
      active_session := some 0
      connected := false }

theorem console_device_inj {n n' : Nat}
    (h : ck_get_console_device_for_num n = ck_get_console_device_for_num n') : n = n' := by
  have hnum : Libc.percent_u n = Libc.percent_u n' := List.append_cancel_left h
  rw [← Libc.ofDigitChars_percent_u n, hnum, Libc.ofDigitChars_percent_u]

theorem two_sessions_values (vtnr : Nat) :
    ((two_sessions vtnr).seat 0).sessions.values = [1, 0] := rfl

theorem two_sessions_vt {vtnr : Nat} (hvt : vtnr ≠ 1) : VtSessions (two_sessions vtnr) 0 := by
  have hdevice : ∀ v active n, (vt_session v active).x11_display_device =
      some (ck_get_console_device_for_num n) ∨ (vt_session v active).display_device =
        some (ck_get_console_device_for_num n) ↔ v = n := by
    intro v active n
    constructor
    · intro h
      rcases h with h | h
      · cases h
      · exact console_device_inj (Option.some.inj h)
    · intro h
      rw [h]
      exact .inr rfl
  refine ⟨rfl, ?_, ?_⟩
  · intro x hx n
    rw [two_sessions_values, List.mem_cons, List.mem_singleton] at hx
    rcases hx with rfl | rfl
    · exact hdevice vtnr false n
    · exact hdevice 1 true n
  · intro x hx y hy hxy
    rw [two_sessions_values, List.mem_cons, List.mem_singleton] at hx hy
    rcases hx with rfl | rfl <;> rcases hy with rfl | rfl
    · rfl
    · exact absurd hxy hvt
    · exact absurd hxy.symm hvt
    · rfl

/-- The console with two sessions, as the monitor is created. -/
def two_sessions_console (vtnr : Nat) : Console where
  monitor := CkVtMonitor.ck_vt_monitor_init 1
  manager := two_sessions vtnr
  fg := 1
  newvt := none
  wait _ := .outside
  relsig _ := 0
  acqsig _ := 0
  callout := false

theorem two_sessions_init {vtnr max_consoles : Nat} (hvt : vtnr ≠ 1) (hmax : 1 ≤ max_consoles) :
    Init max_consoles 0 (two_sessions_console vtnr) := by
  have hsessions := two_sessions_vt hvt
  refine ⟨hsessions, ?_, ?_, rfl, ⟨Nat.le_refl 1, hmax⟩, rfl, fun _ => rfl, fun _ => rfl,
    fun _ => rfl, rfl⟩
  · intro x hx
    rw [show (two_sessions_console vtnr).manager = two_sessions vtnr from rfl,
      two_sessions_values, List.mem_cons, List.mem_singleton] at hx
    rcases hx with rfl | rfl
    · exact ⟨fun h => (nomatch h), fun h => absurd h hvt⟩
    · exact ⟨fun _ => rfl, fun _ => rfl⟩
  · symm
    apply (hsessions.find 1).mpr
    rw [two_sessions_values]
    exact ⟨by simp, rfl⟩

/-- `Quiescent`, computed. -/
def quiescentNow (d : SeatRef) (c : Console) : Bool :=
  c.monitor.main = .running && c.monitor.event_queue = [] && c.monitor.process_queue_id = 0 &&
  ((List.range c.monitor.next_thread).all fun t =>
    match c.monitor.thread t with
    | some ⟨_, .waiting⟩ => c.wait t = .queued
    | some ⟨_, .exited⟩ | none => true
    | _ => false) &&
  ((c.manager.seat d).sessions.values.all fun x => c.relsig x = 0 && c.acqsig x = 0) &&
  !c.callout

theorem quiescent_of_now {c : Console} {d : SeatRef} (hq : c.monitor.QueueOk)
    (h : c.quiescentNow d = true) : c.Quiescent d := by
  simp only [quiescentNow, Bool.and_eq_true, decide_eq_true_eq, Bool.not_eq_true'] at h
  obtain ⟨⟨⟨⟨⟨hmain, hempty⟩, hid⟩, hthreads⟩, hsignals⟩, hcallout⟩ := h
  have hthread : ∀ t th, c.monitor.thread t = some th →
      (th.pc = .waiting ∧ c.wait t = .queued) ∨ th.pc = .exited := by
    intro t th hth
    have hlt : t < c.monitor.next_thread := by
      by_contra hge
      have hnone := hq.unborn t (Nat.le_of_not_lt hge)
      rw [hth] at hnone
      cases hnone
    have ht := List.all_eq_true.mp hthreads t (List.mem_range.mpr hlt)
    rw [hth] at ht
    obtain ⟨num, pc⟩ := th
    cases pc with
    | waiting => exact .inl ⟨rfl, of_decide_eq_true ht⟩
    | exited => exact .inr rfl
    | _ => cases ht
  refine ⟨⟨?_, hempty, hid, ?_⟩, ?_, ?_, hcallout⟩
  · intro i hi
    rw [hmain] at hi
    cases hi
  · exact fun t th hth => (hthread t th hth).imp_left And.left
  · intro t n hth
    rcases hthread t _ hth with ⟨-, hwait⟩ | hpc
    · exact hwait
    · cases hpc
  · intro x hx
    have hsig := List.all_eq_true.mp hsignals x hx
    simpa using hsig

/-- `Seen`, computed. -/
def seenNow (c : Console) : Bool :=
  (List.range c.monitor.next_thread).all fun t =>
    c.monitor.thread t ≠ some ⟨c.fg, .waiting⟩ || c.wait t ≠ .outside

theorem seen_of_now {c : Console} (hq : c.monitor.QueueOk) (h : c.seenNow = true) : c.Seen := by
  intro t hth
  have hlt : t < c.monitor.next_thread := by
    by_contra hge
    have hnone := hq.unborn t (Nat.le_of_not_lt hge)
    rw [hth] at hnone
    cases hnone
  have ht := List.all_eq_true.mp h t (List.mem_range.mpr hlt)
  simpa [hth] using ht

/-- A test for the steps by which VT switches settle, for runs in which no
    watcher is found in the table where it should not be. -/
def keptNow (max_consoles : Nat) (d : SeatRef) (c : Console) (e : Event) : Bool :=
  c.fg < max_consoles &&
  match e with
  | .monitor (.wake _ res) => res
  | .monitor (.main created) =>
    match c.monitor.main with
    | .starting i | .adding i _ =>
      i = c.monitor.active_num ||
        match c.monitor.vt_thread_hash.lookup i with
        | none => created
        | some t => c.monitor.thread t = some ⟨i, .waiting⟩
    | _ => true
  | .monitor _ => true
  | .switch n => n < max_consoles && (c.controlled d c.fg || c.seenNow)
  | .leave x _ =>
    (c.manager.session x).vtnr ≠ c.fg ||
      ((c.newvt ≠ none || !(c.manager.session x).active) && (c.newvt = none || c.seenNow))
  | .acquire x _ => (c.manager.session x).vtnr ≠ c.fg || c.newvt = none || c.seenNow
  | .enter _ | .requeue _ | .callout_done => true

theorem watchAdded_of_now {s : CkVtMonitor} {i : Nat} {created : Bool}
    (h : (i = s.active_num || match s.vt_thread_hash.lookup i with
      | none => created
      | some t => s.thread t = some ⟨i, .waiting⟩ : Bool) = true) : s.WatchAdded i created := by
  intro hne
  replace h := ((Bool.or_eq_true ..).mp h).resolve_left fun heq => hne (of_decide_eq_true heq)
  cases hlookup : s.vt_thread_hash.lookup i with
  | none =>
    rw [hlookup] at h
    exact .inr ⟨rfl, h⟩
  | some t =>
    rw [hlookup] at h
    exact .inl ⟨t, .waiting, of_decide_eq_true h, rfl⟩

theorem kept_of_now {c : Console} {e : Event} (hq : c.monitor.QueueOk)
    (h : keptNow max_consoles d c e = true) : SwitchKept max_consoles d c e := by
  obtain ⟨hfg, h⟩ := (Bool.and_eq_true ..).mp h
  refine ⟨of_decide_eq_true hfg, ?_⟩
  cases e with
  | monitor e =>
    cases e with
    | wake t res => exact h
    | main created =>
      show match c.monitor.main with
        | .starting i | .adding i _ => i < max_consoles → c.monitor.WatchAdded i created
        | _ => True
      cases hm : c.monitor.main with
      | starting i | adding i dr =>
        simp only [hm] at h
        exact fun _ => watchAdded_of_now h
      | _ => trivial
    | _ => trivial
  | switch n =>
    simp only [Bool.and_eq_true, Bool.or_eq_true, decide_eq_true_eq] at h
    refine ⟨h.1, fun hcontrolled => ?_⟩
    rcases h.2 with hc | hseen
    · rw [hcontrolled] at hc
      cases hc
    · exact seen_of_now hq hseen
  | leave x rest =>
    intro hvt
    simp only [Bool.and_eq_true, Bool.or_eq_true, decide_eq_true_eq, Bool.not_eq_true'] at h
    rcases h with hne | ⟨hactive, hseen⟩
    · exact absurd hvt hne
    · refine ⟨fun hnone => ?_, fun hsome => ?_⟩
      · exact hactive.resolve_left fun hsome => hsome hnone
      · exact seen_of_now hq (hseen.resolve_left hsome)
  | acquire x rest =>
    intro hvt hsome
    simp only [Bool.or_eq_true, decide_eq_true_eq] at h
    rcases h with (hne | hnone) | hseen
    · exact absurd hvt hne
    · exact absurd hnone hsome
    · exact seen_of_now hq hseen
  | _ => trivial

/-- `n` steps of the main thread. -/
def main_steps (n : Nat) : List Event := List.replicate n (.monitor (.main true))

/-- The monitor of a console with four VTs is set up, and the session on
    VT 1 is left for the one on VT 2. -/
def leave_for_second : List Event :=
  main_steps 4 ++ [.enter 0, .enter 1, .switch 2, .leave 0 0, .leave 1 0, .acquire 0 0,
    .acquire 1 0, .monitor (.wake 0 true), .monitor (.push 0), .monitor (.schedule 0)] ++
  main_steps 11 ++ [.monitor (.leave 0), .enter 2]

theorem switches_settle_second :
    ∃ c, (console 4 0).runBy (keptNow 4 0) (two_sessions_console 2) leave_for_second = some c ∧
      c.fg = 2 ∧ RightSession c.manager 0 c.fg := by
  have hrun : ((console 4 0).runBy (keptNow 4 0) (two_sessions_console 2) leave_for_second).any
      (fun c => c.quiescentNow 0 && c.fg = 2) = true := by
    decide +kernel
  obtain ⟨c, hc, hfacts⟩ := (Option.any_eq_true ..).mp hrun
  obtain ⟨hquiet, hfg⟩ := (Bool.and_eq_true ..).mp hfacts
  have hinit : (console 4 0).ReachableBy (SwitchKept 4 0) (two_sessions_console 2) :=
    .init (two_sessions_init (by omega) (by omega))
  have hreach : (console 4 0).ReachableBy (SwitchKept 4 0) c := by
    refine hinit.runBy (fun s e hs hnow => ?_) hc
    exact kept_of_now (CkVtMonitor.queueOk_of_reachable (monitor_run hs.reachable)) hnow
  have hq := CkVtMonitor.queueOk_of_reachable (monitor_run hreach.reachable)
  exact ⟨c, hc, of_decide_eq_true hfg, switches_settle hreach (quiescent_of_now hq hquiet)⟩

/-- The session on VT 1 is left for the highest VT. -/
def leave_for_highest : List Event :=
  main_steps 63 ++ (List.range 61).map .enter ++
    [.switch 63, .leave 0 0, .leave 1 0, .acquire 0 0, .acquire 1 0]

/-- No watcher tells the seat that VT 63 is active, and its session is not. -/
theorem switch_to_highest_lost :
    ¬ ∀ c, (console CkVtMonitor.MAX_NR_CONSOLES 0).Reachable c → c.Quiescent 0 →
      RightSession c.manager 0 c.fg := by
  intro hall
  have hrun : ((console CkVtMonitor.MAX_NR_CONSOLES 0).run (two_sessions_console 63)
      leave_for_highest).any (fun c => c.quiescentNow 0 && c.fg = 63 &&
        (c.manager.seat 0).sessions.values.contains 1 && (c.manager.session 1).vtnr = 63 &&
        !(c.manager.session 1).active) = true := by
    decide +kernel
  obtain ⟨c, hc, hfacts⟩ := (Option.any_eq_true ..).mp hrun
  simp only [Bool.and_eq_true, decide_eq_true_eq, Bool.not_eq_true', List.contains_iff_mem]
    at hfacts
  obtain ⟨⟨⟨⟨hquiet, hfg⟩, hmem⟩, hvt⟩, hactive⟩ := hfacts
  have hinit : (console CkVtMonitor.MAX_NR_CONSOLES 0).Reachable (two_sessions_console 63) :=
    .init (two_sessions_init (by omega) (by decide))
  have hreach := hinit.run hc
  have hq := CkVtMonitor.queueOk_of_reachable (monitor_run hreach)
  have hshould := (hall c hreach (quiescent_of_now hq hquiet) 1 hmem).mpr (hvt.trans hfg.symm)
  rw [hactive] at hshould
  cases hshould

/-- The handler of the session on VT 2 runs late: the signal asked for the
    release of VT 1. -/
def late_handler : List Event :=
  main_steps 4 ++ [.enter 0, .enter 1, .switch 2, .leave 0 0, .acquire 0 0, .acquire 1 0,
    .monitor (.wake 0 true), .monitor (.push 0), .monitor (.schedule 0)] ++
  main_steps 11 ++ [.monitor (.leave 0), .enter 2, .leave 1 0]

theorem switch_late_handler :
    ∃ c, (console 4 0).run (two_sessions_console 2) late_handler = some c ∧ c.Quiescent 0 ∧
      c.fg = 2 ∧ ¬ RightSession c.manager 0 c.fg := by
  have hrun : ((console 4 0).run (two_sessions_console 2) late_handler).any (fun c =>
      c.quiescentNow 0 && c.fg = 2 && (c.manager.seat 0).sessions.values.contains 1 &&
        (c.manager.session 1).vtnr = 2 && !(c.manager.session 1).active) = true := by
    decide +kernel
  obtain ⟨c, hc, hfacts⟩ := (Option.any_eq_true ..).mp hrun
  simp only [Bool.and_eq_true, decide_eq_true_eq, Bool.not_eq_true', List.contains_iff_mem]
    at hfacts
  obtain ⟨⟨⟨⟨hquiet, hfg⟩, hmem⟩, hvt⟩, hactive⟩ := hfacts
  have hinit : (console 4 0).Reachable (two_sessions_console 2) :=
    .init (two_sessions_init (by omega) (by omega))
  have hq := CkVtMonitor.queueOk_of_reachable (monitor_run (hinit.run hc))
  refine ⟨c, hc, quiescent_of_now hq hquiet, hfg, fun hright => ?_⟩
  have hshould := (hright 1 hmem).mpr (hvt.trans hfg.symm)
  rw [hactive] at hshould
  cases hshould

end Console

end Vt
