import ConsoleKit.Framework.CString
import ConsoleKit.Framework.System
import Mathlib.Algebra.Group.Int.Defs

/-! # The idle monitor of a terminal

    Model of `ck-tty-idle-monitor.c`.  A started monitor looks at the access
    time of its device when a timer of the main loop fires.  If the terminal
    is idle by then, it has the file monitor report the next access instead
    of waiting for a timer.  Each of the two callbacks is left to arm the
    other one.

    This module provides:
    - `idle_monitor`: the monitor with the sources that may wake it up,
    - `Awake`: one source is armed, and the idle hint can still change,
    - `awake_iff`: the runs in which the monitor stays awake.
-/

namespace TtyIdle

open Libc

/-! ## Section 1: Data -/

/-- `CkTtyIdleMonitorPrivate`.  An id is 0 if there is none.  The file monitor
    is NULL until a watch is added for the first time. -/
structure CkTtyIdleMonitor where
  device : Option CString
  threshold : UInt32
  timeout_id : Nat
  idle_hint : Bool
  file_monitor : Bool
  file_notify_id : Nat
  deriving DecidableEq

/-- A source of the main loop that calls `check_tty_idle`. -/
structure Timeout where
  id : Nat
  seconds : Nat
  deriving DecidableEq

/-- An access notification that is registered for the monitor. -/
structure Notify where
  id : Nat
  path : CString
  deriving DecidableEq

structure State where
  monitor : CkTtyIdleMonitor
  /-- The pending timers. -/
  timeouts : List Timeout
  /-- The live notifications. -/
  notifies : List Notify
  /-- `ck_tty_idle_monitor_start` has been called, and not been undone. -/
  started : Bool
  deriving DecidableEq

/-- What the calls that a check may make return. -/
structure Answers where
  /-- `st_atime`, or `none` if `g_stat` fails. -/
  stat : Option Int
  now : Int
  /-- Of `ck_file_monitor_add_notify`: 0 if it fails. -/
  notify_id : Nat
  /-- Of `g_timeout_add_seconds`. -/
  timeout_id : Nat

namespace State

/-! ## Section 2: The functions -/

variable (s : State)

def tty_idle_monitor_set_idle_hint_internal (idle_hint : Bool) : State :=
  { s with monitor := { s.monitor with idle_hint := idle_hint } }

def ck_tty_idle_monitor_set_threshold (threshold : UInt32) : State :=
  { s with monitor := { s.monitor with threshold := threshold } }

def remove_idle_hint_timeout : State :=
  if 0 < s.monitor.timeout_id then
    { s with
      timeouts := s.timeouts.filter (·.id ≠ s.monitor.timeout_id)
      monitor := { s.monitor with timeout_id := 0 } }
  else s

/-- The flag is what the source returns.  Without a device the file monitor
    has nothing to add a notification for. -/
def monitor_add_watch (notify_id : Nat) : State × Bool :=
  ({ s with
      monitor := { s.monitor with file_monitor := true, file_notify_id := notify_id }
      notifies :=
        if 0 < notify_id then (s.monitor.device.map (Notify.mk notify_id)).toList ++ s.notifies
        else s.notifies },
    decide (0 < notify_id))

/-- The id stays in its field. -/
def monitor_remove_watch : State :=
  if s.monitor.file_monitor ∧ 0 < s.monitor.file_notify_id then
    { s with notifies := s.notifies.filter (·.id ≠ s.monitor.file_notify_id) }
  else s

def schedule_tty_check (seconds timeout_id : Nat) : State :=
  if s.monitor.timeout_id = 0 then
    { s with
      monitor := { s.monitor with timeout_id := timeout_id }
      timeouts := ⟨timeout_id, seconds⟩ :: s.timeouts }
  else s

def add_idle_hint_timeout (timeout_id : Nat) : State :=
  s.schedule_tty_check s.monitor.threshold.toNat timeout_id

/-- The rest of a check, for a terminal that was last accessed `idletime`
    seconds ago. -/
def check_idletime (idletime : Int) (a : Answers) : State :=
  let threshold : Int := s.monitor.threshold.toNat
  let is_idle := decide (threshold ≤ idletime)
  let s := s.tty_idle_monitor_set_idle_hint_internal is_idle
  if is_idle then
    let (s, added) := s.monitor_add_watch a.notify_id
    -- if we can't add a watch just add a new timer
    if !added then s.schedule_tty_check s.monitor.threshold.toNat a.timeout_id else s
  else
    -- the time left, as a `guint`
    let remaining := ((threshold - idletime) % 2 ^ 32).toNat
    if 0 < remaining then s.schedule_tty_check remaining a.timeout_id
    else s.schedule_tty_check s.monitor.threshold.toNat a.timeout_id

/-- The source that has called it is removed, since it returns FALSE. -/
def check_tty_idle (a : Answers) : State :=
  let s := { s with monitor := { s.monitor with timeout_id := 0 } }
  if s.monitor.device = none then s
  else
    match a.stat with
    | none => s
    | some st_atime =>
      let last_access := if a.now < st_atime then a.now else st_atime
      s.check_idletime (a.now - last_access) a

def ck_tty_idle_monitor_stop : State :=
  { s.remove_idle_hint_timeout.monitor_remove_watch with started := false }

def ck_tty_idle_monitor_start (timeout_id : Nat) : State :=
  { s.ck_tty_idle_monitor_stop.add_idle_hint_timeout timeout_id with started := true }

/-- This resets timers. -/
def file_access_cb (timeout_id : Nat) : State :=
  (s.tty_idle_monitor_set_idle_hint_internal false).ck_tty_idle_monitor_start timeout_id

/-! ## Section 3: The monitor as a transition system -/

/-- An id that `g_timeout_add_seconds` may return. -/
def Unused (timeout_id : Nat) : Prop := 0 < timeout_id ∧ ∀ t ∈ s.timeouts, t.id ≠ timeout_id

instance (timeout_id : Nat) : Decidable (s.Unused timeout_id) :=
  inferInstanceAs (Decidable (_ ∧ _))

end State

open State

inductive Label where
  | start (timeout_id : Nat)
  | stop
  | set_threshold (threshold : UInt32)
  /-- The timer with the id fires. -/
  | timer (id : Nat) (answers : Answers)
  /-- The notification with the id reports an access. -/
  | access (id : Nat) (timeout_id : Nat)

def idle_monitor_next (s : State) : Label → Option State
  | .start timeout_id =>
      if s.Unused timeout_id then some (s.ck_tty_idle_monitor_start timeout_id) else none
  | .stop => some s.ck_tty_idle_monitor_stop
  | .set_threshold threshold => some (s.ck_tty_idle_monitor_set_threshold threshold)
  | .timer id a =>
      if s.Unused a.timeout_id ∧ id ∈ s.timeouts.map Timeout.id then
        let s := s.check_tty_idle a
        some { s with timeouts := s.timeouts.filter (·.id ≠ id) }
      else none
  | .access id timeout_id =>
      if s.Unused timeout_id ∧ id ∈ s.notifies.map Notify.id then
        some (s.file_access_cb timeout_id)
      else none

/-- `ck_tty_idle_monitor_new` -/
def ck_tty_idle_monitor_new (device : Option CString) : State where
  monitor := ⟨device, 30, 0, false, false, 0⟩
  timeouts := []
  notifies := []
  started := false

def idle_monitor : LTS.System State Label where
  init := fun s => ∃ device, s = ck_tty_idle_monitor_new device
  next := idle_monitor_next

/-! ## Section 4: What is asked of a run -/

/-- The callbacks of the monitor; the other labels are calls of its owner. -/
def Label.IsCallback : Label → Prop
  | .timer .. | .access .. => True
  | _ => False

namespace State

/-- The wake-up sources: the timers, and the notifications on the device. -/
def armed (s : State) : Nat :=
  s.timeouts.length + (s.notifies.filter fun n => some n.path = s.monitor.device).length

def IdleHintCanChange (s : State) : Prop :=
  ∃ ls s', (∀ l ∈ ls, l.IsCallback) ∧ idle_monitor.run s ls = some s' ∧
    s'.monitor.idle_hint ≠ s.monitor.idle_hint

/-- A monitor that has not been stopped has one wake-up source. -/
def Awake (s : State) : Prop :=
  s.started = true → s.armed = 1 ∧ s.IdleHintCanChange

/-- The monitor is started with a device, and its checks can stat that. -/
def Answered (s : State) : Label → Prop
  | .start _ => s.monitor.device ≠ none
  | .timer _ a => a.stat ≠ none
  | _ => True

/-- Where the sources are, and the fields agree with them.  A monitor that
    watches its device has found the terminal idle. -/
inductive Valid : State → Prop where
  | stopped (m : CkTtyIdleMonitor) : m.timeout_id = 0 → Valid ⟨m, [], [], false⟩
  | waiting (m : CkTtyIdleMonitor) (t : Timeout) : m.device ≠ none → 0 < t.id →
      m.timeout_id = t.id → Valid ⟨m, [t], [], true⟩
  | watching (m : CkTtyIdleMonitor) (n : Notify) : m.device = some n.path → 0 < n.id →
      m.file_notify_id = n.id → m.timeout_id = 0 → m.file_monitor = true →
      m.idle_hint = true → Valid ⟨m, [], [n], true⟩

/-! ## Section 5: The step lemma -/

/-- The pending timer is the one that the field names. -/
theorem Valid.remove_idle_hint_timeout {s : State} (h : s.Valid) : s.remove_idle_hint_timeout =
    { s with timeouts := [], monitor := { s.monitor with timeout_id := 0 } } := by
  unfold State.remove_idle_hint_timeout
  cases h with
  | stopped m hzero =>
    rw [if_neg (by rw [hzero]; decide), ← hzero]
  | waiting m t _ hpos hid =>
    rw [if_pos (by rw [hid]; exact hpos)]
    simp [hid]
  | watching m n _ _ _ hzero _ _ =>
    rw [if_neg (by rw [hzero]; decide), ← hzero]

/-- So is the live notification.  In the other cases the id may be one that
    was removed before, and nothing has it. -/
theorem Valid.monitor_remove_watch {s : State} (h : s.Valid) :
    s.remove_idle_hint_timeout.monitor_remove_watch =
      { s with timeouts := [], monitor := { s.monitor with timeout_id := 0 }, notifies := [] } := by
  rw [h.remove_idle_hint_timeout]
  unfold State.monitor_remove_watch
  cases h with
  -- No notification is live, and removing one by its id changes nothing.
  | stopped | waiting => split <;> rfl
  | watching m n _ hpos hid _ hfile _ =>
    rw [if_pos ⟨hfile, by rw [hid]; exact hpos⟩]
    simp [hid]

/-- Nothing is left armed by a stop. -/
theorem Valid.stop {s : State} (h : s.Valid) : s.ck_tty_idle_monitor_stop =
    ⟨{ s.monitor with timeout_id := 0 }, [], [], false⟩ := by
  rw [ck_tty_idle_monitor_stop, h.monitor_remove_watch]

/-- A start leaves one timer. -/
theorem Valid.start {s : State} (h : s.Valid) (timeout_id : Nat) :
    s.ck_tty_idle_monitor_start timeout_id =
      ⟨{ s.monitor with timeout_id := timeout_id }, [⟨timeout_id, s.monitor.threshold.toNat⟩], [],
        true⟩ := by
  rw [ck_tty_idle_monitor_start, h.stop, add_idle_hint_timeout, schedule_tty_check, if_pos rfl]

/-- No function that arms or disarms looks at the hint. -/
theorem start_set_idle_hint (s : State) (idle_hint : Bool) (timeout_id : Nat) :
    (s.tty_idle_monitor_set_idle_hint_internal idle_hint).ck_tty_idle_monitor_start timeout_id =
      (s.ck_tty_idle_monitor_start timeout_id).tty_idle_monitor_set_idle_hint_internal
        idle_hint := by
  unfold ck_tty_idle_monitor_start ck_tty_idle_monitor_stop add_idle_hint_timeout
    schedule_tty_check State.monitor_remove_watch State.remove_idle_hint_timeout
    tty_idle_monitor_set_idle_hint_internal
  dsimp only
  split_ifs <;> rfl

theorem Valid.file_access_cb {s : State} (h : s.Valid) (timeout_id : Nat) :
    s.file_access_cb timeout_id =
      ⟨{ s.monitor with timeout_id := timeout_id, idle_hint := false },
        [⟨timeout_id, s.monitor.threshold.toNat⟩], [], true⟩ := by
  rw [State.file_access_cb, start_set_idle_hint, h.start,
    tty_idle_monitor_set_idle_hint_internal]

/-- A check that can stat the device leaves a new timer beside the one that
    has fired, or a watch. -/
theorem check_tty_idle_outcome {m : CkTtyIdleMonitor} (t : Timeout) (hdevice : m.device ≠ none)
    (a : Answers) (hstat : a.stat ≠ none) :
    (∃ idle_hint file_monitor notify_id seconds,
      (State.mk m [t] [] true).check_tty_idle a =
        ⟨⟨m.device, m.threshold, a.timeout_id, idle_hint, file_monitor, notify_id⟩,
          [⟨a.timeout_id, seconds⟩, t], [], true⟩) ∨
    (∃ path, m.device = some path ∧ 0 < a.notify_id ∧
      (State.mk m [t] [] true).check_tty_idle a =
        ⟨⟨m.device, m.threshold, 0, true, true, a.notify_id⟩, [t], [⟨a.notify_id, path⟩],
          true⟩) := by
  obtain ⟨path, hpath⟩ := Option.ne_none_iff_exists'.mp hdevice
  obtain ⟨st_atime, hst⟩ := Option.ne_none_iff_exists'.mp hstat
  unfold check_tty_idle
  rw [hst]
  dsimp only
  rw [if_neg hdevice]
  -- The time in the future is taken for now; only the difference counts.
  generalize a.now - (if a.now < st_atime then a.now else st_atime) = idletime
  unfold check_idletime
  dsimp only [tty_idle_monitor_set_idle_hint_internal]
  split
  · rename_i hidle
    -- The terminal is idle, and is to be watched. If the watch fails, a timer takes
    -- its place.
    by_cases hadded : 0 < a.notify_id
    · right
      refine ⟨path, hpath, hadded, ?_⟩
      simp [State.monitor_add_watch, hadded, hpath, hidle]
    · left
      refine ⟨true, true, a.notify_id, m.threshold.toNat, ?_⟩
      simp [State.monitor_add_watch, hadded, hidle, schedule_tty_check]
  · left
    split
    · exact ⟨_, _, _, _, rfl⟩
    · exact ⟨_, _, _, _, rfl⟩

/-- **Step lemma**: an answered step arms one source for the one that it
    takes away. -/
theorem Valid.step {s s' : State} (h : s.Valid) {l : Label} (hok : s.Answered l)
    (hn : idle_monitor_next s l = some s') : s'.Valid := by
  cases l with
  | start timeout_id =>
    obtain ⟨hunused, hs'⟩ := Option.ite_none_right_eq_some.mp hn
    rw [← Option.some.inj hs', h.start]
    exact .waiting _ _ hok hunused.1 rfl
  | stop =>
    rw [← Option.some.inj hn, h.stop]
    exact .stopped _ rfl
  | set_threshold threshold =>
    rw [← Option.some.inj hn]
    cases h with
    | stopped m hzero => exact .stopped _ hzero
    | waiting m t hdevice hpos hid => exact .waiting _ t hdevice hpos hid
    | watching m n hdevice hpos hid hzero hfile hhint =>
      exact .watching _ n hdevice hpos hid hzero hfile hhint
  | timer id a =>
    obtain ⟨⟨hunused, hid⟩, hs'⟩ := Option.ite_none_right_eq_some.mp hn
    rw [← Option.some.inj hs']
    cases h with
    | stopped | watching => cases hid
    | waiting m t hdevice hpos _ =>
      obtain rfl := List.mem_singleton.mp hid
      -- The new timer is told from the one that has fired by its id, and outlives
      -- it.
      have hnew : t.id ≠ a.timeout_id := hunused.2 t (List.mem_singleton.mpr rfl)
      rcases check_tty_idle_outcome t hdevice a hok with
        ⟨idle_hint, file_monitor, notify_id, seconds, hcheck⟩ | ⟨path, hpath, hadded, hcheck⟩
      · rw [hcheck]
        simp only [ne_eq, decide_not, List.filter_cons, hnew.symm, decide_false, Bool.not_false,
          if_true, decide_true, Bool.not_true, Bool.false_eq_true, if_false, List.filter_nil]
        exact .waiting _ _ hdevice hunused.1 rfl
      · rw [hcheck]
        simp only [ne_eq, decide_not, List.filter_cons, decide_true, Bool.not_true,
          Bool.false_eq_true, if_false, List.filter_nil]
        exact .watching _ ⟨a.notify_id, path⟩ hpath hadded rfl rfl rfl rfl
  | access id timeout_id =>
    obtain ⟨⟨hunused, hid⟩, hs'⟩ := Option.ite_none_right_eq_some.mp hn
    rw [← Option.some.inj hs', h.file_access_cb]
    cases h with
    -- There is no notification that could call back.
    | stopped | waiting => cases hid
    | watching m n hdevice _ _ _ _ _ =>
      exact .waiting _ _ (by rw [hdevice]; exact Option.some_ne_none _) hunused.1 rfl

/-! ## Section 6: The idle hint -/

/-- The terminal was accessed so long ago that it is idle, and the watch is
    added. -/
def idle_answers (m : CkTtyIdleMonitor) (t : Timeout) : Answers :=
  ⟨some 0, m.threshold.toNat, 1, t.id + 1⟩

theorem idle_check {m : CkTtyIdleMonitor} {path : CString} (hpath : m.device = some path)
    (t : Timeout) : idle_monitor_next ⟨m, [t], [], true⟩ (.timer t.id (idle_answers m t)) =
      some ⟨⟨m.device, m.threshold, 0, true, true, 1⟩, [], [⟨1, path⟩], true⟩ := by
  have hunused : (State.mk m [t] [] true).Unused (idle_answers m t).timeout_id := by
    refine ⟨Nat.succ_pos _, fun t' ht' => ?_⟩
    rw [List.mem_singleton.mp ht']
    exact (Nat.succ_ne_self _).symm
  -- The access was at the time 0, which is not in the future.
  have hpast : ¬ (m.threshold.toNat : Int) < 0 := by omega
  rw [idle_monitor_next, if_pos ⟨hunused, List.mem_singleton.mpr rfl⟩]
  simp [check_tty_idle, check_idletime, idle_answers, tty_idle_monitor_set_idle_hint_internal,
    State.monitor_add_watch, hpath, hpast]

theorem watched_access {m : CkTtyIdleMonitor} {n : Notify}
    (h : (State.mk m [] [n] true).Valid) :
    idle_monitor_next ⟨m, [], [n], true⟩ (.access n.id 1) =
      some ⟨{ m with timeout_id := 1, idle_hint := false }, [⟨1, m.threshold.toNat⟩], [],
        true⟩ := by
  have hunused : (State.mk m [] [n] true).Unused 1 := ⟨Nat.one_pos, nofun⟩
  rw [idle_monitor_next, if_pos ⟨hunused, List.mem_singleton.mpr rfl⟩, h.file_access_cb]

theorem can_change_now {s s' : State} {l : Label} (hl : l.IsCallback)
    (hn : idle_monitor_next s l = some s')
    (hhint : s'.monitor.idle_hint ≠ s.monitor.idle_hint) : s.IdleHintCanChange := by
  refine ⟨[l], s', fun l' hl' => ?_, ?_, hhint⟩
  · rw [List.mem_singleton.mp hl']
    exact hl
  · rw [LTS.System.run_cons]
    exact congrArg (Option.bind · _) hn

theorem can_change_later {s s' : State} {l : Label} (hl : l.IsCallback)
    (hn : idle_monitor_next s l = some s')
    (hhint : s'.monitor.idle_hint = s.monitor.idle_hint) (h : s'.IdleHintCanChange) :
    s.IdleHintCanChange := by
  obtain ⟨ls, t, hls, hrun, hchange⟩ := h
  refine ⟨l :: ls, t, List.forall_mem_cons.mpr ⟨hl, hls⟩, ?_, hhint ▸ hchange⟩
  rw [LTS.System.run_cons]
  exact (congrArg (Option.bind · _) hn).trans hrun

/-- A watched terminal is idle, and the access ends that. -/
theorem Valid.watching_can_change {m : CkTtyIdleMonitor} {n : Notify}
    (h : (State.mk m [] [n] true).Valid) : (State.mk m [] [n] true).IdleHintCanChange := by
  have hhint : m.idle_hint = true := by cases h with | watching _ _ _ _ _ _ _ hhint => exact hhint
  refine can_change_now (l := .access n.id 1) trivial (watched_access h) ?_
  simp [hhint]

/-- A timer may find the terminal idle.  If the hint says so already, the
    watch is there for the other change. -/
theorem waiting_can_change {m : CkTtyIdleMonitor} (t : Timeout) (hdevice : m.device ≠ none) :
    (State.mk m [t] [] true).IdleHintCanChange := by
  obtain ⟨path, hpath⟩ := Option.ne_none_iff_exists'.mp hdevice
  have hidle := idle_check hpath t
  cases hhint : m.idle_hint with
  -- The first timer may be enough. Otherwise it adds the watch, and the access
  -- clears the hint.
  | false => exact can_change_now (l := .timer t.id _) trivial hidle (by simp [hhint])
  | true =>
    refine can_change_later (l := .timer t.id _) trivial hidle hhint.symm ?_
    exact Valid.watching_can_change (.watching _ ⟨1, path⟩ hpath Nat.one_pos rfl rfl rfl rfl)

theorem Valid.awake {s : State} (h : s.Valid) : s.Awake := by
  intro hstarted
  cases h with
  | stopped => cases hstarted
  | waiting m t hdevice _ _ => exact ⟨rfl, waiting_can_change t hdevice⟩
  | watching m n hdevice hpos hid hzero hfile hhint =>
    refine ⟨by simp [armed, hdevice], Valid.watching_can_change ?_⟩
    exact .watching m n hdevice hpos hid hzero hfile hhint

/-- Without a device no callback changes the hint. -/
theorem not_can_change {s : State} (hdevice : s.monitor.device = none) (hnone : s.notifies = []) :
    ¬ s.IdleHintCanChange := by
  rintro ⟨ls, s', hls, hrun, hchange⟩
  -- Neither the device nor the notifications change along the run.
  refine hchange ?_
  clear hchange
  induction ls generalizing s with
  | nil =>
    cases hrun
    rfl
  | cons l ls ih =>
    obtain ⟨u, hn, hrun⟩ := Option.bind_eq_some_iff.mp hrun
    rw [List.forall_mem_cons] at hls
    cases l with
    | start | stop | set_threshold => cases hls.1
    | access id timeout_id =>
      obtain ⟨⟨_, hid⟩, _⟩ := Option.ite_none_right_eq_some.mp hn
      rw [hnone] at hid
      cases hid
    | timer id a =>
      obtain ⟨_, hu⟩ := Option.ite_none_right_eq_some.mp hn
      -- A check without a device only forgets the timer.
      have hcheck : s.check_tty_idle a = { s with monitor := { s.monitor with timeout_id := 0 } } :=
        if_pos hdevice
      rw [hcheck] at hu
      obtain rfl := Option.some.inj hu
      exact @ih { s with
        monitor := { s.monitor with timeout_id := 0 }
        timeouts := s.timeouts.filter (·.id ≠ id) } hdevice hnone hls.2 hrun

/-- A step that is not answered leaves the monitor deaf. -/
theorem Valid.deaf {s s' : State} (h : s.Valid) {l : Label} (hbad : ¬ s.Answered l)
    (hn : idle_monitor_next s l = some s') : ¬ s'.Awake := by
  cases l with
  | stop | set_threshold | access => exact absurd trivial hbad
  | start timeout_id =>
    obtain ⟨_, hs'⟩ := Option.ite_none_right_eq_some.mp hn
    rw [← Option.some.inj hs', h.start]
    intro hawake
    refine not_can_change ?_ rfl (hawake rfl).2
    exact not_not.mp hbad
  | timer id a =>
    obtain ⟨⟨_, hid⟩, hs'⟩ := Option.ite_none_right_eq_some.mp hn
    rw [← Option.some.inj hs']
    cases h with
    | stopped | watching => cases hid
    | waiting m t hdevice _ _ =>
      obtain rfl := List.mem_singleton.mp hid
      have hcheck : (State.mk m [t] [] true).check_tty_idle a =
          ⟨{ m with timeout_id := 0 }, [t], [], true⟩ := by
        unfold check_tty_idle
        rw [not_not.mp hbad]
        exact if_neg hdevice
      -- The timer is gone, and nothing has taken its place.
      rw [hcheck]
      intro hawake
      have harmed := (hawake rfl).1
      simp [armed] at harmed

/-! ## Section 7: The runs that stay awake -/

theorem valid_new (device : Option CString) : (ck_tty_idle_monitor_new device).Valid :=
  .stopped _ rfl

theorem Valid.awake_iff_answered {s s' : State} (h : s.Valid) {l : Label}
    (hn : idle_monitor_next s l = some s') : s'.Awake ↔ s.Answered l :=
  ⟨fun hawake => by_contra fun hbad => h.deaf hbad hn hawake, fun hok => (h.step hok hn).awake⟩

end State

/-- The monitor is awake after every step of a run if and only if it is
    started with a device only, and every check can stat that. -/
theorem awake_iff (device : Option CString) (ls : List Label) :
    idle_monitor.Along (fun _ _ s' => s'.Awake) (ck_tty_idle_monitor_new device) ls ↔
      idle_monitor.Along (fun s l _ => s.Answered l) (ck_tty_idle_monitor_new device) ls :=
  LTS.System.along_congr (fun _ _ _ h hn => h.awake_iff_answered hn)
    (fun _ _ _ h hn hawake => h.step ((h.awake_iff_answered hn).mp hawake) hn) (valid_new device) ls

/-- The check of a monitor that has just been started cannot stat the device. -/
theorem deaf_after_failed_stat :
    ¬ idle_monitor.Along (fun _ _ s' => s'.Awake)
      (ck_tty_idle_monitor_new (some (cstr "/dev/tty1")))
      [.start 1, .timer 1 ⟨none, 30, 0, 2⟩] := by
  intro h
  have hawake := ((h _ rfl).2 _ rfl).1
  exact absurd (hawake rfl).1 (by decide)

end TtyIdle
