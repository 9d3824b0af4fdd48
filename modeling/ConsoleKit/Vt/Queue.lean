import ConsoleKit.Vt.Monitor

/-! # The event queue

    No event is lost between the watchers and the main loop, and no change
    of the active VT is announced twice or without one: `QueueOk` describes
    the queue, the scheduled flag and the drain in progress in every
    reachable state.  The flag is cleared while the queue is still locked
    and empty, which is why no wake-up falls between the two.
-/

namespace Vt

/-! ## Section 1: The events of a drain -/

/-- A watcher is between its push and the scheduling of a drain. -/
def CkVtMonitor.Pushing (s : CkVtMonitor) : Prop :=
  ∃ t num, s.thread t = some ⟨num, .pushed⟩

/-- A drain that found events leaves the VT of the latest of them active,
    and it has emitted `active-changed` if and only if that is a change. -/
structure Drain.Settled (d : Drain) : Prop where
  latest : ∀ e ∈ d.popped, (∀ e' ∈ d.popped, e'.serial ≤ e.serial) → d.after = e.num
  idle : d.popped = [] → d.after = d.before
  emitted : d.emitted = if d.after = d.before then [] else [d.after]

/-- The drain in progress. -/
def Main.drain : Main → Option Drain
  | .starting _ | .running => none
  | .popping _ d | .changing d | .adding _ d | .emitting d | .clearing d | .unlocking d => some d

/-- The events that the drain in progress has popped. -/
def Main.popped (m : Main) : List EventData :=
  match m.drain with
  | none => []
  | some d => d.popped

/-- What the drain in progress has emitted. -/
def Main.emitted (m : Main) : List Nat :=
  match m.drain with
  | none => []
  | some d => d.emitted

/-- A drain runs that has not yet cleared the scheduled flag. -/
def Main.draining : Main → Bool
  | .starting _ | .running | .unlocking _ => false
  | _ => true

/-- What a drain has done so far to `active_num`, and left of the queue. -/
def DrainOk (m : Main) (event_queue : List EventData) (active_num : Nat) : Prop :=
  match m with
  | .starting _ | .running => True
  | .popping n d => n = event_queue.length ∧ d.emitted = [] ∧ active_num = d.before
  | .changing d => event_queue = [] ∧ d.emitted = [] ∧ active_num = d.before
  | .adding _ d | .emitting d =>
    event_queue = [] ∧ d.emitted = [] ∧ active_num ≠ d.before ∧
      ∃ e, d.data = some e ∧ active_num = e.num
  | .clearing d | .unlocking d => event_queue = [] ∧ { d with after := active_num }.Settled

theorem drainOk_of_none {m : Main} (h : m.drain = none) (event_queue : List EventData)
    (active_num : Nat) : DrainOk m event_queue active_num := by
  cases m with
  | starting _ | running => trivial
  | _ => cases h

structure CkVtMonitor.QueueOk (s : CkVtMonitor) : Prop where
  scheduled : s.event_queue ≠ [] → s.process_queue_id ≠ 0 ∨ s.Pushing
  pending : s.process_queue_id ≠ 0 ↔ s.sources ≠ [] ∨ s.main.draining = true
  single : s.sources.length ≤ if s.main.draining then 0 else 1
  fresh : 0 < s.next_source
  unborn : ∀ t, s.next_thread ≤ t → s.thread t = none
  order : (s.main.popped ++ s.event_queue).Pairwise (·.serial < ·.serial)
  pushed : ∀ e ∈ s.main.popped ++ s.event_queue, e.serial < s.pushes
  data : ∀ d, s.main.drain = some d → d.data = d.popped.getLast?
  drain : DrainOk s.main s.event_queue s.active_num
  settled : ∀ d ∈ s.drains, d.Settled
  emissions : s.emitted = (s.drains.flatMap fun d => d.emitted) ++ s.main.emitted

namespace CkVtMonitor

variable {s s' : CkVtMonitor} {t : ThreadRef} {max_consoles : Nat} {created : Bool}

/-! ## Section 2: Watchers -/

theorem QueueOk.init (active : Nat) : (ck_vt_monitor_init active).QueueOk where
  scheduled h := absurd rfl h
  pending := by
    show (0 : Nat) ≠ 0 ↔ ([] : List Nat) ≠ [] ∨ false = true
    simp
  single := Nat.zero_le _
  fresh := Nat.one_pos
  unborn _ _ := rfl
  order := List.Pairwise.nil
  pushed _ h := nomatch h
  data _ h := nomatch h
  drain := trivial
  settled _ h := nomatch h
  emissions := rfl

/-- A thread that is there is not a new one. -/
theorem QueueOk.ne_new (h : s.QueueOk) {th : ThreadData} (hth : s.thread t = some th) :
    t ≠ s.next_thread := by
  intro heq
  have hnone := h.unborn t (Nat.le_of_eq heq.symm)
  rw [hth] at hnone
  cases hnone

/-- The step of a thread that has not pushed keeps the others pushing. -/
theorem Pushing.setPc (h : s.Pushing) {num : Nat} {pc pc' : Pc}
    (hth : s.thread t = some ⟨num, pc⟩) (hpc : pc ≠ .pushed) :
    (s.setPc t ⟨num, pc⟩ pc').Pushing := by
  obtain ⟨u, n, hu⟩ := h
  have hne : u ≠ t := by
    intro heq
    subst heq
    rw [hth] at hu
    cases hu
    exact hpc rfl
  refine ⟨u, n, ?_⟩
  show Function.update s.thread t _ u = _
  rw [Function.update_of_ne hne]
  exact hu

theorem unborn_setPc (h : s.QueueOk) {th : ThreadData} {pc : Pc} (hth : s.thread t = some th) :
    ∀ u, s.next_thread ≤ u → (s.setPc t th pc).thread u = none := by
  intro u hu
  have hne : u ≠ t := by
    intro heq
    have hnone := h.unborn u hu
    rw [heq, hth] at hnone
    cases hnone
  show Function.update s.thread t _ u = none
  rw [Function.update_of_ne hne]
  exact h.unborn u hu

theorem QueueOk.wake (h : s.QueueOk) {res : Bool} (hs : s.wake t res = some s') :
    s'.QueueOk := by
  obtain ⟨num, hth, rfl⟩ := wake_cases hs
  exact { h with
    scheduled := fun hq => (h.scheduled hq).imp_right fun hp => hp.setPc hth (by simp)
    unborn := unborn_setPc h hth }

/-- The queue is not locked only between two drains. -/
theorem drain_of_unlocked (h : s.queueUnlocked = true) : s.main.drain = none := by
  unfold queueUnlocked at h
  cases hm : s.main <;> rw [hm] at h <;> first | rfl | cases h

/-- The thread that pushes an event is the one that answers for it. -/
theorem QueueOk.push (h : s.QueueOk) (hs : s.push t = some s') : s'.QueueOk := by
  obtain ⟨num, hth, hlock, rfl⟩ := push_cases hs
  have hnone := drain_of_unlocked hlock
  have hpopped : s.main.popped = [] := by
    unfold Main.popped
    rw [hnone]
  have horder := h.order
  have hpushed := h.pushed
  rw [hpopped, List.nil_append] at horder hpushed
  exact { h with
    scheduled := fun _ => .inr ⟨t, num, Function.update_self ..⟩
    unborn := unborn_setPc h hth
    order := by
      show List.Pairwise (fun e e' : EventData => e.serial < e'.serial)
        (s.main.popped ++ (s.event_queue ++ [⟨num, s.pushes⟩]))
      rw [hpopped, List.nil_append, List.pairwise_append]
      refine ⟨horder, List.pairwise_singleton _ _, ?_⟩
      intro e he e' he'
      obtain rfl := List.mem_singleton.mp he'
      exact hpushed e he
    pushed := by
      intro e he
      replace he : e ∈ s.main.popped ++ (s.event_queue ++ [⟨num, s.pushes⟩]) := he
      rw [hpopped, List.nil_append, List.mem_append, List.mem_singleton] at he
      show e.serial < s.pushes + 1
      rcases he with he | rfl
      · have := hpushed e he
        omega
      · exact Nat.lt_succ_self _
    drain := drainOk_of_none hnone _ _ }

theorem schedule_process_queue_id (h : s.QueueOk) :
    s.schedule_process_queue.process_queue_id ≠ 0 := by
  have hfresh := h.fresh
  unfold schedule_process_queue
  split
  · show s.next_source ≠ 0
    omega
  · assumption

/-- A drain is scheduled, whichever watcher asked for it first. -/
theorem QueueOk.schedule (h : s.QueueOk) (hs : s.schedule t = some s') : s'.QueueOk := by
  obtain ⟨num, hth, rfl⟩ := schedule_cases hs
  have hunborn : ∀ u, s.next_thread ≤ u → (s.setPc t ⟨num, .pushed⟩ .leaving).thread u = none :=
    unborn_setPc h hth
  have hid : s.next_source ≠ 0 := Nat.pos_iff_ne_zero.mp h.fresh
  unfold schedule_process_queue
  split
  · rename_i hzero
    -- The flag is clear, so no source is pending and no drain runs.
    replace hzero : s.process_queue_id = 0 := hzero
    have hnot : ¬ (s.sources ≠ [] ∨ s.main.draining = true) := by
      intro hpending
      exact h.pending.mpr hpending hzero
    have hnil : s.sources = [] := not_not.mp fun hne => hnot (.inl hne)
    have hdraining : s.main.draining = false := Bool.eq_false_iff.mpr fun ht => hnot (.inr ht)
    exact { h with
      scheduled := fun _ => .inl hid
      pending := by
        show s.next_source ≠ 0 ↔ s.sources ++ [s.next_source] ≠ [] ∨ _
        simp [hid]
      single := by
        show (s.sources ++ [s.next_source]).length ≤ if s.main.draining then 0 else 1
        rw [hnil, hdraining]
        exact Nat.le_refl _
      fresh := Nat.succ_pos _
      unborn := hunborn }
  · rename_i hid
    exact { h with
      scheduled := fun _ => .inl hid
      unborn := hunborn }

theorem QueueOk.leave (h : s.QueueOk) (hs : s.leave t = some s') : s'.QueueOk := by
  obtain ⟨num, hth, -, rfl⟩ := leave_cases hs
  exact { h with
    scheduled := fun hq => (h.scheduled hq).imp_right fun hp => hp.setPc hth (by simp)
    unborn := unborn_setPc h hth }

/-! ## Section 3: The drain -/

/-- Adding a watch starts a thread that was not there. -/
theorem QueueOk.vt_add_watch (h : s.QueueOk) (i : Nat) (created : Bool) :
    (s.vt_add_watch i created).QueueOk := by
  rcases vt_add_watch_cases s i created with ⟨heq, -⟩ | ⟨-, -, -, heq⟩
  · rw [heq]
    exact h
  · rw [heq]
    refine { h with scheduled := ?_, unborn := ?_ }
    · intro hq
      refine (h.scheduled hq).imp_right ?_
      rintro ⟨t, num, ht⟩
      refine ⟨t, num, ?_⟩
      show Function.update s.thread s.next_thread _ t = _
      rw [Function.update_of_ne (h.ne_new ht)]
      exact ht
    · intro t ht
      replace ht : s.next_thread + 1 ≤ t := ht
      show Function.update s.thread s.next_thread _ t = none
      rw [Function.update_of_ne (Nat.ne_of_gt ht)]
      exact h.unborn t (Nat.le_of_succ_le ht)

/-- Adding a watch leaves the queue and the drain as they are. -/
theorem QueueOk.watch (h : s.QueueOk) (i : Nat) :
    { s with
      thread := (s.vt_add_watch i created).thread
      next_thread := (s.vt_add_watch i created).next_thread
      vt_thread_hash := (s.vt_add_watch i created).vt_thread_hash }.QueueOk := by
  have hwatch := h.vt_add_watch i created
  rw [vt_add_watch_frame] at hwatch
  exact hwatch

/-- The main thread moves on without touching the queue. -/
theorem QueueOk.goto (h : s.QueueOk) {m : Main} {active_num : Nat}
    (hdraining : s.main.draining = m.draining) (hd : s.main.drain = m.drain)
    (hok : DrainOk m s.event_queue active_num) :
    { s with active_num, main := m }.QueueOk := by
  have hpopped : m.popped = s.main.popped := by
    unfold Main.popped
    rw [hd]
  have hemitted : m.emitted = s.main.emitted := by
    unfold Main.emitted
    rw [hd]
  exact { h with
    pending := by rw [← hdraining]; exact h.pending
    single := by rw [← hdraining]; exact h.single
    order := by rw [hpopped]; exact h.order
    pushed := by rw [hpopped]; exact h.pushed
    data := by rw [← hd]; exact h.data
    drain := hok
    emissions := by rw [hemitted]; exact h.emissions }

/-- `process_queue` begins with what the queue holds. -/
theorem QueueOk.lock (h : s.QueueOk) (hm : s.main = .running) {source : Nat}
    {sources : List Nat} (hsources : s.sources = source :: sources) :
    { s with sources, main := s.process_queue }.QueueOk := by
  have hpending := h.pending
  have hsingle := h.single
  rw [hsources] at hpending hsingle
  rw [hm] at hsingle
  have hpopped : s.main.popped = [] := by rw [hm]; rfl
  have hemitted : s.main.emitted = [] := by rw [hm]; rfl
  exact { h with
    pending := ⟨fun _ => .inr rfl, fun _ => hpending.mpr (.inl (by simp))⟩
    single := Nat.le_of_succ_le_succ hsingle
    order := by
      have := h.order
      rw [hpopped] at this
      exact this
    pushed := by
      have := h.pushed
      rw [hpopped] at this
      exact this
    data := by
      intro d hd
      cases hd
      rfl
    drain := ⟨rfl, rfl, rfl⟩
    emissions := by
      have := h.emissions
      rw [hemitted] at this
      exact this }

/-- A round of the loop keeps the events in the order of their pushes, and
    `data` is the last of them. -/
theorem QueueOk.pop (h : s.QueueOk) {n : Nat} {d : Drain} {e : EventData}
    {event_queue : List EventData} (hm : s.main = .popping (n + 1) d)
    (hq : s.event_queue = e :: event_queue) :
    { s with
      event_queue
      main := .popping n { d with data := e, popped := d.popped ++ [e] } }.QueueOk := by
  have hevents : (d.popped ++ [e]) ++ event_queue = s.main.popped ++ s.event_queue := by
    rw [hm, hq]
    show (d.popped ++ [e]) ++ event_queue = d.popped ++ e :: event_queue
    simp
  have hdrain := h.drain
  rw [hm, hq] at hdrain
  obtain ⟨hn, hemitted, hactive⟩ := hdrain
  have hpending := h.pending
  have hsingle := h.single
  rw [hm] at hpending hsingle
  exact { h with
    scheduled := by
      intro _
      exact h.scheduled (by rw [hq]; simp)
    pending := hpending
    single := hsingle
    order := by
      show List.Pairwise _ ((d.popped ++ [e]) ++ event_queue)
      rw [hevents]
      exact h.order
    pushed := by
      show ∀ e' ∈ (d.popped ++ [e]) ++ event_queue, _
      rw [hevents]
      exact h.pushed
    data := by
      intro d' hd'
      cases hd'
      exact List.getLast?_concat.symm
    drain := ⟨Nat.succ.inj hn, hemitted, hactive⟩
    emissions := by
      have := h.emissions
      rw [hm] at this
      exact this }

/-- The last event that was popped is the one pushed last. -/
theorem latest_eq {popped : List EventData} {e e' : EventData}
    (horder : popped.Pairwise (·.serial < ·.serial)) (hlast : popped.getLast? = some e)
    (hmem : e' ∈ popped) (hmax : ∀ e'' ∈ popped, e''.serial ≤ e'.serial) : e' = e := by
  obtain ⟨ys, rfl⟩ := List.getLast?_eq_some_iff.mp hlast
  have hlt := (List.pairwise_append.mp horder).2.2
  rcases List.mem_append.mp hmem with hys | he
  · have h1 : e'.serial < e.serial := hlt e' hys e (List.mem_singleton_self e)
    have h2 : e.serial ≤ e'.serial := hmax e (by simp)
    omega
  · exact List.mem_singleton.mp he

/-- What `data` is says what the drain has to do with `active_num`. -/
theorem QueueOk.settles (h : s.QueueOk) {d : Drain} {e : EventData}
    (hd : s.main.drain = some d) (hdata : d.data = some e) {after : Nat} {emitted : List Nat}
    (hafter : after = e.num) (hemitted : emitted = if after = d.before then [] else [after]) :
    { d with after, emitted }.Settled := by
  have hlast := h.data d hd
  rw [hdata] at hlast
  have horder := h.order
  unfold Main.popped at horder
  rw [hd] at horder
  have hpopped := (List.pairwise_append.mp horder).1
  refine ⟨?_, ?_, hemitted⟩
  · intro e' hmem hmax
    rw [latest_eq hpopped hlast.symm hmem hmax]
    exact hafter
  · intro hnil
    replace hnil : d.popped = [] := hnil
    rw [hnil] at hlast
    cases hlast

/-- A drain without data has popped no event. -/
theorem QueueOk.popped_eq_nil (h : s.QueueOk) {d : Drain} (hd : s.main.drain = some d)
    (hdata : d.data = none) : d.popped = [] := by
  have hlast := h.data d hd
  rw [hdata] at hlast
  exact List.getLast?_eq_none_iff.mp hlast.symm

/-- The change that is announced is the one that the drain has made. -/
theorem QueueOk.emit (h : s.QueueOk) {d : Drain} {e : EventData} (hm : s.main = .emitting d)
    (hdata : d.data = some e) :
    { s with
      emitted := s.emitted ++ [e.num]
      main := .clearing { d with emitted := d.emitted ++ [e.num] } }.QueueOk := by
  have hdrain := h.drain
  have horder := h.order
  have hpushed := h.pushed
  have hemissions := h.emissions
  have hlast := h.data d (by rw [hm]; rfl)
  have hpending := h.pending
  have hsingle := h.single
  rw [hm] at hdrain horder hpushed hemissions hpending hsingle
  obtain ⟨hnil, hemitted, hne, e', hdata', hnum⟩ := hdrain
  obtain rfl : e = e' := Option.some.inj (hdata.symm.trans hdata')
  have hsettled :
      { d with after := s.active_num, emitted := d.emitted ++ [e.num] }.Settled :=
    h.settles (by rw [hm]; rfl) hdata hnum (by rw [if_neg hne, hemitted, hnum]; rfl)
  exact { h with
    pending := hpending
    single := hsingle
    order := horder
    pushed := hpushed
    data := by
      intro d' hd'
      cases hd'
      exact hlast
    drain := ⟨hnil, hsettled⟩
    emissions := by
      show s.emitted ++ [e.num] = _ ++ (d.emitted ++ [e.num])
      rw [hemissions, List.append_assoc]
      rfl }

/-- The flag is cleared while the queue is locked and empty. -/
theorem QueueOk.clear (h : s.QueueOk) {d : Drain} (hm : s.main = .clearing d) :
    { s with process_queue_id := 0, main := .unlocking d }.QueueOk := by
  have hdrain := h.drain
  have horder := h.order
  have hpushed := h.pushed
  have hemissions := h.emissions
  have hlast := h.data d (by rw [hm]; rfl)
  have hsingle := h.single
  rw [hm] at hdrain horder hpushed hemissions hsingle
  -- A drain that is scheduled has taken its source away.
  have hnil : s.sources = [] := List.length_eq_zero_iff.mp (Nat.le_zero.mp hsingle)
  exact { h with
    scheduled := fun hq => absurd hdrain.1 hq
    pending := by
      show (0 : Nat) ≠ 0 ↔ s.sources ≠ [] ∨ false = true
      rw [hnil]
      simp
    single := Nat.le_succ_of_le hsingle
    order := horder
    pushed := hpushed
    data := by
      intro d' hd'
      cases hd'
      exact hlast
    drain := hdrain
    emissions := hemissions }

/-- The drain is over, and the queue is still empty. -/
theorem QueueOk.unlock (h : s.QueueOk) {d : Drain} (hm : s.main = .unlocking d) :
    { s with
      drains := s.drains ++ [{ d with after := s.active_num }]
      main := .running }.QueueOk := by
  have hdrain := h.drain
  have hpending := h.pending
  have hsingle := h.single
  have hemissions := h.emissions
  rw [hm] at hdrain hpending hsingle hemissions
  obtain ⟨hnil, hsettled⟩ := hdrain
  exact { h with
    pending := hpending
    single := hsingle
    order := by
      show List.Pairwise _ ([] ++ s.event_queue)
      rw [hnil]
      exact List.Pairwise.nil
    pushed := by
      intro e he
      replace he : e ∈ [] ++ s.event_queue := he
      rw [hnil] at he
      cases he
    data := fun _ hd => nomatch hd
    drain := trivial
    settled := by
      intro d' hd'
      rcases List.mem_append.mp hd' with hold | hnew
      · exact h.settled d' hold
      · obtain rfl := List.mem_singleton.mp hnew
        exact hsettled
    emissions := by
      show s.emitted =
        (s.drains ++ [{ d with after := s.active_num }]).flatMap
          (fun d : Drain => d.emitted) ++ []
      rw [hemissions, List.flatMap_append, List.append_nil]
      simp [Main.emitted, Main.drain] }

/-- Every step of the main thread keeps the invariant. -/
theorem QueueOk.main_step (h : s.QueueOk) (hs : s.main_step max_consoles created = some s') :
    s'.QueueOk := by
  have hdrain := h.drain
  cases main_step_cases hs with
  | start i hm hi =>
    rw [vt_add_watch_frame]
    exact (h.watch i).goto (by show s.main.draining = _; rw [hm]; rfl)
      (by show s.main.drain = _; rw [hm]; rfl) trivial
  | started i hm hi => exact h.goto (by rw [hm]; rfl) (by rw [hm]; rfl) trivial
  | lock source sources hm hsources => exact h.lock hm hsources
  | popped d hm =>
    rw [hm] at hdrain
    obtain ⟨hlen, hrest⟩ := hdrain
    -- All events that were counted have been popped.
    have hnil : s.event_queue = [] := List.length_eq_zero_iff.mp hlen.symm
    exact h.goto (by rw [hm]; rfl) (by rw [hm]; rfl) ⟨hnil, hrest⟩
  | missing n d hm hq =>
    -- The queue was locked when its length was read.
    rw [hm, hq] at hdrain
    cases hdrain.1
  | pop n d e event_queue hm hq => exact h.pop hm hq
  | nothing d hm hdata =>
    have hpopped := h.popped_eq_nil (by rw [hm]; rfl) hdata
    rw [hm] at hdrain
    obtain ⟨hnil, hemitted, hactive⟩ := hdrain
    -- No event has been popped, so the active VT is what it was.
    refine h.goto (by rw [hm]; rfl) (by rw [hm]; rfl) ⟨hnil, ?_, fun _ => hactive, ?_⟩
    · intro e he
      replace he : e ∈ d.popped := he
      rw [hpopped] at he
      cases he
    · show d.emitted = if s.active_num = d.before then [] else _
      rw [if_pos hactive, hemitted]
  | unchanged d e hm hdata hnum =>
    rw [hm] at hdrain
    obtain ⟨hnil, hemitted, hactive⟩ := hdrain
    refine h.goto (by rw [hm]; rfl) (by rw [hm]; rfl) ⟨hnil, ?_⟩
    refine h.settles (by rw [hm]; rfl) hdata hnum ?_
    rw [if_pos hactive, hemitted]
  | change d e hm hdata hne =>
    rw [hm] at hdrain
    obtain ⟨hnil, hemitted, hactive⟩ := hdrain
    -- The active VT changes only here, and to another one.
    have hnew : e.num ≠ d.before := by
      rw [← hactive]
      exact fun heq => hne heq.symm
    exact h.goto (by rw [hm]; rfl) (by rw [hm]; rfl) ⟨hnil, hemitted, hnew, e, hdata, rfl⟩
  | add i d hm hi =>
    rw [vt_add_watch_frame]
    rw [hm] at hdrain
    exact (h.watch i).goto (by show s.main.draining = _; rw [hm]; rfl)
      (by show s.main.drain = _; rw [hm]; rfl) hdrain
  | added i d hm hi =>
    rw [hm] at hdrain
    exact h.goto (by rw [hm]; rfl) (by rw [hm]; rfl) hdrain
  | emit d e hm hdata => exact h.emit hm hdata
  | clear d hm => exact h.clear hm
  | unlock d hm => exact h.unlock hm

/-! ## Section 4: Every reachable state -/

theorem QueueOk.dispatch (h : s.QueueOk) {e : Event}
    (hs : Vt.dispatch max_consoles s e = some s') : s'.QueueOk := by
  cases e with
  | wake t res => exact h.wake hs
  | push t => exact h.push hs
  | schedule t => exact h.schedule hs
  | leave t => exact h.leave hs
  | main created => exact h.main_step hs

theorem queueOk_of_reachable (h : (vt_monitor max_consoles).Reachable s) : s.QueueOk := by
  apply h.invariant
  · intro s hinit
    obtain ⟨active, rfl⟩ := hinit
    exact QueueOk.init active
  · intro s e s' hok hs
    exact hok.dispatch hs

/-- No event waits in the queue without a drain or a watcher that is about
    to schedule one, every drain has done what it should, and
    `active-changed` is emitted by drains only. -/
structure NoLostChange (s : CkVtMonitor) : Prop where
  scheduled : s.event_queue ≠ [] → s.process_queue_id ≠ 0 ∨ s.Pushing
  pending : s.process_queue_id ≠ 0 ↔ s.sources ≠ [] ∨ s.main.draining = true
  settled : ∀ d ∈ s.drains, d.Settled
  emissions : s.emitted = (s.drains.flatMap fun d => d.emitted) ++ s.main.emitted

theorem no_lost_change (h : (vt_monitor max_consoles).Reachable s) : s.NoLostChange :=
  have hok := queueOk_of_reachable h
  ⟨hok.scheduled, hok.pending, hok.settled, hok.emissions⟩

/-- VTs 2 and 3 become active one after the other, and one drain takes both
    events; the watcher of VT 3 has yet to schedule its own. -/
def switch_twice : List Event :=
  [.main true, .main true, .main true, .main true, .wake 0 true, .push 0, .schedule 0,
    .wake 1 true, .push 1, .main true, .main true, .main true, .main true, .main true,
    .main true, .main true, .main true, .main true, .main true, .main true, .main true]

theorem no_lost_change_switch_twice :
    ∃ s, (vt_monitor 4).run (ck_vt_monitor_init 1) switch_twice = some s ∧
      (s.drains.map fun d => (d.before, d.after, d.emitted)) = [(1, 3, [3])] ∧ s.NoLostChange := by
  have hinit : (vt_monitor 4).Reachable (ck_vt_monitor_init 1) := .init ⟨1, rfl⟩
  have hrun : ∃ s, (vt_monitor 4).run (ck_vt_monitor_init 1) switch_twice = some s ∧
      (s.drains.map fun d => (d.before, d.after, d.emitted)) = [(1, 3, [3])] := ⟨_, rfl, rfl⟩
  obtain ⟨s, hs, hdrains⟩ := hrun
  exact ⟨s, hs, hdrains, no_lost_change (hinit.run hs)⟩

end CkVtMonitor

end Vt
