import ConsoleKit.Vt.Queue

/-! # The watches

    Which VTs have a watcher.  `TableOk` ties the table to the threads in
    every reachable state: a watcher is in the table under its own number
    from its start until it leaves, and none waits for the active VT.
    `Covered` says that a VT is watched or its event is on its way; it is
    kept as long as every wait succeeds, a thread can always be started, and
    no watcher that has pushed its event is taken for a watch.
-/

namespace Vt

/-! ## Section 1: Watchers and their table -/

/-- A watcher that will still push an event. -/
def Pc.watching : Pc → Bool
  | .waiting | .woken => true
  | .pushed | .leaving | .exited => false

/-- The events that the drain in progress has popped and not yet acted on. -/
def Main.unsettled : Main → List EventData
  | .popping _ d | .changing d => d.popped
  | _ => []

/-- The bound of the VTs that `vt_add_watches` has looked at. -/
def Main.added (max_consoles : Nat) : Main → Nat
  | .starting i | .adding i _ => min i max_consoles
  | _ => max_consoles

namespace CkVtMonitor

/-- An event of VT `n` is in the queue, or has been popped. -/
def Queued (s : CkVtMonitor) (n : Nat) : Prop :=
  ∃ e ∈ s.main.unsettled ++ s.event_queue, e.num = n

/-- A watcher of VT `n` will push its event. -/
def Watching (s : CkVtMonitor) (n : Nat) : Prop :=
  ∃ t pc, s.thread t = some ⟨n, pc⟩ ∧ pc.watching = true

/-- VT `n` has a live watcher in the table under its own number. -/
def Watched (s : CkVtMonitor) (n : Nat) : Prop :=
  ∃ t pc, s.vt_thread_hash.lookup n = some t ∧ s.thread t = some ⟨n, pc⟩ ∧ pc ≠ .exited

/-- The monitor is set up and has nothing left to do: the queue is empty,
    no drain is scheduled, and no watcher is between waking and leaving. -/
structure Quiescent (s : CkVtMonitor) : Prop where
  ready : ∀ i, s.main ≠ .starting i
  empty : s.event_queue = []
  idle : s.process_queue_id = 0
  settled : ∀ t th, s.thread t = some th → th.pc = .waiting ∨ th.pc = .exited

/-- Whenever the monitor is quiescent, every VT up to the highest one that
    is not active has a live watcher. -/
def NoLostWatch (max_consoles : Nat) (s : CkVtMonitor) : Prop :=
  s.Quiescent → ∀ n, 1 ≤ n → n ≤ max_consoles → n ≠ s.active_num → s.Watched n

/-- The table and the threads, in a monitor of `max_consoles` consoles. -/
structure TableOk (max_consoles : Nat) (s : CkVtMonitor) : Prop where
  entry : ∀ n t, s.vt_thread_hash.lookup n = some t →
    ∃ pc, s.thread t = some ⟨n, pc⟩ ∧ pc ≠ .exited
  live : ∀ t n pc, s.thread t = some ⟨n, pc⟩ → pc ≠ .exited → s.vt_thread_hash.lookup n = some t
  range : ∀ n t, s.vt_thread_hash.lookup n = some t → n < max_consoles
  inactive : ∀ n, s.Watching n → n ≠ s.active_num
  queued : ∀ n, s.Queued n → n ≠ s.active_num ∧ ¬ s.Watching n
  starting : ∀ i, s.main = .starting i → ∀ n, s.Queued n → s.vt_thread_hash.lookup n ≠ none
  adding : ∀ i d, s.main = .adding i d → s.event_queue = []

variable {s s' : CkVtMonitor} {t : ThreadRef} {max_consoles n : Nat} {created : Bool}

theorem TableOk.init (active : Nat) : (ck_vt_monitor_init active).TableOk max_consoles where
  entry _ _ h := nomatch h
  live _ _ _ h := nomatch h
  range _ _ h := nomatch h
  inactive n h := by
    obtain ⟨t, pc, h, -⟩ := h
    cases h
  queued n h := by
    obtain ⟨e, he, -⟩ := h
    cases he
  starting i _ n h := by
    obtain ⟨e, he, -⟩ := h
    cases he
  adding _ _ h := nomatch h

/-- Two watchers of one VT that have not left are one watcher. -/
theorem TableOk.unique (h : s.TableOk max_consoles) {u : ThreadRef} {pc pc' : Pc}
    (ht : s.thread t = some ⟨n, pc⟩) (hpc : pc ≠ .exited) (hu : s.thread u = some ⟨n, pc'⟩)
    (hpc' : pc' ≠ .exited) : u = t := by
  have h1 := h.live t n pc ht hpc
  have h2 := h.live u n pc' hu hpc'
  rw [h1] at h2
  exact (Option.some.inj h2).symm

theorem watching_ne_exited {pc : Pc} (h : pc.watching = true) : pc ≠ .exited := by
  intro heq
  rw [heq] at h
  cases h

/-! ## Section 2: A watcher moves on -/

theorem setPc_thread {num : Nat} {pc pc' : Pc} {u : ThreadRef} {th : ThreadData} :
    (s.setPc t ⟨num, pc⟩ pc').thread u = some th ↔
      (u = t ∧ th = ⟨num, pc'⟩) ∨ (u ≠ t ∧ s.thread u = some th) := by
  show Function.update s.thread t _ u = _ ↔ _
  by_cases hu : u = t
  · subst hu
    rw [Function.update_self]
    simp [eq_comm]
  · rw [Function.update_of_ne hu]
    simp [hu]

/-- The watches after a step of one watcher of VT `num`. -/
theorem watching_setPc {num : Nat} {pc pc' : Pc} (h : (s.setPc t ⟨num, pc⟩ pc').Watching n) :
    (n = num ∧ pc'.watching = true) ∨ s.Watching n := by
  obtain ⟨u, pcu, hu, hw⟩ := h
  rcases setPc_thread.mp hu with ⟨-, heq⟩ | ⟨-, hu⟩
  · cases heq
    exact .inl ⟨rfl, hw⟩
  · exact .inr ⟨u, pcu, hu, hw⟩

/-- The table stays right while a watcher moves on inside the table and
    does not become a watch. -/
theorem TableOk.setPc (h : s.TableOk max_consoles) {num : Nat} {pc pc' : Pc}
    (hth : s.thread t = some ⟨num, pc⟩) (hpc : pc ≠ .exited) (hpc' : pc' ≠ .exited)
    (hwatch : pc'.watching = true → pc.watching = true) :
    (s.setPc t ⟨num, pc⟩ pc').TableOk max_consoles := by
  have hmono : ∀ n, (s.setPc t ⟨num, pc⟩ pc').Watching n → s.Watching n := by
    intro n hn
    rcases watching_setPc hn with ⟨rfl, hw⟩ | hn
    · exact ⟨t, pc, hth, hwatch hw⟩
    · exact hn
  exact { h with
    entry := by
      intro n u hu
      obtain ⟨pcu, hthu, hne⟩ := h.entry n u hu
      by_cases heq : u = t
      · subst heq
        rw [hth] at hthu
        cases hthu
        exact ⟨pc', setPc_thread.mpr (.inl ⟨rfl, rfl⟩), hpc'⟩
      · exact ⟨pcu, setPc_thread.mpr (.inr ⟨heq, hthu⟩), hne⟩
    live := by
      intro u n pcu hu hne
      rcases setPc_thread.mp hu with ⟨rfl, heq⟩ | ⟨-, hu⟩
      · cases heq
        exact h.live u num pc hth hpc
      · exact h.live u n pcu hu hne
    inactive := fun n hn => h.inactive n (hmono n hn)
    queued := fun n hn => ⟨(h.queued n hn).1, fun hw => (h.queued n hn).2 (hmono n hw)⟩ }

theorem TableOk.wake (h : s.TableOk max_consoles) {res : Bool} (hs : s.wake t res = some s') :
    s'.TableOk max_consoles := by
  obtain ⟨num, hth, rfl⟩ := wake_cases hs
  cases res with
  | true => exact h.setPc hth (by simp) (by simp) (fun _ => rfl)
  | false => exact h.setPc hth (by simp) (by simp) (fun hw => nomatch hw)

theorem TableOk.schedule (h : s.TableOk max_consoles) (hs : s.schedule t = some s') :
    s'.TableOk max_consoles := by
  obtain ⟨num, hth, rfl⟩ := schedule_cases hs
  have hset : (s.setPc t ⟨num, .pushed⟩ .leaving).TableOk max_consoles :=
    h.setPc hth (by simp) (by simp) (fun hw => nomatch hw)
  unfold schedule_process_queue
  split
  · exact { hset with }
  · exact hset

/-- The event of a watcher replaces its watch. -/
theorem TableOk.push (h : s.TableOk max_consoles) (hs : s.push t = some s') :
    s'.TableOk max_consoles := by
  obtain ⟨num, hth, hlock, rfl⟩ := push_cases hs
  have hset : (s.setPc t ⟨num, .woken⟩ .pushed).TableOk max_consoles :=
    h.setPc hth (by simp) (by simp) (fun hw => nomatch hw)
  have hwatching : s.Watching num := ⟨t, .woken, hth, rfl⟩
  have hnone : ¬ (s.setPc t ⟨num, .woken⟩ .pushed).Watching num := by
    rintro ⟨u, pcu, hu, hw⟩
    rcases setPc_thread.mp hu with ⟨-, heq⟩ | ⟨hne, hu⟩
    · cases heq
      cases hw
    · exact hne (h.unique hth (by simp) hu (watching_ne_exited hw))
  have hqueued : ∀ n, (∃ e ∈ s.main.unsettled ++ (s.event_queue ++ [⟨num, s.pushes⟩]),
      EventData.num e = n) → s.Queued n ∨ n = num := by
    rintro n ⟨e, he, rfl⟩
    rw [← List.append_assoc, List.mem_append, List.mem_singleton] at he
    rcases he with he | rfl
    · exact .inl ⟨e, he, rfl⟩
    · exact .inr rfl
  exact { hset with
    queued := by
      intro n hn
      rcases hqueued n hn with hn | rfl
      · exact hset.queued n hn
      · exact ⟨h.inactive n hwatching, hnone⟩
    starting := by
      intro i hi n hn
      rcases hqueued n hn with hn | rfl
      · exact h.starting i hi n hn
      · show s.vt_thread_hash.lookup n ≠ none
        rw [h.live t n .woken hth (by simp)]
        simp
    adding := by
      intro i d hm
      replace hm : s.main = .adding i d := hm
      unfold queueUnlocked at hlock
      rw [hm] at hlock
      cases hlock }

/-- A watcher takes out its own entry. -/
theorem TableOk.leave (h : s.TableOk max_consoles) (hs : s.leave t = some s') :
    s'.TableOk max_consoles := by
  obtain ⟨num, hth, hlock, rfl⟩ := leave_cases hs
  have hentry := h.live t num .leaving hth (by simp)
  have hmono : ∀ n, (s.setPc t ⟨num, .leaving⟩ .exited).Watching n → s.Watching n := by
    intro n hn
    rcases watching_setPc hn with ⟨-, hw⟩ | hn
    · cases hw
    · exact hn
  exact { h with
    entry := by
      intro n u hu
      obtain ⟨hne, hu⟩ := HashTable.lookup_erase_iff.mp hu
      obtain ⟨pcu, hthu, hpc⟩ := h.entry n u hu
      refine ⟨pcu, setPc_thread.mpr (.inr ⟨?_, hthu⟩), hpc⟩
      intro heq
      rw [heq, hth] at hthu
      cases hthu
      exact hne rfl
    live := by
      intro u n pcu hu hne
      rcases setPc_thread.mp hu with ⟨-, heq⟩ | ⟨hut, hu⟩
      · cases heq
        exact absurd rfl hne
      · have hlookup := h.live u n pcu hu hne
        refine HashTable.lookup_erase_iff.mpr ⟨?_, hlookup⟩
        intro heq
        rw [heq, hentry] at hlookup
        exact hut (Option.some.inj hlookup).symm
    range := fun n u hu => h.range n u (HashTable.lookup_erase_iff.mp hu).2
    inactive := fun n hn => h.inactive n (hmono n hn)
    queued := fun n hn => ⟨(h.queued n hn).1, fun hw => (h.queued n hn).2 (hmono n hw)⟩
    starting := by
      intro i hm
      replace hm : s.main = .starting i := hm
      unfold hashUnlocked at hlock
      rw [hm] at hlock
      cases hlock }

/-! ## Section 3: The main thread -/

/-- The watches after `vt_add_watch` are those before it, and the new one. -/
theorem watching_vt_add_watch {i : Nat} (h : (s.vt_add_watch i created).Watching n) :
    s.Watching n ∨ (n = i ∧ i ≠ s.active_num ∧ s.vt_thread_hash.lookup i = none) := by
  rcases vt_add_watch_cases s i created with ⟨heq, -⟩ | ⟨hactive, hnone, -, heq⟩
  · rw [heq] at h
    exact .inl h
  · rw [heq] at h
    obtain ⟨u, pcu, hu, hw⟩ := h
    replace hu : Function.update s.thread s.next_thread (some ⟨i, .waiting⟩) u = _ := hu
    by_cases hnew : u = s.next_thread
    · subst hnew
      rw [Function.update_self] at hu
      cases hu
      exact .inr ⟨rfl, hactive, hnone⟩
    · rw [Function.update_of_ne hnew] at hu
      exact .inl ⟨u, pcu, hu, hw⟩

/-- A watch is added for a VT whose event is not on its way. -/
theorem TableOk.vt_add_watch (h : s.TableOk max_consoles) (hq : s.QueueOk) {i : Nat}
    (hi : i < max_consoles) (hqueued : s.vt_thread_hash.lookup i = none → ¬ s.Queued i)
    (created : Bool) : (s.vt_add_watch i created).TableOk max_consoles := by
  have hinactive : ∀ n, (s.vt_add_watch i created).Watching n → n ≠ s.active_num := by
    intro n hn
    rcases watching_vt_add_watch hn with hn | ⟨rfl, hactive, -⟩
    · exact h.inactive n hn
    · exact hactive
  have hnot : ∀ n, s.Queued n → ¬ (s.vt_add_watch i created).Watching n := by
    intro n hn hw
    rcases watching_vt_add_watch hw with hw | ⟨rfl, -, hnone⟩
    · exact (h.queued n hn).2 hw
    · exact hqueued hnone hn
  -- Either nothing is added, or a new thread is, for a VT without an entry.
  rcases vt_add_watch_cases s i created with ⟨heq, -⟩ | ⟨-, hnone, -, heq⟩
  · rw [heq]
    exact h
  · rw [heq] at hinactive hnot ⊢
    exact { h with
      entry := by
        intro n u hu
        rcases HashTable.lookup_insert_iff.mp hu with ⟨rfl, rfl⟩ | ⟨-, hu⟩
        · exact ⟨.waiting, Function.update_self .., by simp⟩
        · obtain ⟨pcu, hthu, hne⟩ := h.entry n u hu
          refine ⟨pcu, ?_, hne⟩
          show Function.update s.thread s.next_thread _ u = _
          rw [Function.update_of_ne (hq.ne_new hthu)]
          exact hthu
      live := by
        intro u n pcu hu hne
        replace hu : Function.update s.thread s.next_thread (some ⟨i, .waiting⟩) u = _ := hu
        apply HashTable.lookup_insert_iff.mpr
        by_cases hnew : u = s.next_thread
        · subst hnew
          rw [Function.update_self] at hu
          cases hu
          exact .inl ⟨rfl, rfl⟩
        · rw [Function.update_of_ne hnew] at hu
          have hlookup := h.live u n pcu hu hne
          refine .inr ⟨?_, hlookup⟩
          intro heq
          rw [heq, hnone] at hlookup
          cases hlookup
      range := by
        intro n u hu
        rcases HashTable.lookup_insert_iff.mp hu with ⟨rfl, -⟩ | ⟨-, hu⟩
        · exact hi
        · exact h.range n u hu
      inactive := hinactive
      queued := fun n hn => ⟨(h.queued n hn).1, hnot n hn⟩
      starting := by
        intro j hj n hn
        have hsome := h.starting j hj n hn
        show (s.vt_thread_hash.insert i s.next_thread).lookup n ≠ none
        by_cases hni : n = i
        · rw [hni, AList.lookup_insert]
          simp
        · rw [AList.lookup_insert_ne hni]
          exact hsome }

/-- The main thread moves on without popping an event. -/
theorem TableOk.goto (h : s.TableOk max_consoles) {m : Main}
    (hsub : m.unsettled ⊆ s.main.unsettled)
    (hstart : ∀ i, m = .starting i → ∃ j, s.main = .starting j)
    (hadd : ∀ i d, m = .adding i d → s.event_queue = []) :
    { s with main := m }.TableOk max_consoles := by
  have hmono : ∀ n, { s with main := m }.Queued n → s.Queued n := by
    intro n hn
    obtain ⟨e, he, hnum⟩ := hn
    exact ⟨e, List.mem_append.mpr ((List.mem_append.mp he).imp_left fun he => hsub he), hnum⟩
  exact { h with
    queued := fun n hn => h.queued n (hmono n hn)
    starting := by
      intro i hi n hn
      obtain ⟨j, hj⟩ := hstart i hi
      exact h.starting j hj n (hmono n hn)
    adding := hadd }

/-- The main thread moves on, to where it adds no watch. -/
theorem TableOk.pass (h : s.TableOk max_consoles) {m : Main}
    (hsub : m.unsettled ⊆ s.main.unsettled) (hstart : ∀ i, m ≠ .starting i)
    (hadd : ∀ i d, m ≠ .adding i d) : { s with main := m }.TableOk max_consoles := by
  apply h.goto hsub
  · exact fun i hm => absurd hm (hstart i)
  · exact fun i d hm => absurd hm (hadd i d)

/-- The event that `change_active_num` acts on has been popped. -/
theorem QueueOk.queued_data (hq : s.QueueOk) {d : Drain} {e : EventData}
    (hm : s.main = .changing d) (hdata : d.data = some e) : s.Queued e.num := by
  have hlast := hq.data d (by rw [hm]; rfl)
  rw [hdata] at hlast
  refine ⟨e, List.mem_append_left _ ?_, rfl⟩
  rw [hm]
  exact List.mem_of_getLast? hlast.symm

/-- The VT that becomes active has no watcher: its watcher has pushed the
    event that says so. -/
theorem TableOk.change (h : s.TableOk max_consoles) (hq : s.QueueOk) {d : Drain} {e : EventData}
    (hm : s.main = .changing d) (hdata : d.data = some e) :
    { s with active_num := e.num, main := .adding 1 d }.TableOk max_consoles := by
  have hnil : s.event_queue = [] := by
    have hdrain := hq.drain
    rw [hm] at hdrain
    exact hdrain.1
  have hqueued := hq.queued_data hm hdata
  have hempty : ∀ n, ¬ { s with active_num := e.num, main := .adding 1 d }.Queued n := by
    intro n hn
    obtain ⟨e', he', -⟩ := hn
    replace he' : e' ∈ [] ++ s.event_queue := he'
    rw [hnil] at he'
    cases he'
  exact { h with
    inactive := by
      intro n hn heq
      replace heq : n = e.num := heq
      rw [heq] at hn
      exact (h.queued e.num hqueued).2 hn
    queued := fun n hn => absurd hn (hempty n)
    starting := fun _ _ n hn => absurd hn (hempty n)
    adding := fun _ _ _ => hnil }

theorem TableOk.main_step (h : s.TableOk max_consoles) (hq : s.QueueOk)
    (hs : s.main_step max_consoles created = some s') : s'.TableOk max_consoles := by
  cases main_step_cases hs with
  | start i hm hi =>
    have hadd := h.vt_add_watch hq hi
      (fun hnone hqueued => h.starting i hm i hqueued hnone) created
    have hmain : (s.vt_add_watch i created).main = s.main := by rw [vt_add_watch_frame]
    apply hadd.goto
    · exact List.nil_subset _
    · intro _ _
      exact ⟨i, by rw [hmain, hm]⟩
    · exact fun _ _ hm' => nomatch hm'
  | started i hm hi =>
    exact h.pass (List.nil_subset _) nofun nofun
  | lock source sources hm hsources =>
    have hgoto : { s with main := s.process_queue }.TableOk max_consoles :=
      h.pass (List.nil_subset _) nofun nofun
    exact { hgoto with }
  | popped d hm =>
    exact h.pass (by rw [hm]; exact fun _ he => he) nofun nofun
  | missing n d hm hqueue =>
    exact h.pass (by rw [hm]; exact fun _ he => he) nofun nofun
  | pop n d e event_queue hm hqueue =>
    -- The event moves from the queue to those that have been popped.
    have hmono : ∀ k, Queued { s with
        event_queue
        main := .popping n { d with data := e, popped := d.popped ++ [e] } } k → s.Queued k := by
      intro k hk
      obtain ⟨e', he', hnum⟩ := hk
      replace he' : e' ∈ (d.popped ++ [e]) ++ event_queue := he'
      refine ⟨e', ?_, hnum⟩
      rw [hm, hqueue]
      show e' ∈ d.popped ++ e :: event_queue
      rw [List.append_assoc] at he'
      exact he'
    exact { h with
      queued := fun k hk => h.queued k (hmono k hk)
      starting := fun _ hm' => nomatch hm'
      adding := fun _ _ hm' => nomatch hm' }
  | nothing d hm hdata =>
    exact h.pass (List.nil_subset _) nofun nofun
  | unchanged d e hm hdata hnum =>
    exact h.pass (List.nil_subset _) nofun nofun
  | change d e hm hdata hne => exact h.change hq hm hdata
  | add i d hm hi =>
    have hnil := h.adding i d hm
    -- While watches are added again nothing is queued.
    have hempty : ¬ s.Queued i := by
      intro hn
      obtain ⟨e, he, -⟩ := hn
      rw [hm, hnil] at he
      cases he
    have hadd := h.vt_add_watch hq hi (fun _ => hempty) created
    apply hadd.goto
    · exact List.nil_subset _
    · exact fun _ hm' => nomatch hm'
    · intro _ _ _
      rw [vt_add_watch_frame]
      exact hnil
  | added i d hm hi =>
    exact h.pass (List.nil_subset _) nofun nofun
  | emit d e hm hdata =>
    have hgoto : { s with main := .clearing { d with emitted := d.emitted ++ [e.num] } }.TableOk
        max_consoles :=
      h.pass (List.nil_subset _) nofun nofun
    exact { hgoto with }
  | clear d hm =>
    have hgoto : { s with main := .unlocking d }.TableOk max_consoles :=
      h.pass (List.nil_subset _) nofun nofun
    exact { hgoto with }
  | unlock d hm =>
    have hgoto : { s with main := .running }.TableOk max_consoles :=
      h.pass (List.nil_subset _) nofun nofun
    exact { hgoto with }

theorem TableOk.dispatch (h : s.TableOk max_consoles) (hq : s.QueueOk) {e : Event}
    (hs : Vt.dispatch max_consoles s e = some s') : s'.TableOk max_consoles := by
  cases e with
  | wake t res => exact h.wake hs
  | push t => exact h.push hs
  | schedule t => exact h.schedule hs
  | leave t => exact h.leave hs
  | main created => exact h.main_step hq hs

theorem tableOk_of_reachable (h : (vt_monitor max_consoles).Reachable s) :
    s.TableOk max_consoles := by
  induction h with
  | init hinit =>
    obtain ⟨active, rfl⟩ := hinit
    exact TableOk.init active
  | step hprev _ hs ih => exact ih.dispatch (queueOk_of_reachable hprev) hs

/-! ## Section 4: Covered VTs -/

/-- VT `n` is watched, or its event is on its way. -/
def Covered (s : CkVtMonitor) (n : Nat) : Prop :=
  s.Watching n ∨ s.Queued n

/-- Every VT that was looked at and is not active is covered. -/
def CoverOk (max_consoles : Nat) (s : CkVtMonitor) : Prop :=
  ∀ n, 1 ≤ n → n < s.main.added max_consoles → n ≠ s.active_num → s.Covered n

/-- `vt_add_watches` finds a watcher of VT `i` that is still to push its
    event, or starts one. -/
def WatchAdded (s : CkVtMonitor) (i : Nat) (created : Bool) : Prop :=
  i ≠ s.active_num → s.Watching i ∨ s.vt_thread_hash.lookup i = none ∧ created = true

/-- The steps that keep the watches: every wait succeeds, a thread can
    always be started, and no watcher that is about to leave is found in the
    table where a watch is to be added. -/
def WatchesKept (max_consoles : Nat) (s : CkVtMonitor) : Event → Prop
  | .wake _ res => res = true
  | .main created =>
    match s.main with
    | .starting i | .adding i _ => i < max_consoles → s.WatchAdded i created
    | _ => True
  | .push _ | .schedule _ | .leave _ => True

theorem CoverOk.init (active : Nat) : (ck_vt_monitor_init active).CoverOk max_consoles := by
  intro n h1 hn
  replace hn : n < min 1 max_consoles := hn
  omega

/-- A watcher that has pushed its event is no watch any more. -/
theorem watching_of_setPc {num : Nat} {pc pc' : Pc} (hth : s.thread t = some ⟨num, pc⟩)
    (hkeep : pc.watching = true → pc'.watching = true) (h : s.Watching n) :
    (s.setPc t ⟨num, pc⟩ pc').Watching n := by
  obtain ⟨u, pcu, hu, hw⟩ := h
  by_cases heq : u = t
  · subst heq
    rw [hth] at hu
    cases hu
    exact ⟨u, pc', setPc_thread.mpr (.inl ⟨rfl, rfl⟩), hkeep hw⟩
  · exact ⟨u, pcu, setPc_thread.mpr (.inr ⟨heq, hu⟩), hw⟩

theorem CoverOk.wake (h : s.CoverOk max_consoles) (hs : s.wake t true = some s') :
    s'.CoverOk max_consoles := by
  obtain ⟨num, hth, rfl⟩ := wake_cases hs
  intro n h1 hn hne
  rcases h n h1 hn hne with hw | hq
  · exact .inl (watching_of_setPc hth (fun _ => rfl) hw)
  · exact .inr hq

/-- The event stands in for the watch. -/
theorem CoverOk.push (h : s.CoverOk max_consoles) (hs : s.push t = some s') :
    s'.CoverOk max_consoles := by
  obtain ⟨num, hth, hlock, rfl⟩ := push_cases hs
  intro n h1 hn hne
  have hevents : ∀ e, e ∈ s.main.unsettled ++ s.event_queue ∨ e = ⟨num, s.pushes⟩ →
      e ∈ s.main.unsettled ++ (s.event_queue ++ [⟨num, s.pushes⟩]) := by
    intro e he
    rw [← List.append_assoc, List.mem_append, List.mem_singleton]
    exact he
  rcases h n h1 hn hne with ⟨u, pcu, hu, hw⟩ | ⟨e, he, hnum⟩
  · by_cases heq : u = t
    · subst heq
      rw [hth] at hu
      cases hu
      exact .inr ⟨⟨num, s.pushes⟩, hevents _ (.inr rfl), rfl⟩
    · exact .inl ⟨u, pcu, setPc_thread.mpr (.inr ⟨heq, hu⟩), hw⟩
  · exact .inr ⟨e, hevents e (.inl he), hnum⟩

theorem CoverOk.schedule (h : s.CoverOk max_consoles) (hs : s.schedule t = some s') :
    s'.CoverOk max_consoles := by
  obtain ⟨num, hth, rfl⟩ := schedule_cases hs
  have hset : (s.setPc t ⟨num, .pushed⟩ .leaving).CoverOk max_consoles := by
    intro n h1 hn hne
    exact (h n h1 hn hne).imp_left (watching_of_setPc hth fun hw => nomatch hw)
  unfold schedule_process_queue
  split
  · exact hset
  · exact hset

theorem CoverOk.leave (h : s.CoverOk max_consoles) (hs : s.leave t = some s') :
    s'.CoverOk max_consoles := by
  obtain ⟨num, hth, -, rfl⟩ := leave_cases hs
  intro n h1 hn hne
  exact (h n h1 hn hne).imp_left (watching_of_setPc hth fun hw => nomatch hw)

theorem watching_of_vt_add_watch (h : s.Watching n) (hq : s.QueueOk) (i : Nat) (created : Bool) :
    (s.vt_add_watch i created).Watching n := by
  rcases vt_add_watch_cases s i created with ⟨heq, -⟩ | ⟨-, -, -, heq⟩
  · rw [heq]
    exact h
  · rw [heq]
    obtain ⟨u, pcu, hu, hw⟩ := h
    refine ⟨u, pcu, ?_, hw⟩
    show Function.update s.thread s.next_thread _ u = _
    rw [Function.update_of_ne (hq.ne_new hu)]
    exact hu

/-- After `vt_add_watches` has looked at VT `i` it is watched. -/
theorem watching_added {i : Nat} (h : s.WatchAdded i created) (hq : s.QueueOk)
    (hne : i ≠ s.active_num) :
    (s.vt_add_watch i created).Watching i := by
  rcases h hne with hw | ⟨hnone, hcreated⟩
  · exact watching_of_vt_add_watch hw hq i created
  · rcases vt_add_watch_cases s i created with ⟨-, heq | ⟨t, hsome⟩ | hfalse⟩ | ⟨-, -, -, heq⟩
    · exact absurd heq hne
    · rw [hnone] at hsome
      cases hsome
    · rw [hcreated] at hfalse
      cases hfalse
    · rw [heq]
      exact ⟨s.next_thread, .waiting, Function.update_self .., rfl⟩

/-- The VTs up to `i` are covered after the body of the loop for `i`. -/
theorem CoverOk.watch (h : s.CoverOk max_consoles) (hq : s.QueueOk) {i : Nat}
    (hi : s.main.added max_consoles = min i max_consoles) (hlt : i < max_consoles)
    (hadded : s.WatchAdded i created) :
    ∀ n, 1 ≤ n → n < min (i + 1) max_consoles → n ≠ s.active_num →
      (s.vt_add_watch i created).Watching n ∨ s.Queued n := by
  intro n h1 hn hne
  by_cases hni : n = i
  · subst hni
    exact .inl (watching_added hadded hq hne)
  · have hlow : n < s.main.added max_consoles := by
      rw [hi]
      omega
    exact (h n h1 hlow hne).imp_left fun hw => watching_of_vt_add_watch hw hq i created

/-- The main thread moves on with the events that it has popped. -/
theorem CoverOk.goto (h : s.CoverOk max_consoles) {m : Main}
    (hsub : s.main.unsettled ⊆ m.unsettled)
    (hadded : m.added max_consoles ≤ s.main.added max_consoles) :
    { s with main := m }.CoverOk max_consoles := by
  intro n h1 hn hne
  rcases h n h1 (Nat.lt_of_lt_of_le hn hadded) hne with hw | ⟨e, he, hnum⟩
  · exact .inl hw
  · refine .inr ⟨e, ?_, hnum⟩
    exact List.mem_append.mpr ((List.mem_append.mp he).imp_left fun he => hsub he)

/-- It moves on with nothing popped and no watch added, from where it is. -/
theorem CoverOk.pass (h : s.CoverOk max_consoles) {main m : Main} (hm : s.main = main)
    (hunsettled : m.unsettled = main.unsettled)
    (hadded : m.added max_consoles = main.added max_consoles) :
    { s with main := m }.CoverOk max_consoles := by
  subst hm
  apply h.goto
  · rw [hunsettled]
    exact List.Subset.refl _
  · exact Nat.le_of_eq hadded

/-- The loop over the VTs goes on to the next one. -/
theorem CoverOk.watched (h : s.CoverOk max_consoles) (hq : s.QueueOk) {main m : Main}
    (hm : s.main = main) {i : Nat} (hi : main.added max_consoles = min i max_consoles)
    (hlt : i < max_consoles) (hadded : s.WatchAdded i created)
    (hunsettled : m.unsettled = main.unsettled)
    (hnext : m.added max_consoles = min (i + 1) max_consoles) :
    { s.vt_add_watch i created with main := m }.CoverOk max_consoles := by
  subst hm
  have hwatch := h.watch hq hi hlt hadded
  rw [vt_add_watch_frame] at hwatch ⊢
  intro n h1 hn hne
  replace hn : n < m.added max_consoles := hn
  rw [hnext] at hn
  refine (hwatch n h1 hn hne).imp_right ?_
  rintro ⟨e, he, hnum⟩
  rw [← hunsettled] at he
  exact ⟨e, he, hnum⟩

theorem CoverOk.main_step (h : s.CoverOk max_consoles) (hq : s.QueueOk)
    (ht : s.TableOk max_consoles) (hok : s.WatchesKept max_consoles (.main created))
    (hs : s.main_step max_consoles created = some s') : s'.CoverOk max_consoles := by
  cases main_step_cases hs with
  | start i hm hi =>
    unfold WatchesKept at hok
    rw [hm] at hok
    exact h.watched hq hm rfl hi (hok hi) rfl rfl
  | started i hm hi =>
    -- The loop has come to its end, and all VTs have been looked at.
    exact h.pass hm rfl (Nat.min_eq_right hi).symm
  | lock source sources hm hsources =>
    have hgoto : { s with main := s.process_queue }.CoverOk max_consoles := h.pass hm rfl rfl
    exact hgoto
  | popped d hm =>
    exact h.pass hm rfl rfl
  | missing n d hm hqueue =>
    exact h.pass hm rfl rfl
  | pop n d e event_queue hm hqueue =>
    intro k h1 hk hne
    have hlow : k < s.main.added max_consoles := by
      rw [hm]
      exact hk
    refine (h k h1 hlow hne).imp_right ?_
    rintro ⟨e', he', hnum⟩
    refine ⟨e', ?_, hnum⟩
    show e' ∈ (d.popped ++ [e]) ++ event_queue
    rw [hm, hqueue] at he'
    rw [List.append_assoc]
    exact he'
  | nothing d hm hdata =>
    have hpopped := hq.popped_eq_nil (by rw [hm]; rfl) hdata
    apply h.goto
    · rw [hm]
      show d.popped ⊆ []
      rw [hpopped]
      exact List.Subset.refl _
    · rw [hm]
      exact Nat.le_refl _
  | unchanged d e hm hdata hnum =>
    -- The event of a VT is never pushed while that VT is active.
    exact absurd hnum.symm (ht.queued e.num (hq.queued_data hm hdata)).1
  | change d e hm hdata hne =>
    intro n h1 hn _
    replace hn : n < min 1 max_consoles := hn
    omega
  | add i d hm hi =>
    unfold WatchesKept at hok
    rw [hm] at hok
    exact h.watched hq hm rfl hi (hok hi) rfl rfl
  | added i d hm hi =>
    -- The loop has come to its end, and all VTs have been looked at.
    exact h.pass hm rfl (Nat.min_eq_right hi).symm
  | emit d e hm hdata =>
    have hgoto : { s with main := .clearing { d with emitted := d.emitted ++ [e.num] } }.CoverOk
        max_consoles := h.pass hm rfl rfl
    exact hgoto
  | clear d hm =>
    have hgoto : { s with main := .unlocking d }.CoverOk max_consoles := h.pass hm rfl rfl
    exact hgoto
  | unlock d hm =>
    have hgoto : { s with main := .running }.CoverOk max_consoles := h.pass hm rfl rfl
    exact hgoto

theorem coverOk_of_reachable
    (h : (vt_monitor max_consoles).ReachableBy (WatchesKept max_consoles) s) :
    s.CoverOk max_consoles := by
  induction h with
  | init hinit =>
    obtain ⟨active, rfl⟩ := hinit
    exact CoverOk.init active
  | @step s e s' hprev hok hs ih =>
    have hq := queueOk_of_reachable hprev.reachable
    have ht := tableOk_of_reachable hprev.reachable
    cases e with
    | wake t res =>
      obtain rfl : res = true := hok
      exact ih.wake hs
    | push t => exact ih.push hs
    | schedule t => exact ih.schedule hs
    | leave t => exact ih.leave hs
    | main created => exact ih.main_step hq ht hok hs

/-! ## Section 5: No lost watch -/

/-- Without a scheduled drain the main thread is outside `process_queue`,
    or about to leave it. -/
theorem Quiescent.not_draining (hquiet : s.Quiescent) (hq : s.QueueOk) :
    s.main.draining = false := by
  apply Bool.eq_false_iff.mpr
  intro hdraining
  exact hq.pending.mpr (.inr hdraining) hquiet.idle

theorem Quiescent.added (hquiet : s.Quiescent) (hq : s.QueueOk) :
    s.main.added max_consoles = max_consoles := by
  have hdraining := hquiet.not_draining hq
  cases hm : s.main with
  | starting i => exact absurd hm (hquiet.ready i)
  | adding i d =>
    rw [hm] at hdraining
    cases hdraining
  | _ => rfl

/-- A VT that is covered when the monitor is quiescent is watched. -/
theorem Quiescent.watched (hquiet : s.Quiescent) (hq : s.QueueOk) (ht : s.TableOk max_consoles)
    (h : s.Covered n) : s.Watched n := by
  rcases h with ⟨t, pc, hth, hw⟩ | ⟨e, he, -⟩
  · have hlive := watching_ne_exited hw
    exact ⟨t, pc, ht.live t n pc hth hlive, hth, hlive⟩
  · have hdraining := hquiet.not_draining hq
    have hnil : s.main.unsettled = [] := by
      cases hm : s.main with
      | popping n d | changing d =>
        rw [hm] at hdraining
        cases hdraining
      | _ => rfl
    rw [hnil, hquiet.empty] at he
    cases he

/-- The loop of `vt_add_watches` ends before the highest VT. -/
theorem TableOk.not_watched_highest (h : s.TableOk max_consoles) : ¬ s.Watched max_consoles := by
  intro hwatched
  obtain ⟨t, -, hlookup, -⟩ := hwatched
  exact Nat.lt_irrefl _ (h.range _ t hlookup)

/-- While the watches are kept, every VT below the highest one is watched;
    the highest one has no watcher at any time. -/
theorem no_lost_watch (h : (vt_monitor max_consoles).ReachableBy (WatchesKept max_consoles) s) :
    s.NoLostWatch max_consoles ↔
      (s.Quiescent → max_consoles = 0 ∨ s.active_num = max_consoles) := by
  have hq := queueOk_of_reachable h.reachable
  have ht := tableOk_of_reachable h.reachable
  constructor
  · intro hwatch hquiet
    by_contra hnot
    obtain ⟨hzero, hne⟩ := not_or.mp hnot
    exact ht.not_watched_highest (hwatch hquiet max_consoles (Nat.pos_of_ne_zero hzero)
      (Nat.le_refl _) fun heq => hne heq.symm)
  · intro hhighest hquiet n h1 hn hne
    have hlt : n < max_consoles := by
      rcases hhighest hquiet with hzero | hactive
      · omega
      · omega
    apply hquiet.watched hq ht
    apply coverOk_of_reachable h n h1 _ hne
    rw [hquiet.added hq]
    exact hlt

/-- The monitor as it is while `ck_vt_monitor_init` adds the watches and no
    VT has become active. -/
structure Idle (active : Nat) (s : CkVtMonitor) : Prop where
  active : s.active_num = active
  empty : s.event_queue = []
  idle : s.process_queue_id = 0
  waiting : ∀ t th, s.thread t = some th → th.pc = .waiting

theorem Idle.vt_add_watch {active : Nat} (h : s.Idle active) (i : Nat) (m : Main) :
    { s.vt_add_watch i true with main := m }.Idle active := by
  have hframe := vt_add_watch_frame s i true
  refine ⟨by rw [hframe]; exact h.active, by rw [hframe]; exact h.empty,
    by rw [hframe]; exact h.idle, ?_⟩
  rcases vt_add_watch_cases s i true with ⟨heq, -⟩ | ⟨-, -, -, heq⟩
  · rw [heq]
    exact h.waiting
  · rw [heq]
    intro t th hth
    replace hth : Function.update s.thread s.next_thread (some ⟨i, .waiting⟩) t = some th := hth
    by_cases hnew : t = s.next_thread
    · subst hnew
      rw [Function.update_self] at hth
      cases hth
      rfl
    · rw [Function.update_of_ne hnew] at hth
      exact h.waiting t th hth

/-- The last step of `ck_vt_monitor_init`. -/
theorem Idle.started {active i : Nat} (h : s.Idle active)
    (hs : (vt_monitor max_consoles).ReachableBy (WatchesKept max_consoles) s)
    (hm : s.main = .starting i) (hi : max_consoles ≤ i) :
    ∃ s', (vt_monitor max_consoles).ReachableBy (WatchesKept max_consoles) s' ∧ s'.Quiescent ∧
      s'.active_num = active := by
  have hnext : (vt_monitor max_consoles).next s (.main true) =
      some { s with main := .running } := by
    show s.main_step max_consoles true = _
    unfold CkVtMonitor.main_step
    rw [hm]
    exact if_neg (Nat.not_lt.mpr hi)
  have hok : s.WatchesKept max_consoles (.main true) := by
    unfold WatchesKept
    rw [hm]
    exact fun hlt => absurd hlt (Nat.not_lt.mpr hi)
  refine ⟨_, .step hs hok hnext, ⟨?_, h.empty, h.idle, ?_⟩, h.active⟩
  · exact fun _ hm' => nomatch hm'
  · exact fun t th hth => .inl (h.waiting t th hth)

/-- A step of `ck_vt_monitor_init` that looks at VT `i`. -/
theorem Idle.start {active i : Nat} (h : s.Idle active) (ht : s.TableOk max_consoles)
    (hm : s.main = .starting i) (hi : i < max_consoles) :
    s.WatchesKept max_consoles (.main true) ∧
      (vt_monitor max_consoles).next s (.main true) =
        some { s.vt_add_watch i true with main := .starting (i + 1) } := by
  constructor
  · unfold WatchesKept
    rw [hm]
    intro _ _
    cases hlookup : s.vt_thread_hash.lookup i with
    | none => exact .inr ⟨rfl, rfl⟩
    | some u =>
      obtain ⟨pc, hth, -⟩ := ht.entry i u hlookup
      have hpc : pc = .waiting := h.waiting u _ hth
      exact .inl ⟨u, pc, hth, by rw [hpc]; rfl⟩
  · show s.main_step max_consoles true = _
    unfold CkVtMonitor.main_step
    rw [hm]
    exact if_pos hi

/-- A monitor that is set up while no VT becomes active is quiescent. -/
theorem exists_started (max_consoles active : Nat) :
    ∃ s, (vt_monitor max_consoles).ReachableBy (WatchesKept max_consoles) s ∧ s.Quiescent ∧
      s.active_num = active := by
  -- By induction on the number of VTs that `vt_add_watches` has yet to look at.
  have hrun : ∀ k i s, (vt_monitor max_consoles).ReachableBy (WatchesKept max_consoles) s →
      s.main = .starting i → s.Idle active → max_consoles ≤ i + k →
      ∃ s', (vt_monitor max_consoles).ReachableBy (WatchesKept max_consoles) s' ∧ s'.Quiescent ∧
        s'.active_num = active := by
    intro k
    induction k with
    | zero =>
      intro i s hs hm hidle hle
      exact hidle.started hs hm hle
    | succ k ih =>
      intro i s hs hm hidle hle
      by_cases hi : i < max_consoles
      · obtain ⟨hok, hnext⟩ := hidle.start (tableOk_of_reachable hs.reachable) hm hi
        exact ih (i + 1) _ (.step hs hok hnext) rfl (hidle.vt_add_watch i _) (by omega)
      · exact hidle.started hs hm (Nat.le_of_not_lt hi)
  apply hrun max_consoles 1 (ck_vt_monitor_init active)
  · exact .init ⟨active, rfl⟩
  · rfl
  · exact ⟨rfl, rfl, rfl, fun _ _ h => nomatch h⟩
  · omega

/-- `ck_get_max_num_consoles` on Linux. -/
def MAX_NR_CONSOLES : Nat := 63

/-- With the highest VT active every other one is watched. -/
theorem no_lost_watch_highest :
    ∃ s, (vt_monitor MAX_NR_CONSOLES).Reachable s ∧ s.Quiescent ∧
      s.NoLostWatch MAX_NR_CONSOLES := by
  obtain ⟨s, hs, hquiet, hactive⟩ := exists_started MAX_NR_CONSOLES MAX_NR_CONSOLES
  exact ⟨s, hs.reachable, hquiet, (no_lost_watch hs).mpr fun _ => .inr hactive⟩

/-- VT 63 is not watched while VT 1 is active. -/
theorem highest_watch_lost :
    ¬ ∀ s, (vt_monitor MAX_NR_CONSOLES).Reachable s → s.NoLostWatch MAX_NR_CONSOLES := by
  intro hall
  obtain ⟨s, hs, hquiet, hactive⟩ := exists_started MAX_NR_CONSOLES 1
  have ht := tableOk_of_reachable hs.reachable
  apply ht.not_watched_highest
  apply hall s hs.reachable hquiet
  · show 1 ≤ 63
    omega
  · exact Nat.le_refl _
  · rw [hactive]
    show 63 ≠ 1
    omega

/-- VT 2 becomes active and VT 3 after it.  The one drain for both finds the
    watcher of VT 2 still in the table, and adds no other. -/
def compressed : List Event :=
  switch_twice ++ [.schedule 1, .leave 0, .leave 1, .main true, .main true, .main true,
    .main true, .main true]

theorem compressed_watch_lost :
    ∃ s, (vt_monitor 4).run (ck_vt_monitor_init 1) compressed = some s ∧ s.Quiescent ∧
      s.active_num = 3 ∧ s.vt_thread_hash.lookup 2 = none := by
  have hrun : ∃ s, (vt_monitor 4).run (ck_vt_monitor_init 1) compressed = some s ∧
      s.main = .running ∧ s.event_queue = [] ∧ s.process_queue_id = 0 ∧ s.active_num = 3 ∧
      s.vt_thread_hash.lookup 2 = none ∧ s.next_thread = 3 ∧
      s.thread 0 = some ⟨2, .exited⟩ ∧ s.thread 1 = some ⟨3, .exited⟩ ∧
      s.thread 2 = some ⟨1, .waiting⟩ :=
    ⟨_, rfl, rfl, rfl, rfl, rfl, rfl, rfl, rfl, rfl, rfl⟩
  obtain ⟨s, hs, hm, hempty, hid, hactive, hlookup, hnext, h0, h1, h2⟩ := hrun
  have hinit : (vt_monitor 4).Reachable (ck_vt_monitor_init 1) := .init ⟨1, rfl⟩
  have hunborn := (queueOk_of_reachable (hinit.run hs)).unborn
  refine ⟨s, hs, ⟨?_, hempty, hid, ?_⟩, hactive, hlookup⟩
  · intro i hm'
    rw [hm] at hm'
    cases hm'
  · intro t th hth
    match t with
    | 0 =>
      rw [h0] at hth
      cases hth
      exact .inr rfl
    | 1 =>
      rw [h1] at hth
      cases hth
      exact .inr rfl
    | 2 =>
      rw [h2] at hth
      cases hth
      exact .inl rfl
    | t + 3 =>
      have hnone := hunborn (t + 3) (by rw [hnext]; exact Nat.le_add_left 3 t)
      rw [hnone] at hth
      cases hth

end CkVtMonitor

end Vt
