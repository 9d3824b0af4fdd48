import ConsoleKit.Inhibit.Invariant

/-! # The counters and the held locks

    `CounterInvariant` is what the manager's callbacks are there for: every
    counter is the number of held locks it stands for and `inhibit_list` is
    the list of held locks.  Two kinds of step break it, and no other:

    - a request that is refused after its object was connected, which the
      manager appends to the list all the same,
    - the release of a lock with several events, of which only the first is
      counted down.
-/

namespace Inhibit

section counters
variable {L : Type} {on_changed_event : L → CkInhibitMode → CkInhibitEvent → Bool → L}

/-! ## Section 1: The law and the steps that keep it -/

/-- The counters and the list agree with the locks that are held. -/
structure CounterInvariant (w : World L) : Prop where
  counter : ∀ m, m.valid = true → ∀ e, w.inhibitors m e = w.heldCount m e
  list_nodup : w.inhibit_list.Nodup
  list_mem : ∀ r, r ∈ w.inhibit_list ↔ r ∈ w.held

/-- A request that is granted, or the release of a lock with one event. -/
def cleanStep (w : World L) : InhibitLabel → Prop
  | .create_lock request calls => request.granted calls = true
  | .pipe_closed r => (w.object r).events.length = 1

theorem init_counterInvariant (l : L) : CounterInvariant (ck_inhibit_manager_init l) := by
  constructor <;> simp [ck_inhibit_manager_init, World.heldCount]

theorem Granted.counterInvariant {w v : World L} (h : Granted on_changed_event w v)
    (hw : Valid w) (hc : CounterInvariant w) : CounterInvariant (v.hold w.next_object) where
  counter := fun m hm e => by
    have hdiff := h.heldCount hw m e
    have hcount := hc.counter m hm e
    change v.inhibitors m e = _
    omega
  list_nodup := (h.valid hw).list_nodup
  list_mem := fun r => by
    change r ∈ v.inhibit_list ↔ r ∈ v.held ++ [w.next_object]
    rw [h.inhibit_list, h.held, List.mem_append, List.mem_append, hc.list_mem]

theorem Refused.not_counterInvariant {w w' : World L} (h : Refused w w') (hw : Valid w) :
    ¬ CounterInvariant w' := by
  intro hc
  have hlist : w.next_object ∈ w'.inhibit_list := by simp [h.inhibit_list]
  rw [hc.list_mem, h.held] at hlist
  exact hw.not_held_next hlist

/-! ## Section 2: The release of a lock -/

variable (on_changed_event) in
/-- While the list is the list of held locks, the release of a lock counts
    down its first event only. -/
theorem pipe_closed_first {w : World L} (hw : Valid w) (hc : CounterInvariant w)
    {r : InhibitRef} (hr : r ∈ w.held) {first : CkInhibitEvent} {rest : List CkInhibitEvent}
    (hfirst : (w.object r).events = first :: rest) :
    let w' := cb_named_pipe_close on_changed_event { w with held := w.held.erase r } r
    w'.inhibitors = (w.addToCounter (w.object r).mode first (-1)).inhibitors ∧
    w'.inhibit_list = w.inhibit_list.erase r := by
  obtain ⟨n, hn⟩ := cb_named_pipe_close_eq on_changed_event hw hr
  have hmode : ((w.beforeFinal r).object r).mode = (w.object r).mode := by
    rw [beforeFinal_object]
  have hflags : ((w.beforeFinal r).object r).inhibitors = (w.object r).inhibitors := by
    rw [beforeFinal_object]
  have := foldl_emit_final_first on_changed_event
    (close_named_pipe_rec_skipsClosed on_changed_event n) r
    CkInhibitEvent.all (w.beforeFinal r)
    (beforeFinal_pathless hw.pathless r) (by rw [beforeFinal_object])
    (hw.held_lock r hr).connected ((hc.list_mem r).mpr hr)
    (fun s hs hne => by
      rw [beforeFinal_object_ne w hne]
      exact (hw.held_lock s ((hc.list_mem s).mp hs)).path)
    first rest (by rw [hflags]; exact hfirst)
  rw [hmode] at this
  rw [hn]
  exact this

theorem pipe_closed_counterInvariant_iff {w : World L} (hw : Valid w)
    (hc : CounterInvariant w) {r : InhibitRef} (hr : r ∈ w.held) :
    CounterInvariant (cb_named_pipe_close on_changed_event
      { w with held := w.held.erase r } r) ↔ (w.object r).events.length = 1 := by
  have hreleased := pipe_closed_spec on_changed_event hw hr
  have hlock := hw.held_lock r hr
  cases hev : (w.object r).events with
  | nil =>
    obtain ⟨e, he⟩ := hlock.event
    rw [← CkInhibit.mem_events, hev] at he
    exact absurd he List.not_mem_nil
  | cons first rest =>
    obtain ⟨hcount, hlist⟩ :=
      pipe_closed_first on_changed_event hw hc hr hev
    have hflag : ∀ e, (w.object r).inhibitors e = true ↔ e = first ∨ e ∈ rest := by
      intro e
      rw [← CkInhibit.mem_events, hev, List.mem_cons]
    constructor
    · intro hc'
      cases rest with
      | nil => rfl
      | cons second rest =>
        -- the counter of the second event still includes the lock
        exfalso
        have hne : second ≠ first := by
          have := (w.object r).nodup_events
          rw [hev] at this
          intro heq
          subst heq
          simp at this
        have hsecond : (w.object r).inhibitors second = true := (hflag second).mpr (by simp)
        have hnew := hc'.counter _ hlock.mode second
        have hold := hc.counter _ hlock.mode second
        rw [hcount, addToCounter_inhibitors, if_neg (fun h => hne h.2),
          hreleased.heldCount hr hw, if_pos ⟨rfl, hsecond⟩] at hnew
        omega
    · intro hlen
      have hrest : rest = [] := by simpa using hlen
      subst hrest
      exact {
        counter := fun m hm e => by
          have hold := hc.counter m hm e
          rw [hcount, addToCounter_inhibitors, hreleased.heldCount hr hw]
          by_cases h : m = (w.object r).mode ∧ e = first
          · rw [if_pos h, if_pos ⟨h.1, (hflag e).mpr (.inl h.2)⟩]
            omega
          · rw [if_neg h, if_neg]
            · omega
            · rintro ⟨hmode, he⟩
              exact h ⟨hmode, by simpa using (hflag e).mp he⟩
        list_nodup := (hreleased.valid hr hw).list_nodup
        list_mem := fun s => by
          rw [hlist, hreleased.held, hw.list_nodup.mem_erase_iff, hw.held_nodup.mem_erase_iff,
            hc.list_mem] }

/-! ## Section 3: Runs -/

theorem counterInvariant_step {w w' : World L} {l : InhibitLabel} (hw : Valid w)
    (hc : CounterInvariant w) (hn : inhibit_next on_changed_event w l = some w') :
    CounterInvariant w' ↔ cleanStep w l := by
  cases l with
  | create_lock request calls =>
    rcases create_lock_next hn with ⟨hg, v, hv, rfl⟩ | ⟨hg, hv⟩
    · exact iff_of_true (hv.counterInvariant hw hc) hg
    · exact iff_of_false (hv.not_counterInvariant hw) (by simp [cleanStep, hg])
  | pipe_closed r =>
    obtain ⟨hr, _, rfl⟩ := pipe_closed_next hw hn
    exact pipe_closed_counterInvariant_iff hw hc hr

/-- Clean steps keep the law. -/
theorem reachableBy_counterInvariant {start : L → Prop} {w : World L}
    (h : (inhibit_system on_changed_event start).ReachableBy cleanStep w) :
    Valid w ∧ CounterInvariant w :=
  h.invariant (I := fun w => Valid w ∧ CounterInvariant w)
    (fun _ hi => by
      obtain ⟨l, _, rfl⟩ := hi
      exact ⟨init_valid l, init_counterInvariant l⟩)
    (fun _ _ _ hi hok hn =>
      ⟨inhibit_next_valid hi.1 hn, (counterInvariant_step hi.1 hi.2 hn).mpr hok⟩)

theorem CounterInvariant.counter_nonneg {w : World L} (h : CounterInvariant w)
    {m : CkInhibitMode} (hm : m.valid = true) (e : CkInhibitEvent) : 0 ≤ w.inhibitors m e := by
  rw [h.counter m hm]
  exact Int.natCast_nonneg _

/-- With no lock held every counter is 0 and every query answers FALSE. -/
theorem CounterInvariant.unlocked {w : World L} (h : CounterInvariant w) (hheld : w.held = []) :
    (∀ m, m.valid = true → ∀ e, w.inhibitors m e = 0) ∧
    ∀ query ∈ inhibit_queries, query w = false := by
  have hzero : ∀ m, m.valid = true → ∀ e, w.inhibitors m e = 0 := by
    intro m hm e
    rw [h.counter m hm, World.heldCount, hheld]
    rfl
  have hstatus : ∀ m, m.valid = true → ∀ e, get_inhibit_status w e m = false := by
    intro m hm e
    simp [get_inhibit_status, hzero m hm e]
  refine ⟨hzero, ?_⟩
  have hblock := hstatus .block rfl
  have hdelay := hstatus .delay rfl
  simp only [inhibit_queries, List.forall_mem_cons]
  exact ⟨hdelay _, hblock _, hdelay _, hblock _, hdelay _, hblock _, hdelay _, hblock _, hdelay _,
    hblock _, hdelay _, hblock _, hdelay _, hblock _, by simp⟩

/-- **Inhibitor counters.**  In every state that clean steps reach, the
    counters and the list agree with the held locks; and a run keeps them in
    agreement exactly when all of its steps are clean. -/
theorem inhibit_counters (on_changed_event : L → CkInhibitMode → CkInhibitEvent → Bool → L)
    (start : L → Prop) :
    (∀ w, (inhibit_system on_changed_event start).ReachableBy cleanStep w →
      CounterInvariant w ∧ (∀ m, m.valid = true → ∀ e, 0 ≤ w.inhibitors m e) ∧
      (w.held = [] → (∀ m, m.valid = true → ∀ e, w.inhibitors m e = 0) ∧
        ∀ query ∈ inhibit_queries, query w = false)) ∧
    ∀ w ls, (inhibit_system on_changed_event start).init w →
      ((inhibit_system on_changed_event start).Along (fun _ _ w' => CounterInvariant w') w ls ↔
        (inhibit_system on_changed_event start).Along (fun w l _ => cleanStep w l) w ls) := by
  refine ⟨fun w h => ?_, fun w ls hi => ?_⟩
  · obtain ⟨_, hc⟩ := reachableBy_counterInvariant h
    exact ⟨hc, fun m hm e => hc.counter_nonneg hm e, hc.unlocked⟩
  · obtain ⟨l, _, rfl⟩ := hi
    refine LTS.System.along_congr (I := fun w => Valid w ∧ CounterInvariant w)
      (fun w l w' hinv hn => counterInvariant_step hinv.1 hinv.2 hn)
      (fun w l w' hinv hn hc => ⟨inhibit_next_valid hinv.1 hn, hc⟩)
      ⟨init_valid l, init_counterInvariant l⟩ ls

end counters

/-! ## Section 4: Two runs -/

/-- The system calls of a request that goes well. -/
def allSucceed (path : String) : PipeCalls where
  mkdir := true
  mkstemp := some path
  close_tmp := true
  unlink := true
  mknod := true
  open_read := some 10
  open_write := some 11

/-- A request for a lock on `what`. -/
def lockRequest (what mode : String) : InhibitRequest where
  who := some "Xfburn"
  what := some what
  why := some "Burning a DVD"
  mode := some mode
  uid := 123
  pid := 456

/-- The inhibit manager on its own. -/
def plain_system : LTS.System (World Unit) InhibitLabel :=
  inhibit_system (fun l _ _ _ => l) fun _ => True

/-- A lock with one event is taken and released: the law holds along the run. -/
theorem inhibit_counters_single_event :
    plain_system.Along (fun _ _ w' => CounterInvariant w') (ck_inhibit_manager_init ())
      [.create_lock (lockRequest "sleep" "block") (allSucceed "a"), .pipe_closed 0] := by
  refine ((inhibit_counters _ _).2 _ _ ⟨(), trivial, rfl⟩).mpr ?_
  intro w (hw : plain_system.next _ _ = some w)
  have hgranted : (lockRequest "sleep" "block").granted (allSucceed "a") = true := by decide
  have hevents : (plain_system.next (ck_inhibit_manager_init ())
      (.create_lock (lockRequest "sleep" "block") (allSucceed "a"))).map
      (fun w => (w.object 0).events) = some [.suspend] := by decide
  refine ⟨hgranted, fun w' _ => ⟨?_, trivial⟩⟩
  rw [hw] at hevents
  exact congrArg List.length (Option.some.inj hevents)

/-- A lock on `shutdown:sleep` that is released leaves the suspend counter
    at 1 with no lock held. -/
theorem inhibit_counters_fail_two_events :
    ¬ ∀ w, plain_system.Reachable w → CounterInvariant w := by
  intro h
  have hrun : (plain_system.run (ck_inhibit_manager_init ())
      [.create_lock (lockRequest "shutdown:sleep" "block") (allSucceed "a"),
        .pipe_closed 0]).map (fun w => (w.inhibitors .block .suspend, w.held)) =
      some (1, []) := by decide
  obtain ⟨w, hw, hval⟩ := Option.map_eq_some_iff.mp hrun
  have hc := h w (LTS.System.Reachable.run (.init ⟨(), trivial, rfl⟩) hw)
  have hcount := hc.counter .block rfl .suspend
  simp only [Prod.mk.injEq] at hval
  rw [hval.1, World.heldCount, hval.2, List.countP_nil] at hcount
  exact absurd hcount (by decide)

end Inhibit
