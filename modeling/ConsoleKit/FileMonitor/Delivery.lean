import ConsoleKit.FileMonitor.Lists
import Mathlib.Data.List.DropRight

/-! # The delivery of events

    `emit_events_in_idle` walks the notifies of a watch and calls their
    functions, which may add and remove notifies meanwhile.  The loop reads
    the successor of a node after the call.  If the call has removed the
    notify that it was made for, the node is gone by then.

    This module provides:
    - `emit_events_in_idle`: the loops, with what a callback may do,
    - `deliver`: the delivery that is meant, over the list as it was found,
    - `deliver_run`: a delivery is a run of the monitor,
    - `delivers_iff`: the callbacks for which the loops do what is meant.
-/

namespace FileMonitor

open Libc

/-! ## Section 1: Callbacks -/

/-- What a callback does with the monitor. -/
inductive Op where
  | add_notify (path : CString) (mask : List CkFileMonitorEvent) (notify_func : Option Nat)
      (user_data : Nat) (wd : Int)
  | remove_notify (id : Nat)
  deriving DecidableEq

def Op.exec (m : CkFileMonitor) : Op → CkFileMonitor
  | .add_notify path mask notify_func user_data wd =>
      (m.ck_file_monitor_add_notify path mask notify_func user_data wd).1
  | .remove_notify id => m.ck_file_monitor_remove_notify id

/-- A call of `notify_func`, for the notify with the id. -/
structure Call where
  id : Nat
  notify_func : Nat
  event : CkFileMonitorEvent
  path : Option CString
  user_data : Nat
  deriving DecidableEq

/-- The monitor while events are delivered, with the calls up to now. -/
structure Delivery where
  monitor : CkFileMonitor
  calls : List Call

/-- What a function does may depend on all that has happened. -/
abbrev Callbacks := Delivery → Call → List Op

/-! ## Section 2: The loops -/

/-- With a name that has no separator. -/
def g_build_filename (dir name : CString) : CString :=
  if dir.all (· = '/') then dir ++ name else dir.rdropWhile (· = '/') ++ '/' :: name

def event_path (watch_path name : Option CString) : Option CString :=
  name.elim watch_path fun name => some (watch_path.elim [] fun dir => g_build_filename dir name)

namespace Delivery

/-- The call that the body of the loop makes for an id, if any. -/
def call_of (d : Delivery) (r : WatchRef) (info : FileMonitorEventInfo) (id : Nat) :
    Option Call :=
  match d.monitor.notifies.lookup id with
  | none => none
  | some notify =>
    if info.event ∈ notify.mask then
      notify.notify_func.map fun notify_func =>
        ⟨id, notify_func, info.event, event_path (d.monitor.watch r).path info.path,
          notify.user_data⟩
    else none

def call (cb : Callbacks) (d : Delivery) (c : Call) : Delivery where
  monitor := (cb d c).foldl Op.exec d.monitor
  calls := d.calls ++ [c]

/-- The body of the loop. -/
def turn (cb : Callbacks) (r : WatchRef) (info : FileMonitorEventInfo) (d : Delivery) (id : Nat) :
    Delivery :=
  (d.call_of r info id).elim d (d.call cb)

/-- The first event has been taken from the queue. -/
def popped (d : Delivery) (rest : List FileMonitorEventInfo) : Delivery :=
  { d with monitor := { d.monitor with notify_events := rest } }

end Delivery

open Delivery

inductive Outcome where
  | returned (d : Delivery)
  /-- `l->next` is read after the node has been freed. -/
  | use_after_free

def Outcome.andThen (k : Delivery → Option Outcome) : Outcome → Option Outcome
  | .returned d => k d
  | .use_after_free => some .use_after_free

/-- `l->next`, in a list of different ids. -/
def next_node (ids : List Nat) (id : Nat) : Option Nat := (ids.dropWhile (· ≠ id)).tail.head?

/-- The loop over the notifies of a watch, from a node on.  A node that is
    not in the list any more has been freed.  The result is `none` if the
    loop does not end in this many rounds. -/
def notify_loop (cb : Callbacks) (r : WatchRef) (info : FileMonitorEventInfo) :
    Nat → Delivery → Option Nat → Option Outcome
  | _, d, none => some (.returned d)
  | 0, _, some _ => none
  | rounds + 1, d, some id =>
    let d := d.turn cb r info id
    if id ∈ (d.monitor.watch r).notifies then
      notify_loop cb r info rounds d (next_node (d.monitor.watch r).notifies id)
    else some .use_after_free

def emit_events_in_idle (cb : Callbacks) : Nat → Delivery → Option Outcome
  | 0, _ => none
  | rounds + 1, d =>
    match d.monitor.notify_events with
    | [] => some (.returned d)
    | info :: rest =>
      let d := d.popped rest
      match d.monitor.wd_to_watch.lookup info.wd with
      | none => emit_events_in_idle cb rounds d
      | some r =>
        (notify_loop cb r info rounds d (d.monitor.watch r).notifies.head?).bind
          (Outcome.andThen (emit_events_in_idle cb rounds))

/-! ## Section 3: The delivery that is meant -/

/-- Every notify that was in the list has its turn, once and in order.  One
    that is not registered by then is passed over. -/
def deliver_event (cb : Callbacks) (info : FileMonitorEventInfo) (d : Delivery) : Delivery :=
  (d.monitor.wd_to_watch.lookup info.wd).elim d fun r =>
    (d.monitor.watch r).notifies.foldl (turn cb r info) d

def deliver (cb : Callbacks) : List FileMonitorEventInfo → Delivery → Delivery
  | [], d => d
  | info :: infos, d => deliver cb infos (deliver_event cb info (d.popped infos))

/-- The loops end without touching freed memory, and with what is meant. -/
def Delivers (cb : Callbacks) (m : CkFileMonitor) : Prop :=
  ∃ rounds, emit_events_in_idle cb rounds ⟨m, []⟩ =
    some (.returned (deliver cb m.notify_events ⟨m, []⟩))

/-- `P` holds of the calls that are made for the ids. -/
def EveryTurn (cb : Callbacks) (P : Delivery → Call → Prop) (r : WatchRef)
    (info : FileMonitorEventInfo) : Delivery → List Nat → Prop
  | _, [] => True
  | d, id :: ids => (∀ c, d.call_of r info id = some c → P d c) ∧
      EveryTurn cb P r info (d.turn cb r info id) ids

/-- `P` holds of all calls that are meant. -/
def EveryCall (cb : Callbacks) (P : Delivery → Call → Prop) :
    List FileMonitorEventInfo → Delivery → Prop
  | [], _ => True
  | info :: infos, d =>
      (∀ r, d.monitor.wd_to_watch.lookup info.wd = some r →
        EveryTurn cb P r info (d.popped infos) (d.monitor.watch r).notifies) ∧
      EveryCall cb P infos (deliver_event cb info (d.popped infos))

/-- The callback does not remove the notify that it is called for. -/
def KeepsOwn (cb : Callbacks) (d : Delivery) (c : Call) : Prop :=
  .remove_notify c.id ∉ cb d c

/-- The serial number does not wrap around. -/
def Unwrapped (cb : Callbacks) (d : Delivery) (c : Call) : Prop :=
  d.monitor.serial + (cb d c).length < 2 ^ 32

/-! ## Section 4: What callbacks do -/

open CkFileMonitor

def Op.removed_id : Op → Option Nat
  | .add_notify .. => none
  | .remove_notify id => some id

/-- The ids that are removed. -/
def removed_ids (ops : List Op) : List Nat := ops.filterMap Op.removed_id

theorem mem_removed_ids {ops : List Op} {id : Nat} :
    id ∈ removed_ids ops ↔ .remove_notify id ∈ ops := by
  unfold removed_ids
  rw [List.mem_filterMap]
  constructor
  · rintro ⟨op, hop, heq⟩
    cases op with
    | add_notify => cases heq
    | remove_notify id' =>
      cases heq
      exact hop
  · exact fun hop => ⟨_, hop, rfl⟩

theorem changed_exec {m : CkFileMonitor} (h : m.ListsValid)
    (hinit : m.initialized_inotify = true) (op : Op) (hserial : m.serial + 1 < 2 ^ 32) :
    Changed (removed_ids [op]) m (op.exec m) ∧ (op.exec m).serial ≤ m.serial + 1 := by
  cases op with
  | add_notify path mask notify_func user_data wd =>
    exact h.add_notify hinit hserial path mask notify_func user_data wd
  | remove_notify id =>
    have hremoved := h.toListed.removed id
    rw [Op.exec, ck_file_monitor_remove_notify, hinit]
    exact ⟨hremoved.changed h hinit, Nat.le_succ_of_le (Nat.le_of_eq hremoved.shrunk.serial)⟩

theorem changed_ops (ops : List Op) {m : CkFileMonitor} (h : m.ListsValid)
    (hinit : m.initialized_inotify = true) (hserial : m.serial + ops.length < 2 ^ 32) :
    Changed (removed_ids ops) m (ops.foldl Op.exec m) := by
  induction ops generalizing m with
  | nil => exact .refl h hinit
  | cons op ops ih =>
    rw [List.length_cons] at hserial
    obtain ⟨hstep, hle⟩ := changed_exec h hinit op (by omega)
    have hsplit : removed_ids (op :: ops) = removed_ids [op] ++ removed_ids ops := by
      unfold removed_ids
      rw [← List.filterMap_append, List.singleton_append]
    rw [hsplit]
    exact hstep.trans (ih hstep.valid hstep.initialized (by omega))

/-! ## Section 5: An event -/

section event

variable {cb : Callbacks} {r : WatchRef} {info : FileMonitorEventInfo}

def Delivery.registered (d : Delivery) (id : Nat) : Bool := (d.monitor.notifies.lookup id).isSome

/-- The ids have their turns to come: the nodes for those that are still
    registered are the end of the list. -/
structure ToCome (r : WatchRef) (infos : List FileMonitorEventInfo) (d : Delivery)
    (ids : List Nat) : Prop where
  valid : d.monitor.ListsValid
  initialized : d.monitor.initialized_inotify = true
  queue : d.monitor.notify_events = infos
  allocated : r < d.monitor.next_watch
  below : ∀ id ∈ ids, id < d.monitor.serial
  nodes : ∃ front, (d.monitor.watch r).notifies = front ++ ids.filter d.registered

/-- The node behind the one of the id. -/
theorem next_node_append {front back : List Nat} {id : Nat} (h : id ∉ front) :
    next_node (front ++ id :: back) id = back.head? := by
  unfold next_node
  rw [List.dropWhile_append_of_pos]
  · simp
  · intro id' hid'
    exact decide_eq_true fun heq => h (heq ▸ hid')

/-- A call is made for a registered notify that has the event in its mask. -/
theorem call_of_eq_some {d : Delivery} {id : Nat} {c : Call} (h : d.call_of r info id = some c) :
    c.id = id ∧ ∃ notify, d.monitor.notifies.lookup id = some notify ∧
      info.event ∈ notify.mask := by
  unfold Delivery.call_of at h
  cases hid : d.monitor.notifies.lookup id with
  | none =>
    rw [hid] at h
    cases h
  | some notify =>
    rw [hid] at h
    dsimp only at h
    split at h
    · rename_i hmask
      obtain ⟨_, _, rfl⟩ := Option.map_eq_some_iff.mp h
      exact ⟨rfl, notify, rfl, hmask⟩
    · cases h

theorem turn_eq_self {d : Delivery} {id : Nat} (h : d.call_of r info id = none) :
    d.turn cb r info id = d := by
  rw [turn, h]
  rfl

theorem turn_eq_call {d : Delivery} {id : Nat} {c : Call} (h : d.call_of r info id = some c) :
    d.turn cb r info id = d.call cb c := by
  rw [turn, h]
  rfl

/-- A notify is called in its turn only, and at most once. -/
theorem foldl_turn_calls (ids : List Nat) (d : Delivery) :
    ∃ calls, (ids.foldl (turn cb r info) d).calls = d.calls ++ calls ∧
      (calls.map Call.id).Sublist ids := by
  -- The ids of the calls are a sublist of the ids that have their turn.
  induction ids generalizing d with
  | nil => exact ⟨[], by simp, .refl _⟩
  | cons id ids ih =>
    obtain ⟨calls, hcalls, hsub⟩ := ih (d.turn cb r info id)
    rw [List.foldl_cons]
    cases hcall : d.call_of r info id with
    | none =>
      rw [turn_eq_self hcall] at hcalls ⊢
      exact ⟨calls, hcalls, hsub.cons id⟩
    | some c =>
      rw [turn_eq_call hcall] at hcalls ⊢
      refine ⟨c :: calls, ?_, ?_⟩
      · rw [hcalls, Delivery.call, List.append_assoc, List.singleton_append]
      · rw [List.map_cons, (call_of_eq_some hcall).1]
        exact hsub.cons_cons id

/-- Of the ids that are to come, those that the callback does not remove stay
    registered. -/
theorem filter_registered_call {d : Delivery} {c : Call} {ids : List Nat}
    (h : Changed (removed_ids (cb d c)) d.monitor ((cb d c).foldl Op.exec d.monitor))
    (hbelow : ∀ id ∈ ids, id < d.monitor.serial) :
    ids.filter (d.call cb c).registered =
      (ids.filter d.registered).filter (· ∉ removed_ids (cb d c)) := by
  rw [List.filter_filter]
  refine List.filter_congr fun id hid => ?_
  show (((cb d c).foldl Op.exec d.monitor).notifies.lookup id).isSome = _
  rw [h.lookup id (hbelow id hid), Delivery.registered]
  by_cases hgone : id ∈ removed_ids (cb d c) <;> simp [hgone]

/-- What a turn leaves: the node of the id, unless its callback has removed
    that, and the nodes of the ids that are still to come. -/
theorem ToCome.after_turn {infos : List FileMonitorEventInfo} {d : Delivery} {id : Nat}
    {ids : List Nat} (h : ToCome r infos d (id :: ids)) (hid : d.registered id = true)
    (hserial : ∀ c, d.call_of r info id = some c → Unwrapped cb d c) :
    ToCome r infos (d.turn cb r info id) ids ∧ ∃ front, id ∉ front ∧
      ((∀ c, d.call_of r info id = some c → KeepsOwn cb d c) →
        ((d.turn cb r info id).monitor.watch r).notifies =
          front ++ id :: ids.filter (d.turn cb r info id).registered) ∧
      (¬ (∀ c, d.call_of r info id = some c → KeepsOwn cb d c) →
        id ∉ ((d.turn cb r info id).monitor.watch r).notifies) := by
  obtain ⟨front, hnodes⟩ := h.nodes
  rw [List.filter_cons_of_pos hid] at hnodes
  have hnodup := h.valid.nodup r
  rw [hnodes] at hnodup
  have hfront : id ∉ front := fun hin =>
    (List.nodup_append.mp hnodup).2.2 id hin id (List.mem_cons_self ..) rfl
  have hback : id ∉ ids.filter d.registered :=
    (List.nodup_cons.mp (List.nodup_append.mp hnodup).2.1).1
  have hbelow : ∀ id' ∈ ids, id' < d.monitor.serial :=
    fun id' hid' => h.below id' (List.mem_cons_of_mem _ hid')
  cases hcall : d.call_of r info id with
  | none =>
    -- No callback runs, and nothing changes.
    rw [turn_eq_self hcall]
    refine ⟨⟨h.valid, h.initialized, h.queue, h.allocated, hbelow, front ++ [id], by simp [hnodes]⟩,
      front, hfront, fun _ => hnodes, fun hkeep => absurd nofun hkeep⟩
  | some c =>
    rw [turn_eq_call hcall]
    obtain ⟨hc, _⟩ := call_of_eq_some hcall
    have hchanged := changed_ops (cb d c) h.valid h.initialized (hserial c hcall)
    obtain ⟨new, hnew, hlist⟩ := hchanged.list r h.allocated
    have hregistered := filter_registered_call hchanged hbelow
    -- The list is what it was without the removed ids, behind new ones.
    have hsplit : ((d.call cb c).monitor.watch r).notifies =
        (new ++ front.filter (· ∉ removed_ids (cb d c))) ++
          ([id].filter (· ∉ removed_ids (cb d c)) ++ ids.filter (d.call cb c).registered) := by
      rw [hregistered, ← List.filter_append, List.append_assoc, ← List.filter_append]
      exact hlist.trans (by rw [hnodes, List.singleton_append])
    -- A new id is not below the old serial number.
    have hnotnew : id ∉ new ++ front.filter (· ∉ removed_ids (cb d c)) := by
      intro hin
      rcases List.mem_append.mp hin with hin | hin
      · have hbelow' := h.below id (List.mem_cons_self ..)
        exact Nat.lt_irrefl _ (Nat.lt_of_lt_of_le hbelow' (hnew id hin))
      · exact hfront (List.mem_of_mem_filter hin)
    have hkeeps : (∀ c', some c = some c' → KeepsOwn cb d c') ↔ id ∉ removed_ids (cb d c) := by
      rw [mem_removed_ids, ← hc]
      exact ⟨fun hkeep => hkeep c rfl, fun hkeep c' heq => Option.some.inj heq ▸ hkeep⟩
    refine ⟨⟨hchanged.valid, hchanged.initialized, hchanged.queue.trans h.queue,
      Nat.lt_of_lt_of_le h.allocated hchanged.next_watch,
      fun id' hid' => Nat.lt_of_lt_of_le (hbelow id' hid') hchanged.serial, _,
      hsplit.trans (List.append_assoc ..).symm⟩, _, hnotnew, ?_, ?_⟩
    · -- The node of the id is still there, before those that are to come.
      intro hkeep
      rw [hsplit, List.filter_cons_of_pos (by simpa using hkeeps.mp hkeep)]
      rfl
    · -- It is in neither part of the list.
      intro hkeep hin
      have hgone : id ∈ removed_ids (cb d c) := by
        by_contra hnot
        exact hkeep (hkeeps.mpr hnot)
      rw [hsplit, List.filter_cons_of_neg (by simpa using hgone)] at hin
      rcases List.mem_append.mp hin with hin | hin
      · exact hnotnew hin
      · rw [List.filter_nil, List.nil_append, hregistered] at hin
        exact hback (List.mem_of_mem_filter hin)

theorem call_of_unregistered {d : Delivery} {id : Nat} (h : d.registered id = false) :
    d.call_of r info id = none := by
  have hnone : d.monitor.notifies.lookup id = none := by
    rw [Delivery.registered] at h
    exact Option.not_isSome_iff_eq_none.mp (Bool.eq_false_iff.mp h)
  rw [Delivery.call_of, hnone]

theorem ToCome.pass_over {infos : List FileMonitorEventInfo} {d : Delivery} {id : Nat}
    {ids : List Nat} (h : ToCome r infos d (id :: ids)) (hid : d.registered id = false) :
    ToCome r infos d ids := by
  obtain ⟨front, hnodes⟩ := h.nodes
  rw [List.filter_cons_of_neg (by simp [hid])] at hnodes
  exact ⟨h.valid, h.initialized, h.queue, h.allocated,
    fun id' hid' => h.below id' (List.mem_cons_of_mem _ hid'), front, hnodes⟩

theorem ToCome.all_turns {infos : List FileMonitorEventInfo} {d : Delivery} (ids : List Nat)
    (h : ToCome r infos d ids) (hserial : EveryTurn cb (Unwrapped cb) r info d ids) :
    ToCome r infos (ids.foldl (turn cb r info) d) [] := by
  induction ids generalizing d with
  | nil => exact h
  | cons id ids ih =>
    cases hid : d.registered id with
    | false =>
      have hturn : d.turn cb r info id = d := turn_eq_self (call_of_unregistered hid)
      rw [EveryTurn, hturn] at hserial
      rw [List.foldl_cons, hturn]
      exact ih (h.pass_over hid) hserial.2
    | true => exact ih (h.after_turn hid hserial.1).1 hserial.2

/-- The loop goes through the nodes of the ids that are still registered,
    until a callback removes its own. -/
theorem notify_loop_outcome {infos : List FileMonitorEventInfo} {d : Delivery} (ids : List Nat)
    (h : ToCome r infos d ids) (hserial : EveryTurn cb (Unwrapped cb) r info d ids) :
    ∃ rounds, (EveryTurn cb (KeepsOwn cb) r info d ids ∧
        notify_loop cb r info rounds d (ids.filter d.registered).head? =
          some (.returned (ids.foldl (turn cb r info) d))) ∨
      (¬ EveryTurn cb (KeepsOwn cb) r info d ids ∧
        notify_loop cb r info rounds d (ids.filter d.registered).head? =
          some .use_after_free) := by
  -- The loop is at the node of the first id that is still registered.
  induction ids generalizing d with
  | nil => exact ⟨0, .inl ⟨trivial, rfl⟩⟩
  | cons id ids ih =>
    cases hid : d.registered id with
    | false =>
      -- An id whose notify is gone has no node, and no call is meant for it.
      have hcall : d.call_of r info id = none := call_of_unregistered hid
      have hturn : d.turn cb r info id = d := turn_eq_self hcall
      rw [EveryTurn, hturn] at hserial
      rw [List.filter_cons_of_neg (by simp [hid]), List.foldl_cons, EveryTurn, hturn]
      obtain ⟨rounds, hout⟩ := ih (h.pass_over hid) hserial.2
      refine ⟨rounds, hout.imp (fun hk => ⟨⟨?_, hk.1⟩, hk.2⟩) fun hk => ⟨fun hall => ?_, hk.2⟩⟩
      · intro c hc
        rw [hcall] at hc
        cases hc
      · exact hk.1 hall.2
    | true =>
      rw [List.filter_cons_of_pos hid, List.head?_cons, List.foldl_cons, EveryTurn]
      obtain ⟨hcome, front, hfront, hkeeps, hfrees⟩ := h.after_turn hid hserial.1
      by_cases hown : ∀ c, d.call_of r info id = some c → KeepsOwn cb d c
      · -- `l->next` is read in the list as the callback has left it.
        have hlist := hkeeps hown
        have hin : id ∈ ((d.turn cb r info id).monitor.watch r).notifies := by
          rw [hlist]
          exact List.mem_append_right _ (List.mem_cons_self ..)
        obtain ⟨rounds, hout⟩ := ih hcome hserial.2
        have hround : notify_loop cb r info (rounds + 1) d (some id) =
            notify_loop cb r info rounds (d.turn cb r info id)
              (ids.filter (d.turn cb r info id).registered).head? := by
          rw [notify_loop, if_pos hin, hlist, next_node_append hfront]
        refine ⟨rounds + 1, ?_⟩
        rw [hround]
        exact hout.imp (fun hk => ⟨⟨hown, hk.1⟩, hk.2⟩) fun hk => ⟨fun hall => hk.1 hall.2, hk.2⟩
      · -- The callback has freed the node that the loop is at.
        refine ⟨1, .inr ⟨fun hall => hown hall.1, ?_⟩⟩
        rw [notify_loop, if_neg (hfrees hown)]

end event

/-! ## Section 6: The queue -/

theorem notify_loop_mono {cb : Callbacks} {r : WatchRef} {info : FileMonitorEventInfo}
    {rounds rounds' : Nat} {d : Delivery} {l : Option Nat} {o : Outcome}
    (h : notify_loop cb r info rounds d l = some o) (hle : rounds ≤ rounds') :
    notify_loop cb r info rounds' d l = some o := by
  induction rounds generalizing rounds' d l with
  | zero =>
    cases l with
    | none =>
      rw [notify_loop] at h ⊢
      exact h
    | some id => cases h
  | succ rounds ih =>
    cases l with
    | none =>
      rw [notify_loop] at h ⊢
      exact h
    | some id =>
      obtain ⟨rounds', rfl⟩ : ∃ n, rounds' = n + 1 := ⟨rounds' - 1, by omega⟩
      rw [notify_loop] at h ⊢
      split
      · rename_i hin
        rw [if_pos hin] at h
        exact ih h (Nat.le_of_succ_le_succ hle)
      · rename_i hin
        rwa [if_neg hin] at h

theorem emit_events_mono {cb : Callbacks} {rounds rounds' : Nat} {d : Delivery} {o : Outcome}
    (h : emit_events_in_idle cb rounds d = some o) (hle : rounds ≤ rounds') :
    emit_events_in_idle cb rounds' d = some o := by
  induction rounds generalizing rounds' d o with
  | zero => cases h
  | succ rounds ih =>
    obtain ⟨rounds', rfl⟩ : ∃ n, rounds' = n + 1 := ⟨rounds' - 1, by omega⟩
    have hle' := Nat.le_of_succ_le_succ hle
    rw [emit_events_in_idle] at h ⊢
    cases hqueue : d.monitor.notify_events with
    | nil =>
      rw [hqueue] at h
      exact h
    | cons info rest =>
      rw [hqueue] at h
      dsimp only at h ⊢
      cases hwd : (d.popped rest).monitor.wd_to_watch.lookup info.wd with
      | none =>
        rw [hwd] at h
        exact ih h hle'
      | some r =>
        rw [hwd] at h
        obtain ⟨out, hloop, hout⟩ := Option.bind_eq_some_iff.mp h
        dsimp only
        rw [notify_loop_mono hloop hle', Option.bind_some]
        cases out with
        | returned d' => exact ih hout hle'
        | use_after_free => exact hout

/-- An event whose watch is gone is dropped. -/
theorem deliver_event_of_none {cb : Callbacks} {info : FileMonitorEventInfo} {d : Delivery}
    (h : d.monitor.wd_to_watch.lookup info.wd = none) : deliver_event cb info d = d := by
  rw [deliver_event, h]
  rfl

theorem deliver_event_of_some {cb : Callbacks} {info : FileMonitorEventInfo} {d : Delivery}
    {r : WatchRef} (h : d.monitor.wd_to_watch.lookup info.wd = some r) :
    deliver_event cb info d = (d.monitor.watch r).notifies.foldl (turn cb r info) d := by
  rw [deliver_event, h]
  rfl

/-- No notify is called twice for an event. -/
theorem deliver_event_once {d : Delivery} (h : d.monitor.ListsValid) (cb : Callbacks)
    (info : FileMonitorEventInfo) : ∃ calls,
      (deliver_event cb info d).calls = d.calls ++ calls ∧ (calls.map Call.id).Nodup := by
  cases hr : d.monitor.wd_to_watch.lookup info.wd with
  | none =>
    rw [deliver_event_of_none hr]
    exact ⟨[], by simp, List.nodup_nil⟩
  | some r =>
    rw [deliver_event_of_some hr]
    obtain ⟨calls, hcalls, hsub⟩ := @foldl_turn_calls cb r info (d.monitor.watch r).notifies d
    exact ⟨calls, hcalls, (h.nodup r).sublist hsub⟩

@[simp] theorem popped_wd_to_watch (d : Delivery) (rest : List FileMonitorEventInfo) :
    (d.popped rest).monitor.wd_to_watch = d.monitor.wd_to_watch := rfl

theorem listsValid_popped {d : Delivery} (h : d.monitor.ListsValid)
    (rest : List FileMonitorEventInfo) : (d.popped rest).monitor.ListsValid :=
  h.shrink ⟨rfl, rfl, fun hs => hs, fun hs => ⟨hs, rfl⟩⟩ ⟨h.listed, h.nodup⟩
    fun _ notify hid => ⟨notify, hid⟩

theorem filter_registered {d : Delivery} (h : d.monitor.ListsValid)
    {infos : List FileMonitorEventInfo} {r : WatchRef} :
    (d.monitor.watch r).notifies.filter (d.popped infos).registered =
      (d.monitor.watch r).notifies := by
  refine List.filter_eq_self.mpr fun id hid => ?_
  obtain ⟨notify, hlookup, _⟩ := h.listed hid
  show (d.monitor.notifies.lookup id).isSome = true
  rw [hlookup]
  rfl

/-- At the head of the list all ids of a watch have their turns to come. -/
theorem toCome_popped {d : Delivery} (h : d.monitor.ListsValid)
    (infos : List FileMonitorEventInfo) {wd : Int} {r : WatchRef}
    (hr : d.monitor.wd_to_watch.lookup wd = some r) :
    ToCome r infos (d.popped infos) (d.monitor.watch r).notifies := by
  obtain ⟨hallocated, hinit⟩ := h.by_wd hr
  exact ⟨listsValid_popped h infos, hinit, rfl, hallocated, fun id hid => h.lt_serial hid, [],
    (filter_registered h).symm⟩

/-- The loops end with what is meant, or with the read of a freed node if a
    callback removes its own notify. -/
theorem emit_events_outcome {cb : Callbacks} (infos : List FileMonitorEventInfo) {d : Delivery}
    (h : d.monitor.ListsValid) (hqueue : d.monitor.notify_events = infos)
    (hserial : EveryCall cb (Unwrapped cb) infos d) :
    ∃ rounds, (EveryCall cb (KeepsOwn cb) infos d ∧
        emit_events_in_idle cb rounds d = some (.returned (deliver cb infos d))) ∨
      (¬ EveryCall cb (KeepsOwn cb) infos d ∧
        emit_events_in_idle cb rounds d = some .use_after_free) := by
  induction infos generalizing d with
  | nil =>
    refine ⟨1, .inl ⟨trivial, ?_⟩⟩
    rw [emit_events_in_idle, hqueue]
    rfl
  | cons info infos ih =>
    rw [EveryCall, deliver]
    cases hr : d.monitor.wd_to_watch.lookup info.wd with
    | none =>
      have hevent : deliver_event cb info (d.popped infos) = d.popped infos :=
        deliver_event_of_none hr
      have hround : ∀ rounds, emit_events_in_idle cb (rounds + 1) d =
          emit_events_in_idle cb rounds (d.popped infos) := by
        intro rounds
        rw [emit_events_in_idle, hqueue]
        dsimp only
        rw [popped_wd_to_watch, hr]
      rw [EveryCall, hevent] at hserial
      rw [hevent]
      obtain ⟨rounds, hout⟩ := ih (listsValid_popped h infos) rfl hserial.2
      refine ⟨rounds + 1, ?_⟩
      rw [hround]
      exact hout.imp (fun hk => ⟨⟨nofun, hk.1⟩, hk.2⟩) fun hk => ⟨fun hall => hk.1 hall.2, hk.2⟩
    | some r =>
      have hevent : deliver_event cb info (d.popped infos) =
          (d.monitor.watch r).notifies.foldl (turn cb r info) (d.popped infos) :=
        deliver_event_of_some hr
      have hround : ∀ rounds, emit_events_in_idle cb (rounds + 1) d =
          (notify_loop cb r info rounds (d.popped infos)
            ((d.monitor.watch r).notifies.filter (d.popped infos).registered).head?).bind
              (Outcome.andThen (emit_events_in_idle cb rounds)) := by
        intro rounds
        rw [emit_events_in_idle, hqueue, filter_registered h]
        dsimp only
        rw [popped_wd_to_watch, hr]
        rfl
      have hcome := toCome_popped h infos hr
      have hserial' := hserial.1 r hr
      rw [EveryCall, hevent] at hserial
      rw [hevent]
      obtain ⟨rounds, ⟨hevery, hloop⟩ | ⟨hfree, hloop⟩⟩ := notify_loop_outcome _ hcome hserial'
      · -- The inner loop has as many rounds left as the rest of the queue has, so
        -- the larger of the two numbers is enough for both.
        have hdone := hcome.all_turns _ hserial'
        obtain ⟨rounds', hout⟩ := ih hdone.valid hdone.queue hserial.2
        have hmono : notify_loop cb r info (max rounds rounds') (d.popped infos)
            ((d.monitor.watch r).notifies.filter (d.popped infos).registered).head? =
              some (.returned ((d.monitor.watch r).notifies.foldl (turn cb r info)
                (d.popped infos))) :=
          notify_loop_mono hloop (Nat.le_max_left ..)
        refine ⟨max rounds rounds' + 1, ?_⟩
        rw [hround, hmono, Option.bind_some, Outcome.andThen]
        refine hout.imp (fun hk => ⟨⟨fun r' hr' => ?_, hk.1⟩, ?_⟩)
          fun hk => ⟨fun hall => hk.1 hall.2, ?_⟩
        · obtain rfl := Option.some.inj hr'
          exact hevery
        · exact emit_events_mono hk.2 (Nat.le_max_right ..)
        · exact emit_events_mono hk.2 (Nat.le_max_right ..)
      · -- What the queue still holds is not reached.
        refine ⟨rounds + 1, .inr ⟨fun hall => hfree (hall.1 r rfl), ?_⟩⟩
        rw [hround, hloop]
        rfl

/-! ## Section 7: A delivery as a run -/

def Op.label : Op → Label
  | .add_notify path mask notify_func user_data wd => .add_notify path mask notify_func user_data wd
  | .remove_notify id => .remove_notify id

theorem run_ops (ops : List Op) (m : CkFileMonitor) :
    file_monitor.run m (ops.map Op.label) = some (ops.foldl Op.exec m) := by
  induction ops generalizing m with
  | nil => rfl
  | cons op ops ih =>
    have hstep : file_monitor.next m op.label = some (op.exec m) := by
      cases op with
      | add_notify => rfl
      | remove_notify => rfl
    rw [List.map_cons, LTS.System.run_cons, hstep, Option.bind_some, ih, List.foldl_cons]

theorem run_turns (cb : Callbacks) (r : WatchRef) (info : FileMonitorEventInfo) (ids : List Nat)
    (d : Delivery) : ∃ labels, file_monitor.run d.monitor labels =
      some (ids.foldl (turn cb r info) d).monitor := by
  induction ids generalizing d with
  | nil => exact ⟨[], rfl⟩
  | cons id ids ih =>
    obtain ⟨labels, hrun⟩ := ih (d.turn cb r info id)
    cases hcall : d.call_of r info id with
    | none =>
      rw [turn_eq_self hcall] at hrun
      exact ⟨labels, by rw [List.foldl_cons, turn_eq_self hcall, hrun]⟩
    | some c =>
      refine ⟨(cb d c).map Op.label ++ labels, ?_⟩
      rw [turn_eq_call hcall] at hrun
      rw [LTS.System.run_append, run_ops, Option.bind_some, List.foldl_cons, turn_eq_call hcall]
      exact hrun

/-- A delivery is a run of the monitor, in which the events are taken from
    the queue and the callbacks are among the clients. -/
theorem deliver_run {cb : Callbacks} (infos : List FileMonitorEventInfo) {d : Delivery}
    (h : d.monitor.ListsValid) (hqueue : d.monitor.notify_events = infos)
    (hserial : EveryCall cb (Unwrapped cb) infos d) :
    ∃ labels, file_monitor.run d.monitor labels = some (deliver cb infos d).monitor := by
  induction infos generalizing d with
  | nil => exact ⟨[], rfl⟩
  | cons info infos ih =>
    have hpop : file_monitor.next d.monitor .emit_event = some (d.popped infos).monitor := by
      show file_monitor_next d.monitor .emit_event = _
      rw [file_monitor_next, hqueue]
      rfl
    rw [EveryCall] at hserial
    cases hr : d.monitor.wd_to_watch.lookup info.wd with
    | none =>
      have hevent : deliver_event cb info (d.popped infos) = d.popped infos :=
        deliver_event_of_none hr
      rw [hevent] at hserial
      obtain ⟨labels, hrun⟩ := ih (listsValid_popped h infos) rfl hserial.2
      refine ⟨.emit_event :: labels, ?_⟩
      rw [LTS.System.run_cons, hpop, Option.bind_some, deliver, hevent]
      exact hrun
    | some r =>
      have hevent : deliver_event cb info (d.popped infos) =
          (d.monitor.watch r).notifies.foldl (turn cb r info) (d.popped infos) :=
        deliver_event_of_some hr
      have hdone := (toCome_popped h infos hr).all_turns _ (hserial.1 r hr)
      rw [hevent] at hserial
      obtain ⟨labels, hturns⟩ := run_turns cb r info (d.monitor.watch r).notifies (d.popped infos)
      obtain ⟨labels', hrun⟩ := ih hdone.valid hdone.queue hserial.2
      refine ⟨.emit_event :: (labels ++ labels'), ?_⟩
      rw [LTS.System.run_cons, hpop, Option.bind_some, LTS.System.run_append, hturns,
        Option.bind_some, deliver, hevent]
      exact hrun

/-! ## Section 8: When events are delivered as meant -/

/-- The loops of `emit_events_in_idle` do what is meant if and only if no
    callback removes the notify that it is called for. -/
theorem delivers_iff {cb : Callbacks} {m : CkFileMonitor} (h : m.ListsValid)
    (hserial : EveryCall cb (Unwrapped cb) m.notify_events ⟨m, []⟩) :
    Delivers cb m ↔ EveryCall cb (KeepsOwn cb) m.notify_events ⟨m, []⟩ := by
  -- More rounds do not change the outcome, so there is only one.
  have hout := emit_events_outcome (d := ⟨m, []⟩) m.notify_events h rfl hserial
  obtain ⟨rounds, ⟨hkeep, hemit⟩ | ⟨hfree, hemit⟩⟩ := hout
  · exact ⟨fun _ => hkeep, fun _ => ⟨rounds, hemit⟩⟩
  · refine ⟨fun ⟨rounds', hemit'⟩ => ?_, fun hkeep => absurd hkeep hfree⟩
    have hfreed := emit_events_mono hemit (Nat.le_max_left rounds rounds')
    rw [emit_events_mono hemit' (Nat.le_max_right rounds rounds')] at hfreed
    cases hfreed

/-- An idle terminal has been accessed. -/
def tty_accessed : CkFileMonitor :=
  ((ck_file_monitor_init true).ck_file_monitor_add_notify (cstr "/dev/tty1") [.ACCESS] (some 0) 0
    1).1.handle_inotify_event ⟨1, [.IN_ACCESS], none⟩

theorem tty_accessed_reachable : file_monitor.ReachableBy Counting tty_accessed := by
  have hinit : file_monitor.ReachableBy Counting (ck_file_monitor_init true) := .init ⟨true, rfl⟩
  have hadd : Counting (ck_file_monitor_init true)
      (.add_notify (cstr "/dev/tty1") [.ACCESS] (some 0) 0 1) := by
    show 1 + 1 < 2 ^ 32
    decide
  have hkernel : ∀ m, Counting m (.kernel_event ⟨1, [.IN_ACCESS], none⟩) := fun _ => trivial
  have hread : ∀ m, Counting m (.inotify_data_pending 1) := fun _ => trivial
  exact ((hinit.step hadd rfl).step (hkernel _) rfl).step (hread _) rfl

theorem tty_access_delivered : Delivers (fun _ _ => []) tty_accessed := by
  refine (delivers_iff (listsValid_of_reachable tty_accessed_reachable) ?_).mpr ?_
  · refine ⟨fun r hr => ?_, trivial⟩
    obtain rfl : 0 = r := Option.some.inj hr
    exact ⟨fun c _ => (by decide : 2 + 0 < 2 ^ 32), trivial⟩
  · refine ⟨fun r hr => ?_, trivial⟩
    obtain rfl : 0 = r := Option.some.inj hr
    exact ⟨fun c _ => List.not_mem_nil, trivial⟩

/-- `monitor_remove_watch` of the idle monitor of a terminal. -/
def monitor_remove_watch (file_notify_id : Nat) : List Op :=
  if file_notify_id > 0 then [.remove_notify file_notify_id] else []

/-- The restart of the timers begins with `monitor_remove_watch`. -/
def file_access_cb (file_notify_id : Nat → Nat) : Callbacks :=
  fun _ c => monitor_remove_watch (file_notify_id c.user_data)

theorem idle_monitor_frees_node : file_monitor.ReachableBy Counting tty_accessed ∧
    ¬ Delivers (file_access_cb fun _ => 1) tty_accessed := by
  refine ⟨tty_accessed_reachable, ?_⟩
  have hfreed : emit_events_in_idle (file_access_cb fun _ => 1) 2 ⟨tty_accessed, []⟩ =
      some .use_after_free := rfl
  rintro ⟨rounds, hemit⟩
  have hfreed' := emit_events_mono hfreed (Nat.le_max_left 2 rounds)
  rw [emit_events_mono hemit (Nat.le_max_right 2 rounds)] at hfreed'
  cases hfreed'

end FileMonitor
