import ConsoleKit.FileMonitor.Model

/-! # The lists of notifies

    An id is in the list of a watch only as long as its notify is registered
    with that watch.  Unlike what the tables have, this depends on no answer
    of the kernel, as long as the serial number does not wrap around.

    This module provides:
    - `Listed`: what the lists have,
    - `Removed`, `Changed`: what a removal and an addition leave,
    - `ListsValid`: the invariant, which holds in all such runs.
-/

namespace FileMonitor

open Libc

namespace CkFileMonitor

/-! ## Section 1: Lists -/

/-- The ids in a list are registered with its watch. -/
structure Listed (m : CkFileMonitor) : Prop where
  listed : ∀ {r id}, id ∈ (m.watch r).notifies →
    ∃ notify, m.notifies.lookup id = some notify ∧ notify.watch = some r
  nodup : ∀ r, (m.watch r).notifies.Nodup

theorem Listed.watch_eq {m : CkFileMonitor} (h : m.Listed) {r : WatchRef} {id : Nat}
    {notify : FileMonitorNotify} (hin : id ∈ (m.watch r).notifies)
    (hid : m.notifies.lookup id = some notify) : notify.watch = some r := by
  obtain ⟨notify', hid', hr⟩ := h.listed hin
  rw [hid] at hid'
  rw [Option.some.inj hid', hr]

/-- An id is in the list of one watch only. -/
theorem Listed.unique {m : CkFileMonitor} (h : m.Listed) {r s : WatchRef} {id : Nat}
    (hr : id ∈ (m.watch r).notifies) (hs : id ∈ (m.watch s).notifies) : r = s := by
  obtain ⟨notify, hid, hwatch⟩ := h.listed hr
  rw [h.watch_eq hs hid] at hwatch
  exact (Option.some.inj hwatch).symm

/-- Lists may lose ids, and only ids that are in no list may change. -/
theorem Listed.shrink {m m' : CkFileMonitor} (h : m.Listed)
    (hlist : ∀ r, (m'.watch r).notifies.Sublist (m.watch r).notifies)
    (hkeep : ∀ r id, id ∈ (m'.watch r).notifies →
      m'.notifies.lookup id = m.notifies.lookup id) : m'.Listed := by
  constructor
  · intro r id hid
    rw [hkeep r id hid]
    exact h.listed ((hlist r).subset hid)
  · exact fun r => (h.nodup r).sublist (hlist r)

/-- Watches may have been given up; no new ones are there. -/
structure Shrunk (m m' : CkFileMonitor) : Prop where
  serial : m'.serial = m.serial
  next_watch : m'.next_watch = m.next_watch
  path : ∀ {path r}, m'.path_to_watch.lookup path = some r → m.path_to_watch.lookup path = some r
  wd : ∀ {wd r}, m'.wd_to_watch.lookup wd = some r →
    m.wd_to_watch.lookup wd = some r ∧ m'.initialized_inotify = m.initialized_inotify

theorem Shrunk.refl (m : CkFileMonitor) : Shrunk m m := ⟨rfl, rfl, id, fun h => ⟨h, rfl⟩⟩

theorem Shrunk.trans {m₁ m₂ m₃ : CkFileMonitor} (h : Shrunk m₁ m₂) (h' : Shrunk m₂ m₃) :
    Shrunk m₁ m₃ where
  serial := h'.serial.trans h.serial
  next_watch := h'.next_watch.trans h.next_watch
  path hr := h.path (h'.path hr)
  wd hr := ⟨(h.wd (h'.wd hr).1).1, (h'.wd hr).2.trans (h.wd (h'.wd hr).1).2⟩

/-! ## Section 2: Removal -/

theorem file_monitor_remove_watch_notifies (m : CkFileMonitor) (r : WatchRef) :
    (m.file_monitor_remove_watch r).notifies = m.notifies := by
  unfold file_monitor_remove_watch
  split <;> rfl

theorem file_monitor_remove_watch_initialized (m : CkFileMonitor) (r : WatchRef) :
    (m.file_monitor_remove_watch r).initialized_inotify = m.initialized_inotify := by
  unfold file_monitor_remove_watch
  split <;> rfl

/-- The removal of a watch clears its list. -/
theorem file_monitor_remove_watch_lists (m : CkFileMonitor) (r s : WatchRef) :
    (s ≠ r → (m.file_monitor_remove_watch r).watch s = m.watch s) ∧
      ((m.file_monitor_remove_watch r).watch s).notifies.Sublist (m.watch s).notifies := by
  unfold file_monitor_remove_watch
  split
  · exact ⟨fun _ => rfl, .refl _⟩
  · refine ⟨fun hs => Function.update_of_ne hs _ _, ?_⟩
    show (Function.update m.watch r _ s).notifies.Sublist _
    by_cases hs : s = r
    · rw [hs, Function.update_self]
      exact List.nil_sublist _
    · rw [Function.update_of_ne hs]

theorem shrunk_remove_watch (m : CkFileMonitor) (r : WatchRef) :
    Shrunk m (m.file_monitor_remove_watch r) := by
  unfold file_monitor_remove_watch
  split
  · exact .refl m
  · refine ⟨rfl, rfl, fun {path s} hs => ?_, fun hs => ⟨(HashTable.lookup_erase_iff.mp hs).2, rfl⟩⟩
    change ((m.watch r).path.elim m.path_to_watch m.path_to_watch.erase).lookup path = some s at hs
    cases hpath : (m.watch r).path with
    | none =>
      rw [hpath] at hs
      exact hs
    | some path' =>
      rw [hpath] at hs
      exact (HashTable.lookup_erase_iff.mp hs).2

/-- A notify leaves the table and the list of its watch. -/
def unregister (m : CkFileMonitor) (id : Nat) (r : WatchRef) : CkFileMonitor :=
  { m with notifies := m.notifies.erase id }.setWatch r
    { m.watch r with notifies := (m.watch r).notifies.erase id }

theorem unregister_watch (m : CkFileMonitor) (id : Nat) (r s : WatchRef) :
    (m.unregister id r).watch s =
      { m.watch s with
        notifies := if s = r then (m.watch s).notifies.erase id else (m.watch s).notifies } := by
  unfold unregister
  rw [setWatch_watch, Function.update_apply]
  split
  · rename_i hs
    rw [hs]
  · rfl

theorem file_monitor_remove_notify_eq {m : CkFileMonitor} {id : Nat} {notify : FileMonitorNotify}
    (h : m.notifies.lookup id = some notify) :
    m.file_monitor_remove_notify id = notify.watch.elim { m with notifies := m.notifies.erase id }
      fun r => if ((m.unregister id r).watch r).notifies = [] then
        (m.unregister id r).file_monitor_remove_watch r else m.unregister id r := by
  rw [file_monitor_remove_notify, h]
  dsimp only
  cases notify.watch with
  | none => rfl
  | some r => rfl

/-- The notify leaves its list and the table, and nothing else is touched
    but an empty watch. -/
structure Removed (m m' : CkFileMonitor) (id : Nat) : Prop where
  shrunk : Shrunk m m'
  initialized : m'.initialized_inotify = m.initialized_inotify
  queue : m'.notify_events = m.notify_events
  list : ∀ r, (m'.watch r).notifies = (m.watch r).notifies.erase id
  lookup : ∀ id', m'.notifies.lookup id' = if id' = id then none else m.notifies.lookup id'

theorem Listed.removed_unregister {m : CkFileMonitor} (h : m.Listed) {id : Nat}
    {notify : FileMonitorNotify} {r : WatchRef} (hid : m.notifies.lookup id = some notify)
    (hr : notify.watch = some r) : Removed m (m.unregister id r) id := by
  refine ⟨⟨rfl, rfl, fun hs => hs, fun hs => ⟨hs, rfl⟩⟩, rfl, rfl, fun s => ?_, fun id' => ?_⟩
  · rw [unregister_watch]
    dsimp only
    split
    · rfl
    · rename_i hne
      rw [List.erase_of_not_mem]
      intro hin
      have hs := h.watch_eq hin hid
      rw [hr] at hs
      exact hne (Option.some.inj hs).symm
  · exact HashTable.lookup_erase_eq _ _ _

theorem Removed.remove_watch {m m' : CkFileMonitor} {id : Nat} (h : Removed m m' id)
    {r : WatchRef} (hempty : (m'.watch r).notifies = []) :
    Removed m (m'.file_monitor_remove_watch r) id := by
  refine ⟨h.shrunk.trans (m'.shrunk_remove_watch r), ?_, ?_, ?_, ?_⟩
  · rw [file_monitor_remove_watch_initialized, h.initialized]
  · rw [← h.queue, file_monitor_remove_watch]
    split <;> rfl
  · intro s
    rw [← h.list s]
    obtain ⟨hother, hsub⟩ := m'.file_monitor_remove_watch_lists r s
    by_cases hs : s = r
    · rw [hs, hempty] at hsub ⊢
      exact List.sublist_nil.mp hsub
    · rw [hother hs]
  · intro id'
    rw [file_monitor_remove_watch_notifies]
    exact h.lookup id'

theorem Listed.removed {m : CkFileMonitor} (h : m.Listed) (id : Nat) :
    Removed m (m.file_monitor_remove_notify id) id := by
  -- A notify that is not registered, or has no watch, is in no list.
  have hunlisted : (∀ r, id ∉ (m.watch r).notifies) → ∀ r,
      (m.watch r).notifies = (m.watch r).notifies.erase id :=
    fun hnotin r => (List.erase_of_not_mem (hnotin r)).symm
  cases hid : m.notifies.lookup id with
  | none =>
    have hsame : m.file_monitor_remove_notify id = m := by rw [file_monitor_remove_notify, hid]
    rw [hsame]
    refine ⟨.refl m, rfl, rfl, hunlisted fun r hin => ?_, fun id' => ?_⟩
    · obtain ⟨_, hid', _⟩ := h.listed hin
      rw [hid] at hid'
      cases hid'
    · split
      · rename_i heq
        rw [heq, hid]
      · rfl
  | some notify =>
    rw [file_monitor_remove_notify_eq hid]
    cases hr : notify.watch with
    | none =>
      refine ⟨⟨rfl, rfl, fun hs => hs, fun hs => ⟨hs, rfl⟩⟩, rfl, rfl,
        hunlisted fun r hin => ?_, fun id' => HashTable.lookup_erase_eq _ _ _⟩
      have hr' := h.watch_eq hin hid
      rw [hr] at hr'
      cases hr'
    | some r =>
      have hremoved := h.removed_unregister hid hr
      rw [Option.elim_some]
      split
      · rename_i hempty
        exact hremoved.remove_watch hempty
      · exact hremoved

theorem Removed.listed {m m' : CkFileMonitor} {id : Nat} (hr : Removed m m' id)
    (h : m.Listed) : m'.Listed := by
  refine h.shrink ?_ ?_
  · intro r
    rw [hr.list]
    exact List.erase_sublist
  · intro r id' hin
    rw [hr.list] at hin
    rw [hr.lookup, if_neg ((h.nodup r).mem_erase_iff.mp hin).1]

/-- The notifies of the ids lose their watches. -/
theorem foldl_detach (ids : List Nat) (m : CkFileMonitor) :
    ∃ t, ids.foldl detach m = { m with notifies := t } ∧
      ∀ id, t.lookup id = (m.notifies.lookup id).map fun notify =>
        if id ∈ ids then { notify with watch := none } else notify := by
  induction ids generalizing m with
  | nil => exact ⟨m.notifies, rfl, fun id => by simp⟩
  | cons id₀ ids ih =>
    cases hlookup : m.notifies.lookup id₀ with
    | none =>
      have hstep : m.detach id₀ = m := by rw [detach, hlookup]
      obtain ⟨t, hfold, ht⟩ := ih m
      refine ⟨t, by rw [List.foldl_cons, hstep, hfold], fun id => ?_⟩
      rw [ht]
      by_cases hid : id = id₀
      · rw [hid, hlookup]
        rfl
      · simp [hid]
    | some notify₀ =>
      have hstep : m.detach id₀ =
          { m with notifies := m.notifies.insert id₀ { notify₀ with watch := none } } := by
        rw [detach, hlookup]
      obtain ⟨t, hfold, ht⟩ := ih (m.detach id₀)
      refine ⟨t, by rw [List.foldl_cons, hfold, hstep], fun id => ?_⟩
      rw [ht, hstep]
      by_cases hid : id = id₀
      · subst hid
        simp [hlookup]
      · simp [hid]

/-- The watch has ended, and its notifies have lost it. -/
theorem Listed.ended {m : CkFileMonitor} (h : m.Listed) {r : WatchRef}
    {t : HashTable Nat FileMonitorNotify} (hwd : (m.watch r).wd ≠ -1)
    (ht : ∀ id, t.lookup id = (m.notifies.lookup id).map fun notify =>
      if id ∈ (m.watch r).notifies then { notify with watch := none } else notify) :
    (file_monitor_remove_watch { m with notifies := t } r).Listed := by
  have hlists := file_monitor_remove_watch_lists { m with notifies := t } r
  refine h.shrink (fun s => (hlists s).2) fun s id hin => ?_
  -- The list of the watch is empty now.
  have hs : s ≠ r := by
    rintro rfl
    rw [file_monitor_remove_watch, if_neg hwd] at hin
    change id ∈ (Function.update m.watch s _ s).notifies at hin
    rw [Function.update_self] at hin
    cases hin
  rw [(hlists s).1 hs] at hin
  obtain ⟨notify, hid, _⟩ := h.listed hin
  rw [file_monitor_remove_watch_notifies, ht, hid, Option.map_some, if_neg]
  exact fun hin' => hs (h.unique hin hin')

/-! ## Section 3: Addition -/

/-- A watch for a path that has none. -/
def new_watch (m : CkFileMonitor) (path : CString) (wd : Int) : CkFileMonitor :=
  { m.setWatch m.next_watch ⟨wd, some path, []⟩ with
    next_watch := m.next_watch + 1
    path_to_watch := m.path_to_watch.insert path m.next_watch
    wd_to_watch := m.wd_to_watch.insert wd m.next_watch }

theorem file_monitor_add_watch_for_path_eq (m : CkFileMonitor) (path : CString) {wd : Int}
    (hwd : 0 ≤ wd) :
    m.file_monitor_add_watch_for_path path wd =
      let m' := { m with kernel := m.kernel.add_watch path wd }
      (m.path_to_watch.lookup path).elim (m'.new_watch path wd, some m.next_watch)
        fun r => (m', some r) := by
  rw [file_monitor_add_watch_for_path, if_neg (by omega)]
  dsimp only
  cases m.path_to_watch.lookup path with
  | none => rfl
  | some r => rfl

theorem Listed.new_watch {m : CkFileMonitor} (h : m.Listed) (path : CString) (wd : Int) :
    (m.new_watch path wd).Listed := by
  refine h.shrink (fun s => ?_) fun _ _ _ => rfl
  show (Function.update m.watch m.next_watch ⟨wd, some path, []⟩ s).notifies.Sublist _
  rw [Function.update_apply]
  split
  · exact List.nil_sublist _
  · exact .refl _

theorem add_notify_to_watch_watch (m : CkFileMonitor) (r : WatchRef)
    (mask : List CkFileMonitorEvent) (notify_func : Option Nat) (user_data : Nat) (s : WatchRef) :
    (m.add_notify_to_watch r mask notify_func user_data).watch s =
      { m.watch s with notifies :=
          if s = r then m.serial :: (m.watch s).notifies else (m.watch s).notifies } := by
  show Function.update m.watch r _ s = _
  rw [Function.update_apply]
  split
  · rename_i hs
    rw [hs]
  · rfl

theorem Listed.add_notify_to_watch {m : CkFileMonitor} (h : m.Listed)
    (hserial : m.notifies.lookup m.serial = none) (r : WatchRef) (mask : List CkFileMonitorEvent)
    (notify_func : Option Nat) (user_data : Nat) :
    (m.add_notify_to_watch r mask notify_func user_data).Listed := by
  have hwatch := m.add_notify_to_watch_watch r mask notify_func user_data
  -- The id is new in the table, so no list has it.
  have hnotin : ∀ s, m.serial ∉ (m.watch s).notifies := by
    intro s hin
    obtain ⟨notify, hid, _⟩ := h.listed hin
    rw [hserial] at hid
    cases hid
  constructor
  · intro s id hin
    have hcases : (s = r ∧ id = m.serial) ∨ id ∈ (m.watch s).notifies := by
      rw [hwatch] at hin
      dsimp only at hin
      split at hin
      · rename_i hs
        exact (List.mem_cons.mp hin).imp_left fun heq => ⟨hs, heq⟩
      · exact .inr hin
    rcases hcases with ⟨rfl, rfl⟩ | hin
    · exact ⟨_, AList.lookup_insert _, rfl⟩
    · obtain ⟨notify, hid, hs⟩ := h.listed hin
      refine ⟨notify, HashTable.lookup_insert_iff.mpr (.inr ⟨?_, hid⟩), hs⟩
      rintro rfl
      exact hnotin s hin
  · intro s
    rw [hwatch]
    dsimp only
    split
    · exact List.nodup_cons.mpr ⟨hnotin s, h.nodup s⟩
    · exact h.nodup s

/-! ## Section 4: Events -/

/-- What is read of known descriptors is queued, and nothing else changes. -/
theorem foldl_handle_known_event (ievents : List InotifyEvent) (m : CkFileMonitor) :
    ievents.foldl handle_known_event m =
      { m with
        notify_events := m.notify_events ++ ievents.filterMap fun ievent =>
          if (m.wd_to_watch.lookup ievent.wd).isSome then
            (event_of_mask ievent.mask).map fun event => ⟨ievent.wd, event, ievent.name⟩
          else none
        remove_events := m.remove_events ++ ((ievents.filter fun ievent =>
          (m.wd_to_watch.lookup ievent.wd).isSome && .IN_IGNORED ∈ ievent.mask).map
            InotifyEvent.wd) } := by
  induction ievents generalizing m with
  | nil => simp
  | cons ievent ievents ih =>
    rw [List.foldl_cons, ih]
    unfold handle_known_event
    cases hknown : m.wd_to_watch.lookup ievent.wd with
    | none => simp [hknown]
    | some r =>
      unfold handle_inotify_event
      cases hevent : event_of_mask ievent.mask with
      | none =>
        by_cases hignored : InotifyFlag.IN_IGNORED ∈ ievent.mask
        · simp [hknown, hevent, hignored, queue_remove_event]
        · simp [hknown, hevent, hignored]
      | some event =>
        by_cases hignored : InotifyFlag.IN_IGNORED ∈ ievent.mask
        · simp [hknown, hevent, hignored, queue_watch_event, queue_remove_event]
        · simp [hknown, hevent, hignored, queue_watch_event]

/-! ## Section 5: Serial numbers -/

/-- No id is ahead of the serial number, and the tables lead to watches that
    have been allocated. -/
structure ListsValid (m : CkFileMonitor) : Prop extends Listed m where
  serial : ∀ {id notify}, m.notifies.lookup id = some notify → id < m.serial
  by_path : ∀ {path r}, m.path_to_watch.lookup path = some r → r < m.next_watch
  by_wd : ∀ {wd r}, m.wd_to_watch.lookup wd = some r →
    r < m.next_watch ∧ m.initialized_inotify = true

theorem ListsValid.lt_serial {m : CkFileMonitor} (h : m.ListsValid) {r : WatchRef} {id : Nat}
    (hid : id ∈ (m.watch r).notifies) : id < m.serial := by
  obtain ⟨notify, hlookup, _⟩ := h.listed hid
  exact h.serial hlookup

theorem ListsValid.shrink {m m' : CkFileMonitor} (h : m.ListsValid) (hs : Shrunk m m')
    (hlisted : m'.Listed) (hids : ∀ id notify, m'.notifies.lookup id = some notify →
      ∃ notify', m.notifies.lookup id = some notify') : m'.ListsValid := by
  refine ⟨hlisted, ?_, ?_, ?_⟩
  · intro id notify hid
    obtain ⟨notify', hid'⟩ := hids id notify hid
    rw [hs.serial]
    exact h.serial hid'
  · intro path r hr
    rw [hs.next_watch]
    exact h.by_path (hs.path hr)
  · intro wd r hr
    obtain ⟨hr', hinit⟩ := hs.wd hr
    rw [hs.next_watch, hinit]
    exact h.by_wd hr'

theorem Removed.listsValid {m m' : CkFileMonitor} {id : Nat} (hr : Removed m m' id)
    (h : m.ListsValid) : m'.ListsValid := by
  refine h.shrink hr.shrunk (hr.listed h.toListed) fun id' notify hid' => ?_
  rw [hr.lookup] at hid'
  split at hid'
  · cases hid'
  · exact ⟨notify, hid'⟩

/-- The watch for a new notify: the one of the path, or a new one without
    notifies. -/
theorem ListsValid.add_watch {m : CkFileMonitor} (h : m.ListsValid)
    (hinit : m.initialized_inotify = true) (path : CString) {wd : Int} (hwd : 0 ≤ wd) :
    ∃ m' r, m.file_monitor_add_watch_for_path path wd = (m', some r) ∧ m'.ListsValid ∧
      r < m'.next_watch ∧ m.next_watch ≤ m'.next_watch ∧ m'.notifies = m.notifies ∧
      m'.serial = m.serial ∧ m'.notify_events = m.notify_events ∧
      m'.initialized_inotify = true ∧ ∀ s < m.next_watch, m'.watch s = m.watch s := by
  rw [file_monitor_add_watch_for_path_eq m path hwd]
  have hlisted : ({ m with kernel := m.kernel.add_watch path wd } : CkFileMonitor).Listed :=
    ⟨h.listed, h.nodup⟩
  cases hpath : m.path_to_watch.lookup path with
  | some r =>
    refine ⟨_, r, rfl, ?_, h.by_path hpath, Nat.le_refl _, rfl, rfl, rfl, hinit, fun _ _ => rfl⟩
    exact h.shrink ⟨rfl, rfl, fun hs => hs, fun hs => ⟨hs, rfl⟩⟩ hlisted
      fun _ notify hid => ⟨notify, hid⟩
  | none =>
    refine ⟨_, m.next_watch, rfl, ⟨hlisted.new_watch path wd, h.serial, ?_, ?_⟩,
      Nat.lt_succ_self _, Nat.le_succ _, rfl, rfl, rfl, hinit,
      fun s hs => Function.update_of_ne (Nat.ne_of_lt hs) _ _⟩
    · intro path' s hs
      rcases HashTable.lookup_insert_iff.mp hs with ⟨_, rfl⟩ | ⟨_, hs⟩
      · exact Nat.lt_succ_self _
      · exact Nat.lt_succ_of_lt (h.by_path hs)
    · intro wd' s hs
      rcases HashTable.lookup_insert_iff.mp hs with ⟨_, rfl⟩ | ⟨_, hs⟩
      · exact ⟨Nat.lt_succ_self _, hinit⟩
      · exact ⟨Nat.lt_succ_of_lt (h.by_wd hs).1, hinit⟩

theorem ListsValid.add_notify_to_watch {m : CkFileMonitor} (h : m.ListsValid)
    (hserial : m.serial + 1 < 2 ^ 32) (r : WatchRef) (mask : List CkFileMonitorEvent)
    (notify_func : Option Nat) (user_data : Nat) :
    (m.add_notify_to_watch r mask notify_func user_data).ListsValid := by
  have hfree : m.notifies.lookup m.serial = none :=
    Option.eq_none_iff_forall_ne_some.mpr fun _ hid => Nat.lt_irrefl _ (h.serial hid)
  have hnext : (m.add_notify_to_watch r mask notify_func user_data).serial = m.serial + 1 :=
    Nat.mod_eq_of_lt hserial
  refine ⟨h.toListed.add_notify_to_watch hfree r mask notify_func user_data, ?_, h.by_path,
    h.by_wd⟩
  intro id notify hid
  rw [hnext]
  rcases HashTable.lookup_insert_iff.mp hid with ⟨rfl, _⟩ | ⟨_, hid⟩
  · exact Nat.lt_succ_self _
  · exact Nat.lt_succ_of_lt (h.serial hid)

/-- The ids have left the lists and the table; new ones are at the front. -/
structure Changed (gone : List Nat) (m m' : CkFileMonitor) : Prop where
  valid : m'.ListsValid
  initialized : m'.initialized_inotify = true
  queue : m'.notify_events = m.notify_events
  serial : m.serial ≤ m'.serial
  next_watch : m.next_watch ≤ m'.next_watch
  list : ∀ r < m.next_watch, ∃ new, (∀ id ∈ new, m.serial ≤ id) ∧
    (m'.watch r).notifies = new ++ (m.watch r).notifies.filter (· ∉ gone)
  lookup : ∀ id < m.serial,
    m'.notifies.lookup id = if id ∈ gone then none else m.notifies.lookup id

theorem Changed.refl {m : CkFileMonitor} (h : m.ListsValid)
    (hinit : m.initialized_inotify = true) : Changed [] m m where
  valid := h
  initialized := hinit
  queue := rfl
  serial := Nat.le_refl _
  next_watch := Nat.le_refl _
  list _ _ := ⟨[], by simp, by simp⟩
  lookup _ _ := by simp

theorem Changed.trans {gone gone' : List Nat} {m₁ m₂ m₃ : CkFileMonitor}
    (h : Changed gone m₁ m₂) (h' : Changed gone' m₂ m₃) : Changed (gone ++ gone') m₁ m₃ := by
  refine ⟨h'.valid, h'.initialized, h'.queue.trans h.queue, Nat.le_trans h.serial h'.serial,
    Nat.le_trans h.next_watch h'.next_watch, ?_, ?_⟩
  · -- Of the ids that are new in the first part, the second may remove some.
    intro r hr
    obtain ⟨new, hnew, hlist⟩ := h.list r hr
    obtain ⟨new', hnew', hlist'⟩ := h'.list r (Nat.lt_of_lt_of_le hr h.next_watch)
    refine ⟨new' ++ new.filter (· ∉ gone'), ?_, ?_⟩
    · intro id hid
      rcases List.mem_append.mp hid with hid | hid
      · exact Nat.le_trans h.serial (hnew' id hid)
      · exact hnew id (List.mem_of_mem_filter hid)
    · rw [hlist', hlist, List.filter_append, List.filter_filter, List.append_assoc]
      congr 2
      refine List.filter_congr fun id _ => ?_
      simp [Bool.and_comm]
  · intro id hid
    rw [h'.lookup id (Nat.lt_of_lt_of_le hid h.serial), h.lookup id hid]
    by_cases hgone : id ∈ gone <;> by_cases hgone' : id ∈ gone' <;> simp [hgone, hgone']

theorem Removed.changed {m m' : CkFileMonitor} {id : Nat} (hr : Removed m m' id)
    (h : m.ListsValid) (hinit : m.initialized_inotify = true) : Changed [id] m m' := by
  refine ⟨hr.listsValid h, hr.initialized.trans hinit, hr.queue,
    Nat.le_of_eq hr.shrunk.serial.symm, Nat.le_of_eq hr.shrunk.next_watch.symm, ?_, ?_⟩
  · intro r _
    refine ⟨[], by simp, ?_⟩
    rw [hr.list, (h.nodup r).erase_eq_filter, List.nil_append]
    exact List.filter_congr fun id' _ => by simp [bne, beq_eq_decide]
  · intro id' _
    rw [hr.lookup]
    simp only [List.mem_singleton]

theorem ListsValid.add_notify {m : CkFileMonitor} (h : m.ListsValid)
    (hinit : m.initialized_inotify = true) (hserial : m.serial + 1 < 2 ^ 32) (path : CString)
    (mask : List CkFileMonitorEvent) (notify_func : Option Nat) (user_data : Nat) (wd : Int) :
    Changed [] m (m.ck_file_monitor_add_notify path mask notify_func user_data wd).1 ∧
      (m.ck_file_monitor_add_notify path mask notify_func user_data wd).1.serial ≤
        m.serial + 1 := by
  rw [ck_file_monitor_add_notify, hinit]
  rcases Int.lt_or_le wd 0 with hneg | hwd
  · rw [file_monitor_add_watch_for_path, if_pos hneg]
    exact ⟨.refl h hinit, Nat.le_succ _⟩
  · obtain ⟨m', r, hadd, hvalid, hr, hnext, hnotifies, hsame, hqueue, hinit', hwatch⟩ :=
      h.add_watch hinit path hwd
    rw [hadd]
    have hsucc : (m'.add_notify_to_watch r mask notify_func user_data).serial = m.serial + 1 := by
      show (m'.serial + 1) % 2 ^ 32 = _
      rw [hsame, Nat.mod_eq_of_lt hserial]
    refine ⟨⟨hvalid.add_notify_to_watch (by rwa [hsame]) r mask notify_func user_data, hinit',
      hqueue, hsucc ▸ Nat.le_succ _, hnext, ?_, ?_⟩, Nat.le_of_eq hsucc⟩
    · -- The new id is at the front of the list of its watch.
      intro s hs
      refine ⟨if s = r then [m.serial] else [], ?_, ?_⟩
      · intro id hid
        split at hid
        · exact Nat.le_of_eq (List.mem_singleton.mp hid).symm
        · cases hid
      · show ((m'.add_notify_to_watch r mask notify_func user_data).watch s).notifies = _
        rw [add_notify_to_watch_watch, hwatch s hs, hsame]
        dsimp only
        split <;> simp
    · intro id hid
      show (m'.notifies.insert m'.serial _).lookup id = _
      rw [hnotifies, hsame, AList.lookup_insert_ne (Nat.ne_of_lt hid)]
      simp

/-! ## Section 6: All runs -/

/-- Watches are released; their lists are cleared. -/
theorem foldl_release_watch (rs : List WatchRef) (m : CkFileMonitor) :
    (rs.foldl monitor_release_watch m).notifies = m.notifies ∧
      (rs.foldl monitor_release_watch m).serial = m.serial ∧
      (rs.foldl monitor_release_watch m).next_watch = m.next_watch ∧
      ∀ s, ((rs.foldl monitor_release_watch m).watch s).notifies.Sublist
        (m.watch s).notifies := by
  induction rs generalizing m with
  | nil => exact ⟨rfl, rfl, rfl, fun _ => .refl _⟩
  | cons r rs ih =>
    obtain ⟨hnotifies, hserial, hnext, hlist⟩ := ih (m.monitor_release_watch r)
    refine ⟨hnotifies, hserial, hnext, fun s => (hlist s).trans ?_⟩
    show (Function.update m.watch r _ s).notifies.Sublist _
    rw [Function.update_apply]
    split
    · exact List.nil_sublist _
    · exact .refl _

theorem ListsValid.close_inotify {m : CkFileMonitor} (h : m.ListsValid) :
    m.close_inotify.ListsValid := by
  obtain ⟨hnotifies, hserial, hnext, hlist⟩ := foldl_release_watch m.path_to_watch.values m
  refine h.shrink ⟨hserial, hnext, nofun, nofun⟩ (h.toListed.shrink hlist ?_) ?_
  · exact fun _ id _ => congrArg (AList.lookup id) hnotifies
  · exact fun id notify hid => ⟨notify, by rwa [← hnotifies]⟩

theorem ListsValid.remove_ended_watch {m : CkFileMonitor} (h : m.ListsValid) (wd : Int) :
    (m.remove_ended_watch wd).ListsValid := by
  unfold CkFileMonitor.remove_ended_watch
  cases m.wd_to_watch.lookup wd with
  | none => exact h
  | some r =>
    dsimp only
    split
    · exact h
    · rename_i hwd
      obtain ⟨t, hfold, ht⟩ := foldl_detach (m.watch r).notifies m
      rw [hfold]
      have hshrunk : Shrunk m { m with notifies := t } :=
        ⟨rfl, rfl, fun hs => hs, fun hs => ⟨hs, rfl⟩⟩
      refine h.shrink (hshrunk.trans (shrunk_remove_watch _ r)) (h.toListed.ended hwd ht) ?_
      intro id notify hid
      rw [file_monitor_remove_watch_notifies, ht] at hid
      obtain ⟨notify', hid', _⟩ := Option.map_eq_some_iff.mp hid
      exact ⟨notify', hid'⟩

theorem ListsValid.foldl_remove_ended_watch {m : CkFileMonitor} (h : m.ListsValid)
    (wds : List Int) : (wds.foldl CkFileMonitor.remove_ended_watch m).ListsValid := by
  induction wds generalizing m with
  | nil => exact h
  | cons wd wds ih => exact ih (h.remove_ended_watch wd)

/-- The serial number does not wrap around in a run. -/
def Counting (m : CkFileMonitor) : Label → Prop
  | .add_notify .. => m.serial + 1 < 2 ^ 32
  | _ => True

theorem ListsValid.step {m m' : CkFileMonitor} (h : m.ListsValid) {label : Label}
    (hok : Counting m label) (hn : file_monitor_next m label = some m') : m'.ListsValid := by
  -- Most steps change neither the lists nor the tables.
  have hsame : ∀ {m' : CkFileMonitor}, m'.serial = m.serial → m'.next_watch = m.next_watch →
      m'.path_to_watch = m.path_to_watch → m'.wd_to_watch = m.wd_to_watch →
      m'.initialized_inotify = m.initialized_inotify → m'.watch = m.watch →
      m'.notifies = m.notifies → m'.ListsValid := by
    intro m' hserial hnext hpath hwd hinit hwatch hnotifies
    refine h.shrink ⟨hserial, hnext, ?_, ?_⟩ (h.toListed.shrink ?_ ?_) ?_
    · exact fun hr => by rwa [hpath] at hr
    · exact fun hr => ⟨by rwa [hwd] at hr, hinit⟩
    · exact fun r => by rw [hwatch]
    · exact fun _ id _ => congrArg (AList.lookup id) hnotifies
    · exact fun id notify hid => ⟨notify, by rwa [hnotifies] at hid⟩
  cases step_cases hn with
  | add_notify path mask notify_func user_data wd =>
    cases hinit : m.initialized_inotify with
    | false =>
      rw [ck_file_monitor_add_notify, hinit]
      exact h
    | true => exact (h.add_notify hinit hok path mask notify_func user_data wd).1.valid
  | remove_notify id =>
    rw [ck_file_monitor_remove_notify]
    split
    · exact h
    · exact (h.toListed.removed id).listsValid h
  | kernel_event ievent => exact hsame rfl rfl rfl rfl rfl rfl rfl
  | kernel_end wd => exact hsame rfl rfl rfl rfl rfl rfl rfl
  | inotify_data_pending n =>
    rw [CkFileMonitor.inotify_data_pending, foldl_handle_known_event]
    exact hsame rfl rfl rfl rfl rfl rfl rfl
  | read_error => exact h.close_inotify
  | emit_removals_in_idle =>
    have hstart : ({ m with remove_events := (m.remove_events.dropWhile (· ≠ 0)).tail } :
        CkFileMonitor).ListsValid := hsame rfl rfl rfl rfl rfl rfl rfl
    exact hstart.foldl_remove_ended_watch _
  | emit_event info rest hqueue => exact hsame rfl rfl rfl rfl rfl rfl rfl

/-- The lists are valid in all runs, whatever the kernel answers. -/
theorem listsValid_of_reachable {m : CkFileMonitor} (h : file_monitor.ReachableBy Counting m) :
    m.ListsValid := by
  refine LTS.System.ReachableBy.invariant (I := ListsValid) ?_ ?_ h
  · rintro m ⟨initialized_inotify, rfl⟩
    exact ⟨⟨nofun, fun _ => List.nodup_nil⟩, nofun, nofun, nofun⟩
  · exact fun m label m' hvalid hok hn => hvalid.step hok hn

end CkFileMonitor

end FileMonitor
