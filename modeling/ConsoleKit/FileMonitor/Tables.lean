import ConsoleKit.FileMonitor.Lists

/-! # The tables of the file monitor

    Both tables lead to the same watches as long as the kernel returns, for a
    path, the descriptor of its watch, or one that no watch has.  Then a
    notify loses its watch only if the kernel has ended that.

    This module provides:
    - `Consistent`, `QueuedOnce`, `KeepsWatches`: what is asked of the tables,
    - `Agreed`, `Orderly`: the answers of the kernel that the tables need,
    - `Valid`: the invariant,
    - `file_monitor_consistent`: the laws of all such runs.
-/

namespace FileMonitor

open Libc

namespace CkFileMonitor

/-! ## Section 1: The laws -/

/-- Both tables lead to the watch. -/
def Mapped (m : CkFileMonitor) (r : WatchRef) : Prop :=
  ∃ path, (m.watch r).path = some path ∧ m.path_to_watch.lookup path = some r ∧
    m.wd_to_watch.lookup (m.watch r).wd = some r

/-- A watch that one table leads to is the one that the other table has, under
    the descriptor that the kernel uses for the path.  A notify that has a
    watch is in its list, and both tables lead to it. -/
structure Consistent (m : CkFileMonitor) : Prop where
  by_wd : ∀ wd r, m.wd_to_watch.lookup wd = some r → (m.watch r).wd = wd ∧ m.Mapped r
  by_path : ∀ path r, m.path_to_watch.lookup path = some r →
    (m.watch r).path = some path ∧ m.Mapped r
  by_kernel : ∀ path r wd, m.path_to_watch.lookup path = some r →
    m.kernel.descriptor path = some wd → m.wd_to_watch.lookup wd = some r
  notify : ∀ id notify r, m.notifies.lookup id = some notify → notify.watch = some r →
    id ∈ (m.watch r).notifies ∧ m.Mapped r

/-- Every notify that is registered has a watch. -/
def AllBelong (m : CkFileMonitor) : Prop :=
  ∀ id notify, m.notifies.lookup id = some notify → ∃ r, notify.watch = some r ∧ m.Mapped r

/-- The descriptors of the watched paths. -/
def watched (m : CkFileMonitor) : List Int :=
  m.path_to_watch.values.map fun r => (m.watch r).wd

/-- Of what is read, the events on watched paths are queued, each one once. -/
def QueuedOnce (m : CkFileMonitor) : Prop :=
  ∀ n, (m.inotify_data_pending n).notify_events = m.notify_events ++
    (m.kernel.pending.take n).filterMap fun ievent =>
      if ievent.wd ∈ m.watched then
        (event_of_mask ievent.mask).map fun event => ⟨ievent.wd, event, ievent.name⟩
      else none

/-- A notify that stays registered keeps its watch, unless the kernel has
    ended that; a new one has a watch. -/
structure KeepsWatches (m m' : CkFileMonitor) : Prop where
  old : ∀ id notify notify' r, m.notifies.lookup id = some notify → notify.watch = some r →
    m'.notifies.lookup id = some notify' →
    notify'.watch = some r ∨ notify'.watch = none ∧ (m.watch r).wd ∉ m.kernel.live
  new : ∀ id notify', m'.notifies.lookup id = some notify' → m.notifies.lookup id = none →
    ∃ r, notify'.watch = some r

/-! ## Section 2: The condition and the invariant -/

/-- The kernel does not end the watches of this descriptor for something that
    has happened already. -/
def NotEnding (m : CkFileMonitor) (wd : Int) : Prop :=
  wd ∉ m.remove_events ∧ ∀ ievent ∈ m.kernel.pending, ievent.wd = wd → .IN_IGNORED ∉ ievent.mask

/-- The descriptor is that of the path's watch or, for a path without one, of
    no watch; its last end is not outstanding.  The serial number is not in
    use. -/
structure Agreed (m : CkFileMonitor) (path : CString) (wd : Int) : Prop where
  same : m.wd_to_watch.lookup wd = m.path_to_watch.lookup path
  not_ending : m.NotEnding wd
  serial : m.notifies.lookup m.serial = none

/-- The condition on runs. -/
def Orderly (m : CkFileMonitor) : Label → Prop
  | .add_notify path _ _ _ wd => 0 ≤ wd → m.Agreed path wd
  | _ => True

instance (m : CkFileMonitor) (wd : Int) : Decidable (m.NotEnding wd) :=
  inferInstanceAs (Decidable (_ ∧ ∀ ievent ∈ m.kernel.pending, _))

instance (m : CkFileMonitor) (path : CString) (wd : Int) : Decidable (m.Agreed path wd) :=
  decidable_of_iff
    (m.wd_to_watch.lookup wd = m.path_to_watch.lookup path ∧ m.NotEnding wd ∧
      m.notifies.lookup m.serial = none)
    ⟨fun h => ⟨h.1, h.2.1, h.2.2⟩, fun h => ⟨h.same, h.not_ending, h.serial⟩⟩

instance (m : CkFileMonitor) : (label : Label) → Decidable (Orderly m label)
  | .add_notify path _ _ _ wd => inferInstanceAs (Decidable (0 ≤ wd → m.Agreed path wd))
  | .remove_notify _ | .kernel_event _ | .kernel_end _ | .inotify_data_pending _
  | .read_error | .emit_removals_in_idle | .emit_event => .isTrue trivial

/-- The two tables are inverse to each other. -/
structure TablesValid (m : CkFileMonitor) : Prop where
  by_wd : ∀ {wd r}, m.wd_to_watch.lookup wd = some r → (m.watch r).wd = wd ∧ m.Mapped r
  by_path : ∀ {path r}, m.path_to_watch.lookup path = some r →
    (m.watch r).path = some path ∧ m.Mapped r
  wd_nonneg : ∀ {r}, m.Mapped r → 0 ≤ (m.watch r).wd
  below : ∀ {r}, m.Mapped r → r < m.next_watch

/-- The notifies of a watch are those that have it. -/
structure NotifiesValid (m : CkFileMonitor) : Prop extends Listed m where
  belongs : ∀ {id notify r}, m.notifies.lookup id = some notify → notify.watch = some r →
    id ∈ (m.watch r).notifies ∧ m.Mapped r

/-- A descriptor whose end is outstanding is not in use, and a path is watched
    under the descriptor that the kernel uses. -/
structure KernelValid (m : CkFileMonitor) : Prop where
  removed : ∀ {wd}, wd ∈ m.remove_events → wd ∉ m.kernel.live
  ended : ∀ {ievent}, ievent ∈ m.kernel.pending → .IN_IGNORED ∈ ievent.mask →
    ievent.wd ∉ m.kernel.live
  tracked : ∀ {path r wd}, m.path_to_watch.lookup path = some r →
    m.kernel.descriptor path = some wd → (m.watch r).wd = wd

structure Valid (m : CkFileMonitor) : Prop where
  tables : m.TablesValid
  notifies : m.NotifiesValid
  kernel : m.KernelValid

theorem Valid.consistent {m : CkFileMonitor} (h : m.Valid) : m.Consistent where
  by_wd _ _ := h.tables.by_wd
  by_path _ _ := h.tables.by_path
  by_kernel path r wd hpath hwd := by
    obtain ⟨_, _, _, hlookup⟩ := (h.tables.by_path hpath).2
    rwa [h.kernel.tracked hpath hwd] at hlookup
  notify _ _ _ := h.notifies.belongs

/-! ## Section 3: A watch is removed -/

theorem file_monitor_remove_watch_eq {m : CkFileMonitor} {r : WatchRef} {path : CString}
    (hwd : 0 ≤ (m.watch r).wd) (hpath : (m.watch r).path = some path) :
    m.file_monitor_remove_watch r =
      { m.setWatch r ⟨-1, none, []⟩ with
        path_to_watch := m.path_to_watch.erase path
        wd_to_watch := m.wd_to_watch.erase (m.watch r).wd
        kernel := m.kernel.rm_watch (m.watch r).wd } := by
  rw [file_monitor_remove_watch, if_neg (by omega), hpath]
  rfl

/-- The other watches stay in both tables. -/
theorem TablesValid.mapped_remove {m : CkFileMonitor} (h : m.TablesValid) {r s : WatchRef}
    (hr : m.Mapped r) (hs : s ≠ r) (hmapped : m.Mapped s) :
    (m.file_monitor_remove_watch r).Mapped s := by
  obtain ⟨path, hpath, hlookup, hwd⟩ := hr
  obtain ⟨path', hpath', hlookup', hwd'⟩ := hmapped
  rw [file_monitor_remove_watch_eq (h.wd_nonneg ⟨path, hpath, hlookup, hwd⟩) hpath]
  refine ⟨path', ?_, ?_, ?_⟩
  · simpa [hs] using hpath'
  · -- The two watches have different paths, since a path leads to one watch.
    refine HashTable.lookup_erase_iff.mpr ⟨?_, hlookup'⟩
    rintro rfl
    rw [hlookup] at hlookup'
    exact hs (Option.some.inj hlookup').symm
  · show (m.wd_to_watch.erase _).lookup (Function.update m.watch r _ s).wd = some s
    rw [Function.update_of_ne hs]
    refine HashTable.lookup_erase_iff.mpr ⟨?_, hwd'⟩
    intro heq
    rw [heq, hwd] at hwd'
    exact hs (Option.some.inj hwd').symm

theorem TablesValid.remove_watch {m : CkFileMonitor} (h : m.TablesValid) {r : WatchRef}
    (hr : m.Mapped r) : (m.file_monitor_remove_watch r).TablesValid := by
  have hnonneg := h.wd_nonneg hr
  obtain ⟨path, hpath, hlookup, hwd⟩ := hr
  have heq := file_monitor_remove_watch_eq hnonneg hpath
  -- What either table still has is another watch, which is as it was.
  have hby_wd : ∀ {wd s}, (m.file_monitor_remove_watch r).wd_to_watch.lookup wd = some s →
      s ≠ r ∧ (m.watch s).wd = wd ∧ m.Mapped s := by
    intro wd s hs
    rw [heq] at hs
    obtain ⟨hne, hs⟩ := HashTable.lookup_erase_iff.mp hs
    obtain ⟨hwd', hmapped⟩ := h.by_wd hs
    exact ⟨fun hsr => hne (by rw [← hwd', hsr]), hwd', hmapped⟩
  have hby_path : ∀ {path' s}, (m.file_monitor_remove_watch r).path_to_watch.lookup path' =
      some s → s ≠ r ∧ (m.watch s).path = some path' ∧ m.Mapped s := by
    intro path' s hs
    rw [heq] at hs
    obtain ⟨hne, hs⟩ := HashTable.lookup_erase_iff.mp hs
    obtain ⟨hpath', hmapped⟩ := h.by_path hs
    refine ⟨?_, hpath', hmapped⟩
    rintro rfl
    rw [hpath] at hpath'
    exact hne (Option.some.inj hpath').symm
  have hwatch : ∀ {s}, s ≠ r → (m.file_monitor_remove_watch r).watch s = m.watch s := by
    intro s hs
    rw [heq]
    exact Function.update_of_ne hs _ _
  have hmapped : ∀ {s}, (m.file_monitor_remove_watch r).Mapped s → s ≠ r ∧ m.Mapped s := by
    rintro s ⟨_, _, hs, _⟩
    exact ⟨(hby_path hs).1, (hby_path hs).2.2⟩
  constructor
  · intro wd s hs
    obtain ⟨hne, hwd', hs'⟩ := hby_wd hs
    rw [hwatch hne]
    exact ⟨hwd', h.mapped_remove ⟨path, hpath, hlookup, hwd⟩ hne hs'⟩
  · intro path' s hs
    obtain ⟨hne, hpath', hs'⟩ := hby_path hs
    rw [hwatch hne]
    exact ⟨hpath', h.mapped_remove ⟨path, hpath, hlookup, hwd⟩ hne hs'⟩
  · intro s hs
    rw [hwatch (hmapped hs).1]
    exact h.wd_nonneg (hmapped hs).2
  · intro s hs
    have hbelow := h.below (hmapped hs).2
    rw [heq]
    exact hbelow

/-- Without a notify that has the watch, the notifies stay valid. -/
theorem notifiesValid_remove_watch {m : CkFileMonitor} (htables : m.TablesValid) {r : WatchRef}
    (hr : m.Mapped r) (hlisted : (m.file_monitor_remove_watch r).Listed)
    (hbelongs : ∀ {id notify s}, m.notifies.lookup id = some notify → notify.watch = some s →
      s ≠ r ∧ id ∈ (m.watch s).notifies ∧ m.Mapped s) :
    (m.file_monitor_remove_watch r).NotifiesValid := by
  refine ⟨hlisted, ?_⟩
  intro id notify s hid hs
  rw [file_monitor_remove_watch_notifies] at hid
  obtain ⟨hne, hmem, hmapped⟩ := hbelongs hid hs
  rw [(m.file_monitor_remove_watch_lists r s).1 hne]
  exact ⟨hmem, htables.mapped_remove hr hne hmapped⟩

end CkFileMonitor

/-! ## Section 4: The kernel -/

namespace Kernel

theorem mem_live_add_watch {k : Kernel} {path : CString} {wd wd' : Int} :
    wd' ∈ (k.add_watch path wd).live ↔ wd' ∈ k.live ∨ wd' = wd := by
  unfold add_watch
  dsimp only
  split
  · rename_i hmem
    constructor
    · exact .inl
    · rintro (h | rfl)
      · exact h
      · exact hmem
  · rw [List.mem_cons, or_comm]

theorem mem_live_end_watch {k : Kernel} {wd wd' : Int} :
    wd' ∈ (k.end_watch wd).live ↔ wd' ∈ k.live ∧ wd' ≠ wd := by
  simp [end_watch]

theorem mem_live_rm_watch {k : Kernel} {wd wd' : Int} :
    wd' ∈ (k.rm_watch wd).live ↔ wd' ∈ k.live ∧ wd' ≠ wd := by
  unfold rm_watch
  split
  · exact mem_live_end_watch
  · rename_i hwd
    constructor
    · exact fun h => ⟨h, fun heq => hwd (heq ▸ h)⟩
    · exact And.left

theorem descriptor_end_watch {k : Kernel} {wd wd' : Int} {path : CString}
    (h : (k.end_watch wd).descriptor path = some wd') : k.descriptor path = some wd' := by
  rw [end_watch] at h
  dsimp only at h
  split at h
  · cases h
  · exact h

theorem descriptor_rm_watch {k : Kernel} {wd wd' : Int} {path : CString}
    (h : (k.rm_watch wd).descriptor path = some wd') : k.descriptor path = some wd' := by
  unfold rm_watch at h
  split at h
  · exact descriptor_end_watch h
  · exact h

theorem mem_pending_end_watch {k : Kernel} {wd : Int} {ievent : InotifyEvent}
    (h : ievent ∈ (k.end_watch wd).pending) :
    ievent ∈ k.pending ∨ ievent.wd = wd := by
  rw [end_watch, List.mem_append, List.mem_singleton] at h
  exact h.imp_right fun h => by rw [h]

theorem mem_pending_rm_watch {k : Kernel} {wd : Int} {ievent : InotifyEvent}
    (h : ievent ∈ (k.rm_watch wd).pending) :
    ievent ∈ k.pending ∨ ievent.wd = wd := by
  unfold rm_watch at h
  split at h
  · exact mem_pending_end_watch h
  · exact .inl h

end Kernel

namespace CkFileMonitor

/-- Watches and descriptors may go. -/
theorem KernelValid.mono {m m' : CkFileMonitor} (h : m.KernelValid)
    (hremove : ∀ wd ∈ m'.remove_events, wd ∈ m.remove_events)
    (hlive : ∀ wd ∈ m'.kernel.live, wd ∈ m.kernel.live)
    (hpending : ∀ ievent ∈ m'.kernel.pending, ievent ∈ m.kernel.pending ∨
      ievent.wd ∉ m'.kernel.live)
    (hpath : ∀ path r, m'.path_to_watch.lookup path = some r →
      m.path_to_watch.lookup path = some r ∧ (m'.watch r).wd = (m.watch r).wd)
    (hdescriptor : ∀ path wd, m'.kernel.descriptor path = some wd →
      m.kernel.descriptor path = some wd) : m'.KernelValid := by
  constructor
  · intro wd hwd hmem
    exact h.removed (hremove wd hwd) (hlive wd hmem)
  · intro ievent hevent hignored hmem
    rcases hpending ievent hevent with hold | hdead
    · exact h.ended hold hignored (hlive _ hmem)
    · exact hdead hmem
  · intro path r wd hlookup hwd
    obtain ⟨hlookup', hsame⟩ := hpath path r hlookup
    rw [hsame]
    exact h.tracked hlookup' (hdescriptor path wd hwd)

theorem KernelValid.remove_watch {m : CkFileMonitor} (h : m.KernelValid)
    (htables : m.TablesValid) {r : WatchRef} (hr : m.Mapped r) :
    (m.file_monitor_remove_watch r).KernelValid := by
  have hnonneg := htables.wd_nonneg hr
  obtain ⟨path, hpath, _⟩ := id hr
  rw [file_monitor_remove_watch_eq hnonneg hpath]
  apply h.mono
  case hremove => exact fun wd hwd => hwd
  case hlive => exact fun wd hwd => (Kernel.mem_live_rm_watch.mp hwd).1
  case hpending =>
    intro ievent hevent
    refine (Kernel.mem_pending_rm_watch hevent).imp_right fun heq hlive => ?_
    exact (Kernel.mem_live_rm_watch.mp hlive).2 heq
  case hpath =>
    intro path' s hs
    obtain ⟨hne, hs'⟩ := HashTable.lookup_erase_iff.mp hs
    refine ⟨hs', ?_⟩
    have hsr : s ≠ r := by
      rintro rfl
      rw [(htables.by_path hs').1] at hpath
      exact hne (Option.some.inj hpath)
    exact congrArg FileInotifyWatch.wd (Function.update_of_ne hsr _ _)
  case hdescriptor => exact fun path' wd => Kernel.descriptor_rm_watch

/-! ## Section 5: Removal of notifies -/

/-- Only the notifies and the list of a watch change. -/
theorem TablesValid.of_lists {m m' : CkFileMonitor} (h : m.TablesValid)
    (hwd : m'.wd_to_watch = m.wd_to_watch) (hpath : m'.path_to_watch = m.path_to_watch)
    (hnext : m'.next_watch = m.next_watch)
    (hwatch : ∀ r, (m'.watch r).wd = (m.watch r).wd ∧ (m'.watch r).path = (m.watch r).path) :
    m'.TablesValid ∧ ∀ r, m'.Mapped r ↔ m.Mapped r := by
  have hmapped : ∀ r, m'.Mapped r ↔ m.Mapped r := by
    intro r
    unfold Mapped
    rw [hwd, hpath, (hwatch r).1, (hwatch r).2]
  refine ⟨⟨?_, ?_, ?_, ?_⟩, hmapped⟩
  · intro wd r hr
    rw [hwd] at hr
    rw [(hwatch r).1, hmapped]
    exact h.by_wd hr
  · intro path r hr
    rw [hpath] at hr
    rw [(hwatch r).2, hmapped]
    exact h.by_path hr
  · intro r hr
    rw [(hwatch r).1]
    exact h.wd_nonneg ((hmapped r).mp hr)
  · intro r hr
    rw [hnext]
    exact h.below ((hmapped r).mp hr)

/-- Neither the tables nor the notifies change. -/
theorem Valid.of_kernel {m m' : CkFileMonitor} (h : m.Valid)
    (hwd : m'.wd_to_watch = m.wd_to_watch) (hpath : m'.path_to_watch = m.path_to_watch)
    (hnext : m'.next_watch = m.next_watch) (hwatch : m'.watch = m.watch)
    (hnotifies : m'.notifies = m.notifies) (hkernel : m'.KernelValid) : m'.Valid := by
  obtain ⟨htables, hmapped⟩ := h.tables.of_lists hwd hpath hnext fun r => by
    rw [hwatch]
    exact ⟨rfl, rfl⟩
  refine ⟨htables, ⟨h.notifies.shrink ?_ ?_, ?_⟩, hkernel⟩
  · exact fun r => by rw [hwatch]
  · exact fun _ id _ => congrArg (AList.lookup id) hnotifies
  · intro id notify r hid hr
    rw [hnotifies] at hid
    rw [hwatch, hmapped]
    exact h.notifies.belongs hid hr

theorem TablesValid.unregister {m : CkFileMonitor} (h : m.TablesValid) (id : Nat)
    (r : WatchRef) :
    (m.unregister id r).TablesValid ∧ ∀ s, (m.unregister id r).Mapped s ↔ m.Mapped s :=
  h.of_lists rfl rfl rfl fun s => by
    rw [unregister_watch]
    exact ⟨rfl, rfl⟩

theorem Valid.unregister {m : CkFileMonitor} (h : m.Valid) {id : Nat} {notify : FileMonitorNotify}
    {r : WatchRef} (hid : m.notifies.lookup id = some notify) (hr : notify.watch = some r) :
    (m.unregister id r).Valid := by
  -- The tables keep the watch; only its list changes.
  obtain ⟨htables, hmapped⟩ := h.tables.unregister id r
  have hremoved := h.notifies.removed_unregister hid hr
  refine ⟨htables, ⟨hremoved.listed h.notifies.toListed, ?_⟩, ?_⟩
  · intro id' notify' s hid' hs
    obtain ⟨hne, hid'⟩ := HashTable.lookup_erase_iff.mp hid'
    obtain ⟨hin, hs'⟩ := h.notifies.belongs hid' hs
    rw [hremoved.list, List.mem_erase_of_ne hne]
    exact ⟨hin, (hmapped s).mpr hs'⟩
  · apply h.kernel.mono
    case hremove => exact fun wd hwd => hwd
    case hlive => exact fun wd hwd => hwd
    case hpending => exact fun ievent hevent => .inl hevent
    case hpath =>
      intro path s hs
      refine ⟨hs, ?_⟩
      rw [unregister_watch]
    case hdescriptor => exact fun path wd hwd => hwd

theorem Valid.remove_notify {m : CkFileMonitor} (h : m.Valid) (id : Nat) :
    (m.file_monitor_remove_notify id).Valid := by
  have hlisted := (h.notifies.removed id).listed h.notifies.toListed
  cases hid : m.notifies.lookup id with
  | none =>
    rw [file_monitor_remove_notify, hid]
    exact h
  | some notify =>
    rw [file_monitor_remove_notify_eq hid] at hlisted ⊢
    cases hr : notify.watch with
    | none =>
      -- The kernel has ended its watch before.
      rw [hr] at hlisted
      obtain ⟨htables, _⟩ := h.tables.of_lists
        (rfl : ({ m with notifies := m.notifies.erase id } : CkFileMonitor).wd_to_watch = _)
        rfl rfl fun s => ⟨rfl, rfl⟩
      refine ⟨htables, ⟨hlisted, ?_⟩, ⟨h.kernel.removed, h.kernel.ended, h.kernel.tracked⟩⟩
      intro id' notify' s hid' hs
      exact h.notifies.belongs (HashTable.lookup_erase_iff.mp hid').2 hs
    | some r =>
      have hvalid := h.unregister hid hr
      have hmapped := ((h.tables.unregister id r).2 r).mpr (h.notifies.belongs hid hr).2
      rw [hr, Option.elim_some] at hlisted
      rw [Option.elim_some]
      split
      · -- It was the last notify of the watch.
        rename_i hempty
        rw [if_pos hempty] at hlisted
        refine ⟨hvalid.tables.remove_watch hmapped,
          notifiesValid_remove_watch hvalid.tables hmapped hlisted ?_,
          hvalid.kernel.remove_watch hvalid.tables hmapped⟩
        intro id' notify' s hid' hs
        obtain ⟨hin, hs'⟩ := hvalid.notifies.belongs hid' hs
        refine ⟨?_, hin, hs'⟩
        rintro rfl
        rw [hempty] at hin
        cases hin
      · exact hvalid

/-! ## Section 6: Watches that have ended -/

/-- Some notifies have lost watches with these descriptors. -/
structure Cleaned (wds : List Int) (m m' : CkFileMonitor) : Prop where
  notify : ∀ {id notify'}, m'.notifies.lookup id = some notify' →
    ∃ notify, m.notifies.lookup id = some notify ∧ (notify'.watch = notify.watch ∨
      notify'.watch = none ∧ ∃ r, notify.watch = some r ∧ (m.watch r).wd ∈ wds)
  watch : ∀ {r}, m'.Mapped r → (m'.watch r).wd = (m.watch r).wd

theorem Cleaned.refl (wds : List Int) (m : CkFileMonitor) : Cleaned wds m m :=
  ⟨fun h => ⟨_, h, .inl rfl⟩, fun _ => rfl⟩

theorem Cleaned.trans {wds : List Int} {m₁ m₂ m₃ : CkFileMonitor} (h : Cleaned wds m₁ m₂)
    (h' : Cleaned wds m₂ m₃) (hvalid : m₂.Valid) (hmapped : ∀ {r}, m₃.Mapped r → m₂.Mapped r) :
    Cleaned wds m₁ m₃ := by
  constructor
  · intro id notify₃ h₃
    obtain ⟨notify₂, h₂, hwatch⟩ := h'.notify h₃
    obtain ⟨notify₁, h₁, hwatch'⟩ := h.notify h₂
    refine ⟨notify₁, h₁, ?_⟩
    rcases hwatch with heq | ⟨hnone, r, hr, hwd⟩
    · rwa [heq]
    · -- The watch that the second part takes is one that the first part left.
      rcases hwatch' with heq' | ⟨hnone', _⟩
      · refine .inr ⟨hnone, r, heq' ▸ hr, ?_⟩
        rwa [← h.watch (hvalid.notifies.belongs h₂ hr).2]
      · rw [hr] at hnone'
        cases hnone'
  · intro r hr
    rw [h'.watch hr, h.watch (hmapped hr)]

/-- What is mapped after a removal was mapped before. -/
theorem TablesValid.mapped_of_remove {m : CkFileMonitor} (h : m.TablesValid) {r s : WatchRef}
    (hr : m.Mapped r) (hs : (m.file_monitor_remove_watch r).Mapped s) :
    m.Mapped s ∧ (m.file_monitor_remove_watch r).watch s = m.watch s := by
  have hnonneg := h.wd_nonneg hr
  obtain ⟨path, hpath, _⟩ := id hr
  rw [file_monitor_remove_watch_eq hnonneg hpath] at hs ⊢
  obtain ⟨path', _, hlookup, _⟩ := hs
  obtain ⟨hne, hlookup⟩ := HashTable.lookup_erase_iff.mp hlookup
  obtain ⟨hpath', hmapped⟩ := h.by_path hlookup
  refine ⟨hmapped, Function.update_of_ne ?_ _ _⟩
  rintro rfl
  rw [hpath] at hpath'
  exact hne (Option.some.inj hpath').symm

theorem Valid.remove_ended_watch {m : CkFileMonitor} (h : m.Valid) (wd : Int) :
    (m.remove_ended_watch wd).Valid ∧ Cleaned [wd] m (m.remove_ended_watch wd) ∧
      ∀ {s}, (m.remove_ended_watch wd).Mapped s → m.Mapped s := by
  unfold CkFileMonitor.remove_ended_watch
  cases hr : m.wd_to_watch.lookup wd with
  | none => exact ⟨h, .refl _ m, id⟩
  | some r =>
    obtain ⟨hwd, hmapped⟩ := h.tables.by_wd hr
    obtain ⟨path, hpath, _⟩ := id hmapped
    have hne : (m.watch r).wd ≠ -1 := by
      have := h.tables.wd_nonneg hmapped
      omega
    dsimp only
    rw [if_neg hne]
    obtain ⟨t, hfold, ht⟩ := foldl_detach (m.watch r).notifies m
    rw [hfold]
    obtain ⟨htables, hsame⟩ := h.tables.of_lists
      (rfl : ({ m with notifies := t } : CkFileMonitor).wd_to_watch = _) rfl rfl fun s => ⟨rfl, rfl⟩
    have hmapped' : ({ m with notifies := t } : CkFileMonitor).Mapped r := (hsame r).mpr hmapped
    have hkernel : ({ m with notifies := t } : CkFileMonitor).KernelValid :=
      ⟨h.kernel.removed, h.kernel.ended, h.kernel.tracked⟩
    -- First the notifies lose the watch, then the watch goes.
    refine ⟨⟨htables.remove_watch hmapped', ?_, hkernel.remove_watch htables hmapped'⟩,
      ⟨?_, ?_⟩, ?_⟩
    · refine notifiesValid_remove_watch htables hmapped' (h.notifies.ended hne ht) ?_
      intro id notify s hid hs
      obtain ⟨notify₀, hid₀, rfl⟩ := Option.map_eq_some_iff.mp ((ht id).symm.trans hid)
      split at hs
      · cases hs
      · rename_i hnotin
        obtain ⟨hin, hs'⟩ := h.notifies.belongs hid₀ hs
        refine ⟨?_, hin, (hsame s).mpr hs'⟩
        rintro rfl
        exact hnotin hin
    · intro id notify' hid
      have hid' : t.lookup id = some notify' := by
        rw [file_monitor_remove_watch_eq (htables.wd_nonneg hmapped') hpath] at hid
        exact hid
      obtain ⟨notify, hid₀, rfl⟩ := Option.map_eq_some_iff.mp ((ht id).symm.trans hid')
      refine ⟨notify, hid₀, ?_⟩
      split
      · rename_i hin
        have hmem : (m.watch r).wd ∈ [wd] := List.mem_singleton.mpr hwd
        exact .inr ⟨rfl, r, h.notifies.watch_eq hin hid₀, hmem⟩
      · exact .inl rfl
    · intro s hs
      exact congrArg FileInotifyWatch.wd (htables.mapped_of_remove hmapped' hs).2
    · intro s hs
      exact (hsame s).mp (htables.mapped_of_remove hmapped' hs).1

theorem Cleaned.mono {wds wds' : List Int} {m m' : CkFileMonitor} (h : Cleaned wds m m')
    (hsub : ∀ wd ∈ wds, wd ∈ wds') : Cleaned wds' m m' := by
  refine ⟨fun hid => ?_, h.watch⟩
  obtain ⟨notify, hid', hwatch⟩ := h.notify hid
  refine ⟨notify, hid', hwatch.imp_right ?_⟩
  rintro ⟨hnone, r, hr, hwd⟩
  exact ⟨hnone, r, hr, hsub _ hwd⟩

theorem Valid.foldl_remove_ended_watch {m : CkFileMonitor} (h : m.Valid) (wds : List Int) :
    (wds.foldl CkFileMonitor.remove_ended_watch m).Valid ∧
      Cleaned wds m (wds.foldl CkFileMonitor.remove_ended_watch m) ∧
      ∀ {s}, (wds.foldl CkFileMonitor.remove_ended_watch m).Mapped s → m.Mapped s := by
  induction wds generalizing m with
  | nil => exact ⟨h, .refl _ m, id⟩
  | cons wd wds ih =>
    obtain ⟨hvalid, hcleaned, hmapped⟩ := h.remove_ended_watch wd
    obtain ⟨hvalid', hcleaned', hmapped'⟩ := ih hvalid
    rw [List.foldl_cons]
    refine ⟨hvalid', ?_, fun hs => hmapped (hmapped' hs)⟩
    refine Cleaned.trans (hcleaned.mono ?_) (hcleaned'.mono ?_) hvalid hmapped'
    · exact fun wd' hwd' => by simp [List.mem_singleton.mp hwd']
    · exact fun wd' hwd' => List.mem_cons_of_mem _ hwd'

theorem Valid.emit_removals_in_idle {m : CkFileMonitor} (h : m.Valid) :
    m.emit_removals_in_idle.Valid ∧ KeepsWatches m m.emit_removals_in_idle := by
  have hstart : ({ m with remove_events := (m.remove_events.dropWhile (· ≠ 0)).tail } :
      CkFileMonitor).Valid := by
    refine h.of_kernel rfl rfl rfl rfl rfl ⟨fun hwd => ?_, h.kernel.ended, h.kernel.tracked⟩
    exact h.kernel.removed ((List.dropWhile_sublist _).subset (List.mem_of_mem_tail hwd))
  -- Descriptors up to a 0 are taken from the queue.  None of them is in use.
  obtain ⟨hvalid, hcleaned, _⟩ :=
    hstart.foldl_remove_ended_watch (m.remove_events.takeWhile (· ≠ 0))
  refine ⟨hvalid, ⟨?_, ?_⟩⟩
  · intro id notify notify' r hid hr hid'
    obtain ⟨notify₀, hid₀, hwatch⟩ := hcleaned.notify hid'
    obtain rfl : notify = notify₀ := Option.some.inj (hid.symm.trans hid₀)
    rcases hwatch with heq | ⟨hnone, r', hr', hwd⟩
    · exact .inl (heq.trans hr)
    · obtain rfl : r = r' := Option.some.inj (hr.symm.trans hr')
      exact .inr ⟨hnone, h.kernel.removed ((List.takeWhile_sublist _).subset hwd)⟩
  · intro id notify' hid' hnone
    obtain ⟨notify₀, hid₀, _⟩ := hcleaned.notify hid'
    rw [show m.notifies.lookup id = some notify₀ from hid₀] at hnone
    cases hnone

/-! ## Section 7: New notifies -/

/-- The kernel's part of a new watch. -/
theorem KernelValid.add_watch {m : CkFileMonitor} (h : m.KernelValid) {path : CString} {wd : Int}
    (hending : m.NotEnding wd)
    (hpath : ∀ r, m.path_to_watch.lookup path = some r → (m.watch r).wd = wd) :
    ({ m with kernel := m.kernel.add_watch path wd } : CkFileMonitor).KernelValid := by
  constructor
  · intro wd' hwd' hlive
    rcases Kernel.mem_live_add_watch.mp hlive with hlive | rfl
    · exact h.removed hwd' hlive
    · exact hending.1 hwd'
  · intro ievent hevent hignored hlive
    rcases Kernel.mem_live_add_watch.mp hlive with hlive | heq
    · exact h.ended hevent hignored hlive
    · exact hending.2 ievent hevent heq hignored
  · intro path' r wd' hlookup hdescriptor
    by_cases hp : path' = path
    · subst hp
      rw [hpath r hlookup]
      simpa [Kernel.add_watch] using hdescriptor
    · refine h.tracked hlookup ?_
      simpa [Kernel.add_watch, hp] using hdescriptor

/-- Both tables lead to the new watch, and to the old ones as before. -/
theorem TablesValid.new_watch {m : CkFileMonitor} (h : m.TablesValid) {path : CString} {wd : Int}
    (hwd : 0 ≤ wd) (hpath : m.path_to_watch.lookup path = none)
    (hfree : m.wd_to_watch.lookup wd = none) :
    (m.new_watch path wd).TablesValid ∧ (m.new_watch path wd).Mapped m.next_watch ∧
      ∀ {s}, m.Mapped s → (m.new_watch path wd).watch s = m.watch s ∧
        (m.new_watch path wd).Mapped s := by
  have hwatch : ∀ {s}, m.Mapped s → (m.new_watch path wd).watch s = m.watch s :=
    fun hs => Function.update_of_ne (Nat.ne_of_lt (h.below hs)) _ _
  have hself : (m.new_watch path wd).watch m.next_watch = ⟨wd, some path, []⟩ :=
    Function.update_self _ _ _
  have hnew : (m.new_watch path wd).Mapped m.next_watch := by
    refine ⟨path, by rw [hself], AList.lookup_insert _, ?_⟩
    rw [hself]
    exact AList.lookup_insert _
  -- Neither the path nor the descriptor is that of an old watch.
  have hold : ∀ {s}, m.Mapped s → (m.new_watch path wd).Mapped s := by
    intro s hs
    obtain ⟨path', hpath', hlookup, hwd'⟩ := id hs
    refine ⟨path', by rw [hwatch hs, hpath'], ?_, ?_⟩
    · refine HashTable.lookup_insert_iff.mpr (.inr ⟨?_, hlookup⟩)
      rintro rfl
      rw [hpath] at hlookup
      cases hlookup
    · rw [hwatch hs]
      refine HashTable.lookup_insert_iff.mpr (.inr ⟨?_, hwd'⟩)
      intro heq
      rw [heq, hfree] at hwd'
      cases hwd'
  have hmapped : ∀ {s}, (m.new_watch path wd).Mapped s → s = m.next_watch ∨ m.Mapped s := by
    rintro s ⟨path', _, hs, _⟩
    exact (HashTable.lookup_insert_iff.mp hs).imp And.right fun hs => (h.by_path hs.2).2
  refine ⟨⟨?_, ?_, ?_, ?_⟩, hnew, fun hs => ⟨hwatch hs, hold hs⟩⟩
  · intro wd' s hs
    rcases HashTable.lookup_insert_iff.mp hs with ⟨rfl, rfl⟩ | ⟨_, hs⟩
    · rw [hself]
      exact ⟨rfl, hnew⟩
    · obtain ⟨hwd', hs'⟩ := h.by_wd hs
      rw [hwatch hs']
      exact ⟨hwd', hold hs'⟩
  · intro path' s hs
    rcases HashTable.lookup_insert_iff.mp hs with ⟨rfl, rfl⟩ | ⟨_, hs⟩
    · rw [hself]
      exact ⟨rfl, hnew⟩
    · obtain ⟨hpath', hs'⟩ := h.by_path hs
      rw [hwatch hs']
      exact ⟨hpath', hold hs'⟩
  · intro s hs
    rcases hmapped hs with rfl | hs
    · rw [hself]
      exact hwd
    · rw [hwatch hs]
      exact h.wd_nonneg hs
  · intro s hs
    show s < m.next_watch + 1
    rcases hmapped hs with rfl | hs
    · exact Nat.lt_succ_self _
    · exact Nat.lt_succ_of_lt (h.below hs)

theorem Valid.new_watch {m : CkFileMonitor} (h : m.Valid) {path : CString} {wd : Int}
    (hwd : 0 ≤ wd) (hpath : m.path_to_watch.lookup path = none)
    (hfree : m.wd_to_watch.lookup wd = none)
    (hkernel : ∀ wd', m.kernel.descriptor path = some wd' → wd = wd') :
    (m.new_watch path wd).Valid ∧ (m.new_watch path wd).Mapped m.next_watch := by
  obtain ⟨htables, hnew, hold⟩ := h.tables.new_watch hwd hpath hfree
  refine ⟨⟨htables, ⟨h.notifies.toListed.new_watch path wd, ?_⟩,
    ⟨h.kernel.removed, h.kernel.ended, ?_⟩⟩, hnew⟩
  · intro id notify s hid hs
    obtain ⟨hin, hs'⟩ := h.notifies.belongs hid hs
    rw [(hold hs').1]
    exact ⟨hin, (hold hs').2⟩
  · intro path' s wd' hs hdescriptor
    rcases HashTable.lookup_insert_iff.mp hs with ⟨rfl, rfl⟩ | ⟨_, hs⟩
    · show (Function.update m.watch m.next_watch _ m.next_watch).wd = wd'
      rw [Function.update_self]
      exact hkernel wd' hdescriptor
    · rw [(hold (h.tables.by_path hs).2).1]
      exact h.kernel.tracked hs hdescriptor

/-- The path has a watch afterwards, and the notifies are as before. -/
theorem Valid.add_watch {m : CkFileMonitor} (h : m.Valid) {path : CString} {wd : Int}
    (hwd : 0 ≤ wd) (ha : m.Agreed path wd) :
    ∃ m' r, m.file_monitor_add_watch_for_path path wd = (m', some r) ∧ m'.Valid ∧ m'.Mapped r ∧
      m'.notifies = m.notifies ∧ m'.serial = m.serial := by
  have htracked : ∀ r, m.path_to_watch.lookup path = some r → (m.watch r).wd = wd :=
    fun r hr => (h.tables.by_wd (ha.same.trans hr)).1
  have hvalid : ({ m with kernel := m.kernel.add_watch path wd } : CkFileMonitor).Valid :=
    h.of_kernel rfl rfl rfl rfl rfl (h.kernel.add_watch ha.not_ending htracked)
  rw [file_monitor_add_watch_for_path_eq m path hwd]
  cases hpath : m.path_to_watch.lookup path with
  | none =>
    have hdescriptor : ∀ wd', (m.kernel.add_watch path wd).descriptor path = some wd' → wd = wd' :=
      fun wd' h' => by simpa [Kernel.add_watch] using h'
    obtain ⟨hnew, hmapped⟩ := hvalid.new_watch hwd hpath (ha.same.trans hpath) hdescriptor
    exact ⟨_, _, rfl, hnew, hmapped, rfl, rfl⟩
  | some r => exact ⟨_, r, rfl, hvalid, (hvalid.tables.by_path hpath).2, rfl, rfl⟩

theorem Valid.add_notify_to_watch {m : CkFileMonitor} (h : m.Valid) {r : WatchRef}
    (hr : m.Mapped r) (hserial : m.notifies.lookup m.serial = none)
    (mask : List CkFileMonitorEvent) (notify_func : Option Nat) (user_data : Nat) :
    (m.add_notify_to_watch r mask notify_func user_data).Valid := by
  have hwatch := m.add_notify_to_watch_watch r mask notify_func user_data
  obtain ⟨htables, hmapped⟩ := h.tables.of_lists
    (rfl : (m.add_notify_to_watch r mask notify_func user_data).wd_to_watch = _) rfl rfl
    fun s => by rw [hwatch]; exact ⟨rfl, rfl⟩
  refine ⟨htables, ⟨h.notifies.toListed.add_notify_to_watch hserial r mask notify_func user_data,
    ?_⟩, ?_⟩
  · intro id notify s hid hs
    rw [hwatch, hmapped]
    rcases HashTable.lookup_insert_iff.mp hid with ⟨rfl, rfl⟩ | ⟨_, hid⟩
    · obtain rfl := Option.some.inj hs
      exact ⟨by simp, hr⟩
    · obtain ⟨hin, hs'⟩ := h.notifies.belongs hid hs
      refine ⟨?_, hs'⟩
      dsimp only
      split
      · exact List.mem_cons_of_mem _ hin
      · exact hin
  · apply h.kernel.mono
    case hremove => exact fun wd hwd => hwd
    case hlive => exact fun wd hwd => hwd
    case hpending => exact fun ievent hevent => .inl hevent
    case hpath =>
      intro path s hs
      refine ⟨hs, ?_⟩
      rw [hwatch]
    case hdescriptor => exact fun path wd hwd => hwd

/-! ## Section 8: Events -/

/-- A known descriptor is that of a watched path. -/
theorem TablesValid.mem_watched {m : CkFileMonitor} (h : m.TablesValid) (wd : Int) :
    wd ∈ m.watched ↔ (m.wd_to_watch.lookup wd).isSome = true := by
  unfold watched
  rw [List.mem_map, Option.isSome_iff_exists]
  constructor
  · rintro ⟨r, hr, rfl⟩
    obtain ⟨path, hpath⟩ := HashTable.mem_values.mp hr
    obtain ⟨_, _, _, hwd⟩ := (h.by_path hpath).2
    exact ⟨r, hwd⟩
  · rintro ⟨r, hr⟩
    obtain ⟨hwd, path, _, hpath, _⟩ := h.by_wd hr
    exact ⟨r, HashTable.mem_values.mpr ⟨path, hpath⟩, hwd⟩

theorem Valid.queued_once {m : CkFileMonitor} (h : m.Valid) : m.QueuedOnce := by
  intro n
  rw [inotify_data_pending, foldl_handle_known_event]
  dsimp only
  congr 2
  funext ievent
  simp only [h.tables.mem_watched]

theorem Valid.inotify_data_pending {m : CkFileMonitor} (h : m.Valid) (n : Nat) :
    (m.inotify_data_pending n).Valid := by
  rw [CkFileMonitor.inotify_data_pending, foldl_handle_known_event]
  refine h.of_kernel rfl rfl rfl rfl rfl ⟨?_, ?_, h.kernel.tracked⟩
  · -- A descriptor that is queued for removal comes from an `IN_IGNORED`.
    intro wd hwd
    rcases List.mem_append.mp hwd with hwd | hwd
    · exact h.kernel.removed hwd
    · obtain ⟨ievent, hevent, rfl⟩ := List.mem_map.mp hwd
      obtain ⟨hevent, hignored⟩ := List.mem_filter.mp hevent
      rw [Bool.and_eq_true, decide_eq_true_iff] at hignored
      exact h.kernel.ended (List.mem_of_mem_take hevent) hignored.2
  · exact fun hevent => h.kernel.ended (List.mem_of_mem_drop hevent)

theorem Valid.kernel_event {m : CkFileMonitor} (h : m.Valid) {ievent : InotifyEvent}
    (hignored : .IN_IGNORED ∉ ievent.mask) :
    ({ m with kernel := { m.kernel with pending := m.kernel.pending ++ [ievent] } } :
      CkFileMonitor).Valid := by
  refine h.of_kernel rfl rfl rfl rfl rfl ⟨h.kernel.removed, ?_, h.kernel.tracked⟩
  intro ievent' hevent hignored'
  rcases List.mem_append.mp hevent with hevent | hevent
  · exact h.kernel.ended hevent hignored'
  · rw [List.mem_singleton.mp hevent] at hignored'
    exact absurd hignored' hignored

theorem Valid.kernel_end {m : CkFileMonitor} (h : m.Valid) (wd : Int) :
    ({ m with kernel := m.kernel.end_watch wd } : CkFileMonitor).Valid := by
  refine h.of_kernel rfl rfl rfl rfl rfl ?_
  apply h.kernel.mono
  case hremove => exact fun wd' hwd' => hwd'
  case hlive => exact fun wd' hwd' => (Kernel.mem_live_end_watch.mp hwd').1
  case hpending =>
    intro ievent hevent
    refine (Kernel.mem_pending_end_watch hevent).imp_right fun heq hlive => ?_
    exact (Kernel.mem_live_end_watch.mp hlive).2 heq
  case hpath => exact fun path s hs => ⟨hs, rfl⟩
  case hdescriptor => exact fun path wd' => Kernel.descriptor_end_watch

/-! ## Section 9: All runs -/

theorem valid_init (initialized_inotify : Bool) :
    (ck_file_monitor_init initialized_inotify).Valid := by
  have hnone : ∀ r, ¬ (ck_file_monitor_init initialized_inotify).Mapped r := by
    rintro r ⟨_, hpath, _⟩
    cases hpath
  refine ⟨⟨nofun, nofun, fun h => absurd h (hnone _), fun h => absurd h (hnone _)⟩,
    ⟨⟨nofun, fun _ => List.nodup_nil⟩, nofun⟩, ⟨nofun, nofun, nofun⟩⟩

/-- Notifies that are as before keep their watches. -/
theorem keepsWatches_of_notifies {m m' : CkFileMonitor}
    (h : ∀ id notify', m'.notifies.lookup id = some notify' →
      m.notifies.lookup id = some notify') : KeepsWatches m m' := by
  constructor
  · intro id notify notify' r hid hr hid'
    obtain rfl : notify = notify' := Option.some.inj (hid.symm.trans (h id notify' hid'))
    exact .inl hr
  · intro id notify' hid' hnone
    rw [h id notify' hid'] at hnone
    cases hnone

theorem Valid.add_notify {m : CkFileMonitor} (h : m.Valid) {path : CString} {wd : Int}
    (ha : 0 ≤ wd → m.Agreed path wd) (mask : List CkFileMonitorEvent) (notify_func : Option Nat)
    (user_data : Nat) :
    (m.ck_file_monitor_add_notify path mask notify_func user_data wd).1.Valid ∧
      KeepsWatches m (m.ck_file_monitor_add_notify path mask notify_func user_data wd).1 := by
  rw [ck_file_monitor_add_notify]
  cases m.initialized_inotify with
  | false => exact ⟨h, keepsWatches_of_notifies fun _ _ hid => hid⟩
  | true =>
    rcases Int.lt_or_le wd 0 with hneg | hwd
    · rw [file_monitor_add_watch_for_path, if_pos hneg]
      exact ⟨h, keepsWatches_of_notifies fun _ _ hid => hid⟩
    · obtain ⟨m', r, hadd, hvalid, hmapped, hnotifies, hserial⟩ := h.add_watch hwd (ha hwd)
      -- The id is free, so that no notify loses its watch to the new one.
      have hfree : m'.notifies.lookup m'.serial = none := by
        rw [hnotifies, hserial]
        exact (ha hwd).serial
      rw [hadd]
      refine ⟨hvalid.add_notify_to_watch hmapped hfree mask notify_func user_data, ⟨?_, ?_⟩⟩
      · intro id notify notify' s hid hs hid'
        rcases HashTable.lookup_insert_iff.mp hid' with ⟨rfl, _⟩ | ⟨_, hid'⟩
        · rw [hserial, (ha hwd).serial] at hid
          cases hid
        · rw [hnotifies, hid] at hid'
          rw [← Option.some.inj hid']
          exact .inl hs
      · intro id notify' hid' hnone
        rcases HashTable.lookup_insert_iff.mp hid' with ⟨_, rfl⟩ | ⟨_, hid'⟩
        · exact ⟨r, rfl⟩
        · rw [hnotifies, hnone] at hid'
          cases hid'

/-- A step keeps the invariant, unless the tables are given up. -/
theorem Valid.step {m m' : CkFileMonitor} (h : m.Valid) {label : Label} (hok : Orderly m label)
    (hn : file_monitor_next m label = some m') (hinit : m'.initialized_inotify = true) :
    m'.Valid ∧ KeepsWatches m m' := by
  cases step_cases hn with
  | add_notify path mask notify_func user_data wd =>
    exact h.add_notify hok mask notify_func user_data
  | remove_notify id =>
    rw [ck_file_monitor_remove_notify]
    split
    · exact ⟨h, keepsWatches_of_notifies fun _ _ hid => hid⟩
    · refine ⟨h.remove_notify id, keepsWatches_of_notifies fun id' notify' hid => ?_⟩
      rw [(h.notifies.removed id).lookup] at hid
      split at hid
      · cases hid
      · exact hid
  | kernel_event ievent hlive hignored =>
    exact ⟨h.kernel_event hignored, keepsWatches_of_notifies fun _ _ hid => hid⟩
  | kernel_end wd hlive =>
    exact ⟨h.kernel_end wd, keepsWatches_of_notifies fun _ _ hid => hid⟩
  | inotify_data_pending n hm =>
    refine ⟨h.inotify_data_pending n, keepsWatches_of_notifies fun id notify' hid => ?_⟩
    rw [CkFileMonitor.inotify_data_pending, foldl_handle_known_event] at hid
    exact hid
  | read_error hm => cases hinit
  | emit_removals_in_idle => exact h.emit_removals_in_idle
  | emit_event info rest hqueue =>
    have hkernel : ({ m with notify_events := rest } : CkFileMonitor).KernelValid :=
      ⟨h.kernel.removed, h.kernel.ended, h.kernel.tracked⟩
    exact ⟨h.of_kernel rfl rfl rfl rfl rfl hkernel,
      keepsWatches_of_notifies fun _ _ hid => hid⟩

theorem foldl_remove_ended_watch_initialized (wds : List Int) (m : CkFileMonitor) :
    (wds.foldl remove_ended_watch m).initialized_inotify = m.initialized_inotify := by
  induction wds generalizing m with
  | nil => rfl
  | cons wd wds ih =>
    rw [List.foldl_cons, ih, remove_ended_watch]
    cases m.wd_to_watch.lookup wd with
    | none => rfl
    | some r =>
      dsimp only
      split
      · rfl
      · obtain ⟨t, hfold, _⟩ := foldl_detach (m.watch r).notifies m
        rw [hfold]
        exact file_monitor_remove_watch_initialized _ r

/-- Inotify is not initialised again. -/
theorem uninitialized_step {m m' : CkFileMonitor} {label : Label}
    (h : m.initialized_inotify = false) (hn : file_monitor_next m label = some m') :
    m'.initialized_inotify = false := by
  cases step_cases hn with
  | add_notify path mask notify_func user_data wd =>
    rw [ck_file_monitor_add_notify, h]
    exact h
  | remove_notify id =>
    rw [ck_file_monitor_remove_notify, h]
    exact h
  | kernel_event ievent => exact h
  | kernel_end wd => exact h
  | inotify_data_pending n hinit =>
    rw [h] at hinit
    cases hinit
  | read_error hinit =>
    rw [h] at hinit
    cases hinit
  | emit_removals_in_idle =>
    rw [emit_removals_in_idle, foldl_remove_ended_watch_initialized]
    exact h
  | emit_event info rest hqueue => exact h

theorem valid_of_reachable {m : CkFileMonitor} (h : file_monitor.ReachableBy Orderly m) :
    m.initialized_inotify = true → m.Valid := by
  refine LTS.System.ReachableBy.invariant
    (I := fun m => m.initialized_inotify = true → m.Valid) ?_ ?_ h
  · rintro m ⟨initialized_inotify, rfl⟩ _
    exact valid_init initialized_inotify
  · intro m label m' hvalid hok hn hinit
    -- A state in which the tables are given up is never left.
    have hinit' : m.initialized_inotify = true := by
      by_contra hfalse
      rw [uninitialized_step (Bool.eq_false_iff.mpr hfalse) hn] at hinit
      cases hinit
    exact ((hvalid hinit').step hok hn hinit).1

/-- The tables agree in every run in which the kernel's answers fit, and a
    notify is without a watch only if the kernel has ended that. -/
theorem file_monitor_consistent {m : CkFileMonitor} (h : file_monitor.ReachableBy Orderly m)
    (hinit : m.initialized_inotify = true) :
    m.Consistent ∧ m.QueuedOnce ∧ ∀ label m', Orderly m label →
      file_monitor.next m label = some m' → m'.initialized_inotify = true →
      KeepsWatches m m' := by
  have hvalid := valid_of_reachable h hinit
  exact ⟨hvalid.consistent, hvalid.queued_once, fun _ _ hok hn hinit' =>
    (hvalid.step hok hn hinit').2⟩

/-- A file is watched, and then it is deleted. -/
def file_deleted : List Label :=
  [.add_notify (cstr "/f") [.DELETE] (some 1) 0 1, .kernel_event ⟨1, [.IN_DELETE_SELF], none⟩,
    .kernel_end 1, .inotify_data_pending 2, .emit_event, .emit_removals_in_idle]

theorem orderly_run {labels : List Label} {m : CkFileMonitor}
    (hrun : file_monitor.runBy (fun m label => Orderly m label) (ck_file_monitor_init true) labels =
      some m) : file_monitor.ReachableBy Orderly m :=
  LTS.System.ReachableBy.runBy (fun _ _ _ htest => of_decide_eq_true htest)
    (.init ⟨true, rfl⟩) hrun

theorem file_monitor_consistent_watched :
    ∃ m, file_monitor.runBy (fun m label => Orderly m label) (ck_file_monitor_init true)
      (file_deleted.take 3) = some m ∧ m.initialized_inotify = true ∧ m.Consistent := by
  have hrun : ((file_monitor.runBy (fun m label => Orderly m label) (ck_file_monitor_init true)
      (file_deleted.take 3)).map CkFileMonitor.initialized_inotify) = some true := by decide
  obtain ⟨m, hm, hinit⟩ := Option.map_eq_some_iff.mp hrun
  exact ⟨m, hm, hinit, (file_monitor_consistent (orderly_run hm) hinit).1⟩

/-- The notify is still registered after that. -/
theorem notify_without_watch :
    ∃ m, file_monitor.runBy (fun m label => Orderly m label) (ck_file_monitor_init true)
      file_deleted = some m ∧ m.initialized_inotify = true ∧ ¬ m.AllBelong := by
  have hrun : ((file_monitor.runBy (fun m label => Orderly m label) (ck_file_monitor_init true)
      file_deleted).map fun m => (m.initialized_inotify, m.notifies.lookup 1)) =
        some (true, some ⟨1, [.DELETE], some 1, 0, none⟩) := by decide
  obtain ⟨m, hm, heq⟩ := Option.map_eq_some_iff.mp hrun
  obtain ⟨hinit, hlookup⟩ := Prod.mk.inj heq
  refine ⟨m, hm, hinit, fun h => ?_⟩
  obtain ⟨r, hr, _⟩ := h 1 _ hlookup
  cases hr

end CkFileMonitor

end FileMonitor
