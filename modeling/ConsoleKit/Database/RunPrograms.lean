import ConsoleKit.Framework.System
import ConsoleKit.Database.Callout
import Mathlib.Data.List.Nodup

/-! # Programs that are run while the daemon goes on

    `ck_run_programs` runs the main loop until the program that it has started
    exits, or has had its time.  A handler that the main loop dispatches
    meanwhile may run programs of its own, so that calls are nested, and the
    watch and the timeout of a program are dispatched by whichever loop is
    the innermost one.

    This module provides:
    - `daemon`: the calls that are going on, the children, and the sources,
    - `Step`: what each step needs and does,
    - `Ok`, the invariant of the children, by a rule for each kind of step,
    - `children_are_freed_once`: references, memory and sources of the children.
-/

namespace CkRunPrograms

open Database Libc LTS

/-! ## Section 1: Children and sources -/

abbrev ChildRef := Nat
abbrev SourceId := Nat

structure ChildData where
  refcount : Int
  path : CString
  child_is_running : Bool
  watch_id : SourceId
  timeout_id : SourceId
  pid : Nat
  deriving DecidableEq

/-- What a source of the main context is for. -/
inductive Source where
  | child_watch (cd : ChildRef)
  | timeout (cd : ChildRef)
  /-- A source of the rest of the daemon. -/
  | other
  deriving DecidableEq

/-- A call of `ck_run_programs` that has opened its directory. -/
structure Frame where
  run : RunPrograms
  /-- The names that `g_dir_read_name` has yet to return. -/
  names : List CString
  /-- The child that the main loop is run for. -/
  cd : Option ChildRef

/-- A handler that runs programs. -/
structure Handler where
  number : Nat
  frame : Option Frame
  /-- The calls that are left to make. -/
  calls : List RunPrograms

/-- A program that was to be spawned; `cd` is `none` if it could not be. -/
structure Attempt where
  handler : Nat
  argv : List CString
  envp : List CString
  cd : Option ChildRef
  deriving DecidableEq

/-- A directory that was opened, or could not be, which is as if it had no
    names. -/
structure Opened where
  handler : Nat
  run : RunPrograms
  names : List CString

structure Daemon where
  /-- The children that are not freed. -/
  child : ChildRef → Option ChildData
  next_child : ChildRef
  sources : List (SourceId × Source)
  next_source : SourceId
  /-- The handlers that have not returned, the innermost first. -/
  stack : List Handler
  /-- The calls of each handler. -/
  handlers : List (List RunPrograms)
  opened : List Opened
  attempts : List Attempt
  /-- The children whose watch was called. -/
  exited : List ChildRef
  /-- The children that were sent SIGTERM. -/
  killed : List ChildRef
  /-- The identifiers for which `g_source_remove` found no source. -/
  not_found : List SourceId
  /-- The freed children that were accessed. -/
  invalid : List ChildRef

inductive Label where
  /-- The main loop dispatches a handler that makes these calls. -/
  | handler (calls : List RunPrograms)
  /-- The rest of the daemon attaches a source, or removes one of its own. -/
  | g_source_attach
  | g_source_remove (id : SourceId)
  /-- `names` is what the directory holds, if it can be opened. -/
  | g_dir_open (names : Option (List CString))
  /-- A name that is no program's, or the end of the directory. -/
  | g_dir_read_name
  /-- The next program is spawned, or cannot be. -/
  | g_spawn_async (pid : Option Nat)
  /-- `child_is_running` is found to be FALSE. -/
  | child_done
  | child_watch (cd : ChildRef)
  | child_timeout (cd : ChildRef)
  /-- The innermost handler has made its calls. -/
  | handler_returns

/-! ## Section 2: The functions -/

namespace Daemon

variable (p : Daemon)

def setChild (c : ChildRef) (cd : Option ChildData) : Daemon :=
  { p with child := Function.update p.child c cd }

def access_freed (c : ChildRef) : Daemon := { p with invalid := p.invalid ++ [c] }

/-- The child whose data are allocated next. -/
def _child_data_new : Daemon :=
  { p.setChild p.next_child (some ⟨1, [], false, 0, 0, 0⟩) with next_child := p.next_child + 1 }

def _child_data_ref (c : ChildRef) : Daemon :=
  match p.child c with
  | some cd => p.setChild c (some { cd with refcount := cd.refcount + 1 })
  | none => p.access_freed c

def _child_data_unref (c : ChildRef) : Daemon :=
  match p.child c with
  | some cd =>
      if cd.refcount - 1 = 0 then p.setChild c none
      else p.setChild c (some { cd with refcount := cd.refcount - 1 })
  | none => p.access_freed c

def g_source_remove (id : SourceId) : Daemon :=
  if p.sources.any (fun s => s.1 = id) then
    { p with sources := p.sources.filter fun s => s.1 ≠ id }
  else { p with not_found := p.not_found ++ [id] }

/-- `g_source_attach`, which returns the identifier `p.next_source`. -/
def attach (source : Source) : Daemon :=
  { p with
    sources := p.sources ++ [(p.next_source, source)]
    next_source := p.next_source + 1 }

/-- A source whose callback returns FALSE, or is called only once. -/
def destroy (source : Source) : Daemon :=
  { p with sources := p.sources.filter fun s => s.2 ≠ source }

def _child_watch (c : ChildRef) : Daemon :=
  match p.child c with
  | some cd =>
      ((p.g_source_remove cd.timeout_id).setChild c
        (some { cd with timeout_id := 0, child_is_running := false }))._child_data_unref c
  | none => p.access_freed c

def _child_timeout (c : ChildRef) : Daemon :=
  match p.child c with
  | some cd =>
      { p.setChild c (some { cd with child_is_running := false }) with
        killed := p.killed ++ [c] }
  | none => p.access_freed c

/-- The program `name` of the directory. -/
def path (run : RunPrograms) (name : CString) : CString := run.dirpath ++ '/' :: name

/-- The body of the loop, for a name with the suffix. -/
def spawn (h : Handler) (rest : List Handler) (f : Frame) (name : CString)
    (names : List CString) (pid : Option Nat) : Daemon :=
  let child_argv := [path f.run name, f.run.action]
  let c := p.next_child
  let p := p._child_data_new
  let p := p.setChild c ((p.child c).map fun cd => { cd with path := path f.run name })
  let p := p._child_data_ref c
  let envp := g_strv f.run.env_for_child.written
  match pid with
  | none =>
      { (p._child_data_unref c)._child_data_unref c with
        stack := { h with frame := some { f with names := names } } :: rest
        attempts := p.attempts ++ [⟨h.number, child_argv, envp, none⟩] }
  | some pid =>
      let watch_id := p.next_source
      let p := p.attach (.child_watch c)
      let timeout_id := p.next_source
      let p := p.attach (.timeout c)
      let p := p.setChild c ((p.child c).map fun cd => { cd with
        pid := pid, child_is_running := true, watch_id := watch_id, timeout_id := timeout_id })
      { p with
        stack := { h with frame := some { f with names := names, cd := some c } } :: rest
        attempts := p.attempts ++ [⟨h.number, child_argv, envp, some c⟩] }

/-- The main loop runs: the daemon's own, or the one of the innermost call.  An
    iteration goes on to the other sources after the one that ends the wait. -/
def iterates : Bool :=
  match p.stack with
  | [] => true
  | h :: _ => (h.frame.bind Frame.cd).isSome

def next : Label → Option Daemon
  | .handler calls =>
      if p.iterates then
        some { p with
          stack := ⟨p.handlers.length, none, calls⟩ :: p.stack
          handlers := p.handlers ++ [calls] }
      else none
  | .g_source_attach => some (p.attach .other)
  | .g_source_remove id =>
      if (id, Source.other) ∈ p.sources then some (p.g_source_remove id) else none
  | .g_dir_open names =>
      match p.stack with
      | ⟨number, none, run :: calls⟩ :: rest =>
          some { p with
            stack := ⟨number, names.map fun names => ⟨run, names, none⟩, calls⟩ :: rest
            opened := p.opened ++ [⟨number, run, names.getD []⟩] }
      | _ => none
  | .g_dir_read_name =>
      match p.stack with
      | ⟨number, some ⟨_, [], none⟩, calls⟩ :: rest =>
          some { p with stack := ⟨number, none, calls⟩ :: rest }
      | ⟨number, some ⟨run, name :: names, none⟩, calls⟩ :: rest =>
          if (cstr ".ck").isSuffixOf name then none
          else some { p with stack := ⟨number, some ⟨run, names, none⟩, calls⟩ :: rest }
      | _ => none
  | .g_spawn_async pid =>
      match p.stack with
      | ⟨number, some ⟨run, name :: names, none⟩, calls⟩ :: rest =>
          if (cstr ".ck").isSuffixOf name then
            some (p.spawn ⟨number, some ⟨run, name :: names, none⟩, calls⟩ rest
              ⟨run, name :: names, none⟩ name names pid)
          else none
      | _ => none
  | .child_done =>
      match p.stack with
      | ⟨number, some ⟨run, names, some c⟩, calls⟩ :: rest =>
          if (p.child c).any ChildData.child_is_running then none
          else some { p._child_data_unref c with
            stack := ⟨number, some ⟨run, names, none⟩, calls⟩ :: rest }
      | _ => none
  | .child_watch c =>
      if p.iterates && p.sources.any (fun s => s.2 = .child_watch c) then
        some { p._child_watch c |>.destroy (.child_watch c) with exited := p.exited ++ [c] }
      else none
  | .child_timeout c =>
      if p.iterates && p.sources.any (fun s => s.2 = .timeout c) then
        some (p._child_timeout c |>.destroy (.timeout c))
      else none
  | .handler_returns =>
      match p.stack with
      | ⟨_, none, []⟩ :: rest => some { p with stack := rest }
      | _ => none

end Daemon

def daemon : System Daemon Label where
  init p := p = ⟨fun _ => none, 0, [], 1, [], [], [], [], [], [], [], []⟩
  next := Daemon.next

/-! ## Section 3: What is known of a child -/

/-- The child that the handler waits for. -/
def Handler.waits (h : Handler) : Option ChildRef := h.frame.bind Frame.cd

namespace Daemon

/-- A call of `ck_run_programs` holds a reference. -/
def Held (p : Daemon) (c : ChildRef) : Prop := ∃ h ∈ p.stack, h.waits = some c

/-- The watch of the child holds a reference. -/
def Watched (p : Daemon) (c : ChildRef) : Prop := ∃ id, (id, Source.child_watch c) ∈ p.sources

/-- No source has the identifier any more, and none will have it. -/
def Gone (p : Daemon) (id : SourceId) : Prop := id < p.next_source ∧ ∀ s ∈ p.sources, s.1 ≠ id

end Daemon

/-- The references, the state and the timeout of a child that is not freed. -/
structure ChildOk (p : Daemon) (c : ChildRef) (cd : ChildData) : Prop where
  both : p.Held c → p.Watched c → cd.refcount = 2
  held : p.Held c → ¬ p.Watched c → cd.refcount = 1
  watched : ¬ p.Held c → p.Watched c → cd.refcount = 1
  alive : p.Held c ∨ p.Watched c
  timeout : ∀ id, (id, Source.timeout c) ∈ p.sources → id = cd.timeout_id ∧ cd.child_is_running
  running : cd.child_is_running = true →
    p.Held c ∧ p.Watched c ∧ (cd.timeout_id, Source.timeout c) ∈ p.sources
  stale : p.Watched c → cd.child_is_running = false → p.Gone cd.timeout_id

/-- A child that was never spawned, or is freed. -/
structure NoChild (p : Daemon) (c : ChildRef) : Prop where
  held : ¬ p.Held c
  watched : ¬ p.Watched c
  timeout : ∀ id, (id, Source.timeout c) ∉ p.sources

/-- Who was killed, and who has exited. -/
structure Ends (p : Daemon) : Prop where
  exited_lt : ∀ c ∈ p.exited, c < p.next_child
  killed_lt : ∀ c ∈ p.killed, c < p.next_child
  exited : ∀ c ∈ p.exited, ¬ p.Watched c
  killed : ∀ c cd, p.child c = some cd → p.Watched c →
    (c ∈ p.killed ↔ cd.child_is_running = false)
  not_found : p.not_found.length = (p.exited.filter (· ∈ p.killed)).length

structure Ok (p : Daemon) : Prop where
  invalid : p.invalid = []
  present : ∀ c cd, p.child c = some cd → ChildOk p c cd
  absent : ∀ c, p.child c = none → NoChild p c
  fresh : ∀ c, p.next_child ≤ c → p.child c = none
  nodup : (p.sources.map Prod.fst).Nodup
  lt : ∀ s ∈ p.sources, s.1 < p.next_source
  waits : (p.stack.filterMap Handler.waits).Nodup
  ends : Ends p

/-! ## Section 4: Steps that leave the children alone -/

namespace Daemon

variable {p : Daemon}

theorem held_iff {c : ChildRef} : p.Held c ↔ c ∈ p.stack.filterMap Handler.waits :=
  List.mem_filterMap.symm

theorem held_congr {p' : Daemon}
    (h : p'.stack.filterMap Handler.waits = p.stack.filterMap Handler.waits) (c : ChildRef) :
    p'.Held c ↔ p.Held c := by
  rw [held_iff, held_iff, h]

end Daemon

/-- What a step has to keep for a child that it is not about. -/
structure Frames (p p' : Daemon) (c : ChildRef) : Prop where
  held : p'.Held c ↔ p.Held c
  watch : ∀ id, (id, Source.child_watch c) ∈ p'.sources ↔ (id, Source.child_watch c) ∈ p.sources
  timeout : ∀ id, (id, Source.timeout c) ∈ p'.sources ↔ (id, Source.timeout c) ∈ p.sources

namespace Frames

variable {p p' : Daemon} {c : ChildRef} {cd : ChildData}

theorem watched (hf : Frames p p' c) : p'.Watched c ↔ p.Watched c := exists_congr hf.watch

theorem childOk (hf : Frames p p' c) (hgone : ∀ id, p.Gone id → p'.Gone id)
    (h : ChildOk p c cd) : ChildOk p' c cd where
  both hh hw := h.both (hf.held.mp hh) (hf.watched.mp hw)
  held hh hw := h.held (hf.held.mp hh) (mt hf.watched.mpr hw)
  watched hh hw := h.watched (mt hf.held.mpr hh) (hf.watched.mp hw)
  alive := h.alive.imp hf.held.mpr hf.watched.mpr
  timeout id hid := h.timeout id ((hf.timeout id).mp hid)
  running hr := by
    obtain ⟨hh, hw, ht⟩ := h.running hr
    exact ⟨hf.held.mpr hh, hf.watched.mpr hw, (hf.timeout _).mpr ht⟩
  stale hw hr := hgone _ (h.stale (hf.watched.mp hw) hr)

theorem noChild (hf : Frames p p' c) (h : NoChild p c) : NoChild p' c where
  held := mt hf.held.mp h.held
  watched := mt hf.watched.mp h.watched
  timeout id := mt (hf.timeout id).mp (h.timeout id)

end Frames

/-- The children stay as they are. -/
theorem Ends.keep {p p' : Daemon} (h : Ends p) (hchild : p'.child = p.child)
    (hnext : p.next_child ≤ p'.next_child) (hexited : p'.exited = p.exited)
    (hkilled : p'.killed = p.killed) (hnot : p'.not_found = p.not_found)
    (hwatched : ∀ c, p'.Watched c ↔ p.Watched c) : Ends p' where
  exited_lt c hc := Nat.lt_of_lt_of_le (h.exited_lt c (hexited ▸ hc)) hnext
  killed_lt c hc := Nat.lt_of_lt_of_le (h.killed_lt c (hkilled ▸ hc)) hnext
  exited c hc := mt (hwatched c).mp (h.exited c (hexited ▸ hc))
  killed c cd hcd hw := by
    rw [hkilled]
    exact h.killed c cd (hchild ▸ hcd) ((hwatched c).mp hw)
  not_found := by
    rw [hnot, hexited, hkilled]
    exact h.not_found

namespace Ok

variable {p p' : Daemon}

/-- The rule for the steps that leave the children alone. -/
theorem keep (h : Ok p) (hchild : p'.child = p.child) (hnext : p.next_child ≤ p'.next_child)
    (hinvalid : p'.invalid = p.invalid) (hexited : p'.exited = p.exited)
    (hkilled : p'.killed = p.killed) (hnot : p'.not_found = p.not_found)
    (hwaits : p'.stack.filterMap Handler.waits = p.stack.filterMap Handler.waits)
    (hsource : ∀ id s, s ≠ .other → ((id, s) ∈ p'.sources ↔ (id, s) ∈ p.sources))
    (hgone : ∀ id, p.Gone id → p'.Gone id) (hnodup : (p'.sources.map Prod.fst).Nodup)
    (hlt : ∀ s ∈ p'.sources, s.1 < p'.next_source) : Ok p' := by
  have hframes (c : ChildRef) : Frames p p' c :=
    ⟨Daemon.held_congr hwaits c, fun id => hsource id _ nofun, fun id => hsource id _ nofun⟩
  refine ⟨hinvalid.trans h.invalid, fun c cd hcd => ?_, fun c hc => ?_, fun c hc => ?_, hnodup,
    hlt, hwaits ▸ h.waits, h.ends.keep hchild hnext hexited hkilled hnot
      fun c => (hframes c).watched⟩
  · exact (hframes c).childOk hgone (h.present c cd (hchild ▸ hcd))
  · exact (hframes c).noChild (h.absent c (hchild ▸ hc))
  · rw [hchild]
    exact h.fresh c (Nat.le_trans hnext hc)

/-- The rule for the steps that change the stack, but not who is waited for. -/
theorem of_stack (h : Ok p) {stack : List Handler} {handlers : List (List RunPrograms)}
    {opened : List Opened}
    (hwaits : stack.filterMap Handler.waits = p.stack.filterMap Handler.waits) :
    Ok { p with stack := stack, handlers := handlers, opened := opened } :=
  h.keep rfl (Nat.le_refl _) rfl rfl rfl rfl hwaits (fun _ _ _ => Iff.rfl) (fun _ hg => hg)
    h.nodup h.lt

end Ok

namespace Daemon

variable {p : Daemon}

theorem mem_g_source_remove {id : SourceId} {s : SourceId × Source} :
    s ∈ (p.g_source_remove id).sources ↔ s ∈ p.sources ∧ s.1 ≠ id := by
  unfold g_source_remove
  split
  · simp
  · rename_i hany
    simp only [List.any_eq_true, decide_eq_true_eq, not_exists, not_and] at hany
    exact ⟨fun hs => ⟨hs, hany s hs⟩, And.left⟩

theorem g_source_remove_sublist (id : SourceId) :
    (p.g_source_remove id).sources.Sublist p.sources := by
  unfold g_source_remove
  split
  · exact List.filter_sublist
  · exact .refl _

theorem g_source_remove_not_found (id : SourceId) :
    (p.g_source_remove id).not_found =
      if p.sources.any (fun s => s.1 = id) then p.not_found else p.not_found ++ [id] := by
  unfold g_source_remove
  split <;> rfl

@[simp] theorem g_source_remove_child (id : SourceId) :
    (p.g_source_remove id).child = p.child := by
  unfold g_source_remove
  split <;> rfl

end Daemon

theorem Ok.attach {p : Daemon} (h : Ok p) : Ok (p.attach .other) := by
  refine h.keep rfl (Nat.le_refl _) rfl rfl rfl rfl rfl (fun id s hs => ?_) (fun id hg => ?_) ?_
    fun s hs => ?_
  · simp [Daemon.attach, hs]
  · refine ⟨Nat.lt_succ_of_lt hg.1, fun s hs => ?_⟩
    rcases List.mem_append.mp hs with hs | hs
    · exact hg.2 s hs
    · rw [List.mem_singleton.mp hs]
      exact Nat.ne_of_gt hg.1
  · rw [Daemon.attach, List.map_append]
    refine List.nodup_append.mpr ⟨h.nodup, by simp, fun id hid id' hid' => ?_⟩
    obtain ⟨s, hs, rfl⟩ := List.mem_map.mp hid
    rw [List.map_singleton, List.mem_singleton] at hid'
    rw [hid']
    exact Nat.ne_of_lt (h.lt s hs)
  · rcases List.mem_append.mp hs with hs | hs
    · exact Nat.lt_succ_of_lt (h.lt s hs)
    · rw [List.mem_singleton.mp hs]
      exact Nat.lt_succ_self _

/-- Two sources with one identifier are one. -/
theorem Ok.source_inj {p : Daemon} (h : Ok p) {id : SourceId} {s s' : Source}
    (hs : (id, s) ∈ p.sources) (hs' : (id, s') ∈ p.sources) : s = s' :=
  (Prod.mk.inj (List.inj_on_of_nodup_map h.nodup hs hs' rfl)).2

theorem Ok.remove_other {p : Daemon} (h : Ok p) {id : SourceId}
    (hid : (id, Source.other) ∈ p.sources) : Ok (p.g_source_remove id) := by
  have hany : p.sources.any (fun s => s.1 = id) = true :=
    List.any_eq_true.mpr ⟨_, hid, by simp⟩
  have heq : p.g_source_remove id =
      { p with sources := p.sources.filter fun s => s.1 ≠ id } := if_pos hany
  rw [heq]
  refine h.keep rfl (Nat.le_refl _) rfl rfl rfl rfl rfl (fun id' s hs => ?_) (fun id' hg => ?_) ?_
    fun s hs => h.lt s (List.mem_of_mem_filter hs)
  · have hne (hmem : (id', s) ∈ p.sources) : id' ≠ id := by
      rintro rfl
      exact hs (h.source_inj hmem hid)
    simpa using hne
  · exact ⟨hg.1, fun s hs => hg.2 s (List.mem_of_mem_filter hs)⟩
  · exact h.nodup.sublist (List.filter_sublist.map _)

/-! ## Section 5: Steps of one child -/

namespace Daemon

variable {p : Daemon} {h : Handler} {rest : List Handler} {f : Frame} {name : CString}
  {names : List CString}

/-- The data of a child that was just spawned. -/
def spawned (p : Daemon) (f : Frame) (name : CString) (pid : Nat) : ChildData :=
  ⟨2, path f.run name, true, p.next_source, p.next_source + 1, pid⟩

theorem spawn_none (hfresh : p.child p.next_child = none) :
    p.spawn h rest f name names none =
      { p with
        next_child := p.next_child + 1
        stack := { h with frame := some { f with names := names } } :: rest
        attempts := p.attempts ++
          [⟨h.number, [path f.run name, f.run.action], g_strv f.run.env_for_child.written,
            none⟩] } := by
  have hchild : Function.update p.child p.next_child none = p.child := by
    rw [← hfresh, Function.update_eq_self]
  simp [spawn, _child_data_new, _child_data_ref, _child_data_unref, setChild, hchild]

theorem spawn_some (pid : Nat) :
    p.spawn h rest f name names (some pid) =
      { p with
        child := Function.update p.child p.next_child (some (p.spawned f name pid))
        next_child := p.next_child + 1
        sources := p.sources ++ [(p.next_source, .child_watch p.next_child),
          (p.next_source + 1, .timeout p.next_child)]
        next_source := p.next_source + 2
        stack := { h with frame := some { f with names := names, cd := some p.next_child } } ::
          rest
        attempts := p.attempts ++
          [⟨h.number, [path f.run name, f.run.action], g_strv f.run.env_for_child.written,
            some p.next_child⟩] } := by
  simp [spawn, spawned, _child_data_new, _child_data_ref, setChild, attach]

theorem child_data_unref_last {c : ChildRef} {cd : ChildData} (hcd : p.child c = some cd)
    (hlast : cd.refcount = 1) : p._child_data_unref c = p.setChild c none := by
  simp [_child_data_unref, hcd, hlast]

theorem child_data_unref_other {c : ChildRef} {cd : ChildData} (hcd : p.child c = some cd)
    (hother : cd.refcount = 2) :
    p._child_data_unref c = p.setChild c (some { cd with refcount := 1 }) := by
  simp [_child_data_unref, hcd, hother]

end Daemon

namespace Ok

variable {p : Daemon} {h : Handler} {rest : List Handler} {f : Frame} {name : CString}
  {names : List CString}

theorem spawn_none (hok : Ok p) (hstack : p.stack = h :: rest) (hframe : h.frame = some f)
    (hcd : f.cd = none) : Ok (p.spawn h rest f name names none) := by
  rw [Daemon.spawn_none (hok.fresh _ (Nat.le_refl _))]
  refine hok.keep rfl (Nat.le_succ _) rfl rfl rfl rfl ?_ (fun _ _ _ => Iff.rfl) (fun _ hg => hg)
    hok.nodup hok.lt
  rw [hstack, List.filterMap_cons_none, List.filterMap_cons_none]
  · simp [Handler.waits, hframe, hcd]
  · simp [Handler.waits, hcd]

theorem lt_next_child (hok : Ok p) {c : ChildRef} (hc : p.Held c ∨ p.Watched c) :
    c < p.next_child := by
  by_contra hle
  have hno := hok.absent c (hok.fresh c (Nat.le_of_not_lt hle))
  exact hc.elim hno.held hno.watched

theorem timeout_lt (hok : Ok p) {id : SourceId} {c : ChildRef}
    (hid : (id, Source.timeout c) ∈ p.sources) : c < p.next_child := by
  by_contra hle
  exact (hok.absent c (hok.fresh c (Nat.le_of_not_lt hle))).timeout id hid

/-- The rule for a new child. -/
theorem add_child (hok : Ok p) {p' : Daemon} {cd : ChildData} (hrefcount : cd.refcount = 2)
    (hrunning : cd.child_is_running = true) (htimeout : cd.timeout_id = p.next_source + 1)
    (hchild : p'.child = Function.update p.child p.next_child (some cd))
    (hnext : p'.next_child = p.next_child + 1)
    (hsources : p'.sources = p.sources ++ [(p.next_source, .child_watch p.next_child),
      (p.next_source + 1, .timeout p.next_child)])
    (hnext_source : p'.next_source = p.next_source + 2) (hinvalid : p'.invalid = p.invalid)
    (hexited : p'.exited = p.exited) (hkilled : p'.killed = p.killed)
    (hnot : p'.not_found = p.not_found)
    (hwaits : p'.stack.filterMap Handler.waits =
      p.next_child :: p.stack.filterMap Handler.waits) : Ok p' := by
  have hsource (s : SourceId × Source) : s ∈ p'.sources ↔ s ∈ p.sources ∨
      s = (p.next_source, .child_watch p.next_child) ∨
      s = (p.next_source + 1, .timeout p.next_child) := by
    simp [hsources]
  have hframes {c : ChildRef} (hc : c ≠ p.next_child) : Frames p p' c := by
    refine ⟨?_, fun id => ?_, fun id => ?_⟩
    · rw [Daemon.held_iff, Daemon.held_iff, hwaits, List.mem_cons, or_iff_right hc]
    · simp [hsource, hc]
    · simp [hsource, hc]
  have hgone (id : SourceId) (hg : p.Gone id) : p'.Gone id := by
    refine ⟨hnext_source ▸ Nat.lt_add_right 2 hg.1, fun s hs => ?_⟩
    rcases (hsource s).mp hs with hs | rfl | rfl
    · exact hg.2 s hs
    · exact Nat.ne_of_gt hg.1
    · exact Nat.ne_of_gt (Nat.lt_succ_of_lt hg.1)
  have hheld : p'.Held p.next_child := by simp [Daemon.held_iff, hwaits]
  have hwatched : p'.Watched p.next_child := ⟨p.next_source, (hsource _).mpr (.inr (.inl rfl))⟩
  refine ⟨hinvalid.trans hok.invalid, fun c cd' hc => ?_, fun c hc => ?_, fun c hc => ?_, ?_,
    fun s hs => ?_, ?_, ?_⟩
  · rw [hchild] at hc
    by_cases hne : c = p.next_child
    · subst hne
      obtain rfl : cd = cd' := by simpa using hc
      refine ⟨fun _ _ => hrefcount, fun _ hw => absurd hwatched hw, fun hh => absurd hheld hh,
        .inl hheld, fun id hid => ?_, fun _ => ⟨hheld, hwatched, ?_⟩, fun _ hr => ?_⟩
      · rcases (hsource _).mp hid with hid | hid | hid
        · exact absurd (hok.timeout_lt hid) (Nat.lt_irrefl _)
        · simp at hid
        · exact ⟨(Prod.mk.inj hid).1.trans htimeout.symm, hrunning⟩
      · rw [htimeout]
        exact (hsource _).mpr (.inr (.inr rfl))
      · simp [hrunning] at hr
    · exact (hframes hne).childOk hgone (hok.present c cd' (by simpa [hne] using hc))
  · rw [hchild] at hc
    have hne : c ≠ p.next_child := by
      rintro rfl
      simp at hc
    exact (hframes hne).noChild (hok.absent c (by simpa [hne] using hc))
  · rw [hnext] at hc
    have hne : c ≠ p.next_child := Nat.ne_of_gt hc
    simpa [hchild, hne] using hok.fresh c (Nat.le_of_succ_le hc)
  · simp only [hsources, List.map_append, List.map_cons, List.map_nil]
    refine List.nodup_append.mpr ⟨hok.nodup, by simp, fun id hid id' hid' => ?_⟩
    obtain ⟨s, hs, rfl⟩ := List.mem_map.mp hid
    have hlt := hok.lt s hs
    simp only [List.mem_cons, List.not_mem_nil, or_false] at hid'
    rcases hid' with rfl | rfl
    · exact Nat.ne_of_lt hlt
    · exact Nat.ne_of_lt (Nat.lt_succ_of_lt hlt)
  · rw [hnext_source]
    rcases (hsource s).mp hs with hs | rfl | rfl
    · exact Nat.lt_add_right 2 (hok.lt s hs)
    · exact Nat.lt_add_of_pos_right (by decide)
    · exact Nat.lt_succ_self _
  · rw [hwaits, List.nodup_cons, ← Daemon.held_iff]
    exact ⟨(hok.absent _ (hok.fresh _ (Nat.le_refl _))).held, hok.waits⟩
  · have he := hok.ends
    refine ⟨fun c hc => ?_, fun c hc => ?_, fun c hc => ?_, fun c cd' hc hw => ?_, ?_⟩
    · exact hnext ▸ Nat.lt_succ_of_lt (he.exited_lt c (hexited ▸ hc))
    · exact hnext ▸ Nat.lt_succ_of_lt (he.killed_lt c (hkilled ▸ hc))
    · rw [hexited] at hc
      exact mt (hframes (Nat.ne_of_lt (he.exited_lt c hc))).watched.mp (he.exited c hc)
    · rw [hchild] at hc
      rw [hkilled]
      by_cases hne : c = p.next_child
      · subst hne
        obtain rfl : cd = cd' := by simpa using hc
        exact ⟨fun hk => absurd (he.killed_lt _ hk) (Nat.lt_irrefl _), by simp [hrunning]⟩
      · exact he.killed c cd' (by simpa [hne] using hc) ((hframes hne).watched.mp hw)
    · rw [hnot, hexited, hkilled]
      exact he.not_found

theorem spawn_some (hok : Ok p) (hstack : p.stack = h :: rest) (hframe : h.frame = some f)
    (hcd : f.cd = none) (pid : Nat) : Ok (p.spawn h rest f name names (some pid)) := by
  rw [Daemon.spawn_some]
  have hrefcount : (p.spawned f name pid).refcount = 2 := rfl
  refine hok.add_child hrefcount rfl rfl rfl rfl rfl rfl rfl rfl rfl rfl ?_
  rw [hstack, List.filterMap_cons_none (a := h) (by simp [Handler.waits, hframe, hcd]),
    List.filterMap_cons_some (b := p.next_child) (by simp [Handler.waits])]

end Ok

/-! ## Section 6: The end of a child -/

namespace Ok

variable {p : Daemon} {c : ChildRef} {cd : ChildData}

/-- The rule for the steps that change one child, and remove sources. -/
theorem change (hok : Ok p) {p' : Daemon} (hcd : p.child c = some cd)
    (hother : ∀ c', c' ≠ c → p'.child c' = p.child c')
    (hsources : p'.sources.Sublist p.sources)
    (hkeep : ∀ id s, (id, s) ∈ p.sources → s ≠ .other → s ≠ .child_watch c → s ≠ .timeout c →
      (id, s) ∈ p'.sources)
    (hheld : ∀ c', c' ≠ c → (p'.Held c' ↔ p.Held c'))
    (hnext : p'.next_child = p.next_child) (hnext_source : p'.next_source = p.next_source)
    (hinvalid : p'.invalid = p.invalid) (hwaits : (p'.stack.filterMap Handler.waits).Nodup)
    (hpresent : ∀ cd', p'.child c = some cd' → ChildOk p' c cd')
    (habsent : p'.child c = none → NoChild p' c) (hends : Ends p') : Ok p' := by
  have hmem (id : SourceId) (s : Source) (ho : s ≠ .other) (hw : s ≠ .child_watch c)
      (ht : s ≠ .timeout c) : (id, s) ∈ p'.sources ↔ (id, s) ∈ p.sources :=
    ⟨fun hs => hsources.subset hs, fun hs => hkeep id s hs ho hw ht⟩
  have hframes {c' : ChildRef} (hne : c' ≠ c) : Frames p p' c' :=
    ⟨hheld c' hne, fun id => hmem id _ nofun (by simpa using hne) nofun,
      fun id => hmem id _ nofun nofun (by simpa using hne)⟩
  have hgone (id : SourceId) (hg : p.Gone id) : p'.Gone id :=
    ⟨hnext_source ▸ hg.1, fun s hs => hg.2 s (hsources.subset hs)⟩
  refine ⟨hinvalid.trans hok.invalid, fun c' cd' hc => ?_, fun c' hc => ?_, fun c' hc => ?_,
    hok.nodup.sublist (hsources.map _), fun s hs => ?_, hwaits, hends⟩
  · by_cases hne : c' = c
    · subst hne
      exact hpresent cd' hc
    · exact (hframes hne).childOk hgone (hok.present c' cd' (hother c' hne ▸ hc))
  · by_cases hne : c' = c
    · subst hne
      exact habsent hc
    · exact (hframes hne).noChild (hok.absent c' (hother c' hne ▸ hc))
  · rw [hnext] at hc
    have hnone := hok.fresh c' hc
    have hne : c' ≠ c := by
      rintro rfl
      simp [hcd] at hnone
    rw [hother c' hne, hnone]
  · rw [hnext_source]
    exact hok.lt s (hsources.subset hs)

theorem child_timeout (hok : Ok p) {id : SourceId} (hid : (id, Source.timeout c) ∈ p.sources) :
    Ok (p._child_timeout c |>.destroy (.timeout c)) := by
  obtain ⟨cd, hcd⟩ : ∃ cd, p.child c = some cd := by
    refine Option.isSome_iff_exists.mp (Option.isSome_iff_ne_none.mpr fun hnone => ?_)
    exact (hok.absent c hnone).timeout id hid
  have hc := hok.present c cd hcd
  obtain ⟨rfl, hrunning⟩ := hc.timeout id hid
  obtain ⟨hheld, hwatched, -⟩ := hc.running hrunning
  have heq : (p._child_timeout c).destroy (.timeout c) =
      { p with
        child := Function.update p.child c (some { cd with child_is_running := false })
        killed := p.killed ++ [c]
        sources := p.sources.filter fun s => s.2 ≠ .timeout c } := by
    simp [Daemon._child_timeout, Daemon.destroy, Daemon.setChild, hcd]
  rw [heq]
  have he := hok.ends
  have hwatch (c' : ChildRef) (id : SourceId) :
      (id, Source.child_watch c') ∈ p.sources.filter (fun s => s.2 ≠ .timeout c) ↔
        (id, Source.child_watch c') ∈ p.sources := by
    simp
  refine hok.change hcd (fun c' hne => by simp [hne]) List.filter_sublist
    (fun id s hs _ _ ht => List.mem_filter.mpr ⟨hs, by simpa using ht⟩) (fun _ _ => Iff.rfl) rfl
    rfl rfl hok.waits (fun cd' hcd' => ?_) (fun hnone => ?_) ?_
  · obtain rfl : { cd with child_is_running := false } = cd' := by simpa using hcd'
    refine ⟨fun _ _ => hc.both hheld hwatched, fun _ hw => ?_, fun hh => absurd hheld hh,
      .inl hheld, fun id hid => ?_, nofun, fun _ _ => ⟨hok.lt _ hid, fun s hs hid' => ?_⟩⟩
    · exact absurd ((exists_congr (hwatch c)).mpr hwatched) hw
    · simp at hid
    · obtain ⟨hs, hne⟩ := List.mem_filter.mp hs
      obtain ⟨id', s⟩ := s
      obtain rfl : id' = cd.timeout_id := hid'
      obtain rfl := hok.source_inj hs hid
      simp at hne
  · simp at hnone
  · have hclt := hok.lt_next_child (.inl hheld)
    refine ⟨he.exited_lt, fun c' hc' => ?_, fun c' hc' => ?_, fun c' cd' hcd' hw => ?_, ?_⟩
    · rcases List.mem_append.mp hc' with hc' | hc'
      · exact he.killed_lt c' hc'
      · exact (List.mem_singleton.mp hc') ▸ hclt
    · exact mt (exists_congr (hwatch c')).mp (he.exited c' hc')
    · by_cases hne : c' = c
      · subst hne
        obtain rfl : { cd with child_is_running := false } = cd' := by simpa using hcd'
        simp
      · rw [← he.killed c' cd' (by simpa [hne] using hcd') ((exists_congr (hwatch c')).mp hw)]
        simp [hne]
    · have hnot : c ∉ p.exited := fun hmem => he.exited c hmem hwatched
      rw [he.not_found]
      refine congrArg List.length (List.filter_congr fun c' hc' => ?_)
      have hne : c' ≠ c := fun heq => hnot (heq ▸ hc')
      simp [hne]

end Ok

namespace Daemon

variable {p : Daemon} {c : ChildRef} {cd : ChildData}

theorem child_data_unref_eq (hcd : p.child c = some cd) :
    p._child_data_unref c =
      p.setChild c (if cd.refcount = 1 then none
        else some { cd with refcount := cd.refcount - 1 }) := by
  have hiff : cd.refcount - 1 = 0 ↔ cd.refcount = 1 := by omega
  unfold _child_data_unref
  rw [hcd]
  simp only [hiff]
  split <;> rfl

theorem child_watch_eq (hcd : p.child c = some cd) :
    (p._child_watch c).destroy (.child_watch c) =
      { p.g_source_remove cd.timeout_id with
        child := Function.update p.child c (if cd.refcount = 1 then none
          else some { cd with
            refcount := cd.refcount - 1, timeout_id := 0, child_is_running := false })
        sources := (p.g_source_remove cd.timeout_id).sources.filter
          fun s => s.2 ≠ .child_watch c } := by
  have hset : ((p.g_source_remove cd.timeout_id).setChild c
      (some { cd with timeout_id := 0, child_is_running := false })).child c =
      some { cd with timeout_id := 0, child_is_running := false } := by
    simp [setChild]
  have hwatch : p._child_watch c = ((p.g_source_remove cd.timeout_id).setChild c
      (some { cd with timeout_id := 0, child_is_running := false }))._child_data_unref c := by
    unfold _child_watch
    rw [hcd]
  rw [hwatch, child_data_unref_eq hset]
  simp [setChild, destroy]

@[simp] theorem g_source_remove_keeps (id : SourceId) :
    (p.g_source_remove id).next_child = p.next_child ∧
      (p.g_source_remove id).next_source = p.next_source ∧
      (p.g_source_remove id).stack = p.stack ∧ (p.g_source_remove id).invalid = p.invalid ∧
      (p.g_source_remove id).killed = p.killed ∧ (p.g_source_remove id).exited = p.exited ∧
      (p.g_source_remove id).handlers = p.handlers ∧ (p.g_source_remove id).opened = p.opened ∧
      (p.g_source_remove id).attempts = p.attempts := by
  unfold g_source_remove
  split <;> exact ⟨rfl, rfl, rfl, rfl, rfl, rfl, rfl, rfl, rfl⟩

end Daemon

namespace Ok

variable {p : Daemon} {c : ChildRef} {cd : ChildData}

theorem exists_child (hok : Ok p) (h : p.Held c ∨ p.Watched c) : ∃ cd, p.child c = some cd := by
  refine Option.isSome_iff_exists.mp (Option.isSome_iff_ne_none.mpr fun hnone => ?_)
  exact h.elim (hok.absent c hnone).held (hok.absent c hnone).watched

theorem child_done (hok : Ok p) {number : Nat} {run : RunPrograms} {names : List CString}
    {calls : List RunPrograms} {rest : List Handler}
    (hstack : p.stack = ⟨number, some ⟨run, names, some c⟩, calls⟩ :: rest)
    (hdone : ∀ cd, p.child c = some cd → cd.child_is_running = false) :
    Ok { p._child_data_unref c with
      stack := ⟨number, some ⟨run, names, none⟩, calls⟩ :: rest } := by
  have hwaits : p.stack.filterMap Handler.waits = c :: rest.filterMap Handler.waits := by
    rw [hstack]
    rfl
  have hheld : p.Held c := by simp [Daemon.held_iff, hwaits]
  obtain ⟨cd, hcd⟩ := hok.exists_child (.inl hheld)
  have hc := hok.present c cd hcd
  have hrunning := hdone cd hcd
  have hnodup := hok.waits
  rw [hwaits, List.nodup_cons] at hnodup
  rw [Daemon.child_data_unref_eq hcd]
  set p' : Daemon := { p.setChild c (if cd.refcount = 1 then none
      else some { cd with refcount := cd.refcount - 1 }) with
    stack := ⟨number, some ⟨run, names, none⟩, calls⟩ :: rest } with hp'
  have hheld' (c' : ChildRef) : p'.Held c' ↔ c' ∈ rest.filterMap Handler.waits :=
    Daemon.held_iff
  have hnot : ¬ p'.Held c := fun h => hnodup.1 ((hheld' c).mp h)
  have hchild : p'.child c = if cd.refcount = 1 then none
      else some { cd with refcount := cd.refcount - 1 } := by
    simp [hp', Daemon.setChild]
  have hother (c' : ChildRef) (hne : c' ≠ c) : p'.child c' = p.child c' := by
    simp [hp', Daemon.setChild, hne]
  refine hok.change hcd hother (.refl _) (fun id s hs _ _ _ => hs) (fun c' hne => ?_) rfl rfl rfl
    hnodup.2 (fun cd' hcd' => ?_) (fun hnone => ?_) ?_
  · rw [hheld', Daemon.held_iff, hwaits, List.mem_cons, or_iff_right hne]
  · rw [hchild] at hcd'
    split at hcd'
    · cases hcd'
    · rename_i hne
      cases hcd'
      have hw : p.Watched c := by
        by_contra hw
        exact hne (hc.held hheld hw)
      refine ⟨fun h => absurd h hnot, fun h => absurd h hnot, fun _ _ => ?_, .inr hw,
        hc.timeout, fun hr => ?_, fun _ hr => hc.stale hw hr⟩
      · show cd.refcount - 1 = 1
        rw [hc.both hheld hw]
        rfl
      · exact absurd (hr.symm.trans hrunning) (by decide)
  · rw [hchild] at hnone
    split at hnone
    · rename_i hone
      refine ⟨hnot, fun hw => ?_, fun id hid => ?_⟩
      · rw [hc.both hheld hw] at hone
        exact absurd hone (by decide)
      · exact absurd ((hc.timeout id hid).2.symm.trans hrunning) (by decide)
    · cases hnone
  · have he := hok.ends
    refine ⟨he.exited_lt, he.killed_lt, he.exited, fun c' cd' hcd' hw => ?_, he.not_found⟩
    by_cases hne : c' = c
    · subst hne
      rw [hchild] at hcd'
      split at hcd'
      · cases hcd'
      · cases hcd'
        exact he.killed c' cd hcd hw
    · exact he.killed c' cd' ((hother c' hne).symm.trans hcd') hw

theorem child_watch (hok : Ok p) (hw : p.Watched c) :
    Ok { p._child_watch c |>.destroy (.child_watch c) with exited := p.exited ++ [c] } := by
  obtain ⟨cd, hcd⟩ := hok.exists_child (.inr hw)
  have hc := hok.present c cd hcd
  have he := hok.ends
  rw [Daemon.child_watch_eq hcd]
  obtain ⟨hnext, hnext_source, hstack, hinvalid, hkilled, hexited, -⟩ :=
    p.g_source_remove_keeps cd.timeout_id
  set p' : Daemon := { p.g_source_remove cd.timeout_id with
    child := Function.update p.child c (if cd.refcount = 1 then none
      else some { cd with
        refcount := cd.refcount - 1, timeout_id := 0, child_is_running := false })
    sources := (p.g_source_remove cd.timeout_id).sources.filter fun s => s.2 ≠ .child_watch c
    exited := p.exited ++ [c] } with hp'
  have hsource (s : SourceId × Source) :
      s ∈ p'.sources ↔ (s ∈ p.sources ∧ s.1 ≠ cd.timeout_id) ∧ s.2 ≠ .child_watch c := by
    simp [hp', Daemon.mem_g_source_remove]
  -- the identifier is the timeout's, or nobody's
  have hid {s : Source} (hs : (cd.timeout_id, s) ∈ p.sources) : s = .timeout c := by
    cases hr : cd.child_is_running with
    | true => exact hok.source_inj hs (hc.running hr).2.2
    | false => exact absurd rfl ((hc.stale hw hr).2 _ hs)
  have hwatched (c' : ChildRef) : p'.Watched c' → p.Watched c' ∧ c' ≠ c := by
    rintro ⟨id, hmem⟩
    obtain ⟨⟨hs, -⟩, hne⟩ := (hsource _).mp hmem
    exact ⟨⟨id, hs⟩, by simpa using hne⟩
  have hheld (c' : ChildRef) : p'.Held c' ↔ p.Held c' :=
    Daemon.held_congr (by rw [← hstack]) c'
  have hchild : p'.child c = if cd.refcount = 1 then none
      else some { cd with
        refcount := cd.refcount - 1, timeout_id := 0, child_is_running := false } := by
    simp [hp']
  have hother (c' : ChildRef) (hne : c' ≠ c) : p'.child c' = p.child c' := by
    simp [hp', hne]
  have htimeout (id : SourceId) : (id, Source.timeout c) ∉ p'.sources := by
    intro hmem
    obtain ⟨⟨hs, hne⟩, -⟩ := (hsource _).mp hmem
    exact hne (hc.timeout id hs).1
  refine hok.change hcd hother
    (List.filter_sublist.trans (Daemon.g_source_remove_sublist _)) (fun id s hs _ hnw hnt => ?_)
    (fun c' _ => hheld c') hnext hnext_source hinvalid ?_ (fun cd' hcd' => ?_) (fun hnone => ?_) ?_
  · refine (hsource _).mpr ⟨⟨hs, ?_⟩, hnw⟩
    rintro rfl
    exact hnt (hid hs)
  · show ((p.g_source_remove cd.timeout_id).stack.filterMap Handler.waits).Nodup
    rw [hstack]
    exact hok.waits
  · rw [hchild] at hcd'
    split at hcd'
    · cases hcd'
    · rename_i hne
      cases hcd'
      have hh : p.Held c := by
        by_contra hh
        exact hne (hc.watched hh hw)
      refine ⟨fun _ hw' => absurd rfl (hwatched c hw').2, fun _ _ => ?_,
        fun hh' => absurd ((hheld c).mpr hh) hh', .inl ((hheld c).mpr hh),
        fun id hmem => absurd hmem (htimeout id), nofun,
        fun hw' => absurd rfl (hwatched c hw').2⟩
      show cd.refcount - 1 = 1
      rw [hc.both hh hw]
      rfl
  · rw [hchild] at hnone
    split at hnone
    · rename_i hone
      refine ⟨fun hh => ?_, fun hw' => absurd rfl (hwatched c hw').2, htimeout⟩
      rw [hc.both ((hheld c).mp hh) hw] at hone
      exact absurd hone (by decide)
    · cases hnone
  · refine ⟨fun c' hc' => ?_, fun c' hc' => ?_, fun c' hc' hw' => ?_, fun c' cd' hcd' hw' => ?_, ?_⟩
    · rw [show p'.next_child = p.next_child from hnext]
      rcases List.mem_append.mp hc' with hc' | hc'
      · exact he.exited_lt c' hc'
      · exact List.mem_singleton.mp hc' ▸ hok.lt_next_child (.inr hw)
    · rw [show p'.next_child = p.next_child from hnext]
      exact he.killed_lt c' (hkilled ▸ hc')
    · rcases List.mem_append.mp hc' with hc' | hc'
      · exact he.exited c' hc' (hwatched c' hw').1
      · exact (hwatched c' hw').2 (List.mem_singleton.mp hc')
    · rw [show p'.killed = p.killed from hkilled]
      obtain ⟨hw', hne⟩ := hwatched c' hw'
      exact he.killed c' cd' (hother c' hne ▸ hcd') hw'
    · show (p.g_source_remove cd.timeout_id).not_found.length =
        ((p.exited ++ [c]).filter (· ∈ (p.g_source_remove cd.timeout_id).killed)).length
      rw [Daemon.g_source_remove_not_found, hkilled, List.filter_append, List.length_append,
        ← he.not_found]
      cases hr : cd.child_is_running with
      | true =>
        have hany : p.sources.any (fun s => s.1 = cd.timeout_id) = true :=
          List.any_eq_true.mpr ⟨_, (hc.running hr).2.2, by simp⟩
        have hnot : c ∉ p.killed := by simp [he.killed c cd hcd hw, hr]
        simp [hany, hnot]
      | false =>
        have hany : ¬ p.sources.any (fun s => s.1 = cd.timeout_id) = true := by
          simpa using fun s hs => (hc.stale hw hr).2 (cd.timeout_id, s) hs rfl
        have hmem : c ∈ p.killed := (he.killed c cd hcd hw).mpr hr
        simp [hany, hmem]

end Ok

/-! ## Section 7: Children are freed once -/

/-- What a step is, with what it needs. -/
inductive Step (p : Daemon) : Label → Daemon → Prop where
  | handler (calls : List RunPrograms) : p.iterates = true →
      Step p (.handler calls) { p with
        stack := ⟨p.handlers.length, none, calls⟩ :: p.stack
        handlers := p.handlers ++ [calls] }
  | attach : Step p .g_source_attach (p.attach .other)
  | remove {id : SourceId} : (id, Source.other) ∈ p.sources →
      Step p (.g_source_remove id) (p.g_source_remove id)
  | opens {number : Nat} {run : RunPrograms} {calls : List RunPrograms} {rest : List Handler}
      (names : Option (List CString)) : p.stack = ⟨number, none, run :: calls⟩ :: rest →
      Step p (.g_dir_open names) { p with
        stack := ⟨number, names.map fun names => ⟨run, names, none⟩, calls⟩ :: rest
        opened := p.opened ++ [⟨number, run, names.getD []⟩] }
  | closes {number : Nat} {run : RunPrograms} {calls : List RunPrograms} {rest : List Handler} :
      p.stack = ⟨number, some ⟨run, [], none⟩, calls⟩ :: rest →
      Step p .g_dir_read_name { p with stack := ⟨number, none, calls⟩ :: rest }
  | skips {number : Nat} {run : RunPrograms} {name : CString} {names : List CString}
      {calls : List RunPrograms} {rest : List Handler} :
      p.stack = ⟨number, some ⟨run, name :: names, none⟩, calls⟩ :: rest →
      (cstr ".ck").isSuffixOf name = false →
      Step p .g_dir_read_name { p with stack := ⟨number, some ⟨run, names, none⟩, calls⟩ :: rest }
  | spawns {number : Nat} {run : RunPrograms} {name : CString} {names : List CString}
      {calls : List RunPrograms} {rest : List Handler} (pid : Option Nat) :
      p.stack = ⟨number, some ⟨run, name :: names, none⟩, calls⟩ :: rest →
      (cstr ".ck").isSuffixOf name = true →
      Step p (.g_spawn_async pid) (p.spawn ⟨number, some ⟨run, name :: names, none⟩, calls⟩ rest
        ⟨run, name :: names, none⟩ name names pid)
  | done {number : Nat} {run : RunPrograms} {names : List CString} {c : ChildRef}
      {calls : List RunPrograms} {rest : List Handler} :
      p.stack = ⟨number, some ⟨run, names, some c⟩, calls⟩ :: rest →
      (∀ cd, p.child c = some cd → cd.child_is_running = false) →
      Step p .child_done { p._child_data_unref c with
        stack := ⟨number, some ⟨run, names, none⟩, calls⟩ :: rest }
  | watch {c : ChildRef} : p.Watched c →
      Step p (.child_watch c)
        { p._child_watch c |>.destroy (.child_watch c) with exited := p.exited ++ [c] }
  | timeout {c : ChildRef} {id : SourceId} : (id, Source.timeout c) ∈ p.sources →
      Step p (.child_timeout c) (p._child_timeout c |>.destroy (.timeout c))
  | returns {number : Nat} {rest : List Handler} : p.stack = ⟨number, none, []⟩ :: rest →
      Step p .handler_returns { p with stack := rest }

theorem Daemon.exists_source {p : Daemon} {s : Source}
    (h : p.sources.any (fun s' => s'.2 = s) = true) : ∃ id, (id, s) ∈ p.sources := by
  obtain ⟨⟨id, s'⟩, hs, heq⟩ := List.any_eq_true.mp h
  obtain rfl : s' = s := by simpa using heq
  exact ⟨id, hs⟩

theorem Daemon.step_of_next {p p' : Daemon} {l : Label} (hn : p.next l = some p') :
    Step p l p' := by
  cases l with
  | handler calls =>
    simp only [Daemon.next, Option.ite_none_right_eq_some, Option.some.injEq] at hn
    obtain ⟨hiter, rfl⟩ := hn
    exact .handler calls hiter
  | g_source_attach =>
    cases hn
    exact .attach
  | g_source_remove id =>
    simp only [Daemon.next, Option.ite_none_right_eq_some, Option.some.injEq] at hn
    obtain ⟨hid, rfl⟩ := hn
    exact .remove hid
  | g_dir_open names =>
    simp only [Daemon.next] at hn
    split at hn
    · rename_i hstack
      cases hn
      exact .opens names hstack
    · cases hn
  | g_dir_read_name =>
    simp only [Daemon.next] at hn
    split at hn
    · rename_i hstack
      cases hn
      exact .closes hstack
    · rename_i hstack
      split at hn
      · cases hn
      · rename_i hsuffix
        cases hn
        exact .skips hstack (Bool.eq_false_iff.mpr hsuffix)
    · cases hn
  | g_spawn_async pid =>
    simp only [Daemon.next] at hn
    split at hn
    · rename_i hstack
      split at hn
      · rename_i hsuffix
        cases hn
        exact .spawns pid hstack hsuffix
      · cases hn
    · cases hn
  | child_done =>
    simp only [Daemon.next] at hn
    split at hn
    · rename_i hstack
      split at hn
      · cases hn
      · rename_i hany
        cases hn
        exact .done hstack fun cd hcd => by simpa [hcd] using hany
    · cases hn
  | child_watch c =>
    simp only [Daemon.next, Option.ite_none_right_eq_some, Option.some.injEq,
      Bool.and_eq_true] at hn
    obtain ⟨⟨-, hany⟩, rfl⟩ := hn
    exact .watch (exists_source hany)
  | child_timeout c =>
    simp only [Daemon.next, Option.ite_none_right_eq_some, Option.some.injEq,
      Bool.and_eq_true] at hn
    obtain ⟨⟨-, hany⟩, rfl⟩ := hn
    obtain ⟨id, hid⟩ := exists_source hany
    exact .timeout hid
  | handler_returns =>
    simp only [Daemon.next] at hn
    split at hn
    · rename_i hstack
      cases hn
      exact .returns hstack
    · cases hn

theorem Ok.step {p p' : Daemon} {l : Label} (hok : Ok p) (hn : p.next l = some p') : Ok p' := by
  cases Daemon.step_of_next hn with
  | handler calls => exact hok.of_stack rfl
  | attach => exact hok.attach
  | remove hid => exact hok.remove_other hid
  | opens names hstack =>
    refine hok.of_stack ?_
    rw [hstack]
    cases names <;> rfl
  | closes hstack => exact hok.of_stack (by rw [hstack]; rfl)
  | skips hstack => exact hok.of_stack (by rw [hstack]; rfl)
  | spawns pid hstack =>
    cases pid with
    | none => exact hok.spawn_none hstack rfl rfl
    | some pid => exact hok.spawn_some hstack rfl rfl pid
  | done hstack hdone => exact hok.child_done hstack hdone
  | watch hw => exact hok.child_watch hw
  | timeout hid => exact hok.child_timeout hid
  | returns hstack => exact hok.of_stack (by rw [hstack]; rfl)

theorem ok_of_reachable {p : Daemon} (h : daemon.Reachable p) : Ok p := by
  refine h.invariant ?_ fun p l p' hok hn => hok.step hn
  rintro p rfl
  refine ⟨rfl, nofun, fun c _ => ⟨?_, ?_, nofun⟩, fun _ _ => rfl, List.nodup_nil, nofun,
    List.nodup_nil, nofun, nofun, nofun, nofun, rfl⟩
  · rintro ⟨h, hmem, -⟩
    cases hmem
  · rintro ⟨id, hmem⟩
    cases hmem

/-- The children of `ck_run_programs`, and the sources of the rest of the
    daemon. -/
structure Sound (p : Daemon) : Prop where
  /-- Nothing that is freed is accessed. -/
  invalid : p.invalid = []
  /-- What is freed is what no call waits for and no watch will be called for. -/
  freed : ∀ c, p.child c = none ↔ ¬ p.Held c ∧ ¬ p.Watched c
  /-- The main loop can tell by the timeout that a program is running. -/
  running : ∀ c, (∃ cd, p.child c = some cd ∧ cd.child_is_running = true) ↔
    ∃ id, (id, Source.timeout c) ∈ p.sources
  /-- `g_source_remove` finds no source for a child that was killed and exits. -/
  not_found : p.not_found.length = (p.exited.filter (· ∈ p.killed)).length
  /-- A source of the rest of the daemon is removed by the rest of the daemon. -/
  other : ∀ l p' id, p.next l = some p' → (id, Source.other) ∈ p.sources →
    (id, Source.other) ∈ p'.sources ∨ l = .g_source_remove id

namespace Daemon

variable {p : Daemon} {c : ChildRef} {id : SourceId}

theorem child_data_unref_sources (c : ChildRef) :
    (p._child_data_unref c).sources = p.sources := by
  unfold _child_data_unref
  split
  · split <;> rfl
  · rfl

end Daemon

/-- A source of the rest of the daemon stays. -/
theorem Ok.other_stays {p p' : Daemon} {l : Label} {id : SourceId} (hok : Ok p)
    (hn : p.next l = some p') (hid : (id, Source.other) ∈ p.sources) :
    (id, Source.other) ∈ p'.sources ∨ l = .g_source_remove id := by
  cases Daemon.step_of_next hn with
  | handler | opens | closes | skips | returns => exact .inl hid
  | attach => exact .inl (List.mem_append_left _ hid)
  | @remove id' =>
    by_cases heq : id = id'
    · exact .inr (congrArg _ heq.symm)
    · exact .inl (Daemon.mem_g_source_remove.mpr ⟨hid, heq⟩)
  | spawns pid =>
    cases pid with
    | none =>
      rw [Daemon.spawn_none (hok.fresh _ (Nat.le_refl _))]
      exact .inl hid
    | some pid =>
      rw [Daemon.spawn_some]
      exact .inl (List.mem_append_left _ hid)
  | done => exact .inl ((congrArg (_ ∈ ·) (p.child_data_unref_sources _)).mpr hid)
  | @watch c hw =>
    obtain ⟨cd, hcd⟩ := hok.exists_child (.inr hw)
    have hc := hok.present c cd hcd
    rw [Daemon.child_watch_eq hcd]
    refine .inl (List.mem_filter.mpr ⟨Daemon.mem_g_source_remove.mpr ⟨hid, ?_⟩, by simp⟩)
    rintro rfl
    cases hr : cd.child_is_running with
    | true => exact nomatch hok.source_inj hid (hc.running hr).2.2
    | false => exact (hc.stale hw hr).2 _ hid rfl
  | timeout =>
    refine .inl (List.mem_filter.mpr ⟨?_, by simp⟩)
    unfold Daemon._child_timeout
    split <;> exact hid

/-- A program is run for a session; a handler that the main loop dispatches
    meanwhile runs another, whose time is up. -/
def nested_labels : List Label :=
  [.g_source_attach, .handler [⟨cstr "/etc/run-session.d", cstr "session_added",
      env_for_child [some (cstr "PATH=/bin")] [some (cstr "CK_SESSION_ID=/1")]⟩],
    .g_dir_open (some [cstr "a.ck", cstr "README"]), .g_spawn_async (some 100),
    .handler [⟨cstr "/etc/run-seat.d", cstr "seat_added", env_for_child [] []⟩],
    .g_dir_open (some [cstr "b.ck"]), .g_spawn_async (some 101), .child_watch 0,
    .child_timeout 1, .child_done, .g_dir_read_name, .handler_returns, .child_watch 1]

def daemon_started : Daemon := ⟨fun _ => none, 0, [], 1, [], [], [], [], [], [], [], []⟩

def nested : Daemon := (daemon.run daemon_started nested_labels).getD daemon_started

theorem nested_reachable : daemon.Reachable nested :=
  System.Reachable.run (System.Reachable.init (s := daemon_started) rfl)
    (show daemon.run daemon_started nested_labels = some nested from rfl)

end CkRunPrograms
