import ConsoleKit.Database.RunPrograms
import Mathlib.Algebra.GroupWithZero.Nat
import Mathlib.Data.Prod.Lex

/-! # The calls of `ck_run_programs`

    Calls are nested, but each handler makes its calls one after another, and
    each call runs the programs of its directory one after another.

    This module provides:
    - `InOrder`: how far each handler is,
    - `programs_run_in_order`: what is run for each handler,
    - `calls_return`: every call returns, whatever the programs do.
-/

namespace CkRunPrograms

open Database Libc LTS

/-! ## Section 1: What is run for a handler -/

/-- The arguments and the environments of the programs of a directory. -/
def programs (run : RunPrograms) (names : List CString) : List (List CString × List CString) :=
  (names.filter ((cstr ".ck").isSuffixOf ·)).map fun name =>
    ([Daemon.path run name, run.action], g_strv run.env_for_child.written)

/-- The directories that were opened for a handler. -/
def openedOf (opened : List Opened) (n : Nat) : List Opened := opened.filter (·.handler = n)

/-- What was to be spawned for a handler. -/
def attemptsOf (attempts : List Attempt) (n : Nat) : List Attempt :=
  attempts.filter (·.handler = n)

section
variable (handlers : List (List RunPrograms)) (opened : List Opened) (attempts : List Attempt)

/-- How far a handler is: the calls that it has left, and the programs that
    are left of the directory that it has open. -/
structure Progress (n : Nat) (calls : List RunPrograms)
    (pending : List (List CString × List CString)) : Prop where
  calls : handlers[n]? = some ((openedOf opened n).map Opened.run ++ calls)
  attempts : (attemptsOf attempts n).map (fun a => (a.argv, a.envp)) ++ pending =
    (openedOf opened n).flatMap fun o => programs o.run o.names

def Handler.pending (h : Handler) : List (List CString × List CString) :=
  h.frame.elim [] fun f => programs f.run f.names

structure InOrder (stack : List Handler) : Prop where
  numbers : (stack.map Handler.number).Nodup
  opened_lt : ∀ o ∈ opened, o.handler < handlers.length
  attempts_lt : ∀ a ∈ attempts, a.handler < handlers.length
  on_stack : ∀ h ∈ stack, Progress handlers opened attempts h.number h.calls h.pending
  returned : ∀ n < handlers.length, n ∉ stack.map Handler.number →
    Progress handlers opened attempts n [] []
  last : ∀ h ∈ stack, ∀ c, h.waits = some c →
    (attemptsOf attempts h.number).getLast?.bind Attempt.cd = some c

end

/-- What happened in the order in which it was to. -/
abbrev Daemon.Ordered (p : Daemon) : Prop := InOrder p.handlers p.opened p.attempts p.stack

section
variable {handlers : List (List RunPrograms)} {opened : List Opened} {attempts : List Attempt}

theorem Progress.lt {n : Nat} {calls : List RunPrograms}
    {pending : List (List CString × List CString)}
    (h : Progress handlers opened attempts n calls pending) : n < handlers.length :=
  (List.getElem?_eq_some_iff.mp h.calls).1

theorem openedOf_append_other {o : Opened} {n : Nat} (hne : o.handler ≠ n) :
    openedOf (opened ++ [o]) n = openedOf opened n := by
  simp [openedOf, hne]

theorem openedOf_append_self (opened : List Opened) (o : Opened) :
    openedOf (opened ++ [o]) o.handler = openedOf opened o.handler ++ [o] := by
  simp [openedOf]

theorem attemptsOf_append_other {a : Attempt} {n : Nat} (hne : a.handler ≠ n) :
    attemptsOf (attempts ++ [a]) n = attemptsOf attempts n := by
  simp [attemptsOf, hne]

theorem attemptsOf_append_self (attempts : List Attempt) (a : Attempt) :
    attemptsOf (attempts ++ [a]) a.handler = attemptsOf attempts a.handler ++ [a] := by
  simp [attemptsOf]

namespace InOrder

variable {stack rest : List Handler} {h h' : Handler}

/-- The rule for the steps of the innermost handler. -/
theorem top {opened' : List Opened} {attempts' : List Attempt}
    (hio : InOrder handlers opened attempts (h :: rest)) (hnumber : h'.number = h.number)
    (hopened : ∀ n, n ≠ h.number → openedOf opened' n = openedOf opened n)
    (hattempts : ∀ n, n ≠ h.number → attemptsOf attempts' n = attemptsOf attempts n)
    (hopened_lt : ∀ o ∈ opened', o.handler < handlers.length)
    (hattempts_lt : ∀ a ∈ attempts', a.handler < handlers.length)
    (hprogress : Progress handlers opened' attempts' h.number h'.calls h'.pending)
    (hlast : ∀ c, h'.waits = some c →
      (attemptsOf attempts' h.number).getLast?.bind Attempt.cd = some c) :
    InOrder handlers opened' attempts' (h' :: rest) := by
  have hnumbers := hio.numbers
  rw [List.map_cons, List.nodup_cons] at hnumbers
  have hother {n : Nat} {calls : List RunPrograms}
      {pending : List (List CString × List CString)} (hne : n ≠ h.number)
      (hp : Progress handlers opened attempts n calls pending) :
      Progress handlers opened' attempts' n calls pending :=
    ⟨by rw [hopened n hne]; exact hp.calls,
      by rw [hopened n hne, hattempts n hne]; exact hp.attempts⟩
  have hrest {g : Handler} (hg : g ∈ rest) : g.number ≠ h.number := fun heq =>
    hnumbers.1 (heq ▸ List.mem_map_of_mem hg)
  refine ⟨?_, hopened_lt, hattempts_lt, fun g hg => ?_, fun n hn hmem => ?_, fun g hg c hc => ?_⟩
  · rw [List.map_cons, hnumber]
    exact hio.numbers
  · rcases List.mem_cons.mp hg with rfl | hg
    · exact hnumber ▸ hprogress
    · exact hother (hrest hg) (hio.on_stack g (List.mem_cons_of_mem _ hg))
  · rw [List.map_cons, hnumber] at hmem
    exact hother (fun heq => hmem (heq ▸ List.mem_cons_self)) (hio.returned n hn hmem)
  · rcases List.mem_cons.mp hg with rfl | hg
    · exact hnumber ▸ hlast c hc
    · rw [hattempts _ (hrest hg)]
      exact hio.last g (List.mem_cons_of_mem _ hg) c hc

/-- The innermost handler only moves on in its directory. -/
theorem reads (hio : InOrder handlers opened attempts (h :: rest)) (hnumber : h'.number = h.number)
    (hcalls : h'.calls = h.calls) (hpending : h'.pending = h.pending)
    (hwaits : h'.waits = none) : InOrder handlers opened attempts (h' :: rest) := by
  refine hio.top hnumber (fun _ _ => rfl) (fun _ _ => rfl) hio.opened_lt hio.attempts_lt ?_ ?_
  · rw [hcalls, hpending]
    exact hio.on_stack h List.mem_cons_self
  · rw [hwaits]
    exact nofun

theorem dispatch (hio : InOrder handlers opened attempts stack) (calls : List RunPrograms) :
    InOrder (handlers ++ [calls]) opened attempts (⟨handlers.length, none, calls⟩ :: stack) := by
  have hnew : openedOf opened handlers.length = [] ∧ attemptsOf attempts handlers.length = [] := by
    constructor <;> refine List.filter_eq_nil_iff.mpr fun x hx => ?_
    · simpa using Nat.ne_of_lt (hio.opened_lt x hx)
    · simpa using Nat.ne_of_lt (hio.attempts_lt x hx)
  have hold {n : Nat} {calls' : List RunPrograms} {pending : List (List CString × List CString)}
      (hp : Progress handlers opened attempts n calls' pending) :
      Progress (handlers ++ [calls]) opened attempts n calls' pending :=
    ⟨by rw [List.getElem?_append_left hp.lt]; exact hp.calls, hp.attempts⟩
  have hlt : handlers.length < (handlers ++ [calls]).length := by simp
  refine ⟨?_, fun o ho => Nat.lt_trans (hio.opened_lt o ho) hlt,
    fun a ha => Nat.lt_trans (hio.attempts_lt a ha) hlt, fun g hg => ?_, fun n hn hmem => ?_,
    fun g hg c hc => ?_⟩
  · refine List.nodup_cons.mpr ⟨fun hmem => ?_, hio.numbers⟩
    obtain ⟨g, hg, heq⟩ := List.mem_map.mp hmem
    exact Nat.lt_irrefl _ (heq ▸ (hio.on_stack g hg).lt)
  · rcases List.mem_cons.mp hg with rfl | hg
    · refine ⟨?_, ?_⟩
      · rw [hnew.1]
        simp
      · rw [hnew.1, hnew.2]
        rfl
    · exact hold (hio.on_stack g hg)
  · simp only [List.map_cons, List.mem_cons, not_or] at hmem
    rw [List.length_append, List.length_singleton] at hn
    exact hold (hio.returned n (by omega) hmem.2)
  · rcases List.mem_cons.mp hg with rfl | hg
    · cases hc
    · exact hio.last g hg c hc

theorem returns {number : Nat}
    (hio : InOrder handlers opened attempts (⟨number, none, []⟩ :: stack)) :
    InOrder handlers opened attempts stack := by
  have hnumbers := hio.numbers
  rw [List.map_cons, List.nodup_cons] at hnumbers
  refine ⟨hnumbers.2, hio.opened_lt, hio.attempts_lt,
    fun g hg => hio.on_stack g (List.mem_cons_of_mem _ hg), fun n hn hmem => ?_,
    fun g hg => hio.last g (List.mem_cons_of_mem _ hg)⟩
  by_cases heq : n = number
  · subst heq
    exact hio.on_stack _ List.mem_cons_self
  · refine hio.returned n hn ?_
    rw [List.map_cons, List.mem_cons]
    exact fun h => h.elim heq hmem

theorem opens {number : Nat} {run : RunPrograms} {calls : List RunPrograms}
    (hio : InOrder handlers opened attempts (⟨number, none, run :: calls⟩ :: rest))
    (names : Option (List CString)) :
    InOrder handlers (opened ++ [⟨number, run, names.getD []⟩]) attempts
      (⟨number, names.map fun names => ⟨run, names, none⟩, calls⟩ :: rest) := by
  have hp := hio.on_stack _ List.mem_cons_self
  have hlt : number < handlers.length := hp.lt
  have hself := openedOf_append_self opened ⟨number, run, names.getD []⟩
  refine hio.top rfl (fun n hne => openedOf_append_other (Ne.symm hne)) (fun _ _ => rfl)
    (fun o ho => ?_) hio.attempts_lt ⟨?_, ?_⟩ ?_
  · rcases List.mem_append.mp ho with ho | ho
    · exact hio.opened_lt o ho
    · exact List.mem_singleton.mp ho ▸ hlt
  · rw [hself, List.map_append, List.append_assoc]
    exact hp.calls
  · have hattempts : (attemptsOf attempts number).map (fun a => (a.argv, a.envp)) =
        (openedOf opened number).flatMap fun o => programs o.run o.names :=
      (List.append_nil _).symm.trans hp.attempts
    rw [hself, List.flatMap_append, hattempts]
    cases names <;> simp [Handler.pending, programs]
  · cases names <;> exact nofun

theorem spawns {number : Nat} {run : RunPrograms} {calls : List RunPrograms} {name : CString}
    {names : List CString} (hsuffix : (cstr ".ck").isSuffixOf name = true)
    (hio : InOrder handlers opened attempts
      (⟨number, some ⟨run, name :: names, none⟩, calls⟩ :: rest)) (cd : Option ChildRef) :
    InOrder handlers opened
      (attempts ++ [⟨number, [Daemon.path run name, run.action],
        g_strv run.env_for_child.written, cd⟩])
      (⟨number, some ⟨run, names, cd⟩, calls⟩ :: rest) := by
  have hp := hio.on_stack _ List.mem_cons_self
  have hlt : number < handlers.length := hp.lt
  have hself := attemptsOf_append_self attempts
    ⟨number, [Daemon.path run name, run.action], g_strv run.env_for_child.written, cd⟩
  refine hio.top rfl (fun _ _ => rfl) (fun n hne => attemptsOf_append_other (Ne.symm hne))
    hio.opened_lt (fun a ha => ?_) ⟨hp.calls, ?_⟩ fun c hc => ?_
  · rcases List.mem_append.mp ha with ha | ha
    · exact hio.attempts_lt a ha
    · exact List.mem_singleton.mp ha ▸ hlt
  · rw [hself, ← hp.attempts, List.map_append, List.append_assoc]
    simp [Handler.pending, programs, hsuffix]
  · obtain rfl : cd = some c := hc
    rw [hself, List.getLast?_concat]
    rfl

end InOrder

end

namespace Daemon

variable {p : Daemon} {c : ChildRef}

theorem child_data_unref_keeps (c : ChildRef) :
    (p._child_data_unref c).stack = p.stack ∧ (p._child_data_unref c).handlers = p.handlers ∧
      (p._child_data_unref c).opened = p.opened ∧
      (p._child_data_unref c).attempts = p.attempts := by
  unfold _child_data_unref
  split
  · split <;> exact ⟨rfl, rfl, rfl, rfl⟩
  · exact ⟨rfl, rfl, rfl, rfl⟩

theorem child_timeout_keeps (c : ChildRef) :
    (p._child_timeout c).stack = p.stack ∧ (p._child_timeout c).handlers = p.handlers ∧
      (p._child_timeout c).opened = p.opened ∧ (p._child_timeout c).attempts = p.attempts := by
  unfold _child_timeout
  split <;> exact ⟨rfl, rfl, rfl, rfl⟩

theorem child_watch_keeps (c : ChildRef) :
    (p._child_watch c).stack = p.stack ∧ (p._child_watch c).handlers = p.handlers ∧
      (p._child_watch c).opened = p.opened ∧ (p._child_watch c).attempts = p.attempts := by
  cases hcd : p.child c with
  | none =>
    unfold _child_watch
    rw [hcd]
    exact ⟨rfl, rfl, rfl, rfl⟩
  | some cd =>
    have heq : p._child_watch c = ((p.g_source_remove cd.timeout_id).setChild c
        (some { cd with timeout_id := 0, child_is_running := false }))._child_data_unref c := by
      unfold _child_watch
      rw [hcd]
    obtain ⟨-, -, hstack, -, -, -, hhandlers, hopened, hattempts⟩ :=
      p.g_source_remove_keeps cd.timeout_id
    obtain ⟨hs, hh, ho, ha⟩ := ((p.g_source_remove cd.timeout_id).setChild c
      (some { cd with timeout_id := 0, child_is_running := false })).child_data_unref_keeps c
    rw [heq, hs, hh, ho, ha]
    exact ⟨hstack, hhandlers, hopened, hattempts⟩

end Daemon

theorem InOrder.step {p p' : Daemon} {l : Label} (hok : Ok p) (hio : p.Ordered)
    (hn : p.next l = some p') : p'.Ordered := by
  unfold Daemon.Ordered at hio ⊢
  cases Daemon.step_of_next hn with
  | handler calls => exact hio.dispatch calls
  | attach => exact hio
  | @remove id =>
    obtain ⟨-, -, hstack, -, -, -, hhandlers, hopened, hattempts⟩ := p.g_source_remove_keeps id
    rw [hstack, hhandlers, hopened, hattempts]
    exact hio
  | opens names hstack =>
    rw [hstack] at hio
    exact hio.opens names
  | closes hstack =>
    rw [hstack] at hio
    exact hio.reads rfl rfl rfl rfl
  | skips hstack hsuffix =>
    rw [hstack] at hio
    refine hio.reads rfl rfl ?_ rfl
    simp [Handler.pending, programs, hsuffix]
  | spawns pid hstack hsuffix =>
    rw [hstack] at hio
    cases pid with
    | none =>
      rw [Daemon.spawn_none (hok.fresh _ (Nat.le_refl _))]
      exact hio.spawns hsuffix none
    | some pid =>
      rw [Daemon.spawn_some]
      exact hio.spawns hsuffix (some p.next_child)
  | done hstack =>
    rw [hstack] at hio
    obtain ⟨-, hhandlers, hopened, hattempts⟩ := p.child_data_unref_keeps _
    rw [hhandlers, hopened, hattempts]
    exact hio.reads rfl rfl rfl rfl
  | @watch c =>
    obtain ⟨hstack, hhandlers, hopened, hattempts⟩ := p.child_watch_keeps c
    simp only [Daemon.destroy, hstack, hhandlers, hopened, hattempts]
    exact hio
  | @timeout c =>
    obtain ⟨hstack, hhandlers, hopened, hattempts⟩ := p.child_timeout_keeps c
    simp only [Daemon.destroy, hstack, hhandlers, hopened, hattempts]
    exact hio
  | returns hstack =>
    rw [hstack] at hio
    exact hio.returns

theorem ordered_of_reachable {p : Daemon} (h : daemon.Reachable p) : p.Ordered := by
  refine (h.invariant (I := fun p => Ok p ∧ p.Ordered) ?_ fun p l p' hi hn =>
    ⟨hi.1.step hn, InOrder.step hi.1 hi.2 hn⟩).2
  rintro p hp
  refine ⟨ok_of_reachable (.init hp), ?_⟩
  cases hp
  exact ⟨List.nodup_nil, nofun, nofun, nofun, nofun, nofun⟩

/-- What a maintainer expects of the programs that are run for a handler. -/
structure RunInOrder (p : Daemon) (n : Nat) (calls : List RunPrograms) : Prop where
  directories : (openedOf p.opened n).map Opened.run <+: calls
  programs : (attemptsOf p.attempts n).map (fun a => (a.argv, a.envp)) <+:
    (openedOf p.opened n).flatMap fun o => programs o.run o.names
  /-- A handler that has returned has run them all. -/
  all : (∀ h ∈ p.stack, h.number ≠ n) → (openedOf p.opened n).map Opened.run = calls ∧
    (attemptsOf p.attempts n).map (fun a => (a.argv, a.envp)) =
      (openedOf p.opened n).flatMap fun o => CkRunPrograms.programs o.run o.names

/-- The steps that the daemon takes by itself: a call goes on, or the time of a
    program is up. -/
def Label.Own : Label → Prop
  | .g_dir_open _ | .g_dir_read_name | .g_spawn_async _ | .child_done | .child_timeout _
  | .handler_returns => True
  | .handler _ | .g_source_attach | .g_source_remove _ | .child_watch _ => False

/-- The steps that a handler has yet to take in its directory, at most. -/
def Handler.weight (h : Handler) : Nat :=
  1 + h.frame.elim 0 fun f => 1 + 4 * f.names.length + f.cd.elim 0 fun _ => 1

/-- The watches and the timeouts of the children. -/
def childSources (sources : List (SourceId × Source)) : Nat :=
  (sources.filter fun s => s.2 ≠ .other).length

namespace Daemon

/-- The calls that are left to make come first: what their directories hold is
    not known before. -/
def rank (p : Daemon) : Nat × Nat :=
  ((p.stack.map fun h => h.calls.length).sum,
    (p.stack.map Handler.weight).sum + childSources p.sources)

def Lower : Nat × Nat → Nat × Nat → Prop := Prod.Lex (· < ·) (· < ·)

end Daemon

theorem childSources_lt {sources sources' : List (SourceId × Source)} {s : SourceId × Source}
    (hsub : sources'.Sublist sources) (hs : s ∈ sources) (hother : s.2 ≠ .other)
    (hs' : s ∉ sources') : childSources sources' < childSources sources := by
  have hfilter := hsub.filter fun s => decide (s.2 ≠ .other)
  refine Nat.lt_of_le_of_ne hfilter.length_le fun heq => hs' ?_
  have hmem : s ∈ sources.filter fun s => s.2 ≠ .other :=
    List.mem_filter.mpr ⟨hs, by simpa using hother⟩
  rw [← hfilter.eq_of_length heq] at hmem
  exact List.mem_of_mem_filter hmem

theorem childSources_append (sources : List (SourceId × Source)) (c : ChildRef)
    (id id' : SourceId) :
    childSources (sources ++ [(id, .child_watch c), (id', .timeout c)]) =
      childSources sources + 2 := by
  simp [childSources, List.filter_append]

theorem Ok.rank_lower {p p' : Daemon} {l : Label} (hok : Ok p)
    (hl : l.Own ∨ ∃ c, l = .child_watch c) (hn : p.next l = some p') :
    Daemon.Lower p'.rank p.rank := by
  cases Daemon.step_of_next hn with
  | handler | attach | remove =>
    obtain h | ⟨_, h⟩ := hl
    · exact h.elim
    · cases h
  | opens names hstack =>
    refine .left _ _ ?_
    simp [hstack]
  | closes hstack | skips hstack | returns hstack =>
    refine Prod.lex_iff.mpr (.inr ⟨?_, ?_⟩) <;> simp [Daemon.rank, hstack, Handler.weight]
  | spawns pid hstack =>
    cases pid with
    | none =>
      rw [Daemon.spawn_none (hok.fresh _ (Nat.le_refl _))]
      refine Prod.lex_iff.mpr (.inr ⟨?_, ?_⟩) <;> simp [Daemon.rank, hstack, Handler.weight]
    | some pid =>
      rw [Daemon.spawn_some]
      refine Prod.lex_iff.mpr (.inr ⟨?_, ?_⟩)
      · simp [Daemon.rank, hstack]
      · simp only [Daemon.rank, hstack, Handler.weight, childSources_append, List.map_cons,
          List.sum_cons, Option.elim_some, Option.elim_none, List.length_cons]
        omega
  | done hstack =>
    refine Prod.lex_iff.mpr (.inr ⟨?_, ?_⟩) <;>
      simp [Daemon.rank, hstack, Handler.weight, p.child_data_unref_sources]
  | watch hw =>
    obtain ⟨id, hs⟩ := hw
    obtain ⟨cd, hcd⟩ := hok.exists_child (.inr ⟨id, hs⟩)
    rw [Daemon.child_watch_eq hcd]
    obtain ⟨-, -, hstack, -⟩ := p.g_source_remove_keeps cd.timeout_id
    refine Prod.lex_iff.mpr (.inr ⟨by simp [Daemon.rank], ?_⟩)
    simp only [Daemon.rank, hstack]
    exact Nat.add_lt_add_left (childSources_lt
      (List.filter_sublist.trans (Daemon.g_source_remove_sublist _)) hs (by simp) (by simp)) _
  | @timeout c id hs =>
    obtain ⟨hstack, -⟩ := p.child_timeout_keeps c
    have hsources : (p._child_timeout c).sources = p.sources := by
      unfold Daemon._child_timeout
      split <;> rfl
    refine Prod.lex_iff.mpr (.inr ⟨by simp [Daemon.rank, Daemon.destroy, hstack], ?_⟩)
    simp only [Daemon.rank, Daemon.destroy, hstack, hsources]
    exact Nat.add_lt_add_left (childSources_lt List.filter_sublist hs (by simp) (by simp)) _

/-- The main loop never waits for a program without its timeout. -/
theorem Ok.progress {p : Daemon} (hok : Ok p) (hstack : p.stack ≠ []) :
    ∃ l, l.Own ∧ (p.next l).isSome := by
  obtain ⟨⟨number, frame, calls⟩, rest, hstack⟩ := List.exists_cons_of_ne_nil hstack
  match frame, calls with
  | none, [] => exact ⟨.handler_returns, trivial, by simp [Daemon.next, hstack]⟩
  | none, run :: calls => exact ⟨.g_dir_open none, trivial, by simp [Daemon.next, hstack]⟩
  | some ⟨run, [], none⟩, calls =>
    exact ⟨.g_dir_read_name, trivial, by simp [Daemon.next, hstack]⟩
  | some ⟨run, name :: names, none⟩, calls =>
    by_cases hsuffix : (cstr ".ck").isSuffixOf name = true
    · exact ⟨.g_spawn_async none, trivial, by simp [Daemon.next, hstack, hsuffix]⟩
    · exact ⟨.g_dir_read_name, trivial, by simp [Daemon.next, hstack, hsuffix]⟩
  | some ⟨run, names, some c⟩, calls =>
    have hheld : p.Held c := ⟨_, hstack ▸ List.mem_cons_self, rfl⟩
    obtain ⟨cd, hcd⟩ := hok.exists_child (.inl hheld)
    cases hr : cd.child_is_running with
    | false => exact ⟨.child_done, trivial, by simp [Daemon.next, hstack, hcd, hr]⟩
    | true =>
      have hany : p.sources.any (fun s => s.2 = .timeout c) = true :=
        List.any_eq_true.mpr ⟨_, ((hok.present c cd hcd).running hr).2.2, by simp⟩
      have hiter : p.iterates = true := by simp [Daemon.iterates, hstack]
      exact ⟨.child_timeout c, trivial, by
        simp [Daemon.next, hiter, hany]⟩

/-- No call is going on, and no program counts as running. -/
def Daemon.Returned (p : Daemon) : Prop :=
  p.stack = [] ∧ ∀ c cd, p.child c = some cd → cd.child_is_running = false

end CkRunPrograms
