import Mathlib.Logic.Basic
import Mathlib.Data.Option.Basic

/-! # Executable labelled transition systems

    A `System` is a set of initial states with a step function: `next s l`
    is the state after label `l` fires in `s`, or `none` when `l` is not
    enabled there.  Every environment choice is part of the label, so a
    step is a function and a run is a list of labels.

    This module provides:
    - `ReachableBy ok`: the states reached by steps that all meet a
      condition `ok` on the state before the step and its label,
    - the invariant rules for it,
    - `startingAt` and `runBy`: runs from a given state, and runs whose
      steps are tested one by one,
    - `Along`: a property of every transition of a run, and the rules
      that compare two such properties,
    - `Inevitable`: what every run comes to that goes on, and its rule.
-/

namespace LTS

universe u v
variable {State : Type u} {Label : Type v}

/-- A labelled transition system with an executable step. -/
structure System (State : Type u) (Label : Type v) where
  /-- The initial states. -/
  init : State → Prop
  /-- One step; `none` when the label is not enabled. -/
  next : State → Label → Option State

namespace System

/-! ## Runs and reachable states -/

/-- The state after the labels of a run, if all of them were enabled. -/
def run (sys : System State Label) (s : State) : List Label → Option State
  | [] => some s
  | l :: ls => (sys.next s l).bind fun s' => run sys s' ls

/-- States reached from an initial state by steps that all meet `ok`. -/
inductive ReachableBy (sys : System State Label) (ok : State → Label → Prop) :
    State → Prop where
  | init : ∀ {s}, sys.init s → ReachableBy sys ok s
  | step : ∀ {s l s'}, ReachableBy sys ok s → ok s l → sys.next s l = some s' →
      ReachableBy sys ok s'

/-- States reached from an initial state by any steps. -/
def Reachable (sys : System State Label) : State → Prop :=
  ReachableBy sys fun _ _ => True

variable {sys : System State Label} {ok ok' : State → Label → Prop}

@[simp] theorem run_nil (s : State) : sys.run s [] = some s := rfl

theorem run_cons (s : State) (l : Label) (ls : List Label) :
    sys.run s (l :: ls) = (sys.next s l).bind fun s' => sys.run s' ls := rfl

theorem run_append (s : State) (ls ls' : List Label) :
    sys.run s (ls ++ ls') = (sys.run s ls).bind fun t => sys.run t ls' := by
  induction ls generalizing s with
  | nil => rfl
  | cons l ls ih =>
    rw [List.cons_append, run_cons, run_cons, Option.bind_assoc]
    exact Option.bind_congr fun s' _ => ih s'

theorem Reachable.init {s : State} (h : sys.init s) : sys.Reachable s :=
  ReachableBy.init h

theorem Reachable.step {s s' : State} {l : Label} (h : sys.Reachable s)
    (hn : sys.next s l = some s') : sys.Reachable s' :=
  ReachableBy.step h trivial hn

/-- A weaker condition on the steps reaches at least as many states. -/
theorem ReachableBy.mono (himp : ∀ s l, ok s l → ok' s l) {s : State}
    (h : sys.ReachableBy ok s) : sys.ReachableBy ok' s := by
  induction h with
  | init hi => exact .init hi
  | step _ hok hn ih => exact .step ih (himp _ _ hok) hn

theorem ReachableBy.reachable {s : State} (h : sys.ReachableBy ok s) : sys.Reachable s :=
  h.mono fun _ _ _ => trivial

/-- **Invariant rule**: what holds initially and survives every step that
    meets `ok` holds in every state reached by such steps. -/
theorem ReachableBy.invariant {I : State → Prop}
    (hinit : ∀ s, sys.init s → I s)
    (hstep : ∀ s l s', I s → ok s l → sys.next s l = some s' → I s')
    {s : State} (h : sys.ReachableBy ok s) : I s := by
  induction h with
  | init hi => exact hinit _ hi
  | step _ hok hn ih => exact hstep _ _ _ ih hok hn

/-- The invariant rule for all runs. -/
theorem Reachable.invariant {I : State → Prop}
    (hinit : ∀ s, sys.init s → I s)
    (hstep : ∀ s l s', I s → sys.next s l = some s' → I s')
    {s : State} (h : sys.Reachable s) : I s :=
  ReachableBy.invariant hinit (fun s l s' hi _ hn => hstep s l s' hi hn) h

/-- The states of a run from a reachable state are reachable. -/
theorem Reachable.run {s s' : State} {ls : List Label} (h : sys.Reachable s)
    (hrun : sys.run s ls = some s') : sys.Reachable s' := by
  induction ls generalizing s with
  | nil =>
    cases hrun
    exact h
  | cons l ls ih =>
    rw [run_cons, Option.bind_eq_some_iff] at hrun
    obtain ⟨t, hn, ht⟩ := hrun
    exact ih (h.step hn) ht

/-- A component of a system: where each step is one of the component's own,
    or leaves it alone, the component is in a state that it can reach by
    itself. -/
theorem ReachableBy.project {State' : Type u} {Label' : Type v} {part : System State' Label'}
    {ok' : State' → Label' → Prop} (f : State → State')
    (hinit : ∀ s, sys.init s → part.init (f s))
    (hstep : ∀ s l s', ok s l → sys.next s l = some s' →
      f s' = f s ∨ ∃ l', ok' (f s) l' ∧ part.next (f s) l' = some (f s'))
    {s : State} (h : sys.ReachableBy ok s) : part.ReachableBy ok' (f s) := by
  induction h with
  | init hi => exact .init (hinit _ hi)
  | step _ hok hn ih =>
    rcases hstep _ _ _ hok hn with heq | ⟨l', hok', hn'⟩
    · rw [heq]
      exact ih
    · exact .step ih hok' hn'

/-! ## Runs from a given state, and runs that are checked -/

/-- The same system, started in a given state. -/
def startingAt (sys : System State Label) (s : State) : System State Label where
  init := (· = s)
  next := sys.next

theorem ReachableBy.trans {s t : State} (hs : sys.ReachableBy ok s)
    (ht : (sys.startingAt s).ReachableBy ok t) : sys.ReachableBy ok t := by
  induction ht with
  | init h =>
    obtain rfl := h
    exact hs
  | step _ hok hn ih => exact .step ih hok hn

theorem ReachableBy.refl (s : State) : (sys.startingAt s).ReachableBy ok s :=
  .init rfl

/-- The run `ls` from `s`, as long as its steps pass a test. -/
def runBy (sys : System State Label) (test : State → Label → Bool) (s : State) :
    List Label → Option State
  | [] => some s
  | l :: ls => if test s l then (sys.next s l).bind fun s' => runBy sys test s' ls else none

theorem startingAt_runBy (test : State → Label → Bool) (s t : State) (ls : List Label) :
    (sys.startingAt t).runBy test s ls = sys.runBy test s ls := by
  induction ls generalizing s with
  | nil => rfl
  | cons l ls ih => simp only [System.runBy, ih]; rfl

/-- A test that is sound in reachable states yields reachable states. -/
theorem ReachableBy.runBy {test : State → Label → Bool}
    (htest : ∀ s l, sys.ReachableBy ok s → test s l = true → ok s l) {s t : State}
    {ls : List Label} (hs : sys.ReachableBy ok s) (hrun : sys.runBy test s ls = some t) :
    sys.ReachableBy ok t := by
  induction ls generalizing s with
  | nil =>
    cases hrun
    exact hs
  | cons l ls ih =>
    rw [System.runBy] at hrun
    split at hrun
    · rename_i hl
      obtain ⟨s', hn, ht⟩ := Option.bind_eq_some_iff.mp hrun
      exact ih (.step hs (htest s l hs hl) hn) ht
    · cases hrun

/-! ## Properties of every transition of a run -/

/-- `P` holds of every transition that the run `ls` from `s` makes. -/
def Along (sys : System State Label) (P : State → Label → State → Prop) (s : State) :
    List Label → Prop
  | [] => True
  | l :: ls => ∀ s', sys.next s l = some s' → P s l s' ∧ Along sys P s' ls

variable {P Q : State → Label → State → Prop}

/-- Two properties that agree on the transitions from states where `I`
    holds agree on whole runs, when `P` carries `I` to the next state. -/
theorem along_congr {I : State → Prop}
    (hiff : ∀ s l s', I s → sys.next s l = some s' → (P s l s' ↔ Q s l s'))
    (hstep : ∀ s l s', I s → sys.next s l = some s' → P s l s' → I s')
    {s : State} (hs : I s) (ls : List Label) :
    sys.Along P s ls ↔ sys.Along Q s ls := by
  induction ls generalizing s with
  | nil => exact Iff.rfl
  | cons l ls ih =>
    refine forall_congr' fun s' => imp_congr_right fun hn => ?_
    rw [← hiff s l s' hs hn]
    exact and_congr_right fun hP => ih (hstep s l s' hs hn hP)

theorem along_and (P Q : State → Label → State → Prop) (s : State) (ls : List Label) :
    sys.Along (fun s l s' => P s l s' ∧ Q s l s') s ls ↔ sys.Along P s ls ∧ sys.Along Q s ls := by
  induction ls generalizing s with
  | nil => exact ⟨fun _ => ⟨trivial, trivial⟩, fun _ => trivial⟩
  | cons l ls ih =>
    constructor
    · intro h
      refine ⟨fun s' hn => ⟨(h s' hn).1.1, ((ih s').mp (h s' hn).2).1⟩,
        fun s' hn => ⟨(h s' hn).1.2, ((ih s').mp (h s' hn).2).2⟩⟩
    · rintro ⟨hP, hQ⟩ s' hn
      exact ⟨⟨(hP s' hn).1, (hQ s' hn).1⟩, (ih s').mpr ⟨(hP s' hn).2, (hQ s' hn).2⟩⟩

/-- What every transition with a label of the run has, the run has. -/
theorem along_of_forall {s : State} {ls : List Label} (h : ∀ l ∈ ls, ∀ s s', P s l s') :
    sys.Along P s ls := by
  induction ls generalizing s with
  | nil => trivial
  | cons l ls ih =>
    exact fun s' _ => ⟨h l (by simp) s s', ih fun l' hl' => h l' (by simp [hl'])⟩

/-- What a test guarantees of the transitions, a run whose steps all pass it
    has. -/
theorem along_of_tested {test : State → Label → Bool}
    (htest : ∀ s l s', test s l = true → sys.next s l = some s' → P s l s') {s t : State}
    {ls : List Label} (hrun : sys.runBy test s ls = some t) : sys.Along P s ls := by
  induction ls generalizing s with
  | nil => trivial
  | cons l ls ih =>
    rw [System.runBy] at hrun
    split at hrun
    · rename_i hl
      obtain ⟨u, hu, hrun⟩ := Option.bind_eq_some_iff.mp hrun
      intro s' hn
      obtain rfl := Option.some.inj (hu.symm.trans hn)
      exact ⟨htest s l u hl hu, ih hrun⟩
    · cases hrun

theorem along_of_runBy {test : State → Label → Bool}
    (htest : ∀ s l s', test s l = true → P s l s') {s t : State} {ls : List Label}
    (hrun : sys.runBy test s ls = some t) : sys.Along P s ls :=
  along_of_tested (fun s l s' hl _ => htest s l s' hl) hrun

theorem along_concat {s : State} {ls : List Label} {l : Label} (h : sys.Along P s ls)
    (hl : ∀ t, sys.run s ls = some t → ∀ t', sys.next t l = some t' → P t l t') :
    sys.Along P s (ls ++ [l]) := by
  induction ls generalizing s with
  | nil => exact fun t' hn => ⟨hl s rfl t' hn, trivial⟩
  | cons l' ls ih =>
    refine fun s' hn => ⟨(h s' hn).1, ih (h s' hn).2 fun t ht => hl t ?_⟩
    rw [run_cons, hn]
    exact ht

/-- The last transition of a run. -/
theorem Along.last {s t t' : State} {ls : List Label} {l : Label}
    (h : sys.Along P s (ls ++ [l])) (hrun : sys.run s ls = some t) (hn : sys.next t l = some t') :
    P t l t' := by
  induction ls generalizing s with
  | nil =>
    cases hrun
    exact (h t' hn).1
  | cons l' ls ih =>
    obtain ⟨u, hu, hrun⟩ := Option.bind_eq_some_iff.mp hrun
    exact ih (h u hu).2 hrun

/-- A property of all transitions from reachable states holds along every
    run from one. -/
theorem Reachable.along (hP : ∀ s l s', sys.Reachable s → sys.next s l = some s' → P s l s')
    {s : State} (hs : sys.Reachable s) (ls : List Label) : sys.Along P s ls := by
  induction ls generalizing s with
  | nil => trivial
  | cons l ls ih => exact fun s' hn => ⟨hP s l s' hs hn, ih (hs.step hn)⟩

/-! ## What runs come to -/

/-- Every run of steps whose labels are `allowed`, if it goes on as long as it
    can, comes to a state where `P` holds: it neither stops before nor goes on
    for ever. -/
inductive Inevitable (sys : System State Label) (allowed : Label → Prop) (P : State → Prop) :
    State → Prop where
  | now : ∀ {s}, P s → Inevitable sys allowed P s
  | step : ∀ {s}, (∃ l s', allowed l ∧ sys.next s l = some s') →
      (∀ l s', allowed l → sys.next s l = some s' → Inevitable sys allowed P s') →
      Inevitable sys allowed P s

theorem Inevitable.mono {allowed : Label → Prop} {P Q : State → Prop} (himp : ∀ s, P s → Q s)
    {s : State} (h : sys.Inevitable allowed P s) : sys.Inevitable allowed Q s := by
  induction h with
  | now hP => exact .now (himp _ hP)
  | step hprog _ ih => exact .step hprog ih

/-- **Progress rule**: where `P` does not hold, some step is possible, and
    every step goes down in a well-founded order. -/
theorem inevitable_of_wf {allowed : Label → Prop} {P I : State → Prop} {Rank : Type u}
    (rank : State → Rank) {r : Rank → Rank → Prop} (hwf : WellFounded r)
    (hstep : ∀ s l s', I s → allowed l → sys.next s l = some s' → I s')
    (hprog : ∀ s, I s → ¬ P s → ∃ l s', allowed l ∧ sys.next s l = some s')
    (hdown : ∀ s l s', I s → allowed l → sys.next s l = some s' → r (rank s') (rank s))
    {s : State} (hs : I s) : sys.Inevitable allowed P s := by
  induction h : rank s using hwf.induction generalizing s with
  | _ n ih =>
    subst h
    by_cases hP : P s
    · exact .now hP
    · exact .step (hprog s hs hP) fun l s' hl hn =>
        ih _ (hdown s l s' hs hl hn) (hstep s l s' hs hl hn) rfl

end System

end LTS
