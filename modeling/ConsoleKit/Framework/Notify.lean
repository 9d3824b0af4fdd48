import Mathlib.Data.List.Chain
import ConsoleKit.Framework.System

/-! # Observers of a value that changes

    A value has observers, who are called one after another when it
    changes; after the last of them the change is announced.  The calls take
    time, and the value may change again meanwhile: the changes that are
    being told form a stack, and only the last of them makes progress.

    This module provides:
    - `notifier`: the value, the changes that are being told, and what was
      called and announced so far,
    - `OneAtATime`: no change while another one is being told,
    - `InOrder`: the calls of each observer form a chain, and when nothing
      is left to tell, the last announcement is about the value,
    - `in_order`: the first gives the second in every run.
-/

namespace Notify

open LTS

/-! ## Section 1: The system -/

/-- A change that is being told: `rest` are the observers left to call. -/
structure Change (ω α : Type) where
  old : α
  new : α
  rest : List ω

structure State (ω α β : Type) where
  listening : Bool
  value : α
  /-- The changes that are being told, the last one first. -/
  changes : List (Change ω α)
  calls : List (ω × α × α)
  announced : List β

inductive Label (α : Type) where
  /-- The observers start to listen, before any of them was called. -/
  | join
  /-- They are not told of later changes. -/
  | leave
  | change (value : α)
  /-- The next observer has its turn; whether it can be called. -/
  | notify (called : Bool)
  /-- All were called. -/
  | announce

section

variable {ω α β : Type} [DecidableEq α]

/-- `announcement` is what is announced of a value, if anything. -/
def next (observers : List ω) (announcement : α → Option β) (n : State ω α β) :
    Label α → Option (State ω α β)
  | .join =>
      if n.changes.isEmpty && n.calls.isEmpty then some { n with listening := true } else none
  | .leave => some { n with listening := false }
  | .change value =>
      if n.value = value then none
      else some { n with
        value := value
        changes := ⟨n.value, value, if n.listening then observers else []⟩ :: n.changes }
  | .notify called =>
      match n.changes with
      | ⟨old, new, o :: rest⟩ :: changes => some { n with
          changes := ⟨old, new, rest⟩ :: changes
          calls := if called then n.calls ++ [(o, old, new)] else n.calls }
      | _ => none
  | .announce =>
      match n.changes with
      | ⟨_, new, []⟩ :: changes => some { n with
          changes := changes
          announced := n.announced ++ (announcement new).toList }
      | _ => none

/-- Nothing is announced of the initial value. -/
def notifier (observers : List ω) (announcement : α → Option β) :
    System (State ω α β) (Label α) where
  init n := ∃ listening value, announcement value = none ∧ n = ⟨listening, value, [], [], []⟩
  next := next observers announcement

end

/-! ## Section 2: What observers see -/

variable {ω α β : Type}

/-- The calls of an observer, each with the old and the new value. -/
def State.callsOf [DecidableEq ω] (n : State ω α β) (o : ω) : List (α × α) :=
  n.calls.filterMap fun c => if c.1 = o then some c.2 else none

/-- The old value of each call is the new value of the previous one. -/
def Chained (calls : List (α × α)) : Prop := calls.IsChain fun c c' => c'.1 = c.2

/-- What was called last, if anything, ends at this value. -/
def EndsAt (value : α) (calls : List (α × α)) : Prop := ∀ c ∈ calls.getLast?, c.2 = value

structure InOrder [DecidableEq ω] (announcement : α → Option β) (n : State ω α β) : Prop where
  chained : ∀ o, Chained (n.callsOf o)
  announced : n.changes = [] → ∀ b, announcement n.value = some b → n.announced.getLast? = some b

/-- A change waits until the one before is told, and whether an observer can
    be called does not change. -/
def OneAtATime (able : ω → Bool) (n : State ω α β) : Label α → Prop
  | .change _ => n.changes = []
  | .notify called => ∀ c ∈ n.changes.head?, ∀ o ∈ c.rest.head?, called = able o
  | _ => True

/-! ## Section 3: One call more -/

theorem Chained.nil : Chained ([] : List (α × α)) := List.isChain_nil

theorem EndsAt.nil (value : α) : EndsAt value [] := by simp [EndsAt]

theorem EndsAt.concat (calls : List (α × α)) (old new : α) :
    EndsAt new (calls ++ [(old, new)]) := by
  simp [EndsAt]

theorem Chained.concat {calls : List (α × α)} {old : α} (h : Chained calls)
    (hend : EndsAt old calls) (new : α) : Chained (calls ++ [(old, new)]) := by
  apply List.isChain_append.mpr
  refine ⟨h, List.isChain_singleton _, fun c hc c' hc' => ?_⟩
  obtain rfl := Option.some.inj hc'
  exact (hend c hc).symm

variable [DecidableEq ω] {n n' : State ω α β}

theorem callsOf_self {o : ω} {old new : α} (h : n'.calls = n.calls ++ [(o, old, new)]) :
    n'.callsOf o = n.callsOf o ++ [(old, new)] := by
  simp [State.callsOf, h, List.filterMap_append]

theorem callsOf_other {o o' : ω} {old new : α} (h : n'.calls = n.calls ++ [(o, old, new)])
    (hne : o ≠ o') : n'.callsOf o' = n.callsOf o' := by
  simp [State.callsOf, h, List.filterMap_append, hne]

theorem callsOf_congr (h : n'.calls = n.calls) (o : ω) : n'.callsOf o = n.callsOf o := by
  rw [State.callsOf, h, State.callsOf]

/-! ## Section 4: The invariant -/

/-- What holds while at most one change is being told: those who are still to
    be called know the old value, and all others the new one. -/
structure Telling (observers : List ω) (able : ω → Bool) (announcement : α → Option β)
    (n : State ω α β) : Prop where
  single : n.changes.length ≤ 1
  chained : ∀ o, Chained (n.callsOf o)
  unable : ∀ o, able o = false → n.callsOf o = []
  new : ∀ c ∈ n.changes, c.new = n.value
  nodup : ∀ c ∈ n.changes, c.rest.Nodup
  waiting : ∀ c ∈ n.changes, ∀ o ∈ c.rest, EndsAt c.old (n.callsOf o)
  told : n.listening = true → ∀ o ∈ observers, (∀ c ∈ n.changes, o ∉ c.rest) →
    EndsAt n.value (n.callsOf o)
  announced : n.changes = [] → ∀ b, announcement n.value = some b → n.announced.getLast? = some b

namespace Telling

variable {observers : List ω} {able : ω → Bool} {announcement : α → Option β}

theorem init (listening : Bool) {value : α} (hvalue : announcement value = none) :
    Telling observers able announcement ⟨listening, value, [], [], []⟩ where
  single := Nat.zero_le 1
  chained _ := .nil
  unable _ _ := rfl
  new _ hc := nomatch hc
  nodup _ hc := nomatch hc
  waiting _ hc := nomatch hc
  told _ _ _ _ := .nil value
  announced _ b hb := by
    rw [hvalue] at hb
    cases hb

/-- Only who listens has changed, and nobody was called if the observers do. -/
theorem listen (h : Telling observers able announcement n) (listening : Bool)
    (hnone : listening = true → n.calls = []) :
    Telling observers able announcement { n with listening := listening } where
  single := h.single
  chained := h.chained
  unable := h.unable
  new := h.new
  nodup := h.nodup
  waiting := h.waiting
  told hlistening o _ _ := by
    have hcalls : n.callsOf o = [] := by simp [State.callsOf, hnone hlistening]
    have hnil : EndsAt n.value (n.callsOf o) := hcalls ▸ .nil n.value
    exact hnil
  announced := h.announced

theorem change (h : Telling observers able announcement n) (hnodup : observers.Nodup)
    (hidle : n.changes = []) (value : α) :
    Telling observers able announcement { n with
      value := value
      changes := ⟨n.value, value, if n.listening then observers else []⟩ :: n.changes } := by
  -- whoever is called of this change knows the value that it starts from
  have hknow : ∀ o ∈ (if n.listening then observers else []), EndsAt n.value (n.callsOf o) := by
    intro o ho
    cases hlistening : n.listening with
    | false => simp [hlistening] at ho
    | true =>
      rw [hlistening] at ho
      exact h.told hlistening o ho (by simp [hidle])
  rw [hidle]
  constructor
  case single => exact Nat.le_refl 1
  case chained => exact h.chained
  case unable => exact h.unable
  case new =>
    intro c hc
    obtain rfl := List.mem_singleton.mp hc
    rfl
  case nodup =>
    intro c hc
    obtain rfl := List.mem_singleton.mp hc
    show List.Nodup (if n.listening then observers else [])
    split
    · exact hnodup
    · exact List.nodup_nil
  case waiting =>
    intro c hc
    obtain rfl := List.mem_singleton.mp hc
    exact hknow
  case told =>
    -- All observers are in the change if anybody is listened to.
    intro hlistening o ho hrest
    refine absurd ho ?_
    simpa [show n.listening = true from hlistening] using hrest
  case announced =>
    intro hc
    cases hc

theorem notify {old new : α} {o : ω} {rest : List ω} {changes : List (Change ω α)}
    (h : Telling observers able announcement n)
    (hchanges : n.changes = ⟨old, new, o :: rest⟩ :: changes) :
    Telling observers able announcement { n with
      changes := ⟨old, new, rest⟩ :: changes
      calls := if able o then n.calls ++ [(o, old, new)] else n.calls } := by
  obtain rfl : changes = [] := by
    have hsingle := h.single
    rw [hchanges] at hsingle
    exact List.eq_nil_of_length_eq_zero (by simpa using hsingle)
  have hc : (⟨old, new, o :: rest⟩ : Change ω α) ∈ n.changes := by simp [hchanges]
  obtain ⟨hother, hrest⟩ := List.nodup_cons.mp (h.nodup _ hc)
  have hnew : new = n.value := h.new _ hc
  -- the calls of the observer, and of the others
  have hself : ∀ n' : State ω α β, n'.calls =
      (if able o then n.calls ++ [(o, old, new)] else n.calls) →
      n'.callsOf o = if able o then n.callsOf o ++ [(old, new)] else [] := by
    intro n' hn'
    cases hable : able o with
    | true =>
      rw [hable] at hn'
      exact callsOf_self hn'
    | false =>
      rw [hable] at hn'
      exact (callsOf_congr hn' o).trans (h.unable o hable)
  have hothers : ∀ n' : State ω α β, n'.calls =
      (if able o then n.calls ++ [(o, old, new)] else n.calls) →
      ∀ o', o ≠ o' → n'.callsOf o' = n.callsOf o' := by
    intro n' hn' o' hne
    split at hn'
    · exact callsOf_other hn' hne
    · exact callsOf_congr hn' o'
  constructor
  case single => exact Nat.le_refl 1
  case chained =>
    -- The new call starts from the value that the last one ended at.
    intro o'
    by_cases heq : o = o'
    · subst heq
      rw [hself _ rfl]
      split
      · exact (h.chained o).concat (h.waiting _ hc o List.mem_cons_self) new
      · exact .nil
    · rw [hothers _ rfl o' heq]
      exact h.chained o'
  case unable =>
    intro o' hunable
    by_cases heq : o = o'
    · subst heq
      rw [hself _ rfl, hunable]
      rfl
    · rw [hothers _ rfl o' heq]
      exact h.unable o' hunable
  case new =>
    intro c hc'
    obtain rfl := List.mem_singleton.mp hc'
    exact hnew
  case nodup =>
    intro c hc'
    obtain rfl := List.mem_singleton.mp hc'
    exact hrest
  case waiting =>
    intro c hc' o' ho'
    obtain rfl := List.mem_singleton.mp hc'
    have hne : o ≠ o' := fun heq => hother (heq ▸ ho')
    rw [hothers _ rfl o' hne]
    exact h.waiting _ hc o' (List.mem_cons_of_mem o ho')
  case told =>
    intro hlistening o' ho' hdone
    -- Whoever has had the turn knows the value, by this call or an earlier one.
    have hdone : o' ∉ rest := hdone _ List.mem_cons_self
    by_cases heq : o = o'
    · subst heq
      rw [hself _ rfl]
      split
      · exact hnew ▸ .concat _ old new
      · exact .nil _
    · rw [hothers _ rfl o' heq]
      refine h.told hlistening o' ho' ?_
      simpa [hchanges] using ⟨Ne.symm heq, hdone⟩
  case announced =>
    intro hc'
    cases hc'

theorem announce {old new : α} {changes : List (Change ω α)}
    (h : Telling observers able announcement n)
    (hchanges : n.changes = ⟨old, new, []⟩ :: changes) :
    Telling observers able announcement { n with
      changes := changes
      announced := n.announced ++ (announcement new).toList } := by
  obtain rfl : changes = [] := by
    have hsingle := h.single
    rw [hchanges] at hsingle
    exact List.eq_nil_of_length_eq_zero (by simpa using hsingle)
  have hnew : new = n.value := h.new ⟨old, new, []⟩ (by simp [hchanges])
  constructor
  case single => exact Nat.zero_le 1
  case chained => exact h.chained
  case unable => exact h.unable
  case new =>
    intro c hc
    cases hc
  case nodup =>
    intro c hc
    cases hc
  case waiting =>
    intro c hc
    cases hc
  case told =>
    intro hlistening o ho _
    exact h.told hlistening o ho (by simp [hchanges])
  case announced =>
    intro _ b hb
    have hb : announcement n.value = some b := hb
    simp [hnew, hb]

theorem next [DecidableEq α] (h : Telling observers able announcement n)
    (hnodup : observers.Nodup) {label : Label α} (hok : OneAtATime able n label)
    (hnext : (notifier observers announcement).next n label = some n') :
    Telling observers able announcement n' := by
  cases label with
  | join =>
    obtain ⟨hidle, heq⟩ := Option.ite_none_right_eq_some.mp hnext
    obtain rfl := Option.some.inj heq
    exact h.listen true fun _ => List.isEmpty_iff.mp (Bool.and_eq_true_iff.mp hidle).2
  | leave =>
    obtain rfl := Option.some.inj hnext
    exact h.listen false fun hfalse => nomatch hfalse
  | change value =>
    obtain ⟨-, heq⟩ := Option.ite_none_left_eq_some.mp hnext
    obtain rfl := Option.some.inj heq
    exact h.change hnodup hok value
  | notify called =>
    simp only [notifier, Notify.next] at hnext
    split at hnext
    · rename_i old new o rest changes hchanges
      obtain rfl := Option.some.inj hnext
      obtain rfl : called = able o := hok ⟨old, new, o :: rest⟩ (by simp [hchanges]) o rfl
      exact h.notify hchanges
    · cases hnext
  | announce =>
    simp only [notifier, Notify.next] at hnext
    split at hnext
    · rename_i old new changes hchanges
      obtain rfl := Option.some.inj hnext
      exact h.announce hchanges
    · cases hnext

end Telling

/-- While one change at most is being told, observers see the changes in
    order. -/
theorem in_order [DecidableEq α] {observers : List ω} (hnodup : observers.Nodup)
    {able : ω → Bool} {announcement : α → Option β}
    (h : (notifier observers announcement).ReachableBy (OneAtATime able) n) :
    InOrder announcement n := by
  have htelling : Telling observers able announcement n := by
    refine h.invariant (I := Telling observers able announcement) ?_ ?_
    · rintro n ⟨listening, value, hvalue, rfl⟩
      exact .init listening hvalue
    · intro n label n' hn hok hnext
      exact hn.next hnodup hok hnext
  exact ⟨htelling.chained, htelling.announced⟩

end Notify
