import Mathlib.Data.Nat.Basic

/-! # Cyclic counters

    A counter runs through the numbers of an interval and starts anew behind
    the last one.  A search takes numbers from it until it comes to one that
    is free.

    This module provides:
    - `Counter`, with `next` and the `distance` from one number to another,
    - `search`, for a bounded number of rounds,
    - `search_eq_some`, `search_eq_none`: what it finds, and when it finds
      nothing.
-/

structure Counter where
  first : Nat
  limit : Nat
  nonempty : first < limit

namespace Counter

variable (c : Counter)

/-- The numbers of the counter. -/
def Mem (s : Nat) : Prop := c.first ≤ s ∧ s < c.limit

instance (s : Nat) : Decidable (c.Mem s) := inferInstanceAs (Decidable (_ ∧ _))

def next (s : Nat) : Nat := if s + 1 < c.limit then s + 1 else c.first

/-- How often the counter steps on the way from `s` to `k`. -/
def distance (s k : Nat) : Nat := if s ≤ k then k - s else k + (c.limit - c.first) - s

/-- The number to which it comes from `s` in `i` steps, less than a round. -/
def after (s i : Nat) : Nat := if s + i < c.limit then s + i else s + i - (c.limit - c.first)

variable {c} {s k : Nat}

theorem next_mem (hs : c.Mem s) : c.Mem (c.next s) := by
  have hne := c.nonempty
  unfold Mem next at *
  split <;> omega

theorem after_mem {i : Nat} (hs : c.Mem s) (hi : i < c.limit - c.first) : c.Mem (c.after s i) := by
  unfold Mem after at *
  split <;> omega

theorem distance_self : c.distance s s = 0 := by
  unfold distance
  rw [if_pos (Nat.le_refl s), Nat.sub_self]

theorem distance_lt (hs : c.Mem s) (hk : c.Mem k) : c.distance s k < c.limit - c.first := by
  unfold Mem distance at *
  split <;> omega

theorem distance_after {i : Nat} (hs : c.Mem s) (hi : i < c.limit - c.first) :
    c.distance s (c.after s i) = i := by
  unfold Mem distance after at *
  split <;> split <;> omega

/-- A step brings the counter nearer to all other numbers. -/
theorem distance_next (hs : c.Mem s) (hk : c.Mem k) (hne : k ≠ s) :
    c.distance (c.next s) k + 1 = c.distance s k := by
  unfold Mem distance next at *
  split <;> split <;> split <;> omega

theorem distance_inj {k' : Nat} (hs : c.Mem s) (hk : c.Mem k) (hk' : c.Mem k')
    (h : c.distance s k = c.distance s k') : k = k' := by
  unfold Mem distance at *
  split at h <;> split at h <;> omega

/-! ## Searching -/

/-- The first number that is not taken, and the one after it. -/
def search (c : Counter) (taken : Nat → Bool) : Nat → Nat → Option (Nat × Nat)
  | 0, _ => none
  | rounds + 1, s =>
    if taken s then search c taken rounds (c.next s) else some (s, c.next s)

variable {taken : Nat → Bool} {rounds : Nat}

/-- What is found is free, and everything on the way to it is taken. -/
theorem search_eq_some {r : Nat × Nat} (hs : c.Mem s)
    (h : c.search taken rounds s = some r) :
    c.Mem r.1 ∧ taken r.1 = false ∧ c.Mem r.2 ∧
      ∀ k, c.Mem k → c.distance s k < c.distance s r.1 → taken k = true := by
  induction rounds generalizing s with
  | zero => cases h
  | succ rounds ih =>
    rw [search] at h
    split at h
    · rename_i htaken
      obtain ⟨hmem, hfree, hnext, hbefore⟩ := ih (next_mem hs) h
      refine ⟨hmem, hfree, hnext, fun k hk hlt => ?_⟩
      by_cases hks : k = s
      · rw [hks]
        exact htaken
      · -- Seen from the next number, both are one step nearer.
        have hne : r.1 ≠ s := by
          rintro heq
          rw [heq, htaken] at hfree
          cases hfree
        apply hbefore k hk
        have hk' := distance_next hs hk hks
        have hr' := distance_next hs hmem hne
        omega
    · rename_i hfree
      obtain rfl := Option.some.inj h
      refine ⟨hs, eq_false_of_ne_true hfree, next_mem hs, fun k _ hlt => ?_⟩
      rw [distance_self] at hlt
      exact absurd hlt (Nat.not_lt_zero _)

/-- The rounds of a search that finds nothing have all come to numbers that
    are taken. -/
theorem search_eq_none (hs : c.Mem s) (h : c.search taken rounds s = none) :
    ∀ k, c.Mem k → c.distance s k < rounds → taken k = true := by
  induction rounds generalizing s with
  | zero => exact fun k _ hlt => absurd hlt (Nat.not_lt_zero _)
  | succ rounds ih =>
    rw [search] at h
    split at h
    · rename_i htaken
      intro k hk hlt
      by_cases hks : k = s
      · rw [hks]
        exact htaken
      · have hk' := distance_next hs hk hks
        exact ih (next_mem hs) h k hk (by omega)
    · cases h

/-- If all numbers are taken, no number of rounds is enough. -/
theorem search_full (hs : c.Mem s) (h : ∀ k, c.Mem k → taken k = true) (rounds : Nat) :
    c.search taken rounds s = none := by
  induction rounds generalizing s with
  | zero => rfl
  | succ rounds ih =>
    rw [search, if_pos (h s hs)]
    exact ih (next_mem hs)

end Counter
