import Mathlib.Data.Set.Insert
import Mathlib.Logic.Relation

/-! # Change feeds

    A server keeps a table whose entries come and go, and reports what has
    changed, but not always at once.  A client asks for the entries once, and
    then follows the reports.

    This module provides:
    - `follow`: what a client knows that follows the reports,
    - `Registry`: a table together with what is still to be reported,
    - `Registry.follow_run`: in every run, a client that follows the reports
      knows the entries, but for those of which a report is still to come.
-/

namespace Feed

variable {α : Type}

/-! ## Section 1: Following the reports -/

inductive Change (α : Type) where
  | added (a : α)
  | removed (a : α)

/-- What the change is about. -/
def Change.entry : Change α → α
  | added a | removed a => a

def Change.map {β : Type} (f : α → β) : Change α → Change β
  | added a => added (f a)
  | removed a => removed (f a)

theorem Change.map_congr {β : Type} {f g : α → β} {log : List (Change α)}
    (h : ∀ c ∈ log, f c.entry = g c.entry) :
    log.map (Change.map f) = log.map (Change.map g) := by
  refine List.map_congr_left fun c hc => ?_
  have heq := h c hc
  cases c with
  | added a => exact congrArg Change.added heq
  | removed a => exact congrArg Change.removed heq

def Change.apply (known : Set α) : Change α → Set α
  | added a => insert a known
  | removed a => known \ {a}

def follow (known : Set α) (log : List (Change α)) : Set α := log.foldl Change.apply known

@[simp] theorem follow_nil (known : Set α) : follow known [] = known := rfl

theorem follow_cons (known : Set α) (c : Change α) (log : List (Change α)) :
    follow known (c :: log) = follow (c.apply known) log := rfl

theorem follow_append (known : Set α) (log log' : List (Change α)) :
    follow known (log ++ log') = follow (follow known log) log' := List.foldl_append

/-- Where the client starts from matters for an entry only until the first
    report about it. -/
theorem mem_follow_congr {known known' : Set α} {log : List (Change α)} {a : α}
    (h : (a ∈ known ↔ a ∈ known') ∨ a ∈ log.map Change.entry) :
    a ∈ follow known log ↔ a ∈ follow known' log := by
  induction log generalizing known known' with
  | nil => exact h.resolve_right List.not_mem_nil
  | cons c log ih =>
    rw [follow_cons, follow_cons]
    apply ih
    by_cases hc : a = c.entry
    · left
      subst hc
      cases c <;> simp [Change.apply, Change.entry]
    · rcases h with h | h
      · left
        cases c <;> simp_all [Change.apply, Change.entry]
      · exact .inr ((List.mem_cons.mp h).resolve_left hc)

/-! ## Section 2: A table and its reports -/

structure Registry (α : Type) where
  present : Set α
  /-- What is in the table, and still to be reported as added. -/
  announcing : Set α
  /-- What was in the table, and is still to be reported as removed. -/
  retracting : Set α
  log : List (Change α)

namespace Registry

inductive Step (r : Registry α) : Registry α → Prop where
  | insert (a : α) : a ∉ r.present → a ∉ r.retracting →
      Step r { r with
        present := insert a r.present
        announcing := insert a r.announcing }
  | announce (a : α) : a ∈ r.announcing →
      Step r { r with
        announcing := r.announcing \ {a}
        log := r.log ++ [.added a] }
  | erase (a : α) : a ∈ r.present → a ∉ r.announcing →
      Step r { r with
        present := r.present \ {a}
        retracting := insert a r.retracting }
  | retract (a : α) : a ∈ r.retracting →
      Step r { r with
        retracting := r.retracting \ {a}
        log := r.log ++ [.removed a] }

/-- No report about the entry is still to come. -/
def Reported (r : Registry α) (a : α) : Prop := a ∉ r.announcing ∧ a ∉ r.retracting

/-- What has been reported. -/
def known (r : Registry α) : Set α := (r.present \ r.announcing) ∪ r.retracting

structure Valid (r : Registry α) : Prop where
  announcing : r.announcing ⊆ r.present
  retracting : ∀ a ∈ r.retracting, a ∉ r.present

variable {r r' : Registry α} {a : α}

theorem Reported.mem_known (h : r.Reported a) : a ∈ r.known ↔ a ∈ r.present := by
  simp [known, h.1, h.2]

theorem Valid.step (hv : r.Valid) (h : r.Step r') : r'.Valid := by
  obtain ⟨hannouncing, hretracting⟩ := hv
  cases h with
  | insert a hnew hgone =>
    refine ⟨Set.insert_subset_insert hannouncing, fun b hb => ?_⟩
    rintro (rfl | hpresent)
    · exact hgone hb
    · exact hretracting b hb hpresent
  | announce a ha => exact ⟨fun b hb => hannouncing hb.1, hretracting⟩
  | erase a ha hreported =>
    refine ⟨fun b hb => ⟨hannouncing hb, ?_⟩, fun b hb hpresent => ?_⟩
    · rintro rfl
      exact hreported hb
    · rcases hb with rfl | hb
      · exact hpresent.2 rfl
      · exact hretracting b hb hpresent.1
  | retract a ha => exact ⟨hannouncing, fun b hb => hretracting b hb.1⟩

theorem follow_step (hv : r.Valid) (h : r.Step r') :
    ∃ new, r'.log = r.log ++ new ∧ r'.known = follow r.known new ∧
      ∀ a, ¬ r.Reported a → r'.Reported a → a ∈ new.map Change.entry := by
  obtain ⟨hannouncing, hretracting⟩ := hv
  cases h with
  | insert a hnew hgone =>
    refine ⟨[], (List.append_nil _).symm, ?_, fun b hb hb' => ?_⟩
    · ext b
      by_cases hb : b = a <;> simp [known, hb, hnew, hgone]
    · exact absurd ⟨fun hmem => hb'.1 (.inr hmem), hb'.2⟩ hb
  | announce a ha =>
    refine ⟨[.added a], rfl, ?_, fun b hb hb' => ?_⟩
    · ext b
      by_cases hb : b = a
      · simp [known, follow, Change.apply, hb, hannouncing ha]
      · simp [known, follow, Change.apply, hb]
    · by_contra hne
      refine hb ⟨fun hmem => hb'.1 ⟨hmem, fun heq => hne ?_⟩, hb'.2⟩
      simpa [Change.entry] using heq
  | erase a ha hreported =>
    refine ⟨[], (List.append_nil _).symm, ?_, fun b hb hb' => ?_⟩
    · ext b
      by_cases hb : b = a <;> simp [known, hb, ha, hreported]
    · exact absurd ⟨hb'.1, fun hmem => hb'.2 (.inr hmem)⟩ hb
  | retract a ha =>
    refine ⟨[.removed a], rfl, ?_, fun b hb hb' => ?_⟩
    · ext b
      by_cases hb : b = a
      · simp [known, follow, Change.apply, hb, hretracting a ha]
      · simp [known, follow, Change.apply, hb]
    · by_contra hne
      refine hb ⟨hb'.1, fun hmem => hb'.2 ⟨hmem, fun heq => hne ?_⟩⟩
      simpa [Change.entry] using heq

/-- **Run lemma**.  A client that asks for the table at any time and then
    follows the reports has the right answer for each entry of which no
    report is still to come. -/
theorem follow_run (hv : r.Valid) (h : Relation.ReflTransGen Step r r') :
    r'.Valid ∧ ∃ later, r'.log = r.log ++ later ∧
      ∀ a, r'.Reported a → (a ∈ follow r.present later ↔ a ∈ r'.present) := by
  have hrun : r'.Valid ∧ ∃ later, r'.log = r.log ++ later ∧ r'.known = follow r.known later ∧
      ∀ a, ¬ r.Reported a → r'.Reported a → a ∈ later.map Change.entry := by
    induction h with
    | refl => exact ⟨hv, [], (List.append_nil _).symm, rfl, fun a hr hr' => absurd hr' hr⟩
    | tail _ hstep ih =>
      rename_i s t _
      obtain ⟨hs, later, hlog, hknown, htold⟩ := ih
      obtain ⟨new, hlog', hknown', htold'⟩ := follow_step hs hstep
      refine ⟨hs.step hstep, later ++ new, by rw [hlog', hlog, List.append_assoc], ?_, ?_⟩
      · rw [hknown', hknown, follow_append]
      · intro a hr hr'
        rw [List.map_append, List.mem_append]
        by_cases hs' : s.Reported a
        · exact .inl (htold a hr hs')
        · exact .inr (htold' a hs' hr')
  obtain ⟨hv', later, hlog, hknown, htold⟩ := hrun
  refine ⟨hv', later, hlog, fun a hr' => ?_⟩
  rw [← hr'.mem_known, hknown]
  apply mem_follow_congr
  by_cases hr : r.Reported a
  · exact .inl hr.mem_known.symm
  · exact .inr (htold a hr hr')

end Registry

end Feed
