import Mathlib.Data.List.Basic

/-! # Journals

    A journal is a list of entries that is only appended to.  Some entries
    start the time of something, some end it, and some interrupt everything
    whose time has started.  A reader who wants to know how a time ended
    searches forward for the first entry that ends it or interrupts.

    This module provides:
    - `endOf`, the entry that the reader finds,
    - `Orderly`: when entries were appended so that the reader is right,
    - `Orderly.endOf_eq`: what the reader finds in such a journal,
    - `readBack`: reading the parts of a journal from the last one on,
    - `flatten_reverse_set`: appending to a part that is not the last one.
-/

namespace Journal

/-- How the entries are read; none starts and ends something at once. -/
structure Reading (α κ : Type) where
  starts : α → Option κ
  ends : α → Option κ
  interrupts : α → Bool
  disjoint : ∀ a k, starts a = some k → ends a = none

section
variable {α κ : Type} (r : Reading α κ)

/-- The first entry that ends `k`, or interrupts it. -/
def endOf [DecidableEq κ] (k : κ) (entries : List α) : Option α :=
  entries.find? fun a => decide (r.ends a = some k) || r.interrupts a

def Started (entries : List α) (k : κ) : Prop := ∃ a ∈ entries, r.starts a = some k

def Ended (entries : List α) (k : κ) : Prop := ∃ a ∈ entries, r.ends a = some k

/-- Nothing starts after it has ended, and when an entry interrupts,
    everything that has started has ended. -/
inductive Orderly : List α → Prop where
  | nil : Orderly []
  | concat : ∀ {entries a}, Orderly entries →
      (∀ k, r.starts a = some k → ¬ Ended r entries k) →
      (r.interrupts a = true → ∀ k, Started r entries k → Ended r entries k) →
      Orderly (entries ++ [a])

/-- An entry that neither starts nor ends anything. -/
def Passive (a : α) : Prop := r.starts a = none ∧ r.ends a = none

variable {r}

theorem started_append {entries entries' : List α} {k : κ} :
    Started r (entries ++ entries') k ↔ Started r entries k ∨ Started r entries' k := by
  simp only [Started, List.mem_append, or_and_right, exists_or]

theorem ended_append {entries entries' : List α} {k : κ} :
    Ended r (entries ++ entries') k ↔ Ended r entries k ∨ Ended r entries' k := by
  simp only [Ended, List.mem_append, or_and_right, exists_or]

theorem started_singleton {a : α} {k : κ} : Started r [a] k ↔ r.starts a = some k := by
  simp [Started]

theorem ended_singleton {a : α} {k : κ} : Ended r [a] k ↔ r.ends a = some k := by
  simp [Ended]

theorem started_append_passive {entries entries' : List α}
    (hpassive : ∀ a ∈ entries', Passive r a) {k : κ} :
    Started r (entries ++ entries') k ↔ Started r entries k := by
  rw [started_append, or_iff_left]
  rintro ⟨a, ha, hk⟩
  rw [(hpassive a ha).1] at hk
  cases hk

theorem ended_append_passive {entries entries' : List α}
    (hpassive : ∀ a ∈ entries', Passive r a) {k : κ} :
    Ended r (entries ++ entries') k ↔ Ended r entries k := by
  rw [ended_append, or_iff_left]
  rintro ⟨a, ha, hk⟩
  rw [(hpassive a ha).2] at hk
  cases hk

theorem started_of_split {before after : List α} {a : α} {k : κ} (ha : r.starts a = some k) :
    Started r (before ++ a :: after) k :=
  ⟨a, List.mem_append_right before List.mem_cons_self, ha⟩

/-- An entry that starts something comes before passive entries at the end. -/
theorem split_append_passive {entries entries' before after : List α} {a : α} {k : κ}
    (hpassive : ∀ a ∈ entries', Passive r a) (ha : r.starts a = some k)
    (h : entries ++ entries' = before ++ a :: after) :
    ∃ rest, entries = before ++ a :: rest ∧ after = rest ++ entries' := by
  have hnot : a ∉ entries' := by
    intro hmem
    rw [(hpassive a hmem).1] at ha
    cases ha
  rcases List.append_eq_append_iff.mp h with ⟨as, -, hentries'⟩ | ⟨cs, hentries, hafter⟩
  · exact absurd (hentries' ▸ List.mem_append_right as List.mem_cons_self) hnot
  · cases cs with
    | nil => exact absurd (List.nil_append entries' ▸ hafter ▸ List.mem_cons_self) hnot
    | cons b rest =>
      obtain ⟨rfl, rfl⟩ := List.cons.inj hafter
      exact ⟨rest, hentries, rfl⟩

/-- Passive entries can be appended, interruptions if everything has ended. -/
theorem Orderly.append_passive {entries entries' : List α} (h : Orderly r entries)
    (hpassive : ∀ a ∈ entries', Passive r a)
    (hinterrupts : (∃ a ∈ entries', r.interrupts a = true) →
      ∀ k, Started r entries k → Ended r entries k) : Orderly r (entries ++ entries') := by
  induction entries' generalizing entries with
  | nil =>
    rw [List.append_nil]
    exact h
  | cons a entries' ih =>
    have ha := hpassive a List.mem_cons_self
    have hsingle : ∀ b ∈ [a], Passive r b := by
      intro b hb
      obtain rfl := List.mem_singleton.mp hb
      exact ha
    have hconcat : Orderly r (entries ++ [a]) := by
      apply h.concat
      · intro k hk
        rw [ha.1] at hk
        cases hk
      · exact fun htrue => hinterrupts ⟨a, List.mem_cons_self, htrue⟩
    rw [List.append_cons]
    apply ih hconcat
    · exact fun b hb => hpassive b (List.mem_cons_of_mem a hb)
    · rintro ⟨b, hb, htrue⟩ k hk
      rw [started_append_passive hsingle] at hk
      rw [ended_append_passive hsingle]
      exact hinterrupts ⟨b, List.mem_cons_of_mem a hb, htrue⟩ k hk

section
variable [DecidableEq κ]

theorem endOf_append (k : κ) (entries entries' : List α) :
    endOf r k (entries ++ entries') = (endOf r k entries).or (endOf r k entries') :=
  List.find?_append

theorem endOf_singleton (k : κ) (a : α) :
    endOf r k [a] = if r.ends a = some k ∨ r.interrupts a = true then some a else none := by
  simp [endOf, List.find?_singleton]

/-- The reader finds the end of what has ended, and nothing otherwise. -/
theorem Orderly.endOf_eq {entries before after : List α} {a : α} {k : κ}
    (h : Orderly r entries) (hentries : entries = before ++ a :: after)
    (ha : r.starts a = some k) :
    (Ended r entries k → ∃ e, endOf r k after = some e ∧ r.ends e = some k) ∧
    (¬ Ended r entries k → endOf r k after = none) := by
  -- by induction on the journal; the last entry is `a` itself, or comes after it
  induction h generalizing after with
  | nil => exact absurd hentries.symm (by simp)
  | @concat entries b _ hstarts hinterrupts ih =>
    rw [ended_append, ended_singleton]
    rcases List.eq_nil_or_concat' after with rfl | ⟨after, c, rfl⟩
    · obtain ⟨-, hab⟩ := List.append_inj' hentries rfl
      obtain rfl := (List.cons.inj hab).1
      refine ⟨fun hended => ?_, fun _ => rfl⟩
      rcases hended with hended | hended
      · exact absurd hended (hstarts k ha)
      · rw [r.disjoint b k ha] at hended
        cases hended
    · rw [← List.cons_append, ← List.append_assoc] at hentries
      obtain ⟨hearlier, hbc⟩ := List.append_inj' hentries rfl
      obtain rfl := (List.cons.inj hbc).1
      obtain ⟨hended, hopen⟩ := ih hearlier
      rw [endOf_append, endOf_singleton]
      by_cases h : Ended r entries k
      · obtain ⟨e, he, hends⟩ := hended h
        rw [he]
        exact ⟨fun _ => ⟨e, rfl, hends⟩, fun hnot => absurd (.inl h) hnot⟩
      · rw [hopen h, Option.none_or]
        by_cases hb : r.ends b = some k
        · rw [if_pos (.inl hb)]
          exact ⟨fun _ => ⟨b, rfl, hb⟩, fun hnot => absurd (.inr hb) hnot⟩
        · -- `b` does not interrupt, since `k` has started and not ended
          have hquiet : ¬ r.interrupts b = true := fun hb =>
            h (hinterrupts hb k (hearlier ▸ started_of_split ha))
          rw [if_neg (not_or_intro hb hquiet)]
          exact ⟨fun hended => absurd (hended.resolve_left h) hb, fun _ => rfl⟩

end

end

/-! ## Reading from the end

    A journal is kept in parts.  A reader who wants the entries that have been
    appended since some time reads the last part first, and stops after a part
    that goes back beyond that time. -/

section
variable {α : Type} (p : α → Bool)

/-- The entries of the parts that satisfy `p`, the last one first; the parts
    are given with the last one first as well. -/
def readBack : List (List α) → List α
  | [] => []
  | part :: parts =>
    (part.filter p).reverse ++ if part.all p then readBack parts else []

/-- Nothing is missed if the entries after one that satisfies `p` do so. -/
theorem readBack_reverse {parts : List (List α)}
    (h : parts.reverse.flatten.Pairwise fun a b => p a = true → p b = true) :
    (readBack p parts).reverse = parts.reverse.flatten.filter p := by
  induction parts with
  | nil => rfl
  | cons part parts ih =>
    rw [List.reverse_cons, List.flatten_append, List.flatten_singleton] at h ⊢
    obtain ⟨hparts, -, hlater⟩ := List.pairwise_append.mp h
    rw [readBack, List.reverse_append, List.reverse_reverse, List.filter_append]
    congr 1
    split
    · exact ih hparts
    · rename_i hstop
      -- Some entry of this part does not satisfy `p`, so that no entry of an
      -- earlier part does.
      obtain ⟨b, hb, hpb⟩ : ∃ b ∈ part, ¬ p b = true := by
        simpa using hstop
      symm
      rw [List.reverse_nil, List.filter_eq_nil_iff]
      exact fun a ha hpa => hpb (hlater a ha b hb hpa)

/-- The parts behind a part are empty, so that what is appended to the part is
    appended to the journal; the parts are given with the last one first. -/
theorem flatten_reverse_set {parts : List (List α)} {j : Nat} {part : List α}
    (hpart : parts[j]? = some part) (hempty : ∀ p ∈ parts.take j, p = []) (entries : List α) :
    (parts.set j (part ++ entries)).reverse.flatten = parts.reverse.flatten ++ entries := by
  obtain ⟨hj, rfl⟩ := List.getElem?_eq_some_iff.mp hpart
  have hlast : (parts.take j).reverse.flatten = [] := by
    rw [List.flatten_eq_nil_iff]
    exact fun p hp => hempty p (List.mem_reverse.mp hp)
  have hsplit : parts = parts.take j ++ parts[j] :: parts.drop (j + 1) := by
    rw [List.getElem_cons_drop, List.take_append_drop]
  have hset : parts.set j (parts[j] ++ entries) =
      parts.take j ++ (parts[j] ++ entries) :: parts.drop (j + 1) := by
    rw [List.set_eq_take_append_cons_drop, if_pos hj]
  rw [hset]
  conv_rhs => rw [hsplit]
  simp only [List.reverse_append, List.reverse_cons, List.flatten_append, hlast,
    List.append_nil, List.flatten_singleton, List.append_assoc]

end

end Journal
