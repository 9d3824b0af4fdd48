import Mathlib.Data.List.Basic

/-! # Backtracking regular expressions

    A fragment of Perl-compatible regular expressions: literals, greedy
    repetitions of a character class, greedy options, named groups and
    concatenation.  `results` lists the ways to match at the start of a
    subject in the order in which a backtracking matcher tries them, so
    that the first one is its match.

    This module provides:
    - `search`: the leftmost match, and `fetchNamed` for its groups,
    - `First` with one rule for each construct: how the first way to match
      is put together,
    - `Denotes` and `search_denotes`: what a match says about its groups,
    - `fields`: patterns for records of keys and values, with both rules,
    - `Occurs` and `search_isSome_iff`: where a search finds anything,
    - `search_concat`: when a character may be appended to the subject.
-/

/-- Patterns. -/
inductive Regex where
  | lit (s : List Char)
  /-- A greedy repetition, at least `min` times, of characters of a class. -/
  | many (min : Nat) (p : Char → Bool)
  | opt (r : Regex)
  | group (name : String) (r : Regex)
  | seq (a b : Regex)

namespace Regex

/-! ## Section 1: The matcher -/

/-- The text of the named groups, in the order in which they close. -/
abbrev Captures := List (String × List Char)

/-- One way to match: the groups, the text taken and the text left. -/
structure Hit where
  captures : Captures
  taken : List Char
  rest : List Char
  deriving DecidableEq

/-- The ways to split characters of a class off the front, longest first. -/
def splits (p : Char → Bool) : List Char → List (List Char × List Char)
  | [] => [([], [])]
  | c :: cs =>
      if p c then (splits p cs).map (fun x => (c :: x.1, x.2)) ++ [([], c :: cs)]
      else [([], c :: cs)]

/-- The ways to match at the start of `s`, the preferred ones first. -/
def results : Regex → List Char → List Hit
  | .lit t, s => if t.isPrefixOf s then [⟨[], t, s.drop t.length⟩] else []
  | .many min p, s =>
      ((splits p s).filter fun x => min ≤ x.1.length).map fun x => ⟨[], x.1, x.2⟩
  | .opt r, s => results r s ++ [⟨[], [], s⟩]
  | .group name r, s =>
      (results r s).map fun h => { h with captures := h.captures ++ [(name, h.taken)] }
  | .seq a b, s =>
      (results a s).flatMap fun h => (results b h.rest).map fun h' =>
        ⟨h.captures ++ h'.captures, h.taken ++ h'.taken, h'.rest⟩

/-- The groups of the leftmost match. -/
def search (r : Regex) : List Char → Option Captures
  | [] => (results r []).head?.map Hit.captures
  | c :: cs =>
      match (results r (c :: cs)).head? with
      | some h => some h.captures
      | none => search r cs

/-- The names of the groups. -/
def names : Regex → List String
  | .lit _ | .many _ _ => []
  | .opt r => names r
  | .group name r => names r ++ [name]
  | .seq a b => names a ++ names b

/-- The text of a group: `none` for a name the pattern does not have, the
    empty text for a group that took no part in the match. -/
def fetchNamed (r : Regex) (captures : Captures) (name : String) : Option (List Char) :=
  if name ∈ r.names then some ((captures.lookup name).getD []) else none

/-- Concatenation of several patterns. -/
def cat : List Regex → Regex
  | [] => .lit []
  | r :: rs => .seq r (cat rs)

/-- A named group around a repetition. -/
def capture (name : String) (min : Nat) (p : Char → Bool) : Regex :=
  .group name (.many min p)

/-! ## Section 2: The first way to match -/

/-- The matcher's first way to match `r` at the start of `s`. -/
def First (r : Regex) (s : List Char) (h : Hit) : Prop := (results r s).head? = some h

theorem First.lit (t s : List Char) : First (.lit t) (t ++ s) ⟨[], t, s⟩ := by
  simp [First, results]

/-- A class takes everything up to a character that is not in it. -/
theorem splits_head (p : Char → Bool) (w s : List Char) (hw : ∀ c ∈ w, p c = true)
    (hs : ∀ c, s.head? = some c → p c = false) : (splits p (w ++ s)).head? = some (w, s) := by
  induction w with
  | nil =>
    cases s with
    | nil => rfl
    | cons c cs => simp [splits, hs c rfl]
  | cons c w ih =>
    have hrest := ih fun c' hc' => hw c' (List.mem_cons_of_mem _ hc')
    rw [List.cons_append, splits, if_pos (hw c List.mem_cons_self), List.head?_append,
      List.head?_map, hrest]
    rfl

theorem First.many {p : Char → Bool} {n : Nat} (w s : List Char) (hw : ∀ c ∈ w, p c = true)
    (hmin : n ≤ w.length) (hs : ∀ c, s.head? = some c → p c = false) :
    First (.many n p) (w ++ s) ⟨[], w, s⟩ := by
  obtain ⟨tail, htail⟩ := List.head?_eq_some_iff.mp (splits_head p w s hw hs)
  simp [First, results, htail, hmin]

theorem First.group (name : String) {r : Regex} {s : List Char} {h : Hit} (hr : First r s h) :
    First (.group name r) s { h with captures := h.captures ++ [(name, h.taken)] } := by
  simp only [First, results, List.head?_map] at hr ⊢
  rw [hr]
  rfl

theorem First.opt {r : Regex} {s : List Char} {h : Hit} (hr : First r s h) :
    First (.opt r) s h := by
  simp only [First, results, List.head?_append] at hr ⊢
  rw [hr]
  rfl

/-- An option that cannot match is left out. -/
theorem First.opt_none {r : Regex} {s : List Char} (hr : results r s = []) :
    First (.opt r) s ⟨[], [], s⟩ := by
  simp [First, results, hr]

theorem First.seq {a b : Regex} {s : List Char} {h h' : Hit} (ha : First a s h)
    (hb : First b h.rest h') :
    First (.seq a b) s ⟨h.captures ++ h'.captures, h.taken ++ h'.taken, h'.rest⟩ := by
  obtain ⟨as, has⟩ := List.head?_eq_some_iff.mp ha
  obtain ⟨bs, hbs⟩ := List.head?_eq_some_iff.mp hb
  simp [First, results, has, hbs]

/-- The longest repetition takes the delimiter too when the class has it,
    and the matcher gives that one character back. -/
theorem splits_delimiter (p : Char → Bool) (w : List Char) (q : Char)
    (hw : ∀ c ∈ w, p c = true) (hq : p q = true) :
    ∃ rest, splits p (w ++ [q]) = (w ++ [q], []) :: (w, [q]) :: rest := by
  induction w with
  | nil => exact ⟨[], by simp [splits, hq]⟩
  | cons c w ih =>
    obtain ⟨rest, hrest⟩ := ih fun c' hc' => hw c' (List.mem_cons_of_mem _ hc')
    exact ⟨(rest.map fun x => (c :: x.1, x.2)) ++ [([], c :: (w ++ [q]))],
      by simp [splits, hw c List.mem_cons_self, hrest]⟩

theorem First.capture_delimiter {p : Char → Bool} (name : String) (w : List Char) (q : Char)
    (hw : ∀ c ∈ w, p c = true) (hq : p q = true) :
    First (cat [capture name 0 p, .lit [q]]) (w ++ [q]) ⟨[(name, w)], w ++ [q], []⟩ := by
  obtain ⟨rest, hrest⟩ := splits_delimiter p w q hw hq
  simp [First, cat, capture, results, hrest]

/-- The whole match is the first way to match at the first place that has one. -/
theorem First.search {r : Regex} {s : List Char} {h : Hit} (hr : First r s h) :
    search r s = some h.captures := by
  cases s with
  | nil =>
    rw [Regex.search, hr]
    rfl
  | cons c cs =>
    rw [Regex.search, hr]

/-! ## Section 3: What a match says -/

/-- The pattern describes the text, with these groups. -/
def Denotes : Regex → List Char → Captures → Prop
  | .lit t, w, groups => w = t ∧ groups = []
  | .many min p, w, groups => (∀ c ∈ w, p c = true) ∧ min ≤ w.length ∧ groups = []
  | .opt r, w, groups => Denotes r w groups ∨ (w = [] ∧ groups = [])
  | .group name r, w, groups => ∃ inner, Denotes r w inner ∧ groups = inner ++ [(name, w)]
  | .seq a b, w, groups => ∃ w₁ w₂ g₁ g₂, w = w₁ ++ w₂ ∧ groups = g₁ ++ g₂ ∧
      Denotes a w₁ g₁ ∧ Denotes b w₂ g₂

theorem splits_sound (p : Char → Bool) (s : List Char) :
    ∀ x ∈ splits p s, s = x.1 ++ x.2 ∧ ∀ c ∈ x.1, p c = true := by
  induction s with
  | nil => simp [splits]
  | cons c cs ih =>
    intro x hx
    rw [splits] at hx
    split at hx
    · rename_i hc
      rcases List.mem_append.mp hx with hx | hx
      · obtain ⟨y, hy, rfl⟩ := List.mem_map.mp hx
        obtain ⟨hsplit, hall⟩ := ih y hy
        refine ⟨by rw [hsplit]; rfl, fun d hd => ?_⟩
        rcases List.mem_cons.mp hd with rfl | hd
        · exact hc
        · exact hall d hd
      · obtain rfl := List.mem_singleton.mp hx
        exact ⟨rfl, by simp⟩
    · obtain rfl := List.mem_singleton.mp hx
      exact ⟨rfl, by simp⟩

/-- Every way to match splits the subject and is described by the pattern. -/
theorem results_sound (r : Regex) (s : List Char) :
    ∀ h ∈ results r s, s = h.taken ++ h.rest ∧ Denotes r h.taken h.captures := by
  induction r generalizing s with
  | lit t =>
    intro h hh
    rw [results] at hh
    split at hh
    · rename_i hprefix
      obtain rfl := List.mem_singleton.mp hh
      obtain ⟨u, rfl⟩ := List.isPrefixOf_iff_prefix.mp hprefix
      exact ⟨by simp, rfl, rfl⟩
    · cases hh
  | many min p =>
    intro h hh
    obtain ⟨x, hx, rfl⟩ := List.mem_map.mp hh
    obtain ⟨hx, hmin⟩ := List.mem_filter.mp hx
    obtain ⟨hsplit, hall⟩ := splits_sound p s x hx
    exact ⟨hsplit, hall, by simpa using hmin, rfl⟩
  | opt r ih =>
    intro h hh
    rcases List.mem_append.mp hh with hh | hh
    · obtain ⟨hsplit, hd⟩ := ih s h hh
      exact ⟨hsplit, .inl hd⟩
    · obtain rfl := List.mem_singleton.mp hh
      exact ⟨rfl, .inr ⟨rfl, rfl⟩⟩
  | group name r ih =>
    intro h hh
    obtain ⟨h', hh', rfl⟩ := List.mem_map.mp hh
    obtain ⟨hsplit, hd⟩ := ih s h' hh'
    exact ⟨hsplit, h'.captures, hd, rfl⟩
  | seq a b iha ihb =>
    intro h hh
    obtain ⟨h₁, hh₁, hh⟩ := List.mem_flatMap.mp hh
    obtain ⟨h₂, hh₂, rfl⟩ := List.mem_map.mp hh
    obtain ⟨hsplit₁, hd₁⟩ := iha s h₁ hh₁
    obtain ⟨hsplit₂, hd₂⟩ := ihb h₁.rest h₂ hh₂
    refine ⟨?_, _, _, _, _, rfl, rfl, hd₁, hd₂⟩
    rw [hsplit₁, hsplit₂, List.append_assoc]

/-- What a search finds is a part of the subject. -/
theorem search_sound {r : Regex} {s : List Char} {groups : Captures}
    (h : search r s = some groups) :
    ∃ before w after, s = before ++ (w ++ after) ∧ r.Denotes w groups := by
  induction s with
  | nil =>
    obtain ⟨hit, hhit, rfl⟩ := Option.map_eq_some_iff.mp h
    obtain ⟨hsplit, hd⟩ := results_sound r [] hit (List.mem_of_head? hhit)
    exact ⟨[], hit.taken, hit.rest, hsplit, hd⟩
  | cons c cs ih =>
    rw [search] at h
    split at h
    · rename_i hit hhit
      cases h
      obtain ⟨hsplit, hd⟩ := results_sound r (c :: cs) hit (List.mem_of_head? hhit)
      exact ⟨[], hit.taken, hit.rest, hsplit, hd⟩
    · obtain ⟨before, w, after, rfl, hd⟩ := ih h
      exact ⟨c :: before, w, after, rfl, hd⟩

/-- The groups of a match are groups of a text the pattern describes. -/
theorem search_denotes {r : Regex} {s : List Char} {groups : Captures}
    (h : search r s = some groups) : ∃ w, Denotes r w groups := by
  obtain ⟨_, w, _, -, hd⟩ := search_sound h
  exact ⟨w, hd⟩

/-! ## Section 4: Keys and values

    A record is written as `key₁ value₁ … keyₙ valueₙ tail`, and read by a
    pattern that has the keys as literals and a group for every value. -/

/-- One key of a record and the group for its value. -/
structure Field where
  key : List Char
  name : String
  min : Nat
  p : Char → Bool

/-- The value can be read by the group of the field. -/
def Field.Accepts (f : Field) (value : List Char) : Prop :=
  (∀ c ∈ value, f.p c = true) ∧ f.min ≤ value.length

/-- The pattern of a record, with the pattern for what follows it. -/
def fields : List Field → Regex → Regex
  | [], r => r
  | f :: fs, r => .seq (.lit f.key) (.seq (capture f.name f.min f.p) (fields fs r))

/-- The text of a record. -/
def record : List (Field × List Char) → List Char → List Char
  | [], tail => tail
  | x :: xs, tail => x.1.key ++ (x.2 ++ record xs tail)

/-- The groups of a record. -/
def recordGroups (xs : List (Field × List Char)) : Captures := xs.map fun x => (x.1.name, x.2)

/-- No value runs on into the text that follows it. -/
def Delimited : List (Field × List Char) → List Char → Prop
  | [], _ => True
  | x :: xs, tail =>
      (∀ c, (record xs tail).head? = some c → x.1.p c = false) ∧ Delimited xs tail

/-- A record whose values are accepted is matched with its own values. -/
theorem First.fields {r : Regex} {tail : List Char} {h : Hit} (hr : First r tail h)
    (xs : List (Field × List Char)) (haccepts : ∀ x ∈ xs, x.1.Accepts x.2)
    (hdelimited : Delimited xs tail) :
    First (Regex.fields (xs.map Prod.fst) r) (record xs tail)
      ⟨recordGroups xs ++ h.captures, record xs h.taken, h.rest⟩ := by
  induction xs with
  | nil => exact hr
  | cons x xs ih =>
    have hrest := ih (fun y hy => haccepts y (List.mem_cons_of_mem _ hy)) hdelimited.2
    obtain ⟨hall, hmin⟩ := haccepts x List.mem_cons_self
    have hvalue := First.group x.1.name
      (First.many x.2 (record xs tail) hall hmin hdelimited.1)
    exact (First.lit x.1.key (x.2 ++ record xs tail)).seq (hvalue.seq hrest)

/-- The groups of a match of a record hold accepted values. -/
theorem fields_denotes {r : Regex} (fs : List Field) {w : List Char} {groups : Captures}
    (h : Denotes (Regex.fields fs r) w groups) :
    ∃ xs : List (Field × List Char), xs.map Prod.fst = fs ∧ (∀ x ∈ xs, x.1.Accepts x.2) ∧
      ∃ w' rest, Denotes r w' rest ∧ groups = recordGroups xs ++ rest := by
  induction fs generalizing w groups with
  | nil => exact ⟨[], rfl, by simp, w, groups, h, rfl⟩
  | cons f fs ih =>
    obtain ⟨_, w₂, _, g₂, _, rfl, ⟨_, rfl⟩, h⟩ := h
    obtain ⟨value, w₃, _, g₃, _, rfl, ⟨_, ⟨hall, hmin, rfl⟩, rfl⟩, h⟩ := h
    obtain ⟨xs, rfl, haccepts, w', rest, hr, rfl⟩ := ih h
    refine ⟨(f, value) :: xs, rfl, fun x hx => ?_, w', rest, hr, rfl⟩
    rcases List.mem_cons.mp hx with rfl | hx
    · exact ⟨hall, hmin⟩
    · exact haccepts x hx

theorem names_fields (fs : List Field) (r : Regex) :
    (Regex.fields fs r).names = fs.map Field.name ++ r.names := by
  induction fs with
  | nil => rfl
  | cons f fs ih => simp [Regex.fields, names, capture, ih]

theorem lookup_recordGroups {xs : List (Field × List Char)}
    (hnodup : (xs.map fun x => x.1.name).Nodup) {x : Field × List Char} (hx : x ∈ xs)
    (rest : Captures) : (recordGroups xs ++ rest).lookup x.1.name = some x.2 := by
  induction xs with
  | nil => cases hx
  | cons y ys ih =>
    obtain ⟨hy, hnodup⟩ := List.nodup_cons.mp hnodup
    rcases List.mem_cons.mp hx with rfl | hx
    · simp [recordGroups]
    · have hne : (x.1.name == y.1.name) = false := by
        rw [beq_eq_false_iff_ne]
        exact fun h => hy (List.mem_map.mpr ⟨x, hx, h⟩)
      rw [recordGroups, List.map_cons, List.cons_append, List.lookup_cons, hne]
      exact ih hnodup hx

/-- What a match gives for the fields is accepted by their groups. -/
theorem search_field (fs : List Field) {r : Regex} {s : List Char} {groups : Captures}
    (h : search (Regex.fields fs r) s = some groups) (hnodup : (fs.map Field.name).Nodup) :
    ∀ f ∈ fs, ∃ value,
      (Regex.fields fs r).fetchNamed groups f.name = some value ∧ f.Accepts value := by
  intro f hf
  obtain ⟨w, hw⟩ := search_denotes h
  obtain ⟨xs, rfl, haccepts, w', rest, _, rfl⟩ := fields_denotes fs hw
  obtain ⟨x, hx, rfl⟩ := List.mem_map.mp hf
  have hname : x.1.name ∈ (Regex.fields (xs.map Prod.fst) r).names := by
    rw [names_fields]
    exact List.mem_append_left _ (List.mem_map_of_mem hf)
  rw [List.map_map] at hnodup
  refine ⟨x.2, ?_, haccepts x hx⟩
  rw [fetchNamed, if_pos hname, lookup_recordGroups hnodup hx]
  rfl

theorem fetchNamed_none {r : Regex} {name : String} (h : name ∉ r.names) (groups : Captures) :
    r.fetchNamed groups name = none := if_neg h

/-- A record whose values are accepted is found, with all its values. -/
theorem search_record (fs : List Field) (xs : List (Field × List Char)) {r : Regex}
    {tail : List Char} {h : Hit} (hr : First r tail h) (hnodup : (fs.map Field.name).Nodup)
    (hfields : xs.map Prod.fst = fs)
    (haccepts : ∀ x ∈ xs, x.1.Accepts x.2) (hdelimited : Delimited xs tail) :
    ∃ groups, search (Regex.fields fs r) (record xs tail) = some groups ∧
      ∀ x ∈ xs, (Regex.fields fs r).fetchNamed groups x.1.name = some x.2 := by
  subst hfields
  refine ⟨_, (First.fields hr xs haccepts hdelimited).search, fun x hx => ?_⟩
  have hname : x.1.name ∈ (Regex.fields (xs.map Prod.fst) r).names := by
    rw [names_fields]
    exact List.mem_append_left _ (List.mem_map_of_mem (List.mem_map_of_mem hx))
  rw [List.map_map] at hnodup
  rw [fetchNamed, if_pos hname, lookup_recordGroups hnodup hx]
  rfl

/-! ## Section 5: Where a pattern occurs -/

/-- The pattern describes some part of the text. -/
def Occurs (r : Regex) (s : List Char) : Prop :=
  ∃ before w after groups, s = before ++ (w ++ after) ∧ r.Denotes w groups

theorem splits_complete {p : Char → Bool} (w rest : List Char) (hw : ∀ c ∈ w, p c = true) :
    (w, rest) ∈ splits p (w ++ rest) := by
  induction w with
  | nil =>
    cases rest with
    | nil => simp [splits]
    | cons c rest =>
      rw [List.nil_append, splits]
      split <;> simp
  | cons c w ih =>
    have hrest := ih fun d hd => hw d (List.mem_cons_of_mem _ hd)
    rw [List.cons_append, splits, if_pos (hw c List.mem_cons_self)]
    exact List.mem_append_left _ (List.mem_map.mpr ⟨_, hrest, rfl⟩)

/-- The matcher tries every text that the pattern describes. -/
theorem results_complete {r : Regex} {w : List Char} {groups : Captures} (h : r.Denotes w groups)
    (rest : List Char) : (⟨groups, w, rest⟩ : Hit) ∈ results r (w ++ rest) := by
  induction r generalizing w groups rest with
  | lit t =>
    obtain ⟨rfl, rfl⟩ := h
    simp [results]
  | many min p =>
    obtain ⟨hall, hmin, rfl⟩ := h
    exact List.mem_map.mpr ⟨(w, rest),
      List.mem_filter.mpr ⟨splits_complete w rest hall, decide_eq_true hmin⟩, rfl⟩
  | opt r ih =>
    rcases h with h | ⟨rfl, rfl⟩
    · exact List.mem_append_left _ (ih h rest)
    · exact List.mem_append_right _ (List.mem_singleton.mpr rfl)
  | group name r ih =>
    obtain ⟨inner, h, rfl⟩ := h
    exact List.mem_map.mpr ⟨_, ih h rest, rfl⟩
  | seq a b iha ihb =>
    obtain ⟨w₁, w₂, g₁, g₂, rfl, rfl, ha, hb⟩ := h
    rw [List.append_assoc]
    exact List.mem_flatMap.mpr ⟨_, iha ha (w₂ ++ rest), List.mem_map.mpr ⟨_, ihb hb rest, rfl⟩⟩

/-- A search finds something exactly where the pattern occurs. -/
theorem search_isSome_iff {r : Regex} {s : List Char} :
    (search r s).isSome = true ↔ r.Occurs s := by
  constructor
  · intro h
    obtain ⟨groups, hgroups⟩ := Option.isSome_iff_exists.mp h
    obtain ⟨before, w, after, hs, hd⟩ := search_sound hgroups
    exact ⟨before, w, after, groups, hs, hd⟩
  · rintro ⟨before, w, after, groups, rfl, hd⟩
    induction before with
    | nil =>
      have hhit := results_complete hd after
      obtain ⟨hit, hhead⟩ := Option.ne_none_iff_exists'.mp
        (mt List.head?_eq_none_iff.mp (List.ne_nil_of_mem hhit))
      rw [List.nil_append, First.search hhead]
      rfl
    | cons c before ih =>
      rw [List.cons_append, search]
      split
      · rfl
      · exact ih

/-- The groups hold parts of the text. -/
theorem captures_mem {r : Regex} {w : List Char} {groups : Captures} (h : r.Denotes w groups) :
    ∀ g ∈ groups, ∀ c ∈ g.2, c ∈ w := by
  induction r generalizing w groups with
  | lit t =>
    obtain ⟨-, rfl⟩ := h
    simp
  | many min p =>
    obtain ⟨-, -, rfl⟩ := h
    simp
  | opt r ih =>
    rcases h with h | ⟨-, rfl⟩
    · exact ih h
    · simp
  | group name r ih =>
    obtain ⟨inner, h, rfl⟩ := h
    intro g hg c hc
    rcases List.mem_append.mp hg with hg | hg
    · exact ih h g hg c hc
    · obtain rfl := List.mem_singleton.mp hg
      exact hc
  | seq a b iha ihb =>
    obtain ⟨w₁, w₂, g₁, g₂, rfl, rfl, ha, hb⟩ := h
    intro g hg c hc
    rcases List.mem_append.mp hg with hg | hg
    · exact List.mem_append_left _ (iha ha g hg c hc)
    · exact List.mem_append_right _ (ihb hb g hg c hc)

/-- What a match gives for a name consists of characters of the subject. -/
theorem fetchNamed_mem {r : Regex} {s : List Char} {groups : Captures}
    (h : search r s = some groups) {name : String} {v : List Char}
    (hv : r.fetchNamed groups name = some v) : ∀ c ∈ v, c ∈ s := by
  obtain ⟨before, w, after, rfl, hd⟩ := search_sound h
  intro c hc
  rw [fetchNamed] at hv
  split at hv
  · obtain rfl := Option.some.inj hv
    cases hlookup : groups.lookup name with
    | none => simp [hlookup] at hc
    | some v =>
      rw [hlookup] at hc
      obtain ⟨l₁, l₂, rfl, -⟩ := List.lookup_eq_some_iff.mp hlookup
      have hmem := captures_mem hd (name, v) (by simp) c hc
      exact List.mem_append_right _ (List.mem_append_left _ hmem)
  · cases hv

/-! ## Section 6: A longer subject -/

theorem splits_append (p : Char → Bool) (s t : List Char) :
    ((splits p (s ++ t)).filter fun x => t.length ≤ x.2.length) =
      (splits p s).map fun x => (x.1, x.2 ++ t) := by
  induction s with
  | nil =>
    cases t with
    | nil => rfl
    | cons c t =>
      -- A class that takes characters of `t` leaves less than `t`.
      have hshort : ∀ x ∈ splits p t, ¬ (c :: t).length ≤ x.2.length := by
        intro x hx hle
        have hlen := congrArg List.length (splits_sound p t x hx).1
        rw [List.length_append] at hlen
        rw [List.length_cons] at hle
        omega
      have hnone : ((splits p t).filter fun x => (c :: t).length ≤ x.2.length) = [] :=
        List.filter_eq_nil_iff.mpr fun x hx => by simpa using hshort x hx
      rw [List.nil_append, splits.eq_2]
      split
      · rw [List.filter_append, List.filter_map]
        simp only [Function.comp_def, hnone]
        simp [splits]
      · simp [splits]
  | cons c s ih =>
    rw [List.cons_append, splits, splits]
    split
    · rw [List.filter_append, List.filter_map]
      simp only [Function.comp_def, ih]
      simp [Function.comp_def]
      omega
    · simp
      omega

theorem flatMap_eq_flatMap_filter {α β : Type} {l : List α} {f : α → List β} {q : α → Bool}
    (h : ∀ a ∈ l, ¬ q a = true → f a = []) : l.flatMap f = (l.filter q).flatMap f := by
  induction l with
  | nil => rfl
  | cons a l ih =>
    obtain ⟨ha, hl⟩ := List.forall_mem_cons.mp h
    rw [List.flatMap_cons, ih hl, List.filter_cons]
    split
    · rw [List.flatMap_cons]
    · rename_i hq
      rw [ha hq, List.nil_append]

/-- The ways to match in a longer subject that leave what was appended are the
    old ones, in the old order. -/
theorem results_append (r : Regex) (s t : List Char) :
    ((results r (s ++ t)).filter fun h => t.length ≤ h.rest.length) =
      (results r s).map fun h => { h with rest := h.rest ++ t } := by
  induction r generalizing s with
  | lit u =>
    rw [results, results]
    by_cases hs : u.isPrefixOf s = true
    · obtain ⟨v, rfl⟩ := List.isPrefixOf_iff_prefix.mp hs
      have hst : u.isPrefixOf (u ++ v ++ t) = true := by
        rw [List.isPrefixOf_iff_prefix, List.append_assoc]
        exact List.prefix_append ..
      rw [if_pos hs, if_pos hst]
      simp
    · rw [if_neg hs, List.map_nil, List.filter_eq_nil_iff]
      intro h hh hle
      split at hh
      · rename_i hst
        obtain rfl := List.mem_singleton.mp hh
        -- A literal that is longer than `s` ends within `t`.
        refine hs (List.isPrefixOf_iff_prefix.mpr ?_)
        refine List.prefix_of_prefix_length_le (List.isPrefixOf_iff_prefix.mp hst)
          (List.prefix_append s t) ?_
        have hlen := (List.isPrefixOf_iff_prefix.mp hst).length_le
        have hle' : t.length ≤ ((s ++ t).drop u.length).length := of_decide_eq_true hle
        rw [List.length_drop] at hle'
        rw [List.length_append] at hlen hle'
        omega
      · cases hh
  | many min p =>
    rw [results, results, List.filter_map, List.filter_filter, List.map_map]
    have hcomm := congrArg (List.filter fun x => decide (min ≤ x.1.length)) (splits_append p s t)
    rw [List.filter_filter, List.filter_map] at hcomm
    simp only [Function.comp_def] at hcomm ⊢
    simp only [Bool.and_comm, hcomm, List.map_map]
    rfl
  | opt r ih =>
    simp only [results, List.filter_append, ih, List.map_append]
    simp
  | group name r ih =>
    simp only [results, List.filter_map, List.map_map, Function.comp_def, ih]
  | seq a b iha ihb =>
    -- The second part leaves no more than the first.
    have hshort : ∀ h ∈ results a (s ++ t), ¬ t.length ≤ h.rest.length →
        ((results b h.rest).filter fun h' => t.length ≤ h'.rest.length) = [] := by
      intro h _ hlt
      refine List.filter_eq_nil_iff.mpr fun h' hh' hle => hlt ?_
      have hlen := congrArg List.length (results_sound b h.rest h' hh').1
      rw [List.length_append] at hlen
      have := of_decide_eq_true hle
      omega
    have hleave : (results a (s ++ t)).flatMap (fun h =>
          ((results b h.rest).filter fun h' => t.length ≤ h'.rest.length).map fun h' =>
            (⟨h.captures ++ h'.captures, h.taken ++ h'.taken, h'.rest⟩ : Hit)) =
        ((results a (s ++ t)).filter fun h => t.length ≤ h.rest.length).flatMap fun h =>
          ((results b h.rest).filter fun h' => t.length ≤ h'.rest.length).map fun h' =>
            ⟨h.captures ++ h'.captures, h.taken ++ h'.taken, h'.rest⟩ :=
      flatMap_eq_flatMap_filter fun h hh hlt => by
        rw [hshort h hh (by simpa using hlt), List.map_nil]
    simp only [results, List.filter_flatMap, List.filter_map, Function.comp_def]
    rw [hleave, iha, List.flatMap_map]
    simp only [ihb, List.map_flatMap, List.map_map]
    rfl

/-- The pattern may describe the empty text. -/
def nullable : Regex → Bool
  | .lit t => t.isEmpty
  | .many min _ => min = 0
  | .opt _ => true
  | .group _ r => nullable r
  | .seq a b => nullable a && nullable b

/-- The pattern may describe a text that ends with the character. -/
def mayEndWith (c : Char) : Regex → Bool
  | .lit t => t.getLast? = some c
  | .many _ p => p c
  | .opt r | .group _ r => mayEndWith c r
  | .seq a b => mayEndWith c b || nullable b && mayEndWith c a

theorem nullable_of_denotes {r : Regex} {groups : Captures} (h : r.Denotes [] groups) :
    nullable r = true := by
  induction r generalizing groups with
  | lit t =>
    obtain ⟨rfl, -⟩ := h
    rfl
  | many min p => exact decide_eq_true (Nat.le_zero.mp h.2.1)
  | opt r => rfl
  | group name r ih =>
    obtain ⟨inner, h, -⟩ := h
    exact ih h
  | seq a b iha ihb =>
    obtain ⟨w₁, w₂, _, _, hw, -, ha, hb⟩ := h
    obtain ⟨rfl, rfl⟩ := List.append_eq_nil_iff.mp hw.symm
    rw [nullable, iha ha, ihb hb]
    rfl

theorem mayEndWith_of_denotes {r : Regex} {c : Char} {w : List Char} {groups : Captures}
    (h : r.Denotes w groups) (hc : w.getLast? = some c) : mayEndWith c r = true := by
  induction r generalizing w groups with
  | lit t =>
    obtain ⟨rfl, -⟩ := h
    exact decide_eq_true hc
  | many min p => exact h.1 c (List.mem_of_getLast? hc)
  | opt r ih =>
    rcases h with h | ⟨rfl, -⟩
    · exact ih h hc
    · cases hc
  | group name r ih =>
    obtain ⟨inner, h, -⟩ := h
    exact ih h hc
  | seq a b iha ihb =>
    obtain ⟨w₁, w₂, _, _, rfl, -, ha, hb⟩ := h
    rw [mayEndWith, Bool.or_eq_true, Bool.and_eq_true]
    cases w₂ with
    | nil =>
      rw [List.append_nil] at hc
      exact .inr ⟨nullable_of_denotes hb, iha ha hc⟩
    | cons d w₂ =>
      rw [List.getLast?_append_of_ne_nil _ (List.cons_ne_nil d w₂)] at hc
      exact .inl (ihb hb hc)

/-- A character with which no match ends can be appended to the subject. -/
theorem search_concat {r : Regex} {c : Char}
    (hend : r.mayEndWith c = false) (s : List Char) : search r (s ++ [c]) = search r s := by
  -- No way to match takes the character.
  have hresults : ∀ s, results r (s ++ [c]) =
      (results r s).map fun h => { h with rest := h.rest ++ [c] } := by
    intro s
    rw [← results_append r s [c], eq_comm, List.filter_eq_self]
    intro h hh
    obtain ⟨hsplit, hd⟩ := results_sound r (s ++ [c]) h hh
    refine decide_eq_true (List.length_pos_of_ne_nil fun hnil => ?_)
    rw [hnil, List.append_nil] at hsplit
    have hlast : h.taken.getLast? = some c := by rw [← hsplit, List.getLast?_concat]
    rw [mayEndWith_of_denotes hd hlast] at hend
    cases hend
  induction s with
  | nil =>
    -- At the end of the subject the empty text is all that is left to match.
    have hnil : results r [c] = (results r []).map fun h => { h with rest := h.rest ++ [c] } :=
      hresults []
    rw [List.nil_append, search, search, hnil, List.head?_map]
    cases hhead : (results r []).head? with
    | none => rw [search, hhead]; rfl
    | some h => rfl
  | cons d s ih =>
    have hcons := hresults (d :: s)
    rw [List.cons_append] at hcons ⊢
    rw [search, search, hcons, List.head?_map, ih]
    cases (results r (d :: s)).head? <;> rfl

end Regex
