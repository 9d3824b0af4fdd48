import ConsoleKit.Framework.CString

/-! # Reading lines

    `fgets` reads a line into a buffer, or as much of it as fits.

    This module provides:
    - `read_lines`: what a loop around `fgets` reads,
    - `lines`: the lines of a text, each with its line end,
    - `read_lines_eq`: they agree if every line fits the buffer,
    - `Whole`: texts whose last line has its end, and how their lines compose.
-/

namespace Libc

/-- The characters up to a line end, but no more than `n`, and the rest. -/
def fgets_chars : Nat → List Char → List Char × List Char
  | 0, s => ([], s)
  | _ + 1, [] => ([], [])
  | n + 1, c :: s => if c = '\n' then ([c], s) else (c :: (fgets_chars n s).1, (fgets_chars n s).2)

/-- `fgets (line, size, stream)`, with the rest of the stream; the last
    character of the buffer is for the terminator. -/
def fgets (size : Nat) (s : List Char) : Option (List Char × List Char) :=
  if s = [] then none else some (fgets_chars (size - 1) s)

/-- `while (fgets (line, size, stream) != NULL)`, for at most `rounds` rounds. -/
def read_lines (size : Nat) : Nat → List Char → List (List Char)
  | 0, _ => []
  | rounds + 1, s =>
    match fgets size s with
    | none => []
    | some (line, rest) => line :: read_lines size rounds rest

def lines : List Char → List (List Char)
  | [] => []
  | c :: s =>
    if c = '\n' then [c] :: lines s
    else
      match lines s with
      | [] => [[c]]
      | l :: ls => (c :: l) :: ls

theorem lines_eq_nil {s : List Char} (h : lines s = []) : s = [] := by
  cases s with
  | nil => rfl
  | cons c s =>
    rw [lines] at h
    split at h
    · cases h
    · split at h <;> cases h

/-- A line that fits is read as it is, and the rest is what follows it. -/
theorem fgets_chars_line {s l : List Char} {ls : List (List Char)} {n : Nat}
    (h : lines s = l :: ls) (hfits : l.length ≤ n) :
    ∃ rest, fgets_chars n s = (l, rest) ∧ lines rest = ls ∧ rest.length < s.length := by
  induction s generalizing n l ls with
  | nil => cases h
  | cons c s ih =>
    -- No line is empty, so that there is room for its first character.
    have hpos : 0 < l.length := by
      rw [lines] at h
      split at h
      · rw [← (List.cons.inj h).1]
        exact Nat.one_pos
      · split at h
        · rw [← (List.cons.inj h).1]
          exact Nat.one_pos
        · rw [← (List.cons.inj h).1]
          exact Nat.succ_pos _
    obtain ⟨k, rfl⟩ : ∃ k, n = k + 1 := ⟨n - 1, by omega⟩
    rw [lines] at h
    rw [fgets_chars]
    split at h
    · rename_i hend
      obtain ⟨rfl, rfl⟩ := List.cons.inj h
      exact ⟨s, by rw [if_pos hend], rfl, Nat.lt_succ_self _⟩
    · rename_i hend
      rw [if_neg hend]
      split at h
      · rename_i hnil
        -- The last line has no line end.
        obtain ⟨rfl, rfl⟩ := List.cons.inj h
        obtain rfl := lines_eq_nil hnil
        refine ⟨[], ?_, rfl, Nat.one_pos⟩
        cases k <;> rfl
      · rename_i l' ls' hcons
        obtain ⟨rfl, rfl⟩ := List.cons.inj h
        obtain ⟨rest, hread, hrest, hlt⟩ := ih hcons (Nat.le_of_succ_le_succ hfits)
        exact ⟨rest, by rw [hread], hrest, Nat.lt_succ_of_lt hlt⟩

theorem read_lines_eq {size rounds : Nat} {s : List Char} (hrounds : s.length ≤ rounds)
    (hfits : ∀ l ∈ lines s, l.length < size) : read_lines size rounds s = lines s := by
  induction rounds generalizing s with
  | zero =>
    obtain rfl := List.length_eq_zero_iff.mp (Nat.le_zero.mp hrounds)
    rfl
  | succ rounds ih =>
    rw [read_lines, fgets]
    -- The end of the file, or one more line.
    cases hlines : lines s with
    | nil =>
      rw [if_pos (lines_eq_nil hlines)]
    | cons l ls =>
      have hne : s ≠ [] := by
        rintro rfl
        cases hlines
      rw [hlines, List.forall_mem_cons] at hfits
      obtain ⟨rest, hread, hrest, hlt⟩ :=
        fgets_chars_line (n := size - 1) hlines (Nat.le_sub_one_of_lt hfits.1)
      rw [if_neg hne, hread]
      dsimp only
      rw [ih (by omega) (by rw [hrest]; exact hfits.2), hrest]

/-! ## Texts of whole lines -/

/-- The last line has its end, too. -/
def Whole (s : List Char) : Prop := s ≠ [] → s.getLast? = some '\n'

theorem whole_nil : Whole [] := fun h => absurd rfl h

theorem whole_line (s : List Char) : Whole (s ++ ['\n']) := fun _ => List.getLast?_concat

theorem Whole.append {s t : List Char} (hs : Whole s) (ht : Whole t) : Whole (s ++ t) := by
  cases t with
  | nil =>
    rw [List.append_nil]
    exact hs
  | cons c t =>
    intro _
    rw [List.getLast?_append_of_ne_nil _ (List.cons_ne_nil c t)]
    exact ht (List.cons_ne_nil c t)

/-- A text after whole lines begins with a new line. -/
theorem lines_append {s : List Char} (hs : Whole s) (t : List Char) :
    lines (s ++ t) = lines s ++ lines t := by
  induction s with
  | nil => rfl
  | cons c s ih =>
    rw [List.cons_append, lines, lines]
    split
    · rename_i hend
      cases s with
      | nil => rfl
      | cons d s =>
        rw [ih fun _ => by rw [← hs (List.cons_ne_nil c _), List.getLast?_cons_cons]]
        rfl
    · rename_i hend
      cases s with
      | nil => exact absurd (Option.some.inj (hs (List.cons_ne_nil c []))) hend
      | cons d s =>
        rw [ih fun _ => by rw [← hs (List.cons_ne_nil c _), List.getLast?_cons_cons]]
        cases hlines : lines (d :: s) with
        | nil => cases lines_eq_nil hlines
        | cons l ls => rfl

theorem whole_flatten {ts : List (List Char)} (h : ∀ t ∈ ts, Whole t) : Whole ts.flatten := by
  induction ts with
  | nil => exact whole_nil
  | cons t ts ih =>
    obtain ⟨ht, hts⟩ := List.forall_mem_cons.mp h
    exact ht.append (ih hts)

theorem lines_flatten {ts : List (List Char)} (h : ∀ t ∈ ts, Whole t) :
    lines ts.flatten = (ts.map lines).flatten := by
  induction ts with
  | nil => rfl
  | cons t ts ih =>
    obtain ⟨ht, hts⟩ := List.forall_mem_cons.mp h
    rw [List.flatten_cons, lines_append ht, ih hts, List.map_cons, List.flatten_cons]

theorem lines_line {s : List Char} (hs : '\n' ∉ s) : lines (s ++ ['\n']) = [s ++ ['\n']] := by
  induction s with
  | nil => rfl
  | cons c s ih =>
    obtain ⟨hc, hs⟩ := not_or.mp (mt List.mem_cons.mpr hs)
    rw [List.cons_append, lines, if_neg fun h => hc h.symm, ih hs]

end Libc
