import ConsoleKit.Framework.CString

/-! # Words of a command line

    A command line is split into words as a POSIX shell does it, with its
    quoting and its comments and without any expansion.  The splitting is a
    state machine that reads one character after the other.

    This module provides:
    - `g_shell_parse_argv`: the words of a command line,
    - `Scanner.run_plain`, `parse_word_iff`: a text is read as one word that
      is the text iff nothing in it is special.
-/

namespace Shell

open Libc

/-! ## Section 1: The state machine -/

/-- Where the scanner is. -/
inductive Mode where
  /-- Between words, or in one. -/
  | blank | word
  /-- Inside of quotation marks, and after a backslash there. -/
  | single | double | double_escape
  /-- After a backslash that is between words, or in one. -/
  | blank_escape | word_escape
  | comment
  deriving DecidableEq

def is_blank (c : Char) : Bool := c = ' ' || c = '\t' || c = '\n'

/-- Outside of quotes. -/
def Mode.unquoted (next : Mode) (c : Char) : Mode :=
  if is_blank c then .blank
  else if c = '\'' then .single
  else if c = '"' then .double
  else next

def Mode.next : Mode → Char → Mode
  | .blank, c =>
      if c = '\\' then .blank_escape else if c = '#' then .comment else Mode.unquoted .word c
  | .word, c => if c = '\\' then .word_escape else Mode.unquoted .word c
  | .single, c => if c = '\'' then .word else .single
  | .double, c => if c = '"' then .word else if c = '\\' then .double_escape else .double
  | .double_escape, _ => .double
  -- a backslash before a newline is as if neither were there
  | .blank_escape, c => if c = '\n' then .blank else .word
  | .word_escape, _ => .word
  | .comment, c => if c = '\n' then .blank else .comment

/-- A character that stands for itself wherever it is. -/
def ordinary (c : Char) : Bool := !is_blank c && c ≠ '\'' && c ≠ '"' && c ≠ '\\'

/-- What a character adds to the word. -/
def Mode.adds : Mode → Char → CString
  | .blank, c => if ordinary c && c ≠ '#' then [c] else []
  | .word, c => if ordinary c then [c] else []
  | .single, c => if c = '\'' then [] else [c]
  | .double, c => if c = '"' || c = '\\' then [] else [c]
  | .double_escape, c =>
      if c = '\n' then []
      else if c = '$' || c = '`' || c = '"' || c = '\\' then [c]
      else ['\\', c]
  | .blank_escape, c | .word_escape, c => if c = '\n' then [] else [c]
  | .comment, _ => []

/-- The text may not end here. -/
def Mode.unclosed : Mode → Bool
  | .blank | .word | .comment => false
  | _ => true

/-- The word and the ones before it. -/
structure Scanner where
  mode : Mode
  word : CString
  words : List CString
  deriving DecidableEq

namespace Scanner

def step (s : Scanner) (c : Char) : Scanner :=
  let word := s.word ++ s.mode.adds c
  let mode := s.mode.next c
  if s.mode = .word ∧ mode = .blank then ⟨mode, [], s.words ++ [word]⟩
  else ⟨mode, word, s.words⟩

def run (s : Scanner) (text : CString) : Scanner := text.foldl step s

/-- The words at the end of the text. -/
def finish (s : Scanner) : Option (List CString) :=
  if s.mode.unclosed then none
  else if s.mode = .word then some (s.words ++ [s.word])
  else some s.words

/-- A scanner between words. -/
def between (words : List CString) : Scanner := ⟨.blank, [], words⟩

end Scanner

/-- `g_shell_parse_argv`; a command line without any word is an error as well. -/
def g_shell_parse_argv (command_line : CString) : Option (List CString) :=
  ((Scanner.between []).run command_line).finish.filter fun argv => argv ≠ []

/-- The text ends inside of a quotation or after a backslash. -/
def unterminated (text : CString) : Bool := (text.foldl Mode.next .blank).unclosed

/-- Nothing in the text is special. -/
structure Plain (text : CString) : Prop where
  nonempty : text ≠ []
  ordinary : ∀ c ∈ text, Shell.ordinary c = true
  no_comment : text.head? ≠ some '#'

theorem Plain.of_all {text : CString} (hne : text ≠ []) (hall : text.all Shell.ordinary = true)
    (hcomment : text.head? ≠ some '#') : Plain text :=
  ⟨hne, List.all_eq_true.mp hall, hcomment⟩

/-! ## Section 2: Running the scanner -/

namespace Scanner

@[simp] theorem run_nil (s : Scanner) : s.run [] = s := rfl

@[simp] theorem run_cons (s : Scanner) (c : Char) (text : CString) :
    s.run (c :: text) = (s.step c).run text := rfl

theorem run_append (s : Scanner) (text rest : CString) :
    s.run (text ++ rest) = (s.run text).run rest := by
  simp [run, List.foldl_append]

@[simp] theorem step_mode (s : Scanner) (c : Char) : (s.step c).mode = s.mode.next c := by
  unfold step
  dsimp only
  split <;> rfl

/-- The mode does not depend on the words. -/
theorem run_mode (s : Scanner) (text : CString) :
    (s.run text).mode = text.foldl Mode.next s.mode := by
  induction text generalizing s with
  | nil => rfl
  | cons c text ih => rw [run_cons, ih, step_mode, List.foldl_cons]

theorem finish_between (words : List CString) (text : CString) :
    ((between words).run text).finish = none ↔ unterminated text = true := by
  have hmode := run_mode (between words) text
  unfold finish unterminated
  rw [hmode]
  show (if (text.foldl Mode.next .blank).unclosed = true then none else _) = none ↔ _
  split
  · rename_i hunclosed
    simp [hunclosed]
  · rename_i hclosed
    split <;> simp [hclosed]

end Scanner

/-! ## Section 3: A text without special characters -/

theorem ordinary_iff {c : Char} :
    ordinary c = true ↔ is_blank c = false ∧ c ≠ '\'' ∧ c ≠ '"' ∧ c ≠ '\\' := by
  simp [ordinary, and_assoc]

theorem Mode.word_next {c : Char} (h : ordinary c = true) : Mode.next .word c = .word := by
  obtain ⟨hblank, hsingle, hdouble, hbackslash⟩ := ordinary_iff.mp h
  simp [Mode.next, Mode.unquoted, hblank, hsingle, hdouble, hbackslash]

theorem Mode.blank_next {c : Char} (h : ordinary c = true) (hcomment : c ≠ '#') :
    Mode.next .blank c = .word := by
  obtain ⟨hblank, hsingle, hdouble, hbackslash⟩ := ordinary_iff.mp h
  simp [Mode.next, Mode.unquoted, hblank, hsingle, hdouble, hbackslash, hcomment]

namespace Scanner

theorem run_ordinary (word : CString) (words : List CString) {text : CString}
    (h : ∀ c ∈ text, ordinary c = true) :
    (Scanner.mk .word word words).run text = ⟨.word, word ++ text, words⟩ := by
  induction text generalizing word with
  | nil => simp
  | cons c text ih =>
    have hc := h c List.mem_cons_self
    have hstep : (Scanner.mk .word word words).step c = ⟨.word, word ++ [c], words⟩ := by
      simp [step, Mode.word_next hc, Mode.adds, hc]
    rw [run_cons, hstep, ih _ fun d hd => h d (List.mem_cons_of_mem _ hd)]
    simp

theorem run_plain (words : List CString) {text : CString} (h : Plain text) :
    (between words).run text = ⟨.word, text, words⟩ := by
  obtain ⟨c, rest, rfl⟩ := List.exists_cons_of_ne_nil h.nonempty
  have hc := h.ordinary c List.mem_cons_self
  have hcomment : c ≠ '#' := fun heq => h.no_comment (by rw [heq]; rfl)
  have hstep : (between words).step c = ⟨.word, [c], words⟩ := by
    simp [step, between, Mode.blank_next hc hcomment, Mode.adds, hc, hcomment]
  rw [run_cons, hstep, run_ordinary _ _ fun d hd => h.ordinary d (List.mem_cons_of_mem _ hd)]
  rfl

/-- Words that are separated by blanks are read as they are. -/
theorem run_separated (words : List CString) {ws : List CString} (h : ∀ w ∈ ws, Plain w)
    (rest : CString) :
    (between words).run ((ws.flatMap fun w => w ++ [' ']) ++ rest) =
      (between (words ++ ws)).run rest := by
  induction ws generalizing words with
  | nil => simp
  | cons w ws ih =>
    have hstep : (Scanner.mk .word w words).step ' ' = between (words ++ [w]) := by
      simp [step, Mode.next, Mode.unquoted, is_blank, Mode.adds, ordinary, between]
    rw [List.flatMap_cons, List.append_assoc, List.append_assoc, run_append,
      run_plain words (h w List.mem_cons_self), run_append, run_cons, run_nil, hstep,
      ih _ fun v hv => h v (List.mem_cons_of_mem _ hv), List.append_assoc]
    rfl

/-- Words that have been read stay. -/
theorem run_words (s : Scanner) (text : CString) : s.words <+: (s.run text).words := by
  induction text generalizing s with
  | nil => exact List.prefix_refl _
  | cons c text ih =>
    have hstep : s.words <+: (s.step c).words := by
      unfold step
      dsimp only
      split
      · exact List.prefix_append _ _
      · exact List.prefix_refl _
    exact hstep.trans (ih (s.step c))

theorem finish_prefix {s : Scanner} {words : List CString} (h : s.finish = some words) :
    s.words <+: words := by
  unfold finish at h
  split at h
  · cases h
  · split at h
    · cases h
      exact List.prefix_append _ _
    · cases h
      exact List.prefix_refl _

end Scanner

/-- A command line that begins with plain words, separated by blanks. -/
theorem g_shell_parse_argv_separated {ws : List CString} (hne : ws ≠ [])
    (h : ∀ w ∈ ws, Plain w) (rest : CString) :
    g_shell_parse_argv ((ws.flatMap fun w => w ++ [' ']) ++ rest) =
      ((Scanner.between ws).run rest).finish := by
  unfold g_shell_parse_argv
  rw [Scanner.run_separated [] h, List.nil_append]
  cases hfinish : ((Scanner.between ws).run rest).finish with
  | none => rfl
  | some words =>
    have hwords : words ≠ [] := by
      rintro rfl
      have hprefix := (Scanner.run_words (Scanner.between ws) rest).trans
        (Scanner.finish_prefix hfinish)
      exact hne (List.prefix_nil.mp hprefix)
    simp [Option.filter, hwords]

/-! ## Section 4: A text with special characters

    The words are not longer than the text, and a special character adds
    nothing to them.
-/

/-- The character is not part of a word here. -/
def Mode.special : Mode → Char → Bool
  | .blank, c => !ordinary c || c = '#'
  | .word, c => !ordinary c
  | _, _ => false

/-- A backslash in quotation marks is added with the next character. -/
def Mode.pending : Mode → Nat
  | .double_escape => 1
  | _ => 0

/-- How many characters of the text are in the words. -/
def Scanner.size (s : Scanner) : Nat :=
  s.words.flatten.length + s.word.length + s.mode.pending

theorem Mode.adds_length (m : Mode) (c : Char) :
    (m.adds c).length + (m.next c).pending ≤ m.pending + 1 := by
  cases m <;> simp only [Mode.adds, Mode.next, Mode.unquoted] <;> split_ifs <;>
    simp_all [Mode.pending]

theorem Mode.special_adds {m : Mode} {c : Char} (h : m.special c = true) :
    m.adds c = [] ∧ (m.next c).pending = 0 := by
  cases m with
  | blank =>
    have hadds : ¬(ordinary c && c ≠ '#') = true := by
      simp only [Mode.special] at h
      simpa [or_comm, imp_iff_not_or] using h
    constructor
    · exact if_neg hadds
    · simp only [Mode.next, Mode.unquoted]
      split_ifs <;> rfl
  | word =>
    have hadds : ¬ordinary c = true := by simpa [Mode.special] using h
    constructor
    · exact if_neg hadds
    · simp only [Mode.next, Mode.unquoted]
      split_ifs <;> rfl
  | single => cases h
  | double => cases h
  | double_escape => cases h
  | blank_escape => cases h
  | word_escape => cases h
  | comment => cases h

namespace Scanner

theorem step_size_eq (s : Scanner) (c : Char) :
    (s.step c).size = s.words.flatten.length + s.word.length +
      (s.mode.adds c).length + (s.mode.next c).pending := by
  unfold size
  rw [step_mode]
  unfold step
  dsimp only
  split
  · simp only [List.flatten_append, List.flatten_cons, List.flatten_nil, List.length_append,
      List.length_nil]
    omega
  · simp only [List.length_append]
    omega

/-- A character adds at most one to the words. -/
theorem step_size (s : Scanner) (c : Char) : (s.step c).size ≤ s.size + 1 := by
  have hadds := s.mode.adds_length c
  rw [step_size_eq, size]
  omega

theorem special_size {s : Scanner} {c : Char} (h : s.mode.special c = true) :
    (s.step c).size ≤ s.size := by
  obtain ⟨hadds, hpending⟩ := Mode.special_adds h
  rw [step_size_eq, hadds, hpending, size, List.length_nil]
  omega

theorem run_size (s : Scanner) (text : CString) : (s.run text).size ≤ s.size + text.length := by
  induction text generalizing s with
  | nil => exact Nat.le_refl _
  | cons c text ih =>
    have hstep := s.step_size c
    have hrest := ih (s.step c)
    rw [run_cons, List.length_cons]
    omega

theorem finish_size {s : Scanner} {words : List CString} (h : s.finish = some words) :
    words.flatten.length ≤ s.size := by
  unfold finish at h
  split at h
  · cases h
  · split at h
    · cases h
      simp only [size, List.flatten_append, List.flatten_cons, List.flatten_nil,
        List.length_append, List.length_nil]
      omega
    · cases h
      unfold size
      omega

/-- The first special character: before it, there is none. -/
theorem first_special (words : List CString) {text : CString} (hne : text ≠ [])
    (h : ¬Plain text) :
    ∃ pre c post, text = pre ++ c :: post ∧
      ((between words).run pre).mode.special c = true := by
  -- the text begins with a comment, or some character is not ordinary
  by_cases hcomment : text.head? = some '#'
  · obtain ⟨rest, rfl⟩ := List.head?_eq_some_iff.mp hcomment
    exact ⟨[], '#', rest, rfl, rfl⟩
  · have hspecial : ¬∀ c ∈ text, ordinary c = true := fun hall => h ⟨hne, hall, hcomment⟩
    obtain ⟨c, hfind⟩ : ∃ c, text.find? (fun c => !ordinary c) = some c := by
      apply Option.isSome_iff_exists.mp
      rw [List.find?_isSome]
      simpa using hspecial
    obtain ⟨hc, pre, post, hsplit, hpre⟩ := List.find?_eq_some_iff_append.mp hfind
    refine ⟨pre, c, post, hsplit, ?_⟩
    by_cases hempty : pre = []
    · subst hempty
      simp only [run_nil, between, Mode.special, hc, Bool.true_or]
    · have hplain : Plain pre := by
        refine ⟨hempty, fun d hd => by simpa using hpre d hd, fun hhead => hcomment ?_⟩
        obtain ⟨rest, rfl⟩ := List.head?_eq_some_iff.mp hhead
        rw [hsplit]
        rfl
      rw [run_plain words hplain]
      exact hc

/-- A text is read as one word, which is the text, iff nothing in it is special. -/
theorem parse_word_iff (words : List CString) (text : CString) :
    ((between words).run text).finish = some (words ++ [text]) ↔ Plain text := by
  constructor
  · intro h
    have hne : text ≠ [] := by
      rintro rfl
      have hlength := congrArg (Option.map List.length) h
      simp [finish, between, Mode.unclosed] at hlength
    by_contra hplain
    -- from the first special character on, the words are shorter than the text
    obtain ⟨pre, c, post, hsplit, hspecial⟩ := first_special words hne hplain
    have hbefore := run_size (between words) pre
    have hskipped := special_size hspecial
    have hafter := run_size (((between words).run pre).step c) post
    have hfinish := finish_size h
    have hstart : (between words).size = words.flatten.length := rfl
    rw [hsplit, run_append, run_cons] at hfinish
    simp only [List.flatten_append, List.flatten_cons, List.flatten_nil, List.length_append,
      List.length_cons, List.length_nil] at hfinish
    omega
  · intro h
    rw [run_plain words h]
    rfl

end Scanner

end Shell
