import Mathlib.Algebra.Group.Nat.Defs
import Mathlib.Data.List.Basic

/-! # C strings

    The parts of the C library and of GLib that print and read numbers and
    words.  A C string is the list of its characters and a `char *` is an
    option, with `none` for NULL.  `long` has 64 bits and `int` has 32.

    This module provides:
    - `percent_u`, `percent_d`, `percent_s`: the conversions of `printf`,
    - `strtoul` and the conversions of `sscanf`,
    - what the latter make of the text of the former.
-/

namespace Libc

abbrev CString := List Char

/-- The characters of a literal. -/
def cstr (s : String) : CString := s.toList

/-! ## Section 1: Printing and reading -/

/-- `%s`: glibc prints NULL as `(null)`. -/
def percent_s : Option CString → CString
  | none => cstr "(null)"
  | some s => s

/-- `%u` and `%lu`. -/
def percent_u (n : Nat) : CString := Nat.toDigits 10 n

/-- `%03u` -/
def percent_03u (n : Nat) : CString := (percent_u n).leftpad 3 '0'

/-- `%d` -/
def percent_d (i : Int32) : CString :=
  if i.toInt < 0 then '-' :: percent_u i.toInt.natAbs else percent_u i.toInt.natAbs

def isspace (c : Char) : Bool :=
  c = ' ' || c = '\t' || c = '\n' || c = '\x0b' || c = '\x0c' || c = '\r'

/-- An optional sign: whether it is a minus, and the text after it. -/
def sign : CString → Bool × CString
  | '-' :: t => (true, t)
  | '+' :: t => (false, t)
  | t => (false, t)

/-- `strtoul (s, &end, 10)`, with the text from `end` on. -/
def strtoul (s : CString) : Nat × CString :=
  let (negative, t) := sign (s.dropWhile isspace)
  let digits := t.takeWhile Char.isDigit
  if digits = [] then (0, s)
  else
    let n := Nat.ofDigitChars 10 digits 0
    let value :=
      if n ≥ 2 ^ 64 then 2 ^ 64 - 1
      else if negative then (2 ^ 64 - n) % 2 ^ 64
      else n
    (value, t.dropWhile Char.isDigit)

/-- A conversion `%lu` or `%u` of `sscanf`, into a variable of this many bits. -/
def scan_unsigned (bits : Nat) (s : CString) : Option (Nat × CString) :=
  let (value, rest) := strtoul s
  if rest = s then none else some (value % 2 ^ bits, rest)

/-- Ordinary characters in a format of `sscanf`. -/
def scan_literal (lit s : CString) : Option CString :=
  if lit.isPrefixOf s then some (s.drop lit.length) else none

/-- White space in a format of `sscanf`. -/
def scan_space (s : CString) : CString := s.dropWhile isspace

/-- A conversion `%30s` of `sscanf`. -/
def scan_word (width : Nat) (s : CString) : Option CString :=
  let word := ((scan_space s).takeWhile fun c => !isspace c).take width
  if word = [] then none else some word

/-- `g_strstr_len`: the text from the first occurrence on. -/
def g_strstr_len (needle : CString) : CString → Option CString
  | [] => if needle = [] then some [] else none
  | c :: cs => if needle.isPrefixOf (c :: cs) then some (c :: cs) else g_strstr_len needle cs

/-! ## Section 2: What is read of what is printed -/

theorem isspace_of_isDigit {c : Char} (h : c.isDigit = true) : isspace c = false := by
  rw [Bool.eq_false_iff]
  intro hs
  simp only [isspace, Bool.or_eq_true, decide_eq_true_eq] at hs
  rcases hs with ((((rfl | rfl) | rfl) | rfl) | rfl) | rfl <;> exact absurd h (by decide)

/-- Digits have no white space and no sign before them. -/
theorem sign_digits {digits : CString} (rest : CString) (hne : digits ≠ [])
    (hdigits : ∀ c ∈ digits, c.isDigit = true) :
    sign ((digits ++ rest).dropWhile isspace) = (false, digits ++ rest) := by
  obtain ⟨c, cs, rfl⟩ := List.exists_cons_of_ne_nil hne
  have hc := hdigits c (by simp)
  have hminus : c ≠ '-' := fun h => absurd hc (by rw [h]; decide)
  have hplus : c ≠ '+' := fun h => absurd hc (by rw [h]; decide)
  rw [List.cons_append, List.dropWhile_cons, isspace_of_isDigit hc, if_neg (by decide), sign]
  · exact fun t h => hminus (List.cons.inj h).1
  · exact fun t h => hplus (List.cons.inj h).1

/-- `strtoul` reads a number up to the first character that is no digit. -/
theorem strtoul_digits {digits : CString} (rest : CString) (hne : digits ≠ [])
    (hdigits : ∀ c ∈ digits, c.isDigit = true)
    (hrest : ∀ c, rest.head? = some c → c.isDigit = false)
    (hlt : Nat.ofDigitChars 10 digits 0 < 2 ^ 64) :
    strtoul (digits ++ rest) = (Nat.ofDigitChars 10 digits 0, rest) := by
  have htake : (digits ++ rest).takeWhile Char.isDigit = digits := by
    rw [List.takeWhile_append_of_pos hdigits]
    cases rest with
    | nil => simp
    | cons d ds => simp [hrest d rfl]
  have hdrop : (digits ++ rest).dropWhile Char.isDigit = rest := by
    rw [List.dropWhile_append_of_pos hdigits]
    cases rest with
    | nil => rfl
    | cons d ds => simp [hrest d rfl]
  unfold strtoul
  simp only [sign_digits rest hne hdigits, htake, hdrop, hne, if_false, Bool.false_eq_true]
  rw [if_neg (Nat.not_le_of_lt hlt)]

/-- A conversion reads a number that fits its variable. -/
theorem scan_unsigned_digits {bits : Nat} (hbits : bits ≤ 64) {digits : CString}
    (rest : CString) (hne : digits ≠ []) (hdigits : ∀ c ∈ digits, c.isDigit = true)
    (hrest : ∀ c, rest.head? = some c → c.isDigit = false)
    (hlt : Nat.ofDigitChars 10 digits 0 < 2 ^ bits) :
    scan_unsigned bits (digits ++ rest) = some (Nat.ofDigitChars 10 digits 0, rest) := by
  have hlt' : Nat.ofDigitChars 10 digits 0 < 2 ^ 64 :=
    Nat.lt_of_lt_of_le hlt (Nat.pow_le_pow_right (by decide) hbits)
  have hrest' : rest ≠ digits ++ rest := by
    intro h
    have := congrArg List.length h
    rw [List.length_append] at this
    exact hne (List.length_eq_zero_iff.mp (by omega))
  unfold scan_unsigned
  rw [strtoul_digits rest hne hdigits hrest hlt']
  simp only [if_neg hrest', Nat.mod_eq_of_lt hlt]

theorem percent_u_ne_nil (n : Nat) : percent_u n ≠ [] := Nat.toDigits_ne_nil

theorem percent_u_isDigit (n : Nat) : ∀ c ∈ percent_u n, c.isDigit = true :=
  fun _ hc => Nat.isDigit_of_mem_toDigits (by decide) (by decide) hc

theorem ofDigitChars_percent_u (n : Nat) : Nat.ofDigitChars 10 (percent_u n) 0 = n := by
  simp [percent_u]

theorem percent_u_inj {n k : Nat} (h : percent_u n = percent_u k) : n = k := by
  rw [← ofDigitChars_percent_u n, h, ofDigitChars_percent_u]

theorem percent_03u_isDigit (n : Nat) : ∀ c ∈ percent_03u n, c.isDigit = true := by
  intro c hc
  rcases List.mem_append.mp hc with hc | hc
  · rw [(List.mem_replicate.mp hc).2]
    decide
  · exact percent_u_isDigit n c hc

theorem percent_03u_ne_nil (n : Nat) : percent_03u n ≠ [] :=
  List.append_ne_nil_of_right_ne_nil _ (percent_u_ne_nil n)

/-- Zeros in front do not change a number. -/
theorem ofDigitChars_percent_03u (n : Nat) : Nat.ofDigitChars 10 (percent_03u n) 0 = n := by
  rw [percent_03u, List.leftpad, Nat.ofDigitChars_append, Nat.ofDigitChars_replicate_zero,
    Nat.mul_zero, ofDigitChars_percent_u]

theorem scan_literal_append (lit rest : CString) : scan_literal lit (lit ++ rest) = some rest := by
  simp [scan_literal]

theorem scan_word_append {word : CString} (rest : CString) {width : Nat}
    (hword : ∀ c ∈ word, isspace c = false) (hne : word ≠ []) (hwidth : word.length ≤ width) :
    scan_word width (word ++ ' ' :: rest) = some word := by
  obtain ⟨c, cs, rfl⟩ := List.exists_cons_of_ne_nil hne
  have hspace : scan_space ((c :: cs) ++ ' ' :: rest) = (c :: cs) ++ ' ' :: rest := by
    simp [scan_space, hword c]
  have htake : ((c :: cs) ++ ' ' :: rest).takeWhile (fun c => !isspace c) = c :: cs := by
    rw [List.takeWhile_append_of_pos (by simpa using hword)]
    simp [isspace]
  unfold scan_word
  rw [hspace, htake, List.take_of_length_le hwidth]
  exact if_neg hne

theorem g_strstr_len_skip {needle w : CString} {c : Char} (cs : CString)
    (hneedle : needle = c :: cs) (hw : ∀ d ∈ w, d ≠ c) (rest : CString) :
    g_strstr_len needle (w ++ rest) = g_strstr_len needle rest := by
  induction w with
  | nil => rfl
  | cons d w ih =>
    have hd : d ≠ c := hw d (by simp)
    rw [List.cons_append, g_strstr_len, if_neg]
    · exact ih fun d' hd' => hw d' (by simp [hd'])
    · rw [hneedle, List.isPrefixOf]
      simp [Ne.symm hd]

end Libc
