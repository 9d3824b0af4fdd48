import ConsoleKit.Framework.CString
import Mathlib.Algebra.Group.Int.Defs
import Mathlib.Data.List.DropRight

/-! # Formats of sscanf

    A format is the list of its conversions, each with the assignment to the
    variable that it is for.  `sscanf` stops at the first conversion that
    fails and leaves the variables of the rest as they are.

    This module provides:
    - `sscanf`, on formats,
    - `sscanf_frame`: what the conversions leave alone stays the same,
    - `sscanf_char`, `sscanf_int`: the steps for a text that was printed,
    - `strchr` and `strrchr`, which look for a character.
-/

namespace Libc

/-! ## Section 1: Conversions -/

/-- Into a `long`, which saturates; the text after the number follows. -/
def scan_signed (s : CString) : Option (Int × CString) :=
  let (negative, t) := sign (s.dropWhile isspace)
  let digits := t.takeWhile Char.isDigit
  if digits = [] then none
  else
    let n := Nat.ofDigitChars 10 digits 0
    let value : Int :=
      if negative then (if n > 2 ^ 63 then -2 ^ 63 else -n)
      else if n ≥ 2 ^ 63 then 2 ^ 63 - 1
      else n
    some (value, t.dropWhile Char.isDigit)

/-- A word, which is not kept. -/
def skip_word (s : CString) : Option CString :=
  let t := scan_space s
  if t.takeWhile (fun c => !isspace c) = [] then none
  else some (t.dropWhile fun c => !isspace c)

inductive Conversion (σ : Type) where
  /-- White space. -/
  | space
  | c (assign : Char → σ → σ)
  | d (assign : Int32 → σ → σ)
  | ld (assign : Int64 → σ → σ)
  /-- `%lu` and `%Lu`. -/
  | lu (assign : UInt64 → σ → σ)
  /-- `%*s` -/
  | skip_s
  /-- `%*u` -/
  | skip_u

abbrev Format (σ : Type) := List (Conversion σ)

section
variable {σ : Type}

def sscanf : Format σ → CString → σ → σ
  | [], _, P => P
  | .space :: format, s, P => sscanf format (scan_space s) P
  | .c assign :: format, s, P =>
    match s with
    | [] => P
    | c :: s => sscanf format s (assign c P)
  | .d assign :: format, s, P =>
    match scan_signed s with
    | none => P
    | some (i, s) => sscanf format s (assign (Int32.ofInt i) P)
  | .ld assign :: format, s, P =>
    match scan_signed s with
    | none => P
    | some (i, s) => sscanf format s (assign (Int64.ofInt i) P)
  | .lu assign :: format, s, P =>
    match scan_unsigned 64 s with
    | none => P
    | some (n, s) => sscanf format s (assign (UInt64.ofNat n) P)
  | .skip_s :: format, s, P =>
    match skip_word s with
    | none => P
    | some s => sscanf format s P
  | .skip_u :: format, s, P =>
    match scan_unsigned 64 s with
    | none => P
    | some (_, s) => sscanf format s P

/-- The assignment does not change what `view` sees. -/
def Conversion.Keeps {α : Type} (view : σ → α) : Conversion σ → Prop
  | .space | .skip_s | .skip_u => True
  | .c assign => ∀ x P, view (assign x P) = view P
  | .d assign => ∀ x P, view (assign x P) = view P
  | .ld assign => ∀ x P, view (assign x P) = view P
  | .lu assign => ∀ x P, view (assign x P) = view P

theorem sscanf_frame {α : Type} {view : σ → α} {format : Format σ}
    (h : ∀ conversion ∈ format, conversion.Keeps view) (s : CString) (P : σ) :
    view (sscanf format s P) = view P := by
  induction format generalizing s P with
  | nil => rfl
  | cons conversion format ih =>
    -- A conversion that fails ends the scan with what is there; one that succeeds
    -- changes what is not seen.
    obtain ⟨hkeeps, hrest⟩ := List.forall_mem_cons.mp h
    cases conversion with
    | space => exact ih hrest _ _
    | c assign =>
      cases s with
      | nil => rfl
      | cons x s =>
        rw [sscanf, ih hrest, hkeeps]
    | d assign =>
      rw [sscanf]
      split
      · rfl
      · rw [ih hrest, hkeeps]
    | ld assign =>
      rw [sscanf]
      split
      · rfl
      · rw [ih hrest, hkeeps]
    | lu assign =>
      rw [sscanf]
      split
      · rfl
      · rw [ih hrest, hkeeps]
    | skip_s =>
      rw [sscanf]
      split
      · rfl
      · exact ih hrest _ _
    | skip_u =>
      rw [sscanf]
      split
      · rfl
      · exact ih hrest _ _

end

/-! ## Section 2: Printed numbers -/

/-- A number in decimal digits, with a minus if it is negative. -/
def decimal (i : Int) : CString :=
  if i < 0 then '-' :: percent_u i.natAbs else percent_u i.natAbs

theorem mem_decimal {i : Int} {c : Char} (h : c ∈ decimal i) : c = '-' ∨ c.isDigit = true := by
  unfold decimal at h
  split at h
  · rcases List.mem_cons.mp h with rfl | h
    · exact .inl rfl
    · exact .inr (percent_u_isDigit _ c h)
  · exact .inr (percent_u_isDigit _ c h)

theorem sign_decimal (i : Int) (rest : CString) :
    sign ((decimal i ++ rest).dropWhile isspace) =
      (decide (i < 0), percent_u i.natAbs ++ rest) := by
  unfold decimal
  by_cases hneg : i < 0
  · rw [if_pos hneg, decide_eq_true hneg]
    rfl
  · rw [if_neg hneg, decide_eq_false hneg]
    exact sign_digits rest (percent_u_ne_nil _) (percent_u_isDigit _)

/-- A number of 32 bits is read up to the first character that is no digit. -/
theorem scan_signed_decimal (i : Int32) {rest : CString}
    (hrest : ∀ c, rest.head? = some c → c.isDigit = false) :
    scan_signed (decimal i.toInt ++ rest) = some (i.toInt, rest) := by
  have hlo := i.le_toInt
  have hhi := i.toInt_lt
  -- The digits that are read are those that were printed, and no more.
  have hhead : rest.takeWhile Char.isDigit = [] ∧ rest.dropWhile Char.isDigit = rest := by
    cases rest with
    | nil => exact ⟨rfl, rfl⟩
    | cons c cs => simp [hrest c rfl]
  have htake : (percent_u i.toInt.natAbs ++ rest).takeWhile Char.isDigit =
      percent_u i.toInt.natAbs := by
    rw [List.takeWhile_append_of_pos (percent_u_isDigit _), hhead.1, List.append_nil]
  have hdrop : (percent_u i.toInt.natAbs ++ rest).dropWhile Char.isDigit = rest := by
    rw [List.dropWhile_append_of_pos (percent_u_isDigit _), hhead.2]
  unfold scan_signed
  rw [sign_decimal]
  simp only [htake, hdrop, percent_u_ne_nil, ofDigitChars_percent_u, if_false, decide_eq_true_eq]
  by_cases hneg : i.toInt < 0
  · -- The number has 32 bits, so that `strtol` does not saturate.
    rw [if_pos hneg, if_neg (by omega)]
    congr 2
    omega
  · rw [if_neg hneg, if_neg (by omega)]
    congr 2
    omega

section
variable {σ : Type} {format : Format σ} {P : σ}

theorem sscanf_char {assign : Char → σ → σ} (c : Char) (rest : CString) :
    sscanf (.c assign :: format) (c :: rest) P = sscanf format rest (assign c P) := rfl

/-- White space and a number that was printed. -/
theorem sscanf_int {assign : Int32 → σ → σ} (i : Int32) {rest : CString}
    (hrest : ∀ c, rest.head? = some c → c.isDigit = false) :
    sscanf (.space :: .d assign :: format) (' ' :: (decimal i.toInt ++ rest)) P =
      sscanf format rest (assign i P) := by
  have hspace : scan_signed (scan_space (' ' :: (decimal i.toInt ++ rest))) =
      scan_signed (decimal i.toInt ++ rest) := by
    unfold scan_signed scan_space
    rw [List.dropWhile_idempotent]
    rfl
  rw [sscanf, sscanf, hspace, scan_signed_decimal i hrest]
  dsimp only
  rw [Int32.ofInt_toInt]

end

/-! ## Section 3: Looking for a character -/

def strchr (c : Char) : CString → Option CString
  | [] => none
  | a :: s => if a = c then some (a :: s) else strchr c s

/-- The last occurrence. -/
def strrchr (c : Char) : CString → Option CString
  | [] => none
  | a :: s =>
    match strrchr c s with
    | some t => some t
    | none => if a = c then some (a :: s) else none

theorem strchr_append {c : Char} {s : CString} (h : c ∉ s) (t : CString) :
    strchr c (s ++ c :: t) = some (c :: t) := by
  induction s with
  | nil => exact if_pos rfl
  | cons a s ih =>
    rw [List.mem_cons, not_or] at h
    rw [List.cons_append, strchr, if_neg (Ne.symm h.1), ih h.2]

theorem strrchr_eq_none {c : Char} {s : CString} (h : c ∉ s) : strrchr c s = none := by
  induction s with
  | nil => rfl
  | cons a s ih =>
    rw [List.mem_cons, not_or] at h
    rw [strrchr, ih h.2]
    exact if_neg (Ne.symm h.1)

theorem strrchr_append {c : Char} (s : CString) {t : CString} (h : c ∉ t) :
    strrchr c (s ++ c :: t) = some (c :: t) := by
  induction s with
  | nil =>
    rw [List.nil_append, strrchr, strrchr_eq_none h]
    exact if_pos rfl
  | cons a s ih => rw [List.cons_append, strrchr, ih]

end Libc
