import ConsoleKit.Leader.Parameters
import Mathlib.Data.List.TakeWhile

/-! # The lines of the collector

    The lines of the output are parsed one by one, but not independently: the
    error number that one of them has set, or that was set before, makes a
    later number 0 an error.  A line without a value is not left out if its
    key is not that of a string.

    This module provides:
    - `alone`: what a line contributes by itself,
    - `parse_lines_eq`: what the lines contribute together,
    - `parsed_independently_iff`: when both are the same.
-/

namespace Libc

/-! ## Section 1: Splitting a line -/

theorem g_strstr_len_spec {needle s rest : CString} (h : g_strstr_len needle s = some rest) :
    ∃ before after, s = before ++ needle ++ after ∧ rest = needle ++ after := by
  induction s with
  | nil =>
    rw [g_strstr_len] at h
    split at h
    · rename_i hneedle
      cases h
      exact ⟨[], [], by simp [hneedle], by simp [hneedle]⟩
    · cases h
  | cons c s ih =>
    rw [g_strstr_len] at h
    split at h
    · rename_i hprefix
      cases h
      obtain ⟨after, hafter⟩ := List.isPrefixOf_iff_prefix.mp hprefix
      exact ⟨[], after, hafter.symm, hafter.symm⟩
    · obtain ⟨before, after, hs, hrest⟩ := ih h
      exact ⟨c :: before, after, by rw [hs]; rfl, hrest⟩

/-- The two parts of a text that has the delimiter. -/
theorem g_strsplit_two_cases (delimiter s : CString) :
    (s = [] ∧ g_strsplit_two delimiter s = []) ∨
    (g_strsplit_two delimiter s = [s]) ∨
    ∃ before after, s = before ++ delimiter ++ after ∧
      g_strsplit_two delimiter s = [before, after] := by
  unfold g_strsplit_two
  split
  · rename_i hs
    exact .inl ⟨hs, rfl⟩
  · cases hfind : g_strstr_len delimiter s with
    | none => exact .inr (.inl rfl)
    | some rest =>
      obtain ⟨before, after, hs, hrest⟩ := g_strstr_len_spec hfind
      refine .inr (.inr ⟨before, after, hs, ?_⟩)
      simp [hs, hrest]

end Libc

namespace Leader

open Libc CkManager

theorem name_no_space (p : Parameter) : ∀ c ∈ name p, c ≠ ' ' := by
  have hspace : ' ' ∉ name p := by cases p <;> decide
  intro c hmem hc
  rw [hc] at hmem
  exact hspace hmem

/-- A line with a known key is split behind the key. -/
theorem split_line (p : Parameter) (text : CString) :
    g_strsplit_two (cstr " = ") (name p ++ cstr " = " ++ text) = [name p, text] := by
  have hfind : g_strstr_len (cstr " = ") (name p ++ cstr " = " ++ text) =
      some (cstr " = " ++ text) := by
    have hneedle : cstr " = " = ' ' :: cstr "= " := rfl
    rw [List.append_assoc, g_strstr_len_skip _ hneedle (name_no_space p)]
    simp [cstr, g_strstr_len]
  have hne : name p ++ cstr " = " ++ text ≠ [] := by simp [cstr]
  unfold g_strsplit_two
  rw [if_neg hne, hfind]
  simp

/-! ## Section 2: Keys and values -/

/-- The key of a line, if it is a known one. -/
def key (line : CString) : Option Parameter :=
  (g_strsplit_two (cstr " = ") line).head?.bind lookup_parameter_type

/-- The value of a line, if it has one. -/
def val (line : CString) : Option CString := (g_strsplit_two (cstr " = ") line).tail.head?

def GType.number : GType → Bool
  | .G_TYPE_INT | .G_TYPE_UINT => true
  | _ => false

/-- The text that is read as a number. -/
def number_text (line : CString) : Option CString :=
  if (key line).any fun p => (gtype p).number then val line else none

/-- The line has a number that `strtol` reads as 0. -/
def reads_zero (line : CString) : Bool :=
  (number_text line).any fun text => (strtol_errno text).1 = 0

/-- The line has a number that is too large for `strtol`. -/
def overflows (line : CString) : Bool := (number_text line).any fun text => (strtol_errno text).2

/-- The line is a known key of this kind without a value. -/
def bare (kind : GType → Bool) (line : CString) : Bool :=
  (val line).isNone && (key line).any fun p => kind (gtype p)

/-- `line` is of the form `key = value` with a known key. -/
theorem form_iff {line text : CString} {p : Parameter} :
    line = name p ++ cstr " = " ++ text ↔ key line = some p ∧ val line = some text := by
  constructor
  · rintro rfl
    unfold key val
    rw [split_line]
    exact ⟨lookup_parameter_type_iff.mpr rfl, rfl⟩
  · rintro ⟨hkey, hval⟩
    unfold key at hkey
    unfold val at hval
    rcases g_strsplit_two_cases (cstr " = ") line with
      ⟨-, h⟩ | h | ⟨before, after, hline, h⟩ <;> rw [h] at hkey hval
    · cases hval
    · cases hval
    · cases hval
      rw [hline, lookup_parameter_type_iff.mp hkey]

/-- What becomes of a line, by its key and value. -/
theorem parse_line_eq (overrides : Overrides) (errno : Nat) (line : CString) :
    parse_line overrides errno line =
      match key line with
      | none => some ([], errno)
      | some p =>
        if have_override_parameter overrides (name p) then some ([], errno)
        else parse_value errno (name p) (val line) (gtype p) := by
  unfold parse_line key val
  cases g_strsplit_two (cstr " = ") line with
  | nil => rfl
  | cons prop_name vals =>
    simp only [List.head?_cons, Option.bind_some, List.tail_cons]
    cases hlookup : lookup_parameter_type prop_name with
    | none => simp
    | some p => rw [lookup_parameter_type_iff.mp hlookup]

/-- What a line contributes by itself. -/
def alone (line : CString) : Parameters := ((parse_line ∅ 0 line).map Prod.fst).getD []

theorem alone_eq (line : CString) : alone line =
    match key line with
    | none => []
    | some p => ((parse_value 0 (name p) (val line) (gtype p)).map Prod.fst).getD [] := by
  unfold alone
  rw [parse_line_eq]
  cases key line with
  | none => rfl
  | some p => rfl

/-! ## Section 3: The error number -/

/-- What a line contributes after others, when the error number may be set. -/
def contribution (stale : Bool) (line : CString) : Parameters :=
  if stale && reads_zero line then [] else alone line

/-- What the lines contribute one after another. -/
def contributions : Bool → List CString → List Parameters
  | _, [] => []
  | stale, line :: lines => contribution stale line :: contributions (stale || overflows line) lines

/-- A number that is too large is read as the largest or the smallest one. -/
theorem strtol_errno_overflow {text : CString} (h : (strtol_errno text).2 = true) :
    (strtol_errno text).1 = 2 ^ 63 - 1 ∨ (strtol_errno text).1 = -2 ^ 63 := by
  unfold strtol_errno at h ⊢
  dsimp only at h ⊢
  split at h
  · cases h
  · rename_i hdigits
    rw [if_neg hdigits]
    split at h
    · rename_i hnegative
      rw [if_pos hnegative]
      split at h
      · rename_i hlarge
        rw [if_pos hlarge]
        exact .inr rfl
      · cases h
    · rename_i hpositive
      rw [if_neg hpositive]
      split at h
      · rename_i hlarge
        rw [if_pos hlarge]
        exact .inl rfl
      · cases h

/-- The error number matters for 0 only. -/
theorem untrusted_int_eq (errno : Nat) {value max : Int} (hvalue : value ≠ 0) (hmin : 0 ≤ max)
    (hmax : max < 2 ^ 63 - 1) : untrusted_int errno value max = untrusted_int 0 value max := by
  have hclear : ¬((0 = ERANGE ∧ (value = 2 ^ 63 - 1 ∨ value = -2 ^ 63)) ∨
      (0 ≠ 0 ∧ value = 0)) := by simp [ERANGE]
  unfold untrusted_int
  rw [if_neg hclear]
  by_cases hrange : errno = ERANGE ∧ (value = 2 ^ 63 - 1 ∨ value = -2 ^ 63)
  · rw [if_pos (.inl hrange)]
    rcases hrange.2 with hlarge | hsmall
    · rw [if_pos (by omega)]
    · rw [if_neg (by omega), if_pos (by omega)]
  · have hset : ¬((errno = ERANGE ∧ (value = 2 ^ 63 - 1 ∨ value = -2 ^ 63)) ∨
        (errno ≠ 0 ∧ value = 0)) := by
      rintro (hlimit | ⟨-, hzero⟩)
      · exact hrange hlimit
      · exact hvalue hzero
    rw [if_neg hset]

theorem untrusted_int_zero (errno : Nat) {max : Int} (hmax : 0 ≤ max) :
    untrusted_int errno 0 max = if errno = 0 then some 0 else none := by
  unfold untrusted_int
  by_cases herrno : errno = 0
  · rw [if_pos herrno, if_neg (by simp [herrno, ERANGE]), if_neg (by omega), if_neg (by omega)]
    rfl
  · rw [if_neg herrno, if_pos (.inr ⟨herrno, rfl⟩)]

/-- A number after other lines, and by itself. -/
theorem parse_number_eq (errno : Nat) (prop_name text : CString) {max : Int}
    (hmin : 0 ≤ max) (hmax : max < 2 ^ 63 - 1) (element : Nat → GVariant) :
    parse_number errno prop_name (some text) max element =
      some (if errno ≠ 0 ∧ (strtol_errno text).1 = 0 then []
        else ((parse_number 0 prop_name (some text) max element).map Prod.fst).getD [],
        if (strtol_errno text).2 then ERANGE else errno) := by
  simp only [parse_number, Option.map_some, Option.getD_some, Option.some.injEq, Prod.mk.injEq,
    and_true]
  cases hoverflow : (strtol_errno text).2 with
  | true =>
    -- such a number sets the error number itself
    have hvalue : (strtol_errno text).1 ≠ 0 := by
      rcases strtol_errno_overflow hoverflow with h | h <;> omega
    simp [hvalue]
  | false =>
    by_cases hvalue : (strtol_errno text).1 = 0
    · by_cases herrno : errno = 0 <;> simp [hvalue, untrusted_int_zero _ hmin, herrno]
    · simp [hvalue, untrusted_int_eq errno hvalue hmin hmax]

theorem strtol_errno_digits {digits : CString} (hne : digits ≠ [])
    (hdigits : ∀ c ∈ digits, c.isDigit = true) (hlt : Nat.ofDigitChars 10 digits 0 < 2 ^ 63) :
    strtol_errno digits = ((Nat.ofDigitChars 10 digits 0 : Int), false) := by
  have hsign := sign_digits [] hne hdigits
  rw [List.append_nil] at hsign
  have htake : digits.takeWhile Char.isDigit = digits := List.takeWhile_eq_self_iff.mpr hdigits
  unfold strtol_errno
  simp only [hsign, htake, hne, if_false, Bool.false_eq_true]
  rw [if_neg (Nat.not_le_of_lt hlt)]

/-! ## Section 4: One line after others -/

theorem number_text_some {line : CString} {p : Parameter} (hkey : key line = some p) :
    number_text line = if (gtype p).number then val line else none := by
  simp [number_text, hkey]

theorem number_text_none {line : CString} (hkey : key line = none) : number_text line = none := by
  simp [number_text, hkey]

/-- The step of the loop: only a number looks at the error number. -/
theorem parse_line_contribution (errno : Nat) {line : CString}
    (hbare : bare GType.number line = false) :
    parse_line ∅ errno line =
      some (contribution (decide (errno ≠ 0)) line,
        if overflows line then ERANGE else errno) := by
  unfold contribution overflows reads_zero
  rw [parse_line_eq, alone_eq]
  cases hkey : key line with
  | none => simp [number_text_none hkey]
  | some p =>
    have hover : have_override_parameter ∅ (name p) = false := rfl
    simp only [hover, Bool.false_eq_true, if_false]
    rw [number_text_some hkey]
    have hvalue : (gtype p).number = true → ∃ text, val line = some text := by
      intro hnumber
      simp only [bare, hkey, Option.any_some, hnumber, Bool.and_true] at hbare
      exact Option.isSome_iff_exists.mp (by simpa using hbare)
    -- by the type of the key
    cases htype : gtype p with
    | G_TYPE_STRING => simp [GType.number, parse_value]
    | G_TYPE_BOOLEAN => simp [GType.number, parse_value]
    | G_TYPE_INT =>
      obtain ⟨text, htext⟩ := hvalue (by rw [htype]; rfl)
      simp only [parse_value, htext, GType.number, if_true, Option.any_some]
      rw [parse_number_eq errno _ _ (by omega) (by omega)]
      simp
    | G_TYPE_UINT =>
      obtain ⟨text, htext⟩ := hvalue (by rw [htype]; rfl)
      simp only [parse_value, htext, GType.number, if_true, Option.any_some]
      rw [parse_number_eq errno _ _ (by omega) (by omega)]
      simp

/-- A number that is missing is not skipped. -/
theorem parse_line_bare (errno : Nat) {line : CString} (hbare : bare GType.number line = true) :
    parse_line ∅ errno line = none := by
  simp only [bare, Bool.and_eq_true, Option.isNone_iff_eq_none] at hbare
  obtain ⟨hval, hkind⟩ := hbare
  rw [parse_line_eq]
  cases hkey : key line with
  | none => simp [hkey] at hkind
  | some p =>
    have hover : have_override_parameter ∅ (name p) = false := rfl
    simp only [hkey, Option.any_some] at hkind
    simp only [hover, Bool.false_eq_true, if_false, hval]
    cases htype : gtype p with
    | G_TYPE_STRING => simp [htype, GType.number] at hkind
    | G_TYPE_BOOLEAN => simp [htype, GType.number] at hkind
    | G_TYPE_INT => rfl
    | G_TYPE_UINT => rfl

/-! ## Section 5: All lines -/

theorem parse_lines_eq (errno : Nat) (lines : List CString)
    (hbare : ∀ line ∈ lines, bare GType.number line = false) :
    parse_lines ∅ errno lines = some (contributions (decide (errno ≠ 0)) lines).flatten := by
  induction lines generalizing errno with
  | nil => rfl
  | cons line lines ih =>
    have hline := parse_line_contribution errno (hbare line List.mem_cons_self)
    have hstale : decide ((if overflows line then ERANGE else errno) ≠ 0) =
        (decide (errno ≠ 0) || overflows line) := by
      cases overflows line <;> simp [ERANGE]
    unfold parse_lines
    rw [hline, Option.bind_some, ih _ fun l hl => hbare l (List.mem_cons_of_mem _ hl), hstale]
    rfl

theorem parse_lines_bare (errno : Nat) {lines : List CString} {line : CString}
    (hmem : line ∈ lines) (hbare : bare GType.number line = true) :
    parse_lines ∅ errno lines = none := by
  induction lines generalizing errno with
  | nil => cases hmem
  | cons l lines ih =>
    unfold parse_lines
    by_cases hl : bare GType.number l = true
    · rw [parse_line_bare errno hl]
      rfl
    · have hmem : line ∈ lines := by
        rcases List.mem_cons.mp hmem with rfl | h
        · exact absurd hbare hl
        · exact h
      rw [parse_line_contribution errno (by simpa using hl), Option.bind_some, ih _ hmem]
      rfl

/-- If there is a result, every number was there. -/
theorem not_bare_of_parsed {errno : Nat} {lines : List CString} {ck_parameters : Parameters}
    (h : parse_lines ∅ errno lines = some ck_parameters) :
    ∀ line ∈ lines, bare GType.number line = false := by
  intro line hmem
  apply Bool.eq_false_iff.mpr
  intro hbare
  rw [parse_lines_bare errno hmem hbare] at h
  cases h

/-! ## Section 6: Together and alone -/

theorem parse_number_zero (prop_name : CString) {text : CString} {max : Int} (hmax : 0 ≤ max)
    (element : Nat → GVariant) (h : (strtol_errno text).1 = 0) :
    parse_number 0 prop_name (some text) max element = some ([(prop_name, element 0)], 0) := by
  have hoverflow : (strtol_errno text).2 = false := by
    apply Bool.eq_false_iff.mpr
    intro hlimit
    rcases strtol_errno_overflow hlimit with hlarge | hsmall <;> omega
  simp [parse_number, hoverflow, h, untrusted_int_zero 0 hmax]

/-- By itself a number 0 counts. -/
theorem alone_zero {line : CString} (h : reads_zero line = true) : ∃ e, alone line = [e] := by
  unfold reads_zero at h
  cases htext : number_text line with
  | none => simp [htext] at h
  | some text =>
    have hzero : (strtol_errno text).1 = 0 := by simpa [htext] using h
    cases hkey : key line with
    | none => simp [number_text_none hkey] at htext
    | some p =>
      rw [number_text_some hkey] at htext
      rw [alone_eq, hkey]
      cases htype : gtype p with
      | G_TYPE_STRING => simp [htype, GType.number] at htext
      | G_TYPE_BOOLEAN => simp [htype, GType.number] at htext
      | G_TYPE_INT =>
        have hval : val line = some text := by simpa [htype, GType.number] using htext
        exact ⟨_, by simp [hval, htype, parse_value, parse_number_zero, hzero]; rfl⟩
      | G_TYPE_UINT =>
        have hval : val line = some text := by simpa [htype, GType.number] using htext
        exact ⟨_, by simp [hval, htype, parse_value, parse_number_zero, hzero]; rfl⟩

/-- A line is left out or contributes what it does by itself. -/
theorem contribution_sublist (stale : Bool) (line : CString) :
    (contribution stale line).Sublist (alone line) := by
  unfold contribution
  split
  · exact List.nil_sublist _
  · exact List.Sublist.refl _

theorem contributions_sublist (stale : Bool) (lines : List CString) :
    (contributions stale lines).flatten.Sublist (lines.flatMap alone) := by
  induction lines generalizing stale with
  | nil => exact List.Sublist.refl _
  | cons line lines ih =>
    rw [contributions, List.flatten_cons, List.flatMap_cons]
    exact (contribution_sublist stale line).append (ih _)

theorem forall_split_cons {α : Type} {P : List α → α → Prop} {a : α} {l : List α} :
    (∀ pre x post, a :: l = pre ++ x :: post → P pre x) ↔
      P [] a ∧ ∀ pre x post, l = pre ++ x :: post → P (a :: pre) x := by
  constructor
  · intro h
    exact ⟨h [] a l rfl, fun pre x post heq => h (a :: pre) x post (by rw [heq]; rfl)⟩
  · rintro ⟨hhead, htail⟩ pre x post heq
    cases pre with
    | nil =>
      obtain ⟨rfl, -⟩ := List.cons.inj heq
      exact hhead
    | cons b pre =>
      obtain ⟨rfl, hrest⟩ := List.cons.inj heq
      exact htail pre x post hrest

/-- Of the entries that satisfy `q`, nothing is left out iff no number 0 that
    gives one comes after an error. -/
theorem contributions_filter_eq_iff (q : CString × GVariant → Bool) (stale : Bool)
    (lines : List CString) :
    (contributions stale lines).flatten.filter q = (lines.flatMap alone).filter q ↔
      ∀ pre line post, lines = pre ++ line :: post → (stale || pre.any overflows) = true →
        reads_zero line = true → (alone line).filter q = [] := by
  induction lines generalizing stale with
  | nil => simp [contributions]
  | cons line lines ih =>
    rw [forall_split_cons, contributions, List.flatten_cons, List.flatMap_cons, List.filter_append,
      List.filter_append]
    simp only [List.any_nil, Bool.or_false, List.any_cons, ← Bool.or_assoc]
    rw [← ih]
    -- either this line is left out, or it contributes what it does by itself
    by_cases hlost : (stale && reads_zero line) = true
    · obtain ⟨hstale, hzero⟩ := Bool.and_eq_true_iff.mp hlost
      rw [contribution, if_pos hlost, List.filter_nil, List.nil_append]
      constructor
      · intro heq
        -- what comes later cannot make up for what is lost here
        have hle := ((contributions_sublist (stale || overflows line) lines).filter q).length_le
        have hlength := congrArg List.length heq
        rw [List.length_append] at hlength
        have hnil : (alone line).filter q = [] := List.length_eq_zero_iff.mp (by omega)
        rw [hnil, List.nil_append] at heq
        exact ⟨fun _ _ => hnil, heq⟩
      · rintro ⟨hnil, heq⟩
        rw [hnil hstale hzero, List.nil_append, heq]
    · have hkept : stale = true → reads_zero line ≠ true := by simpa using hlost
      rw [contribution, if_neg hlost, List.append_cancel_left_eq]
      constructor
      · intro heq
        exact ⟨fun hstale hzero => absurd hzero (hkept hstale), heq⟩
      · exact fun h => h.2

/-! ## Section 7: What a line denotes -/

/-- A decimal number that is not larger than `max`. -/
structure Decimal (text : CString) (max n : Nat) : Prop where
  nonempty : text ≠ []
  digits : ∀ c ∈ text, c.isDigit = true
  value : Nat.ofDigitChars 10 text 0 = n
  in_range : n ≤ max

/-- The value that a text denotes for a type.  A number is a user id or that
    of a terminal, and not negative. -/
inductive Denotes (text : CString) : GType → GVariant → Prop where
  | string : Denotes text .G_TYPE_STRING (.string text)
  | boolean_true (h : text.map Char.toLower = cstr "true") :
      Denotes text .G_TYPE_BOOLEAN (.boolean true)
  | boolean_false (h : text.map Char.toLower = cstr "false") :
      Denotes text .G_TYPE_BOOLEAN (.boolean false)
  | int {n : Nat} (h : Decimal text (2 ^ 31 - 1) n) : Denotes text .G_TYPE_INT (.int32 n)
  | uint {n : Nat} (h : Decimal text (2 ^ 32 - 1) n) : Denotes text .G_TYPE_UINT (.uint32 n)

/-- What is asked of a line by itself: `key = value` contributes the value,
    and anything else contributes nothing. -/
structure LineOk (line : CString) : Prop where
  value : ∀ p text v, line = name p ++ cstr " = " ++ text → Denotes text (gtype p) v →
    alone line = [(name p, v)]
  other : (∀ p text, line ≠ name p ++ cstr " = " ++ text) → alone line = []

theorem parse_number_decimal (prop_name : CString) {text : CString} {max n : Nat}
    (hmax : max < 2 ^ 63) {limit : Int} (hlimit : limit = max) (element : Nat → GVariant)
    (h : Decimal text max n) :
    parse_number 0 prop_name (some text) limit element = some ([(prop_name, element n)], 0) := by
  have hvalue := h.value
  have hrange := h.in_range
  have hread := strtol_errno_digits h.nonempty h.digits (by omega)
  have hint : untrusted_int 0 n limit = some n := by
    unfold untrusted_int
    rw [if_neg (by simp [ERANGE]), if_neg (by omega), if_neg (by omega), Int.toNat_natCast]
  simp only [parse_number, hread, hvalue, Option.map_some, Bool.false_eq_true, if_false, hint,
    Option.toList_some]

/-- A value by itself is read as what it denotes. -/
theorem parse_value_denotes (prop_name : CString) {text : CString} {type : GType} {v : GVariant}
    (h : Denotes text type v) :
    parse_value 0 prop_name (some text) type = some ([(prop_name, v)], 0) := by
  cases h with
  | string => rfl
  | boolean_true h =>
    have heq : g_ascii_strncasecmp_eq (some text) (cstr "TRUE") 4 = true := by
      simp only [g_ascii_strncasecmp_eq, List.map_take, h]
      decide
    simp [parse_value, heq]
  | boolean_false h =>
    have heq : g_ascii_strncasecmp_eq (some text) (cstr "TRUE") 4 = false := by
      simp only [g_ascii_strncasecmp_eq, List.map_take, h]
      decide
    simp [parse_value, heq]
  | int h => exact parse_number_decimal prop_name (by decide) rfl _ h
  | uint h => exact parse_number_decimal prop_name (by decide) rfl _ h

def GType.not_string : GType → Bool
  | .G_TYPE_STRING => false
  | _ => true

/-- A line without a value contributes nothing if it is to be a string. -/
theorem lineOk_of_not_bare {line : CString} (hbare : bare GType.not_string line = false) :
    LineOk line := by
  constructor
  · intro p text v hline hdenotes
    obtain ⟨hkey, hval⟩ := form_iff.mp hline
    rw [alone_eq, hkey, hval]
    simp [parse_value_denotes (name p) hdenotes]
  · intro hform
    rw [alone_eq]
    cases hkey : key line with
    | none => rfl
    | some p =>
      cases hval : val line with
      | some text => exact absurd (form_iff.mpr ⟨hkey, hval⟩) (hform p text)
      | none =>
        simp only [bare, hval, hkey, Option.isNone_none, Option.any_some, Bool.true_and] at hbare
        cases htype : gtype p <;> simp_all [GType.not_string, parse_value]

/-- A boolean without a value is TRUE. -/
theorem not_lineOk_of_bare {line : CString} (hnumber : bare GType.number line = false)
    (hbare : bare GType.not_string line = true) : ¬LineOk line := by
  intro hok
  simp only [bare, Bool.and_eq_true, Option.isNone_iff_eq_none] at hbare
  obtain ⟨hval, hkind⟩ := hbare
  have hform : ∀ p text, line ≠ name p ++ cstr " = " ++ text := by
    intro p text hline
    have hsome := (form_iff.mp hline).2
    simp [hval] at hsome
  have halone := hok.other hform
  rw [alone_eq] at halone
  cases hkey : key line with
  | none => simp [hkey] at hkind
  | some p =>
    simp only [bare, hval, hkey, Option.isNone_none, Option.any_some, Bool.true_and] at hnumber
    simp only [hkey, Option.any_some] at hkind
    rw [hkey] at halone
    cases htype : gtype p <;>
      simp [htype, GType.number, GType.not_string, parse_value, hval] at hnumber hkind halone

/-! ## Section 8: Independence -/

/-- The parameters are those of the lines, each by itself. -/
structure LinesIndependent (errno : Nat) (output : CString) : Prop where
  together : parse_output ∅ errno output = some ((g_strsplit_lines output).flatMap alone)
  lines : ∀ line ∈ g_strsplit_lines output, LineOk line

theorem parse_output_empty (errno : Nat) (output : CString) :
    parse_output ∅ errno output = parse_lines ∅ errno (g_strsplit_lines output) := by
  have hentries : ((∅ : Overrides).entries.map fun e => (e.1, e.2)) = [] := rfl
  unfold parse_output
  rw [hentries]
  cases parse_lines ∅ errno (g_strsplit_lines output) with
  | none => rfl
  | some ck_parameters => rw [Option.map_some, List.append_nil]

/-- A number without a value is one case of a bare line. -/
theorem not_bare_number {line : CString} (hbare : bare GType.not_string line = false) :
    bare GType.number line = false := by
  unfold bare at hbare ⊢
  cases hkey : key line with
  | none => simp
  | some p =>
    rw [hkey] at hbare
    cases htype : gtype p <;> simp_all [GType.number, GType.not_string]

/-- The lines are independent iff each one has a value or the key of a string,
    and no number 0 comes after an error, be it that of an earlier line or one
    from before the call. -/
theorem parsed_independently_iff (errno : Nat) (output : CString) :
    LinesIndependent errno output ↔
      ∀ pre line post, g_strsplit_lines output = pre ++ line :: post →
        bare GType.not_string line = false ∧
        (reads_zero line = true → errno = 0 ∧ pre.any overflows = false) := by
  have hall : ∀ lines : List CString, (lines.flatMap alone).filter (fun _ => true) =
      lines.flatMap alone := fun lines => List.filter_true _
  constructor
  · rintro ⟨htogether, hlines⟩ pre line post hsplit
    rw [parse_output_empty] at htogether
    have hnumber := not_bare_of_parsed htogether
    have hmem : line ∈ g_strsplit_lines output := by simp [hsplit]
    constructor
    · apply Bool.eq_false_iff.mpr
      intro hbare
      exact not_lineOk_of_bare (hnumber line hmem) hbare (hlines line hmem)
    · intro hzero
      rw [parse_lines_eq errno _ hnumber, Option.some.injEq] at htogether
      have hkept := (contributions_filter_eq_iff (fun _ => true) _ _).mp
        (congrArg (List.filter fun _ => true) htogether) pre line post hsplit
      obtain ⟨e, halone⟩ := alone_zero hzero
      have hclear : ¬(decide (errno ≠ 0) || pre.any overflows) = true := by
        intro herror
        have hnil := hkept herror hzero
        simp [halone] at hnil
      simpa using hclear
  · intro h
    have hbare : ∀ line ∈ g_strsplit_lines output, bare GType.not_string line = false := by
      intro line hmem
      obtain ⟨pre, post, hsplit⟩ := List.append_of_mem hmem
      exact (h pre line post hsplit).1
    constructor
    · have hkept := (contributions_filter_eq_iff (fun _ => true) (decide (errno ≠ 0))
        (g_strsplit_lines output)).mpr fun pre line post hsplit herror hzero => by
          obtain ⟨herrno, hpre⟩ := (h pre line post hsplit).2 hzero
          simp [herrno, hpre] at herror
      rw [hall, List.filter_true] at hkept
      rw [parse_output_empty, parse_lines_eq errno _ fun line hmem =>
        not_bare_number (hbare line hmem), hkept]
    · exact fun line hmem => lineOk_of_not_bare (hbare line hmem)

/-- The user 0 is lost after a terminal that is too large. -/
theorem root_lost_after_overflow :
    ¬LinesIndependent 0 (cstr "vtnr = 99999999999999999999\nunix-user = 0") := by
  intro h
  have htogether := h.together
  have hlost : parse_output ∅ 0 (cstr "vtnr = 99999999999999999999\nunix-user = 0") =
      some [] := by decide +kernel
  have halone : (g_strsplit_lines (cstr "vtnr = 99999999999999999999\nunix-user = 0")).flatMap
      alone = [(cstr "unix-user", .int32 0)] := by decide +kernel
  rw [hlost, halone] at htogether
  cases htogether

end Leader
