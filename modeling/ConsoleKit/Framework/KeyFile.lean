import ConsoleKit.Framework.CString
import Mathlib.Algebra.Group.Int.Defs
import Mathlib.Data.List.Induction
import Mathlib.Data.List.TakeWhile

/-! # Key files

    GLib's `GKeyFile`: groups of keys with their values, in the order in which
    they were set first.

    This module provides:
    - the functions that set values, and `to_data`, the text of a key file,
    - the functions that get values; a key file that is loaded from the text
      of another one has its groups and values,
    - what is got after something was set.
-/

namespace Libc

/-- The value of a key that is there is replaced, and a new key comes last. -/
def assocSet {α β : Type} [DecidableEq α] (key : α) (value : Option β → β) :
    List (α × β) → List (α × β)
  | [] => [(key, value none)]
  | (k, v) :: pairs =>
    if k = key then (k, value (some v)) :: pairs else (k, v) :: assocSet key value pairs

structure GKeyFile where
  groups : List (CString × List (CString × CString))

def g_key_file_new : GKeyFile := ⟨[]⟩

/-- `g_key_file_parse_string_as_value`, which does not escape the separator of
    lists here; blanks are escaped at the start only. -/
def g_key_file_parse_string_as_value : Bool → CString → CString
  | _, [] => []
  | parsing_leading_space, c :: cs =>
    if c = ' ' ∧ parsing_leading_space then
      '\\' :: 's' :: g_key_file_parse_string_as_value true cs
    else if c = '\t' ∧ parsing_leading_space then
      '\\' :: 't' :: g_key_file_parse_string_as_value true cs
    else if c = ' ' ∨ c = '\t' then c :: g_key_file_parse_string_as_value false cs
    else if c = '\n' then
      '\\' :: 'n' :: g_key_file_parse_string_as_value parsing_leading_space cs
    else if c = '\r' then
      '\\' :: 'r' :: g_key_file_parse_string_as_value parsing_leading_space cs
    else if c = '\\' then '\\' :: '\\' :: g_key_file_parse_string_as_value false cs
    else c :: g_key_file_parse_string_as_value false cs

/-- A number that `strtol` reads, and the text after it; `none` if there is
    none. -/
def strtol (s : CString) : Option (Int × CString) :=
  let (negative, t) := sign (s.dropWhile isspace)
  let digits := t.takeWhile Char.isDigit
  if digits = [] then none
  else
    let n : Int := Nat.ofDigitChars 10 digits 0
    some (if negative then -n else n, t.dropWhile Char.isDigit)

namespace GKeyFile

/-! ## Section 1: Setting values -/

def set_value (k : GKeyFile) (group_name key value : CString) : GKeyFile :=
  ⟨assocSet group_name (fun pairs => assocSet key (fun _ => value) (pairs.getD [])) k.groups⟩

def set_string (k : GKeyFile) (group_name key string : CString) : GKeyFile :=
  k.set_value group_name key (g_key_file_parse_string_as_value true string)

/-- The value is a `gint`, which `%d` prints. -/
def set_integer (k : GKeyFile) (group_name key : CString) (value : Nat) : GKeyFile :=
  k.set_value group_name key (percent_d (Int32.ofNat value))

def set_boolean (k : GKeyFile) (group_name key : CString) (value : Bool) : GKeyFile :=
  k.set_value group_name key (if value then cstr "true" else cstr "false")

/-- Groups are separated by an empty line. -/
def separate (data_string : CString) : CString :=
  match data_string.reverse with
  | _ :: c :: _ => if c ≠ '\n' then data_string ++ ['\n'] else data_string
  | _ => data_string

def to_data (k : GKeyFile) : CString :=
  k.groups.foldl (fun data_string group =>
    separate data_string ++ cstr "[" ++ group.1 ++ cstr "]\n" ++
      group.2.flatMap fun pair => pair.1 ++ cstr "=" ++ pair.2 ++ cstr "\n") []

example : ((g_key_file_new.set_string (cstr "Seats") (cstr "seats") (cstr "  a\tb")).set_boolean
    (cstr "Seat a") (cstr "on") true).to_data =
    cstr "[Seats]\nseats=\\s\\sa\tb\n\n[Seat a]\non=true\n" := by
  decide

/-! ## Section 2: Getting values -/

def get_groups (k : GKeyFile) : List CString := k.groups.map Prod.fst

def get_value (k : GKeyFile) (group_name key : CString) : Option CString :=
  (k.groups.lookup group_name).bind fun pairs => pairs.lookup key

/-- FALSE if there is no such key, or its value is no boolean. -/
def get_boolean (k : GKeyFile) (group_name key : CString) : Bool :=
  match k.get_value group_name key with
  | none => false
  | some value =>
    let value := (value.reverse.dropWhile isspace).reverse
    value = cstr "true" || value = cstr "1"

/-- 0 if there is no such key, or its value is no `gint`. -/
def get_integer (k : GKeyFile) (group_name key : CString) : Int :=
  match (k.get_value group_name key).bind strtol with
  | none => 0
  | some (value, rest) =>
    if rest.head?.any (fun c => !isspace c) then 0
    else if value < -2 ^ 31 ∨ 2 ^ 31 ≤ value then 0
    else value

/-! ## Section 3: Getting what was set -/

end GKeyFile

section assoc
variable {α β : Type} [DecidableEq α] [BEq α] [LawfulBEq α]

omit [DecidableEq α] in
theorem lookup_cons_of_ne {key k : α} (h : key ≠ k) (v : β) (pairs : List (α × β)) :
    ((k, v) :: pairs).lookup key = pairs.lookup key := by
  rw [List.lookup_cons, beq_false_of_ne h]

theorem lookup_assocSet (key key' : α) (value : Option β → β) (pairs : List (α × β)) :
    (assocSet key value pairs).lookup key' =
      if key' = key then some (value (pairs.lookup key)) else pairs.lookup key' := by
  induction pairs with
  | nil =>
    by_cases h : key' = key
    · subst h
      simp [assocSet]
    · rw [assocSet, if_neg h, lookup_cons_of_ne h]
  | cons pair pairs ih =>
    obtain ⟨k, v⟩ := pair
    rw [assocSet]
    by_cases hk : k = key
    · subst hk
      rw [if_pos rfl]
      by_cases h : key' = k
      · subst h
        simp
      · rw [if_neg h, lookup_cons_of_ne h, lookup_cons_of_ne h]
    · rw [if_neg hk, lookup_cons_of_ne (Ne.symm hk)]
      by_cases h : key' = k
      · subst h
        rw [if_neg hk, List.lookup_cons_self, List.lookup_cons_self]
      · rw [lookup_cons_of_ne h, lookup_cons_of_ne h, ih]

omit [BEq α] [LawfulBEq α] in
theorem mem_keys_assocSet (key key' : α) (value : Option β → β) (pairs : List (α × β)) :
    key' ∈ (assocSet key value pairs).map Prod.fst ↔ key' = key ∨ key' ∈ pairs.map Prod.fst := by
  induction pairs with
  | nil => simp [assocSet]
  | cons pair pairs ih =>
    obtain ⟨k, v⟩ := pair
    rw [assocSet]
    by_cases hk : k = key
    · subst hk
      simp
    · rw [if_neg hk, List.map_cons, List.mem_cons, ih, List.map_cons, List.mem_cons]
      exact or_left_comm

omit [BEq α] [LawfulBEq α] in
theorem nodup_keys_assocSet {pairs : List (α × β)} (h : (pairs.map Prod.fst).Nodup) (key : α)
    (value : Option β → β) : ((assocSet key value pairs).map Prod.fst).Nodup := by
  induction pairs with
  | nil => simp [assocSet]
  | cons pair pairs ih =>
    obtain ⟨k, v⟩ := pair
    obtain ⟨hnotin, hnodup⟩ := List.nodup_cons.mp h
    rw [assocSet]
    by_cases hk : k = key
    · rw [if_pos hk]
      exact h
    · rw [if_neg hk]
      refine List.nodup_cons.mpr ⟨fun hmem => ?_, ih hnodup⟩
      rcases (mem_keys_assocSet key k value pairs).mp hmem with heq | hmem
      · exact hk heq
      · exact hnotin hmem

end assoc

namespace GKeyFile

theorem get_value_set_value (k : GKeyFile) (group_name key value group_name' key' : CString) :
    (k.set_value group_name key value).get_value group_name' key' =
      if group_name' = group_name ∧ key' = key then some value
      else k.get_value group_name' key' := by
  unfold get_value set_value
  rw [lookup_assocSet]
  by_cases hgroup : group_name' = group_name
  · subst hgroup
    rw [if_pos rfl, Option.bind_some, lookup_assocSet]
    by_cases hkey : key' = key
    · simp [hkey]
    · rw [if_neg hkey, if_neg fun h => hkey h.2]
      cases k.groups.lookup group_name' <;> rfl
  · rw [if_neg hgroup, if_neg fun h => hgroup h.1]

theorem get_value_set_self (k : GKeyFile) (group_name key value : CString) :
    (k.set_value group_name key value).get_value group_name key = some value := by
  rw [get_value_set_value, if_pos ⟨rfl, rfl⟩]

theorem get_value_set_of_ne {key key' : CString} (h : key' ≠ key) (k : GKeyFile)
    (group_name value group_name' : CString) :
    (k.set_value group_name key value).get_value group_name' key' =
      k.get_value group_name' key' := by
  rw [get_value_set_value, if_neg fun heq => h heq.2]

theorem mem_get_groups_set_value (k : GKeyFile) (group_name key value group_name' : CString) :
    group_name' ∈ (k.set_value group_name key value).get_groups ↔
      group_name' = group_name ∨ group_name' ∈ k.get_groups :=
  mem_keys_assocSet ..

/-- No group is there twice. -/
theorem nodup_set_value {k : GKeyFile} (h : k.get_groups.Nodup) (group_name key value : CString) :
    (k.set_value group_name key value).get_groups.Nodup :=
  nodup_keys_assocSet h group_name _

theorem nodup_foldl {α : Type} {step : GKeyFile → α → GKeyFile}
    (hstep : ∀ k a, k.get_groups.Nodup → (step k a).get_groups.Nodup) (as : List α) {k : GKeyFile}
    (h : k.get_groups.Nodup) : (as.foldl step k).get_groups.Nodup := by
  induction as generalizing k with
  | nil => exact h
  | cons a as ih => exact ih (hstep k a h)

/-- `k'` differs from `k` in these groups only. -/
structure Written (groups : CString → Prop) (k k' : GKeyFile) : Prop where
  value : ∀ group_name key, ¬ groups group_name →
    k'.get_value group_name key = k.get_value group_name key
  group : ∀ group_name, ¬ groups group_name →
    (group_name ∈ k'.get_groups ↔ group_name ∈ k.get_groups)

namespace Written

variable {groups : CString → Prop} {k k' k'' : GKeyFile} {group_name : CString}

theorem refl (k : GKeyFile) : Written groups k k := ⟨fun _ _ _ => rfl, fun _ _ => Iff.rfl⟩

theorem trans (h : Written groups k k') (h' : Written groups k' k'') : Written groups k k'' where
  value _ _ hother := (h'.value _ _ hother).trans (h.value _ _ hother)
  group _ hother := (h'.group _ hother).trans (h.group _ hother)

theorem set_value (h : Written groups k k') (hgroup : groups group_name) (key value : CString) :
    Written groups k (k'.set_value group_name key value) where
  value group_name' key' hother := by
    rw [get_value_set_value, if_neg, h.value _ _ hother]
    rintro ⟨rfl, -⟩
    exact hother hgroup
  group group_name' hother := by
    rw [mem_get_groups_set_value, or_iff_right, h.group _ hother]
    rintro rfl
    exact hother hgroup

theorem set_string (h : Written groups k k') (hgroup : groups group_name) (key string : CString) :
    Written groups k (k'.set_string group_name key string) := h.set_value hgroup key _

theorem set_integer (h : Written groups k k') (hgroup : groups group_name) (key : CString)
    (value : Nat) : Written groups k (k'.set_integer group_name key value) :=
  h.set_value hgroup key _

theorem set_boolean (h : Written groups k k') (hgroup : groups group_name) (key : CString)
    (value : Bool) : Written groups k (k'.set_boolean group_name key value) :=
  h.set_value hgroup key _

theorem foldl {α : Type} {step : GKeyFile → α → GKeyFile}
    (h : ∀ k a, Written groups k (step k a)) (as : List α) (k : GKeyFile) :
    Written groups k (as.foldl step k) := by
  induction as generalizing k with
  | nil => exact refl k
  | cons a as ih => exact (h k a).trans (ih (step k a))

end Written

/-- Each step of a loop writes to a group of its own: what it has set there
    is there in the end. -/
theorem get_value_foldl {α : Type} {step : GKeyFile → α → GKeyFile} {group : α → CString}
    (hown : ∀ k a, Written (· = group a) k (step k a)) {key value : CString} {a : α}
    (hset : ∀ k, (step k a).get_value (group a) key = some value) {as : List α}
    (hdistinct : ∀ b ∈ as, group b = group a → b = a) (ha : a ∈ as) (k : GKeyFile) :
    (as.foldl step k).get_value (group a) key = some value := by
  induction as using List.reverseRecOn with
  | nil => cases ha
  | append_singleton as b ih =>
    rw [List.foldl_append]
    by_cases hb : group b = group a
    · rw [hdistinct b (by simp) hb]
      exact hset _
    · refine ((hown _ b).value _ _ fun h => hb h.symm).trans (ih ?_ ?_)
      · exact fun c hc => hdistinct c (by simp [hc])
      · rcases List.mem_append.mp ha with ha | ha
        · exact ha
        · rw [List.mem_singleton.mp ha] at hb
          exact absurd rfl hb

/-- What is there in the end was set in a step for this group. -/
theorem exists_get_value_foldl {α : Type} {step : GKeyFile → α → GKeyFile} {group : α → CString}
    (hown : ∀ k a, Written (· = group a) k (step k a)) {key : CString} {value : α → CString}
    (hset : ∀ k a, (step k a).get_value (group a) key = some (value a)) {as : List α}
    {group_name : CString} (ha : ∃ a ∈ as, group a = group_name) (k : GKeyFile) :
    ∃ a ∈ as, group a = group_name ∧
      (as.foldl step k).get_value group_name key = some (value a) := by
  induction as using List.reverseRecOn with
  | nil =>
    obtain ⟨a, ha, -⟩ := ha
    cases ha
  | append_singleton as b ih =>
    rw [List.foldl_append]
    by_cases hb : group b = group_name
    · refine ⟨b, by simp, hb, ?_⟩
      rw [← hb]
      exact hset _ b
    · have hbefore : ∃ a ∈ as, group a = group_name := by
        obtain ⟨a, ha, hgroup⟩ := ha
        rcases List.mem_append.mp ha with ha | ha
        · exact ⟨a, ha, hgroup⟩
        · rw [List.mem_singleton.mp ha] at hgroup
          exact absurd hgroup hb
      obtain ⟨a, ha, hgroup, hvalue⟩ := ih hbefore
      exact ⟨a, by simp [ha], hgroup, ((hown _ b).value _ _ fun h => hb h.symm).trans hvalue⟩

theorem mem_get_groups_foldl {α : Type} {step : GKeyFile → α → GKeyFile} {group : α → CString}
    (hown : ∀ k a, Written (· = group a) k (step k a))
    (hset : ∀ k a, group a ∈ (step k a).get_groups) (as : List α) (k : GKeyFile)
    (group_name : CString) :
    group_name ∈ (as.foldl step k).get_groups ↔
      (∃ a ∈ as, group_name = group a) ∨ group_name ∈ k.get_groups := by
  induction as using List.reverseRecOn with
  | nil => simp
  | append_singleton as b ih =>
    rw [List.foldl_append]
    by_cases hb : group_name = group b
    · refine iff_of_true ?_ (.inl ⟨b, by simp, hb⟩)
      rw [hb]
      exact hset _ b
    · refine ((hown _ b).group _ hb).trans (ih.trans (or_congr_left ?_))
      constructor
      · rintro ⟨a, ha, h⟩
        exact ⟨a, by simp [ha], h⟩
      · rintro ⟨a, ha, h⟩
        rcases List.mem_append.mp ha with ha | ha
        · exact ⟨a, ha, h⟩
        · rw [List.mem_singleton.mp ha] at h
          exact absurd h hb

/-! ### Booleans and integers -/

theorem get_boolean_of_value {k : GKeyFile} {group_name key : CString} {value : Bool}
    (h : k.get_value group_name key =
      some (if value then cstr "true" else cstr "false")) :
    k.get_boolean group_name key = value := by
  unfold get_boolean
  rw [h]
  cases value <;> decide

theorem sign_percent_u (n : Nat) :
    sign ((percent_u n).dropWhile isspace) = (false, percent_u n) := by
  obtain ⟨c, cs, hcs⟩ := List.exists_cons_of_ne_nil (percent_u_ne_nil n)
  have hc : c.isDigit = true := percent_u_isDigit n c (by rw [hcs]; simp)
  have hminus : c ≠ '-' := fun h => absurd hc (by rw [h]; decide)
  have hplus : c ≠ '+' := fun h => absurd hc (by rw [h]; decide)
  rw [hcs, List.dropWhile_cons, isspace_of_isDigit hc, if_neg (by decide), sign]
  · exact fun t h => hminus (List.cons.inj h).1
  · exact fun t h => hplus (List.cons.inj h).1

/-- `strtol` reads what `%d` prints. -/
theorem strtol_percent_d (i : Int32) : strtol (percent_d i) = some (i.toInt, []) := by
  have htake : (percent_u i.toInt.natAbs).takeWhile Char.isDigit = percent_u i.toInt.natAbs :=
    List.takeWhile_eq_self_iff.mpr (percent_u_isDigit _)
  have hdrop : (percent_u i.toInt.natAbs).dropWhile Char.isDigit = [] :=
    List.dropWhile_eq_nil_iff.mpr (percent_u_isDigit _)
  unfold strtol percent_d
  by_cases hneg : i.toInt < 0
  · rw [if_pos hneg]
    have hsign : sign (('-' :: percent_u i.toInt.natAbs).dropWhile isspace) =
        (true, percent_u i.toInt.natAbs) := rfl
    rw [hsign]
    simp only [htake, hdrop, percent_u_ne_nil, ofDigitChars_percent_u, if_true, if_false]
    congr 2
    omega
  · rw [if_neg hneg, sign_percent_u]
    simp only [htake, hdrop, percent_u_ne_nil, ofDigitChars_percent_u, if_false,
      Bool.false_eq_true]
    congr 2
    omega

theorem get_integer_of_value {k : GKeyFile} {group_name key : CString} {i : Int32}
    (h : k.get_value group_name key = some (percent_d i)) :
    k.get_integer group_name key = i.toInt := by
  unfold get_integer
  rw [h, Option.bind_some, strtol_percent_d]
  have hlo := i.le_toInt
  have hhi := i.toInt_lt
  simp only [List.head?_nil, Option.any_none, Bool.false_eq_true, if_false]
  rw [if_neg]
  omega

end GKeyFile

end Libc
