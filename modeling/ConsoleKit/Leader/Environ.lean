import ConsoleKit.Framework.HashTable
import ConsoleKit.Leader.Lines
import Mathlib.Data.List.TakeWhile

/-! # The environment of a process

    Model of the two readers of `/proc/<pid>/environ` in
    `ck-sysdeps-linux.c`.  The collector takes the display of a process from
    one of them and the rest of its environment from the other.  One reader
    keeps the last entry of a name and also entries without a value, the
    other one returns the first value, and counts the bytes with 32 bits.

    This module provides:
    - `ck_unix_pid_get_env_hash`, `ck_unix_pid_get_env`: the two readers,
    - `SameFace`: they agree on a name,
    - `same_face_iff`: the blocks and names for which they do.
-/

namespace Leader

open Libc CkManager

/-! ## Section 1: The two readers -/

/-- The string that begins at a byte of the block, behind which
    `g_file_get_contents` puts a NUL. -/
def string_at (contents : CString) (i : Nat) : CString :=
  (contents.drop i).takeWhile (· ≠ '\x00')

/-- `g_hash_table_insert` of `vals[0]` and `vals[1]`, which may be NULL. -/
def insert_vals (hash : HashTable CString (Option CString)) :
    List CString → HashTable CString (Option CString)
  | [] => hash
  | key :: vals => hash.insert key vals.head?

/-- A round of the loop of `ck_unix_pid_get_env_hash`, with `last_was_null`. -/
def env_hash_round (contents : CString) (st : HashTable CString (Option CString) × Bool)
    (i : Nat) : HashTable CString (Option CString) × Bool :=
  if contents[i]? = some '\x00' then (st.1, true)
  else if st.2 then (insert_vals st.1 (g_strsplit_two (cstr "=") (string_at contents i)), false)
  else (st.1, false)

/-- `environ` has the files that can be read; `none` is NULL. -/
def ck_unix_pid_get_env_hash (environ : Int → Option CString) (pid : Int) :
    Option (HashTable CString (Option CString)) :=
  if pid > 1 then
    (environ pid).map fun contents =>
      ((List.range contents.length).foldl (env_hash_round contents) (∅, true)).1
  else none

/-- NULL for a table that is NULL, for a missing key and for a value of NULL. -/
def g_hash_table_lookup (hash : Option (HashTable CString (Option CString))) (key : CString) :
    Option CString :=
  hash.bind fun t => (t.lookup key).join

/-- The loop of `ck_unix_pid_get_env`, from a value of its `guint` on.  The
    result is `none` if it does not end in this many rounds. -/
def get_env_loop (contents var : CString) : Nat → Nat → Bool → Option (Option CString)
  | 0, _, _ => none
  | rounds + 1, i, last_was_null =>
    if i < contents.length then
      if contents[i]? = some '\x00' then get_env_loop contents var rounds ((i + 1) % 2 ^ 32) true
      else if last_was_null && (var ++ cstr "=").isPrefixOf (string_at contents i) then
        some (some (string_at contents (i + (var ++ cstr "=").length)))
      else get_env_loop contents var rounds ((i + 1) % 2 ^ 32) false
    else some none

def ck_unix_pid_get_env (environ : Int → Option CString) (pid : Int) (var : CString)
    (rounds : Nat) : Option (Option CString) :=
  if pid > 1 then
    (environ pid).elim (some none) fun contents => get_env_loop contents var rounds 0 true
  else some none

/-! ## Section 2: The law -/

/-- `ck_unix_pid_get_env` returns, and it returns what the table has. -/
def SameFace (environ : Int → Option CString) (pid : Int) (var : CString) : Prop :=
  ∃ rounds, ck_unix_pid_get_env environ pid var rounds =
    some (g_hash_table_lookup (ck_unix_pid_get_env_hash environ pid) var)

/-- An entry begins here. -/
def begins (contents : CString) (i : Nat) : Bool :=
  contents[i]? ≠ some '\x00' && (i = 0 || contents[i - 1]? = some '\x00')

def starts (contents : CString) : List Nat := (List.range contents.length).filter (begins contents)

def entries (contents : CString) : List CString := (starts contents).map (string_at contents)

/-- The entry gives the name a value. -/
def assigns (var entry : CString) : Bool := (var ++ cstr "=").isPrefixOf entry

/-- The entry gives the name a value, or it is the name alone. -/
def mentions (var entry : CString) : Bool := entry = var || assigns var entry

/-- The first entry that assigns the name is its last one, and the name has no
    `=`.  In a block that a `guint` does not count it begins early. -/
structure Unambiguous (contents var : CString) : Prop where
  counted : contents.length < 2 ^ 32 ∨
    ∃ i ∈ starts contents, i < 2 ^ 32 ∧ assigns var (string_at contents i) = true
  last : ∀ e, (entries contents).find? (assigns var) = some e →
    '=' ∉ var ∧ ((entries contents).filter (mentions var)).getLast? = some e

/-! ## Section 3: What the table has -/

/-- `last_was_null` at the beginning of a round. -/
def after_null (contents : CString) (i : Nat) : Bool := i = 0 || contents[i - 1]? = some '\x00'

theorem begins_eq (contents : CString) (i : Nat) :
    begins contents i = (decide (contents[i]? ≠ some '\x00') && after_null contents i) := rfl

theorem after_null_succ (contents : CString) (i : Nat) :
    after_null contents (i + 1) = decide (contents[i]? = some '\x00') := by
  simp [after_null]

/-- The table after some rounds. -/
theorem env_hash_rounds (contents : CString) (n : Nat) :
    (List.range n).foldl (env_hash_round contents) (∅, true) =
      (((List.range n).filter (begins contents)).foldl (fun hash i =>
        insert_vals hash (g_strsplit_two (cstr "=") (string_at contents i))) ∅,
        after_null contents n) := by
  induction n with
  | zero => rfl
  | succ n ih =>
    rw [List.range_succ, List.foldl_append, ih, List.foldl_cons, List.foldl_nil,
      List.filter_append, List.foldl_append, after_null_succ, env_hash_round]
    by_cases hnull : contents[n]? = some '\x00'
    · simp [begins, hnull]
    · cases hafter : after_null contents n with
      | true => simp [begins_eq, hnull, hafter]
      | false => simp [begins_eq, hnull, hafter]

theorem string_at_ne_nil {contents : CString} {i : Nat} (h : i ∈ starts contents) :
    string_at contents i ≠ [] := by
  obtain ⟨hlt, hbegins⟩ := List.mem_filter.mp h
  rw [List.mem_range] at hlt
  have hnull : contents[i] ≠ '\x00' := by
    rw [begins, Bool.and_eq_true, decide_eq_true_iff, List.getElem?_eq_getElem hlt] at hbegins
    exact fun heq => hbegins.1 (congrArg some heq)
  rw [string_at, List.drop_eq_getElem_cons hlt, List.takeWhile_cons_of_pos (by simpa using hnull)]
  exact List.cons_ne_nil _ _

/-- The key and the value of an entry. -/
def entry_key (e : CString) : CString := e.takeWhile (· ≠ '=')

def entry_value (e : CString) : Option CString :=
  if '=' ∈ e then some ((e.dropWhile (· ≠ '=')).drop 1) else none

theorem entry_split {before : CString} (after : CString) (h : '=' ∉ before) :
    entry_key (before ++ '=' :: after) = before ∧
      entry_value (before ++ '=' :: after) = some after := by
  have hbefore : ∀ c ∈ before, decide (c ≠ '=') = true := by
    intro c hc
    exact decide_eq_true fun heq => h (heq ▸ hc)
  constructor
  · rw [entry_key, List.takeWhile_append_of_pos hbefore]
    simp
  · rw [entry_value, if_pos (by simp), List.dropWhile_append_of_pos hbefore]
    simp

theorem entry_bare {e : CString} (h : '=' ∉ e) : entry_key e = e ∧ entry_value e = none := by
  constructor
  · rw [entry_key, List.takeWhile_eq_self_iff]
    exact fun c hc => decide_eq_true fun heq => h (heq ▸ hc)
  · exact if_neg h

theorem insert_entry {e : CString} (he : e ≠ []) (hash : HashTable CString (Option CString)) :
    insert_vals hash (g_strsplit_two (cstr "=") e) = hash.insert (entry_key e) (entry_value e) := by
  have hskip : ∀ {before : CString}, '=' ∉ before → ∀ rest,
      g_strstr_len (cstr "=") (before ++ rest) = g_strstr_len (cstr "=") rest := by
    intro before h rest
    have hbefore : ∀ d ∈ before, d ≠ '=' := fun d hd heq => h (heq ▸ hd)
    exact g_strstr_len_skip [] rfl hbefore rest
  rw [g_strsplit_two, if_neg he]
  by_cases hmem : '=' ∈ e
  · obtain ⟨before, after, rfl, hbefore⟩ := List.eq_append_cons_of_mem hmem
    -- The entry is split at its first `=`.
    have hfind : g_strstr_len (cstr "=") (before ++ '=' :: after) = some ('=' :: after) := by
      rw [hskip hbefore]
      simp [cstr, g_strstr_len]
    obtain ⟨hkey, hvalue⟩ := entry_split after hbefore
    rw [hfind, hkey, hvalue]
    simp [insert_vals, cstr]
  · have hfind : g_strstr_len (cstr "=") e = none := by
      rw [← List.append_nil e, hskip hmem]
      rfl
    obtain ⟨hkey, hvalue⟩ := entry_bare hmem
    rw [hfind, hkey, hvalue]
    rfl

/-- The table has the last entry of every key. -/
theorem env_hash_lookup (contents var : CString) :
    ((List.range contents.length).foldl (env_hash_round contents) (∅, true)).1.lookup var =
      (((entries contents).filter fun e => entry_key e = var).getLast?).map entry_value := by
  have hinsert : (starts contents).foldl (fun hash i =>
      insert_vals hash (g_strsplit_two (cstr "=") (string_at contents i))) ∅ =
      (entries contents).foldl (fun hash e => hash.insert (entry_key e) (entry_value e)) ∅ := by
    rw [entries, List.foldl_map]
    exact List.foldl_ext _ _ _ fun hash i hi => insert_entry (string_at_ne_nil hi) hash
  have htable : ((List.range contents.length).foldl (env_hash_round contents) (∅, true)).1 =
      (entries contents).foldl (fun hash e => hash.insert (entry_key e) (entry_value e)) ∅ := by
    rw [env_hash_rounds]
    exact hinsert
  rw [htable, HashTable.lookup_foldl_insert entry_key (fun _ e => entry_value e)]
  rcases List.eq_nil_or_concat ((entries contents).filter fun e => entry_key e = var) with
    hnil | ⟨es, e, hlast⟩
  · rw [hnil]
    rfl
  · rw [hlast]
    simp

theorem assigns_iff {var e : CString} :
    assigns var e = true ↔ ∃ value, e = var ++ '=' :: value := by
  rw [assigns, List.isPrefixOf_iff_prefix]
  constructor
  · rintro ⟨value, rfl⟩
    exact ⟨value, by simp [cstr]⟩
  · rintro ⟨value, rfl⟩
    exact ⟨value, by simp [cstr]⟩

/-- The entries of a name without `=` are those that mention it. -/
theorem entry_key_eq_iff {var : CString} (hvar : '=' ∉ var) (e : CString) :
    entry_key e = var ↔ mentions var e = true := by
  rw [mentions, Bool.or_eq_true, decide_eq_true_iff, assigns_iff]
  by_cases hmem : '=' ∈ e
  · obtain ⟨before, after, rfl, hbefore⟩ := List.eq_append_cons_of_mem hmem
    rw [(entry_split after hbefore).1]
    constructor
    · rintro rfl
      exact .inr ⟨after, rfl⟩
    · -- Two entries that are equal are split at the same place.
      rintro (rfl | ⟨value, heq⟩)
      · exact absurd hmem hvar
      · have hkey := congrArg entry_key heq
        rwa [(entry_split after hbefore).1, (entry_split value hvar).1] at hkey
  · rw [(entry_bare hmem).1]
    constructor
    · exact .inl
    · rintro (heq | ⟨value, rfl⟩)
      · exact heq
      · exact absurd (by simp) hmem

theorem eq_not_mem_entry_key (e : CString) : '=' ∉ entry_key e := by
  intro h
  simpa using List.mem_takeWhile_imp h

/-- What the table has for a name without `=`. -/
theorem env_hash_lookup_name {contents var : CString} (hvar : '=' ∉ var) :
    ((List.range contents.length).foldl (env_hash_round contents) (∅, true)).1.lookup var =
      (((entries contents).filter (mentions var)).getLast?).map entry_value := by
  rw [env_hash_lookup]
  congr 3
  funext e
  exact Bool.eq_iff_iff.mpr (by rw [decide_eq_true_iff, entry_key_eq_iff hvar])

/-- No key has `=`. -/
theorem env_hash_lookup_eq {contents var : CString} (hvar : '=' ∈ var) :
    ((List.range contents.length).foldl (env_hash_round contents) (∅, true)).1.lookup var =
      none := by
  have hnone : ((entries contents).filter fun e => entry_key e = var) = [] := by
    apply List.filter_eq_nil_iff.mpr
    intro e _ hkey
    exact eq_not_mem_entry_key e (of_decide_eq_true hkey ▸ hvar)
  rw [env_hash_lookup, hnone]
  rfl

/-- The value that the table has for a name. -/
def table_value (contents var : CString) : Option CString :=
  (((List.range contents.length).foldl (env_hash_round contents) (∅, true)).1.lookup var).join

theorem table_value_absent {contents var : CString}
    (h : (entries contents).find? (assigns var) = none) : table_value contents var = none := by
  rw [table_value]
  by_cases hvar : '=' ∈ var
  · rw [env_hash_lookup_eq hvar]
    rfl
  · rw [env_hash_lookup_name hvar]
    cases hlast : ((entries contents).filter (mentions var)).getLast? with
    | none => rfl
    | some e =>
      obtain ⟨hmem, hmentions⟩ := List.mem_filter.mp (List.mem_of_getLast? hlast)
      have hassigns := List.find?_eq_none.mp h e hmem
      rw [mentions, Bool.or_eq_true, decide_eq_true_iff] at hmentions
      rw [hmentions.resolve_right hassigns, Option.map_some, (entry_bare hvar).2]
      rfl

theorem table_value_iff {contents var value : CString} :
    table_value contents var = some value ↔
      '=' ∉ var ∧
        ((entries contents).filter (mentions var)).getLast? = some (var ++ '=' :: value) := by
  rw [table_value]
  constructor
  · intro h
    have hvar : '=' ∉ var := by
      intro hvar
      rw [env_hash_lookup_eq hvar] at h
      cases h
    refine ⟨hvar, ?_⟩
    rw [env_hash_lookup_name hvar] at h
    cases hlast : ((entries contents).filter (mentions var)).getLast? with
    | none =>
      rw [hlast] at h
      cases h
    | some e =>
      have hvalue : entry_value e = some value := by
        rw [hlast] at h
        exact h
      have hmentions := (List.mem_filter.mp (List.mem_of_getLast? hlast)).2
      rw [mentions, Bool.or_eq_true, decide_eq_true_iff, assigns_iff] at hmentions
      -- An entry that is the bare name has no value.
      rcases hmentions with rfl | ⟨value', rfl⟩
      · rw [(entry_bare hvar).2] at hvalue
        cases hvalue
      · rw [(entry_split value' hvar).2] at hvalue
        rw [Option.some.inj hvalue]
  · rintro ⟨hvar, hlast⟩
    rw [env_hash_lookup_name hvar, hlast, Option.map_some, (entry_split value hvar).2]
    rfl

/-! ## Section 4: What the loop returns -/

/-- An entry that assigns the name begins here. -/
def hit (contents var : CString) (i : Nat) : Bool :=
  begins contents i && assigns var (string_at contents i)

theorem takeWhile_drop_of_append {α : Type} {p : α → Bool} {l pre rest : List α}
    (h : l.takeWhile p = pre ++ rest) : (l.drop pre.length).takeWhile p = rest := by
  induction pre generalizing l with
  | nil => exact h
  | cons c pre ih =>
    cases l with
    | nil => cases h
    | cons d l =>
      by_cases hd : p d = true
      · rw [List.takeWhile_cons_of_pos hd, List.cons_append] at h
        exact ih (List.cons.inj h).2
      · rw [List.takeWhile_cons_of_neg hd] at h
        cases h

section loop
variable {contents var : CString}

theorem get_env_loop_null {i : Nat} (hi : i < contents.length)
    (hnull : contents[i]? = some '\x00') (rounds : Nat) (b : Bool) :
    get_env_loop contents var (rounds + 1) i b =
      get_env_loop contents var rounds ((i + 1) % 2 ^ 32) true := by
  rw [get_env_loop, if_pos hi, if_pos hnull]

theorem get_env_loop_miss {i : Nat} (hi : i < contents.length)
    (hnull : contents[i]? ≠ some '\x00') {b : Bool}
    (hmiss : (b && assigns var (string_at contents i)) = false) (rounds : Nat) :
    get_env_loop contents var (rounds + 1) i b =
      get_env_loop contents var rounds ((i + 1) % 2 ^ 32) false := by
  have hfind : ¬ ((b && (var ++ cstr "=").isPrefixOf (string_at contents i)) = true) :=
    Bool.eq_false_iff.mp hmiss
  rw [get_env_loop, if_pos hi, if_neg hnull, if_neg hfind]

/-- A round that finds nothing. -/
theorem get_env_loop_round {i : Nat} (hi : i < contents.length)
    (hmiss : hit contents var i = false) (rounds : Nat) :
    get_env_loop contents var (rounds + 1) i (after_null contents i) =
      get_env_loop contents var rounds ((i + 1) % 2 ^ 32) (after_null contents (i + 1)) := by
  rw [after_null_succ]
  by_cases hnull : contents[i]? = some '\x00'
  · rw [get_env_loop_null hi hnull, decide_eq_true hnull]
  · rw [hit, begins_eq, decide_eq_true hnull, Bool.true_and] at hmiss
    rw [get_env_loop_miss hi hnull hmiss, decide_eq_false hnull]

/-- Rounds that find nothing, up to the last value of the counter. -/
theorem get_env_loop_skip {i d : Nat} (hlen : i + d ≤ contents.length) (h32 : i + d < 2 ^ 32)
    (hmiss : ∀ j, i ≤ j → j < i + d → hit contents var j = false) (rounds : Nat) :
    get_env_loop contents var (d + rounds) i (after_null contents i) =
      get_env_loop contents var rounds (i + d) (after_null contents (i + d)) := by
  induction d generalizing i with
  | zero => rw [Nat.zero_add, Nat.add_zero]
  | succ d ih =>
    have hnext : (i + 1) % 2 ^ 32 = i + 1 := Nat.mod_eq_of_lt (by omega)
    have hsum : i + 1 + d = i + (d + 1) := by omega
    rw [Nat.succ_add, get_env_loop_round (by omega) (hmiss i (Nat.le_refl i) (by omega)), hnext,
      ih (by omega) (by omega) (fun j hj hj' => hmiss j (by omega) (by omega)), hsum]

/-- The first entry that assigns the name, if the counter reaches it. -/
theorem get_env_loop_first {p : Nat} {value : CString} (hp : p < contents.length)
    (h32 : p < 2 ^ 32) (hbegins : begins contents p = true)
    (hassigns : string_at contents p = var ++ '=' :: value)
    (hfirst : ∀ j < p, hit contents var j = false) :
    get_env_loop contents var (p + 1) 0 true = some (some value) := by
  have hskip := @get_env_loop_skip contents var 0 p (by omega) (by omega)
    (fun j _ hj => hfirst j (by omega)) 1
  rw [Nat.zero_add] at hskip
  rw [begins_eq, Bool.and_eq_true, decide_eq_true_iff] at hbegins
  have hassigns' : (var ++ cstr "=").isPrefixOf (string_at contents p) = true :=
    assigns_iff.mpr ⟨value, hassigns⟩
  have hvalue : string_at contents (p + (var ++ cstr "=").length) = value := by
    rw [string_at, ← List.drop_drop]
    apply takeWhile_drop_of_append
    rw [← string_at, hassigns]
    simp [cstr]
  refine hskip.trans ?_
  rw [get_env_loop, if_pos hp, if_neg hbegins.1, hbegins.2, Bool.true_and, if_pos hassigns',
    hvalue]

theorem get_env_loop_absent (hlen : contents.length < 2 ^ 32)
    (hmiss : ∀ j < contents.length, hit contents var j = false) :
    get_env_loop contents var (contents.length + 1) 0 true = some none := by
  have hskip := @get_env_loop_skip contents var 0 contents.length (by omega) (by omega)
    (fun j _ hj => hmiss j (by omega)) 1
  rw [Nat.zero_add] at hskip
  refine hskip.trans ?_
  rw [get_env_loop, if_neg (Nat.lt_irrefl _)]

/-- In a longer block the counter starts again and finds nothing again. -/
theorem get_env_loop_endless (hlen : 2 ^ 32 ≤ contents.length)
    (hmiss : ∀ j < 2 ^ 32, hit contents var j = false) (rounds : Nat) {i : Nat} (hi : i < 2 ^ 32)
    {b : Bool} (hb : b = true → after_null contents i = true) :
    get_env_loop contents var rounds i b = none := by
  induction rounds generalizing i b with
  | zero => rfl
  | succ rounds ih =>
    -- The counter stays below the length, so the loop does not end by itself.
    have hnext : (i + 1) % 2 ^ 32 < 2 ^ 32 := Nat.mod_lt _ (by decide)
    by_cases hnull : contents[i]? = some '\x00'
    · rw [get_env_loop_null (by omega) hnull]
      refine ih hnext fun _ => ?_
      -- The block begins as if behind a NUL, so the flag is right after the wrap,
      -- too.
      rcases Nat.lt_or_ge (i + 1) (2 ^ 32) with hlt | hge
      · rw [Nat.mod_eq_of_lt hlt, after_null_succ]
        exact decide_eq_true hnull
      · have hzero : (i + 1) % 2 ^ 32 = 0 := by omega
        rw [hzero]
        rfl
    · rw [get_env_loop_miss (by omega) hnull]
      · exact ih hnext nofun
      · have hno := hmiss i hi
        rw [hit, begins_eq, decide_eq_true hnull, Bool.true_and] at hno
        cases b with
        | false => rfl
        | true => rwa [hb rfl] at hno

/-- The loop returns one value only. -/
theorem get_env_loop_unique {rounds rounds' i : Nat} {b : Bool} {r r' : Option CString}
    (h : get_env_loop contents var rounds i b = some r)
    (h' : get_env_loop contents var rounds' i b = some r') : r = r' := by
  induction rounds generalizing rounds' i b with
  | zero => cases h
  | succ rounds ih =>
    cases rounds' with
    | zero => cases h'
    | succ rounds' =>
      rw [get_env_loop] at h h'
      split at h
      · rename_i hi
        rw [if_pos hi] at h'
        split at h
        · rename_i hnull
          rw [if_pos hnull] at h'
          exact ih h h'
        · rename_i hnull
          rw [if_neg hnull] at h'
          split at h
          · rename_i hfind
            rw [if_pos hfind] at h'
            rw [← Option.some.inj h, Option.some.inj h']
          · rename_i hfind
            rw [if_neg hfind] at h'
            exact ih h h'
      · rename_i hi
        rw [if_neg hi] at h'
        rw [← Option.some.inj h, Option.some.inj h']

/-- No entry assigns the name. -/
theorem find_assigns_none :
    (entries contents).find? (assigns var) = none ↔
      ∀ j < contents.length, hit contents var j = false := by
  rw [entries, starts, List.find?_map, List.find?_filter, Option.map_eq_none_iff,
    List.find?_eq_none]
  simp [hit]

/-- The first entry that assigns the name. -/
theorem find_assigns_some {e : CString} (h : (entries contents).find? (assigns var) = some e) :
    ∃ p < contents.length, begins contents p = true ∧ string_at contents p = e ∧
      ∀ j < p, hit contents var j = false := by
  rw [entries, starts, List.find?_map, List.find?_filter, Option.map_eq_some_iff] at h
  obtain ⟨p, hp, rfl⟩ := h
  rw [List.find?_range_eq_some, List.mem_range, decide_eq_true_iff] at hp
  obtain ⟨⟨hbegins, _⟩, hlt, hfirst⟩ := hp
  refine ⟨p, hlt, hbegins, rfl, fun j hj => ?_⟩
  simpa [hit, ← Bool.not_eq_true, imp_iff_not_or] using hfirst j hj

theorem mem_starts_iff {i : Nat} :
    i ∈ starts contents ∧ assigns var (string_at contents i) = true ↔
      i < contents.length ∧ hit contents var i = true := by
  rw [starts, List.mem_filter, List.mem_range, hit, Bool.and_eq_true]
  exact and_assoc

/-! ## Section 5: Agreement -/

/-- If the counter ends or an entry that assigns the name begins in its range,
    the loop returns the value of the first such entry. -/
theorem get_env_loop_returns
    (hcounted : contents.length < 2 ^ 32 ∨
      ∃ i ∈ starts contents, i < 2 ^ 32 ∧ assigns var (string_at contents i) = true) :
    (∃ rounds, get_env_loop contents var rounds 0 true = some none ∧
        (entries contents).find? (assigns var) = none) ∨
      ∃ rounds value, get_env_loop contents var rounds 0 true = some (some value) ∧
        (entries contents).find? (assigns var) = some (var ++ '=' :: value) := by
  cases hfind : (entries contents).find? (assigns var) with
  | none =>
    have hmiss := find_assigns_none.mp hfind
    refine .inl ⟨_, get_env_loop_absent ?_ hmiss, rfl⟩
    rcases hcounted with hlen | ⟨i, hi, _, hassigns⟩
    · exact hlen
    · -- The entry in the range would have been found.
      obtain ⟨hlt, hhit⟩ := mem_starts_iff.mp ⟨hi, hassigns⟩
      rw [hmiss i hlt] at hhit
      cases hhit
  | some e =>
    obtain ⟨value, rfl⟩ := assigns_iff.mp (List.find?_some hfind)
    obtain ⟨p, hlt, hbegins, hentry, hfirst⟩ := find_assigns_some hfind
    -- The first entry is not behind one in the range.
    have h32 : p < 2 ^ 32 := by
      rcases hcounted with hlen | ⟨i, hi, hi32, hassigns⟩
      · omega
      · obtain ⟨_, hhit⟩ := mem_starts_iff.mp ⟨hi, hassigns⟩
        by_contra hge
        rw [hfirst i (by omega)] at hhit
        cases hhit
    exact .inr ⟨_, value, get_env_loop_first hlt h32 hbegins hentry hfirst, rfl⟩

/-- The loop only returns if its counter does. -/
theorem counted_of_returns {rounds : Nat} {r : Option CString}
    (h : get_env_loop contents var rounds 0 true = some r) :
    contents.length < 2 ^ 32 ∨
      ∃ i ∈ starts contents, i < 2 ^ 32 ∧ assigns var (string_at contents i) = true := by
  by_contra hcounted
  rw [not_or, Nat.not_lt] at hcounted
  obtain ⟨hlen, hnone⟩ := hcounted
  have hmiss : ∀ j < 2 ^ 32, hit contents var j = false := by
    intro j hj
    by_contra hhit
    rw [Bool.not_eq_false] at hhit
    obtain ⟨hmem, hassigns⟩ := mem_starts_iff.mpr ⟨by omega, hhit⟩
    exact hnone ⟨j, hmem, hj, hassigns⟩
  rw [get_env_loop_endless hlen hmiss rounds (by decide) (fun _ => rfl)] at h
  cases h

theorem unambiguous_iff :
    (∃ rounds, get_env_loop contents var rounds 0 true = some (table_value contents var)) ↔
      Unambiguous contents var := by
  constructor
  · rintro ⟨rounds, hreturns⟩
    have hcounted := counted_of_returns hreturns
    refine ⟨hcounted, fun e he => ?_⟩
    rcases get_env_loop_returns hcounted with ⟨_, _, hnone⟩ | ⟨rounds', value, hvalue, hfirst⟩
    · rw [hnone] at he
      cases he
    · rw [hfirst] at he
      rw [← Option.some.inj he, ← table_value_iff]
      exact get_env_loop_unique hreturns hvalue
  · intro h
    rcases get_env_loop_returns h.counted with ⟨rounds, hvalue, hnone⟩ |
      ⟨rounds, value, hvalue, hfirst⟩
    · exact ⟨rounds, by rw [table_value_absent hnone, hvalue]⟩
    · exact ⟨rounds, by rw [table_value_iff.mpr (h.last _ hfirst), hvalue]⟩

end loop

/-- The two readers agree on a name exactly if the environment can be read and
    is unambiguous about it, or cannot be read. -/
theorem same_face_iff (environ : Int → Option CString) (pid : Int) (var : CString) :
    SameFace environ pid var ↔
      ∀ contents, pid > 1 → environ pid = some contents → Unambiguous contents var := by
  unfold SameFace ck_unix_pid_get_env ck_unix_pid_get_env_hash
  by_cases hpid : pid > 1
  · simp only [if_pos hpid]
    cases hread : environ pid with
    | none =>
      constructor
      · intro _ contents _ h
        cases h
      · exact fun _ => ⟨0, rfl⟩
    | some contents =>
      refine Iff.trans unambiguous_iff ?_
      constructor
      · rintro h contents' _ hcontents
        rwa [← Option.some.inj hcontents]
      · exact fun h => h contents hpid rfl
  · simp only [if_neg hpid]
    constructor
    · exact fun _ contents h => absurd h hpid
    · exact fun _ => ⟨0, rfl⟩

example : ck_unix_pid_get_env (fun _ => some (cstr "A=1\x00B=2")) 7 (cstr "B") 9 =
    some (some (cstr "2")) := by decide

/-- A variable that is there twice has two values. -/
theorem two_faces : ¬ SameFace (fun _ => some (cstr "DISPLAY=:0\x00DISPLAY=:1\x00")) 7
    (cstr "DISPLAY") := by
  rintro ⟨rounds, h⟩
  have hlookup : g_hash_table_lookup (ck_unix_pid_get_env_hash
      (fun _ => some (cstr "DISPLAY=:0\x00DISPLAY=:1\x00")) 7) (cstr "DISPLAY") =
      some (cstr ":1") := by decide
  rw [hlookup] at h
  cases rounds with
  | zero => cases h
  | succ rounds =>
    -- the first round finds the first entry
    have hfirst : ck_unix_pid_get_env (fun _ => some (cstr "DISPLAY=:0\x00DISPLAY=:1\x00")) 7
        (cstr "DISPLAY") (rounds + 1) = some (some (cstr ":0")) := rfl
    rw [hfirst] at h
    exact absurd (Option.some.inj (Option.some.inj h)) (by decide)

end Leader
