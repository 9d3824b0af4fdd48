import ConsoleKit.Leader.Lines
import Mathlib.Data.List.Induction

/-! # Overrides and the collector

    What a client asks for is laid over what the collector says.  A line of
    the collector is skipped if its key is in the table of overrides.  The
    legacy name `user` is converted on the way into the table, but not when
    a line is looked up.

    This module provides:
    - `client_value`: what the client says last about a property,
    - `merged_filter`: what the merged list has for a property,
    - `client_wins_iff`: when the client's values are the only ones.
-/

namespace Leader

open Libc CkManager

/-! ## Section 1: What the client says -/

/-- The property that a name stands for: `user` is the legacy name of `unix-user`. -/
def canonical (prop_name : CString) : CString :=
  if prop_name = cstr "user" then cstr "unix-user" else prop_name

/-- The entry names this property. -/
def about (prop_name : CString) (e : CString × GVariant) : Bool := canonical e.1 = prop_name

/-- The last value that the client has for a property. -/
def client_value (client : Parameters) (prop_name : CString) : Option GVariant :=
  (client.reverse.find? fun e =>
    (lookup_parameter_type e.1).isSome && about prop_name e).map Prod.snd

theorem lookup_parameter_type_restricted {prop_name : CString}
    (h : prop_name = cstr "id" ∨ prop_name = cstr "cookie") :
    lookup_parameter_type prop_name = none := by
  rcases h with rfl | rfl <;> decide

theorem name_not_restricted (p : Parameter) : name p ≠ cstr "id" ∧ name p ≠ cstr "cookie" := by
  cases p <;> decide

theorem save_parameter_lookup (overrides : Overrides) (e : CString × GVariant)
    (prop_name : CString) :
    (save_parameter overrides e).lookup prop_name =
      if ((lookup_parameter_type e.1).isSome && about prop_name e) = true then some e.2
      else overrides.lookup prop_name := by
  unfold save_parameter
  split
  · rename_i hrestricted
    simp [lookup_parameter_type_restricted hrestricted]
  · cases hlookup : lookup_parameter_type e.1 with
    | none => simp
    | some p =>
      show (overrides.insert (canonical e.1) e.2).lookup prop_name = _
      simp only [Option.isSome_some, Bool.true_and, about, decide_eq_true_eq]
      by_cases hname : canonical e.1 = prop_name
      · rw [if_pos hname, hname, AList.lookup_insert]
      · rw [if_neg hname, AList.lookup_insert_ne (Ne.symm hname)]

/-- The table holds the last values. -/
theorem save_parameters_lookup (client : Parameters) (prop_name : CString) :
    (save_parameters client).lookup prop_name = client_value client prop_name := by
  induction client using List.reverseRecOn with
  | nil => rfl
  | append_singleton client e ih =>
    have hstep : save_parameters (client ++ [e]) = save_parameter (save_parameters client) e := by
      simp [save_parameters]
    rw [hstep, save_parameter_lookup, ih]
    unfold client_value
    rw [List.reverse_append, List.reverse_singleton, List.singleton_append, List.find?_cons]
    split
    · rename_i hlast
      rw [hlast]
      rfl
    · rename_i hother
      rw [Bool.not_eq_true] at hother
      rw [hother]

theorem canonical_canonical (prop_name : CString) :
    canonical (canonical prop_name) = canonical prop_name := by
  unfold canonical
  by_cases huser : prop_name = cstr "user"
  · rw [if_pos huser]
    decide
  · rw [if_neg huser, if_neg huser]

theorem canonical_name {p : Parameter} (h : p ≠ .user) : canonical (name p) = name p := by
  apply if_neg
  intro huser
  exact h (name_inj (q := .user) huser)

/-- Values are held for known properties only, under their own name. -/
theorem client_value_some {client : Parameters} {prop_name : CString} {v : GVariant}
    (h : client_value client prop_name = some v) :
    (∃ p, prop_name = name p) ∧ canonical prop_name = prop_name := by
  obtain ⟨e, hfind, -⟩ := Option.map_eq_some_iff.mp h
  have he := List.find?_some hfind
  simp only [about, Bool.and_eq_true, decide_eq_true_eq] at he
  obtain ⟨hknown, hname⟩ := he
  obtain ⟨p, hp⟩ := Option.isSome_iff_exists.mp hknown
  constructor
  · rw [lookup_parameter_type_iff.mp hp] at hname
    by_cases huser : p = .user
    · exact ⟨.unix_user, by rw [← hname, huser]; decide⟩
    · exact ⟨p, by rw [← hname, canonical_name huser]⟩
  · rw [← hname, canonical_canonical]

/-! ## Section 2: The lines that are skipped -/

/-- The client has a value under the very name in the line. -/
def skipped (client : Parameters) (line : CString) : Bool :=
  (key line).any fun p => (client_value client (name p)).isSome

/-- The lines that are looked at. -/
def live (client : Parameters) (output : CString) : List CString :=
  (g_strsplit_lines output).filter fun line => !skipped client line

theorem parse_line_skipped (client : Parameters) (errno : Nat) (line : CString) :
    parse_line (save_parameters client) errno line =
      if skipped client line = true then some ([], errno) else parse_line ∅ errno line := by
  rw [parse_line_eq, parse_line_eq]
  cases hkey : key line with
  | none => simp [skipped, hkey]
  | some p =>
    have hempty : have_override_parameter ∅ (name p) = false := rfl
    have hover : have_override_parameter (save_parameters client) (name p) =
        skipped client line := by
      simp [have_override_parameter, save_parameters_lookup, skipped, hkey]
    simp only [hempty, hover, Bool.false_eq_true, if_false]

/-- A skipped line leaves no trace, not even in the error number. -/
theorem parse_lines_skipped (client : Parameters) (errno : Nat) (lines : List CString) :
    parse_lines (save_parameters client) errno lines =
      parse_lines ∅ errno (lines.filter fun line => !skipped client line) := by
  induction lines generalizing errno with
  | nil => rfl
  | cons line lines ih =>
    rw [parse_lines, parse_line_skipped]
    by_cases hskip : skipped client line = true
    · rw [if_pos hskip, List.filter_cons_of_neg (by simp [hskip]), Option.bind_some, ih]
      cases parse_lines ∅ errno (lines.filter fun line => !skipped client line) <;> rfl
    · rw [if_neg hskip, List.filter_cons_of_pos (by simpa using hskip), parse_lines]
      simp only [ih]

/-! ## Section 3: What is said about a property -/

/-- A line speaks about the property of its key only. -/
theorem alone_name {line : CString} {e : CString × GVariant} (h : e ∈ alone line) :
    ∃ p, key line = some p ∧ e.1 = name p := by
  rw [alone_eq] at h
  cases hkey : key line with
  | none => simp [hkey] at h
  | some p =>
    refine ⟨p, rfl, ?_⟩
    rw [hkey] at h
    cases hval : val line with
    | none => cases htype : gtype p <;> simp_all [parse_value, parse_number]
    | some text =>
      cases htype : gtype p <;> simp [hval, htype, parse_value, parse_number] at h
      · rw [h]
      · rw [h]
      · obtain ⟨n, -, rfl⟩ := h
        rfl
      · obtain ⟨n, -, rfl⟩ := h
        rfl

theorem contribution_subset {stale : Bool} {line : CString} {e : CString × GVariant}
    (h : e ∈ contribution stale line) :
    e ∈ alone line ∧ ¬(stale = true ∧ reads_zero line = true) := by
  unfold contribution at h
  split at h
  · cases h
  · rename_i hkept
    exact ⟨h, by simpa using hkept⟩

/-- Where an entry comes from. -/
theorem mem_contributions {stale : Bool} {lines : List CString} {e : CString × GVariant} :
    e ∈ (contributions stale lines).flatten ↔
      ∃ pre line post, lines = pre ++ line :: post ∧
        e ∈ contribution (stale || pre.any overflows) line := by
  induction lines generalizing stale with
  | nil => simp [contributions]
  | cons line lines ih =>
    rw [contributions, List.flatten_cons, List.mem_append, ih]
    constructor
    · rintro (hhead | ⟨pre, l, post, rfl, hmem⟩)
      · exact ⟨[], line, lines, rfl, by simpa using hhead⟩
      · exact ⟨line :: pre, l, post, rfl, by simpa [← Bool.or_assoc] using hmem⟩
    · rintro ⟨pre, l, post, hsplit, hmem⟩
      cases pre with
      | nil =>
        obtain ⟨rfl, -⟩ := List.cons.inj hsplit
        exact .inl (by simpa using hmem)
      | cons b pre =>
        obtain ⟨rfl, hrest⟩ := List.cons.inj hsplit
        exact .inr ⟨pre, l, post, hrest, by simpa [← Bool.or_assoc] using hmem⟩

/-- The overrides have at most one entry about a property. -/
theorem overlay_filter (client : Parameters) (prop_name : CString) :
    ((save_parameters client).entries.map fun e => (e.1, e.2)).filter (about prop_name) =
      (client_value client prop_name).toList.map fun v => (prop_name, v) := by
  have hown : ∀ e ∈ (save_parameters client).entries, canonical e.1 = e.1 := by
    intro e hmem
    have hlookup := HashTable.mem_entries.mp hmem
    rw [save_parameters_lookup] at hlookup
    exact (client_value_some hlookup).2
  have hfilter : (save_parameters client).entries.filter (fun e => about prop_name (e.1, e.2)) =
      (save_parameters client).entries.filter fun e => e.1 = prop_name := by
    apply List.filter_congr
    intro e hmem
    simp only [about, hown e hmem]
  -- entries are stored under the name of the property
  rw [List.filter_map]
  show ((save_parameters client).entries.filter fun e => about prop_name (e.1, e.2)).map _ = _
  rw [hfilter, HashTable.filter_entries, save_parameters_lookup, List.map_map]
  rfl

/-- The values of the client, as they are laid over the others. -/
def overlay (client : Parameters) : Parameters :=
  (save_parameters client).entries.map fun e => (e.1, e.2)

theorem parse_output_live (client : Parameters) (errno : Nat) (output : CString) :
    parse_output (save_parameters client) errno output =
      (parse_lines ∅ errno (live client output)).map fun ck_parameters =>
        ck_parameters ++ overlay client := by
  unfold parse_output
  rw [parse_lines_skipped]
  rfl

/-- The result, if every number is there. -/
theorem parse_output_some {client : Parameters} {output : CString} (errno : Nat)
    (hbare : ∀ line ∈ live client output, bare GType.number line = false) :
    parse_output (save_parameters client) errno output =
      some ((contributions (decide (errno ≠ 0)) (live client output)).flatten ++
        overlay client) := by
  rw [parse_output_live, parse_lines_eq errno _ hbare]
  rfl

/-- What the merged list has about a property. -/
theorem merged_filter {client merged : Parameters} {errno : Nat} {output : CString}
    (hbare : ∀ line ∈ live client output, bare GType.number line = false)
    (h : parse_output (save_parameters client) errno output = some merged)
    (prop_name : CString) :
    merged.filter (about prop_name) =
      (contributions (decide (errno ≠ 0)) (live client output)).flatten.filter (about prop_name) ++
        (client_value client prop_name).toList.map fun v => (prop_name, v) := by
  rw [parse_output_some errno hbare] at h
  cases h
  rw [List.filter_append, overlay, overlay_filter]

/-! ## Section 4: The legacy name -/

/-- The line speaks about the user, whom the client has set under the other name. -/
def legacy (client : Parameters) (line : CString) : Bool :=
  key line = some .user && (client_value client (cstr "unix-user")).isSome

/-- The number of the line is in the range of a user id. -/
def user_in_range (line : CString) : Bool :=
  (number_text line).any fun text => 0 ≤ (strtol_errno text).1 && (strtol_errno text).1 ≤ 2 ^ 31 - 1

/-- Of the lines that are looked at, only one with the legacy name speaks about
    a property that the client has set. -/
theorem legacy_eq {client : Parameters} {line : CString} {p : Parameter}
    (hlive : skipped client line = false) (hkey : key line = some p) :
    legacy client line = (client_value client (canonical (name p))).isSome := by
  by_cases huser : p = .user
  · subst huser
    simp only [legacy, hkey, decide_true, Bool.true_and]
    rfl
  · rw [canonical_name huser]
    simp only [skipped, hkey, Option.any_some] at hlive
    simp [legacy, hkey, huser, hlive]

/-- A number counts iff it is in range. -/
theorem untrusted_int_alone (text : CString) {max : Int} (hmin : 0 ≤ max)
    (hmax : max < 2 ^ 63 - 1) :
    (untrusted_int (if (strtol_errno text).2 then ERANGE else 0) (strtol_errno text).1 max).isSome =
      (0 ≤ (strtol_errno text).1 && (strtol_errno text).1 ≤ max) := by
  have hlast : (if (strtol_errno text).1 > max then none
      else if (strtol_errno text).1 < 0 then none else some (strtol_errno text).1.toNat).isSome =
      (0 ≤ (strtol_errno text).1 && (strtol_errno text).1 ≤ max) := by
    by_cases hlarge : (strtol_errno text).1 > max
    · have hle : ¬(strtol_errno text).1 ≤ max := by omega
      rw [if_pos hlarge, decide_eq_false hle, Bool.and_false]
      rfl
    · have hle : (strtol_errno text).1 ≤ max := by omega
      rw [if_neg hlarge, decide_eq_true hle, Bool.and_true]
      by_cases hsmall : (strtol_errno text).1 < 0
      · have hneg : ¬0 ≤ (strtol_errno text).1 := by omega
        rw [if_pos hsmall, decide_eq_false hneg]
        rfl
      · have hpos : 0 ≤ (strtol_errno text).1 := by omega
        rw [if_neg hsmall, decide_eq_true hpos]
        rfl
  unfold untrusted_int
  cases hoverflow : (strtol_errno text).2 with
  | false => simpa [ERANGE] using hlast
  | true =>
    have hlimit := strtol_errno_overflow hoverflow
    rw [if_pos rfl, if_pos (.inl ⟨rfl, hlimit⟩), ← hlast]
    rcases hlimit with hlarge | hsmall
    · rw [if_pos (by omega)]
    · rw [if_neg (by omega), if_pos (by omega)]

theorem alone_user {line : CString} (hkey : key line = some .user)
    (hbare : bare GType.number line = false) :
    alone line = [] ↔ user_in_range line = false := by
  have hnumber : (gtype .user).number = true := rfl
  simp only [bare, hkey, Option.any_some, hnumber, Bool.and_true] at hbare
  obtain ⟨text, hval⟩ := Option.isSome_iff_exists.mp (by simpa using hbare)
  have htext : number_text line = some text := by rw [number_text_some hkey, hnumber, hval]; rfl
  have hrange := untrusted_int_alone text (show (0 : Int) ≤ 2 ^ 31 - 1 by decide) (by decide)
  rw [alone_eq, hkey, hval, user_in_range, htext, Option.any_some, ← hrange]
  simp [parse_value, gtype, parse_number, Option.isNone_iff_eq_none]

/-! ## Section 5: The merged list -/

/-- What is asked of the list that a session is made of. -/
structure Merged (client : Parameters) (output : CString) (merged : Parameters) : Prop where
  /-- What the client sets is there once, with the last value. -/
  overridden : ∀ prop_name v, client_value client prop_name = some v →
    merged.filter (about prop_name) = [(prop_name, v)]
  /-- About anything else there is what the lines say, each by itself. -/
  kept : ∀ prop_name, client_value client prop_name = none →
    merged.filter (about prop_name) =
      ((g_strsplit_lines output).flatMap alone).filter (about prop_name)
  restricted : ∀ e ∈ merged, e.1 ≠ cstr "id" ∧ e.1 ≠ cstr "cookie"
  /-- The session has the id and the cookie of the manager. -/
  session : ∀ {α : Type} (string : CString → α) (transform : CString → GVariant → Option α)
    (ssid cookie : CString),
    (construction_parameters string transform ssid cookie merged).filter
      (fun e => e.1 = cstr "id" ∨ e.1 = cstr "cookie") =
      [(cstr "id", string ssid), (cstr "cookie", string cookie)]

/-- The client wins, whatever the collector says. -/
def ClientWins (errno : Nat) (output : CString) (client : Parameters) : Prop :=
  ∃ merged, parse_output (save_parameters client) errno output = some merged ∧
    Merged client output merged

/-- A line that is looked at merges well: it has its number, it is not one for
    the user under the legacy name that counts, and no 0 of it is lost. -/
structure LineMerges (client : Parameters) (stale : Bool) (line : CString) : Prop where
  not_bare : bare GType.number line = false
  user_lost : legacy client line = true → user_in_range line = true →
    stale = true ∧ reads_zero line = true
  zero_kept : legacy client line = false → reads_zero line = true → stale = false

/-- A line that is skipped says nothing about what the client has not set. -/
theorem live_filter {client : Parameters} {prop_name : CString}
    (hnone : client_value client prop_name = none) (output : CString) :
    ((g_strsplit_lines output).flatMap alone).filter (about prop_name) =
      ((live client output).flatMap alone).filter (about prop_name) := by
  unfold live
  induction g_strsplit_lines output with
  | nil => rfl
  | cons line lines ih =>
    rw [List.flatMap_cons, List.filter_append, ih]
    by_cases hskip : skipped client line = true
    · -- what it would have said is about something that the client has set
      have hnil : (alone line).filter (about prop_name) = [] := by
        apply List.filter_eq_nil_iff.mpr
        intro e hmem habout
        obtain ⟨p, hkey, hname⟩ := alone_name hmem
        rw [skipped, hkey, Option.any_some, Option.isSome_iff_exists] at hskip
        obtain ⟨v, hv⟩ := hskip
        have hcanonical : name p = prop_name := by
          rw [← (client_value_some hv).2, ← hname]
          simpa [about] using habout
        rw [hcanonical, hnone] at hv
        cases hv
      rw [hnil, List.nil_append, List.filter_cons_of_neg (by simp [hskip])]
    · rw [List.filter_cons_of_pos (by simpa using hskip), List.flatMap_cons, List.filter_append]

theorem not_skipped {client : Parameters} {output line : CString} (h : line ∈ live client output) :
    skipped client line = false := by
  simpa using (List.mem_filter.mp h).2

/-- The id and the cookie are not taken from the list. -/
theorem construction_parameters_restricted {α : Type} (string : CString → α)
    (transform : CString → GVariant → Option α) (ssid cookie : CString) (parameters : Parameters) :
    (construction_parameters string transform ssid cookie parameters).filter
      (fun e => e.1 = cstr "id" ∨ e.1 = cstr "cookie") =
      [(cstr "id", string ssid), (cstr "cookie", string cookie)] := by
  have hnil : (parameters.filterMap fun e =>
      if e.1 = cstr "id" ∨ e.1 = cstr "cookie" then none
      else (transform e.1 e.2).map fun value => (e.1, value)).filter
      (fun e => e.1 = cstr "id" ∨ e.1 = cstr "cookie") = [] := by
    apply List.filter_eq_nil_iff.mpr
    intro e hmem hrestricted
    obtain ⟨parameter, -, hsome⟩ := List.mem_filterMap.mp hmem
    split at hsome
    · cases hsome
    · rename_i hallowed
      obtain ⟨value, -, rfl⟩ := Option.map_eq_some_iff.mp hsome
      exact hallowed (of_decide_eq_true hrestricted)
  rw [construction_parameters, List.filter_append, hnil, List.append_nil]
  rfl

/-! ## Section 6: When the client wins -/

theorem legacy_key {client : Parameters} {line : CString} (h : legacy client line = true) :
    key line = some .user ∧ ∃ v, client_value client (cstr "unix-user") = some v := by
  simp only [legacy, Bool.and_eq_true, decide_eq_true_eq] at h
  exact ⟨h.1, Option.isSome_iff_exists.mp h.2⟩

theorem not_bare_of_output {errno : Nat} {output : CString} {client merged : Parameters}
    (h : parse_output (save_parameters client) errno output = some merged) :
    ∀ line ∈ live client output, bare GType.number line = false := by
  rw [parse_output_live] at h
  obtain ⟨ck_parameters, hparse, -⟩ := Option.map_eq_some_iff.mp h
  exact not_bare_of_parsed hparse

/-- An entry about a property comes from a line about it. -/
theorem key_of_about {line prop_name : CString} {e : CString × GVariant} (h : e ∈ alone line)
    (habout : about prop_name e = true) :
    ∃ p, key line = some p ∧ canonical (name p) = prop_name := by
  obtain ⟨p, hkey, hname⟩ := alone_name h
  exact ⟨p, hkey, by simpa [about, hname] using habout⟩

theorem lineMerges_of_clientWins {errno : Nat} {output : CString} {client : Parameters}
    (h : ClientWins errno output client) {pre post : List CString} {line : CString}
    (hsplit : live client output = pre ++ line :: post) :
    LineMerges client (decide (errno ≠ 0) || pre.any overflows) line := by
  obtain ⟨merged, hparse, hmerged⟩ := h
  have hbare := not_bare_of_output hparse
  have hmem : line ∈ live client output := by simp [hsplit]
  have hfilter := merged_filter hbare hparse
  constructor
  · exact hbare line hmem
  · intro hlegacy hrange
    obtain ⟨hkey, v, hv⟩ := legacy_key hlegacy
    -- the value of the client is there once, so the line has added none
    have honce := hmerged.overridden _ v hv
    rw [hfilter, hv] at honce
    have hnil := List.append_left_eq_self.mp honce
    by_contra hcounts
    have halone : alone line ≠ [] := by
      intro hempty
      have hout := (alone_user hkey (hbare line hmem)).mp hempty
      rw [hrange] at hout
      cases hout
    obtain ⟨e, he⟩ := List.exists_mem_of_ne_nil _ halone
    have hcontribution : e ∈ contribution (decide (errno ≠ 0) || pre.any overflows) line := by
      rw [contribution, if_neg (by rwa [Bool.and_eq_true])]
      exact he
    have hin := mem_contributions.mpr ⟨pre, line, post, hsplit, hcontribution⟩
    have habout : about (cstr "unix-user") e = true := by
      obtain ⟨p, hp, hname⟩ := alone_name he
      rw [hkey] at hp
      cases hp
      rw [about, hname]
      decide
    exact List.filter_eq_nil_iff.mp hnil e hin habout
  · intro hlegacy hzero
    apply Bool.eq_false_iff.mpr
    intro hstale
    obtain ⟨e, halone⟩ := alone_zero hzero
    have he : e ∈ alone line := by simp [halone]
    obtain ⟨p, hkey, hname⟩ := alone_name he
    have hnone : client_value client (canonical (name p)) = none := by
      rw [legacy_eq (not_skipped hmem) hkey] at hlegacy
      simpa using hlegacy
    -- nothing about this property is lost, not even this 0
    have hkept := hmerged.kept _ hnone
    rw [hfilter, hnone, live_filter hnone, Option.toList_none, List.map_nil,
      List.append_nil] at hkept
    have hlost := (contributions_filter_eq_iff _ _ _).mp hkept pre line post hsplit hstale hzero
    have habout : about (canonical (name p)) e = true := by simp [about, hname]
    simp [halone, habout] at hlost

section lines

variable {errno : Nat} {output : CString} {client : Parameters}
  (h : ∀ pre line post, live client output = pre ++ line :: post →
    LineMerges client (decide (errno ≠ 0) || pre.any overflows) line)

include h

/-- The lines add nothing about what the client sets. -/
theorem contributions_overridden {prop_name : CString} {v : GVariant}
    (hv : client_value client prop_name = some v) :
    (contributions (decide (errno ≠ 0)) (live client output)).flatten.filter
      (about prop_name) = [] := by
  apply List.filter_eq_nil_iff.mpr
  intro e hin habout
  obtain ⟨pre, line, post, hsplit, hcontribution⟩ := mem_contributions.mp hin
  obtain ⟨halone, hcounts⟩ := contribution_subset hcontribution
  obtain ⟨p, hkey, hcanonical⟩ := key_of_about halone habout
  have hmem : line ∈ live client output := by simp [hsplit]
  have hline := h pre line post hsplit
  have hlegacy : legacy client line = true := by
    rw [legacy_eq (not_skipped hmem) hkey, hcanonical, hv]
    rfl
  -- a line that speaks about it has the legacy name, and a number that counts
  have hrange : user_in_range line = true := by
    by_contra hout
    have hempty := (alone_user (legacy_key hlegacy).1 hline.not_bare).mpr (by simpa using hout)
    rw [hempty] at halone
    cases halone
  exact hcounts (hline.user_lost hlegacy hrange)

/-- About anything else the lines add what they do by themselves. -/
theorem contributions_kept {prop_name : CString} (hnone : client_value client prop_name = none) :
    (contributions (decide (errno ≠ 0)) (live client output)).flatten.filter (about prop_name) =
      ((live client output).flatMap alone).filter (about prop_name) := by
  apply (contributions_filter_eq_iff _ _ _).mpr
  intro pre line post hsplit hstale hzero
  apply List.filter_eq_nil_iff.mpr
  intro e halone habout
  obtain ⟨p, hkey, hcanonical⟩ := key_of_about halone habout
  have hmem : line ∈ live client output := by simp [hsplit]
  have hlegacy : legacy client line = false := by
    rw [legacy_eq (not_skipped hmem) hkey, hcanonical, hnone]
    rfl
  have hclear := (h pre line post hsplit).zero_kept hlegacy hzero
  rw [hstale] at hclear
  cases hclear

end lines

/-- Neither the lines nor the client name the id or the cookie. -/
theorem merged_not_restricted (stale : Bool) (lines : List CString) (client : Parameters)
    {e : CString × GVariant} (h : e ∈ (contributions stale lines).flatten ++ overlay client) :
    e.1 ≠ cstr "id" ∧ e.1 ≠ cstr "cookie" := by
  have hname : ∃ p, e.1 = name p := by
    rcases List.mem_append.mp h with hin | hin
    · obtain ⟨pre, line, post, hsplit, hcontribution⟩ := mem_contributions.mp hin
      obtain ⟨p, -, hname⟩ := alone_name (contribution_subset hcontribution).1
      exact ⟨p, hname⟩
    · obtain ⟨entry, hentry, rfl⟩ := List.mem_map.mp hin
      have hlookup := HashTable.mem_entries.mp hentry
      rw [save_parameters_lookup] at hlookup
      exact (client_value_some hlookup).1
  obtain ⟨p, hname⟩ := hname
  rw [hname]
  exact name_not_restricted p

theorem clientWins_of_lineMerges {errno : Nat} {output : CString} {client : Parameters}
    (h : ∀ pre line post, live client output = pre ++ line :: post →
      LineMerges client (decide (errno ≠ 0) || pre.any overflows) line) :
    ClientWins errno output client := by
  have hbare : ∀ line ∈ live client output, bare GType.number line = false := by
    intro line hmem
    obtain ⟨pre, post, hsplit⟩ := List.append_of_mem hmem
    exact (h pre line post hsplit).not_bare
  have hparse := parse_output_some errno hbare
  refine ⟨_, hparse, ?_⟩
  constructor
  · intro prop_name v hv
    rw [merged_filter hbare hparse, contributions_overridden h hv, hv]
    rfl
  · intro prop_name hnone
    rw [merged_filter hbare hparse, contributions_kept h hnone, hnone, live_filter hnone,
      Option.toList_none, List.map_nil, List.append_nil]
  · intro e hin
    exact merged_not_restricted _ _ client hin
  · intro α string transform ssid cookie
    exact construction_parameters_restricted string transform ssid cookie _

/-- The client's values are the only ones, and all others those of the
    collector, iff each line that is looked at merges well. -/
theorem client_wins_iff (errno : Nat) (output : CString) (client : Parameters) :
    ClientWins errno output client ↔
      ∀ pre line post, live client output = pre ++ line :: post →
        LineMerges client (decide (errno ≠ 0) || pre.any overflows) line := by
  constructor
  · exact fun h pre line post hsplit => lineMerges_of_clientWins h hsplit
  · exact clientWins_of_lineMerges

/-- A client that sets the user gets that of the collector as well. -/
theorem collector_user_beside_override :
    ¬ClientWins 0 (cstr "user = 0") [(cstr "unix-user", .int32 1000)] := by
  rintro ⟨merged, hparse, hmerged⟩
  have htwo : parse_output (save_parameters [(cstr "unix-user", .int32 1000)]) 0
      (cstr "user = 0") =
      some [(cstr "user", .int32 0), (cstr "unix-user", .int32 1000)] := by decide +kernel
  have hvalue : client_value [(cstr "unix-user", .int32 1000)] (cstr "unix-user") =
      some (.int32 1000) := by decide +kernel
  have honce := hmerged.overridden _ _ hvalue
  rw [htwo] at hparse
  cases hparse
  revert honce
  decide +kernel

end Leader
