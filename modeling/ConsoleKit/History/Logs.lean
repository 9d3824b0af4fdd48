import ConsoleKit.Framework.HashTable
import ConsoleKit.Framework.Journal
import ConsoleKit.Framework.Lines
import ConsoleKit.Log.Codec

/-! # The files of the event log

    Model of the reading of the log in `ck-history.c`.  The log is rotated:
    its last part has the name of the log, and earlier ones have numbers and
    may be compressed.  The files are read from the newest one on, until one
    goes back beyond the time since when the events are wanted, and the
    events come to a list that the report reverses.

    This module provides:
    - `process_logs` and the functions that it calls,
    - `get_log_file_list_iff`: the files that are listed,
    - `WellKept`: what is assumed of the files,
    - `report_events_since`: the events that are reported.
-/

namespace History

open Libc Log

/-! ## Section 1: One file -/

def MAX_LINE_LEN : Nat := 2048

/-- `g_string_new` copies the buffer up to the first NUL. -/
def parse_event_line (line : List Char) : Option CkLogEvent :=
  ck_log_event_fill_from_string (line.takeWhile fun c => c ≠ '\x00')

/-- The condition on which an event is kept. -/
def wanted (since : Option GTimeVal) (event : CkLogEvent) : Bool :=
  since.all fun t => decide (t.tv_sec ≤ event.timestamp.tv_sec)

/-- One round of the loop, with `events` and `hit_since`. -/
def process_line (since : Option GTimeVal) (s : List CkLogEvent × Bool) (line : List Char) :
    List CkLogEvent × Bool :=
  match parse_event_line line with
  | none => s
  | some event => if wanted since event then (event :: s.1, s.2) else (s.1, true)

/-- The loop and what comes after it are the same for both kinds of files.
    The new value of `all_events` comes second. -/
def process_log_text (text : List Char) (since : Option GTimeVal)
    (all_events : List CkLogEvent) : Bool × List CkLogEvent :=
  let s := (read_lines MAX_LINE_LEN text.length text).foldl (process_line since) ([], false)
  (!s.2, all_events ++ s.1)

/-- The text of the stream is what `gzgets` reads. -/
def process_log_gzstream (text : List Char) (since : Option GTimeVal)
    (all_events : List CkLogEvent) : Bool × List CkLogEvent :=
  process_log_text text since all_events

def process_log_stream (text : List Char) (since : Option GTimeVal)
    (all_events : List CkLogEvent) : Bool × List CkLogEvent :=
  process_log_text text since all_events

/-! ## Section 2: The files -/

/-- A file that can be read, with its text after decompression if it is
    compressed.  It may still fail to be opened. -/
structure LogFile where
  text : List Char
  opens : Bool

/-- The files that `g_access` finds readable. -/
abbrev Directory := HashTable CString LogFile

def process_log_file (dir : Directory) (filename : CString) (since : Option GTimeVal)
    (all_events : List CkLogEvent) : Bool × List CkLogEvent :=
  match (dir.lookup filename).filter LogFile.opens with
  | none => (false, all_events)
  | some f =>
    if (cstr ".gz").isSuffixOf filename then process_log_gzstream f.text since all_events
    else process_log_stream f.text since all_events

section
variable (LOCALSTATEDIR : CString)

def DEFAULT_LOG_FILENAME : CString := LOCALSTATEDIR ++ cstr "/log/ConsoleKit/history"

def numbered (num : Nat) : CString := DEFAULT_LOG_FILENAME LOCALSTATEDIR ++ '.' :: percent_u num

/-- The name of the part with this number; a compressed one is looked for if
    there is no other. -/
def log_file (dir : Directory) (num : Nat) : Option CString :=
  if numbered LOCALSTATEDIR num ∈ dir then some (numbered LOCALSTATEDIR num)
  else if numbered LOCALSTATEDIR num ++ cstr ".gz" ∈ dir then
    some (numbered LOCALSTATEDIR num ++ cstr ".gz")
  else none

/-- The loop for the earlier parts, in the order that the reversal gives;
    none if it has not ended after this many rounds. -/
def numbered_files (dir : Directory) : Nat → Nat → Option (List CString)
  | 0, _ => none
  | rounds + 1, num =>
    match log_file LOCALSTATEDIR dir num with
    | none => some []
    | some filename => (numbered_files dir rounds (num + 1)).map (filename :: ·)

/-- A round finds another file of the directory, or is the last one. -/
def get_log_file_list (dir : Directory) : Option (List CString) :=
  (numbered_files LOCALSTATEDIR dir (dir.entries.length + 1) 1).map
    (DEFAULT_LOG_FILENAME LOCALSTATEDIR :: ·)

/-- The loop of `process_logs`, with what it leaves in `all_events`. -/
def process_files (dir : Directory) (since : Option GTimeVal) :
    List CString → List CkLogEvent → Bool × List CkLogEvent
  | [], all_events => (true, all_events)
  | filename :: files, all_events =>
    let r := process_log_file dir filename since all_events
    if r.1 then process_files dir since files r.2 else (false, r.2)

def process_logs (dir : Directory) (since : Option GTimeVal) :
    Option (Bool × List CkLogEvent) :=
  (get_log_file_list LOCALSTATEDIR dir).map fun files => process_files dir since files []

/-- The list that `generate_report` hands to the reports. -/
def report_events (dir : Directory) (since : Option GTimeVal) : Option (List CkLogEvent) :=
  (process_logs LOCALSTATEDIR dir since).map fun r => r.2.reverse

end

/-! ## Section 3: What is asked -/

/-- The files of the log, the newest first: the one with its name, and the
    numbered ones before the first number that is missing. -/
def Rotated (LOCALSTATEDIR : CString) (dir : Directory) (files : List CString) : Prop :=
  ∃ older, files = DEFAULT_LOG_FILENAME LOCALSTATEDIR :: older ∧
    ∀ i ≤ older.length, log_file LOCALSTATEDIR dir (1 + i) = older[i]?

/-- The events of the lines of a file. -/
def file_events (dir : Directory) (filename : CString) : List CkLogEvent :=
  (dir.lookup filename).elim [] fun f => (lines f.text).filterMap parse_event_line

/-- The parsable events, from the oldest file to the newest. -/
def all_log_events (dir : Directory) (files : List CString) : List CkLogEvent :=
  (files.map (file_events dir)).reverse.flatten

/-- The files can be opened, their lines are shorter than the buffer, and time
    does not go back from one event to a later one. -/
structure WellKept (dir : Directory) (files : List CString) : Prop where
  opens : ∀ filename ∈ files, ∃ f, dir.lookup filename = some f ∧ f.opens = true
  short : ∀ filename ∈ files, ∀ f, dir.lookup filename = some f →
    ∀ line ∈ lines f.text, line.length < MAX_LINE_LEN
  chronological : (all_log_events dir files).Pairwise fun a b =>
    a.timestamp.tv_sec ≤ b.timestamp.tv_sec

/-! ## Section 4: The list of the files -/

section
variable {LOCALSTATEDIR : CString} {dir : Directory}

theorem log_file_mem {num : Nat} {filename : CString}
    (h : log_file LOCALSTATEDIR dir num = some filename) : filename ∈ dir := by
  unfold log_file at h
  split at h
  · rename_i hmem
    obtain rfl := Option.some.inj h
    exact hmem
  · split at h
    · rename_i hmem
      obtain rfl := Option.some.inj h
      exact hmem
    · cases h

/-- A name begins with the number, and goes on with no digit. -/
theorem log_file_shape {num : Nat} {filename : CString}
    (h : log_file LOCALSTATEDIR dir num = some filename) :
    ∃ suffix, filename = DEFAULT_LOG_FILENAME LOCALSTATEDIR ++ '.' :: (percent_u num ++ suffix) ∧
      suffix.takeWhile Char.isDigit = [] := by
  unfold log_file numbered at h
  split at h
  · obtain rfl := Option.some.inj h
    exact ⟨[], by rw [List.append_nil], rfl⟩
  · split at h
    · obtain rfl := Option.some.inj h
      exact ⟨cstr ".gz", by simp, rfl⟩
    · cases h

theorem log_file_inj {num num' : Nat} {filename : CString}
    (h : log_file LOCALSTATEDIR dir num = some filename)
    (h' : log_file LOCALSTATEDIR dir num' = some filename) : num = num' := by
  obtain ⟨suffix, rfl, hsuffix⟩ := log_file_shape h
  obtain ⟨suffix', heq, hsuffix'⟩ := log_file_shape h'
  have hdigits := congrArg (List.takeWhile Char.isDigit)
    (List.cons.inj (List.append_cancel_left heq)).2
  rw [List.takeWhile_append_of_pos (percent_u_isDigit num), hsuffix, List.append_nil,
    List.takeWhile_append_of_pos (percent_u_isDigit num'), hsuffix', List.append_nil] at hdigits
  exact percent_u_inj hdigits

/-- The loop goes on as long as there are files. -/
theorem numbered_files_eq_none {rounds num : Nat}
    (h : numbered_files LOCALSTATEDIR dir rounds num = none) :
    ∀ i < rounds, ∃ filename, log_file LOCALSTATEDIR dir (num + i) = some filename := by
  induction rounds generalizing num with
  | zero => exact fun i hi => absurd hi (Nat.not_lt_zero i)
  | succ rounds ih =>
    rw [numbered_files] at h
    cases hfile : log_file LOCALSTATEDIR dir num with
    | none =>
      rw [hfile] at h
      cases h
    | some filename =>
      rw [hfile] at h
      intro i hi
      cases i with
      | zero => exact ⟨filename, hfile⟩
      | succ i =>
        obtain ⟨filename', hfile'⟩ :=
          ih (Option.map_eq_none_iff.mp h) i (Nat.lt_of_succ_lt_succ hi)
        -- The file found `i` rounds later has the number that is `i + 1` more than
        -- this one.
        exact ⟨filename', by rw [← hfile', Nat.add_right_comm, Nat.add_assoc]⟩

/-- The loop ends: the directory has not enough files for all its rounds. -/
theorem get_log_file_list_returns (LOCALSTATEDIR : CString) (dir : Directory) :
    ∃ files, get_log_file_list LOCALSTATEDIR dir = some files := by
  cases hfiles : numbered_files LOCALSTATEDIR dir (dir.entries.length + 1) 1 with
  | some files =>
    unfold get_log_file_list
    exact ⟨_, by rw [hfiles]; rfl⟩
  | none =>
    exfalso
    -- Otherwise every round has found a file. They have different names, and the
    -- directory has fewer entries.
    have hfound := numbered_files_eq_none hfiles
    obtain ⟨i, hi, hnone⟩ := HashTable.exists_lookup_eq_none dir
      (fun i => (log_file LOCALSTATEDIR dir (1 + i)).getD []) (by
        intro i hi j hj heq
        obtain ⟨filename, hname⟩ := hfound i (Nat.lt_succ_of_le hi)
        obtain ⟨filename', hname'⟩ := hfound j (Nat.lt_succ_of_le hj)
        rw [hname, hname', Option.getD_some, Option.getD_some] at heq
        subst heq
        exact Nat.add_left_cancel (log_file_inj hname hname'))
    obtain ⟨filename, hname⟩ := hfound i (Nat.lt_succ_of_le hi)
    rw [hname, Option.getD_some] at hnone
    exact AList.lookup_eq_none.mp hnone (log_file_mem hname)

theorem numbered_files_eq {rounds num : Nat} {files older : List CString}
    (h : numbered_files LOCALSTATEDIR dir rounds num = some files)
    (holder : ∀ i ≤ older.length, log_file LOCALSTATEDIR dir (num + i) = older[i]?) :
    files = older := by
  induction rounds generalizing num files older with
  | zero => cases h
  | succ rounds ih =>
    -- The first number decides whether the list goes on.
    have hfirst := holder 0 (Nat.zero_le _)
    rw [Nat.add_zero] at hfirst
    rw [numbered_files, hfirst] at h
    cases older with
    | nil => exact (Option.some.inj h).symm
    | cons filename older =>
      obtain ⟨files', hfiles', rfl⟩ := Option.map_eq_some_iff.mp h
      have hrest : ∀ i ≤ older.length,
          log_file LOCALSTATEDIR dir (num + 1 + i) = older[i]? := by
        intro i hi
        rw [Nat.add_right_comm, Nat.add_assoc, holder (i + 1) (Nat.succ_le_succ hi)]
        rfl
      rw [ih hfiles' hrest]

theorem numbered_files_spec {rounds num : Nat} {files : List CString}
    (h : numbered_files LOCALSTATEDIR dir rounds num = some files) :
    ∀ i ≤ files.length, log_file LOCALSTATEDIR dir (num + i) = files[i]? := by
  induction rounds generalizing num files with
  | zero => cases h
  | succ rounds ih =>
    rw [numbered_files] at h
    cases hfile : log_file LOCALSTATEDIR dir num with
    | none =>
      rw [hfile] at h
      obtain rfl := Option.some.inj h
      intro i hi
      -- Without a file the list ends, and only its end is asked for.
      obtain rfl := Nat.le_zero.mp hi
      exact hfile
    | some filename =>
      rw [hfile] at h
      obtain ⟨files, hfiles, rfl⟩ := Option.map_eq_some_iff.mp h
      intro i hi
      cases i with
      | zero => exact hfile
      | succ i =>
        rw [← Nat.add_assoc, Nat.add_right_comm]
        exact ih hfiles i (Nat.le_of_succ_le_succ hi)

/-- The list is that of the files of the log. -/
theorem get_log_file_list_iff {files : List CString} :
    get_log_file_list LOCALSTATEDIR dir = some files ↔ Rotated LOCALSTATEDIR dir files := by
  constructor
  · intro h
    obtain ⟨older, holder, rfl⟩ := Option.map_eq_some_iff.mp h
    exact ⟨older, rfl, numbered_files_spec holder⟩
  · rintro ⟨older, rfl, holder⟩
    obtain ⟨files, hfiles⟩ := get_log_file_list_returns LOCALSTATEDIR dir
    obtain ⟨older', holder', rfl⟩ := Option.map_eq_some_iff.mp hfiles
    rw [hfiles, numbered_files_eq holder' holder]

end

/-! ## Section 5: The events that are reported -/

section
variable {since : Option GTimeVal}

/-- The loop over the lines, on the events of the lines that parse. -/
theorem foldl_process_line (ls : List (List Char)) (events : List CkLogEvent)
    (hit_since : Bool) :
    ls.foldl (process_line since) (events, hit_since) =
      (((ls.filterMap parse_event_line).filter (wanted since)).reverse ++ events,
        hit_since || !(ls.filterMap parse_event_line).all (wanted since)) := by
  induction ls generalizing events hit_since with
  | nil => simp
  | cons line ls ih =>
    rw [List.foldl_cons, process_line]
    cases hparse : parse_event_line line with
    | none => simp only [ih, List.filterMap_cons, hparse]
    | some event =>
      by_cases hwanted : wanted since event = true
      · simp [ih, hparse, hwanted]
      · simp [ih, hparse, hwanted]

/-- A file whose lines fit the buffer. -/
theorem process_log_text_eq {text : List Char} (all_events : List CkLogEvent)
    (hshort : ∀ line ∈ lines text, line.length < MAX_LINE_LEN) :
    process_log_text text since all_events =
      (((lines text).filterMap parse_event_line).all (wanted since),
        all_events ++
          (((lines text).filterMap parse_event_line).filter (wanted since)).reverse) := by
  simp only [process_log_text, read_lines_eq (Nat.le_refl _) hshort, foldl_process_line,
    List.append_nil, Bool.false_or, Bool.not_not]

theorem process_log_file_eq {dir : Directory} {filename : CString} {f : LogFile}
    (all_events : List CkLogEvent) (hlookup : dir.lookup filename = some f)
    (hopens : f.opens = true) (hshort : ∀ line ∈ lines f.text, line.length < MAX_LINE_LEN) :
    process_log_file dir filename since all_events =
      ((file_events dir filename).all (wanted since),
        all_events ++ ((file_events dir filename).filter (wanted since)).reverse) := by
  have hevents : file_events dir filename = (lines f.text).filterMap parse_event_line := by
    rw [file_events, hlookup]
    rfl
  rw [hevents, process_log_file, hlookup, Option.filter_some, if_pos hopens]
  dsimp only
  rw [process_log_gzstream, process_log_stream, ite_self]
  exact process_log_text_eq all_events hshort

/-- **Run lemma**: the loop over the files reads the log from its end. -/
theorem process_files_eq {dir : Directory} {files : List CString}
    (all_events : List CkLogEvent)
    (hopens : ∀ filename ∈ files, ∃ f, dir.lookup filename = some f ∧ f.opens = true)
    (hshort : ∀ filename ∈ files, ∀ f, dir.lookup filename = some f →
      ∀ line ∈ lines f.text, line.length < MAX_LINE_LEN) :
    (process_files dir since files all_events).2 =
      all_events ++ Journal.readBack (wanted since) (files.map (file_events dir)) := by
  induction files generalizing all_events with
  | nil => exact (List.append_nil all_events).symm
  | cons filename files ih =>
    obtain ⟨⟨f, hlookup, hopen⟩, hopens⟩ := List.forall_mem_cons.mp hopens
    obtain ⟨hfile, hshort⟩ := List.forall_mem_cons.mp hshort
    rw [process_files, process_log_file_eq all_events hlookup hopen (hfile f hlookup),
      List.map_cons, Journal.readBack]
    dsimp only
    -- The loop ends with the first file that has an event before that time.
    split
    · rw [ih _ hopens hshort, List.append_assoc]
    · rw [List.append_nil]

/-- An event after one that is wanted is wanted. -/
theorem wanted_of_le {a b : CkLogEvent} (h : a.timestamp.tv_sec ≤ b.timestamp.tv_sec)
    (ha : wanted since a = true) : wanted since b = true := by
  cases since with
  | none => rfl
  | some t => exact decide_eq_true (Int64.le_trans (of_decide_eq_true ha) h)

end

/-- The events that are reported are the events of the log since that time,
    in the order of the log. -/
theorem report_events_since {LOCALSTATEDIR : CString} {dir : Directory}
    (since : Option GTimeVal) {files : List CString} (hfiles : Rotated LOCALSTATEDIR dir files)
    (hkept : WellKept dir files) :
    report_events LOCALSTATEDIR dir since =
      some ((all_log_events dir files).filter (wanted since)) := by
  -- From the oldest file on, the events that are wanted come last. So the loop may
  -- stop at the first file that has others.
  have hsorted : (files.map (file_events dir)).reverse.flatten.Pairwise
      fun a b => wanted since a = true → wanted since b = true :=
    hkept.chronological.imp fun hle ha => wanted_of_le hle ha
  rw [report_events, process_logs, get_log_file_list_iff.mpr hfiles, Option.map_some,
    Option.map_some, process_files_eq [] hkept.opens hkept.short, List.nil_append,
    Journal.readBack_reverse _ hsorted]
  rfl

/-- A log of two files, read from the second that ends the older one. -/
def rotated_dir : Directory :=
  ((∅ : Directory).insert (cstr "/var/log/ConsoleKit/history")
    ⟨cstr "20.000 type=SYSTEM_STOP : \n", true⟩).insert (cstr "/var/log/ConsoleKit/history.1.gz")
    ⟨cstr "10.500 type=SYSTEM_STOP : \nx\n15.000 type=SYSTEM_RESTART : \n", true⟩

theorem rotated_report_events :
    report_events (cstr "/var") rotated_dir (some ⟨15, 0⟩) =
      some [⟨.system_restart, ⟨15, 0⟩⟩, ⟨.system_stop, ⟨20, 0⟩⟩] := by
  have hfiles : Rotated (cstr "/var") rotated_dir
      [cstr "/var/log/ConsoleKit/history", cstr "/var/log/ConsoleKit/history.1.gz"] :=
    ⟨[cstr "/var/log/ConsoleKit/history.1.gz"], by decide, by decide⟩
  have hevents : all_log_events rotated_dir
      [cstr "/var/log/ConsoleKit/history", cstr "/var/log/ConsoleKit/history.1.gz"] =
      [⟨.system_stop, ⟨10, 500000⟩⟩, ⟨.system_restart, ⟨15, 0⟩⟩, ⟨.system_stop, ⟨20, 0⟩⟩] := by
    decide
  have hkept : WellKept rotated_dir
      [cstr "/var/log/ConsoleKit/history", cstr "/var/log/ConsoleKit/history.1.gz"] := by
    constructor
    case opens =>
      rw [List.forall_mem_cons, List.forall_mem_singleton]
      exact ⟨⟨_, rfl, rfl⟩, ⟨_, rfl, rfl⟩⟩
    case short =>
      rw [List.forall_mem_cons, List.forall_mem_singleton]
      constructor <;> (intro f hf; obtain rfl := Option.some.inj hf; decide)
    case chronological =>
      rw [hevents]
      decide
  rw [report_events_since _ hfiles hkept, hevents]
  decide

end History
