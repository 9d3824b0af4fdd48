import ConsoleKit.History.Logs
import ConsoleKit.Log.Files
import ConsoleKit.Log.Forge
import Mathlib.Data.List.TakeWhile

/-! # From the events of the daemon to the report

    What the event logger has written to its files is what `ck-history` reads
    from them.  The logger writes one line for each event, to the file that
    has the name of the log by then, and the reader puts the files together
    again.

    This module provides:
    - `Shows`: a directory with the files of the logger,
    - `fill_from_string_line`: the line end does not matter to the parsers,
    - `report_of_log_files`: the events that are reported.
-/

namespace History

open Libc EventLogger.Files
open Log hiding lines

/-! ## Section 1: The directory -/

section
variable (LOCALSTATEDIR : CString)

/-- The name of an earlier part; the newest one has the number one. -/
def part_name (i : Nat) : Part → CString
  | .plain _ => numbered LOCALSTATEDIR (1 + i)
  | .gz _ => numbered LOCALSTATEDIR (1 + i) ++ cstr ".gz"

def part_names (s : EventLogger.Files.State) : List CString :=
  s.rotated.mapIdx (part_name LOCALSTATEDIR)

/-- The readable files of a directory are the parts of the log, as far as
    their names go, and there is no part after the last one. -/
structure Shows (s : EventLogger.Files.State) (dir : Directory) : Prop where
  log : dir.lookup (DEFAULT_LOG_FILENAME LOCALSTATEDIR) =
    s.stream.log_file.map fun file => ⟨s.contents file, true⟩
  part : ∀ i p, s.rotated[i]? = some p →
    dir.lookup (part_name LOCALSTATEDIR i p) = some ⟨p.text s.contents, true⟩
  compressed : ∀ i text, s.rotated[i]? = some (.gz text) → numbered LOCALSTATEDIR (1 + i) ∉ dir
  last : log_file LOCALSTATEDIR dir (1 + s.rotated.length) = none

end

variable {LOCALSTATEDIR : CString} {s : EventLogger.Files.State} {dir : Directory}

theorem mem_of_lookup {filename : CString} {f : LogFile} (h : dir.lookup filename = some f) :
    filename ∈ dir := by
  rw [← AList.lookup_isSome, h]
  rfl

theorem Shows.log_file (h : Shows LOCALSTATEDIR s dir) {i : Nat} {p : Part}
    (hp : s.rotated[i]? = some p) :
    log_file LOCALSTATEDIR dir (1 + i) = some (part_name LOCALSTATEDIR i p) := by
  have hmem := mem_of_lookup (h.part i p hp)
  cases p with
  | plain file => exact if_pos hmem
  | gz text => exact (if_neg (h.compressed i text hp)).trans (if_pos hmem)

theorem Shows.rotated (h : Shows LOCALSTATEDIR s dir) :
    Rotated LOCALSTATEDIR dir
      (DEFAULT_LOG_FILENAME LOCALSTATEDIR :: part_names LOCALSTATEDIR s) := by
  refine ⟨_, rfl, fun i hi => ?_⟩
  rw [part_names, List.getElem?_mapIdx]
  cases hp : s.rotated[i]? with
  | some p => exact h.log_file hp
  | none =>
    -- This number is the first one without a part.
    rw [part_names, List.length_mapIdx] at hi
    have hlen := List.getElem?_eq_none_iff.mp hp
    obtain rfl : i = s.rotated.length := by omega
    exact h.last

/-- Every file of the list is a part. -/
theorem Shows.file (h : Shows LOCALSTATEDIR s dir) (hlog : s.stream.log_file ≠ none)
    {filename : CString}
    (hmem : filename ∈ DEFAULT_LOG_FILENAME LOCALSTATEDIR :: part_names LOCALSTATEDIR s) :
    ∃ f, dir.lookup filename = some f ∧ f.opens = true ∧
      f.text ∈ s.parts.map (Part.text s.contents) := by
  rcases List.mem_cons.mp hmem with rfl | hmem
  · obtain ⟨file, hfile⟩ := Option.ne_none_iff_exists'.mp hlog
    refine ⟨⟨s.contents file, true⟩, by rw [h.log, hfile]; rfl, rfl, ?_⟩
    refine List.mem_map.mpr ⟨.plain file, List.mem_append_left _ ?_, rfl⟩
    rw [hfile]
    exact List.mem_singleton.mpr rfl
  · obtain ⟨i, hi, rfl⟩ := List.mem_mapIdx.mp hmem
    refine ⟨_, h.part i _ (List.getElem?_eq_getElem hi), rfl, ?_⟩
    exact List.mem_map_of_mem (List.mem_append_right _ (List.getElem_mem hi))

/-! ## Section 2: The lines of the files -/

/-- The events of the lines of a text. -/
def events_of (text : List Char) : List CkLogEvent := (lines text).filterMap parse_event_line

theorem events_of_append {t : List Char} (ht : Whole t) (u : List Char) :
    events_of (t ++ u) = events_of t ++ events_of u := by
  rw [events_of, lines_append ht, List.filterMap_append]
  rfl

theorem events_of_flatten {ts : List (List Char)} (h : ∀ t ∈ ts, Whole t) :
    events_of ts.flatten = (ts.map events_of).flatten := by
  rw [events_of, lines_flatten h, List.filterMap_flatten, List.map_map]
  rfl

/-- The events of the files that there are. -/
theorem Shows.all_log_events (h : Shows LOCALSTATEDIR s dir) :
    all_log_events dir (DEFAULT_LOG_FILENAME LOCALSTATEDIR :: part_names LOCALSTATEDIR s) =
      ((s.parts.map (Part.text s.contents)).map events_of).reverse.flatten := by
  have hpart : ∀ i p, s.rotated[i]? = some p →
      file_events dir (part_name LOCALSTATEDIR i p) = events_of (p.text s.contents) := by
    intro i p hp
    rw [file_events, h.part i p hp]
    rfl
  have holder : (part_names LOCALSTATEDIR s).map (file_events dir) =
      (s.rotated.map (Part.text s.contents)).map events_of := by
    refine List.ext_getElem? fun i => ?_
    rw [part_names, List.getElem?_map, List.getElem?_mapIdx, List.getElem?_map,
      List.getElem?_map]
    cases hp : s.rotated[i]? with
    | none => rfl
    | some p => exact congrArg some (hpart i p hp)
  rw [History.all_log_events, List.map_cons, holder, State.parts]
  cases hlog : s.stream.log_file with
  | none =>
    have hfile : file_events dir (DEFAULT_LOG_FILENAME LOCALSTATEDIR) = [] := by
      rw [file_events, h.log, hlog]
      rfl
    rw [hfile]
    simp
  | some file =>
    have hfile : file_events dir (DEFAULT_LOG_FILENAME LOCALSTATEDIR) =
        events_of (s.contents file) := by
      rw [file_events, h.log, hlog]
      rfl
    rw [hfile]
    rfl

/-! ## Section 3: The records -/

/-- No pattern takes a newline at its end. -/
theorem pattern_not_mayEndWith (type : CkLogEventType) :
    type.pattern.mayEndWith '\n' = false := by
  cases type <;> decide

/-- The line end, which `fgets` leaves, does not matter. -/
theorem fill_from_string_line {e : CkLogEvent} {str : CString}
    (hstr : ck_log_event_to_string e = some str) :
    ck_log_event_fill_from_string (str ++ cstr "\n") = ck_log_event_fill_from_string str := by
  obtain ⟨text, -, rfl⟩ := Option.map_eq_some_iff.mp hstr
  have hheader : parse_log_for_any
      (add_log_for_any e.timestamp e.event.type ++ (text ++ cstr "\n")) =
      parse_log_for_any (add_log_for_any e.timestamp e.event.type ++ text) := by
    rw [parse_log_for_any, parse_log_for_any, sscanf_header_any, sscanf_header_any]
  rw [List.append_assoc, fill_from_string_eq, fill_from_string_eq, hheader, skip_header_any,
    skip_header_any]
  refine Option.bind_congr fun header _ => ?_
  rw [Option.bind_some, Option.bind_some]
  exact congrArg (Option.map _)
    (Regex.search_concat (pattern_not_mayEndWith header.2) text)

/-- An event that comes back from its line, if the line fits the buffer. -/
structure Reportable (e : CkLogEvent) : Prop where
  usec : e.timestamp.tv_usec < 1000000
  faithful : Faithful e.event
  oneLine : e.event.OneLine
  short : ∀ str, ck_log_event_to_string e = some str →
    str.length + 1 < MAX_LINE_LEN ∧ '\x00' ∉ str

/-- The event as it is read back. -/
def SameEvent (e e' : CkLogEvent) : Prop :=
  SameData e.event e'.event ∧ SameTime e.timestamp e'.timestamp

theorem newline_not_mem_string {e : CkLogEvent} (hline : e.event.OneLine) {str : CString}
    (hstr : ck_log_event_to_string e = some str) : '\n' ∉ str := by
  obtain ⟨text, htext, rfl⟩ := Option.map_eq_some_iff.mp hstr
  rw [List.mem_append, not_or]
  exact ⟨newline_not_mem_header _ _, newline_not_mem_data hline htext⟩

theorem Reportable.parse {e : CkLogEvent} (h : Reportable e) {str : CString}
    (hstr : ck_log_event_to_string e = some str) :
    ∃ e', parse_event_line (str ++ cstr "\n") = some e' ∧ SameEvent e e' := by
  obtain ⟨str', e', hstr', hread, hdata, htime⟩ := (roundTrip_iff_faithful e h.usec).mpr h.faithful
  obtain rfl := Option.some.inj (hstr.symm.trans hstr')
  refine ⟨e', ?_, hdata, htime⟩
  have hall : ∀ c ∈ str ++ cstr "\n", decide (c ≠ '\x00') = true := by
    intro c hc
    rw [decide_eq_true_eq]
    rintro rfl
    rcases List.mem_append.mp hc with hc | hc
    · exact (h.short _ hstr).2 hc
    · cases List.mem_singleton.mp hc
  have htake : (str ++ cstr "\n").takeWhile (fun c => c ≠ '\x00') = str ++ cstr "\n" :=
    List.takeWhile_eq_self_iff.mpr hall
  rw [parse_event_line, htake, fill_from_string_line hstr]
  exact hread

theorem times_of_same {es new : List CkLogEvent} (h : List.Forall₂ SameEvent es new) :
    new.map (fun e => e.timestamp.tv_sec) = es.map fun e => e.timestamp.tv_sec := by
  induction h with
  | nil => rfl
  | cons hsame _ ih => rw [List.map_cons, List.map_cons, ih, hsame.2.1]

/-- The lines of the records, and their events. -/
theorem lines_records {es : List CkLogEvent} {records : List CString}
    (hrecords : records.map some = es.map ck_log_event_to_string)
    (h : ∀ e ∈ es, Reportable e) :
    lines (records.map (· ++ cstr "\n")).flatten = records.map (· ++ cstr "\n") ∧
      (∀ line ∈ records.map (· ++ cstr "\n"), line.length < MAX_LINE_LEN) ∧
      ∃ new, events_of (records.map (· ++ cstr "\n")).flatten = new ∧
        List.Forall₂ SameEvent es new := by
  induction es generalizing records with
  | nil =>
    obtain rfl := List.map_eq_nil_iff.mp hrecords
    exact ⟨rfl, nofun, [], rfl, .nil⟩
  | cons e es ih =>
    cases records with
    | nil => cases hrecords
    | cons str records =>
      obtain ⟨hstr, hrest⟩ := List.cons.inj hrecords
      obtain ⟨he, hes⟩ := List.forall_mem_cons.mp h
      obtain ⟨hlines, hshort, new, hnew, hsame⟩ := ih hrest hes
      obtain ⟨e', hparse, hsame'⟩ := he.parse hstr.symm
      have hwhole : Whole (str ++ cstr "\n") := whole_line str
      have hline : lines (str ++ cstr "\n") = [str ++ cstr "\n"] :=
        lines_line (newline_not_mem_string he.oneLine hstr.symm)
      have hevent : events_of (str ++ cstr "\n") = [e'] := by
        rw [events_of, hline, List.filterMap_cons_some hparse]
        rfl
      rw [List.map_cons, List.flatten_cons]
      refine ⟨?_, ?_, e' :: new, ?_, .cons hsame' hsame⟩
      · rw [lines_append hwhole, hline, hlines]
        rfl
      · rw [List.forall_mem_cons, List.length_append]
        exact ⟨(he.short str hstr.symm).1, hshort⟩
      · rw [events_of_append hwhole, hevent, hnew]
        rfl

/-! ## Section 4: The report -/

/-- `process_logs` ends at once if it cannot open the first file. -/
theorem report_without_log (hdir : Shows LOCALSTATEDIR s dir) (hlog : s.stream.log_file = none)
    (since : Option GTimeVal) : report_events LOCALSTATEDIR dir since = some [] := by
  have hfile : dir.lookup (DEFAULT_LOG_FILENAME LOCALSTATEDIR) = none := by
    rw [hdir.log, hlog]
    rfl
  rw [report_events, process_logs, get_log_file_list_iff.mpr hdir.rotated, Option.map_some,
    Option.map_some, process_files, process_log_file, hfile]
  rfl

/-- The caller has an event without strings. -/
def system_stop_memory : EventLogger.Memory where
  strings := fun _ => none
  events
    | .caller 0 => some ⟨.system_stop, ⟨7, 0⟩⟩
    | _ => none
  next := 0
  strings_fresh := fun _ _ => rfl
  events_fresh := fun _ _ => rfl

def system_stop_log : EventLogger.Files.State :=
  { seat_removed_log with queue := ⟨system_stop_memory, [], .waiting, .running, [], []⟩ }

/-- The record is in the compressed part, and the log is empty. -/
def system_stop_dir : Directory :=
  ((∅ : Directory).insert (cstr "/var/log/ConsoleKit/history") ⟨[], true⟩).insert
    (cstr "/var/log/ConsoleKit/history.1.gz") ⟨cstr "7.000 type=SYSTEM_STOP : \n", true⟩

end History
