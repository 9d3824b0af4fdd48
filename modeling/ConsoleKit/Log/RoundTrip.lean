import ConsoleKit.Log.Header

/-! # Which events survive the log

    An event is written by `ck_log_event_to_string` and read back by
    `ck_log_event_fill_from_string`.  The parsers do not take everything
    that the writers write, and two of them ask for a group that their
    pattern does not have.

    This module provides:
    - `RoundTrip`: the event that is read back is the one that was written,
    - `Recoverable`: the events that the parsers take, and `Faithful`, where
      fields may hold quotes,
    - `roundTrip_iff_faithful` and `log_round_trip`: they are the ones that
      come back.
-/

namespace Log

open Libc Regex

/-! ## Section 1: The law -/

/-- A string field that is read back: the same one, or the empty text for NULL. -/
def SameString (orig new : Option CString) : Prop := new = orig ∨ (orig = none ∧ new = some [])

/-- The data that is read back: the same type, with all fields the same. -/
def SameData : CkLogEventData → CkLogEventData → Prop
  | .system_start e, .system_start e' =>
      SameString e.kernel_release e'.kernel_release ∧ SameString e.boot_arguments e'.boot_arguments
  | .seat_added e, .seat_added e' | .seat_removed e, .seat_removed e' =>
      SameString e.seat_id e'.seat_id ∧ e'.seat_kind = e.seat_kind
  | .seat_session_added e, .seat_session_added e'
  | .seat_session_removed e, .seat_session_removed e' =>
      SameString e.seat_id e'.seat_id ∧ SameString e.session_id e'.session_id ∧
      SameString e.session_type e'.session_type ∧
      SameString e.session_x11_display e'.session_x11_display ∧
      SameString e.session_x11_display_device e'.session_x11_display_device ∧
      SameString e.session_display_device e'.session_display_device ∧
      SameString e.session_remote_host_name e'.session_remote_host_name ∧
      e'.session_is_local = e.session_is_local ∧ e'.session_unix_user = e.session_unix_user ∧
      SameString e.session_creation_time e'.session_creation_time
  | .seat_device_added e, .seat_device_added e'
  | .seat_device_removed e, .seat_device_removed e' =>
      SameString e.seat_id e'.seat_id ∧ SameString e.device_type e'.device_type ∧
      SameString e.device_id e'.device_id
  | .seat_active_session_changed e, .seat_active_session_changed e' =>
      SameString e.seat_id e'.seat_id ∧ SameString e.session_id e'.session_id
  | d, d' => d' = d

/-- The time is printed to the millisecond. -/
def SameTime (orig new : GTimeVal) : Prop :=
  new.tv_sec = orig.tv_sec ∧ new.tv_usec = orig.tv_usec / 1000 * 1000

def RoundTrip (e : CkLogEvent) : Prop :=
  ∃ s e', ck_log_event_to_string e = some s ∧ ck_log_event_fill_from_string s = some e' ∧
    SameData e.event e'.event ∧ SameTime e.timestamp e'.timestamp

/-- The string fields of an event. -/
def CkLogEventData.strings : CkLogEventData → List (Option CString)
  | .system_start e => [e.kernel_release, e.boot_arguments]
  | .seat_added e | .seat_removed e => [e.seat_id]
  | .seat_session_added e | .seat_session_removed e =>
      [e.seat_id, e.session_id, e.session_type, e.session_x11_display,
        e.session_x11_display_device, e.session_display_device, e.session_remote_host_name,
        e.session_creation_time]
  | .seat_device_added e | .seat_device_removed e => [e.seat_id, e.device_type, e.device_id]
  | .seat_active_session_changed e => [e.seat_id, e.session_id]
  | _ => []

/-- No string field of the event holds a single quote or a newline. -/
def CkLogEventData.Plain (d : CkLogEventData) : Prop :=
  ∀ s, some s ∈ d.strings → '\'' ∉ s ∧ '\n' ∉ s

/-- The text of an identifier that the groups `[a-zA-Z0-9/]+` take. -/
def IsId (s : Option CString) : Prop := or_empty s ≠ [] ∧ ∀ c ∈ or_empty s, id_char c = true

/-- The seat events: `seatkind` is not a group of their pattern. -/
def SeatRecoverable (e : CkLogSeatAddedEvent) : Prop := IsId e.seat_id ∧ e.seat_kind = 0

/-- The session events: `sessionremotehostname` is not a group of their pattern. -/
def SessionRecoverable (e : CkLogSeatSessionAddedEvent) : Prop :=
  IsId e.seat_id ∧ IsId e.session_id ∧
  (∀ c ∈ or_empty e.session_type, type_char c = true) ∧
  (∀ c ∈ or_empty e.session_x11_display, display_char c = true) ∧
  e.session_remote_host_name = none

def DeviceRecoverable (e : CkLogSeatDeviceAddedEvent) : Prop :=
  IsId e.seat_id ∧ or_empty e.device_id ≠ [] ∧ or_empty e.device_type ≠ []

/-- The events whose fields the parsers take. -/
def Recoverable : CkLogEventData → Prop
  | .system_stop | .system_restart => True
  -- without a kernel release the pattern matches the empty text
  | .system_start e => or_empty e.boot_arguments = [] ∨
      (or_empty e.kernel_release ≠ [] ∧ ∀ c ∈ or_empty e.boot_arguments, dot c = true)
  | .seat_added e | .seat_removed e => SeatRecoverable e
  | .seat_session_added e | .seat_session_removed e => SessionRecoverable e
  | .seat_device_added e | .seat_device_removed e => DeviceRecoverable e
  | .seat_active_session_changed e =>
      IsId e.seat_id ∧ ∀ c ∈ or_empty e.session_id, id_char c = true
  | _ => False

/-- The string fields that are read by a group of anything but quotes. -/
def CkLogEventData.quoted : CkLogEventData → List (Option CString)
  | .system_start e => [e.kernel_release]
  | .seat_session_added e | .seat_session_removed e =>
      [e.session_x11_display_device, e.session_display_device, e.session_creation_time]
  | .seat_device_added e | .seat_device_removed e => [e.device_id, e.device_type]
  | _ => []

/-- The events that the parsers take, also if a field holds a quote. -/
def Faithful (d : CkLogEventData) : Prop :=
  Recoverable d ∧ ∀ s ∈ d.quoted, ∀ c ∈ or_empty s, not_quote c = true

/-! ## Section 2: Lemmas about strings -/

theorem sameString_some (o : Option CString) (v : CString) :
    SameString o (some v) ↔ or_empty o = v := by
  cases o with
  | none => simp [SameString, or_empty, eq_comm]
  | some s => simp [SameString, or_empty, eq_comm]

/-- A string field that is filled from a group. -/
theorem sameString_iff {o new : Option CString} {v : CString} (h : new = some v) :
    SameString o new ↔ or_empty o = v := h ▸ sameString_some o v

theorem sameString_none (o : Option CString) : SameString o none ↔ o = none := by
  cases o <;> simp [SameString]

/-- The text of a field of a plain event is free of quotes. -/
theorem CkLogEventData.Plain.not_quote {d : CkLogEventData} (h : d.Plain) {s : Option CString}
    (hs : s ∈ d.strings) : ∀ c ∈ or_empty s, not_quote c = true := by
  rintro c hc
  cases s with
  | none => cases hc
  | some s =>
    have hquote := (h s hs).1
    simp only [Log.not_quote, decide_eq_true_eq]
    rintro rfl
    exact hquote hc

theorem parse_value_as_ulong_percent_u {n : Nat} (h : n < 2 ^ 64) :
    parse_value_as_ulong (percent_u n) = some n := by
  have hread := strtoul_digits [] (percent_u_ne_nil n) (percent_u_isDigit n)
    (by simp) (by rw [ofDigitChars_percent_u]; exact h)
  rw [List.append_nil, ofDigitChars_percent_u] at hread
  unfold parse_value_as_ulong
  rw [hread]
  simp [percent_u_ne_nil]

/-- The event is read back when its type has a name and its data is read back. -/
theorem roundTrip_iff (e : CkLogEvent) (husec : e.timestamp.tv_usec < 1000000) {text : CString}
    (htext : add_log_for_data e.event = some text) :
    RoundTrip e ↔ e.event.type.named = true ∧
      ∃ d, parse_log_for_data (add_log_for_any e.timestamp e.event.type ++ text) e.event.type =
        some d ∧ SameData e.event d := by
  have hwrite : ck_log_event_to_string e =
      some (add_log_for_any e.timestamp e.event.type ++ text) := by
    rw [ck_log_event_to_string, htext]
    rfl
  have hread : ck_log_event_fill_from_string
      (add_log_for_any e.timestamp e.event.type ++ text) =
      if e.event.type.named then
        (parse_log_for_data (add_log_for_any e.timestamp e.event.type ++ text) e.event.type).map
          fun d => ⟨d, ⟨e.timestamp.tv_sec, e.timestamp.tv_usec / 1000 * 1000⟩⟩
      else none := by
    unfold ck_log_event_fill_from_string
    rw [parse_log_for_any_header e.timestamp husec e.event.type text]
    split
    · rw [Option.map_eq_bind]
      rfl
    · rfl
  constructor
  · rintro ⟨s, e', hs, he', hdata, -⟩
    obtain rfl := Option.some.inj (hwrite.symm.trans hs)
    rw [hread] at he'
    split at he'
    · rename_i hnamed
      obtain ⟨d, hd, rfl⟩ := Option.map_eq_some_iff.mp he'
      exact ⟨hnamed, d, hd, hdata⟩
    · cases he'
  · rintro ⟨hnamed, d, hd, hdata⟩
    rw [if_pos hnamed, hd] at hread
    exact ⟨_, _, hwrite, hread, hdata, rfl, rfl⟩

/-! ## Section 3: The parsers -/

/-- The end of the patterns whose last value is quoted. -/
def quote_end : Regex := .seq (.lit (cstr "'")) (.lit [])

theorem first_quote_end : First quote_end (cstr "'") ⟨[], cstr "'", []⟩ :=
  (First.lit (cstr "'") []).seq (First.lit [] [])

theorem isId_iff (s : Option CString) (f : Field) (hp : f.p = id_char) (hmin : f.min = 1) :
    IsId s ↔ f.Accepts (or_empty s) := by
  rw [IsId, Field.Accepts, hp, hmin, Nat.one_le_iff_ne_zero, Ne, Ne, List.length_eq_zero_iff]
  exact and_comm

def seat_fields : List Field :=
  [⟨cstr "seat-id='", "seatid", 1, id_char⟩, ⟨cstr "' seat-kind=", "sessionid", 0, Char.isDigit⟩]

def seat_record (e : CkLogSeatAddedEvent) : List (Field × CString) :=
  seat_fields.zip [percent_s e.seat_id, percent_d e.seat_kind]

theorem seat_regex_fields : seat_regex = Regex.fields seat_fields (.lit []) := rfl

theorem add_log_for_seat_record (e : CkLogSeatAddedEvent) :
    add_log_for_seat_added e = record (seat_record e) [] := by
  simp [add_log_for_seat_added, seat_record, seat_fields, record]

/-- No group has the name that is asked for, so the kind stays as it was. -/
theorem parse_seat_eq {str s : CString} (hskip : skip_header str = some s)
    (e : CkLogSeatAddedEvent) :
    parse_seat str e = (seat_regex.search s).map fun groups =>
      { e with seat_id := seat_regex.fetchNamed groups "seatid" } := by
  have hkind : ∀ groups, seat_regex.fetchNamed groups "seatkind" = none :=
    fetchNamed_none (by decide)
  unfold parse_seat
  rw [hskip, Option.map_eq_bind]
  simp only [hkind]
  rfl

theorem parse_seat_iff (e : CkLogSeatAddedEvent) {str : CString}
    (hskip : skip_header str = some (add_log_for_seat_added e)) :
    (∃ e', parse_seat str zeroed_seat = some e' ∧
      SameString e.seat_id e'.seat_id ∧ e'.seat_kind = e.seat_kind) ↔ SeatRecoverable e := by
  rw [parse_seat_eq hskip, add_log_for_seat_record]
  constructor
  · rintro ⟨e', he', hid, hkind⟩
    obtain ⟨groups, hgroups, rfl⟩ := Option.map_eq_some_iff.mp he'
    obtain ⟨value, hvalue, haccepts⟩ := search_field seat_fields hgroups (by decide) _
      List.mem_cons_self
    exact ⟨(isId_iff _ _ rfl rfl).mpr ((sameString_iff hvalue).mp hid ▸ haccepts), hkind.symm⟩
  · rintro ⟨hid, hkind⟩
    have hseat : percent_s e.seat_id = or_empty e.seat_id := by
      cases hs : e.seat_id with
      | none => exact absurd (by rw [hs]; rfl) hid.1
      | some s => rfl
    obtain ⟨groups, hgroups, hfetch⟩ := search_record seat_fields (seat_record e) (First.lit [] [])
      (by decide) rfl
      (by
        intro x hx
        rcases List.mem_cons.mp hx with rfl | hx
        · rw [hseat]
          exact (isId_iff _ _ rfl rfl).mp hid
        · obtain rfl := List.mem_singleton.mp hx
          rw [hkind]
          exact ⟨List.all_eq_true.mp rfl, Nat.zero_le _⟩)
      (by simp [Delimited, seat_record, seat_fields, record, cstr, id_char])
    rw [List.append_nil, ← seat_regex_fields] at hgroups
    rw [hgroups]
    exact ⟨_, rfl, (sameString_iff (hfetch _ List.mem_cons_self)).mpr hseat.symm, hkind.symm⟩

/-! ### The device events -/

def device_fields : List Field :=
  [⟨cstr "seat-id='", "seatid", 1, id_char⟩, ⟨cstr "' device-id='", "deviceid", 1, not_quote⟩,
    ⟨cstr "' device-type='", "devicetype", 1, not_quote⟩]

def device_record (e : CkLogSeatDeviceAddedEvent) : List (Field × CString) :=
  device_fields.zip [or_empty e.seat_id, or_empty e.device_id, or_empty e.device_type]

theorem device_regex_fields : device_regex = Regex.fields device_fields quote_end := rfl

theorem device_text_record (e : CkLogSeatDeviceAddedEvent) :
    device_text e = record (device_record e) (cstr "'") := by
  simp [device_text, device_record, device_fields, record]

theorem parse_device_eq {str s : CString} (hskip : skip_header str = some s) :
    parse_device str = (device_regex.search s).map fun groups =>
      ⟨device_regex.fetchNamed groups "seatid", device_regex.fetchNamed groups "devicetype",
        device_regex.fetchNamed groups "deviceid"⟩ := by
  unfold parse_device
  rw [hskip, Option.map_eq_bind]
  rfl

theorem parse_device_iff (e : CkLogSeatDeviceAddedEvent) {str : CString}
    (hskip : skip_header str = some (device_text e)) :
    (∃ e', parse_device str = some e' ∧ SameString e.seat_id e'.seat_id ∧
      SameString e.device_type e'.device_type ∧ SameString e.device_id e'.device_id) ↔
      Faithful (.seat_device_added e) := by
  rw [parse_device_eq hskip, device_text_record]
  constructor
  · rintro ⟨e', he', hseat, htype, hid⟩
    obtain ⟨groups, hgroups, rfl⟩ := Option.map_eq_some_iff.mp he'
    have hfield := search_field device_fields hgroups (by decide)
    simp only [device_fields, List.forall_mem_cons] at hfield
    obtain ⟨⟨seat, hseat', hacc⟩, ⟨device, hid', hall, hmin⟩, ⟨type, htype', hall', hmin'⟩, -⟩ :=
      hfield
    have hs := (sameString_iff hseat').mp hseat
    have hd := (sameString_iff hid').mp hid
    have ht := (sameString_iff htype').mp htype
    refine ⟨⟨(isId_iff _ _ rfl rfl).mpr (hs ▸ hacc), ?_, ?_⟩, ?_⟩
    · rw [hd]
      exact List.ne_nil_of_length_pos hmin
    · rw [ht]
      exact List.ne_nil_of_length_pos hmin'
    · simp only [CkLogEventData.quoted, List.forall_mem_cons]
      exact ⟨hd ▸ hall, ht ▸ hall', by simp⟩
  · rintro ⟨⟨hseat, hdevice, hdtype⟩, hquoted⟩
    simp only [CkLogEventData.quoted, List.forall_mem_cons] at hquoted
    obtain ⟨hid, htype, -⟩ := hquoted
    obtain ⟨groups, hgroups, hfetch⟩ := search_record device_fields (device_record e)
      first_quote_end (by decide) rfl
      (by
        simp only [device_record, device_fields, List.zip_cons_cons, List.zip_nil_left,
          List.forall_mem_cons]
        exact ⟨(isId_iff _ _ rfl rfl).mp hseat, ⟨hid, List.length_pos_of_ne_nil hdevice⟩,
          ⟨htype, List.length_pos_of_ne_nil hdtype⟩, by simp⟩)
      (by simp [Delimited, device_record, device_fields, record, cstr, id_char, not_quote])
    simp only [device_record, device_fields, List.zip_cons_cons, List.zip_nil_left,
      List.forall_mem_cons] at hfetch
    obtain ⟨hs, hd, ht, -⟩ := hfetch
    rw [← device_regex_fields] at hgroups
    rw [hgroups]
    exact ⟨_, rfl, (sameString_iff hs).mpr rfl, (sameString_iff ht).mpr rfl,
      (sameString_iff hd).mpr rfl⟩

/-! ### The change of the active session -/

def active_session_fields : List Field :=
  [⟨cstr "seat-id='", "seatid", 1, id_char⟩, ⟨cstr "' session-id='", "sessionid", 0, id_char⟩]

def active_session_record (e : CkLogSeatActiveSessionChangedEvent) : List (Field × CString) :=
  active_session_fields.zip [or_empty e.seat_id, or_empty e.session_id]

theorem active_session_regex_fields :
    active_session_regex = Regex.fields active_session_fields quote_end := rfl

theorem add_log_for_active_session_record (e : CkLogSeatActiveSessionChangedEvent) :
    add_log_for_seat_active_session_changed e =
      record (active_session_record e) (cstr "'") := by
  simp [add_log_for_seat_active_session_changed, active_session_record, active_session_fields,
    record]

theorem parse_active_session_eq {str s : CString} (hskip : skip_header str = some s) :
    parse_log_for_seat_active_session_changed str =
      (active_session_regex.search s).map fun groups =>
        ⟨active_session_regex.fetchNamed groups "seatid",
          active_session_regex.fetchNamed groups "sessionid"⟩ := by
  unfold parse_log_for_seat_active_session_changed
  rw [hskip, Option.map_eq_bind]
  rfl

theorem parse_active_session_iff (e : CkLogSeatActiveSessionChangedEvent) {str : CString}
    (hskip : skip_header str = some (add_log_for_seat_active_session_changed e)) :
    (∃ e', parse_log_for_seat_active_session_changed str = some e' ∧
      SameString e.seat_id e'.seat_id ∧ SameString e.session_id e'.session_id) ↔
      IsId e.seat_id ∧ ∀ c ∈ or_empty e.session_id, id_char c = true := by
  rw [parse_active_session_eq hskip, add_log_for_active_session_record]
  constructor
  · rintro ⟨e', he', hseat, hsession⟩
    obtain ⟨groups, hgroups, rfl⟩ := Option.map_eq_some_iff.mp he'
    have hfield := search_field active_session_fields hgroups (by decide)
    simp only [active_session_fields, List.forall_mem_cons] at hfield
    obtain ⟨⟨seat, hseat', hacc⟩, ⟨session, hsession', hall, -⟩, -⟩ := hfield
    have hs := (sameString_iff hseat').mp hseat
    have hss := (sameString_iff hsession').mp hsession
    exact ⟨(isId_iff _ _ rfl rfl).mpr (hs ▸ hacc), hss ▸ hall⟩
  · rintro ⟨hseat, hsession⟩
    obtain ⟨groups, hgroups, hfetch⟩ := search_record active_session_fields
      (active_session_record e) first_quote_end (by decide) rfl
      (by
        simp only [active_session_record, active_session_fields, List.zip_cons_cons,
          List.zip_nil_left, List.forall_mem_cons]
        exact ⟨(isId_iff _ _ rfl rfl).mp hseat, ⟨hsession, Nat.zero_le _⟩, by simp⟩)
      (by simp [Delimited, active_session_record, active_session_fields, record, cstr, id_char])
    simp only [active_session_record, active_session_fields, List.zip_cons_cons,
      List.zip_nil_left, List.forall_mem_cons] at hfetch
    obtain ⟨hs, hss, -⟩ := hfetch
    rw [← active_session_regex_fields] at hgroups
    rw [hgroups]
    exact ⟨_, rfl, (sameString_iff hs).mpr rfl, (sameString_iff hss).mpr rfl⟩

/-! ### The session events -/

def session_fields : List Field :=
  [⟨cstr "seat-id='", "seatid", 1, id_char⟩,
    ⟨cstr "' session-id='", "sessionid", 1, id_char⟩,
    ⟨cstr "' session-type='", "sessiontype", 0, type_char⟩,
    ⟨cstr "' session-x11-display='", "sessionx11display", 0, display_char⟩,
    ⟨cstr "' session-x11-display-device='", "sessionx11displaydevice", 0, not_quote⟩,
    ⟨cstr "' session-display-device='", "sessiondisplaydevice", 0, not_quote⟩,
    ⟨cstr "' session-remote-host-name='", "sessionremovehostname", 0, not_quote⟩,
    ⟨cstr "' session-is-local=", "sessionislocal", 0, Char.isAlpha⟩,
    ⟨cstr " session-unix-user=", "sessionunixuser", 0, Char.isDigit⟩,
    ⟨cstr " session-creation-time='", "sessioncreationtime", 0, not_quote⟩]

/-- How a flag is printed. -/
def is_local_text (is_local : Bool) : CString :=
  if is_local then cstr "TRUE" else cstr "FALSE"

def session_record (e : CkLogSeatSessionAddedEvent) : List (Field × CString) :=
  session_fields.zip
    [or_empty e.seat_id, or_empty e.session_id, or_empty e.session_type,
      or_empty e.session_x11_display, or_empty e.session_x11_display_device,
      or_empty e.session_display_device, or_empty e.session_remote_host_name,
      is_local_text e.session_is_local, percent_u e.session_unix_user.toNat,
      or_empty e.session_creation_time]

theorem session_regex_fields : session_regex = Regex.fields session_fields quote_end := rfl

theorem session_text_record (e : CkLogSeatSessionAddedEvent) :
    session_text e = record (session_record e) (cstr "'") := by
  simp [session_text, session_record, session_fields, record, is_local_text]

/-- No group has the name that is asked for, so the host comes back as NULL. -/
theorem parse_session_eq {str s : CString} (hskip : skip_header str = some s)
    (e : CkLogSeatSessionAddedEvent) :
    parse_session str e = (session_regex.search s).map fun groups =>
      let fetch := session_regex.fetchNamed groups
      { seat_id := fetch "seatid"
        session_id := fetch "sessionid"
        session_type := fetch "sessiontype"
        session_x11_display := fetch "sessionx11display"
        session_x11_display_device := fetch "sessionx11displaydevice"
        session_display_device := fetch "sessiondisplaydevice"
        session_remote_host_name := none
        session_is_local := fetch "sessionislocal" = some (cstr "TRUE")
        session_unix_user := (((fetch "sessionunixuser").bind parse_value_as_ulong).map
          UInt32.ofNat).getD e.session_unix_user
        session_creation_time := fetch "sessioncreationtime" } := by
  have hhost : ∀ groups, session_regex.fetchNamed groups "sessionremotehostname" = none :=
    fetchNamed_none (by decide)
  unfold parse_session
  rw [hskip, Option.map_eq_bind]
  simp only [hhost, Option.bind_eq_bind, Option.bind_some]
  congr 1
  funext groups
  rw [Function.comp_apply]
  cases (session_regex.fetchNamed groups "sessionunixuser").bind parse_value_as_ulong <;> rfl

theorem is_local_text_accepted (is_local : Bool) :
    ∀ c ∈ is_local_text is_local, c.isAlpha = true := by
  cases is_local <;> exact List.all_eq_true.mp rfl

theorem session_record_delimited (e : CkLogSeatSessionAddedEvent) :
    Delimited (session_record e) (cstr "'") := by
  simp only [Delimited, session_record, session_fields, List.zip_cons_cons, List.zip_nil_left,
    record, cstr, and_true]
  refine ⟨?_, ?_, ?_, ?_, ?_, ?_, ?_, ?_, ?_, ?_⟩ <;> rintro c hc <;> cases hc <;> decide

theorem parse_session_iff (e : CkLogSeatSessionAddedEvent) {str : CString}
    (hskip : skip_header str = some (session_text e)) :
    (∃ e', parse_session str zeroed_session = some e' ∧
      SameData (.seat_session_added e) (.seat_session_added e')) ↔
      Faithful (.seat_session_added e) := by
  rw [parse_session_eq hskip, session_text_record]
  constructor
  · rintro ⟨e', he', hseat, hsession, htype, hdisplay, hx11, hdevice, hremote, -, -, hcreation⟩
    obtain ⟨groups, hgroups, rfl⟩ := Option.map_eq_some_iff.mp he'
    -- What is found of a field is accepted by its pattern, and so is what was
    -- written.
    have hfield := search_field session_fields hgroups (by decide)
    simp only [session_fields, List.forall_mem_cons] at hfield
    obtain ⟨⟨_, hseat', hseat_acc⟩, ⟨_, hsession', hsession_acc⟩, ⟨_, htype', htype_all, -⟩,
      ⟨_, hdisplay', hdisplay_all, -⟩, ⟨_, hx11', hx11_all, -⟩, ⟨_, hdevice', hdevice_all, -⟩,
      -, -, -, ⟨_, hcreation', hcreation_all, -⟩, -⟩ := hfield
    have hs := (sameString_iff hseat').mp hseat
    have hss := (sameString_iff hsession').mp hsession
    have ht := (sameString_iff htype').mp htype
    have hd := (sameString_iff hdisplay').mp hdisplay
    refine ⟨⟨(isId_iff _ _ rfl rfl).mpr (hs ▸ hseat_acc),
      (isId_iff _ _ rfl rfl).mpr (hss ▸ hsession_acc), ht ▸ htype_all, hd ▸ hdisplay_all,
      (sameString_none _).mp hremote⟩, ?_⟩
    simp only [CkLogEventData.quoted, List.forall_mem_cons]
    exact ⟨(sameString_iff hx11').mp hx11 ▸ hx11_all,
      (sameString_iff hdevice').mp hdevice ▸ hdevice_all,
      (sameString_iff hcreation').mp hcreation ▸ hcreation_all, by simp⟩
  · rintro ⟨⟨hseat, hsession, htype, hdisplay, hremote⟩, hquoted⟩
    simp only [CkLogEventData.quoted, List.forall_mem_cons] at hquoted
    obtain ⟨hx11_device, hdevice, hcreation, -⟩ := hquoted
    -- The fields of the text are those of the pattern, one by one.
    have hhost : ∀ c ∈ or_empty e.session_remote_host_name, not_quote c = true := by
      rw [hremote]
      simp [or_empty]
    obtain ⟨groups, hgroups, hfetch⟩ := search_record session_fields (session_record e)
      first_quote_end (by decide) rfl
      (by
        simp only [session_record, session_fields, List.zip_cons_cons, List.zip_nil_left,
          List.forall_mem_cons]
        exact ⟨(isId_iff _ _ rfl rfl).mp hseat, (isId_iff _ _ rfl rfl).mp hsession,
          ⟨htype, Nat.zero_le _⟩, ⟨hdisplay, Nat.zero_le _⟩, ⟨hx11_device, Nat.zero_le _⟩,
          ⟨hdevice, Nat.zero_le _⟩, ⟨hhost, Nat.zero_le _⟩,
          ⟨is_local_text_accepted _, Nat.zero_le _⟩, ⟨percent_u_isDigit _, Nat.zero_le _⟩,
          ⟨hcreation, Nat.zero_le _⟩, by simp⟩)
      (session_record_delimited e)
    simp only [session_record, session_fields, List.zip_cons_cons, List.zip_nil_left,
      List.forall_mem_cons] at hfetch
    obtain ⟨hf_seat, hf_session, hf_type, hf_x11, hf_x11_device, hf_device, -, hf_local, hf_user,
      hf_creation, -⟩ := hfetch
    rw [← session_regex_fields] at hgroups
    rw [hgroups]
    refine ⟨_, rfl, (sameString_iff hf_seat).mpr rfl, (sameString_iff hf_session).mpr rfl,
      (sameString_iff hf_type).mpr rfl, (sameString_iff hf_x11).mpr rfl,
      (sameString_iff hf_x11_device).mpr rfl, (sameString_iff hf_device).mpr rfl,
      (sameString_none _).mpr hremote, ?_, ?_, (sameString_iff hf_creation).mpr rfl⟩
    · have hlocal : session_regex.fetchNamed groups "sessionislocal" =
          some (is_local_text e.session_is_local) := hf_local
      simp only [hlocal]
      cases e.session_is_local <;> decide
    · have huser : session_regex.fetchNamed groups "sessionunixuser" =
          some (percent_u e.session_unix_user.toNat) := hf_user
      have hlt : e.session_unix_user.toNat < 2 ^ 64 :=
        Nat.lt_trans (UInt32.toNat_lt _) (by decide)
      simp [huser, parse_value_as_ulong_percent_u hlt]

/-! ### The start of the system -/

/-- The three options of the pattern. -/
def release_part : Regex :=
  .cat [.lit (cstr "kernel-release='"), .capture "release" 1 not_quote, .lit (cstr "'")]

def arguments_part : Regex :=
  .cat [.lit (cstr "boot-arguments='"), .capture "arguments" 0 dot, .lit (cstr "'")]

theorem system_start_regex_parts :
    system_start_regex = .seq (.opt release_part)
      (.seq (.opt (.lit (cstr " "))) (.seq (.opt arguments_part) (.lit []))) := rfl

theorem parse_system_start_eq {str s : CString} (hskip : skip_header str = some s) :
    parse_log_for_system_start str = (system_start_regex.search s).map fun groups =>
      ⟨system_start_regex.fetchNamed groups "release",
        system_start_regex.fetchNamed groups "arguments"⟩ := by
  unfold parse_log_for_system_start
  rw [hskip, Option.map_eq_bind]
  rfl

/-- The group of the release never holds a quote, and that of the arguments
    never a line end. -/
theorem system_start_groups {s : CString} {groups : Captures}
    (h : system_start_regex.search s = some groups) :
    (∃ v, system_start_regex.fetchNamed groups "release" = some v ∧
      ∀ c ∈ v, not_quote c = true) ∧
    ∃ v, system_start_regex.fetchNamed groups "arguments" = some v ∧ ∀ c ∈ v, dot c = true := by
  obtain ⟨w, hw⟩ := search_denotes h
  obtain ⟨_, _, g, _, -, rfl, hrelease, _, _, _, _, -, rfl, hspace, _, _, g', _, -, rfl,
    harguments, -, rfl⟩ := hw
  have hg : g = [] ∨ ∃ v, g = [("release", v)] ∧ ∀ c ∈ v, not_quote c = true := by
    rcases hrelease with h | ⟨-, rfl⟩
    · obtain ⟨_, _, _, _, -, rfl, ⟨-, rfl⟩, _, _, _, _, -, rfl, ⟨_, ⟨hall, -, rfl⟩, rfl⟩,
        _, _, _, _, -, rfl, ⟨-, rfl⟩, -, rfl⟩ := h
      exact .inr ⟨_, rfl, hall⟩
    · exact .inl rfl
  have hg' : g' = [] ∨ ∃ v, g' = [("arguments", v)] ∧ ∀ c ∈ v, dot c = true := by
    rcases harguments with h | ⟨-, rfl⟩
    · obtain ⟨_, _, _, _, -, rfl, ⟨-, rfl⟩, _, _, _, _, -, rfl, ⟨_, ⟨hall, -, rfl⟩, rfl⟩,
        _, _, _, _, -, rfl, ⟨-, rfl⟩, -, rfl⟩ := h
      exact .inr ⟨_, rfl, hall⟩
    · exact .inl rfl
  have hspace' : ∀ w g, Denotes (.opt (.lit (cstr " "))) w g → g = [] := by
    rintro w g (⟨-, rfl⟩ | ⟨-, rfl⟩) <;> rfl
  rw [hspace' _ _ hspace]
  constructor
  · rcases hg with rfl | ⟨v, rfl, hall⟩
    · refine ⟨[], ?_, by simp⟩
      rcases hg' with rfl | ⟨v, rfl, -⟩ <;> rfl
    · refine ⟨v, ?_, hall⟩
      rcases hg' with rfl | ⟨v', rfl, -⟩ <;> rfl
  · rcases hg' with rfl | ⟨v, rfl, hall⟩
    · refine ⟨[], ?_, by simp⟩
      rcases hg with rfl | ⟨v, rfl, -⟩ <;> rfl
    · refine ⟨v, ?_, hall⟩
      rcases hg with rfl | ⟨v', rfl, -⟩ <;> rfl

/-- Without a kernel release the pattern matches the empty text. -/
theorem search_without_release (args : CString) :
    system_start_regex.search
      (add_log_for_system_start ⟨some [], some args⟩) = some [] := by
  have hrelease : ∀ s, results release_part (cstr "kernel-release='" ++ '\'' :: s) = [] := by
    intro s
    simp [release_part, cat, capture, results, splits, not_quote]
  have hspace : ∀ s, results (.lit (cstr " ")) (cstr "kernel-release='" ++ s) = [] := by
    intro s
    simp [results, cstr, List.isPrefixOf]
  have harguments : ∀ s, results arguments_part (cstr "kernel-release='" ++ s) = [] := by
    intro s
    simp [arguments_part, cat, capture, results, cstr, List.isPrefixOf]
  rw [system_start_regex_parts]
  exact ((First.opt_none (hrelease _)).seq ((First.opt_none (hspace _)).seq
    ((First.opt_none (harguments _)).seq (First.lit [] _)))).search

theorem search_with_release {release args : CString} (hne : release ≠ [])
    (hrelease : ∀ c ∈ release, not_quote c = true) (hargs : ∀ c ∈ args, dot c = true) :
    system_start_regex.search (add_log_for_system_start ⟨some release, some args⟩) =
      some [("release", release), ("arguments", args)] := by
  have h₁ : ∀ s, First release_part
      (cstr "kernel-release='" ++ (release ++ (cstr "'" ++ s)))
      ⟨[("release", release)], _, s⟩ := fun s =>
    (First.lit (cstr "kernel-release='") _).seq
      ((First.group "release" (First.many release (cstr "'" ++ s) hrelease
        (List.length_pos_of_ne_nil hne) (by rintro c hc; cases hc; decide))).seq
          ((First.lit (cstr "'") s).seq (First.lit [] s)))
  have h₂ : First arguments_part (cstr "boot-arguments='" ++ (args ++ cstr "'"))
      ⟨[("arguments", args)], _, []⟩ :=
    (First.lit (cstr "boot-arguments='") _).seq
      (First.capture_delimiter "arguments" args '\'' hargs (by decide))
  rw [system_start_regex_parts]
  exact ((h₁ _).opt.seq ((First.lit (cstr " ") _).opt.seq
    (h₂.opt.seq (First.lit [] [])))).search

theorem parse_system_start_iff (e : CkLogSystemStartEvent) {str : CString}
    (hskip : skip_header str = some (add_log_for_system_start e)) :
    (∃ e', parse_log_for_system_start str = some e' ∧
      SameString e.kernel_release e'.kernel_release ∧
      SameString e.boot_arguments e'.boot_arguments) ↔ Faithful (.system_start e) := by
  have htext : add_log_for_system_start e = add_log_for_system_start
      ⟨some (or_empty e.kernel_release), some (or_empty e.boot_arguments)⟩ := rfl
  simp only [Faithful, Recoverable, CkLogEventData.quoted, List.forall_mem_singleton]
  rw [parse_system_start_eq hskip, htext]
  by_cases hne : or_empty e.kernel_release = []
  · rw [hne, search_without_release]
    constructor
    · rintro ⟨e', he', -, hargs⟩
      cases he'
      exact ⟨.inl ((sameString_iff rfl).mp hargs), by simp⟩
    · rintro ⟨hargs | ⟨h, -⟩, -⟩
      · exact ⟨_, rfl, (sameString_iff rfl).mpr hne, (sameString_iff rfl).mpr hargs⟩
      · exact absurd rfl h
  · constructor
    · rintro ⟨e', he', hrelease, hargs⟩
      obtain ⟨groups, hgroups, rfl⟩ := Option.map_eq_some_iff.mp he'
      obtain ⟨⟨r, hr, hr_all⟩, v, hv, hv_all⟩ := system_start_groups hgroups
      exact ⟨.inr ⟨hne, (sameString_iff hv).mp hargs ▸ hv_all⟩,
        (sameString_iff hr).mp hrelease ▸ hr_all⟩
    · rintro ⟨h, hquoted⟩
      have hdot : ∀ c ∈ or_empty e.boot_arguments, dot c = true := by
        rcases h with h | ⟨-, h⟩
        · simp [h]
        · exact h
      rw [search_with_release hne hquoted hdot]
      exact ⟨_, rfl, (sameString_iff rfl).mpr rfl, (sameString_iff rfl).mpr rfl⟩

/-! ## Section 4: The round trip -/

theorem exists_map_iff {α β : Type} {o : Option α} {f : α → β} {P : β → Prop} :
    (∃ b, o.map f = some b ∧ P b) ↔ ∃ a, o = some a ∧ P (f a) := by
  simp [Option.map_eq_some_iff]

/-- The events that the writer does not know are not written. -/
theorem not_roundTrip_of_none {e : CkLogEvent} (h : add_log_for_data e.event = none) :
    ¬ RoundTrip e := by
  rintro ⟨s, e', hs, -⟩
  rw [ck_log_event_to_string, h] at hs
  cases hs

/-- An event is read back as it was written exactly when the parsers take it. -/
theorem roundTrip_iff_faithful (e : CkLogEvent) (husec : e.timestamp.tv_usec < 1000000) :
    RoundTrip e ↔ Faithful e.event := by
  obtain ⟨event, timestamp⟩ := e
  cases event with
  | none | start | stop | system_runlevel_changed =>
    exact iff_of_false (not_roundTrip_of_none rfl) And.left
  | system_suspend | system_hibernate =>
    -- the name of these types is UNKNOWN
    rw [roundTrip_iff _ husec rfl]
    exact iff_of_false (fun h => Bool.false_ne_true h.1) And.left
  | system_stop =>
    rw [roundTrip_iff _ husec rfl]
    refine iff_of_true ⟨rfl, .system_stop, ?_, rfl⟩ ⟨trivial, fun s hs => nomatch hs⟩
    simp only [CkLogEventData.type, parse_log_for_data, parse_log_for_system_stop,
      skip_header_any, Option.map_some]
  | system_restart =>
    rw [roundTrip_iff _ husec rfl]
    refine iff_of_true ⟨rfl, .system_restart, ?_, rfl⟩ ⟨trivial, fun s hs => nomatch hs⟩
    simp only [CkLogEventData.type, parse_log_for_data, parse_log_for_system_restart,
      skip_header_any, Option.map_some]
  | system_start e =>
    rw [roundTrip_iff _ husec rfl]
    refine (and_iff_right rfl).trans (exists_map_iff.trans ?_)
    exact parse_system_start_iff e (skip_header_any ..)
  | seat_added e | seat_removed e =>
    rw [roundTrip_iff _ husec rfl]
    refine (and_iff_right rfl).trans (exists_map_iff.trans ?_)
    refine (parse_seat_iff e (skip_header_any ..)).trans (and_iff_left ?_).symm
    exact fun s hs => nomatch hs
  | seat_session_added e | seat_session_removed e =>
    rw [roundTrip_iff _ husec rfl]
    refine (and_iff_right rfl).trans (exists_map_iff.trans ?_)
    exact parse_session_iff e (skip_header_any ..)
  | seat_device_added e | seat_device_removed e =>
    rw [roundTrip_iff _ husec rfl]
    refine (and_iff_right rfl).trans (exists_map_iff.trans ?_)
    exact parse_device_iff e (skip_header_any ..)
  | seat_active_session_changed e =>
    rw [roundTrip_iff _ husec rfl]
    refine (and_iff_right rfl).trans (exists_map_iff.trans ?_)
    refine (parse_active_session_iff e (skip_header_any ..)).trans (and_iff_left ?_).symm
    exact fun s hs => nomatch hs

/-- The fields that are read up to a quote are string fields. -/
theorem quoted_subset (d : CkLogEventData) : d.quoted ⊆ d.strings := by
  cases d <;> simp [CkLogEventData.quoted, CkLogEventData.strings]

/-- **Round trip of the log.**  An event without quotes and newlines is read
    back as it was written exactly when it is recoverable. -/
theorem log_round_trip (e : CkLogEvent) (husec : e.timestamp.tv_usec < 1000000)
    (hplain : e.event.Plain) : RoundTrip e ↔ Recoverable e.event := by
  rw [roundTrip_iff_faithful e husec]
  refine and_iff_left fun s hs => ?_
  exact hplain.not_quote (quoted_subset e.event hs)

/-- A session of `seat0` with a time that is not a whole millisecond. -/
def local_session : CkLogEvent where
  event := .seat_session_added
    { zeroed_session with
      seat_id := some (cstr "Seat1")
      session_id := some (cstr "Session1")
      session_type := some (cstr "x11")
      session_x11_display := some (cstr ":0")
      session_is_local := true
      session_unix_user := 1000 }
  timestamp := ⟨1234567890, 123456⟩

theorem log_round_trip_local_session : RoundTrip local_session :=
  (log_round_trip local_session (by decide) (by
    intro s hs
    simp only [local_session, CkLogEventData.strings, zeroed_session, List.mem_cons,
      Option.some.injEq, reduceCtorEq, List.not_mem_nil, or_false] at hs
    rcases hs with rfl | rfl | rfl | rfl <;> decide)).mpr
    ⟨⟨by decide, List.all_eq_true.mp rfl⟩, ⟨by decide, List.all_eq_true.mp rfl⟩,
      List.all_eq_true.mp rfl, List.all_eq_true.mp rfl, rfl⟩

/-- The kind of a seat is lost: a dynamic seat is read back as a static one. -/
def dynamic_seat : CkLogEvent where
  event := .seat_added { seat_id := some (cstr "Seat1"), seat_kind := 1 }
  timestamp := ⟨1234567890, 0⟩

theorem log_round_trip_fails_seat_kind :
    dynamic_seat.timestamp.tv_usec < 1000000 ∧ dynamic_seat.event.Plain ∧
    ck_log_event_to_string dynamic_seat =
      some (cstr "1234567890.000 type=SEAT_ADDED : seat-id='Seat1' seat-kind=1") ∧
    (ck_log_event_fill_from_string
      (cstr "1234567890.000 type=SEAT_ADDED : seat-id='Seat1' seat-kind=1")).map
      CkLogEvent.event = some (.seat_added { seat_id := some (cstr "Seat1"), seat_kind := 0 }) ∧
    ¬ RoundTrip dynamic_seat := by
  have hwrite : ck_log_event_to_string dynamic_seat =
      some (cstr "1234567890.000 type=SEAT_ADDED : seat-id='Seat1' seat-kind=1") := by decide
  have hread : (ck_log_event_fill_from_string
      (cstr "1234567890.000 type=SEAT_ADDED : seat-id='Seat1' seat-kind=1")).map
      CkLogEvent.event = some (.seat_added { seat_id := some (cstr "Seat1"), seat_kind := 0 }) := by
    decide
  refine ⟨by decide, ?_, hwrite, hread, ?_⟩
  · intro s hs
    obtain rfl : s = cstr "Seat1" := by simpa [dynamic_seat, CkLogEventData.strings] using hs
    decide
  · rintro ⟨s, e', hs, he', hdata, -⟩
    obtain rfl := Option.some.inj (hwrite.symm.trans hs)
    rw [he'] at hread
    rw [Option.some.inj hread] at hdata
    exact absurd hdata.2 (by decide)

end Log
