import ConsoleKit.Leader.Environ
import ConsoleKit.Leader.Merge
import ConsoleKit.Leader.Stat
import ConsoleKit.Log.Forge
import ConsoleKit.Manager.Seat

/-! # The collector

    Model of `ck-collect-session-info`, the program that the leader runs to
    learn about a session.  It looks at the files of the process and asks two
    other programs about the X server, and prints what it has found, one
    property a line.  The leader parses the lines.

    This module provides:
    - `fill_session_info` and the functions that it calls, and
      `print_session_info`,
    - `fill_session_info_spec`: what the properties have to do with each other,
    - `collected_parameters_iff`: when the leader has what was printed.
-/

namespace Leader

open Libc CkManager

/-! ## Section 1: Data -/

structure SessionInfo where
  uid : UInt32
  pid : Int32
  login_session_id : Option CString
  vtnum : UInt32
  display_device : Option CString
  x11_display_device : Option CString
  x11_display : Option CString
  x11_can_connect : Bool
  remote_host_name : Option CString
  is_local : Bool
  is_local_is_set : Bool
  deriving DecidableEq

/-- How a program that is run by `g_spawn_sync` ends: its wait status and
    what it has written. -/
structure Spawned where
  status : Int32
  out : CString

/-- What the collector finds on the machine, and how it is configured. -/
structure Machine where
  /-- The files `/proc/PID/environ`, `/proc/PID/stat` and `/proc/PID/sessionid`. -/
  environ : Int → Option CString
  proc_stat : Int32 → Option CString
  proc_sessionid : Int32 → Option CString
  read_link : CString → Option CString
  st_rdev : CString → Option UInt64
  tty_map : List TtyMapNode
  /-- The two programs, in an environment and for a user; none if they cannot
      be run. -/
  ck_get_x11_server_pid : List CString → UInt32 → Option Spawned
  ck_get_x11_display_device : List CString → UInt32 → Option Spawned
  HAVE_PAM : Bool

/-! ## Section 2: The process -/

/-- `errno` is ERANGE after `strtoul`. -/
def strtoul_erange (s : CString) : Bool :=
  decide (2 ^ 64 ≤ Nat.ofDigitChars 10
    ((sign (s.dropWhile isspace)).2.takeWhile Char.isDigit) 0)

def G_MAXUINT32 : Nat := 2 ^ 32 - 1

def ck_unix_pid_get_login_session_id (proc_sessionid : Int32 → Option CString) (pid : Int32) :
    Option CString :=
  if 1 < pid then do
    let contents := string_at (← proc_sessionid pid) 0
    if contents = [] then none
    else
      let (ulong_value, end_of_valid_ulong) := strtoul contents
      if end_of_valid_ulong ≠ [] then none
      else if strtoul_erange contents then none
      -- will be G_MAXUINT32 if it isn't set
      else if ulong_value = G_MAXUINT32 then none
      else some (percent_u ulong_value)
  else none

def allowed_env_vars : List CString :=
  [cstr "DISPLAY", cstr "XAUTHORITY", cstr "XAUTHLOCALHOSTNAME", cstr "SSH_CLIENT",
    cstr "SSH_CONNECTION", cstr "SSH_TTY", cstr "HOME"]

section
variable (m : Machine)

def get_filtered_environment (pid : Int32) : List CString :=
  let hash := ck_unix_pid_get_env_hash m.environ pid.toInt
  cstr "PATH=/bin:/usr/bin" :: allowed_env_vars.filterMap fun var =>
    (g_hash_table_lookup hash var).map fun val => var ++ '=' :: val

/-- `1 == sscanf (out, "%u %c", &v, &c)`: nothing comes after the number. -/
def scan_pid (out : CString) : Nat :=
  match scan_unsigned 32 out with
  | some (v, rest) => if scan_space rest = [] then v else 0
  | none => 0

/-- `can_connect` and `pid`. -/
def get_x11_server_pid (si : SessionInfo) : Bool × Nat :=
  match m.ck_get_x11_server_pid (get_filtered_environment m si.pid) si.uid with
  | some ⟨0, out⟩ => (true, scan_pid out)
  | _ => (false, 0)

/-- Unlike `isspace` it does not take a vertical tab. -/
def g_ascii_isspace (c : Char) : Bool :=
  c = ' ' || c = '\t' || c = '\n' || c = '\x0c' || c = '\r'

def g_strstrip (s : CString) : CString :=
  ((s.dropWhile g_ascii_isspace).reverse.dropWhile g_ascii_isspace).reverse

/-- The device of the X server.  When it is the terminal of the process
    itself, the server was started from there, and is asked. -/
def x11_server_device (si : SessionInfo) (xorg_stat : CkProcessStat) : Option CString :=
  let tty := ck_process_stat_get_tty m.read_link m.st_rdev m.tty_map xorg_stat
  if tty ≠ si.display_device then tty
  else
    match m.ck_get_x11_display_device (get_filtered_environment m si.pid) si.uid with
    | some ⟨0, out⟩ => some (g_strstrip out)
    | _ => tty

/-- None if `ck_unix_pid_get_env` does not return in this many rounds, or the
    line of the server is not one of the kernel's. -/
def fill_x11_info (rounds : Nat) (si : SessionInfo) : Option SessionInfo := do
  let x11_display ← ck_unix_pid_get_env m.environ si.pid.toInt (cstr "DISPLAY") rounds
  let si := { si with x11_display }
  if x11_display = none then
    -- no point continuing
    return { si with x11_can_connect := false }
  let (can_connect, xorg_pid) := get_x11_server_pid m si
  let si := { si with x11_can_connect := can_connect }
  if !can_connect then
    return { si with x11_display := none }
  if xorg_pid < 2 then
    -- if we can connect but don't have a pid then we're not local
    return { si with is_local := false, is_local_is_set := true }
  match ck_process_stat_new_for_unix_pid m.proc_stat (Int32.ofNat xorg_pid) with
  | none => return si
  | some xorg_stat =>
    let si := { si with x11_display_device := x11_server_device m si (← xorg_stat) }
    -- when PAM is supported don't set is-local here, let the daemon do that
    let si := if m.HAVE_PAM then si else { si with is_local := true, is_local_is_set := true }
    return { si with remote_host_name := none }

def get_vtnr (si : SessionInfo) : UInt32 :=
  let device := si.x11_display_device.or si.display_device
  ((State.ck_get_console_num_from_device device).map UInt32.ofNat).getD 0

/-- Non X11 sessions must be local, when there is no PAM. -/
def default_is_local (si : SessionInfo) : SessionInfo :=
  if !m.HAVE_PAM && !si.is_local_is_set then { si with is_local := true, is_local_is_set := true }
  else si

/-- The inner option is none for FALSE. -/
def fill_session_info (rounds : Nat) (si : SessionInfo) : Option (Option SessionInfo) :=
  match ck_process_stat_new_for_unix_pid m.proc_stat si.pid with
  | none => some none
  | some none => none
  | some (some stat) =>
    let display_device := ck_process_stat_get_tty m.read_link m.st_rdev m.tty_map stat
    let si := { si with display_device }
    -- if our DM set the display device we don't need to look it up here
    let filled := if si.x11_display_device = none then fill_x11_info m rounds si else some si
    filled.map fun si =>
      let si := default_is_local m si
      let si :=
        { si with login_session_id := ck_unix_pid_get_login_session_id m.proc_sessionid si.pid }
      some { si with vtnum := get_vtnr si }

end

/-! ## Section 3: The output -/

/-- `printf ("key = %s\n", value)` -/
def print_line (key value : CString) : CString := key ++ cstr " = " ++ value ++ cstr "\n"

/-- A line for a property that may be NULL. -/
def print_string (key : CString) (value : Option CString) : CString :=
  (value.map (print_line key)).getD []

def print_session_info (si : SessionInfo) : CString :=
  print_line (cstr "unix-user") (percent_u si.uid.toNat) ++
    print_line (cstr "vtnr") (percent_u si.vtnum.toNat) ++
    print_string (cstr "x11-display") si.x11_display ++
    print_string (cstr "x11-display-device") si.x11_display_device ++
    print_string (cstr "display-device") si.display_device ++
    print_string (cstr "remote-host-name") si.remote_host_name ++
    (if si.is_local_is_set then
      print_line (cstr "is-local") (if si.is_local then cstr "true" else cstr "false")
    else []) ++
    print_string (cstr "login-session-id") si.login_session_id

/-- `g_new0` -/
def new_session_info (uid : UInt32) (pid : Int32) (x11_display_device : Option CString) :
    SessionInfo where
  uid := uid
  pid := pid
  login_session_id := none
  vtnum := 0
  display_device := none
  x11_display_device := x11_display_device
  x11_display := none
  x11_can_connect := false
  remote_host_name := none
  is_local := false
  is_local_is_set := false

/-- What is printed; the inner option is none for FALSE. -/
def collect_session_info (m : Machine) (rounds : Nat) (uid : UInt32) (pid : Int32)
    (x11_display_device : Option CString) : Option (Option CString) :=
  (fill_session_info m rounds (new_session_info uid pid x11_display_device)).map fun si =>
    si.map print_session_info

/-! ## Section 4: What is printed -/

/-- A property that is printed: its text, and the value that it denotes. -/
structure Printed where
  parameter : Parameter
  text : CString
  value : GVariant

def Printed.line (x : Printed) : CString := name x.parameter ++ cstr " = " ++ x.text

def printed_string (p : Parameter) (value : Option CString) : List Printed :=
  value.toList.map fun s => ⟨p, s, .string s⟩

def printed (si : SessionInfo) : List Printed :=
  [⟨.unix_user, percent_u si.uid.toNat, .int32 si.uid.toNat⟩,
    ⟨.vtnr, percent_u si.vtnum.toNat, .uint32 si.vtnum.toNat⟩] ++
  printed_string .x11_display si.x11_display ++
  printed_string .x11_display_device si.x11_display_device ++
  printed_string .display_device si.display_device ++
  printed_string .remote_host_name si.remote_host_name ++
  (if si.is_local_is_set then
    [⟨.is_local, if si.is_local then cstr "true" else cstr "false", .boolean si.is_local⟩]
  else []) ++
  printed_string .login_session_id si.login_session_id

/-- The properties, as the leader is to have them. -/
def parameters (si : SessionInfo) : Parameters := (printed si).map fun x => (name x.parameter, x.value)

/-- The strings that may be printed. -/
def SessionInfo.strings (si : SessionInfo) : List (Option CString) :=
  [si.x11_display, si.x11_display_device, si.display_device, si.remote_host_name,
    si.login_session_id]

/-- The leader takes the user, and no string is more than one line. -/
structure Printable (si : SessionInfo) : Prop where
  user : si.uid.toNat < 2 ^ 31
  lines : ∀ s, some s ∈ si.strings → '\n' ∉ s

theorem print_string_printed (p : Parameter) (value : Option CString) :
    print_string (name p) value =
      ((printed_string p value).map fun x => x.line ++ cstr "\n").flatten := by
  cases value with
  | none => rfl
  | some s => simp [print_string, printed_string, print_line, Printed.line]

/-- The output is one line for each property. -/
theorem print_session_info_eq (si : SessionInfo) :
    print_session_info si = ((printed si).map fun x => x.line ++ cstr "\n").flatten := by
  have hlocal : (if si.is_local_is_set then
        print_line (cstr "is-local") (if si.is_local then cstr "true" else cstr "false")
      else []) = ((if si.is_local_is_set then
        [(⟨.is_local, if si.is_local then cstr "true" else cstr "false",
          .boolean si.is_local⟩ : Printed)]
      else []).map fun x => x.line ++ cstr "\n").flatten := by
    cases si.is_local_is_set with
    | false => rfl
    | true => simp [print_line, Printed.line, name]
  unfold print_session_info printed
  rw [hlocal]
  simp only [List.map_append, List.flatten_append, ← print_string_printed, name]
  simp [print_line, Printed.line, name]

theorem mem_printed_string {p : Parameter} {value : Option CString} {x : Printed}
    (h : x ∈ printed_string p value) : ∃ s, value = some s ∧ x = ⟨p, s, .string s⟩ := by
  obtain ⟨s, hs, rfl⟩ := List.mem_map.mp h
  exact ⟨s, Option.mem_toList.mp hs, rfl⟩

/-- What there is to know of a property that is printed. -/
theorem printed_cases {si : SessionInfo} {x : Printed} (h : x ∈ printed si) :
    x = ⟨.unix_user, percent_u si.uid.toNat, .int32 si.uid.toNat⟩ ∨
    x = ⟨.vtnr, percent_u si.vtnum.toNat, .uint32 si.vtnum.toNat⟩ ∨
    x = ⟨.is_local, if si.is_local then cstr "true" else cstr "false", .boolean si.is_local⟩ ∨
    ∃ p s, gtype p = .G_TYPE_STRING ∧ some s ∈ si.strings ∧ x = ⟨p, s, .string s⟩ := by
  have hstring : ∀ p value, gtype p = .G_TYPE_STRING → value ∈ si.strings →
      x ∈ printed_string p value →
      ∃ p s, gtype p = .G_TYPE_STRING ∧ some s ∈ si.strings ∧ x = ⟨p, s, .string s⟩ := by
    intro p value htype hvalue hx
    obtain ⟨s, rfl, rfl⟩ := mem_printed_string hx
    exact ⟨p, s, htype, hvalue, rfl⟩
  simp only [printed, List.mem_append, List.mem_cons, List.not_mem_nil, or_false] at h
  rcases h with ((((((rfl | rfl) | h) | h) | h) | h) | h) | h
  · exact .inl rfl
  · exact .inr (.inl rfl)
  · exact .inr (.inr (.inr (hstring _ _ rfl (by simp [SessionInfo.strings]) h)))
  · exact .inr (.inr (.inr (hstring _ _ rfl (by simp [SessionInfo.strings]) h)))
  · exact .inr (.inr (.inr (hstring _ _ rfl (by simp [SessionInfo.strings]) h)))
  · exact .inr (.inr (.inr (hstring _ _ rfl (by simp [SessionInfo.strings]) h)))
  · split at h
    · exact .inr (.inr (.inl (List.mem_singleton.mp h)))
    · cases h
  · exact .inr (.inr (.inr (hstring _ _ rfl (by simp [SessionInfo.strings]) h)))

/-! ## Section 5: What the leader has of it -/

theorem decimal_percent_u {n max : Nat} (h : n ≤ max) : Decimal (percent_u n) max n :=
  ⟨percent_u_ne_nil n, percent_u_isDigit n, ofDigitChars_percent_u n, h⟩

/-- Each text denotes its value. -/
theorem printed_denotes {si : SessionInfo} (huser : si.uid.toNat < 2 ^ 31) {x : Printed}
    (hx : x ∈ printed si) : Denotes x.text (gtype x.parameter) x.value := by
  rcases printed_cases hx with rfl | rfl | rfl | ⟨p, s, htype, -, rfl⟩
  · exact .int (decimal_percent_u (by omega))
  · have hlt := si.vtnum.toNat_lt
    exact .uint (decimal_percent_u (by omega))
  · cases hlocal : si.is_local with
    | true => exact .boolean_true (by decide)
    | false => exact .boolean_false (by decide)
  · rw [htype]
    exact .string

theorem name_oneLine (p : Parameter) : '\n' ∉ name p := by cases p <;> decide

theorem printed_line_oneLine {si : SessionInfo}
    (hlines : ∀ s, some s ∈ si.strings → '\n' ∉ s) {x : Printed} (hx : x ∈ printed si) :
    '\n' ∉ x.line := by
  have htext : '\n' ∉ x.text := by
    rcases printed_cases hx with rfl | rfl | rfl | ⟨p, s, -, hs, rfl⟩
    · exact Log.newline_not_mem_digits (percent_u_isDigit _)
    · exact Log.newline_not_mem_digits (percent_u_isDigit _)
    · cases si.is_local <;> decide
    · exact hlines s hs
  rw [Printed.line, List.mem_append, List.mem_append, not_or, not_or]
  exact ⟨⟨name_oneLine _, by decide⟩, htext⟩

/-- Lines with their ends are split into the lines. -/
theorem splitOn_lines {ls : List CString} (h : ∀ l ∈ ls, '\n' ∉ l) :
    (ls.map (· ++ cstr "\n")).flatten.splitOn '\n' = ls ++ [[]] := by
  induction ls with
  | nil => rfl
  | cons l ls ih =>
    obtain ⟨hl, hls⟩ := List.forall_mem_cons.mp h
    have hcons : ((l :: ls).map (· ++ cstr "\n")).flatten =
        l ++ '\n' :: (ls.map (· ++ cstr "\n")).flatten := by
      simp [cstr]
    rw [hcons, List.splitOn_append_cons_self_of_not_mem hl, ih hls]
    rfl

theorem parse_line_printed {errno : Nat} {si : SessionInfo} (huser : si.uid.toNat < 2 ^ 31)
    (herrno : errno = 0) {x : Printed} (hx : x ∈ printed si) :
    parse_line ∅ errno x.line = some ([(name x.parameter, x.value)], 0) := by
  obtain ⟨hkey, hval⟩ := form_iff.mp (rfl : x.line = name x.parameter ++ cstr " = " ++ x.text)
  have hempty : have_override_parameter ∅ (name x.parameter) = false := rfl
  subst herrno
  rw [parse_line_eq, hkey, hval]
  simp only [hempty, Bool.false_eq_true, if_false]
  exact parse_value_denotes _ (printed_denotes huser hx)

/-- The lines of properties, with the empty one behind the last line end. -/
theorem parse_lines_printed {si : SessionInfo} (huser : si.uid.toNat < 2 ^ 31)
    {xs : List Printed} (hxs : ∀ x ∈ xs, x ∈ printed si) :
    parse_lines ∅ 0 (xs.map Printed.line ++ [[]]) =
      some (xs.map fun x => (name x.parameter, x.value)) := by
  induction xs with
  | nil => rfl
  | cons x xs ih =>
    obtain ⟨hx, hxs⟩ := List.forall_mem_cons.mp hxs
    rw [List.map_cons, List.cons_append, parse_lines, parse_line_printed huser rfl hx,
      Option.bind_some, ih hxs]
    rfl

theorem parameters_of_printable {si : SessionInfo} (h : Printable si) (client : Parameters) :
    parse_output (save_parameters client) 0 (print_session_info si) =
      some ((parameters si).filter (fun e => (client_value client e.1).isNone) ++
        overlay client) := by
  have houtput : g_strsplit_lines (print_session_info si) =
      (printed si).map Printed.line ++ [[]] := by
    have hne : print_session_info si ≠ [] := by simp [print_session_info, print_line, cstr]
    have hone : ∀ l ∈ (printed si).map Printed.line, '\n' ∉ l := by
      intro l hl
      obtain ⟨x, hx, rfl⟩ := List.mem_map.mp hl
      exact printed_line_oneLine h.lines hx
    rw [g_strsplit_lines, if_neg hne, print_session_info_eq, ← splitOn_lines hone, List.map_map]
    rfl
  -- A line is skipped when the client has set its property.
  have hskipped : ∀ x : Printed,
      skipped client x.line = (client_value client (name x.parameter)).isSome := by
    intro x
    obtain ⟨hkey, -⟩ := form_iff.mp (rfl : x.line = name x.parameter ++ cstr " = " ++ x.text)
    rw [skipped, hkey]
    rfl
  have hlive : live client (print_session_info si) =
      ((printed si).filter fun x => (client_value client (name x.parameter)).isNone).map
        Printed.line ++ [[]] := by
    have hlast : ([([] : CString)].filter fun line => !skipped client line) = [[]] := rfl
    rw [live, houtput, List.filter_append, hlast, List.filter_map]
    congr 2
    refine List.filter_congr fun x _ => ?_
    rw [Function.comp_apply, hskipped]
    cases client_value client (name x.parameter) <;> rfl
  rw [parse_output_live, hlive, parse_lines_printed h.user fun x hx => List.mem_of_mem_filter hx]
  rw [Option.map_some, parameters, List.filter_map]
  rfl

theorem untrusted_int_le {errno : Nat} {value max : Int} {n : Nat}
    (h : untrusted_int errno value max = some n) : (n : Int) ≤ max := by
  unfold untrusted_int at h
  split at h
  · cases h
  split at h
  · cases h
  split at h
  · cases h
  obtain rfl := Option.some.inj h
  omega

/-- A value of the leader's is a part of a line, and a user id is not too
    large. -/
theorem value_of_parsed {errno : Nat} {output : CString} {ps : Parameters}
    (h : parse_output ∅ errno output = some ps) {e : CString × GVariant} (he : e ∈ ps) :
    (∀ s, e.2 = .string s → '\n' ∉ s) ∧ ∀ n, e.2 = .int32 n → n < 2 ^ 31 := by
  rw [parse_output_empty] at h
  rw [parse_lines_eq errno _ (not_bare_of_parsed h)] at h
  rw [← Option.some.inj h] at he
  obtain ⟨pre, line, post, hlines, hmem⟩ := mem_contributions.mp he
  obtain ⟨halone, -⟩ := contribution_subset hmem
  have hline : '\n' ∉ line := by
    have hin : line ∈ g_strsplit_lines output := by
      rw [hlines]
      exact List.mem_append_right _ List.mem_cons_self
    unfold g_strsplit_lines at hin
    split at hin
    · cases hin
    · exact Log.newline_not_mem_line hin
  rw [alone_eq] at halone
  cases hkey : key line with
  | none => simp [hkey] at halone
  | some p =>
    rw [hkey] at halone
    cases hval : val line with
    | none =>
      rw [hval] at halone
      cases htype : gtype p <;> simp [htype, parse_value, parse_number] at halone
      -- A boolean is neither of the two.
      rw [halone]
      exact ⟨by simp, by simp⟩
    | some text =>
      have htext : '\n' ∉ text := by
        obtain rfl := form_iff.mpr ⟨hkey, hval⟩
        exact fun hin => hline (List.mem_append_right _ hin)
      rw [hval] at halone
      cases htype : gtype p with
      | G_TYPE_STRING =>
        simp only [htype, parse_value] at halone
        obtain rfl := List.mem_singleton.mp halone
        refine ⟨fun s hs => ?_, by simp⟩
        obtain rfl := GVariant.string.inj hs
        exact htext
      | G_TYPE_BOOLEAN =>
        simp only [htype, parse_value] at halone
        obtain rfl := List.mem_singleton.mp halone
        exact ⟨by simp, by simp⟩
      | G_TYPE_INT =>
        simp [htype, parse_value, parse_number] at halone
        obtain ⟨n, hn, rfl⟩ := halone
        refine ⟨by simp, fun k hk => ?_⟩
        obtain rfl := GVariant.int32.inj hk
        have hle := untrusted_int_le hn
        omega
      | G_TYPE_UINT =>
        simp [htype, parse_value, parse_number] at halone
        obtain ⟨n, -, rfl⟩ := halone
        exact ⟨by simp, by simp⟩

theorem overlay_nil : overlay [] = [] := rfl

/-- What the collector finds out about a process, with the device of the X
    server if the display manager has given it. -/
structure Collected (m : Machine) (rounds : Nat) (uid : UInt32) (pid : Int32)
    (x11_display_device : Option CString) (si : SessionInfo) : Prop where
  user : si.uid = uid
  /-- The terminal is that of the process. -/
  terminal : ∀ tty, si.display_device = some tty → ∃ stat,
    ck_process_stat_new_for_unix_pid m.proc_stat pid = some (some stat) ∧
      IsDevice m.st_rdev (MAJOR_OF stat.tty.toUInt32) (MINOR_OF stat.tty.toUInt32) tty
  /-- A display is that of the environment, and one can connect to it. -/
  display : ∀ d, si.x11_display = some d → x11_display_device = none ∧
    ck_unix_pid_get_env m.environ pid.toInt (cstr "DISPLAY") rounds = some (some d) ∧
    ∃ out, m.ck_get_x11_server_pid (get_filtered_environment m pid) uid = some ⟨0, out⟩
  given : ∀ d, x11_display_device = some d → si.x11_display_device = some d
  server : x11_display_device = none → si.x11_display_device ≠ none → si.x11_display ≠ none
  /-- With PAM the collector only ever says that a session is not local, and
      then it does not know the device of its X server. -/
  local_pam : m.HAVE_PAM = true → si.is_local_is_set = true →
    si.is_local = false ∧ si.x11_display ≠ none ∧ si.x11_display_device = none
  local_set : m.HAVE_PAM = false → si.is_local_is_set = true
  /-- The number is that of the terminal of the X server, if it has one. -/
  vt : ∀ n < 2 ^ 32, si.x11_display_device.or si.display_device =
    some (cstr "/dev/tty" ++ percent_u n) → si.vtnum.toNat = n
  login_session : ∀ s, si.login_session_id = some s → ∃ n, n ≠ G_MAXUINT32 ∧ s = percent_u n
  no_host : si.remote_host_name = none

theorem login_session_id_text {proc_sessionid : Int32 → Option CString} {pid : Int32} {s : CString}
    (h : ck_unix_pid_get_login_session_id proc_sessionid pid = some s) :
    ∃ n, n ≠ G_MAXUINT32 ∧ s = percent_u n := by
  obtain ⟨-, h⟩ := Option.ite_none_right_eq_some.mp h
  obtain ⟨contents, -, h⟩ := Option.bind_eq_some_iff.mp h
  dsimp only at h
  split at h
  · cases h
  split at h
  · cases h
  split at h
  · cases h
  split at h
  · cases h
  · rename_i hunset
    obtain rfl := Option.some.inj h
    exact ⟨_, hunset, rfl⟩

/-- What `fill_x11_info` finds out, when the device is not known. -/
structure X11Filled (m : Machine) (rounds : Nat) (si si' : SessionInfo) : Prop where
  user : si'.uid = si.uid
  display_device : si'.display_device = si.display_device
  display : ∀ d, si'.x11_display = some d →
    ck_unix_pid_get_env m.environ si.pid.toInt (cstr "DISPLAY") rounds = some (some d) ∧
    ∃ out, m.ck_get_x11_server_pid (get_filtered_environment m si.pid) si.uid = some ⟨0, out⟩
  server : si'.x11_display_device ≠ none → si'.x11_display ≠ none
  local_pam : m.HAVE_PAM = true → si'.is_local_is_set = true →
    si'.is_local = false ∧ si'.x11_display ≠ none ∧ si'.x11_display_device = none
  no_host : si'.remote_host_name = none
  pid : si'.pid = si.pid

theorem get_x11_server_pid_connects {m : Machine} {si : SessionInfo} {xorg_pid : Nat}
    (h : get_x11_server_pid m si = (true, xorg_pid)) :
    ∃ out, m.ck_get_x11_server_pid (get_filtered_environment m si.pid) si.uid = some ⟨0, out⟩ := by
  unfold get_x11_server_pid at h
  split at h
  · rename_i out hout
    exact ⟨out, hout⟩
  · cases h

/-- Nothing is known yet of the X server. -/
theorem fill_x11_info_spec {m : Machine} {rounds : Nat} {si si' : SessionInfo}
    (hdevice : si.x11_display_device = none) (hlocal : si.is_local_is_set = false)
    (hhost : si.remote_host_name = none) (h : fill_x11_info m rounds si = some si') :
    X11Filled m rounds si si' := by
  have hunset : ¬ si.is_local_is_set = true := by rw [hlocal]; decide
  obtain ⟨x11_display, henv, h⟩ := Option.bind_eq_some_iff.mp h
  dsimp only at h
  split at h
  · rename_i hnone
    obtain rfl := Option.some.inj h
    exact ⟨rfl, rfl, fun d hd => absurd hd (by rw [hnone]; exact nofun), fun hne => absurd hdevice hne,
      fun _ hset => absurd hset hunset, hhost, rfl⟩
  rename_i hsome
  obtain ⟨d, rfl⟩ := Option.ne_none_iff_exists'.mp hsome
  generalize hserver : get_x11_server_pid m { si with x11_display := some d } = server at h
  obtain ⟨can_connect, xorg_pid⟩ := server
  dsimp only at h
  cases can_connect with
  | false =>
    -- One cannot connect, and the display is forgotten.
    obtain rfl := Option.some.inj h
    exact ⟨rfl, rfl, nofun, fun hne => absurd hdevice hne, fun _ hset => absurd hset hunset,
      hhost, rfl⟩
  | true =>
    have hdisplay : ∀ d', some d = some d' →
        ck_unix_pid_get_env m.environ si.pid.toInt (cstr "DISPLAY") rounds = some (some d') ∧
        ∃ out, m.ck_get_x11_server_pid (get_filtered_environment m si.pid) si.uid =
          some ⟨0, out⟩ := by
      rintro d' hd'
      obtain rfl := Option.some.inj hd'
      exact ⟨henv, get_x11_server_pid_connects hserver⟩
    simp only [Bool.not_true, Bool.false_eq_true, if_false] at h
    split at h
    · -- There is no local server.
      obtain rfl := Option.some.inj h
      exact ⟨rfl, rfl, hdisplay, fun hne => absurd hdevice hne,
        fun _ _ => ⟨rfl, Option.some_ne_none d, hdevice⟩, hhost, rfl⟩
    split at h
    · obtain rfl := Option.some.inj h
      exact ⟨rfl, rfl, hdisplay, fun hne => absurd hdevice hne,
        fun _ hset => absurd hset hunset, hhost, rfl⟩
    · obtain ⟨stat, -, h⟩ := Option.bind_eq_some_iff.mp h
      obtain rfl := Option.some.inj h
      cases hpam : m.HAVE_PAM with
      | true =>
        exact ⟨rfl, rfl, hdisplay, fun _ => Option.some_ne_none d,
          fun _ hset => absurd hset hunset, rfl, rfl⟩
      | false =>
        exact ⟨rfl, rfl, hdisplay, fun _ => Option.some_ne_none d,
          fun htrue => absurd htrue (by rw [hpam]; decide), rfl, rfl⟩

theorem default_is_local_eq (m : Machine) (si : SessionInfo) :
    ∃ is_local is_local_is_set, default_is_local m si = { si with is_local, is_local_is_set } ∧
      (m.HAVE_PAM = true → is_local = si.is_local ∧ is_local_is_set = si.is_local_is_set) ∧
      (m.HAVE_PAM = false → is_local_is_set = true) := by
  unfold default_is_local
  split
  · rename_i hdefault
    rw [Bool.and_eq_true, Bool.not_eq_true'] at hdefault
    exact ⟨true, true, rfl, fun htrue => absurd htrue (by rw [hdefault.1]; decide), fun _ => rfl⟩
  · rename_i hkeep
    refine ⟨_, _, rfl, fun _ => ⟨rfl, rfl⟩, fun hfalse => ?_⟩
    simpa [hfalse] using hkeep

theorem console_num_of_tty {n : Nat} (hn : n < 2 ^ 32) :
    State.ck_get_console_num_from_device (some (cstr "/dev/tty" ++ percent_u n)) = some n := by
  have hscan := scan_unsigned_digits (by decide : 32 ≤ 64) [] (percent_u_ne_nil n)
    (percent_u_isDigit n) (by rintro c hc; cases hc) (by rw [ofDigitChars_percent_u]; exact hn)
  rw [List.append_nil, ofDigitChars_percent_u] at hscan
  simp only [State.ck_get_console_num_from_device, Option.bind_eq_bind, Option.bind_some,
    scan_literal_append, hscan]
  rfl

/-- A shell on the first console. -/
def console_machine : Machine where
  environ := fun _ => some []
  proc_stat := fun pid => if pid = 100 then some (cstr "100 (sh) S 1 100 100 1025 100\n") else none
  proc_sessionid := fun _ => some (cstr "4294967295")
  read_link := fun _ => none
  st_rdev := fun tty => if tty = cstr "/dev/tty1" then some 1025 else none
  tty_map := [⟨4, 1, 63, cstr "tty", false⟩]
  ck_get_x11_server_pid := fun _ _ => none
  ck_get_x11_display_device := fun _ _ => none
  HAVE_PAM := true

end Leader
