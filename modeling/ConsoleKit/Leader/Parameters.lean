import ConsoleKit.Framework.HashTable
import ConsoleKit.Manager.Parameters

/-! # Collecting the parameters of a session

    Model of the part of `ck-session-leader.c` that stores what a client asks
    for and parses the output of the collector, and of how
    `ck_session_new_with_parameters` makes properties of the result.  The
    error number is part of the state: `parse_output` looks at it and never
    clears it.
-/

namespace Libc

/-! ## Section 1: Reading numbers and splitting text -/

/-- `strtol (s, NULL, 10)`, and whether it sets the error number to `ERANGE`. -/
def strtol_errno (s : CString) : Int × Bool :=
  let (negative, t) := sign (s.dropWhile isspace)
  let digits := t.takeWhile Char.isDigit
  if digits = [] then (0, false)
  else
    let n := Nat.ofDigitChars 10 digits 0
    if negative then
      if n > 2 ^ 63 then (-2 ^ 63, true) else (-n, false)
    else if n ≥ 2 ^ 63 then (2 ^ 63 - 1, true)
    else (n, false)

/-- `g_strsplit (s, "\n", -1)` -/
def g_strsplit_lines (s : CString) : List CString := if s = [] then [] else s.splitOn '\n'

/-- `g_strsplit (s, delimiter, 2)` -/
def g_strsplit_two (delimiter s : CString) : List CString :=
  if s = [] then []
  else
    match g_strstr_len delimiter s with
    | some rest => [s.take (s.length - rest.length), rest.drop delimiter.length]
    | none => [s]

/-- `g_ascii_strncasecmp (s, word, n) == 0`, which holds if `s` is NULL. -/
def g_ascii_strncasecmp_eq (s : Option CString) (word : CString) (n : Nat) : Bool :=
  match s with
  | none => true
  | some s => (s.take n).map Char.toLower = (word.take n).map Char.toLower

end Libc

namespace Leader

open Libc CkManager

/-! ## Section 2: The known parameters -/

inductive GType where
  | G_TYPE_STRING | G_TYPE_BOOLEAN | G_TYPE_INT | G_TYPE_UINT
  deriving DecidableEq

/-- The names in `parameter_lookup`. -/
def name : Parameter → CString
  | .login_session_id => cstr "login-session-id"
  | .display_device => cstr "display-device"
  | .x11_display_device => cstr "x11-display-device"
  | .x11_display => cstr "x11-display"
  | .remote_host_name => cstr "remote-host-name"
  | .session_type => cstr "session-type"
  | .session_class => cstr "session-class"
  | .session_service => cstr "session-service"
  | .is_local => cstr "is-local"
  | .unix_user => cstr "unix-user"
  | .user => cstr "user"
  | .vtnr => cstr "vtnr"

def gtype : Parameter → GType
  | .is_local => .G_TYPE_BOOLEAN
  | .unix_user | .user => .G_TYPE_INT
  | .vtnr => .G_TYPE_UINT
  | _ => .G_TYPE_STRING

def parameter_lookup : List Parameter :=
  [.login_session_id, .display_device, .x11_display_device, .x11_display, .remote_host_name,
    .session_type, .session_class, .session_service, .is_local, .unix_user, .user, .vtnr]

/-- `none` is `G_TYPE_INVALID`. -/
def lookup_parameter_type (prop_name : CString) : Option Parameter :=
  parameter_lookup.find? fun p => name p = prop_name

theorem mem_parameter_lookup (p : Parameter) : p ∈ parameter_lookup := by
  cases p <;> decide

theorem name_inj {p q : Parameter} (h : name p = name q) : p = q := by
  revert h
  cases p <;> cases q <;> decide

theorem lookup_parameter_type_iff {prop_name : CString} {p : Parameter} :
    lookup_parameter_type prop_name = some p ↔ prop_name = name p := by
  unfold lookup_parameter_type
  constructor
  · intro h
    have hname := List.find?_some h
    simpa [eq_comm] using hname
  · rintro rfl
    cases hfind : parameter_lookup.find? fun q => name q = name p with
    | none =>
      have hnone := List.find?_eq_none.mp hfind p (mem_parameter_lookup p)
      simp at hnone
    | some q =>
      have hname := List.find?_some hfind
      simp only [decide_eq_true_eq] at hname
      rw [name_inj hname]

/-! ## Section 3: The overrides -/

/-- `override_parameters` -/
abbrev Overrides := HashTable CString GVariant

/-- What a session is made of. -/
abbrev Parameters := List (CString × GVariant)

def have_override_parameter (overrides : Overrides) (prop_name : CString) : Bool :=
  (overrides.lookup prop_name).isSome

/-- One round of the loop of `save_parameters`. -/
def save_parameter (overrides : Overrides) (e : CString × GVariant) : Overrides :=
  if e.1 = cstr "id" ∨ e.1 = cstr "cookie" then overrides
  else
    match lookup_parameter_type e.1 with
    | none => overrides
    | some _ =>
      -- convert legacy user property to unix-user
      overrides.insert (if e.1 = cstr "user" then cstr "unix-user" else e.1) e.2

/-- `ck_session_leader_set_override_parameters` and `save_parameters`. -/
def save_parameters (parameters : Parameters) : Overrides :=
  parameters.foldl save_parameter ∅

/-! ## Section 4: The output of the collector -/

def ERANGE : Nat := 34

/-- The number of a line, if it passes the checks; `max` is the largest one. -/
def untrusted_int (errno : Nat) (value : Int) (max : Int) : Option Nat :=
  -- error checking for untrusted input
  if (errno = ERANGE ∧ (value = 2 ^ 63 - 1 ∨ value = -2 ^ 63)) ∨ (errno ≠ 0 ∧ value = 0) then none
  -- sanity checks
  else if value > max then none
  else if value < 0 then none
  else some value.toNat

/-- A number: `strtol` of NULL does not return.  The error number is not
    cleared before the call. -/
def parse_number (errno : Nat) (prop_name : CString) (val : Option CString) (max : Int)
    (element : Nat → GVariant) : Option (Parameters × Nat) :=
  val.map fun val =>
    -- success leaves the error number as it was
    let errno := if (strtol_errno val).2 then ERANGE else errno
    let number := untrusted_int errno (strtol_errno val).1 max
    ((number.map fun n => (prop_name, element n)).toList, errno)

/-- The element of a parameter, by its type; `val` is none if the line has no
    value.  `g_variant_new` of NULL is NULL, and is not added. -/
def parse_value (errno : Nat) (prop_name : CString) (val : Option CString) :
    GType → Option (Parameters × Nat)
  | .G_TYPE_STRING => some ((val.map fun val => (prop_name, .string val)).toList, errno)
  | .G_TYPE_BOOLEAN =>
      some ([(prop_name, .boolean (g_ascii_strncasecmp_eq val (cstr "TRUE") 4))], errno)
  | .G_TYPE_INT => parse_number errno prop_name val (2 ^ 31 - 1) fun n => .int32 n
  | .G_TYPE_UINT => parse_number errno prop_name val (2 ^ 32 - 1) .uint32

/-- One round of the loop of `parse_output`: what the line contributes, and
    the error number; `none` if the loop does not go on. -/
def parse_line (overrides : Overrides) (errno : Nat) (line : CString) :
    Option (Parameters × Nat) :=
  match g_strsplit_two (cstr " = ") line with
  | [] => some ([], errno)
  | prop_name :: vals =>
    -- we're going to override this anyway so just shortcut out
    if have_override_parameter overrides prop_name then some ([], errno)
    else
      match lookup_parameter_type prop_name with
      | none => some ([], errno)
      | some p => parse_value errno prop_name vals.head? (gtype p)

/-- The loop of `parse_output`. -/
def parse_lines (overrides : Overrides) : Nat → List CString → Option Parameters
  | _, [] => some []
  | errno, line :: lines =>
    (parse_line overrides errno line).bind fun r =>
      (parse_lines overrides r.2 lines).map fun ck_parameters => r.1 ++ ck_parameters

/-- `parse_output`; the overrides are laid over what the collector says. -/
def parse_output (overrides : Overrides) (errno : Nat) (output : CString) : Option Parameters :=
  (parse_lines overrides errno (g_strsplit_lines output)).map fun ck_parameters =>
    ck_parameters ++ overrides.entries.map fun e => (e.1, e.2)

/-! ## Section 5: The properties of the session -/

/-- The construction parameters of `ck_session_new_with_parameters`: `transform`
    makes the value of a property, if there is such a one that can be written
    and the value can be transformed. -/
def construction_parameters {α : Type} (string : CString → α)
    (transform : CString → GVariant → Option α) (ssid cookie : CString)
    (parameters : Parameters) : List (CString × α) :=
  [(cstr "id", string ssid), (cstr "cookie", string cookie)] ++
    parameters.filterMap fun e =>
      if e.1 = cstr "id" ∨ e.1 = cstr "cookie" then none
      else (transform e.1 e.2).map fun value => (e.1, value)

end Leader
