import ConsoleKit.Database.Acl
import Mathlib.Data.List.ReduceOption

/-! # The environment of the callouts

    `ck_session_run_programs` and `ck_seat_run_programs` collect the variables
    for the programs in an array on the stack, whose length is fixed.  The
    number of entries is compared with it in an assertion, after the entries
    have been written.

    This module provides:
    - `ExtraEnv`, an array with the entries that are written to it,
    - the two functions, with what they run,
    - `env_for_child_fits`: the array of `ck_run_programs` always suffices,
    - `callouts_fit_iff`: when the arrays on the stack suffice.
-/

namespace Database

open CkManager Libc

/-! ## Section 1: The arrays -/

/-- An array of strings: its declared length, and the entries in the order in
    which they are written.  NULL is `none`. -/
structure ExtraEnv where
  length : Nat
  written : List (Option CString)

def ExtraEnv.Fits (extra_env : ExtraEnv) : Prop := extra_env.written.length ≤ extra_env.length

instance (extra_env : ExtraEnv) : Decidable extra_env.Fits :=
  inferInstanceAs (Decidable (_ ≤ _))

/-- The array with a string for each variable, and a NULL behind them. -/
def ExtraEnv.ofVariables (length : Nat) (vars : List (CString × CString)) : ExtraEnv where
  length := length
  written := vars.map (fun v => some (v.1 ++ '=' :: v.2)) ++ [none]

theorem ExtraEnv.length_ofVariables (length : Nat) (vars : List (CString × CString)) :
    (ofVariables length vars).written.length = vars.length + 1 := by
  rw [ofVariables, List.length_append, List.length_map, List.length_singleton]

/-- `g_strv_length`: the entries before the first NULL. -/
def g_strv (strv : List (Option CString)) : List CString :=
  (strv.takeWhile Option.isSome).reduceOption

/-- The array that `ck_run_programs` makes of the environment of the daemon
    and the given one. -/
def env_for_child (environ extra_env : List (Option CString)) : ExtraEnv where
  length := (g_strv environ).length + (g_strv extra_env).length + 2
  written := (g_strv environ).map some ++ (g_strv extra_env).map some ++ [none]

/-- A call of `ck_run_programs`. -/
structure RunPrograms where
  dirpath : CString
  action : CString
  env_for_child : ExtraEnv

/-- What a function does that runs programs: the array on its stack, and its
    calls, unless `g_assert` stops the daemon before them. -/
structure Callouts where
  extra_env : ExtraEnv
  runs : Option (List RunPrograms)

/-! ## Section 2: The functions -/

section
variable (SYSCONFDIR LIBDIR : CString) (environ : List (Option CString))

/-- The end of both functions: the programs of two directories. -/
def run_programs (dir action : CString) (extra_env : ExtraEnv) : Callouts where
  extra_env := extra_env
  runs :=
    if extra_env.Fits then
      some [⟨SYSCONFDIR ++ cstr "/ConsoleKit/" ++ dir, action,
          env_for_child environ extra_env.written⟩,
        ⟨LIBDIR ++ cstr "/ConsoleKit/" ++ dir, action, env_for_child environ extra_env.written⟩]
    else none

variable (m : State) (details : Details)

/-- The variable, if the string is not NULL. -/
def non_null (name : CString) (s : Option CString) : Option (CString × CString) :=
  s.map fun value => (name, value)

/-- The variable, if the string is not NULL and not empty. -/
def non_empty (name : CString) (s : Option CString) : Option (CString × CString) :=
  if State.is_str_set s then non_null name s else none

def g_boolean (b : Bool) : CString := if b then cstr "true" else cstr "false"

/-- The variables of `ck_session_run_programs`; one that is left out is `none`. -/
def session_variables (x : SessionRef) : List (Option (CString × CString)) :=
  let session := m.session x
  [some (cstr "CK_SESSION_ID", session.id),
    non_null (cstr "CK_SESSION_SERVICE") (details.session_service x),
    non_null (cstr "CK_SESSION_TYPE") (details.session_type x),
    some (cstr "CK_SESSION_SEAT_ID", percent_s (session.seat.map fun d => (m.seat d).id)),
    some (cstr "CK_SESSION_USER_UID", percent_d (Int32.ofNat session.unix_user)),
    non_empty (cstr "CK_SESSION_DISPLAY_DEVICE") session.display_device,
    non_empty (cstr "CK_SESSION_X11_DISPLAY_DEVICE") session.x11_display_device,
    some (cstr "CK_SESSION_X11_DISPLAY", NONULL_STRING session.x11_display),
    non_empty (cstr "CK_SESSION_REMOTE_HOST_NAME") session.remote_host_name,
    some (cstr "CK_SESSION_IS_ACTIVE", g_boolean session.active),
    some (cstr "CK_SESSION_IS_LOCAL", g_boolean session.is_local)]

/-- `char *extra_env[11]` -/
def session_extra_env (x : SessionRef) : ExtraEnv :=
  .ofVariables 11 (session_variables m details x).reduceOption

def ck_session_run_programs (x : SessionRef) (action : CString) : Callouts :=
  run_programs SYSCONFDIR LIBDIR environ (cstr "run-session.d") action
    (session_extra_env m details x)

/-- `char *extra_env[18]` -/
def seat_extra_env (d : SeatRef) (old_session new_session : Option SessionRef) : ExtraEnv :=
  .ofVariables 18 (extra_env m details d old_session new_session)

def ck_seat_run_programs (d : SeatRef) (old_session new_session : Option SessionRef)
    (action : CString) : Callouts :=
  run_programs SYSCONFDIR LIBDIR environ (cstr "run-seat.d") action
    (seat_extra_env m details d old_session new_session)

end

/-! ## Section 3: The environment of a child -/

theorem env_for_child_fits (environ extra_env : List (Option CString)) :
    (env_for_child environ extra_env).Fits := by
  unfold ExtraEnv.Fits env_for_child
  simp only [List.length_append, List.length_map, List.length_singleton]
  omega

/-- What a child gets of the variables is all of them, behind the
    environment of the daemon. -/
theorem g_strv_ofVariables (length : Nat) (vars : List (CString × CString)) :
    g_strv (ExtraEnv.ofVariables length vars).written =
      vars.map fun v => v.1 ++ '=' :: v.2 := by
  unfold g_strv ExtraEnv.ofVariables
  rw [List.takeWhile_append_of_pos]
  · rw [List.takeWhile_cons_of_neg (by simp), List.append_nil]
    induction vars with
    | nil => rfl
    | cons v vars ih => rw [List.map_cons, List.reduceOption_cons_of_some, ih, List.map_cons]
  · intro s hs
    obtain ⟨v, _, rfl⟩ := List.mem_map.mp hs
    rfl

/-! ## Section 4: The seat -/

section
variable (m : State) (details : Details)

theorem length_env_add_session_info (start : CString) (session : Option SessionRef) :
    (env_add_session_info m details start session).length ≤ 8 := by
  cases session with
  | none => exact Nat.zero_le _
  | some x => exact Nat.le_refl _

/-- The id of the seat, eight variables for each session, and NULL. -/
theorem seat_extra_env_fits (d : SeatRef) (old_session new_session : Option SessionRef) :
    (seat_extra_env m details d old_session new_session).Fits := by
  have hold := length_env_add_session_info m details (cstr "CK_SEAT_OLD_SESSION_") old_session
  have hnew := length_env_add_session_info m details (cstr "CK_SEAT_SESSION_") new_session
  have hset := List.length_filterMap_le
    (fun e => if State.is_str_set e.2 then some (e.1, NONULL_STRING e.2) else none)
    (env_add_session_info m details (cstr "CK_SEAT_OLD_SESSION_") old_session ++
      env_add_session_info m details (cstr "CK_SEAT_SESSION_") new_session)
  rw [List.length_append] at hset
  show (ExtraEnv.ofVariables 18 _).written.length ≤ 18
  rw [ExtraEnv.length_ofVariables, extra_env, List.length_cons]
  unfold env_entries
  omega

/-! ## Section 5: The session -/

/-- The variables of which one at least has to be left out. -/
def all_session_fields_set (x : SessionRef) : Bool :=
  (details.session_service x).isSome && (details.session_type x).isSome &&
    State.is_str_set (m.session x).display_device &&
    State.is_str_set (m.session x).x11_display_device &&
    State.is_str_set (m.session x).remote_host_name

theorem length_reduceOption_cons {α : Type} (a : Option α) (l : List (Option α)) :
    (a :: l).reduceOption.length = a.isSome.toNat + l.reduceOption.length := by
  cases a with
  | none => rw [List.reduceOption_cons_of_none, Option.isSome_none, Bool.toNat_false, Nat.zero_add]
  | some a =>
    rw [List.reduceOption_cons_of_some, List.length_cons, Option.isSome_some, Bool.toNat_true,
      Nat.add_comm]

theorem non_null_isSome (name : CString) (s : Option CString) :
    (non_null name s).isSome = s.isSome := Option.isSome_map

theorem non_empty_isSome (name : CString) (s : Option CString) :
    (non_empty name s).isSome = State.is_str_set s := by
  unfold non_empty
  split
  · rename_i hset
    rw [non_null_isSome, hset]
    have hsome : s ≠ none := (of_decide_eq_true hset).1
    exact Option.isSome_iff_ne_none.mpr hsome
  · rename_i hset
    exact (Bool.eq_false_iff.mpr hset).symm

/-- Six variables are always there, and five depend on a field. -/
theorem length_session_extra_env (x : SessionRef) :
    (session_extra_env m details x).written.length = 7 +
      ((details.session_service x).isSome.toNat + (details.session_type x).isSome.toNat +
        (State.is_str_set (m.session x).display_device).toNat +
        (State.is_str_set (m.session x).x11_display_device).toNat +
        (State.is_str_set (m.session x).remote_host_name).toNat) := by
  unfold session_extra_env
  rw [ExtraEnv.length_ofVariables]
  unfold session_variables
  simp only [length_reduceOption_cons, non_null_isSome, non_empty_isSome, Option.isSome_some,
    Bool.toNat_true, List.reduceOption_nil, List.length_nil]
  omega

theorem session_extra_env_fits_iff (x : SessionRef) :
    (session_extra_env m details x).Fits ↔ all_session_fields_set m details x = false := by
  show (session_extra_env m details x).written.length ≤ 11 ↔ _
  rw [length_session_extra_env]
  unfold all_session_fields_set
  -- Only five flags that are all set add up to more than four.
  generalize (details.session_service x).isSome = service
  generalize (details.session_type x).isSome = type
  generalize State.is_str_set (m.session x).display_device = display_device
  generalize State.is_str_set (m.session x).x11_display_device = x11_display_device
  generalize State.is_str_set (m.session x).remote_host_name = remote_host_name
  revert service type display_device x11_display_device remote_host_name
  decide

end

/-! ## Section 6: When the arrays suffice -/

section
variable (SYSCONFDIR LIBDIR : CString) (environ : List (Option CString)) (m : State)
  (details : Details)

/-- The array for a seat always suffices, and the one for a session if and
    only if one of five fields is not set. -/
theorem callouts_fit_iff (d : SeatRef) (old_session new_session : Option SessionRef)
    (x : SessionRef) (action : CString) :
    (ck_seat_run_programs SYSCONFDIR LIBDIR environ m details d old_session new_session
        action).extra_env.Fits ∧
      (ck_session_run_programs SYSCONFDIR LIBDIR environ m details x action).extra_env.Fits ↔
    all_session_fields_set m details x = false := by
  have hseat : (ck_seat_run_programs SYSCONFDIR LIBDIR environ m details d old_session new_session
      action).extra_env.Fits := seat_extra_env_fits m details d old_session new_session
  rw [and_iff_right hseat]
  exact session_extra_env_fits_iff m details x

end

/-- A login on an X server of another host, whose display manager names its
    devices, too. -/
def remote_login : State :=
  (ck_manager_init true 1).setSession 0
    { id := cstr "Session1", leader := 0
      display_device := some (cstr "/dev/pts/0")
      x11_display_device := some (cstr "/dev/tty7")
      x11_display := some (cstr "remote:0")
      remote_host_name := some (cstr "remote")
      login_session_id := none, unix_user := 1000, vtnr := 7, creation_time := []
      is_local := false, seat := none, active := false, activate := [] }

/-- The service and the type are what `register_session` makes of NULL. -/
def unspecified_details : Details where
  session_service := fun _ => some (cstr "unspecified")
  session_type := fun _ => some (cstr "unspecified")
  runtime_dir := fun _ => none
  devices := fun _ => []
  getpwuid := fun _ => none
  uid_address := id
  stored := id

theorem remote_login_overflows :
    ¬ (ck_session_run_programs (cstr "/etc") (cstr "/usr/lib") [none] remote_login
      unspecified_details 0 (cstr "session_added")).extra_env.Fits := by
  decide

end Database
