import ConsoleKit.Leader.Environ
import ConsoleKit.Leader.Stat
import ConsoleKit.Manager.Feed

/-! # Looking up sessions

    Clients ask the manager for the session that has an id or a cookie, that
    a process is in, or that a user has.  The session of a process is found
    through its process group or through the cookie in its environment.

    This module provides:
    - the queries,
    - `Carries`: an environment with a cookie,
    - `told_of_cookie`: what is told of a process with a cookie.
-/

namespace CkManager

open Libc Leader

/-! ## Section 1: The queries -/

/-- What the bus and the kernel tell about processes. -/
structure Peers where
  /-- The user and the process behind a connection. -/
  get_caller_info : CString → Option (Nat × UInt32)
  environ : Int → Option CString
  proc_stat : Int32 → Option CString
  /-- NULL if there is no cgmanager, and for the group `/`. -/
  ck_process_group_get_ssid : Int32 → Option CString

inductive LookupError where
  | GENERAL | INVALID_INPUT
  deriving DecidableEq

abbrev Found := Except (LookupError × String) CString

namespace State

def get_session_from_id (m : State) (arg_session_id : CString) : Option SessionRef :=
  m.sessions.lookup arg_session_id

def dbus_get_session (m : State) (ssid : CString) : Found :=
  match m.get_session_from_id ssid with
  | none => .error (.GENERAL, "Unable to find session for ID")
  | some x => .ok (m.ck_session_get_path x)

/-- The session of the leader that is registered under the cookie. -/
def session_for_cookie (m : State) (cookie : CString) : Option SessionRef :=
  (m.leaders.lookup cookie).bind fun l => m.sessions.lookup (m.leader l).session_id

/-- The result is `none` if the status of the caller is no status line. -/
def dbus_get_session_for_cookie (m : State) (peers : Peers) (sender cookie : CString) :
    Option Found :=
  match peers.get_caller_info sender with
  | none => some (.error (.GENERAL, "Unable to get information about the calling process"))
  | some (_, calling_pid) =>
    match ck_process_stat_new_for_unix_pid peers.proc_stat calling_pid.toInt32 with
    | none => some (.error (.GENERAL, "Unable to lookup information about calling process '" ++
        toString calling_pid.toInt32 ++ "'"))
    | some none => none
    | some (some _) =>
      match m.session_for_cookie cookie with
      | none => some (.error (.GENERAL, "Unable to find session for cookie"))
      | some x => some (.ok (m.ck_session_get_path x))

/-- The cookie that a session was opened with. -/
def cookie_of_session (m : State) (x : SessionRef) : CString :=
  (m.leader (m.session x).leader).cookie

def get_cookie_for_pid (m : State) (peers : Peers) (pid : UInt32) (rounds : Nat) :
    Option (Option CString) :=
  match (peers.ck_process_group_get_ssid pid.toInt32).bind m.sessions.lookup with
  | some x => some (some (m.cookie_of_session x))
  | none =>
    ck_unix_pid_get_env peers.environ pid.toInt32.toInt (cstr "XDG_SESSION_COOKIE") rounds

/-- The result is `none` if the environment is not searched in this many
    rounds. -/
def dbus_get_session_for_unix_process (m : State) (peers : Peers) (sender : CString)
    (pid : UInt32) (rounds : Nat) : Option Found :=
  if pid ≤ 1 ∨ UInt32.ofNat (2 ^ 32 - 1) ≤ pid then
    some (.error (.INVALID_INPUT, "pid must be > 1"))
  else
    match peers.get_caller_info sender with
    | none => some (.error (.GENERAL, "Unable to get information about the calling process"))
    | some _ => do
      match ← m.get_cookie_for_pid peers pid rounds with
      | none => some (.error (.GENERAL, "Unable to lookup session information for process '" ++
          toString pid.toInt32 ++ "'"))
      | some cookie => m.dbus_get_session_for_cookie peers sender cookie

def dbus_get_session_by_pid (m : State) (peers : Peers) (sender : CString) (pid : UInt32)
    (rounds : Nat) : Option Found :=
  m.dbus_get_session_for_unix_process peers sender pid rounds

def dbus_get_current_session (m : State) (peers : Peers) (sender : CString) (rounds : Nat) :
    Option Found :=
  match peers.get_caller_info sender with
  | none => some (.error (.GENERAL, "Unable to get information about the calling process"))
  | some (_, calling_pid) =>
    m.dbus_get_session_for_unix_process peers sender calling_pid rounds

end State

/-! ## Section 2: The session of a process -/

/-- The first entry of the environment that assigns the cookie. -/
def Carries (environ : Int → Option CString) (pid : Int) (entry : CString) : Prop :=
  ∃ contents, environ pid = some contents ∧ contents.length < 2 ^ 32 ∧
    (entries contents).find? (assigns (cstr "XDG_SESSION_COOKIE")) = some entry

/-- The caller is a process that the bus and the kernel know. -/
structure Peers.Knows (peers : Peers) (sender : CString) (pid : UInt32) : Prop where
  caller : ∃ uid, peers.get_caller_info sender = some (uid, pid)
  stat : ∃ stat, ck_process_stat_new_for_unix_pid peers.proc_stat pid.toInt32 = some (some stat)

section
variable {m : State} {peers : Peers} {sender : CString} {caller pid : UInt32}

theorem dbus_get_session_for_cookie_known (h : peers.Knows sender caller) (cookie : CString) :
    m.dbus_get_session_for_cookie peers sender cookie =
      match m.session_for_cookie cookie with
      | none => some (.error (.GENERAL, "Unable to find session for cookie"))
      | some x => some (.ok (m.ck_session_get_path x)) := by
  obtain ⟨⟨uid, hcaller⟩, stat, hstat⟩ := h
  simp only [State.dbus_get_session_for_cookie, hcaller, hstat]

/-- The cookie in the environment, unless the process is in the group of a
    session. -/
theorem get_cookie_for_pid_carries {cookie : CString} (hpid : 1 < pid.toInt32.toInt)
    (hgroup : (peers.ck_process_group_get_ssid pid.toInt32).bind m.sessions.lookup = none)
    (henv : Carries peers.environ pid.toInt32.toInt (cstr "XDG_SESSION_COOKIE" ++ '=' :: cookie)) :
    ∃ rounds, m.get_cookie_for_pid peers pid rounds = some (some cookie) := by
  obtain ⟨contents, hread, hlength, hfind⟩ := henv
  rcases @get_env_loop_returns contents (cstr "XDG_SESSION_COOKIE") (.inl hlength) with
    ⟨_, _, hnone⟩ | ⟨rounds, value, hvalue, hfirst⟩
  · rw [hfind] at hnone
    cases hnone
  · rw [hfind] at hfirst
    have heq : cookie = value := by
      simpa using List.append_cancel_left (Option.some.inj hfirst)
    refine ⟨rounds, ?_⟩
    rw [State.get_cookie_for_pid, hgroup]
    simp only [ck_unix_pid_get_env, if_pos hpid, hread, Option.elim_some]
    rw [hvalue, heq]

/-- The cookie of the session whose group the process is in. -/
theorem get_cookie_for_pid_group {x : SessionRef}
    (hgroup : (peers.ck_process_group_get_ssid pid.toInt32).bind m.sessions.lookup = some x)
    (rounds : Nat) :
    m.get_cookie_for_pid peers pid rounds = some (some (m.cookie_of_session x)) := by
  rw [State.get_cookie_for_pid, hgroup]

/-- What the manager tells of the session of a process, to others and to the
    process itself. -/
structure Told (m : State) (peers : Peers) (pid : UInt32) (answer : Found) : Prop where
  process : ∀ sender caller, peers.Knows sender caller →
    ∃ rounds, m.dbus_get_session_for_unix_process peers sender pid rounds = some answer
  current : ∀ sender, peers.Knows sender pid →
    ∃ rounds, m.dbus_get_current_session peers sender rounds = some answer

theorem toInt_toInt32 (pid : UInt32) : pid.toInt32.toInt = (pid.toNat : Int).bmod (2 ^ 32) :=
  BitVec.toInt_eq_toNat_bmod pid.toBitVec

theorem one_lt_of_toInt32 (hpid : 1 < pid.toInt32.toInt) :
    ¬ (pid ≤ 1 ∨ UInt32.ofNat (2 ^ 32 - 1) ≤ pid) := by
  have hlt := pid.toNat_lt
  rw [toInt_toInt32, Int.bmod_def] at hpid
  rw [UInt32.le_iff_toNat_le, UInt32.le_iff_toNat_le, UInt32.toNat_ofNat_of_lt' (by decide)]
  simp only [UInt32.toNat_one]
  omega

theorem told_of_cookie (cookie : CString) {answer : Found} (hpid : 1 < pid.toInt32.toInt)
    (hcookie : ∃ rounds, m.get_cookie_for_pid peers pid rounds = some (some cookie))
    (hanswer : answer = match m.session_for_cookie cookie with
      | none => .error (.GENERAL, "Unable to find session for cookie")
      | some x => .ok (m.ck_session_get_path x)) : Told m peers pid answer := by
  have hprocess : ∀ sender caller, peers.Knows sender caller →
      ∃ rounds, m.dbus_get_session_for_unix_process peers sender pid rounds = some answer := by
    intro sender caller hknown
    obtain ⟨rounds, hrounds⟩ := hcookie
    obtain ⟨uid, hcaller⟩ := hknown.caller
    refine ⟨rounds, ?_⟩
    rw [State.dbus_get_session_for_unix_process, if_neg (one_lt_of_toInt32 hpid)]
    simp only [hcaller, hrounds, Option.bind_eq_bind, Option.bind_some]
    rw [dbus_get_session_for_cookie_known hknown, hanswer]
    cases m.session_for_cookie cookie <;> rfl
  refine ⟨hprocess, fun sender hknown => ?_⟩
  obtain ⟨rounds, hrounds⟩ := hprocess sender pid hknown
  obtain ⟨uid, hcaller⟩ := hknown.caller
  refine ⟨rounds, ?_⟩
  simp only [State.dbus_get_current_session, hcaller]
  exact hrounds

end

end CkManager
