import ConsoleKit.Framework.KeyFile
import ConsoleKit.SystemAction.Users

/-! # What the database says

    `do_dump` puts the seats, the sessions, the leaders and the users into a
    key file.  Tables are walked in their order.

    `collect_user_data_dump` keys its table by the address of a local
    variable, and `dump_user_iter` reads the user id from there when the
    function has long returned: both are parameters.
-/

namespace Database

open CkManager Libc

/-! ## Section 1: What is read besides the manager's state -/

structure Details where
  session_service : SessionRef → Option CString
  session_type : SessionRef → Option CString
  runtime_dir : SessionRef → Option CString
  /-- The members of each device of a seat. -/
  devices : SeatRef → List (List CString)
  getpwuid : Nat → Option CString
  /-- The address of `uid` in the n-th call of `collect_user_data_dump`. -/
  uid_address : Nat → Nat
  /-- What is stored at an address after the calls. -/
  stored : Nat → Nat

/-! ## Section 2: Groups -/

/-- `NONULL_STRING` -/
def NONULL_STRING (s : Option CString) : CString := s.getD []

/-- Adds an element to a list in a string. -/
def append_element (separator : Char) (str element : CString) : CString :=
  (if str ≠ [] then str ++ [separator] else str) ++ element

section
variable (m : State) (details : Details)

def dump_manager_seat_iter (str : CString) (d : SeatRef) : CString :=
  append_element ';' str (m.seat d).id

def dump_seat_session_iter (str : CString) (x : SessionRef) : CString :=
  append_element ' ' str (m.session x).id

/-- The members of a device, separated by colons. -/
def dump_device (str : CString) (device : List CString) : CString :=
  append_element ' ' str ((device.intersperse (cstr ":")).flatten)

def kind_number : CkSeatKind → Nat
  | .STATIC => 0
  | .DYNAMIC => 1

def ck_seat_dump (key_file : GKeyFile) (d : SeatRef) : GKeyFile :=
  let group_name := cstr "Seat " ++ (m.seat d).id
  let key_file := key_file.set_integer group_name (cstr "kind") (kind_number (m.seat d).kind)
  let key_file := key_file.set_string group_name (cstr "sessions")
    ((m.seat d).sessions.values.foldl (dump_seat_session_iter m) [])
  let key_file := key_file.set_string group_name (cstr "devices")
    ((details.devices d).foldl dump_device [])
  match (m.seat d).active_session with
  | some x => key_file.set_string group_name (cstr "active_session") (m.session x).id
  | none => key_file

/-- A key that is left out if its value is NULL. -/
def set_nonnull (key_file : GKeyFile) (group_name key : CString) (value : Option CString) :
    GKeyFile :=
  match value with
  | some s => key_file.set_string group_name key s
  | none => key_file

/-- A key that is left out if its value is NULL or empty. -/
def set_nonempty (key_file : GKeyFile) (group_name key : CString) (value : Option CString) :
    GKeyFile :=
  if State.is_str_set value then key_file.set_string group_name key (NONULL_STRING value)
  else key_file

def ck_session_dump (key_file : GKeyFile) (x : SessionRef) : GKeyFile :=
  let session := m.session x
  let group_name := cstr "Session " ++ session.id
  let key_file := key_file.set_integer group_name (cstr "uid") session.unix_user
  let key_file := key_file.set_string group_name (cstr "seat")
    (NONULL_STRING (session.seat.map fun d => (m.seat d).id))
  let key_file := set_nonnull key_file group_name (cstr "service") (details.session_service x)
  let key_file := set_nonnull key_file group_name (cstr "type") (details.session_type x)
  let key_file :=
    set_nonempty key_file group_name (cstr "login_session_id") session.login_session_id
  let key_file := set_nonempty key_file group_name (cstr "display_device") session.display_device
  let key_file :=
    set_nonempty key_file group_name (cstr "x11_display_device") session.x11_display_device
  let key_file := set_nonempty key_file group_name (cstr "x11_display") session.x11_display
  let key_file :=
    set_nonempty key_file group_name (cstr "remote_host_name") session.remote_host_name
  let key_file := key_file.set_string group_name (cstr "remote_host_name")
    (NONULL_STRING session.remote_host_name)
  let key_file := key_file.set_boolean group_name (cstr "is_active") session.active
  let key_file := key_file.set_boolean group_name (cstr "is_local") session.is_local
  let key_file := key_file.set_string group_name (cstr "XDG_RUNTIME_DIR")
    (NONULL_STRING (details.runtime_dir x))
  key_file.set_string group_name (cstr "creation_time") session.creation_time

def ck_session_leader_dump (key_file : GKeyFile) (l : LeaderRef) : GKeyFile :=
  let leader := m.leader l
  let group_name := cstr "SessionLeader " ++ leader.session_id
  let key_file := key_file.set_string group_name (cstr "session") leader.session_id
  let key_file := key_file.set_integer group_name (cstr "uid") leader.uid
  let key_file := key_file.set_integer group_name (cstr "pid") leader.pid
  key_file.set_string group_name (cstr "service_name") leader.service_name

/-! ## Section 3: Users -/

structure UserDataDump where
  sessions : CString
  is_local : Bool

/-- The n-th call. -/
def collect_user_data_dump (hash : HashTable Nat UserDataDump)
    (entry : Nat × (Σ _ : CString, SessionRef)) : HashTable Nat UserDataDump :=
  let (n, ⟨ssid, x⟩) := entry
  -- ensure we filter out DMs and stuff
  match SystemAction.session_is_real_user details.getpwuid (m.session x) with
  | some (some _) =>
    let data := (hash.lookup (details.uid_address n)).getD ⟨[], false⟩
    hash.insert (details.uid_address n)
      { sessions := append_element ';' data.sessions ssid
        is_local := data.is_local || (m.session x).is_local }
  | _ => hash

def dump_user_iter (key_file : GKeyFile) (entry : Σ _ : Nat, UserDataDump) : GKeyFile :=
  let user_group := cstr "User " ++ percent_u (details.stored entry.1)
  let key_file := key_file.set_boolean user_group (cstr "is_local") entry.2.is_local
  key_file.set_string user_group (cstr "sessions") entry.2.sessions

def dump_user_section (key_file : GKeyFile) : GKeyFile :=
  let users_hash := ((List.range m.sessions.entries.length).zip m.sessions.entries).foldl
    (collect_user_data_dump m details) ∅
  users_hash.entries.foldl (dump_user_iter details) key_file

/-! ## Section 4: The key file -/

/-- The key file of `do_dump`. -/
def database : GKeyFile :=
  let key_file := g_key_file_new.set_string (cstr "Seats") (cstr "seats")
    (m.seats.values.foldl (dump_manager_seat_iter m) [])
  let key_file := m.seats.values.foldl (ck_seat_dump m details) key_file
  let key_file := m.sessions.values.foldl (ck_session_dump m details) key_file
  let key_file := m.leaders.values.foldl (ck_session_leader_dump m) key_file
  dump_user_section m details key_file

end

/-! ## Section 5: The groups of the sessions -/

def session_group (m : State) (x : SessionRef) : CString := cstr "Session " ++ (m.session x).id

/-- Groups of other things than sessions. -/
def Elsewhere (group_name : CString) : Prop := (cstr "Session ").isPrefixOf group_name = false

section
variable {m : State} {details : Details}

open GKeyFile

theorem not_elsewhere_session_group (x : SessionRef) : ¬ Elsewhere (session_group m x) := by
  intro h
  unfold Elsewhere session_group at h
  rw [List.isPrefixOf_iff_prefix.mpr (List.prefix_append _ _)] at h
  cases h

theorem ck_seat_dump_written {groups : CString → Prop} {d : SeatRef}
    (hgroup : groups (cstr "Seat " ++ (m.seat d).id)) (k : GKeyFile) :
    Written groups k (ck_seat_dump m details k d) := by
  have hdevices := (((Written.refl k).set_integer hgroup (cstr "kind")
    (kind_number (m.seat d).kind)).set_string hgroup (cstr "sessions")
      ((m.seat d).sessions.values.foldl (dump_seat_session_iter m) [])).set_string hgroup
        (cstr "devices") ((details.devices d).foldl dump_device [])
  unfold ck_seat_dump
  cases (m.seat d).active_session with
  | none => exact hdevices
  | some x => exact hdevices.set_string hgroup _ _

theorem ck_session_leader_dump_written {groups : CString → Prop} {l : LeaderRef}
    (hgroup : groups (cstr "SessionLeader " ++ (m.leader l).session_id)) (k : GKeyFile) :
    Written groups k (ck_session_leader_dump m k l) :=
  ((((Written.refl k).set_string hgroup _ _).set_integer hgroup _ _).set_integer
    hgroup _ _).set_string hgroup _ _

theorem dump_user_iter_written {groups : CString → Prop} {entry : Σ _ : Nat, UserDataDump}
    (hgroup : groups (cstr "User " ++ percent_u (details.stored entry.1))) (k : GKeyFile) :
    Written groups k (dump_user_iter details k entry) :=
  ((Written.refl k).set_boolean hgroup _ _).set_string hgroup _ _

theorem set_nonnull_written {groups : CString → Prop} {k k' : GKeyFile}
    (h : Written groups k k') {group_name : CString} (hgroup : groups group_name)
    (key : CString) (value : Option CString) :
    Written groups k (set_nonnull k' group_name key value) := by
  cases value with
  | none => exact h
  | some s => exact h.set_string hgroup key s

theorem set_nonempty_written {groups : CString → Prop} {k k' : GKeyFile}
    (h : Written groups k k') {group_name : CString} (hgroup : groups group_name)
    (key : CString) (value : Option CString) :
    Written groups k (set_nonempty k' group_name key value) := by
  unfold set_nonempty
  split
  · exact h.set_string hgroup key _
  · exact h

theorem ck_session_dump_written {groups : CString → Prop} {x : SessionRef}
    (hgroup : groups (session_group m x)) (k : GKeyFile) :
    Written groups k (ck_session_dump m details k x) := by
  unfold session_group at hgroup
  unfold ck_session_dump
  dsimp only
  refine Written.set_string (.set_string (.set_boolean (.set_boolean (.set_string ?_ hgroup _ _)
    hgroup _ _) hgroup _ _) hgroup _ _) hgroup _ _
  refine set_nonempty_written (set_nonempty_written (set_nonempty_written (set_nonempty_written
    (set_nonempty_written ?_ hgroup _ _) hgroup _ _) hgroup _ _) hgroup _ _) hgroup _ _
  refine set_nonnull_written (set_nonnull_written ?_ hgroup _ _) hgroup _ _
  exact ((Written.refl k).set_integer hgroup _ _).set_string hgroup _ _

theorem ck_session_dump_own (k : GKeyFile) (x : SessionRef) :
    Written (· = session_group m x) k (ck_session_dump m details k x) := by
  apply ck_session_dump_written
  rfl

theorem get_value_set_nonnull_of_ne {key key' : CString} (h : key' ≠ key) (k : GKeyFile)
    (group_name : CString) (value : Option CString) (group_name' : CString) :
    (set_nonnull k group_name key value).get_value group_name' key' =
      k.get_value group_name' key' := by
  cases value with
  | none => rfl
  | some s => exact get_value_set_of_ne h ..

theorem get_value_set_nonempty_of_ne {key key' : CString} (h : key' ≠ key) (k : GKeyFile)
    (group_name : CString) (value : Option CString) (group_name' : CString) :
    (set_nonempty k group_name key value).get_value group_name' key' =
      k.get_value group_name' key' := by
  unfold set_nonempty
  split
  · exact get_value_set_of_ne h ..
  · rfl

/-- The values of a session's group that tell who may use the devices. -/
theorem ck_session_dump_values (k : GKeyFile) (x : SessionRef) :
    (ck_session_dump m details k x).get_value (session_group m x) (cstr "is_local") =
      some (if (m.session x).is_local then cstr "true" else cstr "false") ∧
    (ck_session_dump m details k x).get_value (session_group m x) (cstr "is_active") =
      some (if (m.session x).active then cstr "true" else cstr "false") ∧
    (ck_session_dump m details k x).get_value (session_group m x) (cstr "uid") =
      some (percent_d (Int32.ofNat (m.session x).unix_user)) := by
  unfold session_group ck_session_dump
  simp (disch := decide) only [set_string, set_boolean, set_integer, get_value_set_self,
    get_value_set_of_ne, get_value_set_nonempty_of_ne, get_value_set_nonnull_of_ne, and_self]

theorem session_group_of_dump (k : GKeyFile) (x : SessionRef) :
    session_group m x ∈ (ck_session_dump m details k x).get_groups := by
  unfold session_group ck_session_dump
  exact (mem_get_groups_set_value ..).mpr (.inl rfl)

/-- The groups before and after those of the sessions are no such groups. -/
theorem database_written : ∃ k,
    (∀ group_name, ¬ Elsewhere group_name → group_name ∉ k.get_groups) ∧
    Written Elsewhere (m.sessions.values.foldl (ck_session_dump m details) k)
      (database m details) := by
  have hleaders : ∀ k l, Written Elsewhere k (ck_session_leader_dump m k l) := by
    intro k l
    have hgroup : Elsewhere (cstr "SessionLeader " ++ (m.leader l).session_id) := rfl
    exact ck_session_leader_dump_written hgroup k
  have husers : ∀ k entry, Written Elsewhere k (dump_user_iter details k entry) := by
    intro k entry
    have hgroup : Elsewhere (cstr "User " ++ percent_u (details.stored entry.1)) := rfl
    exact dump_user_iter_written hgroup k
  have hseat : ∀ k d, Written Elsewhere k (ck_seat_dump m details k d) := by
    intro k d
    have hgroup : Elsewhere (cstr "Seat " ++ (m.seat d).id) := rfl
    exact ck_seat_dump_written hgroup k
  refine ⟨_, fun group_name hgroup => ?_, (Written.foldl hleaders _ _).trans
    (Written.foldl husers _ _)⟩
  have hseats : Elsewhere (cstr "Seats") := rfl
  rw [(Written.foldl hseat _ _).group _ hgroup,
    ((Written.refl g_key_file_new).set_string hseats _ _).group _ hgroup]
  exact List.not_mem_nil

/-- The groups of the sessions are those with this beginning. -/
theorem mem_session_groups {group_name : CString} (hgroup : ¬ Elsewhere group_name) :
    group_name ∈ (database m details).get_groups ↔
      ∃ x ∈ m.sessions.values, group_name = session_group m x := by
  obtain ⟨k, hk, hwritten⟩ := @database_written m details
  rw [hwritten.group _ hgroup, mem_get_groups_foldl ck_session_dump_own session_group_of_dump]
  exact or_iff_left (hk _ hgroup)

/-- What a session's group says, if no other session has its id. -/
theorem database_session {x : SessionRef} (hx : x ∈ m.sessions.values)
    (hid : ∀ y ∈ m.sessions.values, (m.session y).id = (m.session x).id → y = x) :
    (database m details).get_boolean (session_group m x) (cstr "is_local") =
      (m.session x).is_local ∧
    (database m details).get_boolean (session_group m x) (cstr "is_active") =
      (m.session x).active ∧
    (database m details).get_integer (session_group m x) (cstr "uid") =
      (Int32.ofNat (m.session x).unix_user).toInt := by
  obtain ⟨k, -, hwritten⟩ := @database_written m details
  have hdistinct : ∀ y ∈ m.sessions.values, session_group m y = session_group m x → y = x :=
    fun y hy heq => hid y hy (List.append_cancel_left heq)
  have hvalue : ∀ {key value}, (∀ k, (ck_session_dump m details k x).get_value
      (session_group m x) key = some value) →
      (database m details).get_value (session_group m x) key = some value := by
    intro key value hset
    rw [hwritten.value _ _ (not_elsewhere_session_group x)]
    exact get_value_foldl ck_session_dump_own hset hdistinct hx k
  refine ⟨get_boolean_of_value (hvalue fun k => ?_), get_boolean_of_value (hvalue fun k => ?_),
    get_integer_of_value (hvalue fun k => ?_)⟩
  · exact (ck_session_dump_values k x).1
  · exact (ck_session_dump_values k x).2.1
  · exact (ck_session_dump_values k x).2.2

end

end Database
