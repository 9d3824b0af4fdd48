import ConsoleKit.Database.Write
import ConsoleKit.Manager.Active

/-! # The ACLs of the devices

    `udev-acl` is run from `run-seat.d` when the active session of a seat has
    changed.  It gets the old and the new session in its environment and finds
    the other ones in the database, and gives and takes access to the devices.

    This module provides:
    - `extra_env`, the environment that `ck_seat_run_programs` makes,
    - `udev_acl`, the tool,
    - `switches`: seats that change their active session one after another,
      while sessions come and go,
    - `acl_follows_sessions`: who has access after each change.
-/

namespace Database

open CkManager Libc

/-! ## Section 1: The environment -/

section
variable (m : State) (details : Details)

/-- A variable is left out if its value is NULL or empty. -/
def env_entries (entries : List (CString × Option CString)) : List (CString × CString) :=
  entries.filterMap fun e => if State.is_str_set e.2 then some (e.1, NONULL_STRING e.2) else none

def env_add_session_info (start : CString) : Option SessionRef → List (CString × Option CString)
  | none => []
  | some x =>
    let session := m.session x
    [(start ++ cstr "ID", some session.id),
      (start ++ cstr "TYPE", details.session_type x),
      (start ++ cstr "USER_UID", some (percent_u session.unix_user)),
      (start ++ cstr "DISPLAY_DEVICE", session.display_device),
      (start ++ cstr "X11_DISPLAY_DEVICE", session.x11_display_device),
      (start ++ cstr "X11_DISPLAY", session.x11_display),
      (start ++ cstr "REMOTE_HOST_NAME", session.remote_host_name),
      (start ++ cstr "IS_LOCAL", some (if session.is_local then cstr "true" else cstr "false"))]

/-- The environment of the programs that `ck_seat_run_programs` runs. -/
def extra_env (d : SeatRef) (old_session new_session : Option SessionRef) :
    List (CString × CString) :=
  (cstr "CK_SEAT_ID", (m.seat d).id) :: env_entries
    (env_add_session_info m details (cstr "CK_SEAT_OLD_SESSION_") old_session ++
      env_add_session_info m details (cstr "CK_SEAT_SESSION_") new_session)

end

/-! ## Section 2: The tool -/

structure AclPermset where
  read : Bool
  write : Bool
  execute : Bool

/-- The `ACL_USER` entries of a file; no two of them have the same user. -/
abbrev Acl := HashTable Nat AclPermset

/-- Calls of the ACL library succeed. -/
def set_facl (acl : Acl) (uid : Nat) (add : Bool) : Acl :=
  -- don't touch ACLs for root
  if uid = 0 then acl
  -- remove ACL_USER entry for uid
  else if !add then acl.erase uid
  else
    let permset := (acl.lookup uid).getD ⟨false, false, false⟩
    acl.insert uid { permset with read := true, write := true }

/-- The conversion of an `int` to `uid_t`. -/
def to_uid_t (n : Int) : Nat := (n % 2 ^ 32).toNat

/-- One group of the loop of `uids_with_local_active_session`. -/
def add_uid (keyfile : GKeyFile) (own_id : Option CString) (list : List Nat) (group : CString) :
    List Nat :=
  if !(cstr "Session ").isPrefixOf group then list
  else if own_id.any fun id => id.isSuffixOf group then list
  else if !keyfile.get_boolean group (cstr "is_local") then list
  else if !keyfile.get_boolean group (cstr "is_active") then list
  else
    let u := to_uid_t (keyfile.get_integer group (cstr "uid"))
    if 0 < u ∧ u ∉ list then u :: list else list

def uids_with_local_active_session (keyfile : GKeyFile) (own_id : Option CString) : List Nat :=
  keyfile.get_groups.foldl (add_uid keyfile own_id) []

inductive Action where
  | NONE | REMOVE | ADD | CHANGE
  deriving DecidableEq

/-- What `consolekit_called` sets. -/
structure Called where
  uid : Nat
  uid2 : Nat
  remove_session_id : Option CString
  action : Action

/-- A user id in the environment. -/
def uid_of_env (s : CString) : Nat := (strtoul s).1 % 2 ^ 32

/-- `none` is the result -1; with the result 0 nothing may have been set. -/
def consolekit_called (ck_action : Option CString) (getenv : CString → Option CString) :
    Option (Option Called) :=
  if ck_action ≠ some (cstr "seat_active_session_changed") then none
  else
    -- we can have one of: remove, add, change, no-change
    match getenv (cstr "CK_SEAT_OLD_SESSION_ID"), getenv (cstr "CK_SEAT_SESSION_ID") with
    | none, none => none
    | none, some _ => do
      let u ← getenv (cstr "CK_SEAT_SESSION_USER_UID")
      let is_local ← getenv (cstr "CK_SEAT_SESSION_IS_LOCAL")
      if is_local ≠ cstr "true" then some none
      else some (some ⟨uid_of_env u, 0, none, .ADD⟩)
    | some old_session, none => do
      let u ← getenv (cstr "CK_SEAT_OLD_SESSION_USER_UID")
      let is_local ← getenv (cstr "CK_SEAT_OLD_SESSION_IS_LOCAL")
      if is_local ≠ cstr "true" then some none
      else some (some ⟨uid_of_env u, 0, some old_session, .REMOVE⟩)
    | some old_session, some _ => do
      let u ← getenv (cstr "CK_SEAT_OLD_SESSION_USER_UID")
      let u2 ← getenv (cstr "CK_SEAT_SESSION_USER_UID")
      let s ← getenv (cstr "CK_SEAT_OLD_SESSION_IS_LOCAL")
      let s2 ← getenv (cstr "CK_SEAT_SESSION_IS_LOCAL")
      -- don't process non-local session changes
      if s ≠ cstr "true" ∧ s2 ≠ cstr "true" then some none
      else if s = cstr "true" ∧ s2 = cstr "true" then
        -- we noop if we are changing between local sessions for the same uid
        let action := if uid_of_env u = uid_of_env u2 then Action.NONE else Action.CHANGE
        some (some ⟨uid_of_env u, uid_of_env u2, some old_session, action⟩)
      -- only process the removal
      else if s = cstr "true" then
        some (some ⟨uid_of_env u, uid_of_env u2, some old_session, .REMOVE⟩)
      -- only process the addition
      else some (some ⟨uid_of_env u2, uid_of_env u2, none, .ADD⟩)

section
variable {Device : Type}

/-- All devices here have the tag `udev-acl`. -/
def apply_acl_to_devices (acls : Device → Acl) (uid : Nat) (add : Bool) : Device → Acl :=
  fun device => set_facl (acls device) uid add

def remove_uid (keyfile : GKeyFile) (acls : Device → Acl) (uid : Nat)
    (remove_session_id : Option CString) : Device → Acl :=
  if uid ∈ uids_with_local_active_session keyfile remove_session_id then acls
  else apply_acl_to_devices acls uid false

/-- The part of `main` for a given user id. -/
def run_action (keyfile : GKeyFile) (acls : Device → Acl) (called : Called) : Device → Acl :=
  match called.action with
  | .ADD => apply_acl_to_devices acls called.uid true
  | .REMOVE => remove_uid keyfile acls called.uid called.remove_session_id
  | .CHANGE => apply_acl_to_devices
      (remove_uid keyfile acls called.uid called.remove_session_id) called.uid2 true
  | .NONE => acls

/-- `main` without options: the ACLs and the exit status. -/
def udev_acl (argument : Option CString) (getenv : CString → Option CString) (keyfile : GKeyFile)
    (acls : Device → Acl) : (Device → Acl) × Nat :=
  match consolekit_called argument getenv with
  | some (some called) => (run_action keyfile acls called, 0)
  -- missing action
  | some none | none => (acls, 2)

end

/-! ## Section 3: Seats that change their active session -/

structure Switching (Device : Type) where
  state : State
  acls : Device → Acl

inductive SwitchLabel where
  /-- The seat changes its active session. -/
  | change (seat : SeatRef) (session : Option SessionRef) (details : Details)
  /-- A session with a new id, with the other properties of the given one. -/
  | opened (serial : Nat) (session : CkSession)
  | closed (ssid : CString)

/-- A user has a session that is local and active. -/
def LocalActive (m : State) (uid : Nat) : Prop :=
  ∃ x ∈ m.sessions.values, (m.session x).is_local = true ∧ (m.session x).active = true ∧
    (m.session x).unix_user = uid

/-- The users with an entry are those with a local active session, but for
    root. -/
def AclExact {Device : Type} (s : Switching Device) : Prop :=
  ∀ device uid, uid ≠ 0 → (uid ∈ s.acls device ↔ LocalActive s.state uid)

/-- The sessions have the ids that the manager gives out, and user ids are
    numbers of 32 bits.  The active session of a seat is a session of that
    seat, and active. -/
structure SwitchReady (m : State) : Prop where
  fresh : ∀ x ∈ m.sessions.values, x < m.next_session
  id : ∀ {k x}, m.sessions.lookup k = some x → (m.session x).id = k
  generated : ∀ x ∈ m.sessions.values, ∃ n, (m.session x).id = cstr "Session" ++ percent_u n
  uid : ∀ x ∈ m.sessions.values, (m.session x).unix_user < 2 ^ 32
  active : ∀ {d x}, (m.seat d).active_session = some x →
    x ∈ m.sessions.values ∧ (m.session x).active = true ∧ (m.session x).seat = some d

/-- The session is one of the seat's, if there is one. -/
def IsSeatSession (m : State) (d : SeatRef) (session : Option SessionRef) : Bool :=
  session.all fun x => decide (x ∈ m.sessions.values) && decide ((m.session x).seat = some d)

/-- A new session is not active yet. -/
def open_session (m : State) (id : CString) (session : CkSession) : State :=
  m.insertSession m.next_session { session with id := id, active := false }

/-- After a change the manager dumps the database and runs the tool. -/
def switch_next {Device : Type} (s : Switching Device) :
    SwitchLabel → Option (Switching Device)
  | .change d session details =>
    let old_session := (s.state.seat d).active_session
    if old_session ≠ session ∧ IsSeatSession s.state d session then
      let m := (s.state.change_active_session d session).1
      let env := extra_env m details d old_session session
      some ⟨m, (udev_acl (some (cstr "seat_active_session_changed"))
        (fun name => env.lookup name) (database m details) s.acls).1⟩
    else none
  | .opened serial session =>
    let id := cstr "Session" ++ percent_u serial
    if s.state.sessions.lookup id = none ∧ session.unix_user < 2 ^ 32 then
      some { s with state := open_session s.state id session }
    else none
  | .closed ssid =>
    (s.state.sessions.lookup ssid).bind fun x =>
      -- its seat has another active session by now
      if (s.state.session x).active then none
      else some { s with state := { s.state with sessions := s.state.sessions.erase ssid } }

def switches (Device : Type) : LTS.System (Switching Device) SwitchLabel where
  init s := SwitchReady s.state ∧ AclExact s
  next := switch_next

/-! ## Section 4: What the tool reads -/

section
variable {m : State} {details : Details}

theorem lookup_env_of_ne {name name' : CString} (h : name ≠ name') (value : Option CString)
    (entries : List (CString × Option CString)) :
    (env_entries ((name', value) :: entries)).lookup name = (env_entries entries).lookup name := by
  unfold env_entries
  rw [List.filterMap_cons]
  split
  · rfl
  · rename_i h'
    split at h'
    · cases h'
      exact lookup_cons_of_ne h _ _
    · cases h'

theorem lookup_env_self (name : CString) {value : CString} (h : value ≠ [])
    (entries : List (CString × Option CString)) :
    (env_entries ((name, some value) :: entries)).lookup name = some value := by
  have hset : State.is_str_set (some value) = true := by simp [State.is_str_set, h]
  unfold env_entries
  rw [List.filterMap_cons, if_pos hset]
  exact List.lookup_cons_self

/-- The environment tells of this session, under names with this beginning. -/
structure Tells (m : State) (getenv : CString → Option CString) (start : CString)
    (session : Option SessionRef) : Prop where
  id : getenv (start ++ cstr "ID") = session.map fun x => (m.session x).id
  uid : getenv (start ++ cstr "USER_UID") =
    session.map fun x => percent_u (m.session x).unix_user
  is_local : getenv (start ++ cstr "IS_LOCAL") =
    session.map fun x => if (m.session x).is_local then cstr "true" else cstr "false"

theorem bool_ne_nil (b : Bool) : (if b then cstr "true" else cstr "false") ≠ [] := by
  cases b <;> decide

theorem lookup_session_info_of_ne {start name : CString} (h : ∀ key, name ≠ start ++ key)
    (session : Option SessionRef) (entries : List (CString × Option CString)) :
    (env_entries (env_add_session_info m details start session ++ entries)).lookup name =
      (env_entries entries).lookup name := by
  cases session with
  | none => rfl
  | some x =>
    simp only [env_add_session_info, List.cons_append, List.nil_append, lookup_env_of_ne (h _)]

theorem Tells.congr {getenv getenv' : CString → Option CString} {start : CString}
    {session : Option SessionRef} (h : Tells m getenv start session)
    (heq : ∀ name, getenv' (start ++ name) = getenv (start ++ name)) :
    Tells m getenv' start session :=
  ⟨(heq _).trans h.id, (heq _).trans h.uid, (heq _).trans h.is_local⟩

/-- Every name that the tool reads is found, behind other ones. -/
theorem session_info_tells {start : CString} {session : Option SessionRef}
    (hid : ∀ x, session = some x → (m.session x).id ≠ [])
    {entries : List (CString × Option CString)}
    (hentries : ∀ name, (env_entries entries).lookup (start ++ name) = none) :
    Tells m (fun name => (env_entries
      (env_add_session_info m details start session ++ entries)).lookup name) start session := by
  cases session with
  | none => exact ⟨hentries _, hentries _, hentries _⟩
  | some x =>
    constructor <;>
    simp (disch := first
        | exact mt List.append_cancel_left (by decide)
        | exact hid x rfl
        | exact percent_u_ne_nil _
        | exact bool_ne_nil _) only
      [env_add_session_info, List.cons_append, lookup_env_of_ne, lookup_env_self,
        Option.map_some]

theorem extra_env_tells {old_session new_session : Option SessionRef} (d : SeatRef)
    (hold : ∀ x, old_session = some x → (m.session x).id ≠ [])
    (hnew : ∀ x, new_session = some x → (m.session x).id ≠ []) :
    Tells m (fun name => (extra_env m details d old_session new_session).lookup name)
      (cstr "CK_SEAT_OLD_SESSION_") old_session ∧
    Tells m (fun name => (extra_env m details d old_session new_session).lookup name)
      (cstr "CK_SEAT_SESSION_") new_session := by
  have hdiffer : ∀ name key : CString,
      cstr "CK_SEAT_OLD_SESSION_" ++ name ≠ cstr "CK_SEAT_SESSION_" ++ key := by
    intro name key h
    cases h
  constructor
  · refine (session_info_tells hold fun name => ?_).congr fun name => lookup_cons_of_ne ?_ _ _
    · -- the names of the new session are other ones
      rw [← List.append_nil (env_add_session_info ..), lookup_session_info_of_ne (hdiffer name)]
      rfl
    · intro h
      cases h
  · have hown : Tells m (fun name => (env_entries (env_add_session_info m details
        (cstr "CK_SEAT_SESSION_") new_session ++ [])).lookup name) (cstr "CK_SEAT_SESSION_")
        new_session :=
      session_info_tells hnew fun _ => rfl
    refine hown.congr fun name => (lookup_cons_of_ne ?_ _ _).trans ?_
    · intro h
      cases h
    · rw [List.append_nil]
      exact lookup_session_info_of_ne (fun key => (hdiffer key name).symm) _ _

end

/-! ## Section 5: What the tool does -/

theorem uid_of_env_percent_u {uid : Nat} (h : uid < 2 ^ 32) : uid_of_env (percent_u uid) = uid := by
  have hlt : Nat.ofDigitChars 10 (percent_u uid) 0 < 2 ^ 64 := by
    rw [ofDigitChars_percent_u]
    omega
  have hread := strtoul_digits [] (percent_u_ne_nil uid) (percent_u_isDigit uid)
    (fun _ h => by cases h) hlt
  rw [List.append_nil, ofDigitChars_percent_u] at hread
  unfold uid_of_env
  rw [hread]
  exact Nat.mod_eq_of_lt h

/-- The user of the session, if it is local. -/
def local_uid (m : State) (session : Option SessionRef) : Option Nat :=
  session.bind fun x => if (m.session x).is_local then some (m.session x).unix_user else none

section
variable {Device : Type} {m : State} {getenv : CString → Option CString}
  {old_session new_session : Option SessionRef} {keyfile : GKeyFile}

/-- The tool takes the access of the user of the old session and gives it to
    the one of the new session, as far as these are local. -/
theorem udev_acl_cases (hold : Tells m getenv (cstr "CK_SEAT_OLD_SESSION_") old_session)
    (hnew : Tells m getenv (cstr "CK_SEAT_SESSION_") new_session)
    (huid : ∀ x, old_session = some x ∨ new_session = some x → (m.session x).unix_user < 2 ^ 32)
    (acls : Device → Acl) :
    (udev_acl (some (cstr "seat_active_session_changed")) getenv keyfile acls).1 =
      match local_uid m old_session, local_uid m new_session with
      | none, none => acls
      | some u, none => remove_uid keyfile acls u (old_session.map fun x => (m.session x).id)
      | none, some u2 => apply_acl_to_devices acls u2 true
      | some u, some u2 =>
        if u = u2 then acls
        else apply_acl_to_devices
          (remove_uid keyfile acls u (old_session.map fun x => (m.session x).id)) u2 true := by
  have hold_id : getenv (cstr "CK_SEAT_OLD_SESSION_ID") = _ := hold.id
  have hold_uid : getenv (cstr "CK_SEAT_OLD_SESSION_USER_UID") = _ := hold.uid
  have hold_local : getenv (cstr "CK_SEAT_OLD_SESSION_IS_LOCAL") = _ := hold.is_local
  have hnew_id : getenv (cstr "CK_SEAT_SESSION_ID") = _ := hnew.id
  have hnew_uid : getenv (cstr "CK_SEAT_SESSION_USER_UID") = _ := hnew.uid
  have hnew_local : getenv (cstr "CK_SEAT_SESSION_IS_LOCAL") = _ := hnew.is_local
  -- A uid reaches the tool only for a local session, and is read back as it was
  -- printed.
  have hfalse : cstr "false" ≠ cstr "true" := by decide
  unfold udev_acl consolekit_called
  rw [if_neg (by simp), hold_id, hnew_id, hold_uid, hold_local, hnew_uid, hnew_local]
  cases old_session with
  | none =>
    cases new_session with
    | none => rfl
    | some y =>
      have hy := uid_of_env_percent_u (huid y (.inr rfl))
      cases hlocal : (m.session y).is_local <;>
        simp [local_uid, hlocal, hy, hfalse, run_action]
  | some x =>
    have hx := uid_of_env_percent_u (huid x (.inl rfl))
    cases new_session with
    | none =>
      cases hlocal : (m.session x).is_local <;>
        simp [local_uid, hlocal, hx, hfalse, run_action]
    | some y =>
      have hy := uid_of_env_percent_u (huid y (.inr rfl))
      cases hlocal : (m.session x).is_local with
      | false =>
        cases hlocal' : (m.session y).is_local <;>
          simp [local_uid, hlocal, hlocal', hy, hfalse, run_action]
      | true =>
        cases hlocal' : (m.session y).is_local with
        | false => simp [local_uid, hlocal, hlocal', hx, hfalse, run_action]
        | true =>
          by_cases heq : (m.session x).unix_user = (m.session y).unix_user <;>
            simp [local_uid, hlocal, hlocal', hx, hy, heq, run_action]

theorem mem_set_facl {acl : Acl} {u uid : Nat} (h : uid ≠ 0) (add : Bool) :
    uid ∈ set_facl acl u add ↔ if uid = u then add = true else uid ∈ acl := by
  unfold set_facl
  by_cases heq : uid = u
  · subst heq
    cases add <;> simp [h, AList.mem_erase]
  · cases add <;> by_cases hu : u = 0 <;> simp [h, heq, hu, AList.mem_erase, AList.mem_insert]

theorem mem_apply_acl_to_devices {acls : Device → Acl} {u uid : Nat} (h : uid ≠ 0) (add : Bool)
    (device : Device) :
    uid ∈ apply_acl_to_devices acls u add device ↔
      if uid = u then add = true else uid ∈ acls device :=
  mem_set_facl h add

theorem mem_remove_uid {acls : Device → Acl} {u uid : Nat} (h : uid ≠ 0)
    (remove_session_id : Option CString) (device : Device) :
    uid ∈ remove_uid keyfile acls u remove_session_id device ↔
      uid ∈ acls device ∧
        (uid = u → uid ∈ uids_with_local_active_session keyfile remove_session_id) := by
  unfold remove_uid
  split
  · rename_i hmem
    constructor
    · intro hacl
      exact ⟨hacl, fun heq => heq ▸ hmem⟩
    · exact And.left
  · rename_i hmem
    rw [mem_apply_acl_to_devices h]
    by_cases heq : uid = u
    · subst heq
      simp [hmem]
    · simp [heq]

/-- Who has access after a change, if the old session's user had it before. -/
theorem mem_udev_acl (hold : Tells m getenv (cstr "CK_SEAT_OLD_SESSION_") old_session)
    (hnew : Tells m getenv (cstr "CK_SEAT_SESSION_") new_session)
    (huid : ∀ x, old_session = some x ∨ new_session = some x → (m.session x).unix_user < 2 ^ 32)
    {acls : Device → Acl} {uid : Nat} (h : uid ≠ 0) {device : Device}
    (haccess : local_uid m old_session = some uid → uid ∈ acls device) :
    uid ∈ (udev_acl (some (cstr "seat_active_session_changed")) getenv keyfile acls).1 device ↔
      local_uid m new_session = some uid ∨
      (uid ∈ acls device ∧
        (local_uid m old_session = some uid → uid ∈ uids_with_local_active_session keyfile
          (old_session.map fun x => (m.session x).id))) := by
  rw [udev_acl_cases hold hnew huid]
  cases hu : local_uid m old_session with
  | none =>
    cases hu' : local_uid m new_session with
    | none => simp
    | some u2 =>
      dsimp only
      rw [mem_apply_acl_to_devices h]
      by_cases heq : uid = u2
      · simp [heq]
      · simp [heq, Ne.symm heq]
  | some u =>
    rw [hu] at haccess
    cases hu' : local_uid m new_session with
    | none =>
      dsimp only
      rw [mem_remove_uid h]
      simp [eq_comm]
    | some u2 =>
      dsimp only
      split
      · -- nothing is done for another session of the same user
        rename_i heq
        subst heq
        by_cases heq : u = uid
        · simp [heq, haccess (congrArg some heq)]
        · simp [heq]
      · rw [mem_apply_acl_to_devices h, mem_remove_uid h]
        by_cases heq : uid = u2
        · simp [heq]
        · simp [heq, eq_comm]

end

/-! ## Section 6: The other sessions -/

/-- The group is of a local active session of this user, and not the own one. -/
def Counts (keyfile : GKeyFile) (own_id : Option CString) (group : CString) (uid : Nat) : Prop :=
  ¬ Elsewhere group ∧ (∀ id, own_id = some id → ¬ id <:+ group) ∧
  keyfile.get_boolean group (cstr "is_local") = true ∧
  keyfile.get_boolean group (cstr "is_active") = true ∧
  to_uid_t (keyfile.get_integer group (cstr "uid")) = uid

section
variable {keyfile : GKeyFile} {own_id : Option CString} {uid : Nat}

theorem mem_add_uid (h : uid ≠ 0) (list : List Nat) (group : CString) :
    uid ∈ add_uid keyfile own_id list group ↔
      uid ∈ list ∨ Counts keyfile own_id group uid := by
  unfold add_uid Counts Elsewhere
  have hown : (own_id.any fun id => id.isSuffixOf group) = true ↔
      ¬ ∀ id, own_id = some id → ¬ id <:+ group := by
    cases own_id <;> simp [List.isSuffixOf_iff_suffix]
  by_cases hgroup : (cstr "Session ").isPrefixOf group = true
  swap
  · simp [hgroup]
  by_cases hcounts : ∀ id, own_id = some id → ¬ id <:+ group
  swap
  · simp [hgroup, hown.mpr hcounts, hcounts]
  rw [if_neg (by simp [hgroup]), if_neg (mt hown.mp (not_not.mpr hcounts))]
  by_cases hlocal : keyfile.get_boolean group (cstr "is_local") = true
  swap
  · simp [hlocal]
  by_cases hactive : keyfile.get_boolean group (cstr "is_active") = true
  swap
  · simp [hactive]
  rw [if_neg (by simp [hlocal]), if_neg (by simp [hactive])]
  have hcounted : ∀ u, (¬ (cstr "Session ").isPrefixOf group = false ∧
      (∀ id, own_id = some id → ¬ id <:+ group) ∧
      keyfile.get_boolean group (cstr "is_local") = true ∧
      keyfile.get_boolean group (cstr "is_active") = true ∧ u = uid) ↔ u = uid := by
    refine fun u => ⟨fun h => h.2.2.2.2, fun heq => ⟨?_, hcounts, hlocal, hactive, heq⟩⟩
    simp [hgroup]
  rw [hcounted]
  dsimp only
  split
  · rw [List.mem_cons, or_comm, eq_comm]
  · -- the user is on the list, or root
    rename_i hlisted
    constructor
    · exact .inl
    · intro hmem
      refine hmem.elim id fun heq => ?_
      subst heq
      exact not_not.mp fun hmem => hlisted ⟨Nat.pos_of_ne_zero h, hmem⟩

theorem mem_foldl_add_uid (h : uid ≠ 0) (groups : List CString) (list : List Nat) :
    uid ∈ groups.foldl (add_uid keyfile own_id) list ↔
      uid ∈ list ∨ ∃ group ∈ groups, Counts keyfile own_id group uid := by
  induction groups generalizing list with
  | nil => simp
  | cons group groups ih =>
    rw [List.foldl_cons, ih, mem_add_uid h, List.exists_mem_cons_iff, or_assoc]

end

theorem to_uid_t_ofNat {uid : Nat} (h : uid < 2 ^ 32) : to_uid_t (Int32.ofNat uid).toInt = uid := by
  have hmod : (Int.bmod (uid : Int) Int32.size) % 2 ^ 32 = (uid : Int) % 2 ^ 32 := Int.bmod_emod
  unfold to_uid_t
  rw [Int32.toInt_ofNat', hmod]
  omega

/-- The digits at the end of an id tell it from others. -/
theorem suffix_of_generated {n n' : Nat} {text : CString}
    (h : cstr "Session" ++ percent_u n <:+ text ++ (cstr "Session" ++ percent_u n')) :
    percent_u n = percent_u n' := by
  have htrailing : ∀ (text : CString) (n : Nat),
      (text ++ (cstr "Session" ++ percent_u n)).reverse.takeWhile Char.isDigit =
        (percent_u n).reverse := by
    intro text n
    rw [List.reverse_append, List.reverse_append, List.append_assoc,
      List.takeWhile_append_of_pos]
    · exact List.append_nil _
    · intro c hc
      exact percent_u_isDigit n c (List.mem_reverse.mp hc)
  obtain ⟨beginning, heq⟩ := h
  have := htrailing beginning n
  rw [heq, htrailing] at this
  exact (List.reverse_injective this).symm

/-! ## Section 7: Steps -/

/-- The session is local and active and of this user, and another one than the
    given one. -/
def Grants (m : State) (uid : Nat) (but : Option SessionRef) (x : SessionRef) : Prop :=
  x ∈ m.sessions.values ∧ but ≠ some x ∧ (m.session x).is_local = true ∧
    (m.session x).active = true ∧ (m.session x).unix_user = uid

section
variable {m : State} {details : Details} {d : SeatRef} {session : Option SessionRef}

theorem local_uid_eq_some {uid : Nat} :
    local_uid m session = some uid ↔ ∃ x, session = some x ∧ (m.session x).is_local = true ∧
      (m.session x).unix_user = uid := by
  unfold local_uid
  cases session <;> simp

theorem mem_of_isSeatSession (h : IsSeatSession m d session = true) {x : SessionRef}
    (hx : session = some x) : x ∈ m.sessions.values ∧ (m.session x).seat = some d := by
  subst hx
  simpa [IsSeatSession] using h

theorem mem_open_session {id : CString} {session : CkSession} {x : SessionRef}
    (hfree : m.sessions.lookup id = none) :
    x ∈ (open_session m id session).sessions.values ↔
      x = m.next_session ∨ x ∈ m.sessions.values :=
  HashTable.mem_values_insert hfree

theorem open_session_new (m : State) (id : CString) (session : CkSession) :
    (open_session m id session).session m.next_session =
      { session with id := id, active := false } :=
  Function.update_self ..

theorem open_session_other (id : CString) (session : CkSession) {x : SessionRef}
    (h : x < m.next_session) : (open_session m id session).session x = m.session x :=
  Function.update_of_ne (Nat.ne_of_lt h) ..

namespace SwitchReady

theorem unique (h : SwitchReady m) {x y : SessionRef} (hx : x ∈ m.sessions.values)
    (hy : y ∈ m.sessions.values) (heq : (m.session x).id = (m.session y).id) : x = y := by
  obtain ⟨k, hk⟩ := HashTable.mem_values.mp hx
  obtain ⟨k', hk'⟩ := HashTable.mem_values.mp hy
  rw [h.id hk, h.id hk'] at heq
  rw [heq, hk'] at hk
  exact (Option.some.inj hk).symm

theorem id_ne_nil (h : SwitchReady m) {x : SessionRef} (hx : x ∈ m.sessions.values) :
    (m.session x).id ≠ [] := by
  obtain ⟨n, hn⟩ := h.generated x hx
  rw [hn]
  exact List.append_ne_nil_of_left_ne_nil (by decide) _

/-- The end of a group's name tells of which session it is. -/
theorem suffix_iff (h : SwitchReady m) {x y : SessionRef} (hx : x ∈ m.sessions.values)
    (hy : y ∈ m.sessions.values) : (m.session x).id <:+ session_group m y ↔ x = y := by
  obtain ⟨n, hn⟩ := h.generated x hx
  obtain ⟨n', hn'⟩ := h.generated y hy
  constructor
  · intro hsuffix
    unfold session_group at hsuffix
    rw [hn, hn'] at hsuffix
    refine h.unique hx hy ?_
    rw [hn, hn', suffix_of_generated hsuffix]
  · rintro rfl
    exact List.suffix_append _ _

/-- The users on the list are those of the other local active sessions. -/
theorem mem_uids (h : SwitchReady m) {uid : Nat} (huid : uid ≠ 0) {own : Option SessionRef}
    (hown : ∀ x, own = some x → x ∈ m.sessions.values) :
    uid ∈ uids_with_local_active_session (database m details)
        (own.map fun x => (m.session x).id) ↔
      ∃ x, Grants m uid own x := by
  unfold uids_with_local_active_session
  rw [mem_foldl_add_uid huid, or_iff_right List.not_mem_nil]
  have hgroup : ∀ x ∈ m.sessions.values,
      Counts (database m details) (own.map fun x => (m.session x).id) (session_group m x) uid ↔
        Grants m uid own x := by
    intro x hx
    obtain ⟨hlocal, hactive, huser⟩ := @database_session m details x hx
      fun y hy => h.unique hy hx
    unfold Counts Grants
    rw [hlocal, hactive, huser, to_uid_t_ofNat (h.uid x hx)]
    have hsuffix : (∀ id, (own.map fun x => (m.session x).id) = some id →
        ¬ id <:+ session_group m x) ↔ own ≠ some x := by
      cases own with
      | none => simp
      | some y =>
        have := h.suffix_iff (hown y rfl) hx
        simp [this]
    rw [hsuffix]
    simp [hx, not_elsewhere_session_group]
  constructor
  · rintro ⟨group, hmem, hcounts⟩
    obtain ⟨x, hx, rfl⟩ := (mem_session_groups hcounts.1).mp hmem
    exact ⟨x, (hgroup x hx).mp hcounts⟩
  · rintro ⟨x, hx⟩
    exact ⟨_, (mem_session_groups (not_elsewhere_session_group x)).mpr ⟨x, hx.1, rfl⟩,
      (hgroup x hx.1).mpr hx⟩

/-- The session that becomes active is no other seat's, so the old one of this
    seat is the only one that stops being active. -/
theorem change (h : SwitchReady m) (hchange : (m.seat d).active_session ≠ session)
    (hseat : IsSeatSession m d session = true) :
    SwitchReady (m.change_active_session d session).1 := by
  have honly := (m.change_active_session_only d session).1
  have htable : (m.change_active_session d session).1.sessions = m.sessions :=
    honly.sameSessions.sessions
  constructor
  case fresh =>
    intro x hx
    rw [htable] at hx
    rw [honly.sameSessions.next_session]
    exact h.fresh x hx
  case id =>
    intro k x hk
    rw [htable] at hk
    rw [honly.session x]
    exact h.id hk
  case generated =>
    intro x hx
    rw [htable] at hx
    rw [honly.session x]
    exact h.generated x hx
  case uid =>
    intro x hx
    rw [htable] at hx
    rw [honly.session x]
    exact h.uid x hx
  case active =>
    intro d' x hx
    rw [State.change_active_session_pointer hchange] at hx
    rw [htable, honly.sameSeats.attached, State.change_active_session_active hchange]
    split at hx
    · rename_i heq
      subst heq
      obtain ⟨hmem, hx'⟩ := mem_of_isSeatSession hseat hx
      exact ⟨hmem, if_pos hx, hx'⟩
    · rename_i hne
      obtain ⟨hmem, hactive, hx'⟩ := h.active hx
      refine ⟨hmem, ?_, hx'⟩
      -- The session is attached to the other seat, and active there.
      have hold : (m.seat d).active_session ≠ some x := by
        intro hold
        have := (h.active hold).2.2
        rw [hx'] at this
        exact hne (Option.some.inj this)
      rw [if_neg hold, hactive, ite_self]

theorem opened (h : SwitchReady m) {id : CString} (hfree : m.sessions.lookup id = none)
    (hid : ∃ n, id = cstr "Session" ++ percent_u n) {session : CkSession}
    (huid : session.unix_user < 2 ^ 32) : SwitchReady (open_session m id session) := by
  have hmem := fun x => @mem_open_session m id session x hfree
  have hnew := open_session_new m id session
  have hother := fun x hx => open_session_other id session (h.fresh x hx)
  constructor
  case fresh =>
    intro x hx
    rcases (hmem x).mp hx with rfl | hx
    · exact Nat.lt_succ_self _
    · exact Nat.lt_succ_of_lt (h.fresh x hx)
  case id =>
    intro k x hk
    rcases HashTable.lookup_insert_iff.mp hk with ⟨rfl, rfl⟩ | ⟨-, hk⟩
    · rw [hnew]
    · rw [hother x (HashTable.mem_values.mpr ⟨k, hk⟩)]
      exact h.id hk
  case generated =>
    intro x hx
    rcases (hmem x).mp hx with rfl | hx
    · rw [hnew]
      exact hid
    · rw [hother x hx]
      exact h.generated x hx
  case uid =>
    intro x hx
    rcases (hmem x).mp hx with rfl | hx
    · rw [hnew]
      exact huid
    · rw [hother x hx]
      exact h.uid x hx
  case active =>
    intro d x hx
    obtain ⟨hx', hrest⟩ := h.active hx
    rw [hother x hx']
    exact ⟨(hmem x).mpr (.inr hx'), hrest⟩

theorem mem_closed (h : SwitchReady m) {ssid : CString} {x : SessionRef}
    (hx : m.sessions.lookup ssid = some x) (y : SessionRef) :
    y ∈ HashTable.values (m.sessions.erase ssid) ↔ y ≠ x ∧ y ∈ m.sessions.values :=
  HashTable.mem_values_erase hx fun _ hk => (h.id hk).symm.trans (h.id hx)

theorem closed (h : SwitchReady m) {ssid : CString} {x : SessionRef}
    (hx : m.sessions.lookup ssid = some x) (hactive : (m.session x).active = false) :
    SwitchReady { m with sessions := m.sessions.erase ssid } := by
  have hmem := h.mem_closed hx
  constructor
  case fresh => exact fun y hy => h.fresh y ((hmem y).mp hy).2
  case id => exact fun hk => h.id (HashTable.lookup_erase_iff.mp hk).2
  case generated => exact fun y hy => h.generated y ((hmem y).mp hy).2
  case uid => exact fun y hy => h.uid y ((hmem y).mp hy).2
  case active =>
    intro d y hy
    obtain ⟨hy', hactive', hseat⟩ := h.active hy
    refine ⟨(hmem y).mpr ⟨fun heq => ?_, hy'⟩, hactive', hseat⟩
    rw [heq, hactive] at hactive'
    cases hactive'

end SwitchReady

/-- The users with a local active session, if this one is active. -/
theorem localActive_iff {own : Option SessionRef} {uid : Nat}
    (hown : ∀ x, own = some x → x ∈ m.sessions.values ∧ (m.session x).active = true) :
    LocalActive m uid ↔ local_uid m own = some uid ∨ ∃ x, Grants m uid own x := by
  rw [local_uid_eq_some]
  constructor
  · rintro ⟨x, hx, hlocal, hactive, huser⟩
    by_cases h : own = some x
    · exact .inl ⟨x, h, hlocal, huser⟩
    · exact .inr ⟨x, hx, h, hlocal, hactive, huser⟩
  · rintro (⟨x, h, hlocal, huser⟩ | ⟨x, hx, -, hlocal, hactive, huser⟩)
    · obtain ⟨hx, hactive⟩ := hown x h
      exact ⟨x, hx, hlocal, hactive, huser⟩
    · exact ⟨x, hx, hlocal, hactive, huser⟩

/-- Besides the old session, the new one has become active. -/
theorem grants_changed (hchange : (m.seat d).active_session ≠ session)
    (hseat : IsSeatSession m d session = true) (uid : Nat) :
    (∃ x, Grants (m.change_active_session d session).1 uid (m.seat d).active_session x) ↔
      local_uid m session = some uid ∨ ∃ x, Grants m uid (m.seat d).active_session x := by
  have honly := (m.change_active_session_only d session).1
  have htable : (m.change_active_session d session).1.sessions = m.sessions :=
    honly.sameSessions.sessions
  have hflags := State.change_active_session_active hchange
  have hgrants : ∀ x, Grants (m.change_active_session d session).1 uid
      (m.seat d).active_session x ↔
        x ∈ m.sessions.values ∧ (m.seat d).active_session ≠ some x ∧
        (m.session x).is_local = true ∧ (session = some x ∨ (m.session x).active = true) ∧
        (m.session x).unix_user = uid := by
    intro x
    unfold Grants
    rw [htable, honly.session x, hflags]
    refine and_congr_right fun _ => and_congr_right fun hne => ?_
    rw [if_neg hne]
    by_cases h : session = some x <;> simp [h]
  rw [local_uid_eq_some]
  constructor
  · rintro ⟨x, hx⟩
    obtain ⟨hmem, hne, hlocal, hactive, huser⟩ := (hgrants x).mp hx
    rcases hactive with h | hactive
    · exact .inl ⟨x, h, hlocal, huser⟩
    · exact .inr ⟨x, hmem, hne, hlocal, hactive, huser⟩
  · rintro (⟨x, h, hlocal, huser⟩ | ⟨x, hmem, hne, hlocal, hactive, huser⟩)
    · have hmem := (mem_of_isSeatSession hseat h).1
      exact ⟨x, (hgrants x).mpr ⟨hmem, h ▸ hchange, hlocal, .inl h, huser⟩⟩
    · exact ⟨x, (hgrants x).mpr ⟨hmem, hne, hlocal, .inr hactive, huser⟩⟩

/-- The old session is not active any more. -/
theorem localActive_changed (hchange : (m.seat d).active_session ≠ session) (uid : Nat) :
    LocalActive (m.change_active_session d session).1 uid ↔
      ∃ x, Grants (m.change_active_session d session).1 uid (m.seat d).active_session x := by
  have hflags := State.change_active_session_active hchange
  constructor
  · rintro ⟨x, hx, hlocal, hactive, huser⟩
    refine ⟨x, hx, fun hold => ?_, hlocal, hactive, huser⟩
    rw [hflags, if_neg (hold ▸ hchange.symm), if_pos hold] at hactive
    cases hactive
  · rintro ⟨x, hx, -, hrest⟩
    exact ⟨x, hx, hrest⟩

end

section
variable {Device : Type} {s s' : Switching Device}

/-- A change of the active session gives access to the user of the new
    session, and takes it from the user of the old one if there is no other. -/
theorem AclExact.change (h : AclExact s) (hready : SwitchReady s.state) {d : SeatRef}
    {session : Option SessionRef} (details : Details)
    (hchange : (s.state.seat d).active_session ≠ session)
    (hseat : IsSeatSession s.state d session = true) :
    AclExact ⟨(s.state.change_active_session d session).1,
      (udev_acl (some (cstr "seat_active_session_changed"))
        (fun name => (extra_env (s.state.change_active_session d session).1 details d
          (s.state.seat d).active_session session).lookup name)
        (database (s.state.change_active_session d session).1 details) s.acls).1⟩ := by
  have honly := (s.state.change_active_session_only d session).1
  have hready' := hready.change hchange hseat
  have htable : (s.state.change_active_session d session).1.sessions = s.state.sessions :=
    honly.sameSessions.sessions
  have hlocal_uid : ∀ own, local_uid (s.state.change_active_session d session).1 own =
      local_uid s.state own := by
    intro own
    unfold local_uid
    refine congrArg (Option.bind own) (funext fun x => ?_)
    rw [honly.session x]
  have hold : ∀ x, (s.state.seat d).active_session = some x →
      x ∈ s.state.sessions.values ∧ (s.state.session x).active = true :=
    fun x hx => ⟨(hready.active hx).1, (hready.active hx).2.1⟩
  have hmem : ∀ x, (s.state.seat d).active_session = some x ∨ session = some x →
      x ∈ (s.state.change_active_session d session).1.sessions.values := by
    intro x hx
    rw [htable]
    exact hx.elim (fun hx => (hold x hx).1) fun hx => (mem_of_isSeatSession hseat hx).1
  obtain ⟨hold_tells, hnew_tells⟩ := @extra_env_tells _ details (s.state.seat d).active_session
    session d (fun x hx => hready'.id_ne_nil (hmem x (.inl hx)))
    (fun x hx => hready'.id_ne_nil (hmem x (.inr hx)))
  intro device uid huid
  have hexact := h device uid huid
  rw [localActive_iff hold] at hexact
  rw [localActive_changed hchange]
  dsimp only
  rw [mem_udev_acl hold_tells hnew_tells (fun x hx => hready'.uid x (hmem x hx)) huid,
    hready'.mem_uids huid fun x hx => hmem x (.inl hx), hlocal_uid, hlocal_uid,
    grants_changed hchange hseat, hexact]
  · tauto
  · rw [hlocal_uid]
    exact fun hu => hexact.mpr (.inl hu)

theorem AclExact.of_localActive (h : AclExact s) (hacls : s'.acls = s.acls)
    (hlocal : ∀ uid, LocalActive s'.state uid ↔ LocalActive s.state uid) : AclExact s' := by
  intro device uid huid
  rw [hacls, hlocal]
  exact h device uid huid

theorem localActive_opened {m : State} (h : SwitchReady m) {id : CString}
    (hfree : m.sessions.lookup id = none) (session : CkSession) (uid : Nat) :
    LocalActive (open_session m id session) uid ↔ LocalActive m uid := by
  constructor
  · rintro ⟨x, hx, hlocal, hactive, huser⟩
    rcases (mem_open_session hfree).mp hx with rfl | hx
    · rw [open_session_new] at hactive
      cases hactive
    · rw [open_session_other id session (h.fresh x hx)] at hlocal hactive huser
      exact ⟨x, hx, hlocal, hactive, huser⟩
  · rintro ⟨x, hx, hrest⟩
    refine ⟨x, (mem_open_session hfree).mpr (.inr hx), ?_⟩
    rw [open_session_other id session (h.fresh x hx)]
    exact hrest

theorem localActive_closed {m : State} (h : SwitchReady m) {ssid : CString} {x : SessionRef}
    (hx : m.sessions.lookup ssid = some x) (hactive : (m.session x).active = false) (uid : Nat) :
    LocalActive { m with sessions := m.sessions.erase ssid } uid ↔ LocalActive m uid := by
  constructor
  · rintro ⟨y, hy, hrest⟩
    exact ⟨y, ((h.mem_closed hx y).mp hy).2, hrest⟩
  · rintro ⟨y, hy, hlocal, hactive', huser⟩
    refine ⟨y, (h.mem_closed hx y).mpr ⟨fun heq => ?_, hy⟩, hlocal, hactive', huser⟩
    rw [heq, hactive] at hactive'
    cases hactive'

/-- One step of a seat, or of a session that comes or goes. -/
theorem switch_step (hready : SwitchReady s.state) (h : AclExact s) {label : SwitchLabel}
    (hstep : switch_next s label = some s') : SwitchReady s'.state ∧ AclExact s' := by
  cases label with
  | change d session details =>
    unfold switch_next at hstep
    dsimp only at hstep
    split at hstep
    · rename_i hguard
      cases hstep
      exact ⟨hready.change hguard.1 hguard.2, h.change hready details hguard.1 hguard.2⟩
    · cases hstep
  | opened serial session =>
    unfold switch_next at hstep
    dsimp only at hstep
    split at hstep
    · rename_i hguard
      cases hstep
      exact ⟨hready.opened hguard.1 ⟨serial, rfl⟩ hguard.2,
        h.of_localActive rfl (localActive_opened hready hguard.1 session)⟩
    · cases hstep
  | closed ssid =>
    obtain ⟨x, hx, hstep⟩ := Option.bind_eq_some_iff.mp hstep
    split at hstep
    · cases hstep
    · rename_i hactive
      cases hstep
      have hactive := Bool.eq_false_iff.mpr hactive
      exact ⟨hready.closed hx hactive, h.of_localActive rfl (localActive_closed hready hx hactive)⟩

/-- After each step the users with access are again those with a local active
    session, and nobody with such a session loses access. -/
theorem acl_follows_sessions (h : (switches Device).Reachable s) :
    AclExact s ∧ ∀ label s', (switches Device).next s label = some s' →
      ∀ device uid, uid ∈ s.acls device → uid ≠ 0 → LocalActive s'.state uid →
        uid ∈ s'.acls device := by
  have hinv : SwitchReady s.state ∧ AclExact s := by
    refine h.invariant (fun _ hinit => hinit) ?_
    intro s label s' hs hstep
    exact switch_step hs.1 hs.2 hstep
  refine ⟨hinv.2, fun label s' hstep device uid _ huid hlocal => ?_⟩
  exact ((switch_step hinv.1 hinv.2 hstep).2 device uid huid).mpr hlocal

end

/-- A local session at a seat. -/
def local_session (seat : SeatRef) (uid : Nat) : CkSession where
  id := []
  leader := 0
  display_device := some (cstr "/dev/tty1")
  x11_display_device := none
  x11_display := none
  remote_host_name := none
  login_session_id := none
  unix_user := uid
  vtnr := 1
  creation_time := []
  is_local := true
  seat := some seat
  active := false
  activate := []

def nobody_active : Switching Unit := ⟨no_seats, fun _ => ∅⟩

theorem nobody_active_init : (switches Unit).init nobody_active := by
  refine ⟨⟨?_, ?_, ?_, ?_, ?_⟩, ?_⟩
  · exact fun x hx => absurd hx List.not_mem_nil
  · exact fun h => (nomatch h)
  · exact fun x hx => absurd hx List.not_mem_nil
  · exact fun x hx => absurd hx List.not_mem_nil
  · exact fun h => (nomatch h)
  · intro device uid _
    refine ⟨fun h => ?_, fun ⟨x, hx, _⟩ => absurd hx List.not_mem_nil⟩
    exact absurd h List.not_mem_nil

/-- One user is active at two seats, until another user gets the first of them. -/
def users_switch : List SwitchLabel :=
  [.opened 1 (local_session 0 1000), .change 0 (some 0) no_details,
    .opened 11 (local_session 1 1000), .change 1 (some 1) no_details,
    .opened 2 (local_session 0 1001), .change 0 (some 2) no_details]

/-- The first user still has access, by the session at the other seat. -/
theorem acl_follows_sessions_switch :
    ∃ s, (switches Unit).run nobody_active users_switch = some s ∧ AclExact s ∧
      1000 ∈ s.acls () ∧ 1001 ∈ s.acls () := by
  have hrun : ((switches Unit).run nobody_active users_switch).map
      (fun s => (decide (1000 ∈ s.acls ()), decide (1001 ∈ s.acls ()))) = some (true, true) := by
    decide +kernel
  obtain ⟨s, h, heq⟩ := Option.map_eq_some_iff.mp hrun
  obtain ⟨hfirst, hsecond⟩ := Prod.mk.inj heq
  have hreachable : (switches Unit).Reachable s := .run (.init nobody_active_init) h
  exact ⟨s, h, (acl_follows_sessions hreachable).1, of_decide_eq_true hfirst,
    of_decide_eq_true hsecond⟩

end Database
