import ConsoleKit.Database.Dump
import ConsoleKit.Manager.Close
import ConsoleKit.Manager.SeatNames

/-! # The users in the database

    `collect_user_data_dump` collects the sessions of each user in a table
    whose keys are addresses: two calls are for the same entry if their local
    variables are at the same address, whatever is stored there.

    This module provides:
    - `UserSections`: one section for each user with a session, with all the
      sessions of the user,
    - `users_hash_lookup`: what is collected at an address,
    - `user_sections_iff`: when the sections are right.
-/

namespace Database

open CkManager Libc

/-! ## Section 1: The calls -/

/-- A call of `collect_user_data_dump`: its number, and the session. -/
abbrev UserCall := Nat × (Σ _ : CString, SessionRef)

/-- `session_is_real_user` accepts the session and there is a name. -/
def accepts (details : Details) (session : CkSession) : Bool :=
  (SystemAction.session_is_real_user details.getpwuid session).join.isSome

section
variable (m : State) (details : Details)

def user_calls : List UserCall :=
  (List.range m.sessions.entries.length).zip m.sessions.entries

def call_user (call : UserCall) : Nat := (m.session call.2.2).unix_user

/-- The calls that put their session into the table. -/
def accepted_calls : List UserCall :=
  (user_calls m).filter fun call => accepts details (m.session call.2.2)

/-- The users with a session. -/
def owners : List Nat :=
  (m.sessions.values.filter fun x => accepts details (m.session x)).map
    fun x => (m.session x).unix_user

def user_group (uid : Nat) : CString := cstr "User " ++ percent_u uid

def is_user_group (group_name : CString) : Bool := (cstr "User ").isPrefixOf group_name

/-- The sections of the users: one for each user with a session, which lists
    the ids of the user's sessions and says whether one of them is local. -/
structure UserSections : Prop where
  groups : ((database m details).get_groups.filter is_user_group).Perm
    ((owners m details).dedup.map user_group)
  sessions : ∀ uid ∈ owners m details, ∃ ids : List CString, ids.Nodup ∧
    (∀ id, id ∈ ids ↔ ∃ x, m.sessions.lookup id = some x ∧ (m.session x).unix_user = uid) ∧
    (database m details).get_value (user_group uid) (cstr "sessions") =
      some ([';'].intercalate ids)
  is_local : ∀ uid ∈ owners m details,
    ((database m details).get_boolean (user_group uid) (cstr "is_local") = true ↔
      ∃ x ∈ m.sessions.values, (m.session x).unix_user = uid ∧ (m.session x).is_local = true)

/-- The calls for a user have their variable at one address, where the user id
    is found after the calls. -/
def AddressesKept : Prop :=
  ∀ call ∈ accepted_calls m details,
    details.stored (details.uid_address call.1) = call_user m call ∧
    ∀ call' ∈ accepted_calls m details, call_user m call' = call_user m call →
      details.uid_address call'.1 = details.uid_address call.1

end

/-- An id as `generate_session_id` makes it. -/
def Numbered (id : CString) : Prop := ∃ n, id = cstr "Session" ++ percent_u n

section
variable {m : State} {details : Details}

theorem user_calls_snd : (user_calls m).map Prod.snd = m.sessions.entries :=
  List.map_snd_zip (by simp)

theorem mem_user_calls_entry {call : UserCall} (h : call ∈ user_calls m) :
    m.sessions.lookup call.2.1 = some call.2.2 := by
  apply HashTable.mem_entries.mp
  rw [← user_calls_snd]
  exact List.mem_map_of_mem h

theorem exists_user_call {id : CString} {x : SessionRef} (h : m.sessions.lookup id = some x) :
    ∃ n, (n, (⟨id, x⟩ : Σ _ : CString, SessionRef)) ∈ user_calls m := by
  have hmem := HashTable.mem_entries.mpr h
  rw [← user_calls_snd] at hmem
  obtain ⟨⟨n, e⟩, hcall, rfl⟩ := List.mem_map.mp hmem
  exact ⟨n, hcall⟩

/-- No session is in two calls. -/
theorem nodup_user_calls : ((user_calls m).map fun call => call.2.1).Nodup := by
  have hkeys : (user_calls m).map (fun call => call.2.1) = m.sessions.keys := by
    rw [AList.keys, List.keys, ← user_calls_snd, List.map_map]
    rfl
  rw [hkeys]
  exact m.sessions.keys_nodup

theorem mem_accepted {call : UserCall} :
    call ∈ accepted_calls m details ↔
      call ∈ user_calls m ∧ accepts details (m.session call.2.2) = true :=
  List.mem_filter

theorem accepted_inj {call call' : UserCall} (h : call ∈ accepted_calls m details)
    (h' : call' ∈ accepted_calls m details) (heq : call.2.1 = call'.2.1) : call = call' :=
  List.inj_on_of_nodup_map nodup_user_calls (mem_accepted.mp h).1 (mem_accepted.mp h').1 heq

/-- Whether a session is accepted is up to its user. -/
theorem accepts_congr {session session' : CkSession}
    (h : session.unix_user = session'.unix_user) :
    accepts details session = accepts details session' := by
  unfold accepts SystemAction.session_is_real_user
  rw [h]

theorem mem_owners {uid : Nat} :
    uid ∈ owners m details ↔ ∃ call ∈ accepted_calls m details, call_user m call = uid := by
  unfold owners
  constructor
  · intro h
    obtain ⟨x, hx, rfl⟩ := List.mem_map.mp h
    obtain ⟨hmem, haccepts⟩ := List.mem_filter.mp hx
    obtain ⟨id, hid⟩ := HashTable.mem_values.mp hmem
    obtain ⟨n, hcall⟩ := exists_user_call hid
    exact ⟨_, mem_accepted.mpr ⟨hcall, haccepts⟩, rfl⟩
  · rintro ⟨call, hcall, rfl⟩
    obtain ⟨hmem, haccepts⟩ := mem_accepted.mp hcall
    have hx := HashTable.mem_values.mpr ⟨_, mem_user_calls_entry hmem⟩
    exact List.mem_map.mpr ⟨call.2.2, List.mem_filter.mpr ⟨hx, haccepts⟩, rfl⟩

/-- The sessions of a user who has one that is accepted. -/
theorem mem_user_sessions {call : UserCall} (hcall : call ∈ accepted_calls m details)
    {id : CString} :
    (∃ x, m.sessions.lookup id = some x ∧ (m.session x).unix_user = call_user m call) ↔
      ∃ call' ∈ accepted_calls m details, call'.2.1 = id ∧
        call_user m call' = call_user m call := by
  constructor
  · rintro ⟨x, hx, huser⟩
    obtain ⟨n, hmem⟩ := exists_user_call hx
    refine ⟨_, mem_accepted.mpr ⟨hmem, ?_⟩, rfl, huser⟩
    rw [← (mem_accepted.mp hcall).2]
    exact accepts_congr huser
  · rintro ⟨call', hcall', rfl, huser⟩
    exact ⟨call'.2.2, mem_user_calls_entry (mem_accepted.mp hcall').1, huser⟩

/-! ## Section 2: What is collected -/

/-- The entry of an address after a call. -/
def add_session (m : State) (data : Option UserDataDump) (call : UserCall) : UserDataDump where
  sessions := append_element ';' (data.getD ⟨[], false⟩).sessions call.2.1
  is_local := (data.getD ⟨[], false⟩).is_local || (m.session call.2.2).is_local

def users_hash (m : State) (details : Details) : HashTable Nat UserDataDump :=
  (user_calls m).foldl (collect_user_data_dump m details) ∅

/-- The accepted calls with their variable at an address. -/
def calls_at (m : State) (details : Details) (address : Nat) : List UserCall :=
  (accepted_calls m details).filter fun call => details.uid_address call.1 = address

theorem mem_calls_at {address : Nat} {call : UserCall} :
    call ∈ calls_at m details address ↔
      call ∈ accepted_calls m details ∧ details.uid_address call.1 = address := by
  unfold calls_at
  rw [List.mem_filter, decide_eq_true_iff]

theorem collect_user_data_dump_eq (hash : HashTable Nat UserDataDump) (call : UserCall) :
    collect_user_data_dump m details hash call =
      if accepts details (m.session call.2.2) then
        hash.insert (details.uid_address call.1)
          (add_session m (hash.lookup (details.uid_address call.1)) call)
      else hash := by
  unfold collect_user_data_dump accepts
  dsimp only
  cases SystemAction.session_is_real_user details.getpwuid (m.session call.2.2) with
  | none => rfl
  | some username => cases username <;> rfl

theorem users_hash_lookup (address : Nat) :
    (users_hash m details).lookup address =
      (calls_at m details address).foldl (fun v call => some (add_session m v call)) none := by
  have hfold : users_hash m details = (accepted_calls m details).foldl (fun hash call =>
      hash.insert (details.uid_address call.1)
        (add_session m (hash.lookup (details.uid_address call.1)) call)) ∅ := by
    unfold users_hash accepted_calls
    rw [List.foldl_filter]
    refine congrArg (fun f => List.foldl f ∅ (user_calls m)) ?_
    funext hash call
    exact collect_user_data_dump_eq hash call
  rw [hfold, HashTable.lookup_foldl_insert (fun call : UserCall => details.uid_address call.1)
    (add_session m)]
  rfl

theorem append_element_cons {str : CString} (h : str ≠ []) (ids : List CString) :
    ids.foldl (append_element ';') str = str ++ ids.flatMap fun id => ';' :: id := by
  induction ids generalizing str with
  | nil => simp
  | cons id ids ih =>
    have hne : append_element ';' str id ≠ [] := by simp [append_element, h]
    rw [List.foldl_cons, ih hne]
    simp [append_element, h]

theorem intercalate_cons (id : CString) (ids : List CString) :
    [';'].intercalate (id :: ids) = id ++ ids.flatMap fun id => ';' :: id := by
  induction ids generalizing id with
  | nil => simp [List.intercalate]
  | cons id' ids ih =>
    have hnext := ih id'
    simp only [List.intercalate] at hnext ⊢
    simp [List.intersperse, hnext]

/-- The text and the flag that are collected from the calls. -/
theorem foldl_add_session {calls : List UserCall} (hne : calls ≠ [])
    (hids : ∀ call ∈ calls, call.2.1 ≠ []) :
    calls.foldl (fun v call => some (add_session m v call)) none =
      some ⟨[';'].intercalate (calls.map fun call => call.2.1),
        calls.any fun call => (m.session call.2.2).is_local⟩ := by
  have hsome : ∀ (calls : List UserCall) (data : UserDataDump),
      calls.foldl (fun v call => some (add_session m v call)) (some data) =
        some ⟨(calls.map fun call => call.2.1).foldl (append_element ';') data.sessions,
          data.is_local || calls.any fun call => (m.session call.2.2).is_local⟩ := by
    intro calls
    induction calls with
    | nil => simp
    | cons call calls ih =>
      intro data
      rw [List.foldl_cons, ih]
      simp [add_session, Bool.or_assoc]
  obtain ⟨call, calls, rfl⟩ := List.exists_cons_of_ne_nil hne
  rw [List.foldl_cons, hsome, List.map_cons, intercalate_cons,
    append_element_cons (by simp [add_session, append_element, hids call])]
  simp [add_session, append_element]

/-! ## Section 3: The ids of the sessions -/

namespace Numbered

variable {id : CString}

theorem ne_nil (h : Numbered id) : id ≠ [] := by
  obtain ⟨n, rfl⟩ := h
  exact List.append_ne_nil_of_left_ne_nil (by decide) _

theorem isAlphanum (h : Numbered id) : ∀ c ∈ id, c.isAlphanum = true := by
  obtain ⟨n, rfl⟩ := h
  intro c hc
  rcases List.mem_append.mp hc with hc | hc
  · exact List.all_eq_true.mp (by decide : (cstr "Session").all Char.isAlphanum = true) c hc
  · simp [Char.isAlphanum, percent_u_isDigit n c hc]

theorem semicolon (h : Numbered id) : ';' ∉ id := by
  intro hmem
  exact absurd (h.isAlphanum _ hmem) (by decide)

end Numbered

/-- A text that is not escaped. -/
theorem parse_string_as_value_plain {s : CString}
    (h : ∀ c ∈ s, c.isAlphanum = true ∨ c = ';') (leading : Bool) :
    g_key_file_parse_string_as_value leading s = s := by
  induction s generalizing leading with
  | nil => rfl
  | cons c s ih =>
    have hplain : ∀ d, d.isAlphanum = false → d ≠ ';' → c ≠ d := by
      rintro d hd hsemicolon rfl
      rcases h c List.mem_cons_self with hc | hc
      · rw [hd] at hc
        cases hc
      · exact hsemicolon hc
    have hspace := hplain ' ' (by decide) (by decide)
    have htab := hplain '\t' (by decide) (by decide)
    have hnewline := hplain '\n' (by decide) (by decide)
    have hreturn := hplain '\r' (by decide) (by decide)
    have hbackslash := hplain '\\' (by decide) (by decide)
    rw [g_key_file_parse_string_as_value]
    simp only [hspace, htab, hnewline, hreturn, hbackslash, false_and, false_or, if_false]
    rw [ih fun d hd => h d (List.mem_cons_of_mem c hd)]

/-- The list of ids is stored as it is. -/
theorem parse_ids {ids : List CString} (hids : ∀ id ∈ ids, Numbered id) :
    g_key_file_parse_string_as_value true ([';'].intercalate ids) = [';'].intercalate ids := by
  apply parse_string_as_value_plain
  cases ids with
  | nil => simp [List.intercalate]
  | cons id ids =>
    rw [intercalate_cons]
    intro c hc
    rcases List.mem_append.mp hc with hc | hc
    · exact .inl ((hids id List.mem_cons_self).isAlphanum c hc)
    · obtain ⟨id', hid', hc⟩ := List.mem_flatMap.mp hc
      rcases List.mem_cons.mp hc with rfl | hc
      · exact .inr rfl
      · exact .inl ((hids id' (List.mem_cons_of_mem id hid')).isAlphanum c hc)

/-- The ids can be read from the list. -/
theorem intercalate_inj {ids ids' : List CString} (hids : ∀ id ∈ ids, Numbered id)
    (hids' : ∀ id ∈ ids', Numbered id) (hne : ids ≠ []) (hne' : ids' ≠ [])
    (h : [';'].intercalate ids = [';'].intercalate ids') : ids = ids' := by
  rw [← List.splitOn_intercalate ';' (fun id hid => (hids id hid).semicolon) hne, h,
    List.splitOn_intercalate ';' (fun id hid => (hids' id hid).semicolon) hne']

/-! ## Section 4: The sections -/

theorem user_group_inj {uid uid' : Nat} (h : user_group uid = user_group uid') : uid = uid' :=
  percent_u_inj (List.append_cancel_left h)

theorem is_user_group_user_group (uid : Nat) : is_user_group (user_group uid) = true :=
  List.isPrefixOf_iff_prefix.mpr (List.prefix_append _ _)

open GKeyFile

theorem dump_user_iter_own (k : GKeyFile) (entry : Σ _ : Nat, UserDataDump) :
    Written (· = user_group (details.stored entry.1)) k (dump_user_iter details k entry) := by
  apply dump_user_iter_written
  rfl

theorem dump_user_iter_values (k : GKeyFile) (entry : Σ _ : Nat, UserDataDump) :
    (dump_user_iter details k entry).get_value (user_group (details.stored entry.1))
        (cstr "sessions") = some (g_key_file_parse_string_as_value true entry.2.sessions) ∧
    (dump_user_iter details k entry).get_value (user_group (details.stored entry.1))
        (cstr "is_local") = some (if entry.2.is_local then cstr "true" else cstr "false") := by
  unfold dump_user_iter user_group
  simp (disch := decide) only [set_string, set_boolean, get_value_set_self, get_value_set_of_ne,
    and_self]

theorem user_group_of_dump (k : GKeyFile) (entry : Σ _ : Nat, UserDataDump) :
    user_group (details.stored entry.1) ∈ (dump_user_iter details k entry).get_groups :=
  (mem_get_groups_set_value ..).mpr (.inl rfl)

theorem nodup_set_nonnull {k : GKeyFile} (h : k.get_groups.Nodup) (group_name key : CString)
    (value : Option CString) : (set_nonnull k group_name key value).get_groups.Nodup := by
  cases value with
  | none => exact h
  | some s => exact nodup_set_value h _ _ _

theorem nodup_set_nonempty {k : GKeyFile} (h : k.get_groups.Nodup) (group_name key : CString)
    (value : Option CString) : (set_nonempty k group_name key value).get_groups.Nodup := by
  unfold set_nonempty
  split
  · exact nodup_set_value h _ _ _
  · exact h

theorem nodup_ck_seat_dump {k : GKeyFile} (h : k.get_groups.Nodup) (d : SeatRef) :
    (ck_seat_dump m details k d).get_groups.Nodup := by
  have hdevices := nodup_set_value (nodup_set_value (nodup_set_value h
    (cstr "Seat " ++ (m.seat d).id) (cstr "kind")
    (percent_d (Int32.ofNat (kind_number (m.seat d).kind)))) (cstr "Seat " ++ (m.seat d).id)
    (cstr "sessions") (g_key_file_parse_string_as_value true
      ((m.seat d).sessions.values.foldl (dump_seat_session_iter m) [])))
    (cstr "Seat " ++ (m.seat d).id) (cstr "devices")
    (g_key_file_parse_string_as_value true ((details.devices d).foldl dump_device []))
  unfold ck_seat_dump
  cases (m.seat d).active_session with
  | none => exact hdevices
  | some x => exact nodup_set_value hdevices _ _ _

theorem nodup_ck_session_dump {k : GKeyFile} (h : k.get_groups.Nodup) (x : SessionRef) :
    (ck_session_dump m details k x).get_groups.Nodup := by
  unfold ck_session_dump
  dsimp only
  refine nodup_set_value (nodup_set_value (nodup_set_value (nodup_set_value (nodup_set_value
    ?_ _ _ _) _ _ _) _ _ _) _ _ _) _ _ _
  refine nodup_set_nonempty (nodup_set_nonempty (nodup_set_nonempty (nodup_set_nonempty
    (nodup_set_nonempty ?_ _ _ _) _ _ _) _ _ _) _ _ _) _ _ _
  refine nodup_set_nonnull (nodup_set_nonnull ?_ _ _ _) _ _ _
  exact nodup_set_value (nodup_set_value h _ _ _) _ _ _

theorem nodup_ck_session_leader_dump {k : GKeyFile} (h : k.get_groups.Nodup) (l : LeaderRef) :
    (ck_session_leader_dump m k l).get_groups.Nodup :=
  nodup_set_value (nodup_set_value (nodup_set_value (nodup_set_value h _ _ _) _ _ _) _ _ _) _ _ _

/-- The other parts of the database have no such sections. -/
theorem database_users : ∃ k : GKeyFile, k.get_groups.Nodup ∧
    (∀ group_name, is_user_group group_name = true → group_name ∉ k.get_groups) ∧
    database m details = (users_hash m details).entries.foldl (dump_user_iter details) k := by
  let other : CString → Prop := fun group_name => is_user_group group_name = false
  have hseats : other (cstr "Seats") := rfl
  have hseat : ∀ k d, Written other k (ck_seat_dump m details k d) := by
    intro k d
    have hgroup : other (cstr "Seat " ++ (m.seat d).id) := rfl
    exact ck_seat_dump_written hgroup k
  have hsession : ∀ k x, Written other k (ck_session_dump m details k x) := by
    intro k x
    have hgroup : other (session_group m x) := rfl
    exact ck_session_dump_written hgroup k
  have hleader : ∀ k l, Written other k (ck_session_leader_dump m k l) := by
    intro k l
    have hgroup : other (cstr "SessionLeader " ++ (m.leader l).session_id) := rfl
    exact ck_session_leader_dump_written hgroup k
  refine ⟨_, ?_, fun group_name hgroup => ?_, rfl⟩
  · apply nodup_foldl fun k l h => nodup_ck_session_leader_dump h l
    apply nodup_foldl fun k x h => nodup_ck_session_dump h x
    apply nodup_foldl fun k d h => nodup_ck_seat_dump h d
    exact nodup_set_value (k := g_key_file_new) List.nodup_nil _ _ _
  · have hother : ¬ other group_name := by
      intro hfalse
      rw [show is_user_group group_name = false from hfalse] at hgroup
      cases hgroup
    rw [(Written.foldl hleader _ _).group _ hother, (Written.foldl hsession _ _).group _ hother,
      (Written.foldl hseat _ _).group _ hother,
      ((Written.refl g_key_file_new).set_string hseats _ _).group _ hother]
    exact List.not_mem_nil

/-! ## Section 5: When the sections are right -/

/-- The calls at the address of a call are those for its user. -/
theorem AddressesKept.mem_calls_at_iff (h : AddressesKept m details) {call call' : UserCall}
    (hcall : call ∈ accepted_calls m details) :
    call' ∈ calls_at m details (details.uid_address call.1) ↔
      call' ∈ accepted_calls m details ∧ call_user m call' = call_user m call := by
  rw [mem_calls_at]
  constructor
  · rintro ⟨hcall', hat⟩
    refine ⟨hcall', ?_⟩
    rw [← (h call' hcall').1, hat]
    exact (h call hcall).1
  · rintro ⟨hcall', huser⟩
    exact ⟨hcall', (h call hcall).2 call' hcall' huser⟩

/-- What is collected at an address. -/
def collected (m : State) (details : Details) (address : Nat) : UserDataDump :=
  ⟨[';'].intercalate ((calls_at m details address).map fun call => call.2.1),
    (calls_at m details address).any fun call => (m.session call.2.2).is_local⟩

variable (hids : ∀ id ∈ m.sessions.keys, Numbered id)
include hids

theorem numbered_call {call : UserCall} (h : call ∈ accepted_calls m details) :
    Numbered call.2.1 := by
  apply hids
  have hlookup := mem_user_calls_entry (mem_accepted.mp h).1
  exact AList.mem_keys.mpr (AList.lookup_isSome.mp (by rw [hlookup]; rfl))

/-- The entries of the table: one for each address. -/
theorem mem_users_hash {address : Nat} {data : UserDataDump} :
    (⟨address, data⟩ : Σ _ : Nat, UserDataDump) ∈ (users_hash m details).entries ↔
      calls_at m details address ≠ [] ∧ data = collected m details address := by
  rw [HashTable.mem_entries, users_hash_lookup]
  by_cases hempty : calls_at m details address = []
  · rw [hempty]
    simp
  · have hids' : ∀ call ∈ calls_at m details address, call.2.1 ≠ [] :=
      fun call hcall => (numbered_call hids (List.mem_filter.mp hcall).1).ne_nil
    rw [foldl_add_session hempty hids', and_iff_right hempty]
    exact ⟨fun h => (Option.some.inj h).symm, fun h => congrArg some h.symm⟩

theorem numbered_collected {address : Nat} :
    ∀ id ∈ (calls_at m details address).map fun call => call.2.1, Numbered id := by
  intro id hid
  obtain ⟨call, hcall, rfl⟩ := List.mem_map.mp hid
  exact numbered_call hids (mem_calls_at.mp hcall).1

/-- The address at which the sessions of a user were collected. -/
theorem UserSections.exists_address (h : UserSections m details) {call : UserCall}
    (hcall : call ∈ accepted_calls m details) : ∃ address,
      details.stored address = call_user m call ∧
      ∀ call' ∈ accepted_calls m details, call_user m call' = call_user m call →
        details.uid_address call'.1 = address := by
  obtain ⟨k, -, hother, hdatabase⟩ := @database_users m details
  -- The section of the user is there, so some entry of the table was written to it.
  have howner := mem_owners.mpr ⟨call, hcall, rfl⟩
  obtain ⟨ids, -, hmem, hvalue⟩ := h.sessions _ howner
  have hgroup : user_group (call_user m call) ∈ (database m details).get_groups := by
    have hlisted : user_group (call_user m call) ∈ (owners m details).dedup.map user_group :=
      List.mem_map_of_mem (List.mem_dedup.mpr howner)
    exact (List.mem_filter.mp (h.groups.mem_iff.mpr hlisted)).1
  rw [hdatabase, mem_get_groups_foldl dump_user_iter_own user_group_of_dump] at hgroup
  obtain ⟨entry, hentry, hgroup⟩ := hgroup.resolve_right (hother _ (is_user_group_user_group _))
  obtain ⟨⟨address, data⟩, hmem', hgroup', hvalue'⟩ := exists_get_value_foldl
    dump_user_iter_own (fun k entry => (dump_user_iter_values k entry).1)
    ⟨entry, hentry, hgroup.symm⟩ k
  refine ⟨address, user_group_inj hgroup', ?_⟩
  obtain ⟨hne, rfl⟩ := (mem_users_hash hids).mp hmem'
  have hnumbered := @numbered_collected m details hids address
  -- Ids with numbers can be told apart in the value again.
  have hkeys : ∀ id ∈ ids, Numbered id := by
    intro id hid
    obtain ⟨call', hcall', rfl, -⟩ := (mem_user_sessions hcall).mp ((hmem id).mp hid)
    exact numbered_call hids hcall'
  have hown : call.2.1 ∈ ids :=
    (hmem _).mpr ((mem_user_sessions hcall).mpr ⟨call, hcall, rfl, rfl⟩)
  -- the ids in the section are those that were collected at the address
  rw [hdatabase, hvalue'] at hvalue
  dsimp only [collected] at hvalue
  rw [parse_ids hnumbered] at hvalue
  have hids' := intercalate_inj hnumbered hkeys (by simpa using hne) (List.ne_nil_of_mem hown)
    (Option.some.inj hvalue)
  intro call' hcall' huser
  have hmem' : call'.2.1 ∈ ids :=
    (hmem _).mpr ((mem_user_sessions hcall).mpr ⟨call', hcall', rfl, huser⟩)
  rw [← hids'] at hmem'
  obtain ⟨call'', hcall'', heq⟩ := List.mem_map.mp hmem'
  obtain ⟨haccepted, hat⟩ := mem_calls_at.mp hcall''
  rw [← accepted_inj haccepted hcall' heq]
  exact hat

/-- **The sections are wrong** unless the addresses are kept. -/
theorem addresses_kept_of_sections (h : UserSections m details) : AddressesKept m details := by
  intro call hcall
  obtain ⟨address, hstored, hat⟩ := h.exists_address hids hcall
  rw [hat call hcall rfl]
  exact ⟨hstored, hat⟩

theorem AddressesKept.mem_entry (h : AddressesKept m details) {call : UserCall}
    (hcall : call ∈ accepted_calls m details) :
    (⟨details.uid_address call.1, collected m details (details.uid_address call.1)⟩ :
      Σ _ : Nat, UserDataDump) ∈ (users_hash m details).entries := by
  have hself := (h.mem_calls_at_iff hcall).mpr ⟨hcall, rfl⟩
  exact (mem_users_hash hids).mpr ⟨List.ne_nil_of_mem hself, rfl⟩

/-- No other entry is written to the section of a user. -/
theorem AddressesKept.entry_unique (h : AddressesKept m details) {call : UserCall}
    (hcall : call ∈ accepted_calls m details) {entry entry' : Σ _ : Nat, UserDataDump}
    (hentry : entry ∈ (users_hash m details).entries)
    (haddress : entry.1 = details.uid_address call.1)
    (hentry' : entry' ∈ (users_hash m details).entries)
    (hgroup : user_group (details.stored entry'.1) = user_group (details.stored entry.1)) :
    entry' = entry := by
  obtain ⟨address, data⟩ := entry
  obtain ⟨address', data'⟩ := entry'
  obtain rfl : address = details.uid_address call.1 := haddress
  have hstored : details.stored address' = call_user m call :=
    (user_group_inj hgroup).trans (h call hcall).1
  -- the entry has the calls of the user who is stored there
  obtain ⟨hne, hdata'⟩ := (mem_users_hash hids).mp hentry'
  obtain ⟨call', hcall'⟩ := List.exists_mem_of_ne_nil _ hne
  obtain ⟨haccepted, rfl⟩ := mem_calls_at.mp hcall'
  have huser : call_user m call' = call_user m call := (h call' haccepted).1.symm.trans hstored
  have hsame := (h call hcall).2 call' haccepted huser
  obtain ⟨-, hdata⟩ := (mem_users_hash hids).mp hentry
  rw [hdata', hdata, hsame]

/-- The values in the section of a user are those of what was collected. -/
theorem AddressesKept.value (h : AddressesKept m details) {call : UserCall}
    (hcall : call ∈ accepted_calls m details) {key value : CString}
    (hset : ∀ k, (dump_user_iter details k ⟨details.uid_address call.1,
      collected m details (details.uid_address call.1)⟩).get_value
        (user_group (details.stored (details.uid_address call.1))) key = some value) :
    (database m details).get_value (user_group (call_user m call)) key = some value := by
  obtain ⟨k, -, -, hdatabase⟩ := @database_users m details
  have hentry := h.mem_entry hids hcall
  rw [hdatabase, ← (h call hcall).1]
  exact get_value_foldl dump_user_iter_own hset
    (fun entry' hentry' hgroup => h.entry_unique hids hcall hentry rfl hentry' hgroup) hentry k

theorem AddressesKept.mem_groups (h : AddressesKept m details) (group_name : CString) :
    group_name ∈ (database m details).get_groups ∧ is_user_group group_name = true ↔
      ∃ uid ∈ (owners m details).dedup, user_group uid = group_name := by
  obtain ⟨k, -, hother, hdatabase⟩ := @database_users m details
  rw [hdatabase, mem_get_groups_foldl dump_user_iter_own user_group_of_dump]
  constructor
  · -- An entry has a call, and its user is the one who is stored at the address.
    rintro ⟨hmem, hgroup⟩
    obtain ⟨⟨address, data⟩, hentry, rfl⟩ := hmem.resolve_right (hother _ hgroup)
    obtain ⟨hne, -⟩ := (mem_users_hash hids).mp hentry
    obtain ⟨call, hcall⟩ := List.exists_mem_of_ne_nil _ hne
    obtain ⟨haccepted, rfl⟩ := mem_calls_at.mp hcall
    refine ⟨call_user m call, List.mem_dedup.mpr (mem_owners.mpr ⟨call, haccepted, rfl⟩), ?_⟩
    rw [(h call haccepted).1]
  · rintro ⟨uid, howner, rfl⟩
    obtain ⟨call, hcall, rfl⟩ := mem_owners.mp (List.mem_dedup.mp howner)
    refine ⟨.inl ⟨_, h.mem_entry hids hcall, ?_⟩, is_user_group_user_group _⟩
    rw [(h call hcall).1]

/-- **The sections are right** if the addresses are kept. -/
theorem sections_of_addresses_kept (h : AddressesKept m details) : UserSections m details := by
  obtain ⟨k, hnodup, -, hdatabase⟩ := @database_users m details
  constructor
  · -- both lists of groups have no duplicates
    apply (List.perm_ext_iff_of_nodup ?_ ?_).mpr
    · intro group_name
      rw [List.mem_filter, List.mem_map, h.mem_groups hids]
    · refine List.Nodup.filter _ ?_
      rw [hdatabase]
      exact nodup_foldl (fun k entry h => nodup_set_value (nodup_set_value h _ _ _) _ _ _) _ hnodup
    · exact (List.nodup_dedup _).map fun uid uid' => user_group_inj
  · -- The ids that were collected are those of the sessions of the user.
    intro uid howner
    obtain ⟨call, hcall, rfl⟩ := mem_owners.mp howner
    refine ⟨(calls_at m details (details.uid_address call.1)).map fun call => call.2.1, ?_, ?_, ?_⟩
    · have hsub : (calls_at m details (details.uid_address call.1)).Sublist (user_calls m) :=
        List.filter_sublist.trans List.filter_sublist
      exact nodup_user_calls.sublist (hsub.map _)
    · intro id
      rw [mem_user_sessions hcall, List.mem_map]
      constructor
      · rintro ⟨call', hcall', rfl⟩
        obtain ⟨haccepted, huser⟩ := (h.mem_calls_at_iff hcall).mp hcall'
        exact ⟨call', haccepted, rfl, huser⟩
      · rintro ⟨call', haccepted, rfl, huser⟩
        exact ⟨call', (h.mem_calls_at_iff hcall).mpr ⟨haccepted, huser⟩, rfl⟩
    · refine h.value hids hcall fun k => ?_
      rw [(dump_user_iter_values k _).1]
      dsimp only [collected]
      rw [parse_ids (numbered_collected hids)]
  · -- A flag that was collected is that of a session, and the other way round.
    intro uid howner
    obtain ⟨call, hcall, rfl⟩ := mem_owners.mp howner
    have hlocal := get_boolean_of_value
      (h.value hids hcall fun k => (dump_user_iter_values k _).2)
    rw [hlocal, collected, List.any_eq_true]
    constructor
    · rintro ⟨call', hcall', hflag⟩
      obtain ⟨haccepted, huser⟩ := (h.mem_calls_at_iff hcall).mp hcall'
      exact ⟨call'.2.2, HashTable.mem_values.mpr
        ⟨_, mem_user_calls_entry (mem_accepted.mp haccepted).1⟩, huser, hflag⟩
    · rintro ⟨x, hx, huser, hflag⟩
      obtain ⟨id, hid⟩ := HashTable.mem_values.mp hx
      obtain ⟨n, hmem⟩ := exists_user_call hid
      have haccepted : (n, ⟨id, x⟩) ∈ accepted_calls m details := by
        refine mem_accepted.mpr ⟨hmem, ?_⟩
        rw [← (mem_accepted.mp hcall).2]
        exact accepts_congr huser
      exact ⟨_, (h.mem_calls_at_iff hcall).mpr ⟨haccepted, huser⟩, hflag⟩

end

/-! ## Section 6: The ids that the manager generates -/

/-- The ids in the table of sessions, and those that the leaders have for
    sessions to come. -/
structure SessionIds (m : State) : Prop where
  sessions : ∀ id x, m.sessions.lookup id = some x → Numbered id
  leaders : ∀ l, (m.leader l).job = true → Numbered (m.leader l).session_id

theorem generateId_numbered {label : CString} {first n serial : Nat} {taken : CString → Bool}
    {r : CString × Nat} (h : State.generateId label first taken n serial = some r) :
    ∃ k, r.1 = label ++ percent_u k := by
  induction n generalizing serial with
  | zero => cases h
  | succ n ih =>
    rw [State.generateId] at h
    split at h
    · exact ih h
    · cases h
      exact ⟨serial, rfl⟩

theorem generate_session_id_numbered {m m' : State} {id : CString}
    (h : m.generate_session_id = some (id, m')) : Numbered id := by
  obtain ⟨r, hr, heq⟩ := Option.map_eq_some_iff.mp h
  obtain rfl : r.1 = id := (Prod.mk.inj heq).1
  exact generateId_numbered hr

namespace SessionIds

variable {m m' : State}

/-- Steps that add no session and start no collector. -/
theorem sub (h : SessionIds m)
    (hsub : ∀ id x, m'.sessions.lookup id = some x → m.sessions.lookup id = some x)
    (hleader : ∀ l, (m'.leader l).job = true →
      (m.leader l).job = true ∧ (m'.leader l).session_id = (m.leader l).session_id) :
    SessionIds m' where
  sessions id x hx := h.sessions id x (hsub id x hx)
  leaders l hl := by
    obtain ⟨hjob, hid⟩ := hleader l hl
    rw [hid]
    exact h.leaders l hjob

theorem same (h : SessionIds m) (hsame : SameSessions m m') : SessionIds m' := by
  apply h.sub
  · intro id x hx
    rw [← hsame.sessions]
    exact hx
  · intro l hl
    rw [hsame.leader] at hl ⊢
    exact ⟨hl, rfl⟩

/-- The collector of a leader has exited. -/
theorem job_ended (l l' : LeaderRef)
    (hjob : ((m.setLeader l { m.leader l with job := false }).leader l').job = true) :
    (m.leader l').job = true ∧
      ((m.setLeader l { m.leader l with job := false }).leader l').session_id =
        (m.leader l').session_id := by
  by_cases h : l' = l
  · subst h
    simp [State.setLeader] at hjob
  · simpa [State.setLeader, h] using hjob

theorem create_session (h : SessionIds m) {sender cookie : CString} {caller : Option (Nat × Nat)}
    {started : Bool} (hr : m.create_session_for_sender sender caller cookie started = some m') :
    SessionIds m' := by
  unfold State.create_session_for_sender at hr
  cases caller with
  | none =>
    cases hr
    exact h
  | some caller =>
    obtain ⟨⟨ssid, m₁⟩, hid, rfl⟩ := Option.map_eq_some_iff.mp hr
    have hnumbered := generate_session_id_numbered hid
    obtain ⟨-, serial, rfl⟩ := State.generate_session_id_free hid
    refine ⟨h.sessions, fun l hl => ?_⟩
    dsimp only at hl ⊢
    by_cases hnew : l = m.next_leader
    · rw [hnew, Function.update_self]
      exact hnumbered
    · rw [Function.update_of_ne hnew] at hl ⊢
      exact h.leaders l hl

/-- The session of a leader whose collector was running is inserted. -/
theorem insertOpened (h : SessionIds m) {l : LeaderRef} (hjob : (m.leader l).job = true)
    (o : Opening) : SessionIds (m.insertOpened l o) where
  sessions id x hx := by
    rcases HashTable.lookup_insert_iff.mp hx with ⟨rfl, -⟩ | ⟨-, hx⟩
    · show Numbered (Function.update m.leader l _ l).session_id
      rw [Function.update_self]
      exact h.leaders l hjob
    · exact h.sessions id x hx
  leaders l' hl' := by
    obtain ⟨hjob', hid⟩ := job_ended l l' hl'
    rw [show ((m.insertOpened l o).leader l').session_id = _ from hid]
    exact h.leaders l' hjob'

theorem dispatch (h : SessionIds m) {event : Event} {r : State × List Call}
    (hr : m.dispatch event = some r) : SessionIds r.1 := by
  cases event with
  | open_session sender caller cookie started =>
    obtain ⟨-, m', hm', rfl⟩ := State.dispatch_open_session hr
    exact h.create_session hm'
  | job_completed l result =>
    obtain ⟨hjob, hr⟩ := State.dispatch_job_completed hr
    rcases State.job_completed_cases hr with rfl | ⟨o, _, _, _, -, -, hsame, -⟩
    · exact h.sub (fun _ _ => id) fun l' => job_ended l l'
    · exact (h.insertOpened hjob o).same hsame
  | close_session caller cookie =>
    cases hr
    rcases m.dbus_close_session_cases caller cookie with heq | ⟨_, _, l, r, -, -, hr, heq⟩
    · rw [heq]
      exact h
    · obtain ⟨_, _, -, hsame, -⟩ := State.remove_session_for_cookie_spec hr
      rw [heq]
      exact h.same hsame
  | name_owner_notify service_name old_service_name new_service_name =>
    cases hr
    unfold State.on_name_owner_notify
    split <;> exact h.sub (fun _ _ => id) fun _ hjob => ⟨hjob, rfl⟩
  | process_queue | seat_activate_session | seat_switch_to | session_activate
    | activate_session | activate_session_on_seat | vt_leave =>
    exact h.same (State.dispatch_same (by trivial) hr).1

theorem call (h : SessionIds m) {f : Call} {r : State × List Call}
    (hr : m.call f = some r) : SessionIds r.1 := by
  cases f with
  | remove_session l x caller =>
    cases hr
    cases caller with
    | dbus_close_session =>
      exact h.sub (fun _ _ hx => (HashTable.lookup_erase_iff.mp hx).2) fun _ hjob => ⟨hjob, rfl⟩
    | destroy_entity =>
      exact h.sub (fun _ _ hx => (HashTable.lookup_erase_iff.mp hx).2) fun l' => job_ended l l'
  | destroy_entity l =>
    cases hr
    rcases m.destroy_entity_cases l with ⟨-, heq⟩ | ⟨r, hr, heq⟩
    · rw [heq]
      exact h.sub (fun _ _ => id) fun l' => job_ended l l'
    · obtain ⟨_, _, -, hsame, -⟩ := State.remove_session_for_cookie_spec hr
      rw [heq]
      exact h.same hsame
  | _ => exact h.same (State.call_same rfl hr).1

end SessionIds

/-- In every run the ids in the table are numbered. -/
theorem numbered_of_reachable {c : MainLoop} (h : main_loop.Reachable c) :
    ∀ id ∈ c.state.sessions.keys, Numbered id := by
  have hids : SessionIds c.state := by
    refine h.invariant (I := fun c => SessionIds c.state) ?_ ?_
    · rintro c ⟨vfd, active_num, files, rfl⟩
      exact ⟨nofun, nofun⟩
    · rintro c label c' hids hnext
      cases main_loop_step hnext with
      | dispatch _ hr => exact hids.dispatch hr
      | call _ hr => exact hids.call hr
      | callout_done _ => exact hids
  intro id hid
  obtain ⟨x, hx⟩ := Option.isSome_iff_exists.mp (AList.lookup_isSome.mpr (AList.mem_keys.mp hid))
  exact hids.sessions id x hx

/-- **The sections of the users** are right exactly if the calls for a user
    have their variable at one address and the user id is still found there
    after the calls. -/
theorem user_sections_iff (m : State) (details : Details)
    (hids : ∀ id ∈ m.sessions.keys, Numbered id) :
    UserSections m details ↔ AddressesKept m details :=
  ⟨addresses_kept_of_sections hids, sections_of_addresses_kept hids⟩

/-- Two users open sessions, one after the other. -/
def user_logs_in (l : LeaderRef) (cookie : CString) (uid : Nat) : List Label :=
  [.dispatch (.open_session (cstr ":1.5") (some (uid, 7)) cookie true),
    .dispatch (.job_completed l (some
      { parameters := [(.unix_user, .uint32 uid)], transform := .same_type,
        creation_time := cstr "2020-01-01T00:00:00Z", created := true, registers := true })),
    .callout_done, .call, .call, .callout_done, .call, .call]

def two_users : List Label :=
  .call :: user_logs_in 0 (cstr "c1") 1000 ++ user_logs_in 1 (cstr "c2") 1001

/-- All calls have their variable at one address, where the user id of the
    last one is left. -/
def one_address (stored : Nat) : Details where
  session_service _ := none
  session_type _ := none
  runtime_dir _ := none
  devices _ := []
  getpwuid := SystemAction.alice_and_bob
  uid_address _ := 0
  stored _ := stored

/-- The manager without static seats, about to start. -/
def users_start : MainLoop := ⟨ck_manager_init true 1, [.load_seats_from_dir []]⟩

/-- With one user the address and what is left there are right. -/
theorem user_sections_one_user :
    ∃ c, main_loop.run users_start (.call :: user_logs_in 0 (cstr "c1") 1000) = some c ∧
      owners c.state (one_address 1000) = [1000] ∧ UserSections c.state (one_address 1000) := by
  have hrun : (main_loop.run users_start (.call :: user_logs_in 0 (cstr "c1") 1000)).map
      (fun c => (owners c.state (one_address 1000),
        (accepted_calls c.state (one_address 1000)).all
          fun call => call_user c.state call = 1000)) = some ([1000], true) := by
    decide +kernel
  obtain ⟨c, hc, heq⟩ := Option.map_eq_some_iff.mp hrun
  obtain ⟨howners, hcalls⟩ := Prod.mk.inj heq
  have hreachable : main_loop.Reachable c :=
    LTS.System.Reachable.run (.init ⟨true, 1, [], rfl⟩) hc
  refine ⟨c, hc, howners, (user_sections_iff _ _ (numbered_of_reachable hreachable)).mpr ?_⟩
  intro call hcall
  have huser := of_decide_eq_true (List.all_eq_true.mp hcalls call hcall)
  exact ⟨huser.symm, fun _ _ _ => rfl⟩

/-- The sessions of two users are in one section. -/
theorem user_sections_merged :
    ∃ c, main_loop.run users_start two_users = some c ∧ main_loop.Reachable c ∧
      ¬ UserSections c.state (one_address 1001) := by
  have hrun : (main_loop.run users_start two_users).map
      (fun c => ((owners c.state (one_address 1001)).dedup.length,
        ((database c.state (one_address 1001)).get_groups.filter is_user_group).length)) =
      some (2, 1) := by
    decide +kernel
  obtain ⟨c, hc, heq⟩ := Option.map_eq_some_iff.mp hrun
  obtain ⟨howners, hgroups⟩ := Prod.mk.inj heq
  refine ⟨c, hc, LTS.System.Reachable.run (.init ⟨true, 1, [], rfl⟩) hc, fun h => ?_⟩
  have hlength := h.groups.length_eq
  rw [hgroups, List.length_map, howners] at hlength
  cases hlength

end Database
