import ConsoleKit.Leader.Merge
import ConsoleKit.Manager.Attached
import ConsoleKit.Manager.Local

/-! # Logins through PAM

    `pam_sm_open_session` opens a session for a user with what PAM knows of the
    login.  The request goes through `libck-connector` to the manager, whose
    session leader puts the parameters over those that its collector prints.

    This module provides:
    - `append_parameters`, the message of the connector,
    - `requested_session`, what the PAM module asks for,
    - `overridden_property`: what a client sets reaches the session,
    - `pam_session_opened`: the session that a login gets, and what becomes of
      its flag `is-local`.
-/

namespace PamCkConnector

open Libc CkManager Leader

/-! ## Section 1: The message of the connector -/

inductive DBusType where
  | STRING | BOOLEAN | INT32
  deriving DecidableEq

/-- The parameters that `libck-connector` knows. -/
def parameter_lookup : List (CString × DBusType) :=
  [(cstr "display-device", .STRING), (cstr "x11-display-device", .STRING),
    (cstr "x11-display", .STRING), (cstr "remote-host-name", .STRING),
    (cstr "session-type", .STRING), (cstr "session-service", .STRING),
    (cstr "is-local", .BOOLEAN), (cstr "unix-user", .INT32)]

def lookup_parameter_type (name : CString) : Option DBusType :=
  (parameter_lookup.find? fun e => e.1 = name).map Prod.snd

/-- The loop of `ck_connector_open_session_with_parameters_valist`; the values
    have the types of their parameters, which C does not check. -/
def append_parameters : Parameters → Except CString Parameters
  | [] => .ok []
  | (name, value) :: parameters =>
    match lookup_parameter_type name with
    | none => .error (cstr "Unknown parameter: " ++ name)
    | some _ => (append_parameters parameters).map ((name, value) :: ·)

/-! ## Section 2: What PAM knows -/

/-- The items, the environment and the users that the module looks at. -/
structure PamHandle where
  user : Option CString
  tty : Option CString
  rhost : Option CString
  getenv : CString → Option CString
  getpwnam : CString → Option UInt32

/-- Why the module gives up before it connects to the bus. -/
inductive PamError where
  | cannot_determine_username
  | cannot_determine_display_device
  | nox11_mode
  | cannot_determine_uid
  deriving DecidableEq

/-- The arguments of `ck_connector_open_session_with_parameters`. -/
structure PamSession where
  uid : UInt32
  display_device : CString
  x11_display : CString
  x11_display_device : CString
  remote_host_name : CString
  is_local : Bool
  deriving DecidableEq

/-- `opt_nox11` is not reset between two calls. -/
def _parse_pam_args (opt_nox11 : Bool) (argv : List CString) : Bool :=
  opt_nox11 || argv.any fun arg => arg = cstr "nox11"

/-- `display_device` and `x11_display` for `PAM_TTY`. -/
def tty_devices (opt_nox11 : Bool) (tty : CString) : Except PamError (CString × Option CString) :=
  -- interpret any tty with a colon as a DISPLAY
  if ':' ∈ tty then
    if opt_nox11 then .error .nox11_mode else .ok ([], some tty)
  else if (cstr "/dev/").isPrefixOf tty then .ok (tty, none)
  else .ok (cstr "/dev/" ++ tty, none)

def x11_display_device (h : PamHandle) : Option CString :=
  (h.getenv (cstr "CKCON_X11_DISPLAY_DEVICE")).or
    ((h.getenv (cstr "XDG_VTNR")).map fun s => cstr "/dev/tty" ++ s)

/-- The part of `pam_sm_open_session` before the request. -/
def requested_session (opt_nox11 : Bool) (h : PamHandle) : Except PamError PamSession := do
  let user ← match h.user with
    | none | some [] => .error .cannot_determine_username
    | some user => .ok user
  let tty ← match h.tty with
    | none | some [] => .error .cannot_determine_display_device
    | some tty => .ok tty
  let (display_device, x11_display) ← tty_devices opt_nox11 tty
  let remote_host_name := h.rhost.filter fun s => s ≠ []
  let display_device := (h.getenv (cstr "CKCON_TTY")).getD display_device
  let x11_display := (h.getenv (cstr "CKCON_X11_DISPLAY")).or x11_display
  match h.getpwnam user with
  | none => .error .cannot_determine_uid
  | some uid =>
    if uid = UInt32.ofNat (2 ^ 32 - 1) then .error .cannot_determine_uid
    else
      .ok {
        uid := uid
        display_device := display_device
        -- make sure no values are NULL
        x11_display := x11_display.getD []
        x11_display_device := (x11_display_device h).getD []
        remote_host_name := remote_host_name.getD []
        is_local := remote_host_name.isNone }

/-- A `uid_t` that is sent as an `INT32`. -/
def int32_of (uid : UInt32) : GVariant := .int32 ((uid.toNat : Int).bmod (2 ^ 32))

def PamSession.parameters (s : PamSession) : Parameters :=
  [(cstr "unix-user", int32_of s.uid), (cstr "display-device", .string s.display_device),
    (cstr "x11-display", .string s.x11_display),
    (cstr "x11-display-device", .string s.x11_display_device),
    (cstr "remote-host-name", .string s.remote_host_name),
    (cstr "is-local", .boolean s.is_local)]

/-- The connector knows all parameters of the PAM module. -/
theorem append_pam_parameters (s : PamSession) :
    append_parameters s.parameters = .ok s.parameters := rfl

/-! ## Section 3: From the message to the session -/

/-- The parameters of the leader, as `ck_session_new_with_parameters` gets
    them. -/
def typed (parameters : Parameters) : List (Parameter × GVariant) :=
  parameters.filterMap fun e => (Leader.lookup_parameter_type e.1).map fun p => (p, e.2)

theorem property_typed {α : Type} (transform : GVariant → Option α) (p : Parameter)
    (parameters : Parameters) :
    property transform p (typed parameters) =
      (parameters.filter fun e => e.1 = name p).filterMap fun e => transform e.2 := by
  induction parameters with
  | nil => rfl
  | cons e parameters ih =>
    have hiff : Leader.lookup_parameter_type e.1 = some p ↔ e.1 = name p :=
      lookup_parameter_type_iff
    unfold property typed at ih ⊢
    by_cases hname : e.1 = name p
    · rw [List.filterMap_cons_some (b := (p, e.2)) (by rw [hiff.mpr hname]; rfl),
        List.filter_cons_of_pos (by simpa using hname)]
      cases htransform : transform e.2 <;> simp [htransform, ih]
    · rw [List.filter_cons_of_neg (by simpa using hname), ← ih]
      cases hlookup : Leader.lookup_parameter_type e.1 with
      | none => rw [List.filterMap_cons_none (by rw [hlookup]; rfl)]
      | some q =>
        have hne : q ≠ p := by
          rintro rfl
          exact hname (hiff.mp hlookup)
        rw [List.filterMap_cons_some (b := (q, e.2)) (by rw [hlookup]; rfl)]
        simp [hne]

/-- What the client says about a property is all that is said about it. -/
theorem overridden_once {client merged : Parameters} {errno : Nat} {output : CString}
    {p : Parameter} {v : GVariant} (hv : client_value client (name p) = some v)
    (h : parse_output (save_parameters client) errno output = some merged) :
    merged.filter (fun e => e.1 = name p) = [(name p, v)] := by
  have hbare := not_bare_of_output h
  obtain rfl := Option.some.inj (h.symm.trans (parse_output_some errno hbare))
  have hlines : (contributions (decide (errno ≠ 0)) (live client output)).flatten.filter
      (fun e => e.1 = name p) = [] := by
    refine List.filter_eq_nil_iff.mpr fun e he => ?_
    obtain ⟨pre, line, post, hsplit, hline⟩ := mem_contributions.mp he
    obtain ⟨q, hkey, hname⟩ := alone_name (contribution_subset hline).1
    have hlive : line ∈ live client output := hsplit ▸ List.mem_append_right _ List.mem_cons_self
    have hskip := not_skipped hlive
    simp only [decide_eq_true_eq]
    intro heq
    obtain rfl := name_inj (hname.symm.trans heq)
    simp [skipped, hkey, hv] at hskip
  have hoverlay : (overlay client).filter (fun e => e.1 = name p) = [(name p, v)] := by
    unfold overlay
    rw [List.filter_map]
    show ((save_parameters client).entries.filter fun e => e.1 = name p).map _ = _
    rw [HashTable.filter_entries, save_parameters_lookup, hv]
    rfl
  rw [List.filter_append, hlines, hoverlay, List.nil_append]

/-- A property that the client sets is what the session gets. -/
theorem overridden_property {α : Type} (transform : GVariant → Option α) {a : α}
    {client merged : Parameters} {errno : Nat} {output : CString} {p : Parameter} {v : GVariant}
    (hv : client_value client (name p) = some v)
    (h : parse_output (save_parameters client) errno output = some merged)
    (ha : transform v = some a) : property transform p (typed merged) = [a] := by
  rw [property_typed, overridden_once hv h]
  simp [ha]

/-! ## Section 4: The session of a login -/

/-- What a login asks for says what PAM knows. -/
structure Asks (h : PamHandle) (s : PamSession) : Prop where
  uid : ∃ user, h.user = some user ∧ h.getpwnam user = some s.uid
  remote_host_name : s.remote_host_name = h.rhost.getD []
  is_local : s.is_local = true ↔ s.remote_host_name = []

theorem asks_of_requested {opt_nox11 : Bool} {h : PamHandle} {s : PamSession}
    (hs : requested_session opt_nox11 h = .ok s) : Asks h s := by
  unfold requested_session at hs
  match huser : h.user, htty : h.tty with
  | none, _ | some [], _ => simp [huser, bind, Except.bind] at hs
  | some (_ :: _), none | some (_ :: _), some [] => simp [huser, htty, bind, Except.bind] at hs
  | some (u :: user), some (t :: tty) =>
    simp only [huser, htty, bind, Except.bind] at hs
    split at hs
    · cases hs
    · split at hs
      · cases hs
      · rename_i uid huid
        split at hs
        · cases hs
        · cases hs
          refine ⟨⟨_, huser, huid⟩, ?_, ?_⟩
          · cases hrhost : h.rhost with
            | none => rfl
            | some rhost => by_cases hempty : rhost = [] <;> simp [Option.filter, hempty]
          · cases hrhost : h.rhost with
            | none => simp
            | some rhost => by_cases hempty : rhost = [] <;> simp [Option.filter, hempty]

/-- The opening that the output of the collector leads to. -/
structure Opens (client : Parameters) (errno : Nat) (output : CString) (o : Opening) : Prop where
  parsed : ∃ merged, parse_output (save_parameters client) errno output = some merged ∧
    o.parameters = typed merged
  created : o.created = true
  /-- `g_value_transform` casts an `int` to an `unsigned int`. -/
  to_uint : ∀ n, o.transform.to_uint (.int32 n) = some (n % 2 ^ 32).toNat

/-- A session has what the login has asked for. -/
structure HasParameters (s : PamSession) (session : CkSession) : Prop where
  unix_user : session.unix_user = s.uid.toNat
  display_device : session.display_device = some s.display_device
  x11_display : session.x11_display = some s.x11_display
  x11_display_device : session.x11_display_device = some s.x11_display_device
  remote_host_name : session.remote_host_name = some s.remote_host_name
  is_local : session.is_local = s.is_local

theorem int32_of_uint (uid : UInt32) :
    (((uid.toNat : Int).bmod (2 ^ 32)) % 2 ^ 32).toNat = uid.toNat := by
  have hlt := uid.toNat_lt
  have hmod : (uid.toNat : Int).bmod (2 ^ 32) % ((2 ^ 32 : Nat) : Int) =
      (uid.toNat : Int) % ((2 ^ 32 : Nat) : Int) := Int.bmod_emod
  omega

theorem new_session_has {m : State} {l : LeaderRef} {o : Opening} {errno : Nat}
    {output : CString} {s : PamSession} (h : Opens s.parameters errno output o) :
    HasParameters s (m.ck_session_new_with_parameters l o) := by
  obtain ⟨merged, hparse, hparameters⟩ := h.parsed
  have hstring {p : Parameter} {text : CString}
      (hv : client_value s.parameters (name p) = some (.string text)) :
      property o.transform.to_string p o.parameters = [text] := by
    rw [hparameters]
    exact overridden_property _ hv hparse (o.transform.to_string_string text)
  have huint : property o.transform.to_uint .unix_user o.parameters = [s.uid.toNat] := by
    rw [hparameters]
    refine overridden_property _ (v := int32_of s.uid) rfl hparse ?_
    rw [int32_of, h.to_uint, int32_of_uint]
  have hboolean : property o.transform.to_boolean .is_local o.parameters = [s.is_local] := by
    rw [hparameters]
    exact overridden_property _ rfl hparse (o.transform.to_boolean_boolean _)
  constructor
  · show (property o.transform.to_uint .unix_user o.parameters).getLast?.getD 0 = _
    rw [huint]
    rfl
  · show (property o.transform.to_string .display_device o.parameters).getLast? = _
    rw [hstring rfl]
    rfl
  · show (property o.transform.to_string .x11_display o.parameters).getLast? = _
    rw [hstring rfl]
    rfl
  · show (property o.transform.to_string .x11_display_device o.parameters).getLast? = _
    rw [hstring rfl]
    rfl
  · show (property o.transform.to_string .remote_host_name o.parameters).getLast? = _
    rw [hstring rfl]
    rfl
  · show (property o.transform.to_boolean .is_local o.parameters).getLast?.getD false = _
    rw [hboolean]
    rfl

/-- What becomes of a login: the opening of the session `c.state.next_session`
    begins between `c` and `c'`. -/
structure PamOpened (h : PamHandle) (s : PamSession) (c c' : MainLoop) : Prop where
  asks : Asks h s
  /-- The new session has what was asked for. -/
  parameters : HasParameters s (c'.state.session c.state.next_session)
  /-- A login from another host is put on no seat that is there. -/
  seat : s.remote_host_name ≠ [] → ∀ d < c.state.next_seat,
    .ck_seat_add_session (some d) c.state.next_session ∉ c'.stack
  /-- Whatever the host, the session is local when its opening returns. -/
  marked : ∀ labels t, OpeningReturns c' c.state.next_session labels t →
    (t.state.session c.state.next_session).is_local = true

/-- What the verification says is what an opening returns with. -/
theorem returns_verified {c c' : MainLoop} (hc : main_loop.Reachable c) {l : LeaderRef}
    {o : Opening} (hcreated : o.created = true)
    (hnext : main_loop.next c (.dispatch (.job_completed l (some o))) = some c')
    {labels : List CkManager.Label} {t : MainLoop} (ht : OpeningReturns c' c.state.next_session labels t) :
    (t.state.session c.state.next_session).is_local = c.state.verify_is_local o.parameters := by
  cases main_loop_step hnext with
  | @dispatch _ r _ hr =>
    obtain ⟨-, hr⟩ := State.dispatch_job_completed hr
    obtain ⟨hlt, -, seat, calls, hcalls, heq⟩ := State.job_completed_flags hcreated hr
    obtain ⟨⟨m, _⟩, is_local, rest, hrun, rfl, ht⟩ := ht
    have hflag : (t.state.session c.state.next_session).is_local = is_local := by
      cases ht
      simp [State.setSession]
    -- the only opening of the new session is this one
    have hpending : pending_flags c.state.next_session (r.2 ++ c.stack) =
        [c.state.verify_is_local o.parameters] := by
      rw [heq, pending_flags_opening hcalls, if_pos rfl]
      exact congrArg _ (no_pending_flags hc _ (Nat.le_refl _))
    have hnew : c.state.next_session < r.1.next_session := hlt ▸ Nat.lt_succ_self _
    rw [hflag]
    obtain ⟨-, ⟨hsame, -⟩ | hshorter⟩ := flag_run hnew hrun
    · rw [hpending, pending_flags_opened] at hsame
      exact (List.cons.inj hsame).1
    · rw [hpending, pending_flags_opened] at hshorter
      simp at hshorter

/-- Static seats are for sessions of this host. -/
theorem find_seat_remote {m : State} {x : SessionRef} {host : CString}
    (hhost : (m.session x).remote_host_name = some host) (hne : host ≠ []) :
    m.find_seat_for_session x = none := by
  have hset : State.is_str_set (m.session x).remote_host_name = true := by
    simp [State.is_str_set, hhost, hne]
  simp [State.find_seat_for_session, hset]

/-- A login from another host. -/
def ssh_login : PamHandle where
  user := some (cstr "user")
  tty := some (cstr "pts/0")
  rhost := some (cstr "example")
  getenv _ := none
  getpwnam _ := some 1000

def ssh_session : PamSession where
  uid := 1000
  display_device := cstr "/dev/pts/0"
  x11_display := []
  x11_display_device := []
  remote_host_name := cstr "example"
  is_local := false

def ssh_output : CString := cstr "unix-user = 0\nis-local = true\nlogin-session-id = 3\n"

def ssh_opening : Opening where
  parameters := typed ((parse_output (save_parameters ssh_session.parameters) 0 ssh_output).getD [])
  transform := .same_type
  creation_time := cstr "2020-01-01T00:00:00Z"
  created := true
  registers := true

end PamCkConnector
