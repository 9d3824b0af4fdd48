import ConsoleKit.Client.Pam
import ConsoleKit.Manager.Loss

/-! # Login processes and their sessions

    Any number of processes call the PAM module, which keeps a connector with a
    private connection to the bus as long as the login lasts.  The messages of
    the connections, the replies and the news of a lost connection are on the
    way for some time, and the manager does other things meanwhile.

    This module provides:
    - `logins`: the processes, the bus and the manager, as one system,
    - `LoginsOk`, its invariant,
    - `sessions_of_logins`: sessions and connections correspond.
-/

namespace PamCkConnector

open Libc CkManager LTS

/-! ## Section 1: The system -/

structure CkConnector where
  /-- The unique name of the private connection. -/
  connection : Option CString
  cookie : Option CString
  session_created : Bool

/-- The method call that a process waits for. -/
inductive Phase where
  | idle | open_session | get_runtime_dir
  deriving DecidableEq

structure Process where
  opt_nox11 : Bool
  ckc : Option CkConnector
  phase : Phase
  /-- `XDG_SESSION_COOKIE` in the environment of PAM. -/
  session_cookie : Option CString

def Process.connection (process : Process) : Option CString :=
  process.ckc.bind CkConnector.connection

structure Logins where
  loop : MainLoop
  process : Nat → Process
  /-- The unique names of all private connections. -/
  used : List CString
  /-- The connections whose `OpenSessionWithParameters` is on the way. -/
  requests : List CString
  /-- The replies to them, with their cookies. -/
  replies : List (CString × CString)
  /-- The connections whose loss is not announced yet. -/
  lost : List CString

/-- How the process fares with a reply. -/
inductive Received where
  | success | strdup_fails | putenv_fails
  deriving DecidableEq

inductive LoginLabel where
  /-- `connection` is what `dbus_bus_get_private` returns. -/
  | pam_sm_open_session (p : Nat) (argv : List CString) (h : PamHandle)
      (connection : Option CString)
  | reply (p : Nat) (cookie : CString) (received : Received)
  /-- An error, or no reply in time. -/
  | no_reply (p : Nat)
  /-- `putenv` tells whether `XDG_RUNTIME_DIR` could be set, if there is one. -/
  | runtime_dir (p : Nat) (putenv : Bool)
  | pam_sm_close_session (p : Nat)
  /-- The process ends, and another one may start. -/
  | exit (p : Nat)
  /-- The manager gets the request of a connection, or the news of its loss. -/
  | open_session (S : CString) (caller : Option (Nat × Nat)) (cookie : CString) (started : Bool)
  | name_owner_changed (S : CString)
  /-- The manager does something else. -/
  | loop (label : Label)

namespace Logins

def setProcess (q : Logins) (p : Nat) (process : Process) : Logins :=
  { q with process := Function.update q.process p process }

/-- `ck_connector_unref` for the only reference: a private connection is
    closed. -/
def ck_connector_unref (q : Logins) (p : Nat) (process : Process) : Logins :=
  { q.setProcess p { process with ckc := none, phase := .idle } with
    lost := q.lost ++ process.connection.toList }

/-- The bus gives no name twice. -/
def is_new (q : Logins) (S : CString) : Bool :=
  !q.used.contains S && (List.range q.loop.state.next_leader).all fun l =>
    (q.loop.state.leader l).service_name ≠ S

/-- `pam_sm_open_session`, up to the request. -/
def pam_sm_open_session (q : Logins) (p : Nat) (argv : List CString) (h : PamHandle)
    (connection : Option CString) : Option Logins :=
  let process := { q.process p with opt_nox11 := _parse_pam_args (q.process p).opt_nox11 argv }
  match process.ckc with
  -- process already registered with ConsoleKit
  | some _ => some (q.setProcess p process)
  | none =>
    let process := { process with ckc := some ⟨none, none, false⟩ }
    match requested_session process.opt_nox11 h, connection with
    | .error _, _ | .ok _, none => some (q.setProcess p process)
    | .ok _, some S =>
      if q.is_new S then
        some { q.setProcess p { process with
            ckc := some ⟨some S, none, false⟩, phase := .open_session } with
          used := q.used ++ [S]
          requests := q.requests ++ [S] }
      else none

/-- The cookie is copied, and then the environment is set. -/
def reply (q : Logins) (p : Nat) (cookie : CString) (received : Received) : Option Logins :=
  let process := q.process p
  match process.ckc with
  | some ⟨some S, _, _⟩ =>
    if process.phase = .open_session ∧ (S, cookie) ∈ q.replies then
      match received with
      | .strdup_fails => some (q.setProcess p { process with phase := .idle })
      | .putenv_fails => some (q.ck_connector_unref p process)
      | .success => some (q.setProcess p { process with
          ckc := some ⟨some S, some cookie, true⟩
          phase := .get_runtime_dir
          session_cookie := some ((cstr "XDG_SESSION_COOKIE=" ++ cookie).take 254) })
    else none
  | _ => none

/-- The manager returns from a call: the end of `open_session_for_leader`
    replies to the client of the leader. -/
def returned (c : MainLoop) (label : Label) : List (CString × CString) :=
  match label, c.stack with
  | .call, .session_opened x _ :: _ =>
    let leader := c.state.leader (c.state.session x).leader
    [(leader.service_name, leader.cookie)]
  | _, _ => []

/-- What the manager gets from the connections of the processes are their
    requests and their losses. -/
def elsewhere (used : List CString) : Label → Bool
  | .dispatch (.open_session S ..) | .dispatch (.name_owner_notify _ S _) => !used.contains S
  | _ => true

def next (q : Logins) : LoginLabel → Option Logins
  | .pam_sm_open_session p argv h connection =>
      if (q.process p).phase = .idle then q.pam_sm_open_session p argv h connection else none
  | .reply p cookie received => q.reply p cookie received
  | .no_reply p =>
      if (q.process p).phase = .open_session then
        some (q.setProcess p { q.process p with phase := .idle })
      else none
  | .runtime_dir p putenv =>
      if (q.process p).phase = .get_runtime_dir then
        if putenv then some (q.setProcess p { q.process p with phase := .idle })
        else some (q.ck_connector_unref p (q.process p))
      else none
  | .pam_sm_close_session p =>
      if (q.process p).phase = .idle then some (q.ck_connector_unref p (q.process p)) else none
  | .exit p =>
      some ((q.ck_connector_unref p (q.process p)).setProcess p ⟨false, none, .idle, none⟩)
  | .open_session S caller cookie started =>
      if q.requests.contains S then
        (main_loop.next q.loop (.dispatch (.open_session S caller cookie started))).map fun loop =>
          { q with loop := loop, requests := q.requests.erase S }
      else none
  | .name_owner_changed S =>
      -- messages stay in order
      if q.lost.contains S && !q.requests.contains S then
        (main_loop.next q.loop (.dispatch (.name_owner_notify S S []))).map fun loop =>
          { q with loop := loop, lost := q.lost.erase S }
      else none
  | .loop label =>
      if elsewhere q.used label then
        (main_loop.next q.loop label).map fun loop =>
          { q with
            loop := loop
            replies := q.replies ++ returned q.loop label }
      else none

end Logins

def logins : System Logins LoginLabel where
  init q := main_loop.init q.loop ∧
    q = ⟨q.loop, fun _ => ⟨false, none, .idle, none⟩, [], [], [], []⟩
  next := Logins.next

/-! ## Section 2: What a step of the manager adds -/

/-- The leaders, the openings and the lost names that a step adds. -/
structure Grows (c c' : MainLoop) (label : Label) : Prop where
  leaders : c'.state.next_leader = c.state.next_leader ∨
    ∃ sender caller cookie started,
      label = .dispatch (.open_session sender caller cookie started) ∧
      c'.state.next_leader = c.state.next_leader + 1 ∧
      (c'.state.leader c.state.next_leader).service_name = sender ∧
      c'.state.leaders.lookup (c'.state.leader c.state.next_leader).cookie =
        some c.state.next_leader ∧ c'.stack = c.stack
  next_session : c.state.next_session ≤ c'.state.next_session
  opener : ∀ x < c.state.next_session, (c'.state.session x).leader = (c.state.session x).leader
  opened : ∀ x b, .session_opened x b ∈ c'.stack → .session_opened x b ∈ c.stack ∨
    (x < c'.state.next_session ∧
      c'.state.sessions.lookup (c'.state.leader (c'.state.session x).leader).session_id = some x)
  gone : ∀ {S}, S ∈ c.state.gone → S ∈ c'.state.gone

namespace Grows

variable {m m' : State} {stack : List Call} {label : Label}

/-- Steps that add nothing. -/
theorem same {stack' calls : List Call} (hleader : m'.next_leader = m.next_leader)
    (hsession : m'.next_session = m.next_session)
    (hopener : ∀ x < m.next_session, (m'.session x).leader = (m.session x).leader)
    (hcalls : NoneOpened calls) (hstack : ∀ f ∈ stack', f ∈ stack)
    (hgone : ∀ {S}, S ∈ m.gone → S ∈ m'.gone) :
    Grows ⟨m, stack⟩ ⟨m', calls ++ stack'⟩ label where
  leaders := .inl hleader
  next_session := Nat.le_of_eq hsession.symm
  opener := hopener
  opened x b hmem := by
    rcases List.mem_append.mp hmem with hmem | hmem
    · exact absurd rfl (hcalls _ hmem x b)
    · exact .inl (hstack _ hmem)
  gone := hgone

theorem open_session {sender cookie : CString} {caller : Option (Nat × Nat)} {started : Bool}
    (hm' : m.create_session_for_sender sender caller cookie started = some m') :
    Grows ⟨m, stack⟩ ⟨m', stack⟩ (.dispatch (.open_session sender caller cookie started)) := by
  cases caller with
  | none =>
    cases hm'
    exact ⟨.inl rfl, Nat.le_refl _, fun _ _ => rfl, fun _ _ hmem => .inl hmem, id⟩
  | some caller =>
    obtain ⟨⟨ssid, m₁⟩, hid, rfl⟩ := Option.map_eq_some_iff.mp hm'
    obtain ⟨-, serial, rfl⟩ := State.generate_session_id_free hid
    refine ⟨.inr ⟨_, _, _, _, rfl, rfl, ?_, ?_, rfl⟩, Nat.le_refl _, fun _ _ => rfl,
      fun _ _ hmem => .inl hmem, id⟩
    · simp
    · show (m.leaders.insert cookie m.next_leader).lookup
        (Function.update m.leader m.next_leader _ m.next_leader).cookie = some m.next_leader
      rw [Function.update_self]
      exact AList.lookup_insert _

theorem job_completed {l : LeaderRef} {result : Option Opening} {r : State × List Call}
    (hr : m.job_completed l result = some r) :
    Grows ⟨m, stack⟩ ⟨r.1, r.2 ++ stack⟩ (.dispatch (.job_completed l result)) := by
  rcases State.job_completed_cases hr with
    rfl | ⟨o, is_local, seat, calls, rfl, hcreated, hsame, -, -, -⟩
  · exact .same rfl rfl (fun _ _ => rfl) .nil (fun _ h => h) id
  · obtain ⟨hlt, -, seat, calls, hcalls, heq⟩ := State.job_completed_flags hcreated hr
    refine ⟨.inl hsame.next_leader, ?_, fun x hx => ?_, fun x b hmem => ?_,
      fun hS => hsame.gone ▸ hS⟩
    · show m.next_session ≤ r.1.next_session
      rw [hlt]
      exact Nat.le_succ _
    · show (r.1.session x).leader = (m.session x).leader
      rw [hsame.opener]
      simp [State.insertOpened, State.insertSession, State.setLeader, Nat.ne_of_lt hx]
    · rw [heq] at hmem
      rcases List.mem_append.mp hmem with hmem | hmem
      · rcases List.mem_append.mp hmem with hmem | hmem
        · exact absurd rfl (hcalls _ hmem x b)
        · simp only [List.mem_cons, List.not_mem_nil, or_false] at hmem
          rcases hmem with heq | heq
          · cases heq
          · obtain ⟨rfl, -⟩ := Call.session_opened.inj heq
            refine .inr ⟨hlt ▸ Nat.lt_succ_self _, ?_⟩
            have hleader : (r.1.session m.next_session).leader = l := by
              rw [hsame.opener]
              simp [State.insertOpened, State.insertSession, State.ck_session_new_with_parameters]
            show r.1.sessions.lookup (r.1.leader (r.1.session m.next_session).leader).session_id = _
            rw [hleader, hsame.sessions, hsame.leader]
            simp [State.insertOpened, State.insertSession, State.ck_session_new_with_parameters]
      · exact .inl hmem

theorem step {c c' : MainLoop} (hnext : main_loop.next c label = some c') :
    Grows c c' label := by
  obtain ⟨m, stack⟩ := c
  have hgone {S : CString} (hS : S ∈ m.gone) : S ∈ c'.state.gone :=
    (LeaderStep.step hnext).gone_mono hS
  cases main_loop_step hnext with
  | @dispatch event r hloop hr =>
    cases event with
    | open_session sender caller cookie started =>
      obtain ⟨-, m', hm', rfl⟩ := State.dispatch_open_session hr
      exact .open_session hm'
    | job_completed l result =>
      obtain ⟨-, hr⟩ := State.dispatch_job_completed hr
      exact .job_completed hr
    | close_session caller cookie =>
      have hflags := State.dispatch_flags (by simp) hr
      have hsame : SameSessions m r.1 := by
        cases hr
        rcases m.dbus_close_session_cases caller cookie with heq | ⟨_, _, l, r, -, -, hr, heq⟩
        · rw [heq]
          exact .refl m
        · rw [heq]
          obtain ⟨_, _, -, hsame, -⟩ := State.remove_session_for_cookie_spec hr
          exact hsame
      exact .same hsame.next_leader hflags.next_session (fun x _ => hsame.opener x) hflags.calls
        (fun _ h => h) hgone
    | name_owner_notify service_name old_service_name new_service_name =>
      have hflags := State.dispatch_flags (by simp) hr
      have hsame : r.1.next_leader = m.next_leader ∧ r.1.session = m.session := by
        cases hr
        unfold State.on_name_owner_notify
        split <;> exact ⟨rfl, rfl⟩
      exact .same hsame.1 hflags.next_session (fun x _ => by rw [hsame.2]) hflags.calls
        (fun _ h => h) hgone
    | process_queue | seat_activate_session | seat_switch_to | session_activate
      | activate_session | activate_session_on_seat | vt_leave =>
      have hflags := State.dispatch_flags (by simp) hr
      have hsame := (State.dispatch_same (by trivial) hr).1
      exact .same hsame.next_leader hflags.next_session (fun x _ => hsame.opener x) hflags.calls
        (fun _ h => h) hgone
  | @call f rest r hstack hr =>
    obtain rfl : stack = f :: rest := hstack
    have hrest : ∀ g ∈ rest, g ∈ f :: rest := fun g => List.mem_cons_of_mem f
    have hsame : r.1.next_leader = m.next_leader ∧
        ∀ x, (r.1.session x).leader = (m.session x).leader := by
      by_cases hclaims : f.claims = []
      · have hsame := (State.call_same hclaims hr).1
        exact ⟨hsame.next_leader, hsame.opener⟩
      · cases f with
        | remove_session l x caller =>
          cases hr
          cases caller <;> exact ⟨rfl, fun _ => rfl⟩
        | destroy_entity l =>
          cases hr
          rcases m.destroy_entity_cases l with ⟨-, heq⟩ | ⟨r, hr, heq⟩
          · rw [heq]
            exact ⟨rfl, fun _ => rfl⟩
          · rw [heq]
            obtain ⟨_, _, -, hsame, -⟩ := State.remove_session_for_cookie_spec hr
            exact ⟨hsame.next_leader, hsame.opener⟩
        | _ => exact absurd rfl hclaims
    by_cases hopened : ∀ x b, f ≠ .session_opened x b
    · have hflags := State.call_flags hopened hr
      exact .same hsame.1 hflags.next_session (fun x _ => hsame.2 x) hflags.calls hrest hgone
    · obtain ⟨x, b, rfl⟩ : ∃ x b, f = .session_opened x b := by
        simpa only [not_forall, not_not, ne_eq] using hopened
      cases hr
      refine .same rfl rfl (fun y _ => ?_) .nil hrest hgone
      by_cases hy : y = x <;> simp [State.setSession, hy]
  | @callout_done action rest hstack =>
    obtain rfl : stack = .callout action :: rest := hstack
    show Grows _ ⟨m, [] ++ rest⟩ _
    exact .same rfl rfl (fun _ _ => rfl) .nil (fun g => List.mem_cons_of_mem _) hgone

end Grows

/-! ## Section 3: The manager and the connections that are held -/

/-- The manager has a session under the cookie for the connection. -/
def Open (m : State) (S cookie : CString) : Prop :=
  ∃ l x, l < m.next_leader ∧ (m.leader l).service_name = S ∧ m.leaders.lookup cookie = some l ∧
    m.sessions.lookup (m.leader l).session_id = some x ∧ (m.session x).leader = l

/-- What the manager knows of the connections of the processes, of which the
    ones in `live` are held. -/
structure ManagerOk (live : CString → Prop) (used requests : List CString)
    (replies : List (CString × CString)) (c : MainLoop) : Prop where
  /-- A request that is on the way is the first of its connection, -/
  request : ∀ S ∈ requests, ∀ l < c.state.next_leader, (c.state.leader l).service_name ≠ S
  /-- and the only one. -/
  one : ∀ l l', l < c.state.next_leader → l' < c.state.next_leader →
    (c.state.leader l).service_name ∈ used →
    (c.state.leader l).service_name = (c.state.leader l').service_name → l = l'
  leader : ∀ l < c.state.next_leader, live (c.state.leader l).service_name →
    c.state.leaders.lookup (c.state.leader l).cookie = some l ∧ l ∉ claims c.stack
  opening : ∀ x b, .session_opened x b ∈ c.stack → x < c.state.next_session ∧
    (live (c.state.leader (c.state.session x).leader).service_name →
      c.state.sessions.lookup (c.state.leader (c.state.session x).leader).session_id = some x)
  replied : ∀ e ∈ replies,
    (∃ l < c.state.next_leader, (c.state.leader l).service_name = e.1) ∧
    (live e.1 → Open c.state e.1 e.2)

section step
variable {live : CString → Prop} {used requests requests' : List CString}
  {replies : List (CString × CString)} {c c' : MainLoop} {label : Label}

/-- No step takes a leader away whose connection is held. -/
def Spares (live : CString → Prop) (c : MainLoop) (label : Label) : Prop :=
  ∀ l, live (c.state.leader l).service_name → ∀ event, label = .dispatch event →
    ¬ event.Requests c.state l

theorem leader_same (hnext : main_loop.next c label = some c') {l : LeaderRef}
    (hl : l < c.state.next_leader) :
    (c'.state.leader l).service_name = (c.state.leader l).service_name ∧
      (c'.state.leader l).cookie = (c.state.leader l).cookie ∧
      (c'.state.leader l).session_id = (c.state.leader l).session_id := by
  rw [(LeaderStep.step hnext).leader hl]
  exact ⟨rfl, rfl, rfl⟩

theorem Grows.leader_le (h : Grows c c' label) : c.state.next_leader ≤ c'.state.next_leader := by
  rcases h.leaders with heq | ⟨_, _, _, _, -, heq, -⟩
  · exact Nat.le_of_eq heq.symm
  · exact heq ▸ Nat.le_succ _

theorem Open.step (hsessions : SessionsValid c.state c.stack)
    (hseats : SeatsValid c.state c.stack) (hnext : main_loop.next c label = some c')
    (hspares : Spares live c label) {S cookie : CString} (hlive : live S)
    (hfree : ∀ l < c.state.next_leader, live (c.state.leader l).service_name →
      l ∉ claims c.stack) (h : Open c.state S cookie) : Open c'.state S cookie := by
  obtain ⟨l, x, hl, hname, hcookie, hx, hopener⟩ := h
  have hlive' : live (c.state.leader l).service_name := by rwa [hname]
  have hframe := Frame.step hsessions hseats (hspares l hlive') hnext
  have hclaims := hfree l hl hlive'
  obtain ⟨hname', -, hid'⟩ := leader_same hnext hl
  refine ⟨l, x, Nat.lt_of_lt_of_le hl (Grows.step hnext).leader_le, hname'.trans hname,
    hframe.registered hclaims hcookie, ?_, ?_⟩
  · rw [hid']
    exact hframe.table hclaims hx hopener
  · exact ((Grows.step hnext).opener x (hsessions.table hx).1).trans hopener

/-- **Step lemma**: what the manager knows stays true. -/
theorem ManagerOk.step (h : ManagerOk live used requests replies c)
    (hsessions : SessionsValid c.state c.stack) (hseats : SeatsValid c.state c.stack)
    (hnext : main_loop.next c label = some c') (hspares : Spares live c label)
    (hsub : requests' ⊆ requests)
    (hsender : ∀ sender caller cookie started,
      label = .dispatch (.open_session sender caller cookie started) → sender ∉ requests' ∧
        (sender ∈ used → ∀ l < c.state.next_leader, (c.state.leader l).service_name ≠ sender)) :
    ManagerOk live used requests'
      (replies ++ Logins.returned c label) c' := by
  have hgrows := Grows.step hnext
  have hfree : ∀ l < c.state.next_leader, live (c.state.leader l).service_name →
      l ∉ claims c.stack := fun l hl hlive => (h.leader l hl hlive).2
  -- a leader is an old one, or the one of the request that the manager gets
  have hleaders : ∀ l < c'.state.next_leader, l < c.state.next_leader ∨
      (l = c.state.next_leader ∧ (c'.state.leader l).service_name ∉ requests' ∧
        ((c'.state.leader l).service_name ∈ used → ∀ l' < c.state.next_leader,
          (c.state.leader l').service_name ≠ (c'.state.leader l).service_name) ∧
        c'.state.leaders.lookup (c'.state.leader l).cookie = some l ∧
        c'.stack = c.stack) := by
    intro l hl
    rcases hgrows.leaders with heq | ⟨sender, caller, cookie, started, hlabel, heq, hname, hlookup,
      hstack⟩
    · exact .inl (heq ▸ hl)
    · rw [heq] at hl
      rcases Nat.lt_succ_iff_lt_or_eq.mp hl with hl | rfl
      · exact .inl hl
      · obtain ⟨hout, hfirst⟩ := hsender _ _ _ _ hlabel
        rw [hname]
        exact .inr ⟨rfl, hout, hfirst, hlookup, hstack⟩
  refine ⟨fun S hS l hl => ?_, fun l l' hl hl' hused heq => ?_, fun l hl hlive => ?_,
    fun x b hmem => ?_, fun e he => ?_⟩
  · rcases hleaders l hl with hl | ⟨-, hout, -⟩
    · rw [(leader_same hnext hl).1]
      exact h.request S (hsub hS) l hl
    · rintro rfl
      exact hout hS
  · rcases hleaders l hl with hold | ⟨rfl, -, hfirst, -⟩ <;>
      rcases hleaders l' hl' with hold' | ⟨rfl, -, hfirst', -⟩
    · rw [(leader_same hnext hold).1] at hused heq
      rw [(leader_same hnext hold').1] at heq
      exact h.one l l' hold hold' hused heq
    · refine absurd ?_ (hfirst' (heq ▸ hused) l hold)
      rw [← (leader_same hnext hold).1]
      exact heq
    · refine absurd ?_ (hfirst hused l' hold')
      rw [← (leader_same hnext hold').1]
      exact heq.symm
    · rfl
  · rcases hleaders l hl with hold | ⟨rfl, -, -, hlookup, hstack⟩
    · obtain ⟨hname, hcookie, -⟩ := leader_same hnext hold
      rw [hname] at hlive
      have hframe := Frame.step hsessions hseats (hspares l hlive) hnext
      obtain ⟨hlookup, hclaims⟩ := h.leader l hold hlive
      rw [hcookie]
      exact ⟨hframe.registered hclaims hlookup, mt hframe.claimed hclaims⟩
    · refine ⟨hlookup, fun hmem => ?_⟩
      rw [hstack] at hmem
      exact Nat.lt_irrefl _ (hsessions.claims_lt hmem)
  · rcases hgrows.opened x b hmem with hmem | ⟨hx, hlookup⟩
    · obtain ⟨hx, htable⟩ := h.opening x b hmem
      have hl := (hsessions.opener hx).1
      obtain ⟨hname, -, hid⟩ := leader_same hnext hl
      refine ⟨Nat.lt_of_lt_of_le hx hgrows.next_session, fun hlive => ?_⟩
      rw [hgrows.opener x hx] at hlive ⊢
      rw [hname] at hlive
      rw [hid]
      exact (Frame.step hsessions hseats (hspares _ hlive) hnext).table (hfree _ hl hlive)
        (htable hlive) rfl
    · exact ⟨hx, fun _ => hlookup⟩
  · have hold {e : CString × CString}
        (he : (∃ l < c.state.next_leader, (c.state.leader l).service_name = e.1) ∧
          (live e.1 → Open c.state e.1 e.2)) :
        (∃ l < c'.state.next_leader, (c'.state.leader l).service_name = e.1) ∧
          (live e.1 → Open c'.state e.1 e.2) := by
      obtain ⟨⟨l, hl, hname⟩, hopen⟩ := he
      exact ⟨⟨l, Nat.lt_of_lt_of_le hl hgrows.leader_le, (leader_same hnext hl).1.trans hname⟩,
        fun hlive => (hopen hlive).step hsessions hseats hnext hspares hlive hfree⟩
    refine hold ?_
    rcases List.mem_append.mp he with he | he
    · exact h.replied e he
    · unfold Logins.returned at he
      split at he
      · rename_i x b rest hstack _
        obtain rfl := List.mem_singleton.mp he
        obtain ⟨hx, htable⟩ := h.opening x b (hstack ▸ List.mem_cons_self)
        have hl := (hsessions.opener hx).1
        exact ⟨⟨_, hl, rfl⟩, fun hlive =>
          ⟨_, x, hl, rfl, (h.leader _ hl hlive).1, htable hlive, rfl⟩⟩
      · cases he

theorem ManagerOk.mono {live' : CString → Prop} (h : ManagerOk live used requests replies c)
    (hlive : ∀ S, live' S → live S) : ManagerOk live' used requests replies c where
  request := h.request
  one := h.one
  leader l hl hS := h.leader l hl (hlive _ hS)
  opening x b hmem := ⟨(h.opening x b hmem).1, fun hS => (h.opening x b hmem).2 (hlive _ hS)⟩
  replied e he := ⟨(h.replied e he).1, fun hS => (h.replied e he).2 (hlive _ hS)⟩

/-- A new connection sends its request. -/
theorem ManagerOk.connect {live' : CString → Prop} (h : ManagerOk live used requests replies c)
    (hsessions : SessionsValid c.state c.stack) {S : CString}
    (hnew : ∀ l < c.state.next_leader, (c.state.leader l).service_name ≠ S)
    (hlive : ∀ S', live' S' → live S' ∨ S' = S) :
    ManagerOk live' (used ++ [S]) (requests ++ [S]) replies c := by
  have hold {S' : CString} (hS' : live' S') (hne : S' ≠ S) : live S' :=
    (hlive S' hS').resolve_right hne
  refine ⟨fun S' hS' l hl => ?_, fun l l' hl hl' hused heq => ?_, fun l hl hS' => ?_,
    fun x b hmem => ?_, fun e he => ?_⟩
  · rcases List.mem_append.mp hS' with hS' | hS'
    · exact h.request S' hS' l hl
    · exact List.mem_singleton.mp hS' ▸ hnew l hl
  · rcases List.mem_append.mp hused with hused | hused
    · exact h.one l l' hl hl' hused heq
    · exact absurd (List.mem_singleton.mp hused) (hnew l hl)
  · exact h.leader l hl (hold hS' (hnew l hl))
  · obtain ⟨hx, htable⟩ := h.opening x b hmem
    exact ⟨hx, fun hS' => htable (hold hS' (hnew _ (hsessions.opener hx).1))⟩
  · obtain ⟨⟨l, hl, hname⟩, hopen⟩ := h.replied e he
    exact ⟨⟨l, hl, hname⟩, fun hS' => hopen (hold hS' (hname ▸ hnew l hl))⟩

end step

/-! ## Section 4: The processes -/

theorem not_mem_of_contains {S : CString} {l : List CString} (h : (!l.contains S) = true) :
    S ∉ l := by
  simpa using h

/-- The process keeps a connector with this connection. -/
def Logins.Holds (q : Logins) (p : Nat) (S : CString) : Prop := (q.process p).connection = some S

/-- A process with a cookie has a session. -/
structure HasSession (m : State) (process : Process) (k : CkConnector) : Prop where
  session : ∃ S cookie, k.connection = some S ∧ k.cookie = some cookie ∧ Open m S cookie ∧
    process.session_cookie = some ((cstr "XDG_SESSION_COOKIE=" ++ cookie).take 254)

structure LoginsOk (q : Logins) : Prop where
  used : ∀ p S, q.Holds p S → S ∈ q.used
  not_lost : ∀ p S, q.Holds p S → S ∉ q.lost
  owner : ∀ p p' S, q.Holds p S → q.Holds p' S → p = p'
  gone : ∀ S ∈ q.used, (∀ p, ¬ q.Holds p S) → S ∈ q.lost ∨ S ∈ q.loop.state.gone
  requests : ∀ S ∈ q.requests, S ∈ q.used
  nodup : q.requests.Nodup
  lost_used : ∀ S ∈ q.lost, S ∈ q.used
  manager : ManagerOk (fun S => ∃ p, q.Holds p S) q.used q.requests q.replies q.loop
  created : ∀ p k, (q.process p).ckc = some k → k.session_created = true →
    HasSession q.loop.state (q.process p) k

namespace LoginsOk

variable {q : Logins} {p : Nat} {process : Process}

theorem holds_setProcess {p' : Nat} {S : CString} :
    (q.setProcess p process).Holds p' S ↔
      if p' = p then process.connection = some S else q.Holds p' S := by
  unfold Logins.Holds Logins.setProcess
  by_cases h : p' = p <;> simp [h]

/-- A process that keeps its connection. -/
theorem keep (h : LoginsOk q) (hconnection : process.connection = (q.process p).connection)
    (hcreated : ∀ k, process.ckc = some k → k.session_created = true →
      HasSession q.loop.state process k) : LoginsOk (q.setProcess p process) := by
  have hholds (p' : Nat) (S : CString) : (q.setProcess p process).Holds p' S ↔ q.Holds p' S := by
    rw [holds_setProcess]
    split
    · rename_i heq
      rw [heq, hconnection]
      rfl
    · rfl
  refine ⟨fun p' S hS => h.used p' S ((hholds p' S).mp hS),
    fun p' S hS => h.not_lost p' S ((hholds p' S).mp hS),
    fun p' p'' S hS hS' => h.owner p' p'' S ((hholds p' S).mp hS) ((hholds p'' S).mp hS'),
    fun S hS hnone => h.gone S hS fun p' => mt (hholds p' S).mpr (hnone p'), h.requests, h.nodup,
    h.lost_used, h.manager.mono fun S ⟨p', hS⟩ => ⟨p', (hholds p' S).mp hS⟩, fun p' k hk hc => ?_⟩
  by_cases hp : p' = p
  · subst hp
    simp only [Logins.setProcess, Function.update_self] at hk ⊢
    exact hcreated k hk hc
  · simp only [Logins.setProcess, Function.update_of_ne hp] at hk ⊢
    exact h.created p' k hk hc

/-- A process that gives its connection up. -/
theorem unref (h : LoginsOk q) (hckc : process.ckc = none) :
    LoginsOk { q.setProcess p process with
      lost := q.lost ++ (q.process p).connection.toList } := by
  have hnone : process.connection = none := by
    simp [Process.connection, hckc]
  have hholds (p' : Nat) (S : CString) : ({ q.setProcess p process with
      lost := q.lost ++ (q.process p).connection.toList } : Logins).Holds p' S ↔
        p' ≠ p ∧ q.Holds p' S := by
    refine holds_setProcess.trans ?_
    by_cases hp : p' = p <;> simp [hp, hnone]
  refine ⟨fun p' S hS => h.used p' S ((hholds p' S).mp hS).2, fun p' S hS hmem => ?_,
    fun p' p'' S hS hS' => h.owner p' p'' S ((hholds p' S).mp hS).2 ((hholds p'' S).mp hS').2,
    fun S hS hnobody => ?_, h.requests, h.nodup, fun S hmem => ?_,
    h.manager.mono fun S ⟨p', hS⟩ => ⟨p', ((hholds p' S).mp hS).2⟩, fun p' k hk hc => ?_⟩
  · obtain ⟨hp, hS⟩ := (hholds p' S).mp hS
    rcases List.mem_append.mp hmem with hmem | hmem
    · exact h.not_lost p' S hS hmem
    · exact hp (h.owner p' p S hS (Option.mem_toList.mp hmem))
  · by_cases hown : q.Holds p S
    · exact .inl (List.mem_append_right _ (Option.mem_toList.mpr hown))
    · refine (h.gone S hS fun p' hp' => ?_).imp_left (List.mem_append_left _)
      refine hnobody p' ((hholds p' S).mpr ⟨?_, hp'⟩)
      rintro rfl
      exact hown hp'
  · rcases List.mem_append.mp hmem with hmem | hmem
    · exact h.lost_used S hmem
    · exact h.used p S (Option.mem_toList.mp hmem)
  · by_cases hp : p' = p
    · subst hp
      simp [Logins.setProcess, hckc] at hk
    · simp only [Logins.setProcess, Function.update_of_ne hp] at hk ⊢
      exact h.created p' k hk hc

theorem connect (h : LoginsOk q) (hsessions : SessionsValid q.loop.state q.loop.stack)
    (hold : (q.process p).connection = none) {S : CString} (hnew : q.is_new S = true)
    (hckc : process.ckc = some ⟨some S, none, false⟩) :
    LoginsOk { q.setProcess p process with
      used := q.used ++ [S]
      requests := q.requests ++ [S] } := by
  simp only [Logins.is_new, Bool.and_eq_true, decide_eq_true_eq, List.all_eq_true,
    List.mem_range] at hnew
  obtain ⟨hunused, hnew⟩ := hnew
  replace hunused := not_mem_of_contains hunused
  have hsome : process.connection = some S := by
    simp [Process.connection, hckc]
  have hholds (p' : Nat) (S' : CString) : ({ q.setProcess p process with
      used := q.used ++ [S], requests := q.requests ++ [S] } : Logins).Holds p' S' ↔
        (p' = p ∧ S' = S) ∨ (p' ≠ p ∧ q.Holds p' S') := by
    refine holds_setProcess.trans ?_
    by_cases hp : p' = p <;> simp [hp, hsome, eq_comm]
  have hout {p' : Nat} {S' : CString} (hS' : q.Holds p' S') : S' ≠ S := fun heq =>
    hunused (heq ▸ h.used p' S' hS')
  refine ⟨fun p' S' hS' => ?_, fun p' S' hS' hmem => ?_, fun p' p'' S' hS' hS'' => ?_,
    fun S' hS' hnobody => ?_, fun S' hS' => ?_, ?_,
    fun S' hmem => List.mem_append_left _ (h.lost_used S' hmem), ?_, fun p' k hk hc => ?_⟩
  · rcases (hholds p' S').mp hS' with ⟨-, rfl⟩ | ⟨-, hS'⟩
    · exact List.mem_append_right _ List.mem_cons_self
    · exact List.mem_append_left _ (h.used p' S' hS')
  · rcases (hholds p' S').mp hS' with ⟨-, rfl⟩ | ⟨-, hS'⟩
    · exact hunused (h.lost_used _ hmem)
    · exact h.not_lost p' S' hS' hmem
  · rcases (hholds p' S').mp hS' with ⟨rfl, rfl⟩ | ⟨-, hheld⟩ <;>
      rcases (hholds p'' _).mp hS'' with ⟨rfl, heq⟩ | ⟨-, hheld'⟩
    · rfl
    · exact absurd rfl (hout hheld')
    · exact absurd heq (hout hheld)
    · exact h.owner p' p'' S' hheld hheld'
  · rcases List.mem_append.mp hS' with hS' | hS'
    · refine h.gone S' hS' fun p' hp' => ?_
      refine hnobody p' ((hholds p' S').mpr (.inr ⟨?_, hp'⟩))
      rintro rfl
      rw [Logins.Holds, hold] at hp'
      cases hp'
    · exact absurd ((hholds p S').mpr (.inl ⟨rfl, List.mem_singleton.mp hS'⟩)) (hnobody p)
  · exact List.mem_append.mpr ((List.mem_append.mp hS').imp_left (h.requests S'))
  · refine List.nodup_append.mpr ⟨h.nodup, by simp, fun S' hS' S'' hS'' => ?_⟩
    rw [List.mem_singleton.mp hS'']
    rintro rfl
    exact hunused (h.requests _ hS')
  · refine h.manager.connect hsessions hnew fun S' ⟨p', hS'⟩ => ?_
    rcases (hholds p' S').mp hS' with ⟨-, rfl⟩ | ⟨-, hS'⟩
    · exact .inr rfl
    · exact .inl ⟨p', hS'⟩
  · by_cases hp : p' = p
    · subst hp
      simp only [Logins.setProcess, Function.update_self, hckc, Option.some.injEq] at hk
      obtain rfl := hk
      cases hc
    · simp only [Logins.setProcess, Function.update_of_ne hp] at hk ⊢
      exact h.created p' k hk hc

/-- The manager takes a step. -/
theorem daemon (h : LoginsOk q) (hsessions : SessionsValid q.loop.state q.loop.stack)
    (hseats : SeatsValid q.loop.state q.loop.stack) {label : Label} {loop : MainLoop}
    (hnext : main_loop.next q.loop label = some loop)
    (hspares : Spares (fun S => ∃ p, q.Holds p S) q.loop label) {requests lost : List CString}
    (hrequests : requests.Sublist q.requests)
    (hsender : ∀ sender caller cookie started,
      label = .dispatch (.open_session sender caller cookie started) → sender ∉ requests ∧
        (sender ∈ q.used → ∀ l < q.loop.state.next_leader,
          (q.loop.state.leader l).service_name ≠ sender))
    (hlost : ∀ S ∈ lost, S ∈ q.lost) (hgone : ∀ S ∈ q.lost, S ∈ lost ∨ S ∈ loop.state.gone) :
    LoginsOk { q with
      loop := loop
      requests := requests
      lost := lost
      replies := q.replies ++ Logins.returned q.loop label } := by
  have hmanager := h.manager.step hsessions hseats hnext hspares hrequests.subset hsender
  have hfree : ∀ l < q.loop.state.next_leader,
      (∃ p, q.Holds p (q.loop.state.leader l).service_name) → l ∉ claims q.loop.stack :=
    fun l hl hlive => (h.manager.leader l hl hlive).2
  refine ⟨h.used, fun p S hS hmem => h.not_lost p S hS (hlost S hmem), h.owner,
    fun S hS hnone => ?_, fun S hS => h.requests S (hrequests.subset hS), h.nodup.sublist hrequests,
    fun S hmem => h.lost_used S (hlost S hmem), hmanager, fun p k hk hc => ?_⟩
  · rcases h.gone S hS hnone with hmem | hmem
    · exact hgone S hmem
    · exact .inr ((Grows.step hnext).gone hmem)
  · obtain ⟨S, cookie, hS, hcookie, hopen, henv⟩ := (h.created p k hk hc).session
    refine ⟨S, cookie, hS, hcookie, ?_, henv⟩
    have hlive : ∃ p, q.Holds p S := ⟨p, by
      show (q.process p).ckc.bind CkConnector.connection = some S
      rw [hk]
      exact hS⟩
    exact hopen.step hsessions hseats hnext hspares hlive hfree

end LoginsOk

/-! ## Section 5: Sessions and logins -/

/-- The step of the manager. -/
def LoginLabel.daemon : LoginLabel → Option Label
  | .open_session S caller cookie started =>
      some (.dispatch (.open_session S caller cookie started))
  | .name_owner_changed S => some (.dispatch (.name_owner_notify S S []))
  | .loop label => some label
  | _ => none

/-- The manager keeps its tables consistent, and nobody closes the session of a
    login in its place. -/
structure Undisturbed (q : Logins) (label : LoginLabel) : Prop where
  steady : ∀ l, label.daemon = some l → Steady q.loop l
  close : ∀ caller cookie l, label = .loop (.dispatch (.close_session caller cookie)) →
    (Event.close_session caller cookie).Requests q.loop.state l →
    (q.loop.state.leader l).service_name ∉ q.used

/-- What a step is to the manager. -/
theorem loop_step {q q' : Logins} {label : LoginLabel} (hn : q.next label = some q') :
    q'.loop = q.loop ∨ ∃ l, label.daemon = some l ∧ main_loop.next q.loop l = some q'.loop := by
  have hloop {l : Label} {f : MainLoop → Logins} (hl : label.daemon = some l)
      (hf : ∀ loop, (f loop).loop = loop) (hmap : (main_loop.next q.loop l).map f = some q') :
      q'.loop = q.loop ∨ ∃ l, label.daemon = some l ∧ main_loop.next q.loop l = some q'.loop := by
    obtain ⟨loop, hnext, rfl⟩ := Option.map_eq_some_iff.mp hmap
    exact .inr ⟨l, hl, (hf loop).symm ▸ hnext⟩
  cases label with
  | open_session S caller cookie started =>
    obtain ⟨-, hn⟩ := Option.ite_none_right_eq_some.mp hn
    exact hloop rfl (fun _ => rfl) hn
  | name_owner_changed S =>
    obtain ⟨-, hn⟩ := Option.ite_none_right_eq_some.mp hn
    exact hloop rfl (fun _ => rfl) hn
  | loop label =>
    obtain ⟨-, hn⟩ := Option.ite_none_right_eq_some.mp hn
    exact hloop rfl (fun _ => rfl) hn
  | pam_sm_open_session p argv h connection =>
    obtain ⟨-, hn⟩ := Option.ite_none_right_eq_some.mp hn
    unfold Logins.pam_sm_open_session at hn
    dsimp only at hn
    split at hn
    · cases hn
      exact .inl rfl
    · split at hn
      · cases hn
        exact .inl rfl
      · cases hn
        exact .inl rfl
      · obtain ⟨-, hn⟩ := Option.ite_none_right_eq_some.mp hn
        cases hn
        exact .inl rfl
  | reply p cookie received =>
    simp only [logins, Logins.next, Logins.reply] at hn
    split at hn
    · obtain ⟨-, hn⟩ := Option.ite_none_right_eq_some.mp hn
      split at hn <;> cases hn <;> exact .inl rfl
    · cases hn
  | no_reply p | pam_sm_close_session p =>
    obtain ⟨-, hn⟩ := Option.ite_none_right_eq_some.mp hn
    cases hn
    exact .inl rfl
  | runtime_dir p putenv =>
    obtain ⟨-, hn⟩ := Option.ite_none_right_eq_some.mp hn
    split at hn <;> cases hn <;> exact .inl rfl
  | exit p =>
    cases hn
    exact .inl rfl

/-- The manager by itself. -/
theorem manager_reachable {q : Logins} (h : logins.ReachableBy Undisturbed q) :
    main_loop.ReachableBy Steady q.loop := by
  refine h.project Logins.loop (fun q (hinit : logins.init q) => hinit.1)
    fun q label q' hok hn => ?_
  rcases loop_step hn with heq | ⟨l, hl, hnext⟩
  · exact .inl heq
  · exact .inr ⟨l, hok.steady l hl, hnext⟩

namespace LoginsOk

variable {q q' : Logins}

/-- What the connector has been given is what it keeps. -/
theorem same (h : LoginsOk q) {p : Nat} {process : Process}
    (hckc : process.ckc = (q.process p).ckc)
    (hcookie : process.session_cookie = (q.process p).session_cookie) :
    LoginsOk (q.setProcess p process) := by
  refine h.keep (by rw [Process.connection, hckc]; rfl) fun k hk hc => ?_
  obtain ⟨S, cookie, hS, hk', hopen, henv⟩ := (h.created p k (hckc ▸ hk) hc).session
  exact ⟨S, cookie, hS, hk', hopen, hcookie.trans henv⟩

theorem open_step (h : LoginsOk q) (hsessions : SessionsValid q.loop.state q.loop.stack)
    {p : Nat} {argv : List CString} {handle : PamHandle} {connection : Option CString}
    (hn : q.pam_sm_open_session p argv handle connection = some q') : LoginsOk q' := by
  unfold Logins.pam_sm_open_session at hn
  dsimp only at hn
  split at hn
  · cases hn
    exact h.same rfl rfl
  · rename_i hckc
    have hnone : (q.process p).connection = none := by
      simp [Process.connection, hckc]
    -- a connector without a connection
    have hfailed {process : Process} (hp : process.ckc = some ⟨none, none, false⟩) :
        LoginsOk (q.setProcess p process) := by
      refine h.keep (by rw [hnone, Process.connection, hp]; rfl) fun k hk hc => ?_
      obtain rfl := Option.some.inj (hp.symm.trans hk)
      cases hc
    split at hn
    · cases hn
      exact hfailed rfl
    · cases hn
      exact hfailed rfl
    · obtain ⟨hnew, hn⟩ := Option.ite_none_right_eq_some.mp hn
      cases hn
      exact h.connect hsessions hnone hnew rfl

theorem reply_step (h : LoginsOk q) {p : Nat} {cookie : CString} {received : Received}
    (hn : q.reply p cookie received = some q') : LoginsOk q' := by
  unfold Logins.reply at hn
  dsimp only at hn
  split at hn
  · rename_i S _ _ hckc
    obtain ⟨⟨-, hreply⟩, hn⟩ := Option.ite_none_right_eq_some.mp hn
    split at hn
    · cases hn
      exact h.same rfl rfl
    · cases hn
      exact h.unref rfl
    · cases hn
      have hholds : q.Holds p S := by
        simp [Logins.Holds, Process.connection, hckc]
      have hopen := (h.manager.replied _ hreply).2 ⟨p, hholds⟩
      refine h.keep hholds.symm fun k hk _ => ?_
      obtain rfl := Option.some.inj hk
      exact ⟨S, cookie, rfl, rfl, hopen, rfl⟩
  · cases hn

theorem exit_step (h : LoginsOk q) (p : Nat) :
    LoginsOk ((q.ck_connector_unref p (q.process p)).setProcess p ⟨false, none, .idle, none⟩) := by
  have hunref : LoginsOk (q.ck_connector_unref p (q.process p)) := h.unref rfl
  refine hunref.keep ?_ fun k hk => nomatch hk
  simp [Logins.ck_connector_unref, Logins.setProcess, Process.connection]

theorem manager_step (h : LoginsOk q) (hsteady : main_loop.ReachableBy Steady q.loop)
    {label : LoginLabel} (hok : Undisturbed q label) {l : Label} (hl : label.daemon = some l)
    (hn : q.next label = some q') : LoginsOk q' := by
  have hsessions := sessionsValid (hsteady.mono fun _ _ hs => hs.1)
  have hseats := seatsValid hsteady
  cases label with
  | open_session S caller cookie started =>
    obtain ⟨hS, hn⟩ := Option.ite_none_right_eq_some.mp hn
    replace hS := List.contains_iff_mem.mp hS
    obtain ⟨loop, hnext, rfl⟩ := Option.map_eq_some_iff.mp hn
    have hspares : Spares (fun S => ∃ p, q.Holds p S) q.loop
        (.dispatch (.open_session S caller cookie started)) := by
      rintro l - event heq hrequest
      cases heq
      exact hrequest
    have hstep := h.daemon hsessions hseats hnext hspares (q.requests.erase_sublist (a := S))
      (fun sender _ _ _ heq => ?_) (fun S' (hS' : S' ∈ q.lost) => hS') fun _ hS => .inl hS
    · simpa [Logins.returned] using hstep
    · cases heq
      exact ⟨h.nodup.not_mem_erase, fun _ => h.manager.request S hS⟩
  | name_owner_changed S =>
    obtain ⟨hlost, hn⟩ := Option.ite_none_right_eq_some.mp hn
    replace hlost := List.contains_iff_mem.mp (Bool.and_eq_true_iff.mp hlost).1
    obtain ⟨loop, hnext, rfl⟩ := Option.map_eq_some_iff.mp hn
    have hspares : Spares (fun S => ∃ p, q.Holds p S) q.loop
        (.dispatch (.name_owner_notify S S [])) := by
      rintro l ⟨p, hp⟩ event heq hrequest
      cases heq
      exact h.not_lost p S (hrequest.2.2 ▸ hp) hlost
    have hgone : S ∈ loop.state.gone := by
      cases main_loop_step hnext with
      | dispatch _ hr =>
        cases hr
        show S ∈ (if S = S then q.loop.state.gone ++ [S] else q.loop.state.gone)
        rw [if_pos rfl]
        exact List.mem_append_right _ List.mem_cons_self
    have hstep := h.daemon hsessions hseats hnext hspares (.refl q.requests)
      (fun _ _ _ _ heq => nomatch heq)
      (fun S' (hS' : S' ∈ q.lost.erase S) => List.mem_of_mem_erase hS') fun S' hS' => ?_
    · simpa [Logins.returned] using hstep
    · by_cases heq : S' = S
      · exact .inr (heq ▸ hgone)
      · exact .inl ((List.mem_erase_of_ne heq).mpr hS')
  | loop label =>
    obtain ⟨helse, hn⟩ := Option.ite_none_right_eq_some.mp hn
    obtain ⟨loop, hnext, rfl⟩ := Option.map_eq_some_iff.mp hn
    refine h.daemon hsessions hseats hnext ?_ (.refl q.requests) ?_ (fun _ hS => hS)
      fun _ hS => .inl hS
    · rintro l ⟨p, hp⟩ event rfl hrequest
      have hused := h.used p _ hp
      cases event with
      | close_session caller cookie => exact hok.close caller cookie l rfl hrequest hused
      | name_owner_notify name old new =>
        refine not_mem_of_contains helse ?_
        exact hrequest.2.2 ▸ hused
      | _ => exact hrequest
    · rintro sender caller cookie started rfl
      have hunused : sender ∉ q.used := not_mem_of_contains helse
      exact ⟨fun hS => hunused (h.requests sender hS), fun hS => absurd hS hunused⟩
  | _ => cases hl

/-- **Step lemma**. -/
theorem step (h : LoginsOk q) (hsteady : main_loop.ReachableBy Steady q.loop)
    {label : LoginLabel} (hok : Undisturbed q label) (hn : q.next label = some q') :
    LoginsOk q' := by
  cases label with
  | pam_sm_open_session p argv handle connection =>
    obtain ⟨-, hn⟩ := Option.ite_none_right_eq_some.mp hn
    exact h.open_step (sessionsValid (hsteady.mono fun _ _ hs => hs.1)) hn
  | reply p cookie received => exact h.reply_step hn
  | no_reply p =>
    obtain ⟨-, hn⟩ := Option.ite_none_right_eq_some.mp hn
    cases hn
    exact h.same rfl rfl
  | runtime_dir p putenv =>
    obtain ⟨-, hn⟩ := Option.ite_none_right_eq_some.mp hn
    split at hn
    · cases hn
      exact h.same rfl rfl
    · cases hn
      exact h.unref rfl
  | pam_sm_close_session p =>
    obtain ⟨-, hn⟩ := Option.ite_none_right_eq_some.mp hn
    cases hn
    exact h.unref rfl
  | exit p =>
    cases hn
    exact h.exit_step p
  | open_session | name_owner_changed | loop => exact h.manager_step hsteady hok rfl hn

end LoginsOk

theorem loginsOk {q : Logins} (h : logins.ReachableBy Undisturbed q) : LoginsOk q := by
  induction h with
  | @init q hinit =>
    obtain ⟨c, ⟨vfd, active_num, files, rfl⟩, rfl⟩ : ∃ c, main_loop.init c ∧
        q = ⟨c, fun _ => ⟨false, none, .idle, none⟩, [], [], [], []⟩ := ⟨q.loop, hinit⟩
    have hopening (x : SessionRef) (b : Bool) :
        .session_opened x b ∉ [Call.load_seats_from_dir files] := by simp
    exact ⟨nofun, nofun, nofun, nofun, nofun, List.nodup_nil, nofun,
      ⟨nofun, nofun, nofun, fun x b hmem => absurd hmem (hopening x b), nofun⟩, nofun⟩
  | step h hok hn ih => exact ih.step (manager_reachable h) hok hn

/-- How the sessions of logins and their connections correspond. -/
structure SessionsOfLogins (q : Logins) : Prop where
  /-- A process that has got a cookie has a session under it, -/
  cookie : ∀ p k, (q.process p).ckc = some k → k.session_created = true →
    HasSession q.loop.state (q.process p) k
  /-- a session of a login has a process that keeps its connection, once the
      manager has heard of the lost ones, -/
  connection : q.loop.Quiescent → q.lost = [] → ∀ id x,
    q.loop.state.sessions.lookup id = some x →
    (q.loop.state.leader (q.loop.state.session x).leader).service_name ∈ q.used →
    ∃! p, q.Holds p (q.loop.state.leader (q.loop.state.session x).leader).service_name
  /-- and a connection has one session at most. -/
  one : ∀ id id' x x', q.loop.state.sessions.lookup id = some x →
    q.loop.state.sessions.lookup id' = some x' →
    (q.loop.state.leader (q.loop.state.session x).leader).service_name ∈ q.used →
    (q.loop.state.leader (q.loop.state.session x).leader).service_name =
      (q.loop.state.leader (q.loop.state.session x').leader).service_name → x = x'

def undisturbed_login (q : Logins) (label : LoginLabel) : Bool :=
  label.daemon.all fun l => orderly q.loop l &&
    match l with
    | .dispatch (.close_session ..) => false
    | _ => true

theorem undisturbed_login_sound {q : Logins} (h : logins.ReachableBy Undisturbed q)
    {label : LoginLabel} (htest : undisturbed_login q label = true) : Undisturbed q label := by
  constructor
  · intro l hl
    simp only [undisturbed_login, hl, Option.all_some, Bool.and_eq_true] at htest
    exact steady_sound ((manager_reachable h).mono fun _ _ hs => hs.1) htest.1
  · rintro caller cookie l rfl
    simp [undisturbed_login, LoginLabel.daemon] at htest

def ssh_login_labels : List LoginLabel :=
  seat_loaded.map .loop ++
    [.pam_sm_open_session 0 [] ssh_login (some (cstr ":1.5")),
      .open_session (cstr ":1.5") (some (0, 7)) (cstr "c1") true,
      .loop (.dispatch (.job_completed 0 (some ssh_opening)))] ++
    [.callout_done, .call, .call, .callout_done, .call, .call].map .loop ++
    [.reply 0 (cstr "c1") .success, .runtime_dir 0 true]

end PamCkConnector
