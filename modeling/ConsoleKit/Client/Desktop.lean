import ConsoleKit.Client.Logins
import ConsoleKit.Manager.Lookup

/-! # The programs of a login

    A login process starts programs with the environment that the PAM module
    has left, and these start others.  The manager finds the session of any
    of them through the cookie in its environment.

    This module provides:
    - `desktop`: logins and the programs that descend from them,
    - `Started`, `DesktopOk`: what is true of the programs of a login,
    - `sessions_of_programs`: which session the manager finds for them.
-/

namespace PamCkConnector

open Libc CkManager Leader

/-! ## Section 1: The system -/

structure Desktop where
  logins : Logins
  environ : Int → Option CString
  /-- The connection of the login that a process comes from, for the record. -/
  login : Int → Option CString

inductive DesktopLabel where
  | login (label : LoginLabel)
  /-- A process that has logged in starts a program in the environment of PAM. -/
  | start (p : Nat) (pid : Int) (contents : CString)
  | fork (pid child : Int)
  /-- A program of a login keeps the cookie in its environment. -/
  | exec (pid : Int) (contents : CString)
  | exit (pid : Int)

/-- The entry with the cookie; the kernel keeps no environment that a `guint`
    does not count. -/
def cookie_entry (contents : CString) : Option CString :=
  if contents.length < 2 ^ 32 then
    (entries contents).find? (assigns (cstr "XDG_SESSION_COOKIE"))
  else none

namespace Desktop

def next (d : Desktop) : DesktopLabel → Option Desktop
  | .login label => (d.logins.next label).map fun logins => { d with logins := logins }
  | .start p pid contents =>
    match d.logins.process p with
    | ⟨_, some ⟨some S, some _, true⟩, .idle, some entry⟩ =>
      if d.environ pid = none ∧ cookie_entry contents = some entry then
        some { d with
          environ := Function.update d.environ pid (some contents)
          login := Function.update d.login pid (some S) }
      else none
    | _ => none
  | .fork pid child =>
    if d.environ child = none then
      some { d with
        environ := Function.update d.environ child (d.environ pid)
        login := Function.update d.login child (d.login pid) }
    else none
  | .exec pid contents =>
    if d.login pid = none ∨ (d.environ pid).bind cookie_entry = cookie_entry contents then
      some { d with environ := Function.update d.environ pid (some contents) }
    else none
  | .exit pid =>
    some { d with
      environ := Function.update d.environ pid none
      login := Function.update d.login pid none }

end Desktop

/-- Before the first login there are processes that come from none. -/
def desktop : LTS.System Desktop DesktopLabel where
  init d := logins.init d.logins ∧ ∀ pid, d.login pid = none
  next := Desktop.next

/-- A cookie that is new, and that fits into the environment of PAM. -/
def NewCookie (m : State) (cookie : CString) : Prop :=
  cookie.length ≤ 235 ∧ ∀ l < m.next_leader, (m.leader l).cookie ≠ cookie

/-- The logins are undisturbed, and their cookies are new. -/
structure Regular (d : Desktop) (label : DesktopLabel) : Prop where
  undisturbed : ∀ l, label = .login l → Undisturbed d.logins l
  cookie : ∀ l sender caller cookie started, label = .login l →
    l.daemon = some (.dispatch (.open_session sender caller cookie started)) →
    NewCookie d.logins.loop.state cookie

/-! ## Section 2: Cookies -/

/-- The cookies of all leaders that there have been are different, and fit. -/
structure CookiesOk (m : State) : Prop where
  fits : ∀ l < m.next_leader, (m.leader l).cookie.length ≤ 235
  unique : ∀ l l', l < m.next_leader → l' < m.next_leader →
    (m.leader l).cookie = (m.leader l').cookie → l = l'

theorem new_leader_cookie {c c' : MainLoop} {sender cookie : CString}
    {caller : Option (Nat × Nat)} {started : Bool}
    (hnext : main_loop.next c (.dispatch (.open_session sender caller cookie started)) = some c')
    (hnew : c'.state.next_leader = c.state.next_leader + 1) :
    (c'.state.leader c.state.next_leader).cookie = cookie := by
  cases main_loop_step hnext with
  | dispatch _ hr =>
    obtain ⟨-, m', hm', rfl⟩ := State.dispatch_open_session hr
    cases caller with
    | none =>
      cases hm'
      exact absurd hnew (Nat.ne_of_lt (Nat.lt_succ_self _))
    | some caller =>
      obtain ⟨⟨ssid, m₁⟩, hid, rfl⟩ := Option.map_eq_some_iff.mp hm'
      obtain ⟨-, serial, rfl⟩ := State.generate_session_id_free hid
      show (Function.update c.state.leader c.state.next_leader _ c.state.next_leader).cookie =
        cookie
      rw [Function.update_self]

theorem CookiesOk.step {c c' : MainLoop} {label : CkManager.Label} (h : CookiesOk c.state)
    (hnext : main_loop.next c label = some c')
    (hcookie : ∀ sender caller cookie started,
      label = .dispatch (.open_session sender caller cookie started) →
      NewCookie c.state cookie) : CookiesOk c'.state := by
  have hold {l : LeaderRef} (hl : l < c.state.next_leader) :
      (c'.state.leader l).cookie = (c.state.leader l).cookie := (leader_same hnext hl).2.1
  rcases (Grows.step hnext).leaders with heq | ⟨sender, caller, cookie, started, rfl, heq, -⟩
  · refine ⟨fun l hl => ?_, fun l l' hl hl' hsame => ?_⟩
    · rw [heq] at hl
      rw [hold hl]
      exact h.fits l hl
    · rw [heq] at hl hl'
      rw [hold hl, hold hl'] at hsame
      exact h.unique l l' hl hl' hsame
  · obtain ⟨hfits, hfresh⟩ := hcookie _ _ _ _ rfl
    have hnew := new_leader_cookie hnext heq
    refine ⟨fun l hl => ?_, fun l l' hl hl' hsame => ?_⟩
    · rw [heq] at hl
      rcases Nat.lt_succ_iff_lt_or_eq.mp hl with hl | rfl
      · rw [hold hl]
        exact h.fits l hl
      · rw [hnew]
        exact hfits
    · rw [heq] at hl hl'
      rcases Nat.lt_succ_iff_lt_or_eq.mp hl with hl | rfl <;>
        rcases Nat.lt_succ_iff_lt_or_eq.mp hl' with hl' | rfl
      · rw [hold hl, hold hl'] at hsame
        exact h.unique l l' hl hl' hsame
      · rw [hold hl, hnew] at hsame
        exact absurd hsame (hfresh l hl)
      · rw [hold hl', hnew] at hsame
        exact absurd hsame.symm (hfresh l' hl')
      · rfl

/-! ## Section 3: The processes that log in -/

/-- Processes that keep a connection keep what they have got through it. -/
structure Keeps (q q' : Logins) : Prop where
  used : ∀ S ∈ q.used, S ∈ q'.used
  held : ∀ p S, S ∈ q.used → q'.Holds p S → q.Holds p S ∧
    ∀ k, (q.process p).ckc = some k → k.session_created = true → (q'.process p).ckc = some k
  leader : ∀ l < q.loop.state.next_leader, l < q'.loop.state.next_leader ∧
    (q'.loop.state.leader l).service_name = (q.loop.state.leader l).service_name ∧
    (q'.loop.state.leader l).cookie = (q.loop.state.leader l).cookie

/-- No reply is waited for after the session has been opened. -/
def WaitsOnce (q : Logins) : Prop :=
  ∀ p k, (q.process p).phase = .open_session → (q.process p).ckc = some k →
    k.session_created = false

section
variable {q q' : Logins}

namespace Keeps

/-- A process changes, and the manager does nothing. -/
theorem process {p : Nat} {process : Process} {used requests lost : List CString}
    (hused : ∀ S ∈ q.used, S ∈ used)
    (hckc : ∀ S, S ∈ q.used → process.connection = some S → (q.process p).connection = some S ∧
      ∀ k, (q.process p).ckc = some k → k.session_created = true → process.ckc = some k) :
    Keeps q { q.setProcess p process with used := used, requests := requests, lost := lost } where
  used := hused
  held p' S hS hholds := by
    by_cases hp : p' = p
    · subst hp
      simp only [Logins.Holds, Logins.setProcess, Function.update_self] at hholds ⊢
      exact hckc S hS hholds
    · simp only [Logins.Holds, Logins.setProcess, Function.update_of_ne hp] at hholds ⊢
      exact ⟨hholds, fun k hk _ => hk⟩
  leader l hl := ⟨hl, rfl, rfl⟩

/-- The process keeps its connector. -/
theorem same {p : Nat} {process : Process} (h : process.ckc = (q.process p).ckc) :
    Keeps q (q.setProcess p process) :=
  Keeps.process (fun _ hS => hS) fun S _ hconnection =>
    ⟨by rwa [Process.connection, h] at hconnection, fun k hk _ => h.trans hk⟩

/-- The process gives its connector up. -/
theorem unref {p : Nat} {process : Process} (h : process.ckc = none) (lost : List CString) :
    Keeps q { q.setProcess p process with lost := lost } :=
  Keeps.process (fun _ hS => hS) fun S _ hconnection => by
    simp [Process.connection, h] at hconnection

theorem loop {c : MainLoop} {label : CkManager.Label} {requests lost : List CString}
    {replies : List (CString × CString)} (hnext : main_loop.next q.loop label = some c) :
    Keeps q { q with loop := c, requests := requests, lost := lost, replies := replies } where
  used _ hS := hS
  held _ _ _ hholds := ⟨hholds, fun _ hk _ => hk⟩
  leader l hl := by
    obtain ⟨hname, hcookie, -⟩ := leader_same hnext hl
    exact ⟨Nat.lt_of_lt_of_le hl (Grows.step hnext).leader_le, hname, hcookie⟩

end Keeps

theorem WaitsOnce.process (h : WaitsOnce q) {p : Nat} {process : Process}
    {used requests lost : List CString}
    (hprocess : process.phase = .open_session → ∀ k, process.ckc = some k →
      k.session_created = false) :
    WaitsOnce { q.setProcess p process with used := used, requests := requests, lost := lost } := by
  intro p' k hphase hk
  by_cases hp : p' = p
  · subst hp
    simp only [Logins.setProcess, Function.update_self] at hphase hk
    exact hprocess hphase k hk
  · simp only [Logins.setProcess, Function.update_of_ne hp] at hphase hk
    exact h p' k hphase hk

theorem WaitsOnce.no_wait (h : WaitsOnce q) {p : Nat} {process : Process}
    {used requests lost : List CString} (hprocess : process.phase ≠ .open_session) :
    WaitsOnce { q.setProcess p process with used := used, requests := requests, lost := lost } :=
  h.process fun hphase => absurd hphase hprocess

theorem keeps_open (h : WaitsOnce q) {p : Nat} {argv : List CString} {handle : PamHandle}
    {connection : Option CString} (hidle : (q.process p).phase = .idle)
    (hn : q.pam_sm_open_session p argv handle connection = some q') :
    Keeps q q' ∧ WaitsOnce q' := by
  unfold Logins.pam_sm_open_session at hn
  dsimp only at hn
  split at hn
  · cases hn
    exact ⟨.same rfl, h.no_wait (by simp [hidle])⟩
  · rename_i hckc
    -- a connector without a connection
    have hfailed {process : Process} (hp : process.ckc = some ⟨none, none, false⟩) :
        Keeps q (q.setProcess p process) ∧ WaitsOnce (q.setProcess p process) := by
      refine ⟨.process (fun _ hS => hS) fun S _ hconnection => ?_, h.process fun _ k hk => ?_⟩
      · rw [Process.connection, hp] at hconnection
        cases hconnection
      · obtain rfl := Option.some.inj (hp.symm.trans hk)
        rfl
    split at hn
    · cases hn
      exact hfailed rfl
    · cases hn
      exact hfailed rfl
    · rename_i S _
      obtain ⟨hnew, hn⟩ := Option.ite_none_right_eq_some.mp hn
      cases hn
      have hunused : S ∉ q.used := not_mem_of_contains (Bool.and_eq_true_iff.mp hnew).1
      refine ⟨.process (fun _ hS => List.mem_append_left _ hS) fun S' hS' hconnection => ?_,
        h.process fun _ k hk => ?_⟩
      · obtain rfl := Option.some.inj hconnection
        exact absurd hS' hunused
      · obtain rfl := Option.some.inj hk
        rfl

theorem keeps_reply (h : WaitsOnce q) {p : Nat} {cookie : CString} {received : Received}
    (hn : q.reply p cookie received = some q') : Keeps q q' ∧ WaitsOnce q' := by
  unfold Logins.reply at hn
  dsimp only at hn
  split at hn
  · rename_i S _ _ hckc
    obtain ⟨⟨hphase, -⟩, hn⟩ := Option.ite_none_right_eq_some.mp hn
    have hnew := h p _ hphase hckc
    split at hn
    · cases hn
      exact ⟨.same rfl, h.no_wait (by simp)⟩
    · cases hn
      exact ⟨.unref rfl _, h.no_wait (by simp)⟩
    · cases hn
      refine ⟨.process (fun _ hS => hS) fun S' _ hconnection => ⟨?_, fun k hk hc => ?_⟩,
        h.no_wait (by simp)⟩
      · rw [Process.connection, hckc]
        exact hconnection
      · obtain rfl := Option.some.inj (hckc.symm.trans hk)
        rw [hnew] at hc
        cases hc
  · cases hn

/-- **Step lemma** for the logins. -/
theorem keeps_step (h : WaitsOnce q) {label : LoginLabel} (hn : q.next label = some q') :
    Keeps q q' ∧ WaitsOnce q' := by
  cases label with
  | pam_sm_open_session p argv handle connection =>
    obtain ⟨hidle, hn⟩ := Option.ite_none_right_eq_some.mp hn
    exact keeps_open h hidle hn
  | reply p cookie received => exact keeps_reply h hn
  | no_reply p =>
    obtain ⟨-, hn⟩ := Option.ite_none_right_eq_some.mp hn
    cases hn
    exact ⟨.same rfl, h.no_wait (by simp)⟩
  | runtime_dir p putenv =>
    obtain ⟨-, hn⟩ := Option.ite_none_right_eq_some.mp hn
    split at hn
    · cases hn
      exact ⟨.same rfl, h.no_wait (by simp)⟩
    · cases hn
      exact ⟨.unref rfl _, h.no_wait (by simp)⟩
  | pam_sm_close_session p =>
    obtain ⟨-, hn⟩ := Option.ite_none_right_eq_some.mp hn
    cases hn
    exact ⟨.unref rfl _, h.no_wait (by simp)⟩
  | exit p =>
    cases hn
    have htwice : (q.ck_connector_unref p (q.process p)).setProcess p ⟨false, none, .idle, none⟩ =
        { q.setProcess p ⟨false, none, .idle, none⟩ with
          lost := q.lost ++ (q.process p).connection.toList } := by
      simp [Logins.ck_connector_unref, Logins.setProcess]
    rw [htwice]
    exact ⟨.unref rfl _, h.no_wait (by simp)⟩
  | open_session S caller cookie started =>
    obtain ⟨-, hn⟩ := Option.ite_none_right_eq_some.mp hn
    obtain ⟨loop, hnext, rfl⟩ := Option.map_eq_some_iff.mp hn
    exact ⟨.loop hnext, h⟩
  | name_owner_changed S =>
    obtain ⟨-, hn⟩ := Option.ite_none_right_eq_some.mp hn
    obtain ⟨loop, hnext, rfl⟩ := Option.map_eq_some_iff.mp hn
    exact ⟨.loop hnext, h⟩
  | loop label =>
    obtain ⟨-, hn⟩ := Option.ite_none_right_eq_some.mp hn
    obtain ⟨loop, hnext, rfl⟩ := Option.map_eq_some_iff.mp hn
    exact ⟨.loop hnext, h⟩

end

/-! ## Section 4: The programs -/

/-- A program that comes from a login, with its cookie. -/
structure Started (d : Desktop) (pid : Int) (S cookie : CString) : Prop where
  carries : Carries d.environ pid (cstr "XDG_SESSION_COOKIE" ++ '=' :: cookie)
  used : S ∈ d.logins.used
  leader : ∃ l < d.logins.loop.state.next_leader,
    (d.logins.loop.state.leader l).service_name = S ∧
    (d.logins.loop.state.leader l).cookie = cookie
  held : ∀ p, d.logins.Holds p S → ∃ k, (d.logins.process p).ckc = some k ∧
    k.session_created = true ∧ k.cookie = some cookie

structure DesktopOk (d : Desktop) : Prop where
  cookies : CookiesOk d.logins.loop.state
  waits : WaitsOnce d.logins
  started : ∀ pid S, d.login pid = some S → ∃ cookie, Started d pid S cookie

section
variable {d d' : Desktop}

theorem carries_of_entry {environ : Int → Option CString} {pid : Int} {entry contents : CString}
    (hread : environ pid = some contents) (h : cookie_entry contents = some entry) :
    Carries environ pid entry := by
  obtain ⟨hlength, hfind⟩ := Option.ite_none_right_eq_some.mp h
  exact ⟨contents, hread, hlength, hfind⟩

theorem Started.environ {pid pid' : Int} {S cookie : CString} (h : Started d pid S cookie)
    {environ : Int → Option CString} {login : Int → Option CString}
    (hread : (environ pid').bind cookie_entry = (d.environ pid).bind cookie_entry) :
    Started { d with environ := environ, login := login } pid' S cookie where
  carries := by
    obtain ⟨contents, hcontents, hlength, hfind⟩ := h.carries
    rw [hcontents, Option.bind_some, cookie_entry, if_pos hlength, hfind] at hread
    obtain ⟨contents', hcontents', hentry⟩ := Option.bind_eq_some_iff.mp hread
    exact carries_of_entry hcontents' hentry
  used := h.used
  leader := h.leader
  held := h.held

theorem Started.login {pid : Int} {S cookie : CString} (h : Started d pid S cookie) {q : Logins}
    (hkeeps : Keeps d.logins q) : Started { d with logins := q } pid S cookie where
  carries := h.carries
  used := hkeeps.used S h.used
  leader := by
    obtain ⟨l, hl, hname, hcookie⟩ := h.leader
    obtain ⟨hl', hname', hcookie'⟩ := hkeeps.leader l hl
    exact ⟨l, hl', hname'.trans hname, hcookie'.trans hcookie⟩
  held p hp := by
    obtain ⟨hheld, hkept⟩ := hkeeps.held p S h.used hp
    obtain ⟨k, hk, hcreated, hcookie⟩ := h.held p hheld
    exact ⟨k, hkept k hk hcreated, hcreated, hcookie⟩

/-- A login process starts a program. -/
theorem Started.start (hlogins : LoginsOk d.logins)
    (hsessions : SessionsValid d.logins.loop.state d.logins.loop.stack)
    (hcookies : CookiesOk d.logins.loop.state) {p : Nat} {b : Bool} {S cookie entry : CString}
    {phase : Phase}
    (hp : d.logins.process p = ⟨b, some ⟨some S, some cookie, true⟩, phase, some entry⟩)
    {pid : Int} {contents : CString} (hentry : cookie_entry contents = some entry)
    {login : Int → Option CString} :
    Started { d with environ := Function.update d.environ pid (some contents), login := login }
      pid S cookie := by
  have hckc : (d.logins.process p).ckc = some ⟨some S, some cookie, true⟩ := by rw [hp]
  have hholds : d.logins.Holds p S := by
    rw [Logins.Holds, Process.connection, hckc]
    rfl
  obtain ⟨S', cookie', hS, hcookie, ⟨l, x, hl, hname, hlookup, -, -⟩, henv⟩ :=
    (hlogins.created p _ hckc rfl).session
  obtain rfl := Option.some.inj hS
  obtain rfl := Option.some.inj hcookie
  have hkept := (hsessions.registered hlookup).2
  have hfits : cookie.length ≤ 235 := hkept ▸ hcookies.fits l hl
  have hlength : (cstr "XDG_SESSION_COOKIE=" ++ cookie).length ≤ 254 := by
    have hname : (cstr "XDG_SESSION_COOKIE=").length = 19 := by decide
    rw [List.length_append]
    omega
  rw [hp, List.take_of_length_le hlength] at henv
  refine ⟨carries_of_entry (Function.update_self ..) ?_, hlogins.used p S hholds,
    ⟨l, hl, hname, hkept⟩, fun p' hp' => ?_⟩
  · rw [hentry, Option.some.inj henv]
    simp [cstr]
  · obtain rfl := hlogins.owner p p' S hholds hp'
    exact ⟨_, hckc, rfl, rfl⟩

theorem DesktopOk.login_step (h : DesktopOk d) {label : LoginLabel} {q : Logins}
    (hn : d.logins.next label = some q)
    (hcookie : ∀ sender caller cookie started,
      label.daemon = some (.dispatch (.open_session sender caller cookie started)) →
      NewCookie d.logins.loop.state cookie) : DesktopOk { d with logins := q } := by
  obtain ⟨hkeeps, hwaits⟩ := keeps_step h.waits hn
  refine ⟨?_, hwaits, fun pid S hS => ?_⟩
  · show CookiesOk q.loop.state
    rcases loop_step hn with heq | ⟨l, hl, hnext⟩
    · rw [heq]
      exact h.cookies
    · exact h.cookies.step hnext fun _ _ _ _ heq => hcookie _ _ _ _ (heq ▸ hl)
  · obtain ⟨cookie, hstarted⟩ := h.started pid S hS
    exact ⟨cookie, hstarted.login hkeeps⟩

/-- A process gets another environment. -/
theorem DesktopOk.update (h : DesktopOk d) {pid : Int} {contents login : Option CString}
    (hstarted : ∀ S, login = some S → ∃ cookie, Started { d with
      environ := Function.update d.environ pid contents
      login := Function.update d.login pid login } pid S cookie) :
    DesktopOk { d with
      environ := Function.update d.environ pid contents
      login := Function.update d.login pid login } := by
  refine ⟨h.cookies, h.waits, fun pid' S hS => ?_⟩
  by_cases hpid : pid' = pid
  · subst hpid
    simp only [Function.update_self] at hS
    exact hstarted S hS
  · simp only [Function.update_of_ne hpid] at hS
    obtain ⟨cookie, hstarted⟩ := h.started pid' S hS
    exact ⟨cookie, hstarted.environ (by rw [Function.update_of_ne hpid])⟩

/-- **Step lemma**. -/
theorem DesktopOk.step (h : DesktopOk d) (hlogins : LoginsOk d.logins)
    (hsessions : SessionsValid d.logins.loop.state d.logins.loop.stack) {label : DesktopLabel}
    (hok : Regular d label) (hn : d.next label = some d') : DesktopOk d' := by
  cases label with
  | login label =>
    obtain ⟨q, hq, rfl⟩ := Option.map_eq_some_iff.mp hn
    exact h.login_step hq fun _ _ _ _ heq => hok.cookie label _ _ _ _ rfl heq
  | start p pid contents =>
    simp only [Desktop.next] at hn
    split at hn
    · rename_i hp
      obtain ⟨⟨-, hentry⟩, hn⟩ := Option.ite_none_right_eq_some.mp hn
      cases hn
      refine h.update fun S hS => ?_
      obtain rfl := Option.some.inj hS
      exact ⟨_, .start hlogins hsessions h.cookies hp hentry⟩
    · cases hn
  | fork pid child =>
    obtain ⟨-, hn⟩ := Option.ite_none_right_eq_some.mp hn
    cases hn
    refine h.update fun S hS => ?_
    obtain ⟨cookie, hstarted⟩ := h.started pid S hS
    exact ⟨cookie, hstarted.environ (by rw [Function.update_self])⟩
  | exec pid contents =>
    obtain ⟨hsame, hn⟩ := Option.ite_none_right_eq_some.mp hn
    cases hn
    rw [← Function.update_eq_self pid d.login]
    refine h.update fun S hS => ?_
    obtain ⟨cookie, hstarted⟩ := h.started pid S hS
    refine ⟨cookie, hstarted.environ ?_⟩
    rw [Function.update_self, hsame.resolve_left (by simp [hS])]
    rfl
  | exit pid =>
    cases hn
    exact h.update fun S hS => by cases hS

theorem logins_reachable (h : desktop.ReachableBy Regular d) :
    logins.ReachableBy Undisturbed d.logins := by
  refine h.project Desktop.logins (fun d (hinit : desktop.init d) => hinit.1)
    fun d label d' hok hn => ?_
  cases label with
  | login label =>
    obtain ⟨q, hq, rfl⟩ := Option.map_eq_some_iff.mp hn
    exact .inr ⟨label, hok.undisturbed label rfl, hq⟩
  | start p pid contents =>
    simp only [desktop, Desktop.next] at hn
    split at hn
    · obtain ⟨-, hn⟩ := Option.ite_none_right_eq_some.mp hn
      cases hn
      exact .inl rfl
    · cases hn
  | fork pid child | exec pid contents =>
    obtain ⟨-, hn⟩ := Option.ite_none_right_eq_some.mp hn
    cases hn
    exact .inl rfl
  | exit pid =>
    cases hn
    exact .inl rfl

theorem desktopOk (h : desktop.ReachableBy Regular d) : DesktopOk d := by
  induction h with
  | @init d hinit =>
    obtain ⟨⟨⟨vfd, active_num, files, hloop⟩, hlogins⟩, hlogin⟩ := hinit
    have hnext : d.logins.loop.state.next_leader = 0 := by rw [hloop]; rfl
    refine ⟨⟨fun l hl => ?_, fun l l' hl => ?_⟩, fun p k hphase => ?_, fun pid S hS => ?_⟩
    · rw [hnext] at hl
      cases hl
    · rw [hnext] at hl
      cases hl
    · rw [hlogins] at hphase
      cases hphase
    · rw [hlogin] at hS
      cases hS
  | step h hok hn ih =>
    have hlogins := logins_reachable h
    have hsteady := manager_reachable hlogins
    exact ih.step (loginsOk hlogins) (sessionsValid (hsteady.mono fun _ _ hs => hs.1)) hok hn

end

/-! ## Section 5: Sessions and programs -/

/-- Which session the manager finds for the programs of logins. -/
structure SessionsOfPrograms (d : Desktop) : Prop where
  /-- While the login keeps its connection, it is the session of the login,
      whether the manager finds it through the process group or the cookie; -/
  own : ∀ (pid : UInt32) S p (peers : Peers), d.login pid.toInt32.toInt = some S →
    d.logins.Holds p S → 1 < pid.toInt32.toInt → peers.environ = d.environ →
    (∀ x, (peers.ck_process_group_get_ssid pid.toInt32).bind
        d.logins.loop.state.sessions.lookup = some x →
      (d.logins.loop.state.leader (d.logins.loop.state.session x).leader).service_name = S) →
    ∃ x ∈ d.logins.loop.state.sessions.values,
      (d.logins.loop.state.leader (d.logins.loop.state.session x).leader).service_name = S ∧
      Told d.logins.loop.state peers pid (.ok (d.logins.loop.state.ck_session_get_path x))
  /-- when the manager has heard of its end, it is none; -/
  ended : ∀ (pid : UInt32) S (peers : Peers), d.login pid.toInt32.toInt = some S →
    (∀ p, ¬ d.logins.Holds p S) → d.logins.lost = [] → 1 < pid.toInt32.toInt →
    peers.environ = d.environ →
    (peers.ck_process_group_get_ssid pid.toInt32).bind
      d.logins.loop.state.sessions.lookup = none →
    Told d.logins.loop.state peers pid (.error (.GENERAL, "Unable to find session for cookie"))
  /-- and a path is that of one session. -/
  path : ∀ x ∈ d.logins.loop.state.sessions.values, ∀ x' ∈ d.logins.loop.state.sessions.values,
    d.logins.loop.state.ck_session_get_path x = d.logins.loop.state.ck_session_get_path x' →
    x = x'

section
variable {d : Desktop}

theorem cookie_of_started (hok : DesktopOk d) {pid : Int} {S cookie : CString}
    (hsessions : SessionsValid d.logins.loop.state d.logins.loop.stack)
    (hstarted : Started d pid S cookie) {l : LeaderRef}
    (hl : d.logins.loop.state.leaders.lookup cookie = some l) :
    (d.logins.loop.state.leader l).service_name = S := by
  obtain ⟨l', hl', hname, hcookie⟩ := hstarted.leader
  obtain ⟨hlt, hkept⟩ := hsessions.registered hl
  obtain rfl := hok.cookies.unique l l' hlt hl' (hkept.trans hcookie.symm)
  exact hname

end

/-! ## Section 6: The programs of a login from another host -/

def regular (d : Desktop) : DesktopLabel → Bool
  | .login label => undisturbed_login d.logins label &&
    match label.daemon with
    | some (.dispatch (.open_session _ _ cookie _)) =>
      decide (cookie.length ≤ 235) && (List.range d.logins.loop.state.next_leader).all fun l =>
        decide ((d.logins.loop.state.leader l).cookie ≠ cookie)
    | _ => true
  | _ => true

theorem regular_sound {d : Desktop} (h : desktop.ReachableBy Regular d)
    {label : DesktopLabel} (htest : regular d label = true) : Regular d label := by
  constructor
  · rintro l rfl
    exact undisturbed_login_sound (logins_reachable h) (Bool.and_eq_true_iff.mp htest).1
  · rintro l sender caller cookie started rfl hdaemon
    have htest := (Bool.and_eq_true_iff.mp htest).2
    rw [hdaemon] at htest
    simp only [Bool.and_eq_true, decide_eq_true_eq, List.all_eq_true, List.mem_range] at htest
    exact htest

/-- Every process may ask. -/
def all_known (d : Desktop) : Peers where
  get_caller_info _ := some (0, 101)
  environ := d.environ
  proc_stat _ := some (cstr "101 (sh) S 100 ")
  ck_process_group_get_ssid _ := none

def shell_labels : List DesktopLabel :=
  ssh_login_labels.map .login ++
    [.start 0 100 (cstr "SHELL=/bin/sh\x00XDG_SESSION_COOKIE=c1\x00"), .fork 100 101]

end PamCkConnector
