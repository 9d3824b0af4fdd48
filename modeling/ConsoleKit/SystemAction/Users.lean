import ConsoleKit.Manager.Table
import ConsoleKit.SystemAction.Protocol
import Mathlib.Data.Finset.Card

/-! # System actions and the users with a session

    The methods for system actions count the users with a session, and ask
    polkit for the action's `-multiple-users` name if there is more than one.
    The answer comes later, and sessions are opened and closed meanwhile.

    `getpwuid` is the user database: the name of a user, if there is an entry.

    This module provides:
    - `get_system_num_users`, which counts names,
    - `power`: the main loop together with the system actions,
    - `multiple_users_authorized`: which authority an action is accepted on
      while several users have sessions, as long as the users are counted
      right and none comes while polkit is asked,
    - `second_user_unseen`: what happens otherwise.
-/

namespace SystemAction

open CkManager Inhibit Libc

/-! ## Section 1: Counting the users -/

section users
variable (getpwuid : Nat → Option CString)

def get_user_name (uid : Nat) : Option CString := getpwuid uid

/-- The user names that `session_is_real_user` filters out. -/
def display_managers : List CString :=
  [cstr "gdm", cstr "_gdm", cstr "sddm", cstr "_sddm", cstr "kdm", cstr "_kdm"]

/-- `none` is FALSE, and otherwise the value is what `userp` is set to. -/
def session_is_real_user (session : CkSession) : Option (Option CString) :=
  let username := get_user_name getpwuid session.unix_user
  if display_managers.any fun name => username = some name then none else some username

def collect_users (m : State) (hash : HashTable CString Unit) (x : SessionRef) :
    HashTable CString Unit :=
  match session_is_real_user getpwuid (m.session x) with
  | some (some username) => hash.insert username ()
  | _ => hash

def get_system_num_users (m : State) : Nat :=
  (m.sessions.values.foldl (collect_users getpwuid m) ∅).entries.length

/-- The users of the sessions in the manager's table. -/
def users (m : State) : List Nat := m.sessions.values.map fun x => (m.session x).unix_user

/-- A user who is not a display manager. -/
def RealUser (uid : Nat) : Prop := ∀ name ∈ display_managers, getpwuid uid ≠ some name

instance (uid : Nat) : Decidable (RealUser getpwuid uid) :=
  inferInstanceAs (Decidable (∀ name ∈ display_managers, getpwuid uid ≠ some name))

/-- Two of these users are different and real. -/
def SeveralUsers (uids : List Nat) : Prop :=
  ∃ u ∈ uids, ∃ v ∈ uids, u ≠ v ∧ RealUser getpwuid u ∧ RealUser getpwuid v

/-- Two of these users are real, and have different names. -/
def SeveralNames (uids : List Nat) : Prop :=
  ∃ u ∈ uids, ∃ v ∈ uids, ∃ name name', RealUser getpwuid u ∧ RealUser getpwuid v ∧
    getpwuid u = some name ∧ getpwuid v = some name' ∧ name ≠ name'

/-- The names that are counted, one for each session that has one. -/
def user_names (m : State) (xs : List SessionRef) : List CString :=
  xs.filterMap fun x => (session_is_real_user getpwuid (m.session x)).join

theorem session_is_real_user_eq_some {session : CkSession} {username : CString} :
    (session_is_real_user getpwuid session).join = some username ↔
      RealUser getpwuid session.unix_user ∧ getpwuid session.unix_user = some username := by
  unfold session_is_real_user get_user_name RealUser
  dsimp only
  split
  · rename_i hany
    obtain ⟨name, hname, heq⟩ := List.any_eq_true.mp hany
    simp only [Option.join_none, reduceCtorEq, false_iff]
    exact fun h => h.1 name hname (of_decide_eq_true heq)
  · rename_i hany
    simp only [Option.join_some, iff_and_self]
    intro _ name hname heq
    exact hany (List.any_eq_true.mpr ⟨name, hname, decide_eq_true heq⟩)

theorem mem_keys_collect (m : State) (xs : List SessionRef) (hash : HashTable CString Unit)
    (name : CString) :
    name ∈ (xs.foldl (collect_users getpwuid m) hash).keys ↔
      name ∈ hash.keys ∨ name ∈ user_names getpwuid m xs := by
  induction xs generalizing hash with
  | nil => simp [user_names]
  | cons x xs ih =>
    rw [List.foldl_cons, ih]
    unfold collect_users user_names
    rw [List.filterMap_cons]
    cases hreal : session_is_real_user getpwuid (m.session x) with
    | none => rfl
    | some username =>
      cases username with
      | none => rfl
      | some username =>
        simp only [Option.join_some, List.mem_cons]
        rw [← or_assoc, ← AList.mem_keys, AList.mem_insert, AList.mem_keys, or_comm (a := name = _)]

/-- Users are counted by their names. -/
theorem get_system_num_users_eq (m : State) :
    get_system_num_users getpwuid m =
      (user_names getpwuid m m.sessions.values).dedup.length := by
  have hkeys : (m.sessions.values.foldl (collect_users getpwuid m) ∅).keys.Perm
      (user_names getpwuid m m.sessions.values).dedup := by
    apply (List.perm_ext_iff_of_nodup (AList.keys_nodup _) (List.nodup_dedup _)).mpr
    intro name
    rw [mem_keys_collect, List.mem_dedup]
    simp
  rw [← hkeys.length_eq, AList.keys, List.keys, List.length_map]
  rfl

theorem one_lt_num_users_iff (m : State) :
    1 < get_system_num_users getpwuid m ↔ SeveralNames getpwuid (users m) := by
  have hnames : ∀ name, name ∈ (user_names getpwuid m m.sessions.values).toFinset ↔
      ∃ u ∈ users m, RealUser getpwuid u ∧ getpwuid u = some name := by
    intro name
    rw [List.mem_toFinset, user_names, List.mem_filterMap]
    constructor
    · rintro ⟨x, hx, hname⟩
      exact ⟨_, List.mem_map_of_mem hx, (session_is_real_user_eq_some getpwuid).mp hname⟩
    · rintro ⟨u, hu, hname⟩
      obtain ⟨x, hx, rfl⟩ := List.mem_map.mp hu
      exact ⟨x, hx, (session_is_real_user_eq_some getpwuid).mpr hname⟩
  rw [get_system_num_users_eq, ← List.card_toFinset, Finset.one_lt_card]
  constructor
  · rintro ⟨name, hname, name', hname', hne⟩
    obtain ⟨u, hu, hreal, hentry⟩ := (hnames name).mp hname
    obtain ⟨v, hv, hreal', hentry'⟩ := (hnames name').mp hname'
    exact ⟨u, hu, v, hv, name, name', hreal, hreal', hentry, hentry', hne⟩
  · rintro ⟨u, hu, v, hv, name, name', hreal, hreal', hentry, hentry', hne⟩
    exact ⟨name, (hnames name).mpr ⟨u, hu, hreal, hentry⟩, name',
      (hnames name').mpr ⟨v, hv, hreal', hentry'⟩, hne⟩

end users

/-! ## Section 2: The system -/

/-- The polkit action of a continuation, for one user. -/
def AuthorizedCallback.polkit_action : AuthorizedCallback → String
  | .do_restart => "org.freedesktop.consolekit.system.restart"
  | .do_stop => "org.freedesktop.consolekit.system.stop"
  | .do_suspend => "org.freedesktop.consolekit.system.suspend"
  | .do_hibernate => "org.freedesktop.consolekit.system.hibernate"
  | .do_hybrid_sleep => "org.freedesktop.consolekit.system.hybridsleep"

def AuthorizedCallback.multiple_users_action (a : AuthorizedCallback) : String :=
  a.polkit_action ++ "-multiple-users"

/-- Not in the source: an action that was accepted, the polkit action that
    was asked for, and the users with a session at that moment. -/
structure Acceptance where
  callback : AuthorizedCallback
  action : String
  users : List Nat
  deriving DecidableEq

/-- The manager with its sessions and its system actions. -/
structure PowerState where
  loop : MainLoop
  actions : Manager
  accepted : List Acceptance

inductive PowerLabel where
  | loop (label : CkManager.Label)
  | call (method : Method) (context : Context) (policykit_interactivity : Bool)
  | auth_ready (index : Nat) (result : AuthResult)
  | inhibit (label : InhibitLabel)
  | timeout (id : Nat)

/-- What the step starts: an authorized action, if no other is pending. -/
def PowerState.acceptances (p : PowerState) : PowerLabel → List Acceptance
  | .auth_ready index .authorized =>
      if p.actions.daemon.listener.system_action_idle_id = 0 then
        (p.actions.pending[index]?.map fun data =>
          ⟨data.callback, data.action, users p.loop.state⟩).toList
      else []
  | _ => []

section system
variable (spawn : Nat → String → Option String) (getpwuid : Nat → Option CString)

/-- The label of the system actions, with the number of users filled in. -/
def PowerLabel.action (m : State) : PowerLabel → Option ActionLabel
  | .loop _ => none
  | .call method context policykit_interactivity =>
      some (.call method ⟨context, policykit_interactivity, get_system_num_users getpwuid m, false⟩)
  | .auth_ready index result => some (.auth_ready index result)
  | .inhibit label => some (.inhibit label)
  | .timeout id => some (.timeout id)

/-- Calls, answers, locks and timers are dispatched by the main loop. -/
def power_next (p : PowerState) (label : PowerLabel) : Option PowerState :=
  match label with
  | .loop label => (main_loop.next p.loop label).map fun c => { p with loop := c }
  | label =>
      if dispatching p.loop.stack then
        (label.action getpwuid p.loop.state).bind fun l =>
          (action_next spawn .polkit p.actions l).map fun m =>
            { p with actions := m, accepted := p.accepted ++ p.acceptances label }
      else none

def power : LTS.System PowerState PowerLabel where
  init p := main_loop.init p.loop ∧ p.actions = manager_init ∧ p.accepted = []
  next := power_next spawn getpwuid

end system

section
variable {spawn : Nat → String → Option String} {getpwuid : Nat → Option CString}
variable {p p' : PowerState}

/-- What each kind of step does. -/
inductive PowerStep (spawn : Nat → String → Option String) (getpwuid : Nat → Option CString)
    (p : PowerState) : PowerLabel → PowerState → Prop where
  | loop : ∀ {label c}, main_loop.next p.loop label = some c →
      PowerStep spawn getpwuid p (.loop label) { p with loop := c }
  | action : ∀ {label l m}, label.action getpwuid p.loop.state = some l →
      action_next spawn .polkit p.actions l = some m →
      PowerStep spawn getpwuid p label
        { p with actions := m, accepted := p.accepted ++ p.acceptances label }

theorem power_step {label : PowerLabel} (h : (power spawn getpwuid).next p label = some p') :
    PowerStep spawn getpwuid p label p' := by
  cases label with
  | loop label =>
    obtain ⟨c, hc, rfl⟩ := Option.map_eq_some_iff.mp h
    exact .loop hc
  | call | auth_ready | inhibit | timeout =>
    obtain ⟨-, h⟩ := Option.ite_none_right_eq_some.mp h
    obtain ⟨l, hl, h⟩ := Option.bind_eq_some_iff.mp h
    obtain ⟨m, hm, rfl⟩ := Option.map_eq_some_iff.mp h
    exact .action hl hm

end

/-! ## Section 3: Who has a session after a step -/

/-- The user of the session that the step opens, if any. -/
def opened (m : State) : CkManager.Label → Option Nat
  | .dispatch (.job_completed l (some o)) =>
      if o.created then some (m.ck_session_new_with_parameters l o).unix_user else none
  | _ => none

theorem opened_eq (m : State) (label : CkManager.Label) :
    opened m label =
      label.opening.map fun r => (m.ck_session_new_with_parameters r.1 r.2).unix_user := by
  unfold opened
  split
  · rename_i o
    simp only [CkManager.Label.opening]
    by_cases hcreated : o.created = true
    · rw [if_pos hcreated, if_pos hcreated]
      rfl
    · rw [if_neg hcreated, if_neg hcreated]
      rfl
  · rename_i hnone
    unfold CkManager.Label.opening
    split
    · exact absurd rfl (hnone _ _)
    · rfl

theorem users_same {m m' : State} (h : SameTable m m') : users m' = users m := by
  unfold users
  rw [h.sessions]
  exact List.map_congr_left fun x _ => h.unix_user x

theorem mem_users {m : State} {u : Nat} :
    u ∈ users m ↔ ∃ x ∈ m.sessions.values, (m.session x).unix_user = u :=
  List.mem_map

/-- A new session brings in its user. -/
theorem users_insertOpened {m : State} {l : LeaderRef} {o : Opening} {u : Nat}
    (h : u ∈ users (m.insertOpened l o)) :
    u ∈ users m ∨ (m.ck_session_new_with_parameters l o).unix_user = u := by
  obtain ⟨x, hx, rfl⟩ := mem_users.mp h
  by_cases hnew : x = m.next_session
  · rw [hnew, insertOpened_new_user]
    exact .inr rfl
  · rw [insertOpened_old hnew]
    exact .inl (mem_users.mpr ⟨x, (mem_values_insertOpened hx).resolve_left hnew, rfl⟩)

/-- A removal takes one away at most. -/
theorem users_without {m : State} {l : LeaderRef} {u : Nat} (h : u ∈ users (m.without l)) :
    u ∈ users m := by
  obtain ⟨x, hx, rfl⟩ := mem_users.mp h
  exact mem_users.mpr ⟨x, mem_values_without hx, rfl⟩

/-- Sessions of other users are only closed. -/
theorem users_step {c c' : MainLoop} {label : CkManager.Label}
    (h : main_loop.next c label = some c') {u : Nat} (hu : u ∈ users c'.state) :
    u ∈ users c.state ∨ opened c.state label = some u := by
  cases table_step h with
  | same _ _ hsame =>
    rw [users_same hsame] at hu
    exact .inl hu
  | @opened l o hopening hsame =>
    rw [users_same hsame] at hu
    refine (users_insertOpened hu).imp_right fun heq => ?_
    rw [opened_eq, hopening, Option.map_some, heq]
  | removed _ _ hsame =>
    rw [users_same hsame] at hu
    exact .inl (users_without hu)

/-! ## Section 4: The authority of an action -/

/-- Every action was accepted on the authority that it needs, if several
    users had sessions at that moment. -/
def Authorized (getpwuid : Nat → Option CString) (p : PowerState) : Prop :=
  ∀ a ∈ p.accepted, SeveralUsers getpwuid a.users → a.action = a.callback.multiple_users_action

/-- Users who have sessions at a call have entries with different names, as
    far as it matters: there are two names if there are two users.  While a
    call waits for polkit on the authority of one user, nobody opens a
    session who is another user than those who have one. -/
structure UsersSeen (getpwuid : Nat → Option CString) (p : PowerState) (label : PowerLabel) :
    Prop where
  counted : ∀ method context policykit_interactivity,
    label = .call method context policykit_interactivity →
    SeveralUsers getpwuid (users p.loop.state) → SeveralNames getpwuid (users p.loop.state)
  alone : ∀ l u, label = .loop l → opened p.loop.state l = some u → RealUser getpwuid u →
    ∀ data ∈ p.actions.pending, data.action ≠ data.callback.multiple_users_action →
    ∀ v ∈ users p.loop.state, RealUser getpwuid v → v = u

/-- A method asks for the polkit action of its continuation. -/
theorem Method.handler_polkit (method : Method) (m : Manager) (call : ActionCall) :
    ∃ interactivity, method.handler .polkit m call =
      if get_inhibit_status m.daemon method.callback.event .block then
        m.throw_error call.context .INHIBITED "Operation is being inhibited"
      else { m with pending := m.pending ++ [{
        context := call.context
        action := if call.num_users > 1 then method.callback.multiple_users_action
          else method.callback.polkit_action
        policykit_interactivity := interactivity
        callback := method.callback
        since := m.daemon.next_object }] } := by
  cases method <;> exact ⟨_, rfl⟩

section
variable {spawn : Nat → String → Option String} {getpwuid : Nat → Option CString}
variable {p p' : PowerState}

/-- The calls that wait on the authority of one user are right to do so. -/
def WaitingAlone (getpwuid : Nat → Option CString) (p : PowerState) : Prop :=
  ∀ data ∈ p.actions.pending, SeveralUsers getpwuid (users p.loop.state) →
    data.action = data.callback.multiple_users_action

theorem WaitingAlone.loop (h : WaitingAlone getpwuid p) {label : CkManager.Label} {c : MainLoop}
    (hok : UsersSeen getpwuid p (.loop label)) (hnext : main_loop.next p.loop label = some c) :
    WaitingAlone getpwuid { p with loop := c } := by
  intro data hdata hseveral
  by_contra haction
  -- otherwise two users had sessions before
  refine haction (h data hdata ?_)
  obtain ⟨u, hu, v, hv, hne, hu_real, hv_real⟩ := hseveral
  have halone := fun w hw hw_real => hok.alone label w rfl hw hw_real data hdata haction
  rcases users_step hnext hu with hu | hu
  · rcases users_step hnext hv with hv | hv
    · exact ⟨u, hu, v, hv, hne, hu_real, hv_real⟩
    · exact absurd (halone v hv hv_real u hu hu_real) hne
  · rcases users_step hnext hv with hv | hv
    · exact absurd (halone u hu hu_real v hv hv_real).symm hne
    · exact absurd (Option.some.inj (hu.symm.trans hv)) hne

/-- A call that asks for the authority of one user has counted one at most. -/
theorem WaitingAlone.call (h : WaitingAlone getpwuid p) {method : Method} {context : Context}
    {policykit_interactivity : Bool} {m : Manager}
    (hok : UsersSeen getpwuid p (.call method context policykit_interactivity))
    (hnext : action_next spawn .polkit p.actions (.call method
      ⟨context, policykit_interactivity, get_system_num_users getpwuid p.loop.state, false⟩) =
        some m) (accepted : List Acceptance) :
    WaitingAlone getpwuid { p with actions := m, accepted := accepted } := by
  obtain ⟨interactivity, heq⟩ := method.handler_polkit p.actions
    ⟨context, policykit_interactivity, get_system_num_users getpwuid p.loop.state, false⟩
  obtain rfl := Option.some.inj hnext
  intro data hdata hseveral
  change data ∈ (method.handler .polkit p.actions _).pending at hdata
  rw [heq] at hdata
  split at hdata
  · exact h data hdata hseveral
  · rcases List.mem_append.mp hdata with hdata | hdata
    · exact h data hdata hseveral
    · obtain rfl := List.mem_singleton.mp hdata
      exact if_pos ((one_lt_num_users_iff getpwuid p.loop.state).mpr
        (hok.counted method context policykit_interactivity rfl hseveral))

/-- Nothing but a call starts to wait. -/
theorem ActionStep.pending {m m' : Manager} {l : ActionLabel} (h : ActionStep spawn m l m')
    (hcall : ∀ method call, l ≠ .call method call) :
    ∀ data ∈ m'.pending, data ∈ m.pending := by
  intro data hdata
  cases h with
  | blocked method call | ignored method call => exact absurd rfl (hcall method call)
  | queued method call | called method call => exact absurd rfl (hcall method call)
  | denied | authorized => exact List.mem_of_mem_eraseIdx hdata
  | inhibit | timeout => exact hdata

theorem WaitingAlone.step (h : WaitingAlone getpwuid p) {label : PowerLabel}
    (hok : UsersSeen getpwuid p label) (hstep : PowerStep spawn getpwuid p label p') :
    WaitingAlone getpwuid p' := by
  cases hstep with
  | loop hnext => exact h.loop hok hnext
  | @action _ l m hlabel hnext =>
    cases label with
    | loop => cases hlabel
    | call method context policykit_interactivity =>
      obtain rfl := Option.some.inj hlabel
      exact h.call hok hnext _
    | auth_ready | inhibit | timeout =>
      obtain rfl := Option.some.inj hlabel
      have hpending := (action_next_step hnext).pending (by simp)
      exact fun data hdata hseveral => h data (hpending data hdata) hseveral

/-- What is accepted has waited. -/
theorem mem_acceptances {label : PowerLabel} {a : Acceptance} (h : a ∈ p.acceptances label) :
    ∃ data ∈ p.actions.pending, a = ⟨data.callback, data.action, users p.loop.state⟩ := by
  unfold PowerState.acceptances at h
  split at h
  · rename_i index
    split at h
    · obtain ⟨data, hdata, rfl⟩ := Option.map_eq_some_iff.mp (Option.mem_toList.mp h)
      exact ⟨data, List.mem_of_getElem? hdata, rfl⟩
    · cases h
  · cases h

theorem Authorized.step (h : Authorized getpwuid p) (hwaiting : WaitingAlone getpwuid p)
    {label : PowerLabel} (hstep : PowerStep spawn getpwuid p label p') :
    Authorized getpwuid p' := by
  cases hstep with
  | loop hnext => exact h
  | action hlabel hnext =>
    intro a ha hseveral
    rcases List.mem_append.mp ha with ha | ha
    · exact h a ha hseveral
    · obtain ⟨data, hdata, rfl⟩ := mem_acceptances ha
      exact hwaiting data hdata hseveral

theorem accepted_acceptances {label : PowerLabel} {l : ActionLabel} {m : Manager}
    (hlabel : label.action getpwuid p.loop.state = some l)
    (hnext : action_next spawn .polkit p.actions l = some m) :
    m.accepted = p.actions.accepted ++ (p.acceptances label).map Acceptance.callback := by
  cases label with
  | loop => cases hlabel
  | call method context policykit_interactivity =>
    obtain rfl := Option.some.inj hlabel
    obtain ⟨interactivity, heq⟩ := method.handler_polkit p.actions
      ⟨context, policykit_interactivity, get_system_num_users getpwuid p.loop.state, false⟩
    obtain rfl := Option.some.inj hnext
    rw [heq]
    split <;> simp [PowerState.acceptances, Manager.throw_error]
  | auth_ready index result =>
    obtain rfl := Option.some.inj hlabel
    obtain ⟨data, hdata, rfl⟩ := Option.map_eq_some_iff.mp hnext
    cases result with
    | authorized =>
      simp only [auth_ready_callback, Manager.callback_accepted, PowerState.acceptances, hdata]
      split <;> simp
    | error | challenge | unauthorized =>
      simp [auth_ready_callback, Manager.throw_error, PowerState.acceptances]
  | inhibit label =>
    obtain rfl := Option.some.inj hlabel
    obtain ⟨w, -, rfl⟩ := Option.map_eq_some_iff.mp hnext
    simp [PowerState.acceptances]
  | timeout id =>
    obtain rfl := Option.some.inj hlabel
    obtain ⟨w, -, rfl⟩ := Option.map_eq_some_iff.mp hnext
    simp [PowerState.acceptances]

/-- Every action that was accepted is on record. -/
theorem acceptances_complete (h : (power spawn getpwuid).Reachable p) :
    p.accepted.map Acceptance.callback = p.actions.accepted := by
  refine h.invariant (I := fun p => p.accepted.map Acceptance.callback = p.actions.accepted) ?_ ?_
  · rintro p ⟨-, hactions, haccepted⟩
    rw [hactions, haccepted]
    rfl
  · intro p label p' hp hnext
    cases power_step hnext with
    | loop hloop => exact hp
    | action hlabel haction =>
      rw [List.map_append, hp]
      exact (accepted_acceptances hlabel haction).symm

end

theorem multiple_users_authorized (spawn : Nat → String → Option String)
    (getpwuid : Nat → Option CString) {p : PowerState}
    (h : (power spawn getpwuid).ReachableBy (UsersSeen getpwuid) p) : Authorized getpwuid p := by
  have hboth : Authorized getpwuid p ∧ WaitingAlone getpwuid p := by
    refine h.invariant (I := fun p => Authorized getpwuid p ∧ WaitingAlone getpwuid p) ?_ ?_
    · rintro p ⟨-, hactions, haccepted⟩
      constructor
      · intro a ha
        rw [haccepted] at ha
        cases ha
      · intro data hdata
        rw [hactions] at hdata
        cases hdata
    · rintro p label p' ⟨hp, hwaiting⟩ hok hnext
      have hstep := power_step hnext
      exact ⟨hp.step hwaiting hstep, hwaiting.step hok hstep⟩
  exact hboth.1

/-- The daemon without static seats, about to start. -/
def power_start : PowerState :=
  ⟨⟨ck_manager_init true 1, [.load_seats_from_dir []]⟩, manager_init, []⟩

/-- Two users with an entry. -/
def alice_and_bob (uid : Nat) : Option CString :=
  if uid = 1000 then some (cstr "alice") else if uid = 1001 then some (cstr "bob") else none

/-- A user opens a session, the one of the leader `l`. -/
def logs_in (l : LeaderRef) (cookie : CString) (uid : Nat) : List PowerLabel :=
  [Label.dispatch (.open_session (cstr ":1.5") (some (uid, 7)) cookie true),
    .dispatch (.job_completed l (some
      { parameters := [(.unix_user, .uint32 uid)], transform := .same_type,
        creation_time := cstr "2020-01-01T00:00:00Z", created := true, registers := true })),
    .callout_done, .call, .call, .callout_done, .call, .call].map .loop

/-- The test that no session is opened while a call waits, and that a call
    counts more than one user. -/
def users_seen (getpwuid : Nat → Option CString) (p : PowerState) : PowerLabel → Bool
  | .loop _ => p.actions.pending.isEmpty
  | .call .. => 1 < get_system_num_users getpwuid p.loop.state
  | _ => true

theorem users_seen_sound {getpwuid : Nat → Option CString} {p : PowerState} {label : PowerLabel}
    (htest : users_seen getpwuid p label = true) : UsersSeen getpwuid p label := by
  constructor
  · intro method context policykit_interactivity hlabel _
    subst hlabel
    exact (one_lt_num_users_iff getpwuid p.loop.state).mp (of_decide_eq_true htest)
  · intro l u hlabel _ _ data hdata
    subst hlabel
    have hnone : p.actions.pending = [] := List.isEmpty_iff.mp htest
    rw [hnone] at hdata
    cases hdata

theorem power_start_reachable (getpwuid : Nat → Option CString)
    (ok : PowerState → PowerLabel → Prop) :
    (power (fun _ _ => none) getpwuid).ReachableBy ok power_start :=
  .init ⟨⟨true, 1, [], rfl⟩, rfl, rfl⟩

/-- Both users have sessions when one of them stops the system. -/
theorem multiple_users_authorized_stop :
    ∃ p, (power (fun _ _ => none) alice_and_bob).runBy (users_seen alice_and_bob) power_start
      ([.loop .call] ++ logs_in 0 (cstr "c1") 1000 ++ logs_in 1 (cstr "c2") 1001 ++
        [.call .stop 1 true, .auth_ready 0 .authorized]) = some p ∧
      p.accepted = [⟨.do_stop, "org.freedesktop.consolekit.system.stop-multiple-users",
        [1001, 1000]⟩] ∧
      SeveralUsers alice_and_bob [1001, 1000] ∧ Authorized alice_and_bob p := by
  have hrun : ((power (fun _ _ => none) alice_and_bob).runBy (users_seen alice_and_bob)
      power_start ([.loop .call] ++ logs_in 0 (cstr "c1") 1000 ++ logs_in 1 (cstr "c2") 1001 ++
        [.call .stop 1 true, .auth_ready 0 .authorized])).map PowerState.accepted =
      some [⟨.do_stop, "org.freedesktop.consolekit.system.stop-multiple-users",
        [1001, 1000]⟩] := by
    decide +kernel
  obtain ⟨p, hp, haccepted⟩ := Option.map_eq_some_iff.mp hrun
  refine ⟨p, hp, haccepted, ⟨1001, by simp, 1000, by simp, by decide, by decide, by decide⟩, ?_⟩
  exact multiple_users_authorized (fun _ _ => none) alice_and_bob
    ((power_start_reachable _ _).runBy (fun _ _ _ htest => users_seen_sound htest) hp)

/-- The second user opens a session while polkit is asked, or is not counted
    because there is no entry for the user. -/
theorem second_user_unseen :
    (∃ p, (power (fun _ _ => none) alice_and_bob).run power_start
      ([.loop .call] ++ logs_in 0 (cstr "c1") 1000 ++ [.call .stop 1 true] ++
        logs_in 1 (cstr "c2") 1001 ++ [.auth_ready 0 .authorized]) = some p ∧
      (power (fun _ _ => none) alice_and_bob).Reachable p ∧
      p.accepted = [⟨.do_stop, "org.freedesktop.consolekit.system.stop", [1001, 1000]⟩] ∧
      ¬ Authorized alice_and_bob p) ∧
    (∃ p, (power (fun _ _ => none) alice_and_bob).run power_start
      ([.loop .call] ++ logs_in 0 (cstr "c1") 1000 ++ logs_in 1 (cstr "c2") 5000 ++
        [.call .stop 1 true, .auth_ready 0 .authorized]) = some p ∧
      (power (fun _ _ => none) alice_and_bob).Reachable p ∧
      p.accepted = [⟨.do_stop, "org.freedesktop.consolekit.system.stop", [5000, 1000]⟩] ∧
      ¬ Authorized alice_and_bob p) := by
  have hunauthorized : ∀ (p : PowerState) (v : Nat), v ≠ 1000 → RealUser alice_and_bob v →
      p.accepted = [⟨.do_stop, "org.freedesktop.consolekit.system.stop", [v, 1000]⟩] →
      ¬ Authorized alice_and_bob p := by
    intro p v hne hreal haccepted hauthorized
    have haction : "org.freedesktop.consolekit.system.stop" =
        AuthorizedCallback.do_stop.multiple_users_action :=
      hauthorized _ (haccepted ▸ List.mem_singleton.mpr rfl)
        ⟨v, by simp, 1000, by simp, hne, hreal, by decide⟩
    exact absurd haction (by decide)
  constructor
  · have hrun : ((power (fun _ _ => none) alice_and_bob).run power_start
        ([.loop .call] ++ logs_in 0 (cstr "c1") 1000 ++ [.call .stop 1 true] ++
          logs_in 1 (cstr "c2") 1001 ++ [.auth_ready 0 .authorized])).map PowerState.accepted =
        some [⟨.do_stop, "org.freedesktop.consolekit.system.stop", [1001, 1000]⟩] := by
      decide +kernel
    obtain ⟨p, hp, haccepted⟩ := Option.map_eq_some_iff.mp hrun
    exact ⟨p, hp, LTS.System.Reachable.run (power_start_reachable _ _) hp, haccepted,
      hunauthorized p 1001 (by decide) (by decide) haccepted⟩
  · have hrun : ((power (fun _ _ => none) alice_and_bob).run power_start
        ([.loop .call] ++ logs_in 0 (cstr "c1") 1000 ++ logs_in 1 (cstr "c2") 5000 ++
          [.call .stop 1 true, .auth_ready 0 .authorized])).map PowerState.accepted =
        some [⟨.do_stop, "org.freedesktop.consolekit.system.stop", [5000, 1000]⟩] := by
      decide +kernel
    obtain ⟨p, hp, haccepted⟩ := Option.map_eq_some_iff.mp hrun
    exact ⟨p, hp, LTS.System.Reachable.run (power_start_reachable _ _) hp, haccepted,
      hunauthorized p 5000 (by decide) (by decide) haccepted⟩

end SystemAction
