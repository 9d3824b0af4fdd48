import ConsoleKit.Manager.Removal
import ConsoleKit.Manager.Table

/-! # The runtime directories

    The sessions of a user share one directory.  Nothing counts them: a new
    session asks the first session of the same user that the table yields
    for its directory, and a removal removes the directory if that session
    has none.  A session whose directory could not be made has none, and
    answers for the others.

    This module provides:
    - `run_dirs`: the main loop with the runtime directories,
    - `DirLaw`: what is asked of each step,
    - `runtime_dir_lifetime`: the runs that meet it.
-/

namespace CkManager

open Libc

/-! ## Section 1: Making and removing directories -/

/-- A removal of the directory of a user, and the sessions that the manager
    had in its table then. -/
structure DirRemoval where
  uid : Nat
  sessions : List SessionRef

structure RunDirs where
  loop : MainLoop
  /-- The `runtime_dir` of a session; `none` is NULL. -/
  runtime_dir : SessionRef → Option CString
  /-- Whether the directory of a user exists. -/
  exist : Nat → Bool
  removals : List DirRemoval

/-- How `ck_generate_runtime_dir_for_user` goes: the user is not found or the
    base cannot be made, a call fails, or all goes well. -/
inductive Creation where
  | no_user | mkdir_fails | chown_fails | created
  deriving DecidableEq

/-- A step of the main loop, with the session of the user that
    `g_hash_table_find` yields if one is looked for, and how a directory is
    made if it is. -/
structure RunDirLabel where
  label : Label
  found : Option SessionRef
  creation : Creation

section
variable (RUNDIR : CString)

/-- `%d` prints the 32 bits of the user id as a signed number. -/
def get_rundir (uid : Nat) : CString :=
  RUNDIR ++ cstr "/user/" ++ percent_d (Int32.ofNat uid)

namespace RunDirs

/-- `ck-remove-directory` removes what there is. -/
def remove_rundir (s : RunDirs) (uid : Nat) : RunDirs :=
  -- nothing to remove for root
  if uid < 1 then s
  else if s.exist uid then
    { s with
      exist := Function.update s.exist uid false
      removals := s.removals ++ [⟨uid, s.loop.state.sessions.values⟩] }
  else s

def ck_generate_runtime_dir_for_user (s : RunDirs) (uid : Nat) (creation : Creation) :
    RunDirs × Option CString :=
  if creation = .no_user then (s, none)
  else
    -- ensure any files from the last session are removed
    let s := if s.exist uid then s.remove_rundir uid else s
    if creation = .mkdir_fails then (s, none)
    else
      let s := { s with exist := Function.update s.exist uid true }
      if creation = .chown_fails then (s, none) else (s, some (get_rundir RUNDIR uid))

def ck_remove_runtime_dir_for_user (s : RunDirs) (uid : Nat) : RunDirs := s.remove_rundir uid

/-- What `g_hash_table_find` may yield for the predicate `session_has_user`. -/
def finds (m : State) (uid : Nat) : Option SessionRef → Bool
  | some x => decide (x ∈ m.sessions.values) && decide ((m.session x).unix_user = uid)
  | none => m.sessions.values.all fun x => (m.session x).unix_user ≠ uid

def get_runtime_dir_for_user (s : RunDirs) (found : Option SessionRef) : Option CString :=
  found.bind s.runtime_dir

/-- The directory of a new session, in `open_session_for_leader`. -/
def openDir (s : RunDirs) (uid : Nat) (found : Option SessionRef) (creation : Creation) :
    RunDirs × Option CString :=
  match s.get_runtime_dir_for_user found with
  | some dir => (s, some dir)
  | none => s.ck_generate_runtime_dir_for_user RUNDIR uid creation

/-- The end of `remove_session_for_cookie`. -/
def closeDir (s : RunDirs) (uid : Nat) (found : Option SessionRef) : RunDirs :=
  match s.get_runtime_dir_for_user found with
  | some _ => s
  | none => s.ck_remove_runtime_dir_for_user uid

end RunDirs

def run_dirs_next (s : RunDirs) (label : RunDirLabel) : Option RunDirs :=
  (main_loop_next s.loop label.label).bind fun loop =>
    match label.label.opening, label.label.removal s.loop with
    | some (l, o), _ =>
      -- before the session is in the table
      let uid := (s.loop.state.ck_session_new_with_parameters l o).unix_user
      if RunDirs.finds s.loop.state uid label.found then
        let r := s.openDir RUNDIR uid label.found label.creation
        some { r.1 with
          loop := loop
          runtime_dir := Function.update r.1.runtime_dir s.loop.state.next_session r.2 }
      else none
    | none, some (_, x) =>
      -- after the session has left the table
      let uid := (s.loop.state.session x).unix_user
      if RunDirs.finds loop.state uid label.found then
        some (RunDirs.closeDir { s with loop := loop } uid label.found)
      else none
    | none, none => some { s with loop := loop }

/-- The main loop with the runtime directories, of which some may be left
    from before. -/
def run_dirs : LTS.System RunDirs RunDirLabel where
  init s := main_loop.init s.loop ∧ (∀ x, s.runtime_dir x = none) ∧ s.removals = []
  next := run_dirs_next RUNDIR

end

/-! ## Section 2: The law and the condition -/

/-- A session of the user is in the table. -/
def HasSession (m : State) (uid : Nat) : Prop :=
  ∃ x ∈ m.sessions.values, (m.session x).unix_user = uid

/-- A session of the user that was given the directory is in the table. -/
def HasDir (s : RunDirs) (m : State) (uid : Nat) : Prop :=
  ∃ x ∈ m.sessions.values, (m.session x).unix_user = uid ∧ s.runtime_dir x ≠ none

/-- What is asked of a step from `s` to `s'`. -/
structure DirLaw (s : RunDirs) (label : RunDirLabel) (s' : RunDirs) : Prop where
  /-- Sessions of one user have the same directory. -/
  same : ∀ x ∈ s'.loop.state.sessions.values, ∀ y ∈ s'.loop.state.sessions.values,
    (s'.loop.state.session x).unix_user = (s'.loop.state.session y).unix_user →
    s'.runtime_dir x ≠ none → s'.runtime_dir y ≠ none → s'.runtime_dir x = s'.runtime_dir y
  /-- No directory has been removed from under a session in the table. -/
  kept : ∀ r ∈ s'.removals, ∀ x ∈ r.sessions,
    (s'.loop.state.session x).unix_user = r.uid → s'.runtime_dir x = none
  /-- It is gone with the last session of the user. -/
  last : label.label.removal s.loop ≠ none → ∀ uid, HasSession s.loop.state uid →
    ¬ HasSession s'.loop.state uid → s'.exist uid = false

/-- The session that is found has a directory if any one of the user has,
    and a user whose last session leaves is the one that is cleaned up
    after. -/
structure DirFound (s : RunDirs) (label : RunDirLabel) : Prop where
  opening : ∀ l o, label.label.opening = some (l, o) → label.creation ≠ .no_user →
    (s.loop.state.ck_session_new_with_parameters l o).unix_user ≠ 0 →
    HasDir s s.loop.state (s.loop.state.ck_session_new_with_parameters l o).unix_user →
    s.get_runtime_dir_for_user label.found ≠ none
  removal : ∀ l x, label.label.removal s.loop = some (l, x) →
    (s.loop.state.session x).unix_user ≠ 0 →
    HasDir s (s.loop.state.without l) (s.loop.state.session x).unix_user →
    s.get_runtime_dir_for_user label.found ≠ none
  last : ∀ l x, label.label.removal s.loop = some (l, x) → ∀ uid, HasSession s.loop.state uid →
    ¬ HasSession (s.loop.state.without l) uid → s.exist uid = true →
    uid = (s.loop.state.session x).unix_user ∧ uid ≠ 0

/-! ## Section 3: What the functions do -/

namespace RunDirs

variable {RUNDIR : CString} {s : RunDirs} {uid : Nat} {found : Option SessionRef}
variable {creation : Creation}

/-- Removing the directory of the user would take one away. -/
def Erases (s : RunDirs) (uid : Nat) : Prop := uid ≠ 0 ∧ s.exist uid = true

instance (s : RunDirs) (uid : Nat) : Decidable (s.Erases uid) :=
  inferInstanceAs (Decidable (_ ∧ _))

theorem remove_rundir_eq (s : RunDirs) (uid : Nat) :
    s.remove_rundir uid = if s.Erases uid then
      { s with
        exist := Function.update s.exist uid false
        removals := s.removals ++ [⟨uid, s.loop.state.sessions.values⟩] }
    else s := by
  unfold remove_rundir
  by_cases hroot : uid < 1
  · rw [if_pos hroot, if_neg]
    rintro ⟨hne, -⟩
    omega
  · rw [if_neg hroot]
    refine if_congr ?_ rfl rfl
    exact ⟨fun h => ⟨by omega, h⟩, fun h => h.2⟩

/-- The parts of the state that neither function changes, and the removal
    that it makes if `erases`. -/
structure Effect (s s' : RunDirs) (uid : Nat) (erases : Prop) : Prop where
  loop : s'.loop = s.loop
  runtime_dir : s'.runtime_dir = s.runtime_dir
  others : ∀ u, u ≠ uid → s'.exist u = s.exist u
  removed : erases → s.Erases uid ∧
    s'.removals = s.removals ++ [⟨uid, s.loop.state.sessions.values⟩]
  untouched : ¬ erases → s'.removals = s.removals ∧ (s.exist uid = true → s'.exist uid = true)

theorem Effect.refl (s : RunDirs) (uid : Nat) {erases : Prop} (h : ¬ erases) :
    Effect s s uid erases :=
  ⟨rfl, rfl, fun _ _ => rfl, fun he => absurd he h, fun _ => ⟨rfl, id⟩⟩

/-- A removal is an earlier one, or the one that is made. -/
theorem Effect.removal_cases {s s' : RunDirs} {uid : Nat} {erases : Prop}
    (h : Effect s s' uid erases) {r : DirRemoval} (hr : r ∈ s'.removals) :
    r ∈ s.removals ∨ (erases ∧ r = ⟨uid, s.loop.state.sessions.values⟩) := by
  by_cases herases : erases
  · rw [(h.removed herases).2] at hr
    exact (List.mem_append.mp hr).imp_right fun hr => ⟨herases, List.mem_singleton.mp hr⟩
  · rw [(h.untouched herases).1] at hr
    exact .inl hr

theorem Effect.mem_removals {s s' : RunDirs} {uid : Nat} {erases : Prop}
    (h : Effect s s' uid erases) (herases : erases) :
    ⟨uid, s.loop.state.sessions.values⟩ ∈ s'.removals := by
  rw [(h.removed herases).2]
  exact List.mem_append_right _ (List.mem_singleton.mpr rfl)

/-- The directory of a user stays, unless it is the one that is removed. -/
theorem Effect.exist_kept {s s' : RunDirs} {uid u : Nat} {erases : Prop}
    (h : Effect s s' uid erases) (hu : u = uid → ¬ erases) (hexist : s.exist u = true) :
    s'.exist u = true := by
  by_cases heq : u = uid
  · subst heq
    exact (h.untouched (hu rfl)).2 hexist
  · rw [h.others u heq]
    exact hexist

theorem remove_rundir_effect (s : RunDirs) (uid : Nat) :
    Effect s (s.remove_rundir uid) uid (s.Erases uid) := by
  rw [remove_rundir_eq]
  split
  · rename_i herases
    exact ⟨rfl, rfl, fun u hu => Function.update_of_ne hu _ _, fun _ => ⟨herases, rfl⟩,
      fun h => absurd herases h⟩
  · rename_i herases
    exact .refl s uid herases

variable (RUNDIR) in
/-- A directory that exists is made anew. -/
theorem generate_effect (s : RunDirs) (uid : Nat) (creation : Creation) :
    Effect s (s.ck_generate_runtime_dir_for_user RUNDIR uid creation).1 uid
        (creation ≠ .no_user ∧ s.Erases uid) ∧
    ((s.ck_generate_runtime_dir_for_user RUNDIR uid creation).2 = none ∨
      ((s.ck_generate_runtime_dir_for_user RUNDIR uid creation).2 =
          some (get_rundir RUNDIR uid) ∧
        (s.ck_generate_runtime_dir_for_user RUNDIR uid creation).1.exist uid = true)) := by
  unfold ck_generate_runtime_dir_for_user
  by_cases hno : creation = .no_user
  · rw [if_pos hno]
    exact ⟨.refl s uid fun h => h.1 hno, .inl rfl⟩
  · rw [if_neg hno]
    have hremove : Effect s (if s.exist uid then s.remove_rundir uid else s) uid
        (creation ≠ .no_user ∧ s.Erases uid) := by
      have heffect := s.remove_rundir_effect uid
      split
      · exact ⟨heffect.loop, heffect.runtime_dir, heffect.others,
          fun h => heffect.removed h.2, fun h => heffect.untouched fun he => h ⟨hno, he⟩⟩
      · rename_i hexist
        exact .refl s uid fun h => hexist h.2.2
    have hmade : Effect s { (if s.exist uid then s.remove_rundir uid else s) with
        exist := Function.update (if s.exist uid then s.remove_rundir uid else s).exist uid true }
        uid (creation ≠ .no_user ∧ s.Erases uid) :=
      ⟨hremove.loop, hremove.runtime_dir,
        fun u hu => (Function.update_of_ne hu _ _).trans (hremove.others u hu),
        hremove.removed, fun h => ⟨(hremove.untouched h).1, fun _ => Function.update_self ..⟩⟩
    dsimp only
    split
    · exact ⟨hremove, .inl rfl⟩
    · split
      · exact ⟨hmade, .inl rfl⟩
      · exact ⟨hmade, .inr ⟨rfl, Function.update_self ..⟩⟩

variable (RUNDIR) in
/-- The directory of a new session is the one of the session that is found,
    or a new one, or NULL. -/
theorem openDir_effect (s : RunDirs) (uid : Nat) (found : Option SessionRef)
    (creation : Creation) :
    Effect s (s.openDir RUNDIR uid found creation).1 uid
        (s.get_runtime_dir_for_user found = none ∧ creation ≠ .no_user ∧ s.Erases uid) ∧
    (s.get_runtime_dir_for_user found ≠ none →
      (s.openDir RUNDIR uid found creation).2 = s.get_runtime_dir_for_user found) ∧
    (s.get_runtime_dir_for_user found = none →
      (s.openDir RUNDIR uid found creation).2 = none ∨
      ((s.openDir RUNDIR uid found creation).2 = some (get_rundir RUNDIR uid) ∧
        (s.openDir RUNDIR uid found creation).1.exist uid = true)) := by
  unfold openDir
  cases hdir : s.get_runtime_dir_for_user found with
  | some dir => exact ⟨.refl s uid (by simp), fun _ => rfl, fun h => by cases h⟩
  | none =>
    obtain ⟨heffect, hmade⟩ := s.generate_effect RUNDIR uid creation
    refine ⟨⟨heffect.loop, heffect.runtime_dir, heffect.others, fun h => heffect.removed h.2,
      fun h => heffect.untouched fun he => h ⟨rfl, he⟩⟩, fun h => absurd rfl h, fun _ => hmade⟩

theorem closeDir_effect (s : RunDirs) (uid : Nat) (found : Option SessionRef) :
    Effect s (s.closeDir uid found) uid
        (s.get_runtime_dir_for_user found = none ∧ s.Erases uid) ∧
    (s.get_runtime_dir_for_user found = none → uid ≠ 0 →
      (s.closeDir uid found).exist uid = false) ∧
    (s.exist uid = false → (s.closeDir uid found).exist uid = false) := by
  unfold closeDir
  cases hdir : s.get_runtime_dir_for_user found with
  | some dir => exact ⟨.refl s uid (by simp), fun h => (by cases h), id⟩
  | none =>
    have heffect := s.remove_rundir_effect uid
    have hgone : s.exist uid = false ∨ uid ≠ 0 →
        (s.remove_rundir uid).exist uid = false := by
      intro h
      rw [remove_rundir_eq]
      split
      · exact Function.update_self ..
      · rename_i herases
        refine h.elim id fun hroot => Bool.eq_false_iff.mpr fun hexist => herases ⟨hroot, hexist⟩
    exact ⟨⟨heffect.loop, heffect.runtime_dir, heffect.others, fun h => heffect.removed h.2,
      fun h => heffect.untouched fun he => h ⟨rfl, he⟩⟩, fun _ hroot => hgone (.inr hroot),
      fun hexist => hgone (.inl hexist)⟩

end RunDirs

/-! ## Section 4: Steps -/

section
variable {RUNDIR : CString} {s s' : RunDirs} {label : RunDirLabel}

/-- What a step does to the directories, by what it does to the table. -/
inductive RunDirStep (RUNDIR : CString) (s : RunDirs) (label : RunDirLabel) (s' : RunDirs) :
    Prop where
  | same : label.label.opening = none → label.label.removal s.loop = none →
      SameTable s.loop.state s'.loop.state → s'.runtime_dir = s.runtime_dir →
      s'.exist = s.exist → s'.removals = s.removals → RunDirStep RUNDIR s label s'
  | opened : ∀ {l o uid loop}, label.label.opening = some (l, o) →
      (s.loop.state.ck_session_new_with_parameters l o).unix_user = uid →
      SameTable (s.loop.state.insertOpened l o) loop.state →
      RunDirs.finds s.loop.state uid label.found = true →
      s' = { (s.openDir RUNDIR uid label.found label.creation).1 with
        loop := loop
        runtime_dir := Function.update
          (s.openDir RUNDIR uid label.found label.creation).1.runtime_dir
          s.loop.state.next_session (s.openDir RUNDIR uid label.found label.creation).2 } →
      RunDirStep RUNDIR s label s'
  | removed : ∀ {l x uid loop}, label.label.opening = none →
      label.label.removal s.loop = some (l, x) → (s.loop.state.session x).unix_user = uid →
      SameTable (s.loop.state.without l) loop.state →
      RunDirs.finds loop.state uid label.found = true →
      s' = RunDirs.closeDir { s with loop := loop } uid label.found → RunDirStep RUNDIR s label s'

theorem run_dir_step (h : (run_dirs RUNDIR).next s label = some s') :
    RunDirStep RUNDIR s label s' := by
  obtain ⟨loop, hloop, h⟩ := Option.bind_eq_some_iff.mp h
  cases table_step hloop with
  | same hopening hremoval hsame =>
    simp only [hopening, hremoval] at h
    cases h
    exact .same hopening hremoval hsame rfl rfl rfl
  | opened hopening hsame =>
    simp only [hopening] at h
    split at h
    · rename_i hfound
      cases h
      exact .opened hopening rfl hsame hfound rfl
    · cases h
  | removed hopening hremoval hsame =>
    simp only [hopening, hremoval] at h
    split at h
    · rename_i hfound
      cases h
      exact .removed hopening hremoval rfl hsame hfound rfl
    · cases h

/-- What holds of the directories between two steps, while the law does. -/
structure RunDirsValid (RUNDIR : CString) (s : RunDirs) : Prop where
  bound : ∀ {x}, x ∈ s.loop.state.sessions.values → x < s.loop.state.next_session
  logged : ∀ {r x}, r ∈ s.removals → x ∈ r.sessions → x < s.loop.state.next_session
  dir : ∀ {x}, x ∈ s.loop.state.sessions.values → s.runtime_dir x = none ∨
    s.runtime_dir x = some (get_rundir RUNDIR (s.loop.state.session x).unix_user)
  present : ∀ {x}, x ∈ s.loop.state.sessions.values → s.runtime_dir x ≠ none →
    s.exist (s.loop.state.session x).unix_user = true
  kept : ∀ {r x}, r ∈ s.removals → x ∈ r.sessions →
    (s.loop.state.session x).unix_user = r.uid → s.runtime_dir x = none

/-- The session that is found is in the table. -/
theorem finds_some {m : State} {uid : Nat} {x : SessionRef}
    (h : RunDirs.finds m uid (some x) = true) :
    x ∈ m.sessions.values ∧ (m.session x).unix_user = uid := by
  obtain ⟨hmem, huser⟩ := Bool.and_eq_true_iff.mp h
  exact ⟨of_decide_eq_true hmem, of_decide_eq_true huser⟩

/-- No session is found if the user has none. -/
theorem finds_none {m : State} {uid : Nat} {found : Option SessionRef}
    (h : RunDirs.finds m uid found = true) (hnone : ¬ HasSession m uid) : found = none := by
  cases found with
  | none => rfl
  | some x => exact absurd ⟨x, finds_some h⟩ hnone

theorem SameTable.hasSession {m m' : State} (h : SameTable m m') (uid : Nat) :
    HasSession m' uid ↔ HasSession m uid := by
  unfold HasSession
  rw [h.sessions]
  exact exists_congr fun x => and_congr_right fun _ => by rw [h.unix_user]

namespace RunDirsValid

theorem found_dir (h : RunDirsValid RUNDIR s) {uid : Nat} {found : Option SessionRef}
    (hfound : RunDirs.finds s.loop.state uid found = true)
    (hdir : s.get_runtime_dir_for_user found ≠ none) :
    s.get_runtime_dir_for_user found = some (get_rundir RUNDIR uid) ∧ s.exist uid = true := by
  cases found with
  | none => exact absurd rfl hdir
  | some y =>
    obtain ⟨hmem, rfl⟩ := finds_some hfound
    exact ⟨(h.dir hmem).resolve_left hdir, h.present hmem hdir⟩

/-- A step that opens no session and removes none. -/
theorem same (h : RunDirsValid RUNDIR s) (hsame : SameTable s.loop.state s'.loop.state)
    (hdir : s'.runtime_dir = s.runtime_dir) (hexist : s'.exist = s.exist)
    (hremovals : s'.removals = s.removals) : RunDirsValid RUNDIR s' := by
  constructor
  case bound =>
    intro x hx
    rw [hsame.next_session]
    exact h.bound (hsame.sessions ▸ hx)
  case logged =>
    intro r x hr hx
    rw [hsame.next_session]
    exact h.logged (hremovals ▸ hr) hx
  case dir =>
    intro x hx
    rw [hsame.unix_user, hdir]
    exact h.dir (hsame.sessions ▸ hx)
  case present =>
    intro x hx hx'
    rw [hsame.unix_user, hexist]
    exact h.present (hsame.sessions ▸ hx) (hdir ▸ hx')
  case kept =>
    intro r x hr hx huser
    rw [hsame.unix_user] at huser
    rw [hdir]
    exact h.kept (hremovals ▸ hr) hx huser

/-- A session is opened, and the directory is not taken from another one. -/
theorem opened (h : RunDirsValid RUNDIR s) {l : LeaderRef} {o : Opening} {uid : Nat}
    {loop : MainLoop} (huid : (s.loop.state.ck_session_new_with_parameters l o).unix_user = uid)
    (hsame : SameTable (s.loop.state.insertOpened l o) loop.state)
    (hfound : RunDirs.finds s.loop.state uid label.found = true)
    (hok : label.creation ≠ .no_user → uid ≠ 0 → HasDir s s.loop.state uid →
      s.get_runtime_dir_for_user label.found ≠ none)
    (hs' : s' = { (s.openDir RUNDIR uid label.found label.creation).1 with
      loop := loop
      runtime_dir := Function.update
        (s.openDir RUNDIR uid label.found label.creation).1.runtime_dir
        s.loop.state.next_session (s.openDir RUNDIR uid label.found label.creation).2 }) :
    RunDirsValid RUNDIR s' := by
  obtain ⟨heffect, hcopied, hmade⟩ :=
    s.openDir_effect RUNDIR uid label.found label.creation
  have hnext : loop.state.next_session = s.loop.state.next_session + 1 := hsame.next_session
  have huser_new : (loop.state.session s.loop.state.next_session).unix_user = uid := by
    rw [hsame.unix_user, insertOpened_new_user, huid]
  have huser_old : ∀ {x}, x < s.loop.state.next_session →
      (loop.state.session x).unix_user = (s.loop.state.session x).unix_user := by
    intro x hx
    rw [hsame.unix_user, insertOpened_old (Nat.ne_of_lt hx)]
  have hdir_new : s'.runtime_dir s.loop.state.next_session =
      (s.openDir RUNDIR uid label.found label.creation).2 := by
    rw [hs']
    exact Function.update_self ..
  have hdir_old : ∀ {x}, x < s.loop.state.next_session →
      s'.runtime_dir x = s.runtime_dir x := by
    intro x hx
    rw [hs']
    show Function.update _ _ _ x = _
    rw [Function.update_of_ne (Nat.ne_of_lt hx), heffect.runtime_dir]
  have hloop : s'.loop = loop := by rw [hs']
  have hexist : s'.exist = (s.openDir RUNDIR uid label.found label.creation).1.exist := by
    rw [hs']
  have hremovals : s'.removals =
      (s.openDir RUNDIR uid label.found label.creation).1.removals := by rw [hs']
  -- A session in the table is the new one or was there before.
  have hmem : ∀ {x}, x ∈ s'.loop.state.sessions.values →
      x = s.loop.state.next_session ∨ x ∈ s.loop.state.sessions.values := by
    intro x hx
    rw [hloop, hsame.sessions] at hx
    exact mem_values_insertOpened hx
  -- the directory is only removed if nobody has it
  have hunused : s.get_runtime_dir_for_user label.found = none ∧ label.creation ≠ .no_user ∧
      s.Erases uid → ¬ HasDir s s.loop.state uid :=
    fun ⟨hnone, hno, hroot, _⟩ hdir => hok hno hroot hdir hnone
  -- A new entry in the log is about a directory that nobody had.
  have hold : ∀ {r}, r ∈ s'.removals → r ∈ s.removals ∨
      (r = ⟨uid, s.loop.state.sessions.values⟩ ∧ ¬ HasDir s s.loop.state uid) := by
    intro r hr
    rw [hremovals] at hr
    exact (heffect.removal_cases hr).imp_right fun ⟨herases, heq⟩ => ⟨heq, hunused herases⟩
  constructor
  case bound =>
    intro x hx
    rw [hloop, hnext]
    rcases hmem hx with rfl | hx
    · exact Nat.lt_succ_self _
    · exact Nat.lt_succ_of_lt (h.bound hx)
  case logged =>
    intro r x hr hx
    rw [hloop, hnext]
    rcases hold hr with hr | ⟨rfl, -⟩
    · exact Nat.lt_succ_of_lt (h.logged hr hx)
    · exact Nat.lt_succ_of_lt (h.bound hx)
  case dir =>
    intro x hx
    rw [hloop]
    rcases hmem hx with rfl | hx
    · rw [huser_new, hdir_new]
      -- The path is made for the user, or copied from the session that is found.
      by_cases hnone : s.get_runtime_dir_for_user label.found = none
      · exact (hmade hnone).imp_right And.left
      · rw [hcopied hnone]
        exact .inr (h.found_dir hfound hnone).1
    · rw [huser_old (h.bound hx), hdir_old (h.bound hx)]
      exact h.dir hx
  case present =>
    intro x hx hx'
    rw [hloop, hexist]
    rcases hmem hx with rfl | hx
    · rw [hdir_new] at hx'
      rw [huser_new]
      by_cases hnone : s.get_runtime_dir_for_user label.found = none
      · -- It has just been created, or it exists for the session that is found.
        exact ((hmade hnone).resolve_left hx').2
      · exact (heffect.untouched fun he => hnone he.1).2 (h.found_dir hfound hnone).2
    · rw [hdir_old (h.bound hx)] at hx'
      rw [huser_old (h.bound hx)]
      apply heffect.exist_kept _ (h.present hx hx')
      exact fun heq he => hunused he ⟨x, hx, heq, hx'⟩
  case kept =>
    intro r x hr hx huser
    rw [hloop] at huser
    rcases hold hr with hr | ⟨rfl, hnone⟩
    · rw [huser_old (h.logged hr hx)] at huser
      rw [hdir_old (h.logged hr hx)]
      exact h.kept hr hx huser
    · -- Otherwise it is a session with a directory of the user.
      rw [huser_old (h.bound hx)] at huser
      rw [hdir_old (h.bound hx)]
      by_contra hdir
      exact hnone ⟨x, hx, huser, hdir⟩

/-- A session is removed, and its directory is not taken from another one. -/
theorem removed (h : RunDirsValid RUNDIR s) {l : LeaderRef} {uid : Nat} {loop : MainLoop}
    (hsame : SameTable (s.loop.state.without l) loop.state)
    (hok : uid ≠ 0 → HasDir s (s.loop.state.without l) uid →
      s.get_runtime_dir_for_user label.found ≠ none)
    (hs' : s' = RunDirs.closeDir { s with loop := loop } uid label.found) :
    RunDirsValid RUNDIR s' := by
  obtain ⟨heffect, -, -⟩ := RunDirs.closeDir_effect { s with loop := loop } uid label.found
  rw [← hs'] at heffect
  have hloop : s'.loop = loop := heffect.loop
  have huser : ∀ x, (s'.loop.state.session x).unix_user = (s.loop.state.session x).unix_user := by
    intro x
    rw [hloop]
    exact hsame.unix_user x
  have hnext : s'.loop.state.next_session = s.loop.state.next_session := by
    rw [hloop]
    exact hsame.next_session
  have hvalues : s'.loop.state.sessions.values = (s.loop.state.without l).sessions.values := by
    rw [hloop, hsame.sessions]
  -- The sessions that stay were there before.
  have hmem : ∀ {x}, x ∈ s'.loop.state.sessions.values → x ∈ s.loop.state.sessions.values :=
    fun hx => mem_values_without (hvalues ▸ hx)
  have hunused : s.get_runtime_dir_for_user label.found = none ∧ s.Erases uid →
      ¬ HasDir s (s.loop.state.without l) uid :=
    fun ⟨hnone, hroot, _⟩ hdir => hok hroot hdir hnone
  have hold : ∀ {r}, r ∈ s'.removals → r ∈ s.removals ∨
      (r = ⟨uid, (s.loop.state.without l).sessions.values⟩ ∧
        ¬ HasDir s (s.loop.state.without l) uid) := by
    intro r hr
    refine (heffect.removal_cases hr).imp_right fun ⟨herases, heq⟩ => ⟨?_, hunused herases⟩
    rw [heq, ← hvalues, hloop]
  constructor
  case bound =>
    intro x hx
    rw [hnext]
    exact h.bound (hmem hx)
  case logged =>
    intro r x hr hx
    rw [hnext]
    rcases hold hr with hr | ⟨rfl, -⟩
    · exact h.logged hr hx
    · exact h.bound (mem_values_without hx)
  case dir =>
    intro x hx
    rw [huser, heffect.runtime_dir]
    exact h.dir (hmem hx)
  case present =>
    intro x hx hx'
    rw [heffect.runtime_dir] at hx'
    rw [huser]
    apply heffect.exist_kept _ (h.present (hmem hx) hx')
    exact fun heq he => hunused he ⟨x, hvalues ▸ hx, heq, hx'⟩
  case kept =>
    intro r x hr hx huser'
    rw [huser] at huser'
    rw [heffect.runtime_dir]
    rcases hold hr with hr | ⟨rfl, hnone⟩
    · exact h.kept hr hx huser'
    · by_contra hdir
      exact hnone ⟨x, hx, huser', hdir⟩

theorem step (h : RunDirsValid RUNDIR s) (hok : DirFound s label)
    (hnext : (run_dirs RUNDIR).next s label = some s') : RunDirsValid RUNDIR s' := by
  cases run_dir_step hnext with
  | same _ _ hsame hdir hexist hremovals => exact h.same hsame hdir hexist hremovals
  | opened hopening huid hsame hfound hs' =>
    exact h.opened huid hsame hfound (huid ▸ hok.opening _ _ hopening) hs'
  | removed _ hremoval huid hsame _ hs' =>
    exact h.removed hsame (huid ▸ hok.removal _ _ hremoval) hs'

/-- The law follows from the invariant, up to the last session of a user. -/
theorem law (h : RunDirsValid RUNDIR s') (hlast : label.label.removal s.loop ≠ none → ∀ uid,
    HasSession s.loop.state uid → ¬ HasSession s'.loop.state uid → s'.exist uid = false) :
    DirLaw s label s' where
  same x hx y hy heq hdx hdy := by
    rw [(h.dir hx).resolve_left hdx, (h.dir hy).resolve_left hdy, heq]
  kept r hr x hx huser := h.kept hr hx huser
  last := hlast

/-- **Step lemma**: a step that meets the condition meets the law. -/
theorem law_of_found (h : RunDirsValid RUNDIR s) (hok : DirFound s label)
    (hnext : (run_dirs RUNDIR).next s label = some s') : DirLaw s label s' := by
  refine (h.step hok hnext).law fun hremoval uid hhas hnone => ?_
  cases run_dir_step hnext with
  | same _ hnoremoval => exact absurd hnoremoval hremoval
  | opened hopening =>
    refine absurd (Label.removal_of_opening ?_ s.loop) hremoval
    rw [hopening]
    exact Option.some_ne_none _
  | @removed l x uid₀ loop _ hremoval' huid hsame hfound hs' =>
    obtain ⟨heffect, hgone, hstays⟩ :=
      RunDirs.closeDir_effect { s with loop := loop } uid₀ label.found
    rw [← hs'] at heffect hgone hstays
    have hloop : s'.loop = loop := heffect.loop
    rw [hloop] at hnone
    -- A directory that was not there is not made by a removal.
    cases hexist : s.exist uid with
    | false =>
      by_cases heq : uid = uid₀
      · rw [heq] at hexist ⊢
        exact hstays hexist
      · rw [heffect.others uid heq]
        exact hexist
    | true =>
      -- The user who loses the last session is the one of the removed session.
      obtain ⟨rfl, hroot⟩ := hok.last l x hremoval' uid hhas
        (fun hhas' => hnone ((hsame.hasSession uid).mpr hhas')) hexist
      rw [huid] at hnone hroot ⊢
      refine hgone ?_ hroot
      rw [finds_none hfound hnone]
      rfl

/-- A step that meets the law met the condition. -/
theorem found_of_law (h : RunDirsValid RUNDIR s) (hlaw : DirLaw s label s')
    (hnext : (run_dirs RUNDIR).next s label = some s') : DirFound s label := by
  cases run_dir_step hnext with
  | same hopening hremoval =>
    refine ⟨fun l o heq => ?_, fun l x heq => ?_, fun l x heq => ?_⟩
    · exact absurd (hopening.symm.trans heq) (by simp)
    · exact absurd (hremoval.symm.trans heq) (by simp)
    · exact absurd (hremoval.symm.trans heq) (by simp)
  | @opened l o uid loop hopening huid hsame hfound hs' =>
    have hopens : label.label.opening ≠ none := by
      rw [hopening]
      exact Option.some_ne_none _
    have hremoval := Label.removal_of_opening hopens s.loop
    refine ⟨fun l' o' heq hno hroot hdir hnone => ?_, fun l' x heq => ?_, fun l' x heq => ?_⟩
    · cases hopening.symm.trans heq
      rw [huid] at hroot hdir
      obtain ⟨x, hx, huser, hdx⟩ := hdir
      -- A search that finds nothing removes the directory of this session, which
      -- the law then says it does not have.
      have hlt := h.bound hx
      obtain ⟨heffect, -⟩ :=
        s.openDir_effect RUNDIR uid label.found label.creation
      have hexist : s.exist uid = true := huser ▸ h.present hx hdx
      have hremoved : ⟨uid, s.loop.state.sessions.values⟩ ∈ s'.removals := by
        rw [hs']
        exact heffect.mem_removals ⟨hnone, hno, hroot, hexist⟩
      refine hdx ?_
      have hkept := hlaw.kept _ hremoved x hx ?_
      · rw [hs'] at hkept
        dsimp only at hkept
        rwa [Function.update_of_ne (Nat.ne_of_lt hlt), heffect.runtime_dir] at hkept
      · rw [hs']
        show (loop.state.session x).unix_user = uid
        rw [hsame.unix_user, insertOpened_old (Nat.ne_of_lt hlt), huser]
    · exact absurd (hremoval.symm.trans heq) (by simp)
    · exact absurd (hremoval.symm.trans heq) (by simp)
  | @removed l x uid loop hopening hremoval huid hsame hfound hs' =>
    obtain ⟨heffect, hgone, hstays⟩ :=
      RunDirs.closeDir_effect { s with loop := loop } uid label.found
    rw [← hs'] at heffect hgone hstays
    have hloop : s'.loop = loop := heffect.loop
    refine ⟨fun l' o' heq => ?_, fun l' x' heq hroot hdir hnone => ?_,
      fun l' x' heq uid' hhas hgone' hexist => ?_⟩
    · exact absurd (hopening.symm.trans heq) (by simp)
    · cases hremoval.symm.trans heq
      rw [huid] at hroot hdir
      obtain ⟨y, hy, huser, hdy⟩ := hdir
      have hexist : s.exist uid = true := huser ▸ h.present (mem_values_without hy) hdy
      -- As above, for the sessions that are left.
      have hremoved : ⟨uid, loop.state.sessions.values⟩ ∈ s'.removals :=
        heffect.mem_removals ⟨hnone, hroot, hexist⟩
      refine hdy ?_
      have hkept := hlaw.kept _ hremoved y (by rw [hsame.sessions]; exact hy) ?_
      · rwa [heffect.runtime_dir] at hkept
      · rw [hloop, hsame.unix_user]
        exact huser
    · cases hremoval.symm.trans heq
      rw [huid]
      have hlost := hlaw.last (by rw [hremoval]; exact Option.some_ne_none _) uid' hhas (by
        rw [hloop, hsame.hasSession]
        exact hgone')
      -- The directory is gone, so this removal has taken it.
      have hkept : ¬ (uid' = uid →
          ¬ (s.get_runtime_dir_for_user label.found = none ∧ s.Erases uid)) := by
        intro hno
        rw [heffect.exist_kept hno hexist] at hlost
        cases hlost
      have heq' : uid' = uid := by
        by_contra hne
        exact hkept fun heq => absurd heq hne
      refine ⟨heq', fun hroot => ?_⟩
      exact hkept fun _ he => he.2.1 (heq' ▸ hroot)

theorem init (h : (run_dirs RUNDIR).init s) : RunDirsValid RUNDIR s := by
  obtain ⟨⟨vfd, active_num, files, hloop⟩, hdir, hremovals⟩ := h
  have hempty : ∀ {x}, x ∉ s.loop.state.sessions.values := by
    intro x hx
    rw [hloop] at hx
    cases hx
  refine ⟨fun hx => absurd hx hempty, fun hr => ?_, fun hx => absurd hx hempty,
    fun hx => absurd hx hempty, fun hr => ?_⟩
  · rw [hremovals] at hr
    cases hr
  · rw [hremovals] at hr
    cases hr

end RunDirsValid

end

/-- **Runtime directories.**  The steps of a run all meet the law exactly
    when they all find a session with a directory where one is in use, and
    clean up after the user whose last session leaves. -/
theorem runtime_dir_lifetime (RUNDIR : CString) {s : RunDirs} (h : (run_dirs RUNDIR).init s)
    (ls : List RunDirLabel) :
    (run_dirs RUNDIR).Along DirLaw s ls ↔
      (run_dirs RUNDIR).Along (fun s label _ => DirFound s label) s ls := by
  refine LTS.System.along_congr (I := RunDirsValid RUNDIR) (fun s label s' hvalid hnext => ?_)
    (fun s label s' hvalid hnext hlaw => ?_) (.init h) ls
  · exact ⟨fun hlaw => hvalid.found_of_law hlaw hnext, fun hok => hvalid.law_of_found hok hnext⟩
  · exact hvalid.step (hvalid.found_of_law hlaw hnext) hnext

/-! ## Section 5: Sessions of one user -/

def no_dirs : RunDirs := ⟨one_seat, fun _ => none, fun _ => false, []⟩

/-- A step of the main loop that finds this session, and makes a directory. -/
def finding (found : Option SessionRef) (label : Label) : RunDirLabel := ⟨label, found, .created⟩

/-- The collector of user 1000 exits, whose session opens on VT 1. -/
def opens_with (l : LeaderRef) (found : Option SessionRef) (creation : Creation) : RunDirLabel :=
  ⟨.dispatch (.job_completed l (some (text_session 1))), found, creation⟩

def asks_for_session (pid : Nat) (cookie : CString) : Label :=
  .dispatch (.open_session (cstr ":1.5") (some (1000, pid)) cookie true)

/-- The first session of the user. -/
def first_session (creation : Creation) : List RunDirLabel :=
  (seat_loaded ++ [asks_for_session 7 (cstr "c1")]).map (finding none) ++
    [opens_with 0 none creation] ++
    [Label.call, .callout_done, .call, .callout_done, .call].map (finding none)

/-- One session comes and goes, with its directory. -/
def one_session : List RunDirLabel :=
  first_session .created ++
    [Label.dispatch (.close_session (some (1000, 7)) (cstr "c1")), .callout_done, .call,
      .callout_done, .call, .call].map (finding none)

/-- The test that a session is the only one when it is opened or removed, and
    is not root's. -/
def alone (s : RunDirs) (label : RunDirLabel) : Bool :=
  match label.label.opening, label.label.removal s.loop with
  | some _, _ => s.loop.state.sessions.values.isEmpty
  | none, some (l, x) => (s.loop.state.without l).sessions.values.isEmpty &&
      s.loop.state.sessions.values.all fun y =>
        (s.loop.state.session y).unix_user = (s.loop.state.session x).unix_user &&
        (s.loop.state.session y).unix_user ≠ 0
  | none, none => true

theorem alone_sound {s : RunDirs} {label : RunDirLabel} (h : alone s label = true) :
    DirFound s label := by
  have hempty : ∀ {m : State} {uid : Nat}, m.sessions.values.isEmpty = true →
      ¬ HasDir s m uid := by
    rintro m uid hnone ⟨x, hx, -⟩
    rw [List.isEmpty_iff.mp hnone] at hx
    cases hx
  unfold alone at h
  have hlast : ∀ {l x}, label.label.removal s.loop = some (l, x) →
      (s.loop.state.without l).sessions.values.isEmpty = true ∧
      ∀ y ∈ s.loop.state.sessions.values, (s.loop.state.session y).unix_user =
        (s.loop.state.session x).unix_user ∧ (s.loop.state.session y).unix_user ≠ 0 := by
    intro l x hremoval
    cases hopening : label.label.opening with
    | some r =>
      have hnone := Label.removal_of_opening (hopening ▸ Option.some_ne_none r) s.loop
      exact absurd (hnone.symm.trans hremoval) (by simp)
    | none =>
      simp only [hopening, hremoval, Bool.and_eq_true, List.all_eq_true, decide_eq_true_eq] at h
      exact h
  refine ⟨fun l o hopening _ _ hdir => ?_, fun l x hremoval _ hdir => ?_,
    fun l x hremoval uid ⟨y, hy, huser⟩ _ _ => ?_⟩
  · rw [hopening] at h
    exact absurd hdir (hempty h)
  · exact absurd hdir (hempty (hlast hremoval).1)
  · rw [← huser]
    exact (hlast hremoval).2 y hy

theorem no_dirs_init (RUNDIR : CString) : (run_dirs RUNDIR).init no_dirs :=
  ⟨⟨true, 1, [⟨true, true⟩], rfl⟩, fun _ => rfl, rfl⟩

/-- The directory comes with the session, and goes with it. -/
theorem runtime_dir_lifetime_alone :
    ∃ s, (run_dirs (cstr "/run")).runBy alone no_dirs one_session = some s ∧
      s.removals.map DirRemoval.uid = [1000] ∧
      (run_dirs (cstr "/run")).Along DirLaw no_dirs one_session := by
  have hrun : ((run_dirs (cstr "/run")).runBy alone no_dirs one_session).map
      (fun s => s.removals.map DirRemoval.uid) = some [1000] := by
    decide +kernel
  obtain ⟨s, hs, hremovals⟩ := Option.map_eq_some_iff.mp hrun
  refine ⟨s, hs, hremovals, (runtime_dir_lifetime _ (no_dirs_init _) _).mpr ?_⟩
  exact LTS.System.along_of_runBy (fun s label _ => alone_sound) hs

/-- The first session gets no directory, the second one does, the third one
    shares it. -/
def three_sessions : List RunDirLabel :=
  first_session .mkdir_fails ++ [finding none (asks_for_session 8 (cstr "c2")),
      opens_with 1 (some 0) .created] ++
    [Label.call, .callout_done, .call, .call, asks_for_session 9 (cstr "c3")].map (finding none) ++
    [opens_with 2 (some 1) .created] ++
    [Label.call, .callout_done, .call, .call,
      .dispatch (.close_session (some (1000, 9)) (cstr "c3")), .callout_done, .call,
      .call].map (finding none)

/-- When the third one is closed, the first one is found, and the directory of
    the second one is removed. -/
theorem dir_removed_in_use :
    ∃ s s', (run_dirs (cstr "/run")).run no_dirs three_sessions = some s ∧
      (run_dirs (cstr "/run")).next s (finding (some 0) .call) = some s' ∧
      (1 : SessionRef) ∈ s'.loop.state.sessions.values ∧
      s'.runtime_dir 1 = some (cstr "/run/user/1000") ∧ s'.exist 1000 = false ∧
      ¬ (run_dirs (cstr "/run")).Along DirLaw no_dirs
        (three_sessions ++ [finding (some 0) .call]) := by
  have hrun : ((run_dirs (cstr "/run")).run no_dirs three_sessions).bind
      (fun s => ((run_dirs (cstr "/run")).next s (finding (some 0) .call)).map fun s' =>
        (s'.loop.state.sessions.values, s'.runtime_dir 1, s'.exist 1000,
          s'.removals.map fun r => (r.uid, r.sessions), (s'.loop.state.session 1).unix_user)) =
      some ([1, 0], some (cstr "/run/user/1000"), false, [(1000, [1, 0])], 1000) := by
    rfl
  obtain ⟨s, hs, hnext⟩ := Option.bind_eq_some_iff.mp hrun
  obtain ⟨s', hs', heq⟩ := Option.map_eq_some_iff.mp hnext
  simp only [Prod.mk.injEq] at heq
  obtain ⟨hvalues, hdir, hexist, hremovals, huser⟩ := heq
  refine ⟨s, s', hs, hs', by rw [hvalues]; simp, hdir, hexist, fun hlaw => ?_⟩
  obtain ⟨r, hr, hlogged⟩ := List.map_eq_singleton_iff.mp hremovals
  obtain ⟨huid, hsessions⟩ := Prod.mk.inj hlogged
  have hkept := (hlaw.last hs hs').kept r (by rw [hr]; simp) 1 (by rw [hsessions]; simp)
    (huser.trans huid.symm)
  rw [hdir] at hkept
  cases hkept

end CkManager
