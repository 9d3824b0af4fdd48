import ConsoleKit.Inhibit.Counters
import ConsoleKit.SystemAction.Protocol

/-! # Block locks and the authorization

    A method tests for block locks when it is called, its continuation does
    not test again when the authorization arrives.  No action is accepted
    against a block lock on its event, except one whose lock was taken
    while polkit was asked.
-/

namespace SystemAction

open Inhibit

/-! ## Section 1: The property and the steps that keep it -/

/-- An action accepted by this step finds no block lock on its event held. -/
def respectsBlocks (m : Manager) (_ : ActionLabel) (m' : Manager) : Prop :=
  ∀ a, m'.accepted = m.accepted ++ [a] → a.lockHeld .block m.daemon = false

/-- When polkit authorizes a call, an action is already pending or every
    block lock on the event that was granted after the call is released. -/
def noLateBlock (m : Manager) : ActionLabel → Prop
  | .auth_ready index .authorized =>
      ∀ data, m.pending[index]? = some data →
        m.daemon.listener.system_action_idle_id ≠ 0 ∨
        ∀ r ∈ m.daemon.held, data.since ≤ r →
          ¬ ((m.daemon.object r).mode = .block ∧
            (m.daemon.object r).inhibitors data.callback.event = true)
  | _ => True

/-! ## Section 2: The waiting calls -/

/-- No block lock that is older than a waiting call stands against it. -/
def OldLocksAllow (m : Manager) : Prop :=
  ∀ data ∈ m.pending, data.since ≤ m.daemon.next_object ∧
    ∀ r ∈ m.daemon.held, r < data.since →
      ¬ ((m.daemon.object r).mode = .block ∧
        (m.daemon.object r).inhibitors data.callback.event = true)

section steps
variable {spawn : Nat → String → Option String} {backend : AuthBackend}

theorem OldLocksAllow.subset {m m' : Manager} (h : OldLocksAllow m)
    (hpending : ∀ data ∈ m'.pending, data ∈ m.pending)
    (hnext : m'.daemon.next_object = m.daemon.next_object)
    (hheld : m'.daemon.held = m.daemon.held) (hobject : m'.daemon.object = m.daemon.object) :
    OldLocksAllow m' := by
  intro data hdata
  rw [hnext, hheld, hobject]
  exact h data (hpending data hdata)

theorem OldLocksAllow.callback {m : Manager} (h : OldLocksAllow m) (a : AuthorizedCallback)
    (context : Context) : OldLocksAllow (m.callback a context) := by
  refine h.subset (fun _ hd => hd) ?_ ?_ ?_ <;> rw [Manager.callback_daemon]

theorem OldLocksAllow.step {m m' : Manager} {l : ActionLabel} (h : OldLocksAllow m)
    (hv : ManagerValid m) (hstep : ActionStep spawn m l m') : OldLocksAllow m' := by
  cases hstep with
  | blocked method call => exact h.subset (fun _ hd => hd) rfl rfl rfl
  | denied index result context code message hresult =>
    exact h.subset (fun _ hd => List.mem_of_mem_eraseIdx hd) rfl rfl rfl
  | ignored method call => exact h
  | queued method call data hcallback hsince hopen =>
    intro d hd
    rcases List.mem_append.mp hd with hd | hd
    · exact h d hd
    · rw [List.mem_singleton.mp hd, hsince, hcallback]
      refine ⟨Nat.le_refl _, fun r hr _ hblock => ?_⟩
      have hstatus := lockHeld_status hv.locks (lockHeld_iff.mpr ⟨r, hr, hblock⟩)
      rw [hopen] at hstatus
      exact Bool.noConfusion hstatus
  | called method call hopen => exact h.callback _ _
  | authorized index data hdata =>
    exact OldLocksAllow.callback (m := { m with pending := m.pending.eraseIdx index })
      (h.subset (fun _ hd => List.mem_of_mem_eraseIdx hd) rfl rfl rfl) _ _
  | inhibit l w hnext =>
    obtain ⟨hle, hheld⟩ := inhibit_next_held hv.locks hnext
    intro d hd
    obtain ⟨hsince, hold⟩ := h d hd
    refine ⟨Nat.le_trans hsince hle, fun r hr hlt hblock => ?_⟩
    rcases hheld r hr with ⟨hr', hobj⟩ | hnew
    · rw [hobj] at hblock
      exact hold r hr' hlt hblock
    · exact absurd hlt (Nat.not_lt.mpr (Nat.le_trans hsince hnew))
  | timeout id l hnext => exact h.subset (fun _ hd => hd) rfl rfl rfl

/-! ## Section 3: Steps and runs -/

/-- A step that accepts nothing respects the locks. -/
theorem respectsBlocks_of_accepted {m m' : Manager} {l : ActionLabel}
    (h : m'.accepted = m.accepted) : respectsBlocks m l m' := by
  intro a ha
  rw [h] at ha
  simp at ha

theorem respectsBlocks_step {m m' : Manager} {l : ActionLabel} (hv : ManagerValid m)
    (h : OldLocksAllow m) (hstep : ActionStep spawn m l m') :
    respectsBlocks m l m' ↔ noLateBlock m l := by
  cases hstep with
  | blocked method call => exact iff_of_true (respectsBlocks_of_accepted rfl) trivial
  | denied index result context code message hresult =>
    refine iff_of_true (respectsBlocks_of_accepted rfl) ?_
    cases result with
    | authorized => exact absurd rfl hresult
    | _ => trivial
  | ignored method call => exact iff_of_true (respectsBlocks_of_accepted rfl) trivial
  | queued method call data hcallback hsince hopen =>
    exact iff_of_true (respectsBlocks_of_accepted rfl) trivial
  | called method call hopen =>
    refine iff_of_true (fun a ha => ?_) trivial
    rw [Manager.callback_accepted] at ha
    split at ha
    · obtain rfl : method.callback = a := by simpa using ha
      rw [Bool.eq_false_iff]
      intro hheld
      have hstatus := lockHeld_status hv.locks hheld
      rw [hopen] at hstatus
      exact Bool.noConfusion hstatus
    · simp at ha
  | authorized index data hdata =>
    have hmem := List.mem_of_getElem? hdata
    have hacc : (Manager.callback { m with pending := m.pending.eraseIdx index } data.callback
        data.context).accepted = if m.daemon.listener.system_action_idle_id = 0 then
          m.accepted ++ [data.callback] else m.accepted := Manager.callback_accepted _ _ _
    by_cases hid : m.daemon.listener.system_action_idle_id = 0
    · rw [if_pos hid] at hacc
      constructor
      · intro hrespects d hd
        right
        intro r hr _ hblock
        rw [hdata] at hd
        cases hd
        have hopen := hrespects data.callback hacc
        rw [lockHeld_iff.mpr ⟨r, hr, hblock⟩] at hopen
        exact Bool.noConfusion hopen
      · intro hlate a ha
        rw [hacc] at ha
        obtain rfl : data.callback = a := by simpa using ha
        rw [Bool.eq_false_iff]
        intro hheld
        obtain ⟨r, hr, hblock⟩ := lockHeld_iff.mp hheld
        rcases hlate data hdata with hbusy | hnew
        · exact hbusy hid
        · -- an old lock cannot block, by the test made at the call
          by_cases hlt : r < data.since
          · exact (h data hmem).2 r hr hlt hblock
          · exact hnew r hr (Nat.le_of_not_lt hlt) hblock
    · rw [if_neg hid] at hacc
      exact iff_of_true (respectsBlocks_of_accepted hacc) fun _ _ => .inl hid
  | inhibit l w hnext => exact iff_of_true (respectsBlocks_of_accepted rfl) trivial
  | timeout id l hnext => exact iff_of_true (respectsBlocks_of_accepted rfl) trivial

theorem block_locks_respected_iff (spawn : Nat → String → Option String)
    (backend : AuthBackend) :
    ∀ m ls, (action_system spawn backend).init m →
      ((action_system spawn backend).Along respectsBlocks m ls ↔
        (action_system spawn backend).Along (fun m l _ => noLateBlock m l) m ls) := by
  intro m ls hi
  obtain rfl : m = manager_init := hi
  refine LTS.System.along_congr (I := fun m => ManagerValid m ∧ OldLocksAllow m)
    (fun m l m' hinv hn => respectsBlocks_step hinv.1 hinv.2 (action_next_step hn))
    (fun m l m' hinv hn _ => ?_) ⟨init_managerValid, fun _ hd => by cases hd⟩ ls
  have hstep := action_next_step hn
  exact ⟨hinv.1.step hstep, hinv.2.step hinv.1 hstep⟩

/-- Without polkit no call ever waits. -/
theorem pending_eq_nil (hbackend : backend ≠ .polkit) {m : Manager}
    (h : (action_system spawn backend).Reachable m) : m.pending = [] := by
  refine LTS.System.Reachable.invariant (I := fun m => m.pending = [])
    (fun _ hi => by cases hi; rfl) (fun m l m' hp hn => ?_) h
  cases l with
  | call method call =>
    obtain ⟨interactivity, action, heq⟩ := method.handler_eq backend m call
    obtain rfl : method.handler backend m call = m' := Option.some.inj hn
    rw [heq]
    split
    · exact hp
    · cases backend with
      | polkit => exact absurd rfl hbackend
      | rbac =>
        unfold check_system_action
        dsimp only
        split <;> exact hp
      | none => exact hp
  | auth_ready index result =>
    change (m.pending[index]?).map _ = some m' at hn
    simp [hp] at hn
  | inhibit l =>
    obtain ⟨w, _, rfl⟩ := Option.map_eq_some_iff.mp hn
    exact hp
  | timeout id =>
    obtain ⟨l, _, rfl⟩ := Option.map_eq_some_iff.mp hn
    exact hp

/-- A daemon that does not ask polkit respects block locks along every run. -/
theorem block_locks_respected_sync (hbackend : backend ≠ .polkit) (ls : List ActionLabel) :
    (action_system spawn backend).Along respectsBlocks manager_init ls := by
  rw [block_locks_respected_iff _ _ _ _ rfl]
  refine LTS.System.Reachable.along (fun m l m' hm _ => ?_) (.init rfl) ls
  have hp := pending_eq_nil hbackend hm
  cases l with
  | auth_ready index result =>
    cases result with
    | authorized =>
      intro data hdata
      simp [hp] at hdata
    | _ => trivial
  | _ => trivial

/-- **Block locks.**  Along every run, the accepted actions find no block
    lock on their event held exactly when no lock taken while polkit was
    asked is still held at its answer. -/
theorem block_locks_respected (spawn : Nat → String → Option String) (backend : AuthBackend)
    (ls : List ActionLabel) :
    (action_system spawn backend).Along respectsBlocks manager_init ls ↔
      (action_system spawn backend).Along (fun m l _ => noLateBlock m l) manager_init ls :=
  block_locks_respected_iff spawn backend manager_init ls rfl

end steps

/-! ## Section 4: A lock taken while polkit is asked -/

/-- The call, the lock and the answer of polkit. -/
theorem block_locks_fail_late_lock :
    ¬ ∀ m l m', (action_system (fun _ _ => none) .polkit).Reachable m →
      (action_system (fun _ _ => none) .polkit).next m l = some m' → respectsBlocks m l m' := by
  intro h
  have hrun : ((action_system (fun _ _ => none) .polkit).run manager_init
      [.call .suspend (soloCall 7),
        .inhibit (.create_lock (lockRequest "sleep" "block") (allSucceed "a"))]).map
      (fun m => (m.accepted, AuthorizedCallback.do_suspend.lockHeld .block m.daemon,
        (action_next (fun _ _ => none) .polkit m (.auth_ready 0 .authorized)).map
          fun m' => m'.accepted)) =
      some ([], true, some [.do_suspend]) := by decide
  obtain ⟨m, hm, hval⟩ := Option.map_eq_some_iff.mp hrun
  simp only [Prod.mk.injEq] at hval
  obtain ⟨hacc, hheld, hnext⟩ := hval
  obtain ⟨m', hm', hacc'⟩ := Option.map_eq_some_iff.mp hnext
  have hreach := LTS.System.Reachable.run (.init rfl) hm
  have hopen := h m (.auth_ready 0 .authorized) m' hreach hm' .do_suspend (by rw [hacc, hacc']; rfl)
  rw [hheld] at hopen
  exact Bool.noConfusion hopen

end SystemAction
