import ConsoleKit.Device.Model
import ConsoleKit.Manager.Removal

/-! # Activation and the devices

    `ck_seat_activate_session` lets the active session know that it is about
    to change, which pauses its devices, and then asks for the VT of the
    other session.

    This module provides:
    - `Equipped`: the manager with the devices of its sessions,
    - `activate_session_manager`: the manager's part is that of
      `State.ck_seat_activate_session`,
    - `failed_activation_atomic`: when a request that fails has changed
      nothing.
-/

namespace CkManager

open Libc

/-! ## Section 1: The devices of the sessions -/

/-- The manager, and what each session knows of its controller and devices. -/
structure Equipped where
  manager : State
  device : SessionRef → Device.CkSession
  /-- The two know the same flag of a session. -/
  active : ∀ x, (device x).active = (manager.session x).active

namespace Equipped

section
variable (k : Device.Kernel) (e : Equipped)

def ck_session_set_active (x : SessionRef) (active force : Bool) : Equipped where
  manager := e.manager.setSession x { e.manager.session x with
    active := ((e.device x).ck_session_set_active k active force).1.active }
  device := Function.update e.device x ((e.device x).ck_session_set_active k active force).1
  active y := by
    by_cases h : y = x
    · subst h
      simp [State.setSession]
    · simp [State.setSession, h, e.active y]

/-- Let the old session know it's about to change. -/
def deactivate_other (d : SeatRef) (x : SessionRef) : Equipped :=
  if (e.manager.seat d).active_session = some x then e
  else (e.manager.seat d).active_session.elim e fun old => e.ck_session_set_active k old false true

/-- `ck_seat_activate_session` for a seat that exists; the error if any. -/
def ck_seat_activate_session (d : SeatRef) (session : Option SessionRef) (switches : Bool) :
    Equipped × Option State.CkSeatError :=
  if (e.manager.seat d).kind ≠ .STATIC then (e, some .NOT_SUPPORTED)
  else
    match session with
    | none => (e, some .FAILED)
    | some x =>
      match e.manager.console_num x with
      | none => (e, some .FAILED)
      | some num =>
        let e := e.deactivate_other k d x
        match e.manager.ck_vt_monitor_set_active num switches with
        | none => (e, none)
        -- ensure the session knows it's active
        | some .ALREADY_ACTIVE => (e.ck_session_set_active k x true true, none)
        | some _ => (e, some .FAILED)

end

/-! ## Section 2: The manager's part -/

section
variable {k : Device.Kernel} {e : Equipped}

/-- With force the flag follows at once, as in the manager. -/
theorem set_active_manager (x : SessionRef) (active : Bool) :
    (e.ck_session_set_active k x active true).manager =
      e.manager.ck_session_set_active x active := by
  unfold ck_session_set_active State.ck_session_set_active
  dsimp only
  rw [Device.CkSession.set_active_force]
  split
  · rename_i h
    unfold State.setSession
    rw [← h, Function.update_eq_self]
  · rfl

theorem deactivate_other_manager (d : SeatRef) (x : SessionRef) :
    (e.deactivate_other k d x).manager = e.manager.deactivate_other d x := by
  unfold deactivate_other State.deactivate_other
  split
  · rfl
  · cases (e.manager.seat d).active_session with
    | none => rfl
    | some old => exact set_active_manager old false

/-- **Refinement**: the devices do not change what the manager does. -/
theorem activate_session_manager (d : SeatRef) (session : Option SessionRef) (switches : Bool) :
    ((e.ck_seat_activate_session k d session switches).1.manager,
      (e.ck_seat_activate_session k d session switches).2) =
      e.manager.ck_seat_activate_session d session switches := by
  unfold ck_seat_activate_session State.ck_seat_activate_session
  split
  · rfl
  · cases session with
    | none => rfl
    | some x =>
      dsimp only
      cases e.manager.console_num x with
      | none => rfl
      | some num =>
        dsimp only
        rw [← deactivate_other_manager (k := k)]
        cases (e.deactivate_other k d x).manager.ck_vt_monitor_set_active num switches with
        | none => rfl
        | some error =>
          cases error with
          | ALREADY_ACTIVE =>
            dsimp only
            rw [set_active_manager]
          | GENERAL | NO_CONSOLE => rfl

end

/-! ## Section 3: What a failed request has changed -/

/-- The flags of the sessions, their devices and the active sessions of the
    seats are the same. -/
structure Unchanged (e e' : Equipped) : Prop where
  active : ∀ x, (e'.manager.session x).active = (e.manager.session x).active
  devices : ∀ x, (e'.device x).devices = (e.device x).devices
  active_session : ∀ d, (e'.manager.seat d).active_session = (e.manager.seat d).active_session

/-- Another session is active when the VT is asked for, and the VT cannot be
    switched to. -/
def Interrupts (m : State) (d : SeatRef) (session : Option SessionRef) (switches : Bool) : Prop :=
  (m.seat d).kind = .STATIC ∧
  ∃ x num old, session = some x ∧ m.console_num x = some num ∧
    num ≠ m.vt_monitor.active_num ∧ (m.vt_monitor.vfd = false ∨ switches = false) ∧
    (m.seat d).active_session = some old ∧ old ≠ x ∧ (m.session old).active = true

section
variable {k : Device.Kernel} {e : Equipped}

theorem Unchanged.refl (e : Equipped) : e.Unchanged e :=
  ⟨fun _ => rfl, fun _ => rfl, fun _ => rfl⟩

/-- A session that is not active is not changed by being deactivated. -/
theorem set_active_false_unchanged {old : SessionRef} (h : (e.manager.session old).active = false) :
    e.Unchanged (e.ck_session_set_active k old false true) := by
  have hsame : (e.device old).ck_session_set_active k false true = (e.device old, []) := by
    unfold Device.CkSession.ck_session_set_active
    rw [if_pos ((e.active old).trans h)]
  constructor
  · intro x
    rw [set_active_manager]
    unfold State.ck_session_set_active
    rw [if_pos h]
  · intro x
    show (Function.update e.device old _ x).devices = _
    rw [hsame, Function.update_eq_self]
  · intro d
    rfl

/-- Whatever the session asked for, another active session is paused. -/
theorem deactivate_other_unchanged_iff {d : SeatRef} {x : SessionRef} :
    e.Unchanged (e.deactivate_other k d x) ↔
      ¬ ∃ old, (e.manager.seat d).active_session = some old ∧ old ≠ x ∧
        (e.manager.session old).active = true := by
  unfold deactivate_other
  split
  · rename_i hself
    refine iff_of_true (.refl e) ?_
    rintro ⟨old, hold, hne, -⟩
    exact hne (Option.some.inj (hold.symm.trans hself))
  · rename_i hother
    cases hsession : (e.manager.seat d).active_session with
    | none => exact iff_of_true (.refl e) (by simp)
    | some old =>
      have hne : old ≠ x := by
        intro heq
        rw [hsession, heq] at hother
        exact hother rfl
      constructor
      · rintro h ⟨old', heq, -, hactive⟩
        obtain rfl := Option.some.inj heq
        -- the flag of the old session has been cleared
        have hflag := h.active old
        simp only [Option.elim_some, set_active_manager] at hflag
        simp [State.ck_session_set_active, State.setSession, hactive] at hflag
      · intro hnone
        apply set_active_false_unchanged
        exact eq_false_of_ne_true fun hactive => hnone ⟨old, rfl, hne, hactive⟩

theorem deactivate_other_vt_monitor (d : SeatRef) (x : SessionRef) :
    (e.deactivate_other k d x).manager.vt_monitor = e.manager.vt_monitor := by
  unfold deactivate_other
  split
  · rfl
  · cases (e.manager.seat d).active_session <;> rfl

/-- When the VT cannot be switched to. -/
theorem set_active_fails_iff {m : State} {num : Nat} {switches : Bool} :
    (∃ error, m.ck_vt_monitor_set_active num switches = some error ∧ error ≠ .ALREADY_ACTIVE) ↔
      num ≠ m.vt_monitor.active_num ∧ (m.vt_monitor.vfd = false ∨ switches = false) := by
  unfold State.ck_vt_monitor_set_active
  by_cases hnum : num = m.vt_monitor.active_num
  · rw [if_pos hnum]
    simp [hnum]
  · rw [if_neg hnum]
    cases m.vt_monitor.vfd <;> cases switches <;> simp [hnum]

end

/-- **Atomicity.**  A request that fails has changed nothing, unless another
    session was active and the VT could not be switched to. -/
theorem failed_activation_atomic (k : Device.Kernel) (e : Equipped) (d : SeatRef)
    (session : Option SessionRef) (switches : Bool) :
    ((e.ck_seat_activate_session k d session switches).2 ≠ none →
      e.Unchanged (e.ck_seat_activate_session k d session switches).1) ↔
    ¬ Interrupts e.manager d session switches := by
  unfold ck_seat_activate_session
  by_cases hkind : (e.manager.seat d).kind = .STATIC
  · rw [if_neg (not_not_intro hkind)]
    cases session with
    | none =>
      refine iff_of_true (fun _ => .refl e) ?_
      rintro ⟨-, x, _, _, hx, -⟩
      cases hx
    | some x =>
      dsimp only
      cases hnum : e.manager.console_num x with
      | none =>
        refine iff_of_true (fun _ => .refl e) ?_
        rintro ⟨-, y, num, _, hy, hnum', -⟩
        obtain rfl := Option.some.inj hy
        rw [hnum] at hnum'
        cases hnum'
      | some num =>
        have hvt := deactivate_other_vt_monitor (k := k) (e := e) d x
        have hfails := @set_active_fails_iff (e.deactivate_other k d x).manager num switches
        rw [hvt] at hfails
        -- An interruption is a switch that fails after the active session was
        -- deactivated.
        have hinterrupts : Interrupts e.manager d (some x) switches ↔
            (num ≠ e.manager.vt_monitor.active_num ∧
              (e.manager.vt_monitor.vfd = false ∨ switches = false)) ∧
            ∃ old, (e.manager.seat d).active_session = some old ∧ old ≠ x ∧
              (e.manager.session old).active = true := by
          constructor
          · rintro ⟨-, y, num', old, hy, hnum', hne, hfail, hold⟩
            obtain rfl := Option.some.inj hy
            obtain rfl := Option.some.inj (hnum.symm.trans hnum')
            exact ⟨⟨hne, hfail⟩, old, hold⟩
          · rintro ⟨⟨hne, hfail⟩, old, hold⟩
            exact ⟨hkind, x, num, old, rfl, hnum, hne, hfail, hold⟩
        rw [hinterrupts, ← hfails, not_and, ← deactivate_other_unchanged_iff (k := k)]
        dsimp only
        cases hset : (e.deactivate_other k d x).manager.ck_vt_monitor_set_active num switches with
        | none => simp
        | some error =>
          cases error with
          | ALREADY_ACTIVE => simp
          | GENERAL | NO_CONSOLE => simp
  · rw [if_pos hkind]
    exact iff_of_true (fun _ => .refl e) fun h => hkind h.1

/-- Each session of the manager has a controller, which has taken the devices. -/
def equip (manager : State) (devices : List Device.CkDevice) : Equipped where
  manager := manager
  device x := { Device.ck_session_init (manager.session x).unix_user (manager.session x).vtnr with
    active := (manager.session x).active
    session_controller := some (cstr ":1.9")
    devices := devices }
  active _ := rfl

/-- The answers of the kernel do not matter when devices are paused. -/
def no_kernel : Device.Kernel where
  udevice _ _ := none
  g_open _ _ _ := none
  drm_set_master _ := false
  closed _ := false

/-- A graphics card that is active. -/
def active_card : Device.CkDevice := ⟨226, 0, .DEVICE_DRM, some 7, true, true⟩

/-- The VT of the second session cannot be switched to: the first session is
    not active any more, and its device is paused. -/
theorem failed_activation_interrupts :
    ∃ c, main_loop.run one_seat (seat_loaded ++ session_opens (cstr ":1.5") (cstr "c1") 0 ++
        [.dispatch (.open_session (cstr ":1.6") (some (1000, 8)) (cstr "c2") true),
          .dispatch (.job_completed 1 (some (text_session 2))), .call, .callout_done, .call,
          .call]) = some c ∧
      main_loop.Reachable c ∧ c.Quiescent ∧
      (c.state.session 0).active = true ∧
      ((equip c.state [active_card]).ck_seat_activate_session no_kernel 0 (some 1) false).2 =
        some .FAILED ∧
      ¬ (equip c.state [active_card]).Unchanged
        ((equip c.state [active_card]).ck_seat_activate_session no_kernel 0 (some 1) false).1 := by
  have hrun : (main_loop.run one_seat (seat_loaded ++
      session_opens (cstr ":1.5") (cstr "c1") 0 ++
        [.dispatch (.open_session (cstr ":1.6") (some (1000, 8)) (cstr "c2") true),
          .dispatch (.job_completed 1 (some (text_session 2))), .call, .callout_done, .call,
          .call])).map (fun c => (c.stack, (c.state.session 0).active,
        ((equip c.state [active_card]).ck_seat_activate_session no_kernel 0 (some 1) false).2,
        (((equip c.state [active_card]).ck_seat_activate_session no_kernel 0 (some 1)
          false).1.manager.session 0).active)) = some ([], true, some .FAILED, false) := by
    decide +kernel
  obtain ⟨c, hc, heq⟩ := Option.map_eq_some_iff.mp hrun
  simp only [Prod.mk.injEq] at heq
  obtain ⟨hstack, hactive, herror, hpaused⟩ := heq
  refine ⟨c, hc, LTS.System.Reachable.run (one_seat_reachable _) hc, hstack, hactive, herror,
    fun hunchanged => ?_⟩
  have hflag := hunchanged.active 0
  rw [hpaused] at hflag
  exact absurd (hflag.trans hactive) (by decide)

end Equipped

end CkManager
