import ConsoleKit.Device.Control
import ConsoleKit.Device.Pause

/-! # Who has taken the devices of a session

    The list of devices belongs to the controller: it is given up when the
    controller changes, and no call of another client touches it.

    This module provides:
    - `Changes`: what a step can do to the list,
    - `dispatch_changes`: every step is one of these,
    - `Owned`: a session with the client that took each device,
    - `device_ownership`: the invariant of all runs.
-/

namespace Device

open Libc

/-- The client whose call the event is. -/
def Event.sender : Event → Option CString
  | .take_control sender .. | .release_control sender | .take_device _ sender .. |
    .release_device _ sender .. | .pause_device_complete _ sender .. => some sender
  | _ => none

namespace CkSession

/-! ## Section 1: What a step does to the list -/

/-- The call looks up this device. -/
def LooksUp (k : Kernel) (sender : CString) (major minor : Nat) (event : Event) : Prop :=
  event = .take_device k sender major minor ∨ event = .release_device k sender major minor ∨
    event = .pause_device_complete k sender major minor

/-- The event pauses the devices at once. -/
def Pauses : Event → Prop
  | .set_active _ active force => active = false ∧ force = true
  | .pause_timeout | .vt_leave => True
  | _ => False

/-- What a step from `s` to `s'` does to the devices. -/
inductive Changes (s s' : CkSession) : Event → Prop where
  /-- The list is as it was. -/
  | kept {event} : s'.session_controller = s.session_controller → s'.devices = s.devices →
      Changes s s' event
  /-- A change of the controller gives up all devices. -/
  | lost {event} : s.LosesController event → s'.devices = [] → Changes s s' event
  /-- The device that is looked up may be dropped, nothing else is done. -/
  | dropped {event k sender major minor} : LooksUp k sender major minor event →
      s.session_controller = some sender → s'.session_controller = s.session_controller →
      s'.devices = (s.ck_session_get_device k major minor).2.devices → Changes s s' event
  | created {k sender major minor d} : s.session_controller = some sender →
      s'.session_controller = s.session_controller →
      (s.ck_session_get_device k major minor).1 = none →
      CkDevice.ck_device_new k major minor s.active = some d →
      s'.devices = { d with taken := d.fd.isSome } ::
        (s.ck_session_get_device k major minor).2.devices →
      Changes s s' (.take_device k sender major minor)
  | released {k sender major minor} : s.session_controller = some sender →
      s'.session_controller = s.session_controller →
      s'.devices = s.devices.eraseP (fun d => d.compare major minor) →
      Changes s s' (.release_device k sender major minor)
  | acknowledged {k sender major minor} : s.session_controller = some sender →
      s'.session_controller = s.session_controller →
      s'.devices = (s.updateDevice major minor .pause).devices →
      Changes s s' (.pause_device_complete k sender major minor)
  | paused {event} : Pauses event → s'.session_controller = s.session_controller →
      s'.devices = s.devices.map .pause → Changes s s' event
  | resumed {k force} : s.active = false → s'.active = true →
      s'.session_controller = s.session_controller →
      s'.devices = s.devices.map (fun d => d.ck_device_set_active k true) →
      Changes s s' (.set_active k true force)

section
variable {s : CkSession} (k : Kernel) (sender : CString) (major minor : Nat)

theorem take_control_changes (uid : Option Nat) (force vt_signals : Bool) :
    s.Changes (s.dbus_take_control sender uid force vt_signals).1
      (.take_control sender uid force vt_signals) := by
  cases uid with
  | none => exact .kept rfl rfl
  | some uid =>
    simp only [dbus_take_control, ck_device_is_server_managed, Bool.not_true,
      Bool.false_eq_true, if_false]
    by_cases hself : s.session_controller = some sender
    · rw [if_pos hself]
      exact .kept rfl rfl
    · rw [if_neg hself]
      by_cases hnew : s.session_controller = none ∨ (force = true ∧ uid = 0)
      · rw [if_pos hnew]
        exact .lost ⟨hself, hnew⟩ rfl
      · rw [if_neg hnew]
        split <;> exact .kept rfl rfl

/-- The answer to a call of the controller for a device that is not found. -/
theorem take_device_not_found (hdistinct : Distinct s.devices)
    (hsender : s.session_controller = some sender)
    (hget : (s.ck_session_get_device k major minor).1 = none) :
    s.dbus_take_device k sender major minor =
      let t := (s.ck_session_get_device k major minor).2
      match CkDevice.ck_device_new k major minor s.active with
      | none => (t, [.throw_error sender .NOT_SUPPORTED "Failed to create device"])
      | some d =>
        let t := { t with devices := { d with taken := d.fd.isSome } :: t.devices }
        match d.fd with
        | none => (t, [.throw_error sender .NOT_SUPPORTED
            "Failed to get file descriptor for device"])
        | some fd => (t, [.complete_take_device sender major minor fd s.active]) := by
  cases heq : s.ck_session_get_device k major minor with
  | mk d t =>
    obtain rfl : d = none := by rw [← hget, heq]
    obtain ⟨devices, rfl, -, hnone⟩ := (get_device_cases hdistinct heq).1
    unfold dbus_take_device
    rw [if_neg (not_not_intro hsender), heq]
    dsimp only
    rw [create_device_cases (s := { s with devices := devices }) (hnone rfl)]
    cases hnew : CkDevice.ck_device_new k major minor s.active with
    | none => rfl
    | some d =>
      obtain ⟨rfl, rfl, -, htaken⟩ := new_device hnew
      dsimp only
      cases hfd : d.fd with
      | none =>
        have hrecord : { d with taken := d.fd.isSome } = d := by
          cases d
          simp_all
        rw [← hfd, hrecord, hfd]
      | some fd => simp [updateDevice, List.findIdx_cons, CkDevice.compare, hfd]

theorem take_device_created (hdistinct : Distinct s.devices)
    (hsender : s.session_controller = some sender)
    (hget : (s.ck_session_get_device k major minor).1 = none) {d : CkDevice}
    (hnew : CkDevice.ck_device_new k major minor s.active = some d) :
    (s.dbus_take_device k sender major minor).1.devices =
      { d with taken := d.fd.isSome } :: (s.ck_session_get_device k major minor).2.devices := by
  rw [take_device_not_found k sender major minor hdistinct hsender hget, hnew]
  dsimp only
  cases d.fd <;> rfl

theorem take_device_unknown (hdistinct : Distinct s.devices)
    (hsender : s.session_controller = some sender)
    (hget : (s.ck_session_get_device k major minor).1 = none)
    (hnew : CkDevice.ck_device_new k major minor s.active = none) :
    (s.dbus_take_device k sender major minor).1.devices =
      (s.ck_session_get_device k major minor).2.devices := by
  rw [take_device_not_found k sender major minor hdistinct hsender hget, hnew]

/-- The call of another client, or for a device that is on the list. -/
theorem take_device_refused (hrefused : ¬ (s.session_controller = some sender ∧
      (s.ck_session_get_device k major minor).1 = none)) :
    (s.dbus_take_device k sender major minor).1 = s := by
  unfold dbus_take_device
  by_cases hsender : s.session_controller = some sender
  · have hget : (s.ck_session_get_device k major minor).1 ≠ none :=
      fun hnone => hrefused ⟨hsender, hnone⟩
    have hsame := get_device_found hget
    rw [if_neg (not_not_intro hsender)]
    split
    · rename_i heq
      rw [heq] at hsame
      exact hsame
    · rename_i heq
      rw [heq] at hget
      exact absurd rfl hget
  · rw [if_pos hsender]

theorem take_device_changes (hdistinct : Distinct s.devices) :
    s.Changes (s.dbus_take_device k sender major minor).1
      (.take_device k sender major minor) := by
  by_cases hcreates : s.session_controller = some sender ∧
      (s.ck_session_get_device k major minor).1 = none
  · obtain ⟨hsender, hget⟩ := hcreates
    have hsame := (take_device_only k s major minor sender).1.controller
    cases hnew : CkDevice.ck_device_new k major minor s.active with
    | none =>
      exact .dropped (.inl rfl) hsender hsame
        (take_device_unknown k sender major minor hdistinct hsender hget hnew)
    | some d =>
      exact .created hsender hsame hget hnew
        (take_device_created k sender major minor hdistinct hsender hget hnew)
  · rw [take_device_refused k sender major minor hcreates]
    exact .kept rfl rfl

theorem release_device_changes (hdistinct : Distinct s.devices) :
    s.Changes (s.dbus_release_device k sender major minor).1
      (.release_device k sender major minor) := by
  have hsame := (release_device_only k s major minor sender).1.controller
  revert hsame
  unfold dbus_release_device
  split
  · exact fun _ => .kept rfl rfl
  · rename_i hother
    have hsender := not_not.mp hother
    split
    · rename_i t hget
      intro hsame
      apply Changes.dropped (.inr (.inl rfl)) hsender hsame
      rw [hget]
    · rename_i d t hget
      obtain rfl := (get_device_cases hdistinct hget).2 (by simp)
      exact fun hsame => .released hsender hsame rfl

theorem pause_device_complete_changes (hdistinct : Distinct s.devices) :
    s.Changes (s.dbus_pause_device_complete k sender major minor).1
      (.pause_device_complete k sender major minor) := by
  have hsame := (pause_device_complete_only k s major minor sender).1.controller
  revert hsame
  unfold dbus_pause_device_complete
  split
  · exact fun _ => .kept rfl rfl
  · rename_i hother
    have hsender := not_not.mp hother
    split
    · rename_i t hget
      intro hsame
      apply Changes.dropped (.inr (.inr rfl)) hsender hsame
      rw [hget]
    · rename_i d t hget
      obtain rfl := (get_device_cases hdistinct hget).2 (by simp)
      intro hsame
      exact .acknowledged hsender hsame (check_paused_devices_view _ fun _ _ => none).1

theorem set_active_changes (active force : Bool) :
    s.Changes (s.ck_session_set_active k active force).1 (.set_active k active force) := by
  have hsame := (set_active_only k s active force).1.controller
  revert hsame
  unfold ck_session_set_active
  split
  · exact fun _ => .kept rfl rfl
  · rename_i hother
    cases active with
    | true =>
      simp only [if_true]
      unfold ck_session_resume_all_devices
      split
      · exact fun hsame => .kept hsame rfl
      · exact fun hsame => .resumed (Bool.eq_false_iff.mpr hother) rfl hsame rfl
    | false =>
      simp only [Bool.false_eq_true, if_false]
      cases force with
      | true =>
        rw [pause_all_devices_force]
        exact fun hsame => .paused ⟨rfl, rfl⟩ hsame rfl
      | false =>
        rw [pause_all_devices_wait]
        split <;> exact fun hsame => .kept hsame rfl

end

/-- **Inversion**: what a step does to the list of devices. -/
theorem dispatch_changes {s s' : CkSession} {event : Event} {messages : List Message}
    (hdistinct : Distinct s.devices) (h : s.dispatch event = some (s', messages)) :
    s.Changes s' event := by
  cases dispatch_handled h with
  | take_control sender uid force vt_signals =>
    exact take_control_changes sender uid force vt_signals
  | release_control sender =>
    unfold dbus_release_control
    split
    · rename_i hself
      exact .lost hself rfl
    · exact .kept rfl rfl
  | controller_vanished => exact .lost trivial rfl
  | take_device k sender major minor => exact take_device_changes k sender major minor hdistinct
  | release_device k sender major minor =>
    exact release_device_changes k sender major minor hdistinct
  | pause_device_complete k sender major minor =>
    exact pause_device_complete_changes k sender major minor hdistinct
  | set_active k active force => exact set_active_changes k active force
  | pause_timeout =>
    have hsame := (dispatch_only ⟨by simp, by simp, by simp⟩ h).1.controller
    exact .paused trivial hsame (check_paused_devices_view _ fun _ _ => none).1
  | vt_leave =>
    have hsame := (dispatch_only ⟨by simp, by simp, by simp⟩ h).1.controller
    unfold vt_leave_handler at hsame ⊢
    rw [pause_all_devices_force] at hsame ⊢
    exact .paused trivial hsame rfl

/-- A lookup removes at most a number. -/
theorem get_device_numbers {s : CkSession} (hdistinct : Distinct s.devices) (k : Kernel)
    (major minor : Nat) :
    (s.ck_session_get_device k major minor).2.devices.Sublist s.devices ∧
    ((s.ck_session_get_device k major minor).1 = none →
      ∀ e ∈ (s.ck_session_get_device k major minor).2.devices,
        ¬ (e.major = major ∧ e.minor = minor)) := by
  cases hget : s.ck_session_get_device k major minor with
  | mk d t =>
    obtain ⟨devices, rfl, hsub, hnone⟩ := (get_device_cases hdistinct hget).1
    exact ⟨hsub, hnone⟩

/-- The records stay distinct. -/
theorem Changes.distinct {s s' : CkSession} {event : Event} (hchanges : s.Changes s' event)
    (h : Distinct s.devices) : Distinct s'.devices := by
  cases hchanges with
  | kept _ hdevices => exact hdevices ▸ h
  | lost _ hdevices => exact hdevices ▸ List.nodup_nil
  | dropped _ _ _ hdevices => exact hdevices ▸ h.sublist (get_device_numbers h _ _ _).1
  | created _ _ hget hnew hdevices =>
    obtain ⟨hsub, hfresh⟩ := get_device_numbers h _ _ _
    obtain ⟨rfl, rfl, -, -⟩ := new_device hnew
    rw [hdevices]
    refine List.nodup_cons.mpr ⟨fun hmem => ?_, h.sublist hsub⟩
    obtain ⟨e, he, heq⟩ := List.mem_map.mp hmem
    exact hfresh hget e he (Prod.mk.inj heq)
  | released _ _ hdevices => exact hdevices ▸ h.sublist List.eraseP_sublist
  | acknowledged _ _ hdevices => exact hdevices ▸ h.modify _ fun _ => ⟨rfl, rfl⟩
  | paused _ _ hdevices => exact hdevices ▸ h.map fun _ => ⟨rfl, rfl⟩
  | resumed _ _ _ hdevices => exact hdevices ▸ h.map (resumed_number _)

/-- Another client, which is root, takes the place of the controller by force. -/
def Replaces (s : CkSession) : Event → Prop
  | .take_control sender (some uid) force _ =>
      s.session_controller ≠ none ∧ s.session_controller ≠ some sender ∧ force = true ∧ uid = 0
  | _ => False

end CkSession

/-! ## Section 2: Who took a device -/

/-- A session with the client that took each device, by its number. -/
structure Owned where
  session : CkSession
  taker : Nat → Nat → Option CString

namespace Owned

/-- The client whose call puts a device on the list has taken it. -/
def step (o : Owned) (event : Event) (s' : CkSession) : Owned where
  session := s'
  taker major minor :=
    if (s'.devices.any fun d => d.compare major minor) &&
        !(o.session.devices.any fun d => d.compare major minor) then event.sender
    else o.taker major minor

end Owned

def ownership_system : LTS.System Owned Event where
  init o := ∃ unix_user vtnr, o = ⟨ck_session_init unix_user vtnr, fun _ _ => none⟩
  next o event := (session_system.next o.session event).map (o.step event)

namespace Owned

/-- The list belongs to the controller. -/
structure Valid (o : Owned) : Prop where
  distinct : Distinct o.session.devices
  uncontrolled : o.session.session_controller = none → o.session.devices = []
  taken : ∀ d ∈ o.session.devices, o.taker d.major d.minor = o.session.session_controller

variable {o : Owned} {s' : CkSession} {event : Event}

theorem listed_iff {devices : List CkDevice} {major minor : Nat} :
    (devices.any fun d => d.compare major minor) = true ↔
      (major, minor) ∈ devices.map fun d => (d.major, d.minor) := by
  simp [CkDevice.compare]

/-- Who took a device that was on the list before. -/
theorem step_taker_listed {d : CkDevice}
    (h : (d.major, d.minor) ∈ o.session.devices.map fun d => (d.major, d.minor)) :
    (o.step event s').taker d.major d.minor = o.taker d.major d.minor := by
  simp only [step, listed_iff.mpr h, Bool.not_true, Bool.and_false, Bool.false_eq_true, if_false]

/-- A step that adds no device. -/
theorem Valid.of_numbers (h : o.Valid) (hdistinct : Distinct s'.devices)
    (hcontroller : s'.session_controller = o.session.session_controller)
    (hnumbers : ∀ d ∈ s'.devices,
      (d.major, d.minor) ∈ o.session.devices.map fun d => (d.major, d.minor)) :
    (o.step event s').Valid where
  distinct := hdistinct
  uncontrolled hnone := by
    have hempty := h.uncontrolled (hcontroller.symm.trans hnone)
    apply List.eq_nil_iff_forall_not_mem.mpr
    intro d hd
    have hnumber := hnumbers d hd
    rw [hempty] at hnumber
    cases hnumber
  taken d hd := by
    rw [step_taker_listed (hnumbers d hd)]
    obtain ⟨e, he, heq⟩ := List.mem_map.mp (hnumbers d hd)
    obtain ⟨hmajor, hminor⟩ := Prod.mk.inj heq
    rw [← hmajor, ← hminor, h.taken e he]
    exact hcontroller.symm

theorem map_numbers {devices : List CkDevice} {f : CkDevice → CkDevice}
    (hf : ∀ d, (f d).major = d.major ∧ (f d).minor = d.minor) :
    ∀ d ∈ devices.map f, (d.major, d.minor) ∈ devices.map fun d => (d.major, d.minor) := by
  intro d hd
  obtain ⟨e, he, rfl⟩ := List.mem_map.mp hd
  rw [(hf e).1, (hf e).2]
  exact List.mem_map_of_mem he

theorem subset_numbers {devices devices' : List CkDevice} (h : devices' ⊆ devices) :
    ∀ d ∈ devices', (d.major, d.minor) ∈ devices.map fun d => (d.major, d.minor) :=
  fun _ hd => List.mem_map_of_mem (h hd)

/-- The device that `TakeDevice` puts on the list. -/
theorem Valid.created (h : o.Valid) (hdistinct : Distinct s'.devices) {sender : CString}
    (hevent : event.sender = some sender) (hsender : o.session.session_controller = some sender)
    (hcontroller : s'.session_controller = o.session.session_controller) :
    (o.step event s').Valid where
  distinct := hdistinct
  uncontrolled hnone := by
    rw [show s'.session_controller = none from hnone, hsender] at hcontroller
    cases hcontroller
  taken e he := by
    show _ = s'.session_controller
    rw [hcontroller]
    -- Only the device that is new was taken by this call.
    by_cases hlisted : (e.major, e.minor) ∈ o.session.devices.map fun d => (d.major, d.minor)
    · rw [step_taker_listed hlisted]
      obtain ⟨e', he', heq⟩ := List.mem_map.mp hlisted
      obtain ⟨hmajor, hminor⟩ := Prod.mk.inj heq
      rw [← hmajor, ← hminor]
      exact h.taken e' he'
    · have hnew : (s'.devices.any fun d => d.compare e.major e.minor) = true :=
        listed_iff.mpr (List.mem_map_of_mem he)
      have hold : (o.session.devices.any fun d => d.compare e.major e.minor) = false :=
        Bool.eq_false_iff.mpr fun hany => hlisted (listed_iff.mp hany)
      simp only [step, hnew, hold, Bool.not_false, Bool.and_self, if_true]
      exact hevent.trans hsender.symm

/-- **Step lemma**: the list keeps belonging to the controller. -/
theorem Valid.step (h : o.Valid) (hchanges : o.session.Changes s' event) :
    (o.step event s').Valid := by
  have hdistinct := hchanges.distinct h.distinct
  cases hchanges with
  | kept hcontroller hdevices =>
    apply h.of_numbers hdistinct hcontroller
    rw [hdevices]
    exact subset_numbers (List.Subset.refl _)
  | lost _ hdevices =>
    have hnil : ∀ d ∈ s'.devices, False := by
      rw [hdevices]
      exact fun d hd => by cases hd
    exact ⟨hdistinct, fun _ => hdevices, fun d hd => (hnil d hd).elim⟩
  | dropped _ _ hcontroller hdevices =>
    apply h.of_numbers hdistinct hcontroller
    rw [hdevices]
    exact subset_numbers (CkSession.get_device_numbers h.distinct _ _ _).1.subset
  | created hsender hcontroller _ _ _ => exact h.created hdistinct rfl hsender hcontroller
  | released _ hcontroller hdevices =>
    apply h.of_numbers hdistinct hcontroller
    rw [hdevices]
    exact subset_numbers List.eraseP_sublist.subset
  | acknowledged _ hcontroller hdevices =>
    apply h.of_numbers hdistinct hcontroller
    rw [hdevices]
    intro d hd
    rcases h.distinct.mem_modify hd with ⟨hmem, -⟩ | ⟨e, he, -, rfl⟩
    · exact List.mem_map_of_mem hmem
    · exact List.mem_map.mpr ⟨e, he, rfl⟩
  | paused _ hcontroller hdevices =>
    apply h.of_numbers hdistinct hcontroller
    rw [hdevices]
    exact map_numbers fun _ => ⟨rfl, rfl⟩
  | resumed _ _ hcontroller hdevices =>
    apply h.of_numbers hdistinct hcontroller
    rw [hdevices]
    exact map_numbers (resumed_number _)

/-- A change of the controller empties the list. -/
theorem change_empties (hchanges : o.session.Changes s' event)
    (hne : s'.session_controller ≠ o.session.session_controller) : s'.devices = [] := by
  cases hchanges with
  | lost _ hdevices => exact hdevices
  | kept hcontroller _ => exact absurd hcontroller hne
  | dropped _ _ hcontroller _ => exact absurd hcontroller hne
  | created _ hcontroller _ _ _ => exact absurd hcontroller hne
  | released _ hcontroller _ => exact absurd hcontroller hne
  | acknowledged _ hcontroller _ => exact absurd hcontroller hne
  | paused _ hcontroller _ => exact absurd hcontroller hne
  | resumed _ _ hcontroller _ => exact absurd hcontroller hne

/-- A call of another client leaves the list alone, unless it replaces the
    controller. -/
theorem stranger_keeps (h : o.Valid) (hchanges : o.session.Changes s' event) {sender : CString}
    (hsender : event.sender = some sender) (hother : o.session.session_controller ≠ some sender)
    (hreplaces : ¬ o.session.Replaces event) : s'.devices = o.session.devices := by
  cases hchanges with
  | kept _ hdevices => exact hdevices
  | lost hlost hdevices =>
    rw [hdevices]
    cases event with
    | take_control sender' uid force vt_signals =>
      cases uid with
      | none => exact hlost.elim
      | some uid =>
        -- without a controller there was no device
        rcases hlost with ⟨hself, hnone | ⟨hforce, huid⟩⟩
        · exact (h.uncontrolled hnone).symm
        · by_cases hnone : o.session.session_controller = none
          · exact (h.uncontrolled hnone).symm
          · exact absurd ⟨hnone, hself, hforce, huid⟩ hreplaces
    | release_control sender' =>
      cases hsender
      exact absurd hlost hother
    | controller_vanished => cases hsender
    | _ => exact hlost.elim
  | dropped hlookup hself _ _ =>
    -- A lookup is made for the controller only.
    rcases hlookup with rfl | rfl | rfl <;> cases hsender <;> exact absurd hself hother
  | created hself _ _ _ _ =>
    cases hsender
    exact absurd hself hother
  | released hself _ _ =>
    cases hsender
    exact absurd hself hother
  | acknowledged hself _ _ =>
    cases hsender
    exact absurd hself hother
  | paused hpauses _ _ =>
    cases event with
    | set_active => cases hsender
    | pause_timeout => cases hsender
    | vt_leave => cases hsender
    | _ => exact hpauses.elim
  | resumed _ _ _ _ => cases hsender

theorem replaces_empties {messages : List Message} (hreplaces : o.session.Replaces event)
    (h : o.session.dispatch event = some (s', messages)) : s'.devices = [] := by
  cases event with
  | take_control sender uid force vt_signals =>
    cases uid with
    | none => exact hreplaces.elim
    | some uid =>
      obtain ⟨-, hself, hforce, huid⟩ := hreplaces
      obtain rfl : (o.session.dbus_take_control sender (some uid) force vt_signals).1 = s' :=
        congrArg Prod.fst (Option.some.inj h)
      simp only [CkSession.dbus_take_control, CkSession.ck_device_is_server_managed, Bool.not_true,
        Bool.false_eq_true, if_false]
      rw [if_neg hself, if_pos (Or.inr ⟨hforce, huid⟩)]
      rfl
  | _ => exact hreplaces.elim

/-- **Run lemma**: in every state that is reached the list belongs to the
    controller. -/
theorem valid_of_reachable (h : ownership_system.Reachable o) : o.Valid := by
  refine LTS.System.Reachable.invariant (I := Valid) ?_ ?_ h
  · rintro _ ⟨unix_user, vtnr, rfl⟩
    exact ⟨List.nodup_nil, fun _ => rfl, fun d hd => by cases hd⟩
  · intro o event o' hvalid hnext
    obtain ⟨s', hs', rfl⟩ := Option.map_eq_some_iff.mp hnext
    obtain ⟨⟨t, messages⟩, hdispatch, rfl⟩ := Option.map_eq_some_iff.mp hs'
    exact hvalid.step (CkSession.dispatch_changes hvalid.distinct hdispatch)

/-- Who took the devices can be told in every run of a session. -/
theorem exists_of_reachable {s : CkSession} (h : session_system.Reachable s) :
    ∃ o : Owned, ownership_system.Reachable o ∧ o.session = s := by
  induction h with
  | init hinit =>
    obtain ⟨unix_user, vtnr, rfl⟩ := hinit
    exact ⟨_, .init ⟨unix_user, vtnr, rfl⟩, rfl⟩
  | @step s event s' _ _ hnext ih =>
    obtain ⟨o, ho, rfl⟩ := ih
    refine ⟨o.step event s', ho.step (l := event) ?_, rfl⟩
    show (session_system.next o.session event).map (o.step event) = _
    rw [hnext]
    rfl

end Owned

theorem distinct_of_reachable {s : CkSession} (h : session_system.Reachable s) :
    Distinct s.devices := by
  obtain ⟨o, ho, rfl⟩ := Owned.exists_of_reachable h
  exact (Owned.valid_of_reachable ho).distinct

/-! ## Section 3: Every run -/

/-- **Device ownership.**  No device is on the list twice, the list is empty
    without a controller and each device on it was taken by the controller.  A
    change of the controller empties the list; a call of another client leaves
    it alone, unless root replaces the controller by force. -/
theorem device_ownership {o : Owned} (h : ownership_system.Reachable o) :
    Distinct o.session.devices ∧
    (o.session.session_controller = none → o.session.devices = []) ∧
    (∀ d ∈ o.session.devices, o.taker d.major d.minor = o.session.session_controller) ∧
    ∀ event o', ownership_system.next o event = some o' →
      (o'.session.session_controller ≠ o.session.session_controller → o'.session.devices = []) ∧
      ∀ sender, event.sender = some sender → o.session.session_controller ≠ some sender →
        (¬ o.session.Replaces event → o'.session.devices = o.session.devices) ∧
        (o.session.Replaces event → o'.session.devices = []) := by
  have hvalid := Owned.valid_of_reachable h
  refine ⟨hvalid.distinct, hvalid.uncontrolled, hvalid.taken, fun event o' hnext => ?_⟩
  obtain ⟨s', hs', rfl⟩ := Option.map_eq_some_iff.mp hnext
  obtain ⟨⟨t, messages⟩, hdispatch, rfl⟩ := Option.map_eq_some_iff.mp hs'
  have hchanges := CkSession.dispatch_changes hvalid.distinct hdispatch
  refine ⟨Owned.change_empties hchanges, fun sender hsender hother => ?_⟩
  exact ⟨Owned.stranger_keeps hvalid hchanges hsender hother,
    fun hreplaces => Owned.replaces_empties hreplaces hdispatch⟩

/-- The user of a session has taken the card. -/
def card_owned : List Event :=
  [.take_control (cstr ":1.5") (some 1000) false true,
    .take_device one_card (cstr ":1.5") 226 0]

theorem card_owned_reachable {o : Owned}
    (hrun : ownership_system.run ⟨ck_session_init 1000 1, fun _ _ => none⟩ card_owned = some o) :
    ownership_system.Reachable o :=
  LTS.System.Reachable.run (.init ⟨1000, 1, rfl⟩) hrun

theorem device_ownership_card :
    ∃ o, ownership_system.run ⟨ck_session_init 1000 1, fun _ _ => none⟩ card_owned = some o ∧
      o.session.devices = [⟨226, 0, .DEVICE_DRM, some 9, false, true⟩] ∧
      Distinct o.session.devices ∧
      ∀ d ∈ o.session.devices, o.taker d.major d.minor = o.session.session_controller := by
  refine ⟨_, rfl, rfl, ?_⟩
  have howned := device_ownership (card_owned_reachable rfl)
  exact ⟨howned.1, howned.2.2.1⟩

/-- Root takes control by force and the card is gone. -/
theorem device_ownership_replaced :
    ¬ ∀ o, ownership_system.Reachable o → ∀ event o', ownership_system.next o event = some o' →
      ∀ sender, event.sender = some sender → o.session.session_controller ≠ some sender →
        o'.session.devices = o.session.devices := by
  intro h
  have hkept := h _ (card_owned_reachable rfl)
    (.take_control (cstr ":1.9") (some 0) true true) _ rfl (cstr ":1.9") rfl (by decide)
  cases hkept

end Device
