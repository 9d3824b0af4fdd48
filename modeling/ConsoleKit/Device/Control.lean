import ConsoleKit.Device.Model

/-! # Who controls the devices of a session

    A client that finds a session without a controller becomes its
    controller, whoever it is; only a client that replaces another one has
    to be root.  Descriptors go to the controller only.
-/

namespace Device

open Libc

/-! ## Section 1: Descriptors -/

/-- Who is handed a descriptor. -/
def Message.receiver : Message → Option CString
  | .complete_take_device destination .. | .ResumeDevice destination .. => some destination
  | _ => none

/-- The messages hand descriptors to this client only. -/
def OnlyTo (controller : Option CString) (messages : List Message) : Prop :=
  ∀ message ∈ messages, ∀ name, message.receiver = some name → controller = some name

namespace OnlyTo

variable {controller : Option CString} {messages messages' : List Message}

theorem append (h : OnlyTo controller messages) (h' : OnlyTo controller messages') :
    OnlyTo controller (messages ++ messages') := by
  intro message hmem
  rcases List.mem_append.mp hmem with hmem | hmem
  · exact h message hmem
  · exact h' message hmem

theorem of_none (h : ∀ message ∈ messages, message.receiver = none) :
    OnlyTo controller messages := by
  intro message hmem name hname
  rw [h message hmem] at hname
  cases hname

end OnlyTo

namespace CkSession

/-- Only the devices and the pausing of them differ. -/
def SameControl (s' s : CkSession) : Prop :=
  s' = { s with
    active := s'.active
    pause_devices_timer := s'.pause_devices_timer
    devices := s'.devices }

variable (k : Kernel) (s : CkSession)

theorem check_paused_devices_only :
    s.ck_session_check_paused_devices.1.SameControl s ∧
    ∀ message ∈ s.ck_session_check_paused_devices.2, message.receiver = none := by
  unfold ck_session_check_paused_devices
  split
  · exact ⟨rfl, by simp⟩
  · refine ⟨rfl, ?_⟩
    show ∀ message ∈ (if s.active then [Message.ActiveChanged false] else []), _
    split <;> simp [Message.receiver]

theorem pause_messages_only (type : PauseType) (devices : List CkDevice) :
    ∀ message ∈ pause_messages type devices, message.receiver = none := by
  intro message hmem
  obtain ⟨d, -, rfl⟩ := List.mem_map.mp hmem
  rfl

theorem pause_all_devices_only (force : Bool) :
    (s.ck_session_pause_all_devices force).1.SameControl s ∧
    ∀ message ∈ (s.ck_session_pause_all_devices force).2, message.receiver = none := by
  cases force with
  | true =>
    rw [pause_all_devices_force]
    refine ⟨rfl, fun message hmem => ?_⟩
    rcases List.mem_append.mp hmem with hmem | hmem
    · exact pause_messages_only _ _ message hmem
    · rw [List.mem_singleton.mp hmem]
      rfl
  | false =>
    rw [pause_all_devices_wait]
    split
    · exact ⟨rfl, by simp [Message.receiver]⟩
    · exact ⟨rfl, pause_messages_only _ _⟩

theorem resume_messages_only (controller : CString) (devices : List CkDevice) :
    OnlyTo (some controller) (resume_messages controller devices) := by
  intro message hmem name hname
  obtain ⟨d, -, heq⟩ := List.mem_filterMap.mp hmem
  obtain ⟨fd, -, rfl⟩ := Option.map_eq_some_iff.mp heq
  exact hname

theorem resume_all_devices_only :
    (s.ck_session_resume_all_devices k).1.SameControl s ∧
    OnlyTo s.session_controller (s.ck_session_resume_all_devices k).2 := by
  unfold ck_session_resume_all_devices
  split
  · exact ⟨rfl, .of_none (by simp [Message.receiver])⟩
  · rename_i controller hcontroller
    refine ⟨rfl, OnlyTo.append ?_ (.of_none (by simp [Message.receiver]))⟩
    rw [hcontroller]
    exact resume_messages_only controller _

theorem set_active_only (active force : Bool) :
    (s.ck_session_set_active k active force).1.SameControl s ∧
    OnlyTo s.session_controller (s.ck_session_set_active k active force).2 := by
  unfold ck_session_set_active
  split
  · exact ⟨rfl, .of_none (by simp)⟩
  · cases active with
    | true =>
      exact resume_all_devices_only k { s with pause_devices_timer := false }
    | false =>
      obtain ⟨hsame, hnone⟩ :=
        pause_all_devices_only { s with pause_devices_timer := false } force
      exact ⟨hsame, .of_none hnone⟩

variable {k s} {major minor : Nat} {d : Option CkDevice} {s' : CkSession}

theorem get_device_only (h : s.ck_session_get_device k major minor = (d, s')) :
    ∃ devices, s' = { s with devices := devices } := by
  unfold ck_session_get_device at h
  split at h
  · cases h
    exact ⟨_, rfl⟩
  · split at h <;> cases h <;> exact ⟨_, rfl⟩

theorem create_device_only (h : s.ck_session_create_device k major minor = (d, s')) :
    ∃ devices, s' = { s with devices := devices } := by
  unfold ck_session_create_device at h
  split at h
  · rename_i hget
    cases h
    exact get_device_only hget
  · rename_i hget
    obtain ⟨devices, rfl⟩ := get_device_only hget
    split at h <;> cases h <;> exact ⟨_, rfl⟩

variable (k s) (sender : CString) (major minor)

theorem take_device_only :
    (s.dbus_take_device k sender major minor).1.SameControl s ∧
    OnlyTo s.session_controller (s.dbus_take_device k sender major minor).2 := by
  unfold dbus_take_device
  split
  · exact ⟨rfl, .of_none (by simp [Message.receiver])⟩
  · rename_i hsender
    split
    · rename_i hget
      obtain ⟨devices, rfl⟩ := get_device_only hget
      exact ⟨rfl, .of_none (by simp [Message.receiver])⟩
    · rename_i hget
      obtain ⟨devices, rfl⟩ := get_device_only hget
      split
      · rename_i hcreate
        obtain ⟨devices', rfl⟩ := create_device_only hcreate
        exact ⟨rfl, .of_none (by simp [Message.receiver])⟩
      · rename_i hcreate
        obtain ⟨devices', rfl⟩ := create_device_only hcreate
        split
        · exact ⟨rfl, .of_none (by simp [Message.receiver])⟩
        · refine ⟨rfl, fun message hmem name hname => ?_⟩
          rw [List.mem_singleton.mp hmem] at hname
          cases hname
          exact not_not.mp hsender

theorem release_device_only :
    (s.dbus_release_device k sender major minor).1.SameControl s ∧
    OnlyTo s.session_controller (s.dbus_release_device k sender major minor).2 := by
  unfold dbus_release_device
  split
  · exact ⟨rfl, .of_none (by simp [Message.receiver])⟩
  · split <;> rename_i hget <;> obtain ⟨devices, rfl⟩ := get_device_only hget
    · exact ⟨rfl, .of_none (by simp [Message.receiver])⟩
    · exact ⟨rfl, .of_none (by simp [Message.receiver])⟩

theorem pause_device_complete_only :
    (s.dbus_pause_device_complete k sender major minor).1.SameControl s ∧
    OnlyTo s.session_controller (s.dbus_pause_device_complete k sender major minor).2 := by
  unfold dbus_pause_device_complete
  split
  · exact ⟨rfl, .of_none (by simp [Message.receiver])⟩
  · split
    · rename_i hget
      obtain ⟨devices, rfl⟩ := get_device_only hget
      exact ⟨rfl, .of_none (by simp [Message.receiver])⟩
    · rename_i s' hget
      obtain ⟨devices, rfl⟩ := get_device_only hget
      obtain ⟨hsame, hnone⟩ := check_paused_devices_only
        (updateDevice { s with devices := devices } major minor .pause)
      exact ⟨hsame, OnlyTo.append (.of_none hnone) (.of_none (by simp [Message.receiver]))⟩

/-! ## Section 2: Taking control -/

/-- The controller was the user of the session or root when it took control. -/
def Authorized (s : CkSession) : Prop :=
  s.session_controller ≠ none → s.controller_uid = s.unix_user ∨ s.controller_uid = 0

/-- Descriptors that a step hands out go to whoever is the controller. -/
def DescriptorsToController (s : CkSession) (event : Event) (s' : CkSession) : Prop :=
  ∀ messages, s.dispatch event = some (s', messages) →
    OnlyTo s.session_controller messages ∧ OnlyTo s'.session_controller messages

/-- A client that takes control of a session without a controller is the
    user of the session or root. -/
def MayControl (s : CkSession) : Event → Prop
  | .take_control _ (some uid) _ _ =>
      s.session_controller = none → uid = s.unix_user ∨ uid = 0
  | _ => True

/-- A step that is not a change of the controller. -/
theorem dispatch_only {s s' : CkSession} {event : Event} {messages : List Message}
    (hevent : (∀ sender uid force vt_signals, event ≠ .take_control sender uid force vt_signals) ∧
      (∀ sender, event ≠ .release_control sender) ∧ event ≠ .controller_vanished)
    (h : s.dispatch event = some (s', messages)) :
    s'.SameControl s ∧ OnlyTo s.session_controller messages := by
  cases dispatch_handled h with
  | take_control sender uid force vt_signals => exact absurd rfl (hevent.1 _ _ _ _)
  | release_control sender => exact absurd rfl (hevent.2.1 _)
  | controller_vanished => exact absurd rfl hevent.2.2
  | take_device k sender major minor => exact take_device_only k s major minor sender
  | release_device k sender major minor => exact release_device_only k s major minor sender
  | pause_device_complete k sender major minor =>
    exact pause_device_complete_only k s major minor sender
  | set_active k active force => exact set_active_only k s active force
  | pause_timeout =>
    obtain ⟨hsame, hnone⟩ := check_paused_devices_only
      { s with devices := s.devices.map .pause, pause_devices_timer := false }
    exact ⟨hsame, .of_none hnone⟩
  | vt_leave =>
    obtain ⟨hsame, hnone⟩ := pause_all_devices_only s true
    exact ⟨hsame, .of_none hnone⟩

theorem SameControl.controller {s s' : CkSession} (h : s'.SameControl s) :
    s'.session_controller = s.session_controller := by
  rw [h]

theorem SameControl.authorized_iff {s s' : CkSession} (h : s'.SameControl s) :
    s'.Authorized ↔ s.Authorized := by
  rw [h]
  exact Iff.rfl

/-- The events that change the controller hand out no descriptor. -/
theorem control_messages {s s' : CkSession} {event : Event} {messages : List Message}
    (hevent : (∃ sender uid force vt_signals,
        event = .take_control sender uid force vt_signals) ∨
      (∃ sender, event = .release_control sender) ∨ event = .controller_vanished)
    (h : s.dispatch event = some (s', messages)) :
    ∀ message ∈ messages, message.receiver = none := by
  cases dispatch_handled h with
  | take_control sender uid force vt_signals =>
    unfold dbus_take_control
    split
    · simp [Message.receiver]
    · cases uid with
      | none => simp [Message.receiver]
      | some uid =>
        dsimp only
        split <;> [skip; split <;> [skip; split]] <;> simp [Message.receiver]
  | release_control sender =>
    unfold dbus_release_control
    split <;> simp [Message.receiver]
  | controller_vanished => exact List.forall_mem_nil _
  | _ => simp at hevent

/-- Taking control of a session: the new controller is authorized if it may
    take control. -/
theorem take_control_authorized {s : CkSession} (h : s.Authorized) (sender : CString)
    (uid : Option Nat) (force vt_signals : Bool) :
    (s.dbus_take_control sender uid force vt_signals).1.Authorized ↔
      s.MayControl (.take_control sender uid force vt_signals) := by
  cases uid with
  | none => exact iff_of_true h trivial
  | some uid =>
    simp only [dbus_take_control, ck_device_is_server_managed, Bool.not_true,
      Bool.false_eq_true, if_false]
    split
    · rename_i hsame
      refine iff_of_true h fun hnone => ?_
      rw [hsame] at hnone
      cases hnone
    · split
      · rename_i hnew
        constructor
        · intro hauthorized _
          exact hauthorized (by simp [ck_session_set_session_controller])
        · intro hmay _
          rcases hnew with hnone | ⟨-, hroot⟩
          · exact hmay hnone
          · exact .inr hroot
      · rename_i hold
        have hsome : s.session_controller ≠ none := fun hnone => hold (.inl hnone)
        split <;> exact iff_of_true h fun hnone => absurd hnone hsome

/-- **Step lemma**: a step keeps the controller authorized exactly if who
    takes control may. -/
theorem authorized_step {s s' : CkSession} {event : Event} (h : s.Authorized)
    (hnext : session_system.next s event = some s') :
    (s'.Authorized ∧ s.DescriptorsToController event s') ↔ s.MayControl event := by
  obtain ⟨⟨t, messages⟩, hdispatch, heq⟩ := Option.map_eq_some_iff.mp hnext
  obtain rfl : t = s' := heq
  by_cases hevent : (∃ sender uid force vt_signals,
      event = .take_control sender uid force vt_signals) ∨
    (∃ sender, event = .release_control sender) ∨ event = .controller_vanished
  · have hdescriptors : s.DescriptorsToController event t := by
      intro messages' heq
      have hnone := control_messages hevent heq
      exact ⟨.of_none hnone, .of_none hnone⟩
    rw [and_iff_left hdescriptors]
    cases dispatch_handled hdispatch with
    | take_control sender uid force vt_signals =>
      exact take_control_authorized h sender uid force vt_signals
    | release_control sender =>
      refine iff_of_true ?_ trivial
      unfold dbus_release_control
      split
      · intro hsome
        exact absurd rfl hsome
      · exact h
    | controller_vanished =>
      refine iff_of_true ?_ trivial
      intro hsome
      exact absurd rfl hsome
    | _ => simp at hevent
  · have hnot := not_or.mp hevent
    have hother : (∀ sender uid force vt_signals,
        event ≠ .take_control sender uid force vt_signals) ∧
        (∀ sender, event ≠ .release_control sender) ∧ event ≠ .controller_vanished :=
      ⟨fun sender uid force vt_signals heq => hnot.1 ⟨sender, uid, force, vt_signals, heq⟩,
        fun sender heq => hnot.2 (.inl ⟨sender, heq⟩), fun heq => hnot.2 (.inr heq)⟩
    have hmay : s.MayControl event := by
      cases event with
      | take_control sender uid force vt_signals => exact absurd rfl (hother.1 _ _ _ _)
      | _ => trivial
    refine iff_of_true ⟨?_, ?_⟩ hmay
    · exact (dispatch_only hother hdispatch).1.authorized_iff.mpr h
    · intro messages' heq
      obtain ⟨hsame, honly⟩ := dispatch_only hother heq
      exact ⟨honly, hsame.controller ▸ honly⟩

end CkSession

/-! ## Section 3: Every run -/

theorem controller_authorized {s : CkSession} (h : s.Authorized) (events : List Event) :
    session_system.Along
        (fun s event s' => s'.Authorized ∧ s.DescriptorsToController event s') s events ↔
      session_system.Along (fun s event _ => s.MayControl event) s events :=
  LTS.System.along_congr (I := CkSession.Authorized)
    (fun _ _ _ hs hnext => CkSession.authorized_step hs hnext)
    (fun _ _ _ _ _ hP => hP.1) h events

/-- The user of a session takes control of it. -/
theorem controller_authorized_user :
    session_system.Along
      (fun s event s' => s'.Authorized ∧ s.DescriptorsToController event s')
      (ck_session_init 1000 1) [.take_control (cstr ":1.5") (some 1000) false true] := by
  refine (controller_authorized (fun hsome => absurd rfl hsome) _).mpr ?_
  intro s' _
  exact ⟨fun _ => .inl rfl, trivial⟩

/-- Another user does. -/
theorem controller_unauthorized :
    ¬ session_system.Along
      (fun s event s' => s'.Authorized ∧ s.DescriptorsToController event s')
      (ck_session_init 1000 1) [.take_control (cstr ":1.6") (some 1001) false true] := by
  intro h
  have hauthorized := (h _ rfl).1.1 (by decide)
  revert hauthorized
  decide

end Device
