import ConsoleKit.Device.Atomic

/-! # What the descriptors can do

    A device is recorded active or inactive.  Whether its descriptor can be
    used is up to the kernel: a descriptor of a graphics card is useful while
    it holds master, one of an input device until it is revoked.  The daemon
    does not look at the answers of the kernel when it changes the record.

    This module provides:
    - `Descriptor`: what a descriptor was opened for and can do,
    - `descriptor_system`: the session with the descriptors of its devices,
    - `inactive_idle`: no device of an inactive session is recorded active,
    - `descriptors_honest`: when the records say what the descriptors can do.
-/

namespace Device

open Libc CkSession

/-! ## Section 1: Descriptors -/

/-- What the kernel answers about a descriptor. -/
structure Ioctls where
  drm_drop_master : Nat → Bool
  evdev_revoke : Nat → Bool
  /-- The card had no master when the descriptor was opened, which makes the
      descriptor the master. -/
  opened_as_master : Nat → Bool

/-- `active_mode`: it was opened or resumed in active mode last.  `able`: it
    has master, or has not been revoked. -/
structure Descriptor where
  active_mode : Bool
  able : Bool
  deriving DecidableEq

namespace Descriptor

/-- There is no descriptor, or it cannot do anything. -/
def muted : Descriptor := ⟨false, false⟩

/-- The descriptor that `ck_device_open` returns. -/
def opened (io : Ioctls) (category : CkDeviceCategory) (active : Bool) (fd : Nat) : Descriptor where
  active_mode := active
  able :=
    active ||
      match category with
      | .DEVICE_DRM => io.opened_as_master fd && !io.drm_drop_master fd
      | .DEVICE_EVDEV => !io.evdev_revoke fd
      | .DEVICE_OTHER => true

/-- The descriptor of the device that `ck_device_new` returns. -/
def new (k : Kernel) (io : Ioctls) (d : CkDevice) (active : Bool) : Descriptor :=
  if d.category = .DEVICE_OTHER then muted
  else
    match d.ck_device_open k active with
    | some fd => opened io d.category active fd
    | none => if active then (d.ck_device_open k false).elim muted (opened io d.category false)
        else muted

/-- What `ck_device_set_active (device, TRUE)` does to the descriptor. -/
def resume (k : Kernel) (io : Ioctls) (d : CkDevice) (c : Descriptor) : Descriptor :=
  if d.state then c
  else
    match d.category with
    | .DEVICE_DRM => if d.fd.any k.drm_set_master then ⟨true, true⟩ else c
    | .DEVICE_EVDEV => (d.ck_device_open k true).elim muted (opened io d.category true)
    | .DEVICE_OTHER => c

/-- What `ck_device_set_active (device, FALSE)` does to the descriptor. -/
def pause (io : Ioctls) (d : CkDevice) (c : Descriptor) : Descriptor :=
  if !d.state then c
  else
    match d.category with
    | .DEVICE_DRM => if d.fd.any io.drm_drop_master then muted else c
    | .DEVICE_EVDEV => if d.fd.any io.evdev_revoke then muted else c
    | .DEVICE_OTHER => c

end Descriptor

/-- A session with the descriptors of its devices, by their numbers. -/
structure Held where
  session : CkSession
  descriptor : Nat → Nat → Descriptor

namespace Held

/-- Change the descriptor of each device on the list. -/
def onEach (h : Held) (f : CkDevice → Descriptor → Descriptor) : Nat → Nat → Descriptor :=
  fun major minor =>
    match h.session.devices.find? fun d => d.compare major minor with
    | some d => f d (h.descriptor major minor)
    | none => h.descriptor major minor

/-- Change the descriptor of one number. -/
def onOne (h : Held) (major minor : Nat) (c : Descriptor) : Nat → Nat → Descriptor :=
  fun major' minor' =>
    if major' = major ∧ minor' = minor then c else h.descriptor major' minor'

/-- The descriptors after an event. -/
def descriptors (h : Held) (io : Ioctls) : Event → Nat → Nat → Descriptor
  | .take_device k sender major minor =>
      if h.session.session_controller = some sender ∧
          (h.session.ck_session_get_device k major minor).1 = none then
        match CkDevice.ck_device_new k major minor h.session.active with
        | some d => h.onOne major minor (.new k io d h.session.active)
        | none => h.descriptor
      else h.descriptor
  | .pause_device_complete k sender major minor =>
      if h.session.session_controller = some sender then
        match (h.session.ck_session_get_device k major minor).1 with
        | some d => h.onOne major minor ((h.descriptor major minor).pause io d)
        | none => h.descriptor
      else h.descriptor
  | .set_active k active force =>
      if h.session.active = active then h.descriptor
      else if active then
        if h.session.session_controller = none then h.descriptor
        else h.onEach fun d c => c.resume k io d
      else if force then h.onEach fun d c => c.pause io d
      else h.descriptor
  | .pause_timeout | .vt_leave => h.onEach fun d c => c.pause io d
  | _ => h.descriptor

end Held

/-- The session, where the kernel answers about the descriptors in each step. -/
def descriptor_system : LTS.System Held (Event × Ioctls) where
  init h := ∃ unix_user vtnr, h = ⟨ck_session_init unix_user vtnr, fun _ _ => .muted⟩
  next h l := (session_system.next h.session l.1).map fun s' => ⟨s', h.descriptors l.2 l.1⟩

/-! ## Section 2: No device of an inactive session is active -/

namespace CkSession

/-- No device of an inactive session is recorded active. -/
def Idle (s : CkSession) : Prop := s.active = false → ∀ d ∈ s.devices, d.state = false

section
variable {s s' : CkSession} {event : Event}

theorem Idle.of_paused (h : ∀ d ∈ s.devices, d.state = false) : s.Idle := fun _ => h

theorem paused_state (devices : List CkDevice) :
    ∀ d ∈ devices.map CkDevice.pause, d.state = false := by
  intro d hd
  obtain ⟨e, -, rfl⟩ := List.mem_map.mp hd
  rfl

/-- The flag is cleared once no device is active. -/
theorem check_paused_devices_idle (h : s.Idle) : s.ck_session_check_paused_devices.1.Idle := by
  unfold ck_session_check_paused_devices
  cases hany : s.devices.any (·.state) with
  | true => exact h
  | false =>
    apply Idle.of_paused
    intro d hd
    exact Bool.eq_false_iff.mpr (List.any_eq_false.mp hany d hd)

/-- A step that leaves the flag as it is. -/
theorem Idle.of_changes (h : s.Idle) (hdistinct : Distinct s.devices)
    (hactive : s'.active = s.active) (hchanges : s.Changes s' event) : s'.Idle := by
  intro hinactive
  have hpaused := h (hactive.symm.trans hinactive)
  have hsub : ∀ devices : List CkDevice, devices.Sublist s.devices →
      ∀ d ∈ devices, d.state = false :=
    fun devices hsub d hd => hpaused d (hsub.subset hd)
  cases hchanges with
  | kept _ hdevices => exact hdevices ▸ hpaused
  | lost _ hdevices => exact hdevices ▸ hsub [] (List.nil_sublist _)
  | dropped _ _ _ hdevices =>
    exact hdevices ▸ hsub _ (get_device_numbers hdistinct _ _ _).1
  | created _ _ _ hnew hdevices =>
    obtain ⟨-, -, hstate, -⟩ := new_device hnew
    intro d hd
    rw [hdevices] at hd
    rcases List.mem_cons.mp hd with rfl | hd
    · exact hstate.trans (hactive.symm.trans hinactive)
    · exact hsub _ (get_device_numbers hdistinct _ _ _).1 d hd
  | released _ _ hdevices => exact hdevices ▸ hsub _ List.eraseP_sublist
  | acknowledged _ _ hdevices =>
    intro d hd
    rw [hdevices] at hd
    -- No device was active before.
    refine Bool.eq_false_iff.mpr (List.any_eq_false.mp (paused_iff.mpr ?_) d hd)
    intro i e he hstate
    rw [hpaused e (List.mem_of_getElem? he)] at hstate
    cases hstate
  | paused _ _ hdevices => exact hdevices ▸ paused_state _
  | resumed _ htrue _ _ =>
    rw [htrue] at hinactive
    cases hinactive

theorem pause_device_complete_idle (h : s.Idle) (hdistinct : Distinct s.devices) (k : Kernel)
    (sender : CString) (major minor : Nat) :
    (s.dbus_pause_device_complete k sender major minor).1.Idle := by
  rcases pause_device_complete_cases k s sender major minor with
    ⟨⟨hsender, hfound⟩, hlast, -, -⟩ | ⟨-, hactive, -⟩
  · -- the last active device has been paused
    have hsame := get_device_found hfound
    unfold dbus_pause_device_complete
    rw [if_neg (not_not_intro hsender)]
    cases hget : s.ck_session_get_device k major minor with
    | mk d t =>
      rw [hget] at hfound hsame
      obtain rfl : t = s := hsame
      cases d with
      | none => exact absurd rfl hfound
      | some d =>
        apply check_paused_devices_idle
        intro _ d hd
        exact Bool.eq_false_iff.mpr (List.any_eq_false.mp (paused_iff.mpr hlast) d hd)
  · exact h.of_changes hdistinct hactive
      (pause_device_complete_changes k sender major minor hdistinct)

theorem set_active_idle (h : s.Idle) (k : Kernel) (active force : Bool) :
    (s.ck_session_set_active k active force).1.Idle := by
  unfold ck_session_set_active
  split
  · exact h
  · cases active with
    | true =>
      simp only [if_true]
      unfold ck_session_resume_all_devices
      split <;> exact fun hinactive => by cases hinactive
    | false =>
      simp only [Bool.false_eq_true, if_false]
      cases force with
      | true =>
        rw [pause_all_devices_force]
        exact fun _ => paused_state _
      | false =>
        rw [pause_all_devices_wait]
        split
        · rename_i hempty
          intro _ d hd
          rw [show s.devices = [] from hempty] at hd
          cases hd
        · exact h

/-- **Step lemma**: a step leaves no active device in an inactive session. -/
theorem dispatch_idle (h : s.Idle) (hdistinct : Distinct s.devices)
    {messages : List Message} (hdispatch : s.dispatch event = some (s', messages)) : s'.Idle := by
  have hchanges := dispatch_changes hdistinct hdispatch
  cases dispatch_handled hdispatch with
  | set_active k active force => exact set_active_idle h k active force
  | pause_device_complete k sender major minor =>
    exact pause_device_complete_idle h hdistinct k sender major minor
  | pause_timeout => exact check_paused_devices_idle fun _ => paused_state _
  | vt_leave =>
    unfold vt_leave_handler
    rw [pause_all_devices_force]
    exact fun _ => paused_state _
  | _ =>
    -- no other step changes the flag
    have hcases := fun hother => dispatch_cases hother hdispatch
    rcases hcases id with
      ⟨hends, -⟩ | ⟨-, -, hactive, -⟩ | ⟨-, -, hactive, -⟩
    · exact hends.elim
    · exact h.of_changes hdistinct hactive hchanges
    · exact h.of_changes hdistinct hactive hchanges

end

end CkSession

/-! ## Section 3: When a record is right -/

/-- The record says what the descriptor was opened for and can do. -/
def Descriptor.Tells (c : Descriptor) (d : CkDevice) : Prop :=
  (d.state = true → c.active_mode = true) ∧ c.able = d.state

/-- The descriptor of an active device is taken away. -/
def Ioctls.Mutes (io : Ioctls) (d : CkDevice) : Prop :=
  match d.category with
  | .DEVICE_DRM => d.fd.any io.drm_drop_master = true
  | .DEVICE_EVDEV => d.fd.any io.evdev_revoke = true
  | .DEVICE_OTHER => False

/-- The descriptor of an inactive device is given back. -/
def Kernel.Regains (k : Kernel) (d : CkDevice) : Prop :=
  match d.category with
  | .DEVICE_DRM => d.fd.any k.drm_set_master = true
  | .DEVICE_EVDEV => k.g_open d.major d.minor true ≠ none
  | .DEVICE_OTHER => False

/-- The first attempt to open the node of a device succeeds, or the device is
    opened in an inactive session and its descriptor is taken away. -/
def Kernel.Starts (k : Kernel) (io : Ioctls) (category : CkDeviceCategory) (major minor : Nat)
    (active : Bool) : Prop :=
  if active then
    category ≠ .DEVICE_OTHER ∧ ∃ fd, k.g_open major minor true = some fd ∧
      (category = .DEVICE_DRM → k.drm_set_master fd = true)
  else
    ∀ fd, k.g_open major minor false = some fd →
      (category = .DEVICE_DRM → io.opened_as_master fd = true → io.drm_drop_master fd = true) ∧
      (category = .DEVICE_EVDEV → io.evdev_revoke fd = true)

namespace Descriptor

section
variable {k : Kernel} {io : Ioctls} {d : CkDevice} {c : Descriptor}

theorem pause_tells_iff (h : c.Tells d) :
    (c.pause io d).Tells d.pause ↔ (d.state = true → io.Mutes d) := by
  unfold pause
  cases hstate : d.state with
  | false =>
    refine iff_of_true ⟨fun hactive => ?_, h.2.trans hstate⟩ fun hactive => ?_ <;> cases hactive
  | true =>
    have hable : c.able = true := h.2.trans hstate
    simp only [Bool.not_true, Bool.false_eq_true, if_false, forall_const]
    unfold Ioctls.Mutes
    cases d.category with
    | DEVICE_DRM =>
      cases hdrop : d.fd.any io.drm_drop_master <;> simp [Tells, CkDevice.pause, muted, hable]
    | DEVICE_EVDEV =>
      cases hrevoke : d.fd.any io.evdev_revoke <;> simp [Tells, CkDevice.pause, muted, hable]
    | DEVICE_OTHER => simp [Tells, CkDevice.pause, hable]

theorem resume_tells_iff (h : c.Tells d) :
    (c.resume k io d).Tells (d.ck_device_set_active k true) ↔
      (d.state = false → k.Regains d) := by
  unfold Tells
  rw [(resumed_state k d).1]
  unfold resume
  cases hstate : d.state with
  | true =>
    refine iff_of_true ⟨fun _ => h.1 hstate, h.2.trans hstate⟩ fun hinactive => ?_
    cases hinactive
  | false =>
    have hable : c.able = false := h.2.trans hstate
    simp only [Bool.false_eq_true, if_false, forall_const]
    unfold Kernel.Regains
    cases hcategory : d.category with
    | DEVICE_DRM => cases hset : d.fd.any k.drm_set_master <;> simp [hable]
    | DEVICE_EVDEV =>
      unfold CkDevice.ck_device_open
      cases hopen : k.g_open d.major d.minor true <;> simp [hcategory, opened, muted]
    | DEVICE_OTHER => simp [hable]

/-- A descriptor that was opened for an inactive session does not make an
    active record right. -/
theorem inactive_not_tells (hstate : d.state = true) (hmode : c.active_mode = false) :
    ¬ c.Tells d := by
  intro h
  rw [h.1 hstate] at hmode
  cases hmode

theorem new_active_tells_iff (hstate : d.state = true) :
    (new k io d true).Tells d ↔ k.Starts io d.category d.major d.minor true := by
  have hopens : k.Starts io d.category d.major d.minor true ↔
      d.category ≠ .DEVICE_OTHER ∧ d.ck_device_open k true ≠ none := by
    rw [CkDevice.open_ne_none_iff]
    simp [Kernel.Starts]
  rw [hopens]
  unfold new
  split
  · rename_i hother
    exact iff_of_false (inactive_not_tells hstate rfl) fun h => h.1 hother
  · rename_i hmanaged
    split
    · rename_i fd hfd
      exact iff_of_true ⟨fun _ => rfl, hstate.symm⟩ ⟨hmanaged, by simp [hfd]⟩
    · rename_i hfd
      refine iff_of_false (inactive_not_tells hstate ?_) fun h => h.2 hfd
      -- the second attempt was made in an inactive state
      rw [if_pos rfl]
      cases d.ck_device_open k false <;> rfl

theorem new_inactive_tells_iff (hstate : d.state = false) :
    (new k io d false).Tells d ↔ k.Starts io d.category d.major d.minor false := by
  unfold Tells
  rw [hstate, and_iff_right (by simp)]
  unfold new Kernel.Starts
  simp only [Bool.false_eq_true, if_false]
  cases hcategory : d.category with
  | DEVICE_OTHER => simp [muted]
  | DEVICE_DRM =>
    unfold CkDevice.ck_device_open
    rw [hcategory]
    cases k.g_open d.major d.minor false <;> simp [opened, muted]
  | DEVICE_EVDEV =>
    unfold CkDevice.ck_device_open
    rw [hcategory]
    cases k.g_open d.major d.minor false <;> simp [opened, muted]

/-- A new device. -/
theorem new_tells_iff {major minor : Nat} {active : Bool}
    (hnew : CkDevice.ck_device_new k major minor active = some d) :
    (new k io d active).Tells d ↔ k.Starts io d.category major minor active := by
  obtain ⟨rfl, rfl, hstate, -⟩ := new_device hnew
  cases active with
  | true => exact new_active_tells_iff hstate
  | false => exact new_inactive_tells_iff hstate

end

end Descriptor

/-- The records of the devices are right. -/
def Sound (devices : List CkDevice) (descriptor : Nat → Nat → Descriptor) : Prop :=
  ∀ d ∈ devices, (descriptor d.major d.minor).Tells d

theorem Sound.sublist {devices devices' : List CkDevice} {descriptor : Nat → Nat → Descriptor}
    (h : Sound devices descriptor) (hsub : devices'.Sublist devices) : Sound devices' descriptor :=
  fun d hd => h d (hsub.subset hd)

theorem Distinct.find_mem {devices : List CkDevice} (h : Distinct devices) {d : CkDevice}
    (hd : d ∈ devices) : devices.find? (fun e => e.compare d.major d.minor) = some d := by
  cases hfind : devices.find? fun e => e.compare d.major d.minor with
  | none =>
    have hnone := List.find?_eq_none.mp hfind d hd
    exact absurd (compare_iff.mpr ⟨rfl, rfl⟩) hnone
  | some e =>
    have hcompare : e.compare d.major d.minor = true :=
      List.find?_some (p := fun e : CkDevice => e.compare d.major d.minor) hfind
    obtain ⟨hmajor, hminor⟩ := compare_iff.mp hcompare
    have heq := List.inj_on_of_nodup_map h (List.mem_of_find?_eq_some hfind) hd
      (Prod.ext hmajor hminor)
    rw [heq]

namespace Held

section
variable {h : Held} {d : CkDevice}

theorem onEach_mem (hdistinct : Distinct h.session.devices) (hd : d ∈ h.session.devices)
    (f : CkDevice → Descriptor → Descriptor) :
    h.onEach f d.major d.minor = f d (h.descriptor d.major d.minor) := by
  unfold onEach
  rw [hdistinct.find_mem hd]

/-- A change of all devices on the list. -/
theorem onEach_sound_iff (hdistinct : Distinct h.session.devices)
    {f : CkDevice → CkDevice} {g : CkDevice → Descriptor → Descriptor} {Q : CkDevice → Prop}
    (hf : ∀ d, (f d).major = d.major ∧ (f d).minor = d.minor)
    (hiff : ∀ d ∈ h.session.devices,
      (g d (h.descriptor d.major d.minor)).Tells (f d) ↔ Q d) :
    Sound (h.session.devices.map f) (h.onEach g) ↔ ∀ d ∈ h.session.devices, Q d := by
  constructor
  · intro hsound d hd
    have htells := hsound (f d) (List.mem_map_of_mem hd)
    rw [(hf d).1, (hf d).2, onEach_mem hdistinct hd] at htells
    exact (hiff d hd).mp htells
  · intro hall e he
    obtain ⟨d, hd, rfl⟩ := List.mem_map.mp he
    rw [(hf d).1, (hf d).2, onEach_mem hdistinct hd]
    exact (hiff d hd).mpr (hall d hd)

theorem onOne_self (major minor : Nat) (c : Descriptor) : h.onOne major minor c major minor = c :=
  if_pos ⟨rfl, rfl⟩

theorem onOne_other {major minor : Nat} (c : Descriptor)
    (hne : ¬ (d.major = major ∧ d.minor = minor)) :
    h.onOne major minor c d.major d.minor = h.descriptor d.major d.minor :=
  if_neg hne

end

end Held

/-! ## Section 4: Steps -/

namespace Held

/-- The kernel does what is asked for in the step: a new device is opened in
    the state of the session, the descriptors of devices that are resumed are
    given back, those of devices that are paused are taken away. -/
def Succeeds (h : Held) (io : Ioctls) : Event → Prop
  | .take_device k sender major minor =>
      h.session.session_controller = some sender →
        (h.session.ck_session_get_device k major minor).1 = none →
        ∀ category, k.udevice major minor = some category →
          k.Starts io category major minor h.session.active
  | .pause_device_complete k sender major minor =>
      h.session.session_controller = some sender →
        ∀ d, (h.session.ck_session_get_device k major minor).1 = some d →
          d.state = true → io.Mutes d
  | .set_active k active force =>
      if active then
        h.session.active = false → h.session.session_controller ≠ none →
          ∀ d ∈ h.session.devices, d.state = false → k.Regains d
      else
        h.session.active = true → force = true →
          ∀ d ∈ h.session.devices, d.state = true → io.Mutes d
  | .pause_timeout | .vt_leave => ∀ d ∈ h.session.devices, d.state = true → io.Mutes d
  | _ => True

/-- The events after which no device is new or changed. -/
def Removes : Event → Prop
  | .take_control .. | .release_control _ | .controller_vanished | .release_device .. => True
  | _ => False

section
variable {h : Held} {io : Ioctls}

theorem removes_sublist {s s' : CkSession} {event : Event} (hevent : Removes event)
    (hdistinct : Distinct s.devices) (hchanges : s.Changes s' event) :
    s'.devices.Sublist s.devices := by
  cases hchanges with
  | kept _ hdevices => exact hdevices ▸ List.Sublist.refl _
  | lost _ hdevices => exact hdevices ▸ List.nil_sublist _
  | dropped _ _ _ hdevices => exact hdevices ▸ (get_device_numbers hdistinct _ _ _).1
  | released _ _ hdevices => exact hdevices ▸ List.eraseP_sublist
  | created | acknowledged | resumed => exact hevent.elim
  | paused hpauses _ _ =>
    cases event with
    | set_active | pause_timeout | vt_leave => exact hevent.elim
    | _ => exact hpauses.elim

/-- All devices are paused. -/
theorem paused_sound_iff (hsound : Sound h.session.devices h.descriptor)
    (hdistinct : Distinct h.session.devices) :
    Sound (h.session.devices.map CkDevice.pause) (h.onEach fun d c => c.pause io d) ↔
      ∀ d ∈ h.session.devices, d.state = true → io.Mutes d :=
  onEach_sound_iff hdistinct (fun _ => ⟨rfl, rfl⟩)
    fun d hd => Descriptor.pause_tells_iff (hsound d hd)

/-- All devices are resumed. -/
theorem resumed_sound_iff (hsound : Sound h.session.devices h.descriptor)
    (hdistinct : Distinct h.session.devices) (k : Kernel) :
    Sound (h.session.devices.map fun d => d.ck_device_set_active k true)
        (h.onEach fun d c => c.resume k io d) ↔
      ∀ d ∈ h.session.devices, d.state = false → k.Regains d :=
  onEach_sound_iff hdistinct (resumed_number k)
    fun d hd => Descriptor.resume_tells_iff (hsound d hd)

/-- A device is put on the list. -/
theorem created_sound_iff {devices : List CkDevice} (hsound : Sound devices h.descriptor)
    {d : CkDevice} (hfresh : ∀ e ∈ devices, ¬ (e.major = d.major ∧ e.minor = d.minor))
    (c : Descriptor) :
    Sound (d :: devices) (h.onOne d.major d.minor c) ↔ c.Tells d := by
  constructor
  · intro hall
    have htells := hall d List.mem_cons_self
    rwa [onOne_self] at htells
  · intro htells e he
    rcases List.mem_cons.mp he with rfl | he
    · rwa [onOne_self]
    · rw [onOne_other c (hfresh e he)]
      exact hsound e he

theorem take_device_sound_iff (hsound : Sound h.session.devices h.descriptor)
    (hdistinct : Distinct h.session.devices) (k : Kernel) (sender : CString)
    (major minor : Nat) :
    Sound (h.session.dbus_take_device k sender major minor).1.devices
        (h.descriptors io (.take_device k sender major minor)) ↔
      h.Succeeds io (.take_device k sender major minor) := by
  obtain ⟨hsub, hfresh⟩ := get_device_numbers hdistinct k major minor
  dsimp only [descriptors, Succeeds]
  by_cases hcreates : h.session.session_controller = some sender ∧
      (h.session.ck_session_get_device k major minor).1 = none
  · obtain ⟨hsender, hget⟩ := hcreates
    rw [if_pos ⟨hsender, hget⟩, forall_prop_of_true hsender, forall_prop_of_true hget]
    cases hnew : CkDevice.ck_device_new k major minor h.session.active with
    | none =>
      rw [CkSession.take_device_unknown k sender major minor hdistinct hsender hget hnew]
      -- Without a device in udev nothing is opened.
      refine iff_of_true (hsound.sublist hsub) fun category hudevice => ?_
      rw [CkSession.device_new_none_iff.mp hnew] at hudevice
      cases hudevice
    | some d =>
      -- The new record is right if its descriptor is; the old ones are not touched.
      obtain ⟨hudevice, rfl, rfl, -⟩ := CkDevice.ck_device_new_spec hnew
      rw [CkSession.take_device_created k sender _ _ hdistinct hsender hget hnew, hudevice]
      refine (created_sound_iff (d := { d with taken := d.fd.isSome }) (hsound.sublist hsub)
        (hfresh hget) _).trans ?_
      have hstarts : (Descriptor.new k io d h.session.active).Tells d ↔ _ :=
        Descriptor.new_tells_iff hnew
      -- the mark of a device that was taken does not matter
      refine Iff.trans hstarts ?_
      simp
  · rw [if_neg hcreates, CkSession.take_device_refused k sender major minor hcreates]
    exact iff_of_true hsound fun hsender hget => absurd ⟨hsender, hget⟩ hcreates

theorem modify_mem {devices : List CkDevice} {d : CkDevice} {major minor : Nat}
    {f : CkDevice → CkDevice} (hfind : devices.find? (fun d => d.compare major minor) = some d) :
    f d ∈ devices.modify (devices.findIdx fun d => d.compare major minor) f := by
  induction devices with
  | nil => cases hfind
  | cons e devices ih =>
    by_cases he : e.compare major minor = true
    · rw [List.find?_cons_of_pos (p := fun d : CkDevice => d.compare major minor) he] at hfind
      obtain rfl := Option.some.inj hfind
      rw [List.findIdx_cons, he, cond_true, List.modify_zero_cons]
      exact List.mem_cons_self
    · rw [List.find?_cons_of_neg (p := fun d : CkDevice => d.compare major minor) he] at hfind
      rw [List.findIdx_cons, Bool.eq_false_iff.mpr he, cond_false, List.modify_succ_cons]
      exact List.mem_cons_of_mem e (ih hfind)

/-- One device is paused. -/
theorem acknowledged_sound_iff (hsound : Sound h.session.devices h.descriptor)
    (hdistinct : Distinct h.session.devices) {major minor : Nat} {d : CkDevice}
    (hfind : h.session.devices.find? (fun d => d.compare major minor) = some d) :
    Sound (h.session.updateDevice major minor .pause).devices
        (h.onOne major minor ((h.descriptor major minor).pause io d)) ↔
      (d.state = true → io.Mutes d) := by
  have hcompare : d.compare major minor = true :=
    List.find?_some (p := fun d : CkDevice => d.compare major minor) hfind
  have hmem := List.mem_of_find?_eq_some hfind
  obtain ⟨rfl, rfl⟩ := compare_iff.mp hcompare
  rw [← Descriptor.pause_tells_iff (hsound d hmem)]
  constructor
  · intro hall
    have htells := hall d.pause (modify_mem hfind)
    rwa [show d.pause.major = d.major from rfl, show d.pause.minor = d.minor from rfl,
      onOne_self] at htells
  · intro htells e he
    rcases hdistinct.mem_modify he with ⟨hold, hne⟩ | ⟨e, hold, ⟨hmajor, hminor⟩, rfl⟩
    · rw [onOne_other _ hne]
      exact hsound e hold
    · -- The record that was changed is that of the device.
      obtain rfl := List.inj_on_of_nodup_map hdistinct hold hmem (Prod.ext hmajor hminor)
      rwa [show e.pause.major = e.major from rfl, show e.pause.minor = e.minor from rfl,
        onOne_self]

theorem get_device_some {k : Kernel} {s t : CkSession} {major minor : Nat} {d : CkDevice}
    (hget : s.ck_session_get_device k major minor = (some d, t)) :
    t = s ∧ s.devices.find? (fun d => d.compare major minor) = some d := by
  unfold ck_session_get_device at hget
  split at hget
  · cases hget
  · rename_i hfind
    split at hget
    · cases hget
    · cases hget
      exact ⟨rfl, hfind⟩

theorem pause_device_complete_sound_iff (hsound : Sound h.session.devices h.descriptor)
    (hdistinct : Distinct h.session.devices) (k : Kernel) (sender : CString)
    (major minor : Nat) :
    Sound (h.session.dbus_pause_device_complete k sender major minor).1.devices
        (h.descriptors io (.pause_device_complete k sender major minor)) ↔
      h.Succeeds io (.pause_device_complete k sender major minor) := by
  dsimp only [descriptors, Succeeds]
  unfold dbus_pause_device_complete
  by_cases hsender : h.session.session_controller = some sender
  · rw [if_neg (not_not_intro hsender), if_pos hsender, forall_prop_of_true hsender]
    cases hget : h.session.ck_session_get_device k major minor with
    | mk d t =>
      cases d with
      | none =>
        have hsub := (get_device_numbers hdistinct k major minor).1
        rw [hget] at hsub
        exact iff_of_true (hsound.sublist hsub) fun d hd => by cases hd
      | some d =>
        -- The check of the other devices changes the flag at most.
        obtain ⟨rfl, hfind⟩ := get_device_some hget
        have hdevices := (check_paused_devices_view
          (h.session.updateDevice major minor .pause) fun _ _ => none).1
        dsimp only
        rw [hdevices, acknowledged_sound_iff hsound hdistinct hfind]
        simp
  · rw [if_pos hsender, if_neg hsender]
    exact iff_of_true hsound fun hself => absurd hself hsender

theorem set_active_sound_iff (hsound : Sound h.session.devices h.descriptor)
    (hdistinct : Distinct h.session.devices) (k : Kernel) (active force : Bool) :
    Sound (h.session.ck_session_set_active k active force).1.devices
        (h.descriptors io (.set_active k active force)) ↔
      h.Succeeds io (.set_active k active force) := by
  dsimp only [descriptors, Succeeds]
  unfold ck_session_set_active
  by_cases hsame : h.session.active = active
  · rw [if_pos hsame, if_pos hsame]
    refine iff_of_true hsound ?_
    split
    · rename_i htrue
      intro hfalse
      rw [hsame, htrue] at hfalse
      cases hfalse
    · rename_i hfalse
      intro htrue
      exact absurd (hsame.symm.trans htrue) hfalse
  · rw [if_neg hsame, if_neg hsame]
    cases active with
    | true =>
      have hinactive : h.session.active = false := Bool.eq_false_iff.mpr hsame
      simp only [if_true, forall_prop_of_true hinactive]
      unfold ck_session_resume_all_devices
      cases hcontroller : h.session.session_controller with
      | none => exact iff_of_true hsound fun hsome => absurd rfl hsome
      | some controller =>
        rw [if_neg (by simp), forall_prop_of_true (by simp)]
        exact resumed_sound_iff hsound hdistinct k
    | false =>
      have hactive : h.session.active = true := by simpa using hsame
      simp only [Bool.false_eq_true, if_false, forall_prop_of_true hactive]
      cases force with
      | true =>
        rw [pause_all_devices_force, if_pos rfl, forall_prop_of_true rfl]
        exact paused_sound_iff hsound hdistinct
      | false =>
        simp only [pause_all_devices_wait, Bool.false_eq_true, if_false]
        refine iff_of_true ?_ fun hforce => by cases hforce
        split <;> exact hsound

/-- **Step lemma**: the records stay right exactly if the kernel does what is
    asked for. -/
theorem dispatch_sound_iff (hsound : Sound h.session.devices h.descriptor)
    (hdistinct : Distinct h.session.devices) {event : Event} {s' : CkSession}
    {messages : List Message} (hdispatch : h.session.dispatch event = some (s', messages)) :
    Sound s'.devices (h.descriptors io event) ↔ h.Succeeds io event := by
  have hchanges := dispatch_changes hdistinct hdispatch
  cases CkSession.dispatch_handled hdispatch with
  | take_device k sender major minor =>
    exact take_device_sound_iff hsound hdistinct k sender major minor
  | pause_device_complete k sender major minor =>
    exact pause_device_complete_sound_iff hsound hdistinct k sender major minor
  | set_active k active force => exact set_active_sound_iff hsound hdistinct k active force
  | pause_timeout =>
    unfold force_pause_devices
    rw [(check_paused_devices_view _ fun _ _ => none).1]
    exact paused_sound_iff hsound hdistinct
  | vt_leave =>
    unfold vt_leave_handler
    rw [pause_all_devices_force]
    exact paused_sound_iff hsound hdistinct
  | _ =>
    -- the descriptors of the devices that are left are not touched
    have hsub := fun hevent => removes_sublist hevent hdistinct hchanges
    exact iff_of_true (hsound.sublist (hsub trivial)) trivial

end

/-! ## Section 5: Every run -/

/-- No device of an inactive session is recorded active, whether a timer is
    pending or not, and the records say what the descriptors can do. -/
structure Honest (h : Held) : Prop where
  idle : h.session.Idle
  sound : Sound h.session.devices h.descriptor

structure Valid (h : Held) : Prop extends Honest h where
  distinct : Distinct h.session.devices

/-- The descriptors of a session that is new. -/
def start (unix_user vtnr : Nat) : Held := ⟨ck_session_init unix_user vtnr, fun _ _ => .muted⟩

theorem start_valid (unix_user vtnr : Nat) : (start unix_user vtnr).Valid where
  idle _ d hd := by cases hd
  sound d hd := by cases hd
  distinct := List.nodup_nil

theorem Valid.step {h h' : Held} {l : Event × Ioctls} (hvalid : h.Valid)
    (hnext : descriptor_system.next h l = some h') :
    h'.session.Idle ∧ Distinct h'.session.devices ∧
      (Sound h'.session.devices h'.descriptor ↔ h.Succeeds l.2 l.1) := by
  obtain ⟨s', hs', rfl⟩ := Option.map_eq_some_iff.mp hnext
  obtain ⟨⟨t, messages⟩, hdispatch, rfl⟩ := Option.map_eq_some_iff.mp hs'
  refine ⟨CkSession.dispatch_idle hvalid.idle hvalid.distinct hdispatch, ?_,
    dispatch_sound_iff hvalid.sound hvalid.distinct hdispatch⟩
  exact (CkSession.dispatch_changes hvalid.distinct hdispatch).distinct hvalid.distinct

end Held

/-- The records are right in all states of a run exactly if the kernel does
    what is asked for in all its steps. -/
theorem descriptors_honest (unix_user vtnr : Nat) (labels : List (Event × Ioctls)) :
    descriptor_system.Along (fun _ _ h' => h'.Honest) (Held.start unix_user vtnr) labels ↔
      descriptor_system.Along (fun h l _ => h.Succeeds l.2 l.1) (Held.start unix_user vtnr)
        labels := by
  refine LTS.System.along_congr (I := Held.Valid) ?_ ?_ (Held.start_valid unix_user vtnr) labels
  · intro h l h' hvalid hnext
    obtain ⟨hidle, -, hsound⟩ := hvalid.step hnext
    rw [← hsound]
    exact ⟨fun honest => honest.sound, fun hsound => ⟨hidle, hsound⟩⟩
  · intro h l h' hvalid hnext honest
    exact { honest with distinct := (hvalid.step hnext).2.1 }

/-- Another process is the master of the card. -/
def mastered_card : Kernel := { one_card with drm_set_master := fun _ => false }

def ioctls_succeed : Ioctls := ⟨fun _ => true, fun _ => true, fun _ => false⟩

/-- The card is opened a second time, in an inactive state, and recorded
    active. -/
theorem descriptors_dishonest :
    ¬ descriptor_system.Along (fun _ _ h' => h'.Honest) (Held.start 1000 1)
      [(.take_control (cstr ":1.5") (some 1000) false true, ioctls_succeed),
        (.set_active mastered_card true false, ioctls_succeed),
        (.take_device mastered_card (cstr ":1.5") 226 0, ioctls_succeed)] := by
  intro h
  have honest := (((h _ rfl).2 _ rfl).2 _ rfl).1
  have htells := honest.sound ⟨226, 0, .DEVICE_DRM, some 9, true, true⟩ List.mem_cons_self
  cases htells.2

end Device
