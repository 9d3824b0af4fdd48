import ConsoleKit.Device.Ownership
import Mathlib.Data.Multiset.ZeroCons

/-! # What a failed `TakeDevice` leaves behind

    `dbus_take_device` looks up the device, which may drop it, puts a new
    device on the list and only then asks for its descriptor.  It takes
    nothing back when there is none.

    This module provides:
    - `Opens`: a device whose node can be opened,
    - `AtomicOnError`: a call that fails has changed nothing,
    - `take_device_atomic`: when that is so.
-/

namespace Device

open Libc

/-- The device can be managed and its node can be opened, in an inactive
    state if need be. -/
def Kernel.Opens (k : Kernel) (major minor : Nat) (active : Bool) : Prop :=
  ∃ category, k.udevice major minor = some category ∧ category ≠ .DEVICE_OTHER ∧
    ((∃ fd, k.g_open major minor active = some fd ∧
        (category = .DEVICE_DRM → active = true → k.drm_set_master fd = true)) ∨
      (active = true ∧ k.g_open major minor false ≠ none))

namespace CkDevice

/-- What the source keeps of a device. -/
def record (d : CkDevice) : CkDevice := { d with taken := false }

theorem open_ne_none_iff {k : Kernel} {d : CkDevice} {active : Bool} :
    d.ck_device_open k active ≠ none ↔
      ∃ fd, k.g_open d.major d.minor active = some fd ∧
        (d.category = .DEVICE_DRM → active = true → k.drm_set_master fd = true) := by
  unfold ck_device_open
  cases hopen : k.g_open d.major d.minor active with
  | none => simp
  | some fd =>
    rw [Option.bind_some]
    cases hcategory : d.category with
    | DEVICE_DRM => cases active <;> simp
    | DEVICE_OTHER => simp
    | DEVICE_EVDEV => simp

/-- Without master an inactive device can be opened. -/
theorem open_inactive_ne_none_iff {k : Kernel} {d : CkDevice} :
    d.ck_device_open k false ≠ none ↔ k.g_open d.major d.minor false ≠ none := by
  rw [open_ne_none_iff, Option.ne_none_iff_exists']
  simp

/-- A new device, with its descriptor. -/
theorem ck_device_new_spec {k : Kernel} {major minor : Nat} {active : Bool} {d : CkDevice}
    (h : ck_device_new k major minor active = some d) :
    k.udevice major minor = some d.category ∧ d.major = major ∧ d.minor = minor ∧
      d.state = active ∧ d.taken = false ∧ (d.fd ≠ none ↔ k.Opens major minor active) := by
  obtain ⟨hmajor, hminor, hstate, htaken⟩ := new_device h
  obtain ⟨category, hudevice, heq⟩ := Option.map_eq_some_iff.mp h
  have hopens : k.Opens major minor active ↔ category ≠ .DEVICE_OTHER ∧
      ((⟨major, minor, category, none, active, false⟩ : CkDevice).ck_device_open k active ≠ none ∨
        (active = true ∧ (⟨major, minor, category, none, active, false⟩ :
          CkDevice).ck_device_open k false ≠ none)) := by
    rw [open_ne_none_iff, open_inactive_ne_none_iff]
    constructor
    · rintro ⟨category', hudevice', hopens⟩
      obtain rfl := Option.some.inj (hudevice.symm.trans hudevice')
      exact hopens
    · exact fun hopens => ⟨category, hudevice, hopens⟩
  dsimp only at heq
  split at heq
  · rename_i hother
    rw [← heq, hopens]
    exact ⟨hother ▸ hudevice, rfl, rfl, rfl, rfl, by simp [hother]⟩
  · rename_i hmanaged
    split at heq
    · rename_i fd hfd
      rw [← heq, hopens]
      exact ⟨hudevice, rfl, rfl, rfl, rfl, by simp [hmanaged, hfd]⟩
    · rename_i hfd
      split at heq
      · rename_i hactive
        rw [← heq, hopens]
        refine ⟨hudevice, rfl, rfl, rfl, rfl, ?_⟩
        rw [and_iff_right hmanaged, or_iff_right (not_not_intro hfd), and_iff_right hactive]
      · rename_i hinactive
        rw [← heq, hopens]
        refine ⟨hudevice, rfl, rfl, rfl, rfl, iff_of_false (not_not_intro rfl) ?_⟩
        rw [and_iff_right hmanaged, or_iff_right (not_not_intro hfd)]
        exact fun hopens => hinactive hopens.1

end CkDevice

namespace CkSession

/-! ## Section 1: Lookups -/

/-- An input device whose descriptor has been closed, or that has none. -/
def Dead (k : Kernel) (d : CkDevice) : Prop :=
  d.category = .DEVICE_EVDEV ∧ d.fd.all k.closed = true

section
variable {k : Kernel} {s : CkSession} {major minor : Nat}

theorem get_device_unlisted (h : s.devices.find? (fun d => d.compare major minor) = none) :
    s.ck_session_get_device k major minor = (none, s) := by
  unfold ck_session_get_device
  rw [h]

theorem get_device_dead {d : CkDevice} (hdead : Dead k d)
    (h : s.devices.find? (fun d => d.compare major minor) = some d) :
    s.ck_session_get_device k major minor =
      (none, { s with devices := s.devices.eraseP fun d => d.compare major minor }) := by
  unfold ck_session_get_device
  rw [h]
  exact if_pos hdead

theorem get_device_alive {d : CkDevice} (hdead : ¬ Dead k d)
    (h : s.devices.find? (fun d => d.compare major minor) = some d) :
    s.ck_session_get_device k major minor = (some d, s) := by
  unfold ck_session_get_device
  rw [h]
  exact if_neg hdead

/-! ## Section 2: When a failed call has changed nothing -/

/-- If the call fails, the devices on the list are as they were.  Unless the
    device was refused as already taken, it will not be refused so later. -/
def AtomicOnError (k : Kernel) (s : CkSession) (sender : CString) (major minor : Nat) : Prop :=
  ∀ code text, (s.dbus_take_device k sender major minor).2 = [.throw_error sender code text] →
    ((s.dbus_take_device k sender major minor).1.devices.map CkDevice.record).Perm
      (s.devices.map CkDevice.record) ∧
    ((s.ck_session_get_device k major minor).1 = none → ∀ k' : Kernel,
      ((s.dbus_take_device k sender major minor).1.ck_session_get_device k' major minor).1 = none)

/-- There is nothing to take back: the device is on the list, it is unknown
    or it can be opened.  A dead input device is on the list again only if it
    was left there by a call that failed. -/
def Restores (k : Kernel) (s : CkSession) (major minor : Nat) : Prop :=
  match s.devices.find? fun d => d.compare major minor with
  | none => k.udevice major minor = none ∨ k.Opens major minor s.active
  | some d =>
      Dead k d → k.Opens major minor s.active ∨
        (k.udevice major minor = some .DEVICE_EVDEV ∧ d.fd = none ∧ d.state = s.active)

/-- A record takes the place of the one that was found. -/
theorem replaced_perm_iff {devices : List CkDevice} {d e : CkDevice}
    (h : devices.find? (fun d => d.compare major minor) = some e) :
    ((d :: devices.eraseP fun d => d.compare major minor).map CkDevice.record).Perm
      (devices.map CkDevice.record) ↔ d.record = e.record := by
  obtain ⟨hcompare, before, after, rfl, hbefore⟩ := List.find?_eq_some_iff_append.mp h
  -- The record that is erased is the one that was found.
  have herase : (before ++ e :: after).eraseP (fun d => d.compare major minor) =
      before ++ after := by
    rw [List.eraseP_append_right _ (by simpa using hbefore)]
    rw [List.eraseP_cons_of_pos (p := fun d : CkDevice => d.compare major minor) hcompare]
  rw [herase]
  have hmiddle : ((before ++ e :: after).map CkDevice.record).Perm
      (e.record :: (before ++ after).map CkDevice.record) :=
    List.perm_middle.map CkDevice.record
  rw [List.map_cons, hmiddle.congr_right, ← Multiset.coe_eq_coe, ← Multiset.cons_coe,
    ← Multiset.cons_coe, Multiset.cons_inj_left]

theorem erased_length {devices : List CkDevice} {e : CkDevice}
    (h : devices.find? (fun d => d.compare major minor) = some e) :
    (devices.eraseP fun d => d.compare major minor).length + 1 = devices.length := by
  have hmem := List.mem_of_find?_eq_some h
  rw [List.length_eraseP_of_mem hmem (List.find?_some h)]
  have hpos := List.length_pos_of_mem hmem
  omega

theorem device_new_none_iff {active : Bool} :
    CkDevice.ck_device_new k major minor active = none ↔ k.udevice major minor = none :=
  Option.map_eq_none_iff

theorem opens_of_new_none {active : Bool}
    (h : CkDevice.ck_device_new k major minor active = none) : ¬ k.Opens major minor active := by
  rintro ⟨category, hudevice, -⟩
  rw [device_new_none_iff.mp h] at hudevice
  cases hudevice

variable {sender : CString}

/-- No device of this number is on the list. -/
theorem atomic_unlisted_iff (hdistinct : Distinct s.devices)
    (hsender : s.session_controller = some sender)
    (hfind : s.devices.find? (fun d => d.compare major minor) = none) :
    s.AtomicOnError k sender major minor ↔
      k.udevice major minor = none ∨ k.Opens major minor s.active := by
  have hget := get_device_unlisted (k := k) hfind
  have hanswer := take_device_not_found k sender major minor hdistinct hsender (by rw [hget])
  rw [hget] at hanswer
  unfold AtomicOnError
  rw [hanswer]
  cases hnew : CkDevice.ck_device_new k major minor s.active with
  | none =>
    refine iff_of_true (fun _ _ _ => ⟨.refl _, fun _ k' => ?_⟩) (.inl (device_new_none_iff.mp hnew))
    show (s.ck_session_get_device k' major minor).1 = none
    rw [get_device_unlisted hfind]
  | some d =>
    obtain ⟨hudevice, -, -, -, -, hopens⟩ := CkDevice.ck_device_new_spec hnew
    dsimp only
    cases hfd : d.fd with
    | none =>
      -- the new device stays on the list
      have hclosed : ¬ k.Opens major minor s.active := fun h => hopens.mpr h hfd
      rw [hudevice, or_iff_right (by simp)]
      refine iff_of_false (fun hatomic => ?_) hclosed
      have hperm := (hatomic .NOT_SUPPORTED _ rfl).1.length_eq
      simp at hperm
    | some fd =>
      refine iff_of_true (fun code text herror => ?_) (.inr (hopens.mp (by simp [hfd])))
      cases herror

/-- The device is on the list. -/
theorem atomic_alive (hsender : s.session_controller = some sender) {e : CkDevice}
    (hfind : s.devices.find? (fun d => d.compare major minor) = some e) (hdead : ¬ Dead k e) :
    s.AtomicOnError k sender major minor := by
  have hget := get_device_alive hdead hfind
  have hanswer : s.dbus_take_device k sender major minor =
      (s, [.throw_error sender .GENERAL "Device has already been requested"]) := by
    unfold dbus_take_device
    rw [if_neg (not_not_intro hsender), hget]
  intro code text _
  rw [hanswer, hget]
  exact ⟨.refl _, fun hnone => by cases hnone⟩

/-- A dead input device is on the list, and is dropped. -/
theorem atomic_dead_iff (hdistinct : Distinct s.devices)
    (hsender : s.session_controller = some sender) {e : CkDevice}
    (hfind : s.devices.find? (fun d => d.compare major minor) = some e) (hdead : Dead k e) :
    s.AtomicOnError k sender major minor ↔ k.Opens major minor s.active ∨
      (k.udevice major minor = some .DEVICE_EVDEV ∧ e.fd = none ∧ e.state = s.active) := by
  have hget := get_device_dead hdead hfind
  have hanswer := take_device_not_found k sender major minor hdistinct hsender (by rw [hget])
  rw [hget] at hanswer
  unfold AtomicOnError
  rw [hanswer]
  cases hnew : CkDevice.ck_device_new k major minor s.active with
  | none =>
    -- the device that was dropped is missing
    refine iff_of_false (fun hatomic => ?_) ?_
    · have hperm := (hatomic .NOT_SUPPORTED _ rfl).1.length_eq
      have hlength := erased_length hfind
      simp only [List.length_map] at hperm
      omega
    · rintro (hopens | ⟨hudevice, -⟩)
      · exact opens_of_new_none hnew hopens
      · rw [device_new_none_iff.mp hnew] at hudevice
        cases hudevice
  | some d =>
    obtain ⟨hudevice, hmajor, hminor, hstate, htaken, hopens⟩ := CkDevice.ck_device_new_spec hnew
    dsimp only
    cases hfd : d.fd with
    | none =>
      have hclosed : ¬ k.Opens major minor s.active := fun h => hopens.mpr h hfd
      rw [or_iff_right hclosed, hudevice]
      constructor
      · -- If nothing has changed, the new record is the old one.
        intro hatomic
        have hrecord := (replaced_perm_iff hfind).mp (hatomic .NOT_SUPPORTED _ rfl).1
        simp only [CkDevice.record, CkDevice.mk.injEq, hstate] at hrecord
        obtain ⟨-, -, hcategory, hnone, hsame, -⟩ := hrecord
        exact ⟨congrArg some (hcategory.trans hdead.1), hnone.symm, hsame.symm⟩
      · rintro ⟨hcategory, hnone, hsame⟩ code text -
        have hevdev := Option.some.inj hcategory
        refine ⟨(replaced_perm_iff hfind).mpr ?_, fun _ k' => ?_⟩
        · have hcompare : e.compare major minor = true :=
            List.find?_some (p := fun d : CkDevice => d.compare major minor) hfind
          obtain ⟨hmajor', hminor'⟩ := compare_iff.mp hcompare
          simp only [CkDevice.record, CkDevice.mk.injEq]
          exact ⟨hmajor.trans hmajor'.symm, hminor.trans hminor'.symm, hevdev.trans hdead.1.symm,
            hnone.symm, hstate.trans hsame.symm, trivial⟩
        · -- without a descriptor it will be dropped again
          rw [get_device_dead (d := { d with taken := d.fd.isSome })]
          · exact ⟨hevdev, by simp [hfd]⟩
          · rw [hfd]
            exact List.find?_cons_of_pos (compare_iff.mpr ⟨hmajor, hminor⟩)
    | some fd =>
      refine iff_of_true (fun code text herror => ?_) (.inl (hopens.mp (by simp [hfd])))
      cases herror

end

end CkSession

/-- **Atomicity.**  A call of the controller that fails has changed nothing,
    exactly if there was nothing to take back. -/
theorem take_device_atomic {s : CkSession} (h : session_system.Reachable s) (k : Kernel)
    {sender : CString} (hsender : s.session_controller = some sender) (major minor : Nat) :
    s.AtomicOnError k sender major minor ↔ s.Restores k major minor := by
  have hdistinct := distinct_of_reachable h
  unfold CkSession.Restores
  cases hfind : s.devices.find? fun d => d.compare major minor with
  | none => exact CkSession.atomic_unlisted_iff hdistinct hsender hfind
  | some e =>
    dsimp only
    by_cases hdead : CkSession.Dead k e
    · rw [forall_prop_of_true hdead]
      exact CkSession.atomic_dead_iff hdistinct hsender hfind hdead
    · exact iff_of_true (CkSession.atomic_alive hsender hfind hdead) fun h => absurd h hdead

/-- A session whose user is its controller. -/
def controlled_session : CkSession :=
  ((ck_session_init 1000 1).dbus_take_control (cstr ":1.5") (some 1000) false true).1

theorem controlled_session_reachable : session_system.Reachable controlled_session :=
  LTS.System.Reachable.step (l := .take_control (cstr ":1.5") (some 1000) false true)
    (.init ⟨1000, 1, rfl⟩) rfl

theorem take_device_atomic_card :
    controlled_session.AtomicOnError one_card (cstr ":1.5") 226 0 ↔
      controlled_session.Restores one_card 226 0 :=
  take_device_atomic controlled_session_reachable one_card rfl 226 0

/-- The card cannot be opened. -/
def closed_card : Kernel := { one_card with g_open := fun _ _ _ => none }

/-- The call fails, and the next one is refused, although the card could be
    opened now. -/
theorem take_device_leaves_device :
    session_system.Reachable controlled_session ∧
    controlled_session.session_controller = some (cstr ":1.5") ∧
    (controlled_session.dbus_take_device closed_card (cstr ":1.5") 226 0).2 =
      [.throw_error (cstr ":1.5") .NOT_SUPPORTED "Failed to get file descriptor for device"] ∧
    ((controlled_session.dbus_take_device closed_card (cstr ":1.5") 226 0).1.dbus_take_device
        one_card (cstr ":1.5") 226 0).2 =
      [.throw_error (cstr ":1.5") .GENERAL "Device has already been requested"] ∧
    ¬ controlled_session.AtomicOnError closed_card (cstr ":1.5") 226 0 := by
  refine ⟨controlled_session_reachable, rfl, rfl, rfl, fun hatomic => ?_⟩
  have hperm := (hatomic .NOT_SUPPORTED _ rfl).1.length_eq
  cases hperm

end Device
