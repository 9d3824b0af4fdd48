import ConsoleKit.Device.Model
import Mathlib.Data.List.Nodup

/-! # What the controller knows about its devices

    The controller of a session computes the state of each device from the
    answers to its calls and from the signals.  This module says when that
    is the state that the daemon has recorded.

    - `View`: what the controller computes,
    - `Agree`: the two agree for every device that was taken,
    - `Silent`: the steps that change a record without telling so,
    - `controller_view_tracks`: the views agree in all states of a run
      exactly if no step of it is silent.
-/

namespace Device

open Libc CkSession

/-! ## Section 1: The controller's view -/

/-- Whether a device is active, by its number; `none` if it is not known. -/
abbrev View := Nat → Nat → Option Bool

namespace View

def set (v : View) (major minor : Nat) (active : Option Bool) : View :=
  fun major' minor' => if major' = major ∧ minor' = minor then active else v major' minor'

/-- A message from the daemon.  A pause that is not forced is over when the
    controller says so. -/
def receive (v : View) : Message → View
  | .complete_take_device _ major minor _ inactive => v.set major minor (some !inactive)
  | .PauseDevice major minor .force => v.set major minor (some false)
  | .ResumeDevice _ major minor _ => v.set major minor (some true)
  | _ => v

/-- A call of the controller that was answered without an error. -/
def complete (v : View) : Event → View
  | .pause_device_complete _ _ major minor => v.set major minor (some false)
  | .release_device _ _ major minor => v.set major minor none
  | _ => v

/-- The view after a step; a new controller knows nothing. -/
def step (v : View) (s : CkSession) (event : Event) (r : CkSession × List Message) : View :=
  if r.1.session_controller ≠ s.session_controller then fun _ _ => none
  else
    let v := r.2.foldl receive v
    if r.2.any fun message => message matches .complete _ then v.complete event else v

end View

structure Controlled where
  session : CkSession
  view : View

/-- A session together with its controller. -/
def controlled_system : LTS.System Controlled Event where
  init c := ∃ unix_user vtnr, c = ⟨ck_session_init unix_user vtnr, fun _ _ => none⟩
  next c event :=
    (c.session.dispatch event).map fun r => ⟨r.1, c.view.step c.session event r⟩

/-! ## Section 2: Agreement -/

/-- The controller knows the state of each device that it has taken. -/
def Agree (devices : List CkDevice) (v : View) : Prop :=
  ∀ d ∈ devices, d.taken = true → v d.major d.minor = some d.state

/-- No two records have the same device number. -/
def Distinct (devices : List CkDevice) : Prop :=
  (devices.map fun d => (d.major, d.minor)).Nodup

theorem compare_iff {d : CkDevice} {major minor : Nat} :
    d.compare major minor = true ↔ d.major = major ∧ d.minor = minor := by
  simp [CkDevice.compare]

namespace Distinct

variable {devices : List CkDevice} {major minor : Nat}

theorem sublist {devices' : List CkDevice} (h : Distinct devices)
    (hsub : devices'.Sublist devices) : Distinct devices' :=
  List.Nodup.sublist (hsub.map _) h

theorem ne_of_mem {d e : CkDevice} (h : Distinct (e :: devices)) (hd : d ∈ devices) :
    ¬ (d.major = e.major ∧ d.minor = e.minor) := by
  intro hnumber
  apply (List.nodup_cons.mp h).1
  exact List.mem_map.mpr ⟨d, hd, Prod.ext hnumber.1 hnumber.2⟩

/-- The records that remain when one is removed. -/
theorem mem_eraseP (h : Distinct devices) {d : CkDevice}
    (hd : d ∈ devices.eraseP fun d => d.compare major minor) :
    d ∈ devices ∧ ¬ (d.major = major ∧ d.minor = minor) := by
  induction devices with
  | nil => cases hd
  | cons e devices ih =>
    have hrest : Distinct devices := (List.nodup_cons.mp h).2
    by_cases he : e.compare major minor = true
    · rw [List.eraseP_cons_of_pos (p := fun d : CkDevice => d.compare major minor) he] at hd
      obtain ⟨rfl, rfl⟩ := compare_iff.mp he
      exact ⟨List.mem_cons_of_mem e hd, h.ne_of_mem hd⟩
    · rw [List.eraseP_cons_of_neg (p := fun d : CkDevice => d.compare major minor) he] at hd
      rcases List.mem_cons.mp hd with rfl | hd
      · exact ⟨List.mem_cons_self, fun hnumber => he (compare_iff.mpr hnumber)⟩
      · obtain ⟨hmem, hne⟩ := ih hrest hd
        exact ⟨List.mem_cons_of_mem e hmem, hne⟩

/-- The records after one was changed. -/
theorem mem_modify (h : Distinct devices) {f : CkDevice → CkDevice} {d : CkDevice}
    (hd : d ∈ devices.modify (devices.findIdx fun d => d.compare major minor) f) :
    (d ∈ devices ∧ ¬ (d.major = major ∧ d.minor = minor)) ∨
    ∃ e ∈ devices, (e.major = major ∧ e.minor = minor) ∧ d = f e := by
  induction devices with
  | nil => simp at hd
  | cons e devices ih =>
    have hrest : Distinct devices := (List.nodup_cons.mp h).2
    by_cases he : e.compare major minor = true
    · rw [List.findIdx_cons, he, cond_true, List.modify_zero_cons] at hd
      obtain ⟨rfl, rfl⟩ := compare_iff.mp he
      rcases List.mem_cons.mp hd with rfl | hd
      · exact .inr ⟨e, List.mem_cons_self, ⟨rfl, rfl⟩, rfl⟩
      · exact .inl ⟨List.mem_cons_of_mem e hd, h.ne_of_mem hd⟩
    · rw [List.findIdx_cons, Bool.eq_false_iff.mpr he, cond_false, List.modify_succ_cons] at hd
      rcases List.mem_cons.mp hd with rfl | hd
      · exact .inl ⟨List.mem_cons_self, fun hnumber => he (compare_iff.mpr hnumber)⟩
      · rcases ih hrest hd with ⟨hmem, hne⟩ | ⟨e', he', hnumber, heq⟩
        · exact .inl ⟨List.mem_cons_of_mem e hmem, hne⟩
        · exact .inr ⟨e', List.mem_cons_of_mem e he', hnumber, heq⟩

/-- A change that leaves the numbers alone. -/
theorem of_numbers {devices' : List CkDevice} (h : Distinct devices)
    (heq : (devices'.map fun d => (d.major, d.minor)) = devices.map fun d => (d.major, d.minor)) :
    Distinct devices' := by
  unfold Distinct
  rw [heq]
  exact h

theorem modify (h : Distinct devices) (i : Nat) {f : CkDevice → CkDevice}
    (hf : ∀ d, (f d).major = d.major ∧ (f d).minor = d.minor) :
    Distinct (devices.modify i f) := by
  refine h.of_numbers ?_
  induction devices generalizing i with
  | nil => simp
  | cons e devices ih =>
    cases i with
    | zero => simp [hf e]
    | succ i =>
      rw [List.modify_succ_cons, List.map_cons, List.map_cons, ih (List.nodup_cons.mp h).2 i]

theorem map (h : Distinct devices) {f : CkDevice → CkDevice}
    (hf : ∀ d, (f d).major = d.major ∧ (f d).minor = d.minor) : Distinct (devices.map f) := by
  refine h.of_numbers ?_
  rw [List.map_map]
  refine List.map_congr_left fun d _ => ?_
  show ((f d).major, (f d).minor) = _
  rw [(hf d).1, (hf d).2]

end Distinct

namespace CkSession

/-- Looking up a device: the list is as it was or has lost a record; if none
    is found, none is left. -/
theorem get_device_cases {k : Kernel} {s s' : CkSession} {major minor : Nat}
    {d : Option CkDevice} (hdistinct : Distinct s.devices)
    (h : s.ck_session_get_device k major minor = (d, s')) :
    (∃ devices, s' = { s with devices := devices } ∧ devices.Sublist s.devices ∧
      (d = none → ∀ e ∈ devices, ¬ (e.major = major ∧ e.minor = minor))) ∧
    (d ≠ none → s' = s) := by
  unfold ck_session_get_device at h
  split at h
  · rename_i hfind
    cases h
    refine ⟨⟨_, rfl, .refl _, fun _ e he hnumber => ?_⟩, fun _ => rfl⟩
    exact List.find?_eq_none.mp hfind e he (compare_iff.mpr hnumber)
  · split at h
    · cases h
      exact ⟨⟨_, rfl, List.eraseP_sublist, fun _ e he => (hdistinct.mem_eraseP he).2⟩,
        fun hsome => absurd rfl hsome⟩
    · cases h
      exact ⟨⟨_, rfl, .refl _, fun hnone => by cases hnone⟩, fun _ => rfl⟩

end CkSession

/-! ## Section 3: What the messages tell -/

namespace View

variable (v : View) (major minor : Nat)

/-- Messages about devices that are all in the same state. -/
theorem foldl_receive {message : CkDevice → Message} {active : Bool}
    (hmessage : ∀ d v, receive v (message d) = v.set d.major d.minor (some active))
    (devices : List CkDevice) :
    ((devices.map message).foldl receive v) major minor =
      if ∃ d ∈ devices, d.major = major ∧ d.minor = minor then some active
      else v major minor := by
  induction devices generalizing v with
  | nil => simp
  | cons d devices ih =>
    rw [List.map_cons, List.foldl_cons, hmessage, ih]
    by_cases hlater : ∃ d ∈ devices, d.major = major ∧ d.minor = minor
    · obtain ⟨e, he, hnumber⟩ := hlater
      rw [if_pos ⟨e, he, hnumber⟩, if_pos ⟨e, List.mem_cons_of_mem d he, hnumber⟩]
    · rw [if_neg hlater]
      by_cases hd : d.major = major ∧ d.minor = minor
      · rw [if_pos ⟨d, List.mem_cons_self, hd⟩, set, if_pos ⟨hd.1.symm, hd.2.symm⟩]
      · have hnone : ¬ ∃ e ∈ d :: devices, e.major = major ∧ e.minor = minor := by
          rintro ⟨e, he, hnumber⟩
          rcases List.mem_cons.mp he with rfl | he
          · exact hd hnumber
          · exact hlater ⟨e, he, hnumber⟩
        rw [if_neg hnone, set, if_neg fun heq => hd ⟨heq.1.symm, heq.2.symm⟩]

theorem foldl_pause (devices : List CkDevice) :
    (pause_messages .force devices).foldl receive v major minor =
      if ∃ d ∈ devices, d.state = true ∧ d.major = major ∧ d.minor = minor then some false
      else v major minor := by
  refine (foldl_receive v major minor (fun _ _ => rfl) _).trans (if_congr ?_ rfl rfl)
  simp [and_assoc]

/-- A request to pause changes nothing yet. -/
theorem foldl_pause_wait (devices : List CkDevice) :
    (pause_messages .pause devices).foldl receive v = v := by
  unfold pause_messages
  induction devices.filter (·.state) generalizing v with
  | nil => rfl
  | cons d devices ih => exact ih v

theorem foldl_resume (controller : CString) (devices : List CkDevice) :
    (resume_messages controller devices).foldl receive v major minor =
      if ∃ d ∈ devices, d.fd ≠ none ∧ d.major = major ∧ d.minor = minor then some true
      else v major minor := by
  have heq : resume_messages controller devices = (devices.filter (·.fd.isSome)).map
      fun d => .ResumeDevice controller d.major d.minor (d.fd.getD 0) := by
    unfold resume_messages
    induction devices with
    | nil => rfl
    | cons d devices ih =>
      cases hfd : d.fd with
      | none => simp [hfd, ih]
      | some fd => simp [hfd, ih]
  rw [heq]
  refine (foldl_receive v major minor (fun _ _ => rfl) _).trans (if_congr ?_ rfl rfl)
  simp [and_assoc, Option.isSome_iff_ne_none]

end View

/-! ## Section 4: Pausing and resuming -/

section views
variable {s : CkSession} {v : View}

/-- Devices that are paused by force are reported. -/
theorem Agree.pause {devices : List CkDevice} (h : Agree devices v) :
    Agree (devices.map .pause) ((pause_messages .force devices).foldl View.receive v) := by
  intro d hd htaken
  obtain ⟨e, he, rfl⟩ := List.mem_map.mp hd
  rw [View.foldl_pause]
  by_cases hactive : e.state = true
  · rw [if_pos ⟨e, he, hactive, rfl, rfl⟩]
    rfl
  · show (if _ then some false else v e.major e.minor) = some false
    rw [h e he htaken, Bool.eq_false_iff.mpr hactive, ite_self]

/-- Devices that are paused without a message. -/
theorem Agree.pause_silent_iff {devices : List CkDevice} (h : Agree devices v) :
    Agree (devices.map .pause) v ↔ ¬ ∃ d ∈ devices, d.taken = true ∧ d.state = true := by
  constructor
  · rintro hagree ⟨d, hd, htaken, hactive⟩
    have hpaused := hagree d.pause (List.mem_map_of_mem hd) htaken
    rw [show v d.pause.major d.pause.minor = some d.state from h d hd htaken, hactive] at hpaused
    cases hpaused
  · intro hnone d hd htaken
    obtain ⟨e, he, rfl⟩ := List.mem_map.mp hd
    have hinactive : e.state = false :=
      Bool.eq_false_iff.mpr fun hactive => hnone ⟨e, he, htaken, hactive⟩
    exact (h e he htaken).trans (congrArg some hinactive)

/-- The record of a device that is resumed. -/
theorem resumed_number (k : Kernel) (d : CkDevice) :
    (d.ck_device_set_active k true).major = d.major ∧
      (d.ck_device_set_active k true).minor = d.minor := by
  unfold CkDevice.ck_device_set_active
  split
  · exact ⟨rfl, rfl⟩
  · dsimp only
    split <;> exact ⟨rfl, rfl⟩

theorem resumed_state (k : Kernel) (d : CkDevice) :
    (d.ck_device_set_active k true).state = true ∧
      (d.ck_device_set_active k true).taken = d.taken := by
  unfold CkDevice.ck_device_set_active
  split
  · rename_i h
    exact ⟨h, rfl⟩
  · dsimp only
    split <;> exact ⟨rfl, rfl⟩

theorem Agree.resume_iff {devices : List CkDevice} (h : Agree devices v)
    (hdistinct : Distinct devices) (k : Kernel) (controller : CString) :
    Agree (devices.map fun d => d.ck_device_set_active k true)
      ((resume_messages controller
        (devices.map fun d => d.ck_device_set_active k true)).foldl View.receive v) ↔
    ¬ ∃ d ∈ devices, d.taken = true ∧ d.state = false ∧
      (d.ck_device_set_active k true).fd = none := by
  -- a device is reported if it has a descriptor afterwards
  have hview : ∀ d ∈ devices, (resume_messages controller
      (devices.map fun d => d.ck_device_set_active k true)).foldl View.receive v d.major d.minor =
      if (d.ck_device_set_active k true).fd ≠ none then some true else v d.major d.minor := by
    intro d hd
    rw [View.foldl_resume]
    refine if_congr ⟨?_, fun hfd => ?_⟩ rfl rfl
    · rintro ⟨e', he', hfd, hmajor, hminor⟩
      obtain ⟨e, he, rfl⟩ := List.mem_map.mp he'
      rw [(resumed_number k e).1] at hmajor
      rw [(resumed_number k e).2] at hminor
      have heq : e = d := List.inj_on_of_nodup_map hdistinct he hd (Prod.ext hmajor hminor)
      exact heq ▸ hfd
    · exact ⟨_, List.mem_map_of_mem hd, hfd, resumed_number k d⟩
  constructor
  · rintro hagree ⟨d, hd, htaken, hinactive, hfd⟩
    have hresumed := hagree _ (List.mem_map_of_mem hd) ((resumed_state k d).2.trans htaken)
    rw [(resumed_number k d).1, (resumed_number k d).2, hview d hd, if_neg (not_not.mpr hfd),
      h d hd htaken, hinactive, (resumed_state k d).1] at hresumed
    cases hresumed
  · intro hnone d' hd' htaken
    obtain ⟨d, hd, rfl⟩ := List.mem_map.mp hd'
    rw [(resumed_state k d).2] at htaken
    rw [(resumed_number k d).1, (resumed_number k d).2, hview d hd, (resumed_state k d).1]
    by_cases hfd : (d.ck_device_set_active k true).fd = none
    · rw [if_neg (not_not.mpr hfd), h d hd htaken]
      by_cases hactive : d.state = true
      · rw [hactive]
      · exact absurd ⟨d, hd, htaken, Bool.eq_false_iff.mpr hactive, hfd⟩ hnone
    · rw [if_pos hfd]

/-! ## Section 5: Steps -/

/-- The steps after which the controller is wrong about a device: it is told
    the opposite when it takes one, it hears nothing of a device that is
    resumed without a descriptor, and nothing of the end of a pause. -/
def Silent (s : CkSession) : Event → Prop
  | .take_device k sender major minor =>
      s.session_controller = some sender ∧ (s.ck_session_get_device k major minor).1 = none ∧
        ∃ d, CkDevice.ck_device_new k major minor s.active = some d ∧ d.fd ≠ none
  | .set_active k active _ =>
      active = true ∧ s.active = false ∧ s.session_controller ≠ none ∧
        ∃ d ∈ s.devices, d.taken = true ∧ d.state = false ∧
          (d.ck_device_set_active k true).fd = none
  | .pause_timeout => ∃ d ∈ s.devices, d.taken = true ∧ d.state = true
  | _ => False

/-- The controller's view after a step that leaves the controller alone. -/
theorem View.step_same {r : CkSession × List Message} (event : Event)
    (h : r.1.session_controller = s.session_controller) :
    v.step s event r = if r.2.any (fun message => message matches .complete _) then
      (r.2.foldl View.receive v).complete event else r.2.foldl View.receive v := by
  unfold View.step
  rw [if_neg (not_not.mpr h)]

theorem View.step_quiet {r : CkSession × List Message} {event : Event}
    (h : r.1.session_controller = s.session_controller)
    (hevent : ∀ v, View.complete v event = v) :
    v.step s event r = r.2.foldl View.receive v := by
  rw [View.step_same event h, hevent, ite_self]

theorem View.step_error {s' : CkSession} {event : Event} {sender : CString}
    {code : CkSessionError} {text : String}
    (h : s'.session_controller = s.session_controller) :
    v.step s event (s', [.throw_error sender code text]) = v :=
  View.step_same event h

/-- A step of which the controller keeps the right view. -/
def Tracks (s : CkSession) (v : View) (event : Event) (r : CkSession × List Message) : Prop :=
  Distinct r.1.devices ∧ (Agree r.1.devices (v.step s event r) ↔ ¬ Silent s event)

theorem Agree.sublist {devices devices' : List CkDevice} (h : Agree devices v)
    (hsub : devices'.Sublist devices) : Agree devices' v :=
  fun d hd => h d (hsub.subset hd)

theorem new_device {k : Kernel} {major minor : Nat} {active : Bool} {d : CkDevice}
    (h : CkDevice.ck_device_new k major minor active = some d) :
    d.major = major ∧ d.minor = minor ∧ d.state = active ∧ d.taken = false := by
  obtain ⟨category, -, rfl⟩ := Option.map_eq_some_iff.mp h
  dsimp only
  split
  · exact ⟨rfl, rfl, rfl, rfl⟩
  · split
    · exact ⟨rfl, rfl, rfl, rfl⟩
    · split <;> exact ⟨rfl, rfl, rfl, rfl⟩

/-- A device that is not on the list is created. -/
theorem create_device_cases {k : Kernel} {major minor : Nat}
    (hnone : ∀ e ∈ s.devices, ¬ (e.major = major ∧ e.minor = minor)) :
    s.ck_session_create_device k major minor =
      match CkDevice.ck_device_new k major minor s.active with
      | some d => (some d, { s with devices := d :: s.devices })
      | none => (none, s) := by
  have hfind : s.devices.find? (fun d => d.compare major minor) = none := by
    apply List.find?_eq_none.mpr
    intro e he hcompare
    exact hnone e he (compare_iff.mp hcompare)
  have hget : s.ck_session_get_device k major minor = (none, s) := by
    unfold ck_session_get_device
    rw [hfind]
  cases hnew : CkDevice.ck_device_new k major minor s.active <;>
    simp only [ck_session_create_device, hget, hnew]

theorem tracks_take_device (h : Agree s.devices v) (hdistinct : Distinct s.devices)
    (k : Kernel) (sender : CString) (major minor : Nat) :
    Tracks s v (.take_device k sender major minor)
      (s.dbus_take_device k sender major minor) := by
  unfold dbus_take_device
  split
  · rename_i hother
    refine ⟨hdistinct, ?_⟩
    rw [View.step_error (by rfl)]
    exact iff_of_true h fun hsilent => hother hsilent.1
  · rename_i hsender
    have hcontroller := not_not.mp hsender
    split
    · rename_i d s' hget
      obtain rfl := (get_device_cases hdistinct hget).2 (by simp)
      refine ⟨hdistinct, ?_⟩
      rw [View.step_error (by rfl)]
      refine iff_of_true h fun hsilent => ?_
      obtain ⟨-, hnone, -⟩ := hsilent
      rw [hget] at hnone
      cases hnone
    · -- The device is not on the list, or has been dropped from it.
      rename_i hget
      obtain ⟨devices, rfl, hsub, hnone⟩ := (get_device_cases hdistinct hget).1
      rw [create_device_cases (s := { s with devices := devices }) (hnone rfl)]
      cases hnew : CkDevice.ck_device_new k major minor s.active with
      | none =>
        dsimp only
        refine ⟨hdistinct.sublist hsub, ?_⟩
        rw [View.step_error (by rfl)]
        refine iff_of_true (h.sublist hsub) ?_
        rintro ⟨-, -, d, hd, -⟩
        rw [hnew] at hd
        cases hd
      | some d =>
        obtain ⟨rfl, rfl, hstate, htaken⟩ := new_device hnew
        have hfresh : Distinct (d :: devices) := by
          refine List.nodup_cons.mpr ⟨fun hmem => ?_, hdistinct.sublist hsub⟩
          obtain ⟨e, he, heq⟩ := List.mem_map.mp hmem
          exact hnone rfl e he (Prod.mk.inj heq)
        cases hfd : d.fd with
        | none =>
          dsimp only
          rw [hfd]
          refine ⟨hfresh, ?_⟩
          rw [View.step_error (by rfl)]
          refine iff_of_true (fun e he htaken' => ?_) ?_
          · -- The new record is not marked as taken, so the controller need not
            -- know it.
            rcases List.mem_cons.mp he with rfl | he
            · rw [htaken] at htaken'
              cases htaken'
            · exact h e (hsub.subset he) htaken'
          · rintro ⟨-, -, e, he, hefd⟩
            rw [hnew] at he
            cases he
            exact hefd hfd
        | some fd =>
          dsimp only
          rw [hfd]
          have hdevices : (updateDevice { s with devices := d :: devices } d.major d.minor
              fun d => { d with taken := true }).devices = { d with taken := true } :: devices := by
            simp [updateDevice, List.findIdx_cons, CkDevice.compare]
          refine ⟨hfresh.of_numbers (by rw [hdevices]; rfl), ?_⟩
          refine iff_of_false (fun hagree => ?_) fun hsilent => hsilent ?_
          · -- the flag of the answer is that of the session
            have htaken := hagree { d with taken := true } (hdevices ▸ List.mem_cons_self) rfl
            rw [View.step_same _ (by rfl)] at htaken
            have hview : some (!s.active) = some d.state := by
              simpa [View.receive, View.set] using htaken
            rw [hstate] at hview
            cases hactive : s.active <;> rw [hactive] at hview <;> cases hview
          · exact ⟨hcontroller, by rw [hget], d, hnew, by simp [hfd]⟩

theorem tracks_release_device (h : Agree s.devices v) (hdistinct : Distinct s.devices)
    (k : Kernel) (sender : CString) (major minor : Nat) :
    Tracks s v (.release_device k sender major minor)
      (s.dbus_release_device k sender major minor) := by
  unfold dbus_release_device
  split
  · refine ⟨hdistinct, ?_⟩
    rw [View.step_error (by rfl)]
    exact iff_of_true h id
  · split
    · rename_i hget
      obtain ⟨devices, rfl, hsub, -⟩ := (get_device_cases hdistinct hget).1
      refine ⟨hdistinct.sublist hsub, ?_⟩
      rw [View.step_error (by rfl)]
      exact iff_of_true (h.sublist hsub) id
    · rename_i hget
      obtain rfl := (get_device_cases hdistinct hget).2 (by simp)
      refine ⟨hdistinct.sublist List.eraseP_sublist, iff_of_true (fun d hd htaken => ?_) id⟩
      rw [View.step_same _ (by rfl)]
      obtain ⟨hmem, hother⟩ := hdistinct.mem_eraseP hd
      show (if d.major = major ∧ d.minor = minor then none else v d.major d.minor) = _
      rw [if_neg hother]
      exact h d hmem htaken

theorem check_paused_devices_view (s : CkSession) (v : View) :
    s.ck_session_check_paused_devices.1.devices = s.devices ∧
    s.ck_session_check_paused_devices.1.session_controller = s.session_controller ∧
    s.ck_session_check_paused_devices.2.foldl View.receive v = v := by
  unfold ck_session_check_paused_devices
  split
  · exact ⟨rfl, rfl, rfl⟩
  · refine ⟨rfl, rfl, ?_⟩
    show (if s.active then [Message.ActiveChanged false] else []).foldl View.receive v = v
    split <;> rfl

theorem tracks_pause_device_complete (h : Agree s.devices v) (hdistinct : Distinct s.devices)
    (k : Kernel) (sender : CString) (major minor : Nat) :
    Tracks s v (.pause_device_complete k sender major minor)
      (s.dbus_pause_device_complete k sender major minor) := by
  unfold dbus_pause_device_complete
  split
  · refine ⟨hdistinct, ?_⟩
    rw [View.step_error (by rfl)]
    exact iff_of_true h id
  · split
    · rename_i hget
      obtain ⟨devices, rfl, hsub, -⟩ := (get_device_cases hdistinct hget).1
      refine ⟨hdistinct.sublist hsub, ?_⟩
      rw [View.step_error (by rfl)]
      exact iff_of_true (h.sublist hsub) id
    · rename_i hget
      obtain rfl := (get_device_cases hdistinct hget).2 (by simp)
      rename_i s _
      obtain ⟨hdevices, hcontroller, hview⟩ :=
        check_paused_devices_view (s.updateDevice major minor .pause) v
      constructor
      · show Distinct (ck_session_check_paused_devices _).1.devices
        rw [hdevices]
        exact hdistinct.modify _ fun _ => ⟨rfl, rfl⟩
      · refine iff_of_true ?_ id
        show Agree (ck_session_check_paused_devices _).1.devices _
        rw [hdevices, View.step_same _ (by exact hcontroller)]
        intro d hd htaken
        rw [if_pos (by simp), List.foldl_append, hview]
        show (if d.major = major ∧ d.minor = minor then some false else v d.major d.minor) = _
        rcases hdistinct.mem_modify hd with ⟨hmem, hother⟩ | ⟨e, -, hnumber, rfl⟩
        · rw [if_neg hother]
          exact h d hmem htaken
        · exact if_pos hnumber

theorem tracks_set_active (h : Agree s.devices v) (hdistinct : Distinct s.devices)
    (k : Kernel) (active force : Bool) :
    Tracks s v (.set_active k active force) (s.ck_session_set_active k active force) := by
  unfold ck_session_set_active
  split
  · rename_i hsame
    refine ⟨hdistinct, iff_of_true ?_ fun hsilent => ?_⟩
    · rw [View.step_same _ (by rfl)]
      exact h
    · obtain ⟨htrue, hfalse, -⟩ := hsilent
      rw [hsame, htrue] at hfalse
      cases hfalse
  · rename_i hother
    cases active with
    | true =>
      have hinactive : s.active = false := Bool.eq_false_iff.mpr hother
      show Tracks s v _ (ck_session_resume_all_devices k { s with pause_devices_timer := false })
      unfold ck_session_resume_all_devices
      split
      · -- Without a controller nothing is resumed, and nobody is told.
        rename_i hnone
        refine ⟨hdistinct, iff_of_true ?_ fun hsilent => hsilent.2.2.1 hnone⟩
        rw [View.step_same _ (by rfl)]
        exact h
      · rename_i controller hcontroller
        refine ⟨hdistinct.map (resumed_number k), ?_⟩
        rw [View.step_quiet (by rfl) (fun _ => rfl), List.foldl_append]
        refine (h.resume_iff hdistinct k controller).trans (not_congr ?_)
        constructor
        · intro hlost
          have hsome : s.session_controller ≠ none := by
            rw [show s.session_controller = some controller from hcontroller]
            simp
          exact ⟨rfl, hinactive, hsome, hlost⟩
        · intro hsilent
          exact hsilent.2.2.2
    | false =>
      show Tracks s v _ (ck_session_pause_all_devices { s with pause_devices_timer := false } force)
      have hloud : ¬ Silent s (.set_active k false force) := fun hsilent => by cases hsilent.1
      cases force with
      | true =>
        rw [pause_all_devices_force]
        refine ⟨hdistinct.map fun _ => ⟨rfl, rfl⟩, iff_of_true ?_ hloud⟩
        rw [View.step_quiet (by rfl) (fun _ => rfl), List.foldl_append]
        exact h.pause
      | false =>
        rw [pause_all_devices_wait]
        -- A pause that is only asked for changes no record and no view.
        split
        · refine ⟨hdistinct, iff_of_true ?_ hloud⟩
          rw [View.step_quiet (by rfl) (fun _ => rfl)]
          exact h
        · refine ⟨hdistinct, iff_of_true ?_ hloud⟩
          rw [View.step_quiet (by rfl) (fun _ => rfl), View.foldl_pause_wait]
          exact h

/-- A change of the controller gives up all devices. -/
theorem tracks_empty {event : Event} {r : CkSession × List Message}
    (hevent : ¬ Silent s event) (hempty : r.1.devices = []) : Tracks s v event r := by
  unfold Tracks
  rw [hempty]
  exact ⟨List.nodup_nil, iff_of_true (fun d hd => by cases hd) hevent⟩

theorem tracks_take_control (h : Agree s.devices v) (hdistinct : Distinct s.devices)
    (sender : CString) (uid : Option Nat) (force vt_signals : Bool) :
    Tracks s v (.take_control sender uid force vt_signals)
      (s.dbus_take_control sender uid force vt_signals) := by
  have herror : ∀ code text, Tracks s v (.take_control sender uid force vt_signals)
      (s, [.throw_error sender code text]) := by
    intro code text
    refine ⟨hdistinct, ?_⟩
    rw [View.step_error (by rfl)]
    exact iff_of_true h id
  unfold dbus_take_control
  split
  · exact herror _ _
  · cases uid with
    | none => exact herror _ _
    | some uid =>
      dsimp only
      split
      · refine ⟨hdistinct, iff_of_true ?_ id⟩
        rw [View.step_same _ (by rfl)]
        exact h
      · split
        · exact tracks_empty id rfl
        · split
          · exact herror _ _
          · exact herror _ _

theorem tracks_release_control (h : Agree s.devices v) (hdistinct : Distinct s.devices)
    (sender : CString) :
    Tracks s v (.release_control sender) (s.dbus_release_control sender) := by
  unfold dbus_release_control
  split
  · exact tracks_empty id rfl
  · refine ⟨hdistinct, ?_⟩
    rw [View.step_error (by rfl)]
    exact iff_of_true h id

theorem tracks_pause_timeout (h : Agree s.devices v) (hdistinct : Distinct s.devices) :
    Tracks s v .pause_timeout s.force_pause_devices := by
  obtain ⟨hdevices, hcontroller, hview⟩ := check_paused_devices_view
    { s with devices := s.devices.map .pause, pause_devices_timer := false } v
  unfold Tracks force_pause_devices
  rw [hdevices, View.step_quiet (s := s) hcontroller (fun _ => rfl), hview]
  exact ⟨hdistinct.map fun _ => ⟨rfl, rfl⟩, h.pause_silent_iff⟩

/-- **Step lemma**: the controller's view stays right exactly if the step is
    not silent. -/
theorem tracks_dispatch (h : Agree s.devices v) (hdistinct : Distinct s.devices)
    {event : Event} {r : CkSession × List Message} (hr : s.dispatch event = some r) :
    Tracks s v event r := by
  obtain ⟨s', messages⟩ := r
  cases dispatch_handled hr with
  | take_control sender uid force vt_signals =>
    exact tracks_take_control h hdistinct sender uid force vt_signals
  | release_control sender => exact tracks_release_control h hdistinct sender
  | controller_vanished => exact tracks_empty id rfl
  | take_device k sender major minor => exact tracks_take_device h hdistinct k sender major minor
  | release_device k sender major minor =>
    exact tracks_release_device h hdistinct k sender major minor
  | pause_device_complete k sender major minor =>
    exact tracks_pause_device_complete h hdistinct k sender major minor
  | set_active k active force => exact tracks_set_active h hdistinct k active force
  | pause_timeout => exact tracks_pause_timeout h hdistinct
  | vt_leave =>
    rw [vt_leave_handler, pause_all_devices_force]
    refine ⟨hdistinct.map fun _ => ⟨rfl, rfl⟩, iff_of_true ?_ id⟩
    rw [View.step_quiet (by rfl) (fun _ => rfl), List.foldl_append]
    exact h.pause

end views

/-! ## Section 6: Every run -/

/-- The records and the controller's view match. -/
structure Controlled.Synced (c : Controlled) : Prop where
  agree : Agree c.session.devices c.view
  distinct : Distinct c.session.devices

theorem controller_view_tracks {c : Controlled} (h : c.Synced) (events : List Event) :
    controlled_system.Along (fun _ _ c' => Agree c'.session.devices c'.view) c events ↔
      controlled_system.Along (fun c event _ => ¬ Silent c.session event) c events := by
  refine LTS.System.along_congr (I := Controlled.Synced) ?_ ?_ h events
  · intro c event c' hc hnext
    obtain ⟨r, hr, rfl⟩ := Option.map_eq_some_iff.mp hnext
    exact (tracks_dispatch hc.agree hc.distinct hr).2
  · intro c event c' hc hnext hagree
    obtain ⟨r, hr, rfl⟩ := Option.map_eq_some_iff.mp hnext
    exact ⟨hagree, (tracks_dispatch hc.agree hc.distinct hr).1⟩

/-! ## Section 7: A graphics card -/

/-- There is one device, a graphics card that can be opened. -/
def one_card : Kernel where
  udevice major minor := if major = 226 ∧ minor = 0 then some .DEVICE_DRM else none
  g_open _ _ _ := some 9
  drm_set_master _ := true
  closed _ := false

/-- A session whose controller has taken the card and is told when the
    session becomes active. -/
def card_taken : Controlled where
  session :=
    { ck_session_init 1000 1 with
      session_controller := some (cstr ":1.5")
      session_controller_watchid := some (cstr ":1.5")
      controller_uid := 1000
      devices := [⟨226, 0, .DEVICE_DRM, some 9, false, true⟩] }
  view := fun major minor => if major = 226 ∧ minor = 0 then some false else none

theorem controller_view_tracks_card :
    controlled_system.Along (fun _ _ c' => Agree c'.session.devices c'.view) card_taken
      [.set_active one_card true false, .set_active one_card false true] := by
  have hsynced : card_taken.Synced := by
    constructor
    · intro d hd _
      obtain rfl := List.mem_singleton.mp hd
      rfl
    · exact List.nodup_singleton _
  refine (controller_view_tracks hsynced _).mpr ?_
  -- the card keeps its descriptor, and a forced pause is reported
  intro c' hc'
  refine ⟨?_, fun c'' _ => ⟨fun hsilent => ?_, trivial⟩⟩
  · rintro ⟨-, -, -, d, hd, -, -, hfd⟩
    obtain rfl := List.mem_singleton.mp hd
    cases hfd
  · cases hsilent.1

/-- The controller takes the card while the session is active, and is told
    that the card is inactive. -/
theorem controller_view_lost :
    ∃ c c', controlled_system.run ⟨ck_session_init 1000 1, fun _ _ => none⟩
        [.take_control (cstr ":1.5") (some 1000) false true,
          .set_active one_card true false] = some c ∧ c.Synced ∧
      controlled_system.next c (.take_device one_card (cstr ":1.5") 226 0) = some c' ∧
      c'.session.devices = [⟨226, 0, .DEVICE_DRM, some 9, true, true⟩] ∧
      c'.view 226 0 = some false ∧
      ¬ controlled_system.Along (fun _ _ c' => Agree c'.session.devices c'.view) c
        [.take_device one_card (cstr ":1.5") 226 0] := by
  refine ⟨_, _, rfl, ?_, rfl, rfl, rfl, fun h => ?_⟩
  · exact ⟨fun d hd => absurd hd List.not_mem_nil, List.nodup_nil⟩
  · have hagree := (h _ rfl).1 ⟨226, 0, .DEVICE_DRM, some 9, true, true⟩ List.mem_cons_self rfl
    cases hagree

end Device
