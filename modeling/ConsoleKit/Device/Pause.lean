import ConsoleKit.Device.View

/-! # The end of a pause

    A session that is deactivated without force stays active until its
    controller has acknowledged that its devices are paused, or until a
    timer fires.

    This module provides:
    - `EndsPause`: the steps after which no device is active,
    - `dispatch_cases`: what a step does to the flag and the timer,
    - `acknowledgement_deactivates`: when an acknowledgement deactivates a
      session,
    - `last_request_wins`: when the flag is the one that was asked for last,
      over every run.
-/

namespace Device

open Libc

namespace CkSession

/-! ## Section 1: Acknowledgements -/

/-- Each active device is the one that is acknowledged. -/
def LastActive (s : CkSession) (major minor : Nat) : Prop :=
  ∀ i d, s.devices[i]? = some d → d.state = true →
    i = s.devices.findIdx fun d => d.compare major minor

/-- The controller acknowledges a device that it has taken. -/
def Acknowledges (k : Kernel) (s : CkSession) (sender : CString) (major minor : Nat) : Prop :=
  s.session_controller = some sender ∧ (s.ck_session_get_device k major minor).1 ≠ none

/-- The last active device is acknowledged, or the timer fires. -/
def EndsPause (s : CkSession) : Event → Prop
  | .pause_device_complete k sender major minor =>
      s.Acknowledges k sender major minor ∧ s.LastActive major minor
  | .pause_timeout => True
  | _ => False

/-- The controller is released, vanishes or is replaced. -/
def LosesController (s : CkSession) : Event → Prop
  | .take_control sender (some uid) force _ =>
      s.session_controller ≠ some sender ∧
        (s.session_controller = none ∨ (force = true ∧ uid = 0))
  | .release_control sender => s.session_controller = some sender
  | .controller_vanished => True
  | _ => False

/-- A change of the session's `active` is asked for, or the VT is left. -/
def IsRequest : Event → Prop
  | .set_active .. | .vt_leave => True
  | _ => False

section
variable {k : Kernel} {s : CkSession} {sender : CString} {major minor : Nat}

/-- A device that is found is not dropped. -/
theorem get_device_found (h : (s.ck_session_get_device k major minor).1 ≠ none) :
    (s.ck_session_get_device k major minor).2 = s := by
  revert h
  unfold ck_session_get_device
  split
  · exact fun h => absurd rfl h
  · split
    · exact fun h => absurd rfl h
    · exact fun _ => rfl

/-- Looking up a device changes the list only. -/
theorem get_device_frame (k : Kernel) (s : CkSession) (major minor : Nat) :
    (s.ck_session_get_device k major minor).2.active = s.active ∧
    (s.ck_session_get_device k major minor).2.pause_devices_timer = s.pause_devices_timer := by
  unfold ck_session_get_device
  split
  · exact ⟨rfl, rfl⟩
  · split <;> exact ⟨rfl, rfl⟩

/-- No device is active after the one that is found has been paused. -/
theorem paused_iff :
    (s.updateDevice major minor .pause).devices.any (·.state) = false ↔
      s.LastActive major minor := by
  unfold updateDevice LastActive
  rw [List.any_eq_false]
  constructor
  · intro hnone i d hd hstate
    apply Classical.byContradiction
    intro hne
    refine hnone d (List.mem_of_getElem? (i := i) ?_) hstate
    simp [hd, Ne.symm hne]
  · intro hlast d hd hstate
    obtain ⟨i, hi⟩ := List.getElem?_of_mem hd
    rw [List.getElem?_modify] at hi
    split at hi
    · -- the device that is found is paused
      obtain ⟨e, -, rfl⟩ := Option.map_eq_some_iff.mp hi
      cases hstate
    · rename_i hne
      have hsame : s.devices[i]? = some d := by simpa using hi
      exact hne (hlast i d hsame hstate).symm

/-- An acknowledgement ends the pause, or leaves the flag and the timer as
    they are. -/
theorem pause_device_complete_cases (k : Kernel) (s : CkSession) (sender : CString)
    (major minor : Nat) :
    let s' := (s.dbus_pause_device_complete k sender major minor).1
    (s.Acknowledges k sender major minor ∧ s.LastActive major minor ∧
      s'.active = false ∧ s'.pause_devices_timer = false) ∨
    (¬ (s.Acknowledges k sender major minor ∧ s.LastActive major minor) ∧
      s'.active = s.active ∧ s'.pause_devices_timer = s.pause_devices_timer) := by
  dsimp only
  unfold dbus_pause_device_complete
  by_cases hcontroller : s.session_controller = some sender
  · rw [if_neg (not_not_intro hcontroller)]
    cases hget : s.ck_session_get_device k major minor with
    | mk d t =>
      cases d with
      | none =>
        right
        have hframe := get_device_frame k s major minor
        rw [hget] at hframe
        refine ⟨fun h => h.1.2 ?_, hframe⟩
        rw [hget]
      | some d =>
        have hfound : (s.ck_session_get_device k major minor).1 ≠ none := by
          rw [hget]
          simp
        have hsame := get_device_found hfound
        rw [hget] at hsame
        obtain rfl : t = s := hsame
        dsimp only
        unfold ck_session_check_paused_devices
        cases hany : (t.updateDevice major minor .pause).devices.any (·.state) with
        | true =>
          right
          refine ⟨fun h => ?_, rfl, rfl⟩
          rw [paused_iff.mpr h.2] at hany
          cases hany
        | false => exact .inl ⟨⟨hcontroller, hfound⟩, paused_iff.mp hany, rfl, rfl⟩
  · rw [if_pos hcontroller]
    exact .inr ⟨fun h => hcontroller h.1.1, rfl, rfl⟩

/-! ## Section 2: The flag and the timer -/

/-- The flag and the timer are as they were. -/
def SameActivity (s s' : CkSession) : Prop :=
  s'.active = s.active ∧ s'.pause_devices_timer = s.pause_devices_timer

theorem create_device_frame (k : Kernel) (s : CkSession) (major minor : Nat) :
    s.SameActivity (s.ck_session_create_device k major minor).2 := by
  have hget := get_device_frame k s major minor
  unfold ck_session_create_device
  revert hget
  split
  · rename_i hget
    rw [hget]
    exact id
  · rename_i hget
    rw [hget]
    intro hframe
    split <;> exact hframe

theorem take_device_frame : s.SameActivity (s.dbus_take_device k sender major minor).1 := by
  unfold dbus_take_device
  split
  · exact ⟨rfl, rfl⟩
  · have hget := get_device_frame k s major minor
    split
    · rename_i t heq
      rw [heq] at hget
      exact hget
    · rename_i t heq
      rw [heq] at hget
      have hcreate := create_device_frame k t major minor
      have htrans : s.SameActivity (t.ck_session_create_device k major minor).2 :=
        ⟨hcreate.1.trans hget.1, hcreate.2.trans hget.2⟩
      revert htrans
      split
      · rename_i heq
        rw [heq]
        exact id
      · rename_i heq
        rw [heq]
        intro htrans
        split <;> exact htrans

theorem release_device_frame : s.SameActivity (s.dbus_release_device k sender major minor).1 := by
  unfold dbus_release_device
  split
  · exact ⟨rfl, rfl⟩
  · have hget := get_device_frame k s major minor
    split <;> rename_i heq <;> rw [heq] at hget <;> exact hget

/-- The flag changes at once, or the session waits for its devices. -/
theorem set_active_cases (k : Kernel) (s : CkSession) (active force : Bool) :
    let s' := (s.ck_session_set_active k active force).1
    (s.active = active ∧ s' = s) ∨
    (s'.active = active ∧ s'.pause_devices_timer = false) ∨
    (s.active = true ∧ active = false ∧ s'.active = true ∧ s'.pause_devices_timer = true) := by
  dsimp only
  unfold ck_session_set_active
  by_cases hsame : s.active = active
  · rw [if_pos hsame]
    exact .inl ⟨hsame, rfl⟩
  · rw [if_neg hsame]
    right
    cases active with
    | true =>
      left
      simp only [if_true]
      unfold ck_session_resume_all_devices
      split <;> exact ⟨rfl, rfl⟩
    | false =>
      have hactive : s.active = true := by simpa using hsame
      simp only [Bool.false_eq_true, if_false]
      cases force with
      | true =>
        left
        rw [pause_all_devices_force]
        exact ⟨rfl, rfl⟩
      | false =>
        rw [pause_all_devices_wait]
        split
        · exact .inl ⟨rfl, rfl⟩
        · exact .inr ⟨hactive, trivial, hactive, rfl⟩

/-- The timer pauses every device. -/
theorem force_pause_devices_spec (s : CkSession) :
    s.force_pause_devices.1.active = false ∧
      s.force_pause_devices.1.pause_devices_timer = false := by
  unfold force_pause_devices ck_session_check_paused_devices
  rw [if_neg]
  · exact ⟨rfl, rfl⟩
  · simp [List.any_eq_true, CkDevice.pause]

/-- Giving up control stops the timer. -/
theorem set_session_controller_frame (bus_name : Option CString) (vt_signals : Bool) :
    (s.ck_session_set_session_controller bus_name vt_signals).active = s.active ∧
    (s.ck_session_set_session_controller bus_name vt_signals).pause_devices_timer = false := by
  cases bus_name <;> exact ⟨rfl, rfl⟩

theorem take_control_cases (sender : CString) (uid : Option Nat) (force vt_signals : Bool) :
    let s' := (s.dbus_take_control sender uid force vt_signals).1
    (s.LosesController (.take_control sender uid force vt_signals) ∧ s'.active = s.active ∧
      s'.pause_devices_timer = false) ∨
    (¬ s.LosesController (.take_control sender uid force vt_signals) ∧ s.SameActivity s') := by
  cases uid with
  | none => exact .inr ⟨id, rfl, rfl⟩
  | some uid =>
    simp only [dbus_take_control, ck_device_is_server_managed, Bool.not_true,
      Bool.false_eq_true, if_false]
    by_cases hself : s.session_controller = some sender
    · rw [if_pos hself]
      exact .inr ⟨fun h => h.1 hself, rfl, rfl⟩
    · rw [if_neg hself]
      by_cases hnew : s.session_controller = none ∨ (force = true ∧ uid = 0)
      · rw [if_pos hnew]
        exact .inl ⟨⟨hself, hnew⟩, set_session_controller_frame _ _⟩
      · rw [if_neg hnew]
        right
        refine ⟨fun h => hnew h.2, ?_⟩
        split <;> exact ⟨rfl, rfl⟩

/-- **Step lemma**: a step that is not a request ends the pause, loses the
    controller and with it the timer, or leaves both as they are. -/
theorem dispatch_cases {event : Event} {s' : CkSession} {messages : List Message}
    (hevent : ¬ IsRequest event) (h : s.dispatch event = some (s', messages)) :
    (s.EndsPause event ∧ ¬ s.LosesController event ∧ s'.active = false ∧
      s'.pause_devices_timer = false) ∨
    (¬ s.EndsPause event ∧ s.LosesController event ∧ s'.active = s.active ∧
      s'.pause_devices_timer = false) ∨
    (¬ s.EndsPause event ∧ ¬ s.LosesController event ∧ s.SameActivity s') := by
  cases dispatch_handled h with
  | take_control sender uid force vt_signals =>
    rcases take_control_cases sender uid force vt_signals with ⟨hlost, hframe⟩ | ⟨hkept, hframe⟩
    · exact .inr (.inl ⟨id, hlost, hframe⟩)
    · exact .inr (.inr ⟨id, hkept, hframe⟩)
  | release_control sender =>
    right
    unfold dbus_release_control
    split
    · rename_i hself
      exact .inl ⟨id, hself, rfl, rfl⟩
    · rename_i hother
      exact .inr ⟨id, hother, rfl, rfl⟩
  | controller_vanished => exact .inr (.inl ⟨id, trivial, rfl, rfl⟩)
  | take_device k sender major minor => exact .inr (.inr ⟨id, id, take_device_frame⟩)
  | release_device k sender major minor => exact .inr (.inr ⟨id, id, release_device_frame⟩)
  | pause_device_complete k sender major minor =>
    rcases pause_device_complete_cases k s sender major minor with
      ⟨hack, hlast, hframe⟩ | ⟨hnot, hframe⟩
    · exact .inl ⟨⟨hack, hlast⟩, id, hframe⟩
    · exact .inr (.inr ⟨hnot, id, hframe⟩)
  | set_active => exact absurd trivial hevent
  | pause_timeout => exact .inl ⟨trivial, id, force_pause_devices_spec s⟩
  | vt_leave => exact absurd trivial hevent

end

/-! ## Section 3: Acknowledgements without a pause -/

/-- Without a pause an acknowledgement leaves the flag as it is.  While the
    session waits, a step that is not a request deactivates it exactly if it
    ends the pause. -/
structure PauseOk (s : CkSession) (event : Event) (s' : CkSession) : Prop where
  idle : s.pause_devices_timer = false → ∀ k sender major minor,
    event = .pause_device_complete k sender major minor → s'.active = s.active
  waiting : s.pause_devices_timer = true → s.active = true → ¬ IsRequest event →
    (s'.active = false ↔ s.EndsPause event)

/-- The controller of an active session acknowledges a device although the
    session does not wait, and no other device is active. -/
def Spurious (s : CkSession) : Event → Prop
  | .pause_device_complete k sender major minor =>
      s.pause_devices_timer = false ∧ s.active = true ∧
        s.Acknowledges k sender major minor ∧ s.LastActive major minor
  | _ => False

/-- The timer does not fire when the session does not wait. -/
theorem spurious_iff {s : CkSession} {event : Event} {r : CkSession × List Message}
    (h : s.dispatch event = some r) :
    s.Spurious event ↔
      s.pause_devices_timer = false ∧ s.active = true ∧ s.EndsPause event := by
  cases event with
  | pause_device_complete => exact Iff.rfl
  | pause_timeout =>
    refine iff_of_false id fun hends => ?_
    simp only [dispatch, hends.1] at h
    cases h
  | _ => exact iff_of_false id fun hends => hends.2.2

/-- The flag of an active session while it waits. -/
theorem waiting_deactivates_iff {s s' : CkSession} {event : Event} {messages : List Message}
    (hactive : s.active = true) (hevent : ¬ IsRequest event)
    (h : s.dispatch event = some (s', messages)) : s'.active = false ↔ s.EndsPause event := by
  rcases dispatch_cases hevent h with
    ⟨hends, -, hoff, -⟩ | ⟨hnot, -, hsame, -⟩ | ⟨hnot, -, hsame, -⟩
  · exact iff_of_true hoff hends
  · refine iff_of_false ?_ hnot
    rw [hsame, hactive]
    decide
  · refine iff_of_false ?_ hnot
    rw [hsame, hactive]
    decide

/-- **Acknowledgements.**  An acknowledgement deactivates a session that does
    not wait exactly if it is the one of the last active device. -/
theorem acknowledgement_deactivates {s s' : CkSession} {event : Event} {messages : List Message}
    (h : s.dispatch event = some (s', messages)) : s.PauseOk event s' ↔ ¬ s.Spurious event := by
  constructor
  · intro hok hspurious
    cases event with
    | pause_device_complete k sender major minor =>
      obtain ⟨htimer, hactive, hack, hlast⟩ := hspurious
      have hsame := hok.idle htimer k sender major minor rfl
      have hoff := (waiting_deactivates_iff hactive id h).mpr ⟨hack, hlast⟩
      rw [hsame, hactive] at hoff
      cases hoff
    | _ => exact hspurious
  · intro hnot
    constructor
    · rintro htimer k sender major minor rfl
      cases hactive : s.active with
      | true =>
        apply eq_true_of_ne_false
        intro hoff
        have hends := (waiting_deactivates_iff hactive id h).mp hoff
        exact hnot ⟨htimer, hactive, hends.1, hends.2⟩
      | false =>
        have hevent : ¬ IsRequest (.pause_device_complete k sender major minor) := id
        rcases dispatch_cases hevent h with ⟨-, -, hoff, -⟩ | ⟨-, -, hsame, -⟩ | ⟨-, -, hsame, -⟩
        · exact hoff
        · exact hsame.trans hactive
        · exact hsame.trans hactive
    · exact fun _ hactive hevent => waiting_deactivates_iff hactive hevent h

end CkSession

/-- The user of a session takes control of it and, once it is active, takes
    the card. -/
def card_events : List Event :=
  [.take_control (cstr ":1.5") (some 1000) false true, .set_active one_card true false,
    .take_device one_card (cstr ":1.5") 226 0]

/-- The controller acknowledges the card. -/
def card_paused : Event := .pause_device_complete one_card (cstr ":1.5") 226 0

/-- The session waits for the card. -/
theorem acknowledgement_deactivates_card :
    ∃ s s' messages, session_system.run (ck_session_init 1000 1)
        (card_events ++ [.set_active one_card false false]) = some s ∧
      s.dispatch card_paused = some (s', messages) ∧ s'.active = false ∧
      s.PauseOk card_paused s' := by
  refine ⟨_, _, _, rfl, rfl, rfl, (CkSession.acknowledgement_deactivates rfl).mpr ?_⟩
  exact fun hspurious => by cases hspurious.1

/-- The controller acknowledges the card although nobody has asked the
    session to be inactive. -/
theorem acknowledgement_spurious :
    ∃ s s' messages, session_system.run (ck_session_init 1000 1) card_events = some s ∧
      s.pause_devices_timer = false ∧ s.active = true ∧
      s.dispatch card_paused = some (s', messages) ∧ s'.active = false ∧
      ¬ s.PauseOk card_paused s' := by
  refine ⟨_, _, _, rfl, rfl, rfl, rfl, rfl, fun hok => ?_⟩
  cases hok.idle rfl _ _ _ _ rfl

/-! ## Section 4: Requests -/

/-- The session with the argument of the last call of
    `ck_session_set_active`. -/
structure Requested where
  session : CkSession
  last : Bool

/-- The argument of the last call, after an event. -/
def Event.request (last : Bool) : Event → Bool
  | .set_active _ active _ => active
  | _ => last

/-- The VT is not left: that deactivates the session without a call. -/
def Event.leaves : Event → Bool
  | .vt_leave => true
  | _ => false

def requested_system : LTS.System Requested Event where
  init r := ∃ unix_user vtnr, r = ⟨ck_session_init unix_user vtnr, false⟩
  next r event :=
    if event.leaves then none
    else (r.session.dispatch event).map fun s' => ⟨s'.1, event.request r.last⟩

namespace Requested

/-- A session that does not wait, with any devices. -/
def start (s : CkSession) : Requested := ⟨{ s with pause_devices_timer := false }, s.active⟩

/-- When the session does not wait, its flag is the one asked for last. -/
def Wins (r : Requested) : Prop :=
  r.session.pause_devices_timer = false → r.session.active = r.last

/-- A pause does not end after the session has been asked to be active again,
    the controller is not lost while the session waits, and no
    acknowledgement is spurious. -/
structure Respects (r : Requested) (event : Event) : Prop where
  taken_back : r.session.pause_devices_timer = true → r.last = true → ¬ r.session.EndsPause event
  waiting : r.session.pause_devices_timer = true → r.last = false →
    ¬ r.session.LosesController event
  spurious : ¬ r.session.Spurious event

/-- A session that waits is active. -/
structure Valid (r : Requested) : Prop where
  waits : r.session.pause_devices_timer = true → r.session.active = true
  wins : r.Wins

section
variable {r r' : Requested} {event : Event}

theorem start_valid (s : CkSession) : (start s).Valid :=
  ⟨nofun, fun _ => rfl⟩

/-- A request is carried out or waits. -/
theorem set_active_wins (h : r.Valid) (k : Kernel) (active force : Bool) :
    Valid ⟨(r.session.ck_session_set_active k active force).1, active⟩ := by
  rcases CkSession.set_active_cases k r.session active force with
    ⟨hsame, heq⟩ | ⟨hflag, htimer⟩ | ⟨-, -, hflag, htimer⟩
  · rw [heq]
    exact ⟨h.waits, fun _ => hsame⟩
  · refine ⟨fun hwaits => ?_, fun _ => hflag⟩
    rw [show CkSession.pause_devices_timer _ = false from htimer] at hwaits
    cases hwaits
  · refine ⟨fun _ => hflag, fun hidle => ?_⟩
    rw [show CkSession.pause_devices_timer _ = true from htimer] at hidle
    cases hidle

/-- A pause should end when the session was asked to be inactive. -/
theorem ends_respects_iff (h : r.Valid) {p : CkSession × List Message}
    (hdispatch : r.session.dispatch event = some p) (hends : r.session.EndsPause event)
    (hkept : ¬ r.session.LosesController event) : r.last = false ↔ r.Respects event := by
  have hspurious := CkSession.spurious_iff hdispatch
  cases hwaits : r.session.pause_devices_timer with
  | true =>
    constructor
    · intro hlast
      refine ⟨fun _ htrue => ?_, fun _ _ => hkept, ?_⟩
      · rw [hlast] at htrue
        cases htrue
      · rw [hspurious, hwaits]
        simp
    · intro hrespects
      exact eq_false_of_ne_true fun htrue => hrespects.taken_back hwaits htrue hends
  | false =>
    rw [← h.wins hwaits]
    constructor
    · intro hinactive
      refine ⟨fun hwaits' => ?_, fun _ _ => hkept, ?_⟩
      · rw [hwaits] at hwaits'
        cases hwaits'
      · rw [hspurious, hinactive]
        simp
    · intro hrespects
      apply eq_false_of_ne_true
      intro hactive
      exact hrespects.spurious (hspurious.mpr ⟨hwaits, hactive, hends⟩)

/-- A session that loses its controller stays as it is. -/
theorem lost_respects_iff (h : r.Valid) {p : CkSession × List Message}
    (hdispatch : r.session.dispatch event = some p) (hnot : ¬ r.session.EndsPause event)
    (hlost : r.session.LosesController event) :
    r.session.active = r.last ↔ r.Respects event := by
  have hfine : ¬ r.session.Spurious event :=
    fun h => hnot ((CkSession.spurious_iff hdispatch).mp h).2.2
  cases hwaits : r.session.pause_devices_timer with
  | true =>
    rw [h.waits hwaits]
    constructor
    · intro hlast
      refine ⟨fun _ _ => hnot, fun _ hfalse => ?_, hfine⟩
      rw [← hlast] at hfalse
      cases hfalse
    · intro hrespects
      symm
      apply eq_true_of_ne_false
      exact fun hfalse => hrespects.waiting hwaits hfalse hlost
  | false =>
    refine iff_of_true (h.wins hwaits) ⟨fun _ _ => hnot, fun hwaits' => ?_, hfine⟩
    rw [hwaits] at hwaits'
    cases hwaits'

/-- **Step lemma**: the flag is the one asked for last after a step exactly
    if the step respects the request. -/
theorem wins_step (h : r.Valid) (hnext : requested_system.next r event = some r') :
    (r'.Wins ↔ r.Respects event) ∧ (r'.Wins → r'.Valid) := by
  simp only [requested_system] at hnext
  split at hnext
  · cases hnext
  · rename_i hleaves
    obtain ⟨⟨s', messages⟩, hdispatch, rfl⟩ := Option.map_eq_some_iff.mp hnext
    by_cases hevent : CkSession.IsRequest event
    · cases event with
      | set_active k active force =>
        have hvalid := set_active_wins h k active force
        rw [Option.some.inj hdispatch] at hvalid
        exact ⟨iff_of_true hvalid.wins ⟨fun _ _ => id, fun _ _ => id, id⟩, fun _ => hvalid⟩
      | vt_leave => exact absurd rfl hleaves
      | _ => exact hevent.elim
    · have hlast : event.request r.last = r.last := by
        cases event with
        | set_active => exact absurd trivial hevent
        | _ => rfl
      -- a session that does not wait any more need only have the right flag
      have hvalid (htimer : s'.pause_devices_timer = false) (hwins : Wins ⟨s', r.last⟩) :
          Valid ⟨s', r.last⟩ := by
        refine ⟨fun hwaits => ?_, hwins⟩
        rw [show CkSession.pause_devices_timer _ = false from htimer] at hwaits
        cases hwaits
      rw [hlast]
      rcases CkSession.dispatch_cases hevent hdispatch with
        ⟨hends, hkept, hoff, htimer⟩ | ⟨hnot, hlost, hsame, htimer⟩ |
          ⟨hnot, hkept, hsame, htimer⟩
      · have hwins : Wins ⟨s', r.last⟩ ↔ r.last = false := by
          simp only [Wins, htimer, hoff, forall_const]
          exact eq_comm
        exact ⟨hwins.trans (ends_respects_iff h hdispatch hends hkept), hvalid htimer⟩
      · have hwins : Wins ⟨s', r.last⟩ ↔ r.session.active = r.last := by
          simp only [Wins, htimer, hsame, forall_const]
        exact ⟨hwins.trans (lost_respects_iff h hdispatch hnot hlost), hvalid htimer⟩
      · have hvalid : Valid ⟨s', r.last⟩ := by
          constructor
          · intro hwaits
            exact hsame.trans (h.waits (htimer.symm.trans hwaits))
          · intro hidle
            exact hsame.trans (h.wins (htimer.symm.trans hidle))
        refine ⟨iff_of_true hvalid.wins ⟨fun _ _ => hnot, fun _ _ => hkept, ?_⟩, fun _ => hvalid⟩
        exact fun hends => hnot ((CkSession.spurious_iff hdispatch).mp hends).2.2

end

end Requested

/-- **The last request wins** in a run exactly if each step respects it. -/
theorem last_request_wins (s : CkSession) (events : List Event) :
    requested_system.Along (fun _ _ r' => r'.Wins) (.start s) events ↔
      requested_system.Along (fun r event _ => r.Respects event) (.start s) events :=
  LTS.System.along_congr (I := Requested.Valid)
    (fun _ _ _ hs hnext => (Requested.wins_step hs hnext).1)
    (fun _ _ _ hs hnext => (Requested.wins_step hs hnext).2) (Requested.start_valid s) events

/-- The session is asked to be active again while it waits for the card; the
    timer fires. -/
theorem last_request_lost :
    ¬ requested_system.Along (fun _ _ r' => r'.Wins) (.start (ck_session_init 1000 1))
      (card_events ++ [.set_active one_card false false, .set_active one_card true false,
        .pause_timeout]) := by
  intro h
  have hwins := ((((((h _ rfl).2 _ rfl).2 _ rfl).2 _ rfl).2 _ rfl).2 _ rfl).1 rfl
  cases hwins

end Device
