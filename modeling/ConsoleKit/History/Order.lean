import ConsoleKit.History.Ids

/-! # Records in order

    When the records are in an order that `ck-history` can read: no session
    is removed before the record of its coming has been written, its seat
    tells the manager when it is removed, and while a session of which there
    is a record is open no system action is run but one that takes the
    system down.

    This module provides:
    - `reading`: the log as a journal,
    - `InOrder`: the condition on the steps,
    - `RecordingValid`: which sessions have records of their coming and their
      removal,
    - a lemma for each way in which a step changes the frames.
-/

namespace History

open CkManager Log Libc Journal

/-! ## Section 1: The log as a journal -/

/-- Records by the id of their session. -/
def reading : Reading CkLogEventData CString where
  starts
    | .seat_session_added e => e.session_id
    | _ => none
  ends
    | .seat_session_removed e => e.session_id
    | _ => none
  interrupts
    | .system_start _ | .system_stop | .system_restart => true
    | _ => false
  disjoint := by
    intro a k h
    cases a <;> first | rfl | cases h

/-- The search of `ck-history` is that of a reader. -/
theorem find_first_matching_eq {e : CkLogSeatSessionAddedEvent} {k : CString}
    (hk : e.session_id = some k) (events : List CkLogEventData) :
    find_first_matching_remove_event events e = endOf reading k events := by
  induction events with
  | nil => rfl
  | cons l events ih =>
    rw [endOf, List.find?_cons]
    cases l with
    | seat_session_removed e' =>
      rw [find_first_matching_remove_event, ih, hk]
      by_cases h : e'.session_id = some k <;> simp [reading, endOf, h]
    | system_start | system_stop | system_restart => rfl
    | _ => exact ih

/-! ## Section 2: The condition -/

/-- The session is about to get a seat, or the programs for that are run. -/
def Frame.Enters (f : Frame) (x : SessionRef) : Prop :=
  ∃ d, f.call = .ck_seat_add_session (some d) x ∨
    (f.call = .callout .session_added ∧ f.about = some (d, some x))

/-- The programs for the removal of a session with this id are run. -/
def Frame.Removes (m : State) (f : Frame) (k : CString) : Prop :=
  ∃ d x, f.call = .callout .session_removed ∧ f.about = some (d, some x) ∧ (m.session x).id = k

/-- A session with this id will be taken out of the table. -/
def Frame.Leaves (m : State) (f : Frame) (k : CString) : Prop :=
  ∃ l x caller, f.call = .remove_session l x caller ∧ (m.leader l).session_id = k

namespace Recording

def Entering (s : Recording) (x : SessionRef) : Prop := ∃ f ∈ s.frames, f.Enters x

def Removing (s : Recording) (k : CString) : Prop := ∃ f ∈ s.frames, f.Removes s.state k

/-- No session has the id any more, or will soon. -/
def Leaving (s : Recording) (k : CString) : Prop :=
  s.state.sessions.lookup k = none ∨ ∃ f ∈ s.frames, f.Leaves s.state k

/-- The leader whose removal the step starts. -/
def removal (s : Recording) : RecordingLabel → Option LeaderRef
  | .loop (.dispatch event) => removal_of_event s.state event
  | .loop .call => s.frames.head?.bind fun f => removal_of_call f.call
  | _ => none

end Recording

/-- The session's seat is found, has the session, and tells the manager. -/
def Announced (m : State) (x : SessionRef) : Prop :=
  ∃ d, m.seat_of_session x = some d ∧
    ((m.seat d).sessions.lookup (m.session x).id).isSome = true ∧ (m.seat d).connected = true

section
variable (spawn : Nat → String → Option String) (takes_down : Nat → Bool)
  (backend : SystemAction.AuthBackend)

/-- No id is given out twice; a session is removed after the record of its
    coming has been written, and so that a record is written of this too; and
    a system action is run when all removals have been recorded, or takes the
    system down with sessions that are open. -/
structure InOrder (s : Recording) (label : RecordingLabel) : Prop where
  distinct : ∀ sender c cookie started r,
    label = .loop (.dispatch (.open_session sender (some c) cookie started)) →
    s.state.generate_session_id = some r →
    ∀ l < s.state.next_leader, (s.state.leader l).session_id ≠ r.1
  entered : ∀ l x, s.removal label = some l → s.Entering x →
    (s.state.session x).id ≠ (s.state.leader l).session_id
  announced : ∀ l x, s.removal label = some l →
    s.state.sessions.lookup (s.state.leader l).session_id = some x →
    Started reading s.log (s.state.leader l).session_id →
    Announced s.state x ∨ s.Removing (s.state.leader l).session_id ∨
      Ended reading s.log (s.state.leader l).session_id
  command : ∀ l m, label = .action l →
    SystemAction.action_next spawn backend s.actions l = some m →
    s.goes_down spawn takes_down m = true ∨
      (∃ r ∈ s.system_records m, reading.interrupts r = true) →
    ∀ k, Started reading s.log k → Ended reading s.log k ∨
      (s.goes_down spawn takes_down m = true ∧ (s.state.sessions.lookup k).isSome = true)

end

/-! ## Section 3: The invariant -/

/-- A session has or had this id. -/
def Known (m : State) (k : CString) : Prop := ∃ x < m.next_session, (m.session x).id = k

structure RecordingValid (s : Recording) : Prop where
  ids : IdsValid s.state s.stack
  about : ∀ {f d x}, f ∈ s.frames → f.call = .callout .session_removed →
    f.about = some (d, some x) → x < s.state.next_session
  leaves : ∀ {f k}, f ∈ s.frames → f.Leaves s.state k → Known s.state k
  entering : ∀ {x}, s.Entering x → x < s.state.next_session ∧ ¬ s.Leaving (s.state.session x).id
  removing : ∀ {k}, s.Removing k ∨ Ended reading s.log k → s.Leaving k ∧ Known s.state k
  started : ∀ {k}, Started reading s.log k →
    (Ended reading s.log k ∨ s.Removing k ∨ ¬ s.Leaving k) ∧ Known s.state k
  orderly : Orderly reading s.log

/-- What is known when the system has gone down while some commands were run. -/
def DownValid (s : Recording) : Prop :=
  ∃ entries records, s.log = entries ++ records ∧ Orderly reading entries ∧
    (∀ r ∈ records, Passive reading r) ∧
    ∀ k, Started reading entries k → Ended reading entries k ∨
      (s.state.sessions.lookup k).isSome = true

/-! ## Section 4: Steps that write no record of a session -/

section
variable {s s' : Recording}

/-- A session may enter that is not leaving, and one may begin to leave. -/
theorem RecordingValid.move (h : RecordingValid s) (hids : IdsValid s'.state s'.stack)
    (habout : ∀ {f d x}, f ∈ s'.frames → f.call = .callout .session_removed →
      f.about = some (d, some x) → x < s'.state.next_session)
    (hleaves : ∀ {f k}, f ∈ s'.frames → f.Leaves s'.state k → Known s.state k)
    (hknown : ∀ x < s.state.next_session, x < s'.state.next_session ∧
      (s'.state.session x).id = (s.state.session x).id)
    (hentering : ∀ x, s'.Entering x → s.Entering x ∨
      (x < s'.state.next_session ∧ ¬ s'.Leaving (s'.state.session x).id))
    (hleaving : ∀ k, Known s.state k → s.Leaving k → s'.Leaving k)
    (hleft : ∀ k, Known s.state k → s'.Leaving k → s.Leaving k ∨
      ((∀ x, s.Entering x → (s.state.session x).id ≠ k) ∧
        (Started reading s.log k → Ended reading s.log k ∨ s'.Removing k)))
    (hremoving : ∀ k, s'.Removing k → s.Removing k ∨ (Known s.state k ∧ s'.Leaving k))
    (hremoved : ∀ k, s.Removing k → s'.Removing k)
    {records : List CkLogEventData} (hlog : s'.log = s.log ++ records)
    (hpassive : ∀ r ∈ records, Passive reading r)
    (hinterrupts : (∃ r ∈ records, reading.interrupts r = true) →
      ∀ k, Started reading s.log k → Ended reading s.log k) : RecordingValid s' := by
  have hknown' : ∀ {k}, Known s.state k → Known s'.state k := by
    rintro k ⟨x, hx, rfl⟩
    exact ⟨x, (hknown x hx).1, (hknown x hx).2⟩
  constructor
  case ids => exact hids
  case about => exact habout
  case leaves => exact fun hf hk => hknown' (hleaves hf hk)
  case entering =>
    intro x hx
    rcases hentering x hx with hx | hx
    · obtain ⟨hlt, hstays⟩ := h.entering hx
      refine ⟨(hknown x hlt).1, fun hleave => ?_⟩
      rw [(hknown x hlt).2] at hleave
      rcases hleft _ ⟨x, hlt, rfl⟩ hleave with hleave | ⟨hnone, -⟩
      · exact hstays hleave
      · exact hnone x hx rfl
    · exact hx
  case removing =>
    intro k hk
    rw [hlog, ended_append_passive hpassive] at hk
    have hold : s.Removing k ∨ Ended reading s.log k → s'.Leaving k ∧ Known s'.state k := by
      intro hk
      obtain ⟨hleave, hk⟩ := h.removing hk
      exact ⟨hleaving k hk hleave, hknown' hk⟩
    rcases hk with hk | hk
    · rcases hremoving k hk with hk | ⟨hk, hleave⟩
      · exact hold (.inl hk)
      · exact ⟨hleave, hknown' hk⟩
    · exact hold (.inr hk)
  case started =>
    intro k hk
    rw [hlog, started_append_passive hpassive] at hk
    rw [hlog, ended_append_passive hpassive]
    obtain ⟨hwhere, hknown⟩ := h.started hk
    refine ⟨?_, hknown' hknown⟩
    -- A session whose opening is recorded has ended, or is being removed, or stays.
    rcases hwhere with hended | hremoving | hstays
    · exact .inl hended
    · exact .inr (.inl (hremoved k hremoving))
    · -- it still stays, or its removal has been announced
      by_cases hleave : s'.Leaving k
      · rcases hleft k hknown hleave with hleave | ⟨-, hrecorded⟩
        · exact absurd hleave hstays
        · exact (hrecorded hk).imp_right .inl
      · exact .inr (.inr hleave)
  case orderly =>
    rw [hlog]
    exact h.orderly.append_passive hpassive hinterrupts

end

/-! ### Frames -/

theorem mem_push {calls : List Call} {about : Option (SeatRef × Option SessionRef)}
    {frames : List Frame} {f : Frame} :
    f ∈ push calls about frames ↔ (∃ g ∈ calls, f = ⟨g, about⟩) ∨ f ∈ frames := by
  unfold push
  rw [List.mem_append, List.mem_map]
  simp only [eq_comm]

/-- The frame is not about a session that comes or goes. -/
structure Frame.Idle (f : Frame) : Prop where
  enters : ∀ x, ¬ f.Enters x
  removes : ∀ m k, ¬ f.Removes m k
  leaves : ∀ m k, ¬ f.Leaves m k

theorem Inert.idle {f : Frame} (h : Inert f.call) : f.Idle := by
  constructor
  · rintro x ⟨d, hcall | ⟨hcall, -⟩⟩ <;> rw [hcall] at h <;> exact h
  · rintro m k ⟨d, x, hcall, -⟩
    rw [hcall] at h
    exact h
  · rintro m k ⟨l, x, caller, hcall, -⟩
    rw [hcall] at h
    exact h

namespace RecordingValid

variable {s : Recording}

/-- Frames are put in front of those that are left, and the old sessions keep
    their ids. -/
theorem push (h : RecordingValid s) {m : State} {frames : List Frame} {calls : List Call}
    {about : Option (SeatRef × Option SessionRef)} {records : List CkLogEventData}
    {s' : Recording} (hs' : s' = { s with
      state := m, frames := History.push calls about frames, log := s.log ++ records })
    (hids : IdsValid m (calls ++ frames.map Frame.call))
    (hrest : ∀ f ∈ frames, f ∈ s.frames)
    (hkept : ∀ f ∈ s.frames, f ∈ frames ∨ (∀ m k, ¬ f.Removes m k) ∧ ∀ m k, ¬ f.Leaves m k)
    (hnext : s.state.next_session ≤ m.next_session)
    (hid : ∀ x < s.state.next_session, (m.session x).id = (s.state.session x).id)
    (htable : ∀ k, Known s.state k →
      (m.sessions.lookup k = none ↔ s.state.sessions.lookup k = none))
    (hleader : ∀ l < s.state.next_leader, (m.leader l).session_id = (s.state.leader l).session_id)
    (henters : ∀ f ∈ calls, ∀ x, Frame.Enters ⟨f, about⟩ x → s.Entering x ∨
      (x < m.next_session ∧ ¬ s'.Leaving (m.session x).id))
    (hremoves : ∀ f ∈ calls, ∀ d x, f = .callout .session_removed → about = some (d, some x) →
      x < s.state.next_session ∧ s'.Leaving (s.state.session x).id)
    (hleaves : ∀ f ∈ calls, ∀ k, Frame.Leaves m ⟨f, about⟩ k → Known s.state k ∧
      (∀ x, s.Entering x → (s.state.session x).id ≠ k) ∧
      (Started reading s.log k → Ended reading s.log k ∨ s'.Removing k))
    (hpassive : ∀ r ∈ records, Passive reading r)
    (hinterrupts : ∀ r ∈ records, reading.interrupts r = false) : RecordingValid s' := by
  -- What the old frames are about does not depend on the new state.
  have holdLeaves : ∀ {f k}, f ∈ s.frames → (f.Leaves m k ↔ f.Leaves s.state k) := by
    intro f k hf
    refine exists_congr fun l => exists_congr fun x => exists_congr fun caller =>
      and_congr_right fun hcall => ?_
    have hclaimed : l ∈ claims s.stack := by
      refine List.mem_flatMap.mpr ⟨_, List.mem_map_of_mem hf, ?_⟩
      rw [hcall]
      exact List.mem_singleton.mpr rfl
    rw [hleader l (h.ids.claims hclaimed)]
  have holdRemoves : ∀ {f k}, f ∈ s.frames → (f.Removes m k ↔ f.Removes s.state k) := by
    intro f k hf
    refine exists_congr fun d => exists_congr fun x => and_congr_right fun hcall =>
      and_congr_right fun habout => ?_
    rw [hid x (h.about hf hcall habout)]
  have hframes : ∀ {f}, f ∈ s'.frames ↔ (∃ g ∈ calls, f = ⟨g, about⟩) ∨ f ∈ frames := by
    intro f
    rw [hs']
    exact mem_push
  have hstate : s'.state = m := by rw [hs']
  apply h.move
  case hids =>
    unfold Recording.stack
    rw [hs', stack_push]
    exact hids
  case habout =>
    intro f d x hf hcall habout
    rw [hstate]
    rcases hframes.mp hf with ⟨g, hg, rfl⟩ | hf
    · exact Nat.lt_of_lt_of_le (hremoves g hg d x hcall habout).1 hnext
    · exact Nat.lt_of_lt_of_le (h.about (hrest f hf) hcall habout) hnext
  case hleaves =>
    intro f k hf hk
    rw [hstate] at hk
    rcases hframes.mp hf with ⟨g, hg, rfl⟩ | hf
    · exact (hleaves g hg k hk).1
    · exact h.leaves (hrest f hf) ((holdLeaves (hrest f hf)).mp hk)
  case hknown =>
    rw [hstate]
    exact fun x hx => ⟨Nat.lt_of_lt_of_le hx hnext, hid x hx⟩
  case hentering =>
    rintro x ⟨f, hf, hx⟩
    rw [hstate]
    rcases hframes.mp hf with ⟨g, hg, rfl⟩ | hf
    · exact henters g hg x hx
    · exact .inl ⟨f, hrest f hf, hx⟩
  case hleaving =>
    rintro k hknown (hk | ⟨f, hf, hk⟩)
    · exact .inl (hstate ▸ (htable k hknown).mpr hk)
    · rcases hkept f hf with hkept | ⟨-, hnot⟩
      · exact .inr ⟨f, hframes.mpr (.inr hkept), hstate ▸ (holdLeaves hf).mpr hk⟩
      · exact absurd hk (hnot _ k)
  case hleft =>
    rintro k hknown (hk | ⟨f, hf, hk⟩)
    · rw [hstate] at hk
      exact .inl (.inl ((htable k hknown).mp hk))
    · rw [hstate] at hk
      rcases hframes.mp hf with ⟨g, hg, rfl⟩ | hf
      · exact .inr (hleaves g hg k hk).2
      · exact .inl (.inr ⟨f, hrest f hf, (holdLeaves (hrest f hf)).mp hk⟩)
  case hremoving =>
    rintro k ⟨f, hf, hk⟩
    rw [hstate] at hk
    rcases hframes.mp hf with ⟨g, hg, rfl⟩ | hf
    · obtain ⟨d, x, hcall, habout, rfl⟩ := hk
      obtain ⟨hlt, hleave⟩ := hremoves g hg d x hcall habout
      rw [hid x hlt]
      exact .inr ⟨⟨x, hlt, rfl⟩, hleave⟩
    · exact .inl ⟨f, hrest f hf, (holdRemoves (hrest f hf)).mp hk⟩
  case hremoved =>
    rintro k ⟨f, hf, hk⟩
    rcases hkept f hf with hkept | ⟨hnot, -⟩
    · exact ⟨f, hframes.mpr (.inr hkept), hstate ▸ (holdRemoves hf).mpr hk⟩
    · exact absurd hk (hnot _ k)
  case hlog => rw [hs']
  case hpassive => exact hpassive
  case hinterrupts =>
    rintro ⟨r, hr, htrue⟩
    rw [hinterrupts r hr] at htrue
    cases htrue

/-- Frames of another kind come and go, and the state is the same as far as
    ids go. -/
theorem quiet (h : RecordingValid s) {m : State} {frames : List Frame} {calls : List Call}
    {about : Option (SeatRef × Option SessionRef)} {records : List CkLogEventData}
    (hframes : ∀ f ∈ s.frames, f ∈ frames ∨ f.Idle) (hrest : ∀ f ∈ frames, f ∈ s.frames)
    (hids : IdsValid m (calls ++ frames.map Frame.call))
    (hnext : m.next_session = s.state.next_session)
    (hid : ∀ x, (m.session x).id = (s.state.session x).id)
    (htable : m.sessions = s.state.sessions)
    (hleader : ∀ l < s.state.next_leader, (m.leader l).session_id = (s.state.leader l).session_id)
    (hcalls : ∀ f ∈ calls, Inert f) (hpassive : ∀ r ∈ records, Passive reading r)
    (hinterrupts : ∀ r ∈ records, reading.interrupts r = false) :
    RecordingValid { s with
      state := m, frames := History.push calls about frames, log := s.log ++ records } := by
  have hidle : ∀ f ∈ calls, Frame.Idle ⟨f, about⟩ := fun f hf => Inert.idle (hcalls f hf)
  apply h.push rfl hids hrest
  case hkept =>
    exact fun f hf => (hframes f hf).imp_right fun hidle => ⟨hidle.removes, hidle.leaves⟩
  case hnext => exact Nat.le_of_eq hnext.symm
  case hid => exact fun x _ => hid x
  case htable => exact fun k _ => by rw [htable]
  case hleader => exact hleader
  case henters => exact fun f hf x hx => absurd hx ((hidle f hf).enters x)
  case hremoves =>
    exact fun f hf d x hcall habout =>
      absurd ⟨d, x, hcall, habout, rfl⟩ ((hidle f hf).removes m (m.session x).id)
  case hleaves => exact fun f hf k hk => absurd hk ((hidle f hf).leaves m k)
  case hpassive => exact hpassive
  case hinterrupts => exact hinterrupts

end RecordingValid

/-! ## Section 5: The end of a callout -/

section
variable {s s' : Recording} {f : Frame}

theorem leaving_rest (hstate : s'.state = s.state) (hframes : s.frames = f :: s'.frames)
    (hf : ∀ k, ¬ f.Leaves s.state k) (k : CString) : s'.Leaving k ↔ s.Leaving k := by
  unfold Recording.Leaving
  rw [hstate, hframes, List.exists_mem_cons_iff, or_iff_right (hf k)]

theorem removing_rest (hstate : s'.state = s.state) (hframes : s.frames = f :: s'.frames)
    (k : CString) : s.Removing k ↔ f.Removes s.state k ∨ s'.Removing k := by
  unfold Recording.Removing
  rw [hstate, hframes, List.exists_mem_cons_iff]

theorem RecordingValid.ids_rest (h : RecordingValid s) {rest : List Frame}
    (hframes : s.frames = f :: rest) : IdsValid s.state (rest.map Frame.call) := by
  have hids := h.ids
  unfold Recording.stack at hids
  rw [hframes] at hids
  exact hids.pop

end

namespace RecordingValid

variable {s : Recording}

theorem callout_idle {action : Callout} (hadded : action ≠ .session_added)
    (hremoved : action ≠ .session_removed) (about : Option (SeatRef × Option SessionRef)) :
    Frame.Idle ⟨.callout action, about⟩ := by
  apply Inert.idle
  cases action with
  | session_added => exact hadded rfl
  | session_removed => exact hremoved rfl
  | _ => trivial

/-- The programs of a callout are done, and no record of a session is written. -/
theorem pop (h : RecordingValid s) {f : Frame} {rest : List Frame} (hframes : s.frames = f :: rest)
    (hidle : f.Idle) {records : List CkLogEventData} (hpassive : ∀ r ∈ records, Passive reading r)
    (hinterrupts : ∀ r ∈ records, reading.interrupts r = false) :
    RecordingValid { s with frames := rest, log := s.log ++ records } := by
  have hquiet := @quiet s h s.state rest [] none records (fun g hg => ?_) (fun g hg => ?_)
    (h.ids_rest hframes) rfl (fun _ => rfl) rfl (fun _ _ => rfl) inert_nil hpassive hinterrupts
  · exact hquiet
  · rw [hframes] at hg
    rcases List.mem_cons.mp hg with rfl | hg
    · exact .inr hidle
    · exact .inl hg
  · rw [hframes]
    exact List.mem_cons_of_mem f hg

/-- The programs of a callout are done, and one record is written: it starts
    only a session that stays, and ends the one that the callout was about. -/
theorem recorded (h : RecordingValid s) {action : Callout}
    {about : Option (SeatRef × Option SessionRef)} {rest : List Frame}
    (hframes : s.frames = ⟨.callout action, about⟩ :: rest) {record : CkLogEventData}
    (hstarts : ∀ k, reading.starts record = some k → ¬ s.Leaving k ∧ Known s.state k)
    (hends : ∀ k, Frame.Removes s.state ⟨.callout action, about⟩ k ↔ reading.ends record = some k)
    (hinterrupts : reading.interrupts record = false) :
    RecordingValid { s with frames := rest, log := s.log ++ [record] } := by
  have hmem : ∀ {f}, f ∈ rest → f ∈ s.frames := fun hf => hframes ▸ List.mem_cons_of_mem _ hf
  have hleaving := @leaving_rest s { s with frames := rest, log := s.log ++ [record] } _ rfl hframes
    fun k ⟨_, _, _, hcall, _⟩ => by cases hcall
  have hremoving := @removing_rest s { s with frames := rest, log := s.log ++ [record] } _ rfl
    hframes
  constructor
  case ids => exact h.ids_rest hframes
  case about => exact fun hf => h.about (hmem hf)
  case leaves => exact fun hf => h.leaves (hmem hf)
  case entering =>
    rintro y ⟨f, hf, hy⟩
    rw [hleaving]
    exact h.entering ⟨f, hmem hf, hy⟩
  case removing =>
    intro k hk
    rw [hleaving]
    rw [ended_append, ended_singleton] at hk
    rcases hk with hk | hk | hk
    · exact h.removing (.inl ((hremoving k).mpr (.inr hk)))
    · exact h.removing (.inr hk)
    · exact h.removing (.inl ((hremoving k).mpr (.inl ((hends k).mpr hk))))
  case started =>
    intro k hk
    rw [hleaving, ended_append, ended_singleton]
    rw [started_append, started_singleton] at hk
    rcases hk with hk | hk
    · obtain ⟨hwhere, hknown⟩ := h.started hk
      refine ⟨?_, hknown⟩
      rcases hwhere with hended | hk | hstays
      · exact .inl (.inl hended)
      · -- a removal that was announced is recorded now, or later
        exact ((hremoving k).mp hk).elim (fun hk => .inl (.inr ((hends k).mp hk)))
          fun hk => .inr (.inl hk)
      · exact .inr (.inr hstays)
    · exact (hstarts k hk).imp_left fun hstays => .inr (.inr hstays)
  case orderly =>
    apply h.orderly.concat
    · exact fun k hk hended => (hstarts k hk).1 (h.removing (.inr hended)).1
    · intro htrue
      rw [hinterrupts] at htrue
      cases htrue

/-- The record of a session that has come is written. -/
theorem added (h : RecordingValid s) {d : SeatRef} {x : SessionRef} {rest : List Frame}
    (hframes : s.frames = ⟨.callout .session_added, some (d, some x)⟩ :: rest)
    (session_type : SessionRef → Option CString) :
    RecordingValid { s with
      frames := rest
      log := s.log ++ [log_seat_session_added_event session_type s.state d x] } := by
  apply h.recorded hframes
  · intro k hk
    obtain rfl := Option.some.inj hk
    obtain ⟨hlt, hstays⟩ := h.entering ⟨_, hframes ▸ List.mem_cons_self, d, .inr ⟨rfl, rfl⟩⟩
    exact ⟨hstays, x, hlt, rfl⟩
  · intro k
    apply iff_of_false _ nofun
    rintro ⟨_, _, hcall, -⟩
    cases hcall
  · rfl

/-- The record of a removal is written. -/
theorem removed (h : RecordingValid s) {d : SeatRef} {x : SessionRef} {rest : List Frame}
    (hframes : s.frames = ⟨.callout .session_removed, some (d, some x)⟩ :: rest)
    (session_type : SessionRef → Option CString) :
    RecordingValid { s with
      frames := rest
      log := s.log ++ [log_seat_session_removed_event session_type s.state d x] } := by
  apply h.recorded hframes
  · exact nofun
  · intro k
    constructor
    · rintro ⟨_, _, -, habout, rfl⟩
      cases habout
      rfl
    · intro hk
      exact ⟨d, x, rfl, rfl, Option.some.inj hk⟩
  · rfl

end RecordingValid

/-! ## Section 6: Sessions that come and go -/

namespace RecordingValid

variable {s : Recording}

/-- A session gets its seat, and the programs for that are run. -/
theorem attach (h : RecordingValid s) {seat : Option SeatRef} {x : SessionRef}
    {about : Option (SeatRef × Option SessionRef)} {rest : List Frame}
    (hframes : s.frames = ⟨.ck_seat_add_session seat x, about⟩ :: rest) :
    RecordingValid { s with
      state := (s.state.ck_seat_add_session seat x).1
      frames := History.push (s.state.ck_seat_add_session seat x).2
        (about_call s.state (.ck_seat_add_session seat x)) rest } := by
  obtain ⟨hsame, hquiet⟩ := s.state.ck_seat_add_session_same seat x
  have hcalls : ∀ f ∈ (s.state.ck_seat_add_session seat x).2,
      (f = .callout .session_added ∧ ∃ d, seat = some d) ∨ Inert f := by
    cases seat with
    | none => exact List.forall_mem_nil _
    | some d =>
      intro f hf
      rcases List.mem_append.mp hf with hf | hf
      · unfold State.emit at hf
        split at hf
        · exact .inl ⟨List.mem_singleton.mp hf, d, rfl⟩
        · cases hf
      · obtain rfl := List.mem_singleton.mp hf
        exact .inr trivial
  have hmem : ∀ f ∈ rest, f ∈ s.frames := fun f hf => hframes ▸ List.mem_cons_of_mem _ hf
  apply h.push (congrArg (fun log => Recording.mk _ _ _ log _) (List.append_nil s.log).symm)
  case hids => exact (h.ids_rest hframes).quiet hsame hquiet
  case hrest => exact hmem
  case hkept =>
    intro f hf
    rw [hframes] at hf
    rcases List.mem_cons.mp hf with rfl | hf
    · refine .inr ⟨?_, ?_⟩
      · rintro m k ⟨_, _, hcall, -⟩
        cases hcall
      · rintro m k ⟨_, _, _, hcall, -⟩
        cases hcall
    · exact .inl hf
  case hnext => exact Nat.le_of_eq hsame.next_session.symm
  case hid => exact fun y _ => hsame.id y
  case htable => exact fun k _ => by rw [hsame.sessions]
  case hleader => exact fun l _ => by rw [hsame.leader]
  case henters =>
    intro f hf y hy
    rcases hcalls f hf with ⟨rfl, d, rfl⟩ | hinert
    · obtain ⟨d', hcall | ⟨-, habout⟩⟩ := hy
      · cases hcall
      · cases habout
        exact .inl ⟨_, hframes ▸ List.mem_cons_self, d, .inl rfl⟩
    · exact absurd hy ((Inert.idle hinert).enters y)
  case hremoves =>
    intro f hf d y hcall _
    rcases hcalls f hf with ⟨rfl, -⟩ | hinert
    · cases hcall
    · rw [hcall] at hinert
      cases hinert
  case hleaves =>
    intro f hf k hk
    rcases hcalls f hf with ⟨rfl, -⟩ | hinert
    · obtain ⟨_, _, _, hcall, -⟩ := hk
      cases hcall
    · exact absurd hk ((Inert.idle hinert).leaves _ k)
  case hpassive => exact List.forall_mem_nil _
  case hinterrupts => exact List.forall_mem_nil _

/-- The calls of a removal: the session will be taken out of the table, and if
    it is announced, programs are run first. -/
theorem removal_calls {m : State} {l : LeaderRef} {caller : RemovalCaller} {r : State × List Call}
    (h : m.remove_session_for_cookie l caller = some r) {x : SessionRef}
    (hx : m.sessions.lookup (m.leader l).session_id = some x) :
    (∀ f ∈ r.2, Inert f ∨ f = .remove_session l x caller ∨ f = .callout .session_removed) ∧
    .remove_session l x caller ∈ r.2 ∧
    (∀ d y, seat_and_session m l = some (d, some y) → y = x) ∧
    (Announced m x → .callout .session_removed ∈ r.2 ∧
      ∃ d, seat_and_session m l = some (d, some x)) := by
  obtain ⟨x', hx', rfl⟩ := Option.map_eq_some_iff.mp h
  obtain rfl := Option.some.inj (hx'.symm.trans hx)
  have habout : seat_and_session m l = (m.seat_of_session x').map fun d => (d, some x') := by
    unfold seat_and_session
    rw [hx]
    exact Option.map_eq_bind.symm
  rw [habout]
  cases hd : m.seat_of_session x' with
  | none =>
    dsimp only
    refine ⟨fun f hf => .inr (.inl (List.mem_singleton.mp hf)), List.mem_singleton.mpr rfl, ?_, ?_⟩
    · rintro d y ⟨⟩
    · rintro ⟨d, hseat, -⟩
      rw [hd] at hseat
      cases hseat
  | some d =>
    dsimp only
    refine ⟨?_, List.mem_append_right _ (by simp), ?_, ?_⟩
    · intro f hf
      rcases List.mem_append.mp hf with hf | hf
      · unfold State.ck_seat_remove_session at hf
        split at hf
        · rcases List.mem_append.mp hf with hf | hf
          · unfold State.emit at hf
            split at hf
            · exact .inr (.inr (List.mem_singleton.mp hf))
            · cases hf
          · obtain rfl := List.mem_singleton.mp hf
            exact .inl trivial
        · cases hf
      · simp only [List.mem_cons, List.not_mem_nil, or_false] at hf
        rcases hf with rfl | rfl
        · exact .inl trivial
        · exact .inr (.inl rfl)
    · rintro d' y ⟨⟩
      rfl
    · rintro ⟨d', hseat, hattached, hconnected⟩
      rw [hd] at hseat
      obtain rfl := Option.some.inj hseat
      refine ⟨List.mem_append_left _ ?_, d, rfl⟩
      unfold State.ck_seat_remove_session State.emit
      rw [if_pos hattached]
      dsimp only
      simp [State.setSeat, State.setSession, hconnected]

/-- The removal of a session starts. -/
theorem start (h : RecordingValid s) {l : LeaderRef} {caller : RemovalCaller}
    {r : State × List Call} {rest : List Frame}
    (hr : s.state.remove_session_for_cookie l caller = some r) (hl : l < s.state.next_leader)
    (hids : IdsValid s.state (rest.map Frame.call)) (hrest : ∀ f ∈ rest, f ∈ s.frames)
    (hframes : ∀ f ∈ s.frames, f ∈ rest ∨ f.Idle)
    (hentered : ∀ x, s.Entering x → (s.state.session x).id ≠ (s.state.leader l).session_id)
    (hannounced : ∀ x, s.state.sessions.lookup (s.state.leader l).session_id = some x →
      Started reading s.log (s.state.leader l).session_id →
      Announced s.state x ∨ s.Removing (s.state.leader l).session_id ∨
        Ended reading s.log (s.state.leader l).session_id) :
    RecordingValid { s with
      state := r.1, frames := History.push r.2 (seat_and_session s.state l) rest } := by
  obtain ⟨x, calls, hx, hsame, hquiet, hcalls⟩ := State.remove_session_for_cookie_spec hr
  obtain ⟨hcases, hremove, habout, hcallout⟩ := removal_calls hr hx
  obtain ⟨hlt, hid⟩ := h.ids.table hx
  have hknown : Known s.state (s.state.leader l).session_id := ⟨x, hlt, hid⟩
  -- The call that takes the session out of the table is on the stack now.
  have hleave : Recording.Leaving { s with
      state := r.1, frames := History.push r.2 (seat_and_session s.state l) rest }
      (s.state.leader l).session_id := by
    refine .inr ⟨_, mem_push.mpr (.inl ⟨_, hremove, rfl⟩), l, x, caller, rfl, ?_⟩
    rw [hsame.leader]
  apply h.push (congrArg (fun log => Recording.mk _ _ _ log _) (List.append_nil s.log).symm)
  case hids =>
    rw [hcalls, List.append_assoc]
    refine IdsValid.quiet (IdsValid.append hids ?_) hsame hquiet
    intro l' hl'
    obtain rfl := List.mem_singleton.mp hl'
    exact hl
  case hrest => exact hrest
  case hkept =>
    exact fun f hf => (hframes f hf).imp_right fun hidle => ⟨hidle.removes, hidle.leaves⟩
  case hnext => exact Nat.le_of_eq hsame.next_session.symm
  case hid => exact fun y _ => hsame.id y
  case htable => exact fun k _ => by rw [hsame.sessions]
  case hleader => exact fun l' _ => by rw [hsame.leader]
  case henters =>
    intro f hf y hy
    rcases hcases f hf with hinert | rfl | rfl
    · exact absurd hy ((Inert.idle hinert).enters y)
    · obtain ⟨d, hcall | ⟨hcall, -⟩⟩ := hy <;> cases hcall
    · obtain ⟨d, hcall | ⟨hcall, -⟩⟩ := hy <;> cases hcall
  case hremoves =>
    intro f hf d y _ hseat
    obtain rfl := habout d y hseat
    exact ⟨hlt, hid ▸ hleave⟩
  case hleaves =>
    intro f hf k hk
    -- the only session that will be taken out is that of the leader
    have hkey : k = (s.state.leader l).session_id := by
      rcases hcases f hf with hinert | rfl | rfl
      · exact absurd hk ((Inert.idle hinert).leaves _ k)
      · obtain ⟨l', y, caller', hcall, rfl⟩ := hk
        cases hcall
        rw [hsame.leader]
      · obtain ⟨_, _, _, hcall, -⟩ := hk
        cases hcall
    subst hkey
    refine ⟨hknown, hentered, fun hstarted => ?_⟩
    -- If the session is announced, the programs for its removal are run first.
    rcases hannounced x hx hstarted with htold | ⟨f, hf, hremoves⟩ | hended
    · obtain ⟨hmem, d, hseat⟩ := hcallout htold
      refine .inr ⟨_, mem_push.mpr (.inl ⟨_, hmem, rfl⟩), d, x, rfl, hseat, ?_⟩
      exact (hsame.id x).trans hid
    · rcases hframes f hf with hf' | hidle
      · obtain ⟨d, y, hcall, habout', hy⟩ := hremoves
        exact .inr ⟨f, mem_push.mpr (.inr hf'), d, y, hcall, habout', (hsame.id y).trans hy⟩
      · exact absurd hremoves (hidle.removes _ _)
    · exact .inl hended
  case hpassive => exact List.forall_mem_nil _
  case hinterrupts => exact List.forall_mem_nil _

/-- A session is taken out of the table. -/
theorem take (h : RecordingValid s) {l : LeaderRef} {x : SessionRef} {caller : RemovalCaller}
    {about : Option (SeatRef × Option SessionRef)} {rest : List Frame}
    (hframes : s.frames = ⟨.remove_session l x caller, about⟩ :: rest) :
    RecordingValid { s with
      state := s.state.session_removed l x caller, frames := rest } := by
  have hmem : ∀ {f}, f ∈ rest → f ∈ s.frames := fun hf => hframes ▸ List.mem_cons_of_mem _ hf
  have hsession : (s.state.session_removed l x caller).session = s.state.session := by
    cases caller <;> rfl
  have hnext : (s.state.session_removed l x caller).next_session = s.state.next_session := by
    cases caller <;> rfl
  have htable : (s.state.session_removed l x caller).sessions =
      s.state.sessions.erase (s.state.leader l).session_id := by
    cases caller <;> rfl
  have hleader : ∀ l', ((s.state.session_removed l x caller).leader l').session_id =
      (s.state.leader l').session_id := by
    intro l'
    cases caller with
    | dbus_close_session => rfl
    | destroy_entity =>
      exact (congrArg CkSessionLeader.session_id (s.state.cancel_leader l l')).trans rfl
  have hleaves : ∀ {f k}, Frame.Leaves (s.state.session_removed l x caller) f k ↔
      f.Leaves s.state k := by
    intro f k
    unfold Frame.Leaves
    simp only [hleader]
  have hremoves : ∀ {f k}, Frame.Removes (s.state.session_removed l x caller) f k ↔
      f.Removes s.state k := by
    intro f k
    unfold Frame.Removes
    rw [hsession]
  apply h.move
  case hids => exact (h.ids_rest hframes).removed l x caller
  case habout =>
    intro f d y hf hcall habout
    exact hnext ▸ h.about (hmem hf) hcall habout
  case hleaves => exact fun hf hk => h.leaves (hmem hf) (hleaves.mp hk)
  case hknown =>
    intro y hy
    dsimp only
    rw [hnext, hsession]
    exact ⟨hy, rfl⟩
  case hentering =>
    rintro y ⟨f, hf, hy⟩
    exact .inl ⟨f, hmem hf, hy⟩
  case hleaving =>
    rintro k - (hk | ⟨f, hf, hk⟩)
    · refine .inl ?_
      dsimp only
      rw [htable]
      exact Option.eq_none_iff_forall_ne_some.mpr fun y hy => by
        rw [(HashTable.lookup_erase_iff.mp hy).2] at hk
        cases hk
    · rw [hframes] at hf
      rcases List.mem_cons.mp hf with rfl | hf
      · -- The call of this step has left the stack, and the session the table.
        obtain ⟨_, _, _, hcall, rfl⟩ := hk
        cases hcall
        refine .inl ?_
        dsimp only
        rw [htable]
        exact AList.lookup_erase _ _
      · exact .inr ⟨f, hf, hleaves.mpr hk⟩
  case hleft =>
    rintro k - (hk | ⟨f, hf, hk⟩)
    · refine .inl ?_
      dsimp only at hk
      rw [htable] at hk
      -- The session with this id was leaving, since the call was on the stack.
      by_cases heq : k = (s.state.leader l).session_id
      · exact .inr ⟨_, hframes ▸ List.mem_cons_self, l, x, caller, rfl, heq.symm⟩
      · rw [AList.lookup_erase_ne heq] at hk
        exact .inl hk
    · exact .inl (.inr ⟨f, hmem hf, hleaves.mp hk⟩)
  case hremoving =>
    rintro k ⟨f, hf, hk⟩
    exact .inl ⟨f, hmem hf, hremoves.mp hk⟩
  case hremoved =>
    rintro k ⟨f, hf, hk⟩
    rw [hframes] at hf
    rcases List.mem_cons.mp hf with rfl | hf
    · obtain ⟨_, _, hcall, -⟩ := hk
      cases hcall
    · exact ⟨f, hf, hremoves.mpr hk⟩
  case hlog => exact (List.append_nil _).symm
  case hpassive => exact List.forall_mem_nil _
  case hinterrupts =>
    rintro ⟨_, hr, -⟩
    cases hr

/-- A session is opened, and will get its seat. -/
theorem opened (h : RecordingValid s) {l : LeaderRef} {result : Option Opening}
    {r : State × List Call} (hjob : (s.state.leader l).job = true)
    (hr : s.state.job_completed l result = some r) :
    RecordingValid { s with state := r.1, frames := History.push r.2 none s.frames } := by
  rcases State.job_completed_cases hr with rfl |
    ⟨o, is_local, seat, calls, -, -, hsame, hquiet, hcalls, hseat⟩
  · have hended := @quiet s h (s.state.setLeader l { s.state.leader l with job := false }) s.frames
      [] none [] (fun f hf => .inl hf) (fun f hf => hf) (h.ids.ended l) rfl (fun _ => rfl) rfl
      (fun l' _ => ?_) inert_nil (List.forall_mem_nil _) (List.forall_mem_nil _)
    · rw [List.append_nil] at hended
      exact hended
    · exact (congrArg CkSessionLeader.session_id (s.state.cancel_leader l l')).trans rfl
  have hinert : ∀ f ∈ calls, Inert f := by
    rcases hseat with ⟨_, -, -, -, rfl⟩ | ⟨-, hadd⟩
    · exact inert_nil
    · exact add_new_seat_inert hadd
  have hcases : ∀ f ∈ r.2, Inert f ∨ f = .ck_seat_add_session seat s.state.next_session := by
    intro f hf
    rw [hcalls] at hf
    rcases List.mem_append.mp hf with hf | hf
    · exact .inl (hinert f hf)
    · simp only [List.mem_cons, List.not_mem_nil, or_false] at hf
      rcases hf with rfl | rfl
      · exact .inr rfl
      · exact .inl trivial
  have hstays : ∀ f ∈ r.2, ∀ k, ¬ Frame.Leaves r.1 ⟨f, none⟩ k := by
    intro f hf k hk
    rcases hcases f hf with hinert | rfl
    · exact (Inert.idle hinert).leaves _ k hk
    · obtain ⟨_, _, _, hcall, -⟩ := hk
      cases hcall
  have hnext : r.1.next_session = s.state.next_session + 1 := hsame.next_session
  have htable : r.1.sessions =
      s.state.sessions.insert (s.state.leader l).session_id s.state.next_session := by
    refine hsame.sessions.trans ?_
    simp [State.insertOpened, State.insertSession, State.setLeader,
      State.ck_session_new_with_parameters]
  have hold : ∀ x < s.state.next_session, (r.1.session x).id = (s.state.session x).id := by
    intro x hx
    rw [hsame.id]
    exact congrArg CkSession.id (Function.update_of_ne (Nat.ne_of_lt hx) ..)
  have hleader : ∀ l', (r.1.leader l').session_id = (s.state.leader l').session_id := by
    intro l'
    rw [hsame.leader]
    exact (congrArg CkSessionLeader.session_id (s.state.cancel_leader l l')).trans rfl
  have hnew : (r.1.session s.state.next_session).id = (s.state.leader l).session_id := by
    refine (hsame.id _).trans ?_
    simp [State.insertOpened, State.insertSession, State.setLeader,
      State.ck_session_new_with_parameters]
  -- The id of the leader is that of no session yet.
  have hunused : ∀ k, Known s.state k → k ≠ (s.state.leader l).session_id := by
    rintro k ⟨x, hx, rfl⟩
    exact h.ids.unused hjob hx
  apply h.push (congrArg (fun log => Recording.mk _ _ _ log _) (List.append_nil s.log).symm)
  case hids =>
    refine (h.ids.opened hjob o).congr hsame fun {l'} hl' => ?_
    rw [hcalls, List.append_assoc, (quiet_append hquiet _).1] at hl'
    exact hl'
  case hrest => exact fun f hf => hf
  case hkept => exact fun f hf => .inl hf
  case hnext => exact hnext ▸ Nat.le_succ _
  case hid => exact hold
  case htable =>
    intro k hk
    rw [htable, AList.lookup_insert_ne (hunused k hk)]
  case hleader => exact fun l' _ => hleader l'
  case henters =>
    intro f hf x hx
    rcases hcases f hf with hinert | rfl
    · exact absurd hx ((Inert.idle hinert).enters x)
    · obtain ⟨d, hcall | ⟨hcall, -⟩⟩ := hx
      · cases hcall
        refine .inr ⟨hnext ▸ Nat.lt_succ_self _, ?_⟩
        -- The new session is in the table, and no frame removes it.
        rw [hnew]
        rintro (hk | ⟨f, hf, hk⟩)
        · dsimp only at hk
          rw [htable, AList.lookup_insert] at hk
          cases hk
        · rcases mem_push.mp hf with ⟨g, hg, rfl⟩ | hf
          · exact hstays g hg _ hk
          · -- no session has had the id
            refine hunused _ (h.leaves hf ?_) rfl
            obtain ⟨l', y, caller, hcall, hk⟩ := hk
            exact ⟨l', y, caller, hcall, (hleader l').symm.trans hk⟩
      · cases hcall
  case hremoves =>
    intro f hf d x hcall _
    rcases hcases f hf with hinert | rfl
    · rw [hcall] at hinert
      cases hinert
    · cases hcall
  case hleaves => exact fun f hf k hk => absurd hk (hstays f hf k)
  case hpassive => exact List.forall_mem_nil _
  case hinterrupts => exact List.forall_mem_nil _

end RecordingValid

end History
