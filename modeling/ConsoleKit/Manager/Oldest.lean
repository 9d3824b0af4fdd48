import ConsoleKit.Framework.Iso8601
import ConsoleKit.Log.Event
import ConsoleKit.Manager.Active

/-! # The oldest session of a device

    The seat compares the creation times of its sessions as text.  In a
    second the text of a time without microseconds comes last, so that the
    session it takes for the oldest may be younger than another one.

    This module provides:
    - `g_time_val_to_iso8601`, `created`: the creation times of the sessions,
    - `OldestChosen`: what is asked of the session of a device,
    - `oldest_chosen_iff`: the times for which the seat has it. -/

namespace CkManager

open Libc Log

/-! ## Section 1: Creation times -/

/-- A time in the years 0 to 9999, which are printed with four digits. -/
structure CreationTime extends GTimeVal where
  usec_lt : tv_usec < 1000000
  year_0 : -62167219200 ≤ tv_sec.toInt
  year_9999 : tv_sec.toInt < 253402300800

def g_time_val_to_iso8601 (t : CreationTime) : CString :=
  iso8601 (t.tv_sec.toInt + 62167219200).toNat t.tv_usec

/-- The order on seconds and microseconds. -/
def CreationTime.Earlier (t t' : CreationTime) : Prop :=
  t.tv_sec.toInt < t'.tv_sec.toInt ∨
    t.tv_sec.toInt = t'.tv_sec.toInt ∧ t.tv_usec < t'.tv_usec

theorem g_time_val_to_iso8601_lt_iff (t t' : CreationTime) :
    g_time_val_to_iso8601 t < g_time_val_to_iso8601 t' ↔
      t.tv_sec.toInt < t'.tv_sec.toInt ∨
        t.tv_sec.toInt = t'.tv_sec.toInt ∧ t.tv_usec ≠ 0 ∧
          (t'.tv_usec = 0 ∨ t.tv_usec < t'.tv_usec) := by
  have h0 := t.year_0
  have h0' := t'.year_0
  have h := t.year_9999
  have h' := t'.year_9999
  have hyears : 86400 * days_before_year 10000 = 315569520000 := rfl
  unfold g_time_val_to_iso8601
  rw [iso8601_lt_iff (by omega) (by omega) t.usec_lt t'.usec_lt]
  omega

namespace State

/-- The sessions have these creation times; `ck_session_get_creation_time`
    prints them. -/
def created (m : State) (time : SessionRef → CreationTime) : State :=
  { m with session := fun x =>
      { m.session x with creation_time := g_time_val_to_iso8601 (time x) } }

/-- The session is on the seat and matches the device.  An X11 display device
    takes precedence over a display device. -/
def Matches (m : State) (d : SeatRef) (device : CString) (x : SessionRef) : Prop :=
  x ∈ (m.seat d).sessions.values ∧
    ((m.session x).x11_display_device = some device ∨
      (∀ y ∈ (m.seat d).sessions.values, (m.session y).x11_display_device ≠ some device) ∧
        (m.session x).display_device = some device)

/-- The session that the seat finds for the device is the oldest that matches. -/
structure OldestChosen (m : State) (time : SessionRef → CreationTime) (d : SeatRef)
    (device : CString) : Prop where
  absent : (m.created time).find_session_for_display_device d device = none ↔
    ∀ x, ¬ m.Matches d device x
  found : ∀ {x}, (m.created time).find_session_for_display_device d device = some x →
    m.Matches d device x ∧ ∀ y, m.Matches d device y → ¬ (time y).Earlier (time x)

/-- Of the sessions that match, those of the earliest second all were created
    at its start, or none was. -/
def SameFractions (m : State) (time : SessionRef → CreationTime) (d : SeatRef)
    (device : CString) : Prop :=
  ∀ x y, m.Matches d device x → m.Matches d device y →
    (time x).tv_sec.toInt = (time y).tv_sec.toInt →
    (∀ z, m.Matches d device z → (time x).tv_sec.toInt ≤ (time z).tv_sec.toInt) →
    ((time x).tv_usec = 0 ↔ (time y).tv_usec = 0)

/-! ## Section 2: The session with the least text -/

theorem mem_find_all_iff {m : State} {d : SeatRef} {predicate : CkSession → Bool}
    {x : SessionRef} : x ∈ m.find_all d predicate ↔
      x ∈ (m.seat d).sessions.values ∧ predicate (m.session x) = true := by
  rw [find_all, List.mem_reverse, List.mem_filter]

/-- The fold of `find_oldest_session` ends with a session of which no other
    has a lesser text. -/
theorem foldl_creation_time_min (m : State) (xs : List SessionRef) (x y : SessionRef)
    (hy : y ∈ x :: xs) :
    ¬ (m.session y).creation_time < (m.session (xs.foldl (fun oldest z =>
      if (m.session z).creation_time < (m.session oldest).creation_time then z else oldest)
      x)).creation_time := by
  induction xs generalizing x y with
  | nil =>
    rw [List.mem_singleton.mp hy]
    exact List.lt_irrefl _
  | cons z xs ih =>
    rw [List.foldl_cons]
    by_cases hlt : (m.session z).creation_time < (m.session x).creation_time
    · rw [if_pos hlt]
      rcases List.mem_cons.mp hy with rfl | hy
      -- an older one than `y` is at hand
      · exact fun h => ih z z List.mem_cons_self (List.lt_trans hlt h)
      · exact ih z y hy
    · rw [if_neg hlt]
      rcases List.mem_cons.mp hy with rfl | hy
      · exact ih y y List.mem_cons_self
      · rcases List.mem_cons.mp hy with rfl | hy
        · intro h
          have hx := ih x x List.mem_cons_self
          rw [List.not_lt] at hlt hx
          exact absurd h (List.not_lt.mpr (List.le_trans hx hlt))
        · exact ih x y (List.mem_cons_of_mem _ hy)

theorem find_oldest_session_min {m : State} {xs : List SessionRef} {x y : SessionRef}
    (h : m.find_oldest_session xs = some x) (hy : y ∈ xs) :
    ¬ (m.session y).creation_time < (m.session x).creation_time := by
  cases xs with
  | nil => cases h
  | cons z zs =>
    rw [← Option.some.inj h]
    exact m.foldl_creation_time_min zs z y hy

theorem find_oldest_session_eq_none {m : State} {xs : List SessionRef} :
    m.find_oldest_session xs = none ↔ xs = [] := by
  cases xs with
  | nil => exact ⟨fun _ => rfl, fun _ => rfl⟩
  | cons x xs => exact ⟨nofun, nofun⟩

/-- The sessions that the seat chooses from. -/
theorem exists_candidates (m : State) (d : SeatRef) (device : CString) :
    ∃ xs, m.find_session_for_display_device d device = m.find_oldest_session xs ∧
      ∀ x, x ∈ xs ↔ m.Matches d device x := by
  unfold find_session_for_display_device
  cases hx11 : m.find_all d fun s => s.x11_display_device = some device with
  | nil =>
    -- No session has the device as its X11 display, so the other device is looked
    -- at.
    have hnone : ∀ y ∈ (m.seat d).sessions.values,
        (m.session y).x11_display_device ≠ some device := by
      intro y hy heq
      have hmem : y ∈ m.find_all d fun s => s.x11_display_device = some device :=
        mem_find_all_iff.mpr ⟨hy, decide_eq_true heq⟩
      rw [hx11] at hmem
      cases hmem
    refine ⟨_, rfl, fun x => ?_⟩
    rw [mem_find_all_iff, decide_eq_true_iff]
    constructor
    · exact fun ⟨hx, hdevice⟩ => ⟨hx, .inr ⟨hnone, hdevice⟩⟩
    · rintro ⟨hx, heq | ⟨_, hdevice⟩⟩
      · exact absurd heq (hnone x hx)
      · exact ⟨hx, hdevice⟩
  | cons y ys =>
    have hy : y ∈ m.find_all d fun s => s.x11_display_device = some device := by
      rw [hx11]
      exact List.mem_cons_self
    obtain ⟨hy, hsome⟩ := mem_find_all_iff.mp hy
    refine ⟨y :: ys, rfl, fun x => ?_⟩
    rw [← hx11, mem_find_all_iff, decide_eq_true_iff]
    constructor
    · exact fun ⟨hx, hdevice⟩ => ⟨hx, .inl hdevice⟩
    · rintro ⟨hx, hdevice | ⟨hnone, _⟩⟩
      · exact ⟨hx, hdevice⟩
      · exact absurd (of_decide_eq_true hsome) (hnone y hy)

theorem find_session_for_display_device_absent (m : State) (d : SeatRef) (device : CString) :
    m.find_session_for_display_device d device = none ↔ ∀ x, ¬ m.Matches d device x := by
  obtain ⟨xs, hfind, hmem⟩ := m.exists_candidates d device
  rw [hfind, find_oldest_session_eq_none, List.eq_nil_iff_forall_not_mem]
  exact forall_congr' fun x => not_congr (hmem x)

theorem find_session_for_display_device_found {m : State} {d : SeatRef} {device : CString}
    {x : SessionRef} (h : m.find_session_for_display_device d device = some x) :
    m.Matches d device x ∧ ∀ y, m.Matches d device y →
      ¬ (m.session y).creation_time < (m.session x).creation_time := by
  obtain ⟨xs, hfind, hmem⟩ := m.exists_candidates d device
  rw [hfind] at h
  refine ⟨(hmem x).mp (find_oldest_session_mem h), fun y hy => ?_⟩
  exact find_oldest_session_min h ((hmem y).mpr hy)

/-! ## Section 3: The oldest session -/

/-- The sessions match with the times that they are given as without them. -/
theorem matches_created (m : State) (time : SessionRef → CreationTime) (d : SeatRef)
    (device : CString) (x : SessionRef) :
    (m.created time).Matches d device x ↔ m.Matches d device x := Iff.rfl

/-- What is found has the least text of those that match. -/
theorem created_found {m : State} {time : SessionRef → CreationTime} {d : SeatRef}
    {device : CString} {x : SessionRef}
    (h : (m.created time).find_session_for_display_device d device = some x) :
    m.Matches d device x ∧ ∀ y, m.Matches d device y →
      ¬ g_time_val_to_iso8601 (time y) < g_time_val_to_iso8601 (time x) :=
  find_session_for_display_device_found h

theorem SameFractions.found {m : State} {time : SessionRef → CreationTime} {d : SeatRef}
    {device : CString} (hsame : m.SameFractions time d device) {x y : SessionRef}
    (h : (m.created time).find_session_for_display_device d device = some x)
    (hy : m.Matches d device y) : ¬ (time y).Earlier (time x) := by
  obtain ⟨hx, hleast⟩ := created_found h
  have hfirst : ∀ z, m.Matches d device z →
      (time x).tv_sec.toInt ≤ (time z).tv_sec.toInt := by
    intro z hz
    have := mt (g_time_val_to_iso8601_lt_iff (time z) (time x)).mpr (hleast z hz)
    omega
  have hyx := mt (g_time_val_to_iso8601_lt_iff (time y) (time x)).mpr (hleast y hy)
  rintro (hsec | ⟨hsec, husec⟩)
  · exact hyx (.inl hsec)
  · have hzero := hsame x y hx hy hsec.symm hfirst
    exact hyx (.inr ⟨hsec, by omega, .inr husec⟩)

theorem OldestChosen.same_fractions {m : State} {time : SessionRef → CreationTime}
    {d : SeatRef} {device : CString} (h : m.OldestChosen time d device) :
    m.SameFractions time d device := by
  -- of two sessions in the earliest second, the one at its start is the oldest
  have hzero : ∀ x y, m.Matches d device x → m.Matches d device y →
      (time x).tv_sec.toInt = (time y).tv_sec.toInt →
      (∀ z, m.Matches d device z → (time x).tv_sec.toInt ≤ (time z).tv_sec.toInt) →
      (time x).tv_usec = 0 → (time y).tv_usec = 0 := by
    intro x y hx hy hsec hfirst husec
    cases hfind : (m.created time).find_session_for_display_device d device with
    | none => exact absurd hx (h.absent.mp hfind x)
    | some z =>
      obtain ⟨hz, hleast⟩ := created_found hfind
      have hxz := (h.found hfind).2 x hx
      have hxz_sec := hfirst z hz
      -- The chosen one is the oldest, so it is at the start of that second, too. A
      -- text with a fraction would be less.
      have hyz := mt (g_time_val_to_iso8601_lt_iff (time y) (time z)).mpr (hleast y hy)
      unfold CreationTime.Earlier at hxz
      omega
  intro x y hx hy hsec hfirst
  constructor
  · exact hzero x y hx hy hsec hfirst
  · exact hzero y x hy hx hsec.symm fun z hz => hsec ▸ hfirst z hz

/-- The seat finds the oldest session exactly if those of the earliest second
    agree on having a fraction. -/
theorem oldest_chosen_iff (m : State) (time : SessionRef → CreationTime) (d : SeatRef)
    (device : CString) : m.OldestChosen time d device ↔ m.SameFractions time d device := by
  constructor
  · exact OldestChosen.same_fractions
  · intro hsame
    constructor
    · exact (m.created time).find_session_for_display_device_absent d device
    · intro x h
      exact ⟨(created_found h).1, fun y hy => hsame.found h hy⟩

/-- Two sessions of one client on VT 1. -/
def two_text_sessions : State :=
  let m := ck_manager_init true 1
  let session := { m.session 0 with display_device := some (cstr "/dev/tty1") }
  let m := (m.setSession 0 { session with id := cstr "Session1" }).setSession 1
    { session with id := cstr "Session2" }
  m.setSeat 0 { m.seat 0 with
    sessions := AList.insert (cstr "Session2") 1 (AList.insert (cstr "Session1") 0 ∅) }

/-- The first one was created at the start of a second. -/
def same_second (x : SessionRef) : CreationTime where
  tv_sec := 1577836800
  tv_usec := if x = 0 then 0 else 500000
  usec_lt := by split <;> decide
  year_0 := by decide
  year_9999 := by decide

/-- The seat takes the second one for the oldest. -/
theorem younger_session_chosen :
    ¬ two_text_sessions.OldestChosen same_second 0 (cstr "/dev/tty1") := by
  intro h
  have hfind : (two_text_sessions.created same_second).find_session_for_display_device 0
      (cstr "/dev/tty1") = some 1 := by decide +kernel
  have hmatches : two_text_sessions.Matches 0 (cstr "/dev/tty1") 0 := by
    refine ⟨by decide, .inr ⟨by decide, rfl⟩⟩
  have hearlier : (same_second 0).Earlier (same_second 1) := .inr ⟨rfl, by decide⟩
  exact (h.found hfind).2 0 hmatches hearlier

end State

end CkManager
