import ConsoleKit.Manager.Oldest

/-! # Console devices and VT numbers

    A request to activate a session reads the number of a VT from the device
    of the session, as `sscanf` does: white space and a sign before the
    digits, zeros in front and text behind them are ignored.  When the VT
    becomes active, its session is looked up by the device that is printed
    for the number.

    This module provides:
    - `Corresponds`: a device and its number go together,
    - `Plain`: the devices that are printed,
    - `corresponds_iff`: the devices that correspond to their number. -/

namespace Libc

/-! ## Section 1: Numerals -/

/-- A digit that is no letter. -/
theorem exists_digitChar {c : Char} (h : c.isDigit = true) : ∃ d < 10, Nat.digitChar d = c := by
  have hrange : 48 ≤ c.toNat ∧ c.toNat ≤ 57 := by
    rw [Char.isDigit, Bool.and_eq_true, decide_eq_true_iff, decide_eq_true_iff] at h
    exact h
  refine ⟨c.toNat - 48, by omega, Char.toNat_inj.mp ?_⟩
  rw [Nat.toNat_digitChar_of_lt_ten (by omega)]
  omega

/-- Digits behind a numeral belong to it. -/
theorem percent_u_append {digits : CString} (hdigits : ∀ c ∈ digits, c.isDigit = true) {n : Nat}
    (hn : 0 < n) : percent_u n ++ digits = percent_u (Nat.ofDigitChars 10 digits n) := by
  induction digits generalizing n with
  | nil => simp [percent_u]
  | cons c cs ih =>
    obtain ⟨d, hd, rfl⟩ := exists_digitChar (hdigits c List.mem_cons_self)
    have hpush : percent_u n ++ [Nat.digitChar d] = percent_u (10 * n + d) := by
      rw [percent_u, percent_u, ← Nat.toDigits_append_toDigits (by decide) hn hd,
        Nat.toDigits_of_lt_base hd]
    rw [Nat.ofDigitChars_cons_digitChar_of_lt_ten hd,
      ← ih (fun c hc => hdigits c (List.mem_cons_of_mem _ hc)) (by omega), ← hpush,
      List.append_assoc, List.singleton_append]

/-- Digits without a zero in front are the numeral of their number. -/
theorem percent_u_ofDigitChars {digits : CString} (hne : digits ≠ [])
    (hdigits : ∀ c ∈ digits, c.isDigit = true)
    (hzero : digits.head? = some '0' → digits = ['0']) :
    percent_u (Nat.ofDigitChars 10 digits 0) = digits := by
  obtain ⟨c, cs, rfl⟩ := List.exists_cons_of_ne_nil hne
  obtain ⟨d, hd, rfl⟩ := exists_digitChar (hdigits _ List.mem_cons_self)
  rcases Nat.eq_zero_or_pos d with rfl | hpos
  · rw [hzero rfl]
    rfl
  · have happend := percent_u_append (fun c hc => hdigits c (List.mem_cons_of_mem _ hc)) hpos
    have hone : percent_u d = [Nat.digitChar d] := Nat.toDigits_of_lt_base hd
    rw [Nat.ofDigitChars_cons_digitChar_of_lt_ten hd, Nat.mul_zero, Nat.zero_add, ← happend, hone,
      List.singleton_append]

/-- A numeral has no zero in front. -/
theorem percent_u_head (n : Nat) (h : (percent_u n).head? = some '0') : percent_u n = ['0'] := by
  induction n using Nat.strong_induction_on with
  | h n ih =>
    rcases Nat.lt_or_ge n 10 with hlt | hge
    · rw [percent_u, Nat.toDigits_of_lt_base hlt] at h ⊢
      exact congrArg (fun c => [c]) (Option.some.inj h)
    · -- A leading zero would be that of the number without its last digit.
      have hsplit : percent_u n = percent_u (n / 10) ++ [Nat.digitChar (n % 10)] :=
        Nat.toDigits_of_base_le (by decide) hge
      have hhead : (percent_u (n / 10)).head? = some '0' := by
        rw [hsplit, List.head?_append_of_ne_nil _ (percent_u_ne_nil _)] at h
        exact h
      have hzero := congrArg (fun s => Nat.ofDigitChars 10 s 0)
        (ih (n / 10) (Nat.div_lt_self (by omega) (by decide)) hhead)
      rw [ofDigitChars_percent_u] at hzero
      have : Nat.ofDigitChars 10 ['0'] 0 = 0 := rfl
      omega

end Libc

namespace CkManager

open Libc

/-! ## Section 2: The laws -/

namespace State

/-- The device that an activation request reads. -/
def console_device (m : State) (x : SessionRef) : Option CString :=
  let device := (m.session x).x11_display_device
  if device = none ∨ device = some [] then (m.session x).display_device else device

theorem console_num_eq (m : State) (x : SessionRef) :
    m.console_num x = ck_get_console_num_from_device (m.console_device x) := rfl

/-- The session is on the seat, and activating it switches to the VT. -/
structure SwitchesTo (m : State) (d : SeatRef) (x : SessionRef) (num : Nat) : Prop where
  member : x ∈ (m.seat d).sessions.values
  succeeds : (m.ck_seat_activate_session d (some x) true).2 = none
  num : m.console_num x = some num

end State

open State

/-- The device and the number that is read from it go together: they do as
    text, and for a session with this device.  `m'` is the state in which the
    VT has become active; the session is still there, with its device. -/
structure Corresponds (device : CString) : Prop where
  printed : ∀ num, 0 < num → num < 2 ^ 32 →
    ck_get_console_num_from_device (some (ck_get_console_device_for_num num)) = some num
  parsed : ∀ num, ck_get_console_num_from_device (some device) = some num →
    ck_get_console_device_for_num num = device
  found : ∀ (m m' : State) d x num, m.console_device x = some device → m.SwitchesTo d x num →
    x ∈ (m'.seat d).sessions.values → m'.console_device x = some device →
    ∃ y, m'.find_session_for_display_device d (ck_get_console_device_for_num num) = some y ∧
      ((m'.session y).x11_display_device = some device ∨
        (m'.session y).display_device = some device)

/-- After `/dev/tty`, white space and a sign there is a digit. -/
def Numbered (device : CString) : Prop :=
  ∃ rest c, device = cstr "/dev/tty" ++ rest ∧
    (sign (rest.dropWhile isspace)).2.head? = some c ∧ c.isDigit = true

/-- After `/dev/tty` there is the numeral of a `guint` and nothing else. -/
def Plain (device : CString) : Prop :=
  ∃ digits, device = cstr "/dev/tty" ++ digits ∧ digits ≠ [] ∧
    (∀ c ∈ digits, c.isDigit = true) ∧ (digits.head? = some '0' → digits = ['0']) ∧
    Nat.ofDigitChars 10 digits 0 < 2 ^ 32

/-! ## Section 3: What is read -/

theorem sign_length_le (s : CString) : (sign s).2.length ≤ s.length := by
  unfold sign
  split <;> simp

/-- A number is read where there is a digit. -/
theorem scan_unsigned_isSome_iff {bits : Nat} {s : CString} :
    (scan_unsigned bits s).isSome = true ↔
      ∃ c, (sign (s.dropWhile isspace)).2.head? = some c ∧ c.isDigit = true := by
  unfold scan_unsigned strtoul
  have hlen : (sign (s.dropWhile isspace)).2.length ≤ s.length :=
    Nat.le_trans (sign_length_le _) (List.dropWhile_suffix _).length_le
  generalize sign (s.dropWhile isspace) = signed at hlen
  obtain ⟨negative, t⟩ := signed
  dsimp only at hlen ⊢
  cases t with
  | nil => simp
  | cons c cs =>
    cases hc : c.isDigit with
    | false => simp [hc]
    | true =>
      -- At least one character has been read.
      have hrest : cs.dropWhile Char.isDigit ≠ s := by
        intro heq
        have hle := (List.dropWhile_suffix Char.isDigit (l := cs)).length_le
        rw [heq] at hle
        rw [List.length_cons] at hlen
        omega
      simp [hc, hrest]

theorem scan_unsigned_lt {bits n : Nat} {s rest : CString}
    (h : scan_unsigned bits s = some (n, rest)) : n < 2 ^ bits := by
  unfold scan_unsigned at h
  dsimp only at h
  split at h
  · cases h
  · obtain ⟨hn, _⟩ := Prod.mk.inj (Option.some.inj h)
    rw [← hn]
    exact Nat.mod_lt _ (Nat.two_pow_pos bits)

theorem console_num_of_text (rest : CString) :
    ck_get_console_num_from_device (some (cstr "/dev/tty" ++ rest)) =
      (scan_unsigned 32 rest).map Prod.fst := by
  simp only [ck_get_console_num_from_device, Option.bind_eq_bind, Option.bind_some,
    scan_literal_append]
  cases scan_unsigned 32 rest with
  | none => rfl
  | some r => rfl

/-- Only a device that begins with `/dev/tty` has a number. -/
theorem console_num_prefix {device : CString} {num : Nat}
    (h : ck_get_console_num_from_device (some device) = some num) :
    ∃ rest, device = cstr "/dev/tty" ++ rest := by
  simp only [ck_get_console_num_from_device, Option.bind_eq_bind, Option.bind_some,
    scan_literal] at h
  split at h
  · rename_i hprefix
    obtain ⟨rest, hrest⟩ := List.isPrefixOf_iff_prefix.mp hprefix
    exact ⟨rest, hrest.symm⟩
  · cases h

theorem numbered_iff {device : CString} :
    Numbered device ↔ ∃ num < 2 ^ 32, ck_get_console_num_from_device (some device) = some num := by
  constructor
  · rintro ⟨rest, c, rfl, hhead, hc⟩
    obtain ⟨⟨num, after⟩, hscan⟩ := Option.isSome_iff_exists.mp
      (scan_unsigned_isSome_iff.mpr ⟨c, hhead, hc⟩ : (scan_unsigned 32 rest).isSome = true)
    refine ⟨num, scan_unsigned_lt hscan, ?_⟩
    rw [console_num_of_text, hscan]
    rfl
  · rintro ⟨num, _, hnum⟩
    obtain ⟨rest, rfl⟩ := console_num_prefix hnum
    rw [console_num_of_text] at hnum
    obtain ⟨r, hscan, _⟩ := Option.map_eq_some_iff.mp hnum
    obtain ⟨c, hhead, hc⟩ := scan_unsigned_isSome_iff.mp (Option.isSome_iff_exists.mpr ⟨r, hscan⟩)
    exact ⟨rest, c, rfl, hhead, hc⟩

theorem console_num_of_num {num : Nat} (h : num < 2 ^ 32) :
    ck_get_console_num_from_device (some (ck_get_console_device_for_num num)) = some num := by
  have hscan := scan_unsigned_digits (by decide : 32 ≤ 64) [] (percent_u_ne_nil num)
    (percent_u_isDigit num) nofun (by rw [ofDigitChars_percent_u]; exact h)
  rw [List.append_nil, ofDigitChars_percent_u] at hscan
  rw [ck_get_console_device_for_num, console_num_of_text, hscan]
  rfl

theorem plain_iff {device : CString} :
    Plain device ↔ ∃ num < 2 ^ 32, device = ck_get_console_device_for_num num := by
  constructor
  · rintro ⟨digits, rfl, hne, hdigits, hzero, hlt⟩
    refine ⟨_, hlt, ?_⟩
    rw [ck_get_console_device_for_num, percent_u_ofDigitChars hne hdigits hzero]
  · rintro ⟨num, hlt, rfl⟩
    refine ⟨percent_u num, rfl, percent_u_ne_nil num, percent_u_isDigit num,
      percent_u_head num, ?_⟩
    rwa [ofDigitChars_percent_u]

/-! ## Section 4: Correspondence -/

/-- What is read from a device is printed as the device exactly if the device
    is plain. -/
theorem parsed_iff {device : CString} :
    (∀ num, ck_get_console_num_from_device (some device) = some num →
      ck_get_console_device_for_num num = device) ↔ (Numbered device → Plain device) := by
  constructor
  · intro h hnumbered
    obtain ⟨num, hlt, hnum⟩ := numbered_iff.mp hnumbered
    exact plain_iff.mpr ⟨num, hlt, (h num hnum).symm⟩
  · intro h num hnum
    have hnumbered : Numbered device := by
      obtain ⟨rest, rfl⟩ := console_num_prefix hnum
      have hscan := hnum
      rw [console_num_of_text] at hscan
      obtain ⟨r, hr, rfl⟩ := Option.map_eq_some_iff.mp hscan
      exact numbered_iff.mpr ⟨r.1, scan_unsigned_lt hr, hnum⟩
    obtain ⟨num', hlt, rfl⟩ := plain_iff.mp (h hnumbered)
    rw [console_num_of_num hlt] at hnum
    rw [Option.some.inj hnum]

/-- With a session on the device, the seat finds one. -/
theorem exists_session_of_device {m : State} {d : SeatRef} {x : SessionRef} {device : CString}
    (hx : x ∈ (m.seat d).sessions.values) (hdevice : m.console_device x = some device) :
    ∃ y, m.find_session_for_display_device d device = some y ∧
      ((m.session y).x11_display_device = some device ∨
        (m.session y).display_device = some device) := by
  cases hfind : m.find_session_for_display_device d device with
  | none =>
    exfalso
    have habsent := (m.find_session_for_display_device_absent d device).mp hfind
    -- The session has the device in one of its two fields.
    have hno_x11 : ∀ y ∈ (m.seat d).sessions.values,
        (m.session y).x11_display_device ≠ some device :=
      fun y hy heq => habsent y ⟨hy, .inl heq⟩
    unfold console_device at hdevice
    dsimp only at hdevice
    split at hdevice
    · exact habsent x ⟨hx, .inr ⟨hno_x11, hdevice⟩⟩
    · exact hno_x11 x hx hdevice
  | some y =>
    obtain ⟨⟨_, hmatch⟩, _⟩ := find_session_for_display_device_found hfind
    exact ⟨y, rfl, hmatch.imp_right And.right⟩

/-- A device corresponds to its number exactly if it has none or is plain. -/
theorem corresponds_iff (device : CString) :
    Corresponds device ↔ (Numbered device → Plain device) := by
  constructor
  · exact fun h => parsed_iff.mp h.parsed
  · intro h
    constructor
    · exact fun num _ hlt => console_num_of_num hlt
    · exact parsed_iff.mpr h
    · -- The device is that of the number, and the session with it is a candidate.
      intro m m' d x num hdevice hswitches hx hdevice'
      have hnum := hswitches.num
      rw [console_num_eq, hdevice] at hnum
      rw [parsed_iff.mpr h num hnum]
      exact exists_session_of_device hx hdevice'

/-- The daemon on VT 1, with a session on `/dev/tty07`. -/
def padded_session : State :=
  let m := ck_manager_init true 1
  let m := m.setSession 0
    { m.session 0 with id := cstr "Session1", display_device := some (cstr "/dev/tty07") }
  m.setSeat 0 { m.seat 0 with
    kind := .STATIC, sessions := AList.insert (cstr "Session1") 0 ∅ }

/-- Activating it switches to VT 7, on which the seat then finds no session. -/
theorem padded_device_lost : ¬ Corresponds (cstr "/dev/tty07") := by
  intro h
  have hswitches : padded_session.SwitchesTo 0 0 7 := ⟨by decide, by decide, by decide⟩
  obtain ⟨y, hy, _⟩ := h.found padded_session padded_session 0 0 7 (by decide) hswitches
    (by decide) (by decide)
  have hnone : padded_session.find_session_for_display_device 0
      (ck_get_console_device_for_num 7) = none := by decide
  rw [hnone] at hy
  cases hy

end CkManager
