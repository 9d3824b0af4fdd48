import ConsoleKit.Log.Codec

/-! # The header of a log line

    What `ck_log_event_to_string` writes before the data of an event is read
    back by `sscanf`, and `skip_header` finds the place where the data
    starts.
-/

namespace Log

open Libc

/-! ## Section 1: The names of the types -/

/-- The types that are written under a name of their own. -/
def CkLogEventType.named (type : CkLogEventType) : Bool :=
  type ∈ [.SEAT_ADDED, .SEAT_REMOVED, .SYSTEM_STOP, .SYSTEM_RESTART, .SYSTEM_START,
    .SEAT_SESSION_ADDED, .SEAT_SESSION_REMOVED, .SEAT_DEVICE_ADDED, .SEAT_DEVICE_REMOVED,
    .SEAT_ACTIVE_SESSION_CHANGED]

/-- A name of a type is read back as the type, and `UNKNOWN` not at all. -/
theorem event_name_to_type_name (type : CkLogEventType) :
    event_name_to_type (event_type_to_name type) = if type.named then some type else none := by
  cases type <;> decide

/-- No name holds white space, none is empty and each fits `buf`. -/
theorem event_type_to_name_word (type : CkLogEventType) :
    (event_type_to_name type).all (fun c => !isspace c) = true ∧
    0 < (event_type_to_name type).length ∧ (event_type_to_name type).length ≤ 30 := by
  cases type <;> decide

/-! ## Section 2: The header -/

/-- The header of a line, and what `sscanf` makes of it. -/
theorem sscanf_header_any (timestamp : GTimeVal) (type : CkLogEventType) (text : CString) :
    sscanf_header (add_log_for_any timestamp type ++ text) =
      some (timestamp.tv_sec.toUInt64.toNat, timestamp.tv_usec / 1000 % 2 ^ 32,
        event_type_to_name type) := by
  obtain ⟨hall, hpos, hlen⟩ := event_type_to_name_word type
  have hword : ∀ c ∈ event_type_to_name type, isspace c = false := by
    intro c hc
    simpa using List.all_eq_true.mp hall c hc
  have hsec : timestamp.tv_sec.toUInt64.toNat < 2 ^ 64 := UInt64.toNat_lt _
  have hfrac : timestamp.tv_usec / 1000 % 2 ^ 32 < 2 ^ 32 := Nat.mod_lt _ (by decide)
  have h₁ := scan_unsigned_digits (Nat.le_refl 64)
    (cstr "." ++ (percent_03u (timestamp.tv_usec / 1000 % 2 ^ 32) ++
      (cstr " type=" ++ (event_type_to_name type ++ (cstr " : " ++ text)))))
    (percent_u_ne_nil timestamp.tv_sec.toUInt64.toNat) (percent_u_isDigit _)
    (by rintro c hc; cases hc; decide) (by rw [ofDigitChars_percent_u]; exact hsec)
  have h₂ := scan_unsigned_digits (show 32 ≤ 64 by decide)
    (cstr " type=" ++ (event_type_to_name type ++ (cstr " : " ++ text)))
    (percent_03u_ne_nil (timestamp.tv_usec / 1000 % 2 ^ 32)) (percent_03u_isDigit _)
    (by rintro c hc; cases hc; decide) (by rw [ofDigitChars_percent_03u]; exact hfrac)
  have h₃ : scan_space (cstr " type=" ++ (event_type_to_name type ++ (cstr " : " ++ text))) =
      cstr "type=" ++ (event_type_to_name type ++ (cstr " : " ++ text)) := rfl
  have h₄ := scan_word_append (cstr ": " ++ text) hword
    (List.ne_nil_of_length_pos hpos) hlen
  rw [ofDigitChars_percent_u] at h₁
  rw [ofDigitChars_percent_03u] at h₂
  unfold sscanf_header add_log_for_any
  simp only [List.append_assoc, h₁, h₂, h₃, scan_literal_append, Option.bind_eq_bind,
    Option.bind_some]
  rw [show cstr " : " ++ text = ' ' :: (cstr ": " ++ text) from rfl, h₄]
  rfl

/-- The time stamp comes back to the millisecond, and the type if it has a name. -/
theorem parse_log_for_any_header (timestamp : GTimeVal) (husec : timestamp.tv_usec < 1000000)
    (type : CkLogEventType) (text : CString) :
    parse_log_for_any (add_log_for_any timestamp type ++ text) =
      if type.named then
        some ({ tv_sec := timestamp.tv_sec, tv_usec := timestamp.tv_usec / 1000 * 1000 }, type)
      else none := by
  have hmod : timestamp.tv_usec / 1000 % 2 ^ 32 = timestamp.tv_usec / 1000 :=
    Nat.mod_eq_of_lt (by omega)
  have husec' : 1000 * (timestamp.tv_usec / 1000) % 2 ^ 32 = timestamp.tv_usec / 1000 * 1000 := by
    omega
  unfold parse_log_for_any
  rw [sscanf_header_any]
  simp only [Option.bind_eq_bind, Option.bind_some, event_name_to_type_name]
  split
  · rw [Option.bind_some, hmod, husec', UInt64.ofNat_toNat, Int64.toInt64_toUInt64]
    rfl
  · rfl

/-! ## Section 3: The start of the data -/

/-- The first ` : ` of a line is the one that ends its header. -/
theorem skip_header_any (timestamp : GTimeVal) (type : CkLogEventType) (text : CString) :
    skip_header (add_log_for_any timestamp type ++ text) = some text := by
  have hdigit : ∀ w : CString, (∀ c ∈ w, c.isDigit = true) → ∀ c ∈ w, c ≠ ' ' := by
    rintro w hw c hc rfl
    exact absurd (hw _ hc) (by decide)
  have hname : ∀ c ∈ event_type_to_name type, c ≠ ' ' := by
    rintro c hc rfl
    have := List.all_eq_true.mp (event_type_to_name_word type).1 _ hc
    exact absurd this (by decide)
  have hskip : ∀ w rest : CString, (∀ c ∈ w, c ≠ ' ') →
      g_strstr_len (cstr " : ") (w ++ rest) = g_strstr_len (cstr " : ") rest :=
    fun w rest hw => g_strstr_len_skip [':', ' '] rfl hw rest
  have hfirst : g_strstr_len (cstr " : ") (add_log_for_any timestamp type ++ text) =
      some (cstr " : " ++ text) := by
    unfold add_log_for_any
    simp only [List.append_assoc]
    rw [hskip _ _ (hdigit _ (percent_u_isDigit _)), hskip (cstr ".") _ (by simp [cstr]),
      hskip _ _ (hdigit _ (percent_03u_isDigit _))]
    -- the space before `type=` is not followed by a colon
    rw [show cstr " type=" ++ (event_type_to_name type ++ (cstr " : " ++ text)) =
        ' ' :: (cstr "type=" ++ (event_type_to_name type ++ (cstr " : " ++ text))) from rfl,
      g_strstr_len, if_neg (by simp [cstr, List.isPrefixOf])]
    rw [hskip (cstr "type=") _ (by simp [cstr]), hskip _ _ hname]
    rfl
  unfold skip_header
  rw [hfirst]
  rfl

end Log
