import ConsoleKit.Framework.CString
import Mathlib.Data.List.Lex
import Mathlib.Data.Nat.Find
import Mathlib.Order.Monotone.Basic
import Mathlib.Tactic.Tauto

/-! # Times as text

    A time in UTC is printed as `YYYY-MM-DDTHH:MM:SS`, a fraction of six
    digits unless it is zero, and `Z`.  Fields of fixed width compare as the
    numbers in them, so that the text before the fraction compares as the
    seconds do.  The fraction does not, since the point comes before `Z`.

    This module provides:
    - `percent_0u`: numbers of a fixed width, and their order,
    - `locate`: the interval that a number lies in,
    - `iso8601`, `iso8601_lt_iff`: the text of a time, and its order. -/

namespace Libc

/-! ## Section 1: The text -/

/-- `%0*u` -/
def percent_0u (width n : Nat) : CString := (percent_u n).leftpad width '0'

/-- The interval in which `t` lies, of those up to `bound t` that begin at
    `start 0`, `start 1` and so on. -/
def locate (start bound : Nat → Nat) (t : Nat) : Nat :=
  Nat.findGreatest (fun k => start k ≤ t) (bound t)

/-- The days of the years from year 0 on. -/
def days_before_year (y : Nat) : Nat := 365 * y + (y + 3) / 4 - (y + 99) / 100 + (y + 399) / 400

def leap_year (y : Nat) : Bool := y % 4 = 0 && (y % 100 ≠ 0 || y % 400 = 0)

/-- Months count from 0. -/
def days_before_month (y month : Nat) : Nat :=
  [0, 31, 59, 90, 120, 151, 181, 212, 243, 273, 304, 334].getD month 0 +
    if leap_year y && 2 ≤ month then 1 else 0

def year_of (day : Nat) : Nat := locate days_before_year (fun d => d / 365) day

def month_of (y day : Nat) : Nat := locate (days_before_month y) (fun _ => 11) day

def iso_month (y day : Nat) : CString :=
  let month := month_of y day
  percent_0u 2 (month + 1) ++ (cstr "-" ++ percent_0u 2 (day - days_before_month y month + 1))

/-- `day` counts from the first day of year 0. -/
def iso_date (day : Nat) : CString :=
  let y := year_of day
  percent_0u 4 y ++ (cstr "-" ++ iso_month y (day - days_before_year y))

def iso_clock (s : Nat) : CString :=
  percent_0u 2 (s / 3600) ++ (cstr ":" ++
    (percent_0u 2 (s / 60 % 60) ++ (cstr ":" ++ percent_0u 2 (s % 60))))

def iso_fraction (usec : Nat) : CString :=
  if usec = 0 then cstr "Z" else cstr "." ++ (percent_0u 6 usec ++ cstr "Z")

/-- `s` counts from the start of year 0. -/
def iso8601 (s usec : Nat) : CString :=
  iso_date (s / 86400) ++ (cstr "T" ++ (iso_clock (s % 86400) ++ iso_fraction usec))

example : iso8601 63745056000 0 = cstr "2020-01-01T00:00:00Z" := by decide +kernel

/-! ## Section 2: Numbers of a fixed width -/

theorem digitChar_lt_iff {a b : Nat} (ha : a < 10) (hb : b < 10) :
    Nat.digitChar a < Nat.digitChar b ↔ a < b := by
  rw [Char.lt_def, UInt32.lt_iff_toNat_lt]
  show (Nat.digitChar a).toNat < (Nat.digitChar b).toNat ↔ a < b
  rw [Nat.toNat_digitChar_of_lt_ten ha, Nat.toNat_digitChar_of_lt_ten hb]
  omega

theorem digitChar_inj {a b : Nat} (ha : a < 10) (hb : b < 10) :
    Nat.digitChar a = Nat.digitChar b ↔ a = b := by
  constructor
  · intro h
    have := congrArg Char.toNat h
    rw [Nat.toNat_digitChar_of_lt_ten ha, Nat.toNat_digitChar_of_lt_ten hb] at this
    omega
  · rintro rfl
    rfl

theorem percent_0u_one {n : Nat} (hn : n < 10) : percent_0u 1 n = [Nat.digitChar n] := by
  rw [percent_0u, percent_u, Nat.toDigits_of_lt_base hn]
  rfl

/-- The last digit of a padded number. -/
theorem percent_0u_succ (w n : Nat) :
    percent_0u (w + 2) n = percent_0u (w + 1) (n / 10) ++ [Nat.digitChar (n % 10)] := by
  unfold percent_0u percent_u List.leftpad
  -- Below ten the rest of the number is 0, which stands for one of the zeros.
  rcases Nat.lt_or_ge n 10 with hn | hn
  · rw [Nat.toDigits_of_lt_base hn, Nat.div_eq_of_lt hn, Nat.mod_eq_of_lt hn, Nat.toDigits_zero]
    simp [List.replicate_succ']
  · have hlen : w + 2 - ((Nat.toDigits 10 (n / 10)).length + 1) =
        w + 1 - (Nat.toDigits 10 (n / 10)).length := by omega
    rw [Nat.toDigits_of_base_le (by decide) hn, List.length_append, List.length_singleton, hlen,
      List.append_assoc]

/-- Numbers that fit their width compare as their texts do. -/
theorem percent_0u_append_lt_iff {w n k : Nat} (hw : 0 < w) (r r' : CString) (hn : n < 10 ^ w)
    (hk : k < 10 ^ w) :
    percent_0u w n ++ r < percent_0u w k ++ r' ↔ n < k ∨ n = k ∧ r < r' := by
  obtain ⟨w, rfl⟩ := Nat.exists_eq_add_of_lt hw
  clear hw
  rw [Nat.zero_add] at *
  -- the last digits are compared with what follows
  induction w generalizing n k r r' with
  | zero =>
    rw [percent_0u_one hn, percent_0u_one hk, List.singleton_append, List.singleton_append,
      List.cons_lt_cons_iff, digitChar_lt_iff hn hk, digitChar_inj hn hk]
  | succ w ih =>
    have hn' : n / 10 < 10 ^ (w + 1) := by
      rw [Nat.div_lt_iff_lt_mul (by decide), ← Nat.pow_succ]
      exact hn
    have hk' : k / 10 < 10 ^ (w + 1) := by
      rw [Nat.div_lt_iff_lt_mul (by decide), ← Nat.pow_succ]
      exact hk
    have hdn : n % 10 < 10 := Nat.mod_lt _ (by decide)
    have hdk : k % 10 < 10 := Nat.mod_lt _ (by decide)
    rw [percent_0u_succ, percent_0u_succ, List.append_assoc, List.append_assoc,
      ih _ _ hn' hk', List.singleton_append, List.singleton_append,
      List.cons_lt_cons_iff, digitChar_lt_iff hdn hdk, digitChar_inj hdn hdk]
    constructor
    · rintro (h | ⟨h, h' | ⟨h', hr⟩⟩)
      · exact .inl (by omega)
      · exact .inl (by omega)
      · exact .inr ⟨by omega, hr⟩
    · rintro (h | ⟨rfl, hr⟩)
      · rcases Nat.lt_or_ge (n / 10) (k / 10) with h' | h'
        · exact .inl h'
        · exact .inr ⟨by omega, .inl (by omega)⟩
      · exact .inr ⟨rfl, .inr ⟨rfl, hr⟩⟩

theorem cstr_append_lt_iff (lit : String) (r r' : CString) :
    cstr lit ++ r < cstr lit ++ r' ↔ r < r' := by
  induction cstr lit with
  | nil => rfl
  | cons c cs ih => rw [List.cons_append, List.cons_append, List.cons_lt_cons_self, ih]

/-! ## Section 3: The order of the calendar -/

theorem locate_mono {start bound : Nat → Nat} (hbound : Monotone bound) :
    Monotone (locate start bound) := by
  intro t t' h
  apply Nat.findGreatest_mono
  · exact fun k hk => Nat.le_trans hk h
  · exact hbound h

theorem start_locate_le {start : Nat → Nat} (hstart : start 0 = 0) (bound : Nat → Nat) (t : Nat) :
    start (locate start bound t) ≤ t := by
  have h0 : start 0 ≤ t := by omega
  exact Nat.findGreatest_spec (P := fun k => start k ≤ t) (Nat.zero_le _) h0

/-- The interval after that of `t` begins later, unless it is out of bounds. -/
theorem lt_start_locate {start bound : Nat → Nat} {t : Nat}
    (h : locate start bound t < bound t) : t < start (locate start bound t + 1) := by
  have hgreatest : ¬ start (locate start bound t + 1) ≤ t :=
    Nat.findGreatest_is_greatest (P := fun k => start k ≤ t) (Nat.lt_succ_self _) h
  exact Nat.lt_of_not_le hgreatest

/-- Numbers compare as their intervals do and, within one, as what is left. -/
theorem lt_iff_locate {start bound : Nat → Nat} (hstart : start 0 = 0) (hbound : Monotone bound)
    (t t' : Nat) :
    t < t' ↔ locate start bound t < locate start bound t' ∨
      locate start bound t = locate start bound t' ∧
        t - start (locate start bound t) < t' - start (locate start bound t') := by
  have hle := start_locate_le hstart bound t
  have hle' := start_locate_le hstart bound t'
  constructor
  · intro h
    rcases Nat.lt_or_eq_of_le (locate_mono hbound (Nat.le_of_lt h)) with hlt | heq
    · exact .inl hlt
    · rw [heq] at hle ⊢
      exact .inr ⟨rfl, by omega⟩
  · rintro (hlt | ⟨heq, hrest⟩)
    · exact Nat.lt_of_not_le fun h => absurd (locate_mono hbound h) (Nat.not_le_of_lt hlt)
    · rw [heq] at hle hrest
      omega

theorem monotone_div_365 : Monotone fun d : Nat => d / 365 :=
  fun _ _ h => Nat.div_le_div_right h

theorem days_before_year_succ (y : Nat) :
    days_before_year y + 365 ≤ days_before_year (y + 1) ∧
      days_before_year (y + 1) ≤ days_before_year y + 366 := by
  unfold days_before_year
  omega

theorem days_before_year_mono : Monotone days_before_year :=
  monotone_nat_of_le_succ fun y =>
    Nat.le_trans (Nat.le_add_right _ 365) (days_before_year_succ y).1

theorem le_days_before_year (y : Nat) : 365 * y ≤ days_before_year y := by
  unfold days_before_year
  omega

theorem lt_days_after_year (day : Nat) : day < days_before_year (year_of day + 1) := by
  -- The search goes up to `day / 365`, and no year is shorter than 365 days.
  rcases Nat.lt_or_ge (year_of day) (day / 365) with h | h
  · exact lt_start_locate h
  · have := le_days_before_year (year_of day + 1)
    omega

theorem day_of_year_lt (day : Nat) : day - days_before_year (year_of day) < 366 := by
  have := lt_days_after_year day
  have := days_before_year_succ (year_of day)
  omega

theorem year_of_lt {day : Nat} (h : day < days_before_year 10000) : year_of day < 10000 := by
  by_contra hyear
  have hmono := days_before_year_mono (Nat.le_of_not_lt hyear)
  have hle : days_before_year (year_of day) ≤ day := start_locate_le rfl _ day
  exact absurd (Nat.lt_of_le_of_lt hle h) (Nat.not_lt_of_le hmono)

theorem days_before_month_zero (y : Nat) : days_before_month y 0 = 0 := by
  simp [days_before_month]

theorem month_of_le (y day : Nat) : month_of y day ≤ 11 := Nat.findGreatest_le _

theorem days_before_month_succ (y : Nat) {month : Nat} (h : month < 11) :
    days_before_month y (month + 1) ≤ days_before_month y month + 32 := by
  have hlist : ∀ k < 11,
      [0, 31, 59, 90, 120, 151, 181, 212, 243, 273, 304, 334].getD (k + 1) 0 ≤
        [0, 31, 59, 90, 120, 151, 181, 212, 243, 273, 304, 334].getD k 0 + 31 := by decide
  have := hlist month h
  unfold days_before_month
  split <;> omega

/-- The day of the month has two digits. -/
theorem day_of_month_lt {y day : Nat} (h : day < 366) :
    day - days_before_month y (month_of y day) + 1 < 100 := by
  rcases Nat.lt_or_eq_of_le (month_of_le y day) with hm | hm
  · have hlt : day < days_before_month y (month_of y day + 1) := lt_start_locate hm
    have := days_before_month_succ y hm
    omega
  · have : 334 ≤ days_before_month y 11 := Nat.le_add_right 334 _
    rw [hm]
    omega

/-- The same with something to compare after the numbers. -/
theorem lex_iff_locate {start bound : Nat → Nat} (hstart : start 0 = 0) (hbound : Monotone bound)
    (t t' : Nat) (rest : Prop) :
    (locate start bound t < locate start bound t' ∨
      locate start bound t = locate start bound t' ∧
        (t - start (locate start bound t) < t' - start (locate start bound t') ∨
          t - start (locate start bound t) = t' - start (locate start bound t') ∧ rest)) ↔
      t < t' ∨ t = t' ∧ rest := by
  have heq : t = t' ↔ locate start bound t = locate start bound t' ∧
      t - start (locate start bound t) = t' - start (locate start bound t') := by
    constructor
    · rintro rfl
      exact ⟨rfl, rfl⟩
    · rintro ⟨hloc, hrest⟩
      have hle := start_locate_le hstart bound t
      have hle' := start_locate_le hstart bound t'
      rw [hloc] at hle hrest
      omega
  rw [lt_iff_locate hstart hbound t t', heq]
  tauto

/-! ## Section 4: The order of the text -/

theorem iso_month_append_lt_iff (y : Nat) {day day' : Nat} (r r' : CString) (h : day < 366)
    (h' : day' < 366) :
    iso_month y day ++ r < iso_month y day' ++ r' ↔ day < day' ∨ day = day' ∧ r < r' := by
  have hmonth : month_of y day + 1 < 10 ^ 2 := by
    have := month_of_le y day
    omega
  have hmonth' : month_of y day' + 1 < 10 ^ 2 := by
    have := month_of_le y day'
    omega
  simp only [iso_month, List.append_assoc]
  rw [percent_0u_append_lt_iff (by decide) _ _ hmonth hmonth', cstr_append_lt_iff,
    percent_0u_append_lt_iff (by decide) _ _ (day_of_month_lt h) (day_of_month_lt h'),
    Nat.add_lt_add_iff_right, Nat.add_right_cancel_iff, Nat.add_lt_add_iff_right,
    Nat.add_right_cancel_iff]
  exact lex_iff_locate (days_before_month_zero y) monotone_const day day' _

theorem iso_date_append_lt_iff {day day' : Nat} (r r' : CString)
    (h : day < days_before_year 10000) (h' : day' < days_before_year 10000) :
    iso_date day ++ r < iso_date day' ++ r' ↔ day < day' ∨ day = day' ∧ r < r' := by
  -- The months are compared only in the same year.
  have hsame : year_of day = year_of day' →
      (iso_month (year_of day) (day - days_before_year (year_of day)) ++ r <
          iso_month (year_of day') (day' - days_before_year (year_of day')) ++ r' ↔
        day - days_before_year (year_of day) < day' - days_before_year (year_of day') ∨
          day - days_before_year (year_of day) = day' - days_before_year (year_of day') ∧
            r < r') := by
    intro hyear
    have hday := day_of_year_lt day
    rw [hyear] at hday ⊢
    exact iso_month_append_lt_iff _ r r' hday (day_of_year_lt day')
  simp only [iso_date, List.append_assoc]
  rw [percent_0u_append_lt_iff (by decide) _ _ (year_of_lt h) (year_of_lt h'),
    cstr_append_lt_iff, and_congr_right hsame]
  exact lex_iff_locate rfl monotone_div_365 day day' _

theorem iso_clock_append_lt_iff {s s' : Nat} (r r' : CString) (h : s < 86400) (h' : s' < 86400) :
    iso_clock s ++ r < iso_clock s' ++ r' ↔ s < s' ∨ s = s' ∧ r < r' := by
  have hpad : ∀ {n k : Nat} (q q' : CString), n < 60 → k < 60 →
      (percent_0u 2 n ++ q < percent_0u 2 k ++ q' ↔ n < k ∨ n = k ∧ q < q') := by
    intro n k q q' hn hk
    exact percent_0u_append_lt_iff (by decide) q q' (by omega) (by omega)
  simp only [iso_clock, List.append_assoc]
  rw [hpad _ _ (by omega) (by omega), cstr_append_lt_iff, hpad _ _ (by omega) (by omega),
    cstr_append_lt_iff, hpad _ _ (by omega) (by omega)]
  by_cases hr : r < r' <;> simp only [hr, and_true, and_false, or_false] <;> omega

/-- Of two times in the same second, one without a fraction comes last. -/
theorem iso_fraction_lt_iff {usec usec' : Nat} (h : usec < 10 ^ 6) (h' : usec' < 10 ^ 6) :
    iso_fraction usec < iso_fraction usec' ↔ usec ≠ 0 ∧ (usec' = 0 ∨ usec < usec') := by
  have hpoint : ∀ text : CString, cstr "." ++ text < cstr "Z" := by
    intro text
    apply List.Lex.rel
    decide
  have hpoint' : ∀ text : CString, ¬ cstr "Z" < cstr "." ++ text :=
    fun text => List.lt_asymm (hpoint text)
  -- The text goes on with `Z` or with a point, which is less.
  by_cases h0 : usec = 0 <;> by_cases h0' : usec' = 0
  · simp [iso_fraction, h0, h0']
  · simp [iso_fraction, h0, h0', hpoint']
  · simp [iso_fraction, h0, h0', hpoint]
  · simp only [iso_fraction, h0, h0', if_false, cstr_append_lt_iff, ne_eq, not_false_iff,
      true_and, false_or]
    rw [percent_0u_append_lt_iff (by decide) _ _ h h']
    simp

/-- The text of a time compares as its seconds do.  In the same second it
    compares as the microseconds do, but no microseconds come last. -/
theorem iso8601_lt_iff {s s' usec usec' : Nat} (hs : s < 86400 * days_before_year 10000)
    (hs' : s' < 86400 * days_before_year 10000) (husec : usec < 10 ^ 6)
    (husec' : usec' < 10 ^ 6) :
    iso8601 s usec < iso8601 s' usec' ↔
      s < s' ∨ s = s' ∧ usec ≠ 0 ∧ (usec' = 0 ∨ usec < usec') := by
  have hday : s / 86400 < days_before_year 10000 := Nat.div_lt_of_lt_mul hs
  have hday' : s' / 86400 < days_before_year 10000 := Nat.div_lt_of_lt_mul hs'
  unfold iso8601
  rw [iso_date_append_lt_iff _ _ hday hday', cstr_append_lt_iff,
    iso_clock_append_lt_iff _ _ (Nat.mod_lt _ (by decide)) (Nat.mod_lt _ (by decide)),
    iso_fraction_lt_iff husec husec']
  omega

end Libc
