import ConsoleKit.Framework.HashTable
import ConsoleKit.Log.Event

/-! # The listing of frequent users

    Model of `ck-history --frequent`.  The sessions of each user are counted
    in a hash table, whose entries are then sorted by their counts.  The
    counts are kept in pointers to the extent of a `guint`.

    This module provides:
    - `user_counts`, the listing of `generate_report_frequent`,
    - `CountsRight`: what is asked of it,
    - `counts_right_iff`: the logs for which it is right.
-/

namespace History

open Libc Log

/-! ## Section 1: The report -/

structure CountData where
  uid : Int32
  count : UInt32
  deriving DecidableEq

/-- The order in which a walk comes to the entries of a hash table. -/
structure Walk (α : Type) where
  order : List α → List α
  perm : ∀ entries, (order entries).Perm entries

/-- `CountData` for an entry, in front of the others. -/
def listify_counts (list : List CountData) (entry : (_ : UInt32) × UInt32) : List CountData :=
  { uid := entry.1.toInt32, count := entry.2 } :: list

def counts_compare (a b : CountData) : Int :=
  if a.count < b.count then 1 else if b.count < a.count then -1 else 0

section
variable (uid : Int32) (seat session_type : Option CString)

/-- One round of the loop; a key that is missing has the value NULL. -/
def count_event (counts : HashTable UInt32 UInt32) (l : CkLogEvent) : HashTable UInt32 UInt32 :=
  match l.event with
  | .seat_session_added e =>
    if 0 ≤ uid ∧ e.session_unix_user ≠ uid.toUInt32 then counts
    else if seat ≠ none ∧ e.seat_id ≠ none ∧ e.seat_id ≠ seat then counts
    else if session_type ≠ none ∧ e.session_type ≠ none ∧ e.session_type ≠ session_type then
      counts
    else
      let val := (counts.lookup e.session_unix_user).getD 0
      let count := if val ≠ 0 then val else 0
      counts.insert e.session_unix_user (count + 1)
  | _ => counts

/-- The sorted list of `generate_report_frequent`; `g_list_sort` is stable. -/
def user_counts (walk : Walk ((_ : UInt32) × UInt32)) (all_events : List CkLogEvent) :
    List CountData :=
  let counts := all_events.foldl (count_event uid seat session_type) ∅
  ((walk.order counts.entries).foldl listify_counts []).mergeSort fun a b =>
    decide (counts_compare a b ≤ 0)

/-- A word in a column of 24 characters. -/
def percent_24s (s : Option CString) : CString := (percent_s s).rightpad 24 ' '

/-- What is printed; a user may have no name. -/
def generate_report_frequent (get_user_name_for_uid : Int32 → Option CString)
    (walk : Walk ((_ : UInt32) × UInt32)) (all_events : List CkLogEvent) : CString :=
  (user_counts uid seat session_type walk all_events).flatMap fun data =>
    percent_24s (get_user_name_for_uid data.uid) ++ ' ' :: percent_u data.count.toNat ++ ['\n']

end

/-! ## Section 2: What is asked -/

def added_event (l : CkLogEvent) : Option CkLogSeatSessionAddedEvent :=
  match l.event with
  | .seat_session_added e => some e
  | _ => none

section
variable (uid : Int32) (seat session_type : Option CString)

/-- A negative user and a string that is NULL do not restrict the events, and
    an event without the string is not held back by it. -/
def Matching (e : CkLogSeatSessionAddedEvent) : Prop :=
  (0 ≤ uid → e.session_unix_user = uid.toUInt32) ∧
  (seat = none ∨ e.seat_id = none ∨ e.seat_id = seat) ∧
  (session_type = none ∨ e.session_type = none ∨ e.session_type = session_type)

instance (e : CkLogSeatSessionAddedEvent) : Decidable (Matching uid seat session_type e) :=
  inferInstanceAs (Decidable (_ ∧ _ ∧ _))

def matching_events (all_events : List CkLogEvent) : List CkLogSeatSessionAddedEvent :=
  (all_events.filterMap added_event).filter fun e =>
    Matching uid seat session_type e

def events_of_user (all_events : List CkLogEvent) (user : UInt32) :
    List CkLogSeatSessionAddedEvent :=
  (matching_events uid seat session_type all_events).filter fun e => e.session_unix_user = user

/-- Each user with a matching event is listed once, with the number of these
    events, and no user with more of them comes later. -/
structure CountsRight (all_events : List CkLogEvent) (report : List CountData) : Prop where
  once : (report.map CountData.uid).Nodup
  listed : ∀ user : UInt32, (∃ data ∈ report, data.uid = user.toInt32) ↔
    events_of_user uid seat session_type all_events user ≠ []
  number : ∀ data ∈ report, data.count.toNat =
    (events_of_user uid seat session_type all_events data.uid.toUInt32).length
  sorted : report.Pairwise fun a b => b.count ≤ a.count

end

/-! ## Section 3: The counts -/

section
variable {uid : Int32} {seat session_type : Option CString}

theorem count_event_of_matching {counts : HashTable UInt32 UInt32} {l : CkLogEvent}
    {e : CkLogSeatSessionAddedEvent} (hl : added_event l = some e)
    (h : Matching uid seat session_type e) :
    count_event uid seat session_type counts l =
      counts.insert e.session_unix_user ((counts.lookup e.session_unix_user).getD 0 + 1) := by
  obtain ⟨huid, hseat, htype⟩ := h
  cases hevent : l.event
  case seat_session_added e' =>
    rw [added_event, hevent] at hl
    obtain rfl := Option.some.inj hl
    rw [count_event, hevent]
    dsimp only
    -- No `continue` of the loop is taken.
    rw [if_neg (fun hne => hne.2 (huid hne.1)),
      if_neg (fun hne => hseat.elim hne.1 fun hseat => hseat.elim hne.2.1 hne.2.2),
      if_neg (fun hne => htype.elim hne.1 fun htype => htype.elim hne.2.1 hne.2.2)]
    split
    · rfl
    · rename_i hzero
      rw [not_not.mp hzero]
  all_goals
    rw [added_event, hevent] at hl
    cases hl

theorem count_event_of_not_matching {counts : HashTable UInt32 UInt32} {l : CkLogEvent}
    (h : ∀ e, added_event l = some e → ¬ Matching uid seat session_type e) :
    count_event uid seat session_type counts l = counts := by
  cases hevent : l.event
  case seat_session_added e =>
    -- The three filters are checked one by one, and an event that passes them all
    -- would match.
    have hnot := h e (by rw [added_event, hevent])
    rw [count_event, hevent]
    dsimp only
    split
    · rfl
    · rename_i huid
      split
      · rfl
      · rename_i hseat
        split
        · rfl
        · rename_i htype
          exfalso
          apply hnot
          unfold Matching
          tauto
  all_goals rw [count_event, hevent]

/-- The loop counts the matching events. -/
theorem foldl_count_event (all_events : List CkLogEvent) (counts : HashTable UInt32 UInt32) :
    all_events.foldl (count_event uid seat session_type) counts =
      (matching_events uid seat session_type all_events).foldl (fun counts e =>
        counts.insert e.session_unix_user
          ((counts.lookup e.session_unix_user).getD 0 + 1)) counts := by
  induction all_events generalizing counts with
  | nil => rfl
  | cons l all_events ih =>
    rw [List.foldl_cons, ih]
    unfold matching_events
    cases hl : added_event l with
    | none =>
      rw [count_event_of_not_matching (by simp [hl]), List.filterMap_cons_none hl]
    | some e =>
      rw [List.filterMap_cons_some hl]
      by_cases h : Matching uid seat session_type e
      · rw [count_event_of_matching hl h, List.filter_cons_of_pos (by simpa using h),
          List.foldl_cons]
      · rw [count_event_of_not_matching (by simpa [hl] using h),
          List.filter_cons_of_neg (by simpa using h)]

theorem foldl_count {α : Type} (as : List α) (n : Nat) :
    as.foldl (fun (v : Option UInt32) _ => some (v.getD 0 + 1)) (some (UInt32.ofNat n)) =
      some (UInt32.ofNat (n + as.length)) := by
  induction as generalizing n with
  | nil => rfl
  | cons a as ih =>
    have hsucc : UInt32.ofNat n + 1 = UInt32.ofNat (n + 1) := (UInt32.ofNat_add n 1).symm
    rw [List.foldl_cons, Option.getD_some, hsucc, ih, List.length_cons, Nat.add_right_comm,
      Nat.add_assoc]

/-- The table has an entry for each user with a matching event. -/
theorem lookup_counts (all_events : List CkLogEvent) (user : UInt32) (v : UInt32) :
    (all_events.foldl (count_event uid seat session_type) ∅).lookup user = some v ↔
      events_of_user uid seat session_type all_events user ≠ [] ∧
      v = UInt32.ofNat (events_of_user uid seat session_type all_events user).length := by
  rw [foldl_count_event]
  have hlookup := HashTable.lookup_foldl_insert CkLogSeatSessionAddedEvent.session_unix_user
    (fun (v : Option UInt32) _ => v.getD 0 + 1) (matching_events uid seat session_type all_events)
    ∅ user
  rw [hlookup, AList.lookup_empty]
  unfold events_of_user
  cases (matching_events uid seat session_type all_events).filter
      fun e => e.session_unix_user = user with
  | nil => simp
  | cons e es =>
    -- The first event of the user makes the entry, and the others add one each.
    have hone : (0 : UInt32) + 1 = UInt32.ofNat 1 := rfl
    rw [List.foldl_cons, Option.getD_none, hone, foldl_count es 1, List.length_cons, Nat.add_comm,
      Option.some_inj, eq_comm]
    exact (and_iff_right (List.cons_ne_nil e es)).symm

end

/-! ## Section 4: The listing -/

section
variable {uid : Int32} {seat session_type : Option CString}

theorem foldl_listify_counts (entries : List ((_ : UInt32) × UInt32)) (list : List CountData) :
    entries.foldl listify_counts list =
      (entries.map fun entry => ⟨entry.1.toInt32, entry.2⟩).reverse ++ list := by
  induction entries generalizing list with
  | nil => rfl
  | cons entry entries ih =>
    rw [List.foldl_cons, ih, List.map_cons, List.reverse_cons, List.append_assoc]
    rfl

/-- The listing has the entries of the table, in some order. -/
theorem user_counts_perm (walk : Walk ((_ : UInt32) × UInt32)) (all_events : List CkLogEvent) :
    (user_counts uid seat session_type walk all_events).Perm
      ((all_events.foldl (count_event uid seat session_type) ∅).entries.map
        fun entry => ⟨entry.1.toInt32, entry.2⟩) := by
  dsimp only [user_counts]
  rw [foldl_listify_counts, List.append_nil]
  exact (List.mergeSort_perm _ _).trans
    ((List.reverse_perm _).trans ((walk.perm _).map _))

theorem counts_compare_le_iff {a b : CountData} : counts_compare a b ≤ 0 ↔ b.count ≤ a.count := by
  unfold counts_compare
  split
  · rename_i hlt
    exact iff_of_false (by decide) (UInt32.not_le.mpr hlt)
  · rename_i hle
    rw [UInt32.not_lt] at hle
    split <;> exact iff_of_true (by decide) hle

theorem user_counts_sorted (walk : Walk ((_ : UInt32) × UInt32)) (all_events : List CkLogEvent) :
    (user_counts uid seat session_type walk all_events).Pairwise
      fun a b => b.count ≤ a.count := by
  -- The comparison is a total preorder, as `g_list_sort` asks for.
  have htrans : ∀ a b c : CountData, decide (counts_compare a b ≤ 0) = true →
      decide (counts_compare b c ≤ 0) = true → decide (counts_compare a c ≤ 0) = true := by
    intro a b c hab hbc
    rw [decide_eq_true_eq, counts_compare_le_iff] at hab hbc ⊢
    exact UInt32.le_trans hbc hab
  have htotal : ∀ a b : CountData,
      (decide (counts_compare a b ≤ 0) || decide (counts_compare b a ≤ 0)) = true := by
    intro a b
    rw [Bool.or_eq_true, decide_eq_true_eq, decide_eq_true_eq, counts_compare_le_iff,
      counts_compare_le_iff]
    exact UInt32.le_total b.count a.count
  have hsorted := List.pairwise_mergeSort htrans htotal
    (List.foldl listify_counts []
      (walk.order (all_events.foldl (count_event uid seat session_type) ∅).entries))
  exact hsorted.imp fun h => counts_compare_le_iff.mp (of_decide_eq_true h)

theorem toInt32_inj {a b : UInt32} (h : a.toInt32 = b.toInt32) : a = b := by
  rw [← UInt32.toUInt32_toInt32 a, h, UInt32.toUInt32_toInt32]

theorem user_counts_once (walk : Walk ((_ : UInt32) × UInt32)) (all_events : List CkLogEvent) :
    ((user_counts uid seat session_type walk all_events).map CountData.uid).Nodup := by
  have hkeys := (all_events.foldl (count_event uid seat session_type) ∅).nodupKeys
  rw [((user_counts_perm walk all_events).map CountData.uid).nodup_iff, List.map_map]
  have hmap : ((all_events.foldl (count_event uid seat session_type) ∅).entries.map
      (CountData.uid ∘ fun entry => ⟨entry.1.toInt32, entry.2⟩)) =
      (all_events.foldl (count_event uid seat session_type) ∅).keys.map UInt32.toInt32 := by
    rw [AList.keys, List.keys, List.map_map]
    rfl
  rw [hmap]
  exact List.Nodup.map (fun _ _ => toInt32_inj) hkeys

theorem mem_user_counts {walk : Walk ((_ : UInt32) × UInt32)} {all_events : List CkLogEvent}
    {data : CountData} :
    data ∈ user_counts uid seat session_type walk all_events ↔
      events_of_user uid seat session_type all_events data.uid.toUInt32 ≠ [] ∧
      data.count = UInt32.ofNat
        (events_of_user uid seat session_type all_events data.uid.toUInt32).length := by
  rw [(user_counts_perm walk all_events).mem_iff, ← lookup_counts, ← HashTable.mem_entries,
    List.mem_map]
  constructor
  · rintro ⟨⟨user, count⟩, hmem, rfl⟩
    exact hmem
  · intro hmem
    exact ⟨_, hmem, rfl⟩

/-- A count that is right is a number of 32 bits. -/
theorem CountsRight.length_lt {walk : Walk ((_ : UInt32) × UInt32)} {all_events : List CkLogEvent}
    (h : CountsRight uid seat session_type all_events
      (user_counts uid seat session_type walk all_events)) (user : UInt32) :
    (events_of_user uid seat session_type all_events user).length < 2 ^ 32 := by
  by_cases hnil : events_of_user uid seat session_type all_events user = []
  · rw [hnil]
    exact Nat.two_pow_pos 32
  · obtain ⟨data, hmem, huser⟩ := (h.listed user).mpr hnil
    have hnumber := h.number data hmem
    rw [huser, UInt32.toUInt32_toInt32] at hnumber
    rw [← hnumber]
    exact data.count.toNat_lt

end

/-- The listing is right if no user has so many sessions in the log that a
    `guint` cannot count them. -/
theorem counts_right_iff (uid : Int32) (seat session_type : Option CString)
    (walk : Walk ((_ : UInt32) × UInt32)) (all_events : List CkLogEvent) :
    CountsRight uid seat session_type all_events
        (user_counts uid seat session_type walk all_events) ↔
      ∀ user, (events_of_user uid seat session_type all_events user).length < 2 ^ 32 := by
  constructor
  · exact CountsRight.length_lt
  · intro hfits
    constructor
    case once => exact user_counts_once walk all_events
    case sorted => exact user_counts_sorted walk all_events
    case listed =>
      intro user
      constructor
      · rintro ⟨data, hmem, huser⟩
        have hsome := (mem_user_counts.mp hmem).1
        rw [huser, UInt32.toUInt32_toInt32] at hsome
        exact hsome
      · intro hsome
        -- The entry is that of the table, with the count that it has there.
        refine ⟨⟨user.toInt32, UInt32.ofNat
          (events_of_user uid seat session_type all_events user).length⟩, ?_, rfl⟩
        rw [mem_user_counts, UInt32.toUInt32_toInt32]
        exact ⟨hsome, rfl⟩
    case number =>
      intro data hmem
      -- Here the count must not have wrapped.
      rw [(mem_user_counts.mp hmem).2, UInt32.toNat_ofNat_of_lt' (hfits _)]

/-- The session of user 1000 on the first seat, at the time 0. -/
def first_login : CkLogSeatSessionAddedEvent where
  seat_id := some (cstr "/org/freedesktop/ConsoleKit/Seat1")
  session_id := some (cstr "/org/freedesktop/ConsoleKit/Session1")
  session_type := none
  session_x11_display := none
  session_x11_display_device := none
  session_display_device := none
  session_remote_host_name := none
  session_is_local := true
  session_unix_user := 1000
  session_creation_time := none

theorem events_of_replicate (n : Nat) :
    events_of_user (-1) none none (List.replicate n ⟨.seat_session_added first_login, ⟨0, 0⟩⟩)
      1000 = List.replicate n first_login := by
  have hadded : added_event ⟨.seat_session_added first_login, ⟨0, 0⟩⟩ = some first_login := rfl
  have hmatching : Matching (-1) none none first_login := by decide
  have huser : first_login.session_unix_user = 1000 := rfl
  rw [events_of_user, matching_events, List.filterMap_replicate_of_some hadded,
    List.filter_replicate, if_pos (decide_eq_true hmatching), List.filter_replicate,
    if_pos (decide_eq_true huser)]

/-- A user who has logged in 2^32 times. -/
theorem count_wraps :
    ¬ CountsRight (-1) none none
      (List.replicate (2 ^ 32) ⟨.seat_session_added first_login, ⟨0, 0⟩⟩)
      (user_counts (-1) none none ⟨id, List.Perm.refl⟩
        (List.replicate (2 ^ 32) ⟨.seat_session_added first_login, ⟨0, 0⟩⟩)) := by
  intro hright
  have hlength := hright.length_lt 1000
  rw [events_of_replicate, List.length_replicate] at hlength
  exact Nat.lt_irrefl _ hlength

end History
