import ConsoleKit.Inhibit.Counters
import Mathlib.Data.List.TakeWhile

/-! # The events of a lock as text

    `what` is parsed up to its first empty token.  The text that is listed
    for a lock names its events again, but `CK_INHIBIT_EVENT_SUSPEND` by
    another word than the one that is parsed.

    This module provides:
    - `ck_inhibit_get_what`: the text of a lock,
    - `TakesRecognised`: a lock takes the events that its `what` names,
    - `RoundTrips`: the text of a lock requests its events again,
    - `what_agrees_iff`: when these hold.
-/

namespace Inhibit

/-! ## Section 1: The text of a lock -/

/-- `none` is NULL. -/
def add_item_to_string (string what : Option String) : Option String :=
  match what, string with
  | none, _ => string
  | some what, none => some what
  | some what, some string => some (string ++ ":" ++ what)

def check_event_and_add_to_string (o : CkInhibit) (event : CkInhibitEvent) (what : String)
    (string : Option String) : Option String :=
  if o.inhibitors event then add_item_to_string string (some what) else string

def ck_inhibit_get_what (o : CkInhibit) : Option String :=
  let string := none
  let string := check_event_and_add_to_string o .shutdown "shutdown" string
  let string := check_event_and_add_to_string o .suspend "suspend" string
  let string := check_event_and_add_to_string o .idle "idle" string
  let string := check_event_and_add_to_string o .power_key "handle-power-key" string
  let string := check_event_and_add_to_string o .suspend_key "handle-suspend-key" string
  let string := check_event_and_add_to_string o .hibernate_key "handle-hibernate-key" string
  check_event_and_add_to_string o .lid_switch "handle-lid-switch" string

/-! ## Section 2: The laws -/

/-- One of the tokens names the event. -/
def Recognised (what : String) (e : CkInhibitEvent) : Prop :=
  ∃ token ∈ g_strsplit what, token_event token = some e

/-- The condition: what is named after an empty token is named before it too. -/
def NamedBeforeEmpty (what : String) : Prop :=
  ∀ e, Recognised what e →
    ∃ token ∈ (g_strsplit what).takeWhile (· ≠ ""), token_event token = some e

/-- Whether the request is granted is up to its `what`. -/
structure InhibitRequest.UpToWhat (request : InhibitRequest) (calls : PipeCalls) : Prop where
  who : request.who.isSome = true
  why : request.why.isSome = true
  mode : request.mode.any (fun mode => (parse_mode_string ck_inhibit_new mode).2) = true
  calls : calls.succeed = true

variable {L : Type}

/-- A lock takes the events that its `what` names, and it is refused if there
    are none. -/
def TakesRecognised (on_changed_event : L → CkInhibitMode → CkInhibitEvent → Bool → L)
    (w : World L) (what : String) : Prop :=
  ∀ request calls, request.what = some what → request.UpToWhat calls →
    ∃ w' fd, ck_inhibit_manager_create_lock on_changed_event calls w request = some (w', fd) ∧
      (fd < 0 ↔ ∀ e, ¬ Recognised what e) ∧
      (0 ≤ fd → ∀ e, (w'.object w.next_object).inhibitors e = true ↔ Recognised what e)

/-- A new lock with the text of this one has the same events. -/
def RoundTrips (on_changed_event : L → CkInhibitMode → CkInhibitEvent → Bool → L)
    (w : World L) (o : CkInhibit) : Prop :=
  (∃ e, o.inhibitors e = true) →
    ∃ what, ck_inhibit_get_what o = some what ∧
      ∀ request calls, request.what = some what → request.UpToWhat calls →
        ∃ w' fd, ck_inhibit_manager_create_lock on_changed_event calls w request =
            some (w', fd) ∧
          0 ≤ fd ∧ (w'.object w.next_object).inhibitors = o.inhibitors

/-! ## Section 3: What is parsed -/

/-- The token loop takes the events named before the first empty token. -/
theorem parse_tokens_iff (tokens : List String) (f : CkInhibitEvent → Bool) (b : Bool)
    (e : CkInhibitEvent) :
    (parse_tokens tokens f b).1 e = true ↔
      f e = true ∨ ∃ token ∈ tokens.takeWhile (· ≠ ""), token_event token = some e := by
  induction tokens generalizing f b with
  | nil => simp [parse_tokens]
  | cons token tokens ih =>
    unfold parse_tokens
    -- An empty token ends the loop; one that names nothing is skipped.
    by_cases htoken : token = ""
    · simp [htoken]
    · rw [if_neg htoken, List.takeWhile_cons_of_pos (by simpa using htoken)]
      cases hev : token_event token with
      | none =>
        dsimp only
        rw [ih]
        simp [hev]
      | some e' =>
        dsimp only
        rw [ih, Function.update_apply]
        by_cases he : e = e'
        · simp [hev, he]
        · simp [hev, he, Ne.symm he]

/-- The loop succeeds if it takes an event. -/
theorem parse_tokens_set (tokens : List String) (f : CkInhibitEvent → Bool) (b : Bool) :
    (parse_tokens tokens f b).2 = true ↔
      b = true ∨ ∃ e, ∃ token ∈ tokens.takeWhile (· ≠ ""), token_event token = some e := by
  induction tokens generalizing f b with
  | nil => simp [parse_tokens]
  | cons token tokens ih =>
    unfold parse_tokens
    by_cases htoken : token = ""
    · simp [htoken]
    · rw [if_neg htoken, List.takeWhile_cons_of_pos (by simpa using htoken)]
      cases hev : token_event token with
      | none =>
        dsimp only
        rw [ih]
        simp [hev]
      | some e' =>
        dsimp only
        rw [ih]
        simp [hev]

/-- The events that a new lock with this `what` takes. -/
def taken (what : String) (e : CkInhibitEvent) : Bool :=
  (parse_inhibitors_string ck_inhibit_new what).1.inhibitors e

theorem taken_iff (what : String) (e : CkInhibitEvent) :
    taken what e = true ↔
      ∃ token ∈ (g_strsplit what).takeWhile (· ≠ ""), token_event token = some e := by
  have h := parse_tokens_iff (g_strsplit what) (fun _ => false) false e
  simp only [Bool.false_eq_true, false_or] at h
  exact h

theorem parse_succeeds_iff (what : String) :
    (parse_inhibitors_string ck_inhibit_new what).2 = true ↔ ∃ e, taken what e = true := by
  have h := parse_tokens_set (g_strsplit what) (fun _ => false) false
  simp only [Bool.false_eq_true, false_or] at h
  simp only [taken_iff]
  exact h

theorem recognised_of_taken {what : String} {e : CkInhibitEvent} (h : taken what e = true) :
    Recognised what e := by
  obtain ⟨token, htoken, hev⟩ := (taken_iff what e).mp h
  exact ⟨token, (List.takeWhile_prefix _).subset htoken, hev⟩

/-! ## Section 4: What is granted -/

section requests
variable (on_changed_event : L → CkInhibitMode → CkInhibitEvent → Bool → L)

/-- The object of a granted request is the one that its arguments describe. -/
theorem granted_object {calls : PipeCalls} (w : World L) {request : InhibitRequest}
    (hg : request.granted calls = true) :
    ∃ w' fd, ck_inhibit_manager_create_lock on_changed_event calls w request = some (w', fd) ∧
      0 ≤ fd ∧ w'.object w.next_object = grantedObject request calls := by
  obtain ⟨files, fd, hcreate⟩ := ck_inhibit_create_lock_granted on_changed_event calls
    w.newObject request w.next_object (by simp [World.newObject]) hg
  refine ⟨_, fd, create_lock_of calls w request hcreate (by omega), by omega, ?_⟩
  have hsame := (foldl_emit_initial on_changed_event (close_named_pipe on_changed_event)
    w.next_object CkInhibitEvent.all
    { w.newObject.setObject w.next_object (grantedObject request calls) with files := files }
    (by simp [World.newObject])).1
  refine (congrFun hsame.object w.next_object).trans ?_
  simp

/-- A request up to its `what` is granted if that names an event in time, and
    then takes what is named in time. -/
theorem create_lock_taken (w : World L) {request : InhibitRequest} {calls : PipeCalls}
    {what : String} (hwhat : request.what = some what) (h : request.UpToWhat calls) :
    ∃ w' fd, ck_inhibit_manager_create_lock on_changed_event calls w request = some (w', fd) ∧
      (fd < 0 ↔ ∀ e, taken what e = false) ∧
      (0 ≤ fd → (w'.object w.next_object).inhibitors = taken what) := by
  have hgranted : request.granted calls = true ↔ ∃ e, taken what e = true := by
    rw [← parse_succeeds_iff]
    simp [granted_iff, InhibitRequest.wellFormed, h.who, h.why, h.mode, h.calls, hwhat]
  by_cases hg : request.granted calls = true
  · obtain ⟨w', fd, hcreate, hfd, hobject⟩ := granted_object on_changed_event w hg
    obtain ⟨e, he⟩ := hgranted.mp hg
    refine ⟨w', fd, hcreate, ?_, fun _ => ?_⟩
    · constructor
      · intro hneg
        omega
      · intro hnone
        rw [hnone e] at he
        cases he
    · rw [hobject]
      simp only [grantedObject, hwhat, Option.getD_some]
      rfl
  · obtain ⟨w', fd, hcreate, hfd, _⟩ :=
      create_lock_refused on_changed_event calls w request (by simpa using hg)
    refine ⟨w', fd, hcreate, ?_, fun hpos => absurd hfd (by omega)⟩
    constructor
    · intro _ e
      exact Bool.eq_false_iff.mpr fun he => hg (hgranted.mpr ⟨e, he⟩)
    · exact fun _ => hfd

/-- There is a request that is up to its `what`. -/
theorem lockRequest_upToWhat (what : String) :
    (lockRequest what "block").UpToWhat (allSucceed "a") :=
  ⟨rfl, rfl, by simp [lockRequest, parse_mode_string], rfl⟩

/-- The requests of one `what` are answered alike. -/
theorem taken_of_create {w w' : World L} {request : InhibitRequest} {calls : PipeCalls}
    {what : String} {fd : Int} (hwhat : request.what = some what) (h : request.UpToWhat calls)
    (hcreate : ck_inhibit_manager_create_lock on_changed_event calls w request = some (w', fd))
    (hfd : 0 ≤ fd) : (w'.object w.next_object).inhibitors = taken what := by
  obtain ⟨v, fd', hcreate', -, htaken⟩ := create_lock_taken on_changed_event w hwhat h
  rw [hcreate] at hcreate'
  obtain ⟨rfl, rfl⟩ := Prod.mk.inj (Option.some.inj hcreate')
  exact htaken hfd

theorem takes_recognised_iff (w : World L) (what : String) :
    TakesRecognised on_changed_event w what ↔ NamedBeforeEmpty what := by
  constructor
  · intro h e he
    obtain ⟨w', fd, hcreate, hrefused, htaken⟩ := h _ _ rfl (lockRequest_upToWhat what)
    have hfd : 0 ≤ fd := by
      by_contra hneg
      exact hrefused.mp (by omega) e he
    have htaken' := taken_of_create on_changed_event rfl (lockRequest_upToWhat what) hcreate hfd
    rw [← taken_iff, ← htaken']
    exact (htaken hfd e).mpr he
  · intro h request calls hwhat hup
    have hsame : ∀ e, taken what e = true ↔ Recognised what e := fun e =>
      ⟨recognised_of_taken, fun he => (taken_iff what e).mpr (h e he)⟩
    obtain ⟨w', fd, hcreate, hrefused, htaken⟩ := create_lock_taken on_changed_event w hwhat hup
    refine ⟨w', fd, hcreate, ?_, fun hfd e => ?_⟩
    · rw [hrefused]
      exact forall_congr' fun e => by rw [← hsame e, Bool.not_eq_true]
    · rw [htaken hfd]
      exact hsame e

end requests

/-! ## Section 5: What is listed -/

/-- The word for an event in the text of a lock. -/
def listed_name : CkInhibitEvent → String
  | .shutdown => "shutdown"
  | .suspend => "suspend"
  | .idle => "idle"
  | .power_key => "handle-power-key"
  | .suspend_key => "handle-suspend-key"
  | .hibernate_key => "handle-hibernate-key"
  | .lid_switch => "handle-lid-switch"

theorem ck_inhibit_get_what_eq (o : CkInhibit) :
    ck_inhibit_get_what o = CkInhibitEvent.all.foldl
      (fun string e => check_event_and_add_to_string o e (listed_name e) string) none := rfl

theorem listed_name_ne (e : CkInhibitEvent) : listed_name e ≠ "" := by
  cases e <;> decide

theorem colon_not_mem_listed_name (e : CkInhibitEvent) : ':' ∉ (listed_name e).toList := by
  cases e <;> decide

/-- All words but one are parsed as the event that they stand for. -/
theorem token_event_listed_name (e e' : CkInhibitEvent) :
    token_event (listed_name e) = some e' ↔ e = e' ∧ e ≠ .suspend := by
  cases e <;> cases e' <;> decide

/-- The text has these tokens; it is NULL if there are none. -/
def Lists (string : Option String) (tokens : List String) : Prop :=
  (string = none ∧ tokens = []) ∨
    ∃ s, string = some s ∧ s ≠ "" ∧ g_strsplit s = tokens

theorem g_strsplit_append {s t : String} (hs : s ≠ "") (ht : ':' ∉ t.toList) :
    g_strsplit (s ++ ":" ++ t) = g_strsplit s ++ [t] := by
  have hne : s ++ ":" ++ t ≠ "" := by
    simp [String.append_eq_empty_iff]
  have hlist : (s ++ ":" ++ t).toList = s.toList ++ ':' :: t.toList := by simp
  unfold g_strsplit
  rw [if_neg hne, if_neg hs, hlist, List.splitOn_append_cons_self, List.splitOn_eq_singleton ht,
    List.map_append, List.map_singleton, String.ofList_toList]

theorem Lists.add {string : Option String} {tokens : List String} (h : Lists string tokens)
    (e : CkInhibitEvent) :
    Lists (add_item_to_string string (some (listed_name e))) (tokens ++ [listed_name e]) := by
  have hcolon := colon_not_mem_listed_name e
  rcases h with ⟨rfl, rfl⟩ | ⟨s, rfl, hs, rfl⟩
  · refine .inr ⟨listed_name e, rfl, listed_name_ne e, ?_⟩
    rw [g_strsplit, if_neg (listed_name_ne e), List.splitOn_eq_singleton hcolon,
      List.map_singleton, String.ofList_toList, List.nil_append]
  · refine .inr ⟨s ++ ":" ++ listed_name e, rfl, ?_, g_strsplit_append hs hcolon⟩
    simp [String.append_eq_empty_iff]

/-- Every event of the lock adds its word. -/
theorem Lists.foldl {o : CkInhibit} (es : List CkInhibitEvent) {string : Option String}
    {tokens : List String} (h : Lists string tokens) :
    Lists (es.foldl (fun string e => check_event_and_add_to_string o e (listed_name e) string)
      string) (tokens ++ (es.filter o.inhibitors).map listed_name) := by
  induction es generalizing string tokens with
  | nil => simpa using h
  | cons e es ih =>
    rw [List.foldl_cons, check_event_and_add_to_string]
    by_cases he : o.inhibitors e = true
    · rw [if_pos he, List.filter_cons_of_pos he, List.map_cons]
      simpa using ih (h.add e)
    · rw [if_neg he, List.filter_cons_of_neg he]
      exact ih h

/-- The text of a lock has the words of its events as its tokens. -/
theorem get_what_lists {o : CkInhibit} (h : ∃ e, o.inhibitors e = true) :
    ∃ what, ck_inhibit_get_what o = some what ∧
      g_strsplit what = o.events.map listed_name := by
  have hlists : Lists (ck_inhibit_get_what o) (o.events.map listed_name) := by
    rw [ck_inhibit_get_what_eq]
    exact Lists.foldl CkInhibitEvent.all (.inl ⟨rfl, rfl⟩)
  rcases hlists with ⟨_, hnil⟩ | ⟨what, hwhat, _, hsplit⟩
  · obtain ⟨e, he⟩ := h
    have hmem := CkInhibit.mem_events.mpr he
    rw [List.map_eq_nil_iff.mp hnil] at hmem
    cases hmem
  · exact ⟨what, hwhat, hsplit⟩

/-- Read again, the text of a lock loses `CK_INHIBIT_EVENT_SUSPEND`. -/
theorem taken_get_what {o : CkInhibit} {what : String}
    (hsplit : g_strsplit what = o.events.map listed_name) (e : CkInhibitEvent) :
    taken what e = true ↔ o.inhibitors e = true ∧ e ≠ .suspend := by
  have hwhole : (g_strsplit what).takeWhile (· ≠ "") = o.events.map listed_name := by
    rw [hsplit, List.takeWhile_eq_self_iff]
    intro token htoken
    obtain ⟨e', _, rfl⟩ := List.mem_map.mp htoken
    exact decide_eq_true (listed_name_ne e')
  rw [taken_iff, hwhole]
  constructor
  · rintro ⟨token, htoken, hev⟩
    obtain ⟨e', he', rfl⟩ := List.mem_map.mp htoken
    obtain ⟨rfl, hne⟩ := (token_event_listed_name e' e).mp hev
    exact ⟨CkInhibit.mem_events.mp he', hne⟩
  · rintro ⟨he, hne⟩
    exact ⟨listed_name e, List.mem_map_of_mem (CkInhibit.mem_events.mpr he),
      (token_event_listed_name e e).mpr ⟨rfl, hne⟩⟩

theorem round_trips_iff (on_changed_event : L → CkInhibitMode → CkInhibitEvent → Bool → L)
    (w : World L) (o : CkInhibit) :
    RoundTrips on_changed_event w o ↔ o.inhibitors .suspend = false := by
  constructor
  · intro h
    by_contra hsuspend
    rw [Bool.not_eq_false] at hsuspend
    obtain ⟨what, hwhat, hrequest⟩ := h ⟨_, hsuspend⟩
    obtain ⟨what', hwhat', hsplit⟩ := get_what_lists ⟨_, hsuspend⟩
    rw [hwhat] at hwhat'
    obtain rfl := Option.some.inj hwhat'
    obtain ⟨w', fd, hcreate, hfd, hevents⟩ := hrequest _ _ rfl (lockRequest_upToWhat what)
    have htaken := taken_of_create on_changed_event rfl (lockRequest_upToWhat what) hcreate hfd
    -- the word "suspend" is not among those that are parsed
    rw [← hevents, htaken] at hsuspend
    exact ((taken_get_what hsplit .suspend).mp hsuspend).2 rfl
  · intro hsuspend hsome
    obtain ⟨what, hwhat, hsplit⟩ := get_what_lists hsome
    -- All events of the lock are named, and none other is.
    have htaken : taken what = o.inhibitors := by
      funext e
      rw [Bool.eq_iff_iff, taken_get_what hsplit]
      constructor
      · exact And.left
      · refine fun he => ⟨he, ?_⟩
        rintro rfl
        rw [hsuspend] at he
        cases he
    refine ⟨what, hwhat, fun request calls hrequest hup => ?_⟩
    obtain ⟨w', fd, hcreate, hrefused, hobject⟩ :=
      create_lock_taken on_changed_event w hrequest hup
    -- A request is refused only if it names nothing.
    have hfd : 0 ≤ fd := by
      by_contra hneg
      obtain ⟨e, he⟩ := hsome
      have hnone := hrefused.mp (by omega) e
      rw [htaken, he] at hnone
      cases hnone
    exact ⟨w', fd, hcreate, hfd, (hobject hfd).trans htaken⟩

/-- A `what` takes its events if none of them is named only after an empty
    token, and a lock is requested again by its text if it does not hold
    `CK_INHIBIT_EVENT_SUSPEND`. -/
theorem what_agrees_iff (on_changed_event : L → CkInhibitMode → CkInhibitEvent → Bool → L)
    (w : World L) (what : String) (o : CkInhibit) :
    (TakesRecognised on_changed_event w what ↔ NamedBeforeEmpty what) ∧
      (RoundTrips on_changed_event w o ↔ o.inhibitors .suspend = false) :=
  ⟨takes_recognised_iff on_changed_event w what, round_trips_iff on_changed_event w o⟩

/-- `idle` after an empty token is lost, and the text `suspend` of a lock on
    `CK_INHIBIT_EVENT_SUSPEND` is refused. -/
theorem what_disagrees :
    ¬ TakesRecognised (fun l _ _ _ => l) (ck_inhibit_manager_init ()) "shutdown::idle" ∧
      ¬ RoundTrips (fun l _ _ _ => l) (ck_inhibit_manager_init ())
        { ck_inhibit_new with inhibitors := fun e => e = .suspend } := by
  constructor
  · intro h
    obtain ⟨w', fd, hcreate, hrefused, htaken⟩ := h _ _ rfl (lockRequest_upToWhat "shutdown::idle")
    have hidle : Recognised "shutdown::idle" .idle := ⟨"idle", by decide, by decide⟩
    have hrun : (ck_inhibit_manager_create_lock (fun l _ _ _ => l) (allSucceed "a")
        (ck_inhibit_manager_init ()) (lockRequest "shutdown::idle" "block")).map
        (fun r => ((r.1.object 0).inhibitors .idle, r.2)) = some (false, 11) := by decide
    rw [hcreate] at hrun
    obtain ⟨hlost, rfl⟩ := Prod.mk.inj (Option.some.inj hrun)
    have hevent := (htaken (by decide) .idle).mpr hidle
    exact absurd (hlost.symm.trans hevent) (by decide)
  · intro h
    obtain ⟨what, hwhat, hrequest⟩ := h ⟨.suspend, by decide⟩
    obtain rfl : "suspend" = what := Option.some.inj hwhat
    obtain ⟨w', fd, hcreate, hfd, -⟩ := hrequest _ _ rfl (lockRequest_upToWhat "suspend")
    have hrun : (ck_inhibit_manager_create_lock (fun l _ _ _ => l) (allSucceed "a")
        (ck_inhibit_manager_init ()) (lockRequest "suspend" "block")).map Prod.snd =
          some (-20) := by decide
    rw [hcreate] at hrun
    obtain rfl := Option.some.inj hrun
    exact absurd hfd (by decide)

end Inhibit
