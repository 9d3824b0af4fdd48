import ConsoleKit.Inhibit.Counters

/-! # Refused requests

    `ck_inhibit_create_lock` reports an error by one of three negative
    codes, and `ck_inhibit_manager_create_lock` takes only -1 for one.  A
    refused request goes the way of a granted one: its object joins the
    list, still connected, with the files and descriptors it has by then.

    This module provides:
    - `LeavesNoTrace`: what a refused request is supposed to do,
    - `refused_files`: the files it leaves,
    - `refused_request_traced`: it always leaves its object in the list.
-/

namespace Inhibit

section refusal
variable {L : Type} (on_changed_event : L → CkInhibitMode → CkInhibitEvent → Bool → L)

/-! ## Section 1: The law -/

/-- `ck_inhibit_create_lock` reports an error for the request. -/
def Fails (calls : PipeCalls) (w : World L) (request : InhibitRequest) : Prop :=
  (ck_inhibit_create_lock on_changed_event calls w.newObject w.next_object request).2 < 0

/-- Locks, counters, files and open descriptors are as they were. -/
structure NoTrace (w w' : World L) : Prop where
  inhibit_list : w'.inhibit_list = w.inhibit_list
  inhibitors : w'.inhibitors = w.inhibitors
  files : w'.files = w.files
  named_pipe : ∀ r, (w'.object r).named_pipe ≠ none → r < w.next_object

/-- The request ends in a failure code, the daemon goes on, and nothing of
    the request is left. -/
def LeavesNoTrace (calls : PipeCalls) (w : World L) (request : InhibitRequest) : Prop :=
  ∃ w' code, ck_inhibit_manager_create_lock on_changed_event calls w request = some (w', code) ∧
    code < 0 ∧ NoTrace w w'

/-! ## Section 2: What is left -/

variable {on_changed_event}

/-- The requests that fail are those that are not granted. -/
theorem fails_iff {calls : PipeCalls} {w : World L} {request : InhibitRequest} :
    Fails on_changed_event calls w request ↔ request.granted calls = false := by
  have hnew : w.newObject.object w.next_object = ck_inhibit_new := by simp [World.newObject]
  unfold Fails
  constructor
  · intro hfails
    by_contra hg
    obtain ⟨files, fd, hcreate⟩ := ck_inhibit_create_lock_granted on_changed_event calls
      w.newObject request w.next_object hnew (Bool.not_eq_false _ ▸ hg)
    rw [hcreate] at hfails
    dsimp only at hfails
    omega
  · intro hg
    obtain ⟨v, fd, hcreate, hfd, -⟩ := ck_inhibit_create_lock_refused on_changed_event calls
      w.newObject request w.next_object hnew hg
    rw [hcreate]
    dsimp only
    omega

/-- The caller gets its failure code and the counters stay, but the object
    of the request joins the list. -/
theorem refused_request {calls : PipeCalls} {w : World L} {request : InhibitRequest}
    (h : Fails on_changed_event calls w request) :
    ∃ w' code, ck_inhibit_manager_create_lock on_changed_event calls w request =
        some (w', code) ∧ code < 0 ∧
      w'.inhibitors = w.inhibitors ∧ w'.inhibit_list = w.inhibit_list ++ [w.next_object] := by
  obtain ⟨w', code, hcreate, hcode, hrefused⟩ :=
    create_lock_refused on_changed_event calls w request (fails_iff.mp h)
  exact ⟨w', code, hcreate, hcode, hrefused.counter, hrefused.inhibit_list⟩

variable (on_changed_event) in
/-- A request whose `what` or `mode` is not understood leaves its temporary
    file: the name is made unique before the arguments are read. -/
theorem refused_files {calls : PipeCalls} {w : World L} {request : InhibitRequest}
    {who what why mode path : String} (hwho : request.who = some who)
    (hwhat : request.what = some what) (hwhy : request.why = some why)
    (hmode : request.mode = some mode) (hmkdir : calls.mkdir = true)
    (hpath : calls.mkstemp = some path) (hrejected : request.wellFormed = false) :
    ∃ w', ck_inhibit_manager_create_lock on_changed_event calls w request =
        some (w', CK_INHIBIT_ERROR_INVALID_INPUT) ∧ w'.files = path :: w.files := by
  obtain ⟨_, _, _, _, uid, pid⟩ := request
  simp only at hwho hwhat hwhy hmode
  subst hwho hwhat hwhy hmode
  obtain ⟨path', hpath'⟩ : ∃ path', get_named_pipe_path calls w.newObject =
      ({ w.newObject with files := path :: w.files }, path') := by
    rw [get_named_pipe_path, hpath]
    dsimp only
    split
    · exact ⟨_, rfl⟩
    · exact ⟨_, rfl⟩
  have hobject : w.newObject.object w.next_object = ck_inhibit_new := by simp [World.newObject]
  unfold World.newObject at hpath' hobject
  simp only [InhibitRequest.wellFormed, Option.isSome_some, Option.any_some, Bool.true_and,
    Bool.and_eq_false_iff] at hrejected
  simp only [ck_inhibit_manager_create_lock, ck_inhibit_create_lock, hmkdir, hpath', hobject]
  generalize hset : parse_inhibitors_string _ what = parsed
  have hset' : parsed.2 = (parse_inhibitors_string ck_inhibit_new what).2 := hset ▸ rfl
  rw [← hset'] at hrejected
  cases hparsed : parsed.2 with
  | false => exact ⟨_, rfl, rfl⟩
  | true =>
    have hmode := hrejected.resolve_left (by simp [hparsed])
    rw [parse_mode_string_set _ parsed.1] at hmode
    simp only [hmode]
    exact ⟨_, rfl, rfl⟩

/-! ## Section 3: Refused requests -/

/-- **Refused requests.**  The object of a refused request is always in the
    list of locks, whatever the state and the reason. -/
theorem refused_request_traced (on_changed_event : L → CkInhibitMode → CkInhibitEvent → Bool → L)
    (w : World L) (request : InhibitRequest) (calls : PipeCalls)
    (h : Fails on_changed_event calls w request) :
    ¬ LeavesNoTrace on_changed_event calls w request := by
  rintro ⟨w', code, hcreate, -, htrace⟩
  obtain ⟨v, code', hcreate', -, -, hlist⟩ := refused_request h
  rw [hcreate] at hcreate'
  obtain ⟨rfl, rfl⟩ := Prod.mk.inj (Option.some.inj hcreate')
  rw [htrace.inhibit_list] at hlist
  exact absurd (congrArg List.length hlist) (by simp)

end refusal

/-- `coffee` names no event. -/
theorem refused_request_traced_coffee :
    Fails (fun l _ _ _ => l) (allSucceed "a") (ck_inhibit_manager_init ())
      (lockRequest "coffee" "block") ∧
    ¬ LeavesNoTrace (fun l _ _ _ => l) (allSucceed "a") (ck_inhibit_manager_init ())
      (lockRequest "coffee" "block") := by
  have hfails : Fails (fun l _ _ _ => l) (allSucceed "a") (ck_inhibit_manager_init ())
      (lockRequest "coffee" "block") := fails_iff.mpr (by decide)
  exact ⟨hfails, refused_request_traced _ _ _ _ hfails⟩

/-- The caller gets `INVALID_INPUT`, and the list of locks and the inhibit
    directory have one entry more. -/
theorem refused_request_coffee :
    (ck_inhibit_manager_create_lock (fun l _ _ _ => l) (allSucceed "a")
      (ck_inhibit_manager_init ()) (lockRequest "coffee" "block")).map
      (fun r => (r.1.inhibit_list, r.1.files, r.2)) = some ([0], ["a"], -20) ∧
    ¬ ∀ request, Fails (fun l _ _ _ => l) (allSucceed "a") (ck_inhibit_manager_init ()) request →
      LeavesNoTrace (fun l _ _ _ => l) (allSucceed "a") (ck_inhibit_manager_init ()) request := by
  have hrun : (ck_inhibit_manager_create_lock (fun l _ _ _ => l) (allSucceed "a")
      (ck_inhibit_manager_init ()) (lockRequest "coffee" "block")).map
      (fun r => (r.1.inhibit_list, r.1.files, r.2)) = some ([0], ["a"], -20) := by decide
  refine ⟨hrun, fun hall => ?_⟩
  obtain ⟨w', code, hcreate, -, htrace⟩ := hall (lockRequest "coffee" "block")
    (fails_iff.mpr (by decide))
  rw [hcreate] at hrun
  have hlist := htrace.inhibit_list
  rw [(Prod.mk.inj (Option.some.inj hrun)).1] at hlist
  exact absurd hlist (by decide)

end Inhibit
