import Mathlib.Logic.Relation
import Mathlib.Data.List.Count
import ConsoleKit.Inhibit.Release

/-! # The invariant of the inhibit manager

    `Valid` holds in every reachable state, also after failed requests and
    after the release of locks with several events.  Its last field is the
    safe half of the counter law: a counter is never below the number of
    held locks it stands for.

    Each kind of step gets one theorem that says what it does:
    `create_lock_granted`, `create_lock_refused` and `pipe_closed_spec`.
-/

namespace Inhibit

section steps
variable {L : Type} {on_changed_event : L → CkInhibitMode → CkInhibitEvent → Bool → L}

/-! ## Section 1: The invariant -/

/-- The number of held locks of this mode whose event set contains the event. -/
def World.heldCount (w : World L) (m : CkInhibitMode) (e : CkInhibitEvent) : Nat :=
  w.held.countP fun r => (w.object r).mode = m && (w.object r).inhibitors e

/-- A lock whose client still holds its end: it is open, connected and
    counted under a valid mode and at least one event. -/
structure HeldLock (w : World L) (r : InhibitRef) : Prop where
  path : (w.object r).named_pipe_path ≠ none
  pipe : (w.object r).named_pipe ≠ none
  connected : w.connected r = true
  mode : (w.object r).mode.valid = true
  event : ∃ e, (w.object r).inhibitors e = true

theorem HeldLock.congr {w w' : World L} {r : InhibitRef} (h : HeldLock w r)
    (hobj : w'.object r = w.object r) (hconn : w'.connected r = w.connected r) :
    HeldLock w' r := by
  constructor
  case path => rw [hobj]; exact h.path
  case pipe => rw [hobj]; exact h.pipe
  case connected => rw [hconn]; exact h.connected
  case mode => rw [hobj]; exact h.mode
  case event => rw [hobj]; exact h.event

/-- What holds in every reachable state. -/
structure Valid (w : World L) : Prop where
  held_nodup : w.held.Nodup
  list_nodup : w.inhibit_list.Nodup
  list_lt : ∀ r ∈ w.inhibit_list, r < w.next_object
  held_list : ∀ r ∈ w.held, r ∈ w.inhibit_list
  held_lock : ∀ r ∈ w.held, HeldLock w r
  pathless : PathlessClosed w
  counter_ge : ∀ m e, (w.heldCount m e : Int) ≤ w.inhibitors m e

theorem Valid.held_lt {w : World L} (h : Valid w) {r : InhibitRef} (hr : r ∈ w.held) :
    r < w.next_object := h.list_lt r (h.held_list r hr)

theorem Valid.not_held_next {w : World L} (h : Valid w) : w.next_object ∉ w.held :=
  fun hr => Nat.lt_irrefl _ (h.held_lt hr)

theorem Valid.not_listed_next {w : World L} (h : Valid w) : w.next_object ∉ w.inhibit_list :=
  fun hr => Nat.lt_irrefl _ (h.list_lt _ hr)

theorem init_valid (l : L) : Valid (ck_inhibit_manager_init l) := by
  constructor <;> simp [ck_inhibit_manager_init, PathlessClosed, ck_inhibit_new, World.heldCount]

/-- A held lock that names the event makes the count positive. -/
theorem heldCount_pos {w : World L} {m : CkInhibitMode} {e : CkInhibitEvent} :
    0 < w.heldCount m e ↔
      ∃ r ∈ w.held, (w.object r).mode = m ∧ (w.object r).inhibitors e = true := by
  simp [World.heldCount, List.countP_pos_iff]

theorem heldCount_congr {w w' : World L} (hheld : w'.held = w.held)
    (hobj : ∀ r ∈ w.held, w'.object r = w.object r) (m : CkInhibitMode) (e : CkInhibitEvent) :
    w'.heldCount m e = w.heldCount m e := by
  unfold World.heldCount
  rw [hheld]
  exact List.countP_congr fun r hr => by rw [hobj r hr]

/-! ## Section 2: Calls of the listener -/

/-- `l'` is the listener's state after some `changed-event` signals with
    this value of `enabled`. -/
def Notified (on_changed_event : L → CkInhibitMode → CkInhibitEvent → Bool → L)
    (enabled : Bool) : L → L → Prop :=
  Relation.ReflTransGen fun l l' => ∃ m e, l' = on_changed_event l m e enabled

/-- What every signal preserves, a sequence of signals preserves. -/
theorem Notified.preserves {enabled : Bool} {P : L → Prop}
    (hP : ∀ l m e, P l → P (on_changed_event l m e enabled)) {l l' : L}
    (h : Notified on_changed_event enabled l l') (hl : P l) : P l' := by
  induction h with
  | refl => exact hl
  | tail _ hstep ih =>
    obtain ⟨m, e, rfl⟩ := hstep
    exact hP _ m e ih

theorem Notified.of_eq {enabled : Bool} {l l' : L} (h : l' = l) :
    Notified on_changed_event enabled l l' := by
  subst h
  exact Relation.ReflTransGen.refl

theorem Notified.of_signal {enabled : Bool} {l l' : L} (m : CkInhibitMode) (e : CkInhibitEvent)
    (h : l' = on_changed_event l m e enabled) : Notified on_changed_event enabled l l' :=
  Relation.ReflTransGen.single ⟨m, e, h⟩

/-! ## Section 3: The initial signals -/

section initial
variable {close : World L → InhibitRef → World L}

/-- The counter of the event goes up and the listener is told when it
    reaches 1. -/
def World.countUp (on_changed_event : L → CkInhibitMode → CkInhibitEvent → Bool → L)
    (w : World L) (m : CkInhibitMode) (e : CkInhibitEvent) : World L :=
  let w := w.addToCounter m e 1
  if w.inhibitors m e = 1 then emit_manager_changed_event on_changed_event w m e true else w

theorem emit_initial_eq (r : InhibitRef) (w : World L) (e : CkInhibitEvent)
    (hconn : w.connected r = true) :
    emit_initial on_changed_event close r w e =
      if (w.object r).inhibitors e then w.countUp on_changed_event (w.object r).mode e else w := by
  unfold emit_initial emit_changed_event
  rw [if_pos hconn]
  rfl

/-- What the initial signals do not change. -/
structure SameLocks (w w' : World L) : Prop where
  object : w'.object = w.object
  next_object : w'.next_object = w.next_object
  connected : w'.connected = w.connected
  inhibit_list : w'.inhibit_list = w.inhibit_list
  held : w'.held = w.held
  files : w'.files = w.files

theorem SameLocks.refl (w : World L) : SameLocks w w := ⟨rfl, rfl, rfl, rfl, rfl, rfl⟩

theorem SameLocks.trans {w₁ w₂ w₃ : World L} (h : SameLocks w₁ w₂) (h' : SameLocks w₂ w₃) :
    SameLocks w₁ w₃ where
  object := h'.object.trans h.object
  next_object := h'.next_object.trans h.next_object
  connected := h'.connected.trans h.connected
  inhibit_list := h'.inhibit_list.trans h.inhibit_list
  held := h'.held.trans h.held
  files := h'.files.trans h.files

variable (on_changed_event) in
theorem countUp_sameLocks (w : World L) (m : CkInhibitMode) (e : CkInhibitEvent) :
    SameLocks w (w.countUp on_changed_event m e) := by
  unfold World.countUp
  dsimp only
  split <;> exact ⟨rfl, rfl, rfl, rfl, rfl, rfl⟩

theorem countUp_inhibitors (w : World L) (m : CkInhibitMode) (e : CkInhibitEvent) :
    (w.countUp on_changed_event m e).inhibitors = (w.addToCounter m e 1).inhibitors := by
  unfold World.countUp; dsimp only; split <;> rfl

theorem countUp_notified (w : World L) (m : CkInhibitMode) (e : CkInhibitEvent) :
    Notified on_changed_event true w.listener (w.countUp on_changed_event m e).listener := by
  unfold World.countUp
  dsimp only
  split
  · exact .of_signal m e rfl
  · exact .of_eq rfl

variable (on_changed_event close) in
/-- The initial signals count the lock once for each of its events. -/
theorem foldl_emit_initial (r : InhibitRef) (es : List CkInhibitEvent) (w : World L)
    (hconn : w.connected r = true) :
    SameLocks w (es.foldl (emit_initial on_changed_event close r) w) ∧
    Notified on_changed_event true w.listener
      (es.foldl (emit_initial on_changed_event close r) w).listener ∧
    ∀ m e, (es.foldl (emit_initial on_changed_event close r) w).inhibitors m e =
      w.inhibitors m e +
        if m = (w.object r).mode ∧ (w.object r).inhibitors e then es.count e else 0 := by
  induction es generalizing w with
  | nil => exact ⟨SameLocks.refl w, .of_eq rfl, by simp⟩
  | cons d es ih =>
    rw [List.foldl_cons, emit_initial_eq r w d hconn]
    by_cases hflag : (w.object r).inhibitors d = true
    · rw [if_pos hflag]
      have hd := countUp_sameLocks on_changed_event w (w.object r).mode d
      obtain ⟨hsame, hnotified, hcount⟩ :=
        ih (w.countUp on_changed_event (w.object r).mode d) (by rw [hd.connected, hconn])
      refine ⟨hd.trans hsame, (countUp_notified w _ d).trans hnotified, fun m e => ?_⟩
      rw [hcount, hd.object, countUp_inhibitors, addToCounter_inhibitors, List.count_cons]
      by_cases hm : m = (w.object r).mode <;> by_cases he : e = d
      · subst he; simp [hm, hflag]; omega
      · have hde : (d == e) = false := by simpa using fun h => he h.symm
        simp [hm, he, hde]
      · simp [hm]
      · simp [hm]
    · rw [if_neg hflag]
      obtain ⟨hsame, hnotified, hcount⟩ := ih w hconn
      refine ⟨hsame, hnotified, fun m e => ?_⟩
      rw [hcount, List.count_cons]
      by_cases he : d = e
      · subst he; simp [hflag]
      · simp [he]

end initial

/-! ## Section 4: A request -/

/-- All arguments are there, `what` names an event and `mode` is known. -/
def InhibitRequest.wellFormed (request : InhibitRequest) : Bool :=
  request.who.isSome && request.why.isSome &&
  request.what.any (fun what => (parse_inhibitors_string ck_inhibit_new what).2) &&
  request.mode.any (fun mode => (parse_mode_string ck_inhibit_new mode).2)

/-- Every system call made for the request succeeds. -/
def PipeCalls.succeed (calls : PipeCalls) : Bool :=
  calls.mkdir && calls.mkstemp.isSome && calls.close_tmp && calls.unlink && calls.mknod &&
  calls.open_read.isSome && calls.open_write.isSome

def InhibitRequest.granted (request : InhibitRequest) (calls : PipeCalls) : Bool :=
  request.wellFormed && calls.succeed

theorem granted_iff {request : InhibitRequest} {calls : PipeCalls} :
    request.granted calls = true ↔ request.wellFormed = true ∧ calls.succeed = true := by
  simp [InhibitRequest.granted]

theorem parse_tokens_mono (tokens : List String) (f : CkInhibitEvent → Bool) (b : Bool)
    {e : CkInhibitEvent} (he : f e = true) : (parse_tokens tokens f b).1 e = true := by
  induction tokens generalizing f b with
  | nil => exact he
  | cons token tokens ih =>
    unfold parse_tokens
    split
    · exact he
    · split
      · refine ih _ _ ?_
        rw [Function.update_apply]
        split
        · rfl
        · exact he
      · exact ih f b he

/-- A parse that succeeds has found an event. -/
theorem parse_tokens_event (tokens : List String) (f : CkInhibitEvent → Bool)
    (h : (parse_tokens tokens f false).2 = true) :
    ∃ e, (parse_tokens tokens f false).1 e = true := by
  induction tokens generalizing f with
  | nil => simp [parse_tokens] at h
  | cons token tokens ih =>
    unfold parse_tokens at h ⊢
    by_cases htoken : token = ""
    · rw [if_pos htoken] at h
      simp at h
    · rw [if_neg htoken] at h ⊢
      cases hev : token_event token with
      | some e =>
        simp only
        exact ⟨e, parse_tokens_mono tokens _ true (by simp)⟩
      | none =>
        simp only [hev] at h ⊢
        exact ih f h

theorem parse_mode_string_valid (o : CkInhibit) (mode : String)
    (h : (parse_mode_string o mode).2 = true) :
    (parse_mode_string o mode).1.mode.valid = true := by
  unfold parse_mode_string at h ⊢
  split
  · rfl
  · split
    · rfl
    · simp_all

theorem parse_mode_string_pipe (o : CkInhibit) (mode : String) :
    (parse_mode_string o mode).1.named_pipe = o.named_pipe := by
  unfold parse_mode_string
  split
  · rfl
  · split <;> rfl

theorem parse_mode_string_set (o o' : CkInhibit) (mode : String) :
    (parse_mode_string o mode).2 = (parse_mode_string o' mode).2 := by
  unfold parse_mode_string
  split
  · rfl
  · split <;> rfl

/-- What every request does, whatever its outcome: a new object, connected
    and at the end of the list. -/
structure Requested (w w' : World L) : Prop where
  next_object : w'.next_object = w.next_object + 1
  object_ne : ∀ s, s ≠ w.next_object → w'.object s = w.object s
  connected : w'.connected = Function.update w.connected w.next_object true
  inhibit_list : w'.inhibit_list = w.inhibit_list ++ [w.next_object]
  held : w'.held = w.held

/-- What a granted request does. -/
structure Granted (on_changed_event : L → CkInhibitMode → CkInhibitEvent → Bool → L)
    (w w' : World L) : Prop extends Requested w w' where
  path : (w'.object w.next_object).named_pipe_path ≠ none
  pipe : (w'.object w.next_object).named_pipe ≠ none
  mode : (w'.object w.next_object).mode.valid = true
  event : ∃ e, (w'.object w.next_object).inhibitors e = true
  counter : ∀ m e, w'.inhibitors m e = w.inhibitors m e +
    if m = (w'.object w.next_object).mode ∧ (w'.object w.next_object).inhibitors e then 1 else 0
  notified : Notified on_changed_event true w.listener w'.listener

/-- What a request that is not granted does. -/
structure Refused (w w' : World L) : Prop extends Requested w w' where
  pathless : (w'.object w.next_object).named_pipe_path = none →
    (w'.object w.next_object).named_pipe = none
  counter : w'.inhibitors = w.inhibitors
  listener : w'.listener = w.listener

/-- The state in which `ck_inhibit_create_lock` is called. -/
def World.newObject (w : World L) : World L :=
  { w.setObject w.next_object ck_inhibit_new with
    next_object := w.next_object + 1
    connected := Function.update w.connected w.next_object true }

theorem create_lock_of (calls : PipeCalls) (w : World L) (request : InhibitRequest)
    {v : World L} {fd : Int}
    (h : ck_inhibit_create_lock on_changed_event calls w.newObject w.next_object request =
      (v, fd)) (hfd : fd ≠ -1) :
    ck_inhibit_manager_create_lock on_changed_event calls w request =
      some ({ v with inhibit_list := v.inhibit_list ++ [w.next_object] }, fd) := by
  unfold World.newObject at h
  unfold ck_inhibit_manager_create_lock
  simp only [h, if_neg hfd]

/-- The object of a granted request when its initial signals are sent. -/
def grantedObject (request : InhibitRequest) (calls : PipeCalls) : CkInhibit where
  who := request.who
  inhibitors := (parse_inhibitors_string ck_inhibit_new (request.what.getD "")).1.inhibitors
  why := request.why
  mode := (parse_mode_string ck_inhibit_new (request.mode.getD "")).1.mode
  uid := request.uid
  pid := request.pid
  named_pipe := calls.open_read
  named_pipe_path := calls.mkstemp
  fd_source := true

variable (on_changed_event) in
/-- A granted request passes every check and ends in its initial signals. -/
theorem ck_inhibit_create_lock_granted (calls : PipeCalls) (w : World L)
    (request : InhibitRequest) (r : InhibitRef) (hr : w.object r = ck_inhibit_new)
    (hg : request.granted calls = true) :
    ∃ (files : List String) (fd : Nat),
      ck_inhibit_create_lock on_changed_event calls w r request =
        (emit_initial_inhibit_signals on_changed_event (close_named_pipe on_changed_event)
          { w.setObject r (grantedObject request calls) with files := files } r, (fd : Int)) := by
  obtain ⟨who, what, why, mode, uid, pid⟩ := request
  obtain ⟨mkdir, mkstemp, close_tmp, unlink, mknod, open_read, open_write⟩ := calls
  rw [granted_iff] at hg
  simp only [InhibitRequest.wellFormed, PipeCalls.succeed, Bool.and_eq_true,
    Option.isSome_iff_exists, Option.any_eq_true] at hg
  obtain ⟨⟨⟨⟨⟨who, rfl⟩, why, rfl⟩, what, rfl, hwhat⟩, mode, rfl, hmode⟩,
    ⟨⟨⟨⟨⟨rfl, path, rfl⟩, rfl⟩, rfl⟩, rfl⟩, rd, rfl⟩, wr, rfl⟩ := hg
  have hset : (parse_tokens (g_strsplit what) (fun _ => false) false).2 = true := hwhat
  refine ⟨path :: w.files, wr, ?_⟩
  have hmode' : mode = "block" ∨ mode = "delay" := by
    by_contra hne
    rw [not_or] at hne
    simp [parse_mode_string, hne] at hmode
  rcases hmode' with rfl | rfl <;>
    simp [ck_inhibit_create_lock, get_named_pipe_path, create_named_pipe, hr, ck_inhibit_new,
      parse_inhibitors_string, parse_mode_string, hset, grantedObject, World.setObject]

theorem grantedObject_event (calls : PipeCalls) (request : InhibitRequest)
    (hg : request.wellFormed = true) :
    ∃ e, (grantedObject request calls).inhibitors e = true := by
  simp only [InhibitRequest.wellFormed, Bool.and_eq_true, Option.any_eq_true] at hg
  obtain ⟨⟨_, what, hwhat, hset⟩, _⟩ := hg
  obtain ⟨e, he⟩ := parse_tokens_event (g_strsplit what) (fun _ => false) hset
  refine ⟨e, ?_⟩
  simpa [grantedObject, hwhat, parse_inhibitors_string, ck_inhibit_new] using he

theorem grantedObject_mode (calls : PipeCalls) (request : InhibitRequest)
    (hg : request.wellFormed = true) : (grantedObject request calls).mode.valid = true := by
  simp only [InhibitRequest.wellFormed, Bool.and_eq_true, Option.any_eq_true] at hg
  obtain ⟨_, mode, hmode, hset⟩ := hg
  simpa [grantedObject, hmode] using parse_mode_string_valid ck_inhibit_new mode hset

theorem grantedObject_pipe (calls : PipeCalls) (request : InhibitRequest)
    (hg : calls.succeed = true) :
    (grantedObject request calls).named_pipe ≠ none ∧
    (grantedObject request calls).named_pipe_path ≠ none := by
  simp only [PipeCalls.succeed, Bool.and_eq_true, Option.isSome_iff_ne_none] at hg
  obtain ⟨⟨⟨⟨⟨⟨_, hpath⟩, _⟩, _⟩, _⟩, hpipe⟩, _⟩ := hg
  exact ⟨hpipe, hpath⟩

variable (on_changed_event) in
/-- A granted request succeeds and counts the new lock under each of its events. -/
theorem create_lock_granted (calls : PipeCalls) (w : World L) (request : InhibitRequest)
    (hg : request.granted calls = true) :
    ∃ w' fd, ck_inhibit_manager_create_lock on_changed_event calls w request = some (w', fd) ∧
      0 ≤ fd ∧ Granted on_changed_event w w' := by
  obtain ⟨files, fd, hcreate⟩ := ck_inhibit_create_lock_granted
    on_changed_event calls w.newObject request w.next_object
    (by simp [World.newObject]) hg
  set v : World L := { w.newObject.setObject w.next_object (grantedObject request calls) with
    files := files } with hv
  have hobj : v.object w.next_object = grantedObject request calls := by simp [hv]
  obtain ⟨hsame, hnotified, hcount⟩ := foldl_emit_initial on_changed_event
    (close_named_pipe on_changed_event) w.next_object CkInhibitEvent.all v
    (by simp [hv, World.newObject])
  refine ⟨_, fd, create_lock_of calls w request hcreate (by omega), by omega, ?_⟩
  obtain ⟨hform, hsucceed⟩ := granted_iff.mp hg
  -- The callbacks of the new lock change the counters and the listener only.
  have hobj' := congrFun hsame.object w.next_object
  rw [hobj] at hobj'
  exact {
    next_object := hsame.next_object
    object_ne := fun s hs => by
      refine (congrFun hsame.object s).trans ?_
      simp [hv, World.newObject, hs]
    connected := hsame.connected
    inhibit_list := congrArg (· ++ [w.next_object]) hsame.inhibit_list
    held := hsame.held
    path := by
      change ((List.foldl _ v _).object _).named_pipe_path ≠ none
      rw [hobj']
      exact (grantedObject_pipe calls request hsucceed).2
    pipe := by
      change ((List.foldl _ v _).object _).named_pipe ≠ none
      rw [hobj']
      exact (grantedObject_pipe calls request hsucceed).1
    mode := by
      change ((List.foldl _ v _).object _).mode.valid = true
      rw [hobj']
      exact grantedObject_mode calls request hform
    event := by
      obtain ⟨e, he⟩ := grantedObject_event calls request hform
      exact ⟨e, by rw [← hobj'] at he; exact he⟩
    counter := fun m e => by
      refine (hcount m e).trans ?_
      change _ = w.inhibitors m e +
        if m = ((List.foldl _ v _).object _).mode ∧ ((List.foldl _ v _).object _).inhibitors e
        then 1 else 0
      rw [hobj', hobj, CkInhibitEvent.count_all]
      change w.inhibitors m e + _ = _
      split <;> rfl
    notified := hnotified }

/-- Only the object `r` and the files differ, and `r` has lost no path
    while its pipe is open. -/
structure OnlyObject (r : InhibitRef) (w v : World L) : Prop where
  object_ne : ∀ s, s ≠ r → v.object s = w.object s
  next_object : v.next_object = w.next_object
  connected : v.connected = w.connected
  inhibit_list : v.inhibit_list = w.inhibit_list
  held : v.held = w.held
  inhibitors : v.inhibitors = w.inhibitors
  listener : v.listener = w.listener
  pathless : (v.object r).named_pipe_path = none → (v.object r).named_pipe = none

theorem setObject_onlyObject (w : World L) (r : InhibitRef) (o : CkInhibit) (files : List String)
    (ho : o.named_pipe_path = none → o.named_pipe = none) :
    OnlyObject r w { w.setObject r o with files := files } where
  object_ne := fun s hs => by simp [hs]
  next_object := rfl
  connected := rfl
  inhibit_list := rfl
  held := rfl
  inhibitors := rfl
  listener := rfl
  pathless := by simpa using ho

theorem get_named_pipe_path_cases (calls : PipeCalls) (w : World L) :
    ∃ files path, get_named_pipe_path calls w = ({ w with files := files }, path) ∧
      (path.isSome → calls.mkstemp.isSome ∧ calls.close_tmp = true) := by
  unfold get_named_pipe_path
  cases hp : calls.mkstemp with
  | none => exact ⟨w.files, none, rfl, by simp⟩
  | some p =>
    by_cases hc : calls.close_tmp = true
    · exact ⟨p :: w.files, some p, by simp [hc], by simp [hc]⟩
    · exact ⟨p :: w.files, none, by simp [hc], by simp⟩

theorem create_named_pipe_cases (calls : PipeCalls) (w : World L) (r : InhibitRef)
    (hpipe : (w.object r).named_pipe = none) :
    ∃ o files fd, create_named_pipe calls w r = ({ w.setObject r o with files := files }, fd) ∧
      (o.named_pipe_path = none → o.named_pipe = none) ∧
      (fd.isSome → calls.unlink = true ∧ calls.mknod = true ∧ calls.open_read.isSome ∧
        calls.open_write.isSome) := by
  have hself : w.setObject r (w.object r) = w := by simp [World.setObject]
  unfold create_named_pipe
  rw [if_neg (by simpa using hpipe)]
  cases hpath : (w.object r).named_pipe_path with
  | none => exact ⟨w.object r, w.files, none, by simp [hself], by simp [hpipe], by simp⟩
  | some path =>
    by_cases hu : calls.unlink = true
    · by_cases hm : calls.mknod = true
      · cases hopen : calls.open_read with
        | none =>
          exact ⟨w.object r, path :: w.files.erase path, none, by simp [hu, hm, hself],
            by simp [hpipe], by simp⟩
        | some fd =>
          exact ⟨{ w.object r with named_pipe := some fd, fd_source := true },
            path :: w.files.erase path, calls.open_write, by simp [hu, hm, World.setObject],
            by simp [hpath], by simp [hu, hm]⟩
      · exact ⟨w.object r, w.files.erase path, none, by simp [hu, hm, hself], by simp [hpipe],
          by simp⟩
    · exact ⟨w.object r, w.files, none, by simp [hu, hself], by simp [hpipe], by simp⟩

variable (on_changed_event) in
theorem ck_inhibit_create_lock_refused (calls : PipeCalls) (w : World L)
    (request : InhibitRequest) (r : InhibitRef) (hr : w.object r = ck_inhibit_new)
    (hg : request.granted calls = false) :
    ∃ v fd, ck_inhibit_create_lock on_changed_event calls w r request = (v, fd) ∧
      fd < -1 ∧ OnlyObject r w v := by
  have hself : OnlyObject r w w := by
    have := setObject_onlyObject w r (w.object r) w.files (by simp [hr, ck_inhibit_new])
    simpa [World.setObject] using this
  unfold ck_inhibit_create_lock
  split
  · rename_i who what why mode hwho hwhat hwhy hmode
    by_cases hdir : calls.mkdir = true
    · obtain ⟨files, path, hpath, hpathok⟩ := get_named_pipe_path_cases calls w
      simp only [hdir, Bool.not_true, Bool.false_eq_true, ↓reduceIte, hpath]
      -- the object once the arguments are stored, for any events and mode
      have hstored : ∀ o : CkInhibit, o.named_pipe = none →
          OnlyObject r w (World.setObject { w with files := files } r o) :=
        fun o ho => setObject_onlyObject w r o files (fun _ => ho)
      generalize hparse : parse_inhibitors_string _ what = parsed
      obtain ⟨o, set⟩ := parsed
      have ho : o.named_pipe = none := by
        rw [show o = _ from (congrArg Prod.fst hparse).symm, hr]
        rfl
      cases set with
      | false => exact ⟨_, CK_INHIBIT_ERROR_INVALID_INPUT, if_pos rfl, by decide, hstored o ho⟩
      | true =>
        simp only [Bool.not_true, Bool.false_eq_true, ↓reduceIte]
        generalize hmodes : parse_mode_string o mode = parsed'
        obtain ⟨o', mode_set⟩ := parsed'
        have ho' : o'.named_pipe = none := by
          rw [show o' = _ from (congrArg Prod.fst hmodes).symm, parse_mode_string_pipe, ho]
        cases mode_set with
        | false =>
          exact ⟨_, CK_INHIBIT_ERROR_INVALID_INPUT, if_pos rfl, by decide, hstored o' ho'⟩
        | true =>
          by_cases hsome : path = none
          · exact ⟨_, _, if_pos hsome, by decide, hstored o' ho'⟩
          · obtain ⟨o₂, files', fd, hpipe, ho₂, hfd⟩ := create_named_pipe_cases calls
              (World.setObject { w with files := files } r o') r (by simpa using ho')
            simp only [hpipe, hsome, Bool.not_true, Bool.false_eq_true, ↓reduceIte]
            cases fd with
            | none =>
              refine ⟨_, _, rfl, by decide, ?_⟩
              simpa [World.setObject] using setObject_onlyObject w r o₂ files' ho₂
            | some fd =>
              -- every check has passed, so the request was granted
              exfalso
              have hwhat' : (parse_inhibitors_string ck_inhibit_new what).2 = true := by
                have := congrArg Prod.snd hparse
                rwa [hr] at this
              have hmode' : (parse_mode_string ck_inhibit_new mode).2 = true := by
                rw [parse_mode_string_set _ o, hmodes]
              have hcalls := hfd rfl
              have hstemp := hpathok (Option.isSome_iff_ne_none.mpr hsome)
              have hgranted : request.granted calls = true := by
                simp [granted_iff, InhibitRequest.wellFormed, PipeCalls.succeed, hwho, hwhat,
                  hwhy, hmode, hwhat', hmode', hdir, hstemp, hcalls]
              rw [hgranted] at hg
              exact Bool.noConfusion hg
    · exact ⟨w, CK_INHIBIT_ERROR_GENERAL, by simp [hdir], by decide, hself⟩
  · exact ⟨w, CK_INHIBIT_ERROR_INVALID_INPUT, rfl, by decide, hself⟩

variable (on_changed_event) in
/-- A request that is not granted fails, and leaves its object in the list. -/
theorem create_lock_refused (calls : PipeCalls) (w : World L) (request : InhibitRequest)
    (hg : request.granted calls = false) :
    ∃ w' fd, ck_inhibit_manager_create_lock on_changed_event calls w request = some (w', fd) ∧
      fd < 0 ∧ Refused w w' := by
  obtain ⟨v, fd, hcreate, hfd, honly⟩ := ck_inhibit_create_lock_refused
    on_changed_event calls w.newObject request w.next_object
    (by simp [World.newObject]) hg
  refine ⟨_, fd, create_lock_of calls w request hcreate (by omega), by omega, ?_⟩
  exact {
    next_object := honly.next_object
    object_ne := fun s hs => (honly.object_ne s hs).trans (by simp [World.newObject, hs])
    connected := honly.connected
    inhibit_list := congrArg (· ++ [w.next_object]) honly.inhibit_list
    held := honly.held
    pathless := honly.pathless
    counter := honly.inhibitors
    listener := honly.listener }

/-! ## Section 5: A closed pipe -/

theorem foldl_emit_final_notified {close : World L → InhibitRef → World L}
    (hclose : SkipsClosed close) (r : InhibitRef) (es : List CkInhibitEvent) (w : World L)
    (hw : PathlessClosed w) (hr : (w.object r).named_pipe_path = none) :
    Notified on_changed_event false w.listener
      (es.foldl (emit_final on_changed_event close r) w).listener := by
  induction es generalizing w with
  | nil => exact .of_eq rfl
  | cons e es ih =>
    have he := emit_final_frame on_changed_event hclose r w e hw hr
    refine Relation.ReflTransGen.trans ?_ (ih _ (he.pathlessClosed hw) (he.path.trans hr))
    rw [emit_final_eq hclose r w e hw hr]
    split
    · split
      · rw [dropCleared_listener, countDown_listener]
        split
        · exact Notified.of_signal _ _ rfl
        · exact Notified.of_eq rfl
      · exact Notified.of_eq rfl
    · exact Notified.of_eq rfl

/-- The state in which the final signals of a lock are sent. -/
def World.beforeFinal (w : World L) (r : InhibitRef) : World L :=
  World.dropPipe
    (World.setObject { w with held := w.held.erase r } r { w.object r with fd_source := false }) r

theorem beforeFinal_object_ne (w : World L) {r s : InhibitRef} (hs : s ≠ r) :
    (w.beforeFinal r).object s = w.object s := by
  simp [World.beforeFinal, World.dropPipe, hs]

theorem beforeFinal_object (w : World L) (r : InhibitRef) :
    (w.beforeFinal r).object r = { w.object r with
      named_pipe := none, named_pipe_path := none, fd_source := false } := by
  simp [World.beforeFinal, World.dropPipe]

theorem beforeFinal_pathless {w : World L} (hw : PathlessClosed w) (r : InhibitRef) :
    PathlessClosed (w.beforeFinal r) := by
  intro s hs
  by_cases hsr : s = r
  · subst hsr
    simp [beforeFinal_object]
  · rw [beforeFinal_object_ne w hsr] at hs ⊢
    exact hw s hs

/-- What the closing of a held lock's pipe does in every reachable state. -/
structure Released (on_changed_event : L → CkInhibitMode → CkInhibitEvent → Bool → L)
    (r : InhibitRef) (w w' : World L) : Prop where
  next_object : w'.next_object = w.next_object
  held : w'.held = w.held.erase r
  object_ne : ∀ s, s ≠ r → w'.object s = w.object s
  mode : (w'.object r).mode = (w.object r).mode
  path : (w'.object r).named_pipe_path = none
  pipe : (w'.object r).named_pipe = none
  sublist : w'.inhibit_list.Sublist w.inhibit_list
  list_open : ∀ s ∈ w.inhibit_list, s ≠ r → (w.object s).named_pipe_path ≠ none →
    s ∈ w'.inhibit_list
  connected_open : ∀ s, s ≠ r → (w.object s).named_pipe_path ≠ none →
    w'.connected s = w.connected s
  counter_ne : ∀ m e, ¬ (m = (w.object r).mode ∧ (w.object r).inhibitors e = true) →
    w'.inhibitors m e = w.inhibitors m e
  counter_ge : ∀ m e, w.inhibitors m e - 1 ≤ w'.inhibitors m e
  notified : Notified on_changed_event false w.listener w'.listener

variable (on_changed_event) in
/-- The callback of a held lock closes its pipe and sends the final signals. -/
theorem cb_named_pipe_close_eq {w : World L} (hw : Valid w) {r : InhibitRef} (hr : r ∈ w.held) :
    ∃ n, cb_named_pipe_close on_changed_event { w with held := w.held.erase r } r =
      CkInhibitEvent.all.foldl
        (emit_final on_changed_event (close_named_pipe_rec on_changed_event n) r)
        (w.beforeFinal r) := by
  obtain ⟨n, hn⟩ := Nat.exists_eq_succ_of_ne_zero (Nat.ne_zero_of_lt (hw.held_lt hr))
  refine ⟨n, ?_⟩
  unfold cb_named_pipe_close close_named_pipe
  rw [show (World.setObject { w with held := w.held.erase r } r
    { w.object r with fd_source := false }).next_object = n + 1 from hn]
  unfold close_named_pipe_rec
  rw [if_neg]
  · rfl
  · simpa using (hw.held_lock r hr).pipe

variable (on_changed_event) in
theorem pipe_closed_spec {w : World L} (hw : Valid w) {r : InhibitRef} (hr : r ∈ w.held) :
    Released on_changed_event r w
      (cb_named_pipe_close on_changed_event { w with held := w.held.erase r } r) := by
  obtain ⟨n, hn⟩ := cb_named_pipe_close_eq on_changed_event hw hr
  rw [hn]
  have hclose := close_named_pipe_rec_skipsClosed on_changed_event n
  have hpathless := beforeFinal_pathless hw.pathless r
  have hpath : ((w.beforeFinal r).object r).named_pipe_path = none := by
    rw [beforeFinal_object]
  have hf := foldl_emit_final_frame on_changed_event hclose r
    CkInhibitEvent.all (w.beforeFinal r) hpathless hpath
  exact {
    next_object := hf.next_object
    held := hf.held
    object_ne := fun s hs => (hf.object_ne s hs).trans (beforeFinal_object_ne w hs)
    mode := hf.mode.trans (by rw [beforeFinal_object])
    path := hf.path.trans hpath
    pipe := hf.pipe.trans (by rw [beforeFinal_object])
    sublist := hf.sublist
    list_open := fun s hs hne hp => hf.list_open s hs (by rwa [beforeFinal_object_ne w hne])
    connected_open := fun s hne hp =>
      hf.connected_open s (by rwa [beforeFinal_object_ne w hne])
    counter_ne := fun m e hne =>
      foldl_emit_final_counter_ne hclose r _ _ hpathless hpath m e (by rwa [beforeFinal_object])
    counter_ge := fun m e => foldl_emit_final_counter_ge hclose r _ _ hpathless hpath m e
    notified := foldl_emit_final_notified hclose r _ _ hpathless hpath }

variable (on_changed_event) in
/-- The first event of the lock is counted down, and the listener is told
    of it when its counter gets to 0. -/
theorem pipe_closed_head {w : World L} (hw : Valid w) {r : InhibitRef} (hr : r ∈ w.held)
    {first : CkInhibitEvent} {rest : List CkInhibitEvent}
    (hfirst : (w.object r).events = first :: rest) :
    let w' := cb_named_pipe_close on_changed_event { w with held := w.held.erase r } r
    w'.inhibitors (w.object r).mode first = w.inhibitors (w.object r).mode first - 1 ∧
    ∃ calls : List CkInhibitEvent, calls.Sublist rest ∧
      w'.listener = calls.foldl (fun l e => on_changed_event l (w.object r).mode e false)
        (if w.inhibitors (w.object r).mode first = 1 then
          on_changed_event w.listener (w.object r).mode first false
        else w.listener) := by
  obtain ⟨n, hn⟩ := cb_named_pipe_close_eq on_changed_event hw hr
  have hmode : ((w.beforeFinal r).object r).mode = (w.object r).mode := by
    rw [beforeFinal_object]
  have hflags : ((w.beforeFinal r).object r).inhibitors = (w.object r).inhibitors := by
    rw [beforeFinal_object]
  have hhead := foldl_emit_final_head on_changed_event
    (close_named_pipe_rec_skipsClosed on_changed_event n) r
    CkInhibitEvent.all (w.beforeFinal r) (beforeFinal_pathless hw.pathless r)
    (by rw [beforeFinal_object]) (hw.held_lock r hr).connected first rest
    (by rw [hflags]; exact hfirst)
  rw [hmode] at hhead
  rw [hn]
  exact hhead

/-! ## Section 6: The invariant is preserved -/

theorem Requested.valid {w w' : World L} (h : Requested w w') (hw : Valid w)
    (hcounter : ∀ m e, w.inhibitors m e ≤ w'.inhibitors m e)
    (hpathless : (w'.object w.next_object).named_pipe_path = none →
      (w'.object w.next_object).named_pipe = none) : Valid w' where
  held_nodup := by rw [h.held]; exact hw.held_nodup
  list_nodup := by
    rw [h.inhibit_list]
    exact (List.perm_append_singleton _ _).nodup_iff.mpr
      (List.nodup_cons.mpr ⟨hw.not_listed_next, hw.list_nodup⟩)
  list_lt := by
    intro r hr
    rw [h.inhibit_list, List.mem_append, List.mem_singleton] at hr
    rw [h.next_object]
    rcases hr with hr | rfl
    · exact Nat.lt_succ_of_lt (hw.list_lt r hr)
    · exact Nat.lt_succ_self _
  held_list := by
    intro r hr
    rw [h.held] at hr
    rw [h.inhibit_list]
    exact List.mem_append_left _ (hw.held_list r hr)
  held_lock := by
    intro r hr
    rw [h.held] at hr
    have hne := Nat.ne_of_lt (hw.held_lt hr)
    exact (hw.held_lock r hr).congr (h.object_ne r hne)
      (by rw [h.connected, Function.update_of_ne hne])
  pathless := by
    intro s hs
    by_cases hsr : s = w.next_object
    · subst hsr
      exact hpathless hs
    · rw [h.object_ne s hsr] at hs ⊢
      exact hw.pathless s hs
  counter_ge := fun m e => by
    rw [heldCount_congr h.held fun r hr => h.object_ne r (Nat.ne_of_lt (hw.held_lt hr))]
    exact Int.le_trans (hw.counter_ge m e) (hcounter m e)

/-- A granted lock that is now held. -/
def World.hold (w : World L) (r : InhibitRef) : World L := { w with held := w.held ++ [r] }

theorem hold_heldCount (w : World L) (r : InhibitRef) (m : CkInhibitMode) (e : CkInhibitEvent) :
    (w.hold r).heldCount m e =
      w.heldCount m e + if m = (w.object r).mode ∧ (w.object r).inhibitors e then 1 else 0 := by
  unfold World.heldCount World.hold
  rw [List.countP_append, List.countP_singleton]
  by_cases hm : (w.object r).mode = m
  · simp [hm]
  · simp [hm, Ne.symm hm]

theorem Granted.heldCount {w w' : World L} (h : Granted on_changed_event w w') (hw : Valid w)
    (m : CkInhibitMode) (e : CkInhibitEvent) :
    ((w'.hold w.next_object).heldCount m e : Int) - w.heldCount m e =
      w'.inhibitors m e - w.inhibitors m e := by
  rw [hold_heldCount, h.counter,
    heldCount_congr h.held fun r hr => h.object_ne r (Nat.ne_of_lt (hw.held_lt hr))]
  split <;> omega

theorem Granted.valid {w w' : World L} (h : Granted on_changed_event w w') (hw : Valid w) :
    Valid (w'.hold w.next_object) := by
  have hv : Valid w' := h.toRequested.valid hw
    (fun m e => by rw [h.counter]; split <;> omega) (fun hp => absurd hp h.path)
  have hlist : w.next_object ∈ w'.inhibit_list := by simp [h.inhibit_list]
  exact {
    held_nodup := by
      change (w'.held ++ [w.next_object]).Nodup
      rw [h.held]
      exact (List.perm_append_singleton _ _).nodup_iff.mpr
        (List.nodup_cons.mpr ⟨hw.not_held_next, hw.held_nodup⟩)
    list_nodup := hv.list_nodup
    list_lt := hv.list_lt
    held_list := by
      intro r hr
      rcases List.mem_append.mp hr with hr | hr
      · exact hv.held_list r hr
      · rw [List.mem_singleton.mp hr]
        exact hlist
    held_lock := by
      intro r hr
      rcases List.mem_append.mp hr with hr | hr
      · exact (hv.held_lock r hr).congr rfl rfl
      · rw [List.mem_singleton.mp hr]
        refine ⟨h.path, h.pipe, ?_, h.mode, h.event⟩
        change w'.connected _ = true
        rw [h.connected, Function.update_self]
    pathless := hv.pathless
    counter_ge := fun m e => by
      have := h.heldCount hw m e
      have := hw.counter_ge m e
      change _ ≤ w'.inhibitors m e
      omega }

theorem Refused.valid {w w' : World L} (h : Refused w w') (hw : Valid w) : Valid w' :=
  h.toRequested.valid hw (fun m e => Int.le_of_eq (by rw [h.counter])) h.pathless

/-- The lock no longer counts, and every other held lock still does. -/
theorem Released.heldCount {r : InhibitRef} {w w' : World L}
    (h : Released on_changed_event r w w') (hr : r ∈ w.held) (hw : Valid w)
    (m : CkInhibitMode) (e : CkInhibitEvent) :
    (w'.heldCount m e : Int) =
      w.heldCount m e - if m = (w.object r).mode ∧ (w.object r).inhibitors e then 1 else 0 := by
  have herase : w'.heldCount m e = (w.held.erase r).countP
      fun s => (w.object s).mode = m && (w.object s).inhibitors e := by
    unfold World.heldCount
    rw [h.held]
    refine List.countP_congr fun s hs => ?_
    rw [h.object_ne s (fun heq => by
      subst heq
      exact absurd hs (hw.held_nodup.not_mem_erase))]
  rw [herase, List.countP_erase]
  unfold World.heldCount
  by_cases hflag : m = (w.object r).mode ∧ (w.object r).inhibitors e = true
  · obtain ⟨hm, he⟩ := hflag
    have hpos : 0 < w.heldCount m e := heldCount_pos.mpr ⟨r, hr, hm.symm, he⟩
    unfold World.heldCount at hpos
    rw [if_pos ⟨hr, by simp [hm, he]⟩, if_pos ⟨hm, he⟩]
    omega
  · rw [if_neg hflag, if_neg]
    · simp
    · rintro ⟨_, hp⟩
      simp only [Bool.and_eq_true, decide_eq_true_eq] at hp
      exact hflag ⟨hp.1.symm, hp.2⟩

theorem Released.valid {r : InhibitRef} {w w' : World L} (h : Released on_changed_event r w w')
    (hr : r ∈ w.held) (hw : Valid w) : Valid w' := by
  have hmem : ∀ s ∈ w'.held, s ∈ w.held ∧ s ≠ r := by
    intro s hs
    rw [h.held] at hs
    refine ⟨List.mem_of_mem_erase hs, fun heq => ?_⟩
    subst heq
    exact hw.held_nodup.not_mem_erase hs
  exact {
    held_nodup := by rw [h.held]; exact hw.held_nodup.erase r
    list_nodup := hw.list_nodup.sublist h.sublist
    list_lt := fun s hs => by rw [h.next_object]; exact hw.list_lt s (h.sublist.subset hs)
    held_list := fun s hs => by
      obtain ⟨hs, hne⟩ := hmem s hs
      exact h.list_open s (hw.held_list s hs) hne (hw.held_lock s hs).path
    held_lock := fun s hs => by
      obtain ⟨hs, hne⟩ := hmem s hs
      exact (hw.held_lock s hs).congr (h.object_ne s hne)
        (h.connected_open s hne (hw.held_lock s hs).path)
    pathless := by
      intro s hs
      by_cases hsr : s = r
      · subst hsr
        exact h.pipe
      · rw [h.object_ne s hsr] at hs ⊢
        exact hw.pathless s hs
    counter_ge := fun m e => by
      rw [h.heldCount hr hw]
      have hge := hw.counter_ge m e
      by_cases hflag : m = (w.object r).mode ∧ (w.object r).inhibitors e = true
      · rw [if_pos hflag]
        have := h.counter_ge m e
        omega
      · rw [if_neg hflag, h.counter_ne m e hflag]
        omega }

/-! ## Section 7: The steps of the system -/

theorem create_lock_next {w w' : World L} {request : InhibitRequest} {calls : PipeCalls}
    (hn : inhibit_next on_changed_event w (.create_lock request calls) = some w') :
    (request.granted calls = true ∧
      ∃ v, Granted on_changed_event w v ∧ w' = v.hold w.next_object) ∨
    (request.granted calls = false ∧ Refused w w') := by
  simp only [inhibit_next, Option.ite_none_right_eq_some, Option.map_eq_some_iff] at hn
  obtain ⟨_, ⟨v, fd⟩, hcreate, hw'⟩ := hn
  cases hg : request.granted calls with
  | true =>
    obtain ⟨v', fd', hcreate', hfd, hv⟩ :=
      create_lock_granted on_changed_event calls w request hg
    rw [hcreate'] at hcreate
    cases hcreate
    rw [if_pos hfd] at hw'
    left
    exact ⟨rfl, v, hv, hw'.symm⟩
  | false =>
    obtain ⟨v', fd', hcreate', hfd, hv⟩ :=
      create_lock_refused on_changed_event calls w request hg
    rw [hcreate'] at hcreate
    cases hcreate
    rw [if_neg (by omega)] at hw'
    subst hw'
    right
    exact ⟨rfl, hv⟩

theorem pipe_closed_next {w w' : World L} {r : InhibitRef} (hw : Valid w)
    (hn : inhibit_next on_changed_event w (.pipe_closed r) = some w') :
    r ∈ w.held ∧ Released on_changed_event r w w' ∧
    w' = cb_named_pipe_close on_changed_event { w with held := w.held.erase r } r := by
  simp only [inhibit_next, Option.ite_none_right_eq_some] at hn
  obtain ⟨⟨hr, _⟩, hw'⟩ := hn
  cases hw'
  exact ⟨hr, pipe_closed_spec _ hw hr, rfl⟩

theorem inhibit_next_valid {w w' : World L} {l : InhibitLabel} (hw : Valid w)
    (hn : inhibit_next on_changed_event w l = some w') : Valid w' := by
  cases l with
  | create_lock request calls =>
    rcases create_lock_next hn with ⟨_, v, hv, rfl⟩ | ⟨_, hv⟩
    · exact hv.valid hw
    · exact hv.valid hw
  | pipe_closed r =>
    obtain ⟨hr, hreleased, _⟩ := pipe_closed_next hw hn
    exact hreleased.valid hr hw

/-- A step tells the listener of locks taken or of locks released, not of both. -/
theorem inhibit_next_notified {w w' : World L} {l : InhibitLabel} (hw : Valid w)
    (hn : inhibit_next on_changed_event w l = some w') :
    ∃ enabled, Notified on_changed_event enabled w.listener w'.listener := by
  cases l with
  | create_lock request calls =>
    rcases create_lock_next hn with ⟨_, v, hv, rfl⟩ | ⟨_, hv⟩
    · exact ⟨true, hv.notified⟩
    · exact ⟨true, .of_eq hv.listener⟩
  | pipe_closed r =>
    obtain ⟨_, hreleased, _⟩ := pipe_closed_next hw hn
    exact ⟨false, hreleased.notified⟩

/-- A lock that is held after a step was held before, with the same mode and
    events, or is new. -/
theorem inhibit_next_held {w w' : World L} {l : InhibitLabel} (hw : Valid w)
    (hn : inhibit_next on_changed_event w l = some w') :
    w.next_object ≤ w'.next_object ∧
    ∀ r ∈ w'.held, (r ∈ w.held ∧ w'.object r = w.object r) ∨ w.next_object ≤ r := by
  cases l with
  | create_lock request calls =>
    have hold : ∀ v, Requested w v → ∀ r ∈ v.held, r ∈ w.held ∧ v.object r = w.object r := by
      intro v hv r hr
      rw [hv.held] at hr
      exact ⟨hr, hv.object_ne r (Nat.ne_of_lt (hw.held_lt hr))⟩
    rcases create_lock_next hn with ⟨_, v, hv, rfl⟩ | ⟨_, hv⟩
    · refine ⟨Nat.le_trans (Nat.le_succ _) (Nat.le_of_eq hv.next_object.symm), fun r hr => ?_⟩
      rcases List.mem_append.mp hr with hr | hr
      · exact .inl (hold v hv.toRequested r hr)
      · rw [List.mem_singleton.mp hr]
        exact .inr (Nat.le_refl _)
    · exact ⟨Nat.le_trans (Nat.le_succ _) (Nat.le_of_eq hv.next_object.symm),
        fun r hr => .inl (hold w' hv.toRequested r hr)⟩
  | pipe_closed r =>
    obtain ⟨hr, hreleased, _⟩ := pipe_closed_next hw hn
    refine ⟨Nat.le_of_eq hreleased.next_object.symm, fun s hs => .inl ?_⟩
    rw [hreleased.held, hw.held_nodup.mem_erase_iff] at hs
    exact ⟨hs.2, hreleased.object_ne s hs.1⟩

/-- The invariant holds in every reachable state. -/
theorem reachable_valid {start : L → Prop} {w : World L}
    (h : (inhibit_system on_changed_event start).Reachable w) : Valid w :=
  LTS.System.Reachable.invariant
    (I := Valid) (fun _ hi => by obtain ⟨l, _, rfl⟩ := hi; exact init_valid l)
    (fun _ _ _ hi hn => inhibit_next_valid hi hn) h

end steps

end Inhibit
