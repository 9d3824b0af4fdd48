import ConsoleKit.Framework.System
import ConsoleKit.Log.Codec
import Mathlib.Data.List.Chain

/-! # The stream of the event logger

    Model of the file handling of `ck-event-logger.c`.  Before each record the
    writer compares the file that it has open with the one that the name of
    the log stands for, and opens the log anew if they differ.  The old stream
    is closed first, and the field that held it is set when the new one is
    there.

    This module provides:
    - `event_log`: the logger, with the part of the system that it calls,
    - `Lifecycle`: what is asked of the calls it makes,
    - `lifecycle_iff`: the runs that have it.
-/

namespace EventLogger

open Libc Log

/-! ## Section 1: Data -/

/-- What tells files apart. -/
structure FileId where
  st_dev : Nat
  st_ino : Nat
  deriving DecidableEq

abbrev StreamRef := Nat

/-- `CkEventLoggerPrivate`, as far as the writer uses it. -/
structure CkEventLogger where
  fd : Nat
  file : Option StreamRef
  log_filename : CString
  deriving DecidableEq

/-- The calls that are of interest, with what comes of them. -/
inductive Action where
  | fdopen (r : StreamRef) (path : CString)
  /-- `open_log_file` has returned FALSE. -/
  | open_failed
  | fclose (r : StreamRef)
  | fprintf (r : StreamRef) (text : CString)
  deriving DecidableEq

/-- What the calls of `open_log_file` return, in their order.  `g_open` is
    repeated while it fails with ENFILE, which changes nothing. -/
structure OpenCalls where
  mkdir : Bool
  /-- Whether the first `g_open` fails for no other reason than ENOENT. -/
  opens : Bool
  /-- The file that `g_open` makes. -/
  creates : Option FileId
  /-- The last `g_open`. -/
  reopens : Bool
  fd : Nat
  cloexec : Bool
  fchown : Bool
  fdopen : Bool
  deriving DecidableEq

/-- What the calls of `check_file_stream` return.  They may fail for reasons
    of their own. -/
structure CheckCalls where
  fstat_old : Bool
  open_new : Bool
  fstat_new : Bool
  deriving DecidableEq

structure State where
  logger : CkEventLogger
  /-- The file that the name of the log stands for. -/
  log_file : Option FileId
  /-- The descriptors of the daemon. -/
  fds : Nat → Option FileId
  stream_fd : StreamRef → Nat
  next_stream : StreamRef
  /-- The calls, one list for each write; the first is that of the constructor. -/
  history : List (List Action)
  /-- The calls of the present write. -/
  actions : List Action

namespace State

variable (s : State)

/-- All calls up to now. -/
def trace : List Action := s.history.flatten ++ s.actions

def act (a : Action) : State := { s with actions := s.actions ++ [a] }

def setFd (fd : Nat) (file : Option FileId) : State :=
  { s with fds := Function.update s.fds fd file }

/-- The stream has been opened, and not been closed. -/
def is_open (r : StreamRef) : Bool :=
  decide (.fdopen r s.logger.log_filename ∈ s.trace ∧ .fclose r ∉ s.trace)

/-! ## Section 2: The functions -/

/-- `fclose` closes the descriptor, too. -/
def fclose (r : StreamRef) : State := (s.setFd (s.stream_fd r) none).act (.fclose r)

/-- The part of `open_log_file` that ends with a descriptor, if it succeeds. -/
def open_log_fd (c : OpenCalls) : State × Bool :=
  if !c.mkdir then (s, false)
  else if !c.opens then (s, false)
  else
    match s.log_file with
    | some file => (s.setFd c.fd (some file), true)
    | none =>
      match c.creates with
      | none => (s, false)
      | some file =>
        let s := { s with log_file := some file }
        if c.reopens then (s.setFd c.fd (some file), true) else (s, false)

def open_log_file (c : OpenCalls) : State :=
  let (s, opened) := s.open_log_fd c
  if !opened then s.act .open_failed
  else if !c.cloexec then (s.setFd c.fd none).act .open_failed
  else if !c.fchown then (s.setFd c.fd none).act .open_failed
  else if !c.fdopen then
    let s := { s with logger := { s.logger with file := none } }
    (s.setFd c.fd none).act .open_failed
  else
    let r := s.next_stream
    { s with
      logger := { s.logger with file := some r, fd := c.fd }
      next_stream := r + 1
      stream_fd := Function.update s.stream_fd r c.fd }.act (.fdopen r s.logger.log_filename)

def reopen_file_stream (c : OpenCalls) : State :=
  (s.logger.file.elim s s.fclose).open_log_file c

/-- `check_file_stream` finds a reason to reopen the log. -/
def must_reopen (k : CheckCalls) : Bool :=
  match (if k.fstat_old then s.fds s.logger.fd else none) with
  | none => true
  | some old_stats =>
    match (if k.open_new ∧ k.fstat_new then s.log_file else none) with
    | none => true
    | some new_stats =>
        old_stats.st_ino ≠ new_stats.st_ino || old_stats.st_dev ≠ new_stats.st_dev

def check_file_stream (k : CheckCalls) (c : OpenCalls) : State :=
  if s.must_reopen k then s.reopen_file_stream c else s

/-- `str` is the text of the event. -/
def write_log (str : CString) (k : CheckCalls) (c : OpenCalls) : State :=
  let s := s.check_file_stream k c
  -- without a stream there is a warning
  s.logger.file.elim s fun r => s.act (.fprintf r (str ++ cstr "\n"))

/-- The write is over. -/
def written : State := { s with history := s.history ++ [s.actions], actions := [] }

end State

open State

/-! ## Section 3: The logger as a transition system -/

inductive Label where
  | write_log_for_event (event : CkLogEvent) (k : CheckCalls) (c : OpenCalls)
  /-- Somebody puts another file under the name of the log. -/
  | replace (file : FileId)
  /-- Somebody removes the log. -/
  | remove
  /-- The rest of the daemon opens or closes a descriptor. -/
  | descriptor (fd : Nat) (file : Option FileId)

def event_log_next (s : State) : Label → Option State
  | .write_log_for_event event k c =>
      (ck_log_event_to_string event).map fun str => (s.write_log str k c).written
  | .replace file => some { s with log_file := some file }
  | .remove => some { s with log_file := none }
  | .descriptor fd file =>
      if s.logger.file.all fun r => !s.is_open r || fd ≠ s.stream_fd r then
        some (s.setFd fd file)
      else none

/-- The logger before its constructor has opened the log. -/
def blank (log_filename : CString) (log_file : Option FileId) (fds : Nat → Option FileId) :
    State where
  logger := ⟨0, none, log_filename⟩
  log_file := log_file
  fds := fds
  stream_fd := fun _ => 0
  next_stream := 0
  history := []
  actions := []

/-- There is no writer thread unless the constructor opens the log. -/
def event_log : LTS.System State Label where
  init := fun s => ∃ log_filename log_file fds c,
    s = ((blank log_filename log_file fds).open_log_file c).written ∧ s.logger.file ≠ none
  next := event_log_next

/-! ## Section 4: What is asked of a run -/

/-- A stream may be written to, or closed, after these calls. -/
def Usable (log_filename : CString) (trace : List Action) (r : StreamRef) : Prop :=
  .fdopen r log_filename ∈ trace ∧ .fclose r ∉ trace

/-- The calls for streams are made for open ones only, so that none is closed
    twice, and the write after one that could not open the log tries it again. -/
structure Lifecycle (log_filename : CString) (history : List (List Action)) : Prop where
  writes_open : ∀ before r text after, history.flatten = before ++ .fprintf r text :: after →
    Usable log_filename before r
  closes_once : ∀ before r after, history.flatten = before ++ .fclose r :: after →
    .fclose r ∉ before ∧ .fclose r ∉ after
  tries_again : history.IsChain fun last next => .open_failed ∈ last →
    .open_failed ∈ next ∨ ∃ r, .fdopen r log_filename ∈ next

/-- `open_log_file` gets as far as `fdopen`. -/
def State.reaches_fdopen (s : State) (c : OpenCalls) : Bool :=
  (s.open_log_fd c).2 && c.cloexec && c.fchown

/-- If there is a stream and the log is reopened, this goes as far as
    `fdopen`.  If there is none, the log is reopened. -/
def State.Orderly (s : State) : Label → Prop
  | .write_log_for_event _ k c =>
      (s.logger.file ≠ none → s.must_reopen k = true → s.reaches_fdopen c = true) ∧
      (s.logger.file = none → s.must_reopen k = true)
  | _ => True

/-! ## Section 5: Calls one after another -/

def Allowed (log_filename : CString) (done : List Action) : Action → Prop
  | .fprintf r _ => Usable log_filename done r
  | .fclose r => .fclose r ∉ done
  | _ => True

/-- Each call is allowed after the ones before it. -/
def Sound (log_filename : CString) : List Action → List Action → Prop
  | _, [] => True
  | done, a :: as => Allowed log_filename done a ∧ Sound log_filename (done ++ [a]) as

section
variable {log_filename : CString}

theorem sound_append {done as bs : List Action} :
    Sound log_filename done (as ++ bs) ↔
      Sound log_filename done as ∧ Sound log_filename (done ++ as) bs := by
  induction as generalizing done with
  | nil => simp [Sound]
  | cons a as ih =>
    rw [List.cons_append, Sound, Sound, ih, and_assoc, List.append_assoc, List.singleton_append]

theorem Sound.allowed {tr before after : List Action} {a : Action}
    (h : Sound log_filename [] tr) (heq : tr = before ++ a :: after) :
    Allowed log_filename before a := by
  rw [heq, sound_append] at h
  exact h.2.1

/-- A call that was allowed every time it was made is made once. -/
theorem Sound.lifecycle {history : List (List Action)}
    (h : Sound log_filename [] history.flatten)
    (htries : history.IsChain fun last next => .open_failed ∈ last →
      .open_failed ∈ next ∨ ∃ r, .fdopen r log_filename ∈ next) :
    Lifecycle log_filename history where
  writes_open := fun before r text after heq => h.allowed heq
  closes_once := by
    intro before r after heq
    refine ⟨h.allowed heq, fun hin => ?_⟩
    obtain ⟨before', after', rfl⟩ := List.append_of_mem hin
    -- The later one comes after this one.
    have hlater : Allowed log_filename (before ++ .fclose r :: before') (.fclose r) :=
      h.allowed (by rw [heq, List.append_assoc, List.cons_append])
    exact hlater (List.mem_append_right _ (List.mem_cons_self ..))
  tries_again := htries

end

/-! ## Section 6: What a write does -/

namespace State

@[simp] theorem trace_act (s : State) (a : Action) : (s.act a).trace = s.trace ++ [a] := by
  rw [trace, trace, act, ← List.append_assoc]

@[simp] theorem trace_setFd (s : State) (fd : Nat) (file : Option FileId) :
    (s.setFd fd file).trace = s.trace := rfl

/-- The descriptors and the name of the log are all that changes until
    `fdopen`. -/
theorem open_log_fd_frame (s : State) (c : OpenCalls) :
    (s.open_log_fd c).1.logger = s.logger ∧ (s.open_log_fd c).1.actions = s.actions ∧
      (s.open_log_fd c).1.history = s.history ∧
      (s.open_log_fd c).1.next_stream = s.next_stream := by
  have hsame : s.logger = s.logger ∧ s.actions = s.actions ∧ s.history = s.history ∧
      s.next_stream = s.next_stream := ⟨rfl, rfl, rfl, rfl⟩
  unfold open_log_fd
  split
  · exact hsame
  · split
    · exact hsame
    · cases s.log_file with
      | some file => exact hsame
      | none =>
        cases c.creates with
        | none => exact hsame
        | some file =>
          cases c.reopens with
          | true => exact hsame
          | false => exact hsame

/-- What `open_log_file` leaves: the field is only set when `fdopen` has been
    called. -/
theorem open_log_file_outcome (s : State) (c : OpenCalls) :
    (s.open_log_file c).logger.log_filename = s.logger.log_filename ∧
    (s.open_log_file c).history = s.history ∧
    ((s.reaches_fdopen c = false ∧ (s.open_log_file c).actions = s.actions ++ [.open_failed] ∧
        (s.open_log_file c).logger.file = s.logger.file ∧
        (s.open_log_file c).next_stream = s.next_stream) ∨
      (s.reaches_fdopen c = true ∧ (s.open_log_file c).actions = s.actions ++ [.open_failed] ∧
        (s.open_log_file c).logger.file = none ∧
        (s.open_log_file c).next_stream = s.next_stream) ∨
      (s.reaches_fdopen c = true ∧ (s.open_log_file c).actions =
          s.actions ++ [.fdopen s.next_stream s.logger.log_filename] ∧
        (s.open_log_file c).logger.file = some s.next_stream ∧
        (s.open_log_file c).next_stream = s.next_stream + 1)) := by
  obtain ⟨hlogger, hactions, hhistory, hnext⟩ := s.open_log_fd_frame c
  unfold open_log_file reaches_fdopen
  -- From here on the calls after the descriptor alone decide, in their order.
  generalize s.open_log_fd c = r at *
  obtain ⟨t, opened⟩ := r
  dsimp only at *
  cases opened with
  | false => simp [act, hlogger, hactions, hhistory, hnext]
  | true =>
    cases hcloexec : c.cloexec with
    | false => simp [act, setFd, hlogger, hactions, hhistory, hnext]
    | true =>
      cases hfchown : c.fchown with
      | false => simp [act, setFd, hlogger, hactions, hhistory, hnext]
      | true =>
        cases hfdopen : c.fdopen with
        -- `fdopen` returns NULL, and this is what is stored.
        | false => simp [act, setFd, hlogger, hactions, hhistory, hnext]
        | true => simp [act, hlogger, hactions, hhistory, hnext]

/-- There is a descriptor if the directory is there, and the log is or can be
    made. -/
theorem open_log_fd_snd (s : State) (c : OpenCalls) : (s.open_log_fd c).2 =
    (c.mkdir && c.opens && (s.log_file.isSome || c.creates.isSome && c.reopens)) := by
  unfold open_log_fd
  cases c.mkdir with
  | false => rfl
  | true =>
    cases c.opens with
    | false => rfl
    | true =>
      cases s.log_file with
      | some file => rfl
      | none =>
        cases c.creates with
        | none => rfl
        | some file =>
          cases c.reopens with
          | true => rfl
          | false => rfl

/-- Whether it gets to `fdopen` does not depend on the old stream. -/
theorem reaches_fdopen_fclose (s : State) (r : StreamRef) (c : OpenCalls) :
    (s.fclose r).reaches_fdopen c = s.reaches_fdopen c := by
  rw [reaches_fdopen, reaches_fdopen, open_log_fd_snd, open_log_fd_snd]
  rfl

/-! ## Section 7: The invariant -/

/-- The streams that have been named are below the next one. -/
def Below (log_filename : CString) (trace : List Action) (next_stream : StreamRef) : Prop :=
  ∀ r, .fdopen r log_filename ∈ trace ∨ .fclose r ∈ trace → r < next_stream

/-- Between two writes: there is a stream unless the last write could not open
    the log, and it can be used. -/
structure Valid (s : State) : Prop where
  between : s.actions = []
  sound : Sound s.logger.log_filename [] s.history.flatten
  tries : s.history.IsChain fun last next => .open_failed ∈ last →
    .open_failed ∈ next ∨ ∃ r, .fdopen r s.logger.log_filename ∈ next
  usable : ∀ r, s.logger.file = some r → Usable s.logger.log_filename s.history.flatten r
  below : Below s.logger.log_filename s.history.flatten s.next_stream
  last : ∃ last, s.history.getLast? = some last ∧
    (.open_failed ∈ last ↔ s.logger.file = none)

/-- In the course of a write that has begun in `s`. -/
structure Writing (s t : State) : Prop where
  name : t.logger.log_filename = s.logger.log_filename
  history : t.history = s.history
  sound : Sound s.logger.log_filename s.history.flatten t.actions
  usable : ∀ r, t.logger.file = some r →
    Usable s.logger.log_filename (s.history.flatten ++ t.actions) r
  below : Below s.logger.log_filename (s.history.flatten ++ t.actions) t.next_stream
  failed : .open_failed ∈ t.actions ↔ t.logger.file = none
  tried : s.logger.file = none →
    .open_failed ∈ t.actions ∨ ∃ r, .fdopen r s.logger.log_filename ∈ t.actions

theorem Valid.lifecycle {s : State} (h : s.Valid) :
    Lifecycle s.logger.log_filename s.history := h.sound.lifecycle h.tries

/-- A stream that has just been opened is a new one. -/
theorem usable_new {log_filename : CString} {trace : List Action} {next_stream : StreamRef}
    (h : Below log_filename trace next_stream) :
    Usable log_filename (trace ++ [.fdopen next_stream log_filename]) next_stream := by
  refine ⟨List.mem_append_right _ (List.mem_singleton.mpr rfl), fun hin => ?_⟩
  rcases List.mem_append.mp hin with hin | hin
  · exact Nat.lt_irrefl _ (h _ (.inr hin))
  · cases List.mem_singleton.mp hin

theorem Below.opened {log_filename : CString} {trace : List Action} {next_stream : StreamRef}
    (h : Below log_filename trace next_stream) :
    Below log_filename (trace ++ [.fdopen next_stream log_filename]) (next_stream + 1) := by
  intro r hin
  simp only [List.mem_append, List.mem_singleton, Action.fdopen.injEq, and_true, reduceCtorEq,
    or_false] at hin
  rcases hin with (hin | rfl) | hin
  · exact Nat.lt_succ_of_lt (h r (.inl hin))
  · exact Nat.lt_succ_self _
  · exact Nat.lt_succ_of_lt (h r (.inr hin))

theorem Below.of_other {log_filename : CString} {trace : List Action} {next_stream : StreamRef}
    (h : Below log_filename trace next_stream) {a : Action}
    (ha : ∀ r, a ≠ .fdopen r log_filename ∧ a ≠ .fclose r) :
    Below log_filename (trace ++ [a]) next_stream := by
  intro r hin
  refine h r (hin.imp (fun hin => ?_) fun hin => ?_)
  · rcases List.mem_append.mp hin with hin | hin
    · exact hin
    · exact absurd (List.mem_singleton.mp hin).symm (ha r).1
  · rcases List.mem_append.mp hin with hin | hin
    · exact hin
    · exact absurd (List.mem_singleton.mp hin).symm (ha r).2

/-- Opening the log, after the old stream is closed.  When this fails before
    `fdopen`, there was no stream. -/
theorem writing_open {s t : State} {c : OpenCalls}
    (hname : t.logger.log_filename = s.logger.log_filename) (hhistory : t.history = s.history)
    (hsound : Sound s.logger.log_filename s.history.flatten t.actions)
    (hbelow : Below s.logger.log_filename (s.history.flatten ++ t.actions) t.next_stream)
    (hbefore : .open_failed ∉ t.actions)
    (hreach : t.logger.file = none ∨ t.reaches_fdopen c = true) :
    Writing s (t.open_log_file c) := by
  obtain ⟨hname', hhistory', hcases⟩ := t.open_log_file_outcome c
  -- Both failures leave no stream.
  have hfails : ∀ {u : State}, u.logger.log_filename = t.logger.log_filename →
      u.history = t.history → u.actions = t.actions ++ [.open_failed] → u.logger.file = none →
      u.next_stream = t.next_stream → Writing s u := by
    intro u hun huh hactions hfile hnext
    have hin : .open_failed ∈ u.actions := by simp [hactions]
    refine ⟨hun.trans hname, huh.trans hhistory, ?_, ?_, ?_, ⟨fun _ => hfile, fun _ => hin⟩,
      fun _ => .inl hin⟩
    · rw [hactions, sound_append]
      exact ⟨hsound, trivial, trivial⟩
    · intro r hr
      rw [hfile] at hr
      cases hr
    · rw [hactions, hnext, ← List.append_assoc]
      exact hbelow.of_other fun r => ⟨nofun, nofun⟩
  rcases hcases with ⟨hearly, hactions, hfile, hnext⟩ | ⟨_, hactions, hfile, hnext⟩ |
    ⟨_, hactions, hfile, hnext⟩
  · have hnone : t.logger.file = none := by
      refine hreach.resolve_right fun hreached => ?_
      rw [hearly] at hreached
      cases hreached
    exact hfails hname' hhistory' hactions (hfile.trans hnone) hnext
  · exact hfails hname' hhistory' hactions hfile hnext
  · rw [hname] at hactions
    refine ⟨hname'.trans hname, hhistory'.trans hhistory, ?_, ?_, ?_, ?_, ?_⟩
    · rw [hactions, sound_append]
      exact ⟨hsound, trivial, trivial⟩
    · intro r hr
      obtain rfl := Option.some.inj (hfile.symm.trans hr)
      rw [hactions, ← List.append_assoc]
      exact usable_new hbelow
    · rw [hactions, hnext, ← List.append_assoc]
      exact hbelow.opened
    · rw [hactions, hfile]
      simp [hbefore]
    · rw [hactions]
      exact fun _ => .inr ⟨_, List.mem_append_right _ (List.mem_singleton.mpr rfl)⟩

/-- The first call of a write that closes the old stream. -/
theorem Valid.fclose_actions {s : State} (h : s.Valid) (r : StreamRef) :
    (s.fclose r).actions = [.fclose r] := by
  show s.actions ++ [.fclose r] = [.fclose r]
  rw [h.between, List.nil_append]

/-- An orderly check leaves a stream that can be used, or none. -/
theorem Valid.check {s : State} (h : s.Valid) {k : CheckCalls} {c : OpenCalls}
    (hreach : s.logger.file ≠ none → s.must_reopen k = true → s.reaches_fdopen c = true)
    (hretry : s.logger.file = none → s.must_reopen k = true) :
    Writing s (s.check_file_stream k c) := by
  have hbetween := h.between
  unfold check_file_stream
  split
  · rename_i hmust
    unfold reopen_file_stream
    cases hfile : s.logger.file with
    | none =>
      -- There is no stream to close, and the open is the first call of the write.
      refine writing_open rfl rfl ?_ ?_ ?_ (.inl hfile)
      · rw [Option.elim_none, hbetween]
        trivial
      · rw [Option.elim_none, hbetween, List.append_nil]
        exact h.below
      · rw [Option.elim_none, hbetween]
        exact List.not_mem_nil
    | some r =>
      have husable := h.usable r hfile
      have hactions := h.fclose_actions r
      rw [Option.elim_some]
      refine writing_open rfl rfl ?_ ?_ ?_ (.inr ?_)
      · rw [hactions]
        exact ⟨husable.2, trivial⟩
      · -- The closed stream was open, and is below the next one.
        rw [hactions]
        intro r' hin
        simp only [List.mem_append, List.mem_singleton, reduceCtorEq, or_false,
          Action.fclose.injEq] at hin
        rcases hin with hin | hin | rfl
        · exact h.below r' (.inl hin)
        · exact h.below r' (.inr hin)
        · exact h.below r' (.inl husable.1)
      · rw [hactions]
        exact fun hin => by cases List.mem_singleton.mp hin
      · -- This is where the step has to be orderly: there is a stream in the field,
        -- and the open must come to set it.
        rw [reaches_fdopen_fclose]
        exact hreach (by rw [hfile]; exact Option.some_ne_none r) hmust
  · rename_i hkeep
    -- The stream is kept. Without one the log would have been reopened.
    have hfile : s.logger.file ≠ none := fun hnone => hkeep (hretry hnone)
    refine ⟨rfl, rfl, ?_, ?_, ?_, ?_, fun hnone => absurd hnone hfile⟩
    · rw [hbetween]
      trivial
    · intro r hr
      rw [hbetween, List.append_nil]
      exact h.usable r hr
    · rw [hbetween, List.append_nil]
      exact h.below
    · rw [hbetween]
      exact ⟨fun hin => absurd hin List.not_mem_nil, fun hnone => absurd hnone hfile⟩

/-- The record goes to the stream, if there is one. -/
theorem Writing.record {s t : State} (h : Writing s t) (text : CString) :
    Writing s (t.logger.file.elim t fun r => t.act (.fprintf r text)) := by
  cases hfile : t.logger.file with
  | none => exact h
  | some r =>
    rw [Option.elim_some]
    have hactions : (t.act (.fprintf r text)).actions = t.actions ++ [.fprintf r text] := rfl
    refine ⟨h.name, h.history, ?_, ?_, ?_, ?_, ?_⟩
    · rw [hactions, sound_append]
      exact ⟨h.sound, h.usable r hfile, trivial⟩
    · -- A record closes no stream.
      intro r' hr'
      obtain ⟨hopened, hclosed⟩ := h.usable r' hr'
      rw [hactions, ← List.append_assoc]
      refine ⟨List.mem_append_left _ hopened, fun hin => ?_⟩
      rcases List.mem_append.mp hin with hin | hin
      · exact hclosed hin
      · cases List.mem_singleton.mp hin
    · rw [hactions, ← List.append_assoc]
      exact h.below.of_other fun r => ⟨nofun, nofun⟩
    · show .open_failed ∈ (t.act _).actions ↔ t.logger.file = none
      rw [hactions]
      simpa using h.failed
    · intro hnone
      rw [hactions]
      exact (h.tried hnone).imp (List.mem_append_left _)
        fun ⟨r', hr'⟩ => ⟨r', List.mem_append_left _ hr'⟩

/-- The end of a write. -/
theorem Valid.written {s t : State} (h : s.Valid) (hw : Writing s t) : t.written.Valid := by
  obtain ⟨last, hlast, hfailed⟩ := h.last
  have hflatten : t.written.history.flatten = s.history.flatten ++ t.actions := by
    show (t.history ++ [t.actions]).flatten = _
    rw [hw.history, List.flatten_append, List.flatten_singleton]
  have hname : t.written.logger.log_filename = s.logger.log_filename := hw.name
  constructor
  case between => rfl
  case sound =>
    rw [hname, hflatten, sound_append]
    exact ⟨h.sound, hw.sound⟩
  case tries =>
    show (t.history ++ [t.actions]).IsChain _
    rw [hname, hw.history, List.isChain_append]
    -- If the last write could not open the log, it has left no stream, and then
    -- this write has tried.
    refine ⟨h.tries, List.isChain_singleton _, fun last' hlast' next hnext hin => ?_⟩
    obtain rfl := Option.some.inj (hlast.symm.trans hlast')
    obtain rfl := Option.some.inj hnext
    exact hw.tried (hfailed.mp hin)
  case usable =>
    rw [hname, hflatten]
    exact hw.usable
  case below =>
    rw [hname, hflatten]
    exact hw.below
  case last =>
    refine ⟨t.actions, ?_, hw.failed⟩
    show (t.history ++ [t.actions]).getLast? = _
    rw [List.getLast?_concat]

/-- **Step lemma** -/
theorem Valid.step {s s' : State} (h : s.Valid) {l : Label} (hok : s.Orderly l)
    (hn : event_log_next s l = some s') : s'.Valid := by
  cases l with
  | write_log_for_event event k c =>
    obtain ⟨str, _, rfl⟩ := Option.map_eq_some_iff.mp hn
    -- A write is a check and a record.
    exact h.written ((h.check hok.1 hok.2).record _)
  | replace file =>
    rw [← Option.some.inj hn]
    exact ⟨h.between, h.sound, h.tries, h.usable, h.below, h.last⟩
  | remove =>
    rw [← Option.some.inj hn]
    exact ⟨h.between, h.sound, h.tries, h.usable, h.below, h.last⟩
  | descriptor fd file =>
    rw [← Option.some.inj (Option.ite_none_right_eq_some.mp hn).2]
    exact ⟨h.between, h.sound, h.tries, h.usable, h.below, h.last⟩

/-- A reopen that does not get to `fdopen` leaves the closed stream in its
    field, and the record goes there. -/
theorem Valid.writes_closed {s : State} (h : s.Valid) {r : StreamRef}
    (hfile : s.logger.file = some r) {k : CheckCalls} (hmust : s.must_reopen k = true)
    {c : OpenCalls} (hearly : s.reaches_fdopen c = false) (str : CString) :
    ((s.write_log str k c).written).logger.log_filename = s.logger.log_filename ∧
      (s.write_log str k c).written.history =
        s.history ++ [[.fclose r, .open_failed, .fprintf r (str ++ cstr "\n")]] := by
  have hreopen : s.check_file_stream k c = (s.fclose r).open_log_file c := by
    rw [check_file_stream, if_pos hmust, reopen_file_stream, hfile, Option.elim_some]
  obtain ⟨hname, hhistory, ⟨_, hactions, hstays, _⟩ | ⟨hreached, _⟩ | ⟨hreached, _⟩⟩ :=
    (s.fclose r).open_log_file_outcome c
  · have hfile' : ((s.fclose r).open_log_file c).logger.file = some r := hstays.trans hfile
    rw [write_log, hreopen, hfile', Option.elim_some]
    refine ⟨hname, ?_⟩
    show ((s.fclose r).open_log_file c).history ++
      [((s.fclose r).open_log_file c).actions ++ [.fprintf r (str ++ cstr "\n")]] = _
    rw [hhistory, hactions, h.fclose_actions]
    rfl
  · -- The other outcomes of the open come after `fdopen`.
    rw [reaches_fdopen_fclose, hearly] at hreached
    cases hreached
  · rw [reaches_fdopen_fclose, hearly] at hreached
    cases hreached

theorem Valid.not_lifecycle {s s' : State} (h : s.Valid) {l : Label} (hbad : ¬ s.Orderly l)
    (hn : event_log_next s l = some s') : ¬ Lifecycle s'.logger.log_filename s'.history := by
  cases l with
  | replace | remove | descriptor => exact absurd trivial hbad
  | write_log_for_event event k c =>
    obtain ⟨str, _, rfl⟩ := Option.map_eq_some_iff.mp hn
    intro hlife
    cases hfile : s.logger.file with
    | some r =>
      have hsome : s.logger.file ≠ none := by
        rw [hfile]
        exact Option.some_ne_none r
      by_cases hmust : s.must_reopen k = true
      · cases hreach : s.reaches_fdopen c with
        | true => exact hbad ⟨fun _ _ => hreach, fun hnone => absurd hnone hsome⟩
        | false =>
          -- The record is behind the `fclose` of the stream that it goes to.
          obtain ⟨hname, hhistory⟩ := h.writes_closed hfile hmust hreach str
          rw [hname, hhistory] at hlife
          have husable := hlife.writes_open (s.history.flatten ++ [.fclose r, .open_failed]) r
            (str ++ cstr "\n") [] (by simp)
          exact husable.2 (by simp)
      · exact hbad ⟨fun _ hreopen => absurd hreopen hmust, fun hnone => absurd hnone hsome⟩
    | none =>
      by_cases hmust : s.must_reopen k = true
      · exact hbad ⟨fun hsome => absurd hfile hsome, fun _ => hmust⟩
      · -- The last write could not open the log, and this one makes no call.
        have hkeep : (s.write_log str k c).written = s.written := by
          rw [write_log, check_file_stream, if_neg hmust, hfile, Option.elim_none]
        have hhistory : s.written.history = s.history ++ [[]] := by
          show s.history ++ [s.actions] = _
          rw [h.between]
        rw [hkeep, hhistory] at hlife
        obtain ⟨last, hlast, hfailed⟩ := h.last
        have htry := (List.isChain_append.mp hlife.tries_again).2.2 last hlast [] rfl
          (hfailed.mpr hfile)
        rcases htry with hin | ⟨r, hin⟩
        · exact List.not_mem_nil hin
        · exact List.not_mem_nil hin

theorem valid_init {s : State} (h : event_log.init s) : s.Valid := by
  obtain ⟨log_filename, log_file, fds, c, rfl, hfile⟩ := h
  obtain ⟨hname, hhistory, ⟨_, _, hstays, _⟩ | ⟨_, _, hnone, _⟩ |
    ⟨_, hactions, hopened, hnext⟩⟩ := (blank log_filename log_file fds).open_log_file_outcome c
  · -- The constructor starts without a stream, so that any failure leaves none, and
    -- there is no writer.
    exact absurd hstays hfile
  · exact absurd hnone hfile
  · generalize (blank log_filename log_file fds).open_log_file c = t at *
    have hbelow : Below log_filename [] 0 := nofun
    have hlist : t.written.history = [[.fdopen 0 log_filename]] := by
      show t.history ++ [t.actions] = _
      rw [hhistory, hactions]
      rfl
    have hname' : t.written.logger.log_filename = log_filename := hname
    have hfile' : t.written.logger.file = some 0 := hopened
    constructor
    case between => rfl
    case sound =>
      rw [hlist]
      exact ⟨trivial, trivial⟩
    case tries =>
      rw [hlist]
      exact List.isChain_singleton _
    case usable =>
      intro r hr
      obtain rfl := Option.some.inj (hfile'.symm.trans hr)
      rw [hlist, hname']
      exact usable_new hbelow
    case below =>
      rw [hlist, hname']
      show Below log_filename _ t.next_stream
      rw [hnext]
      exact hbelow.opened
    case last =>
      refine ⟨[.fdopen 0 log_filename], by rw [hlist]; rfl, ?_⟩
      rw [hfile']
      simp

/-! ## Section 8: The runs with the lifecycle -/

theorem Valid.lifecycle_iff_orderly {s s' : State} (h : s.Valid) {l : Label}
    (hn : event_log_next s l = some s') :
    Lifecycle s'.logger.log_filename s'.history ↔ s.Orderly l :=
  ⟨fun hlife => by_contra fun hbad => h.not_lifecycle hbad hn hlife,
    fun hok => (h.step hok hn).lifecycle⟩

end State

/-- The logger keeps to the lifecycle of its streams along a run if and only
    if no reopen of a stream fails before `fdopen`, and no descriptor number
    that is left of a closed stream comes to stand for the log. -/
theorem lifecycle_iff {s : State} (h : event_log.init s) (ls : List Label) :
    event_log.Along (fun _ _ s' => Lifecycle s'.logger.log_filename s'.history) s ls ↔
      event_log.Along (fun s l _ => s.Orderly l) s ls :=
  LTS.System.along_congr (fun _ _ _ hv hn => hv.lifecycle_iff_orderly hn)
    (fun _ _ _ hv hn hlife => hv.step ((hv.lifecycle_iff_orderly hn).mp hlife) hn)
    (valid_init h) ls

/-- All calls succeed, and the descriptor is 3. -/
def all_succeed : OpenCalls := ⟨true, true, some ⟨1, 9⟩, true, 3, true, true, true⟩

/-- A logger with its log open. -/
def opened_log : State :=
  ((blank (cstr "history") (some ⟨1, 7⟩) fun _ => none).open_log_file all_succeed).written

theorem opened_log_init : event_log.init opened_log :=
  ⟨_, _, _, all_succeed, rfl, Option.some_ne_none 0⟩

/-- The log is rotated, and the next write opens the new one. -/
theorem rotated_log_lifecycle :
    event_log.Along (fun _ _ s' => Lifecycle s'.logger.log_filename s'.history) opened_log
      [.replace ⟨1, 8⟩,
        .write_log_for_event ⟨.system_stop, ⟨0, 0⟩⟩ ⟨true, true, true⟩ all_succeed] := by
  refine (lifecycle_iff opened_log_init _).mpr fun s' hs' => ⟨trivial, ?_⟩
  obtain rfl := Option.some.inj hs'
  exact fun _ _ => ⟨⟨fun _ _ => rfl, fun hnone => by cases hnone⟩, trivial⟩

/-- A write that cannot make a new log. -/
def write_without_log : Label :=
  .write_log_for_event ⟨.system_stop, ⟨0, 0⟩⟩ ⟨true, true, true⟩
    { all_succeed with creates := none }

theorem removed_log_written :
    ¬ event_log.Along (fun _ _ s' => Lifecycle s'.logger.log_filename s'.history) opened_log
      [.remove, write_without_log] := by
  intro h
  have hremoved := (valid_init opened_log_init).step (l := .remove) trivial rfl
  refine hremoved.not_lifecycle (l := write_without_log) (fun hok => ?_) rfl ((h _ rfl).2 _ rfl).1
  exact absurd (hok.1 (Option.some_ne_none 0) rfl) (by decide)

end EventLogger
