import ConsoleKit.Framework.Journal
import ConsoleKit.Framework.Lines
import ConsoleKit.Log.Queue
import ConsoleKit.Log.Stream
import Mathlib.Data.Fintype.EquivFin

/-! # The files of the event logger

    The two threads of the logger, with the stream that the writer writes to
    and the files on the disk.  Somebody rotates the log meanwhile: the file
    gets a number, and may be compressed or removed later.  The writer looks
    for another file before each record, but the log may be rotated between
    that and the record.

    This module provides:
    - `log_files`: the logger and its files, as one system,
    - `Kept`: when nothing of the log gets lost,
    - `log_files_in_order`: what the files hold, one behind the other.
-/

namespace EventLogger

namespace Files

open Libc Log

/-! ## Section 1: The system -/

/-- An earlier part of the log. -/
inductive Part where
  | plain (file : FileId)
  /-- A compressed part, with the text after decompression. -/
  | gz (text : List Char)
  deriving DecidableEq

namespace Part

def text (contents : FileId → List Char) : Part → List Char
  | plain file => contents file
  | gz text => text

def file? : Part → Option FileId
  | plain file => some file
  | gz _ => none

end Part

structure State where
  queue : Queue.State
  stream : EventLogger.State
  contents : FileId → List Char
  /-- The parts with numbers, the newest first. -/
  rotated : List Part
  /-- The texts of the parts that have been removed. -/
  expired : List (List Char)
  /-- The writer has called `check_file_stream` for the event that it has. -/
  checked : Bool
  /-- What the files held when the log was opened. -/
  initial : List Char

namespace State

variable (s : State)

/-- The parts of the log, the newest first. -/
def parts : List Part := (s.stream.log_file.map Part.plain).toList ++ s.rotated

def inodes : List FileId := s.parts.filterMap Part.file?

/-- The text of every part that there ever was, the newest first. -/
def texts : List (List Char) := s.parts.map (Part.text s.contents) ++ s.expired

def whole : List Char := s.texts.reverse.flatten

/-- The file that the writer has open. -/
def open_file : Option FileId :=
  s.stream.logger.file.bind fun r => s.stream.fds (s.stream.stream_fd r)

/-- A file that does not exist yet; the number of one that is open is not
    used again. -/
def Fresh (file : FileId) : Prop := file ∉ s.inodes ∧ s.open_file ≠ some file

instance (file : FileId) : Decidable (s.Fresh file) := inferInstanceAs (Decidable (_ ∧ _))

/-- The part of `write_log_for_event` before the record.  A log that
    `open_log_file` makes is empty. -/
def check_file_stream (k : CheckCalls) (c : OpenCalls) : State :=
  let stream := s.stream.check_file_stream k c
  let contents :=
    match s.stream.log_file, stream.log_file with
    | none, some file => Function.update s.contents file []
    | _, _ => s.contents
  { s with stream, contents, checked := true }

/-- The record of the event, which is appended to the file. -/
def fprintf (text : CString) : State :=
  match s.stream.logger.file with
  | none => { s with stream := s.stream.written }
  | some r =>
    let stream := (s.stream.act (.fprintf r text)).written
    match s.stream.fds (s.stream.stream_fd r) with
    | none => { s with stream }
    | some file =>
        { s with stream, contents := Function.update s.contents file (s.contents file ++ text) }

/-- The rest of `write_log_for_event`. -/
def record (event : Addr) : Option State := do
  let e ← s.queue.memory.load event
  let str ← ck_log_event_to_string e
  let queue ← s.queue.writer_thread_start
  return { s.fprintf (str ++ cstr "\n") with queue, checked := false }

/-- A file with no text gets the name of the log. -/
def create (file : FileId) : State :=
  { s with
    stream := { s.stream with log_file := some file }
    contents := Function.update s.contents file [] }

/-- The log gets the number one, and each numbered part the next number. -/
def rotate (file : FileId) : State :=
  { s with
    stream := { s.stream with log_file := none }
    rotated := .plain file :: s.rotated }

def compress (i : Nat) (file : FileId) : State :=
  { s with rotated := s.rotated.set i (.gz (s.contents file)) }

/-- The oldest part is removed. -/
def expire (part : Part) : State :=
  { s with rotated := s.rotated.dropLast, expired := part.text s.contents :: s.expired }

end State

inductive Label where
  /-- A step of the threads that is no call of `write_log_for_event`. -/
  | thread (l : Queue.Label)
  | check_file_stream (k : CheckCalls) (c : OpenCalls)
  | record
  | create (file : FileId)
  | rotate
  | compress (i : Nat)
  | expire
  /-- The rest of the daemon opens or closes a descriptor. -/
  | descriptor (fd : Nat) (file : Option FileId)

/-- The writer has an event to write. -/
def writing (s : State) : Option Addr :=
  match s.queue.writer_thread with
  | .popped event => some event
  | _ => none

def log_files_next (s : State) : Label → Option State
  | .thread .writer =>
      if writing s = none then s.queue.writer_thread_start.map fun queue => { s with queue }
      else none
  | .thread l => (Queue.log_queue_next s.queue l).map fun queue => { s with queue }
  | .check_file_stream k c =>
      if writing s ≠ none ∧ s.checked = false then some (s.check_file_stream k c) else none
  | .record => if s.checked then (writing s).bind s.record else none
  | .create file =>
      if s.stream.log_file = none ∧ s.Fresh file then some (s.create file) else none
  | .rotate => s.stream.log_file.map s.rotate
  | .compress i =>
    match s.rotated[i]? with
    | some (.plain file) => some (s.compress i file)
    | _ => none
  | .expire => s.rotated.getLast?.map s.expire
  | .descriptor fd file =>
      if s.stream.logger.file.all fun r => fd ≠ s.stream.stream_fd r then
        some { s with stream := s.stream.setFd fd file }
      else none

/-- The log has just been opened, and its files hold whole lines. -/
structure Init (s : State) : Prop where
  queue : Queue.log_queue.init s.queue
  stream : event_log.init s.stream
  unchecked : s.checked = false
  initial : s.initial = s.whole
  inodes : s.inodes.Nodup
  lines : ∀ t ∈ s.texts, Whole t

def log_files : LTS.System State Label where
  init := Init
  next := log_files_next

/-- All calls of `open_log_file` succeed. -/
structure Succeeds (s : State) (c : OpenCalls) : Prop where
  reaches_fdopen : s.stream.reaches_fdopen c = true
  fdopen : c.fdopen = true
  creates : s.stream.log_file = none → ∀ file, c.creates = some file → s.Fresh file

/-- The log is opened when it has to be, and no file is compressed or removed
    that the writer is about to write to. -/
def Kept (s : State) : Label → Prop
  | .check_file_stream k c => s.stream.must_reopen k = true → Succeeds s c
  | .compress i => s.checked = true → ∀ file, s.rotated[i]? = some (.plain file) →
      s.open_file ≠ some file
  | .expire => s.checked = true → ∀ file, s.rotated.getLast? = some (.plain file) →
      s.open_file ≠ some file
  | _ => True

/-! ## Section 2: Opening the log -/

theorem open_log_fd_opens {t : EventLogger.State} {c : OpenCalls}
    (h : (t.open_log_fd c).2 = true) : ∃ file, (t.open_log_fd c).1.log_file = some file ∧
      (t.open_log_fd c).1.fds c.fd = some file ∧
      (t.log_file = some file ∨ t.log_file = none ∧ c.creates = some file) := by
  unfold EventLogger.State.open_log_fd at h ⊢
  split at h
  · cases h
  split at h
  · cases h
  rename_i hmkdir hopens
  rw [if_neg hmkdir, if_neg hopens]
  cases hlog : t.log_file with
  | some file => exact ⟨file, hlog, Function.update_self .., .inl rfl⟩
  | none =>
    rw [hlog] at h
    cases hcreates : c.creates with
    | none =>
      rw [hcreates] at h
      cases h
    | some file =>
      rw [hcreates] at h
      cases hreopens : c.reopens with
      | false =>
        rw [hreopens] at h
        cases h
      | true => exact ⟨file, rfl, Function.update_self .., .inr ⟨rfl, rfl⟩⟩

/-- The stream that `open_log_file` leaves is one for the file with the name
    of the log. -/
theorem open_log_file_opens {t : EventLogger.State} {c : OpenCalls}
    (hreach : t.reaches_fdopen c = true) (hfdopen : c.fdopen = true) :
    ∃ r file, (t.open_log_file c).logger.file = some r ∧
      (t.open_log_file c).logger.fd = (t.open_log_file c).stream_fd r ∧
      (t.open_log_file c).fds ((t.open_log_file c).stream_fd r) = some file ∧
      (t.open_log_file c).log_file = some file ∧
      (t.log_file = some file ∨ t.log_file = none ∧ c.creates = some file) := by
  rw [EventLogger.State.reaches_fdopen, Bool.and_eq_true, Bool.and_eq_true] at hreach
  obtain ⟨⟨hopened, hcloexec⟩, hfchown⟩ := hreach
  obtain ⟨file, hlog, hfd, hfile⟩ := open_log_fd_opens hopened
  unfold EventLogger.State.open_log_file
  generalize t.open_log_fd c = u at *
  obtain ⟨u, opened⟩ := u
  dsimp only at hopened hlog hfd ⊢
  simp only [hopened, hcloexec, hfchown, hfdopen, Bool.not_true, Bool.false_eq_true, if_false]
  have hupdate : Function.update u.stream_fd u.next_stream c.fd u.next_stream = c.fd :=
    Function.update_self ..
  refine ⟨u.next_stream, file, rfl, hupdate.symm, ?_, hlog, hfile⟩
  show u.fds (Function.update u.stream_fd u.next_stream c.fd u.next_stream) = some file
  rw [hupdate]
  exact hfd

/-- A logger that has been constructed has the log open. -/
theorem event_log_init_opened {t : EventLogger.State} (h : event_log.init t) :
    ∃ r, t.logger.file = some r ∧ t.logger.fd = t.stream_fd r := by
  obtain ⟨log_filename, log_file, fds, c, rfl, hfile⟩ := h
  obtain ⟨-, -, ⟨-, -, hnone, -⟩ | ⟨-, -, hnone, -⟩ | ⟨hreach, -, hsome, -⟩⟩ :=
    (blank log_filename log_file fds).open_log_file_outcome c
  · exact absurd hnone hfile
  · exact absurd hnone hfile
  · cases hfdopen : c.fdopen with
    | true =>
      obtain ⟨r, -, hr, hfd, -⟩ := open_log_file_opens hreach hfdopen
      exact ⟨r, hr, hfd⟩
    | false =>
      -- `fdopen` has returned NULL, and there is no stream.
      rw [EventLogger.State.reaches_fdopen, Bool.and_eq_true, Bool.and_eq_true] at hreach
      obtain ⟨⟨hopened, hcloexec⟩, hfchown⟩ := hreach
      refine absurd ?_ hfile
      unfold EventLogger.State.open_log_file
      generalize (blank log_filename log_file fds).open_log_fd c = u at hopened
      obtain ⟨u, opened⟩ := u
      dsimp only at hopened ⊢
      rw [hopened, hcloexec, hfchown, hfdopen]
      rfl

/-! ## Section 3: The parts of the log -/

section
variable {s : State}

theorem log_file_none_parts (h : s.stream.log_file = none) : s.parts = s.rotated := by
  rw [State.parts, h]
  rfl

/-- What is written to a file that is no part changes no part. -/
theorem map_text_update {file : FileId} (h : file ∉ s.inodes) (text : List Char) :
    s.parts.map (Part.text (Function.update s.contents file text)) =
      s.parts.map (Part.text s.contents) := by
  refine List.map_congr_left fun p hp => ?_
  cases p with
  | gz text => rfl
  | plain f =>
    have hne : f ≠ file := by
      rintro rfl
      exact h (List.mem_filterMap.mpr ⟨_, hp, rfl⟩)
    exact Function.update_of_ne hne ..

theorem texts_create {file : FileId} (hlog : s.stream.log_file = none) (hfresh : file ∉ s.inodes) :
    (s.create file).texts = [] :: s.texts := by
  have hparts : (s.create file).parts = .plain file :: s.parts := by
    rw [log_file_none_parts hlog]
    rfl
  rw [State.texts, State.texts, hparts, List.map_cons]
  show Function.update s.contents file [] file :: _ ++ _ = _
  rw [Function.update_self, List.cons_append]
  exact congrArg (fun l => [] :: (l ++ s.expired)) (map_text_update hfresh [])

theorem inodes_create {file : FileId} (hlog : s.stream.log_file = none) :
    (s.create file).inodes = file :: s.inodes := by
  rw [State.inodes, State.inodes, log_file_none_parts hlog]
  rfl

/-- A plain part has a place of its own. -/
theorem parts_inj (h : s.inodes.Nodup) {i j : Nat} {file : FileId}
    (hi : s.parts[i]? = some (.plain file)) (hj : s.parts[j]? = some (.plain file)) : i = j := by
  have hpair := List.pairwise_filterMap.mp h
  rw [List.pairwise_iff_getElem] at hpair
  obtain ⟨hlti, hi⟩ := List.getElem?_eq_some_iff.mp hi
  obtain ⟨hltj, hj⟩ := List.getElem?_eq_some_iff.mp hj
  by_contra hne
  rcases Nat.lt_or_gt_of_ne hne with hlt | hlt
  · exact hpair i j hlti hltj hlt file (by rw [hi]; rfl) file (by rw [hj]; rfl) rfl
  · exact hpair j i hltj hlti hlt file (by rw [hj]; rfl) file (by rw [hi]; rfl) rfl

/-- Writing to a part changes the text of that part. -/
theorem texts_update (h : s.inodes.Nodup) {j : Nat} {file : FileId}
    (hj : s.parts[j]? = some (.plain file)) (text : List Char) :
    s.parts.map (Part.text (Function.update s.contents file text)) ++ s.expired =
      s.texts.set j text := by
  have hlt := (List.getElem?_eq_some_iff.mp hj).1
  rw [State.texts, List.set_append_left _ _ (by rw [List.length_map]; exact hlt)]
  congr 1
  refine List.ext_getElem? fun i => ?_
  rw [List.getElem?_map, List.getElem?_set, List.length_map, List.getElem?_map]
  split
  · rename_i hij
    subst hij
    rw [hj]
    exact congrArg some (Function.update_self ..)
  · rename_i hij
    cases hi : s.parts[i]? with
    | none => rfl
    | some p =>
      cases p with
      | gz text => rfl
      | plain f =>
        have hne : f ≠ file := by
          rintro rfl
          exact hij (parts_inj h hj hi)
        exact congrArg some (Function.update_of_ne hne ..)

theorem rotate_parts {file : FileId} (hlog : s.stream.log_file = some file) :
    (s.rotate file).parts = s.parts := by
  rw [State.parts, State.parts, hlog]
  rfl

/-- The numbered parts come behind the one with the name of the log. -/
theorem getElem?_rotated {i : Nat} {p : Part} (h : s.rotated[i]? = some p) :
    s.parts[(s.stream.log_file.map Part.plain).toList.length + i]? = some p := by
  rw [State.parts, List.getElem?_append_right (Nat.le_add_right ..), Nat.add_sub_cancel_left]
  exact h

theorem compress_parts (s : State) (i : Nat) (file : FileId) : (s.compress i file).parts =
    s.parts.set ((s.stream.log_file.map Part.plain).toList.length + i)
      (.gz (s.contents file)) := by
  rw [State.parts, State.parts, List.set_append_right _ _ (Nat.le_add_right ..),
    Nat.add_sub_cancel_left]
  rfl

/-- The text of a part that is compressed stays the same. -/
theorem compress_texts {i : Nat} {file : FileId} (h : s.rotated[i]? = some (.plain file)) :
    (s.compress i file).texts = s.texts := by
  have hpart := getElem?_rotated h
  obtain ⟨hlt, hget⟩ := List.getElem?_eq_some_iff.mp hpart
  rw [State.texts, State.texts, compress_parts, List.map_set]
  show (List.map (Part.text s.contents) s.parts).set _ (s.contents file) ++ s.expired = _
  congr 1
  refine List.ext_getElem? fun k => ?_
  rw [List.getElem?_set, List.length_map, List.getElem?_map]
  split
  · rename_i hk
    subst hk
    rw [hpart]
    rfl
  · rfl

theorem expire_parts {part : Part} (h : s.rotated.getLast? = some part) :
    s.parts = (s.expire part).parts ++ [part] := by
  obtain ⟨ys, hys⟩ := List.getLast?_eq_some_iff.mp h
  rw [State.parts, State.parts]
  show _ = (_ ++ s.rotated.dropLast) ++ [part]
  rw [hys, List.dropLast_concat, List.append_assoc]
  rfl

theorem expire_texts {part : Part} (h : s.rotated.getLast? = some part) :
    (s.expire part).texts = s.texts := by
  rw [State.texts, State.texts, expire_parts h, List.map_append, List.append_assoc]
  rfl

end

/-! ## Section 4: The invariant -/

/-- Between two steps: the writer has a stream, and when it is about to write
    there is no text behind the file that it writes to. -/
structure Ok (s : State) : Prop where
  queue : Queue.Valid s.queue
  opened : ∃ r, s.stream.logger.file = some r ∧ s.stream.logger.fd = s.stream.stream_fd r
  behind : s.checked = true → ∃ file j, s.open_file = some file ∧
    s.parts[j]? = some (.plain file) ∧ ∀ t ∈ s.texts.take j, t = []
  inodes : s.inodes.Nodup
  whole : s.whole = s.initial ++ (s.queue.records.map (· ++ cstr "\n")).flatten
  lines : ∀ t ∈ s.texts, Whole t
  before : Whole s.initial

theorem Ok.init {s : State} (h : Init s) : Ok s where
  queue := Queue.valid_of_reachable (.init h.queue)
  opened := event_log_init_opened h.stream
  behind := fun hchecked => by cases h.unchecked.symm.trans hchecked
  inodes := h.inodes
  whole := by
    obtain ⟨memory, hqueue⟩ := h.queue
    rw [h.initial, hqueue, List.map_nil, List.flatten_nil, List.append_nil]
  lines := h.lines
  before := by
    rw [h.initial]
    exact whole_flatten fun t ht => h.lines t (List.mem_reverse.mp ht)

/-! ### The threads -/

/-- Only the step in which the writer has an event makes a record. -/
theorem log_queue_next_records {q q' : Queue.State} {l : Queue.Label}
    (hn : Queue.log_queue_next q l = some q')
    (hl : l = .writer → ∀ event, q.writer_thread ≠ .popped event) : q'.records = q.records := by
  cases l with
  | caller strings events => rw [← Option.some.inj hn]; rfl
  | queue_event event =>
    obtain ⟨-, hn⟩ := Option.ite_none_right_eq_some.mp hn
    obtain ⟨e, -, hn⟩ := Option.bind_eq_some_iff.mp hn
    obtain ⟨t, hqueue, ht⟩ := Option.bind_eq_some_iff.mp hn
    obtain ⟨⟨a, memory⟩, -, ht'⟩ := Option.bind_eq_some_iff.mp hqueue
    obtain rfl := Option.some.inj ht'
    rw [← Option.some.inj ht]
  | writer =>
    have hnot := hl rfl
    change q.writer_thread_start = some q' at hn
    unfold Queue.State.writer_thread_start at hn
    split at hn
    · split at hn
      · cases hn
      · rw [← Option.some.inj hn]
      · obtain ⟨cell, -, rfl⟩ := Option.map_eq_some_iff.mp hn
        split <;> rfl
    · rename_i event hpopped
      exact absurd hpopped (hnot event)
    · obtain ⟨memory, -, ht⟩ := Option.bind_eq_some_iff.mp hn
      rw [← Option.some.inj ht]
    · cases hn
  | finalize =>
    obtain ⟨-, hn⟩ := Option.ite_none_right_eq_some.mp hn
    rw [← Option.some.inj hn]
    rfl
  | join =>
    obtain ⟨-, hn⟩ := Option.ite_none_right_eq_some.mp hn
    rw [← Option.some.inj hn]

theorem Ok.thread {s : State} (h : Ok s) {l : Queue.Label} {queue : Queue.State}
    (hn : Queue.log_queue_next s.queue l = some queue)
    (hl : l = .writer → ∀ event, s.queue.writer_thread ≠ .popped event) :
    Ok { s with queue } where
  queue := h.queue.step hn
  opened := h.opened
  behind := h.behind
  inodes := h.inodes
  whole := by
    show s.whole = s.initial ++ (queue.records.map _).flatten
    rw [log_queue_next_records hn hl]
    exact h.whole
  lines := h.lines
  before := h.before

theorem thread_next {s s' : State} {l : Queue.Label} (hn : log_files_next s (.thread l) = some s') :
    ∃ queue, Queue.log_queue_next s.queue l = some queue ∧ s' = { s with queue } ∧
      (l = .writer → writing s = none) := by
  cases l with
  | writer =>
    obtain ⟨hwriting, hn⟩ := Option.ite_none_right_eq_some.mp hn
    obtain ⟨queue, hqueue, rfl⟩ := Option.map_eq_some_iff.mp hn
    exact ⟨queue, hqueue, rfl, fun _ => hwriting⟩
  | caller | queue_event | finalize | join =>
    unfold log_files_next at hn
    obtain ⟨queue, hqueue, rfl⟩ := Option.map_eq_some_iff.mp hn
    exact ⟨queue, hqueue, rfl, nofun⟩

theorem writing_eq_none {s : State} (h : writing s = none) :
    ∀ event, s.queue.writer_thread ≠ .popped event := by
  intro event hpopped
  rw [writing, hpopped] at h
  cases h

/-! ### The files -/

theorem whole_cons_nil (l : List (List Char)) : ([] :: l).reverse.flatten = l.reverse.flatten := by
  simp

theorem Ok.create {s : State} (h : Ok s) {file : FileId} (hlog : s.stream.log_file = none)
    (hfresh : s.Fresh file) : Ok (s.create file) where
  queue := h.queue
  opened := h.opened
  behind := by
    intro hchecked
    obtain ⟨f, j, hf, hj, hempty⟩ := h.behind hchecked
    refine ⟨f, j + 1, hf, ?_, ?_⟩
    · rw [← hj, log_file_none_parts hlog]
      rfl
    · rw [texts_create hlog hfresh.1, List.take_succ_cons, List.forall_mem_cons]
      exact ⟨rfl, hempty⟩
  inodes := by
    rw [inodes_create hlog]
    exact List.nodup_cons.mpr ⟨hfresh.1, h.inodes⟩
  whole := by
    rw [State.whole, texts_create hlog hfresh.1, whole_cons_nil]
    exact h.whole
  lines := by
    rw [texts_create hlog hfresh.1, List.forall_mem_cons]
    exact ⟨whole_nil, h.lines⟩
  before := h.before

/-- What is left of the texts by a step that changes no text. -/
theorem Ok.of_texts {s t : State} (h : Ok s) (hqueue : t.queue = s.queue)
    (hinitial : t.initial = s.initial)
    (hopened : ∃ r, t.stream.logger.file = some r ∧ t.stream.logger.fd = t.stream.stream_fd r)
    (htexts : t.texts = s.texts) (hinodes : t.inodes.Nodup)
    (hbehind : t.checked = true → ∃ file j, t.open_file = some file ∧
      t.parts[j]? = some (.plain file) ∧ ∀ u ∈ s.texts.take j, u = []) : Ok t where
  queue := by
    rw [hqueue]
    exact h.queue
  opened := hopened
  behind := by
    rw [htexts]
    exact hbehind
  inodes := hinodes
  whole := by
    rw [State.whole, htexts, hqueue, hinitial]
    exact h.whole
  lines := by
    rw [htexts]
    exact h.lines
  before := by
    rw [hinitial]
    exact h.before

theorem Ok.rotate {s : State} (h : Ok s) {file : FileId} (hlog : s.stream.log_file = some file) :
    Ok (s.rotate file) := by
  have hparts := rotate_parts hlog
  refine h.of_texts rfl rfl h.opened ?_ ?_ ?_
  · rw [State.texts, hparts]
    rfl
  · rw [State.inodes, hparts]
    exact h.inodes
  · rw [hparts]
    exact h.behind

theorem Ok.compress {s : State} (h : Ok s) {i : Nat} {file : FileId}
    (hi : s.rotated[i]? = some (.plain file)) (hkept : Kept s (.compress i)) :
    Ok (s.compress i file) := by
  have hpart := getElem?_rotated hi
  obtain ⟨hlt, hget⟩ := List.getElem?_eq_some_iff.mp hpart
  refine h.of_texts rfl rfl h.opened (compress_texts hi) ?_ ?_
  · -- One part is no longer plain.
    have hset := List.set_eq_take_append_cons_drop (l := s.parts)
      (i := (s.stream.log_file.map Part.plain).toList.length + i) (a := .gz (s.contents file))
    rw [if_pos hlt] at hset
    have hnodup := h.inodes
    rw [State.inodes, ← List.take_append_drop
      ((s.stream.log_file.map Part.plain).toList.length + i) s.parts, ← List.getElem_cons_drop hlt,
      List.filterMap_append] at hnodup
    rw [State.inodes, compress_parts, hset, List.filterMap_append, List.filterMap_cons_none rfl]
    refine hnodup.sublist (List.Sublist.append_left ?_ _)
    exact (List.sublist_cons_self _ _).filterMap _
  · intro hchecked
    obtain ⟨f, j, hf, hj, hempty⟩ := h.behind hchecked
    refine ⟨f, j, hf, ?_, hempty⟩
    rw [compress_parts, List.getElem?_set_ne]
    · exact hj
    · -- The part that is compressed is not the one that is open.
      rintro rfl
      obtain rfl := Part.plain.inj (Option.some.inj (hpart.symm.trans hj))
      exact hkept hchecked _ hi hf

theorem Ok.expire {s : State} (h : Ok s) {part : Part} (hlast : s.rotated.getLast? = some part)
    (hkept : Kept s .expire) : Ok (s.expire part) := by
  have hparts := expire_parts hlast
  refine h.of_texts rfl rfl h.opened (expire_texts hlast) ?_ ?_
  · have hnodup := h.inodes
    rw [State.inodes, hparts, List.filterMap_append] at hnodup
    exact hnodup.sublist (List.sublist_append_left ..)
  · intro hchecked
    obtain ⟨f, j, hf, hj, hempty⟩ := h.behind hchecked
    refine ⟨f, j, hf, ?_, hempty⟩
    rw [hparts, List.getElem?_append] at hj
    split at hj
    · exact hj
    · -- The part that is removed is not the one that is open.
      rw [List.getElem?_singleton] at hj
      split at hj
      · obtain rfl := Option.some.inj hj
        exact absurd hf (hkept hchecked f hlast)
      · cases hj

theorem Ok.descriptor {s : State} (h : Ok s) {fd : Nat} (file : Option FileId)
    (hfd : (s.stream.logger.file.all fun r => fd ≠ s.stream.stream_fd r) = true) :
    Ok { s with stream := s.stream.setFd fd file } := by
  obtain ⟨r, hr, -⟩ := h.opened
  refine h.of_texts rfl rfl h.opened rfl h.inodes ?_
  have hopen : ({ s with stream := s.stream.setFd fd file } : State).open_file = s.open_file := by
    rw [hr, Option.all_some, decide_eq_true_eq] at hfd
    show s.stream.logger.file.bind _ = s.stream.logger.file.bind _
    rw [hr]
    exact Function.update_of_ne hfd.symm ..
  rw [hopen]
  exact h.behind

/-! ### The writer -/

/-- The check keeps the stream that it finds in order, or opens the file that
    has the name of the log. -/
theorem check_file_stream_outcome {s : State} {k : CheckCalls} {c : OpenCalls}
    (hopened : ∃ r, s.stream.logger.file = some r ∧ s.stream.logger.fd = s.stream.stream_fd r)
    (hkept : s.stream.must_reopen k = true → Succeeds s c) :
    ∃ r file, (s.stream.check_file_stream k c).logger.file = some r ∧
      (s.stream.check_file_stream k c).logger.fd =
        (s.stream.check_file_stream k c).stream_fd r ∧
      (s.stream.check_file_stream k c).fds ((s.stream.check_file_stream k c).stream_fd r) =
        some file ∧
      (s.stream.check_file_stream k c).log_file = some file ∧
      (s.stream.log_file = some file ∨ s.stream.log_file = none ∧ s.Fresh file) := by
  obtain ⟨r, hr, hfd⟩ := hopened
  rw [EventLogger.State.check_file_stream]
  split
  · rename_i hmust
    obtain ⟨hreach, hfdopen, hcreates⟩ := hkept hmust
    rw [EventLogger.State.reopen_file_stream, hr, Option.elim_some]
    rw [← EventLogger.State.reaches_fdopen_fclose s.stream r] at hreach
    obtain ⟨r', file, hr', hfd', hfile, hlog, hwhich⟩ := open_log_file_opens hreach hfdopen
    refine ⟨r', file, hr', hfd', hfile, hlog, hwhich.imp_right fun h => ⟨h.1, ?_⟩⟩
    exact hcreates h.1 file h.2
  · rename_i hkeep
    -- Both files could be examined, and they are the same one.
    rw [EventLogger.State.must_reopen] at hkeep
    split at hkeep
    · exact absurd rfl hkeep
    rename_i old hold
    split at hkeep
    · exact absurd rfl hkeep
    rename_i new hnew
    have hold := (Option.ite_none_right_eq_some.mp hold).2
    have hnew := (Option.ite_none_right_eq_some.mp hnew).2
    have hsame : old = new := by
      cases old
      cases new
      simp only [Bool.or_eq_true, decide_eq_true_eq, not_or, Decidable.not_not] at hkeep
      rw [hkeep.1, hkeep.2]
    subst hsame
    exact ⟨r, old, hr, hfd, hfd ▸ hold, hnew, .inl hnew⟩

theorem Ok.check_file_stream {s : State} (h : Ok s) {k : CheckCalls} {c : OpenCalls}
    (hkept : Kept s (.check_file_stream k c)) : Ok (s.check_file_stream k c) := by
  obtain ⟨r, file, hr, hfd, hfile, hlog, hwhich⟩ := check_file_stream_outcome h.opened hkept
  have hopen : (s.check_file_stream k c).open_file = some file := by
    show (s.stream.check_file_stream k c).logger.file.bind _ = _
    rw [hr]
    exact hfile
  have hfirst : (s.check_file_stream k c).parts[0]? = some (.plain file) := by
    simp only [State.parts, State.check_file_stream, hlog]
    rfl
  rcases hwhich with hold | ⟨hnone, hfresh⟩
  · have hcontents : (s.check_file_stream k c).contents = s.contents := by
      simp only [State.check_file_stream, hold]
    have hparts : (s.check_file_stream k c).parts = s.parts := by
      simp only [State.parts, State.check_file_stream, hold, hlog]
    refine h.of_texts rfl rfl ⟨r, hr, hfd⟩ ?_ ?_ fun _ => ⟨file, 0, hopen, hfirst, nofun⟩
    · rw [State.texts, hparts, hcontents]
      rfl
    · rw [State.inodes, hparts]
      exact h.inodes
  · -- The log was missing, and the file has been made as `create` does it.
    have hcreate := h.create hnone hfresh
    have hcontents : (s.check_file_stream k c).contents = (s.create file).contents := by
      simp only [State.check_file_stream, State.create, hnone, hlog]
    have hparts : (s.check_file_stream k c).parts = (s.create file).parts := by
      simp only [State.parts, State.check_file_stream, State.create, hlog]
    refine hcreate.of_texts rfl rfl ⟨r, hr, hfd⟩ ?_ ?_ fun _ => ⟨file, 0, hopen, hfirst, nofun⟩
    · rw [State.texts, hparts, hcontents]
      rfl
    · rw [State.inodes, hparts]
      exact hcreate.inodes

/-- The record comes behind all text of the log. -/
theorem Ok.record {s s' : State} (h : Ok s) {event : Addr} (hwriting : writing s = some event)
    (hchecked : s.checked = true) (hn : s.record event = some s') : Ok s' := by
  obtain ⟨e, hload, hn⟩ := Option.bind_eq_some_iff.mp hn
  obtain ⟨str, hstr, hn⟩ := Option.bind_eq_some_iff.mp hn
  obtain ⟨queue, hqueue, hn⟩ := Option.bind_eq_some_iff.mp hn
  obtain rfl := Option.some.inj hn
  obtain ⟨r, hr, hfd⟩ := h.opened
  obtain ⟨file, j, hfile, hj, hempty⟩ := h.behind hchecked
  have hpopped : s.queue.writer_thread = .popped event := by
    unfold writing at hwriting
    split at hwriting
    · rename_i event' hpopped
      obtain rfl := Option.some.inj hwriting
      exact hpopped
    · cases hwriting
  have hrecords : queue.records = s.queue.records ++ [str] := by
    unfold Queue.State.writer_thread_start at hqueue
    rw [hpopped] at hqueue
    dsimp only at hqueue
    rw [hload] at hqueue
    replace hqueue : (ck_log_event_to_string e).bind _ = some queue := hqueue
    rw [hstr] at hqueue
    rw [← Option.some.inj hqueue]
  have hfds : s.stream.fds (s.stream.stream_fd r) = some file := by
    rw [State.open_file, hr, Option.bind_some] at hfile
    exact hfile
  obtain ⟨hlt, hget⟩ := List.getElem?_eq_some_iff.mp hj
  have htext : s.texts[j]? = some (s.contents file) := by
    rw [State.texts, List.getElem?_append_left (by rw [List.length_map]; exact hlt),
      List.getElem?_map, hj]
    rfl
  have hprintf : s.fprintf (str ++ cstr "\n") =
      { s with
        stream := (s.stream.act (.fprintf r (str ++ cstr "\n"))).written
        contents := Function.update s.contents file
          (s.contents file ++ (str ++ cstr "\n")) } := by
    rw [State.fprintf, hr]
    dsimp only
    rw [hfds]
  have htexts : (s.fprintf (str ++ cstr "\n")).texts =
      s.texts.set j (s.contents file ++ (str ++ cstr "\n")) := by
    rw [hprintf]
    exact texts_update h.inodes hj _
  constructor
  case queue => exact h.queue.step (l := .writer) hqueue
  case opened =>
    refine ⟨r, ?_, ?_⟩
    · rw [hprintf]
      exact hr
    · rw [hprintf]
      exact hfd
  case behind => nofun
  case inodes =>
    rw [hprintf]
    exact h.inodes
  case whole =>
    show (s.fprintf (str ++ cstr "\n")).texts.reverse.flatten =
      (s.fprintf (str ++ cstr "\n")).initial ++ (queue.records.map _).flatten
    rw [htexts, Journal.flatten_reverse_set htext hempty, hrecords, List.map_append,
      List.flatten_append, ← List.append_assoc, hprintf]
    have hwhole := h.whole
    rw [State.whole] at hwhole
    rw [hwhole]
    simp
  case lines =>
    show ∀ t ∈ (s.fprintf (str ++ cstr "\n")).texts, Whole t
    rw [htexts]
    intro t ht
    rcases List.mem_or_eq_of_mem_set ht with ht | rfl
    · exact h.lines t ht
    · exact (h.lines _ (List.mem_of_getElem? htext)).append (whole_line str)
  case before =>
    rw [hprintf]
    exact h.before

/-- **Step lemma** -/
theorem Ok.step {s s' : State} (h : Ok s) {l : Label} (hkept : Kept s l)
    (hn : log_files_next s l = some s') : Ok s' := by
  cases l with
  | thread l =>
    obtain ⟨queue, hqueue, rfl, hl⟩ := thread_next hn
    exact h.thread hqueue fun hwriter => writing_eq_none (hl hwriter)
  | check_file_stream k c =>
    obtain ⟨-, hn⟩ := Option.ite_none_right_eq_some.mp hn
    rw [← Option.some.inj hn]
    exact h.check_file_stream hkept
  | record =>
    obtain ⟨hchecked, hn⟩ := Option.ite_none_right_eq_some.mp hn
    obtain ⟨event, hwriting, hn⟩ := Option.bind_eq_some_iff.mp hn
    exact h.record hwriting hchecked hn
  | create file =>
    obtain ⟨⟨hlog, hfresh⟩, hn⟩ := Option.ite_none_right_eq_some.mp hn
    rw [← Option.some.inj hn]
    exact h.create hlog hfresh
  | rotate =>
    obtain ⟨file, hlog, rfl⟩ := Option.map_eq_some_iff.mp hn
    exact h.rotate hlog
  | compress i =>
    simp only [log_files_next] at hn
    split at hn
    · rename_i file hi
      rw [← Option.some.inj hn]
      exact h.compress hi hkept
    · cases hn
  | expire =>
    obtain ⟨part, hlast, rfl⟩ := Option.map_eq_some_iff.mp hn
    exact h.expire hlast hkept
  | descriptor fd file =>
    obtain ⟨hfd, hn⟩ := Option.ite_none_right_eq_some.mp hn
    rw [← Option.some.inj hn]
    exact h.descriptor file hfd

theorem ok_of_reachable {s : State} (h : log_files.ReachableBy Kept s) : Ok s :=
  h.invariant (fun _ hinit => Ok.init hinit) fun _ _ _ hok hkept hn => hok.step hkept hn

/-! ## Section 5: The end of the writer -/

theorem exists_fresh (s : State) : ∃ file, s.Fresh file := by
  have hinf : Infinite FileId := Infinite.of_injective (fun n => ⟨0, n⟩) fun a b h => by
    cases h
    rfl
  obtain ⟨file, hfile⟩ :=
    Infinite.exists_notMem_finset (s.inodes ++ s.open_file.toList).toFinset
  rw [List.mem_toFinset, List.mem_append, not_or] at hfile
  exact ⟨file, hfile.1, fun hopen => hfile.2 (by rw [hopen]; exact List.mem_singleton.mpr rfl)⟩

/-- Whatever the state of the log, the calls may succeed. -/
theorem exists_succeeds (s : State) : ∃ c, Succeeds s c := by
  obtain ⟨file, hfresh⟩ := exists_fresh s
  refine ⟨⟨true, true, some file, true, 0, true, true, true⟩, ?_, rfl, ?_⟩
  · rw [EventLogger.State.reaches_fdopen, EventLogger.State.open_log_fd_snd]
    cases s.stream.log_file <;> rfl
  · intro _ file' hfile'
    obtain rfl := Option.some.inj hfile'
    exact hfresh

theorem reach_step {r s t : State} (h : (log_files.startingAt r).ReachableBy Kept s) (l : Label)
    (hkept : Kept s l) (hn : log_files_next s l = some t) :
    (log_files.startingAt r).ReachableBy Kept t := h.step hkept hn

/-- A step of the writer is one of the system, or a check and a record. -/
theorem writer_step {s : State} {queue : Queue.State}
    (hn : s.queue.writer_thread_start = some queue) :
    ∃ t, (log_files.startingAt s).ReachableBy Kept t ∧ t.queue = queue := by
  cases hwriting : writing s with
  | none =>
    refine ⟨{ s with queue }, reach_step (.refl s) (.thread .writer) trivial ?_, rfl⟩
    show (if _ then _ else _) = _
    rw [if_pos hwriting, hn]
    rfl
  | some event =>
    have hchecked : ∃ t, (log_files.startingAt s).ReachableBy Kept t ∧ t.queue = s.queue ∧
        t.checked = true := by
      cases hchecked : s.checked with
      | true => exact ⟨s, .refl s, rfl, hchecked⟩
      | false =>
        obtain ⟨c, hc⟩ := exists_succeeds s
        refine ⟨s.check_file_stream ⟨true, true, true⟩ c, reach_step (.refl s)
          (.check_file_stream ⟨true, true, true⟩ c) (fun _ => hc) ?_, rfl, rfl⟩
        refine if_pos ⟨?_, hchecked⟩
        rw [hwriting]
        exact Option.some_ne_none event
    obtain ⟨t, ht, hqueue, hchecked⟩ := hchecked
    have hwriting' : writing t = some event := by
      rw [writing, hqueue]
      exact hwriting
    have hpopped : s.queue.writer_thread = .popped event := by
      unfold writing at hwriting
      split at hwriting
      · rename_i event' hpopped
        obtain rfl := Option.some.inj hwriting
        exact hpopped
      · cases hwriting
    have hn' := hn
    unfold Queue.State.writer_thread_start at hn
    rw [hpopped] at hn
    obtain ⟨e, hload, hn⟩ := Option.bind_eq_some_iff.mp hn
    obtain ⟨str, hstr, -⟩ := Option.bind_eq_some_iff.mp hn
    refine ⟨{ t.fprintf (str ++ cstr "\n") with queue, checked := false },
      reach_step ht .record trivial ?_, rfl⟩
    show (if _ then _ else _) = _
    rw [if_pos hchecked, hwriting', Option.bind_some, State.record, hqueue, hload]
    show (ck_log_event_to_string e).bind _ = _
    rw [hstr]
    show (s.queue.writer_thread_start).bind _ = _
    rw [hn']
    rfl

/-- The steps of the writer that lead to its end do so here, too. -/
theorem joins {s : State} {k : Nat} (h : Queue.JoinsAfter s.queue k) :
    ∃ t, (log_files.startingAt s).ReachableBy Kept t ∧ t.queue.phase = .finalized := by
  induction k generalizing s with
  | zero =>
    obtain ⟨queue, hrun, hphase⟩ := h
    obtain ⟨queue', hn, hrun⟩ := Option.bind_eq_some_iff.mp hrun
    obtain rfl := Option.some.inj hrun
    refine ⟨{ s with queue := queue' }, reach_step (.refl s) (.thread .join) trivial ?_, hphase⟩
    show (Queue.log_queue_next s.queue .join).map _ = _
    replace hn : Queue.log_queue_next s.queue .join = some queue' := hn
    rw [hn]
    rfl
  | succ k ih =>
    obtain ⟨queue, hrun, hphase⟩ := h
    rw [List.replicate_succ, List.cons_append, LTS.System.run_cons] at hrun
    obtain ⟨queue', hn, hrun⟩ := Option.bind_eq_some_iff.mp hrun
    obtain ⟨t, ht, rfl⟩ := writer_step hn
    obtain ⟨u, hu, hfinal⟩ := ih ⟨queue, hrun, hphase⟩
    exact ⟨u, ht.trans hu, hfinal⟩

/-! ## Section 6: What the files hold -/

/-- A test that only keeps steps which lose nothing. -/
def keeps (s : State) : Label → Bool
  | .check_file_stream k _ => !s.stream.must_reopen k
  | .compress _ | .expire => !s.checked
  | _ => true

theorem kept_of_keeps {s : State} {l : Label} (h : keeps s l = true) : Kept s l := by
  cases l with
  | check_file_stream k c =>
    intro hmust
    rw [keeps, hmust] at h
    cases h
  | compress i =>
    intro hchecked
    rw [keeps, hchecked] at h
    cases h
  | expire =>
    intro hchecked
    rw [keeps, hchecked] at h
    cases h
  | _ => trivial

/-- The caller has an event, and the log is open. -/
def seat_removed_log : State where
  queue := ⟨Queue.seat_removed_memory, [], .waiting, .running, [], []⟩
  stream := opened_log
  contents := fun _ => []
  rotated := []
  expired := []
  checked := false
  initial := []

theorem seat_removed_log_init : log_files.init seat_removed_log where
  queue := ⟨_, rfl⟩
  stream := opened_log_init
  unchecked := rfl
  initial := rfl
  inodes := List.nodup_singleton _
  lines := by
    intro t ht
    obtain rfl := List.mem_singleton.mp ht
    exact whole_nil

end Files

end EventLogger
