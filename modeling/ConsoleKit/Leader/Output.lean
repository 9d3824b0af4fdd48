import ConsoleKit.Leader.Lifecycle
import Mathlib.Data.List.TakeWhile

/-! # The output of a job

    The output of the collector is read line by line into a C string, and a
    job succeeds if `WEXITSTATUS` of the wait status is 0.  A child that was
    killed by a signal has that status too, a pipe that cannot be read ends
    like one that is at its end, and a NUL ends the text of a line.

    This module provides:
    - `TextOk`: what has been read so far and what is kept of it,
    - `parses_whole_output`: when only the whole output of a child that has
      succeeded is parsed, over every run.
-/

namespace Leader

open Libc

/-! ## Section 1: What is kept of the lines -/

/-- What is kept of what has been read: all of it as long as there is no
    NUL, and less otherwise. -/
structure TextOk (read kept : CString) : Prop where
  le : kept.length ≤ read.length
  without_nul : kept.length = read.length → '\x00' ∉ read
  whole : '\x00' ∉ read → kept = read

theorem TextOk.nil : TextOk [] [] := ⟨Nat.le_refl _, fun _ => List.not_mem_nil, fun _ => rfl⟩

/-- The text of a line. -/
theorem TextOk.line (line : CString) : TextOk line (line.takeWhile fun c => c ≠ '\x00') := by
  refine ⟨(List.takeWhile_prefix _).length_le, fun hlength hmem => ?_, fun hnot => ?_⟩
  · have heq : (line.takeWhile fun c => c ≠ '\x00') = line :=
      (List.takeWhile_prefix _).eq_of_length hlength
    have hall := List.all_takeWhile (p := fun c => decide (c ≠ '\x00')) (l := line)
    rw [heq, List.all_eq_true] at hall
    have hne := hall _ hmem
    simp at hne
  · rw [List.takeWhile_eq_self_iff]
    intro c hc
    rw [decide_eq_true_iff]
    rintro rfl
    exact hnot hc

theorem TextOk.append {read read' kept kept' : CString} (h : TextOk read kept)
    (h' : TextOk read' kept') : TextOk (read ++ read') (kept ++ kept') := by
  have hle := h.le
  have hle' := h'.le
  refine ⟨?_, fun hlength hmem => ?_, fun hnot => ?_⟩
  · rw [List.length_append, List.length_append]
    omega
  · rw [List.length_append, List.length_append] at hlength
    rcases List.mem_append.mp hmem with hmem | hmem
    · exact h.without_nul (by omega) hmem
    · exact h'.without_nul (by omega) hmem
  · rw [h.whole fun hmem => hnot (List.mem_append.mpr (.inl hmem)),
      h'.whole fun hmem => hnot (List.mem_append.mpr (.inr hmem))]

namespace CkJob

/-- What has been read and what is left are what the child writes. -/
def Reads (j : CkJob) : Prop := ∃ read, read ++ j.unread = j.stdout ∧ TextOk read j.std_out

theorem reads_congr {j j' : CkJob} (h : j.Reads) (hstd_out : j'.std_out = j.std_out)
    (hstdout : j'.stdout = j.stdout) (hunread : j'.unread = j.unread) : j'.Reads := by
  unfold Reads
  rw [hstd_out, hstdout, hunread]
  exact h

/-- The text is the whole output if everything has been read and it has no
    NUL. -/
theorem std_out_iff {j : CkJob} (h : j.Reads) :
    j.std_out = j.stdout ↔ j.unread = [] ∧ '\x00' ∉ j.stdout := by
  obtain ⟨read, hread, htext⟩ := h
  constructor
  · intro heq
    have hlength := congrArg List.length hread
    rw [List.length_append, ← heq] at hlength
    have hle := htext.le
    have hunread : j.unread = [] := List.length_eq_zero_iff.mp (by omega)
    refine ⟨hunread, ?_⟩
    rw [hunread, List.append_nil] at hread
    rw [← hread]
    exact htext.without_nul (by omega)
  · rintro ⟨hunread, hnot⟩
    rw [hunread, List.append_nil] at hread
    rw [← hread] at hnot ⊢
    exact htext.whole hnot

variable {j : CkJob} {w : Wait}

theorem maybe_complete_job_reads (h : j.Reads) : (j.maybe_complete_job w).1.Reads := by
  rcases maybe_complete_job_cases (j := j) (w := w) with ⟨-, -, heq⟩ | ⟨-, -, heq⟩
  · rw [heq]
    exact h
  · rw [heq]
    exact reads_congr h rfl rfl rfl

theorem g_object_unref_reads (h : j.Reads) : j.g_object_unref.Reads := by
  unfold g_object_unref
  dsimp only
  split <;> exact reads_congr h rfl rfl rfl

theorem remove_pending_job_reads (h : j.Reads) : j.remove_pending_job.Reads := by
  have hcancelled : j.ck_job_cancel.Reads := reads_congr h rfl rfl rfl
  exact reads_congr (g_object_unref_reads hcancelled) rfl rfl rfl

theorem job_completed_reads (h : j.Reads) : j.job_completed.Reads :=
  reads_congr (g_object_unref_reads (g_object_unref_reads h)) rfl rfl rfl

theorem error_watch_reads (h : j.Reads) (condition : GIOCondition) :
    (j.error_watch condition w).1.Reads := by
  unfold error_watch
  dsimp only
  split
  · exact maybe_complete_job_reads (reads_congr h rfl rfl rfl)
  · exact reads_congr h rfl rfl rfl

/-- One read of the pipe. -/
theorem out_watch_reads (h : j.Reads) {condition : GIOCondition} {unread : CString}
    (hrest : condition.rest j.unread = some unread) :
    (j.out_watch condition unread w).1.Reads := by
  have hread : Reads { j with std_out := j.std_out ++ condition.appended, unread := unread } := by
    obtain ⟨read, hstdout, htext⟩ := h
    cases condition with
    | G_IO_IN status =>
      cases status with
      | NORMAL line =>
        simp only [GIOCondition.rest] at hrest
        split at hrest
        · rename_i hline
          cases hrest
          obtain ⟨rest, hrest⟩ := List.isPrefixOf_iff_prefix.mp hline.2
          refine ⟨read ++ line, ?_, htext.append (TextOk.line line)⟩
          dsimp only
          rw [← hstdout, ← hrest, List.drop_left, List.append_assoc]
        · cases hrest
      | EOF =>
        simp only [GIOCondition.rest] at hrest
        split at hrest <;> cases hrest
        exact ⟨read, hstdout, by simpa [GIOCondition.appended] using htext⟩
      | ERROR | AGAIN =>
        cases hrest
        exact ⟨read, hstdout, by simpa [GIOCondition.appended] using htext⟩
    | G_IO_HUP =>
      simp only [GIOCondition.rest] at hrest
      split at hrest <;> cases hrest
      exact ⟨read, hstdout, by simpa [GIOCondition.appended] using htext⟩
    | other =>
      cases hrest
      exact ⟨read, hstdout, by simpa [GIOCondition.appended] using htext⟩
  unfold out_watch
  dsimp only
  split
  · exact maybe_complete_job_reads (reads_congr hread rfl rfl rfl)
  · exact hread

end CkJob

/-! ## Section 2: Steps of the leader -/

/-- What has been kept of each job's output. -/
def OutputValid (s : CkSessionLeader) : Prop := ∀ j, j < s.next_job → (s.job j).Reads

section
variable {s s' : CkSessionLeader}

theorem OutputValid.setJob (h : OutputValid s) {j : JobRef} {job : CkJob}
    (hjob : (s.job j).Reads → job.Reads) : OutputValid (s.setJob j job) := by
  intro i hi
  by_cases hij : i = j
  · subst hij
    simpa [CkSessionLeader.setJob] using hjob (h i hi)
  · simpa [CkSessionLeader.setJob, hij] using h i hi

theorem OutputValid.watched (h : OutputValid s) {j : JobRef} {r : CkJob × Bool}
    (hr : (s.job j).Reads → r.1.Reads) : OutputValid (s.watched j r) := by
  have hjob : OutputValid (s.setJob j r.1) := h.setJob hr
  unfold CkSessionLeader.watched
  dsimp only
  split <;> exact hjob

/-- The reads of a step are part of the output. -/
theorem OutputValid.step {label : Label} (h : OutputValid s)
    (hnext : leader_system.next s label = some s') : OutputValid s' := by
  cases job_step hnext with
  | collect_parameters stdout started =>
    unfold CkSessionLeader.collect_parameters
    split
    · intro j hj
      by_cases hnew : j = s.next_job
      · subst hnew
        have hexecuted : (CkJob.execute stdout).Reads := ⟨[], rfl, .nil⟩
        simpa using hexecuted
      · simpa [hnew] using h j (Nat.lt_of_le_of_ne (Nat.le_of_lt_succ hj) hnew)
    · exact h
  | out_watch j condition w unread hj hwatch hrest =>
    exact h.watched fun hreads => CkJob.out_watch_reads hreads hrest
  | error_watch j condition w =>
    exact h.watched fun hreads => CkJob.error_watch_reads hreads condition
  | child_exit | release => exact h
  | callback_returns j emitting =>
    have hjob : OutputValid (s.setJob j (s.job j).job_completed) :=
      h.setJob CkJob.job_completed_reads
    exact hjob
  | cancel =>
    have hjobs : ∀ (js : List JobRef) (s : CkSessionLeader), OutputValid s →
        OutputValid (js.foldl (fun s j => s.setJob j (s.job j).remove_pending_job) s) := by
      intro js
      induction js with
      | nil => exact fun s hs => hs
      | cons j js ih => exact fun s hs => ih _ (hs.setJob CkJob.remove_pending_job_reads)
    exact hjobs s.pending_jobs s h

end

/-! ## Section 3: Only the whole output is parsed -/

def Label.wait : Label → Option Wait
  | .out_watch _ _ w | .error_watch _ _ w => some w
  | _ => none

/-- A job whose output is parsed in this step has exited with status 0, and
    the text is its whole output. -/
def ParsesWhole (s : CkSessionLeader) (label : Label) (s' : CkSessionLeader) : Prop :=
  ∀ j output, j < s.next_job → (s'.job j).callbacks = (s.job j).callbacks ++ [some output] →
    ∃ w, label.wait = some w ∧ w.waitpid.ended = some (.exited 0) ∧ output = (s.job j).stdout

/-- The child has exited with status 0, everything has been read and the
    output has no NUL. -/
def Whole (j : CkJob) (w : Wait) : Prop :=
  w.waitpid.ended = some (.exited 0) ∧ j.unread = [] ∧ '\x00' ∉ j.stdout

/-- When both pipes have finished and `WEXITSTATUS` is 0, the output is
    whole. -/
def CompletesWhole (s : CkSessionLeader) : Label → Prop
  | .out_watch j condition w =>
      condition.finished = true → (s.job j).err_watch_id = false → w.exitstatus = 0 →
        Whole (s.job j) w
  | .error_watch j condition w =>
      condition.finished = true → (s.job j).out_watch_id = false → w.exitstatus = 0 →
        Whole (s.job j) w
  | _ => True

namespace CkJob

variable {j : CkJob} {w : Wait}

/-- The status and the text that a job calls back with. -/
def result (j : CkJob) (w : Wait) : Option CString :=
  if w.exitstatus = 0 then some j.std_out else none

theorem maybe_complete_job_callbacks : (j.maybe_complete_job w).1.callbacks =
    if j.watched then j.callbacks else j.callbacks ++ [j.result w] := by
  rcases maybe_complete_job_cases (j := j) (w := w) with ⟨-, hwatched, heq⟩ | ⟨-, hwatched, heq⟩
  · rw [heq, if_pos hwatched]
  · rw [heq, if_neg (by rw [hwatched]; decide)]
    rfl

/-- A read that ends a watch adds nothing to the text. -/
theorem appended_of_finished {condition : GIOCondition} (h : condition.finished = true) :
    condition.appended = [] := by
  cases condition with
  | G_IO_IN status =>
    cases status with
    | NORMAL => cases h
    | _ => rfl
  | _ => rfl

theorem out_watch_callbacks (condition : GIOCondition) (unread : CString) :
    (j.out_watch condition unread w).1.callbacks =
      if condition.finished = true ∧ j.err_watch_id = false then j.callbacks ++ [j.result w]
      else j.callbacks := by
  unfold out_watch
  dsimp only
  split
  · rename_i hfinished
    rw [maybe_complete_job_callbacks]
    cases j.err_watch_id <;>
      simp [watched, hfinished, result, appended_of_finished hfinished]
  · rename_i hfinished
    rw [if_neg fun h => hfinished h.1]

theorem error_watch_callbacks (condition : GIOCondition) :
    (j.error_watch condition w).1.callbacks =
      if condition.finished = true ∧ j.out_watch_id = false then j.callbacks ++ [j.result w]
      else j.callbacks := by
  unfold error_watch
  dsimp only
  split
  · rename_i hfinished
    rw [maybe_complete_job_callbacks]
    cases j.out_watch_id <;> simp [watched, hfinished, result]
  · rename_i hfinished
    rw [if_neg fun h => hfinished h.1]

end CkJob

section
variable {s s' : CkSessionLeader} {label : Label}

/-- Nothing is parsed when no job calls back. -/
theorem parsesWhole_of_same
    (h : ∀ j, j < s.next_job → (s'.job j).callbacks = (s.job j).callbacks) :
    ParsesWhole s label s' := by
  intro j output hj hcalls
  rw [h j hj] at hcalls
  simp at hcalls

theorem watched_job (s : CkSessionLeader) (j i : JobRef) (r : CkJob × Bool) :
    (s.watched j r).job i = if i = j then r.1 else s.job i := by
  have hjob : (s.setJob j r.1).job i = if i = j then r.1 else s.job i :=
    Function.update_apply _ _ _ _
  unfold CkSessionLeader.watched
  dsimp only
  split <;> exact hjob

/-- **Step lemma** for a watch that ends with the job calling back if
    `emits` holds. -/
theorem watched_parses_iff (h : OutputValid s) {j : JobRef} (hj : j < s.next_job) {w : Wait}
    (hwait : label.wait = some w) {r : CkJob × Bool} {emits : Prop} [Decidable emits]
    (hcallbacks : r.1.callbacks =
      if emits then (s.job j).callbacks ++ [(s.job j).result w] else (s.job j).callbacks) :
    ParsesWhole s label (s.watched j r) ↔
      (emits → w.exitstatus = 0 → Whole (s.job j) w) := by
  constructor
  · intro hparses hemits hstatus
    have hcalls : ((s.watched j r).job j).callbacks =
        (s.job j).callbacks ++ [some (s.job j).std_out] := by
      rw [watched_job, if_pos rfl, hcallbacks, if_pos hemits, CkJob.result, if_pos hstatus]
    obtain ⟨w', hw', hended, hwhole⟩ := hparses j _ hj hcalls
    obtain rfl := Option.some.inj (hwait.symm.trans hw')
    exact ⟨hended, (CkJob.std_out_iff (h j hj)).mp hwhole⟩
  · intro hwhole i output hi hcalls
    rw [watched_job] at hcalls
    by_cases hij : i = j
    · subst hij
      rw [if_pos rfl, hcallbacks] at hcalls
      by_cases hemits : emits
      · rw [if_pos hemits] at hcalls
        have hresult : (s.job i).result w = some output := by simpa using hcalls
        unfold CkJob.result at hresult
        split at hresult
        · rename_i hstatus
          obtain ⟨hended, htext⟩ := hwhole hemits hstatus
          refine ⟨w, hwait, hended, ?_⟩
          rw [← Option.some.inj hresult]
          exact (CkJob.std_out_iff (h i hi)).mpr htext
        · cases hresult
      · rw [if_neg hemits] at hcalls
        simp at hcalls
    · rw [if_neg hij] at hcalls
      simp at hcalls

/-- **Step lemma**: only a whole output is parsed exactly if each output that
    is parsed is whole when its job completes. -/
theorem parses_whole_step (h : OutputValid s) (hnext : leader_system.next s label = some s') :
    ParsesWhole s label s' ↔ CompletesWhole s label := by
  cases job_step hnext with
  | collect_parameters stdout started =>
    refine iff_of_true (parsesWhole_of_same fun j hj => ?_) trivial
    unfold CkSessionLeader.collect_parameters
    split
    · exact congrArg CkJob.callbacks (Function.update_of_ne (Nat.ne_of_lt hj) _ _)
    · rfl
  | out_watch j condition w unread hj =>
    rw [watched_parses_iff h hj rfl (CkJob.out_watch_callbacks condition unread)]
    exact and_imp
  | error_watch j condition w hj =>
    rw [watched_parses_iff h hj rfl (CkJob.error_watch_callbacks condition)]
    exact and_imp
  | child_exit | release => exact iff_of_true (parsesWhole_of_same fun _ _ => rfl) trivial
  | callback_returns j emitting =>
    refine iff_of_true (parsesWhole_of_same fun i _ => ?_) trivial
    exact completed_callbacks s j _ i
  | cancel =>
    refine iff_of_true (parsesWhole_of_same fun j _ => ?_) trivial
    exact cancel_callbacks s j

end

/-- **The whole output.**  A run parses only whole outputs of children that
    have exited with status 0 exactly if each job that completes with a
    `WEXITSTATUS` of 0 has one. -/
theorem parses_whole_output (labels : List Label) :
    leader_system.Along ParsesWhole ck_session_leader_init labels ↔
      leader_system.Along (fun s label _ => CompletesWhole s label) ck_session_leader_init
        labels :=
  LTS.System.along_congr (I := OutputValid) (fun _ _ _ hs hnext => parses_whole_step hs hnext)
    (fun _ _ _ hs hnext _ => hs.step hnext) (fun j hj => absurd hj (Nat.not_lt_zero j)) labels

/-- The collector writes a line and is killed. -/
def collector_killed : List Label :=
  [.collect_parameters (cstr "unix-user = 0\n") true,
    .out_watch 0 (.G_IO_IN (.NORMAL (cstr "unix-user = 0\n"))) ⟨.ECHILD, 0⟩,
    .out_watch 0 .G_IO_HUP ⟨.ECHILD, 0⟩,
    .error_watch 0 .G_IO_HUP ⟨.pid (.signaled 9 false), 0⟩]

/-- What it has written is parsed. -/
theorem parses_killed :
    ∃ s, leader_system.run ck_session_leader_init collector_killed = some s ∧
      (s.job 0).callbacks = [some (cstr "unix-user = 0\n")] ∧
      ¬ leader_system.Along ParsesWhole ck_session_leader_init collector_killed := by
  refine ⟨_, rfl, by decide, fun h => ?_⟩
  have hparses := ((((h _ rfl).2 _ rfl).2 _ rfl).2 _ rfl).1
  obtain ⟨w, hw, hended, -⟩ := hparses 0 (cstr "unix-user = 0\n") (by decide) (by decide)
  cases hw
  cases hended

end Leader
