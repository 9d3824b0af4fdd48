import ConsoleKit.Framework.CString
import ConsoleKit.Framework.System
import Mathlib.Logic.Function.Basic
import Mathlib.Data.List.Nodup

/-! # The jobs of a session leader

    Model of `ck-job.c` and of the part of `ck-session-leader.c` that starts
    the collector, waits for it and cancels it.  A job is a child process
    with two watches on its pipes.  When both have finished the job emits
    `completed`; the callback that this makes may run the main loop, so the
    callbacks that are running form a stack.

    What the child writes, how it ends and what the channels report is part
    of the step.
-/

namespace Leader

open Libc

abbrev JobRef := Nat

/-! ## Section 1: What the system reports -/

/-- How a child has ended. -/
inductive Ended where
  | exited (code : UInt8)
  | signaled (sig : Fin 128) (core_dumped : Bool)
  deriving DecidableEq

/-- The wait status. -/
def Ended.status : Ended → Nat
  | .exited code => code.toNat * 256
  | .signaled sig core_dumped => sig.val + if core_dumped then 128 else 0

/-- What `waitpid` returns, again after a signal. -/
inductive Waitpid where
  | pid (ended : Ended)
  | EINTR (again : Waitpid)
  | ECHILD
  | error
  deriving DecidableEq

/-- How the child has ended, if `waitpid` tells it in the end. -/
def Waitpid.ended : Waitpid → Option Ended
  | .pid ended => some ended
  | .EINTR again => again.ended
  | .ECHILD | .error => none

/-- `g_io_channel_read_line` -/
inductive GIOStatus where
  | NORMAL (line : CString)
  | EOF
  | ERROR
  | AGAIN
  deriving DecidableEq

/-- The condition a watch is called with: there is something to read, the
    other end has hung up, or neither. -/
inductive GIOCondition where
  | G_IO_IN (status : GIOStatus)
  | G_IO_HUP
  | other
  deriving DecidableEq

/-- What is left to read of a pipe after the call; `none` if the channel does
    not report this.  A line is read as it is in the pipe, and the end is
    reported when everything has been read. -/
def GIOCondition.rest (unread : CString) : GIOCondition → Option CString
  | .G_IO_IN (.NORMAL line) =>
      if line ≠ [] ∧ line.isPrefixOf unread then some (unread.drop line.length) else none
  | .G_IO_IN .EOF | .G_IO_HUP => if unread = [] then some unread else none
  | _ => some unread

/-- The watch ends. -/
def GIOCondition.finished : GIOCondition → Bool
  | .G_IO_IN .EOF | .G_IO_IN .ERROR | .G_IO_HUP => true
  | _ => false

/-- The text that `g_string_append` appends for what was read. -/
def GIOCondition.appended : GIOCondition → CString
  | .G_IO_IN (.NORMAL line) => line.takeWhile fun c => c ≠ '\x00'
  | _ => []

/-! ## Section 2: Jobs -/

/-- `CkJob`; the watches are those whose id is not 0, and `child_pid` says
    that it is not 0.

    The fields from `stdout` on are not in the source: what the child writes
    and what is left in the pipe, how often the leader has given up its
    reference, the arguments of the completion callback (the output that is
    parsed, or NULL), and whether the job has been completed or cancelled. -/
structure CkJob where
  out_watch_id : Bool
  err_watch_id : Bool
  std_out : CString
  std_err : CString
  child_pid : Bool
  ref_count : Nat
  stdout : CString
  unread : CString
  unrefs : Nat
  callbacks : List (Option CString)
  completed : Bool
  cancelled : Bool
  deriving DecidableEq

/-- `WEXITSTATUS` -/
def WEXITSTATUS (status : Nat) : Nat := status / 256 % 256

/-- `wait_on_child`: a status that `waitpid` has not set is what the variable
    `status` had been. -/
def wait_on_child (status : Nat) : Waitpid → Nat
  | .pid ended => ended.status
  | .EINTR again => wait_on_child status again
  | .ECHILD | .error => status

/-- The answer to `waitpid`, and what the variable had been. -/
structure Wait where
  waitpid : Waitpid
  status : Nat
  deriving DecidableEq

def Wait.exitstatus (w : Wait) : Nat := WEXITSTATUS (wait_on_child w.status w.waitpid)

namespace CkJob

/-- `ck_job_new` and `ck_job_execute`, with what the child will write. -/
def execute (stdout : CString) : CkJob where
  out_watch_id := true
  err_watch_id := true
  std_out := []
  std_err := []
  child_pid := true
  ref_count := 1
  stdout := stdout
  unread := stdout
  unrefs := 0
  callbacks := []
  completed := false
  cancelled := false

/-- `ck_job_cancel`; the child is killed and waited for. -/
def ck_job_cancel (j : CkJob) : CkJob := { j with child_pid := false }

/-- `ck_job_finalize` -/
def ck_job_finalize (j : CkJob) : CkJob :=
  { j.ck_job_cancel with out_watch_id := false, err_watch_id := false }

def g_object_unref (j : CkJob) : CkJob :=
  let j := { j with ref_count := j.ref_count - 1 }
  if j.ref_count = 0 then j.ck_job_finalize else j

/-- `remove_pending_job` -/
def remove_pending_job (j : CkJob) : CkJob :=
  { j.ck_job_cancel.g_object_unref with unrefs := j.unrefs + 1, cancelled := true }

/-- `wait_on_job` and the emission of `completed`, which holds a reference of
    the job; `job_completed` calls back. -/
def emit_completed (j : CkJob) (w : Wait) : CkJob :=
  { j with
    child_pid := false
    ref_count := j.ref_count + 1
    callbacks := j.callbacks ++ [if w.exitstatus = 0 then some j.std_out else none] }

/-- `maybe_complete_job`: whether the job emits. -/
def maybe_complete_job (j : CkJob) (w : Wait) : CkJob × Bool :=
  if !j.out_watch_id && !j.err_watch_id then (j.emit_completed w, true) else (j, false)

def error_watch (j : CkJob) (condition : GIOCondition) (w : Wait) : CkJob × Bool :=
  let j := { j with std_err := j.std_err ++ condition.appended }
  if condition.finished then { j with err_watch_id := false }.maybe_complete_job w
  else (j, false)

/-- `out_watch`; `unread` is left in the pipe. -/
def out_watch (j : CkJob) (condition : GIOCondition) (unread : CString) (w : Wait) :
    CkJob × Bool :=
  let j := { j with std_out := j.std_out ++ condition.appended, unread := unread }
  if condition.finished then { j with out_watch_id := false }.maybe_complete_job w
  else (j, false)

/-- The rest of `job_completed`, and the end of the emission. -/
def job_completed (j : CkJob) : CkJob :=
  { j.g_object_unref.g_object_unref with unrefs := j.unrefs + 1, completed := true }

end CkJob

/-! ## Section 3: The leader -/

/-- `CkSessionLeader`, with the jobs on a heap and those whose callbacks are
    running, the innermost one first. -/
structure CkSessionLeader where
  job : JobRef → CkJob
  next_job : JobRef
  pending_jobs : List JobRef
  emitting : List JobRef
  cancelled : Bool

inductive Label where
  /-- `ck_session_leader_collect_parameters`: what the child will write, and
      whether it starts. -/
  | collect_parameters (stdout : CString) (started : Bool)
  | out_watch (j : JobRef) (condition : GIOCondition) (w : Wait)
  | error_watch (j : JobRef) (condition : GIOCondition) (w : Wait)
  /-- A child that has exited stays until it is waited for. -/
  | child_exit (j : JobRef)
  /-- The innermost callback returns. -/
  | callback_returns
  | cancel
  /-- The manager drops its reference; the data of each job have their own. -/
  | release

namespace CkSessionLeader

def setJob (s : CkSessionLeader) (j : JobRef) (job : CkJob) : CkSessionLeader :=
  { s with job := Function.update s.job j job }

def collect_parameters (s : CkSessionLeader) (stdout : CString) (started : Bool) :
    CkSessionLeader :=
  if started then
    { s with
      job := Function.update s.job s.next_job (.execute stdout)
      next_job := s.next_job + 1
      pending_jobs := s.next_job :: s.pending_jobs }
  else s

/-- A watch has been called: the job, and whether it emits. -/
def watched (s : CkSessionLeader) (j : JobRef) (r : CkJob × Bool) : CkSessionLeader :=
  let s := s.setJob j r.1
  if r.2 then { s with emitting := j :: s.emitting } else s

def ck_session_leader_cancel (s : CkSessionLeader) : CkSessionLeader :=
  { s.pending_jobs.foldl (fun s j => s.setJob j (s.job j).remove_pending_job) s with
    pending_jobs := []
    cancelled := true }

/-- The innermost callback returns to `job_completed`. -/
def job_completed (s : CkSessionLeader) (j : JobRef) (emitting : List JobRef) :
    CkSessionLeader :=
  { s.setJob j (s.job j).job_completed with
    pending_jobs := s.pending_jobs.erase j
    emitting := emitting }

end CkSessionLeader

/-- A leader without jobs. -/
def ck_session_leader_init : CkSessionLeader where
  job _ := .execute []
  next_job := 0
  pending_jobs := []
  emitting := []
  cancelled := false

def leader_next (s : CkSessionLeader) : Label → Option CkSessionLeader
  | .collect_parameters stdout started => some (s.collect_parameters stdout started)
  | .out_watch j condition w =>
      if j < s.next_job ∧ (s.job j).out_watch_id then
        (condition.rest (s.job j).unread).map fun unread =>
          s.watched j ((s.job j).out_watch condition unread w)
      else none
  | .error_watch j condition w =>
      if j < s.next_job ∧ (s.job j).err_watch_id then
        some (s.watched j ((s.job j).error_watch condition w))
      else none
  | .child_exit _ => some s
  | .callback_returns =>
      match s.emitting with
      | [] => none
      | j :: emitting => some (s.job_completed j emitting)
  | .cancel => some s.ck_session_leader_cancel
  | .release => some s

def leader_system : LTS.System CkSessionLeader Label where
  init s := s = ck_session_leader_init
  next := leader_next

/-- The steps, one constructor for each label. -/
inductive JobStep (s : CkSessionLeader) : Label → CkSessionLeader → Prop where
  | collect_parameters (stdout : CString) (started : Bool) :
      JobStep s (.collect_parameters stdout started) (s.collect_parameters stdout started)
  | out_watch (j : JobRef) (condition : GIOCondition) (w : Wait) (unread : CString) :
      j < s.next_job → (s.job j).out_watch_id = true →
      condition.rest (s.job j).unread = some unread → JobStep s (.out_watch j condition w)
        (s.watched j ((s.job j).out_watch condition unread w))
  | error_watch (j : JobRef) (condition : GIOCondition) (w : Wait) :
      j < s.next_job → (s.job j).err_watch_id = true → JobStep s (.error_watch j condition w)
        (s.watched j ((s.job j).error_watch condition w))
  | child_exit (j : JobRef) : JobStep s (.child_exit j) s
  | callback_returns (j : JobRef) (emitting : List JobRef) : s.emitting = j :: emitting →
      JobStep s .callback_returns (s.job_completed j emitting)
  | cancel : JobStep s .cancel s.ck_session_leader_cancel
  | release : JobStep s .release s

theorem job_step {s s' : CkSessionLeader} {label : Label}
    (h : leader_system.next s label = some s') : JobStep s label s' := by
  cases label with
  | collect_parameters stdout started =>
    cases h
    exact .collect_parameters stdout started
  | out_watch j condition w =>
    obtain ⟨⟨hj, hwatch⟩, h⟩ := Option.ite_none_right_eq_some.mp h
    obtain ⟨unread, hrest, rfl⟩ := Option.map_eq_some_iff.mp h
    exact .out_watch j condition w unread hj hwatch hrest
  | error_watch j condition w =>
    obtain ⟨⟨hj, hwatch⟩, h⟩ := Option.ite_none_right_eq_some.mp h
    cases h
    exact .error_watch j condition w hj hwatch
  | child_exit j =>
    cases h
    exact .child_exit j
  | callback_returns =>
    simp only [leader_system, leader_next] at h
    split at h
    · cases h
    · rename_i j emitting hemitting
      cases h
      exact .callback_returns j emitting hemitting
  | cancel =>
    cases h
    exact .cancel
  | release =>
    cases h
    exact .release

end Leader
