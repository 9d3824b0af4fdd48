import ConsoleKit.Leader.Job

/-! # The life of a job

    A job is pending until its callback has returned or the leader has been
    cancelled, and the leader gives up its reference then.  A leader that is
    cancelled while a callback runs gives it up twice: the job is still in
    the list of pending jobs, and `job_completed` does not look.

    This module provides:
    - `Phase`: the abstract life of a job,
    - `JobsValid`: each job is in one of the phases, with its step lemma,
    - `job_lifecycle`: when a run keeps the rules, over every run.
-/

namespace Leader

open Libc

/-! ## Section 1: Phases -/

/-- What the rules are about. -/
structure Snapshot where
  pending : Bool
  emitting : Bool
  watched : Bool
  ref_count : Nat
  unrefs : Nat
  callbacks : Nat
  completed : Bool
  cancelled : Bool

/-- The life of a job.  It is `calling` while its callback runs, and
    `revoked` when it is cancelled in the meantime. -/
inductive Phase where
  | running | calling | revoked | completed | cancelled

def Phase.snapshot : Phase → Snapshot
  | .running => ⟨true, false, true, 1, 0, 0, false, false⟩
  | .calling => ⟨true, true, false, 2, 0, 1, false, false⟩
  | .revoked => ⟨false, true, false, 1, 1, 1, false, true⟩
  | .completed => ⟨false, false, false, 0, 1, 1, true, false⟩
  | .cancelled => ⟨false, false, false, 0, 1, 0, false, true⟩

def CkJob.watched (j : CkJob) : Bool := j.out_watch_id || j.err_watch_id

/-- What the rules are about, given the two lists. -/
def CkJob.snapshot (j : CkJob) (pending emitting : Bool) : Snapshot :=
  ⟨pending, emitting, j.watched, j.ref_count, j.unrefs, j.callbacks.length, j.completed,
    j.cancelled⟩

def CkSessionLeader.snapshot (s : CkSessionLeader) (j : JobRef) : Snapshot :=
  (s.job j).snapshot (decide (j ∈ s.pending_jobs)) (decide (j ∈ s.emitting))

/-- Each job that was started is in one of the phases. -/
structure JobsValid (s : CkSessionLeader) : Prop where
  phase : ∀ j, j < s.next_job → ∃ p : Phase, s.snapshot j = p.snapshot
  pending : ∀ j ∈ s.pending_jobs, j < s.next_job
  emitting : ∀ j ∈ s.emitting, j < s.next_job
  pending_nodup : s.pending_jobs.Nodup
  emitting_nodup : s.emitting.Nodup

namespace CkJob

variable {j : CkJob} {w : Wait}

/-- A job that has finished one of its pipes goes on, or calls back. -/
theorem maybe_complete_job_cases :
    ((j.maybe_complete_job w).2 = false ∧ j.watched = true ∧ (j.maybe_complete_job w).1 = j) ∨
    ((j.maybe_complete_job w).2 = true ∧ j.watched = false ∧
      (j.maybe_complete_job w).1 = j.emit_completed w) := by
  unfold maybe_complete_job watched
  cases j.out_watch_id <;> cases j.err_watch_id <;> simp

theorem g_object_unref_callbacks (j : CkJob) : j.g_object_unref.callbacks = j.callbacks := by
  unfold g_object_unref
  dsimp only
  split <;> rfl

/-- A watch leaves a running job running, or the job calls back. -/
structure Watched (j : CkJob) (r : CkJob × Bool) : Prop where
  goes_on : r.2 = false → r.1.snapshot true false = j.snapshot true false
  calls : r.2 = true → r.1.snapshot true true =
    { j.snapshot true true with
      watched := false
      ref_count := j.ref_count + 1
      callbacks := j.callbacks.length + 1 }

theorem snapshot_watched {pending emitting watched : Bool} (h : j.watched = watched) :
    j.snapshot pending emitting = { j.snapshot pending emitting with watched := watched } := by
  rw [← h]
  rfl

theorem emit_completed_snapshot (pending emitting : Bool) :
    (j.emit_completed w).snapshot pending emitting =
      { j.snapshot pending emitting with
        ref_count := j.ref_count + 1
        callbacks := j.callbacks.length + 1 } := by
  simp [snapshot, emit_completed, watched]

theorem watched_maybe_complete {j' : CkJob} (hwatched : j.watched = true)
    (hsame : ∀ pending emitting watched,
      { j'.snapshot pending emitting with watched := watched } =
        { j.snapshot pending emitting with watched := watched }) :
    Watched j (j'.maybe_complete_job w) := by
  rcases maybe_complete_job_cases (j := j') (w := w) with ⟨hno, hstill, heq⟩ | ⟨hyes, hnot, heq⟩
  · refine ⟨fun _ => ?_, fun h => ?_⟩
    · rw [heq, snapshot_watched hstill, snapshot_watched hwatched, hsame]
    · rw [hno] at h
      cases h
  · refine ⟨fun h => ?_, fun _ => ?_⟩
    · rw [hyes] at h
      cases h
    · have hfields := hsame true true false
      rw [heq, emit_completed_snapshot, snapshot_watched hnot, hfields]
      simp only [snapshot, Snapshot.mk.injEq, true_and] at hfields
      rw [hfields.1, hfields.2.2.1]

theorem out_watch_watched {condition : GIOCondition} {unread : CString}
    (h : j.out_watch_id = true) : Watched j (j.out_watch condition unread w) := by
  have hwatched : j.watched = true := by simp [watched, h]
  unfold out_watch
  dsimp only
  split
  · exact watched_maybe_complete hwatched fun _ _ _ => rfl
  · exact ⟨fun _ => rfl, nofun⟩

theorem error_watch_watched {condition : GIOCondition} (h : j.err_watch_id = true) :
    Watched j (j.error_watch condition w) := by
  have hwatched : j.watched = true := by simp [watched, h]
  unfold error_watch
  dsimp only
  split
  · exact watched_maybe_complete hwatched fun _ _ _ => rfl
  · exact ⟨fun _ => rfl, nofun⟩

end CkJob

/-! ## Section 2: Steps of the leader -/

/-- A step that is not about a job leaves it in its phase. -/
theorem CkSessionLeader.snapshot_congr {s s' : CkSessionLeader} {j : JobRef}
    (hjob : s'.job j = s.job j) (hpending : j ∈ s'.pending_jobs ↔ j ∈ s.pending_jobs)
    (hemitting : j ∈ s'.emitting ↔ j ∈ s.emitting) : s'.snapshot j = s.snapshot j := by
  unfold snapshot
  rw [hjob, decide_eq_decide.mpr hpending, decide_eq_decide.mpr hemitting]

namespace JobsValid

variable {s : CkSessionLeader}

theorem init : JobsValid ck_session_leader_init := by
  constructor
  case phase => exact fun j hj => absurd hj (Nat.not_lt_zero j)
  case pending => exact fun j hj => absurd hj List.not_mem_nil
  case emitting => exact fun j hj => absurd hj List.not_mem_nil
  case pending_nodup => exact List.nodup_nil
  case emitting_nodup => exact List.nodup_nil

/-- A job with a watch is running. -/
theorem running (h : JobsValid s) {j : JobRef} (hj : j < s.next_job)
    (hwatched : (s.job j).watched = true) : s.snapshot j = Phase.running.snapshot := by
  obtain ⟨p, hp⟩ := h.phase j hj
  have hflag : p.snapshot.watched = true := by
    rw [← hp]
    exact hwatched
  cases p with
  | running => exact hp
  | _ => cases hflag

theorem collect_parameters (h : JobsValid s) (stdout : CString) (started : Bool) :
    JobsValid (s.collect_parameters stdout started) := by
  unfold CkSessionLeader.collect_parameters
  split
  · have hpending : s.next_job ∉ s.pending_jobs := fun hmem =>
      Nat.lt_irrefl _ (h.pending _ hmem)
    have hemitting : s.next_job ∉ s.emitting := fun hmem => Nat.lt_irrefl _ (h.emitting _ hmem)
    constructor
    case phase =>
      intro j hj
      by_cases hnew : j = s.next_job
      · subst hnew
        refine ⟨.running, ?_⟩
        simp [CkSessionLeader.snapshot, CkJob.snapshot, hemitting, CkJob.execute,
          CkJob.watched, Phase.snapshot]
      · obtain ⟨p, hp⟩ := h.phase j (Nat.lt_of_le_of_ne (Nat.le_of_lt_succ hj) hnew)
        refine ⟨p, hp ▸ CkSessionLeader.snapshot_congr (Function.update_of_ne hnew _ _) ?_ .rfl⟩
        simp [hnew]
    case pending =>
      intro j hj
      rcases List.mem_cons.mp hj with rfl | hj
      · exact Nat.lt_succ_self _
      · exact Nat.lt_succ_of_lt (h.pending j hj)
    case emitting => exact fun j hj => Nat.lt_succ_of_lt (h.emitting j hj)
    case pending_nodup => exact List.nodup_cons.mpr ⟨hpending, h.pending_nodup⟩
    case emitting_nodup => exact h.emitting_nodup
  · exact h

theorem watched (h : JobsValid s) {j : JobRef} (hj : j < s.next_job)
    (hwatched : (s.job j).watched = true) {r : CkJob × Bool} (hr : CkJob.Watched (s.job j) r) :
    JobsValid (s.watched j r) := by
  have hrunning := h.running hj hwatched
  have hflags := hrunning
  simp only [CkSessionLeader.snapshot, CkJob.snapshot, Phase.snapshot, Snapshot.mk.injEq,
    decide_eq_true_eq, decide_eq_false_iff_not] at hflags
  obtain ⟨hpending, hemitting, -, href, hunrefs, hcallbacks, hcompleted, hcancelled⟩ := hflags
  have hold : ∀ i, i ≠ j → (Function.update s.job j r.1) i = s.job i := fun i hi =>
    Function.update_of_ne hi _ _
  unfold CkSessionLeader.watched
  dsimp only
  cases hemits : r.2 with
  | false =>
    rw [if_neg (by decide)]
    refine ⟨fun i hi => ?_, h.pending, h.emitting, h.pending_nodup, h.emitting_nodup⟩
    by_cases hij : i = j
    · subst hij
      refine ⟨.running, ?_⟩
      rw [← hrunning]
      have hsame := hr.goes_on hemits
      simpa [CkSessionLeader.snapshot, CkSessionLeader.setJob, hpending, hemitting] using hsame
    · obtain ⟨p, hp⟩ := h.phase i hi
      exact ⟨p, hp ▸ CkSessionLeader.snapshot_congr (hold i hij) .rfl .rfl⟩
  | true =>
    rw [if_pos rfl]
    refine ⟨fun i hi => ?_, h.pending, fun i hi => ?_, h.pending_nodup,
      List.nodup_cons.mpr ⟨hemitting, h.emitting_nodup⟩⟩
    · by_cases hij : i = j
      · subst hij
        refine ⟨.calling, ?_⟩
        have hcalls := hr.calls hemits
        rw [CkSessionLeader.snapshot]
        simp only [CkSessionLeader.setJob, Function.update_self, hpending, List.mem_cons, true_or,
          decide_true]
        rw [hcalls]
        simp [CkJob.snapshot, Phase.snapshot, href, hunrefs, hcallbacks, hcompleted, hcancelled]
      · obtain ⟨p, hp⟩ := h.phase i hi
        refine ⟨p, hp ▸ CkSessionLeader.snapshot_congr (hold i hij) .rfl ?_⟩
        exact List.mem_cons.trans (or_iff_right hij)
    · rcases List.mem_cons.mp hi with rfl | hi
      · exact hj
      · exact h.emitting i hi

/-- What `remove_pending_job` does to a job that is pending. -/
theorem removed (h : JobsValid s) {j : JobRef} (hj : j ∈ s.pending_jobs) :
    ∃ p : Phase, (s.job j).remove_pending_job.snapshot false (decide (j ∈ s.emitting)) =
      p.snapshot := by
  obtain ⟨p, hp⟩ := h.phase j (h.pending j hj)
  have hpending : p.snapshot.pending = true := by
    rw [← hp]
    exact decide_eq_true hj
  simp only [CkSessionLeader.snapshot, CkJob.snapshot] at hp
  cases p with
  | running =>
    -- the last reference is gone, and with it the watches
    refine ⟨.cancelled, ?_⟩
    simp only [Phase.snapshot, Snapshot.mk.injEq] at hp
    obtain ⟨-, hemitting, -, href, hunrefs, hcallbacks, hcompleted, -⟩ := hp
    simp [CkJob.snapshot, CkJob.remove_pending_job, CkJob.g_object_unref, CkJob.ck_job_finalize,
      CkJob.ck_job_cancel, CkJob.watched, Phase.snapshot, hemitting, href, hunrefs, hcallbacks,
      hcompleted]
  | calling =>
    -- the emission still holds a reference
    refine ⟨.revoked, ?_⟩
    simp only [Phase.snapshot, Snapshot.mk.injEq] at hp
    obtain ⟨-, hemitting, hwatched, href, hunrefs, hcallbacks, hcompleted, -⟩ := hp
    simp only [CkJob.watched, Bool.or_eq_false_iff] at hwatched
    simp [CkJob.snapshot, CkJob.remove_pending_job, CkJob.g_object_unref, CkJob.ck_job_cancel,
      CkJob.watched, Phase.snapshot, hemitting, href, hunrefs, hcallbacks, hcompleted,
      hwatched.1, hwatched.2]
  | _ => cases hpending

end JobsValid

/-- The jobs of a list are removed one by one. -/
theorem foldl_remove_pending_job (s : CkSessionLeader) {js : List JobRef} (hjs : js.Nodup) :
    (∀ j, (js.foldl (fun s j => s.setJob j (s.job j).remove_pending_job) s).job j =
      if j ∈ js then (s.job j).remove_pending_job else s.job j) ∧
    (js.foldl (fun s j => s.setJob j (s.job j).remove_pending_job) s).next_job = s.next_job ∧
    (js.foldl (fun s j => s.setJob j (s.job j).remove_pending_job) s).emitting = s.emitting := by
  induction js generalizing s with
  | nil => exact ⟨fun j => (if_neg List.not_mem_nil).symm, rfl, rfl⟩
  | cons i js ih =>
    obtain ⟨hi, hjs⟩ := List.nodup_cons.mp hjs
    obtain ⟨hjob, hnext, hemitting⟩ := ih (s.setJob i (s.job i).remove_pending_job) hjs
    refine ⟨fun j => ?_, hnext, hemitting⟩
    rw [List.foldl_cons, hjob]
    by_cases hij : j = i
    · subst hij
      rw [if_neg hi, if_pos List.mem_cons_self]
      exact Function.update_self _ _ _
    · have hsame : (s.setJob i (s.job i).remove_pending_job).job j = s.job j :=
        Function.update_of_ne hij _ _
      rw [hsame]
      exact if_congr (List.mem_cons.trans (or_iff_right hij)).symm rfl rfl

/-- A cancelled leader has given up the pending jobs. -/
theorem cancel_job {s : CkSessionLeader} (h : JobsValid s) (j : JobRef) :
    s.ck_session_leader_cancel.job j =
      if j ∈ s.pending_jobs then (s.job j).remove_pending_job else s.job j :=
  (foldl_remove_pending_job s h.pending_nodup).1 j

theorem JobsValid.cancel {s : CkSessionLeader} (h : JobsValid s) :
    JobsValid s.ck_session_leader_cancel := by
  obtain ⟨-, hnext, hemitting⟩ := foldl_remove_pending_job s h.pending_nodup
  have hemitting' : s.ck_session_leader_cancel.emitting = s.emitting := hemitting
  have hnext' : s.ck_session_leader_cancel.next_job = s.next_job := hnext
  constructor
  case phase =>
    intro j hj
    rw [hnext'] at hj
    by_cases hpending : j ∈ s.pending_jobs
    · obtain ⟨p, hp⟩ := h.removed hpending
      refine ⟨p, hp ▸ ?_⟩
      unfold CkSessionLeader.snapshot
      rw [cancel_job h, if_pos hpending, hemitting']
      rfl
    · obtain ⟨p, hp⟩ := h.phase j hj
      refine ⟨p, hp ▸ CkSessionLeader.snapshot_congr ?_ ?_ ?_⟩
      · rw [cancel_job h, if_neg hpending]
      · exact iff_of_false List.not_mem_nil hpending
      · rw [hemitting']
  case pending => exact fun j hj => absurd hj List.not_mem_nil
  case emitting =>
    rw [hemitting', hnext']
    exact h.emitting
  case pending_nodup => exact List.nodup_nil
  case emitting_nodup =>
    rw [hemitting']
    exact h.emitting_nodup

/-! ## Section 3: A callback returns -/

/-- Neither a cancelled leader nor a callback that returns calls back. -/
theorem cancel_callbacks (s : CkSessionLeader) (j : JobRef) :
    (s.ck_session_leader_cancel.job j).callbacks = (s.job j).callbacks := by
  have hjobs : ∀ (js : List JobRef) (s : CkSessionLeader),
      ((js.foldl (fun s j => s.setJob j (s.job j).remove_pending_job) s).job j).callbacks =
        (s.job j).callbacks := by
    intro js
    induction js with
    | nil => exact fun s => rfl
    | cons i js ih =>
      intro s
      rw [List.foldl_cons, ih]
      by_cases hij : j = i
      · subst hij
        simp [CkSessionLeader.setJob, CkJob.remove_pending_job, CkJob.g_object_unref_callbacks,
          CkJob.ck_job_cancel]
      · exact congrArg CkJob.callbacks (Function.update_of_ne hij _ _)
  exact hjobs s.pending_jobs s

theorem completed_callbacks (s : CkSessionLeader) (j : JobRef) (emitting : List JobRef)
    (i : JobRef) : ((s.job_completed j emitting).job i).callbacks = (s.job i).callbacks := by
  by_cases hij : i = j
  · subst hij
    simp [CkSessionLeader.job_completed, CkSessionLeader.setJob, CkJob.job_completed,
      CkJob.g_object_unref_callbacks]
  · exact congrArg CkJob.callbacks (Function.update_of_ne hij _ _)

section
variable {s : CkSessionLeader} {j : JobRef} {emitting : List JobRef}

/-- The two phases of a job whose callback is running. -/
theorem JobsValid.emitting_phase (h : JobsValid s) (hj : j ∈ s.emitting) :
    s.snapshot j = Phase.calling.snapshot ∨ s.snapshot j = Phase.revoked.snapshot := by
  obtain ⟨p, hp⟩ := h.phase j (h.emitting j hj)
  have hflag : p.snapshot.emitting = true := by
    rw [← hp]
    exact decide_eq_true hj
  cases p with
  | calling => exact .inl hp
  | revoked => exact .inr hp
  | _ => cases hflag

theorem JobsValid.job_completed (h : JobsValid s) (hemitting : s.emitting = j :: emitting)
    (hcancelled : (s.job j).cancelled = false) : JobsValid (s.job_completed j emitting) := by
  have hj : j ∈ s.emitting := by simp [hemitting]
  have hnodup := h.emitting_nodup
  rw [hemitting, List.nodup_cons] at hnodup
  rcases h.emitting_phase hj with hphase | hphase
  · simp only [CkSessionLeader.snapshot, CkJob.snapshot, Phase.snapshot,
      Snapshot.mk.injEq] at hphase
    obtain ⟨-, -, hwatched, href, hunrefs, hcallbacks, -, -⟩ := hphase
    constructor
    case phase =>
      intro i hi
      by_cases hij : i = j
      · subst hij
        refine ⟨.completed, ?_⟩
        have hnot : i ∉ s.pending_jobs.erase i := fun hmem =>
          ((List.Nodup.mem_erase_iff h.pending_nodup).mp hmem).1 rfl
        simp [CkSessionLeader.snapshot, CkSessionLeader.job_completed, CkSessionLeader.setJob,
          hnot, hnodup.1, CkJob.snapshot, CkJob.job_completed, CkJob.g_object_unref,
          CkJob.ck_job_finalize, CkJob.ck_job_cancel, CkJob.watched, Phase.snapshot, href,
          hunrefs, hcallbacks, hcancelled]
      · obtain ⟨p, hp⟩ := h.phase i hi
        refine ⟨p, hp ▸ CkSessionLeader.snapshot_congr (Function.update_of_ne hij _ _) ?_ ?_⟩
        · exact List.mem_erase_of_ne hij
        · rw [hemitting]
          exact (List.mem_cons.trans (or_iff_right hij)).symm
    case pending => exact fun i hi => h.pending i (List.mem_of_mem_erase hi)
    case emitting => exact fun i hi => h.emitting i (hemitting ▸ List.mem_cons_of_mem _ hi)
    case pending_nodup => exact h.pending_nodup.erase j
    case emitting_nodup => exact hnodup.2
  · have hflag : (s.job j).cancelled = true := congrArg Snapshot.cancelled hphase
    rw [hcancelled] at hflag
    cases hflag

end

/-! ## Section 4: The rules -/

/-- Each job that was started calls back at most once, is pending exactly
    while it is neither completed nor cancelled, and loses the reference of
    the leader once when it is. -/
structure LifecycleOk (s : CkSessionLeader) : Prop where
  started : ∀ j ∈ s.pending_jobs, j < s.next_job
  nodup : s.pending_jobs.Nodup
  once : ∀ j, j < s.next_job → (s.job j).callbacks.length ≤ 1
  pending : ∀ j, j < s.next_job →
    (j ∈ s.pending_jobs ↔ (s.job j).completed = false ∧ (s.job j).cancelled = false)
  released : ∀ j, j < s.next_job →
    (s.job j).unrefs = if (s.job j).completed || (s.job j).cancelled then 1 else 0

/-- A job that calls back was not cancelled before. -/
def CallsInTime (s s' : CkSessionLeader) : Prop :=
  ∀ j, j < s.next_job → (s'.job j).callbacks ≠ (s.job j).callbacks → (s.job j).cancelled = false

/-- The callback of a job returns that was cancelled while it was running. -/
def ReturnsRevoked (s : CkSessionLeader) : Label → Prop
  | .callback_returns => ∃ j emitting, s.emitting = j :: emitting ∧ (s.job j).cancelled = true
  | _ => False

section
variable {s s' : CkSessionLeader} {label : Label}

/-- What the phase of a job says of its fields. -/
theorem JobsValid.fields (h : JobsValid s) {j : JobRef} (hj : j < s.next_job) :
    ∃ p : Phase, decide (j ∈ s.pending_jobs) = p.snapshot.pending ∧
      (s.job j).callbacks.length = p.snapshot.callbacks ∧
      (s.job j).unrefs = p.snapshot.unrefs ∧ (s.job j).completed = p.snapshot.completed ∧
      (s.job j).cancelled = p.snapshot.cancelled := by
  obtain ⟨p, hp⟩ := h.phase j hj
  exact ⟨p, congrArg Snapshot.pending hp, congrArg Snapshot.callbacks hp,
    congrArg Snapshot.unrefs hp, congrArg Snapshot.completed hp, congrArg Snapshot.cancelled hp⟩

theorem JobsValid.lifecycleOk (h : JobsValid s) : LifecycleOk s := by
  refine ⟨h.pending, h.pending_nodup, fun j hj => ?_, fun j hj => ?_, fun j hj => ?_⟩ <;>
    obtain ⟨p, hpending, hcallbacks, hunrefs, hcompleted, hcancelled⟩ := h.fields hj
  · rw [hcallbacks]
    cases p <;> decide
  · rw [← decide_eq_true_iff (p := j ∈ s.pending_jobs), hpending, hcompleted, hcancelled]
    cases p <;> decide
  · rw [hunrefs, hcompleted, hcancelled]
    cases p <;> decide

/-- A job that has a watch was not cancelled, and the others are not
    touched. -/
theorem watched_calls_in_time (h : JobsValid s) {j : JobRef} (hj : j < s.next_job)
    (hwatched : (s.job j).watched = true) (r : CkJob × Bool) : CallsInTime s (s.watched j r) := by
  intro i _ hcalls
  by_cases hij : i = j
  · subst hij
    exact congrArg Snapshot.cancelled (h.running hj hwatched)
  · refine absurd ?_ hcalls
    unfold CkSessionLeader.watched
    dsimp only
    have hsame : Function.update s.job j r.1 i = s.job i := Function.update_of_ne hij _ _
    split <;> exact congrArg CkJob.callbacks hsame

/-- **Step lemma**: the rules are kept, unless the callback of a job returns
    that was cancelled in the meantime. -/
theorem jobs_step (h : JobsValid s) (hnext : leader_system.next s label = some s')
    (hlabel : ¬ ReturnsRevoked s label) : JobsValid s' ∧ CallsInTime s s' := by
  cases job_step hnext with
  | collect_parameters stdout started =>
    refine ⟨h.collect_parameters stdout started, fun j hj hcalls => ?_⟩
    -- A new job has made no calls.
    refine absurd ?_ hcalls
    unfold CkSessionLeader.collect_parameters
    split
    · exact congrArg CkJob.callbacks (Function.update_of_ne (Nat.ne_of_lt hj) _ _)
    · rfl
  | out_watch j condition w unread hj hwatch =>
    have hwatched : (s.job j).watched = true := by simp [CkJob.watched, hwatch]
    exact ⟨h.watched hj hwatched (CkJob.out_watch_watched hwatch),
      watched_calls_in_time h hj hwatched _⟩
  | error_watch j condition w hj hwatch =>
    have hwatched : (s.job j).watched = true := by simp [CkJob.watched, hwatch]
    exact ⟨h.watched hj hwatched (CkJob.error_watch_watched hwatch),
      watched_calls_in_time h hj hwatched _⟩
  | child_exit j => exact ⟨h, fun _ _ hcalls => absurd rfl hcalls⟩
  | callback_returns j emitting hemitting =>
    have hcancelled : (s.job j).cancelled = false :=
      eq_false_of_ne_true fun htrue => hlabel ⟨j, emitting, hemitting, htrue⟩
    exact ⟨h.job_completed hemitting hcancelled, fun i _ hcalls =>
      absurd (completed_callbacks s j emitting i) hcalls⟩
  | cancel => exact ⟨h.cancel, fun j _ hcalls => absurd (cancel_callbacks s j) hcalls⟩
  | release => exact ⟨h, fun _ _ hcalls => absurd rfl hcalls⟩

/-- The reference that has been given up is given up again. -/
theorem returns_revoked (h : JobsValid s) (hnext : leader_system.next s label = some s')
    (hlabel : ReturnsRevoked s label) : ¬ LifecycleOk s' := by
  cases label with
  | callback_returns =>
    obtain ⟨j, emitting, hemitting, hcancelled⟩ := hlabel
    simp only [leader_system, leader_next, hemitting] at hnext
    cases hnext
    intro hok
    have hj : j ∈ s.emitting := by simp [hemitting]
    have hunrefs : (s.job j).unrefs = 1 := by
      rcases h.emitting_phase hj with hphase | hphase
      · have hflag : (s.job j).cancelled = false := congrArg Snapshot.cancelled hphase
        rw [hcancelled] at hflag
        cases hflag
      · exact congrArg Snapshot.unrefs hphase
    have hreleased := hok.released j (h.emitting j hj)
    simp [CkSessionLeader.job_completed, CkSessionLeader.setJob, CkJob.job_completed,
      hunrefs] at hreleased
  | _ => exact hlabel.elim

end

/-- **The life of the jobs** follows the rules in a run exactly if no job is
    cancelled while its callback runs and then completed. -/
theorem job_lifecycle (labels : List Label) :
    leader_system.Along (fun s _ s' => LifecycleOk s' ∧ CallsInTime s s')
        ck_session_leader_init labels ↔
      leader_system.Along (fun s label _ => ¬ ReturnsRevoked s label)
        ck_session_leader_init labels := by
  refine LTS.System.along_congr (I := JobsValid) ?_ ?_ JobsValid.init labels
  · intro s label s' hs hnext
    constructor
    · intro hok hlabel
      exact returns_revoked hs hnext hlabel hok.1
    · intro hlabel
      obtain ⟨hvalid, hintime⟩ := jobs_step hs hnext hlabel
      exact ⟨hvalid.lifecycleOk, hintime⟩
  · intro s label s' hs hnext hok
    exact (jobs_step hs hnext fun hlabel => returns_revoked hs hnext hlabel hok.1).1

/-- The client's connection is lost while the callback opens its session. -/
def cancelled_in_callback : List Label :=
  [.collect_parameters [] true, .error_watch 0 .G_IO_HUP ⟨.ECHILD, 0⟩,
    .out_watch 0 .G_IO_HUP ⟨.pid (.exited 0), 0⟩, .cancel, .callback_returns]

theorem job_lifecycle_fails :
    ∃ s, leader_system.run ck_session_leader_init cancelled_in_callback = some s ∧
      (s.job 0).unrefs = 2 ∧
      ¬ leader_system.Along (fun s _ s' => LifecycleOk s' ∧ CallsInTime s s')
        ck_session_leader_init cancelled_in_callback := by
  refine ⟨_, rfl, by decide, fun h => ?_⟩
  have hok := (((((h _ rfl).2 _ rfl).2 _ rfl).2 _ rfl).2 _ rfl).1.1
  have hreleased := hok.released 0 (by decide)
  revert hreleased
  decide

end Leader
