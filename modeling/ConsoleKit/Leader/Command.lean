import ConsoleKit.Framework.Shell
import ConsoleKit.Leader.Parameters

/-! # The command of the collector

    `ck_session_leader_collect_parameters` prints a command line, and
    `ck_job_execute` splits it again.  The text of the client is put into the
    line as it is, without quotes.

    This module provides:
    - `collect_parameters`: the arguments that the collector is started with,
    - `argv_intact_iff`: when the text of the client is one of them.
-/

namespace Leader

open Libc CkManager

/-! ## Section 1: Printing and splitting -/

/-- `LIBEXECDIR`, the directory that is set when the program is built. -/
structure Libexecdir where
  path : CString
  plain : Shell.Plain path

/-- The device that a client has set; a value that is not a string gives NULL. -/
def x11_display_device (override_parameters : Overrides) : Option CString :=
  (override_parameters.lookup (cstr "x11-display-device")).bind g_variant_get_string

/-- The command that `ck_session_leader_collect_parameters` prints. -/
def collect_command (libexecdir : Libexecdir) (uid pid : Nat)
    (x11_display_device : Option CString) : CString :=
  match x11_display_device with
  | some (c :: device) =>
      libexecdir.path ++ cstr "/ck-collect-session-info" ++ cstr " --uid " ++ percent_u uid ++
        cstr " --pid " ++ percent_u pid ++ cstr " --x11-display-device " ++ c :: device
  | _ =>
      libexecdir.path ++ cstr "/ck-collect-session-info" ++ cstr " --uid " ++ percent_u uid ++
        cstr " --pid " ++ percent_u pid

/-- `ck_job_execute`: the arguments of the child, if one is started; `spawn`
    is whether `g_spawn_async_with_pipes` starts it. -/
def ck_job_execute (spawn : List CString → Bool) (command : CString) : Option (List CString) :=
  (Shell.g_shell_parse_argv command).filter spawn

/-- `ck_session_leader_collect_parameters`: the arguments of the child. -/
def collect_parameters (libexecdir : Libexecdir) (spawn : List CString → Bool)
    (override_parameters : Overrides) (uid pid : Nat) : Option (List CString) :=
  ck_job_execute spawn
    (collect_command libexecdir uid pid (x11_display_device override_parameters))

/-! ## Section 2: The words of the command -/

/-- The arguments that do not come from the client. -/
def collector_argv (libexecdir : Libexecdir) (uid pid : Nat) : List CString :=
  [libexecdir.path ++ cstr "/ck-collect-session-info", cstr "--uid", percent_u uid,
    cstr "--pid", percent_u pid]

theorem plain_percent_u (n : Nat) : Shell.Plain (percent_u n) := by
  have hordinary : ∀ c ∈ percent_u n, c ≠ '#' ∧ Shell.ordinary c = true := by
    intro c hmem
    have hdigit := percent_u_isDigit n c hmem
    constructor
    · rintro rfl
      cases hdigit
    · apply Shell.ordinary_iff.mpr
      refine ⟨?_, ?_, ?_, ?_⟩
      · have hspace := isspace_of_isDigit hdigit
        simp only [isspace, Bool.or_eq_false_iff] at hspace
        simp [Shell.is_blank, hspace]
      · rintro rfl
        cases hdigit
      · rintro rfl
        cases hdigit
      · rintro rfl
        cases hdigit
  constructor
  · exact percent_u_ne_nil n
  · exact fun c hmem => (hordinary c hmem).2
  · intro hhead
    exact (hordinary '#' (List.mem_of_head? hhead)).1 rfl

/-- The path of the collector. -/
theorem plain_path (libexecdir : Libexecdir) :
    Shell.Plain (libexecdir.path ++ cstr "/ck-collect-session-info") := by
  obtain ⟨hne, hordinary, hcomment⟩ := libexecdir.plain
  have hfile : ∀ c ∈ cstr "/ck-collect-session-info", Shell.ordinary c = true :=
    List.all_eq_true.mp (by decide)
  constructor
  · exact List.append_ne_nil_of_left_ne_nil hne _
  · intro c hmem
    rcases List.mem_append.mp hmem with h | h
    · exact hordinary c h
    · exact hfile c h
  · rwa [List.head?_append_of_ne_nil _ hne]

theorem plain_argv (libexecdir : Libexecdir) (uid pid : Nat) :
    ∀ w ∈ collector_argv libexecdir uid pid ++ [cstr "--x11-display-device"], Shell.Plain w := by
  intro w hmem
  simp only [collector_argv, List.cons_append, List.nil_append, List.mem_cons,
    List.not_mem_nil, or_false] at hmem
  rcases hmem with rfl | rfl | rfl | rfl | rfl | rfl
  · exact plain_path libexecdir
  · exact .of_all (by decide) (by decide) (by decide)
  · exact plain_percent_u uid
  · exact .of_all (by decide) (by decide) (by decide)
  · exact plain_percent_u pid
  · exact .of_all (by decide) (by decide) (by decide)

/-- Splitting the command begins with the words that were printed. -/
theorem parse_collect_command (libexecdir : Libexecdir) (uid pid : Nat) {device : CString}
    (hne : device ≠ []) :
    Shell.g_shell_parse_argv (collect_command libexecdir uid pid (some device)) =
      ((Shell.Scanner.between (collector_argv libexecdir uid pid ++
        [cstr "--x11-display-device"])).run device).finish := by
  obtain ⟨c, rest, rfl⟩ := List.exists_cons_of_ne_nil hne
  have hprinted : collect_command libexecdir uid pid (some (c :: rest)) =
      ((collector_argv libexecdir uid pid ++ [cstr "--x11-display-device"]).flatMap
        fun w => w ++ [' ']) ++ c :: rest := by
    simp [collect_command, collector_argv, cstr]
  rw [hprinted]
  apply Shell.g_shell_parse_argv_separated
  · simp [collector_argv]
  · exact plain_argv libexecdir uid pid

/-- The command without the option. -/
theorem parse_collect_command_empty (libexecdir : Libexecdir) (uid pid : Nat) :
    Shell.g_shell_parse_argv (collect_command libexecdir uid pid (some [])) =
      some (collector_argv libexecdir uid pid) := by
  have hprinted : collect_command libexecdir uid pid (some []) =
      ((collector_argv libexecdir uid pid).dropLast.flatMap fun w => w ++ [' ']) ++
        percent_u pid := by
    simp [collect_command, collector_argv, cstr]
  rw [hprinted, Shell.g_shell_parse_argv_separated (by simp [collector_argv])]
  · exact (Shell.Scanner.parse_word_iff _ _).mpr (plain_percent_u pid)
  · intro w hmem
    exact plain_argv libexecdir uid pid w (List.mem_append_left _ (List.dropLast_subset _ hmem))

/-! ## Section 3: The argument of the client -/

/-- If a child is started, the text of the client is the argument behind the
    option, and the other arguments are those that do not come from the client. -/
def ArgvIntact (libexecdir : Libexecdir) (uid pid : Nat) (device : CString) : Prop :=
  ∀ (override_parameters : Overrides) (spawn : List CString → Bool) (argv : List CString),
    override_parameters.lookup (cstr "x11-display-device") = some (.string device) →
    collect_parameters libexecdir spawn override_parameters uid pid = some argv →
    argv = collector_argv libexecdir uid pid ++ [cstr "--x11-display-device", device]

theorem collect_parameters_string {override_parameters : Overrides} {device : CString}
    (libexecdir : Libexecdir) (spawn : List CString → Bool) (uid pid : Nat)
    (h : override_parameters.lookup (cstr "x11-display-device") = some (.string device)) :
    collect_parameters libexecdir spawn override_parameters uid pid =
      (Shell.g_shell_parse_argv (collect_command libexecdir uid pid (some device))).filter
        spawn := by
  have hdevice : x11_display_device override_parameters = some device := by
    rw [x11_display_device, h]
    rfl
  rw [collect_parameters, hdevice, ck_job_execute]

/-- It is enough to look at a child that does start. -/
theorem argv_intact_parse (libexecdir : Libexecdir) (uid pid : Nat) (device : CString) :
    ArgvIntact libexecdir uid pid device ↔
      ∀ argv, Shell.g_shell_parse_argv (collect_command libexecdir uid pid (some device)) =
          some argv →
        argv = collector_argv libexecdir uid pid ++ [cstr "--x11-display-device", device] := by
  constructor
  · intro h argv hargv
    have hset : (AList.insert (cstr "x11-display-device") (.string device) ∅ : Overrides).lookup
        (cstr "x11-display-device") = some (.string device) := AList.lookup_insert _
    apply h _ (fun _ => true) argv hset
    rw [collect_parameters_string libexecdir _ uid pid hset, hargv]
    rfl
  · intro h override_parameters spawn argv hset hchild
    rw [collect_parameters_string libexecdir spawn uid pid hset] at hchild
    exact h argv (Option.eq_some_of_filter_eq_some hchild)

/-- The text is one argument, or no child is started, iff nothing in it is
    special to the shell, or a quotation in it is not closed. -/
theorem argv_intact_iff (libexecdir : Libexecdir) (uid pid : Nat) (device : CString) :
    ArgvIntact libexecdir uid pid device ↔
      Shell.Plain device ∨ Shell.unterminated device = true := by
  rw [argv_intact_parse]
  by_cases hne : device = []
  · -- the child is started without the option
    subst hne
    constructor
    · intro h
      have hargv := h _ (parse_collect_command_empty libexecdir uid pid)
      have hlength := congrArg List.length hargv
      simp at hlength
    · rintro (hplain | hopen)
      · exact absurd rfl hplain.nonempty
      · cases hopen
  · have hone := Shell.Scanner.parse_word_iff
      (collector_argv libexecdir uid pid ++ [cstr "--x11-display-device"]) device
    have hnone := Shell.Scanner.finish_between
      (collector_argv libexecdir uid pid ++ [cstr "--x11-display-device"]) device
    rw [← parse_collect_command libexecdir uid pid hne, List.append_assoc] at hone
    rw [← parse_collect_command libexecdir uid pid hne] at hnone
    rw [← hone, ← hnone]
    constructor
    · intro h
      cases hargv : Shell.g_shell_parse_argv
          (collect_command libexecdir uid pid (some device)) with
      | none => exact .inr rfl
      | some argv => exact .inl (congrArg some (h argv hargv))
    · rintro (hword | hopen) argv hargv
      · rw [hword] at hargv
        exact (Option.some.inj hargv).symm
      · rw [hopen] at hargv
        cases hargv

/-- A client adds arguments of its own. -/
theorem client_adds_arguments :
    ¬ArgvIntact ⟨cstr "/usr/libexec", .of_all (by decide) (by decide) (by decide)⟩ 1000 4242
      (cstr "/dev/tty7 --uid 0") := by
  intro h
  have hargv := h (AList.insert (cstr "x11-display-device") (.string (cstr "/dev/tty7 --uid 0")) ∅)
    (fun _ => true)
    [cstr "/usr/libexec/ck-collect-session-info", cstr "--uid", cstr "1000", cstr "--pid",
      cstr "4242", cstr "--x11-display-device", cstr "/dev/tty7", cstr "--uid", cstr "0"]
    (AList.lookup_insert _) (by decide +kernel)
  revert hargv
  decide +kernel

end Leader
