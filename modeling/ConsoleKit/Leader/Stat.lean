import ConsoleKit.Framework.Scanf

/-! # The status of a process

    Model of the part of `ck-sysdeps-linux.c` that reads `/proc/<pid>/stat`
    and looks for the terminal of a process.  The command in that line is
    what the process says it is, and may have any characters in it, those
    that delimit it included.

    This module provides:
    - `stat2proc`, with its format,
    - `StatLine`: a line as the kernel writes it,
    - `stat2proc_line`: what is made of such a line,
    - `ck_process_stat_get_tty`: the device of the controlling terminal.
-/

namespace Leader

open Libc

/-! ## Section 1: Data -/

/-- A `char` array of this size, up to its terminator. -/
abbrev CharArray (size : Nat) := { s : CString // s.length < size }

structure CkProcessStat where
  pid : Int32
  ppid : Int32
  state : Char
  cmd : CharArray 16
  utime : UInt64
  stime : UInt64
  cutime : UInt64
  cstime : UInt64
  start_time : UInt64
  start_code : UInt64
  end_code : UInt64
  start_stack : UInt64
  kstk_esp : UInt64
  kstk_eip : UInt64
  wchan : UInt64
  priority : Int64
  nice : Int64
  rss : Int64
  alarm : Int64
  rtprio : UInt64
  sched : UInt64
  vsize : UInt64
  rss_rlim : UInt64
  flags : UInt64
  min_flt : UInt64
  maj_flt : UInt64
  cmin_flt : UInt64
  cmaj_flt : UInt64
  pgrp : Int32
  session : Int32
  nlwp : Int32
  tty : Int32
  tpgid : Int32
  exit_signal : Int32
  processor : Int32

/-- `g_new0 (CkProcessStat, 1)` -/
def zeroed_stat : CkProcessStat where
  pid := 0
  ppid := 0
  state := '\x00'
  cmd := ⟨[], by decide⟩
  utime := 0
  stime := 0
  cutime := 0
  cstime := 0
  start_time := 0
  start_code := 0
  end_code := 0
  start_stack := 0
  kstk_esp := 0
  kstk_eip := 0
  wchan := 0
  priority := 0
  nice := 0
  rss := 0
  alarm := 0
  rtprio := 0
  sched := 0
  vsize := 0
  rss_rlim := 0
  flags := 0
  min_flt := 0
  maj_flt := 0
  cmin_flt := 0
  cmaj_flt := 0
  pgrp := 0
  session := 0
  nlwp := 0
  tty := 0
  tpgid := 0
  exit_signal := 0
  processor := 0

/-! ## Section 2: The parser -/

/-- The fields that follow the terminal. -/
def later_format : Format CkProcessStat :=
  [.space, .d fun x P => { P with tpgid := x }, .space,
    .lu fun x P => { P with flags := x }, .space,
    .lu fun x P => { P with min_flt := x }, .space,
    .lu fun x P => { P with cmin_flt := x }, .space,
    .lu fun x P => { P with maj_flt := x }, .space,
    .lu fun x P => { P with cmaj_flt := x }, .space,
    .lu fun x P => { P with utime := x }, .space,
    .lu fun x P => { P with stime := x }, .space,
    .lu fun x P => { P with cutime := x }, .space,
    .lu fun x P => { P with cstime := x }, .space,
    .ld fun x P => { P with priority := x }, .space,
    .ld fun x P => { P with nice := x }, .space,
    .d fun x P => { P with nlwp := x }, .space,
    .ld fun x P => { P with alarm := x }, .space,
    .lu fun x P => { P with start_time := x }, .space,
    .lu fun x P => { P with vsize := x }, .space,
    .ld fun x P => { P with rss := x }, .space,
    .lu fun x P => { P with rss_rlim := x }, .space,
    .lu fun x P => { P with start_code := x }, .space,
    .lu fun x P => { P with end_code := x }, .space,
    .lu fun x P => { P with start_stack := x }, .space,
    .lu fun x P => { P with kstk_esp := x }, .space,
    .lu fun x P => { P with kstk_eip := x }, .space,
    -- discard, no RT signals & Linux 2.1 used hex
    .skip_s, .space, .skip_s, .space, .skip_s, .space, .skip_s, .space,
    .lu fun x P => { P with wchan := x }, .space, .skip_u, .space, .skip_u, .space,
    .d fun x P => { P with exit_signal := x }, .space,
    .d fun x P => { P with processor := x }, .space,
    .lu fun x P => { P with rtprio := x }, .space,
    .lu fun x P => { P with sched := x }]

def stat_format : Format CkProcessStat :=
  [.c fun x P => { P with state := x }, .space,
    .d fun x P => { P with ppid := x }, .space,
    .d fun x P => { P with pgrp := x }, .space,
    .d fun x P => { P with session := x }, .space,
    .d fun x P => { P with tty := x }] ++ later_format

/-- The first `num` characters of the command, or as many as fit. -/
def copy_cmd (S : CString) (num : Nat) : CharArray 16 :=
  ⟨S.take (if num ≥ 16 then 15 else num), by
    rw [List.length_take]
    split <;> omega⟩

/-- The default values for older kernels. -/
def default_values (P : CkProcessStat) : CkProcessStat :=
  { P with processor := 0, rtprio := -1, sched := -1, nlwp := 0 }

/-- A process has at least one thread. -/
def default_nlwp (P : CkProcessStat) : CkProcessStat :=
  if P.nlwp = 0 then { P with nlwp := 1 } else P

/-- None if the code reads what is no part of the line: there is no
    parenthesis, or the line ends with it. -/
def stat2proc (S : CString) (P : CkProcessStat) : Option CkProcessStat := do
  let P := default_values P
  let S := (← strchr '(' S).tail
  let tmp ← strrchr ')' S
  -- `num` is unsigned and has 32 bits
  let num := (S.length - tmp.length) % 2 ^ 32
  let P := { P with cmd := copy_cmd S num }
  if tmp.length < 2 then none
  else return default_nlwp (sscanf stat_format (tmp.drop 2) P)

/-- `proc_stat` is the content of the files `/proc/<pid>/stat`; `none` for a
    file that cannot be read.  The inner option is that of the parser. -/
def ck_process_stat_new_for_unix_pid (proc_stat : Int32 → Option CString) (pid : Int32) :
    Option (Option CkProcessStat) :=
  if 1 < pid then
    (proc_stat pid).map fun contents => stat2proc contents { zeroed_stat with pid := pid }
  else none

def ck_process_stat_get_ppid (stat : CkProcessStat) : Int32 := stat.ppid

def ck_process_stat_get_cmd (stat : CkProcessStat) : CString := stat.cmd.val

/-! ## Section 3: The line of the kernel -/

/-- What the kernel writes: the command between parentheses, a letter for the
    state and numbers.  The kernel's commands have far fewer characters than
    `unsigned` counts. -/
structure StatLine where
  pid : Nat
  comm : CString
  state : Char
  ppid : Int32
  pgrp : Int32
  session : Int32
  tty : Int32
  /-- The numbers from the terminal's process group on. -/
  fields : List Int
  comm_short : comm.length < 2 ^ 32
  state_letter : state.isAlpha = true

namespace StatLine

/-- What follows the terminal. -/
def later_text (line : StatLine) : CString :=
  (line.fields.flatMap fun i => ' ' :: decimal i) ++ ['\n']

/-- What follows the command. -/
def status_text (line : StatLine) : CString :=
  line.state :: ' ' :: (decimal line.ppid.toInt ++ ' ' :: (decimal line.pgrp.toInt ++
    ' ' :: (decimal line.session.toInt ++ ' ' :: (decimal line.tty.toInt ++ line.later_text))))

def text (line : StatLine) : CString :=
  percent_u line.pid ++ cstr " (" ++ (line.comm ++ cstr ") " ++ line.status_text)

section
variable {line : StatLine}

theorem paren_not_mem_decimal (i : Int) : ')' ∉ decimal i := by
  intro h
  rcases mem_decimal h with h | h <;> exact absurd h (by decide)

/-- The last parenthesis of the line is the one behind the command. -/
theorem paren_not_mem_status_text : ')' ∉ line.status_text := by
  have hstate : ')' ≠ line.state := by
    intro h
    have hletter := line.state_letter
    rw [← h] at hletter
    exact absurd hletter (by decide)
  have hlater : ')' ∉ line.later_text := by
    intro h
    rcases List.mem_append.mp h with h | h
    · obtain ⟨i, -, hi⟩ := List.mem_flatMap.mp h
      rcases List.mem_cons.mp hi with h | h
      · exact absurd h (by decide)
      · exact paren_not_mem_decimal i h
    · exact absurd h (by decide)
  simp [status_text, hstate, hlater, paren_not_mem_decimal]

theorem later_text_head (c : Char) (h : line.later_text.head? = some c) : c.isDigit = false := by
  unfold later_text at h
  cases hfields : line.fields with
  | nil =>
    rw [hfields] at h
    obtain rfl := Option.some.inj h
    rfl
  | cons i fields =>
    rw [hfields] at h
    obtain rfl := Option.some.inj h
    rfl

/-- The conversions up to the terminal read what the kernel has written. -/
theorem sscanf_status_text (P : CkProcessStat) :
    sscanf stat_format line.status_text P =
      sscanf later_format line.later_text
        { P with
          state := line.state
          ppid := line.ppid
          pgrp := line.pgrp
          session := line.session
          tty := line.tty } := by
  have hspace : ∀ (rest : CString) (c : Char), (' ' :: rest).head? = some c →
      c.isDigit = false := by
    intro rest c h
    obtain rfl := Option.some.inj h
    rfl
  rw [status_text, stat_format]
  simp only [List.cons_append, List.nil_append]
  rw [sscanf_char, sscanf_int _ (hspace _), sscanf_int _ (hspace _), sscanf_int _ (hspace _),
    sscanf_int _ later_text_head]

end

end StatLine

/-! ## Section 4: What is read -/

/-- What the callers look at. -/
def essentials (P : CkProcessStat) : Char × Int32 × Int32 × CharArray 16 :=
  (P.state, P.ppid, P.tty, P.cmd)

theorem later_format_keeps : ∀ conversion ∈ later_format, conversion.Keeps essentials := by
  simp [later_format, Conversion.Keeps, essentials]

/-- Any command is told from the rest of the line. -/
theorem stat2proc_line (line : StatLine) (P : CkProcessStat) :
    ∃ P', stat2proc line.text P = some P' ∧
      essentials P' = (line.state, line.ppid, line.tty, copy_cmd line.comm line.comm.length) := by
  have htext : line.text = (percent_u line.pid ++ [' ']) ++
      '(' :: (line.comm ++ ')' :: ' ' :: line.status_text) := by
    simp [StatLine.text, cstr]
  -- The first opening parenthesis comes before the command, whatever is in it, and
  -- the last closing one behind it.
  have hpid : '(' ∉ percent_u line.pid ++ [' '] := by
    intro h
    rcases List.mem_append.mp h with h | h
    · exact absurd (percent_u_isDigit _ _ h) (by decide)
    · exact absurd h (by decide)
  have hlast : ')' ∉ ' ' :: line.status_text := by
    rw [List.mem_cons, not_or]
    exact ⟨by decide, StatLine.paren_not_mem_status_text⟩
  have hnum : ((line.comm ++ ')' :: ' ' :: line.status_text).length -
      (')' :: ' ' :: line.status_text).length) % 2 ^ 32 = line.comm.length := by
    rw [List.length_append, Nat.add_sub_cancel, Nat.mod_eq_of_lt line.comm_short]
  -- No character behind the command is copied.
  have hcmd : copy_cmd (line.comm ++ ')' :: ' ' :: line.status_text) line.comm.length =
      copy_cmd line.comm line.comm.length := by
    apply Subtype.ext
    unfold copy_cmd
    dsimp only
    rw [List.take_append_of_le_length]
    split <;> omega
  unfold stat2proc
  simp only [htext, strchr_append hpid, strrchr_append line.comm hlast, Option.bind_eq_bind,
    Option.bind_some, List.tail_cons]
  rw [hnum, hcmd, if_neg (by simp)]
  refine ⟨_, rfl, ?_⟩
  have hdefault : ∀ P : CkProcessStat, essentials (default_nlwp P) = essentials P := by
    intro P
    unfold default_nlwp
    split <;> rfl
  have hdrop : (')' :: ' ' :: line.status_text).drop 2 = line.status_text := rfl
  -- The conversions behind the terminal may stop anywhere: they assign none of the
  -- four fields.
  rw [hdefault, hdrop, StatLine.sscanf_status_text, sscanf_frame later_format_keeps]
  rfl

theorem copy_cmd_length (comm : CString) : (copy_cmd comm comm.length).val = comm.take 15 := by
  unfold copy_cmd
  dsimp only
  split
  · rfl
  · rename_i hfits
    rw [List.take_length, List.take_of_length_le (by omega)]

/-- The state, the parent and the terminal are those of the process, and the
    command is cut at the size of the buffer. -/
theorem stat2proc_recovers (line : StatLine) (P : CkProcessStat) :
    ∃ P', stat2proc line.text P = some P' ∧ P'.state = line.state ∧ P'.ppid = line.ppid ∧
      P'.tty = line.tty ∧ P'.cmd.val = line.comm.take 15 := by
  obtain ⟨P', hP', hessentials⟩ := stat2proc_line line P
  obtain ⟨hstate, hppid, htty, hcmd⟩ :
      P'.state = line.state ∧ P'.ppid = line.ppid ∧ P'.tty = line.tty ∧
        P'.cmd = copy_cmd line.comm line.comm.length := by
    simpa [essentials] using hessentials
  exact ⟨P', hP', hstate, hppid, htty, by rw [hcmd, copy_cmd_length]⟩

/-- A command that imitates the rest of the line. -/
example :
    (stat2proc (StatLine.text ⟨7, cstr "x) R 1 1 1 0 (", 'S', 42, 7, 7, 1025, [-1, 64], by decide,
      by decide⟩) zeroed_stat).map essentials =
      some ('S', 42, 1025, ⟨cstr "x) R 1 1 1 0 (", by decide⟩) := by decide

/-! ## Section 5: The terminal -/

def MAJOR_OF (d : UInt32) : UInt32 := (d >>> (8 : UInt32)) &&& (0xfff : UInt32)

def MINOR_OF (d : UInt32) : UInt32 :=
  (d &&& (0xff : UInt32)) ||| ((d &&& (0xfff00000 : UInt32)) >>> (12 : UInt32))

/-- A line of `/proc/tty/drivers`. -/
structure TtyMapNode where
  major_number : UInt32
  minor_first : UInt32
  minor_last : UInt32
  name : CString
  devfs_type : Bool

section
variable (read_link : CString → Option CString) (st_rdev : CString → Option UInt64)
  (tty_map : List TtyMapNode)

/-- The file is there, and stands for this device. -/
def check_device (maj min : UInt32) (tty : CString) : Option CString := do
  let rdev ← st_rdev tty
  if min ≠ MINOR_OF rdev.toUInt32 then none
  else if maj ≠ MAJOR_OF rdev.toUInt32 then none
  else return tty

def driver_name (maj min : UInt32) : Option CString := do
  let tmn ← tty_map.find? fun tmn =>
    tmn.major_number = maj ∧ tmn.minor_first ≤ min ∧ min ≤ tmn.minor_last
  let tty := cstr "/dev/" ++ tmn.name ++ percent_d min.toInt32
  if (st_rdev tty).isNone then
    if tmn.devfs_type then none else check_device st_rdev maj min (cstr "/dev/" ++ tmn.name)
  else check_device st_rdev maj min tty

def link_name (maj min : UInt32) (pid : Int32) (name : CString) : Option CString := do
  let tty ← read_link (cstr "/proc/" ++ percent_d pid ++ '/' :: name)
  check_device st_rdev maj min tty

def ck_process_stat_get_tty (stat : CkProcessStat) : Option CString :=
  let dev := stat.tty.toUInt32
  if dev = 0 then none
  else
    let dev_maj := MAJOR_OF dev
    let dev_min := MINOR_OF dev
    (link_name read_link st_rdev dev_maj dev_min stat.pid (cstr "tty")).or
      ((driver_name st_rdev tty_map dev_maj dev_min).or
        ((link_name read_link st_rdev dev_maj dev_min stat.pid (cstr "fd/2")).or
          (link_name read_link st_rdev dev_maj dev_min stat.pid (cstr "fd/255"))))

end

/-- The file stands for the device with these numbers. -/
def IsDevice (st_rdev : CString → Option UInt64) (maj min : UInt32) (tty : CString) : Prop :=
  ∃ rdev, st_rdev tty = some rdev ∧ MAJOR_OF rdev.toUInt32 = maj ∧ MINOR_OF rdev.toUInt32 = min

section
variable {read_link : CString → Option CString} {st_rdev : CString → Option UInt64}
  {tty_map : List TtyMapNode} {maj min : UInt32} {tty tty' : CString}

theorem check_device_isDevice (h : check_device st_rdev maj min tty = some tty') :
    IsDevice st_rdev maj min tty' := by
  obtain ⟨rdev, hrdev, h⟩ := Option.bind_eq_some_iff.mp h
  split at h
  · cases h
  · rename_i hmin
    split at h
    · cases h
    · rename_i hmaj
      obtain rfl := Option.some.inj h
      exact ⟨rdev, hrdev, (not_not.mp hmaj).symm, (not_not.mp hmin).symm⟩

theorem link_name_isDevice {pid : Int32} {name : CString}
    (h : link_name read_link st_rdev maj min pid name = some tty) :
    IsDevice st_rdev maj min tty := by
  obtain ⟨target, -, h⟩ := Option.bind_eq_some_iff.mp h
  exact check_device_isDevice h

theorem driver_name_isDevice (h : driver_name st_rdev tty_map maj min = some tty) :
    IsDevice st_rdev maj min tty := by
  obtain ⟨tmn, -, h⟩ := Option.bind_eq_some_iff.mp h
  dsimp only at h
  split at h
  · split at h
    · cases h
    · exact check_device_isDevice h
  · exact check_device_isDevice h

/-- The device that is found has the numbers of the controlling terminal. -/
theorem ck_process_stat_get_tty_isDevice {stat : CkProcessStat}
    (h : ck_process_stat_get_tty read_link st_rdev tty_map stat = some tty) :
    IsDevice st_rdev (MAJOR_OF stat.tty.toUInt32) (MINOR_OF stat.tty.toUInt32) tty := by
  unfold ck_process_stat_get_tty at h
  dsimp only at h
  split at h
  · cases h
  · -- All four ways to guess a name compare the numbers before they return it.
    rw [Option.or_eq_some_iff, Option.or_eq_some_iff, Option.or_eq_some_iff] at h
    rcases h with h | ⟨-, h | ⟨-, h | ⟨-, h⟩⟩⟩
    · exact link_name_isDevice h
    · exact driver_name_isDevice h
    · exact link_name_isDevice h
    · exact link_name_isDevice h

/-- A process has the terminal that the kernel's line is about. -/
theorem process_tty_isDevice {proc_stat : Int32 → Option CString} {pid : Int32} {line : StatLine}
    {stat : CkProcessStat} (hline : proc_stat pid = some line.text)
    (hstat : ck_process_stat_new_for_unix_pid proc_stat pid = some (some stat))
    (h : ck_process_stat_get_tty read_link st_rdev tty_map stat = some tty) :
    IsDevice st_rdev (MAJOR_OF line.tty.toUInt32) (MINOR_OF line.tty.toUInt32) tty := by
  obtain ⟨P', hP', hessentials⟩ := stat2proc_line line { zeroed_stat with pid := pid }
  obtain ⟨-, hstat⟩ := Option.ite_none_right_eq_some.mp hstat
  rw [hline, Option.map_some, hP'] at hstat
  obtain rfl := Option.some.inj (Option.some.inj hstat)
  have htty : P'.tty = line.tty := congrArg (fun view => view.2.2.1) hessentials
  rw [← htty]
  exact ck_process_stat_get_tty_isDevice h

end

end Leader
