import ConsoleKit.Database.Dump

/-! # Writing the database

    `ck_manager_dump` writes the database to a temporary file and renames it.
    The temporary file is opened without being truncated, so what an earlier
    dump has left in it stays behind the new text.

    This module provides:
    - `ck_manager_dump` on the two files, for any outcome of the calls of the
      system,
    - `DumpLaw`: the database is exact or absent,
    - `database_exact_or_absent`: when it is.
-/

namespace Database

open CkManager Libc

/-! ## Section 1: Files and calls of the system -/

/-- The directory of the database, with the contents of the files in it. -/
structure Files where
  directory : Bool
  database : Option CString
  database_tmp : Option CString
  /-- There are no files without the directory. -/
  absent : directory = false → database = none ∧ database_tmp = none

/-- What `write` says: the number of bytes, EAGAIN or EINTR, or another error. -/
inductive WriteResult where
  | written (n : Nat)
  | again
  | error

inductive CloseResult where
  | done | eintr | error
  deriving DecidableEq

/-- What the calls say that one dump makes. -/
structure DumpCalls where
  g_mkdir_with_parents : Bool
  g_open : Bool
  /-- Whether `g_key_file_to_data` returns a text. -/
  g_key_file_to_data : Bool
  write : List WriteResult
  close : List CloseResult
  g_rename : Bool
  g_unlink : Bool

namespace Files

/-- `g_mkdir_with_parents` succeeds if the directory is there. -/
def mkdir (f : Files) (res : Bool) : Option Files :=
  if f.directory then some f
  else if res then
    some ⟨true, f.database, f.database_tmp, fun h => nomatch h⟩
  else none

/-- With `O_CREAT`, and without `O_TRUNC`. -/
def writeTmp (f : Files) (content : CString) : Files :=
  ⟨true, f.database, some content, fun h => nomatch h⟩

def rename (f : Files) : Files :=
  match f.database_tmp with
  | some content => ⟨true, some content, none, fun h => nomatch h⟩
  | none => f

def unlink (f : Files) (res : Bool) : Files :=
  if res then ⟨f.directory, none, f.database_tmp, fun h => ⟨rfl, (f.absent h).2⟩⟩ else f

end Files

/-! ## Section 2: The dump -/

/-- `write` at an offset of a file. -/
def overwrite (content : CString) (offset : Nat) (bytes : CString) : CString :=
  content.take offset ++ bytes ++ content.drop (offset + bytes.length)

/-- The loop of `do_dump` when `written` bytes have been written: the content
    of the file and the result, or `none` if the loop has not come to its end. -/
def write_loop (str : CString) : List WriteResult → Nat → CString → Option (CString × Bool)
  | [], written, content => if written < str.length then none else some (content, true)
  | result :: results, written, content =>
    if written < str.length then
      match result with
      | .again => write_loop str results written content
      | .error => some (content, false)
      | .written n =>
        let bytes := (str.drop written).take n
        write_loop str results (written + bytes.length) (overwrite content written bytes)
    else some (content, true)

/-- `text` is the key file; it is not written if it could not be made. -/
def do_dump (text : CString) (calls : DumpCalls) (content : CString) : Option (CString × Bool) :=
  if calls.g_key_file_to_data then write_loop text calls.write 0 content
  else some (content, true)

/-- The loop `again` of `ck_manager_dump`. -/
def close_loop : List CloseResult → Option Bool
  | [] => none
  | .eintr :: results => close_loop results
  | .done :: _ => some true
  | .error :: _ => some false

/-- The files after a dump, and whether it has come to its end; `none` if it
    has not returned. -/
def ck_manager_dump (m : State) (details : Details) (f : Files) (calls : DumpCalls) :
    Option (Files × Bool) :=
  match f.mkdir calls.g_mkdir_with_parents with
  | none => some (f, false)
  | some f =>
    if calls.g_open then
      (do_dump (database m details).to_data calls (f.database_tmp.getD [])).bind
        fun (content, ret) =>
          let f := f.writeTmp content
          if ret then
            (close_loop calls.close).map fun closed =>
              if closed && calls.g_rename then (f.rename, true)
              else (f.unlink calls.g_unlink, false)
          else some (f.unlink calls.g_unlink, false)
    else some (f.unlink calls.g_unlink, false)

/-! ## Section 3: The law and the condition -/

/-- A dump that succeeds leaves the key file; when a step of it fails, there
    is no other database than that. -/
structure DumpLaw (text : CString) (calls : DumpCalls) (f' : Files) (ret : Bool) : Prop where
  exact : ret = true → calls.g_key_file_to_data = true → f'.database = some text
  absent : ret = false ∨ calls.g_key_file_to_data = false →
    f'.database = none ∨ f'.database = some text

/-- The loop comes to its end when this number of bytes is left to write. -/
def write_succeeds : List WriteResult → Nat → Bool
  | _, 0 => true
  | [], _ + 1 => false
  | .again :: results, left + 1 => write_succeeds results (left + 1)
  | .error :: _, _ + 1 => false
  | .written n :: results, left + 1 => write_succeeds results (left + 1 - n)

/-- All calls up to the renaming succeed. -/
structure Renames (text : CString) (f : Files) (calls : DumpCalls) : Prop where
  directory : f.directory = true ∨ calls.g_mkdir_with_parents = true
  opened : calls.g_open = true
  written : calls.g_key_file_to_data = true → write_succeeds calls.write text.length = true
  closed : close_loop calls.close = some true
  renamed : calls.g_rename = true

/-- What is left in the temporary file is not longer than the key file, and
    is the key file if that could not be made; after a failure there is no
    outdated database, or it can be removed. -/
structure DumpSafe (text : CString) (f : Files) (calls : DumpCalls) : Prop where
  leftover : Renames text f calls → calls.g_key_file_to_data = true →
    (f.database_tmp.getD []).length ≤ text.length
  unserialized : Renames text f calls → calls.g_key_file_to_data = false →
    f.database_tmp.getD [] = text
  outdated : ¬ Renames text f calls →
    calls.g_unlink = true ∨ f.database = none ∨ f.database = some text

/-! ## Section 4: The loop -/

/-- Writing on replaces what the file had there. -/
theorem overwrite_next {str original bytes : CString} {written : Nat}
    (h : written ≤ str.length) (hbytes : bytes = (str.drop written).take bytes.length) :
    overwrite (str.take written ++ original.drop written) written bytes =
      str.take (written + bytes.length) ++ original.drop (written + bytes.length) := by
  have hlength : (str.take written).length = written := List.length_take_of_le h
  have hdrop : (str.take written ++ original.drop written).drop (written + bytes.length) =
      original.drop (written + bytes.length) := by
    rw [← List.drop_drop, List.drop_left' hlength, List.drop_drop]
  unfold overwrite
  rw [hdrop, List.take_left' hlength, List.take_add, ← hbytes]

theorem write_succeeds_nil {left : Nat} (h : 0 < left) : write_succeeds [] left = false := by
  cases left with
  | zero => exact absurd h (Nat.lt_irrefl 0)
  | succ left => rfl

theorem write_succeeds_again {results : List WriteResult} {left : Nat} (h : 0 < left) :
    write_succeeds (.again :: results) left = write_succeeds results left := by
  cases left with
  | zero => exact absurd h (Nat.lt_irrefl 0)
  | succ left => rfl

theorem write_succeeds_error {results : List WriteResult} {left : Nat} (h : 0 < left) :
    write_succeeds (.error :: results) left = false := by
  cases left with
  | zero => exact absurd h (Nat.lt_irrefl 0)
  | succ left => rfl

/-- What a call has written is no longer left. -/
theorem write_succeeds_written {str : CString} {results : List WriteResult} {written : Nat}
    (n : Nat) (h : written < str.length) :
    write_succeeds (.written n :: results) (str.length - written) =
      write_succeeds results
        (str.length - (written + ((str.drop written).take n).length)) := by
  have hlength : ((str.drop written).take n).length = min n (str.length - written) := by
    rw [List.length_take, List.length_drop]
  have hrest : str.length - (written + ((str.drop written).take n).length) =
      str.length - written - n := by
    omega
  rw [hrest]
  cases hleft : str.length - written with
  | zero => omega
  | succ left => rfl

/-- The file has the beginning of the text, and then what it had before. -/
theorem write_loop_spec {str original : CString} {results : List WriteResult} {written : Nat}
    {r : CString × Bool} (h : written ≤ str.length)
    (hr : write_loop str results written (str.take written ++ original.drop written) = some r) :
    r.2 = write_succeeds results (str.length - written) ∧
    (r.2 = true → r.1 = str ++ original.drop str.length) := by
  -- by induction on the results; `written` grows with them
  induction results generalizing written with
  | nil =>
    obtain ⟨hend, hr⟩ := Option.ite_none_left_eq_some.mp hr
    obtain rfl : written = str.length := by omega
    cases hr
    simp [write_succeeds]
  | cons result results ih =>
    unfold write_loop at hr
    split at hr
    · rename_i hleft
      have hpos : 0 < str.length - written := by omega
      cases result with
      | again =>
        rw [write_succeeds_again hpos]
        exact ih h hr
      | error =>
        cases hr
        rw [write_succeeds_error hpos]
        exact ⟨rfl, nofun⟩
      | written n =>
        dsimp only at hr
        have hlength : ((str.drop written).take n).length = min n (str.length - written) := by
          rw [List.length_take, List.length_drop]
        rw [overwrite_next h (by rw [hlength, ← List.length_drop, List.take_eq_take_min])] at hr
        rw [write_succeeds_written n hleft]
        exact ih (by omega) hr
    · rename_i hend
      obtain rfl : written = str.length := by omega
      cases hr
      simp [write_succeeds]

/-- Calls that write it all bring the loop to its end. -/
theorem write_loop_returns {str : CString} {results : List WriteResult} {written : Nat}
    (content : CString) (h : write_succeeds results (str.length - written) = true) :
    (write_loop str results written content).isSome = true := by
  induction results generalizing written content with
  | nil =>
    unfold write_loop
    split
    · rename_i hleft
      rw [write_succeeds_nil (by omega)] at h
      cases h
    · rfl
  | cons result results ih =>
    unfold write_loop
    split
    · rename_i hleft
      have hpos : 0 < str.length - written := by omega
      cases result with
      | again =>
        rw [write_succeeds_again hpos] at h
        exact ih content h
      | error =>
        rw [write_succeeds_error hpos] at h
        cases h
      | written n =>
        rw [write_succeeds_written n hleft] at h
        exact ih _ h
    · rfl

/-! ## Section 5: The dump -/

section
variable {m : State} {details : Details} {f f' : Files} {calls : DumpCalls} {ret : Bool}

/-- What the temporary file has in the end. -/
def written_tmp (text : CString) (f : Files) (calls : DumpCalls) : CString :=
  if calls.g_key_file_to_data then text ++ (f.database_tmp.getD []).drop text.length
  else f.database_tmp.getD []

theorem do_dump_spec {text : CString} {r : CString × Bool}
    (hr : do_dump text calls (f.database_tmp.getD []) = some r) :
    (r.2 = true ↔ (calls.g_key_file_to_data = true →
      write_succeeds calls.write text.length = true)) ∧
    (r.2 = true → r.1 = written_tmp text f calls) := by
  unfold do_dump at hr
  unfold written_tmp
  split at hr
  · rename_i htext
    obtain ⟨hret, hcontent⟩ := @write_loop_spec text (f.database_tmp.getD []) calls.write 0 r
      (Nat.zero_le _) hr
    rw [if_pos htext, hret]
    exact ⟨⟨fun h _ => h, fun h => h htext⟩, fun h => hcontent (hret.trans h)⟩
  · rename_i htext
    cases hr
    rw [if_neg htext]
    exact ⟨iff_of_true rfl fun h => absurd h htext, fun _ => rfl⟩

theorem unlink_database (f : Files) (res : Bool) :
    (f.unlink res).database = if res then none else f.database := by
  unfold Files.unlink
  split <;> rfl

theorem mkdir_cases (f : Files) (res : Bool) :
    (f.mkdir res = none ∧ f.directory = false ∧ res = false) ∨
    ∃ g, f.mkdir res = some g ∧ (f.directory = true ∨ res = true) ∧
      g.database = f.database ∧ g.database_tmp = f.database_tmp := by
  unfold Files.mkdir
  cases hdirectory : f.directory with
  | true => exact .inr ⟨f, rfl, .inl rfl, rfl, rfl⟩
  | false =>
    cases res with
    | true => exact .inr ⟨_, rfl, .inr rfl, rfl, rfl⟩
    | false => exact .inl ⟨rfl, rfl, rfl⟩

/-- A dump renames the file, or it has failed and unlinks the database. -/
theorem ck_manager_dump_cases (h : ck_manager_dump m details f calls = some (f', ret)) :
    (Renames (database m details).to_data f calls ∧ ret = true ∧
      f'.database = some (written_tmp (database m details).to_data f calls)) ∨
    (¬ Renames (database m details).to_data f calls ∧ ret = false ∧
      f'.database = if calls.g_unlink then none else f.database) := by
  generalize htext : (database m details).to_data = text
  unfold ck_manager_dump at h
  rw [htext] at h
  rcases mkdir_cases f calls.g_mkdir_with_parents with
    ⟨hmkdir, hdirectory, hfails⟩ | ⟨g, hmkdir, hdirectory, hdatabase, htmp⟩
  · -- there is no directory, and no database in it
    rw [hmkdir] at h
    cases h
    refine .inr ⟨fun hrenames => ?_, rfl, by rw [(f.absent hdirectory).1, ite_self]⟩
    rcases hrenames.directory with htrue | htrue
    · rw [hdirectory] at htrue
      cases htrue
    · rw [hfails] at htrue
      cases htrue
  · rw [hmkdir] at h
    dsimp only at h
    -- After an error the database is unlinked, whatever the temporary file has.
    have hunlink : ∀ content, ((g.writeTmp content).unlink calls.g_unlink).database =
        if calls.g_unlink then none else f.database := by
      intro content
      rw [unlink_database, ← hdatabase]
      rfl
    split at h
    · rename_i hopen
      obtain ⟨⟨content, written⟩, hwrite, h⟩ := Option.bind_eq_some_iff.mp h
      rw [htmp] at hwrite
      obtain ⟨hwritten, hcontent⟩ := do_dump_spec hwrite
      dsimp only at h hwritten hcontent
      split at h
      · rename_i hsucceeds
        obtain ⟨closed, hclose, h⟩ := Option.map_eq_some_iff.mp h
        split at h
        · rename_i hdone
          cases h
          obtain ⟨rfl, hrename⟩ := Bool.and_eq_true_iff.mp hdone
          refine .inl ⟨⟨hdirectory, hopen, hwritten.mp hsucceeds, hclose, hrename⟩, rfl, ?_⟩
          rw [← hcontent hsucceeds]
          rfl
        · rename_i hdone
          cases h
          refine .inr ⟨fun hrenames => hdone ?_, rfl, hunlink content⟩
          rw [Option.some.inj (hclose.symm.trans hrenames.closed), hrenames.renamed]
          rfl
      · rename_i hfails
        cases h
        exact .inr ⟨fun hrenames => hfails (hwritten.mpr hrenames.written), rfl, hunlink content⟩
    · rename_i hopen
      cases h
      refine .inr ⟨fun hrenames => hopen hrenames.opened, rfl, ?_⟩
      rw [unlink_database, hdatabase]

/-- A dump returns if none of its steps fails. -/
theorem ck_manager_dump_returns (h : Renames (database m details).to_data f calls) :
    ∃ f', ck_manager_dump m details f calls = some (f', true) := by
  obtain ⟨r, hr⟩ : ∃ r, do_dump (database m details).to_data calls (f.database_tmp.getD []) =
      some r := by
    refine Option.isSome_iff_exists.mp ?_
    unfold do_dump
    split
    · rename_i htext
      exact write_loop_returns _ (h.written htext)
    · rfl
  have hwritten := (do_dump_spec hr).1.mpr h.written
  rcases mkdir_cases f calls.g_mkdir_with_parents with
    ⟨-, hdirectory, hfails⟩ | ⟨g, hmkdir, -, -, htmp⟩
  · have hmkdir := h.directory
    rw [hdirectory, hfails] at hmkdir
    exact absurd hmkdir (by decide)
  · refine ⟨(g.writeTmp r.1).rename, ?_⟩
    unfold ck_manager_dump
    simp only [hmkdir, h.opened, htmp, hr, hwritten, h.closed, h.renamed, Option.bind_some,
      Option.map_some, Bool.and_self, if_true]

end

/-- The text is what is left after it if nothing else is. -/
theorem append_drop_eq_iff (text tmp : CString) :
    text ++ tmp.drop text.length = text ↔ tmp.length ≤ text.length := by
  rw [List.append_right_eq_self, List.drop_eq_nil_iff]

/-- The manager before it has loaded its seats. -/
def no_seats : State := ck_manager_init true 1

def no_details : Details :=
  ⟨fun _ => none, fun _ => none, fun _ => none, fun _ => [], fun _ => none, fun _ => 0, fun _ => 0⟩

/-- All calls succeed; the text is written in two parts, and the first attempt
    to close the file is interrupted. -/
def calls_succeed : DumpCalls :=
  ⟨true, true, true, [.written 5, .again, .written 100], [.eintr, .done], true, true⟩

/-- No directory is there yet. -/
def no_files : Files := ⟨false, none, none, fun _ => ⟨rfl, rfl⟩⟩

/-- An earlier dump was cut off when there was a seat. -/
def cut_off : Files :=
  ⟨true, none, some (cstr "[Seats]\nseats=seat0\n\n[Seat seat0]\nki"), fun h => nomatch h⟩

theorem no_seats_text :
    (database no_seats no_details).to_data = cstr "[Seats]\nseats=\n" := by
  decide

end Database
