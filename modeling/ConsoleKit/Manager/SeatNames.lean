import ConsoleKit.Manager.Removal
import ConsoleKit.Manager.Seats

/-! # The names of the seats

    Every seat file takes an identifier from the serial number that static
    and dynamic seats share, whether it becomes a seat or not.  The name of
    a static seat is `seat0` all the same, and so is the key by which the
    seat of a local session is looked up.

    This module provides:
    - `SeatFile.added`, `NamedFiles`: the files that give names that agree,
    - `UniquelyNamed`: what is asked of the table of seats,
    - `seats_uniquely_named`: the files for which every run has it.
-/

namespace CkManager

open Libc

/-! ## Section 1: The law -/

/-- The file becomes a seat in the manager's table. -/
def SeatFile.added (file : SeatFile) : Bool := file.loads && file.registers

namespace State

/-- The name that `_ck_seat_set_kind` publishes; neither the kind nor the id
    of a seat changes later. -/
def console_kit_seat_get_name (m : State) (d : SeatRef) : CString :=
  match (m.seat d).kind with
  | .STATIC => cstr "seat0"
  | .DYNAMIC => (m.seat d).id

def ck_seat_get_path (m : State) (d : SeatRef) : CString :=
  cstr "/org/freedesktop/ConsoleKit/" ++ (m.seat d).id

/-- `none` is the error `CK_MANAGER_ERROR_NO_SEATS`. -/
def dbus_list_seats (m : State) : Option (List (CString × CString)) :=
  if m.seats.entries = [] then none
  else some <| m.seats.values.map fun d => (m.console_kit_seat_get_name d, m.ck_seat_get_path d)

end State

/-- Of the static seats in the table, this one was made first. -/
def FirstStatic (m : State) (d : SeatRef) : Prop :=
  SeatRegistered m d ∧ (m.seat d).kind = .STATIC ∧
    ∀ d', SeatRegistered m d' → (m.seat d').kind = .STATIC → d ≤ d'

/-- What is asked of the names of the seats. -/
structure UniquelyNamed (m : State) : Prop where
  ids : (m.seats.values.map fun d => (m.seat d).id).Nodup
  listed : ∀ seats, m.dbus_list_seats = some seats → (seats.map Prod.fst).Nodup
  stored : ∀ {sid d}, m.seats.lookup sid = some d → m.console_kit_seat_get_name d = sid
  seat0 : ∀ {d}, FirstStatic m d → m.seats.lookup (cstr "seat0") = some d ∧
    ∀ x d', m.find_seat_for_session x = some d' → d' = d

/-- A file that becomes a seat comes first, up to a full round of the serial
    number, and no other one does after it.  `n` files came before these. -/
def NamedFiles (n : Nat) (files : List SeatFile) : Prop :=
  ∀ before file after, files = before ++ file :: after → file.added = true →
    (n + before.length) % 2 ^ 31 = 0 ∧ ∀ f ∈ after, f.added = false

/-- What the names need: a static seat is stored as `seat0`, and the files
    that are left keep it so. -/
structure NamesValid (m : State) (stack : List Call) : Prop where
  static_seat : ∀ {sid d}, m.seats.lookup sid = some d → (m.seat d).kind = .STATIC →
    sid = cstr "seat0"
  files : ∀ {files}, .load_seats_from_dir files ∈ stack → (∀ f ∈ files, f.added = false) ∨
    (stack = [.load_seats_from_dir files] ∧ m.seats = ∅ ∧
      ∃ n, m.seat_serial = n % 2 ^ 31 ∧ NamedFiles n files)

theorem NamedFiles.head {n : Nat} {file : SeatFile} {files : List SeatFile}
    (h : NamedFiles n (file :: files)) (hadded : file.added = true) :
    n % 2 ^ 31 = 0 ∧ ∀ f ∈ files, f.added = false :=
  h [] file files rfl hadded

theorem NamedFiles.tail {n : Nat} {file : SeatFile} {files : List SeatFile}
    (h : NamedFiles n (file :: files)) : NamedFiles (n + 1) files := by
  intro before f after heq hadded
  obtain ⟨hlen, hafter⟩ := h (file :: before) f after (by rw [heq]; rfl) hadded
  rw [List.length_cons] at hlen
  exact ⟨by omega, hafter⟩

theorem NamedFiles.cons_added {n : Nat} {file : SeatFile} {files : List SeatFile}
    (hn : n % 2 ^ 31 = 0) (hfiles : ∀ f ∈ files, f.added = false) :
    NamedFiles n (file :: files) := by
  intro before f after heq hadded
  rcases before with _ | ⟨g, before⟩
  · obtain ⟨rfl, rfl⟩ := List.cons.inj heq
    exact ⟨hn, hfiles⟩
  · have hmem : f ∈ files := by
      rw [(List.cons.inj heq).2]
      simp
    rw [hfiles f hmem] at hadded
    cases hadded

theorem NamedFiles.cons_skipped {n : Nat} {file : SeatFile} {files : List SeatFile}
    (hfile : file.added = false) (h : NamedFiles (n + 1) files) :
    NamedFiles n (file :: files) := by
  intro before f after heq hadded
  rcases before with _ | ⟨g, before⟩
  · rw [← (List.cons.inj heq).1, hfile] at hadded
    cases hadded
  · obtain ⟨hlen, hafter⟩ := h before f after (List.cons.inj heq).2 hadded
    rw [List.length_cons]
    exact ⟨by omega, hafter⟩

/-! ## Section 2: Identifiers -/

namespace State

theorem nextSerial_mod (n : Nat) : nextSerial 0 (n % 2 ^ 31) = (n + 1) % 2 ^ 31 := by
  unfold nextSerial
  split <;> omega

theorem nextSerial_ne (serial : Nat) : nextSerial 0 serial ≠ serial := by
  unfold nextSerial
  split <;> omega

/-- With an empty table the first identifier is free. -/
theorem generate_seat_id_empty {m : State} (h : m.seats = ∅) :
    m.generate_seat_id = some (cstr "seat" ++ percent_u m.seat_serial,
      { m with seat_serial := nextSerial 0 m.seat_serial }) := by
  have hfree : ∀ sid, (m.seats.lookup sid).isSome = false := by
    intro sid
    rw [h, AList.lookup_empty]
    rfl
  simp only [generate_seat_id, generateId, hfree, Bool.false_eq_true, if_false, Option.map_some]

/-- Besides one seat there is always a free identifier. -/
theorem generate_seat_id_one {m : State} {sid : CString} {d : SeatRef}
    (h : m.seats = (∅ : HashTable CString SeatRef).insert sid d) :
    ∃ r, m.generate_seat_id = some r := by
  have htaken : ∀ {k}, (m.seats.lookup k).isSome = true → k = sid := by
    intro k hk
    by_contra hne
    rw [h, AList.lookup_insert_ne hne, AList.lookup_empty] at hk
    cases hk
  have hlength : m.seats.entries.length + 1 = 2 := by
    rw [h]
    rfl
  unfold generate_seat_id
  rw [hlength, generateId]
  by_cases hfirst : (m.seats.lookup (cstr "seat" ++ percent_u m.seat_serial)).isSome = true
  · -- then the second identifier is another one
    rw [if_pos hfirst, generateId, if_neg]
    · exact ⟨_, rfl⟩
    · intro hsecond
      have heq := (htaken hsecond).trans (htaken hfirst).symm
      exact nextSerial_ne m.seat_serial (percent_u_inj (List.append_cancel_left heq))
  · rw [if_neg hfirst]
    exact ⟨_, rfl⟩

end State

/-! ## Section 3: What a step does to the kinds of the seats -/

def Call.Loads : Call → Prop
  | .load_seats_from_dir _ => True
  | _ => False

/-- No seat is added to the table, every seat keeps its kind, and no file is
    going to be read. -/
structure KeepsKinds (m : State) (r : State × List Call) : Prop where
  registered : ∀ {sid d}, r.1.seats.lookup sid = some d → m.seats.lookup sid = some d
  kind : ∀ d, (r.1.seat d).kind = (m.seat d).kind
  calls : ∀ f ∈ r.2, ¬ f.Loads

namespace KeepsKinds

variable {m m' : State} {calls calls' : List Call}

theorem of_eq (hseats : m'.seats = m.seats) (hseat : m'.seat = m.seat)
    (hcalls : ∀ f ∈ calls, ¬ f.Loads) : KeepsKinds m (m', calls) where
  registered h := hseats ▸ h
  kind d := by rw [hseat]
  calls := hcalls

theorem append (h : KeepsKinds m (m', calls)) (hcalls : ∀ f ∈ calls', ¬ f.Loads) :
    KeepsKinds m (m', calls ++ calls') where
  registered := h.registered
  kind := h.kind
  calls := List.forall_mem_append.mpr ⟨h.calls, hcalls⟩

end KeepsKinds

theorem OnlyActive.keepsKinds {m m' : State} {calls : List Call} (h : OnlyActive m m')
    (hcalls : ∀ f ∈ calls, ¬ f.Loads) : KeepsKinds m (m', calls) where
  registered hd := h.sameSeats.seats ▸ hd
  kind d := (congrArg CkSeat.kind (h.seat d)).trans rfl
  calls := hcalls

namespace State

theorem update_kind (heap : SeatRef → CkSeat) {d : SeatRef} {s : CkSeat}
    (h : s.kind = (heap d).kind) (d' : SeatRef) :
    (Function.update heap d s d').kind = (heap d').kind := by
  by_cases heq : d' = d
  · rw [heq, Function.update_self]
    exact h
  · rw [Function.update_of_ne heq]

theorem emit_loads (m : State) (d : SeatRef) (action : Callout) :
    ∀ f ∈ m.emit d action, ¬ f.Loads := by
  unfold emit
  split <;> simp [Call.Loads]

theorem change_active_session_kinds (m : State) (d : SeatRef) (session : Option SessionRef) :
    KeepsKinds m (m.change_active_session d session) := by
  have hcalls : ∀ f ∈ (m.change_active_session d session).2, ¬ f.Loads := by
    unfold change_active_session
    split
    · exact List.forall_mem_nil _
    · exact emit_loads _ d _
  exact (m.change_active_session_only d session).1.keepsKinds hcalls

theorem maybe_update_active_session_kinds (m : State) (d : SeatRef) :
    KeepsKinds m (m.maybe_update_active_session d) := by
  unfold maybe_update_active_session
  split
  · exact .of_eq rfl rfl (List.forall_mem_nil _)
  · split
    · exact m.change_active_session_kinds d _
    · exact .of_eq rfl rfl (List.forall_mem_nil _)

theorem ck_seat_add_session_kinds (m : State) (seat : Option SeatRef) (x : SessionRef) :
    KeepsKinds m (m.ck_seat_add_session seat x) := by
  cases seat with
  | none => exact .of_eq rfl rfl (List.forall_mem_nil _)
  | some d =>
    refine ⟨fun hd => hd, update_kind m.seat (by rfl), ?_⟩
    exact List.forall_mem_append.mpr ⟨emit_loads _ d _, by simp [Call.Loads]⟩

theorem ck_seat_remove_session_kinds (m : State) (d : SeatRef) (x : SessionRef) :
    KeepsKinds m (m.ck_seat_remove_session d x) := by
  unfold ck_seat_remove_session
  split
  · refine ⟨fun hd => hd, update_kind m.seat (by rfl), ?_⟩
    exact List.forall_mem_append.mpr ⟨emit_loads _ d _, by simp [Call.Loads]⟩
  · exact .of_eq rfl rfl (List.forall_mem_nil _)

theorem remove_seat_kinds (m : State) (d : SeatRef) : KeepsKinds m (m.remove_seat d) := by
  unfold remove_seat
  split
  · exact .of_eq rfl rfl (List.forall_mem_nil _)
  · exact ⟨fun hd => (HashTable.lookup_erase_iff.mp hd).2, update_kind m.seat (by rfl),
      by simp [Call.Loads]⟩

theorem remove_session_for_cookie_kinds {m : State} {l : LeaderRef} {caller : RemovalCaller}
    {r : State × List Call} (h : m.remove_session_for_cookie l caller = some r) :
    KeepsKinds m r := by
  obtain ⟨x, -, rfl⟩ := Option.map_eq_some_iff.mp h
  split
  · exact (m.ck_seat_remove_session_kinds _ x).append (by simp [Call.Loads])
  · exact .of_eq rfl rfl (by simp [Call.Loads])

theorem call_kinds {m : State} {f : Call} {r : State × List Call}
    (hf : ∀ file files, f ≠ .load_seats_from_dir (file :: files)) (h : m.call f = some r) :
    KeepsKinds m r := by
  cases f with
  | callout => cases h
  | load_seats_from_dir files =>
    cases files with
    | nil =>
      cases h
      exact .of_eq rfl rfl (List.forall_mem_nil _)
    | cons file files => exact absurd rfl (hf file files)
  | ck_seat_add_session seat x =>
    cases h
    exact m.ck_seat_add_session_kinds seat x
  | maybe_update_active_session d =>
    cases h
    exact m.maybe_update_active_session_kinds d
  | update_active_vt d num =>
    cases h
    exact m.change_active_session_kinds d _
  | remove_dynamic_seat d =>
    cases h
    split
    · exact m.remove_seat_kinds d
    · exact .of_eq rfl rfl (List.forall_mem_nil _)
  | remove_session l x caller =>
    cases h
    cases caller <;> exact .of_eq rfl rfl (List.forall_mem_nil _)
  | destroy_entity l =>
    cases h
    rcases m.destroy_entity_cases l with ⟨-, heq⟩ | ⟨r, hr, heq⟩
    · rw [heq]
      exact .of_eq rfl rfl (List.forall_mem_nil _)
    · rw [heq]
      exact remove_session_for_cookie_kinds hr
  | seat_added | session_opened | queue_processed | seat_removed =>
    cases h
    exact .of_eq rfl rfl (List.forall_mem_nil _)

/-- Events that open no session add no seat. -/
theorem dispatch_kinds {m : State} {event : Event} {r : State × List Call}
    (hevent : ∀ l result, event ≠ .job_completed l result) (h : m.dispatch event = some r) :
    KeepsKinds m r := by
  cases event with
  | open_session sender caller cookie started =>
    obtain ⟨-, m', hm', rfl⟩ := dispatch_open_session h
    obtain ⟨-, -, -, hseat, -, hseats⟩ := create_session_heaps hm'
    exact .of_eq hseats hseat (List.forall_mem_nil _)
  | job_completed l result => exact absurd rfl (hevent l result)
  | close_session caller cookie =>
    cases h
    rcases m.dbus_close_session_cases caller cookie with heq | ⟨_, _, l, r, -, -, hr, heq⟩
    · rw [heq]
      exact .of_eq rfl rfl (List.forall_mem_nil _)
    · rw [heq]
      exact remove_session_for_cookie_kinds hr
  | name_owner_notify service_name old_service_name new_service_name =>
    cases h
    unfold on_name_owner_notify
    split
    · refine .of_eq rfl rfl fun f hf => ?_
      obtain ⟨e, -, rfl⟩ := List.mem_map.mp hf
      exact id
    · exact .of_eq rfl rfl (List.forall_mem_nil _)
  | process_queue num =>
    obtain rfl := dispatch_process_queue h
    unfold process_queue
    split
    · refine .of_eq rfl rfl (List.forall_mem_append.mpr ⟨fun f hf => ?_, by simp [Call.Loads]⟩)
      obtain ⟨d, -, rfl⟩ := List.mem_map.mp hf
      exact id
    · exact .of_eq rfl rfl (List.forall_mem_nil _)
  | seat_activate_session d ssid switches =>
    cases h
    exact (m.ck_seat_activate_session_only d _ switches).keepsKinds (List.forall_mem_nil _)
  | seat_switch_to d vtnr switches =>
    cases h
    exact (m.dbus_switch_to_only d vtnr switches).keepsKinds (List.forall_mem_nil _)
  | session_activate x switches =>
    cases h
    exact (m.dbus_activate_only x switches).keepsKinds (List.forall_mem_nil _)
  | activate_session session_id switches =>
    cases h
    exact (m.dbus_activate_session_only session_id switches).keepsKinds (List.forall_mem_nil _)
  | activate_session_on_seat session_id seat_id switches =>
    cases h
    exact (m.dbus_activate_session_on_seat_only session_id seat_id switches).keepsKinds
      (List.forall_mem_nil _)
  | vt_leave x =>
    cases h
    exact (OnlyActive.setSession m x false).keepsKinds (List.forall_mem_nil _)

theorem add_new_seat_dynamic {m : State} {registers : Bool}
    {r : Option SeatRef × State × List Call} (h : m.add_new_seat .DYNAMIC registers = some r) :
    (r.2.1.seat m.next_seat).kind = .DYNAMIC ∧ ∀ f ∈ r.2.2, ¬ f.Loads := by
  obtain ⟨⟨sid, m₁⟩, hid, rfl⟩ := Option.map_eq_some_iff.mp h
  obtain ⟨-, serial, rfl⟩ := generate_seat_id_free hid
  have hseat := ({ m with seat_serial := serial } : State).registerSeat_seat sid .DYNAMIC registers
  dsimp only
  rw [hseat, Function.update_self]
  refine ⟨rfl, ?_⟩
  cases registers <;> simp [registerSeat, ck_seat_new, Call.Loads]

/-- A file takes an identifier, and a seat under it if it is added. -/
theorem add_seat_for_file_spec {m : State} {file : SeatFile} {r : State × List Call}
    (h : m.add_seat_for_file file = some r) :
    ∃ sid serial, m.generate_seat_id = some (sid, { m with seat_serial := serial }) ∧
      r.1.seat_serial = serial ∧ (∀ d, d ≠ m.next_seat → r.1.seat d = m.seat d) ∧
      ((file.added = true ∧ r.2 = [.callout .seat_added, .seat_added m.next_seat] ∧
          r.1.seats = m.seats.insert sid m.next_seat ∧
          (r.1.seat m.next_seat).kind = .STATIC) ∨
        (file.added = false ∧ r.2 = [] ∧ r.1.seats = m.seats)) := by
  obtain ⟨⟨sid, m₁⟩, hid, rfl⟩ := Option.map_eq_some_iff.mp h
  obtain ⟨-, serial, rfl⟩ := generate_seat_id_free hid
  refine ⟨sid, serial, hid, ?_⟩
  have hseat := ({ m with seat_serial := serial } : State).registerSeat_seat sid .STATIC
    file.registers
  dsimp only
  unfold SeatFile.added
  cases hloads : file.loads with
  | false => exact ⟨rfl, fun _ _ => rfl, .inr ⟨rfl, rfl, rfl⟩⟩
  | true =>
    simp only [if_true, hseat]
    refine ⟨?_, fun d hd => Function.update_of_ne hd _ _, ?_⟩
    · cases file.registers <;> rfl
    · cases file.registers with
      | false => exact .inr ⟨rfl, rfl, rfl⟩
      | true =>
        refine .inl ⟨rfl, rfl, ?_, ?_⟩
        · simp [registerSeat, ck_seat_new, setSeat]
        · rw [Function.update_self]

end State

/-! ## Section 4: Names that agree -/

/-- No file that is left becomes a seat. -/
def NoneLeft (stack : List Call) : Prop :=
  ∀ files, .load_seats_from_dir files ∈ stack → ∀ f ∈ files, f.added = false

theorem NoneLeft.append {stack calls : List Call} (h : NoneLeft stack)
    (hcalls : ∀ f ∈ calls, ¬ f.Loads) : NoneLeft (calls ++ stack) := by
  intro files hfiles
  rcases List.mem_append.mp hfiles with hnew | hold
  · exact absurd trivial (hcalls _ hnew)
  · exact h files hold

namespace NamesValid

variable {m m' : State} {stack rest : List Call} {file : SeatFile} {files : List SeatFile}

/-- The files that are left while another handler runs are not added. -/
theorem none_left (h : NamesValid m stack)
    (hstack : ∀ files, stack ≠ [.load_seats_from_dir files]) :
    NoneLeft stack := fun files hfiles => (h.files hfiles).resolve_right fun h => hstack files h.1

theorem none_left_tail {f : Call} (h : NamesValid m (f :: rest)) : NoneLeft rest := by
  intro files hfiles
  rcases h.files (List.mem_cons_of_mem f hfiles) with hnone | ⟨halone, -⟩
  · exact hnone
  · rw [(List.cons.inj halone).2] at hfiles
    cases hfiles

theorem pop {f : Call} (h : NamesValid m (f :: rest)) : NamesValid m rest :=
  ⟨h.static_seat, fun hfiles => .inl (h.none_left_tail _ hfiles)⟩

/-- Steps that add no seat. -/
theorem keep (h : NamesValid m stack) (hnone_left : NoneLeft stack) {r : State × List Call}
    (hkeeps : KeepsKinds m r) : NamesValid r.1 (r.2 ++ stack) where
  static_seat {sid d} hd hkind := by
    rw [hkeeps.kind] at hkind
    exact h.static_seat (hkeeps.registered hd) hkind
  files {files} hfiles := .inl (hnone_left.append hkeeps.calls _ hfiles)

/-- A file that becomes a seat is the first one, and its seat is `seat0`. -/
theorem load (h : NamesValid m (.load_seats_from_dir (file :: files) :: rest))
    (hseats : SeatsValid m stack) {r : State × List Call}
    (hr : m.add_seat_for_file file = some r) :
    NamesValid r.1 (r.2 ++ .load_seats_from_dir files :: rest) := by
  obtain ⟨sid, serial, hid, hserial, hother, hadd⟩ := State.add_seat_for_file_spec hr
  have hold : ∀ {sid d}, m.seats.lookup sid = some d → (r.1.seat d).kind = .STATIC →
      sid = cstr "seat0" := by
    intro sid d hd hkind
    rw [hother d (Nat.ne_of_lt (hseats.registered hd).1)] at hkind
    exact h.static_seat hd hkind
  have hcalls : ∀ f ∈ r.2, ¬ f.Loads := by
    rcases hadd with ⟨-, hcalls, -⟩ | ⟨-, hcalls, -⟩ <;> simp [hcalls, Call.Loads]
  have hnone_left : (∀ f ∈ files, f.added = false) →
      NoneLeft (r.2 ++ .load_seats_from_dir files :: rest) := by
    refine fun hnone => NoneLeft.append (fun files' hmem => ?_) hcalls
    rcases List.mem_cons.mp hmem with heq | hmem
    · cases heq
      exact hnone
    · exact h.none_left_tail files' hmem
  rcases h.files List.mem_cons_self with hnone | ⟨halone, hempty, n, hn, hnamed⟩
  · obtain ⟨hfile, hnone⟩ := List.forall_mem_cons.mp hnone
    rcases hadd with ⟨hadded, -⟩ | ⟨-, -, htable⟩
    · rw [hfile] at hadded
      cases hadded
    · exact ⟨fun hd => hold (htable ▸ hd), fun hmem => .inl (hnone_left hnone _ hmem)⟩
  · obtain rfl : rest = [] := (List.cons.inj halone).2
    rw [State.generate_seat_id_empty hempty] at hid
    obtain ⟨hsid, hstate⟩ := Prod.mk.inj (Option.some.inj hid)
    have hnext : serial = (n + 1) % 2 ^ 31 := by
      rw [← State.nextSerial_mod, ← hn]
      exact (congrArg State.seat_serial hstate).symm
    rcases hadd with ⟨hadded, -, htable, -⟩ | ⟨-, hnil, htable⟩
    · obtain ⟨hzero, hnone⟩ := hnamed.head hadded
      refine ⟨fun {k d} hd _ => ?_, fun hmem => .inl (hnone_left hnone _ hmem)⟩
      rw [htable, hempty] at hd
      rcases HashTable.lookup_insert_iff.mp hd with ⟨rfl, -⟩ | ⟨-, hd⟩
      · rw [← hsid, hn, hzero]
        rfl
      · rw [AList.lookup_empty] at hd
        cases hd
    · refine ⟨fun hd => hold (htable ▸ hd), fun {files'} hmem => .inr ?_⟩
      rw [hnil] at hmem ⊢
      cases List.mem_singleton.mp hmem
      exact ⟨rfl, htable.trans hempty, n + 1, hserial.trans hnext, hnamed.tail⟩

theorem init (vfd : Bool) (active_num : Nat) {files : List SeatFile} (h : NamedFiles 0 files) :
    NamesValid (ck_manager_init vfd active_num) [.load_seats_from_dir files] := by
  constructor
  · intro sid d hd
    rw [show (ck_manager_init vfd active_num).seats = ∅ from rfl, AList.lookup_empty] at hd
    cases hd
  · intro files' hmem
    cases List.mem_singleton.mp hmem
    exact .inr ⟨rfl, rfl, 0, rfl, h⟩

/-- An opening adds at most a dynamic seat. -/
theorem job_completed (h : NamesValid m stack) (hnone_left : NoneLeft stack)
    {l : LeaderRef} {result : Option Opening} {r : State × List Call}
    (hr : m.job_completed l result = some r) : NamesValid r.1 (r.2 ++ stack) := by
  rcases State.job_completed_cases hr with
    rfl | ⟨o, is_local, seat, calls, -, -, -, -, hcalls, ⟨d, -, -, heq, rfl⟩ | ⟨-, hadd⟩⟩
  · exact ⟨h.static_seat, fun hmem => .inl (hnone_left _ hmem)⟩
  · rw [heq, hcalls]
    refine ⟨h.static_seat, fun hmem => .inl (hnone_left.append ?_ _ hmem)⟩
    simp [Call.Loads]
  · obtain ⟨hdynamic, hloads⟩ := State.add_new_seat_dynamic hadd
    have hnew : NewSeat (m.insertOpened l o) r.1 seat := State.add_new_seat_new hadd
    refine ⟨fun {sid d} hd hstatic => ?_, fun hmem => .inl (hnone_left.append ?_ _ hmem)⟩
    · have hne : d ≠ m.next_seat := by
        rintro rfl
        exact absurd (hdynamic.symm.trans hstatic) (by decide)
      rw [hnew.others hne] at hstatic
      rcases hnew.seats with ⟨-, htable⟩ | ⟨-, -, htable⟩
      · exact h.static_seat (htable ▸ hd) hstatic
      · rw [htable] at hd
        rcases HashTable.lookup_insert_iff.mp hd with ⟨-, heq⟩ | ⟨-, hd⟩
        · exact absurd heq hne
        · exact h.static_seat hd hstatic
    · rw [hcalls]
      exact List.forall_mem_append.mpr ⟨hloads, by simp [Call.Loads]⟩

/-- **Step lemma**: every step keeps the static seats under `seat0`. -/
theorem step {c c' : MainLoop} {label : Label} (h : NamesValid c.state c.stack)
    (hseats : SeatsValid c.state c.stack) (hnext : main_loop.next c label = some c') :
    NamesValid c'.state c'.stack := by
  obtain ⟨m, stack⟩ := c
  cases main_loop_step hnext with
  | @dispatch event r hloop hr =>
    have halone : ∀ files, stack ≠ [.load_seats_from_dir files] := by
      rintro files rfl
      cases hloop
    by_cases hevent : ∃ l result, event = .job_completed l result
    · obtain ⟨l, result, rfl⟩ := hevent
      obtain ⟨-, hr⟩ := State.dispatch_job_completed hr
      exact h.job_completed (h.none_left halone) hr
    · have hnone : ∀ l result, event ≠ .job_completed l result :=
        fun l result heq => hevent ⟨l, result, heq⟩
      exact h.keep (h.none_left halone) (State.dispatch_kinds hnone hr)
  | @call f rest r hstack hr =>
    obtain rfl : stack = f :: rest := hstack
    by_cases hf : ∃ file files, f = .load_seats_from_dir (file :: files)
    · obtain ⟨file, files, rfl⟩ := hf
      obtain ⟨r, hadd, rfl⟩ := Option.map_eq_some_iff.mp hr
      rw [List.append_assoc]
      exact h.load hseats hadd
    · exact h.pop.keep h.none_left_tail
        (State.call_kinds (fun file files heq => hf ⟨file, files, heq⟩) hr)
  | @callout_done action rest hstack =>
    obtain rfl : stack = .callout action :: rest := hstack
    exact h.pop

end NamesValid

/-- The daemon that is about to read these seat files. -/
def loading (vfd : Bool) (active_num : Nat) (files : List SeatFile) : MainLoop :=
  ⟨ck_manager_init vfd active_num, [.load_seats_from_dir files]⟩

theorem namesValid {vfd : Bool} {active_num : Nat} {files : List SeatFile} {c : MainLoop}
    (hfiles : NamedFiles 0 files)
    (h : (main_loop.startingAt (loading vfd active_num files)).Reachable c) :
    SeatsValid c.state c.stack ∧ NamesValid c.state c.stack := by
  refine h.invariant (I := fun c => SeatsValid c.state c.stack ∧ NamesValid c.state c.stack) ?_ ?_
  · rintro c rfl
    exact ⟨.init vfd active_num files, .init vfd active_num hfiles⟩
  · rintro c label c' ⟨hseats, hnames⟩ hnext
    exact ⟨hseats.step hnext, hnames.step hseats hnext⟩

theorem uniquelyNamed {m : State} {stack : List Call} (hseats : SeatsValid m stack)
    (hnames : ∀ {sid d}, m.seats.lookup sid = some d → (m.seat d).kind = .STATIC →
      sid = cstr "seat0") : UniquelyNamed m := by
  have hstored : ∀ {sid d}, m.seats.lookup sid = some d →
      m.console_kit_seat_get_name d = sid := by
    intro sid d hd
    unfold State.console_kit_seat_get_name
    split
    · rename_i hkind
      exact (hnames hd hkind).symm
    · exact (hseats.registered hd).2
  have hkeys : m.seats.keys = m.seats.entries.map Sigma.fst := rfl
  have hid : (m.seats.values.map fun d => (m.seat d).id) = m.seats.keys := by
    rw [hkeys, HashTable.values, List.map_map]
    exact List.map_congr_left fun e he => (hseats.registered (HashTable.mem_entries.mp he)).2
  have hname : (m.seats.values.map fun d => m.console_kit_seat_get_name d) = m.seats.keys := by
    rw [hkeys, HashTable.values, List.map_map]
    exact List.map_congr_left fun e he => hstored (HashTable.mem_entries.mp he)
  constructor
  · rw [hid]
    exact m.seats.keys_nodup
  · intro seats hlist
    unfold State.dbus_list_seats at hlist
    split at hlist
    · cases hlist
    · cases hlist
      rw [List.map_map]
      exact (congrArg List.Nodup hname).mpr m.seats.keys_nodup
  · exact hstored
  · rintro d ⟨⟨sid, hd⟩, hkind, -⟩
    obtain rfl := hnames hd hkind
    refine ⟨hd, fun x d' hx => ?_⟩
    unfold State.find_seat_for_session at hx
    dsimp only at hx
    split at hx
    · exact Option.some.inj (hx.symm.trans hd)
    · cases hx

/-! ## Section 5: Files that spoil the names -/

/-- The names are unique in every run from here. -/
def AlwaysNamed (c : MainLoop) : Prop :=
  ∀ c', (main_loop.startingAt c).Reachable c' → UniquelyNamed c'.state

namespace AlwaysNamed

variable {c c' : MainLoop}

theorem now (h : AlwaysNamed c) : UniquelyNamed c.state := h c (.refl c)

theorem step (h : AlwaysNamed c) {label : Label} (hnext : main_loop.next c label = some c') :
    AlwaysNamed c' := fun c'' hc'' =>
  h c'' (LTS.System.ReachableBy.trans (.step (.refl c) trivial hnext) hc'')

variable {m : State} {files : List SeatFile} {d : SeatRef}

/-- Beside `seat0` no file may become a seat. -/
theorem none_added (h : AlwaysNamed ⟨m, [.load_seats_from_dir files]⟩)
    (hseats : m.seats = (∅ : HashTable CString SeatRef).insert (cstr "seat0") d) :
    ∀ f ∈ files, f.added = false := by
  induction files generalizing m with
  | nil => exact List.forall_mem_nil _
  | cons file files ih =>
    obtain ⟨id, hid⟩ := State.generate_seat_id_one hseats
    obtain ⟨r, hr⟩ : ∃ r, m.add_seat_for_file file = some r :=
      ⟨_, Option.map_eq_some_iff.mpr ⟨id, hid, rfl⟩⟩
    have hstep : main_loop.next ⟨m, [.load_seats_from_dir (file :: files)]⟩ .call =
        some ⟨r.1, (r.2 ++ [.load_seats_from_dir files]) ++ []⟩ := by
      simp only [main_loop, main_loop_next, State.call, hr, Option.map_some]
    have hnow := h.step hstep
    obtain ⟨sid, serial, hid, -, -, ⟨-, -, htable, hkind⟩ | ⟨hfile, hcalls, htable⟩⟩ :=
      State.add_seat_for_file_spec hr
    · have hstored : r.1.seats.lookup sid = some m.next_seat := by
        rw [htable, AList.lookup_insert]
      have hname := hnow.now.stored hstored
      rw [State.console_kit_seat_get_name, hkind] at hname
      have hfree := (State.generate_seat_id_free hid).1
      rw [← hname, hseats, AList.lookup_insert] at hfree
      cases hfree
    · rw [hcalls] at hnow
      exact List.forall_mem_cons.mpr ⟨hfile, ih hnow (htable.trans hseats)⟩

/-- Without a seat, the first file that becomes one has to be `seat0`. -/
theorem named (h : AlwaysNamed ⟨m, [.load_seats_from_dir files]⟩) (hseats : m.seats = ∅)
    {n : Nat} (hserial : m.seat_serial = n % 2 ^ 31) : NamedFiles n files := by
  induction files generalizing m n with
  | nil =>
    intro before file after heq
    exact absurd heq.symm (by simp)
  | cons file files ih =>
    have hid := State.generate_seat_id_empty hseats
    obtain ⟨r, hr⟩ : ∃ r, m.add_seat_for_file file = some r :=
      ⟨_, Option.map_eq_some_iff.mpr ⟨_, hid, rfl⟩⟩
    have hstep : main_loop.next ⟨m, [.load_seats_from_dir (file :: files)]⟩ .call =
        some ⟨r.1, (r.2 ++ [.load_seats_from_dir files]) ++ []⟩ := by
      simp only [main_loop, main_loop_next, State.call, hr, Option.map_some]
    have hnow := h.step hstep
    obtain ⟨sid, serial, hid', hserial', -, hadd⟩ := State.add_seat_for_file_spec hr
    rw [hid] at hid'
    obtain ⟨hsid, hstate⟩ := Prod.mk.inj (Option.some.inj hid')
    have hnext : r.1.seat_serial = (n + 1) % 2 ^ 31 := by
      rw [hserial', ← State.nextSerial_mod, ← hserial]
      exact (congrArg State.seat_serial hstate).symm
    rcases hadd with ⟨hfile, hcalls, htable, hkind⟩ | ⟨hfile, hcalls, htable⟩
    · have hstored : r.1.seats.lookup sid = some m.next_seat := by
        rw [htable, AList.lookup_insert]
      have hname := hnow.now.stored hstored
      rw [State.console_kit_seat_get_name, hkind] at hname
      have hzero : n % 2 ^ 31 = 0 := by
        rw [← hsid, hserial] at hname
        have hdigits : percent_u 0 = percent_u (n % 2 ^ 31) :=
          List.append_cancel_left ((rfl : cstr "seat" ++ percent_u 0 = cstr "seat0").trans hname)
        exact (percent_u_inj hdigits).symm
      have hrest : ∀ f ∈ files, f.added = false := by
        rw [hcalls] at hnow
        have hdone := hnow.step (show main_loop.next _ .callout_done = some _ from rfl)
        refine none_added (d := m.next_seat)
          (hdone.step (show main_loop.next _ .call = some _ from rfl)) ?_
        rw [← hname, hseats] at htable
        exact htable
      exact .cons_added hzero hrest
    · rw [hcalls] at hnow
      exact .cons_skipped hfile (ih hnow (htable.trans hseats) hnext)

end AlwaysNamed

/-- **Names of the seats.**  They are unique and agree with the table in
    every run, exactly when the files are such that the only one that
    becomes a seat is the first one. -/
theorem seats_uniquely_named (vfd : Bool) (active_num : Nat) (files : List SeatFile) :
    (∀ c, (main_loop.startingAt (loading vfd active_num files)).Reachable c →
      UniquelyNamed c.state) ↔ NamedFiles 0 files := by
  constructor
  · intro hall
    exact AlwaysNamed.named (m := ck_manager_init vfd active_num) hall rfl rfl
  · intro hfiles c hc
    obtain ⟨hseats, hnames⟩ := namesValid hfiles hc
    exact uniquelyNamed hseats hnames.static_seat

/-- The first file cannot be loaded. -/
theorem second_file_misnamed :
    ∃ c, main_loop.run (loading true 1 [⟨false, false⟩, ⟨true, true⟩])
        [.call, .call, .callout_done, .call, .call] = some c ∧
      c.Quiescent ∧ c.state.dbus_list_seats =
        some [(cstr "seat0", cstr "/org/freedesktop/ConsoleKit/seat1")] ∧
      c.state.seats.lookup (cstr "seat0") = none ∧ ¬ UniquelyNamed c.state := by
  have hrun : (main_loop.run (loading true 1 [⟨false, false⟩, ⟨true, true⟩])
      [.call, .call, .callout_done, .call, .call]).map (fun c => (c.stack, c.state.dbus_list_seats,
        c.state.seats.lookup (cstr "seat0"), c.state.seats.lookup (cstr "seat1"),
        c.state.console_kit_seat_get_name 0)) =
      some ([], some [(cstr "seat0", cstr "/org/freedesktop/ConsoleKit/seat1")], none, some 0,
        cstr "seat0") := by
    rfl
  obtain ⟨c, hc, heq⟩ := Option.map_eq_some_iff.mp hrun
  simp only [Prod.mk.injEq] at heq
  obtain ⟨hstack, hlist, hnone, hseat1, hname⟩ := heq
  refine ⟨c, hc, hstack, hlist, hnone, fun hnamed => ?_⟩
  exact absurd ((hnamed.stored hseat1).symm.trans hname) (by decide)

end CkManager
