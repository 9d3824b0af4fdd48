import ConsoleKit.History.Order

/-! # Ends of sessions

    While the records are in order, `ck-history` finds the right end of each
    session: its removal if it was removed, none if it is open, and a stop or
    a restart only if the system went down with it.

    This module provides:
    - `history_step`, `history_valid`: the invariant of the runs in order,
    - `ends_right`, and `stop_fails`: runs in which an end is wrong.
-/

namespace History

open CkManager Log Libc Journal

/-! ## Section 1: Steps -/

section
variable {s s' : Recording} {spawn : Nat → String → Option String} {takes_down : Nat → Bool}
  {backend : SystemAction.AuthBackend} {session_type : SessionRef → Option CString}

theorem create_session_leader {m m' : State} {sender cookie : CString}
    {caller : Option (Nat × Nat)} {started : Bool}
    (h : m.create_session_for_sender sender caller cookie started = some m') {l : LeaderRef}
    (hl : l < m.next_leader) : m'.leader l = m.leader l := by
  cases caller with
  | none =>
    cases h
    rfl
  | some c =>
    obtain ⟨⟨ssid, m₁⟩, hid, rfl⟩ := Option.map_eq_some_iff.mp h
    obtain ⟨-, serial, rfl⟩ := State.generate_session_id_free hid
    exact Function.update_of_ne (Nat.ne_of_lt hl) ..

/-- Nothing is written, and the frames are left alone. -/
theorem RecordingValid.unchanged (h : RecordingValid s) {m : State} {calls : List Call}
    {about : Option (SeatRef × Option SessionRef)}
    (hids : IdsValid m (calls ++ s.stack)) (hnext : m.next_session = s.state.next_session)
    (hid : ∀ x, (m.session x).id = (s.state.session x).id)
    (htable : m.sessions = s.state.sessions)
    (hleader : ∀ l < s.state.next_leader, (m.leader l).session_id = (s.state.leader l).session_id)
    (hcalls : ∀ f ∈ calls, Inert f) :
    RecordingValid { s with state := m, frames := History.push calls about s.frames } := by
  have hquiet := @RecordingValid.quiet s h m s.frames calls about [] (fun _ hf => .inl hf)
    (fun _ hf => hf) hids hnext hid htable hleader hcalls (List.forall_mem_nil _)
    (List.forall_mem_nil _)
  rw [List.append_nil] at hquiet
  exact hquiet

theorem dispatch_valid (h : RecordingValid s) {event : Event} {r : State × List Call}
    (hr : s.state.dispatch event = some r)
    (hok : InOrder spawn takes_down backend s (.loop (.dispatch event))) :
    RecordingValid { s with
      state := r.1, frames := push r.2 (about_event s.state event) s.frames } := by
  cases event with
  | open_session sender caller cookie started =>
    obtain ⟨-, m', hm', rfl⟩ := State.dispatch_open_session hr
    obtain ⟨hsession, hnext, hsessions, -⟩ := State.create_session_heaps hm'
    have hids : IdsValid m' s.stack := by
      refine h.ids.created hm' fun c r hc hid => ?_
      subst hc
      exact hok.distinct sender c cookie started r rfl hid
    exact h.unchanged hids hnext (fun x => by rw [hsession]) hsessions
      (fun l hl => by rw [create_session_leader hm' hl]) inert_nil
  | job_completed l result =>
    obtain ⟨hjob, hr⟩ := Option.ite_none_right_eq_some.mp hr
    exact h.opened hjob hr
  | close_session caller cookie =>
    cases hr
    rcases s.state.dbus_close_session_cases caller cookie with
      heq | ⟨uid, pid, l, r, rfl, hl, hr, heq⟩
    · rw [heq]
      exact h.unchanged h.ids rfl (fun _ => rfl) rfl (fun _ _ => rfl) inert_nil
    · -- The cookie is that of a leader of the caller, whose session is removed.
      have habout : about_event s.state (.close_session (some (uid, pid)) cookie) =
          seat_and_session s.state l := by
        show (s.state.paranoia_check_is_cookie_owner cookie uid pid).bind
          (seat_and_session s.state) = _
        rw [hl]
        rfl
      rw [heq, habout]
      exact h.start hr (h.ids.registered (State.paranoia_check_registered hl)) h.ids
        (fun _ hf => hf) (fun _ hf => .inl hf) (fun x => hok.entered l x hl)
        (fun x => hok.announced l x hl)
  | name_owner_notify name old new =>
    cases hr
    unfold State.on_name_owner_notify
    split
    · refine h.unchanged (IdsValid.append (h.ids.keep _ _) fun {l} hl => ?_) rfl (fun _ => rfl) rfl
        (fun _ _ => rfl) fun f hf => ?_
      · obtain ⟨f, hf, hl⟩ := List.mem_flatMap.mp hl
        obtain ⟨e, he, rfl⟩ := List.mem_map.mp hf
        obtain rfl := List.mem_singleton.mp hl
        -- The leaders that are claimed were in the table.
        have hstolen := (State.removalOrder_perm _).mem_iff.mp he
        exact h.ids.registered (HashTable.mem_stolen.mp hstolen).1
      · obtain ⟨e, -, rfl⟩ := List.mem_map.mp hf
        trivial
    · exact h.unchanged h.ids rfl (fun _ => rfl) rfl (fun _ _ => rfl) inert_nil
  | process_queue | seat_activate_session | seat_switch_to | session_activate
    | activate_session | activate_session_on_seat | vt_leave =>
    obtain ⟨hsame, hquiet⟩ := State.dispatch_same (by trivial) hr
    exact h.unchanged (h.ids.quiet hsame hquiet) hsame.next_session hsame.id hsame.sessions
      (fun l _ => by rw [hsame.leader]) (dispatch_inert (by trivial) hr)

/-- The records that a call writes are of seats. -/
theorem records_of_call_passive (m : State) (f : Call) :
    ∀ r ∈ records_of_call m f, Passive reading r ∧ reading.interrupts r = false := by
  intro r hr
  cases f with
  | seat_added d | seat_removed d =>
    obtain rfl := List.mem_singleton.mp hr
    exact ⟨⟨rfl, rfl⟩, rfl⟩
  | _ => cases hr

theorem call_valid (h : RecordingValid s) {f : Frame} {rest : List Frame} {r : State × List Call}
    (hframes : s.frames = f :: rest) (hr : s.state.call f.call = some r)
    (hok : InOrder spawn takes_down backend s (.loop .call)) :
    RecordingValid { s with
      state := r.1
      frames := push r.2 (about_call s.state f.call) rest
      log := s.log ++ records_of_call r.1 f.call } := by
  obtain ⟨f, about⟩ := f
  have hmem : ∀ g ∈ rest, g ∈ s.frames := fun g hg => hframes ▸ List.mem_cons_of_mem _ hg
  have hpopped : Frame.Idle ⟨f, about⟩ → ∀ g ∈ s.frames, g ∈ rest ∨ g.Idle := by
    intro hidle g hg
    rw [hframes] at hg
    rcases List.mem_cons.mp hg with rfl | hg
    · exact .inr hidle
    · exact .inl hg
  have hlog : s.log ++ [] = s.log := List.append_nil s.log
  -- Calls that are not about sessions write records of seats at most.
  have hinert : Inert f → f.claims = [] → f.opening = [] → RecordingValid { s with
      state := r.1
      frames := push r.2 (about_call s.state f) rest
      log := s.log ++ records_of_call r.1 f } := by
    intro hinert hclaims hopening
    obtain ⟨hsame, hquiet⟩ := State.call_same hclaims hr
    exact h.quiet (hpopped (Inert.idle hinert)) hmem ((h.ids_rest hframes).quiet hsame hquiet)
      hsame.next_session hsame.id hsame.sessions (fun l _ => by rw [hsame.leader])
      (call_inert hclaims hopening hr) (fun r' hr' => (records_of_call_passive _ _ r' hr').1)
      fun r' hr' => (records_of_call_passive _ _ r' hr').2
  cases f with
  | callout action => cases hr
  | ck_seat_add_session seat x =>
    cases hr
    dsimp only [records_of_call]
    rw [hlog]
    exact h.attach hframes
  | remove_session l x caller =>
    cases hr
    dsimp only [records_of_call]
    rw [hlog]
    exact h.take hframes
  | destroy_entity l =>
    cases hr
    dsimp only [records_of_call]
    rw [hlog]
    have hl : l < s.state.next_leader := by
      refine h.ids.claims (List.mem_flatMap.mpr ⟨.destroy_entity l, ?_, List.mem_singleton.mpr rfl⟩)
      exact List.mem_map.mpr ⟨_, hframes ▸ List.mem_cons_self, rfl⟩
    rcases s.state.destroy_entity_cases l with ⟨-, heq⟩ | ⟨r, hr, heq⟩
    · rw [heq]
      -- Without a session of the leader its job is cancelled, and nothing else.
      have hcancelled := @RecordingValid.quiet s h (s.state.ck_session_leader_cancel l) rest []
        (about_call s.state (.destroy_entity l)) [] (hpopped (Inert.idle trivial)) hmem
        ((h.ids_rest hframes).ended l) rfl (fun _ => rfl) rfl (fun l' _ => ?_) inert_nil
        (List.forall_mem_nil _) (List.forall_mem_nil _)
      · rw [hlog] at hcancelled
        exact hcancelled
      · exact (congrArg CkSessionLeader.session_id (s.state.cancel_leader l l')).trans rfl
    · have hremoval : s.removal (.loop .call) = some l := by
        unfold Recording.removal
        rw [hframes]
        rfl
      rw [heq]
      exact h.start hr hl (h.ids_rest hframes) hmem (hpopped (Inert.idle trivial))
        (fun x => hok.entered l x hremoval) (fun x => hok.announced l x hremoval)
  | _ => exact hinert trivial rfl rfl

/-- The frame is about no session. -/
theorem unattended_idle (action : Callout) {about : Option (SeatRef × Option SessionRef)}
    (habout : ∀ d x, about ≠ some (d, some x)) : Frame.Idle ⟨.callout action, about⟩ := by
  constructor
  · rintro x ⟨d, hcall | ⟨-, heq⟩⟩
    · cases hcall
    · exact habout d x heq
  · rintro m k ⟨d, x, -, heq, -⟩
    exact habout d x heq
  · rintro m k ⟨_, _, _, hcall, -⟩
    cases hcall

/-- Only a frame about a session that comes or goes writes a record of it. -/
theorem records_of_callout_passive {f : Frame} (hidle : f.Idle) (m : State) :
    ∀ r ∈ records_of_callout session_type m f,
      Passive reading r ∧ reading.interrupts r = false := by
  intro r hr
  unfold records_of_callout at hr
  split at hr
  · rename_i d x hcall habout
    exact absurd ⟨d, .inr ⟨hcall, habout⟩⟩ (hidle.enters x)
  · rename_i d x hcall habout
    exact absurd ⟨d, x, hcall, habout, rfl⟩ (hidle.removes m _)
  · obtain rfl := List.mem_singleton.mp hr
    exact ⟨⟨rfl, rfl⟩, rfl⟩
  · cases hr

theorem callout_valid (h : RecordingValid s) {action : Callout}
    {about : Option (SeatRef × Option SessionRef)} {rest : List Frame}
    (hframes : s.frames = ⟨.callout action, about⟩ :: rest) :
    RecordingValid { s with
      frames := rest
      log := s.log ++ records_of_callout session_type s.state ⟨.callout action, about⟩ } := by
  have hpop : Frame.Idle ⟨.callout action, about⟩ → RecordingValid { s with
      frames := rest
      log := s.log ++ records_of_callout session_type s.state ⟨.callout action, about⟩ } := by
    intro hidle
    apply h.pop hframes hidle
    · exact fun r hr => (records_of_callout_passive hidle _ r hr).1
    · exact fun r hr => (records_of_callout_passive hidle _ r hr).2
  rcases about with - | ⟨d, - | x⟩
  · exact hpop (unattended_idle action nofun)
  · exact hpop (unattended_idle action nofun)
  · cases action with
    | session_added => exact h.added hframes session_type
    | session_removed => exact h.removed hframes session_type
    | _ => exact hpop (RecordingValid.callout_idle (by decide) (by decide) _)

theorem system_records_passive (s : Recording) (m : SystemAction.Manager) :
    ∀ r ∈ s.system_records m, Passive reading r := by
  intro r hr
  obtain ⟨type, -, rfl⟩ := List.mem_map.mp hr
  cases type <;> exact ⟨rfl, rfl⟩

/-- The records of a system action are written, and the system keeps running. -/
theorem action_valid (h : RecordingValid s) {label : SystemAction.ActionLabel}
    {m : SystemAction.Manager}
    (hm : SystemAction.action_next spawn backend s.actions label = some m)
    (hup : s.goes_down spawn takes_down m = false)
    (hok : InOrder spawn takes_down backend s (.action label)) (down : Bool) :
    RecordingValid { s with
      actions := m, log := s.log ++ s.system_records m, down := down } := by
  apply h.move
  case hids => exact h.ids
  case habout => exact h.about
  case hleaves => exact h.leaves
  case hknown => exact fun x hx => ⟨hx, rfl⟩
  case hentering => exact fun x hx => .inl hx
  case hleaving => exact fun k _ hk => hk
  case hleft => exact fun k _ hk => .inl hk
  case hremoving => exact fun k hk => .inl hk
  case hremoved => exact fun k hk => hk
  case hlog => rfl
  case hpassive => exact system_records_passive s m
  case hinterrupts =>
    intro hinterrupts k hk
    rcases hok.command label m rfl hm (.inr hinterrupts) k hk with hended | ⟨hdown, -⟩
    · exact hended
    · rw [hup] at hdown
      cases hdown

/-- The command of a system action takes the system down. -/
theorem action_down {label : SystemAction.ActionLabel} {m : SystemAction.Manager}
    (h : RecordingValid s)
    (hm : SystemAction.action_next spawn backend s.actions label = some m)
    (hdown : s.goes_down spawn takes_down m = true)
    (hok : InOrder spawn takes_down backend s (.action label)) (down : Bool) :
    DownValid { s with actions := m, log := s.log ++ s.system_records m, down := down } := by
  refine ⟨s.log, s.system_records m, rfl, h.orderly, system_records_passive s m, fun k hk => ?_⟩
  exact (hok.command label m rfl hm (.inl hdown) k hk).imp_right And.right

/-- What is known before the system goes down, and when it has. -/
def Valid (s : Recording) : Prop :=
  (s.down = false ∧ RecordingValid s) ∨ (s.down = true ∧ DownValid s)

theorem loop_valid (h : RecordingValid s) {label : Label}
    (hn : s.loop_next session_type label = some s')
    (hok : InOrder spawn takes_down backend s (.loop label)) : RecordingValid s' := by
  rcases Recording.loop_next_cases hn with ⟨event, r, rfl, -, hr, rfl⟩ |
    ⟨f, rest, r, rfl, hframes, hr, rfl⟩ | ⟨action, about, rest, -, hframes, rfl⟩
  · exact dispatch_valid h hr hok
  · exact call_valid h hframes hr hok
  · exact callout_valid h hframes

/-- **One step.** -/
theorem history_step {label : RecordingLabel} (h : Valid s)
    (hok : InOrder spawn takes_down backend s label)
    (hn : Recording.next session_type spawn takes_down backend s label = some s') : Valid s' := by
  obtain ⟨hup, ⟨label, rfl, hloop⟩ | ⟨label, m, rfl, -, hm, rfl⟩⟩ := Recording.next_cases hn <;>
  have hvalid : RecordingValid s := h.elim And.right fun hdown => by
    rw [hup] at hdown
    cases hdown.1
  · exact .inl ⟨(Recording.loop_next_actions hloop).2.trans hup, loop_valid hvalid hloop hok⟩
  · cases hdown : s.goes_down spawn takes_down m with
    | false => exact .inl ⟨rfl, action_valid hvalid hm hdown hok _⟩
    | true => exact .inr ⟨rfl, action_down hvalid hm hdown hok _⟩

theorem history_init (h : (history session_type spawn takes_down backend).init s) : Valid s := by
  obtain ⟨vfd, active_num, files, rfl⟩ := h
  have hframe : ∀ f ∈ [(⟨.load_seats_from_dir files, none⟩ : Frame)], f.Idle := by
    intro f hf
    obtain rfl := List.mem_singleton.mp hf
    exact Inert.idle trivial
  refine .inl ⟨rfl, ?_⟩
  constructor
  case ids => exact ⟨nofun, nofun, nofun, nofun, nofun, nofun⟩
  case about =>
    rintro f d x hf hcall habout
    exact absurd ⟨d, x, hcall, habout, rfl⟩
      ((hframe f hf).removes (ck_manager_init vfd active_num) _)
  case leaves => exact fun {f k} hf hk => absurd hk ((hframe f hf).leaves _ k)
  case entering =>
    rintro x ⟨f, hf, hx⟩
    exact absurd hx ((hframe f hf).enters x)
  case removing =>
    rintro k (⟨f, hf, hk⟩ | ⟨_, hr, -⟩)
    · exact absurd hk ((hframe f hf).removes _ k)
    · cases hr
  case started =>
    rintro k ⟨_, hr, -⟩
    cases hr
  case orderly => exact .nil

theorem history_valid
    (h : (history session_type spawn takes_down backend).ReachableBy
      (InOrder spawn takes_down backend) s) : Valid s :=
  h.invariant (fun _ => history_init) fun _ _ _ hvalid hok hn => history_step hvalid hok hn

end

/-! ## Section 2: The ends that are found -/

section
variable {s s' : Recording} {spawn : Nat → String → Option String} {takes_down : Nat → Bool}
  {backend : SystemAction.AuthBackend} {session_type : SessionRef → Option CString}

/-- The record is not that of a session that came without an id. -/
def Named : CkLogEventData → Prop
  | .seat_session_added e => ∃ k, e.session_id = some k
  | _ => True

theorem records_of_call_named (m : State) (f : Call) : ∀ r ∈ records_of_call m f, Named r := by
  intro r hr
  cases f with
  | seat_added d | seat_removed d =>
    obtain rfl := List.mem_singleton.mp hr
    trivial
  | _ => cases hr

theorem history_named
    {ok : Recording → RecordingLabel → Prop}
    (h : (history session_type spawn takes_down backend).ReachableBy ok s) :
    ∀ r ∈ s.log, Named r := by
  refine h.invariant (I := fun s => ∀ r ∈ s.log, Named r) ?_ ?_
  · rintro s ⟨vfd, active_num, files, rfl⟩ r hr
    cases hr
  · intro s label s' hnamed _ hn r hr
    obtain ⟨-, ⟨label, rfl, hloop⟩ | ⟨label, m, rfl, -, hm, rfl⟩⟩ := Recording.next_cases hn
    · rcases Recording.loop_next_cases hloop with ⟨_, _, -, -, -, rfl⟩ |
        ⟨f, _, _, -, -, -, rfl⟩ | ⟨_, _, _, -, -, rfl⟩
      · exact hnamed r hr
      · rcases List.mem_append.mp hr with hr | hr
        · exact hnamed r hr
        · exact records_of_call_named _ _ r hr
      · rcases List.mem_append.mp hr with hr | hr
        · exact hnamed r hr
        · unfold records_of_callout at hr
          split at hr
          · obtain rfl := List.mem_singleton.mp hr
            exact ⟨_, rfl⟩
          · obtain rfl := List.mem_singleton.mp hr
            trivial
          · obtain rfl := List.mem_singleton.mp hr
            trivial
          · cases hr
    · rcases List.mem_append.mp hr with hr | hr
      · exact hnamed r hr
      · obtain ⟨type, -, rfl⟩ := List.mem_map.mp hr
        cases type <;> trivial

theorem ends_removed {r : CkLogEventData} {k : CString} (h : reading.ends r = some k) :
    ∃ e, r = .seat_session_removed e ∧ e.session_id = some k := by
  cases r with
  | seat_session_removed e => exact ⟨e, rfl, h⟩
  | _ => cases h

variable {e : CkLogSeatSessionAddedEvent} {events : List CkLogEventData} {k : CString}

theorem open_iff (hk : e.session_id = some k) :
    s.Open e ↔ (s.state.sessions.lookup k).isSome = true := by
  unfold Recording.Open
  rw [hk]
  simp

/-- The removal of the session is found. -/
theorem EndsRight.of_removed (hk : e.session_id = some k) {r : CkLogEventData}
    (hfound : endOf reading k events = some r) (hr : reading.ends r = some k)
    (hdown : s.Open e → s.down = true) : EndsRight s e events := by
  rw [← find_first_matching_eq hk] at hfound
  obtain ⟨e', rfl, hid⟩ := ends_removed hr
  constructor
  · intro _
    rw [hfound]
    exact ⟨⟨e', rfl, hid.trans hk.symm⟩, rfl⟩
  · intro hopen hup
    rw [hdown hopen] at hup
    cases hup
  · intro l hl hsystem
    rw [hfound] at hl
    cases hl
    cases hsystem

/-- The session is open, and no end is found. -/
theorem EndsRight.of_none (hk : e.session_id = some k) (hfound : endOf reading k events = none)
    (hopen : s.Open e) : EndsRight s e events := by
  rw [← find_first_matching_eq hk] at hfound
  constructor
  · exact fun hnot => absurd hopen hnot
  · intro _ _
    rw [hfound]
    exact ⟨rfl, rfl⟩
  · intro l hl
    rw [hfound] at hl
    cases hl

/-- The system has gone down with the session. -/
theorem EndsRight.of_down (hdown : s.down = true) (hopen : s.Open e) : EndsRight s e events := by
  constructor
  · exact fun hnot => absurd hopen hnot
  · intro _ hup
    rw [hdown] at hup
    cases hup
  · exact fun _ _ _ => ⟨hdown, hopen⟩

/-- When no handler runs, the sessions that have ended are those that are not
    in the table. -/
theorem RecordingValid.ended_iff (h : RecordingValid s) (hframes : s.frames = [])
    (hstarted : Started reading s.log k) :
    Ended reading s.log k ↔ s.state.sessions.lookup k = none := by
  have hnone : ∀ f, f ∉ s.frames := by
    intro f
    rw [hframes]
    exact List.not_mem_nil
  constructor
  · intro hended
    rcases (h.removing (.inr hended)).1 with hlookup | ⟨f, hf, -⟩
    · exact hlookup
    · exact absurd hf (hnone f)
  · intro hlookup
    rcases (h.started hstarted).1 with hended | ⟨f, hf, -⟩ | hstays
    · exact hended
    · exact absurd hf (hnone f)
    · exact absurd (.inl hlookup) hstays

theorem RecordingValid.right (h : RecordingValid s) (hframes : s.frames = [])
    (hk : e.session_id = some k) {before : List CkLogEventData}
    (hlog : s.log = before ++ .seat_session_added e :: events) : EndsRight s e events := by
  have hstarted : Started reading s.log k := hlog ▸ started_of_split hk
  have hiff := h.ended_iff hframes hstarted
  obtain ⟨hended, hopen⟩ := h.orderly.endOf_eq hlog hk
  by_cases hend : Ended reading s.log k
  · obtain ⟨r, hfound, hr⟩ := hended hend
    refine .of_removed hk hfound hr fun hopen => ?_
    rw [open_iff hk, hiff.mp hend] at hopen
    cases hopen
  · refine .of_none hk (hopen hend) ?_
    rw [open_iff hk, Option.isSome_iff_ne_none]
    exact mt hiff.mpr hend

theorem DownValid.right (h : DownValid s) (hk : e.session_id = some k)
    {before : List CkLogEventData} (hlog : s.log = before ++ .seat_session_added e :: events)
    (hdown : s.down = true) : EndsRight s e events := by
  obtain ⟨entries, records, hentries, horderly, hpassive, hstarted⟩ := h
  have hstart : reading.starts (.seat_session_added e) = some k := hk
  -- the record was written before the command was run
  obtain ⟨after, hbefore, rfl⟩ := split_append_passive hpassive hstart (hentries.symm.trans hlog)
  obtain ⟨hended, -⟩ := horderly.endOf_eq hbefore hstart
  rcases hstarted k (hbefore ▸ started_of_split hstart) with hend | hopen
  · obtain ⟨r, hfound, hr⟩ := hended hend
    refine .of_removed hk ?_ hr fun _ => hdown
    rw [endOf_append, hfound]
    rfl
  · exact .of_down hdown ((open_iff hk).mpr hopen)

end

section
variable (session_type : SessionRef → Option CString) (spawn : Nat → String → Option String)
  (takes_down : Nat → Bool) (backend : SystemAction.AuthBackend)

/-- **The right end.**  In a run whose steps are in order, the search finds the
    right end of each session whenever no handler runs, and when the system has
    gone down. -/
theorem ends_right {s : Recording}
    (h : (history session_type spawn takes_down backend).ReachableBy
      (InOrder spawn takes_down backend) s) (hsettled : s.Settled)
    (before events : List CkLogEventData) (e : CkLogSeatSessionAddedEvent)
    (hlog : s.log = before ++ .seat_session_added e :: events) : EndsRight s e events := by
  obtain ⟨k, hk⟩ : Named (.seat_session_added e) := history_named h _ (by simp [hlog])
  rcases history_valid h with ⟨hup, hvalid⟩ | ⟨hdown, hvalid⟩
  · apply hvalid.right _ hk hlog
    rcases hsettled with hframes | hdown
    · exact hframes
    · rw [hup] at hdown
      cases hdown
  · exact hvalid.right hk hlog hdown

end

/-! ## Section 3: Runs of one seat -/

/-- The daemon on VT 1, about to load one static seat. -/
def one_seat_recorded : Recording :=
  ⟨ck_manager_init true 1, [⟨.load_seats_from_dir [⟨true, true⟩], none⟩],
    SystemAction.manager_init, [], false⟩

theorem one_seat_recorded_reachable (spawn : Nat → String → Option String)
    (ok : Recording → RecordingLabel → Prop) :
    (history (fun _ => none) spawn (fun _ => true) .none).ReachableBy ok one_seat_recorded :=
  .init ⟨true, 1, [⟨true, true⟩], rfl⟩

/-- A client opens a session on VT 1, the first one there. -/
def first_opens : List RecordingLabel :=
  (seat_loaded ++ session_opens (cstr ":1.5") (cstr "c1") 0).map .loop

/-- Another client opens one on VT 2, and the first session is closed. -/
def second_opens_first_closes : List RecordingLabel :=
  [Label.dispatch (.open_session (cstr ":1.6") (some (1000, 8)) (cstr "c2") true),
    .dispatch (.job_completed 1 (some (text_session 2))), .call, .callout_done, .call, .call,
    .dispatch (.close_session (some (1000, 7)) (cstr "c1")), .callout_done, .call,
    .callout_done, .call, .call].map .loop

/-- A user stops the system. -/
def system_stopped : List RecordingLabel :=
  [.action (.call .stop ⟨1, true, 1, true⟩), .action (.timeout 1)]

/-- The test that ids are new, that sessions on their seats are closed while no
    handler is running, and that a command that is run takes the system down. -/
def in_order (spawn : Nat → String → Option String) (s : Recording) : RecordingLabel → Bool
  | .loop (.dispatch (.open_session ..)) => s.state.generate_session_id.all fun r =>
      (List.range s.state.next_leader).all fun l => (s.state.leader l).session_id ≠ r.1
  | .loop (.dispatch event) => (removal_of_event s.state event).all fun l =>
      s.frames.isEmpty && (s.state.sessions.lookup (s.state.leader l).session_id).all fun x =>
        (s.state.seat_of_session x).any fun d =>
          ((s.state.seat d).sessions.lookup (s.state.session x).id).isSome &&
            (s.state.seat d).connected
  | .loop .call => (s.frames.head?.bind fun f => removal_of_call f.call).isNone
  | .loop .callout_done => true
  | .action label => (SystemAction.action_next spawn .none s.actions label).all fun m =>
      (s.system_records m).isEmpty && !s.goes_down spawn (fun _ => true) m ||
      s.goes_down spawn (fun _ => true) m && s.log.all fun r => (reading.starts r).all fun k =>
        s.log.any (fun r' => reading.ends r' = some k) || (s.state.sessions.lookup k).isSome

theorem in_order_sound {spawn : Nat → String → Option String} {s : Recording}
    {label : RecordingLabel} (htest : in_order spawn s label = true) :
    InOrder spawn (fun _ => true) .none s label := by
  -- The test allows the removal of a session only with an empty stack.
  have hremoval : ∀ l, s.removal label = some l → s.frames = [] ∧
      (s.state.sessions.lookup (s.state.leader l).session_id).all (fun x =>
        (s.state.seat_of_session x).any fun d =>
          ((s.state.seat d).sessions.lookup (s.state.session x).id).isSome &&
            (s.state.seat d).connected) = true := by
    intro l hl
    rcases label with (event | - | -) | label
    · have hl' : removal_of_event s.state event = some l := hl
      cases event with
      | close_session =>
        simp only [in_order, hl', Option.all_some, Bool.and_eq_true] at htest
        exact ⟨List.isEmpty_iff.mp htest.1, htest.2⟩
      | _ => cases hl
    · have hnone : s.removal (.loop .call) = none := Option.isNone_iff_eq_none.mp htest
      rw [hnone] at hl
      cases hl
    · cases hl
    · cases hl
  constructor
  · intro sender c cookie started r hlabel hr l hl
    subst hlabel
    simp only [in_order, hr, Option.all_some, List.all_eq_true, List.mem_range,
      decide_eq_true_eq] at htest
    exact htest l hl
  · rintro l x hl ⟨f, hf, -⟩
    rw [(hremoval l hl).1] at hf
    cases hf
  · intro l x hl hx _
    have hall := (hremoval l hl).2
    rw [hx] at hall
    obtain ⟨d, hd, hboth⟩ := (Option.any_eq_true ..).mp hall
    obtain ⟨hmember, hconnected⟩ := Bool.and_eq_true_iff.mp hboth
    exact .inl ⟨d, hd, hmember, hconnected⟩
  · intro l m hlabel hm hcommand k hk
    subst hlabel
    simp only [in_order, hm, Option.all_some, Bool.or_eq_true, Bool.and_eq_true,
      Bool.not_eq_true'] at htest
    -- Either nothing is recorded and the system stays up, or it goes down.
    rcases htest with ⟨hempty, hup⟩ | ⟨hdown, hall⟩
    · rcases hcommand with hdown | ⟨r, hr, -⟩
      · rw [hup] at hdown
        cases hdown
      · rw [List.isEmpty_iff.mp hempty] at hr
        cases hr
    · obtain ⟨r, hr, hstarts⟩ := hk
      have hr' := List.all_eq_true.mp hall r hr
      rw [hstarts, Option.all_some, Bool.or_eq_true] at hr'
      rcases hr' with hended | hopen
      · obtain ⟨r', hmem, hends⟩ := List.any_eq_true.mp hended
        exact .inl ⟨r', hmem, of_decide_eq_true hends⟩
      · exact .inr ⟨hdown, hopen⟩

/-- The first record is that of the session `k`, and this status is found for it. -/
def status_found (k : CString) (status : RecordStatus) : List CkLogEventData → Bool
  | .seat_session_added e :: events => decide (e.session_id = some k) &&
      decide (get_event_record_status (find_first_matching_remove_event events e) = status)
  | _ => false

theorem status_found_cases {k : CString} {status : RecordStatus} {s : Recording} {n : Nat}
    (h : status_found k status (s.log.drop n) = true) :
    ∃ e events, s.log = s.log.take n ++ .seat_session_added e :: events ∧
      e.session_id = some k ∧
      get_event_record_status (find_first_matching_remove_event events e) = status := by
  unfold status_found at h
  split at h
  · rename_i e events hlog
    obtain ⟨hid, hstatus⟩ := Bool.and_eq_true_iff.mp h
    refine ⟨e, events, ?_, of_decide_eq_true hid, of_decide_eq_true hstatus⟩
    rw [← hlog, List.take_append_drop]
  · cases h

/-- The first session is closed, and the system goes down with the second. -/
theorem ends_right_down :
    ∃ s before e events, (history (fun _ => none) (fun _ _ => none) (fun _ => true) .none).runBy
        (in_order fun _ _ => none) one_seat_recorded
        (first_opens ++ second_opens_first_closes ++ system_stopped) = some s ∧
      s.Settled ∧ s.log = before ++ .seat_session_added e :: events ∧
      get_event_record_status (find_first_matching_remove_event events e) = .DOWN ∧
      EndsRight s e events := by
  have hrun : ((history (fun _ => none) (fun _ _ => none) (fun _ => true) .none).runBy
      (in_order fun _ _ => none) one_seat_recorded
      (first_opens ++ second_opens_first_closes ++ system_stopped)).any (fun s => s.down &&
        status_found (cstr "Session2") .DOWN (s.log.drop 3)) = true := by
    decide +kernel
  obtain ⟨s, hs, hcheck⟩ := (Option.any_eq_true ..).mp hrun
  obtain ⟨hdown, hcheck⟩ := Bool.and_eq_true_iff.mp hcheck
  obtain ⟨e, events, hlog, -, hstatus⟩ := status_found_cases hcheck
  refine ⟨s, s.log.take 3, e, events, hs, .inr hdown, hlog, hstatus, ?_⟩
  exact ends_right (fun _ => none) (fun _ _ => none) (fun _ => true) .none
    ((one_seat_recorded_reachable _ _).runBy (fun _ _ _ htest => in_order_sound htest) hs)
    (.inr hdown) _ _ _ hlog

/-- A session opens on VT 1, and is closed while the programs for that run. -/
def closed_while_added : List RecordingLabel :=
  (seat_loaded ++ [Label.dispatch (.open_session (cstr ":1.5") (some (1000, 7)) (cstr "c1") true),
    .dispatch (.job_completed 0 (some (text_session 1))), .call,
    .dispatch (.close_session (some (1000, 7)) (cstr "c1")), .callout_done, .call, .call, .call,
    .callout_done, .call, .call]).map .loop

/-- The command of a stop fails, and the session that is open seems to have ended
    with it; and a session that was closed while it was added seems to be open. -/
theorem stop_fails :
    (∃ s before e events, (history (fun _ => none) (fun _ _ => some "Permission denied")
          (fun _ => true) .none).run one_seat_recorded (first_opens ++ system_stopped) = some s ∧
        s.Settled ∧ s.log = before ++ .seat_session_added e :: events ∧ s.Open e ∧
        s.down = false ∧
        get_event_record_status (find_first_matching_remove_event events e) = .DOWN ∧
        ¬ EndsRight s e events) ∧
    (∃ s before e events, (history (fun _ => none) (fun _ _ => none)
          (fun _ => true) .none).run one_seat_recorded closed_while_added = some s ∧
        s.Settled ∧ s.log = before ++ .seat_session_added e :: events ∧ ¬ s.Open e ∧
        s.down = false ∧
        get_event_record_status (find_first_matching_remove_event events e) = .NOW ∧
        ¬ EndsRight s e events) := by
  constructor
  · have hrun : ((history (fun _ => none) (fun _ _ => some "Permission denied")
        (fun _ => true) .none).run one_seat_recorded (first_opens ++ system_stopped)).any (fun s =>
          s.frames.isEmpty && (s.state.sessions.lookup (cstr "Session1")).isSome && !s.down &&
          status_found (cstr "Session1") .DOWN (s.log.drop 1)) = true := by
      decide +kernel
    obtain ⟨s, hs, hcheck⟩ := (Option.any_eq_true ..).mp hrun
    simp only [Bool.and_eq_true, Bool.not_eq_true'] at hcheck
    obtain ⟨⟨⟨hframes, hlookup⟩, hup⟩, hcheck⟩ := hcheck
    obtain ⟨e, events, hlog, hid, hdown⟩ := status_found_cases hcheck
    have hopen : s.Open e := ⟨_, hid, hlookup⟩
    refine ⟨s, s.log.take 1, e, events, hs, .inl (List.isEmpty_iff.mp hframes), hlog, hopen, hup,
      hdown, fun hright => ?_⟩
    rw [(hright.still_open hopen hup).2] at hdown
    cases hdown
  · have hrun : ((history (fun _ => none) (fun _ _ => none)
        (fun _ => true) .none).run one_seat_recorded closed_while_added).any (fun s =>
          s.frames.isEmpty && (s.state.sessions.lookup (cstr "Session1")).isNone && !s.down &&
          status_found (cstr "Session1") .NOW (s.log.drop 2)) = true := by
      decide +kernel
    obtain ⟨s, hs, hcheck⟩ := (Option.any_eq_true ..).mp hrun
    simp only [Bool.and_eq_true, Bool.not_eq_true'] at hcheck
    obtain ⟨⟨⟨hframes, hlookup⟩, hup⟩, hcheck⟩ := hcheck
    obtain ⟨e, events, hlog, hid, hnow⟩ := status_found_cases hcheck
    have hclosed : ¬ s.Open e := by
      rintro ⟨k, hk, hopen⟩
      obtain rfl := Option.some.inj (hk.symm.trans hid)
      rw [Option.isNone_iff_eq_none.mp hlookup] at hopen
      cases hopen
    refine ⟨s, s.log.take 2, e, events, hs, .inl (List.isEmpty_iff.mp hframes), hlog, hclosed, hup,
      hnow, fun hright => ?_⟩
    rw [(hright.removed hclosed).2] at hnow
    cases hnow

end History
