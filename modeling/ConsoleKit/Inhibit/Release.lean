import ConsoleKit.Inhibit.Model

/-! # What releasing a lock does

    `emit_final_uninhibit_signals` runs while the lock's path is already
    cleared, and the callback of its first signal takes a lock with a
    cleared path off the list and disconnects it.  This module says what
    the seven emissions do together:

    - `Frame`: what they leave alone, whatever the list looks like,
    - `foldl_emit_final_counter_*`: each event of the lock loses at most one,
    - `foldl_emit_final_head`: its first event always loses one, and the
      listener is told of it when the counter gets to 0,
    - `foldl_emit_final_first`: when the lock is the only one in the list
      with a cleared path, only its *first* event is counted down.
-/

namespace Inhibit

section release
variable {L : Type} {on_changed_event : L → CkInhibitMode → CkInhibitEvent → Bool → L}
variable {close : World L → InhibitRef → World L}

/-! ## Section 1: Field lemmas of the updates -/

@[simp] theorem setObject_object (w : World L) (r : InhibitRef) (o : CkInhibit) :
    (w.setObject r o).object = Function.update w.object r o := rfl

@[simp] theorem setObject_next_object (w : World L) (r : InhibitRef) (o : CkInhibit) :
    (w.setObject r o).next_object = w.next_object := rfl

@[simp] theorem setObject_connected (w : World L) (r : InhibitRef) (o : CkInhibit) :
    (w.setObject r o).connected = w.connected := rfl

@[simp] theorem setObject_inhibit_list (w : World L) (r : InhibitRef) (o : CkInhibit) :
    (w.setObject r o).inhibit_list = w.inhibit_list := rfl

@[simp] theorem setObject_inhibitors (w : World L) (r : InhibitRef) (o : CkInhibit) :
    (w.setObject r o).inhibitors = w.inhibitors := rfl

@[simp] theorem setObject_held (w : World L) (r : InhibitRef) (o : CkInhibit) :
    (w.setObject r o).held = w.held := rfl

@[simp] theorem setObject_listener (w : World L) (r : InhibitRef) (o : CkInhibit) :
    (w.setObject r o).listener = w.listener := rfl

theorem addToCounter_inhibitors (w : World L) (m m' : CkInhibitMode) (e e' : CkInhibitEvent)
    (d : Int) :
    (w.addToCounter m e d).inhibitors m' e' =
      w.inhibitors m' e' + if m' = m ∧ e' = e then d else 0 := by
  unfold World.addToCounter
  by_cases hm : m' = m
  · subst hm
    by_cases he : e' = e
    · subst he; simp
    · simp [he]
  · simp [hm]

@[simp] theorem addToCounter_self (w : World L) (m : CkInhibitMode) (e : CkInhibitEvent)
    (d : Int) : (w.addToCounter m e d).inhibitors m e = w.inhibitors m e + d := by
  simp [addToCounter_inhibitors]

/-! ## Section 2: The callback of one final signal -/

/-- The state after `ck_inhibit_manager_remove_lock` was called with a
    cleared path: closing the lock it finds does nothing. -/
def World.dropCleared (w : World L) : World L :=
  match w.inhibit_list.find? fun l => (w.object l).named_pipe_path = none with
  | none => w
  | some l =>
      { w with
        connected := Function.update w.connected l false
        inhibit_list := w.inhibit_list.erase l }

/-- No object has lost its path but not its pipe. -/
def PathlessClosed (w : World L) : Prop :=
  ∀ s, (w.object s).named_pipe_path = none → (w.object s).named_pipe = none

/-- `close` returns at once on a lock whose pipe is closed. -/
def SkipsClosed (close : World L → InhibitRef → World L) : Prop :=
  ∀ w s, (w.object s).named_pipe = none → close w s = w

variable (on_changed_event) in
theorem close_named_pipe_rec_skipsClosed (n : Nat) :
    SkipsClosed (close_named_pipe_rec on_changed_event n) := by
  intro w s hs
  cases n with
  | zero => rfl
  | succ n => simp [close_named_pipe_rec, hs]

theorem remove_lock_none (hclose : SkipsClosed close) (w : World L) (hw : PathlessClosed w) :
    (ck_inhibit_manager_remove_lock close w none).1 = w.dropCleared := by
  unfold ck_inhibit_manager_remove_lock World.dropCleared
  cases hfind : w.inhibit_list.find? fun l => (w.object l).named_pipe_path = none with
  | none => rfl
  | some l =>
    have hl : (w.object l).named_pipe_path = none := by
      simpa using List.find?_some hfind
    simp [hclose w l (hw l hl)]

/-- The counter of the event goes down and the listener is told when it
    reaches 0. -/
def World.countDown (on_changed_event : L → CkInhibitMode → CkInhibitEvent → Bool → L)
    (w : World L) (m : CkInhibitMode) (e : CkInhibitEvent) : World L :=
  let w := w.addToCounter m e (-1)
  if w.inhibitors m e = 0 then emit_manager_changed_event on_changed_event w m e false else w

theorem countDown_object (w : World L) (m : CkInhibitMode) (e : CkInhibitEvent) :
    (w.countDown on_changed_event m e).object = w.object := by
  unfold World.countDown; dsimp only; split <;> rfl

theorem countDown_connected (w : World L) (m : CkInhibitMode) (e : CkInhibitEvent) :
    (w.countDown on_changed_event m e).connected = w.connected := by
  unfold World.countDown; dsimp only; split <;> rfl

theorem countDown_inhibit_list (w : World L) (m : CkInhibitMode) (e : CkInhibitEvent) :
    (w.countDown on_changed_event m e).inhibit_list = w.inhibit_list := by
  unfold World.countDown; dsimp only; split <;> rfl

theorem countDown_inhibitors (w : World L) (m : CkInhibitMode) (e : CkInhibitEvent) :
    (w.countDown on_changed_event m e).inhibitors = (w.addToCounter m e (-1)).inhibitors := by
  unfold World.countDown; dsimp only; split <;> rfl

theorem countDown_held (w : World L) (m : CkInhibitMode) (e : CkInhibitEvent) :
    (w.countDown on_changed_event m e).held = w.held := by
  unfold World.countDown; dsimp only; split <;> rfl

theorem countDown_next_object (w : World L) (m : CkInhibitMode) (e : CkInhibitEvent) :
    (w.countDown on_changed_event m e).next_object = w.next_object := by
  unfold World.countDown; dsimp only; split <;> rfl

theorem countDown_listener (w : World L) (m : CkInhibitMode) (e : CkInhibitEvent) :
    (w.countDown on_changed_event m e).listener =
      if w.inhibitors m e = 1 then on_changed_event w.listener m e false else w.listener := by
  unfold World.countDown
  simp only [addToCounter_self]
  by_cases h : w.inhibitors m e = 1
  · rw [if_pos h, if_pos (by omega)]; rfl
  · rw [if_neg h, if_neg (by omega)]; rfl

/-- `emit_final` on an event of a lock whose path is cleared. -/
theorem emit_final_eq (hclose : SkipsClosed close) (r : InhibitRef) (w : World L)
    (e : CkInhibitEvent) (hw : PathlessClosed w) (hr : (w.object r).named_pipe_path = none) :
    emit_final on_changed_event close r w e =
      if (w.object r).inhibitors e then
        if w.connected r then
          ((w.clearInhibitor r e).countDown on_changed_event (w.object r).mode e).dropCleared
        else w.clearInhibitor r e
      else w := by
  have hpath : ∀ s, ((w.clearInhibitor r e).object s).named_pipe_path =
      (w.object s).named_pipe_path := by
    intro s
    by_cases hs : s = r <;> simp [World.clearInhibitor, hs]
  have hpipe : ∀ s, ((w.clearInhibitor r e).object s).named_pipe = (w.object s).named_pipe := by
    intro s
    by_cases hs : s = r <;> simp [World.clearInhibitor, hs]
  have hmode : ((w.clearInhibitor r e).object r).mode = (w.object r).mode := by
    simp [World.clearInhibitor]
  unfold emit_final
  by_cases hflag : (w.object r).inhibitors e = true
  · rw [if_pos hflag, if_pos hflag]
    unfold emit_changed_event
    rw [show (w.clearInhibitor r e).connected = w.connected from rfl, hmode]
    by_cases hconn : w.connected r = true
    · rw [if_pos hconn, if_pos hconn]
      set v := (w.clearInhibitor r e).countDown on_changed_event (w.object r).mode e with hv
      have hobj : v.object = (w.clearInhibitor r e).object := by rw [hv, countDown_object]
      have hclosed : PathlessClosed v := by
        intro s hs
        rw [hobj, hpath] at hs
        rw [hobj, hpipe]
        exact hw s hs
      have hcb : cb_changed_event on_changed_event close (w.clearInhibitor r e) r
          (w.object r).mode e false =
          (ck_inhibit_manager_remove_lock close v (v.object r).named_pipe_path).1 := rfl
      rw [hcb, hobj, hpath, hr, remove_lock_none hclose v hclosed]
    · rw [if_neg hconn, if_neg hconn]
  · rw [if_neg hflag, if_neg hflag]

/-! ## Section 3: What the signals leave alone -/

theorem dropCleared_object (w : World L) : w.dropCleared.object = w.object := by
  unfold World.dropCleared; split <;> rfl

theorem dropCleared_inhibitors (w : World L) : w.dropCleared.inhibitors = w.inhibitors := by
  unfold World.dropCleared; split <;> rfl

theorem dropCleared_held (w : World L) : w.dropCleared.held = w.held := by
  unfold World.dropCleared; split <;> rfl

theorem dropCleared_next_object (w : World L) :
    w.dropCleared.next_object = w.next_object := by
  unfold World.dropCleared; split <;> rfl

theorem dropCleared_listener (w : World L) : w.dropCleared.listener = w.listener := by
  unfold World.dropCleared; split <;> rfl

/-- Only a lock with a cleared path can be taken off the list. -/
theorem dropCleared_cases (w : World L) :
    w.dropCleared = w ∨
    ∃ l, (w.object l).named_pipe_path = none ∧
      w.dropCleared = { w with
        connected := Function.update w.connected l false
        inhibit_list := w.inhibit_list.erase l } := by
  unfold World.dropCleared
  cases hfind : w.inhibit_list.find? fun l => (w.object l).named_pipe_path = none with
  | none => exact .inl rfl
  | some l => exact .inr ⟨l, by simpa using List.find?_some hfind, rfl⟩

/-- What the final signals of lock `r` do not change: the other objects,
    the lock's mode, path and pipe, and the place in the list of every lock
    that still has a path. -/
structure Frame (r : InhibitRef) (w w' : World L) : Prop where
  object_ne : ∀ s, s ≠ r → w'.object s = w.object s
  mode : (w'.object r).mode = (w.object r).mode
  path : (w'.object r).named_pipe_path = (w.object r).named_pipe_path
  pipe : (w'.object r).named_pipe = (w.object r).named_pipe
  held : w'.held = w.held
  next_object : w'.next_object = w.next_object
  sublist : w'.inhibit_list.Sublist w.inhibit_list
  list_open : ∀ s ∈ w.inhibit_list, (w.object s).named_pipe_path ≠ none → s ∈ w'.inhibit_list
  connected_open : ∀ s, (w.object s).named_pipe_path ≠ none → w'.connected s = w.connected s

theorem Frame.refl (r : InhibitRef) (w : World L) : Frame r w w where
  object_ne := fun _ _ => rfl
  mode := rfl
  path := rfl
  pipe := rfl
  held := rfl
  next_object := rfl
  sublist := List.Sublist.refl _
  list_open := fun _ h _ => h
  connected_open := fun _ _ => rfl

theorem Frame.path_eq {r : InhibitRef} {w w' : World L} (h : Frame r w w') (s : InhibitRef) :
    (w'.object s).named_pipe_path = (w.object s).named_pipe_path := by
  by_cases hs : s = r
  · subst hs; exact h.path
  · rw [h.object_ne s hs]

theorem Frame.pipe_eq {r : InhibitRef} {w w' : World L} (h : Frame r w w') (s : InhibitRef) :
    (w'.object s).named_pipe = (w.object s).named_pipe := by
  by_cases hs : s = r
  · subst hs; exact h.pipe
  · rw [h.object_ne s hs]

theorem Frame.pathlessClosed {r : InhibitRef} {w w' : World L} (h : Frame r w w')
    (hw : PathlessClosed w) : PathlessClosed w' := by
  intro s hs
  rw [h.path_eq] at hs
  rw [h.pipe_eq]
  exact hw s hs

theorem Frame.trans {r : InhibitRef} {w₁ w₂ w₃ : World L} (h : Frame r w₁ w₂)
    (h' : Frame r w₂ w₃) : Frame r w₁ w₃ where
  object_ne := fun s hs => (h'.object_ne s hs).trans (h.object_ne s hs)
  mode := h'.mode.trans h.mode
  path := h'.path.trans h.path
  pipe := h'.pipe.trans h.pipe
  held := h'.held.trans h.held
  next_object := h'.next_object.trans h.next_object
  sublist := h'.sublist.trans h.sublist
  list_open := fun s hs hp => h'.list_open s (h.list_open s hs hp) (by rwa [h.path_eq])
  connected_open := fun s hp =>
    (h'.connected_open s (by rwa [h.path_eq])).trans (h.connected_open s hp)

theorem clearInhibitor_frame (r : InhibitRef) (w : World L) (e : CkInhibitEvent) :
    Frame r w (w.clearInhibitor r e) := by
  constructor <;> simp +contextual [World.clearInhibitor]

theorem countDown_frame (r : InhibitRef) (w : World L) (m : CkInhibitMode)
    (e : CkInhibitEvent) : Frame r w (w.countDown on_changed_event m e) := by
  constructor <;>
    simp +contextual [countDown_object, countDown_held, countDown_next_object,
      countDown_inhibit_list, countDown_connected]

theorem dropCleared_frame (r : InhibitRef) (w : World L) : Frame r w w.dropCleared := by
  rcases dropCleared_cases w with h | ⟨l, hl, h⟩
  · rw [h]; exact Frame.refl r w
  · rw [h]
    have hne : ∀ s, (w.object s).named_pipe_path ≠ none → s ≠ l := by
      intro s hs heq
      exact hs (heq ▸ hl)
    exact {
      object_ne := fun _ _ => rfl
      mode := rfl
      path := rfl
      pipe := rfl
      held := rfl
      next_object := rfl
      sublist := List.erase_sublist
      list_open := fun s hs hp => (List.mem_erase_of_ne (hne s hp)).mpr hs
      connected_open := fun s hp => by simp [hne s hp] }

variable (on_changed_event) in
theorem emit_final_frame (hclose : SkipsClosed close) (r : InhibitRef) (w : World L)
    (e : CkInhibitEvent) (hw : PathlessClosed w) (hr : (w.object r).named_pipe_path = none) :
    Frame r w (emit_final on_changed_event close r w e) := by
  rw [emit_final_eq hclose r w e hw hr]
  split
  · split
    · exact ((clearInhibitor_frame r w e).trans (countDown_frame r _ _ e)).trans
        (dropCleared_frame r _)
    · exact clearInhibitor_frame r w e
  · exact Frame.refl r w

variable (on_changed_event) in
theorem foldl_emit_final_frame (hclose : SkipsClosed close) (r : InhibitRef)
    (es : List CkInhibitEvent) (w : World L) (hw : PathlessClosed w)
    (hr : (w.object r).named_pipe_path = none) :
    Frame r w (es.foldl (emit_final on_changed_event close r) w) := by
  induction es generalizing w with
  | nil => exact Frame.refl r w
  | cons e es ih =>
    have he := emit_final_frame on_changed_event hclose r w e hw hr
    exact he.trans (ih _ (he.pathlessClosed hw) (he.path.trans hr))

/-! ## Section 4: The counters -/

theorem emit_final_flag (hclose : SkipsClosed close) (r : InhibitRef) (w : World L)
    (e e' : CkInhibitEvent) (hw : PathlessClosed w)
    (hr : (w.object r).named_pipe_path = none) :
    ((emit_final on_changed_event close r w e).object r).inhibitors e' =
      if e' = e then false else (w.object r).inhibitors e' := by
  rw [emit_final_eq hclose r w e hw hr]
  by_cases hflag : (w.object r).inhibitors e = true
  · by_cases hconn : w.connected r = true <;>
      simp [hflag, hconn, dropCleared_object, countDown_object, World.clearInhibitor,
        Function.update_apply]
  · by_cases he : e' = e
    · subst he; simp [hflag]
    · simp [hflag, he]

variable (on_changed_event) in
theorem emit_final_inhibitors (hclose : SkipsClosed close) (r : InhibitRef) (w : World L)
    (e : CkInhibitEvent) (hw : PathlessClosed w) (hr : (w.object r).named_pipe_path = none)
    (m : CkInhibitMode) (e' : CkInhibitEvent) :
    (emit_final on_changed_event close r w e).inhibitors m e' =
      w.inhibitors m e' +
        if (w.object r).inhibitors e ∧ w.connected r ∧ m = (w.object r).mode ∧ e' = e
        then -1 else 0 := by
  rw [emit_final_eq hclose r w e hw hr]
  by_cases hflag : (w.object r).inhibitors e = true
  · by_cases hconn : w.connected r = true
    · rw [if_pos hflag, if_pos hconn, dropCleared_inhibitors, countDown_inhibitors,
        addToCounter_inhibitors]
      simp [hflag, hconn, World.clearInhibitor]
    · simp [hflag, hconn, World.clearInhibitor]
  · simp [hflag]

/-- No counter of another mode, and none of an event the lock does not
    name, changes. -/
theorem foldl_emit_final_counter_ne (hclose : SkipsClosed close) (r : InhibitRef)
    (es : List CkInhibitEvent) (w : World L) (hw : PathlessClosed w)
    (hr : (w.object r).named_pipe_path = none) (m : CkInhibitMode) (e : CkInhibitEvent)
    (hne : ¬ (m = (w.object r).mode ∧ (w.object r).inhibitors e = true)) :
    (es.foldl (emit_final on_changed_event close r) w).inhibitors m e = w.inhibitors m e := by
  induction es generalizing w with
  | nil => rfl
  | cons d es ih =>
    have hd := emit_final_frame on_changed_event hclose r w d hw hr
    rw [List.foldl_cons, ih _ (hd.pathlessClosed hw) (hd.path.trans hr),
      emit_final_inhibitors on_changed_event hclose r w d hw hr]
    · rw [if_neg (fun h => hne ⟨h.2.2.1, by rw [h.2.2.2]; exact h.1⟩)]
      omega
    · rw [hd.mode, emit_final_flag hclose r w d e hw hr]
      intro h
      split at h
      · exact absurd h.2 (by simp)
      · exact hne h

/-- Every counter loses at most one. -/
theorem foldl_emit_final_counter_ge (hclose : SkipsClosed close) (r : InhibitRef)
    (es : List CkInhibitEvent) (w : World L) (hw : PathlessClosed w)
    (hr : (w.object r).named_pipe_path = none) (m : CkInhibitMode) (e : CkInhibitEvent) :
    w.inhibitors m e - 1 ≤ (es.foldl (emit_final on_changed_event close r) w).inhibitors m e := by
  induction es generalizing w with
  | nil =>
    rw [List.foldl_nil]
    omega
  | cons d es ih =>
    have hd := emit_final_frame on_changed_event hclose r w d hw hr
    rw [List.foldl_cons]
    by_cases hed : e = d
    · -- the flag of `e` is cleared here, so the rest of the loop skips it
      rw [foldl_emit_final_counter_ne hclose r es _ (hd.pathlessClosed hw) (hd.path.trans hr),
        emit_final_inhibitors on_changed_event hclose r w d hw hr]
      · split <;> omega
      · rw [emit_final_flag hclose r w d e hw hr, if_pos hed]
        simp
    · have hstep := ih (emit_final on_changed_event close r w d) (hd.pathlessClosed hw)
        (hd.path.trans hr)
      rw [emit_final_inhibitors on_changed_event hclose r w d hw hr,
        if_neg (fun h => hed h.2.2.2)] at hstep
      omega

/-! ## Section 5: The listener and the first event -/

variable (on_changed_event) in
/-- The listener is told of some of the lock's events, in their order. -/
theorem foldl_emit_final_listener (hclose : SkipsClosed close) (r : InhibitRef)
    (es : List CkInhibitEvent) (w : World L) (hw : PathlessClosed w)
    (hr : (w.object r).named_pipe_path = none) :
    ∃ calls : List CkInhibitEvent, calls.Sublist (es.filter (w.object r).inhibitors) ∧
      (es.foldl (emit_final on_changed_event close r) w).listener =
        calls.foldl (fun l e => on_changed_event l (w.object r).mode e false) w.listener := by
  induction es generalizing w with
  | nil => exact ⟨[], List.Sublist.refl _, rfl⟩
  | cons e es ih =>
    have he := emit_final_frame on_changed_event hclose r w e hw hr
    obtain ⟨calls, hsub, hlistener⟩ := ih _ (he.pathlessClosed hw) (he.path.trans hr)
    rw [he.mode] at hlistener
    have hsub' : calls.Sublist (es.filter (w.object r).inhibitors) := by
      refine hsub.trans (List.monotone_filter_right es fun e' => ?_)
      rw [emit_final_flag hclose r w e e' hw hr]
      split <;> simp
    rw [List.foldl_cons, hlistener]
    by_cases hflag : (w.object r).inhibitors e = true
    · rw [List.filter_cons_of_pos hflag]
      rw [emit_final_eq hclose r w e hw hr, if_pos hflag]
      by_cases hcall : w.connected r = true ∧ w.inhibitors (w.object r).mode e = 1
      · refine ⟨e :: calls, hsub'.cons_cons e, ?_⟩
        rw [if_pos hcall.1, dropCleared_listener, countDown_listener]
        rw [if_pos (show (w.clearInhibitor r e).inhibitors (w.object r).mode e = 1 from hcall.2)]
        rfl
      · refine ⟨calls, hsub'.cons e, ?_⟩
        congr 1
        by_cases hconn : w.connected r = true
        · rw [if_pos hconn, dropCleared_listener, countDown_listener, if_neg]
          · rfl
          · exact fun h => hcall ⟨hconn, h⟩
        · rw [if_neg hconn]
          rfl
    · rw [List.filter_cons_of_neg hflag, emit_final_eq hclose r w e hw hr, if_neg hflag]
      exact ⟨calls, hsub', rfl⟩

variable (on_changed_event) in
/-- The first event of a connected lock is always counted down. -/
theorem foldl_emit_final_head (hclose : SkipsClosed close) (r : InhibitRef)
    (es : List CkInhibitEvent) (w : World L) (hw : PathlessClosed w)
    (hr : (w.object r).named_pipe_path = none) (hconn : w.connected r = true)
    (first : CkInhibitEvent) (rest : List CkInhibitEvent)
    (hfirst : es.filter (w.object r).inhibitors = first :: rest) :
    (es.foldl (emit_final on_changed_event close r) w).inhibitors (w.object r).mode first =
      w.inhibitors (w.object r).mode first - 1 ∧
    ∃ calls : List CkInhibitEvent, calls.Sublist rest ∧
      (es.foldl (emit_final on_changed_event close r) w).listener =
        calls.foldl (fun l e => on_changed_event l (w.object r).mode e false)
          (if w.inhibitors (w.object r).mode first = 1 then
            on_changed_event w.listener (w.object r).mode first false
          else w.listener) := by
  induction es with
  | nil => simp at hfirst
  | cons e es ih =>
    rw [List.foldl_cons]
    by_cases hflag : (w.object r).inhibitors e = true
    · rw [List.filter_cons_of_pos hflag] at hfirst
      obtain ⟨rfl, rfl⟩ := List.cons.inj hfirst
      have he := emit_final_frame on_changed_event hclose r w e hw hr
      have hcount := emit_final_inhibitors on_changed_event hclose r w e
        hw hr (w.object r).mode e
      rw [if_pos ⟨hflag, hconn, rfl, rfl⟩] at hcount
      constructor
      · rw [foldl_emit_final_counter_ne hclose r es _ (he.pathlessClosed hw) (he.path.trans hr),
          hcount]
        · omega
        · rw [emit_final_flag hclose r w e e hw hr, if_pos rfl]
          simp
      · obtain ⟨calls, hsub, hlistener⟩ := foldl_emit_final_listener
          on_changed_event hclose r es _ (he.pathlessClosed hw)
          (he.path.trans hr)
        refine ⟨calls, hsub.trans (List.monotone_filter_right es fun e' => ?_), ?_⟩
        · rw [emit_final_flag hclose r w e e' hw hr]
          split <;> simp
        · rw [hlistener, he.mode, emit_final_eq hclose r w e hw hr, if_pos hflag, if_pos hconn,
            dropCleared_listener, countDown_listener]
          rfl
    · rw [List.filter_cons_of_neg hflag] at hfirst
      rw [emit_final_eq hclose r w e hw hr, if_neg hflag]
      exact ih hfirst

/-! ## Section 6: Only the first event is counted down -/

variable (on_changed_event) in
/-- A disconnected lock changes nothing but its own flags. -/
theorem foldl_emit_final_disconnected (hclose : SkipsClosed close) (r : InhibitRef)
    (es : List CkInhibitEvent) (w : World L) (hw : PathlessClosed w)
    (hr : (w.object r).named_pipe_path = none) (hconn : w.connected r = false) :
    (es.foldl (emit_final on_changed_event close r) w).inhibitors = w.inhibitors ∧
    (es.foldl (emit_final on_changed_event close r) w).inhibit_list = w.inhibit_list := by
  induction es generalizing w with
  | nil => exact ⟨rfl, rfl⟩
  | cons e es ih =>
    have he := emit_final_frame on_changed_event hclose r w e hw hr
    have heq : emit_final on_changed_event close r w e = w ∨
        emit_final on_changed_event close r w e = w.clearInhibitor r e := by
      rw [emit_final_eq hclose r w e hw hr, hconn]
      by_cases hflag : (w.object r).inhibitors e = true <;> simp [hflag]
    have hconn' : (emit_final on_changed_event close r w e).connected r = false := by
      rcases heq with h | h <;> rw [h] <;> exact hconn
    have hrest := ih _ (he.pathlessClosed hw) (he.path.trans hr) hconn'
    rw [List.foldl_cons]
    refine ⟨hrest.1.trans ?_, hrest.2.trans ?_⟩ <;>
      rcases heq with h | h <;> rw [h] <;> rfl

variable (on_changed_event) in
/-- When no other lock of the list has a cleared path, the callback of the
    first signal disconnects the lock, and the other events keep their
    count. -/
theorem foldl_emit_final_first (hclose : SkipsClosed close) (r : InhibitRef)
    (es : List CkInhibitEvent) (w : World L) (hw : PathlessClosed w)
    (hr : (w.object r).named_pipe_path = none) (hconn : w.connected r = true)
    (hmem : r ∈ w.inhibit_list)
    (hothers : ∀ s ∈ w.inhibit_list, s ≠ r → (w.object s).named_pipe_path ≠ none)
    (first : CkInhibitEvent) (rest : List CkInhibitEvent)
    (hfirst : es.filter (w.object r).inhibitors = first :: rest) :
    (es.foldl (emit_final on_changed_event close r) w).inhibitors =
      (w.addToCounter (w.object r).mode first (-1)).inhibitors ∧
    (es.foldl (emit_final on_changed_event close r) w).inhibit_list =
      w.inhibit_list.erase r := by
  induction es with
  | nil => simp at hfirst
  | cons e es ih =>
    by_cases hflag : (w.object r).inhibitors e = true
    · -- `e` is the first event: its callback takes `r` off the list
      have hef : e = first := by
        rw [List.filter_cons_of_pos hflag] at hfirst
        exact (List.cons.inj hfirst).1
      subst hef
      set v := (w.clearInhibitor r e).countDown on_changed_event (w.object r).mode e with hv
      have hvlist : v.inhibit_list = w.inhibit_list := by
        rw [hv, countDown_inhibit_list]; rfl
      have hvpath : ∀ s, (v.object s).named_pipe_path = (w.object s).named_pipe_path := by
        intro s
        rw [hv, countDown_object]
        exact (clearInhibitor_frame r w e).path_eq s
      -- `r` is the only lock on the list without a path.
      have hfind : v.inhibit_list.find? (fun l => (v.object l).named_pipe_path = none) =
          some r := by
        rw [hvlist]
        cases hf : w.inhibit_list.find? (fun l => (v.object l).named_pipe_path = none) with
        | none =>
          have := List.find?_eq_none.mp hf r hmem
          simp [hvpath, hr] at this
        | some l =>
          have hl : (w.object l).named_pipe_path = none := by
            have := List.find?_some hf
            simpa [hvpath] using this
          have hlm := List.mem_of_find?_eq_some hf
          by_cases hlr : l = r
          · rw [hlr]
          · exact absurd hl (hothers l hlm hlr)
      have hdrop : emit_final on_changed_event close r w e =
          { v with
            connected := Function.update v.connected r false
            inhibit_list := v.inhibit_list.erase r } := by
        rw [emit_final_eq hclose r w e hw hr, if_pos hflag, if_pos hconn, ← hv]
        unfold World.dropCleared
        rw [hfind]
      have he := emit_final_frame on_changed_event hclose r w e hw hr
      -- The other events find `r` disconnected and change nothing.
      have hrest := foldl_emit_final_disconnected on_changed_event
        hclose r es (emit_final on_changed_event close r w e)
        (he.pathlessClosed hw) (he.path.trans hr) (by rw [hdrop]; simp)
      rw [List.foldl_cons]
      refine ⟨hrest.1.trans ?_, hrest.2.trans ?_⟩
      · rw [hdrop]
        change v.inhibitors = _
        rw [hv, countDown_inhibitors]
        rfl
      · rw [hdrop]
        change v.inhibit_list.erase r = _
        rw [hvlist]
    · rw [List.filter_cons_of_neg hflag] at hfirst
      have heq : emit_final on_changed_event close r w e = w := by
        rw [emit_final_eq hclose r w e hw hr, if_neg hflag]
      rw [List.foldl_cons, heq]
      exact ih hfirst

end release

end Inhibit
