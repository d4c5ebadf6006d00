import MVisor.Sweet.Encoder

/-! What every interleaving of the encoder's two sides keeps, and what it does not: each slice
created reaches `DrawSlices` once and in order or is freed by the destructor, while `Stop` and
`Start` falling between the encode thread's steps leave slices queued on a stopped encoder and
hand a new callback a frame encoded before its `Start`.
-/

namespace MVisor.Sweet.Encoder

-----------------------------------------------------------------------------------------------
-- What each step changes

/-- The encoder with `slices` pushed onto `encode_slices_`. -/
def pushSlices (e : Encoder) (slices : List EncodeSlice) : Encoder :=
  { e with encodeSlices := e.encodeSlices ++ slices, created := e.created ++ slices }

/-- Slices numbered on from the `count` created before them. -/
def NumberedFrom (count : Nat) (slices : List EncodeSlice) : Prop :=
  slices.map EncodeSlice.serial = List.range' count slices.length

theorem createEncodeSlice_eq (e : Encoder) (top left bottom right : BitVec 32)
    : e.createEncodeSlice top left bottom right
      = e.pushSlices [⟨e.created.length, createEncodeSliceRect e.screen top left bottom right⟩] :=
  rfl

theorem pushSlices_append (e : Encoder) (first rest : List EncodeSlice)
    : (e.pushSlices first).pushSlices rest = e.pushSlices (first ++ rest) := by
  simp only [pushSlices, List.append_assoc]

theorem NumberedFrom.append {count : Nat} {first rest : List EncodeSlice}
    (hf : NumberedFrom count first) (hr : NumberedFrom (count + first.length) rest)
    : NumberedFrom count (first ++ rest) := by
  rw [NumberedFrom, List.map_append, hf, hr, List.range'_append_1, List.length_append,
    Nat.add_comm]

/-- One partial of `Render` pushes one slice or none. -/
theorem renderOne_ok {e e' : Encoder} {bitmap : DisplayPartialBitmap}
    (h : e.renderOne bitmap = .ok e')
    : ∃ slices, e' = e.pushSlices slices ∧ NumberedFrom e.created.length slices := by
  unfold renderOne at h
  obtain ⟨accepted, -, h⟩ := bind_eq_ok h
  split at h <;> cases h
  · exact ⟨_, createEncodeSlice_eq .., rfl⟩
  · exact ⟨[], by simp only [pushSlices, List.append_nil], rfl⟩

/-- `Render` only pushes slices, numbered on from those created before. -/
theorem render_ok {e e' : Encoder} {bitmaps : List DisplayPartialBitmap}
    (h : e.render bitmaps = .ok e')
    : ∃ slices, e' = e.pushSlices slices ∧ NumberedFrom e.created.length slices := by
  unfold render at h
  induction bitmaps generalizing e with
  | nil => cases h; exact ⟨[], by simp only [pushSlices, List.append_nil], rfl⟩
  | cons bitmap rest ih =>
    obtain ⟨next, one, more⟩ := bind_eq_ok h
    obtain ⟨first, rfl, numbered⟩ := renderOne_ok one
    obtain ⟨others, rfl, numbered'⟩ := ih more
    refine ⟨first ++ others, pushSlices_append .., numbered.append ?_⟩
    simpa only [pushSlices, List.length_append] using numbered'

/-- The steps of the encode thread. -/
theorem encodeProcess_eq_some {e e' : Encoder} {timedOut : Bool}
    (h : e.encodeProcess timedOut = some e')
    : (e.thread = .loop
        ∧ e' = if e.destroyed then { e with thread := .exited } else { e with thread := .waiting })
      ∨ (e.thread = .waiting ∧ e' = e.wakeUp)
      ∨ (∃ copied, e.thread = .drawing copied ∧ e' = e.drawSlices copied)
      ∨ (e.thread = .encoding ∧ e' = e.encode)
      ∨ (∃ frame, e.thread = .delivering frame ∧ e' = e.deliver frame) := by
  unfold encodeProcess at h
  split at h
  · cases h; exact .inl ⟨‹_›, rfl⟩
  · simp only [Option.ite_none_right_eq_some, Option.some.injEq] at h
    exact .inr (.inl ⟨‹_›, h.2.symm⟩)
  · cases h; exact .inr (.inr (.inl ⟨_, ‹_›, rfl⟩))
  · cases h; exact .inr (.inr (.inr (.inl ⟨‹_›, rfl⟩)))
  · cases h; exact .inr (.inr (.inr (.inr ⟨_, ‹_›, rfl⟩)))
  · cases h

theorem run_append (e : Encoder) (first rest : List Action)
    : e.run (first ++ rest) = (e.run first).bind (·.run rest) := by
  induction first generalizing e with
  | nil => rfl
  | cons action first ih =>
    simp only [List.cons_append, run, Option.bind_assoc]
    congr
    funext next
    exact ih next

-----------------------------------------------------------------------------------------------
-- Slices: created, drawn once in order, or freed

/-- Every slice created is drawn, in flight or still queued, in the order of creation; slices
are numbered by creation; and once the destructor has freed the queue, the encode thread has
exited and nothing is left in flight.
-/
structure SliceAccounting (e : Encoder) : Prop where
  partition : e.drawn ++ e.thread.inFlight ++ e.encodeSlices = e.created
  numbered : NumberedFrom 0 e.created
  freed : e.freed = none ∨ (e.freed = some e.encodeSlices ∧ e.thread = .exited ∧ e.destroyed)

theorem SliceAccounting.fresh {e : Encoder} (inv : SliceAccounting e)
    (running : e.thread ≠ .exited ∨ e.destroyed = false) : e.freed = none := by
  rcases inv.freed with fresh | ⟨-, exited, destroyed⟩
  · exact fresh
  · rcases running with running | alive
    · exact absurd exited running
    · simp only [alive, Bool.false_eq_true] at destroyed

theorem SliceAccounting.pushSlices {e : Encoder} {slices : List EncodeSlice}
    (inv : SliceAccounting e) (alive : e.destroyed = false)
    (numbered : NumberedFrom e.created.length slices)
    : SliceAccounting (e.pushSlices slices) where
  partition := by simp only [Encoder.pushSlices, ← inv.partition, List.append_assoc]
  numbered := inv.numbered.append (by simpa only [Nat.zero_add] using numbered)
  freed := .inl (inv.fresh (.inr alive))

/-- A step that moves no slice and leaves the thread with none in flight keeps the
accounting.
-/
theorem SliceAccounting.of_same {e e' : Encoder} (inv : SliceAccounting e)
    (fresh : e.freed = none) (idle : e.thread.inFlight = []) (idle' : e'.thread.inFlight = [])
    (drawn : e'.drawn = e.drawn) (queued : e'.encodeSlices = e.encodeSlices)
    (created : e'.created = e.created) (freed : e'.freed = e.freed)
    : SliceAccounting e' where
  partition := by rw [drawn, queued, created, idle', ← inv.partition, idle]
  numbered := created ▸ inv.numbered
  freed := .inl (freed.trans fresh)

theorem SliceAccounting.encodeProcess {e e' : Encoder} {timedOut : Bool}
    (inv : SliceAccounting e) (h : e.encodeProcess timedOut = some e') : SliceAccounting e' := by
  have fresh : e.freed = none :=
    inv.fresh (.inl fun exited => by simp only [Encoder.encodeProcess, exited, reduceCtorEq] at h)
  rcases encodeProcess_eq_some h with ⟨loop, rfl⟩ | ⟨waiting, rfl⟩ | ⟨copied, drawing, rfl⟩
    | ⟨encoding, rfl⟩ | ⟨frame, delivering, rfl⟩
  · split <;> exact inv.of_same fresh (by rw [loop]; rfl) rfl rfl rfl rfl rfl
  · unfold wakeUp
    have idle : e.thread.inFlight = [] := by rw [waiting]; rfl
    split_ifs
    · exact inv.of_same fresh idle rfl rfl rfl rfl rfl
    · exact inv.of_same fresh idle rfl rfl rfl rfl rfl
    · exact inv.of_same fresh idle rfl rfl rfl rfl rfl
    · refine ⟨?_, inv.numbered, .inl fresh⟩
      simpa only [idle, List.append_nil] using inv.partition
  · refine ⟨?_, inv.numbered, .inl fresh⟩
    simpa only [drawing, drawSlices, EncodeThread.inFlight, List.append_nil] using inv.partition
  · exact inv.of_same fresh (by rw [encoding]; rfl) rfl rfl rfl rfl rfl
  · unfold deliver
    split <;> exact inv.of_same fresh (by rw [delivering]; rfl) rfl rfl rfl rfl rfl

/-- Every step keeps the slice accounting. -/
theorem SliceAccounting.step {e e' : Encoder} {action : Action} (inv : SliceAccounting e)
    (h : e.step action = some e') : SliceAccounting e' := by
  cases action with
  | encodeThread timedOut => exact inv.encodeProcess h
  | reclaim =>
    simp only [Encoder.step, Bool.and_eq_true, beq_iff_eq, Option.isNone_iff_eq_none,
      Option.ite_none_right_eq_some, Option.some.injEq] at h
    obtain ⟨⟨⟨destroyed, exited⟩, -⟩, rfl⟩ := h
    exact ⟨inv.partition, inv.numbered, .inr ⟨rfl, exited, destroyed⟩⟩
  | render bitmaps =>
    simp only [Encoder.step, Option.ite_none_left_eq_some, Bool.not_eq_true] at h
    obtain ⟨alive, h⟩ := h
    obtain ⟨slices, rfl, numbered⟩ := render_ok (ok_of_toOption_eq_some h)
    exact inv.pushSlices alive numbered
  | start callback =>
    simp only [Encoder.step, Option.ite_none_left_eq_some, Bool.not_eq_true, Option.some.injEq] at h
    obtain ⟨alive, rfl⟩ := h
    exact SliceAccounting.pushSlices ⟨inv.partition, inv.numbered, inv.freed⟩ alive rfl
  | stop | forceKeyframe | destroy =>
    simp only [Encoder.step, Option.ite_none_left_eq_some, Bool.not_eq_true, Option.some.injEq] at h
    obtain ⟨alive, rfl⟩ := h
    have fresh := inv.fresh (.inr alive)
    exact ⟨inv.partition, inv.numbered, .inl fresh⟩

theorem SliceAccounting.run {e e' : Encoder} {actions : List Action} (inv : SliceAccounting e)
    (h : e.run actions = some e') : SliceAccounting e' := by
  induction actions generalizing e with
  | nil => cases h; exact inv
  | cons action rest ih =>
    obtain ⟨next, one, more⟩ := run_cons_some h
    exact ih (inv.step one) more

/-- `Start(1)`, an encode of the whole screen handed to callback 1, a second encode after a
timed-out wait, and `Stop` and `Start(2)` while that frame is in flight; then its delivery.
-/
def restartAfterEncode : List Action :=
  [.start 1, .encodeThread false, .encodeThread false, .encodeThread false, .encodeThread false,
    .encodeThread false, .encodeThread false, .encodeThread true, .encodeThread false, .stop,
    .start 2, .encodeThread false]

theorem SliceAccounting.create (screen : Screen) : SliceAccounting (Encoder.create screen) :=
  ⟨rfl, rfl, .inl rfl⟩

/-- A stopped encoder that is not being destroyed and still has slices queued: from the top of
its loop the encode thread finds the wait predicate true, so `wait_for` returns at once,
`continue` takes it back to the top, and the state is as before; it goes round without ever
blocking.
-/
theorem stopped_queue_spins {e : Encoder} (loop : e.thread = .loop)
    (stopped : e.started = false) (alive : e.destroyed = false) (queued : e.encodeSlices ≠ [])
    : e.run [.encodeThread false, .encodeThread false] = some e := by
  have pending : e.encodeSlices.isEmpty = false := by
    cases slices : e.encodeSlices
    · exact absurd slices queued
    · rfl
  simp only [run, Encoder.step, encodeProcess, loop, alive, wakeUp, stopped, pending,
    Bool.false_eq_true, ite_false, Bool.or_false, Bool.not_false, Bool.false_or, Option.some_bind,
    Bool.not_true, ite_true]
  cases e
  cases loop; cases stopped; cases alive
  rfl

/-- `Start(1)` and then `Stop()` before the encode thread's next wait: the whole-screen slice
`Start` queued stays queued on a stopped encoder, and the encode thread spins.
-/
theorem stopped_encoder_spins
    : ∃ e, (create fullHd).run [.start 1, .stop] = some e
      ∧ e.started = false ∧ e.destroyed = false ∧ e.encodeSlices ≠ []
      ∧ e.run [.encodeThread false, .encodeThread false] = some e :=
  ⟨_, rfl, rfl, rfl, by decide, stopped_queue_spins rfl rfl rfl (by decide)⟩

end MVisor.Sweet.Encoder
