import MVisor.Sweet.EncoderRuns

/-! The encoder's events: which callback receives each frame, and the frame a restart hands a
new callback. `output_callback_` is only read and written under `encode_mutex_`, so a frame
goes to the callback installed at that moment; nothing ties the frame to the session it was
encoded in. What a `Start` does tie is the next picture: its keyframe request stays until
`Encode` consumes it, and `i_pts` counts the pictures across sessions.
-/

namespace MVisor.Sweet.Encoder

/-- The callback installed after `event`, given the one installed before it. -/
def installAfter (current : Option Nat) : Event → Option Nat
  | .started callback => some callback
  | .stopped => none
  | _ => current

/-- The callback a history of events leaves installed: the last `Start`'s, unless a `Stop`
came after it.
-/
def installed (log : List Event) : Option Nat :=
  log.foldl installAfter none

@[simp] theorem installed_append (log : List Event) (event : Event)
    : installed (log ++ [event]) = installAfter (installed log) event := by
  simp only [installed, List.foldl_append, List.foldl_cons, List.foldl_nil]

/-- Every frame in the history went to the callback installed just before it. -/
def OutputsInstalled (log : List Event) : Prop :=
  ∀ pre callback frame post, log = pre ++ .output callback frame :: post
    → installed pre = some callback

/-- An event appended to a history keeps `OutputsInstalled` when, if it is an output, it goes
to the callback the history leaves installed.
-/
theorem OutputsInstalled.append {log : List Event} {event : Event} (old : OutputsInstalled log)
    (new : ∀ callback frame, event = .output callback frame → installed log = some callback)
    : OutputsInstalled (log ++ [event]) := by
  intro pre callback frame post split
  rcases List.eq_nil_or_concat post with rfl | ⟨post, last, rfl⟩
  · obtain ⟨rfl, events⟩ := List.append_inj' split rfl
    exact new callback frame (List.singleton_inj.mp events)
  · rw [List.concat_eq_append, ← List.cons_append, ← List.append_assoc] at split
    exact old pre callback frame post (List.append_inj' split rfl).1

/-- What a step does to the history and to `output_callback_`. -/
theorem step_log {e e' : Encoder} {action : Action} (h : e.step action = some e')
    : (e'.log = e.log ∧ e'.outputCallback = e.outputCallback)
      ∨ (∃ callback, e'.log = e.log ++ [.started callback] ∧ e'.outputCallback = some callback)
      ∨ (e'.log = e.log ++ [.stopped] ∧ e'.outputCallback = none)
      ∨ (∃ frame, e'.log = e.log ++ [.encoded frame] ∧ e'.outputCallback = e.outputCallback)
      ∨ (∃ callback frame, e'.log = e.log ++ [.output callback frame]
          ∧ e.outputCallback = some callback ∧ e'.outputCallback = e.outputCallback) := by
  cases action with
  | start callback =>
    simp only [Encoder.step, Option.ite_none_left_eq_some, Option.some.injEq] at h
    obtain ⟨-, rfl⟩ := h
    exact .inr (.inl ⟨callback, rfl, rfl⟩)
  | stop =>
    simp only [Encoder.step, Option.ite_none_left_eq_some, Option.some.injEq] at h
    obtain ⟨-, rfl⟩ := h
    exact .inr (.inr (.inl ⟨rfl, rfl⟩))
  | render bitmaps =>
    simp only [Encoder.step, Option.ite_none_left_eq_some] at h
    obtain ⟨slices, rfl, -⟩ := render_ok (ok_of_toOption_eq_some h.2)
    exact .inl ⟨rfl, rfl⟩
  | forceKeyframe | destroy =>
    simp only [Encoder.step, Option.ite_none_left_eq_some, Option.some.injEq] at h
    obtain ⟨-, rfl⟩ := h
    exact .inl ⟨rfl, rfl⟩
  | reclaim =>
    simp only [Encoder.step, Option.ite_none_right_eq_some, Option.some.injEq] at h
    obtain ⟨-, rfl⟩ := h
    exact .inl ⟨rfl, rfl⟩
  | encodeThread timedOut =>
    rcases encodeProcess_eq_some h with ⟨-, rfl⟩ | ⟨-, rfl⟩ | ⟨copied, -, rfl⟩ | ⟨-, rfl⟩
      | ⟨frame, -, rfl⟩
    · split <;> exact .inl ⟨rfl, rfl⟩
    · unfold wakeUp
      split_ifs <;> exact .inl ⟨rfl, rfl⟩
    · exact .inl ⟨rfl, rfl⟩
    · exact .inr (.inr (.inr (.inl ⟨_, rfl, rfl⟩)))
    · unfold deliver
      split
      · exact .inr (.inr (.inr (.inr ⟨_, _, rfl, ‹_›, rfl⟩)))
      · exact .inl ⟨rfl, rfl⟩

/-- The history names the installed callback, and every frame in it went to the callback
installed at that point.
-/
structure CallbackHistory (e : Encoder) : Prop where
  current : installed e.log = e.outputCallback
  outputs : OutputsInstalled e.log

theorem CallbackHistory.step {e e' : Encoder} {action : Action} (inv : CallbackHistory e)
    (h : e.step action = some e') : CallbackHistory e' := by
  have notOutput : ∀ {event : Event}, (∀ callback frame, event ≠ .output callback frame)
      → OutputsInstalled (e.log ++ [event]) := fun other =>
    inv.outputs.append fun callback frame same => absurd same (other callback frame)
  rcases step_log h with ⟨log, callback⟩ | ⟨installing, log, callback⟩ | ⟨log, callback⟩
    | ⟨frame, log, callback⟩ | ⟨installing, frame, log, before, callback⟩
  · exact ⟨log ▸ callback ▸ inv.current, log ▸ inv.outputs⟩
  · exact ⟨by rw [log, callback, installed_append]; rfl,
      log ▸ notOutput fun _ _ same => nomatch same⟩
  · exact ⟨by rw [log, callback, installed_append]; rfl,
      log ▸ notOutput fun _ _ same => nomatch same⟩
  · exact ⟨by rw [log, callback, installed_append]; exact inv.current,
      log ▸ notOutput fun _ _ same => nomatch same⟩
  · refine ⟨by rw [log, callback, installed_append]; exact inv.current, log ▸ ?_⟩
    refine inv.outputs.append fun _ _ same => ?_
    cases same
    exact inv.current.trans before

theorem CallbackHistory.run {e e' : Encoder} {actions : List Action} (inv : CallbackHistory e)
    (h : e.run actions = some e') : CallbackHistory e' := by
  induction actions generalizing e with
  | nil => cases h; exact inv
  | cons action rest ih =>
    obtain ⟨next, one, more⟩ := run_cons_some h
    exact ih (inv.step one) more

/-- Under any interleaving, each frame handed to a callback is handed to the callback that the
last `Start` before it installed, with no `Stop` in between. Witness: `output_callback_` is
set by `Start` and `Stop` and read by the delivery, all under the lock.
-/
theorem frames_reach_installed_callback {screen : Screen} {actions : List Action} {e : Encoder}
    (h : (create screen).run actions = some e)
    {pre : List Event} {callback : Nat} {frame : Frame} {post : List Event}
    (logged : e.log = pre ++ .output callback frame :: post)
    : installed pre = some callback := by
  have start : CallbackHistory (create screen) := ⟨rfl, fun pre _ _ _ split => by
    simp only [create, List.nil_eq_append_iff, reduceCtorEq, and_false] at split⟩
  exact (start.run h).outputs pre callback frame post logged

/-- The restart run hands frame 2 to callback 2, the callback that the last `Start` before
the delivery installed, after `Stop` withdrew callback 1.
-/
theorem restart_output_installed
    : ∃ e, (create fullHd).run restartAfterEncode = some e
      ∧ e.log = [.started 1, .encoded ⟨1, true⟩, .output 1 ⟨1, true⟩, .encoded ⟨2, false⟩,
          .stopped, .started 2] ++ [.output 2 ⟨2, false⟩]
      ∧ installed [.started 1, .encoded ⟨1, true⟩, .output 1 ⟨1, true⟩, .encoded ⟨2, false⟩,
          .stopped, .started 2] = some 2 :=
  ⟨_, rfl, rfl,
    @frames_reach_installed_callback fullHd restartAfterEncode _ rfl _ 2 ⟨2, false⟩ [] rfl⟩

/-- `Start(1)`, an encode handed to callback 1, a second encode, and `Stop` and `Start(2)`
while that frame is in flight: the first frame callback 2 receives is that frame, encoded
before `Start(2)` and not a keyframe. `force_keyframe_`, set by `Start(2)`, only marks the
next picture.
-/
theorem restart_hands_stale_frame
    : ∃ e, (create fullHd).run restartAfterEncode = some e
      ∧ e.log = [.started 1, .encoded ⟨1, true⟩, .output 1 ⟨1, true⟩, .encoded ⟨2, false⟩,
        .stopped, .started 2, .output 2 ⟨2, false⟩]
      ∧ e.forceKeyframe = true :=
  ⟨_, rfl, rfl, rfl⟩

-----------------------------------------------------------------------------------------------
-- Keyframes and picture numbers

/-- Whether a `Start` is pending after `event`: a `Start` makes one pending, a picture encoded
consumes it.
-/
def pendingAfter (pending : Bool) : Event → Bool
  | .started _ => true
  | .encoded _ => false
  | _ => pending

/-- Whether a `Start` has come since the last picture encoded. -/
def startPending (log : List Event) : Bool :=
  log.foldl pendingAfter false

/-- The pictures of a history, in the order they were encoded. -/
def encodedFrames (log : List Event) : List Frame :=
  log.filterMap fun
    | .encoded frame => some frame
    | _ => none

@[simp] theorem startPending_append (log : List Event) (event : Event)
    : startPending (log ++ [event]) = pendingAfter (startPending log) event := by
  simp only [startPending, List.foldl_append, List.foldl_cons, List.foldl_nil]

@[simp] theorem encodedFrames_append (log : List Event) (event : Event)
    : encodedFrames (log ++ [event]) = encodedFrames log ++ encodedFrames [event] := by
  simp only [encodedFrames, List.filterMap_append]

/-- A property of each picture and the history before it survives an event appended to the
history when it holds of the appended event, if that is a picture.
-/
theorem encoded_append {P : List Event → Frame → Prop} {log : List Event} {event : Event}
    (old : ∀ pre frame post, log = pre ++ .encoded frame :: post → P pre frame)
    (new : ∀ frame, event = .encoded frame → P log frame)
    : ∀ pre frame post, log ++ [event] = pre ++ .encoded frame :: post → P pre frame := by
  intro pre frame post split
  rcases List.eq_nil_or_concat post with rfl | ⟨post, last, rfl⟩
  · obtain ⟨rfl, events⟩ := List.append_inj' split rfl
    exact new frame (List.singleton_inj.mp events)
  · rw [List.concat_eq_append, ← List.cons_append, ← List.append_assoc] at split
    exact old pre frame post (List.append_inj' split rfl).1

/-- What a step does to the history, to `force_keyframe_` and to `i_pts`: a quiet step may
raise the keyframe request, a `Start` raises it, and `Encode` consumes it into the next
picture.
-/
theorem step_frames {e e' : Encoder} {action : Action} (h : e.step action = some e')
    : (e'.pts = e.pts ∧ (e'.forceKeyframe = e.forceKeyframe ∨ e'.forceKeyframe = true)
        ∧ (e'.log = e.log ∨ e'.log = e.log ++ [.stopped]
          ∨ ∃ callback frame, e'.log = e.log ++ [.output callback frame]))
      ∨ (∃ callback, e'.log = e.log ++ [.started callback] ∧ e'.forceKeyframe = true
          ∧ e'.pts = e.pts)
      ∨ (e'.log = e.log ++ [.encoded ⟨e.pts + 1, e.forceKeyframe⟩] ∧ e'.forceKeyframe = false
          ∧ e'.pts = e.pts + 1) := by
  cases action with
  | start callback =>
    simp only [Encoder.step, Option.ite_none_left_eq_some, Option.some.injEq] at h
    obtain ⟨-, rfl⟩ := h
    exact .inr (.inl ⟨callback, rfl, rfl, rfl⟩)
  | stop =>
    simp only [Encoder.step, Option.ite_none_left_eq_some, Option.some.injEq] at h
    obtain ⟨-, rfl⟩ := h
    exact .inl ⟨rfl, .inl rfl, .inr (.inl rfl)⟩
  | render bitmaps =>
    simp only [Encoder.step, Option.ite_none_left_eq_some] at h
    obtain ⟨slices, rfl, -⟩ := render_ok (ok_of_toOption_eq_some h.2)
    exact .inl ⟨rfl, .inl rfl, .inl rfl⟩
  | forceKeyframe =>
    simp only [Encoder.step, Option.ite_none_left_eq_some, Option.some.injEq] at h
    obtain ⟨-, rfl⟩ := h
    exact .inl ⟨rfl, .inr rfl, .inl rfl⟩
  | destroy | reclaim =>
    simp only [Encoder.step, Option.ite_none_left_eq_some, Option.ite_none_right_eq_some,
      Option.some.injEq] at h
    obtain ⟨-, rfl⟩ := h
    exact .inl ⟨rfl, .inl rfl, .inl rfl⟩
  | encodeThread timedOut =>
    rcases encodeProcess_eq_some h with ⟨-, rfl⟩ | ⟨-, rfl⟩ | ⟨copied, -, rfl⟩ | ⟨-, rfl⟩
      | ⟨frame, -, rfl⟩
    · split <;> exact .inl ⟨rfl, .inl rfl, .inl rfl⟩
    · unfold wakeUp
      split_ifs <;> exact .inl ⟨rfl, .inl rfl, .inl rfl⟩
    · exact .inl ⟨rfl, .inl rfl, .inl rfl⟩
    · exact .inr (.inr ⟨rfl, rfl, rfl⟩)
    · unfold deliver
      split
      · exact .inl ⟨rfl, .inl rfl, .inr (.inr ⟨_, _, rfl⟩)⟩
      · exact .inl ⟨rfl, .inl rfl, .inl rfl⟩

/-- The history's pictures are counted by `i_pts`, a pending `Start` has left its keyframe
request in place, and each picture is a keyframe if a `Start` was pending when it was encoded
and carries its own number in the history.
-/
structure FrameHistory (e : Encoder) : Prop where
  counted : (encodedFrames e.log).length = e.pts
  pending : startPending e.log = true → e.forceKeyframe = true
  frames : ∀ pre frame post, e.log = pre ++ .encoded frame :: post
    → (startPending pre = true → frame.keyframe = true)
      ∧ frame.pts = (encodedFrames pre).length + 1

theorem FrameHistory.step {e e' : Encoder} {action : Action} (inv : FrameHistory e)
    (h : e.step action = some e') : FrameHistory e' := by
  rcases step_frames h with ⟨pts, request, quiet⟩ | ⟨callback, log, request, pts⟩
    | ⟨log, request, pts⟩
  · have quietly : startPending e'.log = startPending e.log
        ∧ encodedFrames e'.log = encodedFrames e.log
        ∧ ∀ pre frame post, e'.log = pre ++ .encoded frame :: post
          → (startPending pre = true → frame.keyframe = true)
            ∧ frame.pts = (encodedFrames pre).length + 1 := by
      rcases quiet with log | log | ⟨callback, frame, log⟩ <;> rw [log]
      · exact ⟨rfl, rfl, inv.frames⟩
      · exact ⟨by simp [pendingAfter], by simp [encodedFrames],
          encoded_append inv.frames fun _ same => nomatch same⟩
      · exact ⟨by simp [pendingAfter], by simp [encodedFrames],
          encoded_append inv.frames fun _ same => nomatch same⟩
    obtain ⟨pending, frames, history⟩ := quietly
    refine ⟨by rw [frames, pts, inv.counted], fun started => ?_, history⟩
    rcases request with kept | raised
    · exact kept ▸ inv.pending (pending ▸ started)
    · exact raised
  · refine ⟨by rw [log, encodedFrames_append, List.length_append, inv.counted, pts]; rfl,
      by simp [log, request], ?_⟩
    rw [log]
    exact encoded_append inv.frames fun _ same => nomatch same
  · refine ⟨by rw [log, encodedFrames_append, List.length_append, inv.counted, pts]; rfl,
      by simp [log, pendingAfter], ?_⟩
    rw [log]
    refine encoded_append inv.frames fun frame same => ?_
    cases same
    exact ⟨fun pending => inv.pending pending, by rw [inv.counted]⟩

theorem FrameHistory.run {e e' : Encoder} {actions : List Action} (inv : FrameHistory e)
    (h : e.run actions = some e') : FrameHistory e' := by
  induction actions generalizing e with
  | nil => cases h; exact inv
  | cons action rest ih =>
    obtain ⟨next, one, more⟩ := run_cons_some h
    exact ih (inv.step one) more

/-- Under any interleaving of `Start`, `Stop`, `Render`, `ForceKeyframe`, the destructor and
the encode thread, each picture encoded while a `Start` was pending, that is with a `Start`
since the picture before it, is a keyframe; and the `k`-th picture carries `i_pts = k`: no
`Stop` or `Start` resets or repeats the count. Witness: `force_keyframe_` is set by `Start` and
cleared only by `Encode`, which also alone counts `i_pts` up.
-/
theorem keyframe_follows_start {screen : Screen} {actions : List Action} {e : Encoder}
    (h : (create screen).run actions = some e)
    {pre : List Event} {frame : Frame} {post : List Event}
    (logged : e.log = pre ++ .encoded frame :: post)
    : (startPending pre = true → frame.keyframe = true)
      ∧ frame.pts = (encodedFrames pre).length + 1 := by
  have start : FrameHistory (create screen) := ⟨rfl, fun pending => (nomatch pending),
    fun pre _ _ split => by
      simp only [create, List.nil_eq_append_iff, reduceCtorEq, and_false] at split⟩
  exact (start.run h).frames pre frame post logged

/-- The restart run, then the encode thread's next pass over the slice `Start(2)` queued. -/
def restartThenEncode : List Action :=
  restartAfterEncode
    ++ [.encodeThread false, .encodeThread false, .encodeThread false, .encodeThread false]

/-- The history of the restart run: two pictures encoded, the second handed to callback 2
after `Stop` and `Start(2)`.
-/
def restartLog : List Event :=
  [.started 1, .encoded ⟨1, true⟩, .output 1 ⟨1, true⟩, .encoded ⟨2, false⟩, .stopped,
    .started 2, .output 2 ⟨2, false⟩]

/-- After the restart, callback 2 has received the stale picture 2; the next picture, the first
encoded since `Start(2)`, with that `Start` pending and two pictures before it, is a keyframe
numbered 3.
-/
theorem restart_encodes_keyframe
    : ∃ e, (create fullHd).run restartThenEncode = some e
      ∧ e.log = restartLog ++ [.encoded ⟨3, true⟩]
      ∧ ((startPending restartLog = true → (⟨3, true⟩ : Frame).keyframe = true)
        ∧ (⟨3, true⟩ : Frame).pts = (encodedFrames restartLog).length + 1)
      ∧ startPending restartLog = true ∧ (encodedFrames restartLog).length = 2 :=
  ⟨_, rfl, rfl,
    @keyframe_follows_start fullHd restartThenEncode _ rfl restartLog ⟨3, true⟩ [] rfl, rfl, rfl⟩

end MVisor.Sweet.Encoder
