import MVisor.Sweet.EncoderRuns

/-! What the encode thread hands the output callback. `Encode` stores the return value of
`x264_encoder_encode` in `output_nal_size_` and the NAL array it returns in `output_nal_`; the
end of the iteration calls `output_callback_(output_nal_->p_payload, output_nal_size_)`
whenever a callback is installed. The encoder model is extended by these two members, and
its runs are those of `Encoder.run`. libx264 leaves `output_nal_` null unless it returns a
frame, so a failed or empty encode crashes the delivery on the null `output_nal_` before any
callback is called.
-/

namespace MVisor.Sweet

/-- What `x264_encoder_encode` gives back: its return value, and the `p_payload` of the first
NAL of the array it leaves in `output_nal_` (`none` when that array is null). libx264, which is
not in the repository, sets `*pp_nal = NULL` on entry and stores its NAL array only when it
returns a frame, so a return value of zero or less comes with a null array.
-/
structure X264Result where
  size : Int
  payload : Option Nat
  null_unless_positive : size ≤ 0 → payload = none

/-- A call `output_callback_(output_nal_->p_payload, output_nal_size_)`. -/
structure OutputCall where
  callback : Nat
  payload : Nat
  size : Int
  deriving DecidableEq, Repr

/-- The encoder with `output_nal_` and `output_nal_size_`, and, recorded by the model, the
calls made to output callbacks so far.
-/
structure EncodeLoop where
  encoder : Encoder
  outputNal : Option Nat
  outputNalSize : Int
  calls : List OutputCall

namespace EncodeLoop

/-- The encoder as its constructor leaves it. The initialisers of `output_nal_` and
`output_nal_size_` are not in the repository: they are taken to be null and 0.
-/
def create (screen : Screen) : EncodeLoop := ⟨Encoder.create screen, none, 0, []⟩

/-- `output_nal_size_ = x264_encoder_encode(x264_, &output_nal_, ...)` in `Encode`. -/
def storeResult (l : EncodeLoop) (result : X264Result) : EncodeLoop :=
  { l with outputNal := result.payload, outputNalSize := result.size }

/-- The delivery: `if (output_callback_) output_callback_(output_nal_->p_payload,
output_nal_size_)`. Reading `p_payload` through a null `output_nal_` crashes: no next state.
-/
def callOutput (l : EncodeLoop) (callback : Option Nat) : Option EncodeLoop :=
  match callback with
  | some callback =>
    l.outputNal.map fun payload =>
      { l with calls := l.calls ++ [⟨callback, payload, l.outputNalSize⟩] }
  | none => some l

/-- One step of the encoder; `results n` is what `x264_encoder_encode` returns for the picture
whose `i_pts` is `n`. The encode thread's `Encode` stores it, and its delivery calls the
callback installed at that moment.
-/
def step (results : Nat → X264Result) (l : EncodeLoop) (action : Action) : Option EncodeLoop :=
  (l.encoder.step action).bind fun e =>
    let next := { l with encoder := e }
    match action, l.encoder.thread with
    | .encodeThread _, .encoding => some (next.storeResult (results e.pts))
    | .encodeThread _, .delivering _ => next.callOutput l.encoder.outputCallback
    | _, _ => some next

/-- An interleaving of steps, stopping at the first that cannot be taken. -/
def run (results : Nat → X264Result) (l : EncodeLoop) : List Action → Option EncodeLoop
  | [] => some l
  | action :: rest => (l.step results action).bind (·.run results rest)

@[simp] theorem storeResult_encoder (l : EncodeLoop) (result : X264Result)
    : (l.storeResult result).encoder = l.encoder := rfl

/-- What a delivery can do: nothing without a callback, and with one a call carrying the
payload `output_nal_` points to, which must not be null.
-/
theorem callOutput_some {l l' : EncodeLoop} {callback : Option Nat}
    (h : l.callOutput callback = some l')
    : (callback = none ∧ l' = l)
      ∨ ∃ target payload, callback = some target ∧ l.outputNal = some payload
        ∧ l' = { l with calls := l.calls ++ [⟨target, payload, l.outputNalSize⟩] } := by
  cases callback with
  | none => exact .inl ⟨rfl, (Option.some.inj h).symm⟩
  | some target =>
    obtain ⟨payload, nal, rfl⟩ := Option.map_eq_some'.mp h
    exact .inr ⟨target, payload, rfl, nal, rfl⟩

/-- The extended encoder moves as `Encoder.step` does. -/
theorem step_encoder {results : Nat → X264Result} {l l' : EncodeLoop} {action : Action}
    (h : l.step results action = some l') : l.encoder.step action = some l'.encoder := by
  obtain ⟨e', he, h⟩ := Option.bind_eq_some.mp h
  dsimp only at h
  split at h
  · cases h; exact he
  · rcases callOutput_some h with ⟨-, rfl⟩ | ⟨-, -, -, -, rfl⟩ <;> exact he
  · cases h; exact he

end EncodeLoop

/-- The call a delivery event stands for, given the results of the encodes. -/
def outputCall (results : Nat → X264Result) : Event → Option OutputCall
  | .output callback frame =>
    (results frame.pts).payload.map fun payload => ⟨callback, payload, (results frame.pts).size⟩
  | _ => none

/-- The calls the deliveries of a history stand for, each with its own frame's result. -/
def outputCalls (results : Nat → X264Result) (log : List Event) : List OutputCall :=
  log.filterMap (outputCall results)

@[simp] theorem outputCalls_append (results : Nat → X264Result) (log : List Event)
    (event : Event)
    : outputCalls results (log ++ [event])
      = outputCalls results log ++ (outputCall results event).toList := by
  cases h : outputCall results event <;> simp [outputCalls, List.filterMap_append, h]

namespace EncodeLoop

-----------------------------------------------------------------------------------------------
-- The display's side

/-- A step of the display's side leaves the encode thread where it is and adds no delivery to
the history.
-/
theorem display_step (results : Nat → X264Result) {e e' : Encoder} {action : Action}
    (h : e.step action = some e') (display : ∀ timedOut, action ≠ .encodeThread timedOut)
    : e'.thread = e.thread ∧ outputCalls results e'.log = outputCalls results e.log
      ∧ ∀ callback frame, Event.output callback frame ∈ e'.log
        → Event.output callback frame ∈ e.log := by
  cases action with
  | render bitmaps =>
    simp only [Encoder.step, Option.ite_none_left_eq_some] at h
    obtain ⟨slices, rfl, -⟩ := Encoder.render_ok (ok_of_toOption_eq_some h.2)
    exact ⟨rfl, rfl, fun _ _ => id⟩
  | encodeThread timedOut => exact absurd rfl (display timedOut)
  | reclaim =>
    simp only [Encoder.step, Option.ite_none_right_eq_some, Option.some.injEq] at h
    obtain ⟨-, rfl⟩ := h
    exact ⟨rfl, rfl, fun _ _ => id⟩
  | start | stop | forceKeyframe | destroy =>
    simp only [Encoder.step, Option.ite_none_left_eq_some, Option.some.injEq] at h
    obtain ⟨-, rfl⟩ := h
    simp [Encoder.start, Encoder.createEncodeSlice, Encoder.stop, Encoder.destroy, outputCall]

-----------------------------------------------------------------------------------------------
-- Every delivery carries its own encode's result

/-- The calls made are those the history's deliveries stand for, every frame handed over had
a NAL array, and a frame waiting for delivery is that of the result `output_nal_` and
`output_nal_size_` hold.
-/
structure Delivers (results : Nat → X264Result) (l : EncodeLoop) : Prop where
  calls : l.calls = outputCalls results l.encoder.log
  delivered : ∀ callback frame, Event.output callback frame ∈ l.encoder.log
    → (results frame.pts).payload.isSome
  pending : ∀ frame, l.encoder.thread = .delivering frame
    → l.outputNal = (results frame.pts).payload ∧ l.outputNalSize = (results frame.pts).size

/-- A step that leaves the history as it is and no frame waiting keeps `Delivers`. -/
theorem Delivers.keep {results : Nat → X264Result} {l : EncodeLoop} {e : Encoder}
    (inv : Delivers results l) (log : e.log = l.encoder.log)
    (idle : ∀ frame, e.thread ≠ .delivering frame)
    : Delivers results { l with encoder := e } :=
  ⟨log ▸ inv.calls, fun callback frame mem => inv.delivered callback frame (log ▸ mem),
    fun frame waiting => absurd waiting (idle frame)⟩

/-- Every step keeps `Delivers`. Witness: the encode thread's steps by
`encodeProcess_eq_some`: `Encode` stores the result of the frame it makes, and the delivery
calls the callback with what it finds stored; the display's steps by `display_step`.
-/
theorem Delivers.step {results : Nat → X264Result} {l l' : EncodeLoop} {action : Action}
    (inv : Delivers results l) (h : l.step results action = some l')
    : Delivers results l' := by
  obtain ⟨e', he, h⟩ := Option.bind_eq_some.mp h
  cases action with
  | encodeThread timedOut =>
    rcases Encoder.encodeProcess_eq_some he
      with ⟨thread, rfl⟩ | ⟨thread, rfl⟩ | ⟨copied, thread, rfl⟩ | ⟨thread, rfl⟩ | ⟨frame, thread, rfl⟩
    · simp only [thread, Option.some.injEq] at h
      subst h
      split <;> exact inv.keep rfl fun _ same => nomatch same
    · simp only [thread, Option.some.injEq] at h
      subst h
      simp only [Encoder.wakeUp]
      split_ifs <;> exact inv.keep rfl fun _ same => nomatch same
    · simp only [thread, Option.some.injEq] at h
      subst h
      exact inv.keep rfl fun _ same => nomatch same
    · simp only [thread, Option.some.injEq] at h
      subst h
      refine ⟨?_, fun callback frame mem => inv.delivered callback frame ?_,
        fun frame waiting => ?_⟩
      · simpa [storeResult, Encoder.encode, outputCall] using inv.calls
      · simpa [storeResult, Encoder.encode] using mem
      · cases waiting
        exact ⟨rfl, rfl⟩
    · simp only [thread] at h
      rcases callOutput_some h with ⟨none, rfl⟩ | ⟨target, payload, callback, nal, rfl⟩
      · simp only [Encoder.deliver, none]
        exact inv.keep rfl fun _ same => nomatch same
      · obtain ⟨stored, size⟩ := inv.pending frame thread
        dsimp only at nal
        simp only [Encoder.deliver, callback]
        refine ⟨?_, fun callback' frame' mem => ?_, fun _ same => nomatch same⟩
        · simp [inv.calls, outputCall, ← stored, nal, size]
        · rcases List.mem_append.mp mem with old | new
          · exact inv.delivered _ _ old
          · obtain ⟨-, rfl⟩ := Event.output.inj (List.mem_singleton.mp new)
            simp [← stored, nal]
  | _ =>
    simp only [Option.some.injEq] at h
    subst h
    obtain ⟨moved, log, events⟩ := display_step results he fun _ same => nomatch same
    exact ⟨log ▸ inv.calls, fun callback frame mem => inv.delivered _ _ (events _ _ mem),
      fun frame waiting => inv.pending frame (moved ▸ waiting)⟩

theorem Delivers.run {results : Nat → X264Result} {l l' : EncodeLoop} {actions : List Action}
    (inv : Delivers results l) (h : l.run results actions = some l')
    : Delivers results l' ∧ l.encoder.run actions = some l'.encoder := by
  induction actions generalizing l with
  | nil => cases h; exact ⟨inv, rfl⟩
  | cons action rest ih =>
    obtain ⟨next, one, more⟩ := Option.bind_eq_some.mp h
    obtain ⟨inv', encoder⟩ := ih (inv.step one) more
    exact ⟨inv', by simp only [Encoder.run, step_encoder one, Option.some_bind, encoder]⟩

/-- A delivery, with a callback installed, of a frame whose encode returned zero or less
crashes on the null `output_nal_`.
-/
theorem Delivers.crash {results : Nat → X264Result} {l : EncodeLoop} (inv : Delivers results l)
    {frame : Frame} (waiting : l.encoder.thread = .delivering frame)
    (installed : l.encoder.outputCallback.isSome) (empty : (results frame.pts).size ≤ 0)
    (timedOut : Bool)
    : l.step results (.encodeThread timedOut) = none := by
  have null : l.outputNal = none :=
    (inv.pending frame waiting).1.trans ((results frame.pts).null_unless_positive empty)
  obtain ⟨callback, installed⟩ := Option.isSome_iff_exists.mp installed
  simp [EncodeLoop.step, Encoder.step, Encoder.encodeProcess, waiting, callOutput, installed, null]

/-- Under any interleaving of the display's calls and the encode thread, and whatever
`x264_encoder_encode` returns, the extended encoder runs as `Encoder.run` does; the output
callbacks are called once per frame handed over, each with the payload and the size of that
frame's own `Encode`, and only for frames whose `Encode` returned a positive size; and a
delivery, with a callback installed, of a frame whose `Encode` returned zero or less crashes on
the null `output_nal_` instead of calling it. Witness: the delivery reads the result its own
iteration stored (`Delivers`), and libx264 returns a NAL array only with a frame.
-/
theorem callbacks_get_only_encoded_frames {screen : Screen} {results : Nat → X264Result}
    {actions : List Action} {l : EncodeLoop}
    (h : (create screen).run results actions = some l)
    : (Encoder.create screen).run actions = some l.encoder
      ∧ l.calls = outputCalls results l.encoder.log
      ∧ (∀ callback frame, Event.output callback frame ∈ l.encoder.log
          → ∃ payload, (results frame.pts).payload = some payload
            ∧ 0 < (results frame.pts).size)
      ∧ ∀ frame, l.encoder.thread = .delivering frame → l.encoder.outputCallback.isSome
        → (results frame.pts).size ≤ 0
        → ∀ timedOut, l.step results (.encodeThread timedOut) = none := by
  have start : Delivers results (create screen) :=
    ⟨rfl, fun _ _ mem => (nomatch mem), fun _ same => nomatch same⟩
  obtain ⟨inv, encoder⟩ := start.run h
  refine ⟨encoder, inv.calls, fun callback frame mem => ?_, fun frame waiting installed empty =>
    inv.crash waiting installed empty⟩
  obtain ⟨payload, stored⟩ := Option.isSome_iff_exists.mp (inv.delivered callback frame mem)
  refine ⟨payload, stored, lt_of_not_le fun empty => ?_⟩
  rw [(results frame.pts).null_unless_positive empty] at stored
  exact nomatch stored

/-- `Start(1)` and the encode thread up to the delivery of its first frame: the wait, the
slice taken and drawn, and `Encode`.
-/
def firstEncode : List Action :=
  [.start 1, .encodeThread false, .encodeThread false, .encodeThread false, .encodeThread false]

/-- `x264_encoder_encode` failing with -1, as libx264 does, with a null NAL array. -/
def failedEncode : Nat → X264Result :=
  fun _ => ⟨-1, none, fun _ => rfl⟩

/-- With every encode failing, callback 1 is installed and the first frame waits for delivery
with nothing called yet; the delivery then crashes.
-/
theorem failed_encode_crashes_delivery
    : ∃ l, (create fullHd).run failedEncode firstEncode = some l
      ∧ ((Encoder.create fullHd).run firstEncode = some l.encoder
        ∧ l.calls = outputCalls failedEncode l.encoder.log
        ∧ (∀ callback frame, Event.output callback frame ∈ l.encoder.log
            → ∃ payload, (failedEncode frame.pts).payload = some payload
              ∧ 0 < (failedEncode frame.pts).size)
        ∧ ∀ frame, l.encoder.thread = .delivering frame → l.encoder.outputCallback.isSome
          → (failedEncode frame.pts).size ≤ 0
          → ∀ timedOut, l.step failedEncode (.encodeThread timedOut) = none)
      ∧ l.encoder.thread = .delivering ⟨1, true⟩ ∧ l.encoder.outputCallback = some 1
      ∧ l.calls = [] :=
  ⟨_, rfl, @callbacks_get_only_encoded_frames fullHd failedEncode firstEncode _ rfl, rfl, rfl,
    rfl⟩

end EncodeLoop

end MVisor.Sweet
