import MVisor.Panic
import MVisor.Sweet.EncodeSlice

/-! The display encoder's two sides: `Start`, `Stop`, `Render` and `ForceKeyframe` called by
the display, the destructor, and the encode thread running `EncodeProcess`. Each call from the
display is one step, taken under `encode_mutex_`; the encode thread's loop is cut where it
takes or drops the lock, so an interleaving of the two sides is a list of steps.
-/

namespace MVisor.Sweet

/-- A `DisplayPartialBitmap` as far as `Render` reads it: its place and size, its depth, and
the number of iovecs holding its pixels (the pixels are not modelled).
-/
structure DisplayPartialBitmap where
  x : BitVec 32
  y : BitVec 32
  width : BitVec 32
  height : BitVec 32
  bpp : BitVec 32
  vectorSize : Nat
  deriving DecidableEq, Repr

/-- `RenderPartial` copies the rows that fit into `screen_bitmap_`, and returns true. -/
def renderPartial (_bitmap : DisplayPartialBitmap) : Bool := true

/-- `ConvertPartial`, for 8, 16 and 24 bpp: a single iovec is asserted, and only a partial
covering the whole screen, of one of those depths, is converted.
-/
def convertPartial (screen : Screen) (bitmap : DisplayPartialBitmap) : Except String Bool :=
  if bitmap.vectorSize ≠ 1 then throw "partial->vector.size() == 1"
  else if bitmap.x != 0 || bitmap.y != 0 || bitmap.width != screen.width
      || bitmap.height != screen.height then pure false
  else pure (bitmap.bpp == 8 || bitmap.bpp == 16 || bitmap.bpp == 24)

/-- An `EncodeSlice`: its rectangle, and the serial number of the `new` that made it, which
stands for the pointer (the YUV picture it holds is not modelled).
-/
structure EncodeSlice where
  serial : Nat
  rect : SliceRect
  deriving DecidableEq, Repr

/-- What `Encode` produces: the picture's `i_pts`, and whether its `i_type` was
`X264_TYPE_KEYFRAME`.
-/
structure Frame where
  pts : Nat
  keyframe : Bool
  deriving DecidableEq, Repr

/-- What the encoder shows the outside, in order: a `Start` installing a callback, a `Stop`,
a picture encoded, and a frame handed to a callback. Callbacks are named by numbers.
-/
inductive Event where
  | started (callback : Nat)
  | stopped
  | encoded (frame : Frame)
  | output (callback : Nat) (frame : Frame)
  deriving DecidableEq, Repr

/-- Where the encode thread is in `EncodeProcess`. -/
inductive EncodeThread where
  /-- At `while (!destroyed_)`, without the lock. -/
  | loop
  /-- In `encode_cv_.wait_for`, with the lock released while it blocks. -/
  | waiting
  /-- Holding `copied`, the slices it took off `encode_slices_`, before `DrawSlices`. -/
  | drawing (copied : List EncodeSlice)
  /-- Before `Encode`, without the lock. -/
  | encoding
  /-- Before taking the lock again to hand `frame` to `output_callback_`. -/
  | delivering (frame : Frame)
  | exited
  deriving DecidableEq, Repr

/-- The slices the encode thread has taken and not yet drawn. -/
def EncodeThread.inFlight : EncodeThread → List EncodeSlice
  | .drawing copied => copied
  | _ => []

/-- The encoder's state: `started_`, `destroyed_`, `force_keyframe_`, `output_callback_`,
`encode_slices_`, `input_yuv_.i_pts` and the encode thread; and, recorded by the model, every
slice created, every slice drawn, the slices the destructor freed, and the events so far.
-/
structure Encoder where
  screen : Screen
  started : Bool
  destroyed : Bool
  forceKeyframe : Bool
  outputCallback : Option Nat
  encodeSlices : List EncodeSlice
  pts : Nat
  thread : EncodeThread
  created : List EncodeSlice
  drawn : List EncodeSlice
  freed : Option (List EncodeSlice)
  log : List Event

namespace Encoder

/-- The encoder as its constructor leaves it, the encode thread just started. The member
initialisers of `display_encoder.h` are not in the repository: the encoder is taken to start
stopped, with no keyframe request, no callback and `i_pts` 0.
-/
def create (screen : Screen) : Encoder where
  screen := screen
  started := false
  destroyed := false
  forceKeyframe := false
  outputCallback := none
  encodeSlices := []
  pts := 0
  thread := .loop
  created := []
  drawn := []
  freed := none
  log := []

-----------------------------------------------------------------------------------------------
-- The display's side, each call under `encode_mutex_`

/-- `CreateEncodeSlice(top, left, bottom, right)`: a new slice is pushed onto
`encode_slices_`.
-/
def createEncodeSlice (e : Encoder) (top left bottom right : BitVec 32) : Encoder :=
  let slice : EncodeSlice := ⟨e.created.length, createEncodeSliceRect e.screen top left bottom right⟩
  { e with encodeSlices := e.encodeSlices ++ [slice], created := e.created ++ [slice] }

/-- `Start(callback)`: a keyframe is requested and a slice of the whole screen queued; the
encode thread is not notified.
-/
def start (e : Encoder) (callback : Nat) : Encoder :=
  let e : Encoder := { e with
    started := true, forceKeyframe := true, outputCallback := some callback
    log := e.log ++ [.started callback] }
  e.createEncodeSlice 0 0 e.screen.height e.screen.width

/-- `Stop()`: the slices already queued stay queued. -/
def stop (e : Encoder) : Encoder :=
  { e with started := false, outputCallback := none, log := e.log ++ [.stopped] }

/-- Whether `Render` goes on with a partial: `RenderPartial` for 32 bpp, `ConvertPartial`
otherwise.
-/
def acceptPartial (screen : Screen) (bitmap : DisplayPartialBitmap) : Except String Bool :=
  if bitmap.bpp = 32 then pure (renderPartial bitmap) else convertPartial screen bitmap

/-- One partial of `Render`'s loop: a partial that is drawn or converted gets a slice while
the encoder is started.
-/
def renderOne (e : Encoder) (bitmap : DisplayPartialBitmap) : Except String Encoder := do
  let accepted ← acceptPartial e.screen bitmap
  if accepted && e.started then
    pure (e.createEncodeSlice bitmap.y bitmap.x (bitmap.y + bitmap.height)
      (bitmap.x + bitmap.width))
  else pure e

/-- `Render(partials)`. Its closing `notify_all` needs no step of its own: a waiting encode
thread may leave `wait_for` whenever `encode_slices_` is not empty.
-/
def render (e : Encoder) (bitmaps : List DisplayPartialBitmap) : Except String Encoder :=
  bitmaps.foldlM renderOne e

/-- The destructor up to its `join`: `destroyed_` is set and the encode thread notified. -/
def destroy (e : Encoder) : Encoder :=
  { e with destroyed := true }

/-- The destructor after its `join` returned: every slice left in `encode_slices_` is
deleted.
-/
def reclaim (e : Encoder) : Encoder :=
  { e with freed := some e.encodeSlices }

-----------------------------------------------------------------------------------------------
-- The encode thread

/-- The encode thread leaving `wait_for` with the lock held: it breaks out when destroyed,
goes round again when stopped (`continue`), and otherwise takes every queued slice, possibly
none, and drops the lock.
-/
def wakeUp (e : Encoder) : Encoder :=
  if e.destroyed then { e with thread := .exited }
  else if !e.started then { e with thread := .loop }
  else if e.encodeSlices.isEmpty then { e with thread := .encoding }
  else { e with thread := .drawing e.encodeSlices, encodeSlices := [] }

/-- `DrawSlices(copied)`: each slice in turn is copied into `input_yuv_` and deleted. -/
def drawSlices (e : Encoder) (copied : List EncodeSlice) : Encoder :=
  { e with drawn := e.drawn ++ copied, thread := .encoding }

/-- `Encode()`: the next picture, a keyframe when one was requested, which clears the
request.
-/
def encode (e : Encoder) : Encoder :=
  let frame : Frame := ⟨e.pts + 1, e.forceKeyframe⟩
  { e with
    pts := e.pts + 1, forceKeyframe := false, thread := .delivering frame
    log := e.log ++ [.encoded frame] }

/-- The end of an iteration, under the lock: the frame goes to the callback installed now. -/
def deliver (e : Encoder) (frame : Frame) : Encoder :=
  match e.outputCallback with
  | some callback => { e with thread := .loop, log := e.log ++ [.output callback frame] }
  | none => { e with thread := .loop }

/-- One step of `EncodeProcess`; `timedOut` says whether the second of `wait_for` has run
out. A thread blocked in `wait_for`, or finished, has no step.
-/
def encodeProcess (e : Encoder) (timedOut : Bool) : Option Encoder :=
  match e.thread with
  | .loop => some (if e.destroyed then { e with thread := .exited } else { e with thread := .waiting })
  | .waiting =>
    if e.destroyed || !e.encodeSlices.isEmpty || timedOut then some e.wakeUp else none
  | .drawing copied => some (e.drawSlices copied)
  | .encoding => some e.encode
  | .delivering frame => some (e.deliver frame)
  | .exited => none

end Encoder

/-- A step of either side. -/
inductive Action where
  | start (callback : Nat)
  | stop
  | render (bitmaps : List DisplayPartialBitmap)
  | forceKeyframe
  | destroy
  | reclaim
  | encodeThread (timedOut : Bool)
  deriving DecidableEq, Repr

namespace Encoder

/-- One step. The display calls nothing once the destructor has begun, which then frees the
slices once the encode thread has exited; `ForceKeyframe` sets its flag without the lock; a
panic has no next state.
-/
def step (e : Encoder) : Action → Option Encoder
  | .start callback => if e.destroyed then none else some (e.start callback)
  | .stop => if e.destroyed then none else some e.stop
  | .render bitmaps => if e.destroyed then none else (e.render bitmaps).toOption
  | .forceKeyframe => if e.destroyed then none else some { e with forceKeyframe := true }
  | .destroy => if e.destroyed then none else some e.destroy
  | .reclaim =>
    if e.destroyed && e.thread == .exited && e.freed.isNone then some e.reclaim else none
  | .encodeThread timedOut => e.encodeProcess timedOut

/-- An interleaving of steps, stopping at the first that cannot be taken. -/
def run (e : Encoder) : List Action → Option Encoder
  | [] => some e
  | action :: rest => (e.step action).bind (·.run rest)

theorem run_cons_some {e final : Encoder} {action : Action} {rest : List Action}
    (h : e.run (action :: rest) = some final)
    : ∃ next, e.step action = some next ∧ next.run rest = some final :=
  Option.bind_eq_some.mp h

end Encoder

end MVisor.Sweet
