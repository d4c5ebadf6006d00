import Mathlib.Algebra.Order.Field.Rat
import Mathlib.Tactic.FieldSimp
import Mathlib.Tactic.Linarith

/-! The frame-rate pacing at the end of each iteration of `EncodeProcess`. The next iteration
may start one frame interval after this one started, or `overhead - 1` intervals after it when
the frame took between 1.5 and `fps` average packets. The code computes in `double`; the model
computes in exact rationals and leaves rounding out. Over every run, the frames that stay below
`fps` average packets leave the encoder at no more than three average packets per frame
interval.
-/

namespace MVisor.Sweet

/-- What `EncodeProcess` paces by: `config_->bitrate()` and `config_->fps()`. -/
structure Pacing where
  bitrate : Nat
  fps : Nat
  deriving DecidableEq, Repr

namespace Pacing

/-- `average_packet_size = config_->bitrate() / config_->fps() / 8`, in bytes. -/
def averagePacketSize (p : Pacing) : Nat :=
  p.bitrate / p.fps / 8

/-- `frame_interval = std::chrono::microseconds(1000000 / config_->fps())`. -/
def frameInterval (p : Pacing) : Nat :=
  1000000 / p.fps

/-- `overhead = double(output_nal_size_) / average_packet_size`. A zero average makes the
double infinite or NaN, which fails both of the pacing's tests, as the rational 0 does.
-/
def overhead (p : Pacing) (outputNalSize : Int) : ℚ :=
  outputNalSize / p.averagePacketSize

/-- How far `next_encode_time` lies after `start_time`, in microseconds. -/
def nextEncodeDelay (p : Pacing) (outputNalSize : Int) : ℚ :=
  if p.overhead outputNalSize > 3 / 2 ∧ p.overhead outputNalSize < p.fps then
    p.frameInterval * (p.overhead outputNalSize - 1)
  else p.frameInterval

/-- What one iteration leaves to the clock: the `output_nal_size_` that `Encode` stored; the
time from `start_time` to the pacing check (drawing, encoding, the callback); how late
`sleep_until` returns; and the time until the next iteration reads `start_time` (the wait for
slices, and iterations that do not encode while stopped).
-/
structure Iteration where
  outputNalSize : Int
  work : ℚ
  late : ℚ
  wait : ℚ
  work_nonneg : 0 ≤ work
  late_nonneg : 0 ≤ late
  wait_nonneg : 0 ≤ wait

/-- The clock when an iteration that started at `startTime` is done pacing:
`if (now() < next_encode_time) sleep_until(next_encode_time)`.
-/
def paced (p : Pacing) (startTime : ℚ) (it : Iteration) : ℚ :=
  let nextEncodeTime := startTime + p.nextEncodeDelay it.outputNalSize
  let now := startTime + it.work
  if now < nextEncodeTime then nextEncodeTime + it.late else now

/-- The `start_time` of the iteration after `iterations`, the first of which starts at
`startTime`.
-/
def finish (p : Pacing) (startTime : ℚ) : List Iteration → ℚ
  | [] => startTime
  | it :: rest => p.finish (p.paced startTime it + it.wait) rest

-----------------------------------------------------------------------------------------------
-- One iteration

/-- No iteration is done pacing before its `next_encode_time`. -/
theorem paced_after (p : Pacing) (startTime : ℚ) (it : Iteration)
    : startTime + p.nextEncodeDelay it.outputNalSize ≤ p.paced startTime it := by
  dsimp only [paced]
  split_ifs with early
  · linarith [it.late_nonneg]
  · exact not_lt.mp early

/-- A frame below `fps` average packets is paced for at least as long as sending it at three
average packets per frame interval takes. The bound is reached as the overhead falls to 1.5 from
above, where a frame of 1.5 average packets is paced for half an interval.
-/
theorem frame_within_rate (p : Pacing) (positive : 0 < p.averagePacketSize) (size : Int)
    (small : size < p.fps * p.averagePacketSize)
    : size * (p.frameInterval : ℚ) ≤ 3 * p.averagePacketSize * p.nextEncodeDelay size := by
  have average : (0 : ℚ) < p.averagePacketSize := by exact_mod_cast positive
  have interval : (0 : ℚ) ≤ p.frameInterval := Nat.cast_nonneg _
  have scaled : (size : ℚ) = p.averagePacketSize * p.overhead size := by
    unfold overhead
    field_simp
  have below : p.overhead size < p.fps :=
    (div_lt_iff₀ average).mpr (by exact_mod_cast small)
  have weight := mul_nonneg average.le interval
  unfold nextEncodeDelay
  rw [scaled]
  split_ifs with large
  · linarith [mul_nonneg weight (by linarith [large.1] : (0 : ℚ) ≤ 2 * p.overhead size - 3)]
  · have moderate : p.overhead size ≤ 3 / 2 := not_lt.mp fun over => large ⟨over, below⟩
    linarith [mul_nonneg weight (by linarith : (0 : ℚ) ≤ 3 - p.overhead size)]

-----------------------------------------------------------------------------------------------
-- Whole runs

/-- For every configuration with a positive average packet size and every run of the encode
loop, whatever its drawing, encoding, waiting and oversleeping take, if each frame stays below
`fps` average packets, the bytes of the frames times the frame interval are at most three
average packets times the time from the first `start_time` to the one after the last frame:
the output stays within three times the configured bitrate. Witness: each frame is paced for at
least its share (`frame_within_rate`), and no pause is cut short (`paced_after`).
-/
theorem paced_output_rate (p : Pacing) (positive : 0 < p.averagePacketSize) (startTime : ℚ)
    (iterations : List Iteration)
    (small : ∀ it ∈ iterations, it.outputNalSize < p.fps * p.averagePacketSize)
    : ((iterations.map (·.outputNalSize)).sum : ℚ) * p.frameInterval
      ≤ 3 * p.averagePacketSize * (p.finish startTime iterations - startTime) := by
  induction iterations generalizing startTime with
  | nil => simp [finish]
  | cons it rest ih =>
    have share := frame_within_rate p positive it.outputNalSize (small it (List.mem_cons_self _ _))
    have others := ih (p.paced startTime it + it.wait) fun it' mem => small it' (by simp [mem])
    have pause := paced_after p startTime it
    have weight : (0 : ℚ) ≤ 3 * p.averagePacketSize := by positivity
    have waited := mul_le_mul_of_nonneg_left
      (by linarith [it.wait_nonneg] : p.nextEncodeDelay it.outputNalSize
        ≤ p.paced startTime it + it.wait - startTime) weight
    simp only [List.map_cons, List.sum_cons, Int.cast_add, finish] at others ⊢
    linarith

/-- A 25 fps stream at 8 Mbit/s, whose keyframe takes 1.6 average packets and whose next
frames are small, encoded in no time.
-/
def keyframeRun : List Iteration :=
  [⟨64000, 0, 0, 0, le_rfl, le_rfl, le_rfl⟩, ⟨20000, 1000, 0, 0, by norm_num, le_rfl, le_rfl⟩,
    ⟨-1, 0, 0, 500, le_rfl, le_rfl, by norm_num⟩]

/-- The bound on `keyframeRun`. -/
theorem keyframe_run_within_rate
    : 0 < (⟨8000000, 25⟩ : Pacing).averagePacketSize
      ∧ (∀ it ∈ keyframeRun, it.outputNalSize
          < (⟨8000000, 25⟩ : Pacing).fps * (⟨8000000, 25⟩ : Pacing).averagePacketSize)
      ∧ ((keyframeRun.map (·.outputNalSize)).sum : ℚ) * (⟨8000000, 25⟩ : Pacing).frameInterval
        ≤ 3 * (⟨8000000, 25⟩ : Pacing).averagePacketSize
          * ((⟨8000000, 25⟩ : Pacing).finish 0 keyframeRun - 0) :=
  ⟨by decide, by decide, paced_output_rate ⟨8000000, 25⟩ (by decide) 0 keyframeRun (by decide)⟩

end Pacing

end MVisor.Sweet
