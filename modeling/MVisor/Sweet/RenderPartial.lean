import MVisor.Sweet.ByteCopy
import MVisor.Sweet.EncodeSlice
import Mathlib.Tactic.Zify

/-! `RenderPartial`: the rows of a 32-bpp partial copied into `screen_bitmap_`. Offsets and
sizes are computed in the code's own types: `screen_stride_ * row + x * 4` in 32-bit unsigned
arithmetic, `dst_stride` and `linesize` as `int`, the pointers as offsets from
`screen_bitmap_`. The only guard is that a row must not end past `dst_end`.
-/

namespace MVisor.Sweet

/-- An iovec of a partial: the bytes from `iov_base` on, and `iov_len`. -/
structure Iovec where
  base : Nat → BitVec 8
  len : Nat

/-- What `RenderPartial` reads of a `DisplayPartialBitmap`: its place and size, `stride` (the
bytes from one source row to the next), `flip`, and the iovecs holding its rows.
-/
structure PartialPixels where
  x : BitVec 32
  y : BitVec 32
  width : BitVec 32
  height : BitVec 32
  stride : BitVec 32
  flip : Bool
  vector : List Iovec

/-- What `RenderPartial` computes before its loops: `dst_end` and the first row's `dst` as
offsets from `screen_bitmap_`, the signed `dst_stride`, and `linesize`.
-/
structure RenderFrame where
  dstEnd : Int
  start : Int
  dstStride : Int
  linesize : Int

/-- `memcpy`'s `size_t` length for `linesize`: an `int` converted to 64 bits unsigned. -/
def RenderFrame.length (frame : RenderFrame) : Nat :=
  (frame.linesize % 2 ^ 64).toNat

/-- The pointers of `RenderPartial`: `dst_stride * screen_height_` and the start offsets are
unsigned products, and `dst_stride` is negated for a flipped partial, which is copied from its
bottom row up.
-/
def renderFrame (screen : Screen) (p : PartialPixels) : RenderFrame :=
  let dstEnd : Int := (screen.stride * screen.height).toNat
  let linesize := (p.width * 4).toInt
  if p.flip then
    ⟨dstEnd, (screen.stride * (p.y + p.height - 1) + p.x * 4).toNat, -screen.stride.toInt,
      linesize⟩
  else ⟨dstEnd, (screen.stride * p.y + p.x * 4).toNat, screen.stride.toInt, linesize⟩

/-- The inner loop over one iovec, from `copy_lines` of its rows and `lines` rows still to
copy: each row is copied unless it would end past `dst_end`, which stops the iovec. Returns
`dst`, `lines` and the copies made.
-/
def renderIovec (frame : RenderFrame) (srcStride : Nat) (iov : Iovec)
    : Nat → Nat → Int → Nat → List Memcpy → Int × Nat × List Memcpy
  | 0, lines, dst, _, log => (dst, lines, log)
  | _ + 1, 0, dst, _, log => (dst, 0, log)
  | copyLines + 1, lines + 1, dst, src, log =>
    if dst + frame.linesize > frame.dstEnd then (dst, lines + 1, log)
    else
      renderIovec frame srcStride iov copyLines lines (dst + frame.dstStride) (src + srcStride)
        (log ++ [⟨dst, fun i => iov.base (src + i), frame.length⟩])

/-- The outer loop, while rows remain and iovecs are left: iovec `iov` holds
`iov_len / stride` rows, and the next iovec starts where this one left `dst`.
-/
def renderVector (frame : RenderFrame) (srcStride : Nat)
    : List Iovec → Nat → Int → List Memcpy → List Memcpy
  | [], _, _, log => log
  | iov :: rest, lines, dst, log =>
    if lines = 0 then log
    else
      let (dst, lines, log) := renderIovec frame srcStride iov (iov.len / srcStride) lines dst 0 log
      renderVector frame srcStride rest lines dst log

/-- The copies `RenderPartial` makes into `screen_bitmap_`, `partial->height` rows at most
(it then returns true). A `stride` of 0 divides by zero in the source; here it gives no rows.
-/
def renderPartialCopies (screen : Screen) (p : PartialPixels) : List Memcpy :=
  let frame := renderFrame screen p
  renderVector frame p.stride.toNat p.vector p.height.toNat frame.start []

/-- `screen_bitmap_` after `RenderPartial`, as offsets from its start. -/
def renderPartialBitmap (screen : Screen) (p : PartialPixels) (bitmap : Int → BitVec 8)
    : Int → BitVec 8 :=
  writeAll bitmap (renderPartialCopies screen p)

-----------------------------------------------------------------------------------------------
-- The loops when no row is stopped

/-- The rows the iovecs hold, `iov_len / stride` each. -/
def totalRows (srcStride : Nat) (vector : List Iovec) : Nat :=
  (vector.map fun iov => iov.len / srcStride).sum

/-- Byte `i` of source row `r` as the loops find it: row `r` of the iovecs taken in turn, each
holding `iov_len / stride` rows.
-/
def rowSource (srcStride : Nat) : List Iovec → Nat → Nat → BitVec 8
  | [], _, _ => 0
  | iov :: rest, r, i =>
    if r < iov.len / srcStride then iov.base (r * srcStride + i)
    else rowSource srcStride rest (r - iov.len / srcStride) i

/-- While no row would end past `dst_end`, the inner loop copies `min copy_lines lines` rows,
row `k` from `src + k * stride` to `dst + k * dst_stride`.
-/
theorem renderIovec_eq {frame : RenderFrame} {srcStride : Nat} {iov : Iovec}
    : ∀ {copyLines lines : Nat} {dst : Int} {src : Nat} {log : List Memcpy},
      (∀ k < min copyLines lines, dst + k * frame.dstStride + frame.linesize ≤ frame.dstEnd)
      → renderIovec frame srcStride iov copyLines lines dst src log
        = (dst + (min copyLines lines : Nat) * frame.dstStride, lines - min copyLines lines,
            log ++ (List.range (min copyLines lines)).map fun k =>
              ⟨dst + k * frame.dstStride, fun i => iov.base (src + k * srcStride + i),
                frame.length⟩) := by
  intro copyLines
  induction copyLines with
  | zero => intro lines dst src log _; simp [renderIovec]
  | succ copyLines ih =>
    intro lines dst src log passes
    cases lines with
    | zero => simp [renderIovec]
    | succ lines =>
      have first := passes 0 (by omega)
      rw [renderIovec, if_neg (by simpa using first), ih fun k lt => by
        have := passes (k + 1) (by omega)
        rw [show dst + frame.dstStride + k * frame.dstStride = dst + ↑(k + 1) * frame.dstStride by
          push_cast; ring]
        exact this]
      simp only [Nat.add_min_add_right, Nat.add_sub_add_right, List.range_succ_eq_map,
        List.map_cons, List.map_map, List.append_assoc, List.singleton_append, Nat.cast_succ]
      refine Prod.ext (by push_cast; ring) (Prod.ext rfl (congrArg (log ++ ·) ?_))
      refine List.cons_eq_cons.mpr ⟨by simp, List.map_congr_left fun k _ => ?_⟩
      simp only [Function.comp, Nat.cast_succ, Memcpy.mk.injEq, and_true]
      exact ⟨by ring, funext fun i => congrArg iov.base (by rw [Nat.succ_eq_add_one]; ring)⟩

@[simp] theorem totalRows_cons (srcStride : Nat) (iov : Iovec) (rest : List Iovec)
    : totalRows srcStride (iov :: rest) = iov.len / srcStride + totalRows srcStride rest := by
  simp [totalRows]

theorem rowSource_cons_lt {srcStride : Nat} {iov : Iovec} {rest : List Iovec} {r : Nat}
    (first : r < iov.len / srcStride)
    : rowSource srcStride (iov :: rest) r = fun i => iov.base (r * srcStride + i) := by
  funext i
  simp [rowSource, first]

@[simp] theorem rowSource_cons_add (srcStride : Nat) (iov : Iovec) (rest : List Iovec) (r : Nat)
    : rowSource srcStride (iov :: rest) (iov.len / srcStride + r) = rowSource srcStride rest r := by
  funext i
  simp [rowSource]

/-- While no row would end past `dst_end`, the outer loop copies `min lines (total rows)`
rows, source row `r` to `dst + r * dst_stride`. Witness: `renderIovec_eq` for each iovec,
whose rows follow those of the iovecs before it.
-/
theorem renderVector_eq {frame : RenderFrame} {srcStride : Nat}
    : ∀ {vector : List Iovec} {lines : Nat} {dst : Int} {log : List Memcpy},
      (∀ r < min lines (totalRows srcStride vector),
        dst + r * frame.dstStride + frame.linesize ≤ frame.dstEnd)
      → renderVector frame srcStride vector lines dst log
        = log ++ (List.range (min lines (totalRows srcStride vector))).map fun r =>
            ⟨dst + r * frame.dstStride, rowSource srcStride vector r, frame.length⟩
  | [], lines, dst, log, _ => by simp [renderVector, totalRows]
  | iov :: rest, lines, dst, log, passes => by
    by_cases done : lines = 0
    · simp [renderVector, done]
    have inner := @renderIovec_eq frame srcStride iov (iov.len / srcStride) lines dst 0 log
      fun k lt => passes k (by simp only [totalRows_cons]; omega)
    generalize rowsDef : iov.len / srcStride = rows at inner
    generalize mDef : min rows lines = m at inner
    have outer := @renderVector_eq frame srcStride rest (lines - m) (dst + m * frame.dstStride)
      (log ++ (List.range m).map fun k =>
        ⟨dst + k * frame.dstStride, fun i => iov.base (0 + k * srcStride + i), frame.length⟩)
      fun r lt => by
        rw [show dst + m * frame.dstStride + r * frame.dstStride = dst + ↑(m + r) * frame.dstStride by
          push_cast; ring]
        exact passes (m + r) (by simp only [totalRows_cons]; omega)
    have split : min lines (rows + totalRows srcStride rest)
        = m + min (lines - m) (totalRows srcStride rest) := by omega
    rw [renderVector, if_neg done, rowsDef, inner]
    dsimp only
    rw [outer, totalRows_cons, rowsDef, split, List.range_add, List.map_append, List.map_map,
      List.append_assoc]
    congr 2
    · refine List.map_congr_left fun k mem => ?_
      rw [rowSource_cons_lt (by rw [List.mem_range] at mem; omega), Nat.zero_add]
    · rcases (by omega : m = rows ∨ min (lines - m) (totalRows srcStride rest) = 0) with full | empty
      · refine List.map_congr_left fun r _ => ?_
        simp only [Function.comp, Memcpy.mk.injEq, and_true]
        rw [full, ← rowsDef, rowSource_cons_add]
        exact ⟨by push_cast; ring, rfl⟩
      · simp [empty]

-----------------------------------------------------------------------------------------------
-- Where the rows land

/-- Byte `n` of the iovecs laid end to end. -/
def concatByte : List Iovec → Nat → BitVec 8
  | [], _ => 0
  | iov :: rest, n => if n < iov.len then iov.base n else concatByte rest (n - iov.len)

/-- When every iovec holds whole rows, source row `r` is bytes `r * stride` on of the iovecs
laid end to end.
-/
theorem rowSource_eq_concatByte {srcStride : Nat} (positive : 0 < srcStride)
    : ∀ {vector : List Iovec}, (∀ iov ∈ vector, iov.len % srcStride = 0)
      → ∀ {r i : Nat}, i < srcStride
      → rowSource srcStride vector r i = concatByte vector (r * srcStride + i)
  | [], _, _, _, _ => rfl
  | iov :: rest, whole, r, i, inside => by
    have rows : iov.len / srcStride * srcStride = iov.len :=
      Nat.div_mul_cancel (Nat.dvd_of_mod_eq_zero (whole iov (List.mem_cons_self _ _)))
    by_cases first : r < iov.len / srcStride
    · have within : r * srcStride + i < iov.len :=
        calc r * srcStride + i < (r + 1) * srcStride := by rw [Nat.succ_mul]; omega
          _ ≤ iov.len / srcStride * srcStride := Nat.mul_le_mul_right _ first
          _ = iov.len := rows
      simp [rowSource, concatByte, first, within]
    · have later : iov.len ≤ r * srcStride := rows ▸ Nat.mul_le_mul_right _ (by omega)
      have shift : r * srcStride + i - iov.len = (r - iov.len / srcStride) * srcStride + i := by
        rw [Nat.sub_mul, rows]
        omega
      simp only [rowSource, concatByte, first, if_false, show ¬ r * srcStride + i < iov.len by omega,
        shift]
      exact rowSource_eq_concatByte positive (fun iov' mem => whole iov' (List.mem_cons_of_mem _ mem))
        inside

/-- The screen row source row `r` belongs on: `y + r`, or `y + height - 1 - r` for a flipped
partial.
-/
def PartialPixels.screenRow (p : PartialPixels) (r : Nat) : Nat :=
  if p.flip then p.y.toNat + p.height.toNat - 1 - r else p.y.toNat + r

/-- Distinct source rows belong on distinct screen rows. -/
theorem PartialPixels.screenRow_inj (p : PartialPixels) {j r : Nat} (hj : j < p.height.toNat)
    (hr : r < p.height.toNat) (same : p.screenRow j = p.screenRow r) : j = r := by
  unfold PartialPixels.screenRow at same
  split at same <;> omega

/-- The conditions under which a partial's rows land on the screen: the screen's ARGB rows fit
in an `int` and its bitmap's size in 32 bits; the partial lies on the screen, each of its source
rows holds its `width` pixels, and its iovecs hold whole rows.
-/
structure RowsFit (screen : Screen) (p : PartialPixels) : Prop where
  wide : screen.width.toNat * 4 + 128 ≤ 2 ^ 31
  fits : screen.stride.toNat * screen.height.toNat < 2 ^ 32
  right : p.x.toNat + p.width.toNat ≤ screen.width.toNat
  bottom : p.y.toNat + p.height.toNat ≤ screen.height.toNat
  rowFits : 4 * p.width.toNat ≤ p.stride.toNat
  positive : 0 < p.stride.toNat
  whole : ∀ iov ∈ p.vector, iov.len % p.stride.toNat = 0

/-- `screen_stride_` is the ARGB row rounded up to 128 bytes, when the row does not wrap. -/
theorem Screen.stride_toNat_eq (screen : Screen) (narrow : screen.width.toNat * 4 + 128 ≤ 2 ^ 32)
    : screen.stride.toNat
      = screen.width.toNat * 4 + (128 - screen.width.toNat * 4 % 128) % 128 := by
  have bytes : (screen.width * 4).toNat = screen.width.toNat * 4 := by
    rw [BitVec.toNat_mul, show (4 : BitVec 32).toNat = 4 from rfl]; omega
  unfold Screen.stride
  simp only
  rw [roundUp_toNat _ 128 (by decide) (by rw [bytes]; exact narrow), bytes]
  rfl

section RowsFit

variable {screen : Screen} {p : PartialPixels}

theorem RowsFit.stride_bounds (fit : RowsFit screen p)
    : 4 * p.x.toNat + 4 * p.width.toNat ≤ screen.stride.toNat ∧ screen.stride.toNat < 2 ^ 31 := by
  have := screen.stride_toNat_eq (by have := fit.wide; omega)
  have := fit.wide
  have := fit.right
  omega

/-- A screen row of the partial lies on the screen. -/
theorem RowsFit.screenRow_lt (fit : RowsFit screen p) {r : Nat} (row : r < p.height.toNat)
    : p.screenRow r < screen.height.toNat := by
  have := fit.bottom
  unfold PartialPixels.screenRow
  split <;> omega

/-- The frame `RenderPartial` computes: `dst_end` is the bitmap's end, `linesize` and the
copies' length are the row's bytes, and row `r` starts at its screen row.
-/
theorem RowsFit.frame (fit : RowsFit screen p)
    : (renderFrame screen p).dstEnd = screen.stride.toNat * screen.height.toNat
      ∧ (renderFrame screen p).linesize = 4 * p.width.toNat
      ∧ (renderFrame screen p).length = 4 * p.width.toNat
      ∧ ∀ r < p.height.toNat, (renderFrame screen p).start + r * (renderFrame screen p).dstStride
          = ((screen.stride.toNat * p.screenRow r + 4 * p.x.toNat : Nat) : Int) := by
  obtain ⟨row, narrow⟩ := fit.stride_bounds
  have fits := fit.fits
  have bottom := fit.bottom
  have four : (4 : BitVec 32).toNat = 4 := rfl
  have bytes : (p.width * 4).toNat = 4 * p.width.toNat := by
    rw [BitVec.toNat_mul, four]; omega
  have linesize : (p.width * 4).toInt = 4 * p.width.toNat := by
    rw [BitVec.toInt_eq_toNat_cond, bytes, if_pos (by omega)]; push_cast; ring
  have stride : screen.stride.toInt = screen.stride.toNat := by
    rw [BitVec.toInt_eq_toNat_cond, if_pos (by omega)]
  have dstEnd : (screen.stride * screen.height).toNat = screen.stride.toNat * screen.height.toNat := by
    rw [BitVec.toNat_mul]; omega
  /- A start row `row` below the last screen row gives the offset of its first pixel. -/
  have start : ∀ {row : BitVec 32}, row.toNat < screen.height.toNat
      → (screen.stride * row + p.x * 4).toNat = screen.stride.toNat * row.toNat + 4 * p.x.toNat := by
    intro row below
    have : screen.stride.toNat * row.toNat + screen.stride.toNat
        ≤ screen.stride.toNat * screen.height.toNat := by
      rw [← Nat.mul_succ]; exact Nat.mul_le_mul_left _ below
    rw [BitVec.toNat_add, BitVec.toNat_mul, BitVec.toNat_mul, four]
    omega
  refine ⟨?_, ?_, ?_, fun r lower => ?_⟩
  · simp only [renderFrame]
    split <;> simp only [dstEnd, Nat.cast_mul]
  · simp only [renderFrame]
    split <;> simp only [linesize]
  · simp only [renderFrame, RenderFrame.length]
    split <;> (dsimp only; rw [linesize]; omega)
  simp only [renderFrame, PartialPixels.screenRow]
  split
  · have last : (p.y + p.height - 1).toNat = p.y.toNat + p.height.toNat - 1 := by
      rw [BitVec.toNat_sub, BitVec.toNat_add, show (1 : BitVec 32).toNat = 1 from rfl]; omega
    have split : screen.stride.toNat * (p.y.toNat + p.height.toNat - 1)
        = screen.stride.toNat * (p.y.toNat + p.height.toNat - 1 - r) + screen.stride.toNat * r := by
      rw [← Nat.mul_add, Nat.sub_add_cancel (by omega)]
    rw [start (by rw [last]; omega), last, stride, split]
    push_cast
    ring
  · rw [start (by omega), stride]
    push_cast
    ring

/-- Under `RowsFit` no row is stopped: `RenderPartial` copies `min height (total rows)` rows,
source row `r` to the first pixel of its screen row.
-/
theorem RowsFit.copies (fit : RowsFit screen p)
    : renderPartialCopies screen p
      = (List.range (min p.height.toNat (totalRows p.stride.toNat p.vector))).map fun r =>
          ⟨((screen.stride.toNat * p.screenRow r + 4 * p.x.toNat : Nat) : Int),
            rowSource p.stride.toNat p.vector r, 4 * p.width.toNat⟩ := by
  obtain ⟨dstEnd, linesize, length, rows⟩ := fit.frame
  obtain ⟨inside, -⟩ := fit.stride_bounds
  unfold renderPartialCopies
  rw [renderVector_eq fun r lt => ?_, List.nil_append]
  · refine List.map_congr_left fun r mem => ?_
    rw [rows r (by rw [List.mem_range] at mem; omega), length]
  · have below : screen.stride.toNat * p.screenRow r + screen.stride.toNat
        ≤ screen.stride.toNat * screen.height.toNat := by
      rw [← Nat.mul_succ]; exact Nat.mul_le_mul_left _ (fit.screenRow_lt (by omega))
    rw [rows r (by omega), linesize, dstEnd]
    zify at below inside
    omega

end RowsFit

/-- For every screen whose ARGB rows fit in an `int` and whose bitmap's size fits in 32 bits,
and every partial on it whose source rows hold `width` pixels within `stride` bytes and whose
iovecs hold whole rows, `RenderPartial` writes only inside `screen_bitmap_`; it copies the
first `min height (total rows)` source rows, row `r` to screen row `y + r` (`y + height - 1 - r`
when flipped) at byte columns `4x .. 4(x + width) - 1`; and it leaves every other byte as it
was. Witness: no row is stopped at `dst_end` (`RowsFit.copies`), and distinct rows land on
distinct screen rows.
-/
theorem render_partial_copies_rows (screen : Screen) (p : PartialPixels) (bitmap : Int → BitVec 8)
    (wide : screen.width.toNat * 4 + 128 ≤ 2 ^ 31)
    (fits : screen.stride.toNat * screen.height.toNat < 2 ^ 32)
    (right : p.x.toNat + p.width.toNat ≤ screen.width.toNat)
    (bottom : p.y.toNat + p.height.toNat ≤ screen.height.toNat)
    (rowFits : 4 * p.width.toNat ≤ p.stride.toNat) (positive : 0 < p.stride.toNat)
    (whole : ∀ iov ∈ p.vector, iov.len % p.stride.toNat = 0)
    : (∀ c ∈ renderPartialCopies screen p,
        0 ≤ c.dst ∧ c.dst + c.length ≤ screen.stride.toNat * screen.height.toNat)
      ∧ (∀ r < min p.height.toNat (totalRows p.stride.toNat p.vector), ∀ col < 4 * p.width.toNat,
          renderPartialBitmap screen p bitmap
              ((screen.stride.toNat * p.screenRow r + 4 * p.x.toNat + col : Nat) : Int)
            = concatByte p.vector (r * p.stride.toNat + col))
      ∧ ∀ k : Int,
          (∀ r < min p.height.toNat (totalRows p.stride.toNat p.vector), ∀ col < 4 * p.width.toNat,
            k ≠ ((screen.stride.toNat * p.screenRow r + 4 * p.x.toNat + col : Nat) : Int))
          → renderPartialBitmap screen p bitmap k = bitmap k := by
  have fit : RowsFit screen p := ⟨wide, fits, right, bottom, rowFits, positive, whole⟩
  obtain ⟨inside, -⟩ := fit.stride_bounds
  /- Row `r`'s pixels end before the next screen row starts. -/
  have rowEnd : ∀ r < p.height.toNat, screen.stride.toNat * p.screenRow r + 4 * p.x.toNat
      + 4 * p.width.toNat ≤ screen.stride.toNat * screen.height.toNat := fun r lt => by
    have := Nat.mul_le_mul_left screen.stride.toNat (fit.screenRow_lt lt)
    rw [Nat.mul_succ] at this
    omega
  simp only [renderPartialBitmap, fit.copies]
  refine ⟨fun c mem => ?_, fun r lt col within => ?_, fun k outside => ?_⟩
  · obtain ⟨r, lt, rfl⟩ := List.mem_map.mp mem
    have := rowEnd r (by rw [List.mem_range] at lt; omega)
    constructor <;> dsimp only <;> omega
  · rw [writeAll_range_row lt (by dsimp only [Memcpy.covers]; omega) fun j lower other cover => ?_]
    · simp only [Nat.cast_add, add_sub_cancel_left, Int.toNat_natCast]
      exact rowSource_eq_concatByte positive whole (by omega)
    · simp only [Memcpy.covers] at cover
      exact other (p.screenRow_inj (by omega) (by omega) (@row_of_offset screen.stride.toNat _ _
        (4 * p.x.toNat + (screen.stride.toNat * p.screenRow r + 4 * p.x.toNat + col
          - (screen.stride.toNat * p.screenRow j + 4 * p.x.toNat)))
        (4 * p.x.toNat + col) (by omega) (by omega) (by omega)))
  · refine writeAll_uncovered fun c mem cover => ?_
    obtain ⟨r, lt, rfl⟩ := List.mem_map.mp mem
    simp only [Memcpy.covers] at cover
    exact outside r (List.mem_range.mp lt) (k - (screen.stride.toNat * p.screenRow r
      + 4 * p.x.toNat : Nat)).toNat (by omega) (by omega)

/-- A flipped 2x2 partial at (16, 8) of stride 8, in one 16-byte iovec whose byte `n` is `n`. -/
def smallFlip : PartialPixels :=
  ⟨16, 8, 2, 2, 8, true, [⟨fun n => BitVec.ofNat 8 n, 16⟩]⟩

/-- On a 1920x1080 screen, `smallFlip` meets every condition: its two rows are copied bottom
row first, and nothing else changes.
-/
theorem small_flip_rows_copied
    : (∀ c ∈ renderPartialCopies fullHd smallFlip,
        0 ≤ c.dst ∧ c.dst + c.length ≤ fullHd.stride.toNat * fullHd.height.toNat)
      ∧ (∀ r < min smallFlip.height.toNat (totalRows smallFlip.stride.toNat smallFlip.vector),
          ∀ col < 4 * smallFlip.width.toNat,
          renderPartialBitmap fullHd smallFlip (fun _ => 0)
              ((fullHd.stride.toNat * smallFlip.screenRow r + 4 * smallFlip.x.toNat + col : Nat) : Int)
            = concatByte smallFlip.vector (r * smallFlip.stride.toNat + col))
      ∧ ∀ k : Int,
          (∀ r < min smallFlip.height.toNat (totalRows smallFlip.stride.toNat smallFlip.vector),
            ∀ col < 4 * smallFlip.width.toNat,
            k ≠ ((fullHd.stride.toNat * smallFlip.screenRow r + 4 * smallFlip.x.toNat + col : Nat)
              : Int))
          → renderPartialBitmap fullHd smallFlip (fun _ => 0) k = 0 :=
  render_partial_copies_rows fullHd smallFlip (fun _ => 0) (by decide) (by decide) (by decide)
    (by decide) (by decide) (by decide) (by decide)

/-- A 1024x1048576 screen, whose `screen_stride_ * screen_height_` is 2^32: 0 in 32 bits. -/
def tallScreen : Screen := ⟨1024, 0x100000, by decide, by decide⟩

/-- One pixel at (0, 0) of stride 4, in one 4-byte iovec of 0xff bytes. -/
def onePixel : PartialPixels := ⟨0, 0, 1, 1, 4, false, [⟨fun _ => 0xff, 4⟩]⟩

/-- On `tallScreen`, `onePixel` lies on the screen and its iovec holds one whole row, yet the
row is not copied: `dst_end` is the bitmap's start, so the row would end past it, and the
byte it belongs on keeps its value instead of becoming the source's 0xff.
-/
theorem tall_screen_row_not_copied
    : onePixel.x.toNat + onePixel.width.toNat ≤ tallScreen.width.toNat
      ∧ onePixel.y.toNat + onePixel.height.toNat ≤ tallScreen.height.toNat
      ∧ 4 * onePixel.width.toNat ≤ onePixel.stride.toNat
      ∧ (∀ iov ∈ onePixel.vector, iov.len % onePixel.stride.toNat = 0)
      ∧ min onePixel.height.toNat (totalRows onePixel.stride.toNat onePixel.vector) = 1
      ∧ tallScreen.stride.toNat * onePixel.screenRow 0 + 4 * onePixel.x.toNat = 0
      ∧ renderPartialBitmap tallScreen onePixel (fun _ => 0) 0 = 0
      ∧ concatByte onePixel.vector (0 * onePixel.stride.toNat + 0) = 0xff := by
  decide

-----------------------------------------------------------------------------------------------
-- Partials whose rows land outside the bitmap

/-- A flipped 1x2 partial at (0, 2^32 - 1), of stride 4, in one 8-byte iovec. -/
def wrappedFlip : PartialPixels :=
  ⟨0, 0xffffffff, 1, 2, 4, true, [⟨fun _ => 0xff, 8⟩]⟩

/-- A 2^29-pixel-wide partial of one row at (0, 0), of stride 2^31, in one iovec of 2^31
bytes: its `linesize` is 2^31, a negative `int`.
-/
def negativeLinesize : PartialPixels :=
  ⟨0, 0, 0x20000000, 1, 0x80000000, false, [⟨fun _ => 0xff, 0x80000000⟩]⟩

/-- On a 1920x1080 screen, whose bitmap is bytes 0 to 8294399, `wrappedFlip` starts at row
`(y + height - 1) mod 2^32 = 0` and walks up: its second row is copied 7680 bytes before the
bitmap. `negativeLinesize` passes the `dst_end` check with `dst + linesize` below `dst` and is
copied with a length of 2^64 - 2^31 bytes.
-/
theorem partial_rows_written_outside_bitmap
    : fullHd.stride.toNat * fullHd.height.toNat = 8294400
      ∧ (renderPartialCopies fullHd wrappedFlip).map (fun c => (c.dst, c.length))
        = [(0, 4), (-7680, 4)]
      ∧ (renderPartialCopies fullHd negativeLinesize).map (fun c => (c.dst, c.length))
        = [(0, 2 ^ 64 - 2 ^ 31)] := by
  decide

end MVisor.Sweet
