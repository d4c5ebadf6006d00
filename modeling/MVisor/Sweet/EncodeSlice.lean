import Mathlib.Data.BitVec

/-! The geometry of an encode slice: `CreateEncodeSlice` widens the rectangle it is given to
16-pixel columns and 2-pixel rows, clamps it to the screen, and converts the ARGB block
under it. All of it is the code's 32-bit unsigned arithmetic.
-/

namespace MVisor.Sweet

/-- The screen a `SweetDisplayEncoder` is built for; its constructor asserts both sizes even.
-/
structure Screen where
  width : BitVec 32
  height : BitVec 32
  evenWidth : width % 2 = 0
  evenHeight : height % 2 = 0

/-- `screen_stride_`: four bytes a pixel, rounded up to a multiple of 128. -/
def Screen.stride (screen : Screen) : BitVec 32 :=
  let stride := screen.width * 4
  if stride % 128 ≠ 0 then stride + (128 - stride % 128) else stride

/-- Where and how large a slice is (`EncodeSlice::x`, `y`, `width`, `height`). -/
structure SliceRect where
  x : BitVec 32
  y : BitVec 32
  width : BitVec 32
  height : BitVec 32
  deriving DecidableEq, Repr

/-- The rectangle `CreateEncodeSlice(top, left, bottom, right)` gives the slice. -/
def createEncodeSliceRect (screen : Screen) (top left bottom right : BitVec 32) : SliceRect :=
  let widthAlignment : BitVec 32 := 16
  let left := if left % widthAlignment ≠ 0 then left - left % widthAlignment else left
  let right :=
    if right % widthAlignment ≠ 0 then right + (widthAlignment - right % widthAlignment)
    else right
  let heightAlignment : BitVec 32 := 2
  let top := if top % heightAlignment ≠ 0 then top - top % heightAlignment else top
  let bottom :=
    if bottom % heightAlignment ≠ 0 then bottom + (heightAlignment - bottom % heightAlignment)
    else bottom
  let right := if right > screen.width then screen.width else right
  let bottom := if bottom > screen.height then screen.height else bottom
  ⟨left, top, right - left, bottom - top⟩

/-- The byte offset in `screen_bitmap_` of the ARGB block `CreateEncodeSlice` converts
(`screen_stride_ * slice->y + slice->x * 4`), and the offset one past its last byte, in
exact arithmetic.
-/
def SliceRect.sourceBlock (rect : SliceRect) (stride : BitVec 32) : Nat × Nat :=
  (stride.toNat * rect.y.toNat + rect.x.toNat * 4,
    stride.toNat * (rect.y.toNat + rect.height.toNat - 1) + (rect.x.toNat + rect.width.toNat) * 4)

/-- The slice `Render` creates for a partial (`CreateEncodeSlice(y, x, y + height,
x + width)`).
-/
def renderSliceRect (screen : Screen) (x y width height : BitVec 32) : SliceRect :=
  createEncodeSliceRect screen y x (y + height) (x + width)

-----------------------------------------------------------------------------------------------
-- Rounding and clamping, in exact arithmetic

theorem umod_eq_zero_iff {v a : BitVec 32} : v % a = 0 ↔ v.toNat % a.toNat = 0 := by
  rw [BitVec.toNat_eq, BitVec.toNat_umod]; rfl

/-- Rounding an edge down to a multiple of `a`, as `CreateEncodeSlice` moves left and top. -/
theorem roundDown_toNat (v a : BitVec 32)
    : (if v % a ≠ 0 then v - v % a else v).toNat = v.toNat - v.toNat % a.toNat := by
  split_ifs with h
  · rw [BitVec.toNat_sub_of_le (by rw [BitVec.le_def, BitVec.toNat_umod]; exact Nat.mod_le _ _),
      BitVec.toNat_umod]
  · rw [not_not, umod_eq_zero_iff] at h
    rw [h, Nat.sub_zero]

/-- Rounding an edge up to a multiple of `a`, as `CreateEncodeSlice` moves right and bottom;
exact when the edge leaves room for it below 2^32.
-/
theorem roundUp_toNat (v a : BitVec 32) (pos : 0 < a.toNat) (room : v.toNat + a.toNat ≤ 2 ^ 32)
    : (if v % a ≠ 0 then v + (a - v % a) else v).toNat
      = v.toNat + (a.toNat - v.toNat % a.toNat) % a.toNat := by
  have below := Nat.mod_lt v.toNat pos
  split_ifs with h
  · rw [ne_eq, umod_eq_zero_iff] at h
    rw [BitVec.toNat_add, BitVec.toNat_sub_of_le (by rw [BitVec.le_def, BitVec.toNat_umod]; omega),
      BitVec.toNat_umod, Nat.mod_eq_of_lt (by omega : a.toNat - v.toNat % a.toNat < a.toNat),
      Nat.mod_eq_of_lt (by omega)]
  · rw [not_not, umod_eq_zero_iff] at h
    rw [h, Nat.sub_zero, Nat.mod_self, Nat.add_zero]

theorem clamp_toNat (v w : BitVec 32) : (if v > w then w else v).toNat = min v.toNat w.toNat := by
  split_ifs with h <;> rw [gt_iff_lt, BitVec.lt_def] at h <;> omega

-----------------------------------------------------------------------------------------------
-- Well-formed slices

/-- When the left and top edges lie on the screen and the right and bottom edges can be
rounded up without wrapping, the slice starts on a 16-pixel column and an even row, has even
sizes, stays on the screen, and covers the part of the rectangle on the screen.
-/
theorem createEncodeSliceRect_fits (screen : Screen) {top left bottom right : BitVec 32}
    (ordered : left.toNat ≤ right.toNat) (descending : top.toNat ≤ bottom.toNat)
    (onLeft : left.toNat ≤ screen.width.toNat) (onTop : top.toNat ≤ screen.height.toNat)
    (roomRight : right.toNat + 16 ≤ 2 ^ 32) (roomBottom : bottom.toNat + 2 ≤ 2 ^ 32)
    : let rect := createEncodeSliceRect screen top left bottom right
      rect.x.toNat % 16 = 0 ∧ rect.y.toNat % 2 = 0
      ∧ rect.width.toNat % 2 = 0 ∧ rect.height.toNat % 2 = 0
      ∧ rect.x.toNat + rect.width.toNat ≤ screen.width.toNat
      ∧ rect.y.toNat + rect.height.toNat ≤ screen.height.toNat
      ∧ rect.x.toNat ≤ left.toNat
      ∧ min right.toNat screen.width.toNat ≤ rect.x.toNat + rect.width.toNat
      ∧ rect.y.toNat ≤ top.toNat
      ∧ min bottom.toNat screen.height.toNat ≤ rect.y.toNat + rect.height.toNat := by
  have evenWidth : screen.width.toNat % 2 = 0 := umod_eq_zero_iff.mp screen.evenWidth
  have evenHeight : screen.height.toNat % 2 = 0 := umod_eq_zero_iff.mp screen.evenHeight
  simp only [createEncodeSliceRect]
  rw [BitVec.toNat_sub_of_le, BitVec.toNat_sub_of_le]
  all_goals
    simp only [BitVec.le_def, roundDown_toNat, clamp_toNat,
      roundUp_toNat right 16 (by decide) roomRight, roundUp_toNat bottom 2 (by decide) roomBottom,
      show (16 : BitVec 32).toNat = 16 from rfl, show (2 : BitVec 32).toNat = 2 from rfl]
    omega

/-- A 1920x1080 screen. -/
def fullHd : Screen := ⟨1920, 1080, by decide, by decide⟩

/-- A partial whose top-left corner lies on the screen, and whose right and bottom edges
leave room to be rounded up below 2^32, gets a well-formed slice covering its part on the
screen. Witness: a 100x50 partial at (1900, 1070) on a 1920x1080 screen.
-/
theorem render_slice_fits (screen : Screen) {x y width height : BitVec 32}
    (onLeft : x.toNat ≤ screen.width.toNat) (onTop : y.toNat ≤ screen.height.toNat)
    (roomRight : x.toNat + width.toNat + 16 ≤ 2 ^ 32)
    (roomBottom : y.toNat + height.toNat + 2 ≤ 2 ^ 32)
    : let rect := renderSliceRect screen x y width height
      rect.x.toNat % 16 = 0 ∧ rect.y.toNat % 2 = 0
      ∧ rect.width.toNat % 2 = 0 ∧ rect.height.toNat % 2 = 0
      ∧ rect.x.toNat + rect.width.toNat ≤ screen.width.toNat
      ∧ rect.y.toNat + rect.height.toNat ≤ screen.height.toNat
      ∧ rect.x.toNat ≤ x.toNat
      ∧ min (x.toNat + width.toNat) screen.width.toNat ≤ rect.x.toNat + rect.width.toNat
      ∧ rect.y.toNat ≤ y.toNat
      ∧ min (y.toNat + height.toNat) screen.height.toNat ≤ rect.y.toNat + rect.height.toNat := by
  have right : (x + width).toNat = x.toNat + width.toNat := by rw [BitVec.toNat_add]; omega
  have bottom : (y + height).toNat = y.toNat + height.toNat := by rw [BitVec.toNat_add]; omega
  rw [← right, ← bottom]
  exact createEncodeSliceRect_fits screen (by omega) (by omega) onLeft onTop (by omega) (by omega)

theorem full_hd_partial_fits
    : let rect := renderSliceRect fullHd 1900 1070 100 50
      rect.x.toNat % 16 = 0 ∧ rect.y.toNat % 2 = 0
      ∧ rect.width.toNat % 2 = 0 ∧ rect.height.toNat % 2 = 0
      ∧ rect.x.toNat + rect.width.toNat ≤ fullHd.width.toNat
      ∧ rect.y.toNat + rect.height.toNat ≤ fullHd.height.toNat
      ∧ rect.x.toNat ≤ 1900 ∧ min 2000 fullHd.width.toNat ≤ rect.x.toNat + rect.width.toNat
      ∧ rect.y.toNat ≤ 1070 ∧ min 1120 fullHd.height.toNat ≤ rect.y.toNat + rect.height.toNat :=
  render_slice_fits fullHd (by decide) (by decide) (by decide) (by decide)

-----------------------------------------------------------------------------------------------
-- The bytes a slice converts

/-- `screen_stride_` holds a row of ARGB pixels when `screen_width_ * 4` does not wrap. -/
theorem Screen.stride_toNat (screen : Screen) (narrow : screen.width.toNat * 4 + 128 ≤ 2 ^ 32)
    : screen.width.toNat * 4 ≤ screen.stride.toNat := by
  have bytes : (screen.width * 4).toNat = screen.width.toNat * 4 := by
    rw [BitVec.toNat_mul, show (4 : BitVec 32).toNat = 4 from rfl]; omega
  unfold Screen.stride
  simp only
  rw [roundUp_toNat _ 128 (by decide) (by rw [bytes]; exact narrow), bytes]
  omega

/-- Under the hypotheses of `createEncodeSliceRect_fits`, every byte the ARGB conversion reads
for the slice, `width * 4` bytes of each of its `height` rows from
`screen_stride_ * y + x * 4`, lies inside `screen_bitmap_`.
-/
theorem createEncodeSliceRect_reads_inside (screen : Screen) {top left bottom right : BitVec 32}
    (ordered : left.toNat ≤ right.toNat) (descending : top.toNat ≤ bottom.toNat)
    (onLeft : left.toNat ≤ screen.width.toNat) (onTop : top.toNat ≤ screen.height.toNat)
    (roomRight : right.toNat + 16 ≤ 2 ^ 32) (roomBottom : bottom.toNat + 2 ≤ 2 ^ 32)
    (narrow : screen.width.toNat * 4 + 128 ≤ 2 ^ 32)
    : let rect := createEncodeSliceRect screen top left bottom right
      ∀ row < rect.height.toNat, ∀ column < rect.width.toNat * 4,
        screen.stride.toNat * (rect.y.toNat + row) + rect.x.toNat * 4 + column
          < screen.stride.toNat * screen.height.toNat := by
  dsimp only
  obtain ⟨-, -, -, -, inside, below, -⟩ :=
    createEncodeSliceRect_fits screen ordered descending onLeft onTop roomRight roomBottom
  have wide := screen.stride_toNat narrow
  generalize createEncodeSliceRect screen top left bottom right = rect at *
  intro row lower column within
  calc screen.stride.toNat * (rect.y.toNat + row) + rect.x.toNat * 4 + column
      < screen.stride.toNat * (rect.y.toNat + row) + screen.stride.toNat := by omega
    _ = screen.stride.toNat * (rect.y.toNat + row + 1) := by rw [Nat.mul_succ]
    _ ≤ screen.stride.toNat * screen.height.toNat := Nat.mul_le_mul_left _ (by omega)

/-- For a partial as in `render_slice_fits`, on a screen whose ARGB row fits in 32 bits and
whose bitmap size `screen_stride_ * screen_height_` does too, every byte the slice's conversion
reads, `row` strides and `column` bytes past its 32-bit start `screen_stride_ * slice->y +
slice->x * 4`, lies inside the `screen_stride_ * screen_height_` bytes the constructor
allocates. Witness: the partial at (1900, 1070) on a 1920x1080 screen.
-/
theorem render_slice_reads_inside_bitmap (screen : Screen) {x y width height : BitVec 32}
    (onLeft : x.toNat ≤ screen.width.toNat) (onTop : y.toNat ≤ screen.height.toNat)
    (roomRight : x.toNat + width.toNat + 16 ≤ 2 ^ 32)
    (roomBottom : y.toNat + height.toNat + 2 ≤ 2 ^ 32)
    (narrow : screen.width.toNat * 4 + 128 ≤ 2 ^ 32)
    (fits : screen.stride.toNat * screen.height.toNat < 2 ^ 32)
    : let rect := renderSliceRect screen x y width height
      ∀ row < rect.height.toNat, ∀ column < rect.width.toNat * 4,
        (screen.stride * rect.y + rect.x * 4).toNat + screen.stride.toNat * row + column
          < (screen.stride * screen.height).toNat := by
  have right : (x + width).toNat = x.toNat + width.toNat := by rw [BitVec.toNat_add]; omega
  have bottom : (y + height).toNat = y.toNat + height.toNat := by rw [BitVec.toNat_add]; omega
  have exact := @createEncodeSliceRect_reads_inside screen y x (y + height) (x + width)
    (by omega) (by omega) onLeft onTop (by omega) (by omega) narrow
  have allocated : (screen.stride * screen.height).toNat
      = screen.stride.toNat * screen.height.toNat := by
    rw [BitVec.toNat_mul, Nat.mod_eq_of_lt fits]
  dsimp only [renderSliceRect] at exact ⊢
  generalize createEncodeSliceRect screen y x (y + height) (x + width) = rect at exact ⊢
  intro row lower column within
  have inside := exact row lower column within
  rw [Nat.mul_add] at inside
  /- The 32-bit start offset does not wrap: it lies below the bitmap's size. -/
  have start : (screen.stride * rect.y + rect.x * 4).toNat
      = screen.stride.toNat * rect.y.toNat + rect.x.toNat * 4 := by
    rw [BitVec.toNat_add, BitVec.toNat_mul, BitVec.toNat_mul,
      show (4 : BitVec 32).toNat = 4 from rfl]
    have rows : screen.stride.toNat * rect.y.toNat < 2 ^ 32 := by omega
    rw [Nat.mod_eq_of_lt rows, Nat.mod_eq_of_lt (by omega : rect.x.toNat * 4 < 2 ^ 32),
      Nat.mod_eq_of_lt (by omega)]
  rw [start, allocated]
  omega

theorem full_hd_partial_reads_inside
    : let rect := renderSliceRect fullHd 1900 1070 100 50
      ∀ row < rect.height.toNat, ∀ column < rect.width.toNat * 4,
        (fullHd.stride * rect.y + rect.x * 4).toNat + fullHd.stride.toNat * row + column
          < (fullHd.stride * fullHd.height).toNat :=
  render_slice_reads_inside_bitmap fullHd (by decide) (by decide) (by decide) (by decide)
    (by decide) (by decide)

/-- A 16x2 partial at x = 2000 on a 1920x1080 screen, which `RenderPartial` accepts (it
returns true for every partial): the slice keeps x = 2000, the right edge is clamped to 1920,
and the width 1920 - 2000 wraps to 2^32 - 80. The ARGB block it converts runs far past the
end of `screen_bitmap_`.
-/
theorem offscreen_partial_slice_wraps
    : renderSliceRect fullHd 2000 0 16 2 = ⟨2000, 0, 4294967216, 2⟩
      ∧ fullHd.stride = 7680
      ∧ (renderSliceRect fullHd 2000 0 16 2).sourceBlock fullHd.stride
        = (8000, 17179884544)
      ∧ fullHd.stride.toNat * fullHd.height.toNat = 8294400 := by
  decide

end MVisor.Sweet
