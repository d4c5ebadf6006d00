import MVisor.Panic
import MVisor.Sweet.ByteCopy
import MVisor.Sweet.EncodeSlice
import Mathlib.Tactic.Zify

/-! `DrawSlices`: each slice's Y, U and V planes copied row by row into `input_yuv_`, the chroma
planes at the picture's subsampling. `i_stride * (y >> log2_chroma_h)` is an `int` times an
unsigned, so a 32-bit unsigned product; the pointers are offsets from each plane's start.
The layout `x264_picture_alloc` gives a picture is not in the repository: a plane is taken to
be its rows of `i_stride` bytes.
-/

namespace MVisor.Sweet

/-- `X264_CSP_I420`. -/
def x264CspI420 : Nat := 0x0002
/-- `X264_CSP_I444`. -/
def x264CspI444 : Nat := 0x000c

/-- The part of an `x264_image_t` `DrawSlices` reads and writes: `i_csp`, `i_stride` (`int`s)
and the bytes of each plane.
-/
structure YuvImage where
  csp : Nat
  stride : Fin 3 → BitVec 32
  plane : Fin 3 → Int → BitVec 8

/-- An `EncodeSlice` with the picture `CreateEncodeSlice` converted into it. -/
structure SlicePicture where
  rect : SliceRect
  yuv : YuvImage

/-- `log2_chroma_w` and `log2_chroma_h` of the destination's colour space; any other than I420
and I444 panics.
-/
def chromaShift (csp : Nat) : Except String (Nat × Nat) :=
  if csp = x264CspI420 then pure (1, 1)
  else if csp = x264CspI444 then pure (0, 0)
  else throw "unsupported csp=0x%x"

/-- The loop of `DrawSlices` over plane `p` of `slice`: `to` starts at
`dst.plane[p] + dst.i_stride[p] * (y >> shiftH) + (x >> shiftW)`, `from` at `src.plane[p]`,
and `height >> shiftH` rows of `width >> shiftW` bytes are copied.
-/
def drawPlane (dst : YuvImage) (shiftW shiftH : Nat) (p : Fin 3) (slice : SlicePicture)
    : List Memcpy :=
  let rect := slice.rect
  copyRows (dst.stride p).toInt (slice.yuv.stride p).toInt (rect.width >>> shiftW).toNat
    (slice.yuv.plane p) (rect.height >>> shiftH).toNat
    ((dst.stride p * (rect.y >>> shiftH)).toNat + (rect.x >>> shiftW).toNat) 0

/-- `DrawSlices(slices)`: for each slice in turn its Y plane unscaled and its U and V planes at
the chroma subsampling. The copies into each plane of `dst`, in order.
-/
def drawSlices (dst : YuvImage) (slices : List SlicePicture) : Except String (Fin 3 → List Memcpy) := do
  let (log2ChromaW, log2ChromaH) ← chromaShift dst.csp
  pure fun p => slices.flatMap fun slice =>
    if p = 0 then drawPlane dst 0 0 p slice else drawPlane dst log2ChromaW log2ChromaH p slice

-----------------------------------------------------------------------------------------------
-- Where a slice's rows land

/-- The shift of plane `p`: none for luma, the chroma subsampling `c` for U and V. -/
def planeShift (c : Nat) (p : Fin 3) : Nat :=
  if p = 0 then 0 else c

/-- For I420 and I444, `DrawSlices` returns the copies of each plane at its shift. -/
theorem drawSlices_ok {dst : YuvImage} {slices : List SlicePicture} {c : Nat}
    (csp : chromaShift dst.csp = .ok (c, c))
    : drawSlices dst slices
      = .ok fun p => slices.flatMap (drawPlane dst (planeShift c p) (planeShift c p) p) := by
  rw [drawSlices, csp]
  show Except.ok _ = Except.ok _
  congr 1
  funext p
  congr 1
  funext slice
  by_cases zero : p = 0 <;> simp [planeShift, zero]

/-- What `DrawSlices` needs for a slice's copies to land in place: the destination's planes
are the screen's at the subsampling `c`, the screen's luma plane has fewer than 2^32 bytes, the
slice lies on the screen, and its own planes are of its size.
-/
structure PlanesFit (screen : Screen) (c : Nat) (dst : YuvImage) (slice : SlicePicture) : Prop where
  small : screen.width.toNat * screen.height.toNat < 2 ^ 32
  planes : ∀ p, (dst.stride p).toNat = screen.width.toNat >>> planeShift c p
  right : slice.rect.x.toNat + slice.rect.width.toNat ≤ screen.width.toNat
  bottom : slice.rect.y.toNat + slice.rect.height.toNat ≤ screen.height.toNat
  own : ∀ p, (slice.yuv.stride p).toNat = slice.rect.width.toNat >>> planeShift c p

/-- Row `j` of a plane of the slice at `shift`: to row `(y >> shift) + j` of a plane of
`planeWidth` samples a row, from column `x >> shift`, from row `j` of the slice's own plane.
-/
def SlicePicture.planeRow (slice : SlicePicture) (planeWidth shift : Nat) (p : Fin 3) (j : Nat)
    : Memcpy :=
  ⟨(planeWidth * ((slice.rect.y.toNat >>> shift) + j) + (slice.rect.x.toNat >>> shift) : Nat),
    fun i => slice.yuv.plane p ((j * (slice.rect.width.toNat >>> shift) + i : Nat) : Int),
    slice.rect.width.toNat >>> shift⟩

/-- Whether `slice` covers sample (`col`, `row`) of a plane at `shift`: its rectangle scaled
by the shift.
-/
def SlicePicture.Covers (slice : SlicePicture) (shift col row : Nat) : Prop :=
  slice.rect.x.toNat >>> shift ≤ col
    ∧ col < (slice.rect.x.toNat >>> shift) + (slice.rect.width.toNat >>> shift)
    ∧ slice.rect.y.toNat >>> shift ≤ row
    ∧ row < (slice.rect.y.toNat >>> shift) + (slice.rect.height.toNat >>> shift)

/-- A row copy of a slice whose scaled columns fit in the plane writes sample (`col`, `row`)
exactly when it is the copy of that row and the column is one of the slice's.
-/
theorem SlicePicture.planeRow_covers {slice : SlicePicture} {planeWidth shift : Nat} {p : Fin 3}
    {j row col : Nat}
    (fits : (slice.rect.x.toNat >>> shift) + (slice.rect.width.toNat >>> shift) ≤ planeWidth)
    (inside : col < planeWidth)
    : (slice.planeRow planeWidth shift p j).covers ((planeWidth * row + col : Nat) : Int)
      ↔ row = (slice.rect.y.toNat >>> shift) + j ∧ slice.rect.x.toNat >>> shift ≤ col
        ∧ col < (slice.rect.x.toNat >>> shift) + (slice.rect.width.toNat >>> shift) := by
  simp only [SlicePicture.planeRow, Memcpy.covers]
  constructor
  · rintro ⟨lower, upper⟩
    have same := @row_of_offset planeWidth ((slice.rect.y.toNat >>> shift) + j) row
      ((slice.rect.x.toNat >>> shift) + (planeWidth * row + col
        - (planeWidth * ((slice.rect.y.toNat >>> shift) + j) + (slice.rect.x.toNat >>> shift))))
      col (by omega) inside (by omega)
    subst same
    omega
  · rintro ⟨rfl, lower, upper⟩
    omega

section PlanesFit

variable {screen : Screen} {c : Nat} {dst : YuvImage} {slice : SlicePicture}

/-- The slice's rectangle scaled by a plane's shift stays inside the plane. -/
theorem PlanesFit.scaled (fit : PlanesFit screen c dst slice) (shift : Nat)
    : (slice.rect.x.toNat >>> shift) + (slice.rect.width.toNat >>> shift)
        ≤ screen.width.toNat >>> shift
      ∧ (slice.rect.y.toNat >>> shift) + (slice.rect.height.toNat >>> shift)
        ≤ screen.height.toNat >>> shift := by
  simp only [Nat.shiftRight_eq_div_pow]
  exact ⟨(Nat.add_div_le_add_div _ _ _).trans (Nat.div_le_div_right fit.right),
    (Nat.add_div_le_add_div _ _ _).trans (Nat.div_le_div_right fit.bottom)⟩

/-- Under `PlanesFit`, `DrawSlices` copies the slice's plane `p` row by row into its scaled
rectangle.
-/
theorem PlanesFit.drawPlane_eq (fit : PlanesFit screen c dst slice) (p : Fin 3)
    : drawPlane dst (planeShift c p) (planeShift c p) p slice
      = (List.range (slice.rect.height.toNat >>> planeShift c p)).map
          (slice.planeRow (screen.width.toNat >>> planeShift c p) (planeShift c p) p) := by
  unfold drawPlane
  rw [copyRows_eq_map]
  simp only [BitVec.toNat_ushiftRight]
  rcases Nat.eq_zero_or_pos (slice.rect.height.toNat >>> planeShift c p) with empty | rows
  · simp [empty]
  have shrink : ∀ n, n >>> planeShift c p ≤ n := fun n => by
    rw [Nat.shiftRight_eq_div_pow]; exact Nat.div_le_self _ _
  have tall : 2 ≤ screen.height.toNat := by
    have := umod_eq_zero_iff.mp screen.evenHeight
    have := shrink slice.rect.height.toNat
    have := fit.bottom
    rw [show (2 : BitVec 32).toNat = 2 from rfl] at *
    omega
  have narrow : screen.width.toNat < 2 ^ 31 := by
    have := Nat.mul_le_mul_left screen.width.toNat tall
    have := fit.small
    omega
  have toInt : ∀ {v : BitVec 32}, v.toNat ≤ screen.width.toNat → v.toInt = v.toNat := fun le => by
    rw [BitVec.toInt_eq_toNat_cond, if_pos (by omega)]
  have start : (dst.stride p).toNat * (slice.rect.y.toNat >>> planeShift c p)
      < 2 ^ 32 := by
    calc _ ≤ screen.width.toNat * screen.height.toNat := by
          rw [fit.planes p]
          exact Nat.mul_le_mul (shrink _) ((shrink _).trans (by have := fit.bottom; omega))
      _ < 2 ^ 32 := fit.small
  have dstStride : (dst.stride p).toInt = (dst.stride p).toNat :=
    toInt (by rw [fit.planes p]; exact shrink _)
  have srcStride : (slice.yuv.stride p).toInt = (slice.yuv.stride p).toNat :=
    toInt (by rw [fit.own p]; exact (shrink _).trans (by have := fit.right; omega))
  rw [dstStride, srcStride]
  refine List.map_congr_left fun j _ => ?_
  rw [BitVec.toNat_mul, BitVec.toNat_ushiftRight, Nat.mod_eq_of_lt start, fit.planes p, fit.own p]
  simp only [SlicePicture.planeRow, Memcpy.mk.injEq, and_true]
  constructor
  · push_cast; ring
  · funext i; congr 1; push_cast; ring

/-- Every copy of the slice's plane `p` lies inside the plane. -/
theorem PlanesFit.copy_inside (fit : PlanesFit screen c dst slice) (p : Fin 3) {m : Memcpy}
    (mem : m ∈ drawPlane dst (planeShift c p) (planeShift c p) p slice)
    : 0 ≤ m.dst ∧ m.dst + m.length
        ≤ (screen.width.toNat >>> planeShift c p) * (screen.height.toNat >>> planeShift c p) := by
  rw [fit.drawPlane_eq p] at mem
  obtain ⟨j, lt, rfl⟩ := List.mem_map.mp mem
  obtain ⟨right, bottom⟩ := fit.scaled (planeShift c p)
  have lastRow := Nat.mul_le_mul_left (screen.width.toNat >>> planeShift c p)
    (show (slice.rect.y.toNat >>> planeShift c p) + j + 1 ≤ screen.height.toNat >>> planeShift c p by
      simp only [List.mem_range] at lt; omega)
  simp only [SlicePicture.planeRow, Nat.mul_succ] at lastRow ⊢
  exact ⟨Int.natCast_nonneg _, by norm_cast; omega⟩

/-- A copy of the slice's plane `p` writes a sample of the plane only where the slice covers
it.
-/
theorem PlanesFit.covers_of_copy (fit : PlanesFit screen c dst slice) (p : Fin 3) {m : Memcpy}
    {row col : Nat} (mem : m ∈ drawPlane dst (planeShift c p) (planeShift c p) p slice)
    (inside : col < screen.width.toNat >>> planeShift c p)
    (cover : m.covers (((screen.width.toNat >>> planeShift c p) * row + col : Nat) : Int))
    : slice.Covers (planeShift c p) col row := by
  rw [fit.drawPlane_eq p] at mem
  obtain ⟨j, lt, rfl⟩ := List.mem_map.mp mem
  obtain ⟨rfl, lower, upper⟩ :=
    (SlicePicture.planeRow_covers (fit.scaled _).1 inside).mp cover
  exact ⟨lower, upper, by omega, by simpa using lt⟩

/-- The slice's copies of plane `p` set every sample it covers to the slice's own. -/
theorem PlanesFit.drawPlane_sample (fit : PlanesFit screen c dst slice) (p : Fin 3)
    {memory : Int → BitVec 8} {row col : Nat} (inside : col < screen.width.toNat >>> planeShift c p)
    (covers : slice.Covers (planeShift c p) col row)
    : writeAll memory (drawPlane dst (planeShift c p) (planeShift c p) p slice)
        (((screen.width.toNat >>> planeShift c p) * row + col : Nat) : Int)
      = slice.yuv.plane p (((row - (slice.rect.y.toNat >>> planeShift c p))
          * (slice.rect.width.toNat >>> planeShift c p)
          + (col - (slice.rect.x.toNat >>> planeShift c p)) : Nat) : Int) := by
  obtain ⟨lowerCol, upperCol, lowerRow, upperRow⟩ := covers
  have right := (fit.scaled (planeShift c p)).1
  rw [fit.drawPlane_eq p, writeAll_range_row (r := row - (slice.rect.y.toNat >>> planeShift c p))
    (by omega) ((SlicePicture.planeRow_covers right inside).mpr ⟨by omega, lowerCol, upperCol⟩)
    fun j _ other cover => other (by
      have := ((SlicePicture.planeRow_covers right inside).mp cover).1; omega)]
  simp only [SlicePicture.planeRow, Nat.add_sub_cancel' lowerRow]
  congr 2
  omega

end PlanesFit

-----------------------------------------------------------------------------------------------
-- The picture after DrawSlices

/-- For I420 and I444 (`c` 1 and 0), a screen whose luma plane has fewer than 2^32 bytes, a
destination whose planes are the screen's at the subsampling, and any list of slices on the
screen carrying planes of their own size, `DrawSlices` returns, writes only inside each plane,
sets every sample a slice covers at the plane's scale to the sample of the last slice of the
list that covers it, and leaves every other sample as it was. Witness: a slice's copies land on
distinct rows of its scaled rectangle (`planeRow_covers`), and later slices are copied after
earlier ones.
-/
theorem draw_slices_last_slice_wins (screen : Screen) (dst : YuvImage)
    (slices : List SlicePicture) {c : Nat}
    (csp : chromaShift dst.csp = .ok (c, c))
    (small : screen.width.toNat * screen.height.toNat < 2 ^ 32)
    (planes : ∀ p, (dst.stride p).toNat = screen.width.toNat >>> planeShift c p)
    (onScreen : ∀ s ∈ slices, s.rect.x.toNat + s.rect.width.toNat ≤ screen.width.toNat
      ∧ s.rect.y.toNat + s.rect.height.toNat ≤ screen.height.toNat)
    (own : ∀ s ∈ slices, ∀ p, (s.yuv.stride p).toNat = s.rect.width.toNat >>> planeShift c p)
    : ∃ logs, drawSlices dst slices = .ok logs ∧ ∀ p : Fin 3,
        (∀ m ∈ logs p, 0 ≤ m.dst ∧ m.dst + m.length
          ≤ (screen.width.toNat >>> planeShift c p) * (screen.height.toNat >>> planeShift c p))
        ∧ (∀ row < screen.height.toNat >>> planeShift c p,
            ∀ col < screen.width.toNat >>> planeShift c p, ∀ pre s post,
            slices = pre ++ s :: post → s.Covers (planeShift c p) col row
            → (∀ s' ∈ post, ¬ s'.Covers (planeShift c p) col row)
            → writeAll (dst.plane p) (logs p)
                (((screen.width.toNat >>> planeShift c p) * row + col : Nat) : Int)
              = s.yuv.plane p (((row - (s.rect.y.toNat >>> planeShift c p))
                  * (s.rect.width.toNat >>> planeShift c p)
                  + (col - (s.rect.x.toNat >>> planeShift c p)) : Nat) : Int))
        ∧ ∀ row < screen.height.toNat >>> planeShift c p,
            ∀ col < screen.width.toNat >>> planeShift c p,
            (∀ s ∈ slices, ¬ s.Covers (planeShift c p) col row)
            → writeAll (dst.plane p) (logs p)
                (((screen.width.toNat >>> planeShift c p) * row + col : Nat) : Int)
              = dst.plane p (((screen.width.toNat >>> planeShift c p) * row + col : Nat) : Int) := by
  have fit : ∀ s ∈ slices, PlanesFit screen c dst s := fun s mem =>
    ⟨small, planes, (onScreen s mem).1, (onScreen s mem).2, own s mem⟩
  refine ⟨_, drawSlices_ok csp, fun p => ⟨fun m mem => ?_,
    fun row _ col inside pre s post split covers last => ?_,
    fun row _ col inside none => writeAll_uncovered fun m mem cover => ?_⟩⟩
  · obtain ⟨s, mem_s, mem_m⟩ := List.mem_flatMap.mp mem
    exact (fit s mem_s).copy_inside p mem_m
  · /- The copies of the slices after `s` leave the sample alone, and those of `s` set it. -/
    have mem_s : s ∈ slices := split ▸ List.mem_append_right _ (List.mem_cons_self _ _)
    rw [split, List.flatMap_append, List.flatMap_cons, writeAll_append, writeAll_append,
      writeAll_uncovered fun m mem cover => ?_, (fit s mem_s).drawPlane_sample p inside covers]
    obtain ⟨s', mem_s', mem_m⟩ := List.mem_flatMap.mp mem
    have fit' := fit s' (split ▸ List.mem_append_right _ (List.mem_cons_of_mem _ mem_s'))
    exact last s' mem_s' (fit'.covers_of_copy p mem_m inside cover)
  · obtain ⟨s, mem_s, mem_m⟩ := List.mem_flatMap.mp mem
    exact none s mem_s ((fit s mem_s).covers_of_copy p mem_m inside cover)

/-- A 1920x1080 I420 picture whose samples are all 0. -/
def fullHdPicture : YuvImage :=
  ⟨x264CspI420, fun p => if p = 0 then 1920 else 960, fun _ _ => 0⟩

/-- Two 16x16 I420 slices at (0, 0) and (8, 0), the first all 0x11, the second all 0x22. -/
def overlappingSlices : List SlicePicture :=
  [⟨⟨0, 0, 16, 16⟩, ⟨x264CspI420, fun p => if p = 0 then 16 else 8, fun _ _ => 0x11⟩⟩,
    ⟨⟨8, 0, 16, 16⟩, ⟨x264CspI420, fun p => if p = 0 then 16 else 8, fun _ _ => 0x22⟩⟩]

/-- On a 1920x1080 I420 picture the two overlapping slices meet every condition: where they
overlap, the second slice's samples are the ones left.
-/
theorem overlapping_slices_drawn
    : ∃ logs, drawSlices fullHdPicture overlappingSlices = .ok logs ∧ ∀ p : Fin 3,
        (∀ m ∈ logs p, 0 ≤ m.dst ∧ m.dst + m.length
          ≤ (fullHd.width.toNat >>> planeShift 1 p) * (fullHd.height.toNat >>> planeShift 1 p))
        ∧ (∀ row < fullHd.height.toNat >>> planeShift 1 p,
            ∀ col < fullHd.width.toNat >>> planeShift 1 p, ∀ pre s post,
            overlappingSlices = pre ++ s :: post → s.Covers (planeShift 1 p) col row
            → (∀ s' ∈ post, ¬ s'.Covers (planeShift 1 p) col row)
            → writeAll (fullHdPicture.plane p) (logs p)
                (((fullHd.width.toNat >>> planeShift 1 p) * row + col : Nat) : Int)
              = s.yuv.plane p (((row - (s.rect.y.toNat >>> planeShift 1 p))
                  * (s.rect.width.toNat >>> planeShift 1 p)
                  + (col - (s.rect.x.toNat >>> planeShift 1 p)) : Nat) : Int))
        ∧ ∀ row < fullHd.height.toNat >>> planeShift 1 p,
            ∀ col < fullHd.width.toNat >>> planeShift 1 p,
            (∀ s ∈ overlappingSlices, ¬ s.Covers (planeShift 1 p) col row)
            → writeAll (fullHdPicture.plane p) (logs p)
                (((fullHd.width.toNat >>> planeShift 1 p) * row + col : Nat) : Int)
              = fullHdPicture.plane p
                  (((fullHd.width.toNat >>> planeShift 1 p) * row + col : Nat) : Int) :=
  @draw_slices_last_slice_wins fullHd fullHdPicture overlappingSlices 1 rfl (by decide)
    (by decide) (by decide) (by decide)

/-- A 65536x65538 screen, whose luma plane has 2^32 + 2^17 samples, as an I444 picture whose
samples are all 0.
-/
def hugePicture : YuvImage := ⟨x264CspI444, fun _ => 65536, fun _ _ => 0⟩

/-- A 16x2 I444 slice all 0xff at (0, 65536), the bottom two rows of the 65536x65538 screen. -/
def bottomSlice : SlicePicture := ⟨⟨0, 65536, 16, 2⟩, ⟨x264CspI444, fun _ => 16, fun _ _ => 0xff⟩⟩

/-- `bottomSlice` is aligned, lies on the 65536x65538 screen and carries planes of its own size,
yet `i_stride * y` is 2^32, 0 in 32 bits: its rows are copied to the top two rows of each plane,
and the sample at column 0 of row 65536 keeps its 0 instead of the slice's 0xff.
-/
theorem huge_screen_slice_drawn_at_top
    : bottomSlice.rect.x.toNat + bottomSlice.rect.width.toNat ≤ 65536
      ∧ bottomSlice.rect.y.toNat + bottomSlice.rect.height.toNat ≤ 65538
      ∧ bottomSlice.rect.x % 2 = 0 ∧ bottomSlice.rect.y % 2 = 0
      ∧ bottomSlice.rect.width % 2 = 0 ∧ bottomSlice.rect.height % 2 = 0
      ∧ (∀ p, (bottomSlice.yuv.stride p).toNat = bottomSlice.rect.width.toNat)
      ∧ ∃ logs, drawSlices hugePicture [bottomSlice] = .ok logs
        ∧ ∀ p, (logs p).map (·.dst) = [0, 65536]
          ∧ writeAll (hugePicture.plane p) (logs p) ((65536 * 65536 + 0 : Nat) : Int) = 0
          ∧ bottomSlice.yuv.plane p 0 = 0xff :=
  ⟨by decide, by decide, by decide, by decide, by decide, by decide, by decide, _, rfl,
    by decide⟩

end MVisor.Sweet
