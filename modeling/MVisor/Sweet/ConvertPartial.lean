import MVisor.Sweet.RenderPartial
import MVisor.Sweet.Encoder

/-! `ConvertPartial` with its pixels: the 8-bpp path turns each palette index of a
whole-screen partial into an ARGB pixel of `screen_bitmap_`. The row offsets
`partial->stride * y` and `screen_stride_ * y` are 32-bit unsigned products, as in
`RenderPartial`. The 16- and 24-bpp paths call libyuv, which is not in the repository; the
model records only that they convert.
-/

namespace MVisor.Sweet

/-- What `ConvertPartial` reads of a `DisplayPartialBitmap`: its place, size and depth,
`stride`, the iovecs, and `pallete`, three bytes an entry.
-/
structure PalettePartial where
  x : BitVec 32
  y : BitVec 32
  width : BitVec 32
  height : BitVec 32
  bpp : BitVec 32
  stride : BitVec 32
  vector : List Iovec
  pallete : Nat → BitVec 8

/-- The partial as `Render` and `convertPartial` see it. -/
def PalettePartial.bitmap (p : PalettePartial) : DisplayPartialBitmap :=
  ⟨p.x, p.y, p.width, p.height, p.bpp, p.vector.length⟩

/-- Byte `i` of the ARGB pixel `ConvertPartial` stores for palette index `index`:
`pallete[index * 3 + i] << 2`, kept to the 8 bits of the `uint8_t` it is stored in, for the
three colour bytes, then 0.
-/
def paletteColor (pallete : Nat → BitVec 8) (index i : Nat) : BitVec 8 :=
  if i < 3 then pallete (index * 3 + i) <<< 2 else 0

/-- The 8-bpp loops: row `y` reads from `from = src + stride * y` and writes from
`to = screen_bitmap_ + screen_stride_ * y`; pixel `x` stores `to[0..3]` from the palette entry
of `from[x]`, and `to` moves on by 4. The four stores of a pixel are one copy of four bytes.
-/
def convertPaletteCopies (screen : Screen) (p : PalettePartial) (src : Iovec) : List Memcpy :=
  (List.range p.height.toNat).flatMap fun y =>
    (List.range p.width.toNat).map fun x =>
      ⟨((screen.stride * BitVec.ofNat 32 y).toNat + 4 * x : Nat),
        paletteColor p.pallete (src.base ((p.stride * BitVec.ofNat 32 y).toNat + x)).toNat, 4⟩

/-- What `ConvertPartial` did with a partial it returned from: rejected it (it returns false),
converted an 8-bpp partial by the palette, or handed a 16- or 24-bpp one to libyuv.
-/
inductive Conversion where
  | rejected
  | palette (copies : List Memcpy)
  | libyuv

/-- The value `ConvertPartial` returns. -/
def Conversion.converted : Conversion → Bool
  | .rejected => false
  | _ => true

/-- `ConvertPartial`: the single iovec is asserted, a partial that is not the whole screen is
rejected, and the depth chooses the conversion.
-/
def convertPartialPixels (screen : Screen) (p : PalettePartial) : Except String Conversion :=
  match p.vector with
  | [src] =>
    if p.x != 0 || p.y != 0 || p.width != screen.width || p.height != screen.height then
      pure .rejected
    else if p.bpp = 8 then pure (.palette (convertPaletteCopies screen p src))
    else if p.bpp = 16 ∨ p.bpp = 24 then pure .libyuv
    else pure .rejected
  | _ => throw "partial->vector.size() == 1"

/-- The pixel model returns what the encoder's `convertPartial` returns, and panics when it
panics.
-/
theorem convertPartialPixels_converted (screen : Screen) (p : PalettePartial)
    : (convertPartialPixels screen p).map Conversion.converted
      = convertPartial screen p.bitmap := by
  unfold convertPartialPixels convertPartial PalettePartial.bitmap
  match single : p.vector with
  | [src] =>
    simp only [List.length_singleton, ne_eq, not_true_eq_false, if_false]
    split_ifs <;> simp_all [Except.map, Conversion.converted]
  | [] => simp [Except.map, throw, throwThe, MonadExceptOf.throw]
  | _ :: _ :: _ => simp [Except.map, throw, throwThe, MonadExceptOf.throw]

-----------------------------------------------------------------------------------------------
-- Where the pixels land

section Screen

variable {screen : Screen}

/-- Row `y` of the screen starts `screen_stride_ * y` bytes in, when the bitmap's size does not
wrap.
-/
theorem Screen.row_toNat (fits : screen.stride.toNat * screen.height.toNat < 2 ^ 32) {y : Nat}
    (row : y < screen.height.toNat)
    : (screen.stride * BitVec.ofNat 32 y).toNat = screen.stride.toNat * y := by
  have : screen.stride.toNat * y < 2 ^ 32 :=
    lt_of_le_of_lt (Nat.mul_le_mul_left _ row.le) fits
  rw [BitVec.toNat_mul, BitVec.toNat_ofNat, Nat.mod_eq_of_lt (by omega : y < 2 ^ 32),
    Nat.mod_eq_of_lt this]

/-- Byte `i < 4` of pixel `(x, y)` lies in no other pixel's four bytes, when the screen's rows
hold their pixels.
-/
theorem pixel_of_offset {stride width x y x' y' i j : Nat} (rows : 4 * width ≤ stride)
    (hx : x < width) (hx' : x' < width) (hi : i < 4) (hj : j < 4)
    (same : stride * y + 4 * x + i = stride * y' + 4 * x' + j) : y = y' ∧ x = x' ∧ i = j := by
  have row := @row_of_offset stride y y' (4 * x + i) (4 * x' + j) (by omega) (by omega)
    (by omega)
  subst row
  omega

end Screen

/-- Pixel `(x, y)` of the 8-bpp loops, four bytes from `S * y + 4x` of a bitmap of `S`-byte
rows.
-/
def palettePixel (rowBytes : Nat) (p : PalettePartial) (src : Iovec) (y x : Nat) : Memcpy :=
  ⟨((rowBytes * y + 4 * x : Nat) : Int),
    paletteColor p.pallete (src.base ((p.stride * BitVec.ofNat 32 y).toNat + x)).toNat, 4⟩

/-- Over the whole screen, when the bitmap's size does not wrap, the loops store pixel
`(x, y)` at `S * y + 4x`.
-/
theorem convertPaletteCopies_eq {screen : Screen} {p : PalettePartial} {src : Iovec}
    (fits : screen.stride.toNat * screen.height.toNat < 2 ^ 32)
    (width : p.width = screen.width) (height : p.height = screen.height)
    : convertPaletteCopies screen p src
      = (List.range screen.height.toNat).flatMap fun y =>
          (List.range screen.width.toNat).map (palettePixel screen.stride.toNat p src y) := by
  unfold convertPaletteCopies
  rw [width, height]
  refine List.flatMap_congr fun y mem => List.map_congr_left fun x _ => ?_
  rw [palettePixel, Screen.row_toNat fits (List.mem_range.mp mem)]

theorem mem_palettePixels {rowBytes width height : Nat} {p : PalettePartial} {src : Iovec}
    {c : Memcpy}
    : c ∈ (List.range height).flatMap
          (fun y => (List.range width).map (palettePixel rowBytes p src y))
      ↔ ∃ y < height, ∃ x < width, c = palettePixel rowBytes p src y x := by
  simp only [List.mem_flatMap, List.mem_map, List.mem_range, exists_prop]
  exact ⟨fun ⟨y, row, x, col, eq⟩ => ⟨y, row, x, col, eq.symm⟩,
    fun ⟨y, row, x, col, eq⟩ => ⟨y, row, x, col, eq.symm⟩⟩

/-- For every 8-bpp partial with one iovec that covers the whole screen, on a screen whose ARGB
rows, rounded up, fit in 32 bits and whose bitmap's size does too, `ConvertPartial` converts it
by the palette; every byte it writes lies in `screen_bitmap_`; byte `i` of pixel `(x, y)` ends as
byte `i` of the palette colour of source byte `stride * y + x` (in 32-bit arithmetic, whatever
`iov_len` is: the loop never reads it); and every other byte, the rows' padding among them, is
left as it was. Witness: the pixels' four-byte stores are disjoint (`pixel_of_offset`).
-/
theorem palette_partial_fills_screen (screen : Screen) (p : PalettePartial) (src : Iovec)
    (bitmap : Int → BitVec 8)
    (wide : screen.width.toNat * 4 + 128 ≤ 2 ^ 32)
    (fits : screen.stride.toNat * screen.height.toNat < 2 ^ 32)
    (single : p.vector = [src]) (depth : p.bpp = 8)
    (whole : p.x = 0 ∧ p.y = 0 ∧ p.width = screen.width ∧ p.height = screen.height)
    : convertPartialPixels screen p = .ok (.palette (convertPaletteCopies screen p src))
      ∧ (∀ c ∈ convertPaletteCopies screen p src,
          0 ≤ c.dst ∧ c.dst + c.length ≤ screen.stride.toNat * screen.height.toNat)
      ∧ (∀ y < screen.height.toNat, ∀ x < screen.width.toNat, ∀ i < 4,
          writeAll bitmap (convertPaletteCopies screen p src)
              ((screen.stride.toNat * y + 4 * x + i : Nat) : Int)
            = paletteColor p.pallete
                (src.base ((p.stride * BitVec.ofNat 32 y).toNat + x)).toNat i)
      ∧ ∀ k : Int,
          (∀ y < screen.height.toNat, ∀ x < screen.width.toNat, ∀ i < 4,
            k ≠ ((screen.stride.toNat * y + 4 * x + i : Nat) : Int))
          → writeAll bitmap (convertPaletteCopies screen p src) k = bitmap k := by
  obtain ⟨x0, y0, width, height⟩ := whole
  have rows : 4 * screen.width.toNat ≤ screen.stride.toNat := by
    have := screen.stride_toNat_eq wide
    omega
  refine ⟨by simp [convertPartialPixels, single, x0, y0, width, height, depth], ?_⟩
  rw [convertPaletteCopies_eq fits width height]
  refine ⟨fun c mem => ?_, fun y row x col i byte => ?_, fun k outside => ?_⟩
  · obtain ⟨y, row, x, col, rfl⟩ := mem_palettePixels.mp mem
    have := Nat.mul_le_mul_left screen.stride.toNat (Nat.succ_le_of_lt row)
    rw [Nat.mul_succ] at this
    simp only [palettePixel]
    omega
  · /- Only pixel `(x, y)` covers its own bytes. -/
    refine writeAll_covered ⟨_, mem_palettePixels.mpr ⟨y, row, x, col, rfl⟩,
      by simp only [palettePixel, Memcpy.covers]; omega⟩ fun c mem cover => ?_
    obtain ⟨y', row', x', col', rfl⟩ := mem_palettePixels.mp mem
    simp only [palettePixel, Memcpy.covers] at cover ⊢
    obtain ⟨rfl, rfl, -⟩ := @pixel_of_offset screen.stride.toNat screen.width.toNat x y x' y' i
      (((screen.stride.toNat * y + 4 * x + i : Nat) : Int)
        - ((screen.stride.toNat * y' + 4 * x' : Nat) : Int)).toNat rows col col' byte
      (by omega) (by omega)
    congr 1
    omega
  · refine writeAll_uncovered fun c mem cover => ?_
    obtain ⟨y, row, x, col, rfl⟩ := mem_palettePixels.mp mem
    simp only [palettePixel, Memcpy.covers] at cover
    exact outside y row x col (k - ((screen.stride.toNat * y + 4 * x : Nat) : Int)).toNat
      (by omega) (by omega)

/-- A 2x2 screen. -/
def tinyScreen : Screen := ⟨2, 2, by decide, by decide⟩

/-- An 8-bpp partial over `tinyScreen`, of stride 2, whose pixels are palette entries 0 to 3,
entry `n` holding bytes `3n`, `3n + 1`, `3n + 2`.
-/
def tinyPalettePartial : PalettePartial :=
  ⟨0, 0, 2, 2, 8, 2, [⟨fun n => BitVec.ofNat 8 n, 4⟩], fun n => BitVec.ofNat 8 n⟩

/-- The 2x2 palette partial meets every condition: each pixel gets its palette entry. -/
theorem tiny_palette_partial_fills
    : convertPartialPixels tinyScreen tinyPalettePartial
        = .ok (.palette (convertPaletteCopies tinyScreen tinyPalettePartial
            ⟨fun n => BitVec.ofNat 8 n, 4⟩))
      ∧ (∀ c ∈ convertPaletteCopies tinyScreen tinyPalettePartial ⟨fun n => BitVec.ofNat 8 n, 4⟩,
          0 ≤ c.dst ∧ c.dst + c.length ≤ tinyScreen.stride.toNat * tinyScreen.height.toNat)
      ∧ (∀ y < tinyScreen.height.toNat, ∀ x < tinyScreen.width.toNat, ∀ i < 4,
          writeAll (fun _ => 0)
              (convertPaletteCopies tinyScreen tinyPalettePartial ⟨fun n => BitVec.ofNat 8 n, 4⟩)
              ((tinyScreen.stride.toNat * y + 4 * x + i : Nat) : Int)
            = paletteColor tinyPalettePartial.pallete
                (BitVec.ofNat 8 ((tinyPalettePartial.stride * BitVec.ofNat 32 y).toNat + x)).toNat
                i)
      ∧ ∀ k : Int,
          (∀ y < tinyScreen.height.toNat, ∀ x < tinyScreen.width.toNat, ∀ i < 4,
            k ≠ ((tinyScreen.stride.toNat * y + 4 * x + i : Nat) : Int))
          → writeAll (fun _ => 0)
              (convertPaletteCopies tinyScreen tinyPalettePartial ⟨fun n => BitVec.ofNat 8 n, 4⟩) k
            = 0 :=
  palette_partial_fills_screen tinyScreen tinyPalettePartial ⟨fun n => BitVec.ofNat 8 n, 4⟩
    (fun _ => 0) (by decide) (by decide) rfl rfl ⟨rfl, rfl, rfl, rfl⟩

end MVisor.Sweet
