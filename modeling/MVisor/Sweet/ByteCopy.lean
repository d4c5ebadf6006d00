import Mathlib.Data.BitVec
import Mathlib.Data.List.Range
import Mathlib.Tactic.Ring

/-! Byte copies into a buffer: a `memcpy` as the bytes it writes, a sequence of them made in
order, and the row loops that make them. Destinations are byte offsets from the buffer's
start, and may fall outside it.
-/

namespace MVisor.Sweet

/-- `memcpy(to, from, length)`: `to` as an offset into the destination, and the bytes read
from `from` on.
-/
structure Memcpy where
  dst : Int
  src : Nat → BitVec 8
  length : Nat

namespace Memcpy

/-- Whether the copy writes byte `k` of the destination. -/
def covers (c : Memcpy) (k : Int) : Prop :=
  c.dst ≤ k ∧ k < c.dst + c.length

instance (c : Memcpy) (k : Int) : Decidable (c.covers k) :=
  inferInstanceAs (Decidable (_ ∧ _))

/-- The destination after the copy. -/
def apply (c : Memcpy) (memory : Int → BitVec 8) : Int → BitVec 8 :=
  fun k => if c.covers k then c.src (k - c.dst).toNat else memory k

end Memcpy

/-- The destination after a sequence of copies, made in order. -/
def writeAll (memory : Int → BitVec 8) (log : List Memcpy) : Int → BitVec 8 :=
  log.foldl (fun memory c => c.apply memory) memory

@[simp] theorem writeAll_nil (memory : Int → BitVec 8) : writeAll memory [] = memory := rfl

@[simp] theorem writeAll_cons (memory : Int → BitVec 8) (c : Memcpy) (log : List Memcpy)
    : writeAll memory (c :: log) = writeAll (c.apply memory) log := rfl

@[simp] theorem writeAll_append (memory : Int → BitVec 8) (log log' : List Memcpy)
    : writeAll memory (log ++ log') = writeAll (writeAll memory log) log' :=
  List.foldl_append ..

/-- A byte no copy writes keeps its value. -/
theorem writeAll_uncovered {memory : Int → BitVec 8} {log : List Memcpy} {k : Int}
    (uncovered : ∀ c ∈ log, ¬ c.covers k) : writeAll memory log k = memory k := by
  induction log generalizing memory with
  | nil => rfl
  | cons c rest ih =>
    rw [writeAll_cons, ih fun c' mem => uncovered c' (List.mem_cons_of_mem _ mem)]
    simp only [Memcpy.apply, uncovered c (List.mem_cons_self _ _), if_false]

/-- Of copies made one per row `j < n`, when only row `r` writes byte `k`, the byte ends with
row `r`'s value.
-/
theorem writeAll_range_row {memory : Int → BitVec 8} {f : Nat → Memcpy} {n r : Nat} {k : Int}
    (row : r < n) (written : (f r).covers k) (only : ∀ j < n, j ≠ r → ¬ (f j).covers k)
    : writeAll memory ((List.range n).map f) k = (f r).src (k - (f r).dst).toNat := by
  induction n with
  | zero => omega
  | succ n ih =>
    rw [List.range_succ, List.map_append, writeAll_append, List.map_singleton, writeAll_cons,
      writeAll_nil, Memcpy.apply]
    by_cases last : r = n
    · subst last
      rw [if_pos written]
    · rw [if_neg (only n (by omega) (Ne.symm last))]
      exact ih (by omega) fun j lt ne => only j (by omega) ne

/-- When every copy that writes byte `k` writes the value `v`, and one does, the byte ends as
`v`, whatever the order of the copies.
-/
theorem writeAll_covered {memory : Int → BitVec 8} {log : List Memcpy} {k : Int} {v : BitVec 8}
    (written : ∃ c ∈ log, c.covers k)
    (agree : ∀ c ∈ log, c.covers k → c.src (k - c.dst).toNat = v)
    : writeAll memory log k = v := by
  induction log generalizing memory with
  | nil => obtain ⟨c, mem, -⟩ := written; cases mem
  | cons c rest ih =>
    rw [writeAll_cons]
    by_cases later : ∃ c' ∈ rest, c'.covers k
    · exact ih later fun c' mem => agree c' (List.mem_cons_of_mem _ mem)
    · rw [writeAll_uncovered fun c' mem cover => later ⟨c', mem, cover⟩, Memcpy.apply]
      obtain ⟨c', mem, cover⟩ := written
      rcases List.mem_cons.mp mem with rfl | mem
      · rw [if_pos cover]
        exact agree _ (List.mem_cons_self _ _) cover
      · exact absurd ⟨c', mem, cover⟩ later

/-- Two offsets `S * a + u` and `S * b + v` with `u, v < S` are equal only on the same row. -/
theorem row_of_offset {S a b u v : Nat} (hu : u < S) (hv : v < S) (same : S * a + u = S * b + v)
    : a = b := by
  have rows := congrArg (· / S) same
  simpa only [Nat.mul_add_div (by omega : 0 < S), Nat.div_eq_of_lt hu, Nat.div_eq_of_lt hv,
    Nat.add_zero] using rows

/-- A copy loop of `rows` rows of `length` bytes: `memcpy(to, from, length)`, then `to` moves
by `dstStride` and `from` by `srcStride`.
-/
def copyRows (dstStride srcStride : Int) (length : Nat) (src : Int → BitVec 8)
    : Nat → Int → Int → List Memcpy
  | 0, _, _ => []
  | rows + 1, toOffset, fromOffset =>
    ⟨toOffset, fun i => src (fromOffset + i), length⟩
      :: copyRows dstStride srcStride length src rows (toOffset + dstStride)
        (fromOffset + srcStride)

/-- Row `j` of the loop copies from `from + j * srcStride` to `to + j * dstStride`. -/
theorem copyRows_eq_map (dstStride srcStride : Int) (length : Nat) (src : Int → BitVec 8)
    (rows : Nat) (toOffset fromOffset : Int)
    : copyRows dstStride srcStride length src rows toOffset fromOffset
      = (List.range rows).map fun j =>
          ⟨toOffset + j * dstStride, fun i => src (fromOffset + j * srcStride + i), length⟩ := by
  induction rows generalizing toOffset fromOffset with
  | zero => rfl
  | succ rows ih =>
    rw [copyRows, ih, List.range_succ_eq_map, List.map_cons, List.map_map]
    congr 1
    · simp
    · refine List.map_congr_left fun j _ => ?_
      simp only [Function.comp, Nat.cast_succ, Memcpy.mk.injEq, and_true]
      exact ⟨by ring, funext fun i => congrArg src (by ring)⟩

end MVisor.Sweet
