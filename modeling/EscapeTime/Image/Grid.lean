import EscapeTime.Memory
import EscapeTime.Plane
import EscapeTime.Work.Partition

/-!
# Lattices and grids of escape counts

A lattice spreads rows and columns evenly over a viewport: the first and the last row lie on its
lower and upper edge, the first and the last column on its left and right edge. A grid holds one
32-bit count per sample in row-major order: the count of row `i` and column `j` stands at place
`i * cols + j`.
-/

namespace EscapeTime

/-- Refuses a viewport whose spans are not positive and finite. -/
def Viewport.check (v : Viewport) : Except Failure Unit :=
  if v.IsProper then .ok () else .error (.cause (.emptyViewport v))

structure Lattice where
  rows : Int64
  cols : Int64
  realStart : Float
  realStep : Float
  imagStart : Float
  imagStep : Float
  deriving DecidableEq, Repr

namespace Lattice

/-- The lattice over a viewport. Fewer than two rows or columns would leave no step. -/
def ofViewport (v : Viewport) (rows cols : Int64) : Except Failure Lattice :=
  match v.check with
  | .error f => .error f
  | .ok () =>
    if rows < 2 ∨ cols < 2 then .error (.cause (.gridShape rows cols))
    else
      .ok {
        rows := rows
        cols := cols
        realStart := v.realMin
        realStep := v.width / Float.ofInt (cols - 1).toInt
        imagStart := v.imagMin
        imagStep := v.height / Float.ofInt (rows - 1).toInt }

/-- The point in a row and column, computed in double precision and rounded to single. -/
def point (l : Lattice) (row col : Int) : Point :=
  ⟨narrow (l.realStart + l.realStep * Float.ofInt col),
    narrow (l.imagStart + l.imagStep * Float.ofInt row)⟩

end Lattice

structure Grid where
  rows : Nat
  cols : Nat
  counts : Array Int32
  two_le_rows : 2 ≤ rows
  two_le_cols : 2 ≤ cols
  size_counts : counts.size = rows * cols
  fits : rows * cols * 4 ≤ Memory.limit
  deriving DecidableEq, Repr

namespace Grid

def countSize : Nat := 4

theorem shape_of_allocate {rows cols cap n : Int64} {counts : Array Int32}
    (hp : Memory.pixels cols rows cap = .ok n)
    (ha : Memory.allocate n countSize (0 : Int32) = .ok counts) :
    counts.size = rows.toInt.toNat * cols.toInt.toNat ∧
      rows.toInt.toNat * cols.toInt.toNat * 4 ≤ Memory.limit := by
  obtain ⟨hc, hr, hn⟩ := Memory.pixels_eq_ok hp
  obtain ⟨_, rfl, hfit⟩ := Memory.allocate_eq_ok ha
  have hlen : n.toInt.toNat = rows.toInt.toNat * cols.toInt.toNat := by
    rw [hn, Int.toNat_mul (Int.le_of_lt hc) (Int.le_of_lt hr), Nat.mul_comm]
  rw [Array.size_replicate, ← hlen]
  exact ⟨rfl, hfit⟩

theorem two_le_toNat {n : Int64} (h : ¬n < 2) : 2 ≤ n.toInt.toNat := by
  rw [Int64.lt_iff_toInt_lt] at h
  have : (2 : Int64).toInt = 2 := by decide
  omega

/-- A grid of zeros with at most `cap` samples; a cap of zero or less is none. -/
def new (rows cols cap : Int64) : Except Failure Grid :=
  if hs : rows < 2 ∨ cols < 2 then .error (.cause (.gridShape rows cols))
  else
    match hp : Memory.pixels cols rows cap with
    | .error f => .error f
    | .ok n =>
      match ha : Memory.allocate n countSize (0 : Int32) with
      | .error f => .error f
      | .ok counts =>
        .ok {
          rows := rows.toInt.toNat
          cols := cols.toInt.toNat
          counts := counts
          two_le_rows := two_le_toNat fun h => hs (Or.inl h)
          two_le_cols := two_le_toNat fun h => hs (Or.inr h)
          size_counts := (shape_of_allocate hp ha).1
          fits := (shape_of_allocate hp ha).2 }

def size (g : Grid) : Nat := g.counts.size

/-- The count in a row and column. A position outside the grid is a misuse. -/
def countAt (g : Grid) (row col : Int64) : Except Crash Int :=
  if row.toInt < 0 ∨ g.rows ≤ row.toInt ∨ col.toInt < 0 ∨ g.cols ≤ col.toInt then
    .error (.outsideGrid row col g.rows g.cols)
  else .ok (g.counts.getD (row.toInt.toNat * g.cols + col.toInt.toNat) 0).toInt

/-- Stores a count at a place, reduced to 32 bits. -/
def set (g : Grid) (place : Nat) (value : Int64) : Grid :=
  { g with
    counts := g.counts.setIfInBounds place value.toInt32
    size_counts := by rw [Array.size_setIfInBounds]; exact g.size_counts }

/-- Stores a count at a place. A place outside the grid is a misuse. -/
def store (g : Grid) (place value : Int64) : Except Crash Grid :=
  if place.toInt < 0 ∨ g.size ≤ place.toInt then .error (.outsideCounts place g.size)
  else .ok (g.set place.toInt.toNat value)

/-- Stores values at the places from the first on. -/
def copyFrom (g : Grid) (place : Nat) : List Int64 → Grid
  | [] => g
  | value :: values => (g.set place value).copyFrom (place + 1) values

def fill (g : Grid) (ranges : List Range) (f : Nat → Int32) : Grid :=
  { g with
    counts := Range.fillAll ranges f g.counts
    size_counts := by rw [Range.size_fillAll]; exact g.size_counts }

end Grid

end EscapeTime
