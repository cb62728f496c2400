import EscapeTime.Number.Floating

/-!
# The complex plane

A viewport is the rectangle that is sampled; its two spans decide how many columns go with a given
number of rows, so that pixels are square. The orbit of `c` starts at zero and goes from `z` to
`z² + c` in single precision. Its escape count is the number of steps before the first point at
distance two or more from the origin, cut off at the budget.
-/

namespace EscapeTime

structure Viewport where
  realMin : Float
  realMax : Float
  imagMin : Float
  imagMax : Float
  deriving DecidableEq, Repr

namespace Viewport

def standard : Viewport := ⟨-2, 1, -1, 1⟩

def width (v : Viewport) : Float := v.realMax - v.realMin

def height (v : Viewport) : Float := v.imagMax - v.imagMin

/-- Both spans are positive and finite. -/
def IsProper (v : Viewport) : Prop :=
  0 < v.width ∧ 0 < v.height ∧ v.width.isInf = false ∧ v.height.isInf = false

instance (v : Viewport) : Decidable v.IsProper :=
  inferInstanceAs (Decidable (_ ∧ _))

def aspect (v : Viewport) : Float := v.width / v.height

/-- The number of columns that keeps pixels square. -/
def columns (v : Viewport) (rows : Int64) : Int64 :=
  nearestInt (Float.ofInt rows.toInt * v.aspect)

end Viewport

structure Point where
  re : Float32
  im : Float32
  deriving DecidableEq, Repr

namespace Orbit

def start : Point := ⟨0, 0⟩

def next (c z : Point) : Point :=
  -- The square is formed in double precision and rounded once per component; the constant is then
  -- added in single precision.
  let a := widen z.re
  let b := widen z.im
  ⟨narrow (a * a - b * b) + c.re, narrow (a * b + b * a) + c.im⟩

def point (c : Point) : Nat → Point
  | 0 => start
  | k + 1 => next c (point c k)

def hasEscaped (z : Point) : Bool := decide (4 ≤ z.re * z.re + z.im * z.im)

/-- Follows the orbit from `z` for at most `budget` steps and adds their number to `count`. -/
def follow (c : Point) : (budget : Nat) → (z : Point) → (count : Nat) → Nat
  | 0, _, count => count
  | budget + 1, z, count =>
    if hasEscaped z then count else follow c budget (next c z) (count + 1)

end Orbit

/-- The escape count of `c`; a budget of zero or less gives zero. -/
def escapeCount (c : Point) (budget : Int64) : Nat :=
  Orbit.follow c budget.toInt.toNat Orbit.start 0

end EscapeTime
