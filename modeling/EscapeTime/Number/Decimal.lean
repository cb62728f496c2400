import EscapeTime.Number.Floating
import EscapeTime.Number.Integer

/-!
# Floats in decimal

The shortest decimal for a binary value is a point of the coarsest power-of-ten grid that meets the
interval of reals rounding to that value. Of two such neighbours the nearer is taken, and a tie goes
to the even one. As text it is positional for decimal exponents from -4 to 5 and has an exponent of
at least two digits otherwise.
-/

namespace EscapeTime

structure Decimal where
  significand : Nat
  exponent : Int
  deriving DecidableEq, Repr

namespace Shortest

/-- The reals that round to `centre · 2 ^ exponent`, in units of `2 ^ exponent`; the ends belong
to the interval when `closed`. -/
structure Interval where
  low : Nat
  centre : Nat
  high : Nat
  exponent : Int
  closed : Bool

def Interval.around (mantissa : Nat) (exponent : Int) : Interval where
  -- Half a step down, but a quarter from a power of two, where the steps below are half as long.
  low :=
    if mantissa = Scaled.leadingBit ∧ exponent ≠ -1074 then 4 * mantissa - 1
    else 4 * mantissa - 2
  centre := 4 * mantissa
  high := 4 * mantissa + 2
  exponent := exponent - 2
  closed := mantissa % 2 = 0

/-- The point of the grid `10 ^ grid` that stands for the interval, if one lies inside. -/
def Interval.pick? (v : Interval) (grid : Int) : Option Nat :=
  let up := Nat.pow 10 (-grid).toNat <<< v.exponent.toNat
  let down := Nat.pow 10 grid.toNat <<< (-v.exponent).toNat
  let inside (c : Nat) : Bool :=
    if v.closed then v.low * up ≤ c * down ∧ c * down ≤ v.high * up
    else v.low * up < c * down ∧ c * down < v.high * up
  let below := v.centre * up / down
  let above := below + 1
  match inside below, inside above with
  | true, true =>
    let short := v.centre * up - below * down
    let long := above * down - v.centre * up
    if short < long ∨ (short = long ∧ below % 2 = 0) then some below else some above
  | true, false => some below
  | false, true => some above
  | false, false => none

def search (v : Interval) : Nat → Int → Decimal
  | 0, grid => ⟨0, grid⟩
  | steps + 1, grid =>
    match v.pick? grid with
    | some significand => ⟨significand, grid⟩
    | none => search v steps (grid - 1)

end Shortest

/-- The shortest decimal that rounds to the positive double `mantissa · 2 ^ exponent`. Every
double lies below `10 ^ 309`, and `10 ^ (-325)` is finer than the spacing of doubles. -/
def Decimal.shortest (mantissa : Nat) (exponent : Int) : Decimal :=
  Shortest.search (.around mantissa exponent) 640 309

namespace General

def positional : Int × Int := (-4, 5)

def scientific (digits : List Char) (exponent : Int) : List Char :=
  let fraction := if digits.length ≤ 1 then [] else '.' :: digits.drop 1
  let power := Numeral.ofNat exponent.natAbs
  let padded := if power.length < 2 then '0' :: power else power
  digits.take 1 ++ fraction ++ ['e', if exponent < 0 then '-' else '+'] ++ padded

def plain (digits : List Char) (exponent : Int) : List Char :=
  if exponent < 0 then
    ['0', '.'] ++ List.replicate (-exponent - 1).toNat '0' ++ digits
  else
    let whole := exponent.toNat + 1
    if digits.length ≤ whole then digits ++ List.replicate (whole - digits.length) '0'
    else digits.take whole ++ '.' :: digits.drop whole

def decimal (d : Decimal) : List Char :=
  let digits := Numeral.ofNat d.significand
  let exponent := d.exponent + digits.length - 1
  if positional.1 ≤ exponent ∧ exponent ≤ positional.2 then plain digits exponent
  else scientific digits exponent

def text (x : Float) : String :=
  match Scaled.ofFloat? x with
  | none =>
    if x.isNaN then "NaN" else if x < 0 then "-Inf" else "+Inf"
  | some s =>
    let magnitude := if s.mantissa = 0 then ['0'] else decimal (.shortest s.mantissa s.exponent)
    String.ofList (if s.negative then '-' :: magnitude else magnitude)

end General

end EscapeTime
