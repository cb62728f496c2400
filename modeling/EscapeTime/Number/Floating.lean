import EscapeTime.Number.Integer

/-!
# Floats by their bits

A finite `Float` is a signed integer times a power of two, read off its bit pattern. Rounding,
printing and the conversions between single and double precision are written on bit patterns too, so
that the kernel can evaluate them. The logarithm splits its argument as `2 ^ k · m` with
`√2 / 2 ≤ m < √2`; the order of its operations is part of the definition, since each one rounds.
-/

namespace EscapeTime

/-- The number `±mantissa · 2 ^ exponent`. -/
structure Scaled where
  negative : Bool
  mantissa : Nat
  exponent : Int
  deriving DecidableEq, Repr

namespace Scaled

/-- The leading bit of a normal mantissa, `2 ^ 52`. -/
def leadingBit : Nat := 4503599627370496

def ofFloat? (x : Float) : Option Scaled :=
  let bits := x.toBits
  let negative := decide (0x8000000000000000 ≤ bits)
  let field : UInt64 := (bits >>> 52) % 2048
  let fraction : UInt64 := bits % 0x10000000000000
  -- Infinities and NaN have no value.
  if field = 2047 then none
  else if field = 0 then some ⟨negative, fraction.toNat, -1074⟩
  else some ⟨negative, leadingBit + fraction.toNat, (field.toNat : Int) - 1075⟩

/-- The nearest integer to `mantissa · 2 ^ exponent`; a half goes up, and so away from zero. -/
def roundMagnitude (mantissa : Nat) (exponent : Int) : Nat :=
  if 0 ≤ exponent then mantissa <<< exponent.toNat
  else
    let shift := (-exponent).toNat
    (2 * mantissa + (1 <<< shift)) >>> (shift + 1)

def round (s : Scaled) : Int :=
  let magnitude := roundMagnitude s.mantissa s.exponent
  if s.negative then -(magnitude : Int) else magnitude

end Scaled

def nearest? (x : Float) : Option Int := (Scaled.ofFloat? x).map Scaled.round

/-- The nearest machine integer to a float. Where there is none, the smallest stands in. -/
def nearestInt (x : Float) : Int64 := ((nearest? x).bind machineInt?).getD Int64.minValue

/-- `n / 2 ^ shift` rounded to the nearest integer, a tie going to the even one; `shift` is
positive and below 64. -/
def shiftRoundEven (n shift : UInt64) : UInt64 :=
  let quotient := n >>> shift
  let remainder := n - (quotient <<< shift)
  let half : UInt64 := 1 <<< (shift - 1)
  if half < remainder ∨ (half = remainder ∧ quotient % 2 = 1) then quotient + 1 else quotient

/-- Rounds a double to the nearest single. Values beyond the largest single become infinite and
values below the normal range lose trailing bits. -/
def narrow (x : Float) : Float32 :=
  let bits := x.toBits
  let sign := bits >>> 63
  let field : UInt64 := (bits >>> 52) % 2048
  let fraction : UInt64 := bits % 0x10000000000000
  let infinite : UInt64 := 0x7f800000
  let magnitude : UInt64 :=
    if field = 2047 then
      if fraction = 0 then infinite else infinite + 0x400000
    else
      let significand := if field = 0 then fraction else 0x10000000000000 + fraction
      if field < 897 then shiftRoundEven significand (min (926 - field) 54)
      else min (((field - 897) <<< 23) + shiftRoundEven significand 29) infinite
  Float32.ofBits ((sign <<< 31) + magnitude).toUInt32

def widen (x : Float32) : Float :=
  let bits := x.toBits.toUInt64
  let sign := bits >>> 31
  let field : UInt64 := (bits >>> 23) % 256
  let fraction : UInt64 := bits % 0x800000
  let magnitude : UInt64 :=
    if field = 255 then ((field + 1792) <<< 52) + (fraction <<< 29)
    else if field = 0 then
      if fraction = 0 then 0
      else
        -- A subnormal single is a normal double: its top bit becomes the leading one.
        let top := fraction.log2
        ((top + 873) <<< 52) + (fraction <<< (52 - top))
    else ((field + 896) <<< 52) + (fraction <<< 29)
  Float.ofBits ((sign <<< 63) + magnitude)

namespace Logarithm

def lnTwoHigh : Float := Float.ofBits 0x3fe62e42fee00000
def lnTwoLow : Float := Float.ofBits 0x3dea39ef35793c76
def halfSqrtTwo : Float := Float.ofBits 0x3fe6a09e667f3bcd

def c1 : Float := Float.ofBits 0x3FE5555555555593
def c2 : Float := Float.ofBits 0x3FD999999997FA04
def c3 : Float := Float.ofBits 0x3FD2492494229359
def c4 : Float := Float.ofBits 0x3FCC71C51D8E78AF
def c5 : Float := Float.ofBits 0x3FC7466496CB03DE
def c6 : Float := Float.ofBits 0x3FC39A09D078C69F
def c7 : Float := Float.ofBits 0x3FC2F112DF3E5244

/-- `ln (1 + f) + k · ln 2` for `1 + f` in `[√2 / 2, √2)`. -/
def series (f k : Float) : Float :=
  let s := f / (2 + f)
  let s2 := s * s
  let s4 := s2 * s2
  let t1 := s2 * (c1 + s4 * (c3 + s4 * (c5 + s4 * c7)))
  let t2 := s4 * (c2 + s4 * (c4 + s4 * c6))
  let r := t1 + t2
  let h := 0.5 * f * f
  k * lnTwoHigh - ((h - (s * (h + r) + k * lnTwoLow)) - f)

end Logarithm

open Logarithm in
def logarithm (x : Float) : Float :=
  let bits := x.toBits
  let field : UInt64 := (bits >>> 52) % 2048
  let fraction : UInt64 := bits % 0x10000000000000
  let exponent : Int := (field.toNat : Int) - 1022
  let m := Float.ofBits (0x3fe0000000000000 + fraction)
  if m < halfSqrtTwo then series (m * 2 - 1) (Float.ofInt (exponent - 1))
  else series (m - 1) (Float.ofInt exponent)

end EscapeTime
