import EscapeTime.Memory
import EscapeTime.Number.Floating
import EscapeTime.Work.Partition

/-!
# Rasters

A raster holds one gray level per pixel in row-major order until its buffer is released. Reading and
writing outside the raster, or after its release, has no effect. Gray levels stand for escape counts
on a logarithmic scale.
-/

namespace EscapeTime

namespace Tone

/-- The gray level of a count under a budget: `255 · ln count / ln budget` to the nearest integer,
kept between black and white. A count of zero or less is black, and one that reaches the budget
is white. -/
def ofCount (count budget : Int) : UInt8 :=
  if count ≤ 0 then 0
  else if budget ≤ count then 255
  else
    let level := 255 * logarithm (Float.ofInt count) / logarithm (Float.ofInt budget)
    UInt8.ofNat (min ((nearest? level).getD 0).toNat 255)

/-- Red, green, blue and alpha of a gray level, 16 bits each. -/
def colour (gray : UInt8) : List Nat :=
  let level := gray.toNat * 257
  [level, level, level, 65535]

/-- The gray level of an opaque colour. -/
def ofColour (red green blue : UInt8) : UInt8 :=
  let channel (c : UInt8) : Nat := c.toNat * 257
  UInt8.ofNat
    ((19595 * channel red + 38470 * channel green + 7471 * channel blue + 32768) >>> 24)

end Tone

@[ext]
structure Raster where
  width : Nat
  height : Nat
  /-- The gray levels; none after release. -/
  pixels : Option (Array UInt8)
  width_pos : 0 < width
  height_pos : 0 < height
  size_pixels : ∀ p, pixels = some p → p.size = width * height
  fits : width * height ≤ Memory.limit
  deriving Repr

namespace Raster

theorem fits_of_reserve {width height cap n : Int64} {length : Nat}
    (hp : Memory.pixels width height cap = .ok n) (hr : Memory.reserve n 1 = .ok length) :
    0 < width.toInt.toNat ∧ 0 < height.toInt.toNat ∧
      length = width.toInt.toNat * height.toInt.toNat ∧
      width.toInt.toNat * height.toInt.toNat ≤ Memory.limit := by
  obtain ⟨hw, hh, hn⟩ := Memory.pixels_eq_ok hp
  obtain ⟨_, rfl, hfit⟩ := Memory.reserve_eq_ok hr
  have hlen : n.toInt.toNat = width.toInt.toNat * height.toInt.toNat := by
    rw [hn, Int.toNat_mul (Int.le_of_lt hw) (Int.le_of_lt hh)]
  rw [hlen, Nat.mul_one] at hfit
  exact ⟨by omega, by omega, hlen, hfit⟩

/-- A raster whose gray levels are supplied by `content` once its length is known to fit. At most
`cap` pixels are allowed; a cap of zero or less is none. -/
def build (width height cap : Int64)
    (content : (length : Nat) → Except Failure { p : Array UInt8 // p.size = length }) :
    Except Failure Raster :=
  match hp : Memory.pixels width height cap with
  | .error f => .error f
  | .ok n =>
    match hr : Memory.reserve n 1 with
    | .error f => .error f
    | .ok length =>
      match content length with
      | .error f => .error f
      | .ok p =>
        .ok {
          width := width.toInt.toNat
          height := height.toInt.toNat
          pixels := some p.val
          width_pos := (fits_of_reserve hp hr).1
          height_pos := (fits_of_reserve hp hr).2.1
          size_pixels := by
            intro q hq
            cases hq
            exact p.property.trans (fits_of_reserve hp hr).2.2.1
          fits := (fits_of_reserve hp hr).2.2.2 }

def new (width height cap : Int64) : Except Failure Raster :=
  build width height cap fun length => .ok ⟨Array.replicate length 0, Array.size_replicate⟩

def Contains (r : Raster) (x y : Int64) : Prop :=
  0 ≤ x.toInt ∧ x.toInt < r.width ∧ 0 ≤ y.toInt ∧ y.toInt < r.height

instance (r : Raster) (x y : Int64) : Decidable (r.Contains x y) :=
  inferInstanceAs (Decidable (_ ∧ _))

def place (r : Raster) (x y : Int64) : Nat := y.toInt.toNat * r.width + x.toInt.toNat

/-- Replaces the buffer by one of the same length. -/
def modify (r : Raster) (f : Array UInt8 → Array UInt8) (hf : ∀ p, (f p).size = p.size) : Raster :=
  { r with
    pixels := r.pixels.map f
    size_pixels := by
      intro q hq
      obtain ⟨p, hp, rfl⟩ := Option.map_eq_some_iff.mp hq
      rw [hf]
      exact r.size_pixels p hp }

def setGray (r : Raster) (x y : Int64) (value : UInt8) : Raster :=
  if r.Contains x y then
    r.modify (fun p => p.setIfInBounds (r.place x y) value) fun _ => Array.size_setIfInBounds
  else r

/-- The gray level of a pixel, zero where there is none. -/
def grayAt (r : Raster) (x y : Int64) : UInt8 :=
  match r.pixels with
  | some p => if r.Contains x y then p.getD (r.place x y) 0 else 0
  | none => 0

/-- The gray level of a pixel of a raster that may not be there. Left of the first column every
raster is zero, so there none is needed. -/
def grayIn? (r? : Option Raster) (x y : Int64) : Option UInt8 :=
  if x < 0 then some 0 else r?.map fun r => r.grayAt x y

def fill (r : Raster) (ranges : List Range) (f : Nat → UInt8) : Raster :=
  r.modify (Range.fillAll ranges f) fun p => Range.size_fillAll ranges f p

/-- Has the buffer been dropped? A raster that is not there counts as released. -/
def isReleased : Option Raster → Bool
  | none => true
  | some r => r.pixels.isNone

def release (r? : Option Raster) : Except Failure Raster :=
  match r? with
  | none => .error (.kind .released)
  | some r =>
    match r.pixels with
    | none => .error (.kind .released)
    | some _ =>
      .ok { r with
        pixels := none
        size_pixels := by
          intro q hq
          cases hq }

inductive Call where
  | setGray (x y : Int64) (value : UInt8)
  | release
  deriving DecidableEq, Repr

/-- The raster after a call, and how the call ended. -/
def call (r : Raster) : Call → Raster × Except Failure Unit
  | .setGray x y value => (r.setGray x y value, .ok ())
  | .release =>
    match release (some r) with
    | .error f => (r, .error f)
    | .ok released => (released, .ok ())

def after (r : Raster) (calls : List Call) : Raster := calls.foldl (fun r c => (r.call c).1) r

end Raster

end EscapeTime
