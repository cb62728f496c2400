import EscapeTime.Files.Path
import EscapeTime.Image.Raster

/-!
# Writing graymaps

A binary graymap is a short text header, giving width, height and the greatest gray level, followed
by one byte per pixel in row-major order. An image to be written brings its own dimensions, which
need not fit its pixels, and is checked before any file is touched. The file is then emptied or
created, given its header, brought to its final length and filled with the pixels; the first step
that fails ends the write.
-/

namespace EscapeTime

structure Graymap where
  width : Int64
  height : Int64
  pixels : Array UInt8
  deriving DecidableEq, Repr

namespace Graymap

/-- The only greatest gray level in use. -/
def maxValue : Int64 := 255

def headerChars (width height : Int64) : List Char :=
  ['P', '5', '\n'] ++ Numeral.ofInt width.toInt ++ [' '] ++ Numeral.ofInt height.toInt ++
    ['\n'] ++ Numeral.ofInt maxValue.toInt ++ ['\n']

def header (width height : Int64) : String := String.ofList (headerChars width height)

def headerBytes (width height : Int64) : List UInt8 := (headerChars width height).map Char.toUInt8

/-- The length of a file with given dimensions, as a machine integer. -/
def fileSize (width height : Int64) : Int64 :=
  Int64.ofNat (headerChars width height).length + width * height

/-- The image of a raster. A released raster has no pixels. -/
def ofRaster (r : Raster) : Graymap :=
  ⟨Int64.ofNat r.width, Int64.ofNat r.height, r.pixels.getD #[]⟩

def encode (g : Graymap) : List UInt8 := headerBytes g.width g.height ++ g.pixels.toList

/-- Refuses an image without pixels, or with more or fewer than its dimensions ask for. -/
def check (g : Graymap) : Except Failure Unit :=
  if g.width ≤ 0 ∨ g.height ≤ 0 then .error (.cause (.emptyImage g.width g.height))
  else if Int64.ofNat g.pixels.size ≠ g.width * g.height then
    .error (.cause (.pixelCount g.pixels.size g.width g.height))
  else .ok ()

def failedStep (step : WriteStep) (path : String) (number : Errno) : Failure :=
  .write step path (.system number)

/-- The steps around the copy of the pixels into a mapping of the file. Only the system makes one of
them fail, whatever the tree is. -/
inductive LateStep where
  | map
  | sync
  | unmap
  | close
  deriving DecidableEq, Repr

def LateStep.writeStep : LateStep → WriteStep
  | map => .map
  | sync => .sync
  | unmap => .unmap
  | close => .close

structure LateFault where
  step : LateStep
  number : Errno
  deriving DecidableEq, Repr

/-- Copies the pixels into an open file of the final length. Without a mapping nothing is copied; after
it the pixels stay, whatever fails. -/
def copyPixels (sized : Tree) (handle : Tree.Handle) (path : String) (g : Graymap)
    (late? : Option LateFault) : Tree × Except Failure Unit :=
  let filled :=
    sized.overwrite handle (headerBytes g.width g.height).length g.pixels.toList
  match late? with
  | none => (filled, .ok ())
  | some fault =>
    (if fault.step = .map then sized else filled,
      .error (failedStep fault.step.writeStep path fault.number))

/-- Writes an image to a path; `late?` is the first late step that fails, if one does. -/
def save (t : Tree) (path : String) (g : Graymap) (late? : Option LateFault := none) :
    Tree × Except Failure Unit :=
  match g.check with
  | .error f => (t, .error f)
  | .ok () =>
    let header := headerBytes g.width g.height
    match t.openEmpty path with
    | .error e => (t, .error (failedStep .openFile path e))
    | .ok (opened, handle) =>
      match opened.append handle header with
      | .error e => (opened, .error (failedStep .writeHeader path e))
      | .ok started =>
        match started.resize handle (header.length + g.pixels.size) with
        | .error e => (started, .error (failedStep .resize path e))
        | .ok sized => copyPixels sized handle path g late?

end Graymap

end EscapeTime
