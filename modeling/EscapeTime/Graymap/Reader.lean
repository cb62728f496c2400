import EscapeTime.Graymap.Writer

/-!
# Reading graymaps

The header has four fields: the magic, width, height and greatest gray level. Fields are divided
by blanks and comments, and one blank ends each field, so the pixels start right after the blank
that ends the last one.
-/

namespace EscapeTime

namespace Graymap

def isBlank (b : UInt8) : Bool :=
  b = 0x20 || b = 0x09 || b = 0x0a || b = 0x0d || b = 0x0b || b = 0x0c

/-- Starts a comment where a field could start. -/
def commentMark : UInt8 := 0x23

def lineEnd : UInt8 := 0x0a

/-- Skips blanks and comments; the flag says that a comment is being skipped. -/
def skipGap : (comment : Bool) → List UInt8 → List UInt8
  | _, [] => []
  | true, b :: bs => skipGap (b != lineEnd) bs
  | false, b :: bs =>
    if b = commentMark then skipGap true bs
    else if isBlank b then skipGap false bs
    else b :: bs

/-- Splits a byte string at its first blank, which is dropped. -/
def splitField (bs : List UInt8) : Option (List UInt8 × List UInt8) :=
  match bs.dropWhile (fun b => !isBlank b) with
  | [] => none
  | _ :: rest => some (bs.takeWhile (fun b => !isBlank b), rest)

/-- The next field and what follows the blank that ends it. -/
def field (bs : List UInt8) : Except Failure (List UInt8 × List UInt8) :=
  match splitField (skipGap false bs) with
  | none => .error (.cause .truncatedHeader)
  | some split => .ok split

def wordValue? (word : List UInt8) : Option Int64 :=
  Numeral.read? (word.map fun b => Char.ofNat b.toNat)

def positiveField (bs : List UInt8) : Except Failure (Int64 × List UInt8) :=
  match field bs with
  | .error f => .error f
  | .ok (token, rest) =>
    match wordValue? token with
    | none => .error (.cause (.headerField token))
    | some n => if n ≤ 0 then .error (.cause (.headerField token)) else .ok (n, rest)

def magic : List UInt8 := [0x50, 0x35]

/-- What the header says, and the bytes after it. -/
structure Header where
  width : Int64
  height : Int64
  rest : List UInt8

def readHeader (bs : List UInt8) : Except Failure Header :=
  match field bs with
  | .error f => .error f
  | .ok (token, rest) =>
    if token ≠ magic then .error (.cause (.magic token))
    else
      match positiveField rest with
      | .error f => .error f
      | .ok (width, rest) =>
        match positiveField rest with
        | .error f => .error f
        | .ok (height, rest) =>
          match positiveField rest with
          | .error f => .error f
          | .ok (value, rest) =>
            if value ≠ maxValue then .error (.cause (.maxValue value))
            else .ok ⟨width, height, rest⟩

def takePixels (bs : List UInt8) (length : Nat) :
    Except Failure { p : Array UInt8 // p.size = length } :=
  if h : length ≤ bs.length then
    .ok ⟨(bs.take length).toArray, by simp [h]⟩
  else if bs.isEmpty then .error (.cause .noPixelData)
  else .error (.cause .shortPixelData)

/-- The pixel cap when none is given, `2 ^ 28`. -/
def defaultCap : Int64 := 268435456

/-- Reads an image of at most `maxPixels` pixels; zero or less asks for the default cap. -/
def decode (bs : List UInt8) (maxPixels : Int64) : Except Failure Raster :=
  let cap := if maxPixels ≤ 0 then defaultCap else maxPixels
  match readHeader bs with
  | .error f => .error f
  | .ok header => Raster.build header.width header.height cap (takePixels header.rest)

end Graymap

end EscapeTime
