import EscapeTime.Files.Tree
import EscapeTime.Number.Decimal
import EscapeTime.Plane
import EscapeTime.Text.Quoted

/-!
# Failures

A failure has a cause and the contexts it passed through on its way up, and it has every kind that
occurs anywhere in it; kinds are what a caller can tell failures apart by. A failed step of an image
write is kept with its step and path. A misuse is no failure: it stops the computation at once and
has no kind.
-/

namespace EscapeTime

inductive Kind where
  | dimension
  | iterations
  | viewport
  | invalidInput
  | outOfMemory
  | released
  | closed
  | poolClosed
  | rasterDimensions
  | format
  | image
  | usage
  | inputOutput
  deriving DecidableEq, Repr

namespace Kind

/-- Every kind once. -/
def all : List Kind :=
  [dimension, iterations, viewport, invalidInput, outOfMemory, released, closed, poolClosed,
    rasterDimensions, format, image, usage, inputOutput]

/-- The wider kind a kind falls under. -/
def wider? : Kind → Option Kind
  | dimension | iterations | viewport => some invalidInput
  | _ => none

def message : Kind → String
  | dimension => "mandel: invalid input: grid needs at least 2 rows and 2 columns"
  | iterations => "mandel: invalid input: iteration budget out of range"
  | viewport => "mandel: invalid input: empty viewport"
  | invalidInput => "mandel: invalid input"
  | outOfMemory => "raster: out of memory"
  | released => "raster: already released"
  | closed => "mandel: renderer is closed"
  | poolClosed => "parallel: pool is closed"
  | rasterDimensions => "raster: invalid dimensions"
  | format => "pgm: invalid format"
  | image => "pgm: invalid image"
  | usage => "expected <file> <max-iterations> <rows>"
  | inputOutput => "pgm: I/O failure"

/-- A kind counts as itself and as the wider kind it falls under. -/
def countsAs (k target : Kind) : Bool := k = target || k.wider? = some target

end Kind

/-- A misuse that stops the computation. -/
inductive Crash where
  | divideByZero
  | refusedCapacity
  | refusedLength
  | refusedQueue
  | negativeCounter
  | outsideGrid (row col : Int64) (rows cols : Nat)
  | outsideCounts (place : Int64) (length : Nat)
  deriving DecidableEq, Repr

def Crash.message : Crash → String
  | .divideByZero => "runtime error: integer divide by zero"
  | .refusedCapacity => "runtime error: makeslice: cap out of range"
  | .refusedLength => "runtime error: makeslice: len out of range"
  | .refusedQueue => "makechan: size out of range"
  | .negativeCounter => "sync: negative WaitGroup counter"
  | .outsideGrid row col rows cols =>
    "mandel: grid position (" ++ Numeral.text row.toInt ++ ", " ++ Numeral.text col.toInt ++
      ") outside " ++ Numeral.text rows ++ "x" ++ Numeral.text cols
  | .outsideCounts place length =>
    let bound := if place < 0 then "" else " with length " ++ Numeral.text length
    "runtime error: index out of range [" ++ Numeral.text place.toInt ++ "]" ++ bound

inductive Cause where
  | gridShape (rows cols : Int64)
  | budget (iterations : Int64)
  | emptyViewport (v : Viewport)
  | overflow (width height : Int64)
  | overLimit (pixels limit : Int64)
  | negativeLength (length : Int64)
  /-- Memory refused a buffer by a crash that was caught. -/
  | refused (crash : Crash)
  | truncatedHeader
  | magic (token : List UInt8)
  | headerField (token : List UInt8)
  | maxValue (value : Int64)
  | noPixelData
  | shortPixelData
  | emptyImage (width height : Int64)
  | pixelCount (length : Nat) (width height : Int64)
  | argumentCount (count : Nat)
  | emptyFileName
  | notInteger (argument : String) (text : String)
  | negativeNumber (argument : String) (value : Int64)
  deriving DecidableEq, Repr

namespace Cause

def kind : Cause → Kind
  | gridShape .. => .dimension
  | budget .. => .iterations
  | emptyViewport .. => .viewport
  | overflow .. | overLimit .. | negativeLength .. | refused .. => .outOfMemory
  | truncatedHeader | magic .. | headerField .. | maxValue .. | noPixelData | shortPixelData =>
    .format
  | emptyImage .. | pixelCount .. => .image
  | argumentCount .. => .usage
  | emptyFileName | notInteger .. | negativeNumber .. => .invalidInput

/-- A machine integer as text. -/
def int (n : Int64) : String := Numeral.text n.toInt

/-- Two dimensions as text. -/
def shape (width height : Int64) : String := int width ++ "x" ++ int height

/-- An interval as text. -/
def interval (low high : Float) : String :=
  "[" ++ General.text low ++ ", " ++ General.text high ++ "]"

/-- What follows the text of the kind. -/
def detail : Cause → String
  | gridShape rows cols => ": got " ++ int rows ++ " rows, " ++ int cols ++ " columns"
  | budget iterations => ": " ++ int iterations
  | emptyViewport v =>
    ": real " ++ interval v.realMin v.realMax ++ ", imag " ++ interval v.imagMin v.imagMax
  | overflow width height => ": " ++ shape width height ++ " overflows"
  | overLimit pixels limit => ": " ++ int pixels ++ " pixels exceed budget of " ++ int limit
  | negativeLength length => ": negative length " ++ int length
  | refused crash => ": " ++ crash.message
  | truncatedHeader => ": truncated header"
  | magic token => ": magic " ++ Quoted.bytes token
  | headerField token => ": header field " ++ Quoted.bytes token
  | maxValue value => ": max value " ++ int value
  | noPixelData => ": pixel data: EOF"
  | shortPixelData => ": pixel data: unexpected EOF"
  | emptyImage width height => ": " ++ shape width height
  | pixelCount length width height =>
    ": " ++ Numeral.text length ++ " bytes for " ++ shape width height
  | argumentCount count => ", got " ++ Numeral.text count ++ " arguments"
  | emptyFileName => ": empty file name"
  | notInteger argument text => ": " ++ argument ++ " " ++ Quoted.text text ++ " is not an integer"
  | negativeNumber argument value => ": " ++ argument ++ " must be >= 0, got " ++ int value

def message (c : Cause) : String := c.kind.message ++ c.detail

end Cause

structure WriteStep where
  label : String
  deriving DecidableEq, Repr

namespace WriteStep

def openFile : WriteStep := ⟨"open"⟩
def writeHeader : WriteStep := ⟨"write header"⟩
def resize : WriteStep := ⟨"truncate"⟩
def map : WriteStep := ⟨"mmap"⟩
def sync : WriteStep := ⟨"msync"⟩
def unmap : WriteStep := ⟨"munmap"⟩
def close : WriteStep := ⟨"close"⟩

end WriteStep

/-- A tree of causes and contexts. -/
inductive Failure where
  | kind (k : Kind)
  | cause (c : Cause)
  /-- Free text, of no kind. -/
  | text (message : String)
  | system (number : Errno)
  /-- A failure seen from the operation it interrupted. -/
  | within (context : String) (inner : Failure)
  | both (first second : Failure)
  | write (step : WriteStep) (path : String) (reason : Failure)
  | absent
  deriving DecidableEq, Repr

structure WriteFault where
  step : WriteStep
  path : String
  reason : Failure
  deriving DecidableEq, Repr

namespace Failure

def isAbsent : Failure → Bool
  | absent => true
  | _ => false

def message : Failure → String
  | kind k => k.message
  | cause c => c.message
  | text s => s
  | system e => e.message
  | within context inner =>
    context ++ ": " ++ (if inner.isAbsent then "%!w(<nil>)" else inner.message)
  | both first second => first.message ++ "\n" ++ second.message
  | write step path reason => "pgm: " ++ step.label ++ " " ++ path ++ ": " ++ reason.message
  | absent => "<nil>"

/-- Does a kind occur anywhere in the failure? A write fault is an input/output failure and has
the kinds of its reason as well. -/
def hasKind (target : Kind) : Failure → Bool
  | kind k => k.countsAs target
  | cause c => c.kind.countsAs target
  | text _ | system _ | absent => false
  | within _ inner => inner.hasKind target
  | both first second => first.hasKind target || second.hasKind target
  | write _ _ reason => Kind.inputOutput.countsAs target || reason.hasKind target

/-- The kinds of a failure, in their fixed order. -/
def kinds (f : Failure) : List Kind := Kind.all.filter fun k => f.hasKind k

/-- The first write fault, outermost and leftmost first. -/
def writeFault? : Failure → Option WriteFault
  | within _ inner => inner.writeFault?
  | both first second => first.writeFault?.or second.writeFault?
  | write step path reason => some ⟨step, path, reason⟩
  | kind _ | cause _ | text _ | system _ | absent => none

/-- Several failures at once, all of them present. -/
def joinPresent : List Failure → Failure
  | [] => absent
  | [f] => f
  | f :: fs => both f (joinPresent fs)

/-- Several failures at once. Absent ones are left out. -/
def join (fs : List Failure) : Failure := joinPresent (fs.filter fun f => !f.isAbsent)

end Failure

/-- How a computation can end without a result. -/
inductive Abort where
  | failure (f : Failure)
  | crash (c : Crash)
  deriving DecidableEq, Repr

end EscapeTime
