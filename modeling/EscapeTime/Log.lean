import EscapeTime.Failure

/-!
# Log records

A renderer reports what it has done as events. Each has a level, and a logger keeps those that
reach its own.
-/

namespace EscapeTime

/-- How important a record is; higher ranks matter more. -/
structure Level where
  rank : Int
  deriving DecidableEq, Repr

namespace Level

def debug : Level := ⟨-4⟩
def info : Level := ⟨0⟩
def warn : Level := ⟨4⟩
def error : Level := ⟨8⟩

/-- The name of the nearest named level below, with the distance to it. -/
def name (l : Level) : String :=
  let offset (base : String) (distance : Int) : String :=
    if distance = 0 then base
    else if 0 < distance then base ++ "+" ++ Numeral.text distance
    else base ++ Numeral.text distance
  if l.rank < info.rank then offset "DEBUG" (l.rank - debug.rank)
  else if l.rank < warn.rank then offset "INFO" (l.rank - info.rank)
  else if l.rank < error.rank then offset "WARN" (l.rank - warn.rank)
  else offset "ERROR" (l.rank - error.rank)

end Level

inductive LogValue where
  | int (n : Int)
  | text (s : String)
  deriving DecidableEq, Repr

def LogValue.line : LogValue → String
  | .int n => Numeral.text n
  | .text s => Quoted.value s

inductive Event where
  | gridComputed (rows cols budget workers : Int64)
  | rasterShaded (width height : Nat)
  | imageWritten (path : String) (bytes : Int64)
  | renderFinished (path : String) (width height : Nat)
  | releaseFailed (reason : Failure)
  deriving DecidableEq, Repr

namespace Event

def level : Event → Level
  | gridComputed .. | rasterShaded .. | imageWritten .. => .debug
  | renderFinished .. => .info
  | releaseFailed .. => .warn

def message : Event → String
  | gridComputed .. => "escape grid computed"
  | rasterShaded .. => "raster shaded"
  | imageWritten .. => "image written"
  | renderFinished .. => "render finished"
  | releaseFailed .. => "release raster"

def fields : Event → List (String × LogValue)
  | gridComputed rows cols budget workers =>
    [("rows", .int rows.toInt), ("cols", .int cols.toInt), ("max_iter", .int budget.toInt),
      ("workers", .int workers.toInt)]
  | rasterShaded width height => [("width", .int width), ("height", .int height)]
  | imageWritten path bytes => [("path", .text path), ("bytes", .int bytes.toInt)]
  | renderFinished path width height =>
    [("path", .text path), ("width", .int width), ("height", .int height)]
  | releaseFailed reason => [("err", .text reason.message)]

/-- The record as a line of `key=value` pairs. -/
def line (e : Event) : String :=
  let pairs := ("level", e.level.name) :: ("msg", Quoted.value e.message) ::
    e.fields.map fun f => (f.1, f.2.line)
  " ".intercalate (pairs.map fun p => p.1 ++ "=" ++ p.2) ++ "\n"

end Event

inductive Logger where
  | silent
  /-- Keeps the records that reach a level. -/
  | keeping (least : Level)
  deriving DecidableEq, Repr

namespace Logger

def isEnabled : Logger → Level → Bool
  | silent, _ => false
  | keeping least, l => decide (least.rank ≤ l.rank)

def kept (logger : Logger) (events : List Event) : List Event :=
  events.filter fun e => logger.isEnabled e.level

end Logger

end EscapeTime
