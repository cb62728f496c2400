import EscapeTime.Command.Flags
import EscapeTime.Renderer

/-!
# Running the command

The arguments are read into a job, or refused with an exit code and a message: after the flags come
a file name, an iteration budget and a number of rows. A job is rendered and its end reported.
-/

namespace EscapeTime

namespace Command

structure Request where
  path : String
  budget : Int64
  rows : Int64
  deriving DecidableEq, Repr

def extension : String := ".pgm"

def fileName (name : String) : String :=
  if extension.toList.isSuffixOf name.toList then name else name ++ extension

/-- An argument that has to be a number of at least zero. -/
def naturalArgument (argument value : String) : Except Failure Int64 :=
  match Numeral.read? value.toList with
  | none => .error (.cause (.notInteger argument value))
  | some n => if n < 0 then .error (.cause (.negativeNumber argument n)) else .ok n

def readRequest : List String → Except Failure Request
  | [name, iterations, rows] =>
    if name.isEmpty then .error (.cause .emptyFileName)
    else do
      let budget ← naturalArgument "max-iterations" iterations
      let rows ← naturalArgument "rows" rows
      return ⟨fileName name, budget, rows⟩
  | arguments => .error (.cause (.argumentCount arguments.length))

/-- The part of the work that a failure belongs to. -/
def stage (f : Failure) : String :=
  if f.hasKind .usage || f.hasKind .invalidInput then "argument validation"
  else if f.hasKind .outOfMemory then "allocation"
  else
    match f.writeFault? with
    | some fault => "write (" ++ fault.step.label ++ ")"
    | none => "render"

/-- What the command leaves behind: an exit code and two texts. -/
structure Outcome where
  code : Nat
  stdout : String
  stderr : String
  deriving DecidableEq, Repr

def exitOk : Nat := 0
def exitFail : Nat := 1
def exitUsage : Nat := 2

def usage : String :=
  "usage: mandelpgm [-workers N] [-max-pixels N] [-v] <file> <max-iterations> <rows>\n" ++
  "  -max-pixels int\n" ++
  "    \trefuse images with more pixels than this (0 = no cap)\n" ++
  "  -v\tlog pipeline stages to stderr\n" ++
  "  -workers int\n" ++
  "    \tnumber of render workers (0 = GOMAXPROCS)\n"

def complaint (f : Failure) : String := "mandelpgm: " ++ stage f ++ ": " ++ f.message ++ "\n"

structure Job where
  options : Options
  request : Request
  deriving DecidableEq, Repr

def readJob (arguments : List String) : Except Outcome Job :=
  match readFlags {} arguments with
  | .error fault => .error ⟨exitUsage, "", fault.message ++ usage⟩
  | .ok (options, positional) =>
    match readRequest positional with
    | .error f =>
      if f.hasKind .usage then .error ⟨exitUsage, "", complaint f ++ usage⟩
      else .error ⟨exitFail, "", complaint f⟩
    | .ok request => .ok ⟨options, request⟩

/-- What the renderer for a job is set up with. A verbose one logs everything. -/
def Job.settings (job : Job) : Settings where
  workers := job.options.workers
  maxPixels := job.options.maxPixels
  logger := if job.options.verbose then some (.keeping .debug) else none

/-- What the command takes from outside: the processors, and how a report is put into words. -/
structure Host where
  processors : Processors
  confirmation : Report → String
  confirmation_ne_empty : ∀ report, confirmation report ≠ ""

def Job.conclude (job : Job) (host : Host) (finished : Logged Report) : Except Crash Outcome :=
  let events := (job.settings.logger.getD .silent).kept finished.events
  let log := String.join (events.map Event.line)
  match finished.outcome with
  | .ok report => .ok ⟨exitOk, host.confirmation report, log⟩
  | .error (.failure f) => .ok ⟨exitFail, "", log ++ complaint f⟩
  | .error (.crash c) => .error c

def run (host : Host) (arguments : List String) (t : Tree) : Tree × Except Crash Outcome :=
  match readJob arguments with
  | .error outcome => (t, .ok outcome)
  | .ok job =>
    match Renderer.start host.processors job.settings with
    | .error c => (t, .error c)
    | .ok r =>
      let (t, finished) := r.render t job.request.path job.request.budget job.request.rows
      (t, job.conclude host finished)

/-- In words of English, with commas between groups of three digits. -/
def Host.english (processors : Processors) : Host where
  processors := processors
  confirmation report :=
    "wrote " ++ report.path ++ ": " ++ Numeral.grouped report.width ++ "×" ++
      Numeral.grouped report.height ++ " pixels, " ++ Numeral.grouped report.bytes.toInt ++
      " bytes\n"
  confirmation_ne_empty _ h := absurd (String.append_eq_empty_iff.mp h).2 (by decide)

end Command

end EscapeTime
