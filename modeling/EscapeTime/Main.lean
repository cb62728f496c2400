import EscapeTime.Command.Run

/-!
# The program

Runs the command on the real file system. There is no mapping of files here, so the pixels are written
like the header, and their failure counts as that of bringing them to the file.
-/

namespace EscapeTime

namespace Command

def reasonOf (e : IO.Error) : Failure :=
  let number : UInt32 :=
    match e with
    | .noFileOrDirectory _ n _ | .invalidArgument _ n _ | .permissionDenied _ n _
    | .resourceExhausted _ n _ | .inappropriateType _ n _ | .noSuchThing _ n _ => n
    | _ => 0
  match Errno.numbered? number.toNat with
  | some reason => .system reason
  | none => .text (toString e)

def writeAll (handle : IO.FS.Handle) (bytes : List UInt8) : IO Unit := do
  handle.write (ByteArray.mk bytes.toArray)
  handle.flush

def attempt {α : Type} (step : WriteStep) (path : String) (action : IO α) :
    ExceptT Failure BaseIO α := do
  match ← action.toBaseIO with
  | .error e => throw (.write step path (reasonOf e))
  | .ok a => return a

/-- Writes an image to a file. The pixels go to the end of the header, where the file is cut. -/
def saveFile (path : String) (image : Graymap) : ExceptT Failure BaseIO Unit := do
  match image.check with
  | .error f => throw f
  | .ok () =>
    let handle ← attempt .openFile path (IO.FS.Handle.mk path .write)
    attempt .writeHeader path (writeAll handle (Graymap.headerBytes image.width image.height))
    attempt .resize path handle.truncate
    attempt .sync path (writeAll handle image.pixels.toList)

def renderFile (r : Renderer) (request : Request) : BaseIO (Logged Report) := do
  let drawn := r.draw request.budget request.rows
  match drawn.outcome with
  | .error a => return ⟨.error a, drawn.events⟩
  | .ok raster =>
    let saved ← (saveFile request.path (.ofRaster raster)).run
    let finished := Renderer.conclude request.path raster saved
    return ⟨finished.outcome, drawn.events ++ finished.events⟩

/-- The processors that are counted on where none can be asked for. -/
def processors : Processors := ⟨4, by decide⟩

def runFile (host : Host) (arguments : List String) : BaseIO (Except Crash Outcome) := do
  match readJob arguments with
  | .error outcome => return .ok outcome
  | .ok job =>
    match Renderer.start host.processors job.settings with
    | .error c => return .error c
    | .ok r => return job.conclude host (← renderFile r job.request)

end Command

end EscapeTime

def main (arguments : List String) : IO UInt32 := do
  match ← EscapeTime.Command.runFile (.english EscapeTime.Command.processors) arguments with
  | .error c =>
    IO.eprintln ("panic: " ++ c.message)
    return EscapeTime.Command.exitUsage.toUInt32
  | .ok outcome =>
    IO.print outcome.stdout
    IO.eprint outcome.stderr
    return outcome.code.toUInt32
