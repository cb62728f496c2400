import EscapeTime.Graymap.Writer
import EscapeTime.Image.Grid
import EscapeTime.Image.Raster
import EscapeTime.Log
import EscapeTime.Work.Pool

/-!
# Renderers

A renderer computes the escape counts of a lattice, shades them to gray and writes the raster as a
graymap. Each stage reports an event when it has succeeded. A renderer is set up by choices that are
made one after the other, so that a later one takes the place of an earlier one of its kind.
-/

namespace EscapeTime

/-- What a renderer is set up with. Zero or less leaves the number of workers, the chunk and the
pixel cap open. -/
structure Settings where
  workers : Int64 := 0
  chunk : Int64 := 0
  maxPixels : Int64 := 0
  viewport : Viewport := .standard
  logger : Option Logger := none
  deriving DecidableEq, Repr

/-- The end of a stage and what was reported up to it. -/
structure Logged (α : Type) where
  outcome : Except Abort α
  events : List Event

structure Report where
  path : String
  width : Nat
  height : Nat
  bytes : Int64
  deriving DecidableEq, Repr

structure Renderer where
  settings : Settings
  pool : Pool
  deriving DecidableEq, Repr

namespace Renderer

def start (processors : Processors) (settings : Settings) : Except Crash Renderer :=
  (Pool.start processors settings.workers).map fun pool => ⟨settings, pool⟩

def close (r : Renderer) : Renderer := { r with pool := r.pool.close }

/-- The largest budget: counts are kept in 32 bits. -/
def maxBudget : Int64 := 2147483647

def fallible {α : Type} (x : Except Failure α) : Except Abort α := x.mapError .failure

/-- Hands out `n` places to the workers. A closed pool makes a closed renderer. -/
def spread (r : Renderer) (n : Nat) : Except Abort (List Range) :=
  (r.pool.spread (Int64.ofNat n) r.settings.chunk).mapError fun
    | .failure f => .failure (if f.hasKind .poolClosed then .kind .closed else f)
    | .crash c => .crash c

def countAtPlace (lattice : Lattice) (cols : Nat) (budget : Int64) (k : Nat) : Int32 :=
  Int32.ofNat (escapeCount (lattice.point (k / cols : Nat) (k % cols : Nat)) budget)

/-- Refuses a budget that counts cannot reach. -/
def checkBudget (budget : Int64) : Except Failure Unit :=
  if budget < 0 ∨ maxBudget < budget then .error (.cause (.budget budget)) else .ok ()

def countGrid (r : Renderer) (rows budget : Int64) : Except Abort Grid := do
  fallible (checkBudget budget)
  let viewport := r.settings.viewport
  fallible viewport.check
  let cols := viewport.columns rows
  let lattice ← fallible (Lattice.ofViewport viewport rows cols)
  let grid ← fallible
    ((Grid.new rows cols r.settings.maxPixels).mapError (.within "mandel: allocate grid"))
  let ranges ← r.spread grid.size
  return grid.fill ranges (countAtPlace lattice grid.cols budget)

def compute (r : Renderer) (rows budget : Int64) : Logged Grid :=
  match r.countGrid rows budget with
  | .error a => ⟨.error a, []⟩
  | .ok grid =>
    ⟨.ok grid, [.gridComputed rows (r.settings.viewport.columns rows) budget r.pool.workers]⟩

def grayAtPlace (grid : Grid) (budget : Int64) (k : Nat) : UInt8 :=
  Tone.ofCount (grid.counts.getD k 0).toInt budget.toInt

/-- The grid to shade. A negative budget is refused, and so is a grid that is not there. -/
def checkShade (grid? : Option Grid) (budget : Int64) : Except Failure Grid :=
  if budget < 0 then .error (.cause (.budget budget))
  else
    match grid? with
    | none => .error (.kind .dimension)
    | some grid => .ok grid

/-- The raster of a grid: a column for each column and a row for each row. -/
def shadeRaster (r : Renderer) (grid? : Option Grid) (budget : Int64) : Except Abort Raster := do
  let grid ← fallible (checkShade grid? budget)
  let raster ← fallible
    ((Raster.new (Int64.ofNat grid.cols) (Int64.ofNat grid.rows) r.settings.maxPixels).mapError
      (.within "mandel: allocate raster"))
  let ranges ← r.spread (raster.width * raster.height)
  return raster.fill ranges (grayAtPlace grid budget)

def shade (r : Renderer) (grid? : Option Grid) (budget : Int64) : Logged Raster :=
  match r.shadeRaster grid? budget with
  | .error a => ⟨.error a, []⟩
  | .ok raster => ⟨.ok raster, [.rasterShaded raster.width raster.height]⟩

def draw (r : Renderer) (budget rows : Int64) : Logged Raster :=
  let computed := r.compute rows budget
  match computed.outcome with
  | .error a => ⟨.error a, computed.events⟩
  | .ok grid =>
    let shaded := r.shade (some grid) budget
    ⟨shaded.outcome, computed.events ++ shaded.events⟩

/-- What is reported when a raster goes out of use. -/
def discard (raster : Raster) : List Event :=
  match Raster.release (some raster) with
  | .ok _ => []
  | .error f => [.releaseFailed f]

/-- Turns the end of a write into the end of a render. -/
def conclude (path : String) (raster : Raster) (saved : Except Failure Unit) : Logged Report :=
  match saved with
  | .error f => ⟨.error (.failure (.within "mandel: write image" f)), discard raster⟩
  | .ok () =>
    let bytes := Graymap.fileSize (Int64.ofNat raster.width) (Int64.ofNat raster.height)
    ⟨.ok ⟨path, raster.width, raster.height, bytes⟩,
      [.imageWritten path bytes, .renderFinished path raster.width raster.height] ++
        discard raster⟩

def render (r : Renderer) (t : Tree) (path : String) (budget rows : Int64)
    (late? : Option Graymap.LateFault := none) : Tree × Logged Report :=
  let drawn := r.draw budget rows
  match drawn.outcome with
  | .error a => (t, ⟨.error a, drawn.events⟩)
  | .ok raster =>
    let (t, saved) := Graymap.save t path (.ofRaster raster) late?
    let finished := conclude path raster saved
    (t, ⟨finished.outcome, drawn.events ++ finished.events⟩)

/-- The logger for a renderer's events: its own if it has one, else the shared one. -/
def loggerOr (r : Renderer) (shared : Logger) : Logger := r.settings.logger.getD shared

end Renderer

/-- One choice about a renderer. Choosing no logger takes back one that was chosen before. -/
inductive Choice where
  | workers (n : Int64)
  | chunk (n : Int64)
  | maxPixels (n : Int64)
  | viewport (v : Viewport)
  | logger (logger : Option Logger)
  deriving DecidableEq, Repr

namespace Settings

def choose (s : Settings) : Choice → Settings
  | .workers n => { s with workers := n }
  | .chunk n => { s with chunk := n }
  | .maxPixels n => { s with maxPixels := n }
  | .viewport v => { s with viewport := v }
  | .logger logger => { s with logger := logger }

def ofChoices (choices : List Choice) : Settings := choices.foldl choose {}

end Settings

end EscapeTime
