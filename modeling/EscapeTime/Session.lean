import EscapeTime.Graymap.Reader
import EscapeTime.Renderer

/-!
# Sessions and workshops

A session works with one renderer at a time, a shared logger, grids and images kept under names, and
a file tree. Each step changes the session and gives a reply, and the events it caused are kept or
dropped by the logger in charge at that moment. In a workshop there is a renderer at each bench, and
steps are taken at one bench after the other; all else belongs to the workshop.
-/

namespace EscapeTime

structure Session where
  processors : Processors
  tree : Tree
  logger : Logger := .silent
  renderer : Option Renderer := none
  grids : List (String × Grid) := []
  images : List (String × Raster) := []

namespace Session

inductive Step where
  /-- Closes the renderer and puts a new one in its place. -/
  | start (settings : Settings)
  | close
  | setLogger (logger : Logger)
  | compute (rows budget : Int64) (name : String)
  | newGrid (rows cols : Int64) (counts : List Int64) (name : String)
  | cell (grid : String) (row col : Int64)
  | shade (grid : String) (budget : Int64) (name : String)
  | release (image : String)
  | write (image path : String) (late? : Option Graymap.LateFault)
  | render (path : String) (budget rows : Int64) (late? : Option Graymap.LateFault)
  /-- Renders with a renderer that lives for this step only. -/
  | renderOnce (settings : Settings) (path : String) (budget rows : Int64)
      (late? : Option Graymap.LateFault)
  | decode (path : String) (maxPixels : Int64) (name : String)

inductive Reply where
  | started (workers : Int64) (viewport : Viewport)
  | workers (n : Int64)
  | done
  | grid (g : Grid)
  | count (n : Int)
  | raster (r : Raster)
  | report (r : Report)
  | noRenderer
  | noGrid
  | noImage
  | noFile
  | aborted (a : Abort)

/-- The state after a step, its reply and the events it logged. -/
structure Result where
  session : Session
  reply : Reply
  log : List Event := []

def loggerOf (s : Session) (r : Renderer) : Logger := r.loggerOr s.logger

/-- Carries out a step that needs a renderer. Without one the step is still refused for what is
wrong with its arguments. -/
def withRenderer {α : Type} (s : Session) (arguments : Except Failure α) (f : Renderer → Result) :
    Result :=
  match s.renderer, arguments with
  | some r, _ => f r
  | none, .error failure => ⟨s, .aborted (.failure failure), []⟩
  | none, .ok _ => ⟨s, .noRenderer, []⟩

def withStarted (s : Session) (started : Except Crash Renderer) (f : Renderer → Result) : Result :=
  match started with
  | .error c => ⟨s, .aborted (.crash c), []⟩
  | .ok r => f r

def renderWith (s : Session) (r : Renderer) (path : String) (budget rows : Int64)
    (late? : Option Graymap.LateFault) : Result :=
  let (tree, finished) := r.render s.tree path budget rows late?
  let reply :=
    match finished.outcome with
    | .error a => Reply.aborted a
    | .ok report => .report report
  ⟨{ s with tree := tree }, reply, (s.loggerOf r).kept finished.events⟩

def perform (s : Session) : Step → Result
  | .start settings =>
    let closed := { s with renderer := s.renderer.map Renderer.close }
    closed.withStarted (Renderer.start s.processors settings) fun r =>
    ⟨{ s with renderer := some r }, .started r.pool.workers r.settings.viewport, []⟩
  | .close => s.withRenderer (.ok ()) fun r =>
    ⟨{ s with renderer := some r.close }, .workers r.pool.workers, []⟩
  | .setLogger logger => ⟨{ s with logger := logger }, .done, []⟩
  | .compute rows budget name => s.withRenderer (Renderer.checkBudget budget) fun r =>
    let computed := r.compute rows budget
    let log := (s.loggerOf r).kept computed.events
    match computed.outcome with
    | .error a => ⟨s, .aborted a, log⟩
    | .ok g => ⟨{ s with grids := (name, g) :: s.grids }, .grid g, log⟩
  | .newGrid rows cols counts name =>
    match Grid.new rows cols 0 with
    | .error f => ⟨s, .aborted (.failure f), []⟩
    | .ok blank =>
      let g := blank.copyFrom 0 counts
      ⟨{ s with grids := (name, g) :: s.grids }, .grid g, []⟩
  | .cell grid row col =>
    match s.grids.lookup grid with
    | none => ⟨s, .noGrid, []⟩
    | some g =>
      match g.countAt row col with
      | .error c => ⟨s, .aborted (.crash c), []⟩
      | .ok n => ⟨s, .count n, []⟩
  | .shade grid budget name =>
    let grid? := s.grids.lookup grid
    s.withRenderer (Renderer.checkShade grid? budget) fun r =>
    let shaded := r.shade grid? budget
    let log := (s.loggerOf r).kept shaded.events
    match shaded.outcome with
    | .error a => ⟨s, .aborted a, log⟩
    | .ok raster => ⟨{ s with images := (name, raster) :: s.images }, .raster raster, log⟩
  | .release image =>
    match Raster.release (s.images.lookup image) with
    | .error f => ⟨s, .aborted (.failure f), []⟩
    | .ok released => ⟨{ s with images := (image, released) :: s.images }, .done, []⟩
  | .write image path late? =>
    match s.images.lookup image with
    | none => ⟨s, .noImage, []⟩
    | some raster =>
      let (tree, saved) := Graymap.save s.tree path (.ofRaster raster) late?
      let reply :=
        match saved with
        | .error f => Reply.aborted (.failure f)
        | .ok () => .done
      ⟨{ s with tree := tree }, reply, []⟩
  | .render path budget rows late? =>
    s.withRenderer (Renderer.checkBudget budget) fun r => s.renderWith r path budget rows late?
  | .renderOnce settings path budget rows late? =>
    s.withStarted (Renderer.start s.processors settings) fun r =>
    s.renderWith r path budget rows late?
  | .decode path maxPixels name =>
    match s.tree.read? path with
    | none => ⟨s, .noFile, []⟩
    | some bytes =>
      match Graymap.decode bytes maxPixels with
      | .error f => ⟨s, .aborted (.failure f), []⟩
      | .ok raster => ⟨{ s with images := (name, raster) :: s.images }, .raster raster, []⟩

end Session

structure Workshop where
  /-- What the benches have in common. -/
  session : Session
  renderers : Nat → Option Renderer := fun _ => none

namespace Workshop

/-- The session as it is seen from a bench. -/
def seenFrom (w : Workshop) (bench : Nat) : Session :=
  { w.session with renderer := w.renderers bench }

def perform (w : Workshop) (bench : Nat) (step : Session.Step) : Session.Result :=
  (w.seenFrom bench).perform step

/-- The workshop once a step at a bench had a result. -/
def keep (w : Workshop) (bench : Nat) (result : Session.Result) : Workshop where
  session := result.session
  renderers other := if other = bench then result.session.renderer else w.renderers other

/-- The workshop after a step at a bench. -/
def next (w : Workshop) (bench : Nat) (step : Session.Step) : Workshop :=
  w.keep bench (w.perform bench step)

/-- The workshop after a history of steps, each at a bench. -/
def after (w : Workshop) (history : List (Nat × Session.Step)) : Workshop :=
  history.foldl (fun w entry => w.next entry.1 entry.2) w

end Workshop

end EscapeTime
