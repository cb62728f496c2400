import EscapeTime.Proofs.FailureKinds
import EscapeTime.Proofs.Shading

/-!
# What a renderer reports

The records of a stage are decided by how it ends. A render that ends early has reported nothing unless it
was the write that failed, since a grid that was computed is always shaded; and a raster that goes out of
use still has its buffer, so its release is never complained about.
-/

namespace EscapeTime.Proofs

/-- A record as a logger gets it. -/
structure Record where
  level : Level
  message : String
  fields : List (String × LogValue)
  deriving DecidableEq, Repr

def Record.ofEvent (e : Event) : Record := ⟨e.level, e.message, e.fields⟩

def gridRecord (r : Renderer) (budget : Int64) (rows cols : Int) : Record :=
  ⟨.debug, "escape grid computed", [("rows", .int rows), ("cols", .int cols),
    ("max_iter", .int budget.toInt), ("workers", .int r.pool.workers.toInt)]⟩

def rasterRecord (width height : Int) : Record :=
  ⟨.debug, "raster shaded", [("width", .int width), ("height", .int height)]⟩

/-- The records of a grid computed and shaded. -/
def drawRecords (r : Renderer) (budget : Int64) (rows cols : Int) : List Record :=
  [gridRecord r budget rows cols, rasterRecord cols rows]

/-- The records of a render that ended with a report. -/
def reportRecords (r : Renderer) (budget : Int64) (report : Report) : List Record :=
  drawRecords r budget report.height report.width ++
    [⟨.debug, "image written", [("path", .text report.path), ("bytes", .int report.bytes.toInt)]⟩,
      ⟨.info, "render finished", [("path", .text report.path), ("width", .int report.width),
        ("height", .int report.height)]⟩]

/-- The records of a render that was aborted: it had drawn its raster if it was the write that failed. -/
def abortRecords (r : Renderer) (budget rows : Int64) : Abort → List Record
  | .failure f =>
    if f.hasKind .inputOutput then
      drawRecords r budget rows.toInt (r.settings.viewport.columns rows).toInt
    else []
  | .crash _ => []

/-- What a renderer reports, by how its stages end. -/
structure ReportsOutcome (r : Renderer) : Prop where
  compute_ok : ∀ rows budget grid, (r.compute rows budget).outcome = .ok grid →
    (r.compute rows budget).events.map .ofEvent = [gridRecord r budget grid.rows grid.cols]
  compute_error : ∀ rows budget a, (r.compute rows budget).outcome = .error a →
    (r.compute rows budget).events = []
  shade_ok : ∀ grid? budget raster, (r.shade grid? budget).outcome = .ok raster →
    (r.shade grid? budget).events.map .ofEvent = [rasterRecord raster.width raster.height]
  shade_error : ∀ grid? budget a, (r.shade grid? budget).outcome = .error a →
    (r.shade grid? budget).events = []
  render_ok : ∀ t path budget rows late? report,
    (r.render t path budget rows late?).2.outcome = .ok report →
    (r.render t path budget rows late?).2.events.map .ofEvent = reportRecords r budget report
  render_error : ∀ t path budget rows late? a,
    (r.render t path budget rows late?).2.outcome = .error a →
    (r.render t path budget rows late?).2.events.map .ofEvent = abortRecords r budget rows a
  no_warning : ∀ t path budget rows late?, ∀ e ∈ (r.render t path budget rows late?).2.events,
    e.level ≠ .warn ∧ e.message ≠ "release raster"

lemma compute_events_of_ok {r : Renderer} {rows budget : Int64} {grid : Grid}
    (h : (r.compute rows budget).outcome = .ok grid) :
    (r.compute rows budget).events.map .ofEvent = [gridRecord r budget grid.rows grid.cols] := by
  rw [compute_outcome] at h
  obtain ⟨-, htworows, htwocols, hrows, hcols, -⟩ := countGrid_eq_ok h
  have hrows' : (grid.rows : Int) = rows.toInt := by omega
  have hcols' : (grid.cols : Int) = (r.settings.viewport.columns rows).toInt := by omega
  unfold Renderer.compute
  rw [h, hrows', hcols']
  rfl

lemma compute_events_of_error {r : Renderer} {rows budget : Int64} {a : Abort}
    (h : (r.compute rows budget).outcome = .error a) : (r.compute rows budget).events = [] := by
  rw [compute_outcome] at h
  unfold Renderer.compute
  rw [h]

lemma shade_events_of_ok {r : Renderer} {grid? : Option Grid} {budget : Int64} {raster : Raster}
    (h : (r.shade grid? budget).outcome = .ok raster) :
    (r.shade grid? budget).events.map .ofEvent = [rasterRecord raster.width raster.height] := by
  rw [shade_outcome] at h
  unfold Renderer.shade
  rw [h]
  rfl

lemma shade_events_of_error {r : Renderer} {grid? : Option Grid} {budget : Int64} {a : Abort}
    (h : (r.shade grid? budget).outcome = .error a) : (r.shade grid? budget).events = [] := by
  rw [shade_outcome] at h
  unfold Renderer.shade
  rw [h]

lemma countGrid_budget {r : Renderer} {rows budget : Int64} {grid : Grid}
    (h : r.countGrid rows budget = .ok grid) : 0 ≤ budget.toInt := by
  rcases countGrid_ends r rows budget with ⟨lattice, blank, hprepared⟩ | ⟨f, hf, -⟩
  · exact (checkBudget_eq_ok hprepared.budget_eq).1
  · rw [hf] at h
    cases h

/-- A drawing that fails has failed to compute, as what is computed can be shaded; so it reports nothing. -/
lemma draw_events_of_error {r : Renderer} {budget rows : Int64} {a : Abort}
    (h : (r.draw budget rows).outcome = .error a) : (r.draw budget rows).events = [] := by
  unfold Renderer.draw at h ⊢
  dsimp only at h ⊢
  cases hcompute : (r.compute rows budget).outcome with
  | error b => exact compute_events_of_error hcompute
  | ok grid =>
    rw [hcompute] at h
    rw [compute_outcome] at hcompute
    have hsettled := countGrid_settled hcompute
    obtain ⟨raster, hraster⟩ := (shade_of_settled hsettled r rfl rfl (countGrid_budget hcompute)).1
      hsettled.is_open
    rw [hraster] at h
    cases h

lemma draw_not_inputOutput {r : Renderer} {budget rows : Int64} {f : Failure}
    (h : (r.draw budget rows).outcome = .error (.failure f)) : f.hasKind .inputOutput = false := by
  rcases draw_failure h with ⟨base, hbase, hblames⟩ | ⟨rfl, -⟩
  · have hother : ∀ kind ∈ refusalKinds, kind.countsAs .inputOutput = false := by decide
    rw [hblames.hasKind_eq]
    exact hother base hbase
  · rfl

lemma draw_events_of_ok {r : Renderer} {budget rows : Int64} {raster : Raster}
    (h : (r.draw budget rows).outcome = .ok raster) :
    (r.draw budget rows).events.map .ofEvent = drawRecords r budget raster.height raster.width := by
  unfold Renderer.draw at h ⊢
  dsimp only at h ⊢
  cases hcompute : (r.compute rows budget).outcome with
  | error a => rw [hcompute] at h; cases h
  | ok grid =>
    rw [hcompute] at h
    have hshows := shade_showsGrid h
    dsimp only
    rw [List.map_append, compute_events_of_ok hcompute, shade_events_of_ok h, hshows.width_eq,
      hshows.height_eq]
    rfl

/-- A raster that was drawn has its buffer, so there is nothing to say when it goes out of use. -/
lemma discard_drawn {r : Renderer} {budget rows : Int64} {raster : Raster}
    (h : (r.draw budget rows).outcome = .ok raster) : Renderer.discard raster = [] := by
  obtain ⟨-, -, -, -, -, pixels, -, hpixels, -⟩ := draw_eq_ok h
  unfold Renderer.discard Raster.release
  dsimp only
  rw [hpixels]

lemma render_events_of_ok {r : Renderer} {t : Tree} {path : String} {budget rows : Int64}
    {late? : Option Graymap.LateFault} {report : Report}
    (h : (r.render t path budget rows late?).2.outcome = .ok report) :
    (r.render t path budget rows late?).2.events.map .ofEvent = reportRecords r budget report := by
  unfold Renderer.render at h ⊢
  dsimp only at h ⊢
  cases hdraw : (r.draw budget rows).outcome with
  | error a => rw [hdraw] at h; cases h
  | ok raster =>
    rw [hdraw] at h
    dsimp only at h ⊢
    cases hsave : (Graymap.save t path (.ofRaster raster) late?).2 with
    | error f => rw [hsave] at h; cases h
    | ok _ =>
      rw [hsave] at h
      cases h
      rw [List.map_append, draw_events_of_ok hdraw, Renderer.conclude, discard_drawn hdraw]
      rfl

lemma render_events_of_error {r : Renderer} {t : Tree} {path : String} {budget rows : Int64}
    {late? : Option Graymap.LateFault} {a : Abort}
    (h : (r.render t path budget rows late?).2.outcome = .error a) :
    (r.render t path budget rows late?).2.events.map .ofEvent = abortRecords r budget rows a := by
  unfold Renderer.render at h ⊢
  dsimp only at h ⊢
  cases hdraw : (r.draw budget rows).outcome with
  | error b =>
    rw [hdraw] at h
    cases Except.error.inj h
    dsimp only
    rw [draw_events_of_error hdraw]
    cases a with
    | crash c => rfl
    | failure f =>
      rw [abortRecords, draw_not_inputOutput hdraw]
      rfl
  | ok raster =>
    rw [hdraw] at h
    dsimp only at h ⊢
    obtain ⟨htworows, htwocols, hwidth, hheight, -, pixels, -, hpixels, -⟩ := draw_eq_ok hdraw
    have hcheck := check_of_isImage (isImage_ofRaster hpixels).1
    cases hsave : (Graymap.save t path (.ofRaster raster) late?).2 with
    | ok _ => rw [hsave] at h; cases h
    | error f =>
      rw [hsave] at h
      cases h
      rcases save_eq_error hsave with ⟨hrefused, -⟩ | ⟨-, step, number, rfl⟩
      · rw [hcheck] at hrefused
        cases hrefused
      · have hrows : (raster.height : Int) = rows.toInt := by omega
        have hcols : (raster.width : Int) = (r.settings.viewport.columns rows).toInt := by omega
        rw [List.map_append, draw_events_of_ok hdraw, Renderer.conclude, discard_drawn hdraw, hrows,
          hcols]
        rfl

/-- Neither what a render logs at its end nor what it logs on its way is a warning. -/
lemma no_warning_of_records {r : Renderer} {budget : Int64} :
    (∀ report, ∀ record ∈ reportRecords r budget report,
      record.level ≠ .warn ∧ record.message ≠ "release raster") ∧
    ∀ rows a, ∀ record ∈ abortRecords r budget rows a,
      record.level ≠ .warn ∧ record.message ≠ "release raster" := by
  have hdraw : ∀ rows cols, ∀ record ∈ drawRecords r budget rows cols,
      record.level ≠ .warn ∧ record.message ≠ "release raster" := by
    intro rows cols
    simp only [drawRecords, gridRecord, rasterRecord, List.forall_mem_cons]
    exact ⟨⟨by decide, by decide⟩, ⟨by decide, by decide⟩, by simp⟩
  constructor
  · intro report
    simp only [reportRecords, List.forall_mem_append, List.forall_mem_cons]
    exact ⟨hdraw _ _, ⟨by decide, by decide⟩, ⟨by decide, by decide⟩, by simp⟩
  · intro rows a
    unfold abortRecords
    cases a with
    | crash c => simp
    | failure f =>
      dsimp only
      split
      · exact hdraw _ _
      · simp

lemma render_no_warning (r : Renderer) (t : Tree) (path : String) (budget rows : Int64)
    (late? : Option Graymap.LateFault) :
    ∀ e ∈ (r.render t path budget rows late?).2.events,
      e.level ≠ .warn ∧ e.message ≠ "release raster" := by
  intro e he
  have hrecord : Record.ofEvent e ∈ (r.render t path budget rows late?).2.events.map .ofEvent :=
    List.mem_map_of_mem he
  cases hrender : (r.render t path budget rows late?).2.outcome with
  | error a =>
    rw [render_events_of_error hrender] at hrecord
    exact no_warning_of_records.2 rows a _ hrecord
  | ok report =>
    rw [render_events_of_ok hrender] at hrecord
    exact no_warning_of_records.1 report _ hrecord

theorem reportsOutcome (r : Renderer) : ReportsOutcome r :=
  ⟨fun _ _ _ => compute_events_of_ok, fun _ _ _ => compute_events_of_error,
    fun _ _ _ => shade_events_of_ok, fun _ _ _ => shade_events_of_error,
    fun _ _ _ _ _ _ => render_events_of_ok, fun _ _ _ _ _ _ => render_events_of_error,
    render_no_warning r⟩

end EscapeTime.Proofs
