import EscapeTime.Proofs.Allocation
import EscapeTime.Proofs.RoundTrip

/-!
# Shading what was computed

A raster takes a byte where a grid takes four, under the same cap and for the same number of places, so a
renderer that was able to compute a grid is able to shade it, under any budget, as long as it is open. What
comes back has the gray level of each cell at the pixel of that cell.
-/

namespace EscapeTime.Proofs

/-- What computing a grid has settled: the grid has the sides that were asked for, at which a blank grid
was granted, and its places were cut into ranges that can be counted, and handed out by an open pool. -/
structure Settled (r : Renderer) (rows cols : Int64) (grid : Grid) : Prop where
  rows_eq : rows = Int64.ofNat grid.rows
  cols_eq : cols = Int64.ofNat grid.cols
  granted : ∃ blank, Grid.new rows cols r.settings.maxPixels = .ok blank
  cut : ∃ ranges, Partition.split (Int64.ofNat grid.size) r.settings.chunk r.pool.workers = .ok ranges ∧
    ranges.length < Pool.counterLimit
  is_open : r.pool.closed = false

lemma countGrid_settled {r : Renderer} {rows budget : Int64} {grid : Grid}
    (h : r.countGrid rows budget = .ok grid) :
    Settled r rows (r.settings.viewport.columns rows) grid := by
  obtain ⟨-, htworows, htwocols, hrows, hcols, -⟩ := countGrid_eq_ok h
  rcases countGrid_ends r rows budget with ⟨lattice, blank, hprepared⟩ | ⟨f, hf, -⟩
  · rw [countGrid_of_prepared hprepared] at h
    obtain ⟨ranges, hspread, hfill⟩ := map_eq_ok h
    have hsize : blank.size = grid.size := by
      rw [← hfill, Grid.size, Grid.size, Grid.fill, Range.size_fillAll]
    rw [renderer_spread_eq, hsize] at hspread
    cases hsplit : Partition.split (Int64.ofNat grid.size) r.settings.chunk r.pool.workers with
    | error c => rw [hsplit] at hspread; cases hspread
    | ok cut =>
      rw [hsplit] at hspread
      dsimp only at hspread
      have hopen : r.pool.closed = false := by
        cases hclosed : r.pool.closed with
        | false => rfl
        | true => rw [hclosed] at hspread; cases hspread
      have hcounted : cut.length < Pool.counterLimit := by
        by_contra hmany
        rw [hopen, if_neg Bool.false_ne_true, if_pos (Nat.not_lt.mp hmany)] at hspread
        cases hspread
      exact ⟨eq_ofNat_of_toInt (by omega), eq_ofNat_of_toInt (by omega), ⟨blank, hprepared.blank_eq⟩,
        ⟨cut, hsplit, hcounted⟩, hopen⟩
  · rw [hf] at h
    cases h

lemma new_raster_of_granted {rows cols cap : Int64} {grid : Grid}
    (h : Grid.new rows cols cap = .ok grid) : ∃ black, Raster.new cols rows cap = .ok black := by
  obtain ⟨-, n, hcount, hfit⟩ := (grid_allocates rows cols cap).ok_iff.mp ⟨grid, h⟩
  have hpos := toInt_nonneg_of_pixels hcount
  exact (raster_allocates cols rows cap).ok_iff.mpr ⟨trivial, n, hcount, by omega⟩

lemma checkShade_of_nonneg {grid : Grid} {budget : Int64} (h : 0 ≤ budget.toInt) :
    Renderer.checkShade (some grid) budget = .ok grid := by
  have hneg : ¬budget < 0 := Int64.not_lt.mpr (Int64.le_iff_toInt_le.mpr h)
  exact if_neg hneg

/-- Only the pool can refuse to shade a grid that was computed under the same settings, on as many
workers. -/
lemma shade_of_settled {r : Renderer} {rows cols budget : Int64} {grid : Grid}
    (h : Settled r rows cols grid) (other : Renderer) (hsettings : other.settings = r.settings)
    (hworkers : other.pool.workers = r.pool.workers) (hbudget : 0 ≤ budget.toInt) :
    (other.pool.closed = false → ∃ raster, (other.shade (some grid) budget).outcome = .ok raster) ∧
    (other.pool.closed = true →
      (other.shade (some grid) budget).outcome = .error (.failure (.kind .closed))) := by
  obtain ⟨blank, hblank⟩ := h.granted
  obtain ⟨black, hblack⟩ := new_raster_of_granted hblank
  obtain ⟨ranges, hcut, hcounted⟩ := h.cut
  rw [h.rows_eq, h.cols_eq, ← hsettings] at hblack
  have haccepted : Accepted other (some grid) budget grid black :=
    ⟨checkShade_of_nonneg hbudget, hblack⟩
  rw [shade_outcome, shadeRaster_of_accepted haccepted, renderer_spread_eq, hsettings, hworkers, hcut]
  dsimp only
  constructor
  · intro hopen
    rw [hopen, if_neg Bool.false_ne_true, if_neg (Nat.not_le.mpr hcounted)]
    exact ⟨_, rfl⟩
  · intro hclosed
    rw [hclosed]
    rfl

/-- The raster shows the grid: a column for each column and a row for each row, the pixels there and
accepted by the writer, and each of them the gray level of its cell. -/
structure ShowsGrid (grid : Grid) (budget : Int64) (raster : Raster) : Prop where
  width_eq : raster.width = grid.cols
  height_eq : raster.height = grid.rows
  not_released : Raster.isReleased (some raster) = false
  gray : ∀ row col : Int64, 0 ≤ row.toInt → row.toInt < grid.rows → 0 ≤ col.toInt →
    col.toInt < grid.cols →
    ∃ count, grid.countAt row col = .ok count ∧ raster.grayAt col row = Tone.ofCount count budget.toInt
  accepted : (Graymap.ofRaster raster).check = .ok ()

lemma shade_showsGrid {r : Renderer} {grid : Grid} {budget : Int64} {raster : Raster}
    (h : (r.shade (some grid) budget).outcome = .ok raster) : ShowsGrid grid budget raster := by
  rw [shade_outcome] at h
  obtain ⟨hwidth, hheight, pixels, hpixels, hgray⟩ := shadeRaster_eq_ok h
  refine ⟨hwidth, hheight, ?_, ?_, check_of_isImage (isImage_ofRaster hpixels).1⟩
  · rw [Raster.isReleased, hpixels]
    rfl
  · intro row col hrow hrowlt hcol hcollt
    have hinside : ¬(row.toInt < 0 ∨ grid.rows ≤ row.toInt ∨ col.toInt < 0 ∨
        grid.cols ≤ col.toInt) := by
      omega
    have hcontains : raster.Contains col row := by
      unfold Raster.Contains
      omega
    have hplace : row.toInt.toNat * grid.cols + col.toInt.toNat < grid.rows * grid.cols :=
      place_lt (by omega) (by omega)
    refine ⟨_, by rw [Grid.countAt, if_neg hinside], ?_⟩
    unfold Raster.grayAt Raster.place
    rw [hpixels]
    dsimp only
    rw [if_pos hcontains, hwidth, Array.getD_eq_getD_getElem?, hgray _ hplace, Option.getD_some]
    rfl

lemma perform_shade_grids (s : Session) (grid : String) (budget : Int64) (name : String) :
    (s.perform (.shade grid budget name)).session.grids = s.grids := by
  unfold Session.perform Session.withRenderer
  dsimp only
  split
  · split <;> rfl
  · rfl
  · rfl

/-- A grid that a renderer has computed can be shaded by it under every budget there is, and is refused
only once the renderer is closed. Whatever is shaded, the raster shows the grid, and the grid stays. -/
theorem shading_total_and_pixelwise :
    (∀ (r : Renderer) (rows budget : Int64) (grid : Grid),
      (r.compute rows budget).outcome = .ok grid → ∀ budget' : Int64, 0 ≤ budget'.toInt →
      (∃ raster, (r.shade (some grid) budget').outcome = .ok raster) ∧
      (r.close.shade (some grid) budget').outcome = .error (.failure (.kind .closed))) ∧
    (∀ (r : Renderer) (grid : Grid) (budget : Int64) (raster : Raster),
      (r.shade (some grid) budget).outcome = .ok raster → ShowsGrid grid budget raster) ∧
    ∀ (s : Session) (grid : String) (budget : Int64) (name : String),
      (s.perform (.shade grid budget name)).session.grids = s.grids := by
  refine ⟨?_, fun r grid budget raster => shade_showsGrid, perform_shade_grids⟩
  intro r rows budget grid h budget' hbudget'
  rw [compute_outcome] at h
  have hsettled := countGrid_settled h
  exact ⟨(shade_of_settled hsettled r rfl rfl hbudget').1 hsettled.is_open,
    (shade_of_settled hsettled r.close rfl rfl hbudget').2 rfl⟩

/-- Six samples under a cap of six, and a chunk that brings their sum to the largest machine integer: the
grid is shaded under the largest budget there is, and refused once the renderer is closed. -/
theorem shading_total_and_pixelwise_six_samples :
    let r : Renderer :=
      ⟨{ chunk := 9223372036854775802, maxPixels := 6 }, ⟨4, false, by decide, by decide⟩⟩
    let grid : Grid := ⟨2, 3, #[1, 4, 2, 1, 4, 2], by decide, by decide, by decide, by decide⟩
    (r.compute 2 5).outcome = .ok grid ∧
      (∃ raster, (r.shade (some grid) 9223372036854775807).outcome = .ok raster ∧
        ShowsGrid grid 9223372036854775807 raster) ∧
      (r.close.shade (some grid) 9223372036854775807).outcome = .error (.failure (.kind .closed)) := by
  intro r grid
  have hgrid : (r.compute 2 5).outcome = .ok grid := by decide +kernel
  obtain ⟨htotal, hpixelwise, -⟩ := shading_total_and_pixelwise
  obtain ⟨⟨raster, hraster⟩, hclosed⟩ := htotal r 2 5 grid hgrid 9223372036854775807 (by decide)
  exact ⟨hgrid, ⟨raster, hraster, hpixelwise r grid _ raster hraster⟩, hclosed⟩

end EscapeTime.Proofs
