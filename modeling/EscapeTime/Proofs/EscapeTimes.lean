import EscapeTime.Proofs.StageEnds

/-!
# First escapes and nested budgets

The count of a point is the index of the first point of its orbit that has escaped, cut off at the
budget. A smaller budget therefore stops the same run earlier, and the grid that is computed under it is
the grid of any larger budget with each count cut off.
-/

namespace EscapeTime.Proofs
open Orbit

/-- A run along the orbit of `c` that starts at one index, may take `budget` steps and stops at another:
where the orbit has first escaped, or where the budget is used up. -/
structure StopsAt (c : Point) (budget first last : Nat) : Prop where
  first_le : first ≤ last
  last_le : last ≤ first + budget
  inside : ∀ k, first ≤ k → k < last → hasEscaped (point c k) = false
  escaped : last < first + budget → hasEscaped (point c last) = true

/-- The loop counts on from the index it starts at. -/
lemma follow_stopsAt (c : Point) (budget first : Nat) :
    StopsAt c budget first (follow c budget (point c first) first) := by
  induction budget generalizing first with
  | zero =>
    rw [follow]
    exact ⟨le_refl _, le_refl _, fun k hle hlt => absurd hlt (Nat.not_lt.mpr hle),
      fun hlt => absurd hlt (Nat.lt_irrefl _)⟩
  | succ budget ih =>
    rw [follow]
    by_cases hout : hasEscaped (point c first) = true
    · rw [if_pos hout]
      exact ⟨le_refl _, Nat.le_add_right _ _, fun k hle hlt => absurd hlt (Nat.not_lt.mpr hle),
        fun _ => hout⟩
    · rw [if_neg hout]
      have hrest := ih (first + 1)
      rw [point] at hrest
      have hfirst := hrest.first_le
      have hlast := hrest.last_le
      refine ⟨by omega, by omega, ?_, fun hlt => hrest.escaped (by omega)⟩
      intro k hle hlt
      by_cases hk : k = first
      · rw [hk]
        simpa using hout
      · exact hrest.inside k (by omega) hlt

/-- Two runs from one index: neither passes the first escape, so the shorter budget cuts the longer run
off or changes nothing. -/
lemma stopsAt_min {c : Point} {budget budget' first last last' : Nat} (h : StopsAt c budget first last)
    (h' : StopsAt c budget' first last') (hle : budget ≤ budget') :
    last = min (first + budget) last' := by
  have hlast := h.last_le
  have hlast' := h'.last_le
  rcases Nat.lt_trichotomy last last' with hlt | heq | hgt
  · -- The longer run went past this index, so it was the budget that stopped the shorter one.
    have hinside := h'.inside last h.first_le hlt
    have hused : ¬last < first + budget := by
      intro hshort
      rw [h.escaped hshort] at hinside
      cases hinside
    omega
  · omega
  · have hinside := h.inside last' h'.first_le hgt
    rw [h'.escaped (by omega)] at hinside
    cases hinside

/-- What a count says about its orbit: it is within the budget, no point before it has escaped, and below
the budget the point at it has. -/
structure FirstEscape (c : Point) (budget : Int64) : Prop where
  le_budget : (escapeCount c budget : Int) ≤ max budget.toInt 0
  inside : ∀ k, k < escapeCount c budget → hasEscaped (point c k) = false
  escaped : (escapeCount c budget : Int) < budget.toInt →
    hasEscaped (point c (escapeCount c budget)) = true

lemma escapeCount_stopsAt (c : Point) (budget : Int64) :
    StopsAt c budget.toInt.toNat 0 (escapeCount c budget) :=
  follow_stopsAt c budget.toInt.toNat 0

lemma escapeCount_firstEscape (c : Point) (budget : Int64) : FirstEscape c budget := by
  have hstops := escapeCount_stopsAt c budget
  have hlast := hstops.last_le
  refine ⟨by omega, fun k hk => hstops.inside k (Nat.zero_le k) hk, fun hlt => ?_⟩
  apply hstops.escaped
  omega

/-- A smaller budget cuts the count off. -/
lemma escapeCount_eq_min (c : Point) {budget budget' : Int64} (h : budget ≤ budget') :
    (escapeCount c budget : Int) = min (max budget.toInt 0) (escapeCount c budget') := by
  have hle : budget.toInt ≤ budget'.toInt := Int64.le_iff_toInt_le.mp h
  have hmin := stopsAt_min (escapeCount_stopsAt c budget) (escapeCount_stopsAt c budget') (by omega)
  omega

/-- The grid has the asked rows and the viewport's columns, and in each cell the count of the sample
there: keeping it in 32 bits has lost nothing. -/
structure HoldsCounts (v : Viewport) (rows budget : Int64) (grid : Grid) : Prop where
  rows_eq : (grid.rows : Int) = rows.toInt
  cols_eq : (grid.cols : Int) = (v.columns rows).toInt
  cell : ∃ lattice, Lattice.ofViewport v rows (v.columns rows) = .ok lattice ∧
    ∀ row col : Int64, 0 ≤ row.toInt → row.toInt < rows.toInt → 0 ≤ col.toInt →
      col.toInt < (v.columns rows).toInt →
      grid.countAt row col = .ok (escapeCount (lattice.point row.toInt col.toInt) budget)

lemma compute_holdsCounts {r : Renderer} {rows budget : Int64} {grid : Grid}
    (h : (r.compute rows budget).outcome = .ok grid) :
    HoldsCounts r.settings.viewport rows budget grid := by
  rw [compute_outcome] at h
  obtain ⟨hbudget, htworows, htwocols, hrows, hcols, lattice, hlattice, hcount⟩ := countGrid_eq_ok h
  refine ⟨by omega, by omega, lattice, hlattice, ?_⟩
  intro row col hrow hrowlt hcol hcollt
  have hplace : row.toInt.toNat * grid.cols + col.toInt.toNat < grid.rows * grid.cols :=
    place_lt (by omega) (by omega)
  have hinside : ¬(row.toInt < 0 ∨ grid.rows ≤ row.toInt ∨ col.toInt < 0 ∨ grid.cols ≤ col.toInt) := by
    omega
  rw [Grid.countAt, if_neg hinside, Array.getD_eq_getD_getElem?, hcount _ hplace, Option.getD_some,
    toInt_countAtPlace _ _ _ hbudget, place_div (by omega), place_mod (by omega),
    Int.toNat_of_nonneg hrow, Int.toNat_of_nonneg hcol]

/-- What a grid is counted over, whatever the budget. -/
structure Ground where
  lattice : Lattice
  blank : Grid
  ranges : List Range

def ground (r : Renderer) (rows : Int64) : Except Abort Ground := do
  Renderer.fallible r.settings.viewport.check
  let cols := r.settings.viewport.columns rows
  let lattice ← Renderer.fallible (Lattice.ofViewport r.settings.viewport rows cols)
  let blank ← Renderer.fallible
    ((Grid.new rows cols r.settings.maxPixels).mapError (.within "mandel: allocate grid"))
  let ranges ← r.spread blank.size
  return ⟨lattice, blank, ranges⟩

/-- A budget that is accepted plays no part before the cells are filled in. -/
lemma compute_of_budget (r : Renderer) (rows : Int64) {budget : Int64}
    (h : Renderer.checkBudget budget = .ok ()) :
    (r.compute rows budget).outcome = (fun g =>
      g.blank.fill g.ranges (Renderer.countAtPlace g.lattice g.blank.cols budget)) <$> ground r rows := by
  rw [compute_outcome]
  unfold Renderer.countGrid ground
  refine (fallible_bind_ok h _).trans ?_
  simp only [map_bind, map_pure]

lemma compute_eq_error_iff (r : Renderer) (rows : Int64) {budget : Int64}
    (h : Renderer.checkBudget budget = .ok ()) (a : Abort) :
    (r.compute rows budget).outcome = .error a ↔ ground r rows = .error a := by
  rw [compute_of_budget r rows h]
  cases ground r rows <;> simp

/-- Cell by cell, the grid of the smaller budget is that of the larger one cut off. -/
lemma countAt_eq_min {r : Renderer} {rows budget budget' : Int64} {grid grid' : Grid}
    (hnonneg : 0 ≤ budget.toInt) (hle : budget ≤ budget')
    (h : (r.compute rows budget).outcome = .ok grid)
    (h' : (r.compute rows budget').outcome = .ok grid') (row col : Int64) :
    grid.countAt row col = (grid'.countAt row col).map (min budget.toInt) := by
  obtain ⟨hrows, hcols, lattice, hlattice, hcell⟩ := compute_holdsCounts h
  obtain ⟨hrows', hcols', lattice', hlattice', hcell'⟩ := compute_holdsCounts h'
  cases hlattice.symm.trans hlattice'
  by_cases hinside : 0 ≤ row.toInt ∧ row.toInt < rows.toInt ∧ 0 ≤ col.toInt ∧
      col.toInt < (r.settings.viewport.columns rows).toInt
  · obtain ⟨hrow, hrowlt, hcol, hcollt⟩ := hinside
    have hmin := escapeCount_eq_min (lattice.point row.toInt col.toInt) hle
    rw [Int.max_eq_left hnonneg] at hmin
    rw [hcell row col hrow hrowlt hcol hcollt, hcell' row col hrow hrowlt hcol hcollt, hmin]
    rfl
  · have hsame : grid.rows = grid'.rows ∧ grid.cols = grid'.cols := by omega
    have houtside : row.toInt < 0 ∨ grid'.rows ≤ row.toInt ∨ col.toInt < 0 ∨
        grid'.cols ≤ col.toInt := by
      omega
    simp only [Grid.countAt, hsame, if_pos houtside]
    rfl

/-- Counts are first-escape times, and budgets refine each other: for every point, whatever its
components, and for the grids of one renderer. Under two budgets that it accepts, a renderer ends alike,
and where it returns grids their cells differ only by the cut at the smaller budget. -/
theorem escape_times_refine :
    (∀ (c : Point) (budget : Int64), FirstEscape c budget) ∧
    (∀ (c : Point) (budget budget' : Int64), budget ≤ budget' →
      (escapeCount c budget : Int) = min (max budget.toInt 0) (escapeCount c budget')) ∧
    (∀ (r : Renderer) (rows budget : Int64) (grid : Grid),
      (r.compute rows budget).outcome = .ok grid →
      HoldsCounts r.settings.viewport rows budget grid) ∧
    ∀ (r : Renderer) (rows budget budget' : Int64), 0 ≤ budget.toInt → budget ≤ budget' →
      budget'.toInt ≤ 2 ^ 31 - 1 →
      (∀ a, (r.compute rows budget).outcome = .error a ↔
        (r.compute rows budget').outcome = .error a) ∧
      ∀ grid grid', (r.compute rows budget).outcome = .ok grid →
        (r.compute rows budget').outcome = .ok grid' → ∀ row col : Int64,
        grid.countAt row col = (grid'.countAt row col).map (min budget.toInt) := by
  refine ⟨escapeCount_firstEscape, fun c budget budget' => escapeCount_eq_min c,
    fun r rows budget grid => compute_holdsCounts, ?_⟩
  intro r rows budget budget' hlow hle hhigh
  have hle' : budget.toInt ≤ budget'.toInt := Int64.le_iff_toInt_le.mp hle
  refine ⟨fun a => ?_, fun grid grid' h h' => countAt_eq_min hlow hle h h'⟩
  rw [compute_eq_error_iff r rows (checkBudget_of_le hlow (by omega)),
    compute_eq_error_iff r rows (checkBudget_of_le (by omega) hhigh)]

/-- Six samples under budgets of two and five, and a point without a number for its real part, which
never escapes. -/
theorem escape_times_refine_six_samples :
    let r : Renderer := ⟨{}, ⟨4, false, by decide, by decide⟩⟩
    let coarse : Grid := ⟨2, 3, #[1, 2, 2, 1, 2, 2], by decide, by decide, by decide, by decide⟩
    let fine : Grid := ⟨2, 3, #[1, 4, 2, 1, 4, 2], by decide, by decide, by decide, by decide⟩
    let c : Point := ⟨0 / 0, 1⟩
    (r.compute 2 2).outcome = .ok coarse ∧ (r.compute 2 5).outcome = .ok fine ∧
      HoldsCounts .standard 2 5 fine ∧
      (∀ row col : Int64, coarse.countAt row col = (fine.countAt row col).map (min 2)) ∧
      escapeCount c 7 = 7 ∧ (escapeCount c 3 : Int) = min (max 3 0) 7 := by
  intro r coarse fine c
  have hcoarse : (r.compute 2 2).outcome = .ok coarse := by decide +kernel
  have hfine : (r.compute 2 5).outcome = .ok fine := by decide +kernel
  have hseven : escapeCount c 7 = 7 := by decide +kernel
  have hthree := escape_times_refine.2.1 c 3 7 (by decide)
  rw [hseven] at hthree
  exact ⟨hcoarse, hfine, escape_times_refine.2.2.1 r 2 5 fine hfine,
    (escape_times_refine.2.2.2 r 2 2 5 (by decide) (by decide) (by decide)).2 coarse fine hcoarse hfine,
    hseven, hthree⟩

end EscapeTime.Proofs
