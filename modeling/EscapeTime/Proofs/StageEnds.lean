import EscapeTime.Proofs.Rendering

/-!
# How the stages of a render end

Each stage first settles what it works on, then hands out its places to the pool and fills them in. It
fails before the hand-out for a reason of one kind, and after it only because the pool is closed; a
crash can come from cutting the ranges and from nothing else.
-/

namespace EscapeTime.Proofs
open EscapeTime.Partition

lemma fallible_bind_ok {α β : Type} {x : Except Failure α} {a : α} (h : x = .ok a)
    (k : α → Except Abort β) : (Renderer.fallible x >>= k) = k a := by
  rw [h]
  rfl

lemma fallible_bind_error {α β : Type} {x : Except Failure α} {f : Failure} (h : x = .error f)
    (k : α → Except Abort β) : (Renderer.fallible x >>= k) = .error (.failure f) := by
  rw [h]
  rfl

lemma mapError_of_ok {ε δ α : Type} {x : Except ε α} {a : α} (h : x = .ok a) (f : ε → δ) :
    x.mapError f = .ok a := by
  rw [h]
  rfl

lemma mapError_of_error {ε δ α : Type} {x : Except ε α} {e : ε} (h : x = .error e) (f : ε → δ) :
    x.mapError f = .error (f e) := by
  rw [h]
  rfl

lemma map_eq_ok {ε α β : Type} {x : Except ε α} {f : α → β} {b : β} (h : x.map f = .ok b) :
    ∃ a, x = .ok a ∧ f a = b := by
  cases x with
  | error e => cases h
  | ok a => exact ⟨a, rfl, Except.ok.inj h⟩

lemma map_eq_error {ε α β : Type} {x : Except ε α} {f : α → β} {e : ε} (h : x.map f = .error e) :
    x = .error e := by
  cases x with
  | error d => exact congrArg Except.error (Except.error.inj h)
  | ok a => cases h

/-- Ranges are cut before the pool is asked whether it is open, and counted after. -/
lemma spread_eq (p : Pool) (n chunk : Int64) :
    p.spread n chunk =
      match split n chunk p.workers with
      | .error c => .error (.crash c)
      | .ok ranges =>
        if p.closed then .error (.failure (.kind .poolClosed))
        else if Pool.counterLimit ≤ ranges.length then .error (.crash .negativeCounter)
        else .ok ranges := by
  have hrun : ∀ ranges : List Range, p.run (ranges.map some) =
      if p.closed then .error (.failure (.kind .poolClosed))
      else if Pool.counterLimit ≤ ranges.length then .error (.crash .negativeCounter)
      else .ok ranges := by
    intro ranges
    rw [Pool.run, List.length_map, List.filterMap_map, Function.id_comp, List.filterMap_some]
  unfold Pool.spread
  by_cases hn : n ≤ 0
  · have hsplit : split n chunk p.workers = .ok [] := if_pos hn
    rw [if_pos hn, hsplit]
    exact hrun []
  · rw [if_neg hn]
    cases split n chunk p.workers with
    | error c => rfl
    | ok ranges => exact hrun ranges

lemma renderer_spread_eq (r : Renderer) (n : Nat) :
    r.spread n =
      match split (Int64.ofNat n) r.settings.chunk r.pool.workers with
      | .error c => .error (.crash c)
      | .ok ranges =>
        if r.pool.closed then .error (.failure (.kind .closed))
        else if Pool.counterLimit ≤ ranges.length then .error (.crash .negativeCounter)
        else .ok ranges := by
  unfold Renderer.spread
  rw [spread_eq]
  cases split (Int64.ofNat n) r.settings.chunk r.pool.workers with
  | error c => rfl
  | ok ranges =>
    dsimp only
    split
    · rfl
    · split <;> rfl

/-- The failure has one kind, with the wider kind that it falls under, and holds no write fault. -/
structure Blames (f : Failure) (base : Kind) : Prop where
  hasKind_eq : ∀ target, f.hasKind target = base.countsAs target
  no_fault : f.writeFault? = none

lemma blames_cause (c : Cause) : Blames (.cause c) c.kind := ⟨fun _ => rfl, rfl⟩

lemma blames_within {f : Failure} {base : Kind} (context : String) (h : Blames f base) :
    Blames (.within context f) base :=
  ⟨h.hasKind_eq, h.no_fault⟩

/-- What a stage can hold against its arguments or the memory. -/
def refusalKinds : List Kind := [.dimension, .iterations, .viewport, .outOfMemory]

/-- The failure is for one of the kinds that a stage can refuse its arguments with. -/
def IsRefusal (f : Failure) : Prop := ∃ base ∈ refusalKinds, Blames f base

lemma isRefusal_cause {c : Cause} (h : c.kind ∈ refusalKinds) : IsRefusal (.cause c) :=
  ⟨c.kind, h, blames_cause c⟩

lemma isRefusal_within {f : Failure} (context : String) (h : IsRefusal f) :
    IsRefusal (.within context f) := by
  obtain ⟨base, hbase, hblames⟩ := h
  exact ⟨base, hbase, blames_within context hblames⟩

lemma checkBudget_eq_error {budget : Int64} {f : Failure}
    (h : Renderer.checkBudget budget = .error f) : IsRefusal f := by
  unfold Renderer.checkBudget at h
  split at h
  · cases h
    exact isRefusal_cause (by simp [refusalKinds, Cause.kind])
  · cases h

lemma viewport_check_eq_error {v : Viewport} {f : Failure} (h : v.check = .error f) :
    IsRefusal f := by
  unfold Viewport.check at h
  split at h
  · cases h
  · cases h
    exact isRefusal_cause (by simp [refusalKinds, Cause.kind])

lemma ofViewport_eq_error {v : Viewport} {rows cols : Int64} {f : Failure}
    (h : Lattice.ofViewport v rows cols = .error f) : IsRefusal f := by
  unfold Lattice.ofViewport at h
  cases hcheck : v.check with
  | error g =>
    rw [hcheck] at h
    cases h
    exact viewport_check_eq_error hcheck
  | ok _ =>
    rw [hcheck] at h
    dsimp only at h
    split at h
    · cases h
      exact isRefusal_cause (by simp [refusalKinds, Cause.kind])
    · cases h

/-- Positive sides are refused only for their product. -/
lemma pixels_eq_error {width height cap : Int64} {f : Failure} (hw : 0 < width.toInt)
    (hh : 0 < height.toInt) (h : Memory.pixels width height cap = .error f) : IsRefusal f := by
  unfold Memory.pixels at h
  split at h
  · rename_i hsides
    rcases hsides with hle | hle
    · exact absurd (Int64.le_iff_toInt_le.mp hle) (Int.not_le.mpr hw)
    · exact absurd (Int64.le_iff_toInt_le.mp hle) (Int.not_le.mpr hh)
  · split at h
    · cases h
      exact isRefusal_cause (by simp [refusalKinds, Cause.kind])
    · split at h
      · cases h
        exact isRefusal_cause (by simp [refusalKinds, Cause.kind])
      · cases h

lemma reserve_eq_error {length : Int64} {size : Nat} {f : Failure}
    (h : Memory.reserve length size = .error f) : IsRefusal f := by
  unfold Memory.reserve at h
  split at h
  · cases h
    exact isRefusal_cause (by simp [refusalKinds, Cause.kind])
  · cases hgrant : Memory.grant length size with
    | ok n => rw [hgrant] at h; cases h
    | error c =>
      rw [hgrant] at h
      cases h
      exact isRefusal_cause (by simp [refusalKinds, Cause.kind])

lemma new_grid_eq_error {rows cols cap : Int64} {f : Failure}
    (h : Grid.new rows cols cap = .error f) : IsRefusal f := by
  unfold Grid.new at h
  split at h
  · cases h
    exact isRefusal_cause (by simp [refusalKinds, Cause.kind])
  · rename_i hshape
    have hrows := Grid.two_le_toNat fun hlt => hshape (Or.inl hlt)
    have hcols := Grid.two_le_toNat fun hlt => hshape (Or.inr hlt)
    split at h
    · rename_i g hpixels
      cases h
      exact pixels_eq_error (by omega) (by omega) hpixels
    · rename_i n hpixels
      split at h
      · rename_i g hallocate
        cases h
        unfold Memory.allocate at hallocate
        cases hreserve : Memory.reserve n Grid.countSize with
        | error e =>
          rw [hreserve] at hallocate
          cases hallocate
          exact reserve_eq_error hreserve
        | ok length => rw [hreserve] at hallocate; cases hallocate
      · cases h

lemma new_raster_eq_error {width height cap : Int64} {f : Failure} (hw : 0 < width.toInt)
    (hh : 0 < height.toInt) (h : Raster.new width height cap = .error f) : IsRefusal f := by
  unfold Raster.new Raster.build at h
  split at h
  · rename_i g hpixels
    cases h
    exact pixels_eq_error hw hh hpixels
  · split at h
    · rename_i g hreserve
      cases h
      exact reserve_eq_error hreserve
    · cases h

/-- What is settled before the places of a grid are handed out: the lattice to sample and a grid of
zeros. -/
structure Prepared (r : Renderer) (rows budget : Int64) (lattice : Lattice) (blank : Grid) : Prop where
  budget_eq : Renderer.checkBudget budget = .ok ()
  viewport_eq : r.settings.viewport.check = .ok ()
  lattice_eq : Lattice.ofViewport r.settings.viewport rows (r.settings.viewport.columns rows) =
    .ok lattice
  blank_eq : Grid.new rows (r.settings.viewport.columns rows) r.settings.maxPixels = .ok blank

/-- The ranges of a prepared grid are handed out and filled in. -/
lemma countGrid_of_prepared {r : Renderer} {rows budget : Int64} {lattice : Lattice} {blank : Grid}
    (h : Prepared r rows budget lattice blank) :
    r.countGrid rows budget = (r.spread blank.size).map fun ranges =>
      blank.fill ranges (Renderer.countAtPlace lattice blank.cols budget) := by
  unfold Renderer.countGrid
  refine (fallible_bind_ok h.budget_eq _).trans ?_
  refine (fallible_bind_ok h.viewport_eq _).trans ?_
  refine (fallible_bind_ok h.lattice_eq _).trans ?_
  exact fallible_bind_ok (mapError_of_ok h.blank_eq _) _

theorem countGrid_ends (r : Renderer) (rows budget : Int64) :
    (∃ lattice blank, Prepared r rows budget lattice blank) ∨
      ∃ f, r.countGrid rows budget = .error (.failure f) ∧ IsRefusal f := by
  unfold Renderer.countGrid
  cases hbudget : Renderer.checkBudget budget with
  | error f => exact .inr ⟨f, rfl, checkBudget_eq_error hbudget⟩
  | ok _ =>
    cases hviewport : r.settings.viewport.check with
    | error f =>
      exact .inr ⟨f, fallible_bind_error hviewport _, viewport_check_eq_error hviewport⟩
    | ok _ =>
      cases hlattice :
          Lattice.ofViewport r.settings.viewport rows (r.settings.viewport.columns rows) with
      | error f =>
        refine .inr ⟨f, ?_, ofViewport_eq_error hlattice⟩
        refine (fallible_bind_ok hviewport _).trans ?_
        exact fallible_bind_error hlattice _
      | ok lattice =>
        cases hblank :
            Grid.new rows (r.settings.viewport.columns rows) r.settings.maxPixels with
        | error f =>
          refine .inr ⟨_, ?_, isRefusal_within "mandel: allocate grid" (new_grid_eq_error hblank)⟩
          refine (fallible_bind_ok hviewport _).trans ?_
          refine (fallible_bind_ok hlattice _).trans ?_
          exact fallible_bind_error (mapError_of_error hblank _) _
        | ok blank => exact .inl ⟨lattice, blank, hbudget, hviewport, hlattice, hblank⟩

lemma compute_outcome (r : Renderer) (rows budget : Int64) :
    (r.compute rows budget).outcome = r.countGrid rows budget := by
  unfold Renderer.compute
  cases r.countGrid rows budget <;> rfl

/-- What is settled before the places of a raster are handed out: the grid to shade and a black
raster of its shape. -/
structure Accepted (r : Renderer) (grid? : Option Grid) (budget : Int64) (grid : Grid)
    (black : Raster) : Prop where
  grid_eq : Renderer.checkShade grid? budget = .ok grid
  black_eq : Raster.new (Int64.ofNat grid.cols) (Int64.ofNat grid.rows) r.settings.maxPixels =
    .ok black

lemma toInt_sides (grid : Grid) :
    (Int64.ofNat grid.cols).toInt = grid.cols ∧ (Int64.ofNat grid.rows).toInt = grid.rows := by
  have hrows := grid.two_le_rows
  have hcols := grid.two_le_cols
  have hfits := grid.fits
  exact toInt_ofNat_sides (by omega) (by omega) (by rw [Nat.mul_comm]; omega)

lemma accepted_sides {r : Renderer} {grid? : Option Grid} {budget : Int64} {grid : Grid}
    {black : Raster} (h : Accepted r grid? budget grid black) :
    black.width = grid.cols ∧ black.height = grid.rows := by
  obtain ⟨hcols, hrows⟩ := toInt_sides grid
  obtain ⟨-, -, -, -, hwidth, hheight, -⟩ := build_eq_ok_iff.mp h.black_eq
  exact ⟨by omega, by omega⟩

lemma shadeRaster_of_accepted {r : Renderer} {grid? : Option Grid} {budget : Int64} {grid : Grid}
    {black : Raster} (h : Accepted r grid? budget grid black) :
    r.shadeRaster grid? budget = (r.spread grid.size).map fun ranges =>
      black.fill ranges (Renderer.grayAtPlace grid budget) := by
  obtain ⟨hwidth, hheight⟩ := accepted_sides h
  have hsize : grid.size = black.width * black.height := by
    rw [hwidth, hheight, Nat.mul_comm]
    exact grid.size_counts
  unfold Renderer.shadeRaster
  rw [hsize]
  refine (fallible_bind_ok h.grid_eq _).trans ?_
  exact fallible_bind_ok (mapError_of_ok h.black_eq _) _

lemma checkShade_eq_ok {grid? : Option Grid} {budget : Int64} {grid : Grid}
    (h : Renderer.checkShade grid? budget = .ok grid) : grid? = some grid := by
  unfold Renderer.checkShade at h
  split at h
  · cases h
  · split at h
    · cases h
    · cases h
      rfl

lemma checkShade_eq_error {grid? : Option Grid} {budget : Int64} {f : Failure}
    (h : Renderer.checkShade grid? budget = .error f) : IsRefusal f := by
  unfold Renderer.checkShade at h
  split at h
  · cases h
    exact isRefusal_cause (by simp [refusalKinds, Cause.kind])
  · split at h
    · cases h
      exact ⟨.dimension, by decide, fun _ => rfl, rfl⟩
    · cases h

theorem shadeRaster_ends (r : Renderer) (grid? : Option Grid) (budget : Int64) :
    (∃ grid black, Accepted r grid? budget grid black) ∨
      ∃ f, r.shadeRaster grid? budget = .error (.failure f) ∧ IsRefusal f := by
  unfold Renderer.shadeRaster
  cases hgrid : Renderer.checkShade grid? budget with
  | error f => exact .inr ⟨f, rfl, checkShade_eq_error hgrid⟩
  | ok grid =>
    obtain ⟨hcols, hrows⟩ := toInt_sides grid
    have htworows := grid.two_le_rows
    have htwocols := grid.two_le_cols
    cases hblack :
        Raster.new (Int64.ofNat grid.cols) (Int64.ofNat grid.rows) r.settings.maxPixels with
    | error f =>
      refine .inr ⟨_, ?_, isRefusal_within "mandel: allocate raster"
        (new_raster_eq_error (by omega) (by omega) hblack)⟩
      exact fallible_bind_error (mapError_of_error hblack _) _
    | ok black => exact .inl ⟨grid, black, hgrid, hblack⟩

lemma shade_outcome (r : Renderer) (grid? : Option Grid) (budget : Int64) :
    (r.shade grid? budget).outcome = r.shadeRaster grid? budget := by
  unfold Renderer.shade
  cases r.shadeRaster grid? budget <;> rfl

end EscapeTime.Proofs
