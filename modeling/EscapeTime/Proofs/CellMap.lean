import EscapeTime.Proofs.Allocation
import Mathlib.Data.Set.Function

/-!
# A grid as a map from cells to counts

A grid keeps its cells row by row in one array. A cell has its place by a product and a sum, a place its cell
by a division: in machine integers the two are inverse to each other, because the array that was granted is
small. Samples are counted place by place and counts are read cell by cell, and over any run of stores a
cell holds the value that was last stored at its place.
-/

namespace EscapeTime.Proofs

/-- The rows and columns of a grid, as machine integers. -/
def cellsOf (g : Grid) : Set (Int64 × Int64) :=
  {c | 0 ≤ c.1.toInt ∧ c.1.toInt < g.rows ∧ 0 ≤ c.2.toInt ∧ c.2.toInt < g.cols}

lemma mem_cellsOf {g : Grid} {row col : Int64} : (row, col) ∈ cellsOf g ↔
    0 ≤ row.toInt ∧ row.toInt < g.rows ∧ 0 ≤ col.toInt ∧ col.toInt < g.cols :=
  Iff.rfl

def placesOf (g : Grid) : Set Int64 := {k | 0 ≤ k.toInt ∧ k.toInt < g.size}

/-- The place of a cell. The arithmetic wraps. -/
def placeOf (g : Grid) (c : Int64 × Int64) : Int64 := c.1 * Int64.ofNat g.cols + c.2

/-- The cell at a place. The division is towards zero. -/
def cellOf (g : Grid) (k : Int64) : Int64 × Int64 :=
  (k / Int64.ofNat g.cols, k % Int64.ofNat g.cols)

/-- The cells of a grid stand in row-major order: nothing wraps on the way from a cell to its place or back,
and the two ways are inverse to each other. -/
structure RowMajor (g : Grid) : Prop where
  size_eq : g.size = g.rows * g.cols
  row_start : ∀ c ∈ cellsOf g, (c.1 * Int64.ofNat g.cols).toInt = c.1.toInt * g.cols
  place : ∀ c ∈ cellsOf g, (placeOf g c).toInt = c.1.toInt * g.cols + c.2.toInt
  row : ∀ k ∈ placesOf g, (cellOf g k).1.toInt = k.toInt / g.cols
  col : ∀ k ∈ placesOf g, (cellOf g k).2.toInt = k.toInt % g.cols
  bijective : Set.BijOn (placeOf g) (cellsOf g) (placesOf g)
  inverse : Set.InvOn (cellOf g) (placeOf g) (cellsOf g) (placesOf g)

lemma toInt_row_start {g : Grid} {c : Int64 × Int64} (h : c ∈ cellsOf g) :
    (c.1 * Int64.ofNat g.cols).toInt = (c.1.toInt.toNat * g.cols : Nat) := by
  obtain ⟨hrow, hrowlt, -, -⟩ := h
  obtain ⟨hcols, -⟩ := toInt_sides g
  have hfits := g.fits
  unfold Memory.limit at hfits
  have hle : c.1.toInt.toNat * g.cols ≤ g.rows * g.cols := Nat.mul_le_mul_right g.cols (by omega)
  have hcast : c.1.toInt * g.cols = (c.1.toInt.toNat * g.cols : Nat) := by
    rw [Int.natCast_mul, Int.toNat_of_nonneg hrow]
  rw [toInt_mul_of_le hrow (by omega) (by rw [hcols, hcast]; unfold maxInt; omega), hcols, hcast]

lemma toInt_placeOf {g : Grid} {c : Int64 × Int64} (h : c ∈ cellsOf g) :
    (placeOf g c).toInt = (c.1.toInt.toNat * g.cols + c.2.toInt.toNat : Nat) := by
  have hstart := toInt_row_start h
  obtain ⟨hrow, hrowlt, hcol, hcollt⟩ := h
  have hlt : c.1.toInt.toNat * g.cols + c.2.toInt.toNat < g.rows * g.cols :=
    place_lt (by omega) (by omega)
  have hfits := g.fits
  unfold Memory.limit at hfits
  unfold placeOf
  rw [toInt_add_of_le (by omega) hcol (by unfold maxInt; omega), hstart]
  omega

/-- A place is not negative, so division towards zero is division. -/
lemma toInt_cellOf {g : Grid} {k : Int64} (h : 0 ≤ k.toInt) :
    (cellOf g k).1.toInt = (k.toInt.toNat / g.cols : Nat) ∧
      (cellOf g k).2.toInt = (k.toInt.toNat % g.cols : Nat) := by
  obtain ⟨hcols, -⟩ := toInt_sides g
  have hne : k ≠ Int64.minValue := by
    rintro rfl
    exact absurd h (by decide)
  unfold cellOf
  rw [Int64.toInt_div_of_ne_left _ _ hne, Int64.toInt_mod, hcols, Int.ofNat_tdiv, Int.ofNat_tmod,
    Int.toNat_of_nonneg h]
  exact ⟨rfl, rfl⟩

lemma placeOf_mem {g : Grid} {c : Int64 × Int64} (h : c ∈ cellsOf g) : placeOf g c ∈ placesOf g := by
  have hplace := toInt_placeOf h
  obtain ⟨hrow, hrowlt, hcol, hcollt⟩ := h
  have hlt : c.1.toInt.toNat * g.cols + c.2.toInt.toNat < g.rows * g.cols :=
    place_lt (by omega) (by omega)
  have hsize : g.size = g.rows * g.cols := g.size_counts
  exact ⟨by omega, by omega⟩

lemma cellOf_mem {g : Grid} {k : Int64} (h : k ∈ placesOf g) : cellOf g k ∈ cellsOf g := by
  obtain ⟨hpos, hlt⟩ := h
  obtain ⟨hrow, hcol⟩ := toInt_cellOf (g := g) hpos
  have hcols := g.two_le_cols
  have hsize : g.size = g.rows * g.cols := g.size_counts
  have hrowlt : k.toInt.toNat / g.cols < g.rows :=
    Nat.div_lt_of_lt_mul (by rw [Nat.mul_comm]; omega)
  have hcollt : k.toInt.toNat % g.cols < g.cols := Nat.mod_lt _ (by omega)
  have hrowpos := Int.natCast_nonneg (k.toInt.toNat / g.cols)
  exact ⟨by omega, by omega, by omega, by omega⟩

lemma cellOf_placeOf {g : Grid} {c : Int64 × Int64} (h : c ∈ cellsOf g) :
    cellOf g (placeOf g c) = c := by
  have hplace := toInt_placeOf h
  obtain ⟨hrow, -, hcol, hcollt⟩ := h
  obtain ⟨hquotient, hremainder⟩ := toInt_cellOf (g := g) (k := placeOf g c) (by omega)
  rw [hplace, Int.toNat_natCast] at hquotient hremainder
  rw [place_div (by omega)] at hquotient
  rw [place_mod (by omega)] at hremainder
  exact Prod.ext (Int64.toInt_inj.mp (by omega)) (Int64.toInt_inj.mp (by omega))

lemma placeOf_cellOf {g : Grid} {k : Int64} (h : k ∈ placesOf g) : placeOf g (cellOf g k) = k := by
  have hplace := toInt_placeOf (cellOf_mem h)
  obtain ⟨hquotient, hremainder⟩ := toInt_cellOf (g := g) h.1
  rw [hquotient, hremainder, Int.toNat_natCast, Int.toNat_natCast, Nat.div_add_mod',
    Int.toNat_of_nonneg h.1] at hplace
  exact Int64.toInt_inj.mp hplace

lemma grid_rowMajor (g : Grid) : RowMajor g := by
  have hinverse : Set.InvOn (cellOf g) (placeOf g) (cellsOf g) (placesOf g) :=
    ⟨fun c => cellOf_placeOf, fun k => placeOf_cellOf⟩
  refine ⟨g.size_counts, ?_, ?_, ?_, ?_,
    hinverse.bijOn (fun c => placeOf_mem) (fun k => cellOf_mem), hinverse⟩
  · intro c hc
    rw [toInt_row_start hc, Int.natCast_mul, Int.toNat_of_nonneg hc.1]
  · intro c hc
    rw [toInt_placeOf hc, Int.natCast_add, Int.natCast_mul, Int.toNat_of_nonneg hc.1,
      Int.toNat_of_nonneg hc.2.2.1]
  · intro k hk
    rw [(toInt_cellOf hk.1).1, Int.natCast_ediv, Int.toNat_of_nonneg hk.1]
  · intro k hk
    rw [(toInt_cellOf hk.1).2, Int.natCast_emod, Int.toNat_of_nonneg hk.1]

inductive Origin where
  | blank (rows cols cap : Int64)
  | computed (r : Renderer) (rows budget : Int64)

namespace Origin

def grid : Origin → Except Abort Grid
  | .blank rows cols cap => Renderer.fallible (Grid.new rows cols cap)
  | .computed r rows budget => (r.compute rows budget).outcome

def rows : Origin → Int64
  | .blank rows _ _ => rows
  | .computed _ rows _ => rows

def cols : Origin → Int64
  | .blank _ cols _ => cols
  | .computed r rows _ => r.settings.viewport.columns rows

/-- The counts that the cells start with: zeros, or the escape counts of the samples. -/
inductive Starts : Origin → (Int64 × Int64 → Int) → Prop where
  | zeros {rows cols cap : Int64} : Starts (.blank rows cols cap) fun _ => 0
  | samples {r : Renderer} {rows budget : Int64} {lattice : Lattice} :
      Lattice.ofViewport r.settings.viewport rows (r.settings.viewport.columns rows) = .ok lattice →
      Starts (.computed r rows budget) fun c =>
        escapeCount (lattice.point c.1.toInt c.2.toInt) budget

end Origin

/-- A grid has the sides that were asked for, and holds at each place the count that the cell there starts
with. -/
structure Begins (o : Origin) (g : Grid) (first : Int64 × Int64 → Int) : Prop where
  rows_eq : (g.rows : Int) = o.rows.toInt
  cols_eq : (g.cols : Int) = o.cols.toInt
  starts : o.Starts first
  count : ∀ k ∈ placesOf g, ∃ count, g.counts[k.toInt.toNat]? = some count ∧
    count.toInt = first (cellOf g k)

lemma blank_begins {rows cols cap : Int64} {g : Grid} (h : Grid.new rows cols cap = .ok g) :
    Begins (.blank rows cols cap) g fun _ => 0 := by
  obtain ⟨htworows, htwocols, hrows, hcols⟩ := new_grid_eq_ok h
  obtain ⟨n, -, hzeros⟩ := (grid_allocates rows cols cap).blank g h
  refine ⟨by rw [hrows]; exact Int.toNat_of_nonneg (by omega),
    by rw [hcols]; exact Int.toNat_of_nonneg (by omega), .zeros, ?_⟩
  rintro k ⟨hpos, hlt⟩
  refine ⟨0, ?_, rfl⟩
  have hsize : g.counts.size = n.toInt.toNat := by
    rw [Option.some.inj hzeros, Array.size_replicate]
  unfold Grid.size at hlt
  rw [Option.some.inj hzeros, Array.getElem?_replicate, if_pos (by omega)]

/-- A sample is counted under the row and the column that the division gives. -/
lemma computed_begins {r : Renderer} {rows budget : Int64} {g : Grid}
    (h : (r.compute rows budget).outcome = .ok g) :
    ∃ first, Begins (.computed r rows budget) g first := by
  rw [compute_outcome] at h
  obtain ⟨hbudget, htworows, htwocols, hrows, hcols, lattice, hlattice, hcount⟩ := countGrid_eq_ok h
  refine ⟨_, by rw [hrows]; exact Int.toNat_of_nonneg (by omega),
    by rw [hcols]; exact Int.toNat_of_nonneg (by omega), .samples hlattice, ?_⟩
  rintro k ⟨hpos, hlt⟩
  have hsize : g.size = g.rows * g.cols := g.size_counts
  obtain ⟨hrow, hcol⟩ := toInt_cellOf (g := g) hpos
  refine ⟨_, hcount k.toInt.toNat (by omega), ?_⟩
  rw [toInt_countAtPlace _ _ _ hbudget, hrow, hcol]

lemma origin_begins {o : Origin} {g : Grid} (h : o.grid = .ok g) : ∃ first, Begins o g first := by
  cases o with
  | blank rows cols cap => exact ⟨_, blank_begins (mapError_eq_ok h)⟩
  | computed r rows budget => exact computed_begins h

structure Write where
  place : Int64
  value : Int64
  deriving DecidableEq, Repr

/-- The value that was last written at a place. -/
def lastValue? (writes : List Write) (place : Int64) : Option Int64 :=
  ((writes.filter (·.place = place)).getLast?).map Write.value

lemma lastValue?_concat (writes : List Write) (w : Write) (place : Int64) :
    lastValue? (writes ++ [w]) place =
      if w.place = place then some w.value else lastValue? writes place := by
  unfold lastValue?
  rw [List.filter_append]
  by_cases hplace : w.place = place
  · simp [hplace]
  · simp [hplace]

/-- What the writes so far have made of a grid: the sides stay, and each place holds the value last written
there, in 32 bits, or what it held at first. -/
structure HoldsWrites (g : Grid) (writes : List Write) (g' : Grid) : Prop where
  rows_eq : g'.rows = g.rows
  cols_eq : g'.cols = g.cols
  stored : ∀ k ∈ placesOf g, g'.counts[k.toInt.toNat]? =
    ((lastValue? writes k).map Int64.toInt32).or g.counts[k.toInt.toNat]?

lemma holdsWrites_nil (g : Grid) : HoldsWrites g [] g := ⟨rfl, rfl, fun _ _ => rfl⟩

lemma size_eq_of_holdsWrites {g g' : Grid} {writes : List Write} (h : HoldsWrites g writes g') :
    g'.size = g.size := by
  unfold Grid.size
  rw [g'.size_counts, g.size_counts, h.rows_eq, h.cols_eq]

/-- A store at a place of the grid succeeds and changes the count at this place only. -/
lemma store_holdsWrites {g g' : Grid} {writes : List Write} {w : Write} (h : HoldsWrites g writes g')
    (hplace : w.place ∈ placesOf g) :
    ∃ g'', g'.store w.place w.value = .ok g'' ∧ HoldsWrites g (writes ++ [w]) g'' := by
  have hsize := size_eq_of_holdsWrites h
  obtain ⟨hpos, hlt⟩ := hplace
  have hinside : ¬(w.place.toInt < 0 ∨ g'.size ≤ w.place.toInt) := by omega
  refine ⟨_, if_neg hinside, h.rows_eq, h.cols_eq, ?_⟩
  intro k hk
  change (g'.counts.setIfInBounds w.place.toInt.toNat w.value.toInt32)[k.toInt.toNat]? = _
  rw [lastValue?_concat]
  by_cases hsame : w.place = k
  · rw [if_pos hsame, ← hsame, Option.map_some, Option.some_or]
    unfold Grid.size at hsize hlt
    exact Array.getElem?_setIfInBounds_self_of_lt (by omega)
  · -- Neither place is negative, so they are different indices of the array too.
    have hne : w.place.toInt.toNat ≠ k.toInt.toNat := by
      intro heq
      have hkpos := hk.1
      exact hsame (Int64.toInt_inj.mp (by omega))
    rw [if_neg hsame, Array.getElem?_setIfInBounds_ne hne]
    exact h.stored k hk

def storeAll (g : Grid) (writes : List Write) : Except Crash Grid :=
  writes.foldlM (fun g w => g.store w.place w.value) g

lemma storeAll_holdsWrites {g g' : Grid} {before : List Write} (writes : List Write)
    (h : HoldsWrites g before g') (hplaces : ∀ w ∈ writes, w.place ∈ placesOf g) :
    ∃ g'', storeAll g' writes = .ok g'' ∧ HoldsWrites g (before ++ writes) g'' := by
  induction writes generalizing before g' with
  | nil => exact ⟨g', rfl, by rwa [List.append_nil]⟩
  | cons w writes ih =>
    obtain ⟨hfirst, hrest⟩ := List.forall_mem_cons.mp hplaces
    obtain ⟨stored, hstore, hholds⟩ := store_holdsWrites h hfirst
    obtain ⟨g'', hall, hholds''⟩ := ih hholds hrest
    refine ⟨g'', ?_, by rwa [List.append_assoc, List.singleton_append] at hholds''⟩
    unfold storeAll at hall ⊢
    rw [List.foldlM_cons, hstore]
    exact hall

/-- The sides have stayed, and a position outside them crashes. In a cell stands the value last written at its
place, reduced to a signed integer of 32 bits, or else the count that the cell started with. -/
structure ReadsBack (g : Grid) (first : Int64 × Int64 → Int) (writes : List Write) (g' : Grid) :
    Prop where
  rows_eq : g'.rows = g.rows
  cols_eq : g'.cols = g.cols
  crash_iff : ∀ row col : Int64,
    g'.countAt row col = .error (.outsideGrid row col g.rows g.cols) ↔ (row, col) ∉ cellsOf g
  count : ∀ row col : Int64, (row, col) ∈ cellsOf g → g'.countAt row col =
    .ok (((lastValue? writes (placeOf g (row, col))).map fun v => v.toInt.bmod (2 ^ 32)).getD
      (first (row, col)))

lemma countAt_of_not_mem {g : Grid} {row col : Int64} (h : (row, col) ∉ cellsOf g) :
    g.countAt row col = .error (.outsideGrid row col g.rows g.cols) := by
  rw [mem_cellsOf] at h
  exact if_pos (by omega)

/-- A cell is read at its place. -/
lemma countAt_of_mem {g : Grid} {row col : Int64} {count : Int32} (h : (row, col) ∈ cellsOf g)
    (hcount : g.counts[(placeOf g (row, col)).toInt.toNat]? = some count) :
    g.countAt row col = .ok count.toInt := by
  rw [toInt_placeOf h, Int.toNat_natCast] at hcount
  rw [mem_cellsOf] at h
  have hinside : ¬(row.toInt < 0 ∨ g.rows ≤ row.toInt ∨ col.toInt < 0 ∨ g.cols ≤ col.toInt) := by
    omega
  rw [Grid.countAt, if_neg hinside, Array.getD_eq_getD_getElem?, hcount, Option.getD_some]

lemma cellsOf_of_holdsWrites {g g' : Grid} {writes : List Write} (h : HoldsWrites g writes g') :
    cellsOf g' = cellsOf g := by
  unfold cellsOf
  rw [h.rows_eq, h.cols_eq]

lemma placeOf_of_holdsWrites {g g' : Grid} {writes : List Write} (h : HoldsWrites g writes g') :
    placeOf g' = placeOf g := by
  unfold placeOf
  rw [h.cols_eq]

/-- The count of a cell is looked up at its place, and this place is that of no other cell. -/
lemma countAt_of_holdsWrites {o : Origin} {g g' : Grid} {first : Int64 × Int64 → Int}
    {writes : List Write} (hbegins : Begins o g first) (hholds : HoldsWrites g writes g')
    {row col : Int64} (hcell : (row, col) ∈ cellsOf g) :
    g'.countAt row col =
      .ok (((lastValue? writes (placeOf g (row, col))).map fun v => v.toInt.bmod (2 ^ 32)).getD
        (first (row, col))) := by
  have hplace := placeOf_mem hcell
  obtain ⟨start, hstart, hfirst⟩ := hbegins.count _ hplace
  rw [cellOf_placeOf hcell] at hfirst
  have hstored := hholds.stored _ hplace
  rw [hstart, Option.or_some, ← placeOf_of_holdsWrites hholds] at hstored
  rw [← cellsOf_of_holdsWrites hholds] at hcell
  rw [countAt_of_mem hcell hstored, placeOf_of_holdsWrites hholds]
  cases lastValue? writes (placeOf g (row, col)) with
  | none => exact congrArg Except.ok hfirst
  | some v => exact congrArg Except.ok (Int64.toInt_toInt32 v)

lemma readsBack_of_holdsWrites {o : Origin} {g g' : Grid} {first : Int64 × Int64 → Int}
    {writes : List Write} (hbegins : Begins o g first) (hholds : HoldsWrites g writes g') :
    ReadsBack g first writes g' := by
  refine ⟨hholds.rows_eq, hholds.cols_eq, fun row col => ⟨fun hcrash hcell => ?_, fun hcell => ?_⟩,
    fun row col => countAt_of_holdsWrites hbegins hholds⟩
  · rw [countAt_of_holdsWrites hbegins hholds hcell] at hcrash
    cases hcrash
  · rw [← hholds.rows_eq, ← hholds.cols_eq]
    rw [← cellsOf_of_holdsWrites hholds] at hcell
    exact countAt_of_not_mem hcell

/-- A grid is a map from cells to counts, whether it is blank or computed. Cells and places correspond to
each other in row-major order and without a wrap; what is counted at a place is the sample of the cell
there. After any writes within the grid, a cell reads as the last one at its place, or as it began, and
every other position crashes. -/
theorem grid_is_cell_map {o : Origin} {g : Grid} (h : o.grid = .ok g) :
    RowMajor g ∧ ∃ first, Begins o g first ∧
      ∀ writes : List Write, (∀ w ∈ writes, w.place ∈ placesOf g) →
        ∃ g', storeAll g writes = .ok g' ∧ ReadsBack g first writes g' := by
  obtain ⟨first, hbegins⟩ := origin_begins h
  refine ⟨grid_rowMajor g, first, hbegins, fun writes hplaces => ?_⟩
  obtain ⟨g', hstored, hholds⟩ := storeAll_holdsWrites writes (holdsWrites_nil g) hplaces
  exact ⟨g', hstored, readsBack_of_holdsWrites hbegins hholds⟩

/-- Two rows of three counts under a budget of five. The later of two values at the last place is read in 32
bits, the smallest value that is too large for them turns negative, a cell without a write keeps its count,
and a row whose place would wrap back into the grid crashes. -/
theorem grid_is_cell_map_two_by_three :
    let r : Renderer := ⟨{}, ⟨4, false, by decide, by decide⟩⟩
    let grid : Grid := ⟨2, 3, #[1, 4, 2, 1, 4, 2], by decide, by decide, by decide, by decide⟩
    let writes : List Write := [⟨5, 9⟩, ⟨5, 4294967303⟩, ⟨0, 2147483648⟩]
    (Origin.computed r 2 5).grid = .ok grid ∧ placeOf grid (1, 2) = 5 ∧
      placeOf grid (6148914691236517206, 0) = 2 ∧
      ∃ g', storeAll grid writes = .ok g' ∧ g'.countAt 1 2 = .ok 7 ∧
        g'.countAt 0 0 = .ok (-2147483648) ∧ g'.countAt 0 1 = .ok 4 ∧
        g'.countAt 6148914691236517206 0 = .error (.outsideGrid 6148914691236517206 0 2 3) := by
  intro r grid writes
  have hgrid : (Origin.computed r 2 5).grid = .ok grid := by decide +kernel
  have hplaces : ∀ w ∈ writes, w.place ∈ placesOf grid := by
    have hbounds : ∀ w ∈ writes, 0 ≤ w.place.toInt ∧ w.place.toInt < 6 := by decide
    exact hbounds
  obtain ⟨-, first, hbegins, hwrites⟩ := grid_is_cell_map hgrid
  obtain ⟨g', hstored, hreads⟩ := hwrites writes hplaces
  have hlast : lastValue? writes (placeOf grid (1, 2)) = some 4294967303 := by decide
  have hfirst : lastValue? writes (placeOf grid (0, 0)) = some 2147483648 := by decide
  have hnone : lastValue? writes (placeOf grid (0, 1)) = none := by decide
  have hkept : first (0, 1) = 4 := by
    have hfour : grid.counts[(1 : Int64).toInt.toNat]? = some 4 := by decide
    have hcell : cellOf grid 1 = (0, 1) := by decide
    obtain ⟨count, hcount, hstart⟩ := hbegins.count 1 ⟨by decide, by decide⟩
    rw [hcell] at hstart
    cases hcount.symm.trans hfour
    exact hstart.symm
  refine ⟨hgrid, by decide, by decide, g', hstored, ?_, ?_, ?_, ?_⟩
  · rw [hreads.count 1 2 ⟨by decide, by decide, by decide, by decide⟩, hlast, Option.map_some,
      Option.getD_some]
    decide
  · rw [hreads.count 0 0 ⟨by decide, by decide, by decide, by decide⟩, hfirst, Option.map_some,
      Option.getD_some]
    decide
  · rw [hreads.count 0 1 ⟨by decide, by decide, by decide, by decide⟩, hnone, Option.map_none,
      Option.getD_none, hkept]
  · exact (hreads.crash_iff 6148914691236517206 0).mpr fun h => absurd h.2.1 (by decide)

end EscapeTime.Proofs
