import EscapeTime.Proofs.FileWrites
import EscapeTime.Proofs.ImageSizes
import EscapeTime.Proofs.RangeCover
import EscapeTime.Session

/-!
# What a render leaves in its file

A render that ends with a report has written the header for the lattice's sides and, row by row, one
gray level per sample. Chunks, workers, pixel cap and logger have no part in the bytes.
-/

namespace EscapeTime.Proofs
open Graymap

lemma bind_eq_ok {ε α β : Type} {x : Except ε α} {f : α → Except ε β} {b : β}
    (h : (x >>= f) = .ok b) : ∃ a, x = .ok a ∧ f a = .ok b := by
  cases x with
  | error e => cases h
  | ok a => exact ⟨a, rfl, h⟩

lemma mapError_eq_ok {ε δ α : Type} {x : Except ε α} {f : ε → δ} {a : α}
    (h : x.mapError f = .ok a) : x = .ok a := by
  cases x with
  | error e => cases h
  | ok b => exact congrArg Except.ok (Except.ok.inj h)

lemma checkBudget_eq_ok {budget : Int64} {u : Unit} (h : Renderer.checkBudget budget = .ok u) :
    0 ≤ budget.toInt ∧ budget.toInt < 2 ^ 31 := by
  unfold Renderer.checkBudget at h
  split at h
  · cases h
  · rename_i hbudget
    obtain ⟨hlow, hhigh⟩ := not_or.mp hbudget
    have hzero : (0 : Int64).toInt = 0 := by decide
    have hmax : Renderer.maxBudget.toInt = 2 ^ 31 - 1 := by decide
    rw [Int64.lt_iff_toInt_lt] at hlow hhigh
    omega

lemma checkBudget_of_le {budget : Int64} (hlow : 0 ≤ budget.toInt)
    (hhigh : budget.toInt ≤ 2 ^ 31 - 1) : Renderer.checkBudget budget = .ok () := by
  have hzero : (0 : Int64).toInt = 0 := by decide
  have hmax : Renderer.maxBudget.toInt = 2 ^ 31 - 1 := by decide
  apply if_neg
  rw [Int64.lt_iff_toInt_lt, Int64.lt_iff_toInt_lt]
  omega

lemma renderer_spread_covers {r : Renderer} {n : Nat} {ranges : List Range} (hn : n ≤ 2 ^ 62)
    (h : r.spread n = .ok ranges) : Covers ranges n := by
  have htoInt : (Int64.ofNat n).toInt = n := Int64.toInt_ofNat_of_lt (by omega)
  obtain ⟨-, hsplit⟩ := spread_eq_ok (mapError_eq_ok h)
  have hcovers := split_covers_of_le (by omega) hsplit
  rwa [htoInt, Int.toNat_natCast] at hcovers

lemma place_lt {rows cols i j : Nat} (hi : i < rows) (hj : j < cols) : i * cols + j < rows * cols := by
  have hrow : (i + 1) * cols ≤ rows * cols := Nat.mul_le_mul_right cols hi
  rw [Nat.succ_mul] at hrow
  omega

lemma place_div {cols i j : Nat} (hj : j < cols) : (i * cols + j) / cols = i := by
  rw [Nat.mul_comm, Nat.mul_add_div (by omega), Nat.div_eq_of_lt hj, Nat.add_zero]

lemma place_mod {cols i j : Nat} (hj : j < cols) : (i * cols + j) % cols = j := by
  rw [Nat.mul_comm, Nat.mul_add_mod, Nat.mod_eq_of_lt hj]

lemma follow_le (c : Point) (budget : Nat) (z : Point) (count : Nat) :
    Orbit.follow c budget z count ≤ count + budget := by
  induction budget generalizing z count with
  | zero => exact Nat.le_refl _
  | succ budget ih =>
    rw [Orbit.follow]
    split
    · omega
    · have := ih (Orbit.next c z) (count + 1)
      omega

/-- A count never exceeds its budget, so 32 bits hold it. -/
lemma toInt_countAtPlace (lattice : Lattice) (cols : Nat) {budget : Int64} (k : Nat)
    (hbudget : budget.toInt < 2 ^ 31) :
    (Renderer.countAtPlace lattice cols budget k).toInt =
      escapeCount (lattice.point (k / cols : Nat) (k % cols : Nat)) budget := by
  have hle := follow_le (lattice.point (k / cols : Nat) (k % cols : Nat)) budget.toInt.toNat
    Orbit.start 0
  unfold Renderer.countAtPlace escapeCount
  exact Int32.toInt_ofNat_of_lt (by omega)

/-- A computed grid has the asked rows, the viewport's columns, and at each place the count of the
sample there. -/
theorem countGrid_eq_ok {r : Renderer} {rows budget : Int64} {grid : Grid}
    (h : r.countGrid rows budget = .ok grid) :
    budget.toInt < 2 ^ 31 ∧ 2 ≤ rows.toInt ∧ 2 ≤ (r.settings.viewport.columns rows).toInt ∧
      grid.rows = rows.toInt.toNat ∧ grid.cols = (r.settings.viewport.columns rows).toInt.toNat ∧
      ∃ lattice, Lattice.ofViewport r.settings.viewport rows (r.settings.viewport.columns rows) =
          .ok lattice ∧
        ∀ k, k < grid.rows * grid.cols →
          grid.counts[k]? = some (Renderer.countAtPlace lattice grid.cols budget k) := by
  unfold Renderer.countGrid at h
  obtain ⟨_, hbudget, h⟩ := bind_eq_ok h
  obtain ⟨_, -, h⟩ := bind_eq_ok h
  obtain ⟨lattice, hlattice, h⟩ := bind_eq_ok h
  obtain ⟨blank, hblank, h⟩ := bind_eq_ok h
  obtain ⟨ranges, hranges, hfill⟩ := bind_eq_ok h
  obtain ⟨-, hsmall⟩ := checkBudget_eq_ok (mapError_eq_ok hbudget)
  obtain ⟨htworows, htwocols, hrows, hcols⟩ := new_grid_eq_ok (mapError_eq_ok (mapError_eq_ok hblank))
  cases hfill
  refine ⟨hsmall, htworows, htwocols, hrows, hcols, lattice, mapError_eq_ok hlattice, ?_⟩
  intro k hk
  have hfits := blank.fits
  have hsize := blank.size_counts
  have hcover := renderer_spread_covers (n := blank.size)
    (by unfold Grid.size; unfold Memory.limit at hfits; omega) hranges
  exact getElem?_fillAll hcover.indices _ _ rfl k (by unfold Grid.size; rw [hsize]; exact hk)

/-- A shaded raster has a column per column and a row per row of its grid, and at each place the
gray level of the count there. -/
theorem shadeRaster_eq_ok {r : Renderer} {grid : Grid} {budget : Int64} {raster : Raster}
    (h : r.shadeRaster (some grid) budget = .ok raster) :
    raster.width = grid.cols ∧ raster.height = grid.rows ∧
      ∃ pixels, raster.pixels = some pixels ∧
        ∀ k, k < grid.rows * grid.cols → pixels[k]? = some (Renderer.grayAtPlace grid budget k) := by
  unfold Renderer.shadeRaster at h
  obtain ⟨checked, hcheck, h⟩ := bind_eq_ok h
  obtain ⟨blank, hblank, h⟩ := bind_eq_ok h
  obtain ⟨ranges, hranges, hfill⟩ := bind_eq_ok h
  have hgrid : checked = grid := by
    have hsome := mapError_eq_ok hcheck
    unfold Renderer.checkShade at hsome
    split at hsome
    · cases hsome
    · exact (Except.ok.inj hsome).symm
  subst hgrid
  have htworows := checked.two_le_rows
  have htwocols := checked.two_le_cols
  have hgridfits := checked.fits
  obtain ⟨hrows, hcols⟩ : (Int64.ofNat checked.rows).toInt = checked.rows ∧
      (Int64.ofNat checked.cols).toInt = checked.cols :=
    toInt_ofNat_sides (by omega) (by omega) (by omega)
  obtain ⟨-, -, -, -, hwidth, hheight, black, -, hpixels⟩ :=
    build_eq_ok_iff.mp (mapError_eq_ok (mapError_eq_ok hblank))
  rw [hcols, Int.toNat_natCast] at hwidth
  rw [hrows, Int.toNat_natCast] at hheight
  have hfits := blank.fits
  unfold Memory.limit at hfits
  have hcover := renderer_spread_covers (by omega) hranges
  cases hfill
  refine ⟨hwidth, hheight, Range.fillAll ranges (Renderer.grayAtPlace checked budget) black.val, ?_, ?_⟩
  · change blank.pixels.map _ = _
    rw [hpixels]
    rfl
  · intro k hk
    exact getElem?_fillAll hcover.indices _ _ (blank.size_pixels _ hpixels) k
      (by rw [hwidth, hheight, Nat.mul_comm]; exact hk)

/-- The gray level of the sample in a row and column. -/
def sampleGray (lattice : Lattice) (budget : Int64) (row col : Nat) : UInt8 :=
  Tone.ofCount (escapeCount (lattice.point row col) budget) budget.toInt

theorem draw_eq_ok {r : Renderer} {budget rows : Int64} {raster : Raster}
    (h : (r.draw budget rows).outcome = .ok raster) :
    2 ≤ rows.toInt ∧ 2 ≤ (r.settings.viewport.columns rows).toInt ∧
      raster.width = (r.settings.viewport.columns rows).toInt.toNat ∧
      raster.height = rows.toInt.toNat ∧
      ∃ lattice pixels, Lattice.ofViewport r.settings.viewport rows
          (r.settings.viewport.columns rows) = .ok lattice ∧
        raster.pixels = some pixels ∧
        ∀ i j, i < raster.height → j < raster.width →
          pixels[i * raster.width + j]? = some (sampleGray lattice budget i j) := by
  unfold Renderer.draw Renderer.compute at h
  cases hgrid : r.countGrid rows budget with
  | error a => rw [hgrid] at h; cases h
  | ok grid =>
    rw [hgrid] at h
    dsimp only [Renderer.shade] at h
    cases hshade : r.shadeRaster (some grid) budget with
    | error a => rw [hshade] at h; cases h
    | ok shaded =>
      rw [hshade] at h
      cases h
      obtain ⟨hbudget, htworows, htwocols, hrows, hcols, lattice, hlattice, hcount⟩ :=
        countGrid_eq_ok hgrid
      obtain ⟨hwidth, hheight, pixels, hpixels, hgray⟩ := shadeRaster_eq_ok hshade
      refine ⟨htworows, htwocols, by rw [hwidth, hcols], by rw [hheight, hrows], lattice, pixels,
        hlattice, hpixels, ?_⟩
      intro i j hi hj
      rw [hwidth] at hj ⊢
      rw [hheight] at hi
      have hplace := place_lt hi hj
      rw [hgray _ hplace, Renderer.grayAtPlace, Array.getD_eq_getD_getElem?, hcount _ hplace,
        Option.getD_some, toInt_countAtPlace _ _ _ hbudget, place_div hj, place_mod hj]
      rfl

lemma length_ofInt_le (x : Int64) : (Numeral.ofInt x.toInt).length ≤ 20 := by
  have hdigits : ∀ n : Nat, n ≤ 2 ^ 63 → (Numeral.ofNat n).length ≤ 19 := by
    intro n hn
    exact (Nat.length_toDigits_le_iff (by decide) (by decide)).mpr (by omega)
  have hlow := Int64.le_toInt x
  have hhigh := Int64.toInt_lt x
  cases hx : x.toInt with
  | ofNat n =>
    rw [hx] at hhigh
    have := hdigits n (by simp at hhigh; omega)
    rw [Numeral.ofInt]
    omega
  | negSucc n =>
    have := hdigits (n + 1) (by omega)
    rw [Numeral.ofInt, List.length_cons]
    omega

lemma length_headerBytes_le (width height : Int64) : (headerBytes width height).length ≤ 66 := by
  have hwidth := length_ofInt_le width
  have hheight := length_ofInt_le height
  have hvalue := length_ofInt_le Graymap.maxValue
  simp only [headerBytes, headerChars, List.length_map, List.length_append, List.length_cons,
    List.length_nil]
  omega

/-- The announced size of a raster's file is its size: nothing wraps. -/
lemma toInt_fileSize (raster : Raster) :
    (fileSize (Int64.ofNat raster.width) (Int64.ofNat raster.height)).toInt =
      ((headerBytes (Int64.ofNat raster.width) (Int64.ofNat raster.height)).length +
        raster.width * raster.height : Nat) := by
  obtain ⟨hwidth, hheight⟩ := toInt_ofNat_sides raster.width_pos raster.height_pos raster.fits
  have hfits := raster.fits
  unfold Memory.limit at hfits
  have hprod : (Int64.ofNat raster.width * Int64.ofNat raster.height).toInt =
      (raster.width * raster.height : Nat) := by
    rw [toInt_mul_of_le (by omega) (by omega) (by rw [hwidth, hheight]; unfold maxInt; omega),
      hwidth, hheight, Int.natCast_mul]
  have hheader := length_headerBytes_le (Int64.ofNat raster.width) (Int64.ofNat raster.height)
  rw [headerBytes, List.length_map] at hheader ⊢
  have hlength := Int64.toInt_ofNat_of_lt
    (n := (headerChars (Int64.ofNat raster.width) (Int64.ofNat raster.height)).length) (by omega)
  unfold fileSize
  rw [toInt_add_of_le (by omega) (by omega) (by unfold maxInt; omega), hprod, hlength, Int.natCast_add]

/-- A render that ended with a report, with the tree it left behind: by any renderer, or by one that
was started for this render only. -/
inductive Rendered (v : Viewport) (budget rows : Int64) (path : String) : Report → Tree → Prop where
  | renderer {r : Renderer} {t : Tree} {late? : Option LateFault} {report : Report} :
      r.settings.viewport = v → (r.render t path budget rows late?).2.outcome = .ok report →
      Rendered v budget rows path report (r.render t path budget rows late?).1
  | once {s : Session} {settings : Settings} {late? : Option LateFault} {report : Report} :
      settings.viewport = v →
      (s.perform (.renderOnce settings path budget rows late?)).reply = .report report →
      Rendered v budget rows path report
        (s.perform (.renderOnce settings path budget rows late?)).session.tree

/-- The file of a lattice: the header for its sides, then as many bytes as there are samples, the one
in row `i` and column `j` holding the gray level of that sample. -/
structure ShowsSamples (lattice : Lattice) (rows cols budget : Int64) (file : List UInt8) : Prop where
  header : headerBytes cols rows <+: file
  length : file.length = (headerBytes cols rows).length + rows.toInt.toNat * cols.toInt.toNat
  sample : ∀ i j, i < rows.toInt.toNat → j < cols.toInt.toNat →
    file[(headerBytes cols rows).length + i * cols.toInt.toNat + j]? =
      some (sampleGray lattice budget i j)

/-- What a render leaves at its path and reports about it: the file of the lattice over the viewport,
with that file's sides and, without any wrap, its length. -/
def Delivered (v : Viewport) (budget rows : Int64) (path : String) (report : Report) (tree : Tree) :
    Prop :=
  ∃ lattice file, Lattice.ofViewport v rows (v.columns rows) = .ok lattice ∧
    tree.read? path = some file ∧ ShowsSamples lattice rows (v.columns rows) budget file ∧
    report.path = path ∧ (report.width : Int) = (v.columns rows).toInt ∧
    (report.height : Int) = rows.toInt ∧ report.bytes.toInt = file.length

lemma start_settings {processors : Processors} {settings : Settings} {r : Renderer}
    (h : Renderer.start processors settings = .ok r) : r.settings = settings := by
  unfold Renderer.start at h
  cases hpool : Pool.start processors settings.workers with
  | error c => rw [hpool] at h; cases h
  | ok pool => rw [hpool] at h; cases h; rfl

lemma rendered_by {v : Viewport} {budget rows : Int64} {path : String} {report : Report}
    {tree : Tree} (h : Rendered v budget rows path report tree) :
    ∃ (r : Renderer) (t : Tree) (late? : Option LateFault), r.settings.viewport = v ∧
      (r.render t path budget rows late?).2.outcome = .ok report ∧
      tree = (r.render t path budget rows late?).1 := by
  cases h with
  | @renderer r t late? _ hv hout => exact ⟨r, t, late?, hv, hout, rfl⟩
  | @once s settings late? _ hv hreply =>
    rw [Session.perform] at hreply ⊢
    unfold Session.withStarted at hreply ⊢
    cases hstart : Renderer.start s.processors settings with
    | error c => rw [hstart] at hreply; cases hreply
    | ok r =>
      rw [hstart] at hreply
      refine ⟨r, s.tree, late?, by rw [start_settings hstart, hv], ?_, rfl⟩
      dsimp only [Session.renderWith] at hreply
      split at hreply
      · cases hreply
      · rename_i done hdone
        cases hreply
        exact hdone

/-- What a successful render did: it drew a raster and wrote its image. -/
lemma render_eq_ok {r : Renderer} {t : Tree} {path : String} {budget rows : Int64}
    {late? : Option LateFault} {report : Report}
    (h : (r.render t path budget rows late?).2.outcome = .ok report) :
    ∃ raster, (r.draw budget rows).outcome = .ok raster ∧
      (save t path (.ofRaster raster)).2 = .ok () ∧
      (r.render t path budget rows late?).1 = (save t path (.ofRaster raster)).1 ∧
      report = ⟨path, raster.width, raster.height,
        fileSize (Int64.ofNat raster.width) (Int64.ofNat raster.height)⟩ := by
  unfold Renderer.render at h ⊢
  dsimp only at h ⊢
  cases hdraw : (r.draw budget rows).outcome with
  | error a => rw [hdraw] at h; cases h
  | ok raster =>
    rw [hdraw] at h
    dsimp only at h
    cases hsave : (save t path (.ofRaster raster) late?).2 with
    | error f => rw [hsave] at h; cases h
    | ok _ =>
      rw [hsave] at h
      cases h
      obtain ⟨-, rfl, -⟩ := save_eq_ok hsave
      exact ⟨raster, rfl, hsave, rfl, rfl⟩

/-- The samples leave no choice in the bytes. -/
lemma showsSamples_unique {lattice : Lattice} {rows cols budget : Int64} {file other : List UInt8}
    (hfile : ShowsSamples lattice rows cols budget file)
    (hother : ShowsSamples lattice rows cols budget other) : file = other := by
  obtain ⟨body, rfl⟩ := hfile.header
  obtain ⟨body', rfl⟩ := hother.header
  have hlength := hfile.length
  have hlength' := hother.length
  rw [List.length_append] at hlength hlength'
  congr 1
  apply List.ext_getElem?
  intro k
  by_cases hk : k < rows.toInt.toNat * cols.toInt.toNat
  · have hcols : 0 < cols.toInt.toNat := Nat.pos_of_mul_pos_left (Nat.zero_lt_of_lt hk)
    have hi : k / cols.toInt.toNat < rows.toInt.toNat := Nat.div_lt_of_lt_mul (by rwa [Nat.mul_comm])
    have hj : k % cols.toInt.toNat < cols.toInt.toNat := Nat.mod_lt _ hcols
    have hplace : k / cols.toInt.toNat * cols.toInt.toNat + k % cols.toInt.toNat = k :=
      Nat.div_add_mod' _ _
    have hsample := (hfile.sample _ _ hi hj).trans (hother.sample _ _ hi hj).symm
    rwa [Nat.add_assoc, hplace, List.getElem?_append_right (Nat.le_add_right _ _),
      List.getElem?_append_right (Nat.le_add_right _ _), Nat.add_sub_cancel_left] at hsample
  · rw [List.getElem?_eq_none (by omega), List.getElem?_eq_none (by omega)]

lemma showsSamples_encode {raster : Raster} {pixels : Array UInt8} {lattice : Lattice}
    {rows cols budget : Int64} (hrows : 0 ≤ rows.toInt) (hcols : 0 ≤ cols.toInt)
    (hwidth : raster.width = cols.toInt.toNat) (hheight : raster.height = rows.toInt.toNat)
    (hpixels : raster.pixels = some pixels)
    (hsample : ∀ i j, i < raster.height → j < raster.width →
      pixels[i * raster.width + j]? = some (sampleGray lattice budget i j)) :
    ShowsSamples lattice rows cols budget (encode (.ofRaster raster)) := by
  have hencode : encode (.ofRaster raster) = headerBytes cols rows ++ pixels.toList := by
    rw [encode, ofRaster, hpixels, hwidth, hheight,
      ← eq_ofNat_of_toInt (Int.toNat_of_nonneg hcols).symm,
      ← eq_ofNat_of_toInt (Int.toNat_of_nonneg hrows).symm]
    rfl
  have hsize : pixels.toList.length = raster.width * raster.height :=
    Array.length_toList.trans (raster.size_pixels _ hpixels)
  rw [hwidth, hheight] at hsize hsample
  rw [hencode]
  refine ⟨List.prefix_append _ _, ?_, ?_⟩
  · rw [List.length_append, hsize, Nat.mul_comm]
  · intro i j hi hj
    rw [Nat.add_assoc, List.getElem?_append_right (Nat.le_add_right _ _), Nat.add_sub_cancel_left,
      Array.getElem?_toList]
    exact hsample i j hi hj

lemma rendered_delivered {v : Viewport} {budget rows : Int64} {path : String} {report : Report}
    {tree : Tree} (h : Rendered v budget rows path report tree) :
    Delivered v budget rows path report tree := by
  obtain ⟨r, t, late?, rfl, hout, rfl⟩ := rendered_by h
  obtain ⟨raster, hdraw, hsave, htree, rfl⟩ := render_eq_ok hout
  obtain ⟨hrows, hcols, hwidth, hheight, lattice, pixels, hlattice, hpixels, hsample⟩ :=
    draw_eq_ok hdraw
  have hshows := showsSamples_encode (by omega) (by omega) hwidth hheight hpixels hsample
  refine ⟨lattice, encode (.ofRaster raster), hlattice, ?_, hshows, rfl, ?_, ?_, ?_⟩
  · rw [htree]
    exact read?_save hsave
  · dsimp only
    omega
  · dsimp only
    omega
  · have hlength : pixels.toList.length = raster.width * raster.height :=
      Array.length_toList.trans (raster.size_pixels _ hpixels)
    dsimp only
    rw [toInt_fileSize, encode, List.length_append, ofRaster, hpixels, Option.getD_some, hlength]

/-- End-to-end meaning of a render. Whoever rendered, the file at the path is the header followed by
the gray levels of the lattice over the viewport, and the report gives its sides and its length; two
renders of one viewport, budget and number of rows leave the same bytes. -/
theorem rendered_file {v : Viewport} {budget rows : Int64} {path : String} {report : Report}
    {tree : Tree} (h : Rendered v budget rows path report tree) :
    Delivered v budget rows path report tree ∧ ∀ (path' : String) (report' : Report) (tree' : Tree),
      Rendered v budget rows path' report' tree' → tree'.read? path' = tree.read? path := by
  refine ⟨rendered_delivered h, ?_⟩
  intro path' report' tree' h'
  obtain ⟨lattice, file, hlattice, hfile, hshows, -⟩ := rendered_delivered h
  obtain ⟨lattice', file', hlattice', hfile', hshows', -⟩ := rendered_delivered h'
  cases hlattice.symm.trans hlattice'
  rw [hfile, hfile', showsSamples_unique hshows hshows']

/-- Six samples, drawn by four workers and by one that takes four at a time. -/
theorem rendered_file_six_samples :
    let plain : Renderer := ⟨{}, ⟨4, false, by decide, by decide⟩⟩
    let chunked : Renderer :=
      ⟨{ workers := 1, chunk := 4, maxPixels := 6 }, ⟨1, false, by decide, by decide⟩⟩
    (plain.render .scratch "a.pgm" 5 2).2.outcome = .ok ⟨"a.pgm", 3, 2, 17⟩ ∧
      (chunked.render .scratch "b.pgm" 5 2).2.outcome = .ok ⟨"b.pgm", 3, 2, 17⟩ ∧
      Delivered .standard 5 2 "a.pgm" ⟨"a.pgm", 3, 2, 17⟩ (plain.render .scratch "a.pgm" 5 2).1 ∧
      (chunked.render .scratch "b.pgm" 5 2).1.read? "b.pgm" =
        (plain.render .scratch "a.pgm" 5 2).1.read? "a.pgm" := by
  intro plain chunked
  have hplain : (plain.render .scratch "a.pgm" 5 2).2.outcome = .ok ⟨"a.pgm", 3, 2, 17⟩ := by
    decide +kernel
  have hchunked : (chunked.render .scratch "b.pgm" 5 2).2.outcome = .ok ⟨"b.pgm", 3, 2, 17⟩ := by
    decide +kernel
  obtain ⟨hdelivered, hsame⟩ := rendered_file (.renderer rfl hplain)
  exact ⟨hplain, hchunked, hdelivered, hsame _ _ _ (.renderer rfl hchunked)⟩

end EscapeTime.Proofs
