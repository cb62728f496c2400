import EscapeTime.Proofs.ChunkSizes
import EscapeTime.Proofs.ExactPartition

/-!
# When a grid is computed

What a computation asks of its arguments, of memory and of the pool stands in one list. The first demand
that is not met decides the failure, although the checks are spread over the stages and some are made
twice. Where all are met a grid comes back, unless it is handed out in more ranges than can be counted.
-/

namespace EscapeTime.Proofs
open EscapeTime.Partition

/-- A condition with the failure that breaking it ends in, and the kind of that failure. -/
structure Demand where
  kind : Kind
  failure : Failure
  holds : Prop

def AllHold (demands : List Demand) : Prop := ∀ d ∈ demands, d.holds

/-- The first demand of the list that does not hold. -/
inductive FirstBroken : List Demand → Demand → Prop where
  | here {d : Demand} {ds : List Demand} : ¬d.holds → FirstBroken (d :: ds) d
  | later {d e : Demand} {ds : List Demand} : d.holds → FirstBroken ds e → FirstBroken (d :: ds) e

def Succeeds {α : Type} (x : Except Abort α) : Prop := ∃ a, x = .ok a

/-- A computation that hands out so many ranges succeeds if they can be counted, and crashes if not. -/
def Counted {α : Type} (ranges : Nat) (x : Except Abort α) : Prop :=
  (ranges < Pool.counterLimit → Succeeds x) ∧
    (Pool.counterLimit ≤ ranges → x = .error (.crash .negativeCounter))

/-- The first demand that is broken decides how the computation fails; where all hold, it ends as
`ends` says. -/
structure Decides {α : Type} (demands : List Demand) (ends : Except Abort α → Prop)
    (x : Except Abort α) : Prop where
  of_all : AllHold demands → ends x
  error_of_first : ∀ d, FirstBroken demands d → x = .error (.failure d.failure)

lemma allHold_cons {d : Demand} {ds : List Demand} : AllHold (d :: ds) ↔ d.holds ∧ AllHold ds := by
  simp [AllHold]

lemma allHold_append {ds es : List Demand} : AllHold (ds ++ es) ↔ AllHold ds ∧ AllHold es := by
  simp [AllHold, or_imp, forall_and]

lemma allHold_or_firstBroken (ds : List Demand) : AllHold ds ∨ ∃ d, FirstBroken ds d := by
  induction ds with
  | nil => exact .inl (by simp [AllHold])
  | cons d ds ih =>
    by_cases hd : d.holds
    · rcases ih with hall | ⟨e, he⟩
      · exact .inl (allHold_cons.mpr ⟨hd, hall⟩)
      · exact .inr ⟨e, .later hd he⟩
    · exact .inr ⟨d, .here hd⟩

lemma not_allHold_of_firstBroken {ds : List Demand} {d : Demand} (h : FirstBroken ds d) :
    ¬AllHold ds := by
  induction h with
  | here hbroken => exact fun hall => hbroken (allHold_cons.mp hall).1
  | later _ _ ih => exact fun hall => ih (allHold_cons.mp hall).2

lemma firstBroken_append {ds es : List Demand} {d : Demand} (h : FirstBroken (ds ++ es) d) :
    FirstBroken ds d ∨ AllHold ds ∧ FirstBroken es d := by
  induction ds with
  | nil => exact .inr ⟨by simp [AllHold], h⟩
  | cons e ds ih =>
    cases h with
    | here hbroken => exact .inl (.here hbroken)
    | later hholds hrest =>
      rcases ih hrest with hfirst | ⟨hall, hlast⟩
      · exact .inl (.later hholds hfirst)
      · exact .inr ⟨allHold_cons.mpr ⟨hholds, hall⟩, hlast⟩

/-- Demands on a stage come before those on what follows it. -/
lemma decides_bind {α β : Type} {ds es : List Demand} {x : Except Abort α} {k : α → Except Abort β}
    {ends : Except Abort β → Prop} (hx : Decides ds Succeeds x)
    (hk : ∀ a, AllHold ds → x = .ok a → Decides es ends (k a)) :
    Decides (ds ++ es) ends (x >>= k) := by
  constructor
  · intro hall
    obtain ⟨hds, hes⟩ := allHold_append.mp hall
    obtain ⟨a, rfl⟩ := hx.of_all hds
    exact (hk a hds rfl).of_all hes
  · intro d hd
    rcases firstBroken_append hd with hfirst | ⟨hds, hlast⟩
    · rw [hx.error_of_first d hfirst]
      rfl
    · obtain ⟨a, rfl⟩ := hx.of_all hds
      exact (hk a hds rfl).error_of_first d hlast

lemma decides_one {α : Type} {d : Demand} {ends : Except Abort α → Prop} {x : Except Abort α}
    (hok : d.holds → ends x) (herror : ¬d.holds → x = .error (.failure d.failure)) :
    Decides [d] ends x := by
  constructor
  · intro hall
    exact hok (allHold_cons.mp hall).1
  · intro e he
    cases he with
    | here hbroken => exact herror hbroken
    | later _ hrest => cases hrest

lemma decides_map {α β : Type} {ds : List Demand} {ranges : Nat} {x : Except Abort α} (f : α → β)
    (h : Decides ds (Counted ranges) x) : Decides ds (Counted ranges) (x.map f) := by
  constructor
  · intro hall
    obtain ⟨hfew, hmany⟩ := h.of_all hall
    constructor
    · intro hlt
      obtain ⟨a, rfl⟩ := hfew hlt
      exact ⟨f a, rfl⟩
    · intro hge
      rw [hmany hge]
      rfl
  · intro d hd
    rw [h.error_of_first d hd]
    rfl

/-- A computation that is decided succeeds exactly when all demands hold and its ranges are counted,
crashes exactly when they hold and the ranges are not, and fails exactly with the failure of the first
demand that is broken. -/
lemma decides_iff {α : Type} {ds : List Demand} {ranges : Nat} {x : Except Abort α}
    (h : Decides ds (Counted ranges) x) :
    ((∃ a, x = .ok a) ↔ AllHold ds ∧ ranges < Pool.counterLimit) ∧
      (∀ f, x = .error (.failure f) ↔ ∃ d, FirstBroken ds d ∧ f = d.failure) ∧
      ∀ c, x = .error (.crash c) ↔
        AllHold ds ∧ Pool.counterLimit ≤ ranges ∧ c = .negativeCounter := by
  rcases allHold_or_firstBroken ds with hall | ⟨d, hd⟩
  · obtain ⟨hfew, hmany⟩ := h.of_all hall
    have hnone : ∀ d, ¬FirstBroken ds d := fun d hd => not_allHold_of_firstBroken hd hall
    rcases Nat.lt_or_ge ranges Pool.counterLimit with hlt | hge
    · obtain ⟨a, rfl⟩ := hfew hlt
      refine ⟨⟨fun _ => ⟨hall, hlt⟩, fun _ => ⟨a, rfl⟩⟩, fun f => ⟨nofun, ?_⟩, fun c => ⟨nofun, ?_⟩⟩
      · rintro ⟨d, hd, -⟩
        exact absurd hd (hnone d)
      · rintro ⟨-, hge, -⟩
        exact absurd hlt (Nat.not_lt.mpr hge)
    · have hx := hmany hge
      subst hx
      refine ⟨⟨nofun, ?_⟩, fun f => ⟨nofun, ?_⟩, fun c => ⟨?_, ?_⟩⟩
      · rintro ⟨-, hlt⟩
        exact absurd hlt (Nat.not_lt.mpr hge)
      · rintro ⟨d, hd, -⟩
        exact absurd hd (hnone d)
      · rintro ⟨⟩
        exact ⟨hall, hge, rfl⟩
      · rintro ⟨-, -, rfl⟩
        rfl
  · have hbroken := not_allHold_of_firstBroken hd
    have hx := h.error_of_first d hd
    refine ⟨⟨?_, fun hall => absurd hall.1 hbroken⟩, fun f => ⟨?_, ?_⟩,
      fun c => ⟨?_, fun hall => absurd hall.1 hbroken⟩⟩
    · rintro ⟨a, ha⟩
      cases hx.symm.trans ha
    · intro hf
      cases hx.symm.trans hf
      exact ⟨d, hd, rfl⟩
    · rintro ⟨e, he, rfl⟩
      exact h.error_of_first e he
    · intro hc
      cases hx.symm.trans hc

/-- The budget is one that counts of 32 bits can reach. -/
def budgetDemand (budget : Int64) : Demand where
  kind := .iterations
  failure := .cause (.budget budget)
  holds := 0 ≤ budget.toInt ∧ budget.toInt ≤ 2 ^ 31 - 1

def viewportDemand (v : Viewport) : Demand where
  kind := .viewport
  failure := .cause (.emptyViewport v)
  holds := v.IsProper

def shapeDemand (rows cols : Int64) : Demand where
  kind := .dimension
  failure := .cause (.gridShape rows cols)
  holds := 2 ≤ rows.toInt ∧ 2 ≤ cols.toInt

/-- The failure of a grid that finds no room. -/
def noRoom (cause : Cause) : Failure := .within "mandel: allocate grid" (.cause cause)

/-- What a grid asks of memory: its number of samples is a machine integer, within the cap if there is
one, and its counts fit a buffer at four bytes each. -/
def roomDemands (rows cols cap : Int64) : List Demand :=
  let samples := rows.toInt * cols.toInt
  [⟨.outOfMemory, noRoom (.overflow cols rows), samples ≤ maxInt⟩,
    ⟨.outOfMemory, noRoom (.overLimit (cols * rows) cap), 0 < cap.toInt → samples ≤ cap.toInt⟩,
    ⟨.outOfMemory, noRoom (.refused .refusedLength), samples * 4 ≤ Memory.limit⟩]

def openDemand (p : Pool) : Demand where
  kind := .closed
  failure := .kind .closed
  holds := p.closed = false

/-- All that a computation asks for, in order. -/
def computeDemands (r : Renderer) (rows budget : Int64) : List Demand :=
  let v := r.settings.viewport
  let cols := v.columns rows
  budgetDemand budget :: viewportDemand v :: shapeDemand rows cols ::
    (roomDemands rows cols r.settings.maxPixels ++ [openDemand r.pool])

/-- Each failure has the kind of its demand, and no other but the wider one. -/
lemma computeDemands_blame (r : Renderer) (rows budget : Int64) :
    ∀ d ∈ computeDemands r rows budget, Blames d.failure d.kind := by
  simp only [computeDemands, roomDemands, List.cons_append, List.nil_append, List.forall_mem_cons]
  refine ⟨blames_cause _, blames_cause _, blames_cause _, blames_within _ (blames_cause _),
    blames_within _ (blames_cause _), blames_within _ (blames_cause _), ⟨fun _ => rfl, rfl⟩, ?_⟩
  simp

lemma budget_decides (budget : Int64) :
    Decides [budgetDemand budget] Succeeds (Renderer.fallible (Renderer.checkBudget budget)) := by
  apply decides_one
  · rintro ⟨hlow, hhigh⟩
    rw [checkBudget_of_le hlow hhigh]
    exact ⟨(), rfl⟩
  · intro hbroken
    have hzero : (0 : Int64).toInt = 0 := by decide
    have hmax : Renderer.maxBudget.toInt = 2 ^ 31 - 1 := by decide
    have hrefused : budget < 0 ∨ Renderer.maxBudget < budget := by
      rw [Int64.lt_iff_toInt_lt, Int64.lt_iff_toInt_lt]
      dsimp only [budgetDemand] at hbroken
      omega
    unfold Renderer.checkBudget
    rw [if_pos hrefused]
    rfl

lemma viewport_decides (v : Viewport) :
    Decides [viewportDemand v] Succeeds (Renderer.fallible v.check) := by
  apply decides_one
  · intro (hproper : v.IsProper)
    rw [Viewport.check, if_pos hproper]
    exact ⟨(), rfl⟩
  · intro (hbroken : ¬v.IsProper)
    rw [Viewport.check, if_neg hbroken]
    rfl

lemma lattice_decides {v : Viewport} (hproper : v.IsProper) (rows cols : Int64) :
    Decides [shapeDemand rows cols] Succeeds (Renderer.fallible (Lattice.ofViewport v rows cols)) := by
  have htwo : (2 : Int64).toInt = 2 := by decide
  have hcheck : v.check = .ok () := if_pos hproper
  have hshape : rows < 2 ∨ cols < 2 ↔ ¬(2 ≤ rows.toInt ∧ 2 ≤ cols.toInt) := by
    rw [Int64.lt_iff_toInt_lt, Int64.lt_iff_toInt_lt]
    omega
  unfold Lattice.ofViewport
  rw [hcheck]
  dsimp only
  apply decides_one
  · intro hsides
    rw [if_neg (fun hsmall => hshape.mp hsmall hsides)]
    exact ⟨_, rfl⟩
  · intro hbroken
    rw [if_pos (hshape.mpr hbroken)]
    rfl

lemma grid_decides {rows cols : Int64} (cap : Int64) (hrows : 2 ≤ rows.toInt) (hcols : 2 ≤ cols.toInt) :
    Decides (roomDemands rows cols cap) Succeeds (Renderer.fallible
      ((Grid.new rows cols cap).mapError (.within "mandel: allocate grid"))) := by
  have hcomm : cols.toInt * rows.toInt = rows.toInt * cols.toInt := Int.mul_comm _ _
  have hpos : 0 < rows.toInt * cols.toInt := Int.mul_pos (by omega) (by omega)
  have hsize := new_grid_map_size cap hrows hcols
  have hrefused : ∀ cause, (Memory.pixels cols rows cap >>= fun n =>
      Memory.reserve n Grid.countSize) = .error (.cause cause) →
      Renderer.fallible ((Grid.new rows cols cap).mapError (.within "mandel: allocate grid")) =
        .error (.failure (noRoom cause)) := by
    intro cause hcause
    rw [map_eq_error (hsize.trans hcause)]
    rfl
  have hgranted : rows.toInt * cols.toInt ≤ maxInt →
      (0 < cap.toInt → rows.toInt * cols.toInt ≤ cap.toInt) →
      ∃ n : Int64, Memory.pixels cols rows cap = .ok n ∧ n.toInt = rows.toInt * cols.toInt := by
    intro hmax hcap
    have hprod := toInt_mul_of_le (a := cols) (b := rows) (by omega) (by omega) (by omega)
    refine ⟨cols * rows, pixels_eq_ok_iff.mpr ⟨by omega, by omega, ?_, ?_, hprod⟩, hprod.trans hcomm⟩
    · rwa [hcomm]
    · rwa [hcomm]
  constructor
  · intro hall
    simp only [roomDemands, allHold_cons] at hall
    obtain ⟨hmax, hcap, hfit, -⟩ := hall
    obtain ⟨n, hpixels, hn⟩ := hgranted hmax hcap
    have hreserve : Memory.reserve n Grid.countSize = .ok n.toInt.toNat :=
      reserve_eq_ok_iff.mpr ⟨by omega, rfl, by unfold Grid.countSize; omega⟩
    rw [hpixels] at hsize
    obtain ⟨grid, hgrid, -⟩ := map_eq_ok (hsize.trans hreserve)
    rw [hgrid]
    exact ⟨grid, rfl⟩
  · rintro d (hover | ⟨hmax, hover | ⟨hcap, hover | ⟨-, ⟨⟩⟩⟩⟩)
    · apply hrefused
      rw [pixels_of_overflow cap (by omega) (by omega) (by rw [hcomm]; exact Int.not_le.mp hover)]
      rfl
    · obtain ⟨hcap, hover⟩ := Classical.not_imp.mp hover
      apply hrefused
      rw [pixels_of_overLimit (by omega) (by omega) (by rwa [hcomm]) hcap
        (by rw [hcomm]; exact Int.not_le.mp hover)]
      rfl
    · obtain ⟨n, hpixels, hn⟩ := hgranted hmax hcap
      dsimp only at hover
      apply hrefused
      rw [hpixels]
      exact reserve_of_refused (by omega) (by unfold Grid.countSize; omega)

/-- The list of ranges for so many places can be made: the sum that sizes it does not wrap, and it fits a
buffer at sixteen bytes a range. -/
structure ListsRanges (r : Renderer) (n : Nat) : Prop where
  sum_fits : r.settings.chunk.toInt ≤ 0 ∨ n + r.settings.chunk.toInt - 1 ≤ maxInt
  list_fits : rangesOver r n * 16 ≤ Memory.limit

lemma split_of_listsRanges {r : Renderer} {n : Nat} (h : ListsRanges r n) (hn : 0 < n)
    (hsmall : n ≤ 2 ^ 62) :
    ∃ ranges, split (Int64.ofNat n) r.settings.chunk r.pool.workers = .ok ranges := by
  have htoInt : (Int64.ofNat n).toInt = n := Int64.toInt_ofNat_of_lt (by omega)
  have hsum := h.sum_fits
  have hlist := h.list_fits
  unfold maxInt at hsum
  obtain ⟨c, hchunk, huse⟩ := chunkFor_eq_ok (n := Int64.ofNat n) r.settings.chunk (by omega)
    r.pool.workers_pos (four_workers_le r.pool)
  have hc := chunkFor_pos hchunk
  have hfit : (Int64.ofNat n).toInt + c.toInt ≤ 2 ^ 63 := by
    rcases huse with ⟨hasked, rfl⟩ | ⟨hopen, hle⟩
    · omega
    · omega
  refine ⟨_, split_of_capacity (by omega) hchunk hfit ?_⟩
  have hcount : rangeCount n c.toInt.toNat * 16 ≤ Memory.limit := by
    rw [toNat_chunk hn hsmall hchunk]
    exact hlist
  rw [toInt_capacity hc (by omega) hfit, htoInt, Int.toNat_natCast]
  unfold Memory.limit at hcount
  unfold maxRanges
  omega

lemma spread_decides {r : Renderer} {n : Nat} (h : ListsRanges r n) (hn : 0 < n) (hsmall : n ≤ 2 ^ 62) :
    Decides [openDemand r.pool] (Counted (rangesOver r n)) (r.spread n) := by
  obtain ⟨ranges, hsplit⟩ := split_of_listsRanges h hn hsmall
  rw [renderer_spread_eq, hsplit, ← length_split hn hsmall hsplit]
  dsimp only
  apply decides_one
  · intro (hopen : r.pool.closed = false)
    rw [hopen]
    constructor
    · intro hfew
      exact ⟨ranges, if_neg (Nat.not_le.mpr hfew)⟩
    · intro hmany
      exact if_pos hmany
  · intro hclosed
    have hclosed' : r.pool.closed = true := Bool.of_not_eq_false hclosed
    simp [hclosed', openDemand]

/-- The number of samples over the viewport, not as a machine integer. -/
def sampleCount (v : Viewport) (rows : Int64) : Int := rows.toInt * (v.columns rows).toInt

/-- The checks along the stages amount to the list of demands, as long as the samples of a grid that is
granted can be handed out. -/
lemma countGrid_decides {r : Renderer} {rows : Int64} (budget : Int64)
    (h : sampleCount r.settings.viewport rows * 4 ≤ Memory.limit →
      ListsRanges r (sampleCount r.settings.viewport rows).toNat) :
    Decides (computeDemands r rows budget)
      (Counted (rangesOver r (sampleCount r.settings.viewport rows).toNat))
      (r.countGrid rows budget) := by
  unfold Renderer.countGrid
  refine decides_bind (budget_decides budget) fun _ _ _ => ?_
  refine decides_bind (viewport_decides _) fun _ hproper _ => ?_
  refine decides_bind (lattice_decides (allHold_cons.mp hproper).1 rows _) fun lattice hsides _ => ?_
  obtain ⟨⟨hrows, hcols⟩, -⟩ := allHold_cons.mp hsides
  refine decides_bind (grid_decides _ hrows hcols) fun blank hroom hblank => ?_
  have hlimit : sampleCount r.settings.viewport rows * 4 ≤ Memory.limit := by
    simp only [roomDemands, allHold_cons] at hroom
    exact hroom.2.2.1
  have hsize : (blank.size : Int) = sampleCount r.settings.viewport rows :=
    new_grid_size (mapError_eq_ok (mapError_eq_ok hblank))
  have hn : blank.size = (sampleCount r.settings.viewport rows).toNat := by
    rw [← hsize, Int.toNat_natCast]
  have hsmall : blank.size ≤ 2 ^ 62 := by
    unfold Memory.limit at hlimit
    omega
  rw [← hn] at h ⊢
  exact decides_map _ (spread_decides (h hlimit) (grid_size_pos blank) hsmall)

/-- The grid has the asked rows, the viewport's columns and a count for each sample, none above the
budget. -/
structure GridWithin (v : Viewport) (rows budget : Int64) (grid : Grid) : Prop where
  rows_eq : (grid.rows : Int) = rows.toInt
  cols_eq : (grid.cols : Int) = (v.columns rows).toInt
  size_eq : (grid.size : Int) = sampleCount v rows
  count_le : ∀ count ∈ grid.counts, 0 ≤ count.toInt ∧ count.toInt ≤ budget.toInt

lemma countGrid_within {r : Renderer} {rows budget : Int64} {grid : Grid} (hbudget : 0 ≤ budget.toInt)
    (h : r.countGrid rows budget = .ok grid) : GridWithin r.settings.viewport rows budget grid := by
  obtain ⟨hsmall, htworows, htwocols, hrows, hcols, lattice, -, hcount⟩ := countGrid_eq_ok h
  have hrows' : (grid.rows : Int) = rows.toInt := by omega
  have hcols' : (grid.cols : Int) = (r.settings.viewport.columns rows).toInt := by omega
  refine ⟨hrows', hcols', ?_, ?_⟩
  · rw [Grid.size, grid.size_counts, Int.natCast_mul, hrows', hcols']
    rfl
  · intro count hmem
    obtain ⟨k, hk⟩ := Array.mem_iff_getElem?.mp hmem
    have hlt : k < grid.rows * grid.cols := by
      rw [← grid.size_counts]
      exact (Array.getElem?_eq_some_iff.mp hk).1
    rw [hcount k hlt] at hk
    cases hk
    rw [toInt_countAtPlace _ _ _ hsmall]
    have hle := follow_le (lattice.point (k / grid.cols : Nat) (k % grid.cols : Nat))
      budget.toInt.toNat Orbit.start 0
    unfold escapeCount
    omega

/-- When a grid is computed. On a renderer whose ranges can be listed, a grid comes back exactly when all
demands hold and the ranges can be counted, and a failure exactly with the first demand that does not
hold: it is of that demand's kind. Where all hold and the ranges cannot be counted, the computation
crashes. A grid that comes back has the sides asked for and counts within the budget. -/
theorem compute_decided {r : Renderer} {rows : Int64} (budget : Int64)
    (h : sampleCount r.settings.viewport rows * 4 ≤ Memory.limit →
      ListsRanges r (sampleCount r.settings.viewport rows).toNat) :
    ((∃ grid, (r.compute rows budget).outcome = .ok grid) ↔
      AllHold (computeDemands r rows budget) ∧
        rangesOver r (sampleCount r.settings.viewport rows).toNat < Pool.counterLimit) ∧
    (∀ f, (r.compute rows budget).outcome = .error (.failure f) ↔
      ∃ d, FirstBroken (computeDemands r rows budget) d ∧ f = d.failure) ∧
    (∀ c, (r.compute rows budget).outcome = .error (.crash c) ↔
      AllHold (computeDemands r rows budget) ∧
        Pool.counterLimit ≤ rangesOver r (sampleCount r.settings.viewport rows).toNat ∧
        c = .negativeCounter) ∧
    (∀ d ∈ computeDemands r rows budget, Blames d.failure d.kind) ∧
    ∀ grid, (r.compute rows budget).outcome = .ok grid →
      GridWithin r.settings.viewport rows budget grid := by
  rw [compute_outcome]
  obtain ⟨hok, hfailure, hcrash⟩ := decides_iff (countGrid_decides budget h)
  refine ⟨hok, hfailure, hcrash, computeDemands_blame r rows budget, fun grid hgrid => ?_⟩
  have hbudget := (allHold_cons.mp (hok.mp ⟨grid, hgrid⟩).1).1
  exact countGrid_within hbudget.1 hgrid

/-- Six samples and a chunk that brings their sum to the largest machine integer: the grid is computed;
on a closed pool, or under a cap of five, it is refused. -/
theorem compute_decided_six_samples :
    let r : Renderer := ⟨{ chunk := 9223372036854775802 }, ⟨4, false, by decide, by decide⟩⟩
    let capped : Renderer := ⟨{ chunk := 9223372036854775802, maxPixels := 5 }, r.pool⟩
    sampleCount .standard 2 = 6 ∧ ListsRanges r 6 ∧
      (∃ grid, (r.compute 2 5).outcome = .ok grid ∧ GridWithin .standard 2 5 grid) ∧
      (r.close.compute 2 5).outcome = .error (.failure (.kind .closed)) ∧
      (capped.compute 2 5).outcome = .error (.failure (noRoom (.overLimit 6 5))) := by
  intro r capped
  have hsamples : sampleCount .standard 2 = 6 := by decide +kernel
  have hlists : ListsRanges r 6 := ⟨.inr (by decide), by decide⟩
  have hbudget : (budgetDemand 5).holds := by
    unfold budgetDemand
    decide
  have hviewport : (viewportDemand .standard).holds := by
    unfold viewportDemand
    decide +kernel
  have hshape : (shapeDemand 2 (Viewport.standard.columns 2)).holds := by
    unfold shapeDemand
    decide +kernel
  have hroom : sampleCount .standard 2 ≤ maxInt ∧ sampleCount .standard 2 * 4 ≤ Memory.limit := by
    rw [hsamples]
    decide
  have hopen : AllHold (computeDemands r 2 5) := by
    simp only [computeDemands, roomDemands, List.cons_append, List.nil_append, allHold_cons]
    exact ⟨hbudget, hviewport, hshape, hroom.1, by decide, hroom.2, rfl, by simp [AllHold]⟩
  have hclosed : FirstBroken (computeDemands r.close 2 5) (openDemand r.close.pool) :=
    .later hbudget (.later hviewport (.later hshape
      (.later hroom.1 (.later (by decide) (.later hroom.2 (.here (by unfold openDemand; decide)))))))
  have hcapped : FirstBroken (computeDemands capped 2 5)
      ⟨.outOfMemory, noRoom (.overLimit (Viewport.standard.columns 2 * 2) 5), _⟩ :=
    .later hbudget (.later hviewport (.later hshape (.later hroom.1 (.here (by decide +kernel)))))
  have hsix : noRoom (.overLimit (Viewport.standard.columns 2 * 2) 5) = noRoom (.overLimit 6 5) := by
    decide +kernel
  have hfits : ∀ other : Renderer, other.settings.viewport = .standard → ListsRanges other 6 →
      sampleCount other.settings.viewport 2 * 4 ≤ Memory.limit →
      ListsRanges other (sampleCount other.settings.viewport 2).toNat := by
    intro other hother hsix _
    rwa [hother, hsamples]
  have hcounted : rangesOver r (sampleCount .standard 2).toNat < Pool.counterLimit := by
    rw [hsamples]
    decide
  obtain ⟨hok, -, -, -, hwithin⟩ := compute_decided 5 (hfits r rfl hlists)
  obtain ⟨-, herror, -⟩ := compute_decided 5 (hfits r.close rfl ⟨hlists.1, hlists.2⟩)
  obtain ⟨-, herror', -⟩ := compute_decided 5 (hfits capped rfl ⟨hlists.1, hlists.2⟩)
  obtain ⟨grid, hgrid⟩ := hok.mpr ⟨hopen, hcounted⟩
  refine ⟨hsamples, hlists, ⟨grid, hgrid, hwithin grid hgrid⟩, (herror _).mpr ⟨_, hclosed, rfl⟩, ?_⟩
  rw [← hsix]
  exact (herror' _).mpr ⟨_, hcapped, rfl⟩

/-- A little over `2 ^ 31` samples, handed out one by one: every demand holds and the ranges can be
listed, but not counted. -/
theorem single_samples_crash :
    let r : Renderer := ⟨{ chunk := 1 }, ⟨4, false, by decide, by decide⟩⟩
    sampleCount .standard 37838 = 2147571366 ∧ ListsRanges r 2147571366 ∧
      AllHold (computeDemands r 37838 0) ∧
      (r.compute 37838 0).outcome = .error (.crash .negativeCounter) := by
  intro r
  have hsamples : sampleCount .standard 37838 = 2147571366 := by decide +kernel
  have hlists : ListsRanges r 2147571366 := ⟨.inr (by decide), by decide⟩
  have hall : AllHold (computeDemands r 37838 0) := by
    have hroom : sampleCount .standard 37838 ≤ maxInt ∧
        sampleCount .standard 37838 * 4 ≤ Memory.limit := by
      rw [hsamples]
      decide
    simp only [computeDemands, roomDemands, List.cons_append, List.nil_append, allHold_cons]
    refine ⟨?_, ?_, ?_, hroom.1, by decide, hroom.2, rfl, by simp [AllHold]⟩
    · unfold budgetDemand
      decide
    · unfold viewportDemand
      decide +kernel
    · unfold shapeDemand
      decide +kernel
  have hfits : sampleCount r.settings.viewport 37838 * 4 ≤ Memory.limit →
      ListsRanges r (sampleCount r.settings.viewport 37838).toNat := by
    intro _
    rwa [show r.settings.viewport = .standard from rfl, hsamples]
  have hdecided := countGrid_decides 0 hfits
  refine ⟨hsamples, hlists, hall, ?_⟩
  rw [compute_outcome]
  refine ((decides_iff hdecided).2.2 _).mpr ⟨hall, ?_, rfl⟩
  rw [show r.settings.viewport = .standard from rfl, hsamples]
  decide

end EscapeTime.Proofs
