import EscapeTime.Proofs.PoolSafety
import EscapeTime.Proofs.StageEnds
import Mathlib.Algebra.BigOperators.Group.Finset.Basic
import Mathlib.Algebra.BigOperators.Group.List.Basic

/-!
# The order of work does not matter

Ranges that spell out an index space once can be worked through in any order, and their loops can even
be interleaved write by write: every place gets its value, once, and sums over the places come out the
same. What a renderer computes or shades is therefore the same for every number of workers, chunk and
schedule.
-/

namespace EscapeTime.Proofs
open EscapeTime.Range EscapeTime.Partition

def ahead (l : Loop) : List Nat := List.range' l.next (l.stop - l.next)

/-- The places that the loops still have to write. -/
def places {α : Type} (s : Filling α) : List Nat := s.loops.flatMap ahead

lemma ahead_eq_cons {l : Loop} (h : l.next < l.stop) : ahead l = l.next :: ahead l.advance := by
  unfold ahead
  rw [show l.stop - l.next = l.advance.stop - l.advance.next + 1 by
    simp only [Loop.advance]; omega, List.range'_succ]
  rfl

/-- A step takes its place from those ahead. -/
lemma step_places {α : Type} {f : Nat → α} {s t : Filling α} {k : Nat}
    (h : Filling.Step f s k t) : (places s).Perm (k :: places t) := by
  cases h with
  | @write before after l cells more inside =>
    simp only [places, List.flatMap_append, List.flatMap_cons]
    rw [ahead_eq_cons more, List.cons_append]
    exact List.perm_middle

lemma step_cells {α : Type} {f : Nat → α} {s t : Filling α} {k : Nat}
    (h : Filling.Step f s k t) : t.cells = s.cells.setIfInBounds k (f k) := by
  cases h with
  | write more inside =>
    dsimp only
    rw [Array.setIfInBounds, dif_pos inside]

/-- What was written and what is ahead make up what was ahead at the start. -/
theorem run_places {α : Type} {f : Nat → α} {s t : Filling α} {ks : List Nat}
    (h : Filling.Run f s ks t) : (places s).Perm (ks ++ places t) := by
  induction h with
  | refl s => exact List.Perm.refl _
  | step hstep hrun ih => exact (step_places hstep).trans (ih.cons _)

theorem run_cells {α : Type} {f : Nat → α} {s t : Filling α} {ks : List Nat}
    (h : Filling.Run f s ks t) :
    t.cells = ks.foldl (fun b k => b.setIfInBounds k (f k)) s.cells := by
  induction h with
  | refl s => rfl
  | step hstep hrun ih => rw [ih, step_cells hstep, List.foldl_cons]

lemma isDone_iff {α : Type} {s : Filling α} : s.IsDone ↔ places s = [] := by
  simp only [Filling.IsDone, places, List.flatMap_eq_nil_iff, ahead, List.range'_eq_nil_iff]
  constructor
  · intro h l hl
    have := h l hl
    omega
  · intro h l hl
    have := h l hl
    omega

/-- As long as a place is ahead, and all places ahead are inside the array, some loop can write. -/
lemma exists_step {α : Type} (f : Nat → α) {s : Filling α}
    (hinside : ∀ k ∈ places s, k < s.cells.size) (hmore : ¬s.IsDone) :
    ∃ k t, Filling.Step f s k t := by
  unfold Filling.IsDone at hmore
  push Not at hmore
  obtain ⟨l, hl, hlt⟩ := hmore
  have hmem : l.next ∈ places s := by
    refine List.mem_flatMap.mpr ⟨l, hl, ?_⟩
    rw [ahead_eq_cons hlt]
    exact List.mem_cons_self
  obtain ⟨loops, cells⟩ := s
  obtain ⟨before, after, rfl⟩ := List.append_of_mem hl
  exact ⟨l.next, _, .write hlt (hinside _ hmem)⟩

lemma step_inside {α : Type} {f : Nat → α} {s t : Filling α} {k : Nat} (h : Filling.Step f s k t)
    (hinside : ∀ k ∈ places s, k < s.cells.size) : ∀ k ∈ places t, k < t.cells.size := by
  intro j hj
  rw [step_cells h, Array.size_setIfInBounds]
  exact hinside j ((step_places h).mem_iff.mpr (List.mem_cons_of_mem _ hj))

lemma run_inside {α : Type} {f : Nat → α} {s t : Filling α} {ks : List Nat}
    (h : Filling.Run f s ks t) (hinside : ∀ k ∈ places s, k < s.cells.size) :
    ∀ k ∈ places t, k < t.cells.size := by
  induction h with
  | refl s => exact hinside
  | step hstep hrun ih => exact ih (step_inside hstep hinside)

/-- The loops can be brought to their end from every state. -/
lemma exists_run {α : Type} (f : Nat → α) (s : Filling α)
    (hinside : ∀ k ∈ places s, k < s.cells.size) : ∃ ks t, Filling.Run f s ks t ∧ t.IsDone := by
  -- Each step leaves one place fewer ahead.
  induction hlength : (places s).length generalizing s with
  | zero => exact ⟨[], s, .refl s, isDone_iff.mpr (List.eq_nil_of_length_eq_zero hlength)⟩
  | succ m ih =>
    have hmore : ¬s.IsDone := by
      intro hdone
      rw [isDone_iff.mp hdone] at hlength
      cases hlength
    obtain ⟨k, t, hstep⟩ := exists_step f hinside hmore
    have hshorter : (places t).length = m := by
      have := (step_places hstep).length_eq
      rw [List.length_cons] at this
      omega
    obtain ⟨ks, u, hrun, hdone⟩ := ih t (step_inside hstep hinside) hshorter
    exact ⟨k :: ks, u, .step hstep hrun, hdone⟩

lemma places_start {α : Type} {ranges : List Range} {n : Nat} (h : Covers ranges n) (a : Array α) :
    places (Filling.start ranges a) = List.range n := by
  rw [← h.indices, places, Filling.start, List.flatMap_map]
  refine List.flatMap_congr fun r hr => ?_
  have hlo := h.lo_nonneg r hr
  unfold ahead Loop.ofRange rangeIndices
  congr 1
  dsimp only
  omega

lemma start_inside {α : Type} {ranges : List Range} {n : Nat} (h : Covers ranges n) {a : Array α}
    (hsize : a.size = n) :
    ∀ k ∈ places (Filling.start ranges a), k < (Filling.start ranges a).cells.size := by
  intro k hk
  rw [places_start h] at hk
  change k < a.size
  rw [hsize]
  exact List.mem_range.mp hk

/-- The values of `f` at the places below `n`. -/
def tabulate {α : Type} (n : Nat) (f : Nat → α) : Array α := Array.ofFn fun i : Fin n => f i

/-- Writes that together reach every place below `n` leave nothing of what was there. -/
lemma foldl_eq_tabulate {α : Type} {ks : List Nat} {n : Nat} (hks : ks.Perm (List.range n))
    (f : Nat → α) {a : Array α} (hsize : a.size = n) :
    ks.foldl (fun b k => b.setIfInBounds k (f k)) a = tabulate n f := by
  apply Array.ext_getElem?
  intro i
  -- Each write stores the value of its own place, so it does not matter which write came last.
  have hmem : i ∈ ks ↔ i < n := by rw [hks.mem_iff, List.mem_range]
  rw [getElem?_foldl_setIfInBounds, tabulate, Array.getElem?_ofFn]
  by_cases hi : i < n
  · rw [if_pos ⟨hmem.mpr hi, by omega⟩, dif_pos hi]
  · rw [if_neg fun h => hi (hmem.mp h.1), dif_neg hi, Array.getElem?_eq_none (by omega)]

lemma fillAll_eq_tabulate {α : Type} {ranges order : List Range} {n : Nat} (h : Covers ranges n)
    (horder : order.Perm ranges) (f : Nat → α) {a : Array α} (hsize : a.size = n) :
    fillAll order f a = tabulate n f := by
  rw [fillAll_eq_foldl]
  refine foldl_eq_tabulate ?_ f hsize
  rw [← h.indices]
  exact horder.flatMap_right rangeIndices

/-- A run that is done has written every place once, and the array holds the values. -/
lemma run_done {α : Type} {ranges : List Range} {n : Nat} (h : Covers ranges n) {f : Nat → α}
    {a : Array α} (hsize : a.size = n) {ks : List Nat} {s : Filling α}
    (hrun : Filling.Run f (.start ranges a) ks s) (hdone : s.IsDone) :
    ks.Perm (List.range n) ∧ s.cells = tabulate n f := by
  have hplaces := run_places hrun
  rw [places_start h, isDone_iff.mp hdone, List.append_nil] at hplaces
  refine ⟨hplaces.symm, ?_⟩
  rw [run_cells hrun]
  exact foldl_eq_tabulate hplaces.symm f hsize

/-- There is such a run. -/
lemma exists_run_done {α : Type} {ranges : List Range} {n : Nat} (h : Covers ranges n) (f : Nat → α)
    {a : Array α} (hsize : a.size = n) :
    ∃ ks s, Filling.Run f (.start ranges a) ks s ∧ s.IsDone ∧ s.cells = tabulate n f := by
  obtain ⟨ks, s, hrun, hdone⟩ := exists_run f _ (start_inside h hsize)
  exact ⟨ks, s, hrun, hdone, (run_done h hsize hrun hdone).2⟩

lemma foldl_add_eq {M : Type} [AddCommMonoid M] (g : Nat → M) (ks : List Nat) (b : M) :
    ks.foldl (fun t k => t + g k) b = b + (ks.map g).sum := by
  induction ks generalizing b with
  | nil => simp
  | cons k ks ih => rw [List.foldl_cons, ih, List.map_cons, List.sum_cons, add_assoc]

lemma fold_add_eq {M : Type} [AddCommMonoid M] (g : Nat → M) (r : Range) (b : M) :
    r.fold (fun t k => t + g k) b = b + ((rangeIndices r).map g).sum := by
  unfold Range.fold
  rw [foldUp_eq_foldl]
  exact foldl_add_eq g _ b

lemma sum_ranges {M : Type} [AddCommMonoid M] {ranges order : List Range} {n : Nat}
    (h : Covers ranges n) (horder : order.Perm ranges) (g : Nat → M) :
    (order.map fun r => ((rangeIndices r).map g).sum).sum = ∑ k ∈ Finset.range n, g k := by
  have hperm : (order.flatMap rangeIndices).Perm (List.range n) := by
    rw [← h.indices]
    exact horder.flatMap_right rangeIndices
  have hsum : ∑ k ∈ Finset.range n, g k = ((List.range n).map g).sum := rfl
  rw [hsum, ← (hperm.map g).sum_eq, List.map_flatMap, List.flatMap, List.sum_flatten, List.map_map]
  rfl

/-- No index of the partition passes the largest machine integer. -/
def NoWrap (n chunk workers : Int64) : Prop :=
  ∀ c, chunkFor n chunk workers = .ok c → n.toInt + c.toInt - 1 ≤ maxInt

lemma covers_of_noWrap {n chunk workers : Int64} {ranges : List Range} (hwrap : NoWrap n chunk workers)
    (hsplit : split n chunk workers = .ok ranges) : Covers ranges n.toInt.toNat := by
  refine split_covers (fun c hc => .inr ?_) hsplit
  have hbound := hwrap c hc
  unfold maxInt at hbound
  omega

/-- The ranges do the same work in every order and under every schedule: the places below `n` get
their values, each written once, no run gets stuck or goes on for ever, and sums come out as the sum
over all places, whether each range adds up its own or all add to one total. -/
structure OrderFree (ranges : List Range) (n : Nat) : Prop where
  fill_any_order : ∀ {α : Type} (f : Nat → α) (a : Array α), a.size = n →
    ∀ order, order.Perm ranges → fillAll order f a = tabulate n f
  fill_interleaved : ∀ {α : Type} (f : Nat → α) (a : Array α), a.size = n →
    ∀ ks s, Filling.Run f (.start ranges a) ks s →
      s.IsDone → s.cells = tabulate n f ∧ ks.Perm (List.range n)
  fill_ends : ∀ {α : Type} (f : Nat → α) (a : Array α), a.size = n →
    ∀ ks s, Filling.Run f (.start ranges a) ks s →
      ks.length ≤ n ∧ (¬s.IsDone → ∃ k t, Filling.Step f s k t)
  sum_any_order : ∀ {M : Type} [AddCommMonoid M] (g : Nat → M) (order : List Range),
    order.Perm ranges →
      (order.map fun r => r.fold (fun t k => t + g k) 0).sum = ∑ k ∈ Finset.range n, g k
  total_any_order : ∀ {M : Type} [AddCommMonoid M] (g : Nat → M) (order : List Range),
    order.Perm ranges →
      order.foldl (fun total r => r.fold (fun t k => t + g k) total) 0 = ∑ k ∈ Finset.range n, g k

lemma foldl_fold_add_eq {M : Type} [AddCommMonoid M] (g : Nat → M) (order : List Range) (b : M) :
    order.foldl (fun total r => r.fold (fun t k => t + g k) total) b =
      b + (order.map fun r => ((rangeIndices r).map g).sum).sum := by
  induction order generalizing b with
  | nil => simp
  | cons r rs ih => rw [List.foldl_cons, ih, fold_add_eq, List.map_cons, List.sum_cons, add_assoc]

theorem orderFree_of_covers {ranges : List Range} {n : Nat} (h : Covers ranges n) :
    OrderFree ranges n where
  fill_any_order f a hsize order horder := fillAll_eq_tabulate h horder f hsize
  fill_interleaved f a hsize ks s hrun hdone := (run_done h hsize hrun hdone).symm
  fill_ends f a hsize ks s hrun := by
    refine ⟨?_, exists_step f (run_inside hrun (start_inside h hsize))⟩
    have hlength := (run_places hrun).length_eq
    rw [places_start h, List.length_range, List.length_append] at hlength
    omega
  sum_any_order g order horder := by
    simp only [fold_add_eq, zero_add]
    exact sum_ranges h horder g
  total_any_order g order horder := by
    rw [foldl_fold_add_eq, zero_add]
    exact sum_ranges h horder g

/-- What has become of a batch of ranges on the machine: each range was run once, their loops are those that
a filling starts with, and they leave the values, in the order in which they were finished. -/
structure WorkedThrough (s : Machine.State) (b : Nat) (ranges : List Range) (n : Nat) : Prop where
  ran_perm : (s.ran b (ranges.map some)).Perm ranges
  loops_perm : ∀ {α : Type} (a : Array α),
    ((s.ran b (ranges.map some)).map Loop.ofRange).Perm (Filling.start ranges a).loops
  fill_ran : ∀ {α : Type} (f : Nat → α) (a : Array α), a.size = n →
    fillAll (s.ran b (ranges.map some)) f a = tabulate n f

theorem workedThrough_of_returned {p : Pool} {n chunk : Int64} {ranges : List Range} {s : Machine.State}
    {b : Nat} (hcovers : Covers ranges n.toInt.toNat) (hspread : p.spread n chunk = .ok ranges)
    (hs : Machine.Reachable (.ofPool p) s) (hwork : s.work b = ranges.map fun _ => true)
    (hb : s.batch b = .returned true) : WorkedThrough s b ranges n.toInt.toNat := by
  have hplaces : s.work b = (ranges.map some).map Option.isSome := by
    rw [hwork, List.map_map]
    rfl
  obtain ⟨done, hrun, hperm⟩ :=
    (endsAsRun (reachable_balanced hs) hplaces).returned hb p (spread_eq_ok hspread).1
  obtain ⟨-, -, rfl⟩ := run_eq_ok_iff.mp hrun
  rw [List.filterMap_map, Function.id_comp, List.filterMap_some] at hperm
  exact ⟨hperm, fun _ => hperm.map Loop.ofRange,
    fun f a hsize => fillAll_eq_tabulate hcovers hperm f hsize⟩

/-- The grid is one that counting can leave behind: its places were handed out, and the loops over the
ranges ran to their end under some schedule. -/
def Counts (r : Renderer) (rows budget : Int64) (grid : Grid) : Prop :=
  ∃ lattice blank ranges ks s, Prepared r rows budget lattice blank ∧
    r.spread blank.size = .ok ranges ∧
    Filling.Run (Renderer.countAtPlace lattice blank.cols budget) (.start ranges blank.counts) ks s ∧
    s.IsDone ∧ grid.rows = blank.rows ∧ grid.cols = blank.cols ∧ grid.counts = s.cells

/-- The raster is one that shading can leave behind under some schedule. -/
def Shades (r : Renderer) (grid? : Option Grid) (budget : Int64) (raster : Raster) : Prop :=
  ∃ grid black buffer ranges ks s, Accepted r grid? budget grid black ∧ black.pixels = some buffer ∧
    r.spread grid.size = .ok ranges ∧
    Filling.Run (Renderer.grayAtPlace grid budget) (.start ranges buffer) ks s ∧ s.IsDone ∧
    raster.width = black.width ∧ raster.height = black.height ∧ raster.pixels = some s.cells

lemma grid_ext {g h : Grid} (hrows : g.rows = h.rows) (hcols : g.cols = h.cols)
    (hcounts : g.counts = h.counts) : g = h := by
  cases g
  cases h
  simp_all

lemma grid_size_le (grid : Grid) : grid.size ≤ 2 ^ 62 := by
  have hfits := grid.fits
  have hsize := grid.size_counts
  unfold Memory.limit at hfits
  unfold Grid.size
  omega

/-- Counting in order is counting under any schedule. -/
theorem counts_iff {r : Renderer} {rows budget : Int64} {grid : Grid} :
    Counts r rows budget grid ↔ (r.compute rows budget).outcome = .ok grid := by
  rw [compute_outcome]
  constructor
  · rintro ⟨lattice, blank, ranges, ks, s, hprepared, hspread, hrun, hdone, hrows, hcols, hcounts⟩
    have hcovers := renderer_spread_covers (grid_size_le blank) hspread
    rw [countGrid_of_prepared hprepared, hspread]
    refine congrArg Except.ok (grid_ext hrows.symm hcols.symm ?_)
    rw [hcounts, (run_done hcovers rfl hrun hdone).2]
    exact fillAll_eq_tabulate hcovers (List.Perm.refl _) _ rfl
  · intro h
    rcases countGrid_ends r rows budget with ⟨lattice, blank, hprepared⟩ | ⟨f, hf, -⟩
    · rw [countGrid_of_prepared hprepared] at h
      obtain ⟨ranges, hspread, rfl⟩ := map_eq_ok h
      have hcovers := renderer_spread_covers (grid_size_le blank) hspread
      obtain ⟨ks, s, hrun, hdone, hcells⟩ :=
        exists_run_done hcovers (Renderer.countAtPlace lattice blank.cols budget) rfl
      refine ⟨lattice, blank, ranges, ks, s, hprepared, hspread, hrun, hdone, rfl, rfl, ?_⟩
      rw [hcells]
      exact fillAll_eq_tabulate hcovers (List.Perm.refl _) _ rfl
    · rw [hf] at h
      cases h

lemma black_pixels {r : Renderer} {grid? : Option Grid} {budget : Int64} {grid : Grid}
    {black : Raster} (h : Accepted r grid? budget grid black) :
    ∃ buffer, black.pixels = some buffer ∧ buffer.size = grid.size := by
  obtain ⟨hwidth, hheight⟩ := accepted_sides h
  obtain ⟨-, -, -, -, -, -, p, -, hpixels⟩ := build_eq_ok_iff.mp h.black_eq
  refine ⟨p.val, hpixels, ?_⟩
  rw [black.size_pixels _ hpixels, hwidth, hheight, Nat.mul_comm, Grid.size, grid.size_counts]

theorem shades_iff {r : Renderer} {grid? : Option Grid} {budget : Int64} {raster : Raster} :
    Shades r grid? budget raster ↔ (r.shade grid? budget).outcome = .ok raster := by
  rw [shade_outcome]
  constructor
  · rintro ⟨grid, black, buffer, ranges, ks, s, haccepted, hbuffer, hspread, hrun, hdone, hwidth,
      hheight, hpixels⟩
    obtain ⟨_, hbuffer', hsize⟩ := black_pixels haccepted
    cases hbuffer.symm.trans hbuffer'
    have hcovers := renderer_spread_covers (grid_size_le grid) hspread
    rw [shadeRaster_of_accepted haccepted, hspread]
    refine congrArg Except.ok (Raster.ext hwidth.symm hheight.symm ?_)
    rw [hpixels, (run_done hcovers hsize hrun hdone).2]
    change black.pixels.map _ = _
    rw [hbuffer, Option.map_some, fillAll_eq_tabulate hcovers (List.Perm.refl _) _ hsize]
  · intro h
    rcases shadeRaster_ends r grid? budget with ⟨grid, black, haccepted⟩ | ⟨f, hf, -⟩
    · rw [shadeRaster_of_accepted haccepted] at h
      obtain ⟨ranges, hspread, rfl⟩ := map_eq_ok h
      obtain ⟨buffer, hbuffer, hsize⟩ := black_pixels haccepted
      have hcovers := renderer_spread_covers (grid_size_le grid) hspread
      obtain ⟨ks, s, hrun, hdone, hcells⟩ :=
        exists_run_done hcovers (Renderer.grayAtPlace grid budget) hsize
      refine ⟨grid, black, buffer, ranges, ks, s, haccepted, hbuffer, hspread, hrun, hdone, rfl, rfl, ?_⟩
      rw [hcells]
      change black.pixels.map _ = _
      rw [hbuffer, Option.map_some, fillAll_eq_tabulate hcovers (List.Perm.refl _) _ hsize]
    · rw [hf] at h
      cases h

/-- Two renderers that sample the same region under the same cap compute the same grid, as long as the
second one can hand out its places. -/
lemma compute_eq_of_same {r other : Renderer} {rows budget : Int64} {grid : Grid}
    (hviewport : other.settings.viewport = r.settings.viewport)
    (hcap : other.settings.maxPixels = r.settings.maxPixels)
    (h : (r.compute rows budget).outcome = .ok grid)
    (hspread : ∃ ranges, other.spread grid.size = .ok ranges) :
    (other.compute rows budget).outcome = .ok grid := by
  obtain ⟨lattice, blank, ranges, ks, s, hprepared, hranges, hrun, hdone, hrows, hcols, hcounts⟩ :=
    counts_iff.mpr h
  have hprepared' : Prepared other rows budget lattice blank :=
    ⟨hprepared.budget_eq, by rw [hviewport]; exact hprepared.viewport_eq,
      by rw [hviewport]; exact hprepared.lattice_eq,
      by rw [hviewport, hcap]; exact hprepared.blank_eq⟩
  have hsize : grid.size = blank.size := by
    rw [Grid.size, Grid.size, grid.size_counts, blank.size_counts, hrows, hcols]
  obtain ⟨ranges', hranges'⟩ := hspread
  rw [hsize] at hranges'
  have hcovers := renderer_spread_covers (grid_size_le blank) hranges
  have hcovers' := renderer_spread_covers (grid_size_le blank) hranges'
  obtain ⟨ks', s', hrun', hdone', hcells'⟩ :=
    exists_run_done hcovers' (Renderer.countAtPlace lattice blank.cols budget) rfl
  -- Both runs end in the table of counts, whatever the ranges were.
  apply counts_iff.mp
  refine ⟨lattice, blank, ranges', ks', s', hprepared', hranges', hrun', hdone', hrows, hcols, ?_⟩
  rw [hcounts, (run_done hcovers rfl hrun hdone).2, hcells']

lemma shade_eq_of_same {r other : Renderer} {grid? : Option Grid} {budget : Int64} {raster : Raster}
    (hcap : other.settings.maxPixels = r.settings.maxPixels)
    (h : (r.shade grid? budget).outcome = .ok raster)
    (hspread : ∃ ranges, other.spread (raster.width * raster.height) = .ok ranges) :
    (other.shade grid? budget).outcome = .ok raster := by
  obtain ⟨grid, black, buffer, ranges, ks, s, haccepted, hbuffer, hranges, hrun, hdone, hwidth,
    hheight, hpixels⟩ := shades_iff.mpr h
  have haccepted' : Accepted other grid? budget grid black :=
    ⟨haccepted.grid_eq, by rw [hcap]; exact haccepted.black_eq⟩
  obtain ⟨_, hbuffer', hsize⟩ := black_pixels haccepted
  cases hbuffer.symm.trans hbuffer'
  obtain ⟨hcols, hrows⟩ := accepted_sides haccepted
  obtain ⟨ranges', hranges'⟩ := hspread
  rw [hwidth, hheight, hcols, hrows, Nat.mul_comm, ← grid.size_counts] at hranges'
  have hcovers := renderer_spread_covers (grid_size_le grid) hranges
  have hcovers' := renderer_spread_covers (grid_size_le grid) hranges'
  obtain ⟨ks', s', hrun', hdone', hcells'⟩ :=
    exists_run_done hcovers' (Renderer.grayAtPlace grid budget) hsize
  apply shades_iff.mp
  refine ⟨grid, black, buffer, ranges', ks', s', haccepted', hbuffer, hranges', hrun', hdone', hwidth,
    hheight, ?_⟩
  rw [hpixels, (run_done hcovers hsize hrun hdone).2, hcells']

/-- Parallel work is sequential work. The ranges of a partition without wraps can be worked through in
any order and under any schedule. Every schedule of a renderer's loops therefore leaves the grid and the
raster that it returns, and any other renderer with the same region and cap returns the same, if it can
hand out the places at all: workers and chunk have no part in it. And the machine of a pool does work the
ranges that the pool hands out, whatever its parties do and when, in one of these orders. -/
theorem order_of_work_irrelevant :
    (∀ (n chunk workers : Int64) (ranges : List Range), NoWrap n chunk workers →
      split n chunk workers = .ok ranges → OrderFree ranges n.toInt.toNat) ∧
    (∀ (r : Renderer) (rows budget : Int64) (grid : Grid),
      (Counts r rows budget grid ↔ (r.compute rows budget).outcome = .ok grid) ∧
      ∀ other : Renderer, other.settings.viewport = r.settings.viewport →
        other.settings.maxPixels = r.settings.maxPixels →
        (∃ ranges, other.spread grid.size = .ok ranges) →
        (r.compute rows budget).outcome = .ok grid →
        (other.compute rows budget).outcome = .ok grid) ∧
    (∀ (r : Renderer) (grid? : Option Grid) (budget : Int64) (raster : Raster),
      (Shades r grid? budget raster ↔ (r.shade grid? budget).outcome = .ok raster) ∧
      ∀ other : Renderer, other.settings.maxPixels = r.settings.maxPixels →
        (∃ ranges, other.spread (raster.width * raster.height) = .ok ranges) →
        (r.shade grid? budget).outcome = .ok raster →
        (other.shade grid? budget).outcome = .ok raster) ∧
    ∀ (p : Pool) (n chunk : Int64) (ranges : List Range) (s : Machine.State) (b : Nat),
      NoWrap n chunk p.workers → p.spread n chunk = .ok ranges →
      Machine.Reachable (.ofPool p) s → (s.work b = ranges.map fun _ => true) →
      s.batch b = .returned true → WorkedThrough s b ranges n.toInt.toNat := by
  refine ⟨?_, ?_, ?_, ?_⟩
  · intro n chunk workers ranges hwrap hsplit
    exact orderFree_of_covers (covers_of_noWrap hwrap hsplit)
  · intro r rows budget grid
    exact ⟨counts_iff, fun other hviewport hcap hspread h => compute_eq_of_same hviewport hcap h hspread⟩
  · intro r grid? budget raster
    exact ⟨shades_iff, fun other hcap hspread h => shade_eq_of_same hcap h hspread⟩
  · intro p n chunk ranges s b hwrap hspread hs hwork hb
    exact workedThrough_of_returned (covers_of_noWrap hwrap (spread_eq_ok hspread).2) hspread hs hwork hb

/-- Five places in ranges of two, taken last range first; six samples computed by four workers and by one
that takes four at a time; and two workers of which the second is done with the middle range before the
first begins. -/
theorem order_of_work_irrelevant_five_places :
    let ranges : List Range := [⟨0, 2⟩, ⟨2, 4⟩, ⟨4, 5⟩]
    let plain : Renderer := ⟨{}, ⟨4, false, by decide, by decide⟩⟩
    let chunked : Renderer := ⟨{ workers := 1, chunk := 4 }, ⟨1, false, by decide, by decide⟩⟩
    let grid : Grid := ⟨2, 3, #[1, 4, 2, 1, 4, 2], by decide, by decide, by decide, by decide⟩
    split 5 2 1 = .ok ranges ∧ NoWrap 5 2 1 ∧
      fillAll ranges.reverse (fun k => k * k) #[9, 9, 9, 9, 9] = tabulate 5 (fun k => k * k) ∧
      (plain.compute 2 5).outcome = .ok grid ∧ (chunked.compute 2 5).outcome = .ok grid ∧
      ∃ s, s.ran 0 (ranges.map some) = [⟨2, 4⟩, ⟨0, 2⟩, ⟨4, 5⟩] ∧ WorkedThrough s 0 ranges 5 := by
  intro ranges plain chunked grid
  have hsplit : split 5 2 1 = .ok ranges := by decide +kernel
  have hwrap : ∀ workers, NoWrap 5 2 workers := by
    intro workers c hc
    cases hc
    decide
  have hplain : (plain.compute 2 5).outcome = .ok grid := by decide +kernel
  have hspread : chunked.spread grid.size = .ok [⟨0, 4⟩, ⟨4, 6⟩] := by decide +kernel
  have hfree := order_of_work_irrelevant.1 5 2 1 ranges (hwrap 1) hsplit
  let pool : Pool := ⟨2, false, by decide, by decide⟩
  have hshape : Machine.Shape.ofPool pool = ⟨2, 8, by decide⟩ := by decide +kernel
  have hpool : pool.spread 5 2 = .ok ranges := by decide +kernel
  have hrun := Machine.Leads.refl (p := ⟨2, 8, by decide⟩) (s := .initial)
    |>.call (.submit 0 [true, true, true] rfl)
    |>.step (.share 0 rfl fun _ => nofun)
    |>.step (.accept 0 rfl rfl (by decide))
    |>.step (.deal 0 0 rfl rfl (by decide))
    |>.step (.deal 0 1 rfl rfl (by decide))
    |>.step (.deal 0 2 rfl rfl (by decide))
    |>.step (.take 1 ⟨0, 1⟩ [] (by decide) (.inl rfl) rfl)
    |>.step (.finish 1 ⟨0, 1⟩ false (by decide) rfl)
    |>.step (.take 0 ⟨0, 0⟩ [⟨0, 2⟩] (by decide) (.inl rfl) rfl)
    |>.step (.finish 0 ⟨0, 0⟩ false (by decide) rfl)
    |>.step (.take 0 ⟨0, 2⟩ [] (by decide) (.inl rfl) rfl)
    |>.step (.finish 0 ⟨0, 2⟩ false (by decide) rfl)
    |>.step (.complete 0 rfl rfl)
  exact ⟨hsplit, hwrap 1, hfree.fill_any_order _ _ rfl _ (List.reverse_perm _), hplain,
    (order_of_work_irrelevant.2.1 plain 2 5 grid).2 chunked rfl rfl ⟨_, hspread⟩ hplain,
    _, rfl, order_of_work_irrelevant.2.2.2 pool 5 2 ranges _ 0 (hwrap 2) hpool (hshape ▸ hrun) rfl rfl⟩

end EscapeTime.Proofs
