import EscapeTime.Proofs.ExactPartition
import EscapeTime.Proofs.StageEnds

/-!
# Chunks that make a hand-out crash

The list of ranges is sized by a sum of index space and chunk in machine integers. For a chunk near the
largest machine integer that sum wraps below zero, and where it ends a whole chunk or more below, the
size is negative and the hand-out crashes. A chunk that is too small makes more ranges than an open pool
can count in 32 bits, and that is a crash as well. For every other chunk the hand-out gives each place to
one range, or is refused because the pool is closed.
-/

namespace EscapeTime.Proofs
open EscapeTime.Partition

/-- The sum of index space and chunk wraps, and ends a chunk or more below zero. -/
def ChunkWraps (n : Nat) (chunk : Int64) : Prop :=
  2 ^ 63 < n + chunk.toInt ∧ 2 * chunk.toInt + n ≤ 2 ^ 64 + 1

instance (n : Nat) (chunk : Int64) : Decidable (ChunkWraps n chunk) :=
  inferInstanceAs (Decidable (_ ∧ _))

/-- The capacity after a wrap: rounded towards zero, so it is zero as long as the sum is less than a
chunk below it. -/
lemma toInt_capacity_of_wrap {n c : Int64} (hc : 0 < c.toInt) (hwrap : 2 ^ 63 < n.toInt + c.toInt) :
    (capacity n c).toInt = -((2 ^ 64 + 1 - n.toInt - c.toInt) / c.toInt) := by
  have hn := Int64.toInt_lt n
  have hcmax := Int64.toInt_lt c
  have hone : (1 : Int64).toInt = 1 := by decide
  -- The true sum is at most `2 ^ 64 - 3`, so it wraps once.
  have hsum : (n + c - 1).toInt = -(2 ^ 64 + 1 - n.toInt - c.toInt) := by
    rw [Int64.toInt_sub, Int64.toInt_add, hone, Int.bmod_sub_bmod, ← Int.sub_bmod_right,
      Int.bmod_eq_of_le (by omega) (by omega)]
    omega
  have hne : c ≠ -1 := by
    rintro rfl
    exact absurd hc (by decide)
  rw [capacity, Int64.toInt_div_of_ne_right _ _ hne, hsum, Int.neg_tdiv,
    Int.tdiv_eq_ediv_of_nonneg (by omega)]

lemma rangeCount_le {n c : Nat} (hc : 0 < c) : rangeCount n c ≤ n := by
  by_contra hlt
  have hmul : n * c < n := (lt_rangeCount_iff hc).mp (Nat.not_le.mp hlt)
  exact absurd (Nat.le_mul_of_pos_right n hc) (Nat.not_le.mpr hmul)

/-- A capacity is refused exactly when its sum wraps by a chunk or more. -/
lemma capacity_refused_iff {n c : Int64} (hc : 0 < c.toInt) (hn : 0 < n.toInt)
    (hsmall : n.toInt ≤ 2 ^ 40) :
    (capacity n c < 0 ∨ (maxRanges : Int) < (capacity n c).toInt) ↔
      2 ^ 63 < n.toInt + c.toInt ∧ 2 * c.toInt + n.toInt ≤ 2 ^ 64 + 1 := by
  have hzero : (0 : Int64).toInt = 0 := by decide
  rw [Int64.lt_iff_toInt_lt, hzero]
  by_cases hwrap : 2 ^ 63 < n.toInt + c.toInt
  · have hcapacity := toInt_capacity_of_wrap hc hwrap
    have hquotient : 1 ≤ (2 ^ 64 + 1 - n.toInt - c.toInt) / c.toInt ↔
        1 * c.toInt ≤ 2 ^ 64 + 1 - n.toInt - c.toInt := Int.le_ediv_iff_mul_le hc
    have hcmax := Int64.toInt_lt c
    have hnonneg : 0 ≤ (2 ^ 64 + 1 - n.toInt - c.toInt) / c.toInt :=
      Int.ediv_nonneg (by omega) (by omega)
    unfold maxRanges
    omega
  · -- Without a wrap there are no more ranges than places, and these are far below the limit.
    have hcapacity := toInt_capacity hc hn (by omega)
    have hle := rangeCount_le (n := n.toInt.toNat) (c := c.toInt.toNat) (by omega)
    unfold maxRanges
    omega

/-- The chunk in use, for a number of workers that can be multiplied: the one asked for, or one that
does not exceed the index space. -/
lemma chunkFor_eq_ok {n workers : Int64} (chunk : Int64) (hn : 0 < n.toInt)
    (hworkers : 0 < workers.toInt) (hfour : 4 * workers.toInt ≤ maxInt) :
    ∃ c, chunkFor n chunk workers = .ok c ∧
      (0 < chunk.toInt ∧ c = chunk ∨ chunk.toInt ≤ 0 ∧ c.toInt ≤ n.toInt) := by
  have hzero : (0 : Int64).toInt = 0 := by decide
  have hone : (1 : Int64).toInt = 1 := by decide
  have hper : rangesPerWorker.toInt = 4 := by decide
  unfold chunkFor
  by_cases hchunk : 0 < chunk
  · rw [if_pos hchunk]
    exact ⟨chunk, rfl, .inl ⟨Int64.lt_iff_toInt_lt.mp hchunk, rfl⟩⟩
  · have hmax : (max workers 1).toInt = workers.toInt := by
      rw [toInt_max, hone]
      omega
    have hshare : (max workers 1 * rangesPerWorker).toInt = 4 * workers.toInt := by
      rw [toInt_mul_of_le (by omega) (by omega) (by rw [hmax, hper]; omega), hmax, hper, Int.mul_comm]
    have hshare_ne : max workers 1 * rangesPerWorker ≠ 0 := by
      intro h
      rw [h] at hshare
      omega
    have hshare_ne' : max workers 1 * rangesPerWorker ≠ -1 := by
      intro h
      have hneg : (-1 : Int64).toInt = -1 := by decide
      rw [h] at hshare
      omega
    have hquotient : (n / (max workers 1 * rangesPerWorker)).toInt ≤ n.toInt := by
      rw [Int64.toInt_div_of_ne_right _ _ hshare_ne', Int.tdiv_eq_ediv_of_nonneg (by omega)]
      exact Int.ediv_le_self _ (by omega)
    rw [if_neg hchunk]
    dsimp only
    rw [if_neg hshare_ne]
    refine ⟨_, rfl, .inr ⟨Int.not_lt.mp fun h => hchunk (Int64.lt_iff_toInt_lt.mpr h), ?_⟩⟩
    rw [toInt_max, hone]
    omega

/-- A small index space is cut for every chunk but those that wrap. -/
theorem split_small {n : Nat} {workers : Int64} (chunk : Int64) (hn : 0 < n) (hsmall : n ≤ 2 ^ 40)
    (hworkers : 0 < workers.toInt) (hfour : 4 * workers.toInt ≤ maxInt) :
    (ChunkWraps n chunk → split (Int64.ofNat n) chunk workers = .error .refusedCapacity) ∧
      (¬ChunkWraps n chunk → ∃ ranges, split (Int64.ofNat n) chunk workers = .ok ranges) := by
  have htoInt : (Int64.ofNat n).toInt = n := Int64.toInt_ofNat_of_lt (by omega)
  have hpos : ¬Int64.ofNat n ≤ 0 := by
    rw [Int64.le_iff_toInt_le, htoInt]
    exact Int.not_le.mpr (Int.natCast_pos.mpr hn)
  obtain ⟨c, hchunk, huse⟩ := chunkFor_eq_ok (n := Int64.ofNat n) chunk (by omega) hworkers
    hfour
  have hrefused := capacity_refused_iff (n := Int64.ofNat n) (chunkFor_pos hchunk) (by omega)
    (by omega)
  have hiff : (capacity (Int64.ofNat n) c < 0 ∨
      (maxRanges : Int) < (capacity (Int64.ofNat n) c).toInt) ↔ ChunkWraps n chunk := by
    rw [hrefused, htoInt]
    unfold ChunkWraps
    rcases huse with ⟨-, rfl⟩ | ⟨hopen, hle⟩
    · exact Iff.rfl
    · -- A chunk that is worked out is within the index space, so nothing wraps on either side.
      omega
  unfold split
  rw [if_neg hpos, hchunk]
  dsimp only
  constructor
  · intro hwraps
    rw [if_pos (hiff.mpr hwraps)]
  · intro hfits
    rw [if_neg fun h => hfits (hiff.mp h)]
    exact ⟨_, rfl⟩

lemma four_workers_le (p : Pool) : 4 * p.workers.toInt ≤ maxInt := by
  have hfits := p.fits
  have hpos := p.workers_pos
  unfold Memory.limit at hfits
  unfold maxInt
  omega

/-- The chunk that the places are handed out by: the one asked for, or the places shared out four times
to each worker, at least one. -/
def chunkOver (r : Renderer) (n : Nat) : Nat :=
  if 0 < r.settings.chunk.toInt then r.settings.chunk.toInt.toNat
  else max (n / (4 * r.pool.workers.toInt).toNat) 1

/-- The number of ranges that the places are handed out in. -/
def rangesOver (r : Renderer) (n : Nat) : Nat := n ⌈/⌉ chunkOver r n

lemma toNat_chunk {r : Renderer} {n : Nat} {c : Int64} (hn : 0 < n) (hsmall : n ≤ 2 ^ 62)
    (h : chunkFor (Int64.ofNat n) r.settings.chunk r.pool.workers = .ok c) :
    c.toInt.toNat = chunkOver r n := by
  have htoInt : (Int64.ofNat n).toInt = n := Int64.toInt_ofNat_of_lt (by omega)
  have huse := (chunkFor_eq_ok_iff (by omega)).mp h
  have hpos := r.pool.workers_pos
  unfold chunkOver
  by_cases hasked : 0 < r.settings.chunk.toInt
  · rw [if_pos hasked]
    rcases huse with ⟨-, rfl⟩ | ⟨hopen, -⟩
    · rfl
    · omega
  · rw [if_neg hasked, open_chunk (by omega) huse (Int.not_lt.mp hasked) (by omega)
      (four_workers_le r.pool), htoInt, Int.toNat_natCast]

lemma length_split {r : Renderer} {n : Nat} {ranges : List Range} (hn : 0 < n) (hsmall : n ≤ 2 ^ 62)
    (h : split (Int64.ofNat n) r.settings.chunk r.pool.workers = .ok ranges) :
    ranges.length = rangesOver r n := by
  have htoInt : (Int64.ofNat n).toInt = n := Int64.toInt_ofNat_of_lt (by omega)
  obtain ⟨c, hchunk, -, rfl⟩ := split_eq_cuts (by omega) (fun c _ => by omega) h
  rw [List.length_map, List.length_range, toNat_chunk hn hsmall hchunk, htoInt, Int.toNat_natCast]
  rfl

/-- What a hand-out promises: ranges that spell out each of the `n` places once if the pool is open,
and a refusal if it is closed. -/
def HandsOut (p : Pool) (n : Nat) (chunk : Int64) : Prop :=
  (p.closed = false → ∃ ranges, p.spread (Int64.ofNat n) chunk = .ok ranges ∧
    ranges.flatMap rangeIndices = List.range n) ∧
  (p.closed = true → p.spread (Int64.ofNat n) chunk = .error (.failure (.kind .poolClosed)))

/-- A hand-out of `n` places crashes: their list cannot be sized, or it has more ranges than an open
pool can count. -/
def HandOutCrashes (r : Renderer) (n : Nat) : Prop :=
  ChunkWraps n r.settings.chunk ∨
    r.pool.closed = false ∧ Pool.counterLimit ≤ rangesOver r n

def Crashes {α : Type} (outcome : Except Abort α) : Prop := ∃ c, outcome = .error (.crash c)

/-- The list of ranges cannot be sized, or it spells out the places and is as long as it should be. -/
lemma split_cases {r : Renderer} {n : Nat} (hn : 0 < n) (hsmall : n ≤ 2 ^ 40) :
    (ChunkWraps n r.settings.chunk ∧
      split (Int64.ofNat n) r.settings.chunk r.pool.workers = .error .refusedCapacity) ∨
    ¬ChunkWraps n r.settings.chunk ∧ ∃ ranges,
      split (Int64.ofNat n) r.settings.chunk r.pool.workers = .ok ranges ∧
      ranges.length = rangesOver r n ∧ ranges.flatMap rangeIndices = List.range n := by
  have htoInt : (Int64.ofNat n).toInt = n := Int64.toInt_ofNat_of_lt (by omega)
  obtain ⟨hcrash, hcut⟩ := split_small r.settings.chunk hn hsmall r.pool.workers_pos
    (four_workers_le r.pool)
  by_cases hwraps : ChunkWraps n r.settings.chunk
  · exact .inl ⟨hwraps, hcrash hwraps⟩
  · obtain ⟨ranges, hsplit⟩ := hcut hwraps
    have hindices := (split_covers_of_le (by omega) hsplit).indices
    rw [htoInt, Int.toNat_natCast] at hindices
    exact .inr ⟨hwraps, ranges, hsplit, length_split hn (by omega) hsplit, hindices⟩

lemma handsOut_iff {r : Renderer} {n : Nat} (hn : 0 < n) (hsmall : n ≤ 2 ^ 40) :
    HandsOut r.pool n r.settings.chunk ↔ ¬HandOutCrashes r n := by
  unfold HandsOut
  rw [spread_eq]
  rcases split_cases hn hsmall with ⟨hwraps, hsplit⟩ | ⟨hfits, ranges, hsplit, hlength, hindices⟩
  · rw [hsplit]
    refine iff_of_false ?_ (not_not_intro (.inl hwraps))
    rintro ⟨hopen, hclosed⟩
    cases h : r.pool.closed with
    | false =>
      obtain ⟨ranges, heq, -⟩ := hopen h
      cases heq
    | true => cases hclosed h
  · rw [hsplit, HandOutCrashes, or_iff_right hfits, ← hlength]
    dsimp only
    cases r.pool.closed with
    | true => simp
    | false =>
      by_cases hmany : Pool.counterLimit ≤ ranges.length
      · simp [hmany]
      · simp [hmany, hindices]

/-- Filling in what was handed out adds no crash. -/
lemma filled_crashes_iff {α : Type} {r : Renderer} {n : Nat} (fill : List Range → α) (hn : 0 < n)
    (hsmall : n ≤ 2 ^ 40) : Crashes ((r.spread n).map fill) ↔ HandOutCrashes r n := by
  rw [renderer_spread_eq]
  rcases split_cases hn hsmall with ⟨hwraps, hsplit⟩ | ⟨hfits, ranges, hsplit, hlength, -⟩
  · rw [hsplit]
    exact ⟨fun _ => .inl hwraps, fun _ => ⟨_, rfl⟩⟩
  · rw [hsplit, HandOutCrashes, or_iff_right hfits, ← hlength]
    dsimp only
    cases r.pool.closed with
    | true => simp [Crashes, Except.map]
    | false =>
      by_cases hmany : Pool.counterLimit ≤ ranges.length
      · simp [Crashes, Except.map, hmany]
      · simp [Crashes, Except.map, hmany]

lemma grid_size_pos (grid : Grid) : 0 < grid.size := by
  have hrows := grid.two_le_rows
  have hcols := grid.two_le_cols
  rw [Grid.size, grid.size_counts]
  exact Nat.mul_pos (by omega) (by omega)

lemma prepared_size {r : Renderer} {rows budget : Int64} {lattice : Lattice} {blank : Grid}
    (h : Prepared r rows budget lattice blank) :
    (blank.size : Int) = rows.toInt * (r.settings.viewport.columns rows).toInt :=
  new_grid_size h.blank_eq

lemma compute_crashes_iff {r : Renderer} {rows budget : Int64}
    (hsmall : rows.toInt * (r.settings.viewport.columns rows).toInt ≤ 2 ^ 40) :
    Crashes (r.compute rows budget).outcome ↔ ∃ lattice blank,
      Prepared r rows budget lattice blank ∧ HandOutCrashes r blank.size := by
  rw [compute_outcome]
  constructor
  · intro hcrash
    rcases countGrid_ends r rows budget with ⟨lattice, blank, hprepared⟩ | ⟨f, hf, -⟩
    · have hsize := prepared_size hprepared
      rw [countGrid_of_prepared hprepared, filled_crashes_iff _ (grid_size_pos blank) (by omega)] at hcrash
      exact ⟨lattice, blank, hprepared, hcrash⟩
    · obtain ⟨c, hc⟩ := hcrash
      rw [hf] at hc
      cases hc
  · rintro ⟨lattice, blank, hprepared, hcrash⟩
    have hsize := prepared_size hprepared
    rw [countGrid_of_prepared hprepared, filled_crashes_iff _ (grid_size_pos blank) (by omega)]
    exact hcrash

lemma shade_crashes_iff {r : Renderer} {grid? : Option Grid} {budget : Int64}
    (hsmall : ∀ grid, grid? = some grid → grid.size ≤ 2 ^ 40) :
    Crashes (r.shade grid? budget).outcome ↔ ∃ grid black,
      Accepted r grid? budget grid black ∧ HandOutCrashes r grid.size := by
  rw [shade_outcome]
  constructor
  · intro hcrash
    rcases shadeRaster_ends r grid? budget with ⟨grid, black, haccepted⟩ | ⟨f, hf, -⟩
    · have hle := hsmall grid (checkShade_eq_ok haccepted.grid_eq)
      rw [shadeRaster_of_accepted haccepted, filled_crashes_iff _ (grid_size_pos grid) hle] at hcrash
      exact ⟨grid, black, haccepted, hcrash⟩
    · obtain ⟨c, hc⟩ := hcrash
      rw [hf] at hc
      cases hc
  · rintro ⟨grid, black, haccepted, hcrash⟩
    have hle := hsmall grid (checkShade_eq_ok haccepted.grid_eq)
    rw [shadeRaster_of_accepted haccepted, filled_crashes_iff _ (grid_size_pos grid) hle]
    exact hcrash

/-- When a chunk makes a renderer crash. Over at most `2 ^ 40` places a hand-out keeps its promise
exactly when it does not crash: the sum of places and chunk does not end a chunk or more below zero, and
an open pool gets fewer than `2 ^ 31` ranges. The stages crash exactly when they get as far as a hand-out
that does. -/
theorem crashes_iff_handOutCrashes (r : Renderer) :
    (∀ n : Nat, 0 < n → n ≤ 2 ^ 40 →
      (HandsOut r.pool n r.settings.chunk ↔ ¬HandOutCrashes r n)) ∧
    (∀ rows budget : Int64, rows.toInt * (r.settings.viewport.columns rows).toInt ≤ 2 ^ 40 →
      (Crashes (r.compute rows budget).outcome ↔ ∃ lattice blank,
        Prepared r rows budget lattice blank ∧ HandOutCrashes r blank.size)) ∧
    ∀ (grid? : Option Grid) (budget : Int64), (∀ grid, grid? = some grid → grid.size ≤ 2 ^ 40) →
      (Crashes (r.shade grid? budget).outcome ↔ ∃ grid black,
        Accepted r grid? budget grid black ∧ HandOutCrashes r grid.size) :=
  ⟨fun _ hn hsmall => handsOut_iff hn hsmall, fun _ _ hsmall => compute_crashes_iff hsmall,
    fun _ _ hsmall => shade_crashes_iff hsmall⟩

/-- The largest chunk there is does no harm to six samples, on an open pool and on a closed one. -/
theorem largest_chunk_harmless :
    let r : Renderer := ⟨{ chunk := 9223372036854775807 }, ⟨4, false, by decide, by decide⟩⟩
    ¬Crashes (r.compute 2 0).outcome ∧ ¬Crashes (r.close.compute 2 0).outcome := by
  intro r
  have hsix : (2 : Int64).toInt * (r.settings.viewport.columns 2).toInt = 6 := by decide +kernel
  -- Closing a renderer keeps its settings, and the chunk is one of them.
  have hharmless : ∀ other : Renderer, other.settings = r.settings →
      ¬Crashes (other.compute 2 0).outcome := by
    intro other hsettings
    rw [(crashes_iff_handOutCrashes other).2.1 2 0 (by rw [hsettings]; omega)]
    rintro ⟨lattice, blank, hprepared, hcrash⟩
    have hsize := prepared_size hprepared
    have hchunk : chunkOver other 6 = 9223372036854775807 := by
      unfold chunkOver
      rw [hsettings]
      exact if_pos (by decide)
    rw [hsettings] at hsize
    rw [Int.ofNat_inj.mp (hsize.trans hsix), HandOutCrashes, rangesOver, hchunk, hsettings] at hcrash
    rcases hcrash with hwraps | ⟨-, hmany⟩
    · exact absurd hwraps (by decide)
    · exact absurd hmany (by decide)
  exact ⟨hharmless r rfl, hharmless r.close rfl⟩

/-- Two below the largest, and the hand-out of six samples crashes: for counting and for shading, and
on a closed pool too. -/
theorem six_samples_crash :
    let r : Renderer := ⟨{ chunk := 9223372036854775805 }, ⟨4, false, by decide, by decide⟩⟩
    let grid : Grid := ⟨2, 3, #[0, 0, 0, 0, 0, 0], by decide, by decide, by decide, by decide⟩
    Grid.new 2 (r.settings.viewport.columns 2) r.settings.maxPixels = .ok grid ∧
      (r.compute 2 0).outcome = .error (.crash .refusedCapacity) ∧
      (r.close.compute 2 0).outcome = .error (.crash .refusedCapacity) ∧
      Crashes (r.shade (some grid) 0).outcome ∧ ¬HandsOut r.pool 6 r.settings.chunk := by
  intro r grid
  let black : Raster :=
    ⟨3, 2, some #[0, 0, 0, 0, 0, 0], by decide, by decide, by rintro p ⟨⟩; rfl, by decide⟩
  have hblack : Raster.new (Int64.ofNat grid.cols) (Int64.ofNat grid.rows) r.settings.maxPixels =
      .ok black :=
    build_eq_ok_iff.mpr ⟨by decide, by decide, by decide, by decide, rfl, rfl, _, rfl, rfl⟩
  have hsmall : ∀ g, some grid = some g → g.size ≤ 2 ^ 40 := by
    rintro g ⟨⟩
    decide
  have hwraps : ChunkWraps 6 r.settings.chunk := by decide
  refine ⟨by decide +kernel, by decide +kernel, by decide +kernel, ?_, ?_⟩
  · exact (shade_crashes_iff hsmall).mpr ⟨grid, black, ⟨rfl, hblack⟩, .inl hwraps⟩
  · rw [handsOut_iff (by decide) (by decide)]
    exact not_not_intro (.inl hwraps)

end EscapeTime.Proofs
