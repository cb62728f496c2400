import EscapeTime.Proofs.RangeCover
import Mathlib.Algebra.Order.Floor.Div
import Mathlib.Data.List.Range

/-!
# Partitions are exact

As long as the sum that sizes the list does not wrap, an index space is cut every `c` places and at its
end, where `c` is the chunk in use. The list is then sized for just as many ranges as there are, and the
loop's index stays a machine integer up to the step that passes the end.
-/

namespace EscapeTime.Proofs
open EscapeTime.Partition

/-- The chunk in use: the one asked for, or the index space shared out four times to each worker, at
least one. The number of shares is formed in 64 bits and is not zero there. -/
def ChunkInUse (n chunk workers c : Int64) : Prop :=
  (0 < chunk.toInt ∧ c = chunk) ∨
    chunk.toInt ≤ 0 ∧ ∃ shares : Int, shares = (4 * max workers.toInt 1).bmod (2 ^ 64) ∧ shares ≠ 0 ∧
      c.toInt = max (n.toInt.tdiv shares) 1

/-- The ranges cut the index space below `n` every `c` places and at its end. -/
structure CutEvery (n c : Nat) (ranges : List Range) : Prop where
  length_eq : ranges.length = n ⌈/⌉ c
  bounds : ∀ (k : Nat) (r : Range), ranges[k]? = some r →
    r.lo.toInt = k * c ∧ r.hi.toInt = min ((k + 1) * c) n
  nonempty : ∀ r ∈ ranges, r.lo.toInt < r.hi.toInt
  within_chunk : ∀ r ∈ ranges, r.hi.toInt - r.lo.toInt ≤ c
  adjacent : ranges.IsChain fun r s => r.hi = s.lo
  in_order : ranges.Pairwise fun r s => r.hi.toInt ≤ s.lo.toInt
  union : ∀ i : Int, (∃ r ∈ ranges, r.lo.toInt ≤ i ∧ i < r.hi.toInt) ↔ 0 ≤ i ∧ i < n

lemma chunkFor_eq_ok_iff {n chunk workers c : Int64} (hn : 0 < n.toInt) :
    chunkFor n chunk workers = .ok c ↔ ChunkInUse n chunk workers c := by
  have hone : (1 : Int64).toInt = 1 := by decide
  have hmin : n ≠ Int64.minValue := by
    rintro rfl
    exact absurd hn (by decide)
  have hproduct : (max workers 1 * rangesPerWorker).toInt = (4 * max workers.toInt 1).bmod (2 ^ 64) := by
    rw [Int64.toInt_mul, toInt_max, hone, Int.mul_comm]
    rfl
  have hquotient : (max (n / (max workers 1 * rangesPerWorker)) 1).toInt =
      max (n.toInt.tdiv ((4 * max workers.toInt 1).bmod (2 ^ 64))) 1 := by
    rw [toInt_max, Int64.toInt_div_of_ne_left _ _ hmin, hproduct, hone]
  unfold chunkFor ChunkInUse
  by_cases hchunk : 0 < chunk
  · have hpos : 0 < chunk.toInt := Int64.lt_iff_toInt_lt.mp hchunk
    rw [if_pos hchunk]
    constructor
    · intro h
      cases h
      exact .inl ⟨hpos, rfl⟩
    · rintro (⟨-, rfl⟩ | ⟨hneg, -⟩)
      · rfl
      · exact absurd hpos (Int.not_lt.mpr hneg)
  · have hneg : chunk.toInt ≤ 0 := Int.not_lt.mp fun h => hchunk (Int64.lt_iff_toInt_lt.mpr h)
    rw [if_neg hchunk]
    dsimp only
    by_cases hshares : max workers 1 * rangesPerWorker = 0
    · rw [hshares] at hproduct
      rw [if_pos hshares]
      constructor
      · rintro ⟨⟩
      · rintro (⟨hpos, -⟩ | ⟨-, shares, rfl, hne, -⟩)
        · exact absurd hpos (Int.not_lt.mpr hneg)
        · exact absurd hproduct.symm hne
    · have hne : (4 * max workers.toInt 1).bmod (2 ^ 64) ≠ 0 := by
        intro hzero
        exact hshares (Int64.toInt_inj.mp (hproduct.trans hzero))
      rw [if_neg hshares]
      constructor
      · intro h
        cases h
        exact .inr ⟨hneg, _, rfl, hne, hquotient⟩
      · rintro (⟨hpos, -⟩ | ⟨-, shares, rfl, -, hc⟩)
        · exact absurd hpos (Int.not_lt.mpr hneg)
        · rw [Int64.toInt_inj.mp (hquotient.trans hc.symm)]

/-- A chunk left open, for a number of workers that can be multiplied. -/
lemma open_chunk {n chunk workers c : Int64} (hn : 0 < n.toInt) (hc : ChunkInUse n chunk workers c)
    (hopen : chunk.toInt ≤ 0) (hworkers : 1 ≤ workers.toInt) (hfour : 4 * workers.toInt ≤ maxInt) :
    c.toInt.toNat = max (n.toInt.toNat / (4 * workers.toInt).toNat) 1 := by
  unfold maxInt at hfour
  rcases hc with ⟨hpos, -⟩ | ⟨-, shares, hshares, -, hc⟩
  · omega
  · have hproduct : shares = 4 * workers.toInt := by
      rw [hshares, Int.max_eq_left hworkers]
      exact Int.bmod_eq_of_le (by omega) (by omega)
    have hquotient : n.toInt.tdiv shares = (n.toInt.toNat / (4 * workers.toInt).toNat : Nat) := by
      rw [hproduct, Int.tdiv_eq_ediv_of_nonneg (by omega), Int.natCast_ediv,
        Int.toNat_of_nonneg (by omega), Int.toNat_of_nonneg (by omega)]
    omega

/-- A chunk that is worked out gives each worker four ranges, as far as there are indices. -/
lemma min_le_rangeCount {n c m : Nat} (hn : 0 < n) (hm : 0 < m) (hc : c = max (n / m) 1) :
    min n m ≤ rangeCount n c := by
  have hpos : 0 < c := by omega
  have hlast : (min n m - 1) * c < n := by
    rcases Nat.lt_or_ge n m with hfew | hmany
    · have hone : c = 1 := by rw [hc, Nat.div_eq_of_lt hfew]; rfl
      rw [hone]
      omega
    · have hquotient : 1 ≤ n / m := (Nat.one_le_div_iff hm).mpr hmany
      have hchunk : c = n / m := by omega
      have hmul : m * c ≤ n := hchunk ▸ Nat.mul_div_le n m
      rw [Nat.min_eq_right hmany, Nat.sub_mul, Nat.one_mul]
      have : c ≤ m * c := Nat.le_mul_of_pos_left c hm
      omega
  have := (lt_rangeCount_iff hpos).mpr hlast
  omega

lemma cut_bounds {n c k : Nat} (hn : n < 2 ^ 63) (hk : k * c < n) :
    (cut n c k).lo.toInt = k * c ∧ (cut n c k).hi.toInt = min ((k + 1) * c) n := by
  have hlo : (cut n c k).lo.toInt = (k * c : Nat) := Int64.toInt_ofNat_of_lt (by omega)
  have hhi : (cut n c k).hi.toInt = (min ((k + 1) * c) n : Nat) :=
    Int64.toInt_ofNat_of_lt (by omega)
  exact ⟨by simpa using hlo, by simpa using hhi⟩

lemma mem_cuts {n c : Nat} {r : Range} (hc : 0 < c)
    (h : r ∈ (List.range (rangeCount n c)).map (cut n c)) : ∃ k, k * c < n ∧ cut n c k = r := by
  obtain ⟨k, hk, rfl⟩ := List.mem_map.mp h
  exact ⟨k, (lt_rangeCount_iff hc).mp (List.mem_range.mp hk), rfl⟩

lemma cut_hi {n c k : Nat} (hk : (k + 1) * c < n) :
    (cut n c k).hi = (cut n c (k + 1)).lo := by
  unfold cut
  rw [Nat.min_eq_left (by omega)]

theorem cuts_cutEvery {n c : Nat} (hn : n < 2 ^ 63) (hc : 0 < c) :
    CutEvery n c ((List.range (rangeCount n c)).map (cut n c)) := by
  refine ⟨?_, ?_, ?_, ?_, ?_, ?_, ?_⟩
  · rw [List.length_map, List.length_range]
    rfl
  · intro k r h
    rw [List.getElem?_map, Option.map_eq_some_iff] at h
    obtain ⟨j, hj, rfl⟩ := h
    obtain ⟨hlt, rfl⟩ := List.getElem?_eq_some_iff.mp hj
    rw [List.length_range, lt_rangeCount_iff hc] at hlt
    rw [List.getElem_range]
    exact cut_bounds hn hlt
  · intro r hr
    obtain ⟨k, hk, rfl⟩ := mem_cuts hc hr
    obtain ⟨hlo, hhi⟩ := cut_bounds hn hk
    have hnext : (k + 1) * c = k * c + c := Nat.succ_mul k c
    rw [hlo, hhi]
    omega
  · intro r hr
    obtain ⟨k, hk, rfl⟩ := mem_cuts hc hr
    obtain ⟨hlo, hhi⟩ := cut_bounds hn hk
    have hnext : (k + 1) * c = k * c + c := Nat.succ_mul k c
    rw [hlo, hhi]
    omega
  · rw [List.isChain_map, List.isChain_range]
    intro k hk
    exact cut_hi ((lt_rangeCount_iff hc).mp (by omega))
  · rw [List.pairwise_map]
    refine List.pairwise_lt_range.imp_of_mem ?_
    intro j k hj hk hjk
    have hjn := (lt_rangeCount_iff hc).mp (List.mem_range.mp hj)
    have hkn := (lt_rangeCount_iff hc).mp (List.mem_range.mp hk)
    have hle : (j + 1) * c ≤ k * c := Nat.mul_le_mul_right c hjk
    obtain ⟨-, hhi⟩ := cut_bounds hn hjn
    obtain ⟨hlo, -⟩ := cut_bounds hn hkn
    rw [hlo, hhi]
    omega
  · intro i
    constructor
    · rintro ⟨r, hr, hlo, hhi⟩
      obtain ⟨k, hk, rfl⟩ := mem_cuts hc hr
      obtain ⟨hlo', hhi'⟩ := cut_bounds hn hk
      omega
    · rintro ⟨hi, hlt⟩
      obtain ⟨j, rfl⟩ := Int.eq_ofNat_of_zero_le hi
      have hdiv : j / c * c ≤ j := Nat.div_mul_le_self j c
      have hnext : j < (j / c + 1) * c := by
        rw [Nat.mul_comm]
        exact Nat.lt_mul_div_succ j hc
      have hk : j / c * c < n := by omega
      obtain ⟨hlo, hhi⟩ := cut_bounds hn hk
      refine ⟨cut n c (j / c), List.mem_map.mpr ⟨j / c, ?_, rfl⟩, ?_, ?_⟩
      · exact List.mem_range.mpr ((lt_rangeCount_iff hc).mpr hk)
      · rw [hlo]
        omega
      · rw [hhi]
        omega

lemma split_of_capacity {n chunk workers c : Int64} (hn : 0 < n.toInt)
    (hchunk : chunkFor n chunk workers = .ok c) (hfit : n.toInt + c.toInt ≤ 2 ^ 63)
    (hroom : (capacity n c).toInt ≤ maxRanges) :
    split n chunk workers = .ok ((List.range (rangeCount n.toInt.toNat c.toInt.toNat)).map
      (cut n.toInt.toNat c.toInt.toNat)) := by
  have hcapacity := toInt_capacity (chunkFor_pos hchunk) hn hfit
  have hpos : ¬n ≤ 0 := fun hle => absurd (Int64.le_iff_toInt_le.mp hle) (Int.not_le.mpr hn)
  have hgranted : ¬(capacity n c < 0 ∨ (maxRanges : Int) < (capacity n c).toInt) := by
    rw [Int64.lt_iff_toInt_lt, hcapacity]
    have hzero : (0 : Int64).toInt = 0 := by decide
    omega
  have hsome : ∃ ranges, split n chunk workers = .ok ranges := by
    unfold split
    rw [if_neg hpos, hchunk]
    dsimp only
    rw [if_neg hgranted]
    exact ⟨_, rfl⟩
  obtain ⟨ranges, hsplit⟩ := hsome
  have huse : ∀ d, chunkFor n chunk workers = .ok d →
      n.toInt ≤ d.toInt ∨ n.toInt + d.toInt ≤ 2 ^ 63 := by
    intro d hd
    cases hchunk.symm.trans hd
    exact .inr hfit
  obtain ⟨d, hd, -, hranges⟩ := split_eq_cuts hn huse hsplit
  cases hchunk.symm.trans hd
  rw [hsplit, hranges]

/-- A partition is exact when the sum of index space and chunk does not wrap and its list can be held.
The index space is cut every `c` places, the list is sized for the ranges it gets, and the loop's index
never wraps. With the chunk left open each worker gets four ranges, as far as there are indices. -/
theorem split_exact {n chunk workers c : Int64} (hn : 1 ≤ n.toInt)
    (hc : ChunkInUse n chunk workers c) (hfit : n.toInt + c.toInt - 1 ≤ maxInt)
    (hroom : (capacity n c).toInt ≤ maxRanges) :
    ∃ ranges, split n chunk workers = .ok ranges ∧
      CutEvery n.toInt.toNat c.toInt.toNat ranges ∧
      (capacity n c).toInt = ranges.length ∧
      (∀ r ∈ ranges, (r.lo + c).toInt = r.lo.toInt + c.toInt) ∧
      (chunk.toInt ≤ 0 → 1 ≤ workers.toInt → 4 * workers.toInt ≤ maxInt →
        min n.toInt (4 * workers.toInt) ≤ ranges.length) := by
  unfold maxInt at hfit
  have hchunk := (chunkFor_eq_ok_iff hn).mpr hc
  have hpos := chunkFor_pos hchunk
  have hcut := cuts_cutEvery (n := n.toInt.toNat) (c := c.toInt.toNat) (by omega) (by omega)
  refine ⟨_, split_of_capacity hn hchunk (by omega) hroom, hcut, ?_, ?_, ?_⟩
  · rw [toInt_capacity hpos hn (by omega), List.length_map, List.length_range]
  · intro r hr
    have hstart := hcut.nonempty r hr
    have hunion := (hcut.union r.lo.toInt).mp ⟨r, hr, le_refl _, hstart⟩
    exact toInt_add_of_le hunion.1 (by omega) (by unfold maxInt; omega)
  · intro hopen hworkers hfour
    have hmin := min_le_rangeCount (n := n.toInt.toNat) (by omega) (by omega)
      (open_chunk hn hc hopen hworkers hfour)
    rw [List.length_map, List.length_range]
    omega

/-- Sum and largest machine integer agree to the last place: two ranges, the second of two indices.
With the chunk left open, ten indices for one worker give five ranges of two. -/
theorem split_exact_at_the_limit :
    (∃ ranges, split 4611686018427387905 4611686018427387903 1 = .ok ranges ∧
      CutEvery 4611686018427387905 4611686018427387903 ranges ∧ ranges.length = 2 ∧
      ∀ r ∈ ranges, (r.lo + 4611686018427387903).toInt = r.lo.toInt + 4611686018427387903) ∧
    ∃ ranges, split 10 0 1 = .ok ranges ∧ CutEvery 10 2 ranges ∧ 4 ≤ (ranges.length : Int) := by
  have hasked : ChunkInUse 4611686018427387905 4611686018427387903 1 4611686018427387903 :=
    .inl ⟨by decide, rfl⟩
  have hopen : ChunkInUse 10 0 1 2 := .inr ⟨by decide, 4, by decide, by decide, by decide⟩
  constructor
  · obtain ⟨ranges, hsplit, hcut, hlength, hwrap, -⟩ :=
      split_exact (by decide) hasked (by decide) (by decide)
    exact ⟨ranges, hsplit, hcut, Int.ofNat_inj.mp hlength.symm, hwrap⟩
  · obtain ⟨ranges, hsplit, hcut, -, -, hmany⟩ :=
      split_exact (by decide) hopen (by decide) (by decide)
    exact ⟨ranges, hsplit, hcut, hmany (by decide) (by decide) (by decide)⟩

end EscapeTime.Proofs
