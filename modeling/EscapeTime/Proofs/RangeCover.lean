import EscapeTime.Work.Pool
import Mathlib.Algebra.Ring.Int.Defs
import Mathlib.Algebra.Ring.Nat
import Mathlib.Tactic.Common

/-!
# Ranges cover their index space

The ranges of a partition, read one after the other, spell out every index below `n` exactly once
and in order. Filling an array through them is therefore filling it everywhere, whatever chunk and
number of workers the ranges were cut for.
-/

namespace EscapeTime.Proofs
open EscapeTime.Range EscapeTime.Partition

def rangeIndices (r : Range) : List Nat :=
  List.range' r.lo.toInt.toNat (r.hi.toInt - r.lo.toInt).toNat

/-- The ranges spell out the indices below `n` in order, and none starts below zero. -/
structure Covers (ranges : List Range) (n : Nat) : Prop where
  indices : ranges.flatMap rangeIndices = List.range n
  lo_nonneg : ∀ r ∈ ranges, 0 ≤ r.lo.toInt

lemma foldUp_eq_foldl {β : Type} (f : β → Nat → β) (count k : Nat) (b : β) :
    foldUp f count k b = (List.range' k count).foldl f b := by
  induction count generalizing k b with
  | zero => rfl
  | succ count ih => rw [foldUp, ih, List.range'_succ, List.foldl_cons]

lemma fillAll_eq_foldl {α : Type} (ranges : List Range) (f : Nat → α) (a : Array α) :
    fillAll ranges f a =
      (ranges.flatMap rangeIndices).foldl (fun b k => b.setIfInBounds k (f k)) a := by
  induction ranges generalizing a with
  | nil => rfl
  | cons r rs ih =>
    rw [List.flatMap_cons, List.foldl_append, ← ih]
    have hfill : r.fill f a =
        (rangeIndices r).foldl (fun b k => b.setIfInBounds k (f k)) a :=
      foldUp_eq_foldl _ _ _ a
    rw [← hfill]
    rfl

lemma getElem?_foldl_setIfInBounds {α : Type} (f : Nat → α) (ks : List Nat) (a : Array α) (i : Nat) :
    (ks.foldl (fun b k => b.setIfInBounds k (f k)) a)[i]? =
      if i ∈ ks ∧ i < a.size then some (f i) else a[i]? := by
  induction ks generalizing a with
  | nil => simp
  | cons k ks ih =>
    rw [List.foldl_cons, ih, Array.size_setIfInBounds, Array.getElem?_setIfInBounds]
    by_cases hk : k = i
    · subst hk
      by_cases hs : k < a.size
      · simp [hs]
      · simp [hs]
    · have hik : i ≠ k := fun h => hk h.symm
      simp [hk, hik]

/-- Ranges that spell out all places of an array fill all of it. -/
theorem getElem?_fillAll {α : Type} {ranges : List Range} {n : Nat}
    (hcover : ranges.flatMap rangeIndices = List.range n) (f : Nat → α) (a : Array α)
    (hsize : a.size = n) (i : Nat) (hi : i < n) : (fillAll ranges f a)[i]? = some (f i) := by
  rw [fillAll_eq_foldl, getElem?_foldl_setIfInBounds, hcover]
  exact if_pos ⟨List.mem_range.mpr hi, by omega⟩

/-- The `k`th range of at most `c` indices below `n`. -/
def cut (n c k : Nat) : Range := ⟨Int64.ofNat (k * c), Int64.ofNat (min ((k + 1) * c) n)⟩

lemma rangeIndices_cut {n c k : Nat} (hn : n < 2 ^ 63) (hk : k * c < n) :
    rangeIndices (cut n c k) = List.range' (k * c) (min ((k + 1) * c) n - k * c) := by
  have hlo : (Int64.ofNat (k * c)).toInt = (k * c : Nat) := Int64.toInt_ofNat_of_lt (by omega)
  have hhi : (Int64.ofNat (min ((k + 1) * c) n)).toInt = (min ((k + 1) * c) n : Nat) :=
    Int64.toInt_ofNat_of_lt (by omega)
  unfold rangeIndices cut
  rw [hlo, hhi, Int.toNat_natCast]
  congr 1
  omega

/-- Consecutive cuts up to the end spell out all indices from the first one on. -/
lemma flatMap_cut {n c : Nat} (hn : n < 2 ^ 63) (count k : Nat) (hstop : n ≤ (k + count) * c)
    (hgo : ∀ j, j < count → (k + j) * c < n) :
    ((List.range' k count).map (cut n c)).flatMap rangeIndices =
      List.range' (k * c) (n - k * c) := by
  induction count generalizing k with
  | zero =>
    rw [Nat.add_zero] at hstop
    rw [Nat.sub_eq_zero_of_le hstop]
    rfl
  | succ count ih =>
    have hk : k * c < n := hgo 0 (by omega)
    have hrest := ih (k + 1) (by rw [Nat.add_right_comm]; exact hstop) (fun j hj => by
      have := hgo (j + 1) (by omega)
      rwa [Nat.add_right_comm])
    rw [List.range'_succ, List.map_cons, List.flatMap_cons, rangeIndices_cut hn hk, hrest]
    have hsucc : (k + 1) * c = k * c + c := Nat.succ_mul k c
    rcases Nat.le_total ((k + 1) * c) n with hfull | htail
    · rw [Nat.min_eq_left hfull, hsucc, Nat.add_sub_cancel_left, List.range'_append_1]
      congr 1
      omega
    · rw [Nat.min_eq_right htail, Nat.sub_eq_zero_of_le htail, List.range'_zero, List.append_nil]

/-- The loop that cuts ranges from the `k`th on. Its index never wraps: either the first range takes
everything, or index and chunk together stay below the largest machine integer. -/
lemma collect_eq_cuts {n c : Int64} (hc : 0 < c.toInt) (hn : 0 ≤ n.toInt)
    (hfit : n.toInt ≤ c.toInt ∨ n.toInt + c.toInt ≤ 2 ^ 63)
    (room : Nat) (lo : Int64) (found : Array Range) (count k : Nat)
    (hlo : lo.toInt = (k * c.toInt.toNat : Nat)) (hroom : count ≤ room)
    (hstop : n.toInt.toNat ≤ (k + count) * c.toInt.toNat)
    (hgo : ∀ j, j < count → (k + j) * c.toInt.toNat < n.toInt.toNat) :
    (collect n c room lo found).toList =
      found.toList ++ (List.range' k count).map (cut n.toInt.toNat c.toInt.toNat) := by
  induction room generalizing lo found count k with
  | zero =>
    have hzero : count = 0 := by omega
    subst hzero
    simp [collect]
  | succ room ih =>
    rw [collect]
    cases count with
    | zero =>
      have hdone : ¬lo < n := by
        rw [Int64.lt_iff_toInt_lt, hlo]
        rw [Nat.add_zero] at hstop
        omega
      simp [hdone]
    | succ count =>
      have hk : k * c.toInt.toNat < n.toInt.toNat := hgo 0 (by omega)
      have hmore : lo < n := by
        rw [Int64.lt_iff_toInt_lt, hlo]
        omega
      have hsucc : (k + 1) * c.toInt.toNat = k * c.toInt.toNat + c.toInt.toNat := Nat.succ_mul _ _
      -- A wrap would need `k > 0`, and then the chunk is below `n`.
      have hadd : (lo + c).toInt = ((k + 1) * c.toInt.toNat : Nat) := by
        have hbound : lo.toInt + c.toInt ≤ maxInt := by
          have hcmax := Int64.toInt_lt c
          unfold maxInt
          cases k with
          | zero => omega
          | succ k =>
            have hle : c.toInt.toNat ≤ (k + 1) * c.toInt.toNat := Nat.le_mul_of_pos_left _ (by omega)
            omega
        rw [toInt_add_of_le (by omega) (by omega) hbound]
        omega
      have hcut : (⟨lo, min (lo + c) n⟩ : Range) = cut n.toInt.toNat c.toInt.toNat k := by
        have hhi : (min (lo + c) n).toInt =
            (min ((k + 1) * c.toInt.toNat) n.toInt.toNat : Nat) := by
          rw [toInt_min, hadd]
          omega
        rw [cut, ← eq_ofNat_of_toInt hlo, ← eq_ofNat_of_toInt hhi]
      rw [if_pos hmore, ih (lo + c) _ count (k + 1) hadd (by omega)
        (by rw [Nat.add_right_comm]; exact hstop)
        (fun j hj => by have := hgo (j + 1) (by omega); rwa [Nat.add_right_comm])]
      rw [Array.toList_push, hcut, List.range'_succ, List.map_cons, List.append_assoc]
      rfl

/-- How many ranges of at most `c` indices it takes. -/
def rangeCount (n c : Nat) : Nat := (n + c - 1) / c

lemma lt_rangeCount_iff {n c j : Nat} (hc : 0 < c) : j < rangeCount n c ↔ j * c < n := by
  have hsucc : (j + 1) * c = j * c + c := Nat.succ_mul j c
  rw [rangeCount, ← Nat.succ_le_iff, Nat.le_div_iff_mul_le hc, Nat.succ_eq_add_one]
  omega

lemma le_rangeCount_mul {n c : Nat} (hc : 0 < c) : n ≤ rangeCount n c * c :=
  Nat.not_lt.mp fun hlt => Nat.lt_irrefl _ ((lt_rangeCount_iff hc).mpr hlt)

lemma toInt_capacity {n c : Int64} (hc : 0 < c.toInt) (hn : 0 < n.toInt)
    (hfit : n.toInt + c.toInt ≤ 2 ^ 63) :
    (capacity n c).toInt = rangeCount n.toInt.toNat c.toInt.toNat := by
  have hsum : (n + c - 1).toInt = n.toInt + c.toInt - 1 := by
    have hone : (1 : Int64).toInt = 1 := by decide
    rw [Int64.toInt_sub, Int64.toInt_add, hone, Int.bmod_sub_bmod]
    exact Int.bmod_eq_of_le (by omega) (by omega)
  have hne : n + c - 1 ≠ Int64.minValue := by
    intro h
    rw [h, Int64.toInt_minValue] at hsum
    omega
  rw [capacity, Int64.toInt_div_of_ne_left _ _ hne, hsum, Int.tdiv_eq_ediv_of_nonneg (by omega),
    rangeCount, Int.natCast_ediv]
  congr 1 <;> omega

lemma chunkFor_pos {n chunk workers c : Int64} (h : chunkFor n chunk workers = .ok c) :
    0 < c.toInt := by
  unfold chunkFor at h
  split at h
  · rename_i hchunk
    cases h
    exact Int64.lt_iff_toInt_lt.mp hchunk
  · dsimp only at h
    split at h
    · cases h
    · cases h
      have hone : (1 : Int64).toInt = 1 := by decide
      rw [toInt_max, hone]
      omega

/-- What a partition returns, as long as no index wraps: the cuts of the chunk in use, in order. -/
theorem split_eq_cuts {n chunk workers : Int64} {ranges : List Range} (hn : 0 < n.toInt)
    (hfit : ∀ c, chunkFor n chunk workers = .ok c →
      n.toInt ≤ c.toInt ∨ n.toInt + c.toInt ≤ 2 ^ 63)
    (h : split n chunk workers = .ok ranges) :
    ∃ c, chunkFor n chunk workers = .ok c ∧ 0 < c.toInt ∧
      ranges = (List.range (rangeCount n.toInt.toNat c.toInt.toNat)).map
        (cut n.toInt.toNat c.toInt.toNat) := by
  have hpos : ¬n ≤ 0 := by
    rw [Int64.le_iff_toInt_le]
    exact Int.not_le.mpr hn
  unfold split at h
  rw [if_neg hpos] at h
  cases hchunk : chunkFor n chunk workers with
  | error crash => rw [hchunk] at h; cases h
  | ok c =>
    rw [hchunk] at h
    dsimp only at h
    split at h
    · cases h
    · rename_i hcap
      have hc := chunkFor_pos hchunk
      have hroom : rangeCount n.toInt.toNat c.toInt.toNat ≤ maxRanges := by
        rcases hfit c hchunk with hone | hsum
        · have htwo : rangeCount n.toInt.toNat c.toInt.toNat < 2 := by
            rw [rangeCount, Nat.div_lt_iff_lt_mul (by omega)]
            omega
          unfold maxRanges
          omega
        · have hcapacity := toInt_capacity hc hn hsum
          omega
      cases h
      refine ⟨c, rfl, hc, ?_⟩
      rw [collect_eq_cuts hc (by omega) (hfit c hchunk) maxRanges 0 #[] _ 0 (by simp) hroom
        (by rw [Nat.zero_add]; exact le_rangeCount_mul (by omega))
        (fun j hj => by rw [Nat.zero_add]; exact (lt_rangeCount_iff (by omega)).mp hj)]
      rw [List.range_eq_range']
      rfl

/-- A partition covers its index space as long as no index wraps. -/
theorem split_covers {n chunk workers : Int64} {ranges : List Range}
    (hfit : ∀ c, chunkFor n chunk workers = .ok c →
      n.toInt ≤ c.toInt ∨ n.toInt + c.toInt ≤ 2 ^ 63)
    (h : split n chunk workers = .ok ranges) :
    Covers ranges n.toInt.toNat := by
  have hmax := Int64.toInt_lt n
  by_cases hpos : 0 < n.toInt
  · obtain ⟨c, -, hc, rfl⟩ := split_eq_cuts hpos hfit h
    have hcover := flatMap_cut (n := n.toInt.toNat) (c := c.toInt.toNat) (by omega)
      (rangeCount n.toInt.toNat c.toInt.toNat) 0
      (by rw [Nat.zero_add]; exact le_rangeCount_mul (by omega))
      (fun j hj => by rw [Nat.zero_add]; exact (lt_rangeCount_iff (by omega)).mp hj)
    constructor
    · rw [List.range_eq_range', hcover, List.range_eq_range', Nat.zero_mul, Nat.sub_zero]
    · intro r hr
      obtain ⟨k, hk, rfl⟩ := List.mem_map.mp hr
      have hlt := (lt_rangeCount_iff (by omega)).mp (List.mem_range.mp hk)
      have hlo : (Int64.ofNat (k * c.toInt.toNat)).toInt = (k * c.toInt.toNat : Nat) :=
        Int64.toInt_ofNat_of_lt (by omega)
      change 0 ≤ (Int64.ofNat (k * c.toInt.toNat)).toInt
      omega
  · have hle : n ≤ 0 := Int64.le_iff_toInt_le.mpr (Int.not_lt.mp hpos)
    unfold split at h
    rw [if_pos hle] at h
    cases h
    rw [Int.toNat_of_nonpos (by omega)]
    exact ⟨rfl, fun r hr => absurd hr List.not_mem_nil⟩

/-- No index wraps among the first `2 ^ 62`. -/
lemma split_covers_of_le {n chunk workers : Int64} {ranges : List Range} (hn : n.toInt ≤ 2 ^ 62)
    (h : split n chunk workers = .ok ranges) : Covers ranges n.toInt.toNat :=
  split_covers (fun c _ => by omega) h

/-- A batch runs all of its items, in an open pool and as long as its places can be counted. -/
theorem run_eq_ok_iff {α : Type} {p : Pool} {work : List (Option α)} {done : List α} :
    p.run work = .ok done ↔
      p.closed = false ∧ work.length < Pool.counterLimit ∧ work.filterMap id = done := by
  unfold Pool.run
  rw [← Nat.not_le]
  cases p.closed with
  | true => simp
  | false => by_cases hcounted : Pool.counterLimit ≤ work.length <;> simp [hcounted]

lemma spread_eq_ok {p : Pool} {n chunk : Int64} {ranges : List Range}
    (h : p.spread n chunk = .ok ranges) :
    p.closed = false ∧ split n chunk p.workers = .ok ranges := by
  unfold Pool.spread at h
  split at h
  · rename_i hn
    obtain ⟨hopen, -, rfl⟩ := run_eq_ok_iff.mp h
    exact ⟨hopen, if_pos hn⟩
  · cases hsplit : split n chunk p.workers with
    | error c => rw [hsplit] at h; cases h
    | ok found =>
      rw [hsplit] at h
      obtain ⟨hopen, -, rfl⟩ := run_eq_ok_iff.mp h
      refine ⟨hopen, ?_⟩
      rw [List.filterMap_map, Function.id_comp, List.filterMap_some]

end EscapeTime.Proofs
