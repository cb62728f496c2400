import EscapeTime.Failure

/-!
# Partitions of an index space

The indices below `n` are cut into consecutive ranges of at most `chunk` indices. All arithmetic is
on machine integers and wraps; the list of ranges is sized before it is filled. Each range is worked
through by a loop of its own, and all loops write to one array, in any interleaving of their writes.
-/

namespace EscapeTime

/-- The indices from `lo` up to, not including, `hi`. -/
structure Range where
  lo : Int64
  hi : Int64
  deriving DecidableEq, Repr

namespace Range

/-- Folds over `count` consecutive numbers from `k` on. -/
def foldUp {β : Type} (f : β → Nat → β) : (count k : Nat) → β → β
  | 0, _, b => b
  | count + 1, k, b => foldUp f count (k + 1) (f b k)

def fold {β : Type} (r : Range) (f : β → Nat → β) (b : β) : β :=
  foldUp f (r.hi.toInt - r.lo.toInt).toNat r.lo.toInt.toNat b

/-- Stores `f k` at every index `k` of the range. -/
def fill {α : Type} (r : Range) (f : Nat → α) (a : Array α) : Array α :=
  r.fold (fun b k => b.setIfInBounds k (f k)) a

theorem size_foldUp {α : Type} (f : Nat → α) (count k : Nat) (a : Array α) :
    (foldUp (fun (b : Array α) k => b.setIfInBounds k (f k)) count k a).size = a.size := by
  induction count generalizing k a with
  | zero => rfl
  | succ count ih => rw [foldUp, ih, Array.size_setIfInBounds]

@[simp]
theorem size_fill {α : Type} (r : Range) (f : Nat → α) (a : Array α) :
    (r.fill f a).size = a.size :=
  size_foldUp f _ _ a

def fillAll {α : Type} (ranges : List Range) (f : Nat → α) (a : Array α) : Array α :=
  ranges.foldl (fun b r => r.fill f b) a

@[simp]
theorem size_fillAll {α : Type} (ranges : List Range) (f : Nat → α) (a : Array α) :
    (fillAll ranges f a).size = a.size := by
  induction ranges generalizing a with
  | nil => rfl
  | cons r rs ih => exact (ih (r.fill f a)).trans (size_fill r f a)

/-- The sum of all indices of the ranges. -/
def sumIndices (ranges : List Range) : Int64 :=
  ranges.foldl (fun total r => r.fold (fun t k => t + Int64.ofNat k) total) 0

end Range

namespace Partition

/-- How many ranges each worker gets when the chunk is left open. -/
def rangesPerWorker : Int64 := 4

/-- The most ranges that can be held, `2 ^ 44` at two machine integers each. -/
def maxRanges : Nat := 17592186044416

/-- The chunk in use: the one asked for, or one that gives each worker about four ranges. -/
def chunkFor (n chunk workers : Int64) : Except Crash Int64 :=
  if 0 < chunk then .ok chunk
  else
    let share := max workers 1 * rangesPerWorker
    if share = 0 then .error .divideByZero else .ok (max (n / share) 1)

def capacity (n chunk : Int64) : Int64 := (n + chunk - 1) / chunk

/-- The ranges from `lo` on, added to those already found. -/
def collect (n chunk : Int64) : (room : Nat) → (lo : Int64) → (found : Array Range) → Array Range
  | 0, _, found => found
  | room + 1, lo, found =>
    if lo < n then collect n chunk room (lo + chunk) (found.push ⟨lo, min (lo + chunk) n⟩)
    else found

def split (n chunk workers : Int64) : Except Crash (List Range) :=
  if n ≤ 0 then .ok []
  else
    match chunkFor n chunk workers with
    | .error c => .error c
    | .ok c =>
      if capacity n c < 0 ∨ (maxRanges : Int) < (capacity n c).toInt then .error .refusedCapacity
      else .ok (collect n c maxRanges 0 #[]).toList

end Partition

/-- A loop that has the places from `next` up to, not including, `stop` ahead of it. -/
structure Loop where
  next : Nat
  stop : Nat
  deriving DecidableEq, Repr

namespace Loop

def ofRange (r : Range) : Loop := ⟨r.lo.toInt.toNat, r.hi.toInt.toNat⟩

def advance (l : Loop) : Loop := { l with next := l.next + 1 }

end Loop

structure Filling (α : Type) where
  loops : List Loop
  cells : Array α

namespace Filling

def start {α : Type} (ranges : List Range) (cells : Array α) : Filling α :=
  ⟨ranges.map Loop.ofRange, cells⟩

def IsDone {α : Type} (s : Filling α) : Prop := ∀ l ∈ s.loops, l.stop ≤ l.next

/-- One loop writes `f k` at its place `k` and moves on. There is no step outside the array. -/
inductive Step {α : Type} (f : Nat → α) : Filling α → Nat → Filling α → Prop where
  | write {before after : List Loop} {l : Loop} {cells : Array α} (more : l.next < l.stop)
      (inside : l.next < cells.size) :
      Step f ⟨before ++ l :: after, cells⟩ l.next
        ⟨before ++ l.advance :: after, cells.set l.next (f l.next) inside⟩

/-- Steps from one state to another, with the places that were written on the way. -/
inductive Run {α : Type} (f : Nat → α) : Filling α → List Nat → Filling α → Prop where
  | refl (s : Filling α) : Run f s [] s
  | step {s t u : Filling α} {k : Nat} {ks : List Nat} : Step f s k t → Run f t ks u →
      Run f s (k :: ks) u

end Filling

end EscapeTime
