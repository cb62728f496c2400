import EscapeTime.Memory
import EscapeTime.Work.Partition

/-!
# Worker pools

What a pool of workers does with a batch, whatever the schedule: an open pool runs every item
there is, a closed one runs none and says so. Workers and items are counted in 32 bits.
-/

namespace EscapeTime

/-- What the system has to run workers on. -/
structure Processors where
  count : Int64
  count_pos : 0 < count.toInt
  deriving DecidableEq, Repr

structure Pool where
  workers : Int64
  closed : Bool
  workers_pos : 0 < workers.toInt
  /-- Each worker has a queue, and the queues are held in one buffer. -/
  fits : workers.toInt.toNat * 8 ≤ Memory.limit
  deriving DecidableEq, Repr

namespace Pool

/-- The first number that a counter cannot hold. -/
def counterLimit : Nat := 2147483648

def workersFor (processors : Processors) (workers : Int64) : Int64 :=
  if workers ≤ 0 then processors.count else workers

theorem workersFor_pos (processors : Processors) (workers : Int64) :
    0 < (workersFor processors workers).toInt := by
  unfold workersFor
  split
  · exact processors.count_pos
  · rename_i h
    exact Int64.lt_iff_toInt_lt.mp (Int64.not_le.mp h)

def queueRoom (workers : Int64) : Int64 := max (workers * 4) 8

/-- The bytes that a queue takes besides its room. -/
def queueHeader : Nat := 112

/-- A new pool; zero or fewer workers asks for one on each processor. Asking for more workers than there
can be queues, or queues, or counted workers, is a misuse. -/
def start (processors : Processors) (workers : Int64) : Except Crash Pool :=
  let count := workersFor processors workers
  match h : Memory.grant count 8 with
  | .error c => .error c
  | .ok _ =>
    if Memory.limit < queueHeader + (queueRoom count).toInt.toNat * 8 then .error .refusedQueue
    else if count.toInt32 < 0 then .error .negativeCounter
    else
      .ok {
        workers := count
        closed := false
        workers_pos := workersFor_pos processors workers
        fits := by
          obtain ⟨-, rfl, hfits⟩ := Memory.grant_eq_ok_iff.mp h
          exact hfits }

def close (p : Pool) : Pool := { p with closed := true }

/-- Runs the items of a batch. Empty places are skipped, but they are counted as well: the counter of
a batch with too many places falls below zero, at once or when it has wrapped and its items finish. -/
def run {α : Type} (p : Pool) (work : List (Option α)) : Except Abort (List α) :=
  if p.closed then .error (.failure (.kind .poolClosed))
  else if counterLimit ≤ work.length then .error (.crash .negativeCounter)
  else .ok (work.filterMap id)

/-- Hands out the indices below `n` in ranges. The ranges are cut before the pool is asked. -/
def spread (p : Pool) (n chunk : Int64) : Except Abort (List Range) :=
  if n ≤ 0 then p.run []
  else
    match Partition.split n chunk p.workers with
    | .error c => .error (.crash c)
    | .ok ranges => p.run (ranges.map some)

/-- The sum of all indices that a number of equal batches hand out. -/
def total (p : Pool) (n chunk : Int64) (batches : Nat) : Except Abort Int64 :=
  if batches = 0 then .ok 0
  else (p.spread n chunk).map fun ranges => Int64.ofNat batches * Range.sumIndices ranges

end Pool

end EscapeTime
