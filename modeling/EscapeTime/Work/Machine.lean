import EscapeTime.Work.Pool
import Mathlib.Logic.Function.Basic

/-!
# The pool as a machine

A pool has workers with bounded queues. Batches deal their items to the queues while they hold a
shared lock; a closing needs the lock for itself, and once it has laid claim to it no further batch
gets in. The steps of all parties interleave freely. What a batch waits for is counted in 32 bits.
-/

namespace EscapeTime

namespace Machine
open Function (update)

/-- The number of workers, and of items that a queue has room for. -/
structure Shape where
  workers : Nat
  room : Nat
  workers_pos : 0 < workers
  deriving DecidableEq, Repr

/-- The shape of the machine that a pool runs on. -/
def Shape.ofPool (p : Pool) : Shape where
  workers := p.workers.toInt.toNat
  room := (Pool.queueRoom p.workers).toInt.toNat
  workers_pos := by
    have hpos := p.workers_pos
    omega

structure Item where
  batch : Nat
  index : Nat
  deriving DecidableEq, Repr

/-- What an item stands for, if it is one of the batch. -/
def Item.standsFor? {α : Type} (b : Nat) (work : List (Option α)) (item : Item) : Option α :=
  if item.batch = b then (work[item.index]?).join else none

inductive BatchPhase where
  | idle
  /-- Waits for the shared lock. -/
  | entering
  /-- Holds the shared lock and has yet to ask whether the pool is closed. -/
  | holding
  /-- Holds the shared lock; the places before `next` have been dealt. -/
  | dealing (next : Nat)
  /-- Has returned, with success or because the pool was closed. -/
  | returned (success : Bool)
  /-- Has crashed, with more places than can be counted. -/
  | crashed
  deriving DecidableEq, Repr

inductive ClosePhase where
  | idle
  /-- Waits for its turn to claim the exclusive lock. -/
  | waiting
  /-- Has claimed the exclusive lock and waits for the batches that share it to leave. -/
  | claiming
  /-- Has closed the pool and waits for the workers to leave. -/
  | stopping
  | returned
  deriving DecidableEq, Repr

inductive WorkerPhase where
  | seeking
  /-- Found its own queue empty and looks into the others, from the queue `next` on. -/
  | scanning (next : Nat)
  /-- Found nothing to steal and waits for its own queue or for the end. -/
  | parked
  /-- Runs an item; `last` says that it has seen the end. -/
  | running (item : Item) (last : Bool)
  /-- Has seen the end and empties its own queue. -/
  | draining
  | gone
  deriving DecidableEq, Repr

def WorkerPhase.IsWaiting (w : WorkerPhase) : Prop := w = seeking ∨ w = parked

def WorkerPhase.resume (last : Bool) : WorkerPhase := if last then draining else seeking

structure State where
  queue : Nat → List Item
  worker : Nat → WorkerPhase
  /-- The places of each batch; some may be empty. -/
  work : Nat → List Bool
  batch : Nat → BatchPhase
  /-- What each batch waits for: its places, less those passed over and those finished. -/
  pending : Nat → Nat
  closing : Nat → ClosePhase
  closed : Bool
  started : List Item
  finished : List Item

namespace State

def initial : State where
  queue _ := []
  worker _ := .seeking
  work _ := []
  batch _ := .idle
  pending _ := 0
  closing _ := .idle
  closed := false
  started := []
  finished := []

/-- No batch holds the shared lock. -/
def Unshared (s : State) : Prop := ∀ b, s.batch b ≠ .holding ∧ ∀ n, s.batch b ≠ .dealing n

/-- No closing has claimed the exclusive lock. -/
def Unclaimed (s : State) : Prop := ∀ c, s.closing c ≠ .claiming

def setBatch (s : State) (b : Nat) (phase : BatchPhase) : State :=
  { s with batch := update s.batch b phase }

def setPending (s : State) (b n : Nat) : State := { s with pending := update s.pending b n }

def setWorker (s : State) (k : Nat) (phase : WorkerPhase) : State :=
  { s with worker := update s.worker k phase }

def setClosing (s : State) (c : Nat) (phase : ClosePhase) : State :=
  { s with closing := update s.closing c phase }

def push (s : State) (q : Nat) (item : Item) : State :=
  { s with queue := update s.queue q (s.queue q ++ [item]) }

/-- A worker takes the first item of a queue and starts it. -/
def begin (s : State) (k q : Nat) (item : Item) (rest : List Item) (last : Bool) : State :=
  { s with
    queue := update s.queue q rest
    worker := update s.worker k (.running item last)
    started := item :: s.started }

/-- A worker is done with its item, and the item's batch has one less to wait for. -/
def finish (s : State) (k : Nat) (item : Item) (last : Bool) : State :=
  { s with
    worker := update s.worker k (.resume last)
    pending := update s.pending item.batch (s.pending item.batch - 1)
    finished := item :: s.finished }

/-- What has been run of a batch, in the order in which it was finished. -/
def ran {α : Type} (s : State) (b : Nat) (work : List (Option α)) : List α :=
  s.finished.reverse.filterMap (Item.standsFor? b work)

end State

/-- Calls that can arrive at any time. -/
inductive Call : State → State → Prop where
  | submit {s : State} (b : Nat) (work : List Bool) : s.batch b = .idle →
      Call s { s.setBatch b .entering with work := update s.work b work }
  | close {s : State} (c : Nat) : s.closing c = .idle → Call s (s.setClosing c .waiting)

/-- What the parties do. -/
inductive Step (p : Shape) : State → State → Prop where
  -- A batch gets the shared lock, asks whether the pool is open, deals its places one after the other
  -- and returns when it has nothing left to wait for.
  | share {s : State} (b : Nat) : s.batch b = .entering → s.Unclaimed →
      Step p s (s.setBatch b .holding)
  | refuse {s : State} (b : Nat) : s.batch b = .holding → s.closed = true →
      Step p s (s.setBatch b (.returned false))
  | accept {s : State} (b : Nat) : s.batch b = .holding → s.closed = false →
      (s.work b).length < Pool.counterLimit →
      Step p s ((s.setBatch b (.dealing 0)).setPending b (s.work b).length)
  | overflow {s : State} (b : Nat) : s.batch b = .holding → s.closed = false →
      Pool.counterLimit ≤ (s.work b).length → Step p s (s.setBatch b .crashed)
  | skip {s : State} (b n : Nat) : s.batch b = .dealing n → (s.work b)[n]? = some false →
      Step p s ((s.setBatch b (.dealing (n + 1))).setPending b (s.pending b - 1))
  | deal {s : State} (b n : Nat) : s.batch b = .dealing n → (s.work b)[n]? = some true →
      (s.queue (n % p.workers)).length < p.room →
      Step p s ((s.setBatch b (.dealing (n + 1))).push (n % p.workers) ⟨b, n⟩)
  | complete {s : State} (b : Nat) : s.batch b = .dealing (s.work b).length → s.pending b = 0 →
      Step p s (s.setBatch b (.returned true))
  -- A worker takes items from its own queue, else from the others, else waits. Once it has seen the end
  -- it takes what is left in its own queue and leaves.
  | take {s : State} (k : Nat) (item : Item) (rest : List Item) : k < p.workers →
      (s.worker k).IsWaiting → s.queue k = item :: rest → Step p s (s.begin k k item rest false)
  | scan {s : State} (k : Nat) : k < p.workers → s.worker k = .seeking → s.queue k = [] →
      s.closed = false → Step p s (s.setWorker k (.scanning 0))
  | pass {s : State} (k q : Nat) : k < p.workers → s.worker k = .scanning q → q < p.workers →
      q = k ∨ s.queue q = [] → Step p s (s.setWorker k (.scanning (q + 1)))
  | steal {s : State} (k q : Nat) (item : Item) (rest : List Item) : k < p.workers →
      s.worker k = .scanning q → q < p.workers → q ≠ k → s.queue q = item :: rest →
      Step p s (s.begin k q item rest false)
  | park {s : State} (k : Nat) : k < p.workers → s.worker k = .scanning p.workers →
      Step p s (s.setWorker k .parked)
  | finish {s : State} (k : Nat) (item : Item) (last : Bool) : k < p.workers →
      s.worker k = .running item last → Step p s (s.finish k item last)
  | notice {s : State} (k : Nat) : k < p.workers → (s.worker k).IsWaiting → s.closed = true →
      Step p s (s.setWorker k .draining)
  | drain {s : State} (k : Nat) (item : Item) (rest : List Item) : k < p.workers →
      s.worker k = .draining → s.queue k = item :: rest → Step p s (s.begin k k item rest true)
  | leave {s : State} (k : Nat) : k < p.workers → s.worker k = .draining → s.queue k = [] →
      Step p s (s.setWorker k .gone)
  -- One closing at a time lays claim to the lock. The one that closes the pool waits for the workers.
  | claim {s : State} (c : Nat) : s.closing c = .waiting → s.Unclaimed →
      Step p s (s.setClosing c .claiming)
  | shut {s : State} (c : Nat) : s.closing c = .claiming → s.Unshared → s.closed = false →
      Step p s { s.setClosing c .stopping with closed := true }
  | shutAgain {s : State} (c : Nat) : s.closing c = .claiming → s.Unshared → s.closed = true →
      Step p s (s.setClosing c .returned)
  | stop {s : State} (c : Nat) : s.closing c = .stopping → (∀ k < p.workers, s.worker k = .gone) →
      Step p s (s.setClosing c .returned)

/-- Calls and steps lead from one state to another. -/
inductive Leads (p : Shape) (s : State) : State → Prop where
  | refl : Leads p s s
  | call {t u : State} : Leads p s t → Call t u → Leads p s u
  | step {t u : State} : Leads p s t → Step p t u → Leads p s u

def Reachable (p : Shape) (s : State) : Prop := Leads p .initial s

end Machine

end EscapeTime
