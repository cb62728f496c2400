import EscapeTime.Work.Machine
import Mathlib.Algebra.BigOperators.Group.Finset.Basic
import Mathlib.Algebra.Order.Group.Multiset
import Mathlib.Tactic.Abel

/-!
# The books of a pool

Whichever queue an item stands in and whichever worker runs it, what matters is that it is queued,
running or finished. A ledger keeps the items of a pool under these three heads, and every step of
the machine makes at most one entry in it. The balance of the ledger ties the three heads to the
counters and the phases of the batches.
-/

namespace EscapeTime.Proofs
open Function (update update_self update_of_ne)
open Machine

structure Ledger where
  queued : Multiset Item
  running : Multiset Item
  finished : Multiset Item
  started : Multiset Item
  work : Nat → List Bool
  batch : Nat → BatchPhase
  pending : Nat → Nat
  closed : Bool

namespace Ledger

/-- The items that a batch still waits for. -/
def live (l : Ledger) : Multiset Item := l.queued + l.running

def dealt (l : Ledger) : Multiset Item := l.live + l.finished

end Ledger

/-- What a single step can do to the books. -/
inductive Entry : Ledger → Ledger → Prop where
  | none {l : Ledger} : Entry l l
  | submit {l : Ledger} (b : Nat) (work : List Bool) : l.batch b = .idle →
      Entry l { l with batch := update l.batch b .entering, work := update l.work b work }
  | share {l : Ledger} (b : Nat) : l.batch b = .entering →
      Entry l { l with batch := update l.batch b .holding }
  | refuse {l : Ledger} (b : Nat) : l.batch b = .holding →
      Entry l { l with batch := update l.batch b (.returned false) }
  | accept {l : Ledger} (b : Nat) : l.batch b = .holding → l.closed = false →
      (l.work b).length < Pool.counterLimit →
      Entry l { l with
        batch := update l.batch b (.dealing 0)
        pending := update l.pending b (l.work b).length }
  | overflow {l : Ledger} (b : Nat) : l.batch b = .holding →
      Pool.counterLimit ≤ (l.work b).length →
      Entry l { l with batch := update l.batch b .crashed }
  | skip {l : Ledger} (b n : Nat) : l.batch b = .dealing n → (l.work b)[n]? = some false →
      Entry l { l with
        batch := update l.batch b (.dealing (n + 1))
        pending := update l.pending b (l.pending b - 1) }
  | deal {l : Ledger} (b n : Nat) : l.batch b = .dealing n → (l.work b)[n]? = some true →
      Entry l { l with
        queued := ⟨b, n⟩ ::ₘ l.queued
        batch := update l.batch b (.dealing (n + 1)) }
  | begin {l : Ledger} (item : Item) (rest : Multiset Item) : l.queued = item ::ₘ rest →
      Entry l { l with
        queued := rest
        running := item ::ₘ l.running
        started := item ::ₘ l.started }
  | finish {l : Ledger} (item : Item) (rest : Multiset Item) : l.running = item ::ₘ rest →
      Entry l { l with
        running := rest
        finished := item ::ₘ l.finished
        pending := update l.pending item.batch (l.pending item.batch - 1) }
  | complete {l : Ledger} (b : Nat) : l.batch b = .dealing (l.work b).length → l.pending b = 0 →
      Entry l { l with batch := update l.batch b (.returned true) }
  | shut {l : Ledger} : (∀ b n, l.batch b ≠ .dealing n) → Entry l { l with closed := true }

/-- The item in the hands of a worker. -/
def heldBy : WorkerPhase → Multiset Item
  | .running item _ => {item}
  | _ => 0

/-- The books of a machine of a given shape. -/
def ledger (p : Shape) (s : State) : Ledger where
  queued := ∑ k ∈ Finset.range p.workers, (s.queue k : Multiset Item)
  running := ∑ k ∈ Finset.range p.workers, heldBy (s.worker k)
  finished := s.finished
  started := s.started
  work := s.work
  batch := s.batch
  pending := s.pending
  closed := s.closed

lemma sum_update {α M : Type} [AddCommMonoid M] (weigh : Nat → α → M) (f : Nat → α) {k n : Nat}
    (hk : k < n) (a : α) :
    ∑ j ∈ Finset.range n, weigh j (update f k a j) + weigh k (f k) =
      ∑ j ∈ Finset.range n, weigh j (f j) + weigh k a := by
  have hmem : k ∈ Finset.range n := Finset.mem_range.mpr hk
  have hrest : ∑ j ∈ (Finset.range n).erase k, weigh j (update f k a j) =
      ∑ j ∈ (Finset.range n).erase k, weigh j (f j) := by
    apply Finset.sum_congr rfl
    intro j hj
    rw [update_of_ne (Finset.ne_of_mem_erase hj)]
  rw [← Finset.add_sum_erase _ _ hmem, ← Finset.add_sum_erase _ (fun j => weigh j (f j)) hmem, hrest,
    update_self]
  abel

lemma queued_push (p : Shape) (s : State) {q : Nat} (hq : q < p.workers) (item : Item) :
    (ledger p (s.push q item)).queued = item ::ₘ (ledger p s).queued := by
  have hsum := sum_update (fun _ (l : List Item) => (l : Multiset Item)) s.queue hq (s.queue q ++ [item])
  have hitem : ((s.queue q ++ [item] : List Item) : Multiset Item) = s.queue q + {item} := rfl
  rw [hitem, ← add_assoc, add_right_comm] at hsum
  rw [← Multiset.singleton_add, add_comm]
  exact add_right_cancel hsum

lemma queued_begin (p : Shape) {s : State} {q : Nat} {item : Item} {rest : List Item}
    (k : Nat) (last : Bool) (hq : q < p.workers) (hqueue : s.queue q = item :: rest) :
    (ledger p s).queued = item ::ₘ (ledger p (s.begin k q item rest last)).queued := by
  have hsum := sum_update (fun _ (l : List Item) => (l : Multiset Item)) s.queue hq rest
  have hitem : ((item :: rest : List Item) : Multiset Item) = {item} + rest := rfl
  rw [hqueue, hitem, ← add_assoc] at hsum
  rw [← Multiset.singleton_add, add_comm]
  exact (add_right_cancel hsum).symm

lemma running_setWorker (p : Shape) {s : State} {k : Nat} (phase : WorkerPhase) (hk : k < p.workers)
    (hfree : heldBy (s.worker k) = 0) :
    (ledger p (s.setWorker k phase)).running = heldBy phase + (ledger p s).running := by
  have hsum := sum_update (fun _ => heldBy) s.worker hk phase
  rw [hfree, add_zero, add_comm] at hsum
  exact hsum

lemma running_finish (p : Shape) {s : State} {k : Nat} {item : Item} {last : Bool}
    (hk : k < p.workers) (hrun : s.worker k = .running item last) :
    (ledger p s).running = item ::ₘ (ledger p (s.finish k item last)).running := by
  have hsum := sum_update (fun _ => heldBy) s.worker hk (.resume last)
  have hfree : heldBy (.resume last) = 0 := by cases last <;> rfl
  rw [hrun, hfree, add_zero] at hsum
  rw [← Multiset.singleton_add, add_comm]
  exact hsum.symm

lemma heldBy_of_isWaiting {w : WorkerPhase} (h : w.IsWaiting) : heldBy w = 0 := by
  rcases h with rfl | rfl
  · rfl
  · rfl

/-- A worker that has no item before and none after is not in the books. -/
lemma ledger_setWorker (p : Shape) {s : State} {k : Nat} {phase : WorkerPhase} (hk : k < p.workers)
    (hfree : heldBy (s.worker k) = 0) (hphase : heldBy phase = 0) :
    ledger p (s.setWorker k phase) = ledger p s := by
  have hrunning := running_setWorker p phase hk hfree
  rw [hphase, zero_add] at hrunning
  unfold ledger at hrunning ⊢
  rw [Ledger.mk.injEq]
  exact ⟨rfl, hrunning, rfl, rfl, rfl, rfl, rfl, rfl⟩

lemma begin_entry (p : Shape) {s : State} {k q : Nat} {item : Item} {rest : List Item} {last : Bool}
    (hk : k < p.workers) (hfree : heldBy (s.worker k) = 0) (hq : q < p.workers)
    (hqueue : s.queue q = item :: rest) :
    Entry (ledger p s) (ledger p (s.begin k q item rest last)) := by
  have hqueued := queued_begin p k last hq hqueue
  have hrunning := running_setWorker p (.running item last) hk hfree
  have hentry := Entry.begin item _ hqueued
  rw [show item ::ₘ (ledger p s).running = (ledger p (s.begin k q item rest last)).running from
    hrunning.symm] at hentry
  exact hentry

/-- Every step of the machine makes at most one entry in the books. -/
theorem step_entry {p : Shape} {s t : State} (h : Step p s t) : Entry (ledger p s) (ledger p t) := by
  cases h with
  | share b hb _ => exact Entry.share b hb
  | refuse b hb _ => exact Entry.refuse b hb
  | accept b hb hopen hcounted => exact Entry.accept b hb hopen hcounted
  | overflow b hb _ hmany => exact Entry.overflow b hb hmany
  | skip b n hb hplace => exact Entry.skip b n hb hplace
  | deal b n hb hplace _ =>
    have hentry := Entry.deal (l := ledger p s) b n hb hplace
    rw [← queued_push p s (Nat.mod_lt n p.workers_pos)] at hentry
    exact hentry
  | complete b hb hpending => exact Entry.complete b hb hpending
  | take k item rest hk hwait hqueue => exact begin_entry p hk (heldBy_of_isWaiting hwait) hk hqueue
  | scan k hk hseek _ _ =>
    rw [ledger_setWorker p hk (by rw [hseek]; rfl) rfl]
    exact Entry.none
  | pass k q hk hscan _ _ =>
    rw [ledger_setWorker p hk (by rw [hscan]; rfl) rfl]
    exact Entry.none
  | steal k q item rest hk hscan hq _ hqueue =>
    exact begin_entry p hk (by rw [hscan]; rfl) hq hqueue
  | park k hk hscan =>
    rw [ledger_setWorker p hk (by rw [hscan]; rfl) rfl]
    exact Entry.none
  | finish k item last hk hrun => exact Entry.finish item _ (running_finish p hk hrun)
  | notice k hk hwait _ =>
    rw [ledger_setWorker p hk (heldBy_of_isWaiting hwait) rfl]
    exact Entry.none
  | drain k item rest hk hdrain hqueue => exact begin_entry p hk (by rw [hdrain]; rfl) hk hqueue
  | leave k hk hdrain _ =>
    rw [ledger_setWorker p hk (by rw [hdrain]; rfl) rfl]
    exact Entry.none
  | claim c _ _ => exact Entry.none
  | shut c _ hunshared _ => exact Entry.shut fun b n => (hunshared b).2 n
  | shutAgain c _ _ _ => exact Entry.none
  | stop c _ _ => exact Entry.none

lemma call_entry (p : Shape) {s t : State} (h : Call s t) : Entry (ledger p s) (ledger p t) := by
  cases h with
  | submit b work hb => exact Entry.submit b work hb
  | close c _ => exact Entry.none

def itemsOf (b : Nat) (items : Multiset Item) : Multiset Item := items.filter (·.batch = b)

/-- What the books say of a batch: its places, its counter, and its items that are live and done. A
dealing batch has dealt just the items it has come past, and its counter stands at the places to come
and the live items. A batch that returned with success has no live item and has all of its items
done. In every other phase nothing of the batch has been dealt. The places of the batches that got to
deal can be counted, and those of a batch that crashed cannot. -/
def Account (b : Nat) (places : List Bool) (pending : Nat) (live done : Multiset Item) :
    BatchPhase → Prop
  | .dealing m => m ≤ places.length ∧
      (∀ n, ⟨b, n⟩ ∈ live + done ↔ n < m ∧ places[n]? = some true) ∧
      pending = places.length - m + live.card ∧ places.length < Pool.counterLimit
  | .returned true => live = 0 ∧ (∀ n, ⟨b, n⟩ ∈ done ↔ places[n]? = some true) ∧
      places.length < Pool.counterLimit
  | .crashed => live = 0 ∧ done = 0 ∧ Pool.counterLimit ≤ places.length
  | _ => live = 0 ∧ done = 0

/-- What holds of the books at all times. -/
structure Balanced (l : Ledger) : Prop where
  started_eq : l.started = l.running + l.finished
  nodup : l.dealt.Nodup
  account : ∀ b, Account b (l.work b) (l.pending b) (itemsOf b l.live) (itemsOf b l.finished)
    (l.batch b)
  counted : ∀ b, l.pending b < Pool.counterLimit
  idle_of_closed : l.closed = true → ∀ b m, l.batch b ≠ .dealing m

lemma itemsOf_cons_self (item : Item) (items : Multiset Item) :
    itemsOf item.batch (item ::ₘ items) = item ::ₘ itemsOf item.batch items :=
  Multiset.filter_cons_of_pos _ rfl

lemma itemsOf_cons_other {item : Item} {b : Nat} (items : Multiset Item) (h : b ≠ item.batch) :
    itemsOf b (item ::ₘ items) = itemsOf b items :=
  Multiset.filter_cons_of_neg _ fun heq => h heq.symm

lemma initial_balanced (p : Shape) : Balanced (ledger p .initial) := by
  have hqueued : (ledger p .initial).queued = 0 := by simp [ledger, State.initial]
  have hrunning : (ledger p .initial).running = 0 := by simp [ledger, State.initial, heldBy]
  have hlive : (ledger p .initial).live = 0 := by rw [Ledger.live, hqueued, hrunning, add_zero]
  refine ⟨?_, ?_, ?_, fun _ => Nat.two_pow_pos 31, ?_⟩
  · rw [hrunning, zero_add]
    rfl
  · rw [Ledger.dealt, hlive, zero_add]
    exact Multiset.nodup_zero
  · intro b
    rw [hlive]
    exact ⟨rfl, rfl⟩
  · intro hclosed
    cases hclosed

lemma lt_length_of_place {places : List Bool} {n : Nat} {proper : Bool}
    (h : places[n]? = some proper) : n < places.length :=
  (List.getElem?_eq_some_iff.mp h).1

lemma account_accept (b : Nat) {places : List Bool} (h : places.length < Pool.counterLimit) :
    Account b places places.length 0 0 (.dealing 0) := by
  refine ⟨Nat.zero_le _, fun n => ?_, rfl, h⟩
  simp

lemma account_skip {b n pending : Nat} {places : List Bool} {live done : Multiset Item}
    (h : Account b places pending live done (.dealing n)) (hplace : places[n]? = some false) :
    Account b places (pending - 1) live done (.dealing (n + 1)) := by
  obtain ⟨hle, hmem, hpending, hcounted⟩ := h
  have hlt := lt_length_of_place hplace
  refine ⟨hlt, fun m => ?_, by omega, hcounted⟩
  rw [hmem]
  constructor
  · rintro ⟨hm, htrue⟩
    exact ⟨by omega, htrue⟩
  · rintro ⟨hm, htrue⟩
    have hne : m ≠ n := by
      rintro rfl
      rw [hplace] at htrue
      cases htrue
    exact ⟨by omega, htrue⟩

lemma account_deal {b n pending : Nat} {places : List Bool} {live done : Multiset Item}
    (h : Account b places pending live done (.dealing n)) (hplace : places[n]? = some true) :
    Account b places pending (⟨b, n⟩ ::ₘ live) done (.dealing (n + 1)) := by
  obtain ⟨hle, hmem, hpending, hcounted⟩ := h
  have hlt := lt_length_of_place hplace
  refine ⟨hlt, fun m => ?_, by rw [Multiset.card_cons]; omega, hcounted⟩
  rw [Multiset.cons_add, Multiset.mem_cons, hmem, Item.mk.injEq]
  constructor
  · rintro (⟨-, rfl⟩ | ⟨hm, htrue⟩)
    · exact ⟨by omega, hplace⟩
    · exact ⟨by omega, htrue⟩
  · rintro ⟨hm, htrue⟩
    by_cases heq : m = n
    · exact Or.inl ⟨rfl, heq⟩
    · exact Or.inr ⟨by omega, htrue⟩

/-- A batch with a live item is dealing. -/
lemma account_live {b pending : Nat} {places : List Bool} {live done : Multiset Item}
    {phase : BatchPhase} (h : Account b places pending live done phase) (hlive : live ≠ 0) :
    ∃ m, phase = .dealing m := by
  cases phase with
  | dealing m => exact ⟨m, rfl⟩
  | idle => exact absurd h.1 hlive
  | entering => exact absurd h.1 hlive
  | holding => exact absurd h.1 hlive
  | returned success => cases success <;> exact absurd h.1 hlive
  | crashed => exact absurd h.1 hlive

lemma account_finish {item : Item} {pending : Nat} {places : List Bool} {live done : Multiset Item}
    {phase : BatchPhase} (h : Account item.batch places pending (item ::ₘ live) done phase) :
    Account item.batch places (pending - 1) live (item ::ₘ done) phase := by
  obtain ⟨m, rfl⟩ := account_live h (Multiset.cons_ne_zero)
  obtain ⟨hle, hmem, hpending, hcounted⟩ := h
  rw [Multiset.card_cons] at hpending
  refine ⟨hle, fun n => ?_, by omega, hcounted⟩
  rw [Multiset.add_cons, ← Multiset.cons_add]
  exact hmem n

/-- A counter at zero after the last place means that all items are done. -/
lemma account_complete {b : Nat} {places : List Bool} {live done : Multiset Item}
    (h : Account b places 0 live done (.dealing places.length)) :
    Account b places 0 live done (.returned true) := by
  obtain ⟨-, hmem, hpending, hcounted⟩ := h
  have hlive : live = 0 := Multiset.card_eq_zero.mp (by omega)
  refine ⟨hlive, fun n => ?_, hcounted⟩
  rw [hlive, zero_add] at hmem
  rw [hmem]
  constructor
  · exact fun h => h.2
  · exact fun h => ⟨lt_length_of_place h, h⟩

/-- The accounts stay when an entry touches one batch only and that one is in order again. -/
lemma account_update {l : Ledger} (h : Balanced l) (b : Nat) {work : Nat → List Bool}
    {batch : Nat → BatchPhase} {pending : Nat → Nat} {live done : Multiset Item}
    (hb : Account b (work b) (pending b) (itemsOf b live) (itemsOf b done) (batch b))
    (hother : ∀ b', b' ≠ b → work b' = l.work b' ∧ pending b' = l.pending b' ∧ batch b' = l.batch b' ∧
      itemsOf b' live = itemsOf b' l.live ∧ itemsOf b' done = itemsOf b' l.finished) (b' : Nat) :
    Account b' (work b') (pending b') (itemsOf b' live) (itemsOf b' done) (batch b') := by
  by_cases heq : b' = b
  · rw [heq]
    exact hb
  · obtain ⟨hwork, hpending, hbatch, hlive, hdone⟩ := hother b' heq
    rw [hwork, hpending, hbatch, hlive, hdone]
    exact h.account b'

/-- A batch moves on without any item changing its head. -/
lemma Balanced.move {l : Ledger} (h : Balanced l) (b : Nat) {work : Nat → List Bool}
    {batch : Nat → BatchPhase} {pending : Nat → Nat}
    (hother : ∀ b', b' ≠ b → work b' = l.work b' ∧ pending b' = l.pending b' ∧ batch b' = l.batch b')
    (hb : Account b (work b) (pending b) (itemsOf b l.live) (itemsOf b l.finished) (batch b))
    (hcounted : pending b < Pool.counterLimit) (hclosed : l.closed = true → ∀ m, batch b ≠ .dealing m) :
    Balanced { l with work := work, batch := batch, pending := pending } := by
  refine ⟨h.started_eq, h.nodup, account_update h b hb fun b' hne => ?_, fun b' => ?_, ?_⟩
  · obtain ⟨hwork, hpending, hbatch⟩ := hother b' hne
    exact ⟨hwork, hpending, hbatch, rfl, rfl⟩
  · by_cases heq : b' = b
    · rw [heq]
      exact hcounted
    · dsimp only
      rw [(hother b' heq).2.1]
      exact h.counted b'
  · intro hc b' m
    by_cases heq : b' = b
    · rw [heq]
      exact hclosed hc m
    · dsimp only
      rw [(hother b' heq).2.2]
      exact h.idle_of_closed hc b' m

/-- Only the phase of a batch changes, and the batch does not start to deal. -/
lemma Balanced.setPhase {l : Ledger} (h : Balanced l) (b : Nat) {phase : BatchPhase}
    (hphase : ∀ n, phase ≠ .dealing n)
    (hb : Account b (l.work b) (l.pending b) (itemsOf b l.live) (itemsOf b l.finished) phase) :
    Balanced { l with batch := update l.batch b phase } := by
  refine h.move b (fun b' hne => ⟨rfl, rfl, update_of_ne hne _ _⟩) ?_ (h.counted b) ?_
  · rw [update_self]
    exact hb
  · intro _ n
    rw [update_self]
    exact hphase n

lemma begin_balanced {l : Ledger} {item : Item} {rest : Multiset Item} (hl : Balanced l)
    (hqueued : l.queued = item ::ₘ rest) :
    Balanced { l with
      queued := rest, running := item ::ₘ l.running, started := item ::ₘ l.started } := by
  have hlive : rest + item ::ₘ l.running = l.live := by
    rw [Ledger.live, hqueued, Multiset.add_cons, Multiset.cons_add]
  refine ⟨?_, ?_, ?_, hl.counted, hl.idle_of_closed⟩
  · dsimp only
    rw [hl.started_eq, Multiset.cons_add]
  · change (rest + item ::ₘ l.running + l.finished).Nodup
    rw [hlive]
    exact hl.nodup
  · intro b
    change Account b _ _ (itemsOf b (rest + item ::ₘ l.running)) _ _
    rw [hlive]
    exact hl.account b

lemma finish_balanced {l : Ledger} {item : Item} {rest : Multiset Item} (hl : Balanced l)
    (hrunning : l.running = item ::ₘ rest) :
    Balanced { l with
      running := rest, finished := item ::ₘ l.finished,
      pending := update l.pending item.batch (l.pending item.batch - 1) } := by
  have hlive : l.live = item ::ₘ (l.queued + rest) := by
    rw [Ledger.live, hrunning, Multiset.add_cons]
  refine ⟨?_, ?_, account_update hl item.batch ?_ fun b' hne => ?_, fun b => ?_, hl.idle_of_closed⟩
  · dsimp only
    rw [hl.started_eq, hrunning, Multiset.cons_add, Multiset.add_cons]
  · change (l.queued + rest + item ::ₘ l.finished).Nodup
    rw [Multiset.add_cons, ← Multiset.cons_add, ← hlive]
    exact hl.nodup
  · have haccount := hl.account item.batch
    rw [hlive, itemsOf_cons_self] at haccount
    dsimp only
    rw [update_self, itemsOf_cons_self]
    exact account_finish haccount
  · refine ⟨rfl, update_of_ne hne _ _, rfl, ?_, itemsOf_cons_other _ hne⟩
    rw [hlive, itemsOf_cons_other _ hne]
    rfl
  · have hle : update l.pending item.batch (l.pending item.batch - 1) b ≤ l.pending b := by
      by_cases heq : b = item.batch
      · rw [heq, update_self]
        exact Nat.sub_le _ _
      · rw [update_of_ne heq]
    exact Nat.lt_of_le_of_lt hle (hl.counted b)

lemma deal_balanced {l : Ledger} {b n : Nat} (hl : Balanced l) (hb : l.batch b = .dealing n)
    (hplace : (l.work b)[n]? = some true) :
    Balanced { l with
      queued := ⟨b, n⟩ ::ₘ l.queued, batch := update l.batch b (.dealing (n + 1)) } := by
  have haccount := hl.account b
  rw [hb] at haccount
  have hlive : ⟨b, n⟩ ::ₘ l.queued + l.running = ⟨b, n⟩ ::ₘ l.live := Multiset.cons_add _ _ _
  refine ⟨hl.started_eq, ?_, account_update hl b ?_ fun b' hne => ?_, hl.counted, ?_⟩
  · change (⟨b, n⟩ ::ₘ l.queued + l.running + l.finished).Nodup
    rw [hlive, Multiset.cons_add, Multiset.nodup_cons]
    refine ⟨fun hmem => ?_, hl.nodup⟩
    -- The batch has come past no place that it has not dealt yet.
    have hpast : (⟨b, n⟩ : Item) ∈ itemsOf b l.live + itemsOf b l.finished := by
      rw [itemsOf, itemsOf, ← Multiset.filter_add]
      exact Multiset.mem_filter.mpr ⟨hmem, rfl⟩
    exact lt_irrefl n ((haccount.2.1 n).mp hpast).1
  · change Account b _ _ (itemsOf b (⟨b, n⟩ ::ₘ l.queued + l.running)) _ (update l.batch b _ b)
    rw [hlive, update_self, itemsOf_cons_self ⟨b, n⟩]
    exact account_deal haccount hplace
  · refine ⟨rfl, rfl, update_of_ne hne _ _, ?_, rfl⟩
    change itemsOf b' (⟨b, n⟩ ::ₘ l.queued + l.running) = _
    rw [hlive, itemsOf_cons_other _ hne]
  · intro hclosed
    exact absurd hb (hl.idle_of_closed hclosed b n)

theorem entry_balanced {l m : Ledger} (h : Entry l m) (hl : Balanced l) : Balanced m := by
  cases h with
  | none => exact hl
  | submit b work hb =>
    have haccount := hl.account b
    rw [hb] at haccount
    refine hl.move b (fun b' hne => ⟨update_of_ne hne _ _, rfl, update_of_ne hne _ _⟩) ?_
      (hl.counted b) ?_
    · rw [update_self b _ l.batch]
      exact haccount
    · simp [update_self]
  | share b hb =>
    have haccount := hl.account b
    rw [hb] at haccount
    exact hl.setPhase b (fun _ => nofun) haccount
  | refuse b hb =>
    have haccount := hl.account b
    rw [hb] at haccount
    exact hl.setPhase b (fun _ => nofun) haccount
  | accept b hb hopen hcounted =>
    have haccount := hl.account b
    rw [hb] at haccount
    refine hl.move b (fun b' hne => ⟨rfl, update_of_ne hne _ _, update_of_ne hne _ _⟩) ?_ ?_ ?_
    · rw [update_self, update_self, haccount.1, haccount.2]
      exact account_accept b hcounted
    · rw [update_self]
      exact hcounted
    · simp [hopen]
  | overflow b hb hmany =>
    have haccount := hl.account b
    rw [hb] at haccount
    exact hl.setPhase b (fun _ => nofun) ⟨haccount.1, haccount.2, hmany⟩
  | skip b n hb hplace =>
    have haccount := hl.account b
    rw [hb] at haccount
    refine hl.move b (fun b' hne => ⟨rfl, update_of_ne hne _ _, update_of_ne hne _ _⟩) ?_ ?_ ?_
    · rw [update_self, update_self]
      exact account_skip haccount hplace
    · rw [update_self]
      exact Nat.lt_of_le_of_lt (Nat.sub_le _ _) (hl.counted b)
    · intro hclosed
      exact absurd hb (hl.idle_of_closed hclosed b n)
  | deal b n hb hplace => exact deal_balanced hl hb hplace
  | begin item rest hqueued => exact begin_balanced hl hqueued
  | finish item rest hrunning => exact finish_balanced hl hrunning
  | complete b hb hpending =>
    have haccount := hl.account b
    rw [hb, hpending] at haccount
    exact hl.setPhase b (fun _ => nofun) (account_complete haccount)
  | shut hidle => exact ⟨hl.started_eq, hl.nodup, hl.account, hl.counted, fun _ => hidle⟩

theorem leads_balanced {p : Shape} {s t : State} (h : Leads p s t) (hs : Balanced (ledger p s)) :
    Balanced (ledger p t) := by
  induction h with
  | refl => exact hs
  | call _ hcall ih => exact entry_balanced (call_entry p hcall) ih
  | step _ hstep ih => exact entry_balanced (step_entry hstep) ih

theorem reachable_balanced {p : Shape} {s : State} (h : Reachable p s) : Balanced (ledger p s) :=
  leads_balanced h (initial_balanced p)

/-- A batch crashes only with too many places, and before anything of it has been dealt. -/
lemma crashed_account {p : Shape} {s : State} (h : Balanced (ledger p s)) {b : Nat}
    (hb : s.batch b = .crashed) :
    itemsOf b (ledger p s).live = 0 ∧ itemsOf b s.finished = 0 ∧
      Pool.counterLimit ≤ (s.work b).length := by
  have haccount := h.account b
  change Account b _ _ _ _ (s.batch b) at haccount
  rw [hb] at haccount
  exact haccount

end EscapeTime.Proofs
