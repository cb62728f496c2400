import EscapeTime.Proofs.PoolLedger

/-!
# Progress of the pool

A batch blocks on a full queue while it holds the lock, a worker that has found nothing waits at its
own queue, and a closing that has claimed the lock keeps further batches out. No circle of waiting
comes of this: where an item is queued a worker can act, since workers leave only after the pool is
closed and it is closed only while no batch is dealing. Every step uses up some of what lies ahead, so
steps alone come to an end, and nothing that was asked for is then left without an answer.
-/

namespace EscapeTime.Proofs
open Function (update update_of_ne)
open Machine

/-- A batch or a closing was asked for and has not come to its end. -/
def Outstanding (s : State) : Prop :=
  (∃ b, s.batch b ≠ .idle ∧ s.batch b ≠ .crashed ∧ ∀ success, s.batch b ≠ .returned success) ∨
    ∃ c, s.closing c ≠ .idle ∧ s.closing c ≠ .returned

/-- A search stays among the queues, and the end is seen only once the pool is closed. -/
def WorkerFits (p : Shape) (closed : Bool) : WorkerPhase → Prop
  | .scanning q => q ≤ p.workers
  | .running _ last => last = true → closed = true
  | .draining | .gone => closed = true
  | .seeking | .parked => True

structure Consistent (p : Shape) (s : State) : Prop where
  worker : ∀ k, WorkerFits p s.closed (s.worker k)
  stopping : ∀ c, s.closing c = .stopping → s.closed = true

lemma forall_update {α : Type} {P : α → Prop} {f : Nat → α} (i : Nat) {a : α} (ha : P a)
    (hf : ∀ j, P (f j)) (j : Nat) : P (update f i a j) := by
  by_cases h : j = i
  · rw [h, Function.update_self]
    exact ha
  · rw [update_of_ne h]
    exact hf j

lemma workerFits_closed {p : Shape} {closed : Bool} {w : WorkerPhase} (h : WorkerFits p closed w) :
    WorkerFits p true w := by
  cases w with
  | scanning q => exact h
  | running item last => exact fun _ => rfl
  | seeking => trivial
  | parked => trivial
  | draining => rfl
  | gone => rfl

lemma consistent_setWorker {p : Shape} {s : State} (hs : Consistent p s) (k : Nat)
    {phase : WorkerPhase} (hphase : WorkerFits p s.closed phase) :
    Consistent p (s.setWorker k phase) :=
  ⟨forall_update k hphase hs.worker, hs.stopping⟩

lemma consistent_setClosing {p : Shape} {s : State} (hs : Consistent p s) (c : Nat)
    {phase : ClosePhase} (hphase : phase ≠ .stopping) : Consistent p (s.setClosing c phase) :=
  ⟨hs.worker, forall_update (P := fun x : ClosePhase => x = .stopping → s.closed = true) c
    (fun heq => absurd heq hphase) hs.stopping⟩

lemma step_consistent {p : Shape} {s t : State} (h : Step p s t) (hs : Consistent p s) :
    Consistent p t := by
  cases h with
  | take k item rest _ _ _ => exact ⟨forall_update k (fun h => nomatch h) hs.worker, hs.stopping⟩
  | scan k _ _ _ _ => exact consistent_setWorker hs k (Nat.zero_le _)
  | pass k q _ _ hq _ => exact consistent_setWorker hs k hq
  | steal k q item rest _ _ _ _ _ =>
    exact ⟨forall_update k (fun h => nomatch h) hs.worker, hs.stopping⟩
  | park k _ _ => exact consistent_setWorker hs k trivial
  | finish k item last _ hrun =>
    have hlast : WorkerFits p s.closed (.running item last) := hrun ▸ hs.worker k
    cases last with
    | false => exact ⟨forall_update k trivial hs.worker, hs.stopping⟩
    | true => exact ⟨forall_update k (hlast rfl) hs.worker, hs.stopping⟩
  | notice k _ _ hclosed => exact consistent_setWorker hs k hclosed
  | drain k item rest _ hdrain _ =>
    have hclosed : WorkerFits p s.closed .draining := hdrain ▸ hs.worker k
    exact ⟨forall_update k (fun _ => hclosed) hs.worker, hs.stopping⟩
  | leave k _ hdrain _ =>
    have hclosed : WorkerFits p s.closed .draining := hdrain ▸ hs.worker k
    exact consistent_setWorker hs k hclosed
  | claim c _ _ => exact consistent_setClosing hs c (by simp)
  | shut c _ _ _ => exact ⟨fun k => workerFits_closed (hs.worker k), fun _ _ => rfl⟩
  | shutAgain c _ _ _ => exact consistent_setClosing hs c (by simp)
  | stop c _ _ => exact consistent_setClosing hs c (by simp)
  | _ => exact ⟨hs.worker, hs.stopping⟩

theorem reachable_consistent {p : Shape} {s : State} (h : Reachable p s) : Consistent p s := by
  induction h with
  | refl => exact ⟨fun _ => trivial, fun _ => nofun⟩
  | call _ hcall ih =>
    cases hcall with
    | submit b work _ => exact ⟨ih.worker, ih.stopping⟩
    | close c _ => exact consistent_setClosing ih c (by simp)
  | step _ hstep ih => exact step_consistent hstep ih

lemma waiting_enabled {p : Shape} {s : State} {k : Nat} (hk : k < p.workers)
    (hwait : (s.worker k).IsWaiting) (hwake : s.queue k ≠ [] ∨ s.closed = true) :
    ∃ t, Step p s t := by
  rcases hwake with hqueue | hclosed
  · obtain ⟨item, rest, hqueue⟩ := List.exists_cons_of_ne_nil hqueue
    exact ⟨_, .take k item rest hk hwait hqueue⟩
  · exact ⟨_, .notice k hk hwait hclosed⟩

/-- A worker that has not left can act when its own queue holds an item or the pool is closed. -/
theorem worker_enabled {p : Shape} {s : State} {k : Nat} (hk : k < p.workers)
    (hfits : WorkerFits p s.closed (s.worker k)) (hgone : s.worker k ≠ .gone)
    (hwake : s.queue k ≠ [] ∨ s.closed = true) : ∃ t, Step p s t := by
  cases hphase : s.worker k with
  | seeking => exact waiting_enabled hk (.inl hphase) hwake
  | parked => exact waiting_enabled hk (.inr hphase) hwake
  | scanning q =>
    rw [hphase] at hfits
    rcases Nat.lt_or_eq_of_le hfits with hq | hq
    · by_cases hskip : q = k ∨ s.queue q = []
      · exact ⟨_, .pass k q hk hphase hq hskip⟩
      · obtain ⟨hne, hqueue⟩ := not_or.mp hskip
        obtain ⟨item, rest, hqueue⟩ := List.exists_cons_of_ne_nil hqueue
        exact ⟨_, .steal k q item rest hk hphase hq hne hqueue⟩
    · exact ⟨_, .park k hk (hq ▸ hphase)⟩
  | running item last => exact ⟨_, .finish k item last hk hphase⟩
  | draining =>
    cases hqueue : s.queue k with
    | nil => exact ⟨_, .leave k hk hphase hqueue⟩
    | cons item rest => exact ⟨_, .drain k item rest hk hphase hqueue⟩
  | gone => exact absurd hphase hgone

/-- In an open pool no queued item is left alone: its queue's worker has not gone. -/
lemma queue_enabled {p : Shape} {s : State} (hs : Consistent p s) (hopen : s.closed = false) {k : Nat}
    (hk : k < p.workers) (hqueue : s.queue k ≠ []) : ∃ t, Step p s t := by
  have hfits := hs.worker k
  refine worker_enabled hk hfits (fun hgone => ?_) (.inl hqueue)
  rw [hgone] at hfits
  exact absurd (hopen.symm.trans hfits) (by simp)

/-- A live item is queued, where a worker can act, or running, and then it can finish. -/
lemma live_enabled {p : Shape} {s : State} (hs : Consistent p s) (hopen : s.closed = false)
    {item : Item} (hlive : item ∈ (ledger p s).live) : ∃ t, Step p s t := by
  simp only [Ledger.live, ledger, Multiset.mem_add, Multiset.mem_sum, Finset.mem_range,
    Multiset.mem_coe] at hlive
  rcases hlive with ⟨k, hk, hmem⟩ | ⟨k, hk, hmem⟩
  · exact queue_enabled hs hopen hk (List.ne_nil_of_mem hmem)
  · cases hphase : s.worker k with
    | running held last => exact ⟨_, .finish k held last hk hphase⟩
    | _ =>
      rw [hphase] at hmem
      exact absurd hmem (Multiset.notMem_zero _)

/-- A dealing batch passes over a place, deals it, finds a full queue or waits for a live item; the
last two leave it to the workers. -/
theorem dealing_enabled {p : Shape} (hroom : 0 < p.room) {s : State} (hbooks : Balanced (ledger p s))
    (hs : Consistent p s) {b n : Nat} (hb : s.batch b = .dealing n) : ∃ t, Step p s t := by
  have hopen : s.closed = false :=
    Bool.eq_false_iff.mpr fun hclosed => hbooks.idle_of_closed hclosed b n hb
  have haccount := hbooks.account b
  change Account b (s.work b) (s.pending b) _ _ (s.batch b) at haccount
  rw [hb] at haccount
  obtain ⟨hle, -, hpending⟩ := haccount
  rcases Nat.lt_or_eq_of_le hle with hmore | hlast
  · cases hplace : (s.work b)[n] with
    | false => exact ⟨_, .skip b n hb (by rw [List.getElem?_eq_getElem hmore, hplace])⟩
    | true =>
      by_cases hfull : (s.queue (n % p.workers)).length < p.room
      · exact ⟨_, .deal b n hb (by rw [List.getElem?_eq_getElem hmore, hplace]) hfull⟩
      · refine queue_enabled hs hopen (Nat.mod_lt n p.workers_pos) fun hempty => hfull ?_
        rw [hempty]
        exact hroom
  · by_cases hzero : s.pending b = 0
    · exact ⟨_, .complete b (hlast ▸ hb) hzero⟩
    · have hcard : 0 < (itemsOf b (ledger p s).live).card := by omega
      obtain ⟨item, hitem⟩ := Multiset.card_pos_iff_exists_mem.mp hcard
      exact live_enabled hs hopen (Multiset.mem_of_mem_filter hitem)

lemma sharing_enabled {p : Shape} (hroom : 0 < p.room) {s : State} (hbooks : Balanced (ledger p s))
    (hs : Consistent p s) (hshared : ¬s.Unshared) : ∃ t, Step p s t := by
  simp only [State.Unshared, not_forall, not_and_or, not_not] at hshared
  obtain ⟨b, hholding | ⟨n, hdealing⟩⟩ := hshared
  · cases hclosed : s.closed with
    | false =>
      by_cases hcounted : (s.work b).length < Pool.counterLimit
      · exact ⟨_, .accept b hholding hclosed hcounted⟩
      · exact ⟨_, .overflow b hholding hclosed (Nat.not_lt.mp hcounted)⟩
    | true => exact ⟨_, .refuse b hholding hclosed⟩
  · exact dealing_enabled hroom hbooks hs hdealing

/-- A closing that has claimed the lock gets it, or the batches that share it can act. -/
lemma claiming_enabled {p : Shape} (hroom : 0 < p.room) {s : State} (hbooks : Balanced (ledger p s))
    (hs : Consistent p s) {c : Nat} (hc : s.closing c = .claiming) : ∃ t, Step p s t := by
  by_cases hunshared : s.Unshared
  · cases hclosed : s.closed with
    | false => exact ⟨_, .shut c hc hunshared hclosed⟩
    | true => exact ⟨_, .shutAgain c hc hunshared hclosed⟩
  · exact sharing_enabled hroom hbooks hs hunshared

/-- Once the pool is closed, each worker that is still there can act. -/
lemma stopping_enabled {p : Shape} {s : State} (hs : Consistent p s) {c : Nat}
    (hc : s.closing c = .stopping) : ∃ t, Step p s t := by
  by_cases hgone : ∀ k < p.workers, s.worker k = .gone
  · exact ⟨_, .stop c hc hgone⟩
  · simp only [not_forall] at hgone
    obtain ⟨k, hk, hgone⟩ := hgone
    exact worker_enabled hk (hs.worker k) hgone (.inr (hs.stopping c hc))

lemma unclaimed_or_enabled {p : Shape} (hroom : 0 < p.room) {s : State}
    (hbooks : Balanced (ledger p s)) (hs : Consistent p s) : s.Unclaimed ∨ ∃ t, Step p s t := by
  by_cases hunclaimed : s.Unclaimed
  · exact .inl hunclaimed
  · simp only [State.Unclaimed, not_forall, not_not] at hunclaimed
    obtain ⟨c, hc⟩ := hunclaimed
    exact .inr (claiming_enabled hroom hbooks hs hc)

theorem outstanding_enabled {p : Shape} (hroom : 0 < p.room) {s : State} (h : Reachable p s)
    (hout : Outstanding s) : ∃ t, Step p s t := by
  have hbooks := reachable_balanced h
  have hs := reachable_consistent h
  rcases hout with ⟨b, hasked, hcrashed, hreturned⟩ | ⟨c, hasked, hreturned⟩
  · cases hphase : s.batch b with
    | idle => exact absurd hphase hasked
    | entering =>
      rcases unclaimed_or_enabled hroom hbooks hs with hunclaimed | henabled
      · exact ⟨_, .share b hphase hunclaimed⟩
      · exact henabled
    | holding => exact sharing_enabled hroom hbooks hs fun hunshared => (hunshared b).1 hphase
    | dealing n => exact dealing_enabled hroom hbooks hs hphase
    | returned success => exact absurd hphase (hreturned success)
    | crashed => exact absurd hphase hcrashed
  · cases hphase : s.closing c with
    | idle => exact absurd hphase hasked
    | waiting =>
      rcases unclaimed_or_enabled hroom hbooks hs with hunclaimed | henabled
      · exact ⟨_, .claim c hphase hunclaimed⟩
      · exact henabled
    | claiming => exact claiming_enabled hroom hbooks hs hphase
    | stopping => exact stopping_enabled hs hphase
    | returned => exact absurd hphase hreturned

/-- A queued item is taken, run and finished, and its worker then looks through all queues before it
waits again. -/
def itemLoad (p : Shape) : Nat := p.workers + 5

def batchLoad (p : Shape) (places : List Bool) : BatchPhase → Nat
  | .idle | .returned _ | .crashed => 0
  | .entering => (itemLoad p + 1) * places.length + 3
  | .holding => (itemLoad p + 1) * places.length + 2
  | .dealing n => (itemLoad p + 1) * (places.length - n) + 1

def workerLoad (p : Shape) : WorkerPhase → Nat
  | .running _ _ => p.workers + 5
  | .seeking => p.workers + 4
  | .scanning q => p.workers + 3 - q
  | .parked => 2
  | .draining => 1
  | .gone => 0

def closeLoad : ClosePhase → Nat
  | .idle | .returned => 0
  | .waiting => 3
  | .claiming => 2
  | .stopping => 1

/-- What lies ahead of the workers, the queued items and the first `n` batches and closings. -/
def load (p : Shape) (n : Nat) (s : State) : Nat :=
  ∑ b ∈ Finset.range n, batchLoad p (s.work b) (s.batch b) +
    ∑ c ∈ Finset.range n, closeLoad (s.closing c) +
    ∑ k ∈ Finset.range p.workers, workerLoad p (s.worker k) +
    itemLoad p * (ledger p s).queued.card

lemma load_setBatch_lt {p : Shape} {n : Nat} {s : State} {b : Nat} (hb : b < n) (phase : BatchPhase)
    (extra : Nat)
    (hdrop : batchLoad p (s.work b) phase + extra < batchLoad p (s.work b) (s.batch b)) :
    load p n (s.setBatch b phase) + extra < load p n s := by
  have hsum := sum_update (fun j => batchLoad p (s.work j)) s.batch hb phase
  simp only [load, ledger, State.setBatch]
  omega

lemma load_setClosing_lt {p : Shape} {n : Nat} {s : State} {c : Nat} (hc : c < n) (phase : ClosePhase)
    (hdrop : closeLoad phase < closeLoad (s.closing c)) :
    load p n (s.setClosing c phase) < load p n s := by
  have hsum := sum_update (fun _ => closeLoad) s.closing hc phase
  simp only [load, ledger, State.setClosing]
  omega

lemma load_setWorker_lt {p : Shape} (n : Nat) {s : State} {k : Nat} (hk : k < p.workers)
    (phase : WorkerPhase) (hdrop : workerLoad p phase < workerLoad p (s.worker k)) :
    load p n (s.setWorker k phase) < load p n s := by
  have hsum := sum_update (fun _ => workerLoad p) s.worker hk phase
  simp only [load, ledger, State.setWorker]
  omega

lemma load_push (p : Shape) (n : Nat) (s : State) {q : Nat} (hq : q < p.workers) (item : Item) :
    load p n (s.push q item) = load p n s + itemLoad p := by
  have hcard := congrArg Multiset.card (queued_push p s hq item)
  rw [Multiset.card_cons] at hcard
  simp only [load, hcard, Nat.mul_succ, ← Nat.add_assoc]
  rfl

/-- A running item is as much work as a queued one, so what a worker had ahead of it before goes. -/
lemma load_begin_lt {p : Shape} (n : Nat) {s : State} {k q : Nat} {item : Item} {rest : List Item}
    {last : Bool} (hk : k < p.workers) (hq : q < p.workers) (hqueue : s.queue q = item :: rest)
    (hfree : 0 < workerLoad p (s.worker k)) :
    load p n (s.begin k q item rest last) < load p n s := by
  have hcard := congrArg Multiset.card (queued_begin p k last hq hqueue)
  rw [Multiset.card_cons] at hcard
  have hsum := sum_update (fun _ => workerLoad p) s.worker hk (.running item last)
  have hrunning : workerLoad p (.running item last) = itemLoad p := rfl
  simp only [load, hcard, Nat.mul_succ]
  simp only [State.begin]
  omega

lemma two_le_workerLoad (p : Shape) {w : WorkerPhase} (h : w.IsWaiting) : 2 ≤ workerLoad p w := by
  rcases h with rfl | rfl
  · simp [workerLoad]
  · simp [workerLoad]

lemma workerLoad_resume_lt (p : Shape) (item : Item) (last : Bool) :
    workerLoad p (.resume last) < workerLoad p (.running item last) := by
  cases last with
  | false => simp [WorkerPhase.resume, workerLoad]
  | true => simp [WorkerPhase.resume, workerLoad]

/-- A batch that comes past a place is rid of the work of one item, and of one step more. -/
lemma batchLoad_next (p : Shape) {places : List Bool} {n : Nat} {proper : Bool}
    (h : places[n]? = some proper) :
    batchLoad p places (.dealing (n + 1)) + itemLoad p < batchLoad p places (.dealing n) := by
  have hlt := lt_length_of_place h
  have hsub : places.length - n = places.length - (n + 1) + 1 := by omega
  simp only [batchLoad]
  rw [hsub, Nat.mul_succ]
  omega

/-- The calls made so far are among the first `n`. -/
structure CallsBelow (n : Nat) (s : State) : Prop where
  batch : ∀ b, s.batch b ≠ .idle → b < n
  closing : ∀ c, s.closing c ≠ .idle → c < n

lemma ne_of_update {α : Type} {f : Nat → α} {i j : Nat} {a x : α} (hi : f i ≠ x)
    (hj : update f i a j ≠ x) : f j ≠ x := by
  by_cases h : j = i
  · rwa [h]
  · rwa [update_of_ne h] at hj

/-- Steps make no calls. -/
lemma step_callsBelow {p : Shape} {n : Nat} {s t : State} (h : Step p s t) (hs : CallsBelow n s) :
    CallsBelow n t := by
  have hbatch : ∀ {b : Nat} {phase : BatchPhase}, s.batch b ≠ .idle →
      ∀ j, update s.batch b phase j ≠ .idle → j < n :=
    fun hb j hj => hs.batch j (ne_of_update hb hj)
  have hclosing : ∀ {c : Nat} {phase : ClosePhase}, s.closing c ≠ .idle →
      ∀ j, update s.closing c phase j ≠ .idle → j < n :=
    fun hc j hj => hs.closing j (ne_of_update hc hj)
  cases h with
  | share b hb _ => exact ⟨hbatch (by simp [hb]), hs.closing⟩
  | refuse b hb _ => exact ⟨hbatch (by simp [hb]), hs.closing⟩
  | accept b hb _ _ => exact ⟨hbatch (by simp [hb]), hs.closing⟩
  | overflow b hb _ _ => exact ⟨hbatch (by simp [hb]), hs.closing⟩
  | skip b n hb _ => exact ⟨hbatch (by simp [hb]), hs.closing⟩
  | deal b n hb _ _ => exact ⟨hbatch (by simp [hb]), hs.closing⟩
  | complete b hb _ => exact ⟨hbatch (by simp [hb]), hs.closing⟩
  | claim c hc _ => exact ⟨hs.batch, hclosing (by simp [hc])⟩
  | shut c hc _ _ => exact ⟨hs.batch, hclosing (by simp [hc])⟩
  | shutAgain c hc _ _ => exact ⟨hs.batch, hclosing (by simp [hc])⟩
  | stop c hc _ => exact ⟨hs.batch, hclosing (by simp [hc])⟩
  | _ => exact ⟨hs.batch, hs.closing⟩

lemma reachable_callsBelow {p : Shape} {s : State} (h : Reachable p s) : ∃ n, CallsBelow n s := by
  induction h with
  | refl => exact ⟨0, fun _ h => absurd rfl h, fun _ h => absurd rfl h⟩
  | call _ hcall ih =>
    obtain ⟨n, hn⟩ := ih
    cases hcall with
    | submit b work _ =>
      refine ⟨max n (b + 1), fun j hj => ?_, fun j hj => lt_max_of_lt_left (hn.closing j hj)⟩
      by_cases h : j = b
      · omega
      · change update _ b _ j ≠ _ at hj
        rw [update_of_ne h] at hj
        exact lt_max_of_lt_left (hn.batch j hj)
    | close c _ =>
      refine ⟨max n (c + 1), fun j hj => lt_max_of_lt_left (hn.batch j hj), fun j hj => ?_⟩
      by_cases h : j = c
      · omega
      · change update _ c _ j ≠ _ at hj
        rw [update_of_ne h] at hj
        exact lt_max_of_lt_left (hn.closing j hj)
  | step _ hstep ih =>
    obtain ⟨n, hn⟩ := ih
    exact ⟨n, step_callsBelow hstep hn⟩

/-- Every step uses up some of what lies ahead. -/
theorem step_load_lt {p : Shape} {n : Nat} {s t : State} (h : Step p s t) (hs : CallsBelow n s) :
    load p n t < load p n s := by
  cases h with
  | share b hb _ =>
    exact load_setBatch_lt (hs.batch b (by simp [hb])) .holding 0 (by simp [hb, batchLoad])
  | refuse b hb _ =>
    exact load_setBatch_lt (hs.batch b (by simp [hb])) (.returned false) 0 (by simp [hb, batchLoad])
  | accept b hb _ _ =>
    exact load_setBatch_lt (hs.batch b (by simp [hb])) (.dealing 0) 0 (by simp [hb, batchLoad])
  | overflow b hb _ _ =>
    exact load_setBatch_lt (hs.batch b (by simp [hb])) .crashed 0 (by simp [hb, batchLoad])
  | skip b m hb hplace =>
    have hload := load_setBatch_lt (hs.batch b (by simp [hb])) (.dealing (m + 1)) (itemLoad p)
      (hb ▸ batchLoad_next p hplace)
    exact Nat.lt_of_le_of_lt (Nat.le_add_right _ _) hload
  | deal b m hb hplace _ =>
    rw [load_push p n _ (Nat.mod_lt m p.workers_pos)]
    exact load_setBatch_lt (hs.batch b (by simp [hb])) (.dealing (m + 1)) (itemLoad p)
      (hb ▸ batchLoad_next p hplace)
  | complete b hb _ =>
    exact load_setBatch_lt (hs.batch b (by simp [hb])) (.returned true) 0 (by simp [hb, batchLoad])
  | take k item rest hk hwait hqueue =>
    exact load_begin_lt n hk hk hqueue (Nat.zero_lt_of_lt (two_le_workerLoad p hwait))
  | scan k hk hseek _ _ => exact load_setWorker_lt n hk (.scanning 0) (by simp [hseek, workerLoad])
  | pass k q hk hscan hq _ =>
    exact load_setWorker_lt n hk (.scanning (q + 1)) (by simp only [hscan, workerLoad]; omega)
  | steal k q item rest hk hscan hq _ hqueue =>
    exact load_begin_lt n hk hq hqueue (by simp only [hscan, workerLoad]; omega)
  | park k hk hscan => exact load_setWorker_lt n hk .parked (by simp [hscan, workerLoad])
  | finish k item last hk hrun =>
    exact load_setWorker_lt n hk (.resume last) (hrun ▸ workerLoad_resume_lt p item last)
  | notice k hk hwait _ => exact load_setWorker_lt n hk .draining (two_le_workerLoad p hwait)
  | drain k item rest hk hdrain hqueue =>
    exact load_begin_lt n hk hk hqueue (by simp [hdrain, workerLoad])
  | leave k hk hdrain _ => exact load_setWorker_lt n hk .gone (by simp [hdrain, workerLoad])
  | claim c hc _ =>
    exact load_setClosing_lt (hs.closing c (by simp [hc])) .claiming (by simp [hc, closeLoad])
  | shut c hc _ _ =>
    have hload : load p n (s.setClosing c .stopping) < load p n s :=
      load_setClosing_lt (hs.closing c (by simp [hc])) .stopping (by simp [hc, closeLoad])
    exact hload
  | shutAgain c hc _ _ =>
    exact load_setClosing_lt (hs.closing c (by simp [hc])) .returned (by simp [hc, closeLoad])
  | stop c hc _ =>
    exact load_setClosing_lt (hs.closing c (by simp [hc])) .returned (by simp [hc, closeLoad])

/-- Steps alone are at most as many as the load allows. -/
theorem length_le_load {p : Shape} {n : Nat} {s : State} (hs : CallsBelow n s) (run : List State)
    (hrun : (s :: run).IsChain (Step p)) : run.length ≤ load p n s := by
  induction run generalizing s with
  | nil => exact Nat.zero_le _
  | cons t run ih =>
    obtain ⟨hstep, hrest⟩ := List.isChain_cons_cons.mp hrun
    have hlength := ih (step_callsBelow hstep hs) hrest
    have hload := step_load_lt hstep hs
    rw [List.length_cons]
    omega

/-- The pool never gets stuck. While some batch or closing has not come to its end, some party can act,
and only a batch with too many places ends in a crash; without further calls the parties can act only so
many times, however they take turns, so that they cannot go on without everything ending. -/
theorem pool_progress {p : Shape} (hroom : 0 < p.room) {s : State} (h : Reachable p s) :
    (Outstanding s → ∃ t, Step p s t) ∧
      (∀ b, s.batch b = .crashed → Pool.counterLimit ≤ (s.work b).length) ∧
      ∃ bound, ∀ run : List State, (s :: run).IsChain (Step p) → run.length ≤ bound := by
  obtain ⟨n, hn⟩ := reachable_callsBelow h
  exact ⟨outstanding_enabled hroom h, fun b hb => (crashed_account (reachable_balanced h) hb).2.2,
    load p n s, length_le_load hn⟩

/-- One worker with room for one item: it waits, a batch of two items finds the queue full after the
first, a closing waits for that batch, and a second batch waits for the closing. -/
theorem pool_progress_all_waiting :
    ∃ s, Reachable ⟨1, 1, by decide⟩ s ∧ s.worker 0 = .parked ∧ s.batch 0 = .dealing 1 ∧
      s.queue 0 = [⟨0, 0⟩] ∧ s.closing 0 = .claiming ∧ s.batch 1 = .entering ∧
      ∃ t, Step ⟨1, 1, by decide⟩ s t := by
  have hrun := Leads.refl (p := ⟨1, 1, by decide⟩) (s := .initial)
    |>.step (.scan 0 (by decide) rfl rfl rfl)
    |>.step (.pass 0 0 (by decide) rfl (by decide) (.inl rfl))
    |>.step (.park 0 (by decide) rfl)
    |>.call (.submit 0 [true, true] rfl)
    |>.step (.share 0 rfl fun _ => nofun)
    |>.step (.accept 0 rfl rfl (by decide))
    |>.step (.deal 0 0 rfl rfl (by decide))
    |>.call (.close 0 rfl)
    |>.step (.claim 0 rfl fun | 0 => nofun | _ + 1 => nofun)
    |>.call (.submit 1 [true] rfl)
  refine ⟨_, hrun, rfl, rfl, rfl, rfl, rfl, (pool_progress (by decide) hrun).1 (.inl ⟨1, ?_, ?_, ?_⟩)⟩
  · exact nofun
  · exact nofun
  · exact fun _ => nofun

end EscapeTime.Proofs
