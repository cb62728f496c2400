import EscapeTime.Proofs.PoolLedger
import EscapeTime.Proofs.RangeCover

/-!
# Safety of the pool

Over every interleaving of batches, workers and closings: no item is started twice, a batch that
returns with success has had each of its items run once, a refused batch has had none run, and the
pool is at rest from the moment it is closed. A batch therefore ends as `Pool.run` says, which knows of no
workers and queues, and has run what it lists, in some order.
-/

namespace EscapeTime.Proofs
open Machine

lemma finished_nodup {p : Shape} {s : State} (h : Balanced (ledger p s)) : s.finished.Nodup :=
  Multiset.coe_nodup.mp (Multiset.nodup_of_le (Multiset.le_add_left _ _) h.nodup)

lemma mem_finished_of_returned {p : Shape} {s : State} (h : Balanced (ledger p s)) {b n : Nat}
    (hb : s.batch b = .returned true) (hplace : (s.work b)[n]? = some true) :
    ⟨b, n⟩ ∈ s.finished := by
  have haccount : Account b (s.work b) _ _ _ (s.batch b) := h.account b
  rw [hb] at haccount
  exact Multiset.mem_of_mem_filter ((haccount.2.1 n).mpr hplace)

/-- How a batch ends on the machine is how `Pool.run` ends. What was run of it is what `Pool.run` lists, in
some order, or nothing. -/
structure EndsAsRun {α : Type} (s : State) (b : Nat) (work : List (Option α)) : Prop where
  returned : s.batch b = .returned true → ∀ p : Pool, p.closed = false →
    ∃ done, p.run work = .ok done ∧ (s.ran b work).Perm done
  refused : s.batch b = .returned false → ∀ p : Pool, p.closed = true →
    p.run work = .error (.failure (.kind .poolClosed)) ∧ s.ran b work = []
  crashed : s.batch b = .crashed → ∀ p : Pool, p.closed = false →
    p.run work = .error (.crash .negativeCounter) ∧ s.ran b work = []

/-- Two lists without repetition give the same values in some order if they share what has a value. -/
lemma perm_filterMap {ι α : Type} {xs ys : List ι} {g : ι → Option α} (hxs : xs.Nodup) (hys : ys.Nodup)
    (hmem : ∀ x, (g x).isSome → x ∈ xs ∧ x ∈ ys) : (xs.filterMap g).Perm (ys.filterMap g) := by
  have hfilter : ∀ zs : List ι, zs.filterMap g = (zs.filter fun x => (g x).isSome).filterMap g := by
    intro zs
    rw [List.filterMap_filter]
    refine List.filterMap_congr fun x _ => ?_
    cases g x <;> rfl
  rw [hfilter xs, hfilter ys]
  refine List.Perm.filterMap _ ((List.perm_ext_iff_of_nodup (hxs.filter _) (hys.filter _)).mpr fun x => ?_)
  rw [List.mem_filter, List.mem_filter]
  exact and_congr_left fun hx => iff_of_true (hmem x hx).1 (hmem x hx).2

/-- The places of a batch from first to last stand for its items. -/
lemma filterMap_standsFor {α : Type} (b : Nat) (work : List (Option α)) :
    ((List.range work.length).map (Item.mk b)).filterMap (Item.standsFor? b work) =
      work.filterMap id := by
  have hplaces : (List.range work.length).map (fun n => (work[n]?).join) = work := by
    refine List.ext_getElem (by simp) fun n _ hn => ?_
    rw [List.getElem_map, List.getElem_range, List.getElem?_eq_getElem hn]
    rfl
  have hstands : Item.standsFor? b work ∘ Item.mk b = id ∘ fun n => (work[n]?).join := by
    funext n
    exact if_pos rfl
  conv_rhs => rw [← hplaces]
  rw [List.filterMap_map, List.filterMap_map, hstands]

lemma place_of_standsFor {α : Type} {b : Nat} {work : List (Option α)} {item : Item}
    (h : (item.standsFor? b work).isSome) :
    item.batch = b ∧ item.index < work.length ∧ (work.map Option.isSome)[item.index]? = some true := by
  unfold Item.standsFor? at h
  split at h
  · rename_i hbatch
    obtain ⟨a, ha⟩ := Option.isSome_iff_exists.mp h
    have hplace : work[item.index]? = some (some a) := Option.join_eq_some_iff.mp ha
    exact ⟨hbatch, (List.getElem?_eq_some_iff.mp hplace).1, by rw [List.getElem?_map, hplace]; rfl⟩
  · cases h

lemma ran_perm {α : Type} {p : Shape} {s : State} (h : Balanced (ledger p s)) {b : Nat}
    {work : List (Option α)} (hwork : s.work b = work.map Option.isSome)
    (hb : s.batch b = .returned true) : (s.ran b work).Perm (work.filterMap id) := by
  rw [← filterMap_standsFor b work]
  have hnodup : ((List.range work.length).map (Item.mk b)).Nodup :=
    List.nodup_range.map fun m n heq => (Item.mk.inj heq).2
  refine perm_filterMap (List.nodup_reverse.mpr (finished_nodup h)) hnodup fun item hitem => ?_
  obtain ⟨rfl, hlt, hplace⟩ := place_of_standsFor hitem
  rw [← hwork] at hplace
  exact ⟨List.mem_reverse.mpr (mem_finished_of_returned h hb hplace),
    List.mem_map.mpr ⟨item.index, List.mem_range.mpr hlt, rfl⟩⟩

lemma ran_eq_nil {α : Type} {s : State} {b : Nat} (work : List (Option α))
    (h : itemsOf b s.finished = 0) : s.ran b work = [] := by
  apply List.filterMap_eq_nil_iff.mpr
  intro item hitem
  refine if_neg fun hbatch => ?_
  have hmem : item ∈ itemsOf b s.finished := Multiset.mem_filter.mpr ⟨List.mem_reverse.mp hitem, hbatch⟩
  rw [h] at hmem
  exact Multiset.notMem_zero _ hmem

theorem endsAsRun {α : Type} {p : Shape} {s : State} (h : Balanced (ledger p s)) {b : Nat}
    {work : List (Option α)} (hwork : s.work b = work.map Option.isSome) : EndsAsRun s b work := by
  have haccount : Account b (s.work b) _ _ _ (s.batch b) := h.account b
  have hlength : (s.work b).length = work.length := by rw [hwork, List.length_map]
  refine ⟨fun hb pool hopen => ?_, fun hb pool hclosed => ?_, fun hb pool hopen => ?_⟩
  · rw [hb] at haccount
    exact ⟨_, run_eq_ok_iff.mpr ⟨hopen, hlength ▸ haccount.2.2, rfl⟩, ran_perm h hwork hb⟩
  · rw [hb] at haccount
    exact ⟨if_pos hclosed, ran_eq_nil work haccount.2⟩
  · obtain ⟨-, hnone, hmany⟩ := crashed_account h hb
    rw [hlength] at hmany
    refine ⟨?_, ran_eq_nil work hnone⟩
    rw [Pool.run, hopen, if_neg Bool.false_ne_true, if_pos hmany]

end EscapeTime.Proofs
