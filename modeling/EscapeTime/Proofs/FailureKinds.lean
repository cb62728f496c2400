import EscapeTime.Proofs.RoundTrip
import EscapeTime.Proofs.StageEnds

/-!
# The kinds of returned failures

Whatever a renderer is asked for, a failure that it returns has one of four kinds: invalid input, out of
memory, input/output or closed. It is an input/output failure exactly when it holds a write fault, which
names the path of the render. The kinds that pool, raster and writer use among themselves do not get
out, because a prepared grid has positive sides and a drawn raster has the pixels that its sides ask for.
-/

namespace EscapeTime.Proofs
open Graymap

/-- A renderer says that it is closed. -/
def IsClosed (r : Renderer) (f : Failure) : Prop := f = .kind .closed ∧ r.pool.closed = true

lemma renderer_spread_failure {r : Renderer} {n : Nat} {f : Failure}
    (h : r.spread n = .error (.failure f)) : IsClosed r f := by
  rw [renderer_spread_eq] at h
  cases hsplit : Partition.split (Int64.ofNat n) r.settings.chunk r.pool.workers with
  | error c => rw [hsplit] at h; cases h
  | ok ranges =>
    rw [hsplit] at h
    dsimp only at h
    split at h
    · rename_i hclosed
      cases h
      exact ⟨rfl, hclosed⟩
    · split at h
      · cases h
      · cases h

theorem compute_failure {r : Renderer} {rows budget : Int64} {f : Failure}
    (h : (r.compute rows budget).outcome = .error (.failure f)) : IsRefusal f ∨ IsClosed r f := by
  rw [compute_outcome] at h
  rcases countGrid_ends r rows budget with ⟨lattice, blank, hprepared⟩ | ⟨g, hg, hrefusal⟩
  · rw [countGrid_of_prepared hprepared] at h
    exact .inr (renderer_spread_failure (map_eq_error h))
  · rw [hg] at h
    cases h
    exact .inl hrefusal

theorem shade_failure {r : Renderer} {grid? : Option Grid} {budget : Int64} {f : Failure}
    (h : (r.shade grid? budget).outcome = .error (.failure f)) : IsRefusal f ∨ IsClosed r f := by
  rw [shade_outcome] at h
  rcases shadeRaster_ends r grid? budget with ⟨grid, black, haccepted⟩ | ⟨g, hg, hrefusal⟩
  · rw [shadeRaster_of_accepted haccepted] at h
    exact .inr (renderer_spread_failure (map_eq_error h))
  · rw [hg] at h
    cases h
    exact .inl hrefusal

lemma draw_failure {r : Renderer} {budget rows : Int64} {f : Failure}
    (h : (r.draw budget rows).outcome = .error (.failure f)) : IsRefusal f ∨ IsClosed r f := by
  unfold Renderer.draw at h
  dsimp only at h
  cases hcompute : (r.compute rows budget).outcome with
  | error a =>
    rw [hcompute] at h
    cases h
    exact compute_failure hcompute
  | ok grid =>
    rw [hcompute] at h
    exact shade_failure h

/-- The write at the end of a render stopped at one of its steps on the path. -/
def IsFailedWrite (path : String) (f : Failure) : Prop :=
  ∃ step number, f = .within "mandel: write image" (failedStep step path number)

/-- A render fails as its drawing does, or in a step of its write: a drawn raster always passes the
writer's check. -/
theorem render_failure {r : Renderer} {t : Tree} {path : String} {budget rows : Int64}
    {late? : Option LateFault} {f : Failure}
    (h : (r.render t path budget rows late?).2.outcome = .error (.failure f)) :
    IsRefusal f ∨ IsClosed r f ∨ IsFailedWrite path f := by
  unfold Renderer.render at h
  dsimp only at h
  cases hdraw : (r.draw budget rows).outcome with
  | error a =>
    rw [hdraw] at h
    cases h
    exact (draw_failure hdraw).imp_right .inl
  | ok raster =>
    rw [hdraw] at h
    dsimp only at h
    -- The kind of a misfit image could only come from the writer's check, which passes here.
    obtain ⟨-, -, -, -, -, pixels, -, hpixels, -⟩ := draw_eq_ok hdraw
    have hcheck := check_of_isImage (isImage_ofRaster hpixels).1
    cases hsave : (save t path (.ofRaster raster) late?).2 with
    | ok _ => rw [hsave] at h; cases h
    | error g =>
      rw [hsave] at h
      cases h
      rcases save_eq_error hsave with ⟨hrefused, -⟩ | ⟨-, step, number, rfl⟩
      · rw [hcheck] at hrefused
        cases hrefused
      · exact .inr (.inr ⟨step, number, rfl⟩)

lemma start_open {processors : Processors} {settings : Settings} {r : Renderer}
    (h : Renderer.start processors settings = .ok r) : r.pool.closed = false := by
  obtain ⟨pool, hpool, rfl⟩ := map_eq_ok h
  unfold Pool.start at hpool
  dsimp only at hpool
  split at hpool
  · cases hpool
  · split at hpool
    · cases hpool
    · split at hpool
      · cases hpool
      · cases hpool
        rfl

/-- A renderer that lives for one render is open while it renders. -/
lemma once_failure {s : Session} {settings : Settings} {path : String} {budget rows : Int64}
    {late? : Option LateFault} {f : Failure}
    (h : (s.perform (.renderOnce settings path budget rows late?)).reply =
      .aborted (.failure f)) :
    IsRefusal f ∨ IsFailedWrite path f := by
  rw [Session.perform] at h
  unfold Session.withStarted at h
  cases hstart : Renderer.start s.processors settings with
  | error c => rw [hstart] at h; cases h
  | ok r =>
    rw [hstart] at h
    dsimp only [Session.renderWith] at h
    split at h
    · rename_i a hout
      cases h
      rcases render_failure hout with hrefusal | ⟨-, hclosed⟩ | hwrite
      · exact .inl hrefusal
      · rw [start_open hstart] at hclosed
        cases hclosed
      · exact .inr hwrite
    · cases h

/-- The kinds that callers are told to expect. -/
def documentedKinds : List Kind := [.invalidInput, .outOfMemory, .inputOutput, .closed]

/-- The kinds that pool, raster and writer keep to themselves. -/
def internalKinds : List Kind := [.poolClosed, .rasterDimensions, .image, .released]

/-- What callers can rely on: one of the kinds they expect, an input/output failure exactly with a
write fault, which names the path they gave, and no internal kind. -/
structure WellReported (path : Option String) (f : Failure) : Prop where
  one_kind : ∃! k, k ∈ documentedKinds ∧ f.hasKind k = true
  io_iff : f.hasKind .inputOutput = true ↔ f.writeFault?.isSome = true
  fault_path : ∀ fault, f.writeFault? = some fault → path = some fault.path
  not_internal : ∀ k ∈ internalKinds, f.hasKind k = false

lemma documented_of_base : ∀ base ∈ refusalKinds ++ [.closed, .inputOutput],
    (∃ k ∈ documentedKinds, base.countsAs k = true ∧
      ∀ other ∈ documentedKinds, base.countsAs other = true → other = k) ∧
    (∀ k ∈ internalKinds, base.countsAs k = false) ∧
    (base.countsAs .inputOutput = true ↔ base = .inputOutput) := by
  decide

/-- A failure of one base kind is well reported if its write fault fits that kind. -/
lemma wellReported_of_base {path : Option String} {f : Failure} (base : Kind)
    (hbase : base ∈ refusalKinds ++ [.closed, .inputOutput])
    (hkind : ∀ target, f.hasKind target = base.countsAs target)
    (hfault : base = .inputOutput ↔ f.writeFault?.isSome = true)
    (hpath : ∀ fault, f.writeFault? = some fault → path = some fault.path) : WellReported path f := by
  obtain ⟨⟨k, hk, hcounts, hunique⟩, hinternal, hio⟩ := documented_of_base base hbase
  refine ⟨⟨k, ⟨hk, (hkind k).trans hcounts⟩, ?_⟩, ?_, hpath, ?_⟩
  · rintro other ⟨hother, hhas⟩
    exact hunique other hother ((hkind other).symm.trans hhas)
  · rw [hkind, hio, hfault]
  · intro internal hmem
    rw [hkind]
    exact hinternal internal hmem

lemma wellReported_refusal {path : Option String} {f : Failure} (h : IsRefusal f) :
    WellReported path f := by
  obtain ⟨base, hbase, hblames⟩ := h
  refine wellReported_of_base base (List.mem_append_left _ hbase) hblames.hasKind_eq ?_ ?_
  · rw [hblames.no_fault]
    constructor
    · rintro rfl
      exact absurd hbase (by decide)
    · intro h
      cases h
  · intro fault hfault
    rw [hblames.no_fault] at hfault
    cases hfault

lemma wellReported_closed (path : Option String) : WellReported path (.kind .closed) :=
  wellReported_of_base .closed (by decide) (fun _ => rfl) (by decide) (by rintro fault ⟨⟩)

lemma wellReported_failedWrite {path : String} {f : Failure} (h : IsFailedWrite path f) :
    WellReported (some path) f := by
  obtain ⟨step, number, rfl⟩ := h
  refine wellReported_of_base .inputOutput (by decide) ?_ ?_ ?_
  · intro target
    exact Bool.or_false _
  · exact ⟨fun _ => rfl, fun _ => rfl⟩
  · rintro fault ⟨⟩
    rfl

/-- The failures that callers get to see, with the path that they gave, if they gave one. -/
inductive Returned : Option String → Failure → Prop where
  | compute {r : Renderer} {rows budget : Int64} {f : Failure} :
      (r.compute rows budget).outcome = .error (.failure f) → Returned none f
  | shade {r : Renderer} {grid? : Option Grid} {budget : Int64} {f : Failure} :
      (r.shade grid? budget).outcome = .error (.failure f) → Returned none f
  | render {r : Renderer} {t : Tree} {path : String} {budget rows : Int64}
      {late? : Option LateFault} {f : Failure} :
      (r.render t path budget rows late?).2.outcome = .error (.failure f) → Returned (some path) f
  | once {s : Session} {settings : Settings} {path : String} {budget rows : Int64}
      {late? : Option LateFault} {f : Failure} :
      (s.perform (.renderOnce settings path budget rows late?)).reply = .aborted (.failure f) →
      Returned (some path) f

/-- Every returned failure is well reported, whichever step of a write it comes from, and one that comes
from a renderer started for a single render is never that it is closed. -/
theorem returned_wellReported :
    (∀ (path : Option String) (f : Failure), Returned path f → WellReported path f) ∧
    ∀ (s : Session) (settings : Settings) (path : String) (budget rows : Int64)
      (late? : Option LateFault) (f : Failure),
      (s.perform (.renderOnce settings path budget rows late?)).reply = .aborted (.failure f) →
      f.hasKind .closed = false := by
  constructor
  · intro path f h
    cases h with
    | compute hout =>
      rcases compute_failure hout with hrefusal | ⟨rfl, -⟩
      · exact wellReported_refusal hrefusal
      · exact wellReported_closed none
    | shade hout =>
      rcases shade_failure hout with hrefusal | ⟨rfl, -⟩
      · exact wellReported_refusal hrefusal
      · exact wellReported_closed none
    | render hout =>
      rcases render_failure hout with hrefusal | ⟨rfl, -⟩ | hwrite
      · exact wellReported_refusal hrefusal
      · exact wellReported_closed _
      · exact wellReported_failedWrite hwrite
    | once hreply =>
      rcases once_failure hreply with hrefusal | hwrite
      · exact wellReported_refusal hrefusal
      · exact wellReported_failedWrite hwrite
  · intro s settings path budget rows late? f h
    rcases once_failure h with ⟨base, hbase, hblames⟩ | ⟨step, number, rfl⟩
    · have hopen : ∀ kind ∈ refusalKinds, kind.countsAs .closed = false := by decide
      rw [hblames.hasKind_eq]
      exact hopen base hbase
    · rfl

/-- A render into a missing directory, and one whose pixels do not reach the disk: the failure is one of
input and output and names the path. -/
theorem returned_wellReported_missing_directory :
    let s : Session := { processors := ⟨4, by decide⟩, tree := .scratch }
    let f : Failure := .within "mandel: write image" (.write .openFile "no/a.pgm" (.system .noEntry))
    let full : LateFault := ⟨.sync, .noSpace⟩
    let g : Failure := .within "mandel: write image" (.write .sync "a.pgm" (.system .noSpace))
    (s.perform (.renderOnce {} "no/a.pgm" 5 2 none)).reply = .aborted (.failure f) ∧
      WellReported (some "no/a.pgm") f ∧ f.hasKind .inputOutput = true ∧ f.hasKind .closed = false ∧
      (s.perform (.renderOnce {} "a.pgm" 5 2 (some full))).reply = .aborted (.failure g) ∧
      WellReported (some "a.pgm") g := by
  intro s f full g
  let r : Renderer := ⟨{}, ⟨4, false, by decide, by decide⟩⟩
  have hstart : Renderer.start s.processors {} = .ok r := by decide +kernel
  have hout : (r.render .scratch "no/a.pgm" 5 2).2.outcome = .error (.failure f) := by decide +kernel
  have hreply : (s.perform (.renderOnce {} "no/a.pgm" 5 2 none)).reply = .aborted (.failure f) := by
    rw [Session.perform, hstart]
    dsimp only [Session.withStarted, Session.renderWith]
    rw [hout]
  have hlate : (r.render .scratch "a.pgm" 5 2 (some full)).2.outcome = .error (.failure g) := by
    decide +kernel
  have hreply' : (s.perform (.renderOnce {} "a.pgm" 5 2 (some full))).reply =
      .aborted (.failure g) := by
    rw [Session.perform, hstart]
    dsimp only [Session.withStarted, Session.renderWith]
    rw [hlate]
  exact ⟨hreply, returned_wellReported.1 _ _ (.once hreply), rfl,
    returned_wellReported.2 s {} "no/a.pgm" 5 2 none f hreply, hreply',
    returned_wellReported.1 _ _ (.once hreply')⟩

end EscapeTime.Proofs
