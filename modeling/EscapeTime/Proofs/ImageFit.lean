import EscapeTime.Proofs.FileWrites
import Mathlib.Data.Int.ModEq

/-!
# Images that do not fit their sides

An image is written only when both sides are positive and it has the number of pixels they ask for.
That number is formed in machine integers, so sides whose product passes `2 ^ 64` can ask for one
number and be taken at another: such an image is written, under a header that promises more pixels
than follow it.
-/

namespace EscapeTime.Proofs
open Graymap

/-- Both sides are positive and there are as many pixels as they ask for. -/
structure FitsSides (g : Graymap) : Prop where
  width_pos : 0 < g.width.toInt
  height_pos : 0 < g.height.toInt
  size_pixels : (g.pixels.size : Int) = g.width.toInt * g.height.toInt

/-- Both sides are positive and ask for another number of pixels, which wraps to the number there
is. -/
structure WrapsToSize (g : Graymap) : Prop where
  width_pos : 0 < g.width.toInt
  height_pos : 0 < g.height.toInt
  size_ne : (g.pixels.size : Int) ≠ g.width.toInt * g.height.toInt
  size_modEq : (g.pixels.size : Int) ≡ g.width.toInt * g.height.toInt [ZMOD 2 ^ 64]

/-- The write gives up with an invalid image and leaves the tree alone. -/
def RefusesImage (t : Tree) (path : String) (g : Graymap) : Prop :=
  (save t path g).1 = t ∧ ∃ f, (save t path g).2 = .error f ∧ f.hasKind .image = true

/-- The rule of the format at one image: what does not fit its sides is refused, and a file that was
written holds as many bytes after its header as the header promises. -/
def KeepsToSides (t : Tree) (path : String) (g : Graymap) : Prop :=
  (¬FitsSides g → RefusesImage t path g) ∧
    ((save t path g).2 = .ok () → ∃ body,
      (save t path g).1.read? path = some (headerBytes g.width g.height ++ body) ∧
        (body.length : Int) = g.width.toInt * g.height.toInt)

lemma ofNat_eq_mul_iff (n : Nat) (a b : Int64) :
    Int64.ofNat n = a * b ↔ (n : Int) ≡ a.toInt * b.toInt [ZMOD 2 ^ 64] := by
  rw [← Int64.toInt_inj, Int64.toInt_ofNat', Int64.toInt_mul, Int.bmod_eq_bmod_iff_bmod_sub_eq_zero,
    ← Int.dvd_iff_bmod_eq_zero]
  exact ⟨fun h => (Int.modEq_iff_dvd.mpr h).symm, fun h => Int.modEq_iff_dvd.mp h.symm⟩

/-- The check counts pixels up to multiples of `2 ^ 64`. -/
theorem check_eq_ok_iff {g : Graymap} :
    g.check = .ok () ↔ 0 < g.width.toInt ∧ 0 < g.height.toInt ∧
      (g.pixels.size : Int) ≡ g.width.toInt * g.height.toInt [ZMOD 2 ^ 64] := by
  have hsides : ¬(g.width ≤ 0 ∨ g.height ≤ 0) ↔ 0 < g.width.toInt ∧ 0 < g.height.toInt := by
    rw [not_or, Int64.not_le, Int64.not_le, Int64.lt_iff_toInt_lt, Int64.lt_iff_toInt_lt]
    rfl
  unfold check
  by_cases hneg : g.width ≤ 0 ∨ g.height ≤ 0
  · rw [if_pos hneg]
    constructor
    · intro h
      cases h
    · rintro ⟨hw, hh, -⟩
      exact absurd hneg (hsides.mpr ⟨hw, hh⟩)
  · obtain ⟨hw, hh⟩ := hsides.mp hneg
    rw [if_neg hneg]
    by_cases hcount : Int64.ofNat g.pixels.size = g.width * g.height
    · rw [if_neg (not_not_intro hcount)]
      exact ⟨fun _ => ⟨hw, hh, (ofNat_eq_mul_iff _ _ _).mp hcount⟩, fun _ => rfl⟩
    · rw [if_pos hcount]
      constructor
      · intro h
        cases h
      · rintro ⟨-, -, hmod⟩
        exact absurd ((ofNat_eq_mul_iff _ _ _).mpr hmod) hcount

lemma hasKind_of_check {g : Graymap} {f : Failure} (h : g.check = .error f) :
    f.hasKind .image = true := by
  unfold check at h
  split at h
  · cases h
    rfl
  · split at h
    · cases h
      rfl
    · cases h

lemma check_eq_ok_iff_fits_or_wraps {g : Graymap} :
    g.check = .ok () ↔ FitsSides g ∨ WrapsToSize g := by
  rw [check_eq_ok_iff]
  constructor
  · rintro ⟨hw, hh, hmod⟩
    by_cases hsize : (g.pixels.size : Int) = g.width.toInt * g.height.toInt
    · exact .inl ⟨hw, hh, hsize⟩
    · exact .inr ⟨hw, hh, hsize, hmod⟩
  · rintro (h | h)
    · exact ⟨h.width_pos, h.height_pos, by rw [h.size_pixels]⟩
    · exact ⟨h.width_pos, h.height_pos, h.size_modEq⟩

/-- An image is refused exactly when the check refuses it: no later step fails for its pixels. -/
lemma refusesImage_iff {t : Tree} {path : String} {g : Graymap} :
    RefusesImage t path g ↔ ¬(FitsSides g ∨ WrapsToSize g) := by
  rw [← check_eq_ok_iff_fits_or_wraps]
  constructor
  · rintro ⟨-, f, hf, hkind⟩ hcheck
    rcases save_eq_error hf with ⟨hrefused, -⟩ | ⟨-, step, number, rfl⟩
    · rw [hcheck] at hrefused
      cases hrefused
    · cases hkind
  · intro hcheck
    unfold RefusesImage save
    cases hg : g.check with
    | ok _ => exact absurd hg hcheck
    | error f => exact ⟨rfl, f, rfl, hasKind_of_check hg⟩

lemma two_pow_le_of_wrapsToSize {g : Graymap} (h : WrapsToSize g)
    (hsize : (g.pixels.size : Int) ≤ maxInt) : 2 ^ 64 ≤ g.width.toInt * g.height.toInt := by
  have hprod : 0 < g.width.toInt * g.height.toInt := Int.mul_pos h.width_pos h.height_pos
  have hne := h.size_ne
  have hmod := h.size_modEq
  unfold maxInt at hsize
  unfold Int.ModEq at hmod
  omega

lemma not_keepsToSides_of_wraps {t : Tree} {path : String} {g : Graymap} (h : WrapsToSize g) :
    ¬KeepsToSides t path g := by
  intro hkeeps
  have hmisfit : ¬FitsSides g := fun hfits => h.size_ne hfits.size_pixels
  exact refusesImage_iff.mp (hkeeps.1 hmisfit) (.inr h)

lemma keepsToSides_of_not_wraps {t : Tree} {path : String} {g : Graymap} (h : ¬WrapsToSize g) :
    KeepsToSides t path g := by
  refine ⟨fun hmisfit => refusesImage_iff.mpr (not_or.mpr ⟨hmisfit, h⟩), fun hsave => ?_⟩
  have hfits : FitsSides g :=
    (check_eq_ok_iff_fits_or_wraps.mp (save_eq_ok hsave).1).resolve_right h
  refine ⟨g.pixels.toList, read?_save hsave, ?_⟩
  rw [Array.length_toList]
  exact hfits.size_pixels

/-- The rule of the format is kept by every image but those that wrap, and a fitting image is never
refused for its pixels. No image wraps whose sides ask for fewer than `2 ^ 64` pixels. -/
theorem keepsToSides_iff (t : Tree) (path : String) (g : Graymap) :
    (KeepsToSides t path g ↔ ¬WrapsToSize g) ∧
      (RefusesImage t path g → ¬FitsSides g) ∧
      ((g.pixels.size : Int) ≤ maxInt → g.width.toInt * g.height.toInt < 2 ^ 64 →
        KeepsToSides t path g) := by
  refine ⟨⟨fun hkeeps hwraps => not_keepsToSides_of_wraps hwraps hkeeps,
    keepsToSides_of_not_wraps⟩, fun hrefuses hfits => refusesImage_iff.mp hrefuses (.inl hfits), ?_⟩
  intro hsize hprod
  apply keepsToSides_of_not_wraps
  intro hwraps
  have := two_pow_le_of_wrapsToSize hwraps hsize
  omega

/-- Sides whose product passes the largest machine integer, but not `2 ^ 64`: the image is refused. -/
theorem keepsToSides_half_wrapped :
    let g : Graymap := ⟨4294967296, 2147483648, #[]⟩
    KeepsToSides .scratch "a.pgm" g ∧ RefusesImage .scratch "a.pgm" g := by
  intro g
  have hkeeps := (keepsToSides_iff .scratch "a.pgm" g).2.2 (by decide) (by decide)
  have hmisfit : ¬FitsSides g := fun h => absurd h.size_pixels (by decide)
  exact ⟨hkeeps, hkeeps.1 hmisfit⟩

/-- An image without pixels whose sides ask for `2 ^ 64` of them is written, and nothing follows its
header. -/
theorem empty_image_written :
    let g : Graymap := ⟨8589934592, 2147483648, #[]⟩
    ¬FitsSides g ∧ (save .scratch "a.pgm" g).2 = .ok () ∧
      (save .scratch "a.pgm" g).1.read? "a.pgm" = some (headerBytes 8589934592 2147483648) ∧
      ¬KeepsToSides .scratch "a.pgm" g := by
  intro g
  have hmisfit : ¬FitsSides g := fun h => absurd h.size_pixels (by decide)
  have hsave : (save .scratch "a.pgm" g).2 = .ok () := by decide +kernel
  have hread : (save .scratch "a.pgm" g).1.read? "a.pgm" =
      some (headerBytes 8589934592 2147483648) := by
    rw [read?_save hsave]
    exact congrArg some (List.append_nil _)
  refine ⟨hmisfit, hsave, hread, fun hkeeps => ?_⟩
  obtain ⟨-, f, hf, -⟩ := hkeeps.1 hmisfit
  rw [hsave] at hf
  cases hf

end EscapeTime.Proofs
