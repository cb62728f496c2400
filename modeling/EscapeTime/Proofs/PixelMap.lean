import EscapeTime.Image.Raster
import EscapeTime.Proofs.Rendering

/-!
# A raster as a map from positions to gray levels

Over any run of calls a raster is a bounded map: a position holds the value that was last stored there,
and nothing once the buffer is released. The flat buffer carries this because distinct positions have
distinct places, and because the sides of a raster are small enough for the place to be computed in
machine integers.
-/

namespace EscapeTime.Proofs
open Raster

/-- A position whose place is computed without a wrap and lies in a buffer of the given length. -/
structure Addressed (r : Raster) (x y : Int64) (length : Nat) : Prop where
  row_start : (y * Int64.ofNat r.width).toInt = y.toInt * r.width
  offset : (y * Int64.ofNat r.width + x).toInt = y.toInt * r.width + x.toInt
  place_eq : (r.place x y : Int) = y.toInt * r.width + x.toInt
  inside : r.place x y < length

lemma addressed_of_contains {r : Raster} {x y : Int64} (h : r.Contains x y) :
    Addressed r x y (r.width * r.height) := by
  obtain ⟨hx, hxlt, hy, hylt⟩ := h
  obtain ⟨hwidth, -⟩ := toInt_ofNat_sides r.width_pos r.height_pos r.fits
  have hfits := r.fits
  unfold Memory.limit at hfits
  have hplace : (r.place x y : Int) = y.toInt * r.width + x.toInt := by
    unfold place
    push_cast
    rw [Int.toNat_of_nonneg hy, Int.toNat_of_nonneg hx]
  have hinside : r.place x y < r.width * r.height := by
    rw [Nat.mul_comm]
    exact place_lt (by omega) (by omega)
  have hstart : 0 ≤ y.toInt * r.width := Int.mul_nonneg hy (by omega)
  have hproduct : (y * Int64.ofNat r.width).toInt = y.toInt * r.width := by
    rw [toInt_mul_of_le hy (by omega) (by rw [hwidth]; unfold maxInt; omega), hwidth]
  refine ⟨hproduct, ?_, hplace, hinside⟩
  rw [toInt_add_of_le (by omega) hx (by unfold maxInt; omega), hproduct]

/-- Distinct positions have distinct places. -/
lemma place_injective {r : Raster} {x y x' y' : Int64} (h : r.Contains x y) (h' : r.Contains x' y')
    (heq : r.place x y = r.place x' y') : x = x' ∧ y = y' := by
  obtain ⟨hx, hxlt, hy, -⟩ := h
  obtain ⟨hx', hxlt', hy', -⟩ := h'
  unfold place at heq
  have hrow := congrArg (· / r.width) heq
  have hcol := congrArg (· % r.width) heq
  simp only [place_div (show x.toInt.toNat < r.width by omega),
    place_div (show x'.toInt.toNat < r.width by omega)] at hrow
  simp only [place_mod (show x.toInt.toNat < r.width by omega),
    place_mod (show x'.toInt.toNat < r.width by omega)] at hcol
  exact ⟨Int64.toInt_inj.mp (by omega), Int64.toInt_inj.mp (by omega)⟩

/-- The value that a call stores at a position. -/
def valueAt? (x y : Int64) : Call → Option UInt8
  | .setGray x' y' value => if x' = x ∧ y' = y then some value else none
  | .release => none

/-- The value that was last stored at a position, zero if none was. -/
def lastGray (calls : List Call) (x y : Int64) : UInt8 :=
  (calls.filterMap (valueAt? x y)).getLastD 0

lemma lastGray_concat (calls : List Call) (c : Call) (x y : Int64) :
    lastGray (calls ++ [c]) x y = (valueAt? x y c).getD (lastGray calls x y) := by
  unfold lastGray
  rw [List.filterMap_append]
  cases hvalue : valueAt? x y c with
  | none => simp [hvalue]
  | some value => simp [hvalue]

/-- The raster shows the calls made on it: its sides are those it was made with, its buffer is gone
after a release, and holds before it, in row-major order, the value last stored at each position. -/
structure Shows (width height : Int64) (calls : List Call) (r : Raster) : Prop where
  width_eq : (r.width : Int) = width.toInt
  height_eq : (r.height : Int) = height.toInt
  gone : .release ∈ calls → r.pixels = none
  held : .release ∉ calls → ∃ p, r.pixels = some p ∧ (p.size : Int) = width.toInt * height.toInt ∧
    ∀ x y, r.Contains x y → Addressed r x y p.size ∧ p[r.place x y]? = some (lastGray calls x y)

lemma shows_of_gone {width height : Int64} {calls : List Call} {r : Raster}
    (hwidth : (r.width : Int) = width.toInt) (hheight : (r.height : Int) = height.toInt)
    (hreleased : .release ∈ calls) (hgone : r.pixels = none) : Shows width height calls r :=
  ⟨hwidth, hheight, fun _ => hgone, fun hheld => absurd hreleased hheld⟩

/-- Of a raster that has its buffer, only the cells are to be looked at. -/
lemma shows_of_cells {width height : Int64} {calls : List Call} {r : Raster} {p : Array UInt8}
    (hwidth : (r.width : Int) = width.toInt) (hheight : (r.height : Int) = height.toInt)
    (hheld : .release ∉ calls) (hp : r.pixels = some p)
    (hcell : ∀ x y, r.Contains x y → p[r.place x y]? = some (lastGray calls x y)) :
    Shows width height calls r := by
  have hsize := r.size_pixels p hp
  refine ⟨hwidth, hheight, fun hreleased => absurd hreleased hheld, fun _ => ⟨p, hp, ?_, ?_⟩⟩
  · rw [hsize, Int.natCast_mul, hwidth, hheight]
  · intro x y hinside
    rw [hsize]
    exact ⟨addressed_of_contains hinside, hcell x y hinside⟩

lemma new_shows {width height cap : Int64} {r : Raster} (h : Raster.new width height cap = .ok r) :
    Shows width height [] r := by
  obtain ⟨hw, hh, -, -, hwidth, hheight, black, hblack, hpixels⟩ := build_eq_ok_iff.mp h
  cases hblack
  refine shows_of_cells (by omega) (by omega) List.not_mem_nil hpixels fun x y hinside => ?_
  have hlt := (addressed_of_contains hinside).inside
  rw [hwidth, hheight] at hlt
  rw [Array.getElem?_replicate, if_pos hlt]
  rfl

lemma setGray_sides (r : Raster) (x y : Int64) (value : UInt8) :
    (r.setGray x y value).width = r.width ∧ (r.setGray x y value).height = r.height := by
  unfold setGray
  split <;> exact ⟨rfl, rfl⟩

lemma setGray_pixels (r : Raster) (x y : Int64) (value : UInt8) :
    (r.setGray x y value).pixels = r.pixels.map fun p =>
      if r.Contains x y then p.setIfInBounds (r.place x y) value else p := by
  unfold setGray
  by_cases hinside : r.Contains x y
  · simp only [if_pos hinside]
    rfl
  · simp only [if_neg hinside]
    exact Option.map_id_apply.symm

/-- A store changes the one cell it is meant for, as no other position has the same place. -/
lemma getElem?_stored {r : Raster} {p : Array UInt8} {x' y' : Int64} {old : UInt8} (x y : Int64)
    (value : UInt8) (hinside : r.Contains x' y') (hlt : r.place x' y' < p.size)
    (hold : p[r.place x' y']? = some old) :
    (if r.Contains x y then p.setIfInBounds (r.place x y) value else p)[r.place x' y']? =
      some ((valueAt? x' y' (.setGray x y value)).getD old) := by
  by_cases hsame : x = x' ∧ y = y'
  · have hstored : valueAt? x' y' (.setGray x y value) = some value := if_pos hsame
    obtain ⟨rfl, rfl⟩ := hsame
    rw [if_pos hinside, Array.getElem?_setIfInBounds_self_of_lt hlt, hstored, Option.getD_some]
  · have hkept : valueAt? x' y' (.setGray x y value) = none := if_neg hsame
    rw [hkept, Option.getD_none]
    split
    case isTrue hstored =>
      have hne : r.place x y ≠ r.place x' y' := fun heq => hsame (place_injective hstored hinside heq)
      rw [Array.getElem?_setIfInBounds_ne hne, hold]
    case isFalse => exact hold

lemma setGray_shows {width height : Int64} {calls : List Call} {r : Raster} (x y : Int64)
    (value : UInt8) (h : Shows width height calls r) :
    Shows width height (calls ++ [.setGray x y value]) (r.setGray x y value) := by
  obtain ⟨hwidth, hheight⟩ := setGray_sides r x y value
  have hwidth' : ((r.setGray x y value).width : Int) = width.toInt := by rw [hwidth]; exact h.width_eq
  have hheight' : ((r.setGray x y value).height : Int) = height.toInt := by
    rw [hheight]
    exact h.height_eq
  have hmem : .release ∈ calls ++ [.setGray x y value] ↔ .release ∈ calls := by simp
  have hpixels := setGray_pixels r x y value
  by_cases hreleased : .release ∈ calls
  · rw [h.gone hreleased] at hpixels
    exact shows_of_gone hwidth' hheight' (hmem.mpr hreleased) hpixels
  · obtain ⟨p, hp, -, hcell⟩ := h.held hreleased
    rw [hp] at hpixels
    refine shows_of_cells hwidth' hheight' (fun hin => hreleased (hmem.mp hin)) hpixels ?_
    intro x' y' hinside'
    have hinside : r.Contains x' y' := by
      unfold Contains at hinside' ⊢
      rwa [hwidth, hheight] at hinside'
    have hplace : (r.setGray x y value).place x' y' = r.place x' y' := by
      unfold place
      rw [hwidth]
    obtain ⟨haddressed, hold⟩ := hcell x' y' hinside
    rw [hplace, lastGray_concat]
    exact getElem?_stored x y value hinside haddressed.inside hold

lemma release_of_held {r : Raster} {p : Array UInt8} (h : r.pixels = some p) :
    ∃ released, Raster.release (some r) = .ok released ∧ released.width = r.width ∧
      released.height = r.height ∧ released.pixels = none := by
  unfold Raster.release
  dsimp only
  rw [h]
  exact ⟨_, rfl, rfl, rfl, rfl⟩

lemma release_of_gone {r : Raster} (h : r.pixels = none) :
    Raster.release (some r) = .error (.kind .released) := by
  unfold Raster.release
  dsimp only
  rw [h]

/-- The first release succeeds. -/
lemma call_release_first {width height : Int64} {calls : List Call} {r : Raster}
    (h : Shows width height calls r) (hfirst : .release ∉ calls) :
    (r.call .release).2 = .ok () ∧ Shows width height (calls ++ [.release]) (r.call .release).1 := by
  obtain ⟨p, hp, -⟩ := h.held hfirst
  obtain ⟨released, hreleased, hwidth, hheight, hgone⟩ := release_of_held hp
  have hcall : r.call .release = (released, .ok ()) := by
    unfold Raster.call
    rw [hreleased]
  rw [hcall]
  refine ⟨rfl, shows_of_gone ?_ ?_ (by simp) hgone⟩
  · rw [hwidth]
    exact h.width_eq
  · rw [hheight]
    exact h.height_eq

/-- A later release is refused and changes nothing. -/
lemma call_release_later {width height : Int64} {calls : List Call} {r : Raster}
    (h : Shows width height calls r) (hlater : .release ∈ calls) :
    r.call .release = (r, .error (.kind .released)) := by
  unfold Raster.call
  rw [release_of_gone (h.gone hlater)]

lemma call_shows {width height : Int64} {calls : List Call} {r : Raster} (c : Call)
    (h : Shows width height calls r) : Shows width height (calls ++ [c]) (r.call c).1 := by
  cases c with
  | setGray x y value => exact setGray_shows x y value h
  | release =>
    by_cases hlater : .release ∈ calls
    · rw [call_release_later h hlater]
      exact shows_of_gone h.width_eq h.height_eq (by simp) (h.gone hlater)
    · exact (call_release_first h hlater).2

lemma after_shows {width height : Int64} {before : List Call} {r : Raster} (calls : List Call)
    (h : Shows width height before r) : Shows width height (before ++ calls) (r.after calls) := by
  induction calls generalizing before r with
  | nil => rwa [List.append_nil]
  | cons c calls ih =>
    have hrest := ih (call_shows c h)
    rwa [List.append_assoc, List.singleton_append] at hrest

lemma contains_iff {width height : Int64} {calls : List Call} {r : Raster}
    (h : Shows width height calls r) (x y : Int64) :
    r.Contains x y ↔ 0 ≤ x.toInt ∧ x.toInt < width.toInt ∧ 0 ≤ y.toInt ∧ y.toInt < height.toInt := by
  rw [← h.width_eq, ← h.height_eq]
  rfl

/-- What is read at a position, of a raster that shows its calls. -/
lemma grayAt_of_shows {width height : Int64} {calls : List Call} {r : Raster}
    (h : Shows width height calls r) (x y : Int64) :
    r.grayAt x y = if r.Contains x y ∧ .release ∉ calls then lastGray calls x y else 0 := by
  unfold grayAt
  by_cases hreleased : .release ∈ calls
  · rw [h.gone hreleased, if_neg fun hboth => hboth.2 hreleased]
  · obtain ⟨p, hp, -, hcell⟩ := h.held hreleased
    rw [hp]
    dsimp only
    by_cases hinside : r.Contains x y
    · rw [if_pos hinside, if_pos ⟨hinside, hreleased⟩, Array.getD_eq_getD_getElem?,
        (hcell x y hinside).2, Option.getD_some]
    · rw [if_neg hinside, if_neg fun hboth => hinside hboth.1]

/-- A raster is a bounded map over any run of calls. After each run it shows the calls: the sides stay,
the buffer is gone or holds the last values in row-major order at places that never wrap and never leave
it. What is read at a position is the value last stored there, and zero outside or after a release; the
first release succeeds, and every later one is refused and changes nothing. -/
theorem raster_is_pixel_map {width height cap : Int64} {r : Raster}
    (h : Raster.new width height cap = .ok r) (calls : List Call) :
    Shows width height calls (r.after calls) ∧
    (∀ x y : Int64, (r.after calls).grayAt x y =
      if (0 ≤ x.toInt ∧ x.toInt < width.toInt ∧ 0 ≤ y.toInt ∧ y.toInt < height.toInt) ∧
        .release ∉ calls then lastGray calls x y else 0) ∧
    (.release ∉ calls → ((r.after calls).call .release).2 = .ok ()) ∧
    (.release ∈ calls →
      (r.after calls).call .release = (r.after calls, .error (.kind .released))) := by
  have hshows := after_shows calls (new_shows h)
  refine ⟨hshows, fun x y => ?_, fun hfirst => (call_release_first hshows hfirst).1,
    call_release_later hshows⟩
  rw [grayAt_of_shows hshows]
  exact if_congr (and_congr_left' (contains_iff hshows x y)) rfl rfl

/-- Three by two pixels: a value is stored, replaced and read back, one outside is dropped, and all are
gone after a release. -/
theorem raster_is_pixel_map_three_by_two :
    let calls : List Call := [.setGray 2 1 9, .setGray 2 1 200, .setGray 3 0 99, .setGray (-1) 1 7]
    ∃ r, Raster.new 3 2 6 = .ok r ∧ (r.after calls).grayAt 2 1 = 200 ∧
      (r.after calls).grayAt 3 0 = 0 ∧ (r.after (calls ++ [.release])).grayAt 2 1 = 0 ∧
      ((r.after (calls ++ [.release])).call .release).2 = .error (.kind .released) := by
  intro calls
  let r : Raster :=
    ⟨3, 2, some #[0, 0, 0, 0, 0, 0], by decide, by decide, by rintro p ⟨⟩; rfl, by decide⟩
  have hnew : Raster.new 3 2 6 = .ok r :=
    build_eq_ok_iff.mpr ⟨by decide, by decide, by decide, by decide, rfl, rfl, _, rfl, rfl⟩
  obtain ⟨-, hgray, -⟩ := raster_is_pixel_map hnew calls
  obtain ⟨-, hgone, -, hrefused⟩ := raster_is_pixel_map hnew (calls ++ [.release])
  refine ⟨r, hnew, ?_, ?_, ?_, ?_⟩
  · rw [hgray]
    decide
  · rw [hgray]
    decide
  · rw [hgone]
    decide
  · rw [hrefused (by decide)]

end EscapeTime.Proofs
