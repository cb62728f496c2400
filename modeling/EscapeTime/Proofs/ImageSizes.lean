import EscapeTime.Image.Grid
import EscapeTime.Image.Raster
import Mathlib.Tactic.Common

/-!
# Sizes of images

When the checked products and allocations succeed, and what they then give. The conditions are on
the product of the sides over the unbounded integers.
-/

namespace EscapeTime.Proofs

/-- The sides of what fits into a buffer are machine integers. -/
lemma toInt_ofNat_sides {width height : Nat} (hw : 0 < width) (hh : 0 < height)
    (hfits : width * height ≤ Memory.limit) :
    (Int64.ofNat width).toInt = width ∧ (Int64.ofNat height).toInt = height := by
  have hwidth : width ≤ width * height := Nat.le_mul_of_pos_right width hh
  have hheight : height ≤ width * height := Nat.le_mul_of_pos_left height hw
  unfold Memory.limit at hfits
  exact ⟨Int64.toInt_ofNat_of_lt (by omega), Int64.toInt_ofNat_of_lt (by omega)⟩

lemma pixels_le_cap {width height cap n : Int64} (h : Memory.pixels width height cap = .ok n)
    (hcap : 0 < cap.toInt) : n.toInt ≤ cap.toInt := by
  unfold Memory.pixels at h
  split at h
  · cases h
  · split at h
    · cases h
    · split at h
      · cases h
      · rename_i hover
        cases h
        have hpos : 0 < cap := Int64.lt_iff_toInt_lt.mpr hcap
        exact Int64.le_iff_toInt_le.mp (Int64.not_lt.mp fun hlt => hover ⟨hpos, hlt⟩)

lemma sides_pos {width height : Int64} (hw : 0 < width.toInt) (hh : 0 < height.toInt) :
    ¬(width ≤ 0 ∨ height ≤ 0) := by
  rw [Int64.le_iff_toInt_le, Int64.le_iff_toInt_le]
  exact not_or.mpr ⟨Int.not_le.mpr hw, Int.not_le.mpr hh⟩

/-- The number of pixels is given exactly when both sides are positive and their product is a
machine integer within the cap. -/
theorem pixels_eq_ok_iff {width height cap n : Int64} :
    Memory.pixels width height cap = .ok n ↔
      0 < width.toInt ∧ 0 < height.toInt ∧ width.toInt * height.toInt ≤ maxInt ∧
        (0 < cap.toInt → width.toInt * height.toInt ≤ cap.toInt) ∧
        n.toInt = width.toInt * height.toInt := by
  constructor
  · intro h
    obtain ⟨hw, hh, hn⟩ := Memory.pixels_eq_ok h
    have hmax := Int64.toInt_lt n
    refine ⟨hw, hh, by unfold maxInt; omega, fun hcap => ?_, hn⟩
    rw [← hn]
    exact pixels_le_cap h hcap
  · rintro ⟨hw, hh, hmax, hcap, hn⟩
    have hh' : 0 < height := Int64.lt_iff_toInt_lt.mpr hh
    have hprod : (width * height).toInt = width.toInt * height.toInt :=
      toInt_mul_of_le (by omega) (by omega) hmax
    have hover : ¬(0 < cap ∧ cap < width * height) := by
      rintro ⟨hpos, hlt⟩
      have hle := hcap (Int64.lt_iff_toInt_lt.mp hpos)
      rw [Int64.lt_iff_toInt_lt, hprod] at hlt
      omega
    unfold Memory.pixels
    rw [if_neg (sides_pos hw hh),
      if_neg (fun h => Int.not_lt.mpr hmax ((maxValue_div_lt_iff hh').mp h)), if_neg hover,
      Int64.toInt_inj.mp (hn.trans hprod.symm)]

/-- Positive sides whose product is no machine integer. -/
lemma pixels_of_overflow {width height : Int64} (cap : Int64) (hw : 0 < width.toInt)
    (hh : 0 < height.toInt) (hover : maxInt < width.toInt * height.toInt) :
    Memory.pixels width height cap = .error (.cause (.overflow width height)) := by
  have hh' : 0 < height := Int64.lt_iff_toInt_lt.mpr hh
  unfold Memory.pixels
  rw [if_neg (sides_pos hw hh), if_pos ((maxValue_div_lt_iff hh').mpr hover)]

/-- Positive sides whose product is a machine integer above the cap. -/
lemma pixels_of_overLimit {width height cap : Int64} (hw : 0 < width.toInt) (hh : 0 < height.toInt)
    (hmax : width.toInt * height.toInt ≤ maxInt) (hcap : 0 < cap.toInt)
    (hover : cap.toInt < width.toInt * height.toInt) :
    Memory.pixels width height cap = .error (.cause (.overLimit (width * height) cap)) := by
  have hh' : 0 < height := Int64.lt_iff_toInt_lt.mpr hh
  have hprod : (width * height).toInt = width.toInt * height.toInt :=
    toInt_mul_of_le (by omega) (by omega) hmax
  have hexceeds : 0 < cap ∧ cap < width * height := by
    rw [Int64.lt_iff_toInt_lt, Int64.lt_iff_toInt_lt, hprod]
    exact ⟨hcap, hover⟩
  unfold Memory.pixels
  rw [if_neg (sides_pos hw hh), if_neg (fun h => Int.not_lt.mpr hmax ((maxValue_div_lt_iff hh').mp h)),
    if_pos hexceeds]

lemma reserve_of_refused {length : Int64} {size : Nat} (hpos : 0 ≤ length.toInt)
    (hover : Memory.limit < length.toInt.toNat * size) :
    Memory.reserve length size = .error (.cause (.refused .refusedLength)) := by
  have hpos' : 0 ≤ length := Int64.le_iff_toInt_le.mpr hpos
  unfold Memory.reserve Memory.grant
  rw [if_neg (Int64.not_lt.mpr hpos'), if_pos (.inr hover)]
  rfl

lemma reserve_eq_ok_iff {length : Int64} {size n : Nat} :
    Memory.reserve length size = .ok n ↔
      0 ≤ length.toInt ∧ n = length.toInt.toNat ∧ n * size ≤ Memory.limit := by
  constructor
  · intro h
    obtain ⟨hneg, hn, hfit⟩ := Memory.reserve_eq_ok h
    exact ⟨Int64.le_iff_toInt_le.mp hneg, hn, hfit⟩
  · rintro ⟨hneg, rfl, hfit⟩
    have hneg' : 0 ≤ length := Int64.le_iff_toInt_le.mpr hneg
    unfold Memory.reserve
    rw [if_neg (Int64.not_lt.mpr hneg'), Memory.grant_eq_ok_iff.mpr ⟨hneg, rfl, hfit⟩]
    rfl

/-- A raster is built exactly when its sides are positive, their product is within cap and buffer
limit, and the content is there; it then has these sides and this content. -/
theorem build_eq_ok_iff {width height cap : Int64}
    {content : (length : Nat) → Except Failure { p : Array UInt8 // p.size = length }} {r : Raster} :
    Raster.build width height cap content = .ok r ↔
      0 < width.toInt ∧ 0 < height.toInt ∧ width.toInt * height.toInt ≤ Memory.limit ∧
        (0 < cap.toInt → width.toInt * height.toInt ≤ cap.toInt) ∧
        r.width = width.toInt.toNat ∧ r.height = height.toInt.toNat ∧
        ∃ p, content (width.toInt.toNat * height.toInt.toNat) = .ok p ∧ r.pixels = some p.val := by
  constructor
  · intro h
    unfold Raster.build at h
    split at h
    · cases h
    · rename_i n hp
      split at h
      · cases h
      · rename_i length hr
        split at h
        · cases h
        · rename_i p hcontent
          cases h
          obtain ⟨hw, hh, -, hcap, hn⟩ := pixels_eq_ok_iff.mp hp
          obtain ⟨-, -, hlength, hfit⟩ := Raster.fits_of_reserve hp hr
          subst hlength
          refine ⟨hw, hh, ?_, hcap, rfl, rfl, p, hcontent, rfl⟩
          rw [← Int.toNat_mul (Int.le_of_lt hw) (Int.le_of_lt hh)] at hfit
          omega
  · rintro ⟨hw, hh, hfit, hcap, hwidth, hheight, p, hcontent, hpixels⟩
    have hprod : 0 < width.toInt * height.toInt := Int.mul_pos hw hh
    have hmax : width.toInt * height.toInt ≤ maxInt := by
      unfold Memory.limit at hfit
      unfold maxInt
      omega
    have hmul : (width * height).toInt = width.toInt * height.toInt :=
      toInt_mul_of_le (by omega) (by omega) hmax
    have hpix : Memory.pixels width height cap = .ok (width * height) :=
      pixels_eq_ok_iff.mpr ⟨hw, hh, hmax, hcap, hmul⟩
    have hlength : (width * height).toInt.toNat = width.toInt.toNat * height.toInt.toNat := by
      rw [hmul, Int.toNat_mul (Int.le_of_lt hw) (Int.le_of_lt hh)]
    have hres : Memory.reserve (width * height) 1 =
        .ok (width.toInt.toNat * height.toInt.toNat) :=
      reserve_eq_ok_iff.mpr ⟨by omega, hlength.symm, by omega⟩
    unfold Raster.build
    split
    · rename_i f hp
      rw [hpix] at hp
      cases hp
    · rename_i n hp
      cases hpix.symm.trans hp
      split
      · rename_i f hr
        rw [hres] at hr
        cases hr
      · rename_i length hr
        cases hres.symm.trans hr
        rw [hcontent]
        exact congrArg Except.ok (Raster.ext hwidth.symm hheight.symm hpixels.symm)

/-- A raster fails as its number of pixels, its buffer or its content does, in this order. -/
lemma build_map_pixels (width height cap : Int64)
    (content : (length : Nat) → Except Failure { p : Array UInt8 // p.size = length }) :
    (Raster.build width height cap content).map Raster.pixels =
      (Memory.pixels width height cap >>= fun n => Memory.reserve n 1) >>= fun length =>
        (content length).map fun p => some p.val := by
  unfold Raster.build
  split
  · rename_i f hpixels
    rw [hpixels]
    rfl
  · rename_i n hpixels
    split
    · rename_i f hreserve
      have hsized : (Memory.pixels width height cap >>= fun n => Memory.reserve n 1) = .error f := by
        rw [hpixels]
        exact hreserve
      rw [hsized]
      rfl
    · rename_i length hreserve
      have hsized : (Memory.pixels width height cap >>= fun n => Memory.reserve n 1) = .ok length := by
        rw [hpixels]
        exact hreserve
      rw [hsized]
      change _ = (content length).map _
      cases content length <;> rfl

lemma new_grid_eq_ok {rows cols cap : Int64} {g : Grid} (h : Grid.new rows cols cap = .ok g) :
    2 ≤ rows.toInt ∧ 2 ≤ cols.toInt ∧ g.rows = rows.toInt.toNat ∧ g.cols = cols.toInt.toNat := by
  unfold Grid.new at h
  split at h
  · cases h
  · rename_i hshape
    split at h
    · cases h
    · split at h
      · cases h
      · cases h
        have hr := Grid.two_le_toNat fun hlt => hshape (Or.inl hlt)
        have hc := Grid.two_le_toNat fun hlt => hshape (Or.inr hlt)
        exact ⟨by omega, by omega, rfl, rfl⟩

lemma new_grid_size {rows cols cap : Int64} {g : Grid} (h : Grid.new rows cols cap = .ok g) :
    (g.size : Int) = rows.toInt * cols.toInt := by
  obtain ⟨htworows, htwocols, hrows, hcols⟩ := new_grid_eq_ok h
  rw [Grid.size, g.size_counts, hrows, hcols, Int.natCast_mul, Int.toNat_of_nonneg (by omega),
    Int.toNat_of_nonneg (by omega)]

/-- A grid with two rows and columns is refused as its number of samples and its buffer are, and its
counts are that buffer. -/
lemma new_grid_map_counts {rows cols : Int64} (cap : Int64) (hrows : 2 ≤ rows.toInt)
    (hcols : 2 ≤ cols.toInt) :
    (Grid.new rows cols cap).map Grid.counts =
      Memory.pixels cols rows cap >>= fun n => Memory.allocate n Grid.countSize 0 := by
  have htwo : (2 : Int64).toInt = 2 := by decide
  have hshape : ¬(rows < 2 ∨ cols < 2) := by
    rw [Int64.lt_iff_toInt_lt, Int64.lt_iff_toInt_lt]
    omega
  unfold Grid.new
  rw [dif_neg hshape]
  split
  · rename_i f hpixels
    rw [hpixels]
    rfl
  · rename_i n hpixels
    have hsized : (Memory.pixels cols rows cap >>= fun n => Memory.allocate n Grid.countSize 0) =
        Memory.allocate n Grid.countSize (0 : Int32) := by
      rw [hpixels]
      rfl
    rw [hsized]
    split
    · rename_i f hallocate
      exact hallocate.symm
    · rename_i counts hallocate
      exact hallocate.symm

lemma new_grid_map_size {rows cols : Int64} (cap : Int64) (hrows : 2 ≤ rows.toInt)
    (hcols : 2 ≤ cols.toInt) :
    (Grid.new rows cols cap).map Grid.size =
      Memory.pixels cols rows cap >>= fun n => Memory.reserve n Grid.countSize := by
  have hsize : (Grid.new rows cols cap).map Grid.size =
      ((Grid.new rows cols cap).map Grid.counts).map Array.size := by
    cases Grid.new rows cols cap <;> rfl
  rw [hsize, new_grid_map_counts cap hrows hcols]
  cases Memory.pixels cols rows cap with
  | error f => rfl
  | ok n =>
    change ((Memory.reserve n Grid.countSize).map _).map _ = Memory.reserve n Grid.countSize
    cases Memory.reserve n Grid.countSize with
    | error f => rfl
    | ok length => exact congrArg Except.ok Array.size_replicate

end EscapeTime.Proofs
