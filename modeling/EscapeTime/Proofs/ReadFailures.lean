import EscapeTime.Proofs.RoundTrip
import EscapeTime.Proofs.StageEnds

/-!
# Why a file cannot be read

A read that fails has found the file out of format or too large, and which of the two is settled by the
header: only a proper header can ask for too much, and then the bytes after it are not looked at. A
larger cap never takes an image back.
-/

namespace EscapeTime.Proofs
open Graymap

lemma field_eq_error {bs : List UInt8} {f : Failure} (h : field bs = .error f) : Blames f .format := by
  unfold field at h
  split at h
  · cases h
    exact blames_cause _
  · cases h

lemma positiveField_eq_error {bs : List UInt8} {f : Failure} (h : positiveField bs = .error f) :
    Blames f .format := by
  unfold positiveField at h
  split at h
  · rename_i g hfield
    cases h
    exact field_eq_error hfield
  · split at h
    · cases h
      exact blames_cause _
    · split at h
      · cases h
        exact blames_cause _
      · cases h

lemma readHeader_eq_error {bs : List UInt8} {f : Failure} (h : readHeader bs = .error f) :
    Blames f .format := by
  unfold readHeader at h
  split at h
  · rename_i g hmagic
    cases h
    exact field_eq_error hmagic
  · split at h
    · cases h
      exact blames_cause _
    · split at h
      · rename_i g hwidth
        cases h
        exact positiveField_eq_error hwidth
      · split at h
        · rename_i g hheight
          cases h
          exact positiveField_eq_error hheight
        · split at h
          · rename_i g hvalue
            cases h
            exact positiveField_eq_error hvalue
          · split at h
            · cases h
              exact blames_cause _
            · cases h

lemma takePixels_eq_error {bs : List UInt8} {length : Nat} {f : Failure}
    (h : takePixels bs length = .error f) : Blames f .format := by
  unfold takePixels at h
  split at h
  · cases h
  · split at h
    · cases h
      exact blames_cause _
    · cases h
      exact blames_cause _

/-- The fields announce two positive machine integers as sides, and with them more pixels than the cap or
a buffer has room for. -/
structure Oversized (f : Fields) (cap : Int) (width height : Int64) : Prop where
  announced : f.Announce width.toInt height.toInt
  width_pos : 1 ≤ width.toInt
  height_pos : 1 ≤ height.toInt
  exceeds : cap < width.toInt * height.toInt ∨ Memory.limit < width.toInt * height.toInt

/-- The input starts with such a header. -/
def StartsOversized (bs : List UInt8) (cap : Int) : Prop :=
  ∃ (f : Fields) (width height : Int64) (rest : List UInt8),
    bs = f.bytes ++ rest ∧ Oversized f cap width height

/-- Too many pixels are refused by their number or by their buffer. -/
lemma pixels_reserve_of_over {width height cap : Int64} (hw : 0 < width.toInt) (hh : 0 < height.toInt)
    (hcap : 0 < cap.toInt) (hover : cap.toInt < width.toInt * height.toInt ∨
      Memory.limit < width.toInt * height.toInt) :
    ∃ f, (Memory.pixels width height cap >>= fun n => Memory.reserve n 1) = .error f ∧
      Blames f .outOfMemory := by
  have hpos : 0 < width.toInt * height.toInt := Int.mul_pos hw hh
  by_cases hmax : maxInt < width.toInt * height.toInt
  · rw [pixels_of_overflow cap hw hh hmax]
    exact ⟨_, rfl, blames_cause _⟩
  · have hmax' := Int.not_lt.mp hmax
    by_cases hlimit : cap.toInt < width.toInt * height.toInt
    · rw [pixels_of_overLimit hw hh hmax' hcap hlimit]
      exact ⟨_, rfl, blames_cause _⟩
    · have hprod := toInt_mul_of_le (a := width) (b := height) (by omega) (by omega) hmax'
      have hpixels : Memory.pixels width height cap = .ok (width * height) :=
        pixels_eq_ok_iff.mpr ⟨hw, hh, hmax', fun _ => Int.not_lt.mp hlimit, hprod⟩
      rw [hpixels]
      exact ⟨_, reserve_of_refused (by omega) (by omega), blames_cause _⟩

lemma pixels_reserve_of_within {width height cap : Int64} (hw : 0 < width.toInt) (hh : 0 < height.toInt)
    (hcap : width.toInt * height.toInt ≤ cap.toInt)
    (hfit : width.toInt * height.toInt ≤ Memory.limit) :
    ∃ length, (Memory.pixels width height cap >>= fun n => Memory.reserve n 1) = .ok length := by
  have hpos : 0 < width.toInt * height.toInt := Int.mul_pos hw hh
  have hmax : width.toInt * height.toInt ≤ maxInt := by
    have := Int64.toInt_lt cap
    unfold maxInt
    omega
  have hprod := toInt_mul_of_le (a := width) (b := height) (by omega) (by omega) hmax
  have hpixels : Memory.pixels width height cap = .ok (width * height) :=
    pixels_eq_ok_iff.mpr ⟨hw, hh, hmax, fun _ => hcap, hprod⟩
  rw [hpixels]
  exact ⟨_, reserve_eq_ok_iff.mpr ⟨by omega, rfl, by omega⟩⟩

/-- A header that asks for too much decides the failure, whatever follows it. -/
lemma decode_of_oversized {f : Fields} {maxPixels : Int64} {width height : Int64}
    (h : Oversized f (pixelCap maxPixels) width height) :
    ∃ g, Blames g .outOfMemory ∧ ∀ rest, decode (f.bytes ++ rest) maxPixels = .error g := by
  have hw := h.width_pos
  have hh := h.height_pos
  have hcap := pixelCap_pos maxPixels
  have hover := h.exceeds
  rw [← toInt_cap] at hcap hover
  obtain ⟨g, hrefused, hblames⟩ := pixels_reserve_of_over hw hh hcap hover
  refine ⟨g, hblames, fun rest => ?_⟩
  have hheader : readHeader (f.bytes ++ rest) = .ok ⟨width, height, rest⟩ :=
    readHeader_eq_ok_iff.mpr ⟨hw, hh, f, rfl, h.announced⟩
  have hbuild := build_map_pixels width height (if maxPixels ≤ 0 then defaultCap else maxPixels)
    (takePixels rest)
  rw [hrefused] at hbuild
  unfold decode
  rw [hheader]
  exact map_eq_error hbuild

/-- Every other failure is one of format. -/
lemma blames_format_of_decode {bs : List UInt8} {maxPixels : Int64} {f : Failure}
    (h : decode bs maxPixels = .error f) (hsmall : ¬StartsOversized bs (pixelCap maxPixels)) :
    Blames f .format := by
  unfold decode at h
  cases hheader : readHeader bs with
  | error g =>
    rw [hheader] at h
    cases h
    exact readHeader_eq_error hheader
  | ok header =>
    rw [hheader] at h
    dsimp only at h
    obtain ⟨hw, hh, fields, hbs, hannounce⟩ := readHeader_eq_ok_iff.mp hheader
    have hwithin : ¬(pixelCap maxPixels < header.width.toInt * header.height.toInt ∨
        Memory.limit < header.width.toInt * header.height.toInt) := by
      intro hover
      exact hsmall ⟨fields, header.width, header.height, header.rest, hbs, hannounce, hw, hh, hover⟩
    obtain ⟨hcap, hfit⟩ := not_or.mp hwithin
    rw [← toInt_cap] at hcap
    -- The pixels are granted, so it can only be their content that is missing.
    obtain ⟨length, hgranted⟩ := pixels_reserve_of_within hw hh (Int.not_lt.mp hcap) (Int.not_lt.mp hfit)
    have hbuild := build_map_pixels header.width header.height
      (if maxPixels ≤ 0 then defaultCap else maxPixels) (takePixels header.rest)
    rw [h, hgranted] at hbuild
    exact takePixels_eq_error (map_eq_error hbuild.symm)

lemma decode_eq_error {bs : List UInt8} {maxPixels : Int64} {f : Failure}
    (h : decode bs maxPixels = .error f) :
    StartsOversized bs (pixelCap maxPixels) ∧ Blames f .outOfMemory ∨
      ¬StartsOversized bs (pixelCap maxPixels) ∧ Blames f .format := by
  by_cases hlarge : StartsOversized bs (pixelCap maxPixels)
  · refine .inl ⟨hlarge, ?_⟩
    obtain ⟨fields, width, height, rest, rfl, hover⟩ := hlarge
    obtain ⟨g, hblames, hdecode⟩ := decode_of_oversized hover
    rw [hdecode rest] at h
    cases h
    exact hblames
  · exact .inr ⟨hlarge, blames_format_of_decode h hlarge⟩

/-- How the header decides a failure. One that asks for too much makes the read fail; a failure is for
want of memory exactly with such a header and of format exactly without, so it is one of the two; and it
is never for sides that are not positive. -/
structure FailsByHeader (bs : List UInt8) (maxPixels : Int64) : Prop where
  fails : StartsOversized bs (pixelCap maxPixels) → ∃ f, decode bs maxPixels = .error f
  memory_iff : ∀ f, decode bs maxPixels = .error f →
    (f.hasKind .outOfMemory = true ↔ StartsOversized bs (pixelCap maxPixels))
  format_iff : ∀ f, decode bs maxPixels = .error f →
    (f.hasKind .format = true ↔ ¬StartsOversized bs (pixelCap maxPixels))
  no_dimensions : ∀ f, decode bs maxPixels = .error f → f.hasKind .rasterDimensions = false

lemma decode_failsByHeader (bs : List UInt8) (maxPixels : Int64) : FailsByHeader bs maxPixels := by
  refine ⟨?_, ?_, ?_, ?_⟩
  · rintro ⟨fields, width, height, rest, rfl, hover⟩
    obtain ⟨g, -, hdecode⟩ := decode_of_oversized hover
    exact ⟨g, hdecode rest⟩
  · intro f hf
    rcases decode_eq_error hf with ⟨hlarge, hblames⟩ | ⟨hsmall, hblames⟩
    · simp [hblames.hasKind_eq, hlarge, Kind.countsAs]
    · simp [hblames.hasKind_eq, hsmall, Kind.countsAs, Kind.wider?]
  · intro f hf
    rcases decode_eq_error hf with ⟨hlarge, hblames⟩ | ⟨hsmall, hblames⟩
    · simp [hblames.hasKind_eq, hlarge, Kind.countsAs, Kind.wider?]
    · simp [hblames.hasKind_eq, hsmall, Kind.countsAs]
  · intro f hf
    rcases decode_eq_error hf with ⟨-, hblames⟩ | ⟨-, hblames⟩
    · simp [hblames.hasKind_eq, Kind.countsAs, Kind.wider?]
    · simp [hblames.hasKind_eq, Kind.countsAs, Kind.wider?]

/-- A file that depicts a raster within the cap is read as that raster. -/
lemma decode_eq_of_depicts {l : Layout} {maxPixels : Int64} {r : Raster} {pixels : Array UInt8}
    (hpixels : r.pixels = some pixels)
    (h : l.Depicts (pixelCap maxPixels) r.width r.height pixels) : decode l.bytes maxPixels = .ok r := by
  obtain ⟨read, hdecode, hwidth, hheight, hread⟩ := decode_of_depicts h
  rw [hdecode]
  exact congrArg Except.ok (Raster.ext hwidth hheight (hread.trans hpixels.symm))

lemma decode_of_larger_cap {bs : List UInt8} {maxPixels larger : Int64} {r : Raster}
    (h : decode bs maxPixels = .ok r) (hle : pixelCap maxPixels ≤ pixelCap larger) :
    decode bs larger = .ok r := by
  obtain ⟨pixels, hpixels, l, rfl, hdepicts⟩ := depicts_of_decode h
  exact decode_eq_of_depicts hpixels { hdepicts with within_cap := Int.le_trans hdepicts.within_cap hle }

/-- A failed read is classified by the header alone. It ends in a raster or in a failure, which has one
of two kinds by what the header asks for; where that is too much the answer does not depend on the bytes
after the header; and a raster that is read under one cap is read under every larger one. -/
theorem decode_failures_by_header :
    (∀ (bs : List UInt8) (maxPixels : Int64), FailsByHeader bs maxPixels) ∧
    (∀ (f : Fields) (maxPixels width height : Int64) (rest : List UInt8),
      Oversized f (pixelCap maxPixels) width height →
      decode (f.bytes ++ rest) maxPixels = decode f.bytes maxPixels) ∧
    ∀ (bs : List UInt8) (maxPixels larger : Int64) (r : Raster), decode bs maxPixels = .ok r →
      pixelCap maxPixels ≤ pixelCap larger → decode bs larger = .ok r := by
  refine ⟨decode_failsByHeader, ?_, fun bs maxPixels larger r => decode_of_larger_cap⟩
  intro f maxPixels width height rest hover
  obtain ⟨g, -, hdecode⟩ := decode_of_oversized hover
  have hnone := hdecode []
  rw [List.append_nil] at hnone
  rw [hdecode rest, hnone]

/-- Sides of `2 ^ 32`, whose product would wrap to zero, are refused with and without a byte after the
header; and one pixel is read under a cap of one and under the default. -/
theorem decode_failures_by_header_wrapped_sides :
    let f : Fields := (writtenLayout 4294967296 4294967296 []).toFields
    let bs : List UInt8 := "P5 1 1 255 a".toList.map Char.toUInt8
    let read : Raster := ⟨1, 1, some #[0x61], by decide, by decide, by rintro p ⟨⟩; rfl, by decide⟩
    Oversized f (pixelCap 0) 4294967296 4294967296 ∧
      (∃ g, decode (f.bytes ++ [0x61]) 0 = .error g ∧ g.hasKind .outOfMemory = true) ∧
      decode (f.bytes ++ [0x61]) 0 = decode f.bytes 0 ∧
      decode bs 1 = .ok read ∧ decode bs 0 = .ok read := by
  intro f bs read
  have hover : Oversized f (pixelCap 0) 4294967296 4294967296 :=
    ⟨⟨rfl, spells_numeralWord 4294967296, spells_numeralWord 4294967296, spells_numeralWord 255⟩,
      by decide, by decide, .inl (by decide)⟩
  have hlarge : StartsOversized (f.bytes ++ [0x61]) (pixelCap 0) := ⟨f, _, _, [0x61], rfl, hover⟩
  have hfails := decode_failures_by_header.1 (f.bytes ++ [0x61]) 0
  obtain ⟨g, hg⟩ := hfails.fails hlarge
  have hread : decode bs 1 = .ok read := rfl
  exact ⟨hover, ⟨g, hg, (hfails.memory_iff g hg).mpr hlarge⟩,
    decode_failures_by_header.2.1 f 0 _ _ [0x61] hover, hread,
    decode_failures_by_header.2.2 bs 1 0 read hread (by decide)⟩

end EscapeTime.Proofs
