import EscapeTime.Proofs.ImageFit
import EscapeTime.Proofs.ReadFailures

/-!
# Files that are cut short or go on

A read takes the header and one byte for each pixel, and what it has taken settles the answer: the bytes
after it may be anything, and a file that ends before it is out of format. No cut makes a shorter file
that can be read, since a number counts only with the blank that ends it.
-/

namespace EscapeTime.Proofs
open Graymap

/-- How many bytes a read takes: those of the header and one for each pixel it announces. -/
def bytesRead (bs : List UInt8) : Nat :=
  match readHeader bs with
  | .error _ => 0
  | .ok header => bs.length - header.rest.length + header.width.toInt.toNat * header.height.toInt.toNat

/-- The bytes after the pixels have no part in what a file depicts. -/
lemma depicts_with_rest {l : Layout} {cap : Int} {width height : Nat} {pixels : Array UInt8}
    (h : l.Depicts cap width height pixels) (rest : List UInt8) :
    Layout.Depicts { l with rest := rest } cap width height pixels :=
  ⟨h.announced, h.width_pos, h.height_pos, h.within_cap, h.within_limit, h.pixels_eq, h.size_pixels⟩

lemma bytesRead_of_depicts {l : Layout} {cap : Int} {width height : Nat} {pixels : Array UInt8}
    (h : l.Depicts cap width height pixels) :
    bytesRead l.bytes = (l.toFields.bytes ++ l.pixels).length := by
  obtain ⟨hwidth, hheight⟩ := toInt_ofNat_sides h.width_pos h.height_pos h.within_limit
  unfold bytesRead
  rw [readHeader_of_depicts h]
  dsimp only
  rw [hwidth, hheight, Int.toNat_natCast, Int.toNat_natCast, ← h.size_pixels]
  simp only [Layout.bytes, List.length_append]
  omega

lemma take_bytesRead {l : Layout} {cap : Int} {width height : Nat} {pixels : Array UInt8}
    (h : l.Depicts cap width height pixels) :
    l.bytes.take (bytesRead l.bytes) = l.toFields.bytes ++ l.pixels := by
  rw [bytesRead_of_depicts h]
  unfold Layout.bytes
  rw [← List.append_assoc, List.take_left]

lemma decode_take_append {bs : List UInt8} {maxPixels : Int64} {r : Raster}
    (h : decode bs maxPixels = .ok r) (rest : List UInt8) :
    decode (bs.take (bytesRead bs) ++ rest) maxPixels = .ok r := by
  obtain ⟨pixels, hpixels, l, rfl, hdepicts⟩ := depicts_of_decode h
  have hbytes : l.bytes.take (bytesRead l.bytes) ++ rest = Layout.bytes { l with rest := rest } := by
    rw [take_bytesRead hdepicts, List.append_assoc]
    rfl
  rw [hbytes]
  exact decode_eq_of_depicts hpixels (depicts_with_rest hdepicts rest)

lemma bytesRead_le {bs : List UInt8} {maxPixels : Int64} {r : Raster}
    (h : decode bs maxPixels = .ok r) : bytesRead bs ≤ bs.length := by
  obtain ⟨pixels, -, l, rfl, hdepicts⟩ := depicts_of_decode h
  rw [bytesRead_of_depicts hdepicts]
  simp only [Layout.bytes, List.length_append]
  omega

lemma bytesRead_append {bs : List UInt8} {maxPixels : Int64} {r : Raster}
    (h : decode bs maxPixels = .ok r) (more : List UInt8) : bytesRead (bs ++ more) = bytesRead bs := by
  obtain ⟨pixels, -, l, rfl, hdepicts⟩ := depicts_of_decode h
  have hbytes : l.bytes ++ more = Layout.bytes { l with rest := l.rest ++ more } := by
    simp only [Layout.bytes, List.append_assoc]
  rw [hbytes, bytesRead_of_depicts (depicts_with_rest hdepicts _), bytesRead_of_depicts hdepicts]

lemma startsOversized_append {bs : List UInt8} {cap : Int} (h : StartsOversized bs cap)
    (more : List UInt8) : StartsOversized (bs ++ more) cap := by
  obtain ⟨f, width, height, rest, rfl, hover⟩ := h
  exact ⟨f, width, height, rest ++ more, List.append_assoc _ _ _, hover⟩

/-- A file that ends before its last pixel is out of format. -/
lemma decode_take_of_lt {bs : List UInt8} {maxPixels : Int64} {r : Raster}
    (h : decode bs maxPixels = .ok r) {j : Nat} (hj : j < bytesRead bs) :
    ∃ f, decode (bs.take j) maxPixels = .error f ∧ Blames f .format := by
  have hwhole : bs.take j ++ bs.drop j = bs := List.take_append_drop j bs
  cases hcut : decode (bs.take j) maxPixels with
  | ok read =>
    -- The cut file would take as many bytes as the whole one, and it does not have them.
    have hsame := bytesRead_append hcut (bs.drop j)
    have hle := bytesRead_le hcut
    rw [hwhole] at hsame
    rw [← hsame, List.length_take] at hle
    omega
  | error f =>
    refine ⟨f, rfl, blames_format_of_decode hcut ?_⟩
    -- A header that asks for too much would be that of the whole file, which was read.
    intro hlarge
    have hstarts := startsOversized_append hlarge (bs.drop j)
    rw [hwhole] at hstarts
    obtain ⟨g, hg⟩ := (decode_failsByHeader bs maxPixels).fails hstarts
    rw [h] at hg
    cases hg

/-- A written image whose sides ask for no more than the cap has as many pixels as they ask for. -/
lemma isImage_of_save {t : Tree} {path : String} {g : Graymap} {maxPixels : Int64}
    (hsave : (save t path g).2 = .ok ()) (hfits : g.pixels.size ≤ Memory.limit)
    (hcap : g.width.toInt * g.height.toInt ≤ pixelCap maxPixels) : IsImage g := by
  have hcapmax := Int64.toInt_lt (if maxPixels ≤ 0 then defaultCap else maxPixels)
  rw [toInt_cap] at hcapmax
  rcases check_eq_ok_iff_fits_or_wraps.mp (save_eq_ok hsave).1 with h | hwraps
  · exact ⟨h.width_pos, h.height_pos, h.size_pixels, hfits⟩
  · have hsize : (g.pixels.size : Int) ≤ maxInt := by
      unfold Memory.limit at hfits
      unfold maxInt
      omega
    have hlarge := two_pow_le_of_wrapsToSize hwraps hsize
    omega

lemma bytesRead_encode {g : Graymap} (h : IsImage g) : bytesRead g.encode = g.encode.length := by
  obtain ⟨l, hbytes, hrest, hdepicts⟩ := encode_depicts h (Int.le_refl _)
  rw [← hbytes, bytesRead_of_depicts hdepicts]
  unfold Layout.bytes
  rw [hrest, List.append_nil]

/-- Trailing bytes do not matter and every cut is noticed. After the bytes that a successful read has
taken the input may go on in any way, and before the last of them it may not end: that is a failure of
format. A written file, with its pixels in one buffer and no more of them than the cap, has no byte more
than a read takes, so it is read as a whole and from no proper part. -/
theorem truncation_noticed :
    (∀ (bs : List UInt8) (maxPixels : Int64) (r : Raster), decode bs maxPixels = .ok r →
      bytesRead bs ≤ bs.length ∧
      (∀ rest, decode (bs.take (bytesRead bs) ++ rest) maxPixels = .ok r) ∧
      ∀ j < bytesRead bs, ∃ f, decode (bs.take j) maxPixels = .error f ∧ Blames f .format) ∧
    ∀ (t : Tree) (path : String) (g : Graymap) (maxPixels : Int64), (save t path g).2 = .ok () →
      g.pixels.size ≤ Memory.limit → g.width.toInt * g.height.toInt ≤ pixelCap maxPixels →
      ∃ file, (save t path g).1.read? path = some file ∧ (∃ r, decode file maxPixels = .ok r) ∧
        ∀ j < file.length, ∃ f, decode (file.take j) maxPixels = .error f ∧ Blames f .format := by
  constructor
  · intro bs maxPixels r h
    exact ⟨bytesRead_le h, decode_take_append h, fun j hj => decode_take_of_lt h hj⟩
  · intro t path g maxPixels hsave hfits hcap
    have himage := isImage_of_save hsave hfits hcap
    obtain ⟨r, hdecode, -⟩ := decode_encode himage hcap
    refine ⟨g.encode, read?_save hsave, ⟨r, hdecode⟩, fun j hj => ?_⟩
    rw [← bytesRead_encode himage] at hj
    exact decode_take_of_lt hdecode hj

/-- The header of the first file has comments, a sign and leading zeros, and the cut is between its last
number and the blank that ends it; the second one is written and has a single pixel. -/
theorem truncation_noticed_before_blank :
    let bs : List UInt8 := "# x\n P5 +2\t01\n#\n0255\n#Arest".toList.map Char.toUInt8
    let read : Raster := ⟨2, 1, some #[0x23, 0x41], by decide, by decide, by rintro p ⟨⟩; rfl, by decide⟩
    let g : Graymap := ⟨1, 1, #[0x37]⟩
    decode bs 2 = .ok read ∧ bytesRead bs = 23 ∧
      decode (bs.take 23 ++ [0x30]) 2 = .ok read ∧
      (∃ f, decode (bs.take 20) 2 = .error f ∧ Blames f .format) ∧
      (save .scratch "a.pgm" g).2 = .ok () ∧
      ∃ file, (save .scratch "a.pgm" g).1.read? "a.pgm" = some file ∧ (∃ r, decode file 0 = .ok r) ∧
        ∀ j < file.length, ∃ f, decode (file.take j) 0 = .error f ∧ Blames f .format := by
  intro bs read g
  have hdecode : decode bs 2 = .ok read := rfl
  have hbytes : bytesRead bs = 23 := by decide +kernel
  obtain ⟨-, hrest, hcut⟩ := truncation_noticed.1 bs 2 read hdecode
  rw [hbytes] at hrest hcut
  have hsave : (save .scratch "a.pgm" g).2 = .ok () := by decide +kernel
  exact ⟨hdecode, hbytes, hrest [0x30], hcut 20 (by decide), hsave,
    truncation_noticed.2 .scratch "a.pgm" g 0 hsave (by decide) (by decide)⟩

end EscapeTime.Proofs
