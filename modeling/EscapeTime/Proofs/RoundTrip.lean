import EscapeTime.Proofs.FileWrites
import EscapeTime.Proofs.HeaderGrammar

/-!
# Writing and reading back

The file of an image is one of the grammar: single blanks, no comments, numerals without signs or
leading zeros. Reading it therefore gives the image again, and an image that was read from any file
can be written and is read back unchanged.
-/

namespace EscapeTime.Proofs
open Graymap

/-- Both sides are positive and there are as many pixels as they ask for, all in one buffer. -/
structure IsImage (g : Graymap) : Prop where
  width_pos : 1 ≤ g.width.toInt
  height_pos : 1 ≤ g.height.toInt
  size_pixels : (g.pixels.size : Int) = g.width.toInt * g.height.toInt
  fits : g.pixels.size ≤ Memory.limit

lemma check_of_isImage {g : Graymap} (h : IsImage g) : g.check = .ok () := by
  have hfits := h.fits
  unfold Memory.limit at hfits
  have hw := h.width_pos
  have hh := h.height_pos
  have hsize := h.size_pixels
  have hsides : ¬(g.width ≤ 0 ∨ g.height ≤ 0) := by
    rintro (hle | hle)
    · have hle' : g.width.toInt ≤ 0 := Int64.le_iff_toInt_le.mp hle
      omega
    · have hle' : g.height.toInt ≤ 0 := Int64.le_iff_toInt_le.mp hle
      omega
  have hprod : (g.width * g.height).toInt = g.pixels.size := by
    rw [toInt_mul_of_le (by omega) (by omega) (by unfold maxInt; omega), hsize]
  unfold check
  rw [if_neg hsides, if_neg (not_not_intro (eq_ofNat_of_toInt hprod).symm)]

lemma isWord_magic : IsWord magic where
  ne_nil := List.cons_ne_nil _ _
  no_blank := by
    intro b hb
    simp only [magic, List.mem_cons, List.not_mem_nil, or_false] at hb
    rcases hb with rfl | rfl
    · rfl
    · rfl
  no_comment := by decide

def bareField (word : List UInt8) (blank : UInt8) (isWord : IsWord word)
    (isBlank_blank : isBlank blank = true) : Lexeme :=
  ⟨[], word, blank, Gap.nil, isWord, isBlank_blank⟩

def writtenLayout (width height : Nat) (pixels : List UInt8) : Layout where
  magic := bareField magic 0x0a isWord_magic rfl
  width := bareField (numeralWord width) 0x20 (isWord_of_isDigits (isDigits_numeralWord width)) rfl
  height := bareField (numeralWord height) 0x0a (isWord_of_isDigits (isDigits_numeralWord height)) rfl
  value := bareField (numeralWord 255) 0x0a (isWord_of_isDigits (isDigits_numeralWord 255)) rfl
  pixels := pixels
  rest := []

lemma encode_eq_bytes {g : Graymap} {width height : Nat} (hwidth : g.width.toInt = width)
    (hheight : g.height.toInt = height) :
    g.encode = (writtenLayout width height g.pixels.toList).bytes := by
  unfold encode headerBytes headerChars
  rw [hwidth, hheight]
  simp only [Layout.bytes, Fields.bytes, Lexeme.bytes, writtenLayout, bareField, List.map_append,
    List.append_assoc, List.nil_append, List.append_nil]
  rfl

lemma writtenLayout_depicts {cap : Int} {width height : Nat} {pixels : Array UInt8} (hw : 1 ≤ width)
    (hh : 1 ≤ height) (hsize : pixels.size = width * height) (hfits : pixels.size ≤ Memory.limit)
    (hcap : (width * height : Int) ≤ cap) :
    (writtenLayout width height pixels.toList).Depicts cap width height pixels where
  announced := ⟨rfl, spells_numeralWord width, spells_numeralWord height, spells_numeralWord 255⟩
  width_pos := hw
  height_pos := hh
  within_cap := hcap
  within_limit := hsize ▸ hfits
  pixels_eq := rfl
  size_pixels := hsize

/-- The file of an image has a layout that depicts it, and nothing follows the pixels. -/
lemma encode_depicts {g : Graymap} (h : IsImage g) {cap : Int}
    (hcap : g.width.toInt * g.height.toInt ≤ cap) :
    ∃ l : Layout, l.bytes = g.encode ∧ l.rest = [] ∧
      l.Depicts cap g.width.toInt.toNat g.height.toInt.toNat g.pixels := by
  obtain ⟨width, hwidth⟩ := Int.eq_ofNat_of_zero_le (Int.le_of_lt h.width_pos)
  obtain ⟨height, hheight⟩ := Int.eq_ofNat_of_zero_le (Int.le_of_lt h.height_pos)
  have hw := h.width_pos
  have hh := h.height_pos
  have hsize := h.size_pixels
  rw [hwidth] at hw hsize hcap
  rw [hheight] at hh hsize hcap
  refine ⟨writtenLayout width height g.pixels.toList, (encode_eq_bytes hwidth hheight).symm, rfl, ?_⟩
  rw [hwidth, hheight, Int.toNat_natCast, Int.toNat_natCast]
  exact writtenLayout_depicts (by omega) (by omega) (Int.ofNat_inj.mp hsize) h.fits hcap

/-- The file of an image is read as that image. -/
theorem decode_encode {g : Graymap} (h : IsImage g) {maxPixels : Int64}
    (hcap : g.width.toInt * g.height.toInt ≤ pixelCap maxPixels) :
    ∃ r, decode g.encode maxPixels = .ok r ∧
      (r.width : Int) = g.width.toInt ∧ (r.height : Int) = g.height.toInt ∧ r.pixels = some g.pixels := by
  have hw := h.width_pos
  have hh := h.height_pos
  obtain ⟨l, hbytes, -, hdepicts⟩ := encode_depicts h hcap
  obtain ⟨r, hdecode, hwidth, hheight, hpixels⟩ := decode_of_depicts hdepicts
  rw [← hbytes]
  exact ⟨r, hdecode, by omega, by omega, hpixels⟩

lemma isImage_ofRaster {r : Raster} {pixels : Array UInt8} (h : r.pixels = some pixels) :
    IsImage (ofRaster r) ∧ (ofRaster r).width.toInt = r.width ∧
      (ofRaster r).height.toInt = r.height ∧ (ofRaster r).pixels = pixels := by
  obtain ⟨hwidth, hheight⟩ := toInt_ofNat_sides r.width_pos r.height_pos r.fits
  have hpixels : (ofRaster r).pixels = pixels := by
    unfold ofRaster
    rw [h, Option.getD_some]
  have hsize := r.size_pixels pixels h
  have hw := r.width_pos
  have hh := r.height_pos
  refine ⟨⟨?_, ?_, ?_, ?_⟩, hwidth, hheight, hpixels⟩
  · change 1 ≤ (Int64.ofNat r.width).toInt
    omega
  · change 1 ≤ (Int64.ofNat r.height).toInt
    omega
  · rw [hpixels, hsize, Int.natCast_mul]
    exact congrArg₂ _ hwidth.symm hheight.symm
  · rw [hpixels, hsize]
    exact r.fits

lemma decode_encode_ofRaster {r : Raster} {pixels : Array UInt8} (h : r.pixels = some pixels)
    {maxPixels : Int64} (hcap : (r.width * r.height : Int) ≤ pixelCap maxPixels) :
    decode (ofRaster r).encode maxPixels = .ok r := by
  obtain ⟨himage, hwidth, hheight, hpixels⟩ := isImage_ofRaster h
  rw [← hwidth, ← hheight] at hcap
  obtain ⟨read, hdecode, hreadwidth, hreadheight, hread⟩ := decode_encode himage hcap
  rw [hwidth] at hreadwidth
  rw [hheight] at hreadheight
  rw [hpixels, ← h] at hread
  rw [hdecode]
  exact congrArg Except.ok
    (Raster.ext (Int.ofNat_inj.mp hreadwidth) (Int.ofNat_inj.mp hreadheight) hread)

/-- The raster is what reading the file at the path gives. -/
def ReadsAs (t : Tree) (path : String) (maxPixels : Int64) (r : Raster) : Prop :=
  ∃ bytes, t.read? path = some bytes ∧ decode bytes maxPixels = .ok r

/-- Reading undoes writing. Whatever was at the path, a written image is read back under every cap
that has room for it; and a raster that was read from any bytes passes the check, is written wherever
a regular file can be opened, and comes back from there. -/
theorem decode_save :
    (∀ (t : Tree) (path : String) (g : Graymap) (maxPixels : Int64), IsImage g →
      g.width.toInt * g.height.toInt ≤ pixelCap maxPixels → (save t path g).2 = .ok () →
      ∃ r, ReadsAs (save t path g).1 path maxPixels r ∧ (r.width : Int) = g.width.toInt ∧
        (r.height : Int) = g.height.toInt ∧ r.pixels = some g.pixels) ∧
    ∀ (bs : List UInt8) (maxPixels : Int64) (r : Raster), decode bs maxPixels = .ok r →
      (ofRaster r).check = .ok () ∧ ∀ (t : Tree) (path : String),
        ((save t path (ofRaster r)).2 = .ok () ↔
          ∃ opened place, t.openEmpty path = .ok (opened, .file place)) ∧
        ((save t path (ofRaster r)).2 = .ok () →
          ReadsAs (save t path (ofRaster r)).1 path maxPixels r) := by
  constructor
  · intro t path g maxPixels himage hcap hsave
    obtain ⟨r, hdecode, hraster⟩ := decode_encode himage hcap
    exact ⟨r, ⟨g.encode, read?_save hsave, hdecode⟩, hraster⟩
  · intro bs maxPixels r h
    obtain ⟨pixels, hpixels, l, -, hdepicts⟩ := depicts_of_decode h
    have hcheck := check_of_isImage (isImage_ofRaster hpixels).1
    refine ⟨hcheck, fun t path => ⟨⟨?_, ?_⟩, ?_⟩⟩
    · intro hsave
      exact (save_eq_ok hsave).2.2
    · rintro ⟨opened, place, hopen⟩
      exact (save_file none hcheck hopen).1
    · intro hsave
      exact ⟨_, read?_save hsave, decode_encode_ofRaster hpixels hdepicts.within_cap⟩

/-- A file longer than the written one is replaced, pixels that look like a comment are read back as
pixels, and a raster from a file with comments, a sign, leading zeros and a rest comes back too. -/
theorem decode_save_two_pixels :
    let t : Tree := ⟨[(["a.pgm"], .file (List.replicate 40 0x37))], []⟩
    let g : Graymap := ⟨2, 1, #[0x23, 0x0a]⟩
    let bs : List UInt8 := "# x\n P5 +2\t01\n#\n0255\n#Arest".toList.map Char.toUInt8
    let read : Raster := ⟨2, 1, some #[0x23, 0x41], by decide, by decide, by rintro p ⟨⟩; rfl, by decide⟩
    (save t "a.pgm" g).2 = .ok () ∧
      (∃ r, ReadsAs (save t "a.pgm" g).1 "a.pgm" 2 r ∧ (r.width : Int) = 2 ∧ (r.height : Int) = 1 ∧
        r.pixels = some #[0x23, 0x0a]) ∧
      decode bs 2 = .ok read ∧ (save t "a.pgm" (ofRaster read)).2 = .ok () ∧
      ReadsAs (save t "a.pgm" (ofRaster read)).1 "a.pgm" 2 read := by
  intro t g bs read
  have hsave : (save t "a.pgm" g).2 = .ok () := by decide +kernel
  have himage : IsImage g := ⟨by decide, by decide, by decide, by decide⟩
  have hdecode : decode bs 2 = .ok read := rfl
  have hagain : (save t "a.pgm" (ofRaster read)).2 = .ok () := by decide +kernel
  exact ⟨hsave, decode_save.1 t "a.pgm" g 2 himage (by decide) hsave, hdecode, hagain,
    ((decode_save.2 bs 2 read hdecode).2 t "a.pgm").2 hagain⟩

end EscapeTime.Proofs
