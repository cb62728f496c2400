import EscapeTime.Proofs.ImageSizes
import EscapeTime.Proofs.Spelling
import Mathlib.Algebra.Ring.Int.Defs

/-!
# Files that can be read

The reader accepts exactly the files of the grammar, and a file can be cut in one way only. Each
stage of the reader is characterized by the bytes it takes off its input: a gap, a word, a field,
the header, the pixels.
-/

namespace EscapeTime.Proofs
open Graymap

lemma isBlank_commentMark : isBlank commentMark = false := by decide

lemma skipGap_comment {text : List UInt8} (h : lineEnd ∉ text) (rest : List UInt8) :
    skipGap true (text ++ lineEnd :: rest) = skipGap false rest := by
  induction text with
  | nil =>
    rw [List.nil_append, skipGap]
    simp
  | cons b text ih =>
    have hb : (b != lineEnd) = true := bne_iff_ne.mpr fun heq => h (heq ▸ List.mem_cons_self)
    rw [List.cons_append, skipGap, hb]
    exact ih fun hmem => h (List.mem_cons_of_mem b hmem)

lemma skipGap_gap {gap : List UInt8} (h : Gap gap) (rest : List UInt8) :
    skipGap false (gap ++ rest) = skipGap false rest := by
  induction h with
  | nil => rfl
  | @blank b bs hb _ ih =>
    have hne : b ≠ commentMark := by
      rintro rfl
      rw [isBlank_commentMark] at hb
      cases hb
    rw [List.cons_append, skipGap, if_neg hne, if_pos hb]
    exact ih
  | @comment text bs htext _ ih =>
    rw [List.append_assoc, List.cons_append, List.cons_append, skipGap, if_pos rfl,
      skipGap_comment htext]
    exact ih

/-- An open comment ends with its line, and what follows it is a gap. -/
lemma gap_commentMark {bs : List UInt8} (h : Gap (commentMark :: bs)) :
    ∃ text gap, bs = text ++ lineEnd :: gap ∧ lineEnd ∉ text ∧ Gap gap := by
  generalize hcons : commentMark :: bs = whole at h
  cases h with
  | nil => cases hcons
  | blank hb hgap =>
    cases hcons
    rw [isBlank_commentMark] at hb
    cases hb
  | @comment text gap htext hgap =>
    rw [List.cons_append, List.cons.injEq] at hcons
    exact ⟨text, gap, hcons.2, htext, hgap⟩

/-- What is skipped before a byte that is not is a gap, with the mark of an open comment put back. -/
lemma skipGap_splits (comment : Bool) (bs : List UInt8) :
    skipGap comment bs = [] ∨
      ∃ skipped, bs = skipped ++ skipGap comment bs ∧
        Gap (if comment then commentMark :: skipped else skipped) := by
  fun_induction skipGap comment bs with
  | case1 => exact Or.inl rfl
  | case2 b bs ih =>
    -- The comment goes on to the end of the line; there the gap after it is known from `ih`.
    obtain hnil | ⟨skipped, hbs, hgap⟩ := ih
    · exact Or.inl hnil
    · refine Or.inr ⟨b :: skipped, congrArg (b :: ·) hbs, ?_⟩
      rw [if_pos rfl]
      by_cases hb : b = lineEnd
      · rw [if_neg (by simp [hb])] at hgap
        rw [hb]
        exact @Gap.comment [] skipped List.not_mem_nil hgap
      · rw [if_pos (bne_iff_ne.mpr hb)] at hgap
        obtain ⟨text, gap, rfl, htext, hrest⟩ := gap_commentMark hgap
        exact @Gap.comment (b :: text) gap
          (List.not_mem_cons_of_ne_of_not_mem (Ne.symm hb) htext) hrest
  | case3 bs ih =>
    obtain hnil | ⟨skipped, hbs, hgap⟩ := ih
    · exact Or.inl hnil
    · exact Or.inr ⟨commentMark :: skipped, congrArg (commentMark :: ·) hbs, hgap⟩
  | case4 b bs hne hb ih =>
    obtain hnil | ⟨skipped, hbs, hgap⟩ := ih
    · exact Or.inl hnil
    · exact Or.inr ⟨b :: skipped, congrArg (b :: ·) hbs, Gap.blank hb hgap⟩
  | case5 b bs hne hb => exact Or.inr ⟨[], rfl, Gap.nil⟩

lemma head_skipGap {comment : Bool} {bs rest : List UInt8} {b : UInt8}
    (h : skipGap comment bs = b :: rest) : isBlank b = false ∧ b ≠ commentMark := by
  fun_induction skipGap comment bs with
  | case1 => cases h
  | case2 a bs ih => exact ih h
  | case3 bs ih => exact ih h
  | case4 a bs hne hb ih => exact ih h
  | case5 a bs hne hb =>
    cases h
    exact ⟨Bool.not_eq_true _ ▸ hb, hne⟩

lemma skipGap_word {word : List UInt8} (h : IsWord word) (rest : List UInt8) :
    skipGap false (word ++ rest) = word ++ rest := by
  cases word with
  | nil => exact absurd rfl h.ne_nil
  | cons b word =>
    have hne : b ≠ commentMark := fun heq => h.no_comment (congrArg some heq)
    have hb := h.no_blank b List.mem_cons_self
    rw [List.cons_append, skipGap, if_neg hne, hb]
    rfl

lemma isWord_of_skipGap {bs word rest : List UInt8} {blank : UInt8}
    (hskip : skipGap false bs = word ++ blank :: rest) (hword : ∀ b ∈ word, isBlank b = false)
    (hblank : isBlank blank = true) : IsWord word := by
  cases word with
  | nil =>
    have hhead := (head_skipGap hskip).1
    rw [hblank] at hhead
    cases hhead
  | cons b word =>
    have hhead := (head_skipGap hskip).2
    exact ⟨List.cons_ne_nil b word, hword, fun heq => hhead (Option.some.inj heq)⟩

lemma splitField_eq_some_iff {bs word rest : List UInt8} :
    splitField bs = some (word, rest) ↔
      (∀ b ∈ word, isBlank b = false) ∧ ∃ blank, isBlank blank = true ∧ bs = word ++ blank :: rest := by
  constructor
  · intro h
    have hcut := List.takeWhile_append_dropWhile (p := fun b => !isBlank b) (l := bs)
    unfold splitField at h
    split at h
    · cases h
    · rename_i blank after hdrop
      cases h
      refine ⟨fun b hb => ?_, blank, ?_, ?_⟩
      · have hall := List.all_eq_true.mp List.all_takeWhile b hb
        simpa using hall
      · have hhead := List.head?_dropWhile_not (fun b => !isBlank b) bs
        rw [hdrop] at hhead
        simpa using hhead
      · rw [hdrop] at hcut
        exact hcut.symm
  · rintro ⟨hword, blank, hblank, rfl⟩
    have hpos : ∀ b ∈ word, (!isBlank b) = true := fun b hb => by rw [hword b hb]; rfl
    unfold splitField
    rw [List.dropWhile_append_of_pos hpos, List.takeWhile_append_of_pos hpos]
    simp [hblank]

/-- A field is read exactly where the input starts with a lexeme of its word. -/
theorem field_eq_ok_iff {bs word rest : List UInt8} :
    field bs = .ok (word, rest) ↔ ∃ l : Lexeme, l.word = word ∧ bs = l.bytes ++ rest := by
  constructor
  · intro h
    unfold field at h
    split at h
    · cases h
    · rename_i split hsplit
      cases h
      obtain ⟨hword, blank, hblank, hskip⟩ := splitField_eq_some_iff.mp hsplit
      obtain hnil | ⟨gap, hbs, hgap⟩ := skipGap_splits false bs
      · rw [hnil] at hskip
        cases List.append_ne_nil_of_right_ne_nil _ (List.cons_ne_nil _ _) hskip.symm
      · rw [if_neg Bool.false_ne_true] at hgap
        have hisWord := isWord_of_skipGap hskip hword hblank
        rw [hskip] at hbs
        refine ⟨⟨gap, word, blank, hgap, hisWord, hblank⟩, rfl, hbs.trans ?_⟩
        simp only [Lexeme.bytes, List.append_assoc, List.singleton_append]
  · rintro ⟨l, rfl, rfl⟩
    have hskip : skipGap false (l.bytes ++ rest) = l.word ++ l.blank :: rest := by
      unfold Lexeme.bytes
      rw [List.append_assoc, skipGap_gap l.isGap, List.append_assoc]
      exact skipGap_word l.isWord _
    have hsplit : splitField (l.word ++ l.blank :: rest) = some (l.word, rest) :=
      splitField_eq_some_iff.mpr ⟨l.isWord.no_blank, l.blank, l.isBlank_blank, rfl⟩
    unfold field
    rw [hskip, hsplit]

/-- A byte string starts with at most one lexeme. -/
theorem lexeme_unique {l m : Lexeme} {rest others : List UInt8}
    (h : l.bytes ++ rest = m.bytes ++ others) : l = m ∧ rest = others := by
  have hl : field (l.bytes ++ rest) = .ok (l.word, rest) := field_eq_ok_iff.mpr ⟨l, rfl, rfl⟩
  have hm : field (l.bytes ++ rest) = .ok (m.word, others) := field_eq_ok_iff.mpr ⟨m, rfl, h⟩
  have hread := Except.ok.inj (hl.symm.trans hm)
  rw [Prod.mk.injEq] at hread
  obtain ⟨hword, rfl⟩ := hread
  have hbytes := List.append_cancel_right h
  unfold Lexeme.bytes at hbytes
  rw [hword] at hbytes
  obtain ⟨hgap, hend⟩ := List.append_inj' hbytes (by simp)
  have hblank := List.append_cancel_left hend
  exact ⟨Lexeme.ext hgap hword (List.singleton_inj.mp hblank), rfl⟩

lemma positiveField_eq_ok_iff {bs rest : List UInt8} {n : Int64} :
    positiveField bs = .ok (n, rest) ↔
      ∃ l : Lexeme, bs = l.bytes ++ rest ∧ Spells l.word n.toInt ∧ 0 < n.toInt := by
  unfold positiveField
  constructor
  · intro h
    split at h
    · cases h
    · rename_i token after hfield
      split at h
      · cases h
      · rename_i value hvalue
        split at h
        · cases h
        · rename_i hpos
          cases h
          obtain ⟨l, rfl, hbs⟩ := field_eq_ok_iff.mp hfield
          exact ⟨l, hbs, wordValue?_eq_some_iff.mp hvalue,
            Int64.lt_iff_toInt_lt.mp (Int64.not_le.mp hpos)⟩
  · rintro ⟨l, hbs, hword, hpos⟩
    have hn : ¬ n ≤ 0 := Int64.not_le.mpr (Int64.lt_iff_toInt_lt.mpr hpos)
    rw [field_eq_ok_iff.mpr ⟨l, rfl, hbs⟩]
    dsimp only
    rw [wordValue?_eq_some_iff.mpr hword]
    dsimp only
    rw [if_neg hn]

lemma fields_bytes_append (f : Fields) (rest : List UInt8) :
    f.bytes ++ rest =
      f.magic.bytes ++ (f.width.bytes ++ (f.height.bytes ++ (f.value.bytes ++ rest))) := by
  simp only [Fields.bytes, List.append_assoc]

lemma fields_unique {f g : Fields} {rest others : List UInt8}
    (h : f.bytes ++ rest = g.bytes ++ others) : f = g ∧ rest = others := by
  rw [fields_bytes_append, fields_bytes_append] at h
  obtain ⟨hmagic, h⟩ := lexeme_unique h
  obtain ⟨hwidth, h⟩ := lexeme_unique h
  obtain ⟨hheight, h⟩ := lexeme_unique h
  obtain ⟨hvalue, h⟩ := lexeme_unique h
  exact ⟨Fields.ext hmagic hwidth hheight hvalue, h⟩

/-- A header is read exactly where the input starts with the fields that announce it. -/
theorem readHeader_eq_ok_iff {bs : List UInt8} {header : Header} :
    readHeader bs = .ok header ↔ 0 < header.width.toInt ∧ 0 < header.height.toInt ∧
      ∃ f : Fields, bs = f.bytes ++ header.rest ∧
        f.Announce header.width.toInt header.height.toInt := by
  unfold readHeader
  constructor
  · intro h
    split at h
    · cases h
    · rename_i token first hfirst
      split at h
      · cases h
      · rename_i htoken
        split at h
        · cases h
        · rename_i width second hwidth
          split at h
          · cases h
          · rename_i height third hheight
            split at h
            · cases h
            · rename_i value rest hvalue
              split at h
              · cases h
              · rename_i hmax
                cases h
                obtain ⟨m, rfl, hbs⟩ := field_eq_ok_iff.mp hfirst
                obtain ⟨w, rfl, hw, hwpos⟩ := positiveField_eq_ok_iff.mp hwidth
                obtain ⟨l, rfl, hl, hlpos⟩ := positiveField_eq_ok_iff.mp hheight
                obtain ⟨v, rfl, hv, -⟩ := positiveField_eq_ok_iff.mp hvalue
                rw [not_not.mp hmax] at hv
                refine ⟨hwpos, hlpos, ⟨m, w, l, v⟩, ?_, not_not.mp htoken, hw, hl, hv⟩
                rw [fields_bytes_append]
                exact hbs
  · rintro ⟨hw, hh, f, hbs, hmagic, hwidth, hheight, hvalue⟩
    rw [fields_bytes_append] at hbs
    rw [field_eq_ok_iff.mpr ⟨f.magic, hmagic, hbs⟩]
    dsimp only
    rw [if_neg (not_not_intro rfl), positiveField_eq_ok_iff.mpr ⟨f.width, rfl, hwidth, hw⟩]
    dsimp only
    rw [positiveField_eq_ok_iff.mpr ⟨f.height, rfl, hheight, hh⟩]
    dsimp only
    have hmax : Spells f.value.word maxValue.toInt := hvalue
    rw [positiveField_eq_ok_iff.mpr ⟨f.value, rfl, hmax, by decide⟩]
    dsimp only
    rw [if_neg (not_not_intro rfl)]

lemma takePixels_eq_ok_iff {bs : List UInt8} {length : Nat} {p : { p : Array UInt8 // p.size = length }} :
    takePixels bs length = .ok p ↔ ∃ rest, bs = p.val.toList ++ rest := by
  unfold takePixels
  constructor
  · intro h
    split at h
    · cases h
      exact ⟨bs.drop length, (List.take_append_drop length bs).symm⟩
    · split at h
      · cases h
      · cases h
  · rintro ⟨rest, rfl⟩
    have hlength : p.val.toList.length = length := p.property
    have htake : ((p.val.toList ++ rest).take length).toArray = p.val := by
      rw [List.take_left' hlength]
    rw [dif_pos (by rw [List.length_append, hlength]; exact Nat.le_add_right _ _)]
    exact congrArg Except.ok (Subtype.ext htake)

/-- The most pixels that are read: those asked for, or `2 ^ 28` when none are. -/
def pixelCap (maxPixels : Int64) : Int :=
  if 0 < maxPixels.toInt then maxPixels.toInt else 2 ^ 28

lemma toInt_cap (maxPixels : Int64) :
    (if maxPixels ≤ 0 then defaultCap else maxPixels).toInt = pixelCap maxPixels := by
  have hsign : maxPixels ≤ 0 ↔ ¬ 0 < maxPixels.toInt := by
    rw [Int64.le_iff_toInt_le, Int.not_lt]
    rfl
  unfold pixelCap
  by_cases h : maxPixels ≤ 0
  · rw [if_pos h, if_neg (hsign.mp h)]
    rfl
  · rw [if_neg h, if_pos (not_not.mp fun hle => h (hsign.mpr hle))]

lemma pixelCap_pos (maxPixels : Int64) : 0 < pixelCap maxPixels := by
  unfold pixelCap
  split
  · assumption
  · decide

lemma decode_eq_ok_iff {bs : List UInt8} {maxPixels : Int64} {r : Raster} :
    decode bs maxPixels = .ok r ↔ ∃ header, readHeader bs = .ok header ∧
      Raster.build header.width header.height (if maxPixels ≤ 0 then defaultCap else maxPixels)
        (takePixels header.rest) = .ok r := by
  unfold decode
  cases hheader : readHeader bs with
  | error f =>
    constructor
    · intro h
      cases h
    · rintro ⟨header, hok, -⟩
      cases hok
  | ok header =>
    constructor
    · intro h
      exact ⟨header, rfl, h⟩
    · rintro ⟨other, hok, h⟩
      cases hok
      exact h

/-- An image that is read is the one its file depicts. -/
lemma depicts_of_decode {bs : List UInt8} {maxPixels : Int64} {r : Raster}
    (h : decode bs maxPixels = .ok r) :
    ∃ pixels, r.pixels = some pixels ∧
      ∃ l : Layout, l.bytes = bs ∧ l.Depicts (pixelCap maxPixels) r.width r.height pixels := by
  obtain ⟨header, hheader, hbuild⟩ := decode_eq_ok_iff.mp h
  obtain ⟨hw, hh, f, hbs, hannounce⟩ := readHeader_eq_ok_iff.mp hheader
  obtain ⟨-, -, -, hcap, hwidth, hheight, p, hp, hpixels⟩ := build_eq_ok_iff.mp hbuild
  obtain ⟨rest, hrest⟩ := takePixels_eq_ok_iff.mp hp
  rw [toInt_cap] at hcap
  have hwidth' : (r.width : Int) = header.width.toInt := by omega
  have hheight' : (r.height : Int) = header.height.toInt := by omega
  refine ⟨p.val, hpixels, ⟨f, p.val.toList, rest⟩, ?_, ?_⟩
  · rw [hbs, hrest]
    rfl
  · rw [← hwidth', ← hheight'] at hannounce hcap
    exact {
      announced := hannounce
      width_pos := r.width_pos
      height_pos := r.height_pos
      within_cap := hcap (pixelCap_pos maxPixels)
      within_limit := r.fits
      pixels_eq := rfl
      size_pixels := by rw [Array.length_toList, p.property, hwidth, hheight] }

lemma readHeader_of_depicts {l : Layout} {cap : Int} {width height : Nat} {pixels : Array UInt8}
    (h : l.Depicts cap width height pixels) :
    readHeader l.bytes = .ok ⟨Int64.ofNat width, Int64.ofNat height, l.pixels ++ l.rest⟩ := by
  obtain ⟨hwidth, hheight⟩ := toInt_ofNat_sides h.width_pos h.height_pos h.within_limit
  apply readHeader_eq_ok_iff.mpr
  dsimp only
  rw [hwidth, hheight]
  exact ⟨Int.natCast_pos.mpr h.width_pos, Int.natCast_pos.mpr h.height_pos, l.toFields, rfl, h.announced⟩

/-- Every file that depicts an image within the cap is read as that image. -/
lemma decode_of_depicts {l : Layout} {maxPixels : Int64} {width height : Nat} {pixels : Array UInt8}
    (h : l.Depicts (pixelCap maxPixels) width height pixels) :
    ∃ r, decode l.bytes maxPixels = .ok r ∧
      r.width = width ∧ r.height = height ∧ r.pixels = some pixels := by
  have hsize : pixels.size = width * height := by
    rw [← Array.length_toList, h.pixels_eq, h.size_pixels]
  obtain ⟨hwidth, hheight⟩ := toInt_ofNat_sides h.width_pos h.height_pos h.within_limit
  let r : Raster := {
    width := width
    height := height
    pixels := some pixels
    width_pos := h.width_pos
    height_pos := h.height_pos
    size_pixels := by
      intro p hp
      cases hp
      exact hsize
    fits := h.within_limit }
  refine ⟨r, decode_eq_ok_iff.mpr ⟨_, readHeader_of_depicts h, build_eq_ok_iff.mpr ?_⟩, rfl, rfl, rfl⟩
  dsimp only
  rw [toInt_cap, hwidth, hheight, Int.toNat_natCast, Int.toNat_natCast]
  refine ⟨Int.natCast_pos.mpr h.width_pos, Int.natCast_pos.mpr h.height_pos,
    Int.ofNat_le.mpr h.within_limit, fun _ => h.within_cap, rfl, rfl, ⟨pixels, hsize⟩, ?_, rfl⟩
  exact takePixels_eq_ok_iff.mpr ⟨l.rest, by rw [h.pixels_eq]⟩

lemma layout_unique {l m : Layout} {cap cap' : Int} {width height width' height' : Nat}
    {pixels pixels' : Array UInt8} (hl : l.Depicts cap width height pixels)
    (hm : m.Depicts cap' width' height' pixels') (h : l.bytes = m.bytes) : l = m := by
  obtain ⟨hfields, hbytes⟩ := fields_unique h
  have hwidth : (width : Int) = width' :=
    spells_unique hl.announced.width_word (hfields ▸ hm.announced.width_word)
  have hheight : (height : Int) = height' :=
    spells_unique hl.announced.height_word (hfields ▸ hm.announced.height_word)
  have hlength : l.pixels.length = m.pixels.length := by
    rw [hl.size_pixels, hm.size_pixels, Int.ofNat_inj.mp hwidth, Int.ofNat_inj.mp hheight]
  obtain ⟨hpixels, hrest⟩ := List.append_inj hbytes hlength
  exact Layout.ext (congrArg Fields.magic hfields) (congrArg Fields.width hfields)
    (congrArg Fields.height hfields) (congrArg Fields.value hfields) hpixels hrest

/-- The reader returns an image exactly when the bytes can be cut into four proper fields, the
pixels of that image and any rest, within cap and buffer limit; and they can be cut so in one way. -/
theorem decode_grammar (bs : List UInt8) (maxPixels : Int64) :
    (∀ (width height : Nat) (pixels : Array UInt8),
      (∃ r, decode bs maxPixels = .ok r ∧
        r.width = width ∧ r.height = height ∧ r.pixels = some pixels) ↔
      ∃ l : Layout, l.bytes = bs ∧ l.Depicts (pixelCap maxPixels) width height pixels) ∧
    ∀ (l m : Layout) (cap cap' : Int) (width height width' height' : Nat)
      (pixels pixels' : Array UInt8), l.bytes = bs → m.bytes = bs →
      l.Depicts cap width height pixels → m.Depicts cap' width' height' pixels' → l = m := by
  refine ⟨fun width height pixels => ⟨?_, ?_⟩, ?_⟩
  · rintro ⟨r, hdecode, rfl, rfl, hpixels⟩
    obtain ⟨read, hread, hlayout⟩ := depicts_of_decode hdecode
    cases hpixels.symm.trans hread
    exact hlayout
  · rintro ⟨l, rfl, hdepicts⟩
    exact decode_of_depicts hdepicts
  · intro l m cap cap' width height width' height' pixels pixels' hl hm hdepicts hdepicts'
    exact layout_unique hdepicts hdepicts' (hl.trans hm.symm)

end EscapeTime.Proofs
